import Mathlib.Data.List.Infix
import JunosMcp.Lib.XmlTree

/-!
# Markup

XML as it is written, down to the white space inside the tags, with the text it stands for as
characters and as a tree. There are no CDATA sections and no document type declaration, and names
are not resolved: an attribute of a prefix is one of the whole name.
-/

namespace JunosMcp.Lib

/-- A character as it is written: itself, or a reference. -/
inductive Piece where
  | literal (c : Char)
  | reference (name : List Char) (c : Char)
deriving DecidableEq

structure WrittenAttribute where
  lead : List Char
  name : List Char
  beforeEquals : List Char
  afterEquals : List Char
  quote : Char
  value : List Piece
deriving DecidableEq

inductive Aside where
  | comment
  | instruction
deriving DecidableEq

/-- An element is closed by an end tag with this white space in it, or is an empty-element tag. -/
inductive Markup where
  | element (name : List Char) (attributes : List WrittenAttribute) (tail : List Char)
      (children : List Markup) (closing : Option (List Char))
  | chars (pieces : List Piece)
  | aside (kind : Aside) (content : List Char)

/-! ## The text -/

def Piece.render : Piece → List Char
  | .literal c => [c]
  | .reference name _ => '&' :: (name ++ [';'])

def renderPieces (pieces : List Piece) : List Char := pieces.flatMap Piece.render

def WrittenAttribute.render (a : WrittenAttribute) : List Char :=
  a.lead ++ (a.name ++ (a.beforeEquals ++ '=' :: (a.afterEquals ++
    a.quote :: (renderPieces a.value ++ [a.quote]))))

def renderAttributes (attributes : List WrittenAttribute) : List Char :=
  attributes.flatMap WrittenAttribute.render

def Aside.render : Aside → List Char → List Char
  | .comment, content => ['<', '!', '-', '-'] ++ (content ++ ['-', '-', '>'])
  | .instruction, content => ['<', '?'] ++ (content ++ ['?', '>'])

namespace Markup

mutual

def render : Markup → List Char
  | .element name attributes tail children closing =>
      '<' :: (name ++ (renderAttributes attributes ++ (tail ++ match closing with
        | none => ['/', '>']
        | some space => '>' :: (renderAll children ++ '<' :: '/' :: (name ++ (space ++ ['>']))))))
  | .chars pieces => renderPieces pieces
  | .aside kind content => kind.render content

def renderAll : List Markup → List Char
  | [] => []
  | m :: rest => m.render ++ renderAll rest

end

end Markup

/-! ## The tree -/

def Piece.char : Piece → Char
  | .literal c => c
  | .reference _ c => c

/-- The characters that are meant. A carriage return is a line feed, and nothing in front of one, and
`white` is applied to the characters that are written as themselves. -/
def decode (white : Char → Char) : List Piece → List Char
  | [] => []
  | .literal c :: rest =>
      if c = '\r' then
        if rest.head? = some (.literal '\n') then decode white rest
        else white '\n' :: decode white rest
      else white c :: decode white rest
  | .reference _ c :: rest => c :: decode white rest

/-- White space in an attribute value is read as a space. -/
def attributeSpace (c : Char) : Char := if c = '\t' ∨ c = '\n' then ' ' else c

def WrittenAttribute.meaning (a : WrittenAttribute) : XmlAttribute :=
  ⟨none, a.name, decode attributeSpace a.value⟩

namespace Markup

mutual

def tree : Markup → XmlNode
  | .element name attributes _ children _ =>
      .element name (attributes.map WrittenAttribute.meaning) (trees children)
  | .chars pieces => .text (decode id pieces)
  | .aside .. => .comment

def trees : List Markup → List XmlNode
  | [] => []
  | m :: rest => m.tree :: trees rest

end

end Markup

/-! ## Well-formed markup -/

def isXmlSpace (c : Char) : Bool := c == ' ' || c == '\t' || c == '\r' || c == '\n'

def isXmlChar (c : Char) : Bool :=
  c == '\t' || c == '\n' || c == '\r' ||
    (0x20 ≤ c.toNat && c.toNat ≠ 0xFFFE && c.toNat ≠ 0xFFFF)

def inRanges (ranges : List (Nat × Nat)) (c : Char) : Bool :=
  ranges.any fun range => range.1 ≤ c.toNat && c.toNat ≤ range.2

def isNameStart (c : Char) : Bool :=
  c.isAlpha || c == '_' || c == ':' || inRanges [(0xC0, 0xD6), (0xD8, 0xF6), (0xF8, 0x2FF),
    (0x370, 0x37D), (0x37F, 0x1FFF), (0x200C, 0x200D), (0x2070, 0x218F), (0x2C00, 0x2FEF),
    (0x3001, 0xD7FF), (0xF900, 0xFDCF), (0xFDF0, 0xFFFD), (0x10000, 0xEFFFF)] c

def isNameChar (c : Char) : Bool :=
  isNameStart c || c.isDigit || c == '-' || c == '.' ||
    inRanges [(0xB7, 0xB7), (0x300, 0x36F), (0x203F, 0x2040)] c

def isName : List Char → Bool
  | [] => false
  | c :: rest => isNameStart c && rest.all isNameChar

def predefined : List (List Char × Char) :=
  [("lt".toList, '<'), ("gt".toList, '>'), ("amp".toList, '&'),
    ("apos".toList, Char.ofNat 39), ("quot".toList, '"')]

def digitValue (c : Char) : Nat :=
  if c.isDigit then c.toNat - 48 else if c.isLower then c.toNat - 87 else c.toNat - 55

def numberIn (base : Nat) (digits : List Char) : Nat :=
  digits.foldl (fun n d => base * n + digitValue d) 0

def isHexDigit (c : Char) : Bool :=
  c.isDigit || ('a' ≤ c && c ≤ 'f') || ('A' ≤ c && c ≤ 'F')

/-- What a reference may be called. -/
def refersTo : List Char → Char → Bool
  | '#' :: 'x' :: digits, c =>
      !digits.isEmpty && digits.all isHexDigit && numberIn 16 digits == c.toNat
  | '#' :: digits, c => !digits.isEmpty && digits.all Char.isDigit && numberIn 10 digits == c.toNat
  | name, c => predefined.contains (name, c)

theorem isHexDigit_isAlphanum {c : Char} (digit : isHexDigit c = true) : c.isAlphanum = true := by
  simp only [isHexDigit, Bool.or_eq_true, Bool.and_eq_true, decide_eq_true_eq, Char.le_def,
    UInt32.le_iff_toNat_le] at digit
  have shape : c.isAlphanum = (decide ('A'.val ≤ c.val ∧ c.val ≤ 'Z'.val) ||
      decide ('a'.val ≤ c.val) && decide (c.val ≤ 'z'.val) || c.isDigit) := rfl
  simp only [shape, Bool.or_eq_true, Bool.and_eq_true, decide_eq_true_eq, UInt32.le_iff_toNat_le]
  have lower : 'f'.val.toNat ≤ 'z'.val.toNat := by decide
  have upper : 'F'.val.toNat ≤ 'Z'.val.toNat := by decide
  rcases digit with (digit | ⟨low, high⟩) | ⟨low, high⟩
  · exact .inr digit
  · exact .inl (.inr ⟨low, high.trans lower⟩)
  · exact .inl (.inl ⟨low, high.trans upper⟩)

theorem refersTo_chars {name : List Char} {c : Char} (refers : refersTo name c = true) :
    ∀ d ∈ name, d.isAlphanum = true ∨ d = '#' := by
  unfold refersTo at refers
  split at refers
  · simp only [Bool.and_eq_true, List.all_eq_true] at refers
    obtain ⟨⟨-, digits⟩, -⟩ := refers
    intro d mem
    simp only [List.mem_cons] at mem
    rcases mem with rfl | rfl | mem
    · exact .inr rfl
    · exact .inl (by decide)
    · exact .inl (isHexDigit_isAlphanum (digits d mem))
  · simp only [Bool.and_eq_true, List.all_eq_true] at refers
    obtain ⟨⟨-, digits⟩, -⟩ := refers
    intro d mem
    rcases List.mem_cons.mp mem with rfl | mem
    · exact .inr rfl
    · exact .inl (by simp [Char.isAlphanum, digits d mem])
  · have each : ∀ pair ∈ predefined, pair.1.all Char.isAlphanum = true := by decide
    intro d mem
    exact .inl (List.all_eq_true.mp (each _ (List.contains_iff_mem.mp refers)) d mem)

/-- A piece that may stand where these characters have to be escaped. -/
def Piece.isWellFormed (escaped : List Char) : Piece → Bool
  | .literal c => isXmlChar c && !escaped.contains c
  | .reference name c => isXmlChar c && refersTo name c

structure WrittenAttribute.WellFormed (a : WrittenAttribute) : Prop where
  lead : a.lead ≠ []
  spaces : ∀ c ∈ a.lead ++ a.beforeEquals ++ a.afterEquals, isXmlSpace c = true
  name : isName a.name = true
  quote : a.quote = '"' ∨ a.quote = Char.ofNat 39
  value : ∀ piece ∈ a.value, piece.isWellFormed ['<', '&', a.quote] = true

structure WellFormedChars (pieces : List Piece) : Prop where
  nonempty : pieces ≠ []
  each : ∀ piece ∈ pieces, piece.isWellFormed ['<', '&'] = true
  open_ended : ¬[']', ']', '>'] <:+: renderPieces pieces

def Aside.WellFormed : Aside → List Char → Prop
  | .comment, content => (∀ c ∈ content, isXmlChar c = true) ∧
      ¬['-', '-'] <:+: content ∧ content.getLast? ≠ some '-'
  | .instruction, content => (∀ c ∈ content, isXmlChar c = true) ∧
      ¬['?', '>'] <:+: content ∧ (content.head?.all isNameStart) = true ∧ content ≠ []

structure WellFormedTags (name : List Char) (attributes : List WrittenAttribute)
    (tail : List Char) (closing : Option (List Char)) : Prop where
  named : isName name = true
  each : ∀ a ∈ attributes, a.WellFormed
  distinct : (attributes.map WrittenAttribute.name).Nodup
  spaces : ∀ c ∈ tail ++ closing.getD [], isXmlSpace c = true

namespace Markup

def isChars : Markup → Bool
  | .chars _ => true
  | _ => false

def isElement : Markup → Bool
  | .element .. => true
  | _ => false

mutual

def WellFormed : Markup → Prop
  | .element name attributes tail children closing =>
      WellFormedTags name attributes tail closing ∧ WellFormedContent children ∧
        (closing = none → children = [])
  | .chars pieces => WellFormedChars pieces
  | .aside kind content => kind.WellFormed content

/-- Characters are taken together as far as they go. -/
def WellFormedContent : List Markup → Prop
  | [] => True
  | m :: rest => m.WellFormed ∧ WellFormedContent rest ∧
      (m.isChars = true → (rest.head?.any isChars) = false)

end

/-- One element, with white space and asides around it. -/
structure WellFormedDocument (document : List Markup) : Prop where
  content : WellFormedContent document
  root : (document.filter isElement).length = 1
  around : ∀ m ∈ document, ∀ pieces, m = .chars pieces →
    ∀ piece ∈ pieces, ∃ c, piece = .literal c ∧ isXmlSpace c = true

end Markup

end JunosMcp.Lib
