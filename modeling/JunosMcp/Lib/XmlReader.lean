import JunosMcp.Lib.Markup
import Mathlib.Data.List.TakeWhile

/-!
# A reader of markup

A reader of one element and what is in it. Whatever is well formed is read as the tree it stands for.
-/

namespace JunosMcp.Lib

/-! ## The reader -/

/-- What is left behind the first occurrence of a text. -/
def behind (needle : List Char) : List Char → Option (List Char)
  | [] => none
  | c :: rest =>
      if needle.isPrefixOf (c :: rest) then some ((c :: rest).drop needle.length)
      else behind needle rest

def referenceChar (name : List Char) : Option Char :=
  match name with
  | '#' :: 'x' :: digits => some (Char.ofNat (numberIn 16 digits))
  | '#' :: digits => some (Char.ofNat (numberIn 10 digits))
  | _ => (predefined.find? fun entry => entry.1 = name).map Prod.snd

/-- Up to one of the stops; what has been read of a reference is kept. -/
def readPieces (stops : List Char) : Option (List Char) → List Char → Option (List Piece × List Char)
  | none, [] => some ([], [])
  | some _, [] => none
  | none, c :: rest =>
      if stops.contains c then some ([], c :: rest)
      else if c = '&' then readPieces stops (some []) rest
      else (readPieces stops none rest).map fun read => (.literal c :: read.1, read.2)
  | some name, c :: rest =>
      if c = ';' then (referenceChar name).bind fun meant =>
        (readPieces stops none rest).map fun read => (.reference name meant :: read.1, read.2)
      else readPieces stops (some (name ++ [c])) rest

/-- The value between the quotes, and what is behind the second. -/
def readValue : List Char → Option (List Char × List Char)
  | [] => none
  | quote :: rest =>
      if quote = '"' ∨ quote = Char.ofNat 39 then
        (readPieces [quote] none rest).bind fun read =>
          if read.2 = [] then none else some (decode attributeSpace read.1, read.2.tail)
      else none

def readAttributes : Nat → List Char → Option (List XmlAttribute × List Char)
  | 0, _ => none
  | fuel + 1, s =>
      let s := s.dropWhile isXmlSpace
      if s.head? = some '>' ∨ s.head? = some '/' then some ([], s)
      else
        let afterName := (s.dropWhile isNameChar).dropWhile isXmlSpace
        if isName (s.takeWhile isNameChar) = true ∧ afterName.head? = some '=' then
          (readValue (afterName.tail.dropWhile isXmlSpace)).bind fun value =>
          (readAttributes fuel value.2).map fun read =>
            (⟨none, s.takeWhile isNameChar, value.1⟩ :: read.1, read.2)
        else none

def readEndTag (name s : List Char) : Option (List Char) :=
  let s := s.drop 2
  let afterName := (s.dropWhile isNameChar).dropWhile isXmlSpace
  if s.takeWhile isNameChar = name ∧ afterName.head? = some '>' then some afterName.tail else none

/-- Up to an end tag, or the end. -/
def readContent : Nat → List Char → Option (List XmlNode × List Char)
  | 0, _ => none
  | _ + 1, [] => some ([], [])
  | fuel + 1, c :: rest =>
      if c ≠ '<' then
        (readPieces ['<'] none (c :: rest)).bind fun text =>
        (readContent fuel text.2).map fun read => (.text (decode id text.1) :: read.1, read.2)
      else if rest.head? = some '/' then some ([], c :: rest)
      else if ['!', '-', '-'] <+: rest then
        (behind ['-', '-', '>'] (rest.drop 3)).bind fun rest =>
        (readContent fuel rest).map fun read => (.comment :: read.1, read.2)
      else if rest.head? = some '?' then
        (behind ['?', '>'] rest.tail).bind fun rest =>
        (readContent fuel rest).map fun read => (.comment :: read.1, read.2)
      else
        let name := rest.takeWhile isNameChar
        (readAttributes rest.length (rest.dropWhile isNameChar)).bind fun tag =>
        if tag.2.head? = some '/' then
          (readContent fuel (tag.2.drop 2)).map fun read =>
            (.element name tag.1 [] :: read.1, read.2)
        else
          (readContent fuel tag.2.tail).bind fun content =>
          (readEndTag name content.2).bind fun rest =>
          (readContent fuel rest).map fun read =>
            (.element name tag.1 content.1 :: read.1, read.2)

/-- One element and nothing else. -/
def readMarkup (s : List Char) : Option XmlDocument :=
  (readContent (s.length + 1) s).bind fun read =>
    if read.2 = [] ∧ read.1.length = 1 ∧ read.1.all XmlNode.isElement then some read.1 else none

/-! ## Characters and references -/

theorem behind_append {needle rest : List Char} (nonempty : needle ≠ []) :
    ∀ {content : List Char}, (∀ t, t ≠ [] → t <:+ content → ¬needle <+: t ++ (needle ++ rest)) →
      behind needle (content ++ (needle ++ rest)) = some rest
  | [], _ => by
      obtain ⟨c, needle, rfl⟩ := List.exists_cons_of_ne_nil nonempty
      rw [List.nil_append, List.cons_append, behind, if_pos]
      · rw [← List.cons_append, List.drop_left]
      · simp
  | c :: content, clear => by
      have here := clear (c :: content) (List.cons_ne_nil _ _) (List.suffix_refl _)
      rw [List.cons_append, behind, if_neg]
      · exact behind_append nonempty fun t some suffix =>
          clear t some (suffix.trans (List.suffix_cons c content))
      · rw [List.isPrefixOf_iff_prefix]
        exact here

theorem referenceChar_of_refersTo {name : List Char} {c : Char} (refers : refersTo name c = true) :
    referenceChar name = some c := by
  unfold refersTo at refers
  split at refers
  · next digits _ =>
      simp only [Bool.and_eq_true, beq_iff_eq] at refers
      rw [referenceChar, refers.2, Char.ofNat_toNat]
  · next digits _ other =>
      simp only [Bool.and_eq_true, beq_iff_eq] at refers
      unfold referenceChar
      split
      · next digits' same =>
          cases same
          exact (other _ rfl).elim
      · next digits' _ same =>
          cases same
          rw [refers.2, Char.ofNat_toNat]
      · next _ other' => exact (other' _ rfl).elim
  · next noHex noDecimal =>
      have each : ∀ entry ∈ predefined, predefined.find? (fun other => other.1 = entry.1) = some entry := by
        decide
      have member := each _ (List.contains_iff_mem.mp refers)
      unfold referenceChar
      split
      · exact (noHex _ rfl).elim
      · exact (noDecimal _ rfl).elim
      · rw [member]
        rfl

theorem readPieces_reference {stops name rest : List Char} {front : List Char}
    (plain : ∀ c ∈ name, c ≠ ';') :
    readPieces stops (some front) (name ++ ';' :: rest) =
      (referenceChar (front ++ name)).bind fun meant =>
        (readPieces stops none rest).map fun read =>
          (.reference (front ++ name) meant :: read.1, read.2) := by
  induction name generalizing front with
  | nil => rw [List.nil_append, List.append_nil, readPieces, if_pos rfl]
  | cons c name ih =>
      rw [List.cons_append, readPieces, if_neg (plain c List.mem_cons_self),
        ih fun d mem => plain d (List.mem_cons_of_mem c mem), List.append_assoc, List.cons_append,
        List.nil_append]

theorem reference_plain {name : List Char} {c : Char} (refers : refersTo name c = true) :
    ∀ d ∈ name, d ≠ ';' := by
  rintro d mem rfl
  have shape := refersTo_chars refers _ mem
  revert shape
  decide

/-- What stops the reading of characters, or the end. -/
def Stopped (stops rest : List Char) : Prop := ∀ c, rest.head? = some c → c ∈ stops

theorem readPieces_stopped {stops rest : List Char} (stopped : Stopped stops rest) :
    readPieces stops none rest = some ([], rest) := by
  cases rest with
  | nil => rfl
  | cons c rest => rw [readPieces, if_pos (List.contains_iff_mem.mpr (stopped c rfl))]

theorem readPieces_render {stops escaped rest : List Char} (ends : Stopped stops rest)
    (within : ∀ c ∈ stops, c ∈ escaped) (ampersand : '&' ∈ escaped) (opens : '&' ∉ stops)
    {pieces : List Piece} (formed : ∀ piece ∈ pieces, piece.isWellFormed escaped = true) :
    readPieces stops none (renderPieces pieces ++ rest) = some (pieces, rest) := by
  induction pieces with
  | nil => exact readPieces_stopped ends
  | cons piece pieces ih =>
      have later := ih fun other mem => formed other (List.mem_cons_of_mem piece mem)
      have here := formed piece List.mem_cons_self
      rw [renderPieces, List.flatMap_cons, List.append_assoc, ← renderPieces]
      cases piece with
      | literal c =>
          simp only [Piece.isWellFormed, Bool.and_eq_true, Bool.not_eq_true', List.contains_eq_mem,
            decide_eq_false_iff_not] at here
          have unstopped : stops.contains c = false := by
            rw [List.contains_eq_mem, decide_eq_false_iff_not]
            exact fun mem => here.2 (within c mem)
          have plain : c ≠ '&' := fun same => here.2 (same ▸ ampersand)
          rw [Piece.render, List.cons_append, List.nil_append, readPieces, unstopped, if_neg plain,
            later]
          rfl
      | reference name c =>
          simp only [Piece.isWellFormed, Bool.and_eq_true] at here
          have unstopped : stops.contains '&' = false := by
            rw [List.contains_eq_mem, decide_eq_false_iff_not]
            exact opens
          rw [Piece.render, List.cons_append, readPieces, unstopped, if_neg Bool.false_ne_true,
            if_pos rfl, List.append_assoc, List.cons_append, List.nil_append,
            readPieces_reference (reference_plain here.2), List.nil_append,
            referenceChar_of_refersTo here.2, later]
          rfl

/-! ## Tags -/

theorem dropWhile_front {p : Char → Bool} {front rest : List Char} (each : ∀ c ∈ front, p c = true)
    (stop : ∀ c, rest.head? = some c → p c = false) : (front ++ rest).dropWhile p = rest := by
  rw [List.dropWhile_append_of_pos each]
  cases rest with
  | nil => rfl
  | cons c rest => rw [List.dropWhile_cons_of_neg (by rw [stop c rfl]; exact Bool.false_ne_true)]

theorem takeWhile_front {p : Char → Bool} {front rest : List Char} (each : ∀ c ∈ front, p c = true)
    (stop : ∀ c, rest.head? = some c → p c = false) : (front ++ rest).takeWhile p = front := by
  rw [List.takeWhile_append_of_pos each]
  cases rest with
  | nil => rw [List.takeWhile_nil, List.append_nil]
  | cons c rest =>
      rw [List.takeWhile_cons_of_neg (by rw [stop c rfl]; exact Bool.false_ne_true), List.append_nil]

theorem nameChars {name : List Char} (named : isName name = true) :
    ∀ c ∈ name, isNameChar c = true := by
  cases name with
  | nil => cases named
  | cons d name =>
      rw [isName, Bool.and_eq_true, List.all_eq_true] at named
      intro c mem
      rcases List.mem_cons.mp mem with rfl | mem
      · rw [isNameChar, named.1]
        rfl
      · exact named.2 c mem

theorem space_not_nameChar {c : Char} (space : isXmlSpace c = true) : isNameChar c = false := by
  simp only [isXmlSpace, Bool.or_eq_true, beq_iff_eq] at space
  rcases space with ((rfl | rfl) | rfl) | rfl <;> decide

/-- The rest does not go on with a name. -/
def Unnamed (rest : List Char) : Prop := ∀ c, rest.head? = some c → isNameChar c = false

/-- The rest does not go on with white space. -/
def Unspaced (rest : List Char) : Prop := ∀ c, rest.head? = some c → isXmlSpace c = false

theorem unnamed_spaces {space rest : List Char} (spaces : ∀ c ∈ space, isXmlSpace c = true)
    (unnamed : Unnamed rest) : Unnamed (space ++ rest) := by
  cases space with
  | nil => exact unnamed
  | cons d space =>
      rintro c ⟨⟩
      exact space_not_nameChar (spaces d List.mem_cons_self)

theorem unspaced_name {name rest : List Char} (named : isName name = true) :
    Unspaced (name ++ rest) := by
  cases name with
  | nil => cases named
  | cons d name =>
      rintro c ⟨⟩
      cases found : isXmlSpace d with
      | false => rfl
      | true =>
          have plain := nameChars named d List.mem_cons_self
          rw [space_not_nameChar found] at plain
          cases plain

theorem readValue_render {a : WrittenAttribute} (formed : a.WellFormed) (rest : List Char) :
    readValue (a.quote :: (renderPieces a.value ++ a.quote :: rest)) =
      some (decode attributeSpace a.value, rest) := by
  have read : readPieces [a.quote] none (renderPieces a.value ++ a.quote :: rest) =
      some (a.value, a.quote :: rest) := by
    refine readPieces_render ?_ ?_ ?_ ?_ formed.value
    · rintro c ⟨⟩
      exact List.mem_singleton_self _
    · intro c mem
      obtain rfl := List.mem_singleton.mp mem
      simp
    · simp
    · rcases formed.quote with same | same <;> rw [same] <;> decide
  rw [readValue, if_pos formed.quote, read]
  rfl

/-- The tag is at its end. -/
structure TagEnd (rest : List Char) : Prop where
  ends : rest.head? = some '>' ∨ rest.head? = some '/'

theorem TagEnd.unspaced {rest : List Char} (tagEnd : TagEnd rest) : Unspaced rest := by
  intro c here
  rcases tagEnd.ends with ends | ends <;> · rw [ends] at here; cases here; decide

theorem TagEnd.unnamed {rest : List Char} (tagEnd : TagEnd rest) : Unnamed rest := by
  intro c here
  rcases tagEnd.ends with ends | ends <;> · rw [ends] at here; cases here; decide

theorem readAttributes_render {attributes : List WrittenAttribute} {tail rest : List Char}
    (formed : ∀ a ∈ attributes, a.WellFormed) (spaces : ∀ c ∈ tail, isXmlSpace c = true)
    (tagEnd : TagEnd rest) {fuel : Nat} (enough : attributes.length < fuel) :
    readAttributes fuel (renderAttributes attributes ++ (tail ++ rest)) =
      some (attributes.map WrittenAttribute.meaning, rest) := by
  induction attributes generalizing fuel with
  | nil =>
      obtain ⟨fuel, rfl⟩ := Nat.exists_eq_succ_of_ne_zero (Nat.ne_of_gt enough)
      have skipped := dropWhile_front spaces tagEnd.unspaced
      rw [renderAttributes, List.flatMap_nil, List.nil_append, readAttributes]
      dsimp only
      rw [skipped, if_pos tagEnd.ends]
      rfl
  | cons a attributes ih =>
      obtain ⟨fuel, rfl⟩ := Nat.exists_eq_succ_of_ne_zero (Nat.ne_of_gt (Nat.zero_lt_of_lt enough))
      have here := formed a List.mem_cons_self
      have later := ih (fun other mem => formed other (List.mem_cons_of_mem a mem))
        (Nat.lt_of_succ_lt_succ enough)
      have lead : ∀ c ∈ a.lead, isXmlSpace c = true := fun c mem => here.spaces c (by simp [mem])
      have before : ∀ c ∈ a.beforeEquals, isXmlSpace c = true := fun c mem =>
        here.spaces c (by simp [mem])
      have after : ∀ c ∈ a.afterEquals, isXmlSpace c = true := fun c mem =>
        here.spaces c (by simp [mem])
      set others := renderAttributes attributes ++ (tail ++ rest) with isOthers
      set value := a.quote :: (renderPieces a.value ++ a.quote :: others) with isValue
      set afterName := '=' :: (a.afterEquals ++ value) with isAfterName
      have shape : renderAttributes (a :: attributes) ++ (tail ++ rest) =
          a.lead ++ (a.name ++ (a.beforeEquals ++ afterName)) := by
        simp [renderAttributes, WrittenAttribute.render, isOthers, isValue, isAfterName]
      have equals : Unnamed afterName := by
        rintro c ⟨⟩
        decide
      have unequal : Unspaced afterName := by
        rintro c ⟨⟩
        decide
      have quoted : Unspaced value := by
        rintro c ⟨⟩
        rcases here.quote with same | same <;> rw [same] <;> decide
      have stop := unnamed_spaces before equals
      have goesOn : ¬((a.name ++ (a.beforeEquals ++ afterName)).head? = some '>' ∨
          (a.name ++ (a.beforeEquals ++ afterName)).head? = some '/') := by
        obtain ⟨d, name, same⟩ := List.exists_cons_of_ne_nil (l := a.name) (by
          intro none
          have named := here.name
          rw [none] at named
          cases named)
        have plain := nameChars here.name d (same ▸ List.mem_cons_self)
        rw [same]
        rintro (ends | ends) <;> · cases ends; revert plain; decide
      rw [shape, readAttributes]
      dsimp only
      rw [dropWhile_front lead (unspaced_name here.name), if_neg goesOn,
        takeWhile_front (nameChars here.name) stop, dropWhile_front (nameChars here.name) stop,
        dropWhile_front before unequal, if_pos ⟨here.name, rfl⟩, isAfterName, List.tail_cons,
        dropWhile_front after quoted, isValue, readValue_render here,
        Option.bind_some, later]
      rfl

theorem length_renderAttributes (attributes : List WrittenAttribute) :
    attributes.length ≤ (renderAttributes attributes).length := by
  induction attributes with
  | nil => exact Nat.zero_le _
  | cons a attributes ih =>
      rw [renderAttributes, List.flatMap_cons, ← renderAttributes, List.length_append, List.length_cons]
      have some : 1 ≤ a.render.length := by
        simp only [WrittenAttribute.render, List.length_append, List.length_cons]
        omega
      omega

theorem unnamed_attributes {attributes : List WrittenAttribute} {tail rest : List Char}
    (formed : ∀ a ∈ attributes, a.WellFormed) (spaces : ∀ c ∈ tail, isXmlSpace c = true)
    (tagEnd : TagEnd rest) : Unnamed (renderAttributes attributes ++ (tail ++ rest)) := by
  cases attributes with
  | nil =>
      rw [renderAttributes, List.flatMap_nil, List.nil_append]
      exact unnamed_spaces spaces tagEnd.unnamed
  | cons a attributes =>
      have here := formed a List.mem_cons_self
      obtain ⟨c, lead, same⟩ := List.exists_cons_of_ne_nil here.lead
      have space : isXmlSpace c = true := here.spaces c (by simp [same])
      rw [renderAttributes, List.flatMap_cons, WrittenAttribute.render, same]
      rintro d ⟨⟩
      exact space_not_nameChar space

theorem readEndTag_render {name space rest : List Char} (named : isName name = true)
    (spaces : ∀ c ∈ space, isXmlSpace c = true) :
    readEndTag name ('<' :: '/' :: (name ++ (space ++ ['>'] ++ rest))) = some rest := by
  have closes : Unspaced ('>' :: rest) := by
    rintro c ⟨⟩
    decide
  have unnamed : Unnamed ('>' :: rest) := by
    rintro c ⟨⟩
    decide
  have stop := unnamed_spaces spaces unnamed
  have whole := takeWhile_front (nameChars named) stop
  have behindName := dropWhile_front (nameChars named) stop
  simp only [readEndTag, List.append_assoc, List.cons_append, List.nil_append, List.drop_succ_cons,
    List.drop_zero, whole, behindName, dropWhile_front spaces closes, List.head?_cons, and_self,
    if_true, List.tail_cons]

/-! ## Comments and processing instructions -/

/-- A text of two characters or more that starts with a needle contains it. -/
theorem infix_of_suffix {needle t content rest : List Char} (within : t <:+ content)
    (long : needle.length ≤ t.length) (starts : needle <+: t ++ rest) : needle <:+: content := by
  have inside : needle <+: t := List.prefix_of_prefix_length_le starts (List.prefix_append t rest) long
  exact inside.isInfix.trans within.isInfix

theorem behind_comment {content rest : List Char} (formed : Aside.WellFormed .comment content) :
    behind ['-', '-', '>'] (content ++ (['-', '-', '>'] ++ rest)) = some rest := by
  obtain ⟨-, clear, ends⟩ := formed
  refine behind_append (List.cons_ne_nil _ _) fun t some within starts => ?_
  have twice : ['-', '-'] <+: t ++ (['-', '-', '>'] ++ rest) :=
    (List.prefix_append ['-', '-'] ['>']).trans starts
  rcases Nat.lt_or_ge t.length 2 with short | long
  · obtain ⟨c, rfl⟩ := List.length_eq_one_iff.mp
      (Nat.le_antisymm (Nat.le_of_lt_succ short) (List.length_pos_of_ne_nil some))
    obtain ⟨front, rfl⟩ := within
    obtain ⟨_, same⟩ := twice
    cases same
    exact ends List.getLast?_concat
  · exact clear (infix_of_suffix within long twice)

theorem behind_instruction {content rest : List Char}
    (formed : Aside.WellFormed .instruction content) :
    behind ['?', '>'] (content ++ (['?', '>'] ++ rest)) = some rest := by
  obtain ⟨-, clear, -⟩ := formed
  refine behind_append (List.cons_ne_nil _ _) fun t some within starts => ?_
  rcases Nat.lt_or_ge t.length 2 with short | long
  · obtain ⟨c, rfl⟩ := List.length_eq_one_iff.mp
      (Nat.le_antisymm (Nat.le_of_lt_succ short) (List.length_pos_of_ne_nil some))
    obtain ⟨_, same⟩ := starts
    cases same
  · exact clear (infix_of_suffix within long starts)

/-! ## Content -/

theorem render_chars_head {pieces : List Piece} (formed : WellFormedChars pieces) :
    ∃ c rest, renderPieces pieces = c :: rest ∧ c ≠ '<' := by
  obtain ⟨piece, pieces, rfl⟩ := List.exists_cons_of_ne_nil formed.nonempty
  have here := formed.each piece List.mem_cons_self
  cases piece with
  | literal c =>
      simp only [Piece.isWellFormed, Bool.and_eq_true, Bool.not_eq_true', List.contains_eq_mem,
        decide_eq_false_iff_not] at here
      refine ⟨c, renderPieces pieces, rfl, fun same => here.2 ?_⟩
      rw [same]
      exact List.mem_cons_self
  | reference name c => exact ⟨'&', _, rfl, by decide⟩

theorem readContent_chars {pieces : List Piece} (formed : WellFormedChars pieces)
    {rest left : List Char} {nodes : List XmlNode} {fuel : Nat} (ends : Stopped ['<'] rest)
    (later : readContent fuel rest = some (nodes, left)) :
    readContent (fuel + 1) (renderPieces pieces ++ rest) =
      some (.text (decode id pieces) :: nodes, left) := by
  obtain ⟨c, shown, same, text⟩ := render_chars_head formed
  have read : readPieces ['<'] none (renderPieces pieces ++ rest) = some (pieces, rest) :=
    readPieces_render ends (by simp) (by decide) (by decide) formed.each
  rw [same, List.cons_append] at read ⊢
  rw [readContent, if_pos text, read]
  simp only [Option.bind_some, later, Option.map_some]

theorem readContent_aside {kind : Aside} {content : List Char} (formed : kind.WellFormed content)
    {rest left : List Char} {nodes : List XmlNode} {fuel : Nat}
    (later : readContent fuel rest = some (nodes, left)) :
    readContent (fuel + 1) (kind.render content ++ rest) = some (.comment :: nodes, left) := by
  cases kind with
  | comment =>
      have skipped : behind ['-', '-', '>'] (content ++ (['-', '-', '>'] ++ rest)) = some rest :=
        behind_comment formed
      rw [Aside.render]
      simp only [List.cons_append, List.nil_append, List.append_assoc] at skipped ⊢
      simp [readContent, skipped, later]
  | instruction =>
      have skipped : behind ['?', '>'] (content ++ (['?', '>'] ++ rest)) = some rest :=
        behind_instruction formed
      rw [Aside.render]
      simp only [List.cons_append, List.nil_append, List.append_assoc] at skipped ⊢
      simp [readContent, skipped, later]

/-- What may follow content: an end tag, or nothing. -/
def Closed (rest : List Char) : Prop := rest = [] ∨ ∃ behind, rest = '<' :: '/' :: behind

theorem readContent_closed {rest : List Char} (closed : Closed rest) (fuel : Nat) :
    readContent (fuel + 1) rest = some ([], rest) := by
  rcases closed with rfl | ⟨behind, rfl⟩
  · rfl
  · simp [readContent]

namespace Markup

variable {name tail : List Char} {attributes : List WrittenAttribute} {closing : Option (List Char)}

/-- The name and the attributes, from behind the `<`. -/
theorem readContent_startTag (tags : WellFormedTags name attributes tail closing)
    {rest : List Char} (tagEnd : TagEnd rest) (fuel : Nat) :
    readContent (fuel + 1) ('<' :: (name ++ (renderAttributes attributes ++ (tail ++ rest)))) =
      if rest.head? = some '/' then
        (readContent fuel (rest.drop 2)).map fun read =>
          (.element name (attributes.map WrittenAttribute.meaning) [] :: read.1, read.2)
      else
        (readContent fuel rest.tail).bind fun content =>
        (readEndTag name content.2).bind fun rest =>
        (readContent fuel rest).map fun read =>
          (.element name (attributes.map WrittenAttribute.meaning) content.1 :: read.1, read.2) := by
  obtain ⟨c, name, rfl⟩ := List.exists_cons_of_ne_nil (l := name) (by
    rintro rfl
    cases tags.named)
  have spaces : ∀ d ∈ tail, isXmlSpace d = true := fun d mem => tags.spaces d (by simp [mem])
  have unnamed := unnamed_attributes tags.each spaces tagEnd
  have enough : attributes.length <
      (c :: (name ++ (renderAttributes attributes ++ (tail ++ rest)))).length := by
    have some := length_renderAttributes attributes
    simp only [List.length_cons, List.length_append]
    omega
  have read := readAttributes_render tags.each spaces tagEnd enough
  have whole := takeWhile_front (nameChars tags.named) unnamed
  have behindName := dropWhile_front (nameChars tags.named) unnamed
  have starts : isNameStart c = true := by
    have named := tags.named
    rw [isName, Bool.and_eq_true] at named
    exact named.1
  have others : c ≠ '/' ∧ c ≠ '!' ∧ c ≠ '?' := by
    refine ⟨?_, ?_, ?_⟩ <;> · rintro rfl; revert starts; decide
  rw [List.cons_append] at whole behindName
  rw [List.cons_append, readContent]
  simp only [ne_eq, not_true_eq_false, if_false, List.head?_cons, Option.some.injEq, others,
    List.cons_prefix_cons, Ne.symm others.2.1, false_and, whole, behindName, read, Option.bind_some]

theorem length_render_pos {m : Markup} (formed : m.WellFormed) : 0 < m.render.length := by
  cases m with
  | element name attributes tail children closing =>
      cases closing <;> · rw [render]; exact Nat.succ_pos _
  | chars pieces =>
      obtain ⟨c, rest, same, -⟩ := render_chars_head formed
      rw [render, same]
      exact Nat.succ_pos _
  | aside kind content =>
      rw [render]
      cases kind <;> simp [Aside.render]

/-- Characters go as far as the next markup. -/
theorem stopped_renderAll {ms : List Markup} (formed : WellFormedContent ms)
    (apart : (ms.head?.any isChars) = false) {rest : List Char} (closed : Closed rest) :
    Stopped ['<'] (renderAll ms ++ rest) := by
  cases ms with
  | nil =>
      rw [renderAll, List.nil_append]
      rcases closed with rfl | ⟨behind, rfl⟩
      · rintro c ⟨⟩
      · rintro c ⟨⟩
        exact List.mem_singleton_self _
  | cons m ms =>
      rw [renderAll, List.append_assoc]
      cases m with
      | element name attributes tail children closing =>
          cases closing <;> · rw [render]; rintro c ⟨⟩; exact List.mem_singleton_self _
      | chars pieces => cases apart
      | aside kind content =>
          rw [render]
          cases kind <;> · rintro c ⟨⟩; exact List.mem_singleton_self _

mutual

theorem readContent_node : ∀ {m : Markup} {rest left : List Char} {nodes : List XmlNode} {fuel : Nat},
    m.WellFormed → (m.isChars = true → Stopped ['<'] rest) → m.render.length ≤ fuel →
      readContent fuel rest = some (nodes, left) →
      readContent (fuel + 1) (m.render ++ rest) = some (m.tree :: nodes, left)
  | .chars pieces, rest, left, nodes, fuel, formed, stopped, _, later => by
      rw [render, tree]
      exact readContent_chars formed (stopped rfl) later
  | .aside kind content, rest, left, nodes, fuel, formed, _, _, later => by
      rw [render, tree]
      exact readContent_aside formed later
  | .element name attributes tail children closing, rest, left, nodes, fuel, formed, _, enough,
      later => by
      obtain ⟨tags, content, open_ended⟩ := formed
      rw [tree]
      cases closing with
      | none =>
          rw [render]
          obtain rfl := open_ended rfl
          have ends : TagEnd ('/' :: '>' :: rest) := ⟨.inr rfl⟩
          have starts := readContent_startTag tags ends fuel
          simp only [List.cons_append, List.append_assoc, List.nil_append] at starts ⊢
          rw [starts, if_pos List.head?_cons]
          simp only [List.drop_succ_cons, List.drop_zero, later, Option.map_some, trees]
      | some space =>
          rw [render] at enough ⊢
          let behindTag := '<' :: '/' :: (name ++ (space ++ ['>'] ++ rest))
          have ends : TagEnd ('>' :: (renderAll children ++ behindTag)) := ⟨.inl rfl⟩
          have starts := readContent_startTag tags ends fuel
          have closed : Closed behindTag := .inr ⟨_, rfl⟩
          have room : (renderAll children).length < fuel := by
            simp only [List.length_cons, List.length_append] at enough
            omega
          have inside := readContent_all content closed room
          have spaces : ∀ c ∈ space, isXmlSpace c = true := fun c mem =>
            tags.spaces c (by simp [mem])
          have closes : readEndTag name behindTag = some rest := readEndTag_render tags.named spaces
          have opened : ¬('>' :: (renderAll children ++ behindTag)).head? = some '/' := by
            rw [List.head?_cons]
            decide
          have shape : '<' :: (name ++ (renderAttributes attributes ++ (tail ++ '>' ::
              (renderAll children ++ '<' :: '/' :: (name ++ (space ++ ['>'])))))) ++ rest =
              '<' :: (name ++ (renderAttributes attributes ++ (tail ++ '>' ::
                (renderAll children ++ behindTag)))) := by
            simp [behindTag]
          rw [shape, starts, if_neg opened, List.tail_cons, inside]
          simp only [Option.bind_some, closes, later, Option.map_some]

theorem readContent_all : ∀ {ms : List Markup} {rest : List Char} {fuel : Nat},
    WellFormedContent ms → Closed rest → (renderAll ms).length < fuel →
      readContent fuel (renderAll ms ++ rest) = some (trees ms, rest)
  | [], rest, fuel, _, closed, enough => by
      obtain ⟨fuel, rfl⟩ := Nat.exists_eq_succ_of_ne_zero (Nat.ne_of_gt enough)
      rw [renderAll, List.nil_append, trees]
      exact readContent_closed closed fuel
  | m :: ms, rest, fuel, formed, closed, enough => by
      obtain ⟨here, others, apart⟩ := formed
      obtain ⟨fuel, rfl⟩ := Nat.exists_eq_succ_of_ne_zero (Nat.ne_of_gt (Nat.zero_lt_of_lt enough))
      have some := length_render_pos here
      rw [renderAll, List.length_append] at enough
      have room : (renderAll ms).length < fuel := by omega
      have later := readContent_all others closed room
      rw [renderAll, List.append_assoc, trees]
      exact readContent_node here (fun chars => stopped_renderAll others (apart chars) closed) (by omega)
        later

end

/-- An element is read as its tree. -/
theorem readMarkup_render {m : Markup} (formed : m.WellFormed) (element : m.isElement = true) :
    readMarkup m.render = some [m.tree] := by
  have alone : WellFormedContent [m] := ⟨formed, trivial, fun _ => rfl⟩
  have room : (renderAll [m]).length < m.render.length + 1 := by
    simp [renderAll]
  have read := readContent_all alone (.inl rfl) room
  rw [renderAll, renderAll, List.append_nil, List.append_nil] at read
  have tagged : m.tree.isElement = true := by
    cases m with
    | element => rfl
    | _ => cases element
  rw [readMarkup, read]
  simp [trees, tagged]

end Markup

end JunosMcp.Lib
