import JunosMcp.Lib.XmlReader

/-!
# A writer of trees

Nodes are written as markup with the predefined entities. What is written is well formed, and it stands
for the nodes without their comments and the namespaces of their attributes, unless it has a character
that a reader normalises.
-/

namespace JunosMcp.Lib.Markup

/-! ## What is written -/

/-- A character as `quick_xml` escapes it. -/
def escapedPiece (c : Char) : Piece :=
  match predefined.find? fun entry => entry.2 = c with
  | some entry => .reference entry.1 c
  | none => .literal c

def escapeXml (s : List Char) : List Char := renderPieces (s.map escapedPiece)

def writtenAttribute (a : XmlAttribute) : WrittenAttribute where
  lead := [' ']
  name := a.name
  beforeEquals := []
  afterEquals := []
  quote := '"'
  value := a.value.map escapedPiece

/-- Characters in front of characters are read as one text. -/
def joinChars (pieces : List Piece) : List Markup → List Markup
  | .chars more :: rest => .chars (pieces ++ more) :: rest
  | rest => .chars pieces :: rest

mutual

/-- The node in front of what is written behind it. -/
def writtenBefore : XmlNode → List Markup → List Markup
  | .element name attributes children, rest =>
      .element name (attributes.map writtenAttribute) [] (writtenAll children)
        (if children.isEmpty then none else some []) :: rest
  | .text content, rest => joinChars (content.map escapedPiece) rest
  | .comment, rest => rest

def writtenAll : List XmlNode → List Markup
  | [] => []
  | node :: rest => writtenBefore node (writtenAll rest)

end

theorem renderAll_joinChars (pieces : List Piece) (rest : List Markup) :
    renderAll (joinChars pieces rest) = renderPieces pieces ++ renderAll rest := by
  unfold joinChars
  split
  · rw [renderAll, renderAll, render, render, renderPieces, List.flatMap_append, List.append_assoc]
    rfl
  · rw [renderAll, render]

/-! ## What is meant -/

def joinText (content : List Char) : List XmlNode → List XmlNode
  | .text more :: rest => .text (content ++ more) :: rest
  | rest => .text content :: rest

mutual

/-- The node in front of the others, without comments and the namespaces of attributes. -/
def seenBefore : XmlNode → List XmlNode → List XmlNode
  | .element name attributes children, rest =>
      .element name (attributes.map fun a => { a with space := none }) (seenAll children) :: rest
  | .text content, rest => joinText content rest
  | .comment, rest => rest

def seenAll : List XmlNode → List XmlNode
  | [] => []
  | node :: rest => seenBefore node (seenAll rest)

end

def isLocalName (name : List Char) : Bool := isName name && decide (':' ∉ name)

mutual

/-- What a reader hands out, if no two attributes of an element share a local name. -/
def Readable : XmlNode → Prop
  | .element name attributes children => isLocalName name = true ∧
      (∀ a ∈ attributes, isLocalName a.name = true ∧ a.name ≠ "xmlns".toList ∧
        ∀ c ∈ a.value, isXmlChar c = true) ∧
      (attributes.map XmlAttribute.name).Nodup ∧ ReadableAll children
  | .text content => content ≠ [] ∧ ∀ c ∈ content, isXmlChar c = true
  | .comment => True

def ReadableAll : List XmlNode → Prop
  | [] => True
  | node :: rest => Readable node ∧ ReadableAll rest

end

def lineEnds : List Char := ['\t', '\n', '\r']

mutual

/-- No character is in it that a reader normalises. -/
def Stable : XmlNode → Prop
  | .element _ attributes children =>
      (∀ a ∈ attributes, ∀ c ∈ a.value, c ∉ lineEnds) ∧ StableAll children
  | .text content => '\r' ∉ content
  | .comment => True

def StableAll : List XmlNode → Prop
  | [] => True
  | node :: rest => Stable node ∧ StableAll rest

end

/-! ## It is well formed -/

theorem escapedPiece_char (c : Char) : (escapedPiece c).char = c := by
  unfold escapedPiece
  split <;> rfl

theorem predefined_refers : ∀ entry ∈ predefined, refersTo entry.1 entry.2 = true := by decide

theorem escapedPiece_literal {c d : Char} (literal : escapedPiece c = .literal d) :
    d = c ∧ c ∉ ['<', '>', '&', '"'] := by
  unfold escapedPiece at literal
  split at literal
  · cases literal
  · next absent =>
      cases literal
      refine ⟨rfl, fun special => ?_⟩
      have every := List.find?_eq_none.mp absent
      have named : ∀ d ∈ ['<', '>', '&', '"'], ∃ entry ∈ predefined, entry.2 = d := by simp [predefined]
      obtain ⟨entry, member, same⟩ := named c special
      exact every entry member (decide_eq_true same)

theorem escapedPiece_reference {c d : Char} {name : List Char} (reference : escapedPiece c = .reference name d) :
    d = c ∧ refersTo name c = true := by
  unfold escapedPiece at reference
  split at reference
  · next entry found =>
      cases reference
      have same : entry.2 = c := by simpa using List.find?_some found
      have refers := predefined_refers entry (List.mem_of_find?_eq_some found)
      rw [same] at refers
      exact ⟨rfl, refers⟩
  · cases reference

theorem escapedPiece_formed {c : Char} (xml : isXmlChar c = true) {escaped : List Char}
    (within : ∀ d ∈ escaped, d ∈ ['<', '>', '&', '"']) :
    (escapedPiece c).isWellFormed escaped = true := by
  cases shape : escapedPiece c with
  | literal d =>
      obtain ⟨rfl, plain⟩ := escapedPiece_literal shape
      simp only [Piece.isWellFormed, xml, Bool.true_and, Bool.not_eq_true', List.contains_eq_mem,
        decide_eq_false_iff_not]
      exact fun mem => plain (within d mem)
  | reference name d =>
      obtain ⟨rfl, refers⟩ := escapedPiece_reference shape
      rw [Piece.isWellFormed, xml, refers]
      rfl

/-- Characters of a text as they are written. -/
def Escaped (pieces : List Piece) : Prop :=
  pieces ≠ [] ∧ ∀ piece ∈ pieces, ∃ c, isXmlChar c = true ∧ piece = escapedPiece c

theorem Escaped.append {first second : List Piece} (one : Escaped first) (other : Escaped second) :
    Escaped (first ++ second) := by
  refine ⟨List.append_ne_nil_of_left_ne_nil one.1 _, fun piece mem => ?_⟩
  rcases List.mem_append.mp mem with mem | mem
  · exact one.2 piece mem
  · exact other.2 piece mem

theorem no_gt {piece : Piece} {c : Char} (shape : piece = escapedPiece c) : '>' ∉ piece.render := by
  cases found : escapedPiece c with
  | literal d =>
      obtain ⟨rfl, plain⟩ := escapedPiece_literal found
      rw [shape, found, Piece.render, List.mem_singleton]
      rintro rfl
      exact plain (by decide)
  | reference name d =>
      obtain ⟨rfl, refers⟩ := escapedPiece_reference found
      rw [shape, found, Piece.render]
      intro mem
      rcases List.mem_cons.mp mem with same | mem
      · revert same
        decide
      · rcases List.mem_append.mp mem with mem | mem
        · have alphanumeric := refersTo_chars refers _ mem
          revert alphanumeric
          decide
        · revert mem
          decide

theorem Escaped.formed {pieces : List Piece} (escaped : Escaped pieces) : WellFormedChars pieces where
  nonempty := escaped.1
  each piece mem := by
    obtain ⟨c, xml, rfl⟩ := escaped.2 piece mem
    exact escapedPiece_formed xml (by simp)
  open_ended within := by
    have inside : '>' ∈ renderPieces pieces := within.subset (by decide)
    obtain ⟨piece, mem, shown⟩ := List.mem_flatMap.mp inside
    obtain ⟨c, -, shape⟩ := escaped.2 piece mem
    exact no_gt shape shown

theorem escaped_text {content : List Char} (some : content ≠ []) (xml : ∀ c ∈ content, isXmlChar c = true) :
    Escaped (content.map escapedPiece) := by
  refine ⟨mt List.map_eq_nil_iff.mp some, fun piece mem => ?_⟩
  obtain ⟨c, member, rfl⟩ := List.mem_map.mp mem
  exact ⟨c, xml c member, rfl⟩

/-- What is written: well formed, in local names, and escaped where it starts with characters. -/
structure Sound (ms : List Markup) : Prop where
  formed : WellFormedContent ms
  first : ∀ pieces rest, ms = .chars pieces :: rest → Escaped pieces

theorem Sound.joinChars {pieces : List Piece} {rest : List Markup} (escaped : Escaped pieces)
    (sound : Sound rest) : Sound (joinChars pieces rest) := by
  unfold Markup.joinChars
  split
  · next more rest =>
      have whole := escaped.append (sound.first more rest rfl)
      obtain ⟨-, later, apart⟩ := sound.formed
      refine ⟨⟨whole.formed, later, apart⟩, ?_⟩
      rintro _ _ ⟨⟩
      exact whole
  · next other =>
      refine ⟨⟨escaped.formed, sound.formed, fun _ => ?_⟩, ?_⟩
      · cases rest with
        | nil => rfl
        | cons m rest =>
            cases m with
            | chars more => exact (other more rest rfl).elim
            | element name attributes tail children closing => rfl
            | aside kind content => rfl
      · rintro _ _ ⟨⟩
        exact escaped

theorem writtenAttribute_formed {a : XmlAttribute} (named : isLocalName a.name = true)
    (xml : ∀ c ∈ a.value, isXmlChar c = true) : (writtenAttribute a).WellFormed where
  lead := List.cons_ne_nil _ _
  spaces c mem := by
    obtain rfl : c = ' ' := by simpa [writtenAttribute] using mem
    rfl
  name := by
    rw [isLocalName, Bool.and_eq_true] at named
    exact named.1
  quote := .inl rfl
  value piece mem := by
    obtain ⟨c, member, rfl⟩ := List.mem_map.mp mem
    have within : ∀ d ∈ ['<', '&', '"'], d ∈ ['<', '>', '&', '"'] := by simp
    exact escapedPiece_formed (xml c member) within

mutual

theorem sound_writtenBefore : ∀ (node : XmlNode) (rest : List Markup), Readable node → Sound rest →
    Sound (writtenBefore node rest)
  | .element name attributes children, rest, readable, sound => by
      obtain ⟨named, each, distinct, inside⟩ := readable
      have content := sound_writtenAll children inside
      rw [isLocalName, Bool.and_eq_true] at named
      have names : (attributes.map writtenAttribute).map WrittenAttribute.name =
          attributes.map XmlAttribute.name := by
        rw [List.map_map]
        rfl
      have attributed : ∀ a ∈ attributes.map writtenAttribute, a.WellFormed := by
        intro a mem
        obtain ⟨b, member, rfl⟩ := List.mem_map.mp mem
        exact writtenAttribute_formed (each b member).1 (each b member).2.2
      have tags : ∀ closing : Option (List Char), (∀ c ∈ closing.getD [], isXmlSpace c = true) →
          WellFormedTags name (attributes.map writtenAttribute) [] closing :=
        fun closing spaces => ⟨named.1, attributed, names ▸ distinct, spaces⟩
      rw [writtenBefore]
      refine ⟨⟨⟨tags _ ?_, content.formed, ?_⟩, sound.formed, nofun⟩, nofun⟩
      · split <;> nofun
      · cases children with
        | nil => exact fun _ => writtenAll.eq_1
        | cons child children => nofun
  | .text content, rest, readable, sound => by
      rw [writtenBefore]
      exact sound.joinChars (escaped_text readable.1 readable.2)
  | .comment, rest, _, sound => by
      rw [writtenBefore]
      exact sound

theorem sound_writtenAll : ∀ nodes : List XmlNode, ReadableAll nodes → Sound (writtenAll nodes)
  | [], _ => by
      rw [writtenAll]
      exact ⟨trivial, nofun⟩
  | node :: rest, readable => by
      rw [writtenAll]
      exact sound_writtenBefore node _ readable.1 (sound_writtenAll rest readable.2)

end

/-! ## What is read -/

theorem length_decode (white : Char → Char) (pieces : List Piece) :
    (decode white pieces).length ≤ pieces.length := by
  induction pieces with
  | nil => exact Nat.le_refl 0
  | cons piece pieces ih =>
      cases piece with
      | literal c =>
          rw [decode]
          split
          · split
            · exact Nat.le_succ_of_le ih
            · exact Nat.succ_le_succ ih
          · exact Nat.succ_le_succ ih
      | reference name c => exact Nat.succ_le_succ ih

/-- Only references stand for these characters. -/
def Spared (ends : List Char) (pieces : List Piece) : Prop := ∀ c ∈ ends, Piece.literal c ∉ pieces

theorem spared_cons {ends : List Char} {piece : Piece} {pieces : List Piece} :
    Spared ends (piece :: pieces) ↔ (∀ c ∈ ends, piece ≠ .literal c) ∧ Spared ends pieces := by
  simp only [Spared, List.mem_cons, not_or, ne_eq, eq_comm, ← forall_and]

theorem spared_append {ends : List Char} {first second : List Piece} :
    Spared ends (first ++ second) ↔ Spared ends first ∧ Spared ends second := by
  simp only [Spared, List.mem_append, not_or, ← forall_and]

theorem decode_eq {white : Char → Char} {ends : List Char} (line : white '\n' ≠ '\r')
    (kept : ∀ c, c ∉ ends ↔ c ≠ '\r' ∧ white c = c) (pieces : List Piece) :
    decode white pieces = pieces.map Piece.char ↔ Spared ends pieces := by
  induction pieces with
  | nil => simp [decode, Spared]
  | cons piece pieces ih =>
      rw [spared_cons]
      cases piece with
      | reference name c =>
          have apart : ∀ d ∈ ends, Piece.reference name c ≠ .literal d := fun d _ => nofun
          rw [decode, List.map_cons, Piece.char, List.cons.injEq, ih]
          exact ⟨fun same => ⟨apart, same.2⟩, fun same => ⟨rfl, same.2⟩⟩
      | literal c =>
          have here : (∀ d ∈ ends, Piece.literal c ≠ .literal d) ↔ c ∉ ends := by
            simp only [ne_eq, Piece.literal.injEq]
            exact ⟨fun each mem => each c mem rfl, fun absent d mem same => absent (same ▸ mem)⟩
          rw [here, kept, decode, List.map_cons, Piece.char]
          by_cases carriage : c = '\r'
          · subst carriage
            rw [if_pos rfl]
            refine ⟨fun same => ?_, fun both => (both.1.1 rfl).elim⟩
            split at same
            · have short := length_decode white pieces
              rw [same, List.length_cons, List.length_map] at short
              omega
            · exact (line (List.cons.inj same).1).elim
          · rw [if_neg carriage, List.cons.injEq, ih]
            exact ⟨fun same => ⟨⟨carriage, same.1⟩, same.2⟩, fun both => ⟨both.1.2, both.2⟩⟩

theorem decode_text (pieces : List Piece) :
    decode id pieces = pieces.map Piece.char ↔ Spared ['\r'] pieces :=
  decode_eq (by decide) (fun c => by simp) pieces

theorem decode_value (pieces : List Piece) :
    decode attributeSpace pieces = pieces.map Piece.char ↔ Spared lineEnds pieces := by
  refine decode_eq (by decide) (fun c => ?_) pieces
  simp only [lineEnds, attributeSpace, List.mem_cons, List.not_mem_nil, or_false, not_or]
  constructor
  · rintro ⟨tab, line, carriage⟩
    exact ⟨carriage, if_neg (not_or.mpr ⟨tab, line⟩)⟩
  · rintro ⟨carriage, same⟩
    refine ⟨?_, ?_, carriage⟩ <;>
      · rintro rfl
        revert same
        decide

/-! ### What the characters are meant to be -/

def meantValue (a : WrittenAttribute) : XmlAttribute := ⟨none, a.name, a.value.map Piece.char⟩

mutual

def meantNode : Markup → XmlNode
  | .element name attributes _ children _ =>
      .element name (attributes.map meantValue) (meantAll children)
  | .chars pieces => .text (pieces.map Piece.char)
  | .aside .. => .comment

def meantAll : List Markup → List XmlNode
  | [] => []
  | m :: rest => meantNode m :: meantAll rest

end

mutual

def SparedNode : Markup → Prop
  | .element _ attributes _ children _ =>
      (∀ a ∈ attributes, Spared lineEnds a.value) ∧ SparedAll children
  | .chars pieces => Spared ['\r'] pieces
  | .aside .. => True

def SparedAll : List Markup → Prop
  | [] => True
  | m :: rest => SparedNode m ∧ SparedAll rest

end

theorem meanings_eq (attributes : List WrittenAttribute) :
    attributes.map WrittenAttribute.meaning = attributes.map meantValue ↔
      ∀ a ∈ attributes, Spared lineEnds a.value := by
  rw [List.map_inj_left]
  refine forall₂_congr fun a _ => ?_
  rw [← decode_value, WrittenAttribute.meaning, meantValue, XmlAttribute.mk.injEq]
  exact ⟨fun same => same.2.2, fun same => ⟨rfl, rfl, same⟩⟩

mutual

theorem tree_eq_meant : ∀ m : Markup, m.tree = meantNode m ↔ SparedNode m
  | .element name attributes tail children closing => by
      rw [tree, meantNode, SparedNode, XmlNode.element.injEq, meanings_eq, trees_eq_meant children]
      exact ⟨fun same => same.2, fun same => ⟨rfl, same⟩⟩
  | .chars pieces => by
      rw [tree, meantNode, SparedNode, XmlNode.text.injEq, decode_text]
  | .aside kind content => by
      rw [tree, meantNode, SparedNode]
      exact ⟨fun _ => trivial, fun _ => rfl⟩

theorem trees_eq_meant : ∀ ms : List Markup, trees ms = meantAll ms ↔ SparedAll ms
  | [] => by
      rw [trees, meantAll, SparedAll]
      exact ⟨fun _ => trivial, fun _ => rfl⟩
  | m :: rest => by
      rw [trees, meantAll, SparedAll, List.cons.injEq, tree_eq_meant m, trees_eq_meant rest]

end

/-! ### What is written is meant to be what is seen -/

theorem map_escapedPiece_char (s : List Char) : (s.map escapedPiece).map Piece.char = s := by
  rw [List.map_map]
  exact (List.map_congr_left fun c _ => escapedPiece_char c).trans (List.map_id s)

theorem spared_escaped {ends : List Char} (plain : ∀ c ∈ ends, escapedPiece c = .literal c) (s : List Char) :
    Spared ends (s.map escapedPiece) ↔ ∀ c ∈ s, c ∉ ends := by
  constructor
  · intro spared c mem ended
    exact spared c ended (List.mem_map.mpr ⟨c, mem, plain c ended⟩)
  · intro each c ended mem
    obtain ⟨d, member, shape⟩ := List.mem_map.mp mem
    obtain ⟨rfl, -⟩ := escapedPiece_literal shape
    exact each c member ended

theorem spared_text (content : List Char) : Spared ['\r'] (content.map escapedPiece) ↔ '\r' ∉ content := by
  rw [spared_escaped (List.forall_mem_singleton.mpr rfl)]
  refine ⟨fun each mem => each '\r' mem (List.mem_singleton_self _), fun absent c mem ended => ?_⟩
  rw [List.mem_singleton.mp ended] at mem
  exact absent mem

theorem lineEnds_plain : ∀ c ∈ lineEnds, escapedPiece c = .literal c := by
  simp [lineEnds, escapedPiece, predefined]

theorem spared_values (attributes : List XmlAttribute) :
    (∀ a ∈ attributes.map writtenAttribute, Spared lineEnds a.value) ↔
      ∀ a ∈ attributes, ∀ c ∈ a.value, c ∉ lineEnds := by
  rw [List.forall_mem_map]
  exact forall₂_congr fun a _ => spared_escaped lineEnds_plain a.value

theorem meantValue_written (a : XmlAttribute) : meantValue (writtenAttribute a) = { a with space := none } := by
  rw [meantValue, writtenAttribute, map_escapedPiece_char]

theorem meantAll_joinChars (pieces : List Piece) (rest : List Markup) :
    meantAll (joinChars pieces rest) = joinText (pieces.map Piece.char) (meantAll rest) := by
  cases rest with
  | nil => rfl
  | cons m rest =>
      cases m with
      | chars more => rw [joinChars, meantAll, meantAll, meantNode, meantNode, joinText, List.map_append]
      | element name attributes tail children closing => rfl
      | aside kind content => rfl

theorem sparedAll_joinChars (pieces : List Piece) (rest : List Markup) :
    SparedAll (joinChars pieces rest) ↔ Spared ['\r'] pieces ∧ SparedAll rest := by
  cases rest with
  | nil => rfl
  | cons m rest =>
      cases m with
      | chars more =>
          rw [joinChars, SparedAll, SparedAll, SparedNode, SparedNode, spared_append, and_assoc]
      | element name attributes tail children closing => rfl
      | aside kind content => rfl

mutual

theorem meantAll_writtenBefore : ∀ (node : XmlNode) (rest : List Markup),
    meantAll (writtenBefore node rest) = seenBefore node (meantAll rest)
  | .element name attributes children, rest => by
      rw [writtenBefore, meantAll, meantNode, seenBefore, meantAll_writtenAll children, List.map_map]
      exact congrArg (fun attributes => XmlNode.element name attributes _ :: _)
        (List.map_congr_left fun a _ => meantValue_written a)
  | .text content, rest => by
      rw [writtenBefore, seenBefore, meantAll_joinChars, map_escapedPiece_char]
  | .comment, rest => by
      rw [writtenBefore, seenBefore]

theorem meantAll_writtenAll : ∀ nodes : List XmlNode, meantAll (writtenAll nodes) = seenAll nodes
  | [] => by rw [writtenAll, meantAll, seenAll]
  | node :: rest => by
      rw [writtenAll, seenAll, meantAll_writtenBefore node, meantAll_writtenAll rest]

end

mutual

theorem sparedAll_writtenBefore : ∀ (node : XmlNode) (rest : List Markup),
    SparedAll (writtenBefore node rest) ↔ Stable node ∧ SparedAll rest
  | .element name attributes children, rest => by
      rw [writtenBefore, SparedAll, SparedNode, Stable, sparedAll_writtenAll children, spared_values]
  | .text content, rest => by
      rw [writtenBefore, Stable, sparedAll_joinChars, spared_text]
  | .comment, rest => by
      rw [writtenBefore, Stable, true_and]

theorem sparedAll_writtenAll : ∀ nodes : List XmlNode, SparedAll (writtenAll nodes) ↔ StableAll nodes
  | [] => by rw [writtenAll, SparedAll, StableAll]
  | node :: rest => by
      rw [writtenAll, StableAll, sparedAll_writtenBefore node, sparedAll_writtenAll rest]

end

theorem trees_writtenAll (nodes : List XmlNode) :
    trees (writtenAll nodes) = seenAll nodes ↔ StableAll nodes := by
  rw [← meantAll_writtenAll, trees_eq_meant, sparedAll_writtenAll]

/-! ## Names -/

mutual

/-- No name has a prefix, and no namespace is declared. -/
def Unprefixed : Markup → Prop
  | .element name attributes _ children _ => ':' ∉ name ∧
      (∀ a ∈ attributes, ':' ∉ a.name ∧ a.name ≠ "xmlns".toList) ∧ UnprefixedAll children
  | .chars _ => True
  | .aside .. => True

def UnprefixedAll : List Markup → Prop
  | [] => True
  | m :: rest => Unprefixed m ∧ UnprefixedAll rest

end

theorem isLocalName_iff {name : List Char} : isLocalName name = true ↔ isName name = true ∧ ':' ∉ name := by
  rw [isLocalName, Bool.and_eq_true, decide_eq_true_eq]

theorem unprefixedAll_joinChars {pieces : List Piece} {rest : List Markup}
    (unprefixed : UnprefixedAll rest) : UnprefixedAll (joinChars pieces rest) := by
  unfold joinChars
  split
  · exact ⟨trivial, unprefixed.2⟩
  · exact ⟨trivial, unprefixed⟩

mutual

theorem unprefixed_writtenBefore : ∀ (node : XmlNode) (rest : List Markup), Readable node →
    UnprefixedAll rest → UnprefixedAll (writtenBefore node rest)
  | .element name attributes children, rest, readable, later => by
      obtain ⟨named, each, -, inside⟩ := readable
      rw [writtenBefore]
      refine ⟨⟨(isLocalName_iff.mp named).2, fun a mem => ?_, unprefixed_writtenAll children inside⟩, later⟩
      obtain ⟨b, member, rfl⟩ := List.mem_map.mp mem
      exact ⟨(isLocalName_iff.mp (each b member).1).2, (each b member).2.1⟩
  | .text content, rest, _, later => by
      rw [writtenBefore]
      exact unprefixedAll_joinChars later
  | .comment, rest, _, later => by
      rw [writtenBefore]
      exact later

theorem unprefixed_writtenAll : ∀ nodes : List XmlNode, ReadableAll nodes →
    UnprefixedAll (writtenAll nodes)
  | [], _ => by
      rw [writtenAll]
      trivial
  | node :: rest, readable => by
      rw [writtenAll]
      exact unprefixed_writtenBefore node _ readable.1 (unprefixed_writtenAll rest readable.2)

end

end JunosMcp.Lib.Markup
