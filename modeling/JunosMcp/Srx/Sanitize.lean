import Mathlib.Data.List.TakeWhile
import JunosMcp.Lib.Markup
import JunosMcp.Srx.Xml

/-!
# What sanitising keeps

The reply is taken as markup. Attributes whose names start with `junos:` are cut out of it, and the
brackets in its text are escaped. Both passes look at characters and not at the markup.
-/

namespace JunosMcp.Srx

open Lib Markup

/-! ## The cut, character by character -/

theorem startsWith_iff {text needle : Text} : Text.startsWith text needle = true ↔ needle <+: text := by
  rw [Text.startsWith, Option.isSome_iff_exists]
  simp only [Text.stripPrefix_eq_some]
  constructor <;>
  · rintro ⟨rest, same⟩
    exact ⟨rest, same.symm⟩

theorem afterQuote_length (quote : Char) (s : Text) : (afterQuote quote s).length ≤ s.length := by
  induction s with
  | nil => exact le_rfl
  | cons c rest ih =>
      rw [afterQuote]
      split
      · simp
      · exact ih.trans (by simp)

theorem afterAttribute_length (c : Char) (rest : Text) :
    (afterAttribute (c :: rest)).length ≤ rest.length := by
  have shorter : ((c :: rest).dropWhile (· != '=')).length ≤ (c :: rest).length :=
    List.length_dropWhile_le _ _
  unfold afterAttribute
  split
  · simp
  · simp
  · next quote tail same =>
      rw [same] at shorter
      simp only [List.length_cons] at shorter
      split
      · have inner := afterQuote_length quote tail
        omega
      · have inner := List.length_dropWhile_le (fun c => !isAsciiWhitespace c && c != '>')
          (quote :: tail)
        rw [List.length_cons] at inner
        omega

theorem stripJunosFrom_enough : ∀ {n m : Nat} {xml : Text}, xml.length ≤ n → xml.length ≤ m →
    stripJunosFrom n xml = stripJunosFrom m xml
  | 0, 0, _, _, _ => rfl
  | 0, m + 1, xml, enough, _ => by
      obtain rfl := List.eq_nil_of_length_eq_zero (Nat.le_zero.mp enough)
      rfl
  | n + 1, 0, xml, _, enough => by
      obtain rfl := List.eq_nil_of_length_eq_zero (Nat.le_zero.mp enough)
      rfl
  | n + 1, m + 1, [], _, _ => rfl
  | n + 1, m + 1, c :: rest, first, second => by
      have behind := (List.length_dropWhile_le (· == ' ') (afterAttribute (c :: rest))).trans
        (afterAttribute_length c rest)
      simp only [List.length_cons] at first second
      simp only [stripJunosFrom]
      split
      · exact stripJunosFrom_enough (by omega) (by omega)
      · rw [stripJunosFrom_enough (n := n) (m := m) (by omega) (by omega)]

theorem simpleStripJunos_nil : simpleStripJunos [] = [] := rfl

theorem simpleStripJunos_cut {xml : Text} (starts : junosPrefix <+: xml) :
    simpleStripJunos xml = simpleStripJunos ((afterAttribute xml).dropWhile (· == ' ')) := by
  cases xml with
  | nil => exact absurd starts (by decide)
  | cons c rest =>
      have behind := (List.length_dropWhile_le (· == ' ') (afterAttribute (c :: rest))).trans
        (afterAttribute_length c rest)
      rw [simpleStripJunos, List.length_cons, stripJunosFrom, if_pos (startsWith_iff.mpr starts)]
      exact stripJunosFrom_enough behind le_rfl

theorem simpleStripJunos_cons {c : Char} {rest : Text} (other : ¬junosPrefix <+: c :: rest) :
    simpleStripJunos (c :: rest) = c :: simpleStripJunos rest := by
  rw [simpleStripJunos, List.length_cons, stripJunosFrom,
    if_neg (fun starts => other (startsWith_iff.mp starts))]
  rfl

/-- What cannot go on with an occurrence of the prefix that has begun. -/
def Bounded (rest : Text) : Prop := ∀ c, rest.head? = some c → c ∉ junosPrefix

theorem not_starts_of_bounded {token rest : Text} (free : ¬junosPrefix <+: token)
    (bounded : Bounded rest) : ¬junosPrefix <+: token ++ rest := by
  intro starts
  rcases List.prefix_or_prefix_of_prefix starts (List.prefix_append token rest) with
    inside | ⟨more, same⟩
  · exact free inside
  · rw [← same, List.prefix_append_right_inj] at starts
    cases more with
    | nil => exact free ⟨[], by rw [List.append_nil] at same ⊢; exact same.symm⟩
    | cons d more =>
        obtain ⟨tail, rfl⟩ := starts
        exact bounded d rfl (by rw [← same]; simp)

theorem junosPrefix_eq : junosPrefix = ['j', 'u', 'n', 'o', 's', ':'] := by decide

/-- A stretch without the prefix is passed over. -/
theorem simpleStripJunos_append {token rest : Text} (free : ¬junosPrefix <:+: token)
    (bounded : Bounded rest) :
    simpleStripJunos (token ++ rest) = token ++ simpleStripJunos rest := by
  induction token with
  | nil => rfl
  | cons c token ih =>
      have here : ¬junosPrefix <+: c :: token := fun starts => free starts.isInfix
      have later : ¬junosPrefix <:+: token := fun inside =>
        free (inside.trans (List.infix_cons (List.infix_refl token)))
      have passed := simpleStripJunos_cons (not_starts_of_bounded here bounded)
      rw [List.cons_append, List.cons_append, ← ih later]
      exact passed

/-- So is one without its first letter, whatever comes next. -/
theorem simpleStripJunos_plain {token rest : Text} (plain : ∀ c ∈ token, c ≠ 'j') :
    simpleStripJunos (token ++ rest) = token ++ simpleStripJunos rest := by
  induction token with
  | nil => rfl
  | cons c token ih =>
      have here : ¬junosPrefix <+: (c :: token) ++ rest := by
        rintro ⟨tail, same⟩
        rw [junosPrefix_eq] at same
        exact plain c List.mem_cons_self (List.cons.inj same).1.symm
      rw [List.cons_append] at here ⊢
      rw [simpleStripJunos_cons here, ih fun d mem => plain d (List.mem_cons_of_mem _ mem),
        List.cons_append]

theorem bounded_cons {c : Char} {rest : Text} (other : c ∉ junosPrefix) : Bounded (c :: rest) := by
  rintro d same
  cases same
  exact other

theorem simpleStripJunos_free {xml : Text} (free : ¬junosPrefix <:+: xml) :
    simpleStripJunos xml = xml := by
  have whole := @simpleStripJunos_append _ [] free (by rintro c same; cases same)
  rwa [simpleStripJunos_nil, List.append_nil] at whole

/-! ## The cut of an attribute -/

theorem afterQuote_append {quote : Char} {value rest : Text} (absent : quote ∉ value) :
    afterQuote quote (value ++ quote :: rest) = rest := by
  induction value with
  | nil => simp [afterQuote]
  | cons c value ih =>
      rw [List.mem_cons, not_or] at absent
      rw [List.cons_append, afterQuote, if_neg (by simpa using Ne.symm absent.1), ih absent.2]

theorem afterAttribute_append {name quoted rest : Text} {quote : Char} (plain : '=' ∉ name)
    (isQuote : quote = '"' ∨ quote = Char.ofNat 39) (absent : quote ∉ quoted) :
    afterAttribute (name ++ '=' :: quote :: (quoted ++ quote :: rest)) = rest := by
  have found : (name ++ '=' :: quote :: (quoted ++ quote :: rest)).dropWhile (· != '=') =
      '=' :: quote :: (quoted ++ quote :: rest) := by
    rw [List.dropWhile_append_of_pos (by
      intro c mem
      simp only [bne_iff_ne]
      rintro rfl
      exact plain mem)]
    rfl
  have quotes : (quote == '"' || quote == Char.ofNat 39) = true := by simpa using isQuote
  simp only [afterAttribute, found, quotes, if_true, afterQuote_append absent]

/-! ## Markup that is cut -/

def isJunos (a : WrittenAttribute) : Bool := Text.startsWith a.name junosPrefix

/-- The equals sign of an attribute that is cut stands right in front of its value, and one that is
not cut does not contain the prefix. -/
def Cuttable (a : WrittenAttribute) : Prop :=
  if isJunos a then a.afterEquals = []
  else ¬junosPrefix <:+: a.name ∧ ¬junosPrefix <:+: renderPieces a.value

mutual

/-- The prefix is found in front of attributes and nowhere else. -/
def MarksAttributes : Markup → Prop
  | .element name attributes _ children _ =>
      ¬junosPrefix <:+: name ∧ (∀ a ∈ attributes, Cuttable a) ∧ AllMarkAttributes children
  | .chars pieces => ¬junosPrefix <:+: renderPieces pieces
  | .aside _ content => ¬junosPrefix <:+: content

def AllMarkAttributes : List Markup → Prop
  | [] => True
  | m :: rest => MarksAttributes m ∧ AllMarkAttributes rest

end

def cutSpaces (cut : Bool) (text : Text) : Text :=
  if cut then text.dropWhile (· == ' ') else text

/-- What is left of the attributes and of the white space behind them. The white space in front of
an attribute that is cut stays, and the spaces behind it go. -/
def stripAttributes (cut : Bool) (carry : Text) :
    List WrittenAttribute → Text → List WrittenAttribute × Text
  | [], tail => ([], carry ++ cutSpaces cut tail)
  | a :: rest, tail =>
      let lead := carry ++ cutSpaces cut a.lead
      if isJunos a then stripAttributes true lead rest tail
      else
        let others := stripAttributes false [] rest tail
        ({ a with lead } :: others.1, others.2)

mutual

def strip : Markup → Markup
  | .element name attributes tail children closing =>
      let others := stripAttributes false [] attributes tail
      .element name others.1 others.2 (stripAll children) closing
  | .chars pieces => .chars pieces
  | .aside kind content => .aside kind content

def stripAll : List Markup → List Markup
  | [] => []
  | m :: rest => strip m :: stripAll rest

end

section Characters

theorem space_plain {c : Char} (space : isXmlSpace c = true) : c ≠ 'j' ∧ c ≠ '=' ∧ c ∉ junosPrefix := by
  simp only [isXmlSpace, Bool.or_eq_true, beq_iff_eq] at space
  rcases space with ((rfl | rfl) | rfl) | rfl <;> decide

theorem isName_chars {name : Text} (named : isName name = true) :
    name ≠ [] ∧ ∀ c ∈ name, isNameChar c = true := by
  cases name with
  | nil => cases named
  | cons c rest =>
      simp only [isName, Bool.and_eq_true, List.all_eq_true] at named
      refine ⟨List.cons_ne_nil _ _, List.forall_mem_cons.mpr ⟨?_, named.2⟩⟩
      simp [isNameChar, named.1]

theorem not_nameChar : ∀ c ∈ ['=', ' ', '<', '>', '"', Char.ofNat 39, '/', '&'],
    isNameChar c = false := by
  simp only [List.forall_mem_cons, List.not_mem_nil, false_implies, implies_true]
  decide

theorem name_without {name : Text} {c : Char} (named : isName name = true)
    (other : c ∈ ['=', ' ', '<', '>', '"', Char.ofNat 39, '/', '&']) : c ∉ name := by
  intro mem
  have is := (isName_chars named).2 c mem
  rw [not_nameChar c other] at is
  cases is

theorem dropSpaces_append {front rest : Text} (stop : rest.head? ≠ some ' ') :
    (front ++ rest).dropWhile (· == ' ') = front.dropWhile (· == ' ') ++ rest := by
  induction front with
  | nil =>
      cases rest with
      | nil => rfl
      | cons c rest =>
          rw [List.nil_append, List.dropWhile_cons_of_neg (by simpa using stop)]
          rfl
  | cons c front ih =>
      by_cases space : c = ' '
      · subst space
        simpa using ih
      · rw [List.cons_append, List.dropWhile_cons_of_neg (by simpa using space),
          List.dropWhile_cons_of_neg (by simpa using space), List.cons_append]

theorem cutSpaces_append {cut : Bool} {front rest : Text} (stop : rest.head? ≠ some ' ') :
    cutSpaces cut (front ++ rest) = cutSpaces cut front ++ rest := by
  cases cut with
  | false => rfl
  | true => exact dropSpaces_append stop

theorem cutSpaces_sublist {cut : Bool} {front : Text} : ∀ c ∈ cutSpaces cut front, c ∈ front := by
  intro c mem
  cases cut with
  | false => exact mem
  | true => exact (List.dropWhile_sublist _).subset mem

theorem head_append {name rest : Text} (named : isName name = true) :
    (name ++ rest).head? ≠ some ' ' := by
  intro same
  cases name with
  | nil => cases named
  | cons c name =>
      cases same
      exact name_without named (by decide) List.mem_cons_self

/-- A character that has to be escaped does not occur, unless references are written with it. -/
theorem renderPieces_without {escaped : List Char} {pieces : List Piece} {c : Char}
    (formed : ∀ piece ∈ pieces, piece.isWellFormed escaped = true) (isEscaped : c ∈ escaped)
    (apart : c ≠ '&' ∧ c ≠ ';' ∧ ¬(c.isAlphanum = true ∨ c = '#')) : c ∉ renderPieces pieces := by
  intro mem
  obtain ⟨piece, found, inside⟩ := List.mem_flatMap.mp mem
  have here := formed piece found
  cases piece with
  | literal d =>
      obtain rfl := List.mem_singleton.mp inside
      simp [Piece.isWellFormed, isEscaped] at here
  | reference name d =>
      simp only [Piece.isWellFormed, Bool.and_eq_true] at here
      simp only [Piece.render, List.mem_cons, List.mem_append, List.not_mem_nil, or_false] at inside
      rcases inside with same | mem | same
      · exact apart.1 same
      · exact apart.2.2 (refersTo_chars here.2 _ mem)
      · exact apart.2.1 same

theorem value_without {quote : Char} {value : List Piece} (isQuote : quote = '"' ∨ quote = Char.ofNat 39)
    (wellFormed : ∀ piece ∈ value, piece.isWellFormed ['<', '&', quote] = true) :
    quote ∉ renderPieces value := by
  refine renderPieces_without wellFormed (by simp) ?_
  rcases isQuote with rfl | rfl <;> decide

/-- An attribute whose name is free of the prefix is kept up to its value. -/
theorem simpleStripJunos_name {a : WrittenAttribute} (formed : a.WellFormed)
    (free : ¬junosPrefix <:+: a.name) (more : Text) :
    simpleStripJunos (a.name ++ (a.beforeEquals ++ '=' :: (a.afterEquals ++ a.quote :: more))) =
      a.name ++ (a.beforeEquals ++ '=' :: (a.afterEquals ++ a.quote :: simpleStripJunos more)) := by
  have before : ∀ c ∈ a.beforeEquals, isXmlSpace c = true := fun c mem =>
    formed.spaces c (by simp [mem])
  have after : ∀ c ∈ a.afterEquals, isXmlSpace c = true := fun c mem =>
    formed.spaces c (by simp [mem])
  have quote : a.quote ≠ 'j' := by
    rcases formed.quote with same | same <;> rw [same] <;> decide
  have inner : ∀ c ∈ a.beforeEquals ++ '=' :: (a.afterEquals ++ [a.quote]), c ≠ 'j' := by
    intro c mem
    simp only [List.mem_append, List.mem_cons, List.not_mem_nil, or_false] at mem
    rcases mem with mem | rfl | mem | rfl
    · exact (space_plain (before c mem)).1
    · decide
    · exact (space_plain (after c mem)).1
    · exact quote
  have bounded : Bounded (a.beforeEquals ++ '=' :: (a.afterEquals ++ a.quote :: more)) := by
    cases shape : a.beforeEquals with
    | nil => exact bounded_cons (by decide)
    | cons c rest =>
        exact bounded_cons (space_plain (before c (by rw [shape]; exact List.mem_cons_self))).2.2
  have middle := @simpleStripJunos_plain _ more inner
  simp only [List.append_assoc, List.cons_append, List.nil_append] at middle
  rw [simpleStripJunos_append free bounded, middle]

end Characters

/-- The attributes of a tag, and the white space behind them. -/
theorem strip_attributes {attributes : List WrittenAttribute} {tail rest : Text}
    (formed : ∀ a ∈ attributes, a.WellFormed) (cuttable : ∀ a ∈ attributes, Cuttable a)
    (spaces : ∀ c ∈ tail, isXmlSpace c = true) (stop : rest.head? ≠ some ' ') :
    ∀ {cut : Bool} {carry : Text},
      carry ++ simpleStripJunos (cutSpaces cut (renderAttributes attributes ++ (tail ++ rest))) =
        renderAttributes (stripAttributes cut carry attributes tail).1 ++
          ((stripAttributes cut carry attributes tail).2 ++ simpleStripJunos rest) := by
  induction attributes with
  | nil =>
      intro cut carry
      have plain : ∀ c ∈ cutSpaces cut tail, c ≠ 'j' := fun c mem =>
        (space_plain (spaces c (cutSpaces_sublist c mem))).1
      show carry ++ simpleStripJunos (cutSpaces cut (tail ++ rest)) = _
      rw [cutSpaces_append stop, simpleStripJunos_plain plain, ← List.append_assoc]
      rfl
  | cons a others ih =>
      intro cut carry
      obtain ⟨here, later⟩ := List.forall_mem_cons.mp formed
      obtain ⟨cutHere, cutLater⟩ := List.forall_mem_cons.mp cuttable
      have shape : renderAttributes (a :: others) ++ (tail ++ rest) = a.lead ++ (a.name ++
          (a.beforeEquals ++ '=' :: (a.afterEquals ++ a.quote :: (renderPieces a.value ++
            a.quote :: (renderAttributes others ++ (tail ++ rest)))))) := by
        simp [renderAttributes, WrittenAttribute.render]
      have space : ∀ c, c ∈ a.lead ∨ c ∈ a.beforeEquals ∨ c ∈ a.afterEquals →
          isXmlSpace c = true := by
        intro c mem
        exact here.spaces c (by simpa [or_assoc] using mem)
      have lead : ∀ c ∈ cutSpaces cut a.lead, c ≠ 'j' := fun c mem =>
        (space_plain (space c (.inl (cutSpaces_sublist c mem)))).1
      rw [shape, cutSpaces_append (head_append here.name), simpleStripJunos_plain lead,
        ← List.append_assoc]
      unfold Cuttable at cutHere
      cases junos : isJunos a with
      | true =>
          rw [junos, if_pos rfl] at cutHere
          have absent : '=' ∉ a.name ++ a.beforeEquals := by
            rw [List.mem_append]
            rintro (mem | mem)
            · exact name_without here.name (by decide) mem
            · exact (space_plain (space _ (.inr (.inl mem)))).2.1 rfl
          have starts : junosPrefix <+: a.name := startsWith_iff.mp junos
          have removed := @afterAttribute_append _ _ (renderAttributes others ++ (tail ++ rest)) _
            absent here.quote (value_without here.quote here.value)
          rw [List.append_assoc] at removed
          rw [cutHere, List.nil_append, simpleStripJunos_cut (starts.trans (List.prefix_append _ _)),
            removed]
          have going := @ih later cutLater true (carry ++ cutSpaces cut a.lead)
          simp only [stripAttributes, junos, if_true]
          exact going
      | false =>
          rw [junos, if_neg Bool.false_ne_true] at cutHere
          have quotes : a.quote ≠ 'j' ∧ a.quote ∉ junosPrefix := by
            rcases here.quote with same | same <;> rw [same] <;> decide
          generalize renderAttributes others ++ (tail ++ rest) = more at ih ⊢
          have closing : simpleStripJunos (a.quote :: more) = a.quote :: simpleStripJunos more :=
            @simpleStripJunos_plain [a.quote] more (by simpa using quotes.1)
          have value : simpleStripJunos (renderPieces a.value ++ a.quote :: more) =
              renderPieces a.value ++ a.quote :: simpleStripJunos more := by
            rw [simpleStripJunos_append cutHere.2 (bounded_cons quotes.2), closing]
          have going := @ih later cutLater false []
          rw [List.nil_append, cutSpaces, if_neg Bool.false_ne_true] at going
          rw [simpleStripJunos_name here cutHere.1, value, going]
          simp [stripAttributes, junos, renderAttributes, WrittenAttribute.render]

/-! ## The cut of markup -/

theorem closing_bounded (rest : Text) : Bounded ('<' :: rest) := bounded_cons (by decide)

theorem renderAll_bounded {ms : List Markup} {rest : Text}
    (noChars : (ms.head?.any isChars) = false) (bounded : Bounded rest) :
    Bounded (renderAll ms ++ rest) := by
  cases ms with
  | nil => exact bounded
  | cons m ms =>
      cases m with
      | element name attributes tail children closing => exact closing_bounded _
      | chars pieces => cases noChars
      | aside kind content => cases kind <;> exact closing_bounded _

theorem spaces_bounded {space rest : Text} (spaces : ∀ c ∈ space, isXmlSpace c = true)
    (bounded : Bounded rest) : Bounded (space ++ rest) := by
  cases space with
  | nil => exact bounded
  | cons c space => exact bounded_cons (space_plain (spaces c List.mem_cons_self)).2.2

theorem attributes_bounded {attributes : List WrittenAttribute} {rest : Text}
    (formed : ∀ a ∈ attributes, a.WellFormed) (bounded : Bounded rest) :
    Bounded (renderAttributes attributes ++ rest) := by
  cases attributes with
  | nil => exact bounded
  | cons a attributes =>
      have here := formed a List.mem_cons_self
      cases lead : a.lead with
      | nil => exact absurd lead here.lead
      | cons c more =>
          have space := here.spaces c (by rw [lead]; simp)
          rw [renderAttributes, List.flatMap_cons, WrittenAttribute.render, lead]
          exact bounded_cons (space_plain space).2.2

theorem strip_aside {kind : Aside} {content rest : Text} (free : ¬junosPrefix <:+: content) :
    simpleStripJunos (kind.render content ++ rest) =
      kind.render content ++ simpleStripJunos rest := by
  cases kind with
  | comment =>
      have opening : simpleStripJunos (['<', '!', '-', '-'] ++ (content ++ (['-', '-', '>'] ++ rest))) =
          ['<', '!', '-', '-'] ++ _ := simpleStripJunos_plain (by simp)
      have closing : simpleStripJunos (['-', '-', '>'] ++ rest) = ['-', '-', '>'] ++ _ :=
        simpleStripJunos_plain (by simp)
      have bounded : Bounded (['-', '-', '>'] ++ rest) := bounded_cons (by decide)
      rw [simpleStripJunos_append free bounded, closing] at opening
      simpa [Aside.render] using opening
  | instruction =>
      have opening : simpleStripJunos (['<', '?'] ++ (content ++ (['?', '>'] ++ rest))) =
          ['<', '?'] ++ _ := simpleStripJunos_plain (by simp)
      have closing : simpleStripJunos (['?', '>'] ++ rest) = ['?', '>'] ++ _ :=
        simpleStripJunos_plain (by simp)
      have bounded : Bounded (['?', '>'] ++ rest) := bounded_cons (by decide)
      rw [simpleStripJunos_append free bounded, closing] at opening
      simpa [Aside.render] using opening

/-- A start tag up to its end. -/
theorem strip_startTag {name tail rest : Text} {attributes : List WrittenAttribute}
    (formed : ∀ a ∈ attributes, a.WellFormed) (spaces : ∀ c ∈ tail, isXmlSpace c = true)
    (free : ¬junosPrefix <:+: name) (cuttable : ∀ a ∈ attributes, Cuttable a)
    (stop : rest.head? ≠ some ' ') (bounded : Bounded rest) :
    simpleStripJunos ('<' :: (name ++ (renderAttributes attributes ++ (tail ++ rest)))) =
      '<' :: (name ++ (renderAttributes (stripAttributes false [] attributes tail).1 ++
        ((stripAttributes false [] attributes tail).2 ++ simpleStripJunos rest))) := by
  have opening := @simpleStripJunos_plain ['<']
    (name ++ (renderAttributes attributes ++ (tail ++ rest))) (by simp)
  have cut := @strip_attributes attributes tail rest formed cuttable spaces stop false []
  rw [List.nil_append, cutSpaces, if_neg Bool.false_ne_true] at cut
  rw [simpleStripJunos_append free (attributes_bounded formed (spaces_bounded spaces bounded)),
    cut] at opening
  exact opening

theorem strip_endTag {name space rest : Text} (free : ¬junosPrefix <:+: name)
    (spaces : ∀ c ∈ space, isXmlSpace c = true) :
    simpleStripJunos ('<' :: '/' :: (name ++ (space ++ '>' :: rest))) =
      '<' :: '/' :: (name ++ (space ++ '>' :: simpleStripJunos rest)) := by
  have opening := @simpleStripJunos_plain ['<', '/'] (name ++ (space ++ '>' :: rest)) (by simp)
  have closing := @simpleStripJunos_plain (space ++ ['>']) rest (by
    intro c mem
    rcases List.mem_append.mp mem with inside | last
    · exact (space_plain (spaces c inside)).1
    · obtain rfl := List.mem_singleton.mp last
      decide)
  simp only [List.append_assoc, List.cons_append, List.nil_append] at opening closing
  rw [simpleStripJunos_append free (spaces_bounded spaces (bounded_cons (by decide))),
    closing] at opening
  exact opening

mutual

theorem strip_render : ∀ {m : Markup} {rest : Text}, m.WellFormed → MarksAttributes m →
    (m.isChars = true → Bounded rest) →
    simpleStripJunos (m.render ++ rest) = (strip m).render ++ simpleStripJunos rest
  | .chars pieces, rest, _, marks, bounded => by
      exact simpleStripJunos_append marks (bounded rfl)
  | .aside kind content, rest, _, marks, _ => by
      exact strip_aside marks
  | .element name attributes tail children none, rest, ⟨tags, _, _⟩, ⟨free, cuttable, _⟩, _ => by
      have spaces : ∀ c ∈ tail, isXmlSpace c = true := fun c mem => tags.spaces c (by simp [mem])
      have closing := @simpleStripJunos_plain ['/', '>'] rest (by simp)
      have start := @strip_startTag name tail ('/' :: '>' :: rest) attributes tags.each spaces free
        cuttable (by simp) (bounded_cons (by decide))
      rw [List.cons_append, List.cons_append, List.nil_append] at closing
      rw [closing] at start
      simpa [render, strip] using start
  | .element name attributes tail children (some space), rest, ⟨tags, inner, _⟩,
      ⟨free, cuttable, marks⟩, _ => by
      have spaces : ∀ c ∈ tail, isXmlSpace c = true := fun c mem => tags.spaces c (by simp [mem])
      have endSpaces : ∀ c ∈ space, isXmlSpace c = true := fun c mem =>
        tags.spaces c (by simp [mem])
      have body := @stripAll_render children ('<' :: '/' :: (name ++ (space ++ '>' :: rest))) inner
        marks (closing_bounded _)
      rw [strip_endTag free endSpaces] at body
      have closing := @simpleStripJunos_plain ['>']
        (renderAll children ++ '<' :: '/' :: (name ++ (space ++ '>' :: rest))) (by simp)
      rw [body, List.cons_append, List.nil_append] at closing
      have start := @strip_startTag name tail
        ('>' :: (renderAll children ++ '<' :: '/' :: (name ++ (space ++ '>' :: rest)))) attributes
        tags.each spaces free cuttable (by simp) (bounded_cons (by decide))
      rw [closing] at start
      simpa [render, strip] using start

theorem stripAll_render : ∀ {ms : List Markup} {rest : Text}, WellFormedContent ms →
    AllMarkAttributes ms → Bounded rest →
    simpleStripJunos (renderAll ms ++ rest) = renderAll (stripAll ms) ++ simpleStripJunos rest
  | [], rest, _, _, _ => rfl
  | m :: ms, rest, formed, marks, bounded => by
      rw [renderAll, List.append_assoc, strip_render formed.1 marks.1
        fun isText => renderAll_bounded (formed.2.2 isText) bounded,
        stripAll_render formed.2.1 marks.2 bounded, stripAll, renderAll, List.append_assoc]

end

/-! ## What the cut keeps -/

mutual

def withoutJunos : XmlNode → XmlNode
  | .element name attributes children =>
      .element name (attributes.filter fun a => !Text.startsWith a.name junosPrefix)
        (withoutJunosAll children)
  | .text content => .text content
  | .comment => .comment

def withoutJunosAll : List XmlNode → List XmlNode
  | [] => []
  | node :: rest => withoutJunos node :: withoutJunosAll rest

end

theorem stripAttributes_map {β : Type} {f : WrittenAttribute → β}
    (blind : ∀ a lead, f { a with lead } = f a) {attributes : List WrittenAttribute} {tail : Text} :
    ∀ {cut : Bool} {carry : Text}, (stripAttributes cut carry attributes tail).1.map f =
      (attributes.filter fun a => !isJunos a).map f := by
  induction attributes with
  | nil =>
      intro cut carry
      rfl
  | cons a rest ih =>
      intro cut carry
      rw [stripAttributes]
      cases junos : isJunos a with
      | true => simp [junos, ih]
      | false => simp [junos, ih, blind]

theorem stripAttributes_formed {attributes : List WrittenAttribute} {tail : Text}
    (formed : ∀ a ∈ attributes, a.WellFormed) (spaces : ∀ c ∈ tail, isXmlSpace c = true) :
    ∀ {cut : Bool} {carry : Text}, (∀ c ∈ carry, isXmlSpace c = true) →
      (cut = true → carry ≠ []) →
      (∀ b ∈ (stripAttributes cut carry attributes tail).1, b.WellFormed) ∧
        ∀ c ∈ (stripAttributes cut carry attributes tail).2, isXmlSpace c = true := by
  induction attributes with
  | nil =>
      intro cut carry carried _
      refine ⟨nofun, fun c mem => ?_⟩
      rcases List.mem_append.mp mem with early | late
      · exact carried c early
      · exact spaces c (cutSpaces_sublist c late)
  | cons a rest ih =>
      intro cut carry carried nonempty
      obtain ⟨here, later⟩ := List.forall_mem_cons.mp formed
      have lead : ∀ c ∈ carry ++ cutSpaces cut a.lead, isXmlSpace c = true := by
        intro c mem
        rcases List.mem_append.mp mem with early | late
        · exact carried c early
        · exact here.spaces c (by simp [cutSpaces_sublist c late])
      have some_lead : carry ++ cutSpaces cut a.lead ≠ [] := by
        intro empty
        obtain ⟨noCarry, noLead⟩ := List.append_eq_nil_iff.mp empty
        cases cut with
        | false => exact here.lead noLead
        | true => exact nonempty rfl noCarry
      rw [stripAttributes]
      cases junos : isJunos a with
      | true => exact ih later lead fun _ => some_lead
      | false =>
          obtain ⟨others, last⟩ := @ih later false [] (by simp) nofun
          refine ⟨List.forall_mem_cons.mpr ⟨⟨some_lead, fun c mem => ?_, here.name, here.quote,
            here.value⟩, others⟩, last⟩
          rw [List.append_assoc] at mem
          rcases List.mem_append.mp mem with front | behind
          · exact lead c front
          · exact here.spaces c (by rw [List.append_assoc]; exact List.mem_append_right _ behind)

mutual

theorem strip_tree : ∀ m : Markup, (strip m).tree = withoutJunos m.tree
  | .chars pieces => rfl
  | .aside kind content => rfl
  | .element name attributes tail children closing => by
      have kept := @stripAttributes_map _ WrittenAttribute.meaning (fun _ _ => rfl) attributes tail false []
      rw [strip, tree, tree, withoutJunos, kept, stripAll_trees children, List.filter_map]
      rfl

theorem stripAll_trees : ∀ ms : List Markup, trees (stripAll ms) = withoutJunosAll (trees ms)
  | [] => rfl
  | m :: ms => by
      rw [stripAll, trees, trees, withoutJunosAll, strip_tree m, stripAll_trees ms]

end

theorem strip_isChars (m : Markup) : (strip m).isChars = m.isChars ∧
    (strip m).isElement = m.isElement := by
  cases m <;> exact ⟨rfl, rfl⟩

theorem stripAll_head (ms : List Markup) :
    (stripAll ms).head?.any isChars = ms.head?.any isChars := by
  cases ms with
  | nil => rfl
  | cons m ms => exact (strip_isChars m).1

mutual

theorem strip_formed : ∀ {m : Markup}, m.WellFormed → (strip m).WellFormed
  | .chars pieces, formed => formed
  | .aside kind content, formed => formed
  | .element name attributes tail children closing, ⟨tags, inner, closed⟩ => by
      have spaces : ∀ c ∈ tail, isXmlSpace c = true := fun c mem => tags.spaces c (by simp [mem])
      obtain ⟨each, last⟩ := @stripAttributes_formed attributes tail tags.each spaces false []
        (by simp) nofun
      have names := @stripAttributes_map _ WrittenAttribute.name (fun _ _ => rfl) attributes tail false []
      refine ⟨⟨tags.named, each, ?_, ?_⟩, stripAll_formed inner, fun none_closing => ?_⟩
      · rw [names]
        exact tags.distinct.sublist (List.filter_sublist.map _)
      · intro c mem
        rcases List.mem_append.mp mem with front | behind
        · exact last c front
        · exact tags.spaces c (List.mem_append_right _ behind)
      · rw [closed none_closing, stripAll]

theorem stripAll_formed : ∀ {ms : List Markup}, WellFormedContent ms →
    WellFormedContent (stripAll ms)
  | [], _ => trivial
  | m :: ms, ⟨here, later, apart⟩ =>
      ⟨strip_formed here, stripAll_formed later, fun isText => by
        rw [stripAll_head]
        exact apart ((strip_isChars m).1.symm.trans isText)⟩

end

/-! ## The escaping of markup -/

def escapePiece : Piece → Piece
  | .literal c => if c = '>' then .reference "gt".toList '>' else .literal c
  | .reference name c => .reference name c

mutual

def escapeMarkup : Markup → Markup
  | .element name attributes tail children closing =>
      .element name attributes tail (escapeAll children) closing
  | .chars pieces => .chars (pieces.map escapePiece)
  | .aside kind content => .aside kind content

def escapeAll : List Markup → List Markup
  | [] => []
  | m :: rest => escapeMarkup m :: escapeAll rest

end

mutual

/-- The next bracket behind the start of a tag is its end, and a tag is seen where it starts. -/
def TagsPlain : Markup → Prop
  | .element name attributes _ children _ =>
      opensTag name = true ∧ (∀ a ∈ attributes, '>' ∉ renderPieces a.value) ∧ AllTagsPlain children
  | .chars _ => True
  | .aside _ content => '>' ∉ content

def AllTagsPlain : List Markup → Prop
  | [] => True
  | m :: rest => TagsPlain m ∧ AllTagsPlain rest

end

theorem escape_tag {tag rest : Text} {inText : Bool} (opens : opensTag (tag ++ '>' :: rest) = true)
    (plain : '>' ∉ tag) :
    escapeTextFrom inText ('<' :: (tag ++ '>' :: rest)) =
      '<' :: (tag ++ '>' :: escapeTextFrom true rest) := by
  have inside : ∀ tag : Text, '>' ∉ tag →
      escapeTextFrom false (tag ++ '>' :: rest) = tag ++ '>' :: escapeTextFrom true rest := by
    intro tag
    induction tag with
    | nil =>
        intro _
        rfl
    | cons c tag ih =>
        intro absent
        rw [List.mem_cons, not_or] at absent
        have other : (c == '>') = false := by simpa using Ne.symm absent.1
        rw [List.cons_append, escapeTextFrom, if_neg Bool.false_ne_true, other, ih absent.2,
          List.cons_append]
  cases inText with
  | true =>
      rw [escapeTextFrom, if_pos rfl, opens, if_pos (by simp), inside tag plain]
  | false =>
      rw [escapeTextFrom, if_neg Bool.false_ne_true, ← inside tag plain]
      rfl

theorem escape_plain {text rest : Text} (plain : ∀ c ∈ text, c ≠ '<' ∧ c ≠ '>') :
    escapeTextFrom true (text ++ rest) = text ++ escapeTextFrom true rest := by
  induction text with
  | nil => rfl
  | cons c text ih =>
      obtain ⟨here, later⟩ := List.forall_mem_cons.mp plain
      have kept : escapeAngleBracket c = [c] := by
        unfold escapeAngleBracket
        split
        · exact absurd rfl here.1
        · exact absurd rfl here.2
        · rfl
      rw [List.cons_append, escapeTextFrom, if_pos rfl, if_neg (by simp [here.1]), kept, ih later]
      rfl

theorem escape_pieces {pieces : List Piece} {rest : Text}
    (formed : ∀ piece ∈ pieces, piece.isWellFormed ['<', '&'] = true) :
    escapeTextFrom true (renderPieces pieces ++ rest) =
      renderPieces (pieces.map escapePiece) ++ escapeTextFrom true rest := by
  induction pieces with
  | nil => rfl
  | cons piece pieces ih =>
      obtain ⟨here, later⟩ := List.forall_mem_cons.mp formed
      have going := ih later
      have split : ∀ piece : Piece, ∀ more, renderPieces (piece :: more) =
          piece.render ++ renderPieces more := fun _ _ => rfl
      rw [split, List.append_assoc, List.map_cons, split, List.append_assoc, ← going]
      cases piece with
      | literal c =>
          by_cases bracket : c = '>'
          · subst bracket
            rw [escapePiece, if_pos rfl]
            rfl
          · rw [escapePiece, if_neg bracket]
            apply escape_plain
            intro d mem
            obtain rfl := List.mem_singleton.mp mem
            refine ⟨?_, bracket⟩
            rintro rfl
            simp [Piece.isWellFormed] at here
      | reference name c =>
          apply escape_plain
          intro d mem
          simp only [Piece.isWellFormed, Bool.and_eq_true] at here
          simp only [Piece.render, List.mem_cons, List.mem_append, List.not_mem_nil, or_false] at mem
          rcases mem with rfl | mem | rfl
          · decide
          · constructor <;>
            · rintro rfl
              exact absurd (refersTo_chars here.2 _ mem) (by decide)
          · decide

theorem spaces_plain {space : Text} (spaces : ∀ c ∈ space, isXmlSpace c = true) : '>' ∉ space := by
  intro mem
  exact absurd (spaces _ mem) (by decide)

/-- A character that is found in values only. -/
theorem attributes_free {c : Char} {attributes : List WrittenAttribute}
    (formed : ∀ a ∈ attributes, a.WellFormed) (noSpace : isXmlSpace c = false)
    (other : c ∈ ['=', ' ', '<', '>', '"', Char.ofNat 39, '/', '&'])
    (apart : c ≠ '=' ∧ c ≠ '"' ∧ c ≠ Char.ofNat 39)
    (plain : ∀ a ∈ attributes, c ∉ renderPieces a.value) : c ∉ renderAttributes attributes := by
  intro mem
  obtain ⟨a, found, inside⟩ := List.mem_flatMap.mp mem
  have here := formed a found
  have spaces (space : Text) (within : ∀ d ∈ space, d ∈ a.lead ++ a.beforeEquals ++ a.afterEquals) :
      c ∉ space := by
    intro mem
    rw [here.spaces c (within c mem)] at noSpace
    cases noSpace
  have quote : c ≠ a.quote := by
    rcases here.quote with same | same <;> rw [same]
    · exact apart.2.1
    · exact apart.2.2
  simp only [WrittenAttribute.render, List.mem_append, List.mem_cons, List.not_mem_nil,
    or_false] at inside
  rcases inside with mem | mem | mem | mem | mem | mem | mem | mem
  · exact spaces a.lead (fun d inLead => by simp [inLead]) mem
  · exact name_without here.name other mem
  · exact spaces a.beforeEquals (fun d before => by simp [before]) mem
  · exact apart.1 mem
  · exact spaces a.afterEquals (fun d after => by simp [after]) mem
  · exact quote mem
  · exact plain a found mem
  · exact quote mem

theorem attributes_plain {attributes : List WrittenAttribute}
    (formed : ∀ a ∈ attributes, a.WellFormed)
    (plain : ∀ a ∈ attributes, '>' ∉ renderPieces a.value) : '>' ∉ renderAttributes attributes :=
  attributes_free formed rfl (by decide) (by decide) plain

theorem attributes_unopened {attributes : List WrittenAttribute}
    (formed : ∀ a ∈ attributes, a.WellFormed) : '<' ∉ renderAttributes attributes :=
  attributes_free formed rfl (by decide) (by decide) fun a inside =>
    renderPieces_without (formed a inside).value List.mem_cons_self (by decide)

theorem escape_aside {kind : Aside} {content rest : Text} (plain : '>' ∉ content) :
    escapeTextFrom true (kind.render content ++ rest) =
      kind.render content ++ escapeTextFrom true rest := by
  cases kind with
  | comment =>
      have passed := @escape_tag ('!' :: '-' :: '-' :: (content ++ ['-', '-'])) rest true rfl
        (by simp [plain])
      simpa [Aside.render] using passed
  | instruction =>
      have passed := @escape_tag ('?' :: (content ++ ['?'])) rest true rfl (by simp [plain])
      simpa [Aside.render] using passed

mutual

theorem escape_render : ∀ {m : Markup} {rest : Text}, m.WellFormed → TagsPlain m →
    escapeTextFrom true (m.render ++ rest) = (escapeMarkup m).render ++ escapeTextFrom true rest
  | .chars pieces, rest, formed, _ => by exact escape_pieces formed.each
  | .aside kind content, rest, _, plain => by exact escape_aside plain
  | .element name attributes tail children none, rest, ⟨tags, _, _⟩, ⟨opens, values, _⟩ => by
      have spaces : ∀ c ∈ tail, isXmlSpace c = true := fun c mem => tags.spaces c (by simp [mem])
      have passed := @escape_tag (name ++ (renderAttributes attributes ++ (tail ++ ['/']))) rest true
        (by rw [List.append_assoc]; exact opensTag_append opens)
        (by simp [name_without tags.named, attributes_plain tags.each values, spaces_plain spaces])
      simpa [render, escapeMarkup] using passed
  | .element name attributes tail children (some space), rest, ⟨tags, inner, _⟩,
      ⟨opens, values, plain⟩ => by
      have spaces : ∀ c ∈ tail, isXmlSpace c = true := fun c mem => tags.spaces c (by simp [mem])
      have endSpaces : ∀ c ∈ space, isXmlSpace c = true := fun c mem =>
        tags.spaces c (by simp [mem])
      have closing := @escape_tag ('/' :: (name ++ space)) rest true rfl
        (by simp [name_without tags.named, spaces_plain endSpaces])
      have body := @escapeAll_render children ('<' :: '/' :: (name ++ (space ++ '>' :: rest))) inner
        plain
      have passed := @escape_tag (name ++ (renderAttributes attributes ++ tail))
        (renderAll children ++ '<' :: '/' :: (name ++ (space ++ '>' :: rest))) true
        (by rw [List.append_assoc]; exact opensTag_append opens)
        (by simp [name_without tags.named, attributes_plain tags.each values, spaces_plain spaces])
      simp only [List.cons_append, List.append_assoc] at closing
      rw [closing] at body
      rw [body] at passed
      simpa [render, escapeMarkup] using passed

theorem escapeAll_render : ∀ {ms : List Markup} {rest : Text}, WellFormedContent ms →
    AllTagsPlain ms →
    escapeTextFrom true (renderAll ms ++ rest) = renderAll (escapeAll ms) ++ escapeTextFrom true rest
  | [], rest, _, _ => rfl
  | m :: ms, rest, formed, plain => by
      rw [renderAll, List.append_assoc, escape_render formed.1 plain.1,
        escapeAll_render formed.2.1 plain.2, escapeAll, renderAll, List.append_assoc]

end

theorem decode_escape (white : Char → Char) (kept : white '>' = '>') (pieces : List Piece) :
    decode white (pieces.map escapePiece) = decode white pieces := by
  induction pieces with
  | nil => rfl
  | cons piece rest ih =>
      have head : (rest.map escapePiece).head? = some (.literal '\n') ↔
          rest.head? = some (.literal '\n') := by
        cases rest with
        | nil => simp
        | cons next rest =>
            cases next with
            | literal c =>
                by_cases bracket : c = '>'
                · subst bracket
                  simp [escapePiece]
                · simp [escapePiece, bracket]
            | reference name c => simp [escapePiece]
      cases piece with
      | literal c =>
          by_cases bracket : c = '>'
          · subst bracket
            simp [escapePiece, decode, ih, kept]
          · simp only [List.map_cons, escapePiece, if_neg bracket, decode, ih, head]
      | reference name c => simp [escapePiece, decode, ih]

theorem escape_pieces_formed {pieces : List Piece} (formed : WellFormedChars pieces) :
    WellFormedChars (pieces.map escapePiece) := by
  have each : ∀ piece ∈ pieces.map escapePiece, piece.isWellFormed ['<', '&'] = true ∧
      '>' ∉ piece.render := by
    intro escaped mem
    obtain ⟨piece, found, rfl⟩ := List.mem_map.mp mem
    have here := formed.each piece found
    cases piece with
    | literal c =>
        by_cases bracket : c = '>'
        · subst bracket
          exact ⟨by decide, by decide⟩
        · rw [escapePiece, if_neg bracket]
          exact ⟨here, by simpa [Piece.render] using Ne.symm bracket⟩
    | reference name c =>
        refine ⟨here, fun inside => ?_⟩
        simp only [Piece.isWellFormed, Bool.and_eq_true] at here
        simp only [escapePiece, Piece.render, List.mem_cons, List.mem_append, List.not_mem_nil,
          or_false] at inside
        rcases inside with same | inside | same
        · exact absurd same (by decide)
        · exact absurd (refersTo_chars here.2 _ inside) (by decide)
        · exact absurd same (by decide)
  refine ⟨by simpa using formed.nonempty, fun piece mem => (each piece mem).1, fun inside => ?_⟩
  obtain ⟨piece, mem, bracket⟩ := List.mem_flatMap.mp (inside.subset (by simp : '>' ∈ [']', ']', '>']))
  exact (each piece mem).2 bracket

theorem escape_isChars (m : Markup) : (escapeMarkup m).isChars = m.isChars ∧
    (escapeMarkup m).isElement = m.isElement := by
  cases m <;> exact ⟨rfl, rfl⟩

theorem escapeAll_head (ms : List Markup) :
    (escapeAll ms).head?.any isChars = ms.head?.any isChars := by
  cases ms with
  | nil => rfl
  | cons m ms => exact (escape_isChars m).1

mutual

theorem escape_formed : ∀ {m : Markup}, m.WellFormed → (escapeMarkup m).WellFormed
  | .chars pieces, formed => escape_pieces_formed formed
  | .aside kind content, formed => formed
  | .element name attributes tail children closing, ⟨tags, inner, closed⟩ =>
      ⟨tags, escapeAll_formed inner, fun none_closing => by rw [closed none_closing, escapeAll]⟩

theorem escapeAll_formed : ∀ {ms : List Markup}, WellFormedContent ms →
    WellFormedContent (escapeAll ms)
  | [], _ => trivial
  | m :: ms, ⟨here, later, apart⟩ =>
      ⟨escape_formed here, escapeAll_formed later, fun isText => by
        rw [escapeAll_head]
        exact apart ((escape_isChars m).1.symm.trans isText)⟩

end

mutual

theorem escape_tree : ∀ m : Markup, (escapeMarkup m).tree = m.tree
  | .chars pieces => by rw [escapeMarkup, tree, tree, decode_escape id rfl]
  | .aside kind content => rfl
  | .element name attributes tail children closing => by
      rw [escapeMarkup, tree, tree, escapeAll_trees children]

theorem escapeAll_trees : ∀ ms : List Markup, trees (escapeAll ms) = trees ms
  | [] => rfl
  | m :: ms => by rw [escapeAll, trees, trees, escape_tree m, escapeAll_trees ms]

end

/-! ## The whole reply -/

/-- The sanitised reply is a document with the tree of the reply, without the attributes. -/
def Preserved (document : List Markup) : Prop :=
  ∃ document', WellFormedDocument document' ∧
    renderAll document' = sanitizeRustezXml (renderAll document) ∧
    trees document' = withoutJunosAll (trees document)

/-- Every cut is one of an attribute, and where brackets are escaped the tags are seen as tags. -/
structure Sanitizable (document : List Markup) : Prop where
  marks : AllMarkAttributes document
  tags : hasBareAngleBracketsInText (renderAll document) = true →
    AllTagsPlain (stripAll document)

theorem stripAll_eq_map (ms : List Markup) : stripAll ms = ms.map strip := by
  induction ms with
  | nil => rfl
  | cons m ms ih => rw [stripAll, ih, List.map_cons]

theorem escapeAll_eq_map (ms : List Markup) : escapeAll ms = ms.map escapeMarkup := by
  induction ms with
  | nil => rfl
  | cons m ms ih => rw [escapeAll, ih, List.map_cons]

theorem stripAll_document {document : List Markup} (formed : WellFormedDocument document) :
    WellFormedDocument (stripAll document) := by
  refine ⟨stripAll_formed formed.content, ?_, ?_⟩
  · rw [stripAll_eq_map, List.filter_map, List.length_map, ← formed.root]
    congr 1
    exact List.filter_congr fun m _ => (strip_isChars m).2
  · rw [stripAll_eq_map]
    intro m mem pieces same
    obtain ⟨original, found, rfl⟩ := List.mem_map.mp mem
    cases original with
    | chars pieces' => exact formed.around _ found pieces same
    | element name attributes tail children closing => cases same
    | aside kind content => cases same

theorem escapeAll_document {document : List Markup} (formed : WellFormedDocument document) :
    WellFormedDocument (escapeAll document) := by
  refine ⟨escapeAll_formed formed.content, ?_, ?_⟩
  · rw [escapeAll_eq_map, List.filter_map, List.length_map, ← formed.root]
    congr 1
    exact List.filter_congr fun m _ => (escape_isChars m).2
  · rw [escapeAll_eq_map]
    intro m mem pieces same piece inside
    obtain ⟨original, found, rfl⟩ := List.mem_map.mp mem
    cases original with
    | chars pieces' =>
        cases same
        obtain ⟨piece', found', rfl⟩ := List.mem_map.mp inside
        obtain ⟨c, rfl, space⟩ := formed.around _ found pieces' rfl piece' found'
        refine ⟨c, ?_, space⟩
        rw [escapePiece, if_neg]
        rintro rfl
        exact absurd space (by decide)
    | element name attributes tail children closing => cases same
    | aside kind content => cases same

theorem document_start {document : List Markup} (formed : WellFormedDocument document)
    {rest : Text} (starts : renderAll document = '<' :: rest) (plain : AllTagsPlain document) :
    opensTag rest = true := by
  cases document with
  | nil => cases starts
  | cons m ms =>
      cases m with
      | element name attributes tail children closing =>
          simp only [renderAll, render, List.cons_append, List.cons.injEq, true_and,
            List.append_assoc] at starts
          rw [← starts]
          exact opensTag_append plain.1.1
      | aside kind content =>
          cases kind <;>
          · simp only [renderAll, render, Aside.render, List.cons_append, List.cons.injEq,
              true_and] at starts
            rw [← starts]
            rfl
      | chars pieces =>
          exfalso
          have spaces := formed.around _ List.mem_cons_self pieces rfl
          have nonempty := formed.content.1.nonempty
          cases pieces with
          | nil => exact nonempty rfl
          | cons piece pieces =>
              obtain ⟨c, rfl, space⟩ := spaces piece List.mem_cons_self
              simp only [renderAll, render, renderPieces, List.flatMap_cons, Piece.render,
                List.cons_append, List.cons.injEq] at starts
              rw [starts.1] at space
              exact absurd space (by decide)

theorem escape_document {document : List Markup} (formed : WellFormedDocument document)
    (plain : AllTagsPlain document) :
    escapeTextAngleBrackets (renderAll document) = renderAll (escapeAll document) := by
  have escaped : escapeTextFrom true (renderAll document) = renderAll (escapeAll document) := by
    have whole := @escapeAll_render document [] formed.content plain
    rw [List.append_nil] at whole
    rw [whole]
    exact List.append_nil _
  rw [escapeTextAngleBrackets, ← escaped]
  cases text : renderAll document with
  | nil => rfl
  | cons c rest =>
      by_cases bracket : c = '<'
      · subst bracket
        have opens := document_start formed text plain
        have starts : Text.startsWith ('<' :: rest) ['<'] = true :=
          startsWith_iff.mpr ⟨rest, rfl⟩
        rw [starts, Bool.not_true]
        simp [escapeTextFrom, opens]
      · have starts : Text.startsWith (c :: rest) ['<'] = false := by
          rw [Bool.eq_false_iff]
          intro same
          exact bracket (Text.startsWith_head same).symm
        rw [starts]
        rfl

theorem sanitize_eq (xml : Text) : sanitizeRustezXml xml =
    if hasBareAngleBracketsInText xml then escapeTextAngleBrackets (simpleStripJunos xml)
    else simpleStripJunos xml := by
  have stripped : (if Text.contains xml junosPrefix then simpleStripJunos xml else xml) =
      simpleStripJunos xml := by
    split
    · rfl
    · next absent =>
        rw [simpleStripJunos_free]
        rintro ⟨before, after, rfl⟩
        exact absent (Text.contains_append before junosPrefix after)
  dsimp only [sanitizeRustezXml]
  rw [stripped]

theorem sanitize_preserves {document : List Markup} (formed : WellFormedDocument document)
    (sanitizable : Sanitizable document) : Preserved document := by
  have cut : simpleStripJunos (renderAll document) = renderAll (stripAll document) := by
    have whole := @stripAll_render document [] formed.content sanitizable.marks
      (by rintro c same; cases same)
    rw [List.append_nil, simpleStripJunos_nil, List.append_nil] at whole
    exact whole
  rw [Preserved, sanitize_eq, cut]
  cases bare : hasBareAngleBracketsInText (renderAll document) with
  | false => exact ⟨stripAll document, stripAll_document formed, rfl, stripAll_trees document⟩
  | true =>
      refine ⟨escapeAll (stripAll document), escapeAll_document (stripAll_document formed), ?_, ?_⟩
      · exact (escape_document (stripAll_document formed) (sanitizable.tags bare)).symm
      · rw [escapeAll_trees, stripAll_trees]

/-! ### The prefix in a text -/

def prefixDocument : List Markup :=
  [.element "description".toList [] [] [.chars ("junos: core".toList.map .literal)] (some [])]

theorem prefixDocument_formed : WellFormedDocument prefixDocument := by
  refine ⟨⟨⟨⟨by decide, nofun, .nil, nofun⟩, ⟨⟨by decide, by decide, by decide⟩, trivial, fun _ => rfl⟩,
    nofun⟩, trivial, nofun⟩, rfl, ?_⟩
  intro m mem pieces same
  obtain rfl := List.mem_singleton.mp mem
  cases same

theorem slash_of_element {m : Markup} (isElement : m.isElement = true) : '/' ∈ m.render := by
  cases m with
  | element name attributes tail children closing => cases closing <;> simp [render]
  | chars pieces => cases isElement
  | aside kind content => cases isElement

theorem slash_of_document {document : List Markup} (formed : WellFormedDocument document) :
    '/' ∈ renderAll document := by
  obtain ⟨m, alone⟩ := List.length_eq_one_iff.mp formed.root
  have mem : m ∈ document.filter isElement := by rw [alone]; exact List.mem_singleton_self m
  obtain ⟨found, isElement⟩ := List.mem_filter.mp mem
  clear alone formed mem
  induction document with
  | nil => cases found
  | cons m' ms ih =>
      rw [renderAll, List.mem_append]
      rcases List.mem_cons.mp found with rfl | later
      · exact .inl (slash_of_element isElement)
      · exact .inr (ih later)

/-- Without an equals sign behind it, the prefix takes the rest of the reply with it. -/
theorem prefix_not_preserved : WellFormedDocument prefixDocument ∧ ¬Preserved prefixDocument := by
  refine ⟨prefixDocument_formed, ?_⟩
  rintro ⟨document, formed, same, -⟩
  have slash := slash_of_document formed
  rw [same] at slash
  exact absurd slash (by decide)

/-! ### An attribute with a bracket in its value -/

def styledDocument : List Markup :=
  [.element "a".toList [⟨[' '], "junos:style".toList, [], [], '"', "b > c".toList.map .literal⟩] []
    [.chars ("d > e".toList.map .literal)] (some [])]

theorem styledDocument_formed : WellFormedDocument styledDocument := by
  refine ⟨⟨⟨⟨by decide, ?_, by decide, nofun⟩, ⟨⟨by decide, by decide, by decide⟩, trivial, fun _ => rfl⟩,
    nofun⟩, trivial, nofun⟩, rfl, ?_⟩
  · intro a mem
    obtain rfl := List.mem_singleton.mp mem
    exact ⟨by decide, by simp [isXmlSpace], by decide, .inl rfl, by decide⟩
  · intro m mem pieces same
    obtain rfl := List.mem_singleton.mp mem
    cases same

theorem styled_preserved : Preserved styledDocument := by
  refine sanitize_preserves styledDocument_formed ⟨⟨⟨by decide, ?_, by unfold MarksAttributes; decide,
    trivial⟩, trivial⟩, fun _ => ⟨⟨by decide, by decide, trivial, trivial⟩, trivial⟩⟩
  intro a mem
  obtain rfl := List.mem_singleton.mp mem
  rfl

end JunosMcp.Srx
