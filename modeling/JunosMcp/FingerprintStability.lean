import Mathlib.Data.List.Forall2
import JunosMcp.CandidateText

/-!
# Fingerprints and attributes that come and go

Two candidates that differ only in attributes with the prefix `junos:`. Their texts are read alike
just where the white space that is left around the cut attributes is.
-/

namespace JunosMcp.Fingerprint
open Text Lib Markup Srx

/-! ## Markup without the attributes -/

mutual

/-- The attributes go with the white space in front of them. -/
def erase : Markup → Markup
  | .element name attributes tail children closing =>
      .element name (attributes.filter fun a => !isJunos a) tail (eraseAll children) closing
  | .chars pieces => .chars pieces
  | .aside kind content => .aside kind content

def eraseAll : List Markup → List Markup
  | [] => []
  | m :: rest => erase m :: eraseAll rest

end

/-- The white space left in front of each attribute that is kept, and of the end of the tag. Where
attributes are cut, it is what stood before the first of them, and what is behind the leading spaces
of the rest. -/
def gaps (cut : Bool) (carry : Text) : List WrittenAttribute → Text → List Text
  | [], tail => [carry ++ cutSpaces cut tail]
  | a :: rest, tail =>
      let lead := carry ++ cutSpaces cut a.lead
      if isJunos a then gaps true lead rest tail else lead :: gaps false [] rest tail

def SameGaps (attributes attributes' : List WrittenAttribute) (tail : Text) : Prop :=
  List.Forall₂ (SameGap '\n') (gaps false [] attributes tail) (gaps false [] attributes' tail)

/-- The scanner finds the attributes of the tag as they are meant, and what it keeps is neither a
bracket nor white space. -/
structure PlainTag (name : Text) (attributes : List WrittenAttribute) : Prop where
  unmarked : ¬junosPrefix <:+: name
  cuttable : ∀ a ∈ attributes, Cuttable a
  bracketed : ∀ a ∈ attributes, '>' ∉ renderPieces a.value
  visibleName : ∀ c ∈ name, isWhitespace c = false
  visible : ∀ a ∈ attributes, ∀ c ∈ a.name, isWhitespace c = false

mutual

/-- Tags are the same, or plain. -/
def PlainChange : Markup → Markup → Prop
  | .element name attributes _ children _, .element _ attributes' _ children' _ =>
      (attributes = attributes' ∨ PlainTag name attributes ∧ PlainTag name attributes') ∧
        PlainChanges children children'
  | _, _ => True

def PlainChanges : List Markup → List Markup → Prop
  | m :: rest, m' :: rest' => PlainChange m m' ∧ PlainChanges rest rest'
  | _, _ => True

end

mutual

def GapsAgree : Markup → Markup → Prop
  | .element _ attributes tail children _, .element _ attributes' _ children' _ =>
      SameGaps attributes attributes' tail ∧ AllGapsAgree children children'
  | _, _ => True

def AllGapsAgree : List Markup → List Markup → Prop
  | m :: rest, m' :: rest' => GapsAgree m m' ∧ AllGapsAgree rest rest'
  | _, _ => True

end

/-! ## A tag that is read -/

/-- An attribute from its name on. -/
def body (a : WrittenAttribute) : Text :=
  a.name ++ (a.beforeEquals ++ '=' :: (a.afterEquals ++
    a.quote :: (renderPieces a.value ++ [a.quote])))

theorem render_eq (a : WrittenAttribute) : a.render = a.lead ++ body a := rfl

/-- Attributes with the given gaps in front of them, and the last gap in front of the rest. -/
def spaced : List Text → List WrittenAttribute → Text → Text
  | gap :: gaps, a :: kept, rest => gap ++ (body a ++ spaced gaps kept rest)
  | gap :: _, [], rest => gap ++ rest
  | [], _, rest => rest

theorem spaced_gaps {attributes : List WrittenAttribute} {tail : Text} (rest : Text) :
    ∀ {cut : Bool} {carry : Text},
      renderAttributes (stripAttributes cut carry attributes tail).1 ++
          ((stripAttributes cut carry attributes tail).2 ++ rest) =
        spaced (gaps cut carry attributes tail) (attributes.filter fun a => !isJunos a) rest := by
  induction attributes with
  | nil => exact fun {cut carry} => rfl
  | cons a attributes ih =>
      intro cut carry
      rw [stripAttributes, gaps]
      dsimp only
      cases junos : isJunos a with
      | true =>
          rw [if_pos rfl, if_pos rfl, List.filter_cons_of_neg (by simp [junos])]
          exact ih
      | false =>
          rw [if_neg Bool.false_ne_true, if_neg Bool.false_ne_true,
            List.filter_cons_of_pos (by simp [junos]), spaced, ← ih, renderAttributes,
            List.flatMap_cons, render_eq, List.append_assoc, List.append_assoc]
          rfl

theorem gaps_length {attributes : List WrittenAttribute} {tail : Text} :
    ∀ {cut : Bool} {carry : Text}, (gaps cut carry attributes tail).length =
      (attributes.filter fun a => !isJunos a).length + 1 := by
  induction attributes with
  | nil => exact fun {cut carry} => rfl
  | cons a attributes ih =>
      intro cut carry
      rw [gaps]
      cases junos : isJunos a with
      | true => rw [if_pos rfl, List.filter_cons_of_neg (by simp [junos]), ih]
      | false =>
          rw [if_neg Bool.false_ne_true, List.filter_cons_of_pos (by simp [junos]),
            List.length_cons, ih, List.length_cons]

theorem gaps_blank {attributes : List WrittenAttribute} {tail : Text}
    (formed : ∀ a ∈ attributes, a.WellFormed) (spaces : ∀ c ∈ tail, isXmlSpace c = true) :
    ∀ {cut : Bool} {carry : Text}, (∀ c ∈ carry, isXmlSpace c = true) →
      ∀ gap ∈ gaps cut carry attributes tail, ∀ c ∈ gap, isXmlSpace c = true := by
  induction attributes with
  | nil =>
      intro cut carry carried gap inside c mem
      obtain rfl := List.mem_singleton.mp inside
      rcases List.mem_append.mp mem with early | late
      · exact carried c early
      · exact spaces c (cutSpaces_sublist c late)
  | cons a attributes ih =>
      intro cut carry carried
      obtain ⟨here, later⟩ := List.forall_mem_cons.mp formed
      have lead : ∀ c ∈ carry ++ cutSpaces cut a.lead, isXmlSpace c = true := by
        intro c mem
        rcases List.mem_append.mp mem with early | late
        · exact carried c early
        · exact here.spaces c (by simp [cutSpaces_sublist c late])
      rw [gaps]
      cases junos : isJunos a with
      | true => exact ih later lead
      | false =>
          exact List.forall_mem_cons.mpr ⟨lead, ih later fun c none => absurd none List.not_mem_nil⟩

theorem isXmlSpace_blank {c : Char} (space : isXmlSpace c = true) : isWhitespace c = true := by
  simp only [isXmlSpace, Bool.or_eq_true, beq_iff_eq] at space
  rcases space with ((rfl | rfl) | rfl) | rfl <;> decide

theorem trailing_visible {c : Char} (visible : isWhitespace c = false) (gap front : Text) :
    trailing isWhitespace gap (front ++ [c]) = [] := by
  induction front generalizing gap with
  | nil => exact if_neg (by rw [visible]; exact Bool.false_ne_true)
  | cons d front ih =>
      rw [List.cons_append, trailing]
      split
      · exact ih _
      · exact ih _

/-- An attribute begins and ends with a mark. -/
theorem body_visible {a : WrittenAttribute} (formed : a.WellFormed)
    (visible : ∀ c ∈ a.name, isWhitespace c = false) :
    ∃ c rest, body a = c :: rest ∧ isWhitespace c = false ∧ trailing isWhitespace [] rest = [] := by
  have quote : isWhitespace a.quote = false := by
    rcases formed.quote with same | same <;> rw [same] <;> decide
  obtain ⟨c, others, shape⟩ := List.exists_cons_of_ne_nil (isName_chars formed.name).1
  rw [shape] at visible
  refine ⟨c, others ++ (a.beforeEquals ++ '=' :: (a.afterEquals ++
    a.quote :: renderPieces a.value)) ++ [a.quote], ?_, visible c List.mem_cons_self, trailing_visible quote _ _⟩
  rw [body, shape]
  simp only [List.cons_append, List.append_assoc]

/-- Behind the same mark, attributes with gaps are read alike just where the gaps are. -/
theorem spaced_iff {mark : Char} (seen : isWhitespace mark = false) {kept : List WrittenAttribute}
    (formed : ∀ a ∈ kept, a.WellFormed) (visible : ∀ a ∈ kept, ∀ c ∈ a.name, isWhitespace c = false)
    {before before' : List Text} (sized : before.length = kept.length + 1)
    (sized' : before'.length = kept.length + 1)
    (blanks : ∀ gap ∈ before, ∀ c ∈ gap, isWhitespace c = true)
    (blanks' : ∀ gap ∈ before', ∀ c ∈ gap, isWhitespace c = true) (rest rest' : Text) :
    squeeze isWhitespace '\n' [] (spaced before kept (mark :: rest)) =
        squeeze isWhitespace '\n' [] (spaced before' kept (mark :: rest')) ↔
      List.Forall₂ (SameGap '\n') before before' ∧
        squeeze isWhitespace '\n' [] rest = squeeze isWhitespace '\n' [] rest' := by
  induction kept generalizing before before' with
  | nil =>
      obtain ⟨gap, rfl⟩ := List.length_eq_one_iff.mp sized
      obtain ⟨gap', rfl⟩ := List.length_eq_one_iff.mp sized'
      rw [spaced, spaced, squeeze_gap_iff (by decide) seen (blanks gap List.mem_cons_self)
        (blanks' gap' List.mem_cons_self), List.forall₂_cons, List.forall₂_nil_left_iff]
      simp only [and_true]
  | cons a kept ih =>
      cases before with
      | nil => cases sized
      | cons gap before =>
          cases before' with
          | nil => cases sized'
          | cons gap' before' =>
              obtain ⟨here, later⟩ := List.forall_mem_cons.mp formed
              obtain ⟨named, laterNamed⟩ := List.forall_mem_cons.mp visible
              obtain ⟨gapBlank, beforeBlank⟩ := List.forall_mem_cons.mp blanks
              obtain ⟨gapBlank', beforeBlank'⟩ := List.forall_mem_cons.mp blanks'
              obtain ⟨c, others, shape, start, closed⟩ := body_visible here named
              rw [spaced, spaced, shape, List.cons_append, List.cons_append,
                squeeze_gap_iff (by decide) start gapBlank gapBlank', squeeze_append,
                squeeze_append, List.append_right_inj, closed, ih later laterNamed (Nat.succ.inj sized)
                  (Nat.succ.inj sized') beforeBlank beforeBlank', List.forall₂_cons, and_assoc]

/-! ## Tags -/

abbrev readStripped (gap xml : Text) : Text :=
  squeeze isWhitespace '\n' gap (simpleStripJunosAttrs xml)

theorem stripTag_plain {name tail slash : Text} {attributes : List WrittenAttribute}
    (formed : ∀ a ∈ attributes, a.WellFormed) (spaces : ∀ c ∈ tail, isXmlSpace c = true)
    (named : isName name = true) (plain : PlainTag name attributes)
    (isSlash : slash = [] ∨ slash = ['/']) :
    stripTag (name ++ (renderAttributes attributes ++ (tail ++ slash))) =
      name ++ spaced (gaps false [] attributes tail) (attributes.filter fun a => !isJunos a)
        slash := by
  rw [stripTag_attributes formed spaces named plain.unmarked plain.cuttable
    (attributes_bounded formed (spaces_bounded spaces (slash_bounded isSlash)))
    (slash_stop isSlash), slash_kept isSlash, spaced_gaps]

theorem spaced_append {before : List Text} {kept : List WrittenAttribute}
    (sized : before.length = kept.length + 1) (rest more : Text) :
    spaced before kept rest ++ more = spaced before kept (rest ++ more) := by
  induction kept generalizing before with
  | nil =>
      obtain ⟨gap, rfl⟩ := List.length_eq_one_iff.mp sized
      exact List.append_assoc _ _ _
  | cons a kept ih =>
      cases before with
      | nil => cases sized
      | cons gap before =>
          rw [spaced, spaced, List.append_assoc, List.append_assoc, ih (Nat.succ.inj sized)]

theorem squeeze_word {word : Text} (visible : ∀ c ∈ word, isWhitespace c = false) (rest : Text) :
    squeeze isWhitespace '\n' [] (word ++ rest) = word ++ squeeze isWhitespace '\n' [] rest := by
  induction word with
  | nil => rfl
  | cons c word ih =>
      obtain ⟨here, later⟩ := List.forall_mem_cons.mp visible
      rw [List.cons_append, squeeze_visible here, ih later]
      rfl

/-- What is read behind a closing bracket is read by itself. -/
theorem readStripped_closed (gap front rest : Text) :
    readStripped gap (front ++ '>' :: rest) =
      readStripped gap (front ++ ['>']) ++ readStripped [] rest := by
  obtain ⟨output, last⟩ := strip_last front
  rw [readStripped, strip_closed, squeeze_append, readStripped, last, trailing_visible (by decide)]

theorem readStripped_plain {name tail slash : Text} {attributes : List WrittenAttribute}
    (formed : ∀ a ∈ attributes, a.WellFormed) (spaces : ∀ c ∈ tail, isXmlSpace c = true)
    (named : isName name = true) (plain : PlainTag name attributes)
    (isSlash : slash = [] ∨ slash = ['/']) (gap rest : Text) :
    readStripped gap
        ('<' :: (name ++ (renderAttributes attributes ++ (tail ++ (slash ++ '>' :: rest))))) =
      gapForm '\n' gap ++ '<' :: (name ++ squeeze isWhitespace '\n' []
        (spaced (gaps false [] attributes tail) (attributes.filter fun a => !isJunos a)
          (slash ++ '>' :: simpleStripJunosAttrs rest))) := by
  have closed : '>' ∉ name ++ (renderAttributes attributes ++ (tail ++ slash)) := by
    simp only [List.mem_append, not_or]
    exact ⟨name_without named (by decide), attributes_plain formed plain.bracketed,
      spaces_plain spaces, slash_plain isSlash⟩
  have tag := strip_tag closed rest
  rw [stripTag_plain formed spaces named plain isSlash] at tag
  simp only [List.append_assoc] at tag
  rw [readStripped, tag, squeeze_visible (by decide), squeeze_word plain.visibleName,
    spaced_append gaps_length]

theorem readStripped_same (gap front rest rest' : Text) :
    readStripped gap (front ++ '>' :: rest) = readStripped gap (front ++ '>' :: rest') ↔
      readStripped [] rest = readStripped [] rest' := by
  rw [readStripped_closed, readStripped_closed gap front rest', List.append_right_inj]

theorem SameGaps.refl (attributes : List WrittenAttribute) (tail : Text) :
    SameGaps attributes attributes tail :=
  List.forall₂_same.mpr fun gap _ => SameGap.refl gap

/-- A start tag up to its end. -/
theorem tag_iff {name tail slash : Text} {attributes attributes' : List WrittenAttribute}
    (formed : ∀ a ∈ attributes, a.WellFormed) (formed' : ∀ a ∈ attributes', a.WellFormed)
    (spaces : ∀ c ∈ tail, isXmlSpace c = true) (named : isName name = true)
    (same : (attributes.filter fun a => !isJunos a) = attributes'.filter fun a => !isJunos a)
    (plain : attributes = attributes' ∨ PlainTag name attributes ∧ PlainTag name attributes')
    (isSlash : slash = [] ∨ slash = ['/']) (gap rest rest' : Text) :
    readStripped gap
          ('<' :: (name ++ (renderAttributes attributes ++ (tail ++ (slash ++ '>' :: rest))))) =
        readStripped gap
          ('<' :: (name ++ (renderAttributes attributes' ++ (tail ++ (slash ++ '>' :: rest'))))) ↔
      SameGaps attributes attributes' tail ∧ readStripped [] rest = readStripped [] rest' := by
  rcases plain with rfl | ⟨plain, plain'⟩
  · have whole := readStripped_same gap
      ('<' :: (name ++ (renderAttributes attributes ++ (tail ++ slash)))) rest rest'
    simp only [List.cons_append, List.append_assoc] at whole
    rw [whole, and_iff_right (SameGaps.refl attributes tail)]
  · have keptFormed : ∀ a ∈ attributes.filter fun a => !isJunos a, a.WellFormed :=
      fun a inside => formed a (List.mem_of_mem_filter inside)
    have keptVisible : ∀ a ∈ attributes.filter fun a => !isJunos a,
        ∀ c ∈ a.name, isWhitespace c = false :=
      fun a inside => plain.visible a (List.mem_of_mem_filter inside)
    have sized' : (gaps false [] attributes' tail).length =
        (attributes.filter fun a => !isJunos a).length + 1 := by
      rw [gaps_length, same]
    have nothing : ∀ c ∈ ([] : Text), isXmlSpace c = true := fun c none =>
      absurd none List.not_mem_nil
    have blanks : ∀ gap ∈ gaps false [] attributes tail, ∀ c ∈ gap, isWhitespace c = true :=
      fun gap inside c mem => isXmlSpace_blank (gaps_blank formed spaces nothing gap inside c mem)
    have blanks' : ∀ gap ∈ gaps false [] attributes' tail, ∀ c ∈ gap, isWhitespace c = true :=
      fun gap inside c mem => isXmlSpace_blank (gaps_blank formed' spaces nothing gap inside c mem)
    rw [readStripped_plain formed spaces named plain isSlash,
      readStripped_plain formed' spaces named plain' isSlash, List.append_right_inj,
      List.cons_inj_right, List.append_right_inj, ← same]
    rcases isSlash with rfl | rfl
    · exact spaced_iff (by decide) keptFormed keptVisible gaps_length sized' blanks blanks' _ _
    · refine (spaced_iff (by decide) keptFormed keptVisible gaps_length sized' blanks blanks'
        _ _).trans (and_congr_right' ?_)
      change squeeze isWhitespace '\n' [] ('>' :: _) = squeeze isWhitespace '\n' [] ('>' :: _) ↔ _
      rw [squeeze_visible (by decide), squeeze_visible (by decide), List.append_right_inj,
        List.cons_inj_right]

/-! ## Documents -/

theorem sameKept_element {name tail name' tail' : Text} {closing closing' : Option Text}
    {attributes attributes' : List WrittenAttribute} {children children' : List Markup}
    (same : erase (.element name attributes tail children closing) =
      erase (.element name' attributes' tail' children' closing')) :
    name = name' ∧ tail = tail' ∧ closing = closing' ∧
      (attributes.filter fun a => !isJunos a) = (attributes'.filter fun a => !isJunos a) ∧
      eraseAll children = eraseAll children' := by
  rw [erase, erase] at same
  injection same with names kept tails inner closings
  exact ⟨names, tails, closings, kept, inner⟩

mutual

theorem markup_iff : ∀ {m m' : Markup}, m.WellFormed → m'.WellFormed → erase m = erase m' →
    PlainChange m m' → ∀ gap, ∃ gap', ∀ rest rest',
      readStripped gap (m.render ++ rest) = readStripped gap (m'.render ++ rest') ↔
        GapsAgree m m' ∧ readStripped gap' rest = readStripped gap' rest'
  | .chars pieces, .chars pieces', formed, _, same, _, gap => by
      injection same with pieces_eq
      subst pieces_eq
      have plain : '<' ∉ renderPieces pieces :=
        renderPieces_without formed.each (by decide) (by decide)
      refine ⟨trailing isWhitespace gap (renderPieces pieces), fun rest rest' => ?_⟩
      rw [render, readStripped, readStripped, strip_text plain, strip_text plain, squeeze_append,
        squeeze_append, List.append_right_inj]
      exact (and_iff_right trivial).symm
  | .aside kind content, .aside kind' content', _, _, same, _, gap => by
      injection same with kind_eq content_eq
      subst kind_eq content_eq
      obtain ⟨front, closed⟩ := aside_closed kind content
      refine ⟨[], fun rest rest' => ?_⟩
      rw [render, closed, List.append_assoc, List.append_assoc]
      exact (readStripped_same gap front rest rest').trans (and_iff_right trivial).symm
  | .element name attributes tail children none,
      .element name' attributes' tail' children' closing', ⟨tags, _, closed⟩, ⟨tags', _, closed'⟩,
      same, plain, gap => by
      obtain ⟨rfl, rfl, rfl, kept, -⟩ := sameKept_element same
      obtain rfl := closed rfl
      obtain rfl := closed' rfl
      have spaces : ∀ c ∈ tail, isXmlSpace c = true := fun c mem => tags.spaces c (by simp [mem])
      refine ⟨[], fun rest rest' => ?_⟩
      have tag := tag_iff tags.each tags'.each spaces tags.named kept plain.1 (.inr rfl) gap rest
        rest'
      simp only [render, List.cons_append, List.append_assoc, List.nil_append] at tag ⊢
      exact tag.trans (and_congr_left' (and_iff_left trivial).symm)
  | .element name attributes tail children (some space),
      .element name' attributes' tail' children' closing', ⟨tags, inner, _⟩, ⟨tags', inner', _⟩,
      same, plain, gap => by
      obtain ⟨rfl, rfl, rfl, kept, sameInner⟩ := sameKept_element same
      have spaces : ∀ c ∈ tail, isXmlSpace c = true := fun c mem => tags.spaces c (by simp [mem])
      obtain ⟨after, body⟩ := content_iff inner inner' sameInner plain.2 []
      refine ⟨[], fun rest rest' => ?_⟩
      have tag := tag_iff tags.each tags'.each spaces tags.named kept plain.1 (.inl rfl) gap
        (renderAll children ++ '<' :: '/' :: (name ++ (space ++ '>' :: rest)))
        (renderAll children' ++ '<' :: '/' :: (name ++ (space ++ '>' :: rest')))
      have closing := readStripped_same after ('<' :: '/' :: (name ++ space)) rest rest'
      simp only [List.cons_append, List.append_assoc] at closing
      rw [body, closing, ← and_assoc] at tag
      simp only [render, List.cons_append, List.append_assoc, List.nil_append] at tag ⊢
      exact tag
  | .chars _, .aside .., _, _, same, _, _ | .chars _, .element .., _, _, same, _, _
  | .aside .., .chars _, _, _, same, _, _ | .aside .., .element .., _, _, same, _, _
  | .element .., .chars _, _, _, same, _, _ | .element .., .aside .., _, _, same, _, _ => by
      cases same

theorem content_iff : ∀ {ms ms' : List Markup}, WellFormedContent ms → WellFormedContent ms' →
    eraseAll ms = eraseAll ms' → PlainChanges ms ms' → ∀ gap, ∃ gap', ∀ rest rest',
      readStripped gap (renderAll ms ++ rest) = readStripped gap (renderAll ms' ++ rest') ↔
        AllGapsAgree ms ms' ∧ readStripped gap' rest = readStripped gap' rest'
  | [], [], _, _, _, _, gap => ⟨gap, fun rest rest' => (and_iff_right trivial).symm⟩
  | m :: ms, m' :: ms', formed, formed', same, plain, gap => by
      injection same with here later
      obtain ⟨between, first⟩ := markup_iff formed.1 formed'.1 here plain.1 gap
      obtain ⟨after, others⟩ := content_iff formed.2.1 formed'.2.1 later plain.2 between
      refine ⟨after, fun rest rest' => ?_⟩
      rw [renderAll, renderAll, List.append_assoc, List.append_assoc, first, others, ← and_assoc]
      exact Iff.rfl
  | [], _ :: _, _, _, same, _, _ | _ :: _, [], _, _, same, _, _ => by
      cases same

end

/-- Candidates that differ only in `junos:` attributes of plain tags have the same normal form just
where the white space that is left around them is read alike. -/
theorem normalise_iff {candidate candidate' : List Markup} (formed : WellFormedContent candidate)
    (formed' : WellFormedContent candidate') (same : eraseAll candidate = eraseAll candidate')
    (plain : PlainChanges candidate candidate') :
    normaliseCandidateForFingerprint (renderAll candidate) =
        normaliseCandidateForFingerprint (renderAll candidate') ↔
      AllGapsAgree candidate candidate' := by
  obtain ⟨after, whole⟩ := content_iff formed formed' same plain ['\n']
  have ends := whole [] []
  rw [List.append_nil, List.append_nil] at ends
  rw [normaliseCandidateForFingerprint, normaliseCandidateForFingerprint, normaliseLines_eq_iff]
  exact ends.trans (and_iff_left rfl)

/-! ### A style that comes and goes -/

def styleAttribute : WrittenAttribute :=
  ⟨[' '], "junos:style".toList, [], [], '"', [.literal 'a']⟩

def inactiveAttribute : WrittenAttribute :=
  ⟨[' '], "inactive".toList, [], [], '"', [.literal 'b']⟩

def systemTag (attributes : List WrittenAttribute) : List Markup :=
  [.element "system".toList attributes [] [] none]

theorem systemTag_formed {attributes : List WrittenAttribute}
    (each : ∀ a ∈ attributes, a.WellFormed)
    (distinct : (attributes.map WrittenAttribute.name).Nodup) :
    WellFormedDocument (systemTag attributes) := by
  refine ⟨⟨⟨⟨by decide, each, distinct, fun c none => absurd none List.not_mem_nil⟩, trivial,
    fun _ => rfl⟩, trivial, fun _ => rfl⟩, rfl, ?_⟩
  intro m inside pieces same
  obtain rfl := List.mem_singleton.mp inside
  cases same

theorem styleAttribute_formed : styleAttribute.WellFormed :=
  ⟨List.cons_ne_nil _ _, List.forall_mem_singleton.mpr rfl, rfl, .inl rfl, by decide⟩

theorem inactiveAttribute_formed : inactiveAttribute.WellFormed :=
  ⟨List.cons_ne_nil _ _, List.forall_mem_singleton.mpr rfl, rfl, .inl rfl, by decide⟩

theorem visible_all {text : Text} (all : (text.all fun c => !isWhitespace c) = true) :
    ∀ c ∈ text, isWhitespace c = false := fun c inside =>
  (Bool.not_eq_true' _).mp (List.all_eq_true.mp all c inside)

/-- In front of another attribute, a style is cut with the space behind it. -/
theorem first_style_unseen :
    normaliseCandidateForFingerprint (renderAll (systemTag [styleAttribute, inactiveAttribute])) =
      normaliseCandidateForFingerprint (renderAll (systemTag [inactiveAttribute])) := by
  have formed := @systemTag_formed [styleAttribute, inactiveAttribute]
    (List.forall_mem_cons.mpr ⟨styleAttribute_formed, List.forall_mem_singleton.mpr
      inactiveAttribute_formed⟩) (by decide)
  have formed' := @systemTag_formed [inactiveAttribute]
    (List.forall_mem_singleton.mpr inactiveAttribute_formed) (by decide)
  refine (normalise_iff formed.content formed'.content rfl ⟨⟨.inr ⟨?_, ?_⟩, trivial⟩, trivial⟩).mpr
    ⟨⟨SameGaps.refl [inactiveAttribute] [], trivial⟩, trivial⟩
  · exact ⟨by decide, by simp only [Cuttable]; decide, by decide, visible_all rfl,
      List.forall_mem_cons.mpr ⟨visible_all rfl, List.forall_mem_singleton.mpr (visible_all rfl)⟩⟩
  · exact ⟨by decide, by simp only [Cuttable]; decide, by decide, visible_all rfl,
      List.forall_mem_singleton.mpr (visible_all rfl)⟩

/-- At the end of its tag, a style leaves the space in front of it. -/
theorem last_style_seen :
    WellFormedDocument (systemTag [styleAttribute]) ∧ WellFormedDocument (systemTag []) ∧
      eraseAll (systemTag [styleAttribute]) = eraseAll (systemTag []) ∧
      normaliseCandidateForFingerprint (renderAll (systemTag [styleAttribute])) ≠
        normaliseCandidateForFingerprint (renderAll (systemTag [])) := by
  refine ⟨systemTag_formed (List.forall_mem_singleton.mpr styleAttribute_formed) (by decide),
    systemTag_formed (fun a none => absurd none List.not_mem_nil) .nil, rfl, ?_⟩
  decide

end JunosMcp.Fingerprint
