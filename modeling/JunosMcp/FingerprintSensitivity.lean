import JunosMcp.FingerprintStability

/-!
# Fingerprints and changes by others

Two candidates with the same normal form. Where the scanner meets the prefix `junos:` in attributes
of that prefix only, the candidates are the same but for these and for white space at the edges of
lines.
-/

namespace JunosMcp.Fingerprint
open Text Lib Markup Srx

/-! ## Candidates that agree -/

/-- What may be left of white space, with that around the attributes just taken out. -/
def Left : Option Text → Text → Text → Prop
  | none, space, left => left = space
  | some around, space, left => left.Sublist (around ++ space)

/-- Some `junos:` attributes are taken out of a tag, and white space around them. -/
inductive Thinned : Option Text → List WrittenAttribute → Text →
    List WrittenAttribute → Text → Prop
  | tail {around : Option Text} {tail tail' : Text} (left : Left around tail tail') :
      Thinned around [] tail [] tail'
  | keep {around : Option Text} {a : WrittenAttribute} {lead tail tail' : Text}
      {rest rest' : List WrittenAttribute} (left : Left around a.lead lead)
      (thinned : Thinned none rest tail rest' tail') :
      Thinned around (a :: rest) tail ({ a with lead } :: rest') tail'
  | cut {around : Option Text} {a : WrittenAttribute} {tail tail' : Text}
      {rest rest' : List WrittenAttribute} (junos : isJunos a = true)
      (thinned : Thinned (some (around.getD [] ++ a.lead)) rest tail rest' tail') :
      Thinned around (a :: rest) tail rest' tail'

mutual

def Thins : Markup → Markup → Prop
  | .element name attributes tail children closing,
      .element name' attributes' tail' children' closing' =>
      name = name' ∧ closing = closing' ∧ Thinned none attributes tail attributes' tail' ∧
        AllThins children children'
  | .chars pieces, .chars pieces' => pieces = pieces'
  | .aside kind content, .aside kind' content' => kind = kind' ∧ content = content'
  | _, _ => False

def AllThins : List Markup → List Markup → Prop
  | [], [] => True
  | m :: rest, m' :: rest' => Thins m m' ∧ AllThins rest rest'
  | _, _ => False

end

/-- Without some of their `junos:` attributes, the texts have the same lines, trimmed. -/
def Agree (candidate candidate' : List Markup) : Prop :=
  ∃ thin thin', AllThins candidate thin ∧ AllThins candidate' thin' ∧
    normaliseLines (renderAll thin) = normaliseLines (renderAll thin')

theorem Thinned.refl (attributes : List WrittenAttribute) (tail : Text) :
    Thinned none attributes tail attributes tail := by
  induction attributes with
  | nil => exact .tail rfl
  | cons a attributes ih => exact @Thinned.keep _ a a.lead _ _ _ _ rfl ih

theorem Thinned.unchanged {attributes attributes' : List WrittenAttribute} {tail tail' : Text}
    (plain : ∀ a ∈ attributes, isJunos a = false)
    (thinned : Thinned none attributes tail attributes' tail') :
    attributes' = attributes ∧ tail' = tail := by
  induction attributes generalizing attributes' with
  | nil =>
      cases thinned with
      | tail left => exact ⟨rfl, left⟩
  | cons a attributes ih =>
      obtain ⟨here, later⟩ := List.forall_mem_cons.mp plain
      cases thinned with
      | keep left thinned =>
          obtain ⟨rfl, sameTail⟩ := ih later thinned
          rw [show _ = a.lead from left]
          exact ⟨rfl, sameTail⟩
      | cut junos thinned =>
          rw [here] at junos
          cases junos

mutual

theorem thins_unchanged : ∀ {m thin : Markup}, erase m = m → Thins m thin → thin = m
  | .chars _, .chars _, _, same => by rw [show _ = _ from same]
  | .aside .., .aside .., _, ⟨sameKind, sameContent⟩ => by rw [sameKind, sameContent]
  | .element name attributes tail children closing, .element .., erased,
      ⟨sameName, sameClosing, thinned, thins⟩ => by
      rw [erase] at erased
      obtain ⟨-, kept, -, inner, -⟩ := Markup.element.inj erased
      have plain : ∀ a ∈ attributes, isJunos a = false := fun a inside =>
        (Bool.not_eq_true' _).mp (List.filter_eq_self.mp kept a inside)
      obtain ⟨rfl, rfl⟩ := thinned.unchanged plain
      rw [allThins_unchanged inner thins, sameName, sameClosing]

theorem allThins_unchanged : ∀ {ms thin : List Markup}, eraseAll ms = ms → AllThins ms thin →
    thin = ms
  | [], [], _, _ => rfl
  | m :: ms, m' :: ms', erased, ⟨here, later⟩ => by
      injection erased with first others
      rw [thins_unchanged first here, allThins_unchanged others later]

end

mutual

theorem thins_refl : ∀ m : Markup, Thins m m
  | .chars _ => rfl
  | .aside .. => ⟨rfl, rfl⟩
  | .element _ attributes tail children _ =>
      ⟨rfl, rfl, .refl attributes tail, allThins_refl children⟩

theorem allThins_refl : ∀ ms : List Markup, AllThins ms ms
  | [] => trivial
  | m :: ms => ⟨thins_refl m, allThins_refl ms⟩

end

/-- Without such attributes, candidates agree when their trimmed lines are the same. -/
theorem agree_iff {candidate candidate' : List Markup} (erased : eraseAll candidate = candidate)
    (erased' : eraseAll candidate' = candidate') :
    Agree candidate candidate' ↔
      normaliseLines (renderAll candidate) = normaliseLines (renderAll candidate') := by
  constructor
  · rintro ⟨thin, thin', thins, thins', same⟩
    rwa [allThins_unchanged erased thins, allThins_unchanged erased' thins'] at same
  · intro same
    exact ⟨candidate, candidate', allThins_refl candidate, allThins_refl candidate', same⟩

/-! ## Candidates that are scanned as they are meant -/

/-- The scanner takes the first closing bracket for the end of the tag. Up to there the prefix is
only found where an attribute of that prefix begins, and such an attribute is cut as a whole. -/
def Readable : List WrittenAttribute → Prop
  | [] => True
  | a :: rest =>
      if '>' ∈ renderPieces a.value then
        isJunos a = false ∧ ¬junosPrefix <:+: a.name ∧
          ¬junosPrefix <:+: (renderPieces a.value).takeWhile (· != '>')
      else Cuttable a ∧ Readable rest

mutual

def Faithful : Markup → Prop
  | .element name attributes _ children _ =>
      ¬junosPrefix <:+: name ∧ Readable attributes ∧ AllFaithful children
  | .chars _ => True
  | .aside kind content => '>' ∉ content ∨ ¬junosPrefix <:+: kind.render content

def AllFaithful : List Markup → Prop
  | [] => True
  | m :: rest => Faithful m ∧ AllFaithful rest

end

/-! ## Tags -/

/-- What the scanner carries of the white space is left of that around the attributes. -/
def Carried (cut : Bool) (carry : Text) (around : Option Text) : Prop :=
  if cut then ∃ space, around = some space ∧ carry.Sublist space else carry = [] ∧ around = none

theorem Carried.left {cut : Bool} {carry : Text} {around : Option Text}
    (carried : Carried cut carry around) (space : Text) :
    Left around space (carry ++ cutSpaces cut space) := by
  cases cut with
  | false =>
      obtain ⟨rfl, rfl⟩ := carried
      rfl
  | true =>
      obtain ⟨around, rfl, kept⟩ := carried
      exact kept.append (List.dropWhile_sublist _)

theorem Carried.cut {cut : Bool} {carry : Text} {around : Option Text}
    (carried : Carried cut carry around) (space : Text) :
    Carried true (carry ++ cutSpaces cut space) (some (around.getD [] ++ space)) := by
  refine ⟨_, rfl, ?_⟩
  cases cut with
  | false =>
      obtain ⟨rfl, rfl⟩ := carried
      exact List.Sublist.refl _
  | true =>
      obtain ⟨around, rfl, kept⟩ := carried
      exact kept.append (List.dropWhile_sublist _)

theorem carried_nil : Carried false [] none := ⟨rfl, rfl⟩

/-- What the scanner leaves of a tag. -/
def thinAttributes (cut : Bool) (carry : Text) :
    List WrittenAttribute → Text → List WrittenAttribute × Text
  | [], tail => ([], carry ++ cutSpaces cut tail)
  | a :: rest, tail =>
      let lead := carry ++ cutSpaces cut a.lead
      if '>' ∈ renderPieces a.value then ({ a with lead } :: rest, tail)
      else if isJunos a then thinAttributes true lead rest tail
      else
        let others := thinAttributes false [] rest tail
        ({ a with lead } :: others.1, others.2)

theorem thinAttributes_thinned {attributes : List WrittenAttribute} {tail : Text} {cut : Bool}
    {carry : Text} {around : Option Text} (carried : Carried cut carry around) :
    Thinned around attributes tail (thinAttributes cut carry attributes tail).1
      (thinAttributes cut carry attributes tail).2 := by
  induction attributes generalizing cut carry around with
  | nil => exact .tail (carried.left tail)
  | cons a attributes ih =>
      rw [thinAttributes]
      dsimp only
      split
      · exact .keep (carried.left a.lead) (.refl attributes tail)
      · split
        · rename_i junos
          exact .cut junos (ih (carried.cut a.lead))
        · exact .keep (carried.left a.lead) (ih carried_nil)

/-- The tag is scanned to its end, or to a bracket in the value of an attribute that is kept. -/
theorem readable_cases {attributes : List WrittenAttribute} (readable : Readable attributes) :
    ((∀ a ∈ attributes, Cuttable a ∧ '>' ∉ renderPieces a.value) ∧ ∀ tail cut carry,
      thinAttributes cut carry attributes tail = stripAttributes cut carry attributes tail) ∨
    ∃ front a back, attributes = front ++ a :: back ∧
      (∀ b ∈ front, Cuttable b ∧ '>' ∉ renderPieces b.value) ∧ '>' ∈ renderPieces a.value ∧
      ¬junosPrefix <:+: a.name ∧ ¬junosPrefix <:+: (renderPieces a.value).takeWhile (· != '>') ∧
      ∀ tail cut carry, thinAttributes cut carry attributes tail =
        ((stripAttributes cut carry front a.lead).1 ++
          { a with lead := (stripAttributes cut carry front a.lead).2 } :: back, tail) := by
  induction attributes with
  | nil => exact .inl ⟨fun a none => absurd none List.not_mem_nil, fun tail cut carry => rfl⟩
  | cons a attributes ih =>
      unfold Readable at readable
      split at readable
      · rename_i bracket
        refine .inr ⟨[], a, attributes, rfl, fun b none => absurd none List.not_mem_nil, bracket,
          readable.2.1, readable.2.2, fun tail cut carry => ?_⟩
        rw [thinAttributes, if_pos bracket]
        rfl
      · rename_i plain
        obtain ⟨cuttable, later⟩ := readable
        rcases ih later with ⟨all, same⟩ | ⟨front, b, back, rfl, inFront, bracket, named, value,
          same⟩
        · refine .inl ⟨List.forall_mem_cons.mpr ⟨⟨cuttable, plain⟩, all⟩, fun tail cut carry => ?_⟩
          rw [thinAttributes, stripAttributes, if_neg plain]
          simp only [same]
        · refine .inr ⟨a :: front, b, back, rfl,
            List.forall_mem_cons.mpr ⟨⟨cuttable, plain⟩, inFront⟩, bracket, named, value,
            fun tail cut carry => ?_⟩
          rw [thinAttributes, stripAttributes, if_neg plain]
          simp only [same]
          split <;> rfl

/-- A start tag up to its end. -/
theorem strip_start {name tail slash : Text} {attributes : List WrittenAttribute}
    (formed : ∀ a ∈ attributes, a.WellFormed) (spaces : ∀ c ∈ tail, isXmlSpace c = true)
    (named : isName name = true) (unmarked : ¬junosPrefix <:+: name)
    (readable : Readable attributes) (isSlash : slash = [] ∨ slash = ['/']) (rest : Text) :
    simpleStripJunosAttrs
        ('<' :: (name ++ (renderAttributes attributes ++ (tail ++ (slash ++ '>' :: rest))))) =
      '<' :: (name ++ (renderAttributes (thinAttributes false [] attributes tail).1 ++
        ((thinAttributes false [] attributes tail).2 ++
          (slash ++ '>' :: simpleStripJunosAttrs rest)))) := by
  rcases readable_cases readable with ⟨all, same⟩ | ⟨front, a, back, rfl, inFront, bracket, aNamed,
    value, same⟩
  · have closed : '>' ∉ name ++ (renderAttributes attributes ++ (tail ++ slash)) := by
      simp only [List.mem_append, not_or]
      exact ⟨name_without named (by decide),
        attributes_plain formed fun a inside => (all a inside).2, spaces_plain spaces,
        slash_plain isSlash⟩
    have tag := strip_tag closed rest
    rw [stripTag_attributes formed spaces named unmarked (fun a inside => (all a inside).1)
      (attributes_bounded formed (spaces_bounded spaces (slash_bounded isSlash)))
      (slash_stop isSlash), slash_kept isSlash] at tag
    rw [same]
    simpa only [List.append_assoc] using tag
  · obtain ⟨frontFormed, others⟩ := List.forall_mem_append.mp formed
    obtain ⟨aFormed, backFormed⟩ := List.forall_mem_cons.mp others
    have leadSpaces : ∀ c ∈ a.lead, isXmlSpace c = true := fun c mem =>
      aFormed.spaces c (by simp [mem])
    obtain ⟨first, second, split, firstPlain⟩ := List.eq_append_cons_of_mem bracket
    have taken : (renderPieces a.value).takeWhile (· != '>') = first := by
      rw [split, List.takeWhile_append_of_pos fun c inside => by
        refine bne_iff_ne.mpr ?_
        rintro rfl
        exact firstPlain inside]
      exact List.append_nil _
    rw [taken] at value
    -- The attribute up to the bracket, and what is left alone behind it.
    generalize shownIs : a.name ++ (a.beforeEquals ++ '=' :: (a.afterEquals ++ a.quote :: first)) =
      shown
    have kept : simpleStripJunos shown = shown := by
      rw [← shownIs, simpleStripJunos_name aFormed aNamed, simpleStripJunos_free value]
    have stop : shown.head? ≠ some ' ' := by
      rw [← shownIs]
      exact head_append aFormed.name
    have closed : '>' ∉ name ++ (renderAttributes front ++ (a.lead ++ shown)) := by
      have aSpaces := spaces_plain aFormed.spaces
      simp only [List.mem_append, not_or] at aSpaces
      have quote : '>' ≠ a.quote := by
        rcases aFormed.quote with same | same <;> rw [same] <;> decide
      rw [← shownIs]
      simp only [List.mem_append, List.mem_cons, not_or]
      exact ⟨name_without named (by decide),
        attributes_plain frontFormed fun b inside => (inFront b inside).2, spaces_plain leadSpaces,
        name_without aFormed.name (by decide), aSpaces.1.2, by decide, aSpaces.2, quote, firstPlain⟩
    have bounded : Bounded (renderAttributes front ++ (a.lead ++ shown)) := by
      obtain ⟨c, more, shape⟩ := List.exists_cons_of_ne_nil aFormed.lead
      refine attributes_bounded frontFormed ?_
      rw [shape]
      exact bounded_cons (space_plain (leadSpaces c (by rw [shape]; exact List.mem_cons_self))).2.2
    have alone : '<' ∉
        second ++ a.quote :: (renderAttributes back ++ (tail ++ (slash ++ ['>']))) := by
      have inValue : '<' ∉ second := by
        have whole : '<' ∉ renderPieces a.value :=
          renderPieces_without aFormed.value List.mem_cons_self (by decide)
        rw [split, List.mem_append, not_or] at whole
        exact fun inside => whole.2 (List.mem_cons_of_mem _ inside)
      have quote : '<' ≠ a.quote := by
        rcases aFormed.quote with same | same <;> rw [same] <;> decide
      have inTail : '<' ∉ tail := fun mem => absurd (spaces _ mem) (by decide)
      have inSlash : '<' ∉ slash ++ ['>'] := by
        rcases isSlash with rfl | rfl <;> decide
      rw [List.mem_append, List.mem_cons, List.mem_append, List.mem_append, not_or, not_or, not_or,
        not_or]
      exact ⟨inValue, quote, attributes_unopened backFormed, inTail, inSlash⟩
    have tag := strip_tag closed
      (second ++ a.quote :: (renderAttributes back ++ (tail ++ (slash ++ ['>']))) ++ rest)
    rw [stripTag_attributes frontFormed leadSpaces named unmarked
      (fun b inside => (inFront b inside).1) bounded stop, kept, strip_text alone, ← shownIs] at tag
    rw [same]
    simp only [renderAttributes, List.flatMap_append, List.flatMap_cons, WrittenAttribute.render,
      split, List.append_assoc, List.cons_append, List.nil_append] at tag ⊢
    exact tag

/-! ## Documents -/

/-- Without the prefix, nothing is cut. -/
theorem strip_free {text : Text} (free : ¬junosPrefix <:+: text) :
    simpleStripJunosAttrs text = text := by
  induction text using tag_induction with
  | nil => rfl
  | mark c rest other ih => rw [strip_char other, ih fun inside => free (List.infix_cons inside)]
  | tag content behind plain ih =>
      have contentFree : ¬junosPrefix <:+: content := fun inside =>
        free (List.infix_cons (List.infix_append_of_infix_left inside))
      have behindFree : ¬junosPrefix <:+: behind := fun inside =>
        free (List.infix_cons (List.infix_append_of_infix_right (List.infix_cons inside)))
      have unchanged : stripTag content = content := by
        unfold stripTag
        split
        · rfl
        · exact simpleStripJunos_free contentFree
      rw [strip_tag plain, unchanged, ih behindFree]
  | unclosed content plain => exact strip_open plain

theorem strip_aside_tag {kind : Aside} {content : Text} (plain : '>' ∉ content) (rest : Text) :
    simpleStripJunosAttrs (kind.render content ++ rest) =
      kind.render content ++ simpleStripJunosAttrs rest := by
  cases kind with
  | comment =>
      have closed : '>' ∉ '!' :: ('-' :: '-' :: (content ++ ['-', '-'])) := by simp [plain]
      have tag := strip_tag closed rest
      rw [stripTag_kept (.inr (.inl rfl))] at tag
      simpa [Aside.render] using tag
  | instruction =>
      have closed : '>' ∉ '?' :: (content ++ ['?']) := by simp [plain]
      have tag := strip_tag closed rest
      rw [stripTag_kept (.inr (.inr rfl))] at tag
      simpa [Aside.render] using tag

mutual

theorem markup_thins : ∀ {m : Markup}, m.WellFormed → Faithful m → ∃ thin, Thins m thin ∧
    ∀ rest, simpleStripJunosAttrs (m.render ++ rest) = thin.render ++ simpleStripJunosAttrs rest
  | .chars pieces, formed, _ =>
      ⟨.chars pieces, rfl, strip_text (renderPieces_without formed.each (by decide) (by decide))⟩
  | .aside kind content, _, faithful => by
      refine ⟨.aside kind content, ⟨rfl, rfl⟩, fun rest => ?_⟩
      rcases faithful with plain | free
      · exact strip_aside_tag plain rest
      · obtain ⟨front, closed⟩ := aside_closed kind content
        rw [closed] at free
        rw [render, closed, List.append_assoc, List.cons_append, List.nil_append, strip_closed,
          strip_free free]
  | .element name attributes tail children none, ⟨tags, _, closed⟩, ⟨unmarked, readable, _⟩ => by
      have spaces : ∀ c ∈ tail, isXmlSpace c = true := fun c mem => tags.spaces c (by simp [mem])
      obtain rfl := closed rfl
      refine ⟨.element name (thinAttributes false [] attributes tail).1
        (thinAttributes false [] attributes tail).2 [] none,
        ⟨rfl, rfl, thinAttributes_thinned carried_nil, trivial⟩, fun rest => ?_⟩
      have start := strip_start tags.each spaces tags.named unmarked readable (.inr rfl) rest
      simpa only [render, List.cons_append, List.append_assoc, List.nil_append] using start
  | .element name attributes tail children (some space), ⟨tags, inner, _⟩,
      ⟨unmarked, readable, faithful⟩ => by
      have spaces : ∀ c ∈ tail, isXmlSpace c = true := fun c mem => tags.spaces c (by simp [mem])
      have endPlain : '>' ∉ '/' :: (name ++ space) := by
        rw [List.mem_cons, List.mem_append, not_or, not_or]
        exact ⟨by decide, name_without tags.named (by decide),
          spaces_plain fun c mem => tags.spaces c (List.mem_append_right _ mem)⟩
      obtain ⟨thinner, thins, content⟩ := content_thins inner faithful
      refine ⟨.element name (thinAttributes false [] attributes tail).1
        (thinAttributes false [] attributes tail).2 thinner (some space),
        ⟨rfl, rfl, thinAttributes_thinned carried_nil, thins⟩, fun rest => ?_⟩
      have start := strip_start tags.each spaces tags.named unmarked readable (.inl rfl)
        (renderAll children ++ '<' :: '/' :: (name ++ (space ++ '>' :: rest)))
      have closing : simpleStripJunosAttrs ('<' :: '/' :: (name ++ (space ++ '>' :: rest))) =
          '<' :: '/' :: (name ++ (space ++ '>' :: simpleStripJunosAttrs rest)) := by
        have tag := strip_tag endPlain rest
        rw [stripTag_kept (.inl rfl)] at tag
        simpa only [List.cons_append, List.append_assoc] using tag
      rw [content, closing] at start
      simpa only [render, List.cons_append, List.append_assoc, List.nil_append] using start

theorem content_thins : ∀ {ms : List Markup}, WellFormedContent ms → AllFaithful ms →
    ∃ thin, AllThins ms thin ∧ ∀ rest,
      simpleStripJunosAttrs (renderAll ms ++ rest) = renderAll thin ++ simpleStripJunosAttrs rest
  | [], _, _ => ⟨[], trivial, fun _ => rfl⟩
  | m :: ms, formed, faithful => by
      obtain ⟨first, thinsFirst, here⟩ := markup_thins formed.1 faithful.1
      obtain ⟨others, thinsOthers, later⟩ := content_thins formed.2.1 faithful.2
      refine ⟨first :: others, ⟨thinsFirst, thinsOthers⟩, fun rest => ?_⟩
      rw [renderAll, renderAll, List.append_assoc, List.append_assoc, here, later]

end

/-- Candidates that are scanned as they are meant agree when they have the same normal form. -/
theorem agree_of_normalise {candidate candidate' : List Markup}
    (formed : WellFormedContent candidate) (formed' : WellFormedContent candidate')
    (faithful : AllFaithful candidate) (faithful' : AllFaithful candidate')
    (same : normaliseCandidateForFingerprint (renderAll candidate) =
      normaliseCandidateForFingerprint (renderAll candidate')) : Agree candidate candidate' := by
  obtain ⟨thin, thins, text⟩ := content_thins formed faithful
  obtain ⟨thin', thins', text'⟩ := content_thins formed' faithful'
  have stripped := text []
  have stripped' := text' []
  rw [List.append_nil, strip_nil, List.append_nil] at stripped stripped'
  rw [normaliseCandidateForFingerprint, normaliseCandidateForFingerprint, stripped,
    stripped'] at same
  exact ⟨thin, thin', thins, thins', same⟩

theorem first_style_agrees :
    Agree (systemTag [styleAttribute, inactiveAttribute]) (systemTag [inactiveAttribute]) := by
  have formed := @systemTag_formed [styleAttribute, inactiveAttribute]
    (List.forall_mem_cons.mpr ⟨styleAttribute_formed, List.forall_mem_singleton.mpr
      inactiveAttribute_formed⟩) (by decide)
  have formed' := @systemTag_formed [inactiveAttribute]
    (List.forall_mem_singleton.mpr inactiveAttribute_formed) (by decide)
  refine agree_of_normalise formed.content formed'.content ⟨⟨by decide, ?_, trivial⟩, trivial⟩
    ⟨⟨by decide, ?_, trivial⟩, trivial⟩ (by decide)
  · simp only [Readable, Cuttable]
    decide
  · simp only [Readable, Cuttable]
    decide

/-! ### The prefix in another attribute -/

def noteAttribute (value : Text) : WrittenAttribute :=
  ⟨[' '], "note".toList, [], [], '"', value.map .literal⟩

theorem noteAttribute_formed {value : Text}
    (each : (value.all fun c => (Piece.literal c).isWellFormed ['<', '&', '"']) = true) :
    (noteAttribute value).WellFormed := by
  refine ⟨List.cons_ne_nil _ _, fun c space => ?_, rfl, .inl rfl, fun piece inside => ?_⟩
  · rw [List.mem_singleton.mp space]
    rfl
  obtain ⟨c, found, rfl⟩ := List.mem_map.mp inside
  exact List.all_eq_true.mp each c found

/-- The value is cut from the prefix on, to the end of the tag. -/
theorem note_not_seen :
    WellFormedDocument (systemTag [noteAttribute "junos:a".toList]) ∧
      WellFormedDocument (systemTag [noteAttribute "junos:b".toList]) ∧
      ¬Agree (systemTag [noteAttribute "junos:a".toList])
        (systemTag [noteAttribute "junos:b".toList]) ∧
      normaliseCandidateForFingerprint (renderAll (systemTag [noteAttribute "junos:a".toList])) =
        normaliseCandidateForFingerprint
          (renderAll (systemTag [noteAttribute "junos:b".toList])) := by
  refine ⟨systemTag_formed (List.forall_mem_singleton.mpr (noteAttribute_formed rfl))
    (by decide), systemTag_formed (List.forall_mem_singleton.mpr (noteAttribute_formed rfl))
    (by decide), ?_, by decide⟩
  rw [agree_iff rfl rfl]
  decide

end JunosMcp.Fingerprint
