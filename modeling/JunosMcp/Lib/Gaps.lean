import Mathlib.Data.List.Infix
import Mathlib.Data.List.TakeWhile

/-!
# Gaps between words

A text with its gaps told apart by whether a line breaks in them: one that does is read as the
break alone, and any other is read as it stands. What is left open at the end is dropped.
-/

namespace JunosMcp.Lib

universe u

variable {α : Type u}

/-! ## Open gaps -/

/-- The gap that is open behind the text. -/
def trailing (blank : α → Bool) (gap : List α) : List α → List α
  | [] => gap
  | c :: rest => if blank c then trailing blank (gap ++ [c]) rest else trailing blank [] rest

def SameGap (newline : α) (gap gap' : List α) : Prop := newline ∈ gap ∧ newline ∈ gap' ∨ gap = gap'

section Marks

variable {blank : α → Bool} {newline : α}

theorem SameGap.refl (gap : List α) : SameGap newline gap gap := .inr rfl

theorem trailing_blank {gap : List α} (blanks : ∀ c ∈ gap, blank c = true) (text : List α) :
    ∀ c ∈ trailing blank gap text, blank c = true := by
  induction text generalizing gap with
  | nil => exact blanks
  | cons c text ih =>
      rw [trailing]
      split
      · rename_i here
        refine ih fun d inside => ?_
        rcases List.mem_append.mp inside with early | last
        · exact blanks d early
        · rwa [List.mem_singleton.mp last]
      · exact ih fun d none => absurd none List.not_mem_nil

/-- Two lists are the same up to the first visible mark, and behind it. -/
theorem append_visible_inj {first second rest rest' : List α} {c : α} (visible : blank c = false)
    (firstBlank : ∀ d ∈ first, blank d = true) (secondBlank : ∀ d ∈ second, blank d = true) :
    first ++ c :: rest = second ++ c :: rest' ↔ first = second ∧ rest = rest' := by
  constructor
  · intro same
    induction first generalizing second with
    | nil =>
        cases second with
        | nil => exact ⟨rfl, (List.cons.inj same).2⟩
        | cons d second =>
            have here := secondBlank d List.mem_cons_self
            rw [← (List.cons.inj same).1, visible] at here
            cases here
    | cons d first ih =>
        cases second with
        | nil =>
            have here := firstBlank d List.mem_cons_self
            rw [(List.cons.inj same).1, visible] at here
            cases here
        | cons e second =>
            obtain ⟨rfl, later⟩ := List.cons.inj same
            obtain ⟨rfl, rest⟩ := ih (fun a inside => firstBlank a (List.mem_cons_of_mem _ inside))
              (fun a inside => secondBlank a (List.mem_cons_of_mem _ inside)) later
            exact ⟨rfl, rest⟩
  · rintro ⟨rfl, rfl⟩
    rfl

end Marks

/-! ## Reading -/

variable [DecidableEq α] (blank : α → Bool) (newline : α)

def gapForm (gap : List α) : List α := if newline ∈ gap then [newline] else gap

/-- The text as it is read behind a gap. -/
def squeeze (gap : List α) : List α → List α
  | [] => []
  | c :: rest =>
      if blank c then squeeze (gap ++ [c]) rest else gapForm newline gap ++ c :: squeeze [] rest

variable {blank : α → Bool} {newline : α}

/-! ## One gap -/

theorem gapForm_broken {gap : List α} (breaks : newline ∈ gap) : gapForm newline gap = [newline] :=
  if_pos breaks

theorem gapForm_unbroken {gap : List α} (whole : newline ∉ gap) : gapForm newline gap = gap :=
  if_neg whole

theorem gapForm_eq_iff {gap gap' : List α} :
    gapForm newline gap = gapForm newline gap' ↔ SameGap newline gap gap' := by
  by_cases first : newline ∈ gap <;> by_cases second : newline ∈ gap'
  · rw [gapForm_broken first, gapForm_broken second]
    exact iff_of_true rfl (.inl ⟨first, second⟩)
  · rw [gapForm_broken first, gapForm_unbroken second]
    refine iff_of_false (fun same => second (same ▸ List.mem_singleton_self newline)) ?_
    rintro (⟨-, inside⟩ | rfl)
    · exact second inside
    · exact second first
  · rw [gapForm_unbroken first, gapForm_broken second]
    refine iff_of_false (fun same => first (same ▸ List.mem_singleton_self newline)) ?_
    rintro (⟨inside, -⟩ | rfl)
    · exact first inside
    · exact first second
  · rw [gapForm_unbroken first, gapForm_unbroken second]
    refine ⟨.inr, ?_⟩
    rintro (⟨inside, -⟩ | same)
    · exact absurd inside first
    · exact same

theorem gapForm_blank {gap : List α} (blanks : ∀ c ∈ gap, blank c = true)
    (breakBlank : blank newline = true) : ∀ c ∈ gapForm newline gap, blank c = true := by
  intro c inside
  unfold gapForm at inside
  split at inside
  · rwa [List.mem_singleton.mp inside]
  · exact blanks c inside

/-! ## Texts -/

theorem squeeze_append (gap front back : List α) :
    squeeze blank newline gap (front ++ back) =
      squeeze blank newline gap front ++ squeeze blank newline (trailing blank gap front) back := by
  induction front generalizing gap with
  | nil => rfl
  | cons c front ih =>
      rw [List.cons_append, squeeze, squeeze, trailing]
      split
      · exact ih _
      · rw [ih, List.append_assoc, List.cons_append]

theorem squeeze_visible {c : α} (visible : blank c = false) (gap rest : List α) :
    squeeze blank newline gap (c :: rest) =
      gapForm newline gap ++ c :: squeeze blank newline [] rest := by
  rw [squeeze, if_neg (by rw [visible]; exact Bool.false_ne_true)]

theorem squeeze_blanks {blanks : List α} (each : ∀ c ∈ blanks, blank c = true) (gap rest : List α) :
    squeeze blank newline gap (blanks ++ rest) = squeeze blank newline (gap ++ blanks) rest := by
  induction blanks generalizing gap with
  | nil => rw [List.nil_append, List.append_nil]
  | cons c blanks ih =>
      obtain ⟨here, later⟩ := List.forall_mem_cons.mp each
      rw [List.cons_append, squeeze, if_pos here, ih later, List.append_assoc]
      rfl

/-- Only whether a line breaks in the open gap can be told from what follows. -/
theorem squeeze_break {gap gap' : List α} (first : newline ∈ gap) (second : newline ∈ gap')
    (text : List α) : squeeze blank newline gap text = squeeze blank newline gap' text := by
  induction text generalizing gap gap' with
  | nil => rfl
  | cons c text ih =>
      rw [squeeze, squeeze]
      split
      · exact ih (List.mem_append_left _ first) (List.mem_append_left _ second)
      · rw [gapForm_broken first, gapForm_broken second]

/-- A text of one line is what is read of it, and the gap that is open behind it. -/
theorem squeeze_unbroken {gap text : List α} (whole : newline ∉ gap ++ text) :
    squeeze blank newline gap text ++ trailing blank gap text = gap ++ text := by
  induction text generalizing gap with
  | nil => rw [List.append_nil]; rfl
  | cons c text ih =>
      rw [squeeze, trailing]
      split
      · rw [ih (by rwa [List.append_assoc]), List.append_assoc]
        rfl
      · obtain ⟨gapWhole, rest⟩ := not_or.mp (mt List.mem_append.mpr whole)
        rw [gapForm_unbroken gapWhole, List.append_assoc, List.cons_append,
          ih fun inside => rest (List.mem_cons_of_mem c inside)]
        rfl

theorem squeeze_last (gap text : List α) :
    squeeze blank newline gap text = [] ∨
      ∃ front c, squeeze blank newline gap text = front ++ [c] ∧ blank c = false := by
  induction text generalizing gap with
  | nil => exact .inl rfl
  | cons c text ih =>
      rw [squeeze]
      split
      · exact ih _
      · rename_i visible
        refine .inr ?_
        rcases ih [] with none | ⟨front, d, shape, last⟩
        · exact ⟨gapForm newline gap, c, by rw [none], eq_false_of_ne_true visible⟩
        · refine ⟨gapForm newline gap ++ c :: front, d, ?_, last⟩
          rw [shape, List.append_assoc]
          rfl

/-- Texts with a gap in front that may differ are read alike just where the gaps are, and what
follows is. -/
theorem squeeze_gap_iff {gap gap' rest rest' : List α} {c : α} (breakBlank : blank newline = true)
    (visible : blank c = false) (gapBlank : ∀ d ∈ gap, blank d = true)
    (gapBlank' : ∀ d ∈ gap', blank d = true) :
    squeeze blank newline [] (gap ++ c :: rest) = squeeze blank newline [] (gap' ++ c :: rest') ↔
      SameGap newline gap gap' ∧
        squeeze blank newline [] rest = squeeze blank newline [] rest' := by
  rw [squeeze_blanks gapBlank, squeeze_blanks gapBlank', squeeze_visible visible,
    squeeze_visible visible, List.nil_append, List.nil_append,
    append_visible_inj visible (gapForm_blank gapBlank breakBlank)
      (gapForm_blank gapBlank' breakBlank), gapForm_eq_iff]

end JunosMcp.Lib
