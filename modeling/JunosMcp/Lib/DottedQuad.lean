import Mathlib.Data.List.Infix
import Mathlib.Data.List.Count

/-!
# Dotted numbers

Short runs of digits with dots between them, and where such a number stands in a longer text.
-/

namespace JunosMcp.Lib

universe u v

variable {α : Type u} {β : Type v}

structure IsOctet (digit : α → Bool) (run : List α) : Prop where
  nonempty : run ≠ []
  short : run.length ≤ 3
  digits : ∀ a ∈ run, digit a = true

section Numbers

variable (digit : α → Bool) (dot : α)

def IsDotted : Nat → List α → Prop
  | 0, text => IsOctet digit text
  | dots + 1, text =>
      ∃ group rest, text = group ++ dot :: rest ∧ IsOctet digit group ∧ IsDotted dots rest

/-- No longer number goes on here. -/
def Ends : List α → Prop
  | [] => True
  | next :: _ => digit next = false ∧ next ≠ dot

def NumberAt (dots : Nat) (text : List α) : Prop :=
  ∃ number rest, text = number ++ rest ∧ IsDotted digit dot dots number ∧ Ends digit dot rest

end Numbers

variable {digit : α → Bool} {dot : α}

/-! ## Numbers in a text -/

theorem IsOctet.drop_front {front back : List α} (octet : IsOctet digit (front ++ back))
    (nonempty : back ≠ []) : IsOctet digit back := by
  refine ⟨nonempty, ?_, fun a inside => octet.digits a (List.mem_append_right _ inside)⟩
  have short := octet.short
  rw [List.length_append] at short
  exact (Nat.le_add_left _ _).trans short

theorem IsOctet.dot_notMem {run : List α} (octet : IsOctet digit run) (plain : digit dot = false) :
    dot ∉ run := by
  intro inside
  rw [octet.digits dot inside] at plain
  cases plain

theorem IsDotted.head {dots : Nat} {number : List α} (dotted : IsDotted digit dot dots number) :
    ∃ a rest, number = a :: rest ∧ digit a = true := by
  have first (run more : List α) (octet : IsOctet digit run) :
      ∃ a rest, run ++ more = a :: rest ∧ digit a = true := by
    obtain ⟨a, rest, shape⟩ := List.exists_cons_of_ne_nil octet.nonempty
    subst shape
    exact ⟨a, rest ++ more, rfl, octet.digits a List.mem_cons_self⟩
  cases dots with
  | zero =>
      have found := first number [] dotted
      rwa [List.append_nil] at found
  | succ dots =>
      obtain ⟨group, rest, rfl, octet, -⟩ := dotted
      exact first group (dot :: rest) octet

theorem IsDotted.mem {dots : Nat} {number : List α} (dotted : IsDotted digit dot dots number)
    {a : α} (inside : a ∈ number) : digit a = true ∨ a = dot := by
  induction dots generalizing number with
  | zero => exact .inl (IsOctet.digits dotted a inside)
  | succ dots ih =>
      obtain ⟨group, rest, rfl, octet, dottedRest⟩ := dotted
      rcases List.mem_append.mp inside with inGroup | later
      · exact .inl (octet.digits a inGroup)
      · rcases List.mem_cons.mp later with isDot | inRest
        · exact .inr isDot
        · exact ih dottedRest inRest

theorem IsDotted.ne_nil {dots : Nat} {number : List α} (dotted : IsDotted digit dot dots number) :
    number ≠ [] := by
  obtain ⟨a, rest, shape, -⟩ := dotted.head
  rw [shape]
  exact List.cons_ne_nil a rest

/-- Nothing of a number stands behind the place where another ends. -/
theorem Ends.eq_nil {dots : Nat} {front back after rest : List α}
    (ends : Ends digit dot rest) (dotted : IsDotted digit dot dots (front ++ back))
    (shape : rest = back ++ after) : back = [] := by
  cases back with
  | nil => rfl
  | cons a back =>
      subst shape
      rcases dotted.mem (List.mem_append_right _ List.mem_cons_self) with isDigit | isDot
      · exact absurd (isDigit.symm.trans ends.1) (by simp)
      · exact absurd isDot ends.2

/-- A part of a number behind its first digits, with as many dots, is such a number itself. -/
theorem IsDotted.drop_front {dots : Nat} {front back : List α} (plain : digit dot = false)
    (dotted : IsDotted digit dot dots (front ++ back)) (noDot : dot ∉ front)
    (starts : ∃ a rest, back = a :: rest ∧ digit a = true) : IsDotted digit dot dots back := by
  obtain ⟨a, tail, rfl, isDigit⟩ := starts
  cases dots with
  | zero => exact IsOctet.drop_front dotted (List.cons_ne_nil a tail)
  | succ dots =>
      obtain ⟨group, rest, shape, octet, dottedRest⟩ := dotted
      have notDot (same : a = dot) : False := by
        rw [same, plain] at isDigit
        cases isDigit
      rcases List.append_eq_append_iff.mp shape with ⟨part, whole, split⟩ | ⟨part, whole, split⟩
      · -- The front ends in the first group, and the part left of it is one.
        cases part with
        | nil => exact (notDot (List.cons.inj split).1).elim
        | cons b part =>
            subst whole
            exact ⟨b :: part, rest, split, octet.drop_front (List.cons_ne_nil b part), dottedRest⟩
      · -- The front would hold the first dot.
        cases part with
        | nil => exact (notDot (List.cons.inj split).1.symm).elim
        | cons b part =>
            rw [whole, (List.cons.inj split).1] at noDot
            exact absurd (List.mem_append_right _ List.mem_cons_self) noDot

section Count

variable [DecidableEq α]

theorem IsDotted.count {dots : Nat} {number : List α} (plain : digit dot = false)
    (dotted : IsDotted digit dot dots number) : number.count dot = dots := by
  induction dots generalizing number with
  | zero => exact List.count_eq_zero.mpr (IsOctet.dot_notMem dotted plain)
  | succ dots ih =>
      obtain ⟨group, rest, rfl, octet, dottedRest⟩ := dotted
      rw [List.count_append, List.count_eq_zero.mpr (octet.dot_notMem plain), List.count_cons_self,
        ih dottedRest, Nat.zero_add]

/-- A number that begins inside another, and has as many dots, shows one that ends with it. -/
theorem IsDotted.numberAt_inside {dots : Nat} {front inner after number rest : List α}
    (plain : digit dot = false) (inside : IsDotted digit dot dots inner)
    (shape : front ++ (inner ++ after) = number ++ rest) (shorter : front.length < number.length)
    (dotted : IsDotted digit dot dots number) (ends : Ends digit dot rest) :
    NumberAt digit dot dots (inner ++ after) := by
  rcases List.append_eq_append_iff.mp shape with ⟨back, rfl, split⟩ | ⟨back, rfl, -⟩
  · refine ⟨back, rest, split, ?_, ends⟩
    rcases List.append_eq_append_iff.mp split with ⟨more, rfl, -⟩ | ⟨more, rfl, whole⟩
    · have counts := dotted.count plain
      rw [List.count_append, List.count_append, inside.count plain] at counts
      have noDot : front.count dot = 0 := by omega
      refine dotted.drop_front plain (List.count_eq_zero.mp noDot) ?_
      obtain ⟨a, tail, rfl, isDigit⟩ := inside.head
      exact ⟨a, tail ++ more, rfl, isDigit⟩
    · have nothing := ends.eq_nil inside whole
      rw [nothing, List.append_nil] at inside
      exact inside
  · rw [List.length_append] at shorter
    omega

end Count

/-! ## Other letters -/

section Map

variable {digit' : β → Bool} {dot' : β} {f : α → β}

theorem isOctet_map (sameDigit : ∀ a, digit' (f a) = digit a) {run : List α} :
    IsOctet digit' (run.map f) ↔ IsOctet digit run := by
  constructor
  · intro octet
    refine ⟨fun none => octet.nonempty (by rw [none]; rfl), ?_, fun a inside => ?_⟩
    · have short := octet.short
      rwa [List.length_map] at short
    · rw [← sameDigit]
      exact octet.digits _ (List.mem_map_of_mem inside)
  · intro octet
    refine ⟨fun none => octet.nonempty (List.map_eq_nil_iff.mp none), ?_, fun b inside => ?_⟩
    · rw [List.length_map]
      exact octet.short
    · obtain ⟨a, inRun, rfl⟩ := List.mem_map.mp inside
      rw [sameDigit]
      exact octet.digits a inRun

theorem isDotted_map (sameDigit : ∀ a, digit' (f a) = digit a) (sameDot : ∀ a, f a = dot' ↔ a = dot)
    {dots : Nat} {number : List α} :
    IsDotted digit' dot' dots (number.map f) ↔ IsDotted digit dot dots number := by
  induction dots generalizing number with
  | zero => exact isOctet_map sameDigit
  | succ dots ih =>
      constructor
      · rintro ⟨group, rest, shape, octet, dottedRest⟩
        obtain ⟨first, others, rfl, rfl, tail⟩ := List.map_eq_append_iff.mp shape
        obtain ⟨a, later, rfl, isDot, rfl⟩ := List.map_eq_cons_iff.mp tail
        rw [(sameDot a).mp isDot]
        exact ⟨first, later, rfl, (isOctet_map sameDigit).mp octet, ih.mp dottedRest⟩
      · rintro ⟨group, rest, rfl, octet, dottedRest⟩
        refine ⟨group.map f, rest.map f, ?_, (isOctet_map sameDigit).mpr octet, ih.mpr dottedRest⟩
        rw [List.map_append, List.map_cons, (sameDot dot).mpr rfl]

theorem ends_map (sameDigit : ∀ a, digit' (f a) = digit a) (sameDot : ∀ a, f a = dot' ↔ a = dot)
    {rest : List α} : Ends digit' dot' (rest.map f) ↔ Ends digit dot rest := by
  cases rest with
  | nil => exact Iff.rfl
  | cons next rest => exact and_congr (by rw [sameDigit]) (not_congr (sameDot next))

theorem numberAt_map (sameDigit : ∀ a, digit' (f a) = digit a) (sameDot : ∀ a, f a = dot' ↔ a = dot)
    {dots : Nat} {text : List α} :
    NumberAt digit' dot' dots (text.map f) ↔ NumberAt digit dot dots text := by
  constructor
  · rintro ⟨number, rest, shape, dotted, ends⟩
    obtain ⟨front, back, rfl, rfl, rfl⟩ := List.map_eq_append_iff.mp shape
    exact ⟨front, back, rfl, (isDotted_map sameDigit sameDot).mp dotted,
      (ends_map sameDigit sameDot).mp ends⟩
  · rintro ⟨number, rest, rfl, dotted, ends⟩
    exact ⟨number.map f, rest.map f, List.map_append, (isDotted_map sameDigit sameDot).mpr dotted,
      (ends_map sameDigit sameDot).mpr ends⟩

end Map

end JunosMcp.Lib
