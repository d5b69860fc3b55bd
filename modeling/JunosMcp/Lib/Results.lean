import Mathlib.Data.List.Forall2

/-!
# Results

Inversion of the `?` operator and of a fallible traversal.
-/

namespace JunosMcp.Lib

variable {ε α β : Type}

theorem bind_eq_ok {x : Except ε α} {f : α → Except ε β} {result : β} :
    (x >>= f) = .ok result ↔ ∃ value, x = .ok value ∧ f value = .ok result := by
  cases x with
  | error error => simp [bind, Except.bind]
  | ok value => simp [bind, Except.bind]

theorem map_eq_ok {x : Except ε α} {f : α → β} {result : β} :
    x.map f = .ok result ↔ ∃ value, x = .ok value ∧ f value = result := by
  cases x with
  | error error => simp [Except.map]
  | ok value => simp [Except.map]

theorem mapError_eq_ok {δ : Type} {x : Except ε α} {f : ε → δ} {result : α} :
    x.mapError f = .ok result ↔ x = .ok result := by
  cases x with
  | error error => simp [Except.mapError]
  | ok value => simp [Except.mapError]

theorem mapM_ok_forall₂ {f : α → Except ε β} {xs : List α} {ys : List β}
    (ok : xs.mapM f = .ok ys) : List.Forall₂ (fun x y => f x = .ok y) xs ys := by
  induction xs generalizing ys with
  | nil =>
      cases ok
      exact .nil
  | cons x rest ih =>
      rw [List.mapM_cons] at ok
      obtain ⟨y, head, ok⟩ := bind_eq_ok.mp ok
      obtain ⟨tail, later, ok⟩ := bind_eq_ok.mp ok
      cases ok
      exact .cons head (ih later)

theorem mapM_ok_map {γ : Type} {f : α → Except ε β} {xs : List α} {ys : List β}
    (ok : xs.mapM f = .ok ys) {g : β → γ} {h : α → γ} (each : ∀ x y, f x = .ok y → g y = h x) :
    ys.map g = xs.map h := by
  have all := mapM_ok_forall₂ ok
  clear ok
  induction all with
  | nil => rfl
  | cons head _ ih => rw [List.map_cons, List.map_cons, each _ _ head, ih]

theorem forall₂_mem_left {read : α → β → Prop} {xs : List α} {ys : List β}
    (all : List.Forall₂ read xs ys) {x : α} (inside : x ∈ xs) : ∃ y ∈ ys, read x y := by
  induction all with
  | nil => cases inside
  | cons head _ ih =>
      rcases List.mem_cons.mp inside with rfl | later
      · exact ⟨_, List.mem_cons_self, head⟩
      · obtain ⟨y, found, related⟩ := ih later
        exact ⟨y, List.mem_cons_of_mem _ found, related⟩

theorem forall₂_mem_right {read : α → β → Prop} {xs : List α} {ys : List β}
    (all : List.Forall₂ read xs ys) {y : β} (inside : y ∈ ys) : ∃ x ∈ xs, read x y :=
  forall₂_mem_left all.flip inside

theorem mapM_ok_of_mem {f : α → Except ε β} {xs : List α} {ys : List β}
    (ok : xs.mapM f = .ok ys) {x : α} (member : x ∈ xs) : ∃ y, f x = .ok y := by
  obtain ⟨y, -, same⟩ := forall₂_mem_left (mapM_ok_forall₂ ok) member
  exact ⟨y, same⟩

theorem mapM_ok_mem {f : α → Except ε β} {xs : List α} {ys : List β}
    (ok : xs.mapM f = .ok ys) {y : β} (member : y ∈ ys) : ∃ x ∈ xs, f x = .ok y :=
  forall₂_mem_right (mapM_ok_forall₂ ok) member

theorem mapM_ok_filterMap {f : α → Except ε β} {xs : List α} {ys : List β}
    (ok : xs.mapM f = .ok ys) : ys = xs.filterMap fun x => (f x).toOption := by
  have all := mapM_ok_forall₂ ok
  clear ok
  induction all with
  | nil => rfl
  | cons head _ ih => rw [List.filterMap_cons, head, ← ih]; rfl

theorem foldlM_cons_ok {σ : Type} {f : σ → α → Except ε σ} {x : α} {rest : List α} {s s' : σ} :
    (x :: rest).foldlM f s = .ok s' ↔ ∃ next, f s x = .ok next ∧ rest.foldlM f next = .ok s' := by
  rw [List.foldlM_cons]
  exact bind_eq_ok

theorem foldlM_ok_foldl {σ : Type} {step : σ → α → Except ε σ} {fold : σ → α → σ}
    (each : ∀ s x s', step s x = .ok s' → s' = fold s x) {xs : List α} {s s' : σ}
    (ok : xs.foldlM step s = .ok s') : s' = xs.foldl fold s := by
  induction xs generalizing s with
  | nil =>
      cases ok
      rfl
  | cons x rest ih =>
      obtain ⟨next, head, tail⟩ := foldlM_cons_ok.mp ok
      rw [List.foldl_cons, ← each s x next head]
      exact ih tail

/-- A traversal whose steps read items into a state one after the other reads all of them. -/
theorem foldlM_reads {σ ι : Type} {step : σ → ι → Except ε σ} {items : ι → List α}
    {read : α → β → Prop} {add : σ → β → σ}
    (each : ∀ x s s', step s x = .ok s' →
      ∃ ys, List.Forall₂ read (items x) ys ∧ s' = ys.foldl add s)
    {xs : List ι} {s s' : σ} (ok : xs.foldlM step s = .ok s') :
    ∃ ys, List.Forall₂ read (xs.flatMap items) ys ∧ s' = ys.foldl add s := by
  induction xs generalizing s with
  | nil =>
      cases ok
      exact ⟨[], .nil, rfl⟩
  | cons x rest ih =>
      obtain ⟨next, head, tail⟩ := foldlM_cons_ok.mp ok
      obtain ⟨first, readFirst, rfl⟩ := each x s next head
      obtain ⟨others, readOthers, rfl⟩ := ih tail
      exact ⟨first ++ others, List.rel_append readFirst readOthers, List.foldl_append.symm⟩

/-- A traversal none of whose steps can fail does not fail. -/
theorem foldlM_total {σ : Type} {f : σ → α → Except ε σ} {xs : List α}
    (total : ∀ x ∈ xs, ∀ s, ∃ s', f s x = .ok s') (s : σ) : ∃ s', xs.foldlM f s = .ok s' := by
  induction xs generalizing s with
  | nil => exact ⟨s, rfl⟩
  | cons x rest ih =>
      obtain ⟨next, head⟩ := total x List.mem_cons_self s
      obtain ⟨s', tail⟩ := ih (fun y inside => total y (List.mem_cons_of_mem x inside)) next
      exact ⟨s', foldlM_cons_ok.mpr ⟨next, head, tail⟩⟩

/-! ## Related lists -/

theorem forall₂_iff_forall_mem {R S : α → β → Prop} {p : α → Prop} {xs : List α} {ys : List β}
    (reads : List.Forall₂ R xs ys) (each : ∀ x y, R x y → (S x y ↔ p x)) :
    List.Forall₂ S xs ys ↔ ∀ x ∈ xs, p x := by
  induction reads with
  | nil => simp
  | cons head _ ih => rw [List.forall₂_cons, List.forall_mem_cons, each _ _ head, ih]

theorem forall₂_append_left_iff {R S : α → β → Prop} {xs more : List α} {ys : List β}
    (reads : List.Forall₂ R xs ys) :
    List.Forall₂ S (xs ++ more) ys ↔ more = [] ∧ List.Forall₂ S xs ys := by
  constructor
  · intro whole
    have same := whole.length_eq
    rw [List.length_append, reads.length_eq] at same
    obtain rfl : more = [] := List.length_eq_zero_iff.mp (by omega)
    exact ⟨rfl, by simpa using whole⟩
  · rintro ⟨rfl, whole⟩
    rwa [List.append_nil]

theorem length_le_flatMap {f : α → List β} {xs : List α} {ys : List β}
    (reads : List.Forall₂ (fun x y => (f x).head? = some y) xs ys) :
    ys.length ≤ (xs.flatMap f).length := by
  induction reads with
  | nil => exact Nat.le_refl 0
  | @cons x y xs ys head _ ih =>
      obtain ⟨tail, shape⟩ := List.head?_eq_some_iff.mp head
      rw [List.flatMap_cons, List.length_append, shape, List.length_cons, List.length_cons]
      omega

theorem forall₂_flatMap {γ : Type} {R : β → γ → Prop} {f : α → List β} {xs : List α}
    {lists : List (List γ)}
    (reads : List.Forall₂ (fun x list => List.Forall₂ R (f x) list) xs lists) :
    List.Forall₂ R (xs.flatMap f) lists.flatten := by
  induction reads with
  | nil => exact .nil
  | cons head _ ih =>
      rw [List.flatMap_cons, List.flatten_cons]
      exact List.rel_append head ih

/-- The first results are all results exactly when no element has two. -/
theorem eq_flatMap_iff {f : α → List β} {xs : List α} {ys : List β}
    (reads : List.Forall₂ (fun x y => (f x).head? = some y) xs ys) :
    ys = xs.flatMap f ↔ ∀ x ∈ xs, (f x).length ≤ 1 := by
  induction reads with
  | nil => simp
  | @cons x y xs ys head reads ih =>
      obtain ⟨tail, shape⟩ := List.head?_eq_some_iff.mp head
      rw [List.forall_mem_cons, List.flatMap_cons, shape, List.cons_append, List.cons.injEq,
        List.length_cons]
      constructor
      · rintro ⟨-, same⟩
        have counted := congrArg List.length same
        have atLeast := length_le_flatMap reads
        rw [List.length_append] at counted
        obtain rfl : tail = [] := List.length_eq_zero_iff.mp (by omega)
        exact ⟨Nat.le_refl 1, ih.mp same⟩
      · rintro ⟨few, others⟩
        obtain rfl : tail = [] := List.length_eq_zero_iff.mp (by omega)
        exact ⟨rfl, ih.mpr others⟩

/-! ## Options -/

section Options

variable {f : α → Option β} {xs : List α} {ys : List β}

theorem mapM_some_forall₂ (all : xs.mapM f = some ys) :
    List.Forall₂ (fun x y => f x = some y) xs ys := by
  induction xs generalizing ys with
  | nil =>
      cases all
      exact .nil
  | cons x xs ih =>
      rw [List.mapM_cons] at all
      obtain ⟨y, here, all⟩ := Option.bind_eq_some_iff.mp all
      obtain ⟨rest, later, same⟩ := Option.bind_eq_some_iff.mp all
      cases same
      exact .cons here (ih later)

/-- What is looked for in the results can be looked for in what they are read from. -/
theorem mapM_some_filterMap {γ : Type} (all : xs.mapM f = some ys) (g : β → Option γ) :
    ys.filterMap g = xs.filterMap fun x => (f x).bind g := by
  have reads := mapM_some_forall₂ all
  clear all
  induction reads with
  | nil => rfl
  | cons head _ ih => rw [List.filterMap_cons, List.filterMap_cons, head, ih, Option.bind_some]

/-- Only one element has a value. -/
theorem filterMap_singleton_unique {value : β} (only : xs.filterMap f = [value]) {a b : α}
    (first : a ∈ xs) (second : b ∈ xs) (hasA : (f a).isSome) (hasB : (f b).isSome) : a = b := by
  induction xs with
  | nil => cases first
  | cons x xs ih =>
      cases here : f x with
      | none =>
          rw [List.filterMap_cons_none here] at only
          have later : ∀ {c}, c ∈ x :: xs → (f c).isSome → c ∈ xs := by
            intro c inside has
            rcases List.mem_cons.mp inside with rfl | inside
            · rw [here] at has
              cases has
            · exact inside
          exact ih only (later first hasA) (later second hasB)
      | some y =>
          rw [List.filterMap_cons_some here] at only
          have none : ∀ c ∈ xs, f c = none := List.filterMap_eq_nil_iff.mp (List.cons.inj only).2
          have own : ∀ {c}, c ∈ x :: xs → (f c).isSome → c = x := by
            intro c inside has
            rcases List.mem_cons.mp inside with rfl | inside
            · rfl
            · rw [none c inside] at has
              cases has
          rw [own first hasA, own second hasB]

variable {g : α → Option β}

theorem length_filterMap_le (fewer : ∀ x ∈ xs, (f x).isSome → (g x).isSome) :
    (xs.filterMap f).length ≤ (xs.filterMap g).length := by
  induction xs with
  | nil => exact Nat.le_refl 0
  | cons x xs ih =>
      obtain ⟨head, tail⟩ := List.forall_mem_cons.mp fewer
      have later := ih tail
      cases first : f x with
      | none =>
          rw [List.filterMap_cons_none first]
          cases second : g x with
          | none => rwa [List.filterMap_cons_none second]
          | some y => rw [List.filterMap_cons_some second, List.length_cons]; omega
      | some y =>
          obtain ⟨z, second⟩ := Option.isSome_iff_exists.mp (head (by rw [first]; rfl))
          rw [List.filterMap_cons_some first, List.filterMap_cons_some second, List.length_cons,
            List.length_cons]
          omega

/-- Where one reader finds nothing that the other does not, they find the same list only by
reading every element alike. -/
theorem filterMap_eq_iff (fewer : ∀ x ∈ xs, (f x).isSome → (g x).isSome) :
    xs.filterMap f = xs.filterMap g ↔ ∀ x ∈ xs, f x = g x := by
  refine ⟨fun same => ?_, List.filterMap_congr⟩
  induction xs with
  | nil => exact nofun
  | cons x xs ih =>
      obtain ⟨head, tail⟩ := List.forall_mem_cons.mp fewer
      rw [List.forall_mem_cons]
      cases first : f x with
      | none =>
          rw [List.filterMap_cons_none first] at same
          cases second : g x with
          | none =>
              rw [List.filterMap_cons_none second] at same
              exact ⟨rfl, ih tail same⟩
          | some y =>
              rw [List.filterMap_cons_some second] at same
              have bound := length_filterMap_le tail
              rw [same, List.length_cons] at bound
              omega
      | some y =>
          obtain ⟨z, second⟩ := Option.isSome_iff_exists.mp (head (by rw [first]; rfl))
          rw [List.filterMap_cons_some first, List.filterMap_cons_some second] at same
          obtain ⟨here, later⟩ := List.cons.inj same
          exact ⟨by rw [second, here], ih tail later⟩

end Options

end JunosMcp.Lib
