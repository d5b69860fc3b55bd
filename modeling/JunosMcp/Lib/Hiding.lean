import Mathlib.Data.Fintype.EquivFin
import Mathlib.Data.Finset.Insert

/-!
# Functions below a hiding map

A hiding map sends a value to what may be shown of it. A function applied before it is harmless for
every hiding map only if it does nothing, or forgets its argument.
-/

namespace JunosMcp.Lib

variable {α : Type*}

def Idempotent (hide : α → α) : Prop := ∀ x, hide (hide x) = hide x

/-- What the function computes can be told from what is hidden, whatever is hidden. -/
def HidingSafe (f : α → α) : Prop :=
  ∀ hide : α → α, Idempotent hide → ∀ x y, hide x = hide y → hide (f x) = hide (f y)

/-- Hides the difference between two values, and nothing else. -/
def merge [DecidableEq α] (x y z : α) : α := if z = x then y else z

section Merge
variable [DecidableEq α] {x y : α}

theorem merge_left : merge x y x = y := if_pos rfl

theorem merge_of_ne {z : α} (ne : z ≠ x) : merge x y z = z := if_neg ne

theorem merge_right : merge x y y = y := by
  unfold merge
  split <;> rfl

theorem merge_idempotent : Idempotent (merge x y) := by
  intro z
  by_cases same : z = x
  · rw [same, merge_left, merge_right]
  · rw [merge_of_ne same, merge_of_ne same]

theorem merge_eq {z w : α} (same : merge x y z = merge x y w) :
    z = w ∨ z = x ∧ w = y ∨ z = y ∧ w = x := by
  by_cases hz : z = x <;> by_cases hw : w = x
  · exact .inl (hz.trans hw.symm)
  · rw [hz, merge_left, merge_of_ne hw] at same
    exact .inr (.inl ⟨hz, same.symm⟩)
  · rw [hw, merge_left, merge_of_ne hz] at same
    exact .inr (.inr ⟨same, hw⟩)
  · rw [merge_of_ne hz, merge_of_ne hw] at same
    exact .inl same

end Merge

theorem hidingSafe_id {f : α → α} (id : ∀ x, f x = x) : HidingSafe f := by
  intro hide _ x y same
  rw [id, id, same]

theorem hidingSafe_const {f : α → α} (const : ∀ x y, f x = f y) : HidingSafe f := by
  intro hide _ x y _
  rw [const x y]

/-- A safe function maps two values together, or leaves the pair as it is. -/
theorem HidingSafe.pair [DecidableEq α] {f : α → α} (safe : HidingSafe f) (x y : α) :
    f x = f y ∨ f x = x ∧ f y = y ∨ f x = y ∧ f y = x :=
  merge_eq (safe (merge x y) merge_idempotent x y (merge_left.trans merge_right.symm))

theorem hidingSafe_iff [DecidableEq α] [Infinite α] {f : α → α} :
    HidingSafe f ↔ (∀ x, f x = x) ∨ ∀ x y, f x = f y := by
  constructor
  · intro safe
    by_cases id : ∀ x, f x = x
    · exact .inl id
    · obtain ⟨x, moved⟩ := not_forall.mp id
      -- Everything but the image of `x` goes where `x` goes, and then so does the image.
      have others (y : α) (ne : y ≠ f x) : f y = f x := by
        rcases safe.pair x y with same | ⟨fixed, _⟩ | ⟨there, _⟩
        · exact same.symm
        · exact absurd fixed moved
        · exact absurd there.symm ne
      have image : f (f x) = f x := by
        obtain ⟨z, outside⟩ := Infinite.exists_notMem_finset {x, f x}
        simp only [Finset.mem_insert, Finset.mem_singleton, not_or] at outside
        have moves := others z outside.2
        rcases safe.pair z (f x) with same | ⟨_, fixed⟩ | ⟨_, back⟩
        · rw [← same, moves]
        · exact fixed
        · rcases safe.pair x (f x) with same | ⟨fixed, _⟩ | ⟨_, swap⟩
          · exact same.symm
          · exact absurd fixed moved
          · exact absurd (back.symm.trans swap) outside.1
      have all (y : α) : f y = f x := by
        by_cases same : y = f x
        · rw [same, image]
        · exact others y same
      exact .inr fun y z => (all y).trans (all z).symm
  · rintro (id | const)
    · exact hidingSafe_id id
    · exact hidingSafe_const const

end JunosMcp.Lib
