import Mathlib.Data.List.Basic
import Mathlib.Logic.Function.Basic

/-!
# Layers of definitions

Definitions are entered into a table one after the other, a later one over an earlier one. Where they
come in layers, a key should get its definition from the first layer that has one.
-/

namespace JunosMcp.Lib

universe u v

variable {κ : Type u} {α : Type v} {key : κ} {value : α}

def Defines (layer : List (κ × α)) (key : κ) : Prop := ∃ value, (key, value) ∈ layer

/-- What a key gets is a definition of the first layer that has one, and else the fallback. -/
def FromFirst (key : κ) (fallback used : Option α) : List (List (κ × α)) → Prop
  | [] => used = fallback
  | layer :: others =>
      (Defines layer key ∧ ∃ value, (key, value) ∈ layer ∧ used = some value) ∨
        (¬ Defines layer key ∧ FromFirst key fallback used others)

/-- Where nothing is used that the fallback could be taken for, the two layers come first exactly
when what is used is in the upper one, or in the lower one and the upper one has none. -/
theorem fromFirst_some_iff {upper lower : List (κ × α)} {fallback : Option α}
    (other : fallback ≠ some value) :
    FromFirst key fallback (some value) [upper, lower] ↔
      (key, value) ∈ upper ∨ (¬ Defines upper key ∧ (key, value) ∈ lower) := by
  have among : ∀ layer : List (κ × α),
      (Defines layer key ∧ ∃ v, (key, v) ∈ layer ∧ some value = some v) ↔ (key, value) ∈ layer := by
    intro layer
    constructor
    · rintro ⟨-, v, inside, same⟩
      cases same
      exact inside
    · exact fun inside => ⟨⟨value, inside⟩, value, inside, rfl⟩
  simp only [FromFirst, among]
  constructor
  · rintro (inside | ⟨absent, inside | ⟨-, same⟩⟩)
    · exact .inl inside
    · exact .inr ⟨absent, inside⟩
    · exact absurd same.symm other
  · rintro (inside | ⟨absent, inside⟩)
    · exact .inl inside
    · exact .inr ⟨absent, .inl inside⟩

theorem fromFirst_fallback {fallback : Option α} {layers : List (List (κ × α))}
    (absent : ∀ layer ∈ layers, ¬ Defines layer key) : FromFirst key fallback fallback layers := by
  induction layers with
  | nil => rfl
  | cons layer others ih =>
      obtain ⟨here, later⟩ := List.forall_mem_cons.mp absent
      exact .inr ⟨here, ih later⟩

/-! ## Later over earlier -/

section Last

variable [DecidableEq κ]

def define (table : κ → Option α) (entry : κ × α) : κ → Option α :=
  Function.update table entry.1 (some entry.2)

/-- The last definition of a key. -/
def lastUnder (key : κ) : List (κ × α) → Option α
  | [] => none
  | entry :: rest => (lastUnder key rest).or (if entry.1 = key then some entry.2 else none)

theorem foldl_define {table : κ → Option α} (entries : List (κ × α)) :
    entries.foldl define table key = (lastUnder key entries).or (table key) := by
  induction entries generalizing table with
  | nil => rfl
  | cons entry rest ih =>
      rw [List.foldl_cons, ih, lastUnder, Option.or_assoc, define]
      by_cases same : entry.1 = key
      · rw [if_pos same, ← same, Function.update_self, Option.some_or]
      · rw [if_neg same, Function.update_of_ne (Ne.symm same), Option.none_or]

theorem lastUnder_mem {entries : List (κ × α)} (last : lastUnder key entries = some value) :
    (key, value) ∈ entries := by
  induction entries with
  | nil => cases last
  | cons entry rest ih =>
      rw [lastUnder, Option.or_eq_some_iff] at last
      rcases last with later | ⟨-, here⟩
      · exact List.mem_cons_of_mem _ (ih later)
      · split at here
        · rename_i same
          cases here
          cases same
          exact List.mem_cons_self
        · cases here

theorem lastUnder_isSome {entries : List (κ × α)} (defined : Defines entries key) :
    ∃ last, lastUnder key entries = some last := by
  obtain ⟨value, inside⟩ := defined
  induction entries with
  | nil => cases inside
  | cons entry rest ih =>
      rw [lastUnder]
      rcases List.mem_cons.mp inside with rfl | later
      · rw [if_pos rfl]
        cases lastUnder key rest with
        | some last => exact ⟨last, rfl⟩
        | none => exact ⟨value, rfl⟩
      · obtain ⟨last, found⟩ := ih later
        exact ⟨last, by rw [found, Option.some_or]⟩

end Last

end JunosMcp.Lib
