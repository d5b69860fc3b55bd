import Mathlib.Data.List.Flatten
import Mathlib.Data.List.Nodup
import Mathlib.Data.List.Perm.Basic

/-!
# Joining by key

Items stand under a key and hold some values. A join gives each item of another list what the first
item of its key holds.
-/

namespace JunosMcp.Lib

universe u v w

variable {κ : Type u} {α β : Type v} {γ : Type w} [DecidableEq κ]

/-- What the items of a key hold, together. -/
def heldUnder (key : α → κ) (held : α → List γ) (items : List α) (k : κ) : List γ :=
  (items.filter fun item => key item = k).flatMap held

def firstHeld (key : α → κ) (held : α → List γ) (items : List α) (k : κ) : List γ :=
  ((items.find? fun item => key item = k).map held).getD []

section Held

variable {key : α → κ} {held shown : α → List γ} {items : List α}

@[simp] theorem heldUnder_nil (k : κ) : heldUnder key held [] k = [] := rfl

theorem heldUnder_cons (item : α) (rest : List α) (k : κ) :
    heldUnder key held (item :: rest) k =
      if key item = k then held item ++ heldUnder key held rest k else heldUnder key held rest k := by
  rw [heldUnder, List.filter_cons]
  by_cases same : key item = k
  · rw [if_pos same, if_pos (decide_eq_true same), List.flatMap_cons, heldUnder]
  · rw [if_neg same, if_neg (by simpa using same), heldUnder]

/-- Items with the same keys and values, one by one. -/
theorem heldUnder_congr {others : List β} {otherKey : β → κ} {otherHeld : β → List γ}
    (same : items.map (fun item => (key item, held item)) =
      others.map fun other => (otherKey other, otherHeld other)) :
    heldUnder key held items = heldUnder otherKey otherHeld others := by
  funext k
  have pairs : ∀ {δ : Type v} {keyOf : δ → κ} {heldOf : δ → List γ} {all : List δ},
      heldUnder keyOf heldOf all k =
        ((all.map fun one => (keyOf one, heldOf one)).filter (·.1 = k)).flatMap Prod.snd := by
    intro δ keyOf heldOf all
    rw [List.filter_map, List.flatMap_map]
    rfl
  rw [pairs, pairs, same]

theorem heldUnder_eq_nil_iff :
    (∀ k, heldUnder key held items k = []) ↔ ∀ item ∈ items, held item = [] := by
  constructor
  · intro empty item inside
    refine List.flatMap_eq_nil_iff.mp (empty (key item)) item ?_
    exact List.mem_filter.mpr ⟨inside, decide_eq_true rfl⟩
  · intro empty k
    exact List.flatMap_eq_nil_iff.mpr fun item inside => empty item (List.mem_filter.mp inside).1

theorem flatMap_eq_of_length_le (part : ∀ item ∈ items, (shown item).Sublist (held item))
    (long : (items.flatMap held).length ≤ (items.flatMap shown).length) :
    ∀ item ∈ items, shown item = held item := by
  induction items with
  | nil => nofun
  | cons item rest ih =>
      obtain ⟨here, later⟩ := List.forall_mem_cons.mp part
      have shorter := here.length_le
      have others : (rest.flatMap shown).length ≤ (rest.flatMap held).length :=
        (List.Sublist.flatMap_right rest later).length_le
      rw [List.flatMap_cons, List.flatMap_cons, List.length_append, List.length_append] at long
      refine List.forall_mem_cons.mpr ⟨here.eq_of_length_le (by omega), ih later (by omega)⟩

/-- Where some of what is held is shown, all of it is under every key exactly when every item shows
all it holds. -/
theorem heldUnder_perm_iff (part : ∀ item ∈ items, (shown item).Sublist (held item)) :
    (∀ k, (heldUnder key shown items k).Perm (heldUnder key held items k)) ↔
      ∀ item ∈ items, shown item = held item := by
  constructor
  · intro perm item inside
    have under : ∀ other ∈ items.filter fun other => key other = key item,
        (shown other).Sublist (held other) :=
      fun other found => part other (List.mem_filter.mp found).1
    refine flatMap_eq_of_length_le under (Nat.le_of_eq (perm (key item)).length_eq.symm) item ?_
    exact List.mem_filter.mpr ⟨inside, decide_eq_true rfl⟩
  · intro all k
    rw [heldUnder, heldUnder,
      List.flatMap_congr fun item found => all item (List.mem_filter.mp found).1]

theorem heldUnder_of_distinct (distinct : (items.map key).Nodup) (k : κ) :
    heldUnder key held items k = firstHeld key held items k := by
  induction items with
  | nil => rfl
  | cons item rest ih =>
      obtain ⟨fresh, distinct⟩ := List.nodup_cons.mp distinct
      rw [heldUnder_cons, firstHeld]
      by_cases same : key item = k
      · have others : heldUnder key held rest k = [] := by
          rw [heldUnder, List.filter_eq_nil_iff.mpr, List.flatMap_nil]
          intro other inside again
          exact fresh (List.mem_map.mpr ⟨other, inside, (of_decide_eq_true again).trans same.symm⟩)
        rw [if_pos same, others, List.append_nil, List.find?_cons_of_pos (by simpa using same)]
        rfl
      · rw [if_neg same, ih distinct, List.find?_cons_of_neg (by simpa using same)]
        rfl

end Held

section Join

variable {key : α → κ} {held shown : α → List γ} {items : List α} {leftKey : β → κ} {lefts : List β}

/-- What the first item of a key holds comes once for each item that is joined to it. -/
theorem heldUnder_join (k : κ) :
    heldUnder leftKey (fun left => firstHeld key held items (leftKey left)) lefts k =
      (List.replicate (lefts.countP fun left => leftKey left = k)
        (firstHeld key held items k)).flatten := by
  induction lefts with
  | nil => rfl
  | cons left rest ih =>
      rw [heldUnder_cons, List.countP_cons, ih]
      by_cases same : leftKey left = k
      · rw [if_pos same, if_pos (decide_eq_true same), List.replicate_succ, List.flatten_cons, same]
      · rw [if_neg same, if_neg (by simpa using same), Nat.add_zero]

/-- With distinct keys on both sides, a join keeps what is held exactly when the keys of the items
that hold something are on the other side. -/
theorem join_perm_iff_of_distinct (distinct : (items.map key).Nodup)
    (leftDistinct : (lefts.map leftKey).Nodup) :
    (∀ k, ((List.replicate (lefts.countP fun left => leftKey left = k)
        (firstHeld key held items k)).flatten).Perm (heldUnder key held items k)) ↔
      ∀ item ∈ items, held item ≠ [] → key item ∈ lefts.map leftKey := by
  have counts : ∀ k, (lefts.countP fun left => leftKey left = k) =
      if k ∈ lefts.map leftKey then 1 else 0 := by
    intro k
    rw [← leftDistinct.count, List.count, List.countP_map]
    rfl
  constructor
  · intro perm item inside holds
    by_contra absent
    have here := perm (key item)
    rw [counts, if_neg absent, List.replicate_zero, List.flatten_nil] at here
    have none := List.flatMap_eq_nil_iff.mp here.nil_eq.symm item
    exact holds (none (List.mem_filter.mpr ⟨inside, decide_eq_true rfl⟩))
  · intro covered k
    rw [counts, heldUnder_of_distinct distinct]
    split
    · simp
    · rename_i absent
      have none : firstHeld key held items k = [] := by
        rw [← heldUnder_of_distinct distinct, heldUnder, List.flatMap_eq_nil_iff]
        intro item found
        obtain ⟨inside, same⟩ := List.mem_filter.mp found
        by_contra holds
        exact absent (of_decide_eq_true same ▸ covered item inside holds)
      simp [none]

end Join

end JunosMcp.Lib
