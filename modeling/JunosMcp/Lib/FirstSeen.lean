import Mathlib.Data.List.Nodup

/-!
# First come

Items are collected one after the other, and one whose key has come before is left out.
-/

namespace JunosMcp.Lib

universe u v

variable {κ : Type u} {α : Type v} [DecidableEq κ]

/-- Each key once, where it comes first. -/
def firstOccurrences (key : α → κ) : List α → List α
  | [] => []
  | item :: rest => item :: (firstOccurrences key rest).filter fun other => key other ≠ key item

/-- The keys that have come, and the items under them in order. -/
structure FirstSeen (κ : Type u) (α : Type v) where
  seen : List κ
  kept : List α

def FirstSeen.none : FirstSeen κ α := ⟨[], []⟩

def FirstSeen.insert (key : α → κ) (found : FirstSeen κ α) (item : α) : FirstSeen κ α :=
  if key item ∈ found.seen then found else ⟨key item :: found.seen, found.kept ++ [item]⟩

variable (key : α → κ)

theorem firstOccurrences_sublist (items : List α) : (firstOccurrences key items).Sublist items := by
  induction items with
  | nil => exact .slnil
  | cons item rest ih => exact (List.filter_sublist.trans ih).cons_cons item

theorem firstOccurrences_nodup (items : List α) : ((firstOccurrences key items).map key).Nodup := by
  induction items with
  | nil => exact .nil
  | cons item rest ih =>
      refine List.nodup_cons.mpr ⟨?_, ih.sublist (List.filter_sublist.map _)⟩
      intro again
      obtain ⟨other, inside, same⟩ := List.mem_map.mp again
      exact of_decide_eq_true (List.mem_filter.mp inside).2 same

theorem exists_firstOccurrence {items : List α} {item : α} (inside : item ∈ items) :
    ∃ first ∈ firstOccurrences key items, key first = key item := by
  induction items with
  | nil => cases inside
  | cons head rest ih =>
      by_cases same : key item = key head
      · exact ⟨head, List.mem_cons_self, same.symm⟩
      · have later : item ∈ rest := by
          rcases List.mem_cons.mp inside with rfl | later
          · exact absurd rfl same
          · exact later
        obtain ⟨first, found, sameKey⟩ := ih later
        refine ⟨first, List.mem_cons_of_mem _ (List.mem_filter.mpr ⟨found, ?_⟩), sameKey⟩
        exact decide_eq_true (sameKey ▸ same)

/-- Of two first occurrences with one key there is only one. -/
theorem firstOccurrences_unique {items : List α} {a b : α} (first : a ∈ firstOccurrences key items)
    (second : b ∈ firstOccurrences key items) (same : key a = key b) : a = b :=
  List.inj_on_of_nodup_map (firstOccurrences_nodup key items) first second same

/-- Inserting one item after the other keeps the first of each key that is not seen yet. -/
theorem insert_all (items : List α) (found : FirstSeen κ α) :
    (items.foldl (FirstSeen.insert key) found).kept =
      found.kept ++ (firstOccurrences key items).filter fun item => key item ∉ found.seen := by
  induction items generalizing found with
  | nil => simp [firstOccurrences]
  | cons item rest ih =>
      rw [List.foldl_cons, ih, firstOccurrences, List.filter_cons, List.filter_filter]
      by_cases again : key item ∈ found.seen
      · rw [FirstSeen.insert, if_pos again, if_neg (by simpa using again)]
        congr 1
        apply List.filter_congr
        intro other _
        by_cases same : key other = key item
        · simp [same, again]
        · simp [same]
      · rw [FirstSeen.insert, if_neg again, if_pos (by simpa using again)]
        rw [List.append_assoc, List.singleton_append]
        congr 2
        apply List.filter_congr
        intro other _
        simp [Bool.and_comm]

theorem insert_all_none (items : List α) :
    (items.foldl (FirstSeen.insert key) .none).kept = firstOccurrences key items := by
  rw [insert_all]
  simp [FirstSeen.none]

end JunosMcp.Lib
