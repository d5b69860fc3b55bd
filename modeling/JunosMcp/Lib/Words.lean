import Mathlib.Data.List.Basic

/-!
# Words between blanks

The words of a text are its longest stretches without a blank. Columns that are set apart by gaps of
any width are read back one by one.
-/

namespace JunosMcp.Lib

universe u

variable {α : Type u} (blank : α → Bool)

def words (text : List α) : List (List α) := (text.splitOnP blank).filter fun word => !word.isEmpty

structure IsWord (word : List α) : Prop where
  shown : word ≠ []
  visible : ∀ a ∈ word, blank a = false

/-- A gap is not empty and has nothing but blanks in it. -/
structure IsGap (gap : List α) : Prop where
  wide : gap ≠ []
  blanks : ∀ a ∈ gap, blank a = true

variable {blank}

theorem words_nil : words blank ([] : List α) = [] := by
  rw [words, List.splitOnP_nil]
  rfl

theorem words_blank {a : α} (here : blank a = true) (front back : List α) :
    words blank (front ++ a :: back) = words blank front ++ words blank back := by
  rw [words, List.splitOnP_append_cons front back here, List.filter_append]
  rfl

theorem words_skip {a : α} (here : blank a = true) (text : List α) :
    words blank (a :: text) = words blank text := by
  have apart := words_blank here [] text
  rwa [List.nil_append, words_nil, List.nil_append] at apart

theorem words_leading {gap : List α} (blanks : ∀ a ∈ gap, blank a = true) (text : List α) :
    words blank (gap ++ text) = words blank text := by
  induction gap with
  | nil => rfl
  | cons a gap ih =>
      obtain ⟨here, later⟩ := List.forall_mem_cons.mp blanks
      rw [List.cons_append, words_skip here, ih later]

theorem words_trailing {gap : List α} (blanks : ∀ a ∈ gap, blank a = true) (text : List α) :
    words blank (text ++ gap) = words blank text := by
  cases gap with
  | nil => rw [List.append_nil]
  | cons a gap =>
      obtain ⟨here, later⟩ := List.forall_mem_cons.mp blanks
      have rest := words_leading later []
      rw [List.append_nil, words_nil] at rest
      rw [words_blank here, rest, List.append_nil]

theorem IsWord.words {word : List α} (isWord : IsWord blank word) : words blank word = [word] := by
  rw [Lib.words, List.splitOnP_eq_singleton isWord.visible]
  cases word with
  | nil => exact absurd rfl isWord.shown
  | cons a rest => rfl

/-- A column and the gap behind it. -/
theorem IsWord.column {word gap : List α} (isWord : IsWord blank word) (isGap : IsGap blank gap)
    (rest : List α) : Lib.words blank (word ++ (gap ++ rest)) = word :: Lib.words blank rest := by
  obtain ⟨a, more, rfl⟩ := List.exists_cons_of_ne_nil isGap.wide
  obtain ⟨here, later⟩ := List.forall_mem_cons.mp isGap.blanks
  rw [List.cons_append, words_blank here, isWord.words, words_leading later]
  rfl

theorem splitOnP_visible {text word : List α} (member : word ∈ text.splitOnP blank) :
    ∀ a ∈ word, blank a = false := by
  induction text generalizing word with
  | nil =>
      rw [List.splitOnP_nil, List.mem_singleton] at member
      rw [member]
      exact nofun
  | cons c text ih =>
      rw [List.splitOnP_cons_eq_if_modifyHead] at member
      split at member
      · rcases List.mem_cons.mp member with rfl | later
        · exact nofun
        · exact ih later
      · rename_i visible
        obtain ⟨first, others, split⟩ :=
          List.exists_cons_of_ne_nil (List.splitOnP_ne_nil blank text)
        rw [split] at member ih
        rcases List.mem_cons.mp member with rfl | later
        · exact List.forall_mem_cons.mpr
            ⟨eq_false_of_ne_true visible, ih List.mem_cons_self⟩
        · exact ih (List.mem_cons_of_mem _ later)

theorem mem_words {text word : List α} (member : word ∈ words blank text) : IsWord blank word := by
  obtain ⟨piece, shown⟩ := List.mem_filter.mp member
  exact ⟨by simpa using shown, splitOnP_visible piece⟩

/-- Words that are set apart by one symbol end in a word. -/
theorem intercalate_last (separator : List α) {listed : List (List α)} (some : listed ≠ []) :
    ∃ front last, last ∈ listed ∧ separator.intercalate listed = front ++ last := by
  induction listed with
  | nil => exact absurd rfl some
  | cons word rest ih =>
      cases rest with
      | nil => exact ⟨[], word, List.mem_cons_self, by simp⟩
      | cons next later =>
          obtain ⟨front, last, member, shape⟩ := ih (List.cons_ne_nil next later)
          refine ⟨word ++ separator ++ front, last, List.mem_cons_of_mem _ member, ?_⟩
          rw [List.append_assoc, ← shape, List.append_assoc]
          simp [List.intercalate]

end JunosMcp.Lib
