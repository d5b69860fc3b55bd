import JunosMcp.Lib.FirstSeen
import Mathlib.Logic.Relation

/-!
# Nested names

A book gives names their entries: a record of its own, or a set of further names, to any depth and
with whatever cycles. What a name stands for in the end is the list of records its unfolding comes
to.
-/

namespace JunosMcp.Lib

universe u v

inductive Entry (κ : Type u) (L : Type v) where
  | leaf (value : L)
  | set (members : List κ)

abbrev Book (κ : Type u) (L : Type v) := κ → Option (Entry κ L)

namespace Book

variable {κ : Type u} {L : Type v} {book : Book κ L} {root name member : κ}

def Member (book : Book κ L) (name member : κ) : Prop :=
  ∃ members, book name = some (.set members) ∧ member ∈ members

abbrev Reaches (book : Book κ L) : κ → κ → Prop := Relation.ReflTransGen book.Member

/-- The second name is this many memberships below the first. -/
inductive Below (book : Book κ L) : Nat → κ → κ → Prop where
  | here (name : κ) : Below book 0 name name
  | deeper {depth : Nat} {name member last : κ} :
      book.Member name member → Below book depth member last → Below book (depth + 1) name last

mutual

/-- The records a name comes to, depth first, each as often as it is met. -/
inductive Unfolds (book : Book κ L) : κ → List (κ × L) → Prop where
  | leaf {name : κ} {value : L} : book name = some (.leaf value) → Unfolds book name [(name, value)]
  | set {name : κ} {members : List κ} {leaves : List (κ × L)} :
      book name = some (.set members) → UnfoldsAll book members leaves → Unfolds book name leaves

inductive UnfoldsAll (book : Book κ L) : List κ → List (κ × L) → Prop where
  | nil : UnfoldsAll book [] []
  | cons {member : κ} {rest : List κ} {first others : List (κ × L)} :
      Unfolds book member first → UnfoldsAll book rest others →
      UnfoldsAll book (member :: rest) (first ++ others)

end

/-- Nothing is in the way of unfolding the name within the limit. -/
structure Resolvable (book : Book κ L) (limit : Nat) (root : κ) : Prop where
  defined : ∀ name, book.Reaches root name → ∃ entry, book name = some entry
  acyclic : ∀ name, book.Reaches root name → ¬ Relation.TransGen book.Member name name
  shallow : ∀ depth name, book.Below depth root name → depth ≤ limit

/-! ## Depths -/

theorem Below.reaches {depth : Nat} (below : book.Below depth name member) :
    book.Reaches name member := by
  induction below with
  | here name => exact .refl
  | deeper edge _ ih => exact .head edge ih

theorem Reaches.below (reaches : book.Reaches name member) :
    ∃ depth, book.Below depth name member := by
  induction reaches using Relation.ReflTransGen.head_induction_on with
  | refl => exact ⟨0, .here _⟩
  | head edge _ ih =>
      obtain ⟨depth, below⟩ := ih
      exact ⟨depth + 1, .deeper edge below⟩

theorem Below.trans {near far : Nat} {last : κ} (first : book.Below near name member)
    (second : book.Below far member last) : book.Below (near + far) name last := by
  induction first with
  | here name => rwa [Nat.zero_add]
  | deeper edge _ ih =>
      rw [Nat.add_right_comm]
      exact .deeper edge (ih second)

/-- Below a name of a cycle there are names at every multiple of its length. -/
theorem below_of_cycle (cycle : Relation.TransGen book.Member name name) (rounds : Nat) :
    ∃ depth, rounds ≤ depth ∧ book.Below depth name name := by
  obtain ⟨next, edge, back⟩ := Relation.TransGen.head'_iff.mp cycle
  obtain ⟨length, below⟩ := Reaches.below back
  induction rounds with
  | zero => exact ⟨0, Nat.le_refl 0, .here name⟩
  | succ rounds ih =>
      obtain ⟨depth, enough, around⟩ := ih
      exact ⟨length + 1 + depth, by omega, (Below.deeper edge below).trans around⟩

/-- With all names below it defined and none deeper than the limit a name is resolvable. -/
theorem resolvable_iff {limit : Nat} :
    book.Resolvable limit root ↔
      ∀ depth name, book.Below depth root name → depth ≤ limit ∧ ∃ entry, book name = some entry := by
  constructor
  · intro resolvable depth name below
    exact ⟨resolvable.shallow depth name below, resolvable.defined name below.reaches⟩
  · intro bounded
    refine ⟨?_, ?_, fun depth name below => (bounded depth name below).1⟩
    · intro name reaches
      obtain ⟨depth, below⟩ := Reaches.below reaches
      exact (bounded depth name below).2
    · intro name reaches cycle
      obtain ⟨depth, below⟩ := Reaches.below reaches
      obtain ⟨more, enough, around⟩ := below_of_cycle cycle (limit + 1)
      have := (bounded _ name (below.trans around)).1
      omega

/-! ## Unfolding -/

mutual

theorem Unfolds.unique {name : κ} {leaves others : List (κ × L)} :
    book.Unfolds name leaves → book.Unfolds name others → leaves = others
  | .leaf found, .leaf again => by
      cases found.symm.trans again
      rfl
  | .leaf found, .set again _ => nomatch found.symm.trans again
  | .set found _, .leaf again => nomatch found.symm.trans again
  | .set found unfolds, .set again unfolds' => by
      cases found.symm.trans again
      exact UnfoldsAll.unique unfolds unfolds'

theorem UnfoldsAll.unique {members : List κ} {leaves others : List (κ × L)} :
    book.UnfoldsAll members leaves → book.UnfoldsAll members others → leaves = others
  | .nil, .nil => rfl
  | .cons first rest, .cons first' rest' => by
      rw [Unfolds.unique first first', UnfoldsAll.unique rest rest']

end

mutual

theorem Unfolds.sound {name : κ} {leaves : List (κ × L)} (entry : κ × L) (member : entry ∈ leaves) :
    book.Unfolds name leaves → book.Reaches name entry.1 ∧ book entry.1 = some (.leaf entry.2)
  | .leaf found => by
      cases List.mem_singleton.mp member
      exact ⟨.refl, found⟩
  | .set found unfolds => by
      obtain ⟨below, inside, reaches, leaf⟩ := UnfoldsAll.sound entry member unfolds
      exact ⟨.head ⟨_, found, inside⟩ reaches, leaf⟩

theorem UnfoldsAll.sound {members : List κ} {leaves : List (κ × L)} (entry : κ × L)
    (member : entry ∈ leaves) : book.UnfoldsAll members leaves →
      ∃ name ∈ members, book.Reaches name entry.1 ∧ book entry.1 = some (.leaf entry.2)
  | .nil => nomatch member
  | .cons first rest => by
      rcases List.mem_append.mp member with here | later
      · exact ⟨_, List.mem_cons_self, Unfolds.sound entry here first⟩
      · obtain ⟨name, inside, facts⟩ := UnfoldsAll.sound entry later rest
        exact ⟨name, List.mem_cons_of_mem _ inside, facts⟩

end

theorem UnfoldsAll.of_mem {members : List κ} {leaves : List (κ × L)}
    (unfolds : book.UnfoldsAll members leaves) (inside : member ∈ members) :
    ∃ part, book.Unfolds member part ∧ part ⊆ leaves := by
  induction members generalizing leaves with
  | nil => cases inside
  | cons first rest ih =>
      cases unfolds with
      | cons here others =>
          rcases List.mem_cons.mp inside with rfl | later
          · exact ⟨_, here, List.subset_append_left _ _⟩
          · obtain ⟨part, unfolds, subset⟩ := ih others later
            exact ⟨part, unfolds, List.subset_append_of_subset_right _ subset⟩

/-- The records of an unfolding are those of the names that can be reached. -/
theorem Unfolds.mem_iff {leaves : List (κ × L)} (unfolds : book.Unfolds name leaves)
    {entry : κ × L} :
    entry ∈ leaves ↔ book.Reaches name entry.1 ∧ book entry.1 = some (.leaf entry.2) := by
  refine ⟨fun inside => unfolds.sound entry inside, ?_⟩
  rintro ⟨reaches, leaf⟩
  induction reaches using Relation.ReflTransGen.head_induction_on generalizing leaves with
  | refl =>
      cases unfolds with
      | leaf found =>
          cases found.symm.trans leaf
          exact List.mem_singleton_self _
      | set found _ => cases found.symm.trans leaf
  | head edge _ ih =>
      obtain ⟨members, found, inside⟩ := edge
      cases unfolds with
      | leaf again => cases found.symm.trans again
      | set again all =>
          cases found.symm.trans again
          obtain ⟨part, below, subset⟩ := all.of_mem inside
          exact subset (ih below)

end Book

/-- In an unfolding a name comes with one record only. -/
theorem Book.Unfolds.mem_firstOccurrences {κ : Type u} {L : Type v} [DecidableEq κ]
    {book : Book κ L} {name : κ} {leaves : List (κ × L)} (unfolds : book.Unfolds name leaves)
    {entry : κ × L} :
    entry ∈ firstOccurrences Prod.fst leaves ↔
      book.Reaches name entry.1 ∧ book entry.1 = some (.leaf entry.2) := by
  rw [← unfolds.mem_iff]
  refine ⟨fun inside => (firstOccurrences_sublist Prod.fst leaves).subset inside, ?_⟩
  intro inside
  obtain ⟨other, first, sameKey⟩ := exists_firstOccurrence Prod.fst inside
  have otherLeaf :=
    (unfolds.mem_iff.mp ((firstOccurrences_sublist Prod.fst leaves).subset first)).2
  rw [sameKey, (unfolds.mem_iff.mp inside).2] at otherLeaf
  cases entry
  cases other
  cases sameKey
  cases otherLeaf
  exact first

end JunosMcp.Lib
