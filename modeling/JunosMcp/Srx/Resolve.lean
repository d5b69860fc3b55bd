import JunosMcp.Lib.Nesting
import JunosMcp.Lib.Results
import JunosMcp.Srx.Errors

/-!
# Nested sets of the configuration

Address sets and application sets name other sets. The walk flattens them, and refuses what is
cyclic, too deep or undefined.
-/

namespace JunosMcp.Srx

open Lib Relation

abbrev ConfigNode (L : Type) := Entry Text L

def maxResolutionDepth : Nat := 16

/-- What the walk has found: the names, and the records under them in order. -/
abbrev Found (L : Type) := FirstSeen Text (Text × L)

def Found.insert {L : Type} (found : Found L) (entry : Text × L) : Found L :=
  FirstSeen.insert Prod.fst found entry

section Walk

variable {L : Type} (router : Text) (nodes : Book Text L) (book : Text)

/-- `walk`, with what is left of the depth in place of the depth. -/
def walk : Nat → Text → List Text → Found L → Except SrxError (Found L)
  | 0, name, _, _ => .error (.resolutionDepthExceeded router name maxResolutionDepth)
  | left + 1, name, path, found =>
      if name ∈ path then
        .error (.resolutionCycle router name
          (" -> ".toList.intercalate (path.dropWhile (· ≠ name) ++ [name])))
      else
        match nodes name with
        | none => .error (.resolutionNameNotFound router name book)
        | some (.leaf l) => .ok (found.insert (name, l))
        | some (.set members) =>
            members.foldlM (fun found m => walk left m (path ++ [name]) found) found

def resolve (root : Text) (cap : Nat) : Except SrxError (List (Text × L) × Bool) := do
  let found ← walk router nodes book (maxResolutionDepth + 1) root [] .none
  return (found.kept.take cap, decide (cap < found.kept.length))

end Walk

/-! ## What the walk finds -/

section Run

variable {L : Type} {router : Text} {nodes : Book Text L} {book : Text}

/-- Whatever is below the name is defined and less deep than this. -/
def Within (nodes : Book Text L) (left : Nat) (name : Text) : Prop :=
  ∀ depth last, nodes.Below depth name last → depth < left ∧ ∃ entry, nodes last = some entry

theorem Within.of_members {left : Nat} {name : Text} {members : List Text}
    (found : nodes name = some (.set members)) (within : ∀ m ∈ members, Within nodes left m) :
    Within nodes (left + 1) name := by
  intro depth last below
  cases below with
  | here => exact ⟨Nat.succ_pos left, _, found⟩
  | deeper edge below =>
      obtain ⟨members', again, inside⟩ := edge
      cases found.symm.trans again
      obtain ⟨shallow, defined⟩ := within _ inside _ last below
      exact ⟨Nat.succ_lt_succ shallow, defined⟩

theorem Within.member {left : Nat} {name m : Text} (within : Within nodes (left + 1) name)
    (edge : nodes.Member name m) : Within nodes left m := by
  intro depth last below
  obtain ⟨shallow, defined⟩ := within (depth + 1) last (.deeper edge below)
  exact ⟨Nat.lt_of_succ_lt_succ shallow, defined⟩

theorem Within.acyclic {left : Nat} {name : Text} (within : Within nodes left name) :
    ¬ TransGen nodes.Member name name := by
  intro cycle
  obtain ⟨depth, enough, around⟩ := Book.below_of_cycle cycle left
  exact absurd (within depth name around).1 (Nat.not_lt.mpr enough)

/-- A walk that ends well has unfolded its name, within the depth that was left. -/
structure Walked (nodes : Book Text L) (left : Nat) (name : Text) (found found' : Found L) :
    Prop where
  unfolds : ∃ leaves, nodes.Unfolds name leaves ∧ found' = leaves.foldl Found.insert found
  within : Within nodes left name

theorem walk_members {left : Nat} {members path : List Text} {found found' : Found L}
    (each : ∀ {name path found found'}, walk router nodes book left name path found = .ok found' →
      Walked nodes left name found found')
    (walked : members.foldlM (fun found m => walk router nodes book left m path found) found =
      .ok found') :
    (∃ leaves, nodes.UnfoldsAll members leaves ∧ found' = leaves.foldl Found.insert found) ∧
      ∀ m ∈ members, Within nodes left m := by
  induction members generalizing found with
  | nil =>
      cases walked
      exact ⟨⟨[], .nil, rfl⟩, fun _ inside => nomatch inside⟩
  | cons m rest ih =>
      obtain ⟨next, head, tail⟩ := foldlM_cons_ok.mp walked
      obtain ⟨⟨first, unfolds, rfl⟩, within⟩ := each head
      obtain ⟨⟨others, unfoldsAll, rfl⟩, withinAll⟩ := ih tail
      refine ⟨⟨first ++ others, .cons unfolds unfoldsAll, List.foldl_append.symm⟩, ?_⟩
      exact List.forall_mem_cons.mpr ⟨within, withinAll⟩

theorem walk_sound {left : Nat} {name : Text} {path : List Text} {found found' : Found L}
    (walked : walk router nodes book left name path found = .ok found') :
    Walked nodes left name found found' := by
  induction left generalizing name path found found' with
  | zero => cases walked
  | succ left ih =>
      rw [walk] at walked
      split at walked
      · cases walked
      cases node : nodes name with
      | none =>
          rw [node] at walked
          cases walked
      | some entry =>
          rw [node] at walked
          cases entry with
          | leaf l =>
              cases walked
              refine ⟨⟨[(name, l)], .leaf node, rfl⟩, ?_⟩
              intro depth last below
              cases below with
              | here => exact ⟨Nat.succ_pos left, _, node⟩
              | deeper edge _ =>
                  obtain ⟨members, set, _⟩ := edge
                  cases node.symm.trans set
          | set members =>
              obtain ⟨⟨leaves, unfolds, added⟩, within⟩ := walk_members ih walked
              exact ⟨⟨leaves, .set node unfolds, added⟩, .of_members node within⟩

/-- With enough depth left and nothing on the path below itself the walk ends well. -/
theorem walk_complete {left : Nat} {name : Text} {path : List Text}
    (within : Within nodes left name) (above : ∀ p ∈ path, TransGen nodes.Member p name)
    (found : Found L) : ∃ found', walk router nodes book left name path found = .ok found' := by
  induction left generalizing name path found with
  | zero => exact absurd (within 0 name (.here name)).1 (Nat.not_lt_zero 0)
  | succ left ih =>
      have fresh : name ∉ path := fun inside => within.acyclic (above name inside)
      obtain ⟨-, entry, node⟩ := within 0 name (.here name)
      rw [walk, if_neg fresh, node]
      cases entry with
      | leaf l => exact ⟨_, rfl⟩
      | set members =>
          apply foldlM_total
          intro m inside found
          have edge : nodes.Member name m := ⟨members, node, inside⟩
          refine ih (within.member edge) ?_ found
          intro p onPath
          rcases List.mem_append.mp onPath with before | here
          · exact (above p before).tail edge
          · cases List.mem_singleton.mp here
            exact .single edge

theorem within_iff_resolvable {limit : Nat} {root : Text} :
    Within nodes (limit + 1) root ↔ nodes.Resolvable limit root := by
  simp only [Within, Book.resolvable_iff, Nat.lt_succ_iff]

/-- Resolution succeeds on the roots whose unfolding nothing is in the way of, and its result is
the unfolding with later mentions of a name left out, as far as the cap goes. -/
theorem resolve_exact (router : Text) (nodes : Book Text L) (book root : Text) (cap : Nat) :
    ((∃ result, resolve router nodes book root cap = .ok result) ↔
        nodes.Resolvable maxResolutionDepth root) ∧
      ∀ leaves truncated, resolve router nodes book root cap = .ok (leaves, truncated) →
        (∃ unfolding, nodes.Unfolds root unfolding) ∧
          ∀ unfolding, nodes.Unfolds root unfolding →
            ((firstOccurrences Prod.fst unfolding).map Prod.fst).Nodup ∧
              (∀ entry, entry ∈ firstOccurrences Prod.fst unfolding ↔
                nodes.Reaches root entry.1 ∧ nodes entry.1 = some (.leaf entry.2)) ∧
              leaves = (firstOccurrences Prod.fst unfolding).take cap ∧
              (truncated = true ↔ cap < (firstOccurrences Prod.fst unfolding).length) := by
  constructor
  · rw [← within_iff_resolvable]
    constructor
    · rintro ⟨result, resolved⟩
      obtain ⟨found, walked, -⟩ := bind_eq_ok.mp resolved
      exact (walk_sound walked).within
    · intro within
      obtain ⟨found, walked⟩ := @walk_complete L router nodes book _ _ [] within nofun .none
      exact ⟨_, bind_eq_ok.mpr ⟨found, walked, rfl⟩⟩
  · intro leaves truncated resolved
    obtain ⟨found, walked, same⟩ := bind_eq_ok.mp resolved
    obtain ⟨all, unfolds, rfl⟩ := (walk_sound walked).unfolds
    cases same
    refine ⟨⟨all, unfolds⟩, ?_⟩
    intro unfolding again
    cases unfolds.unique again
    rw [show (all.foldl Found.insert .none).kept = firstOccurrences Prod.fst all from
      insert_all_none Prod.fst all, decide_eq_true_iff]
    exact ⟨firstOccurrences_nodup Prod.fst all, fun entry => unfolds.mem_firstOccurrences, rfl, Iff.rfl⟩

end Run

end JunosMcp.Srx
