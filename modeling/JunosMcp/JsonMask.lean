import Mathlib.Data.List.Nodup
import JunosMcp.Json

/-!
# Masked values

A mask replaces every value that stands under a hidden key, and sends every other leaf through a
function. What it leaves at a place can be told from the keys on the way there.
-/

namespace JunosMcp.Json

def isLeaf : Json → Bool
  | .array _ => false
  | .object _ => false
  | _ => true

/-- No object has two members of one key. -/
inductive UniqueKeys : Json → Prop where
  | leaf {v : Json} : v.isLeaf = true → UniqueKeys v
  | array {items : List Json} : (∀ v ∈ items, UniqueKeys v) → UniqueKeys (.array items)
  | object {members : List (Text × Json)} : (members.map Prod.fst).Nodup →
      (∀ member ∈ members, UniqueKeys member.2) → UniqueKeys (.object members)

/-! ## Places -/

inductive Step where
  | member (key : Text)
  | item (index : Nat)
deriving DecidableEq

def child : Step → Json → Option Json
  | .member key, .object members => get members key
  | .item index, .array items => items[index]?
  | _, _ => none

/-- The value at the end of a path. -/
def lookup : List Step → Json → Option Json
  | [], v => some v
  | step :: path, v => (child step v).bind (lookup path)

theorem lookup_append (path rest : List Step) (v : Json) :
    lookup (path ++ rest) v = (lookup path v).bind (lookup rest) := by
  induction path generalizing v with
  | nil => rfl
  | cons step path ih =>
      rw [List.cons_append, lookup, lookup, Option.bind_assoc]
      congr 1
      funext w
      exact ih w

theorem child_leaf {v : Json} (leaf : v.isLeaf = true) (step : Step) : child step v = none := by
  cases v with
  | array items => cases leaf
  | object members => cases leaf
  | _ => cases step <;> rfl

theorem get_map (f : Text → Json → Json) (members : List (Text × Json)) (key : Text) :
    get (members.map fun member => (member.1, f member.1 member.2)) key =
      (get members key).map (f key) := by
  induction members with
  | nil => rfl
  | cons member rest ih =>
      simp only [get, List.map_cons, List.find?_cons] at ih ⊢
      by_cases here : member.1 = key
      · simp [here]
      · simpa [here] using ih

theorem UniqueKeys.child {v w : Json} {step : Step} (unique : UniqueKeys v)
    (found : Json.child step v = some w) : UniqueKeys w := by
  cases unique with
  | leaf is =>
      rw [child_leaf is] at found
      cases found
  | array each =>
      cases step with
      | item index => exact each w (List.mem_of_getElem? found)
      | member key => cases found
  | object _ each =>
      cases step with
      | item index => cases found
      | member key => exact each _ (get_mem found)

theorem UniqueKeys.lookup {path : List Step} {v w : Json} (unique : UniqueKeys v)
    (found : Json.lookup path v = some w) : UniqueKeys w := by
  induction path generalizing v with
  | nil =>
      cases found
      exact unique
  | cons step path ih =>
      obtain ⟨below, stepped, later⟩ := Option.bind_eq_some_iff.mp found
      exact ih (unique.child stepped) later

/-! ## Masks -/

mutual

def mask (hidden : Text → Bool) (marker : Json) (leaf : Json → Json) : Json → Json
  | .object members => .object (maskMembers hidden marker leaf members)
  | .array items => .array (maskItems hidden marker leaf items)
  | v => leaf v

def maskItems (hidden : Text → Bool) (marker : Json) (leaf : Json → Json) : List Json → List Json
  | [] => []
  | v :: rest => mask hidden marker leaf v :: maskItems hidden marker leaf rest

def maskMembers (hidden : Text → Bool) (marker : Json) (leaf : Json → Json) :
    List (Text × Json) → List (Text × Json)
  | [] => []
  | member :: rest =>
      maskMember hidden marker leaf member :: maskMembers hidden marker leaf rest

def maskMember (hidden : Text → Bool) (marker : Json) (leaf : Json → Json) :
    Text × Json → Text × Json
  | (key, v) => (key, if hidden key then marker else mask hidden marker leaf v)

end

variable {hidden : Text → Bool} {marker : Json} {leaf : Json → Json}

theorem mask_array (items : List Json) :
    mask hidden marker leaf (.array items) = .array (items.map (mask hidden marker leaf)) := by
  have each : maskItems hidden marker leaf items = items.map (mask hidden marker leaf) := by
    induction items with
    | nil => rfl
    | cons v rest ih => rw [maskItems, ih, List.map_cons]
  rw [mask, each]

theorem mask_object (members : List (Text × Json)) :
    mask hidden marker leaf (.object members) = .object (members.map fun member =>
      (member.1, if hidden member.1 then marker else mask hidden marker leaf member.2)) := by
  have each : maskMembers hidden marker leaf members = members.map fun member =>
      (member.1, if hidden member.1 then marker else mask hidden marker leaf member.2) := by
    induction members with
    | nil => rfl
    | cons member rest ih => rw [maskMembers, ih, List.map_cons, maskMember]
  rw [mask, each]

theorem mask_leaf {v : Json} (is : v.isLeaf = true) : mask hidden marker leaf v = leaf v := by
  cases v with
  | array items => cases is
  | object members => cases is
  | _ => rw [mask] <;> exact fun _ same => Json.noConfusion same

theorem UniqueKeys.mask_mask (stays : ∀ v : Json, v.isLeaf = true → (leaf v).isLeaf = true)
    (again : ∀ v : Json, v.isLeaf = true → leaf (leaf v) = leaf v) {v : Json}
    (unique : UniqueKeys v) :
    mask hidden marker leaf (mask hidden marker leaf v) = mask hidden marker leaf v := by
  induction unique with
  | leaf is => rw [mask_leaf is, mask_leaf (stays _ is), again _ is]
  | array _ ih =>
      rw [mask_array, mask_array, List.map_map]
      exact congrArg _ (List.map_congr_left ih)
  | object _ _ ih =>
      rw [mask_object, mask_object, List.map_map]
      refine congrArg _ (List.map_congr_left fun member inside => ?_)
      dsimp only [Function.comp_apply]
      cases hidden member.1 with
      | true => rfl
      | false => exact congrArg _ (ih member inside)

theorem UniqueKeys.mask (bare : marker.isLeaf = true)
    (stays : ∀ v : Json, v.isLeaf = true → (leaf v).isLeaf = true) {v : Json}
    (unique : UniqueKeys v) : UniqueKeys (Json.mask hidden marker leaf v) := by
  induction unique with
  | leaf is =>
      rw [mask_leaf is]
      exact .leaf (stays _ is)
  | array _ ih =>
      rw [mask_array]
      exact .array (List.forall_mem_map.mpr ih)
  | object keys _ ih =>
      rw [mask_object]
      refine .object ?_ (List.forall_mem_map.mpr fun member inside => ?_)
      · rw [List.map_map]
        exact keys
      · dsimp only
        cases hidden member.1 with
        | true => exact .leaf bare
        | false => exact ih member inside

section

variable (stays : ∀ v : Json, v.isLeaf = true → (leaf v).isLeaf = true)

include stays

theorem child_item_mask (index : Nat) (v : Json) :
    child (.item index) (mask hidden marker leaf v) =
      (child (.item index) v).map (mask hidden marker leaf) := by
  cases v with
  | array items =>
      rw [mask_array, child, child]
      exact List.getElem?_map
  | object members =>
      rw [mask_object]
      rfl
  | _ =>
      rw [mask_leaf rfl, child_leaf (stays _ rfl)]
      rfl

theorem child_member_mask (key : Text) (v : Json) :
    child (.member key) (mask hidden marker leaf v) = (child (.member key) v).map fun w =>
      if hidden key then marker else mask hidden marker leaf w := by
  cases v with
  | array items =>
      rw [mask_array]
      rfl
  | object members =>
      rw [mask_object, child, child]
      exact get_map (fun key v => if hidden key then marker else mask hidden marker leaf v)
        members key
  | _ =>
      rw [mask_leaf rfl, child_leaf (stays _ rfl)]
      rfl

/-- Along a path without a hidden key. -/
theorem lookup_mask {path : List Step}
    (shown : ∀ key, Step.member key ∈ path → hidden key = false) (v : Json) :
    lookup path (mask hidden marker leaf v) = (lookup path v).map (mask hidden marker leaf) := by
  induction path generalizing v with
  | nil => rfl
  | cons step path ih =>
      have later := ih fun key inside => shown key (List.mem_cons_of_mem _ inside)
      have first : child step (mask hidden marker leaf v) =
          (child step v).map (mask hidden marker leaf) := by
        cases step with
        | item index => exact child_item_mask stays index v
        | member key =>
            rw [child_member_mask stays, shown key List.mem_cons_self]
            rfl
      rw [lookup, lookup, first]
      cases child step v with
      | none => rfl
      | some w => exact later w

/-- What stands somewhere in a masked value is a masked value itself, or the marker of a hidden
key. -/
theorem lookup_mask_cases {path : List Step} {v w : Json} (bare : marker.isLeaf = true)
    (found : lookup path (mask hidden marker leaf v) = some w) :
    (w = marker ∧ ∃ key, hidden key = true) ∨ ∃ u, w = mask hidden marker leaf u := by
  induction path generalizing v with
  | nil => exact .inr ⟨v, (Option.some.inj found).symm⟩
  | cons step path ih =>
      rw [lookup] at found
      obtain ⟨below, stepped, later⟩ := Option.bind_eq_some_iff.mp found
      have under : (below = marker ∧ ∃ key, hidden key = true) ∨
          ∃ u, below = mask hidden marker leaf u := by
        cases step with
        | item index =>
            rw [child_item_mask stays] at stepped
            obtain ⟨u, -, rfl⟩ := Option.map_eq_some_iff.mp stepped
            exact .inr ⟨u, rfl⟩
        | member key =>
            rw [child_member_mask stays] at stepped
            obtain ⟨u, -, rfl⟩ := Option.map_eq_some_iff.mp stepped
            cases hides : hidden key with
            | true => exact .inl ⟨rfl, key, hides⟩
            | false => exact .inr ⟨u, rfl⟩
      rcases under with ⟨same, hides⟩ | ⟨u, rfl⟩
      · rw [same] at later
        cases path with
        | nil => exact .inl ⟨(Option.some.inj later).symm, hides⟩
        | cons step path =>
            rw [lookup, child_leaf bare] at later
            cases later
      · exact ih later

/-- Wherever a hidden key still stands, it has the marker. -/
theorem lookup_hidden {path : List Step} {key : Text} {v w : Json} (bare : marker.isLeaf = true)
    (hides : hidden key = true)
    (found : lookup (path ++ [.member key]) (mask hidden marker leaf v) = some w) :
    w = marker := by
  rw [lookup_append] at found
  obtain ⟨above, reached, found⟩ := Option.bind_eq_some_iff.mp found
  rw [lookup] at found
  obtain ⟨below, stepped, found⟩ := Option.bind_eq_some_iff.mp found
  cases found
  rcases lookup_mask_cases stays bare reached with ⟨same, -⟩ | ⟨u, rfl⟩
  · subst same
    rw [child_leaf bare] at stepped
    cases stepped
  · rw [child_member_mask stays, hides] at stepped
    obtain ⟨-, -, rfl⟩ := Option.map_eq_some_iff.mp stepped
    rfl

/-- A leaf somewhere in a masked value. -/
theorem lookup_mask_leaf {path : List Step} {v w : Json} (bare : marker.isLeaf = true)
    (found : lookup path (mask hidden marker leaf v) = some w) (is : w.isLeaf = true) :
    (w = marker ∧ ∃ key, hidden key = true) ∨ ∃ u : Json, u.isLeaf = true ∧ w = leaf u := by
  refine (lookup_mask_cases stays bare found).imp_right ?_
  rintro ⟨u, rfl⟩
  cases u with
  | array items =>
      rw [mask_array] at is
      cases is
  | object members =>
      rw [mask_object] at is
      cases is
  | _ => exact ⟨_, rfl, mask_leaf rfl⟩

end

end JunosMcp.Json
