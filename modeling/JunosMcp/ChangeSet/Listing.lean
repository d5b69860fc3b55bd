import JunosMcp.ChangeSet.Records
import JunosMcp.Scope

/-!
# Listing change sets

`list_junos_change_sets` leaves the caller's device scope to the tool, and the tool filters by the
inventory, which is the server's and not the caller's.
-/

namespace JunosMcp.ChangeSet

/-- A filter names one device; without one every device is meant. -/
def filterNames (filter : Option Text) (device : Text) : Bool :=
  match filter with
  | none => true
  | some name => device == name

/-- `list_change_sets`, on what the coordinator holds. -/
def listChangeSets (inventory : Text → Bool) (filter : Option Text)
    (allRecords : List ChangeSetRecord) : List ChangeSetRecord :=
  allRecords.filter fun record => filterNames filter record.device && inventory record.device

def listTool : Text := "list_junos_change_sets".toList

/-- The handler: only the tool is checked against the caller's token. -/
def listJunosChangeSets (ctx : Option CallerCtx) (inventory : Text → Bool) (filter : Option Text)
    (allRecords : List ChangeSetRecord) : Except ScopeError (List ChangeSetRecord) := do
  checkToolScope ctx listTool
  return listChangeSets inventory filter allRecords

section Scope
variable (ctx : Option CallerCtx) (inventory : Text → Bool) (filter : Option Text)

/-- Every record returned is for a device of the caller's scope. -/
def ListsInScope : Prop :=
  ∀ store records, listJunosChangeSets ctx inventory filter store = .ok records →
    ∀ record ∈ records, inScope ctx record.device = true

def inScopeRecords (store : List ChangeSetRecord) : List ChangeSetRecord :=
  store.filter fun record => inScope ctx record.device

/-- Stores that agree inside the caller's scope are listed alike. -/
def ListsAlike : Prop :=
  ∀ store store', inScopeRecords ctx store = inScopeRecords ctx store' →
    listJunosChangeSets ctx inventory filter store = listJunosChangeSets ctx inventory filter store'

/-- The tool is out of scope, or every device the call can be about is in it. -/
def ScopeCovers : Prop :=
  (∃ error, checkToolScope ctx listTool = .error error) ∨
    ∀ device, inventory device = true → filterNames filter device = true →
      inScope ctx device = true

end Scope

variable {ctx : Option CallerCtx} {inventory : Text → Bool} {filter : Option Text}

theorem listed_iff {store records : List ChangeSetRecord} :
    listJunosChangeSets ctx inventory filter store = .ok records ↔
      checkToolScope ctx listTool = .ok () ∧
        records = listChangeSets inventory filter store := by
  cases checked : checkToolScope ctx listTool with
  | error error => simp [listJunosChangeSets, checked, bind, Except.bind]
  | ok _ => simp [listJunosChangeSets, checked, bind, Except.bind, pure, Except.pure, eq_comm]

theorem listsInScope_of_covers (covers : ScopeCovers ctx inventory filter) :
    ListsInScope ctx inventory filter := by
  intro store records listed record member
  obtain ⟨checked, rfl⟩ := listed_iff.mp listed
  rcases covers with ⟨error, refused⟩ | covers
  · rw [checked] at refused
    cases refused
  · obtain ⟨_, kept⟩ := List.mem_filter.mp member
    rw [Bool.and_eq_true] at kept
    exact covers record.device kept.2 kept.1

/-- What is listed in scope is listed of the records in scope. -/
theorem listsAlike_of_inScope (lists : ListsInScope ctx inventory filter) :
    ListsAlike ctx inventory filter := by
  intro store store' agree
  cases checked : checkToolScope ctx listTool with
  | error error => simp [listJunosChangeSets, checked, bind, Except.bind]
  | ok _ =>
      have own (records : List ChangeSetRecord) : listChangeSets inventory filter records =
          listChangeSets inventory filter (inScopeRecords ctx records) := by
        rw [listChangeSets, listChangeSets, inScopeRecords, List.filter_filter]
        apply List.filter_congr
        intro record member
        cases kept : filterNames filter record.device && inventory record.device with
        | false => simp
        | true =>
            have listed : record ∈ listChangeSets inventory filter records :=
              List.mem_filter.mpr ⟨member, kept⟩
            rw [lists records _ (listed_iff.mpr ⟨checked, rfl⟩) record listed]
            rfl
      have same : listChangeSets inventory filter store = listChangeSets inventory filter store' := by
        rw [own store, own store', agree]
      simp [listJunosChangeSets, checked, bind, Except.bind, pure, Except.pure, same]

/-- A change set of one device. -/
def plannedFor (device : Text) : ChangeSetRecord where
  id := []
  owner := []
  device := device
  actions := []
  state := .planned
  approval := none

theorem covers_of_listsAlike (alike : ListsAlike ctx inventory filter) :
    ScopeCovers ctx inventory filter := by
  cases checked : checkToolScope ctx listTool with
  | error error => exact .inl ⟨error, checked⟩
  | ok _ =>
      refine .inr fun device listed named => ?_
      by_contra outside
      have agree : inScopeRecords ctx [plannedFor device] = inScopeRecords ctx [] := by
        simp [inScopeRecords, plannedFor, outside]
      have same := alike _ _ agree
      simp [listJunosChangeSets, checked, bind, Except.bind, pure, Except.pure, listChangeSets,
        plannedFor, listed, named] at same

/-- The enumeration respects the caller's devices exactly when it could not leave them. -/
theorem list_respects_scope_iff (ctx : Option CallerCtx) (inventory : Text → Bool)
    (filter : Option Text) :
    (ListsInScope ctx inventory filter ↔ ScopeCovers ctx inventory filter) ∧
      (ListsAlike ctx inventory filter ↔ ScopeCovers ctx inventory filter) :=
  ⟨⟨fun lists => covers_of_listsAlike (listsAlike_of_inScope lists), listsInScope_of_covers⟩,
    ⟨covers_of_listsAlike, fun covers => listsAlike_of_inScope (listsInScope_of_covers covers)⟩⟩

/-- A token for `r1`, which may list. -/
def r1Token : CallerCtx where
  tokenName := "lab".toList
  allowsTool _ := true
  allowsDevice device := device == "r1".toList

/-- The change set of `r2` is shown to a token of `r1`. -/
theorem foreign_record_listed :
    listJunosChangeSets (some r1Token) (fun _ => true) none [plannedFor "r2".toList] =
        .ok [plannedFor "r2".toList] ∧
      inScope (some r1Token) "r2".toList = false ∧
      ¬ListsInScope (some r1Token) (fun _ => true) none := by
  have listed : listJunosChangeSets (some r1Token) (fun _ => true) none [plannedFor "r2".toList] =
      .ok [plannedFor "r2".toList] := rfl
  have outside : inScope (some r1Token) "r2".toList = false := by decide
  refine ⟨listed, outside, fun lists => ?_⟩
  have inside := lists _ _ listed _ (List.mem_singleton.mpr rfl)
  rw [plannedFor, outside] at inside
  cases inside

end JunosMcp.ChangeSet
