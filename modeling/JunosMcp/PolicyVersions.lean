import JunosMcp.InventoryStores

/-!
# Policies and the inventories of sessions

A call may be admitted under the policy of one inventory and open its session to the entry of a later
one. It does not where no inventory is stored between the two.
-/

namespace JunosMcp.Stores

variable {crate : PolicyCrate}

/-! ## No call is left behind -/

/-- No call loads the policy between the two stores, and none that has loaded it has a session to
open when an inventory is stored. -/
def Undisturbed (s : Stores crate) : Action → Prop
  | .load _ => s.pending = none
  | .storeInventory _ _ => (∀ request, s.requests request = none) ∧
      ∀ call router, s.manager.calls call ≠ some (.missed router)
  | _ => True

/-- Every call that has a session to open was admitted under the policy of now. -/
structure UpToDate (s : Stores crate) : Prop where
  requests : ∀ request loaded, s.requests request = some loaded →
    s.inventory.version ≤ loaded.policy.source.version
  waiting : ∀ call router source, s.manager.calls call = some (.missed router) →
    (s.origins call).decidedUnder = some source → s.inventory.version ≤ source.version
  origins : ∀ call source, (s.origins call).decidedUnder = some source →
    (s.origins call).entryFrom.version ≤ source.version
  agrees : s.Agrees

section UpToDate

variable {s : Stores crate}

theorem UpToDate.setRequest (upToDate : s.UpToDate) (request : Nat)
    {state : Option (Request crate)} (bound : ∀ loaded, state = some loaded →
      s.inventory.version ≤ loaded.policy.source.version) :
    (s.setRequest request state).UpToDate where
  requests other loaded found := by
    change Function.update s.requests request state other = some loaded at found
    by_cases same : other = request
    · rw [same, Function.update_self] at found
      exact bound loaded found
    · rw [Function.update_of_ne same] at found
      exact upToDate.requests other loaded found
  waiting := upToDate.waiting
  origins := upToDate.origins
  agrees := upToDate.agrees

/-- A step of the manager that starts no `open`. -/
theorem UpToDate.onManager (upToDate : s.UpToDate) {manager : Manager}
    (fewer : ∀ call router, manager.calls call = some (.missed router) →
      s.manager.calls call = some (.missed router)) :
    ({ s with manager } : Stores crate).UpToDate where
  requests := upToDate.requests
  waiting call router source missed :=
    upToDate.waiting call router source (fewer call router missed)
  origins := upToDate.origins
  agrees := upToDate.agrees

/-- A call gets a new origin, from an inventory that is no later than its decision. -/
theorem UpToDate.setOrigin (upToDate : s.UpToDate) (call : Nat) {origin : Origin}
    {manager : Manager} (old : ∀ source, origin.decidedUnder = some source →
      origin.entryFrom.version ≤ source.version)
    (fewer : ∀ other router, manager.calls other = some (.missed router) →
      s.manager.calls other = some (.missed router) ∧ other ≠ call ∨
        other = call ∧ ∀ source, origin.decidedUnder = some source →
          s.inventory.version ≤ source.version) :
    ({ s.setOrigin call origin with manager } : Stores crate).UpToDate where
  requests := upToDate.requests
  waiting other router source missed decided := by
    change (Function.update s.origins call origin other).decidedUnder = some source at decided
    rcases fewer other router missed with ⟨before, differs⟩ | ⟨rfl, bound⟩
    · rw [Function.update_of_ne differs] at decided
      exact upToDate.waiting other router source before decided
    · rw [Function.update_self] at decided
      exact bound source decided
  origins other source decided := by
    change (Function.update s.origins call origin other).decidedUnder = some source at decided
    change (Function.update s.origins call origin other).entryFrom.version ≤ source.version
    by_cases same : other = call
    · rw [same, Function.update_self] at decided ⊢
      exact old source decided
    · rw [Function.update_of_ne same] at decided ⊢
      exact upToDate.origins other source decided
  agrees := upToDate.agrees

theorem UpToDate.yields (upToDate : s.UpToDate) (call : Nat) (guard : Guard) :
    (s.yields call guard).UpToDate := by
  unfold Stores.yields
  split
  next source decided =>
    refine ⟨upToDate.requests, upToDate.waiting, upToDate.origins, ?_⟩
    intro opening noted
    rcases List.mem_append.mp noted with before | now
    · exact upToDate.agrees opening before
    · rw [List.mem_singleton.mp now]
      exact upToDate.origins call source decided
  · exact upToDate

theorem UpToDate.mayOpen (upToDate : s.UpToDate) {router : Text} {request : Option Nat}
    {under : Option StoredInventory} (may : s.mayOpen router request = some under)
    {source : StoredInventory} (asked : under = some source) :
    s.inventory.version ≤ source.version := by
  subst asked
  cases request with
  | none => cases may
  | some request =>
      dsimp only [Stores.mayOpen] at may
      split at may
      next loaded found =>
        split at may
        · cases may
          exact upToDate.requests request loaded found
        · cases may
      · cases may

theorem UpToDate.step (crates : CallCrates crate) (dated : s.Dated) (upToDate : s.UpToDate)
    {action : Action} (undisturbed : s.Undisturbed action) :
    (s.step crates action).UpToDate := by
  cases action with
  | load request =>
      dsimp only [Stores.step]
      split
      · refine upToDate.setRequest request fun loaded same => ?_
        cases same
        exact (dated.settled undisturbed).ge
      · exact upToDate
  | decide request call =>
      dsimp only [Stores.step]
      split
      next loaded found =>
        refine upToDate.setRequest request fun after same => ?_
        cases same
        exact upToDate.requests request loaded found
      · exact upToDate
  | opensNoMore request => exact upToDate.setRequest request nofun
  | checkout request call router usable =>
      dsimp only [Stores.step]
      split
      next under may =>
        have opened := @UpToDate.setOrigin _ _ upToDate call ⟨under, s.slotOrigins router⟩
          (s.manager.step (.checkout call router usable))
          (fun source asked => (dated.slots router).trans (upToDate.mayOpen may asked))
          (fun other name missed => ?_)
        · unfold checkedOut
          dsimp only
          split
          · exact opened.yields call _
          · exact opened
        · by_cases same : other = call
          · exact .inr ⟨same, fun source asked => upToDate.mayOpen may asked⟩
          · exact .inl ⟨@Manager.missed_step _ (.checkout call router usable) _ _ same missed, same⟩
      · exact upToDate
  | openFresh request call router =>
      dsimp only [Stores.step]
      split
      next under may =>
        refine upToDate.setOrigin call
          (fun source asked => (dated.slots router).trans (upToDate.mayOpen may asked))
          fun other name missed => ?_
        by_cases same : other = call
        · exact .inr ⟨same, fun source asked => upToDate.mayOpen may asked⟩
        · exact .inl ⟨@Manager.missed_step _ (.openFresh call router) _ _ same missed, same⟩
      · exact upToDate
  | connect call =>
      dsimp only [Stores.step]
      split
      next router missed =>
        refine upToDate.setOrigin call
          (fun source asked => upToDate.waiting call router source missed asked)
          fun other name still => ?_
        by_cases same : other = call
        · exact .inr ⟨same, fun source asked => upToDate.waiting call router source missed asked⟩
        · exact .inl ⟨Manager.missed_step id still, same⟩
      · exact upToDate
  | connected call ok =>
      dsimp only [Stores.step]
      split
      next guard _ =>
        have connected := @UpToDate.onManager _ _ upToDate (s.manager.step (.connected call ok))
          fun other name missed => Manager.missed_step id missed
        split
        · exact connected.yields call guard
        · exact connected
      · exact upToDate
  | drop call pools =>
      dsimp only [Stores.step]
      split
      next guard _ =>
        have dropped := @UpToDate.onManager _ _ upToDate (s.manager.step (.drop call pools))
          fun other name missed => Manager.missed_step id missed
        exact ⟨dropped.requests, dropped.waiting, dropped.origins, dropped.agrees⟩
      · exact upToDate
  | storeInventory tool new =>
      obtain ⟨idle, opened⟩ := undisturbed
      dsimp only [Stores.step]
      split
      · refine ⟨fun request loaded found => ?_, fun call router source missed => ?_,
          upToDate.origins, upToDate.agrees⟩
        · rw [idle request] at found
          cases found
        · refine absurd ?_ (opened call router)
          cases tool with
          | addDevice => exact missed
          | reloadDevices => exact Manager.missed_step id missed
      · exact upToDate
  | storePolicy =>
      dsimp only [Stores.step]
      split
      · exact ⟨upToDate.requests, upToDate.waiting, upToDate.origins, upToDate.agrees⟩
      · exact upToDate
  | invalidateReloaded =>
      dsimp only [Stores.step]
      split
      · exact upToDate.onManager fun other name missed => Manager.missed_step id missed
      · exact upToDate

end UpToDate

theorem dated_start (policy : StoredPolicy crate) : (start policy).Dated :=
  ⟨fun _ => rfl, nofun, fun _ => le_rfl, fun _ => le_rfl⟩

theorem upToDate_start (policy : StoredPolicy crate) : (start policy).UpToDate :=
  ⟨nofun, nofun, nofun, nofun⟩

/-- In every run whose steps are all undisturbed, a call is admitted under the policy of the
inventory its session's entry is from, or a later one. -/
theorem undisturbed_agrees {crates : CallCrates crate} {policy : StoredPolicy crate}
    {s : Stores crate} (reached : Reaches crates Undisturbed (start policy) s) : s.Agrees := by
  have both : s.Dated ∧ s.UpToDate := by
    induction reached with
    | refl => exact ⟨dated_start policy, upToDate_start policy⟩
    | tail _ last ih =>
        obtain ⟨action, undisturbed, rfl⟩ := last
        exact ⟨ih.1.step crates action, ih.2.step crates ih.1 undisturbed⟩
  exact both.2.agrees

/-! ## A call between the two stores -/

/-- The steps of a run, all within a condition. -/
def Keeps (crates : CallCrates crate) (allowed : Stores crate → Action → Prop) :
    Stores crate → List Action → Prop
  | _, [] => True
  | s, action :: rest => allowed s action ∧ Keeps crates allowed (s.step crates action) rest

theorem Keeps.reaches {crates : CallCrates crate} {allowed : Stores crate → Action → Prop}
    {actions : List Action} {s : Stores crate} (keeps : Keeps crates allowed s actions) :
    Reaches crates allowed s (actions.foldl (step crates) s) := by
  induction actions generalizing s with
  | nil => exact .refl
  | cons action rest ih => exact .head ⟨action, keeps.1, rfl⟩ (ih keeps.2)

theorem keeps_any (crates : CallCrates crate) (actions : List Action) (s : Stores crate) :
    Keeps crates (fun _ _ => True) s actions := by
  induction actions generalizing s with
  | nil => trivial
  | cons action rest ih => exact ⟨trivial, ih _⟩

/-- One router, in a file whose mode is the blocklist. -/
def oneRouter (ip : Text) (rules : List RuleSpec) : LoadedInventory where
  entries := Manager.routerAt ip
  rules :=
    { devices := [("r1".toList, some { noRules with commands := rules })]
      blocklistDefaults := some { noRules with mode := some .blocklist }
      sorted := List.pairwise_singleton _ _ }

def labCrates : CallCrates prefixCrate := ⟨literalRegexes, fun _ _ _ _ => .ok .allow⟩

def labStored : StoredInventory := (oneRouter "192.0.2.1".toList []).stored 0

def labPolicy : StoredPolicy prefixCrate where
  source := labStored
  policy := ⟨[("r1".toList, withoutRules)], withoutRules, .blocklist⟩
  built := rfl

/-- The address of the router becomes that of another, where reboots are denied. -/
def production : LoadedInventory :=
  oneRouter "192.0.2.2".toList [⟨.deny, "request system reboot*".toList⟩]

def openSession (command : Text) : List Action :=
  [.decide 0 (.command ⟨"r1".toList, command, 30, ⟨none, none, false⟩⟩),
   .checkout (some 0) 0 "r1".toList true, .connect 0, .connected 0 true]

/-- The policy is loaded between the two stores. -/
def openBetween : List Action :=
  [.storeInventory .reloadDevices production, .load 0, .storePolicy] ++
    openSession "request system reboot".toList

def openAfterwards : List Action :=
  [.storeInventory .reloadDevices production, .storePolicy, .load 0] ++
    openSession "show version".toList

def versions {crate : PolicyCrate} (s : Stores crate) : List (Nat × Nat) :=
  s.openings.map fun opening => (opening.entryFrom.version, opening.decidedUnder.version)

theorem agrees_versions {crate : PolicyCrate} {s : Stores crate} :
    s.Agrees ↔ ∀ pair ∈ versions s, pair.1 ≤ pair.2 := by
  rw [versions, List.forall_mem_map]
  exact Iff.rfl

/-- A reboot is admitted under the old policy and goes to the new address. -/
theorem stale_policy_admits :
    ¬∀ (crate : PolicyCrate) (crates : CallCrates crate) (policy : StoredPolicy crate)
      (s : Stores crate), Reaches crates (fun _ _ => True) (start policy) s → s.Agrees := by
  intro holds
  have agrees := agrees_versions.mp
    (holds _ _ _ _ (keeps_any labCrates openBetween (start labPolicy)).reaches)
  have noted : versions (openBetween.foldl (step labCrates) (start labPolicy)) = [(1, 0)] := by
    decide
  rw [noted] at agrees
  exact absurd (agrees _ (List.mem_singleton_self _)) (by decide)

/-- A call once both are stored. -/
theorem reloaded_policy_agrees :
    versions (openAfterwards.foldl (step labCrates) (start labPolicy)) = [(1, 1)] ∧
      (openAfterwards.foldl (step labCrates) (start labPolicy)).Agrees := by
  have keeps : Keeps labCrates Undisturbed (start labPolicy) openAfterwards :=
    ⟨⟨fun _ => rfl, fun _ _ => nofun⟩, trivial, rfl, trivial, trivial, trivial, trivial, trivial⟩
  exact ⟨by decide, undisturbed_agrees keeps.reaches⟩

end JunosMcp.Stores
