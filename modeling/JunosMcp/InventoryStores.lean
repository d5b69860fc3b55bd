import JunosMcp.ChangeSet.Apply
import JunosMcp.CommandTools
import JunosMcp.DeviceManager

/-!
# The inventory and the policy built from it

`add_device` and `reload_devices` store an inventory and then its policy, in two steps. A call loads
the policy once, before its handler starts, and each of its sessions reads the inventory when it is
opened. Every inventory has a version, and a session keeps that of the inventory its entry is from.
-/

namespace JunosMcp

open ChangeSet Lib

/-- One inventory as it has been stored: what connections and what policies are made from. -/
structure StoredInventory where
  version : Nat
  entries : Inventory
  rules : PolicyInventory

structure LoadedInventory where
  entries : Inventory
  rules : PolicyInventory

def LoadedInventory.stored (inventory : LoadedInventory) (version : Nat) : StoredInventory :=
  ⟨version, inventory.entries, inventory.rules⟩

/-- A policy with the inventory it was built from. -/
structure StoredPolicy (crate : PolicyCrate) where
  source : StoredInventory
  policy : Policy crate
  built : Policy.build crate source.rules = .ok policy

/-! ## Calls -/

/-- What the handlers take from other crates. -/
structure CallCrates (crate : PolicyCrate) where
  regexes : Regexes
  /-- `mecmcp_policy::Policy::check_config`, with the router, the format and the text. -/
  checkConfig : CratePolicy crate → (router format text : Text) → Except JmcpError Decision

/-- The calls that ask the policy. A configuration comes with its format, a change set with those
of all its payloads. -/
inductive PolicedCall where
  | command (args : ExecuteCommandArgs)
  | pfe (args : ExecutePfeArgs)
  | batch (args : ExecuteBatchArgs)
  | configuration (device : Text) (payloads : List (Text × Text))

section Admission

variable {crate : PolicyCrate} (crates : CallCrates crate)

def configAllowed : Except JmcpError Decision → Bool
  | .ok .allow => true
  | _ => false

/-- The routers a call may open sessions to. What else a handler checks can only refuse more. -/
def PolicedCall.admitted (inventory : Inventory) (policy : Policy crate) :
    PolicedCall → List Text
  | .command args =>
      if (executeCommandChecks ⟨inventory.names, policy, crates.regexes⟩ args).isOk then
        [args.device] else []
  | .pfe args =>
      if (executePfeChecks ⟨inventory.names, policy, crates.regexes⟩ args).isOk then
        [args.device] else []
  | .batch args =>
      if (executeBatchChecks ⟨inventory.names, policy, crates.regexes⟩ args).isOk then
        args.devices.filter inventory.names.contains else []
  | .configuration device payloads =>
      if inventory.names.contains device && payloads.all fun payload =>
          configAllowed (crates.checkConfig (policy.policyFor device) device payload.1 payload.2)
      then [device] else []

end Admission

/-! ## The stores -/

/-- The step begins an `open` of this call. -/
def Manager.Action.Begins (call : Nat) : Manager.Action → Prop
  | .checkout other _ _ | .openFresh other _ => call = other
  | _ => False

theorem Manager.setCall_other {m : Manager} {call other : Nat} {state : Option OpenCall}
    (differs : call ≠ other) : (m.setCall other state).calls call = m.calls call :=
  Function.update_of_ne differs _ _

theorem Manager.setCall_self {m : Manager} {call : Nat} {state : Option OpenCall} :
    (m.setCall call state).calls call = state :=
  Function.update_self ..

theorem Manager.missed_setCall {m : Manager} {call other : Nat} {state : Option OpenCall}
    {router : Text} (has : ∀ name, state ≠ some (.missed name))
    (missed : (m.setCall other state).calls call = some (.missed router)) :
    m.calls call = some (.missed router) := by
  by_cases same : call = other
  · subst same
    exact absurd (setCall_self.symm.trans missed) (has router)
  · rwa [setCall_other same] at missed

/-- Only the start of an `open` leaves a call without a session. -/
theorem Manager.missed_step {m : Manager} {action : Manager.Action} {call : Nat} {router : Text}
    (begun : ¬action.Begins call)
    (missed : (m.step action).calls call = some (.missed router)) :
    m.calls call = some (.missed router) := by
  cases action with
  | checkout other name usable =>
      dsimp only [Manager.step] at missed
      have kept : (m.tryCheckout name usable).2.calls = m.calls := rfl
      split at missed
      next yielded =>
        rw [yielded] at kept
        rwa [setCall_other begun, kept] at missed
      next yielded =>
        rw [yielded] at kept
        rwa [setCall_other begun, kept] at missed
  | openFresh other name =>
      dsimp only [Manager.step] at missed
      rwa [setCall_other begun] at missed
  | connect other =>
      dsimp only [Manager.step] at missed
      split at missed
      · unfold connectFresh at missed
        split at missed
        · exact missed_setCall (by simp) missed
        · exact missed_setCall (by simp) missed
      · exact missed
  | connected other ok =>
      dsimp only [Manager.step] at missed
      split at missed
      · refine missed_setCall (fun name => ?_) missed
        cases ok <;> exact fun same => nomatch same
      · exact missed
  | drop other pools =>
      dsimp only [Manager.step] at missed
      split at missed
      · have returned := missed_setCall (by simp) missed
        split at returned
        · exact returned
        · exact returned
      · exact missed
  | invalidate names => exact missed
  | reload new =>
      dsimp only [Manager.step] at missed
      split at missed
      · exact missed
      · exact missed
  | invalidateReloaded =>
      dsimp only [Manager.step] at missed
      split at missed
      · exact missed
      · exact missed

/-- A call between loading the policy and its last `open`. -/
structure Request (crate : PolicyCrate) where
  policy : StoredPolicy crate
  admitted : List Text

/-- Where a session comes from: the policy that let its call open it, if one was asked, and the
inventory its entry was read from. -/
structure Origin where
  decidedUnder : Option StoredInventory
  entryFrom : StoredInventory

/-- A session that an admitted call has been given. -/
structure Opening extends Guard where
  decidedUnder : StoredInventory
  entryFrom : StoredInventory

structure Stores (crate : PolicyCrate) where
  manager : Manager
  inventory : StoredInventory
  policy : StoredPolicy crate
  /-- The policy that the tool with the write lock stores next. -/
  pending : Option (StoredPolicy crate)
  requests : Nat → Option (Request crate)
  /-- The inventory the session in each slot of the pool was connected from. -/
  slotOrigins : Text → StoredInventory
  origins : Nat → Origin
  openings : List Opening

inductive MutatingTool where
  | addDevice
  | reloadDevices
deriving DecidableEq

namespace Stores

variable {crate : PolicyCrate}

def start (policy : StoredPolicy crate) : Stores crate where
  manager := .start policy.source.entries
  inventory := policy.source
  policy := policy
  pending := none
  requests _ := none
  slotOrigins _ := policy.source
  origins _ := ⟨none, policy.source⟩
  openings := []

inductive Action where
  /-- `policy.load_full()`. -/
  | load (request : Nat)
  | decide (request : Nat) (call : PolicedCall)
  | opensNoMore (request : Nat)
  /-- Some tools open sessions without asking the policy: they have no request. -/
  | checkout (request : Option Nat) (call : Nat) (router : Text) (usable : Bool)
  | openFresh (request : Option Nat) (call : Nat) (router : Text)
  | connect (call : Nat)
  | connected (call : Nat) (ok : Bool)
  | drop (call : Nat) (pools : Bool)
  | storeInventory (tool : MutatingTool) (new : LoadedInventory)
  | storePolicy
  | invalidateReloaded

/-- Whether a session may be opened, and under which policy. -/
def mayOpen (s : Stores crate) (router : Text) : Option Nat → Option (Option StoredInventory)
  | none => some none
  | some request => match s.requests request with
      | some loaded => if router ∈ loaded.admitted then some (some loaded.policy.source) else none
      | none => none

/-- The `open` of a call yields a session, which is noted where the policy was asked. -/
def yields (s : Stores crate) (call : Nat) (guard : Guard) : Stores crate :=
  match (s.origins call).decidedUnder with
  | some source => { s with
      openings := s.openings ++ [⟨guard, source, (s.origins call).entryFrom⟩] }
  | none => s

def setOrigin (s : Stores crate) (call : Nat) (origin : Origin) : Stores crate :=
  { s with origins := Function.update s.origins call origin }

def setRequest (s : Stores crate) (request : Nat) (state : Option (Request crate)) :
    Stores crate :=
  { s with requests := Function.update s.requests request state }

/-- A session of the pool is handed out, or there is none. -/
def checkedOut (s : Stores crate) (call : Nat) (router : Text) (usable : Bool)
    (under : Option StoredInventory) : Stores crate :=
  let opened := { s.setOrigin call ⟨under, s.slotOrigins router⟩ with
    manager := s.manager.step (.checkout call router usable) }
  match (s.manager.tryCheckout router usable).1 with
  | some entry => opened.yields call ⟨router, entry⟩
  | none => opened

/-- The entry is read from the inventory of now. -/
def connects (s : Stores crate) (call : Nat) : Stores crate :=
  { s.setOrigin call ⟨(s.origins call).decidedUnder, s.inventory⟩ with
    manager := s.manager.step (.connect call) }

/-- `store_inventory`; only a reload goes on to invalidate the pool. -/
def storeIn (tool : MutatingTool) (new : Inventory) (m : Manager) : Manager :=
  match tool with
  | .addDevice => { m with inventory := new }
  | .reloadDevices => m.step (.reload new)

def step (crates : CallCrates crate) (s : Stores crate) : Action → Stores crate
  | .load request => match s.requests request with
      | none => s.setRequest request (some ⟨s.policy, []⟩)
      | some _ => s
  | .decide request call => match s.requests request with
      | some loaded => s.setRequest request (some { loaded with
          admitted := call.admitted crates s.inventory.entries loaded.policy.policy })
      | none => s
  | .opensNoMore request => s.setRequest request none
  | .checkout request call router usable => match s.mayOpen router request with
      | some under => s.checkedOut call router usable under
      | none => s
  | .openFresh request call router => match s.mayOpen router request with
      | some under => { s.setOrigin call ⟨under, s.slotOrigins router⟩ with
          manager := s.manager.step (.openFresh call router) }
      | none => s
  | .connect call => match s.manager.calls call with
      | some (.missed _) => s.connects call
      | _ => s
  | .connected call ok => match s.manager.calls call with
      | some (.connecting guard) =>
          let connected := { s with manager := s.manager.step (.connected call ok) }
          if ok then connected.yields call guard else connected
      | _ => s
  | .drop call pools => match s.manager.calls call with
      | some (.holding guard) => { s with
          manager := s.manager.step (.drop call pools)
          slotOrigins := if pools then
            Function.update s.slotOrigins guard.router (s.origins call).entryFrom
            else s.slotOrigins }
      | _ => s
  -- One tool at a time has the write lock, and stores nothing where no policy can be built.
  | .storeInventory tool new => match s.pending, s.manager.invalidating,
        built : Policy.build crate new.rules with
      | none, none, .ok policy => { s with
          manager := storeIn tool new.entries s.manager
          inventory := new.stored (s.inventory.version + 1)
          pending := some ⟨new.stored (s.inventory.version + 1), policy, built⟩ }
      | _, _, _ => s
  | .storePolicy => match s.pending with
      | some policy => { s with policy, pending := none }
      | none => s
  | .invalidateReloaded => match s.pending with
      | none => { s with manager := s.manager.step .invalidateReloaded }
      | some _ => s

/-- The policy that let a session be opened is that of its entry's inventory, or a later one. -/
def Agrees (s : Stores crate) : Prop :=
  ∀ opening ∈ s.openings, opening.entryFrom.version ≤ opening.decidedUnder.version

/-- Steps that all meet a condition. -/
def Reaches (crates : CallCrates crate) (allowed : Stores crate → Action → Prop) :
    Stores crate → Stores crate → Prop :=
  Relation.ReflTransGen fun s s' => ∃ action, allowed s action ∧ s' = s.step crates action

theorem yields_frame (s : Stores crate) (call : Nat) (guard : Guard) :
    ∃ openings, s.yields call guard = { s with openings } := by
  unfold yields
  split
  · exact ⟨_, rfl⟩
  · exact ⟨s.openings, rfl⟩

/-! ## Versions only grow -/

/-- The policy lags behind the inventory only while its own store is due, and nothing is from an
inventory that has not been stored. -/
structure Dated (s : Stores crate) : Prop where
  settled : s.pending = none → s.policy.source.version = s.inventory.version
  upcoming : ∀ policy, s.pending = some policy → policy.source.version = s.inventory.version
  slots : ∀ router, (s.slotOrigins router).version ≤ s.inventory.version
  entries : ∀ call, (s.origins call).entryFrom.version ≤ s.inventory.version

section Dated

variable {s : Stores crate}

theorem Dated.setOrigin (dated : s.Dated) (call : Nat) {origin : Origin}
    (old : origin.entryFrom.version ≤ s.inventory.version) (manager : Manager) :
    ({ s.setOrigin call origin with manager } : Stores crate).Dated where
  settled := dated.settled
  upcoming := dated.upcoming
  slots := dated.slots
  entries other := by
    change (Function.update s.origins call origin other).entryFrom.version ≤ _
    by_cases same : other = call
    · rw [same, Function.update_self]
      exact old
    · rw [Function.update_of_ne same]
      exact dated.entries other

theorem Dated.yields (dated : s.Dated) (call : Nat) (guard : Guard) :
    (s.yields call guard).Dated := by
  obtain ⟨openings, same⟩ := s.yields_frame call guard
  rw [same]
  exact ⟨dated.settled, dated.upcoming, dated.slots, dated.entries⟩

theorem Dated.step (crates : CallCrates crate) (dated : s.Dated) (action : Action) :
    (s.step crates action).Dated := by
  cases action with
  | load request =>
      dsimp only [Stores.step]
      split
      · exact ⟨dated.settled, dated.upcoming, dated.slots, dated.entries⟩
      · exact dated
  | decide request call =>
      dsimp only [Stores.step]
      split
      · exact ⟨dated.settled, dated.upcoming, dated.slots, dated.entries⟩
      · exact dated
  | opensNoMore request => exact ⟨dated.settled, dated.upcoming, dated.slots, dated.entries⟩
  | checkout request call router usable =>
      dsimp only [Stores.step]
      split
      next under _ =>
        have opened := @Dated.setOrigin _ _ dated call ⟨under, s.slotOrigins router⟩
          (dated.slots router) (s.manager.step (.checkout call router usable))
        unfold checkedOut
        dsimp only
        split
        · exact opened.yields call _
        · exact opened
      · exact dated
  | openFresh request call router =>
      dsimp only [Stores.step]
      split
      · exact dated.setOrigin call (dated.slots router) _
      · exact dated
  | connect call =>
      dsimp only [Stores.step]
      split
      · exact dated.setOrigin call (le_refl s.inventory.version) _
      · exact dated
  | connected call ok =>
      dsimp only [Stores.step]
      split
      next guard _ =>
        have connected : ({ s with manager := s.manager.step (.connected call ok) } :
            Stores crate).Dated := ⟨dated.settled, dated.upcoming, dated.slots, dated.entries⟩
        split
        · exact connected.yields call guard
        · exact connected
      · exact dated
  | drop call pools =>
      dsimp only [Stores.step]
      split
      next guard _ =>
        refine ⟨dated.settled, dated.upcoming, fun router => ?_, dated.entries⟩
        dsimp only
        split
        · by_cases same : router = guard.router
          · rw [same, Function.update_self]
            exact dated.entries call
          · rw [Function.update_of_ne same]
            exact dated.slots router
        · exact dated.slots router
      · exact dated
  | storeInventory tool new =>
      dsimp only [Stores.step]
      split
      · refine ⟨nofun, ?_, fun router => ?_, fun call => ?_⟩
        · intro policy stored
          cases stored
          rfl
        · exact Nat.le_succ_of_le (dated.slots router)
        · exact Nat.le_succ_of_le (dated.entries call)
      · exact dated
  | storePolicy =>
      dsimp only [Stores.step]
      split
      next policy due =>
        exact ⟨fun _ => dated.upcoming policy due, nofun, dated.slots, dated.entries⟩
      · exact dated
  | invalidateReloaded =>
      dsimp only [Stores.step]
      split
      · exact ⟨dated.settled, dated.upcoming, dated.slots, dated.entries⟩
      · exact dated

end Dated

/-! ## Where entries are from -/

def guardOf : OpenCall → Option Guard
  | .missed _ => none
  | .connecting guard | .holding guard => some guard

/-- The entry of every session, pooled, in use or noted, is the one its inventory has. -/
structure Traced (s : Stores crate) : Prop where
  current : s.manager.inventory = s.inventory.entries
  slots : ∀ router entry, s.manager.slots router = some entry →
    (s.slotOrigins router).entries.get router = .ok entry
  held : ∀ call guard, (s.manager.calls call).bind guardOf = some guard →
    (s.origins call).entryFrom.entries.get guard.router = .ok guard.entry
  noted : ∀ opening ∈ s.openings,
    opening.entryFrom.entries.get opening.router = .ok opening.entry

section Traced

variable {s : Stores crate}

/-- One call goes on, with an origin that its session is traced to. -/
theorem Traced.setOrigin (traced : s.Traced) {call : Nat} {origin : Origin} {manager : Manager}
    (inventory : manager.inventory = s.manager.inventory)
    (slots : ∀ router entry, manager.slots router = some entry →
      s.manager.slots router = some entry)
    (others : ∀ other, other ≠ call → manager.calls other = s.manager.calls other)
    (own : ∀ guard, (manager.calls call).bind guardOf = some guard →
      origin.entryFrom.entries.get guard.router = .ok guard.entry) :
    ({ s.setOrigin call origin with manager } : Stores crate).Traced where
  current := inventory.trans traced.current
  slots router entry pooled := traced.slots router entry (slots router entry pooled)
  held other guard has := by
    change (Function.update s.origins call origin other).entryFrom.entries.get guard.router = _
    by_cases same : other = call
    · subst same
      rw [Function.update_self]
      exact own guard has
    · rw [Function.update_of_ne same]
      exact traced.held other guard (others other same ▸ has)
  noted := traced.noted

theorem Traced.yields (traced : s.Traced) {call : Nat} {guard : Guard}
    (has : (s.manager.calls call).bind guardOf = some guard) : (s.yields call guard).Traced := by
  unfold Stores.yields
  split
  next source _ =>
    refine ⟨traced.current, traced.slots, traced.held, fun opening noted => ?_⟩
    rcases List.mem_append.mp noted with before | now
    · exact traced.noted opening before
    · rw [List.mem_singleton.mp now]
      exact traced.held call guard has
  · exact traced

theorem slots_emptied {m : Manager} {router name : Text} {entry : DeviceEntry}
    (pooled : Function.update m.slots name none router = some entry) :
    m.slots router = some entry := by
  by_cases same : router = name
  · rw [same, Function.update_self] at pooled
    cases pooled
  · rwa [Function.update_of_ne same] at pooled

theorem slots_invalidate {m : Manager} {router : Text} {names : List Text} {entry : DeviceEntry}
    (pooled : (m.invalidate names).slots router = some entry) : m.slots router = some entry := by
  by_cases named : router ∈ names
  · rw [show (m.invalidate names).slots router = none from if_pos named] at pooled
    cases pooled
  · rwa [show (m.invalidate names).slots router = m.slots router from if_neg named] at pooled

theorem Traced.checkedOut (traced : s.Traced) (call : Nat) (router : Text) (usable : Bool)
    (under : Option StoredInventory) : (s.checkedOut call router usable under).Traced := by
  have kept : ∀ name entry, (s.manager.tryCheckout router usable).2.slots name = some entry →
      s.manager.slots name = some entry := fun _ _ pooled => slots_emptied pooled
  unfold Stores.checkedOut
  dsimp only [Manager.step]
  cases yielded : s.manager.tryCheckout router usable with
  | mk session m =>
      have same : m.inventory = s.manager.inventory ∧ m.calls = s.manager.calls := by
        have second := congrArg Prod.snd yielded
        subst second
        exact ⟨rfl, rfl⟩
      rw [yielded] at kept
      cases session with
      | none =>
          refine traced.setOrigin same.1 kept (fun other differs => ?_) fun guard has => ?_
          · dsimp only
            rw [Manager.setCall_other differs, same.2]
          · dsimp only at has
            rw [Manager.setCall_self] at has
            cases has
      | some entry =>
          have pooled : s.manager.slots router = some entry := by
            have first := congrArg Prod.fst yielded
            dsimp only [Manager.tryCheckout] at first
            split at first
            · exact first
            · cases first
          have opened := @Traced.setOrigin _ _ traced call ⟨under, s.slotOrigins router⟩
            (m.setCall call (some (.holding ⟨router, entry⟩))) same.1 kept
            (fun other differs => by rw [Manager.setCall_other differs, same.2])
            (fun guard has => by
              rw [Manager.setCall_self] at has
              cases has
              exact traced.slots router entry pooled)
          refine opened.yields ?_
          rw [Manager.setCall_self]
          rfl

theorem Traced.connects (traced : s.Traced) {call : Nat} {router : Text}
    (missed : s.manager.calls call = some (.missed router)) : (s.connects call).Traced := by
  unfold Stores.connects
  dsimp only [Manager.step]
  rw [missed]
  dsimp only [Manager.connectFresh]
  split
  next entry found =>
    refine traced.setOrigin rfl (fun _ _ pooled => pooled)
      (fun other differs => Manager.setCall_other differs) fun guard has => ?_
    rw [Manager.setCall_self] at has
    cases has
    rw [traced.current] at found
    exact found
  · refine traced.setOrigin rfl (fun _ _ pooled => pooled)
      (fun other differs => Manager.setCall_other differs) fun guard has => ?_
    rw [Manager.setCall_self] at has
    cases has

theorem Traced.connected (traced : s.Traced) {call : Nat} {guard : Guard} (ok : Bool)
    (connecting : s.manager.calls call = some (.connecting guard)) :
    ({ s with manager := s.manager.step (.connected call ok) } : Stores crate).Traced := by
  dsimp only [Manager.step]
  rw [connecting]
  refine ⟨traced.current, traced.slots, fun other has found => ?_, traced.noted⟩
  by_cases same : other = call
  · subst same
    rw [Manager.setCall_self] at found
    refine traced.held other has ?_
    rw [connecting]
    cases ok with
    | true => exact found
    | false => cases found
  · refine traced.held other has ?_
    rwa [Manager.setCall_other same] at found

/-- A session goes back with the inventory its entry is from. -/
theorem Traced.drop (traced : s.Traced) {call : Nat} {guard : Guard} (pools : Bool)
    (holding : s.manager.calls call = some (.holding guard)) :
    ({ s with
      manager := s.manager.step (.drop call pools)
      slotOrigins := if pools then
        Function.update s.slotOrigins guard.router (s.origins call).entryFrom
        else s.slotOrigins } : Stores crate).Traced := by
  have own := traced.held call guard (by rw [holding]; rfl)
  have fewer : ∀ (m : Manager), m.calls = s.manager.calls → ∀ other has,
      ((m.setCall call none).calls other).bind guardOf = some has →
      (s.manager.calls other).bind guardOf = some has := by
    intro m calls other has found
    by_cases same : other = call
    · subst same
      rw [Manager.setCall_self] at found
      cases found
    · rwa [Manager.setCall_other same, calls] at found
  dsimp only [Manager.step]
  rw [holding]
  cases pools with
  | false =>
      exact ⟨traced.current, traced.slots,
        fun other has found => traced.held other has (fewer _ rfl other has found), traced.noted⟩
  | true =>
      refine ⟨traced.current, fun router entry pooled => ?_,
        fun other has found => traced.held other has (fewer _ rfl other has found), traced.noted⟩
      change Function.update s.manager.slots guard.router (some guard.entry) router = _ at pooled
      change (Function.update s.slotOrigins guard.router (s.origins call).entryFrom router
        ).entries.get router = _
      by_cases same : router = guard.router
      · subst same
        rw [Function.update_self] at pooled ⊢
        cases pooled
        exact own
      · rw [Function.update_of_ne same] at pooled ⊢
        exact traced.slots router entry pooled

theorem Traced.storeInventory (traced : s.Traced) (tool : MutatingTool) (new : StoredInventory)
    (idle : s.manager.invalidating = none) (pending : Option (StoredPolicy crate)) :
    ({ s with
      manager := storeIn tool new.entries s.manager
      inventory := new
      pending } : Stores crate).Traced := by
  cases tool with
  | addDevice => exact ⟨rfl, traced.slots, traced.held, traced.noted⟩
  | reloadDevices =>
      dsimp only [storeIn, Manager.step]
      rw [idle]
      exact ⟨rfl, traced.slots, traced.held, traced.noted⟩

theorem Traced.step (crates : CallCrates crate) (traced : s.Traced) (action : Action) :
    (s.step crates action).Traced := by
  cases action with
  | load request =>
      dsimp only [Stores.step]
      split
      · exact ⟨traced.current, traced.slots, traced.held, traced.noted⟩
      · exact traced
  | decide request call =>
      dsimp only [Stores.step]
      split
      · exact ⟨traced.current, traced.slots, traced.held, traced.noted⟩
      · exact traced
  | opensNoMore request => exact ⟨traced.current, traced.slots, traced.held, traced.noted⟩
  | checkout request call router usable =>
      dsimp only [Stores.step]
      split
      next under _ => exact traced.checkedOut call router usable under
      · exact traced
  | openFresh request call router =>
      dsimp only [Stores.step]
      split
      next under _ =>
        refine traced.setOrigin rfl (fun _ _ pooled => slots_invalidate pooled)
          (fun other differs => Manager.setCall_other differs) fun guard has => ?_
        dsimp only [Manager.step] at has
        rw [Manager.setCall_self] at has
        cases has
      · exact traced
  | connect call =>
      dsimp only [Stores.step]
      split
      next missed => exact traced.connects missed
      · exact traced
  | connected call ok =>
      dsimp only [Stores.step]
      split
      next guard connecting =>
        have connected := traced.connected ok connecting
        cases ok with
        | false => exact connected
        | true =>
            refine @Traced.yields _ _ connected call guard ?_
            dsimp only [Manager.step]
            rw [connecting]
            dsimp only
            rw [Manager.setCall_self]
            rfl
      · exact traced
  | drop call pools =>
      dsimp only [Stores.step]
      split
      next holding => exact traced.drop pools holding
      · exact traced
  | storeInventory tool new =>
      dsimp only [Stores.step]
      split
      next idle _ =>
        exact @Traced.storeInventory _ _ traced tool (new.stored (s.inventory.version + 1)) idle _
      · exact traced
  | storePolicy =>
      dsimp only [Stores.step]
      split
      · exact ⟨traced.current, traced.slots, traced.held, traced.noted⟩
      · exact traced
  | invalidateReloaded =>
      dsimp only [Stores.step]
      split
      · dsimp only [Manager.step]
        split
        next names _ =>
          exact ⟨traced.current, fun router entry pooled =>
            traced.slots router entry (slots_invalidate pooled), traced.held, traced.noted⟩
        · exact traced
      · exact traced

theorem reached_traced {crates : CallCrates crate} {allowed : Stores crate → Action → Prop}
    {policy : StoredPolicy crate} (reached : Reaches crates allowed (start policy) s) :
    s.Traced := by
  induction reached with
  | refl => exact ⟨rfl, nofun, nofun, nofun⟩
  | tail _ last ih =>
      obtain ⟨action, _, rfl⟩ := last
      exact ih.step crates action

end Traced

end Stores

end JunosMcp
