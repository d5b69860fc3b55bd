import JunosMcp.Errors
import Mathlib.Logic.Function.Basic
import Mathlib.Logic.Relation

/-!
# The session pool and the inventory

A slot of the pool remembers the inventory entry its session was connected with. Opens, drops of
guards, invalidations and reloads interleave at their awaits: a reload stores the new inventory in
one step and invalidates the pool in another.
-/

namespace JunosMcp

inductive AuthConfig where
  | password (password : Text)
  | sshKey (privateKeyPath : Text)
  deriving DecidableEq

/-- The fields of an entry a connection is made from. -/
structure DeviceEntry where
  ip : Text
  port : Nat
  username : Text
  auth : AuthConfig
  sshConfig : Option Text
  deriving DecidableEq

structure Inventory where
  devices : List (Text × DeviceEntry)

def Inventory.get (inventory : Inventory) (name : Text) : Except JmcpError DeviceEntry :=
  match inventory.devices.lookup name with
  | some entry => .ok entry
  | none => .error (.unknownRouter name)

def Inventory.names (inventory : Inventory) : List Text := inventory.devices.map Prod.fst

def inventoryEntryEqual (a b : DeviceEntry) : Bool :=
  a.ip == b.ip && a.port == b.port && a.username == b.username && a.auth == b.auth

def removedNames (prev new : Inventory) : List Text :=
  prev.names.filter fun name => !new.names.contains name

def changedNames (prev new : Inventory) : List Text :=
  (prev.names.filter fun name => new.names.contains name).filter fun name =>
    match prev.get name, new.get name with
    | .ok p, .ok n => !inventoryEntryEqual p n
    | _, _ => false

/-! ## The manager -/

/-- A session in use: its router, and the entry it was connected with. -/
structure Guard where
  router : Text
  entry : DeviceEntry
  deriving DecidableEq

/-- Where an `open` has got to. -/
inductive OpenCall where
  | missed (router : Text)
  | connecting (guard : Guard)
  | holding (guard : Guard)
  deriving DecidableEq

structure Manager where
  inventory : Inventory
  slots : Text → Option DeviceEntry
  calls : Nat → Option OpenCall
  /-- The names a reload that has stored its inventory is about to invalidate. -/
  invalidating : Option (List Text)

namespace Manager

def start (inventory : Inventory) : Manager := ⟨inventory, fun _ => none, fun _ => none, none⟩

def invalidate (m : Manager) (names : List Text) : Manager :=
  { m with slots := fun name => if name ∈ names then none else m.slots name }

def setCall (m : Manager) (call : Nat) (state : Option OpenCall) : Manager :=
  { m with calls := Function.update m.calls call state }

/-- A session found expired or dead is closed, and the slot is empty either way. -/
def tryCheckout (m : Manager) (router : Text) (usable : Bool) : Option DeviceEntry × Manager :=
  (if usable then m.slots router else none,
    { m with slots := Function.update m.slots router none })

/-- The session already in the slot is closed. -/
def returnSession (m : Manager) (guard : Guard) : Manager :=
  { m with slots := Function.update m.slots guard.router (some guard.entry) }

/-- `connect_fresh` takes its snapshot of the entry before it connects. -/
def connectFresh (m : Manager) (call : Nat) (router : Text) : Manager :=
  match m.inventory.get router with
  | .ok entry => m.setCall call (some (.connecting ⟨router, entry⟩))
  | .error _ => m.setCall call none

inductive Action where
  | checkout (call : Nat) (router : Text) (usable : Bool)
  | openFresh (call : Nat) (router : Text)
  | connect (call : Nat)
  | connected (call : Nat) (ok : Bool)
  | drop (call : Nat) (pools : Bool)
  | invalidate (names : List Text)
  | reload (new : Inventory)
  | invalidateReloaded

/-- One step between two awaits; a step that does not apply changes nothing. The write lock lets
one reload run at a time. -/
def step (m : Manager) : Action → Manager
  | .checkout call router usable => match m.tryCheckout router usable with
      | (some entry, m') => m'.setCall call (some (.holding ⟨router, entry⟩))
      | (none, m') => m'.setCall call (some (.missed router))
  | .openFresh call router => (m.invalidate [router]).setCall call (some (.missed router))
  | .connect call => match m.calls call with
      | some (.missed router) => m.connectFresh call router
      | _ => m
  | .connected call ok => match m.calls call with
      | some (.connecting guard) => m.setCall call (if ok then some (.holding guard) else none)
      | _ => m
  | .drop call pools => match m.calls call with
      | some (.holding guard) =>
          (if pools then m.returnSession guard else m).setCall call none
      | _ => m
  | .invalidate names => m.invalidate names
  | .reload new => match m.invalidating with
      | none => { m with
          inventory := new
          invalidating := some (removedNames m.inventory new ++ changedNames m.inventory new) }
      | some _ => m
  | .invalidateReloaded => match m.invalidating with
      | some names => { m.invalidate names with invalidating := none }
      | none => m

/-- The entry behind the session an `open` yields, if nothing else happens meanwhile. -/
def openYields (m : Manager) (router : Text) (usable : Bool) : Except JmcpError DeviceEntry :=
  match m.tryCheckout router usable with
  | (some entry, _) => .ok entry
  | (none, m') => m'.inventory.get router

/-- Every `open` yields a session of the current inventory's entry, or no such router. -/
def OpensCurrent (m : Manager) : Prop :=
  ∀ router usable, m.openYields router usable = m.inventory.get router

/-- Steps that all meet a condition. -/
def Reaches (allowed : Manager → Action → Prop) : Manager → Manager → Prop :=
  Relation.ReflTransGen fun m m' => ∃ action, allowed m action ∧ m' = m.step action

/-! ## The pool follows the inventory -/

/-- What the pool relies on and does not check: a session is put back only while the inventory
lists its router with the entry it was connected with, or a reload is about to invalidate it, and a
reload does not change only the `ssh_config` of a router whose session is in the pool. -/
def Orderly (m : Manager) : Action → Prop
  | .drop call true => ∀ guard, m.calls call = some (.holding guard) →
      m.inventory.get guard.router = .ok guard.entry ∨
        ∃ names, m.invalidating = some names ∧ guard.router ∈ names
  | .reload new => ∀ router entry pooled, m.slots router = some pooled →
      new.get router = .ok entry → inventoryEntryEqual pooled entry = true →
      entry.sshConfig = pooled.sshConfig
  | _ => True

/-- A pooled session was connected with its router's entry, or is about to be invalidated. -/
def Follows (m : Manager) : Prop :=
  ∀ router entry, m.slots router = some entry →
    m.inventory.get router = .ok entry ∨
      ∃ names, m.invalidating = some names ∧ router ∈ names

end Manager

theorem inventoryEntryEqual_iff {a b : DeviceEntry} :
    inventoryEntryEqual a b = true ↔
      a.ip = b.ip ∧ a.port = b.port ∧ a.username = b.username ∧ a.auth = b.auth := by
  simp [inventoryEntryEqual, and_assoc]

/-- The comparison leaves out `ssh_config`, and nothing else. -/
theorem entry_eq_iff {a b : DeviceEntry} :
    a = b ↔ inventoryEntryEqual a b = true ∧ b.sshConfig = a.sshConfig := by
  rw [inventoryEntryEqual_iff]
  constructor
  · rintro rfl
    exact ⟨⟨rfl, rfl, rfl, rfl⟩, rfl⟩
  · rintro ⟨same, ssh⟩
    cases a
    cases b
    simp_all

theorem get_names {inventory : Inventory} {name : Text} {entry : DeviceEntry}
    (found : inventory.get name = .ok entry) : name ∈ inventory.names := by
  unfold Inventory.get at found
  split at found
  next listed =>
    obtain ⟨before, after, same, _⟩ := List.lookup_eq_some_iff.mp listed
    simp [Inventory.names, same]
  · cases found

theorem get_unlisted {inventory : Inventory} {name : Text} {error : JmcpError}
    (missing : inventory.get name = .error error) : name ∉ inventory.names := by
  unfold Inventory.get at missing
  split at missing
  · cases missing
  next unlisted =>
    intro listed
    obtain ⟨⟨name', entry⟩, member, rfl⟩ := List.mem_map.mp listed
    have differs := List.lookup_eq_none_iff.mp unlisted _ member
    simp at differs

/-- A reload invalidates what it removes and what it changes, as far as it compares. -/
theorem mem_invalidated (new : Inventory) {prev : Inventory} {name : Text} {entry : DeviceEntry}
    (listed : prev.get name = .ok entry) :
    name ∈ removedNames prev new ++ changedNames prev new ∨
      ∃ entry', new.get name = .ok entry' ∧ inventoryEntryEqual entry entry' = true := by
  have member := get_names listed
  cases found : new.get name with
  | error error =>
      refine .inl (List.mem_append_left _ (List.mem_filter.mpr ⟨member, ?_⟩))
      simpa using get_unlisted found
  | ok entry' =>
      cases same : inventoryEntryEqual entry entry' with
      | true => exact .inr ⟨entry', rfl, same⟩
      | false =>
          refine .inl (List.mem_append_right _ ?_)
          have both : name ∈ prev.names.filter fun name => new.names.contains name :=
            List.mem_filter.mpr ⟨member, by simpa using get_names found⟩
          exact List.mem_filter.mpr ⟨both, by simp [listed, found, same]⟩

namespace Manager

variable {m : Manager}

@[simp] theorem setCall_inventory (call : Nat) (state : Option OpenCall) :
    (m.setCall call state).inventory = m.inventory := rfl

theorem Follows.setCall (follows : m.Follows) (call : Nat) (state : Option OpenCall) :
    (m.setCall call state).Follows := follows

/-- Emptying slots keeps the pool in line. -/
theorem Follows.shrink (follows : m.Follows) {slots : Text → Option DeviceEntry}
    (fewer : ∀ router entry, slots router = some entry → m.slots router = some entry) :
    ({ m with slots := slots } : Manager).Follows :=
  fun router entry pooled => follows router entry (fewer router entry pooled)

theorem Follows.invalidate (follows : m.Follows) (names : List Text) :
    (m.invalidate names).Follows :=
  follows.shrink fun router entry pooled => by
    by_cases named : router ∈ names
    · simp [named] at pooled
    · simpa [named] using pooled

theorem Follows.emptied (follows : m.Follows) (router : Text) :
    ({ m with slots := Function.update m.slots router none } : Manager).Follows :=
  follows.shrink fun name entry pooled => by
    by_cases same : name = router
    · subst same
      simp at pooled
    · rwa [Function.update_of_ne same] at pooled

theorem Follows.returned (follows : m.Follows) {guard : Guard}
    (current : m.inventory.get guard.router = .ok guard.entry ∨
      ∃ names, m.invalidating = some names ∧ guard.router ∈ names) :
    (m.returnSession guard).Follows := by
  intro router entry pooled
  by_cases same : router = guard.router
  · subst same
    obtain rfl : guard.entry = entry := by simpa [returnSession] using pooled
    exact current
  · have earlier : m.slots router = some entry := by
      simpa [returnSession, Function.update_of_ne same] using pooled
    exact follows router entry earlier

theorem Follows.reloaded (follows : m.Follows) (idle : m.invalidating = none) {new : Inventory}
    (orderly : m.Orderly (.reload new)) :
    ({ m with
      inventory := new
      invalidating := some (removedNames m.inventory new ++ changedNames m.inventory new) } :
      Manager).Follows := by
  intro router entry pooled
  rcases follows router entry pooled with listed | ⟨names, pending, _⟩
  · rcases mem_invalidated new listed with named | ⟨entry', found, same⟩
    · exact .inr ⟨_, rfl, named⟩
    · have ssh := orderly router entry' entry pooled found same
      obtain rfl := entry_eq_iff.mpr ⟨same, ssh⟩
      exact .inl found
  · rw [idle] at pending
    cases pending

theorem Follows.settled (follows : m.Follows) {names : List Text}
    (pending : m.invalidating = some names) :
    ({ m.invalidate names with invalidating := none } : Manager).Follows := by
  intro router entry pooled
  have kept : router ∉ names ∧ m.slots router = some entry := by
    by_cases named : router ∈ names
    · simp [Manager.invalidate, named] at pooled
    · exact ⟨named, by simpa [Manager.invalidate, named] using pooled⟩
  rcases follows router entry kept.2 with listed | ⟨names', pending', named⟩
  · exact .inl listed
  · rw [pending] at pending'
    obtain rfl := Option.some.inj pending'
    exact absurd named kept.1

theorem Follows.step (follows : m.Follows) {action : Action} (orderly : m.Orderly action) :
    (m.step action).Follows := by
  cases action with
  | checkout call router usable =>
      have emptied := follows.emptied router
      dsimp only [Manager.step, tryCheckout]
      cases usable with
      | false => exact emptied.setCall call _
      | true => cases m.slots router with
          | none => exact emptied.setCall call _
          | some entry => exact emptied.setCall call _
  | openFresh call router => exact (follows.invalidate [router]).setCall call _
  | connect call =>
      dsimp only [Manager.step]
      split
      · unfold connectFresh
        split <;> exact follows.setCall call _
      · exact follows
  | connected call ok =>
      dsimp only [Manager.step]
      split
      · exact follows.setCall call _
      · exact follows
  | drop call pools =>
      dsimp only [Manager.step]
      split
      next guard holding =>
        cases pools with
        | false => exact follows.setCall call none
        | true => exact (follows.returned (orderly guard holding)).setCall call none
      · exact follows
  | invalidate names => exact follows.invalidate names
  | reload new =>
      dsimp only [Manager.step]
      split
      next idle => exact follows.reloaded idle orderly
      · exact follows
  | invalidateReloaded =>
      dsimp only [Manager.step]
      split
      next names pending => exact follows.settled pending
      · exact follows

theorem Follows.reaches {m' : Manager} (follows : m.Follows) (reached : Reaches Orderly m m') :
    m'.Follows := by
  induction reached with
  | refl => exact follows
  | tail _ last ih =>
      obtain ⟨action, orderly, rfl⟩ := last
      exact ih.step orderly

theorem Follows.opensCurrent (follows : m.Follows) (idle : m.invalidating = none) :
    m.OpensCurrent := by
  intro router usable
  cases usable with
  | false => rfl
  | true =>
      unfold openYields tryCheckout
      cases pooled : m.slots router with
      | none => simp
      | some entry =>
          rcases follows router entry pooled with listed | ⟨names, pending, _⟩
          · simp [listed]
          · rw [idle] at pending
            cases pending

/-- With no reload under way, every `open` yields a session of the current inventory, in every run
whose steps are orderly. -/
theorem reloaded_opens_current {inventory : Inventory} {m : Manager}
    (reached : Reaches Orderly (start inventory) m) (idle : m.invalidating = none) :
    m.OpensCurrent := by
  have follows : (start inventory).Follows := nofun
  exact (follows.reaches reached).opensCurrent idle

/-! ## A session that comes back -/

/-- The steps of a run, all within a condition. -/
def Keeps (allowed : Manager → Action → Prop) : Manager → List Action → Prop
  | _, [] => True
  | m, action :: rest => allowed m action ∧ Keeps allowed (m.step action) rest

theorem Keeps.reaches {allowed : Manager → Action → Prop} {actions : List Action} {m : Manager}
    (keeps : Keeps allowed m actions) : Reaches allowed m (actions.foldl step m) := by
  induction actions generalizing m with
  | nil => exact .refl
  | cons action rest ih => exact .head ⟨action, keeps.1, rfl⟩ (ih keeps.2)

def routerAt (ip : Text) : Inventory :=
  ⟨[("r1".toList, ⟨ip, 830, "admin".toList, .password "x".toList, none⟩)]⟩

/-- A session is opened and its router's address changes. -/
def openAndReload : List Action :=
  [.checkout 0 "r1".toList true, .connect 0, .connected 0 true,
   .reload (routerAt "192.0.2.2".toList), .invalidateReloaded]

/-- The session comes back after the pool was invalidated, and the next `open` yields it. -/
theorem late_return_opens_stale :
    ¬∀ inventory m, Reaches (fun _ _ => True) (start inventory) m → m.invalidating = none →
      m.OpensCurrent := by
  intro holds
  have keeps : Keeps (fun _ _ => True) (start (routerAt "192.0.2.1".toList))
      (openAndReload ++ [Action.drop 0 true]) :=
    ⟨trivial, trivial, trivial, trivial, trivial, trivial, trivial⟩
  have current := holds _ _ keeps.reaches rfl "r1".toList true
  revert current
  decide

/-- A session that is not pooled after its router changed leaves the pool in line. -/
theorem unpooled_session_current :
    ((openAndReload ++ [Action.drop 0 false]).foldl step
      (start (routerAt "192.0.2.1".toList))).OpensCurrent := by
  have keeps : Keeps Orderly (start (routerAt "192.0.2.1".toList))
      (openAndReload ++ [Action.drop 0 false]) := by
    refine ⟨trivial, trivial, trivial, ?_, trivial, trivial, trivial⟩
    intro router entry pooled found
    by_cases same : router = "r1".toList
    · subst same
      cases found
    · have empty : Function.update (fun _ : Text => (none : Option DeviceEntry)) "r1".toList none
          router = none := Function.update_of_ne same _ _
      cases empty.symm.trans found
  exact reloaded_opens_current keeps.reaches rfl

end Manager

end JunosMcp
