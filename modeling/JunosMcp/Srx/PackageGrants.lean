import JunosMcp.InventoryUpdates
import JunosMcp.Lib.Gaps
import JunosMcp.Lib.Ledger
import JunosMcp.Srx.PackageServer
import JunosMcp.Srx.PlanDrift
import JunosMcp.Srx.RpcArguments

/-!
# What a confirmation grants

Calls of the signature-package tools run at once over one confirmation store. A call sends a device
no more than the questions of a plan until it has consumed a token, and that token was shown to the
same caller for the same device, and was not consumed by another call.
-/

namespace JunosMcp.Srx

open Lib Package
open Transfer (Sha256)

/-! ## The server -/

/-- What one call did, and what its clock showed. -/
structure Deed (Who : Type) where
  who : Who
  op : ManageOp
  /-- Nothing where the call was dropped while it waited. -/
  answer : Option (ManageAnswer op)
  now : Nat

structure PackageState (Who : Type) where
  store : ConfirmationStore
  log : List (Deed Who)

/-- The operations a call can be dropped in. -/
inductive ManageOp.Waits : ManageOp → Prop where
  | openDevice (router : Text) : Waits (.openDevice router)
  | device (op : DeviceOp) : Waits (.package (.device op))
  | sleep (seconds : Nat) : Waits (.package (.sleep seconds))
  | acquire (router workflow correlationId : Text) :
      Waits (.package (.acquire router workflow correlationId))

/-- `Inventory::load` lets no other address in. -/
def Addressed (inventory : Inventory) : Prop :=
  ∀ name entry, inventory.get name = .ok entry → InventoryFile.isValidIpOrHostname entry.ip = true

theorem get_mem {inventory : Inventory} {name : Text} {entry : DeviceEntry}
    (found : inventory.get name = .ok entry) : (name, entry) ∈ inventory.devices := by
  unfold Inventory.get at found
  split at found
  · rename_i listed
    cases found
    obtain ⟨before, after, same, _⟩ := List.lookup_eq_some_iff.mp listed
    rw [same]
    exact List.mem_append_right _ List.mem_cons_self
  · cases found

section Loading
variable {Content Digest : Type} {crates : InventoryFile.InventoryCrates Content Digest}
  {policyCrate : PolicyCrate}

def logins (inventory : InventoryFile.FileInventory) : Inventory :=
  ⟨inventory.devices.map fun device => (device.1, device.2.toDeviceEntry)⟩

theorem validateEntry_yields {device : Text × InventoryFile.InventoryEntry} :
    (@InventoryFile.validateEntry _ _ crates policyCrate device).Yields
      (Unless fun _ => InventoryFile.isValidIpOrHostname device.2.ip = true) := by
  obtain ⟨name, entry⟩ := device
  unfold InventoryFile.validateEntry
  dsimp only
  split
  · exact unless_error
  · split
    · exact unless_error
    · rename_i valid
      rw [Bool.not_eq_true, Bool.not_eq_false'] at valid
      exact (Prog.yields_any _).mono fun _ _ _ _ => valid

theorem validateAll_yields {devices : List (Text × InventoryFile.InventoryEntry)} :
    (@InventoryFile.validateAll _ _ crates policyCrate devices).Yields
      (Unless fun _ => ∀ device ∈ devices, InventoryFile.isValidIpOrHostname device.2.ip = true) := by
  induction devices with
  | nil => exact fun _ _ => List.forall_mem_nil _
  | cons device rest ih =>
      refine validateEntry_yields.andThen fun _ here => ?_
      apply ih.mono
      exact fun _ fine value ok => List.forall_mem_cons.mpr ⟨here, fine value ok⟩

/-- Every entry has been looked at. -/
theorem load_yields {file : InventoryFile.File}
    (all : ∀ devices, ∀ device ∈ devices, device ∈ crates.hashOrder devices) :
    (@InventoryFile.load _ _ crates policyCrate file).Yields
      (Unless fun loaded => Addressed (logins loaded.inventory)) := by
  rintro (error | content)
  · exact unless_error
  · refine (Prog.yields_unless _).andThen fun loaded _ => ?_
    refine validateAll_yields.andThen fun _ valid => ?_
    rintro _ ⟨⟩ name entry found
    obtain ⟨device, here, same⟩ := List.mem_map.mp (get_mem found)
    cases same
    exact valid device (all _ device here)

end Loading

section Server
variable (crates : ConfirmationCrates) {Who : Type}

/-- What an operation makes of the store. -/
inductive Stored (store : ConfirmationStore) (clock : Clock) :
    (op : ManageOp) → ManageAnswer op → ConfirmationStore → Prop where
  | inventory {inventory : Inventory} :
      Addressed inventory → Stored store clock .inventory inventory store
  | openDevice {router : Text} {answer : Except JmcpError Unit} :
      Stored store clock (.openDevice router) answer store
  | device {op : DeviceOp} {answer : DeviceAnswer op} :
      Stored store clock (.package (.device op)) answer store
  | now {reading : Nat} : Stored store clock (.package .now) reading store
  | sleep {seconds : Nat} : Stored store clock (.package (.sleep seconds)) () store
  | acquire {router workflow correlationId : Text} {answer : Except JmcpError Unit} :
      Stored store clock (.package (.acquire router workflow correlationId)) answer store
  | issue {draws : List (Vector UInt8 32)} {plan : Json} {binding : ConfirmationBinding}
      {requestId : Text} {answer : Except ConfirmationError Json} {after : ConfirmationStore} :
      store.issue crates clock draws plan binding requestId = some (after, answer) →
      Stored store clock (.package (.issue plan binding requestId)) answer after
  | validateBinding {token : Text} {binding : ConfirmationBinding}
      {answer : Except ConfirmationError ValidatedPlan} {after : ConfirmationStore} :
      store.validateBinding crates clock.now token binding = (after, answer) →
      Stored store clock (.package (.validateBinding token binding)) answer after
  | consume {token : Text} {binding : ConfirmationBinding} {plan : Json}
      {answer : Except ConfirmationError ConfirmedPlan} {after : ConfirmationStore} :
      store.consume crates clock.now token binding plan = (after, answer) →
      Stored store clock (.package (.consume token binding plan)) answer after

def packageWorld (who : Who) : World ManageOp ManageAnswer (PackageState Who) where
  answered s op answer s' := ∃ clock store, Stored crates s.store clock op answer store ∧
    s' = ⟨store, s.log ++ [⟨who, op, some answer, clock.now⟩]⟩
  abandoned s op s' := op.Waits ∧ ∃ now, s' = ⟨s.store, s.log ++ [⟨who, op, none, now⟩]⟩

/-- Any family of calls. The devices and the inventory answer as they like. -/
def packageServer (licences : LicenseCrates) (authorizationRequired : Bool)
    (requests : Who → PackageRequest) :
    Calls ManageOp ManageAnswer Who (PackageState Who) (Except ManageError PackageResponse) where
  world := packageWorld crates
  program who := manageSecurityPackage licences authorizationRequired (requests who)
  outside _ _ := False

end Server

/-! ## The device of a token -/

theorem validAddress_plain {ip : Text} (valid : InventoryFile.isValidIpOrHostname ip = true) :
    Plain ip := by
  rcases Bool.or_eq_true_iff.mp valid with address | hostname
  · obtain ⟨_, read⟩ := Option.isSome_iff_exists.mp address
    exact parse_plain read
  · have joined : ['.'].intercalate (ip.splitOn '.') = ip := List.intercalate_splitOn '.'
    have labels := List.all_eq_true.mp (Bool.and_eq_true_iff.mp hostname).2
    rw [← joined]
    apply Plain.intercalate (plain_of_all rfl)
    intro label member c inside
    have each := List.all_eq_true.mp (Bool.and_eq_true_iff.mp (labels label member)).2 c inside
    rcases Bool.or_eq_true_iff.mp each with alphanum | hyphen
    · exact isPlain_alphanum alphanum
    · rw [eq_of_beq hyphen]
      rfl

/-- The two entries name one login at one address. -/
structure SameDevice (entry entry' : DeviceEntry) : Prop where
  ip : entry.ip = entry'.ip
  port : entry.port = entry'.port
  username : entry.username = entry'.username

/-- No part of an identity can run over into the next. -/
theorem identityOf_inj {router : Text} {entry entry' : DeviceEntry}
    (valid : InventoryFile.isValidIpOrHostname entry.ip = true)
    (valid' : InventoryFile.isValidIpOrHostname entry'.ip = true)
    (same : identityOf router entry = identityOf router entry') : SameDevice entry entry' := by
  have bar : isPlain '|' = false := rfl
  have behind := (List.cons.inj (List.append_cancel_left same)).2
  obtain ⟨ip, behind⟩ := (append_visible_inj bar (validAddress_plain valid)
    (validAddress_plain valid')).mp behind
  obtain ⟨port, username⟩ := (append_visible_inj bar (repr_plain _) (repr_plain _)).mp behind
  refine ⟨ip, ?_, username⟩
  rw [Nat.toList_repr, Nat.toList_repr] at port
  rw [← @Nat.ofDigitChars_ten_toDigits entry.port, port, Nat.ofDigitChars_ten_toDigits]

/-! ## Grants -/

/-- The questions of a plan change nothing. -/
inductive OnlyAsks : DeviceOp → Prop where
  | rpc : OnlyAsks .rpc
  | probe {op : DeviceOp} {service : Service} {probe : Probe} :
      probe ∈ planningProbes service.profile → probe.asks op = true → OnlyAsks op

section Grants
variable (crates : ConfirmationCrates) (ttl : Nat) {Who : Type}

/-- The deed showed its caller a plan and a token. -/
inductive Issues : Deed Who → Issue → Prop where
  | shown {who : Who} {plan returned : Json} {binding : ConfirmationBinding}
      {requestId token : Text} {now : Nat} : confirmationToken returned = some token →
      Issues ⟨who, .package (.issue plan binding requestId), some (.ok returned), now⟩
        ⟨token, binding, plan, requestId, now + ttl⟩

/-- The deed consumed a token of this digest. -/
inductive Spends (digest : Sha256) : Deed Who → Prop where
  | consumed {who : Who} {token : Text} {binding : ConfirmationBinding} {plan : Json}
      {confirmed : ConfirmedPlan} {now : Nat} : digestToken crates token = digest →
      Spends digest ⟨who, .package (.consume token binding plan), some (.ok confirmed), now⟩

/-- A token was shown, and consumed by the call before anyone else did. -/
structure Grant (log : List (Deed Who)) (who : Who) where
  before : List (Deed Who)
  shown : Deed Who
  between : List (Deed Who)
  token : Text
  plan : Json
  confirmed : ConfirmedPlan
  now : Nat
  after : List (Deed Who)
  issue : Issue
  log_eq : log = before ++ shown :: (between ++
    ⟨who, .package (.consume token issue.binding plan), some (.ok confirmed), now⟩ :: after)
  issued : Issues ttl shown issue
  same_token : digestToken crates token = digestToken crates issue.token
  same_plan : digestPlan crates plan = digestPlan crates issue.plan
  unexpired : now < issue.expiresAt
  unspent : ∀ deed ∈ between, ¬Spends crates (digestToken crates token) deed

variable {crates ttl} {log log' : List (Deed Who)} {who : Who}

def Grant.extend (grant : Grant crates ttl log who) (more : List (Deed Who)) :
    Grant crates ttl (log ++ more) who :=
  { grant with
    after := grant.after ++ more
    log_eq := by
      have split := congrArg (· ++ more) grant.log_eq
      simpa only [List.append_assoc, List.cons_append] using split }

theorem Grant.mono (grant : Nonempty (Grant crates ttl log who)) (longer : log <+: log') :
    Nonempty (Grant crates ttl log' who) := by
  obtain ⟨grant⟩ := grant
  obtain ⟨more, rfl⟩ := longer
  exact ⟨grant.extend more⟩

theorem Issues.unique {deed : Deed Who} {issue issue' : Issue} (shown : Issues ttl deed issue)
    (shown' : Issues ttl deed issue') : issue = issue' := by
  cases shown with
  | shown token =>
      cases shown' with
      | shown token' =>
          cases token.symm.trans token'
          rfl

theorem Issues.op_eq {deed : Deed Who} {issue : Issue} (shown : Issues ttl deed issue) :
    ∃ requestId, deed.op = .package (.issue issue.plan issue.binding requestId) := by
  cases shown with
  | @shown who plan returned binding requestId token now _ => exact ⟨requestId, rfl⟩

theorem Grant.earlier (grant : Grant crates ttl log who) :
    grant.before ++ grant.shown :: grant.between <+: log := by
  have split := grant.log_eq
  rw [← List.cons_append, ← List.append_assoc] at split
  exact ⟨_, split.symm⟩

/-- Of one deed that shows a token, no two calls have a grant. -/
theorem Grant.own {other : Who} (grant : Grant crates ttl log who)
    (grant' : Grant crates ttl log other) (same : grant'.before.length = grant.before.length) :
    other = who := by
  obtain ⟨_, behind⟩ := List.append_inj (grant'.log_eq.symm.trans grant.log_eq) same
  obtain ⟨shown, behind⟩ := List.cons.inj behind
  have issue : grant'.issue = grant.issue := by
    have issued := grant'.issued
    rw [shown] at issued
    exact issued.unique grant.issued
  have digest : digestToken crates grant'.token = digestToken crates grant.token := by
    rw [grant'.same_token, issue, grant.same_token]
  have unspent := grant'.unspent
  rw [digest] at unspent
  have deed := first_marked_unique (Spends crates (digestToken crates grant.token)) behind
    (.consumed digest) (.consumed rfl) unspent grant.unspent
  exact congrArg Deed.who deed

/-! ### Entries of the store -/

variable (crates ttl) in
/-- The entry was shown in the log, and its token not consumed since. -/
def Unspent (log : List (Deed Who)) (digest : Sha256) (pending : PendingConfirmation) : Prop :=
  ∃ before shown since issue, log = before ++ shown :: since ∧ Issues ttl shown issue ∧
    digest = digestToken crates issue.token ∧ pending = issue.pending crates ∧
    ∀ deed ∈ since, ¬Spends crates digest deed

variable (crates ttl) in
def Backed (log : List (Deed Who)) (store : ConfirmationStore) : Prop :=
  ∀ digest pending, store.entries.lookup digest = some pending → Unspent crates ttl log digest pending

variable {store after : ConfirmationStore} {deed : Deed Who}

theorem Unspent.snoc {digest : Sha256} {pending : PendingConfirmation}
    (unspent : Unspent crates ttl log digest pending) (spared : ¬Spends crates digest deed) :
    Unspent crates ttl (log ++ [deed]) digest pending := by
  obtain ⟨before, shown, since, issue, rfl, issued, token, entry, kept⟩ := unspent
  refine ⟨before, shown, since ++ [deed], issue, ?_, issued, token, entry, ?_⟩
  · simp only [List.append_assoc, List.cons_append]
  · rw [List.forall_mem_append, List.forall_mem_singleton]
    exact ⟨kept, spared⟩

/-- A deed that adds no entry and consumes the token of none that is left. -/
theorem Backed.snoc (backed : Backed crates ttl log store)
    (kept : ∀ digest pending, after.entries.lookup digest = some pending →
      store.entries.lookup digest = some pending)
    (spared : ∀ digest pending, after.entries.lookup digest = some pending →
      ¬Spends crates digest deed) :
    Backed crates ttl (log ++ [deed]) after := fun digest pending found =>
  (backed digest pending (kept digest pending found)).snoc (spared digest pending found)

theorem Backed.issue (backed : Backed crates ttl log store) (same : store.ttl = ttl) {clock : Clock}
    {draws : List (Vector UInt8 32)} {plan : Json} {binding : ConfirmationBinding}
    {requestId : Text} {answer : Except ConfirmationError Json}
    (issued : store.issue crates clock draws plan binding requestId = some (after, answer)) :
    Backed crates ttl
      (log ++ [⟨who, .package (.issue plan binding requestId), some answer, clock.now⟩]) after ∧
      after.ttl = ttl := by
  have spared : ∀ digest, ¬Spends crates digest
      (⟨who, .package (.issue plan binding requestId), some answer, clock.now⟩ : Deed Who) := by
    intro digest spends
    cases spends
  have kept : ∀ digest pending, (retainLive store.entries clock.now).lookup digest = some pending →
      store.entries.lookup digest = some pending := fun _ _ found => (lookup_retainLive.mp found).1
  rcases ConfirmationStore.issue_cases issued with
    ⟨rfl, rfl⟩ | ⟨rfl, rfl⟩ | ⟨returned, token, rfl, shown, fresh, room, rfl⟩
  · exact ⟨backed.snoc (fun _ _ => id) fun _ _ _ => spared _, same⟩
  · exact ⟨backed.snoc kept fun _ _ _ => spared _, same⟩
  · refine ⟨?_, same⟩
    intro digest pending found
    rcases lookup_insert.mp found with ⟨rfl, rfl⟩ | ⟨_, old⟩
    · refine ⟨log, _, [], _, rfl, .shown shown, rfl, ?_, List.forall_mem_nil _⟩
      rw [same]
      rfl
    · exact (backed digest pending (kept digest pending old)).snoc (spared digest)

theorem Backed.step (backed : Backed crates ttl log store) (same : store.ttl = ttl) {clock : Clock}
    {op : ManageOp} {answer : ManageAnswer op} (stored : Stored crates store clock op answer after) :
    Backed crates ttl (log ++ [⟨who, op, some answer, clock.now⟩]) after ∧ after.ttl = ttl := by
  cases stored with
  | issue issued => exact backed.issue same issued
  | validateBinding validated =>
      have presented := ConfirmationStore.validateBinding_presented validated
      refine ⟨backed.snoc (fun _ _ => presented.kept) ?_, presented.length.2.1.trans same⟩
      intro digest pending _ spends
      cases spends
  | @consume token binding plan answer after consumed =>
      have presented := ConfirmationStore.consume_presented consumed
      refine ⟨backed.snoc (fun _ _ => presented.kept) ?_, presented.length.2.1.trans same⟩
      intro digest pending left spends
      cases spends with
      | consumed digests =>
          subst digests
          obtain ⟨entry, found, _, bound, _⟩ := ConfirmationStore.consume_ok consumed
          have there := presented.kept left
          rw [found] at there
          cases there
          exact ConfirmationStore.consume_leaves consumed left bound
  | _ =>
      refine ⟨backed.snoc (fun _ _ => id) ?_, same⟩
      intro digest pending _ spends
      cases spends

theorem Backed.grant (backed : Backed crates ttl log store) {now : Nat} {token : Text}
    {binding : ConfirmationBinding} {plan : Json} {confirmed : ConfirmedPlan}
    (consumed : store.consume crates now token binding plan = (after, .ok confirmed)) :
    Nonempty (Grant crates ttl
      (log ++ [⟨who, .package (.consume token binding plan), some (.ok confirmed), now⟩]) who) := by
  obtain ⟨pending, found, early, bound, planned, _⟩ := ConfirmationStore.consume_ok consumed
  obtain ⟨before, shown, since, issue, rfl, issued, digests, rfl, unspent⟩ :=
    backed _ pending found
  subst bound
  exact ⟨{
    before, shown, between := since, token, plan, confirmed, now, after := [], issue, issued
    unspent, unexpired := early, same_token := digests, same_plan := planned.symm
    log_eq := by
      simp only [List.append_assoc, List.cons_append]
      rfl }⟩

end Grants

/-! ## What a call may do -/

def callerName (request : PackageRequest) : Text :=
  (request.ctx.map CallerCtx.tokenName).getD "unauthenticated".toList

structure Admitted (authorizationRequired : Bool) (request : PackageRequest) : Prop where
  authenticated : authorizationRequired = true → request.ctx ≠ none
  tool : ∀ caller ∈ request.ctx, caller.allowsTool request.tool.name = true
  router : ∀ caller ∈ request.ctx, caller.allowsDevice request.args.router = true

theorem authorizeCall_admitted {authorizationRequired : Bool} {request : PackageRequest}
    {ctx : Option CallerCtx}
    (ok : authorizeCall authorizationRequired request.ctx request.tool.name
      (some request.args.router) = .ok ctx) : Admitted authorizationRequired request := by
  rw [authorizeCall] at ok
  split at ok
  · cases ok
  · rename_i known
    obtain ⟨_, tool, ok⟩ := bind_eq_ok.mp ok
    obtain ⟨_, router, _⟩ := bind_eq_ok.mp ok
    rw [Option.elim_some] at router
    cases caller : request.ctx with
    | none =>
        refine ⟨?_, by rw [caller]; nofun, by rw [caller]; nofun⟩
        intro required
        rw [required, caller] at known
        exact absurd rfl known
    | some ctx =>
        rw [caller, checkSrxToolScope] at tool
        rw [caller, checkSrxRouterScope] at router
        refine ⟨by rw [caller]; nofun, ?_, ?_⟩
        · rw [caller]
          rintro _ ⟨⟩
          by_contra outside
          rw [if_neg outside] at tool
          cases tool
        · rw [caller]
          rintro _ ⟨⟩
          by_contra outside
          rw [if_neg outside] at router
          cases router

def PackageTool.actionName : PackageTool → Text
  | .idp .checkServer | .appid .checkServer => "check_server".toList
  | .idp .downloadAndInstall | .appid .downloadAndInstall => "download_and_install".toList
  | .idp .rollback => "rollback".toList
  | .appid .uninstall => "uninstall".toList

/-- The plan names the action and the service. -/
def PackageTool.Shows (tool : PackageTool) (plan : Json) : Prop :=
  textMember "action" plan = some tool.actionName ∧
    textMember "service" plan = some tool.service.name

theorem PackageTool.shows_inj {tool tool' : PackageTool} {plan : Json} (shows : tool.Shows plan)
    (shows' : tool'.Shows plan) : tool = tool' := by
  have action : tool.actionName = tool'.actionName := Option.some.inj (shows.1.symm.trans shows'.1)
  have service : tool.service = tool'.service :=
    Service.name_injective (Option.some.inj (shows.2.symm.trans shows'.2))
  revert action service
  rcases tool with action | action <;> rcases tool' with action' | action' <;>
    cases action <;> cases action' <;> decide

section Calls
variable (crates : ConfirmationCrates) (ttl : Nat) (authorizationRequired : Bool) {Who : Type}
  (requests : Who → PackageRequest)

/-- The call has read the device's entry. -/
def Looked (log : List (Deed Who)) (who : Who) (entry : DeviceEntry) : Prop :=
  ∃ inventory now, ⟨who, .inventory, some inventory, now⟩ ∈ log ∧
    inventory.get (requests who).args.router = .ok entry ∧
    InventoryFile.isValidIpOrHostname entry.ip = true

/-- The binding is the call's own, for the device as the call has read it. -/
def Bound (log : List (Deed Who)) (who : Who) (binding : ConfirmationBinding) : Prop :=
  ∃ entry, Looked requests log who entry ∧ binding = ⟨callerName (requests who),
    (requests who).args.router, identityOf (requests who).args.router entry⟩

inductive Permitted (log : List (Deed Who)) (who : Who) : ManageOp → Prop where
  | inventory : Permitted log who .inventory
  | openDevice : Permitted log who (.openDevice (requests who).args.router)
  | asking {op : DeviceOp} : OnlyAsks op → Permitted log who (.package (.device op))
  | granted {op : DeviceOp} : Nonempty (Grant crates ttl log who) →
      Permitted log who (.package (.device op))
  | now : Permitted log who (.package .now)
  | sleep (seconds : Nat) : Permitted log who (.package (.sleep seconds))
  | acquire (workflow correlationId : Text) :
      Permitted log who (.package (.acquire (requests who).args.router workflow correlationId))
  | issue {plan : Json} {binding : ConfirmationBinding} {requestId : Text} :
      Bound requests log who binding → (requests who).tool.Shows plan →
      Permitted log who (.package (.issue plan binding requestId))
  | validateBinding {token : Text} {binding : ConfirmationBinding} :
      Bound requests log who binding →
      Permitted log who (.package (.validateBinding token binding))
  | consume {token : Text} {binding : ConfirmationBinding} {plan : Json} :
      Bound requests log who binding → (requests who).tool.Shows plan →
      confirmationTokenForRequest (requests who).args.confirm
        (requests who).args.confirmationToken (requests who).args.router = .ok (some token) →
      Permitted log who (.package (.consume token binding plan))

/-- The deed was in order when it was done. -/
def Justified (log : List (Deed Who)) (deed : Deed Who) : Prop :=
  Admitted authorizationRequired (requests deed.who) ∧
    Permitted crates ttl requests log deed.who deed.op

structure Sound (s : PackageState Who) : Prop where
  ttl_eq : s.store.ttl = ttl
  backed : Backed crates ttl s.log s.store
  ledger : Ledger (Justified crates ttl authorizationRequired requests) s.log

variable {crates ttl authorizationRequired requests} {log log' : List (Deed Who)} {who : Who}

theorem Looked.valid {entry : DeviceEntry} (looked : Looked requests log who entry) :
    InventoryFile.isValidIpOrHostname entry.ip = true := by
  obtain ⟨_, _, _, _, valid⟩ := looked
  exact valid

theorem Looked.mono {entry : DeviceEntry} (looked : Looked requests log who entry)
    (longer : log <+: log') : Looked requests log' who entry := by
  obtain ⟨inventory, now, member, found, valid⟩ := looked
  exact ⟨inventory, now, longer.subset member, found, valid⟩

theorem Bound.mono {binding : ConfirmationBinding} (bound : Bound requests log who binding)
    (longer : log <+: log') : Bound requests log' who binding := by
  obtain ⟨entry, looked, same⟩ := bound
  exact ⟨entry, looked.mono longer, same⟩

variable (authorizationRequired requests) in
/-- The same caller was shown the token for the same device, and presented it. -/
structure Sanctioned (grant : Grant crates ttl log who) : Prop where
  admitted : Admitted authorizationRequired (requests who)
  shown_admitted : Admitted authorizationRequired (requests grant.shown.who)
  caller : callerName (requests grant.shown.who) = callerName (requests who)
  router : (requests grant.shown.who).args.router = (requests who).args.router
  device : ∃ entry entry', Looked requests grant.before grant.shown.who entry ∧
    Looked requests log who entry' ∧ SameDevice entry entry'
  presented : confirmationTokenForRequest (requests who).args.confirm
    (requests who).args.confirmationToken (requests who).args.router = .ok (some grant.token)
  tool : grant.issue.plan = grant.plan → (requests grant.shown.who).tool = (requests who).tool

theorem Sound.sanctioned {s : PackageState Who}
    (sound : Sound crates ttl authorizationRequired requests s) (longer : log <+: s.log)
    (grant : Grant crates ttl log who) : Sanctioned authorizationRequired requests grant := by
  obtain ⟨after, split⟩ := longer
  rw [grant.log_eq, List.append_assoc, List.cons_append] at split
  obtain ⟨shown_admitted, showing⟩ := sound.ledger.justified split.symm
  rw [List.append_assoc, List.cons_append, ← List.cons_append, ← List.append_assoc] at split
  obtain ⟨admitted, consuming⟩ := sound.ledger.justified split.symm
  obtain ⟨requestId, op⟩ := grant.issued.op_eq
  rw [op] at showing
  cases showing with
  | issue shownBound shownPlan =>
      cases consuming with
      | consume bound plan presented =>
          obtain ⟨entry, looked, shownBinding⟩ := shownBound
          obtain ⟨entry', looked', binding⟩ := bound
          injection shownBinding.symm.trans binding with caller router identity
          rw [router] at identity
          refine ⟨admitted, shown_admitted, caller, router, ?_, presented, ?_⟩
          · exact ⟨entry, entry', looked, looked'.mono grant.earlier,
              identityOf_inj looked.valid looked'.valid identity⟩
          · intro same
            rw [← same] at plan
            exact PackageTool.shows_inj shownPlan plan

variable (crates ttl authorizationRequired requests) in
/-- Others only add to the log. -/
def packagePact : Pact (@packageWorld crates Who) (fun _ _ => False) where
  inv := Sound crates ttl authorizationRequired requests
  rely _ s t := s.log <+: t.log
  allowed who s op := Admitted authorizationRequired (requests who) ∧
    Permitted crates ttl requests s.log who op
  refl _ _ := List.prefix_rfl
  trans := List.IsPrefix.trans
  answered := by
    rintro who s op answer s' sound allowed ⟨clock, store, stored, rfl⟩
    obtain ⟨backed, same⟩ := sound.backed.step sound.ttl_eq stored
    exact ⟨⟨same, backed, sound.ledger.snoc allowed⟩, fun _ _ => prefix_snoc⟩
  abandoned := by
    rintro who s op s' sound allowed ⟨_, now, rfl⟩
    have spared : ∀ digest, ¬Spends crates digest (⟨who, op, none, now⟩ : Deed Who) := by
      intro digest spends
      cases spends
    refine ⟨⟨sound.ttl_eq, sound.backed.snoc (fun _ _ => id) fun _ _ _ => spared _,
      sound.ledger.snoc allowed⟩, fun _ _ => prefix_snoc⟩
  outside _ gone := gone.elim

end Calls

end JunosMcp.Srx
