import JunosMcp.CandidateLifecycle
import JunosMcp.Upgrade.Run

/-!
# Devices of another management plane

What the tools that commit directly can send to a device whose configuration another plane owns,
while plane-owned writes are not allowed.
-/

namespace JunosMcp
open Lib ChangeSet

/-! ## Writes -/

def CandidateMode.commits : CandidateMode → Bool
  | .commitWithComment _ | .commitConfirmed _ => true
  | .dryRun | .commitCheck | .discard => false

def BackendCall.writes : BackendCall → Bool
  | .load .. | .loadRollback _ | .commitWithComment _ | .commitConfirmed _ => true
  | .lock | .diff | .commitCheck | .rollback | .unlock => false

def requestPrefix : Text := "request ".toList

/-- The event sent the device an RPC that can change its running configuration: a load or a commit
of a transaction that commits, or a `request` command such as the install. -/
inductive Writes (cleanupTimeout : Duration) (device : Text) : ToolEvent → Prop where
  | transaction {request : CandidateRequest} {timeout : Duration} {trace : BackendTrace}
      {execution : Execution} {event : BackendEvent} {call : BackendCall} :
      request.mode.commits = true →
      Returns (execute request timeout cleanupTimeout) trace execution → event ∈ trace →
      event.1.sends = some call → call.writes = true →
      Writes cleanupTimeout device ⟨.bare (.transaction device request timeout), execution.result⟩
  | command {op : ToolOp} {reply : ToolRes op} {command : Text} :
      op.sends = some (.cli device command) → Text.startsWith command requestPrefix = true →
      Writes cleanupTimeout device ⟨op, reply⟩

/-- Operations that no answer makes a write. -/
def Harmless (device : Text) : ToolOp → Prop
  | .ensureActive => True
  | .bare call | .timed call | .raced call => match call with
      | .transaction target request _ => target = device → request.mode.commits = false
      | .cli target command => target = device → Text.startsWith command requestPrefix = false
      | _ => True

theorem Harmless.not_writes {cleanupTimeout : Duration} {device : Text} {event : ToolEvent}
    (harmless : Harmless device event.1) : ¬Writes cleanupTimeout device event := by
  intro writes
  cases writes with
  | transaction commits =>
      have none : _ = false := harmless rfl
      rw [none] at commits
      cases commits
  | @command op _ command sends isRequest =>
      have none : Text.startsWith command requestPrefix = false := by
        cases op with
        | ensureActive => cases sends
        | bare call => cases sends; exact harmless rfl
        | timed call => cases sends; exact harmless rfl
        | raced call => cases sends; exact harmless rfl
      rw [none] at isRequest
      cases isRequest

/-! ## The four tools -/

inductive DirectCommit where
  | loadCommit (args : LoadCommitArgs)
  | rollback (args : RollbackConfigArgs)
  | template (args : TemplateArgs)
  | upgrade (request : Upgrade.UpgradeRequest) (badByte : Text → Text)

/-- The call can go this way. -/
def DirectCommit.Goes (context : Upgrade.UpgradeContext) : DirectCommit → ToolTrace → Prop
  | .loadCommit args, trace =>
      ∃ report, Returns (loadAndCommitConfig context.toToolContext args) trace report
  | .rollback args, trace =>
      ∃ report, Returns (rollbackConfig context.toToolContext args) trace report
  | .template args, trace =>
      ∃ report, Returns (renderAndApplyTemplate context.toToolContext args) trace report
  | .upgrade request badByte, trace =>
      ∃ report, Returns (Upgrade.upgradeJunos context request badByte) trace report

def PlaneOwned (context : ToolContext) (device : Text) : Prop :=
  ∃ entry, context.inventory device = .ok entry ∧ entry.configAuthority ≠ .local ∧
    entry.configAuthority ≠ .unknown

/-- The loop comes to the device, and the policy allows the text on it. -/
def ReachedIn (context : ToolContext) (plan : TemplatePlan) (device : Text)
    (devices : List Text) : Prop :=
  ∃ before after, devices = before ++ device :: after ∧
    (∀ earlier ∈ before, ∃ decision,
      context.checkConfig earlier plan.format plan.rendered = .ok decision) ∧
    context.checkConfig device plan.format plan.rendered = .ok .allow

/-- A template call that gets to the commit on the device: it passes its own checks, it is to apply
and no dry run, its window is in range, and the policy does not stop it. -/
def CommitsTemplate (context : ToolContext) (args : TemplateArgs) (device : Text) : Prop :=
  args.applyConfig = true ∧ args.dryRun = false ∧ ∃ plan mode,
    templatePlan context args = .ok plan ∧ commitOneMode context args = .ok mode ∧
      ReachedIn context plan device plan.devices

/-! ## What the checks refuse -/

section Refused
variable {context : ToolContext} {device : Text} (owned : PlaneOwned context device)
  (refused : context.allowPlaneOwnedWrites = false)

theorem PlaneOwned.check {entry : ToolDevice} (owned : PlaneOwned context device)
    (refused : context.allowPlaneOwnedWrites = false)
    (found : context.inventory device = .ok entry) (tool : Text) :
    checkPlaneOwnedOperation tool device entry.configAuthority context.allowPlaneOwnedWrites =
      .error (.planeOwnedDevice tool device entry.configAuthority.name) := by
  obtain ⟨entry', found', notLocal, notUnknown⟩ := owned
  rw [found] at found'
  cases found'
  rw [refused]
  cases authority : entry.configAuthority with
  | «local» => exact absurd authority notLocal
  | unknown => exact absurd authority notUnknown
  | mist => rfl
  | securityDirectorCloud => rfl
  | securityDirectorOnprem => rfl

theorem noticeFor_harmless (confirmed : Option Nat) :
    (noticeFor confirmed).Performs (Harmless device) := by
  cases confirmed with
  | none => trivial
  | some mins => exact ⟨trivial, fun _ => trivial⟩

include owned refused in
theorem loadCommitPlan_elsewhere {args : LoadCommitArgs} {plan : CommitPlan}
    (planned : loadCommitPlan context args = .ok plan) : args.device ≠ device := by
  rintro rfl
  obtain ⟨entry, _, _, _, _, found, owner, _⟩ := loadCommitPlan_ok planned
  rw [owned.check refused found] at owner
  cases owner

include owned refused in
theorem rollbackPlan_mode {args : RollbackConfigArgs} {plan : CommitPlan}
    (planned : rollbackPlan context args = .ok plan) (same : args.device = device) :
    plan.request.mode.commits = false := by
  subst same
  obtain ⟨entry, version, mode, found, request, owner, preview⟩ := rollbackPlan_ok planned
  rw [request]
  cases commit : args.commit with
  | true =>
      obtain ⟨allowed, _⟩ := owner commit
      rw [owned.check refused found] at allowed
      cases allowed
  | false => rw [(preview commit).1]; rfl

include owned refused in
theorem loadCommit_harmless (args : LoadCommitArgs) :
    (loadAndCommitConfig context args).Performs (Harmless device) := by
  rw [loadAndCommitConfig]
  cases planned : loadCommitPlan context args with
  | error error => trivial
  | ok plan =>
      have elsewhere := loadCommitPlan_elsewhere owned refused planned
      refine ⟨fun same => absurd same elsewhere, ?_⟩
      intro reply
      cases reply with
      | error error => trivial
      | ok result =>
          cases result with
          | committed diff => exact (noticeFor_harmless plan.confirmed).bind fun _ => trivial
          | _ => trivial

include owned refused in
theorem rollback_harmless (args : RollbackConfigArgs) :
    (rollbackConfig context args).Performs (Harmless device) := by
  rw [rollbackConfig]
  cases planned : rollbackPlan context args with
  | error error => trivial
  | ok plan =>
      refine ⟨rollbackPlan_mode owned refused planned, ?_⟩
      intro reply
      cases reply with
      | error error => trivial
      | ok result =>
          cases result with
          | committed diff => exact (noticeFor_harmless plan.confirmed).bind fun _ => trivial
          | _ => trivial

end Refused

/-! ## Upgrades -/

section Upgrades
variable {context : Upgrade.UpgradeContext} {request : Upgrade.UpgradeRequest} {device : Text}

theorem request_of_show {command : Text} (shows : Text.startsWith command Upgrade.showPrefix = true) :
    Text.startsWith command requestPrefix = false := by
  cases command with
  | nil => rfl
  | cons c rest =>
      cases starts : Text.startsWith (c :: rest) requestPrefix with
      | false => rfl
      | true =>
          have isS : 's' = c := Text.startsWith_head shows
          have isR : 'r' = c := Text.startsWith_head starts
          rw [← isR] at isS
          exact absurd isS (by decide)

theorem reads_harmless {op : ToolOp} (reads : Upgrade.Sends Upgrade.Shows request.device op) :
    Harmless device op := by
  have call (call : ToolCall) (reads : Upgrade.Sends Upgrade.Shows request.device (.bare call)) :
      Harmless device (.bare call) := by
    cases call with
    | transaction target request timeout => exact reads.elim
    | cli target command => exact fun _ => request_of_show reads.2
    | _ => trivial
  cases op with
  | ensureActive => trivial
  | bare sent => exact call sent reads
  | timed sent => exact call sent reads
  | raced sent => exact call sent reads

theorem works_harmless (elsewhere : request.device ≠ device) {op : ToolOp}
    (works : Upgrade.Works request op) : Harmless device op := by
  rcases works with reads | rfl
  · exact reads_harmless reads
  · exact fun same => absurd same elsewhere

theorem upgrade_harmless (owned : PlaneOwned context.toToolContext device)
    (refused : context.allowPlaneOwnedWrites = false) (badByte : Text → Text) :
    (Upgrade.upgradeJunos context request badByte).Performs (Harmless device) := by
  have checked : (Upgrade.orFail (.pure (Upgrade.checkRequest context request badByte))
      (Upgrade.upgradeChecked context request)).Performs (Harmless device) := by
    cases ok : Upgrade.checkRequest context request badByte with
    | error error => trivial
    | ok warning =>
        have elsewhere : request.device ≠ device := by
          rintro rfl
          rw [Upgrade.checkRequest] at ok
          obtain ⟨_, _, ok⟩ := bind_eq_ok.mp ok
          obtain ⟨entry, found, ok⟩ := bind_eq_ok.mp ok
          obtain ⟨_, _, owner⟩ := bind_eq_ok.mp ok
          rw [owned.check refused found] at owner
          cases owner
        exact Upgrade.upgradeChecked_works.mono fun _ => works_harmless elsewhere
  refine ⟨trivial, fun activity => ?_⟩
  cases activity with
  | cancelled => trivial
  | active => exact checked
  | expired => exact checked

end Upgrades

/-! ## Templates -/

theorem commitMode_commits {defaultMins : Nat} {mins : Option Nat} {comment : Text}
    {mode : CandidateMode} {confirmed : Option Nat}
    (ok : commitMode defaultMins mins comment = .ok (mode, confirmed)) : mode.commits = true := by
  rw [commitMode] at ok
  cases window : resolveConfirmTimeout defaultMins mins with
  | confirmed mins =>
      rw [window] at ok
      obtain ⟨secs, _, ok⟩ := bind_eq_ok.mp ok
      cases ok
      rfl
  | optedOut =>
      rw [window] at ok
      cases ok
      rfl

section Templates
variable {context : ToolContext} {args : TemplateArgs} {plan : TemplatePlan}
  {payload : ConfigPayload} {device : Text}

theorem reachedIn_cons {next : Text} {rest : List Text} :
    ReachedIn context plan device (next :: rest) ↔
      (next = device ∧ context.checkConfig device plan.format plan.rendered = .ok .allow) ∨
      (∃ decision, context.checkConfig next plan.format plan.rendered = .ok decision) ∧
        ReachedIn context plan device rest := by
  constructor
  · rintro ⟨before, after, same, answered, allowed⟩
    cases before with
    | nil =>
        cases same
        exact .inl ⟨rfl, allowed⟩
    | cons first before =>
        cases same
        refine .inr ⟨answered _ List.mem_cons_self, before, after, rfl, ?_, allowed⟩
        exact fun earlier member => answered earlier (List.mem_cons_of_mem _ member)
  · rintro (⟨rfl, allowed⟩ | ⟨here, before, after, rfl, answered, allowed⟩)
    · exact ⟨[], rest, rfl, by simp, allowed⟩
    · refine ⟨next :: before, after, rfl, ?_, allowed⟩
      intro earlier member
      rcases List.mem_cons.mp member with rfl | later
      · exact here
      · exact answered earlier later

theorem reportDevice_harmless {target : Text} {confirmed : Option Nat}
    (reply : Except JmcpError CandidateResult) :
    (reportDevice args plan target confirmed reply).Performs (Harmless device) := by
  cases reply with
  | error error => cases error <;> trivial
  | ok result =>
      cases result with
      | committed diff => exact (noticeFor_harmless confirmed).bind fun _ => trivial
      | _ => trivial

theorem commitOne_harmless {target : Text}
    (safe : target = device → ∀ mode, commitOneMode context args = .ok mode →
      mode.1.commits = false) :
    (commitOne context args plan payload target).Performs (Harmless device) := by
  rw [commitOne]
  cases asked : commitOneMode context args with
  | error error => trivial
  | ok mode => exact ⟨fun same => safe same mode asked, fun reply => reportDevice_harmless reply⟩

/-- Short of the device, or without a commit, nothing is written to it. -/
theorem applyDevices_harmless {devices : List Text}
    (safe : ReachedIn context plan device devices → ∀ mode,
      commitOneMode context args = .ok mode → mode.1.commits = false) :
    (applyDevices context args plan payload devices).Performs (Harmless device) := by
  induction devices with
  | nil => trivial
  | cons next rest ih =>
      rw [applyDevices, applyDevice]
      cases verdict : context.checkConfig next plan.format plan.rendered with
      | error error => trivial
      | ok decision =>
          have later : (applyDevices context args plan payload rest).Performs
              (Harmless device) := by
            apply ih
            intro reached
            exact safe (reachedIn_cons.mpr (.inr ⟨⟨decision, verdict⟩, reached⟩))
          have rows (row : TemplateRow) :
              ((applyDevices context args plan payload rest).andThen fun rows =>
                .pure (.ok (row :: rows)) : ToolProg (Except JmcpError (List TemplateRow))).Performs
                (Harmless device) := later.andThen fun _ => trivial
          cases decision with
          | allow =>
              refine (commitOne_harmless ?_).andThen rows
              intro same
              rw [same] at verdict
              exact safe (reachedIn_cons.mpr (.inl ⟨same, verdict⟩))
          | deny pattern ruleSource lineNumber => exact rows _
          | denyAllowlist => exact rows _

theorem template_harmless (safe : ¬CommitsTemplate context args device) :
    (renderAndApplyTemplate context args).Performs (Harmless device) := by
  rw [renderAndApplyTemplate]
  cases planned : templatePlan context args with
  | error error => trivial
  | ok plan =>
      simp only [applyPlan]
      cases apply : args.applyConfig with
      | false => trivial
      | true =>
          cases buildConfigPayload plan.rendered (some plan.format) with
          | error error => trivial
          | ok payload =>
              refine (applyDevices_harmless ?_).andThen fun _ => trivial
              intro reached mode asked
              cases dry : args.dryRun with
              | false => exact absurd ⟨apply, dry, plan, mode, planned, asked, reached⟩ safe
              | true =>
                  rw [commitOneMode, if_pos dry] at asked
                  cases asked
                  rfl

end Templates

/-! ## A template that commits -/

def loadedRun (payload : ConfigPayload) (action : LoadAction) : BackendTrace :=
  [⟨.ensureActive, Activity.active⟩, ⟨.raced .lock, Raced.completed (.ok ())⟩,
   ⟨.ensureActive, Activity.active⟩, ⟨.raced (.load payload action), Raced.completed (.ok ())⟩,
   ⟨.ensureActive, Activity.active⟩, ⟨.raced .diff, Raced.completed (.ok [])⟩,
   ⟨.ensureActive, Activity.active⟩]

def unlocked : BackendEvent := ⟨.timed .unlock, Timed.completed (.ok ())⟩

def committedExecution : Execution := ⟨.ok (.committed []), true⟩

/-- Where every step goes well, a commit is sent. -/
theorem execute_commits (payload : ConfigPayload) (action : LoadAction) {mode : CandidateMode}
    (commits : mode.commits = true) (timeout cleanupTimeout : Duration) :
    ∃ commit : BackendEvent, ∃ call, commit.1.sends = some call ∧ call.writes = true ∧
      Returns (execute ⟨some payload, none, mode, action⟩ timeout cleanupTimeout)
        (loadedRun payload action ++ [commit, unlocked]) committedExecution := by
  cases mode with
  | commitWithComment comment =>
      refine ⟨⟨.bare (.commitWithComment comment), (.ok () : Except JmcpError Unit)⟩, _, rfl, rfl, ?_⟩
      exact .step (.step (.step (.step (.step (.step (.step (.step (.step (.pure _)))))))))
  | commitConfirmed seconds =>
      refine ⟨⟨.bare (.commitConfirmed seconds), (.ok () : Except JmcpError Unit)⟩, _, rfl, rfl, ?_⟩
      exact .step (.step (.step (.step (.step (.step (.step (.step (.step (.pure _)))))))))
  | dryRun => cases commits
  | commitCheck => cases commits
  | discard => cases commits

section Commits
variable {context : ToolContext} {args : TemplateArgs} {plan : TemplatePlan}
  {payload : ConfigPayload} {device : Text} {mode : CandidateMode × Option Nat}

instance answered (op : ToolOp) : Nonempty (ToolRes op) := by
  have reply : ∀ call : ToolCall, Nonempty call.Reply := by
    intro call
    cases call with
    | now => exact ⟨(0 : Nat)⟩
    | stagedFile basename => exact ⟨(none : Option FileKind)⟩
    | digest basename => exact ⟨(.error .cancelled : Except JmcpError Nat)⟩
    | transaction device request timeout =>
        exact ⟨(.error .cancelled : Except JmcpError CandidateResult)⟩
    | cli device command => exact ⟨(.ok [] : Except RustEzError Text)⟩
    | waitForVersion device target => exact ⟨(.error .cancelled : Except JmcpError Text)⟩
    | _ => exact ⟨(.error .cancelled : Except JmcpError Unit)⟩
  cases op with
  | ensureActive => exact ⟨Activity.active⟩
  | bare call => exact reply call
  | timed call => exact ⟨Timed.elapsed⟩
  | raced call => exact ⟨Raced.elapsed⟩

/-- The loop goes on after a device that the policy has an answer for. -/
theorem applyDevice_goes_on (payload : ConfigPayload) {target : Text} {decision : Decision}
    (asked : commitOneMode context args = .ok mode)
    (verdict : context.checkConfig target plan.format plan.rendered = .ok decision) :
    ∃ trace row, Returns (applyDevice context args plan payload target) trace (.ok row) := by
  rw [applyDevice, verdict]
  cases decision with
  | deny pattern ruleSource lineNumber => exact ⟨_, _, .pure _⟩
  | denyAllowlist => exact ⟨_, _, .pure _⟩
  | allow =>
      simp only [commitOne, asked]
      exact ⟨[⟨.bare (.transaction target _ _),
        (.ok (.commitFailed [] []) : Except JmcpError CandidateResult)⟩], _, .step (.pure _)⟩

theorem applyDevice_writes (asked : commitOneMode context args = .ok mode)
    (commits : mode.1.commits = true)
    (verdict : context.checkConfig device plan.format plan.rendered = .ok .allow)
    (cleanupTimeout : Duration) :
    ∃ trace row, Returns (applyDevice context args plan payload device) trace (.ok row) ∧
      ∃ event ∈ trace, Writes cleanupTimeout device event := by
  rw [applyDevice, verdict]
  simp only [commitOne, asked]
  obtain ⟨commit, call, sends, writes, run⟩ :=
    execute_commits payload plan.loadAction commits args.timeout cleanupTimeout
  obtain ⟨trace, notice, noticed⟩ := exists_returns (noticeFor mode.2)
  have reported : ∃ row, Returns (reportDevice args plan device mode.2 committedExecution.result)
      trace (.ok row) :=
    ⟨_, returns_bind.mpr ⟨trace, [], notice, (List.append_nil _).symm, noticed, .pure _⟩⟩
  obtain ⟨row, reported⟩ := reported
  exact ⟨_, row, .step reported, _, List.mem_cons_self,
    .transaction commits run (List.mem_append_right _ List.mem_cons_self) sends writes⟩

/-- One who is reached is written, however many come before. -/
theorem applyDevices_writes (payload : ConfigPayload) (asked : commitOneMode context args = .ok mode)
    (commits : mode.1.commits = true) (cleanupTimeout : Duration) {devices : List Text}
    (reached : ReachedIn context plan device devices) :
    ∃ trace rows, Returns (applyDevices context args plan payload devices) trace rows ∧
      ∃ event ∈ trace, Writes cleanupTimeout device event := by
  induction devices with
  | nil =>
      obtain ⟨before, after, same, _⟩ := reached
      simp at same
  | cons next rest ih =>
      rw [applyDevices]
      rcases reachedIn_cons.mp reached with ⟨rfl, allowed⟩ | ⟨⟨decision, verdict⟩, reached⟩
      · obtain ⟨trace, row, here, event, member, writes⟩ :=
          applyDevice_writes asked commits allowed cleanupTimeout
        obtain ⟨later, rows, returns⟩ := here.continues _
        exact ⟨trace ++ later, rows, returns, event, List.mem_append_left _ member, writes⟩
      · obtain ⟨before, row, here⟩ := applyDevice_goes_on payload asked verdict
        obtain ⟨trace, rows, rest, event, member, writes⟩ := ih reached
        obtain ⟨later, result, returns⟩ := rest.continues _
        exact ⟨before ++ (trace ++ later), result, returns_andThen_ok here returns, event,
          List.mem_append_right _ (List.mem_append_left _ member), writes⟩

theorem template_writes (commits : CommitsTemplate context args device)
    (cleanupTimeout : Duration) :
    ∃ trace report, Returns (renderAndApplyTemplate context args) trace report ∧
      ∃ event ∈ trace, Writes cleanupTimeout device event := by
  obtain ⟨apply, wet, plan, mode, planned, asked, reached⟩ := commits
  have committing : mode.1.commits = true := by
    rw [commitOneMode, if_neg (by simp [wet])] at asked
    exact commitMode_commits asked
  obtain ⟨payload, built⟩ := templatePlan_payload planned
  obtain ⟨trace, rows, here, event, member, writes⟩ :=
    applyDevices_writes payload asked committing cleanupTimeout reached
  obtain ⟨later, report, returns⟩ := here.continues _
  refine ⟨trace ++ later, report, ?_, event, List.mem_append_left _ member, writes⟩
  rw [renderAndApplyTemplate, planned]
  simp only [applyPlan, apply, built, if_true]
  exact returns

end Commits

/-! ## The four tools together -/

theorem DirectCommit.harmless {context : Upgrade.UpgradeContext} {device : Text}
    {call : DirectCommit} {trace : ToolTrace} (owned : PlaneOwned context.toToolContext device)
    (refused : context.allowPlaneOwnedWrites = false)
    (safe : ∀ args, call = .template args → ¬CommitsTemplate context.toToolContext args device)
    (goes : call.Goes context trace) : ∀ event ∈ trace, Harmless device event.1 := by
  cases call with
  | loadCommit args =>
      obtain ⟨report, returns⟩ := goes
      exact returns.allowed (loadCommit_harmless owned refused args)
  | rollback args =>
      obtain ⟨report, returns⟩ := goes
      exact returns.allowed (rollback_harmless owned refused args)
  | template args =>
      obtain ⟨report, returns⟩ := goes
      exact returns.allowed (template_harmless (safe args rfl))
  | upgrade request badByte =>
      obtain ⟨report, returns⟩ := goes
      exact returns.allowed (upgrade_harmless owned refused badByte)

/-- Three of the tools never write to a device of another plane; the template tool does whenever it
gets to the commit. -/
theorem plane_owned_untouched_iff (context : Upgrade.UpgradeContext) (device : Text)
    (call : DirectCommit) (cleanupTimeout : Duration)
    (owned : PlaneOwned context.toToolContext device)
    (refused : context.allowPlaneOwnedWrites = false) :
    (∀ trace, call.Goes context trace → ∀ event ∈ trace, ¬Writes cleanupTimeout device event) ↔
      ∀ args, call = .template args → ¬CommitsTemplate context.toToolContext args device := by
  constructor
  · rintro untouched args rfl commits
    obtain ⟨trace, report, returns, event, member, writes⟩ := template_writes commits cleanupTimeout
    exact untouched trace ⟨report, returns⟩ event member writes
  · intro safe trace goes event member
    exact (DirectCommit.harmless owned refused safe goes event member).not_writes

/-! ## A campus of two devices -/

def edge : Text := "edge".toList

def access : Text := "access".toList

/-- A template without expressions renders to itself. -/
def plainEngine : TemplateEngine where
  Vars := Unit
  fromStr _ := .ok (some ())
  templateFromStr _ := .ok ()
  render content _ := .ok content

def campus : Upgrade.UpgradeContext where
  inventory name :=
    if name = edge then .ok ⟨⟨"192.0.2.1".toList, 830, .local⟩, .sshKey⟩
    else if name = access then .ok ⟨⟨"192.0.2.2".toList, 830, .mist⟩, .sshKey⟩
    else .error (.unknownRouter name)
  checkConfig _ _ _ := .ok .allow
  hasConfigRulesFor _ := false
  commitConfirmDefaultMins := 10
  allowPlaneOwnedWrites := false
  engine := plainEngine
  stagingDir := "/var/lib/jmcp/staging".toList
  parseF64Scaled _ _ := none

theorem access_owned : PlaneOwned campus.toToolContext access :=
  ⟨⟨⟨"192.0.2.2".toList, 830, .mist⟩, .sshKey⟩, rfl, nofun, nofun⟩

def bannerLoad : LoadCommitArgs where
  device := access
  configText := "set system login message hello".toList
  configFormat := "set".toList
  mode := "merge".toList
  commitComment := []
  confirmTimeoutMins := none
  timeout := 60

theorem load_on_access_refused : PlaneOwned campus.toToolContext access ∧
    ∀ trace, (DirectCommit.loadCommit bannerLoad).Goes campus trace →
      ∀ event ∈ trace, ¬Writes 10 access event :=
  ⟨access_owned,
    (plane_owned_untouched_iff campus access (.loadCommit bannerLoad) 10 access_owned rfl).mpr
      nofun⟩

def bannerTemplate : TemplateArgs where
  templateContent := bannerLoad.configText
  varsContent := "\x7b\x7d".toList
  deviceName := none
  deviceNames := some [edge, access]
  applyConfig := true
  commitComment := []
  dryRun := false
  configFormat := none
  mode := "merge".toList
  confirmTimeoutMins := none
  timeout := 60

/-- The same text through the template tool is committed. -/
theorem template_on_access_commits : PlaneOwned campus.toToolContext access ∧
    campus.allowPlaneOwnedWrites = false ∧
    ∃ trace, (DirectCommit.template bannerTemplate).Goes campus trace ∧
      ∃ event ∈ trace, Writes 10 access event := by
  refine ⟨access_owned, rfl, ?_⟩
  have commits : CommitsTemplate campus.toToolContext bannerTemplate access := by
    refine ⟨rfl, rfl, ⟨[edge, access], bannerLoad.configText, "set".toList, .set⟩,
      (.commitConfirmed 600, some 10), rfl, rfl, [edge], [], rfl, ?_, rfl⟩
    exact fun earlier _ => ⟨.allow, rfl⟩
  obtain ⟨trace, report, returns, written⟩ := template_writes commits 10
  exact ⟨trace, ⟨report, returns⟩, written⟩

end JunosMcp
