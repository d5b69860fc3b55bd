import JunosMcp.BatchRun
import JunosMcp.ReviewedCommits

/-!
# What a token confines

Every scope a request needs is checked before its tool does anything. From there on the tool names
no device but those of the request, and asks for change sets and operations under the caller's own
name.
-/

namespace JunosMcp
open Lib ChangeSet

/-! ## Names in a call -/

def ToolCall.namedDevice : ToolCall → Option Text
  | .transaction device .. | .openSession device | .openFresh device | .cli device _
  | .lease device | .transfer device .. | .waitForVersion device _ => some device
  | .now | .stagedFile _ | .digest _ => none

def ChangeSet.ReviewCall.namedDevice : ReviewCall → Option Text
  | .createChangeSet device .. | .waiveApproval _ device .. | .approveChangeSet _ device ..
  | .cancelChangeSet _ device _ => some device

def ChangeSet.ReviewCall.namedPrincipal : ReviewCall → Option Text
  | .createChangeSet _ _ owner .. | .waiveApproval _ _ owner _ => some owner
  | .approveChangeSet _ _ approver .. => some approver
  | .cancelChangeSet _ _ principal => some principal

-- The session of an apply is on the device it was staged on, and a record goes back as it was read.
def ChangeSet.ApplyCall.namedDevice : ApplyCall → Option Text
  | .applyChangeSet staged => some staged.device
  | .diffOperation key | .validateOperation key | .commitOperation key .. => some key.device
  | .record _ _ device | .changeSet _ device => some device
  | .release | .lock _ | .fingerprint | .unlock | .update _ | .updateChangeSet _ => none

def ChangeSet.ApplyCall.namedPrincipal : ApplyCall → Option Text
  | .applyChangeSet staged => some staged.principal
  | .diffOperation key | .validateOperation key | .commitOperation key .. => some key.principal
  | .record _ principal _ => some principal
  | .changeSet .. | .release | .lock _ | .fingerprint | .unlock | .update _
  | .updateChangeSet _ => none

def ChangeSet.ConfirmCall.namedDevice : ConfirmCall → Option Text
  | .record _ _ device => some device
  | .now | .confirmCommit .. | .update _ => none

def ChangeSet.ConfirmCall.namedPrincipal : ConfirmCall → Option Text
  | .record _ principal _ => some principal
  | .confirmCommit _ attribution => some attribution.principal
  | .now | .update _ => none

def ServerCall.namedDevice : ServerCall → Option Text
  | .tool call => call.namedDevice
  | .review call => call.namedDevice
  | .apply call => call.namedDevice
  | .confirm call => call.namedDevice

def ServerCall.namedPrincipal : ServerCall → Option Text
  | .tool _ => none
  | .review call => call.namedPrincipal
  | .apply call => call.namedPrincipal
  | .confirm call => call.namedPrincipal

/-- The call names none but these devices and this principal. -/
structure Confined (devices : List Text) (principal : Text) (call : ServerCall) : Prop where
  device : ∀ name ∈ call.namedDevice, name ∈ devices
  principal : ∀ name ∈ call.namedPrincipal, name = principal

def SendsConfined (devices : List Text) (principal : Text) (op : ServerOp) : Prop :=
  ∀ call, op.sends = some call → Confined devices principal call

/-- The devices whose scope the handler of the request checks. -/
def ToolRequest.devices : ToolRequest → List Text
  | .loadAndCommitConfig args => [args.device]
  | .commitCheckConfig args => [args.device]
  | .discardCandidate args => [args.device]
  | .rollbackConfig args => [args.device]
  | .confirmCommit args => [args.device]
  | .renderAndApplyTemplate args => args.resolved
  | .upgradeJunos request => [request.device]
  | .createChangeSet args => [args.device]
  | .approveChangeSet args => [args.device]
  | .cancelChangeSet args => [args.device]
  | .applyChangeSet args => [args.device]
  | .confirmChangeSet args => [args.device]
  | .other _ => []

/-! ## Parts of a handler -/

section Parts
variable {devices : List Text} {principal : Text} {α : Type}

theorem renamed_confined {Call : Type} {Reply : Call → Type} {name : Call → ServerCall}
    {read : ∀ call, (name call).Reply → Reply call} {program : Prog (Await Call) (Await.Res Reply) α}
    (performs : program.Performs fun op =>
      ∀ call, op.sends = some call → Confined devices principal (name call)) :
    (program.relabel (Await.rename name) (Await.readAnswer name read)).Performs
      (SendsConfined devices principal) := by
  apply Prog.Performs.relabel
  apply performs.mono
  intro op sent call sends
  cases op with
  | ensureActive => cases sends
  | bare inner => cases sends; exact sent inner rfl
  | timed inner => cases sends; exact sent inner rfl
  | raced inner => cases sends; exact sent inner rfl

theorem reported_confined {report : α → ToolReport} {program : ServerProg (Except JmcpError α)}
    (performs : program.Performs (SendsConfined devices principal)) :
    (reported report program).Performs (SendsConfined devices principal) := by
  apply performs.bind
  intro result
  cases result <;> trivial

theorem checkScopes_ok {ctx : Option CallerCtx} {tool : Text} {value : Unit}
    (ok : checkScopes ctx tool devices = .ok value) :
    checkToolScope ctx tool = .ok () ∧ ∀ device ∈ devices, inScope ctx device = true := by
  obtain ⟨_, allowed, ok⟩ := bind_eq_ok.mp ok
  refine ⟨mapError_eq_ok.mp allowed, ?_⟩
  intro device member
  have checked := mapError_eq_ok.mp (Batch.forM_ok ok device member)
  cases ctx with
  | none => rfl
  | some caller =>
      cases inside : caller.allowsDevice device with
      | true => exact inside
      | false =>
          rw [checkRouterScope, inside] at checked
          cases checked

end Parts

/-! ## Tools on one device -/

/-- The operation is on the device, or on none. -/
def On (devices : List Text) : ToolOp → Prop
  | .ensureActive => True
  | .bare call | .timed call | .raced call => ∀ name ∈ call.namedDevice, name ∈ devices

section Tools
variable {devices : List Text} {device : Text}

theorem onTools_confined {α : Type} {principal : Text} {program : ToolProg α}
    (performs : program.Performs (On devices)) :
    (onTools program).Performs (SendsConfined devices principal) := by
  apply renamed_confined
  apply performs.mono
  intro op on call sends
  refine ⟨?_, nofun⟩
  cases op with
  | ensureActive => cases sends
  | bare inner => cases sends; exact on
  | timed inner => cases sends; exact on
  | raced inner => cases sends; exact on

theorem named (member : device ∈ devices) : ∀ name ∈ some device, name ∈ devices := by
  rintro name ⟨⟩
  exact member

theorem nameless : ∀ name ∈ (none : Option Text), name ∈ devices := by
  rintro name ⟨⟩

theorem unclaimed {principal : Text} : ∀ name ∈ (none : Option Text), name = principal := by
  rintro name ⟨⟩

theorem noticeFor_on (confirmed : Option Nat) : (noticeFor confirmed).Performs (On devices) := by
  cases confirmed with
  | none => trivial
  | some mins => exact ⟨nameless, fun _ => trivial⟩

theorem loadAndCommitConfig_on {context : ToolContext} (args : LoadCommitArgs) :
    (loadAndCommitConfig context args).Performs (On [args.device]) := by
  rw [loadAndCommitConfig]
  cases loadCommitPlan context args with
  | error error => trivial
  | ok plan =>
      refine ⟨named List.mem_cons_self, ?_⟩
      intro reply
      cases reply with
      | error error => trivial
      | ok result =>
          cases result with
          | committed diff => exact (noticeFor_on plan.confirmed).bind fun _ => trivial
          | _ => trivial

theorem rollbackConfig_on {context : ToolContext} (args : RollbackConfigArgs) :
    (rollbackConfig context args).Performs (On [args.device]) := by
  rw [rollbackConfig]
  cases rollbackPlan context args with
  | error error => trivial
  | ok plan =>
      refine ⟨named List.mem_cons_self, ?_⟩
      intro reply
      cases reply with
      | error error => trivial
      | ok result =>
          cases result with
          | committed diff => exact (noticeFor_on plan.confirmed).bind fun _ => trivial
          | _ => trivial

theorem commitCheckConfig_on {context : ToolContext} (args : CommitCheckArgs) :
    (commitCheckConfig context args).Performs (On [args.device]) := by
  rw [commitCheckConfig]
  cases commitCheckRequest context args with
  | error error => trivial
  | ok candidate =>
      refine ⟨named List.mem_cons_self, ?_⟩
      intro reply
      cases reply with
      | error error => trivial
      | ok result => cases result <;> trivial

theorem discardCandidate_on {context : ToolContext} (args : DiscardCandidateArgs) :
    (discardCandidate context args).Performs (On [args.device]) := by
  rw [discardCandidate]
  cases context.inventory args.device with
  | error error => trivial
  | ok entry =>
      refine ⟨named List.mem_cons_self, ?_⟩
      intro reply
      cases reply with
      | error error => trivial
      | ok result => cases result <;> trivial

/-! ## Templates -/

theorem applyDevices_on {context : ToolContext} {args : TemplateArgs} {plan : TemplatePlan}
    {payload : ConfigPayload} {targets : List Text} (all : ∀ target ∈ targets, target ∈ devices) :
    (applyDevices context args plan payload targets).Performs (On devices) := by
  induction targets with
  | nil => trivial
  | cons target rest ih =>
      obtain ⟨here, later⟩ := List.forall_mem_cons.mp all
      have one : (applyDevice context args plan payload target).Performs (On devices) := by
        rw [applyDevice]
        cases context.checkConfig target plan.format plan.rendered with
        | error error => trivial
        | ok decision =>
            cases decision with
            | deny pattern ruleSource lineNumber => trivial
            | denyAllowlist => trivial
            | allow =>
                simp only [commitOne]
                cases commitOneMode context args with
                | error error => trivial
                | ok mode =>
                    refine ⟨named here, ?_⟩
                    intro reply
                    cases reply with
                    | error error => cases error <;> trivial
                    | ok result =>
                        cases result with
                        | committed diff => exact (noticeFor_on mode.2).bind fun _ => trivial
                        | _ => trivial
      exact one.andThen fun _ => (ih later).andThen fun _ => trivial

theorem resolveDevices_ok {args : TemplateArgs} (ok : resolveDevices args = .ok devices) :
    devices = args.resolved := by
  rw [resolveDevices] at ok
  rw [TemplateArgs.resolved]
  cases one : args.deviceName with
  | none =>
      cases many : args.deviceNames with
      | none =>
          rw [one, many] at ok
          cases ok
          rfl
      | some listed =>
          rw [one, many] at ok
          cases listed with
          | nil => cases ok
          | cons first rest =>
              cases ok
              rfl
  | some device =>
      cases many : args.deviceNames with
      | none =>
          rw [one, many] at ok
          cases ok
          rfl
      | some listed =>
          rw [one, many] at ok
          cases ok

theorem templatePlan_devices {context : ToolContext} {args : TemplateArgs} {plan : TemplatePlan}
    (ok : templatePlan context args = .ok plan) : plan.devices = args.resolved := by
  obtain ⟨resolved, named, ok⟩ := bind_eq_ok.mp ok
  obtain ⟨_, _, ok⟩ := bind_eq_ok.mp ok
  obtain ⟨_, _, ok⟩ := bind_eq_ok.mp ok
  obtain ⟨_, _, ok⟩ := bind_eq_ok.mp ok
  obtain ⟨format, _, ok⟩ := bind_eq_ok.mp ok
  obtain ⟨_, _, ok⟩ := bind_eq_ok.mp ok
  obtain ⟨_, _, ok⟩ := bind_eq_ok.mp ok
  obtain ⟨_, _, ok⟩ := bind_eq_ok.mp ok
  split at ok
  · cases ok
  · cases ok
    exact resolveDevices_ok named

theorem renderAndApplyTemplate_on {context : ToolContext} (args : TemplateArgs) :
    (renderAndApplyTemplate context args).Performs (On args.resolved) := by
  rw [renderAndApplyTemplate]
  cases planned : templatePlan context args with
  | error error => trivial
  | ok plan =>
      have same := templatePlan_devices planned
      simp only [applyPlan]
      cases args.applyConfig with
      | false => trivial
      | true =>
          cases buildConfigPayload plan.rendered (some plan.format) with
          | error error => trivial
          | ok payload =>
              refine (applyDevices_on ?_).andThen fun _ => trivial
              rw [same]
              exact fun target member => member

/-! ## Upgrades -/

section Upgrades
open Upgrade
variable {context : UpgradeContext} {request : UpgradeRequest}

theorem openSession_on : (Upgrade.openSession request).Performs (On [request.device]) :=
  ⟨named List.mem_cons_self, fun _ => trivial⟩

theorem openFresh_on : (Upgrade.openFresh request).Performs (On [request.device]) :=
  ⟨named List.mem_cons_self, fun _ => trivial⟩

theorem cli_on (command : Text) : (Upgrade.cli request command).Performs (On [request.device]) :=
  ⟨named List.mem_cons_self, fun _ => trivial⟩

theorem runProbe_on (command phase : Text) :
    (runProbe request command phase).Performs (On [request.device]) := by
  apply (cli_on command).andThen
  intro result
  cases result <;> trivial

theorem openValidated_on (command phase : Text) :
    (openValidated request command phase).Performs (On [request.device]) := by
  apply openSession_on.andThen
  intro _
  apply (cli_on command).andThen
  intro result
  cases result with
  | ok output => trivial
  | error error =>
      by_cases stale : errorIsTransient error.display = true
      · simp only [stale, if_true]
        exact openFresh_on.andThen fun _ => runProbe_on command phase
      · simp only [stale]
        trivial

theorem gatherFacts_on (localSize : Nat) :
    (gatherFacts request localSize).Performs (On [request.device]) := by
  refine (openValidated_on _ _).andThen fun _ => ?_
  refine (runProbe_on _ _).andThen fun _ => ?_
  refine (runProbe_on _ _).andThen fun _ => ?_
  exact (runProbe_on _ _).andThen fun _ => trivial

theorem captureCommands_on (commands : List Text) :
    (captureCommands request commands).Performs (On [request.device]) := by
  induction commands with
  | nil => trivial
  | cons command rest ih => exact (cli_on command).andThen fun _ => ih.andThen fun _ => trivial

theorem captureBaseline_on : (captureBaseline request).Performs (On [request.device]) :=
  openSession_on.andThen fun _ => captureCommands_on _

theorem installed_on (result : Except RustEzError Text) :
    (installed result).Performs (On [request.device]) := by
  cases result with
  | ok output => exact ⟨trivial, fun _ => trivial⟩
  | error error =>
      rw [installed]
      by_cases dropped : installErrorIndicatesSessionDrop error.display = true
      · rw [if_pos dropped]
        trivial
      · rw [if_neg dropped]
        trivial

theorem install_on : (install request).Performs (On [request.device]) :=
  openSession_on.andThen fun _ => ⟨named List.mem_cons_self, installed_on⟩

theorem runDestructive_on {facts : PreflightFacts} {warning : Option Text} :
    (runDestructive request facts warning).Performs (On [request.device]) := by
  have transfers : (toolCall (.transfer request.device request.sourcePath request.timeout)).Performs
      (On [request.device]) := ⟨named List.mem_cons_self, fun _ => trivial⟩
  have waits : (toolCall (.waitForVersion request.device request.targetVersion)).Performs
      (On [request.device]) := ⟨named List.mem_cons_self, fun _ => trivial⟩
  refine captureBaseline_on.andThen fun _ => ?_
  refine transfers.andThen fun _ => ?_
  refine install_on.andThen fun _ => ?_
  refine waits.andThen fun _ => ?_
  exact captureBaseline_on.andThen fun _ => trivial

theorem dispatchLocked_on {facts : PreflightFacts} {warning : Option Text} :
    (dispatchLocked context request facts warning).Performs (On [request.device]) := by
  rw [dispatchLocked]
  cases preflightDecision context request facts with
  | proceed => exact orFail_performs runDestructive_on fun _ => trivial
  | _ => trivial

theorem dispatchPreflight_on {localSize : Nat} {facts : PreflightFacts} {warning : Option Text} :
    (dispatchPreflight context request localSize facts warning).Performs
      (On [request.device]) := by
  have leases : (acquireLease request).Performs (On [request.device]) :=
    ⟨named List.mem_cons_self, fun _ => trivial⟩
  rw [dispatchPreflight]
  cases preflightDecision context request facts with
  | proceed =>
      refine orFail_performs leases fun _ => ?_
      refine orFail_performs (gatherFacts_on localSize) fun _ => ?_
      exact dispatchLocked_on
  | _ => trivial

theorem upgradeJunos_on (badByte : Text → Text) :
    (upgradeJunos context request badByte).Performs (On [request.device]) := by
  have digests : (localDigest request).Performs (On [request.device]) :=
    ⟨nameless, fun _ => trivial⟩
  have checked (warning : Option Text) :
      (upgradeChecked context request warning).Performs (On [request.device]) := by
    refine ⟨nameless, fun kind => ?_⟩
    refine orFail_performs trivial fun _ => ?_
    refine orFail_performs digests fun localSize => ?_
    refine orFail_performs (gatherFacts_on localSize) fun facts => ?_
    exact dispatchPreflight_on
  refine ⟨trivial, fun activity => ?_⟩
  cases activity with
  | cancelled => trivial
  | active => exact orFail_performs trivial checked
  | expired => exact orFail_performs trivial checked

end Upgrades

end Tools

/-! ## Change sets -/

section ChangeSets
variable {principal : Text}

/-- The operation is on the device and under the principal, if it names any. -/
def OwnReview (device principal : Text) (op : ReviewOp) : Prop :=
  ∀ call, op.sends = some call → Confined [device] principal (.review call)

def OwnApply (device principal : Text) : ApplyOp → Prop
  | .ensureActive => True
  | .bare call | .timed call | .raced call => Confined [device] principal (.apply call)

def OwnConfirm (device principal : Text) (op : ConfirmOp) : Prop :=
  ∀ call, op.sends = some call → Confined [device] principal (.confirm call)

theorem own {device : Text} {call : ServerCall} (on : call.namedDevice = some device)
    (under : call.namedPrincipal = some principal) : Confined [device] principal call := by
  constructor
  · rw [on]
    exact named List.mem_cons_self
  · rw [under]
    rintro name ⟨⟩
    rfl

theorem anonymous {device : Text} {call : ServerCall} (on : call.namedDevice = none)
    (under : call.namedPrincipal = none) : Confined [device] principal call := by
  constructor
  · rw [on]
    exact nameless
  · rw [under]
    rintro name ⟨⟩

theorem createChangeSet_own {context : ToolContext} {labMode : Bool} (args : CreateChangeSetArgs) :
    (createChangeSet context labMode principal args).Performs
      (OwnReview args.device principal) := by
  rw [createChangeSet]
  cases checkNewChangeSet context labMode args with
  | error error => trivial
  | ok _ =>
      refine ⟨fun call sends => by cases sends; exact own rfl rfl, ?_⟩
      intro reply
      cases reply with
      | error error => trivial
      | ok planned =>
          cases labMode with
          | false => trivial
          | true =>
              refine ⟨fun call sends => by cases sends; exact own rfl rfl, ?_⟩
              intro waived
              cases waived <;> trivial

theorem approveChangeSet_own {context : ToolContext} {actorType : Text}
    (args : ApproveChangeSetArgs) :
    (approveChangeSet context principal actorType args).Performs
      (OwnReview args.device principal) := by
  rw [approveChangeSet]
  cases context.inventory args.device with
  | error error => trivial
  | ok _ =>
      refine ⟨fun call sends => by cases sends; exact own rfl rfl, ?_⟩
      intro reply
      cases reply <;> trivial

theorem cancelChangeSet_own {context : ToolContext} (args : CancelChangeSetArgs) :
    (cancelChangeSet context principal args).Performs (OwnReview args.device principal) := by
  rw [cancelChangeSet]
  cases context.inventory args.device with
  | error error => trivial
  | ok _ =>
      refine ⟨fun call sends => by cases sends; exact own rfl rfl, ?_⟩
      intro reply
      cases reply <;> trivial

theorem abandonFailedApply_own (about : Abandon) :
    (abandonFailedApply about).Performs (OwnApply about.device about.principal) := by
  have quiet {call : ApplyCall} (on : call.namedDevice = none)
      (under : call.namedPrincipal = none) :
      Confined [about.device] about.principal (.apply call) := anonymous on under
  have changeSet : (settleChangeSet about.changeSetId about.device).Performs
      (OwnApply about.device about.principal) := by
    refine ⟨⟨named List.mem_cons_self, unclaimed⟩, ?_⟩
    intro found
    cases found with
    | error error => trivial
    | ok record => exact ⟨quiet rfl rfl, fun _ => trivial⟩
  have proves (record : OperationRecord) : (proveSettled about record).Performs
      (OwnApply about.device about.principal) := by
    rw [proveSettled]
    cases about.outcome.against record.state with
    | commitOutcomeUnknown => trivial
    | candidateNotCommitted =>
        refine ⟨quiet rfl rfl, fun lock => ?_⟩
        rcases lock with (error | taken) | _
        · trivial
        · exact ⟨quiet rfl rfl, fun _ => ⟨quiet rfl rfl, fun _ => trivial⟩⟩
        · trivial
  have operation : (settleOperation about).Performs (OwnApply about.device about.principal) := by
    refine ⟨own rfl rfl, ?_⟩
    intro found
    cases found with
    | error error => trivial
    | ok record =>
        refine (proves record).bind fun proof => ?_
        obtain ⟨settled, record⟩ := proof
        cases settled with
        | false => trivial
        | true => exact ⟨quiet rfl rfl, fun _ => trivial⟩
  have settles (released : Bool) : (settleReleased about released).Performs
      (OwnApply about.device about.principal) := by
    cases released with
    | false => trivial
    | true => exact operation
  exact ⟨quiet rfl rfl, fun released => (settles released).bind fun _ => changeSet⟩

section Apply
variable {args : ApplyChangeSetArgs} {device : TargetDevice} {attribution : Attribution}
  {confirmTimeout : Option Duration} {staged : ApplyOutput}

theorem abandonApply_own {outcome : AbandonOutcome} {reason : Text} :
    (abandonApply args principal staged outcome reason).Performs
      (OwnApply args.device principal) := by
  have cleaned := abandonFailedApply_own ⟨args.changeSetId, args.device, principal,
    staged.operationId, args.expectedFingerprint, reason, outcome⟩
  exact cleaned.bind fun _ => trivial

theorem reportOutcome_own (outcome : OperationOutcome) :
    (reportOutcome args device principal staged outcome).Performs
      (OwnApply args.device principal) := by
  cases outcome with
  | reconciled succeeded details =>
      cases succeeded with
      | true => trivial
      | false => exact abandonApply_own
  | indeterminate reason => exact abandonApply_own
  | detached jobId => trivial
  | awaitingConfirmation deadline details => trivial

theorem request_own {α : Type} {device : Text} {call : ApplyCall}
    {next : call.Reply → ApplyProg α} (here : Confined [device] principal (.apply call))
    (rest : ∀ reply, (next reply).Performs (OwnApply device principal)) :
    ((ChangeSet.request call).bind next).Performs (OwnApply device principal) :=
  ⟨here, rest⟩

theorem finishApply_own (same : attribution.principal = principal) :
    (finishApply args device attribution confirmTimeout staged).Performs
      (OwnApply args.device principal) := by
  subst same
  refine request_own (own rfl rfl) fun diff => ?_
  cases diff with
  | error reason => exact abandonApply_own
  | ok _ =>
      refine request_own (own rfl rfl) fun checked => ?_
      cases checked with
      | error reason => exact abandonApply_own
      | ok validation =>
          simp only
          cases validation.valid with
          | false => exact abandonApply_own
          | true =>
              refine request_own (own rfl rfl) fun committed => ?_
              cases committed with
              | error reason => exact abandonApply_own
              | ok outcome => exact reportOutcome_own outcome

theorem applyChangeSet_own (context : ApplyContext) (args : ApplyChangeSetArgs) :
    (applyChangeSet context args).Performs
      (OwnApply args.device context.attribution.principal) := by
  rw [applyChangeSet]
  cases context.inventory args.device with
  | error error => trivial
  | ok device =>
      cases confirmWindow context args with
      | error error => trivial
      | ok window =>
          refine request_own ⟨named List.mem_cons_self, unclaimed⟩ fun found => ?_
          cases found with
          | error error => trivial
          | ok record =>
              simp only
              cases resolvedModes context args.device record.actions with
              | error error => trivial
              | ok modes =>
                  refine request_own (own rfl rfl) fun staged => ?_
                  cases staged with
                  | error error => trivial
                  | ok staged => exact finishApply_own rfl

end Apply

section Confirm
variable {inventory : Text → Except JmcpError TargetDevice} {attribution : Attribution}

theorem ask_own {α : Type} {device : Text} {call : ConfirmCall}
    {next : call.Reply → ConfirmProg α} (here : Confined [device] principal (.confirm call))
    (rest : ∀ reply, (next reply).Performs (OwnConfirm device principal)) :
    ((ask call).bind next).Performs (OwnConfirm device principal) := by
  refine ⟨?_, rest⟩
  intro sent sends
  cases sends
  exact here

theorem confirmChangeSet_own (args : ConfirmChangeSetArgs) :
    (confirmChangeSet inventory args attribution).Performs
      (OwnConfirm args.device attribution.principal) := by
  have finishes (record : OperationRecord) (deadline : Nat) (outcome : CommitOutcome) :
      (finishConfirm args record deadline outcome).Performs
        (OwnConfirm args.device attribution.principal) := by
    cases outcome with
    | reconciled succeeded details =>
        cases succeeded with
        | false => trivial
        | true =>
            refine ask_own (anonymous rfl rfl) fun written => ?_
            cases written <;> trivial
    | _ => trivial
  rw [confirmChangeSet]
  cases inventory args.device with
  | error error => trivial
  | ok _ =>
      refine ask_own (own rfl rfl) fun found => ?_
      cases found with
      | error error => trivial
      | ok record =>
          simp only [confirmRecord]
          cases record.rollbackDeadlineUnix with
          | none => trivial
          | some deadline =>
              refine ask_own (anonymous rfl rfl) fun (now : Nat) => ?_
              by_cases late : deadline ≤ now
              · rw [if_pos late]
                trivial
              · rw [if_neg late]
                refine ask_own ⟨nameless, by rintro name ⟨⟩; rfl⟩ fun confirmed => ?_
                cases confirmed with
                | error error => trivial
                | ok outcome => exact finishes record deadline outcome

theorem handleConfirmCommit_own (args : ConfirmCommitArgs) :
    (handleConfirmCommit inventory args attribution).Performs
      (OwnConfirm args.device attribution.principal) := by
  rw [handleConfirmCommit]
  cases inventory args.device with
  | error error => trivial
  | ok _ =>
      refine ask_own ⟨nameless, by rintro name ⟨⟩; rfl⟩ fun confirmed => ?_
      cases confirmed <;> trivial

end Confirm

end ChangeSets

/-! ## Handlers -/

section Handlers
variable {handler : JmcpHandler} {ctx : Option CallerCtx} {request : ToolRequest}

theorem after_refused {α : Type} {checks : Except CallError Unit} {error : CallError}
    (refused : checks = .error error) {rest : Unit → Except CallError α}
    {program : α → HandlerProg} : after (checks >>= rest) program = .pure (.error error) := by
  rw [refused]
  rfl

/-- Short of a scope the call is answered with that, and nothing is done. -/
theorem handle_refused {error : CallError} (modelled : ∀ tool, request ≠ .other tool)
    (refused : checkScopes ctx request.tool request.devices = .error error) :
    handle handler ctx request = .pure (.error error) := by
  cases request with
  | other tool => exact absurd rfl (modelled tool)
  | commitCheckConfig args =>
      rw [handle, commitCheckConfigHandler]
      have checked : checkScopes ctx commitCheckTool [args.device] = .error error := refused
      rw [checked]
      rfl
  | discardCandidate args =>
      rw [handle, discardCandidateHandler]
      have checked : checkScopes ctx discardTool [args.device] = .error error := refused
      rw [checked]
      rfl
  | _ => exact after_refused refused

theorem after_confined {α : Type} {devices : List Text} {principal : Text}
    {checks : Except CallError α} {program : α → HandlerProg}
    (performs : ∀ value, checks = .ok value →
      (program value).Performs (SendsConfined devices principal)) :
    (after checks program).Performs (SendsConfined devices principal) := by
  cases checks with
  | error error => trivial
  | ok value => exact performs value rfl

theorem authenticated_ok {tool : Text} {checks : Except CallError Unit} {caller : CallerCtx}
    (ok : (checks >>= fun _ => authenticated ctx tool) = .ok caller) :
    handler.attribution ctx = handler.fromCaller caller := by
  obtain ⟨_, _, ok⟩ := bind_eq_ok.mp ok
  cases ctx with
  | none => cases ok
  | some known =>
      cases ok
      rfl

theorem reviewed_confined {α : Type} {device principal : Text} {report : α → ToolReport}
    {program : ReviewProg (Except JmcpError α)}
    (performs : program.Performs (OwnReview device principal)) :
    (reported report (onReview program)).Performs (SendsConfined [device] principal) :=
  reported_confined (renamed_confined performs)

theorem confirmed_confined {α : Type} {device principal : Text} {report : α → ToolReport}
    {program : ConfirmProg (Except JmcpError α)}
    (performs : program.Performs (OwnConfirm device principal)) :
    (reported report (onConfirm program)).Performs (SendsConfined [device] principal) :=
  reported_confined (renamed_confined performs)

theorem applied_confined {α : Type} {device principal : Text} {report : α → ToolReport}
    {program : ApplyProg (Except JmcpError α)}
    (performs : program.Performs (OwnApply device principal)) :
    (reported report (onApply program)).Performs (SendsConfined [device] principal) := by
  apply reported_confined
  apply renamed_confined
  apply performs.mono
  intro op own call sends
  cases op with
  | ensureActive => cases sends
  | bare inner => cases sends; exact own
  | timed inner => cases sends; exact own
  | raced inner => cases sends; exact own

theorem handle_confined (modelled : ∀ tool, request ≠ .other tool) :
    (handle handler ctx request).Performs
      (SendsConfined request.devices (handler.attribution ctx).principal) := by
  cases request with
  | loadAndCommitConfig args =>
      exact after_confined fun _ _ => reported_confined
        (onTools_confined (loadAndCommitConfig_on args))
  | commitCheckConfig args =>
      exact after_confined fun _ _ => reported_confined
        (onTools_confined (commitCheckConfig_on args))
  | discardCandidate args =>
      exact after_confined fun _ _ => reported_confined
        (onTools_confined (discardCandidate_on args))
  | rollbackConfig args =>
      exact after_confined fun _ _ => reported_confined (onTools_confined (rollbackConfig_on args))
  | confirmCommit args =>
      exact after_confined fun _ _ => confirmed_confined (handleConfirmCommit_own args)
  | renderAndApplyTemplate args =>
      exact after_confined fun _ _ => reported_confined
        (onTools_confined (renderAndApplyTemplate_on args))
  | upgradeJunos upgrade =>
      exact after_confined fun _ _ => (onTools_confined (upgradeJunos_on _)).bind fun _ => trivial
  | createChangeSet args =>
      refine after_confined fun caller ok => ?_
      rw [authenticated_ok ok]
      exact reviewed_confined (createChangeSet_own args)
  | approveChangeSet args =>
      refine after_confined fun caller ok => ?_
      rw [authenticated_ok ok]
      exact reviewed_confined (approveChangeSet_own args)
  | cancelChangeSet args =>
      refine after_confined fun caller ok => ?_
      rw [authenticated_ok ok]
      exact reviewed_confined (cancelChangeSet_own args)
  | applyChangeSet args =>
      refine after_confined fun caller ok => ?_
      rw [authenticated_ok ok]
      exact applied_confined (applyChangeSet_own (handler.applyContext _) args)
  | confirmChangeSet args =>
      refine after_confined fun caller ok => ?_
      rw [authenticated_ok ok]
      exact confirmed_confined (confirmChangeSet_own args)
  | other tool => exact absurd rfl (modelled tool)

end Handlers

/-! ## The server under any calls -/

section Runs
variable {σ Arguments : Type} {registry : Registry Arguments}

theorem concreteCall_ok {name : Text} {arguments : Arguments} {request : ToolRequest}
    (ok : concreteCall registry name arguments = .ok request) : request.tool ∈ concreteTools := by
  rw [concreteCall] at ok
  split at ok
  · rename_i listed
    rw [registry.named (mapError_eq_ok.mp ok)]
    exact listed
  · cases ok

/-- The facade is checked for itself, and leads to a concrete tool. -/
theorem route_ok {ctx : Option CallerCtx} {name : Text} {arguments : Arguments}
    {request : ToolRequest} (ok : route registry ctx name arguments = .ok request) :
    request.tool ∈ concreteTools ∧
      (name = executeTool → checkToolScope ctx executeTool = .ok ()) := by
  rw [route] at ok
  split at ok
  · obtain ⟨_, checked, ok⟩ := bind_eq_ok.mp ok
    obtain ⟨outer, _, ok⟩ := bind_eq_ok.mp ok
    refine ⟨?_, fun _ => mapError_eq_ok.mp checked⟩
    cases found : findOperation outer.operation with
    | none =>
        rw [found] at ok
        cases ok
    | some operation =>
        rw [found] at ok
        exact concreteCall_ok ok
  · rename_i other
    exact ⟨concreteCall_ok ok, fun same => absurd same other⟩

/-- The caller's token allows the tool and every device of the request, and the operation goes no
further. A tool whose program is left open is not covered. -/
structure Within (caller : Incoming Arguments) (request : ToolRequest) (op : ServerOp) : Prop where
  tool : checkToolScope caller.ctx request.tool = .ok ()
  devices : ∀ device ∈ request.devices, inScope caller.ctx device = true
  confined : SendsConfined request.devices (caller.handler.attribution caller.ctx).principal op

structure Authorized (registry : Registry Arguments) (caller : Incoming Arguments)
    (request : ToolRequest) (op : ServerOp) : Prop where
  routed : caller.request registry = .ok request
  listed : request.tool ∈ concreteTools
  facade : caller.name = executeTool → checkToolScope caller.ctx executeTool = .ok ()
  within : (∀ tool, request ≠ .other tool) → Within caller request op

theorem callTool_authorized (caller : Incoming Arguments) :
    (callTool registry caller.handler caller.ctx caller.name caller.arguments).Performs
      fun op => ∃ request, Authorized registry caller request op := by
  rw [callTool]
  cases routed : route registry caller.ctx caller.name caller.arguments with
  | error error => trivial
  | ok request =>
      obtain ⟨listed, facade⟩ := route_ok routed
      by_cases modelled : ∀ tool, request ≠ .other tool
      · cases checked : checkScopes caller.ctx request.tool request.devices with
        | error error =>
            rw [after, handle_refused modelled checked]
            trivial
        | ok _ =>
            obtain ⟨tool, devices⟩ := checkScopes_ok checked
            apply (handle_confined modelled).mono
            intro op confined
            exact ⟨request, routed, listed, facade, fun _ => ⟨tool, devices, confined⟩⟩
      · apply (Prog.performs_any _).mono
        intro op _
        exact ⟨request, routed, listed, facade, fun own => absurd own modelled⟩

/-- The server with whatever settings it is started with again. -/
def jmcpServer (coordinator : ChangesetCoordinator σ) (registry : Registry Arguments) :
    Service ServerOp ServerRes (Incoming Arguments) (Server σ Arguments)
      (Except CallError ToolReport) :=
  { gatedServer coordinator registry with
    restarts := fun s s' => coordinator.load s.store s'.store ∧ s'.calls = s.calls ∧
      s'.log = s.log }

/-- Everything in the log was authorized for the call that sent it. -/
def scopeRegime (coordinator : ChangesetCoordinator σ) (registry : Registry Arguments) :
    Regime (jmcpServer coordinator registry).world where
  inv s := ∀ sent ∈ s.log, ∃ request, Authorized registry sent.caller request sent.op
  later _ _ := True
  allowed caller _ op := ∃ request, Authorized registry caller request op
  refl _ := trivial
  trans _ _ := trivial
  answered := by
    rintro caller s op answer s' inv allowed ⟨store, _, rfl⟩
    exact ⟨List.forall_mem_cons.mpr ⟨allowed, inv⟩, trivial⟩
  abandoned := by
    rintro caller s op s' inv allowed ⟨store, _, rfl⟩
    exact ⟨List.forall_mem_cons.mpr ⟨allowed, inv⟩, trivial⟩

/-- Over any calls at once and any restarts, nothing was sent that the token of its call does not
allow. -/
theorem log_authorized {coordinator : ChangesetCoordinator σ} {start s : Server σ Arguments}
    {jobs : List (Job ServerOp ServerRes (Incoming Arguments) (Except CallError ToolReport))}
    (fresh : start.log = [])
    (reaches : (jmcpServer coordinator registry).Reaches start (s, jobs)) :
    ∀ sent ∈ s.log, ∃ request, Authorized registry sent.caller request sent.op := by
  have orderly : Service.Orderly (scopeRegime coordinator registry) (s, jobs) := by
    apply reaches.orderly
    · rintro t caller t' inv ⟨_, _, rfl⟩
      refine ⟨inv, trivial, ?_⟩
      exact Regime.amid_performs (callTool_authorized caller) fun op _ authorized _ => authorized
    · rintro t t' inv ⟨_, _, same⟩ sent member
      rw [same] at member
      exact inv sent member
    · have inv : ∀ sent ∈ start.log,
          ∃ request, Authorized registry sent.caller request sent.op := by
        rw [fresh]
        exact List.forall_mem_nil _
      exact inv
  exact orderly.1

end Runs

/-! ## A plan of one token -/

namespace TwoPerson

theorem created_authorized :
    ∃ request, Authorized byName created.caller request created.op := by
  obtain ⟨next, creating⟩ : ∃ next, (jmcpServer shelving byName).program creates =
      .step (.bare (.review (.createChangeSet edge [wholeConfig] "alice".toList []
        "junos-default-v1".toList))) next := creates_program
  have creation : ShelfReview bare (.createChangeSet edge [wholeConfig] "alice".toList []
      "junos-default-v1".toList) (some (.ok planReply)) planned := .created rfl
  have idle : (jmcpServer shelving byName).Reaches (served bare 0 []) (served bare 0 [], []) :=
    .start
  have served := idle.replied ⟨rfl, rfl, rfl⟩ creating ⟨planned, creation, rfl⟩
  exact log_authorized rfl served created List.mem_cons_self

end TwoPerson

end JunosMcp
