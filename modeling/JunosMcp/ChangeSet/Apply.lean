import JunosMcp.ChangeSet.Abandon

/-!
# Applying a change set

`apply_change_set`: the checks before anything is staged, the coordinator's calls one by one, and
the cleanup of every path that fails after staging.
-/

namespace JunosMcp.ChangeSet
open Lib

/-! ## Before staging -/

inductive JunosAuthority where
  | local
  | mist
  | securityDirectorCloud
  | securityDirectorOnprem
  | unknown
  deriving DecidableEq

def JunosAuthority.name : JunosAuthority → Text
  | .local => "local".toList
  | .mist => "mist".toList
  | .securityDirectorCloud => "security-director-cloud".toList
  | .securityDirectorOnprem => "security-director-onprem".toList
  | .unknown => "unknown".toList

structure TargetDevice where
  ip : Text
  port : Nat
  configAuthority : JunosAuthority
  deriving DecidableEq

/-- The verdict of the policy on a configuration text. -/
inductive Decision where
  | allow
  | deny (pattern ruleSource : Text) (lineNumber : Option Nat)
  | denyAllowlist
  deriving DecidableEq

/-- What the server holds when the tool is called. -/
structure ApplyContext where
  inventory : Text → Except JmcpError TargetDevice
  checkConfig : (device format text : Text) → Except JmcpError Decision
  commitConfirmDefaultMins : Nat
  attribution : Attribution

structure ApplyChangeSetArgs where
  changeSetId : Text
  expectedDigest : Text
  expectedFingerprint : Text
  device : Text
  confirmTimeoutMins : Option Nat
  deriving DecidableEq

/-- The confirm window in seconds; an explicit zero opts out of it. -/
def confirmWindow (context : ApplyContext) (args : ApplyChangeSetArgs) :
    Except JmcpError (Option Duration) :=
  match resolveConfirmTimeout context.commitConfirmDefaultMins args.confirmTimeoutMins with
  | .confirmed mins => (confirmTimeoutToSecs mins).map some
  | .optedOut => .ok none

/-- The wire action of one stored action; a rollback has none. -/
def resolvedMode (tool : Text) (context : ApplyContext) (device : Text) (action : JunosAction) :
    Except JmcpError (Option LoadAction) :=
  match action.payload with
  | none => .ok none
  | some payload => do
      let format := payload.format.getD "set".toList
      match ← context.checkConfig device format payload.text with
      | .deny pattern ruleSource lineNumber =>
          .error (.denied tool device pattern ruleSource (excerpt payload.text) lineNumber)
      | .denyAllowlist => .error (.configDomainAllowlistInvariant tool device)
      | .allow =>
          let requested ← parseLoadMode payload.mode
          let loadAction ← resolveLoadAction format requested
          return some loadAction

/-- The actions again, as stored, against the policy of now. -/
def resolvedModes (context : ApplyContext) (device : Text) :
    List (Except Text JunosAction) → Except JmcpError (List LoadAction)
  | [] => .ok []
  | .error error :: _ =>
      .error (.validation ("failed to deserialize action: ".toList ++ error))
  | .ok action :: rest => do
      let mode ← resolvedMode "apply_junos_change_set".toList context device action
      let modes ← resolvedModes context device rest
      return mode.toList ++ modes

def primaryAction : List LoadAction → Text
  | [] => "merge".toList
  | first :: rest => if rest.all (· = first) then first.asStr else "mixed".toList

def approverForCommit (record : ChangeSetRecord) : Option Text :=
  record.approval.bind fun approval => approval.approver

/-! ## The tool -/

structure ApplyReport where
  changeSetId : Text
  operationId : Text
  state : Text
  commitOutcome : Text
  message : Text
  details : Option Text
  jobId : Option Text
  rollbackDeadlineUnix : Option Nat
  configAuthorityWarning : Option Text
  deriving DecidableEq

def authorityWarning (authority : JunosAuthority) : Option Text :=
  if authority = .local then none
  else some ("WARNING: this device is owned by ".toList ++ authority.name ++
    ". Changes may be overwritten at the next push from the owning management plane.".toList)

/-- Clean up, and hand the reason back as the error. -/
def abandonApply (args : ApplyChangeSetArgs) (principal : Text) (staged : ApplyOutput)
    (outcome : AbandonOutcome) (reason : Text) : ApplyProg (Except JmcpError ApplyReport) := do
  let _ ← abandonFailedApply ⟨args.changeSetId, args.device, principal, staged.operationId,
    args.expectedFingerprint, reason, outcome⟩
  return .error (.validation reason)

/-- A device that refuses the commit says so in the outcome, which needs the cleanup as well. -/
def reportOutcome (args : ApplyChangeSetArgs) (device : TargetDevice) (principal : Text)
    (staged : ApplyOutput) : OperationOutcome → ApplyProg (Except JmcpError ApplyReport)
  | .reconciled true details => .pure (.ok
      { changeSetId := args.changeSetId
        operationId := staged.operationId
        state := "Applied".toList
        commitOutcome := "Reconciled".toList
        message := "change set applied and committed successfully".toList
        details := details
        jobId := none
        rollbackDeadlineUnix := none
        configAuthorityWarning := authorityWarning device.configAuthority })
  | .reconciled false details =>
      abandonApply args principal staged .candidateNotCommitted
        ("commit failed: ".toList ++ details.getD "no details".toList)
  | .indeterminate reason =>
      abandonApply args principal staged .commitOutcomeUnknown
        ("commit outcome indeterminate, manual reconciliation required: ".toList ++ reason)
  | .detached jobId => .pure (.ok
      { changeSetId := args.changeSetId
        operationId := staged.operationId
        state := "Committing".toList
        commitOutcome := "Detached".toList
        message := "commit detached, poll for completion".toList
        details := none
        jobId := some jobId
        rollbackDeadlineUnix := none
        configAuthorityWarning := authorityWarning device.configAuthority })
  | .awaitingConfirmation deadline details => .pure (.ok
      { changeSetId := args.changeSetId
        operationId := staged.operationId
        state := "AwaitingConfirmation".toList
        commitOutcome := "AwaitingConfirmation".toList
        message := "commit awaiting confirmation; auto-rollback pending".toList
        details := details
        jobId := none
        rollbackDeadlineUnix := some deadline
        configAuthorityWarning := authorityWarning device.configAuthority })

def commitApply (args : ApplyChangeSetArgs) (device : TargetDevice) (attribution : Attribution)
    (confirmTimeout : Option Duration) (staged : ApplyOutput) :
    ApplyProg (Except JmcpError ApplyReport) := do
  match ← request (.commitOperation
      ⟨staged.operationId, args.device, attribution.principal, staged.afterFingerprint⟩
      "junos-default-v1".toList attribution confirmTimeout) with
  | .error reason => abandonApply args attribution.principal staged .commitOutcomeUnknown reason
  | .ok outcome => reportOutcome args device attribution.principal staged outcome

/-- Diff, validate, commit. -/
def finishApply (args : ApplyChangeSetArgs) (device : TargetDevice) (attribution : Attribution)
    (confirmTimeout : Option Duration) (staged : ApplyOutput) :
    ApplyProg (Except JmcpError ApplyReport) := do
  let key : OperationKey :=
    ⟨staged.operationId, args.device, attribution.principal, staged.afterFingerprint⟩
  match ← request (.diffOperation key) with
  | .error reason => abandonApply args attribution.principal staged .candidateNotCommitted reason
  | .ok _ =>
      match ← request (.validateOperation key) with
      | .error reason =>
          abandonApply args attribution.principal staged .candidateNotCommitted reason
      | .ok validation =>
          match validation.valid with
          | true => commitApply args device attribution confirmTimeout staged
          | false =>
              abandonApply args attribution.principal staged .candidateNotCommitted
                ("configuration validation failed: ".toList ++
                  validation.details.getD "no details".toList)

def stageRequest (context : ApplyContext) (args : ApplyChangeSetArgs) (device : TargetDevice)
    (attribution : Attribution) (modes : List LoadAction) : StageRequest where
  changeSetId := args.changeSetId
  device := args.device
  endpoint := "junos://".toList ++ device.ip ++ ":".toList ++ (Nat.repr device.port).toList
  principal := context.attribution.principal
  expectedDigest := args.expectedDigest
  expectedFingerprint := args.expectedFingerprint
  primaryAction := primaryAction modes
  configAuthority := some device.configAuthority.name
  attribution := attribution

/-- Nothing is staged before the window, the record and its actions are good. -/
def applyChangeSet (context : ApplyContext) (args : ApplyChangeSetArgs) :
    ApplyProg (Except JmcpError ApplyReport) :=
  match context.inventory args.device, confirmWindow context args with
  | .error error, _ | .ok _, .error error => .pure (.error error)
  | .ok device, .ok confirmTimeout => do
      match ← request (.changeSet args.changeSetId args.device) with
      | .error error => return .error (.validation error)
      | .ok record =>
          let attribution := { context.attribution with
            changeSetId := some args.changeSetId
            approver := approverForCommit record }
          match resolvedModes context args.device record.actions with
          | .error error => return .error error
          | .ok modes =>
              match ← request (.applyChangeSet
                  (stageRequest context args device attribution modes)) with
              | .error error => return .error (.validation error)
              | .ok staged => finishApply args device attribution confirmTimeout staged

end JunosMcp.ChangeSet
