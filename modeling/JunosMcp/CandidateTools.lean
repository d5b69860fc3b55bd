import JunosMcp.ChangeSet.Confirm
import JunosMcp.DirectTools
import JunosMcp.Session.Confirming

/-!
# Tools around a candidate

`commit_check_config` and `discard_candidate`, which give the candidate back, and `confirm_commit`,
which loads nothing.
-/

namespace JunosMcp
open Lib ChangeSet

/-! ## `commit_check_config` -/

structure CommitCheckArgs where
  device : Text
  configText : Text
  configFormat : Text
  timeout : Duration

def commitCheckTool : Text := "commit_check_config".toList

/-- There is no mode to ask for. -/
def commitCheckRequest (context : ToolContext) (args : CommitCheckArgs) :
    Except JmcpError CandidateRequest := do
  validateInputLength "config_text".toList args.configText
  let _ ← context.inventory args.device
  let decision ← context.checkConfig args.device args.configFormat args.configText
  refuseDenied commitCheckTool args.device args.configText decision
  let loadAction ← resolveLoadAction args.configFormat .merge
  let payload ← buildConfigPayload args.configText (some args.configFormat)
  return ⟨some payload, none, .commitCheck, loadAction⟩

theorem commitCheckRequest_mode {context : ToolContext} {args : CommitCheckArgs}
    {request : CandidateRequest} (ok : commitCheckRequest context args = .ok request) :
    request.mode = .commitCheck := by
  rw [commitCheckRequest] at ok
  obtain ⟨_, _, ok⟩ := bind_eq_ok.mp ok
  obtain ⟨_, _, ok⟩ := bind_eq_ok.mp ok
  obtain ⟨_, _, ok⟩ := bind_eq_ok.mp ok
  obtain ⟨_, _, ok⟩ := bind_eq_ok.mp ok
  obtain ⟨_, _, ok⟩ := bind_eq_ok.mp ok
  obtain ⟨_, _, ok⟩ := bind_eq_ok.mp ok
  cases ok
  rfl

structure CheckReport where
  success : Bool
  outcome : Text
  diff : Text
  error : Option Text
  hint : Option Text
  deriving DecidableEq

def checkFailedHint : Text :=
  ("commit-check could not reach a verdict (for example the known multi-RE reply parsing " ++
    "limitation on chassis clusters). This is NOT a statement that the configuration is " ++
    "invalid, but it is also NOT a validation pass — do not commit until the configuration " ++
    "has been independently validated (e.g. on a standalone RE).").toList

def reportCheck (diff : Text) : CheckOutcome → CheckReport
  | .valid => ⟨true, "valid".toList, diff, none, none⟩
  | .invalid error => ⟨false, "invalid".toList, diff, some error, none⟩
  | .checkFailed error => ⟨false, "check_failed".toList, diff, some error, some checkFailedHint⟩

def commitCheckConfig (context : ToolContext) (args : CommitCheckArgs) :
    ToolProg (Except JmcpError CheckReport) :=
  match commitCheckRequest context args with
  | .error error => .pure (.error error)
  | .ok request => (toolCall (.transaction args.device request args.timeout)).bind fun
      | .ok (.commitCheck diff outcome) => .pure (.ok (reportCheck diff outcome))
      | .error error => .pure (.error error)
      -- `unreachable!`
      | .ok _ => .pure (.error (.other
          "commit-check transaction returned the wrong result kind".toList))

/-! ## `discard_candidate` -/

structure DiscardCandidateArgs where
  device : Text
  timeout : Duration

def discardRequest : CandidateRequest := ⟨none, none, .discard, .merge⟩

/-- A success is its message. -/
def discardCandidate (context : ToolContext) (args : DiscardCandidateArgs) :
    ToolProg (Except JmcpError Text) :=
  match context.inventory args.device with
  | .error error => .pure (.error error)
  | .ok _ => (toolCall (.transaction args.device discardRequest args.timeout)).bind fun
      | .ok .discarded =>
          .pure (.ok "candidate configuration discarded (rolled back to running)".toList)
      | .error error => .pure (.error error)
      -- `unreachable!`
      | .ok _ => .pure (.error (.other "discard transaction returned the wrong result kind".toList))

/-! ## `confirm_commit` -/

structure ConfirmCommitArgs where
  device : Text
  timeout : Duration

/-- A window the server keeps no record of: the device alone knows whether one is open. -/
def handleConfirmCommit (inventory : Text → Except JmcpError TargetDevice)
    (args : ConfirmCommitArgs) (attribution : Attribution) :
    ConfirmProg (Except JmcpError ConfirmCommitReport) :=
  match inventory args.device with
  | .error error => .pure (.error error)
  | .ok _ => (ask (.confirmCommit "confirm_commit".toList attribution)).andThen fun outcome =>
      .pure (confirmCommitReport args.device outcome)

end JunosMcp
