import JunosMcp.Helpers
import JunosMcp.Lib.Await

/-!
# The shared candidate transaction

`execute` runs one transaction against a backend: lock, load, diff, the mode's own step, and the
cleanup that reverts and unlocks. Every await is an operation of the program.
-/

namespace JunosMcp
open Lib

/-! ## Awaiting under the call's deadline -/

section Steps
variable {Call : Type} {Value : Call → Type}

abbrev StepReply (Value : Call → Type) (call : Call) : Type := Except JmcpError (Value call)

abbrev StepProg (Call : Type) (Value : Call → Type) (α : Type) : Type :=
  Prog (Await Call) (Await.Res (StepReply Value)) α

def ensureActive (operationTimeout : Duration) : StepProg Call Value (Except JmcpError Unit) :=
  .step .ensureActive fun activity => .pure <| match activity with
    | Activity.active => .ok ()
    | .cancelled => .error .cancelled
    | .expired => .error (.timeout operationTimeout)

/-- What the race of `run_step` amounts to. -/
def ofRaced {α : Type} (operationTimeout : Duration) :
    Raced (Except JmcpError α) → Except JmcpError α
  | .completed reply => reply
  | .cancelled => .error .cancelled
  | .elapsed => .error (.timeout operationTimeout)

def runStep (operationTimeout : Duration) (call : Call) :
    StepProg Call Value (Except JmcpError (Value call)) :=
  (ensureActive operationTimeout).andThen fun () =>
    .step (.raced call) fun reply => .pure (ofRaced operationTimeout reply)

/-- `cleanup_step(..).err()`: the text of what went wrong, if anything did. -/
def cleanupFailure {α : Type} (cleanupTimeout : Duration) :
    Timed (Except JmcpError α) → Option Text
  | .completed (.ok _) => none
  | .completed (.error error) => some error.display
  | .elapsed => some ("cleanup timed out after ".toList ++ cleanupTimeout.debug)

theorem cleanupFailure_eq_none {α : Type} {cleanupTimeout : Duration}
    {reply : Timed (Except JmcpError α)} (ok : cleanupFailure cleanupTimeout reply = none) :
    ∃ value, reply = .completed (.ok value) := by
  cases reply with
  | elapsed => cases ok
  | completed result =>
      cases result with
      | ok value => exact ⟨value, rfl⟩
      | error error => cases ok

end Steps

/-! ## Requests and results -/

inductive CandidateMode where
  | dryRun
  | commitCheck
  | commitWithComment (comment : Text)
  | commitConfirmed (seconds : Nat)
  | discard
  deriving DecidableEq

structure CandidateRequest where
  payload : Option ConfigPayload
  rollbackSource : Option Nat
  mode : CandidateMode
  loadAction : LoadAction

inductive CheckOutcome where
  | valid
  | invalid (error : Text)
  | checkFailed (error : Text)
  deriving DecidableEq

inductive CandidateResult where
  | dryRun (diff : Text)
  | commitCheck (diff : Text) (outcome : CheckOutcome)
  | committed (diff : Text)
  | commitFailed (diff error : Text)
  | discarded
  deriving DecidableEq

def isConfigRejection : ErrorTag → Bool
  | .operationFailed | .invalidValue | .missingElement | .badElement | .unknownElement
  | .missingAttribute | .badAttribute | .unknownAttribute | .dataMissing | .dataExists => true
  | _ => false

def classifyCheckError (error : JmcpError) : CheckOutcome :=
  match error with
  | .rustez ⟨.netconf (.rpc (.serverError tag)), _⟩ =>
      if isConfigRejection tag then .invalid error.display else .checkFailed error.display
  | _ => .checkFailed error.display

/-! ## The backend -/

inductive BackendCall where
  | lock
  | load (payload : ConfigPayload) (action : LoadAction)
  | loadRollback (version : Nat)
  | diff
  | commitCheck
  | commitWithComment (comment : Text)
  | commitConfirmed (seconds : Nat)
  | rollback
  | unlock
  deriving DecidableEq

def BackendCall.Value : BackendCall → Type
  | .diff => Text
  | _ => Unit

abbrev BackendOp := Await BackendCall

abbrev BackendRes := Await.Res (StepReply BackendCall.Value)

abbrev BackendProg (α : Type) := Prog BackendOp BackendRes α

def backendStep (operationTimeout : Duration) (call : BackendCall) :
    BackendProg (Except JmcpError call.Value) :=
  runStep operationTimeout call

/-! ## The transaction -/

structure CleanupFailures where
  rollback : Option Text
  unlock : Option Text

def CleanupFailures.isEmpty (failures : CleanupFailures) : Bool :=
  failures.rollback.isNone && failures.unlock.isNone

structure Execution where
  result : Except JmcpError CandidateResult
  reusable : Bool

def loadCandidate (request : CandidateRequest) (operationTimeout : Duration) :
    BackendProg (Except JmcpError Unit) :=
  match request.rollbackSource with
  | some version => backendStep operationTimeout (.loadRollback version)
  | none => match request.payload with
    | some payload => backendStep operationTimeout (.load payload request.loadAction)
    | none => .pure (.error (.validation
        "candidate transaction requires a configuration payload".toList))

/-- A sent commit is awaited to its end, whatever the deadline says. -/
def commitStep (call : BackendCall) (read : StepReply BackendCall.Value call → Except JmcpError Unit)
    (operationTimeout : Duration) (diff : Text) :
    BackendProg (Except JmcpError CandidateResult × Bool) :=
  (ensureActive operationTimeout).bind fun
    | .error error => .pure (.error error, false)
    | .ok _ => .step (.bare call) fun reply => .pure <| match read reply with
      | .ok _ => (.ok (.committed diff), true)
      | .error error => (.ok (.commitFailed diff error.display), false)

/-- The mode's own step on the loaded candidate; the flag is `committed`. -/
def modeStep (mode : CandidateMode) (operationTimeout : Duration) (diff : Text) :
    BackendProg (Except JmcpError CandidateResult × Bool) :=
  match mode with
  | .dryRun => .pure (.ok (.dryRun diff), false)
  | .commitCheck => (backendStep operationTimeout .commitCheck).bind fun
      | .ok _ => .pure (.ok (.commitCheck diff .valid), false)
      | .error error =>
          if error.dropped then .pure (.error error, false)
          else .pure (.ok (.commitCheck diff (classifyCheckError error)), false)
  | .commitWithComment comment =>
      commitStep (.commitWithComment comment) id operationTimeout diff
  | .commitConfirmed seconds => commitStep (.commitConfirmed seconds) id operationTimeout diff
  -- `unreachable!`: `execute` handles the mode before it gets here.
  | .discard => .pure (.error (.other
      "Discard is fully handled in execute() before primary_operation".toList), false)

def primaryOperation (request : CandidateRequest) (operationTimeout : Duration) :
    BackendProg (Except JmcpError CandidateResult × Bool) :=
  (loadCandidate request operationTimeout).bind fun
    | .error error => .pure (.error error, false)
    | .ok _ => (backendStep operationTimeout .diff).bind fun
      | .error error => .pure (.error error, false)
      | .ok diff => modeStep request.mode operationTimeout diff

/-- The unlock is attempted even when the rollback fails or times out. -/
def cleanup (rollbackRequired : Bool) (cleanupTimeout : Duration) : BackendProg CleanupFailures :=
  if rollbackRequired then
    .step (.timed .rollback) fun rollback => .step (.timed .unlock) fun unlock =>
      .pure ⟨cleanupFailure cleanupTimeout rollback, cleanupFailure cleanupTimeout unlock⟩
  else
    .step (.timed .unlock) fun unlock => .pure ⟨none, cleanupFailure cleanupTimeout unlock⟩

def reportedPrimary : Except JmcpError CandidateResult → Option Text
  | .ok (.committed _) => some "commit succeeded".toList
  | .ok (.commitCheck _ (.invalid error)) => some error
  | .ok (.commitCheck _ (.checkFailed error)) => some error
  | .ok (.commitFailed _ error) => some error
  | _ => none

def combine (outcome : Except JmcpError CandidateResult) (failures : CleanupFailures)
    (reported : Option Text) : Except JmcpError CandidateResult :=
  if failures.isEmpty then outcome
  else
    let primary := match outcome with
      | .error error => error.display
      | .ok _ => reported.getD "none".toList
    .error (.candidateCleanupFailed primary (failures.rollback.getD "ok".toList)
      (failures.unlock.getD "ok".toList))

def primaryDropped : Except JmcpError CandidateResult → Bool
  | .error error => error.dropped
  | .ok _ => false

/-- Everything after an acquired lock. -/
def lockedTransaction (request : CandidateRequest) (operationTimeout cleanupTimeout : Duration) :
    BackendProg Execution :=
  (primaryOperation request operationTimeout).bind fun (outcome, committed) =>
    (cleanup (!committed) cleanupTimeout).bind fun failures =>
      .pure ⟨combine outcome failures (reportedPrimary outcome),
        failures.isEmpty && !primaryDropped outcome⟩

def execute (request : CandidateRequest) (operationTimeout cleanupTimeout : Duration) :
    BackendProg Execution :=
  if request.mode = .discard then
    (backendStep operationTimeout .rollback).bind fun
      | .ok _ => .pure ⟨.ok .discarded, true⟩
      | .error error => .pure ⟨.error error, false⟩
  else
    (backendStep operationTimeout .lock).bind fun
      | .error primary =>
          if primary.dropped then
            (cleanup true cleanupTimeout).bind fun failures =>
              .pure ⟨combine (.error primary) failures none, false⟩
          else .pure ⟨.error primary, false⟩
      | .ok _ => lockedTransaction request operationTimeout cleanupTimeout

end JunosMcp
