import JunosMcp.JunosTransaction
import JunosMcp.Session.Device
import JunosMcp.Lib.Lending

/-!
# Sessions in use

Which programs take a session from where, and what they leave behind. A session is fresh until it
is connected, rests in the pool or in a transaction's handle, or is closed. The pool hands out only
sessions that are alive.
-/

namespace JunosMcp
open Lib

/-! ## The direct path on a session -/

/-- `ConfigManager` as the backend of the transaction. -/
def backendRpc : BackendCall → SessionCall
  | .lock => .device .lock
  | .load payload action => .device (.load payload action)
  | .loadRollback version => .device (.rollback version)
  | .diff => .device .diff
  | .commitCheck => .device .commitCheck
  | .commitWithComment comment => .device (.commitWithComment comment)
  | .commitConfirmed seconds => .device (.commitConfirmed seconds)
  | .rollback => .device (.rollback 0)
  | .unlock => .device .unlock

/-- `map_err(Into::into)`, and an absent diff is empty. -/
def backendReply : (call : BackendCall) → SessionCall.Reply (backendRpc call) →
    StepReply BackendCall.Value call
  | .lock, reply => reply.mapError .rustez
  | .load _ _, reply => reply.mapError .rustez
  | .loadRollback _, reply => reply.mapError .rustez
  | .diff, reply => (reply.mapError .rustez).map fun diff => diff.getD []
  | .commitCheck, reply => reply.mapError .rustez
  | .commitWithComment _, reply => reply.mapError .rustez
  | .commitConfirmed _, reply => reply.mapError .rustez
  | .rollback, reply => reply.mapError .rustez
  | .unlock, reply => reply.mapError .rustez

def executeOnSession (request : CandidateRequest) (operationTimeout cleanupTimeout : Duration) :
    SessionProg Execution :=
  (execute request operationTimeout cleanupTimeout).relabel (Await.rename backendRpc)
    (Await.readAnswer backendRpc backendReply)

/-- `candidate_transaction::run` from the open session on. -/
def runCandidate (request : CandidateRequest) (operationTimeout cleanupTimeout : Duration) :
    SessionProg Place := do
  let _ ← guardOp .preventReuse
  match ← call .config with
  | .error _ => dropGuard
  | .ok _ =>
      let execution ← executeOnSession request operationTimeout cleanupTimeout
      match execution.reusable with
      | true =>
          let _ ← guardOp .allowReuse
          dropGuard
      | false =>
          let _ ← callWithin .close
          return .closed

/-! ## Who takes a session from where -/

/-- A method's result decides what becomes of the guard. -/
def endIn {α : Type} (program : SessionProg (Except JmcpError α)) (kept : SessionProg Place) :
    SessionProg Place := do
  match ← program with
  | .ok _ => kept
  | .error _ => dropGuard

/-- Run the method, whatever it returns, and then this. -/
def thenDo {α : Type} (program : SessionProg α) (rest : SessionProg Place) : SessionProg Place := do
  let _ ← program
  rest

/-- The methods that open a session and take the candidate lock on it. -/
inductive LockingCall (cleanupTimeout : Duration) : SessionProg Place → Prop where
  | lock : LockingCall cleanupTimeout (endIn lockSession (keepIn .locked))
  | stage {actions : List JunosAction} {resolved : List ResolvedAction} :
      resolveActions actions = .ok resolved →
      LockingCall cleanupTimeout (endIn (stageOpened cleanupTimeout resolved) (keepIn .staged))
  | archiveRollback (version : Nat) :
      LockingCall cleanupTimeout (thenDo (archiveRollback cleanupTimeout version) dropGuard)
  | direct {request : CandidateRequest} (operationTimeout : Duration) :
      request.mode ≠ .discard →
      LockingCall cleanupTimeout (runCandidate request operationTimeout cleanupTimeout)
  | fingerprint : LockingCall cleanupTimeout (thenDo readCandidate dropGuard)

/-- The methods that open a session and work without the lock. -/
inductive UnlockedCall (cleanupTimeout : Duration) : SessionProg Place → Prop where
  | candidateRevert : UnlockedCall cleanupTimeout (thenDo candidateRevert dropGuard)
  | confirmCommit (comment : Text) :
      UnlockedCall cleanupTimeout (thenDo (confirmCommit comment) dropGuard)
  | discard {request : CandidateRequest} (operationTimeout : Duration) :
      request.mode = .discard →
      UnlockedCall cleanupTimeout (runCandidate request operationTimeout cleanupTimeout)

/-- What is done with the session a transaction holds locked, and what dropping it midway runs. -/
inductive LockedCall (cleanupTimeout : Duration) : SessionProg Place → SessionProg Place → Prop where
  | unlock : LockedCall cleanupTimeout (thenDo (releaseLock cleanupTimeout) dropGuard) dropGuard
  | fingerprint : LockedCall cleanupTimeout (thenDo readCandidate (keepIn .locked)) (keepIn .locked)
  | stage {actions : List JunosAction} {resolved : List ResolvedAction} :
      resolveActions actions = .ok resolved →
      LockedCall cleanupTimeout (endIn (stageLocked cleanupTimeout resolved) (keepIn .staged))
        dropGuard
  | drop : LockedCall cleanupTimeout dropGuard dropGuard

/-- The same for the session of a staged handle. -/
inductive StagedCall (cleanupTimeout : Duration) : SessionProg Place → SessionProg Place → Prop where
  | validate : StagedCall cleanupTimeout (thenDo validateStaged (keepIn .staged)) (keepIn .staged)
  | commit (now : Nat) (confirmTimeout : Option Duration) (comment : Text) :
      StagedCall cleanupTimeout
        (thenDo (commitStaged cleanupTimeout now confirmTimeout comment) (keepIn .staged))
        (keepIn .staged)
  | release : StagedCall cleanupTimeout
      (releaseStaged.bind fun released => .pure released.2) dropGuard
  | drop : StagedCall cleanupTimeout dropGuard dropGuard

def closeSession : SessionProg Place := do
  let _ ← call .close
  return .closed

/-- `open`: a session from the pool that is still alive, or a new one. -/
inductive Opens : Place → Session → Session → Prop where
  | connect {s : Session} : Opens .fresh s Session.connected
  | checkout {s : Session} : s.alive = true → Opens .pooled s { s with reuseAllowed := true }

/-- Who may take a session: `open` hands it to a call with a new guard, a pooled one can also be
evicted, and a handle's session is used by its transaction. -/
inductive Starts (calls : SessionProg Place → Prop) (cleanupTimeout : Duration) :
    Place → SessionProg Place → SessionProg Place → Session → Session → Prop where
  | opened {place : Place} {program : SessionProg Place} {s s' : Session} :
      calls program → Opens place s s' → Starts calls cleanupTimeout place program dropGuard s s'
  | evict {s : Session} : Starts calls cleanupTimeout .pooled closeSession (.pure .closed) s s
  | locked {program onCut : SessionProg Place} {s : Session} :
      LockedCall cleanupTimeout program onCut → Starts calls cleanupTimeout .locked program onCut s s
  | staged {program onCut : SessionProg Place} {s : Session} :
      StagedCall cleanupTimeout program onCut → Starts calls cleanupTimeout .staged program onCut s s

/-- The sessions of a server under these calls. -/
def sessions (calls : SessionProg Place → Prop) (cleanupTimeout : Duration) :
    Lending SessionOp SessionRes Place Session :=
  ⟨sessionWorld, Starts calls cleanupTimeout⟩

abbrev SessionSlot := Slot SessionOp SessionRes Place × Session

/-- No session has been connected yet. -/
def noSessions (_ : Nat) : SessionSlot := (.resting .fresh, Session.connected)

end JunosMcp
