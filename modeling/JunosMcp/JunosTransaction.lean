import JunosMcp.CandidateTransaction
import JunosMcp.Session.PooledDevice

/-!
# The change-set transaction

The methods of `JunosTransaction`, each on the one session it works with. `open` and the choice of
the session belong to the caller; what becomes of the guard is decided by the method's result.
-/

namespace JunosMcp
open Lib

/-! ## Actions -/

structure ConfigPayloadSpec where
  text : Text
  format : Option Text
  mode : Option Text
  deriving DecidableEq

structure JunosAction where
  payload : Option ConfigPayloadSpec
  rollbackSource : Option Nat
  deriving DecidableEq

inductive ResolvedAction where
  | rollback (version : Nat)
  | load (payload : ConfigPayload) (action : LoadAction)
  deriving DecidableEq

/-- Exactly one of payload and rollback source, checked for every action first. -/
def checkActionShapes : Nat → List JunosAction → Except JmcpError Unit
  | _, [] => .ok ()
  | i, action :: rest => match action.payload, action.rollbackSource with
      | some _, some _ => .error (.validation ("action ".toList ++ (Nat.repr i).toList ++
          " has both payload and rollback_source; exactly one is required".toList))
      | none, none => .error (.validation ("action ".toList ++ (Nat.repr i).toList ++
          " has neither payload nor rollback_source".toList))
      | _, _ => checkActionShapes (i + 1) rest

def resolveAction (action : JunosAction) : Except JmcpError ResolvedAction :=
  match action.rollbackSource, action.payload with
  | some version, _ => .ok (.rollback version)
  | none, some spec => do
      let format := spec.format.getD "set".toList
      let payload ← buildConfigPayload spec.text (some format)
      let requested ← parseLoadMode spec.mode
      let loadAction ← resolveLoadAction format requested
      return .load payload loadAction
  | none, none => .error (.other "exactly-one validation already checked this".toList)

def resolveActions (actions : List JunosAction) : Except JmcpError (List ResolvedAction) := do
  checkActionShapes 0 actions
  actions.mapM resolveAction

/-! ## Transport uncertainty -/

/-- Wordings of a commit whose reply never arrived. -/
def uncertaintyNeedles : List Text :=
  ["timeout".toList, "timed out".toList, "connection closed".toList, "connection reset".toList,
   "broken pipe".toList, "unexpected eof".toList, "channel closed".toList,
   "connection lost".toList, "commit status unknown".toList]

/-- Whether an error leaves the outcome of a sent commit unknown. -/
def isTransportUncertainty (error : RustEzError) : Bool :=
  match error.kind with
  | .netconf (.rpc (.serverError _)) => false
  | .netconf (.rpc .commitUnknown) => true
  | .netconf (.rpc .parseError) => true
  | .netconf .transport | .netconf .framing => true
  | .netconf .protocol => true
  | .sshConfig | .facts | .config => true
  | .xmlParse => true
  | _ => uncertaintyNeedles.any fun needle => Text.contains (asciiLowercase error.display) needle

/-! ## Lock, fingerprint and stage -/

/-- `lock` on a session just opened. -/
def lockSession : SessionProg (Except JmcpError Unit) := do
  let _ ← guardOp .preventReuse
  match ← call .config with
  | .error error => return .error (.rustez error)
  | .ok _ =>
      match ← call .lock with
      | .error error =>
          let _ ← guardOp .allowReuse
          return .error (.rustez error)
      | .ok _ => return .ok ()

/-- The candidate that `fingerprint` normalises and hashes. -/
def readCandidate : SessionProg (Except JmcpError Text) := do
  match ← call .config with
  | .error error => return .error (.rustez error)
  | .ok _ =>
      match ← call .candidateXml with
      | .error error => return .error (.rustez error)
      | .ok xml => return .ok xml

def loadAction : ResolvedAction → SessionProg (Except RustEzError Unit)
  | .rollback version => call (.rollback version)
  | .load payload action => call (.load payload action)

/-- The load loop: how many actions went in, and the error that stopped it. -/
def loadActions (loaded : Nat) : List ResolvedAction → SessionProg (Nat × Option RustEzError)
  | [] => return (loaded, none)
  | action :: rest => do
      match ← loadAction action with
      | .ok _ => loadActions (loaded + 1) rest
      | .error error => return (loaded, some error)

/-- A partial stage reverts what went in; the text is the revert's error. -/
def revertLoaded (loaded : Nat) : SessionProg (Option Text) :=
  if 0 < loaded then do
    match ← call (.rollback 0) with
    | .ok _ => return none
    | .error error => return some error.display
  else return none

def releaseFailure : Except JmcpError LockRelease → Option Text
  | .ok _ => none
  | .error error => some error.display

/-- The error of a failed load, with what went wrong in its cleanup. -/
def stageError (loaded : Nat) (error : RustEzError) (revert release : Option Text) : JmcpError :=
  match revert, release with
  | some revertError, some unlockError =>
      .candidateCleanupFailed error.display revertError unlockError
  | some revertError, none => .candidateCleanupFailed error.display revertError "ok".toList
  | none, some unlockError =>
      .candidateCleanupFailed error.display
        (if 0 < loaded then "ok".toList else "skipped".toList) unlockError
  | none, none => .rustez error

/-- `stage` from its load loop on; a success is the diff. -/
def loadAndDiff (cleanupTimeout : Duration) (actions : List ResolvedAction) :
    SessionProg (Except JmcpError Text) := do
  match ← loadActions 0 actions with
  | (loaded, some error) =>
      let revert ← revertLoaded loaded
      let release ← releaseLock cleanupTimeout
      return .error (stageError loaded error revert (releaseFailure release))
  | (_, none) =>
      match ← call .diff with
      | .error error => return .error (.rustez error)
      | .ok diff => return .ok (diff.getD [])

/-- `stage` on the session `lock` left behind. -/
def stageLocked (cleanupTimeout : Duration) (actions : List ResolvedAction) :
    SessionProg (Except JmcpError Text) := do
  match ← call .config with
  | .error error => return .error (.rustez error)
  | .ok _ => loadAndDiff cleanupTimeout actions

/-- `stage` on a session of its own. -/
def stageOpened (cleanupTimeout : Duration) (actions : List ResolvedAction) :
    SessionProg (Except JmcpError Text) := do
  match ← lockSession with
  | .error error => return .error error
  | .ok _ => loadAndDiff cleanupTimeout actions

/-! ## Validate and commit -/

structure JunosValidation where
  valid : Bool
  details : Option Text
  deriving DecidableEq

def validateStaged : SessionProg (Except JmcpError JunosValidation) := do
  match ← call .config with
  | .error error => return .error (.rustez error)
  | .ok _ =>
      match ← call .commitCheck with
      | .ok _ => return .ok ⟨true, none⟩
      | .error error =>
          match classifyCheckError (.rustez error) with
          | .valid => return .ok ⟨true, none⟩
          | .invalid details => return .ok ⟨false, some details⟩
          | .checkFailed details => return .error (.validation
              ("commit-check could not reach a verdict: ".toList ++ details))

inductive CommitOutcome where
  | reconciled (succeeded : Bool) (details : Text)
  | indeterminate (reason : Text)
  | awaitingConfirmation (rollbackDeadlineUnix : Nat) (details : Text)
  deriving DecidableEq

/-- The confirm window in the whole minutes Junos expects, within a `u32`. -/
def junosConfirmMinutes (timeout : Duration) : Except JmcpError Nat :=
  if timeout < 60 then
    .error (.validation (("confirm timeout must be at least 60 seconds; Junos schedules the " ++
      "rollback in whole minutes and cannot honour ").toList ++ timeout.debug))
  else if timeout % 60 ≠ 0 then
    .error (.validation (("confirm timeout must be a whole number of minutes; Junos cannot " ++
      "honour ").toList ++ timeout.debug))
  else if timeout / 60 < 2 ^ 32 then .ok (timeout / 60)
  else .error (.validation "confirm timeout is implausibly large".toList)

/-- `escape_xml_text`: the three replacements in their order. -/
def escapeXmlText (value : Text) : Text :=
  ((value.flatMap fun c => if c = '&' then "&amp;".toList else [c]).flatMap
    fun c => if c = '<' then "&lt;".toList else [c]).flatMap
      fun c => if c = '>' then "&gt;".toList else [c]

def buildConfirmedCommitXml (minutes : Nat) (comment : Text) : Text :=
  "<commit-configuration><confirmed/><confirm-timeout>".toList ++ (Nat.repr minutes).toList ++
    "</confirm-timeout><log>".toList ++ escapeXmlText comment ++
    "</log></commit-configuration>".toList

def confirmedCommitOnSession (now minutes : Nat) (comment : Text) :
    SessionProg (Except JmcpError CommitOutcome) := do
  match ← call .config with
  | .error error => return .error (.rustez error)
  | .ok _ =>
      match ← call (.confirmedCommitXml (buildConfirmedCommitXml minutes comment)) with
      | .ok _ =>
          let _ ← guardOp .allowReuse
          return .ok (.awaitingConfirmation (now + minutes * 60)
            ("confirmed commit issued; the device reverts in ".toList ++
              (Nat.repr minutes).toList ++
              " minute(s) unless a confirming commit is received".toList))
      | .error error =>
          if isTransportUncertainty error then
            return .ok (.indeterminate ("confirmed commit sent but the outcome is unknown: ".toList
              ++ error.display ++ "; the device may be holding a pending rollback".toList))
          else return .error (.rustez error)

def releaseDetails : LockRelease → Text
  | .confirmed => "commit succeeded".toList
  | .closedUnverified => ("commit succeeded; session closed to release the candidate lock, " ++
      "release not acknowledged by the device").toList

/-- The outcome of an acknowledged commit, by how its lock went. -/
def ackedOutcome : Except JmcpError LockRelease → CommitOutcome
  | .ok release => .reconciled true (releaseDetails release)
  | .error error => .indeterminate
      ("commit succeeded but releasing the candidate lock failed: ".toList ++ error.display ++
        "; lock state unknown".toList)

def rejectedOutcome (error : RustEzError) : CommitOutcome :=
  if isTransportUncertainty error then
    .indeterminate ("commit RPC timed out or transport dropped: ".toList ++ error.display)
  else .reconciled false error.display

def plainCommit (cleanupTimeout : Duration) (comment : Text) :
    SessionProg (Except JmcpError CommitOutcome) := do
  match ← call .config with
  | .error error => return .error (.rustez error)
  | .ok _ =>
      match ← call (.commitWithComment comment) with
      | .ok _ =>
          let release ← releaseLock cleanupTimeout
          return .ok (ackedOutcome release)
      | .error error => return .ok (rejectedOutcome error)

/-- `commit` on the staged session; an unusable confirm window is refused before it is touched. -/
def commitStaged (cleanupTimeout : Duration) (now : Nat) (confirmTimeout : Option Duration)
    (comment : Text) : SessionProg (Except JmcpError CommitOutcome) :=
  match confirmTimeout with
  | none => plainCommit cleanupTimeout comment
  | some timeout => match junosConfirmMinutes timeout with
      | .error error => return .error error
      | .ok minutes => confirmedCommitOnSession now minutes comment

/-! ## Rollback and confirming commit -/

structure RollbackOutcome where
  succeeded : Bool
  details : Text
  deriving DecidableEq

/-- Revert and release; failures of either are only logged. -/
def revertAndRelease (cleanupTimeout : Duration) : SessionProg Unit := do
  let _ ← call (.rollback 0)
  let _ ← releaseLock cleanupTimeout
  return ()

def commitArchive (cleanupTimeout : Duration) (version : Nat) :
    SessionProg (Except JmcpError RollbackOutcome) := do
  match ← call (.commitWithComment ("rollback to archive ".toList ++ (Nat.repr version).toList)) with
  | .ok _ =>
      let _ ← releaseLock cleanupTimeout
      return .ok ⟨true, "rollback to archive ".toList ++ (Nat.repr version).toList ++
        " committed".toList⟩
  | .error error =>
      let _ ← revertAndRelease cleanupTimeout
      return .ok ⟨false, error.display⟩

/-- `rollback` to an archive, on a session of its own. -/
def archiveRollback (cleanupTimeout : Duration) (version : Nat) :
    SessionProg (Except JmcpError RollbackOutcome) := do
  match ← lockSession with
  | .error error => return .error error
  | .ok _ =>
      match ← call (.rollback version) with
      | .error error =>
          let _ ← revertAndRelease cleanupTimeout
          return .error (.rustez error)
      | .ok _ => commitArchive cleanupTimeout version

/-- `rollback` of the candidate, on a session of its own and without the lock. -/
def candidateRevert : SessionProg (Except JmcpError RollbackOutcome) := do
  match ← call .config with
  | .error error => return .error (.rustez error)
  | .ok _ =>
      match ← call (.rollback 0) with
      | .ok _ => return .ok ⟨true, "candidate reverted (rollback 0)".toList⟩
      | .error error =>
          if isTransportUncertainty error then
            return .error (.validation
              ("candidate revert (rollback 0) outcome unknown: ".toList ++ error.display))
          else return .ok ⟨false, error.display⟩

def confirmOutcome : Except RustEzError Unit → CommitOutcome
  | .ok _ => .reconciled true "confirming commit succeeded".toList
  | .error error => .reconciled false error.display

/-- `confirm_commit`; a close failure does not change the outcome. -/
def confirmCommit (comment : Text) : SessionProg (Except JmcpError CommitOutcome) := do
  match ← call .config with
  | .error error => return .error (.rustez error)
  | .ok _ =>
      let reply ← call (.commitWithComment ("Confirming commit: ".toList ++ comment))
      let _ ← closeInPlace
      return .ok (confirmOutcome reply)

/-! ## Releasing a staged handle -/

/-- `release`: whether the handle is known to hold nothing any more, and where the session is. -/
def releaseStaged : SessionProg (Bool × Place) := do
  match ← isReusable with
  | true =>
      let place ← dropGuard
      return (true, place)
  | false =>
      match ← guardOp .present with
      | false => return (true, .closed)
      | true =>
          match ← callWithin .close with
          | .completed (.ok _) => return (true, .closed)
          | .completed (.error _) => return (false, .closed)
          | .elapsed => return (false, .closed)

/-! ## Methods that change nothing on the device -/

/-- Operations that neither load, commit nor roll back. -/
def NoWrite (op : SessionOp) : Prop :=
  match op.sends with
  | some (.device (.load ..)) | some (.device (.rollback _))
  | some (.device (.commitWithComment _)) | some (.device (.commitConfirmed _))
  | some (.device (.confirmedCommitXml _)) => False
  | _ => True

theorem isReusable_performs : isReusable.Performs NoWrite :=
  ⟨trivial, fun _ => ⟨trivial, fun _ => ⟨trivial, fun _ => trivial⟩⟩⟩

theorem closeInPlace_performs : closeInPlace.Performs NoWrite := by
  refine ⟨trivial, fun present => ?_⟩
  cases present with
  | true => exact ⟨trivial, fun _ => trivial⟩
  | false => trivial

theorem keepIn_performs (place : Place) : (keepIn place).Performs NoWrite := by
  refine ⟨trivial, fun present => ?_⟩
  cases present <;> trivial

theorem dropGuard_performs : dropGuard.Performs NoWrite := by
  refine ⟨trivial, fun present => ?_⟩
  cases present with
  | false => trivial
  | true =>
      refine isReusable_performs.bind fun reusable => ?_
      cases reusable with
      | false => exact ⟨trivial, fun _ => trivial⟩
      | true =>
          refine ⟨trivial, fun alive => ?_⟩
          cases alive with
          | true => trivial
          | false => exact ⟨trivial, fun _ => trivial⟩

theorem releaseLock_performs (cleanupTimeout : Duration) :
    (releaseLock cleanupTimeout).Performs NoWrite := by
  refine ⟨trivial, fun touched => ?_⟩
  cases touched with
  | true =>
      refine ⟨trivial, fun reply => ?_⟩
      rcases reply with ⟨_ | _⟩ | _ <;> trivial
  | false =>
      refine ⟨trivial, fun config => ?_⟩
      cases config with
      | error error => trivial
      | ok _ =>
          refine ⟨trivial, fun unlock => ?_⟩
          cases unlock with
          | error error => trivial
          | ok _ => exact ⟨trivial, fun _ => trivial⟩

theorem lockSession_performs : lockSession.Performs NoWrite := by
  refine ⟨trivial, fun _ => ⟨trivial, fun config => ?_⟩⟩
  cases config with
  | error error => trivial
  | ok _ =>
      refine ⟨trivial, fun lock => ?_⟩
      cases lock with
      | error error => exact ⟨trivial, fun _ => trivial⟩
      | ok _ => trivial

theorem readCandidate_performs : readCandidate.Performs NoWrite := by
  refine ⟨trivial, fun config => ?_⟩
  cases config with
  | error error => trivial
  | ok _ =>
      refine ⟨trivial, fun candidate => ?_⟩
      cases candidate <;> trivial

theorem releaseStaged_performs : releaseStaged.Performs NoWrite := by
  refine isReusable_performs.bind fun reusable => ?_
  cases reusable with
  | true => exact dropGuard_performs.bind fun _ => trivial
  | false =>
      refine ⟨trivial, fun present => ?_⟩
      cases present with
      | false => trivial
      | true =>
          refine ⟨trivial, fun reply => ?_⟩
          rcases reply with ⟨_ | _⟩ | _ <;> trivial

end JunosMcp
