import JunosMcp.Session.Calls

/-!
# The guard of a pooled session
-/

namespace JunosMcp
open Lib

/-- Where a session is when nobody works with it. -/
inductive Place where
  | fresh
  | pooled
  | locked
  | staged
  | closed
  deriving DecidableEq

inductive LockRelease where
  | confirmed
  | closedUnverified
  deriving DecidableEq

def shouldPool (reuseAllowed configDbOpen touchedCandidate : Bool) : Bool :=
  reuseAllowed && !configDbOpen && !touchedCandidate

def isReusable : SessionProg Bool := do
  let reuseAllowed ← guardOp .reuseAllowed
  let configDbOpen ← guardOp .isConfigDbOpen
  let touched ← guardOp .touchedCandidate
  return shouldPool reuseAllowed configDbOpen touched

/-- A guard without a session has nothing to close. -/
def closeInPlace : SessionProg (Except RustEzError Unit) := do
  match ← guardOp .present with
  | true => call .close
  | false => return .ok ()

def closeBudgetError (cleanupTimeout : Duration) : JmcpError :=
  .validation ("closing the session to release the candidate lock exceeded the ".toList ++
    (Nat.repr cleanupTimeout).toList ++ "s cleanup budget; lock state unknown".toList)

/-- A session still marked dirty is closed under its lock, a clean one unlocks. -/
def releaseLock (cleanupTimeout : Duration) : SessionProg (Except JmcpError LockRelease) := do
  match ← guardOp .touchedCandidate with
  | true =>
      match ← callWithin .close with
      | .completed (.ok _) => return .ok .closedUnverified
      | .completed (.error error) => return .error (.rustez error)
      | .elapsed => return .error (closeBudgetError cleanupTimeout)
  | false =>
      match ← call .config with
      | .error error => return .error (.rustez error)
      | .ok _ =>
          match ← call .unlock with
          | .error error => return .error (.rustez error)
          | .ok _ =>
              let _ ← guardOp .allowReuse
              return .ok .confirmed

/-- `SessionPool::return_session`: a dead session is closed, not filed. -/
def returnSession : SessionProg Place := do
  match ← guardOp .sessionAlive with
  | true => return .pooled
  | false =>
      let _ ← call .close
      return .closed

/-- `Drop`, with the task it spawns. -/
def dropGuard : SessionProg Place := do
  match ← guardOp .present with
  | false => return .closed
  | true =>
      match ← isReusable with
      | true => returnSession
      | false =>
          let _ ← call .close
          return .closed

/-- Back to the handle, if the guard still has its session. -/
def keepIn (place : Place) : SessionProg Place := do
  match ← guardOp .present with
  | true => return place
  | false => return .closed

end JunosMcp
