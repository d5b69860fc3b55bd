import JunosMcp.ChangeSet.Apply

/-!
# Records after an acknowledged commit

What the records of an applied change set say once the device has acknowledged its commit. The
coordinator is a parameter that behaves as this server's own comments on it promise.
-/

namespace JunosMcp.ChangeSet
open Lib

/-! ## The commit on the staged session -/

def showsAcked : SessionEvent → Bool
  | ⟨.bare (.device (.commitWithComment _)), .ok _⟩
  | ⟨.bare (.device (.confirmedCommitXml _)), .ok _⟩ => true
  | _ => false

def showsLockReleased : SessionEvent → Bool
  | ⟨.timed (.device .close), .completed (.ok _)⟩ | ⟨.bare (.device .unlock), .ok _⟩ => true
  | _ => false

theorem NoWrite.not_acked {event : SessionEvent} (quiet : NoWrite event.1) :
    showsAcked event = false := by
  obtain ⟨op, answer⟩ := event
  cases op with
  | bare called =>
      cases called with
      | guard op => rfl
      | device rpc => cases rpc <;> first | rfl | exact quiet.elim
  | _ => rfl

/-- One call of `commit` on the staged session, and whether its outcome was written down. -/
structure CommitAttempt where
  cleanupTimeout : Duration
  now : Nat
  confirmTimeout : Option Duration
  comment : Text
  trace : SessionTrace
  result : Except JmcpError CommitOutcome
  returns : Returns (commitStaged cleanupTimeout now confirmTimeout comment) trace result
  written : Bool

def CommitAttempt.acked (attempt : CommitAttempt) : Bool := attempt.trace.any showsAcked

def CommitAttempt.lockReleased (attempt : CommitAttempt) : Bool :=
  attempt.trace.any showsLockReleased

/-- The store, and the commit this apply has sent, if it has come to that. -/
structure ApplyState where
  store : Store
  commit : Option CommitAttempt

/-- What the coordinator's longer calls do. -/
abbrev Coordinator := Await.Effect ApplyCall ApplyCall.Reply ApplyState

def CommitOutcome.handedBack : CommitOutcome → OperationOutcome
  | .reconciled succeeded details => .reconciled succeeded (some details)
  | .indeterminate reason => .indeterminate reason
  | .awaitingConfirmation deadline details => .awaitingConfirmation deadline (some details)

/-- The state `commit_operation` stores with an outcome. -/
def Recorded : CommitOutcome → LifecycleState → Prop
  | .reconciled true _, state => state = .committed
  | .reconciled false _, _ => True
  | .indeterminate _, state => state = .indeterminate
  | .awaitingConfirmation _ _, state => state = .committing

/-- The coordinator as this server's comments describe it: a staged change set reads `Applied`, a
diff or a check sends no commit, and `Committing` is stored right before the commit is sent. -/
structure Coordinator.Documented (coordinator : Coordinator) : Prop where
  staged : ∀ {s s' : ApplyState} {request : StageRequest} {output : ApplyOutput},
    coordinator s (.applyChangeSet request) (some (.ok output)) s' → s'.commit = s.commit ∧
      ∃ record, s'.store.changeSets request.changeSetId request.device = some record ∧
        record.state = .applied
  notStaged : ∀ {s s' : ApplyState} {request : StageRequest} {error : Text},
    coordinator s (.applyChangeSet request) (some (.error error)) s' → s'.commit = s.commit
  diffed : ∀ {s s' : ApplyState} {key : OperationKey} {reply : Except Text Text},
    coordinator s (.diffOperation key) (some reply) s' →
      s'.commit = s.commit ∧ s'.store.changeSets = s.store.changeSets
  validated : ∀ {s s' : ApplyState} {key : OperationKey} {reply : Except Text JunosValidation},
    coordinator s (.validateOperation key) (some reply) s' →
      s'.commit = s.commit ∧ s'.store.changeSets = s.store.changeSets
  committed : ∀ {s s' : ApplyState} {key : OperationKey} {policySignature : Text}
    {attribution : Attribution} {confirmTimeout : Option Duration} {outcome : OperationOutcome},
    coordinator s (.commitOperation key policySignature attribution confirmTimeout)
      (some (.ok outcome)) s' → s'.store.changeSets = s.store.changeSets ∧
      ∃ attempt sent operation, s'.commit = some attempt ∧ attempt.result = .ok sent ∧
        outcome = CommitOutcome.handedBack sent ∧ attempt.confirmTimeout = confirmTimeout ∧
        attempt.written = true ∧ s'.store.operations key.operationId = some operation ∧
        Recorded sent operation.state
  commitFailed : ∀ {s s' : ApplyState} {key : OperationKey} {policySignature : Text}
    {attribution : Attribution} {confirmTimeout : Option Duration} {error : Text},
    coordinator s (.commitOperation key policySignature attribution confirmTimeout)
      (some (.error error)) s' → s'.store.changeSets = s.store.changeSets ∧
      (s'.commit = s.commit ∨ ∃ attempt operation, s'.commit = some attempt ∧
        s'.store.operations key.operationId = some operation ∧
        ((∃ error, attempt.result = .error error) ∨
          attempt.written = false ∧ operation.state = .committing))

section Runs
variable {coordinator : Coordinator} {s s' : ApplyState}

/-- The outcome was written down, and either the commit awaits its confirmation or the lock went
back. -/
def CommitAttempt.settled (attempt : CommitAttempt) : Prop :=
  attempt.written = true ∧
    (attempt.confirmTimeout.isSome = true ∨ attempt.lockReleased = true)

end Runs

/-! ## Two plain commits on one device -/

/-- A coordinator that stores what it is given and stages, diffs and checks without trouble. -/
inductive Steady : ApplyState → (call : ApplyCall) → Option call.Reply → ApplyState → Prop where
  | staged (s : ApplyState) (request : StageRequest) (record : ChangeSetRecord)
      (operation : OperationRecord) :
      record.id = request.changeSetId → record.device = request.device →
      record.state = .applied → Steady s (.applyChangeSet request)
        (some (.ok ⟨operation.id, operation.current⟩))
        ⟨(s.store.putChangeSet record).putOperation operation, s.commit⟩
  | diffed (s : ApplyState) (key : OperationKey) (diff : Text) :
      Steady s (.diffOperation key) (some (.ok diff)) s
  | validated (s : ApplyState) (key : OperationKey) (validation : JunosValidation) :
      Steady s (.validateOperation key) (some (.ok validation)) s
  | committed (s : ApplyState) (key : OperationKey) (policySignature : Text)
      (attribution : Attribution) (attempt : CommitAttempt) (sent : CommitOutcome)
      (operation : OperationRecord) :
      attempt.result = .ok sent → attempt.written = true → operation.id = key.operationId →
      Recorded sent operation.state →
      Steady s (.commitOperation key policySignature attribution attempt.confirmTimeout)
        (some (.ok (CommitOutcome.handedBack sent)))
        ⟨s.store.putOperation operation, some attempt⟩

def plainApply : ApplyChangeSetArgs where
  changeSetId := "c1".toList
  expectedDigest := "sha256:dd".toList
  expectedFingerprint := "sha256:aa".toList
  device := "vsrx-ci".toList
  confirmTimeoutMins := some 0

def ownerContext : ApplyContext where
  inventory _ := .ok ⟨"192.0.2.1".toList, 830, .local⟩
  checkConfig _ _ _ := .ok .allow
  commitConfirmDefaultMins := 10
  attribution := ⟨"owner".toList, none, none⟩

def ownerAttribution : Attribution := ⟨"owner".toList, some "c1".toList, none⟩

end JunosMcp.ChangeSet
