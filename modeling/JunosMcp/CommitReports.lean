import JunosMcp.CandidateLifecycle
import JunosMcp.JunosTransaction

/-!
# What a failed commit is reported as

Five paths send a commit. The two of the change-set commit tell an unknown outcome from a
rejection; the archive rollback, the confirming commit and the direct path do not.
-/

namespace JunosMcp
open Lib

inductive Verdict where
  | unknown
  | failed
  | succeeded
  deriving DecidableEq

def commitVerdict : Except JmcpError CommitOutcome → Verdict
  | .ok (.indeterminate _) => .unknown
  | .ok (.reconciled false _) => .failed
  | .ok (.reconciled true _) | .ok (.awaitingConfirmation _ _) => .succeeded
  | .error _ => .failed

def rollbackVerdict : Except JmcpError RollbackOutcome → Verdict
  | .ok outcome => if outcome.succeeded then .succeeded else .failed
  | .error _ => .failed

def executionVerdict (execution : Execution) : Verdict :=
  match execution.result with
  | .ok (.committed _) => .succeeded
  | _ => .failed

/-- The commit of a session program was answered with this error. -/
inductive SessionCommitFailed (error : RustEzError) : SessionEvent → Prop where
  | withComment (comment : Text) :
      SessionCommitFailed error ⟨.bare (.device (.commitWithComment comment)), .error error⟩
  | confirmed (xml : Text) :
      SessionCommitFailed error ⟨.bare (.device (.confirmedCommitXml xml)), .error error⟩

inductive BackendCommitFailed (error : RustEzError) : BackendEvent → Prop where
  | withComment (comment : Text) :
      BackendCommitFailed error ⟨.bare (.commitWithComment comment), .error (.rustez error)⟩
  | confirmed (seconds : Nat) :
      BackendCommitFailed error ⟨.bare (.commitConfirmed seconds), .error (.rustez error)⟩

/-- Every run in which something failed so reports this verdict. -/
def Reports {Op : Type} {Res : Op → Type} {α : Type} (program : Prog Op Res α)
    (verdict : α → Verdict) (failed : (Σ op, Res op) → Prop) (expected : Verdict) : Prop :=
  ∀ trace result, Returns program trace result → (∃ event ∈ trace, failed event) →
    verdict result = expected

/-- All five paths report a commit that failed with the error as the verdict. -/
structure PathsReport (error : RustEzError) (expected : Verdict) : Prop where
  commit : ∀ cleanupTimeout now confirmTimeout comment,
    Reports (commitStaged cleanupTimeout now confirmTimeout comment) commitVerdict
      (SessionCommitFailed error) expected
  archive : ∀ cleanupTimeout version, Reports (archiveRollback cleanupTimeout version)
    rollbackVerdict (SessionCommitFailed error) expected
  confirming : ∀ comment, Reports (confirmCommit comment) commitVerdict
    (SessionCommitFailed error) expected
  direct : ∀ request operationTimeout cleanupTimeout,
    Reports (execute request operationTimeout cleanupTimeout) executionVerdict
      (BackendCommitFailed error) expected

def honestVerdict (error : RustEzError) : Verdict :=
  if isTransportUncertainty error then .unknown else .failed

/-! ## The steps around a commit -/

/-- Operations of a session program that are no commit. -/
def NoCommit : SessionOp → Prop
  | .bare (.device (.commitWithComment _)) | .bare (.device (.confirmedCommitXml _)) => False
  | _ => True

theorem NoCommit.not_failed {error : RustEzError} {event : SessionEvent}
    (quiet : NoCommit event.1) : ¬SessionCommitFailed error event := by
  intro failed
  cases failed with
  | withComment comment => exact quiet
  | confirmed xml => exact quiet

theorem NoCommit.of_noWrite (op : SessionOp) (quiet : NoWrite op) : NoCommit op := by
  rcases op with _ | called | _ | _
  · trivial
  · cases called with
    | guard op => trivial
    | device rpc => cases rpc <;> trivial
  · trivial
  · trivial

theorem releaseLock_noCommit (cleanupTimeout : Duration) :
    (releaseLock cleanupTimeout).Performs NoCommit :=
  (releaseLock_performs cleanupTimeout).mono NoCommit.of_noWrite

theorem lockSession_noCommit : lockSession.Performs NoCommit :=
  lockSession_performs.mono NoCommit.of_noWrite

theorem revertAndRelease_performs (cleanupTimeout : Duration) :
    (revertAndRelease cleanupTimeout).Performs NoCommit :=
  ⟨trivial, fun _ => (releaseLock_noCommit cleanupTimeout).bind fun _ => trivial⟩

/-! ## Rules for reports -/

section Rules
variable {Op : Type} {Res : Op → Type} {α β : Type} {verdict : α → Verdict}
  {failed : (Σ op, Res op) → Prop} {expected : Verdict} {quiet : Op → Prop}

/-- A program without the operations that can fail so reports nothing of it. -/
theorem reports_quiet (silent : ∀ event : Σ op, Res op, quiet event.1 → ¬failed event)
    {p : Prog Op Res α} (performs : p.Performs quiet) : Reports p verdict failed expected := by
  rintro trace result returns ⟨event, member, fails⟩
  exact absurd fails (silent event (returns.allowed performs event member))

theorem reports_step (silent : ∀ event : Σ op, Res op, quiet event.1 → ¬failed event) {op : Op}
    {next : Res op → Prog Op Res α} (allowed : quiet op)
    (rest : ∀ answer, Reports (next answer) verdict failed expected) :
    Reports (.step op next) verdict failed expected := by
  rintro trace result returns ⟨event, member, fails⟩
  obtain ⟨answer, later, rfl, continues⟩ := returns_step.mp returns
  rcases List.mem_cons.mp member with rfl | inLater
  · exact absurd fails (silent _ allowed)
  · exact rest answer later result continues ⟨event, inLater, fails⟩

theorem reports_bind (silent : ∀ event : Σ op, Res op, quiet event.1 → ¬failed event)
    {p : Prog Op Res β} {f : β → Prog Op Res α} (performs : p.Performs quiet)
    (rest : ∀ value, Reports (f value) verdict failed expected) :
    Reports (p.bind f) verdict failed expected := by
  rintro trace result returns ⟨event, member, fails⟩
  obtain ⟨first, second, value, rfl, here, later⟩ := returns_bind.mp returns
  rcases List.mem_append.mp member with inFirst | inSecond
  · exact absurd fails (silent event (here.allowed performs event inFirst))
  · exact rest value second result later ⟨event, inSecond, fails⟩

/-- Where the failure lies in the first part, the rest hands its verdict on. -/
theorem reports_carry (silent : ∀ event : Σ op, Res op, quiet event.1 → ¬failed event)
    {p : Prog Op Res β} {f : β → Prog Op Res α} {verdict' : β → Verdict}
    (reports : Reports p verdict' failed expected)
    (performs : ∀ value, (f value).Performs quiet)
    (carries : ∀ value, verdict' value = expected → ∀ trace result,
      Returns (f value) trace result → verdict result = expected) :
    Reports (p.bind f) verdict failed expected := by
  rintro trace result returns ⟨event, member, fails⟩
  obtain ⟨first, second, value, rfl, here, later⟩ := returns_bind.mp returns
  rcases List.mem_append.mp member with inFirst | inSecond
  · exact carries value (reports first value here ⟨event, inFirst, fails⟩) second result later
  · exact absurd fails (silent event (later.allowed (performs value) event inSecond))

end Rules

section SessionRules
variable {α β : Type} {verdict : α → Verdict} {error : RustEzError} {expected : Verdict}

theorem sessionSilent (event : SessionEvent) (quiet : NoCommit event.1) :
    ¬SessionCommitFailed error event := quiet.not_failed

theorem reports_pure {value : α} :
    Reports (.pure value : SessionProg α) verdict (SessionCommitFailed error) expected :=
  reports_quiet sessionSilent trivial

theorem reports_call {rpc : Rpc} {next : Except RustEzError rpc.Value → SessionProg α}
    (quiet : NoCommit (.bare (.device rpc)))
    (rest : ∀ reply, Reports (next reply) verdict (SessionCommitFailed error) expected) :
    Reports ((call rpc).bind next) verdict (SessionCommitFailed error) expected :=
  reports_step sessionSilent quiet rest

/-- A commit call is the last place a commit can fail; its report is what follows the error. -/
theorem reports_commit {rpc : Rpc} {next : Except RustEzError rpc.Value → SessionProg α}
    (quiet : ∀ reply, (next reply).Performs NoCommit)
    (onError : ∀ trace result, Returns (next (.error error)) trace result →
      verdict result = expected) :
    Reports ((call rpc).bind next) verdict (SessionCommitFailed error) expected := by
  rintro trace result returns ⟨event, member, failed⟩
  obtain ⟨reply, later, rfl, continues⟩ := returns_step.mp returns
  rcases List.mem_cons.mp member with rfl | inLater
  · cases failed with
    | withComment comment => exact onError later result continues
    | confirmed xml => exact onError later result continues
  · exact absurd failed (continues.allowed (quiet reply) event inLater).not_failed

end SessionRules

/-! ## The session paths -/

theorem plainCommit_reports (cleanupTimeout : Duration) (comment : Text) (error : RustEzError) :
    Reports (plainCommit cleanupTimeout comment) commitVerdict (SessionCommitFailed error)
      (honestVerdict error) := by
  refine reports_call trivial fun config => ?_
  cases config with
  | error error => exact reports_pure
  | ok _ =>
      refine reports_commit (fun reply => ?_) fun trace result returns => ?_
      · cases reply with
        | error error => trivial
        | ok _ => exact (releaseLock_noCommit cleanupTimeout).bind fun _ => trivial
      · obtain ⟨_, rfl⟩ := returns_pure.mp returns
        unfold rejectedOutcome honestVerdict
        split <;> rfl

theorem confirmedCommit_reports (now minutes : Nat) (comment : Text) (error : RustEzError) :
    Reports (confirmedCommitOnSession now minutes comment) commitVerdict
      (SessionCommitFailed error) (honestVerdict error) := by
  refine reports_call trivial fun config => ?_
  cases config with
  | error error => exact reports_pure
  | ok _ =>
      refine reports_commit (fun reply => ?_) fun trace result returns => ?_
      · cases reply with
        | ok _ => exact ⟨trivial, fun _ => trivial⟩
        | error error =>
            dsimp only
            split <;> trivial
      · unfold honestVerdict
        dsimp only at returns
        split at returns
        all_goals
          obtain ⟨_, rfl⟩ := returns_pure.mp returns
          simp only [*]
          rfl

theorem commitStaged_reports (cleanupTimeout : Duration) (now : Nat)
    (confirmTimeout : Option Duration) (comment : Text) (error : RustEzError) :
    Reports (commitStaged cleanupTimeout now confirmTimeout comment) commitVerdict
      (SessionCommitFailed error) (honestVerdict error) := by
  unfold commitStaged
  cases confirmTimeout with
  | none => exact plainCommit_reports cleanupTimeout comment error
  | some timeout =>
      dsimp only
      cases junosConfirmMinutes timeout with
      | error refusal => exact reports_pure
      | ok minutes => exact confirmedCommit_reports now minutes comment error

/-- The archive rollback reports a failure whatever the error means. -/
theorem archiveRollback_reports (cleanupTimeout : Duration) (version : Nat) (error : RustEzError) :
    Reports (archiveRollback cleanupTimeout version) rollbackVerdict (SessionCommitFailed error)
      .failed := by
  refine reports_bind sessionSilent lockSession_noCommit fun lock => ?_
  cases lock with
  | error error => exact reports_pure
  | ok _ =>
      refine reports_call trivial fun load => ?_
      cases load with
      | error error =>
          exact reports_bind sessionSilent (revertAndRelease_performs cleanupTimeout) fun _ => reports_pure
      | ok _ =>
          refine reports_commit (fun reply => ?_) fun trace result returns => ?_
          · cases reply with
            | ok _ => exact (releaseLock_noCommit cleanupTimeout).bind fun _ => trivial
            | error error => exact (revertAndRelease_performs cleanupTimeout).bind fun _ => trivial
          · obtain ⟨_, _, _, _, _, last⟩ := returns_bind.mp returns
            obtain ⟨_, rfl⟩ := returns_pure.mp last
            rfl

/-- So does the confirming commit. -/
theorem confirmCommit_reports (comment : Text) (error : RustEzError) :
    Reports (confirmCommit comment) commitVerdict (SessionCommitFailed error) .failed := by
  refine reports_call trivial fun config => ?_
  cases config with
  | error error => exact reports_pure
  | ok _ =>
      refine reports_commit (fun reply => (closeInPlace_performs.mono NoCommit.of_noWrite).bind fun _ => trivial) ?_
      intro trace result returns
      obtain ⟨_, _, _, _, _, last⟩ := returns_bind.mp returns
      obtain ⟨_, rfl⟩ := returns_pure.mp last
      rfl

/-! ## The direct path -/

def outcomeVerdict : Except JmcpError CandidateResult → Verdict
  | .ok (.committed _) => .succeeded
  | _ => .failed

def NotBare (op : BackendOp) : Prop := ∀ call, op ≠ .bare call

theorem backendSilent {error : RustEzError} (event : BackendEvent) (notBare : NotBare event.1) :
    ¬BackendCommitFailed error event := by
  intro failed
  cases failed with
  | withComment comment => exact notBare _ rfl
  | confirmed seconds => exact notBare _ rfl

theorem backendStep_notBare (operationTimeout : Duration) (call : BackendCall) :
    (backendStep operationTimeout call).Performs NotBare := by
  refine ⟨nofun, fun activity => ?_⟩
  cases activity with
  | active => exact ⟨nofun, fun _ => trivial⟩
  | cancelled => trivial
  | expired => trivial

theorem loadCandidate_notBare (request : CandidateRequest) (operationTimeout : Duration) :
    (loadCandidate request operationTimeout).Performs NotBare := by
  unfold loadCandidate
  split
  · exact backendStep_notBare _ _
  · split
    · exact backendStep_notBare _ _
    · trivial

theorem cleanup_notBare (rollbackRequired : Bool) (cleanupTimeout : Duration) :
    (cleanup rollbackRequired cleanupTimeout).Performs NotBare := by
  cases rollbackRequired with
  | true => exact ⟨nofun, fun _ => ⟨nofun, fun _ => trivial⟩⟩
  | false => exact ⟨nofun, fun _ => trivial⟩

theorem commitStep_reports {call : BackendCall}
    {read : StepReply BackendCall.Value call → Except JmcpError Unit} {error : RustEzError}
    (rejects : ∀ reply, BackendCommitFailed error ⟨.bare call, reply⟩ →
      read reply = .error (.rustez error))
    (operationTimeout : Duration) (diff : Text) :
    Reports (commitStep call read operationTimeout diff) (fun result => outcomeVerdict result.1)
      (BackendCommitFailed error) .failed := by
  rintro trace result returns ⟨event, member, failed⟩
  obtain ⟨activity, rest, rfl, later⟩ := returns_step.mp returns
  have started : ¬BackendCommitFailed error ⟨.ensureActive, activity⟩ := backendSilent _ nofun
  rcases List.mem_cons.mp member with rfl | inRest
  · exact absurd failed started
  · cases activity with
    | active =>
        obtain ⟨reply, rest, rfl, last⟩ := returns_step.mp later
        obtain ⟨rfl, rfl⟩ := returns_pure.mp last
        rw [List.mem_singleton.mp inRest] at failed
        rw [rejects reply failed]
        rfl
    | cancelled =>
        obtain ⟨rfl, _⟩ := returns_pure.mp later
        cases inRest
    | expired =>
        obtain ⟨rfl, _⟩ := returns_pure.mp later
        cases inRest

theorem modeStep_reports (mode : CandidateMode) (operationTimeout : Duration) (diff : Text)
    (error : RustEzError) :
    Reports (modeStep mode operationTimeout diff) (fun result => outcomeVerdict result.1)
      (BackendCommitFailed error) .failed := by
  cases mode with
  | dryRun => exact reports_quiet backendSilent trivial
  | discard => exact reports_quiet backendSilent trivial
  | commitCheck =>
      refine reports_quiet backendSilent ((backendStep_notBare _ _).bind fun reply => ?_)
      cases reply with
      | ok _ => trivial
      | error error =>
          dsimp only
          split <;> trivial
  | commitWithComment comment =>
      refine commitStep_reports (fun reply failed => ?_) operationTimeout diff
      cases failed
      rfl
  | commitConfirmed seconds =>
      refine commitStep_reports (fun reply failed => ?_) operationTimeout diff
      cases failed
      rfl

theorem primaryOperation_reports (request : CandidateRequest) (operationTimeout : Duration)
    (error : RustEzError) :
    Reports (primaryOperation request operationTimeout) (fun result => outcomeVerdict result.1)
      (BackendCommitFailed error) .failed := by
  refine reports_bind backendSilent (loadCandidate_notBare _ _) fun loaded => ?_
  cases loaded with
  | error error => exact reports_quiet backendSilent trivial
  | ok _ =>
      refine reports_bind backendSilent (backendStep_notBare _ _) fun diff => ?_
      cases diff with
      | error error => exact reports_quiet backendSilent trivial
      | ok diff => exact modeStep_reports _ _ _ _

theorem combine_verdict {outcome : Except JmcpError CandidateResult}
    (failed : outcomeVerdict outcome = .failed) (failures : CleanupFailures)
    (reported : Option Text) : outcomeVerdict (combine outcome failures reported) = .failed := by
  unfold combine
  split
  · exact failed
  · rfl

/-- And the direct path, with or without trouble in its cleanup. -/
theorem execute_reports (request : CandidateRequest) (operationTimeout cleanupTimeout : Duration)
    (error : RustEzError) :
    Reports (execute request operationTimeout cleanupTimeout) executionVerdict
      (BackendCommitFailed error) .failed := by
  unfold execute
  split
  · refine reports_quiet backendSilent ((backendStep_notBare _ _).bind fun reply => ?_)
    cases reply <;> trivial
  · refine reports_bind backendSilent (backendStep_notBare _ _) fun lock => ?_
    cases lock with
    | error primary =>
        dsimp only
        split
        · exact reports_quiet backendSilent ((cleanup_notBare _ _).bind fun _ => trivial)
        · exact reports_quiet backendSilent trivial
    | ok _ =>
        refine reports_carry backendSilent (primaryOperation_reports _ _ _)
          (fun value => (cleanup_notBare _ _).bind fun _ => trivial) ?_
        rintro ⟨outcome, committed⟩ failed trace result returns
        obtain ⟨_, _, failures, _, _, last⟩ := returns_bind.mp returns
        obtain ⟨_, rfl⟩ := returns_pure.mp last
        exact combine_verdict failed failures _

/-! ## The paths together -/

theorem pathsReport_of_certain {error : RustEzError}
    (certain : isTransportUncertainty error = false) :
    PathsReport error (honestVerdict error) := by
  have honest : honestVerdict error = .failed := by simp [honestVerdict, certain]
  exact {
    commit := fun _ _ _ _ => commitStaged_reports _ _ _ _ error
    archive := fun _ _ => honest ▸ archiveRollback_reports _ _ error
    confirming := fun _ => honest ▸ confirmCommit_reports _ error
    direct := fun _ _ _ => honest ▸ execute_reports _ _ _ error }

def failedConfirmTrace (comment : Text) (error : RustEzError) : SessionTrace :=
  [⟨.bare (.device .config), (.ok () : Except RustEzError Unit)⟩,
   ⟨.bare (.device (.commitWithComment comment)), (.error error : Except RustEzError Unit)⟩,
   ⟨.bare (.guard .present), true⟩,
   ⟨.bare (.device .close), (.ok () : Except RustEzError Unit)⟩]

theorem failedConfirm_returns (comment : Text) (error : RustEzError) :
    Returns (confirmCommit comment)
      (failedConfirmTrace ("Confirming commit: ".toList ++ comment) error)
      (.ok (.reconciled false error.display)) :=
  .step (.step (.step (.step (.pure _))))

/-- All paths report every commit error for what it is exactly when it is a known rejection. -/
theorem pathsReport_honest_iff (error : RustEzError) :
    PathsReport error (honestVerdict error) ↔ isTransportUncertainty error = false := by
  constructor
  · intro reports
    cases uncertain : isTransportUncertainty error with
    | false => rfl
    | true =>
        have verdict := reports.confirming [] _ _ (failedConfirm_returns [] error)
          ⟨_, List.mem_cons_of_mem _ List.mem_cons_self, .withComment _⟩
        simp [honestVerdict, uncertain, commitVerdict] at verdict
  · exact pathsReport_of_certain

/-- A connection that drops after the confirming commit was sent is reported as a rejection. -/
theorem dropped_confirm_reported_failed :
    isTransportUncertainty ⟨.netconf .transport, "connection lost".toList⟩ = true ∧
      ¬PathsReport ⟨.netconf .transport, "connection lost".toList⟩
        (honestVerdict ⟨.netconf .transport, "connection lost".toList⟩) := by
  refine ⟨rfl, fun reports => ?_⟩
  have verdict := reports.confirming [] _ _ (failedConfirm_returns [] _)
    ⟨_, List.mem_cons_of_mem _ List.mem_cons_self, .withComment _⟩
  cases verdict

end JunosMcp
