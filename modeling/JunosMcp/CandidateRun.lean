import JunosMcp.CandidateLifecycle

/-!
# A candidate transaction on a device, and its taint

`run` around `execute`: the open, the guard of the session, and the record of a failed cleanup that
the next caller for the device is warned with.
-/

namespace JunosMcp.CandidateRun
open Lib

/-! ## The run -/

inductive RunCall where
  | checkTaint
  | clearTaint
  | recordTaint (phases : Text)
  | open
  | config
  | preventReuse
  | allowReuse
  | close
  | backend (call : BackendCall)

def RunCall.Reply : RunCall → Type
  | .checkTaint => Option Text
  | .clearTaint | .recordTaint _ | .preventReuse | .allowReuse => Unit
  | .open | .config | .close => Except JmcpError Unit
  | .backend call => StepReply BackendCall.Value call

abbrev RunOp := Await RunCall

abbrev RunRes := Await.Res RunCall.Reply

abbrev RunEvent := Σ op, RunRes op

abbrev RunTrace := Trace RunOp RunRes

abbrev RunProg (α : Type) := Prog RunOp RunRes α

def runCall (call : RunCall) : RunProg call.Reply := .step (.bare call) .pure

/-- `run_step` around `dm.open`. -/
def openDevice (operationTimeout : Duration) : RunProg (Except JmcpError Unit) :=
  .step .ensureActive fun
    | Activity.active => .step (.raced .open) fun reply => .pure (ofRaced operationTimeout reply)
    | Activity.cancelled => .pure (.error .cancelled)
    | Activity.expired => .pure (.error (.timeout operationTimeout))

def onDevice {α : Type} (program : BackendProg α) : RunProg α :=
  program.relabel (Await.rename RunCall.backend)
    (Await.readAnswer RunCall.backend fun _ reply => reply)

def failedPhase (phase text : Text) : List Text :=
  if text = "ok".toList then [] else [phase ++ '=' :: text]

def failedPhases (rollback unlock : Text) : List Text :=
  failedPhase "rollback".toList rollback ++ failedPhase "unlock".toList unlock

/-- What the next caller is warned with, if anything. -/
def failureRecord : Except JmcpError CandidateResult → Option Text
  | .error (.candidateCleanupFailed _ rollback unlock) =>
      if (failedPhases rollback unlock).isEmpty then none
      else some ("; ".toList.intercalate (failedPhases rollback unlock))
  | _ => none

def recordFailure (result : Except JmcpError CandidateResult) : RunProg Unit :=
  match failureRecord result with
  | some phases => runCall (.recordTaint phases)
  | none => .pure ()

/-- A reusable session clears the taint; any other is closed. -/
def settleSession (reusable : Bool) : RunProg Unit :=
  match reusable with
  | true => .step (.bare .clearTaint) fun _ => runCall .allowReuse
  | false => .step (.timed .close) fun _ => .pure ()

def finishRun (execution : Execution) : RunProg (Except JmcpError CandidateResult) :=
  (settleSession execution.reusable).bind fun _ =>
    (recordFailure execution.result).bind fun _ => .pure execution.result

/-- `candidate_transaction::run`; the earlier taint is only logged. -/
def run (request : CandidateRequest) (operationTimeout cleanupTimeout : Duration) :
    RunProg (Except JmcpError CandidateResult) :=
  .step (.bare .checkTaint) fun _ => (openDevice operationTimeout).andThen fun _ =>
    .step (.bare .preventReuse) fun _ => .step (.bare .config) fun
      | .error error => .pure (.error error)
      | .ok () => (onDevice (execute request operationTimeout cleanupTimeout)).bind finishRun

/-! ## What a run does to the device and to the taint -/

def taintStep (taint : Option Text) : RunEvent → Option Text
  | ⟨.bare .clearTaint, _⟩ => none
  | ⟨.bare (.recordTaint phases), _⟩ => some phases
  | _ => taint

def taintAfter (taint : Option Text) (trace : RunTrace) : Option Text := trace.foldl taintStep taint

def deviceEvent : RunEvent → Option BackendEvent
  | ⟨.bare (.backend call), reply⟩ => some ⟨.bare call, reply⟩
  | ⟨.timed (.backend call), reply⟩ => some ⟨.timed call, reply⟩
  | ⟨.raced (.backend call), reply⟩ => some ⟨.raced call, reply⟩
  | _ => none

/-- The calls on the device, with their answers. -/
def deviceTrace (trace : RunTrace) : BackendTrace := trace.filterMap deviceEvent

/-- What an execution leaves of a taint. -/
def taintLeft (taint : Option Text) (execution : Execution) : Option Text :=
  (failureRecord execution.result).or (if execution.reusable then none else taint)

theorem taintAfter_append (taint : Option Text) (first second : RunTrace) :
    taintAfter taint (first ++ second) = taintAfter (taintAfter taint first) second :=
  List.foldl_append

theorem deviceTrace_append (first second : RunTrace) :
    deviceTrace (first ++ second) = deviceTrace first ++ deviceTrace second :=
  List.filterMap_append

/-- Neither the device nor the taint is touched. -/
structure Silent (trace : RunTrace) : Prop where
  device : deviceTrace trace = []
  taint : ∀ taint, taintAfter taint trace = taint

theorem Silent.calls {first : RunTrace} (silent : Silent first) (second : RunTrace) :
    deviceTrace (first ++ second) = deviceTrace second := by
  rw [deviceTrace_append, silent.device, List.nil_append]

theorem Silent.leaves {first : RunTrace} (silent : Silent first) (second : RunTrace)
    (taint : Option Text) : taintAfter taint (first ++ second) = taintAfter taint second := by
  rw [taintAfter_append, silent.taint]

theorem Silent.append {first second : RunTrace} (silent : Silent first) (later : Silent second) :
    Silent (first ++ second) where
  device := (silent.calls second).trans later.device
  taint taint := (silent.leaves second taint).trans (later.taint taint)

/-- Apart from the checks for a cancelled call. -/
def SameCalls (trace : RunTrace) (worked : BackendTrace) : Prop :=
  ∀ event : BackendEvent, event.1 ≠ .ensureActive → (event ∈ deviceTrace trace ↔ event ∈ worked)

theorem onDevice_returns {α : Type} {program : BackendProg α} {trace : RunTrace} {value : α}
    (returns : Returns (onDevice program) trace value) :
    ∃ worked, Returns program worked value ∧ SameCalls trace worked ∧
      ∀ taint, taintAfter taint trace = taint := by
  induction program generalizing trace with
  | pure result =>
      obtain ⟨rfl, rfl⟩ := returns_pure.mp (show Returns (.pure result) _ _ from returns)
      exact ⟨[], .pure _, fun _ _ => Iff.rfl, fun _ => rfl⟩
  | step op next ih =>
      obtain ⟨answer, rest, rfl, later⟩ :=
        returns_step.mp (show Returns (.step (Await.rename RunCall.backend op) _) _ _ from returns)
      obtain ⟨worked, inner, same, kept⟩ := ih _ later
      refine ⟨_, .step inner, ?_, ?_⟩
      · intro event called
        have tail := same event called
        have called' (first : BackendEvent) :
            event ∈ first :: deviceTrace rest ↔ event ∈ first :: worked := by
          rw [List.mem_cons, List.mem_cons, tail]
        cases op with
        | ensureActive =>
            rw [List.mem_cons]
            constructor
            · exact fun member => .inr (tail.mp member)
            · rintro (rfl | member)
              · exact absurd rfl called
              · exact tail.mpr member
        | bare call => exact called' ⟨.bare call, answer⟩
        | timed call =>
            cases answer with
            | completed reply => exact called' ⟨.timed call, Timed.completed reply⟩
            | elapsed => exact called' ⟨.timed call, Timed.elapsed⟩
        | raced call =>
            cases answer with
            | completed reply => exact called' ⟨.raced call, Raced.completed reply⟩
            | cancelled => exact called' ⟨.raced call, Raced.cancelled⟩
            | elapsed => exact called' ⟨.raced call, Raced.elapsed⟩
      · intro taint
        cases op <;> exact kept taint

theorem settleSession_returns {reusable : Bool} {trace : RunTrace} {value : Unit}
    (returns : Returns (settleSession reusable) trace value) :
    deviceTrace trace = [] ∧
      ∀ taint, taintAfter taint trace = if reusable then none else taint := by
  cases reusable with
  | true =>
      obtain ⟨_, _, rfl, later⟩ := returns_step.mp returns
      obtain ⟨_, _, rfl, last⟩ := returns_step.mp later
      obtain ⟨rfl, _⟩ := returns_pure.mp last
      exact ⟨rfl, fun _ => rfl⟩
  | false =>
      obtain ⟨_, _, rfl, last⟩ := returns_step.mp returns
      obtain ⟨rfl, _⟩ := returns_pure.mp last
      exact ⟨rfl, fun _ => rfl⟩

theorem recordFailure_returns {result : Except JmcpError CandidateResult} {trace : RunTrace}
    {value : Unit} (returns : Returns (recordFailure result) trace value) :
    deviceTrace trace = [] ∧
      ∀ taint, taintAfter taint trace = ((failureRecord result).or taint) := by
  rw [recordFailure] at returns
  cases recorded : failureRecord result with
  | some phases =>
      rw [recorded] at returns
      obtain ⟨_, _, rfl, last⟩ := returns_step.mp returns
      obtain ⟨rfl, _⟩ := returns_pure.mp last
      exact ⟨rfl, fun _ => rfl⟩
  | none =>
      rw [recorded] at returns
      obtain ⟨rfl, _⟩ := returns_pure.mp returns
      exact ⟨rfl, fun _ => rfl⟩

theorem openDevice_returns {operationTimeout : Duration} {trace : RunTrace}
    {result : Except JmcpError Unit} (returns : Returns (openDevice operationTimeout) trace result) :
    Silent trace := by
  obtain ⟨activity, rest, rfl, later⟩ := returns_step.mp returns
  cases activity with
  | active =>
      obtain ⟨_, _, rfl, last⟩ := returns_step.mp later
      obtain ⟨rfl, _⟩ := returns_pure.mp last
      exact ⟨rfl, fun _ => rfl⟩
  | cancelled =>
      obtain ⟨rfl, _⟩ := returns_pure.mp later
      exact ⟨rfl, fun _ => rfl⟩
  | expired =>
      obtain ⟨rfl, _⟩ := returns_pure.mp later
      exact ⟨rfl, fun _ => rfl⟩

theorem finishRun_returns {execution : Execution} {trace : RunTrace}
    {result : Except JmcpError CandidateResult}
    (returns : Returns (finishRun execution) trace result) :
    result = execution.result ∧ deviceTrace trace = [] ∧
      ∀ taint, taintAfter taint trace = taintLeft taint execution := by
  obtain ⟨first, _, _, rfl, settles, later⟩ := returns_bind.mp returns
  obtain ⟨second, _, _, rfl, records, last⟩ := returns_bind.mp later
  obtain ⟨rfl, rfl⟩ := returns_pure.mp last
  obtain ⟨quiet, settled⟩ := settleSession_returns settles
  obtain ⟨silent, recorded⟩ := recordFailure_returns records
  refine ⟨rfl, ?_, fun taint => ?_⟩
  · rw [List.append_nil, deviceTrace_append, quiet, silent]
    rfl
  · rw [List.append_nil, taintAfter_append, settled, recorded, taintLeft]

/-- A run ends before it works on the device, or it is an execution and what that leaves. -/
theorem run_returns {request : CandidateRequest} {operationTimeout cleanupTimeout : Duration}
    {trace : RunTrace} {result : Except JmcpError CandidateResult}
    (returns : Returns (run request operationTimeout cleanupTimeout) trace result) :
    (∃ error, result = .error error ∧ Silent trace) ∨
    ∃ worked execution, Returns (execute request operationTimeout cleanupTimeout) worked execution ∧
      result = execution.result ∧ SameCalls trace worked ∧
      ∀ taint, taintAfter taint trace = taintLeft taint execution := by
  obtain ⟨checked, _, rfl, afterCheck⟩ := returns_step.mp returns
  obtain ⟨opening, rest, opened, rfl, opens, afterOpen⟩ := returns_bind.mp afterCheck
  have checking : Silent [⟨.bare .checkTaint, checked⟩] := ⟨rfl, fun _ => rfl⟩
  have begun := checking.append (openDevice_returns opens)
  cases opened with
  | error error =>
      obtain ⟨rfl, rfl⟩ := returns_pure.mp afterOpen
      exact .inl ⟨error, rfl, by simpa using begun⟩
  | ok _ =>
      obtain ⟨prevented, _, rfl, afterGuard⟩ := returns_step.mp afterOpen
      obtain ⟨configured, _, rfl, afterConfig⟩ := returns_step.mp afterGuard
      have guarded : Silent [⟨.bare .preventReuse, prevented⟩, ⟨.bare .config, configured⟩] :=
        ⟨rfl, fun _ => rfl⟩
      have ready := begun.append guarded
      rcases configured with error | _
      · obtain ⟨rfl, rfl⟩ := returns_pure.mp afterConfig
        exact .inl ⟨error, rfl, by simpa using ready⟩
      · obtain ⟨working, finishing, execution, rfl, works, finishes⟩ := returns_bind.mp afterConfig
        obtain ⟨worked, executed, same, kept⟩ := onDevice_returns works
        obtain ⟨rfl, quiet, left⟩ := finishRun_returns finishes
        have calls : deviceTrace (working ++ finishing) = deviceTrace working := by
          rw [deviceTrace_append, quiet, List.append_nil]
        have leaves (taint : Option Text) :
            taintAfter taint (working ++ finishing) = taintLeft taint execution := by
          rw [taintAfter_append, kept, left]
        have calls := (ready.calls _).trans calls
        have leaves := fun taint => (ready.leaves _ taint).trans (leaves taint)
        simp only [List.cons_append, List.nil_append, List.append_assoc] at calls leaves
        refine .inr ⟨worked, execution, executed, rfl, ?_, leaves⟩
        intro event called
        rw [calls]
        exact same event called

/-- A run that has come to its end. -/
structure DoneRun where
  request : CandidateRequest
  operationTimeout : Duration
  cleanupTimeout : Duration
  trace : RunTrace
  result : Except JmcpError CandidateResult
  returns : Returns (run request operationTimeout cleanupTimeout) trace result

/-! ## What a run says of its commit -/

def CleanupFailed (cleanupTimeout : Duration) (trace : BackendTrace) : Prop :=
  ∃ event ∈ trace, (cleanupFailureOf cleanupTimeout event).isSome

section Execution
variable {request : CandidateRequest} {operationTimeout cleanupTimeout : Duration}
  {trace : BackendTrace} {execution : Execution}

/-- A discard has no cleanup, and its session is reusable when it succeeds. -/
theorem discard_returns (discards : request.mode = .discard)
    (returns : Returns (execute request operationTimeout cleanupTimeout) trace execution) :
    (¬CleanupFailed cleanupTimeout trace ∧ Quiet trace) ∧
      (execution = ⟨.ok .discarded, true⟩ ∨ ∃ error, execution = ⟨.error error, false⟩) := by
  rw [execute, if_pos discards] at returns
  obtain ⟨first, rest, reply, rfl, reverts, later⟩ := returns_bind.mp returns
  have quiet := backendStep_quiet reverts
  have unclean : ∀ event ∈ first, cleanupFailureOf cleanupTimeout event = none := by
    intro event member
    rcases backendStep_returns reverts with ⟨_, _, rfl, _⟩ | ⟨_, rfl, _⟩
    · cases List.mem_singleton.mp member
      rfl
    · simp only [List.mem_cons, List.not_mem_nil, or_false] at member
      rcases member with rfl | rfl <;> rfl
  have untouched : ¬CleanupFailed cleanupTimeout first := by
    rintro ⟨event, member, failure⟩
    rw [unclean event member] at failure
    cases failure
  cases reply with
  | ok _ =>
      obtain ⟨rfl, rfl⟩ := returns_pure.mp later
      rw [List.append_nil]
      exact ⟨⟨untouched, quiet⟩, .inl rfl⟩
  | error error =>
      obtain ⟨rfl, rfl⟩ := returns_pure.mp later
      rw [List.append_nil]
      exact ⟨⟨untouched, quiet⟩, .inr ⟨error, rfl⟩⟩

/-- The results that belong to a mode. -/
def Reports : CandidateMode → CandidateResult → Prop
  | .dryRun, .dryRun _ | .commitCheck, .commitCheck .. | .discard, .discarded => True
  | .commitWithComment _, .committed _ | .commitWithComment _, .commitFailed .. => True
  | .commitConfirmed _, .committed _ | .commitConfirmed _, .commitFailed .. => True
  | _, _ => False

/-- A mode's own step commits exactly when it says so, and reports in kind. -/
def Faithful (mode : CandidateMode) (outcome : Except JmcpError CandidateResult)
    (committed : Bool) : Prop :=
  (committed = true ↔ ∃ diff, outcome = .ok (.committed diff)) ∧
    ∀ result, outcome = .ok result → Reports mode result

theorem faithful_error (mode : CandidateMode) (error : JmcpError) :
    Faithful mode (.error error) false := by
  simp [Faithful]

theorem commitStep_faithful {mode : CandidateMode} {call : BackendCall}
    {read : StepReply BackendCall.Value call → Except JmcpError Unit} {diff : Text}
    {outcome : Except JmcpError CandidateResult} {committed : Bool}
    (commits : ∀ diff, Reports mode (.committed diff))
    (fails : ∀ diff error, Reports mode (.commitFailed diff error))
    (returns : Returns (commitStep call read operationTimeout diff) trace (outcome, committed)) :
    Faithful mode outcome committed := by
  obtain ⟨activity, _, rfl, later⟩ := returns_step.mp returns
  cases activity with
  | active =>
      obtain ⟨reply, _, rfl, last⟩ := returns_step.mp later
      obtain ⟨_, result⟩ := returns_pure.mp last
      cases answer : read reply with
      | ok _ =>
          rw [answer] at result
          cases result
          exact ⟨by simp, by simpa using commits diff⟩
      | error error =>
          rw [answer] at result
          cases result
          exact ⟨by simp, by simpa using fails diff error.display⟩
  | cancelled =>
      obtain ⟨_, result⟩ := returns_pure.mp later
      cases result
      exact faithful_error mode _
  | expired =>
      obtain ⟨_, result⟩ := returns_pure.mp later
      cases result
      exact faithful_error mode _

theorem modeStep_faithful {mode : CandidateMode} {diff : Text}
    {outcome : Except JmcpError CandidateResult} {committed : Bool}
    (returns : Returns (modeStep mode operationTimeout diff) trace (outcome, committed)) :
    Faithful mode outcome committed := by
  cases mode with
  | dryRun =>
      obtain ⟨_, result⟩ := returns_pure.mp returns
      cases result
      exact ⟨by simp, by simp [Reports]⟩
  | discard =>
      obtain ⟨_, result⟩ := returns_pure.mp returns
      cases result
      exact faithful_error _ _
  | commitCheck =>
      obtain ⟨_, _, reply, rfl, _, last⟩ := returns_bind.mp returns
      cases reply with
      | ok _ =>
          obtain ⟨_, result⟩ := returns_pure.mp last
          cases result
          exact ⟨by simp, by simp [Reports]⟩
      | error error =>
          dsimp only at last
          split at last
          · obtain ⟨_, result⟩ := returns_pure.mp last
            cases result
            exact faithful_error _ _
          · obtain ⟨_, result⟩ := returns_pure.mp last
            cases result
            exact ⟨by simp, by simp [Reports]⟩
  | commitWithComment comment =>
      rw [modeStep] at returns
      exact commitStep_faithful (fun _ => trivial) (fun _ _ => trivial) returns
  | commitConfirmed seconds =>
      rw [modeStep] at returns
      exact commitStep_faithful (fun _ => trivial) (fun _ _ => trivial) returns

theorem primaryOperation_faithful {outcome : Except JmcpError CandidateResult} {committed : Bool}
    (returns : Returns (primaryOperation request operationTimeout) trace (outcome, committed)) :
    Faithful request.mode outcome committed := by
  obtain ⟨_, _, loaded, rfl, _, later⟩ := returns_bind.mp returns
  cases loaded with
  | error error =>
      obtain ⟨_, result⟩ := returns_pure.mp later
      cases result
      exact faithful_error _ _
  | ok _ =>
      obtain ⟨_, _, diffed, rfl, _, last⟩ := returns_bind.mp later
      cases diffed with
      | error error =>
          obtain ⟨_, result⟩ := returns_pure.mp last
          cases result
          exact faithful_error _ _
      | ok diff => exact modeStep_faithful last

theorem work_faithful {outcome : Except JmcpError CandidateResult} {committed answered : Bool}
    (returns : Returns (work request operationTimeout) trace (.settle outcome committed answered)) :
    Faithful request.mode outcome committed := by
  obtain ⟨_, _, locked, rfl, _, later⟩ := returns_bind.mp returns
  cases locked with
  | error primary =>
      obtain ⟨_, result⟩ := returns_pure.mp later
      split at result
      · cases result
        exact faithful_error _ _
      · cases result
  | ok _ =>
      obtain ⟨_, _, ⟨outcome, committed⟩, rfl, primary, last⟩ := returns_bind.mp later
      obtain ⟨_, result⟩ := returns_pure.mp last
      cases result
      exact primaryOperation_faithful primary

theorem cleanup_failed_iff {rollbackRequired : Bool} {failures : CleanupFailures}
    (returns : Returns (cleanup rollbackRequired cleanupTimeout) trace failures) :
    CleanupFailed cleanupTimeout trace ↔ failures.isEmpty = false := by
  rcases cleanup_returns returns with ⟨_, rollback, unlock, rfl, rfl⟩ | ⟨_, unlock, rfl, rfl⟩
  · simp only [CleanupFailed, List.mem_cons, List.not_mem_nil, or_false, exists_eq_or_imp,
      exists_eq_left, cleanupFailureOf, CleanupFailures.isEmpty, Bool.and_eq_false_iff,
      Option.isNone_eq_false_iff]
  · simp [CleanupFailed, cleanupFailureOf, CleanupFailures.isEmpty]

theorem work_clean {worked : BackendTrace} {result : Work}
    (returns : Returns (work request operationTimeout) worked result) :
    ¬CleanupFailed cleanupTimeout worked := by
  rintro ⟨event, member, failure⟩
  rw [(returns.allowed (work_performs _ _) event member).no_failure] at failure
  cases failure

def Acked (trace : BackendTrace) : Prop := ∃ event ∈ trace, CommitAcked event

theorem commitShape_acked {worked : BackendTrace} {committed : Bool}
    (shape : CommitShape worked committed) : Acked worked ↔ committed = true := by
  cases shape with
  | uncommitted quiet =>
      constructor
      · rintro ⟨event, member, acked⟩
        exact absurd acked (quiet event member)
      · nofun
  | committed _ acked => exact ⟨fun _ => rfl, fun _ => ⟨_, by simp, acked⟩⟩

/-- What the result of an execution says of the commit and of the cleanup. -/
structure TellsCommit (request : CandidateRequest) (cleanupTimeout : Duration)
    (trace : BackendTrace) (result : Except JmcpError CandidateResult) : Prop where
  committed : (∃ diff, result = .ok (.committed diff)) ↔
    Acked trace ∧ ¬CleanupFailed cleanupTimeout trace
  failed : Acked trace → CleanupFailed cleanupTimeout trace →
    ∃ unlock, result = .error (.candidateCleanupFailed "commit succeeded".toList "ok".toList unlock)
  inKind : ∀ reported, result = .ok reported → Reports request.mode reported

theorem execute_tells
    (returns : Returns (execute request operationTimeout cleanupTimeout) trace execution) :
    TellsCommit request cleanupTimeout trace execution.result := by
  by_cases discards : request.mode = .discard
  · obtain ⟨⟨_, quiet⟩, ended⟩ := discard_returns discards returns
    have unacked : ¬Acked trace := fun ⟨event, member, acked⟩ => quiet event member acked
    rcases ended with rfl | ⟨error, rfl⟩
    · refine ⟨by simp [unacked], fun acked => absurd acked unacked, ?_⟩
      rintro _ ⟨⟩
      rw [discards]
      trivial
    · exact ⟨by simp [unacked], fun acked => absurd acked unacked, nofun⟩
  · rcases execute_returns discards returns with ⟨error, working, rfl⟩ |
      ⟨worked, rest, outcome, committed, answered, failures, rfl, working, cleaning, rfl⟩
    · have unacked : ¬Acked trace := by
        rw [commitShape_acked (work_shape working)]
        nofun
      exact ⟨by simp [unacked], fun acked => absurd acked unacked, nofun⟩
    · have acks : Acked (worked ++ rest) ↔ committed = true := by
        have shaped : Acked worked ↔ committed = true := commitShape_acked (work_shape working)
        rw [← shaped]
        constructor
        · rintro ⟨event, member, acked⟩
          rcases List.mem_append.mp member with early | late
          · exact ⟨event, early, acked⟩
          · obtain ⟨call, timed⟩ := cleanup_timed cleaning event late
            exact absurd timed (acked_not_timed acked call)
        · rintro ⟨event, member, acked⟩
          exact ⟨event, List.mem_append_left _ member, acked⟩
      have fails : CleanupFailed cleanupTimeout (worked ++ rest) ↔ failures.isEmpty = false := by
        rw [← cleanup_failed_iff cleaning]
        constructor
        · rintro ⟨event, member, failure⟩
          rcases List.mem_append.mp member with early | late
          · exact absurd ⟨event, early, failure⟩ (work_clean working)
          · exact ⟨event, late, failure⟩
        · rintro ⟨event, member, failure⟩
          exact ⟨event, List.mem_append_right _ member, failure⟩
      obtain ⟨commits, inKind⟩ := work_faithful working
      cases clean : failures.isEmpty with
      | true =>
          have result : combine outcome failures (reportedPrimary outcome) = outcome := by
            unfold combine
            rw [if_pos clean]
          refine ⟨?_, ?_, ?_⟩
          · rw [acks, fails, clean, result, commits]
            simp
          · intro _ failed
            rw [fails, clean] at failed
            cases failed
          · rw [result]
            exact inKind
      | false =>
          have result : combine outcome failures (reportedPrimary outcome) =
              .error (.candidateCleanupFailed (primaryText outcome)
                (failures.rollback.getD "ok".toList) (failures.unlock.getD "ok".toList)) := by
            unfold combine
            rw [if_neg (by simp [clean])]
            cases outcome <;> rfl
          refine ⟨?_, ?_, ?_⟩
          · rw [acks, fails, clean, result]
            simp
          · intro acked _
            have committed := acks.mp acked
            subst committed
            obtain ⟨diff, rfl⟩ := commits.mp rfl
            rcases cleanup_returns cleaning with ⟨required, _⟩ | ⟨_, unlock, _, rfl⟩
            · cases required
            · exact ⟨_, result⟩
          · rw [result]
            nofun

end Execution

theorem SameCalls.timed {trace : RunTrace} {worked : BackendTrace} (same : SameCalls trace worked)
    {event : BackendEvent} (sends : event.1.sends ≠ none) :
    event ∈ deviceTrace trace ↔ event ∈ worked := by
  apply same event
  intro check
  rw [check] at sends
  exact sends rfl

theorem failure_sends {cleanupTimeout : Duration} {event : BackendEvent} {text : Text}
    (failure : cleanupFailureOf cleanupTimeout event = some text) : event.1.sends ≠ none := by
  obtain ⟨op, answer⟩ := event
  cases op with
  | timed call => nofun
  | _ => cases failure

theorem SameCalls.acked {trace : RunTrace} {worked : BackendTrace} (same : SameCalls trace worked) :
    Acked (deviceTrace trace) ↔ Acked worked := by
  have sends {event : BackendEvent} (acked : CommitAcked event) : event.1 ≠ .ensureActive := by
    cases acked <;> nofun
  constructor
  · rintro ⟨event, member, acked⟩
    exact ⟨event, (same event (sends acked)).mp member, acked⟩
  · rintro ⟨event, member, acked⟩
    exact ⟨event, (same event (sends acked)).mpr member, acked⟩

theorem SameCalls.failed {trace : RunTrace} {worked : BackendTrace} (same : SameCalls trace worked)
    {cleanupTimeout : Duration} :
    CleanupFailed cleanupTimeout (deviceTrace trace) ↔ CleanupFailed cleanupTimeout worked := by
  have sends {event : BackendEvent} (failure : (cleanupFailureOf cleanupTimeout event).isSome) :
      event.1.sends ≠ none := by
    obtain ⟨text, shown⟩ := Option.isSome_iff_exists.mp failure
    exact failure_sends shown
  constructor
  · rintro ⟨event, member, failure⟩
    exact ⟨event, (same.timed (sends failure)).mp member, failure⟩
  · rintro ⟨event, member, failure⟩
    exact ⟨event, (same.timed (sends failure)).mpr member, failure⟩

theorem DoneRun.tells (done : DoneRun) :
    TellsCommit done.request done.cleanupTimeout (deviceTrace done.trace) done.result := by
  rcases run_returns done.returns with ⟨error, refused, silent⟩ |
    ⟨worked, execution, executed, result, same, _⟩
  · have unacked : ¬Acked (deviceTrace done.trace) := by
      rw [silent.device]
      rintro ⟨_, member, _⟩
      cases member
    rw [refused]
    exact ⟨by simp [unacked], fun acked => absurd acked unacked, nofun⟩
  · obtain ⟨committed, failed, inKind⟩ := execute_tells executed
    rw [result]
    refine ⟨?_, ?_, inKind⟩
    · rw [same.acked, same.failed]
      exact committed
    · rw [same.acked, same.failed]
      exact failed

end JunosMcp.CandidateRun
