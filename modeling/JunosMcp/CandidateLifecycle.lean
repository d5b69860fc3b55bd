import JunosMcp.CandidateTransaction

/-!
# The lifecycle of a candidate transaction

A run of `execute` is the work, which may commit as its last step, and then the cleanup.
-/

namespace JunosMcp
open Lib

abbrev BackendEvent := Σ op, BackendRes op

abbrev BackendTrace := Trace BackendOp BackendRes

/-! ## Events -/

/-- The device holds the lock, or may hold it. -/
inductive LockEntered : BackendEvent → Prop where
  | acknowledged : LockEntered ⟨.raced .lock, Raced.completed (.ok ())⟩
  | cancelled : LockEntered ⟨.raced .lock, Raced.cancelled⟩
  | elapsed : LockEntered ⟨.raced .lock, Raced.elapsed⟩

inductive CommitAcked : BackendEvent → Prop where
  | withComment (comment : Text) : CommitAcked ⟨.bare (.commitWithComment comment), .ok ()⟩
  | confirmed (seconds : Nat) : CommitAcked ⟨.bare (.commitConfirmed seconds), .ok ()⟩

def AttemptsRollback (event : BackendEvent) : Prop := event.1.sends = some .rollback

def AttemptsUnlock (event : BackendEvent) : Prop := event.1.sends = some .unlock

/-- The failure text of a cleanup step, for the events that are one. -/
def cleanupFailureOf (cleanupTimeout : Duration) : BackendEvent → Option Text
  | ⟨.timed _, reply⟩ => cleanupFailure cleanupTimeout reply
  | _ => none

/-- The same event with its cleanup step carried out. -/
def settled : BackendEvent → BackendEvent
  | ⟨.timed .rollback, _⟩ => ⟨.timed .rollback, Timed.completed (.ok ())⟩
  | ⟨.timed .unlock, _⟩ => ⟨.timed .unlock, Timed.completed (.ok ())⟩
  | event => event

/-- The text under which an outcome is carried by a cleanup error. -/
def primaryText (outcome : Except JmcpError CandidateResult) : Text :=
  match outcome with
  | .error error => error.display
  | .ok _ => (reportedPrimary outcome).getD "none".toList

/-! ## Work and cleanup -/

/-- How the part before the cleanup ends. -/
inductive Work where
  | refused (error : JmcpError)
  | settle (outcome : Except JmcpError CandidateResult) (committed answered : Bool)

def Work.committed : Work → Bool
  | .refused _ => false
  | .settle _ committed _ => committed

def work (request : CandidateRequest) (operationTimeout : Duration) : BackendProg Work :=
  (backendStep operationTimeout .lock).bind fun
    | .error primary =>
        .pure (if primary.dropped then .settle (.error primary) false false else .refused primary)
    | .ok _ => (primaryOperation request operationTimeout).bind fun (outcome, committed) =>
        .pure (.settle outcome committed (!primaryDropped outcome))

def finish (cleanupTimeout : Duration) : Work → BackendProg Execution
  | .refused error => .pure ⟨.error error, false⟩
  | .settle outcome committed answered =>
      (cleanup (!committed) cleanupTimeout).bind fun failures =>
        .pure ⟨combine outcome failures (reportedPrimary outcome), failures.isEmpty && answered⟩

theorem execute_eq {request : CandidateRequest} (locks : request.mode ≠ .discard)
    (operationTimeout cleanupTimeout : Duration) :
    execute request operationTimeout cleanupTimeout =
      (work request operationTimeout).bind (finish cleanupTimeout) := by
  rw [execute, if_neg locks, work, Prog.bind_assoc]
  congr 1
  funext lock
  cases lock with
  | error primary =>
      cases dropped : primary.dropped with
      | true => simp [finish, reportedPrimary, dropped]
      | false => simp [finish, dropped]
  | ok _ => simp only [lockedTransaction, Prog.bind_assoc, Prog.pure_bind, finish]

/-! ## What one step leaves in the trace -/

theorem backendStep_returns {operationTimeout : Duration} {call : BackendCall}
    {trace : BackendTrace} {result : Except JmcpError call.Value} :
    Returns (backendStep operationTimeout call) trace result →
      (∃ activity error, trace = [⟨.ensureActive, activity⟩] ∧ result = .error error) ∨
      ∃ reply, trace = [⟨.ensureActive, Activity.active⟩, ⟨.raced call, reply⟩] ∧
        result = ofRaced operationTimeout reply := by
  intro returns
  obtain ⟨activity, rest, rfl, later⟩ := returns_step.mp returns
  cases activity with
  | active =>
      obtain ⟨reply, rest, rfl, last⟩ := returns_step.mp later
      obtain ⟨rfl, rfl⟩ := returns_pure.mp last
      exact .inr ⟨reply, rfl, rfl⟩
  | cancelled =>
      obtain ⟨rfl, rfl⟩ := returns_pure.mp later
      exact .inl ⟨_, _, rfl, rfl⟩
  | expired =>
      obtain ⟨rfl, rfl⟩ := returns_pure.mp later
      exact .inl ⟨_, _, rfl, rfl⟩

theorem cleanup_returns {rollbackRequired : Bool} {cleanupTimeout : Duration}
    {trace : BackendTrace} {failures : CleanupFailures}
    (returns : Returns (cleanup rollbackRequired cleanupTimeout) trace failures) :
    (rollbackRequired = true ∧ ∃ rollback unlock,
      trace = [⟨.timed .rollback, rollback⟩, ⟨.timed .unlock, unlock⟩] ∧
      failures = ⟨cleanupFailure cleanupTimeout rollback, cleanupFailure cleanupTimeout unlock⟩) ∨
    (rollbackRequired = false ∧ ∃ unlock, trace = [⟨.timed .unlock, unlock⟩] ∧
      failures = ⟨none, cleanupFailure cleanupTimeout unlock⟩) := by
  cases rollbackRequired with
  | true =>
      obtain ⟨rollback, rest, rfl, later⟩ := returns_step.mp returns
      obtain ⟨unlock, rest, rfl, last⟩ := returns_step.mp later
      obtain ⟨rfl, rfl⟩ := returns_pure.mp last
      exact .inl ⟨rfl, rollback, unlock, rfl, rfl⟩
  | false =>
      obtain ⟨unlock, rest, rfl, last⟩ := returns_step.mp returns
      obtain ⟨rfl, rfl⟩ := returns_pure.mp last
      exact .inr ⟨rfl, unlock, rfl, rfl⟩

/-! ## The work never cleans up -/

/-- The awaits of the work: races other than a cleanup call's, and the bare commit. -/
def WorkOp : BackendOp → Prop
  | .ensureActive => True
  | .raced call => call ≠ .rollback ∧ call ≠ .unlock
  | .bare (.commitWithComment _) | .bare (.commitConfirmed _) => True
  | _ => False

theorem backendStep_performs (operationTimeout : Duration) (call : BackendCall)
    (allowed : call ≠ .rollback ∧ call ≠ .unlock) :
    (backendStep operationTimeout call).Performs WorkOp := by
  refine ⟨trivial, fun activity => ?_⟩
  cases activity with
  | active => exact ⟨allowed, fun _ => trivial⟩
  | cancelled => trivial
  | expired => trivial

theorem loadCandidate_performs (request : CandidateRequest) (operationTimeout : Duration) :
    (loadCandidate request operationTimeout).Performs WorkOp := by
  unfold loadCandidate
  split
  · exact backendStep_performs _ (.loadRollback _) ⟨nofun, nofun⟩
  · split
    · exact backendStep_performs _ (.load _ _) ⟨nofun, nofun⟩
    · trivial

theorem modeStep_performs (mode : CandidateMode) (operationTimeout : Duration) (diff : Text) :
    (modeStep mode operationTimeout diff).Performs WorkOp := by
  cases mode with
  | dryRun => trivial
  | discard => trivial
  | commitCheck =>
      refine (backendStep_performs _ .commitCheck ⟨nofun, nofun⟩).bind fun reply => ?_
      cases reply with
      | ok _ => trivial
      | error error =>
          dsimp only
          split <;> trivial
  | commitWithComment comment =>
      refine ⟨trivial, fun activity => ?_⟩
      cases activity with
      | active => exact ⟨trivial, fun _ => trivial⟩
      | cancelled => trivial
      | expired => trivial
  | commitConfirmed seconds =>
      refine ⟨trivial, fun activity => ?_⟩
      cases activity with
      | active => exact ⟨trivial, fun _ => trivial⟩
      | cancelled => trivial
      | expired => trivial

theorem primaryOperation_performs (request : CandidateRequest) (operationTimeout : Duration) :
    (primaryOperation request operationTimeout).Performs WorkOp := by
  refine (loadCandidate_performs _ _).bind fun loaded => ?_
  cases loaded with
  | error error => trivial
  | ok _ =>
      refine (backendStep_performs _ .diff ⟨nofun, nofun⟩).bind fun diff => ?_
      cases diff with
      | error error => trivial
      | ok diff => exact modeStep_performs _ _ _

theorem work_performs (request : CandidateRequest) (operationTimeout : Duration) :
    (work request operationTimeout).Performs WorkOp := by
  refine (backendStep_performs _ .lock ⟨nofun, nofun⟩).bind fun lock => ?_
  cases lock with
  | error primary => trivial
  | ok _ => exact (primaryOperation_performs _ _).bind fun _ => trivial

theorem WorkOp.not_rollback {op : BackendOp} (allowed : WorkOp op) : op.sends ≠ some .rollback := by
  intro sends
  cases op with
  | ensureActive => cases sends
  | raced call => exact allowed.1 (Option.some.inj sends)
  | bare call => cases Option.some.inj sends; exact allowed
  | timed call => exact allowed

theorem WorkOp.settled {event : BackendEvent} (allowed : WorkOp event.1) :
    settled event = event := by
  obtain ⟨op, answer⟩ := event
  cases op with
  | timed call => exact allowed.elim
  | _ => rfl

/-! ## Where a commit stands in the work -/

def Quiet (trace : BackendTrace) : Prop := ∀ event ∈ trace, ¬CommitAcked event

/-- An acknowledged commit is the last event, and the flag says whether there is one. -/
inductive CommitShape : BackendTrace → Bool → Prop where
  | uncommitted {trace : BackendTrace} : Quiet trace → CommitShape trace false
  | committed {trace : BackendTrace} {event : BackendEvent} :
      Quiet trace → CommitAcked event → CommitShape (trace ++ [event]) true

theorem quiet_nil : Quiet [] := fun _ member => absurd member List.not_mem_nil

theorem Quiet.append {first second : BackendTrace} (quiet : Quiet first) (rest : Quiet second) :
    Quiet (first ++ second) := by
  intro event member
  rcases List.mem_append.mp member with here | there
  · exact quiet event here
  · exact rest event there

theorem CommitShape.after {first second : BackendTrace} {committed : Bool} (quiet : Quiet first)
    (shape : CommitShape second committed) : CommitShape (first ++ second) committed := by
  cases shape with
  | uncommitted rest => exact .uncommitted (quiet.append rest)
  | committed rest acked =>
      rw [← List.append_assoc]
      exact .committed (quiet.append rest) acked

theorem CommitShape.quiet {trace : BackendTrace} (shape : CommitShape trace false) :
    Quiet trace := by
  cases shape with
  | uncommitted quiet => exact quiet

theorem CommitShape.last {trace : BackendTrace} (shape : CommitShape trace true) :
    ∃ front last, trace = front ++ [last] ∧ CommitAcked last := by
  cases shape with
  | committed _ acked => exact ⟨_, _, rfl, acked⟩

theorem not_acked_of_not_bare {event : BackendEvent} (notBare : ∀ call, event.1 ≠ .bare call) :
    ¬CommitAcked event := by
  intro acked
  cases acked with
  | withComment comment => exact notBare _ rfl
  | confirmed seconds => exact notBare _ rfl

theorem backendStep_quiet {operationTimeout : Duration} {call : BackendCall}
    {trace : BackendTrace} {result : Except JmcpError call.Value}
    (returns : Returns (backendStep operationTimeout call) trace result) : Quiet trace := by
  intro event member
  apply not_acked_of_not_bare
  rcases backendStep_returns returns with ⟨_, _, rfl, _⟩ | ⟨_, rfl, _⟩
  · simp only [List.mem_singleton] at member
    rw [member]
    nofun
  · simp only [List.mem_cons, List.not_mem_nil, or_false] at member
    rcases member with rfl | rfl <;> nofun

theorem loadCandidate_quiet {request : CandidateRequest} {operationTimeout : Duration}
    {trace : BackendTrace} {result : Except JmcpError Unit}
    (returns : Returns (loadCandidate request operationTimeout) trace result) : Quiet trace := by
  unfold loadCandidate at returns
  split at returns
  · exact backendStep_quiet returns
  · split at returns
    · exact backendStep_quiet returns
    · obtain ⟨rfl, _⟩ := returns_pure.mp returns
      exact quiet_nil

theorem commitStep_shape {call : BackendCall}
    {read : StepReply BackendCall.Value call → Except JmcpError Unit}
    (acks : ∀ reply, CommitAcked ⟨.bare call, reply⟩ ↔ read reply = .ok ())
    {operationTimeout : Duration} {diff : Text} {trace : BackendTrace}
    {outcome : Except JmcpError CandidateResult} {committed : Bool}
    (returns : Returns (commitStep call read operationTimeout diff) trace (outcome, committed)) :
    CommitShape trace committed := by
  obtain ⟨activity, rest, rfl, later⟩ := returns_step.mp returns
  have sent : ∀ activity, Quiet [⟨.ensureActive, activity⟩] := by
    intro activity event member
    apply not_acked_of_not_bare
    rw [List.mem_singleton.mp member]
    nofun
  cases activity with
  | active =>
      obtain ⟨reply, rest, rfl, last⟩ := returns_step.mp later
      obtain ⟨rfl, result⟩ := returns_pure.mp last
      cases answer : read reply with
      | ok _ =>
          rw [answer] at result
          cases result
          exact .committed (sent _) ((acks reply).mpr answer)
      | error error =>
          rw [answer] at result
          cases result
          refine .uncommitted ((sent _).append ?_)
          intro event member
          rw [List.mem_singleton.mp member, acks reply, answer]
          nofun
  | cancelled =>
      obtain ⟨rfl, result⟩ := returns_pure.mp later
      cases result
      exact .uncommitted (sent _)
  | expired =>
      obtain ⟨rfl, result⟩ := returns_pure.mp later
      cases result
      exact .uncommitted (sent _)

theorem commitWithComment_acks (comment : Text)
    (reply : StepReply BackendCall.Value (.commitWithComment comment)) :
    CommitAcked ⟨.bare (.commitWithComment comment), reply⟩ ↔ id reply = .ok () := by
  constructor
  · intro acked
    cases acked
    rfl
  · intro answer
    cases (answer : reply = .ok ())
    exact .withComment comment

theorem commitConfirmed_acks (seconds : Nat)
    (reply : StepReply BackendCall.Value (.commitConfirmed seconds)) :
    CommitAcked ⟨.bare (.commitConfirmed seconds), reply⟩ ↔ id reply = .ok () := by
  constructor
  · intro acked
    cases acked
    rfl
  · intro answer
    cases (answer : reply = .ok ())
    exact .confirmed seconds

theorem modeStep_shape {mode : CandidateMode} {operationTimeout : Duration} {diff : Text}
    {trace : BackendTrace} {outcome : Except JmcpError CandidateResult} {committed : Bool}
    (returns : Returns (modeStep mode operationTimeout diff) trace (outcome, committed)) :
    CommitShape trace committed := by
  cases mode with
  | dryRun =>
      obtain ⟨rfl, result⟩ := returns_pure.mp returns
      cases result
      exact .uncommitted quiet_nil
  | discard =>
      obtain ⟨rfl, result⟩ := returns_pure.mp returns
      cases result
      exact .uncommitted quiet_nil
  | commitCheck =>
      obtain ⟨first, second, reply, rfl, checked, last⟩ := returns_bind.mp returns
      have quiet := backendStep_quiet checked
      cases reply with
      | ok _ =>
          obtain ⟨rfl, result⟩ := returns_pure.mp last
          cases result
          exact .uncommitted (quiet.append quiet_nil)
      | error error =>
          dsimp only at last
          split at last
          all_goals
            obtain ⟨rfl, result⟩ := returns_pure.mp last
            cases result
            exact .uncommitted (quiet.append quiet_nil)
  | commitWithComment comment =>
      rw [modeStep] at returns
      exact commitStep_shape (commitWithComment_acks comment) returns
  | commitConfirmed seconds =>
      rw [modeStep] at returns
      exact commitStep_shape (commitConfirmed_acks seconds) returns

theorem primaryOperation_shape {request : CandidateRequest} {operationTimeout : Duration}
    {trace : BackendTrace} {outcome : Except JmcpError CandidateResult} {committed : Bool}
    (returns : Returns (primaryOperation request operationTimeout) trace (outcome, committed)) :
    CommitShape trace committed := by
  obtain ⟨first, rest, loaded, rfl, load, later⟩ := returns_bind.mp returns
  have quiet := loadCandidate_quiet load
  cases loaded with
  | error error =>
      obtain ⟨rfl, result⟩ := returns_pure.mp later
      cases result
      exact .uncommitted (quiet.append quiet_nil)
  | ok _ =>
      obtain ⟨second, rest, diffed, rfl, diff, last⟩ := returns_bind.mp later
      refine CommitShape.after quiet ?_
      have quiet := backendStep_quiet diff
      cases diffed with
      | error error =>
          obtain ⟨rfl, result⟩ := returns_pure.mp last
          cases result
          exact .uncommitted (quiet.append quiet_nil)
      | ok diff => exact CommitShape.after quiet (modeStep_shape last)

theorem work_shape {request : CandidateRequest} {operationTimeout : Duration}
    {trace : BackendTrace} {result : Work}
    (returns : Returns (work request operationTimeout) trace result) :
    CommitShape trace result.committed := by
  obtain ⟨first, rest, locked, rfl, lock, later⟩ := returns_bind.mp returns
  have quiet := backendStep_quiet lock
  cases locked with
  | error primary =>
      obtain ⟨rfl, rfl⟩ := returns_pure.mp later
      split <;> exact .uncommitted (quiet.append quiet_nil)
  | ok _ =>
      obtain ⟨second, rest, ⟨outcome, committed⟩, rfl, primary, last⟩ := returns_bind.mp later
      obtain ⟨rfl, rfl⟩ := returns_pure.mp last
      rw [List.append_nil]
      exact CommitShape.after quiet (primaryOperation_shape primary)

/-- A refused transaction never entered the lock. -/
theorem work_refused {request : CandidateRequest} {operationTimeout : Duration}
    {trace : BackendTrace} {error : JmcpError}
    (returns : Returns (work request operationTimeout) trace (.refused error)) :
    ∀ event ∈ trace, ¬LockEntered event := by
  obtain ⟨first, rest, locked, rfl, lock, later⟩ := returns_bind.mp returns
  cases locked with
  | ok _ =>
      obtain ⟨_, _, _, _, _, last⟩ := returns_bind.mp later
      obtain ⟨_, result⟩ := returns_pure.mp last
      cases result
  | error primary =>
      obtain ⟨rfl, result⟩ := returns_pure.mp later
      cases dropped : primary.dropped with
      | true => simp [dropped] at result
      | false =>
          intro event member entered
          rw [List.append_nil] at member
          rcases backendStep_returns lock with ⟨_, _, rfl, _⟩ | ⟨reply, rfl, answer⟩
          · cases List.mem_singleton.mp member
            cases entered
          · simp only [List.mem_cons, List.not_mem_nil, or_false] at member
            rcases member with rfl | rfl
            · cases entered
            · cases entered with
              | acknowledged => cases answer
              | cancelled =>
                  cases answer
                  cases dropped
              | elapsed =>
                  cases answer
                  cases dropped

/-! ## The device under the transaction -/

/-- The lock and the candidate, as far as this session answers for them. -/
structure CandidateDevice where
  locked : Bool
  dirty : Bool

/-- A failed or unanswered call may have been carried out, and any load may leave edits behind. -/
def CandidateDevice.effect : Await.Effect BackendCall (StepReply BackendCall.Value) CandidateDevice
  | s, .lock, some (.ok _), s' => s'.locked = true ∧ s'.dirty = s.dirty
  | s, .lock, _, s' => s'.dirty = s.dirty
  | s, .load _ _, _, s' => s'.locked = s.locked
  | s, .loadRollback _, _, s' => s'.locked = s.locked
  | s, .diff, _, s' => s' = s
  | s, .commitCheck, _, s' => s' = s
  | s, .commitWithComment _, some (.ok _), s' => s' = { s with dirty := false }
  | s, .commitWithComment _, _, s' => s' = s ∨ s' = { s with dirty := false }
  | s, .commitConfirmed _, some (.ok _), s' => s' = { s with dirty := false }
  | s, .commitConfirmed _, _, s' => s' = s ∨ s' = { s with dirty := false }
  | s, .rollback, some (.ok _), s' => s' = { s with dirty := false }
  | s, .rollback, _, s' => s' = s ∨ s' = { s with dirty := false }
  | s, .unlock, some (.ok _), s' => s' = { s with locked := false }
  | s, .unlock, _, s' => s' = s ∨ s' = { s with locked := false }

def candidateWorld : World BackendOp BackendRes CandidateDevice :=
  Await.world CandidateDevice.effect

theorem commit_cleans {event : BackendEvent} (acked : CommitAcked event) {s s' : CandidateDevice}
    (follows : Follows candidateWorld s [event] s') : s'.dirty = false := by
  cases acked with
  | withComment comment =>
      obtain ⟨_, here, rest⟩ := follows_cons.mp follows
      cases rest
      rw [show s' = { s with dirty := false } from here]
  | confirmed seconds =>
      obtain ⟨_, here, rest⟩ := follows_cons.mp follows
      cases rest
      rw [show s' = { s with dirty := false } from here]

theorem CommitShape.cleans {trace : BackendTrace} (shape : CommitShape trace true)
    {s s' : CandidateDevice} (follows : Follows candidateWorld s trace s') : s'.dirty = false := by
  obtain ⟨front, last, rfl, acked⟩ := shape.last
  obtain ⟨_, _, committing⟩ := follows_append.mp follows
  exact commit_cleans acked committing

/-- A cleanup with no failures leaves the session without lock and without edits. -/
theorem cleanup_restores {committed : Bool} {cleanupTimeout : Duration} {trace : BackendTrace}
    {failures : CleanupFailures}
    (returns : Returns (cleanup (!committed) cleanupTimeout) trace failures)
    (clean : failures.isEmpty = true) {s s' : CandidateDevice}
    (committedClean : committed = true → s.dirty = false)
    (follows : Follows candidateWorld s trace s') : s'.locked = false ∧ s'.dirty = false := by
  rcases cleanup_returns returns with ⟨_, rollback, unlock, rfl, rfl⟩ | ⟨required, unlock, rfl, rfl⟩
  · simp only [CleanupFailures.isEmpty, Bool.and_eq_true, Option.isNone_iff_eq_none] at clean
    obtain ⟨_, rfl⟩ := cleanupFailure_eq_none clean.1
    obtain ⟨_, rfl⟩ := cleanupFailure_eq_none clean.2
    obtain ⟨middle, reverted, rest⟩ := follows_cons.mp follows
    obtain ⟨_, unlocked, rest⟩ := follows_cons.mp rest
    cases rest
    rw [show s' = { middle with locked := false } from unlocked,
      show middle = { s with dirty := false } from reverted]
    exact ⟨rfl, rfl⟩
  · simp only [CleanupFailures.isEmpty, Bool.and_eq_true, Option.isNone_iff_eq_none] at clean
    obtain ⟨_, rfl⟩ := cleanupFailure_eq_none clean.2
    obtain ⟨_, unlocked, rest⟩ := follows_cons.mp follows
    cases rest
    rw [show s' = { s with locked := false } from unlocked]
    exact ⟨rfl, committedClean (by simpa using required)⟩

/-! ## The whole run -/

/-- A run is its work and then the cleanup the work calls for. -/
theorem execute_returns {request : CandidateRequest} (locks : request.mode ≠ .discard)
    {operationTimeout cleanupTimeout : Duration} {trace : BackendTrace} {execution : Execution}
    (returns : Returns (execute request operationTimeout cleanupTimeout) trace execution) :
    (∃ error, Returns (work request operationTimeout) trace (.refused error) ∧
      execution = ⟨.error error, false⟩) ∨
    ∃ worked rest outcome committed answered failures, trace = worked ++ rest ∧
      Returns (work request operationTimeout) worked (.settle outcome committed answered) ∧
      Returns (cleanup (!committed) cleanupTimeout) rest failures ∧
      execution = ⟨combine outcome failures (reportedPrimary outcome),
        failures.isEmpty && answered⟩ := by
  rw [execute_eq locks] at returns
  obtain ⟨worked, rest, result, rfl, working, finishing⟩ := returns_bind.mp returns
  cases result with
  | refused error =>
      obtain ⟨rfl, rfl⟩ := returns_pure.mp finishing
      exact .inl ⟨error, by rwa [List.append_nil], rfl⟩
  | settle outcome committed answered =>
      obtain ⟨cleaned, last, failures, rfl, cleaning, ending⟩ := returns_bind.mp finishing
      obtain ⟨rfl, rfl⟩ := returns_pure.mp ending
      exact .inr ⟨worked, cleaned, outcome, committed, answered, failures, by simp, working,
        cleaning, rfl⟩

/-- An event of the work stands before the whole cleanup. -/
theorem split_work {worked rest before after : BackendTrace} {event : BackendEvent}
    (split : worked ++ rest = before ++ event :: after) (outside : event ∉ rest) :
    ∃ tail, worked = before ++ event :: tail ∧ after = tail ++ rest := by
  rcases List.append_eq_append_iff.mp split with ⟨more, rfl, inRest⟩ | ⟨more, rfl, behind⟩
  · exact absurd (inRest ▸ by simp) outside
  · cases more with
    | nil =>
        have inRest : rest = event :: after := by simpa using behind.symm
        exact absurd (inRest ▸ List.mem_cons_self) outside
    | cons first tail =>
        cases behind
        exact ⟨tail, rfl, rfl⟩

theorem cleanup_timed {rollbackRequired : Bool} {cleanupTimeout : Duration}
    {trace : BackendTrace} {failures : CleanupFailures}
    (returns : Returns (cleanup rollbackRequired cleanupTimeout) trace failures) :
    ∀ event ∈ trace, ∃ call, event.1 = .timed call := by
  intro event member
  rcases cleanup_returns returns with ⟨_, _, _, rfl, _⟩ | ⟨_, _, rfl, _⟩
  · simp only [List.mem_cons, List.not_mem_nil, or_false] at member
    rcases member with rfl | rfl <;> exact ⟨_, rfl⟩
  · cases List.mem_singleton.mp member
    exact ⟨_, rfl⟩

theorem lockEntered_not_timed {event : BackendEvent} (entered : LockEntered event) (call) :
    event.1 ≠ .timed call := by
  cases entered <;> nofun

theorem acked_not_timed {event : BackendEvent} (acked : CommitAcked event) (call) :
    event.1 ≠ .timed call := by
  cases acked <;> nofun

theorem cleanup_unlocks {rollbackRequired : Bool} {cleanupTimeout : Duration}
    {trace : BackendTrace} {failures : CleanupFailures}
    (returns : Returns (cleanup rollbackRequired cleanupTimeout) trace failures) :
    ∃ event ∈ trace, AttemptsUnlock event := by
  rcases cleanup_returns returns with ⟨_, _, unlock, rfl, _⟩ | ⟨_, unlock, rfl, _⟩
  · exact ⟨⟨.timed .unlock, unlock⟩, by simp, rfl⟩
  · exact ⟨⟨.timed .unlock, unlock⟩, by simp, rfl⟩

theorem cleanup_rollsBack {rollbackRequired : Bool} {cleanupTimeout : Duration}
    {trace : BackendTrace} {failures : CleanupFailures}
    (returns : Returns (cleanup rollbackRequired cleanupTimeout) trace failures) :
    (∃ event ∈ trace, AttemptsRollback event) ↔ rollbackRequired = true := by
  rcases cleanup_returns returns with ⟨rfl, rollback, _, rfl, _⟩ | ⟨rfl, unlock, rfl, _⟩
  · exact ⟨fun _ => rfl, fun _ => ⟨⟨.timed .rollback, rollback⟩, by simp, rfl⟩⟩
  · constructor
    · rintro ⟨event, member, attempts⟩
      cases List.mem_singleton.mp member
      cases attempts
    · nofun

theorem work_no_rollback {request : CandidateRequest} {operationTimeout : Duration}
    {trace : BackendTrace} {result : Work}
    (returns : Returns (work request operationTimeout) trace result) :
    ∀ event ∈ trace, ¬AttemptsRollback event :=
  fun event member => (returns.allowed (work_performs _ _) event member).not_rollback

/-- With the cleanup steps carried out, the same work reports its own outcome. -/
theorem execute_settled {request : CandidateRequest} (locks : request.mode ≠ .discard)
    {operationTimeout cleanupTimeout : Duration} {worked rest : BackendTrace}
    {outcome : Except JmcpError CandidateResult} {committed answered : Bool}
    {failures : CleanupFailures}
    (working : Returns (work request operationTimeout) worked (.settle outcome committed answered))
    (cleaning : Returns (cleanup (!committed) cleanupTimeout) rest failures) :
    Returns (execute request operationTimeout cleanupTimeout) ((worked ++ rest).map settled)
      ⟨outcome, answered⟩ := by
  have unchanged : worked.map settled = worked :=
    (List.map_congr_left fun event member =>
      (working.allowed (work_performs _ _) event member).settled).trans (List.map_id _)
  rw [List.map_append, unchanged, execute_eq locks, returns_bind]
  refine ⟨worked, rest.map settled, _, rfl, working, ?_⟩
  cases committed with
  | true =>
      rcases cleanup_returns cleaning with ⟨required, _⟩ | ⟨_, unlock, rfl, _⟩
      · cases required
      · exact .step (.pure _)
  | false =>
      rcases cleanup_returns cleaning with ⟨_, rollback, unlock, rfl, _⟩ | ⟨required, _⟩
      · exact .step (.step (.pure _))
      · cases required

/-- What a cleanup error says about one of its steps. -/
def ReportsStep (cleanupTimeout : Duration) (trace : BackendTrace) (call : BackendCall)
    (text : Text) : Prop :=
  ∀ event ∈ trace, event.1 = .timed call →
    text = (cleanupFailureOf cleanupTimeout event).getD "ok".toList

structure ExecuteLifecycle (request : CandidateRequest) (operationTimeout cleanupTimeout : Duration)
    (trace : BackendTrace) (execution : Execution) : Prop where
  unlocks : ∀ before event after, trace = before ++ event :: after → LockEntered event →
    ∃ later ∈ after, AttemptsUnlock later
  rollsBack : ∀ before event after, trace = before ++ event :: after → LockEntered event →
    ((∃ later ∈ after, AttemptsRollback later) ↔ ¬∃ later ∈ after, CommitAcked later)
  keepsCommit : ∀ before event after, trace = before ++ event :: after → CommitAcked event →
    ∀ later ∈ after, ¬AttemptsRollback later
  reusable : execution.reusable = true → ∀ start finish, Follows candidateWorld start trace finish →
    finish.locked = false ∧ finish.dirty = false
  carries : (∃ event ∈ trace, (cleanupFailureOf cleanupTimeout event).isSome) →
    ∃ outcome reusable rollback unlock,
      Returns (execute request operationTimeout cleanupTimeout) (trace.map settled)
        ⟨outcome, reusable⟩ ∧
      execution.result = .error (.candidateCleanupFailed (primaryText outcome) rollback unlock) ∧
      ReportsStep cleanupTimeout trace .rollback rollback ∧
      ReportsStep cleanupTimeout trace .unlock unlock

theorem WorkOp.no_failure {cleanupTimeout : Duration} {event : BackendEvent}
    (allowed : WorkOp event.1) : cleanupFailureOf cleanupTimeout event = none := by
  obtain ⟨op, answer⟩ := event
  cases op with
  | timed call => exact allowed.elim
  | _ => rfl

theorem WorkOp.not_timed {op : BackendOp} (allowed : WorkOp op) (call : BackendCall) :
    op ≠ .timed call := by
  rintro rfl
  exact allowed

section Settled
variable {request : CandidateRequest} {operationTimeout cleanupTimeout : Duration}
  {worked rest before after : BackendTrace} {event : BackendEvent}
  {outcome : Except JmcpError CandidateResult} {committed answered : Bool}
  {failures : CleanupFailures}

theorem settled_rollsBack
    (working : Returns (work request operationTimeout) worked (.settle outcome committed answered))
    (cleaning : Returns (cleanup (!committed) cleanupTimeout) rest failures)
    (split : worked ++ rest = before ++ event :: after) (entered : LockEntered event) :
    (∃ later ∈ after, AttemptsRollback later) ↔ ¬∃ later ∈ after, CommitAcked later := by
  have outside : event ∉ rest := fun member =>
    have ⟨call, timed⟩ := cleanup_timed cleaning event member
    lockEntered_not_timed entered call timed
  obtain ⟨tail, rfl, rfl⟩ := split_work split outside
  have quietRest : Quiet rest := fun later member acked =>
    have ⟨call, timed⟩ := cleanup_timed cleaning later member
    acked_not_timed acked call timed
  have noRollback : ∀ later ∈ tail, ¬AttemptsRollback later := fun later member =>
    work_no_rollback working later (by simp [member])
  have inCleanup : (∃ later ∈ tail ++ rest, AttemptsRollback later) ↔ committed = false := by
    rw [← Bool.not_eq_true', ← cleanup_rollsBack cleaning]
    constructor
    · rintro ⟨later, member, attempts⟩
      rcases List.mem_append.mp member with inTail | inRest
      · exact absurd attempts (noRollback later inTail)
      · exact ⟨later, inRest, attempts⟩
    · rintro ⟨later, member, attempts⟩
      exact ⟨later, List.mem_append_right _ member, attempts⟩
  rw [inCleanup]
  have shape := work_shape working
  cases committed with
  | false =>
      refine ⟨fun _ => ?_, fun _ => rfl⟩
      rintro ⟨later, member, acked⟩
      rcases List.mem_append.mp member with inTail | inRest
      · exact shape.quiet later (by simp [inTail]) acked
      · exact quietRest later inRest acked
  | true =>
      refine ⟨nofun, fun none => absurd ?_ none⟩
      obtain ⟨front, last, whole, acked⟩ := shape.last
      refine ⟨last, List.mem_append_left _ ?_, acked⟩
      -- the acknowledged commit is the last event of the work, behind the lock
      rcases List.eq_nil_or_concat tail with rfl | ⟨tail, final, rfl⟩
      · cases (List.append_inj' whole rfl).2
        cases entered <;> cases acked
      · rw [List.concat_eq_append, ← List.cons_append, ← List.append_assoc] at whole
        cases (List.append_inj' whole rfl).2
        simp

theorem settled_carries
    (working : Returns (work request operationTimeout) worked (.settle outcome committed answered))
    (cleaning : Returns (cleanup (!committed) cleanupTimeout) rest failures)
    (failed : ∃ event ∈ worked ++ rest, (cleanupFailureOf cleanupTimeout event).isSome) :
    ∃ rollback unlock,
      combine outcome failures (reportedPrimary outcome) =
        .error (.candidateCleanupFailed (primaryText outcome) rollback unlock) ∧
      ReportsStep cleanupTimeout (worked ++ rest) .rollback rollback ∧
      ReportsStep cleanupTimeout (worked ++ rest) .unlock unlock := by
  have inWork := fun event member => working.allowed (work_performs _ _) event member
  have notClean : failures.isEmpty = false := by
    obtain ⟨event, member, failure⟩ := failed
    rcases List.mem_append.mp member with here | there
    · rw [(inWork event here).no_failure] at failure
      cases failure
    · rcases cleanup_returns cleaning with ⟨_, rollback, unlock, rfl, rfl⟩ | ⟨_, unlock, rfl, rfl⟩
      · simp only [List.mem_cons, List.not_mem_nil, or_false] at there
        rcases there with rfl | rfl
        · simp only [cleanupFailureOf] at failure
          simp [CleanupFailures.isEmpty, Option.isNone_eq_false_iff.mpr failure]
        · simp only [cleanupFailureOf] at failure
          simp [CleanupFailures.isEmpty, Option.isNone_eq_false_iff.mpr failure]
      · cases List.mem_singleton.mp there
        simp only [cleanupFailureOf] at failure
        simp [CleanupFailures.isEmpty, Option.isNone_eq_false_iff.mpr failure]
  refine ⟨failures.rollback.getD "ok".toList, failures.unlock.getD "ok".toList, ?_, ?_, ?_⟩
  · cases outcome <;> simp [combine, notClean, primaryText]
  · intro event member timed
    rcases List.mem_append.mp member with here | there
    · exact absurd timed ((inWork event here).not_timed _)
    · rcases cleanup_returns cleaning with ⟨_, rollback, unlock, rfl, rfl⟩ | ⟨_, unlock, rfl, rfl⟩
      · simp only [List.mem_cons, List.not_mem_nil, or_false] at there
        rcases there with rfl | rfl
        · rfl
        · cases timed
      · cases List.mem_singleton.mp there
        cases timed
  · intro event member timed
    rcases List.mem_append.mp member with here | there
    · exact absurd timed ((inWork event here).not_timed _)
    · rcases cleanup_returns cleaning with ⟨_, rollback, unlock, rfl, rfl⟩ | ⟨_, unlock, rfl, rfl⟩
      · simp only [List.mem_cons, List.not_mem_nil, or_false] at there
        rcases there with rfl | rfl
        · cases timed
        · rfl
      · cases List.mem_singleton.mp there
        rfl

theorem settled_lifecycle (locks : request.mode ≠ .discard)
    (working : Returns (work request operationTimeout) worked (.settle outcome committed answered))
    (cleaning : Returns (cleanup (!committed) cleanupTimeout) rest failures) :
    ExecuteLifecycle request operationTimeout cleanupTimeout (worked ++ rest)
      ⟨combine outcome failures (reportedPrimary outcome), failures.isEmpty && answered⟩ where
  unlocks before event after split entered := by
    have outside : event ∉ rest := fun member =>
      have ⟨call, timed⟩ := cleanup_timed cleaning event member
      lockEntered_not_timed entered call timed
    obtain ⟨tail, rfl, rfl⟩ := split_work split outside
    obtain ⟨unlock, member, attempts⟩ := cleanup_unlocks cleaning
    exact ⟨unlock, List.mem_append_right _ member, attempts⟩
  rollsBack before event after split entered := settled_rollsBack working cleaning split entered
  keepsCommit before event after split acked := by
    have shape := work_shape working
    have outside : event ∉ rest := fun member =>
      have ⟨call, timed⟩ := cleanup_timed cleaning event member
      acked_not_timed acked call timed
    obtain ⟨tail, rfl, rfl⟩ := split_work split outside
    have committed : committed = true := by
      cases committed with
      | false => exact absurd acked (shape.quiet event (by simp))
      | true => rfl
    intro later member attempts
    rcases List.mem_append.mp member with here | there
    · exact work_no_rollback working later (by simp [here]) attempts
    · have required := (cleanup_rollsBack cleaning).mp ⟨later, there, attempts⟩
      simp [committed] at required
  reusable usable start finish follows := by
    obtain ⟨clean, _⟩ := Bool.and_eq_true_iff.mp usable
    obtain ⟨middle, first, second⟩ := follows_append.mp follows
    refine cleanup_restores cleaning clean (fun committed => ?_) second
    have shape := work_shape working
    simp only [Work.committed, committed] at shape
    exact shape.cleans first
  carries failed := by
    obtain ⟨rollback, unlock, same, reported⟩ := settled_carries working cleaning failed
    exact ⟨outcome, answered, rollback, unlock, execute_settled locks working cleaning, same,
      reported⟩

end Settled

theorem execute_lifecycle {request : CandidateRequest} (locks : request.mode ≠ .discard)
    {operationTimeout cleanupTimeout : Duration} {trace : BackendTrace} {execution : Execution}
    (returns : Returns (execute request operationTimeout cleanupTimeout) trace execution) :
    ExecuteLifecycle request operationTimeout cleanupTimeout trace execution := by
  rcases execute_returns locks returns with ⟨error, working, rfl⟩ |
    ⟨worked, rest, outcome, committed, answered, failures, rfl, working, cleaning, rfl⟩
  · have inWork := fun event member => working.allowed (work_performs _ _) event member
    have noLock : ∀ before event after, trace = before ++ event :: after → ¬LockEntered event :=
      fun before event after split => work_refused working event (by simp [split])
    exact {
      unlocks := fun before event after split entered => absurd entered (noLock _ _ _ split)
      rollsBack := fun before event after split entered => absurd entered (noLock _ _ _ split)
      keepsCommit := fun before event after split _ later member =>
        work_no_rollback working later (by simp [split, member])
      reusable := nofun
      carries := by
        rintro ⟨event, member, failure⟩
        rw [(inWork event member).no_failure] at failure
        cases failure }
  · exact settled_lifecycle locks working cleaning

/-! ## A committed run whose unlock hangs -/

def hostnameRequest : CandidateRequest :=
  ⟨some (.set "set system host-name r1".toList), none, .commitWithComment "change".toList, .set⟩

def hangingUnlockTrace : BackendTrace :=
  [⟨.ensureActive, Activity.active⟩, ⟨.raced .lock, Raced.completed (.ok ())⟩,
   ⟨.ensureActive, Activity.active⟩,
   ⟨.raced (.load (.set "set system host-name r1".toList) .set), Raced.completed (.ok ())⟩,
   ⟨.ensureActive, Activity.active⟩, ⟨.raced .diff, Raced.completed (.ok "+ host-name r1".toList)⟩,
   ⟨.ensureActive, Activity.active⟩,
   ⟨.bare (.commitWithComment "change".toList), (.ok () : Except JmcpError Unit)⟩,
   ⟨.timed .unlock, Timed.elapsed⟩]

theorem hanging_unlock_lifecycle :
    ExecuteLifecycle hostnameRequest 60 30 hangingUnlockTrace
      ⟨.error (.candidateCleanupFailed "commit succeeded".toList "ok".toList
        "cleanup timed out after 30s".toList), false⟩ := by
  refine execute_lifecycle (by decide) ?_
  exact .step (.step (.step (.step (.step (.step (.step (.step (.step (.pure _)))))))))

end JunosMcp
