import JunosMcp.CandidateRun

/-!
# How long a device stays tainted

Runs of candidate transactions on one device, one after the other, with the reaper in between. A
failed cleanup taints the device; what the device has answered since decides whether the taint may
go.
-/

namespace JunosMcp.CandidateRun
open Lib

/-! ## What an execution says of the lock -/

/-- The lock was acknowledged, and so was giving it up. -/
def LockReleased (trace : BackendTrace) : Prop :=
  (⟨.raced .lock, Raced.completed (.ok ())⟩ : BackendEvent) ∈ trace ∧
    (⟨.timed .unlock, Timed.completed (.ok ())⟩ : BackendEvent) ∈ trace

section Execution
variable {request : CandidateRequest} {operationTimeout cleanupTimeout : Duration}
  {trace : BackendTrace} {execution : Execution}

/-- Settled work began with the lock. -/
theorem work_locked {outcome : Except JmcpError CandidateResult} {committed : Bool}
    (returns : Returns (work request operationTimeout) trace (.settle outcome committed true)) :
    (⟨.raced .lock, Raced.completed (.ok ())⟩ : BackendEvent) ∈ trace := by
  obtain ⟨first, rest, locked, rfl, lock, later⟩ := returns_bind.mp returns
  cases locked with
  | error primary =>
      obtain ⟨_, result⟩ := returns_pure.mp later
      split at result <;> cases result
  | ok _ =>
      rcases backendStep_returns lock with ⟨_, _, _, refused⟩ | ⟨reply, rfl, answer⟩
      · cases refused
      · cases reply with
        | completed reply =>
            cases answer
            exact List.mem_append_left _ (List.mem_cons_of_mem _ List.mem_cons_self)
        | cancelled => cases answer
        | elapsed => cases answer

theorem cleanup_released {rollbackRequired : Bool} {failures : CleanupFailures}
    (returns : Returns (cleanup rollbackRequired cleanupTimeout) trace failures)
    (clean : failures.isEmpty = true) :
    (⟨.timed .unlock, Timed.completed (.ok ())⟩ : BackendEvent) ∈ trace := by
  rcases cleanup_returns returns with ⟨_, rollback, unlock, rfl, rfl⟩ | ⟨_, unlock, rfl, rfl⟩
  · simp only [CleanupFailures.isEmpty, Bool.and_eq_true, Option.isNone_iff_eq_none] at clean
    obtain ⟨_, rfl⟩ := cleanupFailure_eq_none clean.2
    exact List.mem_cons_of_mem _ List.mem_cons_self
  · simp only [CleanupFailures.isEmpty, Bool.and_eq_true, Option.isNone_iff_eq_none] at clean
    obtain ⟨_, rfl⟩ := cleanupFailure_eq_none clean.2
    exact List.mem_cons_self

/-- A session is reusable after it held the lock and gave it up, or if it never needed it. -/
theorem execute_reusable (locks : request.mode ≠ .discard)
    (returns : Returns (execute request operationTimeout cleanupTimeout) trace execution)
    (reusable : execution.reusable = true) : LockReleased trace := by
  rcases execute_returns locks returns with ⟨_, _, rfl⟩ |
    ⟨worked, rest, outcome, committed, answered, failures, rfl, working, cleaning, rfl⟩
  · cases reusable
  · obtain ⟨clean, answered⟩ := Bool.and_eq_true_iff.mp reusable
    subst answered
    exact ⟨List.mem_append_left _ (work_locked working),
      List.mem_append_right _ (cleanup_released cleaning clean)⟩

theorem failedPhase_ne_nil {phase text : Text} (told : text ≠ "ok".toList) :
    failedPhase phase text ≠ [] := by
  rw [failedPhase, if_neg told]
  exact List.cons_ne_nil _ _

theorem failureRecord_isSome {primary rollback unlock : Text}
    (told : rollback ≠ "ok".toList ∨ unlock ≠ "ok".toList) :
    (failureRecord (.error (.candidateCleanupFailed primary rollback unlock))).isSome := by
  have phases : failedPhases rollback unlock ≠ [] := by
    rcases told with rolledBack | unlocked
    · exact List.append_ne_nil_of_left_ne_nil (failedPhase_ne_nil rolledBack) _
    · exact List.append_ne_nil_of_right_ne_nil _ (failedPhase_ne_nil unlocked)
  rw [failureRecord, List.isEmpty_eq_false_iff.mpr phases]
  rfl

/-- A failed cleanup is recorded, if its error says anything but `ok`. -/
theorem failure_recorded
    (returns : Returns (execute request operationTimeout cleanupTimeout) trace execution)
    (failed : CleanupFailed cleanupTimeout trace)
    (told : ∀ event ∈ trace, cleanupFailureOf cleanupTimeout event ≠ some "ok".toList) :
    (failureRecord execution.result).isSome := by
  by_cases discards : request.mode = .discard
  · exact absurd failed (discard_returns discards returns).1.1
  · rcases execute_returns discards returns with ⟨_, working, _⟩ |
      ⟨worked, rest, outcome, committed, answered, failures, rfl, working, cleaning, rfl⟩
    · obtain ⟨event, member, failure⟩ := failed
      rw [(working.allowed (work_performs _ _) event member).no_failure] at failure
      cases failure
    · obtain ⟨rollback, unlock, result, rolledBack, unlocked⟩ :=
        settled_carries working cleaning failed
      dsimp only
      rw [result]
      apply failureRecord_isSome
      obtain ⟨event, member, failure⟩ := failed
      have spoken := told event member
      obtain ⟨text, shown⟩ := Option.isSome_iff_exists.mp failure
      rw [shown] at spoken
      rcases List.mem_append.mp member with here | there
      · rw [(working.allowed (work_performs _ _) event here).no_failure] at failure
        cases failure
      · have reported (call : BackendCall) (timed : event.1 = .timed call) (phase : Text)
            (reports : ReportsStep cleanupTimeout (worked ++ rest) call phase) :
            phase ≠ "ok".toList := by
          rw [reports event member timed, shown]
          exact fun same => spoken (congrArg some same)
        rcases cleanup_returns cleaning with ⟨_, _, _, rfl, _⟩ | ⟨_, _, rfl, _⟩
        · simp only [List.mem_cons, List.not_mem_nil, or_false] at there
          rcases there with rfl | rfl
          · exact .inl (reported .rollback rfl _ rolledBack)
          · exact .inr (reported .unlock rfl _ unlocked)
        · cases List.mem_singleton.mp there
          exact .inr (reported .unlock rfl _ unlocked)

end Execution

/-! ## Histories of one device -/

/-- The reaper drops a taint that is older than the idle timeout. -/
inductive Episode where
  | run (done : DoneRun)
  | evicted

def Episode.leaves (taint : Option Text) : Episode → Option Text
  | .run done => taintAfter taint done.trace
  | .evicted => none

def taintOver (taint : Option Text) (episodes : List Episode) : Option Text :=
  episodes.foldl Episode.leaves taint

/-- After a failed cleanup the taint stays until a run has held the lock and given it up. -/
def TaintKept (taint : Option Text) (episodes : List Episode) : Prop :=
  ∀ before failed between rest, episodes = before ++ .run failed :: (between ++ rest) →
    CleanupFailed failed.cleanupTimeout (deviceTrace failed.trace) →
    (∀ later, .run later ∈ between → ¬LockReleased (deviceTrace later.trace)) →
    (taintOver taint (before ++ .run failed :: between)).isSome

/-- On a tainted device no discard succeeds and no taint expires, and a failed cleanup step never
says `ok`. -/
def Episode.Spares (taint : Option Text) : Episode → Prop
  | .run done => (taint.isSome → done.request.mode = .discard → ∃ error, done.result = .error error) ∧
      ∀ event ∈ deviceTrace done.trace, cleanupFailureOf done.cleanupTimeout event ≠ some "ok".toList
  | .evicted => taint = none

def Spared : Option Text → List Episode → Prop
  | _, [] => True
  | taint, episode :: rest => episode.Spares taint ∧ Spared (episode.leaves taint) rest

/-- The run itself sets the taint. -/
theorem DoneRun.tainted (done : DoneRun) (taint : Option Text)
    (failed : CleanupFailed done.cleanupTimeout (deviceTrace done.trace))
    (told : ∀ event ∈ deviceTrace done.trace,
      cleanupFailureOf done.cleanupTimeout event ≠ some "ok".toList) :
    (taintAfter taint done.trace).isSome := by
  rcases run_returns done.returns with ⟨_, _, silent⟩ | ⟨worked, execution, executed, _, same, left⟩
  · obtain ⟨event, member, _⟩ := failed
    rw [silent.device] at member
    cases member
  · have failedThere := same.failed.mp failed
    have recorded := failure_recorded executed failedThere fun event member spoken =>
      told event ((same.timed (failure_sends spoken)).mpr member) spoken
    rw [left, taintLeft, Option.isSome_or, recorded]
    rfl

/-- Whatever else a run does, it takes the taint away only after it had the lock and gave it up. -/
theorem DoneRun.keeps (done : DoneRun) {taint : Option Text} (set : taint.isSome)
    (undiscarded : done.request.mode = .discard → ∃ error, done.result = .error error)
    (unproved : ¬LockReleased (deviceTrace done.trace)) :
    (taintAfter taint done.trace).isSome := by
  rcases run_returns done.returns with ⟨_, _, silent⟩ |
    ⟨worked, execution, executed, result, same, left⟩
  · rw [silent.taint]
    exact set
  · have unusable : execution.reusable = false := by
      by_contra usable
      have usable := eq_true_of_ne_false usable
      by_cases discards : done.request.mode = .discard
      · obtain ⟨error, refused⟩ := undiscarded discards
        rcases (discard_returns discards executed).2 with rfl | ⟨error, rfl⟩
        · rw [refused] at result
          cases result
        · cases usable
      · obtain ⟨locked, unlocked⟩ := execute_reusable discards executed usable
        exact unproved ⟨(same ⟨.raced .lock, _⟩ nofun).mpr locked,
          (same ⟨.timed .unlock, _⟩ nofun).mpr unlocked⟩
    rw [left, taintLeft, unusable, Option.isSome_or]
    simp [set]

theorem taintOver_append (taint : Option Text) (first second : List Episode) :
    taintOver taint (first ++ second) = taintOver (taintOver taint first) second :=
  List.foldl_append

theorem spared_append {taint : Option Text} {first second : List Episode} :
    Spared taint (first ++ second) ↔ Spared taint first ∧ Spared (taintOver taint first) second := by
  induction first generalizing taint with
  | nil => simp [Spared, taintOver]
  | cons episode rest ih => simp only [List.cons_append, Spared, ih, taintOver, List.foldl_cons, and_assoc]

theorem tainted_over {between : List Episode} {taint : Option Text} (set : taint.isSome)
    (spared : Spared taint between)
    (unproved : ∀ later, .run later ∈ between → ¬LockReleased (deviceTrace later.trace)) :
    (taintOver taint between).isSome := by
  induction between generalizing taint with
  | nil => exact set
  | cons episode rest ih =>
      obtain ⟨here, later⟩ := spared
      refine ih ?_ later fun done member => unproved done (List.mem_cons_of_mem _ member)
      cases episode with
      | evicted =>
          rw [show taint = none from here] at set
          cases set
      | run done => exact done.keeps set (here.1 set) (unproved done List.mem_cons_self)

/-- The taint is kept as long as no discard succeeds on a tainted device; and whatever came before, a
run in another mode takes the taint away only after it had the lock and gave it up. -/
theorem taint_kept (taint : Option Text) (episodes : List Episode) (spared : Spared taint episodes) :
    TaintKept taint episodes ∧
      ∀ done : DoneRun, done.request.mode ≠ .discard →
        ∀ phases, taintAfter (some phases) done.trace = none →
          LockReleased (deviceTrace done.trace) := by
  constructor
  · rintro before failed between rest rfl cleanup unproved
    obtain ⟨_, ⟨_, told⟩, later⟩ := spared_append.mp spared
    have tainted : (taintAfter (taintOver taint before) failed.trace).isSome :=
      failed.tainted _ cleanup told
    have kept := tainted_over tainted (spared_append.mp later).1 unproved
    rw [taintOver_append]
    exact kept
  · intro done locks phases cleared
    by_contra unproved
    have set : (some phases).isSome := rfl
    have kept := done.keeps set (fun discards => absurd discards locks) unproved
    rw [cleared] at kept
    cases kept

/-! ## A discard after a failed unlock -/

/-- A discard never locks, and its success clears the taint all the same. -/
theorem discard_clears (done : DoneRun) (taint : Option Text)
    (discards : done.request.mode = .discard) (ok : done.result = .ok .discarded) :
    taintAfter taint done.trace = none := by
  rcases run_returns done.returns with ⟨_, refused, _⟩ | ⟨_, execution, executed, result, _, left⟩
  · rw [refused] at ok
    cases ok
  · rcases (discard_returns discards executed).2 with rfl | ⟨error, rfl⟩
    · rw [left]
      rfl
    · rw [result] at ok
      cases ok

def previewRequest : CandidateRequest := ⟨some (.set []), none, .dryRun, .merge⟩

def discardRequest : CandidateRequest := ⟨none, none, .discard, .merge⟩

def lostReply : JmcpError := .rustez ⟨.other, "lost".toList⟩

/-- A preview whose unlock gets no answer. -/
def lostUnlock : DoneRun where
  request := previewRequest
  operationTimeout := 30
  cleanupTimeout := 10
  trace := [
    ⟨.bare .checkTaint, (none : Option Text)⟩,
    ⟨.ensureActive, Activity.active⟩,
    ⟨.raced .open, Raced.completed (.ok () : Except JmcpError Unit)⟩,
    ⟨.bare .preventReuse, ()⟩,
    ⟨.bare .config, (.ok () : Except JmcpError Unit)⟩,
    ⟨.ensureActive, Activity.active⟩,
    ⟨.raced (.backend .lock), Raced.completed (.ok () : Except JmcpError Unit)⟩,
    ⟨.ensureActive, Activity.active⟩,
    ⟨.raced (.backend (.load (.set []) .merge)), Raced.completed (.ok () : Except JmcpError Unit)⟩,
    ⟨.ensureActive, Activity.active⟩,
    ⟨.raced (.backend .diff), Raced.completed (.ok [] : Except JmcpError Text)⟩,
    ⟨.timed (.backend .rollback), Timed.completed (.ok () : Except JmcpError Unit)⟩,
    ⟨.timed (.backend .unlock), Timed.completed (.error lostReply : Except JmcpError Unit)⟩,
    ⟨.timed .close, Timed.elapsed⟩,
    ⟨.bare (.recordTaint "unlock=lost".toList), ()⟩]
  result := .error (.candidateCleanupFailed "none".toList "ok".toList "lost".toList)
  returns := by
    repeat apply Returns.step
    exact .pure _

/-- A discard of the shared candidate. -/
def revert : DoneRun where
  request := discardRequest
  operationTimeout := 30
  cleanupTimeout := 10
  trace := [
    ⟨.bare .checkTaint, (some "unlock=lost".toList : Option Text)⟩,
    ⟨.ensureActive, Activity.active⟩,
    ⟨.raced .open, Raced.completed (.ok () : Except JmcpError Unit)⟩,
    ⟨.bare .preventReuse, ()⟩,
    ⟨.bare .config, (.ok () : Except JmcpError Unit)⟩,
    ⟨.ensureActive, Activity.active⟩,
    ⟨.raced (.backend .rollback), Raced.completed (.ok () : Except JmcpError Unit)⟩,
    ⟨.bare .clearTaint, ()⟩,
    ⟨.bare .allowReuse, ()⟩]
  result := .ok .discarded
  returns := by
    repeat apply Returns.step
    exact .pure _

/-- A later run that cannot open the device. -/
def unreachable : DoneRun where
  request := previewRequest
  operationTimeout := 30
  cleanupTimeout := 10
  trace := [
    ⟨.bare .checkTaint, (some "unlock=lost".toList : Option Text)⟩,
    ⟨.ensureActive, Activity.active⟩,
    ⟨.raced .open, Raced.completed (.error lostReply : Except JmcpError Unit)⟩]
  result := .error lostReply
  returns := by
    repeat apply Returns.step
    exact .pure _

theorem lostUnlock_failed : CleanupFailed lostUnlock.cleanupTimeout (deviceTrace lostUnlock.trace) :=
  ⟨⟨.timed .unlock, Timed.completed (.error lostReply : Except JmcpError Unit)⟩,
    .tail _ (.tail _ (.tail _ (.tail _ (.head _)))), rfl⟩

theorem revert_unlocked : ¬LockReleased (deviceTrace revert.trace) := by
  rintro ⟨locked, _⟩
  cases List.mem_singleton.mp locked

theorem discard_loses_taint :
    taintOver none [.run lostUnlock] = some "unlock=lost".toList ∧
      ¬TaintKept none [.run lostUnlock, .run revert] := by
  refine ⟨rfl, fun kept => ?_⟩
  have set := kept [] lostUnlock [.run revert] [] rfl lostUnlock_failed ?_
  · cases set
  · intro later member
    cases List.mem_singleton.mp member
    exact revert_unlocked

/-- The taint outlasts a run that never got to the device. -/
theorem taint_outlasts_unreachable : (taintOver none [.run lostUnlock, .run unreachable]).isSome := by
  have told : ∀ event ∈ deviceTrace lostUnlock.trace,
      cleanupFailureOf lostUnlock.cleanupTimeout event ≠ some "ok".toList := by decide
  have spared : Spared none [.run lostUnlock, .run unreachable] :=
    ⟨⟨nofun, told⟩, ⟨fun _ discards => (by cases discards), by simp [unreachable, deviceTrace, deviceEvent]⟩,
      trivial⟩
  refine (taint_kept none [.run lostUnlock, .run unreachable] spared).1 [] lostUnlock
    [.run unreachable] [] rfl lostUnlock_failed ?_
  intro later member
  cases List.mem_singleton.mp member
  rintro ⟨locked, _⟩
  cases locked

end JunosMcp.CandidateRun
