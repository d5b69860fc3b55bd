import JunosMcp.Session.System
import JunosMcp.Lib.Results

/-!
# Staging

`stage` with the session it takes or opens, and what it leaves of an action list that does not go
in: every load attempted is followed by a discard, and the lock is given up.
-/

namespace JunosMcp
open Lib

/-! ## The method -/

inductive StageCall where
  | open
  | session (call : SessionCall)

def StageCall.Reply : StageCall → Type
  | .open => Except JmcpError Unit
  | .session call => call.Reply

abbrev StageProg (α : Type) := Prog (Await StageCall) (Await.Res StageCall.Reply) α

abbrev StageTrace := Trace (Await StageCall) (Await.Res StageCall.Reply)

def onSession {α : Type} (program : SessionProg α) : StageProg α :=
  program.relabel (Await.rename StageCall.session)
    (Await.readAnswer StageCall.session fun _ reply => reply)

/-- `stage`: the actions are resolved before any session is taken or opened. -/
def stage (cleanupTimeout : Duration) (held : Bool) (actions : List JunosAction) :
    StageProg (Except JmcpError Text) :=
  match resolveActions actions with
  | .error error => .pure (.error error)
  | .ok resolved =>
      match held with
      | true => onSession (stageLocked cleanupTimeout resolved)
      | false => .step (.bare .open) fun
          | .error error => .pure (.error error)
          | .ok () => onSession (stageOpened cleanupTimeout resolved)

def stageEffect : Await.Effect StageCall StageCall.Reply Session
  | s, .open, some (.ok ()), s' => ∃ place, Opens place s s'
  | s, .open, _, s' => s' = s
  | s, .session call, reply, s' => Session.effect s call reply s'

def stageWorld : World (Await StageCall) (Await.Res StageCall.Reply) Session :=
  Await.world stageEffect

/-! ## Traces of the session -/

def onSessionEvent : (Σ op, Await.Res StageCall.Reply op) → Option SessionEvent
  | ⟨.bare (.session call), reply⟩ => some ⟨.bare call, reply⟩
  | ⟨.timed (.session call), reply⟩ => some ⟨.timed call, reply⟩
  | ⟨.raced (.session call), reply⟩ => some ⟨.raced call, reply⟩
  | ⟨.ensureActive, activity⟩ => some ⟨.ensureActive, activity⟩
  | ⟨.bare .open, _⟩ | ⟨.timed .open, _⟩ | ⟨.raced .open, _⟩ => none

/-- What a run of `stage` did on its session. -/
def sessionTrace (trace : StageTrace) : SessionTrace := trace.filterMap onSessionEvent

theorem runs_onSession {α : Type} {program : SessionProg α} {s s' : Session} {trace : StageTrace}
    {value : α} (run : Runs stageWorld s (onSession program) trace value s') :
    Runs sessionWorld s program (sessionTrace trace) value s' := by
  induction program generalizing s trace with
  | pure result =>
      obtain ⟨rfl, rfl, rfl⟩ := runs_pure.mp (show Runs _ _ (Prog.pure _) _ _ _ from run)
      exact runs_pure.mpr ⟨rfl, rfl, rfl⟩
  | step op next ih =>
      obtain ⟨answer, rest, middle, rfl, here, later⟩ :=
        runs_step.mp (show Runs _ _ (Prog.step _ _) _ _ _ from run)
      have tail := ih _ later
      cases op with
      | ensureActive => exact runs_step.mpr ⟨answer, _, middle, rfl, here, tail⟩
      | bare call => exact runs_step.mpr ⟨answer, _, middle, rfl, here, tail⟩
      | timed call =>
          cases answer with
          | completed reply => exact runs_step.mpr ⟨.completed reply, _, middle, rfl, here, tail⟩
          | elapsed => exact runs_step.mpr ⟨.elapsed, _, middle, rfl, here, tail⟩
      | raced call =>
          cases answer with
          | completed reply => exact runs_step.mpr ⟨.completed reply, _, middle, rfl, here, tail⟩
          | cancelled => exact runs_step.mpr ⟨.cancelled, _, middle, rfl, here, tail⟩
          | elapsed => exact runs_step.mpr ⟨.elapsed, _, middle, rfl, here, tail⟩

/-! ## What a failed stage owes -/

/-- A load or a rollback was sent. -/
def attemptsLoad (event : SessionEvent) : Bool :=
  match event.1.sends with
  | some (.device (.load ..)) | some (.device (.rollback _)) => true
  | _ => false

/-- The candidate was given back: by a `rollback 0`, or by the close of the session. -/
def attemptsRevert (event : SessionEvent) : Bool :=
  match event.1.sends with
  | some (.device (.rollback 0)) | some (.device .close) => true
  | _ => false

/-- The lock was given back: by an unlock, or by the close of the session. -/
def attemptsRelease (event : SessionEvent) : Bool :=
  match event.1.sends with
  | some (.device .unlock) | some (.device .close) => true
  | _ => false

def loadFailed : SessionEvent → Bool
  | ⟨.bare (.device (.load ..)), .error _⟩ | ⟨.bare (.device (.rollback _)), .error _⟩ => true
  | _ => false

def lockAcked : SessionEvent → Bool
  | ⟨.bare (.device .lock), .ok _⟩ => true
  | _ => false

/-- A revert was attempted after every load, and a release of the lock. -/
def AllOrNone (trace : SessionTrace) : Prop :=
  (∀ before event after, trace = before ++ event :: after → attemptsLoad event = true →
    after.any attemptsRevert = true) ∧
  trace.any attemptsRelease = true

/-- Exactly one of payload and rollback source, and the payload resolves. -/
def JunosAction.Valid (action : JunosAction) : Prop :=
  action.payload.isSome ≠ action.rollbackSource.isSome ∧
    ∃ resolved, resolveAction action = .ok resolved

theorem checkActionShapes_valid {i : Nat} {actions : List JunosAction}
    (checked : checkActionShapes i actions = .ok ()) :
    ∀ action ∈ actions, action.payload.isSome ≠ action.rollbackSource.isSome := by
  induction actions generalizing i with
  | nil => simp
  | cons action rest ih =>
      intro found member
      rw [checkActionShapes] at checked
      rcases List.mem_cons.mp member with rfl | later
      · cases payload : found.payload <;> cases source : found.rollbackSource <;>
          simp [payload, source] at checked ⊢
      · cases payload : action.payload <;> cases source : action.rollbackSource <;>
          simp only [payload, source, reduceCtorEq] at checked
        all_goals exact ih checked found later

theorem resolveActions_valid {actions : List JunosAction} {resolved : List ResolvedAction}
    (ok : resolveActions actions = .ok resolved) : ∀ action ∈ actions, action.Valid := by
  obtain ⟨_, checked, mapped⟩ := bind_eq_ok.mp ok
  intro action member
  exact ⟨checkActionShapes_valid checked action member, mapM_ok_of_mem mapped member⟩

/-! ## The load loop -/

/-- Neither a load nor a release. -/
def BeforeLoads (op : SessionOp) : Prop :=
  match op.sends with
  | some (.device (.load ..)) | some (.device (.rollback _)) | some (.device .unlock)
  | some (.device .close) => False
  | _ => True

/-- What the loop sends. -/
def LoadOp (op : SessionOp) : Prop :=
  match op.sends with
  | some (.device (.load ..)) | some (.device (.rollback _)) => True
  | _ => False

theorem loadActions_performs {loaded : Nat} {actions : List ResolvedAction} :
    (loadActions loaded actions).Performs LoadOp := by
  induction actions generalizing loaded with
  | nil => trivial
  | cons action rest ih =>
      cases action with
      | rollback version =>
          refine ⟨trivial, fun reply => ?_⟩
          cases reply with
          | ok _ => exact ih
          | error error => trivial
      | load payload action =>
          refine ⟨trivial, fun reply => ?_⟩
          cases reply with
          | ok _ => exact ih
          | error error => trivial

theorem LoadOp.no_release {event : SessionEvent} (load : LoadOp event.1) :
    attemptsRelease event = false := by
  unfold attemptsRelease
  unfold LoadOp at load
  split at load
  · simp [*]
  · simp [*]
  · exact load.elim

theorem BeforeLoads.silent {event : SessionEvent} (early : BeforeLoads event.1) :
    attemptsLoad event = false ∧ attemptsRelease event = false := by
  unfold attemptsLoad attemptsRelease
  unfold BeforeLoads at early
  split at early
  · exact early.elim
  · exact early.elim
  · exact early.elim
  · exact early.elim
  · constructor
    · split <;> simp_all
    · split <;> simp_all

/-- What the library's mark says after a load: the session is there, and it is marked. -/
structure LoadMarked (s : Session) : Prop where
  present : s.present = true
  touched : s.touched = true

theorem loadAction_runs {s s' : Session} {action : ResolvedAction} {trace : SessionTrace}
    {reply : Except RustEzError Unit} (run : Runs sessionWorld s (loadAction action) trace reply s')
    (present : s.present = true) :
    LoadMarked s' ∧ ∃ event, trace = [event] ∧ attemptsLoad event = true ∧
      (loadFailed event = true ↔ ∃ error, reply = .error error) := by
  cases action with
  | rollback version =>
      obtain ⟨answer, rest, middle, rfl, ⟨choice, rfl⟩, later⟩ := runs_step.mp run
      obtain ⟨rfl, rfl, rfl⟩ := runs_pure.mp later
      refine ⟨?_, ⟨_, rfl, rfl, ?_⟩⟩
      · cases version <;> exact ⟨present, rfl⟩
      · cases reply <;> simp [loadFailed]
  | load payload action =>
      obtain ⟨answer, rest, middle, rfl, ⟨choice, rfl⟩, later⟩ := runs_step.mp run
      obtain ⟨rfl, rfl, rfl⟩ := runs_pure.mp later
      refine ⟨⟨present, rfl⟩, ⟨_, rfl, rfl, ?_⟩⟩
      cases reply <;> simp [loadFailed]

/-- The loop stops at the first load that fails, and any load marks the session. -/
theorem loadActions_runs {s s' : Session} {actions : List ResolvedAction} {loaded count : Nat}
    {failure : Option RustEzError} {trace : SessionTrace}
    (run : Runs sessionWorld s (loadActions loaded actions) trace (count, failure) s')
    (present : s.present = true) :
    (trace.any loadFailed = true ↔ failure.isSome = true) ∧ (failure.isSome = true → LoadMarked s') := by
  induction actions generalizing s loaded trace with
  | nil =>
      obtain ⟨rfl, same, rfl⟩ := runs_pure.mp run
      cases same
      simp
  | cons action rest ih =>
      obtain ⟨first, second, reply, middle, rfl, here, later⟩ := runs_bind.mp run
      obtain ⟨marked, event, rfl, _, failed⟩ := loadAction_runs here present
      cases reply with
      | ok _ =>
          obtain ⟨found, still⟩ := ih later marked.present
          refine ⟨?_, still⟩
          have fine : loadFailed event = false := by
            rw [Bool.eq_false_iff]
            intro shown
            obtain ⟨error, impossible⟩ := failed.mp shown
            cases impossible
          simpa [fine] using found
      | error error =>
          obtain ⟨rfl, same, rfl⟩ := runs_pure.mp later
          cases same
          have shown : loadFailed event = true := failed.mpr ⟨error, rfl⟩
          simp [shown, marked]

/-! ## The cleanup -/

theorem revertLoaded_runs {s s' : Session} {loaded : Nat} {trace : SessionTrace}
    {failure : Option Text} (run : Runs sessionWorld s (revertLoaded loaded) trace failure s')
    (marked : LoadMarked s) : LoadMarked s' := by
  unfold revertLoaded at run
  split at run
  · obtain ⟨first, second, reply, middle, rfl, here, later⟩ := runs_bind.mp run
    have reverting : Runs sessionWorld s (loadAction (.rollback 0)) first reply middle := here
    obtain ⟨kept, _⟩ := loadAction_runs reverting marked.present
    cases reply with
    | ok _ =>
        obtain ⟨_, _, rfl⟩ := runs_pure.mp later
        exact kept
    | error error =>
        obtain ⟨_, _, rfl⟩ := runs_pure.mp later
        exact kept
  · obtain ⟨_, _, rfl⟩ := runs_pure.mp run
    exact marked

/-- A marked session is closed, and the close is the last thing sent. -/
theorem releaseLock_closes {s s' : Session} {cleanupTimeout : Duration} {trace : SessionTrace}
    {release : Except JmcpError LockRelease}
    (run : Runs sessionWorld s (releaseLock cleanupTimeout) trace release s') (marked : LoadMarked s) :
    ∃ front event, trace = front ++ [event] ∧ event.1 = .timed (.device .close) := by
  obtain ⟨touched, rest, middle, rfl, ⟨read, _⟩, later⟩ := runs_step.mp run
  have shown : touched = true := by
    have read : touched = (s.present && s.touched) := Option.some.inj read
    rw [read, marked.present, marked.touched]
    rfl
  subst shown
  obtain ⟨reply, tail, last, rfl, _, final⟩ := runs_step.mp later
  refine ⟨[⟨.bare (.guard .touchedCandidate), true⟩], ⟨.timed (.device .close), reply⟩, ?_, rfl⟩
  rcases reply with ⟨_ | _⟩ | _ <;>
    · obtain ⟨rfl, _, _⟩ := runs_pure.mp final
      rfl

/-! ## The whole method -/

theorem allOrNone_of_close {front : SessionTrace} {event : SessionEvent}
    (close : event.1 = .timed (.device .close)) : AllOrNone (front ++ [event]) := by
  have reverts : attemptsRevert event = true := by simp [attemptsRevert, close, Await.sends]
  have releases : attemptsRelease event = true := by simp [attemptsRelease, close, Await.sends]
  refine ⟨?_, by simp [releases]⟩
  intro before load after split loads
  rcases after.eq_nil_or_concat with rfl | ⟨init, last, rfl⟩
  · obtain ⟨_, same⟩ := List.append_inj' split rfl
    cases same
    simp [attemptsLoad, close, Await.sends] at loads
  · rw [List.concat_eq_append, ← List.cons_append, ← List.append_assoc] at split
    obtain ⟨_, same⟩ := List.append_inj' split rfl
    cases same
    simp [reverts]

theorem not_allOrNone_of_kept {trace : SessionTrace} (kept : trace.any attemptsRelease = false) :
    ¬AllOrNone trace := by
  intro holds
  rw [holds.2] at kept
  cases kept

theorem allOrNone_append {front trace : SessionTrace}
    (early : ∀ event ∈ front, BeforeLoads event.1) :
    AllOrNone (front ++ trace) ↔ AllOrNone trace := by
  have silent : front.any attemptsRelease = false := by
    rw [List.any_eq_false]
    intro event member
    simp [(early event member).silent.2]
  constructor
  · intro holds
    refine ⟨?_, by simpa [silent] using holds.2⟩
    rintro before event after rfl loads
    exact holds.1 (front ++ before) event after (by simp) loads
  · intro holds
    refine ⟨?_, by simp [holds.2]⟩
    intro before event after split loads
    rcases List.append_eq_append_iff.mp split with ⟨gap, rfl, rest⟩ | ⟨gap, rfl, rest⟩
    · exact holds.1 gap event after rest loads
    · cases gap with
      | nil => exact holds.1 [] event after rest.symm loads
      | cons found gap =>
          obtain ⟨rfl, rfl⟩ := List.cons.inj rest
          rw [(early event (by simp)).silent.1] at loads
          cases loads

/-- An error from the load loop on: a failed load is cleaned up, a failed diff is not. -/
theorem loadAndDiff_error {s s' : Session} {cleanupTimeout : Duration}
    {actions : List ResolvedAction} {trace : SessionTrace} {error : JmcpError}
    (run : Runs sessionWorld s (loadAndDiff cleanupTimeout actions) trace (.error error) s')
    (present : s.present = true) : AllOrNone trace ↔ trace.any loadFailed = true := by
  obtain ⟨loads, tail, ⟨count, failure⟩, loaded, rfl, here, later⟩ := runs_bind.mp run
  obtain ⟨failed, marked⟩ := loadActions_runs here present
  cases failure with
  | some cause =>
      obtain ⟨reverts, closing, revert, reverted, rfl, reverting, cleanup⟩ := runs_bind.mp later
      obtain ⟨release, final, released, closed, rfl, releasing, done⟩ := runs_bind.mp cleanup
      obtain ⟨rfl, _, _⟩ := runs_pure.mp done
      have still := revertLoaded_runs reverting (marked rfl)
      obtain ⟨front, event, rfl, close⟩ := releaseLock_closes releasing still
      have settled : AllOrNone (loads ++ reverts ++ front ++ [event]) := allOrNone_of_close close
      have owed : AllOrNone (loads ++ (reverts ++ (front ++ [event] ++ []))) := by
        simpa using settled
      have shown : loads.any loadFailed = true := failed.mpr rfl
      rw [iff_true_left owed]
      simp [shown]
  | none =>
      obtain ⟨reply, rest, middle, rfl, _, final⟩ := runs_step.mp later
      have fine : loads.any loadFailed = false := by
        rw [Bool.eq_false_iff]
        intro shown
        cases failed.mp shown
      have kept : loads.any attemptsRelease = false := here.1.any_eq_false loadActions_performs
        fun _ => LoadOp.no_release
      cases reply with
      | ok diff => cases (runs_pure.mp final).2.1
      | error cause =>
          obtain ⟨rfl, _, _⟩ := runs_pure.mp final
          let diffed : SessionEvent := ⟨.bare (.device .diff), .error cause⟩
          have unreleased : (loads ++ [diffed]).any attemptsRelease = false := by
            simp [diffed, kept, attemptsRelease, Await.sends]
          have unfailed : (loads ++ [diffed]).any loadFailed = false := by
            simp [diffed, fine, loadFailed]
          rw [iff_false_left (not_allOrNone_of_kept unreleased), unfailed]
          simp

/-- The lock was there before, or `stage` took it. -/
def LockTaken (held : Bool) (trace : SessionTrace) : Prop :=
  held = true ∨ trace.any lockAcked = true

theorem lockSession_early : lockSession.Performs BeforeLoads := by
  refine ⟨trivial, fun _ => ⟨trivial, fun config => ?_⟩⟩
  cases config with
  | error error => trivial
  | ok _ =>
      refine ⟨trivial, fun lock => ?_⟩
      cases lock with
      | error error => exact ⟨trivial, fun _ => trivial⟩
      | ok _ => trivial

theorem lockSession_runs {s s' : Session} {trace : SessionTrace} {reply : Except JmcpError Unit}
    (run : Runs sessionWorld s lockSession trace reply s') :
    s'.present = s.present ∧ trace.any loadFailed = false ∧
      (trace.any lockAcked = true ↔ reply = .ok ()) := by
  obtain ⟨_, rest, first, rfl, ⟨_, rfl⟩, later⟩ := runs_step.mp run
  obtain ⟨config, rest, second, rfl, ⟨_, rfl⟩, later⟩ := runs_step.mp later
  cases config with
  | error error =>
      obtain ⟨rfl, rfl, rfl⟩ := runs_pure.mp later
      simp [Session.set, loadFailed, lockAcked]
  | ok _ =>
      obtain ⟨lock, rest, third, rfl, ⟨_, rfl⟩, later⟩ := runs_step.mp later
      cases lock with
      | ok _ =>
          obtain ⟨rfl, rfl, rfl⟩ := runs_pure.mp later
          simp [Session.set, Session.after, loadFailed, lockAcked]
      | error error =>
          obtain ⟨_, rest, fourth, rfl, ⟨_, rfl⟩, later⟩ := runs_step.mp later
          obtain ⟨rfl, rfl, rfl⟩ := runs_pure.mp later
          simp [Session.set, Session.after, loadFailed, lockAcked]

/-- The two ways `stage` comes to its load loop, with what it sent before. -/
theorem stageLocked_error {s s' : Session} {cleanupTimeout : Duration}
    {actions : List ResolvedAction} {trace : SessionTrace} {error : JmcpError}
    (run : Runs sessionWorld s (stageLocked cleanupTimeout actions) trace (.error error) s')
    (present : s.present = true) : AllOrNone trace ↔ trace.any loadFailed = true := by
  obtain ⟨config, rest, middle, rfl, ⟨_, rfl⟩, later⟩ := runs_step.mp run
  cases config with
  | error cause =>
      obtain ⟨rfl, _, _⟩ := runs_pure.mp later
      simp [AllOrNone, attemptsRelease, Await.sends, loadFailed]
  | ok value =>
      let asked : SessionEvent := ⟨.bare (.device .config), .ok value⟩
      have inner := loadAndDiff_error later present
      have early : ∀ event ∈ [asked], BeforeLoads event.1 := by
        simp [asked, BeforeLoads, Await.sends]
      have step : AllOrNone ([asked] ++ rest) ↔ AllOrNone rest := allOrNone_append early
      have fine : loadFailed asked = false := rfl
      change AllOrNone ([asked] ++ rest) ↔ ([asked] ++ rest).any loadFailed = true
      rw [step, inner]
      simp [fine]

theorem stageOpened_error {s s' : Session} {cleanupTimeout : Duration}
    {actions : List ResolvedAction} {trace : SessionTrace} {error : JmcpError}
    (run : Runs sessionWorld s (stageOpened cleanupTimeout actions) trace (.error error) s')
    (present : s.present = true) (taken : trace.any lockAcked = true) :
    AllOrNone trace ↔ trace.any loadFailed = true := by
  obtain ⟨locking, rest, reply, middle, rfl, here, later⟩ := runs_bind.mp run
  obtain ⟨still, fine, acked⟩ := lockSession_runs here
  cases reply with
  | error cause =>
      obtain ⟨rfl, _, _⟩ := runs_pure.mp later
      rw [List.append_nil] at taken
      cases acked.mp taken
  | ok _ =>
      have inner := loadAndDiff_error later (still.trans present)
      rw [allOrNone_append fun event member => here.1.allowed lockSession_early event member, inner]
      simp [fine]

theorem Opens.present {place : Place} {s s' : Session} (opens : Opens place s s')
    (resting : s.present = true) : s'.present = true := by
  cases opens with
  | connect => rfl
  | checkout _ => exact resting

/-- A failed stage cleans up exactly when a load failed, and no session is taken for actions that
do not all resolve. A session at rest has not been taken from its guard. -/
theorem stage_all_or_none_iff {s s' : Session} {cleanupTimeout : Duration} {held : Bool}
    {actions : List JunosAction} {trace : StageTrace} {error : JmcpError}
    (run : Runs stageWorld s (stage cleanupTimeout held actions) trace (.error error) s')
    (present : s.present = true) :
    ((∃ action ∈ actions, ¬action.Valid) → trace = []) ∧
      (LockTaken held (sessionTrace trace) →
        (AllOrNone (sessionTrace trace) ↔ (sessionTrace trace).any loadFailed = true)) := by
  unfold stage at run
  split at run
  · obtain ⟨rfl, _, _⟩ := runs_pure.mp run
    refine ⟨fun _ => rfl, fun _ => ?_⟩
    simp [sessionTrace, AllOrNone]
  · rename_i resolved ok
    have valid := resolveActions_valid ok
    refine ⟨?_, ?_⟩
    · rintro ⟨action, member, invalid⟩
      exact absurd (valid action member) invalid
    · intro taken
      cases held with
      | true => exact stageLocked_error (runs_onSession run) present
      | false =>
          obtain ⟨opened, rest, middle, rfl, here, later⟩ := runs_step.mp run
          have taken := taken.resolve_left Bool.false_ne_true
          cases opened with
          | error cause =>
              obtain ⟨rfl, _, _⟩ := runs_pure.mp later
              simp [sessionTrace, onSessionEvent] at taken
          | ok _ =>
              obtain ⟨place, opens⟩ := here
              have inner := stageOpened_error (runs_onSession later) (opens.present present)
              exact inner taken

/-! ## One action, and an error after the lock -/

def hostName : JunosAction := ⟨some ⟨"set system host-name r1".toList, none, none⟩, none⟩

def hostNameLoad : ResolvedAction := .load (.set "set system host-name r1".toList) .set

/-- Everything is carried out, and nothing else happens to the session. -/
def servedCall : Choice := ⟨true, true, true, false⟩

/-- The session `lock` leaves when the device grants it. -/
def lockGranted : Session :=
  { Session.connected with reuseAllowed := false, locked := true }

def opensAndLocks : StageTrace :=
  [⟨.bare .open, .ok ()⟩, ⟨.bare (.session (.guard .preventReuse)), ()⟩,
   ⟨.bare (.session (.device .config)), .ok ()⟩, ⟨.bare (.session (.device .lock)), .ok ()⟩]

def loadsHostName (reply : Except RustEzError Unit) : StageTrace :=
  [⟨.bare (.session (.device (.load (.set "set system host-name r1".toList) .set))), reply⟩]

def diffsWith (reply : Except RustEzError (Option Text)) : StageTrace :=
  [⟨.bare (.session (.device .diff)), reply⟩]

def closesMarked : StageTrace :=
  [⟨.bare (.session (.guard .touchedCandidate)), true⟩,
   ⟨.timed (.session (.device .close)), .completed (.ok ())⟩]

theorem stage_hostName {cleanupTimeout : Duration} {trace : StageTrace} {s' : Session}
    {result : Except JmcpError Text}
    (loads : Runs stageWorld lockGranted
      (onSession (loadAndDiff cleanupTimeout [hostNameLoad])) trace result s') :
    Runs stageWorld Session.connected (stage cleanupTimeout false [hostName])
      (opensAndLocks ++ trace) result s' := by
  refine runs_step.mpr ⟨.ok (), _, Session.connected, rfl, ⟨.fresh, .connect⟩, ?_⟩
  refine runs_step.mpr ⟨(), _, _, rfl, ⟨rfl, rfl⟩, ?_⟩
  refine runs_step.mpr ⟨.ok (), _, _, rfl, ⟨rfl, rfl⟩, ?_⟩
  exact runs_step.mpr ⟨.ok (), _, _, rfl, ⟨servedCall, rfl⟩, loads⟩

/-- The diff that fails: `stage` returns with the action in the candidate and the lock held. -/
theorem failed_diff_keeps_candidate :
    ∃ trace s', Runs stageWorld Session.connected (stage 5 false [hostName]) trace
        (.error (.rustez ⟨.netconf .protocol, "no diff".toList⟩)) s' ∧
      LockTaken false (sessionTrace trace) ∧ (sessionTrace trace).any attemptsLoad = true ∧
      ¬AllOrNone (sessionTrace trace) ∧ s'.dirtied = true ∧ s'.locked = true := by
  have run : Runs stageWorld Session.connected (stage 5 false [hostName])
      (opensAndLocks ++ (loadsHostName (.ok ()) ++
        diffsWith (.error ⟨.netconf .protocol, "no diff".toList⟩)))
      (.error (.rustez ⟨.netconf .protocol, "no diff".toList⟩))
      { lockGranted with touched := true, dirtied := true } := by
    refine stage_hostName (runs_step.mpr ⟨.ok (), _, _, rfl, ⟨servedCall, rfl⟩, ?_⟩)
    exact runs_step.mpr ⟨_, _, _, rfl, ⟨servedCall, rfl⟩, runs_pure.mpr ⟨rfl, rfl, rfl⟩⟩
  exact ⟨_, _, run, .inr rfl, rfl, not_allOrNone_of_kept rfl, rfl, rfl⟩

/-- The load that fails: the session is closed, with its candidate and its lock. -/
theorem failed_load_closes :
    ∃ trace s', Runs stageWorld Session.connected (stage 5 false [hostName]) trace
        (.error (.rustez ⟨.netconf .protocol, "no load".toList⟩)) s' ∧
      AllOrNone (sessionTrace trace) := by
  have run : Runs stageWorld Session.connected (stage 5 false [hostName])
      (opensAndLocks ++ (loadsHostName (.error ⟨.netconf .protocol, "no load".toList⟩) ++
        closesMarked)) (.error (.rustez ⟨.netconf .protocol, "no load".toList⟩))
      { lockGranted with touched := true, present := false, locked := false } := by
    refine stage_hostName (runs_step.mpr ⟨_, _, _, rfl, ⟨servedCall, rfl⟩, ?_⟩)
    refine runs_step.mpr ⟨true, _, _, rfl, ⟨rfl, rfl⟩, ?_⟩
    exact runs_step.mpr ⟨_, _, _, rfl, ⟨servedCall, rfl⟩, runs_pure.mpr ⟨rfl, rfl, rfl⟩⟩
  exact ⟨_, _, run, ((stage_all_or_none_iff run rfl).2 (.inr rfl)).mpr rfl⟩

end JunosMcp
