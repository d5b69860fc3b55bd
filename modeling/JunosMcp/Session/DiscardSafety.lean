import JunosMcp.CandidateLifecycle
import JunosMcp.Session.Contract

/-!
# No discard outlives its lock

The methods that take the lock never send a discard on a session that gave the lock up, as long as
the steps keep the promise below.
-/

namespace JunosMcp
open Lib

/-- What the direct path relies on and does not check: a request that ends before its lock call was
carried out finds a session that never gave a lock up, and the unlock of its cleanup is not carried
out on a session whose candidate is still marked. -/
def DiscardPromise : Promise
  | _, .ensureActive, some Activity.cancelled, s' => s'.released = false
  | _, .ensureActive, some Activity.expired, s' => s'.released = false
  | _, .raced (.device .lock), some .cancelled, s' => s'.released = false
  | _, .raced (.device .lock), some .elapsed, s' => s'.released = false
  | s, .timed (.device .unlock), _, s' => s.touched = true → s.locked = true → s'.locked = true
  | _, _, _, _ => True

def Timely (s : Session) : Prop := s.lateDiscard = false

/-- A close of this session sends no late discard. -/
structure Settled (s : Session) : Prop where
  timely : Timely s
  held : s.present = true → s.touched = true → s.released = false

structure Ready (s : Session) : Prop where
  present : s.present = true
  timely : Timely s
  unmarked : s.touched = false

/-- The session has not given up its lock. -/
structure Holding (s : Session) : Prop where
  present : s.present = true
  timely : Timely s
  held : s.released = false

theorem Ready.settled {s : Session} (ready : Ready s) : Settled s :=
  ⟨ready.timely, fun _ touched => by simp [ready.unmarked] at touched⟩

theorem Holding.settled {s : Session} (holding : Holding s) : Settled s :=
  ⟨holding.timely, fun _ _ => holding.held⟩

/-- Only an unlock or a close gives the lock up. -/
theorem Holding.after {s : Session} (holding : Holding s) {rpc : Rpc} (keeps : rpc ≠ .unlock)
    (open' : rpc ≠ .close) (acked carried : Bool) (choice : Choice) :
    Holding (s.after rpc acked carried choice) := by
  obtain ⟨present, timely, held⟩ := holding
  unfold Timely at timely
  cases rpc with
  | unlock => exact absurd rfl keeps
  | close => exact absurd rfl open'
  | rollback version =>
      cases version with
      | zero => exact ⟨present, by simp [Timely, Session.after, timely, held], held⟩
      | succ version => exact ⟨present, timely, held⟩
  | lock => exact ⟨present, timely, by simp [Session.after, held]⟩
  | _ => exact ⟨present, timely, held⟩

theorem Settled.after {s : Session} (settled : Settled s) {rpc : Rpc} (reads : rpc.Reads)
    (acked carried : Bool) (choice : Choice) : Settled (s.after rpc acked carried choice) := by
  cases rpc with
  | commitCheck => exact ⟨settled.timely, settled.held⟩
  | candidateXml => exact ⟨settled.timely, settled.held⟩
  | confirmedCommitXml xml => exact ⟨settled.timely, settled.held⟩
  | _ => exact reads.elim

theorem Settled.commit {s : Session} (settled : Settled s) (comment : Text) (acked carried : Bool)
    (choice : Choice) : Settled (s.after (.commitWithComment comment) acked carried choice) :=
  ⟨settled.timely, fun present touched => settled.held present (Bool.and_eq_true_iff.mp touched).1⟩

theorem Settled.unlock {s : Session} (settled : Settled s) (unmarked : Unmarked s)
    (acked carried : Bool) (choice : Choice) : Settled (s.after .unlock acked carried choice) :=
  ⟨settled.timely, fun present touched => absurd ((unmarked present).symm.trans touched) nofun⟩

theorem Settled.close {s : Session} (settled : Settled s) (present : s.present = true)
    (acked carried : Bool) (choice : Choice) : Settled (s.after .close acked carried choice) := by
  obtain ⟨timely, held⟩ := settled
  refine ⟨?_, nofun⟩
  unfold Timely at timely ⊢
  cases touched : s.touched with
  | false => simp [Session.after, timely, touched]
  | true => simp [Session.after, timely, touched, held present touched]

theorem Ready.lock {s : Session} (ready : Ready s) (acked carried : Bool) (choice : Choice) :
    Ready (s.after .lock acked carried choice) :=
  ⟨ready.present, ready.timely, ready.unmarked⟩

def boundedDiscard : Contract DiscardPromise where
  always := Timely
  idle := Ready
  held := Holding
  releasable := Settled
  safe := Settled
  releasable_always := Settled.timely
  safe_releasable := id
  idle_safe := Ready.settled
  held_safe := Holding.settled
  idle_present := Ready.present
  connected := ⟨rfl, rfl, rfl⟩
  checkedOut ready := ⟨ready.present, ready.timely, ready.unmarked⟩
  prevented ready := ⟨ready.timely, ready.settled.held⟩
  locked choice ready := ⟨ready.present, ready.timely, Bool.and_false _⟩
  lockLost choice ready := ⟨ready.timely, (ready.lock false _ choice).settled.held⟩
  lockFailed choice ready _ := ⟨ready.timely, (ready.lock false _ choice).settled.held⟩
  works choice holding works _ :=
    holding.after (by rintro rfl; exact works) (by rintro rfl; exact works) _ _ choice
  reads choice settled reads _ := settled.after reads _ _ choice
  committed choice settled := settled.commit _ _ _ choice
  commitFailed choice settled := settled.commit _ _ _ choice
  confirmed choice settled _ := ⟨settled.timely, settled.held⟩
  closed choice settled present := settled.close present _ _ choice
  configFailed settled _ _ := settled
  unlocked choice settled unmarked := settled.unlock unmarked _ _ choice
  reusable choice settled unmarked :=
    ⟨settled.timely, (settled.unlock unmarked true true choice).held⟩
  unlockFailed choice settled unmarked _ := settled.unlock unmarked _ _ choice
  unlockLost choice settled unmarked _ := settled.unlock unmarked _ _ choice
  pooled settled present _ _ unmarked _ := ⟨present, settled.timely, unmarked⟩

/-! ## The direct path -/

abbrev boundedWorld : World SessionOp SessionRes Session := sessionWorld.restrict DiscardPromise

abbrev boundedWatch : Watch Session := ⟨Timely, Settled⟩

/-- The world in which the direct path runs, as its backend. -/
abbrev boundedBackend : World BackendOp BackendRes Session :=
  boundedWorld.pull (Await.rename backendRpc) (Await.readAnswer backendRpc backendReply)

theorem Holding.moved {s s' : Session} (holding : Holding s)
    (moved : s.Moved (fun rpc => rpc ≠ .unlock ∧ rpc ≠ .close) s') : Holding s' := by
  cases moved with
  | still => exact holding
  | call choice keeps _ => exact holding.after keeps.1 keeps.2 _ _ choice

/-- The operations of the direct path that do not unlock. -/
theorem onDevice_keeps {op : BackendOp} (keeps : op.sends ≠ some .unlock) :
    OnDevice (fun rpc => rpc ≠ .unlock ∧ rpc ≠ .close) (op.rename backendRpc) := by
  cases op with
  | ensureActive => trivial
  | bare called => cases called with
      | unlock => exact absurd rfl keeps
      | _ => exact ⟨nofun, nofun⟩
  | timed called => cases called with
      | unlock => exact absurd rfl keeps
      | _ => exact ⟨nofun, nofun⟩
  | raced called => cases called with
      | unlock => exact absurd rfl keeps
      | _ => exact ⟨nofun, nofun⟩

theorem WorkOp.keeps {op : BackendOp} (allowed : WorkOp op) : op.sends ≠ some .unlock := by
  intro sends
  cases op with
  | ensureActive => cases sends
  | raced call => exact allowed.2 (Option.some.inj sends)
  | timed call => exact allowed
  | bare call => cases call <;> first | exact allowed | cases sends

theorem work_holding {α : Type} {s : Session} (holding : Holding s) {program : BackendProg α}
    (performs : program.Performs WorkOp) :
    wp boundedBackend boundedWatch program (fun _ => Holding) s := by
  refine wp_invariant performs holding ?_ ?_
  · rintro s op answer s' allowed holding ⟨seen, _, here, _⟩
    have still := holding.moved (answered_moved (onDevice_keeps allowed.keeps) here)
    exact ⟨still.timely, still⟩
  · rintro s op s' allowed holding ⟨here, _⟩
    have still := holding.moved (abandoned_moved (onDevice_keeps allowed.keeps) here)
    exact ⟨still.timely, still.settled⟩

/-- What an unlock leaves that was not carried out on a marked session. -/
theorem Holding.unlock {s s' : Session} (holding : Holding s)
    (moved : s.Moved (fun rpc => rpc = .unlock) s')
    (kept : s.touched = true → s.locked = true → s'.locked = true) :
    s'.present = true ∧ Settled s' := by
  obtain ⟨present, timely, held⟩ := holding
  cases moved with
  | still => exact ⟨present, timely, fun _ _ => held⟩
  | @call rpc acked carried choice called _ =>
      subst called
      refine ⟨present, timely, fun _ touched => ?_⟩
      cases locked : s.locked with
      | false => simp [Session.after, held, locked]
      | true =>
          have still := kept touched locked
          cases carried with
          | true => simp [Session.after] at still
          | false => simp [Session.after, held]

theorem cleanup_settled {s : Session} (holding : Holding s) (rollbackRequired : Bool)
    (cleanupTimeout : Duration) :
    wp boundedBackend boundedWatch (cleanup rollbackRequired cleanupTimeout)
      (fun _ s' => s'.present = true ∧ Settled s') s := by
  have unlock : ∀ {s : Session}, Holding s → ∀ {revert : Option Text},
      wp boundedBackend boundedWatch (.step (.timed .unlock) fun unlock =>
        .pure (CleanupFailures.mk revert (cleanupFailure cleanupTimeout unlock)))
        (fun _ s' => s'.present = true ∧ Settled s') s := by
    intro s holding revert
    constructor
    · rintro answer s' ⟨seen, _, here, kept⟩
      have after := holding.unlock (answered_moved (by exact rfl) here) kept
      exact ⟨after.2.timely, after⟩
    · rintro s' ⟨here, kept⟩
      have after := holding.unlock (abandoned_moved (by exact rfl) here) kept
      exact ⟨after.2.timely, after.2⟩
  cases rollbackRequired with
  | false => exact unlock holding
  | true =>
      have keeps : OnDevice (fun rpc => rpc ≠ .unlock ∧ rpc ≠ .close)
          ((Await.timed BackendCall.rollback).rename backendRpc) := onDevice_keeps nofun
      constructor
      · rintro answer s' ⟨seen, _, here, _⟩
        have still := holding.moved (answered_moved keeps here)
        exact ⟨still.timely, unlock still⟩
      · rintro s' ⟨here, _⟩
        have still := holding.moved (abandoned_moved keeps here)
        exact ⟨still.timely, still.settled⟩

/-- Where the lock call leaves the session, and what it may have taken. -/
structure LockOutcome (result : Except JmcpError Unit) (s : Session) : Prop where
  present : s.present = true
  settled : Settled s
  taken : ∀ value, result = .ok value → Holding s
  dropped : ∀ primary, result = .error primary → primary.dropped = true → Holding s

theorem Ready.moved {s s' : Session} (ready : Ready s) (moved : s.Moved (fun rpc => rpc = .lock) s') :
    Ready s' := by
  cases moved with
  | still => exact ready
  | @call rpc acked carried choice called _ =>
      subst called
      exact ready.lock acked carried choice

theorem Ready.holding {s : Session} (ready : Ready s) (held : s.released = false) : Holding s :=
  ⟨ready.present, ready.timely, held⟩

theorem lockStep_outcome {s : Session} (ready : Ready s) (operationTimeout : Duration) :
    wp boundedBackend boundedWatch (backendStep operationTimeout .lock) LockOutcome s := by
  have ended : ∀ {s : Session} (error : JmcpError), Ready s → s.released = false →
      LockOutcome (.error error) s := fun error ready held =>
    ⟨ready.present, ready.settled, nofun, fun _ _ _ => ready.holding held⟩
  constructor
  · rintro activity s' ⟨seen, rfl, rfl, kept⟩
    refine ⟨ready.timely, ?_⟩
    cases seen with
    | cancelled => exact ended _ ready kept
    | expired => exact ended _ ready kept
    | active =>
        constructor
        · rintro reply s' ⟨seen, rfl, here, kept⟩
          have still : Ready s' := ready.moved (answered_moved (by exact rfl) here)
          refine ⟨still.timely, ?_⟩
          rcases seen with (error | _) | _ | _
          · exact ⟨still.present, still.settled, nofun, fun primary same dropped => by
              cases same
              cases dropped⟩
          · obtain ⟨choice, rfl⟩ := here
            exact ⟨still.present, still.settled, fun _ _ => still.holding (Bool.and_false _), nofun⟩
          · exact ended _ still kept
          · exact ended _ still kept
        · rintro s' ⟨here, _⟩
          have still : Ready s' := ready.moved (abandoned_moved (by exact rfl) here)
          exact ⟨still.timely, still.settled⟩
  · rintro s' ⟨here, _⟩
    exact here.elim

theorem execute_bounded {s : Session} (ready : Ready s) {request : CandidateRequest}
    (locks : request.mode ≠ .discard) (operationTimeout cleanupTimeout : Duration) :
    wp boundedWorld boundedWatch (executeOnSession request operationTimeout cleanupTimeout)
      (fun _ s' => s'.present = true ∧ Settled s') s := by
  refine wp_relabel.mpr ?_
  rw [execute, if_neg locks]
  refine wp_then (lockStep_outcome ready operationTimeout) fun reply s' outcome => ?_
  cases reply with
  | error primary =>
      cases dropped : primary.dropped with
      | true =>
          have holding := outcome.dropped primary rfl dropped
          simp only [dropped, if_true]
          exact wp_then (cleanup_settled holding true cleanupTimeout) fun _ _ after => after
      | false =>
          simp only [dropped]
          exact ⟨outcome.present, outcome.settled⟩
  | ok value =>
      have worked := work_holding (outcome.taken value rfl)
        (primaryOperation_performs request operationTimeout)
      refine wp_then worked fun work s' holding => ?_
      exact wp_then (cleanup_settled holding _ cleanupTimeout) fun _ _ after => after

theorem boundedDiscard_direct : boundedDiscard.Direct := by
  intro request operationTimeout cleanupTimeout s locks ready
  have prevented : Ready (s.set .preventReuse) := ⟨ready.present, ready.timely, ready.unmarked⟩
  refine wp_guardOp prevented.timely (wp_config prevented.timely fun config _ => ?_)
  cases config with
  | error error => exact boundedDiscard.dropGuard_safe prevented.settled
  | ok _ =>
      refine wp_then (execute_bounded prevented locks operationTimeout cleanupTimeout) ?_
      rintro ⟨result, reusable⟩ s' ⟨present, settled⟩
      cases reusable with
      | true =>
          have allowed : Settled (s'.set .allowReuse) := ⟨settled.timely, settled.held⟩
          exact wp_guardOp allowed.timely (boundedDiscard.dropGuard_safe allowed)
      | false =>
          exact boundedDiscard.closingWithin settled present fun _ _ settled => settled.timely

/-! ## The sessions of a server -/

abbrev boundedSessions (cleanupTimeout : Duration) : Lending SessionOp SessionRes Place Session :=
  (sessions (LockingCall cleanupTimeout) cleanupTimeout).restrict DiscardPromise

/-- No method that takes the lock sends a discard on a session that has given it up. -/
theorem discards_bounded (cleanupTimeout : Duration) {state : Nat → SessionSlot}
    (reached : (boundedSessions cleanupTimeout).Reachable noSessions state) (id : Nat) :
    (state id).2.lateDiscard = false := by
  have discipline : (boundedSessions cleanupTimeout).Discipline boundedDiscard.place
      boundedDiscard.always :=
    boundedDiscard.discipline fun _ _ => boundedDiscard.lockingCall_safe boundedDiscard_direct
  have fresh : ∀ id, (boundedSessions cleanupTimeout).SlotInvariant boundedDiscard.place
      boundedDiscard.always (noSessions id) := fun _ => rfl
  exact (Lending.SlotInvariant.reachable discipline fresh reached id).safe discipline

/-! ## Two direct transactions -/

/-- The same load, as a dry run or with a commit. -/
def directRequest (mode : CandidateMode) : CandidateRequest where
  payload := some (.set "set system host-name r1".toList)
  rollbackSource := none
  mode := mode
  loadAction := .set

def accepted (rpc : Rpc) (reply : rpc.Value) : Except RustEzError rpc.Value := .ok reply

/-- Lock, load and diff. -/
def loadedTrace : SessionTrace :=
  [⟨.bare (.guard .preventReuse), ()⟩,
   ⟨.bare (.device .config), accepted .config ()⟩,
   ⟨.ensureActive, Activity.active⟩,
   ⟨.raced (.device .lock), .completed (accepted .lock ())⟩,
   ⟨.ensureActive, Activity.active⟩,
   ⟨.raced (.device (.load (.set "set system host-name r1".toList) .set)),
     .completed (accepted (.load (.set "set system host-name r1".toList) .set) ())⟩,
   ⟨.ensureActive, Activity.active⟩,
   ⟨.raced (.device .diff), .completed (accepted .diff none)⟩]

/-- A call that was carried out on a session that stays alive. -/
def carriedOut : Choice := ⟨true, true, false, false⟩

theorem loaded_follows :
    Follows boundedWorld Session.connected loadedTrace
      { Session.connected with reuseAllowed := false, touched := true, locked := true } := by
  iterate 2 refine .step ⟨⟨rfl, rfl⟩, trivial⟩ ?_
  iterate 3
    refine .step ⟨rfl, trivial⟩ ?_
    refine .step ⟨⟨carriedOut, rfl⟩, trivial⟩ ?_
  exact .refl _

/-- The rest of a dry run: the cleanup, and the guard's drop. -/
def dryRunTrace : SessionTrace :=
  [⟨.timed (.device (.rollback 0)), .completed (accepted (.rollback 0) ())⟩,
   ⟨.timed (.device .unlock), .completed (accepted .unlock ())⟩,
   ⟨.bare (.guard .allowReuse), ()⟩,
   ⟨.bare (.guard .present), true⟩,
   ⟨.bare (.guard .reuseAllowed), true⟩,
   ⟨.bare (.guard .isConfigDbOpen), false⟩,
   ⟨.bare (.guard .touchedCandidate), true⟩,
   ⟨.bare (.device .close), accepted .close ()⟩]

theorem dryRun_returns :
    Returns (runCandidate (directRequest .dryRun) 30 10) (loadedTrace ++ dryRunTrace) .closed := by
  iterate 16 refine .step ?_
  exact .pure _

theorem dryRun_follows :
    Follows sessionWorld Session.connected (loadedTrace ++ dryRunTrace)
      { Session.connected with
        present := false, touched := true, released := true, lateDiscard := true } := by
  refine follows_append.mpr ⟨_, loaded_follows.of_restrict, ?_⟩
  iterate 2 refine .step ⟨carriedOut, rfl⟩ ?_
  iterate 5 refine .step ⟨rfl, rfl⟩ ?_
  exact .step ⟨carriedOut, rfl⟩ (.refl _)

/-- A dry run closes its session with a discard, after it unlocked. -/
theorem dry_run_discards_late :
    ¬∀ state : Nat → SessionSlot, (sessions (LockingCall 10) 10).Reachable noSessions state →
      ∀ id, (state id).2.lateDiscard = false := by
  intro holds
  have opened : (sessions (LockingCall 10) 10).Step (noSessions 0)
      (.busy (runCandidate (directRequest .dryRun) 30 10) dropGuard, Session.connected) :=
    .start (.opened (.direct 30 nofun) .connect)
  have late := holds _ (Lending.reachable_of_slot
    (.head opened (Lending.run_slot dryRun_returns dryRun_follows))) 0
  simp at late

/-- The rest of a commit: the mark is gone before the unlock, and the session is pooled. -/
def committedTrace (comment : Text) : SessionTrace :=
  [⟨.ensureActive, Activity.active⟩,
   ⟨.bare (.device (.commitWithComment comment)), accepted (.commitWithComment comment) ()⟩,
   ⟨.timed (.device .unlock), .completed (accepted .unlock ())⟩,
   ⟨.bare (.guard .allowReuse), ()⟩,
   ⟨.bare (.guard .present), true⟩,
   ⟨.bare (.guard .reuseAllowed), true⟩,
   ⟨.bare (.guard .isConfigDbOpen), false⟩,
   ⟨.bare (.guard .touchedCandidate), false⟩,
   ⟨.bare (.guard .sessionAlive), true⟩]

theorem committed_returns (comment : Text) :
    Returns (runCandidate (directRequest (.commitWithComment comment)) 30 10)
      (loadedTrace ++ committedTrace comment) .pooled := by
  iterate 17 refine .step ?_
  exact .pure _

theorem committed_follows (comment : Text) :
    Follows boundedWorld Session.connected (loadedTrace ++ committedTrace comment)
      { Session.connected with released := true } := by
  refine follows_append.mpr ⟨_, loaded_follows, ?_⟩
  refine .step ⟨rfl, trivial⟩ ?_
  refine .step ⟨⟨carriedOut, rfl⟩, trivial⟩ ?_
  refine .step ⟨⟨carriedOut, rfl⟩, nofun⟩ ?_
  iterate 6 refine .step ⟨⟨rfl, rfl⟩, trivial⟩ ?_
  exact .refl _

/-- A committed session goes back to the pool without a discard. -/
theorem committed_session_bounded :
    (Function.update noSessions 0
      (.resting .pooled, { Session.connected with released := true }) 0).2.lateDiscard = false := by
  refine discards_bounded 10 ?_ 0
  have opened : (boundedSessions 10).Step (noSessions 0)
      (.busy (runCandidate (directRequest (.commitWithComment "c".toList)) 30 10) dropGuard,
        Session.connected) :=
    .start (.opened (.direct 30 nofun) .connect)
  exact Lending.reachable_of_slot
    (.head opened (Lending.run_slot (committed_returns _) (committed_follows _)))

end JunosMcp
