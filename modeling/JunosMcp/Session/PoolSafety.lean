import JunosMcp.Session.Contract

/-!
# An idle session owns nothing

A session goes back to the pool only if it neither holds the lock nor left edits in the candidate,
as long as the steps keep the promise below.
-/

namespace JunosMcp
open Lib

/-- What has to be true of a session that may be reused although it still holds the lock. -/
def KeptAway (s : Session) : Prop := s.touched = true ∨ s.configDbOpen = true

/-- What the pool relies on and does not check: a lock call that fails did not take the lock, a
confirmed commit leaves the lock only to a session that cannot be pooled, and so does a release
that fails on a session already marked reusable. A session that is no longer alive is exempt. -/
def OwnershipPromise : Promise
  | s, .bare (.device .lock), some (.error _), s' => s'.alive = true → s'.locked = true →
      s.locked = true
  | _, .bare (.device (.confirmedCommitXml _)), some (.ok _), s' =>
      s'.alive = true → s'.locked = true → KeptAway s'
  | _, .bare (.device .config), some (.error _), s' =>
      s'.alive = true → s'.reuseAllowed = true → s'.locked = true → KeptAway s'
  | _, .bare (.device .unlock), some (.error _), s' =>
      s'.alive = true → s'.reuseAllowed = true → s'.locked = true → KeptAway s'
  | _, .bare (.device .unlock), none, s' =>
      s'.alive = true → s'.reuseAllowed = true → s'.locked = true → KeptAway s'
  | _, _, _, _ => True

def OwnsNothing (s : Session) : Prop := s.locked = false ∧ s.dirtied = false

/-! ## The invariants of a guard -/

def Marked (s : Session) : Prop := s.dirtied = true → s.touched = true

/-- Dropping the guard cannot pool the session while it owns something. -/
structure Guarded (s : Session) : Prop where
  marked : Marked s
  free : s.alive = true → s.reuseAllowed = true → s.locked = true → KeptAway s

structure Tainted (s : Session) : Prop where
  marked : Marked s
  closed : s.reuseAllowed = false

structure Clean (s : Session) : Prop where
  present : s.present = true
  owns : OwnsNothing s
  unmarked : s.touched = false

def SafeGuard (s : Session) : Prop := s.present = true → Guarded s

def MarkedGuard (s : Session) : Prop := s.present = true → Marked s

theorem Tainted.guarded {s : Session} (tainted : Tainted s) : Guarded s :=
  ⟨tainted.marked, fun _ reuse => by simp [tainted.closed] at reuse⟩

theorem Tainted.safe {s : Session} (tainted : Tainted s) : SafeGuard s := fun _ => tainted.guarded

theorem Clean.marked {s : Session} (clean : Clean s) : Marked s := fun dirtied => by
  simp [clean.owns.2] at dirtied

theorem Clean.tainted {s : Session} (clean : Clean s) : Tainted (s.set .preventReuse) :=
  ⟨clean.marked, rfl⟩

theorem Clean.safe {s : Session} (clean : Clean s) : SafeGuard s :=
  fun _ => ⟨clean.marked, fun _ _ locked => by simp [clean.owns.1] at locked⟩

theorem Marked.after {s : Session} (marked : Marked s) (rpc : Rpc) {acked carried : Bool}
    (carriedOut : acked = true → carried = true) (choice : Choice) :
    Marked (s.after rpc acked carried choice) := by
  unfold Marked at marked ⊢
  cases rpc with
  | rollback version => cases version <;> simp [Session.after]
  | load payload action => simp [Session.after]
  | commitWithComment comment =>
      cases acked with
      | true => simp [Session.after, carriedOut rfl]
      | false =>
          simp only [Session.after, Bool.and_eq_true, Bool.not_false, Bool.and_true]
          exact fun dirtied => marked dirtied.1
  | close =>
      simp only [Session.after, Bool.and_eq_true]
      exact fun dirtied => marked dirtied.1
  | commitConfirmed seconds =>
      simp only [Session.after, Bool.and_eq_true]
      exact fun dirtied => marked dirtied.1
  | confirmedCommitXml xml =>
      simp only [Session.after, Bool.and_eq_true]
      exact fun dirtied => marked dirtied.1
  | _ => exact marked

theorem Tainted.after {s : Session} (tainted : Tainted s) (rpc : Rpc) {acked carried : Bool}
    (carriedOut : acked = true → carried = true) (choice : Choice) :
    Tainted (s.after rpc acked carried choice) :=
  ⟨tainted.marked.after rpc carriedOut choice, by rw [reuseAllowed_after, tainted.closed]⟩

theorem Guarded.reads {s : Session} (guarded : Guarded s) {rpc : Rpc} (reads : rpc.Reads)
    {acked carried : Bool} (carriedOut : acked = true → carried = true) (choice : Choice) :
    Guarded (s.after rpc acked carried choice) := by
  refine ⟨guarded.marked.after rpc carriedOut choice, fun alive reuse locked => ?_⟩
  rw [reuseAllowed_after] at reuse
  cases rpc with
  | commitCheck => exact guarded.free (Bool.and_eq_true_iff.mp alive).1 reuse locked
  | candidateXml => exact guarded.free (Bool.and_eq_true_iff.mp alive).1 reuse locked
  | confirmedCommitXml xml => exact guarded.free (Bool.and_eq_true_iff.mp alive).1 reuse locked
  | _ => exact reads.elim

/-- A commit that was not acknowledged changes nothing the guard relies on. -/
theorem Guarded.refused {s : Session} (guarded : Guarded s) (comment : Text) (carried : Bool)
    (choice : Choice) : Guarded (s.after (.commitWithComment comment) false carried choice) := by
  refine ⟨guarded.marked.after _ not_acked choice, fun alive reuse locked => ?_⟩
  simp only [Session.after, Bool.and_eq_true] at alive
  have kept := guarded.free alive.1 reuse locked
  unfold KeptAway at kept ⊢
  simpa [Session.after] using kept

/-- A session the drop may pool owns nothing. -/
theorem Guarded.pools {s : Session} (guarded : Guarded s) (present : s.present = true)
    (reuse : s.reuseAllowed = true) (quiet : s.configDbOpen = false) (unmarked : s.touched = false)
    (alive : s.alive = true) : Clean s := by
  refine ⟨present, ⟨?_, ?_⟩, unmarked⟩
  · by_contra locked
    rcases guarded.free alive reuse (by simpa using locked) with touched | opened
    · simp [unmarked] at touched
    · simp [quiet] at opened
  · by_contra dirtied
    have touched := guarded.marked (by simpa using dirtied)
    simp [unmarked] at touched

def ownership : Contract OwnershipPromise where
  always _ := True
  idle := Clean
  held := Tainted
  releasable := MarkedGuard
  safe := SafeGuard
  releasable_always _ := trivial
  safe_releasable safe present := (safe present).marked
  idle_safe := Clean.safe
  held_safe tainted _ := tainted.guarded
  idle_present := Clean.present
  connected := ⟨rfl, ⟨rfl, rfl⟩, rfl⟩
  checkedOut clean := ⟨clean.present, clean.owns, clean.unmarked⟩
  prevented clean _ := clean.tainted.guarded
  locked choice clean := clean.tainted.after .lock (fun _ => rfl) choice
  lockLost choice clean _ := (clean.tainted.after .lock not_acked choice).guarded
  lockFailed choice clean kept _ := by
    refine ⟨clean.marked, fun alive _ locked => ?_⟩
    have taken := kept alive locked
    exact absurd (clean.owns.1.symm.trans taken) nofun
  works choice tainted _ carriedOut := tainted.after _ carriedOut choice
  reads choice safe reads carriedOut present := by
    rw [present_after (by rintro rfl; exact reads)] at present
    exact (safe present).reads reads carriedOut choice
  committed choice safe present := (safe present).marked.after _ (fun _ => rfl) choice
  commitFailed choice safe present := (safe present).refused _ _ choice
  confirmed {s xml _} choice safe kept present := by
    have marked : Marked (s.after (.confirmedCommitXml xml) true true choice) :=
      (safe present).marked.after _ (fun _ => rfl) choice
    exact ⟨marked, fun alive _ locked => kept alive locked⟩
  closed _ _ _ := nofun
  configFailed marked _ kept present := ⟨marked present, kept⟩
  unlocked choice marked _ present := (marked present).after .unlock (fun _ => rfl) choice
  reusable {s} choice marked _ present := by
    have still : Marked (s.after .unlock true true choice) :=
      (marked present).after _ (fun _ => rfl) choice
    refine ⟨still, fun _ _ locked => ?_⟩
    simp [Session.set, Session.after] at locked
  unlockFailed choice marked _ kept present := ⟨(marked present).after .unlock not_acked choice, kept⟩
  unlockLost choice marked _ kept present := ⟨(marked present).after .unlock not_acked choice, kept⟩
  pooled safe present := (safe present).pools present

abbrev ownedWorld : World SessionOp SessionRes Session := sessionWorld.restrict OwnershipPromise

abbrev poolWatch : Watch Session := ⟨fun _ => True, SafeGuard⟩

/-! ## The direct path -/

theorem Tainted.moved {s s' : Session} (tainted : Tainted s) {calls : Rpc → Prop}
    (moved : s.Moved calls s') : Tainted s' := by
  cases moved with
  | still => exact tainted
  | call choice _ carriedOut => exact tainted.after _ carriedOut choice

/-- The world in which the direct path runs, as its backend. -/
abbrev backendWorld : World BackendOp BackendRes Session :=
  ownedWorld.pull (Await.rename backendRpc) (Await.readAnswer backendRpc backendReply)

theorem Tainted.backendStep {s s' : Session} (tainted : Tainted s) {op : BackendOp}
    {answer : BackendRes op} (here : backendWorld.answered s op answer s') : Tainted s' := by
  obtain ⟨seen, _, here, _⟩ := here
  exact tainted.moved (answered_moved (onDevice_backend op) here)

theorem backend_tainted {α : Type} {s : Session} (tainted : Tainted s) (program : BackendProg α) :
    wp backendWorld poolWatch program (fun _ => Tainted) s :=
  wp_invariant program.performs_any tainted
    (fun _ _ _ _ _ tainted here => ⟨trivial, tainted.backendStep here⟩)
    fun _ op _ _ tainted here =>
      ⟨trivial, (tainted.moved (abandoned_moved (onDevice_backend op) here.1)).safe⟩

/-- An unlock that worked left no lock. -/
theorem unlockStep_safe {α : Type} {s : Session} (tainted : Tainted s) (cleanupTimeout : Duration)
    {next : Timed (Except JmcpError Unit) → BackendProg α} {post : α → Session → Prop}
    (rest : ∀ reply s', Tainted s' →
      (cleanupFailure cleanupTimeout reply = none → s'.locked = false) →
      wp backendWorld poolWatch (next reply) post s') :
    wp backendWorld poolWatch (.step (.timed .unlock) next) post s := by
  constructor
  · rintro answer s' here
    refine ⟨trivial, rest answer s' (tainted.backendStep here) fun ok => ?_⟩
    obtain ⟨value, rfl⟩ := cleanupFailure_eq_none ok
    obtain ⟨seen, same, ⟨here, _⟩⟩ := here
    rcases seen with (error | done) | _
    · cases same
    · obtain ⟨choice, rfl⟩ := here
      simp [Session.after, Session.acked]
    · cases same
  · rintro s' here
    exact ⟨trivial, (tainted.moved (abandoned_moved (onDevice_backend _) here.1)).safe⟩

theorem cleanup_safe {s : Session} (tainted : Tainted s) (rollbackRequired : Bool)
    (cleanupTimeout : Duration) :
    wp backendWorld poolWatch (cleanup rollbackRequired cleanupTimeout)
      (fun failures s' => Tainted s' ∧ (failures.unlock = none → s'.locked = false)) s := by
  cases rollbackRequired with
  | true =>
      constructor
      · rintro answer s' here
        exact ⟨trivial, unlockStep_safe (tainted.backendStep here) cleanupTimeout
          fun _ _ still unlocked => ⟨still, unlocked⟩⟩
      · rintro s' here
        exact ⟨trivial, (tainted.moved (abandoned_moved (onDevice_backend _) here.1)).safe⟩
  | false =>
      exact unlockStep_safe tainted cleanupTimeout fun _ _ still unlocked => ⟨still, unlocked⟩

/-- Only a lock takes the lock. -/
theorem locked_moved {s s' : Session} (free : s.locked = false)
    (moved : s.Moved (fun rpc => rpc ≠ .lock) s') : s'.locked = false := by
  cases moved with
  | still => exact free
  | @call rpc acked carried choice called carriedOut =>
      cases rpc with
      | lock => exact absurd rfl called
      | rollback version => cases version <;> exact free
      | unlock => simp [Session.after, free]
      | close => simp [Session.after, free]
      | _ => exact free

/-- A discard never takes the lock. -/
theorem revert_safe {s : Session} (tainted : Tainted s) (free : s.locked = false)
    (operationTimeout : Duration) :
    wp backendWorld poolWatch (backendStep operationTimeout .rollback)
      (fun _ s' => Tainted s' ∧ s'.locked = false) s := by
  have lockless : ∀ {op : BackendOp}, op = .ensureActive ∨ op = .raced .rollback →
      OnDevice (fun rpc => rpc ≠ .lock) (op.rename backendRpc) := by
    rintro _ (rfl | rfl)
    · trivial
    · exact nofun
  have performs : (backendStep operationTimeout .rollback).Performs
      (fun op => op = .ensureActive ∨ op = .raced .rollback) := by
    refine ⟨.inl rfl, fun activity => ?_⟩
    cases activity with
    | active => exact ⟨.inr rfl, fun _ => trivial⟩
    | cancelled => trivial
    | expired => trivial
  refine wp_invariant performs ⟨tainted, free⟩ ?_ ?_
  · rintro s op answer s' allowed ⟨tainted, free⟩ ⟨seen, _, here, _⟩
    have moved := answered_moved (lockless allowed) here
    exact ⟨trivial, tainted.moved moved, locked_moved free moved⟩
  · rintro s op s' allowed ⟨tainted, free⟩ ⟨here, _⟩
    exact ⟨trivial, (tainted.moved (abandoned_moved (lockless allowed) here)).safe⟩

/-- A direct transaction that calls its session reusable does not leave it locked. -/
theorem execute_safe {s : Session} (tainted : Tainted s) (free : s.locked = false)
    (request : CandidateRequest) (operationTimeout cleanupTimeout : Duration) :
    wp ownedWorld poolWatch (executeOnSession request operationTimeout cleanupTimeout)
      (fun execution s' => Tainted s' ∧ (execution.reusable = true → s'.locked = false)) s := by
  refine wp_relabel.mpr ?_
  unfold execute
  split
  · refine wp_then (revert_safe tainted free operationTimeout) ?_
    rintro (error | _) s' ⟨still, free⟩
    · exact ⟨still, nofun⟩
    · exact ⟨still, fun _ => free⟩
  · refine wp_then (backend_tainted tainted _) fun reply s' still => ?_
    cases reply with
    | error primary =>
        dsimp only
        split
        · exact wp_then (cleanup_safe still true cleanupTimeout) fun _ _ after => ⟨after.1, nofun⟩
        · exact ⟨still, nofun⟩
    | ok _ =>
        refine wp_then (backend_tainted still _) fun ⟨outcome, committed⟩ s' still => ?_
        refine wp_then (cleanup_safe still _ cleanupTimeout) fun failures s' after => ?_
        refine ⟨after.1, fun reusable => after.2 ?_⟩
        simp only [CleanupFailures.isEmpty, Bool.and_eq_true, Option.isNone_iff_eq_none]
          at reusable
        exact reusable.1.2

theorem runCandidate_safe {s : Session} (clean : Clean s) (request : CandidateRequest)
    (operationTimeout cleanupTimeout : Duration) :
    wp ownedWorld poolWatch (runCandidate request operationTimeout cleanupTimeout)
      ownership.place s := by
  refine wp_guardOp trivial (wp_config trivial fun config _ => ?_)
  cases config with
  | error error => exact ownership.dropGuard_safe clean.tainted.safe
  | ok _ =>
      refine wp_then (execute_safe clean.tainted clean.owns.1 request operationTimeout
        cleanupTimeout) ?_
      rintro ⟨result, reusable⟩ s' ⟨still, unlocked⟩
      cases reusable with
      | true =>
          refine wp_guardOp trivial (ownership.dropGuard_safe fun _ => ⟨still.marked, ?_⟩)
          exact fun _ _ locked => absurd (locked.symm.trans (unlocked rfl)) nofun
      | false =>
          refine wp_callWithin .close nofun ?_ ?_
          · rintro reply acked carried choice s' _ rfl _
            exact ⟨trivial, trivial⟩
          · rintro carried choice s' rfl _
            exact ⟨trivial, nofun⟩

/-! ## The calls without the lock -/

theorem SafeGuard.reverted {s : Session} (safe : SafeGuard s) {acked carried : Bool}
    (carriedOut : acked = true → carried = true) (choice : Choice) :
    SafeGuard (s.after (.rollback 0) acked carried choice) := fun present =>
  ⟨(safe present).marked.after (.rollback 0) carriedOut choice, fun _ _ _ => .inl rfl⟩

theorem candidateRevert_safe {s : Session} (clean : Clean s) :
    wp ownedWorld poolWatch candidateRevert (fun _ => SafeGuard) s := by
  refine wp_config trivial fun config _ => ?_
  cases config with
  | error error => exact clean.safe
  | ok _ =>
      refine wp_call (.rollback 0) nofun ?_ ?_
      · rintro reply carried choice s' carriedOut rfl _
        refine ⟨trivial, ?_⟩
        cases reply with
        | ok _ => exact clean.safe.reverted carriedOut choice
        | error error =>
            dsimp only
            split <;> exact clean.safe.reverted carriedOut choice
      · rintro carried choice s' rfl _
        exact ⟨trivial, clean.safe.reverted not_acked choice⟩

theorem closeInPlace_safe (s : Session) :
    wp ownedWorld poolWatch closeInPlace (fun _ => SafeGuard) s := by
  refine wp_present trivial ?_
  cases present : s.present with
  | true =>
      refine wp_call .close nofun ?_ ?_
      · rintro reply carried choice s' _ rfl _
        exact ⟨trivial, nofun⟩
      · rintro carried choice s' rfl _
        exact ⟨trivial, nofun⟩
  | false => exact fun still => absurd (still.symm.trans present) nofun

theorem confirmCommit_safe {s : Session} (clean : Clean s) (comment : Text) :
    wp ownedWorld poolWatch (confirmCommit comment) (fun _ => SafeGuard) s := by
  refine wp_config trivial fun config _ => ?_
  cases config with
  | error error => exact clean.safe
  | ok _ =>
      refine ownership.commitCall clean.safe _ (fun s' _ => ?_) fun _ s' _ => ?_
      · exact wp_then (closeInPlace_safe s') fun _ _ safe => safe
      · exact wp_then (closeInPlace_safe s') fun _ _ safe => safe

/-! ## The sessions of a server -/

/-- The calls of the change-set transaction and of the direct path. -/
def AnyCall (cleanupTimeout : Duration) (program : SessionProg Place) : Prop :=
  LockingCall cleanupTimeout program ∨ UnlockedCall cleanupTimeout program

theorem anyCall_safe {cleanupTimeout : Duration} {program : SessionProg Place} {s : Session}
    (call : AnyCall cleanupTimeout program) (clean : Clean s) :
    wp ownedWorld poolWatch program ownership.place s := by
  rcases call with call | call
  · exact ownership.lockingCall_safe (fun request operationTimeout cleanupTimeout s _ clean =>
      runCandidate_safe clean request operationTimeout cleanupTimeout) call clean
  · cases call with
    | candidateRevert =>
        exact ownership.thenDo_safe (candidateRevert_safe clean) fun _ => ownership.dropGuard_safe
    | confirmCommit comment =>
        exact ownership.thenDo_safe (confirmCommit_safe clean comment)
          fun _ => ownership.dropGuard_safe
    | discard operationTimeout discards =>
        exact runCandidate_safe clean _ operationTimeout cleanupTimeout

abbrev ownedSessions (cleanupTimeout : Duration) : Lending SessionOp SessionRes Place Session :=
  (sessions (AnyCall cleanupTimeout) cleanupTimeout).restrict OwnershipPromise

/-- The session owns nothing while it sits in the pool, nor when `open` hands it out. -/
def PoolOwnsNothing (slot : SessionSlot) : Prop :=
  ∀ place, slot.1 = .resting place →
    (place = .pooled → OwnsNothing slot.2) ∧ ∀ s', Opens place slot.2 s' → OwnsNothing s'

/-! ## A lock call that fails -/

/-- `lock` on a new session whose lock call fails. -/
def failedLockTrace (error : RustEzError) : SessionTrace :=
  [⟨.bare (.guard .preventReuse), ()⟩,
   ⟨.bare (.device .config), (.ok () : Except RustEzError Unit)⟩,
   ⟨.bare (.device .lock), (.error error : Except RustEzError Unit)⟩,
   ⟨.bare (.guard .allowReuse), ()⟩,
   ⟨.bare (.guard .present), true⟩,
   ⟨.bare (.guard .reuseAllowed), true⟩,
   ⟨.bare (.guard .isConfigDbOpen), false⟩,
   ⟨.bare (.guard .touchedCandidate), false⟩,
   ⟨.bare (.guard .sessionAlive), true⟩]

theorem failedLock_returns (error : RustEzError) :
    Returns (endIn lockSession (keepIn .locked)) (failedLockTrace error) .pooled :=
  .step (.step (.step (.step (.step (.step (.step (.step (.step (.pure _)))))))))

theorem failedLock_follows (error : RustEzError) :
    Follows sessionWorld Session.connected (failedLockTrace error)
      { Session.connected with locked := true } := by
  iterate 2 refine .step ⟨rfl, rfl⟩ ?_
  refine .step ⟨⟨true, true, false, false⟩, rfl⟩ ?_
  iterate 6 refine .step ⟨rfl, rfl⟩ ?_
  exact .refl _

theorem refusedLock_follows (error : RustEzError) :
    Follows ownedWorld Session.connected (failedLockTrace error) Session.connected := by
  iterate 2 refine .step ⟨⟨rfl, rfl⟩, trivial⟩ ?_
  refine .step ⟨⟨⟨false, true, false, false⟩, rfl⟩, nofun⟩ ?_
  iterate 6 refine .step ⟨⟨rfl, rfl⟩, trivial⟩ ?_
  exact .refl _

/-- The server after that call. -/
def afterFailedLock (carried : Bool) : Nat → SessionSlot :=
  Function.update noSessions 0
    (.resting .pooled, { Session.connected with locked := carried })

theorem pooled_owns_nothing (cleanupTimeout : Duration) {state : Nat → SessionSlot}
    (reached : (ownedSessions cleanupTimeout).Reachable noSessions state) (id : Nat) :
    PoolOwnsNothing (state id) := by
  have discipline : (ownedSessions cleanupTimeout).Discipline ownership.place ownership.always :=
    ownership.discipline fun _ _ => anyCall_safe
  have fresh : ∀ id, (ownedSessions cleanupTimeout).SlotInvariant ownership.place ownership.always
      (noSessions id) := fun _ => trivial
  have holds := Lending.SlotInvariant.reachable discipline fresh reached id
  generalize state id = slot at holds
  obtain ⟨slot, s⟩ := slot
  rintro place rfl
  refine ⟨?_, fun s' opens => Clean.owns (ownership.opened opens holds)⟩
  rintro rfl
  exact Clean.owns holds

/-- The session whose lock reply was lost goes back to the pool with the lock. -/
theorem lost_lock_reply_pooled :
    ¬∀ (state : Nat → SessionSlot),
      (sessions (AnyCall 30) 30).Reachable noSessions state → ∀ id, PoolOwnsNothing (state id) := by
  intro holds
  have opened : (sessions (AnyCall 30) 30).Step (noSessions 0)
      (.busy (endIn lockSession (keepIn .locked)) dropGuard, Session.connected) :=
    .start (.opened (.inl .lock) .connect)
  have pooled : (sessions (AnyCall 30) 30).Reachable noSessions (afterFailedLock true) :=
    Lending.reachable_of_slot (.head opened (Lending.run_slot
      (failedLock_returns ⟨.netconf .transport, "connection lost".toList⟩)
      (failedLock_follows _)))
  have owns := holds _ pooled 0
  simp [PoolOwnsNothing, OwnsNothing, afterFailedLock] at owns

/-- The session whose lock was refused goes back to the pool without it. -/
theorem refused_lock_pooled : PoolOwnsNothing (afterFailedLock false 0) := by
  refine pooled_owns_nothing 30 ?_ 0
  have opened : (ownedSessions 30).Step (noSessions 0)
      (.busy (endIn lockSession (keepIn .locked)) dropGuard, Session.connected) :=
    .start (.opened (.inl .lock) .connect)
  exact Lending.reachable_of_slot (.head opened (Lending.run_slot
    (failedLock_returns ⟨.netconf (.rpc (.serverError .lockDenied)), "lock denied".toList⟩)
    (refusedLock_follows _)))

end JunosMcp
