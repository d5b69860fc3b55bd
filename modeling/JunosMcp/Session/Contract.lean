import JunosMcp.Session.Rules

/-!
# What the methods rely on

The methods of the transaction meet a session in a few situations only. A contract names them and
says what each call does in each; the methods keep every contract.
-/

namespace JunosMcp
open Lib

/-- The calls of a session that holds the lock. -/
def Rpc.Works : Rpc → Prop
  | .load _ _ | .rollback _ | .diff | .candidateXml | .commitWithComment _ => True
  | _ => False

/-- The calls that change nothing the guard relies on. -/
def Rpc.Reads : Rpc → Prop
  | .commitCheck | .candidateXml | .confirmedCommitXml _ => True
  | _ => False

def Unmarked (s : Session) : Prop := s.present = true → s.touched = false

/-- The situations of a session: ready for a call, holding the lock, about to give it up, and
such that its guard may be dropped. -/
structure Contract (promise : Promise) where
  always : Session → Prop
  idle : Session → Prop
  held : Session → Prop
  releasable : Session → Prop
  safe : Session → Prop
  releasable_always : ∀ {s}, releasable s → always s
  safe_releasable : ∀ {s}, safe s → releasable s
  idle_safe : ∀ {s}, idle s → safe s
  held_safe : ∀ {s}, held s → safe s
  idle_present : ∀ {s}, idle s → s.present = true
  connected : idle Session.connected
  checkedOut : ∀ {s}, idle s → idle { s with reuseAllowed := true }
  prevented : ∀ {s}, idle s → safe (s.set .preventReuse)
  locked : ∀ {s} choice, idle s → held ((s.set .preventReuse).after .lock true true choice)
  lockLost : ∀ {s carried} choice, idle s →
    safe ((s.set .preventReuse).after .lock false carried choice)
  lockFailed : ∀ {s carried error} choice, idle s →
    promise (s.set .preventReuse) (.bare (.device .lock)) (some (.error error))
      ((s.set .preventReuse).after .lock false carried choice) →
    safe (((s.set .preventReuse).after .lock false carried choice).set .allowReuse)
  works : ∀ {s rpc acked carried} choice, held s → Rpc.Works rpc →
    (acked = true → carried = true) → held (s.after rpc acked carried choice)
  reads : ∀ {s rpc acked carried} choice, safe s → Rpc.Reads rpc →
    (acked = true → carried = true) → safe (s.after rpc acked carried choice)
  committed : ∀ {s comment} choice, safe s →
    releasable (s.after (.commitWithComment comment) true true choice)
  commitFailed : ∀ {s comment carried} choice, safe s →
    safe (s.after (.commitWithComment comment) false carried choice)
  confirmed : ∀ {s xml reply} choice, safe s →
    promise s (.bare (.device (.confirmedCommitXml xml))) (some (.ok reply))
      (s.after (.confirmedCommitXml xml) true true choice) →
    safe ((s.after (.confirmedCommitXml xml) true true choice).set .allowReuse)
  closed : ∀ {s acked carried} choice, releasable s → s.present = true →
    safe (s.after .close acked carried choice)
  configFailed : ∀ {s error}, releasable s → Unmarked s →
    promise s (.bare (.device .config)) (some (.error error)) s → safe s
  unlocked : ∀ {s} choice, releasable s → Unmarked s →
    releasable (s.after .unlock true true choice)
  reusable : ∀ {s} choice, releasable s → Unmarked s →
    safe ((s.after .unlock true true choice).set .allowReuse)
  unlockFailed : ∀ {s carried error} choice, releasable s → Unmarked s →
    promise s (.bare (.device .unlock)) (some (.error error))
      (s.after .unlock false carried choice) → safe (s.after .unlock false carried choice)
  unlockLost : ∀ {s carried} choice, releasable s → Unmarked s →
    promise s (.bare (.device .unlock)) none (s.after .unlock false carried choice) →
    safe (s.after .unlock false carried choice)
  pooled : ∀ {s}, safe s → s.present = true → s.reuseAllowed = true → s.configDbOpen = false →
    s.touched = false → s.alive = true → idle s

namespace Contract

variable {promise : Promise} (c : Contract promise) {s : Session}

abbrev world (_ : Contract promise) : World SessionOp SessionRes Session :=
  sessionWorld.restrict promise

def watch : Watch Session := ⟨c.always, c.safe⟩

variable {c}

theorem safe_always (safe : c.safe s) : c.always s := c.releasable_always (c.safe_releasable safe)

theorem held_always (held : c.held s) : c.always s := safe_always (c.held_safe held)

/-! ## The lock and the load -/

/-- A failed lock leaves a guard that may be dropped, a taken one a session that holds it. -/
theorem lockSession (idle : c.idle s) :
    wp c.world c.watch lockSession
      (fun result s' => c.safe s' ∧ (result = .ok () → c.held s')) s := by
  refine wp_guardOp (safe_always (c.prevented idle)) ?_
  refine wp_config (safe_always (c.prevented idle)) fun config _ => ?_
  cases config with
  | error error => exact ⟨c.prevented idle, nofun⟩
  | ok _ =>
      refine wp_call .lock nofun ?_ ?_
      · rintro reply carried choice s' carriedOut rfl kept
        cases reply with
        | ok _ =>
            cases carriedOut rfl
            exact ⟨held_always (c.locked choice idle), c.held_safe (c.locked choice idle), fun _ => c.locked choice idle⟩
        | error error =>
            have safe := c.lockFailed choice idle kept
            exact ⟨safe_always (c.lockLost choice idle), wp_guardOp (safe_always safe) ⟨safe, nofun⟩⟩
      · rintro carried choice s' rfl _
        exact ⟨safe_always (c.lockLost choice idle), c.lockLost choice idle⟩

theorem workCall {α : Type} (held : c.held s) (rpc : Rpc) (works : rpc.Works)
    {next : Except RustEzError rpc.Value → SessionProg α} {post : α → Session → Prop}
    (rest : ∀ reply s', c.held s' → wp c.world c.watch (next reply) post s') :
    wp c.world c.watch ((call rpc).bind next) post s := by
  have sent : rpc ≠ .config := by
    rintro rfl
    exact works
  refine wp_call rpc sent ?_ ?_
  · rintro reply carried choice s' carriedOut rfl _
    have still := c.works choice held works carriedOut
    exact ⟨held_always still, rest reply _ still⟩
  · rintro carried choice s' rfl _
    have still : c.held (s.after rpc false carried choice) := c.works choice held works nofun
    exact ⟨held_always still, c.held_safe still⟩

theorem readCall {α : Type} (safe : c.safe s) (rpc : Rpc) (reads : rpc.Reads)
    {next : Except RustEzError rpc.Value → SessionProg α} {post : α → Session → Prop}
    (rest : ∀ reply s', c.safe s' → wp c.world c.watch (next reply) post s') :
    wp c.world c.watch ((call rpc).bind next) post s := by
  have sent : rpc ≠ .config := by
    rintro rfl
    exact reads
  refine wp_call rpc sent ?_ ?_
  · rintro reply carried choice s' carriedOut rfl _
    have still := c.reads choice safe reads carriedOut
    exact ⟨safe_always still, rest reply _ still⟩
  · rintro carried choice s' rfl _
    have still : c.safe (s.after rpc false carried choice) := c.reads choice safe reads nofun
    exact ⟨safe_always still, still⟩

theorem loadAction_held {α : Type} (held : c.held s) (action : ResolvedAction)
    {next : Except RustEzError Unit → SessionProg α} {post : α → Session → Prop}
    (rest : ∀ reply s', c.held s' → wp c.world c.watch (next reply) post s') :
    wp c.world c.watch ((loadAction action).bind next) post s := by
  cases action with
  | rollback version => exact workCall held (.rollback version) trivial rest
  | load payload action => exact workCall held (.load payload action) trivial rest

theorem loadActions_held (held : c.held s) (actions : List ResolvedAction) (loaded : Nat) :
    wp c.world c.watch (loadActions loaded actions) (fun _ => c.held) s := by
  induction actions generalizing s loaded with
  | nil => exact held
  | cons action rest ih =>
      refine loadAction_held held action fun reply s' still => ?_
      cases reply with
      | ok _ => exact ih still (loaded + 1)
      | error error => exact still

theorem revertLoaded_held (held : c.held s) (loaded : Nat) :
    wp c.world c.watch (revertLoaded loaded) (fun _ => c.held) s := by
  unfold revertLoaded
  split
  · refine workCall held (.rollback 0) trivial fun reply s' still => ?_
    cases reply <;> exact still
  · exact held

/-! ## The release -/

/-- However the release goes, the guard may be dropped behind it. -/
theorem releaseLock_safe (releasable : c.releasable s) (cleanupTimeout : Duration) :
    wp c.world c.watch (releaseLock cleanupTimeout) (fun _ => c.safe) s := by
  refine wp_guardOp (c.releasable_always releasable) ?_
  cases marked : s.read .touchedCandidate with
  | true =>
      have present : s.present = true := (Bool.and_eq_true_iff.mp marked).1
      refine wp_callWithin .close nofun ?_ ?_
      · rintro reply acked carried choice s' _ rfl _
        have safe : c.safe (s.after .close acked carried choice) := c.closed choice releasable present
        refine ⟨safe_always safe, ?_⟩
        rcases reply with (_ | _) | _ <;> exact safe
      · rintro carried choice s' rfl _
        have safe : c.safe (s.after .close false carried choice) := c.closed choice releasable present
        exact ⟨safe_always safe, safe⟩
  | false =>
      have unmarked : Unmarked s := fun present => by
        have either : (s.present && s.touched) = false := marked
        rwa [present, Bool.true_and] at either
      refine wp_config (c.releasable_always releasable) fun config kept => ?_
      cases config with
      | error error => exact c.configFailed releasable unmarked kept
      | ok _ =>
          refine wp_call .unlock nofun ?_ ?_
          · rintro reply carried choice s' carriedOut rfl kept
            cases reply with
            | error error =>
                have safe := c.unlockFailed choice releasable unmarked kept
                exact ⟨safe_always safe, safe⟩
            | ok _ =>
                cases carriedOut rfl
                have safe : c.safe ((s.after .unlock true true choice).set .allowReuse) :=
                  c.reusable choice releasable unmarked
                refine ⟨?_, wp_guardOp (safe_always safe) safe⟩
                exact c.releasable_always (c.unlocked choice releasable unmarked)
          · rintro carried choice s' rfl kept
            have safe := c.unlockLost choice releasable unmarked kept
            exact ⟨safe_always safe, safe⟩

theorem loadAndDiff_safe (held : c.held s) (cleanupTimeout : Duration)
    (actions : List ResolvedAction) :
    wp c.world c.watch (loadAndDiff cleanupTimeout actions) (fun _ => c.safe) s := by
  refine wp_then (loadActions_held held actions 0) fun loaded s' still => ?_
  rcases loaded with ⟨loaded, _ | error⟩
  · refine workCall still .diff trivial fun reply s' still => ?_
    cases reply <;> exact c.held_safe still
  · refine wp_then (revertLoaded_held still loaded) fun revert s' still => ?_
    exact wp_then (releaseLock_safe (c.safe_releasable (c.held_safe still)) cleanupTimeout)
      fun _ _ safe => safe

theorem stageLocked_safe (held : c.held s) (cleanupTimeout : Duration)
    (actions : List ResolvedAction) :
    wp c.world c.watch (stageLocked cleanupTimeout actions) (fun _ => c.safe) s := by
  refine wp_config (held_always held) fun config _ => ?_
  cases config with
  | error error => exact c.held_safe held
  | ok _ => exact loadAndDiff_safe held cleanupTimeout actions

theorem stageOpened_safe (idle : c.idle s) (cleanupTimeout : Duration)
    (actions : List ResolvedAction) :
    wp c.world c.watch (stageOpened cleanupTimeout actions) (fun _ => c.safe) s := by
  refine wp_then (lockSession idle) ?_
  rintro (error | _) s' ⟨safe, held⟩
  · exact safe
  · exact loadAndDiff_safe (held rfl) cleanupTimeout actions

/-! ## Reading, validating and committing -/

theorem readCandidate_safe (safe : c.safe s) :
    wp c.world c.watch readCandidate (fun _ => c.safe) s := by
  refine wp_config (safe_always safe) fun config _ => ?_
  cases config with
  | error error => exact safe
  | ok _ =>
      refine readCall safe .candidateXml trivial fun reply s' still => ?_
      cases reply <;> exact still

/-- The handle keeps its session, so a cut must leave it with the lock too. -/
theorem readCandidate_held (held : c.held s) :
    wp c.world ⟨c.always, c.held⟩ readCandidate (fun _ => c.held) s := by
  refine wp_config (held_always held) fun config _ => ?_
  cases config with
  | error error => exact held
  | ok _ =>
      have works : (Rpc.candidateXml).Works := trivial
      refine wp_call .candidateXml nofun ?_ ?_
      · rintro reply carried choice s' carriedOut rfl _
        have still := c.works choice held works carriedOut
        refine ⟨held_always still, ?_⟩
        cases reply <;> exact still
      · rintro carried choice s' rfl _
        have still : c.held (s.after .candidateXml false carried choice) := c.works choice held works nofun
        exact ⟨held_always still, still⟩

theorem validateStaged_safe (safe : c.safe s) :
    wp c.world c.watch validateStaged (fun _ => c.safe) s := by
  refine wp_config (safe_always safe) fun config _ => ?_
  cases config with
  | error error => exact safe
  | ok _ =>
      refine readCall safe .commitCheck trivial fun reply s' still => ?_
      cases reply with
      | ok _ => exact still
      | error error =>
          dsimp only
          split <;> exact still

theorem commitCall {α : Type} (safe : c.safe s) (comment : Text)
    {next : Except RustEzError Unit → SessionProg α} {post : α → Session → Prop}
    (onOk : ∀ s', c.releasable s' → wp c.world c.watch (next (.ok ())) post s')
    (onError : ∀ error s', c.safe s' → wp c.world c.watch (next (.error error)) post s') :
    wp c.world c.watch ((call (.commitWithComment comment)).bind next) post s := by
  refine wp_call (.commitWithComment comment) nofun ?_ ?_
  · rintro reply carried choice s' carriedOut rfl _
    cases reply with
    | ok _ =>
        cases carriedOut rfl
        have still : c.releasable (s.after (.commitWithComment comment) true true choice) :=
          c.committed choice safe
        exact ⟨c.releasable_always still, onOk _ still⟩
    | error error =>
        have still : c.safe (s.after (.commitWithComment comment) false carried choice) :=
          c.commitFailed choice safe
        exact ⟨safe_always still, onError error _ still⟩
  · rintro carried choice s' rfl _
    have still : c.safe (s.after (.commitWithComment comment) false carried choice) :=
      c.commitFailed choice safe
    exact ⟨safe_always still, still⟩

theorem plainCommit_safe (safe : c.safe s) (cleanupTimeout : Duration) (comment : Text) :
    wp c.world c.watch (plainCommit cleanupTimeout comment) (fun _ => c.safe) s := by
  refine wp_config (safe_always safe) fun config _ => ?_
  cases config with
  | error error => exact safe
  | ok _ =>
      refine commitCall safe comment (fun s' releasable => ?_) fun _ _ still => still
      exact wp_then (releaseLock_safe releasable cleanupTimeout) fun _ _ safe => safe

theorem confirmedCommit_safe (safe : c.safe s) (now minutes : Nat) (comment : Text) :
    wp c.world c.watch (confirmedCommitOnSession now minutes comment) (fun _ => c.safe) s := by
  refine wp_config (safe_always safe) fun config _ => ?_
  cases config with
  | error error => exact safe
  | ok _ =>
      generalize buildConfirmedCommitXml minutes comment = xml
      have reads : (Rpc.confirmedCommitXml xml).Reads := trivial
      refine wp_call (.confirmedCommitXml xml) nofun ?_ ?_
      · rintro reply carried choice s' carriedOut rfl kept
        have still := c.reads choice safe reads carriedOut
        refine ⟨safe_always still, ?_⟩
        cases reply with
        | ok _ =>
            cases carriedOut rfl
            have allowed := c.confirmed choice safe kept
            exact wp_guardOp (safe_always allowed) allowed
        | error error =>
            dsimp only
            split <;> exact still
      · rintro carried choice s' rfl _
        have still : c.safe (s.after (.confirmedCommitXml xml) false carried choice) :=
          c.reads choice safe reads nofun
        exact ⟨safe_always still, still⟩

theorem commitStaged_safe (safe : c.safe s) (cleanupTimeout : Duration) (now : Nat)
    (confirmTimeout : Option Duration) (comment : Text) :
    wp c.world c.watch (commitStaged cleanupTimeout now confirmTimeout comment)
      (fun _ => c.safe) s := by
  unfold commitStaged
  split
  · exact plainCommit_safe safe cleanupTimeout comment
  · split
    · exact safe
    · exact confirmedCommit_safe safe _ _ comment

theorem revertAndRelease_safe (held : c.held s) (cleanupTimeout : Duration) :
    wp c.world c.watch (revertAndRelease cleanupTimeout) (fun _ => c.safe) s :=
  workCall held (.rollback 0) trivial fun _ _ still =>
    wp_then (releaseLock_safe (c.safe_releasable (c.held_safe still)) cleanupTimeout)
      fun _ _ safe => safe

theorem archiveRollback_safe (idle : c.idle s) (cleanupTimeout : Duration) (version : Nat) :
    wp c.world c.watch (archiveRollback cleanupTimeout version) (fun _ => c.safe) s := by
  refine wp_then (lockSession idle) ?_
  rintro (error | _) s' ⟨safe, held⟩
  · exact safe
  · refine workCall (held rfl) (.rollback version) trivial fun reply s' held => ?_
    cases reply with
    | error error => exact wp_then (revertAndRelease_safe held cleanupTimeout) fun _ _ safe => safe
    | ok _ =>
        refine workCall held (.commitWithComment _) trivial fun reply s' still => ?_
        cases reply with
        | ok _ =>
            exact wp_then (releaseLock_safe (c.safe_releasable (c.held_safe still)) cleanupTimeout)
              fun _ _ safe => safe
        | error error =>
            exact wp_then (revertAndRelease_safe still cleanupTimeout) fun _ _ safe => safe

/-! ## The guard's end -/

variable (c) in
/-- What holds where a session rests. -/
def place : Place → Session → Prop
  | .fresh, s | .closed, s => c.always s
  | .pooled, s => c.idle s
  | .locked, s => c.held s
  | .staged, s => c.safe s

theorem place_always {place : Place} (rests : c.place place s) : c.always s := by
  cases place with
  | fresh => exact rests
  | closed => exact rests
  | pooled => exact safe_always (c.idle_safe rests)
  | locked => exact held_always rests
  | staged => exact safe_always rests

theorem closing {α : Type} (safe : c.safe s) (present : s.present = true)
    {next : Except RustEzError Unit → SessionProg α} {post : α → Session → Prop}
    (rest : ∀ reply s', c.safe s' → wp c.world c.watch (next reply) post s') :
    wp c.world c.watch ((call .close).bind next) post s := by
  have closed {acked carried : Bool} {choice : Choice} :
      c.safe (s.after .close acked carried choice) := c.closed choice (c.safe_releasable safe) present
  refine wp_call .close nofun ?_ ?_
  · rintro reply carried choice s' _ rfl _
    exact ⟨safe_always closed, rest reply _ closed⟩
  · rintro carried choice s' rfl _
    exact ⟨safe_always closed, closed⟩

theorem closingWithin {α : Type} (safe : c.safe s) (present : s.present = true)
    {next : Timed (Except RustEzError Unit) → SessionProg α} {post : α → Session → Prop}
    (rest : ∀ reply s', c.safe s' → wp c.world c.watch (next reply) post s') :
    wp c.world c.watch ((callWithin .close).bind next) post s := by
  have closed {acked carried : Bool} {choice : Choice} :
      c.safe (s.after .close acked carried choice) := c.closed choice (c.safe_releasable safe) present
  refine wp_callWithin .close nofun ?_ ?_
  · rintro reply acked carried choice s' _ rfl _
    exact ⟨safe_always closed, rest reply _ closed⟩
  · rintro carried choice s' rfl _
    exact ⟨safe_always closed, closed⟩

theorem closeSession_safe (safe : c.safe s) (present : s.present = true) :
    wp c.world c.watch closeSession c.place s :=
  closing safe present fun _ _ safe => safe_always safe

theorem dropGuard_safe (safe : c.safe s) : wp c.world c.watch dropGuard c.place s := by
  refine wp_present (safe_always safe) ?_
  cases present : s.present with
  | false => exact safe_always safe
  | true =>
      refine wp_isReusable (safe_always safe) ?_
      cases pools : shouldPool s.reuseAllowed (s.present && s.configDbOpen)
        (s.present && s.touched) with
      | false => exact closing safe present fun _ _ safe => safe_always safe
      | true =>
          simp only [shouldPool, present, Bool.true_and, Bool.and_eq_true,
            Bool.not_eq_eq_eq_not, Bool.not_true] at pools
          obtain ⟨⟨reuse, quiet⟩, unmarked⟩ := pools
          refine wp_guardOp (safe_always safe) ?_
          cases alive : s.read .sessionAlive with
          | true => exact c.pooled safe present reuse quiet unmarked alive
          | false => exact closing safe present fun _ _ safe => safe_always safe

theorem keepIn_safe {place : Place} {cut : Session → Prop} (rests : c.place place s) :
    wp c.world ⟨c.always, cut⟩ (keepIn place) c.place s := by
  refine wp_present (place_always rests) ?_
  cases s.present with
  | true => exact rests
  | false => exact place_always rests

theorem keepStaged_safe {cut : Session → Prop} (safe : c.safe s) :
    wp c.world ⟨c.always, cut⟩ (keepIn .staged) c.place s := by
  have rests : c.place .staged s := safe
  exact keepIn_safe rests

theorem releaseStaged_safe (safe : c.safe s) :
    wp c.world c.watch (releaseStaged.bind fun released => .pure released.2) c.place s := by
  refine wp_bind.mpr (wp_isReusable (safe_always safe) ?_)
  cases shouldPool s.reuseAllowed (s.present && s.configDbOpen) (s.present && s.touched) with
  | true => exact wp_then (dropGuard_safe safe) fun _ _ holds => holds
  | false =>
      refine wp_present (safe_always safe) ?_
      cases present : s.present with
      | false => exact safe_always safe
      | true =>
          refine closingWithin safe present fun reply s' safe => ?_
          rcases reply with (_ | _) | _ <;> exact safe_always safe

/-! ## The calls -/

theorem thenDo_safe {α : Type} {program : SessionProg α} {rest : SessionProg Place}
    {inv : Session → Prop} (first : wp c.world c.watch program (fun _ => inv) s)
    (later : ∀ s', inv s' → wp c.world c.watch rest c.place s') :
    wp c.world c.watch (thenDo program rest) c.place s :=
  wp_then first fun _ => later

theorem endIn_safe {α : Type} {program : SessionProg (Except JmcpError α)}
    (first : wp c.world c.watch program (fun _ => c.safe) s) :
    wp c.world c.watch (endIn program (keepIn .staged)) c.place s := by
  refine wp_then first fun result s' safe => ?_
  cases result with
  | ok _ => exact keepIn_safe safe
  | error error => exact dropGuard_safe safe

variable {cleanupTimeout : Duration} {program onCut : SessionProg Place}

variable (c) in
/-- The direct path keeps the contract. -/
def Direct : Prop :=
  ∀ request operationTimeout cleanupTimeout s, request.mode ≠ .discard → c.idle s →
    wp c.world c.watch (runCandidate request operationTimeout cleanupTimeout) c.place s

theorem lockingCall_safe (direct : c.Direct) (call : LockingCall cleanupTimeout program)
    (idle : c.idle s) : wp c.world c.watch program c.place s := by
  cases call with
  | lock =>
      refine wp_then (lockSession idle) ?_
      rintro (error | _) s' ⟨safe, held⟩
      · exact dropGuard_safe safe
      · exact keepIn_safe (held rfl)
  | stage resolved => exact endIn_safe (stageOpened_safe idle cleanupTimeout _)
  | archiveRollback version =>
      exact thenDo_safe (archiveRollback_safe idle cleanupTimeout version) fun _ => dropGuard_safe
  | direct operationTimeout locks => exact direct _ operationTimeout cleanupTimeout s locks idle
  | fingerprint => exact thenDo_safe (readCandidate_safe (c.idle_safe idle)) fun _ => dropGuard_safe

variable (c) in
/-- What is left when a call on a handle's session is dropped midway can be dealt with. -/
def Handed (onCut : SessionProg Place) (cut : Session → Prop) : Prop :=
  ∀ t, cut t → wp c.world ⟨c.always, cut⟩ onCut c.place t

theorem lockedCall_safe (call : LockedCall cleanupTimeout program onCut) (held : c.held s) :
    ∃ cut, wp c.world ⟨c.always, cut⟩ program c.place s ∧ c.Handed onCut cut := by
  cases call with
  | unlock =>
      have releasable := c.safe_releasable (c.held_safe held)
      exact ⟨c.safe, thenDo_safe (releaseLock_safe releasable cleanupTimeout)
        fun _ => dropGuard_safe, fun _ => dropGuard_safe⟩
  | fingerprint =>
      exact ⟨c.held, wp_then (readCandidate_held held) fun _ _ still => keepIn_safe still,
        fun _ still => keepIn_safe still⟩
  | stage resolved =>
      exact ⟨c.safe, endIn_safe (stageLocked_safe held cleanupTimeout _), fun _ => dropGuard_safe⟩
  | drop => exact ⟨c.safe, dropGuard_safe (c.held_safe held), fun _ => dropGuard_safe⟩

theorem stagedCall_safe (call : StagedCall cleanupTimeout program onCut) (safe : c.safe s) :
    wp c.world c.watch program c.place s ∧ c.Handed onCut c.safe := by
  cases call with
  | validate =>
      exact ⟨thenDo_safe (validateStaged_safe safe) fun _ => keepStaged_safe,
        fun _ => keepStaged_safe⟩
  | commit now confirmTimeout comment =>
      exact ⟨thenDo_safe (commitStaged_safe safe cleanupTimeout now confirmTimeout comment)
        fun _ => keepStaged_safe, fun _ => keepStaged_safe⟩
  | release => exact ⟨releaseStaged_safe safe, fun _ => dropGuard_safe⟩
  | drop => exact ⟨dropGuard_safe safe, fun _ => dropGuard_safe⟩

theorem opened {place : Place} {s' : Session} (opens : Opens place s s')
    (rests : c.place place s) : c.idle s' := by
  cases opens with
  | connect => exact c.connected
  | checkout alive => exact c.checkedOut rests

/-- A contract holds of every session of a server whose further calls keep it. -/
theorem discipline (c : Contract promise) {calls : SessionProg Place → Prop}
    (keeps : ∀ program s, calls program → c.idle s → wp c.world c.watch program c.place s) :
    ((sessions calls cleanupTimeout).restrict promise).Discipline c.place c.always where
  rest := place_always
  starts := by
    intro place program onCut s s' rests starts
    cases starts with
    | opened call opens =>
        have idle := opened opens rests
        exact ⟨safe_always (c.idle_safe idle), c.safe, keeps _ _ call idle, fun _ => dropGuard_safe⟩
    | evict =>
        have idle : c.idle s := rests
        have safe := c.idle_safe idle
        exact ⟨safe_always safe, c.safe, closeSession_safe safe (c.idle_present idle),
          fun _ cut => safe_always cut⟩
    | locked call => exact ⟨held_always rests, lockedCall_safe call rests⟩
    | staged call => exact ⟨safe_always rests, c.safe, stagedCall_safe call rests⟩

end Contract

end JunosMcp
