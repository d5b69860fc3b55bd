import JunosMcp.ChangeSet.Confirm

/-!
# What the status of a change set says about its commit

`derive_commit_confirmation`. The verdict is read off the operation record; here it is held against the
history the record has behind it.
-/

namespace JunosMcp.ChangeSet
open Lib

/-! ## The verdict -/

inductive CommitConfirmation where
  | awaitingConfirmation
  | presumedAutoReverted
  | committed
  | discarded
  | indeterminate
  deriving DecidableEq

def CommitConfirmation.asStr : CommitConfirmation → Text
  | .awaitingConfirmation => "awaiting_confirmation".toList
  | .presumedAutoReverted => "presumed_auto_reverted".toList
  | .committed => "committed".toList
  | .discarded => "discarded".toList
  | .indeterminate => "indeterminate".toList

/-- What `derive_commit_confirmation` reads of the change set. -/
structure LinkedChangeSet where
  owner : Text
  operationId : Option Text

/-- The fields that are merged into the status. -/
structure ConfirmationFields where
  operationId : Text
  operationState : LifecycleState
  rollbackDeadlineUnix : Option Nat
  commitConfirmation : Option CommitConfirmation
  deriving DecidableEq

/-- `coordinator.record`, by operation, owner and device. -/
def Store.record (store : Store) (operationId owner device : Text) : Option OperationRecord :=
  (store.operations operationId).filter fun record => record.owner = owner ∧ record.device = device

def confirmationFields (operation : OperationRecord) (now : Nat) : ConfirmationFields :=
  match operation.rollbackDeadlineUnix with
  | some deadline =>
      if operation.state = .discarded then
        ⟨operation.id, operation.state, none, some .discarded⟩
      else if operation.state = .committed ∧ deadline ≤ now then
        ⟨operation.id, operation.state, none, some .indeterminate⟩
      else
        ⟨operation.id, operation.state, some deadline,
          some (if now < deadline then .awaitingConfirmation else .presumedAutoReverted)⟩
  | none =>
      ⟨operation.id, operation.state, none,
        if operation.state = .committed then some .committed else none⟩

/-- No fields without a change set, a linked operation and its record. -/
def deriveCommitConfirmation (store : Store) (changeSet : Except Text LinkedChangeSet) (device : Text)
    (now : Nat) : Option ConfirmationFields := do
  let changeSet ← changeSet.toOption
  let operationId ← changeSet.operationId
  let operation ← store.record operationId changeSet.owner device
  return confirmationFields operation now

/-! ## What the history shows -/

/-- The operation is settled as committed. -/
def PackageCall.lands (operationId : Text) : PackageCall → Prop
  | .commit committed (some (.reconciled true _)) => committed = operationId
  | .resolve resolved .committed => resolved = operationId
  | _ => False

/-- The operation is settled as discarded. -/
def PackageCall.drops (operationId : Text) : PackageCall → Prop
  | .commit committed (some (.reconciled false _)) => committed = operationId
  | .resolve resolved .discarded => resolved = operationId
  | _ => False

def Happening.lands (operationId : Text) : Happening → Prop
  | .package call => call.lands operationId
  | .abandon _ => False
  | .confirm confirmed trace => confirmed = operationId ∧ trace.any showsRecorded = true

def Happening.drops (operationId : Text) : Happening → Prop
  | .package call => call.drops operationId
  | .abandon about => about.operationId = operationId
  | .confirm .. => False

def Landed (operationId : Text) (history : List Happening) : Prop :=
  ∃ happening ∈ history, happening.lands operationId

def Dropped (operationId : Text) (history : List Happening) : Prop :=
  ∃ happening ∈ history, happening.drops operationId

/-- What the comments rely on: a deadline is stored with the window it is of and not taken away, and a
state is settled by a commit's outcome or by `state resolve`. -/
structure Package.Accounted (package : Package) : Prop extends Package.Documented package where
  opens : ∀ {store store' : Store} {call : PackageCall} {operationId : Text} {deadline : Nat},
    package store call store' → call.opens = some (operationId, deadline) →
    ∃ record, store'.operations operationId = some record ∧
      record.rollbackDeadlineUnix = some deadline
  keeps : ∀ {store store' : Store} {call : PackageCall} {operationId : Text}
    {record : OperationRecord} {deadline : Nat}, package store call store' →
    store.operations operationId = some record → record.rollbackDeadlineUnix = some deadline →
    ∃ record', store'.operations operationId = some record' ∧
      record'.rollbackDeadlineUnix = some deadline
  lands : ∀ {store store' : Store} {call : PackageCall} {operationId : Text}
    {record' : OperationRecord}, package store call store' →
    store'.operations operationId = some record' → record'.state = .committed →
    call.lands operationId ∨
      ∃ record, store.operations operationId = some record ∧ record.state = .committed
  drops : ∀ {store store' : Store} {call : PackageCall} {operationId : Text}
    {record' : OperationRecord}, package store call store' →
    store'.operations operationId = some record' → record'.state = .discarded →
    call.drops operationId ∨
      ∃ record, store.operations operationId = some record ∧ record.state = .discarded

/-! ## One step -/

/-- A record is left as it is, or settled with the deadline it had. -/
def Leaves (store store' : Store) (operationId : Text) (settles : Text → Prop) : Prop :=
  store'.operations operationId = store.operations operationId ∨
    settles operationId ∧ ∃ before after, store.operations operationId = some before ∧
      store'.operations operationId = some after ∧
      after.rollbackDeadlineUnix = before.rollbackDeadlineUnix ∧
      (after.state = .discarded ∨ after.state = .indeterminate)

theorem settledRecord_state (reason : Text) (outcome : AbandonOutcome) (record : OperationRecord) :
    (settledRecord reason outcome record).state = .discarded ∨
      (settledRecord reason outcome record).state = .indeterminate := by
  cases outcome with
  | candidateNotCommitted => exact .inl rfl
  | commitOutcomeUnknown => exact .inr rfl

theorem putOperation_other {store : Store} {written : OperationRecord} {operationId : Text}
    (differs : operationId ≠ written.id) :
    (store.putOperation written).operations operationId = store.operations operationId :=
  Function.update_of_ne differs _ _

theorem settleOperation_leaves {about : Abandon} {trace : ApplyTrace} {store store' : Store}
    (run : Runs storeWorld store (settleOperation about) trace () store') (operationId : Text) :
    Leaves store store' operationId (about.operationId = ·) := by
  obtain ⟨reply, rest, middle, rfl, here, run₁⟩ := runs_request.mp run
  cases reply with
  | error error =>
      obtain ⟨_, _, rfl⟩ := runs_pure.mp run₁
      exact .inl (congrArg (fun store => Store.operations store operationId) here)
  | ok record =>
      obtain ⟨rfl, stored, _⟩ := here
      obtain ⟨first, second, ⟨proven, shown⟩, middle', rfl, proves, writes⟩ := runs_bind.mp run₁
      have proof : middle' = middle ∧ (proven = true → shown.id = record.id ∧
          shown.rollbackDeadlineUnix = record.rollbackDeadlineUnix) := by
        cases known : about.outcome.against record.state with
        | commitOutcomeUnknown =>
            rw [proveSettled, known] at proves
            obtain ⟨_, same, rfl⟩ := runs_pure.mp proves
            cases same
            exact ⟨rfl, fun _ => ⟨rfl, rfl⟩⟩
        | candidateNotCommitted =>
            rw [proveSettled, known] at proves
            obtain ⟨rfl, _, _, refreshed⟩ := proveReverted_spec proves
            refine ⟨rfl, fun verdict => ?_⟩
            have same : shown = _ := refreshed verdict
            rw [same]
            exact ⟨rfl, rfl⟩
      obtain ⟨rfl, faithful⟩ := proof
      cases proven with
      | false =>
          obtain ⟨_, _, rfl⟩ := runs_pure.mp writes
          exact .inl rfl
      | true =>
          obtain ⟨written, rest, middle, rfl, here, run₂⟩ := runs_request.mp writes
          obtain ⟨_, _, rfl⟩ := runs_pure.mp run₂
          obtain ⟨named, window⟩ := faithful rfl
          cases written with
          | error error =>
              exact .inl (congrArg (fun store => Store.operations store operationId) here)
          | ok _ =>
              obtain rfl : store' = middle'.putOperation _ := here
              generalize outcome : about.outcome.against record.state = verdict
              have at_id : (settledRecord about.reason verdict shown).id = about.operationId := by
                rw [settledRecord_id, named]
                exact middle'.operationNamed stored
              have kept := (settledRecord_deadline about.reason verdict shown).trans window
              by_cases same : operationId = about.operationId
              · subst same
                refine .inr ⟨rfl, record, settledRecord about.reason verdict shown, stored, ?_, kept,
                  settledRecord_state about.reason verdict shown⟩
                rw [← at_id]
                exact putOperation_same _ _
              · exact .inl (putOperation_other (at_id ▸ same))

theorem abandonFailedApply_leaves {about : Abandon} {trace : ApplyTrace} {store store' : Store}
    (run : Runs storeWorld store (abandonFailedApply about) trace () store') (operationId : Text) :
    Leaves store store' operationId (about.operationId = ·) := by
  obtain ⟨released, rest, middle, rfl, here, run₁⟩ := runs_request.mp run
  obtain rfl : middle = store := here
  obtain ⟨first, second, _, middle', rfl, settles, fails⟩ := runs_bind.mp run₁
  have settled : Leaves middle middle' operationId (about.operationId = ·) := by
    cases released with
    | false =>
        obtain ⟨_, _, rfl⟩ := runs_pure.mp settles
        exact .inl rfl
    | true => exact settleOperation_leaves settles operationId
  unfold Leaves at settled ⊢
  rw [(settleChangeSet_spec fails).1]
  exact settled

theorem confirmChangeSet_writes {inventory : Text → Except JmcpError TargetDevice}
    {args : ConfirmChangeSetArgs} {attribution : Attribution} {trace : ConfirmTrace}
    {result : Except JmcpError ConfirmReport} {store store' : Store}
    (run : Runs confirmWorld store (confirmChangeSet inventory args attribution) trace result store')
    (operationId : Text) :
    store'.operations operationId = store.operations operationId ∨
      args.operationId = operationId ∧ trace.any showsRecorded = true := by
  cases confirmChangeSet_spec run with
  | refused => exact .inl rfl
  | sent => exact .inl rfl
  | recorded record deadline now details stored _ _ _ _ written =>
      have named : record.id = args.operationId := store.operationNamed stored
      by_cases same : args.operationId = operationId
      · exact .inr ⟨same, written⟩
      · refine .inl (putOperation_other fun here => same ?_)
        rw [← named]
        exact here.symm

/-! ## Every run -/

section Histories
variable {package : Package} {history : List Happening} {store store' : Store} {happening : Happening}
  {operationId : Text}

def Windowed (store : Store) (operationId : Text) (deadline : Nat) : Prop :=
  ∃ record, store.operations operationId = some record ∧ record.rollbackDeadlineUnix = some deadline

def InState (store : Store) (operationId : Text) (state : LifecycleState) : Prop :=
  ∃ record, store.operations operationId = some record ∧ record.state = state

theorem Happens.windowed (accounted : package.Accounted) (happens : Happens package store happening store')
    {deadline : Nat} (unconfirmed : happening.confirms operationId = false)
    (windowed : Windowed store operationId deadline) : Windowed store' operationId deadline := by
  obtain ⟨record, stored, window⟩ := windowed
  cases happens with
  | package writes => exact accounted.keeps writes stored window
  | abandon run =>
      rcases abandonFailedApply_leaves run operationId with same | ⟨_, before, after, known, left, kept, _⟩
      · exact ⟨record, same.trans stored, window⟩
      · obtain rfl : before = record := Option.some_inj.mp (known.symm.trans stored)
        exact ⟨after, left, kept.trans window⟩
  | confirm run =>
      rcases confirmChangeSet_writes run operationId with same | ⟨same, written⟩
      · exact ⟨record, same.trans stored, window⟩
      · rw [Happening.confirms, same, written, beq_self_eq_true] at unconfirmed
        cases unconfirmed

/-- A window that is open in the history has its deadline on the record. -/
theorem Reached.windowed (accounted : package.Accounted) (reached : Reached package history store)
    {deadline : Nat} (opened : OpenWindow operationId deadline history) :
    Windowed store operationId deadline := by
  induction reached with
  | fresh => cases opened
  | step _ happens ih =>
      cases opened with
      | opened opens =>
          cases happens with
          | package writes => exact accounted.opens writes opens
          | abandon => cases opens
          | confirm => cases opens
      | since unconfirmed before => exact happens.windowed accounted unconfirmed (ih before)

theorem Reached.opened (accounted : package.Accounted) (reached : Reached package history store)
    {deadline : Nat} : OpenWindow operationId deadline history ↔ Windowed store operationId deadline := by
  refine ⟨reached.windowed accounted, fun windowed => ?_⟩
  obtain ⟨record, stored, window⟩ := windowed
  exact reached.deadlinesOpen accounted.toDocumented operationId record deadline stored window

theorem Landed.later (landed : Landed operationId history) : Landed operationId (happening :: history) := by
  obtain ⟨earlier, member, lands⟩ := landed
  exact ⟨earlier, List.mem_cons_of_mem _ member, lands⟩

theorem Dropped.later (dropped : Dropped operationId history) :
    Dropped operationId (happening :: history) := by
  obtain ⟨earlier, member, drops⟩ := dropped
  exact ⟨earlier, List.mem_cons_of_mem _ member, drops⟩

theorem Happens.lands (accounted : package.Accounted) (happens : Happens package store happening store')
    (committed : InState store' operationId .committed) :
    happening.lands operationId ∨ InState store operationId .committed := by
  obtain ⟨record', stored, state⟩ := committed
  cases happens with
  | package writes => exact accounted.lands writes stored state
  | abandon run =>
      rcases abandonFailedApply_leaves run operationId with same | ⟨_, _, after, _, left, _, settled⟩
      · exact .inr ⟨record', same.symm.trans stored, state⟩
      · obtain rfl : after = record' := Option.some_inj.mp (left.symm.trans stored)
        rw [state] at settled
        rcases settled with settled | settled <;> cases settled
  | confirm run =>
      rcases confirmChangeSet_writes run operationId with same | recorded
      · exact .inr ⟨record', same.symm.trans stored, state⟩
      · exact .inl recorded

theorem Reached.landed (accounted : package.Accounted) (reached : Reached package history store)
    (committed : InState store operationId .committed) : Landed operationId history := by
  induction reached with
  | fresh =>
      obtain ⟨_, stored, _⟩ := committed
      cases stored
  | step _ happens ih =>
      rcases happens.lands accounted committed with lands | before
      · exact ⟨_, List.mem_cons_self, lands⟩
      · exact (ih before).later

/-- A confirmation is written as committed. -/
theorem confirmed_not_discarded {inventory : Text → Except JmcpError TargetDevice}
    {args : ConfirmChangeSetArgs} {attribution : Attribution} {trace : ConfirmTrace}
    {result : Except JmcpError ConfirmReport}
    (run : Runs confirmWorld store (confirmChangeSet inventory args attribution) trace result store')
    (discarded : InState store' operationId .discarded) : InState store operationId .discarded := by
  obtain ⟨record', stored, state⟩ := discarded
  cases confirmChangeSet_spec run with
  | refused => exact ⟨record', stored, state⟩
  | sent => exact ⟨record', stored, state⟩
  | recorded record =>
      rcases putOperation_cases stored with ⟨_, rfl⟩ | ⟨_, other⟩
      · cases state
      · exact ⟨record', other, state⟩

theorem Happens.drops (accounted : package.Accounted) (happens : Happens package store happening store')
    (discarded : InState store' operationId .discarded) :
    happening.drops operationId ∨ InState store operationId .discarded := by
  cases happens with
  | package writes =>
      obtain ⟨record', stored, state⟩ := discarded
      exact accounted.drops writes stored state
  | abandon run =>
      obtain ⟨record', stored, state⟩ := discarded
      rcases abandonFailedApply_leaves run operationId with same | ⟨settles, _⟩
      · exact .inr ⟨record', same.symm.trans stored, state⟩
      · exact .inl settles
  | confirm run => exact .inr (confirmed_not_discarded run discarded)

theorem Reached.dropped (accounted : package.Accounted) (reached : Reached package history store)
    (discarded : InState store operationId .discarded) : Dropped operationId history := by
  induction reached with
  | fresh =>
      obtain ⟨_, stored, _⟩ := discarded
      cases stored
  | step _ happens ih =>
      rcases happens.drops accounted discarded with drops | before
      · exact ⟨_, List.mem_cons_self, drops⟩
      · exact (ih before).later

end Histories

/-! ## The verdict against the history -/

/-- What each verdict means for what has happened to the operation. -/
inductive Shows (history : List Happening) (now : Nat) (operationId : Text) :
    Option Nat → Option CommitConfirmation → Prop where
  | awaiting {deadline : Nat} : OpenWindow operationId deadline history → now < deadline →
      Shows history now operationId (some deadline) (some .awaitingConfirmation)
  | presumed {deadline : Nat} : OpenWindow operationId deadline history → deadline ≤ now →
      Shows history now operationId (some deadline) (some .presumedAutoReverted)
  | discarded {deadline : Nat} : OpenWindow operationId deadline history →
      Dropped operationId history → Shows history now operationId none (some .discarded)
  | indeterminate {deadline : Nat} : OpenWindow operationId deadline history → deadline ≤ now →
      Landed operationId history → Shows history now operationId none (some .indeterminate)
  | committed : (∀ deadline, ¬OpenWindow operationId deadline history) → Landed operationId history →
      Shows history now operationId none (some .committed)
  | silent : (∀ deadline, ¬OpenWindow operationId deadline history) →
      Shows history now operationId none none

theorem confirmationFields_shows {package : Package} (accounted : package.Accounted)
    {history : List Happening} {store : Store} (reached : Reached package history store)
    {operation : OperationRecord} {operationId : Text}
    (stored : store.operations operationId = some operation) (now : Nat) :
    Shows history now operationId (confirmationFields operation now).rollbackDeadlineUnix
      (confirmationFields operation now).commitConfirmation := by
  unfold confirmationFields
  cases window : operation.rollbackDeadlineUnix with
  | none =>
      have closed : ∀ deadline, ¬OpenWindow operationId deadline history := by
        intro deadline opened
        obtain ⟨record, found, here⟩ := (reached.opened accounted).mp opened
        obtain rfl : record = operation := Option.some_inj.mp (found.symm.trans stored)
        rw [window] at here
        cases here
      dsimp only
      split
      · next state => exact .committed closed (reached.landed accounted ⟨operation, stored, state⟩)
      · exact .silent closed
  | some deadline =>
      have opened := (reached.opened accounted).mpr ⟨operation, stored, window⟩
      dsimp only
      split
      · next state => exact .discarded opened (reached.dropped accounted ⟨operation, stored, state⟩)
      · split
        · next settled =>
            exact .indeterminate opened settled.2
              (reached.landed accounted ⟨operation, stored, settled.1⟩)
        · split
          · next early => exact .awaiting opened early
          · next late => exact .presumed opened (Nat.le_of_not_lt late)

/-- The verdict of every status says what the history shows, and a rollback that may still come is never
hidden, unless the operation was settled as discarded. -/
theorem status_follows_history {package : Package} (accounted : package.Accounted)
    {history : List Happening} {store : Store} (reached : Reached package history store)
    {changeSet : Except Text LinkedChangeSet} {device : Text} {now : Nat} {fields : ConfirmationFields}
    (shown : deriveCommitConfirmation store changeSet device now = some fields) :
    Shows history now fields.operationId fields.rollbackDeadlineUnix fields.commitConfirmation ∧
      ∀ deadline, OpenWindow fields.operationId deadline history → now < deadline →
        fields.rollbackDeadlineUnix = some deadline ∧
            fields.commitConfirmation = some .awaitingConfirmation ∨
          fields.commitConfirmation = some .discarded ∧ Dropped fields.operationId history := by
  obtain ⟨linked, _, shown⟩ := Option.bind_eq_some_iff.mp shown
  obtain ⟨operationId, _, shown⟩ := Option.bind_eq_some_iff.mp shown
  obtain ⟨operation, found, shown⟩ := Option.bind_eq_some_iff.mp shown
  have stored := (Option.filter_eq_some_iff.mp found).1
  have named := store.operationNamed stored
  have here : (confirmationFields operation now).operationId = operationId := by
    rw [← named]
    unfold confirmationFields
    repeat' split
    all_goals rfl
  obtain rfl : confirmationFields operation now = fields := Option.some_inj.mp shown
  rw [here]
  have shows := confirmationFields_shows accounted reached stored now
  refine ⟨shows, fun deadline opened early => ?_⟩
  have same {other : Nat} (also : OpenWindow operationId other history) : other = deadline := by
    obtain ⟨record, known, window⟩ := (reached.opened accounted).mp opened
    obtain ⟨record', known', window'⟩ := (reached.opened accounted).mp also
    obtain rfl : record = record' := Option.some_inj.mp (known.symm.trans known')
    exact Option.some_inj.mp (window'.symm.trans window)
  generalize (confirmationFields operation now).rollbackDeadlineUnix = shownDeadline at shows ⊢
  generalize (confirmationFields operation now).commitConfirmation = verdict at shows ⊢
  cases shows with
  | awaiting also _ => exact .inl ⟨congrArg some (same also), rfl⟩
  | presumed also late => exact absurd (same also ▸ late) (Nat.not_le_of_lt early)
  | discarded _ dropped => exact .inr ⟨rfl, dropped⟩
  | indeterminate also late _ => exact absurd (same also ▸ late) (Nat.not_le_of_lt early)
  | committed closed _ => exact (closed deadline opened).elim
  | silent closed => exact (closed deadline opened).elim

/-! ### A window that is still open behind a settled record -/

/-- Each operation is staged once and committed once. -/
inductive Once : Store → PackageCall → Store → Prop where
  | staged {store : Store} (request : StageRequest) {record : OperationRecord} :
      store.operations record.id = none → record.state = .validated →
      record.rollbackDeadlineUnix = none → Once store (.stage request) (store.putOperation record)
  | awaited {store : Store} {record : OperationRecord} (deadline : Nat) (details : Option Text) :
      store.operations record.id = some record → record.rollbackDeadlineUnix = none →
      Once store (.commit record.id (some (.awaitingConfirmation deadline details)))
        (store.putOperation (awaitingRecord deadline record))
  | resolved {store : Store} {record : OperationRecord} (disposition : Disposition) :
      store.operations record.id = some record → record.state.terminal = false →
      Once store (.resolve record.id disposition)
        (store.putOperation (resolvedRecord disposition record))

theorem Once.plain {store store' : Store} {call : PackageCall} (writes : Once store call store') :
    Plain store call store' := by
  cases writes with
  | staged request _ _ fresh => exact .staged store request _ fresh
  | awaited deadline details stored => exact .awaited deadline details stored
  | resolved disposition stored live => exact .resolved disposition stored live

theorem once_accounted : Package.Accounted Once where
  deadlines writes := plain_documented.deadlines writes.plain
  opens writes opens := by
    cases writes with
    | staged => cases opens
    | awaited =>
        cases opens
        exact ⟨_, putOperation_same _ (awaitingRecord _ _), rfl⟩
    | resolved => cases opens
  keeps {store store' call operationId record deadline} writes stored window := by
    cases writes with
    | staged request fresh =>
        refine ⟨record, (putOperation_other fun same => ?_).trans stored, window⟩
        rw [same, fresh] at stored
        cases stored
    | awaited deadline' details known closed =>
        refine ⟨record, (putOperation_other fun same => ?_).trans stored, window⟩
        obtain rfl := Option.some_inj.mp (known.symm.trans ((congrArg _ same).symm.trans stored))
        rw [closed] at window
        cases window
    | @resolved settled disposition known =>
        by_cases same : operationId = settled.id
        · subst same
          obtain rfl := Option.some_inj.mp (known.symm.trans stored)
          exact ⟨_, putOperation_same _ (resolvedRecord disposition settled), window⟩
        · have kept : (store.putOperation (resolvedRecord disposition settled)).operations operationId =
              store.operations operationId := putOperation_other same
          exact ⟨record, kept.trans stored, window⟩
  lands {store store' call operationId record'} writes stored state := by
    cases writes with
    | staged request _ fresh =>
        rcases putOperation_cases stored with ⟨_, rfl⟩ | ⟨_, other⟩
        · rw [fresh] at state
          cases state
        · exact .inr ⟨record', other, state⟩
    | awaited =>
        rcases putOperation_cases stored with ⟨_, rfl⟩ | ⟨_, other⟩
        · cases state
        · exact .inr ⟨record', other, state⟩
    | resolved disposition =>
        rcases putOperation_cases stored with ⟨same, rfl⟩ | ⟨_, other⟩
        · cases disposition with
          | committed => exact .inl same.symm
          | discarded => cases state
        · exact .inr ⟨record', other, state⟩
  drops {store store' call operationId record'} writes stored state := by
    cases writes with
    | staged request _ fresh =>
        rcases putOperation_cases stored with ⟨_, rfl⟩ | ⟨_, other⟩
        · rw [fresh] at state
          cases state
        · exact .inr ⟨record', other, state⟩
    | awaited =>
        rcases putOperation_cases stored with ⟨_, rfl⟩ | ⟨_, other⟩
        · cases state
        · exact .inr ⟨record', other, state⟩
    | resolved disposition =>
        rcases putOperation_cases stored with ⟨same, rfl⟩ | ⟨_, other⟩
        · cases disposition with
          | committed => cases state
          | discarded => exact .inl same.symm
        · exact .inr ⟨record', other, state⟩

def resolvedHistory : List Happening :=
  .package (.resolve "01".toList .committed) :: provisionalHistory

def resolvedStore : Store :=
  awaitingStore.putOperation (resolvedRecord .committed awaitingOperation)

theorem resolved_reached : Reached Once resolvedHistory resolvedStore := by
  have staged : Reached Once [stagesOperation]
      (Store.empty.putOperation (stagedOperation .validated)) :=
    .step .fresh (.package (.staged _ rfl rfl rfl))
  have awaited : Reached Once provisionalHistory awaitingStore :=
    .step staged (.package (.awaited 1000 none (putOperation_same _ _) rfl))
  exact .step awaited (.package (.resolved .committed (putOperation_same _ awaitingOperation) rfl))

def appliedLink : LinkedChangeSet := ⟨"owner".toList, some "01".toList⟩

/-- The record reads `Committed` by `state resolve`, and the timer of the device is still running. -/
theorem status_follows_resolved :
    Shows resolvedHistory 900 "01".toList (some 1000) (some .awaitingConfirmation) := by
  have stored := putOperation_same awaitingStore (resolvedRecord .committed awaitingOperation)
  have shown : deriveCommitConfirmation resolvedStore (.ok appliedLink) "vsrx-ci".toList 900 =
      some ⟨"01".toList, .committed, some 1000, some .awaitingConfirmation⟩ := by
    have found : resolvedStore.record "01".toList "owner".toList "vsrx-ci".toList =
        some (resolvedRecord .committed awaitingOperation) := by
      rw [Store.record, Option.filter_eq_some_iff]
      exact ⟨stored, by decide⟩
    exact congrArg (Option.map fun operation => confirmationFields operation 900) found
  exact (status_follows_history once_accounted resolved_reached shown).1

end JunosMcp.ChangeSet
