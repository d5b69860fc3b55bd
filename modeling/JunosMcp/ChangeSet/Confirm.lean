import JunosMcp.ChangeSet.Truthful

/-!
# Confirming a change set

`confirm_change_set`: the confirming commit is sent on the evidence of a rollback deadline that the
stored operation keeps. The deadline outlives the state next to it, so what it stands for is read
off the history of the records.
-/

namespace JunosMcp.ChangeSet
open Lib

/-! ## The tool -/

structure ConfirmChangeSetArgs where
  device : Text
  operationId : Text
  deriving DecidableEq

/-- Calls on the coordinator, on the server's clock and on the transaction. -/
inductive ConfirmCall where
  | record (operationId principal device : Text)
  | now
  | confirmCommit (operationId : Text) (attribution : Attribution)
  | update (record : OperationRecord)

def ConfirmCall.Reply : ConfirmCall → Type
  | .record .. => Except Text OperationRecord
  | .now => Nat
  | .confirmCommit .. => Except JmcpError CommitOutcome
  | .update _ => Except Text Unit

abbrev ConfirmOp := Await ConfirmCall

abbrev ConfirmRes := Await.Res ConfirmCall.Reply

abbrev ConfirmEvent := Σ op, ConfirmRes op

abbrev ConfirmTrace := Trace ConfirmOp ConfirmRes

abbrev ConfirmProg (α : Type) := Prog ConfirmOp ConfirmRes α

def ask (call : ConfirmCall) : ConfirmProg call.Reply := .step (.bare call) .pure

structure ConfirmReport where
  operationId : Text
  device : Text
  state : Text
  commitOutcome : Option CommitOutcome
  rollbackDeadlineUnix : Option Nat
  details : Option Text
  message : Text
  deriving DecidableEq

def noPendingConfirmation (operationId : Text) : JmcpError :=
  .validation ("operation ".toList ++ operationId ++
    " has no pending confirmation; it was not committed with a confirm window".toList)

def windowClosed (operationId : Text) (deadline : Nat) : JmcpError :=
  .validation ("the confirmation window for operation ".toList ++ operationId ++
    " closed at ".toList ++ (Nat.repr deadline).toList ++
    "; the device has already rolled the change back".toList)

def confirmedRecord (details : Text) (record : OperationRecord) : OperationRecord :=
  { record with
    state := .committed
    rollbackDeadlineUnix := none
    details := some details }

def confirmedReport (args : ConfirmChangeSetArgs) (details : Text) : ConfirmReport where
  operationId := args.operationId
  device := args.device
  state := "Committed".toList
  commitOutcome := none
  rollbackDeadlineUnix := none
  details := some details
  message := "confirming commit accepted; the automatic rollback is cancelled".toList

def unconfirmedReport (args : ConfirmChangeSetArgs) (deadline : Nat) (outcome : CommitOutcome) :
    ConfirmReport where
  operationId := args.operationId
  device := args.device
  state := "Committing".toList
  commitOutcome := some outcome
  rollbackDeadlineUnix := some deadline
  details := none
  message := ("the confirming commit did not report success; the rollback timer is still " ++
    "running").toList

def finishConfirm (args : ConfirmChangeSetArgs) (record : OperationRecord) (deadline : Nat) :
    CommitOutcome → ConfirmProg (Except JmcpError ConfirmReport)
  | .reconciled true details => do
      match ← ask (.update (confirmedRecord details record)) with
      | .error error => return .error (.validation error)
      | .ok _ => return .ok (confirmedReport args details)
  | outcome => .pure (.ok (unconfirmedReport args deadline outcome))

/-- Only the deadline is looked at, not the state it was stored with. -/
def confirmRecord (args : ConfirmChangeSetArgs) (attribution : Attribution)
    (record : OperationRecord) : ConfirmProg (Except JmcpError ConfirmReport) :=
  match record.rollbackDeadlineUnix with
  | none => .pure (.error (noPendingConfirmation args.operationId))
  | some deadline => do
      let now : Nat ← ask .now
      if deadline ≤ now then return .error (windowClosed args.operationId deadline)
      else
        match ← ask (.confirmCommit args.operationId attribution) with
        | .error error => return .error error
        | .ok outcome => finishConfirm args record deadline outcome

def confirmChangeSet (inventory : Text → Except JmcpError TargetDevice)
    (args : ConfirmChangeSetArgs) (attribution : Attribution) :
    ConfirmProg (Except JmcpError ConfirmReport) :=
  match inventory args.device with
  | .error error => .pure (.error error)
  | .ok _ => do
      match ← ask (.record args.operationId attribution.principal args.device) with
      | .error error => return .error (.validation error)
      | .ok record => confirmRecord args attribution record

/-! ## What a run does to the store -/

def confirmEffect : Await.Effect ConfirmCall ConfirmCall.Reply Store
  | store, .record operationId principal device, reply, store' =>
      storeEffect store (.record operationId principal device) reply store'
  | store, .update record, reply, store' => storeEffect store (.update record) reply store'
  | store, .now, _, store' | store, .confirmCommit .., _, store' => store' = store

def confirmWorld : World ConfirmOp ConfirmRes Store := Await.world confirmEffect

def sendsConfirm : ConfirmEvent → Bool
  | ⟨.bare (.confirmCommit ..), _⟩ => true
  | _ => false

/-- The device took the confirming commit. -/
def showsConfirmed : ConfirmEvent → Bool
  | ⟨.bare (.confirmCommit ..), .ok (.reconciled true _)⟩ => true
  | _ => false

def showsRecorded : ConfirmEvent → Bool
  | ⟨.bare (.update _), .ok _⟩ => true
  | _ => false

def clockRead (trace : ConfirmTrace) : Option Nat :=
  trace.findSome? fun
    | ⟨.bare .now, now⟩ => some now
    | _ => none

theorem runs_ask {α : Type} {store store' : Store} {call : ConfirmCall}
    {next : call.Reply → ConfirmProg α} {trace : ConfirmTrace} {value : α} :
    Runs confirmWorld store ((ask call).bind next) trace value store' ↔
      ∃ reply rest middle, trace = ⟨.bare call, reply⟩ :: rest ∧
        confirmEffect store call (some reply) middle ∧
        Runs confirmWorld middle (next reply) rest value store' := runs_step

/-- How a run leaves the store, from the record it was served. -/
inductive Settled (store : Store) (trace : ConfirmTrace) (record : OperationRecord) :
    Store → Prop where
  | unchanged : trace.any showsRecorded = false → Settled store trace record store
  | recorded (details : Text) : trace.any showsConfirmed = true →
      trace.any showsRecorded = true →
      Settled store trace record (store.putOperation (confirmedRecord details record))

theorem finishConfirm_spec {args : ConfirmChangeSetArgs} {record : OperationRecord}
    {deadline : Nat} {outcome : CommitOutcome} {trace : ConfirmTrace}
    {result : Except JmcpError ConfirmReport} {store store' : Store}
    (run : Runs confirmWorld store (finishConfirm args record deadline outcome) trace result
      store') :
    trace.any showsRecorded = false ∧ store' = store ∨
      ∃ details, outcome = .reconciled true details ∧ trace.any showsRecorded = true ∧
        store' = store.putOperation (confirmedRecord details record) := by
  have unconfirmed (stops : finishConfirm args record deadline outcome =
      .pure (.ok (unconfirmedReport args deadline outcome))) :
      trace.any showsRecorded = false ∧ store' = store := by
    rw [stops] at run
    obtain ⟨rfl, _, rfl⟩ := runs_pure.mp run
    exact ⟨rfl, rfl⟩
  cases outcome with
  | reconciled succeeded details =>
      cases succeeded with
      | false => exact .inl (unconfirmed rfl)
      | true =>
          obtain ⟨written, rest, middle, rfl, here, later⟩ := runs_ask.mp run
          cases written with
          | error error =>
              obtain ⟨rfl, _, rfl⟩ := runs_pure.mp later
              exact .inl ⟨rfl, here⟩
          | ok _ =>
              obtain ⟨rfl, _, rfl⟩ := runs_pure.mp later
              exact .inr ⟨details, rfl, rfl, here⟩
  | indeterminate reason => exact .inl (unconfirmed rfl)
  | awaitingConfirmation deadline details => exact .inl (unconfirmed rfl)

/-- What a run has sent and written, and the record it went by. -/
inductive Confirms (store : Store) (args : ConfirmChangeSetArgs) (trace : ConfirmTrace) :
    Store → Prop where
  | refused : trace.any sendsConfirm = false → trace.any showsRecorded = false →
      Confirms store args trace store
  | sent (record : OperationRecord) (deadline now : Nat) :
      store.operations args.operationId = some record →
      record.rollbackDeadlineUnix = some deadline → clockRead trace = some now → now < deadline →
      trace.any showsRecorded = false → Confirms store args trace store
  | recorded (record : OperationRecord) (deadline now : Nat) (details : Text) :
      store.operations args.operationId = some record →
      record.rollbackDeadlineUnix = some deadline → clockRead trace = some now → now < deadline →
      trace.any showsConfirmed = true → trace.any showsRecorded = true →
      Confirms store args trace (store.putOperation (confirmedRecord details record))

theorem confirmChangeSet_spec {inventory : Text → Except JmcpError TargetDevice}
    {args : ConfirmChangeSetArgs} {attribution : Attribution} {trace : ConfirmTrace}
    {result : Except JmcpError ConfirmReport} {store store' : Store}
    (run : Runs confirmWorld store (confirmChangeSet inventory args attribution) trace result
      store') : Confirms store args trace store' := by
  unfold confirmChangeSet at run
  cases known : inventory args.device with
  | error error =>
      rw [known] at run
      obtain ⟨rfl, _, rfl⟩ := runs_pure.mp run
      exact .refused rfl rfl
  | ok device =>
      rw [known] at run
      obtain ⟨served, rest, middle, rfl, here, run₁⟩ := runs_ask.mp run
      cases served with
      | error error =>
          obtain ⟨rfl, _, rfl⟩ := runs_pure.mp run₁
          obtain rfl : store' = store := here
          exact .refused rfl rfl
      | ok record =>
          obtain ⟨rfl, stored, _⟩ := here
          dsimp only [confirmRecord] at run₁
          cases window : record.rollbackDeadlineUnix with
          | none =>
              rw [window] at run₁
              obtain ⟨rfl, _, rfl⟩ := runs_pure.mp run₁
              exact .refused rfl rfl
          | some deadline =>
              rw [window] at run₁
              obtain ⟨now, rest, middle', rfl, here, run₂⟩ := runs_ask.mp run₁
              obtain rfl : middle' = middle := here
              by_cases late : deadline ≤ now
              · rw [if_pos late] at run₂
                obtain ⟨rfl, _, rfl⟩ := runs_pure.mp run₂
                exact .refused rfl rfl
              · rw [if_neg late] at run₂
                have early := Nat.lt_of_not_le late
                obtain ⟨outcome, rest, middle'', rfl, here, run₃⟩ := runs_ask.mp run₂
                obtain rfl : middle'' = middle' := here
                cases outcome with
                | error error =>
                    obtain ⟨rfl, _, rfl⟩ := runs_pure.mp run₃
                    exact .sent record deadline now stored window rfl early rfl
                | ok outcome =>
                    rcases finishConfirm_spec run₃ with
                      ⟨quiet, rfl⟩ | ⟨details, rfl, written, rfl⟩
                    · exact .sent record deadline now stored window rfl early quiet
                    · exact .recorded record deadline now details stored window rfl early rfl
                        written

/-- The answers of a run that confirms. -/
def confirmTrace (args : ConfirmChangeSetArgs) (attribution : Attribution)
    (record : OperationRecord) (now : Nat) : ConfirmTrace :=
  [⟨.bare (.record args.operationId attribution.principal args.device), .ok record⟩,
   ⟨.bare .now, now⟩,
   ⟨.bare (.confirmCommit args.operationId attribution),
    .ok (.reconciled true "confirming commit succeeded".toList)⟩,
   ⟨.bare (.update (confirmedRecord "confirming commit succeeded".toList record)), .ok ()⟩]

/-- Nothing but the deadline keeps an owner from confirming. -/
theorem confirms_in_time {inventory : Text → Except JmcpError TargetDevice}
    {args : ConfirmChangeSetArgs} {attribution : Attribution} {record : OperationRecord}
    {device : TargetDevice} {deadline now : Nat} {store : Store}
    (known : inventory args.device = .ok device)
    (stored : store.operations args.operationId = some record)
    (owned : record.owner = attribution.principal) (placed : record.device = args.device)
    (window : record.rollbackDeadlineUnix = some deadline) (early : now < deadline) :
    Runs confirmWorld store (confirmChangeSet inventory args attribution)
      (confirmTrace args attribution record now)
      (.ok (confirmedReport args "confirming commit succeeded".toList))
      (store.putOperation (confirmedRecord "confirming commit succeeded".toList record)) := by
  unfold confirmChangeSet
  rw [known]
  refine runs_ask.mpr ⟨.ok record, _, store, rfl, ⟨rfl, stored, owned, placed⟩, ?_⟩
  dsimp only [confirmRecord]
  rw [window]
  refine runs_ask.mpr ⟨now, _, store, rfl, rfl, ?_⟩
  rw [if_neg (Nat.not_le_of_lt early)]
  refine runs_ask.mpr ⟨.ok (.reconciled true _), _, store, rfl, rfl, ?_⟩
  exact runs_ask.mpr ⟨.ok (), [], _, rfl, rfl, runs_pure.mpr ⟨rfl, rfl, rfl⟩⟩

/-! ## Histories of the records -/

inductive Disposition where
  | committed
  | discarded
  deriving DecidableEq

/-- What the coordinator's package writes to the store by itself: a staged operation, the outcome of
its commit if there is one, what `state resolve` settles, and the reloaded store of a restart. -/
inductive PackageCall where
  | stage (request : StageRequest)
  | commit (operationId : Text) (outcome : Option OperationOutcome)
  | resolve (operationId : Text) (disposition : Disposition)
  | restart

abbrev Package := Store → PackageCall → Store → Prop

/-- The window a call opens: the operation and its rollback deadline. -/
def PackageCall.opens : PackageCall → Option (Text × Nat)
  | .commit operationId (some (.awaitingConfirmation deadline _)) => some (operationId, deadline)
  | _ => none

/-- A recorded deadline is evidence of a confirmed commit, and of nothing else. -/
structure Package.Documented (package : Package) : Prop where
  deadlines : ∀ {store store' : Store} {call : PackageCall} {operationId : Text}
    {record' : OperationRecord} {deadline : Nat}, package store call store' →
    store'.operations operationId = some record' →
    record'.rollbackDeadlineUnix = some deadline → call.opens = some (operationId, deadline) ∨
      ∃ record, store.operations operationId = some record ∧
        record.rollbackDeadlineUnix = some deadline

inductive Happening where
  | package (call : PackageCall)
  | abandon (about : Abandon)
  | confirm (operationId : Text) (trace : ConfirmTrace)

def Happening.opens : Happening → Option (Text × Nat)
  | .package call => call.opens
  | _ => none

/-- A confirming commit was taken and written down. -/
def Happening.confirms (operationId : Text) : Happening → Bool
  | .confirm confirmed trace => confirmed == operationId && trace.any showsRecorded
  | _ => false

inductive Happens (package : Package) : Store → Happening → Store → Prop where
  | package {store store' : Store} {call : PackageCall} :
      package store call store' → Happens package store (.package call) store'
  | abandon {store store' : Store} {about : Abandon} {trace : ApplyTrace} :
      Runs storeWorld store (abandonFailedApply about) trace () store' →
      Happens package store (.abandon about) store'
  | confirm {store store' : Store} {inventory : Text → Except JmcpError TargetDevice}
      {args : ConfirmChangeSetArgs} {attribution : Attribution} {trace : ConfirmTrace}
      {result : Except JmcpError ConfirmReport} :
      Runs confirmWorld store (confirmChangeSet inventory args attribution) trace result store' →
      Happens package store (.confirm args.operationId trace) store'

/-- What happened, the latest first. -/
inductive Reached (package : Package) : List Happening → Store → Prop where
  | fresh : Reached package [] .empty
  | step {history : List Happening} {store store' : Store} {happening : Happening} :
      Reached package history store → Happens package store happening store' →
      Reached package (happening :: history) store'

/-- A provisional commit opened the window, and no confirmation was recorded since. -/
inductive OpenWindow (operationId : Text) (deadline : Nat) : List Happening → Prop where
  | opened {happening : Happening} {history : List Happening} :
      happening.opens = some (operationId, deadline) →
      OpenWindow operationId deadline (happening :: history)
  | since {happening : Happening} {history : List Happening} :
      happening.confirms operationId = false → OpenWindow operationId deadline history →
      OpenWindow operationId deadline (happening :: history)

def DeadlinesOpen (history : List Happening) (store : Store) : Prop :=
  ∀ operationId record deadline, store.operations operationId = some record →
    record.rollbackDeadlineUnix = some deadline → OpenWindow operationId deadline history

theorem putOperation_cases {store : Store} {written found : OperationRecord} {operationId : Text}
    (stored : (store.putOperation written).operations operationId = some found) :
    operationId = written.id ∧ found = written ∨
      operationId ≠ written.id ∧ store.operations operationId = some found := by
  by_cases same : operationId = written.id
  · subst same
    rw [putOperation_same] at stored
    exact .inl ⟨rfl, (Option.some_inj.mp stored).symm⟩
  · have other : Function.update store.operations written.id (some written) operationId =
        some found := stored
    rw [Function.update_of_ne same] at other
    exact .inr ⟨same, other⟩

/-- The deadlines of the second store are deadlines of the first. -/
def KeepsDeadlines (store store' : Store) : Prop :=
  ∀ operationId record' deadline, store'.operations operationId = some record' →
    record'.rollbackDeadlineUnix = some deadline →
    ∃ record, store.operations operationId = some record ∧
      record.rollbackDeadlineUnix = some deadline

theorem KeepsDeadlines.of_same {store store' : Store}
    (same : store'.operations = store.operations) : KeepsDeadlines store store' := by
  intro operationId record' deadline stored window
  rw [same] at stored
  exact ⟨record', stored, window⟩

theorem KeepsDeadlines.put {store : Store} {record written : OperationRecord}
    (stored : store.operations written.id = some record)
    (kept : written.rollbackDeadlineUnix = record.rollbackDeadlineUnix) :
    KeepsDeadlines store (store.putOperation written) := by
  intro operationId record' deadline found window
  rcases putOperation_cases found with ⟨rfl, rfl⟩ | ⟨_, other⟩
  · exact ⟨record, stored, kept ▸ window⟩
  · exact ⟨record', other, window⟩

@[simp] theorem settledRecord_deadline (reason : Text) (outcome : AbandonOutcome)
    (record : OperationRecord) :
    (settledRecord reason outcome record).rollbackDeadlineUnix = record.rollbackDeadlineUnix := by
  cases outcome <;> rfl

theorem settleOperation_deadlines {about : Abandon} {trace : ApplyTrace} {store store' : Store}
    (run : Runs storeWorld store (settleOperation about) trace () store') :
    KeepsDeadlines store store' := by
  obtain ⟨reply, rest, middle, rfl, here, run₁⟩ := runs_request.mp run
  cases reply with
  | error error =>
      obtain ⟨_, _, rfl⟩ := runs_pure.mp run₁
      exact .of_same (congrArg Store.operations here)
  | ok record =>
      obtain ⟨rfl, stored, _⟩ := here
      obtain ⟨first, second, ⟨proven, shown⟩, middle', rfl, proves, writes⟩ := runs_bind.mp run₁
      have proof : middle' = middle ∧ (proven = true → shown.id = record.id ∧
          shown.rollbackDeadlineUnix = record.rollbackDeadlineUnix) := by
        cases known : about.outcome.against record.state with
        | commitOutcomeUnknown =>
            rw [proveSettled, known] at proves
            obtain ⟨_, same, rfl⟩ := runs_pure.mp proves
            cases same
            exact ⟨rfl, fun _ => ⟨rfl, rfl⟩⟩
        | candidateNotCommitted =>
            rw [proveSettled, known] at proves
            obtain ⟨rfl, _, _, refreshed⟩ := proveReverted_spec proves
            refine ⟨rfl, fun verdict => ?_⟩
            have same : shown = _ := refreshed verdict
            rw [same]
            exact ⟨rfl, rfl⟩
      obtain ⟨rfl, faithful⟩ := proof
      cases proven with
      | false =>
          obtain ⟨_, _, rfl⟩ := runs_pure.mp writes
          exact .of_same rfl
      | true =>
          obtain ⟨written, rest, middle, rfl, here, run₂⟩ := runs_request.mp writes
          obtain ⟨_, _, rfl⟩ := runs_pure.mp run₂
          obtain ⟨named, window⟩ := faithful rfl
          cases written with
          | error error => exact .of_same (congrArg Store.operations here)
          | ok _ =>
              obtain rfl : store' = middle'.putOperation _ := here
              refine .put ?_ ((settledRecord_deadline _ _ _).trans window)
              rw [settledRecord_id, named, middle'.operationNamed stored]
              exact stored

theorem abandonFailedApply_deadlines {about : Abandon} {trace : ApplyTrace}
    {store store' : Store}
    (run : Runs storeWorld store (abandonFailedApply about) trace () store') :
    KeepsDeadlines store store' := by
  obtain ⟨released, rest, middle, rfl, here, run₁⟩ := runs_request.mp run
  obtain rfl : middle = store := here
  obtain ⟨first, second, _, middle', rfl, settles, fails⟩ := runs_bind.mp run₁
  have operations := (settleChangeSet_spec fails).1
  have kept : KeepsDeadlines middle middle' := by
    cases released with
    | false =>
        obtain ⟨_, _, rfl⟩ := runs_pure.mp settles
        exact .of_same rfl
    | true => exact settleOperation_deadlines settles
  intro operationId record' deadline stored window
  rw [operations] at stored
  exact kept operationId record' deadline stored window

theorem DeadlinesOpen.carried {history : List Happening} {store store' : Store}
    {happening : Happening} (windows : DeadlinesOpen history store)
    (kept : KeepsDeadlines store store')
    (silent : ∀ operationId, happening.confirms operationId = false) :
    DeadlinesOpen (happening :: history) store' := by
  intro operationId record' deadline stored window
  obtain ⟨record, known, same⟩ := kept operationId record' deadline stored window
  exact .since (silent operationId) (windows operationId record deadline known same)

theorem Happens.deadlinesOpen {package : Package} (documented : package.Documented)
    {history : List Happening} {store store' : Store} {happening : Happening}
    (happens : Happens package store happening store') (windows : DeadlinesOpen history store) :
    DeadlinesOpen (happening :: history) store' := by
  cases happens with
  | package writes =>
      intro operationId record' deadline stored window
      rcases documented.deadlines writes stored window with opened | ⟨record, known, same⟩
      · exact .opened opened
      · exact .since rfl (windows operationId record deadline known same)
  | abandon run => exact windows.carried (abandonFailedApply_deadlines run) fun _ => rfl
  | @confirm _ _ args _ trace _ run =>
      have untouched (quiet : trace.any showsRecorded = false) :
          DeadlinesOpen (.confirm args.operationId trace :: history) store := by
        refine windows.carried (.of_same rfl) fun operationId => ?_
        rw [Happening.confirms, quiet, Bool.and_false]
      rcases confirmChangeSet_spec run with
        ⟨_, quiet⟩ | ⟨_, _, _, _, _, _, _, quiet⟩ | ⟨record, deadline, now, details, stored, window⟩
      · exact untouched quiet
      · exact untouched quiet
      · intro operationId record' deadline' found window'
        rcases putOperation_cases found with ⟨_, rfl⟩ | ⟨differs, other⟩
        · cases window'
        · have named : record.id = args.operationId := store.operationNamed stored
          have differs' : args.operationId ≠ operationId := fun same =>
            differs (same.symm.trans named.symm)
          refine .since ?_ (windows operationId record' deadline' other window')
          rw [Happening.confirms, beq_false_of_ne differs', Bool.false_and]

theorem Reached.deadlinesOpen {package : Package} (documented : package.Documented)
    {history : List Happening} {store : Store} (reached : Reached package history store) :
    DeadlinesOpen history store := by
  induction reached with
  | fresh => exact fun _ _ _ stored => nomatch stored
  | step _ happens ih => exact happens.deadlinesOpen documented ih

/-- The stored operation has a window that is open when the server reads its clock. -/
structure Awaits (history : List Happening) (store : Store) (operationId : Text)
    (trace : ConfirmTrace) (record : OperationRecord) (deadline now : Nat) : Prop where
  stored : store.operations operationId = some record
  window : record.rollbackDeadlineUnix = some deadline
  opened : OpenWindow operationId deadline history
  read : clockRead trace = some now
  early : now < deadline

theorem confirm_needs_open_window {package : Package} (documented : package.Documented)
    {history : List Happening} {store store' : Store} (reached : Reached package history store)
    {inventory : Text → Except JmcpError TargetDevice} {args : ConfirmChangeSetArgs}
    {attribution : Attribution} {trace : ConfirmTrace} {result : Except JmcpError ConfirmReport}
    (run : Runs confirmWorld store (confirmChangeSet inventory args attribution) trace result
      store') :
    (trace.any sendsConfirm = false ∧ store' = store) ∨
      ∃ record deadline now, Awaits history store args.operationId trace record deadline now ∧
        (store' = store ∨ trace.any showsConfirmed = true ∧
          ∃ details, store' = store.putOperation (confirmedRecord details record)) := by
  have opened := reached.deadlinesOpen documented args.operationId
  cases confirmChangeSet_spec run with
  | refused unsent => exact .inl ⟨unsent, rfl⟩
  | sent record deadline now stored window read early =>
      exact .inr ⟨record, deadline, now, ⟨stored, window, opened _ _ stored window, read, early⟩,
        .inl rfl⟩
  | recorded record deadline now details stored window read early confirmed =>
      exact .inr ⟨record, deadline, now, ⟨stored, window, opened _ _ stored window, read, early⟩,
        .inr ⟨confirmed, details, rfl⟩⟩

/-! ## A window of the first operation -/

def Disposition.state : Disposition → LifecycleState
  | .committed => .committed
  | .discarded => .discarded

/-- `state resolve` settles the state and leaves the deadline behind. -/
def resolvedRecord (disposition : Disposition) (record : OperationRecord) : OperationRecord :=
  { record with
    state := disposition.state
    configLockHeld := false }

def awaitingRecord (deadline : Nat) (record : OperationRecord) : OperationRecord :=
  { record with
    state := .committing
    rollbackDeadlineUnix := some deadline }

/-- What a restart makes of an operation that was not settled. -/
def reloadedRecord (record : OperationRecord) : OperationRecord :=
  if record.state.terminal then record else { record with state := .indeterminate }

theorem reloadedRecord_keeps (record : OperationRecord) :
    (reloadedRecord record).id = record.id ∧
      (reloadedRecord record).rollbackDeadlineUnix = record.rollbackDeadlineUnix := by
  unfold reloadedRecord
  split <;> exact ⟨rfl, rfl⟩

def Store.reloaded (store : Store) : Store where
  operations operationId := (store.operations operationId).map reloadedRecord
  changeSets := store.changeSets
  operationNamed {operationId record} stored := by
    obtain ⟨before, known, rfl⟩ := Option.map_eq_some_iff.mp stored
    rw [(reloadedRecord_keeps before).1]
    exact store.operationNamed known
  changeSetNamed := store.changeSetNamed

inductive Plain : Store → PackageCall → Store → Prop where
  | staged (store : Store) (request : StageRequest) (record : OperationRecord) :
      record.rollbackDeadlineUnix = none →
      Plain store (.stage request) (store.putOperation record)
  | awaited {store : Store} {record : OperationRecord} (deadline : Nat) (details : Option Text) :
      store.operations record.id = some record →
      Plain store (.commit record.id (some (.awaitingConfirmation deadline details)))
        (store.putOperation (awaitingRecord deadline record))
  | resolved {store : Store} {record : OperationRecord} (disposition : Disposition) :
      store.operations record.id = some record → record.state.terminal = false →
      Plain store (.resolve record.id disposition)
        (store.putOperation (resolvedRecord disposition record))
  | restarted (store : Store) : Plain store .restart store.reloaded

theorem plain_documented : Package.Documented Plain where
  deadlines {store store' call operationId record' deadline} writes stored window := by
    cases writes with
    | staged _ record fresh =>
        rcases putOperation_cases stored with ⟨_, rfl⟩ | ⟨_, other⟩
        · rw [fresh] at window
          cases window
        · exact .inr ⟨record', other, window⟩
    | awaited deadline' details known =>
        rcases putOperation_cases stored with ⟨rfl, rfl⟩ | ⟨_, other⟩
        · cases window
          exact .inl rfl
        · exact .inr ⟨record', other, window⟩
    | resolved disposition known live =>
        have kept : KeepsDeadlines store (store.putOperation (resolvedRecord disposition _)) :=
          .put known rfl
        exact .inr (kept operationId record' deadline stored window)
    | restarted =>
        obtain ⟨record, known, rfl⟩ := Option.map_eq_some_iff.mp stored
        rw [(reloadedRecord_keeps record).2] at window
        exact .inr ⟨record, known, window⟩

def awaitingOperation : OperationRecord := awaitingRecord 1000 (stagedOperation .validated)

def awaitingStore : Store :=
  (Store.empty.putOperation (stagedOperation .validated)).putOperation awaitingOperation

def stagesOperation : Happening :=
  .package (.stage (stageRequest ownerContext plainApply ⟨"192.0.2.1".toList, 830, .local⟩
    ownerAttribution []))

def provisionalHistory : List Happening :=
  [.package (.commit "01".toList (some (.awaitingConfirmation 1000 none))), stagesOperation]

theorem awaiting_reached : Reached Plain provisionalHistory awaitingStore := by
  have staged : Reached Plain [stagesOperation]
      (Store.empty.putOperation (stagedOperation .validated)) :=
    .step .fresh (.package (.staged _ _ (stagedOperation .validated) rfl))
  exact .step staged (.package (.awaited 1000 none (putOperation_same _ _)))

def confirmArgs : ConfirmChangeSetArgs := ⟨"vsrx-ci".toList, "01".toList⟩

/-- A hundred seconds before the deadline. -/
theorem confirms_before_deadline {store : Store} {record : OperationRecord}
    (stored : store.operations "01".toList = some record) (owned : record.owner = "owner".toList)
    (placed : record.device = "vsrx-ci".toList)
    (window : record.rollbackDeadlineUnix = some 1000) :
    Runs confirmWorld store (confirmChangeSet ownerContext.inventory confirmArgs ownerAttribution)
      (confirmTrace confirmArgs ownerAttribution record 900)
      (.ok (confirmedReport confirmArgs "confirming commit succeeded".toList))
      (store.putOperation (confirmedRecord "confirming commit succeeded".toList record)) := by
  have early : 900 < 1000 := by decide
  exact confirms_in_time rfl stored owned placed window early

/-- The operation reads `Committed` already, by `state resolve`, and its window is still open. -/
theorem resolved_operation_confirmed :
    ¬∀ (package : Package) (history : List Happening) (store store' : Store)
      (inventory : Text → Except JmcpError TargetDevice) (args : ConfirmChangeSetArgs)
      (attribution : Attribution) (trace : ConfirmTrace)
      (result : Except JmcpError ConfirmReport), package.Documented →
      Reached package history store →
      Runs confirmWorld store (confirmChangeSet inventory args attribution) trace result store' →
      trace.any sendsConfirm = true →
      ∃ record, store.operations args.operationId = some record ∧ record.state = .committing := by
  intro claim
  have resolved := Reached.step awaiting_reached
    (.package (.resolved .committed (putOperation_same _ awaitingOperation) rfl))
  have stored := putOperation_same awaitingStore (resolvedRecord .committed awaitingOperation)
  obtain ⟨record, found, awaiting⟩ := claim Plain _ _ _ _ _ _ _ _ plain_documented resolved
    (confirms_before_deadline stored rfl rfl rfl) rfl
  have same : record = resolvedRecord .committed awaitingOperation :=
    Option.some_inj.mp (found.symm.trans stored)
  rw [same] at awaiting
  cases awaiting

/-- The provisional commit is confirmed in time. -/
theorem awaiting_operation_confirmed :
    ∃ record deadline now, Awaits provisionalHistory awaitingStore "01".toList
      (confirmTrace confirmArgs ownerAttribution awaitingOperation 900) record deadline now := by
  have stored := putOperation_same (Store.empty.putOperation (stagedOperation .validated))
    awaitingOperation
  rcases confirm_needs_open_window plain_documented awaiting_reached
    (confirms_before_deadline stored rfl rfl rfl) with
    ⟨unsent, _⟩ | ⟨record, deadline, now, awaits, _⟩
  · cases unsent
  · exact ⟨record, deadline, now, awaits⟩

end JunosMcp.ChangeSet
