import JunosMcp.ChangeSet.Records
import JunosMcp.Session.System
import Mathlib.Tactic.MkIffOfInductiveProp

/-!
# Settling a failed apply

`abandon_failed_apply` releases the staged session, and settles the operation and the change set
in the coordinator's store. `Discarded` is written only where the probes prove the revert.
-/

namespace JunosMcp.ChangeSet
open Lib

/-! ## Probes -/

inductive ProbeError where
  | failed (error : JmcpError)
  | timedOut
  deriving DecidableEq

def ProbeError.display : ProbeError → Text
  | .failed error => error.display
  | .timedOut => "timed out inside the cleanup budget".toList

/-- A probe that never answers proves nothing. -/
def probed {α : Type} : Timed (Except JmcpError α) → Except ProbeError α
  | .completed (.ok value) => .ok value
  | .completed (.error error) => .error (.failed error)
  | .elapsed => .error .timedOut

def probeLock : ApplyProg (Except ProbeError Unit) :=
  .step (.timed (.lock "changeset cleanup probe".toList)) fun reply => .pure (probed reply)

def probeFingerprint : ApplyProg (Except ProbeError Text) :=
  .step (.timed .fingerprint) fun reply => .pure (probed reply)

def probeUnlock : ApplyProg (Except ProbeError UnlockOutcome) :=
  .step (.timed .unlock) fun reply => .pure (probed reply)

/-! ## The program -/

inductive AbandonOutcome where
  | candidateNotCommitted
  | commitOutcomeUnknown
  deriving DecidableEq

structure Abandon where
  changeSetId : Text
  device : Text
  principal : Text
  operationId : Text
  preStageFingerprint : Text
  reason : Text
  outcome : AbandonOutcome
  deriving DecidableEq

/-- An operation whose commit was about to be sent. -/
def LifecycleState.sending : LifecycleState → Bool
  | .committing | .indeterminate => true
  | _ => false

/-- A commit error from an operation that never reached `Committing` proves nothing was sent. -/
def AbandonOutcome.against : AbandonOutcome → LifecycleState → AbandonOutcome
  | .commitOutcomeUnknown, state =>
      if state.sending then .commitOutcomeUnknown else .candidateNotCommitted
  | outcome, _ => outcome

/-- Proven only by the fingerprint from before staging and a lock given back. -/
def revertVerdict (preStageFingerprint : Text) (record : OperationRecord)
    (observed : Except ProbeError Text) (returned : Except ProbeError UnlockOutcome) :
    Bool × OperationRecord :=
  match observed with
  | .error _ => (false, record)
  | .ok current =>
      if current = preStageFingerprint then
        (returned == .ok .released, { record with current := current })
      else (false, record)

/-- The candidate is read inside the lock, and the lock goes back whatever was read. -/
def proveReverted (preStageFingerprint : Text) (record : OperationRecord) :
    ApplyProg (Bool × OperationRecord) := do
  match ← probeLock with
  | .error _ => return (false, record)
  | .ok _ =>
      let observed ← probeFingerprint
      let returned ← probeUnlock
      return revertVerdict preStageFingerprint record observed returned

/-- An unknown outcome is settled without probes. -/
def proveSettled (about : Abandon) (record : OperationRecord) :
    ApplyProg (Bool × OperationRecord) :=
  match about.outcome.against record.state with
  | .commitOutcomeUnknown => .pure (true, record)
  | .candidateNotCommitted => proveReverted about.preStageFingerprint record

def settledRecord (reason : Text) (outcome : AbandonOutcome) (record : OperationRecord) :
    OperationRecord :=
  match outcome with
  | .candidateNotCommitted => { record with
      configLockHeld := false
      state := .discarded
      details := some ("candidate discarded with the staged session after a failed apply: ".toList
        ++ reason) }
  | .commitOutcomeUnknown => { record with
      state := .indeterminate
      details := some (("commit outcome unknown after a failed apply; verify the device and " ++
        "settle with `state resolve`: ").toList ++ reason) }

def writeSettled (reason : Text) (outcome : AbandonOutcome) : Bool × OperationRecord → ApplyProg Unit
  | (false, _) => .pure ()
  | (true, record) => do
      let _ ← request (.update (settledRecord reason outcome record))
      return ()

def settleOperation (about : Abandon) : ApplyProg Unit := do
  match ← request (.record about.operationId about.principal about.device) with
  | .error _ => return ()
  | .ok record =>
      let proof ← proveSettled about record
      writeSettled about.reason (about.outcome.against record.state) proof

def settleChangeSet (changeSetId device : Text) : ApplyProg Unit := do
  match ← request (.changeSet changeSetId device) with
  | .error _ => return ()
  | .ok changeSet =>
      let _ ← request (.updateChangeSet { changeSet with state := .failed })
      return ()

/-- A release that is not confirmed leaves the operation to `state resolve`. -/
def settleReleased (about : Abandon) : Bool → ApplyProg Unit
  | true => settleOperation about
  | false => .pure ()

def abandonFailedApply (about : Abandon) : ApplyProg Unit := do
  let released ← request .release
  settleReleased about released
  settleChangeSet about.changeSetId about.device

/-! ## What a run has shown -/

def showsReleased : ApplyEvent → Bool
  | ⟨.bare .release, released⟩ => released
  | _ => false

def showsLocked : ApplyEvent → Bool
  | ⟨.timed (.lock _), .completed (.ok _)⟩ => true
  | _ => false

def showsFingerprint (expected : Text) : ApplyEvent → Bool
  | ⟨.timed .fingerprint, .completed (.ok current)⟩ => current == expected
  | _ => false

def showsUnlocked : ApplyEvent → Bool
  | ⟨.timed .unlock, .completed (.ok .released)⟩ => true
  | _ => false

/-- The coordinator did not serve a record or did not accept one. -/
def refusesOperation : ApplyEvent → Bool
  | ⟨.bare (.record ..), .error _⟩ | ⟨.bare (.update _), .error _⟩ => true
  | _ => false

def refusesChangeSet : ApplyEvent → Bool
  | ⟨.bare (.changeSet ..), .error _⟩ | ⟨.bare (.updateChangeSet _), .error _⟩ => true
  | _ => false

/-- The lock was taken, the candidate read back inside it, and the lock given back. -/
@[mk_iff] structure ProbesPassed (preStageFingerprint : Text) (trace : ApplyTrace) : Prop where
  locked : trace.any showsLocked = true
  fingerprint : trace.any (showsFingerprint preStageFingerprint) = true
  unlocked : trace.any showsUnlocked = true

/-- Awaits without a timeout are no probes. -/
def Bare : ApplyOp → Prop
  | .bare _ => True
  | _ => False

theorem Bare.silent {event : ApplyEvent} (bare : Bare event.1) (expected : Text) :
    showsLocked event = false ∧ showsFingerprint expected event = false ∧
      showsUnlocked event = false := by
  obtain ⟨op, answer⟩ := event
  cases op with
  | bare called => exact ⟨rfl, rfl, rfl⟩
  | _ => exact bare.elim

theorem any_between {test : ApplyEvent → Bool} {event : ApplyEvent} {first second : ApplyTrace}
    (here : test event = false) (later : ∀ event ∈ second, test event = false) :
    (event :: (first ++ second)).any test = first.any test := by
  have none : second.any test = false := by simpa using later
  rw [List.any_cons, List.any_append, here, none, Bool.false_or, Bool.or_false]

theorem probesPassed_between {expected : Text} {event : ApplyEvent} {first second : ApplyTrace}
    (here : Bare event.1) (later : ∀ event ∈ second, Bare event.1) :
    ProbesPassed expected (event :: (first ++ second)) ↔ ProbesPassed expected first := by
  have same {test : ApplyEvent → Bool} (silent : ∀ {event}, Bare event.1 → test event = false) :
      (event :: (first ++ second)).any test = first.any test :=
    any_between (silent here) fun event member => silent (later event member)
  have locked := same fun bare => (bare.silent expected).1
  have fingerprint := same fun bare => (bare.silent expected).2.1
  have unlocked := same fun bare => (bare.silent expected).2.2
  constructor
  · rintro ⟨shownLocked, shownFingerprint, shownUnlocked⟩
    exact ⟨locked ▸ shownLocked, fingerprint ▸ shownFingerprint, unlocked ▸ shownUnlocked⟩
  · rintro ⟨shownLocked, shownFingerprint, shownUnlocked⟩
    exact ⟨locked.trans shownLocked, fingerprint.trans shownFingerprint,
      unlocked.trans shownUnlocked⟩

/-- What becomes of the operation record, by what the run has shown. -/
inductive Settles (about : Abandon) (released refused : Bool) (passed : Prop)
    (operation : OperationRecord) : OperationRecord → Prop where
  | unreleased : released = false → Settles about released refused passed operation operation
  | refused : released = true → refused = true →
      Settles about released refused passed operation operation
  | unproven : released = true →
      about.outcome.against operation.state = .candidateNotCommitted → ¬passed →
      Settles about released refused passed operation operation
  | discarded : released = true → refused = false →
      about.outcome.against operation.state = .candidateNotCommitted → passed →
      Settles about released refused passed operation
        (settledRecord about.reason .candidateNotCommitted
          { operation with current := about.preStageFingerprint })
  | indeterminate : released = true → refused = false →
      about.outcome.against operation.state = .commitOutcomeUnknown →
      Settles about released refused passed operation
        (settledRecord about.reason .commitOutcomeUnknown operation)

/-! ## What each part does -/

theorem revertVerdict_proven {expected : Text} {record : OperationRecord}
    {observed : Except ProbeError Text} {returned : Except ProbeError UnlockOutcome} :
    (revertVerdict expected record observed returned).1 = true ↔
      observed = .ok expected ∧ returned = .ok .released := by
  unfold revertVerdict
  cases observed with
  | error error => simp
  | ok current => by_cases back : current = expected <;> simp [back]

theorem revertVerdict_record {expected : Text} {record : OperationRecord}
    {observed : Except ProbeError Text} {returned : Except ProbeError UnlockOutcome}
    (proven : (revertVerdict expected record observed returned).1 = true) :
    (revertVerdict expected record observed returned).2 = { record with current := expected } := by
  obtain ⟨rfl, rfl⟩ := revertVerdict_proven.mp proven
  simp [revertVerdict]

theorem probesPassed_answers {expected comment : Text}
    {observed : Timed (Except JmcpError Text)} {returned : Timed (Except JmcpError UnlockOutcome)} :
    ProbesPassed expected [⟨.timed (.lock comment), .completed (.ok ())⟩,
      ⟨.timed .fingerprint, observed⟩, ⟨.timed .unlock, returned⟩] ↔
      probed observed = .ok expected ∧ probed returned = .ok .released := by
  rw [probesPassed_iff]
  rcases observed with (error | current) | _ <;>
    rcases returned with (error | (_ | _)) | _ <;>
      simp [showsLocked, showsFingerprint, showsUnlocked, probed]

theorem proveReverted_spec {preStageFingerprint : Text} {record : OperationRecord}
    {trace : ApplyTrace} {proof : Bool × OperationRecord} {store store' : Store}
    (run : Runs storeWorld store (proveReverted preStageFingerprint record) trace proof store') :
    store' = store ∧ trace.any refusesOperation = false ∧
      (proof.1 = true ↔ ProbesPassed preStageFingerprint trace) ∧
      (proof.1 = true → proof.2 = { record with current := preStageFingerprint }) := by
  obtain ⟨lock, rest, rfl, run₁⟩ := runs_probe run trivial
  rcases lock with (error | taken) | _
  · obtain ⟨rfl, rfl, rfl⟩ := runs_pure.mp run₁
    exact ⟨rfl, rfl, ⟨nofun, fun passed => absurd passed.locked Bool.false_ne_true⟩, nofun⟩
  · obtain ⟨observed, rest, rfl, run₂⟩ := runs_probe run₁ trivial
    obtain ⟨returned, rest, rfl, run₃⟩ := runs_probe run₂ trivial
    obtain ⟨rfl, rfl, rfl⟩ := runs_pure.mp run₃
    refine ⟨rfl, rfl, ?_, revertVerdict_record⟩
    exact revertVerdict_proven.trans probesPassed_answers.symm
  · obtain ⟨rfl, rfl, rfl⟩ := runs_pure.mp run₁
    exact ⟨rfl, rfl, ⟨nofun, fun passed => absurd passed.locked Bool.false_ne_true⟩, nofun⟩

/-- Calls about the operation: its record, and the probes of the device. -/
def OnOperation (op : ApplyOp) : Prop :=
  match op with
  | .bare (.record ..) | .bare (.update _) | .timed (.lock _) | .timed .fingerprint
  | .timed .unlock => True
  | _ => False

theorem OnOperation.silent {event : ApplyEvent} (about : OnOperation event.1) :
    showsReleased event = false ∧ refusesChangeSet event = false := by
  obtain ⟨op, answer⟩ := event
  cases op with
  | bare called => cases called <;> first | exact about.elim | exact ⟨rfl, rfl⟩
  | timed called => exact ⟨rfl, rfl⟩
  | _ => exact about.elim

theorem proveReverted_performs (preStageFingerprint : Text) (record : OperationRecord) :
    (proveReverted preStageFingerprint record).Performs OnOperation := by
  refine ⟨trivial, fun lock => ?_⟩
  rcases lock with (error | taken) | _
  · trivial
  · exact ⟨trivial, fun _ => ⟨trivial, fun _ => trivial⟩⟩
  · trivial

/-- Calls about the change set's own record. -/
def OnChangeSet (op : ApplyOp) : Prop :=
  match op with
  | .bare (.changeSet ..) | .bare (.updateChangeSet _) => True
  | _ => False

theorem OnChangeSet.bare {op : ApplyOp} (about : OnChangeSet op) : Bare op := by
  cases op with
  | bare called => trivial
  | _ => exact about.elim

theorem OnChangeSet.silent {event : ApplyEvent} (about : OnChangeSet event.1) :
    showsReleased event = false ∧ refusesOperation event = false := by
  obtain ⟨op, answer⟩ := event
  cases op with
  | bare called => cases called <;> first | exact about.elim | exact ⟨rfl, rfl⟩
  | _ => exact about.elim

theorem settleChangeSet_performs (changeSetId device : Text) :
    (settleChangeSet changeSetId device).Performs OnChangeSet := by
  refine ⟨trivial, fun reply => ?_⟩
  cases reply with
  | error error => trivial
  | ok changeSet => exact ⟨trivial, fun _ => trivial⟩

theorem settleChangeSet_spec {changeSetId device : Text} {trace : ApplyTrace}
    {store store' : Store}
    (run : Runs storeWorld store (settleChangeSet changeSetId device) trace () store') :
    store'.operations = store.operations ∧
      (trace.any refusesChangeSet = true → store'.changeSets = store.changeSets) ∧
      (trace.any refusesChangeSet = false → ∃ changeSet,
        store'.changeSets changeSetId device = some changeSet ∧ changeSet.state = .failed) := by
  obtain ⟨reply, rest, middle, rfl, here, run₁⟩ := runs_request.mp run
  cases reply with
  | error error =>
      obtain ⟨rfl, _, rfl⟩ := runs_pure.mp run₁
      obtain rfl : store' = store := here
      exact ⟨rfl, fun _ => rfl, nofun⟩
  | ok changeSet =>
      obtain ⟨rfl, stored⟩ := here
      obtain ⟨written, rest, middle', rfl, here, run₂⟩ := runs_request.mp run₁
      obtain ⟨rfl, _, rfl⟩ := runs_pure.mp run₂
      obtain ⟨rfl, rfl⟩ := middle.changeSetNamed stored
      cases written with
      | error error =>
          obtain rfl : store' = middle := here
          exact ⟨rfl, fun _ => rfl, nofun⟩
      | ok _ =>
          obtain rfl : store' = middle.putChangeSet _ := here
          exact ⟨rfl, nofun, fun _ => ⟨_, putChangeSet_same _ _, rfl⟩⟩

@[simp] theorem settledRecord_id (reason : Text) (outcome : AbandonOutcome)
    (record : OperationRecord) : (settledRecord reason outcome record).id = record.id := by
  cases outcome <;> rfl

theorem writeSettled_spec {reason : Text} {outcome : AbandonOutcome}
    {proof : Bool × OperationRecord} {trace : ApplyTrace} {store store' : Store}
    (run : Runs storeWorld store (writeSettled reason outcome proof) trace () store') :
    store'.changeSets = store.changeSets ∧
      (trace.any refusesOperation = true ∨ proof.1 = false →
        store'.operations = store.operations) ∧
      (trace.any refusesOperation = false → proof.1 = true →
        store'.operations proof.2.id = some (settledRecord reason outcome proof.2)) := by
  obtain ⟨proven, record⟩ := proof
  cases proven with
  | false =>
      obtain ⟨rfl, _, rfl⟩ := runs_pure.mp run
      exact ⟨rfl, fun _ => rfl, fun _ => nofun⟩
  | true =>
      obtain ⟨written, rest, middle, rfl, here, run₁⟩ := runs_request.mp run
      obtain ⟨rfl, _, rfl⟩ := runs_pure.mp run₁
      cases written with
      | error error =>
          obtain rfl : store' = store := here
          exact ⟨rfl, fun _ => rfl, nofun⟩
      | ok _ =>
          obtain rfl : store' = store.putOperation _ := here
          refine ⟨rfl, by rintro (refused | unproven) <;> contradiction, fun _ _ => ?_⟩
          rw [← settledRecord_id reason outcome record]
          exact putOperation_same _ _

theorem writeSettled_performs (reason : Text) (outcome : AbandonOutcome)
    (proof : Bool × OperationRecord) : (writeSettled reason outcome proof).Performs Bare := by
  obtain ⟨proven, record⟩ := proof
  cases proven with
  | false => trivial
  | true => exact ⟨trivial, fun _ => trivial⟩

theorem settleOperation_spec {about : Abandon} {operation : OperationRecord} {trace : ApplyTrace}
    {store store' : Store} (stored : store.operations about.operationId = some operation)
    (run : Runs storeWorld store (settleOperation about) trace () store') :
    store'.changeSets = store.changeSets ∧ ∃ settled,
      store'.operations about.operationId = some settled ∧
        Settles about true (trace.any refusesOperation)
          (ProbesPassed about.preStageFingerprint trace) operation settled := by
  obtain ⟨reply, rest, middle, rfl, here, run₁⟩ := runs_request.mp run
  cases reply with
  | error error =>
      obtain ⟨rfl, _, rfl⟩ := runs_pure.mp run₁
      obtain rfl : store' = store := here
      exact ⟨rfl, operation, stored, .refused rfl rfl⟩
  | ok record =>
      obtain ⟨rfl, same, _⟩ := here
      obtain rfl : record = operation := Option.some_inj.mp (same.symm.trans stored)
      obtain ⟨first, second, proof, middle', rfl, proves, writes⟩ := runs_bind.mp run₁
      obtain ⟨changeSets, kept, written⟩ := writeSettled_spec writes
      have bare : ∀ event ∈ second, Bare event.1 :=
        writes.1.allowed (writeSettled_performs _ _ _)
      have passed : ProbesPassed about.preStageFingerprint (⟨.bare (.record about.operationId
          about.principal about.device), .ok record⟩ :: (first ++ second)) ↔
          ProbesPassed about.preStageFingerprint first := probesPassed_between trivial bare
      have refused (quiet : first.any refusesOperation = false) :
          (⟨.bare (.record about.operationId about.principal about.device), .ok record⟩ ::
            (first ++ second) : ApplyTrace).any refusesOperation = second.any refusesOperation := by
        rw [List.any_cons, List.any_append, quiet]
        rfl
      have named := middle.operationNamed stored
      rw [passed]
      cases known : about.outcome.against record.state with
      | commitOutcomeUnknown =>
          rw [proveSettled, known] at proves
          obtain ⟨rfl, rfl, rfl⟩ := runs_pure.mp proves
          rw [refused rfl]
          cases wrote : second.any refusesOperation with
          | true => exact ⟨changeSets, record, kept (.inl wrote) ▸ stored, .refused rfl rfl⟩
          | false =>
              have settled := written wrote rfl
              rw [known, named] at settled
              exact ⟨changeSets, _, settled, .indeterminate rfl rfl known⟩
      | candidateNotCommitted =>
          rw [proveSettled, known] at proves
          obtain ⟨rfl, quiet, proven, refreshed⟩ := proveReverted_spec proves
          rw [refused quiet]
          cases verdict : proof.1 with
          | false =>
              refine ⟨changeSets, record, kept (.inr verdict) ▸ stored, .unproven rfl known ?_⟩
              rw [← proven, verdict]
              exact Bool.false_ne_true
          | true =>
              cases wrote : second.any refusesOperation with
              | true => exact ⟨changeSets, record, kept (.inl wrote) ▸ stored, .refused rfl rfl⟩
              | false =>
                  have same : proof.2.id = about.operationId := by rw [refreshed verdict, ← named]
                  have settled := written wrote verdict
                  rw [same, known, refreshed verdict] at settled
                  exact ⟨changeSets, _, settled, .discarded rfl rfl known (proven.mp verdict)⟩

theorem settleOperation_performs (about : Abandon) :
    (settleOperation about).Performs OnOperation := by
  refine ⟨trivial, fun reply => ?_⟩
  cases reply with
  | error error => trivial
  | ok record =>
      have proves : (proveSettled about record).Performs OnOperation := by
        unfold proveSettled
        cases about.outcome.against record.state with
        | commitOutcomeUnknown => trivial
        | candidateNotCommitted => exact proveReverted_performs _ record
      refine proves.bind fun proof => ?_
      obtain ⟨proven, record⟩ := proof
      cases proven with
      | false => trivial
      | true => exact ⟨trivial, fun _ => trivial⟩

theorem settleReleased_performs (about : Abandon) (released : Bool) :
    (settleReleased about released).Performs OnOperation := by
  cases released with
  | false => trivial
  | true => exact settleOperation_performs about

/-- Every run settles both records. -/
theorem abandonFailedApply_spec {about : Abandon} {operation : OperationRecord}
    {trace : ApplyTrace} {store store' : Store}
    (stored : store.operations about.operationId = some operation)
    (run : Runs storeWorld store (abandonFailedApply about) trace () store') :
    (trace.any refusesChangeSet = true → store'.changeSets = store.changeSets) ∧
    (trace.any refusesChangeSet = false → ∃ changeSet,
      store'.changeSets about.changeSetId about.device = some changeSet ∧
        changeSet.state = .failed) ∧
    ∃ settled, store'.operations about.operationId = some settled ∧
      Settles about (trace.any showsReleased) (trace.any refusesOperation)
        (ProbesPassed about.preStageFingerprint trace) operation settled := by
  obtain ⟨released, rest, middle, rfl, here, run₁⟩ := runs_request.mp run
  obtain rfl : middle = store := here
  obtain ⟨first, second, _, middle', rfl, settles, fails⟩ := runs_bind.mp run₁
  obtain ⟨operations, unchanged, failed⟩ := settleChangeSet_spec fails
  have onOperation := settles.1.allowed (settleReleased_performs about released)
  have onChangeSet := fails.1.allowed (settleChangeSet_performs about.changeSetId about.device)
  have refusals : (⟨.bare .release, released⟩ :: (first ++ second) : ApplyTrace).any
      refusesChangeSet = second.any refusesChangeSet := by
    have silent : first.any refusesChangeSet = false := by
      simpa using fun event member => (onOperation event member).silent.2
    rw [List.any_cons, List.any_append, silent]
    rfl
  have shown : (⟨.bare .release, released⟩ :: (first ++ second) : ApplyTrace).any
      showsReleased = released := by
    have silent : (first ++ second).any showsReleased = false := by
      rw [List.any_eq_false]
      intro event member
      rcases List.mem_append.mp member with early | late
      · simp [(onOperation event early).silent.1]
      · simp [(onChangeSet event late).silent.1]
    rw [List.any_cons, silent]
    exact Bool.or_false released
  have settled : middle'.changeSets = middle.changeSets ∧ ∃ settled,
      middle'.operations about.operationId = some settled ∧
        Settles about released (first.any refusesOperation)
          (ProbesPassed about.preStageFingerprint first) operation settled := by
    cases released with
    | false =>
        obtain ⟨rfl, _, rfl⟩ := runs_pure.mp settles
        exact ⟨rfl, operation, stored, .unreleased rfl⟩
    | true => exact settleOperation_spec stored settles
  refine ⟨fun refused => (unchanged (refusals ▸ refused)).trans settled.1,
    fun served => failed (refusals ▸ served), ?_⟩
  have passed : ProbesPassed about.preStageFingerprint
      (⟨.bare .release, released⟩ :: (first ++ second)) ↔
        ProbesPassed about.preStageFingerprint first :=
    probesPassed_between trivial fun event member => (onChangeSet event member).bare
  rw [shown, any_between rfl fun event member => (onChangeSet event member).silent.2, passed,
    operations]
  exact settled.2

/-! ## Nothing is written to the device -/

/-- What a call of the cleanup runs on the session it works with, or when its budget is up. -/
inductive ApplyCall.OnSession (cleanupTimeout : Duration) : ApplyCall → SessionProg Place → Prop where
  | release : OnSession cleanupTimeout .release
      (releaseStaged.bind fun released => .pure released.2)
  | lock (comment : Text) : OnSession cleanupTimeout (.lock comment)
      (endIn lockSession (keepIn .locked))
  | fingerprint : OnSession cleanupTimeout .fingerprint (thenDo readCandidate (keepIn .locked))
  | reread : OnSession cleanupTimeout .fingerprint (thenDo readCandidate dropGuard)
  | unlock : OnSession cleanupTimeout .unlock (thenDo (releaseLock cleanupTimeout) dropGuard)
  | dropped (called : ApplyCall) : OnSession cleanupTimeout called dropGuard

theorem ApplyCall.OnSession.noWrite {cleanupTimeout : Duration} {called : ApplyCall}
    {program : SessionProg Place} (runs : called.OnSession cleanupTimeout program) :
    program.Performs NoWrite := by
  cases runs with
  | release => exact releaseStaged_performs.bind fun _ => trivial
  | lock comment =>
      refine lockSession_performs.bind fun locked => ?_
      cases locked with
      | error error => exact dropGuard_performs
      | ok _ => exact keepIn_performs .locked
  | fingerprint => exact readCandidate_performs.bind fun _ => keepIn_performs .locked
  | reread => exact readCandidate_performs.bind fun _ => dropGuard_performs
  | unlock => exact (releaseLock_performs cleanupTimeout).bind fun _ => dropGuard_performs
  | dropped => exact dropGuard_performs

/-- The calls of the cleanup. -/
def Settling (op : ApplyOp) : Prop := op = .bare .release ∨ OnOperation op ∨ OnChangeSet op

theorem abandonFailedApply_performs (about : Abandon) :
    (abandonFailedApply about).Performs Settling := by
  refine ⟨.inl rfl, fun released => ?_⟩
  refine ((settleReleased_performs about released).mono fun _ on => .inr (.inl on)).bind fun _ => ?_
  exact (settleChangeSet_performs _ _).mono fun _ on => .inr (.inr on)

/-! ## The failed apply, settled -/

/-- The commit may have been sent. -/
def PossiblyCommitted (outcome : AbandonOutcome) (state : LifecycleState) : Prop :=
  outcome = .commitOutcomeUnknown ∧ (state = .committing ∨ state = .indeterminate)

/-- The commit was never sent. -/
def KnownUncommitted (outcome : AbandonOutcome) (state : LifecycleState) : Prop :=
  outcome = .candidateNotCommitted ∨
    outcome = .commitOutcomeUnknown ∧ state ≠ .committing ∧ state ≠ .indeterminate

instance (outcome : AbandonOutcome) (state : LifecycleState) :
    Decidable (KnownUncommitted outcome state) := by
  unfold KnownUncommitted
  infer_instance

theorem against_iff {outcome : AbandonOutcome} {state : LifecycleState} :
    outcome.against state = .candidateNotCommitted ↔ KnownUncommitted outcome state := by
  cases outcome <;> cases state <;> decide

theorem against_possibly {outcome : AbandonOutcome} {state : LifecycleState} :
    outcome.against state = .commitOutcomeUnknown ↔ PossiblyCommitted outcome state := by
  cases outcome <;> cases state <;>
    simp [AbandonOutcome.against, LifecycleState.sending, PossiblyCommitted]

section Settles
variable {about : Abandon} {released refused : Bool} {passed : Prop}
  {operation settled : OperationRecord}

theorem Settles.discarded_from (settles : Settles about released refused passed operation settled)
    (discarded : settled.state = .discarded) :
    operation.state = .discarded ∨
      released = true ∧ passed ∧ KnownUncommitted about.outcome operation.state := by
  cases settles with
  | unreleased => exact .inl discarded
  | refused => exact .inl discarded
  | unproven => exact .inl discarded
  | discarded released _ known passed => exact .inr ⟨released, passed, against_iff.mp known⟩
  | indeterminate => cases discarded

theorem Settles.discards (settles : Settles about released refused passed operation settled)
    (accepted : refused = false) (clean : released = true) (proven : passed)
    (known : KnownUncommitted about.outcome operation.state) : settled.state = .discarded := by
  have against := against_iff.mpr known
  cases settles with
  | unreleased unreleased => rw [clean] at unreleased; cases unreleased
  | refused _ refused => rw [accepted] at refused; cases refused
  | unproven _ _ unproven => exact absurd proven unproven
  | discarded => rfl
  | indeterminate _ _ unknown => rw [against] at unknown; cases unknown

theorem Settles.stays_discarded
    (settles : Settles about released refused passed operation settled)
    (already : operation.state = .discarded) : settled.state = .discarded := by
  cases settles with
  | discarded => rfl
  | indeterminate _ _ against =>
      rcases (against_possibly.mp against).2 with state | state <;> rw [already] at state <;>
        cases state
  | _ => exact already

theorem Settles.possibly (settles : Settles about released refused passed operation settled)
    (possibly : PossiblyCommitted about.outcome operation.state) :
    settled.state.terminal = false ∧ (released = false → settled = operation) ∧
      (released = true → refused = false → settled.state = .indeterminate) := by
  have against := against_possibly.mpr possibly
  have live : operation.state.terminal = false := by
    rcases possibly.2 with state | state <;> rw [state] <;> rfl
  cases settles with
  | unreleased unreleased =>
      refine ⟨live, fun _ => rfl, fun clean => ?_⟩
      rw [unreleased] at clean
      cases clean
  | refused _ refused =>
      refine ⟨live, fun _ => rfl, fun _ accepted => ?_⟩
      rw [refused] at accepted
      cases accepted
  | unproven _ known => rw [against] at known; cases known
  | discarded _ _ known => rw [against] at known; cases known
  | indeterminate clean =>
      refine ⟨rfl, fun unreleased => ?_, fun _ _ => rfl⟩
      rw [unreleased] at clean
      cases clean

theorem Settles.keeps (settles : Settles about released refused passed operation settled)
    (known : ¬PossiblyCommitted about.outcome operation.state)
    (unproven : ¬(released = true ∧ passed)) : settled = operation := by
  cases settles with
  | unreleased => rfl
  | refused => rfl
  | unproven => rfl
  | discarded clean _ _ proven => exact absurd ⟨clean, proven⟩ unproven
  | indeterminate _ _ against => exact absurd (against_possibly.mp against) known

theorem Settles.unlocks (settles : Settles about released refused passed operation settled)
    (held : operation.configLockHeld = true) (cleared : settled.configLockHeld = false) :
    passed := by
  cases settles with
  | discarded _ _ _ proven => exact proven
  | indeterminate =>
      have still : operation.configLockHeld = false := cleared
      rw [still] at held
      cases held
  | _ => rw [cleared] at held; cases held

end Settles

/-- How a failed apply leaves its operation. -/
structure OperationSettled (about : Abandon) (trace : ApplyTrace)
    (operation settled : OperationRecord) : Prop where
  discarded : trace.any refusesOperation = false →
    (settled.state = .discarded ↔ operation.state = .discarded ∨
      trace.any showsReleased = true ∧ ProbesPassed about.preStageFingerprint trace ∧
        KnownUncommitted about.outcome operation.state)
  onlyProven : settled.state = .discarded → operation.state = .discarded ∨
    trace.any showsReleased = true ∧ ProbesPassed about.preStageFingerprint trace ∧
      KnownUncommitted about.outcome operation.state
  possibly : PossiblyCommitted about.outcome operation.state →
    settled.state.terminal = false ∧ (trace.any showsReleased = false → settled = operation) ∧
      (trace.any showsReleased = true → trace.any refusesOperation = false →
        settled.state = .indeterminate)
  kept : ¬PossiblyCommitted about.outcome operation.state →
    ¬(trace.any showsReleased = true ∧ ProbesPassed about.preStageFingerprint trace) →
      settled = operation
  unlocked : operation.configLockHeld = true → settled.configLockHeld = false →
    trace.any showsUnlocked = true

theorem failed_apply_settled {about : Abandon} {operation : OperationRecord} {trace : ApplyTrace}
    {store store' : Store} (stored : store.operations about.operationId = some operation)
    (run : Runs storeWorld store (abandonFailedApply about) trace () store') :
    (trace.any refusesChangeSet = false → ∃ changeSet,
      store'.changeSets about.changeSetId about.device = some changeSet ∧
        changeSet.state = .failed) ∧
    (∃ settled, store'.operations about.operationId = some settled ∧
      OperationSettled about trace operation settled) ∧
    ∀ event ∈ trace, Settling event.1 ∧ ∀ cleanupTimeout called program,
      event.1.sends = some called → called.OnSession cleanupTimeout program →
        program.Performs NoWrite := by
  obtain ⟨_, failed, settled, found, settles⟩ := abandonFailedApply_spec stored run
  refine ⟨failed, ⟨settled, found, ?_⟩, fun event member => ⟨?_, ?_⟩⟩
  · constructor
    · intro accepted
      refine ⟨settles.discarded_from, ?_⟩
      rintro (already | ⟨clean, proven, known⟩)
      · exact settles.stays_discarded already
      · exact settles.discards accepted clean proven known
    · exact settles.discarded_from
    · exact settles.possibly
    · exact settles.keeps
    · exact fun held cleared => (settles.unlocks held cleared).unlocked
  · exact run.1.allowed (abandonFailedApply_performs about) event member
  · exact fun _ _ _ _ runs => runs.noWrite

/-! ## A failed apply on one device -/

def failedApply (outcome : AbandonOutcome) : Abandon where
  changeSetId := "c1".toList
  device := "vsrx-ci".toList
  principal := "owner".toList
  operationId := "01".toList
  preStageFingerprint := "sha256:aa".toList
  reason := "commit failed".toList
  outcome := outcome

def stagedOperation (state : LifecycleState) : OperationRecord where
  id := "01".toList
  owner := "owner".toList
  device := "vsrx-ci".toList
  current := "sha256:bb".toList
  state := state
  details := none
  configLockHeld := true
  rollbackDeadlineUnix := none

def changeSetIn (state : ChangeSetState) : ChangeSetRecord where
  id := "c1".toList
  owner := "owner".toList
  device := "vsrx-ci".toList
  actions := []
  state := state
  approval := none

def stagedStore (state : LifecycleState) : Store :=
  (Store.empty.putOperation (stagedOperation state)).putChangeSet (changeSetIn .applied)

theorem stagedStore_operation (state : LifecycleState) :
    (stagedStore state).operations "01".toList = some (stagedOperation state) :=
  putOperation_same Store.empty (stagedOperation state)

theorem stagedStore_changeSet (state : LifecycleState) :
    (stagedStore state).changeSets "c1".toList "vsrx-ci".toList = some (changeSetIn .applied) :=
  putChangeSet_same _ (changeSetIn .applied)

/-- The change set's part of a run in which the store serves and accepts. -/
def failsChangeSet : ApplyTrace :=
  [⟨.bare (.changeSet "c1".toList "vsrx-ci".toList), .ok (changeSetIn .applied)⟩,
   ⟨.bare (.updateChangeSet (changeSetIn .failed)), .ok ()⟩]

theorem fails_changeSet {store : Store}
    (applied : store.changeSets "c1".toList "vsrx-ci".toList = some (changeSetIn .applied)) :
    Runs storeWorld store (settleChangeSet "c1".toList "vsrx-ci".toList) failsChangeSet ()
      (store.putChangeSet (changeSetIn .failed)) := by
  refine runs_request.mpr ⟨.ok (changeSetIn .applied), _, store, rfl, ⟨rfl, applied⟩, ?_⟩
  exact runs_request.mpr ⟨.ok (), [], _, rfl, rfl, runs_pure.mpr ⟨rfl, rfl, rfl⟩⟩

/-- An unconfirmed release leaves a commit that may have landed in `Committing`. -/
theorem unreleased_commit_stays_committing :
    ¬∀ (about : Abandon) (operation settled : OperationRecord) (trace : ApplyTrace)
      (store store' : Store), store.operations about.operationId = some operation →
      Runs storeWorld store (abandonFailedApply about) trace () store' →
      PossiblyCommitted about.outcome operation.state →
      store'.operations about.operationId = some settled → settled.state = .indeterminate := by
  intro claim
  have run : Runs storeWorld (stagedStore .committing)
      (abandonFailedApply (failedApply .commitOutcomeUnknown))
      (⟨.bare .release, false⟩ :: failsChangeSet) ()
      ((stagedStore .committing).putChangeSet (changeSetIn .failed)) :=
    runs_request.mpr ⟨false, _, _, rfl, rfl, fails_changeSet (stagedStore_changeSet .committing)⟩
  have left := claim _ _ (stagedOperation .committing) _ _ _ (stagedStore_operation .committing) run
    ⟨rfl, .inl rfl⟩ (stagedStore_operation .committing)
  cases left

def revertedOperation : OperationRecord :=
  { stagedOperation .validated with current := "sha256:aa".toList }

def provesReverted : ApplyTrace :=
  [⟨.timed (.lock "changeset cleanup probe".toList), .completed (.ok ())⟩,
   ⟨.timed .fingerprint, .completed (.ok "sha256:aa".toList)⟩,
   ⟨.timed .unlock, .completed (.ok .released)⟩]

def discardsOperation : ApplyTrace :=
  ⟨.bare (.record "01".toList "owner".toList "vsrx-ci".toList), .ok (stagedOperation .validated)⟩ ::
    (provesReverted ++ [⟨.bare (.update (settledRecord "commit failed".toList
      .candidateNotCommitted revertedOperation)), .ok ()⟩])

theorem proves_reverted (store : Store) :
    Runs storeWorld store (proveReverted "sha256:aa".toList (stagedOperation .validated))
      provesReverted (true, revertedOperation) store := by
  refine runs_step.mpr ⟨.completed (.ok ()), _, store, rfl, rfl, ?_⟩
  refine runs_step.mpr ⟨.completed (.ok "sha256:aa".toList), _, store, rfl, rfl, ?_⟩
  refine runs_step.mpr ⟨.completed (.ok .released), [], store, rfl, rfl, ?_⟩
  exact runs_pure.mpr ⟨rfl, by simp [probed, revertVerdict, revertedOperation], rfl⟩

def discardedStore : Store :=
  (stagedStore .validated).putOperation (settledRecord "commit failed".toList
    .candidateNotCommitted revertedOperation)

theorem discards_operation :
    Runs storeWorld (stagedStore .validated) (settleOperation (failedApply .candidateNotCommitted))
      discardsOperation () discardedStore := by
  refine runs_request.mpr ⟨.ok (stagedOperation .validated), _, _, rfl,
    ⟨rfl, stagedStore_operation .validated, rfl, rfl⟩, ?_⟩
  refine runs_bind.mpr ⟨_, _, _, _, rfl, proves_reverted _, ?_⟩
  exact runs_request.mpr ⟨.ok (), [], _, rfl, rfl, runs_pure.mpr ⟨rfl, rfl, rfl⟩⟩

/-- A failed validation whose candidate is proven to be back. -/
theorem failed_validation_discards :
    ∃ store' settled, Runs storeWorld (stagedStore .validated)
        (abandonFailedApply (failedApply .candidateNotCommitted))
        (⟨.bare .release, true⟩ :: (discardsOperation ++ failsChangeSet)) () store' ∧
      store'.operations "01".toList = some settled ∧ settled.state = .discarded ∧
      ∃ changeSet, store'.changeSets "c1".toList "vsrx-ci".toList = some changeSet ∧
        changeSet.state = .failed := by
  have fails : Runs storeWorld discardedStore (settleChangeSet "c1".toList "vsrx-ci".toList)
      failsChangeSet () (discardedStore.putChangeSet (changeSetIn .failed)) :=
    fails_changeSet (stagedStore_changeSet .validated)
  have run : Runs storeWorld (stagedStore .validated)
      (abandonFailedApply (failedApply .candidateNotCommitted))
      (⟨.bare .release, true⟩ :: (discardsOperation ++ failsChangeSet)) ()
      (discardedStore.putChangeSet (changeSetIn .failed)) :=
    runs_request.mpr ⟨true, _, _, rfl, rfl,
      runs_bind.mpr ⟨_, _, _, _, rfl, discards_operation, fails⟩⟩
  obtain ⟨failed, ⟨settled, found, settles⟩, _⟩ :=
    failed_apply_settled (stagedStore_operation .validated) run
  have passed : ProbesPassed "sha256:aa".toList
      (⟨.bare .release, true⟩ :: (discardsOperation ++ failsChangeSet)) := ⟨rfl, rfl, rfl⟩
  exact ⟨_, settled, run, found, (settles.discarded rfl).mpr (.inr ⟨rfl, passed, .inl rfl⟩),
    failed rfl⟩

end JunosMcp.ChangeSet
