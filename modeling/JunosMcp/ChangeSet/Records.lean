import JunosMcp.JunosTransaction
import Mathlib.Logic.Function.Basic

/-!
# Records of a change set

What the coordinator keeps of a change set and its operation, and the calls the change-set tools
make on the coordinator and on the staged transaction. The coordinator is a package of its own:
its store keeps what it is given, and what its longer calls do is a parameter.
-/

namespace JunosMcp.ChangeSet
open Lib

/-! ## Records -/

/-- The states this server names; `other` stands for the rest. -/
inductive LifecycleState where
  | validated
  | committing
  | committed
  | discarded
  | indeterminate
  | failed
  | other
  deriving DecidableEq

def LifecycleState.terminal : LifecycleState → Bool
  | .committed | .discarded => true
  | _ => false

structure OperationRecord where
  id : Text
  owner : Text
  device : Text
  current : Text
  state : LifecycleState
  details : Option Text
  configLockHeld : Bool
  rollbackDeadlineUnix : Option Nat
  deriving DecidableEq

inductive ChangeSetState where
  | planned
  | approved
  | applied
  | failed
  | other
  deriving DecidableEq

/-- The approver is absent when the approval was waived. -/
structure ApprovalRecord where
  approver : Option Text
  waived : Bool
  deriving DecidableEq

/-- A stored action is a JSON value; it stands here as `from_value` reads it. -/
structure ChangeSetRecord where
  id : Text
  owner : Text
  device : Text
  actions : List (Except Text JunosAction)
  state : ChangeSetState
  approval : Option ApprovalRecord

/-- Operations by id, change sets by id and device. -/
structure Store where
  operations : Text → Option OperationRecord
  changeSets : Text → Text → Option ChangeSetRecord
  operationNamed : ∀ {id : Text} {record : OperationRecord}, operations id = some record →
    record.id = id
  changeSetNamed : ∀ {id device : Text} {record : ChangeSetRecord},
    changeSets id device = some record → record.id = id ∧ record.device = device

def Store.putOperation (store : Store) (record : OperationRecord) : Store where
  operations := Function.update store.operations record.id (some record)
  changeSets := store.changeSets
  operationNamed {id found} stored := by
    by_cases same : id = record.id
    · subst same
      simp only [Function.update_self, Option.some.injEq] at stored
      rw [← stored]
    · rw [Function.update_of_ne same] at stored
      exact store.operationNamed stored
  changeSetNamed := store.changeSetNamed

def Store.putChangeSet (store : Store) (record : ChangeSetRecord) : Store where
  operations := store.operations
  changeSets id device :=
    if id = record.id ∧ device = record.device then some record else store.changeSets id device
  operationNamed := store.operationNamed
  changeSetNamed {id device found} stored := by
    split at stored
    · rename_i same
      cases stored
      exact ⟨same.1.symm, same.2.symm⟩
    · exact store.changeSetNamed stored

def Store.empty : Store where
  operations _ := none
  changeSets _ _ := none
  operationNamed := nofun
  changeSetNamed := nofun

section Store
variable (store : Store) (record : OperationRecord) (changeSet : ChangeSetRecord)

@[simp] theorem putOperation_same :
    (store.putOperation record).operations record.id = some record := by
  simp [Store.putOperation]

@[simp] theorem putChangeSet_same :
    (store.putChangeSet changeSet).changeSets changeSet.id changeSet.device = some changeSet := by
  simp [Store.putChangeSet]

@[simp] theorem putChangeSet_operations :
    (store.putChangeSet changeSet).operations = store.operations := rfl

end Store

/-! ## Calls -/

structure Attribution where
  principal : Text
  changeSetId : Option Text
  approver : Option Text
  deriving DecidableEq

structure StageRequest where
  changeSetId : Text
  device : Text
  endpoint : Text
  principal : Text
  expectedDigest : Text
  expectedFingerprint : Text
  primaryAction : Text
  configAuthority : Option Text
  attribution : Attribution
  deriving DecidableEq

structure ApplyOutput where
  operationId : Text
  afterFingerprint : Text
  deriving DecidableEq

/-- The operation a coordinator call is about, and the candidate it expects. -/
structure OperationKey where
  operationId : Text
  device : Text
  principal : Text
  afterFingerprint : Text
  deriving DecidableEq

/-- The outcome `commit_operation` hands on. -/
inductive OperationOutcome where
  | reconciled (succeeded : Bool) (details : Option Text)
  | indeterminate (reason : Text)
  | detached (jobId : Text)
  | awaitingConfirmation (rollbackDeadlineUnix : Nat) (details : Option Text)
  deriving DecidableEq

inductive UnlockOutcome where
  | released
  | other
  deriving DecidableEq

/-- Calls on the coordinator, on the staged handle and on the transaction behind it. -/
inductive ApplyCall where
  | applyChangeSet (request : StageRequest)
  | diffOperation (key : OperationKey)
  | validateOperation (key : OperationKey)
  | commitOperation (key : OperationKey) (policySignature : Text) (attribution : Attribution)
      (confirmTimeout : Option Duration)
  | release
  | lock (comment : Text)
  | fingerprint
  | unlock
  | record (operationId principal device : Text)
  | update (record : OperationRecord)
  | changeSet (changeSetId device : Text)
  | updateChangeSet (record : ChangeSetRecord)

/-- The coordinator's errors are only ever printed. -/
def ApplyCall.Reply : ApplyCall → Type
  | .applyChangeSet _ => Except Text ApplyOutput
  | .diffOperation _ => Except Text Text
  | .validateOperation _ => Except Text JunosValidation
  | .commitOperation .. => Except Text OperationOutcome
  | .release => Bool
  | .lock _ => Except JmcpError Unit
  | .fingerprint => Except JmcpError Text
  | .unlock => Except JmcpError UnlockOutcome
  | .record .. => Except Text OperationRecord
  | .update _ => Except Text Unit
  | .changeSet .. => Except Text ChangeSetRecord
  | .updateChangeSet _ => Except Text Unit

abbrev ApplyOp := Await ApplyCall

abbrev ApplyRes := Await.Res ApplyCall.Reply

abbrev ApplyEvent := Σ op, ApplyRes op

abbrev ApplyTrace := Trace ApplyOp ApplyRes

abbrev ApplyProg (α : Type) := Prog ApplyOp ApplyRes α

def request (call : ApplyCall) : ApplyProg call.Reply := .step (.bare call) .pure

/-! ## The store's answers -/

/-- A record that is served is the stored one, a write that is accepted is stored, and a refusal
changes nothing. The coordinator's longer calls are no calls on its store. -/
def storeEffect (store : Store) : (call : ApplyCall) → Option call.Reply → Store → Prop
  | .record operationId principal device, some (.ok record), store' =>
      store' = store ∧ store.operations operationId = some record ∧ record.owner = principal ∧
        record.device = device
  | .record .., _, store' => store' = store
  | .update record, some (.ok _), store' => store' = store.putOperation record
  | .update _, some (.error _), store' => store' = store
  | .update record, none, store' => store' = store ∨ store' = store.putOperation record
  | .changeSet changeSetId device, some (.ok record), store' =>
      store' = store ∧ store.changeSets changeSetId device = some record
  | .changeSet .., _, store' => store' = store
  | .updateChangeSet record, some (.ok _), store' => store' = store.putChangeSet record
  | .updateChangeSet _, some (.error _), store' => store' = store
  | .updateChangeSet record, none, store' => store' = store ∨ store' = store.putChangeSet record
  | .release, _, store' | .lock _, _, store' | .fingerprint, _, store' | .unlock, _, store' =>
      store' = store
  | .applyChangeSet _, _, _ | .diffOperation _, _, _ | .validateOperation _, _, _
  | .commitOperation .., _, _ => False

def storeWorld : World ApplyOp ApplyRes Store := Await.world storeEffect

/-- Calls on the staged handle and on the transaction. -/
def ApplyCall.OnDevice : ApplyCall → Prop
  | .release | .lock _ | .fingerprint | .unlock => True
  | _ => False

theorem ApplyCall.OnDevice.keeps {call : ApplyCall} (device : call.OnDevice)
    {reply : Option call.Reply} {store store' : Store} (here : storeEffect store call reply store') :
    store' = store := by
  cases call with
  | release => exact here
  | lock comment => exact here
  | fingerprint => exact here
  | unlock => exact here
  | _ => exact device.elim

theorem runs_probe {α : Type} {store store' : Store} {call : ApplyCall}
    {next : Timed call.Reply → ApplyProg α} {trace : ApplyTrace} {value : α}
    (run : Runs storeWorld store (.step (.timed call) next) trace value store')
    (device : call.OnDevice) :
    ∃ reply rest, trace = ⟨.timed call, reply⟩ :: rest ∧
      Runs storeWorld store (next reply) rest value store' := by
  obtain ⟨reply, rest, middle, rfl, here, later⟩ := runs_step.mp run
  have same : middle = store := by
    rcases Await.world_answered here with same | ⟨called, seen, shown, here⟩
    · exact same
    · cases shown.sends
      exact device.keeps here
  subst same
  exact ⟨reply, rest, rfl, later⟩

theorem runs_request {α σ : Type} {effect : Await.Effect ApplyCall ApplyCall.Reply σ} {s s' : σ}
    {call : ApplyCall} {next : call.Reply → ApplyProg α} {trace : ApplyTrace} {value : α} :
    Runs (Await.world effect) s ((request call).bind next) trace value s' ↔
      ∃ reply rest middle, trace = ⟨.bare call, reply⟩ :: rest ∧
        effect s call (some reply) middle ∧
        Runs (Await.world effect) middle (next reply) rest value s' := runs_step

end JunosMcp.ChangeSet
