import JunosMcp.ChangeSet.Abandon
import JunosMcp.PlaneOwned
import JunosMcp.Session.Staging

/-!
# Transactions on a device

Which RPCs a session sends under each tool that works on a configuration: a transaction that is not
to commit sends no commit, a confirming commit loads nothing, and what a change set loads are its
own actions.
-/

namespace JunosMcp
open Lib ChangeSet

/-! ## Loads and commits -/

def Rpc.Loads : Rpc → Prop
  | .load .. | .rollback _ => True
  | _ => False

def Rpc.Commits : Rpc → Prop
  | .commitWithComment _ | .commitConfirmed _ | .confirmedCommitXml _ => True
  | _ => False

def rpcOf (op : SessionOp) : Option Rpc :=
  match op.sends with
  | some (.device rpc) => some rpc
  | _ => none

/-- Every RPC the operation sends is one of these. -/
def Only (allowed : Rpc → Prop) (op : SessionOp) : Prop := ∀ rpc, rpcOf op = some rpc → allowed rpc

theorem NoWrite.only {op : SessionOp} (quiet : NoWrite op) :
    Only (fun rpc => ¬rpc.Loads ∧ ¬rpc.Commits) op := by
  intro rpc sent
  unfold NoWrite at quiet
  unfold rpcOf at sent
  split at sent
  · rename_i found sends
    cases sent
    rw [sends] at quiet
    cases rpc <;> first | exact quiet.elim | exact ⟨id, id⟩
  · cases sent

/-- The RPCs of a run of the program, as far as it came. -/
def Emits {α : Type} (program : SessionProg α) (rpcs : List Rpc) : Prop :=
  ∃ ops, Performed program ops ∧ rpcs = ops.filterMap rpcOf

theorem Emits.only {α : Type} {allowed : Rpc → Prop} {program : SessionProg α} {rpcs : List Rpc}
    (emits : Emits program rpcs) (performs : program.Performs (Only allowed)) :
    ∀ rpc ∈ rpcs, allowed rpc := by
  obtain ⟨ops, performed, rfl⟩ := emits
  intro rpc member
  obtain ⟨op, found, sent⟩ := List.mem_filterMap.mp member
  exact performed.allowed performs op found rpc sent

/-! ## The direct transaction -/

def BackendCall.Commits : BackendCall → Prop
  | .commitWithComment _ | .commitConfirmed _ => True
  | _ => False

/-- Operations of the transaction that send no commit. -/
def Uncommitted (op : BackendOp) : Prop := ∀ call, op.sends = some call → ¬call.Commits

section Direct
variable {operationTimeout cleanupTimeout : Duration}

theorem backendStep_uncommitted {call : BackendCall} (plain : ¬call.Commits) :
    (backendStep operationTimeout call).Performs Uncommitted := by
  have checked : (ensureActive operationTimeout : BackendProg _).Performs Uncommitted :=
    ⟨fun _ sends => (nomatch sends), fun _ => trivial⟩
  refine checked.andThen fun _ => ⟨?_, fun _ => trivial⟩
  intro sent sends
  cases sends
  exact plain

theorem cleanup_uncommitted (rollbackRequired : Bool) :
    (cleanup rollbackRequired cleanupTimeout).Performs Uncommitted := by
  have unlocked : Uncommitted (.timed .unlock) := by
    intro call sends
    cases sends
    exact id
  have reverted : Uncommitted (.timed .rollback) := by
    intro call sends
    cases sends
    exact id
  cases rollbackRequired with
  | true => exact ⟨reverted, fun _ => ⟨unlocked, fun _ => trivial⟩⟩
  | false => exact ⟨unlocked, fun _ => trivial⟩

theorem loadCandidate_uncommitted (request : CandidateRequest) :
    (loadCandidate request operationTimeout).Performs Uncommitted := by
  unfold loadCandidate
  split
  · exact backendStep_uncommitted id
  · split
    · exact backendStep_uncommitted id
    · trivial

theorem modeStep_uncommitted {mode : CandidateMode} (plain : mode.commits = false) (diff : Text) :
    (modeStep mode operationTimeout diff).Performs Uncommitted := by
  cases mode with
  | dryRun => trivial
  | commitCheck =>
      refine (backendStep_uncommitted id).bind fun reply => ?_
      cases reply with
      | ok _ => trivial
      | error error =>
          simp only
          split <;> trivial
  | commitWithComment comment => cases plain
  | commitConfirmed seconds => cases plain
  | discard => trivial

theorem execute_uncommitted {request : CandidateRequest} (plain : request.mode.commits = false) :
    (execute request operationTimeout cleanupTimeout).Performs Uncommitted := by
  unfold execute
  split
  · refine (backendStep_uncommitted id).bind fun reply => ?_
    cases reply <;> trivial
  · refine (backendStep_uncommitted id).bind fun reply => ?_
    cases reply with
    | error primary =>
        simp only
        split
        · exact (cleanup_uncommitted true).bind fun _ => trivial
        · trivial
    | ok _ =>
        have primary : (primaryOperation request operationTimeout).Performs Uncommitted := by
          refine (loadCandidate_uncommitted request).bind fun loaded => ?_
          cases loaded with
          | error error => trivial
          | ok _ =>
              refine (backendStep_uncommitted id).bind fun diff => ?_
              cases diff with
              | error error => trivial
              | ok diff => exact modeStep_uncommitted plain diff
        refine primary.bind fun outcome => ?_
        exact (cleanup_uncommitted _).bind fun _ => trivial

theorem Uncommitted.only {op : BackendOp} (plain : Uncommitted op) :
    Only (fun rpc => ¬rpc.Commits) (op.rename backendRpc) := by
  intro rpc sent
  have named {call : BackendCall} (sends : op.sends = some call)
      (same : backendRpc call = .device rpc) : ¬rpc.Commits := by
    have quiet := plain call sends
    cases call <;> cases same <;> exact quiet
  cases op with
  | ensureActive => cases sent
  | bare call => cases call <;> exact named rfl (by cases sent; rfl)
  | timed call => cases call <;> exact named rfl (by cases sent; rfl)
  | raced call => cases call <;> exact named rfl (by cases sent; rfl)

/-- A transaction that is not to commit sends no commit. -/
theorem runCandidate_uncommitted {request : CandidateRequest}
    (plain : request.mode.commits = false) :
    (runCandidate request operationTimeout cleanupTimeout).Performs
      (Only fun rpc => ¬rpc.Commits) := by
  have dropped : dropGuard.Performs (Only fun rpc => ¬rpc.Commits) :=
    dropGuard_performs.mono fun _ quiet rpc sent => (quiet.only rpc sent).2
  refine ⟨fun _ sent => (nomatch sent), fun _ => ?_⟩
  refine ⟨fun _ sent => by cases sent; exact id, fun config => ?_⟩
  cases config with
  | error error => exact dropped
  | ok _ =>
      have executed : (executeOnSession request operationTimeout cleanupTimeout).Performs
          (Only fun rpc => ¬rpc.Commits) := by
        apply Prog.Performs.relabel
        exact (execute_uncommitted plain).mono fun _ => Uncommitted.only
      refine executed.bind fun execution => ?_
      cases execution.reusable with
      | true => exact ⟨fun _ sent => (nomatch sent), fun _ => dropped⟩
      | false => exact ⟨fun _ sent => by cases sent; exact id, fun _ => trivial⟩

end Direct

/-! ## The confirming commit -/

theorem confirmCommit_loads_nothing (comment : Text) :
    (confirmCommit comment).Performs (Only fun rpc => ¬rpc.Loads) := by
  refine ⟨fun _ sent => by cases sent; exact id, fun config => ?_⟩
  cases config with
  | error error => trivial
  | ok _ =>
      refine ⟨fun _ sent => by cases sent; exact id, fun reply => ?_⟩
      have closed : closeInPlace.Performs (Only fun rpc => ¬rpc.Loads) :=
        closeInPlace_performs.mono fun _ quiet rpc sent => (quiet.only rpc sent).1
      exact closed.bind fun _ => trivial

/-! ## A change set's session -/

/-- What runs for a change set that is being applied, one method of the transaction at a time. -/
inductive ApplyMethod (cleanupTimeout : Duration) (actions : List JunosAction) :
    SessionProg Place → Prop where
  | stage {resolved : List ResolvedAction} : resolveActions actions = .ok resolved →
      ApplyMethod cleanupTimeout actions
        (endIn (stageOpened cleanupTimeout resolved) (keepIn .staged))
  | stageLocked {resolved : List ResolvedAction} : resolveActions actions = .ok resolved →
      ApplyMethod cleanupTimeout actions
        (endIn (stageLocked cleanupTimeout resolved) (keepIn .staged))
  | validate : ApplyMethod cleanupTimeout actions (thenDo validateStaged (keepIn .staged))
  | commit (now : Nat) (confirmTimeout : Option Duration) (comment : Text) :
      ApplyMethod cleanupTimeout actions
        (thenDo (commitStaged cleanupTimeout now confirmTimeout comment) (keepIn .staged))
  | revert : ApplyMethod cleanupTimeout actions (thenDo candidateRevert dropGuard)
  | archive (version : Nat) :
      ApplyMethod cleanupTimeout actions (thenDo (archiveRollback cleanupTimeout version) dropGuard)
  | settle {called : ApplyCall} {program : SessionProg Place} :
      called.OnSession cleanupTimeout program → ApplyMethod cleanupTimeout actions program

/-- The RPCs from the lock on. -/
inductive ApplySession (cleanupTimeout : Duration) (actions : List JunosAction) : List Rpc → Prop where
  | opened : ApplySession cleanupTimeout actions []
  | method {program : SessionProg Place} {before rpcs : List Rpc} :
      ApplySession cleanupTimeout actions before → ApplyMethod cleanupTimeout actions program →
      Emits program rpcs → ApplySession cleanupTimeout actions (before ++ rpcs)

/-- A load is one of the actions. -/
def LoadOf (actions : List ResolvedAction) (rpc : Rpc) : Prop :=
  ∀ payload action, rpc = .load payload action → .load payload action ∈ actions

section Loads
variable {cleanupTimeout : Duration} {resolved : List ResolvedAction} {α : Type}

theorem NoWrite.loadOf {program : SessionProg α} (performs : program.Performs NoWrite) :
    program.Performs (Only (LoadOf resolved)) := by
  apply performs.mono
  intro op quiet rpc sent payload action same
  have plain := (quiet.only rpc sent).1
  rw [same] at plain
  exact absurd trivial plain

theorem loadAction_loadOf {action : ResolvedAction} (member : action ∈ resolved) :
    (loadAction action).Performs (Only (LoadOf resolved)) := by
  cases action with
  | rollback version =>
      refine ⟨?_, fun _ => trivial⟩
      intro rpc sent payload action same
      cases sent
      cases same
  | load payload action =>
      refine ⟨?_, fun _ => trivial⟩
      intro rpc sent payload action same
      cases sent
      cases same
      exact member

theorem loadActions_loadOf {loaded : Nat} {actions : List ResolvedAction}
    (planned : ∀ action ∈ actions, action ∈ resolved) :
    (loadActions loaded actions).Performs (Only (LoadOf resolved)) := by
  induction actions generalizing loaded with
  | nil => trivial
  | cons action rest ih =>
      have later : ∀ action ∈ rest, action ∈ resolved :=
        fun found member => planned found (List.mem_cons_of_mem _ member)
      refine (loadAction_loadOf (planned action List.mem_cons_self)).bind fun reply => ?_
      cases reply with
      | ok _ => exact ih later
      | error error => trivial

theorem call_loadOf (rpc : Rpc) (plain : ∀ payload action, rpc ≠ .load payload action) :
    (call rpc).Performs (Only (LoadOf resolved)) := by
  refine ⟨?_, fun _ => trivial⟩
  intro found sent payload action same
  cases sent
  exact absurd same (plain payload action)

theorem loadAndDiff_loadOf :
    (loadAndDiff cleanupTimeout resolved).Performs (Only (LoadOf resolved)) := by
  refine (loadActions_loadOf fun _ member => member).bind fun outcome => ?_
  obtain ⟨loaded, failure⟩ := outcome
  cases failure with
  | some error =>
      have reverted : (revertLoaded loaded).Performs (Only (LoadOf resolved)) := by
        unfold revertLoaded
        split
        · refine (call_loadOf (.rollback 0) nofun).bind fun reply => ?_
          cases reply <;> trivial
        · trivial
      refine reverted.bind fun revert => ?_
      exact (NoWrite.loadOf (releaseLock_performs cleanupTimeout)).bind fun _ => trivial
  | none =>
      refine (call_loadOf .diff nofun).bind fun diff => ?_
      cases diff <;> trivial

theorem stageOpened_loadOf :
    (stageOpened cleanupTimeout resolved).Performs (Only (LoadOf resolved)) := by
  refine (NoWrite.loadOf lockSession_performs).bind fun locked => ?_
  cases locked with
  | error error => trivial
  | ok _ => exact loadAndDiff_loadOf

theorem stageLocked_loadOf :
    (stageLocked cleanupTimeout resolved).Performs (Only (LoadOf resolved)) := by
  refine (call_loadOf .config nofun).bind fun config => ?_
  cases config with
  | error error => trivial
  | ok _ => exact loadAndDiff_loadOf

theorem validateStaged_loadOf : validateStaged.Performs (Only (LoadOf resolved)) := by
  refine (call_loadOf .config nofun).bind fun config => ?_
  cases config with
  | error error => trivial
  | ok _ =>
      refine (call_loadOf .commitCheck nofun).bind fun reply => ?_
      cases reply with
      | ok _ => trivial
      | error error =>
          simp only
          split <;> trivial

theorem commitStaged_loadOf {now : Nat} {confirmTimeout : Option Duration} {comment : Text} :
    (commitStaged cleanupTimeout now confirmTimeout comment).Performs
      (Only (LoadOf resolved)) := by
  unfold commitStaged
  split
  · refine (call_loadOf .config nofun).bind fun config => ?_
    cases config with
    | error error => trivial
    | ok _ =>
        refine (call_loadOf (.commitWithComment _) nofun).bind fun reply => ?_
        cases reply with
        | error error => trivial
        | ok _ => exact (NoWrite.loadOf (releaseLock_performs cleanupTimeout)).bind fun _ => trivial
  · split
    · trivial
    · refine (call_loadOf .config nofun).bind fun config => ?_
      cases config with
      | error error => trivial
      | ok _ =>
          refine (call_loadOf (.confirmedCommitXml _) nofun).bind fun reply => ?_
          cases reply with
          | ok _ => exact ⟨fun _ sent => (nomatch sent), fun _ => trivial⟩
          | error error =>
              simp only
              split <;> trivial

theorem dropped_loadOf : dropGuard.Performs (Only (LoadOf resolved)) :=
  NoWrite.loadOf dropGuard_performs

theorem revertAndRelease_loadOf :
    (revertAndRelease cleanupTimeout).Performs (Only (LoadOf resolved)) := by
  refine (call_loadOf (.rollback 0) nofun).bind fun _ => ?_
  exact (NoWrite.loadOf (releaseLock_performs cleanupTimeout)).bind fun _ => trivial

theorem archiveRollback_loadOf (version : Nat) :
    (archiveRollback cleanupTimeout version).Performs (Only (LoadOf resolved)) := by
  refine (NoWrite.loadOf lockSession_performs).bind fun locked => ?_
  cases locked with
  | error error => trivial
  | ok _ =>
      refine (call_loadOf (.rollback version) nofun).bind fun reply => ?_
      cases reply with
      | error error => exact revertAndRelease_loadOf.bind fun _ => trivial
      | ok _ =>
          refine (call_loadOf (.commitWithComment _) nofun).bind fun reply => ?_
          cases reply with
          | ok _ => exact (NoWrite.loadOf (releaseLock_performs cleanupTimeout)).bind fun _ => trivial
          | error error => exact revertAndRelease_loadOf.bind fun _ => trivial

theorem candidateRevert_loadOf : candidateRevert.Performs (Only (LoadOf resolved)) := by
  refine (call_loadOf .config nofun).bind fun config => ?_
  cases config with
  | error error => trivial
  | ok _ =>
      refine (call_loadOf (.rollback 0) nofun).bind fun reply => ?_
      cases reply with
      | ok _ => trivial
      | error error =>
          simp only
          split <;> trivial

theorem kept_loadOf (place : Place) : (keepIn place).Performs (Only (LoadOf resolved)) :=
  NoWrite.loadOf (keepIn_performs place)

theorem staged_loadOf {staging : SessionProg (Except JmcpError α)}
    (performs : staging.Performs (Only (LoadOf resolved))) :
    (endIn staging (keepIn .staged)).Performs (Only (LoadOf resolved)) := by
  refine performs.bind fun staged => ?_
  cases staged with
  | ok _ => exact kept_loadOf .staged
  | error error => exact dropped_loadOf

/-- Only staging loads. -/
theorem ApplyMethod.loads {actions : List JunosAction} {program : SessionProg Place}
    (method : ApplyMethod cleanupTimeout actions program) :
    ∃ resolved, (resolved = [] ∨ resolveActions actions = .ok resolved) ∧
      program.Performs (Only (LoadOf resolved)) := by
  cases method with
  | stage ok => exact ⟨_, .inr ok, staged_loadOf stageOpened_loadOf⟩
  | stageLocked ok => exact ⟨_, .inr ok, staged_loadOf stageLocked_loadOf⟩
  | validate => exact ⟨[], .inl rfl, validateStaged_loadOf.bind fun _ => kept_loadOf .staged⟩
  | commit now confirmTimeout comment =>
      exact ⟨[], .inl rfl, commitStaged_loadOf.bind fun _ => kept_loadOf .staged⟩
  | revert => exact ⟨[], .inl rfl, candidateRevert_loadOf.bind fun _ => dropped_loadOf⟩
  | archive version =>
      exact ⟨[], .inl rfl, (archiveRollback_loadOf version).bind fun _ => dropped_loadOf⟩
  | settle runs => exact ⟨[], .inl rfl, NoWrite.loadOf runs.noWrite⟩

end Loads

/-- What a change set loads are its own actions. -/
theorem ApplySession.loads {cleanupTimeout : Duration} {actions : List JunosAction}
    {rpcs : List Rpc} {payload : ConfigPayload} {action : LoadAction}
    (session : ApplySession cleanupTimeout actions rpcs) (sent : .load payload action ∈ rpcs) :
    ∃ resolved, resolveActions actions = .ok resolved ∧ .load payload action ∈ resolved := by
  induction session with
  | opened => cases sent
  | method _ method emits ih =>
      rcases List.mem_append.mp sent with early | late
      · exact ih early
      · obtain ⟨resolved, source, performs⟩ := method.loads
        have member := emits.only performs _ late payload action rfl
        rcases source with rfl | ok
        · cases member
        · exact ⟨resolved, ok, member⟩

end JunosMcp
