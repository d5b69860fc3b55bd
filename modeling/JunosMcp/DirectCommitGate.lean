import JunosMcp.PlaneOwned
import JunosMcp.Server

/-!
# What the gate leaves

What a call can still send when direct commits are off. Each handler puts the gate in its own place,
so there is one lemma a handler.
-/

namespace JunosMcp
open Lib ChangeSet

/-! ## The calls that are left -/

/-- No transaction commits on its own, an upgrade only looks, and no change set is waived, applied or
written back. -/
def LeftOpen (request : ToolRequest) : ServerCall → Prop
  | .tool (.transaction _ asked _) => asked.mode.commits = false
  | .tool (.cli _ command) => ∀ upgrade, request = .upgradeJunos upgrade → Upgrade.Shows command
  | .review (.waiveApproval ..) => False
  | .apply (.applyChangeSet _) | .apply (.commitOperation ..) | .apply (.updateChangeSet _) => False
  | _ => True

def SendsOpen (request : ToolRequest) (op : ServerOp) : Prop :=
  ∀ call, op.sends = some call → LeftOpen request call

section Parts
variable {request : ToolRequest} {α : Type}

/-- A program under other names sends what its own calls are named. -/
theorem renamed_open {Call : Type} {Reply : Call → Type} {name : Call → ServerCall}
    {read : ∀ call, (name call).Reply → Reply call} {program : Prog (Await Call) (Await.Res Reply) α}
    (performs : program.Performs fun op =>
      ∀ call, op.sends = some call → LeftOpen request (name call)) :
    (program.relabel (Await.rename name) (Await.readAnswer name read)).Performs
      (SendsOpen request) := by
  apply Prog.Performs.relabel
  apply performs.mono
  intro op sent call sends
  cases op with
  | ensureActive => cases sends
  | bare inner => cases sends; exact sent inner rfl
  | timed inner => cases sends; exact sent inner rfl
  | raced inner => cases sends; exact sent inner rfl

theorem onConfirm_open (program : ConfirmProg α) :
    (onConfirm program).Performs (SendsOpen request) :=
  renamed_open ((Prog.performs_any program).mono fun _ _ _ _ => trivial)

/-- A program that harms no device. -/
theorem harmless_open {program : ToolProg α} (notUpgrade : ∀ upgrade, request ≠ .upgradeJunos upgrade)
    (harmless : ∀ device, program.Performs (Harmless device)) :
    (onTools program).Performs (SendsOpen request) := by
  apply renamed_open
  apply (Prog.performs_all harmless).mono
  intro op quiet call sends
  cases call with
  | transaction device asked timeout =>
      have here := quiet device
      cases op with
      | ensureActive => cases sends
      | bare inner => cases sends; exact here rfl
      | timed inner => cases sends; exact here rfl
      | raced inner => cases sends; exact here rfl
  | cli device command => exact fun upgrade same => absurd same (notUpgrade upgrade)
  | _ => trivial

theorem after_open {checks : Except CallError α} {program : α → HandlerProg}
    (performs : ∀ value, checks = .ok value →
      (program value).Performs (SendsOpen request)) :
    (after checks program).Performs (SendsOpen request) := by
  cases checks with
  | error error => trivial
  | ok value => exact performs value rfl

theorem reported_open {report : α → ToolReport} {program : ServerProg (Except JmcpError α)}
    (performs : program.Performs (SendsOpen request)) :
    (reported report program).Performs (SendsOpen request) := by
  apply performs.bind
  intro result
  cases result <;> trivial

end Parts

/-! ## Handlers -/

section Handlers
variable {handler : JmcpHandler} (closed : handler.allowDirectCommit = false)
  {ctx : Option CallerCtx} {request : ToolRequest}

include closed in
/-- Behind the gate nothing runs. -/
theorem not_gated {checks : Except CallError Unit} {value : Unit} :
    (checks >>= fun _ => handler.checkDirectCommit) ≠ .ok value := by
  intro ok
  obtain ⟨_, _, ok⟩ := bind_eq_ok.mp ok
  rw [JmcpHandler.checkDirectCommit, closed] at ok
  cases ok

include closed in
theorem gated_when {checks : Except CallError Unit} {asked : Bool} {value : Unit}
    (ok : (checks >>= fun _ => if asked then handler.checkDirectCommit else .ok ()) = .ok value) :
    asked = false := by
  cases asked with
  | false => rfl
  | true => exact absurd ok (not_gated closed)

include closed in
theorem loadAndCommitConfig_open (args : LoadCommitArgs) :
    (loadAndCommitConfigHandler handler ctx args).Performs (SendsOpen request) :=
  after_open fun _ ok => absurd ok (not_gated closed)

include closed in
theorem confirmCommit_open (args : ConfirmCommitArgs) :
    (confirmCommitHandler handler ctx args).Performs (SendsOpen request) :=
  after_open fun _ ok => absurd ok (not_gated closed)

theorem commitCheckConfig_open (args : CommitCheckArgs) :
    (commitCheckConfigHandler handler ctx args).Performs
      (SendsOpen (.commitCheckConfig args)) := by
  apply after_open
  intro _ _
  apply reported_open
  refine harmless_open (fun upgrade same => ToolRequest.noConfusion same) ?_
  intro device
  rw [commitCheckConfig]
  cases asked : commitCheckRequest handler.toToolContext args with
  | error error => trivial
  | ok candidate =>
      have mode := commitCheckRequest_mode asked
      refine ⟨fun _ => by rw [mode]; rfl, ?_⟩
      intro reply
      cases reply with
      | error error => trivial
      | ok result => cases result <;> trivial

theorem discardCandidate_open (args : DiscardCandidateArgs) :
    (discardCandidateHandler handler ctx args).Performs
      (SendsOpen (.discardCandidate args)) := by
  apply after_open
  intro _ _
  apply reported_open
  refine harmless_open (fun upgrade same => ToolRequest.noConfusion same) ?_
  intro device
  rw [discardCandidate]
  cases handler.inventory args.device with
  | error error => trivial
  | ok entry =>
      refine ⟨fun _ => rfl, ?_⟩
      intro reply
      cases reply with
      | error error => trivial
      | ok result => cases result <;> trivial

/-- A preview of a rollback commits nothing. -/
theorem rollback_preview {context : ToolContext} {args : RollbackConfigArgs}
    (preview : args.commit = false) (device : Text) :
    (rollbackConfig context args).Performs (Harmless device) := by
  rw [rollbackConfig]
  cases planned : rollbackPlan context args with
  | error error => trivial
  | ok plan =>
      obtain ⟨entry, version, mode, _, asked, _, dry⟩ := rollbackPlan_ok planned
      refine ⟨fun _ => by rw [asked, (dry preview).1]; rfl, ?_⟩
      intro reply
      cases reply with
      | error error => trivial
      | ok result =>
          cases result with
          | committed diff => exact (noticeFor_harmless plan.confirmed).bind fun _ => trivial
          | _ => trivial

include closed in
theorem rollbackConfig_open (args : RollbackConfigArgs) :
    (rollbackConfigHandler handler ctx args).Performs
      (SendsOpen (.rollbackConfig args)) := by
  apply after_open
  intro _ ok
  apply reported_open
  exact harmless_open (fun upgrade same => ToolRequest.noConfusion same)
    (rollback_preview (gated_when closed ok))

include closed in
theorem renderAndApplyTemplate_open (args : TemplateArgs) :
    (renderAndApplyTemplateHandler handler ctx args).Performs
      (SendsOpen (.renderAndApplyTemplate args)) := by
  apply after_open
  intro _ ok
  have preview := gated_when closed ok
  apply reported_open
  refine harmless_open (fun upgrade same => ToolRequest.noConfusion same) ?_
  intro device
  apply template_harmless
  rintro ⟨apply, wet, _⟩
  rw [apply, wet] at preview
  cases preview

theorem evaluatePreflight_unconfirmed {parseF64Scaled : Text → Nat → Option Nat}
    {facts : Upgrade.PreflightFacts} {args : Upgrade.UpgradeJunosArgs}
    (unconfirmed : args.confirm = false) :
    Upgrade.evaluatePreflight parseF64Scaled facts args ≠ .proceed := by
  rw [Upgrade.evaluatePreflight, unconfirmed]
  split
  · rintro ⟨⟩
  · split
    · rintro ⟨⟩
    · split
      · rintro ⟨⟩
      · split
        · rintro ⟨⟩
        · split
          · rintro ⟨⟩
          · split <;> rintro ⟨⟩

/-- The preflight only looks. -/
theorem upgrade_preflight {context : Upgrade.UpgradeContext} {upgrade : Upgrade.UpgradeRequest}
    (unconfirmed : upgrade.confirm = false) (badByte : Text → Text) :
    (Upgrade.upgradeJunos context upgrade badByte).Performs
      (Upgrade.Sends Upgrade.Shows upgrade.device) := by
  have refused (facts : Upgrade.PreflightFacts) :
      Upgrade.preflightDecision context upgrade facts ≠ .proceed :=
    evaluatePreflight_unconfirmed unconfirmed
  have dispatched (localSize : Nat) (facts : Upgrade.PreflightFacts) (warning : Option Text) :
      (Upgrade.dispatchPreflight context upgrade localSize facts warning).Performs
        (Upgrade.Sends Upgrade.Shows upgrade.device) := by
    rw [Upgrade.dispatchPreflight]
    cases decision : Upgrade.preflightDecision context upgrade facts with
    | proceed => exact absurd decision (refused facts)
    | _ => trivial
  have checked (warning : Option Text) :
      (Upgrade.upgradeChecked context upgrade warning).Performs
        (Upgrade.Sends Upgrade.Shows upgrade.device) := by
    refine ⟨trivial, fun kind => ?_⟩
    refine Upgrade.orFail_performs trivial fun _ => ?_
    refine Upgrade.orFail_performs ⟨trivial, fun _ => trivial⟩ fun localSize => ?_
    apply Upgrade.orFail_performs (Upgrade.gatherFacts_sends Upgrade.factCommands_show)
    intro facts
    exact dispatched localSize facts warning
  refine ⟨trivial, fun activity => ?_⟩
  cases activity with
  | cancelled => trivial
  | active => exact Upgrade.orFail_performs trivial checked
  | expired => exact Upgrade.orFail_performs trivial checked

include closed in
theorem upgradeJunos_open (upgrade : Upgrade.UpgradeRequest) :
    (upgradeJunosHandler handler ctx upgrade).Performs
      (SendsOpen (.upgradeJunos upgrade)) := by
  apply after_open
  intro _ ok
  have unconfirmed := gated_when closed ok
  refine Prog.Performs.bind (renamed_open ?_) fun _ => trivial
  apply (upgrade_preflight unconfirmed handler.badByte).mono
  intro op looks call sends
  have looks : Upgrade.Sends Upgrade.Shows upgrade.device (.bare call) := by
    cases op with
    | ensureActive => cases sends
    | bare inner => cases sends; exact looks
    | timed inner => cases sends; exact looks
    | raced inner => cases sends; exact looks
  cases call with
  | transaction device asked timeout => exact looks.elim
  | cli device command => exact fun _ _ => looks.2
  | _ => trivial

/-! ## Change sets -/

theorem approveChangeSet_open (args : ApproveChangeSetArgs) :
    (approveChangeSetHandler handler ctx args).Performs
      (SendsOpen (.approveChangeSet args)) := by
  apply after_open
  intro caller _
  apply reported_open
  apply renamed_open
  rw [approveChangeSet]
  cases handler.inventory args.device with
  | error error => trivial
  | ok _ =>
      refine ⟨fun call sends => by cases sends; trivial, ?_⟩
      intro reply
      cases reply <;> trivial

theorem cancelChangeSet_open (args : CancelChangeSetArgs) :
    (cancelChangeSetHandler handler ctx args).Performs
      (SendsOpen (.cancelChangeSet args)) := by
  apply after_open
  intro caller _
  apply reported_open
  apply renamed_open
  rw [cancelChangeSet]
  cases handler.inventory args.device with
  | error error => trivial
  | ok _ =>
      refine ⟨fun call sends => by cases sends; trivial, ?_⟩
      intro reply
      cases reply <;> trivial

theorem confirmChangeSet_open (args : ConfirmChangeSetArgs) :
    (confirmChangeSetHandler handler ctx args).Performs
      (SendsOpen (.confirmChangeSet args)) :=
  after_open fun _ _ => reported_open (onConfirm_open _)

theorem other_open (tool : OtherTool) :
    (reported .other tool.program).Performs (SendsOpen (.other tool)) := by
  apply reported_open
  apply tool.reads.mono
  intro op reads call sends
  have here := reads call sends
  cases call with
  | tool inner =>
      cases inner with
      | transaction device asked timeout => exact here.elim
      | cli device command => exact nofun
      | _ => trivial
  | review inner => exact here.elim
  | apply inner =>
      cases inner with
      | applyChangeSet staged => exact here.elim
      | commitOperation key signature attribution timeout => exact here.elim
      | updateChangeSet record => exact here.elim
      | _ => trivial
  | confirm inner => trivial

/-- A change set is planned or applied. -/
def ToolRequest.Plans : ToolRequest → Prop
  | .createChangeSet _ | .applyChangeSet _ => True
  | _ => False

include closed in
/-- Whatever else the request is, its handler sends only what the gate leaves. -/
theorem handle_open {request : ToolRequest} (plain : ¬request.Plans) :
    (handle handler ctx request).Performs (SendsOpen request) := by
  cases request with
  | loadAndCommitConfig args => exact loadAndCommitConfig_open closed args
  | commitCheckConfig args => exact commitCheckConfig_open args
  | discardCandidate args => exact discardCandidate_open args
  | rollbackConfig args => exact rollbackConfig_open closed args
  | confirmCommit args => exact confirmCommit_open closed args
  | renderAndApplyTemplate args => exact renderAndApplyTemplate_open closed args
  | upgradeJunos upgrade => exact upgradeJunos_open closed upgrade
  | createChangeSet args => exact absurd trivial plain
  | approveChangeSet args => exact approveChangeSet_open args
  | cancelChangeSet args => exact cancelChangeSet_open args
  | applyChangeSet args => exact absurd trivial plain
  | confirmChangeSet args => exact confirmChangeSet_open args
  | other tool => exact other_open tool

end Handlers

end JunosMcp
