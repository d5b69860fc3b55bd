import JunosMcp.PlaneOwned
import JunosMcp.SessionPool

/-!
# Confirm windows of the direct tools

The direct tools open their windows with the confirmed commit that is bound to the issuing session.
A reported deadline is honoured only if the pool leaves that session open until then.
-/

namespace JunosMcp
open Lib ChangeSet

/-! ## Reported windows -/

/-- The run reports a window on the device. -/
inductive DirectCommit.Reports (context : ToolContext) :
    DirectCommit → ToolTrace → Text → ConfirmNotice → Prop where
  | loadCommit {args : LoadCommitArgs} {trace : ToolTrace} {report : CommitReport}
      {notice : ConfirmNotice} :
      Returns (loadAndCommitConfig context args) trace (.ok report) → report.notice = some notice →
      Reports context (.loadCommit args) trace args.device notice
  | rollback {args : RollbackConfigArgs} {trace : ToolTrace} {report : CommitReport}
      {notice : ConfirmNotice} :
      Returns (rollbackConfig context args) trace (.ok report) → report.notice = some notice →
      Reports context (.rollback args) trace args.device notice
  | template {args : TemplateArgs} {trace : ToolTrace} {report : TemplateReport}
      {row : TemplateRow} {device : Text} {notice : ConfirmNotice} :
      Returns (renderAndApplyTemplate context args) trace (.ok report) → row ∈ report.results →
      row.router = some device → row.notice = some notice →
      Reports context (.template args) trace device notice

/-- A committed transaction of the trace opened the window, with the commit that is bound to its
session. -/
def OpensWindow (trace : ToolTrace) (device : Text) (notice : ConfirmNotice) : Prop :=
  ∃ mins now request timeout diff, notice = confirmNotice now mins ∧
    request.mode = .commitConfirmed (mins * 60) ∧
    (⟨.bare (.transaction device request timeout),
      (.ok (.committed diff) : Except JmcpError CandidateResult)⟩ : ToolEvent) ∈ trace

section Reports
variable {context : ToolContext} {trace : ToolTrace} {device : Text} {notice : ConfirmNotice}

/-- What a report's notice comes from. -/
def Noticed (confirmed : Option Nat) (reply : Except JmcpError CandidateResult)
    (notice : ConfirmNotice) : Prop :=
  ∃ diff mins now, reply = .ok (.committed diff) ∧ confirmed = some mins ∧
    notice = confirmNotice now mins

theorem reportLoadCommit_noticed {args : LoadCommitArgs} {plan : CommitPlan}
    {reply : Except JmcpError CandidateResult} {report : CommitReport}
    (returns : Returns (reportLoadCommit args plan reply) trace (.ok report))
    (noticed : report.notice = some notice) : Noticed plan.confirmed reply notice := by
  cases reply with
  | error error =>
      obtain ⟨_, same⟩ := returns_pure.mp returns
      cases same
  | ok result =>
      cases result with
      | committed diff =>
          obtain ⟨first, second, given, _, here, rest⟩ := returns_bind.mp returns
          obtain ⟨_, same⟩ := returns_pure.mp rest
          cases same
          cases noticed
          obtain ⟨mins, now, confirmed, rfl⟩ := noticeFor_some here
          exact ⟨diff, mins, now, rfl, confirmed, rfl⟩
      | commitFailed diff error =>
          obtain ⟨_, same⟩ := returns_pure.mp returns
          cases same
          cases noticed
      | _ =>
          obtain ⟨_, same⟩ := returns_pure.mp returns
          cases same

theorem loadCommit_opens {args : LoadCommitArgs} {report : CommitReport}
    (returns : Returns (loadAndCommitConfig context args) trace (.ok report))
    (noticed : report.notice = some notice) : OpensWindow trace args.device notice := by
  rw [loadAndCommitConfig] at returns
  cases planned : loadCommitPlan context args with
  | error error =>
      rw [planned] at returns
      obtain ⟨_, same⟩ := returns_pure.mp returns
      cases same
  | ok plan =>
      rw [planned] at returns
      obtain ⟨reply, rest, rfl, later⟩ := returns_step.mp returns
      obtain ⟨_, _, _, _, mode, _, _, _, _, window, request⟩ := loadCommitPlan_ok planned
      obtain ⟨diff, mins, now, rfl, confirmed, rfl⟩ := reportLoadCommit_noticed later noticed
      rw [confirmed] at window
      refine ⟨mins, now, plan.request, args.timeout, diff, rfl, ?_, List.mem_cons_self⟩
      rw [request]
      exact commitMode_window window

theorem reportRollback_noticed {args : RollbackConfigArgs} {plan : CommitPlan}
    {reply : Except JmcpError CandidateResult} {report : CommitReport}
    (returns : Returns (reportRollback args plan reply) trace (.ok report))
    (noticed : report.notice = some notice) : Noticed plan.confirmed reply notice := by
  cases reply with
  | error error =>
      obtain ⟨_, same⟩ := returns_pure.mp returns
      cases same
  | ok result =>
      cases result with
      | committed diff =>
          obtain ⟨first, second, given, _, here, rest⟩ := returns_bind.mp returns
          obtain ⟨_, same⟩ := returns_pure.mp rest
          cases same
          cases noticed
          obtain ⟨mins, now, confirmed, rfl⟩ := noticeFor_some here
          exact ⟨diff, mins, now, rfl, confirmed, rfl⟩
      | dryRun diff =>
          obtain ⟨_, same⟩ := returns_pure.mp returns
          cases same
          cases noticed
      | commitFailed diff error =>
          obtain ⟨_, same⟩ := returns_pure.mp returns
          cases same
          cases noticed
      | _ =>
          obtain ⟨_, same⟩ := returns_pure.mp returns
          cases same

theorem rollback_opens {args : RollbackConfigArgs} {report : CommitReport}
    (returns : Returns (rollbackConfig context args) trace (.ok report))
    (noticed : report.notice = some notice) : OpensWindow trace args.device notice := by
  rw [rollbackConfig] at returns
  cases planned : rollbackPlan context args with
  | error error =>
      rw [planned] at returns
      obtain ⟨_, same⟩ := returns_pure.mp returns
      cases same
  | ok plan =>
      rw [planned] at returns
      obtain ⟨reply, rest, rfl, later⟩ := returns_step.mp returns
      obtain ⟨_, version, mode, _, request, commits, preview⟩ := rollbackPlan_ok planned
      obtain ⟨diff, mins, now, rfl, confirmed, rfl⟩ := reportRollback_noticed later noticed
      refine ⟨mins, now, plan.request, args.timeout, diff, rfl, ?_, List.mem_cons_self⟩
      rw [request]
      cases commit : args.commit with
      | true =>
          obtain ⟨_, comment, window⟩ := commits commit
          rw [confirmed] at window
          exact commitMode_window window
      | false =>
          rw [(preview commit).2] at confirmed
          cases confirmed

theorem reportDevice_noticed {args : TemplateArgs} {plan : TemplatePlan} {target : Text}
    {confirmed : Option Nat} {reply : Except JmcpError CandidateResult} {row : TemplateRow}
    (returns : Returns (reportDevice args plan target confirmed reply) trace (.ok row)) :
    row.router = some target ∧ (row.notice = some notice → Noticed confirmed reply notice) := by
  cases reply with
  | error error =>
      cases error with
      | cancelled =>
          obtain ⟨_, same⟩ := returns_pure.mp returns
          cases same
      | _ =>
          obtain ⟨_, same⟩ := returns_pure.mp returns
          cases same
          exact ⟨rfl, nofun⟩
  | ok result =>
      cases result with
      | committed diff =>
          obtain ⟨first, second, given, _, here, rest⟩ := returns_bind.mp returns
          obtain ⟨_, same⟩ := returns_pure.mp rest
          cases same
          refine ⟨rfl, fun noticed => ?_⟩
          cases noticed
          obtain ⟨mins, now, confirmed, rfl⟩ := noticeFor_some here
          exact ⟨diff, mins, now, rfl, confirmed, rfl⟩
      | dryRun diff =>
          obtain ⟨_, same⟩ := returns_pure.mp returns
          cases same
          exact ⟨rfl, nofun⟩
      | commitFailed diff error =>
          obtain ⟨_, same⟩ := returns_pure.mp returns
          cases same
          exact ⟨rfl, nofun⟩
      | _ =>
          obtain ⟨_, same⟩ := returns_pure.mp returns
          cases same

theorem commitOneMode_window {args : TemplateArgs} {mode : CandidateMode} {mins : Nat}
    (asked : commitOneMode context args = .ok (mode, some mins)) :
    mode = .commitConfirmed (mins * 60) := by
  rw [commitOneMode] at asked
  split at asked
  · cases asked
  · exact commitMode_window asked

theorem OpensWindow.mono {wider : ToolTrace} (opens : OpensWindow trace device notice)
    (within : ∀ event ∈ trace, event ∈ wider) : OpensWindow wider device notice := by
  obtain ⟨mins, now, request, timeout, diff, said, mode, member⟩ := opens
  exact ⟨mins, now, request, timeout, diff, said, mode, within _ member⟩

theorem commitOne_opens {args : TemplateArgs} {plan : TemplatePlan} {payload : ConfigPayload}
    {target : Text} {row : TemplateRow}
    (returns : Returns (commitOne context args plan payload target) trace (.ok row))
    (router : row.router = some device) (noticed : row.notice = some notice) :
    OpensWindow trace device notice := by
  rw [commitOne] at returns
  cases asked : commitOneMode context args with
  | error error =>
      rw [asked] at returns
      obtain ⟨_, same⟩ := returns_pure.mp returns
      cases same
      cases noticed
  | ok mode =>
      obtain ⟨mode, confirmed⟩ := mode
      rw [asked] at returns
      obtain ⟨reply, rest, rfl, later⟩ := returns_step.mp returns
      obtain ⟨named, fromReply⟩ := reportDevice_noticed later
      cases router.symm.trans named
      obtain ⟨diff, mins, now, rfl, rfl, rfl⟩ := fromReply noticed
      exact ⟨mins, now, _, args.timeout, diff, rfl, commitOneMode_window asked, List.mem_cons_self⟩

theorem applyDevice_opens {args : TemplateArgs} {plan : TemplatePlan} {payload : ConfigPayload}
    {target : Text} {row : TemplateRow}
    (returns : Returns (applyDevice context args plan payload target) trace (.ok row))
    (router : row.router = some device) (noticed : row.notice = some notice) :
    OpensWindow trace device notice := by
  rw [applyDevice] at returns
  cases verdict : context.checkConfig target plan.format plan.rendered with
  | error error =>
      rw [verdict] at returns
      obtain ⟨_, same⟩ := returns_pure.mp returns
      cases same
  | ok decision =>
      rw [verdict] at returns
      cases decision with
      | allow => exact commitOne_opens returns router noticed
      | deny pattern ruleSource lineNumber =>
          obtain ⟨_, same⟩ := returns_pure.mp returns
          cases same
          cases noticed
      | denyAllowlist =>
          obtain ⟨_, same⟩ := returns_pure.mp returns
          cases same
          cases noticed

theorem applyDevices_opens {args : TemplateArgs} {plan : TemplatePlan} {payload : ConfigPayload}
    {devices : List Text} {rows : List TemplateRow} {row : TemplateRow}
    (returns : Returns (applyDevices context args plan payload devices) trace (.ok rows))
    (member : row ∈ rows) (router : row.router = some device) (noticed : row.notice = some notice) :
    OpensWindow trace device notice := by
  induction devices generalizing trace rows with
  | nil =>
      obtain ⟨_, same⟩ := returns_pure.mp returns
      cases same
      cases member
  | cons target rest ih =>
      obtain ⟨first, second, head, rfl, here, returns⟩ := returns.of_andThen
      obtain ⟨later, last, tail, rfl, there, returns⟩ := returns.of_andThen
      obtain ⟨_, same⟩ := returns_pure.mp returns
      cases same
      rcases List.mem_cons.mp member with rfl | member
      · exact (applyDevice_opens here router noticed).mono fun event =>
          List.mem_append_left _
      · exact (ih there member).mono fun event inside =>
          List.mem_append_right _ (List.mem_append_left _ inside)

theorem template_opens {args : TemplateArgs} {report : TemplateReport} {row : TemplateRow}
    (returns : Returns (renderAndApplyTemplate context args) trace (.ok report))
    (member : row ∈ report.results) (router : row.router = some device)
    (noticed : row.notice = some notice) : OpensWindow trace device notice := by
  rw [renderAndApplyTemplate] at returns
  cases planned : templatePlan context args with
  | error error =>
      rw [planned] at returns
      obtain ⟨_, same⟩ := returns_pure.mp returns
      cases same
  | ok plan =>
      simp only [planned, applyPlan] at returns
      cases apply : args.applyConfig with
      | false =>
          rw [apply] at returns
          obtain ⟨_, same⟩ := returns_pure.mp returns
          cases same
          have silent : ∀ row ∈ renderedRows plan, row.notice = none := by
            intro row member
            rw [renderedRows] at member
            split at member
            · rw [List.mem_singleton.mp member]
              rfl
            · obtain ⟨device, _, rfl⟩ := List.mem_map.mp member
              rfl
          rw [silent row member] at noticed
          cases noticed
      | true =>
          rw [apply] at returns
          cases built : buildConfigPayload plan.rendered (some plan.format) with
          | error error =>
              rw [built] at returns
              obtain ⟨_, same⟩ := returns_pure.mp returns
              cases same
          | ok payload =>
              rw [built] at returns
              obtain ⟨first, second, rows, rfl, here, returns⟩ := Returns.of_andThen returns
              obtain ⟨_, same⟩ := returns_pure.mp returns
              cases same
              exact (applyDevices_opens here member router noticed).mono fun event =>
                List.mem_append_left _

theorem reports_open {call : DirectCommit} (reports : call.Reports context trace device notice) :
    OpensWindow trace device notice := by
  cases reports with
  | loadCommit returns noticed => exact loadCommit_opens returns noticed
  | rollback returns noticed => exact rollback_opens returns noticed
  | template returns member router noticed => exact template_opens returns member router noticed

end Reports

/-! ## The issuing session -/

/-- Every window that a direct tool reports was opened with the commit that is bound to its session.
The session is open until the deadline exactly if the run's own guard finds it fit for the pool and
nothing strikes it from there on. -/
theorem issuing_session_open_until_iff (context : ToolContext) (call : DirectCommit)
    (trace : ToolTrace) (device : Text) (notice : ConfirmNotice) (pool : Pool) (session : Nat)
    (configDbOpen touched alive : Bool) (later : List PoolAction)
    (reports : call.Reports context trace device notice) (holds : pool.Holds session device) :
    OpensWindow trace device notice ∧
      (pool.OpenUntil notice.rollbackDeadlineUnix session
          (.drop session true configDbOpen touched alive :: later) ↔
        (pool.clock < notice.rollbackDeadlineUnix →
          configDbOpen = false ∧ touched = false ∧ alive = true) ∧
        (pool.drop session true configDbOpen touched alive).SparedUntil
          notice.rollbackDeadlineUnix session later) := by
  refine ⟨reports_open reports, ?_⟩
  rw [Pool.openUntil_iff holds.isOpen, Pool.sparedUntil_cons, holds.drop_spares]
  rw [show pool.step (.drop session true configDbOpen touched alive) =
    pool.drop session true configDbOpen touched alive from rfl, Pool.drop_clock]

/-! ## A load and its session -/

def bannerOn (device : Text) : LoadCommitArgs := { bannerLoad with device := device }

def bannerPlan : CommitPlan where
  request := ⟨some (.set bannerLoad.configText), none, .commitConfirmed 600, .set⟩
  confirmed := some 10
  warning := none

def bannerReport : CommitReport where
  committed := true
  diff := []
  error := none
  notice := some (confirmNotice 1800000000 10)
  note := none
  warning := none

def windowTrace (device : Text) : ToolTrace :=
  [⟨.bare (.transaction device bannerPlan.request 60),
    (.ok (.committed []) : Except JmcpError CandidateResult)⟩,
   ⟨.bare .now, (1800000000 : Nat)⟩]

theorem windowTrace_returns {context : ToolContext} {device : Text}
    (planned : loadCommitPlan context (bannerOn device) = .ok bannerPlan) :
    Returns (loadAndCommitConfig context (bannerOn device)) (windowTrace device)
      (.ok bannerReport) := by
  rw [loadAndCommitConfig, planned]
  iterate 2 refine .step ?_
  exact .pure _

theorem window_on_edge_reported :
    (DirectCommit.loadCommit (bannerOn edge)).Reports campus.toToolContext (windowTrace edge) edge
      (confirmNotice 1800000000 10) :=
  .loadCommit (windowTrace_returns rfl) rfl

/-- Session 7 has just been used for the commit. -/
def issuingPool : Pool where
  clock := 1800000000
  slots _ := none
  guards session := if session = 7 then some edge else none
  closed _ := false
  next := 8

theorem issuingPool_holds : issuingPool.Holds 7 edge := ⟨rfl, rfl, nofun⟩

theorem window_on_edge_for_a_minute :
    OpensWindow (windowTrace edge) edge (confirmNotice 1800000000 10) ∧
      (issuingPool.OpenUntil (confirmNotice 1800000000 10).rollbackDeadlineUnix 7
          [.drop 7 true false false true, .wait 60] ↔
        (issuingPool.clock < (confirmNotice 1800000000 10).rollbackDeadlineUnix →
          false = false ∧ false = false ∧ true = true) ∧
        (issuingPool.drop 7 true false false true).SparedUntil
          (confirmNotice 1800000000 10).rollbackDeadlineUnix 7 [.wait 60]) :=
  issuing_session_open_until_iff _ _ _ _ _ _ _ _ _ _ _ window_on_edge_reported issuingPool_holds

/-- Nobody uses the session, and the reaper closes it halfway through the ten minutes. -/
theorem idle_session_evicted :
    (DirectCommit.loadCommit (bannerOn edge)).Reports campus.toToolContext (windowTrace edge) edge
        (confirmNotice 1800000000 10) ∧
      issuingPool.Holds 7 edge ∧
      ¬issuingPool.OpenUntil (confirmNotice 1800000000 10).rollbackDeadlineUnix 7
        [.drop 7 true false false true, .wait 301, .evictExpired edge] := by
  refine ⟨window_on_edge_reported, issuingPool_holds, fun openUntil => ?_⟩
  have still := openUntil _ [] (List.append_nil _).symm (by decide)
  exact absurd still (by decide)

end JunosMcp
