import JunosMcp.DirectTools
import JunosMcp.CandidateRun

/-!
# The commits of a template call

`render_and_apply_j2_template` goes from device to device, and each transaction is a run on its
device. Which commits the devices acknowledged is compared with what the report shows.
-/

namespace JunosMcp
open Lib CandidateRun

namespace Template

/-! ## The transactions of a call -/

/-- Every transaction of the trace is a run, in order. -/
inductive Carried : ToolTrace → List (Text × DoneRun) → Prop where
  | nil : Carried [] []
  | transaction {device : Text} {request : CandidateRequest} {timeout : Duration}
      {reply : Except JmcpError CandidateResult} {done : DoneRun} {trace : ToolTrace}
      {runs : List (Text × DoneRun)} :
      done.request = request → done.operationTimeout = timeout → done.result = reply →
      Carried trace runs →
      Carried (⟨.bare (.transaction device request timeout), reply⟩ :: trace) ((device, done) :: runs)
  | other {event : ToolEvent} {trace : ToolTrace} {runs : List (Text × DoneRun)} :
      (∀ device request timeout, event.1.sends ≠ some (.transaction device request timeout)) →
      Carried trace runs → Carried (event :: trace) runs

/-- The device acknowledged a commit of the call. -/
def Committed (runs : List (Text × DoneRun)) (device : Text) : Prop :=
  ∃ done, (device, done) ∈ runs ∧ Acked (deviceTrace done.trace)

/-- A row shows the commit. -/
def ShownCommitted (device : Text) (row : TemplateRow) : Prop :=
  row.router = some device ∧ row.commitComment.isSome ∧ row.error = none

/-- A row shows the commit, or an error of the cleanup that says that the commit succeeded. -/
def Mentioned (device : Text) (row : TemplateRow) : Prop :=
  row.router = some device ∧ (row.commitComment.isSome ∨ ∃ unlock, row.error =
    some (JmcpError.candidateCleanupFailed "commit succeeded".toList "ok".toList unlock).display)

def InReport (shows : TemplateRow → Prop) (result : Except JmcpError TemplateReport) : Prop :=
  ∃ report, result = .ok report ∧ ∃ row ∈ report.results, shows row

/-- What makes the loop leave: a transaction that was cancelled, or a device the policy has no
decision for. -/
def Leaves (context : ToolContext) (args : TemplateArgs) (runs : List (Text × DoneRun)) : Prop :=
  (∃ ran ∈ runs, ran.2.result = .error .cancelled) ∨
    ∃ plan, templatePlan context args = .ok plan ∧ ∃ device ∈ plan.devices,
      ∃ error, context.checkConfig device plan.format plan.rendered = .error error

/-- The commit was acknowledged and the cleanup after it went through. -/
def CleanlyCommitted (runs : List (Text × DoneRun)) (device : Text) : Prop :=
  ∃ done, (device, done) ∈ runs ∧ Acked (deviceTrace done.trace) ∧
    ¬CleanupFailed done.cleanupTimeout (deviceTrace done.trace)

theorem carried_append {first second : ToolTrace} {runs : List (Text × DoneRun)}
    (carried : Carried (first ++ second) runs) :
    ∃ early late, runs = early ++ late ∧ Carried first early ∧ Carried second late := by
  induction first generalizing runs with
  | nil => exact ⟨[], runs, rfl, .nil, carried⟩
  | cons event first ih =>
      cases carried with
      | transaction request timeout result rest =>
          obtain ⟨early, late, rfl, here, there⟩ := ih rest
          exact ⟨_ :: early, late, rfl, .transaction request timeout result here, there⟩
      | other quiet rest =>
          obtain ⟨early, late, rfl, here, there⟩ := ih rest
          exact ⟨early, late, rfl, .other quiet here, there⟩

theorem carried_transaction {device : Text} {request : CandidateRequest} {timeout : Duration}
    {reply : Except JmcpError CandidateResult} {trace : ToolTrace} {runs : List (Text × DoneRun)}
    (carried : Carried (⟨.bare (.transaction device request timeout), reply⟩ :: trace) runs) :
    ∃ done rest, runs = (device, done) :: rest ∧ done.request = request ∧ done.result = reply ∧
      Carried trace rest := by
  cases carried with
  | transaction same _ result rest => exact ⟨_, _, rfl, same, result, rest⟩
  | other quiet _ => exact absurd rfl (quiet device request timeout)

theorem noticeFor_carries {confirmed : Option Nat} {trace : ToolTrace}
    {notice : Option ConfirmNotice} {runs : List (Text × DoneRun)}
    (returns : Returns (noticeFor confirmed) trace notice) (carried : Carried trace runs) :
    runs = [] := by
  cases confirmed with
  | none =>
      obtain ⟨rfl, _⟩ := returns_pure.mp returns
      cases carried
      rfl
  | some mins =>
      obtain ⟨_, _, rfl, last⟩ := returns_step.mp returns
      obtain ⟨rfl, _⟩ := returns_pure.mp last
      cases carried with
      | other _ rest =>
          cases rest
          rfl

/-! ## The rows of the devices -/

section Rows
variable {context : ToolContext} {args : TemplateArgs} {plan : TemplatePlan}
  {payload : ConfigPayload} {device : Text} {runs : List (Text × DoneRun)}

/-- The loop has stayed for all these devices, and these are their rows. -/
structure Lines (context : ToolContext) (plan : TemplatePlan) (devices : List Text)
    (runs : List (Text × DoneRun)) (rows : List TemplateRow) : Prop where
  uncancelled : ∀ ran ∈ runs, ran.2.result ≠ .error .cancelled
  decided : ∀ device ∈ devices, ∃ decision,
    context.checkConfig device plan.format plan.rendered = .ok decision
  shown : ∀ device, (∃ row ∈ rows, ShownCommitted device row) ↔ CleanlyCommitted runs device
  mentioned : ∀ device, Committed runs device → ∃ row ∈ rows, Mentioned device row

def LeavesIn (context : ToolContext) (plan : TemplatePlan) (devices : List Text)
    (runs : List (Text × DoneRun)) : Prop :=
  (∃ ran ∈ runs, ran.2.result = .error .cancelled) ∨
    ∃ device ∈ devices, ∃ error, context.checkConfig device plan.format plan.rendered = .error error

theorem lines_nil : Lines context plan [] [] [] where
  uncancelled := by simp
  decided := by simp
  shown := by simp [CleanlyCommitted]
  mentioned := by simp [Committed]

theorem Lines.append {devices devices' : List Text} {runs' : List (Text × DoneRun)}
    {rows rows' : List TemplateRow} (lines : Lines context plan devices runs rows)
    (lines' : Lines context plan devices' runs' rows') :
    Lines context plan (devices ++ devices') (runs ++ runs') (rows ++ rows') where
  uncancelled ran member := by
    rcases List.mem_append.mp member with early | late
    · exact lines.uncancelled ran early
    · exact lines'.uncancelled ran late
  decided device member := by
    rcases List.mem_append.mp member with early | late
    · exact lines.decided device early
    · exact lines'.decided device late
  shown device := by
    have first := lines.shown device
    have second := lines'.shown device
    simp only [CleanlyCommitted, List.mem_append, or_and_right, exists_or] at first second ⊢
    rw [first, second]
  mentioned device := by
    rintro ⟨done, member, acked⟩
    rcases List.mem_append.mp member with early | late
    · obtain ⟨row, found, mentions⟩ := lines.mentioned device ⟨done, early, acked⟩
      exact ⟨row, List.mem_append_left _ found, mentions⟩
    · obtain ⟨row, found, mentions⟩ := lines'.mentioned device ⟨done, late, acked⟩
      exact ⟨row, List.mem_append_right _ found, mentions⟩

/-- A device that nothing was committed on has a row that shows none. -/
theorem lines_quiet {row : TemplateRow} {decision : ChangeSet.Decision}
    (verdict : context.checkConfig device plan.format plan.rendered = .ok decision)
    (unshown : row.commitComment = none)
    (uncancelled : ∀ ran ∈ runs, ran.2.result ≠ .error .cancelled)
    (unacked : ∀ ran ∈ runs, ¬Acked (deviceTrace ran.2.trace)) :
    Lines context plan [device] runs [row] where
  uncancelled := uncancelled
  decided other member := by
    cases List.mem_singleton.mp member
    exact ⟨decision, verdict⟩
  shown other := by
    constructor
    · rintro ⟨_, member, _, shows, _⟩
      cases List.mem_singleton.mp member
      rw [unshown] at shows
      cases shows
    · rintro ⟨done, member, acked, _⟩
      exact absurd acked (unacked _ member)
  mentioned other := by
    rintro ⟨done, member, acked⟩
    exact absurd acked (unacked _ member)

/-- Only a run that reports its commit was told of one, unless its cleanup failed. -/
theorem unacked_of_ok {done : DoneRun} {reported : CandidateResult}
    (ok : done.result = .ok reported) (other : ∀ diff, reported ≠ .committed diff) :
    ¬Acked (deviceTrace done.trace) := by
  intro acked
  by_cases failed : CleanupFailed done.cleanupTimeout (deviceTrace done.trace)
  · obtain ⟨_, refused⟩ := done.tells.failed acked failed
    rw [ok] at refused
    cases refused
  · obtain ⟨diff, committed⟩ := done.tells.committed.mpr ⟨acked, failed⟩
    rw [ok] at committed
    exact other diff (Except.ok.inj committed)

theorem commitOneMode_cases {mode : CandidateMode} {confirmed : Option Nat}
    (ok : commitOneMode context args = .ok (mode, confirmed)) :
    mode = .dryRun ∨ (∃ comment, mode = .commitWithComment comment) ∨
      ∃ seconds, mode = .commitConfirmed seconds := by
  rw [commitOneMode] at ok
  split at ok
  · cases ok
    exact .inl rfl
  · rw [commitMode] at ok
    split at ok
    · obtain ⟨secs, _, ok⟩ := bind_eq_ok.mp ok
      cases ok
      exact .inr (.inr ⟨secs, rfl⟩)
    · cases ok
      exact .inr (.inl ⟨_, rfl⟩)

/-- The row of a transaction that came back with an error, other than a cancelled one. -/
theorem lines_error {decision : ChangeSet.Decision} {done : DoneRun} {error : JmcpError}
    (verdict : context.checkConfig device plan.format plan.rendered = .ok decision)
    (refused : done.result = .error error) (kept : error ≠ .cancelled) :
    Lines context plan [device] [(device, done)] [plan.failedRow device error.display] where
  uncancelled ran member := by
    cases List.mem_singleton.mp member
    rw [refused]
    exact fun same => kept (Except.error.inj same)
  decided other member := by
    cases List.mem_singleton.mp member
    exact ⟨decision, verdict⟩
  shown other := by
    constructor
    · rintro ⟨_, member, _, shows, _⟩
      cases List.mem_singleton.mp member
      cases shows
    · rintro ⟨_, member, clean⟩
      cases List.mem_singleton.mp member
      obtain ⟨diff, committed⟩ := done.tells.committed.mpr clean
      rw [refused] at committed
      cases committed
  mentioned other := by
    rintro ⟨_, member, acked⟩
    cases List.mem_singleton.mp member
    by_cases failed : CleanupFailed done.cleanupTimeout (deviceTrace done.trace)
    · obtain ⟨unlock, told⟩ := done.tells.failed acked failed
      rw [refused] at told
      cases told
      exact ⟨_, List.mem_singleton_self _, rfl, .inr ⟨unlock, rfl⟩⟩
    · obtain ⟨diff, committed⟩ := done.tells.committed.mpr ⟨acked, failed⟩
      rw [refused] at committed
      cases committed

theorem lines_committed {decision : ChangeSet.Decision} {done : DoneRun} {diff comment : Text}
    {notice : Option ConfirmNotice}
    (verdict : context.checkConfig device plan.format plan.rendered = .ok decision)
    (committed : done.result = .ok (.committed diff)) :
    Lines context plan [device] [(device, done)]
      [{ plan.row (some device) with commitComment := some comment, notice := notice }] where
  uncancelled ran member := by
    cases List.mem_singleton.mp member
    rw [committed]
    nofun
  decided other member := by
    cases List.mem_singleton.mp member
    exact ⟨decision, verdict⟩
  shown other := by
    constructor
    · rintro ⟨_, member, router, _⟩
      cases List.mem_singleton.mp member
      cases router
      exact ⟨done, List.mem_singleton_self _, done.tells.committed.mp ⟨diff, committed⟩⟩
    · rintro ⟨_, member, _⟩
      cases List.mem_singleton.mp member
      exact ⟨_, List.mem_singleton_self _, rfl, rfl, rfl⟩
  mentioned other := by
    rintro ⟨_, member, _⟩
    cases List.mem_singleton.mp member
    exact ⟨_, List.mem_singleton_self _, rfl, .inl rfl⟩

/-- One device: its row, or the reason why the loop is left. -/
def LineOrLeft (context : ToolContext) (plan : TemplatePlan) (devices : List Text)
    (runs : List (Text × DoneRun)) : Except JmcpError (List TemplateRow) → Prop
  | .ok rows => Lines context plan devices runs rows
  | .error _ => LeavesIn context plan devices runs

theorem reportDevice_error {confirmed : Option Nat} {error : JmcpError} (kept : error ≠ .cancelled) :
    reportDevice args plan device confirmed (.error error) =
      .pure (.ok (plan.failedRow device error.display)) := by
  cases error with
  | cancelled => exact absurd rfl kept
  | _ => rfl

theorem carried_nil (carried : Carried [] runs) : runs = [] := by
  cases carried
  rfl

/-- A run that did not commit has a row without a commit. -/
theorem lines_reported {decision : ChangeSet.Decision} {done : DoneRun} {row : TemplateRow}
    {reported : CandidateResult}
    (verdict : context.checkConfig device plan.format plan.rendered = .ok decision)
    (unshown : row.commitComment = none) (ok : done.result = .ok reported)
    (other : ∀ diff, reported ≠ .committed diff) :
    Lines context plan [device] [(device, done)] [row] := by
  apply lines_quiet verdict unshown
  · intro ran member
    cases List.mem_singleton.mp member
    rw [ok]
    nofun
  · intro ran member
    cases List.mem_singleton.mp member
    exact unacked_of_ok ok other

theorem reportDevice_line {trace : ToolTrace} {confirmed : Option Nat} {done : DoneRun}
    {decision : ChangeSet.Decision} {result : Except JmcpError TemplateRow}
    (verdict : context.checkConfig device plan.format plan.rendered = .ok decision)
    (asked : commitOneMode context args = .ok (done.request.mode, confirmed))
    (returns : Returns (reportDevice args plan device confirmed done.result) trace result)
    (carried : Carried trace runs) :
    LineOrLeft context plan [device] ((device, done) :: runs) (result.map fun row => [row]) := by
  cases reply : done.result with
  | error error =>
      rw [reply] at returns
      by_cases cancelled : error = .cancelled
      · subst cancelled
        obtain ⟨rfl, rfl⟩ := returns_pure.mp returns
        exact .inl ⟨_, List.mem_cons_self, reply⟩
      · rw [reportDevice_error cancelled] at returns
        obtain ⟨rfl, rfl⟩ := returns_pure.mp returns
        rw [carried_nil carried]
        exact lines_error verdict reply cancelled
  | ok reported =>
      have inKind := done.tells.inKind reported reply
      rw [reply] at returns
      cases reported with
      | dryRun diff =>
          obtain ⟨rfl, rfl⟩ := returns_pure.mp returns
          rw [carried_nil carried]
          exact lines_reported verdict rfl reply nofun
      | committed diff =>
          obtain ⟨first, second, notice, rfl, noticed, last⟩ := returns_bind.mp returns
          obtain ⟨rfl, rfl⟩ := returns_pure.mp last
          rw [List.append_nil] at carried
          rw [noticeFor_carries noticed carried]
          exact lines_committed verdict reply
      | commitFailed diff error =>
          obtain ⟨rfl, rfl⟩ := returns_pure.mp returns
          rw [carried_nil carried]
          exact lines_reported verdict rfl reply nofun
      | commitCheck diff outcome =>
          rcases commitOneMode_cases asked with mode | ⟨_, mode⟩ | ⟨_, mode⟩ <;>
            rw [mode] at inKind <;> exact inKind.elim
      | discarded =>
          rcases commitOneMode_cases asked with mode | ⟨_, mode⟩ | ⟨_, mode⟩ <;>
            rw [mode] at inKind <;> exact inKind.elim

theorem applyDevice_line {trace : ToolTrace} {result : Except JmcpError TemplateRow}
    (returns : Returns (applyDevice context args plan payload device) trace result)
    (carried : Carried trace runs) :
    LineOrLeft context plan [device] runs (result.map fun row => [row]) := by
  rw [applyDevice] at returns
  cases verdict : context.checkConfig device plan.format plan.rendered with
  | error error =>
      rw [verdict] at returns
      obtain ⟨_, rfl⟩ := returns_pure.mp returns
      exact .inr ⟨device, List.mem_singleton_self _, error, verdict⟩
  | ok decision =>
      rw [verdict] at returns
      cases decision with
      | deny pattern ruleSource lineNumber =>
          obtain ⟨rfl, rfl⟩ := returns_pure.mp returns
          rw [carried_nil carried]
          exact lines_quiet verdict rfl (by simp) (by simp)
      | denyAllowlist =>
          obtain ⟨rfl, rfl⟩ := returns_pure.mp returns
          rw [carried_nil carried]
          exact lines_quiet verdict rfl (by simp) (by simp)
      | allow =>
          change Returns (commitOne context args plan payload device) trace result at returns
          rw [commitOne] at returns
          cases asked : commitOneMode context args with
          | error error =>
              rw [asked] at returns
              obtain ⟨rfl, rfl⟩ := returns_pure.mp returns
              rw [carried_nil carried]
              exact lines_quiet verdict rfl (by simp) (by simp)
          | ok mode =>
              obtain ⟨mode, confirmed⟩ := mode
              rw [asked] at returns
              obtain ⟨reply, rest, rfl, later⟩ := returns_step.mp returns
              obtain ⟨done, others, rfl, request, rfl, carriedOn⟩ := carried_transaction carried
              have asked : commitOneMode context args = .ok (done.request.mode, confirmed) := by
                rw [request]
                exact asked
              exact reportDevice_line verdict asked later carriedOn

theorem applyDevices_lines {devices : List Text} {trace : ToolTrace}
    {result : Except JmcpError (List TemplateRow)}
    (returns : Returns (applyDevices context args plan payload devices) trace result)
    (carried : Carried trace runs) : LineOrLeft context plan devices runs result := by
  induction devices generalizing trace result runs with
  | nil =>
      obtain ⟨rfl, rfl⟩ := returns_pure.mp returns
      rw [carried_nil carried]
      exact lines_nil
  | cons device rest ih =>
      obtain ⟨first, second, here, rfl, line, later⟩ := returns_bind.mp returns
      obtain ⟨early, late, rfl, carriedHere, carriedOn⟩ := carried_append carried
      have line := applyDevice_line line carriedHere
      cases here with
      | error error =>
          obtain ⟨rfl, rfl⟩ := returns_pure.mp later
          rcases line with ⟨ran, member, cancelled⟩ | ⟨found, member, refused⟩
          · exact .inl ⟨ran, List.mem_append_left _ member, cancelled⟩
          · cases List.mem_singleton.mp member
            exact .inr ⟨device, List.mem_cons_self, refused⟩
      | ok row =>
          obtain ⟨third, fourth, rows, rfl, lines, last⟩ := returns_bind.mp later
          obtain ⟨late, none, rfl, carriedOn, carriedLast⟩ := carried_append carriedOn
          have lines := ih lines carriedOn
          cases rows with
          | error error =>
              obtain ⟨rfl, rfl⟩ := returns_pure.mp last
              rcases lines with ⟨ran, member, cancelled⟩ | ⟨found, member, refused⟩
              · exact .inl ⟨ran, by simp [member], cancelled⟩
              · exact .inr ⟨found, List.mem_cons_of_mem _ member, refused⟩
          | ok rows =>
              obtain ⟨rfl, rfl⟩ := returns_pure.mp last
              rw [carried_nil carriedLast, List.append_nil]
              exact Lines.append line lines

end Rows

/-! ## The call -/

section Call
variable {context : ToolContext} {args : TemplateArgs} {trace : ToolTrace}
  {result : Except JmcpError TemplateReport} {runs : List (Text × DoneRun)}

/-- A call sends nothing, or it is the loop over the devices of its plan. -/
theorem template_returns (returns : Returns (renderAndApplyTemplate context args) trace result)
    (carried : Carried trace runs) :
    runs = [] ∨ ∃ plan rows, templatePlan context args = .ok plan ∧
      LineOrLeft context plan plan.devices runs rows ∧
      result = rows.map fun rows => ⟨rows, !args.dryRun⟩ := by
  rw [renderAndApplyTemplate] at returns
  cases planned : templatePlan context args with
  | error error =>
      rw [planned] at returns
      obtain ⟨rfl, _⟩ := returns_pure.mp returns
      exact .inl (carried_nil carried)
  | ok plan =>
      rw [planned] at returns
      obtain ⟨payload, built⟩ := templatePlan_payload planned
      change Returns (applyPlan context args plan) trace result at returns
      rw [applyPlan] at returns
      split at returns
      · rw [built] at returns
        obtain ⟨first, second, rows, rfl, lines, last⟩ := returns_bind.mp returns
        obtain ⟨early, late, rfl, carriedHere, carriedOn⟩ := carried_append carried
        have lines := applyDevices_lines lines carriedHere
        have ended : second = [] ∧ result = rows.map fun rows => ⟨rows, !args.dryRun⟩ := by
          cases rows with
          | error error => exact returns_pure.mp last
          | ok rows => exact returns_pure.mp last
        obtain ⟨rfl, shown⟩ := ended
        rw [carried_nil carriedOn, List.append_nil]
        exact .inr ⟨plan, rows, rfl, lines, shown⟩
      · obtain ⟨rfl, _⟩ := returns_pure.mp returns
        exact .inl (carried_nil carried)

/-- Every acknowledged commit is in the report exactly when the loop is never left and the cleanup
after a commit went through; and a commit is at least mentioned when the loop is never left. -/
theorem template_reports_iff (context : ToolContext) (args : TemplateArgs) (trace : ToolTrace)
    (result : Except JmcpError TemplateReport) (runs : List (Text × DoneRun))
    (returns : Returns (renderAndApplyTemplate context args) trace result)
    (carried : Carried trace runs) :
    ((∀ device, Committed runs device → InReport (ShownCommitted device) result) ↔
      ∀ device, Committed runs device →
        ¬Leaves context args runs ∧ CleanlyCommitted runs device) ∧
    ((∀ device, Committed runs device → InReport (Mentioned device) result) ↔
      ∀ device, Committed runs device → ¬Leaves context args runs) := by
  rcases template_returns returns carried with rfl | ⟨plan, rows, planned, lines, rfl⟩
  · simp [Committed]
  · have leaves : Leaves context args runs ↔ LeavesIn context plan plan.devices runs := by
      simp [Leaves, LeavesIn, planned]
    cases rows with
    | error error =>
        have left : Leaves context args runs := leaves.mpr lines
        have unreported (shows : TemplateRow → Prop) :
            ¬InReport shows (Except.map (fun rows => ⟨rows, !args.dryRun⟩) (.error error)) := by
          rintro ⟨report, same, _⟩
          cases same
        simp [unreported, left]
    | ok rows =>
        have stays : ¬Leaves context args runs := by
          rw [leaves]
          rintro (⟨ran, member, cancelled⟩ | ⟨device, member, error, refused⟩)
          · exact lines.uncancelled ran member cancelled
          · obtain ⟨decision, verdict⟩ := lines.decided device member
            rw [verdict] at refused
            cases refused
        have reported (shows : TemplateRow → Prop) :
            InReport shows (Except.map (fun rows => ⟨rows, !args.dryRun⟩) (.ok rows)) ↔
              ∃ row ∈ rows, shows row := by
          constructor
          · rintro ⟨report, same, found⟩
            cases same
            exact found
          · exact fun found => ⟨_, rfl, found⟩
        refine ⟨?_, ?_⟩
        · simp only [reported, lines.shown, stays, not_false_eq_true, true_and]
        · simp only [reported, stays, not_false_eq_true, implies_true, iff_true]
          exact lines.mentioned

end Call

/-! ## Two devices, the second of which fails -/

def first : Text := "r1".toList

def second : Text := "r2".toList

/-- A template without expressions renders to itself. -/
def verbatimEngine : TemplateEngine where
  Vars := Unit
  fromStr _ := .ok (some ())
  templateFromStr _ := .ok ()
  render content _ := .ok content

def pairContext : ToolContext where
  inventory name :=
    if name = first then .ok ⟨⟨"192.0.2.1".toList, 830, .local⟩, .sshKey⟩
    else if name = second then .ok ⟨⟨"192.0.2.2".toList, 830, .local⟩, .sshKey⟩
    else .error (.unknownRouter name)
  checkConfig _ _ _ := .ok .allow
  hasConfigRulesFor _ := false
  commitConfirmDefaultMins := 10
  allowPlaneOwnedWrites := false
  engine := verbatimEngine

def pairTemplate : TemplateArgs where
  templateContent := "set x".toList
  varsContent := "\x7b\x7d".toList
  deviceName := none
  deviceNames := some [first, second]
  applyConfig := true
  commitComment := []
  dryRun := false
  configFormat := some "set".toList
  mode := "merge".toList
  confirmTimeoutMins := some 0
  timeout := 60

def pairRequest : CandidateRequest :=
  ⟨some (.set "set x".toList), none, .commitWithComment [], .set⟩

def committedRun : DoneRun where
  request := pairRequest
  operationTimeout := 60
  cleanupTimeout := 10
  trace := [
    ⟨.bare .checkTaint, (none : Option Text)⟩,
    ⟨.ensureActive, Activity.active⟩,
    ⟨.raced .open, Raced.completed (.ok () : Except JmcpError Unit)⟩,
    ⟨.bare .preventReuse, ()⟩,
    ⟨.bare .config, (.ok () : Except JmcpError Unit)⟩,
    ⟨.ensureActive, Activity.active⟩,
    ⟨.raced (.backend .lock), Raced.completed (.ok () : Except JmcpError Unit)⟩,
    ⟨.ensureActive, Activity.active⟩,
    ⟨.raced (.backend (.load (.set "set x".toList) .set)),
      Raced.completed (.ok () : Except JmcpError Unit)⟩,
    ⟨.ensureActive, Activity.active⟩,
    ⟨.raced (.backend .diff), Raced.completed (.ok [] : Except JmcpError Text)⟩,
    ⟨.ensureActive, Activity.active⟩,
    ⟨.bare (.backend (.commitWithComment [])), (.ok () : Except JmcpError Unit)⟩,
    ⟨.timed (.backend .unlock), Timed.completed (.ok () : Except JmcpError Unit)⟩,
    ⟨.bare .clearTaint, ()⟩,
    ⟨.bare .allowReuse, ()⟩]
  result := .ok (.committed [])
  returns := by
    repeat apply Returns.step
    exact .pure _

/-- The caller cancels before the second device is opened. -/
def cancelledRun : DoneRun where
  request := pairRequest
  operationTimeout := 60
  cleanupTimeout := 10
  trace := [⟨.bare .checkTaint, (none : Option Text)⟩, ⟨.ensureActive, Activity.cancelled⟩]
  result := .error .cancelled
  returns := by
    repeat apply Returns.step
    exact .pure _

/-- The second device cannot be opened. -/
def refusedRun : DoneRun where
  request := pairRequest
  operationTimeout := 60
  cleanupTimeout := 10
  trace := [
    ⟨.bare .checkTaint, (none : Option Text)⟩,
    ⟨.ensureActive, Activity.active⟩,
    ⟨.raced .open, Raced.completed (.error (.other "down".toList) : Except JmcpError Unit)⟩]
  result := .error (.other "down".toList)
  returns := by
    repeat apply Returns.step
    exact .pure _

def pairTrace (done : DoneRun) : ToolTrace :=
  [⟨.bare (.transaction first pairRequest 60), committedRun.result⟩,
    ⟨.bare (.transaction second pairRequest 60), done.result⟩]

def pairRuns (done : DoneRun) : List (Text × DoneRun) := [(first, committedRun), (second, done)]

theorem pair_committed (done : DoneRun) : Committed (pairRuns done) first :=
  ⟨committedRun, List.mem_cons_self, ⟨.bare (.commitWithComment []), .ok ()⟩,
    .tail _ (.tail _ (.tail _ (.head _))), .withComment []⟩

def pairPlan : TemplatePlan := ⟨[first, second], "set x".toList, "set".toList, .set⟩

theorem pair_planned : templatePlan pairContext pairTemplate = .ok pairPlan := rfl

theorem pair_calls :
    renderAndApplyTemplate pairContext pairTemplate = applyPlan pairContext pairTemplate pairPlan := by
  rw [renderAndApplyTemplate, pair_planned]

/-- The first commit is acknowledged, and all the caller gets is that the call was cancelled. -/
theorem cancelled_call_loses_commit :
    Returns (renderAndApplyTemplate pairContext pairTemplate) (pairTrace cancelledRun)
      (.error .cancelled) ∧
    Carried (pairTrace cancelledRun) (pairRuns cancelledRun) ∧
    Committed (pairRuns cancelledRun) first ∧
    ¬InReport (ShownCommitted first) (.error .cancelled) := by
  refine ⟨?_, .transaction rfl rfl rfl (.transaction rfl rfl rfl .nil), pair_committed _, ?_⟩
  · rw [pair_calls]
    exact .step (.step (.pure _))
  · rintro ⟨_, same, _⟩
    cases same

/-- The row of the first device stays when the second cannot be opened. -/
theorem refused_call_keeps_commit :
    InReport (ShownCommitted first) (.ok ⟨[
      { pairPlan.row (some first) with commitComment := some [] },
      pairPlan.failedRow second (JmcpError.other "down".toList).display], true⟩) := by
  have returns : Returns (renderAndApplyTemplate pairContext pairTemplate) (pairTrace refusedRun)
      (.ok ⟨[{ pairPlan.row (some first) with commitComment := some [] },
        pairPlan.failedRow second (JmcpError.other "down".toList).display], true⟩) := by
    rw [pair_calls]
    exact .step (.step (.pure _))
  have carried : Carried (pairTrace refusedRun) (pairRuns refusedRun) :=
    .transaction rfl rfl rfl (.transaction rfl rfl rfl .nil)
  refine (template_reports_iff pairContext pairTemplate _ _ _ returns carried).1.mpr ?_ first
    (pair_committed refusedRun)
  rintro device ⟨done, member, acked⟩
  have clean := committedRun.tells.committed.mp ⟨[], rfl⟩
  constructor
  · rintro (⟨ran, among, cancelled⟩ | ⟨plan, _, _, _, _, refused⟩)
    · rcases List.mem_cons.mp among with rfl | last
      · cases cancelled
      · cases List.mem_singleton.mp last
        cases cancelled
    · cases refused
  · rcases List.mem_cons.mp member with same | last
    · cases same
      exact ⟨committedRun, List.mem_cons_self, clean⟩
    · cases List.mem_singleton.mp last
      obtain ⟨_, none, _⟩ := acked
      cases none

end Template

end JunosMcp
