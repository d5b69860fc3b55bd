import JunosMcp.Lib.Results
import JunosMcp.ChangeSet.Apply
import JunosMcp.CandidateTransaction
import JunosMcp.CommandTools

/-!
# Tools that commit directly

`load_and_commit_config`, `rollback_config` and `render_and_apply_j2_template`: the checks on the
arguments, one candidate transaction for each device, and the report.
-/

namespace JunosMcp
open Lib ChangeSet

/-! ## What tools call -/

inductive FileKind where
  | regular
  | symlink
  | other
  deriving DecidableEq

/-- Calls of a tool on the devices, on the staging directory, on the leases and on the clock. -/
inductive ToolCall where
  | transaction (device : Text) (request : CandidateRequest) (timeout : Duration)
  | now
  | stagedFile (basename : Text)
  | digest (basename : Text)
  | openSession (device : Text)
  | openFresh (device : Text)
  | cli (device command : Text)
  | lease (device : Text)
  | transfer (device basename : Text) (timeout : Duration)
  | waitForVersion (device target : Text)

def ToolCall.Reply : ToolCall → Type
  | .transaction .. => Except JmcpError CandidateResult
  | .now => Nat
  | .stagedFile _ => Option FileKind
  | .digest _ => Except JmcpError Nat
  | .openSession _ | .openFresh _ | .lease _ | .transfer .. => Except JmcpError Unit
  | .cli .. => Except RustEzError Text
  | .waitForVersion .. => Except JmcpError Text

abbrev ToolOp := Await ToolCall

abbrev ToolRes := Await.Res ToolCall.Reply

abbrev ToolEvent := Σ op, ToolRes op

abbrev ToolTrace := Trace ToolOp ToolRes

abbrev ToolProg (α : Type) := Prog ToolOp ToolRes α

def toolCall (call : ToolCall) : ToolProg call.Reply := .step (.bare call) .pure

/-! ## What the handlers hold -/

inductive ToolAuth where
  | password
  | sshKey
  deriving DecidableEq

structure ToolDevice extends TargetDevice where
  auth : ToolAuth
  deriving DecidableEq

/-- The JSON reader and the template engine; a JSON value that is no object reads as `none`. -/
structure TemplateEngine where
  Vars : Type
  fromStr : Text → Except Text (Option Vars)
  templateFromStr : Text → Except Text Unit
  render : Text → Vars → Except Text Text

structure ToolContext where
  inventory : Text → Except JmcpError ToolDevice
  checkConfig : (device format text : Text) → Except JmcpError Decision
  hasConfigRulesFor : Text → Bool
  commitConfirmDefaultMins : Nat
  allowPlaneOwnedWrites : Bool
  engine : TemplateEngine

/-- Allowed with or without a warning, or refused. -/
def checkPlaneOwnedOperation (toolName deviceName : Text) (authority : JunosAuthority)
    (allowPlaneOwnedWrites : Bool) : Except JmcpError (Option Text) :=
  match authority with
  | .local | .unknown => .ok none
  | owner =>
      if allowPlaneOwnedWrites then
        .ok (some ("WARNING: this device is owned by ".toList ++ owner.name ++ (". Changes may be " ++
          "overwritten at the next push from the owning management plane.").toList))
      else .error (.planeOwnedDevice toolName deviceName owner.name)

def refuseDenied (tool device text : Text) : Decision → Except JmcpError Unit
  | .allow => .ok ()
  | .deny pattern ruleSource lineNumber =>
      .error (.denied tool device pattern ruleSource (excerpt text) lineNumber)
  | .denyAllowlist => .error (.configDomainAllowlistInvariant tool device)

/-- The mode of a commit, and the window it opens: on by default, off for an explicit zero. -/
def commitMode (defaultMins : Nat) (confirmTimeoutMins : Option Nat) (comment : Text) :
    Except JmcpError (CandidateMode × Option Nat) :=
  match resolveConfirmTimeout defaultMins confirmTimeoutMins with
  | .confirmed mins => do
      let secs ← confirmTimeoutToSecs mins
      return (.commitConfirmed secs, some mins)
  | .optedOut => .ok (.commitWithComment comment, none)

theorem commitMode_window {defaultMins mins : Nat} {asked : Option Nat} {comment : Text}
    {mode : CandidateMode} (ok : commitMode defaultMins asked comment = .ok (mode, some mins)) :
    mode = .commitConfirmed (mins * 60) := by
  rw [commitMode] at ok
  cases window : resolveConfirmTimeout defaultMins asked with
  | optedOut =>
      rw [window] at ok
      cases ok
  | confirmed resolved =>
      rw [window] at ok
      obtain ⟨secs, inRange, ok⟩ := bind_eq_ok.mp ok
      cases ok
      rw [confirmTimeoutToSecs] at inRange
      split at inRange
      · cases inRange
      · split at inRange
        · cases inRange
          rfl
        · cases inRange

/-- What a report says of an open window. -/
structure ConfirmNotice where
  rollbackInMinutes : Nat
  rollbackDeadlineUnix : Nat
  message : Text
  deriving DecidableEq

def confirmNotice (now mins : Nat) : ConfirmNotice where
  rollbackInMinutes := mins
  rollbackDeadlineUnix := rollbackDeadlineUnix now mins
  message := "Commit confirmed: auto-rollback in ".toList ++ (Nat.repr mins).toList ++
    " minutes unless confirmed. Send another commit to confirm with confirm_commit.".toList

def noticeFor : Option Nat → ToolProg (Option ConfirmNotice)
  | none => .pure none
  | some mins => do
      let now : Nat ← toolCall .now
      return some (confirmNotice now mins)

theorem noticeFor_some {confirmed : Option Nat} {trace : ToolTrace} {notice : ConfirmNotice}
    (returns : Returns (noticeFor confirmed) trace (some notice)) :
    ∃ mins now, confirmed = some mins ∧ notice = confirmNotice now mins := by
  cases confirmed with
  | none =>
      obtain ⟨_, same⟩ := returns_pure.mp returns
      cases same
  | some mins =>
      obtain ⟨now, rest, _, later⟩ := returns_step.mp returns
      obtain ⟨_, same⟩ := returns_pure.mp later
      exact ⟨mins, now, rfl, Option.some.inj same⟩

/-- A checked call: the request, the window, and the warning. -/
structure CommitPlan where
  request : CandidateRequest
  confirmed : Option Nat
  warning : Option Text

structure CommitReport where
  committed : Bool
  diff : Text
  error : Option Text
  notice : Option ConfirmNotice
  note : Option Text
  warning : Option Text
  deriving DecidableEq

/-! ## `load_and_commit_config` -/

structure LoadCommitArgs where
  device : Text
  configText : Text
  configFormat : Text
  mode : Text
  commitComment : Text
  confirmTimeoutMins : Option Nat
  timeout : Duration

def loadCommitTool : Text := "load_and_commit_config".toList

def loadCommitPlan (context : ToolContext) (args : LoadCommitArgs) :
    Except JmcpError CommitPlan := do
  validateInputLength "config_text".toList args.configText
  let entry ← context.inventory args.device
  let warning ← checkPlaneOwnedOperation loadCommitTool args.device entry.configAuthority
    context.allowPlaneOwnedWrites
  let decision ← context.checkConfig args.device args.configFormat args.configText
  refuseDenied loadCommitTool args.device args.configText decision
  let loadMode ← parseLoadMode (some args.mode)
  refuseOverrideOutsideChangeset loadCommitTool loadMode
  let loadAction ← resolveLoadAction args.configFormat loadMode
  let payload ← buildConfigPayload args.configText (some args.configFormat)
  let (mode, confirmed) ← commitMode context.commitConfirmDefaultMins args.confirmTimeoutMins
    args.commitComment
  return ⟨⟨some payload, none, mode, loadAction⟩, confirmed, warning⟩

theorem loadCommitPlan_ok {context : ToolContext} {args : LoadCommitArgs} {plan : CommitPlan}
    (ok : loadCommitPlan context args = .ok plan) :
    ∃ entry loadMode loadAction payload mode,
      context.inventory args.device = .ok entry ∧
      checkPlaneOwnedOperation loadCommitTool args.device entry.configAuthority
        context.allowPlaneOwnedWrites = .ok plan.warning ∧
      refuseOverrideOutsideChangeset loadCommitTool loadMode = .ok () ∧
      resolveLoadAction args.configFormat loadMode = .ok loadAction ∧
      commitMode context.commitConfirmDefaultMins args.confirmTimeoutMins args.commitComment =
        .ok (mode, plan.confirmed) ∧
      plan.request = ⟨some payload, none, mode, loadAction⟩ := by
  rw [loadCommitPlan] at ok
  obtain ⟨_, _, ok⟩ := bind_eq_ok.mp ok
  obtain ⟨entry, found, ok⟩ := bind_eq_ok.mp ok
  obtain ⟨warning, owner, ok⟩ := bind_eq_ok.mp ok
  obtain ⟨_, _, ok⟩ := bind_eq_ok.mp ok
  obtain ⟨_, _, ok⟩ := bind_eq_ok.mp ok
  obtain ⟨loadMode, _, ok⟩ := bind_eq_ok.mp ok
  obtain ⟨_, notOverride, ok⟩ := bind_eq_ok.mp ok
  obtain ⟨loadAction, resolved, ok⟩ := bind_eq_ok.mp ok
  obtain ⟨payload, _, ok⟩ := bind_eq_ok.mp ok
  obtain ⟨⟨mode, confirmed⟩, window, ok⟩ := bind_eq_ok.mp ok
  cases ok
  exact ⟨entry, loadMode, loadAction, payload, mode, found, owner, notOverride, resolved, window,
    rfl⟩

def commentNotApplied (args : LoadCommitArgs) (confirmed : Option Nat) : Option Text :=
  if confirmed.isSome && !args.commitComment.isEmpty then
    some "commit_comment is not applied during confirmed commits (rustez API limitation)".toList
  else none

def reportLoadCommit (args : LoadCommitArgs) (plan : CommitPlan) :
    Except JmcpError CandidateResult → ToolProg (Except JmcpError CommitReport)
  | .error error => .pure (.error error)
  | .ok (.committed diff) => do
      let notice ← noticeFor plan.confirmed
      return .ok ⟨true, diff, none, notice, commentNotApplied args plan.confirmed, plan.warning⟩
  | .ok (.commitFailed diff error) =>
      .pure (.ok ⟨false, diff, some error, none, none, plan.warning⟩)
  -- `unreachable!`: the request commits.
  | .ok _ => .pure (.error (.other
      "load/commit transaction returned the wrong result kind".toList))

def loadAndCommitConfig (context : ToolContext) (args : LoadCommitArgs) :
    ToolProg (Except JmcpError CommitReport) :=
  match loadCommitPlan context args with
  | .error error => .pure (.error error)
  | .ok plan =>
      (toolCall (.transaction args.device plan.request args.timeout)).bind (reportLoadCommit args plan)

/-! ## `rollback_config` -/

structure RollbackConfigArgs where
  device : Text
  version : Int
  commit : Bool
  confirmTimeoutMins : Option Nat
  commitComment : Option Text
  timeout : Duration

/-- A preview writes nothing, so only a commit asks who owns the device. -/
def rollbackPlan (context : ToolContext) (args : RollbackConfigArgs) :
    Except JmcpError CommitPlan := do
  let entry ← context.inventory args.device
  let warning ← if args.commit then
      checkPlaneOwnedOperation "rollback_config".toList args.device entry.configAuthority
        context.allowPlaneOwnedWrites
    else .ok none
  let version ← validateRollbackVersion args.version
  let (mode, confirmed) ← if args.commit then
      commitMode context.commitConfirmDefaultMins args.confirmTimeoutMins
        (args.commitComment.getD ("rollback to ".toList ++ (Nat.repr version).toList ++
          " via rollback_config".toList))
    else .ok (.dryRun, none)
  return ⟨⟨none, some version, mode, .merge⟩, confirmed, warning⟩

theorem rollbackPlan_ok {context : ToolContext} {args : RollbackConfigArgs} {plan : CommitPlan}
    (ok : rollbackPlan context args = .ok plan) :
    ∃ entry version mode,
      context.inventory args.device = .ok entry ∧
      plan.request = ⟨none, some version, mode, .merge⟩ ∧
      (args.commit = true → checkPlaneOwnedOperation "rollback_config".toList args.device
          entry.configAuthority context.allowPlaneOwnedWrites = .ok plan.warning ∧
        ∃ comment, commitMode context.commitConfirmDefaultMins args.confirmTimeoutMins comment =
          .ok (mode, plan.confirmed)) ∧
      (args.commit = false → mode = .dryRun ∧ plan.confirmed = none) := by
  rw [rollbackPlan] at ok
  obtain ⟨entry, found, ok⟩ := bind_eq_ok.mp ok
  cases commit : args.commit with
  | true =>
      simp only [commit, if_true] at ok
      obtain ⟨warning, owner, ok⟩ := bind_eq_ok.mp ok
      obtain ⟨version, _, ok⟩ := bind_eq_ok.mp ok
      obtain ⟨⟨mode, confirmed⟩, window, ok⟩ := bind_eq_ok.mp ok
      cases ok
      exact ⟨entry, version, mode, found, rfl, fun _ => ⟨owner, _, window⟩, nofun⟩
  | false =>
      simp only [commit] at ok
      obtain ⟨warning, _, ok⟩ := bind_eq_ok.mp ok
      obtain ⟨version, _, ok⟩ := bind_eq_ok.mp ok
      cases ok
      exact ⟨entry, version, .dryRun, found, rfl, nofun, fun _ => ⟨rfl, rfl⟩⟩

def commentIgnored (args : RollbackConfigArgs) (confirmed : Option Nat) : Option Text :=
  if confirmed.isSome && args.commitComment.isSome then
    some "commit_comment is ignored during confirmed commits (rustez API limitation)".toList
  else none

def reportRollback (args : RollbackConfigArgs) (plan : CommitPlan) :
    Except JmcpError CandidateResult → ToolProg (Except JmcpError CommitReport)
  | .error error => .pure (.error error)
  | .ok (.dryRun diff) => .pure (.ok ⟨false, diff, none, none, none, none⟩)
  | .ok (.committed diff) => do
      let notice ← noticeFor plan.confirmed
      return .ok ⟨true, diff, none, notice, commentIgnored args plan.confirmed, plan.warning⟩
  | .ok (.commitFailed diff error) =>
      .pure (.ok ⟨false, diff, some error, none, none, plan.warning⟩)
  -- `unreachable!`
  | .ok _ => .pure (.error (.other
      "rollback transaction returned unexpected result kind".toList))

def rollbackConfig (context : ToolContext) (args : RollbackConfigArgs) :
    ToolProg (Except JmcpError CommitReport) :=
  match rollbackPlan context args with
  | .error error => .pure (.error error)
  | .ok plan =>
      (toolCall (.transaction args.device plan.request args.timeout)).bind (reportRollback args plan)

/-! ## `render_and_apply_j2_template` -/

structure TemplateArgs where
  templateContent : Text
  varsContent : Text
  deviceName : Option Text
  deviceNames : Option (List Text)
  applyConfig : Bool
  commitComment : Text
  dryRun : Bool
  configFormat : Option Text
  mode : Text
  confirmTimeoutMins : Option Nat
  timeout : Duration

def maxTemplateBytes : Nat := 65536

def overTemplateLimit (field content : Text) : Text :=
  field ++ " exceeds 65536-byte limit (".toList ++ (Nat.repr (utf8Len content)).toList ++
    " bytes)".toList

def parseVars (engine : TemplateEngine) (input : Text) : Except JmcpError engine.Vars :=
  if maxTemplateBytes < utf8Len input then
    .error (.templateVars (overTemplateLimit "vars_content".toList input))
  else match engine.fromStr input with
    | .error error => .error (.templateVars ("JSON parse failed: ".toList ++ error))
    | .ok none =>
        .error (.templateVars "vars_content must deserialize to a top-level JSON object".toList)
    | .ok (some vars) => .ok vars

def renderTemplate (engine : TemplateEngine) (content : Text) (vars : engine.Vars) :
    Except JmcpError Text :=
  if maxTemplateBytes < utf8Len content then
    .error (.templateSyntax (overTemplateLimit "template_content".toList content))
  else match engine.templateFromStr content with
    | .error error => .error (.templateSyntax error)
    | .ok () => match engine.render content vars with
      | .error error => .error (.templateRender error)
      | .ok rendered => .ok rendered

def trimStart (text : Text) : Text := text.dropWhile Text.isWhitespace

def detectFormat (rendered : Text) : Text :=
  if Text.startsWith (trimStart rendered) "<".toList then "xml".toList
  else if (Text.lines rendered).any fun line =>
      Text.startsWith (trimStart line) "set ".toList ||
        Text.startsWith (trimStart line) "delete ".toList then "set".toList
  else "text".toList

def resolveDevices (args : TemplateArgs) : Except JmcpError (List Text) :=
  match args.deviceName, args.deviceNames with
  | some _, some _ => .error (.validation
      "specify exactly one of `device_name` or `device_names`".toList)
  | some one, none => .ok [one]
  | none, some [] => .error (.validation "`device_names` cannot be empty".toList)
  | none, some many => .ok many
  | none, none => .ok []

def templateFormat (rendered : Text) : Option Text → Except JmcpError Text
  | some format =>
      if format = "set".toList ∨ format = "text".toList ∨ format = "xml".toList then .ok format
      else .error (.badFormat format)
  | none => .ok (detectFormat rendered)

structure TemplatePlan where
  devices : List Text
  rendered : Text
  format : Text
  loadAction : LoadAction

def templateTool : Text := "render_and_apply_j2_template".toList

/-- Every check before anything is sent; who owns the devices is not asked. -/
def templatePlan (context : ToolContext) (args : TemplateArgs) :
    Except JmcpError TemplatePlan := do
  let devices ← resolveDevices args
  devices.forM fun device => (context.inventory device).map fun _ => ()
  let vars ← parseVars context.engine args.varsContent
  let rendered ← renderTemplate context.engine args.templateContent vars
  let format ← templateFormat rendered args.configFormat
  let loadMode ← parseLoadMode (some args.mode)
  refuseOverrideOutsideChangeset templateTool loadMode
  let loadAction ← resolveLoadAction format loadMode
  if format ≠ "set".toList ∧ devices.any context.hasConfigRulesFor then
    .error (.templateFormatMismatch format)
  else return ⟨devices, rendered, format, loadAction⟩

theorem templatePlan_ok {context : ToolContext} {args : TemplateArgs} {plan : TemplatePlan}
    (ok : templatePlan context args = .ok plan) :
    ∃ loadMode, refuseOverrideOutsideChangeset templateTool loadMode = .ok () ∧
      resolveLoadAction plan.format loadMode = .ok plan.loadAction ∧
      templateFormat plan.rendered args.configFormat = .ok plan.format := by
  rw [templatePlan] at ok
  obtain ⟨devices, _, ok⟩ := bind_eq_ok.mp ok
  obtain ⟨_, _, ok⟩ := bind_eq_ok.mp ok
  obtain ⟨vars, _, ok⟩ := bind_eq_ok.mp ok
  obtain ⟨rendered, _, ok⟩ := bind_eq_ok.mp ok
  obtain ⟨format, known, ok⟩ := bind_eq_ok.mp ok
  obtain ⟨loadMode, _, ok⟩ := bind_eq_ok.mp ok
  obtain ⟨_, notOverride, ok⟩ := bind_eq_ok.mp ok
  obtain ⟨loadAction, resolved, ok⟩ := bind_eq_ok.mp ok
  split at ok
  · cases ok
  · cases ok
    exact ⟨loadMode, notOverride, resolved, known⟩

theorem detectFormat_known (rendered : Text) :
    detectFormat rendered = "set".toList ∨ detectFormat rendered = "text".toList ∨
      detectFormat rendered = "xml".toList := by
  rw [detectFormat]
  split
  · exact .inr (.inr rfl)
  · split
    · exact .inl rfl
    · exact .inr (.inl rfl)

theorem templateFormat_known {rendered format : Text} {configFormat : Option Text}
    (ok : templateFormat rendered configFormat = .ok format) :
    format = "set".toList ∨ format = "text".toList ∨ format = "xml".toList := by
  cases configFormat with
  | none =>
      cases ok
      exact detectFormat_known rendered
  | some given =>
      rw [templateFormat] at ok
      split at ok
      · next known =>
          cases ok
          exact known
      · cases ok

theorem templatePlan_payload {context : ToolContext} {args : TemplateArgs} {plan : TemplatePlan}
    (ok : templatePlan context args = .ok plan) :
    ∃ payload, buildConfigPayload plan.rendered (some plan.format) = .ok payload := by
  obtain ⟨loadMode, _, _, known⟩ := templatePlan_ok ok
  rcases templateFormat_known known with format | format | format
  · exact ⟨.set plan.rendered, by rw [format]; rfl⟩
  · exact ⟨.text plan.rendered, by rw [format]; rfl⟩
  · exact ⟨.xml plan.rendered, by rw [format]; rfl⟩

structure TemplateRow where
  router : Option Text
  rendered : Text
  format : Text
  diff : Option Text
  commitComment : Option Text
  notice : Option ConfirmNotice
  error : Option Text
  deriving DecidableEq

def TemplatePlan.row (plan : TemplatePlan) (router : Option Text) : TemplateRow :=
  ⟨router, plan.rendered, plan.format, none, none, none, none⟩

def TemplatePlan.failedRow (plan : TemplatePlan) (device error : Text) : TemplateRow :=
  { plan.row (some device) with error := some error }

structure TemplateReport where
  results : List TemplateRow
  applied : Bool
  deriving DecidableEq

/-- What one device is asked to do. -/
def commitOneMode (context : ToolContext) (args : TemplateArgs) :
    Except JmcpError (CandidateMode × Option Nat) :=
  if args.dryRun then .ok (.dryRun, none)
  else commitMode context.commitConfirmDefaultMins args.confirmTimeoutMins args.commitComment

/-- A failed device is a row, except that a cancelled call ends the loop. -/
def reportDevice (args : TemplateArgs) (plan : TemplatePlan) (device : Text)
    (confirmed : Option Nat) :
    Except JmcpError CandidateResult → ToolProg (Except JmcpError TemplateRow)
  | .error .cancelled => .pure (.error .cancelled)
  | .error error => .pure (.ok (plan.failedRow device error.display))
  | .ok (.dryRun diff) => .pure (.ok { plan.row (some device) with diff := some diff })
  | .ok (.committed _) => do
      let notice ← noticeFor confirmed
      return .ok { plan.row (some device) with
        commitComment := some args.commitComment
        notice := notice }
  | .ok (.commitFailed _ error) =>
      .pure (.ok (plan.failedRow device (JmcpError.validation error).display))
  -- `unreachable!`
  | .ok _ => .pure (.error (.other
      "template transaction returned the wrong result kind".toList))

def commitOne (context : ToolContext) (args : TemplateArgs) (plan : TemplatePlan)
    (payload : ConfigPayload) (device : Text) : ToolProg (Except JmcpError TemplateRow) :=
  match commitOneMode context args with
  | .error error => .pure (.ok (plan.failedRow device error.display))
  | .ok (mode, confirmed) =>
      (toolCall (.transaction device ⟨some payload, none, mode, plan.loadAction⟩
        args.timeout)).bind (reportDevice args plan device confirmed)

def applyDevice (context : ToolContext) (args : TemplateArgs) (plan : TemplatePlan)
    (payload : ConfigPayload) (device : Text) : ToolProg (Except JmcpError TemplateRow) :=
  match context.checkConfig device plan.format plan.rendered with
  | .error error => .pure (.error error)
  | .ok (.deny pattern ruleSource _) => .pure (.ok (plan.failedRow device
      ("blocklist denied: pattern `".toList ++ pattern ++ "` from ".toList ++ ruleSource)))
  | .ok .denyAllowlist => .pure (.ok (plan.failedRow device
      "policy invariant violated: config domain returned DenyAllowlist".toList))
  | .ok .allow => commitOne context args plan payload device

def applyDevices (context : ToolContext) (args : TemplateArgs) (plan : TemplatePlan)
    (payload : ConfigPayload) : List Text → ToolProg (Except JmcpError (List TemplateRow))
  | [] => .pure (.ok [])
  | device :: rest =>
      (applyDevice context args plan payload device).andThen fun row =>
        (applyDevices context args plan payload rest).andThen fun rows => .pure (.ok (row :: rows))

def renderedRows (plan : TemplatePlan) : List TemplateRow :=
  if plan.devices.isEmpty then [plan.row none] else plan.devices.map fun device => plan.row (some device)

def applyPlan (context : ToolContext) (args : TemplateArgs) (plan : TemplatePlan) :
    ToolProg (Except JmcpError TemplateReport) :=
  if args.applyConfig then
    match buildConfigPayload plan.rendered (some plan.format) with
    | .error error => .pure (.error error)
    | .ok payload => (applyDevices context args plan payload plan.devices).andThen fun rows =>
        .pure (.ok ⟨rows, !args.dryRun⟩)
  else .pure (.ok ⟨renderedRows plan, false⟩)

def renderAndApplyTemplate (context : ToolContext) (args : TemplateArgs) :
    ToolProg (Except JmcpError TemplateReport) :=
  match templatePlan context args with
  | .error error => .pure (.error error)
  | .ok plan => applyPlan context args plan

end JunosMcp
