import JunosMcp.CandidateTools
import JunosMcp.ChangeSet.Coordinator
import JunosMcp.Scope
import JunosMcp.Upgrade.Run

/-!
# The server's tools

How a call gets to its tool, by name or through `execute`, and what each handler checks before the
tool runs: the token's scopes, the direct-commit gate, and an authenticated caller.
-/

namespace JunosMcp
open Lib ChangeSet

/-! ## What handlers call -/

inductive ServerCall where
  | tool (call : ToolCall)
  | review (call : ReviewCall)
  | apply (call : ApplyCall)
  | confirm (call : ConfirmCall)

def ServerCall.Reply : ServerCall → Type
  | .tool call => call.Reply
  | .review call => call.Reply
  | .apply call => call.Reply
  | .confirm call => call.Reply

abbrev ServerOp := Await ServerCall

abbrev ServerRes := Await.Res ServerCall.Reply

abbrev ServerProg (α : Type) := Prog ServerOp ServerRes α

def onTools {α : Type} (program : ToolProg α) : ServerProg α :=
  program.relabel (Await.rename ServerCall.tool)
    (Await.readAnswer ServerCall.tool fun _ reply => reply)

def onReview {α : Type} (program : ReviewProg α) : ServerProg α :=
  program.relabel (Await.rename ServerCall.review)
    (Await.readAnswer ServerCall.review fun _ reply => reply)

def onApply {α : Type} (program : ApplyProg α) : ServerProg α :=
  program.relabel (Await.rename ServerCall.apply)
    (Await.readAnswer ServerCall.apply fun _ reply => reply)

def onConfirm {α : Type} (program : ConfirmProg α) : ServerProg α :=
  program.relabel (Await.rename ServerCall.confirm)
    (Await.readAnswer ServerCall.confirm fun _ reply => reply)

/-- Calls that open no configuration transaction and change no change set. -/
def ServerCall.Reads : ServerCall → Prop
  | .tool (.transaction ..) | .review _ => False
  | .apply (.applyChangeSet _) | .apply (.commitOperation ..) | .apply (.updateChangeSet _) => False
  | .confirm (.confirmCommit ..) => False
  | _ => True

/-! ## Requests -/

/-- The concrete tools, in alphabetical order. -/
def concreteTools : List Text :=
  ["add_device".toList, "apply_junos_change_set".toList, "approve_junos_change_set".toList,
   "cancel_junos_change_set".toList, "check_srx_feature_license".toList,
   "collect_jtac_support_bundle".toList, "commit_check_config".toList, "confirm_commit".toList,
   "confirm_junos_change_set".toList, "create_junos_change_set".toList,
   "discard_candidate".toList, "execute_junos_command".toList,
   "execute_junos_command_batch".toList, "execute_junos_pfe_command".toList, "fetch_file".toList,
   "gather_device_facts".toList, "get_chassis_cluster_status".toList, "get_device_list".toList,
   "get_junos_candidate_fingerprint".toList, "get_junos_change_set_status".toList,
   "get_junos_config".toList, "get_router_list".toList,
   "get_srx_security_services_status".toList, "junos_config_diff".toList,
   "list_junos_change_sets".toList, "list_staged_files".toList,
   "load_and_commit_config".toList, "manage_appid_signature_package".toList,
   "manage_idp_security_package".toList, "reload_devices".toList,
   "render_and_apply_j2_template".toList, "rollback_config".toList, "srx_flow_sessions".toList,
   "srx_list_nat_rules".toList, "srx_list_policies".toList, "srx_policy_match".toList,
   "srx_resolve_address".toList, "srx_resolve_application".toList, "srxmcp_status".toList,
   "transfer_file".toList, "upgrade_junos".toList, "validate_chassis_cluster_health".toList,
   "vpn_lifecycle_report".toList]

def rollbackTool : Text := "rollback_config".toList

def discardTool : Text := "discard_candidate".toList

def confirmCommitName : Text := "confirm_commit".toList

def upgradeTool : Text := "upgrade_junos".toList

def approveTool : Text := "approve_junos_change_set".toList

def cancelTool : Text := "cancel_junos_change_set".toList

def applyTool : Text := "apply_junos_change_set".toList

def confirmTool : Text := "confirm_junos_change_set".toList

/-- A tool that only reads, moves files or sends operational commands; how it goes is left open. The
tools that run a candidate transaction or change a change set each have a request of their own. -/
structure OtherTool where
  name : Text
  program : ServerProg (Except JmcpError Text)
  reads : program.Performs fun op => ∀ call, op.sends = some call → call.Reads

inductive ToolRequest where
  | loadAndCommitConfig (args : LoadCommitArgs)
  | commitCheckConfig (args : CommitCheckArgs)
  | discardCandidate (args : DiscardCandidateArgs)
  | rollbackConfig (args : RollbackConfigArgs)
  | confirmCommit (args : ConfirmCommitArgs)
  | renderAndApplyTemplate (args : TemplateArgs)
  | upgradeJunos (request : Upgrade.UpgradeRequest)
  | createChangeSet (args : CreateChangeSetArgs)
  | approveChangeSet (args : ApproveChangeSetArgs)
  | cancelChangeSet (args : CancelChangeSetArgs)
  | applyChangeSet (args : ApplyChangeSetArgs)
  | confirmChangeSet (args : ConfirmChangeSetArgs)
  | other (tool : OtherTool)

def ToolRequest.tool : ToolRequest → Text
  | .loadAndCommitConfig _ => loadCommitTool
  | .commitCheckConfig _ => commitCheckTool
  | .discardCandidate _ => discardTool
  | .rollbackConfig _ => rollbackTool
  | .confirmCommit _ => confirmCommitName
  | .renderAndApplyTemplate _ => templateTool
  | .upgradeJunos _ => upgradeTool
  | .createChangeSet _ => createTool
  | .approveChangeSet _ => approveTool
  | .cancelChangeSet _ => cancelTool
  | .applyChangeSet _ => applyTool
  | .confirmChangeSet _ => confirmTool
  | .other tool => tool.name

structure ExecuteArgs (Arguments : Type) where
  operation : Text
  arguments : Arguments

/-- How arguments are deserialised, each tool's into a request of that tool. -/
structure Registry (Arguments : Type) where
  decode : Text → Arguments → Except Text ToolRequest
  decodeExecute : Arguments → Except Text (ExecuteArgs Arguments)
  named : ∀ {name : Text} {arguments : Arguments} {request : ToolRequest},
    decode name arguments = .ok request → request.tool = name

inductive CallError where
  | unknownTool (name : Text)
  | unknownOperation (summary : Text) (operationBytes : Nat) (allowed : List Text)
  | badArguments (message : Text)
  | scope (error : ScopeError)
  | tool (error : JmcpError)
  | confirmationRequired (payload : Upgrade.JsonObject)
  deriving DecidableEq

/-! ## Routing -/

section Routing
variable {Arguments : Type} (registry : Registry Arguments) (ctx : Option CallerCtx)

def concreteCall (name : Text) (arguments : Arguments) : Except CallError ToolRequest :=
  if name ∈ concreteTools then (registry.decode name arguments).mapError .badArguments
  else .error (.unknownTool name)

def executeTool : Text := "execute".toList

def maxOperationChars : Nat := 128

def maxRejectedOperationChars : Nat := 96

def findOperation (operation : Text) : Option Text :=
  if maxOperationChars < operation.length then none
  else concreteTools.find? (· == operation)

def unknownOperation (operation : Text) : CallError :=
  .unknownOperation (operation.take maxRejectedOperationChars) (utf8Len operation) concreteTools

/-- The facade has a scope of its own, and the tool it names is called like any other. -/
def executeCall (arguments : Arguments) : Except CallError ToolRequest := do
  (checkToolScope ctx executeTool).mapError .scope
  let outer ← (registry.decodeExecute arguments).mapError .badArguments
  match findOperation outer.operation with
  | none => .error (unknownOperation outer.operation)
  | some operation => concreteCall registry operation outer.arguments

def route (name : Text) (arguments : Arguments) : Except CallError ToolRequest :=
  if name = executeTool then executeCall registry ctx arguments
  else concreteCall registry name arguments

end Routing

/-! ## Handlers -/

inductive ToolReport where
  | commit (report : CommitReport)
  | check (report : CheckReport)
  | discarded (message : Text)
  | confirmedCommit (report : ConfirmCommitReport)
  | template (report : TemplateReport)
  | upgrade (report : Upgrade.UpgradeReport)
  | created (report : CreateReport)
  | reviewed (report : ReviewReport)
  | applied (report : ApplyReport)
  | confirmed (report : ConfirmReport)
  | other (text : Text)
  deriving DecidableEq

abbrev HandlerProg := ServerProg (Except CallError ToolReport)

/-- What the process was started with. How a token is attributed, and the text of the gate's
refusal, come from a package. -/
structure JmcpHandler extends Upgrade.UpgradeContext where
  allowDirectCommit : Bool
  directCommitRefusal : Text
  labMode : Bool
  fromCaller : CallerCtx → Attribution
  stdio : Attribution
  actorType : CallerCtx → Text
  badByte : Text → Text

section Handlers
variable (handler : JmcpHandler) (ctx : Option CallerCtx)

def JmcpHandler.target (name : Text) : Except JmcpError TargetDevice :=
  (handler.inventory name).map ToolDevice.toTargetDevice

def JmcpHandler.applyContext (attribution : Attribution) : ApplyContext where
  inventory := handler.target
  checkConfig := handler.checkConfig
  commitConfirmDefaultMins := handler.commitConfirmDefaultMins
  attribution := attribution

def JmcpHandler.attribution : Option CallerCtx → Attribution
  | some caller => handler.fromCaller caller
  | none => handler.stdio

/-- `direct_commit.check`. -/
def JmcpHandler.checkDirectCommit : Except CallError Unit :=
  if handler.allowDirectCommit then .ok ()
  else .error (.tool (.directCommitDisabled handler.directCommitRefusal))

def checkScopes (tool : Text) (devices : List Text) : Except CallError Unit := do
  (checkToolScope ctx tool).mapError .scope
  devices.forM fun device => (checkRouterScope ctx tool device).mapError .scope

/-- Two-person control needs a caller with a name. -/
def authenticated (tool : Text) : Except CallError CallerCtx :=
  match ctx with
  | some caller => .ok caller
  | none => .error (.tool (.validation (tool ++
      " requires authentication; not available on stdio or with --allow-no-auth".toList)))

def after {α : Type} (checks : Except CallError α) (program : α → HandlerProg) : HandlerProg :=
  match checks with
  | .error error => .pure (.error error)
  | .ok value => program value

def reported {α : Type} (report : α → ToolReport) (program : ServerProg (Except JmcpError α)) :
    HandlerProg :=
  program.bind fun
    | .ok value => .pure (.ok (report value))
    | .error error => .pure (.error (.tool error))

def loadAndCommitConfigHandler (args : LoadCommitArgs) : HandlerProg :=
  after (do
    checkScopes ctx loadCommitTool [args.device]
    handler.checkDirectCommit)
  fun _ => reported .commit (onTools (loadAndCommitConfig handler.toToolContext args))

def commitCheckConfigHandler (args : CommitCheckArgs) : HandlerProg :=
  after (checkScopes ctx commitCheckTool [args.device])
  fun _ => reported .check (onTools (commitCheckConfig handler.toToolContext args))

def discardCandidateHandler (args : DiscardCandidateArgs) : HandlerProg :=
  after (checkScopes ctx discardTool [args.device])
  fun _ => reported .discarded (onTools (discardCandidate handler.toToolContext args))

/-- A preview is not gated. -/
def rollbackConfigHandler (args : RollbackConfigArgs) : HandlerProg :=
  after (do
    checkScopes ctx rollbackTool [args.device]
    if args.commit then handler.checkDirectCommit else .ok ())
  fun _ => reported .commit (onTools (rollbackConfig handler.toToolContext args))

def confirmCommitHandler (args : ConfirmCommitArgs) : HandlerProg :=
  after (do
    checkScopes ctx confirmCommitName [args.device]
    handler.checkDirectCommit)
  fun _ => reported .confirmedCommit
    (onConfirm (handleConfirmCommit handler.target args (handler.attribution ctx)))

/-- The devices whose scope is checked; a call that names them both ways is refused later. -/
def TemplateArgs.resolved (args : TemplateArgs) : List Text :=
  match args.deviceName, args.deviceNames with
  | some one, none => [one]
  | none, some many => many
  | _, _ => []

/-- Only a call that is to commit is gated. -/
def renderAndApplyTemplateHandler (args : TemplateArgs) : HandlerProg :=
  after (do
    checkScopes ctx templateTool args.resolved
    if args.applyConfig && !args.dryRun then handler.checkDirectCommit else .ok ())
  fun _ => reported .template (onTools (renderAndApplyTemplate handler.toToolContext args))

def reportUpgrade : Except Upgrade.UpgradeError Upgrade.UpgradeReport →
    Except CallError ToolReport
  | .ok report => .ok (.upgrade report)
  | .error (.tool error) => .error (.tool error)
  | .error (.confirmationRequired payload) => .error (.confirmationRequired payload)

/-- Without `confirm` the call is the preflight, which is not gated. -/
def upgradeJunosHandler (request : Upgrade.UpgradeRequest) : HandlerProg :=
  after (do
    checkScopes ctx upgradeTool [request.device]
    if request.confirm then handler.checkDirectCommit else .ok ())
  fun _ => (onTools (Upgrade.upgradeJunos handler.toUpgradeContext request handler.badByte)).bind
    fun result => .pure (reportUpgrade result)

def createChangeSetHandler (args : CreateChangeSetArgs) : HandlerProg :=
  after (do
    checkScopes ctx createTool [args.device]
    authenticated ctx createTool)
  fun caller => reported .created (onReview (createChangeSet handler.toToolContext handler.labMode
    (handler.fromCaller caller).principal args))

def approveChangeSetHandler (args : ApproveChangeSetArgs) : HandlerProg :=
  after (do
    checkScopes ctx approveTool [args.device]
    authenticated ctx approveTool)
  fun caller => reported .reviewed (onReview (approveChangeSet handler.toToolContext
    (handler.fromCaller caller).principal (handler.actorType caller) args))

def cancelChangeSetHandler (args : CancelChangeSetArgs) : HandlerProg :=
  after (do
    checkScopes ctx cancelTool [args.device]
    authenticated ctx cancelTool)
  fun caller => reported .reviewed (onReview (cancelChangeSet handler.toToolContext
    (handler.fromCaller caller).principal args))

def applyChangeSetHandler (args : ApplyChangeSetArgs) : HandlerProg :=
  after (do
    checkScopes ctx applyTool [args.device]
    authenticated ctx applyTool)
  fun caller => reported .applied (onApply (applyChangeSet
    (handler.applyContext (handler.fromCaller caller)) args))

def confirmChangeSetHandler (args : ConfirmChangeSetArgs) : HandlerProg :=
  after (do
    checkScopes ctx confirmTool [args.device]
    authenticated ctx confirmTool)
  fun caller => reported .confirmed (onConfirm (confirmChangeSet handler.target args
    (handler.fromCaller caller)))

def handle : ToolRequest → HandlerProg
  | .loadAndCommitConfig args => loadAndCommitConfigHandler handler ctx args
  | .commitCheckConfig args => commitCheckConfigHandler handler ctx args
  | .discardCandidate args => discardCandidateHandler handler ctx args
  | .rollbackConfig args => rollbackConfigHandler handler ctx args
  | .confirmCommit args => confirmCommitHandler handler ctx args
  | .renderAndApplyTemplate args => renderAndApplyTemplateHandler handler ctx args
  | .upgradeJunos request => upgradeJunosHandler handler ctx request
  | .createChangeSet args => createChangeSetHandler handler ctx args
  | .approveChangeSet args => approveChangeSetHandler handler ctx args
  | .cancelChangeSet args => cancelChangeSetHandler handler ctx args
  | .applyChangeSet args => applyChangeSetHandler handler ctx args
  | .confirmChangeSet args => confirmChangeSetHandler handler ctx args
  | .other tool => reported .other tool.program

end Handlers

/-- `call_tool`. -/
def callTool {Arguments : Type} (registry : Registry Arguments) (handler : JmcpHandler)
    (ctx : Option CallerCtx) (name : Text) (arguments : Arguments) : HandlerProg :=
  after (route registry ctx name arguments) (handle handler ctx)

end JunosMcp
