import JunosMcp.ChangeSet.Apply
import JunosMcp.DirectTools

/-!
# Planning and approving a change set

`create_change_set`, `approve_change_set` and `cancel_change_set`: the checks on a new plan, and the
calls on the coordinator. In lab mode the plan's approval is waived as soon as it is stored.
-/

namespace JunosMcp.ChangeSet
open Lib

/-! ## Calls -/

/-- The fields of the coordinator's record that its callers report. -/
structure PlannedSet where
  changeSetId : Text
  digest : Text
  state : ChangeSetState
  approver : Option Text
  approvalWaiver : Option Text
  deriving DecidableEq

inductive ReviewCall where
  | createChangeSet (device : Text) (actions : List JunosAction)
      (owner expectedFingerprint policySignature : Text)
  | waiveApproval (changeSetId device owner digest : Text)
  | approveChangeSet (changeSetId device approver expectedDigest actorType : Text)
  | cancelChangeSet (changeSetId device principal : Text)

def ReviewCall.Reply (_ : ReviewCall) : Type := Except Text PlannedSet

abbrev ReviewOp := Await ReviewCall

abbrev ReviewRes := Await.Res ReviewCall.Reply

abbrev ReviewProg (α : Type) := Prog ReviewOp ReviewRes α

def consult (call : ReviewCall) : ReviewProg (Except Text PlannedSet) := .step (.bare call) .pure

/-! ## `create_junos_change_set` -/

structure CreateChangeSetArgs where
  device : Text
  expectedFingerprint : Text
  actions : List JunosAction

def createTool : Text := "create_junos_change_set".toList

def validateShape (index : Nat) (action : JunosAction) : Except JmcpError Unit :=
  match action.payload, action.rollbackSource with
  | some _, none | none, some _ => .ok ()
  | none, none => .error (.validation ("action ".toList ++ (Nat.repr index).toList ++
      (" has neither `payload` nor `rollback_source`; exactly one is required. If you meant to " ++
        "load configuration, the field is `payload`, an object of the form " ++
        "\x7b\"text\": \"<config>\", \"format\": \"set\"|\"text\"|\"xml\"\x7d").toList))
  | some _, some _ => .error (.validation ("action ".toList ++ (Nat.repr index).toList ++
      " sets both `payload` and `rollback_source`; exactly one is required".toList))

/-- Whether the action asks for an override. -/
def checkNewAction (index : Nat) (action : JunosAction) : Except JmcpError Bool := do
  validateShape index action
  match action.payload with
  | none => return false
  | some payload =>
      let format := payload.format.getD "set".toList
      let _ ← buildConfigPayload [] (some format)
      let requested ← parseLoadMode payload.mode
      let _ ← resolveLoadAction format requested
      return decide (requested = .override)

def checkNewActions : Nat → List JunosAction → Except JmcpError Bool
  | _, [] => .ok false
  | index, action :: rest => do
      let here ← checkNewAction index action
      let later ← checkNewActions (index + 1) rest
      return here || later

def checkNewPolicy (context : ToolContext) (device : Text) (action : JunosAction) :
    Except JmcpError Unit :=
  match action.payload with
  | none => .ok ()
  | some payload => do
      let decision ← context.checkConfig device (payload.format.getD "set".toList) payload.text
      refuseDenied createTool device payload.text decision

/-- Every check before the plan is stored. An override waits for a human, so not in lab mode. -/
def checkNewChangeSet (context : ToolContext) (labMode : Bool) (args : CreateChangeSetArgs) :
    Except JmcpError Unit := do
  let _ ← context.inventory args.device
  let requestsOverride ← checkNewActions 0 args.actions
  if requestsOverride && labMode then .error (.overrideRequiresHumanApproval createTool)
  else args.actions.forM (checkNewPolicy context args.device)

structure CreateReport where
  planned : PlannedSet
  message : Text
  deriving DecidableEq

def createdMessage : Text :=
  "change set created; awaiting approval by a second principal".toList

def waivedMessage : Text :=
  ("change set created and approval waived: this server runs in lab mode, so no second " ++
    "principal reviewed it").toList

def waiveCreated (args : CreateChangeSetArgs) (owner : Text) (planned : PlannedSet) :
    ReviewProg (Except JmcpError CreateReport) := do
  match ← consult (.waiveApproval planned.changeSetId args.device owner planned.digest) with
  | .error error => return .error (.validation error)
  | .ok waived => return .ok ⟨waived, waivedMessage⟩

def createChangeSet (context : ToolContext) (labMode : Bool) (owner : Text)
    (args : CreateChangeSetArgs) : ReviewProg (Except JmcpError CreateReport) :=
  match checkNewChangeSet context labMode args with
  | .error error => .pure (.error error)
  | .ok () => do
      match ← consult (.createChangeSet args.device args.actions owner args.expectedFingerprint
          "junos-default-v1".toList) with
      | .error error => return .error (.validation error)
      | .ok planned =>
          match labMode with
          | true => waiveCreated args owner planned
          | false => return .ok ⟨planned, createdMessage⟩

/-! ## `approve_junos_change_set` and `cancel_junos_change_set` -/

structure ApproveChangeSetArgs where
  changeSetId : Text
  device : Text
  expectedDigest : Text

structure CancelChangeSetArgs where
  changeSetId : Text
  device : Text

structure ReviewReport where
  changeSetId : Text
  state : ChangeSetState
  digest : Text
  message : Text
  deriving DecidableEq

def reviewed (changeSetId message : Text) :
    Except Text PlannedSet → ReviewProg (Except JmcpError ReviewReport)
  | .error error => .pure (.error (.validation error))
  | .ok result => .pure (.ok ⟨changeSetId, result.state, result.digest, message⟩)

def approveChangeSet (context : ToolContext) (approver actorType : Text)
    (args : ApproveChangeSetArgs) : ReviewProg (Except JmcpError ReviewReport) :=
  match context.inventory args.device with
  | .error error => .pure (.error error)
  | .ok _ =>
      (consult (.approveChangeSet args.changeSetId args.device approver args.expectedDigest
        actorType)).bind
        (reviewed args.changeSetId "change set approved; ready to apply".toList)

def cancelChangeSet (context : ToolContext) (principal : Text) (args : CancelChangeSetArgs) :
    ReviewProg (Except JmcpError ReviewReport) :=
  match context.inventory args.device with
  | .error error => .pure (.error error)
  | .ok _ =>
      (consult (.cancelChangeSet args.changeSetId args.device principal)).bind
        (reviewed args.changeSetId "change set cancelled".toList)

/-! ## Plans that override -/

def requestsOverride (action : JunosAction) : Bool :=
  match action.payload with
  | none => false
  | some payload => decide (parseLoadMode payload.mode = .ok .override)

/-- What an owner asks for; it stays as it was given. -/
structure Plan where
  owner : Text
  actions : List (Except Text JunosAction)

def ChangeSetRecord.plan (record : ChangeSetRecord) : Plan := ⟨record.owner, record.actions⟩

def Plan.Overrides (plan : Plan) : Prop :=
  ∃ action, .ok action ∈ plan.actions ∧ requestsOverride action = true

theorem checkNewAction_ok {index : Nat} {action : JunosAction} {asks : Bool}
    (ok : checkNewAction index action = .ok asks) : requestsOverride action = asks := by
  rw [checkNewAction] at ok
  obtain ⟨_, _, ok⟩ := bind_eq_ok.mp ok
  cases given : action.payload with
  | none =>
      rw [given] at ok
      cases ok
      simp [requestsOverride, given]
  | some payload =>
      rw [given] at ok
      obtain ⟨_, _, ok⟩ := bind_eq_ok.mp ok
      obtain ⟨requested, parsed, ok⟩ := bind_eq_ok.mp ok
      obtain ⟨_, _, ok⟩ := bind_eq_ok.mp ok
      cases ok
      simp [requestsOverride, given, parsed]

theorem checkNewActions_ok {index : Nat} {actions : List JunosAction} {asks : Bool}
    (ok : checkNewActions index actions = .ok asks) : actions.any requestsOverride = asks := by
  induction actions generalizing index asks with
  | nil =>
      cases ok
      rfl
  | cons action rest ih =>
      rw [checkNewActions] at ok
      obtain ⟨here, first, ok⟩ := bind_eq_ok.mp ok
      obtain ⟨later, others, ok⟩ := bind_eq_ok.mp ok
      cases ok
      rw [List.any_cons, checkNewAction_ok first, ih others]

/-- What is created in lab mode overrides nothing. -/
theorem checkNewChangeSet_lab {context : ToolContext} {args : CreateChangeSetArgs} {owner : Text}
    (ok : checkNewChangeSet context true args = .ok ()) :
    ¬Plan.Overrides ⟨owner, args.actions.map .ok⟩ := by
  rw [checkNewChangeSet] at ok
  obtain ⟨_, _, ok⟩ := bind_eq_ok.mp ok
  obtain ⟨asks, checked, ok⟩ := bind_eq_ok.mp ok
  have none : asks = false := by
    cases asks with
    | false => rfl
    | true => cases ok
  rintro ⟨action, member, overrides⟩
  obtain ⟨_, given, same⟩ := List.mem_map.mp member
  cases same
  have any : args.actions.any requestsOverride = true := List.any_eq_true.mpr ⟨_, given, overrides⟩
  rw [checkNewActions_ok checked, none] at any
  cases any

theorem resolveLoadAction_override {format : Text} {mode : LoadAction}
    (ok : resolveLoadAction format mode = .ok .override) : mode = .override := by
  rw [resolveLoadAction] at ok
  by_cases set : (format == "set".toList) = true
  · rw [if_pos set] at ok
    split at ok <;> cases ok
  · rw [if_neg set] at ok
    cases ok
    rfl

/-- A plan whose loads override was asked to. -/
theorem resolveActions_override {actions : List JunosAction} {resolved : List ResolvedAction}
    {payload : ConfigPayload} {owner : Text} (ok : resolveActions actions = .ok resolved)
    (loads : .load payload .override ∈ resolved) : Plan.Overrides ⟨owner, actions.map .ok⟩ := by
  rw [resolveActions] at ok
  obtain ⟨_, _, ok⟩ := bind_eq_ok.mp ok
  obtain ⟨action, member, here⟩ := mapM_ok_mem ok loads
  refine ⟨action, List.mem_map_of_mem member, ?_⟩
  rw [resolveAction.eq_def] at here
  cases source : action.rollbackSource with
  | some version =>
      rw [source] at here
      cases here
  | none =>
      cases given : action.payload with
      | none =>
          rw [source, given] at here
          cases here
      | some spec =>
          rw [source, given] at here
          obtain ⟨_, _, here⟩ := bind_eq_ok.mp here
          obtain ⟨requested, parsed, here⟩ := bind_eq_ok.mp here
          obtain ⟨action, wire, here⟩ := bind_eq_ok.mp here
          cases here
          rw [resolveLoadAction_override wire] at parsed
          simp [requestsOverride, given, parsed]

end JunosMcp.ChangeSet
