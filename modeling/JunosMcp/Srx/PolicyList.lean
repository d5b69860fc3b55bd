import JunosMcp.Lib.FirstSeen
import JunosMcp.Srx.Device
import JunosMcp.Srx.Fields

/-!
# `srx_list_policies`

The security policies of every zone pair, one page of them, with their hit counts where these are
asked for.
-/

namespace JunosMcp.Srx.PolicyList

open Lib

structure PolicyListArgs where
  router : Text
  fromZone : Option Text
  toZone : Option Text
  policyName : Option Text
  includeHitCounts : Bool
  limit : Nat
  offset : Nat
  includeRaw : Bool

inductive PolicyAction where
  | permit
  | deny
  | reject
  | permitWithServices (services : List Text)
deriving DecidableEq

inductive PolicyState where
  | enabled
  | disabled
deriving DecidableEq

inductive PolicyLog where
  | none
  | sessionInit
  | sessionClose
  | both
deriving DecidableEq

structure SecurityPolicy where
  fromZone : Text
  toZone : Text
  name : Text
  state : PolicyState
  sequence : Nat
  sourceAddresses : List Text
  destinationAddresses : List Text
  applications : List Text
  action : PolicyAction
  log : PolicyLog
  hitCount : Option Nat
deriving DecidableEq

structure PolicyListData where
  policies : List SecurityPolicy
  truncated : Bool
  totalCount : Nat

/-- The zones and the name of a policy. -/
abbrev PolicyKey := Text × Text × Text

def SecurityPolicy.key (policy : SecurityPolicy) : PolicyKey :=
  (policy.fromZone, policy.toZone, policy.name)

abbrev HitCounts := PolicyKey → Option Nat

def rpcName : String := "get-firewall-policies"

/-! ## One policy -/

def parseNameList (itemTag nameTag : String) (container : XmlNode) : List Text :=
  (container.childrenNamed itemTag).filterMap (XmlNode.childText nameTag)

def knownPolicyInformationChildren : List Text :=
  ["policy-name".toList, "policy-state".toList, "policy-identifier".toList,
    "policy-sequence-number".toList, "source-addresses".toList, "destination-addresses".toList,
    "applications".toList, "policy-action".toList]

def unrecognisedChild (tag : Text) : SrxError :=
  .parse ("unrecognised <policy-information> child <".toList ++ tag ++
    ">: refusing to report this ".toList ++
    "policy rather than silently drop a match criterion the parser doesn't ".toList ++
    "understand (e.g. a negated address/application match)".toList)

def checkChildren (pi : XmlNode) : Except SrxError Unit :=
  match pi.elements.find? fun child => child.tagName ∉ knownPolicyInformationChildren with
  | some child => .error (unrecognisedChild child.tagName)
  | none => .ok ()

def parseState (pi : XmlNode) : Except SrxError PolicyState := do
  let text ← required rpcName "policy-state" (pi.childText "policy-state")
  if text = "enabled".toList then return .enabled
  else if text = "disabled".toList then return .disabled
  else throw (.parse ("unrecognised policy-state value: ".toList ++ text))

def sequenceOf (pi : XmlNode) : Nat :=
  ((pi.childText "policy-sequence-number").bind (parseUnsigned 32)).getD 0

/-- The names a policy lists in a container. -/
def namesIn (container itemTag nameTag : String) (pi : XmlNode) : List Text :=
  ((pi.firstChild container).map (parseNameList itemTag nameTag)).getD []

def sourceAddresses : XmlNode → List Text :=
  namesIn "source-addresses" "source-address" "address-name"

def destinationAddresses : XmlNode → List Text :=
  namesIn "destination-addresses" "destination-address" "address-name"

def applications : XmlNode → List Text := namesIn "applications" "application" "application-name"

def servicesOf (action : XmlNode) : List Text :=
  ((action.firstChild "application-services").map fun services =>
    services.elements.map XmlNode.tagName).getD []

def parseAction (action : XmlNode) : Except SrxError PolicyAction := do
  let type ← required rpcName "action-type" (action.childText "action-type")
  if type = "permit".toList then
    return if (servicesOf action).isEmpty then .permit else .permitWithServices (servicesOf action)
  else if type = "deny".toList then return .deny
  else if type = "reject".toList then return .reject
  else throw (.parse ("unrecognised policy action-type: ".toList ++ type))

def parseLog (action : XmlNode) : PolicyLog :=
  match action.firstChild "policy-log" with
  | none => .none
  | some log =>
      match log.hasChild "session-init", log.hasChild "session-close" with
      | true, true => .both
      | true, false => .sessionInit
      | false, true => .sessionClose
      | false, false => .none

/-- A policy as the reply has it, with the zones of its context. -/
structure PolicyInformation where
  fromZone : Text
  toZone : Text
  info : XmlNode

def parsePolicyInformation (policy : PolicyInformation) : Except SrxError SecurityPolicy := do
  let pi := policy.info
  checkChildren pi
  let name ← required rpcName "policy-name" (pi.childText "policy-name")
  let state ← parseState pi
  let actionNode ← required rpcName "policy-action" (pi.firstChild "policy-action")
  let action ← parseAction actionNode
  return {
    fromZone := policy.fromZone
    toZone := policy.toZone
    name
    state
    sequence := sequenceOf pi
    sourceAddresses := sourceAddresses pi
    destinationAddresses := destinationAddresses pi
    applications := applications pi
    action
    log := parseLog actionNode
    hitCount := none }

/-! ## The reply -/

def zoneOf (tag : String) (context : XmlNode) : Text :=
  ((context.firstChild "context-information").bind (XmlNode.childText tag)).getD "any".toList

def contexts (document : XmlDocument) : List XmlNode := document.all "security-context".toList

def policiesIn (context container : XmlNode) : List PolicyInformation :=
  (container.childrenNamed "policy-information").map fun info =>
    ⟨zoneOf "source-zone-name" context, zoneOf "destination-zone-name" context, info⟩

/-- The policies the loop over a context visits. -/
def contextPolicies (context : XmlNode) : List PolicyInformation :=
  match context.firstChild "policies" with
  | none => []
  | some container => policiesIn context container

abbrev Listed := FirstSeen PolicyKey SecurityPolicy

def addPolicy (listed : Listed) (policy : PolicyInformation) : Except SrxError Listed := do
  let policy ← parsePolicyInformation policy
  return listed.insert SecurityPolicy.key policy

section Parse

variable (crates : XmlCrates)

def parseNode (listed : Listed) (node : ReNode) : Except SrxError Listed := do
  match ← configuredDocument crates node.innerXml with
  | none => return listed
  | some document =>
      (contexts document).foldlM
        (fun listed context => (contextPolicies context).foldlM addPolicy listed) listed

/-- The loop over the nodes: all policies, each zone pair and name once. -/
def allPolicies (replyXml : Text) : Except SrxError (List SecurityPolicy) := do
  let reNodes ← multiReSplit crates replyXml
  let listed ← reNodes.foldlM (parseNode crates) .none
  return listed.kept

def joinHitCounts (hitCounts : Option HitCounts) (policies : List SecurityPolicy) :
    List SecurityPolicy :=
  match hitCounts with
  | none => policies
  | some counts => policies.map fun p => { p with hitCount := counts p.key }

/-- The page of the policies that is asked for; the total is a number of 32 bits. -/
def page (hitCounts : Option HitCounts) (offset limit : Nat) (policies : List SecurityPolicy) :
    PolicyListData :=
  let joined := joinHitCounts hitCounts policies
  let totalCount := joined.length % 2 ^ 32
  let start := min offset totalCount
  let stop := min (start + limit) joined.length
  ⟨(joined.take stop).drop start, decide (stop % 2 ^ 32 < totalCount), totalCount⟩

def parse (replyXml : Text) (hitCounts : Option HitCounts) (offset limit : Nat) :
    Except SrxError (SrxToolResponse PolicyListData) := do
  let policies ← allPolicies crates replyXml
  return .active (page hitCounts offset limit policies)

/-! ### The hit counts -/

def addHitCount (context : XmlNode) (counts : HitCounts) (hit : XmlNode) : HitCounts :=
  match hit.childText "policy-name", (hit.childText "hit-count").bind (parseUnsigned 64) with
  | some name, some count => Function.update counts
      (zoneOf "source-zone-name" context, zoneOf "destination-zone-name" context, name) (some count)
  | _, _ => counts

def hitsBelow (context : XmlNode) : List XmlNode :=
  context.descendants.filter (XmlNode.named "policy-hit-count".toList)

def addHitCounts (counts : HitCounts) (node : ReNode) : Except SrxError HitCounts := do
  let document ← readDocument crates node.innerXml
  if (rpcErrorParts document).isSome then return counts
  else
    return (contexts document).foldl
      (fun counts context => (hitsBelow context).foldl (addHitCount context) counts) counts

def parseHitCounts (replyXml : Text) : Except SrxError HitCounts := do
  let reNodes ← multiReSplit crates replyXml
  reNodes.foldlM (addHitCounts crates) fun _ => none

/-! ### The call -/

def callArgs (args : PolicyListArgs) : List (Text × Text) :=
  (args.fromZone.map ("from-zone".toList, ·)).toList ++
    (args.toZone.map ("to-zone".toList, ·)).toList ++
    (args.policyName.map ("policy-name".toList, ·)).toList

/-- Hit counts that cannot be fetched or read are left out. -/
def fetchHitCounts (args : PolicyListArgs) : DeviceProg (Option HitCounts) :=
  if args.includeHitCounts then
    .step (.call "get-security-policies-hit-count" (callArgs args)) fun answer =>
      .pure (.ok (match answer with
        | .error _ => none
        | .ok xml => (parseHitCounts crates xml).toOption))
  else .pure (.ok none)

def run (args : PolicyListArgs) : DeviceProg (SrxToolResponse PolicyListData) :=
  if (Text.trim args.router).isEmpty then
    .pure (.error (.invalidInput "router must not be empty".toList))
  else openExecutor.andThen fun _ =>
    (callRpc rpcName (callArgs args)).andThen fun reply =>
    (fetchHitCounts crates args).andThen fun hitCounts =>
    .pure ((parse crates reply hitCounts args.offset args.limit).map fun parsed =>
      if args.includeRaw then parsed.withRaw reply else parsed)

end Parse

end JunosMcp.Srx.PolicyList
