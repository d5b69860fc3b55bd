import JunosMcp.Output
import JunosMcp.Srx.Xml

/-!
# `get-chassis-cluster-status`

The reply as a snapshot of the redundancy groups and their members.
-/

namespace JunosMcp.Srx

open Lib

inductive SrxState where
  | active
  | notConfigured
  | error
deriving DecidableEq

structure SrxToolResponse (α : Type) where
  state : SrxState
  data : Option α
  reason : Option Text
  rawXml : Option Text

namespace SrxToolResponse

def active {α : Type} (data : α) : SrxToolResponse α := ⟨.active, some data, none, none⟩

def notConfigured {α : Type} (reason : Text) : SrxToolResponse α :=
  ⟨.notConfigured, none, some reason, none⟩

def withRaw {α : Type} (response : SrxToolResponse α) (raw : Text) : SrxToolResponse α :=
  { response with rawXml := some raw }

end SrxToolResponse

/-- `str::parse` into an unsigned integer of this many bits. -/
def parseUnsigned (bits : Nat) (text : Text) : Option Nat :=
  (parseUsize text).filter fun n => n < 2 ^ bits

def eqIgnoreAsciiCase (a b : Text) : Bool := asciiLowercase a == asciiLowercase b

structure RgMember where
  node : Text
  priority : Nat
  status : Text
  preempt : Bool
  manual : Bool
  monitorFailures : List Text
deriving DecidableEq

structure RedundancyGroup where
  groupId : Nat
  failoverCount : Nat
  members : List RgMember
deriving DecidableEq

structure ClusterNode where
  name : Text
  priority : Nat
  status : Text
  monitorFailures : List Text
deriving DecidableEq

structure ClusterStatusData where
  clusterId : Option Nat
  nodes : List ClusterNode
  redundancyGroups : List RedundancyGroup

namespace ClusterStatus

/-! ## The members of a group -/

def parseFailures (text : Text) : List Text :=
  if eqIgnoreAsciiCase text "none".toList || text.isEmpty then []
  else ((text.splitOn ',').map Text.trim).filter fun failure => !failure.isEmpty

def applyStat (member : RgMember) (tag text : Text) : RgMember :=
  if tag == "device-priority".toList then
    { member with priority := (parseUnsigned 16 text).getD 0 }
  else if tag == "redundancy-group-status".toList then { member with status := text }
  else if tag == "preempt".toList then
    { member with preempt := eqIgnoreAsciiCase text "yes".toList }
  else if tag == "failover-mode".toList then
    { member with manual := eqIgnoreAsciiCase text "yes".toList }
  else if tag == "monitor-failures".toList then
    { member with monitorFailures := parseFailures text }
  else member

/-- One element of the flat list, the member opened last in front. -/
def readStat (members : List RgMember) (child : XmlNode) : List RgMember :=
  let text := Text.trim (child.leadingText.getD [])
  if child.tagName == "device-name".toList then ⟨text, 0, [], false, false, []⟩ :: members
  else match members with
    | [] => []
    | member :: earlier => applyStat member child.tagName text :: earlier

def parseDeviceStats (group : XmlNode) : List RgMember :=
  match group.child "device-stats".toList with
  | none => []
  | some stats => ((stats.children.filter XmlNode.isElement).foldl readStat []).reverse

/-! ## The groups of a node -/

def rpcName : String := "get-chassis-cluster-status"

def childText (name : String) (node : XmlNode) : Option Text :=
  (node.child name.toList).bind XmlNode.leadingText

def parseGroup (group : XmlNode) : Except SrxError RedundancyGroup :=
  match (childText "redundancy-group-id" group).bind fun t => parseUnsigned 16 (Text.trim t) with
  | none => .error (.schemaMismatch rpcName "redundancy-group-id")
  | some groupId =>
      match childText "redundancy-group-failover-count" group with
      | none => .ok ⟨groupId, 0, parseDeviceStats group⟩
      | some t => match parseUnsigned 32 (Text.trim t) with
          | none => .error (.schemaMismatch rpcName "redundancy-group-failover-count")
          | some failoverCount => .ok ⟨groupId, failoverCount, parseDeviceStats group⟩

/-- What one node reports: a cluster id that can be read, and its groups. -/
structure NodeReport where
  clusterId : Option Nat
  groups : List RedundancyGroup

def parseCluster (status : XmlNode) : Except SrxError NodeReport := do
  let groups ← (status.children.filter (XmlNode.named "redundancy-group".toList)).mapM parseGroup
  return ⟨(childText "cluster-id" status).bind fun t => parseUnsigned 16 (Text.trim t), groups⟩

def containsRpcError (xml : Text) : Bool :=
  Text.contains xml "<rpc-error>".toList || Text.contains xml "<nc:rpc-error>".toList

def statusElement : Text := "chassis-cluster-status".toList

section Parse

variable (crates : XmlCrates)

/-- `none` is a node without the element. -/
def nodeReport (node : ReNode) : Except SrxError (Option NodeReport) :=
  match crates.parse node.innerXml with
  | .error error => .error (.parse ("roxmltree: ".toList ++ error))
  | .ok document => match document.first statusElement with
      | none => .ok none
      | some status => (parseCluster status).map some

/-! ## The whole reply -/

def mergeMembers (existing members : List RgMember) : List RgMember :=
  members.foldl (fun seen m => if seen.any fun em => em.node == m.node then seen else seen ++ [m])
    existing

/-- A group that was reported before keeps its members and gets the nodes it has not. -/
def mergeGroup (group : RedundancyGroup) : List RedundancyGroup → List RedundancyGroup
  | [] => [group]
  | existing :: rest =>
      if existing.groupId == group.groupId then
        { existing with members := mergeMembers existing.members group.members } :: rest
      else existing :: mergeGroup group rest

def mergeReport (seen : NodeReport) (report : NodeReport) : NodeReport where
  clusterId := seen.clusterId.or report.clusterId
  groups := report.groups.foldl (fun groups group => mergeGroup group groups) seen.groups

def isErrorElement (node : XmlNode) : Bool :=
  node.named "error".toList || node.named "rpc-error".toList

def merged (reports : List NodeReport) : NodeReport := reports.foldl mergeReport ⟨none, []⟩

/-- An error whose tag or message says that clustering is not there. -/
def saysNotConfigured (error : XmlNode) : Bool :=
  error.descendants.any fun child =>
    (child.named "error-tag".toList && match child.leadingText with
      | none => false
      | some t => Text.trim t == "not-configured".toList || Text.trim t == "data-missing".toList) ||
    (child.named "message".toList && match child.leadingText with
      | none => false
      | some t => Text.contains (asciiLowercase t) "not enabled".toList ||
          Text.contains (asciiLowercase t) "not configured".toList)

/-- The errors at the top of a reply: the root, or its children. -/
def topErrors (document : XmlDocument) : List XmlNode :=
  match document.root with
  | none => []
  | some root => if isErrorElement root then [root] else root.children.filter isErrorElement

def isNotConfigured (document : XmlDocument) : Bool :=
  if (document.first statusElement).isSome then false
  else if (topErrors document).isEmpty then false
  -- An error that says something else counts as well.
  else (topErrors document).any saysNotConfigured || true

def isNotConfiguredXml (xml : Text) : Except SrxError Bool :=
  match crates.parse xml with
  | .error error => .error (.parse ("roxmltree: ".toList ++ error))
  | .ok document => .ok (isNotConfigured document)

def deriveClusterNodes (groups : List RedundancyGroup) : List ClusterNode :=
  match groups.find? fun group => group.groupId == 0 with
  | none => []
  | some rg0 => rg0.members.map fun m => ⟨m.node, m.priority, m.status, m.monitorFailures⟩

def clusterData (reports : List NodeReport) : ClusterStatusData :=
  ⟨(merged reports).clusterId, deriveClusterNodes (merged reports).groups, (merged reports).groups⟩

/-- The reports of the nodes that have one and carry no `<rpc-error>`. -/
def nodeReports (nodes : List ReNode) : Except SrxError (List NodeReport) := do
  let reports ← (nodes.filter fun node => !containsRpcError node.innerXml).mapM (nodeReport crates)
  return reports.filterMap id

def disabled : Text := "chassis cluster disabled".toList

def parse (replyXml : Text) : Except SrxError (SrxToolResponse ClusterStatusData) := do
  if ← isNotConfiguredXml crates replyXml then return .notConfigured disabled
  let reNodes ← multiReSplit crates replyXml
  let reports ← nodeReports crates reNodes
  if (merged reports).clusterId.isNone && (merged reports).groups.isEmpty then
    return .notConfigured disabled
  return .active (clusterData reports)

end Parse

end ClusterStatus

end JunosMcp.Srx
