import JunosMcp.Lib.Layers
import JunosMcp.Srx.Configuration
import JunosMcp.Srx.Resolve

/-!
# `srx_resolve_application`

The name of an application or an application set is resolved to what it matches. The definitions are
those of the device and, under them, a table of predefined ones.
-/

namespace JunosMcp.Srx.ResolveApplication

open Lib

/-- `DEFAULT_APPLICATION_MEMBER_CAP`. -/
def defaultApplicationMemberCap : Nat := 200

structure ApplicationResolveArgs where
  router : Text
  name : Text
  includeRaw : Bool

inductive ApplicationKind where
  | application
  | applicationSet
deriving DecidableEq

structure PortRange where
  low : Nat
  high : Nat
deriving DecidableEq

inductive PortSpec where
  | numeric (range : PortRange)
  | named (name : Text)
deriving DecidableEq

inductive ApplicationSource where
  | device
  | builtinTable
deriving DecidableEq

structure ResolvedApplication where
  name : Text
  protocol : Text
  sourcePort : Option PortSpec
  destinationPort : Option PortSpec
  inactivityTimeout : Option Nat
  icmpType : Option Nat
  icmpCode : Option Nat
  active : Bool
  source : ApplicationSource
deriving DecidableEq

structure ApplicationResolution where
  requested : Text
  kind : ApplicationKind
  members : List ResolvedApplication
  truncated : Bool

/-- A definition, read only when the walk comes to it where the device has it. -/
inductive ApplicationLeaf where
  | device (node : XmlNode)
  | static (application : ResolvedApplication)

abbrev ApplicationNode := ConfigNode ApplicationLeaf

abbrev ApplicationMap := Book Text ApplicationLeaf

/-! ## The built-in table -/

structure JunosDefaultEntry where
  name : Text
  protocol : Text
  destinationPort : Option PortRange

def junosDefaults : List JunosDefaultEntry :=
  [⟨"junos-http".toList, "tcp".toList, some ⟨80, 80⟩⟩,
    ⟨"junos-https".toList, "tcp".toList, some ⟨443, 443⟩⟩,
    ⟨"junos-ftp".toList, "tcp".toList, some ⟨21, 21⟩⟩,
    ⟨"junos-ssh".toList, "tcp".toList, some ⟨22, 22⟩⟩,
    ⟨"junos-smtp".toList, "tcp".toList, some ⟨25, 25⟩⟩,
    ⟨"junos-dns-udp".toList, "udp".toList, some ⟨53, 53⟩⟩,
    ⟨"junos-icmp-ping".toList, "icmp".toList, none⟩]

def JunosDefaultEntry.application (entry : JunosDefaultEntry) : ResolvedApplication where
  name := entry.name
  protocol := entry.protocol
  sourcePort := none
  destinationPort := entry.destinationPort.map .numeric
  inactivityTimeout := none
  icmpType := none
  icmpCode := none
  active := true
  source := .builtinTable

/-- `static_junos_defaults`, for any table. -/
def staticDefaults (table : List JunosDefaultEntry) : ApplicationMap :=
  (table.map fun entry => (entry.name, .leaf (.static entry.application))).foldl define fun _ => none

/-! ## Applications -/

/-- The texts before and behind the first of these characters. -/
def splitOnce (separator : Char) (text : Text) : Option (Text × Text) :=
  match text.dropWhile (· ≠ separator) with
  | [] => none
  | _ :: after => some (text.takeWhile (· ≠ separator), after)

def parsePortRange (text : Text) : Option PortRange := do
  let (low, high) ← splitOnce '-' text
  return ⟨← parseUnsigned 16 (Text.trim low), ← parseUnsigned 16 (Text.trim high)⟩

def parsePortSpec (text : Text) : PortSpec :=
  match parsePortRange text with
  | some range => .numeric range
  | none => match parseUnsigned 16 (Text.trim text) with
      | some port => .numeric ⟨port, port⟩
      | none => .named (Text.trim text)

structure ApplicationFields where
  protocol : Text
  sourcePort : Option PortSpec
  destinationPort : Option PortSpec
  inactivityTimeout : Option Nat
  icmpType : Option Nat
  icmpCode : Option Nat

/-- `KNOWN_APPLICATION_CHILDREN`. -/
def knownApplicationChildren : List Text :=
  ["name".toList, "description".toList, "protocol".toList, "source-port".toList,
    "destination-port".toList, "inactivity-timeout".toList, "icmp-type".toList, "icmp-code".toList,
    "icmp6-type".toList, "icmp6-code".toList]

def rejectUnknownChildren (node : XmlNode) (extraAllowed : List Text) : Except SrxError Unit :=
  match node.elements.find? fun child =>
      !knownApplicationChildren.contains child.tagName && !extraAllowed.contains child.tagName with
  | some child => .error (.parse ("unrecognised application child <".toList ++ child.tagName ++
      ">: refusing to report this ".toList ++
      "application rather than silently drop a match criterion".toList))
  | none => .ok ()

def parseIcmpField (v4Tag v6Tag : String) (node : XmlNode) : Except SrxError (Option Nat) :=
  let parseCode (text : Text) := match parseUnsigned 8 text with
    | some code => .ok (some code)
    | none => .error (.parse ("invalid ".toList ++ v4Tag.toList ++ "/".toList ++ v6Tag.toList ++
        ": ".toList ++ text))
  match node.childText v4Tag, node.childText v6Tag with
  | some _, some _ => .error (.parse ("application has both <".toList ++ v4Tag.toList ++
      "> and <".toList ++ v6Tag.toList ++ ">".toList))
  | some text, none => parseCode text
  | none, some text => parseCode text
  | none, none => .ok none

def parseTimeout : Option Text → Except SrxError (Option Nat)
  | none => .ok none
  | some text => match parseUnsigned 32 text with
      | some seconds => .ok (some seconds)
      | none => .error (.parse ("invalid inactivity-timeout: ".toList ++ text))

def parseApplicationFields (node : XmlNode) : Except SrxError ApplicationFields := do
  rejectUnknownChildren node []
  let protocol ← required configurationRpc "application/protocol" (node.childText "protocol")
  let inactivityTimeout ← parseTimeout (node.childText "inactivity-timeout")
  let icmpType ← parseIcmpField "icmp-type" "icmp6-type" node
  let icmpCode ← parseIcmpField "icmp-code" "icmp6-code" node
  return { protocol
           sourcePort := (node.childText "source-port").map parsePortSpec
           destinationPort := (node.childText "destination-port").map parsePortSpec
           inactivityTimeout, icmpType, icmpCode }

def ApplicationFields.resolved (fields : ApplicationFields) (name : Text) (active : Bool) :
    ResolvedApplication where
  name := name
  protocol := fields.protocol
  sourcePort := fields.sourcePort
  destinationPort := fields.destinationPort
  inactivityTimeout := fields.inactivityTimeout
  icmpType := fields.icmpType
  icmpCode := fields.icmpCode
  active := active
  source := .device

/-- Beside terms there is nothing but a name and a description. -/
def rejectBesideTerms (name : Text) (appNode : XmlNode) : Except SrxError Unit :=
  match appNode.elements.find? fun child =>
      child.tagName ∉ ["name".toList, "description".toList, "term".toList] with
  | some child => .error (.parse ("unrecognised child <".toList ++ child.tagName ++
      "> beside <term> in application '".toList ++ name ++ "'".toList))
  | none => .ok ()

def parseTerm (name : Text) (appActive : Bool) (term : XmlNode) :
    Except SrxError ResolvedApplication := do
  let termName ← required configurationRpc "application/term/name" (term.childText "name")
  let fields ← parseApplicationFields term
  return fields.resolved (name ++ "#".toList ++ termName) (appActive && !isInactive term)

def parseApplicationNode (appNode : XmlNode) : Except SrxError (List ResolvedApplication) := do
  let name ← required configurationRpc "application/name" (appNode.childText "name")
  let appActive := !isInactive appNode
  let terms := appNode.childrenNamed "term"
  if terms.isEmpty then
    let fields ← parseApplicationFields appNode
    return [fields.resolved name appActive]
  else
    rejectBesideTerms name appNode
    terms.mapM (parseTerm name appActive)

/-! ## Definitions -/

def isMember (node : XmlNode) : Bool :=
  node.named "application".toList || node.named "application-set".toList

def setMembers (set : XmlNode) : List Text :=
  (set.elements.filter isMember).filterMap (XmlNode.childText "name")

/-- What a child of a container defines. -/
def definitionOf (child : XmlNode) : Except SrxError (Option (Text × ApplicationNode)) :=
  if child.named "application".toList then do
    let name ← required configurationRpc "application/name" (child.childText "name")
    return some (name, .leaf (.device child))
  else if child.named "application-set".toList then do
    let name ← required configurationRpc "application-set/name" (child.childText "name")
    return some (name, .set (setMembers child))
  else return none

def defineChild (map : ApplicationMap) (child : XmlNode) : Except SrxError ApplicationMap := do
  match ← definitionOf child with
  | some definition => return define map definition
  | none => return map

def collectApplicationsContainer (map : ApplicationMap) (container : XmlNode) :
    Except SrxError ApplicationMap :=
  container.elements.foldlM defineChild map

def isJunosDefaults (group : XmlNode) : Bool :=
  group.childText "name" == some "junos-defaults".toList

/-- The containers of the group with the predefined applications. -/
def defaultContainers (document : XmlDocument) : List XmlNode :=
  ((document.all "groups".toList).filter isJunosDefaults).flatMap
    (XmlNode.childrenNamed "applications")

def collectApplications (document : XmlDocument) : Except SrxError ApplicationMap := do
  let map ← (document.all "applications".toList).foldlM collectApplicationsContainer fun _ => none
  (defaultContainers document).foldlM collectApplicationsContainer map

/-! ## Resolving -/

section Parse

variable (crates : XmlCrates) (table : List JunosDefaultEntry)

/-- The definitions of the device, and the table's for the names it has none for. -/
def applicationMap (document : XmlDocument) : Except SrxError ApplicationMap := do
  let map ← collectApplications document
  return fun name => (map name).or (staticDefaults table name)

def kindOf : ApplicationNode → ApplicationKind
  | .leaf _ => .application
  | .set _ => .applicationSet

def expand : ApplicationLeaf → Except SrxError (List ResolvedApplication)
  | .static application => .ok [application]
  | .device appNode => parseApplicationNode appNode

def resolveIn (router name : Text) (map : ApplicationMap) : Except SrxError ApplicationResolution :=
  match map name with
  | none => .error (.resolutionNameNotFound router name "applications".toList)
  | some node => do
      let (leaves, truncated) ←
        resolve router map "applications".toList name defaultApplicationMemberCap
      let members ← leaves.mapM fun leaf => expand leaf.2
      return ⟨name, kindOf node, members.flatten, truncated⟩

def parse (router name replyXml : Text) :
    Except SrxError (SrxToolResponse ApplicationResolution) := do
  let reNodes ← multiReSplit crates replyXml
  match ← firstUsable crates reNodes with
  | none =>
      return .notConfigured "no node returned applications configuration without an error".toList
  | some node =>
      let document ← readDocument crates (sanitizeRustezXml node.innerXml)
      let map ← applicationMap table document
      let resolution ← resolveIn router name map
      return .active resolution

end Parse

/-! ## The workflow -/

def filter : String :=
  "<applications/><groups><name>junos-defaults</name><applications/></groups>"

def runWith (table : List JunosDefaultEntry) (crates : XmlCrates) (args : ApplicationResolveArgs) :
    DeviceProg (SrxToolResponse ApplicationResolution) :=
  if (Text.trim args.router).isEmpty then
    .pure (.error (.invalidInput "router must not be empty".toList))
  else if (Text.trim args.name).isEmpty then
    .pure (.error (.invalidInput "name must not be empty".toList))
  else openExecutor.andThen fun _ =>
    (getConfigurationSubtree filter).andThen fun reply =>
    .pure ((parse crates table args.router args.name reply).map fun parsed =>
      if args.includeRaw then parsed.withRaw reply else parsed)

def run : XmlCrates → ApplicationResolveArgs → DeviceProg (SrxToolResponse ApplicationResolution) :=
  runWith junosDefaults

end JunosMcp.Srx.ResolveApplication
