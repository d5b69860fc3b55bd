import JunosMcp.Json
import JunosMcp.Srx.ClusterStatus
import JunosMcp.Srx.Device

/-!
# `validate_chassis_cluster_health`

Eight replies are captured, seven checks read them, and their findings are rolled up into a verdict.
-/

namespace JunosMcp.Srx.ClusterHealth

open Lib

structure ClusterHealthArgs where
  router : Text
  includeRaw : Bool
  requestId : Option Text

inductive Severity where
  | pass
  | warn
  | fail
deriving DecidableEq

inductive Verdict where
  | pass
  | warn
  | fail
deriving DecidableEq

/-- `CHECK_IDS`. -/
inductive Check where
  | redLed
  | disabledSecondary
  | controlLinkFailure
  | majorAlarm
  | minorAlarm
  | recentReboot
  | versionSkew
deriving DecidableEq

def Check.id : Check → Text
  | .redLed => "red_led".toList
  | .disabledSecondary => "disabled_secondary".toList
  | .controlLinkFailure => "control_link_failure".toList
  | .majorAlarm => "major_alarm".toList
  | .minorAlarm => "minor_alarm".toList
  | .recentReboot => "recent_reboot".toList
  | .versionSkew => "version_skew".toList

structure Finding where
  check : Check
  severity : Severity
  message : Text
  detail : Option Json

def rollUpFrom (worst : Verdict) : List Finding → Verdict
  | [] => worst
  | finding :: rest => match worst, finding.severity with
      | _, .fail => .fail
      | .pass, .warn => rollUpFrom .warn rest
      | _, _ => rollUpFrom worst rest

def Verdict.rollUp (findings : List Finding) : Verdict := rollUpFrom .pass findings

structure ClusterHealthData where
  verdict : Verdict
  findings : List Finding
  requestId : Text
  clusterStatus : Option ClusterStatusData

/-! ## Captured replies -/

structure SubCall where
  raw : Text
  error : Option Text
deriving DecidableEq

def SubCall.isOk (call : SubCall) : Bool := call.error.isNone

def subCall : Except RustEzError Text → SubCall
  | .ok xml => ⟨xml, none⟩
  | .error e => ⟨[], some ("rpc error: ".toList ++ e.display)⟩

def capture (rpc : String) : Prog DeviceOp DeviceAnswer SubCall :=
  .step (.call rpc []) fun answer => .pure (subCall answer)

structure Captured where
  status : SubCall
  interfaces : SubCall
  info : SubCall
  dpStats : SubCall
  clStats : SubCall
  software : SubCall
  alarms : SubCall
  uptime : SubCall

/-! ## Helpers of the checks -/

def textChild (name : String) (node : XmlNode) : Option Text :=
  ((node.child name.toList).bind XmlNode.leadingText).map Text.trim

def synthWarn (check : Check) (code : String) (reason : Text) : Finding where
  check := check
  severity := .warn
  message := "check ".toList ++ check.id ++ " skipped: ".toList ++ reason
  detail := some (.object [("code".toList, .string code.toList), ("reason".toList, .string reason)])

def dataUnavailable (check : Check) (reason : Text) : Finding :=
  synthWarn check "data_unavailable" reason

/-- Junos train: the leading digits of the second part behind the first. -/
def trainOf (version : Text) : Text :=
  let parts := version.splitOn '.'
  let major := parts.headD []
  let minorDigits := ((parts.drop 1).headD []).takeWhile Char.isDigit
  if major.isEmpty || minorDigits.isEmpty then version else major ++ ".".toList ++ minorDigits

section Checks

variable (crates : XmlCrates)

/-- The nodes of a reply whose parts are documents. -/
def readNodes (raw : Text) : List (ReNode × XmlDocument) :=
  match multiReSplit crates raw with
  | .error _ => []
  | .ok nodes => nodes.filterMap fun node => match crates.parse node.innerXml with
      | .error _ => none
      | .ok document => some (node, document)

/-- The shape most checks have: a failed call is reported, a reply is searched node by node. -/
def scan (check : Check) (source : SubCall) (search : ReNode → XmlDocument → List Finding) :
    List Finding :=
  match source.error with
  | some reason => [dataUnavailable check reason]
  | none => (readNodes crates source.raw).flatMap fun part => search part.1 part.2

def isRed (led : XmlNode) : Bool :=
  eqIgnoreAsciiCase ((textChild "current-led-color" led).getD []) "Red".toList

def redLedFinding (re : ReNode) (led : XmlNode) : Finding :=
  let color := (textChild "current-led-color" led).getD []
  let node := (textChild "node-name" led).getD re.reName
  { check := .redLed
    severity := .fail
    message := "node ".toList ++ node ++ " cluster LED is Red".toList
    detail := some (.object [("node".toList, .string node), ("color".toList, .string color)]) }

def checkRedLed (info : SubCall) : List Finding :=
  scan crates .redLed info fun re document =>
    ((document.all "chassis-cluster-led-information".toList).filter isRed).map (redLedFinding re)

def isOut (m : RgMember) : Bool :=
  asciiLowercase m.status == "disabled".toList || asciiLowercase m.status == "lost".toList

def memberFinding (group : RedundancyGroup) (m : RgMember) : Finding :=
  let rg := (Nat.repr group.groupId).toList
  { check := .disabledSecondary
    severity := .fail
    message := "RG".toList ++ rg ++ " member ".toList ++ m.node ++ " is in state ".toList ++ m.status
    detail := some (.object [("rg".toList, .number rg), ("node".toList, .string m.node),
      ("status".toList, .string m.status)]) }

def checkDisabledSecondary (snapshot : Option ClusterStatusData) : List Finding :=
  match snapshot with
  | none => [dataUnavailable .disabledSecondary
      "cluster_status RPC produced no parseable snapshot".toList]
  | some snap => snap.redundancyGroups.flatMap fun group =>
      (group.members.filter isOut).map (memberFinding group)

def isDown (status : XmlNode) : Bool :=
  eqIgnoreAsciiCase (Text.trim (status.leadingText.getD [])) "Down".toList

def fabricFinding (re : ReNode) (status : Option XmlNode × XmlNode) : Finding :=
  let iface := (status.1.bind (textChild "fabric-link-child-interface-name")).getD "?".toList
  { check := .controlLinkFailure
    severity := .fail
    message := "fabric-link child interface ".toList ++ iface ++
      " monitored status Down on ".toList ++ re.reName
    detail := some (.object [("node".toList, .string re.reName),
      ("interface".toList, .string iface)]) }

def transitionReason (record : XmlNode) : Text := (textChild "transition-reason" record).getD []

def namesLinkFailure (record : XmlNode) : Bool :=
  let lower := asciiLowercase (transitionReason record)
  Text.contains lower "control link failure".toList ||
    Text.contains lower "fabric link failure".toList

def recordFinding (re : ReNode) (record : XmlNode) : Finding :=
  let reason := transitionReason record
  { check := .controlLinkFailure
    severity := .fail
    message := "RG transition record on ".toList ++ re.reName ++ ": ".toList ++ reason
    detail := some (.object [("node".toList, .string re.reName),
      ("reason".toList, .string reason)]) }

def monitoredStatus : Text := "fabric-link-child-interface-monitored-status".toList

def transitionRecord : Text := "redundancy-group-state-transition-record".toList

def fabricFindings (interfaces : SubCall) : List Finding :=
  if interfaces.isOk then
    (readNodes crates interfaces.raw).flatMap fun part =>
      ((part.2.allWithParent monitoredStatus).filter fun status => isDown status.2).map
        (fabricFinding part.1)
  else []

def recordFindings (info : SubCall) : List Finding :=
  if info.isOk then
    (readNodes crates info.raw).flatMap fun part =>
      ((part.2.all transitionRecord).filter namesLinkFailure).map (recordFinding part.1)
  else []

def checkControlLinkFailure (interfaces info : SubCall) : List Finding :=
  let hadData := interfaces.isOk || info.isOk
  fabricFindings crates interfaces ++ recordFindings crates info ++
    if hadData then []
    else [dataUnavailable .controlLinkFailure
      "neither cluster-interfaces nor cluster-information available".toList]

def alarmClass (alarm : XmlNode) : Text := (textChild "alarm-class" alarm).getD []

def alarmFinding (check : Check) (severity : Severity) (re : ReNode) (alarm : XmlNode) : Finding :=
  let description := ((textChild "alarm-description" alarm).or
    (textChild "alarm-short-description" alarm)).getD []
  { check := check
    severity := severity
    message := alarmClass alarm ++ " alarm on ".toList ++ re.reName ++ ": ".toList ++ description
    detail := some (.object [("node".toList, .string re.reName),
      ("class".toList, .string (alarmClass alarm)),
      ("description".toList, .string description)]) }

def hasClass (classFilter : String) (alarm : XmlNode) : Bool :=
  eqIgnoreAsciiCase (alarmClass alarm) classFilter.toList

/-- A failed call is reported once for the alarm pair, with the check that runs first. -/
def iterAlarms (alarms : SubCall) (classFilter : String) (severity : Severity) (check : Check) :
    List Finding :=
  match alarms.error with
  | some reason => if check = .majorAlarm then [dataUnavailable check reason] else []
  | none => (readNodes crates alarms.raw).flatMap fun part =>
      ((part.2.all "alarm-detail".toList).filter (hasClass classFilter)).map
        (alarmFinding check severity part.1)

def checkMajorAlarm (alarms : SubCall) : List Finding :=
  iterAlarms crates alarms "Major" .fail .majorAlarm

def checkMinorAlarm (alarms : SubCall) : List Finding :=
  iterAlarms crates alarms "Minor" .warn .minorAlarm

def uptimeSeconds (uptimeInfo : XmlNode) : Option Nat :=
  ((uptimeInfo.descendants.find? (XmlNode.named "up-time".toList)).bind
    (XmlNode.attributeValue "seconds".toList)).bind fun s => parseUnsigned 64 (Text.trim s)

def rebootFinding (re : ReNode) (seconds : Nat) : Finding :=
  let s := (Nat.repr seconds).toList
  { check := .recentReboot
    severity := .warn
    message := re.reName ++ " uptime ".toList ++ s ++
      "s < 5 min; let it converge before destructive changes".toList
    detail := some (.object [("node".toList, .string re.reName),
      ("uptime_seconds".toList, .number s)]) }

def checkRecentReboot (uptime : SubCall) : List Finding :=
  scan crates .recentReboot uptime fun re document =>
    (((document.all "system-uptime-information".toList).filterMap uptimeSeconds).filter
      fun s => s < 300).map (rebootFinding re)

def junosVersion (document : XmlDocument) : Text :=
  (((document.first "junos-version".toList).bind XmlNode.leadingText).map Text.trim).getD []

def skewFinding (base other : Text × Text) : Finding where
  check := .versionSkew
  severity := if trainOf base.2 ≠ trainOf other.2 then .fail else .warn
  message := base.1 ++ " runs ".toList ++ base.2 ++ ", ".toList ++ other.1 ++ " runs ".toList ++
    other.2
  detail := some (.object [("node_a".toList, .string base.1), ("version_a".toList, .string base.2),
    ("node_b".toList, .string other.1), ("version_b".toList, .string other.2)])

/-- The names and versions of the nodes that show one. -/
def versions (raw : Text) : List (Text × Text) :=
  ((readNodes crates raw).map fun part => (part.1.reName, junosVersion part.2)).filter
    fun version => !version.2.isEmpty

def nodeCount (raw : Text) : Nat :=
  match multiReSplit crates raw with
  | .error _ => 0
  | .ok nodes => nodes.length

def checkVersionSkew (software : SubCall) : List Finding :=
  match software.error with
  | some reason => [dataUnavailable .versionSkew reason]
  | none =>
      if nodeCount crates software.raw < 2 then []
      else match versions crates software.raw with
        | [] => []
        | base :: others => (others.filter fun other => other.2 != base.2).map (skewFinding base)

/-! ## The run -/

def allFindings (snapshot : Option ClusterStatusData) (c : Captured) : List Finding :=
  checkRedLed crates c.info ++ checkDisabledSecondary snapshot ++
    checkControlLinkFailure crates c.interfaces c.info ++ checkMajorAlarm crates c.alarms ++
    checkMinorAlarm crates c.alarms ++ checkRecentReboot crates c.uptime ++
    checkVersionSkew crates c.software

def composeRaw (c : Captured) : Text :=
  "<!-- cluster-status -->\n".toList ++ c.status.raw ++
    "\n<!-- cluster-interfaces -->\n".toList ++ c.interfaces.raw ++
    "\n<!-- cluster-information -->\n".toList ++ c.info.raw ++
    "\n<!-- dp-stats -->\n".toList ++ c.dpStats.raw ++
    "\n<!-- cl-stats -->\n".toList ++ c.clStats.raw ++
    "\n<!-- software -->\n".toList ++ c.software.raw ++
    "\n<!-- alarms -->\n".toList ++ c.alarms.raw ++
    "\n<!-- uptime -->\n".toList ++ c.uptime.raw

def snapshotOf (parsed : SrxToolResponse ClusterStatusData) : Option ClusterStatusData :=
  match parsed.state with
  | .active => parsed.data
  | .notConfigured | .error => none

def report (args : ClusterHealthArgs) (requestId : Text) (snapshot : Option ClusterStatusData)
    (c : Captured) : SrxToolResponse ClusterHealthData :=
  let findings := allFindings crates snapshot c
  let response := .active ⟨Verdict.rollUp findings, findings, requestId, snapshot⟩
  if args.includeRaw then response.withRaw (composeRaw c) else response

/-- The calls after the status, and the report. -/
def inspect (args : ClusterHealthArgs) (requestId : Text) (status : SubCall)
    (snapshot : Option ClusterStatusData) : DeviceProg (SrxToolResponse ClusterHealthData) :=
  (capture "get-chassis-cluster-interfaces").bind fun interfaces =>
  (capture "get-chassis-cluster-information").bind fun info =>
  (capture "get-chassis-cluster-data-plane-statistics").bind fun dpStats =>
  (capture "get-chassis-cluster-statistics").bind fun clStats =>
  (capture "get-software-information").bind fun software =>
  (capture "get-system-alarm-information").bind fun alarms =>
  (capture "get-system-uptime-information").bind fun uptime =>
  .pure (.ok (report crates args requestId snapshot
    ⟨status, interfaces, info, dpStats, clStats, software, alarms, uptime⟩))

def standalone (args : ClusterHealthArgs) (status : SubCall) : SrxToolResponse ClusterHealthData :=
  let response := .notConfigured ClusterStatus.disabled
  if args.includeRaw then response.withRaw status.raw else response

def afterStatus (args : ClusterHealthArgs) (requestId : Text) (status : SubCall) :
    DeviceProg (SrxToolResponse ClusterHealthData) :=
  if status.isOk then
    match ClusterStatus.parse crates status.raw with
    | .error error => .pure (.error error)
    | .ok parsed =>
        if parsed.state = .notConfigured then .pure (.ok (standalone args status))
        else inspect crates args requestId status (snapshotOf parsed)
  else inspect crates args requestId status none

/-- The request id of the caller, or the minted one. -/
def requestIdOf (minted : Text) (args : ClusterHealthArgs) : Text :=
  (args.requestId.filter fun s => !(Text.trim s).isEmpty).getD minted

def run (minted : Text) (args : ClusterHealthArgs) :
    DeviceProg (SrxToolResponse ClusterHealthData) :=
  if (Text.trim args.router).isEmpty then
    .pure (.error (.invalidInput "router must not be empty".toList))
  else openExecutor.andThen fun _ => (capture "get-chassis-cluster-status").bind fun status =>
    afterStatus crates args (requestIdOf minted args) status

end Checks

end JunosMcp.Srx.ClusterHealth
