import JunosMcp.Srx.Device
import JunosMcp.Srx.Fields

/-!
# `get_srx_security_services_status`

Five services are asked one after the other. Each reply is split into the parts of its nodes, and
the report has a slot for each service of each node.
-/

namespace JunosMcp.Srx.ServicesStatus

open Lib

structure ServicesStatusArgs where
  router : Text
  includeRaw : Bool

structure SubServiceStatus (T : Type) where
  state : SrxState
  data : Option T
  reason : Option Text

namespace SubServiceStatus

variable {T : Type}

def active (data : T) : SubServiceStatus T := ⟨.active, some data, none⟩

def notConfigured (reason : Text) : SubServiceStatus T := ⟨.notConfigured, none, some reason⟩

def error (reason : Text) : SubServiceStatus T := ⟨.error, none, some reason⟩

end SubServiceStatus

structure IdpInfo where
  packageVersion : Text
  detectorVersion : Text

structure AppIdInfo where
  version : Text

structure UtmAvInfo where
  engineType : Text

structure SecIntelInfo where
  feeds : List Text

structure AtpCloudInfo where
  connectionUrl : Option Text

structure NodeServicesStatus where
  reName : Text
  idp : SubServiceStatus IdpInfo
  appid : SubServiceStatus AppIdInfo
  utmAv : SubServiceStatus UtmAvInfo
  secintel : SubServiceStatus SecIntelInfo
  atpCloud : SubServiceStatus AtpCloudInfo

structure ServicesStatusData where
  nodes : List NodeServicesStatus

/-! ## The payloads -/

section Parse

variable (crates : XmlCrates) {T : Type}

/-- What the parsers do before they look for their own elements. -/
def readPayload (body : XmlDocument → SubServiceStatus T) (xml : Text) : SubServiceStatus T :=
  match crates.parse xml with
  | .error e => .error ("xml parse error: ".toList ++ e)
  | .ok document => match rpcErrorParts document with
      | some (errorTag, reason) =>
          if errorTag = "not-configured".toList then .notConfigured reason else .error reason
      | none => body document

def findElement (name : String) (document : XmlDocument) : Option XmlNode :=
  document.root.bind fun root => root.descendants.find? (XmlNode.named name.toList)

/-- The trimmed text of the first child of this name, empty or not. -/
def childText (name : String) (node : XmlNode) : Option Text :=
  ((node.firstChild name).bind XmlNode.leadingText).map Text.trim

def parseIdp : Text → SubServiceStatus IdpInfo := readPayload crates fun document =>
  match findElement "idp-security-package-information" document with
  | none => .notConfigured "idp-security-package-information element absent".toList
  | some el => .active ⟨(childText "security-package-version" el).getD [],
      (childText "detector-version" el).getD []⟩

def parseAppid : Text → SubServiceStatus AppIdInfo := readPayload crates fun document =>
  match findElement "appid-package-version" document with
  | none => .notConfigured "appid-package-version element absent".toList
  | some el => .active ⟨(childText "version-detail" el).getD []⟩

def engineTypeOf (document : XmlDocument) : Text :=
  (((document.first "anti-virus-scan-engine-type".toList).bind XmlNode.leadingText).map
    Text.trim).getD []

def parseUtmAv : Text → SubServiceStatus UtmAvInfo := readPayload crates fun document =>
  let engineType := engineTypeOf document
  if engineType.isEmpty || engineType == "no-config".toList then
    .notConfigured "UTM anti-virus not configured (no-config)".toList
  else .active ⟨engineType⟩

def feedsOf (document : XmlDocument) : List Text :=
  (((document.all "feed-name".toList).filterMap XmlNode.leadingText).map Text.trim).filter
    (!·.isEmpty)

def parseSecintel : Text → SubServiceStatus SecIntelInfo := readPayload crates fun document =>
  let feeds := feedsOf document
  if (document.first "secintel-feed-summary".toList).isNone && feeds.isEmpty then
    .notConfigured "secintel-feed-summary element absent".toList
  else .active ⟨feeds⟩

def parseAtp : Text → SubServiceStatus AtpCloudInfo := readPayload crates fun document =>
  if (document.first "aamw-errors".toList).isSome then
    .notConfigured "AAMW/ATP Cloud not configured (no connection URL)".toList
  else match document.first "aamw-status".toList with
    | none => .notConfigured "aamw-status element absent".toList
    | some status => .active ⟨childText "aamw-connection-url" status⟩

end Parse

/-! ## The services -/

inductive Service where
  | idp
  | appid
  | utmAv
  | secintel
  | atpCloud
deriving DecidableEq

namespace Service

def all : List Service := [.idp, .appid, .utmAv, .secintel, .atpCloud]

def rpc : Service → String
  | idp => "get-idp-security-package-information"
  | appid => "get-appid-package-version"
  | utmAv => "get-anti-virus-status"
  | secintel => "get-secintel-feed-summary"
  | atpCloud => "get-aamw-status"

abbrev Info : Service → Type
  | idp => IdpInfo
  | appid => AppIdInfo
  | utmAv => UtmAvInfo
  | secintel => SecIntelInfo
  | atpCloud => AtpCloudInfo

def parser (crates : XmlCrates) : (service : Service) → Text → SubServiceStatus service.Info
  | idp => parseIdp crates
  | appid => parseAppid crates
  | utmAv => parseUtmAv crates
  | secintel => parseSecintel crates
  | atpCloud => parseAtp crates

end Service

def NodeServicesStatus.slot (node : NodeServicesStatus) :
    (service : Service) → SubServiceStatus service.Info
  | .idp => node.idp
  | .appid => node.appid
  | .utmAv => node.utmAv
  | .secintel => node.secintel
  | .atpCloud => node.atpCloud

/-! ## The report -/

structure SubCall where
  raw : Text
  result : Except Text (List ReNode)

/-- `Display` of what splitting fails with, which is always a parse error. -/
def splitDisplay : SrxError → Text
  | .parse message => "xml parse: ".toList ++ message
  | _ => []

section Report

variable (crates : XmlCrates)

/-- `capture`, from the answer on. -/
def subCall : Except RustEzError Text → SubCall
  | .ok xml => ⟨xml, (multiReSplit crates xml).mapError fun e =>
      "xml split error: ".toList ++ splitDisplay e⟩
  | .error e => ⟨[], .error ("rpc error: ".toList ++ e.display)⟩

def noPayload : Text := "no payload for this RE node".toList

def perNode {T : Type} (call : SubCall) (index : Nat) (parse : Text → SubServiceStatus T) :
    SubServiceStatus T :=
  match call.result with
  | .error reason => .error reason
  | .ok nodes => match nodes[index]? with
      | some node => parse node.innerXml
      | none => .error noPayload

/-- The names in the first reply that could be split. -/
def nodeNames (calls : Service → SubCall) : List Text :=
  match Service.all.findSome? fun service => (calls service).result.toOption with
  | some nodes => nodes.map ReNode.reName
  | none => [[]]

def nodeStatus (calls : Service → SubCall) (entry : Text × Nat) : NodeServicesStatus where
  reName := entry.1
  idp := perNode (calls .idp) entry.2 (parseIdp crates)
  appid := perNode (calls .appid) entry.2 (parseAppid crates)
  utmAv := perNode (calls .utmAv) entry.2 (parseUtmAv crates)
  secintel := perNode (calls .secintel) entry.2 (parseSecintel crates)
  atpCloud := perNode (calls .atpCloud) entry.2 (parseAtp crates)

def nodeStatuses (calls : Service → SubCall) : List NodeServicesStatus :=
  (nodeNames calls).zipIdx.map (nodeStatus crates calls)

def isAbsent (node : NodeServicesStatus) : Bool :=
  node.idp.state == .notConfigured && node.appid.state == .notConfigured &&
    node.utmAv.state == .notConfigured && node.secintel.state == .notConfigured &&
    node.atpCloud.state == .notConfigured

def composeRaw (calls : Service → SubCall) : Text :=
  "<!-- idp -->\n".toList ++ (calls .idp).raw ++ "\n<!-- appid -->\n".toList ++
    (calls .appid).raw ++ "\n<!-- utm -->\n".toList ++ (calls .utmAv).raw ++
    "\n<!-- secintel -->\n".toList ++ (calls .secintel).raw ++ "\n<!-- atp -->\n".toList ++
    (calls .atpCloud).raw

def report (args : ServicesStatusArgs) (calls : Service → SubCall) :
    SrxToolResponse ServicesStatusData :=
  let nodes := nodeStatuses crates calls
  let response := if nodes.all isAbsent then
      .notConfigured "no SRX security services configured on this device".toList
    else .active ⟨nodes⟩
  if args.includeRaw then response.withRaw (composeRaw calls) else response

def capture (service : Service) : DeviceProg SubCall :=
  .step (.call service.rpc []) fun answer => .pure (.ok (subCall crates answer))

def run (args : ServicesStatusArgs) : DeviceProg (SrxToolResponse ServicesStatusData) :=
  if (Text.trim args.router).isEmpty then
    .pure (.error (.invalidInput "router must not be empty".toList))
  else openExecutor.andThen fun _ =>
    (capture crates .idp).andThen fun idp =>
    (capture crates .appid).andThen fun appid =>
    (capture crates .utmAv).andThen fun utmAv =>
    (capture crates .secintel).andThen fun secintel =>
    (capture crates .atpCloud).andThen fun atpCloud =>
    .pure (.ok (report crates args fun
      | .idp => idp
      | .appid => appid
      | .utmAv => utmAv
      | .secintel => secintel
      | .atpCloud => atpCloud))

end Report

end JunosMcp.Srx.ServicesStatus
