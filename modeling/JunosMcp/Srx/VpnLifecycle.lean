import JunosMcp.Srx.Device
import JunosMcp.Srx.Fields

/-!
# `vpn_lifecycle_report`

The security associations of both phases are asked for one after the other, and the report of a node
puts together what the two replies have under its name.
-/

namespace JunosMcp.Srx.VpnLifecycle

open Lib

structure VpnLifecycleArgs where
  router : Text
  peer : Option Text
  tunnel : Option Text
  includeRaw : Bool

structure IkeSa where
  index : Option Nat
  remoteAddress : Text
  state : Text
  mode : Text
  initiatorCookie : Text
  responderCookie : Text
  lifetimeRemainingSeconds : Option Nat
  gatewayName : Option Text
deriving DecidableEq

/-- One direction of a second-phase association. -/
structure IpsecSa where
  tunnelId : Option Nat
  direction : Text
  gateway : Text
  spi : Text
  blockState : Text
  lifetimeRemainingSeconds : Option Nat
  lifetimeRemainingKilobytes : Option Nat
deriving DecidableEq

structure VpnCorrelation where
  ikeSaIndex : Option Nat
  ipsecSaTunnelIds : List Nat
deriving DecidableEq

structure NodeVpnReport where
  reName : Text
  ikeSas : List IkeSa
  ipsecSas : List IpsecSa
  correlations : List VpnCorrelation
deriving DecidableEq

structure VpnLifecycleData where
  nodes : List NodeVpnReport

/-! ## The associations of a document -/

/-- The trimmed text of the first child of this name, empty or not. -/
def childText (name : String) (node : XmlNode) : Option Text :=
  ((node.firstChild name).bind XmlNode.leadingText).map Text.trim

def parseLifetimeSeconds (text : Text) : Option Nat := do
  let after ← Text.stripPrefix "Expires in ".toList (Text.trim text)
  let before ← Text.stripSuffix " seconds".toList after
  parseUnsigned 64 (Text.trim before)

def ikeSasIn (block : XmlNode) : List IkeSa :=
  let remoteAddress := (childText "ike-sa-remote-address" block).getD []
  let index := (childText "ike-sa-index" block).bind (parseUnsigned 64)
  let gatewayName := (childText "ike-gw-name" block).filter (!·.isEmpty)
  (block.childrenNamed "ike-security-associations").map fun sa =>
    { index, remoteAddress
      state := (childText "ike-sa-state" sa).getD []
      mode := (childText "ike-sa-exchange-type" sa).getD []
      initiatorCookie := (childText "ike-sa-initiator-cookie" sa).getD []
      responderCookie := (childText "ike-sa-responder-cookie" sa).getD []
      lifetimeRemainingSeconds := (childText "ike-sa-lifetime" sa).bind parseLifetimeSeconds
      gatewayName }

def ikeSasOf (document : XmlDocument) : List IkeSa :=
  (document.all "ike-security-associations-block".toList).flatMap ikeSasIn

/-- A lifesize in kilobytes, where there is a limit. -/
def parseLifesize (text : Text) : Option Nat :=
  if text = "unlim".toList ∨ text = "-".toList then none else parseUnsigned 64 text

def ipsecSasIn (block : XmlNode) : List IpsecSa :=
  let blockState := (childText "sa-block-state" block).getD []
  (block.childrenNamed "ipsec-security-associations").map fun sa =>
    { tunnelId := (childText "sa-tunnel-index" sa).bind (parseUnsigned 32)
      direction := (childText "sa-direction" sa).getD []
      gateway := (childText "sa-remote-gateway" sa).getD []
      spi := (childText "sa-spi" sa).getD []
      blockState
      lifetimeRemainingSeconds :=
        ((childText "sa-hard-lifetime" sa).bind (parseUnsigned 64)).filter (· ≠ 0)
      lifetimeRemainingKilobytes := (childText "sa-lifesize-remaining" sa).bind parseLifesize }

def ipsecSasOf (document : XmlDocument) : List IpsecSa :=
  (document.all "ipsec-security-associations-block".toList).flatMap ipsecSasIn

/-! ## Replies without associations -/

def isErrorElement (node : XmlNode) : Bool :=
  node.named "error".toList || node.named "rpc-error".toList

def isSaInformation (node : XmlNode) : Bool :=
  node.named "ike-security-associations-information".toList ||
    node.named "ipsec-security-associations-information".toList

def hasTopError (document : XmlDocument) : Bool :=
  document.root.any fun root => isErrorElement root || root.children.any isErrorElement

section Parse

variable (crates : XmlCrates)

/-- `is_not_configured_xml`. The tag and the message of the error make no difference: one that says
something else is taken for this one. -/
def isNotConfiguredXml (xml : Text) : Except SrxError Bool :=
  let xml := Text.trim xml
  if xml.isEmpty then .ok false
  else do
    let document ← readDocument crates (sanitizeRustezXml xml)
    return hasTopError document && !document.descendants.any isSaInformation

/-- What `parse_ike` and `parse_ipsec` have in common. -/
def parseSas {Sa : Type} (phase : String) (sasOf : XmlDocument → List Sa) (xml : Text) :
    Except SrxError (List Sa) := do
  if ← isNotConfiguredXml crates xml then return []
  else match crates.parse (sanitizeRustezXml xml) with
    | .error error => throw (.parse (phase.toList ++ " xml parse: ".toList ++ error))
    | .ok document => return sasOf document

def parseIke (xml : Text) : Except SrxError (List IkeSa) := parseSas crates "IKE" ikeSasOf xml

def parseIpsec (xml : Text) : Except SrxError (List IpsecSa) :=
  if (Text.trim xml).isEmpty then .ok [] else parseSas crates "IPsec" ipsecSasOf xml

/-! ## The join -/

def passes (filter : Option Text) (address : Text) : Bool :=
  filter.all fun needle => Text.contains address needle

def ikePasses (peer : Option Text) (sa : IkeSa) : Bool := passes peer sa.remoteAddress

def ipsecPasses (peer tunnel : Option Text) (sa : IpsecSa) : Bool :=
  passes peer sa.gateway && passes tunnel sa.gateway

/-- The tunnels to the peer of each first-phase association, each once. -/
def correlate (ikeSas : List IkeSa) (ipsecSas : List IpsecSa) : List VpnCorrelation :=
  ikeSas.map fun ike =>
    { ikeSaIndex := ike.index
      ipsecSaTunnelIds :=
        ((ipsecSas.filter fun ipsec => ipsec.gateway == ike.remoteAddress).filterMap
          IpsecSa.tunnelId).foldl (fun ids id => if ids.contains id then ids else ids ++ [id]) [] }

/-- The part of the node of this name; none where no node has it. -/
def innerOf (nodes : List ReNode) (name : Text) : Text :=
  ((nodes.find? fun node => node.reName = name).map ReNode.innerXml).getD []

variable (peer tunnel : Option Text)

def nodeReport (ipsecNodes : List ReNode) (ikeNode : ReNode) : Except SrxError NodeVpnReport := do
  let ikeSas ← parseIke crates ikeNode.innerXml
  let ipsecSas ← parseIpsec crates (innerOf ipsecNodes ikeNode.reName)
  let ikeSas := ikeSas.filter (ikePasses peer)
  let ipsecSas := ipsecSas.filter (ipsecPasses peer tunnel)
  return ⟨ikeNode.reName, ikeSas, ipsecSas, correlate ikeSas ipsecSas⟩

def parseCombined (ikeXml ipsecXml : Text) :
    Except SrxError (SrxToolResponse VpnLifecycleData) := do
  let ikeXml := sanitizeRustezXml ikeXml
  let ipsecXml := sanitizeRustezXml ipsecXml
  let ikeNotConfigured ← isNotConfiguredXml crates ikeXml
  let ipsecNotConfigured ← isNotConfiguredXml crates ipsecXml
  if ikeNotConfigured && ipsecNotConfigured then
    return .notConfigured "security ike/ipsec stanza absent".toList
  else
    let ikeNodes ← multiReSplit crates ikeXml
    let ipsecNodes ← multiReSplit crates ipsecXml
    let nodes ← ikeNodes.mapM (nodeReport crates peer tunnel ipsecNodes)
    return .active ⟨nodes⟩

end Parse

/-! ## The workflow -/

def ikeRequest : String :=
  "<get-ike-security-associations-information><detail/></get-ike-security-associations-information>"

def ipsecRpc : String := "get-security-associations-information"

def composeRaw (ikeXml ipsecXml : Text) : Text :=
  "<!-- IKE -->\n".toList ++ ikeXml ++ "\n<!-- IPsec -->\n".toList ++ ipsecXml

def run (crates : XmlCrates) (args : VpnLifecycleArgs) :
    DeviceProg (SrxToolResponse VpnLifecycleData) :=
  if (Text.trim args.router).isEmpty then
    .pure (.error (.invalidInput "router must not be empty".toList))
  else openExecutor.andThen fun _ =>
    (callXml ikeRequest).andThen fun ikeXml =>
    (callRpc ipsecRpc []).andThen fun ipsecXml =>
    .pure ((parseCombined crates args.peer args.tunnel ikeXml ipsecXml).map fun parsed =>
      if args.includeRaw then parsed.withRaw (composeRaw ikeXml ipsecXml) else parsed)

end JunosMcp.Srx.VpnLifecycle
