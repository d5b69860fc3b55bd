import JunosMcp.IpAddr
import JunosMcp.Srx.ClusterStatus
import JunosMcp.Srx.Device

/-!
# `srx_flow_sessions`

The session table is walked only when the summary counts at most as many sessions as the cap allows,
and what the walk brings is cut at the cap again.
-/

namespace JunosMcp.Srx

open Lib

inductive Protocol where
  | tcp
  | udp
  | icmp
  | other (number : Nat)
deriving DecidableEq

def Protocol.parse (s : Text) : Except SrxError Protocol :=
  let trimmed := Text.trim s
  if eqIgnoreAsciiCase trimmed "tcp".toList then .ok .tcp
  else if eqIgnoreAsciiCase trimmed "udp".toList then .ok .udp
  else if eqIgnoreAsciiCase trimmed "icmp".toList then .ok .icmp
  else match parseUnsigned 8 trimmed with
    | some number => .ok (.other number)
    | none => .error (.invalidInput ("unrecognised protocol: expected tcp, udp, icmp, ".toList ++
        "or a numeric IANA protocol number 0-255".toList))

def Protocol.rpcValue : Protocol → Text
  | .tcp => "tcp".toList
  | .udp => "udp".toList
  | .icmp => "icmp".toList
  | .other number => (Nat.repr number).toList

namespace FlowSessions

def defaultCap : Nat := 200

def maxCap : Nat := 2000

structure FlowSessionsArgs where
  router : Text
  sourcePrefix : Option Text
  destinationPrefix : Option Text
  sourcePort : Option Nat
  destinationPort : Option Nat
  protocol : Option Text
  application : Option Text
  sessionIdentifier : Option Text
  cap : Option Nat
  acknowledgeUnfiltered : Bool
  includeRaw : Bool

structure FlowSession where
  sessionId : Nat
  protocol : Text
  source : IpAddr × Nat
  destination : IpAddr × Nat
  translatedSource : Option (IpAddr × Nat)
  translatedDestination : Option (IpAddr × Nat)
  application : Option Text
  policyName : Option Text
  inInterface : Text
  outInterface : Text
  timeout : Nat
  duration : Nat
deriving DecidableEq

structure NodeSessions where
  reName : Text
  sessions : List FlowSession
  error : Option Text

inductive RefusalReason where
  | countExceedsCap
  | countUnavailable
deriving DecidableEq

structure FlowSessionQuery where
  nodes : List NodeSessions
  totalCountReported : Option Nat
  truncated : Bool
  refused : Option RefusalReason
  cap : Nat

/-! ## The arguments -/

structure FlowSessionFilter where
  sourcePrefix : Option Text
  destinationPrefix : Option Text
  sourcePort : Option Nat
  destinationPort : Option Nat
  protocol : Option Protocol
  application : Option Text
  sessionIdentifier : Option Nat

def FlowSessionFilter.hasFilter (filter : FlowSessionFilter) : Bool :=
  filter.sourcePrefix.isSome || filter.destinationPrefix.isSome || filter.sourcePort.isSome ||
    filter.destinationPort.isSome || filter.protocol.isSome || filter.application.isSome ||
    filter.sessionIdentifier.isSome

def rpcArg (name : String) (value : Option Text) : List (Text × Text) :=
  value.toList.map fun v => (name.toList, v)

def FlowSessionFilter.toRpcArgs (filter : FlowSessionFilter) : List (Text × Text) :=
  let number := fun n : Nat => (Nat.repr n).toList
  rpcArg "source-prefix" filter.sourcePrefix ++
    rpcArg "destination-prefix" filter.destinationPrefix ++
    rpcArg "source-port" (filter.sourcePort.map number) ++
    rpcArg "destination-port" (filter.destinationPort.map number) ++
    rpcArg "protocol" (filter.protocol.map Protocol.rpcValue) ++
    rpcArg "application" filter.application ++
    rpcArg "session-identifier" (filter.sessionIdentifier.map number)

def invalid {α : Type} (message : Text) : Except SrxError α := .error (.invalidInput message)

def validatePrefix (s : Text) : Except SrxError Text :=
  let trimmed := Text.trim s
  if trimmed.isEmpty then invalid "prefix must not be empty".toList
  else match trimmed.dropWhile (· != '/') with
    | _ :: len => match IpAddr.parse (trimmed.takeWhile (· != '/')) with
        | none => invalid "invalid prefix address".toList
        | some ip => match parseUnsigned 8 len with
            | none => invalid "invalid prefix length".toList
            | some len =>
                if len == 0 then
                  invalid ("prefix length must be at least 1 (/0 matches every address, ".toList ++
                    "which is not a valid filter)".toList)
                else if len > (if ip.isIpv4 then 32 else 128) then
                  invalid "prefix length out of range".toList
                else .ok trimmed
    | [] => match IpAddr.parse trimmed with
        | none => invalid "invalid prefix".toList
        | some _ => .ok trimmed

def isIdentifierChar (c : Char) : Bool := c.isAlphanum || c == '.' || c == '-' || c == '_'

def validateIdentifierToken (field s : Text) : Except SrxError Text :=
  if utf8Len s > 63 then invalid (field ++ " must be 63 characters or fewer".toList)
  else if !s.all isIdentifierChar then invalid (field ++ " must match [A-Za-z0-9._-]+".toList)
  else .ok s

def validatePort (field : String) (port : Nat) : Except SrxError Nat :=
  if port < 2 ^ 16 then .ok port else invalid (field.toList ++ " must be 0-65535".toList)

def validateSessionIdentifier (s : Text) : Except SrxError Nat :=
  match parseUnsigned 64 s with
  | some number => .ok number
  | none => invalid "session_identifier must be a non-negative integer".toList

/-- An argument that is blank counts as none. -/
def nonBlank (value : Option Text) : Option Text := (value.map Text.trim).filter (!·.isEmpty)

def readFilter (args : FlowSessionsArgs) : Except SrxError FlowSessionFilter := do
  let sourcePrefix ← args.sourcePrefix.mapM validatePrefix
  let destinationPrefix ← args.destinationPrefix.mapM validatePrefix
  let sourcePort ← args.sourcePort.mapM (validatePort "source_port")
  let destinationPort ← args.destinationPort.mapM (validatePort "destination_port")
  let protocol ← args.protocol.mapM Protocol.parse
  let application ←
    (nonBlank args.application).mapM (validateIdentifierToken "application".toList)
  let sessionIdentifier ← (nonBlank args.sessionIdentifier).mapM validateSessionIdentifier
  return ⟨sourcePrefix, destinationPrefix, sourcePort, destinationPort, protocol, application,
    sessionIdentifier⟩

def validateFilter (args : FlowSessionsArgs) : Except SrxError FlowSessionFilter :=
  if (Text.trim args.router).isEmpty then invalid "router must not be empty".toList
  else if (args.sourcePort.isSome || args.destinationPort.isSome) && args.protocol.isNone then
    invalid "source_port/destination_port filter requires protocol".toList
  else match readFilter args with
    | .error error => .error error
    | .ok filter =>
        if !filter.hasFilter && !args.acknowledgeUnfiltered then
          invalid ("flow-session query has no filter; narrow the query or set ".toList ++
            "acknowledge_unfiltered=true to accept a capped, possibly-truncated walk".toList)
        else .ok filter

def validateCap (cap : Option Nat) : Except SrxError Nat :=
  let cap := cap.getD defaultCap
  if cap == 0 then invalid "cap must be at least 1".toList
  else if cap > maxCap then
    invalid ("cap ".toList ++ (Nat.repr cap).toList ++ " exceeds hard ceiling ".toList ++
      (Nat.repr maxCap).toList)
  else .ok cap

inductive WalkDecision where
  | proceed
  | refuse (reason : RefusalReason)
deriving DecidableEq

def planWalk (summaryTotal : Option Nat) (cap : Nat) : WalkDecision :=
  match summaryTotal with
  | some total => if total ≤ cap then .proceed else .refuse .countExceedsCap
  | none => .refuse .countUnavailable

/-! ## Errors of a node -/

structure RpcErrorInfo where
  message : Text
  isWarning : Bool
  isError : Bool
deriving DecidableEq

def errorMessage (error : XmlNode) : Text :=
  ((textBelow "error-message".toList error).filter (!·.isEmpty)).getD
    "rpc-error (no error-message)".toList

def hasSeverity (severity : String) (error : XmlNode) : Bool :=
  (textBelow "error-severity".toList error).map asciiLowercase == some severity.toList

def rpcErrorInfo (document : XmlDocument) : Option RpcErrorInfo :=
  let errors := document.all "rpc-error".toList
  let anyError := errors.any (hasSeverity "error")
  if errors.isEmpty then none
  else some ⟨List.intercalate "; ".toList (errors.map errorMessage),
    errors.any (hasSeverity "warning") && !anyError, anyError⟩

section Parse

variable (crates : XmlCrates)

def extractRpcError (xml : Text) : Option RpcErrorInfo :=
  match readFragment crates xml with
  | .error _ => none
  | .ok document => rpcErrorInfo document

/-- `roxmltree` on the text with a single root. -/
def readSingleRoot (xml : Text) : Except SrxError XmlDocument :=
  (readFragment crates xml).mapError fun error => .parse ("roxmltree: ".toList ++ error)

/-! ## The summary -/

def countNamed (name : String) (document : XmlDocument) : Option Nat :=
  ((document.first name.toList).bind XmlNode.leadingText).bind fun t =>
    parseUnsigned 64 (Text.trim t)

def summaryCount (document : XmlDocument) : Option Nat :=
  (countNamed "displayed-session-count" document).or (countNamed "sessions-in-use" document)

def saturatingAdd (a b : Nat) : Nat := min (a + b) (2 ^ 64 - 1)

/-- The loop over the nodes, with the sum so far, once a node has counted. -/
def sumCounts (counted : Option Nat) : List ReNode → Except SrxError (Option Nat)
  | [] => .ok counted
  | node :: rest =>
      let info := extractRpcError crates node.innerXml
      if info.any RpcErrorInfo.isError then .ok none
      else if info.any fun e => !e.isWarning then sumCounts counted rest
      else match readSingleRoot crates node.innerXml with
        | .error error => .error error
        | .ok document => match summaryCount document with
            | none => .ok none
            | some count => sumCounts (some (saturatingAdd (counted.getD 0) count)) rest

def parseSummaryTotal (xml : Text) : Except SrxError (Option Nat) := do
  let reNodes ← multiReSplit crates xml
  sumCounts crates none reNodes

/-! ## The walk -/

def childText (name : String) (node : XmlNode) : Option Text :=
  (((node.child name.toList).bind XmlNode.leadingText).map Text.trim).filter (!·.isEmpty)

def rpcName : String := "get-flow-session-information"

def required {α : Type} (element : String) (value : Option α) : Except SrxError α :=
  match value with
  | some value => .ok value
  | none => .error (.schemaMismatch rpcName element)

def numberOf (bits : Nat) (name : String) (block : XmlNode) : Nat :=
  ((childText name block).bind (parseUnsigned bits)).getD 0

def addressOf (name : String) (block : XmlNode) : Option IpAddr :=
  (childText name block).bind IpAddr.parse

def readSession (block : XmlNode) : Except SrxError FlowSession := do
  let sessionId ← required "session-identifier"
    ((childText "session-identifier" block).bind (parseUnsigned 64))
  let sourceAddress ← required "source-address" (addressOf "source-address" block)
  let destinationAddress ← required "destination-address" (addressOf "destination-address" block)
  return {
    sessionId
    protocol := (childText "session-protocol-name" block).getD []
    source := (sourceAddress, numberOf 16 "source-port" block)
    destination := (destinationAddress, numberOf 16 "destination-port" block)
    translatedSource := (addressOf "nat-source-address" block).map fun a =>
      (a, numberOf 16 "nat-source-port" block)
    translatedDestination := (addressOf "nat-destination-address" block).map fun a =>
      (a, numberOf 16 "nat-destination-port" block)
    application := childText "application" block
    policyName := childText "policy-name" block
    inInterface := (childText "in-interface-name" block).getD []
    outInterface := (childText "out-interface-name" block).getD []
    timeout := numberOf 32 "timeout" block
    duration := numberOf 32 "duration" block }

def sessionBlocks (document : XmlDocument) : List XmlNode := document.all "flow-session".toList

def parseSessions (xml : Text) : Except SrxError (List FlowSession) := do
  let document ← readSingleRoot crates xml
  (sessionBlocks document).mapM readSession

structure WalkState where
  nodes : List NodeSessions
  remaining : Nat
  truncated : Bool

def walkNode (state : WalkState) (node : ReNode) : Except SrxError WalkState :=
  let rpcError := extractRpcError crates node.innerXml
  if rpcError.any fun e => !e.isWarning then
    .ok { state with
      nodes := state.nodes ++ [⟨node.reName, [], rpcError.map RpcErrorInfo.message⟩] }
  else match parseSessions crates node.innerXml with
    | .error error => .error error
    | .ok sessions =>
        let kept := sessions.take state.remaining
        .ok {
          nodes := state.nodes ++ [⟨node.reName, kept, rpcError.map RpcErrorInfo.message⟩]
          remaining := state.remaining - kept.length
          truncated := state.truncated || state.remaining < sessions.length }

def parseWalk (xml : Text) (totalCountReported : Option Nat) (cap : Nat) :
    Except SrxError (SrxToolResponse FlowSessionQuery) := do
  let reNodes ← multiReSplit crates (sanitizeRustezXml xml)
  let state ← reNodes.foldlM (walkNode crates) ⟨[], cap, totalCountReported.any (cap < ·)⟩
  return .active ⟨state.nodes, totalCountReported, state.truncated, none, cap⟩

/-! ## The call -/

def composeRefuseRaw (summaryXml : Text) : Text := "<!-- summary -->\n".toList ++ summaryXml

def composeWalkRaw (summaryXml walkXml : Text) (truncated : Bool) : Text :=
  if truncated then
    "<!-- summary -->\n".toList ++ summaryXml ++
      "\n<!-- walk raw XML omitted: result was truncated to the cap, ".toList ++
      "and the raw walk body is not cap-bounded -->".toList
  else "<!-- summary -->\n".toList ++ summaryXml ++ "\n<!-- walk -->\n".toList ++ walkXml

def attachRaw (includeRaw : Bool) (raw : Text) (response : SrxToolResponse FlowSessionQuery) :
    SrxToolResponse FlowSessionQuery :=
  if includeRaw then response.withRaw raw else response

def isTruncated (response : SrxToolResponse FlowSessionQuery) : Bool :=
  response.data.any FlowSessionQuery.truncated

def refusal (total : Option Nat) (reason : RefusalReason) (cap : Nat) :
    SrxToolResponse FlowSessionQuery :=
  .active ⟨[], total, true, some reason, cap⟩

def summaryArgs (filter : FlowSessionFilter) : List (Text × Text) :=
  ("summary".toList, []) :: filter.toRpcArgs

/-- From the total on. -/
def answerTotal (args : FlowSessionsArgs) (filter : FlowSessionFilter) (cap : Nat)
    (summaryXml : Text) (total : Option Nat) : DeviceProg (SrxToolResponse FlowSessionQuery) :=
  match planWalk total cap with
  | .refuse reason =>
      .pure (.ok (attachRaw args.includeRaw (composeRefuseRaw summaryXml)
        (refusal total reason cap)))
  | .proceed => (callRpc rpcName filter.toRpcArgs).andThen fun walkXml =>
      .pure ((parseWalk crates walkXml total cap).map fun parsed =>
        attachRaw args.includeRaw (composeWalkRaw summaryXml walkXml (isTruncated parsed)) parsed)

def query (args : FlowSessionsArgs) (filter : FlowSessionFilter) (cap : Nat) :
    DeviceProg (SrxToolResponse FlowSessionQuery) :=
  openExecutor.andThen fun _ =>
    (callRpc rpcName (summaryArgs filter)).andThen fun summaryXml =>
      Prog.andThen (.pure (parseSummaryTotal crates summaryXml)) fun total =>
        answerTotal crates args filter cap summaryXml total

def run (args : FlowSessionsArgs) : DeviceProg (SrxToolResponse FlowSessionQuery) :=
  Prog.andThen (.pure (validateFilter args)) fun filter =>
    Prog.andThen (.pure (validateCap args.cap)) fun cap => query crates args filter cap

end Parse

end FlowSessions

end JunosMcp.Srx
