import JunosMcp.Srx.Fields
import JunosMcp.Srx.FlowSessions

/-!
# `srx_policy_match`

The device is asked which policy of a zone pair matches. Where none does, it is asked for a global
policy, and only where none matches there either the default of the zone pair is the answer.
-/

namespace JunosMcp.Srx.PolicyMatch

open Lib

structure PolicyMatchArgs where
  router : Text
  fromZone : Text
  toZone : Text
  sourceIp : Text
  destinationIp : Text
  sourcePort : Nat
  destinationPort : Nat
  protocol : Text
  includeRaw : Bool

structure FiveTuple where
  fromZone : Text
  toZone : Text
  sourceIp : IpAddr
  destinationIp : IpAddr
  sourcePort : Nat
  destinationPort : Nat
  protocol : Protocol

inductive MatchVerdict where
  | permit
  | deny
  | reject
  | noMatch
deriving DecidableEq

inductive DefaultAction where
  | deny
  | permit
deriving DecidableEq

structure MatchedPolicy where
  fromZone : Text
  toZone : Text
  name : Text
  sequence : Nat
deriving DecidableEq

structure PolicyMatchResult where
  verdict : MatchVerdict
  matchedPolicy : Option MatchedPolicy
  isGlobal : Bool
  defaultAction : Option DefaultAction
deriving DecidableEq

/-! ## The arguments -/

def invalid {α : Type} (message : String) : Except SrxError α :=
  .error (.invalidInput message.toList)

def validateZoneToken (field : String) (s : Text) : Except SrxError Text :=
  if s.isEmpty then invalid (field ++ " must not be empty")
  else if utf8Len s > 63 then invalid (field ++ " must be 63 characters or fewer")
  else if !s.all fun c => c.isAlphanum || c == '.' || c == '-' || c == '_' then
    invalid (field ++ " must match [A-Za-z0-9._-]+")
  else .ok s

def readIp (field : String) (s : Text) : Except SrxError IpAddr :=
  match IpAddr.parse (Text.trim s) with
  | some ip => .ok ip
  | none => invalid (field ++ " is not a valid IP address")

def readPort (field : String) (port : Nat) : Except SrxError Nat :=
  if port < 2 ^ 16 then .ok port else invalid (field ++ " must be 0-65535")

def parseFiveTuple (args : PolicyMatchArgs) : Except SrxError FiveTuple :=
  if (Text.trim args.router).isEmpty then invalid "router must not be empty"
  else do
    let fromZone ← validateZoneToken "from_zone" (Text.trim args.fromZone)
    let toZone ← validateZoneToken "to_zone" (Text.trim args.toZone)
    let sourceIp ← readIp "source_ip" args.sourceIp
    let destinationIp ← readIp "destination_ip" args.destinationIp
    let sourcePort ← readPort "source_port" args.sourcePort
    let destinationPort ← readPort "destination_port" args.destinationPort
    let protocol ← Protocol.parse args.protocol
    return ⟨fromZone, toZone, sourceIp, destinationIp, sourcePort, destinationPort, protocol⟩

/-- What both calls ask with. -/
def FiveTuple.hostArgs (fiveTuple : FiveTuple) : List (Text × Text) :=
  [("source-ip".toList, fiveTuple.sourceIp.display),
    ("destination-ip".toList, fiveTuple.destinationIp.display),
    ("source-port".toList, (Nat.repr fiveTuple.sourcePort).toList),
    ("destination-port".toList, (Nat.repr fiveTuple.destinationPort).toList),
    ("protocol".toList, fiveTuple.protocol.rpcValue)]

def FiveTuple.zoneArgs (fiveTuple : FiveTuple) : List (Text × Text) :=
  ("from-zone".toList, fiveTuple.fromZone) :: ("to-zone".toList, fiveTuple.toZone) ::
    fiveTuple.hostArgs

/-! ## A reply -/

def zoneRpc : String := "match-firewall-policies"

def globalRpc : String := "match-global-policies"

/-- The default policy, by the type of its action. -/
def defaultActionOf (action : Text) : Option DefaultAction :=
  if action = "deny-all".toList then some .deny
  else if action = "permit-all".toList then some .permit
  else none

def noMatch (action : DefaultAction) : PolicyMatchResult := ⟨.noMatch, none, false, some action⟩

section

variable (crates : XmlCrates) (debug : Text → Text)

def verdictOf (action : Text) : Except SrxError MatchVerdict :=
  if action = "permit".toList then .ok .permit
  else if action = "deny".toList then .ok .deny
  else if action = "reject".toList then .ok .reject
  else .error (.parse ("unrecognised match-policies action-type: ".toList ++ debug action))

/-- A zone of the policy; one that a global policy does not name is `any`. -/
def zoneField (rpc : String) (global : Bool) (name : String) (policy : XmlNode) :
    Except SrxError Text :=
  match policy.childText name with
  | some zone => .ok zone
  | none => if global then .ok "any".toList else .error (.schemaMismatch rpc name)

def sequenceOf (policy : XmlNode) : Nat :=
  ((policy.childText "policy-sequence-number").bind fun s => parseUnsigned 32 (Text.trim s)).getD 0

/-- An explicit policy. -/
def readPolicy (rpc : String) (global : Bool) (name action : Text) (policy : XmlNode) :
    Except SrxError PolicyMatchResult := do
  let verdict ← verdictOf debug action
  let fromZone ← zoneField rpc global "from-zone-name" policy
  let toZone ← zoneField rpc global "to-zone-name" policy
  return {
    verdict
    matchedPolicy := some ⟨fromZone, toZone, name, sequenceOf policy⟩
    isGlobal := global ||
      (eqIgnoreAsciiCase fromZone "any".toList && eqIgnoreAsciiCase toZone "any".toList)
    defaultAction := none }

def readRecord (rpc : String) (global : Bool) (policy : XmlNode) :
    Except SrxError PolicyMatchResult := do
  let name ← required rpc "policy-name" (policy.childText "policy-name")
  let actionType ← required rpc "action-type" (policy.childText "action-type")
  let action := asciiLowercase (Text.trim actionType)
  match defaultActionOf action with
  | some default => return noMatch default
  | none => readPolicy debug rpc global name action policy

def usableNode (rpc : String) (nodes : List ReNode) : Except SrxError ReNode :=
  match nodes.find? fun node => !ClusterStatus.containsRpcError node.innerXml with
  | some node => .ok node
  | none => .error (.rpc "rpc-error".toList "error".toList
      ("every node returned rpc-error for ".toList ++ rpc.toList))

def parseReply (xml : Text) (rpc : String) (global : Bool) :
    Except SrxError (SrxToolResponse PolicyMatchResult) := do
  let reNodes ← multiReSplit crates (sanitizeRustezXml xml)
  let node ← usableNode rpc reNodes
  let document ← readDocument crates node.innerXml
  let policy ← required rpc "policy-information" (document.first "policy-information".toList)
  let result ← readRecord debug rpc global policy
  return .active result

def parse (xml : Text) : Except SrxError (SrxToolResponse PolicyMatchResult) :=
  parseReply crates debug xml zoneRpc false

def parseGlobal (xml : Text) : Except SrxError (SrxToolResponse PolicyMatchResult) :=
  parseReply crates debug xml globalRpc true

def fellThrough (response : SrxToolResponse PolicyMatchResult) : Bool :=
  response.data.any fun d => d.verdict == .noMatch

def globalRequired : Text :=
  "zone-pair query fell through to the default policy; the global-policy ".toList ++
    "query is required before answering".toList

/-- The answer of both tiers, in the order the device evaluates them. -/
def resolve (zoneXml : Text) (globalXml : Option Text) :
    Except SrxError (SrxToolResponse PolicyMatchResult) := do
  let zone ← parse crates debug zoneXml
  if !fellThrough zone then return zone
  else match globalXml with
    | none => throw (.parse globalRequired)
    | some globalXml => do
        let global ← parseGlobal crates debug globalXml
        let globalMatched := global.data.any fun d => d.verdict != .noMatch
        return if globalMatched then global else zone

/-! ## The call -/

def askGlobal (fiveTuple : FiveTuple) (zone : SrxToolResponse PolicyMatchResult) :
    DeviceProg (Option Text) :=
  if fellThrough zone then
    (callRpc globalRpc fiveTuple.hostArgs).andThen fun reply => .pure (.ok (some reply))
  else .pure (.ok none)

def rawReplies (zoneReply : Text) : Option Text → Text
  | some global => zoneReply ++ '\n' :: global
  | none => zoneReply

def query (args : PolicyMatchArgs) (fiveTuple : FiveTuple) :
    DeviceProg (SrxToolResponse PolicyMatchResult) :=
  openExecutor.andThen fun _ =>
    (callRpc zoneRpc fiveTuple.zoneArgs).andThen fun zoneReply =>
      Prog.andThen (.pure (parse crates debug zoneReply)) fun zone =>
        (askGlobal fiveTuple zone).andThen fun globalReply =>
          Prog.andThen (.pure (resolve crates debug zoneReply globalReply)) fun parsed =>
            .pure (.ok (if args.includeRaw then parsed.withRaw (rawReplies zoneReply globalReply)
              else parsed))

def run (args : PolicyMatchArgs) : DeviceProg (SrxToolResponse PolicyMatchResult) :=
  Prog.andThen (.pure (parseFiveTuple args)) (query crates debug args)

/-! ## What a reply says -/

/-- The policy a reply is read from, the first one of its first node without an error, with its name
and the type of its action. -/
structure Records (xml : Text) (policy : XmlNode) (name action : Text) : Prop where
  first : ∃ before node after document,
    multiReSplit crates (sanitizeRustezXml xml) = .ok (before ++ node :: after) ∧
      (∀ n ∈ before, ClusterStatus.containsRpcError n.innerXml = true) ∧
      ClusterStatus.containsRpcError node.innerXml = false ∧
      crates.parse node.innerXml = .ok document ∧
      document.first "policy-information".toList = some policy
  named : policy.childText "policy-name" = some name
  acts : ∃ actionType, policy.childText "action-type" = some actionType ∧
    action = asciiLowercase (Text.trim actionType)

/-- No policy matched, and the device falls back to its default. -/
def FallsThrough (xml : Text) (default : DefaultAction) : Prop :=
  ∃ policy name action, Records crates xml policy name action ∧
    (default = .deny ∧ action = "deny-all".toList ∨ default = .permit ∧ action = "permit-all".toList)

def IsVerdict (action : Text) (verdict : MatchVerdict) : Prop :=
  verdict = .permit ∧ action = "permit".toList ∨ verdict = .deny ∧ action = "deny".toList ∨
    verdict = .reject ∧ action = "reject".toList

def IsZone (global : Bool) (policy : XmlNode) (name : String) (zone : Text) : Prop :=
  policy.childText name = some zone ∨
    global = true ∧ policy.childText name = none ∧ zone = "any".toList

/-- A configured policy matched. -/
def ExplicitMatch (global : Bool) (xml : Text) (result : PolicyMatchResult) : Prop :=
  ∃ policy name action verdict fromZone toZone, Records crates xml policy name action ∧
    IsVerdict action verdict ∧ IsZone global policy "from-zone-name" fromZone ∧
    IsZone global policy "to-zone-name" toZone ∧
    result = ⟨verdict, some ⟨fromZone, toZone, name, sequenceOf policy⟩,
      global || (eqIgnoreAsciiCase fromZone "any".toList && eqIgnoreAsciiCase toZone "any".toList),
      none⟩

/-- The answer to a reply for the zone pair and, where there is one, to the global reply. -/
inductive Answers (zoneXml : Text) : Option Text → SrxToolResponse PolicyMatchResult → Prop where
  | zonePair {global : Option Text} {result : PolicyMatchResult} :
      ExplicitMatch crates false zoneXml result → Answers zoneXml global (.active result)
  | globalTier {globalXml : Text} {default : DefaultAction} {result : PolicyMatchResult} :
      FallsThrough crates zoneXml default → ExplicitMatch crates true globalXml result →
        Answers zoneXml (some globalXml) (.active result)
  | neither {globalXml : Text} {default other : DefaultAction} :
      FallsThrough crates zoneXml default → FallsThrough crates globalXml other →
        Answers zoneXml (some globalXml) (.active (noMatch default))

end

variable {crates : XmlCrates} {debug : Text → Text}

theorem usableNode_ok {rpc : String} {nodes : List ReNode} {node : ReNode} :
    usableNode rpc nodes = .ok node ↔ ∃ before after, nodes = before ++ node :: after ∧
      (∀ n ∈ before, ClusterStatus.containsRpcError n.innerXml = true) ∧
      ClusterStatus.containsRpcError node.innerXml = false := by
  have found : usableNode rpc nodes = .ok node ↔
      nodes.find? (fun node => !ClusterStatus.containsRpcError node.innerXml) = some node := by
    unfold usableNode
    cases nodes.find? fun node => !ClusterStatus.containsRpcError node.innerXml with
    | none => simp
    | some other => simp
  rw [found, List.find?_eq_some_iff_append]
  constructor
  · rintro ⟨quiet, before, after, rfl, errors⟩
    exact ⟨before, after, rfl, fun n member => by simpa using errors n member, by simpa using quiet⟩
  · rintro ⟨before, after, rfl, errors, quiet⟩
    exact ⟨by simpa using quiet, before, after, rfl, fun n member => by simpa using errors n member⟩

theorem verdictOf_ok {action : Text} {verdict : MatchVerdict} :
    verdictOf debug action = .ok verdict ↔ IsVerdict action verdict := by
  constructor
  · intro ok
    unfold verdictOf at ok
    split at ok
    · next permit =>
        cases ok
        exact .inl ⟨rfl, permit⟩
    · split at ok
      · next deny =>
          cases ok
          exact .inr (.inl ⟨rfl, deny⟩)
      · split at ok
        · next reject =>
            cases ok
            exact .inr (.inr ⟨rfl, reject⟩)
        · cases ok
  · rintro (⟨rfl, rfl⟩ | ⟨rfl, rfl⟩ | ⟨rfl, rfl⟩) <;> rfl

theorem zoneField_ok {rpc name : String} {global : Bool} {policy : XmlNode} {zone : Text} :
    zoneField rpc global name policy = .ok zone ↔ IsZone global policy name zone := by
  unfold zoneField IsZone
  cases policy.childText name with
  | some found => simp
  | none => cases global <;> simp [eq_comm]

theorem defaultActionOf_some {action : Text} {default : DefaultAction} :
    defaultActionOf action = some default ↔
      default = .deny ∧ action = "deny-all".toList ∨
        default = .permit ∧ action = "permit-all".toList := by
  constructor
  · intro found
    unfold defaultActionOf at found
    split at found
    · next deny =>
        cases found
        exact .inl ⟨rfl, deny⟩
    · split at found
      · next permit =>
          cases found
          exact .inr ⟨rfl, permit⟩
      · cases found
  · rintro (⟨rfl, rfl⟩ | ⟨rfl, rfl⟩) <;> rfl

/-- The type of an explicit action is never that of a default. -/
theorem IsVerdict.defaultActionOf {action : Text} {verdict : MatchVerdict}
    (is : IsVerdict action verdict) : defaultActionOf action = none := by
  rcases is with ⟨rfl, rfl⟩ | ⟨rfl, rfl⟩ | ⟨rfl, rfl⟩ <;> rfl

theorem IsVerdict.ne_noMatch {action : Text} {verdict : MatchVerdict}
    (is : IsVerdict action verdict) : verdict ≠ .noMatch := by
  rcases is with ⟨rfl, rfl⟩ | ⟨rfl, rfl⟩ | ⟨rfl, rfl⟩ <;> decide

theorem readPolicy_ok {rpc : String} {global : Bool} {name action : Text} {policy : XmlNode}
    {result : PolicyMatchResult} :
    readPolicy debug rpc global name action policy = .ok result ↔
      ∃ verdict fromZone toZone, IsVerdict action verdict ∧
        IsZone global policy "from-zone-name" fromZone ∧
        IsZone global policy "to-zone-name" toZone ∧
        result = ⟨verdict, some ⟨fromZone, toZone, name, sequenceOf policy⟩,
          global ||
            (eqIgnoreAsciiCase fromZone "any".toList && eqIgnoreAsciiCase toZone "any".toList),
          none⟩ := by
  unfold readPolicy
  constructor
  · intro read
    obtain ⟨verdict, acts, read⟩ := bind_eq_ok.mp read
    obtain ⟨fromZone, source, read⟩ := bind_eq_ok.mp read
    obtain ⟨toZone, target, read⟩ := bind_eq_ok.mp read
    cases read
    exact ⟨verdict, fromZone, toZone, verdictOf_ok.mp acts, zoneField_ok.mp source,
      zoneField_ok.mp target, rfl⟩
  · rintro ⟨verdict, fromZone, toZone, acts, source, target, rfl⟩
    refine bind_eq_ok.mpr ⟨verdict, verdictOf_ok.mpr acts, ?_⟩
    refine bind_eq_ok.mpr ⟨fromZone, zoneField_ok.mpr source, ?_⟩
    exact bind_eq_ok.mpr ⟨toZone, zoneField_ok.mpr target, rfl⟩

theorem Records.unique {xml : Text} {policy policy' : XmlNode} {name name' action action' : Text}
    (is : Records crates xml policy name action)
    (is' : Records crates xml policy' name' action') :
    policy = policy' ∧ name = name' ∧ action = action' := by
  obtain ⟨before, node, after, document, split, errors, quiet, read, first⟩ := is.first
  obtain ⟨before', node', after', document', split', errors', quiet', read', first'⟩ := is'.first
  have nodes := Except.ok.inj (split.symm.trans split')
  have usable := (@usableNode_ok "" _ node).mpr ⟨before, after, nodes.symm, errors, quiet⟩
  have usable' := (@usableNode_ok "" _ node').mpr ⟨before', after', rfl, errors', quiet'⟩
  cases usable.symm.trans usable'
  cases read.symm.trans read'
  cases first.symm.trans first'
  obtain ⟨actionType, acts, rfl⟩ := is.acts
  obtain ⟨actionType', acts', rfl⟩ := is'.acts
  cases acts.symm.trans acts'
  exact ⟨rfl, Option.some.inj (is.named.symm.trans is'.named), rfl⟩

/-- No reply is both. -/
theorem ExplicitMatch.not_fallsThrough {global : Bool} {xml : Text} {result : PolicyMatchResult}
    {default : DefaultAction} (matched : ExplicitMatch crates global xml result) :
    ¬ FallsThrough crates xml default := by
  rintro ⟨policy', name', action', records', falls⟩
  obtain ⟨policy, name, action, verdict, -, -, records, acts, -⟩ := matched
  obtain ⟨rfl, rfl, rfl⟩ := records.unique records'
  have found := defaultActionOf_some.mpr falls
  rw [acts.defaultActionOf] at found
  cases found

theorem ExplicitMatch.verdict_ne {global : Bool} {xml : Text} {result : PolicyMatchResult}
    (matched : ExplicitMatch crates global xml result) : result.verdict ≠ .noMatch := by
  obtain ⟨policy, name, action, verdict, fromZone, toZone, -, acts, -, -, rfl⟩ := matched
  exact acts.ne_noMatch

theorem readRecord_ok {rpc : String} {global : Bool} {policy : XmlNode}
    {result : PolicyMatchResult} :
    readRecord debug rpc global policy = .ok result ↔
      ∃ name actionType, policy.childText "policy-name" = some name ∧
        policy.childText "action-type" = some actionType ∧
        ((∃ default, defaultActionOf (asciiLowercase (Text.trim actionType)) = some default ∧
            result = noMatch default) ∨
          defaultActionOf (asciiLowercase (Text.trim actionType)) = none ∧
            readPolicy debug rpc global name (asciiLowercase (Text.trim actionType)) policy =
              .ok result) := by
  unfold readRecord
  constructor
  · intro read
    obtain ⟨name, named, read⟩ := bind_eq_ok.mp read
    obtain ⟨actionType, acts, read⟩ := bind_eq_ok.mp read
    refine ⟨name, actionType, required_ok named, required_ok acts, ?_⟩
    dsimp only at read
    cases falls : defaultActionOf (asciiLowercase (Text.trim actionType)) with
    | some default =>
        rw [falls] at read
        cases read
        exact .inl ⟨default, rfl, rfl⟩
    | none =>
        rw [falls] at read
        exact .inr ⟨rfl, read⟩
  · rintro ⟨name, actionType, named, acts, either⟩
    refine bind_eq_ok.mpr ⟨name, by rw [named]; rfl, ?_⟩
    refine bind_eq_ok.mpr ⟨actionType, by rw [acts]; rfl, ?_⟩
    dsimp only
    rcases either with ⟨default, falls, rfl⟩ | ⟨none, read⟩
    · rw [falls]
      rfl
    · rw [none]
      exact read

/-- A reply is read as one of the two, and any other is an error. -/
theorem parseReply_ok {rpc : String} {global : Bool} {xml : Text}
    {response : SrxToolResponse PolicyMatchResult} :
    parseReply crates debug xml rpc global = .ok response ↔
      (∃ default, FallsThrough crates xml default ∧ response = .active (noMatch default)) ∨
        ∃ result, ExplicitMatch crates global xml result ∧ response = .active result := by
  unfold parseReply
  constructor
  · intro read
    obtain ⟨nodes, split, read⟩ := bind_eq_ok.mp read
    obtain ⟨node, usable, read⟩ := bind_eq_ok.mp read
    obtain ⟨document, parsed, read⟩ := bind_eq_ok.mp read
    obtain ⟨policy, first, read⟩ := bind_eq_ok.mp read
    obtain ⟨result, record, read⟩ := bind_eq_ok.mp read
    cases read
    obtain ⟨before, after, rfl, errors, quiet⟩ := usableNode_ok.mp usable
    obtain ⟨name, actionType, named, acts, either⟩ := readRecord_ok.mp record
    have records : Records crates xml policy name (asciiLowercase (Text.trim actionType)) :=
      ⟨⟨before, node, after, document, split, errors, quiet, readDocument_ok parsed,
        required_ok first⟩, named, actionType, acts, rfl⟩
    rcases either with ⟨default, falls, rfl⟩ | ⟨-, read⟩
    · exact .inl ⟨default, ⟨policy, name, _, records, defaultActionOf_some.mp falls⟩, rfl⟩
    · obtain ⟨verdict, fromZone, toZone, is, source, target, rfl⟩ := readPolicy_ok.mp read
      exact .inr ⟨_, ⟨policy, name, _, verdict, fromZone, toZone, records, is, source, target,
        rfl⟩, rfl⟩
  · intro either
    have reads {policy : XmlNode} {name action : Text} {result : PolicyMatchResult}
        (records : Records crates xml policy name action)
        (record : readRecord debug rpc global policy = .ok result) :
        parseReply crates debug xml rpc global = .ok (.active result) := by
      obtain ⟨before, node, after, document, split, errors, quiet, read, first⟩ := records.first
      refine bind_eq_ok.mpr ⟨_, split, ?_⟩
      refine bind_eq_ok.mpr ⟨node, usableNode_ok.mpr ⟨before, after, rfl, errors, quiet⟩, ?_⟩
      refine bind_eq_ok.mpr ⟨document, by rw [readDocument, read]; rfl, ?_⟩
      refine bind_eq_ok.mpr ⟨policy, by rw [first]; rfl, ?_⟩
      exact bind_eq_ok.mpr ⟨result, record, rfl⟩
    rcases either with ⟨default, ⟨policy, name, action, records, falls⟩, rfl⟩ |
      ⟨result, ⟨policy, name, action, verdict, fromZone, toZone, records, is, source, target,
        rfl⟩, rfl⟩
    · obtain ⟨actionType, acts, rfl⟩ := records.acts
      exact reads records (readRecord_ok.mpr ⟨name, actionType, records.named, acts,
        .inl ⟨default, defaultActionOf_some.mpr falls, rfl⟩⟩)
    · obtain ⟨actionType, acts, rfl⟩ := records.acts
      exact reads records (readRecord_ok.mpr ⟨name, actionType, records.named, acts,
        .inr ⟨is.defaultActionOf, readPolicy_ok.mpr
          ⟨verdict, fromZone, toZone, is, source, target, rfl⟩⟩⟩)

/-! ## Both tiers -/

theorem ExplicitMatch.fellThrough {global : Bool} {xml : Text} {result : PolicyMatchResult}
    (matched : ExplicitMatch crates global xml result) : fellThrough (.active result) = false := by
  simpa [PolicyMatch.fellThrough, SrxToolResponse.active] using matched.verdict_ne

theorem fellThrough_noMatch (default : DefaultAction) :
    PolicyMatch.fellThrough (.active (noMatch default)) = true := rfl

theorem resolve_matched {zoneXml : Text} {globalXml : Option Text} {result : PolicyMatchResult}
    (matched : ExplicitMatch crates false zoneXml result) :
    resolve crates debug zoneXml globalXml = .ok (.active result) := by
  refine bind_eq_ok.mpr ⟨_, parseReply_ok.mpr (.inr ⟨result, matched, rfl⟩), ?_⟩
  rw [matched.fellThrough]
  rfl

/-- Behind a zone pair that falls through, the global reply decides. -/
theorem resolve_fallsThrough {zoneXml : Text} {globalXml : Option Text} {default : DefaultAction}
    {response : SrxToolResponse PolicyMatchResult}
    (falls : FallsThrough crates zoneXml default) :
    resolve crates debug zoneXml globalXml = .ok response ↔
      ∃ reply global, globalXml = some reply ∧ parseGlobal crates debug reply = .ok global ∧
        response = if fellThrough global then .active (noMatch default) else global := by
  have zone : parse crates debug zoneXml = .ok (.active (noMatch default)) :=
    parseReply_ok.mpr (.inl ⟨default, falls, rfl⟩)
  have negated (global : SrxToolResponse PolicyMatchResult)
      (answers : global.data.isSome) :
      (global.data.any fun d => d.verdict != .noMatch) = !fellThrough global := by
    obtain ⟨result, data⟩ := Option.isSome_iff_exists.mp answers
    rw [fellThrough, data]
    rfl
  constructor
  · intro resolved
    obtain ⟨zone', read, resolved⟩ := bind_eq_ok.mp resolved
    cases zone.symm.trans read
    rw [fellThrough_noMatch] at resolved
    cases globalXml with
    | none => cases resolved
    | some reply =>
        obtain ⟨global, read, resolved⟩ := bind_eq_ok.mp resolved
        refine ⟨reply, global, rfl, read, ?_⟩
        have answers : global.data.isSome := by
          rcases parseReply_ok.mp read with ⟨other, -, rfl⟩ | ⟨result, -, rfl⟩ <;> rfl
        dsimp only at resolved
        rw [negated global answers] at resolved
        cases resolved
        cases fellThrough global <;> rfl
  · rintro ⟨reply, global, rfl, read, rfl⟩
    refine bind_eq_ok.mpr ⟨_, zone, ?_⟩
    rw [fellThrough_noMatch]
    refine bind_eq_ok.mpr ⟨global, read, ?_⟩
    have answers : global.data.isSome := by
      rcases parseReply_ok.mp read with ⟨other, -, rfl⟩ | ⟨result, -, rfl⟩ <;> rfl
    dsimp only
    rw [negated global answers]
    cases fellThrough global <;> rfl

theorem resolve_ok {zoneXml : Text} {globalXml : Option Text}
    {response : SrxToolResponse PolicyMatchResult} :
    resolve crates debug zoneXml globalXml = .ok response ↔
      Answers crates zoneXml globalXml response := by
  constructor
  · intro resolved
    obtain ⟨zone, read, -⟩ := bind_eq_ok.mp resolved
    rcases parseReply_ok.mp read with ⟨default, falls, rfl⟩ | ⟨result, matched, rfl⟩
    · obtain ⟨reply, global, rfl, read, rfl⟩ := (resolve_fallsThrough falls).mp resolved
      rcases parseReply_ok.mp read with ⟨other, falls', rfl⟩ | ⟨result, matched, rfl⟩
      · exact .neither falls falls'
      · rw [matched.fellThrough]
        exact .globalTier falls matched
    · cases resolved.symm.trans (resolve_matched matched)
      exact .zonePair matched
  · intro answers
    cases answers with
    | zonePair matched => exact resolve_matched matched
    | @globalTier reply _ result falls matched =>
        refine (resolve_fallsThrough falls).mpr ⟨reply, .active result, rfl, ?_, ?_⟩
        · exact parseReply_ok.mpr (.inr ⟨_, matched, rfl⟩)
        · rw [matched.fellThrough]
          rfl
    | @neither reply _ other falls falls' =>
        refine (resolve_fallsThrough falls).mpr ⟨reply, .active (noMatch other), rfl, ?_, rfl⟩
        exact parseReply_ok.mpr (.inl ⟨other, falls', rfl⟩)

/-- The zone pair's policy, else the global policy, else the default of the zone pair; no reply is
both a match and a fallthrough, and whatever is neither ends in an error. -/
theorem resolve_follows_order (crates : XmlCrates) (debug : Text → Text) (zoneXml : Text)
    (globalXml : Option Text) :
    (∀ response, resolve crates debug zoneXml globalXml = .ok response ↔
      Answers crates zoneXml globalXml response) ∧
    ∀ global xml result default, ¬ (ExplicitMatch crates global xml result ∧
      FallsThrough crates xml default) :=
  ⟨fun _ => resolve_ok, fun _ _ _ _ both => both.1.not_fallsThrough both.2⟩

/-! ### A zone pair without a policy -/

def defaultDeny : XmlDocument :=
  [.group "match-firewall-policies-results" [.group "policy-information"
    [.field "policy-name" "Default-Policy", .field "action-type" "deny-all"]]]

def globalPermit : XmlDocument :=
  [.group "match-global-policies-results" [.group "policy-information"
    [.field "policy-name" "p1", .field "action-type" "Permit"]]]

def defaultXml : XmlCrates := readerOfPrinted [defaultDeny, globalPermit]

theorem defaultXml_parse : defaultXml.parse = parsePrinted [defaultDeny, globalPermit] := rfl

/-- The record of a reply of one node. -/
theorem records_standalone {document : XmlDocument} {policy : XmlNode} {name action : Text}
    (clean : sanitizeRustezXml (printed document) = printed document)
    (read : crates.parse (printed document) = .ok document)
    (alone : document.first "multi-routing-engine-results".toList = none)
    (quiet : ClusterStatus.containsRpcError (printed document) = false)
    (first : document.first "policy-information".toList = some policy)
    (named : policy.childText "policy-name" = some name)
    (acts : ∃ actionType, policy.childText "action-type" = some actionType ∧
      action = asciiLowercase (Text.trim actionType)) :
    Records crates (printed document) policy name action where
  first := by
    refine ⟨[], ⟨[], printed document⟩, [], document, ?_, by simp, quiet, read, first⟩
    rw [clean]
    exact multiReSplit_standalone clean read alone
  named := named
  acts := acts

theorem defaultDeny_fallsThrough : FallsThrough defaultXml (printed defaultDeny) .deny := by
  have read : defaultXml.parse (printed defaultDeny) = .ok defaultDeny := by
    rw [defaultXml_parse, parsePrinted_here]
  exact ⟨_, _, _, records_standalone (sanitizeRustezXml_printed (by decide) (by decide)) read rfl
    (by decide) rfl rfl ⟨_, rfl, rfl⟩, .inl ⟨rfl, rfl⟩⟩

def permitted : PolicyMatchResult :=
  ⟨.permit, some ⟨"any".toList, "any".toList, "p1".toList, 0⟩, true, none⟩

theorem globalPermit_matches :
    ExplicitMatch defaultXml true (printed globalPermit) permitted := by
  have read : defaultXml.parse (printed globalPermit) = .ok globalPermit := by
    have later : printed defaultDeny ≠ printed globalPermit := by decide
    rw [defaultXml_parse, parsePrinted_later later, parsePrinted_here]
  exact ⟨_, _, _, .permit, "any".toList, "any".toList,
    records_standalone (sanitizeRustezXml_printed (by decide) (by decide)) read rfl
      (by decide) rfl rfl ⟨_, rfl, rfl⟩, .inl ⟨rfl, rfl⟩, .inr ⟨rfl, rfl, rfl⟩,
    .inr ⟨rfl, rfl, rfl⟩, rfl⟩

/-- The traffic is permitted although the default of the zone pair denies it. -/
theorem default_deny_global_permit :
    resolve defaultXml id (printed defaultDeny) (some (printed globalPermit)) =
      .ok (.active permitted) :=
  ((resolve_follows_order defaultXml id (printed defaultDeny) (some (printed globalPermit))).1
    _).mpr (.globalTier defaultDeny_fallsThrough globalPermit_matches)

/-! ## The call -/

/-- The device is asked for the global policy exactly when the zone pair falls through. -/
theorem run_answers {args : PolicyMatchArgs} {trace : DeviceTrace}
    {response : SrxToolResponse PolicyMatchResult}
    (answered : Returns (run crates debug args) trace (.ok response)) :
    ∃ fiveTuple zoneXml globalXml parsed, parseFiveTuple args = .ok fiveTuple ∧
      Answers crates zoneXml globalXml parsed ∧
      response = (if args.includeRaw then parsed.withRaw (rawReplies zoneXml globalXml)
        else parsed) ∧
      trace = ⟨.rpc, .ok ()⟩ :: ⟨.call zoneRpc fiveTuple.zoneArgs, .ok zoneXml⟩ ::
        globalXml.toList.map (fun reply => ⟨.call globalRpc fiveTuple.hostArgs, .ok reply⟩) ∧
      (globalXml.isSome ↔ ∃ default, FallsThrough crates zoneXml default) := by
  obtain ⟨_, _, fiveTuple, rfl, read, querying⟩ := Returns.of_andThen answered
  obtain ⟨_, _, ⟨⟩, rfl, opened, calls⟩ := Returns.of_andThen querying
  obtain ⟨_, _, zoneXml, rfl, asked, parsing⟩ := Returns.of_andThen calls
  obtain ⟨_, _, zone, rfl, zoneRead, asking⟩ := Returns.of_andThen parsing
  obtain ⟨globals, _, globalXml, rfl, global, resolving⟩ := Returns.of_andThen asking
  obtain ⟨_, _, parsed, rfl, resolved, stopped⟩ := Returns.of_andThen resolving
  obtain ⟨rfl, valid⟩ := returns_pure.mp read
  cases returns_openExecutor.mp opened
  cases returns_callRpc.mp asked
  obtain ⟨rfl, zoneIs⟩ := returns_pure.mp zoneRead
  obtain ⟨rfl, answer⟩ := returns_pure.mp resolved
  obtain ⟨rfl, final⟩ := returns_pure.mp stopped
  cases final
  refine ⟨fiveTuple, zoneXml, globalXml, parsed, valid.symm, resolve_ok.mp answer.symm, rfl, ?_⟩
  unfold askGlobal at global
  rcases parseReply_ok.mp zoneIs.symm with ⟨default, falls, rfl⟩ | ⟨result, matched, rfl⟩
  · rw [fellThrough_noMatch, if_pos rfl] at global
    obtain ⟨_, _, reply, rfl, called, given⟩ := Returns.of_andThen global
    cases returns_callRpc.mp called
    obtain ⟨rfl, same⟩ := returns_pure.mp given
    cases same
    exact ⟨rfl, fun _ => ⟨default, falls⟩, fun _ => rfl⟩
  · rw [matched.fellThrough, if_neg Bool.false_ne_true] at global
    obtain ⟨rfl, same⟩ := returns_pure.mp global
    cases same
    refine ⟨rfl, fun given => absurd given Bool.false_ne_true, ?_⟩
    rintro ⟨default, falls⟩
    exact absurd falls matched.not_fallsThrough

/-- What a run has asked its device, and in which order. -/
inductive Asked (crates : XmlCrates) (fiveTuple : FiveTuple) : DeviceTrace → Prop where
  | unopened (error : RustEzError) : Asked crates fiveTuple [⟨.rpc, .error error⟩]
  | zonePair (answer : Except RustEzError Text) :
      (∀ zoneXml default, answer = .ok zoneXml → ¬FallsThrough crates zoneXml default) →
      Asked crates fiveTuple [⟨.rpc, .ok ()⟩, ⟨.call zoneRpc fiveTuple.zoneArgs, answer⟩]
  | globalTier (zoneXml : Text) (default : DefaultAction) (answer : Except RustEzError Text) :
      FallsThrough crates zoneXml default →
      Asked crates fiveTuple [⟨.rpc, .ok ()⟩, ⟨.call zoneRpc fiveTuple.zoneArgs, .ok zoneXml⟩,
        ⟨.call globalRpc fiveTuple.hostArgs, answer⟩]

theorem openExecutor_returns {trace : DeviceTrace} {result : Except SrxError Unit}
    (returns : Returns openExecutor trace result) :
    ∃ answer, trace = [⟨.rpc, answer⟩] ∧ result = answer.mapError transport := by
  obtain ⟨answer, rest, rfl, stopped⟩ := returns_step.mp returns
  obtain ⟨rfl, rfl⟩ := returns_pure.mp stopped
  exact ⟨answer, rfl, rfl⟩

theorem callRpc_returns {name : String} {args : List (Text × Text)} {trace : DeviceTrace}
    {result : Except SrxError Text} (returns : Returns (callRpc name args) trace result) :
    ∃ answer, trace = [⟨.call name args, answer⟩] ∧ result = Except.mapError transport answer := by
  obtain ⟨answer, rest, rfl, stopped⟩ := returns_step.mp returns
  obtain ⟨rfl, rfl⟩ := returns_pure.mp stopped
  exact ⟨answer, rfl, rfl⟩

/-- What a reply of the zone pair that can be read leaves to ask. -/
theorem askGlobal_asked {fiveTuple : FiveTuple} {zoneXml : Text}
    {zone : SrxToolResponse PolicyMatchResult} {trace : DeviceTrace}
    {result : Except SrxError (Option Text)} (read : parse crates debug zoneXml = .ok zone)
    (returns : Returns (askGlobal fiveTuple zone) trace result) :
    Asked crates fiveTuple
      (⟨.rpc, .ok ()⟩ :: ⟨.call zoneRpc fiveTuple.zoneArgs, .ok zoneXml⟩ :: trace) := by
  unfold askGlobal at returns
  rcases parseReply_ok.mp read with ⟨default, falls, rfl⟩ | ⟨result, matched, rfl⟩
  · rw [fellThrough_noMatch, if_pos rfl] at returns
    rcases returns_andThen.mp returns with ⟨error, here, _⟩ | ⟨first, second, reply, rfl, here, rest⟩
    · obtain ⟨answer, rfl, _⟩ := callRpc_returns here
      exact .globalTier zoneXml default answer falls
    · obtain ⟨answer, rfl, _⟩ := callRpc_returns here
      obtain ⟨rfl, _⟩ := returns_pure.mp rest
      exact .globalTier zoneXml default answer falls
  · rw [matched.fellThrough, if_neg Bool.false_ne_true] at returns
    obtain ⟨rfl, _⟩ := returns_pure.mp returns
    refine .zonePair (.ok zoneXml) fun _ default same => ?_
    cases same
    exact matched.not_fallsThrough

theorem query_asked {args : PolicyMatchArgs} {fiveTuple : FiveTuple} {trace : DeviceTrace}
    {result : Except SrxError (SrxToolResponse PolicyMatchResult)}
    (returns : Returns (query crates debug args fiveTuple) trace result) :
    Asked crates fiveTuple trace := by
  rcases returns_andThen.mp returns with ⟨error, here, rfl⟩ | ⟨opening, rest, _, rfl, here, calling⟩
  · obtain ⟨answer, rfl, failed⟩ := openExecutor_returns here
    cases answer with
    | ok _ => cases failed
    | error error => exact .unopened error
  cases returns_openExecutor.mp here
  rcases returns_andThen.mp calling with ⟨error, here, rfl⟩ | ⟨zones, rest, zoneXml, rfl, here, reading⟩
  · obtain ⟨answer, rfl, failed⟩ := callRpc_returns here
    cases answer with
    | ok _ => cases failed
    | error error =>
        refine .zonePair (.error error) fun _ _ same => ?_
        cases same
  cases returns_callRpc.mp here
  rcases returns_andThen.mp reading with ⟨error, here, rfl⟩ | ⟨none, rest, zone, rfl, here, asking⟩
  · obtain ⟨rfl, failed⟩ := returns_pure.mp here
    refine .zonePair (.ok zoneXml) fun _ default same falls => ?_
    cases same
    have read : parse crates debug zoneXml = .ok (.active (noMatch default)) :=
      parseReply_ok.mpr (.inl ⟨default, falls, rfl⟩)
    cases failed.trans read
  obtain ⟨rfl, read⟩ := returns_pure.mp here
  rcases returns_andThen.mp asking with ⟨error, here, rfl⟩ | ⟨globals, rest, reply, rfl, here, resolving⟩
  · exact askGlobal_asked read.symm here
  · have silent : rest = [] := by
      rcases returns_andThen.mp resolving with ⟨error, last, _⟩ | ⟨_, _, parsed, rfl, resolved, stopped⟩
      · exact (returns_pure.mp last).1
      · rw [(returns_pure.mp resolved).1, (returns_pure.mp stopped).1]
        rfl
    rw [silent, List.append_nil]
    exact askGlobal_asked read.symm here

/-- Whatever the device answers, it is asked for the zone pair at most once, and for the global
policy exactly behind a reply that falls through; an answer is the one the two replies give. -/
theorem run_asks (crates : XmlCrates) (debug : Text → Text) (args : PolicyMatchArgs)
    (trace : DeviceTrace) (result : Except SrxError (SrxToolResponse PolicyMatchResult))
    (returns : Returns (run crates debug args) trace result) :
    (∃ error, parseFiveTuple args = .error error ∧ trace = [] ∧ result = .error error) ∨
      ∃ fiveTuple, parseFiveTuple args = .ok fiveTuple ∧ Asked crates fiveTuple trace ∧
        ∀ response, result = .ok response → ∃ zoneXml globalXml parsed,
          Answers crates zoneXml globalXml parsed ∧
          response = (if args.includeRaw then parsed.withRaw (rawReplies zoneXml globalXml)
            else parsed) ∧
          trace = ⟨.rpc, .ok ()⟩ :: ⟨.call zoneRpc fiveTuple.zoneArgs, .ok zoneXml⟩ ::
            globalXml.toList.map (fun reply => ⟨.call globalRpc fiveTuple.hostArgs, .ok reply⟩) := by
  rcases returns_andThen.mp returns with ⟨error, read, rfl⟩ | ⟨none, rest, fiveTuple, rfl, read, querying⟩
  · obtain ⟨rfl, refused⟩ := returns_pure.mp read
    exact .inl ⟨error, refused.symm, rfl, rfl⟩
  obtain ⟨rfl, valid⟩ := returns_pure.mp read
  refine .inr ⟨fiveTuple, valid.symm, query_asked querying, ?_⟩
  rintro response rfl
  obtain ⟨again, zoneXml, globalXml, parsed, same, answers, given, asked, _⟩ := run_answers returns
  cases same.symm.trans valid.symm
  exact ⟨zoneXml, globalXml, parsed, answers, given, asked⟩

def guestArgs : PolicyMatchArgs where
  router := "fw1".toList
  fromZone := "guest".toList
  toZone := "untrust".toList
  sourceIp := "192.0.2.7".toList
  destinationIp := "198.51.100.1".toList
  sourcePort := 40000
  destinationPort := 443
  protocol := "TCP".toList
  includeRaw := false

def guestTuple : FiveTuple :=
  ⟨"guest".toList, "untrust".toList, .v4 [192, 0, 2, 7], .v4 [198, 51, 100, 1], 40000, 443, .tcp⟩

def guestTrace : DeviceTrace :=
  [⟨.rpc, .ok ()⟩, ⟨.call zoneRpc guestTuple.zoneArgs, .ok (printed defaultDeny)⟩,
    ⟨.call globalRpc guestTuple.hostArgs, .ok (printed globalPermit)⟩]

def guestResult : Except SrxError (SrxToolResponse PolicyMatchResult) := .ok (.active permitted)

theorem guest_returns : Returns (run defaultXml id guestArgs) guestTrace guestResult := by
  have read : parseFiveTuple guestArgs = .ok guestTuple := rfl
  have zone : parse defaultXml id (printed defaultDeny) = .ok (.active (noMatch .deny)) :=
    parseReply_ok.mpr (.inl ⟨.deny, defaultDeny_fallsThrough, rfl⟩)
  have answer : resolve defaultXml id (printed defaultDeny) (some (printed globalPermit)) =
      .ok (.active permitted) :=
    resolve_ok.mpr (.globalTier defaultDeny_fallsThrough globalPermit_matches)
  have asked : Returns (askGlobal guestTuple (.active (noMatch .deny)))
      [⟨.call globalRpc guestTuple.hostArgs, .ok (printed globalPermit)⟩]
      (.ok (some (printed globalPermit))) := .step (.pure _)
  rw [run, read]
  refine returns_andThen_ok (.pure _) ?_
  refine returns_andThen_ok (returns_openExecutor.mpr rfl) ?_
  refine returns_andThen_ok (returns_callRpc.mpr rfl) ?_
  rw [zone]
  refine returns_andThen_ok (.pure _) (returns_andThen_ok asked ?_)
  rw [answer]
  exact .pure _

theorem run_asks_guest :
    (∃ error, parseFiveTuple guestArgs = .error error ∧ guestTrace = [] ∧
        guestResult = .error error) ∨
      ∃ fiveTuple, parseFiveTuple guestArgs = .ok fiveTuple ∧ Asked defaultXml fiveTuple guestTrace ∧
        ∀ response, guestResult = .ok response → ∃ zoneXml globalXml parsed,
          Answers defaultXml zoneXml globalXml parsed ∧
          response = (if guestArgs.includeRaw then parsed.withRaw (rawReplies zoneXml globalXml)
            else parsed) ∧
          guestTrace = ⟨.rpc, .ok ()⟩ :: ⟨.call zoneRpc fiveTuple.zoneArgs, .ok zoneXml⟩ ::
            globalXml.toList.map (fun reply => ⟨.call globalRpc fiveTuple.hostArgs, .ok reply⟩) :=
  run_asks defaultXml id guestArgs guestTrace guestResult guest_returns

end JunosMcp.Srx.PolicyMatch
