import JunosMcp.Srx.Configuration

/-!
# `srx_list_nat_rules`

The rules of the three kinds of address translation, read from the configuration, with the hit
counts of each where these are asked for.
-/

namespace JunosMcp.Srx.ListNatRules

open Lib

structure NatRulesArgs where
  router : Text
  includeHitCounts : Bool
  limit : Nat
  includeRaw : Bool

inductive NatZoneOrInterface where
  | zone (name : Text)
  | interface (name : Text)
  | routingInstance (name : Text)
deriving DecidableEq

structure NatPortMatch where
  low : Nat
  high : Nat
deriving DecidableEq

structure NatMatch where
  sourceAddresses : List Text
  destinationAddresses : List Text
  applications : List Text
  sourcePorts : List NatPortMatch
  destinationPorts : List NatPortMatch
  protocols : List Text
deriving DecidableEq

inductive SourceTranslation where
  | pool (poolName : Text)
  | interface
  | off
deriving DecidableEq

inductive DestinationTranslation where
  | pool (poolName : Text)
deriving DecidableEq

structure StaticTranslation where
  pfx : IpNet
deriving DecidableEq

/-- A rule; only source rules say where to. -/
structure NatRule (To Translation : Type) where
  ruleSet : Text
  name : Text
  sequence : Nat
  fromSelectors : List NatZoneOrInterface
  toSelectors : To
  match_ : NatMatch
  translation : Translation
  active : Bool
  hitCount : Option Nat
deriving DecidableEq

abbrev SourceNatRule := NatRule (List NatZoneOrInterface) SourceTranslation

abbrev DestinationNatRule := NatRule Unit DestinationTranslation

abbrev StaticNatRule := NatRule Unit StaticTranslation

structure NatRules where
  source : List SourceNatRule
  destination : List DestinationNatRule
  staticNat : List StaticNatRule
  truncated : Bool

/-- The rule-set and the name of a rule. -/
abbrev RuleKey := Text × Text

abbrev HitCounts := RuleKey → Option Nat

def NatRule.key {To Translation : Type} (rule : NatRule To Translation) : RuleKey :=
  (rule.ruleSet, rule.name)

/-! ## Selectors and matches -/

def parseSelector (containerTag : Text) (child : XmlNode) : Except SrxError NatZoneOrInterface :=
  let text := Text.trim (child.leadingText.getD [])
  if child.named "zone".toList then .ok (.zone text)
  else if child.named "interface".toList then .ok (.interface text)
  else if child.named "routing-instance".toList then .ok (.routingInstance text)
  else .error (.parse ("unrecognised NAT rule-set <".toList ++ containerTag ++ "> selector <".toList ++
    child.tagName ++ ">".toList))

def parseZoneSelectorList (container : XmlNode) : Except SrxError (List NatZoneOrInterface) := do
  let selectors ← container.elements.mapM (parseSelector container.tagName)
  if selectors.isEmpty then
    throw (.schemaMismatch configurationRpc
      (if container.named "to".toList then "rule-set/to (zone|interface|routing-instance)"
        else "rule-set/from (zone|interface|routing-instance)"))
  else return selectors

def parseFrom (ruleSet : XmlNode) : Except SrxError (List NatZoneOrInterface) := do
  let container ← required configurationRpc "rule-set/from" (ruleSet.firstChild "from")
  parseZoneSelectorList container

def parseTo (ruleSet : XmlNode) : Except SrxError (List NatZoneOrInterface) :=
  match ruleSet.firstChild "to" with
  | some container => parseZoneSelectorList container
  | none => .ok []

def knownMatchChildren : List Text :=
  ["source-address".toList, "source-address-name".toList, "destination-address".toList,
    "destination-address-name".toList, "application".toList, "source-port".toList,
    "destination-port".toList, "protocol".toList]

def parseMatchAddress (innerTag : String) (node : XmlNode) : Except SrxError Text :=
  match node.ownText with
  | some text => .ok text
  | none => match node.childText innerTag with
      | some text => .ok text
      | none => .error (.parse ("empty or unrecognised <".toList ++ node.tagName ++
          "> in NAT match: neither literal text nor <".toList ++ innerTag.toList ++
          "> child".toList))

def parsePort (what : String) (shown text : Text) : Except SrxError Nat :=
  match parseUnsigned 16 text with
  | some port => .ok port
  | none => .error (.parse (what.toList ++ shown))

def parseNatPort (node : XmlNode) : Except SrxError NatPortMatch :=
  match node.ownText with
  | some text =>
      if '-' ∈ text then do
        let low ← parsePort "invalid port range: " text (Text.trim (text.takeWhile (· != '-')))
        let high ←
          parsePort "invalid port range: " text (Text.trim ((text.dropWhile (· != '-')).drop 1))
        return ⟨low, high⟩
      else do
        let port ← parsePort "invalid port: " text (Text.trim text)
        return ⟨port, port⟩
  | none => match node.childText "low", node.childText "high" with
      | some low, some high => do
          let lowPort ← parsePort "invalid port low: " low low
          let highPort ← parsePort "invalid port high: " high high
          return ⟨lowPort, highPort⟩
      | _, _ => .error (.parse ("empty or unrecognised <".toList ++ node.tagName ++
          "> port match".toList))

/-- The text a match child cannot do without. -/
def matchText (message : String) (child : XmlNode) : Except SrxError Text :=
  match child.ownText with
  | some text => .ok text
  | none => .error (.parse message.toList)

/-- The loop over the children of a match. -/
def addMatch (m : NatMatch) (child : XmlNode) : Except SrxError NatMatch := do
  let tag := child.tagName
  if tag ∉ knownMatchChildren then
    throw (.parse ("unrecognised NAT match child <".toList ++ tag ++
      ">: refusing to report this rule rather ".toList ++
      "than silently drop a match criterion the parser doesn't understand".toList))
  else if tag = "source-address".toList then
    let text ← parseMatchAddress "src-addr" child
    return { m with sourceAddresses := m.sourceAddresses ++ [text] }
  else if tag = "source-address-name".toList then
    let text ← matchText "empty <source-address-name>" child
    return { m with sourceAddresses := m.sourceAddresses ++ [text] }
  else if tag = "destination-address".toList then
    let text ← parseMatchAddress "dst-addr" child
    return { m with destinationAddresses := m.destinationAddresses ++ [text] }
  else if tag = "destination-address-name".toList then
    let text ← matchText "empty <destination-address-name>" child
    return { m with destinationAddresses := m.destinationAddresses ++ [text] }
  else if tag = "application".toList then
    let text ← matchText "empty <application> in NAT match" child
    return { m with applications := m.applications ++ [text] }
  else if tag = "source-port".toList then
    let port ← parseNatPort child
    return { m with sourcePorts := m.sourcePorts ++ [port] }
  else if tag = "destination-port".toList then
    let port ← parseNatPort child
    return { m with destinationPorts := m.destinationPorts ++ [port] }
  else
    let text ← matchText "empty <protocol> in NAT match" child
    return { m with protocols := m.protocols ++ [text] }

def parseMatch (containerTags : List Text) (rule : XmlNode) : Except SrxError NatMatch :=
  match rule.elements.find? fun child => child.tagName ∈ containerTags with
  | some container => container.elements.foldlM addMatch ⟨[], [], [], [], [], []⟩
  | none => .error (.parse ("rule has no recognised match container (tried ".toList ++
      debugNames containerTags ++ ")".toList))

/-! ## The three kinds -/

inductive NatKind where
  | source
  | destination
  | staticNat
deriving DecidableEq

namespace NatKind

def filter : NatKind → String
  | source => "<security><nat><source/></nat></security>"
  | destination => "<security><nat><destination/></nat></security>"
  | staticNat => "<security><nat><static/></nat></security>"

def hitCountRpc : NatKind → String
  | source => "get-source-nat-rule-sets-information"
  | destination => "get-destination-nat-rule-sets-information"
  | staticNat => "get-static-nat-rule-information"

end NatKind

/-- What the loops over the rules of the kinds do not share. -/
structure RuleShape (To Translation : Type) where
  matchTags : List Text
  parseTo : XmlNode → Except SrxError To
  /-- From the `then` of a rule. -/
  parseTranslation : XmlNode → Except SrxError Translation

def parseSourceTranslation (thenNode : XmlNode) : Except SrxError SourceTranslation := do
  let sn ← required configurationRpc "then/source-nat" (thenNode.firstChild "source-nat")
  if sn.hasChild "off" then return .off
  else if sn.hasChild "interface" then return .interface
  else match sn.firstChild "pool" with
    | some pool =>
        let poolName ← required configurationRpc "source-nat/pool/pool-name"
          (pool.childText "pool-name")
        return .pool poolName
    | none => throw (.schemaMismatch configurationRpc "source-nat")

def parseDestinationTranslation (thenNode : XmlNode) : Except SrxError DestinationTranslation := do
  let dn ← required configurationRpc "then/destination-nat" (thenNode.firstChild "destination-nat")
  let pool ← required configurationRpc "destination-nat/pool" (dn.firstChild "pool")
  let poolName ← required configurationRpc "destination-nat/pool/pool-name"
    (pool.childText "pool-name")
  return .pool poolName

def parseStaticTranslation (ipNet : Text → Option IpNet) (thenNode : XmlNode) :
    Except SrxError StaticTranslation := do
  let sn ← required configurationRpc "then/static-nat" (thenNode.firstChild "static-nat")
  let prefixNode ← required configurationRpc "static-nat/prefix" (sn.firstChild "prefix")
  let addrPrefix ← required configurationRpc "static-nat/prefix/addr-prefix"
    (prefixNode.childText "addr-prefix")
  match ipNet addrPrefix with
  | some pfx => return ⟨pfx⟩
  | none => throw (.parse ("invalid addr-prefix: ".toList ++ addrPrefix))

def sourceShape : RuleShape (List NatZoneOrInterface) SourceTranslation where
  matchTags := ["src-nat-rule-match".toList, "match".toList]
  parseTo := ListNatRules.parseTo
  parseTranslation := parseSourceTranslation

def destinationShape : RuleShape Unit DestinationTranslation where
  matchTags := ["dnat-rule-match".toList, "dest-nat-rule-match".toList, "match".toList]
  parseTo _ := .ok ()
  parseTranslation := parseDestinationTranslation

def staticShape (ipNet : Text → Option IpNet) : RuleShape Unit StaticTranslation where
  matchTags := ["static-nat-rule-match".toList, "match".toList]
  parseTo _ := .ok ()
  parseTranslation := parseStaticTranslation ipNet

section Rules

variable {To Translation : Type}

/-- One rule of a rule-set, with its place in it. -/
def parseRule (shape : RuleShape To Translation) (hitCounts : HitCounts) (ruleSet : XmlNode)
    (ruleSetName : Text) (fromSelectors : List NatZoneOrInterface) (toSelectors : To)
    (entry : XmlNode × Nat) : Except SrxError (NatRule To Translation) := do
  let (rule, i) := entry
  let name ← required configurationRpc "rule/name" (rule.childText "name")
  let match_ ← parseMatch shape.matchTags rule
  let thenNode ← required configurationRpc "rule/then" (rule.firstChild "then")
  let translation ← shape.parseTranslation thenNode
  return {
    ruleSet := ruleSetName
    name
    sequence := i + 1
    fromSelectors
    toSelectors
    match_
    translation
    active := !isInactive ruleSet && !isInactive rule
    hitCount := hitCounts (ruleSetName, name) }

def parseRuleSet (shape : RuleShape To Translation) (hitCounts : HitCounts) (ruleSet : XmlNode) :
    Except SrxError (List (NatRule To Translation)) := do
  let ruleSetName ← required configurationRpc "rule-set/name" (ruleSet.childText "name")
  let fromSelectors ← parseFrom ruleSet
  let toSelectors ← shape.parseTo ruleSet
  ((ruleSet.childrenNamed "rule").zipIdx).mapM
    (parseRule shape hitCounts ruleSet ruleSetName fromSelectors toSelectors)

def ruleSets (document : XmlDocument) : List XmlNode := document.all "rule-set".toList

/-- `parse_source`, `parse_destination` and `parse_static`. -/
def parseKind (shape : RuleShape To Translation) (crates : XmlCrates) (replyXml : Text)
    (hitCounts : HitCounts) (limit : Nat) :
    Except SrxError (List (NatRule To Translation) × Bool) := do
  let reNodes ← multiReSplit crates replyXml
  match ← firstUsable crates reNodes with
  | none => return ([], false)
  | some node =>
      let document ← readDocument crates (sanitizeRustezXml node.innerXml)
      let rules ← (ruleSets document).mapM (parseRuleSet shape hitCounts)
      return (rules.flatten, decide (limit < rules.flatten.length))

end Rules

section Parse

variable (crates : ConfigCrates)

def parseSource : Text → HitCounts → Nat → Except SrxError (List SourceNatRule × Bool) :=
  parseKind sourceShape crates.toXmlCrates

def parseDestination : Text → HitCounts → Nat → Except SrxError (List DestinationNatRule × Bool) :=
  parseKind destinationShape crates.toXmlCrates

def parseStatic : Text → HitCounts → Nat → Except SrxError (List StaticNatRule × Bool) :=
  parseKind (staticShape crates.ipNet) crates.toXmlCrates

def parse (sourceXml destinationXml staticXml : Text) (hitCounts : HitCounts) (limit : Nat) :
    Except SrxError (SrxToolResponse NatRules) := do
  let (source, sourceTruncated) ← parseSource crates sourceXml hitCounts limit
  let (destination, destTruncated) ← parseDestination crates destinationXml hitCounts limit
  let (staticNat, staticTruncated) ← parseStatic crates staticXml hitCounts limit
  return .active {
    source := source.take limit
    destination := destination.take limit
    staticNat := staticNat.take limit
    truncated := sourceTruncated || destTruncated || staticTruncated }

end Parse

/-! ## The hit counts -/

def HitCounts.none : HitCounts := fun _ => Option.none

/-- `HashMap::extend`. -/
def HitCounts.extend (counts other : HitCounts) : HitCounts := fun key => (other key).or (counts key)

def addHitCount (ruleSetName : Text) (counts : HitCounts) (rule : XmlNode) : HitCounts :=
  match rule.childText "name", (rule.childText "translation-hits").bind (parseUnsigned 64) with
  | some name, some count => Function.update counts (ruleSetName, name) (some count)
  | _, _ => counts

def addRuleSetCounts (counts : HitCounts) (ruleSet : XmlNode) : HitCounts :=
  match ruleSet.childText "name" with
  | Option.none => counts
  | some name => (ruleSet.childrenNamed "rule").foldl (addHitCount name) counts

section Parse

variable (crates : ConfigCrates)

def addNodeCounts (counts : HitCounts) (node : ReNode) : Except SrxError HitCounts := do
  let document ← readDocument crates.toXmlCrates (sanitizeRustezXml node.innerXml)
  if (rpcErrorParts document).isSome then return counts
  else return (ruleSets document).foldl addRuleSetCounts counts

def parseNatHitCounts (replyXml : Text) : Except SrxError HitCounts := do
  let reNodes ← multiReSplit crates.toXmlCrates replyXml
  reNodes.foldlM (addNodeCounts crates) .none

/-- What an answer counts; a failed or unreadable one counts nothing. -/
def answerCounts (answer : Except RustEzError Text) : HitCounts :=
  match answer with
  | .error _ => .none
  | .ok xml => (parseNatHitCounts crates xml).toOption.getD .none

/-! ## The call -/

def fetchKind (kind : NatKind) (counts : HitCounts) : DeviceProg HitCounts :=
  .step (.call kind.hitCountRpc [("all".toList, [])]) fun answer =>
    .pure (.ok (counts.extend (answerCounts crates answer)))

def fetchHitCounts : DeviceProg HitCounts :=
  (fetchKind crates .source .none).andThen fun counts =>
    (fetchKind crates .destination counts).andThen (fetchKind crates .staticNat)

def hitCountsFor (args : NatRulesArgs) : DeviceProg HitCounts :=
  if args.includeHitCounts then fetchHitCounts crates else .pure (.ok .none)

def composeRaw (sourceXml destinationXml staticXml : Text) : Text :=
  "<!-- source -->\n".toList ++ sourceXml ++ "\n<!-- destination -->\n".toList ++ destinationXml ++
    "\n<!-- static -->\n".toList ++ staticXml

def run (args : NatRulesArgs) : DeviceProg (SrxToolResponse NatRules) :=
  if (Text.trim args.router).isEmpty then
    .pure (.error (.invalidInput "router must not be empty".toList))
  else openExecutor.andThen fun _ =>
    (getConfigurationSubtree NatKind.source.filter).andThen fun sourceXml =>
    (getConfigurationSubtree NatKind.destination.filter).andThen fun destinationXml =>
    (getConfigurationSubtree NatKind.staticNat.filter).andThen fun staticXml =>
    (hitCountsFor crates args).andThen fun hitCounts =>
    .pure ((parse crates sourceXml destinationXml staticXml hitCounts args.limit).map fun parsed =>
      if args.includeRaw then parsed.withRaw (composeRaw sourceXml destinationXml staticXml)
      else parsed)

end Parse

end JunosMcp.Srx.ListNatRules
