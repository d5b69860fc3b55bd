import JunosMcp.Srx.NatRules

/-!
# Which reply a hit count comes from

The replies of the three kinds go into one table under rule-set and rule name, a later reply over an
earlier one. A rule gets its own count exactly where no other kind's entry shadows it.
-/

namespace JunosMcp.Srx.ListNatRules

open Lib

/-! ## One table for three replies -/

def NatKind.later : NatKind → List NatKind
  | .source => [.destination, .staticNat]
  | .destination => [.staticNat]
  | .staticNat => []

def mergedCounts (counts : NatKind → HitCounts) : HitCounts :=
  ((HitCounts.none.extend (counts .source)).extend (counts .destination)).extend (counts .staticNat)

/-- Where the last reply with an entry for the rule has a count, the kind's own has the same. -/
def Unmixed (counts : NatKind → HitCounts) (kind : NatKind) (key : RuleKey) : Prop :=
  ∀ other count, counts other key = some count →
    (∀ later ∈ other.later, counts later key = none) → counts kind key = some count

theorem mergedCounts_eq_iff {counts : NatKind → HitCounts} {kind : NatKind} {key : RuleKey} :
    mergedCounts counts key = counts kind key ↔ Unmixed counts kind key := by
  have merged : mergedCounts counts key =
      (counts .staticNat key).or ((counts .destination key).or (counts .source key)) := by
    simp [mergedCounts, HitCounts.extend, HitCounts.none]
  rw [merged]
  constructor
  · intro own other count has last
    rw [← own]
    cases other with
    | source => rw [last .staticNat (by simp [NatKind.later]), last .destination (by simp [NatKind.later]),
        has, Option.none_or, Option.none_or]
    | destination => rw [last .staticNat (by simp [NatKind.later]), has, Option.none_or, Option.some_or]
    | staticNat => rw [has, Option.some_or]
  · intro unmixed
    cases hasStatic : counts .staticNat key with
    | some count =>
        rw [Option.some_or]
        exact (unmixed .staticNat count hasStatic nofun).symm
    | none =>
        rw [Option.none_or]
        cases hasDestination : counts .destination key with
        | some count =>
            rw [Option.some_or]
            refine (unmixed .destination count hasDestination ?_).symm
            intro later isLater
            cases List.mem_singleton.mp isLater
            exact hasStatic
        | none =>
            rw [Option.none_or]
            cases hasSource : counts .source key with
            | some count =>
                refine (unmixed .source count hasSource ?_).symm
                intro later isLater
                rcases List.mem_pair.mp isLater with rfl | rfl
                · exact hasDestination
                · exact hasStatic
            | none =>
                cases kind with
                | source => exact hasSource.symm
                | destination => exact hasDestination.symm
                | staticNat => exact hasStatic.symm

/-! ## The rules of one kind -/

def nameOf (node : XmlNode) : Text := (node.childText "name").getD []

/-- The rules a configuration has, in order. -/
def configuredKeys (crates : XmlCrates) (replyXml : Text) : List RuleKey :=
  (((usableDocument crates replyXml).map ruleSets).getD []).flatMap fun ruleSet =>
    (ruleSet.childrenNamed "rule").map fun rule => (nameOf ruleSet, nameOf rule)

def NatRule.counted {To Translation : Type} (rule : NatRule To Translation) :
    RuleKey × Option Nat :=
  (rule.key, rule.hitCount)

/-- A rule of the list as far as its key, its count and its state go. -/
def NatRule.digest {To Translation : Type} (rule : NatRule To Translation) :
    RuleKey × Option Nat × Bool :=
  (rule.key, rule.hitCount, rule.active)

/-- The rules of a configuration, each with its rule-set. -/
def configuredRules (document : XmlDocument) : List (XmlNode × XmlNode) :=
  (ruleSets document).flatMap fun ruleSet =>
    (ruleSet.childrenNamed "rule").map fun rule => (ruleSet, rule)

/-- The same of a rule as it is configured. -/
def digestOf (hitCounts : HitCounts) (entry : XmlNode × XmlNode) : RuleKey × Option Nat × Bool :=
  ((nameOf entry.1, nameOf entry.2), hitCounts (nameOf entry.1, nameOf entry.2),
    !isInactive entry.1 && !isInactive entry.2)

section Rules

variable {To Translation : Type} {shape : RuleShape To Translation} {hitCounts : HitCounts}

theorem parseRule_ok {ruleSet : XmlNode} {ruleSetName : Text}
    {fromSelectors : List NatZoneOrInterface} {toSelectors : To} {entry : XmlNode × Nat}
    {rule : NatRule To Translation} (own : nameOf ruleSet = ruleSetName)
    (ok : parseRule shape hitCounts ruleSet ruleSetName fromSelectors toSelectors entry = .ok rule) :
    rule.digest = digestOf hitCounts (ruleSet, entry.1) := by
  obtain ⟨name, named, ok⟩ := bind_eq_ok.mp ok
  obtain ⟨match_, -, ok⟩ := bind_eq_ok.mp ok
  obtain ⟨thenNode, -, ok⟩ := bind_eq_ok.mp ok
  obtain ⟨translation, -, ok⟩ := bind_eq_ok.mp ok
  cases ok
  have ruleName : nameOf entry.1 = name := by rw [nameOf, required_ok named, Option.getD_some]
  rw [digestOf, own, ruleName]
  rfl

theorem parseRuleSet_ok {ruleSet : XmlNode} {rules : List (NatRule To Translation)}
    (ok : parseRuleSet shape hitCounts ruleSet = .ok rules) :
    rules.map NatRule.digest =
      (ruleSet.childrenNamed "rule").map fun rule => digestOf hitCounts (ruleSet, rule) := by
  obtain ⟨ruleSetName, named, ok⟩ := bind_eq_ok.mp ok
  obtain ⟨fromSelectors, -, ok⟩ := bind_eq_ok.mp ok
  obtain ⟨toSelectors, -, ok⟩ := bind_eq_ok.mp ok
  have own : nameOf ruleSet = ruleSetName := by rw [nameOf, required_ok named, Option.getD_some]
  rw [mapM_ok_map ok fun entry rule => parseRule_ok own]
  conv_rhs => rw [← List.zipIdx_map_fst 0 (ruleSet.childrenNamed "rule"), List.map_map]
  rfl

/-- The rules of a kind are the configured ones, each with the count under its name. -/
theorem parseKind_digest {crates : XmlCrates} {replyXml : Text} {limit : Nat}
    {rules : List (NatRule To Translation)} {truncated : Bool}
    (ok : parseKind shape crates replyXml hitCounts limit = .ok (rules, truncated)) :
    rules.map NatRule.digest =
      (((usableDocument crates replyXml).map configuredRules).getD []).map (digestOf hitCounts) := by
  obtain ⟨nodes, split, ok⟩ := bind_eq_ok.mp ok
  obtain ⟨found, usable, ok⟩ := bind_eq_ok.mp ok
  rw [usableDocument_eq split usable]
  cases found with
  | none =>
      cases ok
      rfl
  | some node =>
      obtain ⟨document, read, ok⟩ := bind_eq_ok.mp ok
      obtain ⟨lists, all, ok⟩ := bind_eq_ok.mp ok
      cases ok
      rw [Option.bind_some, readDocument_ok read]
      dsimp only [Except.toOption, Option.map_some, Option.getD_some]
      have digests := @mapM_ok_map _ _ _ _ _ _ _ all (List.map NatRule.digest) _
        fun ruleSet rules => parseRuleSet_ok
      rw [List.map_flatten, digests, configuredRules, List.map_flatMap, List.flatMap_def]
      simp only [List.map_map]
      rfl

theorem parseKind_ok {crates : XmlCrates} {replyXml : Text} {limit : Nat}
    {rules : List (NatRule To Translation)} {truncated : Bool}
    (ok : parseKind shape crates replyXml hitCounts limit = .ok (rules, truncated)) :
    rules.map NatRule.counted =
      (configuredKeys crates replyXml).map fun key => (key, hitCounts key) := by
  have counts := congrArg (List.map fun digest => (digest.1, digest.2.1)) (parseKind_digest ok)
  rw [List.map_map, List.map_map] at counts
  refine counts.trans ?_
  rw [configuredKeys]
  cases usableDocument crates replyXml with
  | none => rfl
  | some document =>
      dsimp only [Option.map_some, Option.getD_some]
      rw [configuredRules, List.map_flatMap, List.map_flatMap]
      simp only [List.map_map]
      rfl

end Rules

/-- The rules of a standalone device. -/
theorem parseKind_standalone {To Translation : Type} {shape : RuleShape To Translation}
    {hitCounts : HitCounts} {crates : XmlCrates} {xml : Text} {limit : Nat} {document : XmlDocument}
    (clean : sanitizeRustezXml xml = xml) (read : crates.parse xml = .ok document)
    (alone : document.first "multi-routing-engine-results".toList = none)
    (quiet : rpcErrorParts document = none) :
    parseKind shape crates xml hitCounts limit = do
      let rules ← (ruleSets document).mapM (parseRuleSet shape hitCounts)
      return (rules.flatten, decide (limit < rules.flatten.length)) := by
  rw [parseKind, multiReSplit_standalone clean read alone]
  dsimp only [bind, Except.bind]
  rw [firstUsable_standalone clean read quiet]
  dsimp only
  rw [clean, readDocument, read]
  rfl

theorem parseNatHitCounts_standalone {crates : ConfigCrates} {xml : Text} {document : XmlDocument}
    (clean : sanitizeRustezXml xml = xml) (read : crates.parse xml = .ok document)
    (alone : document.first "multi-routing-engine-results".toList = none)
    (quiet : rpcErrorParts document = none) :
    parseNatHitCounts crates xml = .ok ((ruleSets document).foldl addRuleSetCounts .none) := by
  rw [parseNatHitCounts, multiReSplit_standalone clean read alone]
  refine foldlM_cons_ok.mpr ⟨_, ?_, rfl⟩
  rw [addNodeCounts, clean, readDocument, read]
  dsimp only [Except.mapError, bind, Except.bind]
  rw [quiet]
  rfl

/-! ## The calls of a run -/

def configEvent (kind : NatKind) (xml : Text) : Σ op, DeviceAnswer op :=
  ⟨.callXml (getConfigurationEnvelope kind.filter), .ok xml⟩

def countEvent (kind : NatKind) (answer : Except RustEzError Text) : Σ op, DeviceAnswer op :=
  ⟨.call kind.hitCountRpc [("all".toList, [])], answer⟩

def configTrace (configs : NatKind → Text) : DeviceTrace :=
  [⟨.rpc, .ok ()⟩, configEvent .source (configs .source),
    configEvent .destination (configs .destination), configEvent .staticNat (configs .staticNat)]

/-- The calls of a run that asks for the hit counts, with their answers. -/
def natTrace (configs : NatKind → Text) (answers : NatKind → Except RustEzError Text) :
    DeviceTrace :=
  [⟨.rpc, .ok ()⟩, configEvent .source (configs .source),
    configEvent .destination (configs .destination), configEvent .staticNat (configs .staticNat),
    countEvent .source (answers .source), countEvent .destination (answers .destination),
    countEvent .staticNat (answers .staticNat)]

section Run

variable {crates : ConfigCrates} {args : NatRulesArgs} {trace : DeviceTrace}
  {response : SrxToolResponse NatRules}

/-- The counts of the kinds' own replies. -/
def ownCounts (crates : ConfigCrates) (answers : NatKind → Except RustEzError Text)
    (kind : NatKind) : HitCounts :=
  answerCounts crates (answers kind)

theorem fetchKind_ok {kind : NatKind} {counts counts' : HitCounts}
    (returns : Returns (fetchKind crates kind counts) trace (.ok counts')) :
    ∃ answer, trace = [countEvent kind answer] ∧
      counts' = counts.extend (answerCounts crates answer) := by
  obtain ⟨answer, rest, rfl, stopped⟩ := returns_step.mp returns
  obtain ⟨rfl, same⟩ := returns_pure.mp stopped
  cases same
  exact ⟨answer, rfl, rfl⟩

theorem returns_fetchKind (kind : NatKind) (counts : HitCounts)
    (answer : Except RustEzError Text) :
    Returns (fetchKind crates kind counts) [countEvent kind answer]
      (.ok (counts.extend (answerCounts crates answer))) :=
  .step (.pure _)

theorem fetchHitCounts_ok {counts : HitCounts}
    (returns : Returns (fetchHitCounts crates) trace (.ok counts)) :
    ∃ answers, trace = [countEvent .source (answers .source),
        countEvent .destination (answers .destination),
        countEvent .staticNat (answers .staticNat)] ∧
      counts = mergedCounts (ownCounts crates answers) := by
  obtain ⟨_, _, _, rfl, source, returns⟩ := Returns.of_andThen returns
  obtain ⟨_, _, _, rfl, destination, staticNat⟩ := Returns.of_andThen returns
  obtain ⟨a, rfl, rfl⟩ := fetchKind_ok source
  obtain ⟨b, rfl, rfl⟩ := fetchKind_ok destination
  obtain ⟨c, rfl, rfl⟩ := fetchKind_ok staticNat
  refine ⟨fun | .source => a | .destination => b | .staticNat => c, rfl, rfl⟩

/-- A run that ends well has read three configurations, and then maybe counts. -/
theorem run_reads (returns : Returns (run crates args) trace (.ok response)) :
    ∃ configs rest hitCounts parsed, trace = configTrace configs ++ rest ∧
      Returns (hitCountsFor crates args) rest (.ok hitCounts) ∧
      parse crates (configs .source) (configs .destination) (configs .staticNat) hitCounts
        args.limit = .ok parsed ∧
      response.data = parsed.data := by
  rw [run] at returns
  split at returns
  · obtain ⟨-, same⟩ := returns_pure.mp returns
    cases same
  obtain ⟨_, _, _, rfl, opened, returns⟩ := Returns.of_andThen returns
  obtain ⟨_, _, sourceXml, rfl, source, returns⟩ := Returns.of_andThen returns
  obtain ⟨_, _, destinationXml, rfl, destination, returns⟩ := Returns.of_andThen returns
  obtain ⟨_, _, staticXml, rfl, staticNat, returns⟩ := Returns.of_andThen returns
  obtain ⟨rest, _, hitCounts, rfl, fetched, returns⟩ := Returns.of_andThen returns
  obtain ⟨rfl, same⟩ := returns_pure.mp returns
  obtain ⟨parsed, read, shown⟩ := map_eq_ok.mp same.symm
  obtain rfl := returns_openExecutor.mp opened
  obtain rfl := returns_callXml.mp source
  obtain rfl := returns_callXml.mp destination
  obtain rfl := returns_callXml.mp staticNat
  refine ⟨fun | .source => sourceXml | .destination => destinationXml | .staticNat => staticXml,
    rest, hitCounts, parsed, by rw [List.append_nil]; rfl, fetched, read, ?_⟩
  rw [← shown]
  split <;> rfl

theorem run_ok (asked : args.includeHitCounts = true)
    (returns : Returns (run crates args) trace (.ok response)) :
    ∃ configs answers parsed, trace = natTrace configs answers ∧
      parse crates (configs .source) (configs .destination) (configs .staticNat)
        (mergedCounts (ownCounts crates answers)) args.limit = .ok parsed ∧
      response.data = parsed.data := by
  obtain ⟨configs, _, hitCounts, parsed, rfl, fetched, read, shown⟩ := run_reads returns
  rw [hitCountsFor, if_pos asked] at fetched
  obtain ⟨answers, rfl, rfl⟩ := fetchHitCounts_ok fetched
  exact ⟨configs, answers, parsed, rfl, read, shown⟩

/-! ## The counts of the listed rules -/

def NatRules.counted (rules : NatRules) : NatKind → List (RuleKey × Option Nat)
  | .source => rules.source.map NatRule.counted
  | .destination => rules.destination.map NatRule.counted
  | .staticNat => rules.staticNat.map NatRule.counted

/-- Every listed rule has the count of its own kind's reply, and none where that has none. -/
def OwnCounts (own : NatKind → HitCounts) (rules : NatRules) : Prop :=
  ∀ kind, ∀ entry ∈ rules.counted kind, entry.2 = own kind entry.1

theorem parse_counted {configs : NatKind → Text} {hitCounts : HitCounts} {limit : Nat}
    {parsed : SrxToolResponse NatRules}
    (ok : parse crates (configs .source) (configs .destination) (configs .staticNat) hitCounts limit =
      .ok parsed) :
    ∃ rules, parsed.data = some rules ∧ ∀ kind, rules.counted kind =
      ((configuredKeys crates.toXmlCrates (configs kind)).take limit).map fun key =>
        (key, hitCounts key) := by
  obtain ⟨⟨source, _⟩, readSource, ok⟩ := bind_eq_ok.mp ok
  obtain ⟨⟨destination, _⟩, readDestination, ok⟩ := bind_eq_ok.mp ok
  obtain ⟨⟨staticNat, _⟩, readStatic, ok⟩ := bind_eq_ok.mp ok
  cases ok
  refine ⟨_, rfl, ?_⟩
  intro kind
  cases kind with
  | source => rw [NatRules.counted, List.map_take, parseKind_ok readSource, List.map_take]
  | destination => rw [NatRules.counted, List.map_take, parseKind_ok readDestination, List.map_take]
  | staticNat => rw [NatRules.counted, List.map_take, parseKind_ok readStatic, List.map_take]

/-- The counts of a run's rules are those of their own kinds exactly when no listed rule's name is
in another kind's reply with another count, unless a later reply has it right again. -/
theorem run_own_counts_iff (asked : args.includeHitCounts = true)
    (returns : Returns (run crates args) trace (.ok response)) :
    ∃ configs answers rules, trace = natTrace configs answers ∧ response.data = some rules ∧
      (OwnCounts (ownCounts crates answers) rules ↔
        ∀ kind, ∀ key ∈ (configuredKeys crates.toXmlCrates (configs kind)).take args.limit,
          Unmixed (ownCounts crates answers) kind key) := by
  obtain ⟨configs, answers, parsed, rfl, read, shown⟩ := run_ok asked returns
  obtain ⟨rules, data, counted⟩ := parse_counted read
  refine ⟨configs, answers, rules, rfl, shown.trans data, ?_⟩
  refine forall_congr' fun kind => ?_
  rw [counted kind, List.forall_mem_map]
  exact forall₂_congr fun key _ => mergedCounts_eq_iff

end Run

/-! ### One name for a source rule and a destination rule -/

def natConfig (kind : String) (inner : List XmlNode) : XmlDocument :=
  [.group "configuration" [.group "security" [.group "nat" [.group kind inner]]]]

def sharedRuleSet (translation : XmlNode) : XmlNode :=
  .group "rule-set" [.field "name" "rs", .group "from" [.field "zone" "trust"],
    .group "rule" [.field "name" "r1", .group "match" [.field "protocol" "tcp"],
      .group "then" [translation]]]

def sharedSource : XmlDocument :=
  natConfig "source" [sharedRuleSet (.group "source-nat" [.group "interface" []])]

def sharedDestination : XmlDocument :=
  natConfig "destination"
    [sharedRuleSet (.group "destination-nat" [.group "pool" [.field "pool-name" "web"]])]

def sharedStatic : XmlDocument := natConfig "static" []

def hitsOf (hits : String) : XmlDocument :=
  [.group "nat-hits" [.group "rule-set" [.field "name" "rs",
    .group "rule" [.field "name" "r1", .field "translation-hits" hits]]]]

def sharedConfigs : NatKind → XmlDocument
  | .source => sharedSource
  | .destination => sharedDestination
  | .staticNat => sharedStatic

def sharedCrates : ConfigCrates where
  toXmlCrates := readerOfPrinted
    [sharedSource, sharedDestination, sharedStatic, hitsOf "3", hitsOf "7"]
  ipNet _ := none

def sharedAnswers : NatKind → Except RustEzError Text
  | .source => .ok (printed (hitsOf "3"))
  | .destination => .ok (printed (hitsOf "7"))
  | .staticNat => .error ⟨.netconf .protocol, "closed".toList⟩

theorem sharedCrates_parse : sharedCrates.parse = parsePrinted
    [sharedSource, sharedDestination, sharedStatic, hitsOf "3", hitsOf "7"] := rfl

theorem sharedSource_read : sharedCrates.parse (printed sharedSource) = .ok sharedSource := by
  rw [sharedCrates_parse, parsePrinted_here]

theorem sharedDestination_read :
    sharedCrates.parse (printed sharedDestination) = .ok sharedDestination := by
  have later : printed sharedSource ≠ printed sharedDestination := by decide
  rw [sharedCrates_parse, parsePrinted_later later, parsePrinted_here]

theorem sharedStatic_read : sharedCrates.parse (printed sharedStatic) = .ok sharedStatic := by
  have later : printed sharedSource ≠ printed sharedStatic := by decide
  have last : printed sharedDestination ≠ printed sharedStatic := by decide
  rw [sharedCrates_parse, parsePrinted_later later, parsePrinted_later last, parsePrinted_here]

theorem configs_differ_from_hits (hits : String) (kind : NatKind) :
    printed (sharedConfigs kind) ≠ printed (hitsOf hits) := by
  intro same
  have second : (printed (sharedConfigs kind))[1]? = some 'n' := by
    rw [same]
    rfl
  cases kind <;> exact absurd second (by decide)

theorem hits_read (hits : String) :
    sharedCrates.parse (printed (hitsOf hits)) =
      parsePrinted [hitsOf "3", hitsOf "7"] (printed (hitsOf hits)) := by
  have source : printed sharedSource ≠ _ := configs_differ_from_hits hits .source
  have destination : printed sharedDestination ≠ _ := configs_differ_from_hits hits .destination
  have staticNat : printed sharedStatic ≠ _ := configs_differ_from_hits hits .staticNat
  rw [sharedCrates_parse, parsePrinted_later source, parsePrinted_later destination,
    parsePrinted_later staticNat]

theorem sourceHits_read : sharedCrates.parse (printed (hitsOf "3")) = .ok (hitsOf "3") := by
  rw [hits_read, parsePrinted_here]

theorem destinationHits_read : sharedCrates.parse (printed (hitsOf "7")) = .ok (hitsOf "7") := by
  have later : printed (hitsOf "3") ≠ printed (hitsOf "7") := by decide
  rw [hits_read, parsePrinted_later later, parsePrinted_here]

def sharedCounts : HitCounts := mergedCounts (ownCounts sharedCrates sharedAnswers)

def sharedKey : RuleKey := ("rs".toList, "r1".toList)

def sharedMatch : NatMatch := ⟨[], [], [], [], [], ["tcp".toList]⟩

def sharedRules : NatRules where
  source := [⟨"rs".toList, "r1".toList, 1, [.zone "trust".toList], [], sharedMatch, .interface, true,
    sharedCounts sharedKey⟩]
  destination := [⟨"rs".toList, "r1".toList, 1, [.zone "trust".toList], (), sharedMatch,
    .pool "web".toList, true, sharedCounts sharedKey⟩]
  staticNat := []
  truncated := false

theorem shared_parsed :
    parse sharedCrates (printed sharedSource) (printed sharedDestination) (printed sharedStatic)
      sharedCounts 200 = .ok (.active sharedRules) := by
  have source := @parseKind_standalone _ _ sourceShape sharedCounts sharedCrates.toXmlCrates
    (printed sharedSource) 200 sharedSource
    (sanitizeRustezXml_printed (by decide) (by decide)) sharedSource_read rfl rfl
  have destination := @parseKind_standalone _ _ destinationShape sharedCounts
    sharedCrates.toXmlCrates (printed sharedDestination) 200 sharedDestination
    (sanitizeRustezXml_printed (by decide) (by decide)) sharedDestination_read rfl rfl
  have staticNat := @parseKind_standalone _ _ (staticShape sharedCrates.ipNet) sharedCounts
    sharedCrates.toXmlCrates (printed sharedStatic) 200 sharedStatic
    (sanitizeRustezXml_printed (by decide) (by decide)) sharedStatic_read rfl rfl
  rw [parse, parseSource, parseDestination, parseStatic, source, destination, staticNat]
  rfl

theorem sharedSource_count : ownCounts sharedCrates sharedAnswers .source sharedKey = some 3 := by
  have read := parseNatHitCounts_standalone
    (sanitizeRustezXml_printed (by decide) (by decide))
    sourceHits_read rfl rfl
  dsimp only [ownCounts, answerCounts, sharedAnswers]
  rw [read]
  rfl

theorem sharedDestination_count :
    ownCounts sharedCrates sharedAnswers .destination sharedKey = some 7 := by
  have read := parseNatHitCounts_standalone
    (sanitizeRustezXml_printed (by decide) (by decide))
    destinationHits_read rfl rfl
  dsimp only [ownCounts, answerCounts, sharedAnswers]
  rw [read]
  rfl

theorem shared_counted : sharedCounts sharedKey = some 7 := by
  rw [sharedCounts, mergedCounts, HitCounts.extend, HitCounts.extend, sharedDestination_count]
  rfl

def sharedArgs : NatRulesArgs := ⟨"fw".toList, true, 200, false⟩

def sharedTrace : DeviceTrace :=
  natTrace (fun kind => printed (sharedConfigs kind)) sharedAnswers

theorem shared_run :
    Returns (run sharedCrates sharedArgs) sharedTrace (.ok (.active sharedRules)) := by
  rw [run, if_neg (by decide)]
  refine returns_andThen_ok (returns_openExecutor.mpr rfl) ?_
  refine returns_andThen_ok (returns_callXml.mpr rfl) ?_
  refine returns_andThen_ok (returns_callXml.mpr rfl) ?_
  refine returns_andThen_ok (returns_callXml.mpr rfl) ?_
  have fetched : Returns (hitCountsFor sharedCrates sharedArgs) _ (.ok sharedCounts) :=
    returns_andThen_ok (returns_fetchKind .source .none (sharedAnswers .source))
      (returns_andThen_ok (returns_fetchKind .destination _ (sharedAnswers .destination))
        (returns_fetchKind .staticNat _ (sharedAnswers .staticNat)))
  refine returns_andThen_ok fetched ?_
  dsimp only [sharedConfigs, sharedArgs]
  rw [shared_parsed]
  exact .pure _

/-- The source rule is listed with the hits of the destination rule. -/
theorem shared_mixed : ¬ OwnCounts (ownCounts sharedCrates sharedAnswers) sharedRules := by
  intro own
  have source := own .source _ (List.mem_singleton_self _)
  have shown : sharedCounts sharedKey = ownCounts sharedCrates sharedAnswers .source sharedKey :=
    source
  rw [shared_counted, sharedSource_count] at shown
  cases shown

theorem shared_counts_mixed :
    ∃ (crates : ConfigCrates) (args : NatRulesArgs) (configs : NatKind → Text)
      (answers : NatKind → Except RustEzError Text) (rules : NatRules),
      args.includeHitCounts = true ∧
      Returns (run crates args) (natTrace configs answers) (.ok (.active rules)) ∧
      ¬ OwnCounts (ownCounts crates answers) rules :=
  ⟨_, _, _, _, _, rfl, shared_run, shared_mixed⟩

theorem shared_own_counts_iff :
    ∃ configs answers rules, sharedTrace = natTrace configs answers ∧
      (SrxToolResponse.active sharedRules).data = some rules ∧
      (OwnCounts (ownCounts sharedCrates answers) rules ↔
        ∀ kind, ∀ key ∈ (configuredKeys sharedCrates.toXmlCrates (configs kind)).take 200,
          Unmixed (ownCounts sharedCrates answers) kind key) :=
  run_own_counts_iff rfl shared_run

end JunosMcp.Srx.ListNatRules
