import JunosMcp.Policy
import Mathlib.Data.List.MinMax

/-!
# Policy isolation

Under an explicit allowlist mode the decision about a router is a function of the defaults and the
router's own keys of the command's domain.
-/

namespace JunosMcp
open Lib

/-! ## The keys of a domain -/

/-- The three keys of one command domain. -/
structure DomainKeys where
  rules : List RuleSpec
  allow : List Text
  allowedPipes : List Text
  deriving DecidableEq

def commandKeys (rules : Option BlocklistRules) : DomainKeys :=
  ⟨keyOf rules (·.commands), keyOf rules (·.allow), keyOf rules (·.allowedPipes)⟩

def pfeKeys (rules : Option BlocklistRules) : DomainKeys :=
  ⟨keyOf rules (·.pfeCommands), keyOf rules (·.pfeAllow), keyOf rules (·.pfeAllowedPipes)⟩

namespace PolicyCrate
variable (crate : PolicyCrate)

def rule (source : RuleSource) (spec : RuleSpec) : Option (CompiledRule crate.Glob) :=
  (compileRule crate [] source spec).toOption

/-- The defaults' rules and the device's own. -/
def rules (defaults own : DomainKeys) : List (CompiledRule crate.Glob) :=
  defaults.rules.filterMap (crate.rule .defaults) ++ own.rules.filterMap (crate.rule .device)

def entries (texts : List Text) : List crate.Entry :=
  texts.filterMap fun text => (crate.compileEntry text).toOption

/-- Why the merged allowlist refuses the text, if it does. -/
def mergedRefusal (defaults own : DomainKeys) (text : Text) : Option AllowlistDenyReason :=
  crate.refusal (crate.entries (defaults.allow ++ own.allow))
    (crate.entries (defaults.allowedPipes ++ own.allowedPipes)) text

/-- The most specific matching rule. -/
def topRule (defaults own : DomainKeys) (text : Text) : Option (CompiledRule crate.Glob) :=
  crate.evaluate (crate.rules defaults own) (crate.normalizeInput text)

/-- What the keys of a domain say about a text under allowlist mode. -/
def decide (defaults own : DomainKeys) (text : Text) : PolicyDecision crate.Glob :=
  if hasDisallowedCharacter text then
    .denyAllowlist .allowlist .forbiddenMetachar (crate.normalizeInput text)
  else match crate.mergedRefusal defaults own text with
    | some reason => .denyAllowlist .allowlist reason (crate.normalizeInput text)
    | none => match crate.topRule defaults own text with
        | some rule => if rule.action = .deny then .deny rule rule.source none else .allow
        | none => .allow

end PolicyCrate

variable {crate : PolicyCrate}

theorem topRule_mostSpecific {defaults own : DomainKeys} {text : Text}
    {rule : CompiledRule crate.Glob} (top : crate.topRule defaults own text = some rule) :
    rule ∈ crate.rules defaults own ∧
      crate.isMatch rule.glob (crate.normalizeInput text) = true ∧
      ∀ other ∈ crate.rules defaults own,
        crate.isMatch other.glob (crate.normalizeInput text) = true → other.rank ≤ rule.rank := by
  obtain ⟨member, matched⟩ := crate.evaluate_matches top
  exact ⟨member, matched, fun other found also => crate.evaluate_most_specific top found also⟩

theorem hasDisallowedCharacter_eq_false {text : Text} :
    hasDisallowedCharacter text = false ↔ ∀ c ∈ text, c = ' ' ∨ isAsciiGraphic c = true := by
  simp only [hasDisallowedCharacter, List.any_eq_false]
  refine forall_congr' fun c => forall_congr' fun _ => ?_
  by_cases space : c = ' ' <;> simp [space]

theorem decide_allows_iff {defaults own : DomainKeys} {text : Text} :
    (crate.decide defaults own text).isAllowed = true ↔
      (∀ c ∈ text, c = ' ' ∨ isAsciiGraphic c = true) ∧
      crate.mergedRefusal defaults own text = none ∧
      ∀ rule, crate.topRule defaults own text = some rule → rule.action ≠ .deny := by
  rw [← hasDisallowedCharacter_eq_false, PolicyCrate.decide]
  cases hasDisallowedCharacter text with
  | true => simp [PolicyDecision.isAllowed]
  | false =>
      cases crate.mergedRefusal defaults own text with
      | some reason => simp [PolicyDecision.isAllowed]
      | none =>
          cases top : crate.topRule defaults own text with
          | none => simp [PolicyDecision.isAllowed]
          | some rule =>
              by_cases denies : rule.action = .deny <;> simp [PolicyDecision.isAllowed, denies]

/-! ## What compiling leaves -/

theorem rule_eq (scope : Text) (source : RuleSource) (spec : RuleSpec) :
    (compileRule crate scope source spec).toOption = crate.rule source spec := by
  unfold PolicyCrate.rule compileRule
  cases crate.compileGlob spec.pattern <;> rfl

theorem entry_eq (scope text : Text) :
    (compileEntry crate scope text).toOption = (crate.compileEntry text).toOption := by
  unfold compileEntry
  cases crate.compileEntry text <;> rfl

theorem compileRules_ok {specs : List RuleSpec} {scope : Text} {source : RuleSource}
    {compiled : List (CompiledRule crate.Glob)}
    (ok : compileRules crate specs scope source = .ok compiled) :
    compiled = specs.filterMap (crate.rule source) := by
  have compiledEq := mapM_ok_filterMap ok
  simp only [rule_eq] at compiledEq
  exact compiledEq

theorem compileAllowlist_ok {texts : List Text} {scope : Text} {compiled : List crate.Entry}
    (ok : compileAllowlist crate texts scope = .ok compiled) : compiled = crate.entries texts := by
  have compiledEq := mapM_ok_filterMap ok
  simp only [entry_eq] at compiledEq
  exact compiledEq

/-- A device's rules are the defaults and its own, whether or not its own were inserted. -/
theorem compileDomainRules_ok {defaults own : List RuleSpec} {device : Option (Text × List RuleSpec)}
    {name scopePrefix : Text} {domain : DomainRules crate}
    (ok : compileDomainRules crate defaults device scopePrefix = .ok domain)
    (mine : device = some (name, own) ∨ device = none ∧ own = []) :
    domain.rulesFor name =
      defaults.filterMap (crate.rule .defaults) ++ own.filterMap (crate.rule .device) := by
  obtain ⟨compiled, first, ok⟩ := bind_eq_ok.mp ok
  have defaultsEq := compileRules_ok first
  rcases mine with rfl | ⟨rfl, rfl⟩
  · dsimp only at ok
    split at ok
    · rename_i empty
      cases ok
      simp [DomainRules.rulesFor, defaultsEq, List.isEmpty_iff.mp empty]
    · obtain ⟨mineCompiled, second, ok⟩ := bind_eq_ok.mp ok
      have ownEq := compileRules_ok second
      split at ok
      · rename_i empty
        cases ok
        simp [DomainRules.rulesFor, defaultsEq, ← ownEq, List.isEmpty_iff.mp empty]
      · cases ok
        simp [DomainRules.rulesFor, defaultsEq, ownEq]
  · cases ok
    simp [DomainRules.rulesFor, defaultsEq]

/-- The compiled domain holds exactly the keys it was compiled from. -/
structure Holds (domain : CommandDomain crate) (name : Text) (defaults own : DomainKeys) : Prop where
  rules : domain.blocklist.rulesFor name = crate.rules defaults own
  entries : domain.entries = crate.entries (defaults.allow ++ own.allow)
  allowedPipes : domain.allowedPipes = crate.entries (defaults.allowedPipes ++ own.allowedPipes)

theorem compileDevice_ok {mode : CommandMode} {defaults own : Option BlocklistRules} {name : Text}
    {policy : CratePolicy crate} (ok : compileDevice crate mode defaults name own = .ok policy) :
    policy.mode = mode ∧ Holds policy.commands name (commandKeys defaults) (commandKeys own) ∧
      Holds policy.pfeCommands name (pfeKeys defaults) (pfeKeys own) := by
  obtain ⟨commandsRules, commandsOk, ok⟩ := bind_eq_ok.mp ok
  obtain ⟨configRules, _, ok⟩ := bind_eq_ok.mp ok
  obtain ⟨pfeRules, pfeOk, ok⟩ := bind_eq_ok.mp ok
  obtain ⟨allowEntries, allowOk, ok⟩ := bind_eq_ok.mp ok
  obtain ⟨pipeEntries, pipeOk, ok⟩ := bind_eq_ok.mp ok
  obtain ⟨pfeAllowEntries, pfeAllowOk, ok⟩ := bind_eq_ok.mp ok
  obtain ⟨pfePipeEntries, pfePipeOk, ok⟩ := bind_eq_ok.mp ok
  cases ok
  have mine (key : BlocklistRules → List RuleSpec) :
      (own.map fun rules => (name, key rules)) = some (name, keyOf own key) ∨
        (own.map fun rules => (name, key rules)) = none ∧ keyOf own key = [] := by
    cases own with
    | none => exact .inr ⟨rfl, rfl⟩
    | some rules => exact .inl rfl
  exact ⟨rfl,
    ⟨compileDomainRules_ok commandsOk (mine _), compileAllowlist_ok allowOk,
      compileAllowlist_ok pipeOk⟩,
    ⟨compileDomainRules_ok pfeOk (mine _), compileAllowlist_ok pfeAllowOk,
      compileAllowlist_ok pfePipeOk⟩⟩

/-! ## The decision -/

theorem perDevice_lookup {mode : CommandMode} {defaults : Option BlocklistRules}
    {devices : List (Text × Option BlocklistRules)} {entries : List (Text × CratePolicy crate)}
    (all : List.Forall₂ (fun device entry => (do
      let compiled ← compileDevice crate mode defaults device.1 device.2
      return (device.1, compiled)) = Except.ok entry) devices entries)
    {router : Text} {own : Option BlocklistRules} (listed : devices.lookup router = some own) :
    ∃ compiled, entries.lookup router = some compiled ∧
      compileDevice crate mode defaults router own = .ok compiled := by
  induction all with
  | nil => cases listed
  | @cons device entry devices entries head _ ih =>
      obtain ⟨compiled, here, head⟩ := bind_eq_ok.mp head
      cases head
      by_cases same : router = device.1
      · subst same
        rw [List.lookup_cons, beq_self_eq_true] at listed
        cases listed
        exact ⟨compiled, by rw [List.lookup_cons, beq_self_eq_true], here⟩
      · have different : (router == device.1) = false := by simpa using same
        rw [List.lookup_cons, different] at listed
        rw [List.lookup_cons, different]
        exact ih listed

theorem policyFor_listed {inventory : PolicyInventory} {policy : Policy crate} {router : Text}
    {own : Option BlocklistRules} (built : Policy.build crate inventory = .ok policy)
    (listed : inventory.devices.lookup router = some own) :
    policy.commandMode = effectiveCommandMode inventory ∧
      compileDevice crate (effectiveCommandMode inventory) inventory.blocklistDefaults router own =
        .ok (policy.policyFor router) := by
  obtain ⟨perDevice, each, built⟩ := bind_eq_ok.mp built
  obtain ⟨defaultPolicy, _, built⟩ := bind_eq_ok.mp built
  cases built
  obtain ⟨compiled, found, here⟩ := perDevice_lookup (mapM_ok_forall₂ each) listed
  exact ⟨rfl, by rw [Policy.policyFor, found]; exact here⟩

theorem check_eq_decide {policy : Policy crate} {domain : CommandDomain crate} {router text : Text}
    {defaults own : DomainKeys} (mode : policy.commandMode = .allowlist)
    (holds : Holds domain router defaults own) :
    (match policy.denyDisallowedCharacter text with
      | some decision => decision
      | none => policy.applyAllowlistDenyCarveout (domain.blocklist.rulesFor router) text
          (domain.check .allowlist router text)) = crate.decide defaults own text := by
  rw [Policy.denyDisallowedCharacter, PolicyCrate.decide, Policy.applyAllowlistDenyCarveout,
    CommandDomain.check, holds.rules, holds.entries, holds.allowedPipes, mode]
  cases hasDisallowedCharacter text with
  | true => rfl
  | false =>
      simp only [ne_eq, not_true_eq_false, if_false, Bool.false_eq_true]
      cases refused : crate.mergedRefusal defaults own text with
      | some reason =>
          rw [PolicyCrate.mergedRefusal] at refused
          simp [refused, PolicyDecision.isAllowed]
      | none =>
          rw [PolicyCrate.mergedRefusal] at refused
          simp only [refused, PolicyDecision.isAllowed, PolicyCrate.topRule]
          rfl

section Decision
variable {inventory : PolicyInventory} {policy : Policy crate} {router : Text}
  {own : Option BlocklistRules}
  (explicit : inventory.blocklistDefaults.bind (·.mode) = some .allowlist)
  (built : Policy.build crate inventory = .ok policy)
  (listed : inventory.devices.lookup router = some own)
include explicit built listed

theorem checkCommand_eq_decide (command : Text) :
    policy.checkCommand router command =
      crate.decide (commandKeys inventory.blocklistDefaults) (commandKeys own) command := by
  have allowlist : effectiveCommandMode inventory = .allowlist := by
    rw [effectiveCommandMode, explicit]
  obtain ⟨mode, device⟩ := policyFor_listed built listed
  obtain ⟨deviceMode, commands, _⟩ := compileDevice_ok device
  rw [allowlist] at mode deviceMode
  rw [Policy.checkCommand, deviceMode]
  exact check_eq_decide mode commands

theorem checkPfeCommand_eq_decide (pfeCommand : Text) :
    policy.checkPfeCommand router pfeCommand =
      crate.decide (pfeKeys inventory.blocklistDefaults) (pfeKeys own) pfeCommand := by
  have allowlist : effectiveCommandMode inventory = .allowlist := by
    rw [effectiveCommandMode, explicit]
  obtain ⟨mode, device⟩ := policyFor_listed built listed
  obtain ⟨deviceMode, _, pfe⟩ := compileDevice_ok device
  rw [allowlist] at mode deviceMode
  rw [Policy.checkPfeCommand, deviceMode]
  exact check_eq_decide mode pfe

/-- Both checks are sound, and neither depends on another device or on the other domain. -/
theorem checks_isolated :
    (∀ command, (policy.checkCommand router command).isAllowed = true ↔
      (∀ c ∈ command, c = ' ' ∨ isAsciiGraphic c = true) ∧
      crate.mergedRefusal (commandKeys inventory.blocklistDefaults) (commandKeys own) command =
        none ∧
      ∀ rule, crate.topRule (commandKeys inventory.blocklistDefaults) (commandKeys own) command =
        some rule → rule.action ≠ .deny) ∧
    (∀ pfeCommand, (policy.checkPfeCommand router pfeCommand).isAllowed = true ↔
      (∀ c ∈ pfeCommand, c = ' ' ∨ isAsciiGraphic c = true) ∧
      crate.mergedRefusal (pfeKeys inventory.blocklistDefaults) (pfeKeys own) pfeCommand = none ∧
      ∀ rule, crate.topRule (pfeKeys inventory.blocklistDefaults) (pfeKeys own) pfeCommand =
        some rule → rule.action ≠ .deny) ∧
    ∀ (other : PolicyInventory) (otherPolicy : Policy crate) (otherOwn : Option BlocklistRules),
      other.blocklistDefaults.bind (·.mode) = some .allowlist →
      Policy.build crate other = .ok otherPolicy → other.devices.lookup router = some otherOwn →
      (commandKeys other.blocklistDefaults = commandKeys inventory.blocklistDefaults →
        commandKeys otherOwn = commandKeys own →
        ∀ command, otherPolicy.checkCommand router command = policy.checkCommand router command) ∧
      (pfeKeys other.blocklistDefaults = pfeKeys inventory.blocklistDefaults →
        pfeKeys otherOwn = pfeKeys own →
        ∀ pfeCommand,
          otherPolicy.checkPfeCommand router pfeCommand = policy.checkPfeCommand router pfeCommand)
    := by
  refine ⟨fun command => ?_, fun pfeCommand => ?_, ?_⟩
  · rw [checkCommand_eq_decide explicit built listed]
    exact decide_allows_iff
  · rw [checkPfeCommand_eq_decide explicit built listed]
    exact decide_allows_iff
  · intro other otherPolicy otherOwn otherExplicit otherBuilt otherListed
    refine ⟨fun defaults mine command => ?_, fun defaults mine pfeCommand => ?_⟩
    · rw [checkCommand_eq_decide otherExplicit otherBuilt otherListed,
        checkCommand_eq_decide explicit built listed, defaults, mine]
    · rw [checkPfeCommand_eq_decide otherExplicit otherBuilt otherListed,
        checkPfeCommand_eq_decide explicit built listed, defaults, mine]

end Decision

/-! ## One inventory -/

/-- A glob is its pattern; only a closing `*` is a wildcard here. -/
def prefixMatch (pattern text : Text) : Bool :=
  match pattern.reverse with
  | '*' :: front => front.reverse.isPrefixOf text
  | _ => pattern == text

def tokenRefusal (entries allowedPipes : List (List Text)) (text : Text) :
    Option AllowlistDenyReason :=
  match text.splitOn '|' with
  | [] => some .notAllowlisted
  | first :: stages =>
      if !entries.any fun entry => entry.isPrefixOf (Text.splitWhitespace first) then
        some .notAllowlisted
      else if stages.all fun stage =>
          allowedPipes.any fun entry => entry.isPrefixOf (Text.splitWhitespace stage) then none
      else some .pipeNotAllowlisted

def matching (rules : List (CompiledRule Text)) (input : Text) : List (CompiledRule Text) :=
  rules.filter fun rule => prefixMatch rule.glob input

/-- The engine on patterns with at most a closing wildcard. -/
def prefixCrate : PolicyCrate where
  Glob := Text
  Entry := List Text
  compileGlob pattern := .ok pattern
  isMatch := prefixMatch
  countLiteralChars pattern := (pattern.filter fun c => c ≠ '*').length
  normalizeInput text := text
  sourceStr
    | .defaults => "defaults".toList
    | .device => "device".toList
  compileEntry text := if text.isEmpty then .error .empty else .ok (Text.splitWhitespace text)
  refusal := tokenRefusal
  evaluate rules input := (matching rules input).argmax CompiledRule.rank
  evaluate_matches found := List.mem_filter.mp (List.argmax_mem found)
  evaluate_most_specific found member matched :=
    List.le_of_mem_argmax (List.mem_filter.mpr ⟨member, matched⟩) found
  evaluate_none none_found rule member := by
    have empty := List.filter_eq_nil_iff.mp (List.argmax_eq_none.mp none_found) rule member
    simpa using empty

def noRules : BlocklistRules := ⟨[], [], [], none, [], [], [], []⟩

def rebootDenied : BlocklistRules :=
  { noRules with
    mode := some .allowlist
    allow := ["show version".toList]
    commands := [⟨.deny, "request system reboot*".toList⟩] }

def systemAllowed : BlocklistRules := { noRules with allow := ["request system".toList] }

def twoRouters : PolicyInventory where
  devices := [("r1".toList, some systemAllowed), ("r2".toList, none)]
  blocklistDefaults := some rebootDenied
  sorted := by decide

/-- The device's own prefix is admitted on that device only, and the carve-out holds there. -/
theorem carveout_on_own_prefix :
    ∃ policy, Policy.build prefixCrate twoRouters = .ok policy ∧
      (policy.checkCommand "r1".toList "request system halt".toList).isAllowed = true ∧
      (policy.checkCommand "r1".toList "request system reboot".toList).isAllowed = false ∧
      (policy.checkCommand "r2".toList "request system halt".toList).isAllowed = false := by
  obtain ⟨policy, built⟩ : ∃ policy, Policy.build prefixCrate twoRouters = .ok policy := ⟨_, rfl⟩
  have explicit : twoRouters.blocklistDefaults.bind (·.mode) = some .allowlist := rfl
  have r1 : twoRouters.devices.lookup "r1".toList = some (some systemAllowed) := rfl
  have r2 : twoRouters.devices.lookup "r2".toList = some none := rfl
  have onR1 := (checks_isolated explicit built r1).1
  have onR2 := (checks_isolated explicit built r2).1
  refine ⟨policy, built, ?_, ?_, ?_⟩
  · refine (onR1 _).mpr ⟨by simp [isAsciiGraphic], by decide, ?_⟩
    intro rule top
    cases top
  · rw [Bool.eq_false_iff, ne_eq, onR1]
    rintro ⟨_, _, permitted⟩
    exact permitted _ rfl rfl
  · rw [Bool.eq_false_iff, ne_eq, onR2]
    rintro ⟨_, admitted, _⟩
    cases admitted

end JunosMcp
