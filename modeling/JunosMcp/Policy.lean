import JunosMcp.Helpers
import JunosMcp.Lib.Results
import Mathlib.Data.Prod.Lex

/-!
# Command policy

`policy.rs`: one compiled policy for each device of the inventory, from the defaults and the
device's own entries, and the checks of the two command domains. Globs, allowlist entries and the
choice of a rule are `mecmcp_policy`'s, which is a parameter.
-/

namespace JunosMcp

/-! ## The inventory's entries -/

inductive RuleAction where
  | deny
  | allow
  deriving DecidableEq

structure RuleSpec where
  action : RuleAction
  pattern : Text
  deriving DecidableEq

inductive CommandMode where
  | allowlist
  | blocklist
  deriving DecidableEq

structure BlocklistRules where
  commands : List RuleSpec
  config : List RuleSpec
  pfeCommands : List RuleSpec
  mode : Option CommandMode
  allow : List Text
  allowedPipes : List Text
  pfeAllow : List Text
  pfeAllowedPipes : List Text
  deriving DecidableEq

/-- What the policy reads of the inventory: the devices in the order of their names. -/
structure PolicyInventory where
  devices : List (Text × Option BlocklistRules)
  blocklistDefaults : Option BlocklistRules
  sorted : (devices.map Prod.fst).Pairwise (· < ·)

/-! ## The rule engine -/

inductive RuleSource where
  | defaults
  | device
  deriving DecidableEq

inductive AllowlistDenyReason where
  | notAllowlisted
  | pipeNotAllowlisted
  | forbiddenMetachar
  deriving DecidableEq

inductive AllowlistEntryErrorKind where
  | globMetachar (c : Char)
  | empty
  deriving DecidableEq

structure CompiledRule (Glob : Type) where
  action : RuleAction
  pattern : Text
  literals : Nat
  source : RuleSource
  glob : Glob

/-- Literal characters first, then the pattern's length, then the device before the defaults. -/
def CompiledRule.rank {Glob : Type} (rule : CompiledRule Glob) : Nat ×ₗ Nat ×ₗ Nat :=
  toLex (rule.literals, toLex (rule.pattern.length,
    match rule.source with
    | .defaults => 0
    | .device => 1))

/-- `mecmcp_policy`, with the matching it documents: the most specific matching rule decides. -/
structure PolicyCrate where
  Glob : Type
  Entry : Type
  compileGlob : Text → Except Text Glob
  isMatch : Glob → Text → Bool
  countLiteralChars : Text → Nat
  normalizeInput : Text → Text
  sourceStr : RuleSource → Text
  compileEntry : Text → Except AllowlistEntryErrorKind Entry
  refusal : (entries allowedPipes : List Entry) → Text → Option AllowlistDenyReason
  evaluate : List (CompiledRule Glob) → Text → Option (CompiledRule Glob)
  evaluate_matches : ∀ {rules : List (CompiledRule Glob)} {input : Text} {rule : CompiledRule Glob},
    evaluate rules input = some rule → rule ∈ rules ∧ isMatch rule.glob input = true
  evaluate_most_specific : ∀ {rules : List (CompiledRule Glob)} {input : Text}
    {rule other : CompiledRule Glob}, evaluate rules input = some rule → other ∈ rules →
    isMatch other.glob input = true → other.rank ≤ rule.rank
  evaluate_none : ∀ {rules : List (CompiledRule Glob)} {input : Text}, evaluate rules input = none →
    ∀ rule ∈ rules, isMatch rule.glob input = false

inductive PolicyDecision (Glob : Type) where
  | allow
  | deny (rule : CompiledRule Glob) (source : RuleSource) (lineNumber : Option Nat)
  | denyAllowlist (mode : CommandMode) (reason : AllowlistDenyReason) (normalized : Text)

def PolicyDecision.isAllowed {Glob : Type} : PolicyDecision Glob → Bool
  | .allow => true
  | _ => false

variable (crate : PolicyCrate)

/-- The rules of one domain: the defaults, and what the device adds to them. -/
structure DomainRules where
  defaults : List (CompiledRule crate.Glob)
  deviceSpecific : List (Text × List (CompiledRule crate.Glob))

structure CommandDomain where
  blocklist : DomainRules crate
  entries : List crate.Entry
  allowedPipes : List crate.Entry

/-- `mecmcp_policy::Policy`. -/
structure CratePolicy where
  mode : CommandMode
  commands : CommandDomain crate
  config : DomainRules crate
  pfeCommands : CommandDomain crate

variable {crate}

def DomainRules.rulesFor (domain : DomainRules crate) (device : Text) :
    List (CompiledRule crate.Glob) :=
  domain.defaults ++ (domain.deviceSpecific.lookup device).getD []

/-- The library's check: the allowlist never consults the rules, the blocklist only them. -/
def CommandDomain.check (domain : CommandDomain crate) (mode : CommandMode) (device raw : Text) :
    PolicyDecision crate.Glob :=
  match mode with
  | .allowlist => match crate.refusal domain.entries domain.allowedPipes raw with
      | none => .allow
      | some reason => .denyAllowlist .allowlist reason (crate.normalizeInput raw)
  | .blocklist =>
      match crate.evaluate (domain.blocklist.rulesFor device) (crate.normalizeInput raw) with
      | some rule => if rule.action = .deny then .deny rule rule.source none else .allow
      | none => .allow

/-! ## Compiling -/

variable (crate)

def compileRule (scope : Text) (source : RuleSource) (spec : RuleSpec) :
    Except JmcpError (CompiledRule crate.Glob) :=
  match crate.compileGlob spec.pattern with
  | .ok glob => .ok ⟨spec.action, spec.pattern, crate.countLiteralChars spec.pattern, source, glob⟩
  | .error error => .error (.blocklistRuleInvalid scope spec.pattern error)

def compileRules (rules : List RuleSpec) (scope : Text) (source : RuleSource) :
    Except JmcpError (List (CompiledRule crate.Glob)) :=
  rules.mapM (compileRule crate scope source)

def AllowlistEntryErrorKind.reason : AllowlistEntryErrorKind → Text
  | .globMetachar c => "contains glob metacharacter '".toList ++ [c] ++
      "' (allowlist entries are literal whitespace-token prefixes, never globs)".toList
  | .empty => "is empty or all-whitespace".toList

def compileEntry (scope entry : Text) : Except JmcpError crate.Entry :=
  match crate.compileEntry entry with
  | .ok compiled => .ok compiled
  | .error kind => .error (.allowlistEntryInvalid scope entry kind.reason)

def compileAllowlist (entries : List Text) (scope : Text) : Except JmcpError (List crate.Entry) :=
  entries.mapM (compileEntry crate scope)

/-- An empty list of a device's own is not inserted. -/
def compileDomainRules (defaults : List RuleSpec) (device : Option (Text × List RuleSpec))
    (scopePrefix : Text) : Except JmcpError (DomainRules crate) := do
  let compiled ← compileRules crate defaults ("_blocklist_defaults.".toList ++ scopePrefix) .defaults
  match device with
  | none => return ⟨compiled, []⟩
  | some (name, rules) =>
      if rules.isEmpty then return ⟨compiled, []⟩
      else
        let own ← compileRules crate rules
          ("device '".toList ++ name ++ "'.blocklist.".toList ++ scopePrefix) .device
        if own.isEmpty then return ⟨compiled, []⟩
        else return ⟨compiled, [(name, own)]⟩

/-- One key of an optional block of rules. -/
def keyOf {α : Type} (rules : Option BlocklistRules) (key : BlocklistRules → List α) : List α :=
  (rules.map key).getD []

/-- The policy of one device of the inventory. -/
def compileDevice (mode : CommandMode) (defaults : Option BlocklistRules) (name : Text)
    (own : Option BlocklistRules) : Except JmcpError (CratePolicy crate) := do
  let commandsRules ← compileDomainRules crate (keyOf defaults (·.commands))
    (own.map fun rules => (name, rules.commands)) "commands".toList
  let configRules ← compileDomainRules crate (keyOf defaults (·.config))
    (own.map fun rules => (name, rules.config)) "config".toList
  let pfeRules ← compileDomainRules crate (keyOf defaults (·.pfeCommands))
    (own.map fun rules => (name, rules.pfeCommands)) "pfe_commands".toList
  let allowEntries ← compileAllowlist crate (keyOf defaults (·.allow) ++ keyOf own (·.allow))
    ("device '".toList ++ name ++ "'.allow".toList)
  let pipeEntries ← compileAllowlist crate
    (keyOf defaults (·.allowedPipes) ++ keyOf own (·.allowedPipes))
    ("device '".toList ++ name ++ "'.allowed_pipes".toList)
  let pfeAllowEntries ← compileAllowlist crate
    (keyOf defaults (·.pfeAllow) ++ keyOf own (·.pfeAllow))
    ("device '".toList ++ name ++ "'.pfe_allow".toList)
  let pfePipeEntries ← compileAllowlist crate
    (keyOf defaults (·.pfeAllowedPipes) ++ keyOf own (·.pfeAllowedPipes))
    ("device '".toList ++ name ++ "'.pfe_allowed_pipes".toList)
  return {
    mode := mode
    commands := ⟨commandsRules, allowEntries, pipeEntries⟩
    config := configRules
    pfeCommands := ⟨pfeRules, pfeAllowEntries, pfePipeEntries⟩ }

/-- The policy of a name that is not in the inventory. -/
def compileDefault (mode : CommandMode) (defaults : Option BlocklistRules) :
    Except JmcpError (CratePolicy crate) := do
  let commandsRules ← compileDomainRules crate (keyOf defaults (·.commands)) none "commands".toList
  let configRules ← compileDomainRules crate (keyOf defaults (·.config)) none "config".toList
  let pfeRules ←
    compileDomainRules crate (keyOf defaults (·.pfeCommands)) none "pfe_commands".toList
  let allowEntries ←
    compileAllowlist crate (keyOf defaults (·.allow)) "_blocklist_defaults.allow".toList
  let pipeEntries ← compileAllowlist crate (keyOf defaults (·.allowedPipes))
    "_blocklist_defaults.allowed_pipes".toList
  let pfeAllowEntries ←
    compileAllowlist crate (keyOf defaults (·.pfeAllow)) "_blocklist_defaults.pfe_allow".toList
  let pfePipeEntries ← compileAllowlist crate (keyOf defaults (·.pfeAllowedPipes))
    "_blocklist_defaults.pfe_allowed_pipes".toList
  return {
    mode := mode
    commands := ⟨commandsRules, allowEntries, pipeEntries⟩
    config := configRules
    pfeCommands := ⟨pfeRules, pfeAllowEntries, pfePipeEntries⟩ }

def hasRules (rules : Option BlocklistRules) : Bool :=
  !(keyOf rules (·.commands)).isEmpty || !(keyOf rules (·.config)).isEmpty ||
    !(keyOf rules (·.pfeCommands)).isEmpty

/-- Without a `mode` key, any deny rule of the file makes it a legacy blocklist. -/
def effectiveCommandMode (inventory : PolicyInventory) : CommandMode :=
  match inventory.blocklistDefaults.bind (·.mode) with
  | some mode => mode
  | none =>
      if hasRules inventory.blocklistDefaults ||
          inventory.devices.any fun device => hasRules device.2 then .blocklist
      else .allowlist

structure Policy where
  perDevice : List (Text × CratePolicy crate)
  defaultPolicy : CratePolicy crate
  commandMode : CommandMode

def Policy.build (inventory : PolicyInventory) : Except JmcpError (Policy crate) := do
  let mode := effectiveCommandMode inventory
  let perDevice ← inventory.devices.mapM fun device => do
    let compiled ← compileDevice crate mode inventory.blocklistDefaults device.1 device.2
    return (device.1, compiled)
  let defaultPolicy ← compileDefault crate mode inventory.blocklistDefaults
  return ⟨perDevice, defaultPolicy, mode⟩

/-! ## Checking -/

variable {crate}

def Policy.policyFor (policy : Policy crate) (router : Text) : CratePolicy crate :=
  (policy.perDevice.lookup router).getD policy.defaultPolicy

/-- `char::is_ascii_graphic`. -/
def isAsciiGraphic (c : Char) : Bool := '!' ≤ c && c ≤ '~'

/-- A character outside printable ASCII and the ASCII space. -/
def hasDisallowedCharacter (raw : Text) : Bool := raw.any fun c => c ≠ ' ' && !isAsciiGraphic c

def Policy.denyDisallowedCharacter (policy : Policy crate) (raw : Text) :
    Option (PolicyDecision crate.Glob) :=
  if policy.commandMode ≠ .allowlist then none
  else if hasDisallowedCharacter raw then
    some (.denyAllowlist .allowlist .forbiddenMetachar (crate.normalizeInput raw))
  else none

/-- A deny rule carves out of what the allowlist admits. -/
def Policy.applyAllowlistDenyCarveout (policy : Policy crate)
    (rules : List (CompiledRule crate.Glob)) (rawInput : Text)
    (decision : PolicyDecision crate.Glob) : PolicyDecision crate.Glob :=
  if policy.commandMode ≠ .allowlist || !decision.isAllowed then decision
  else match crate.evaluate rules (crate.normalizeInput rawInput) with
    | some rule => if rule.action = .deny then .deny rule rule.source none else decision
    | none => decision

def Policy.checkCommand (policy : Policy crate) (router command : Text) :
    PolicyDecision crate.Glob :=
  let device := policy.policyFor router
  match policy.denyDisallowedCharacter command with
  | some decision => decision
  | none => policy.applyAllowlistDenyCarveout (device.commands.blocklist.rulesFor router) command
      (device.commands.check device.mode router command)

def Policy.checkPfeCommand (policy : Policy crate) (router pfeCommand : Text) :
    PolicyDecision crate.Glob :=
  let device := policy.policyFor router
  match policy.denyDisallowedCharacter pfeCommand with
  | some decision => decision
  | none => policy.applyAllowlistDenyCarveout (device.pfeCommands.blocklist.rulesFor router)
      pfeCommand (device.pfeCommands.check device.mode router pfeCommand)

def AllowlistDenyReason.asStr : AllowlistDenyReason → Text
  | .notAllowlisted => "not_allowlisted".toList
  | .pipeNotAllowlisted => "pipe_not_allowlisted".toList
  | .forbiddenMetachar => "forbidden_metachar".toList

/-- Every refusal becomes an error. -/
def enforceDecision (decision : PolicyDecision crate.Glob) (tool router rawInput : Text) :
    Except JmcpError Unit :=
  match decision with
  | .allow => .ok ()
  | .deny rule source _ =>
      .error (.denied tool router rule.pattern (crate.sourceStr source) (excerpt rawInput) none)
  | .denyAllowlist _ reason normalized =>
      .error (.deniedAllowlist tool router reason.asStr (excerpt normalized))

end JunosMcp
