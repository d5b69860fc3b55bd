import JunosMcp.PolicyIsolation

/-!
# Deny rules

What one more deny rule does to the checks, of every router and in both modes.

The mode belongs to the whole inventory. While it stays what it was, a further deny rule can only
refuse more; a first rule in a file without a `mode` key turns an allowlist into a blocklist.
-/

namespace JunosMcp
open Lib

/-! ## The last of the most specific -/

/-- Inserting a candidate changes the choice to that candidate or not at all. -/
theorem argmax_insert {α β : Type} [LinearOrder β] {rank : α → β} {front back : List α}
    {candidate chosen : α} (top : (front ++ candidate :: back).argmax rank = some chosen) :
    chosen = candidate ∨ (front ++ back).argmax rank = some chosen := by
  induction front generalizing chosen with
  | nil =>
      rw [List.nil_append, List.argmax_cons] at top
      rw [List.nil_append]
      cases rest : back.argmax rank with
      | none =>
          rw [rest] at top
          cases top
          exact .inl rfl
      | some best =>
          simp only [rest] at top
          split at top <;> cases top
          · exact .inr rfl
          · exact .inl rfl
  | cons first front ih =>
      rw [List.cons_append, List.argmax_cons] at top
      rw [List.cons_append, List.argmax_cons]
      cases rest : (front ++ candidate :: back).argmax rank with
      | none => simp at rest
      | some best =>
          simp only [rest] at top
          have before := ih rest
          split at top
          · -- The first element loses to the best of the others.
            rename_i below
            cases top
            rcases before with same | same
            · exact .inl same
            · rw [same]
              exact .inr (if_pos below)
          · rename_i above
            cases top
            right
            cases old : (front ++ back).argmax rank with
            | none => rfl
            | some other =>
                have member : other ∈ front ++ candidate :: back := by
                  have found := List.argmax_mem old
                  simp only [List.mem_append, List.mem_cons] at found ⊢
                  tauto
                have bound : rank other ≤ rank best := List.le_of_mem_argmax member rest
                exact if_neg fun less => above (less.trans_le bound)

/-- `evaluate` filters the rules and takes `max_by` of what is left, which keeps the last of
several maxima. -/
def PolicyCrate.TakesLast (crate : PolicyCrate) : Prop :=
  ∀ (rules : List (CompiledRule crate.Glob)) (input : Text), crate.evaluate rules input =
    (rules.filter fun rule => crate.isMatch rule.glob input).reverse.argmax CompiledRule.rank

variable {crate : PolicyCrate}

theorem evaluate_insert (last : crate.TakesLast) {front back : List (CompiledRule crate.Glob)}
    {rule chosen : CompiledRule crate.Glob} {input : Text}
    (top : crate.evaluate (front ++ rule :: back) input = some chosen) :
    chosen = rule ∨ crate.evaluate (front ++ back) input = some chosen := by
  rw [last, List.filter_append, List.filter_cons] at top
  rw [last, List.filter_append, List.reverse_append]
  split at top
  · rw [List.reverse_append, List.reverse_cons, List.append_assoc] at top
    exact argmax_insert top
  · rw [List.reverse_append] at top
    exact .inr top

/-! ## What the rules deny -/

/-- The rule that decides is a deny rule. -/
def PolicyCrate.Denies (crate : PolicyCrate) (rules : List (CompiledRule crate.Glob))
    (input : Text) : Prop :=
  ∃ rule, crate.evaluate rules input = some rule ∧ rule.action = .deny

theorem denies_insert (last : crate.TakesLast) {front back : List (CompiledRule crate.Glob)}
    {rule : CompiledRule crate.Glob} {input : Text} (deny : rule.action = .deny)
    (before : crate.Denies (front ++ back) input) :
    crate.Denies (front ++ rule :: back) input := by
  obtain ⟨old, top, denies⟩ := before
  cases now : crate.evaluate (front ++ rule :: back) input with
  | none =>
      obtain ⟨member, matched⟩ := crate.evaluate_matches top
      have still : old ∈ front ++ rule :: back := by
        simp only [List.mem_append, List.mem_cons] at member ⊢
        tauto
      rw [crate.evaluate_none now old still] at matched
      cases matched
  | some chosen =>
      rcases evaluate_insert last now with rfl | same
      · exact ⟨_, now, deny⟩
      · rw [top] at same
        cases same
        exact ⟨_, now, denies⟩

/-! ## One more rule -/

/-- The lists agree, or the second has the rule in one place more. -/
def AddsAtMost {α : Type} (rule : α) (before after : List α) : Prop :=
  after = before ∨ ∃ front back, before = front ++ back ∧ after = front ++ rule :: back

theorem AddsAtMost.append {α : Type} {rule : α} {before after : List α} (xs ys : List α)
    (adds : AddsAtMost rule before after) :
    AddsAtMost rule (xs ++ before ++ ys) (xs ++ after ++ ys) := by
  rcases adds with rfl | ⟨front, back, rfl, rfl⟩
  · exact .inl rfl
  · exact .inr ⟨xs ++ front, back ++ ys, by simp, by simp⟩

theorem AddsAtMost.denies (last : crate.TakesLast) {rule : CompiledRule crate.Glob}
    {before after : List (CompiledRule crate.Glob)} {input : Text} (deny : rule.action = .deny)
    (adds : AddsAtMost rule before after) (denied : crate.Denies before input) :
    crate.Denies after input := by
  rcases adds with rfl | ⟨front, back, rfl, rfl⟩
  · exact denied
  · exact denies_insert last deny denied

/-- A deny rule stays one when it is compiled, or it does not compile. -/
theorem AddsAtMost.filterMap_denies (last : crate.TakesLast) {spec : RuleSpec}
    {before after : List RuleSpec} {source : RuleSource} {input : Text}
    (deny : spec.action = .deny) (adds : AddsAtMost spec before after)
    (xs ys : List (CompiledRule crate.Glob))
    (denied : crate.Denies (xs ++ before.filterMap (crate.rule source) ++ ys) input) :
    crate.Denies (xs ++ after.filterMap (crate.rule source) ++ ys) input := by
  rcases adds with rfl | ⟨front, back, rfl, rfl⟩
  · exact denied
  · cases compiled : crate.rule source spec with
    | none =>
        rw [List.filterMap_append] at denied
        rw [List.filterMap_append, List.filterMap_cons_none compiled]
        exact denied
    | some rule =>
        have denies : rule.action = .deny := by
          rw [PolicyCrate.rule, compileRule] at compiled
          split at compiled <;> cases compiled
          exact deny
        rw [List.filterMap_append] at denied
        rw [List.filterMap_append, List.filterMap_cons_some compiled]
        have one : AddsAtMost rule
            (front.filterMap (crate.rule source) ++ back.filterMap (crate.rule source))
            (front.filterMap (crate.rule source) ++ rule :: back.filterMap (crate.rule source)) :=
          .inr ⟨_, _, rfl, rfl⟩
        exact (one.append xs ys).denies last denies denied

/-! ## The decision, for every router and mode -/

/-- One of the two checks, on the domain it reads. -/
def Policy.checkDomain (policy : Policy crate) (domain : CommandDomain crate) (router text : Text) :
    PolicyDecision crate.Glob :=
  match policy.denyDisallowedCharacter text with
  | some decision => decision
  | none => policy.applyAllowlistDenyCarveout (domain.blocklist.rulesFor router) text
      (domain.check policy.commandMode router text)

/-- A deny rule refuses in both modes; the allowlist refuses only in its own. -/
theorem checkDomain_allows_iff {policy : Policy crate} {domain : CommandDomain crate}
    {router text : Text} :
    (policy.checkDomain domain router text).isAllowed = true ↔
      (policy.commandMode = .allowlist → hasDisallowedCharacter text = false ∧
        crate.refusal domain.entries domain.allowedPipes text = none) ∧
      ¬crate.Denies (domain.blocklist.rulesFor router) (crate.normalizeInput text) := by
  have decided : ∀ found : Option (CompiledRule crate.Glob),
      crate.evaluate (domain.blocklist.rulesFor router) (crate.normalizeInput text) = found →
      (crate.Denies (domain.blocklist.rulesFor router) (crate.normalizeInput text) ↔
        ∃ rule, found = some rule ∧ rule.action = .deny) := by
    intro found top
    rw [PolicyCrate.Denies, top]
  unfold Policy.checkDomain Policy.denyDisallowedCharacter Policy.applyAllowlistDenyCarveout
    CommandDomain.check
  cases top : crate.evaluate (domain.blocklist.rulesFor router) (crate.normalizeInput text) with
  | none =>
      rw [decided _ top]
      cases policy.commandMode with
      | blocklist => simp [PolicyDecision.isAllowed]
      | allowlist =>
          cases hasDisallowedCharacter text with
          | true => simp [PolicyDecision.isAllowed]
          | false =>
              cases crate.refusal domain.entries domain.allowedPipes text <;>
                simp [PolicyDecision.isAllowed]
  | some rule =>
      rw [decided _ top]
      cases policy.commandMode with
      | blocklist =>
          by_cases denies : rule.action = .deny <;>
            simp [PolicyDecision.isAllowed, denies]
      | allowlist =>
          cases hasDisallowedCharacter text with
          | true => simp [PolicyDecision.isAllowed]
          | false =>
              by_cases denies : rule.action = .deny <;>
                cases crate.refusal domain.entries domain.allowedPipes text <;>
                  simp [PolicyDecision.isAllowed, denies]

/-- A router of no entry has no keys of its own. -/
def PolicyInventory.ownRules (inventory : PolicyInventory) (router : Text) :
    Option BlocklistRules :=
  (inventory.devices.lookup router).join

theorem compileDefault_ok {mode : CommandMode} {defaults : Option BlocklistRules} {name : Text}
    {policy : CratePolicy crate} (ok : compileDefault crate mode defaults = .ok policy) :
    policy.mode = mode ∧ Holds policy.commands name (commandKeys defaults) (commandKeys none) ∧
      Holds policy.pfeCommands name (pfeKeys defaults) (pfeKeys none) := by
  obtain ⟨commandsRules, commandsOk, ok⟩ := bind_eq_ok.mp ok
  obtain ⟨configRules, _, ok⟩ := bind_eq_ok.mp ok
  obtain ⟨pfeRules, pfeOk, ok⟩ := bind_eq_ok.mp ok
  obtain ⟨allowEntries, allowOk, ok⟩ := bind_eq_ok.mp ok
  obtain ⟨pipeEntries, pipeOk, ok⟩ := bind_eq_ok.mp ok
  obtain ⟨pfeAllowEntries, pfeAllowOk, ok⟩ := bind_eq_ok.mp ok
  obtain ⟨pfePipeEntries, pfePipeOk, ok⟩ := bind_eq_ok.mp ok
  cases ok
  refine ⟨rfl, ⟨compileDomainRules_ok commandsOk (.inr ⟨rfl, rfl⟩), ?_, ?_⟩,
    ⟨compileDomainRules_ok pfeOk (.inr ⟨rfl, rfl⟩), ?_, ?_⟩⟩
  · rw [compileAllowlist_ok allowOk]
    simp [commandKeys, keyOf]
  · rw [compileAllowlist_ok pipeOk]
    simp [commandKeys, keyOf]
  · rw [compileAllowlist_ok pfeAllowOk]
    simp [pfeKeys, keyOf]
  · rw [compileAllowlist_ok pfePipeOk]
    simp [pfeKeys, keyOf]

theorem perDevice_lookup_none {mode : CommandMode} {defaults : Option BlocklistRules}
    {devices : List (Text × Option BlocklistRules)} {entries : List (Text × CratePolicy crate)}
    (all : List.Forall₂ (fun device entry => (do
      let compiled ← compileDevice crate mode defaults device.1 device.2
      return (device.1, compiled)) = Except.ok entry) devices entries)
    {router : Text} (unlisted : devices.lookup router = none) : entries.lookup router = none := by
  induction all with
  | nil => rfl
  | @cons device entry devices entries head _ ih =>
      obtain ⟨compiled, here, head⟩ := bind_eq_ok.mp head
      cases head
      rw [List.lookup_cons] at unlisted ⊢
      split at unlisted
      · cases unlisted
      · exact ih unlisted

theorem policyFor_ok {inventory : PolicyInventory} {policy : Policy crate}
    (built : Policy.build crate inventory = .ok policy) (router : Text) :
    policy.commandMode = effectiveCommandMode inventory ∧
      (policy.policyFor router).mode = effectiveCommandMode inventory ∧
      Holds (policy.policyFor router).commands router (commandKeys inventory.blocklistDefaults)
        (commandKeys (inventory.ownRules router)) ∧
      Holds (policy.policyFor router).pfeCommands router (pfeKeys inventory.blocklistDefaults)
        (pfeKeys (inventory.ownRules router)) := by
  cases listed : inventory.devices.lookup router with
  | some own =>
      obtain ⟨mode, device⟩ := policyFor_listed built listed
      rw [PolicyInventory.ownRules, listed]
      exact ⟨mode, compileDevice_ok device⟩
  | none =>
      rw [PolicyInventory.ownRules, listed]
      obtain ⟨perDevice, each, built⟩ := bind_eq_ok.mp built
      obtain ⟨defaultPolicy, defaultOk, built⟩ := bind_eq_ok.mp built
      cases built
      have unlisted := perDevice_lookup_none (mapM_ok_forall₂ each) listed
      rw [Policy.policyFor, unlisted]
      exact ⟨rfl, compileDefault_ok defaultOk⟩

/-! ## The extended inventory -/

inductive PolicyDomain where
  | commands
  | config
  | pfeCommands
  deriving DecidableEq

def insertAt {α : Type} (xs : List α) (position : Nat) (x : α) : List α :=
  xs.take position ++ x :: xs.drop position

theorem insertAt_adds {α : Type} (xs : List α) (position : Nat) (x : α) :
    AddsAtMost x xs (insertAt xs position x) :=
  .inr ⟨xs.take position, xs.drop position, (List.take_append_drop position xs).symm, rfl⟩

def BlocklistRules.insertRule (rules : BlocklistRules) (domain : PolicyDomain) (position : Nat)
    (rule : RuleSpec) : BlocklistRules :=
  match domain with
  | .commands => { rules with commands := insertAt rules.commands position rule }
  | .config => { rules with config := insertAt rules.config position rule }
  | .pfeCommands => { rules with pfeCommands := insertAt rules.pfeCommands position rule }

/-- A block that is absent starts empty. -/
def withRule (rules : Option BlocklistRules) (domain : PolicyDomain) (position : Nat)
    (rule : RuleSpec) : Option BlocklistRules :=
  some ((rules.getD noRules).insertRule domain position rule)

inductive RulePlace where
  | defaults
  | device (name : Text)

def withDeviceRule (devices : List (Text × Option BlocklistRules)) (name : Text)
    (domain : PolicyDomain) (position : Nat) (rule : RuleSpec) :
    List (Text × Option BlocklistRules) :=
  devices.map fun device =>
    (device.1, if device.1 = name then withRule device.2 domain position rule else device.2)

/-- The inventory with one rule more, anywhere in one list of the defaults or of one device. -/
def PolicyInventory.addRule (inventory : PolicyInventory) (place : RulePlace)
    (domain : PolicyDomain) (position : Nat) (rule : RuleSpec) : PolicyInventory :=
  match place with
  | .defaults => { inventory with
      blocklistDefaults := withRule inventory.blocklistDefaults domain position rule }
  | .device name => {
      devices := withDeviceRule inventory.devices name domain position rule
      blocklistDefaults := inventory.blocklistDefaults
      sorted := by
        have names : (withDeviceRule inventory.devices name domain position rule).map Prod.fst =
            inventory.devices.map Prod.fst := by
          simp [withDeviceRule, Function.comp_def]
        rw [names]
        exact inventory.sorted }

/-- The mode does not depend on whether a first rule is added. -/
def PolicyInventory.modeSettled (inventory : PolicyInventory) : Bool :=
  (inventory.blocklistDefaults.bind (·.mode)).isSome || hasRules inventory.blocklistDefaults ||
    inventory.devices.any fun device => hasRules device.2

section Extended
variable {rules : Option BlocklistRules} {domain : PolicyDomain} {position : Nat} {rule : RuleSpec}

theorem withRule_hasRules : hasRules (withRule rules domain position rule) = true := by
  cases domain <;> simp [hasRules, withRule, BlocklistRules.insertRule, keyOf, insertAt]

theorem withRule_mode : (withRule rules domain position rule).bind (·.mode) =
    rules.bind (·.mode) := by
  cases rules <;> cases domain <;> rfl

/-- The keys of one domain after a rule was added to the block, in this domain or another. -/
structure KeysAdd (rule : RuleSpec) (before after : DomainKeys) : Prop where
  rules : AddsAtMost rule before.rules after.rules
  allow : after.allow = before.allow
  allowedPipes : after.allowedPipes = before.allowedPipes

theorem KeysAdd.refl (keys : DomainKeys) : KeysAdd rule keys keys := ⟨.inl rfl, rfl, rfl⟩

theorem withRule_commandKeys :
    KeysAdd rule (commandKeys rules) (commandKeys (withRule rules domain position rule)) := by
  cases rules <;> cases domain
  all_goals
    refine ⟨?_, rfl, rfl⟩
    first
      | exact insertAt_adds _ position rule
      | exact .inl rfl

theorem withRule_pfeKeys :
    KeysAdd rule (pfeKeys rules) (pfeKeys (withRule rules domain position rule)) := by
  cases rules <;> cases domain
  all_goals
    refine ⟨?_, rfl, rfl⟩
    first
      | exact insertAt_adds _ position rule
      | exact .inl rfl

theorem withDeviceRule_lookup (devices : List (Text × Option BlocklistRules))
    (name router : Text) :
    (withDeviceRule devices name domain position rule).lookup router =
      if router = name then
        (devices.lookup router).map fun own => withRule own domain position rule
      else devices.lookup router := by
  induction devices with
  | nil => simp [withDeviceRule]
  | cons device devices ih =>
      rw [withDeviceRule, List.map_cons, List.lookup_cons, List.lookup_cons]
      by_cases here : router = device.1
      · subst here
        rw [beq_self_eq_true]
        by_cases named : device.1 = name <;> simp [named]
      · have different : (router == device.1) = false := by simpa using here
        rw [different]
        exact ih

variable {inventory : PolicyInventory} {place : RulePlace}

theorem addRule_mode (settled : inventory.modeSettled = true) :
    effectiveCommandMode (inventory.addRule place domain position rule) =
      effectiveCommandMode inventory := by
  have sameMode : (inventory.addRule place domain position rule).blocklistDefaults.bind (·.mode) =
      inventory.blocklistDefaults.bind (·.mode) := by
    cases place with
    | defaults => exact withRule_mode
    | device name => rfl
  rw [effectiveCommandMode, effectiveCommandMode, sameMode]
  rw [PolicyInventory.modeSettled] at settled
  cases mode : inventory.blocklistDefaults.bind (·.mode) with
  | some mode => rfl
  | none =>
      rw [mode, Option.isSome_none, Bool.false_or] at settled
      have still : (hasRules (inventory.addRule place domain position rule).blocklistDefaults ||
          (inventory.addRule place domain position rule).devices.any
            fun device => hasRules device.2) = true := by
        cases place with
        | defaults => simp [PolicyInventory.addRule, withRule_hasRules]
        | device name =>
            simp only [PolicyInventory.addRule, withDeviceRule, Bool.or_eq_true, List.any_map]
            rw [Bool.or_eq_true] at settled
            refine settled.imp_right fun some_has => ?_
            obtain ⟨device, member, has⟩ := List.any_eq_true.mp some_has
            refine List.any_eq_true.mpr ⟨device, member, ?_⟩
            by_cases named : device.1 = name <;> simp [named, has, withRule_hasRules]
      simp [settled, still]

/-- Adding a rule adds it at most once to what a router's domain is compiled from. -/
theorem addRule_keys (keys : Option BlocklistRules → DomainKeys)
    (adds : ∀ rules, KeysAdd rule (keys rules) (keys (withRule rules domain position rule)))
    (router : Text) :
    (KeysAdd rule (keys inventory.blocklistDefaults)
        (keys (inventory.addRule place domain position rule).blocklistDefaults) ∧
      keys ((inventory.addRule place domain position rule).ownRules router) =
        keys (inventory.ownRules router)) ∨
    (keys (inventory.addRule place domain position rule).blocklistDefaults =
        keys inventory.blocklistDefaults ∧
      KeysAdd rule (keys (inventory.ownRules router))
        (keys ((inventory.addRule place domain position rule).ownRules router))) := by
  cases place with
  | defaults => exact .inl ⟨adds _, rfl⟩
  | device name =>
      refine .inr ⟨rfl, ?_⟩
      have found := @withDeviceRule_lookup domain position rule inventory.devices name router
      rw [PolicyInventory.ownRules, PolicyInventory.ownRules, PolicyInventory.addRule, found]
      split
      · cases inventory.devices.lookup router with
        | none => exact .refl _
        | some own => exact adds own
      · exact .refl _

end Extended

/-! ## Restriction -/

/-- What a domain refused, it refuses with a deny rule more, on either side. -/
theorem Holds.restricts (last : crate.TakesLast) {policy extended : Policy crate}
    {domain extendedDomain : CommandDomain crate} {router text : Text} {rule : RuleSpec}
    {defaults own newDefaults newOwn : DomainKeys} (deny : rule.action = .deny)
    (sameMode : extended.commandMode = policy.commandMode)
    (holds : Holds domain router defaults own)
    (newHolds : Holds extendedDomain router newDefaults newOwn)
    (adds : (KeysAdd rule defaults newDefaults ∧ newOwn = own) ∨
      (newDefaults = defaults ∧ KeysAdd rule own newOwn))
    (allowed : (extended.checkDomain extendedDomain router text).isAllowed = true) :
    (policy.checkDomain domain router text).isAllowed = true := by
  obtain ⟨admitted, permitted⟩ := checkDomain_allows_iff.mp allowed
  have sameAllow : newDefaults.allow ++ newOwn.allow = defaults.allow ++ own.allow := by
    rcases adds with ⟨more, rfl⟩ | ⟨rfl, more⟩ <;> rw [more.allow]
  have samePipes : newDefaults.allowedPipes ++ newOwn.allowedPipes =
      defaults.allowedPipes ++ own.allowedPipes := by
    rcases adds with ⟨more, rfl⟩ | ⟨rfl, more⟩ <;> rw [more.allowedPipes]
  refine checkDomain_allows_iff.mpr ⟨fun allowlist => ?_, fun denied => permitted ?_⟩
  · obtain ⟨printable, accepted⟩ := admitted (sameMode.trans allowlist)
    rw [newHolds.entries, newHolds.allowedPipes, sameAllow, samePipes] at accepted
    rw [holds.entries, holds.allowedPipes]
    exact ⟨printable, accepted⟩
  · rw [holds.rules, PolicyCrate.rules] at denied
    rw [newHolds.rules, PolicyCrate.rules]
    rcases adds with ⟨more, rfl⟩ | ⟨rfl, more⟩
    · exact more.rules.filterMap_denies last deny [] _ denied
    · have denied := more.rules.filterMap_denies last deny _ [] (by simpa using denied)
      simpa using denied

section Restriction
variable {inventory : PolicyInventory} {policy extended : Policy crate} {rule : RuleSpec}
  {place : RulePlace} {domain : PolicyDomain} {position : Nat}

theorem checkCommand_eq (built : Policy.build crate inventory = .ok policy) (router text : Text) :
    policy.checkCommand router text =
      policy.checkDomain (policy.policyFor router).commands router text := by
  obtain ⟨mode, deviceMode, _⟩ := policyFor_ok built router
  cases refused : policy.denyDisallowedCharacter text with
  | none => simp only [Policy.checkCommand, Policy.checkDomain, mode, deviceMode, refused]
  | some decision => simp only [Policy.checkCommand, Policy.checkDomain, refused]

theorem checkPfeCommand_eq (built : Policy.build crate inventory = .ok policy)
    (router text : Text) :
    policy.checkPfeCommand router text =
      policy.checkDomain (policy.policyFor router).pfeCommands router text := by
  obtain ⟨mode, deviceMode, _⟩ := policyFor_ok built router
  cases refused : policy.denyDisallowedCharacter text with
  | none => simp only [Policy.checkPfeCommand, Policy.checkDomain, mode, deviceMode, refused]
  | some decision => simp only [Policy.checkPfeCommand, Policy.checkDomain, refused]

/-- Once the mode is settled, a deny rule in any list of any block only refuses more. -/
theorem deny_rule_only_restricts (last : crate.TakesLast)
    (settled : inventory.modeSettled = true) (deny : rule.action = .deny)
    (built : Policy.build crate inventory = .ok policy)
    (extendedBuilt :
      Policy.build crate (inventory.addRule place domain position rule) = .ok extended)
    (router text : Text) :
    ((extended.checkCommand router text).isAllowed = true →
      (policy.checkCommand router text).isAllowed = true) ∧
    ((extended.checkPfeCommand router text).isAllowed = true →
      (policy.checkPfeCommand router text).isAllowed = true) := by
  obtain ⟨mode, _, commands, pfe⟩ := policyFor_ok built router
  obtain ⟨newMode, _, newCommands, newPfe⟩ := policyFor_ok extendedBuilt router
  have sameMode : extended.commandMode = policy.commandMode := by
    rw [newMode, mode]
    exact addRule_mode settled
  rw [checkCommand_eq built, checkCommand_eq extendedBuilt, checkPfeCommand_eq built,
    checkPfeCommand_eq extendedBuilt]
  constructor
  · exact commands.restricts last deny sameMode newCommands
      (addRule_keys commandKeys (fun _ => withRule_commandKeys) router)
  · exact pfe.restricts last deny sameMode newPfe
      (addRule_keys pfeKeys (fun _ => withRule_pfeKeys) router)

end Restriction

/-! ## Two files -/

/-- The engine with the documented choice among equally specific rules. -/
def lastCrate : PolicyCrate := { prefixCrate with
  evaluate := fun rules input => (matching rules input).reverse.argmax CompiledRule.rank
  evaluate_matches := fun found =>
    List.mem_filter.mp (List.mem_reverse.mp (List.argmax_mem found))
  evaluate_most_specific := fun found member matched =>
    List.le_of_mem_argmax (List.mem_reverse.mpr (List.mem_filter.mpr ⟨member, matched⟩)) found
  evaluate_none := fun none_found rule member => by
    have empty := List.reverse_eq_nil_iff.mp (List.argmax_eq_none.mp none_found)
    exact Bool.eq_false_iff.mpr (List.filter_eq_nil_iff.mp empty rule member) }

theorem lastCrate_takesLast : lastCrate.TakesLast := fun _ _ => rfl

def rebootRule : RuleSpec := ⟨.deny, "request system reboot*".toList⟩

/-- Two routers, no `mode`, no rules: the allowlist of the file is in force. -/
def withoutMode : PolicyInventory where
  devices := [("r1".toList, none), ("r2".toList, none)]
  blocklistDefaults := some { noRules with allow := ["show version".toList] }
  sorted := by decide

/-- One router's first deny rule lets the other router be halted. -/
theorem first_deny_rule_opens_other_router :
    ∃ policy extended, Policy.build lastCrate withoutMode = .ok policy ∧
      Policy.build lastCrate
        (withoutMode.addRule (.device "r1".toList) .commands 0 rebootRule) = .ok extended ∧
      (policy.checkCommand "r2".toList "request system halt".toList).isAllowed = false ∧
      (extended.checkCommand "r2".toList "request system halt".toList).isAllowed = true :=
  ⟨_, _, rfl, rfl, rfl, rfl⟩

def haltRule : RuleSpec := ⟨.deny, "request system halt*".toList⟩

/-- On a file with a mode, what passes the added rule passed without it. -/
theorem deny_rule_restricts_twoRouters :
    ∃ policy extended, Policy.build lastCrate twoRouters = .ok policy ∧
      Policy.build lastCrate
        (twoRouters.addRule (.device "r1".toList) .commands 0 haltRule) = .ok extended ∧
      (extended.checkCommand "r1".toList "request system halt".toList).isAllowed = false ∧
      (policy.checkCommand "r1".toList "request system storage".toList).isAllowed = true := by
  obtain ⟨policy, built⟩ : ∃ policy, Policy.build lastCrate twoRouters = .ok policy := ⟨_, rfl⟩
  obtain ⟨extended, extendedBuilt, refused, passed⟩ : ∃ extended, Policy.build lastCrate
      (twoRouters.addRule (.device "r1".toList) .commands 0 haltRule) = .ok extended ∧
      (extended.checkCommand "r1".toList "request system halt".toList).isAllowed = false ∧
      (extended.checkCommand "r1".toList "request system storage".toList).isAllowed = true :=
    ⟨_, rfl, rfl, rfl⟩
  exact ⟨policy, extended, built, extendedBuilt, refused,
    (deny_rule_only_restricts lastCrate_takesLast rfl rfl built extendedBuilt _ _).1 passed⟩

end JunosMcp
