import JunosMcp.Srx.NatHitCounts

/-!
# What the list of translation rules leaves out

Every rule of every rule-set is listed, with its place. What stands in its selectors and in its match
is represented exactly where each selector has a text of its own, each container comes once, and each
address element names one address.
-/

namespace JunosMcp.Srx.ListNatRules

open Lib

variable {α : Type}

/-! ## Selectors -/

/-- The elements of every `from`, or of every `to`, of a rule-set. -/
def selectorElements (tag : String) (ruleSet : XmlNode) : List XmlNode :=
  (ruleSet.childrenNamed tag).flatMap XmlNode.elements

/-- The selector an element stands for, by its tag and its text. -/
def IsSelector (child : XmlNode) (selector : NatZoneOrInterface) : Prop :=
  ∃ name, child.ownText = some name ∧
    (child.named "zone".toList = true ∧ selector = .zone name ∨
      child.named "interface".toList = true ∧ selector = .interface name ∨
      child.named "routing-instance".toList = true ∧ selector = .routingInstance name)

/-- One container has the selectors, and each of them has a text. -/
structure SelectorsWhole (tag : String) (ruleSet : XmlNode) : Prop where
  once : ∀ container ∈ (ruleSet.childrenNamed tag).tail, container.elements = []
  named : ∀ child ∈ selectorElements tag ruleSet, child.ownText.isSome = true

theorem parseSelector_isSelector {tag : Text} {child : XmlNode} {selector : NatZoneOrInterface}
    (ok : parseSelector tag child = .ok selector) :
    IsSelector child selector ↔ child.ownText.isSome = true := by
  constructor
  · rintro ⟨name, named, -⟩
    rw [named]
    rfl
  · intro has
    obtain ⟨name, named⟩ := Option.isSome_iff_exists.mp has
    have text : Text.trim (child.leadingText.getD []) = name := by
      rw [XmlNode.ownText, Option.filter_eq_some_iff] at named
      obtain ⟨leading, found, rfl⟩ := Option.map_eq_some_iff.mp named.1
      rw [found]
      rfl
    refine ⟨name, named, ?_⟩
    rw [parseSelector, text] at ok
    split at ok
    · next zone =>
        cases ok
        exact .inl ⟨zone, rfl⟩
    · split at ok
      · next interface =>
          cases ok
          exact .inr (.inl ⟨interface, rfl⟩)
      · split at ok
        · next instance_ =>
            cases ok
            exact .inr (.inr ⟨instance_, rfl⟩)
        · cases ok

/-- The selectors of the first container, against those of all. -/
theorem parseZoneSelectorList_iff {tag : String} {ruleSet container : XmlNode}
    {selectors : List NatZoneOrInterface} (first : ruleSet.firstChild tag = some container)
    (ok : parseZoneSelectorList container = .ok selectors) :
    List.Forall₂ IsSelector (selectorElements tag ruleSet) selectors ↔
      SelectorsWhole tag ruleSet := by
  obtain ⟨read, all, ok⟩ := bind_eq_ok.mp ok
  have same : selectors = read := by
    split at ok
    · cases ok
    · cases ok
      rfl
  subst same
  rw [XmlNode.firstChild_eq_head?] at first
  obtain ⟨others, containers⟩ := List.head?_eq_some_iff.mp first
  have elements : selectorElements tag ruleSet =
      container.elements ++ others.flatMap XmlNode.elements := by
    rw [selectorElements, containers, List.flatMap_cons]
  have reads := mapM_ok_forall₂ all
  rw [elements, forall₂_append_left_iff reads,
    forall₂_iff_forall_mem reads fun child selector => parseSelector_isSelector,
    List.flatMap_eq_nil_iff]
  constructor
  · rintro ⟨once, named⟩
    refine ⟨by rwa [containers], ?_⟩
    rw [elements, List.flatMap_eq_nil_iff.mpr once, List.append_nil]
    exact named
  · intro whole
    have once := whole.once
    have named := whole.named
    rw [containers] at once
    rw [elements] at named
    exact ⟨once, fun child inside => named child (List.mem_append_left _ inside)⟩

theorem parseFrom_iff {ruleSet : XmlNode} {selectors : List NatZoneOrInterface}
    (ok : parseFrom ruleSet = .ok selectors) :
    List.Forall₂ IsSelector (selectorElements "from" ruleSet) selectors ↔
      SelectorsWhole "from" ruleSet := by
  obtain ⟨container, first, ok⟩ := bind_eq_ok.mp ok
  exact parseZoneSelectorList_iff (required_ok first) ok

theorem parseTo_iff {ruleSet : XmlNode} {selectors : List NatZoneOrInterface}
    (ok : parseTo ruleSet = .ok selectors) :
    List.Forall₂ IsSelector (selectorElements "to" ruleSet) selectors ↔
      SelectorsWhole "to" ruleSet := by
  rw [parseTo] at ok
  cases first : ruleSet.firstChild "to" with
  | some container =>
      rw [first] at ok
      exact parseZoneSelectorList_iff first ok
  | none =>
      rw [first] at ok
      cases ok
      have none : ruleSet.childrenNamed "to" = [] := by
        rw [XmlNode.firstChild_eq_head?] at first
        exact List.head?_eq_none_iff.mp first
      have elements : selectorElements "to" ruleSet = [] := by
        rw [selectorElements, none, List.flatMap_nil]
      rw [elements]
      refine iff_of_true .nil ⟨?_, ?_⟩
      · rw [none]
        simp
      · rw [elements]
        simp

/-! ## Matches -/

def matchContainers (containerTags : List Text) (rule : XmlNode) : List XmlNode :=
  rule.elements.filter fun child => child.tagName ∈ containerTags

/-- The elements of every match container of a rule. -/
def matchElements (containerTags : List Text) (rule : XmlNode) : List XmlNode :=
  (matchContainers containerTags rule).flatMap XmlNode.elements

inductive MatchField where
  | sourceAddress
  | destinationAddress
  | application
  | sourcePort
  | destinationPort
  | protocol
deriving DecidableEq

/-- The field an element of this tag belongs in. -/
def fieldOf (tag : Text) : Option MatchField :=
  if tag = "source-address".toList ∨ tag = "source-address-name".toList then some .sourceAddress
  else if tag = "destination-address".toList ∨ tag = "destination-address-name".toList then
    some .destinationAddress
  else if tag = "application".toList then some .application
  else if tag = "source-port".toList then some .sourcePort
  else if tag = "destination-port".toList then some .destinationPort
  else if tag = "protocol".toList then some .protocol
  else none

def inField (field : MatchField) (child : XmlNode) : Bool := fieldOf child.tagName == some field

/-- The addresses an element names: its text, and the elements inside it. -/
def addressesNamed (child : XmlNode) : List Text :=
  child.ownText.toList ++
    (if child.tagName = "source-address".toList then
      (child.childrenNamed "src-addr").filterMap XmlNode.ownText
    else if child.tagName = "destination-address".toList then
      (child.childrenNamed "dst-addr").filterMap XmlNode.ownText
    else [])

/-- The texts of the bounds of a port match. -/
def portTexts (child : XmlNode) : Option (Text × Text) :=
  match child.ownText with
  | some text =>
      if '-' ∈ text then
        some (Text.trim (text.takeWhile (· != '-')),
          Text.trim ((text.dropWhile (· != '-')).drop 1))
      else some (Text.trim text, Text.trim text)
  | none => match child.childText "low", child.childText "high" with
      | some low, some high => some (low, high)
      | _, _ => none

def IsPort (child : XmlNode) (port : NatPortMatch) : Prop :=
  ∃ low high, portTexts child = some (low, high) ∧ parseUnsigned 16 low = some port.low ∧
    parseUnsigned 16 high = some port.high

/-- The elements of a field are represented in it, each in its place. -/
def Represented (elements : List XmlNode) (m : NatMatch) : MatchField → Prop
  | .sourceAddress => m.sourceAddresses = elements.flatMap addressesNamed ∧
      ∀ child ∈ elements, addressesNamed child ≠ []
  | .destinationAddress => m.destinationAddresses = elements.flatMap addressesNamed ∧
      ∀ child ∈ elements, addressesNamed child ≠ []
  | .application => List.Forall₂ (fun child text => child.ownText = some text) elements
      m.applications
  | .sourcePort => List.Forall₂ IsPort elements m.sourcePorts
  | .destinationPort => List.Forall₂ IsPort elements m.destinationPorts
  | .protocol => List.Forall₂ (fun child text => child.ownText = some text) elements m.protocols

/-- Every element is represented in the field of its kind. -/
structure IsMatch (elements : List XmlNode) (m : NatMatch) : Prop where
  known : ∀ child ∈ elements, (fieldOf child.tagName).isSome = true
  represented : ∀ field, Represented (elements.filter (inField field)) m field

/-- The same, with the first address of each address element only. -/
def EntriesRead (elements : List XmlNode) (m : NatMatch) : MatchField → Prop
  | .sourceAddress => List.Forall₂ (fun child text => (addressesNamed child).head? = some text)
      elements m.sourceAddresses
  | .destinationAddress => List.Forall₂ (fun child text => (addressesNamed child).head? = some text)
      elements m.destinationAddresses
  | .application => List.Forall₂ (fun child text => child.ownText = some text) elements
      m.applications
  | .sourcePort => List.Forall₂ IsPort elements m.sourcePorts
  | .destinationPort => List.Forall₂ IsPort elements m.destinationPorts
  | .protocol => List.Forall₂ (fun child text => child.ownText = some text) elements m.protocols

structure ReadsMatch (elements : List XmlNode) (m : NatMatch) : Prop where
  known : ∀ child ∈ elements, (fieldOf child.tagName).isSome = true
  read : ∀ field, EntriesRead (elements.filter (inField field)) m field

/-- One match container has the criteria, and no element names two addresses. -/
structure MatchWhole (containerTags : List Text) (rule : XmlNode) : Prop where
  once : ∀ container ∈ (matchContainers containerTags rule).tail, container.elements = []
  single : ∀ child ∈ matchElements containerTags rule, (addressesNamed child).length ≤ 1

theorem matchText_ok {message : String} {child : XmlNode} {text : Text}
    (ok : matchText message child = .ok text) : child.ownText = some text := by
  unfold matchText at ok
  split at ok
  · next found =>
      cases ok
      exact found
  · cases ok

theorem parsePort_ok {what : String} {shown text : Text} {port : Nat}
    (ok : parsePort what shown text = .ok port) : parseUnsigned 16 text = some port := by
  unfold parsePort at ok
  split at ok
  · next found =>
      cases ok
      exact found
  · cases ok

theorem parseNatPort_ok {child : XmlNode} {port : NatPortMatch}
    (ok : parseNatPort child = .ok port) : IsPort child port := by
  unfold parseNatPort at ok
  unfold IsPort portTexts
  cases own : child.ownText with
  | some text =>
      rw [own] at ok
      dsimp only at ok ⊢
      split at ok
      · next range =>
          obtain ⟨low, readLow, ok⟩ := bind_eq_ok.mp ok
          obtain ⟨high, readHigh, ok⟩ := bind_eq_ok.mp ok
          cases ok
          rw [if_pos range]
          exact ⟨_, _, rfl, parsePort_ok readLow, parsePort_ok readHigh⟩
      · next single =>
          obtain ⟨number, read, ok⟩ := bind_eq_ok.mp ok
          cases ok
          rw [if_neg single]
          exact ⟨_, _, rfl, parsePort_ok read, parsePort_ok read⟩
  | none =>
      rw [own] at ok
      dsimp only at ok ⊢
      cases hasLow : child.childText "low" with
      | none =>
          rw [hasLow] at ok
          cases ok
      | some low =>
          cases hasHigh : child.childText "high" with
          | none =>
              rw [hasLow, hasHigh] at ok
              cases ok
          | some high =>
              rw [hasLow, hasHigh] at ok
              obtain ⟨lowPort, readLow, ok⟩ := bind_eq_ok.mp ok
              obtain ⟨highPort, readHigh, ok⟩ := bind_eq_ok.mp ok
              cases ok
              exact ⟨low, high, rfl, parsePort_ok readLow, parsePort_ok readHigh⟩

theorem childText_eq_head (name : String) (node : XmlNode) :
    node.childText name = (node.childrenNamed name).head?.bind XmlNode.ownText := by
  rw [← XmlNode.firstChild_eq_head?]
  unfold XmlNode.childText XmlNode.firstChild
  cases node.child name.toList <;> rfl

/-- The address that is read of an element is the first it names. -/
theorem parseMatchAddress_ok {innerTag : String} {child : XmlNode} {text : Text}
    (ok : parseMatchAddress innerTag child = .ok text) :
    (child.ownText.toList ++ (child.childrenNamed innerTag).filterMap XmlNode.ownText).head? =
      some text := by
  unfold parseMatchAddress at ok
  split at ok
  · next own =>
      cases ok
      rw [own]
      rfl
  · next own =>
      rw [own, Option.toList_none, List.nil_append]
      split at ok
      · next inner =>
          cases ok
          rw [childText_eq_head] at inner
          obtain ⟨first, head, named⟩ := Option.bind_eq_some_iff.mp inner
          obtain ⟨others, shape⟩ := List.head?_eq_some_iff.mp head
          rw [shape, List.filterMap_cons_some named]
          rfl
      · cases ok

/-- One element more, which only its own field gets an entry for. -/
theorem ReadsMatch.add {done : List XmlNode} {m m' : NatMatch} {child : XmlNode}
    {field : MatchField} (reads : ReadsMatch done m) (is : fieldOf child.tagName = some field)
    (others : ∀ other, other ≠ field → ∀ xs, EntriesRead xs m other → EntriesRead xs m' other)
    (here : ∀ xs, EntriesRead xs m field → EntriesRead (xs ++ [child]) m' field) :
    ReadsMatch (done ++ [child]) m' where
  known := by
    rw [List.forall_mem_append, List.forall_mem_singleton, is]
    exact ⟨reads.known, rfl⟩
  read other := by
    rw [List.filter_append]
    by_cases same : other = field
    · subst same
      rw [List.filter_cons_of_pos (by rw [inField, is]; exact beq_self_eq_true _), List.filter_nil]
      exact here _ (reads.read _)
    · have skipped : inField other child = false := by
        rw [inField, is]
        simpa using Ne.symm same
      rw [List.filter_cons_of_neg (by simp [skipped]), List.filter_nil, List.append_nil]
      exact others other same _ (reads.read other)

theorem addressesNamed_of_text {child : XmlNode} {text : Text} (own : child.ownText = some text) :
    (addressesNamed child).head? = some text := by
  rw [addressesNamed, own]
  rfl

/-- The step of the loop. -/
theorem addMatch_reads {done : List XmlNode} {m m' : NatMatch} {child : XmlNode}
    (reads : ReadsMatch done m) (ok : addMatch m child = .ok m') :
    ReadsMatch (done ++ [child]) m' := by
  unfold addMatch at ok
  dsimp only at ok
  split at ok
  · cases ok
  split at ok
  · next tag =>
      obtain ⟨text, read, ok⟩ := bind_eq_ok.mp ok
      cases ok
      have named : (addressesNamed child).head? = some text := by
        rw [addressesNamed, if_pos tag]
        exact parseMatchAddress_ok read
      refine @ReadsMatch.add _ _ _ _ .sourceAddress reads (by rw [tag]; rfl) ?_
        fun xs before => List.rel_append before (.cons named .nil)
      intro other apart xs before
      cases other <;> first | exact before | exact absurd rfl apart
  split at ok
  · next tag =>
      obtain ⟨text, read, ok⟩ := bind_eq_ok.mp ok
      cases ok
      have named := addressesNamed_of_text (matchText_ok read)
      refine @ReadsMatch.add _ _ _ _ .sourceAddress reads (by rw [tag]; rfl) ?_
        fun xs before => List.rel_append before (.cons named .nil)
      intro other apart xs before
      cases other <;> first | exact before | exact absurd rfl apart
  split at ok
  · next tag =>
      obtain ⟨text, read, ok⟩ := bind_eq_ok.mp ok
      cases ok
      have named : (addressesNamed child).head? = some text := by
        rw [addressesNamed, if_neg (by rw [tag]; decide), if_pos tag]
        exact parseMatchAddress_ok read
      refine @ReadsMatch.add _ _ _ _ .destinationAddress reads (by rw [tag]; rfl) ?_
        fun xs before => List.rel_append before (.cons named .nil)
      intro other apart xs before
      cases other <;> first | exact before | exact absurd rfl apart
  split at ok
  · next tag =>
      obtain ⟨text, read, ok⟩ := bind_eq_ok.mp ok
      cases ok
      have named := addressesNamed_of_text (matchText_ok read)
      refine @ReadsMatch.add _ _ _ _ .destinationAddress reads (by rw [tag]; rfl) ?_
        fun xs before => List.rel_append before (.cons named .nil)
      intro other apart xs before
      cases other <;> first | exact before | exact absurd rfl apart
  split at ok
  · next tag =>
      obtain ⟨text, read, ok⟩ := bind_eq_ok.mp ok
      cases ok
      refine @ReadsMatch.add _ _ _ _ .application reads (by rw [tag]; rfl) ?_
        fun xs before => List.rel_append before (.cons (matchText_ok read) .nil)
      intro other apart xs before
      cases other <;> first | exact before | exact absurd rfl apart
  split at ok
  · next tag =>
      obtain ⟨port, read, ok⟩ := bind_eq_ok.mp ok
      cases ok
      refine @ReadsMatch.add _ _ _ _ .sourcePort reads (by rw [tag]; rfl) ?_
        fun xs before => List.rel_append before (.cons (parseNatPort_ok read) .nil)
      intro other apart xs before
      cases other <;> first | exact before | exact absurd rfl apart
  split at ok
  · next tag =>
      obtain ⟨port, read, ok⟩ := bind_eq_ok.mp ok
      cases ok
      refine @ReadsMatch.add _ _ _ _ .destinationPort reads (by rw [tag]; rfl) ?_
        fun xs before => List.rel_append before (.cons (parseNatPort_ok read) .nil)
      intro other apart xs before
      cases other <;> first | exact before | exact absurd rfl apart
  rename_i known sourceAddress sourceName destinationAddress destinationName application sourcePort
    destinationPort
  have tag : child.tagName = "protocol".toList := by
    have member := not_not.mp known
    simp only [knownMatchChildren, List.mem_cons, List.not_mem_nil, or_false] at member
    exact ((((((member.resolve_left sourceAddress).resolve_left sourceName).resolve_left
      destinationAddress).resolve_left destinationName).resolve_left application).resolve_left
      sourcePort).resolve_left destinationPort
  obtain ⟨text, read, ok⟩ := bind_eq_ok.mp ok
  cases ok
  refine @ReadsMatch.add _ _ _ _ .protocol reads (by rw [tag]; rfl) ?_
    fun xs before => List.rel_append before (.cons (matchText_ok read) .nil)
  intro other apart xs before
  cases other <;> first | exact before | exact absurd rfl apart

/-- The whole loop. -/
theorem addMatch_foldlM {rest : List XmlNode} : ∀ {done : List XmlNode} {m m' : NatMatch},
    ReadsMatch done m → rest.foldlM addMatch m = .ok m' → ReadsMatch (done ++ rest) m' := by
  induction rest with
  | nil =>
      intro done m m' reads ok
      cases ok
      rwa [List.append_nil]
  | cons child rest ih =>
      intro done m m' reads ok
      obtain ⟨next, head, ok⟩ := foldlM_cons_ok.mp ok
      have later := ih (addMatch_reads reads head) ok
      rwa [List.append_assoc] at later

theorem addressesNamed_length {child : XmlNode} {field : MatchField}
    (is : fieldOf child.tagName = some field) (source : field ≠ .sourceAddress)
    (destination : field ≠ .destinationAddress) : (addressesNamed child).length ≤ 1 := by
  have notSource : child.tagName ≠ "source-address".toList := by
    intro tag
    rw [tag] at is
    exact source (Option.some.inj is).symm
  have notDestination : child.tagName ≠ "destination-address".toList := by
    intro tag
    rw [tag] at is
    exact destination (Option.some.inj is).symm
  rw [addressesNamed, if_neg notSource, if_neg notDestination, List.append_nil]
  cases child.ownText <;> simp

/-- The entries of some elements represent them and others exactly when there are no others, and the
elements name one address each. -/
theorem represented_append {field : MatchField} {xs more : List XmlNode} {m : NatMatch}
    (reads : EntriesRead xs m field) (inside : ∀ child ∈ xs, fieldOf child.tagName = some field) :
    Represented (xs ++ more) m field ↔
      more = [] ∧ ∀ child ∈ xs, (addressesNamed child).length ≤ 1 := by
  have addresses {texts : List Text}
      (reads : List.Forall₂ (fun child text => (addressesNamed child).head? = some text) xs texts) :
      (texts = (xs ++ more).flatMap addressesNamed ∧
          ∀ child ∈ xs ++ more, addressesNamed child ≠ []) ↔
        more = [] ∧ ∀ child ∈ xs, (addressesNamed child).length ≤ 1 := by
    constructor
    · rintro ⟨same, named⟩
      have counted := congrArg List.length same
      have atLeast := length_le_flatMap reads
      rw [List.flatMap_append, List.length_append] at counted
      have unnamed : more.flatMap addressesNamed = [] := List.length_eq_zero_iff.mp (by omega)
      obtain rfl : more = [] := by
        rw [List.eq_nil_iff_forall_not_mem]
        intro child member
        exact named child (List.mem_append_right _ member)
          (List.flatMap_eq_nil_iff.mp unnamed child member)
      rw [List.append_nil] at same
      exact ⟨rfl, (eq_flatMap_iff reads).mp same⟩
    · rintro ⟨rfl, single⟩
      rw [List.append_nil]
      refine ⟨(eq_flatMap_iff reads).mpr single, fun child member => ?_⟩
      obtain ⟨text, -, head⟩ := forall₂_mem_left reads member
      intro empty
      rw [empty] at head
      cases head
  have others {β : Type} {R : XmlNode → β → Prop} {ys : List β} (reads : List.Forall₂ R xs ys)
      (source : field ≠ .sourceAddress) (destination : field ≠ .destinationAddress) :
      List.Forall₂ R (xs ++ more) ys ↔
        more = [] ∧ ∀ child ∈ xs, (addressesNamed child).length ≤ 1 := by
    rw [forall₂_append_left_iff reads]
    refine and_congr_right fun _ => iff_of_true reads fun child member => ?_
    exact addressesNamed_length (inside child member) source destination
  cases field with
  | sourceAddress => exact addresses reads
  | destinationAddress => exact addresses reads
  | application => exact others reads nofun nofun
  | sourcePort => exact others reads nofun nofun
  | destinationPort => exact others reads nofun nofun
  | protocol => exact others reads nofun nofun

theorem readsMatch_nil : ReadsMatch [] ⟨[], [], [], [], [], []⟩ where
  known := by simp
  read field := by cases field <;> exact .nil

/-- The match that is read of a rule represents its criteria exactly when they stand in one container
and name one address each. -/
theorem parseMatch_iff {containerTags : List Text} {rule : XmlNode} {m : NatMatch}
    (ok : parseMatch containerTags rule = .ok m) :
    IsMatch (matchElements containerTags rule) m ↔ MatchWhole containerTags rule := by
  unfold parseMatch at ok
  split at ok
  swap
  · cases ok
  next container found =>
  rw [← List.head?_filter] at found
  obtain ⟨others, containers⟩ := List.head?_eq_some_iff.mp found
  have reads := addMatch_foldlM readsMatch_nil ok
  rw [List.nil_append] at reads
  have elements : matchElements containerTags rule =
      container.elements ++ others.flatMap XmlNode.elements := by
    rw [matchElements, matchContainers, containers, List.flatMap_cons]
  have once : (∀ other ∈ (matchContainers containerTags rule).tail, other.elements = []) ↔
      others.flatMap XmlNode.elements = [] := by
    rw [matchContainers, containers, List.tail_cons, List.flatMap_eq_nil_iff]
  have each (field : MatchField) : Represented
      ((container.elements ++ others.flatMap XmlNode.elements).filter (inField field)) m field ↔
      (others.flatMap XmlNode.elements).filter (inField field) = [] ∧
        ∀ child ∈ container.elements.filter (inField field), (addressesNamed child).length ≤ 1 := by
    rw [List.filter_append]
    refine represented_append (reads.read field) fun child inside => ?_
    simpa [inField] using (List.mem_filter.mp inside).2
  constructor
  · intro is
    rw [elements] at is
    have alone : others.flatMap XmlNode.elements = [] := by
      rw [List.eq_nil_iff_forall_not_mem]
      intro child member
      obtain ⟨field, belongs⟩ := Option.isSome_iff_exists.mp
        (is.known child (List.mem_append_right _ member))
      have empty := ((each field).mp (is.represented field)).1
      rw [List.filter_eq_nil_iff] at empty
      exact empty child member (by simp [inField, belongs])
    refine ⟨once.mpr alone, fun child member => ?_⟩
    rw [elements, alone, List.append_nil] at member
    obtain ⟨field, belongs⟩ := Option.isSome_iff_exists.mp (reads.known child member)
    exact ((each field).mp (is.represented field)).2 child
      (List.mem_filter.mpr ⟨member, by simp [inField, belongs]⟩)
  · intro whole
    have alone := once.mp whole.once
    have single := whole.single
    rw [elements, alone, List.append_nil] at single
    rw [elements]
    refine ⟨?_, fun field => (each field).mpr ⟨by rw [alone]; rfl, fun child member => ?_⟩⟩
    · rw [alone, List.append_nil]
      exact reads.known
    · exact single child (List.mem_filter.mp member).1

/-! ## Rules -/

/-- A rule, the rule-set it is in, and its place there. -/
abbrev RuleEntry := XmlNode × XmlNode × Nat

def ruleEntries (document : XmlDocument) : List RuleEntry :=
  (ruleSets document).flatMap fun ruleSet =>
    (ruleSet.childrenNamed "rule").zipIdx.map fun entry => (ruleSet, entry)

/-- The rules of a reply, of every rule-set in document order. -/
def configuredEntries (crates : XmlCrates) (replyXml : Text) : List RuleEntry :=
  ((usableDocument crates replyXml).map ruleEntries).getD []

section Rules

variable {To Translation : Type}

/-- The listed rule has the place and the criteria of the configured one. -/
structure IsRule (containerTags : List Text) (toList : To → List NatZoneOrInterface)
    (entry : RuleEntry) (rule : NatRule To Translation) : Prop where
  ruleSet : entry.1.childText "name" = some rule.ruleSet
  name : entry.2.1.childText "name" = some rule.name
  sequence : rule.sequence = entry.2.2 + 1
  fromSelectors : List.Forall₂ IsSelector (selectorElements "from" entry.1) rule.fromSelectors
  toSelectors : List.Forall₂ IsSelector (selectorElements "to" entry.1) (toList rule.toSelectors)
  match_ : IsMatch (matchElements containerTags entry.2.1) rule.match_

/-- Nothing of the rule is left out. -/
structure RuleWhole (containerTags : List Text) (toWhole : XmlNode → Prop) (entry : RuleEntry) :
    Prop where
  fromSelectors : SelectorsWhole "from" entry.1
  toSelectors : toWhole entry.1
  match_ : MatchWhole containerTags entry.2.1

variable {shape : RuleShape To Translation} {toList : To → List NatZoneOrInterface}
  {toWhole : XmlNode → Prop} {hitCounts : HitCounts}

theorem parseRule_iff {ruleSet : XmlNode} {ruleSetName : Text}
    {fromSelectors : List NatZoneOrInterface} {toSelectors : To} {entry : XmlNode × Nat}
    {rule : NatRule To Translation} (named : ruleSet.childText "name" = some ruleSetName)
    (from_ : List.Forall₂ IsSelector (selectorElements "from" ruleSet) fromSelectors ↔
      SelectorsWhole "from" ruleSet)
    (to_ : List.Forall₂ IsSelector (selectorElements "to" ruleSet) (toList toSelectors) ↔
      toWhole ruleSet)
    (ok : parseRule shape hitCounts ruleSet ruleSetName fromSelectors toSelectors entry = .ok rule) :
    IsRule shape.matchTags toList (ruleSet, entry) rule ↔
      RuleWhole shape.matchTags toWhole (ruleSet, entry) := by
  obtain ⟨name, hasName, ok⟩ := bind_eq_ok.mp ok
  obtain ⟨match_, read, ok⟩ := bind_eq_ok.mp ok
  obtain ⟨thenNode, -, ok⟩ := bind_eq_ok.mp ok
  obtain ⟨translation, -, ok⟩ := bind_eq_ok.mp ok
  cases ok
  constructor
  · intro is
    exact ⟨from_.mp is.fromSelectors, to_.mp is.toSelectors, (parseMatch_iff read).mp is.match_⟩
  · intro whole
    exact ⟨named, required_ok hasName, rfl, from_.mpr whole.fromSelectors,
      to_.mpr whole.toSelectors, (parseMatch_iff read).mpr whole.match_⟩

theorem parseRuleSet_iff {ruleSet : XmlNode} {rules : List (NatRule To Translation)}
    (readsTo : ∀ ruleSet toSelectors, shape.parseTo ruleSet = .ok toSelectors →
      (List.Forall₂ IsSelector (selectorElements "to" ruleSet) (toList toSelectors) ↔
        toWhole ruleSet))
    (ok : parseRuleSet shape hitCounts ruleSet = .ok rules) :
    List.Forall₂ (fun entry rule => IsRule shape.matchTags toList entry rule ↔
        RuleWhole shape.matchTags toWhole entry)
      ((ruleSet.childrenNamed "rule").zipIdx.map fun entry => (ruleSet, entry)) rules := by
  obtain ⟨ruleSetName, named, ok⟩ := bind_eq_ok.mp ok
  obtain ⟨fromSelectors, readFrom, ok⟩ := bind_eq_ok.mp ok
  obtain ⟨toSelectors, readTo, ok⟩ := bind_eq_ok.mp ok
  rw [List.forall₂_map_left_iff]
  exact (mapM_ok_forall₂ ok).imp fun entry rule =>
    parseRule_iff (required_ok named) (parseFrom_iff readFrom) (readsTo ruleSet _ readTo)

/-- The rules of a kind are read one for one. -/
theorem parseKind_iff {crates : XmlCrates} {replyXml : Text} {limit : Nat}
    {rules : List (NatRule To Translation)} {truncated : Bool}
    (readsTo : ∀ ruleSet toSelectors, shape.parseTo ruleSet = .ok toSelectors →
      (List.Forall₂ IsSelector (selectorElements "to" ruleSet) (toList toSelectors) ↔
        toWhole ruleSet))
    (ok : parseKind shape crates replyXml hitCounts limit = .ok (rules, truncated)) :
    List.Forall₂ (fun entry rule => IsRule shape.matchTags toList entry rule ↔
        RuleWhole shape.matchTags toWhole entry) (configuredEntries crates replyXml) rules ∧
      (truncated = true ↔ limit < (configuredEntries crates replyXml).length) := by
  obtain ⟨nodes, split, ok⟩ := bind_eq_ok.mp ok
  obtain ⟨found, usable, ok⟩ := bind_eq_ok.mp ok
  rw [configuredEntries, usableDocument_eq split usable]
  cases found with
  | none =>
      cases ok
      exact ⟨.nil, by simp⟩
  | some node =>
      obtain ⟨document, read, ok⟩ := bind_eq_ok.mp ok
      obtain ⟨lists, all, ok⟩ := bind_eq_ok.mp ok
      cases ok
      rw [Option.bind_some, readDocument_ok read]
      dsimp only [Except.toOption, Option.map_some, Option.getD_some]
      have each : List.Forall₂ (fun entry rule => IsRule shape.matchTags toList entry rule ↔
          RuleWhole shape.matchTags toWhole entry) (ruleEntries document) lists.flatten :=
        forall₂_flatMap ((mapM_ok_forall₂ all).imp fun ruleSet rules => parseRuleSet_iff readsTo)
      rw [each.length_eq, decide_eq_true_iff]
      exact ⟨each, Iff.rfl⟩

end Rules

/-! ## The three kinds -/

/-- Destination and static rules have no field for where to. -/
def noTo (_ : Unit) : List NatZoneOrInterface := []

/-- The listed rules are the first of the configured ones, each with its criteria, and the list is
marked as cut exactly when one kind has more. -/
structure ListsAll (crates : XmlCrates) (configs : NatKind → Text) (limit : Nat)
    (rules : NatRules) : Prop where
  source : List.Forall₂ (IsRule sourceShape.matchTags id)
    ((configuredEntries crates (configs .source)).take limit) rules.source
  destination : List.Forall₂ (IsRule destinationShape.matchTags noTo)
    ((configuredEntries crates (configs .destination)).take limit) rules.destination
  staticNat : List.Forall₂ (IsRule ["static-nat-rule-match".toList, "match".toList] noTo)
    ((configuredEntries crates (configs .staticNat)).take limit) rules.staticNat
  truncated : rules.truncated = true ↔
    ∃ kind, limit < (configuredEntries crates (configs kind)).length

/-- Every rule within the limit has one container each for its selectors and its criteria, a text in
each selector, at most one address in an element, and a `to` only where it is a source rule. -/
structure ConfiguredWhole (crates : XmlCrates) (configs : NatKind → Text) (limit : Nat) : Prop where
  source : ∀ entry ∈ (configuredEntries crates (configs .source)).take limit,
    RuleWhole sourceShape.matchTags (SelectorsWhole "to") entry
  destination : ∀ entry ∈ (configuredEntries crates (configs .destination)).take limit,
    RuleWhole destinationShape.matchTags (fun ruleSet => selectorElements "to" ruleSet = []) entry
  staticNat : ∀ entry ∈ (configuredEntries crates (configs .staticNat)).take limit,
    RuleWhole ["static-nat-rule-match".toList, "match".toList]
      (fun ruleSet => selectorElements "to" ruleSet = []) entry

theorem noTo_iff (ruleSet : XmlNode) (toSelectors : Unit) :
    List.Forall₂ IsSelector (selectorElements "to" ruleSet) (noTo toSelectors) ↔
      selectorElements "to" ruleSet = [] :=
  List.forall₂_nil_right_iff

theorem taken_iff {To Translation : Type} {containerTags : List Text}
    {toList : To → List NatZoneOrInterface} {toWhole : XmlNode → Prop} {entries : List RuleEntry}
    {rules : List (NatRule To Translation)} (limit : Nat)
    (reads : List.Forall₂ (fun entry rule => IsRule containerTags toList entry rule ↔
      RuleWhole containerTags toWhole entry) entries rules) :
    List.Forall₂ (IsRule containerTags toList) (entries.take limit) (rules.take limit) ↔
      ∀ entry ∈ entries.take limit, RuleWhole containerTags toWhole entry :=
  forall₂_iff_forall_mem (List.forall₂_take limit reads) fun _ _ same => same

/-- A reply is listed without a loss exactly when the rules within the limit are configured so that
nothing of them is left out. -/
theorem parse_lists_all_iff (crates : ConfigCrates) (configs : NatKind → Text)
    (hitCounts : HitCounts) (limit : Nat) (response : SrxToolResponse NatRules)
    (parsed : parse crates (configs .source) (configs .destination) (configs .staticNat) hitCounts
      limit = .ok response) :
    (∃ rules, response.data = some rules ∧ ListsAll crates.toXmlCrates configs limit rules) ↔
      ConfiguredWhole crates.toXmlCrates configs limit := by
  obtain ⟨⟨source, sourceCut⟩, readSource, ok⟩ := bind_eq_ok.mp parsed
  obtain ⟨⟨destination, destinationCut⟩, readDestination, ok⟩ := bind_eq_ok.mp ok
  obtain ⟨⟨staticNat, staticCut⟩, readStatic, ok⟩ := bind_eq_ok.mp ok
  cases ok
  obtain ⟨sourceRules, cutSource⟩ := @parseKind_iff _ _ _ id (SelectorsWhole "to") _ _ _ _ _ _
    (fun _ _ => parseTo_iff) readSource
  obtain ⟨destinationRules, cutDestination⟩ := @parseKind_iff _ _ _ noTo _ _ _ _ _ _ _
    (fun ruleSet toSelectors _ => noTo_iff ruleSet toSelectors) readDestination
  obtain ⟨staticRules, cutStatic⟩ := @parseKind_iff _ _ _ noTo _ _ _ _ _ _ _
    (fun ruleSet toSelectors _ => noTo_iff ruleSet toSelectors) readStatic
  have cut : (sourceCut || destinationCut || staticCut) = true ↔
      ∃ kind, limit < (configuredEntries crates.toXmlCrates (configs kind)).length := by
    rw [Bool.or_eq_true, Bool.or_eq_true, cutSource, cutDestination, cutStatic]
    constructor
    · rintro ((more | more) | more)
      · exact ⟨.source, more⟩
      · exact ⟨.destination, more⟩
      · exact ⟨.staticNat, more⟩
    · rintro ⟨kind, more⟩
      cases kind with
      | source => exact .inl (.inl more)
      | destination => exact .inl (.inr more)
      | staticNat => exact .inr more
  constructor
  · rintro ⟨rules, same, lists⟩
    cases same
    exact ⟨(taken_iff limit sourceRules).mp lists.source,
      (taken_iff limit destinationRules).mp lists.destination,
      (taken_iff limit staticRules).mp lists.staticNat⟩
  · intro whole
    exact ⟨_, rfl, (taken_iff limit sourceRules).mpr whole.source,
      (taken_iff limit destinationRules).mpr whole.destination,
      (taken_iff limit staticRules).mpr whole.staticNat, cut⟩

/-! ### A zone with its name inside -/

def zoneElement : XmlNode := .group "zone" [.field "name" "trust"]

def unnamedSource : XmlDocument :=
  natConfig "source" [.group "rule-set" [.field "name" "rs", .group "from" [zoneElement],
    .group "rule" [.field "name" "r1", .group "match" [.field "protocol" "tcp"],
      .group "then" [.group "source-nat" [.group "off" []]]]]]

def unnamedConfigs : NatKind → XmlDocument
  | .source => unnamedSource
  | .destination => natConfig "destination" []
  | .staticNat => natConfig "static" []

def unnamedCrates : ConfigCrates where
  toXmlCrates := readerOfPrinted
    [unnamedSource, natConfig "destination" [], natConfig "static" []]
  ipNet _ := none

def unnamedRules : NatRules where
  source := [⟨"rs".toList, "r1".toList, 1, [.zone []], [], sharedMatch, .off, true, none⟩]
  destination := []
  staticNat := []
  truncated := false

theorem unnamedCrates_parse : unnamedCrates.parse =
    parsePrinted [unnamedSource, natConfig "destination" [], natConfig "static" []] := rfl

theorem unnamed_read (kind : NatKind) :
    unnamedCrates.parse (printed (unnamedConfigs kind)) = .ok (unnamedConfigs kind) := by
  cases kind with
  | source =>
      dsimp only [unnamedConfigs]
      rw [unnamedCrates_parse, parsePrinted_here]
  | destination =>
      have later : printed unnamedSource ≠ printed (natConfig "destination" []) := by decide
      dsimp only [unnamedConfigs]
      rw [unnamedCrates_parse, parsePrinted_later later, parsePrinted_here]
  | staticNat =>
      have later : printed unnamedSource ≠ printed (natConfig "static" []) := by decide
      have last : printed (natConfig "destination" []) ≠ printed (natConfig "static" []) := by
        decide
      dsimp only [unnamedConfigs]
      rw [unnamedCrates_parse, parsePrinted_later later, parsePrinted_later last, parsePrinted_here]

theorem unnamed_clean (kind : NatKind) :
    sanitizeRustezXml (printed (unnamedConfigs kind)) = printed (unnamedConfigs kind) := by
  cases kind <;> exact sanitizeRustezXml_printed (by decide) (by decide)

theorem unnamed_parsed :
    parse unnamedCrates (printed (unnamedConfigs .source)) (printed (unnamedConfigs .destination))
      (printed (unnamedConfigs .staticNat)) .none 200 = .ok (.active unnamedRules) := by
  have source := @parseKind_standalone _ _ sourceShape .none unnamedCrates.toXmlCrates
    (printed (unnamedConfigs .source)) 200 _ (unnamed_clean .source) (unnamed_read .source) rfl rfl
  have destination := @parseKind_standalone _ _ destinationShape .none unnamedCrates.toXmlCrates
    (printed (unnamedConfigs .destination)) 200 _ (unnamed_clean .destination)
    (unnamed_read .destination) rfl rfl
  have staticNat := @parseKind_standalone _ _ (staticShape unnamedCrates.ipNet) .none
    unnamedCrates.toXmlCrates (printed (unnamedConfigs .staticNat)) 200 _
    (unnamed_clean .staticNat) (unnamed_read .staticNat) rfl rfl
  rw [parse, parseSource, parseDestination, parseStatic, source, destination, staticNat]
  rfl

theorem unnamed_usable :
    usableDocument unnamedCrates.toXmlCrates (printed unnamedSource) = some unnamedSource := by
  have clean := unnamed_clean .source
  have read := unnamed_read .source
  dsimp only [unnamedConfigs] at clean read
  rw [usableDocument_eq (multiReSplit_standalone clean read rfl)
    (firstUsable_standalone clean read rfl), Option.bind_some, clean, read]
  rfl

/-- The zone is listed without its name. -/
theorem unnamed_zone_lost :
    parse unnamedCrates (printed (unnamedConfigs .source)) (printed (unnamedConfigs .destination))
        (printed (unnamedConfigs .staticNat)) .none 200 = .ok (.active unnamedRules) ∧
      ¬ ListsAll unnamedCrates.toXmlCrates (fun kind => printed (unnamedConfigs kind)) 200
        unnamedRules := by
  refine ⟨unnamed_parsed, fun lists => ?_⟩
  have source := lists.source
  dsimp only [unnamedConfigs] at source
  rw [configuredEntries, unnamed_usable] at source
  cases source with
  | cons first _ =>
      have selectors : List.Forall₂ IsSelector [zoneElement] [.zone []] := first.fromSelectors
      obtain ⟨⟨name, named, -⟩, -⟩ := List.forall₂_cons.mp selectors
      cases named

theorem shared_lists_all_iff :
    (∃ rules, (SrxToolResponse.active sharedRules).data = some rules ∧
        ListsAll sharedCrates.toXmlCrates (fun kind => printed (sharedConfigs kind)) 200 rules) ↔
      ConfiguredWhole sharedCrates.toXmlCrates (fun kind => printed (sharedConfigs kind)) 200 :=
  parse_lists_all_iff sharedCrates (fun kind => printed (sharedConfigs kind)) sharedCounts 200
    (.active sharedRules) shared_parsed

end JunosMcp.Srx.ListNatRules
