import JunosMcp.DeviceSelectors
import JunosMcp.Lib.Results

/-!
# What the three readers of a target see

The preflight checks every device a handler acts on, through the facade as well. The limits miss
those that are given under the fields' own names.
-/

namespace JunosMcp

open Lib

/-! ## Reading a field -/

section Read

variable {members : List (Text × Json)} {selector : Selector} {key name : Text} {value : Json}
  {names : List Text}

theorem mem_namesUnder {keys : List Text} : name ∈ namesUnder keys members ↔
    ∃ key ∈ keys, ∃ value, Json.get members key = some value ∧ name ∈ namesIn value := by
  rw [namesUnder, List.mem_flatMap]
  refine exists_congr fun key => and_congr_right fun _ => ?_
  cases Json.get members key with
  | none => simp
  | some value => simp

/-- What a field is read as are the names in its value. -/
theorem SelectorType.parse_given {type : SelectorType}
    (parsed : type.parse value = some (.given names)) : namesIn value = names := by
  have items : ∀ {items : List Json}, (items.mapM Json.asStr).map Target.given =
      some (.given names) → items.filterMap Json.asStr = names := by
    intro items parsed
    obtain ⟨all, read, same⟩ := Option.map_eq_some_iff.mp parsed
    cases same
    simpa using (mapM_some_filterMap read some).symm
  cases type <;> cases value <;> first | cases parsed; rfl | exact items parsed | cases parsed

theorem SelectorType.parse_absent {type : SelectorType}
    (parsed : type.parse value = some .absent) : namesIn value = [] := by
  have items : ∀ {items : List Json}, (items.mapM Json.asStr).map Target.given ≠ some .absent := by
    intro items parsed
    obtain ⟨_, _, same⟩ := Option.map_eq_some_iff.mp parsed
    cases same
  cases type <;> cases value <;> first | rfl | cases parsed | exact absurd parsed items

theorem SelectorType.parse_names {type : SelectorType} {target : Target}
    (parsed : type.parse value = some target) (inside : name ∈ namesIn value) :
    target = .given (namesIn value) := by
  cases target with
  | given names => rw [parse_given parsed]
  | absent =>
      rw [parse_absent parsed] at inside
      cases inside

/-- A field that is given stands under one of its keys, and under no other. -/
theorem Selector.read_given (read : selector.read members = some (.given names)) :
    ∃ key value, Json.get members key = some value ∧ key ∈ selector.keys ∧ namesIn value = names := by
  unfold Selector.read at read
  split at read
  · cases missing : selector.type with
    | _ =>
        rw [missing] at read
        cases read
  next member only =>
    have found : member ∈ members.filter fun member => member.1 ∈ selector.keys := by
      rw [only]
      exact List.mem_singleton_self _
    obtain ⟨inside, own⟩ := List.mem_filter.mp found
    refine ⟨member.1, member.2, ?_, by simpa using own, SelectorType.parse_given read⟩
    obtain ⟨first, same⟩ : ∃ first, members.find? (·.1 = member.1) = some first := by
      refine Option.isSome_iff_exists.mp (List.find?_isSome.mpr ⟨member, inside, by simp⟩)
    have key : first.1 = member.1 := by simpa using List.find?_some same
    have also : first ∈ members.filter fun member => member.1 ∈ selector.keys :=
      List.mem_filter.mpr ⟨List.mem_of_find?_eq_some same, by rw [key]; exact own⟩
    rw [only] at also
    rw [Json.get, same, List.mem_singleton.mp also]
    rfl
  · cases read

/-- Every key of a field with names in its value is the one the field is read from. -/
theorem Selector.read_names {target : Target} (read : selector.read members = some target)
    (inside : (key, value) ∈ members) (own : key ∈ selector.keys) (has : name ∈ namesIn value) :
    target = .given (namesIn value) ∧
      ∀ key' value', (key', value') ∈ members → key' ∈ selector.keys → key' = key := by
  have found : (key, value) ∈ members.filter fun member => member.1 ∈ selector.keys :=
    List.mem_filter.mpr ⟨inside, by simpa using own⟩
  unfold Selector.read at read
  split at read
  next none =>
    rw [none] at found
    cases found
  next member only =>
    rw [only] at found
    cases List.mem_singleton.mp found
    refine ⟨SelectorType.parse_names read has, fun key' value' inside' own' => ?_⟩
    have also : (key', value') ∈ members.filter fun member => member.1 ∈ selector.keys :=
      List.mem_filter.mpr ⟨inside', by simpa using own'⟩
    rw [only] at also
    cases List.mem_singleton.mp also
    rfl
  · cases read

end Read

/-! ## The types of arguments -/

theorem argumentTypes_selectors : ∀ entry ∈ argumentTypes, ∀ selector ∈ entry.2.selectors,
    ∀ key ∈ selector.keys, key ∈ deviceSelectorKeys := by decide

theorem argumentTypes_others : ∀ entry ∈ argumentTypes, ∀ key ∈ entry.2.others,
    key ∉ deviceSelectorKeys := by decide

theorem argumentTypes_concrete : "execute".toList ∉ argumentTypes.map Prod.fst := by
  decide

/-- The keys of devices that are none of the identity. -/
def ownKeys : List Text :=
  ["device".toList, "device_name".toList, "devices".toList, "device_names".toList]

theorem deviceSelectorKeys_eq : deviceSelectorKeys = ownKeys ++ identityKeys := rfl

theorem ownKeys_apart : ∀ key ∈ ownKeys, key ∉ identityKeys := by decide

section Acting

variable {type : ArgumentType} {members : List (Text × Json)} {targets : List Target}
  {key name : Text} {value : Json}

theorem ArgumentType.read_eq (read : type.read members = some targets) :
    (∀ member ∈ members, member.1 ∈ type.others ∨
      ∃ selector ∈ type.selectors, member.1 ∈ selector.keys) ∧
    type.selectors.mapM (Selector.read members) = some targets := by
  unfold ArgumentType.read at read
  split at read
  next known => exact ⟨by simpa using known, read⟩
  · cases read

theorem actedOn_eq (acts : actedOn targets ≠ []) :
    targets.filterMap Target.names? = [actedOn targets] := by
  unfold actedOn at acts ⊢
  split
  next names only => exact only
  next other =>
    exfalso
    apply acts
    split
    next names only => exact absurd only (other names)
    · rfl

/-- A device is acted on where it is given under a key of a field. -/
theorem actedOn_selected (read : type.read members = some targets) (acts : name ∈ actedOn targets) :
    ∃ selector ∈ type.selectors, ∃ key value, Json.get members key = some value ∧
      key ∈ selector.keys ∧ name ∈ namesIn value := by
  have only := actedOn_eq (List.ne_nil_of_mem acts)
  have inside : actedOn targets ∈ targets.filterMap Target.names? := by
    rw [only]
    exact List.mem_singleton_self _
  obtain ⟨target, member, given⟩ := List.mem_filterMap.mp inside
  obtain ⟨selector, own, reads⟩ :=
    forall₂_mem_right (mapM_some_forall₂ (ArgumentType.read_eq read).2) member
  cases target with
  | absent => cases given
  | given names =>
      cases given
      obtain ⟨key, value, found, under, same⟩ := Selector.read_given reads
      exact ⟨selector, own, key, value, found, under, by rw [same]; exact acts⟩

/-- The names under a selector's key are what that selector is read as. -/
theorem selected (read : type.read members = some targets)
    (found : Json.get members key = some value) (has : name ∈ namesIn value)
    (foreign : key ∉ type.others) :
    ∃ selector ∈ type.selectors, key ∈ selector.keys ∧
      selector.read members = some (.given (namesIn value)) ∧
      Target.given (namesIn value) ∈ targets ∧
      ∀ key' value', (key', value') ∈ members → key' ∈ selector.keys → key' = key := by
  obtain ⟨known, all⟩ := ArgumentType.read_eq read
  have inside := Json.get_mem found
  obtain ⟨selector, own, under⟩ := (known _ inside).resolve_left foreign
  obtain ⟨target, member, reads⟩ := forall₂_mem_left (mapM_some_forall₂ all) own
  obtain ⟨rfl, alone⟩ := Selector.read_names reads inside under has
  exact ⟨selector, own, under, reads, member, alone⟩

/-- Where there are devices to act on, one key only has devices, and these are acted on. -/
theorem actedOn_only (read : type.read members = some targets) (acts : actedOn targets ≠ [])
    {key' name' : Text} {value' : Json}
    (found : Json.get members key = some value) (has : name ∈ namesIn value)
    (found' : Json.get members key' = some value') (has' : name' ∈ namesIn value')
    (foreign : key ∉ type.others) (foreign' : key' ∉ type.others) : key' = key := by
  obtain ⟨selector, own, -, reads, -, alone⟩ := selected read found has foreign
  obtain ⟨selector', own', under', reads', -, -⟩ := selected read found' has' foreign'
  have only := actedOn_eq acts
  rw [mapM_some_filterMap (ArgumentType.read_eq read).2] at only
  have same : selector' = selector :=
    filterMap_singleton_unique only own' own (by rw [reads']; rfl) (by rw [reads]; rfl)
  exact alone key' value' (Json.get_mem found') (same ▸ under')

/-- Every name that is given is acted on, where any is. -/
theorem actedOn_names (read : type.read members = some targets) (acts : actedOn targets ≠ [])
    (found : Json.get members key = some value) (has : name ∈ namesIn value)
    (foreign : key ∉ type.others) : name ∈ actedOn targets := by
  obtain ⟨-, -, -, -, member, -⟩ := selected read found has foreign
  have given : namesIn value ∈ targets.filterMap Target.names? :=
    List.mem_filterMap.mpr ⟨_, member, rfl⟩
  rw [actedOn_eq acts] at given
  rw [← List.mem_singleton.mp given]
  exact has

end Acting

/-! ## Calls -/

/-- A request for a tool, with what it gives as its arguments. -/
structure IsCall (request : Json) (tool : Text) (arguments : Json) : Prop where
  method : (request.field "method".toList).bind Json.asStr = some "tools/call".toList
  params : ∃ params, request.field "params".toList = some params ∧
    (params.field "name".toList).bind Json.asStr = some tool ∧
    params.field "arguments".toList = some arguments

/-- A well-formed request for an operation through the facade. -/
structure IsFacadeCall (srx : Bool) (request : Json) (operation : Text)
    (members : List (Text × Json)) : Prop where
  known : operation ∈ facadeOperations srx
  outer : ∃ outer, IsCall request "execute".toList outer ∧
    (outer.field "operation".toList).bind Json.asStr = some operation ∧
    outer.field "arguments".toList = some (.object members)

section Scope

variable {srx : Bool} {caller : CallerCtx} {request : Json} {tool : Text}
  {members : List (Text × Json)}

theorem toolCallExceedsScope_call {arguments : Json} (call : IsCall request tool arguments) :
    toolCallExceedsScope srx caller request =
      if caller.allowsTool tool then
        if tool = "execute".toList then facadeCallExceedsScope srx caller (some arguments)
        else argumentsExceedDeviceScope caller (some arguments)
      else true := by
  obtain ⟨params, has, named, given⟩ := call.params
  simp only [toolCallExceedsScope, call.method, has, named, given, ne_eq, not_true_eq_false,
    if_false]

theorem toolCallExceedsScope_facade (call : IsFacadeCall srx request tool members)
    (allowed : caller.allowsTool "execute".toList = true) :
    toolCallExceedsScope srx caller request =
      if caller.allowsTool tool then argumentsExceedDeviceScope caller (some (.object members))
      else true := by
  obtain ⟨outer, isCall, operation, arguments⟩ := call.outer
  rw [toolCallExceedsScope_call isCall, if_pos allowed, if_pos rfl]
  simp only [facadeCallExceedsScope, Option.bind_some, operation, arguments, call.known, if_true]

/-- The body is the request, or a batch that has it. -/
def Carries (body request : Json) : Prop :=
  body = request ∨ ∃ values, body = .array values ∧ request ∈ values

theorem requestExceedsScope_call {fromSlice : List UInt8 → Option Json} {bytes : List UInt8}
    {body arguments : Json} (filled : bytes ≠ []) (parsed : fromSlice bytes = some body)
    (carries : Carries body request) (call : IsCall request tool arguments)
    (within : requestExceedsScope srx caller fromSlice bytes = false) :
    toolCallExceedsScope srx caller request = false := by
  rw [requestExceedsScope, if_neg (by simpa using filled), parsed] at within
  rcases carries with rfl | ⟨values, rfl, inside⟩
  · cases body with
    | array values => cases call.method
    | _ => exact within
  · exact Bool.eq_false_iff.mpr (List.any_eq_false.mp within request inside)

/-- Every name under a selector key is in the caller's scope, or the request is refused. -/
theorem argumentsExceedDeviceScope_names
    (within : argumentsExceedDeviceScope caller (some (.object members)) = false) :
    ∀ name ∈ namesUnder deviceSelectorKeys members, caller.allowsDevice name = true := by
  intro name named
  obtain ⟨key, selects, value, found, inside⟩ := mem_namesUnder.mp named
  have inScope : deviceValueInScope caller value = true := by
    have all := List.any_eq_false.mp within key selects
    rw [found] at all
    simpa using all
  cases value with
  | string device =>
      cases List.mem_singleton.mp inside
      exact inScope
  | array items =>
      obtain ⟨item, member, shown⟩ := List.mem_filterMap.mp inside
      have all := List.all_eq_true.mp (Bool.and_eq_true_iff.mp inScope).2 item member
      rw [shown] at all
      exact all
  | _ => cases inside

end Scope

/-- The devices a handler acts on are checked by the preflight, directly and through the facade, and
seen by the limits. -/
structure SelectorsAgree (srx : Bool) (tool : Text) (members : List (Text × Json))
    (acted : List Text) : Prop where
  preflight : ∀ name ∈ acted, name ∈ namesUnder deviceSelectorKeys members
  checked : ∀ caller fromSlice bytes body request, bytes ≠ [] → fromSlice bytes = some body →
    Carries body request → IsCall request tool (.object members) →
    requestExceedsScope srx caller fromSlice bytes = false →
    ∀ name ∈ acted, caller.allowsDevice name = true
  limits : ∀ name ∈ acted, name ∈ namesUnder identityKeys members
  facade : ∀ caller request direct, caller.allowsTool "execute".toList = true →
    IsFacadeCall srx request tool members → IsCall direct tool (.object members) →
    toolCallExceedsScope srx caller request = toolCallExceedsScope srx caller direct

section Agreement

variable {srx : Bool} {tool : Text} {type : ArgumentType} {members : List (Text × Json)}
  {targets : List Target}

/-- The readers agree exactly where the target has none of the keys `device`, `device_name`,
`devices` and `device_names`. -/
theorem selectors_agree_iff (typed : (tool, type) ∈ argumentTypes)
    (read : type.read members = some targets) :
    SelectorsAgree srx tool members (actedOn targets) ↔
      actedOn targets = [] ∨ namesUnder ownKeys members = [] := by
  have concrete : tool ≠ "execute".toList := by
    rintro rfl
    exact argumentTypes_concrete (List.mem_map.mpr ⟨_, typed, rfl⟩)
  have selects : ∀ name ∈ actedOn targets, ∃ key ∈ deviceSelectorKeys, ∃ value,
      Json.get members key = some value ∧ name ∈ namesIn value := by
    intro name acts
    obtain ⟨selector, own, key, value, found, under, inside⟩ := actedOn_selected read acts
    exact ⟨key, argumentTypes_selectors _ typed selector own key under, value, found, inside⟩
  constructor
  · intro agree
    by_contra neither
    obtain ⟨acts, own⟩ := not_or.mp neither
    obtain ⟨name, named⟩ := List.exists_mem_of_ne_nil _ own
    obtain ⟨key, isOwn, value, found, inside⟩ := mem_namesUnder.mp named
    have selector : ∀ {k}, k ∈ ownKeys ∨ k ∈ identityKeys → k ∉ type.others := fun either other =>
      argumentTypes_others _ typed _ other (deviceSelectorKeys_eq ▸ List.mem_append.mpr either)
    have acted := actedOn_names read acts found inside (selector (.inl isOwn))
    obtain ⟨key', identity, value', found', inside'⟩ := mem_namesUnder.mp (agree.limits name acted)
    have same := actedOn_only read acts found inside found' inside' (selector (.inl isOwn))
      (selector (.inr identity))
    exact ownKeys_apart key isOwn (same ▸ identity)
  · intro spelled
    have preflight : ∀ name ∈ actedOn targets, name ∈ namesUnder deviceSelectorKeys members :=
      fun name acts => mem_namesUnder.mpr (selects name acts)
    refine ⟨preflight, ?_, fun name acts => ?_,
      fun caller request direct allowed facade call => ?_⟩
    · intro caller fromSlice bytes body request filled parsed carries call accepted name acts
      have within := requestExceedsScope_call filled parsed carries call accepted
      rw [toolCallExceedsScope_call call, if_neg concrete] at within
      split at within
      · exact argumentsExceedDeviceScope_names within name (preflight name acts)
      · cases within
    · obtain ⟨key, selected, value, found, inside⟩ := selects name acts
      rw [deviceSelectorKeys_eq] at selected
      rcases List.mem_append.mp selected with isOwn | identity
      · have named := mem_namesUnder.mpr ⟨key, isOwn, value, found, inside⟩
        rcases spelled with none | none
        · rw [none] at acts
          cases acts
        · rw [none] at named
          cases named
      · exact mem_namesUnder.mpr ⟨key, identity, value, found, inside⟩
    · rw [toolCallExceedsScope_facade facade allowed, toolCallExceedsScope_call call,
        if_neg concrete]

end Agreement

/-! A command, with the device under one of its keys. -/

def showVersion (key : Text) : List (Text × Json) :=
  [(key, .string "r1".toList), ("command".toList, .string "show version".toList)]

def commandArgs : ArgumentType := onDevice
  ["command".toList, "timeout".toList, "max_lines".toList, "max_bytes".toList, "tail".toList]

theorem commandArgs_typed : ("execute_junos_command".toList, commandArgs) ∈ argumentTypes :=
  List.mem_iff_getElem?.mpr ⟨9, rfl⟩

theorem alias_agree_iff :
    SelectorsAgree true "execute_junos_command".toList (showVersion "router".toList)
        ["r1".toList] ↔
      ["r1".toList] = ([] : List Text) ∨ namesUnder ownKeys (showVersion "router".toList) = [] :=
  @selectors_agree_iff true _ _ (showVersion "router".toList) [.given ["r1".toList]]
    commandArgs_typed rfl

/-- The limits do not see a device under the field's own key. -/
theorem canonical_key_unlimited :
    ¬∀ (srx : Bool) (tool : Text) (type : ArgumentType) (members : List (Text × Json))
      (targets : List Target), (tool, type) ∈ argumentTypes → type.read members = some targets →
      SelectorsAgree srx tool members (actedOn targets) := by
  intro holds
  have agree := holds true _ _ (showVersion "device".toList) [.given ["r1".toList]]
    commandArgs_typed rfl
  have seen := agree.limits "r1".toList (List.mem_singleton_self _)
  revert seen
  decide

end JunosMcp
