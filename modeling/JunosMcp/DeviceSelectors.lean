import JunosMcp.Json
import JunosMcp.Scope
import Mathlib.Data.List.Basic
import Mathlib.Tactic.Common

/-!
# Keys that select devices

Three places read the target of a call by its keys: the type of the tool's arguments, the preflight
of the HTTP transport, and the limits of the transport, which are given theirs.
-/

namespace JunosMcp

namespace Json

/-- `Value::get` with a key. -/
def field (key : Text) : Json → Option Json
  | .object members => get members key
  | _ => none

def asStr : Json → Option Text
  | .string value => some value
  | _ => none

end Json

/-! ## The preflight -/

/-- `DEVICE_SELECTOR_KEYS`. -/
def deviceSelectorKeys : List Text :=
  ["device".toList, "device_name".toList, "devices".toList, "device_names".toList,
   "router".toList, "router_name".toList, "routers".toList, "router_names".toList]

/-- `JUNOS_TOOLS`. -/
def junosTools : List Text :=
  ["add_device".toList, "apply_junos_change_set".toList, "approve_junos_change_set".toList,
   "cancel_junos_change_set".toList, "commit_check_config".toList, "confirm_commit".toList,
   "confirm_junos_change_set".toList, "create_junos_change_set".toList,
   "discard_candidate".toList, "execute_junos_command".toList,
   "execute_junos_command_batch".toList, "execute_junos_pfe_command".toList, "fetch_file".toList,
   "gather_device_facts".toList, "get_device_list".toList,
   "get_junos_candidate_fingerprint".toList, "get_junos_change_set_status".toList,
   "get_junos_config".toList, "get_router_list".toList, "junos_config_diff".toList,
   "list_junos_change_sets".toList, "list_staged_files".toList, "load_and_commit_config".toList,
   "reload_devices".toList, "render_and_apply_j2_template".toList, "rollback_config".toList,
   "transfer_file".toList, "upgrade_junos".toList]

/-- `SRX_TOOLS`. -/
def srxTools : List Text :=
  ["check_srx_feature_license".toList, "collect_jtac_support_bundle".toList,
   "get_chassis_cluster_status".toList, "get_srx_security_services_status".toList,
   "manage_appid_signature_package".toList, "manage_idp_security_package".toList,
   "srx_flow_sessions".toList, "srx_list_nat_rules".toList, "srx_list_policies".toList,
   "srx_policy_match".toList, "srx_resolve_address".toList, "srx_resolve_application".toList,
   "srxmcp_status".toList, "validate_chassis_cluster_health".toList,
   "vpn_lifecycle_report".toList]

/-- The operations of the facade, with or without the `srx` feature. -/
def facadeOperations (srx : Bool) : List Text := junosTools ++ if srx then srxTools else []

section Preflight

variable (srx : Bool) (caller : CallerCtx)

def deviceValueInScope : Json → Bool
  | .string device => caller.allowsDevice device
  | .array devices => !devices.isEmpty && devices.all fun d => d.asStr.any caller.allowsDevice
  | _ => false

/-- Missing arguments are those of a tool without any. -/
def argumentsExceedDeviceScope : Option Json → Bool
  | some (.object members) => deviceSelectorKeys.any fun key =>
      (Json.get members key).any fun value => !deviceValueInScope caller value
  | some _ => true
  | none => false

/-- Malformed calls of the facade are left to the handler. -/
def facadeCallExceedsScope (outerArguments : Option Json) : Bool :=
  match (outerArguments.bind (Json.field "operation".toList)).bind Json.asStr with
  | none => false
  | some operation =>
      if operation ∈ facadeOperations srx then
        if caller.allowsTool operation then
          match outerArguments.bind (Json.field "arguments".toList) with
          | some (.object members) => argumentsExceedDeviceScope caller (some (.object members))
          | _ => false
        else true
      else false

def toolCallExceedsScope (value : Json) : Bool :=
  if (value.field "method".toList).bind Json.asStr ≠ some "tools/call".toList then false
  else match value.field "params".toList with
    | none => false
    | some params => match (params.field "name".toList).bind Json.asStr with
        | none => false
        | some tool =>
            if caller.allowsTool tool then
              if tool = "execute".toList then
                facadeCallExceedsScope srx caller (params.field "arguments".toList)
              else argumentsExceedDeviceScope caller (params.field "arguments".toList)
            else true

/-- A body that is no JSON, or none at all, is not refused here. -/
def requestExceedsScope (fromSlice : List UInt8 → Option Json) (bytes : List UInt8) : Bool :=
  if bytes.isEmpty then false
  else match fromSlice bytes with
    | none => false
    | some (.array values) => values.any (toolCallExceedsScope srx caller)
    | some value => toolCallExceedsScope srx caller value

end Preflight

/-! ## The limits -/

/-- The keys of the target in the `TransportIdentity`. -/
def identityKeys : List Text :=
  ["router".toList, "router_name".toList, "routers".toList, "router_names".toList]

def namesIn : Json → List Text
  | .string name => [name]
  | .array items => items.filterMap Json.asStr
  | _ => []

/-- The names that stand under keys of an object. -/
def namesUnder (keys : List Text) (members : List (Text × Json)) : List Text :=
  keys.flatMap fun key => ((Json.get members key).map namesIn).getD []

/-! ## Types of arguments -/

/-- `String`, `Option<String>`, `string_or_vec` and `Option<Vec<String>>`. -/
inductive SelectorType where
  | one
  | optional
  | oneOrMany
  | optionalMany
deriving DecidableEq

inductive Target where
  | absent
  | given (names : List Text)

def Target.names? : Target → Option (List Text)
  | .absent => none
  | .given names => some names

def SelectorType.parse : SelectorType → Json → Option Target
  | .one, .string name | .optional, .string name | .oneOrMany, .string name => some (.given [name])
  | .oneOrMany, .array items | .optionalMany, .array items =>
      (items.mapM Json.asStr).map Target.given
  | .optional, .null | .optionalMany, .null => some .absent
  | _, _ => none

def SelectorType.missing : SelectorType → Option Target
  | .one | .oneOrMany => none
  | .optional | .optionalMany => some .absent

/-- A field that names devices, with its key and the aliases of it. -/
structure Selector where
  keys : List Text
  type : SelectorType

/-- Two keys of one field are a duplicate. -/
def Selector.read (members : List (Text × Json)) (selector : Selector) : Option Target :=
  match members.filter fun member => member.1 ∈ selector.keys with
  | [] => selector.type.missing
  | [member] => selector.type.parse member.2
  | _ => none

/-- The fields of a type of arguments; unknown ones are denied. -/
structure ArgumentType where
  selectors : List Selector
  others : List Text

/-- The targets among the arguments. The other fields may be read or not. -/
def ArgumentType.read (type : ArgumentType) (members : List (Text × Json)) :
    Option (List Target) :=
  if members.all fun member => member.1 ∈ type.others ∨
      ∃ selector ∈ type.selectors, member.1 ∈ selector.keys then
    type.selectors.mapM (Selector.read members)
  else none

/-- The devices a handler acts on. Of the two fields of a template one has to be given. -/
def actedOn (targets : List Target) : List Text :=
  match targets.filterMap Target.names? with
  | [names] => names
  | _ => []

def deviceSelector (type : SelectorType) : Selector :=
  ⟨["device".toList, "router_name".toList, "router".toList], type⟩

def onDevice (others : List Text) : ArgumentType := ⟨[deviceSelector .one], others⟩

def onRouter (others : List Text) : ArgumentType :=
  ⟨[⟨["router".toList, "router_name".toList], .one⟩], others⟩

def withoutArguments : ArgumentType := ⟨[], []⟩

def packageArgs : ArgumentType := onRouter
  ["action".toList, "version".toList, "confirm".toList, "confirmation_token".toList,
   "timeout".toList, "include_raw".toList]

/-- The type of each tool's arguments. -/
def argumentTypes : List (Text × ArgumentType) :=
  [("add_device".toList, ⟨[⟨["device_name".toList], .optional⟩],
      ["device_ip".toList, "device_port".toList, "username".toList, "auth".toList]⟩),
   ("apply_junos_change_set".toList, onDevice ["change_set_id".toList, "expected_digest".toList,
      "expected_fingerprint".toList, "confirm_timeout_mins".toList]),
   ("approve_junos_change_set".toList,
      onDevice ["change_set_id".toList, "expected_digest".toList]),
   ("cancel_junos_change_set".toList, onDevice ["change_set_id".toList]),
   ("commit_check_config".toList,
      onDevice ["config_text".toList, "config_format".toList, "timeout".toList]),
   ("confirm_commit".toList, onDevice ["timeout".toList]),
   ("confirm_junos_change_set".toList, onDevice ["operation_id".toList]),
   ("create_junos_change_set".toList,
      onDevice ["expected_fingerprint".toList, "actions".toList]),
   ("discard_candidate".toList, onDevice ["timeout".toList]),
   ("execute_junos_command".toList, onDevice ["command".toList, "timeout".toList,
      "max_lines".toList, "max_bytes".toList, "tail".toList]),
   ("execute_junos_command_batch".toList,
      ⟨[⟨["devices".toList, "routers".toList, "router".toList, "router_name".toList], .oneOrMany⟩],
       ["commands".toList, "command_timeout".toList, "batch_timeout".toList,
        "max_concurrent_devices".toList, "max_concurrent_routers".toList, "max_lines".toList,
        "max_bytes".toList, "tail".toList]⟩),
   ("execute_junos_pfe_command".toList, onDevice ["fpc_target".toList, "pfe_command".toList,
      "timeout".toList, "max_lines".toList, "max_bytes".toList, "tail".toList]),
   ("fetch_file".toList, onDevice ["remote_path".toList, "local_name".toList, "force".toList,
      "verify".toList, "timeout".toList]),
   ("gather_device_facts".toList, onDevice ["timeout".toList]),
   ("get_device_list".toList, withoutArguments),
   ("get_junos_candidate_fingerprint".toList, onDevice []),
   ("get_junos_change_set_status".toList, onDevice ["change_set_id".toList]),
   ("get_junos_config".toList, onDevice ["timeout".toList, "config_path".toList,
      "filter".toList, "format".toList, "max_lines".toList, "max_bytes".toList, "tail".toList]),
   ("get_router_list".toList, withoutArguments),
   ("junos_config_diff".toList, onDevice ["version".toList, "timeout".toList]),
   ("list_junos_change_sets".toList, ⟨[deviceSelector .optional], []⟩),
   ("list_staged_files".toList, ⟨[deviceSelector .optional], ["timeout".toList]⟩),
   ("load_and_commit_config".toList, onDevice ["config_text".toList, "config_format".toList,
      "mode".toList, "commit_comment".toList, "confirm_timeout_mins".toList, "timeout".toList]),
   ("reload_devices".toList, ⟨[], ["file_name".toList]⟩),
   ("render_and_apply_j2_template".toList,
      ⟨[⟨["device_name".toList, "router_name".toList, "router".toList], .optional⟩,
        ⟨["device_names".toList, "router_names".toList], .optionalMany⟩],
       ["template_content".toList, "vars_content".toList, "apply_config".toList,
        "commit_comment".toList, "dry_run".toList, "config_format".toList, "mode".toList,
        "confirm_timeout_mins".toList, "timeout".toList]⟩),
   ("rollback_config".toList, onDevice ["version".toList, "commit".toList,
      "confirm_timeout_mins".toList, "commit_comment".toList, "timeout".toList]),
   ("transfer_file".toList, onDevice ["source_path".toList, "force".toList, "verify".toList,
      "timeout".toList]),
   ("upgrade_junos".toList, onDevice ["source_path".toList, "target_version".toList,
      "confirm".toList, "timeout".toList, "reboot_wait_secs".toList]),
   ("check_srx_feature_license".toList, onRouter ["feature".toList, "include_raw".toList]),
   ("collect_jtac_support_bundle".toList, onRouter ["problem_type".toList, "request_id".toList,
      "include_logs".toList, "redact".toList, "max_log_bytes_per_file".toList,
      "max_log_files".toList, "timeout".toList]),
   ("get_chassis_cluster_status".toList, onRouter ["include_raw".toList]),
   ("get_srx_security_services_status".toList, onRouter ["include_raw".toList]),
   ("manage_appid_signature_package".toList, packageArgs),
   ("manage_idp_security_package".toList, packageArgs),
   ("srx_flow_sessions".toList, onRouter ["source_prefix".toList, "destination_prefix".toList,
      "source_port".toList, "destination_port".toList, "protocol".toList, "application".toList,
      "session_identifier".toList, "cap".toList, "acknowledge_unfiltered".toList,
      "include_raw".toList]),
   ("srx_list_nat_rules".toList, onRouter ["include_hit_counts".toList, "limit".toList,
      "include_raw".toList]),
   ("srx_list_policies".toList, onRouter ["from_zone".toList, "to_zone".toList,
      "policy_name".toList, "include_hit_counts".toList, "limit".toList, "offset".toList,
      "include_raw".toList]),
   ("srx_policy_match".toList, onRouter ["from_zone".toList, "to_zone".toList,
      "source_ip".toList, "destination_ip".toList, "source_port".toList,
      "destination_port".toList, "protocol".toList, "include_raw".toList]),
   ("srx_resolve_address".toList, onRouter ["name".toList, "zone".toList, "include_raw".toList]),
   ("srx_resolve_application".toList, onRouter ["name".toList, "include_raw".toList]),
   ("srxmcp_status".toList, withoutArguments),
   ("validate_chassis_cluster_health".toList, onRouter ["include_raw".toList,
      "request_id".toList]),
   ("vpn_lifecycle_report".toList, onRouter ["peer".toList, "tunnel".toList,
      "include_raw".toList])]

/-- Every tool has its type, in the order of the two registries. -/
example : argumentTypes.map Prod.fst = junosTools ++ srxTools := by decide

end JunosMcp
