import JunosMcp.ChangeSet.Apply
import JunosMcp.DeviceManager
import JunosMcp.IpAddr
import JunosMcp.Json
import JunosMcp.Output
import JunosMcp.Policy

/-!
# The inventory file

What `add_device` accepts and where it writes a device in the file, for both shapes a file can have.
The file is read by `mecmcp_inventory`, whose readings are a parameter.
-/

namespace JunosMcp.InventoryFile

open ChangeSet

/-! ## Validators -/

def isNameCharacter (c : Char) : Bool := c.isAlphanum || c == '_' || c == '.' || c == '-'

def isValidDeviceName (s : Text) : Bool :=
  !(s.isEmpty || decide (64 < utf8Len s) || s.head? == some '-') && s.all isNameCharacter

def isValidLabel (label : Text) : Bool :=
  !label.isEmpty && decide (utf8Len label ≤ 63) && label.head? != some '-' &&
    label.getLast? != some '-' && label.all fun c => c.isAlphanum || c == '-'

def isValidIpOrHostname (s : Text) : Bool :=
  (IpAddr.parse s).isSome ||
    !(s.isEmpty || decide (253 < utf8Len s)) && (s.splitOn '.').all isValidLabel

def isValidSshUsername (s : Text) : Bool :=
  !(s.isEmpty || decide (64 < utf8Len s) || s.head? == some '-') && s.all isNameCharacter

def isValidAuthPath (path : Text) : Bool :=
  !path.isEmpty && path.all (fun c => c.toNat != 0) && path.head? != some '-'

/-! ## Entries -/

structure InventoryEntry extends DeviceEntry where
  blocklist : Option BlocklistRules
  configAuthority : JunosAuthority
  deriving DecidableEq

/-- What is read of a file: the devices in the order of their names. -/
structure FileInventory where
  devices : List (Text × InventoryEntry)
  policy : Option BlocklistRules
  sorted : (devices.map Prod.fst).Pairwise (· < ·)

namespace FileInventory

def get (inventory : FileInventory) (name : Text) : Option InventoryEntry :=
  inventory.devices.lookup name

def names (inventory : FileInventory) : List Text := inventory.devices.map Prod.fst

/-- What `Policy::build` reads. -/
def rules (inventory : FileInventory) : PolicyInventory where
  devices := inventory.devices.map fun device => (device.1, device.2.blocklist)
  blocklistDefaults := inventory.policy
  sorted := by
    rw [List.map_map]
    exact inventory.sorted

end FileInventory

/-- What other crates make of the bytes of a file. -/
structure InventoryCrates (Content Digest : Type) where
  /-- `serde_json::from_slice`. -/
  fromSlice : Content → Except Text Json
  /-- `serde_json::to_string_pretty`, and a newline. -/
  toPretty : Json → Content
  sha256 : Content → Digest
  /-- 32 zero bytes. -/
  zeroDigest : Digest
  /-- `FileInventory::<DeviceEntry, BlocklistRules>::load`. -/
  fileInventory : Content → Except Text FileInventory
  /-- The order a `HashMap` of devices is gone through in. -/
  hashOrder : List (Text × InventoryEntry) → List (Text × InventoryEntry)
  /-- `Path::display`. -/
  display : Text → Text

/-! ## `add_device` -/

structure AddDeviceArgs where
  deviceName : Option Text
  deviceIp : Option Text
  devicePort : Option Nat
  username : Option Text
  auth : Option AuthConfig

structure ResolvedAdd where
  deviceName : Text
  deviceIp : Text
  devicePort : Nat
  username : Text
  auth : AuthConfig

/-- How the server was started. -/
structure InventoryConfig where
  inventoryReadonly : Bool
  allowPasswordAuthAdd : Bool

def AddDeviceArgs.missing (args : AddDeviceArgs) : List Text :=
  (if args.deviceName.isNone then ["device_name".toList] else []) ++
  (if args.deviceIp.isNone then ["device_ip".toList] else []) ++
  (if args.username.isNone then ["username".toList] else []) ++
  (if args.auth.isNone then ["auth".toList] else [])

def checkAuth (config : InventoryConfig) : AuthConfig → Except JmcpError Unit
  | .password _ => if config.allowPasswordAuthAdd then .ok () else .error .passwordAuthDisabled
  | .sshKey path =>
      if isValidAuthPath path then .ok ()
      else .error (.validation ("invalid private_key_path `".toList ++ path ++
        "`: must be non-empty and must not start with '-'".toList))

def validate (config : InventoryConfig) (inventory : FileInventory) (args : AddDeviceArgs) :
    Except JmcpError ResolvedAdd :=
  if config.inventoryReadonly then .error .inventoryReadonly
  else match args.deviceName, args.deviceIp, args.username, args.auth with
    | some name, some ip, some username, some auth =>
        let port := args.devicePort.getD 22
        if !isValidDeviceName name then .error (.invalidDeviceName name)
        else if (inventory.get name).isSome then .error (.deviceExists name)
        else if !isValidIpOrHostname ip then .error (.invalidDeviceIp ip)
        else if port < 1 ∨ 65535 < port then .error (.invalidDevicePort port)
        else do
          checkAuth config auth
          if isValidSshUsername username then return ⟨name, ip, port, username, auth⟩
          else throw (.validation ("invalid username `".toList ++ username ++
            "`: must match ^[A-Za-z0-9_.-]\x7b1,64\x7d$ and must not start with '-'".toList))
    | _, _, _, _ => .error (.missingArguments args.missing)

/-- `AuthConfig` as `serde` writes it. -/
def authJson : AuthConfig → Json
  | .password password =>
      .object [("type".toList, .string "password".toList), ("password".toList, .string password)]
  | .sshKey path =>
      .object [("type".toList, .string "ssh_key".toList), ("private_key_path".toList, .string path)]

def ResolvedAdd.json (resolved : ResolvedAdd) : Json :=
  .object [("ip".toList, .string resolved.deviceIp),
    ("port".toList, .number (Nat.repr resolved.devicePort).toList),
    ("username".toList, .string resolved.username), ("auth".toList, authJson resolved.auth)]

/-- The entry that is meant. -/
def ResolvedAdd.entry (resolved : ResolvedAdd) : InventoryEntry where
  ip := resolved.deviceIp
  port := resolved.devicePort
  username := resolved.username
  auth := resolved.auth
  sshConfig := none
  blocklist := none
  configAuthority := .unknown

def devicesKey : Text := "devices".toList

def insertInto (members : List (Text × Json)) (resolved : ResolvedAdd) :
    Except JmcpError (List (Text × Json)) :=
  if (Json.get members resolved.deviceName).isSome then .error (.deviceExists resolved.deviceName)
  else .ok (Json.insert resolved.deviceName resolved.json members)

def insertDevice (value : Json) (resolved : ResolvedAdd) : Except JmcpError Json :=
  match value with
  | .object members => match Json.get members devicesKey with
      | some (.object devices) => do
          let devices ← insertInto devices resolved
          return .object (Json.insert devicesKey (.object devices) members)
      | some _ => .error (.inventoryParse ("this inventory keeps its devices in a form ".toList ++
          "add_device cannot extend (`devices` is present but is not an object); ".toList ++
          "add the device by editing the file directly".toList))
      | none => do
          let members ← insertInto members resolved
          return .object members
  | _ => .error (.inventoryParse "top-level inventory is not a JSON object".toList)

end JunosMcp.InventoryFile
