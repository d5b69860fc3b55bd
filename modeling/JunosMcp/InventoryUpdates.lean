import JunosMcp.InventoryFile
import JunosMcp.Lib.Concurrent

/-!
# Updates of the inventory

`add_device` and `reload_devices` as programs over the file and the stores of the device manager.
Both take the manager's write lock, which is given back when the call ends. What is parsed is kept
with the content it was parsed from.
-/

namespace JunosMcp.InventoryFile

open ChangeSet Lib

section Model

variable {Content Digest : Type} (crates : InventoryCrates Content Digest)
  (policyCrate : PolicyCrate)

structure Loaded where
  content : Content
  inventory : FileInventory
  parsed : crates.fileInventory content = .ok inventory

structure ReadError where
  notFound : Bool
  text : Text

/-- The temporary file of a call is its own. -/
inductive File where
  | named (path : Text)
  | staged

inductive Purpose where
  | load
  | hash
  | extend
deriving DecidableEq

inductive InventoryOp where
  | inventory
  | lock
  | unlock
  | inventoryPath
  | inventoryHash
  | isFile (path : Text)
  | canonicalize (path : Text)
  | keyExists (path : Text)
  | read (purpose : Purpose) (file : File)
  | stage (path : Text) (content : Content)
  | persist (path : Text)
  | storeInventory (new : Loaded crates)
  | storePath (path : Text)
  | storeHash (hash : Digest)
  | storePolicy (policy : Policy policyCrate)
  | invalidatePool (names : List Text)

abbrev InventoryAnswer : InventoryOp crates policyCrate → Type
  | .inventory => Loaded crates
  | .inventoryPath => Text
  | .inventoryHash => Digest
  | .isFile _ | .keyExists _ => Bool
  | .canonicalize _ => Except Text Text
  | .read _ _ => Except ReadError Content
  | .stage _ _ | .persist _ => Except Text Unit
  | _ => Unit

abbrev InventoryProg (α : Type) :=
  Prog (InventoryOp crates policyCrate) (InventoryAnswer crates policyCrate) α

variable {policyCrate}

abbrev Outcome (α : Type) := Except JmcpError α

/-! ## Reading -/

/-- `hash_file`: a file that is not there has the digest of zeros. -/
def hashFile (file : File) : InventoryProg crates policyCrate (Outcome Digest) :=
  .step (.read .hash file) fun
    | .ok content => .pure (.ok (crates.sha256 content))
    | .error error =>
        if error.notFound then .pure (.ok crates.zeroDigest)
        else .pure (.error (.inventoryRead error.text))

def invalidEntry (name : Text) (why : String) : JmcpError :=
  .inventoryInvalid ("router '".toList ++ name ++ "': ".toList ++ why.toList)

def nameRule : String := "(must match ^[A-Za-z0-9_.-]\x7b1,64\x7d$, no leading '-')"

def validateMode (device : Text × InventoryEntry) : Outcome Unit :=
  match device.2.blocklist.bind BlocklistRules.mode with
  | some _ => .error (invalidEntry device.1 ("blocklist.mode is not allowed on a per-device " ++
      "blocklist; 'mode' is policy-wide and must be set only in _blocklist_defaults"))
  | none => .ok ()

def validateEntry (device : Text × InventoryEntry) :
    InventoryProg crates policyCrate (Outcome Unit) :=
  let (name, entry) := device
  if !isValidDeviceName name then .pure (.error (invalidEntry name ("name is invalid " ++ nameRule)))
  else if !isValidIpOrHostname entry.ip then
    .pure (.error (invalidEntry name "ip/hostname is invalid"))
  else if entry.port = 0 then .pure (.error (invalidEntry name "port must be non-zero"))
  else if !isValidSshUsername entry.username then
    .pure (.error (invalidEntry name ("username is invalid " ++ nameRule)))
  else match entry.auth with
    | .password _ => .pure (validateMode device)
    | .sshKey path =>
        if !isValidAuthPath path then .pure (.error (invalidEntry name
          "private_key_path is invalid (empty, contains NUL, or starts with '-')"))
        else .step (.keyExists path) fun present =>
          if present then .pure (validateMode device) else .pure (.error (.keyFileMissing path))

def validateAll : List (Text × InventoryEntry) → InventoryProg crates policyCrate (Outcome Unit)
  | [] => .pure (.ok ())
  | device :: rest => (validateEntry crates device).andThen fun _ => validateAll rest

def Loaded.parse (content : Content) : Outcome (Loaded crates) :=
  match parsed : crates.fileInventory content with
  | .ok inventory => .ok ⟨content, inventory, parsed⟩
  | .error text => .error (.inventoryInvalid text)

/-- `Inventory::load`. -/
def load (file : File) : InventoryProg crates policyCrate (Outcome (Loaded crates)) :=
  .step (.read .load file) fun
    | .error error => .pure (.error (.inventoryInvalid error.text))
    | .ok content =>
        Prog.andThen (.pure (Loaded.parse crates content)) fun loaded =>
        (validateAll crates (crates.hashOrder loaded.inventory.devices)).andThen fun _ =>
        .pure (.ok loaded)

/-- `Inventory::load` with its error read as one of parsing. -/
def loadParsed (file : File) : InventoryProg crates policyCrate (Outcome (Loaded crates)) :=
  (load crates file).bind fun result =>
    .pure (result.mapError fun error => .inventoryParse error.display)

/-! ## The lock and the stores -/

def withLock {α : Type} (body : InventoryProg crates policyCrate α) :
    InventoryProg crates policyCrate α :=
  .step .lock fun _ => body.bind fun result => .step .unlock fun _ => .pure result

/-- `store_inventory`, and then the policy. -/
def swapIn {α : Type} (loaded : Loaded crates) (path : Text) (hash : Digest)
    (policy : Policy policyCrate) (rest : InventoryProg crates policyCrate α) :
    InventoryProg crates policyCrate α :=
  .step (.storeInventory loaded) fun _ =>
  .step (.storePath path) fun _ =>
  .step (.storeHash hash) fun _ =>
  .step (.storePolicy policy) fun _ => rest

inductive UpdateReport where
  | added (name path : Text) (routerCount : Nat)
  | reloaded (previousRouterCount newRouterCount : Nat) (added removed changed : List Text)
      (path : Text)

/-! ## `add_device` -/

variable [DecidableEq Digest]

/-- `add_device`, with the file staged. -/
def commitStaged (resolved : ResolvedAdd) (path : Text) :
    InventoryProg crates policyCrate (Outcome UpdateReport) :=
  (loadParsed crates .staged).andThen fun loaded =>
  Prog.andThen (.pure (Policy.build policyCrate loaded.inventory.rules)) fun policy =>
  (hashFile crates .staged).andThen fun hash =>
  .step (.persist path) fun
    | .error text => .pure (.error (.inventoryWrite text))
    | .ok () => swapIn crates loaded path hash policy <|
        .step .inventory fun now =>
        .pure (.ok (.added resolved.deviceName path now.inventory.devices.length))

/-- `add_device`, behind the comparison of the hashes. -/
def extendFile (resolved : ResolvedAdd) (path : Text) :
    InventoryProg crates policyCrate (Outcome UpdateReport) :=
  .step (.read .extend (.named path)) fun
    | .error error => .pure (.error (.inventoryRead error.text))
    | .ok raw => match crates.fromSlice raw with
        | .error text => .pure (.error (.inventoryParse text))
        | .ok value => match insertDevice value resolved with
            | .error error => .pure (.error error)
            | .ok updated => .step (.stage path (crates.toPretty updated)) fun
                | .error text => .pure (.error (.inventoryWrite text))
                | .ok () => commitStaged crates resolved path

/-- `add_device` under the lock. -/
def addLocked (resolved : ResolvedAdd) : InventoryProg crates policyCrate (Outcome UpdateReport) :=
  .step .inventoryPath fun path =>
  if path.isEmpty then .pure (.error (.inventoryWrite ("inventory has no on-disk path; ".toList ++
    "add_device requires --device-mapping to point at a writable file".toList)))
  else (hashFile crates (.named path)).andThen fun onDisk =>
  .step .inventoryHash fun known =>
  if onDisk ≠ known then .pure (.error .inventoryDriftedOnDisk)
  else extendFile crates resolved path

def addDevice (config : InventoryConfig) (args : AddDeviceArgs) :
    InventoryProg crates policyCrate (Outcome UpdateReport) :=
  .step .inventory fun now => match validate config now.inventory args with
    | .error error => .pure (.error error)
    | .ok resolved => withLock crates (addLocked crates resolved)

/-! ## `reload_devices` -/

def removeTrailing : List Text → List Text
  | [] => []
  | [first] => [first]
  | piece :: rest => if piece = [] ∨ piece = ['.'] then removeTrailing rest else piece :: rest

/-- `Path::parent`. -/
def parentPath (path : Text) : Option Text :=
  match removeTrailing (path.splitOn '/').reverse with
  | [] | [[]] => none
  | [_] => some []
  | _ :: rest => match removeTrailing rest with
      | [[]] => some ['/']
      | kept => some (['/'].intercalate kept.reverse)

/-- `Path::join` with a relative path. -/
def joinPath (parent path : Text) : Text :=
  if parent = [] then path
  else if parent.getLast? = some '/' then parent ++ path else parent ++ ['/'] ++ path

/-- `Path::starts_with` on canonical paths. -/
def pathStartsWith (path base : Text) : Bool :=
  ((base.splitOn '/').filter (· ≠ [])).isPrefixOf ((path.splitOn '/').filter (· ≠ []))

def noParent : JmcpError :=
  .inventoryInvalid "current inventory path has no parent directory".toList

/-- The file a reload is asked for. -/
def reloadPath (current : Text) : Option Text → Outcome Text
  | none | some [] => .ok current
  | some asked =>
      if "..".toList ∈ asked.splitOn '/' then
        .error (.inventoryInvalid "file_name must not contain '..' path components".toList)
      else if asked.head? = some '/' then .error (.inventoryInvalid
        "file_name must be a relative path within the inventory directory".toList)
      else match parentPath current with
        | none => .error noParent
        | some parent => .ok (joinPath parent asked)

/-- A file that is named has to lie in the directory of the inventory. -/
def checkInside (current path : Text) : Option Text →
    InventoryProg crates policyCrate (Outcome Unit)
  | none | some [] => .pure (.ok ())
  | some _ => match parentPath current with
      | none => .pure (.error noParent)
      | some parent => .step (.canonicalize parent) fun
          | .error text => .pure (.error (.inventoryRead text))
          | .ok directory => .step (.canonicalize path) fun
              | .error text => .pure (.error (.inventoryRead text))
              | .ok resolved =>
                  if pathStartsWith resolved directory then .pure (.ok ())
                  else .pure (.error (.inventoryInvalid
                    ("file_name resolves outside inventory directory (resolved=".toList ++
                      crates.display resolved ++ ", inventory_dir=".toList ++
                      crates.display directory ++ ")".toList)))

def changedDevices (previous new : FileInventory) : List Text :=
  previous.names.filter fun name => match previous.get name, new.get name with
    | some p, some n => !inventoryEntryEqual p.toDeviceEntry n.toDeviceEntry
    | _, _ => false

def missingFrom (names : List Text) (inventory : FileInventory) : List Text :=
  names.filter fun name => (inventory.get name).isNone

def reloadReport (previous new : FileInventory) (path : Text) : UpdateReport :=
  .reloaded previous.devices.length new.devices.length (missingFrom new.names previous)
    (missingFrom previous.names new) (changedDevices previous new) path

/-- `reload_devices`, with the new inventory loaded. -/
def swapLoaded (path : Text) (loaded : Loaded crates) :
    InventoryProg crates policyCrate (Outcome UpdateReport) :=
  .step .inventory fun previous =>
  let removed := missingFrom previous.inventory.names loaded.inventory
  let changed := changedDevices previous.inventory loaded.inventory
  let report := reloadReport previous.inventory loaded.inventory path
  Prog.andThen (.pure (Policy.build policyCrate loaded.inventory.rules)) fun policy =>
  (hashFile crates (.named path)).andThen fun hash =>
  swapIn crates loaded path hash policy <|
    if removed ++ changed = [] then .pure (.ok report)
    else .step (.invalidatePool (removed ++ changed)) fun _ => .pure (.ok report)

/-- `reload_devices` under the lock. -/
def reloadLocked (fileName : Option Text) :
    InventoryProg crates policyCrate (Outcome UpdateReport) :=
  .step .inventoryPath fun current =>
  Prog.andThen (.pure (reloadPath current fileName)) fun path =>
  .step (.isFile path) fun present =>
  if !present then .pure (.error (.inventoryRead
    ("not a regular file: ".toList ++ crates.display path)))
  else (checkInside crates current path fileName).andThen fun _ =>
  (loadParsed crates (.named path)).andThen fun loaded =>
  if loaded.inventory.devices = [] then .pure (.error .emptyInventory)
  else swapLoaded crates path loaded

def reload (fileName : Option Text) : InventoryProg crates policyCrate (Outcome UpdateReport) :=
  withLock crates (reloadLocked crates fileName)

def reloadDevices (config : InventoryConfig) (fileName : Option Text) :
    InventoryProg crates policyCrate (Outcome UpdateReport) :=
  if config.inventoryReadonly then .pure (.error .inventoryReadonly)
  else reload crates fileName

inductive UpdateCall where
  | add (args : AddDeviceArgs)
  | reload (fileName : Option Text)
  /-- `reload_current_from_disk`. -/
  | refresh

def UpdateCall.run (config : InventoryConfig) :
    UpdateCall → InventoryProg crates policyCrate (Outcome UpdateReport)
  | .add args => addDevice crates config args
  | .reload fileName => reloadDevices crates config fileName
  | .refresh => InventoryFile.reload crates none

end Model

end JunosMcp.InventoryFile
