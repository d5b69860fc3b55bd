import JunosMcp.InventoryHash

/-!
# Updates are all or nothing

Among any other updates, and edits of the files between the updates, an update that fails leaves the
stores and the files as it has found them. A device that was added is read where it was written, but
for the one name that a bare map keeps for the defaults of the policy.
-/

namespace JunosMcp.InventoryFile

open Lib Updating

variable {Content Digest Who : Type} {crates : InventoryCrates Content Digest}
  {policyCrate : PolicyCrate}

/-! ## Every update -/

section Every

variable [DecidableEq Who] [DecidableEq Digest] {stores : Stores crates policyCrate}
  {config : InventoryConfig} {requests : Who → UpdateCall}

/-- What waits is allowed, and what has stopped is settled. -/
theorem quiet_settled (reported : stores.hash = crates.sha256 stores.loaded.content)
    {site : Calls.Site (InventoryOp crates policyCrate) (InventoryAnswer crates policyCrate) Who
      (Updating crates policyCrate Who) (Outcome UpdateReport)}
    (reaches : Calls.Reaches (updates config requests QuietEdits) (.start stores) site) (who : Who) :
    (∀ op next, site.2 who = some (.step op next) → site.1.MayDo who op) ∧
      ∀ result, site.2 who = some (.pure result) →
        Settled True who ((requests who).Does True config) result site.1 := by
  have orderly : Calls.Orderly (pact calm_quiet)
      (fun who => Settled True who ((requests who).Does True config)) site :=
    Calls.Reaches.orderly (start_tracked reported)
      (fun who => amid_run config (requests who) rfl) reaches
  exact ⟨fun op next waits => orderly.sends waits, fun result stopped => orderly.returned stopped⟩

/-- What another call or a restart could see. -/
def Writes : InventoryOp crates policyCrate → Prop
  | .persist _ | .storeInventory _ | .storePath _ | .storeHash _ | .storePolicy _ => True
  | _ => False

omit [DecidableEq Who] [DecidableEq Digest] in
theorem writes_held {op : InventoryOp crates policyCrate} {who : Who}
    {s : Updating crates policyCrate Who} (writes : Writes op) (may : s.MayDo who op) :
    s.holder = some who := by
  cases op with
  | persist path => exact may.1
  | storeInventory new => exact may.1
  | storePath path => exact may
  | storeHash hash => exact may.1
  | storePolicy policy => exact may
  | _ => exact writes.elim

/-- The stores and the file are changed under the lock only, and an update that returns an error has
changed nothing under it. -/
theorem failed_update_unchanged (config : InventoryConfig) (requests : Who → UpdateCall)
    (reported : stores.hash = crates.sha256 stores.loaded.content) :
    ∀ site, Calls.Reaches (updates config requests QuietEdits) (.start stores) site → ∀ who,
      (∀ op next, site.2 who = some (.step op next) → Writes op → site.1.holder = some who) ∧
      ∀ error before after, site.2 who = some (.pure (.error error)) →
        site.1.ended who = some (before, after) → after = before := by
  intro site reaches who
  obtain ⟨waiting, settled⟩ := quiet_settled reported reaches who
  refine ⟨fun op next waits writes => writes_held writes (waiting op next waits), ?_⟩
  intro error before after stopped ended
  exact (settled _ stopped before after ended).eq

end Every

/-! ### An addition behind an edit -/

def sampleArgs : AddDeviceArgs :=
  ⟨some "r2".toList, some "h".toList, none, some "u".toList, some (.password "x".toList)⟩

def passwordsAllowed : InventoryConfig := ⟨false, true⟩

theorem sample_drifts : Leads (addDevice sampleCrates passwordsAllowed sampleArgs :
      InventoryProg sampleCrates prefixCrate _)
    [⟨.inventory, sampleLoaded ['a']⟩, ⟨.lock, ()⟩, ⟨.inventoryPath, "p".toList⟩,
      ⟨.read .hash (.named "p".toList), .ok ['b']⟩, ⟨.inventoryHash, ['a']⟩, ⟨.unlock, ()⟩]
    (.pure (.error .inventoryDriftedOnDisk)) :=
  .step (.step (.step (.step (.step (.step (.refl _))))))

/-- Of an addition behind an edit. -/
theorem failed_update_unchanged_drift : ∃ policy site before after, Calls.Reaches
    (updates passwordsAllowed (fun _ : Unit => .add sampleArgs) QuietEdits)
    (.start (sampleStores policy)) site ∧ site.2 () = some (.pure (.error .inventoryDriftedOnDisk)) ∧
      site.1.ended () = some (before, after) ∧ after = before := by
  obtain ⟨policy, -⟩ : ∃ policy, Policy.build prefixCrate (sampleInventory ['a']).rules =
    .ok policy := ⟨_, rfl⟩
  have begun : Calls.Reaches (updates passwordsAllowed (fun _ : Unit => .add sampleArgs) QuietEdits)
      (.start (sampleStores policy)) (edited policy, _) := .step .start (.outside ⟨⟨_, rfl⟩, rfl⟩)
  have reaches := begun.leads rfl sample_drifts (.step ⟨rfl, rfl⟩ (.step ⟨rfl, rfl⟩
    (.step ⟨rfl, rfl⟩ (.step (edited_read _ rfl _) (.step ⟨rfl, rfl⟩ (.step rfl (.refl _)))))))
  refine ⟨policy, _, _, _, reaches, rfl, rfl, ?_⟩
  exact (failed_update_unchanged _ _ rfl _ reaches ()).2 _ _ _ rfl rfl

/-! ## What is read of a file -/

def defaultsKey : Text := "_blocklist_defaults".toList

/-- The readings of `mecmcp_inventory`. -/
structure Shapes where
  entry : Json → Option InventoryEntry
  rules : Json → Option BlocklistRules
  /-- What an envelope makes of the one name that is none in a bare map. -/
  reserved : Json → Option InventoryEntry
  /-- What an envelope takes from its other members, and from that name. -/
  defaults : List (Text × Json) → Option Json → Option BlocklistRules

def Shapes.device (shapes : Shapes) (name : Text) : Json → Option InventoryEntry :=
  if name = defaultsKey then shapes.reserved else shapes.entry

/-- The keys of a bare map are devices, but for the defaults. -/
structure BareMap (shapes : Shapes) (members : List (Text × Json)) (inventory : FileInventory) :
    Prop where
  get : ∀ name, inventory.get name =
    if name = defaultsKey then none else (Json.get members name).bind shapes.entry
  policy : inventory.policy = (Json.get members defaultsKey).bind shapes.rules

/-- The devices of an envelope are the members of its `devices`, all of them. -/
structure Envelope (shapes : Shapes) (members devices : List (Text × Json))
    (inventory : FileInventory) : Prop where
  get : ∀ name, inventory.get name = (Json.get devices name).bind (shapes.device name)
  whole : ∀ name json, Json.get devices name = some json → (shapes.device name json).isSome
  policy : inventory.policy = shapes.defaults (members.filter fun member => member.1 ≠ devicesKey)
    (Json.get devices defaultsKey)

/-- How the files are read: what is written is read back, and `devices` tells the two shapes apart. -/
structure Shapes.Read (shapes : Shapes) (crates : InventoryCrates Content Digest) : Prop where
  back : ∀ {raw value resolved updated}, crates.fromSlice raw = .ok value →
    insertDevice value resolved = .ok updated → crates.fromSlice (crates.toPretty updated) = .ok updated
  bare : ∀ {content members inventory}, crates.fromSlice content = .ok (.object members) →
    Json.get members devicesKey = none → crates.fileInventory content = .ok inventory →
    BareMap shapes members inventory
  envelope : ∀ {content members devices inventory}, crates.fromSlice content = .ok (.object members) →
    Json.get members devicesKey = some (.object devices) → crates.fileInventory content = .ok inventory →
    Envelope shapes members devices inventory
  entry : ∀ resolved : ResolvedAdd, resolved.devicePort ≤ 65535 →
    shapes.entry resolved.json = some resolved.entry
  noText : ∀ text, shapes.entry (.string text) = none

/-- One device more, and the same policy. -/
structure Added (resolved : ResolvedAdd) (before after : FileInventory) : Prop where
  absent : before.get resolved.deviceName = none
  get : ∀ name, after.get name =
    if name = resolved.deviceName then some resolved.entry else before.get name
  policy : after.policy = before.policy

/-- The entry is read as the defaults of the policy, and there were none. -/
structure Misread (shapes : Shapes) (resolved : ResolvedAdd) (before after : FileInventory) :
    Prop where
  get : ∀ name, after.get name = before.get name
  none : before.policy = none
  policy : after.policy = shapes.rules resolved.json

section Shapes

variable {shapes : Shapes} {resolved : ResolvedAdd} {members devices : List (Text × Json)}
  {before after : FileInventory}

theorem insertInto_ok {updated : List (Text × Json)}
    (inserted : insertInto members resolved = .ok updated) :
    Json.get members resolved.deviceName = none ∧
      updated = Json.insert resolved.deviceName resolved.json members := by
  rw [insertInto] at inserted
  split at inserted
  · cases inserted
  · next absent =>
      cases inserted
      exact ⟨Option.not_isSome_iff_eq_none.mp absent, rfl⟩

/-- A file that was extended is a bare map, or an envelope with its devices in an object. -/
theorem insertDevice_ok {value updated : Json} (inserted : insertDevice value resolved = .ok updated) :
    ∃ members, value = .object members ∧
      ((Json.get members devicesKey = none ∧ Json.get members resolved.deviceName = none ∧
        updated = .object (Json.insert resolved.deviceName resolved.json members)) ∨
      ∃ devices, Json.get members devicesKey = some (.object devices) ∧
        Json.get devices resolved.deviceName = none ∧
        updated = .object (Json.insert devicesKey
          (.object (Json.insert resolved.deviceName resolved.json devices)) members)) := by
  cases value with
  | object members =>
      refine ⟨members, rfl, ?_⟩
      rw [insertDevice] at inserted
      split at inserted
      · next devices shape =>
          cases done : insertInto devices resolved with
          | error error =>
              rw [done] at inserted
              cases inserted
          | ok kept =>
              rw [done] at inserted
              cases inserted
              obtain ⟨absent, rfl⟩ := insertInto_ok done
              exact .inr ⟨devices, shape, absent, rfl⟩
      · cases inserted
      · next shape =>
          cases done : insertInto members resolved with
          | error error =>
              rw [done] at inserted
              cases inserted
          | ok kept =>
              rw [done] at inserted
              cases inserted
              obtain ⟨absent, rfl⟩ := insertInto_ok done
              exact .inl ⟨shape, absent, rfl⟩
  | _ => cases inserted

theorem filter_insert_self (key : Text) (value : Json) (members : List (Text × Json)) :
    (Json.insert key value members).filter (fun member => member.1 ≠ key) =
      members.filter fun member => member.1 ≠ key := by
  induction members with
  | nil => simp [Json.insert]
  | cons member rest ih =>
      rw [Json.insert]
      split
      · next same => simp [same]
      · rw [List.filter_cons, List.filter_cons, ih]

theorem bare_added (was : BareMap shapes members before)
    (is : BareMap shapes (Json.insert resolved.deviceName resolved.json members) after)
    (absent : Json.get members resolved.deviceName = none)
    (entry : shapes.entry resolved.json = some resolved.entry)
    (other : resolved.deviceName ≠ defaultsKey) : Added resolved before after where
  absent := by
    rw [was.get, if_neg other, absent]
    rfl
  get name := by
    rw [is.get, was.get]
    by_cases same : name = resolved.deviceName
    · subst same
      rw [if_neg other, if_pos rfl, Json.get_insert_self]
      exact entry
    · rw [if_neg same, Json.get_insert_of_ne _ _ (Ne.symm same)]
  policy := by
    rw [is.policy, was.policy, Json.get_insert_of_ne _ _ other]

theorem bare_misread (was : BareMap shapes members before)
    (is : BareMap shapes (Json.insert resolved.deviceName resolved.json members) after)
    (absent : Json.get members resolved.deviceName = none)
    (same : resolved.deviceName = defaultsKey) : Misread shapes resolved before after where
  get name := by
    rw [is.get, was.get]
    split
    · rfl
    · next other => rw [Json.get_insert_of_ne _ _ (same ▸ Ne.symm other)]
  none := by
    rw [was.policy, ← same, absent]
    rfl
  policy := by
    rw [is.policy, ← same, Json.get_insert_self]
    rfl

theorem envelope_added {others : List (Text × Json)} (was : Envelope shapes members devices before)
    (is : Envelope shapes others (Json.insert resolved.deviceName resolved.json devices) after)
    (kept : others.filter (fun member => member.1 ≠ devicesKey) =
      members.filter fun member => member.1 ≠ devicesKey)
    (absent : Json.get devices resolved.deviceName = none)
    (entry : shapes.entry resolved.json = some resolved.entry)
    (other : resolved.deviceName ≠ defaultsKey) : Added resolved before after where
  absent := by
    rw [was.get, absent]
    rfl
  get name := by
    rw [is.get, was.get]
    by_cases same : name = resolved.deviceName
    · subst same
      rw [if_pos rfl, Json.get_insert_self, Shapes.device, if_neg other]
      exact entry
    · rw [if_neg same, Json.get_insert_of_ne _ _ (Ne.symm same)]
  policy := by
    rw [is.policy, was.policy, kept, Json.get_insert_of_ne _ _ other]

/-- What an added device leaves. -/
structure Extended (shapes : Shapes) (resolved : ResolvedAdd)
    (before after : Stores crates policyCrate) : Prop where
  current : before.files before.path = some before.loaded.content
  files : after.files = Function.update before.files before.path (some after.loaded.content)
  path : after.path = before.path
  coherent : after.Coherent
  added : resolved.deviceName ≠ defaultsKey →
    Added resolved before.loaded.inventory after.loaded.inventory
  misread : resolved.deviceName = defaultsKey → (∃ members,
    crates.fromSlice before.loaded.content = .ok (.object members) ∧
      Json.get members devicesKey = none) →
    Misread shapes resolved before.loaded.inventory after.loaded.inventory

/-- The file is read again in its own shape. -/
theorem Extension.extended {raw : Content} {value updated : Json}
    {before after : Stores crates policyCrate} (read : shapes.Read crates)
    (distinct : Function.Injective crates.sha256) (range : resolved.devicePort ≤ 65535)
    (reported : before.hash = crates.sha256 before.loaded.content)
    (extension : Extension True resolved raw value updated before after) :
    Extended shapes resolved before after := by
  have file := extension.file trivial
  have same : raw = before.loaded.content := by
    have undrifted := extension.undrifted trivial
    rw [file, reported] at undrifted
    exact distinct undrifted
  subst same
  have entry := read.entry resolved range
  have rewritten : crates.fromSlice after.loaded.content = .ok updated := by
    rw [extension.written]
    exact read.back extension.read extension.inserted
  obtain ⟨members, rfl, ⟨bare, absent, rfl⟩ | ⟨devices, shape, absent, rfl⟩⟩ :=
    insertDevice_ok extension.inserted
  · have was := read.bare extension.read bare before.loaded.parsed
    have apart : resolved.deviceName ≠ devicesKey := by
      intro same
      -- The members of the entry would be the devices of an envelope.
      have shape : Json.get (Json.insert resolved.deviceName resolved.json members) devicesKey =
          some resolved.json := same ▸ Json.get_insert_self ..
      have is := read.envelope rewritten shape after.loaded.parsed
      have device := is.whole "ip".toList (.string resolved.deviceIp) rfl
      rw [Shapes.device, if_neg (by decide), read.noText] at device
      cases device
    have still := (Json.get_insert_of_ne members resolved.json apart).trans bare
    have is := read.bare rewritten still after.loaded.parsed
    exact ⟨file, extension.files, extension.path, extension.coherent,
      fun other => bare_added was is absent entry other,
      fun reserved _ => bare_misread was is absent reserved⟩
  · have was := read.envelope extension.read shape before.loaded.parsed
    have is := read.envelope rewritten (Json.get_insert_self ..) after.loaded.parsed
    refine ⟨file, extension.files, extension.path, extension.coherent,
      fun other => envelope_added was is (filter_insert_self ..) absent entry other, ?_⟩
    rintro - ⟨others, again, bare⟩
    cases extension.read.symm.trans again
    rw [shape] at bare
    cases bare

end Shapes

/-! ### A first device -/

def sampleResolved : ResolvedAdd := ⟨"r2".toList, "h".toList, 22, "u".toList, .password "x".toList⟩

def readAuth : Json → Option AuthConfig
  | .object [(_, .string kind), (_, .string secret)] =>
      if kind = "password".toList then some (.password secret) else some (.sshKey secret)
  | _ => none

def readEntry : Json → Option InventoryEntry
  | .object [(_, .string ip), (_, .number port), (_, .string username), (_, auth)] =>
      (readAuth auth).map fun auth =>
        ⟨⟨ip, Nat.ofDigitChars 10 port 0, username, auth, none⟩, none, .unknown⟩
  | _ => none

theorem readEntry_json (resolved : ResolvedAdd) :
    readEntry resolved.json = some resolved.entry := by
  obtain ⟨name, ip, port, username, auth⟩ := resolved
  have shown : Nat.ofDigitChars 10 (Nat.repr port).toList 0 = port := by
    rw [Nat.toList_repr]
    exact Nat.ofDigitChars_ten_toDigits
  have keyed : readAuth (authJson auth) = some auth := by cases auth <;> rfl
  simp only [ResolvedAdd.json, readEntry, keyed, shown, ResolvedAdd.entry, Option.map_some]

/-- A bare map of no device, or of one. -/
def readFile : Json → Except Text FileInventory
  | .object [] => .ok ⟨[], none, .nil⟩
  | .object [(name, json)] =>
      if name = "r2".toList then match readEntry json with
        | some entry => .ok ⟨[(name, entry)], none, List.pairwise_singleton _ _⟩
        | none => .error []
      else .error []
  | _ => .error []

def jsonCrates : InventoryCrates Json Json where
  fromSlice := .ok
  toPretty value := value
  sha256 content := content
  zeroDigest := .null
  fileInventory := readFile
  hashOrder devices := devices
  display path := path

def firstFile : Json := .object [("r2".toList, sampleResolved.json)]

def emptyInventory : FileInventory := ⟨[], none, .nil⟩

def firstInventory : FileInventory :=
  ⟨[("r2".toList, sampleResolved.entry)], none, List.pairwise_singleton _ _⟩

theorem firstFile_read : readFile firstFile = .ok firstInventory := by
  have found := readEntry_json sampleResolved
  rw [firstFile, readFile, if_pos rfl, found]
  rfl

def firstLoaded : Loaded jsonCrates := ⟨firstFile, firstInventory, firstFile_read⟩

def commitTrace (policy : Policy prefixCrate) :
    Trace (InventoryOp jsonCrates prefixCrate) (InventoryAnswer jsonCrates prefixCrate) :=
  [⟨.read .load .staged, .ok firstFile⟩, ⟨.read .hash .staged, .ok firstFile⟩,
    ⟨.persist "p".toList, .ok ()⟩, ⟨.storeInventory firstLoaded, ()⟩, ⟨.storePath "p".toList, ()⟩,
    ⟨.storeHash firstFile, ()⟩, ⟨.storePolicy policy, ()⟩, ⟨.inventory, firstLoaded⟩]

end JunosMcp.InventoryFile
