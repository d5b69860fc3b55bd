import JunosMcp.InventoryRuns

/-!
# What the updates rely on

Who has the lock is the only one to change the stores, and nobody edits a file that has been loaded
and not been hashed. On this every update keeps the hash in step with the inventory, and one that
fails leaves the stores as it has found them.
-/

namespace JunosMcp.InventoryFile

open Lib

variable {Content Digest Who : Type} {crates : InventoryCrates Content Digest}
  {policyCrate : PolicyCrate}

/-- The stores are the same, and so are the files where nobody else edits them. -/
structure Stores.Same (frozen : Prop) (a b : Stores crates policyCrate) : Prop where
  files : frozen → b.files = a.files
  loaded : b.loaded = a.loaded
  path : b.path = a.path
  hash : b.hash = a.hash
  policy : b.policy = a.policy

namespace Stores.Same

variable {frozen : Prop} {a b c : Stores crates policyCrate}

theorem refl (frozen : Prop) (a : Stores crates policyCrate) : Same frozen a a :=
  ⟨fun _ => rfl, rfl, rfl, rfl, rfl⟩

theorem trans (first : Same frozen a b) (second : Same frozen b c) : Same frozen a c where
  files still := (second.files still).trans (first.files still)
  loaded := second.loaded.trans first.loaded
  path := second.path.trans first.path
  hash := second.hash.trans first.hash
  policy := second.policy.trans first.policy

theorem eq (same : Same True a b) : b = a :=
  Stores.ext (same.files trivial) same.loaded same.path same.hash same.policy

end Stores.Same

namespace Updating

def Reported (s : Updating crates policyCrate Who) : Prop :=
  s.hash = crates.sha256 s.loaded.content

/-- What has been loaded and not been hashed is there, or something with the same digest. -/
def Unmoved (s s' : Updating crates policyCrate Who) : Prop :=
  ∀ path content, s.reading = some (path, content) →
    ∃ kept, s'.files path = some kept ∧ crates.sha256 kept = crates.sha256 content

/-- The others edit no file between its two reads. -/
def PatientEdits (s s' : Updating crates policyCrate Who) : Prop := Edits s s' ∧ s.Unmoved s'

/-- The others edit the files between the updates. -/
def QuietEdits (s s' : Updating crates policyCrate Who) : Prop := Edits s s' ∧ s.holder = none

/-! ## What is kept -/

structure Tracked (s : Updating crates policyCrate Who) : Prop where
  reported : s.storing = false → s.Reported
  unmoved : s.Unmoved s
  idle : s.holder = none → s.storing = false ∧ s.reading = none

/-- Where `frozen` holds, nobody else edits a file while the lock is held. -/
structure Calm (frozen : Prop)
    (edits : Updating crates policyCrate Who → Updating crates policyCrate Who → Prop) : Prop where
  patient : ∀ {s t}, s.Tracked → edits s t → PatientEdits s t
  frozen : frozen → ∀ {s t}, edits s t → s.holder = none

theorem calm_patient : Calm False
    (PatientEdits : Updating crates policyCrate Who → Updating crates policyCrate Who → Prop) :=
  ⟨fun _ edits => edits, nofun⟩

theorem calm_quiet : Calm True
    (QuietEdits : Updating crates policyCrate Who → Updating crates policyCrate Who → Prop) where
  patient tracked edits := by
    refine ⟨edits.1, fun path content reading => ?_⟩
    rw [(tracked.idle edits.2).2] at reading
    cases reading
  frozen _ _ _ edits := edits.2

/-- What a call may rely on: what is its own, and the stores while it has the lock. -/
structure Spares (frozen : Prop) (who : Who) (s t : Updating crates policyCrate Who) : Prop where
  staged : t.staged who = s.staged who
  ended : t.ended who = s.ended who
  held : s.holder = some who → t.holder = some who ∧ t.found = s.found ∧
    t.storing = s.storing ∧ t.reading = s.reading ∧ s.toStores.Same frozen t.toStores

def MayDo (who : Who) (s : Updating crates policyCrate Who) :
    InventoryOp crates policyCrate → Prop
  | .unlock | .invalidatePool _ => s.holder = some who ∧ s.storing = false
  | .read .load (.named _) | .read .hash (.named _) | .storePath _ | .storePolicy _ =>
      s.holder = some who
  | .persist _ | .storeInventory _ => s.holder = some who ∧ s.reading = none
  | .storeHash hash =>
      s.holder = some who ∧ s.reading = none ∧ hash = crates.sha256 s.loaded.content
  | _ => True

section Steps

variable {frozen : Prop} {who other : Who} {s t u : Updating crates policyCrate Who}

theorem Spares.refl (who : Who) (s : Updating crates policyCrate Who) : Spares frozen who s s :=
  ⟨rfl, rfl, fun held => ⟨held, rfl, rfl, rfl, .refl _ _⟩⟩

theorem Spares.trans (first : Spares frozen who s t) (second : Spares frozen who t u) :
    Spares frozen who s u where
  staged := second.staged.trans first.staged
  ended := second.ended.trans first.ended
  held mine := by
    obtain ⟨mine, found, storing, reading, same⟩ := first.held mine
    obtain ⟨still, found', storing', reading', same'⟩ := second.held mine
    exact ⟨still, found'.trans found, storing'.trans storing, reading'.trans reading,
      same.trans same'⟩

/-- Who has the lock disturbs nobody. -/
theorem spares_of_held (mine : s.holder = some who) (differs : other ≠ who)
    (staged : t.staged other = s.staged other) (ended : t.ended other = s.ended other) :
    Spares frozen other s t := by
  refine ⟨staged, ended, fun held => ?_⟩
  rw [mine] at held
  exact absurd (Option.some.inj held).symm differs

theorem spares_of_free (free : s.holder = none) (staged : t.staged other = s.staged other)
    (ended : t.ended other = s.ended other) : Spares frozen other s t := by
  refine ⟨staged, ended, fun held => ?_⟩
  rw [free] at held
  cases held

theorem Calm.tracked {edits : Updating crates policyCrate Who → Updating crates policyCrate Who → Prop}
    (calm : Calm frozen edits) (tracked : s.Tracked) (here : edits s t) :
    t.Tracked ∧ ∀ who, Spares frozen who s t := by
  obtain ⟨⟨files, rfl⟩, unmoved⟩ := calm.patient tracked here
  refine ⟨⟨tracked.reported, unmoved, tracked.idle⟩, fun who => ⟨rfl, rfl, fun held =>
    ⟨held, rfl, rfl, rfl, ⟨fun still => ?_, rfl, rfl, rfl, rfl⟩⟩⟩⟩
  rw [calm.frozen still here] at held
  cases held

theorem release_tracked [DecidableEq Who] (tracked : s.Tracked) (settled : s.storing = false) :
    (s.release who).Tracked where
  reported := tracked.reported
  unmoved _ _ nothing := by cases nothing
  idle _ := ⟨settled, rfl⟩

theorem spares_of_release [DecidableEq Who] (mine : s.holder = some who) (differs : other ≠ who) :
    Spares frozen other s (s.release who) :=
  spares_of_held mine differs rfl (Function.update_of_ne differs _ _)

end Steps

section Answers

variable [DecidableEq Who] {frozen : Prop} {who : Who} {s t : Updating crates policyCrate Who}

/-- A read of a named file under the lock. -/
theorem read_tracked {purpose : Purpose} {path : Text} {answer : Except ReadError Content}
    (tracked : s.Tracked) (may : s.MayDo who (.read purpose (.named path)))
    (here : s.Effect who (.read purpose (.named path)) answer t) :
    t.Tracked ∧ ∀ other, other ≠ who → Spares frozen other s t := by
  obtain ⟨found, -, rfl⟩ := here
  cases purpose with
  | extend => exact ⟨tracked, fun _ _ => .refl _ _⟩
  | hash =>
      have mine : s.holder = some who := may
      refine ⟨⟨tracked.reported, nofun, fun free => ?_⟩,
        fun _ differs => spares_of_held mine differs rfl rfl⟩
      rw [show s.holder = none from free] at mine
      cases mine
  | load =>
      have mine : s.holder = some who := may
      cases answer with
      | error error => exact ⟨tracked, fun _ _ => .refl _ _⟩
      | ok content =>
          refine ⟨⟨tracked.reported, ?_, fun free => ?_⟩,
            fun _ differs => spares_of_held mine differs rfl rfl⟩
          · rintro _ _ ⟨⟩
            exact ⟨content, found content rfl, rfl⟩
          · rw [show s.holder = none from free] at mine
            cases mine

theorem read_staged {purpose : Purpose} {answer : Except ReadError Content}
    (here : s.Effect who (.read purpose .staged) answer t) :
    t = s ∧ (∀ content, answer = .ok content → s.staged who = some content) ∧
      ∀ error, answer = .error error → error.notFound = true → s.staged who = none := by
  obtain ⟨found, missing, rfl⟩ := here
  refine ⟨?_, found, missing⟩
  cases purpose <;> rfl

theorem answered_tracked {op : InventoryOp crates policyCrate}
    {answer : InventoryAnswer crates policyCrate op} (tracked : s.Tracked)
    (may : s.MayDo who op) (here : s.Effect who op answer t) :
    t.Tracked ∧ ∀ other, other ≠ who → Spares frozen other s t := by
  have unchanged : t = s → t.Tracked ∧ ∀ other, other ≠ who → Spares frozen other s t := by
    rintro rfl
    exact ⟨tracked, fun _ _ => .refl _ _⟩
  cases op with
  | inventory => exact unchanged here.2
  | inventoryPath => exact unchanged here.2
  | inventoryHash => exact unchanged here.2
  | isFile path => exact unchanged here
  | canonicalize path => exact unchanged here
  | keyExists path => exact unchanged here
  | lock =>
      obtain ⟨free, rfl⟩ := here
      exact ⟨⟨tracked.reported, tracked.unmoved, nofun⟩, fun _ _ => spares_of_free free rfl rfl⟩
  | unlock =>
      obtain rfl : t = s.release who := here
      exact ⟨release_tracked tracked may.2, fun _ differs => spares_of_release may.1 differs⟩
  | read purpose file =>
      cases file with
      | named path => exact read_tracked tracked may here
      | staged => exact unchanged (read_staged here).1
  | stage path content =>
      cases answer with
      | error text => exact unchanged here
      | ok done =>
          obtain rfl : t = _ := here
          exact ⟨⟨tracked.reported, tracked.unmoved, tracked.idle⟩,
            fun _ differs => ⟨Function.update_of_ne differs _ _, rfl,
              fun held => ⟨held, rfl, rfl, rfl, .refl _ _⟩⟩⟩
  | persist path =>
      cases answer with
      | error text => exact unchanged here
      | ok done =>
          obtain ⟨mine, read⟩ := may
          obtain rfl : t = _ := here
          refine ⟨⟨tracked.reported, ?_, tracked.idle⟩,
            fun _ differs => spares_of_held mine differs rfl rfl⟩
          intro path content reading
          rw [show s.reading = _ from reading] at read
          cases read
  | storeInventory new =>
      obtain ⟨mine, read⟩ := may
      obtain rfl : t = _ := here
      refine ⟨⟨nofun, tracked.unmoved, fun free => ?_⟩,
        fun _ differs => spares_of_held mine differs rfl rfl⟩
      rw [show s.holder = none from free] at mine
      cases mine
  | storePath path =>
      obtain rfl : t = _ := here
      exact ⟨⟨tracked.reported, tracked.unmoved, tracked.idle⟩,
        fun _ differs => spares_of_held may differs rfl rfl⟩
  | storeHash hash =>
      obtain ⟨mine, read, same⟩ := may
      obtain rfl : t = _ := here
      exact ⟨⟨fun _ => same, tracked.unmoved, fun _ => ⟨rfl, read⟩⟩,
        fun _ differs => spares_of_held mine differs rfl rfl⟩
  | storePolicy policy =>
      obtain rfl : t = _ := here
      exact ⟨⟨tracked.reported, tracked.unmoved, tracked.idle⟩,
        fun _ differs => spares_of_held may differs rfl rfl⟩
  | invalidatePool names => exact unchanged here

theorem abandoned_tracked {op : InventoryOp crates policyCrate} (tracked : s.Tracked)
    (may : s.MayDo who op) (here : (updateWorld crates policyCrate who).abandoned s op t) :
    t.Tracked ∧ ∀ other, other ≠ who → Spares frozen other s t := by
  cases op with
  | lock =>
      obtain rfl : t = s := here
      exact ⟨tracked, fun _ _ => .refl _ _⟩
  | invalidatePool names =>
      obtain rfl : t = s.release who := here
      exact ⟨release_tracked tracked may.2, fun _ differs => spares_of_release may.1 differs⟩
  | _ => exact here.elim

end Answers

section Calls

variable [DecidableEq Who] {frozen : Prop}
  {edits : Updating crates policyCrate Who → Updating crates policyCrate Who → Prop}

def pact (calm : Calm frozen edits) : Pact (updateWorld crates policyCrate) edits where
  inv := Tracked
  rely := Spares frozen
  allowed := MayDo
  refl := Spares.refl
  trans := Spares.trans
  answered := answered_tracked
  abandoned := abandoned_tracked
  outside tracked here := calm.tracked tracked here

end Calls

end Updating

/-! ## What an update is to do -/

/-- The hash and the policy are those of the inventory. -/
structure Stores.Coherent (s : Stores crates policyCrate) : Prop where
  hash : s.hash = crates.sha256 s.loaded.content
  policy : Policy.build policyCrate s.loaded.inventory.rules = .ok s.policy

/-- The digest of a file, or zeros where there is none. -/
def fileHash (crates : InventoryCrates Content Digest) : Option Content → Digest
  | some content => crates.sha256 content
  | none => crates.zeroDigest

/-- A device is put in the file, and what is read of that is stored. -/
structure Extension (frozen : Prop) (resolved : ResolvedAdd) (raw : Content) (value updated : Json)
    (before now : Stores crates policyCrate) : Prop where
  file : frozen → before.files before.path = some raw
  undrifted : frozen → fileHash crates (before.files before.path) = before.hash
  read : crates.fromSlice raw = .ok value
  inserted : insertDevice value resolved = .ok updated
  written : now.loaded.content = crates.toPretty updated
  files : now.files = Function.update before.files before.path (some now.loaded.content)
  path : now.path = before.path
  coherent : now.Coherent

/-- What is read of a file is stored. -/
structure Reading (frozen : Prop) (path : Text) (before now : Stores crates policyCrate) : Prop where
  file : frozen → before.files path = some now.loaded.content
  files : now.files = before.files
  path : now.path = path
  coherent : now.Coherent

def Adds (frozen : Prop) (config : InventoryConfig) (args : AddDeviceArgs)
    (before : Stores crates policyCrate) (report : UpdateReport)
    (now : Stores crates policyCrate) : Prop :=
  ∃ inventory resolved raw value updated, validate config inventory args = .ok resolved ∧
    Extension frozen resolved raw value updated before now ∧
    report = .added resolved.deviceName before.path now.loaded.inventory.devices.length

def Reloads (frozen : Prop) (fileName : Option Text) (before : Stores crates policyCrate)
    (report : UpdateReport) (now : Stores crates policyCrate) : Prop :=
  ∃ path, reloadPath before.path fileName = .ok path ∧ Reading frozen path before now ∧
    report = reloadReport before.loaded.inventory now.loaded.inventory path

/-- What a call has done that returns a report. -/
def UpdateCall.Does (frozen : Prop) (config : InventoryConfig) :
    UpdateCall → Stores crates policyCrate → UpdateReport → Stores crates policyCrate → Prop
  | .add args => Adds frozen config args
  | .reload fileName => Reloads frozen fileName
  | .refresh => Reloads frozen none

/-! ## What a call has in hand -/

open Updating

variable (crates policyCrate) in
structure Hand where
  before : Stores crates policyCrate
  now : Stores crates policyCrate
  reading : Option (Text × Content)
  staged : Option Content

variable {frozen : Prop} {who : Who} {hand : Hand crates policyCrate}
  {s t : Updating crates policyCrate Who}

structure Holding (frozen : Prop) (who : Who) (hand : Hand crates policyCrate)
    (s : Updating crates policyCrate Who) : Prop where
  holder : s.holder = some who
  found : s.found = hand.before
  reading : s.reading = hand.reading
  staged : s.staged who = hand.staged
  same : hand.now.Same frozen s.toStores

/-- The lock is held and no store is half done. -/
structure Mine (frozen : Prop) (who : Who) (hand : Hand crates policyCrate)
    (s : Updating crates policyCrate Who) : Prop extends Holding frozen who hand s where
  storing : s.storing = false

theorem Holding.spared (holding : Holding frozen who hand s) (kept : Spares frozen who s t) :
    Holding frozen who hand t := by
  obtain ⟨holder, found, storing, reading, same⟩ := kept.held holding.holder
  exact ⟨holder, found.trans holding.found, reading.trans holding.reading,
    kept.staged.trans holding.staged, holding.same.trans same⟩

theorem Mine.spared (mine : Mine frozen who hand s) (kept : Spares frozen who s t) :
    Mine frozen who hand t := by
  obtain ⟨-, -, storing, -⟩ := kept.held mine.holder
  exact ⟨mine.toHolding.spared kept, storing.trans mine.storing⟩

/-- The lock is held and nothing has been stored. -/
def Untouched (frozen : Prop) (who : Who) (before : Stores crates policyCrate)
    (s : Updating crates policyCrate Who) : Prop :=
  ∃ reading staged, Mine frozen who ⟨before, before, reading, staged⟩ s

/-- The value, or an error with nothing stored. -/
def OrUntouched {α : Type} (frozen : Prop) (who : Who) (before : Stores crates policyCrate)
    (post : α → Updating crates policyCrate Who → Prop) :
    Outcome α → Updating crates policyCrate Who → Prop
  | .ok value, s => post value s
  | .error _, s => Untouched frozen who before s

section Programs

variable {α β : Type} [DecidableEq Who] {before : Stores crates policyCrate}
  {reading : Option (Text × Content)} {staged : Option Content}
  {edits : Updating crates policyCrate Who → Updating crates policyCrate Who → Prop}
  {calm : Calm frozen edits}

theorem amid_failed {post : α → Updating crates policyCrate Who → Prop} {error : JmcpError}
    (mine : Mine frozen who ⟨before, before, reading, staged⟩ s) :
    (pact calm).amid who (.pure (.error error)) (OrUntouched frozen who before post) s :=
  fun _ kept _ => ⟨reading, staged, mine.spared kept⟩

theorem amid_mine {op : InventoryOp crates policyCrate}
    {next : InventoryAnswer crates policyCrate op → InventoryProg crates policyCrate α}
    {post : α → Updating crates policyCrate Who → Prop} (mine : Mine frozen who hand s)
    (rest : ∀ t, t.Tracked → Mine frozen who hand t → t.MayDo who op ∧
      ∀ answer t', t.Effect who op answer t' → (pact calm).amid who (next answer) post t') :
    (pact calm).amid who (.step op next) post s :=
  fun t kept tracked => rest t tracked (mine.spared kept)

theorem amid_andThen {p : InventoryProg crates policyCrate (Outcome α)}
    {f : α → InventoryProg crates policyCrate (Outcome β)}
    {middle : α → Updating crates policyCrate Who → Prop}
    {post : β → Updating crates policyCrate Who → Prop}
    (first : (pact calm).amid who p (OrUntouched frozen who before middle) s)
    (rest : ∀ value t, middle value t →
      (pact calm).amid who (f value) (OrUntouched frozen who before post) t) :
    (pact calm).amid who (p.andThen f) (OrUntouched frozen who before post) s := by
  refine Pact.amid_then first fun result t _ here => ?_
  cases result with
  | ok value => exact rest value t here
  | error error =>
      obtain ⟨_, _, mine⟩ := here
      exact amid_failed mine

/-! ### Reading -/

/-- A digest of the file, of what has been loaded, if it is the file that has been loaded. -/
structure HashOf (frozen : Prop) (hand : Hand crates policyCrate) (path : Text) (hash : Digest) :
    Prop where
  loaded : ∀ content, hand.reading = some (path, content) → hash = crates.sha256 content
  file : frozen → hash = fileHash crates (hand.now.files path)

theorem amid_hashNamed {path : Text} (mine : Mine frozen who ⟨before, before, reading, staged⟩ s) :
    (pact calm).amid who (hashFile crates (.named path))
      (OrUntouched frozen who before fun hash t =>
        Mine frozen who ⟨before, before, none, staged⟩ t ∧
          HashOf frozen ⟨before, before, reading, staged⟩ path hash) s := by
  refine amid_mine mine fun t tracked mine => ⟨mine.holder, fun answer t' here => ?_⟩
  obtain ⟨found, missing, rfl⟩ := here
  have after : Mine frozen who ⟨before, before, none, staged⟩ (t.noted .hash (.named path) answer) :=
    ⟨⟨mine.holder, mine.found, rfl, mine.staged, mine.same⟩, mine.storing⟩
  have there : ∀ content, reading = some (path, content) → ∃ kept, t.files path = some kept ∧
      crates.sha256 kept = crates.sha256 content :=
    fun content same => tracked.unmoved path content (mine.reading.trans same)
  have same : frozen → before.files path = t.files path := fun still =>
    (congrFun (mine.same.files still) path).symm
  cases answer with
  | ok bytes =>
      have read : t.files path = some bytes := found bytes rfl
      refine fun u kept _ => ⟨after.spared kept, fun content loaded => ?_, fun still => ?_⟩
      · obtain ⟨file, present, digest⟩ := there content loaded
        rw [present] at read
        cases read
        exact digest
      · dsimp only
        rw [same still, read]
        rfl
  | error error =>
      dsimp only
      split
      · next absent =>
          have read : t.files path = none := missing error rfl absent
          refine fun u kept _ => ⟨after.spared kept, fun content loaded => ?_, fun still => ?_⟩
          · obtain ⟨file, present, -⟩ := there content loaded
            rw [present] at read
            cases read
          · dsimp only
            rw [same still, read]
            rfl
      · exact amid_failed after

theorem amid_hashStaged {content : Content}
    (mine : Mine frozen who ⟨before, before, reading, some content⟩ s) :
    (pact calm).amid who (hashFile crates .staged)
      (OrUntouched frozen who before fun hash t =>
        Mine frozen who ⟨before, before, reading, some content⟩ t ∧
          hash = crates.sha256 content) s := by
  refine amid_mine mine fun t _ mine => ⟨trivial, fun answer t' here => ?_⟩
  obtain ⟨rfl, found, missing⟩ := read_staged here
  cases answer with
  | ok bytes =>
      intro u kept _
      have read := (found bytes rfl).symm.trans mine.staged
      cases read
      exact ⟨mine.spared kept, rfl⟩
  | error error =>
      dsimp only
      split
      · next absent =>
          have read := (missing error rfl absent).symm.trans mine.staged
          cases read
      · exact amid_failed mine

/-- The check of a key file. -/
def ChecksKeys (op : InventoryOp crates policyCrate) : Prop := ∃ path, op = .keyExists path

theorem validateEntry_performs (device : Text × InventoryEntry) :
    (validateEntry crates device : InventoryProg crates policyCrate _).Performs ChecksKeys := by
  obtain ⟨name, entry⟩ := device
  rw [validateEntry]
  repeat' split
  all_goals first | trivial | skip
  refine ⟨⟨_, rfl⟩, fun present => ?_⟩
  cases present <;> trivial

theorem validateAll_performs (devices : List (Text × InventoryEntry)) :
    (validateAll crates devices : InventoryProg crates policyCrate _).Performs ChecksKeys := by
  induction devices with
  | nil => trivial
  | cons device rest ih => exact (validateEntry_performs device).andThen fun _ => ih

theorem amid_validateAll (devices : List (Text × InventoryEntry)) (mine : Mine frozen who hand s) :
    (pact calm).amid who (validateAll crates devices) (fun _ => Mine frozen who hand) s := by
  refine Pact.amid_keeps (validateAll_performs devices) mine (fun mine kept => mine.spared kept)
    ?_ ?_
  · rintro _ t ⟨path, rfl⟩ - -
    exact trivial
  · rintro _ t answer t' ⟨path, rfl⟩ mine here
    obtain rfl : t' = t := here
    exact mine

/-- What has been read is parsed and validated. -/
theorem amid_parsed {content : Content}
    (mine : Mine frozen who ⟨before, before, reading, staged⟩ s) :
    (pact calm).amid who
      (Prog.andThen (.pure (Loaded.parse crates content)) fun loaded =>
        (validateAll crates (crates.hashOrder loaded.inventory.devices)).andThen fun _ =>
          .pure (.ok loaded))
      (OrUntouched frozen who before fun loaded t =>
        Mine frozen who ⟨before, before, reading, staged⟩ t ∧ loaded.content = content) s := by
  cases parsed : Loaded.parse crates content with
  | error error => exact amid_failed mine
  | ok loaded =>
      have same : loaded.content = content := by
        rw [Loaded.parse] at parsed
        split at parsed
        · cases parsed
          rfl
        · cases parsed
      change (pact calm).amid who
        ((validateAll crates (crates.hashOrder loaded.inventory.devices)).andThen _) _ s
      refine Pact.amid_then (amid_validateAll _ mine) fun result t _ mine => ?_
      cases result with
      | error error => exact amid_failed mine
      | ok done => exact fun u kept _ => ⟨mine.spared kept, same⟩

theorem amid_mapError {p : InventoryProg crates policyCrate (Outcome α)}
    {post : α → Updating crates policyCrate Who → Prop} {f : JmcpError → JmcpError}
    (holds : (pact calm).amid who p (OrUntouched frozen who before post) s)
    (stable : ∀ value t u, post value t → Spares frozen who t u → post value u) :
    (pact calm).amid who (p.bind fun result => .pure (result.mapError f))
      (OrUntouched frozen who before post) s := by
  refine Pact.amid_then holds fun result t _ here => ?_
  cases result with
  | ok value => exact fun u kept _ => stable value t u here kept
  | error error =>
      obtain ⟨_, _, mine⟩ := here
      exact amid_failed mine

theorem amid_loadNamed {path : Text} (mine : Mine frozen who ⟨before, before, reading, staged⟩ s) :
    (pact calm).amid who (loadParsed crates (.named path))
      (OrUntouched frozen who before fun loaded t =>
        Mine frozen who ⟨before, before, some (path, loaded.content), staged⟩ t ∧
          (frozen → before.files path = some loaded.content)) s := by
  refine amid_mapError ?_ fun _ _ _ here kept => ⟨here.1.spared kept, here.2⟩
  refine amid_mine mine fun t _ mine => ⟨mine.holder, fun answer t' here => ?_⟩
  obtain ⟨found, -, rfl⟩ := here
  cases answer with
  | error error => exact amid_failed mine
  | ok content =>
      have after : Mine frozen who ⟨before, before, some (path, content), staged⟩
          (t.noted .load (.named path) (.ok content)) :=
        ⟨⟨mine.holder, mine.found, rfl, mine.staged, mine.same⟩, mine.storing⟩
      refine Pact.amid_mono (amid_parsed after) fun result u _ here => ?_
      cases result with
      | error error => exact here
      | ok loaded =>
          obtain ⟨mine', rfl⟩ := here
          refine ⟨mine', fun still => ?_⟩
          rw [← congrFun (mine.same.files still) path]
          exact found loaded.content rfl

theorem amid_loadStaged {content : Content}
    (mine : Mine frozen who ⟨before, before, reading, some content⟩ s) :
    (pact calm).amid who (loadParsed crates .staged)
      (OrUntouched frozen who before fun loaded t =>
        Mine frozen who ⟨before, before, reading, some content⟩ t ∧ loaded.content = content) s := by
  refine amid_mapError ?_ fun _ _ _ here kept => ⟨here.1.spared kept, here.2⟩
  refine amid_mine mine fun t _ mine => ⟨trivial, fun answer t' here => ?_⟩
  obtain ⟨rfl, found, -⟩ := read_staged here
  cases answer with
  | error error => exact amid_failed mine
  | ok bytes =>
      have read := (found bytes rfl).symm.trans mine.staged
      cases read
      exact amid_parsed mine

/-! ### Storing -/

theorem amid_swapIn {now : Stores crates policyCrate} {loaded : Loaded crates} {path : Text}
    {hash : Digest} {policy : Policy policyCrate} {rest : InventoryProg crates policyCrate α}
    {post : α → Updating crates policyCrate Who → Prop}
    (mine : Mine frozen who ⟨before, now, none, staged⟩ s)
    (digest : hash = crates.sha256 loaded.content)
    (goes : ∀ t, Mine frozen who ⟨before, ⟨now.files, loaded, path, hash, policy⟩, none, staged⟩ t →
      (pact calm).amid who rest post t) :
    (pact calm).amid who (swapIn crates loaded path hash policy rest) post s := by
  refine amid_mine mine fun t _ mine => ⟨⟨mine.holder, mine.reading⟩, fun _ t₁ here => ?_⟩
  obtain rfl : t₁ = _ := here
  obtain ⟨⟨holder, found, reading, owned, files, -, onPath, known, rules⟩, -⟩ := mine
  have half : Holding frozen who ⟨before, { now with loaded }, none, staged⟩
      { t with loaded, storing := true } :=
    ⟨holder, found, reading, owned, files, rfl, onPath, known, rules⟩
  intro u kept _
  obtain ⟨holder, found, reading, owned, files, current, -, known, rules⟩ := half.spared kept
  refine ⟨holder, fun _ u' here => ?_⟩
  obtain rfl : u' = _ := here
  have half : Holding frozen who ⟨before, { now with loaded, path }, none, staged⟩ { u with path } :=
    ⟨holder, found, reading, owned, files, current, rfl, known, rules⟩
  intro v kept _
  obtain ⟨holder, found, reading, owned, files, current, onPath, -, rules⟩ := half.spared kept
  refine ⟨⟨holder, reading, digest.trans (congrArg _ (congrArg _ current.symm))⟩, fun _ v' here => ?_⟩
  obtain rfl : v' = _ := here
  have after : Mine frozen who ⟨before, { now with loaded, path, hash }, none, staged⟩
      { v with hash, storing := false } :=
    ⟨⟨holder, found, reading, owned, files, current, onPath, rfl, rules⟩, rfl⟩
  refine amid_mine after fun w _ mine => ⟨mine.holder, fun _ w' here => ?_⟩
  obtain rfl : w' = _ := here
  obtain ⟨⟨holder, found, reading, owned, files, current, onPath, known, -⟩, settled⟩ := mine
  exact goes _ ⟨⟨holder, found, reading, owned, files, current, onPath, known, rfl⟩, settled⟩

/-- The lock is held, and what was to be done is done. -/
abbrev Ends (frozen : Prop) (who : Who) (before : Stores crates policyCrate)
    (does : Stores crates policyCrate → UpdateReport → Stores crates policyCrate → Prop) :
    Outcome UpdateReport → Updating crates policyCrate Who → Prop :=
  OrUntouched frozen who before fun report t => ∃ now reading staged,
    Mine frozen who ⟨before, now, reading, staged⟩ t ∧ does before report now

/-- What a call has found under the lock and left, if it took it. -/
def Settled (frozen : Prop) (who : Who)
    (does : Stores crates policyCrate → UpdateReport → Stores crates policyCrate → Prop) :
    Outcome UpdateReport → Updating crates policyCrate Who → Prop
  | .ok report, s => ∃ before now after, s.ended who = some (before, after) ∧
      now.Same frozen after ∧ before.hash = crates.sha256 before.loaded.content ∧
      does before report now
  | .error _, s => ∀ before after, s.ended who = some (before, after) → before.Same frozen after

omit [DecidableEq Who] in
theorem Settled.spared {result : Outcome UpdateReport}
    {does : Stores crates policyCrate → UpdateReport → Stores crates policyCrate → Prop}
    (settled : Settled frozen who does result s) (kept : Spares frozen who s t) :
    Settled frozen who does result t := by
  cases result <;> simpa only [Settled, kept.ended] using settled

theorem amid_withLock {body : InventoryProg crates policyCrate (Outcome UpdateReport)}
    {does : Stores crates policyCrate → UpdateReport → Stores crates policyCrate → Prop}
    (holds : ∀ before s staged, before.hash = crates.sha256 before.loaded.content →
      Mine frozen who ⟨before, before, none, staged⟩ s →
      (pact calm).amid who body (Ends frozen who before does) s) :
    (pact calm).amid who (withLock crates body) (Settled frozen who does) s := by
  intro t _ tracked
  refine ⟨trivial, fun _ t' here => ?_⟩
  obtain ⟨free, rfl⟩ := here
  obtain ⟨storing, reading⟩ := tracked.idle free
  have reported := tracked.reported storing
  refine Pact.amid_then (holds t.toStores _ _ reported
    ⟨⟨rfl, rfl, reading, rfl, .refl _ _⟩, storing⟩) fun result u _ ended => ?_
  have released : ∀ {hand : Hand crates policyCrate} {v : Updating crates policyCrate Who},
      Mine frozen who hand v →
        (v.release who).ended who = some (hand.before, v.toStores) := fun mine => by
    rw [← mine.found]
    exact Function.update_self ..
  cases result with
  | error error =>
      obtain ⟨_, _, mine⟩ := ended
      refine amid_mine mine fun v _ mine => ⟨⟨mine.holder, mine.storing⟩, fun _ v' here => ?_⟩
      obtain rfl : v' = v.release who := here
      refine fun w kept _ => Settled.spared (s := v.release who) ?_ kept
      intro before after same
      rw [released mine] at same
      cases same
      exact mine.same
  | ok report =>
      obtain ⟨now, _, _, mine, done⟩ := ended
      refine amid_mine mine fun v _ mine => ⟨⟨mine.holder, mine.storing⟩, fun _ v' here => ?_⟩
      obtain rfl : v' = v.release who := here
      exact fun w kept _ => Settled.spared (s := v.release who)
        ⟨t.toStores, now, v.toStores, released mine, mine.same, reported, done⟩ kept

/-! ### The two tools -/

variable {args : AddDeviceArgs} {resolved : ResolvedAdd} {fileName : Option Text}

theorem amid_ended {now : Stores crates policyCrate} {report : UpdateReport}
    {does : Stores crates policyCrate → UpdateReport → Stores crates policyCrate → Prop}
    (mine : Mine frozen who ⟨before, now, reading, staged⟩ s) (done : does before report now) :
    (pact calm).amid who (.pure (.ok report)) (Ends frozen who before does) s :=
  fun _ kept _ => ⟨now, reading, staged, mine.spared kept, done⟩

theorem amid_commitStaged {content : Content}
    {does : Stores crates policyCrate → UpdateReport → Stores crates policyCrate → Prop}
    (mine : Mine frozen who ⟨before, before, none, some content⟩ s)
    (done : ∀ loaded policy, loaded.content = content →
      Policy.build policyCrate loaded.inventory.rules = .ok policy →
      does before (.added resolved.deviceName before.path loaded.inventory.devices.length)
        ⟨Function.update before.files before.path (some content), loaded, before.path,
          crates.sha256 content, policy⟩) :
    (pact calm).amid who (commitStaged crates resolved before.path) (Ends frozen who before does)
      s := by
  refine amid_andThen (amid_loadStaged mine) ?_
  rintro loaded t ⟨mine, rfl⟩
  cases built : Policy.build policyCrate loaded.inventory.rules with
  | error error => exact amid_failed mine
  | ok policy =>
      change (pact calm).amid who ((hashFile crates .staged).andThen _) _ t
      refine amid_andThen (amid_hashStaged mine) ?_
      rintro hash u ⟨mine, rfl⟩
      refine amid_mine mine fun v _ mine => ⟨⟨mine.holder, mine.reading⟩, fun answer v' here => ?_⟩
      cases answer with
      | error text =>
          obtain rfl : v' = v := here
          exact amid_failed mine
      | ok written =>
          obtain rfl : v' = _ := here
          have after : Mine frozen who
              ⟨before, { before with
                files := Function.update before.files before.path (some loaded.content) }, none,
                some loaded.content⟩
              { v with files := Function.update v.files before.path (v.staged who) } := by
            obtain ⟨⟨holder, found, read, owned, same⟩, settled⟩ := mine
            refine ⟨⟨holder, found, read, owned, ⟨fun still => ?_, same.loaded, same.path, same.hash,
              same.policy⟩⟩, settled⟩
            rw [← same.files still, ← show v.staged who = some loaded.content from owned]
          refine amid_swapIn after rfl fun w mine => ?_
          refine amid_mine mine fun x _ mine => ⟨trivial, fun now x' here => ?_⟩
          obtain ⟨rfl, rfl⟩ := here
          rw [mine.same.loaded]
          exact amid_ended mine (done loaded policy rfl built)

theorem amid_extendFile (undrifted : frozen → fileHash crates (before.files before.path) = before.hash)
    {config : InventoryConfig} {inventory : FileInventory}
    (accepted : validate config inventory args = .ok resolved)
    (mine : Mine frozen who ⟨before, before, none, staged⟩ s) :
    (pact calm).amid who (extendFile crates resolved before.path)
      (Ends frozen who before (Adds frozen config args)) s := by
  refine amid_mine mine fun t _ mine => ⟨trivial, fun answer t' here => ?_⟩
  obtain ⟨found, -, rfl⟩ := here
  cases answer with
  | error error => exact amid_failed mine
  | ok raw =>
      have file : frozen → before.files before.path = some raw := fun still => by
        rw [← congrFun (mine.same.files still) before.path]
        exact found raw rfl
      cases read : crates.fromSlice raw with
      | error text =>
          simp only [read]
          exact amid_failed mine
      | ok value =>
          cases inserted : insertDevice value resolved with
          | error error =>
              simp only [read, inserted]
              exact amid_failed mine
          | ok updated =>
              simp only [read, inserted]
              refine amid_mine mine fun u _ mine => ⟨trivial, fun answer u' here => ?_⟩
              cases answer with
              | error text =>
                  obtain rfl : u' = u := here
                  exact amid_failed mine
              | ok written =>
                  obtain rfl : u' = _ := here
                  let staging := Function.update u.staged who (some (crates.toPretty updated))
                  have after : Mine frozen who
                      ⟨before, before, none, some (crates.toPretty updated)⟩
                      { u with staged := staging } :=
                    ⟨⟨mine.holder, mine.found, mine.reading, Function.update_self .., mine.same⟩,
                      mine.storing⟩
                  refine amid_commitStaged after ?_
                  rintro loaded policy same built
                  refine ⟨inventory, resolved, raw, value, updated, accepted, ?_, rfl⟩
                  exact ⟨file, undrifted, read, inserted, same, by rw [same], rfl,
                    ⟨by rw [same], built⟩⟩

theorem amid_addDevice [DecidableEq Digest] {config : InventoryConfig}
    (fresh : s.ended who = none) :
    (pact calm).amid who (addDevice crates config args) (Settled frozen who (Adds frozen config args))
      s := by
  intro t kept _
  refine ⟨trivial, fun now t' here => ?_⟩
  obtain ⟨rfl, rfl⟩ := here
  cases accepted : validate config t'.loaded.inventory args with
  | error error =>
      simp only [accepted]
      intro u kept' _ before after same
      rw [kept'.ended, kept.ended, fresh] at same
      cases same
  | ok resolved =>
      simp only [accepted]
      refine amid_withLock fun before s staged _ mine => ?_
      refine amid_mine mine fun u _ mine => ⟨trivial, fun path u' here => ?_⟩
      obtain ⟨rfl, rfl⟩ := here
      have path : u'.path = before.path := mine.same.path
      split
      · exact amid_failed mine
      · rw [path]
        refine amid_andThen (amid_hashNamed mine) ?_
        rintro onDisk v ⟨mine, hash⟩
        refine amid_mine mine fun w _ mine => ⟨trivial, fun known w' here => ?_⟩
        obtain ⟨rfl, rfl⟩ := here
        split
        · exact amid_failed mine
        · next same =>
            refine amid_extendFile (fun still => ?_) accepted mine
            rw [← hash.file still, not_not.mp same]
            exact mine.same.hash

theorem amid_checkInside {current path : Text}
    (mine : Mine frozen who ⟨before, before, reading, staged⟩ s) :
    (pact calm).amid who (checkInside crates current path fileName)
      (OrUntouched frozen who before fun _ => Mine frozen who ⟨before, before, reading, staged⟩) s := by
  have passed : ∀ t, Mine frozen who ⟨before, before, reading, staged⟩ t → (pact calm).amid who
      (.pure (.ok ())) (OrUntouched frozen who before fun _ =>
        Mine frozen who ⟨before, before, reading, staged⟩) t :=
    fun t mine u kept _ => mine.spared kept
  rw [checkInside.eq_def]
  split
  · exact passed s mine
  · exact passed s mine
  · split
    · exact amid_failed mine
    · refine amid_mine mine fun t _ mine => ⟨trivial, fun answer t' here => ?_⟩
      obtain rfl : t' = t := here
      cases answer with
      | error text => exact amid_failed mine
      | ok directory =>
          refine amid_mine mine fun u _ mine => ⟨trivial, fun answer u' here => ?_⟩
          obtain rfl : u' = u := here
          cases answer with
          | error text => exact amid_failed mine
          | ok resolved =>
              dsimp only
              split
              · exact passed _ mine
              · exact amid_failed mine

theorem amid_swapLoaded {path : Text} {loaded : Loaded crates}
    (asked : reloadPath before.path fileName = .ok path)
    (file : frozen → before.files path = some loaded.content)
    (mine : Mine frozen who ⟨before, before, some (path, loaded.content), staged⟩ s) :
    (pact calm).amid who (swapLoaded crates path loaded)
      (Ends frozen who before (Reloads frozen fileName)) s := by
  refine amid_mine mine fun t _ mine => ⟨trivial, fun previous t' here => ?_⟩
  obtain ⟨rfl, rfl⟩ := here
  cases built : Policy.build policyCrate loaded.inventory.rules with
  | error error => exact amid_failed mine
  | ok policy =>
      change (pact calm).amid who ((hashFile crates (.named path)).andThen _) _ _
      rw [mine.same.loaded]
      refine amid_andThen (amid_hashNamed mine) ?_
      rintro hash u ⟨mine, same⟩
      have digest : hash = crates.sha256 loaded.content := same.loaded _ rfl
      have done : Reloads frozen fileName before
          (reloadReport before.loaded.inventory loaded.inventory path)
          ⟨before.files, loaded, path, hash, policy⟩ :=
        ⟨path, asked, ⟨file, rfl, rfl, ⟨digest, built⟩⟩, rfl⟩
      refine amid_swapIn mine digest fun v mine => ?_
      split
      · exact amid_ended mine done
      · refine amid_mine mine fun w _ mine => ⟨⟨mine.holder, mine.storing⟩, fun _ w' here => ?_⟩
        obtain rfl : w' = w := here
        exact amid_ended mine done

theorem amid_reload :
    (pact calm).amid who (reload crates fileName) (Settled frozen who (Reloads frozen fileName)) s := by
  refine amid_withLock fun before s staged _ mine => ?_
  refine amid_mine mine fun t _ mine => ⟨trivial, fun current t' here => ?_⟩
  obtain ⟨rfl, rfl⟩ := here
  rw [mine.same.path]
  cases asked : reloadPath before.path fileName with
  | error error => exact amid_failed mine
  | ok path =>
      change (pact calm).amid who (.step (.isFile path) _) _ _
      refine amid_mine mine fun u _ mine => ⟨trivial, fun present u' here => ?_⟩
      obtain rfl : u' = u := here
      split
      · exact amid_failed mine
      · refine amid_andThen (amid_checkInside mine) fun _ v mine => ?_
        refine amid_andThen (amid_loadNamed mine) ?_
        rintro loaded w ⟨mine, file⟩
        split
        · exact amid_failed mine
        · exact amid_swapLoaded asked file mine

/-- An update does what it reports, and one that fails does nothing. -/
theorem amid_run [DecidableEq Digest] (config : InventoryConfig) (request : UpdateCall)
    (fresh : s.ended who = none) :
    (pact calm).amid who (request.run crates config)
      (Settled frozen who (request.Does frozen config)) s := by
  cases request with
  | add args => exact amid_addDevice fresh
  | reload fileName =>
      rw [UpdateCall.run, reloadDevices]
      split
      · intro t kept _ before after same
        rw [kept.ended, fresh] at same
        cases same
      · exact amid_reload
  | refresh => exact amid_reload

end Programs

theorem start_tracked {stores : Stores crates policyCrate}
    (reported : stores.hash = crates.sha256 stores.loaded.content) :
    (Updating.start stores : Updating crates policyCrate Who).Tracked where
  reported _ := reported
  unmoved := nofun
  idle _ := ⟨rfl, rfl⟩

end JunosMcp.InventoryFile
