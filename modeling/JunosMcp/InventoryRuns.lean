import JunosMcp.InventoryUpdates
import Mathlib.Logic.Function.Basic

/-!
# Runs of updates

The files and the stores that the updates share, and what each operation does to them. Besides, it
is kept what has been loaded under the lock and not been hashed yet, whether an inventory is stored
whose hash is not, and what each call found and left.
-/

namespace JunosMcp.InventoryFile

open Lib

variable {Content Digest : Type} {crates : InventoryCrates Content Digest}
  {policyCrate : PolicyCrate}

variable (crates policyCrate) in
@[ext] structure Stores where
  files : Text → Option Content
  loaded : Loaded crates
  path : Text
  hash : Digest
  policy : Policy policyCrate

variable (crates policyCrate) in
structure Updating (Who : Type) extends Stores crates policyCrate where
  holder : Option Who
  staged : Who → Option Content
  /-- What the holder has found. -/
  found : Stores crates policyCrate
  /-- What a call has found under the lock and what it has left. -/
  ended : Who → Option (Stores crates policyCrate × Stores crates policyCrate)
  /-- The content a reload has loaded and not hashed, and where. -/
  reading : Option (Text × Content)
  /-- An inventory is stored and its hash is not. -/
  storing : Bool

namespace Updating

variable {Who : Type} [DecidableEq Who]

def start (stores : Stores crates policyCrate) : Updating crates policyCrate Who where
  toStores := stores
  holder := none
  staged _ := none
  found := stores
  ended _ := none
  reading := none
  storing := false

def release (s : Updating crates policyCrate Who) (who : Who) : Updating crates policyCrate Who :=
  { s with
    holder := none
    ended := Function.update s.ended who (some (s.found, s.toStores))
    reading := none }

def content (s : Updating crates policyCrate Who) (who : Who) : File → Option Content
  | .named path => s.files path
  | .staged => s.staged who

/-- What is kept of a read. -/
def noted (s : Updating crates policyCrate Who) :
    Purpose → File → Except ReadError Content → Updating crates policyCrate Who
  | .load, .named path, .ok content => { s with reading := some (path, content) }
  | .hash, .named _, _ => { s with reading := none }
  | _, _, _ => s

def Effect (s : Updating crates policyCrate Who) (who : Who) :
    (op : InventoryOp crates policyCrate) → InventoryAnswer crates policyCrate op →
      Updating crates policyCrate Who → Prop
  | .inventory, answer, s' => answer = s.loaded ∧ s' = s
  | .lock, _, s' => s.holder = none ∧ s' = { s with holder := some who, found := s.toStores }
  | .unlock, _, s' => s' = s.release who
  | .inventoryPath, answer, s' => answer = s.path ∧ s' = s
  | .inventoryHash, answer, s' => answer = s.hash ∧ s' = s
  | .isFile _, _, s' => s' = s
  | .canonicalize _, _, s' => s' = s
  | .keyExists _, _, s' => s' = s
  | .read purpose file, answer, s' =>
      (∀ content, answer = .ok content → s.content who file = some content) ∧
      (∀ error, answer = .error error → error.notFound = true → s.content who file = none) ∧
      s' = s.noted purpose file answer
  | .stage _ content, .ok (), s' =>
      s' = { s with staged := Function.update s.staged who (some content) }
  | .stage _ _, .error _, s' => s' = s
  | .persist path, .ok (), s' =>
      s' = { s with files := Function.update s.files path (s.staged who) }
  | .persist _, .error _, s' => s' = s
  | .storeInventory new, _, s' => s' = { s with loaded := new, storing := true }
  | .storePath path, _, s' => s' = { s with path }
  | .storeHash hash, _, s' => s' = { s with hash, storing := false }
  | .storePolicy policy, _, s' => s' = { s with policy }
  | .invalidatePool _, _, s' => s' = s

/-- The file is edited by another process. -/
def Edits (s s' : Updating crates policyCrate Who) : Prop := ∃ files, s' = { s with files }

end Updating

variable {Who : Type} [DecidableEq Who]

variable (crates policyCrate) in
/-- A call gives up while it waits for the lock, or for the sessions of the pool. -/
def updateWorld (who : Who) : World (InventoryOp crates policyCrate)
    (InventoryAnswer crates policyCrate) (Updating crates policyCrate Who) where
  answered s op answer s' := s.Effect who op answer s'
  abandoned
    | s, .lock, s' => s' = s
    | s, .invalidatePool _, s' => s' = s.release who
    | _, _, _ => False

variable [DecidableEq Digest]

/-- Any number of updates at once, among edits of the files. -/
def updates (config : InventoryConfig) (requests : Who → UpdateCall)
    (edits : Updating crates policyCrate Who → Updating crates policyCrate Who → Prop) :
    Calls (InventoryOp crates policyCrate) (InventoryAnswer crates policyCrate) Who
      (Updating crates policyCrate Who) (Outcome UpdateReport) where
  world := updateWorld crates policyCrate
  program who := (requests who).run crates config
  outside := edits

end JunosMcp.InventoryFile
