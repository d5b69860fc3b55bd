import JunosMcp.InventoryPact
import JunosMcp.PolicyIsolation

/-!
# The hash of the inventory

An inventory is stored before its hash, and a reload loads and hashes its file in two reads. Apart
from that the hash the manager reports is that of the content the inventory was parsed from, in every
state that any updates reach among any edits.
-/

namespace JunosMcp.InventoryFile

open Lib Updating

variable {Content Digest Who : Type} [DecidableEq Who] {crates : InventoryCrates Content Digest}
  {policyCrate : PolicyCrate}

/-- Whichever updates are under way, the hash is that of the content the inventory is from, except
between the two stores. -/
theorem hash_reported [DecidableEq Digest] {stores : Stores crates policyCrate}
    (config : InventoryConfig) (requests : Who → UpdateCall)
    (reported : stores.hash = crates.sha256 stores.loaded.content) :
    ∀ site, Calls.Reaches (updates config requests PatientEdits) (.start stores) site →
      site.1.storing = false → site.1.Reported := by
  intro site reaches
  have orderly : Calls.Orderly (pact calm_patient)
      (fun who => Settled False who ((requests who).Does False config)) site :=
    Calls.Reaches.orderly (start_tracked reported)
      (fun who => amid_run config (requests who) rfl) reaches
  exact orderly.1.reported

/-! ### A refresh behind an edit -/

def sampleInventory (address : Text) : FileInventory where
  devices := [("r1".toList, ⟨⟨address, 22, "u".toList, .password "x".toList, none⟩, none, .unknown⟩)]
  policy := none
  sorted := List.pairwise_singleton _ _

/-- A file is its own digest, and holds the address of the one device. -/
def sampleCrates : InventoryCrates Text Text where
  fromSlice _ := .error []
  toPretty _ := []
  sha256 content := content
  zeroDigest := []
  fileInventory content := .ok (sampleInventory content)
  hashOrder devices := devices
  display path := path

def sampleLoaded (address : Text) : Loaded sampleCrates :=
  ⟨address, sampleInventory address, rfl⟩

def sampleStores (policy : Policy prefixCrate) : Stores sampleCrates prefixCrate :=
  ⟨fun _ => some ['a'], sampleLoaded ['a'], "p".toList, ['a'], policy⟩

/-- The new inventory and its hash are stored. -/
theorem sample_swaps {policy : Policy prefixCrate}
    (built : Policy.build prefixCrate (sampleInventory ['b']).rules = .ok policy) :
    ∃ rest, Leads (swapLoaded sampleCrates "p".toList (sampleLoaded ['b']) :
        InventoryProg sampleCrates prefixCrate _)
      [⟨.inventory, sampleLoaded ['a']⟩, ⟨.read .hash (.named "p".toList), .ok ['b']⟩,
        ⟨.storeInventory (sampleLoaded ['b']), ()⟩, ⟨.storePath "p".toList, ()⟩,
        ⟨.storeHash ['b'], ()⟩] rest := by
  suffices tail : ∃ rest, Leads (Prog.andThen
      (.pure (Policy.build prefixCrate (sampleInventory ['b']).rules)) _) _ rest by
    obtain ⟨rest, tail⟩ := tail
    exact ⟨rest, .step tail⟩
  rw [built]
  exact ⟨_, .step (.step (.step (.step (.refl _))))⟩

def edited (policy : Policy prefixCrate) : Updating sampleCrates prefixCrate Unit :=
  { Updating.start (sampleStores policy) with files := fun _ => some ['b'] }

theorem edited_read (s : Updating sampleCrates prefixCrate Unit)
    (here : s.files "p".toList = some ['b']) (purpose : Purpose) :
    s.Effect () (.read purpose (.named "p".toList)) (.ok ['b'])
      (s.noted purpose (.named "p".toList) (.ok ['b'])) :=
  ⟨fun _ same => here.trans (congrArg some (Except.ok.inj same)), nofun, rfl⟩

/-- Of a refresh behind an edit. -/
theorem hash_reported_refresh : ∃ policy site, Calls.Reaches
    (updates ⟨false, false⟩ (fun _ : Unit => .refresh) PatientEdits)
    (.start (sampleStores policy)) site ∧ site.1.loaded.content = ['b'] ∧ site.1.Reported := by
  obtain ⟨policy, built⟩ : ∃ policy, Policy.build prefixCrate (sampleInventory ['b']).rules =
    .ok policy := ⟨_, rfl⟩
  obtain ⟨rest, swaps⟩ := sample_swaps built
  have moved : PatientEdits (.start (sampleStores policy)) (edited policy) := ⟨⟨_, rfl⟩, nofun⟩
  have leads : ∃ rest, Leads (UpdateCall.refresh.run sampleCrates ⟨false, false⟩ :
      InventoryProg sampleCrates prefixCrate _)
      ([⟨.lock, ()⟩, ⟨.inventoryPath, "p".toList⟩, ⟨.isFile "p".toList, true⟩,
        ⟨.read .load (.named "p".toList), .ok ['b']⟩] ++ _) rest :=
    ⟨_, (Leads.step (.step (.step (.step (.refl _))))).append (swaps.bind _)⟩
  obtain ⟨rest, leads⟩ := leads
  have begun : Calls.Reaches (updates ⟨false, false⟩ (fun _ : Unit => .refresh) PatientEdits)
      (.start (sampleStores policy)) (edited policy, _) := .step .start (.outside moved)
  have reaches := begun.leads rfl leads (.step ⟨rfl, rfl⟩ (.step ⟨rfl, rfl⟩ (.step rfl (.step (edited_read _ rfl _)
      (.step ⟨rfl, rfl⟩ (.step (edited_read _ rfl _) (.step rfl (.step rfl (.step rfl (.refl _))))))))))
  exact ⟨policy, _, reaches, rfl, hash_reported _ _ rfl _ reaches rfl⟩

end JunosMcp.InventoryFile
