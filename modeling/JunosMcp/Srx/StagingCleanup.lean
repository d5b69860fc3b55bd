import JunosMcp.Lib.Results
import JunosMcp.Srx.StagingOwnership

/-!
# What is left of a collection

A collection whose scratch directory is left alone, and beside which nobody makes a tarball, removes
what it has made and nothing else, wherever it fails and whatever is done with its handle.
-/

namespace JunosMcp.Srx.Staging

open Lib SupportBundle
open Shared

/-- The others leave alone what they are asked to. -/
def considerate : World StagingOp StagingAnswer Shared := staging.restrict Considerate

def watch : Watch Shared := ⟨Kept, fun _ => True⟩

section Steps

variable {s s' : Shared} {path : Path}

/-- The others first, and then the operation. -/
theorem arrived {op : StagingOp} {answer : StagingAnswer op} (sound : s.Sound)
    (here : considerate.answered s op answer s') :
    ∃ between, between.Sound ∧ Waited s between ∧ between.Effect op answer s' ∧
      Honest op (some answer) s' := by
  obtain ⟨⟨between, arrives, effect⟩, unguarded, honest⟩ := here
  refine ⟨between, ?_, arrives.waited, effect, honest⟩
  apply sound.arrives arrives
  rw [← effect.others]
  exact unguarded

theorem lookup_ok {type : EntryType} (sound : s.Sound)
    (here : considerate.answered s (.symlinkMetadata path) (.ok type) s') :
    s'.Sound ∧ Waited s s' ∧
      ∃ place node, s'.Located path place ∧ s'.nodes place = some node ∧ node.type = type := by
  obtain ⟨between, sound, waited, ⟨rfl, seen⟩, -⟩ := arrived sound here
  exact ⟨sound, waited, seen⟩

theorem lookup_error {error : IoError} (sound : s.Sound)
    (here : considerate.answered s (.symlinkMetadata path) (.error error) s') :
    s'.Sound ∧ Waited s s' ∧ s'.nodes path = none ∧ s'.unseen path := by
  obtain ⟨between, sound, waited, ⟨rfl, -⟩, absent⟩ := arrived sound here
  have missing : between.nodes path = none := absent
  exact ⟨sound.look missing, waited.look path, missing, .inr rfl⟩

/-- A path without a link at its end. -/
def Steady (s : Shared) (path : Path) : Prop :=
  parentName ∉ path ∧ ∃ node, s.nodes path = some node ∧ node.type ≠ .symlink

theorem Steady.later (steady : Steady s path) (later : Later s s') : Steady s' path := by
  obtain ⟨plain, node, present, noLink⟩ := steady
  exact ⟨plain, node, later.nodes path node present, noLink⟩

/-- A child of such a path is where it says. -/
theorem Steady.child (steady : Steady s path) (rooted : s.Rooted) {name : Text} {place : Path}
    (named : name ≠ parentName) (located : s.Located (path ++ [name]) place) :
    place = path ++ [name] := by
  obtain ⟨plain, node, present, noLink⟩ := steady
  exact located_child rooted present noLink plain named located

theorem canonicalize_ok {canonical : Path} (sound : s.Sound)
    (here : considerate.answered s (.canonicalize path) (.ok canonical) s') :
    s'.Sound ∧ Waited s s' ∧ Steady s' canonical ∧ (Steady s path → canonical = path) := by
  obtain ⟨between, sound, waited, ⟨rfl, plain, found, itself⟩, -⟩ := arrived sound here
  refine ⟨sound, waited, ⟨plain, found⟩, fun steady => ?_⟩
  obtain ⟨plain, node, present, noLink⟩ := steady.later waited.toLater
  exact itself node present noLink plain

theorem canonicalize_error {error : IoError} (sound : s.Sound)
    (here : considerate.answered s (.canonicalize path) (.error error) s') :
    s'.Sound ∧ Waited s s' := by
  obtain ⟨between, sound, waited, same, -⟩ := arrived sound here
  obtain rfl : s' = between := same
  exact ⟨sound, waited⟩

theorem createDirAll_done {answer : StagingAnswer (.createDirAll path)} (sound : s.Sound)
    (none : s.scratch = none) (here : considerate.answered s (.createDirAll path) answer s') :
    s'.Sound ∧ Later s s' := by
  obtain ⟨between, sound, waited, makes, -⟩ := arrived sound here
  have still : between.scratch = Option.none := waited.scratch.trans none
  have makes : between.Makes s' fun _ => True := makes
  refine ⟨sound.makes makes ?_ ?_, waited.toLater.trans makes.later⟩
  · intro scratch held
    rw [still] at held
    cases held
  · intro dir scratchName name held
    rw [still] at held
    cases held

section Child

variable {dir : Path} {name : Text}

theorem createDir_error {kind : String} {error : IoError} (sound : s.Sound)
    (here : considerate.answered s (.createDir kind path) (.error error) s') :
    s'.Sound ∧ Waited s s' := by
  obtain ⟨between, sound, waited, same, -⟩ := arrived sound here
  obtain rfl : s' = between := same
  exact ⟨sound, waited⟩

theorem createDir_router (sound : s.Sound) (none : s.scratch = none) (steady : Steady s dir)
    (named : name ≠ parentName)
    (here : considerate.answered s (.createDir routerKind (dir ++ [name])) (.ok ()) s') :
    s'.Sound ∧ Later s s' ∧ Steady s' (dir ++ [name]) := by
  obtain ⟨between, sound, waited, ⟨place, located, isOpen, same⟩, -⟩ := arrived sound here
  have still : between.scratch = Option.none := waited.scratch.trans none
  have steady := steady.later waited.toLater
  obtain rfl := steady.child sound.rooted named located
  have other : routerKind ≠ scratchKind := by decide
  rw [if_neg other] at same
  subst same
  refine ⟨sound.put isOpen (.inr still) (by rw [still]; nofun),
    waited.toLater.trans (later_put isOpen.1 _), ?_, ⟨.directory, true⟩, if_pos rfl, nofun⟩
  rw [List.mem_append, List.mem_singleton, not_or]
  exact ⟨steady.1, named.symm⟩

/-- The collection holds its scratch directory. -/
structure Held (dir : Path) (name : Text) (s : Shared) : Prop where
  sound : s.Sound
  plain : parentName ∉ dir
  named : name ≠ parentName
  scratch : s.scratch = some (dir ++ [name])
  own : s.nodes (dir ++ [name]) = some ⟨.directory, true⟩

theorem Held.later (held : Held dir name s) (later : Later s s') (sound : s'.Sound) :
    Held dir name s' :=
  ⟨sound, held.plain, held.named, later.scratch.trans held.scratch, later.nodes _ _ held.own⟩

theorem Held.steady (held : Held dir name s) : Steady s dir := by
  obtain ⟨node, present, isDirectory⟩ := held.sound.rooted dir name _ held.own
  refine ⟨held.plain, node, present, ?_⟩
  rw [isDirectory]
  nofun

theorem createDir_scratch (sound : s.Sound) (steady : Steady s dir) (named : name ≠ parentName)
    (here : considerate.answered s (.createDir scratchKind (dir ++ [name])) (.ok ()) s') :
    Held dir name s' := by
  obtain ⟨between, sound, waited, ⟨place, located, isOpen, same⟩, -⟩ := arrived sound here
  have steady := steady.later waited.toLater
  obtain rfl := steady.child sound.rooted named located
  rw [if_pos rfl] at same
  subst same
  exact ⟨sound.hold isOpen, steady.1, named, rfl, if_pos rfl⟩

end Child

end Steps

/-! ## What the functions come to -/

section Functions

variable {s : Shared} {path dir : Path} {name : Text} {kind : String}

/-- A sound state is a kept one, and no answer is lost. -/
theorem wp_op {α : Type} {op : StagingOp} {next : StagingAnswer op → StagingProg α}
    {post : α → Shared → Prop} (rest : ∀ answer s', considerate.answered s op answer s' →
      s'.Sound ∧ wp considerate watch (next answer) post s') :
    wp considerate watch (.step op next) post s :=
  ⟨fun answer s' here => ⟨(rest answer s' here).1.kept, (rest answer s' here).2⟩,
    fun _ here => here.1.elim⟩

theorem wp_checkedDirectory (sound : s.Sound) :
    wp considerate watch (checkedDirectory path kind) (fun result s' => s'.Sound ∧ Later s s' ∧
      ∀ canonical, result = .ok canonical →
        Steady s' canonical ∧ (Steady s path → canonical = path)) s := by
  refine wp_op fun answer s' here => ?_
  cases answer with
  | error error =>
      obtain ⟨sound, waited, -⟩ := lookup_error sound here
      exact ⟨sound, sound, waited.toLater, nofun⟩
  | ok type =>
      obtain ⟨sound, waited, -⟩ := lookup_ok sound here
      refine ⟨sound, ?_⟩
      dsimp only
      split
      · exact ⟨sound, waited.toLater, nofun⟩
      · refine wp_op fun answer s'' there => ?_
        cases answer with
        | error error =>
            obtain ⟨sound, waited'⟩ := canonicalize_error sound there
            exact ⟨sound, sound, waited.toLater.trans waited'.toLater, nofun⟩
        | ok canonical =>
            obtain ⟨sound, waited', steady, itself⟩ := canonicalize_ok sound there
            refine ⟨sound, sound, waited.toLater.trans waited'.toLater, ?_⟩
            rintro _ ⟨⟩
            exact ⟨steady, fun before => itself (before.later waited.toLater)⟩

theorem wp_createOrCheckDirectory (sound : s.Sound) (none : s.scratch = none)
    (steady : Steady s dir) (named : name ≠ parentName) :
    wp considerate watch (createOrCheckDirectory (dir ++ [name]) routerKind) (fun result s' =>
      s'.Sound ∧ Later s s' ∧ (result = .ok () → Steady s' (dir ++ [name]))) s := by
  refine wp_op fun answer s' here => ?_
  cases answer with
  | ok type =>
      obtain ⟨sound, waited, place, node, located, present, same⟩ := lookup_ok sound here
      have steady := steady.later waited.toLater
      refine ⟨sound, ?_⟩
      dsimp only
      split
      · exact ⟨sound, waited.toLater, nofun⟩
      · next isDirectory =>
          obtain rfl := steady.child sound.rooted named located
          refine ⟨sound, waited.toLater, fun _ => ⟨?_, node, present, ?_⟩⟩
          · rw [List.mem_append, List.mem_singleton, not_or]
            exact ⟨steady.1, named.symm⟩
          · rw [same, not_not.mp isDirectory]
            nofun
  | error error =>
      obtain ⟨sound, waited, -⟩ := lookup_error sound here
      have still : s'.scratch = Option.none := waited.scratch.trans none
      refine ⟨sound, ?_⟩
      dsimp only
      split
      · refine wp_op fun answer s'' there => ?_
        cases answer with
        | error error =>
            obtain ⟨sound, waited'⟩ := createDir_error sound there
            exact ⟨sound, sound, waited.toLater.trans waited'.toLater, nofun⟩
        | ok done =>
            obtain ⟨sound, later, made⟩ :=
              createDir_router sound still (steady.later waited.toLater) named there
            exact ⟨sound, sound, waited.toLater.trans later, fun _ => made⟩
      · exact ⟨sound, waited.toLater, nofun⟩

/-! ### Removing -/

/-- Nothing of the collection's own is left at a place or below. -/
def Gone (place : Path) (s : Shared) : Prop :=
  ∀ path node, place <+: path → s.nodes path = some node → node.mine = false

theorem Gone.waited {s' : Shared} {place : Path} (gone : Gone place s) (waited : Waited s s') :
    Gone place s' := by
  intro path node inside present
  cases mine : node.mine with
  | false => rfl
  | true =>
      rw [← mine]
      exact gone path node inside (waited.own path node present mine)

theorem gone_prune (s : Shared) (place : Path) : Gone place (s.prune place) := by
  intro path node inside present
  simp only [prune, if_pos inside] at present
  cases present

theorem Gone.prune {place other : Path} (gone : Gone place s) : Gone place (s.prune other) := by
  intro path node inside present
  by_cases pruned : other <+: path
  · simp only [Shared.prune, if_pos pruned] at present
    cases present
  · simp only [Shared.prune, if_neg pruned] at present
    exact gone path node inside present

/-- Behind the removal of the scratch directory. -/
structure Cleared (dir : Path) (name : Text) (before s : Shared) : Prop where
  sound : s.Sound
  scratch : s.scratch = some (dir ++ [name])
  gone : Gone (dir ++ [name]) s
  steady : Steady s dir
  unseen : ∀ path, before.unseen path → s.unseen path

theorem wp_removeScratch (held : Held dir name s) :
    wp considerate watch (removeWithoutFollowing (dir ++ [name]))
      (fun _ => Cleared dir name s) s := by
  refine wp_op fun answer s' here => ?_
  cases answer with
  | error error =>
      obtain ⟨sound, waited, absent, -⟩ := lookup_error held.sound here
      rw [waited.nodes _ _ held.own] at absent
      cases absent
  | ok type =>
      obtain ⟨sound, waited, place, node, located, present, same⟩ := lookup_ok held.sound here
      have held := held.later waited.toLater sound
      obtain rfl := held.steady.child sound.rooted held.named located
      rw [held.own] at present
      cases present
      subst same
      refine ⟨sound, wp_op fun answer s'' there => ?_⟩
      obtain ⟨between, sound, waited', effect, honest⟩ := arrived sound there
      have held := held.later waited'.toLater sound
      cases answer with
      | error error => exact honest.elim
      | ok done =>
          obtain ⟨place, located, -, rfl⟩ := effect
          obtain rfl := held.steady.child sound.rooted held.named located
          have own : ∀ path node, dir ++ [name] <+: path → between.nodes path = some node →
              node.mine = true :=
            fun path node inside present =>
              sound.unshared _ _ held.scratch held.own rfl path node inside present
          have pruned := sound.prune own
          refine ⟨pruned, pruned, held.scratch, gone_prune _ _, ?_, fun path before =>
            waited'.unseen path (waited.unseen path before)⟩
          obtain ⟨plain, node, present, noLink⟩ := held.steady
          refine ⟨plain, node, ?_, noLink⟩
          have above : ¬dir ++ [name] <+: dir := by
            intro inside
            have longer := inside.length_le
            rw [List.length_append, List.length_singleton] at longer
            omega
          simp only [prune, if_neg above, present]

theorem wp_removeTarball {tarballName : Text} (sound : s.Sound)
    (scratch : s.scratch = some (dir ++ [name])) (steady : Steady s dir)
    (named : tarballName ≠ parentName) (unseen : s.unseen (dir ++ [tarballName]))
    (gone : Gone (dir ++ [name]) s) :
    wp considerate watch (removeWithoutFollowing (dir ++ [tarballName])) (fun _ s' =>
      s'.Sound ∧ Gone (dir ++ [name]) s' ∧ Gone (dir ++ [tarballName]) s') s := by
  refine wp_op fun answer s' here => ?_
  cases answer with
  | error error =>
      obtain ⟨sound, waited, absent, -⟩ := lookup_error sound here
      refine ⟨sound, sound, gone.waited waited, ?_⟩
      intro path node inside present
      rw [absent_below sound.rooted absent inside] at present
      cases present
  | ok type =>
      obtain ⟨sound, waited, place, node, located, present, same⟩ := lookup_ok sound here
      have steady := steady.later waited.toLater
      obtain rfl := steady.child sound.rooted named located
      obtain ⟨mine, isFile⟩ := sound.awaited dir name tarballName node
        (waited.scratch.trans scratch) (waited.unseen _ unseen) present
      subst same
      rw [isFile]
      refine ⟨sound, wp_op fun answer s'' there => ?_⟩
      obtain ⟨between, sound, waited', effect, honest⟩ := arrived sound there
      cases answer with
      | error error => exact honest.elim
      | ok done =>
          obtain ⟨place, other, located, -, -, rfl⟩ := effect
          obtain rfl := (steady.later waited'.toLater).child sound.rooted named located
          have there := waited'.nodes _ node present
          have own : ∀ path below, dir ++ [tarballName] <+: path →
              between.nodes path = some below → below.mine = true := by
            rintro _ below ⟨rest, rfl⟩ found
            by_cases itself : rest = []
            · subst itself
              rw [List.append_nil, there] at found
              cases found
              exact mine
            · obtain ⟨directory, again, isDirectory⟩ := sound.rooted.above found itself
              rw [there] at again
              cases again
              rw [isFile] at isDirectory
              cases isDirectory
          have pruned := sound.prune own
          exact ⟨pruned, pruned, ((gone.waited waited).waited waited').prune, gone_prune _ _⟩

/-! ### The handle -/

/-- The handle is in use. -/
structure Ready (paths : PreparedBundlePaths) (s : Shared) : Prop where
  held : ∃ name, paths.scratchDir = paths.routerDir ++ [name] ∧ Held paths.routerDir name s
  tarball : ∃ name, paths.tarballPath = paths.routerDir ++ [name] ∧ name ≠ parentName
  unseen : s.unseen paths.tarballPath

/-- Nothing is left where the scratch directory was made. -/
def ScratchGone (s : Shared) : Prop := ∀ scratch, s.scratch = some scratch → Gone scratch s

theorem Cleared.scratchGone {before : Shared} (cleared : Cleared dir name before s) :
    ScratchGone s := by
  intro scratch held
  rw [cleared.scratch] at held
  cases held
  exact cleared.gone

theorem wp_orElseRemove {α : Type} {result : Except SrxError α} (held : Held dir name s) :
    wp considerate watch (orElseRemove (dir ++ [name]) result) (fun shown s' => shown = result ∧
      match result with
      | .ok _ => s' = s
      | .error _ => s'.Sound ∧ ScratchGone s') s := by
  cases result with
  | ok value => exact ⟨rfl, rfl⟩
  | error error =>
      refine wp_then (wp_removeScratch held) fun _ s' cleared => ?_
      exact ⟨rfl, cleared.sound, cleared.scratchGone⟩

/-- What a preparation comes to. -/
def Prepared (result : Except SrxError PreparedBundlePaths) (s : Shared) : Prop :=
  s.Sound ∧ match result with
    | .ok paths => Ready paths s
    | .error _ => ScratchGone s

theorem scratchGone_of_none (none : s.scratch = none) : ScratchGone s := by
  intro scratch held
  rw [none] at held
  cases held

theorem wp_scratch (sound : s.Sound) (none : s.scratch = none) (steady : Steady s dir)
    (named : name ≠ parentName) :
    wp considerate watch (createPrivateDirectory (dir ++ [name]) scratchKind)
      (fun result s' => match result with
        | .ok _ => Held dir name s'
        | .error _ => s'.Sound ∧ ScratchGone s') s := by
  refine wp_op fun answer s' here => ?_
  cases answer with
  | error error =>
      obtain ⟨sound, waited⟩ := createDir_error sound here
      exact ⟨sound, sound, scratchGone_of_none (waited.scratch.trans none)⟩
  | ok done =>
      have held := createDir_scratch sound steady named here
      exact ⟨held.sound, held⟩

theorem wp_checkedScratch (held : Held dir name s) :
    wp considerate watch ((checkedDirectory (dir ++ [name]) scratchKind).bind
        (orElseRemove (dir ++ [name])))
      (fun result s' => match result with
        | .ok scratchDir => scratchDir = dir ++ [name] ∧ Held dir name s'
        | .error _ => s'.Sound ∧ ScratchGone s') s := by
  refine wp_then (wp_checkedDirectory held.sound) fun result s' ⟨sound, later, found⟩ => ?_
  have held' := held.later later sound
  refine wp_mono (wp_orElseRemove held') ?_ (fun _ => id) (fun _ => id)
  rintro shown s'' ⟨rfl, left⟩
  cases shown with
  | error error => exact left
  | ok scratchDir =>
      obtain rfl : s'' = s' := left
      refine ⟨(found scratchDir rfl).2 ⟨?_, _, held.own, nofun⟩, held'⟩
      rw [List.mem_append, List.mem_singleton, not_or]
      exact ⟨held.plain, held.named.symm⟩

theorem wp_prepareScratch {stagingRoot : Path} {stagingMaxBytes : Nat}
    {scratchName tarballName : Text} (sound : s.Sound) (none : s.scratch = none)
    (steady : Steady s dir) (scratchNamed : scratchName ≠ parentName)
    (tarballNamed : tarballName ≠ parentName) :
    wp considerate watch
      (prepareScratch stagingRoot dir stagingMaxBytes scratchName tarballName) Prepared s := by
  refine wp_andThen (wp_scratch sound none steady scratchNamed) (fun _ _ failed => failed)
    fun _ s' held => ?_
  refine wp_andThen (wp_checkedScratch held) (fun _ _ failed => failed) ?_
  rintro _ s'' ⟨rfl, held⟩
  refine wp_andThen (wp_orElseRemove held) ?_ ?_
  · rintro error last ⟨same, left⟩
    rw [← same] at left
    exact left
  rintro _ last ⟨same, left⟩
  rw [← same] at left
  obtain rfl : last = s'' := left
  refine wp_op fun answer looked here => ?_
  cases answer with
  | ok type =>
      obtain ⟨sound, waited, -⟩ := lookup_ok held.sound here
      refine ⟨sound, ?_⟩
      refine wp_mono (wp_orElseRemove (held.later waited.toLater sound)) ?_ (fun _ => id) fun _ => id
      rintro _ final ⟨rfl, left⟩
      exact left
  | error error =>
      obtain ⟨sound, waited, -, unseen⟩ := lookup_error held.sound here
      exact ⟨sound, sound, ⟨scratchName, rfl, held.later waited.toLater sound⟩,
        ⟨tarballName, rfl, tarballNamed⟩, unseen⟩

/-! ### Names -/

theorem validatePathComponent_plain {kind value : Text}
    (valid : validatePathComponent kind value = .ok ()) : value ≠ parentName := by
  rintro rfl
  cases valid

theorem bundleNames_plain {router filesystemId scratchName tarballName : Text}
    (named : bundleNames router filesystemId = .ok (scratchName, tarballName)) :
    router ≠ parentName ∧ scratchName ≠ parentName ∧ tarballName ≠ parentName := by
  obtain ⟨_, routerValid, named⟩ := bind_eq_ok.mp named
  obtain ⟨stem, -, named⟩ := bind_eq_ok.mp named
  obtain ⟨_, scratchValid, named⟩ := bind_eq_ok.mp named
  obtain ⟨tarball, filename, same⟩ := bind_eq_ok.mp named
  cases same
  refine ⟨validatePathComponent_plain routerValid, validatePathComponent_plain scratchValid, ?_⟩
  obtain ⟨stem, -, same⟩ := bind_eq_ok.mp filename
  cases same
  nofun

theorem wp_createRoot {configuredRoot : Path} (sound : s.Sound) (none : s.scratch = none) :
    wp considerate watch (createRoot configuredRoot)
      (fun _ s' => s'.Sound ∧ s'.scratch = Option.none) s := by
  refine wp_op fun answer s' here => ?_
  obtain ⟨sound, later⟩ := createDirAll_done sound none here
  cases answer <;> exact ⟨sound, sound, later.scratch.trans none⟩

theorem wp_prepareUnder {configuredRoot : Path} {stagingMaxBytes : Nat}
    {router filesystemId : Text} (sound : s.Sound) (none : s.scratch = none) :
    wp considerate watch (prepareUnder configuredRoot stagingMaxBytes router filesystemId)
      Prepared s := by
  cases names : bundleNames router filesystemId with
  | error error =>
      rw [prepareUnder, names]
      exact ⟨sound, scratchGone_of_none none⟩
  | ok both =>
      obtain ⟨scratchName, tarballName⟩ := both
      obtain ⟨routerNamed, scratchNamed, tarballNamed⟩ := bundleNames_plain names
      rw [prepareUnder, names]
      change wp considerate watch ((createRoot configuredRoot).andThen _) Prepared s
      refine wp_andThen (wp_createRoot sound none) (fun _ _ failed => ⟨failed.1, scratchGone_of_none failed.2⟩) ?_
      rintro _ s₁ ⟨sound, none⟩
      refine wp_andThen (wp_checkedDirectory sound) ?_ ?_
      · rintro _ s₂ ⟨sound, later, -⟩
        exact ⟨sound, scratchGone_of_none (later.scratch.trans none)⟩
      rintro stagingRoot s₂ ⟨sound, later, found⟩
      have none := later.scratch.trans none
      have root := (found stagingRoot rfl).1
      refine wp_andThen (wp_createOrCheckDirectory sound none root routerNamed) ?_ ?_
      · rintro _ s₃ ⟨sound, later, -⟩
        exact ⟨sound, scratchGone_of_none (later.scratch.trans none)⟩
      rintro _ s₃ ⟨sound, later, made⟩
      have none := later.scratch.trans none
      refine wp_andThen (wp_checkedDirectory sound) ?_ ?_
      · rintro _ s₄ ⟨sound, later, -⟩
        exact ⟨sound, scratchGone_of_none (later.scratch.trans none)⟩
      rintro routerDir s₄ ⟨sound, later, found⟩
      have none := later.scratch.trans none
      cases descends : ensureDescendant routerDir stagingRoot routerKind with
      | error error =>
          exact ⟨sound, scratchGone_of_none none⟩
      | ok done =>
          exact wp_prepareScratch sound none (found routerDir rfl).1 scratchNamed tarballNamed

/-! ### Use -/

/-- What is done with a handle before it is dropped. -/
def UseOp (paths : PreparedBundlePaths) : StagingOp → Prop
  | .symlinkMetadata _ | .canonicalize _ => True
  | .createNew path => path = paths.tarballPath
  | .fill scratch => scratch = paths.scratchDir
  | _ => False

theorem checkedDirectory_uses (paths : PreparedBundlePaths) (path : Path) (kind : String) :
    (checkedDirectory path kind).Performs (UseOp paths) := by
  refine ⟨trivial, fun answer => ?_⟩
  cases answer with
  | error error => trivial
  | ok type =>
      dsimp only
      split
      · trivial
      · refine ⟨trivial, fun answer => ?_⟩
        cases answer <;> trivial

theorem createTarball_uses (paths : PreparedBundlePaths) :
    paths.createTarball.Performs (UseOp paths) := by
  have confined : paths.ensureConfined.Performs (UseOp paths) :=
    (checkedDirectory_uses paths _ _).andThen fun _ =>
      (checkedDirectory_uses paths _ _).andThen fun _ =>
        (checkedDirectory_uses paths _ _).andThen fun _ => trivial
  refine confined.andThen fun _ => ⟨rfl, fun answer => ?_⟩
  cases answer <;> trivial

theorem Ready.later {paths : PreparedBundlePaths} {s' : Shared} (ready : Ready paths s)
    (later : Later s s') (sound : s'.Sound) : Ready paths s' := by
  obtain ⟨name, placed, held⟩ := ready.held
  exact ⟨⟨name, placed, held.later later sound⟩, ready.tarball, later.unseen _ ready.unseen⟩

theorem Ready.sound {paths : PreparedBundlePaths} (ready : Ready paths s) : s.Sound := by
  obtain ⟨_, -, held⟩ := ready.held
  exact held.sound

theorem Ready.kept {paths : PreparedBundlePaths} {s' : Shared} {op : StagingOp}
    {answer : StagingAnswer op} (ready : Ready paths s) (used : UseOp paths op)
    (here : considerate.answered s op answer s') : Ready paths s' := by
  cases op with
  | symlinkMetadata path =>
      cases answer with
      | ok type =>
          obtain ⟨sound, waited, -⟩ := lookup_ok ready.sound here
          exact ready.later waited.toLater sound
      | error error =>
          obtain ⟨sound, waited, -⟩ := lookup_error ready.sound here
          exact ready.later waited.toLater sound
  | canonicalize path =>
      cases answer with
      | ok canonical =>
          obtain ⟨sound, waited, -⟩ := canonicalize_ok ready.sound here
          exact ready.later waited.toLater sound
      | error error =>
          obtain ⟨sound, waited⟩ := canonicalize_error ready.sound here
          exact ready.later waited.toLater sound
  | createNew path =>
      obtain ⟨between, sound, waited, effect, -⟩ := arrived ready.sound here
      have between_ready := ready.later waited.toLater sound
      cases answer with
      | error error =>
          obtain rfl : s' = between := effect
          exact between_ready
      | ok done =>
          obtain ⟨place, located, isOpen, rfl⟩ := effect
          obtain ⟨name, placed, held⟩ := between_ready.held
          obtain ⟨tarballName, tarballPlaced, named⟩ := ready.tarball
          obtain rfl : path = paths.tarballPath := used
          rw [tarballPlaced] at located
          obtain rfl := held.steady.child sound.rooted named located
          refine between_ready.later (later_put isOpen.1 _) (sound.put isOpen (.inl rfl) ?_)
          rw [held.scratch]
          intro same
          have absent := isOpen.1
          rw [← Option.some.inj same, held.own] at absent
          cases absent
  | fill scratch =>
      obtain ⟨between, sound, waited, effect, -⟩ := arrived ready.sound here
      have between_ready := ready.later waited.toLater sound
      obtain ⟨name, placed, held⟩ := between_ready.held
      obtain rfl : scratch = paths.scratchDir := used
      have makes : between.Makes s' fun path => paths.scratchDir <+: path ∧ path ≠ paths.scratchDir :=
        effect
      rw [placed] at makes
      refine between_ready.later makes.later (sound.makes makes ?_ ?_)
      · intro scratch same allowed
        rw [held.scratch] at same
        exact allowed.2 (Option.some.inj same).symm
      · intro dir scratchName other same allowed
        rw [held.scratch] at same
        obtain ⟨rfl, rfl⟩ := snoc_inj (Option.some.inj same)
        obtain ⟨⟨rest, split⟩, other⟩ := allowed
        rw [List.append_assoc, List.append_cancel_left_eq] at split
        cases rest with
        | nil => exact other (by rw [← split, List.append_nil])
        | cons first rest => simp at split
  | createDirAll _ | createDir _ _ | removeFile _ | removeDirAll _ => exact used.elim

theorem wp_uses {α : Type} {paths : PreparedBundlePaths} {p : StagingProg α}
    (performs : p.Performs (UseOp paths)) (ready : Ready paths s) :
    wp considerate watch p (fun _ => Ready paths) s := by
  refine wp_invariant performs ready ?_ ?_
  · intro before op answer s' used ready here
    have still := ready.kept used here
    exact ⟨still.sound.kept, still⟩
  · intro before op s' used ready lost
    exact lost.1.elim

theorem Ready.commit {paths : PreparedBundlePaths} (ready : Ready paths s) :
    Ready paths.commitTarball s :=
  ⟨ready.held, ready.tarball, ready.unseen⟩

theorem wp_useOnce {paths : PreparedBundlePaths} (ready : Ready paths s) (use : Use) :
    wp considerate watch (useOnce paths use) (fun paths => Ready paths) s := by
  cases use with
  | fill =>
      have used : UseOp paths (.fill paths.scratchDir) := rfl
      refine wp_op fun answer s' here => ?_
      have still := ready.kept used here
      exact ⟨still.sound, still⟩
  | createTarball => exact wp_then (wp_uses (createTarball_uses paths) ready) fun _ _ ready => ready
  | commitTarball => exact ready.commit

theorem wp_useAll {paths : PreparedBundlePaths} (ready : Ready paths s) (uses : List Use) :
    wp considerate watch (useAll paths uses) (fun paths => Ready paths) s := by
  induction uses generalizing paths s with
  | nil => exact ready
  | cons use rest ih => exact wp_then (wp_useOnce ready use) fun _ _ ready => ih ready

/-- What is left behind the drop of a handle. -/
def Dropped (paths : PreparedBundlePaths) (s : Shared) : Prop :=
  Gone paths.scratchDir s ∧ (paths.keepTarball = false → Gone paths.tarballPath s)

theorem wp_drop {paths : PreparedBundlePaths} (ready : Ready paths s) :
    wp considerate watch paths.drop (fun _ s' => s'.Sound ∧ Dropped paths s') s := by
  obtain ⟨name, placed, held⟩ := ready.held
  obtain ⟨tarballName, tarballPlaced, named⟩ := ready.tarball
  change wp considerate watch paths.drop (fun _ s' => s'.Sound ∧ Gone paths.scratchDir s' ∧
    (paths.keepTarball = false → Gone paths.tarballPath s')) s
  rw [PreparedBundlePaths.drop, placed, tarballPlaced]
  refine wp_then (wp_removeScratch held) fun _ s' cleared => ?_
  cases keep : paths.keepTarball with
  | true => exact ⟨cleared.sound, cleared.gone, nofun⟩
  | false =>
      have unseen := cleared.unseen _ ready.unseen
      rw [tarballPlaced] at unseen
      refine wp_mono (wp_removeTarball cleared.sound cleared.scratch cleared.steady named unseen
        cleared.gone) ?_ (fun _ => id) fun _ => id
      exact fun _ _ ⟨sound, gone, tarballGone⟩ => ⟨sound, gone, fun _ => tarballGone⟩

/-- What a collection comes to. -/
def CleanedUp (result : Except SrxError PreparedBundlePaths) (s : Shared) : Prop :=
  match result with
  | .ok paths => Dropped paths s
  | .error _ => ScratchGone s

theorem wp_collection {configuredRoot : Path} {stagingMaxBytes : Nat} {router filesystemId : Text}
    {uses : List Use} (sound : s.Sound) (none : s.scratch = none) :
    wp considerate watch (collection configuredRoot stagingMaxBytes router filesystemId uses)
      (fun result s' => s'.Sound ∧ CleanedUp result s') s := by
  refine wp_andThen (wp_prepareUnder sound none) (fun _ _ failed => failed) fun paths s' prepared => ?_
  refine wp_then (wp_useAll prepared.2 uses) fun paths s' ready => ?_
  exact wp_then (wp_drop ready) fun _ _ dropped => dropped

end Functions

/-! ## From the beginning to the end -/

namespace Shared

/-- Before the collection: whatever there is, is another's. -/
structure Untouched (s : Shared) : Prop where
  rooted : s.Rooted
  scratch : s.scratch = none
  unseen : ∀ path, ¬s.unseen path
  others : ∀ path, s.others path ↔ ∃ node, s.nodes path = some node
  foreign : ∀ path node, s.nodes path = some node → node.mine = false

theorem Untouched.sound {s : Shared} (untouched : s.Untouched) : s.Sound where
  rooted := untouched.rooted
  kept path other := by
    obtain ⟨node, present⟩ := (untouched.others path).mp other
    exact ⟨node, present, untouched.foreign path node present⟩
  unshared scratch _ held := by
    rw [untouched.scratch] at held
    cases held
  awaited _ _ _ _ held := by
    rw [untouched.scratch] at held
    cases held

end Shared

/-! ## A tarball that arrives late -/

namespace Late

def home : Path := ["v".toList, "r".toList]

def scratchPlace : Path := home ++ ["srxmcp-a-scratch".toList]

def tarballPlace : Path := home ++ ["srxmcp-a.tgz".toList]

def handle : PreparedBundlePaths := ⟨["v".toList], 0, home, scratchPlace, tarballPlace, false⟩

def notFound : IoError := ⟨true, "not found".toList⟩

/-- A staging root with the directory of a router, and nothing in it. -/
def empty : Shared where
  nodes path := if path <+: home then some ⟨.directory, false⟩ else none
  others path := path <+: home
  scratch := none
  unseen _ := False

def prepared : Shared := (empty.hold scratchPlace).look tarballPlace

theorem empty_untouched : empty.Untouched where
  rooted dir name node present := by
    have above : dir <+: home := by
      by_cases inside : dir ++ [name] <+: home
      · exact (List.prefix_append _ _).trans inside
      · simp only [empty, if_neg inside] at present
        cases present
    exact ⟨⟨.directory, false⟩, if_pos above, rfl⟩
  scratch := rfl
  unseen _ := id
  others path := by
    by_cases inside : path <+: home
    · exact ⟨fun _ => ⟨_, if_pos inside⟩, fun _ => inside⟩
    · refine ⟨fun here => absurd here inside, ?_⟩
      rintro ⟨node, present⟩
      simp only [empty, if_neg inside] at present
      cases present
  foreign path node present := by
    by_cases inside : path <+: home
    · simp only [empty, if_pos inside] at present
      cases present
      rfl
    · simp only [empty, if_neg inside] at present
      cases present

/-- An operation that nobody comes before. -/
theorem undisturbed {s s' : Shared} {op : StagingOp} {answer : StagingAnswer op}
    (effect : s.Effect op answer s') (honest : Honest op (some answer) s') :
    considerate.answered s op answer s' := by
  refine ⟨⟨s, .refl s, effect⟩, ?_, honest⟩
  intro path after before
  rw [effect.others] at after
  exact absurd after before

theorem empty_directory {path : Path} (above : path <+: home) :
    empty.nodes path = some ⟨.directory, false⟩ := if_pos above

/-- The directory is there, and is what it is called. -/
theorem checked {s : Shared} {path : Path} {mine : Bool} {kind : String}
    (plain : parentName ∉ path) (present : s.nodes path = some ⟨.directory, mine⟩) :
    Runs considerate s (checkedDirectory path kind)
      [⟨.symlinkMetadata path, .ok .directory⟩, ⟨.canonicalize path, .ok path⟩] (.ok path) s := by
  have looked : considerate.answered s (.symlinkMetadata path) (.ok .directory) s :=
    undisturbed ⟨rfl, path, _, .inl rfl, present, rfl⟩ trivial
  have followed : considerate.answered s (.canonicalize path) (.ok path) s :=
    undisturbed ⟨rfl, plain, ⟨_, present, nofun⟩, fun _ _ _ _ => rfl⟩ trivial
  exact ⟨.step (.step (.pure _)), .step looked (.step followed (.refl _))⟩

/-- The scratch directory is made. -/
def held : Shared := empty.hold scratchPlace

theorem held_scratch : held.nodes scratchPlace = some ⟨.directory, true⟩ := by decide

theorem makes_scratch : Runs considerate empty (createPrivateDirectory scratchPlace scratchKind)
    [⟨.createDir scratchKind scratchPlace, .ok ()⟩] (.ok ()) held := by
  have absent : empty.nodes scratchPlace = none := by decide
  have isOpen : empty.Open scratchPlace :=
    ⟨absent, home, _, rfl, _, empty_directory (List.prefix_refl home), rfl⟩
  have made : considerate.answered empty (.createDir scratchKind scratchPlace) (.ok ()) held :=
    undisturbed ⟨scratchPlace, .inl rfl, isOpen, (if_pos rfl).symm⟩ trivial
  exact ⟨.step (.pure _), .step made (.refl _)⟩

theorem prepares_scratch : ∃ trace, Runs considerate empty
    (prepareScratch ["v".toList] home 0 "srxmcp-a-scratch".toList "srxmcp-a.tgz".toList) trace
    (.ok handle) prepared := by
  have plain : parentName ∉ scratchPlace := by decide
  have descends : ensureDescendant scratchPlace home scratchKind = .ok () := if_neg (by decide)
  have absent : held.nodes tarballPlace = none := by decide
  have looked : considerate.answered held (.symlinkMetadata tarballPlace) (.error notFound) prepared :=
    undisturbed ⟨rfl, fun _ => absent⟩ absent
  have found : Runs considerate held
      ((checkedDirectory scratchPlace scratchKind).bind (orElseRemove scratchPlace)) _
      (.ok scratchPlace) held :=
    runs_bind.mpr ⟨_, [], _, _, rfl, checked plain held_scratch, runs_pure.mpr ⟨rfl, rfl, rfl⟩⟩
  have confined : Runs considerate held
      (orElseRemove scratchPlace (ensureDescendant scratchPlace home scratchKind)) [] (.ok ()) held := by
    rw [descends]
    exact runs_pure.mpr ⟨rfl, rfl, rfl⟩
  exact ⟨_, makes_scratch.andThen (found.andThen (confined.andThen
    (runs_step.mpr ⟨_, _, _, rfl, looked, runs_pure.mpr ⟨rfl, rfl, rfl⟩⟩)))⟩

theorem prepares : ∃ trace, Runs considerate empty
    (prepareUnder ["v".toList] 0 "r".toList "a".toList) trace (.ok handle) prepared := by
  have named : Runs considerate empty (.pure (bundleNames "r".toList "a".toList)) []
      (.ok ("srxmcp-a-scratch".toList, "srxmcp-a.tgz".toList)) empty :=
    runs_pure.mpr ⟨rfl, rfl, rfl⟩
  have root : ["v".toList] <+: home := by decide
  have router := empty_directory (List.prefix_refl home)
  have seen : considerate.answered empty (.symlinkMetadata home) (.ok .directory) empty :=
    undisturbed ⟨rfl, home, _, .inl rfl, router, rfl⟩ trivial
  have made : Runs considerate empty
      (createOrCheckDirectory (["v".toList] ++ ["r".toList]) routerKind)
      [⟨.symlinkMetadata home, .ok .directory⟩] (.ok ()) empty :=
    ⟨.step (.pure _), .step seen (.refl _)⟩
  have descends : ensureDescendant home ["v".toList] routerKind = .ok () := if_neg (by decide)
  have confined : Runs considerate empty
      (.pure (ensureDescendant home ["v".toList] routerKind)) [] (.ok ()) empty :=
    runs_pure.mpr ⟨rfl, descends.symm, rfl⟩
  have begun : considerate.answered empty (.createDirAll ["v".toList]) (.ok ()) empty :=
    undisturbed ⟨.refl empty _, rfl⟩ trivial
  have rooted : Runs considerate empty (createRoot ["v".toList])
      [⟨.createDirAll ["v".toList], .ok ()⟩] (.ok ()) empty :=
    ⟨.step (.pure _), .step begun (.refl _)⟩
  obtain ⟨rest, last⟩ := prepares_scratch
  exact ⟨_, named.andThen (rooted.andThen
    ((checked (by decide) (empty_directory root)).andThen (made.andThen
      ((checked (by decide) router).andThen (confined.andThen last)))))⟩

def cleared : Shared := prepared.prune scratchPlace

theorem clears : Runs considerate prepared (removeWithoutFollowing scratchPlace)
    [⟨.symlinkMetadata scratchPlace, .ok .directory⟩, ⟨.removeDirAll scratchPlace, .ok ()⟩] ()
    cleared := by
  have present : prepared.nodes scratchPlace = some ⟨.directory, true⟩ := held_scratch
  have looked : considerate.answered prepared (.symlinkMetadata scratchPlace) (.ok .directory)
      prepared := undisturbed ⟨rfl, scratchPlace, _, .inl rfl, present, rfl⟩ trivial
  have removed : considerate.answered prepared (.removeDirAll scratchPlace) (.ok ()) cleared :=
    undisturbed ⟨scratchPlace, .inl rfl, ⟨_, present, rfl⟩, rfl⟩ trivial
  exact ⟨.step (.step (.pure _)), .step looked (.step removed (.refl _))⟩

/-- Prepared and dropped. -/
theorem collects {world : World StagingOp StagingAnswer Shared} {s' : Shared}
    {first second third : StagingTrace}
    (prepare : Runs world empty (prepareUnder ["v".toList] 0 "r".toList "a".toList) first
      (.ok handle) prepared)
    (clear : Runs world prepared (removeWithoutFollowing scratchPlace) second () cleared)
    (remove : Runs world cleared (removeWithoutFollowing tarballPlace) third () s') :
    ∃ trace, Runs world empty (collection ["v".toList] 0 "r".toList "a".toList []) trace
      (.ok handle) s' := by
  have dropped : Runs world prepared handle.drop (second ++ third) () s' :=
    runs_bind.mpr ⟨second, third, (), cleared, rfl, clear, remove⟩
  have used : Runs world prepared (useAll handle []) [] handle prepared :=
    runs_pure.mpr ⟨rfl, rfl, rfl⟩
  have finished : Runs world s' (.pure (.ok handle) : StagingProg (Except SrxError _)) []
      (.ok handle) s' := runs_pure.mpr ⟨rfl, rfl, rfl⟩
  exact ⟨_, prepare.andThen (runs_bind.mpr ⟨_, _, _, _, rfl, used,
    runs_bind.mpr ⟨_, _, _, _, rfl, dropped, finished⟩⟩)⟩

/-- Another process makes its file where the tarball would be. -/
def beside : Shared :=
  { cleared.setNode tarballPlace ⟨.file, false⟩ with
    others := fun path => cleared.others path ∨ path = tarballPlace }

theorem beside_tarball : beside.nodes tarballPlace = some ⟨.file, false⟩ := by decide

theorem beside_arrives : cleared.Arrives beside := by
  have absent : cleared.nodes tarballPlace = none := by decide
  have router : cleared.nodes home = some ⟨.directory, false⟩ := by decide
  have isOpen : cleared.Open tarballPlace := ⟨absent, home, _, rfl, _, router, rfl⟩
  have old_or_here : ∀ path, path = tarballPlace ∨ beside.nodes path = cleared.nodes path := by
    intro path
    by_cases here : path = tarballPlace
    · exact .inl here
    · exact .inr (if_neg here)
  constructor
  · constructor
    · intro path node present
      rcases old_or_here path with rfl | old
      · rw [absent] at present
        cases present
      · rw [old, present]
    · intro path node missing present
      rcases old_or_here path with rfl | old
      · cases present
        exact ⟨rfl, .inl rfl⟩
      · rw [old, missing] at present
        cases present
    · exact fun rooted => rooted_setNode rooted isOpen ⟨.file, false⟩
    · rfl
    · rfl
  · intro path
    constructor
    · rintro (before | rfl)
      · exact .inl before
      · exact .inr ⟨absent, _, beside_tarball⟩
    · rintro (before | ⟨missing, node, present⟩)
      · exact .inl before
      · rcases old_or_here path with here | old
        · exact .inr here
        · rw [old, missing] at present
          cases present

def spoiled : Shared := beside.prune tarballPlace

theorem spoils : ∃ trace, Runs staging cleared (removeWithoutFollowing tarballPlace) trace ()
    spoiled := by
  have looked : staging.answered cleared (.symlinkMetadata tarballPlace) (.ok .file) beside :=
    ⟨beside, beside_arrives, rfl, tarballPlace, _, .inl rfl, beside_tarball, rfl⟩
  have removed : staging.answered beside (.removeFile tarballPlace) (.ok ()) spoiled :=
    ⟨beside, .refl _, tarballPlace, _, .inl rfl, beside_tarball, nofun, rfl⟩
  exact ⟨[⟨.symlinkMetadata tarballPlace, .ok .file⟩, ⟨.removeFile tarballPlace, .ok ()⟩],
    .step (.step (.pure _)), .step looked (.step removed (.refl _))⟩

end Late

/-- The others lose nothing on the way, and the collection leaves nothing behind. -/
theorem collection_removesItsOwn {s : Shared} (configuredRoot : Path) (stagingMaxBytes : Nat)
    (router filesystemId : Text) (uses : List Use) (untouched : s.Untouched) :
    (∀ s', Visits considerate s
        (collection configuredRoot stagingMaxBytes router filesystemId uses) s' → s'.Kept) ∧
    ∀ trace result s', Runs considerate s
        (collection configuredRoot stagingMaxBytes router filesystemId uses) trace result s' →
      CleanedUp result s' := by
  have holds : wp considerate watch
      (collection configuredRoot stagingMaxBytes router filesystemId uses)
      (fun result s' => s'.Sound ∧ CleanedUp result s') s :=
    wp_collection untouched.sound untouched.scratch
  constructor
  · intro s' visits
    exact wp_visits holds untouched.sound.kept visits
  · intro trace result s' runs
    exact (wp_runs holds runs).2

/-- Nobody comes, and nothing is left. -/
theorem empty_collection_removesItsOwn :
    (Late.cleared.look Late.tarballPlace).Kept ∧
    Dropped Late.handle (Late.cleared.look Late.tarballPlace) := by
  have absent : Late.cleared.nodes Late.tarballPlace = none := by decide
  have looked : considerate.answered Late.cleared (.symlinkMetadata Late.tarballPlace)
      (.error Late.notFound) (Late.cleared.look Late.tarballPlace) :=
    Late.undisturbed ⟨rfl, fun _ => absent⟩ absent
  obtain ⟨_, prepare⟩ := Late.prepares
  have remove : Runs considerate Late.cleared (removeWithoutFollowing Late.tarballPlace)
      [⟨.symlinkMetadata Late.tarballPlace, .error Late.notFound⟩] ()
      (Late.cleared.look Late.tarballPlace) := ⟨.step (.pure _), .step looked (.refl _)⟩
  obtain ⟨_, runs⟩ := Late.collects prepare Late.clears remove
  have both := collection_removesItsOwn ["v".toList] 0 "r".toList "a".toList []
    Late.empty_untouched
  exact ⟨both.1 _ runs.visits, both.2 _ _ _ runs⟩

/-- A file of another process, made where the collection has looked for its tarball, goes with it. -/
theorem late_tarball_removed : Late.empty.Untouched ∧
    Visits staging Late.empty (collection ["v".toList] 0 "r".toList "a".toList []) Late.spoiled ∧
    ¬Late.spoiled.Kept := by
  refine ⟨Late.empty_untouched, ?_, ?_⟩
  · obtain ⟨_, prepare, followed⟩ := Late.prepares
    obtain ⟨clear, cleared⟩ := Late.clears
    obtain ⟨_, spoils⟩ := Late.spoils
    obtain ⟨_, runs⟩ := Late.collects ⟨prepare, followed.of_restrict⟩
      ⟨clear, cleared.of_restrict⟩ spoils
    exact runs.visits
  · intro kept
    obtain ⟨node, present, -⟩ := kept Late.tarballPlace (.inr rfl)
    have pruned : Late.spoiled.nodes Late.tarballPlace = none := by decide
    rw [pruned] at present
    cases present

end JunosMcp.Srx.Staging
