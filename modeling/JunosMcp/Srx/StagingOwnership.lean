import Mathlib.Data.List.Induction
import JunosMcp.Srx.BundleStaging

/-!
# What a collection removes

The staging directory is shared with other processes, which may create files and directories between
any two operations of a collection. What is kept of their entries, and what is left of the
collection's own, follows from what each operation does to the tree.
-/

namespace JunosMcp.Srx.Staging

open Lib SupportBundle

structure Node where
  type : EntryType
  /-- Made by this collection. -/
  mine : Bool
deriving DecidableEq

/-- A file system, and what is known of this collection in it. -/
structure Shared where
  nodes : Path → Option Node
  /-- Where another process has made an entry, or where one was before. -/
  others : Path → Prop
  /-- The scratch directory, once it is made. -/
  scratch : Option Path
  /-- What has been looked at since then and has not been seen. -/
  unseen : Path → Prop

namespace Shared

def parentName : Text := "..".toList

def IsDirectory (s : Shared) (path : Path) : Prop :=
  ∃ node, s.nodes path = some node ∧ node.type = .directory

/-- Every entry lies in a directory. -/
def Rooted (s : Shared) : Prop :=
  ∀ dir name node, s.nodes (dir ++ [name]) = some node → s.IsDirectory dir

/-- Where a path can lead to: to its own place, or over a link elsewhere. -/
def Located (s : Shared) (path place : Path) : Prop :=
  place = path ∨ parentName ∈ path ∨ ∃ link node, link <+: path ∧ link ≠ path ∧
    s.nodes link = some node ∧ node.type = .symlink

/-- An entry can be made there. -/
def Open (s : Shared) (place : Path) : Prop :=
  s.nodes place = none ∧ ∃ dir name, place = dir ++ [name] ∧ s.IsDirectory dir

def setNode (s : Shared) (place : Path) (node : Node) : Shared :=
  { s with nodes := fun path => if path = place then some node else s.nodes path }

def put (s : Shared) (place : Path) (type : EntryType) : Shared := s.setNode place ⟨type, true⟩

/-- The scratch directory is made there. -/
def hold (s : Shared) (place : Path) : Shared :=
  { s.put place .directory with scratch := some place, unseen := fun _ => False }

/-- What is at the place or below is gone. -/
def prune (s : Shared) (place : Path) : Shared :=
  { s with nodes := fun path => if place <+: path then none else s.nodes path }

/-- Some of it is gone. -/
structure Thinned (s : Shared) (place : Path) (s' : Shared) : Prop where
  nodes : ∀ path, s'.nodes path = s.nodes path ∨ (place <+: path ∧ s'.nodes path = none)
  rooted : s.Rooted → s'.Rooted
  rest : s'.others = s.others ∧ s'.scratch = s.scratch ∧ s'.unseen = s.unseen

def look (s : Shared) (path : Path) : Shared :=
  { s with unseen := fun other => s.unseen other ∨ other = path }

/-- Files and directories are added. -/
structure Grown (s s' : Shared) (allowed : Path → Node → Prop) : Prop where
  kept : ∀ path node, s.nodes path = some node → s'.nodes path = some node
  new : ∀ path node, s.nodes path = none → s'.nodes path = some node →
    allowed path node ∧ (node.type = .file ∨ node.type = .directory)
  rooted : s.Rooted → s'.Rooted
  scratch : s'.scratch = s.scratch
  unseen : s'.unseen = s.unseen

/-- Another process has been at work. -/
structure Arrives (s s' : Shared) : Prop extends
    Grown s s' (fun _ node => node.mine = false) where
  others : ∀ path, s'.others path ↔
    s.others path ∨ (s.nodes path = none ∧ ∃ node, s'.nodes path = some node)

/-- This collection has been at work. -/
structure Makes (s s' : Shared) (place : Path → Prop) : Prop extends
    Grown s s' (fun path node => node.mine = true ∧ place path) where
  others : s'.others = s.others

/-- What an operation does, and what it answers. -/
def Effect (s : Shared) : (op : StagingOp) → StagingAnswer op → Shared → Prop
  | .createDirAll _, _, s' => s.Makes s' fun _ => True
  | .symlinkMetadata path, .ok type, s' => s' = s ∧
      ∃ place node, s.Located path place ∧ s.nodes place = some node ∧ node.type = type
  | .symlinkMetadata path, .error error, s' =>
      s' = s.look path ∧ (error.notFound = true → s.nodes path = none)
  | .canonicalize path, .ok canonical, s' => s' = s ∧ parentName ∉ canonical ∧
      (∃ node, s.nodes canonical = some node ∧ node.type ≠ .symlink) ∧
      ∀ node, s.nodes path = some node → node.type ≠ .symlink → parentName ∉ path →
        canonical = path
  | .canonicalize _, .error _, s' => s' = s
  | .createDir kind path, .ok (), s' => ∃ place, s.Located path place ∧ s.Open place ∧
      s' = if kind = scratchKind then s.hold place else s.put place .directory
  | .createDir _ _, .error _, s' => s' = s
  | .removeFile path, .ok (), s' => ∃ place node, s.Located path place ∧
      s.nodes place = some node ∧ node.type ≠ .directory ∧ s' = s.prune place
  | .removeFile _, .error _, s' => s' = s
  | .removeDirAll path, .ok (), s' => ∃ place, s.Located path place ∧ s.IsDirectory place ∧
      s' = s.prune place
  | .removeDirAll path, .error _, s' => ∃ place, s.Located path place ∧ s.Thinned place s'
  | .createNew path, .ok (), s' => ∃ place, s.Located path place ∧ s.Open place ∧
      s' = s.put place .file
  | .createNew _, .error _, s' => s' = s
  | .fill scratch, _, s' => s.Makes s' fun path => scratch <+: path ∧ path ≠ scratch

end Shared

/-- Before every operation, another process may create what it likes. -/
def staging : World StagingOp StagingAnswer Shared where
  answered s op answer s'' := ∃ s', s.Arrives s' ∧ s'.Effect op answer s''
  abandoned _ _ _ := False

namespace Shared

/-! ## What is asked of the others -/

/-- Below the scratch directory, and beside it where nothing has been seen. -/
def Guarded (s : Shared) (path : Path) : Prop :=
  (∃ scratch node, s.scratch = some scratch ∧ s.nodes scratch = some node ∧ node.mine = true ∧
    scratch <+: path) ∨
  (s.unseen path ∧ ∃ dir scratchName name, s.scratch = some (dir ++ [scratchName]) ∧
    path = dir ++ [name])

/-- What cannot be looked at is not there, and removing succeeds. -/
def Honest : (op : StagingOp) → Option (StagingAnswer op) → Shared → Prop
  | .symlinkMetadata path, some (.error _), s => s.nodes path = none
  | .removeFile _, some (.error _), _ => False
  | .removeDirAll _, some (.error _), _ => False
  | _, _, _ => True

def Considerate (s : Shared) (op : StagingOp) (answer : Option (StagingAnswer op)) (s' : Shared) :
    Prop :=
  (∀ path, s'.others path → ¬s.others path → ¬s.Guarded path) ∧ Honest op answer s'

/-! ## What is kept -/

/-- Nothing of the others has been removed. -/
def Kept (s : Shared) : Prop :=
  ∀ path, s.others path → ∃ node, s.nodes path = some node ∧ node.mine = false

structure Sound (s : Shared) : Prop where
  rooted : s.Rooted
  kept : s.Kept
  /-- The scratch directory is the collection's alone. -/
  unshared : ∀ scratch node, s.scratch = some scratch → s.nodes scratch = some node →
    node.mine = true → ∀ path below, scratch <+: path → s.nodes path = some below →
      below.mine = true
  /-- What stands beside it where nothing was seen is the collection's tarball. -/
  awaited : ∀ dir scratchName name node, s.scratch = some (dir ++ [scratchName]) →
    s.unseen (dir ++ [name]) → s.nodes (dir ++ [name]) = some node →
      node.mine = true ∧ node.type = .file

section Preserved

variable {s s' : Shared} {path place dir : Path} {name : Text}

theorem snoc_inj {dir dir' : Path} {name name' : Text} (same : dir ++ [name] = dir' ++ [name']) :
    dir = dir' ∧ name = name' := by
  obtain ⟨rfl, last⟩ := List.append_inj' same rfl
  exact ⟨rfl, List.head_eq_of_cons_eq last⟩

/-- A directory is all that can stand above an entry. -/
theorem Rooted.above (rooted : s.Rooted) {link rest : Path} {node : Node}
    (found : s.nodes (link ++ rest) = some node) (strict : rest ≠ []) : s.IsDirectory link := by
  induction rest using List.reverseRec generalizing node with
  | nil => exact absurd rfl strict
  | append_singleton rest name ih =>
      rw [← List.append_assoc] at found
      cases rest with
      | nil =>
          rw [List.append_nil] at found
          exact rooted link name node found
      | cons first rest =>
          obtain ⟨parent, here, -⟩ := rooted _ name node found
          exact ih here (List.cons_ne_nil _ _)

/-- No link leads away from a child of what is no link itself. -/
theorem located_child (rooted : s.Rooted) {node : Node} (found : s.nodes dir = some node)
    (noLink : node.type ≠ .symlink) (plain : parentName ∉ dir) (named : name ≠ parentName)
    (located : s.Located (dir ++ [name]) place) : place = dir ++ [name] := by
  rcases located with here | up | ⟨link, other, ⟨rest, split⟩, strict, linked, isLink⟩
  · exact here
  · rcases List.mem_append.mp up with up | last
    · exact absurd up plain
    · exact absurd (List.mem_singleton.mp last).symm named
  · exfalso
    rcases List.eq_nil_or_concat rest with rfl | ⟨between, last, rfl⟩
    · exact strict (by rw [← split, List.append_nil])
    · rw [List.concat_eq_append, ← List.append_assoc] at split
      obtain ⟨rfl, -⟩ := snoc_inj split
      by_cases itself : between = []
      · subst itself
        rw [List.append_nil] at found
        rw [found] at linked
        cases linked
        exact noLink isLink
      · obtain ⟨directory, here, isDirectory⟩ := rooted.above found itself
        rw [linked] at here
        cases here
        rw [isLink] at isDirectory
        cases isDirectory

theorem Grown.refl (s : Shared) (allowed : Path → Node → Prop) : s.Grown s allowed where
  kept _ _ := id
  new path node absent present := by
    rw [absent] at present
    cases present
  rooted := id
  scratch := rfl
  unseen := rfl

theorem Arrives.refl (s : Shared) : s.Arrives s := by
  refine ⟨.refl s _, fun path => ⟨.inl, ?_⟩⟩
  rintro (before | ⟨absent, node, present⟩)
  · exact before
  · rw [absent] at present
    cases present

theorem Sound.arrives (sound : s.Sound) (arrives : s.Arrives s')
    (unguarded : ∀ path, s'.others path → ¬s.others path → ¬s.Guarded path) : s'.Sound := by
  have new_foreign : ∀ path node, s.nodes path = none → s'.nodes path = some node →
      node.mine = false ∧ ¬s.Guarded path := by
    intro path node absent present
    refine ⟨(arrives.new path node absent present).1, ?_⟩
    apply unguarded path ((arrives.others path).mpr (.inr ⟨absent, node, present⟩))
    intro before
    obtain ⟨old, there, -⟩ := sound.kept path before
    rw [absent] at there
    cases there
  have old_or_new : ∀ path node, s'.nodes path = some node →
      s.nodes path = some node ∨ (node.mine = false ∧ ¬s.Guarded path) := by
    intro path node present
    cases before : s.nodes path with
    | none => exact .inr (new_foreign path node before present)
    | some old =>
        rw [arrives.kept path old before] at present
        cases present
        exact .inl rfl
  constructor
  · exact arrives.rooted sound.rooted
  · intro path other
    rcases (arrives.others path).mp other with before | ⟨absent, node, present⟩
    · obtain ⟨node, there, foreign⟩ := sound.kept path before
      exact ⟨node, arrives.kept path node there, foreign⟩
    · exact ⟨node, present, (new_foreign path node absent present).1⟩
  · intro scratch node held present mine path below inside there
    rw [arrives.scratch] at held
    rcases old_or_new scratch node present with before | ⟨foreign, -⟩
    · rcases old_or_new path below there with old | ⟨-, free⟩
      · exact sound.unshared scratch node held before mine path below inside old
      · exact absurd (.inl ⟨scratch, node, held, before, mine, inside⟩) free
    · rw [mine] at foreign
      cases foreign
  · intro dir scratchName name node held unseen present
    rw [arrives.scratch] at held
    rw [arrives.unseen] at unseen
    rcases old_or_new _ node present with before | ⟨-, free⟩
    · exact sound.awaited dir scratchName name node held unseen before
    · exact absurd (.inr ⟨unseen, dir, scratchName, name, held, rfl⟩) free

theorem Sound.makes {allowed : Path → Prop} (sound : s.Sound) (makes : s.Makes s' allowed)
    (itself : ∀ scratch, s.scratch = some scratch → ¬allowed scratch)
    (beside : ∀ dir scratchName name, s.scratch = some (dir ++ [scratchName]) →
      ¬allowed (dir ++ [name])) : s'.Sound := by
  have old_or_new : ∀ path node, s'.nodes path = some node →
      s.nodes path = some node ∨ (node.mine = true ∧ allowed path) := by
    intro path node present
    cases before : s.nodes path with
    | none => exact .inr (makes.new path node before present).1
    | some old =>
        rw [makes.kept path old before] at present
        cases present
        exact .inl rfl
  constructor
  · exact makes.rooted sound.rooted
  · intro path other
    rw [makes.others] at other
    obtain ⟨node, there, foreign⟩ := sound.kept path other
    exact ⟨node, makes.kept path node there, foreign⟩
  · intro scratch node held present mine path below inside there
    rw [makes.scratch] at held
    rcases old_or_new path below there with old | ⟨own, -⟩
    · rcases old_or_new scratch node present with before | ⟨-, within⟩
      · exact sound.unshared scratch node held before mine path below inside old
      · exact absurd within (itself scratch held)
    · exact own
  · intro dir scratchName name node held unseen present
    rw [makes.scratch] at held
    rw [makes.unseen] at unseen
    rcases old_or_new _ node present with before | ⟨-, within⟩
    · exact sound.awaited dir scratchName name node held unseen before
    · exact absurd within (beside dir scratchName name held)

theorem Sound.look (sound : s.Sound) (absent : s.nodes path = none) : (s.look path).Sound where
  rooted := sound.rooted
  kept := sound.kept
  unshared := sound.unshared
  awaited dir scratchName name node held unseen present := by
    rcases unseen with before | rfl
    · exact sound.awaited dir scratchName name node held before present
    · exact absurd (present.symm.trans absent) nofun

theorem rooted_setNode (rooted : s.Rooted) (isOpen : s.Open place) (added : Node) :
    (s.setNode place added).Rooted := by
  obtain ⟨absent, home, last, rfl, isDirectory⟩ := isOpen
  have still : ∀ dir, s.IsDirectory dir → (s.setNode (home ++ [last]) added).IsDirectory dir := by
    rintro dir ⟨node, present, directory⟩
    refine ⟨node, ?_, directory⟩
    have other : dir ≠ home ++ [last] := by
      rintro rfl
      rw [absent] at present
      cases present
    simp only [setNode, if_neg other, present]
  intro dir name node present
  by_cases here : dir ++ [name] = home ++ [last]
  · obtain ⟨rfl, rfl⟩ := snoc_inj here
    exact still dir isDirectory
  · simp only [setNode, if_neg here] at present
    exact still dir (rooted dir name node present)

theorem kept_put (kept : s.Kept) (absent : s.nodes place = none) (type : EntryType) :
    (s.put place type).Kept := by
  intro path other
  obtain ⟨node, present, foreign⟩ := kept path other
  refine ⟨node, ?_, foreign⟩
  have elsewhere : path ≠ place := by
    rintro rfl
    rw [absent] at present
    cases present
  simp only [put, setNode, if_neg elsewhere, present]

theorem Sound.put (sound : s.Sound) (isOpen : s.Open place) {type : EntryType}
    (suits : type = .file ∨ s.scratch = none) (fresh : s.scratch ≠ some place) :
    (s.put place type).Sound := by
  have old_or_here : ∀ path node, (s.put place type).nodes path = some node →
      (path ≠ place ∧ s.nodes path = some node) ∨ (path = place ∧ node = ⟨type, true⟩) := by
    intro path node present
    by_cases here : path = place
    · simp only [Shared.put, setNode, if_pos here] at present
      cases present
      exact .inr ⟨here, rfl⟩
    · simp only [Shared.put, setNode, if_neg here] at present
      exact .inl ⟨here, present⟩
  refine ⟨rooted_setNode sound.rooted isOpen _, kept_put sound.kept isOpen.1 type, ?_, ?_⟩
  · intro scratch node held present mine path below inside there
    rcases old_or_here path below there with ⟨-, old⟩ | ⟨-, rfl⟩
    · rcases old_or_here scratch node present with ⟨-, before⟩ | ⟨rfl, -⟩
      · exact sound.unshared scratch node held before mine path below inside old
      · exact absurd held fresh
    · rfl
  · intro dir scratchName name node held unseen present
    rcases old_or_here _ node present with ⟨-, before⟩ | ⟨-, rfl⟩
    · exact sound.awaited dir scratchName name node held unseen before
    · rcases suits with rfl | none
      · exact ⟨rfl, rfl⟩
      · rw [show s.scratch = some (dir ++ [scratchName]) from held] at none
        cases none

/-- Nothing can be below what was not there. -/
theorem absent_below (rooted : s.Rooted) (absent : s.nodes place = none) {below : Path}
    (inside : place <+: below) : s.nodes below = none := by
  obtain ⟨rest, rfl⟩ := inside
  cases present : s.nodes (place ++ rest) with
  | none => rfl
  | some node =>
      by_cases here : rest = []
      · subst here
        rw [List.append_nil, absent] at present
        cases present
      · obtain ⟨directory, there, -⟩ := rooted.above present here
        rw [absent] at there
        cases there

theorem Sound.hold (sound : s.Sound) (isOpen : s.Open place) : (s.hold place).Sound where
  rooted := rooted_setNode sound.rooted isOpen _
  kept := kept_put sound.kept isOpen.1 .directory
  unshared scratch node held _ _ path below inside there := by
    cases held
    by_cases here : path = place
    · simp only [Shared.hold, Shared.put, setNode, if_pos here] at there
      cases there
      rfl
    · simp only [Shared.hold, Shared.put, setNode, if_neg here] at there
      rw [absent_below sound.rooted isOpen.1 inside] at there
      cases there
  awaited _ _ _ _ _ unseen _ := unseen.elim

theorem Sound.prune (sound : s.Sound)
    (own : ∀ path node, place <+: path → s.nodes path = some node → node.mine = true) :
    (s.prune place).Sound := by
  have old : ∀ path node, (s.prune place).nodes path = some node →
      ¬place <+: path ∧ s.nodes path = some node := by
    intro path node present
    by_cases inside : place <+: path
    · simp only [Shared.prune, if_pos inside] at present
      cases present
    · simp only [Shared.prune, if_neg inside] at present
      exact ⟨inside, present⟩
  constructor
  · intro dir name node present
    obtain ⟨outside, before⟩ := old _ node present
    obtain ⟨directory, here, isDirectory⟩ := sound.rooted dir name node before
    refine ⟨directory, ?_, isDirectory⟩
    have above : ¬place <+: dir := fun inside => outside (inside.trans (List.prefix_append _ _))
    simp only [Shared.prune, if_neg above, here]
  · intro path other
    obtain ⟨node, present, foreign⟩ := sound.kept path other
    refine ⟨node, ?_, foreign⟩
    have outside : ¬place <+: path := by
      intro inside
      rw [own path node inside present] at foreign
      cases foreign
    simp only [Shared.prune, if_neg outside, present]
  · intro scratch node held present mine path below inside there
    exact sound.unshared scratch node held (old scratch node present).2 mine path below inside
      (old path below there).2
  · intro dir scratchName name node held unseen present
    exact sound.awaited dir scratchName name node held unseen (old _ node present).2

end Preserved

/-- Nothing has gone since. -/
structure Later (s s' : Shared) : Prop where
  nodes : ∀ path node, s.nodes path = some node → s'.nodes path = some node
  scratch : s'.scratch = s.scratch
  unseen : ∀ path, s.unseen path → s'.unseen path

theorem Later.refl (s : Shared) : Later s s := ⟨fun _ _ => id, rfl, fun _ => id⟩

theorem Later.trans {s s' s'' : Shared} (first : Later s s') (second : Later s' s'') :
    Later s s'' :=
  ⟨fun path node present => second.nodes path node (first.nodes path node present),
    second.scratch.trans first.scratch, fun path before => second.unseen path (first.unseen path before)⟩

/-- And nothing of the collection's own has come. -/
structure Waited (s s' : Shared) : Prop extends Later s s' where
  own : ∀ path node, s'.nodes path = some node → node.mine = true → s.nodes path = some node

theorem Arrives.waited {s s' : Shared} (arrives : s.Arrives s') : Waited s s' where
  nodes := arrives.kept
  scratch := arrives.scratch
  unseen path before := by
    rw [arrives.unseen]
    exact before
  own path node present mine := by
    cases before : s.nodes path with
    | none =>
        rw [(arrives.new path node before present).1] at mine
        cases mine
    | some old =>
        rw [arrives.kept path old before] at present
        cases present
        rfl

theorem Makes.later {s s' : Shared} {allowed : Path → Prop} (makes : s.Makes s' allowed) :
    Later s s' :=
  ⟨makes.kept, makes.scratch, fun path before => by rw [makes.unseen]; exact before⟩

theorem Waited.look {s s' : Shared} (waited : Waited s s') (path : Path) :
    Waited s (s'.look path) :=
  { waited with unseen := fun other before => .inl (waited.unseen other before) }

theorem later_put {s : Shared} {place : Path} (absent : s.nodes place = none) (type : EntryType) :
    Later s (s.put place type) := by
  refine ⟨fun path node present => ?_, rfl, fun _ => id⟩
  have elsewhere : path ≠ place := by
    rintro rfl
    rw [absent] at present
    cases present
  simp only [put, setNode, if_neg elsewhere, present]

/-- An operation makes no entry another's. -/
theorem Effect.others {s s' : Shared} {op : StagingOp} {answer : StagingAnswer op}
    (effect : s.Effect op answer s') : s'.others = s.others := by
  cases op with
  | createDirAll path => exact Makes.others effect
  | symlinkMetadata path =>
      cases answer with
      | ok type => rw [effect.1]
      | error error =>
          rw [effect.1]
          rfl
  | canonicalize path =>
      cases answer with
      | ok canonical => rw [effect.1]
      | error error => rw [show s' = s from effect]
  | createDir kind path =>
      cases answer with
      | ok done =>
          obtain ⟨place, -, -, rfl⟩ := effect
          split <;> rfl
      | error error => rw [show s' = s from effect]
  | removeFile path =>
      cases answer with
      | ok done =>
          obtain ⟨place, node, -, -, -, rfl⟩ := effect
          rfl
      | error error => rw [show s' = s from effect]
  | removeDirAll path =>
      cases answer with
      | ok done =>
          obtain ⟨place, -, -, rfl⟩ := effect
          rfl
      | error error =>
          obtain ⟨place, -, thinned⟩ := effect
          exact thinned.rest.1
  | createNew path =>
      cases answer with
      | ok done =>
          obtain ⟨place, -, -, rfl⟩ := effect
          rfl
      | error error => rw [show s' = s from effect]
  | fill scratch => exact Makes.others effect

end Shared

end JunosMcp.Srx.Staging
