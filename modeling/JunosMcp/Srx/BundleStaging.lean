import JunosMcp.Srx.SupportBundle

/-!
# The staging directory of a support bundle

A collection makes a scratch directory and a tarball below the directory of its router, and removes
them when its handle is dropped. A path is the list of the names on the way from the root directory.
-/

namespace JunosMcp.Srx.Staging

open Lib SupportBundle

abbrev Path := List Text

inductive EntryType where
  | file
  | directory
  | symlink
  | other
deriving DecidableEq

/-- An `io::Error`: whether its kind is `NotFound`, and what it shows. -/
structure IoError where
  notFound : Bool
  text : Text

inductive StagingOp where
  | createDirAll (path : Path)
  | symlinkMetadata (path : Path)
  | canonicalize (path : Path)
  /-- `DirBuilder::create`, and what for. -/
  | createDir (kind : String) (path : Path)
  | removeFile (path : Path)
  | removeDirAll (path : Path)
  /-- `OpenOptions::create_new`. -/
  | createNew (path : Path)
  /-- Whatever the collection writes below its scratch directory. -/
  | fill (scratch : Path)

abbrev StagingAnswer : StagingOp → Type
  | .symlinkMetadata _ => Except IoError EntryType
  | .canonicalize _ => Except IoError Path
  | _ => Except IoError Unit

abbrev StagingProg (α : Type) := Prog StagingOp StagingAnswer α

abbrev StagingTrace := Trace StagingOp StagingAnswer

def refuse {α : Type} (text : Text) : Except SrxError α := .error (.invalidInput text)

/-- `Path::display`. -/
def display (path : Path) : Text := path.flatMap fun name => '/' :: name

/-! ## Names -/

def filesystemIdStem (filesystemId : Text) : Except SrxError Text := do
  validatePathComponent "filesystem_id".toList filesystemId
  let stem := (Text.stripPrefix "srxmcp-".toList filesystemId).getD filesystemId
  validatePathComponent "filesystem_id".toList stem
  return stem

def bundleFilename (filesystemId : Text) (extension : String) : Except SrxError Text := do
  let stem ← filesystemIdStem filesystemId
  return "srxmcp-".toList ++ stem ++ ".".toList ++ extension.toList

/-- The names of the scratch directory and of the tarball. -/
def bundleNames (router filesystemId : Text) : Except SrxError (Text × Text) := do
  validatePathComponent "router".toList router
  let stem ← filesystemIdStem filesystemId
  let scratchName := "srxmcp-".toList ++ stem ++ "-scratch".toList
  validatePathComponent "scratch directory".toList scratchName
  let tarballName ← bundleFilename filesystemId "tgz"
  return (scratchName, tarballName)

/-! ## Directories -/

def notADirectory {α : Type} (kind : String) (path : Path) : Except SrxError α :=
  refuse (kind.toList ++ " must be a real directory, not a symlink or file: ".toList ++
    display path)

def checkedDirectory (path : Path) (kind : String) : StagingProg (Except SrxError Path) :=
  .step (.symlinkMetadata path) fun
    | .error error =>
        .pure (refuse ("inspect ".toList ++ kind.toList ++ ": ".toList ++ error.text))
    | .ok type =>
        if type ≠ .directory then .pure (notADirectory kind path)
        else .step (.canonicalize path) fun
          | .error error =>
              .pure (refuse ("canonicalize ".toList ++ kind.toList ++ ": ".toList ++ error.text))
          | .ok canonical => .pure (.ok canonical)

def ensureDescendant (path root : Path) (kind : String) : Except SrxError Unit :=
  if path = root ∨ ¬root <+: path then
    refuse (kind.toList ++ " escapes configured staging root".toList)
  else .ok ()

def createPrivateDirectory (path : Path) (kind : String) : StagingProg (Except SrxError Unit) :=
  .step (.createDir kind path) fun
    | .error error =>
        .pure (refuse ("create ".toList ++ kind.toList ++ ": ".toList ++ error.text))
    | .ok () => .pure (.ok ())

def createOrCheckDirectory (path : Path) (kind : String) : StagingProg (Except SrxError Unit) :=
  .step (.symlinkMetadata path) fun
    | .ok type => if type ≠ .directory then .pure (notADirectory kind path) else .pure (.ok ())
    | .error error =>
        if error.notFound then createPrivateDirectory path kind
        else .pure (refuse ("inspect ".toList ++ kind.toList ++ ": ".toList ++ error.text))

def removeWithoutFollowing (path : Path) : StagingProg Unit :=
  .step (.symlinkMetadata path) fun
    | .error _ => .pure ()
    | .ok .symlink | .ok .file => .step (.removeFile path) fun _ => .pure ()
    | .ok .directory => .step (.removeDirAll path) fun _ => .pure ()
    | .ok .other => .pure ()

/-! ## The handle -/

structure PreparedBundlePaths where
  stagingRoot : Path
  stagingMaxBytes : Nat
  routerDir : Path
  scratchDir : Path
  tarballPath : Path
  keepTarball : Bool

def rootKind : String := "staging root"

def routerKind : String := "router staging directory"

def scratchKind : String := "bundle scratch directory"

def orElseRemove {α : Type} (path : Path) (result : Except SrxError α) :
    StagingProg (Except SrxError α) :=
  match result with
  | .ok value => .pure (.ok value)
  | .error error => (removeWithoutFollowing path).bind fun _ => .pure (.error error)

/-- `prepare_under`, from the directory of the router on. -/
def prepareScratch (stagingRoot routerDir : Path) (stagingMaxBytes : Nat)
    (scratchName tarballName : Text) : StagingProg (Except SrxError PreparedBundlePaths) :=
  let scratchCandidate := routerDir ++ [scratchName]
  (createPrivateDirectory scratchCandidate scratchKind).andThen fun _ =>
  ((checkedDirectory scratchCandidate scratchKind).bind (orElseRemove scratchCandidate)).andThen
    fun scratchDir =>
  (orElseRemove scratchDir (ensureDescendant scratchDir routerDir scratchKind)).andThen fun _ =>
  let tarballPath := routerDir ++ [tarballName]
  .step (.symlinkMetadata tarballPath) fun
    | .ok _ => orElseRemove scratchDir (refuse "bundle tarball destination already exists".toList)
    | .error _ => .pure (.ok ⟨stagingRoot, stagingMaxBytes, routerDir, scratchDir, tarballPath, false⟩)

def createRoot (configuredRoot : Path) : StagingProg (Except SrxError Unit) :=
  .step (.createDirAll configuredRoot) fun
    | .error error => .pure (refuse ("create staging root ".toList ++ display configuredRoot ++
        ": ".toList ++ error.text))
    | .ok () => .pure (.ok ())

def prepareUnder (configuredRoot : Path) (stagingMaxBytes : Nat) (router filesystemId : Text) :
    StagingProg (Except SrxError PreparedBundlePaths) :=
  Prog.andThen (.pure (bundleNames router filesystemId)) fun (scratchName, tarballName) =>
  (createRoot configuredRoot).andThen fun _ =>
  (checkedDirectory configuredRoot rootKind).andThen fun stagingRoot =>
  let routerCandidate := stagingRoot ++ [router]
  (createOrCheckDirectory routerCandidate routerKind).andThen fun _ =>
  (checkedDirectory routerCandidate routerKind).andThen fun routerDir =>
  Prog.andThen (.pure (ensureDescendant routerDir stagingRoot routerKind)) fun _ =>
  prepareScratch stagingRoot routerDir stagingMaxBytes scratchName tarballName

namespace PreparedBundlePaths

variable (paths : PreparedBundlePaths)

def confined (root router scratch : Path) : Except SrxError Unit :=
  if root ≠ paths.stagingRoot ∨ router ≠ paths.routerDir ∨ scratch ≠ paths.scratchDir then
    refuse "staging path changed during bundle collection".toList
  else do
    ensureDescendant router root routerKind
    ensureDescendant scratch router scratchKind
    if paths.tarballPath = [] ∨ paths.tarballPath.dropLast ≠ router then
      refuse "bundle tarball escapes router staging directory".toList

def ensureConfined : StagingProg (Except SrxError Unit) :=
  (checkedDirectory paths.stagingRoot rootKind).andThen fun root =>
  (checkedDirectory paths.routerDir routerKind).andThen fun router =>
  (checkedDirectory paths.scratchDir scratchKind).andThen fun scratch =>
  .pure (paths.confined root router scratch)

def createTarball : StagingProg (Except SrxError Unit) :=
  paths.ensureConfined.andThen fun _ =>
  .step (.createNew paths.tarballPath) fun
    | .error error =>
        .pure (refuse ("create bundle tarball securely: ".toList ++ error.text))
    | .ok () => .pure (.ok ())

def commitTarball : PreparedBundlePaths := { paths with keepTarball := true }

/-- `Drop::drop`. -/
def drop : StagingProg Unit :=
  (removeWithoutFollowing paths.scratchDir).bind fun _ =>
  if paths.keepTarball then .pure () else removeWithoutFollowing paths.tarballPath

end PreparedBundlePaths

/-! ## A collection -/

/-- What is done with the handle. -/
inductive Use where
  | fill
  | createTarball
  | commitTarball
deriving DecidableEq

def useOnce (paths : PreparedBundlePaths) : Use → StagingProg PreparedBundlePaths
  | .fill => .step (.fill paths.scratchDir) fun _ => .pure paths
  | .createTarball => paths.createTarball.bind fun _ => .pure paths
  | .commitTarball => .pure paths.commitTarball

def useAll (paths : PreparedBundlePaths) : List Use → StagingProg PreparedBundlePaths
  | [] => .pure paths
  | use :: rest => (useOnce paths use).bind fun paths => useAll paths rest

/-- The handle is prepared, used for a while, and dropped. -/
def collection (configuredRoot : Path) (stagingMaxBytes : Nat) (router filesystemId : Text)
    (uses : List Use) : StagingProg (Except SrxError PreparedBundlePaths) :=
  (prepareUnder configuredRoot stagingMaxBytes router filesystemId).andThen fun paths =>
  (useAll paths uses).bind fun paths =>
  paths.drop.bind fun _ => .pure (.ok paths)

end JunosMcp.Srx.Staging
