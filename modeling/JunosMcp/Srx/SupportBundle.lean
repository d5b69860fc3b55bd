import JunosMcp.Lib.Program
import JunosMcp.Srx.ClusterStatus
import Mathlib.Data.Char
import Mathlib.Data.List.Dedup
import Mathlib.Data.List.Lex
import Mathlib.Data.List.Sort

/-!
# `collect_jtac_support_bundle`

Replies and logs of the device are written below a scratch directory and packed, with a manifest of
what has been captured.
-/

namespace JunosMcp.Srx.SupportBundle

open Lib

/-! ## What is asked for -/

inductive ProblemType where
  | chassisCluster
  | vpn
  | trafficLoss
  | idpAppid
  | routing
  | generic
deriving DecidableEq

/-- `BASELINE_RPCS`. -/
def baselineRpcs : List Text :=
  ["get-configuration".toList, "get-software-information".toList,
    "get-system-uptime-information".toList, "get-system-alarm-information".toList]

/-- `BASELINE_LOGS`. -/
def baselineLogs : List Text := ["/var/log/messages".toList]

namespace ProblemType

/-- All, in order. -/
def all : List ProblemType := [chassisCluster, vpn, trafficLoss, idpAppid, routing, generic]

def additionalRpcs : ProblemType → List Text
  | chassisCluster => ["get-chassis-cluster-status".toList,
      "get-chassis-cluster-information".toList, "get-chassis-cluster-interfaces".toList,
      "get-chassis-cluster-statistics".toList,
      "get-chassis-cluster-control-plane-statistics".toList,
      "get-chassis-cluster-data-plane-statistics".toList, "get-system-alarm-information".toList]
  | vpn => ["get-ike-security-associations-information".toList,
      "get-ipsec-statistics-information".toList, "get-security-associations-information".toList]
  | trafficLoss => ["get-flow-session-information".toList, "get-interface-information".toList,
      "get-firewall-information".toList]
  | idpAppid => ["get-idp-security-package-information".toList, "get-appid-package-version".toList]
  | routing => ["get-route-summary-information".toList, "get-bgp-summary-information".toList,
      "get-ospf-neighbor-information".toList, "get-route-engine-information".toList]
  | generic => []

/-- The RPCs with an argument, each with its inner XML. -/
def additionalRpcsWithArgs : ProblemType → List (Text × Text)
  | trafficLoss => [("get-flow-session-information".toList, "<summary/>".toList)]
  | _ => []

def additionalLogs : ProblemType → List Text
  | chassisCluster => ["/var/log/chassisd".toList, "/var/log/jsrpd".toList]
  | vpn => ["/var/log/kmd".toList]
  | trafficLoss => []
  | idpAppid => ["/var/log/idpd".toList, "/var/log/appid".toList]
  | routing => ["/var/log/rpd".toList]
  | generic => []

end ProblemType

inductive ProblemTypeArg where
  | one (problemType : ProblemType)
  | many (problemTypes : List ProblemType)

def ProblemTypeArg.intoSet : ProblemTypeArg → List ProblemType
  | .one problemType => [problemType]
  | .many problemTypes => ProblemType.all.filter (· ∈ problemTypes)

structure SupportBundleArgs where
  router : Text
  problemType : ProblemTypeArg
  requestId : Option Text
  includeLogs : Bool
  redact : Bool
  maxLogBytesPerFile : Nat
  maxLogFiles : Nat
  timeout : Nat

/-- A `BTreeSet`, as the list of its elements in order. -/
def orderedSet {α : Type} [DecidableEq α] (le : α → α → Prop) [DecidableRel le] (xs : List α) :
    List α :=
  xs.dedup.insertionSort le

/-- An RPC and its inner XML, empty for none. -/
abbrev BundleRpc := Text × Text

def BundleRpc.le (a b : BundleRpc) : Prop := a.1 < b.1 ∨ (a.1 = b.1 ∧ a.2 ≤ b.2)

instance : DecidableRel BundleRpc.le := fun a b =>
  inferInstanceAs (Decidable (a.1 < b.1 ∨ (a.1 = b.1 ∧ a.2 ≤ b.2)))

/-- `all_rpcs`. -/
def requestedRpcs (problemTypes : List ProblemType) : List BundleRpc :=
  orderedSet BundleRpc.le (baselineRpcs.map (·, []) ++ problemTypes.flatMap fun pt =>
    pt.additionalRpcs.map (·, []) ++ pt.additionalRpcsWithArgs)

/-- `all_logs`. -/
def requestedLogs (problemTypes : List ProblemType) : List Text :=
  orderedSet (· ≤ ·) (baselineLogs ++ problemTypes.flatMap ProblemType.additionalLogs)

/-! ## Artefacts -/

inductive ArtefactSource where
  | rpc (name : Text) (args : Option Text)
  | logFile (devicePath : Text)
deriving DecidableEq

structure CapturedArtefact where
  source : ArtefactSource
  tarballPath : Text
  sha256 : Text
  bytesInTarball : Nat
  redacted : Bool
  error : Option Text

structure BundleManifest where
  requestId : Text
  filesystemId : Text
  router : Text
  problemTypes : List ProblemType
  artefacts : List CapturedArtefact
  redacted : Bool
  schema : Text

inductive BundleLocation where
  | device
  | lxcStaging

structure BundleInfo where
  location : BundleLocation
  path : Text
  bytes : Nat
  sha256 : Text
  problemTypes : List ProblemType
  artefacts : List CapturedArtefact
  redacted : Bool

structure SupportBundleData where
  router : Text
  requestId : Text
  filesystemId : Text
  bundle : BundleInfo
  nextStep : Text

/-- What the bundle takes from other crates. -/
structure BundleCrates where
  /-- `junos::redact_xml`; an error is its `Display`. -/
  redactXml : Text → Except Text Text
  /-- `junos::redact_log_artefact`. -/
  redactLogArtefact : Text → Except Text Text
  /-- The hash of the bytes of a text, in hexadecimal digits. -/
  sha256Hex : Text → Text

/-! ## Names of files -/

def maxPathComponentBytes : Nat := 64

def isPathCharacter (c : Char) : Bool := c.isAlphanum || c == '_' || c == '.' || c == '-'

def validatePathComponent (kind value : Text) : Except SrxError Unit :=
  if value.isEmpty || decide (maxPathComponentBytes < utf8Len value) || value == ".".toList ||
      value == "..".toList || value.head? == some '-' || !value.all isPathCharacter then
    .error (.invalidInput (kind ++ " must be 1..=64 ASCII characters from ".toList ++
      "[A-Za-z0-9_.-], must not be '.' or '..', ".toList ++ "and must not start with '-'".toList))
  else .ok ()

def rpcFilename (rpc : BundleRpc) : Text :=
  if rpc.2.isEmpty then rpc.1 ++ ".xml".toList
  else rpc.1 ++ ".".toList ++ rpc.2.filter (fun c => c.isAlphanum || c == '-') ++ ".xml".toList

def sanitizeRpcFilename (rpc : BundleRpc) : Except SrxError Text := do
  validatePathComponent "RPC name".toList rpc.1
  validatePathComponent "RPC artifact filename".toList (rpcFilename rpc)
  return rpcFilename rpc

/-- The components of a path behind its root. -/
def pathComponents (path : Text) : List Text :=
  (path.splitOn '/').filter fun component => component ≠ [] ∧ component ≠ ".".toList

def checkLogComponent (component : Text) : Except SrxError Unit :=
  if component = "..".toList then
    .error (.invalidInput "device log path contains an unsafe component".toList)
  else validatePathComponent "device log filename".toList component

/-- The components below `/var/log`. -/
def belowVarLog (devicePath : Text) : Option (List Text) :=
  match devicePath.head?, pathComponents devicePath with
  | some '/', var :: log :: below =>
      if var = "var".toList ∧ log = "log".toList then some below else none
  | _, _ => none

def deviceLogTarballPath (devicePath : Text) : Except SrxError Text :=
  match belowVarLog devicePath with
  | none => .error (.invalidInput "device log path must be below /var/log".toList)
  | some below => do
      let _ ← below.mapM checkLogComponent
      if below.isEmpty then
        throw (.invalidInput "device log path must name a file below /var/log".toList)
      else return "/".toList.intercalate ("logs".toList :: below)

/-! ## The operations -/

structure PreparedBundlePaths where
  scratchDir : Text
  tarballPath : Text

/-- Files and directories are named from the scratch directory. -/
inductive BundleOp where
  | mintFilesystemId
  /-- `try_acquire_owned` on the lock of the router. -/
  | tryAcquire (router : Text)
  | prepare (router filesystemId : Text)
  | createDir (path : Text)
  /-- `device.rpc()`. -/
  | rpc
  | call (name : Text)
  | callXml (envelope : Text)
  | cli (command : Text)
  | cliWithin (seconds : Nat) (command : Text)
  | writeFile (path content : Text)
  | ensureConfined
  | writeManifest (manifest : BundleManifest)
  /-- `write_bundle_archive`. -/
  | archive
  /-- The size and the hash of the tarball, zero and empty where it cannot be read. -/
  | inspectTarball

abbrev BundleAnswer : BundleOp → Type
  | .mintFilesystemId => Text
  | .tryAcquire _ => Bool
  | .prepare .. => Except SrxError PreparedBundlePaths
  | .createDir _ | .writeFile .. | .writeManifest _ => Except Text Unit
  | .rpc => Except RustEzError Unit
  | .call _ | .callXml _ | .cli _ => Except RustEzError Text
  | .cliWithin .. => Option (Except RustEzError Text)
  | .ensureConfined | .archive => Except SrxError Unit
  | .inspectTarball => Nat × Text

abbrev BundleProg (α : Type) := Prog BundleOp BundleAnswer (Except SrxError α)

abbrev BundleTrace := Trace BundleOp BundleAnswer

/-- An error of the file system behind what was tried. -/
def ioError {α : Type} (what : Text) (result : Except Text α) : Except SrxError α :=
  result.mapError fun error => .invalidInput (what ++ ": ".toList ++ error)

def below (paths : PreparedBundlePaths) (path : Text) : Text :=
  paths.scratchDir ++ "/".toList ++ path

def openExecutor : BundleProg Unit :=
  .step .rpc fun answer => .pure (answer.mapError fun error => .transport (.rustez error))

def writeFile (paths : PreparedBundlePaths) (path content : Text) : BundleProg Unit :=
  .step (.writeFile path content) fun answer =>
    .pure (ioError ("write ".toList ++ below paths path) answer)

/-! ## Finishing -/

def finalizeLxcBundle (router requestId filesystemId : Text) (paths : PreparedBundlePaths)
    (artefacts : List CapturedArtefact) (problemTypes : List ProblemType) (anyRedacted : Bool) :
    BundleProg SupportBundleData :=
  Prog.andThen (.step .ensureConfined .pure) fun _ =>
  Prog.andThen (.step (.writeManifest ⟨requestId, filesystemId, router, problemTypes, artefacts,
      anyRedacted, "srxmcp-support-bundle-v0.3.0".toList⟩) fun answer =>
    .pure (ioError "write manifest".toList answer)) fun _ =>
  Prog.andThen (.step .archive .pure) fun _ =>
  .step .inspectTarball fun (bytes, sha256) => .pure (.ok
    { router, requestId, filesystemId
      bundle :=
        { location := .lxcStaging, path := paths.tarballPath, bytes, sha256, problemTypes,
          artefacts, redacted := anyRedacted }
      nextStep := "read tarball directly on the LXC host: ".toList ++ paths.tarballPath ++
        " (read by operator with shell access; ".toList ++ "not fetchable via fetch_file)".toList })

/-! ## Everything at once -/

section Collect

variable (crates : BundleCrates)

def techSupport : Text := "request support information".toList

def redactGenericPayload (router payload : Text) (redact : Bool) : Except SrxError (Text × Bool) :=
  if redact then match crates.redactLogArtefact payload with
    | .error e => .error (.bundleConfigCaptureFailed router ("request support information: ".toList ++
        "payload could not be confirmed safe to redact: ".toList ++ e))
    | .ok red => .ok (red, decide (red ≠ payload))
  else .ok (payload, false)

/-- The answer to `request support information` within the deadline. -/
def techSupportPayload (router : Text) (deadline : Nat) :
    Option (Except RustEzError Text) → Except SrxError Text
  | none => .error (.clusterHealthCheckTimeout router deadline)
  | some (.error e) => .error (.transport (.rustez e))
  | some (.ok payload) =>
      if (Text.trim payload).isEmpty then .error (.bundleConfigCaptureFailed router
        ("`request support information` ".toList ++ "returned no output".toList))
      else .ok payload

def genericFile : Text := "request-support-information.txt".toList

def collectGeneric (router requestId filesystemId : Text) (args : SupportBundleArgs) :
    BundleProg SupportBundleData :=
  Prog.andThen (.step (.prepare router filesystemId) .pure) fun paths =>
  openExecutor.andThen fun _ =>
  let deadline := min args.timeout 3600
  Prog.andThen (.step (.cliWithin deadline techSupport) fun answer =>
    .pure (techSupportPayload router deadline answer)) fun payload =>
  Prog.andThen (.pure (redactGenericPayload crates router payload args.redact)) fun
    (payload, redacted) =>
  (writeFile paths genericFile payload).andThen fun _ =>
  finalizeLxcBundle router requestId filesystemId paths
    [{ source := .rpc techSupport none, tarballPath := genericFile
       sha256 := crates.sha256Hex payload, bytesInTarball := utf8Len payload
       redacted, error := none }]
    [.generic] redacted

/-! ## Replies -/

/-- What the loops over the replies and the logs have so far. -/
structure Collected where
  artefacts : List CapturedArtefact
  failures : List (Text × Text)
  anyRedacted : Bool

def Collected.empty : Collected := ⟨[], [], false⟩

def rpcSource (rpc : BundleRpc) : ArtefactSource :=
  .rpc rpc.1 (if rpc.2.isEmpty then none else some rpc.2)

/-- A failed RPC is noted, and the configuration must not fail. -/
def failRpc (router : Text) (rpc : BundleRpc) (message : Text) (collected : Collected) :
    Except SrxError Collected :=
  if rpc.1 = "get-configuration".toList then .error (.bundleConfigCaptureFailed router message)
  else .ok { collected with failures := collected.failures ++ [(rpc.1, message)] }

/-- The payload of a reply, or why there is none. -/
def rpcPayload (redact : Bool) (rpc : BundleRpc) :
    Except RustEzError Text → Except Text (Text × Bool)
  | .error e => .error ("rpc ".toList ++ rpc.1 ++ ": ".toList ++ e.display)
  | .ok raw =>
      if redact then match crates.redactXml raw with
        | .ok red => .ok (red, decide (red ≠ raw))
        | .error _ => .error ("rpc ".toList ++ rpc.1 ++ ": reply was not well-formed XML; ".toList ++
            "artefact refused rather than shipped unredacted".toList)
      else .ok (raw, false)

def rpcPath (filename : Text) : Text := "rpc/".toList ++ filename

def rpcArtefact (rpc : BundleRpc) (filename payload : Text) (redacted : Bool) :
    CapturedArtefact where
  source := rpcSource rpc
  tarballPath := rpcPath filename
  sha256 := crates.sha256Hex payload
  bytesInTarball := utf8Len payload
  redacted := redacted
  error := none

/-- One round of the loop, from the reply on. -/
def storeReply (paths : PreparedBundlePaths) (router : Text) (redact : Bool) (rpc : BundleRpc)
    (collected : Collected) (reply : Except RustEzError Text) : BundleProg Collected :=
  match rpcPayload crates redact rpc reply with
  | .error message => .pure (failRpc router rpc message collected)
  | .ok (payload, redacted) => match sanitizeRpcFilename rpc with
      | .error e => .pure (.error e)
      | .ok filename => (writeFile paths (rpcPath filename) payload).andThen fun _ =>
          .pure (.ok { collected with
            artefacts := collected.artefacts ++ [rpcArtefact crates rpc filename payload redacted]
            anyRedacted := collected.anyRedacted || redacted })

def captureRpc (paths : PreparedBundlePaths) (router : Text) (redact : Bool) (rpc : BundleRpc)
    (collected : Collected) : BundleProg Collected :=
  if rpc.2.isEmpty then .step (.call rpc.1) (storeReply crates paths router redact rpc collected)
  else .step (.callXml ("<".toList ++ rpc.1 ++ ">".toList ++ rpc.2 ++ "</".toList ++ rpc.1 ++
    ">".toList)) (storeReply crates paths router redact rpc collected)

def captureRpcs (paths : PreparedBundlePaths) (router : Text) (redact : Bool) :
    List BundleRpc → Collected → BundleProg Collected
  | [], collected => .pure (.ok collected)
  | rpc :: rest, collected =>
      (captureRpc crates paths router redact rpc collected).andThen
        (captureRpcs paths router redact rest)

/-! ## Logs -/

/-- The longest start of a text within this many bytes. -/
def takeBytes : Nat → Text → Text
  | _, [] => []
  | cap, c :: rest => if c.utf8Size ≤ cap then c :: takeBytes (cap - c.utf8Size) rest else []

def truncateToCharBoundary (s : Text) (cap : Nat) : Text × Bool :=
  if utf8Len s ≤ cap then (s, false) else (takeBytes cap s, true)

/-- A log that is not in the bundle, and why. -/
def missingLog (devicePath path message : Text) : CapturedArtefact where
  source := .logFile devicePath
  tarballPath := path
  sha256 := []
  bytesInTarball := 0
  redacted := false
  error := some message

/-- The payload of a log with what was done to it, or why there is none. -/
def logPayload (args : SupportBundleArgs) (devicePath : Text) :
    Except RustEzError Text → Except Text (Text × Bool × Bool)
  | .error e => .error ("file show ".toList ++ devicePath ++ ": ".toList ++ e.display)
  | .ok raw =>
      if Text.startsWith (raw.dropWhile Text.isWhitespace) "error:".toList then .error (Text.trim raw)
      else
        let (content, truncated) := truncateToCharBoundary raw args.maxLogBytesPerFile
        if args.redact then match crates.redactLogArtefact content with
          | .ok red => .ok (red, decide (red ≠ content), truncated)
          | .error e => .error (devicePath ++ ": could not be confirmed safe ".toList ++
              "to redact, artefact refused rather ".toList ++ "than shipped unredacted: ".toList ++ e)
        else .ok (content, false, truncated)

def logArtefact (args : SupportBundleArgs) (devicePath path payload : Text)
    (redacted truncated : Bool) : CapturedArtefact where
  source := .logFile devicePath
  tarballPath := path
  sha256 := crates.sha256Hex payload
  bytesInTarball := utf8Len payload
  redacted := redacted
  error := if truncated then some ("truncated to max_log_bytes_per_file=".toList ++
    (Nat.repr args.maxLogBytesPerFile).toList) else none

def parentOf (path : Text) : Text :=
  "/".toList.intercalate ((path.splitOn '/').dropLast)

/-- One round of the loop, from the answer on; the number is how many logs are captured. -/
def storeLog (paths : PreparedBundlePaths) (args : SupportBundleArgs) (devicePath path : Text)
    (collected : Collected) (captured : Nat) (answer : Except RustEzError Text) :
    BundleProg (Collected × Nat) :=
  match logPayload crates args devicePath answer with
  | .error message => .pure (.ok ({ collected with
      artefacts := collected.artefacts ++ [missingLog devicePath path message] }, captured))
  | .ok (payload, redacted, truncated) =>
      Prog.andThen (.step (.createDir (parentOf path)) fun answer =>
        .pure (ioError ("create log dir ".toList ++ below paths (parentOf path)) answer)) fun _ =>
      (writeFile paths path payload).andThen fun _ =>
      .pure (.ok ({ collected with
        artefacts := collected.artefacts ++
          [logArtefact crates args devicePath path payload redacted truncated]
        anyRedacted := collected.anyRedacted || redacted }, captured + 1))

def captureLog (paths : PreparedBundlePaths) (args : SupportBundleArgs) (devicePath : Text)
    (collected : Collected) (captured : Nat) : BundleProg (Collected × Nat) :=
  match deviceLogTarballPath devicePath with
  | .error e => .pure (.error e)
  | .ok path =>
      if args.maxLogFiles ≤ captured then .pure (.ok ({ collected with
        artefacts := collected.artefacts ++ [missingLog devicePath path
          ("skipped: max_log_files=".toList ++ (Nat.repr args.maxLogFiles).toList ++
            " reached".toList)] }, captured))
      else .step (.cli ("file show ".toList ++ devicePath))
        (storeLog crates paths args devicePath path collected captured)

def captureLogs (paths : PreparedBundlePaths) (args : SupportBundleArgs) :
    List Text → Collected × Nat → BundleProg Collected
  | [], (collected, _) => .pure (.ok collected)
  | devicePath :: rest, (collected, captured) =>
      (captureLog crates paths args devicePath collected captured).andThen
        (captureLogs paths args rest)

/-! ## The workflow -/

/-- The bundle is given up when no RPC has been captured. -/
def checkFailures (router : Text) (total : Nat) (failures : List (Text × Text)) :
    Except SrxError Unit :=
  match failures with
  | [] => .ok ()
  | (_, first) :: _ =>
      if failures.length = total then
        .error (.bundleRpcSubsetFailed router failures.length total first)
      else .ok ()

def logsFor (args : SupportBundleArgs) (problemTypes : List ProblemType) : List Text :=
  if args.includeLogs then requestedLogs problemTypes else []

def collectPerType (router requestId filesystemId : Text) (args : SupportBundleArgs)
    (problemTypes : List ProblemType) : BundleProg SupportBundleData :=
  Prog.andThen (.step (.prepare router filesystemId) .pure) fun paths =>
  Prog.andThen (.step (.createDir "rpc".toList) fun answer =>
    .pure (ioError "cannot create scratch dir".toList answer)) fun _ =>
  openExecutor.andThen fun _ =>
  (captureRpcs crates paths router args.redact (requestedRpcs problemTypes) .empty).andThen
    fun collected =>
  (captureLogs crates paths args (logsFor args problemTypes) (collected, 0)).andThen
    fun collected =>
  Prog.andThen (.pure (checkFailures router (requestedRpcs problemTypes).length
    collected.failures)) fun _ =>
  finalizeLxcBundle router requestId filesystemId paths collected.artefacts problemTypes
    collected.anyRedacted

def validateCorrelationId (requestId : Text) : Except SrxError Unit :=
  if (Text.trim requestId).isEmpty then
    .error (.invalidInput "request_id must not be empty or whitespace".toList)
  else do
    validatePathComponent "request_id".toList requestId
    validatePathComponent "request_id".toList
      ((Text.stripPrefix "srxmcp-".toList requestId).getD requestId)

def validatePathInputs (args : SupportBundleArgs) : Except SrxError Unit := do
  validatePathComponent "router".toList args.router
  match args.requestId with
  | some requestId => validateCorrelationId requestId
  | none => return ()

def effectiveRequestId (callerRequestId : Option Text) (filesystemId : Text) :
    Except SrxError Text :=
  match callerRequestId with
  | some raw => do
      validateCorrelationId raw
      return raw
  | none => .ok filesystemId

def collect (requestId filesystemId : Text) (args : SupportBundleArgs) :
    BundleProg SupportBundleData :=
  if .generic ∈ args.problemType.intoSet then
    collectGeneric crates args.router requestId filesystemId args
  else collectPerType crates args.router requestId filesystemId args args.problemType.intoSet

def run (args : SupportBundleArgs) : BundleProg (SrxToolResponse SupportBundleData) :=
  if (Text.trim args.router).isEmpty then
    .pure (.error (.invalidInput "router must not be empty".toList))
  else if args.problemType.intoSet.isEmpty then
    .pure (.error (.invalidInput "problem_type must contain at least one value".toList))
  else Prog.andThen (.pure (validatePathInputs args)) fun _ =>
    .step .mintFilesystemId fun filesystemId =>
    Prog.andThen (.pure (effectiveRequestId args.requestId filesystemId)) fun requestId =>
    .step (.tryAcquire args.router) fun acquired =>
    if acquired then (collect crates requestId filesystemId args).andThen fun data =>
      .pure (.ok (.active data))
    else .pure (.error (.bundlePerRouterContention args.router))

end Collect

end JunosMcp.Srx.SupportBundle
