import JunosMcp.DirectTools
import JunosMcp.Upgrade.Preflight

/-!
# The run of `upgrade_junos`

The checks up front, the preflight before and after the lease is taken, and the destructive part:
baseline, transfer, install with a reboot, and the wait for the new version. The outer timeout drops
a run wherever it is.
-/

namespace JunosMcp.Upgrade
open Lib ChangeSet

structure UpgradeRequest extends UpgradeJunosArgs where
  sourcePath : Text
  timeout : Duration

structure UpgradeContext extends ToolContext where
  stagingDir : Text
  parseF64Scaled : Text → Nat → Option Nat

inductive UpgradeError where
  | tool (error : JmcpError)
  | confirmationRequired (payload : JsonObject)
  deriving DecidableEq

abbrev Baseline := List (Text × Text)

inductive UpgradeReport where
  | alreadyAtTarget (currentVersion targetVersion : Text)
  | upgraded (fromVersion toVersion : Text) (before after : Baseline) (warning : Option Text)
  deriving DecidableEq

/-! ## Checks -/

def isBasenameCharacter (c : Char) : Bool := c.isAlphanum || c == '.' || c == '_' || c == '-'

/-- The text of the byte that is not allowed is left to the caller. -/
def validateSourceBasename (badByte : Text → Text) (source : Text) : Except JmcpError Unit :=
  let quoted := "source_path '".toList ++ source ++ "' ".toList
  if source.isEmpty then .error (.badSourcePath "source_path is empty".toList)
  else if 255 < utf8Len source then
    .error (.badSourcePath ("source_path exceeds 255 bytes (got ".toList ++
      (Nat.repr (utf8Len source)).toList ++ ")".toList))
  else if Text.startsWith source ".".toList then
    .error (.badSourcePath (quoted ++ "must not start with '.'".toList))
  else if Text.contains source "/".toList || Text.contains source ['\\'] then
    .error (.badSourcePath (quoted ++ "must not contain '/' or '".toList ++ ['\\', '\\'] ++
      "' (basename only)".toList))
  else if Text.contains source "..".toList then
    .error (.badSourcePath (quoted ++ "must not contain '..'".toList))
  else if source.all isBasenameCharacter then .ok ()
  else .error (.badSourcePath (quoted ++ "contains disallowed byte 0x".toList ++ badByte source ++
    "; only [A-Za-z0-9._-] are permitted".toList))

def requireSshKey (device : Text) : ToolAuth → Except JmcpError Unit
  | .password => .error (.unsupportedAuth device)
  | .sshKey => .ok ()

def checkStagedFile (path : Text) : Option FileKind → Except JmcpError Unit
  | none => .error (.badSourcePath ("staged file not found or unreadable: ".toList ++ path))
  | some .symlink =>
      .error (.badSourcePath ("staged path is a symlink, refusing to follow: ".toList ++ path))
  | some .other => .error (.badSourcePath ("staged path is not a regular file: ".toList ++ path))
  | some .regular => .ok ()

/-! ## Calls that a cancellation ends -/

section Calls
variable (request : UpgradeRequest)

def ofSelect {α : Type} : Raced (Except JmcpError α) → Except JmcpError α
  | .completed reply => reply
  | .cancelled => .error .cancelled
  | .elapsed => .error (.upgradeOuterTimeout request.timeout)

def openSession : ToolProg (Except JmcpError Unit) :=
  .step (.raced (.openSession request.device)) fun reply => .pure (ofSelect request reply)

def openFresh : ToolProg (Except JmcpError Unit) :=
  .step (.raced (.openFresh request.device)) fun reply => .pure (ofSelect request reply)

/-- The command's own result, unless the run has ended. -/
def cli (command : Text) : ToolProg (Except JmcpError (Except RustEzError Text)) :=
  .step (.raced (.cli request.device command)) fun reply => .pure <| match reply with
    | Raced.completed result => .ok result
    | .cancelled => .error .cancelled
    | .elapsed => .error (.upgradeOuterTimeout request.timeout)

def probeFailed (phase : Text) (error : RustEzError) : JmcpError :=
  .deviceProbeFailed phase error.display

def runProbe (command phase : Text) : ToolProg (Except JmcpError Text) :=
  (cli request command).andThen fun
    | .ok output => .pure (.ok output)
    | .error error => .pure (.error (probeFailed phase error))

/-- Only the first command of a checked out session may find it stale. -/
def openValidated (command phase : Text) : ToolProg (Except JmcpError Text) :=
  (openSession request).andThen fun () => (cli request command).andThen fun
    | .ok output => .pure (.ok output)
    | .error error =>
        if errorIsTransient error.display then
          (openFresh request).andThen fun () => runProbe request command phase
        else .pure (.error (probeFailed phase error))

/-! ## Facts and baseline -/

def clusterCommand : Text := "show chassis cluster status".toList

def versionCommand : Text := "show version | match Junos:".toList

def commitCommand : Text := "show system commit".toList

def storageCommand : Text := "show system storage no-forwarding".toList

def gatherFacts (localSize : Nat) : ToolProg (Except JmcpError PreflightFacts) :=
  (openValidated request clusterCommand "cluster_probe".toList).andThen fun cluster =>
  (runProbe request versionCommand "version_probe".toList).andThen fun version =>
  (runProbe request commitCommand "commit_probe".toList).andThen fun commit =>
  (runProbe request storageCommand "storage_probe".toList).andThen fun storage =>
    .pure (.ok ⟨cluster, version, commit, storage, localSize, request.sourcePath⟩)

def baselineCommands : List Text :=
  ["show version".toList, "show interfaces terse | except \"\\.[0-9]+ \"".toList,
   "show route summary".toList, "show security flow session summary".toList,
   "show system alarms".toList, "show system core-dumps no-forwarding".toList]

def captured : Except RustEzError Text → Text
  | .ok output => output
  | .error error => "<error capturing: ".toList ++ error.display ++ ">".toList

def captureCommands : List Text → ToolProg (Except JmcpError Baseline)
  | [] => .pure (.ok [])
  | command :: rest =>
      (cli request command).andThen fun result => (captureCommands rest).andThen fun baseline =>
        .pure (.ok ((command, captured result) :: baseline))

def captureBaseline : ToolProg (Except JmcpError Baseline) :=
  (openSession request).andThen fun () => captureCommands request baselineCommands

/-! ## The destructive part -/

def sessionDropNeedles : List Text :=
  ["connection closed".toList, "connection reset".toList, "broken pipe".toList,
   "unexpected eof".toList, "early eof".toList, "channel closed".toList, "session closed".toList]

def installErrorIndicatesSessionDrop (err : Text) : Bool :=
  sessionDropNeedles.any fun needle => Text.contains (asciiLowercase err) needle

def installCommand (sourcePath : Text) : Text :=
  "request system software add /var/tmp/".toList ++ sourcePath ++ " no-copy reboot".toList

/-- Once the command is accepted the upgrade is under way, so it is not raced. -/
def installed : Except RustEzError Text → ToolProg (Except JmcpError Unit)
  | .ok _ => .step .ensureActive fun activity => .pure <| match activity with
      | Activity.cancelled => .error .cancelled
      | _ => .ok ()
  | .error error =>
      if installErrorIndicatesSessionDrop error.display then .pure (.ok ())
      else .pure (.error (probeFailed "install_rpc".toList error))

def install : ToolProg (Except JmcpError Unit) :=
  (openSession request).andThen fun () =>
    (toolCall (.cli request.device (installCommand request.sourcePath))).bind installed

def runDestructive (facts : PreflightFacts) (warning : Option Text) :
    ToolProg (Except JmcpError UpgradeReport) :=
  (captureBaseline request).andThen fun before =>
  (toolCall (.transfer request.device request.sourcePath request.timeout)).andThen fun () =>
  (install request).andThen fun () =>
  (toolCall (.waitForVersion request.device request.targetVersion)).andThen fun _ =>
  (captureBaseline request).andThen fun after =>
    .pure (.ok (.upgraded ((parseJunosVersion facts.versionOutput).getD "<unknown>".toList)
      request.targetVersion before after warning))

end Calls

/-! ## The decision and the run -/

def finishPreflight (request : UpgradeRequest) :
    PreflightDecision → Except UpgradeError UpgradeReport
  | .clusterUnsupported => .error (.tool (.upgradeClusterUnsupported request.device))
  | .unparseableVersion => .error (.tool (.deviceProbeFailed "version_parse".toList
      "could not parse Junos version from `show version`".toList))
  | .unparseableStorage => .error (.tool (.deviceProbeFailed "storage_parse".toList
      "could not parse free bytes from `show system storage`".toList))
  | .alreadyAtTarget currentVersion => .ok (.alreadyAtTarget currentVersion request.targetVersion)
  | .commitConfirmedActive rollbackSecs =>
      .error (.tool (.upgradeCommitConfirmedActive request.device rollbackSecs))
  | .insufficientDisk free required => .error (.tool (.insufficientDisk free required
      ("device '".toList ++ request.device ++
        "' /var/tmp (install needs 2× image + 32 MiB headroom)".toList)))
  | .confirmationRequired payload => .error (.confirmationRequired payload)
  -- `unreachable!`: the caller goes on.
  | .proceed => .error (.tool (.other "Proceed is handled while holding the lease".toList))

abbrev UpgradeProg := ToolProg (Except UpgradeError UpgradeReport)

/-- The `?` of a tool's error. -/
def orFail {α : Type} (p : ToolProg (Except JmcpError α)) (f : α → UpgradeProg) : UpgradeProg :=
  p.bind fun
    | .ok value => f value
    | .error error => .pure (.error (.tool error))

section Run
variable (context : UpgradeContext) (request : UpgradeRequest)

def preflightDecision (facts : PreflightFacts) : PreflightDecision :=
  evaluatePreflight context.parseF64Scaled facts request.toUpgradeJunosArgs

def acquireLease : ToolProg (Except JmcpError Unit) :=
  .step (.raced (.lease request.device)) fun reply => .pure (ofSelect request reply)

/-- The decision on the facts that were read under the lease. -/
def dispatchLocked (facts : PreflightFacts) (warning : Option Text) : UpgradeProg :=
  match preflightDecision context request facts with
  | .proceed => orFail (runDestructive request facts warning) fun report => .pure (.ok report)
  | refused => .pure (finishPreflight request refused)

/-- Every fact is read again under the lease, which only upgrades and package work take. -/
def dispatchPreflight (localSize : Nat) (facts : PreflightFacts) (warning : Option Text) :
    UpgradeProg :=
  match preflightDecision context request facts with
  | .proceed =>
      orFail (acquireLease request) fun () =>
      orFail (gatherFacts request localSize) fun lockedFacts =>
        dispatchLocked context request lockedFacts warning
  | refused => .pure (finishPreflight request refused)

/-- The checks that need no device: the basename, the device's login, and who owns it. -/
def checkRequest (badByte : Text → Text) : Except JmcpError (Option Text) := do
  validateSourceBasename badByte request.sourcePath
  let entry ← context.inventory request.device
  requireSshKey request.device entry.auth
  checkPlaneOwnedOperation "upgrade_junos".toList request.device entry.configAuthority
    context.allowPlaneOwnedWrites

def localDigest : ToolProg (Except JmcpError Nat) :=
  .step (.raced (.digest request.sourcePath)) fun reply => .pure (ofSelect request reply)

def upgradeChecked (warning : Option Text) : UpgradeProg :=
  (toolCall (.stagedFile request.sourcePath)).bind fun kind =>
  orFail (.pure (checkStagedFile (context.stagingDir ++ "/".toList ++ request.sourcePath) kind))
    fun () =>
  orFail (localDigest request) fun localSize =>
  orFail (gatherFacts request localSize) fun facts =>
    dispatchPreflight context request localSize facts warning

def upgradeJunos (badByte : Text → Text) : UpgradeProg :=
  .step .ensureActive fun
    | Activity.cancelled => .pure (.error (.tool .cancelled))
    | _ => orFail (.pure (checkRequest context request badByte)) (upgradeChecked context request)

end Run

/-! ## What a run sends -/

def showPrefix : Text := "show ".toList

/-- Operations that send the device such commands only, and those that reach no device. -/
def Sends (allowed : Text → Prop) (device : Text) : ToolOp → Prop
  | .ensureActive => True
  | .bare call | .timed call | .raced call => match call with
      | .transaction .. => False
      | .cli target command => target = device ∧ allowed command
      | _ => True

def Shows (command : Text) : Prop := Text.startsWith command showPrefix = true

instance : DecidablePred Shows := fun command =>
  inferInstanceAs (Decidable (Text.startsWith command showPrefix = true))

/-- Reads, and the one command that installs. -/
def Works (request : UpgradeRequest) (op : ToolOp) : Prop :=
  Sends Shows request.device op ∨
    op = .bare (.cli request.device (installCommand request.sourcePath))

section Sending
variable {context : UpgradeContext} {request : UpgradeRequest} {allowed : Text → Prop}

theorem openSession_sends : (openSession request).Performs (Sends allowed request.device) :=
  ⟨trivial, fun _ => trivial⟩

theorem openFresh_sends : (openFresh request).Performs (Sends allowed request.device) :=
  ⟨trivial, fun _ => trivial⟩

theorem cli_sends {command : Text} (sent : allowed command) :
    (cli request command).Performs (Sends allowed request.device) :=
  ⟨⟨rfl, sent⟩, fun _ => trivial⟩

theorem runProbe_sends {command phase : Text} (sent : allowed command) :
    (runProbe request command phase).Performs (Sends allowed request.device) := by
  apply (cli_sends sent).andThen
  intro result
  cases result with
  | ok output => trivial
  | error error => trivial

theorem openValidated_sends {command phase : Text} (sent : allowed command) :
    (openValidated request command phase).Performs (Sends allowed request.device) := by
  apply openSession_sends.andThen
  intro _
  apply (cli_sends sent).andThen
  intro result
  cases result with
  | ok output => trivial
  | error error =>
      by_cases stale : errorIsTransient error.display = true
      · simp only [stale, if_true]
        exact openFresh_sends.andThen fun _ => runProbe_sends sent
      · simp only [stale]
        trivial

def factCommands : List Text := [clusterCommand, versionCommand, commitCommand, storageCommand]

theorem gatherFacts_sends {localSize : Nat} (sent : ∀ command ∈ factCommands, allowed command) :
    (gatherFacts request localSize).Performs (Sends allowed request.device) := by
  refine (openValidated_sends (sent _ (by simp [factCommands]))).andThen fun _ => ?_
  refine (runProbe_sends (sent _ (by simp [factCommands]))).andThen fun _ => ?_
  refine (runProbe_sends (sent _ (by simp [factCommands]))).andThen fun _ => ?_
  exact (runProbe_sends (sent _ (by simp [factCommands]))).andThen fun _ => trivial

theorem captureCommands_sends {commands : List Text}
    (sent : ∀ command ∈ commands, allowed command) :
    (captureCommands request commands).Performs (Sends allowed request.device) := by
  induction commands with
  | nil => trivial
  | cons command rest ih =>
      refine (cli_sends (sent command List.mem_cons_self)).andThen fun _ => ?_
      refine (ih ?_).andThen fun _ => trivial
      exact fun later member => sent later (List.mem_cons_of_mem _ member)

theorem captureBaseline_sends (sent : ∀ command ∈ baselineCommands, allowed command) :
    (captureBaseline request).Performs (Sends allowed request.device) :=
  openSession_sends.andThen fun _ => captureCommands_sends sent

theorem factCommands_show : ∀ command ∈ factCommands, Shows command := by
  decide

theorem baselineCommands_show : ∀ command ∈ baselineCommands, Shows command := by
  decide

theorem installed_sends (result : Except RustEzError Text) :
    (installed result).Performs (Sends allowed request.device) := by
  cases result with
  | ok output => exact ⟨trivial, fun _ => trivial⟩
  | error error =>
      rw [installed]
      by_cases dropped : installErrorIndicatesSessionDrop error.display = true
      · rw [if_pos dropped]
        trivial
      · rw [if_neg dropped]
        trivial

theorem install_works : (install request).Performs (Works request) := by
  apply (openSession_sends.mono fun _ => Or.inl).andThen
  intro _
  exact ⟨.inr rfl, fun result => (installed_sends result).mono fun _ => Or.inl⟩

theorem runDestructive_works {facts : PreflightFacts} {warning : Option Text} :
    (runDestructive request facts warning).Performs (Works request) := by
  have baseline : (captureBaseline request).Performs (Works request) :=
    (captureBaseline_sends baselineCommands_show).mono fun _ => Or.inl
  apply baseline.andThen
  intro before
  refine Prog.Performs.andThen ?_ fun _ => ?_
  · exact ⟨.inl trivial, fun _ => trivial⟩
  apply install_works.andThen
  intro _
  refine Prog.Performs.andThen ?_ fun _ => ?_
  · exact ⟨.inl trivial, fun _ => trivial⟩
  exact baseline.andThen fun _ => trivial

theorem orFail_performs {α : Type} {allowed : ToolOp → Prop} {p : ToolProg (Except JmcpError α)}
    {f : α → UpgradeProg} (first : p.Performs allowed)
    (rest : ∀ value, (f value).Performs allowed) : (orFail p f).Performs allowed := by
  apply first.bind
  intro result
  cases result with
  | ok value => exact rest value
  | error error => trivial

theorem dispatchLocked_works {facts : PreflightFacts} {warning : Option Text} :
    (dispatchLocked context request facts warning).Performs (Works request) := by
  rw [dispatchLocked]
  cases preflightDecision context request facts with
  | proceed => exact orFail_performs runDestructive_works fun _ => trivial
  | _ => trivial

theorem acquireLease_sends : (acquireLease request).Performs (Sends allowed request.device) :=
  ⟨trivial, fun _ => trivial⟩

theorem dispatchPreflight_works {localSize : Nat} {facts : PreflightFacts} {warning : Option Text} :
    (dispatchPreflight context request localSize facts warning).Performs (Works request) := by
  rw [dispatchPreflight]
  cases preflightDecision context request facts with
  | proceed =>
      apply orFail_performs (acquireLease_sends.mono fun _ => Or.inl)
      intro _
      apply orFail_performs ((gatherFacts_sends factCommands_show).mono fun _ => Or.inl)
      intro lockedFacts
      exact dispatchLocked_works
  | _ => trivial

theorem upgradeChecked_works {warning : Option Text} :
    (upgradeChecked context request warning).Performs (Works request) := by
  refine ⟨.inl trivial, fun kind => ?_⟩
  refine orFail_performs ?_ fun _ => ?_
  · trivial
  refine orFail_performs ?_ fun localSize => ?_
  · exact ⟨.inl trivial, fun _ => trivial⟩
  apply orFail_performs ((gatherFacts_sends factCommands_show).mono fun _ => Or.inl)
  intro facts
  exact dispatchPreflight_works

theorem Sends.mono {allowed' : Text → Prop} {device : Text}
    (wider : ∀ command, allowed command → allowed' command) {op : ToolOp}
    (sends : Sends allowed device op) : Sends allowed' device op := by
  have sent (call : ToolCall) (sends : Sends allowed device (.bare call)) :
      Sends allowed' device (.bare call) := by
    cases call with
    | cli target command => exact ⟨sends.1, wider command sends.2⟩
    | transaction target request timeout => exact sends
    | _ => trivial
  cases op with
  | ensureActive => trivial
  | bare call => exact sent call sends
  | timed call => exact sent call sends
  | raced call => exact sent call sends

end Sending

end JunosMcp.Upgrade
