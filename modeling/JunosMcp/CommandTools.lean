import JunosMcp.Commands
import JunosMcp.Output
import JunosMcp.PolicyIsolation
import JunosMcp.Lib.Hiding

/-!
# Command tools and their answers

`execute_junos_command`, `execute_junos_pfe_command` and the batch from their arguments to the
answer a caller sees: checks, the device's reply, the modifiers and caps, and the redaction of the
server at the end.
-/

namespace JunosMcp
open Lib

/-! ## Checks -/

def maxInputLen : Nat := 1048576

def minMaxBytes : Nat := 64

def validateInputLength (fieldName value : Text) : Except JmcpError Unit :=
  if maxInputLen < utf8Len value then
    .error (.inventoryInvalid (fieldName ++ " exceeds maximum length of ".toList ++
      (Nat.repr maxInputLen).toList ++ " bytes".toList))
  else .ok ()

def validateOutputCaps (caps : OutputCaps) : Except JmcpError Unit :=
  if caps.maxLines = some 0 then .error (.validation
    "max_lines must be at least 1; a cap of 0 asks for no output at all".toList)
  else if caps.maxBytes.any (· < minMaxBytes) then .error (.validation
    ("max_bytes must be at least ".toList ++ (Nat.repr minMaxBytes).toList ++ ("; a smaller budget " ++
      "cannot hold the truncation marker, so the cap could not be honoured exactly").toList))
  else .ok ()

/-- What the handlers hold: the names of the inventory, the policy, and the regular expressions. -/
structure CommandServer (crate : PolicyCrate) where
  inventory : List Text
  policy : Policy crate
  regexes : Regexes

variable {crate : PolicyCrate}

def CommandServer.knows (server : CommandServer crate) (device : Text) : Bool :=
  server.inventory.contains device

def CommandServer.get (server : CommandServer crate) (device : Text) : Except JmcpError Unit :=
  if server.knows device then .ok () else .error (.unknownRouter device)

/-- A reply under the caller's timeout. -/
def awaited {α : Type} (timeout : Duration) : Timed (Except JmcpError α) → Except JmcpError α
  | .completed result => result
  | .elapsed => .error (.timeout timeout)

/-! ## The tools -/

structure ExecuteCommandArgs where
  device : Text
  command : Text
  timeout : Duration
  caps : OutputCaps

def executeCommandChecks (server : CommandServer crate) (args : ExecuteCommandArgs) :
    Except JmcpError Unit := do
  validateInputLength "command".toList args.command
  validateOutputCaps args.caps
  server.get args.device
  enforceDecision (server.policy.checkCommand args.device args.command)
    "execute_junos_command".toList args.device args.command

def executeCommand (server : CommandServer crate) (args : ExecuteCommandArgs)
    (reply : Timed (Except JmcpError Text)) : Except JmcpError Text := do
  executeCommandChecks server args
  let raw ← awaited args.timeout reply
  return processOutput server.regexes args.command args.caps raw

structure ExecutePfeArgs where
  device : Text
  fpcTarget : Text
  pfeCommand : Text
  timeout : Duration
  caps : OutputCaps

structure PfeOutput where
  fpcTarget : Text
  output : Text
  deriving DecidableEq

def isFpcCharacter (c : Char) : Bool := c.isAlphanum || c == '-' || c == '_'

def executePfeChecks (server : CommandServer crate) (args : ExecutePfeArgs) :
    Except JmcpError Unit := do
  validateInputLength "pfe_command".toList args.pfeCommand
  validateOutputCaps args.caps
  if args.pfeCommand.any (· == doubleQuote) then .error (.badPfeCommand
    ("literal '".toList ++ doubleQuote ::
      "' is not allowed (would break the wrapper command)".toList))
  if args.fpcTarget.all isFpcCharacter then .ok ()
  else .error (.badPfeCommand "fpc_target contains invalid characters".toList)
  server.get args.device
  enforceDecision (server.policy.checkPfeCommand args.device args.pfeCommand)
    "execute_junos_pfe_command".toList args.device args.pfeCommand

/-- The modifiers are those of the PFE command, inside the wrapper that was sent. -/
def executePfe (server : CommandServer crate) (args : ExecutePfeArgs)
    (reply : Timed (Except JmcpError Text)) : Except JmcpError PfeOutput := do
  executePfeChecks server args
  let raw ← awaited args.timeout reply
  return ⟨args.fpcTarget, processOutput server.regexes args.pfeCommand args.caps raw⟩

structure ExecuteBatchArgs where
  devices : List Text
  commands : List Text
  maxConcurrentDevices : Nat
  caps : OutputCaps

structure RouterResult where
  router : Text
  commands : List CommandOutcome
  deriving DecidableEq

/-- What became of one device of a batch. -/
inductive DeviceReply where
  | connectFailed (error : JmcpError)
  | ran (replies : Nat → Timed (Except RustEzError Text))
  | batchTimeout

def executeBatchChecks (server : CommandServer crate) (args : ExecuteBatchArgs) :
    Except JmcpError Unit := do
  validateOutputCaps args.caps
  if args.devices.isEmpty then .error (.inventoryInvalid
    "execute_junos_command_batch: devices must be non-empty".toList)
  if args.commands.isEmpty then .error (.inventoryInvalid
    "execute_junos_command_batch: commands must be non-empty".toList)
  if args.maxConcurrentDevices = 0 then .error (.inventoryInvalid
    "execute_junos_command_batch: max_concurrent_devices must be > 0".toList)
  if 100 < args.devices.length then .error (.inventoryInvalid
    "execute_junos_command_batch: devices list exceeds maximum of 100".toList)
  if 50 < args.commands.length then .error (.inventoryInvalid
    "execute_junos_command_batch: commands list exceeds maximum of 50".toList)
  (args.devices.filter server.knows).forM fun device => args.commands.forM fun command =>
    enforceDecision (server.policy.checkCommand device command)
      "execute_junos_command_batch".toList device command

def failedOutcome (error command : Text) : CommandOutcome := ⟨command, false, none, some error⟩

def deviceOutcomes (commands : List Text) : DeviceReply → List CommandOutcome
  | .connectFailed error =>
      commands.map (failedOutcome ("connect failed: ".toList ++ error.display))
  | .ran replies => commands.mapIdx fun i command => commandOutcome command (replies i)
  | .batchTimeout => commands.map (failedOutcome "batch timeout".toList)

def CommandOutcome.process (regexes : Regexes) (caps : OutputCaps) (outcome : CommandOutcome) :
    CommandOutcome :=
  { outcome with value := outcome.value.map (processOutput regexes outcome.command caps) }

/-- An unknown device has its row as well. -/
def rowOutcomes (server : CommandServer crate) (args : ExecuteBatchArgs) (device : Text)
    (reply : DeviceReply) : List CommandOutcome :=
  let outcomes :=
    if server.knows device then deviceOutcomes args.commands reply
    else args.commands.map (failedOutcome
      ("device '".toList ++ device ++ "' not found in device mapping".toList))
  outcomes.map (CommandOutcome.process server.regexes args.caps)

def executeBatch (server : CommandServer crate) (args : ExecuteBatchArgs)
    (replies : Nat → DeviceReply) : Except JmcpError (List RouterResult) := do
  executeBatchChecks server args
  return args.devices.mapIdx fun i device => ⟨device, rowOutcomes server args device (replies i)⟩

/-! ## Answers -/

/-- `CallToolResult`: a value, or an error's text. -/
inductive CallResult (α : Type) where
  | success (value : α)
  | error (text : Text)

/-- A value that can be redacted, leaf by leaf. -/
class Redactable (α : Type) where
  redact : (Text → Text) → α → α

instance : Redactable Text := ⟨fun redact text => redact text⟩

instance : Redactable PfeOutput :=
  ⟨fun redact shown => ⟨redact shown.fpcTarget, redact shown.output⟩⟩

def CommandOutcome.redact (redact : Text → Text) (outcome : CommandOutcome) : CommandOutcome :=
  ⟨redact outcome.command, outcome.ok, outcome.value.map redact, outcome.error.map redact⟩

instance : Redactable (List RouterResult) := ⟨fun redact rows => rows.map fun row =>
  ⟨redact row.router, row.commands.map (CommandOutcome.redact redact)⟩⟩

variable {α : Type} [Redactable α]

def toCallResult (redact : Text → Text) : Except JmcpError α → CallResult α
  | .ok value => .success (Redactable.redact redact value)
  | .error error => .error (redact error.display)

def redactLastMile (redact : Text → Text) : CallResult α → CallResult α
  | .success value => .success (Redactable.redact redact value)
  | .error text => .error (redact text)

/-- What the caller sees. -/
def answer (redact : Text → Text) (result : Except JmcpError α) : CallResult α :=
  redactLastMile redact (toCallResult redact result)

/-! ## Replies that redact alike -/

variable {regexes : Regexes} {redact : Text → Text}

/-- Outputs of one redaction, or the same failure. -/
inductive SameReply {ε : Type} (redact : Text → Text) :
    Timed (Except ε Text) → Timed (Except ε Text) → Prop where
  | output {raw raw' : Text} : redact raw = redact raw' →
      SameReply redact (.completed (.ok raw)) (.completed (.ok raw'))
  | refl (reply : Timed (Except ε Text)) : SameReply redact reply reply

inductive SameDevice (redact : Text → Text) : DeviceReply → DeviceReply → Prop where
  | ran {replies replies' : Nat → Timed (Except RustEzError Text)} :
      (∀ i, SameReply redact (replies i) (replies' i)) →
      SameDevice redact (.ran replies) (.ran replies')
  | refl (reply : DeviceReply) : SameDevice redact reply reply

section Tools
variable (server : CommandServer crate)

/-- What the tool shows of two replies that redact alike is the same, for every redactor. -/
def ExecuteCommandBlind (args : ExecuteCommandArgs) : Prop :=
  ∀ redact, Idempotent redact → ∀ reply reply', SameReply redact reply reply' →
    answer redact (executeCommand server args reply) =
      answer redact (executeCommand server args reply')

def ExecutePfeBlind (args : ExecutePfeArgs) : Prop :=
  ∀ redact, Idempotent redact → ∀ reply reply', SameReply redact reply reply' →
    answer redact (executePfe server args reply) = answer redact (executePfe server args reply')

def ExecuteBatchBlind (args : ExecuteBatchArgs) : Prop :=
  ∀ redact, Idempotent redact → ∀ replies replies' : Nat → DeviceReply,
    (∀ i, SameDevice redact (replies i) (replies' i)) →
      answer redact (executeBatch server args replies) =
        answer redact (executeBatch server args replies')

/-- The reply is passed through, or nothing of it is left. -/
def PassedOrBlank (command : Text) (caps : OutputCaps) : Prop :=
  Unfiltered command caps ∨ ∀ raw raw',
    processOutput server.regexes command caps raw = processOutput server.regexes command caps raw'

end Tools

variable {server : CommandServer crate}

theorem passedOrBlank_iff {command : Text} {caps : OutputCaps} :
    PassedOrBlank server command caps ↔ HidingSafe (processOutput server.regexes command caps) := by
  rw [hidingSafe_iff, processOutput_id_iff, PassedOrBlank]

/-- A tool that shows the processed reply as a leaf of its answer. -/
theorem shown_blind_iff (shown : Text → α) (process : Text → Text) (timeout : Duration)
    (leaf : ∀ redact, Idempotent redact → ∀ x y,
      Redactable.redact redact (Redactable.redact redact (shown x)) =
        Redactable.redact redact (Redactable.redact redact (shown y)) ↔ redact x = redact y) :
    (∀ redact, Idempotent redact → ∀ reply reply', SameReply redact reply reply' →
      answer redact ((awaited timeout reply).map fun raw => shown (process raw)) =
        answer redact ((awaited timeout reply').map fun raw => shown (process raw))) ↔
      HidingSafe process := by
  constructor
  · intro blind redact idempotent raw raw' same
    have alike := blind redact idempotent _ _ (.output same)
    simp only [awaited, Except.map, answer, toCallResult, redactLastMile,
      CallResult.success.injEq] at alike
    exact (leaf redact idempotent _ _).mp alike
  · intro safe redact idempotent reply reply' same
    cases same with
    | refl => rfl
    | output same =>
        simp only [awaited, Except.map, answer, toCallResult, redactLastMile,
          CallResult.success.injEq]
        exact (leaf redact idempotent _ _).mpr (safe redact idempotent _ _ same)

theorem executeCommand_blind_iff {args : ExecuteCommandArgs} :
    ExecuteCommandBlind server args ↔ (∃ error, executeCommandChecks server args = .error error) ∨
      PassedOrBlank server args.command args.caps := by
  cases checked : executeCommandChecks server args with
  | error error =>
      have refused (reply : Timed (Except JmcpError Text)) :
          executeCommand server args reply = .error error := by
        simp [executeCommand, checked, bind, Except.bind]
      simp [ExecuteCommandBlind, refused]
  | ok _ =>
      have maps (reply : Timed (Except JmcpError Text)) : executeCommand server args reply =
          (awaited args.timeout reply).map (processOutput server.regexes args.command args.caps) := by
        simp only [executeCommand, checked, bind, Except.bind, pure, Except.pure]
        cases awaited args.timeout reply <;> rfl
      have blind := shown_blind_iff id (processOutput server.regexes args.command args.caps)
        args.timeout fun redact idempotent x y => by simp [Redactable.redact, idempotent x, idempotent y]
      rw [passedOrBlank_iff, ← blind]
      simp [ExecuteCommandBlind, maps]

theorem executePfe_blind_iff {args : ExecutePfeArgs} :
    ExecutePfeBlind server args ↔ (∃ error, executePfeChecks server args = .error error) ∨
      PassedOrBlank server args.pfeCommand args.caps := by
  cases checked : executePfeChecks server args with
  | error error =>
      have refused (reply : Timed (Except JmcpError Text)) :
          executePfe server args reply = .error error := by
        simp [executePfe, checked, bind, Except.bind]
      simp [ExecutePfeBlind, refused]
  | ok _ =>
      have maps (reply : Timed (Except JmcpError Text)) : executePfe server args reply =
          (awaited args.timeout reply).map fun raw => PfeOutput.mk args.fpcTarget
            (processOutput server.regexes args.pfeCommand args.caps raw) := by
        simp only [executePfe, checked, bind, Except.bind, pure, Except.pure]
        cases awaited args.timeout reply <;> rfl
      have blind := shown_blind_iff (PfeOutput.mk args.fpcTarget)
        (processOutput server.regexes args.pfeCommand args.caps) args.timeout fun redact idempotent x y => by simp [Redactable.redact, idempotent x, idempotent y]
      rw [passedOrBlank_iff, ← blind]
      simp [ExecutePfeBlind, maps]

/-! ## The batch -/

theorem processed_alike {caps : OutputCaps} {command : Text}
    (safe : HidingSafe (processOutput regexes command caps)) (idempotent : Idempotent redact)
    {reply reply' : Timed (Except RustEzError Text)} (same : SameReply redact reply reply') :
    ((commandOutcome command reply).process regexes caps).redact redact =
      ((commandOutcome command reply').process regexes caps).redact redact := by
  cases same with
  | refl => rfl
  | output same =>
      have shown := safe redact idempotent _ _ same
      simp [commandOutcome, CommandOutcome.process, CommandOutcome.redact, shown]

theorem deviceOutcomes_alike {caps : OutputCaps} {commands : List Text}
    (safe : ∀ command ∈ commands, HidingSafe (processOutput regexes command caps))
    (idempotent : Idempotent redact) {reply reply' : DeviceReply}
    (same : SameDevice redact reply reply') :
    ((deviceOutcomes commands reply).map (CommandOutcome.process regexes caps)).map
        (CommandOutcome.redact redact) =
      ((deviceOutcomes commands reply').map (CommandOutcome.process regexes caps)).map
        (CommandOutcome.redact redact) := by
  cases same with
  | refl => rfl
  | ran alike =>
      apply List.ext_getElem
      · simp [deviceOutcomes]
      · intro k first second
        simp only [deviceOutcomes, List.map_map, List.length_map, List.length_mapIdx] at first
        simp only [deviceOutcomes, List.getElem_map, List.getElem_mapIdx]
        exact processed_alike (safe _ (List.getElem_mem _)) idempotent (alike k)

/-- What a caller sees of one command of one device. -/
def seenOutcome (i k : Nat) : CallResult (List RouterResult) → Option CommandOutcome
  | .success rows => rows[i]?.bind fun row => row.commands[k]?
  | .error _ => none

theorem executeBatch_blind_iff {args : ExecuteBatchArgs} :
    ExecuteBatchBlind server args ↔ (∃ error, executeBatchChecks server args = .error error) ∨
      (∀ device ∈ args.devices, server.knows device = false) ∨
      ∀ command ∈ args.commands, PassedOrBlank server command args.caps := by
  cases checked : executeBatchChecks server args with
  | error error =>
      have refused (replies : Nat → DeviceReply) :
          executeBatch server args replies = .error error := by
        simp [executeBatch, checked, bind, Except.bind]
      simp [ExecuteBatchBlind, refused]
  | ok _ =>
      simp only [reduceCtorEq, exists_false, false_or]
      constructor
      · intro blind
        by_contra leaks
        push Not at leaks
        obtain ⟨⟨device, listed, known⟩, command, asked, shows⟩ := leaks
        have known := Bool.eq_true_of_not_eq_false known
        refine shows (passedOrBlank_iff.mpr fun redact idempotent raw raw' same => ?_)
        obtain ⟨i, inDevices, rfl⟩ := List.getElem_of_mem listed
        obtain ⟨k, inCommands, rfl⟩ := List.getElem_of_mem asked
        have alike := blind redact idempotent (fun _ => .ran fun _ => .completed (.ok raw))
          (fun _ => .ran fun _ => .completed (.ok raw')) fun _ => .ran fun _ => .output same
        have seen := congrArg (seenOutcome i k) alike
        simpa [seenOutcome, answer, toCallResult, redactLastMile, Redactable.redact, executeBatch,
          checked, bind, Except.bind, pure, Except.pure, inDevices, inCommands, known,
          rowOutcomes, deviceOutcomes, commandOutcome, CommandOutcome.process,
          CommandOutcome.redact, idempotent (processOutput server.regexes _ args.caps _)] using seen
      · intro condition redact idempotent replies replies' same
        have row (device : Text) (member : device ∈ args.devices) (i : Nat) :
            (rowOutcomes server args device (replies i)).map (CommandOutcome.redact redact) =
              (rowOutcomes server args device (replies' i)).map (CommandOutcome.redact redact) := by
          cases known : server.knows device with
          | false => simp [rowOutcomes, known]
          | true =>
              simp only [rowOutcomes, known, if_true]
              rcases condition with unknown | passed
              · rw [unknown device member] at known
                cases known
              · exact deviceOutcomes_alike
                  (fun command asked => passedOrBlank_iff.mp (passed command asked)) idempotent
                  (same i)
        have rows : Redactable.redact redact (args.devices.mapIdx fun i device =>
              RouterResult.mk device (rowOutcomes server args device (replies i))) =
            Redactable.redact redact (args.devices.mapIdx fun i device =>
              RouterResult.mk device (rowOutcomes server args device (replies' i))) := by
          apply List.ext_getElem
          · simp [Redactable.redact]
          · intro i first second
            simp only [Redactable.redact, List.getElem_map, List.getElem_mapIdx]
            rw [row _ (List.getElem_mem _)]
        simp only [executeBatch, checked, bind, Except.bind, pure, Except.pure, answer, toCallResult,
          redactLastMile, rows]

/-- The answers hide what the redactor hides exactly when the reply is passed through, left out
altogether, or never asked for. -/
theorem answers_blind_iff (server : CommandServer crate) :
    (∀ args, ExecuteCommandBlind server args ↔
      (∃ error, executeCommandChecks server args = .error error) ∨
        PassedOrBlank server args.command args.caps) ∧
    (∀ args, ExecutePfeBlind server args ↔
      (∃ error, executePfeChecks server args = .error error) ∨
        PassedOrBlank server args.pfeCommand args.caps) ∧
    ∀ args, ExecuteBatchBlind server args ↔
      (∃ error, executeBatchChecks server args = .error error) ∨
        (∀ device ∈ args.devices, server.knows device = false) ∨
        ∀ command ∈ args.commands, PassedOrBlank server command args.caps :=
  ⟨fun _ => executeCommand_blind_iff, fun _ => executePfe_blind_iff, fun _ => executeBatch_blind_iff⟩

/-! ## A filter as an oracle -/

/-- Everything behind the first `$` is masked. -/
def maskSecret : Text → Text
  | [] => []
  | c :: rest => if c = '$' then "$9$[REDACTED]".toList else c :: maskSecret rest

theorem maskSecret_idempotent : Idempotent maskSecret := by
  intro text
  induction text with
  | nil => rfl
  | cons c rest ih =>
      by_cases secret : c = '$'
      · simp only [maskSecret, secret, if_true]
        rfl
      · simp [maskSecret, secret, ih]

def withoutRules : CratePolicy prefixCrate where
  mode := .blocklist
  commands := ⟨⟨[], []⟩, [], []⟩
  config := ⟨[], []⟩
  pfeCommands := ⟨⟨[], []⟩, [], []⟩

/-- A pattern of plain characters matches where it stands. -/
def literalRegexes : Regexes := fun pattern => some fun line => Text.contains line pattern

def openServer : CommandServer prefixCrate where
  inventory := ["r1".toList]
  policy := ⟨[], withoutRules, .blocklist⟩
  regexes := literalRegexes

def matchSecret : ExecuteCommandArgs where
  device := "r1".toList
  command := "show configuration | match ab".toList
  timeout := 30
  caps := ⟨none, none, false⟩

def shownText : CallResult Text → Text
  | .success text => text
  | .error text => text

/-- Two secrets that are masked alike, told apart by a `match` on the unmasked text. -/
theorem match_tells_secrets_apart :
    maskSecret "community $9$ab".toList = maskSecret "community $9$cd".toList ∧
      answer maskSecret (executeCommand openServer matchSecret
        (.completed (.ok "community $9$ab".toList))) ≠
      answer maskSecret (executeCommand openServer matchSecret
        (.completed (.ok "community $9$cd".toList))) ∧
      ¬ExecuteCommandBlind openServer matchSecret := by
  have masked : maskSecret "community $9$ab".toList = maskSecret "community $9$cd".toList := by
    decide
  have apart : answer maskSecret (executeCommand openServer matchSecret
        (.completed (.ok "community $9$ab".toList))) ≠
      answer maskSecret (executeCommand openServer matchSecret
        (.completed (.ok "community $9$cd".toList))) := by
    intro same
    have shown := congrArg shownText same
    exact absurd shown (by decide)
  exact ⟨masked, apart, fun blind => apart (blind _ maskSecret_idempotent _ _ (.output masked))⟩

end JunosMcp
