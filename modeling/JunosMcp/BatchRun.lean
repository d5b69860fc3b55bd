import JunosMcp.CommandTools
import JunosMcp.Session.Staging
import JunosMcp.Lib.JoinSet

/-!
# The batch at work

`execute_junos_command_batch` with its tasks: one per known device, at most `max_concurrent_devices`
with a permit, joined in whatever order they end, until all are joined or the batch timeout drops
those that are left.
-/

namespace JunosMcp
open Lib

structure BatchRequest extends ExecuteBatchArgs where
  batchTimeout : Option Nat

namespace Batch

/-! ## One device -/

inductive DeviceCall where
  | open (router : Text)
  | session (call : SessionCall)

def DeviceCall.Reply : DeviceCall → Type
  | .open _ => Except JmcpError Unit
  | .session call => call.Reply

abbrev DeviceOp := Await DeviceCall

abbrev DeviceRes := Await.Res DeviceCall.Reply

instance (op : DeviceOp) : Nonempty (DeviceRes op) := by
  have reply : ∀ call : DeviceCall, Nonempty call.Reply := by
    intro call
    cases call with
    | «open» router => exact ⟨(.ok () : Except JmcpError Unit)⟩
    | session call =>
        cases call with
        | guard op => cases op <;> exact ⟨(by first | exact () | exact true)⟩
        | device rpc => exact ⟨(.error ⟨.other, []⟩ : Except RustEzError rpc.Value)⟩
  cases op with
  | ensureActive => exact ⟨Activity.active⟩
  | bare call => exact reply call
  | timed call => exact ⟨Timed.elapsed⟩
  | raced call => exact ⟨Raced.elapsed⟩

/-- `run_device`: the pooled session goes back when it is dropped, `close` sends nothing. -/
def runDevice (router : Text) (commands : List Text) : Prog DeviceOp DeviceRes RouterResult :=
  .step (.bare (.open router)) fun
    | .error error =>
        .pure ⟨router, commands.map (failedOutcome ("connect failed: ".toList ++ error.display))⟩
    | .ok () => ((JunosMcp.runDevice commands).relabel (Await.rename DeviceCall.session)
        (Await.readAnswer DeviceCall.session fun _ reply => reply)).bind fun outcomes =>
          .pure ⟨router, outcomes⟩

/-! ## The handler -/

variable {crate : PolicyCrate}

def preflight (server : CommandServer crate) (request : BatchRequest) (router : Text) :
    Option RouterResult :=
  if server.knows router then none
  else some ⟨router, request.commands.map (failedOutcome
    ("device '".toList ++ router ++ "' not found in device mapping".toList))⟩

def preflightResults (server : CommandServer crate) (request : BatchRequest) :
    List (Option RouterResult) :=
  request.devices.map (preflight server request)

def tasks (server : CommandServer crate) (request : BatchRequest) :
    List (Task DeviceOp DeviceRes RouterResult) :=
  (request.devices.zipIdx.filter fun entry => server.knows entry.1).map fun entry =>
    ⟨entry.2, runDevice entry.1 request.commands⟩

def finalRow (server : CommandServer crate) (request : BatchRequest)
    (results : List (Option RouterResult)) (i : Nat) (name : Text) : RouterResult :=
  let row := (results[i]?.getD none).getD
    ⟨name, request.commands.map (failedOutcome "batch timeout".toList)⟩
  { row with commands := row.commands.map (CommandOutcome.process server.regexes request.caps) }

def finalResults (server : CommandServer crate) (request : BatchRequest)
    (results : List (Option RouterResult)) : List RouterResult :=
  request.devices.mapIdx (finalRow server request results)

abbrev Event := TaskEvent DeviceOp DeviceRes

/-- What can have happened by some time, and the answer if there is one by then. A call that was
dropped, or is at work, has none. -/
inductive Reaches (server : CommandServer crate) (request : BatchRequest) :
    List Event → Option (Except JmcpError (List RouterResult)) → Prop where
  | refused {error : JmcpError} :
      executeBatchChecks server request.toExecuteBatchArgs = .error error →
      Reaches server request [] (some (.error error))
  | collecting {events : List Event} {set : JoinSet DeviceOp DeviceRes RouterResult} :
      executeBatchChecks server request.toExecuteBatchArgs = .ok () →
      JoinSet.Runs request.maxConcurrentDevices
        (.spawn (tasks server request) (preflightResults server request)) events set →
      Reaches server request events none
  | answered {events : List Event} {set : JoinSet DeviceOp DeviceRes RouterResult} :
      executeBatchChecks server request.toExecuteBatchArgs = .ok () →
      JoinSet.Runs request.maxConcurrentDevices
        (.spawn (tasks server request) (preflightResults server request)) events set →
      set.Drained ∨ request.batchTimeout.isSome →
      Reaches server request events (some (.ok (finalResults server request set.results)))

/-- A command of the request is denied on a device of the inventory. -/
def Denied (server : CommandServer crate) (request : BatchRequest) : Prop :=
  ∃ device ∈ request.devices, server.knows device = true ∧
    ∃ command ∈ request.commands, server.policy.checkCommand device command ≠ .allow

def opensSession : Event → Bool
  | .performed _ (.bare (.open _)) _ => true
  | _ => false

/-! ## What a device's task returns -/

theorem returns_relabel {Op Op' : Type} {Res : Op → Type} {Res' : Op' → Type} {α : Type}
    {name : Op → Op'} {read : ∀ op, Res' (name op) → Res op} {p : Prog Op Res α}
    {trace : Trace Op' Res'} {value : α} (returns : Returns (p.relabel name read) trace value) :
    ∃ trace', Returns p trace' value := by
  induction p generalizing trace with
  | pure result =>
      obtain ⟨_, rfl⟩ := returns_pure.mp (show Returns (.pure result) _ _ from returns)
      exact ⟨[], .pure _⟩
  | step op next ih =>
      obtain ⟨answer, rest, _, later⟩ :=
        returns_step.mp (show Returns (.step (name op) _) _ _ from returns)
      obtain ⟨trace', inner⟩ := ih _ later
      exact ⟨_, .step inner⟩

/-- A reply for each command, whatever the others came to. -/
theorem runDevice_returns {commands : List Text} {trace : SessionTrace}
    {outcomes : List CommandOutcome} (returns : Returns (JunosMcp.runDevice commands) trace outcomes) :
    ∃ replies : Nat → Timed (Except RustEzError Text),
      outcomes = commands.mapIdx fun i command => commandOutcome command (replies i) := by
  induction commands generalizing trace outcomes with
  | nil =>
      obtain ⟨_, rfl⟩ := returns_pure.mp returns
      exact ⟨fun _ => .elapsed, rfl⟩
  | cons command rest ih =>
      obtain ⟨reply, later, _, returns⟩ := returns_step.mp returns
      have outcomesOf : Returns ((JunosMcp.runDevice rest).bind fun outcomes =>
          .pure (commandOutcome command reply :: outcomes)) later outcomes := returns
      obtain ⟨_, _, tail, _, inner, ends⟩ := returns_bind.mp outcomesOf
      obtain ⟨_, rfl⟩ := returns_pure.mp ends
      obtain ⟨replies, rfl⟩ := ih inner
      refine ⟨fun i => i.casesOn reply replies, ?_⟩
      rw [List.mapIdx_cons]
      rfl

theorem device_returns {router : Text} {commands : List Text} {trace : Trace DeviceOp DeviceRes}
    {row : RouterResult} (returns : Returns (runDevice router commands) trace row) :
    ∃ reply, reply ≠ .batchTimeout ∧ row = ⟨router, deviceOutcomes commands reply⟩ := by
  obtain ⟨opened, rest, _, returns⟩ := returns_step.mp returns
  rcases opened with error | _
  · obtain ⟨_, rfl⟩ := returns_pure.mp returns
    exact ⟨.connectFailed error, nofun, rfl⟩
  · obtain ⟨_, _, outcomes, _, inner, ends⟩ := returns_bind.mp returns
    obtain ⟨_, rfl⟩ := returns_pure.mp ends
    obtain ⟨_, here⟩ := returns_relabel inner
    obtain ⟨replies, rfl⟩ := runDevice_returns here
    exact ⟨.ran replies, nofun, rfl⟩

/-! ## The answer -/

section Answer
variable {server : CommandServer crate} {request : BatchRequest} {events : List Event}
  {set : JoinSet DeviceOp DeviceRes RouterResult}

theorem task_iff {i : Nat} {program : Prog DeviceOp DeviceRes RouterResult} :
    (⟨i, program⟩ : Task DeviceOp DeviceRes RouterResult) ∈ tasks server request ↔
      ∃ device, request.devices[i]? = some device ∧ server.knows device = true ∧
        program = runDevice device request.commands := by
  simp only [tasks, List.mem_map, List.mem_filter, Prod.exists, List.mem_zipIdx_iff_getElem?,
    Task.mk.injEq]
  constructor
  · rintro ⟨device, _, ⟨listed, known⟩, rfl, rfl⟩
    exact ⟨device, listed, known, rfl⟩
  · rintro ⟨device, listed, known, rfl⟩
    exact ⟨device, i, ⟨listed, known⟩, rfl, rfl⟩

theorem preflightResults_at {i : Nat} {name : Text} (listed : request.devices[i]? = some name) :
    (preflightResults server request)[i]? = some (preflight server request name) := by
  rw [preflightResults, List.getElem?_map, listed, Option.map_some]

/-- A collected row of a known device is what its task returned. -/
theorem collected_row (runs : JoinSet.Runs request.maxConcurrentDevices
      (.spawn (tasks server request) (preflightResults server request)) events set)
    {i : Nat} {name : Text} {row : RouterResult} (listed : request.devices[i]? = some name)
    (known : server.knows name = true) (collected : set.results[i]? = some (some row)) :
    ∃ reply, reply ≠ .batchTimeout ∧ finalRow server request set.results i name =
      ⟨name, rowOutcomes server request.toExecuteBatchArgs name reply⟩ := by
  rcases runs.honest.results i row collected with early | ⟨program, trace, spawned, returns⟩
  · rw [preflightResults_at listed, preflight, if_pos known] at early
    cases early
  · obtain ⟨device, here, _, rfl⟩ := task_iff.mp spawned
    rw [listed] at here
    cases here
    obtain ⟨reply, answered, rfl⟩ := device_returns returns
    refine ⟨reply, answered, ?_⟩
    rw [finalRow, collected, rowOutcomes, if_pos known]
    rfl

/-- Each row is its own device's, from what that device came to. -/
theorem finalRow_eq (runs : JoinSet.Runs request.maxConcurrentDevices
      (.spawn (tasks server request) (preflightResults server request)) events set)
    {i : Nat} {name : Text} (listed : request.devices[i]? = some name) :
    ∃ reply, finalRow server request set.results i name =
      ⟨name, rowOutcomes server request.toExecuteBatchArgs name reply⟩ := by
  cases known : server.knows name with
  | true =>
      by_cases collected : ∃ row, set.results[i]? = some (some row)
      · obtain ⟨row, collected⟩ := collected
        obtain ⟨reply, _, same⟩ := collected_row runs listed known collected
        exact ⟨reply, same⟩
      · have missing : set.results[i]?.getD none = none := by
          cases found : set.results[i]? with
          | none => rfl
          | some entry =>
              cases entry with
              | none => rfl
              | some row => exact absurd ⟨row, found⟩ collected
        refine ⟨.batchTimeout, ?_⟩
        rw [finalRow, missing, rowOutcomes, if_pos known]
        rfl
  | false =>
      have unspawned : ∀ program, ⟨i, program⟩ ∉ tasks server request := by
        intro program spawned
        obtain ⟨device, here, known', _⟩ := task_iff.mp spawned
        rw [listed] at here
        cases here
        rw [known] at known'
        cases known'
      have unknown : ¬server.knows name = true := by simp [known]
      refine ⟨.batchTimeout, ?_⟩
      rw [finalRow, runs.honest.kept i unspawned, preflightResults_at listed, preflight,
        if_neg unknown, rowOutcomes, if_neg unknown]
      rfl

/-- Once all tasks are joined, no row of a known device is a batch timeout, unless its task
panicked. -/
theorem drained_row (runs : JoinSet.Runs request.maxConcurrentDevices
      (.spawn (tasks server request) (preflightResults server request)) events set)
    (drained : set.Drained) {i : Nat} {name : Text} (listed : request.devices[i]? = some name)
    (known : server.knows name = true) (calm : .panicked i ∉ events) :
    ∃ reply, reply ≠ .batchTimeout ∧ finalRow server request set.results i name =
      ⟨name, rowOutcomes server request.toExecuteBatchArgs name reply⟩ := by
  have spawned : i ∈ (tasks server request).map Task.index := by
    have task := task_iff.mpr ⟨name, listed, known, rfl⟩
    exact List.mem_map.mpr ⟨_, task, rfl⟩
  have within : i < (preflightResults server request).length := by
    obtain ⟨within, _⟩ := List.getElem?_eq_some_iff.mp listed
    simpa [preflightResults] using within
  obtain ⟨row, collected⟩ := runs.delivered drained spawned within calm
  exact collected_row runs listed known collected

/-- No more devices are worked on at a time than were asked for. -/
theorem running_capped (runs : JoinSet.Runs request.maxConcurrentDevices
      (.spawn (tasks server request) (preflightResults server request)) events set) :
    set.running.length ≤ request.maxConcurrentDevices :=
  runs.bounded rfl

/-- Whatever the order and the failures, the batch answers what the sequential one does for some
behaviour of the devices. -/
theorem answered_executeBatch {answer : Except JmcpError (List RouterResult)}
    (reaches : Reaches server request events (some answer)) :
    ∃ replies, answer = executeBatch server request.toExecuteBatchArgs replies := by
  cases reaches with
  | refused checked =>
      refine ⟨fun _ => .batchTimeout, ?_⟩
      rw [executeBatch, checked]
      rfl
  | @answered _ set checked runs _ =>
      have rows : ∀ i, ∃ reply, ∀ name, request.devices[i]? = some name →
          finalRow server request set.results i name =
            ⟨name, rowOutcomes server request.toExecuteBatchArgs name reply⟩ := by
        intro i
        cases listed : request.devices[i]? with
        | none => exact ⟨.batchTimeout, by simp⟩
        | some device =>
            obtain ⟨reply, row⟩ := finalRow_eq runs listed
            refine ⟨reply, fun name same => ?_⟩
            cases same
            exact row
      choose replies rows using rows
      refine ⟨replies, ?_⟩
      rw [executeBatch, checked]
      apply congrArg Except.ok
      apply List.ext_getElem?
      intro i
      rw [finalResults, List.getElem?_mapIdx, List.getElem?_mapIdx]
      cases listed : request.devices[i]? with
      | none => rfl
      | some device => rw [Option.map_some, rows i device listed, Option.map_some]

end Answer

/-! ## Rows and outcomes in order -/

/-- An output or an error, never both. -/
def Settled (outcome : CommandOutcome) : Prop :=
  (outcome.ok = true ∧ outcome.value.isSome ∧ outcome.error = none) ∨
    (outcome.ok = false ∧ outcome.value = none ∧ outcome.error.isSome)

def OutcomeOf (command : Text) (outcome : CommandOutcome) : Prop :=
  outcome.command = command ∧ Settled outcome

/-- A row of the device, with one outcome for each command in order. -/
def RowOf (commands : List Text) (device : Text) (row : RouterResult) : Prop :=
  row.router = device ∧ List.Forall₂ OutcomeOf commands row.commands

theorem failedOutcome_of (error command : Text) : OutcomeOf command (failedOutcome error command) :=
  ⟨rfl, .inr ⟨rfl, rfl, rfl⟩⟩

theorem commandOutcome_of (command : Text) (reply : Timed (Except RustEzError Text)) :
    OutcomeOf command (commandOutcome command reply) := by
  rcases reply with (error | output) | _
  · exact ⟨rfl, .inr ⟨rfl, rfl, rfl⟩⟩
  · exact ⟨rfl, .inl ⟨rfl, rfl, rfl⟩⟩
  · exact ⟨rfl, .inr ⟨rfl, rfl, rfl⟩⟩

theorem OutcomeOf.process {command : Text} {outcome : CommandOutcome}
    (of : OutcomeOf command outcome) (regexes : Regexes) (caps : OutputCaps) :
    OutcomeOf command (outcome.process regexes caps) := by
  obtain ⟨named, ⟨ok, shown, clean⟩ | ⟨failed, blank, told⟩⟩ := of
  · exact ⟨named, .inl ⟨ok, by simpa [CommandOutcome.process] using shown, clean⟩⟩
  · exact ⟨named, .inr ⟨failed, by simp [CommandOutcome.process, blank], told⟩⟩

theorem failed_in_order (error : Text) (commands : List Text) :
    List.Forall₂ OutcomeOf commands (commands.map (failedOutcome error)) := by
  rw [List.forall₂_map_right_iff, List.forall₂_same]
  exact fun command _ => failedOutcome_of error command

theorem deviceOutcomes_in_order (commands : List Text) (reply : DeviceReply) :
    List.Forall₂ OutcomeOf commands (deviceOutcomes commands reply) := by
  cases reply with
  | connectFailed error => exact failed_in_order _ commands
  | batchTimeout => exact failed_in_order _ commands
  | ran replies =>
      refine List.forall₂_iff_get.mpr ⟨by simp [deviceOutcomes], fun i first second => ?_⟩
      simpa [deviceOutcomes] using commandOutcome_of commands[i] (replies i)

theorem rowOutcomes_in_order (server : CommandServer crate) (args : ExecuteBatchArgs)
    (device : Text) (reply : DeviceReply) :
    List.Forall₂ OutcomeOf args.commands (rowOutcomes server args device reply) := by
  have raw : List.Forall₂ OutcomeOf args.commands
      (if server.knows device then deviceOutcomes args.commands reply
        else args.commands.map (failedOutcome
          ("device '".toList ++ device ++ "' not found in device mapping".toList))) := by
    split
    · exact deviceOutcomes_in_order args.commands reply
    · exact failed_in_order _ args.commands
  rw [rowOutcomes, List.forall₂_map_right_iff]
  exact raw.imp fun _ _ of => of.process server.regexes args.caps

theorem executeBatch_in_order {server : CommandServer crate} {args : ExecuteBatchArgs}
    {replies : Nat → DeviceReply} {rows : List RouterResult}
    (ok : executeBatch server args replies = .ok rows) :
    List.Forall₂ (RowOf args.commands) args.devices rows := by
  obtain ⟨_, _, same⟩ := bind_eq_ok.mp ok
  cases same
  refine List.forall₂_iff_get.mpr ⟨by simp, fun i first second => ?_⟩
  simpa using ⟨rfl, rowOutcomes_in_order server args args.devices[i] (replies i)⟩

/-! ## A denied command -/

theorem forM_ok {ε α : Type} {f : α → Except ε Unit} {xs : List α} (ok : xs.forM f = .ok ()) :
    ∀ x ∈ xs, f x = .ok () := by
  induction xs with
  | nil => nofun
  | cons x rest ih =>
      obtain ⟨_, here, later⟩ := bind_eq_ok.mp (show (f x >>= fun _ => rest.forM f) = _ from ok)
      intro y member
      rcases List.mem_cons.mp member with rfl | member
      · exact here
      · exact ih later y member

theorem enforceDecision_ok {decision : PolicyDecision crate.Glob} {tool router rawInput : Text}
    (ok : enforceDecision decision tool router rawInput = .ok ()) : decision = .allow := by
  cases decision with
  | allow => rfl
  | deny _ _ _ => cases ok
  | denyAllowlist _ _ _ => cases ok

theorem checked_ok {ε β : Type} {refusing : Prop} [Decidable refusing] {error : ε}
    {rest : Unit → Except ε β} {result : β}
    (ok : (if refusing then (Except.error error >>= rest) else rest ()) = .ok result) :
    ¬refusing ∧ rest () = .ok result := by
  by_cases refused : refusing
  · rw [if_pos refused] at ok
    cases ok
  · rw [if_neg refused] at ok
    exact ⟨refused, ok⟩

theorem checks_ok {server : CommandServer crate} {args : ExecuteBatchArgs}
    (ok : executeBatchChecks server args = .ok ()) :
    args.maxConcurrentDevices ≠ 0 ∧
      ∀ device ∈ args.devices, server.knows device = true → ∀ command ∈ args.commands,
        server.policy.checkCommand device command = .allow := by
  obtain ⟨_, _, ok⟩ := bind_eq_ok.mp ok
  obtain ⟨_, ok⟩ := checked_ok ok
  obtain ⟨_, ok⟩ := checked_ok ok
  obtain ⟨permitted, ok⟩ := checked_ok ok
  obtain ⟨_, ok⟩ := checked_ok ok
  obtain ⟨_, allowed⟩ := checked_ok ok
  refine ⟨permitted, fun device listed known command asked => ?_⟩
  have commands := forM_ok allowed device (List.mem_filter.mpr ⟨listed, known⟩)
  exact enforceDecision_ok (forM_ok commands command asked)

theorem denied_refused {server : CommandServer crate} {request : BatchRequest}
    (denied : Denied server request) :
    executeBatchChecks server request.toExecuteBatchArgs ≠ .ok () := by
  intro ok
  obtain ⟨device, listed, known, command, asked, refused⟩ := denied
  exact refused ((checks_ok ok).2 device listed known command asked)

/-- A batch that may be answered can go on until it is. -/
theorem Reaches.progress {server : CommandServer crate} {request : BatchRequest}
    {events : List Event} (reaches : Reaches server request events none) :
    (∃ rows, Reaches server request events (some (.ok rows))) ∨
      ∃ event, Reaches server request (events ++ [event]) none := by
  cases reaches with
  | @collecting _ set checked runs =>
      have positive := Nat.pos_of_ne_zero (checks_ok checked).1
      rcases JoinSet.progress positive set with drained | ⟨event, _, step⟩
      · exact .inl ⟨_, .answered checked runs (.inl drained)⟩
      · exact .inr ⟨event, .collecting checked (runs.step step)⟩

/-- Every row is there, in order, with an outcome for every command in order; and where a command is
denied nothing is opened. -/
theorem batch_aligned (server : CommandServer crate) (request : BatchRequest) (events : List Event)
    (answer : Option (Except JmcpError (List RouterResult)))
    (reaches : Reaches server request events answer) :
    (∀ rows, answer = some (.ok rows) →
      List.Forall₂ (RowOf request.commands) request.devices rows) ∧
    (Denied server request →
      (∃ error, answer = some (.error error)) ∧
        ∀ event ∈ events, opensSession event = false) := by
  constructor
  · rintro rows rfl
    obtain ⟨replies, same⟩ := answered_executeBatch reaches
    exact executeBatch_in_order same.symm
  · intro denied
    cases reaches with
    | @refused error _ => exact ⟨⟨error, rfl⟩, by simp⟩
    | collecting checked _ => exact absurd checked (denied_refused denied)
    | answered checked _ _ => exact absurd checked (denied_refused denied)

/-! ## A batch cut short -/

def pairServer : CommandServer prefixCrate where
  inventory := ["r1".toList, "r2".toList]
  policy := ⟨[], withoutRules, .blocklist⟩
  regexes := literalRegexes

def pairRequest : BatchRequest where
  devices := ["r1".toList, "r2".toList, "r9".toList]
  commands := ["show version".toList]
  maxConcurrentDevices := 1
  caps := ⟨none, none, false⟩
  batchTimeout := some 60

def refusedRow : RouterResult :=
  ⟨"r2".toList, [failedOutcome ("connect failed: ".toList ++ JmcpError.cancelled.display)
    "show version".toList]⟩

/-- The second device takes the one permit and cannot be opened, then the batch times out. -/
theorem pair_cut_short : ∃ events, Reaches pairServer pairRequest events
    (some (.ok (finalResults pairServer pairRequest
      [none, some refusedRow, preflight pairServer pairRequest "r9".toList]))) := by
  have checked : executeBatchChecks pairServer pairRequest.toExecuteBatchArgs = .ok () := by decide
  let first : Task DeviceOp DeviceRes RouterResult :=
    ⟨0, runDevice "r1".toList pairRequest.commands⟩
  let second : Task DeviceOp DeviceRes RouterResult :=
    ⟨1, runDevice "r2".toList pairRequest.commands⟩
  have spawned := @JoinSet.Runs.start _ _ _ 1
    (.spawn (tasks pairServer pairRequest) (preflightResults pairServer pairRequest))
  have permitted := spawned.step (@JoinSet.Step.permit _ _ _ 1 [first] [] [] [] _ second (by decide))
  let failure : DeviceRes (.bare (.open "r2".toList)) := (.error .cancelled : Except JmcpError Unit)
  have opened := permitted.step (@JoinSet.Step.perform _ _ _ 1 [first] [] [] [] _ 1 _ _ failure)
  have returned := opened.step (@JoinSet.Step.return _ _ _ 1 [first] [] [] [] _ 1 refusedRow)
  have joined := returned.step (@JoinSet.Step.join _ _ _ 1 [first] [] [] [] _ 1 refusedRow)
  exact ⟨_, .answered checked joined (.inr rfl)⟩

theorem pair_rows_aligned : List.Forall₂ (RowOf pairRequest.commands) pairRequest.devices
    (finalResults pairServer pairRequest
      [none, some refusedRow, preflight pairServer pairRequest "r9".toList]) := by
  obtain ⟨events, reaches⟩ := pair_cut_short
  exact (batch_aligned pairServer pairRequest events _ reaches).1 _ rfl

end Batch

end JunosMcp
