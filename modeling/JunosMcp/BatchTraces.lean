import JunosMcp.BatchRun

/-!
# What a batch sends

Whatever order the tasks of a batch are woven in, what was performed under one place of the device
list is a run of that device alone, and the row it is given comes of that run.
-/

namespace JunosMcp.Batch
open Lib JoinSet

/-! ## One device's trace -/

def DeviceCall.opened : DeviceCall → Option Text
  | .open router => some router
  | .session _ => none

def DeviceCall.command : DeviceCall → Option Text
  | .open _ => none
  | .session (.guard _) => none
  | .session (.device rpc) => match rpc with
      | .cli command => some command
      | _ => none

abbrev DeviceTrace := Trace DeviceOp DeviceRes

def opened (trace : DeviceTrace) : List Text :=
  trace.filterMap fun event => event.1.sends.bind DeviceCall.opened

def commanded (trace : DeviceTrace) : List Text :=
  trace.filterMap fun event => event.1.sends.bind DeviceCall.command

/-- A program of the open session. -/
def onSession {α : Type} (program : SessionProg α) : Prog DeviceOp DeviceRes α :=
  program.relabel (Await.rename DeviceCall.session)
    (Await.readAnswer DeviceCall.session fun _ reply => reply)

theorem onSession_bind {α β : Type} (p : SessionProg α) (f : α → SessionProg β) :
    onSession (p.bind f) = (onSession p).bind fun value => onSession (f value) := by
  induction p with
  | pure value => rfl
  | step op next ih =>
      have each (answer : DeviceRes (Await.rename DeviceCall.session op)) := ih
        (Await.readAnswer DeviceCall.session (fun _ reply => reply) op answer)
      exact congrArg (Prog.step _) (funext each)

theorem leads_pure {Op : Type} {Res : Op → Type} {α : Type} {value : α} {trace : Trace Op Res}
    {left : Prog Op Res α} (leads : Leads (.pure value) trace left) : trace = [] := by
  cases leads
  rfl

/-- On an open session, whatever comes behind it. -/
theorem session_commanded {commands : List Text}
    {after : List CommandOutcome → Prog DeviceOp DeviceRes RouterResult} {trace : DeviceTrace}
    {left : Prog DeviceOp DeviceRes RouterResult}
    (ends : ∀ outcomes, ∃ row, after outcomes = .pure row)
    (leads : Leads ((onSession (JunosMcp.runDevice commands)).bind after) trace left) :
    opened trace = [] ∧ commanded trace <+: commands := by
  induction commands generalizing after trace with
  | nil =>
      obtain ⟨row, stops⟩ := ends []
      have stopped : Leads (after []) trace left := leads
      rw [stops] at stopped
      rw [leads_pure stopped]
      exact ⟨rfl, List.nil_prefix⟩
  | cons command rest ih =>
      cases trace with
      | nil => exact ⟨rfl, List.nil_prefix⟩
      | cons event trace =>
          obtain ⟨op, answer⟩ := event
          obtain ⟨next, same, later⟩ := leads_cons.mp leads
          rw [JunosMcp.runDevice] at same
          cases same
          have goes : Leads ((onSession ((JunosMcp.runDevice rest).bind fun outcomes =>
              .pure (commandOutcome command (Await.readAnswer DeviceCall.session
                (fun _ reply => reply) (.timed (.device (.cli command))) answer) ::
                  outcomes))).bind after) trace left := later
          rw [onSession_bind, Prog.bind_assoc] at goes
          obtain ⟨none, sent⟩ := ih (fun outcomes => ends _) goes
          refine ⟨none, ?_⟩
          exact List.cons_prefix_cons.mpr ⟨rfl, sent⟩

theorem runDevice_commanded {router : Text} {commands : List Text} {trace : DeviceTrace}
    {left : Prog DeviceOp DeviceRes RouterResult}
    (leads : Leads (runDevice router commands) trace left) :
    opened trace <+: [router] ∧ commanded trace <+: commands := by
  cases trace with
  | nil => exact ⟨List.nil_prefix, List.nil_prefix⟩
  | cons event trace =>
      obtain ⟨op, answer⟩ := event
      obtain ⟨next, same, later⟩ := leads_cons.mp leads
      cases same
      rcases answer with error | _
      · rw [leads_pure later]
        exact ⟨List.prefix_rfl, List.nil_prefix⟩
      · obtain ⟨none, sent⟩ := session_commanded (fun _ => ⟨_, rfl⟩) later
        have front : opened (⟨.bare (.open router), .ok ()⟩ :: trace) = router :: opened trace := rfl
        rw [front, none]
        exact ⟨List.prefix_rfl, sent⟩

/-! ## The batch -/

variable {crate : PolicyCrate} {server : CommandServer crate} {request : BatchRequest}
  {events : List Event} {set : JoinSet DeviceOp DeviceRes RouterResult}

/-- What was performed is a run of a known device of the list, each command of it allowed, opened at
most once and sent its commands in order. -/
structure OnDevice (server : CommandServer crate) (request : BatchRequest) (i : Nat)
    (trace : DeviceTrace) (device : Text) : Prop where
  listed : request.devices[i]? = some device
  known : server.knows device = true
  allowed : ∀ command ∈ request.commands, server.policy.checkCommand device command = .allow
  run : ∃ left, Leads (runDevice device request.commands) trace left
  opens : opened trace <+: [device]
  commands : commanded trace <+: request.commands

def processedRow (server : CommandServer crate) (request : BatchRequest) (row : RouterResult) :
    RouterResult :=
  { row with commands := row.commands.map (CommandOutcome.process server.regexes request.caps) }

def timeoutRow (request : BatchRequest) (device : Text) : RouterResult :=
  ⟨device, request.commands.map (failedOutcome "batch timeout".toList)⟩

/-- The row of a device, from its own run or from none that ended. -/
inductive RowFrom (server : CommandServer crate) (request : BatchRequest) (trace : DeviceTrace)
    (device : Text) : RouterResult → Prop where
  | answered {row : RouterResult} : Returns (runDevice device request.commands) trace row →
      RowFrom server request trace device (processedRow server request row)
  | timedOut : RowFrom server request trace device
      (processedRow server request (timeoutRow request device))

theorem tasks_distinct : ((tasks server request).map Task.index).Nodup := by
  have indices : (tasks server request).map Task.index =
      (request.devices.zipIdx.filter fun entry => server.knows entry.1).map Prod.snd := by
    rw [tasks, List.map_map]
    rfl
  rw [indices]
  have fewer : ((request.devices.zipIdx.filter fun entry => server.knows entry.1).map
      Prod.snd).Sublist (request.devices.zipIdx.map Prod.snd) := List.filter_sublist.map Prod.snd
  apply fewer.nodup
  rw [List.zipIdx_map_snd]
  exact List.nodup_range'

theorem collected_from (checked : executeBatchChecks server request.toExecuteBatchArgs = .ok ())
    (runs : JoinSet.Runs request.maxConcurrentDevices
      (.spawn (tasks server request) (preflightResults server request)) events set)
    {i : Nat} (some : traceOf i events ≠ []) :
    ∃ device, OnDevice server request i (traceOf i events) device := by
  obtain ⟨program, left, spawned, leads⟩ := (runs.traced tasks_distinct).started i some
  obtain ⟨device, listed, known, rfl⟩ := task_iff.mp spawned
  obtain ⟨opens, commands⟩ := runDevice_commanded leads
  have allowed := (checks_ok checked).2 device (List.mem_of_getElem? listed) known
  exact ⟨device, listed, known, allowed, ⟨left, leads⟩, opens, commands⟩

theorem row_from (runs : JoinSet.Runs request.maxConcurrentDevices
      (.spawn (tasks server request) (preflightResults server request)) events set)
    {i : Nat} {device : Text} (listed : request.devices[i]? = some device)
    (known : server.knows device = true) :
    RowFrom server request (traceOf i events) device
      (finalRow server request set.results i device) := by
  rw [finalRow]
  cases found : set.results[i]?.getD none with
  | none => exact .timedOut
  | some row =>
      have collected : set.results[i]? = some (some row) := by
        cases entry : set.results[i]? with
        | none => rw [entry] at found; cases found
        | some inner => rw [entry] at found; rw [← found]; rfl
      rcases (runs.traced tasks_distinct).results i row collected with early | ⟨_, program, own⟩
      · rw [preflightResults_at listed, preflight, if_pos known] at early
        cases early
      · obtain ⟨device', here, _, rfl⟩ := task_iff.mp own.1
        rw [listed] at here
        cases here
        exact .answered own.2

/-- At any time no more devices are worked on than were asked for; what was performed for a place of
the list is a run of its device alone, known and allowed; and the row of a device comes of that
run. -/
theorem batch_traces {answer : Option (Except JmcpError (List RouterResult))}
    (reaches : Reaches server request events answer) :
    events.countP takesPermit ≤ events.countP givesPermitBack + request.maxConcurrentDevices ∧
    (∀ i, traceOf i events ≠ [] →
      ∃ device, OnDevice server request i (traceOf i events) device) ∧
    ∀ rows, answer = some (.ok rows) → ∀ i device, request.devices[i]? = some device →
      server.knows device = true →
        ∃ row, rows[i]? = some row ∧ RowFrom server request (traceOf i events) device row := by
  have capped {set : JoinSet DeviceOp DeviceRes RouterResult}
      (runs : JoinSet.Runs request.maxConcurrentDevices
        (.spawn (tasks server request) (preflightResults server request)) events set) :
      events.countP takesPermit ≤
        events.countP givesPermitBack + request.maxConcurrentDevices := by
    rw [runs.permits_taken rfl]
    exact Nat.add_le_add_left (running_capped runs) _
  cases reaches with
  | refused _ => exact ⟨Nat.zero_le _, fun i some => absurd rfl some, fun rows same => by cases same⟩
  | collecting checked runs =>
      exact ⟨capped runs, fun i some => collected_from checked runs some,
        fun rows same => by cases same⟩
  | @answered _ set checked runs _ =>
      refine ⟨capped runs, fun i some => collected_from checked runs some, ?_⟩
      intro rows same i device listed known
      cases same
      refine ⟨finalRow server request set.results i device, ?_, row_from runs listed known⟩
      rw [finalResults, List.getElem?_mapIdx, listed, Option.map_some]

theorem pair_row_traced : ∃ events row, (finalResults pairServer pairRequest
      [none, some refusedRow, preflight pairServer pairRequest "r9".toList])[1]? = some row ∧
    RowFrom pairServer pairRequest (traceOf 1 events) "r2".toList row := by
  obtain ⟨events, reaches⟩ := pair_cut_short
  obtain ⟨row, shown, own⟩ := (batch_traces reaches).2.2 _ rfl 1 "r2".toList rfl (by decide)
  exact ⟨events, row, shown, own⟩

end JunosMcp.Batch
