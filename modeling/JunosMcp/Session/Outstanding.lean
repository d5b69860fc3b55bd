import JunosMcp.Commands
import JunosMcp.Session.Rules

/-!
# Requests and their replies

The requests of a session are numbered as they are sent. A call gets the reply to one of the
requests that are outstanding; which one is up to the device library.
-/

namespace JunosMcp
open Lib

structure Line where
  /-- The device's replies, by the number of the request. -/
  answers : Nat → Text
  sent : Nat
  outstanding : List Nat
  /-- A request was sent while the reply to another was outstanding. -/
  overlapped : Bool
  /-- The outputs that were reported, with the requests they were reported for. -/
  reported : List (Nat × Text)

def Line.connected (answers : Nat → Text) : Line where
  answers := answers
  sent := 0
  outstanding := []
  overlapped := false
  reported := []

def Line.send (line : Line) : Line := { line with
  sent := line.sent + 1
  outstanding := line.sent :: line.outstanding
  overlapped := line.overlapped || !line.outstanding.isEmpty }

def Line.settle (line : Line) (request : Nat) : Line :=
  { line with outstanding := line.outstanding.erase request }

def Line.report (line : Line) (request : Nat) (output : Text) : Line :=
  { line with reported := (request, output) :: line.reported }

/-- What a command call does to the line; `none` is a call nobody waited for. -/
inductive Line.Runs (line : Line) : Option (Except RustEzError Text) → Line → Prop where
  | answered {request : Nat} : request ∈ line.send.outstanding →
      line.Runs (some (.ok (line.answers request)))
        ((line.send.settle request).report line.sent (line.answers request))
  | refused {request : Nat} (error : RustEzError) : request ∈ line.send.outstanding →
      line.Runs (some (.error error)) (line.send.settle request)
  | unanswered (error : RustEzError) : line.Runs (some (.error error)) line.send
  | dropped : line.Runs none line.send
  | unsent (error : RustEzError) : line.Runs (some (.error error)) line
  | unpolled : line.Runs none line

/-- A session and the requests on it. -/
abbrev LineState := Session × Line

/-- A dead session sends nothing any more. -/
def lineEffect : Await.Effect SessionCall SessionCall.Reply LineState
  | (s, line), .device (.cli command), reply, (s', line') =>
      Session.effect s (.device (.cli command)) reply s' ∧ line.Runs reply line' ∧
        (s.alive = false → line' = line)
  | (s, line), called, reply, (s', line') => Session.effect s called reply s' ∧ line' = line

def lineWorld : World SessionOp SessionRes LineState := Await.world lineEffect

/-- `open`, and the line of a new connection. -/
inductive LineOpens : Place → LineState → LineState → Prop where
  | connect {state : LineState} (answers : Nat → Text) :
      LineOpens .fresh state (Session.connected, .connected answers)
  | checkout {s s' : Session} {line : Line} :
      Opens .pooled s s' → LineOpens .pooled (s, line) (s', line)

inductive LineStarts : Place → SessionProg Place → SessionProg Place → LineState → LineState → Prop
    where
  | opened {place : Place} {program : SessionProg Place} {state state' : LineState} :
      CommandCall place program → LineOpens place state state' →
      LineStarts place program dropGuard state state'
  | evict {state : LineState} : LineStarts .pooled closeSession (.pure .closed) state state

/-- The sessions of a server that runs commands. -/
def commandSessions : Lending SessionOp SessionRes Place LineState := ⟨lineWorld, LineStarts⟩

abbrev LineSlot := Slot SessionOp SessionRes Place × LineState

def noLines (_ : Nat) : LineSlot := (.resting .fresh, Session.connected, .connected fun _ => [])

/-! ## Calls that end without their reply -/

/-- A command call that ends without an output leaves no request outstanding, or ends the session. -/
def LinePromise (_ : LineState) (op : SessionOp) (answer : Option (SessionRes op))
    (state' : LineState) : Prop :=
  ∀ command reply, Await.Seen op (.device (.cli command)) answer reply →
    (∀ output, reply ≠ some (.ok output)) → state'.1.alive = true → state'.2.outstanding = []

/-- No request overtook another, and every reported output is the reply to its own request. -/
structure InStep (line : Line) : Prop where
  apart : line.overlapped = false
  own : ∀ report ∈ line.reported, report.2 = line.answers report.1

/-- In step, and a live session has nothing outstanding. -/
structure Idle (state : LineState) : Prop where
  inStep : InStep state.2
  quiet : state.1.alive = true → state.2.outstanding = []

theorem alive_after {s : Session} {rpc : Rpc} {acked carried : Bool} {choice : Choice}
    (alive : (s.after rpc acked carried choice).alive = true) : s.alive = true := by
  cases rpc with
  | rollback version => cases version <;> exact (Bool.and_eq_true_iff.mp alive).1
  | config => exact alive
  | close => exact alive
  | _ => exact (Bool.and_eq_true_iff.mp alive).1

/-- A dead session stays dead. -/
theorem effect_alive {s s' : Session} {called : SessionCall} {reply : Option called.Reply}
    (here : Session.effect s called reply s') (alive : s'.alive = true) : s.alive = true := by
  cases called with
  | guard op =>
      obtain ⟨_, rfl⟩ := here
      cases op <;> exact alive
  | device rpc =>
      have moved : s.Moved (fun _ => True) s' := .of_effect trivial here
      cases moved with
      | still => exact alive
      | call choice _ _ => exact alive_after alive

theorem lineEffect_other {state state' : LineState} {called : SessionCall}
    (other : ∀ command, called ≠ .device (.cli command)) {reply : Option called.Reply} :
    lineEffect state called reply state' ↔
      Session.effect state.1 called reply state'.1 ∧ state'.2 = state.2 := by
  cases called with
  | guard op => exact Iff.rfl
  | device rpc => cases rpc with
      | cli command => exact absurd rfl (other command)
      | _ => exact Iff.rfl

theorem Idle.other {state state' : LineState} (idle : Idle state) {called : SessionCall}
    (other : ∀ command, called ≠ .device (.cli command)) {reply : Option called.Reply}
    (here : lineEffect state called reply state') : Idle state' := by
  obtain ⟨moved, same⟩ := (lineEffect_other other).mp here
  refine ⟨same ▸ idle.inStep, fun alive => ?_⟩
  rw [same]
  exact idle.quiet (effect_alive moved alive)

/-- With nothing outstanding, only the request just sent can be answered. -/
theorem own_request {line : Line} (quiet : line.outstanding = []) {request : Nat}
    (answered : request ∈ line.send.outstanding) : request = line.sent := by
  simpa [Line.send, quiet] using answered

theorem send_inStep {line : Line} (inStep : InStep line) (quiet : line.outstanding = []) :
    InStep line.send :=
  ⟨by simp [Line.send, quiet, inStep.apart], inStep.own⟩

theorem settled_quiet {line : Line} (quiet : line.outstanding = []) :
    (line.send.settle line.sent).outstanding = [] := by
  simp [Line.settle, Line.send, quiet]

/-- The step of a command call: an output comes from its own request, and a call without one is
covered by what it leaves. -/
theorem Idle.cli {state state' : LineState} (idle : Idle state) {command : Text}
    {reply : Option (Except RustEzError Text)}
    (here : lineEffect state (.device (.cli command)) reply state')
    (kept : (∀ output, reply ≠ some (.ok output)) → state'.1.alive = true →
      state'.2.outstanding = []) : Idle state' := by
  obtain ⟨s, line⟩ := state
  obtain ⟨s', line'⟩ := state'
  obtain ⟨moved, runs, dead⟩ := here
  cases alive : s.alive with
  | false =>
      rw [dead alive]
      refine ⟨idle.inStep, fun later => ?_⟩
      rw [effect_alive moved later] at alive
      cases alive
  | true =>
      have quiet : line.outstanding = [] := idle.quiet alive
      have sent := send_inStep idle.inStep quiet
      cases runs with
      | answered answered =>
          obtain rfl := own_request quiet answered
          refine ⟨⟨sent.apart, fun report reported => ?_⟩, fun _ => settled_quiet quiet⟩
          rcases List.mem_cons.mp reported with rfl | earlier
          · rfl
          · exact sent.own report earlier
      | refused error answered =>
          obtain rfl := own_request quiet answered
          exact ⟨⟨sent.apart, sent.own⟩, fun _ => settled_quiet quiet⟩
      | unanswered error => exact ⟨sent, kept nofun⟩
      | dropped => exact ⟨sent, kept nofun⟩
      | unsent error => exact ⟨idle.inStep, kept nofun⟩
      | unpolled => exact ⟨idle.inStep, kept nofun⟩

abbrev promptWorld : World SessionOp SessionRes LineState := lineWorld.restrict LinePromise

theorem Idle.effect {state state' : LineState} (idle : Idle state) {called : SessionCall}
    {reply : Option called.Reply} (here : lineEffect state called reply state')
    {op : SessionOp} {answer : Option (SessionRes op)} (seen : Await.Seen op called answer reply)
    (kept : LinePromise state op answer state') : Idle state' := by
  by_cases cli : ∃ command, called = .device (.cli command)
  · obtain ⟨command, rfl⟩ := cli
    exact idle.cli here (kept command reply seen)
  · exact idle.other (not_exists.mp cli) here

theorem Idle.answered {state state' : LineState} (idle : Idle state) {op : SessionOp}
    {answer : SessionRes op} (here : promptWorld.answered state op answer state') :
    Idle state' := by
  obtain ⟨here, kept⟩ := here
  rcases Await.world_answered here with rfl | ⟨called, reply, seen, here⟩
  · exact idle
  · exact idle.effect here seen kept

theorem Idle.abandoned {state state' : LineState} (idle : Idle state) {op : SessionOp}
    (here : promptWorld.abandoned state op state') : Idle state' := by
  obtain ⟨here, kept⟩ := here
  obtain ⟨called, sends, here⟩ := Await.world_abandoned here
  exact idle.effect here (.abandoned sends) kept

/-! ## The sessions of a server -/

theorem program_idle {α : Type} {state : LineState} (idle : Idle state) (program : SessionProg α) :
    wp promptWorld ⟨fun state => InStep state.2, Idle⟩ program (fun _ => Idle) state := by
  refine wp_invariant program.performs_any idle ?_ ?_
  · intro state op answer state' _ idle here
    exact ⟨(idle.answered here).inStep, idle.answered here⟩
  · intro state op state' _ idle here
    exact ⟨(idle.abandoned here).inStep, idle.abandoned here⟩

theorem LineOpens.idle {place : Place} {state state' : LineState}
    (opens : LineOpens place state state') (idle : Idle state) : Idle state' := by
  cases opens with
  | connect answers => exact ⟨⟨rfl, nofun⟩, fun _ => rfl⟩
  | checkout opens =>
      cases opens with
      | checkout alive => exact ⟨idle.inStep, idle.quiet⟩

abbrev promptSessions : Lending SessionOp SessionRes Place LineState :=
  commandSessions.restrict LinePromise

theorem prompt_discipline :
    promptSessions.Discipline (fun _ => Idle) fun state => InStep state.2 where
  rest := Idle.inStep
  starts := by
    intro place program onCut state state' idle starts
    have idle' : Idle state' := by
      cases starts with
      | opened call opens => exact opens.idle idle
      | evict => exact idle
    exact ⟨idle'.inStep, Idle, program_idle idle' program, fun _ cut => program_idle cut onCut⟩

/-- No command is sent while a reply is outstanding, and every output is the reply to its own
request, in every run in which no call leaves a live session with a request outstanding. -/
theorem commands_in_step {state : Nat → LineSlot}
    (reached : promptSessions.Reachable noLines state) (id : Nat) : InStep (state id).2.2 := by
  have fresh : ∀ id, promptSessions.SlotInvariant (fun _ => Idle) (fun state => InStep state.2)
      (noLines id) := fun _ => ⟨⟨rfl, nofun⟩, fun _ => rfl⟩
  exact (Lending.SlotInvariant.reachable prompt_discipline fresh reached id).safe prompt_discipline

/-! ## Two calls on one session -/

/-- The drop of a guard whose session goes back to the pool. -/
def poolingTrace : SessionTrace :=
  [⟨.bare (.guard .present), true⟩,
   ⟨.bare (.guard .reuseAllowed), true⟩,
   ⟨.bare (.guard .isConfigDbOpen), false⟩,
   ⟨.bare (.guard .touchedCandidate), false⟩,
   ⟨.bare (.guard .sessionAlive), true⟩]

theorem pooling_returns : Returns dropGuard poolingTrace .pooled :=
  .step (.step (.step (.step (.step (.pure _)))))

theorem follows_guard {s : Session} {line : Line} {op : GuardOp} {trace : SessionTrace}
    {last : LineState} (rest : Follows promptWorld (s.set op, line) trace last) :
    Follows promptWorld (s, line) (⟨.bare (.guard op), s.read op⟩ :: trace) last :=
  .step ⟨⟨⟨rfl, rfl⟩, rfl⟩, fun _ _ seen => nomatch seen.sends⟩ rest

theorem pooling_follows (line : Line) :
    Follows promptWorld (Session.connected, line) poolingTrace (Session.connected, line) :=
  follows_guard (follows_guard (follows_guard (follows_guard (follows_guard (.refl _)))))

theorem answered_returns (command output : Text) :
    Returns (thenDo (runCli command) dropGuard)
      (⟨.bare (.device (.cli command)), (.ok output : Except RustEzError Text)⟩ :: poolingTrace)
      .pooled :=
  .step pooling_returns

/-- The device's replies to a first and any later request. -/
def firstAndLater : Nat → Text
  | 0 => "first".toList
  | _ => "later".toList

/-- The line after one request whose caller stopped waiting. -/
def abandonedLine : Line := (Line.connected firstAndLater).send

/-- And after a second request that was handed the reply to the first. -/
def crossedLine : Line :=
  (abandonedLine.send.settle 0).report abandonedLine.sent (abandonedLine.answers 0)

/-- A command that timed out leaves its request outstanding on a session in the pool, and the next
command gets its reply. -/
theorem timed_out_command_crosses :
    ¬∀ state : Nat → LineSlot, commandSessions.Reachable noLines state →
      ∀ id, InStep (state id).2.2 := by
  intro holds
  have opened : commandSessions.Step (noLines 0)
      (.busy (thenDo (runCli "show version".toList) dropGuard) dropGuard,
        Session.connected, .connected firstAndLater) :=
    .start (.opened (.execute .fresh _) (.connect _))
  have cut : commandSessions.Step
      (.busy (thenDo (runCli "show version".toList) dropGuard) dropGuard,
        Session.connected, .connected firstAndLater)
      (.busy dropGuard dropGuard, Session.connected, abandonedLine) :=
    .cut ⟨⟨⟨true, true, false, false⟩, rfl⟩, .dropped, nofun⟩
  have pooled : Relation.ReflTransGen commandSessions.Step
      (.busy dropGuard dropGuard, Session.connected, abandonedLine)
      (.resting .pooled, Session.connected, abandonedLine) :=
    Lending.run_slot pooling_returns (pooling_follows abandonedLine).of_restrict
  have reopened : commandSessions.Step (.resting .pooled, Session.connected, abandonedLine)
      (.busy (thenDo (runCli "show interfaces".toList) dropGuard) dropGuard,
        Session.connected, abandonedLine) :=
    .start (.opened (.execute .pooled _) (.checkout (.checkout rfl)))
  have first : lineWorld.answered (Session.connected, abandonedLine)
      (.bare (.device (.cli "show interfaces".toList)))
      (.ok (abandonedLine.answers 0) : Except RustEzError Text) (Session.connected, crossedLine) :=
    ⟨⟨⟨true, true, false, false⟩, rfl⟩, .answered (List.mem_cons_of_mem _ List.mem_cons_self),
      nofun⟩
  have crossed : Relation.ReflTransGen commandSessions.Step
      (.busy (thenDo (runCli "show interfaces".toList) dropGuard) dropGuard,
        Session.connected, abandonedLine)
      (.resting .pooled, Session.connected, crossedLine) :=
    Lending.run_slot (answered_returns _ _)
      (.step first (pooling_follows crossedLine).of_restrict)
  have inStep := holds _ (Lending.reachable_of_slot
    (((pooled.head cut).head opened).trans (.head reopened crossed))) 0
  have apart := inStep.apart
  simp [crossedLine, abandonedLine, Line.report, Line.settle, Line.send, Line.connected] at apart

/-- The line after a request and its reply. -/
def answeredLine : Line :=
  ((Line.connected firstAndLater).send.settle 0).report 0 (firstAndLater 0)

/-- A command that got its reply goes back to the pool in step. -/
theorem answered_command_in_step :
    InStep (Function.update noLines 0
      (.resting .pooled, Session.connected, answeredLine) 0).2.2 := by
  refine commands_in_step ?_ 0
  have opened : promptSessions.Step (noLines 0)
      (.busy (thenDo (runCli "show version".toList) dropGuard) dropGuard,
        Session.connected, .connected firstAndLater) :=
    .start (.opened (.execute .fresh _) (.connect _))
  have own : promptWorld.answered (Session.connected, .connected firstAndLater)
      (.bare (.device (.cli "show version".toList)))
      (.ok (firstAndLater 0) : Except RustEzError Text) (Session.connected, answeredLine) := by
    refine ⟨⟨⟨⟨true, true, false, false⟩, rfl⟩, .answered List.mem_cons_self, nofun⟩, ?_⟩
    intro command reply seen other
    cases seen
    exact absurd rfl (other _)
  exact Lending.reachable_of_slot (.head opened
    (Lending.run_slot (answered_returns _ _) (.step own (pooling_follows answeredLine))))

end JunosMcp
