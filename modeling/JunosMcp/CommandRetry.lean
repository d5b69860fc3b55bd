import JunosMcp.Commands

/-!
# One call, one command

`run_cli` of the device manager, with the opening of its sessions: a first error that reads as a
stale session sends the command again on a fresh one. Where the first attempt really failed is known
to the world only; the code sees the text of the error.
-/

namespace JunosMcp.CommandRetry
open Lib

/-- How far a command got when its call failed. -/
inductive FailurePoint where
  | beforeSending
  | awaitingReply
  | replied
  deriving DecidableEq

structure CliFailure where
  error : RustEzError
  point : FailurePoint
  deriving DecidableEq

inductive CliOp where
  | tryCheckout (router : Text)
  | invalidate (router : Text)
  | inventoryGet (router : Text)
  /-- One attempt to connect and log in. -/
  | connect (router : Text)
  | sleep (backoff : Duration)
  | cli (command : Text)
  | dropSession
  deriving DecidableEq

abbrev CliAnswer : CliOp → Type
  | .tryCheckout _ => Bool
  | .invalidate _ | .sleep _ | .dropSession => Unit
  | .inventoryGet _ | .connect _ => Except JmcpError Unit
  | .cli _ => Except CliFailure Text

abbrev CliProg (α : Type) := Prog CliOp CliAnswer α

abbrev CliTrace := Trace CliOp CliAnswer

def connectMaxAttempts : Nat := 3

def connectRetryBackoff : Duration := 3

/-- `retry_transient`, with this many attempts left behind the next one. -/
def retryTransient {α : Type} (backoff : Duration) (op : CliProg (Except JmcpError α)) :
    Nat → CliProg (Except JmcpError α)
  | 0 => op
  | left + 1 => op.bind fun
      | .ok value => .pure (.ok value)
      | .error error =>
          if errorIsTransient error.display then
            .step (.sleep backoff) fun _ => retryTransient backoff op left
          else .pure (.error error)

def connectAttempt (router : Text) : CliProg (Except JmcpError Unit) := .step (.connect router) .pure

def connectFresh (router : Text) : CliProg (Except JmcpError Unit) :=
  .step (.inventoryGet router) fun
    | .error error => .pure (.error error)
    | .ok _ => retryTransient connectRetryBackoff (connectAttempt router) (connectMaxAttempts - 1)

def openSession (router : Text) : CliProg (Except JmcpError Unit) :=
  .step (.tryCheckout router) fun pooled =>
    if pooled then .pure (.ok ()) else connectFresh router

def openFreshSession (router : Text) : CliProg (Except JmcpError Unit) :=
  .step (.invalidate router) fun _ => connectFresh router

/-- `run_cli`; what the guard does when it is dropped at the end is left out. -/
def runCli (router command : Text) : CliProg (Except JmcpError Text) :=
  (openSession router).andThen fun _ => .step (.cli command) fun
    | .ok output => .pure (.ok output)
    | .error failure =>
        if errorIsTransient failure.error.display then
          .step .dropSession fun _ => (openFreshSession router).andThen fun _ =>
            .step (.cli command) fun answer =>
              .pure (answer.mapError fun failure => .rustez failure.error)
        else .pure (.error (.rustez failure.error))

/-! ## What a call sent -/

def sendOf : (Σ op, CliAnswer op) → Option (Except CliFailure Text)
  | ⟨.cli _, answer⟩ => some answer
  | _ => none

/-- The answers to the commands that were sent, in order. -/
def sends (trace : CliTrace) : List (Except CliFailure Text) := trace.filterMap sendOf

/-- The error that ended the opening of a session, where it is the last thing that happened. -/
def openFailure (trace : CliTrace) : Option JmcpError :=
  match trace.getLast? with
  | some ⟨.inventoryGet _, .error error⟩ => some error
  | some ⟨.connect _, .error error⟩ => some error
  | _ => none

def CliFailure.reached (failure : CliFailure) : Prop := failure.point ≠ .beforeSending

/-- The command is sent again only behind a send that did not reach the device, and any other error
is the result. -/
structure SentOnce (trace : CliTrace) (result : Except JmcpError Text) : Prop where
  resent : ∀ first second rest, sends trace = first :: second :: rest →
    ∃ failure, first = .error failure ∧ ¬failure.reached
  reported : ∀ failure, (sends trace).head? = some (.error failure) → failure.reached →
    sends trace = [.error failure] ∧ result = .error (.rustez failure.error)

/-- A first error behind the sending does not read as a stale session, unless the session that was
to replace it fails to open with the very same error. -/
def NotTakenForStale (trace : CliTrace) : Prop :=
  ∀ failure, (sends trace).head? = some (.error failure) → failure.reached →
    errorIsTransient failure.error.display = false ∨
      openFailure trace = some (.rustez failure.error)

/-! ## Opening a session -/

def NoCli (op : CliOp) : Prop := ∀ command, op ≠ .cli command

theorem sends_append (first second : CliTrace) :
    sends (first ++ second) = sends first ++ sends second := List.filterMap_append

theorem sends_nil_of_noCli {α : Type} {p : CliProg α} {trace : CliTrace} {value : α}
    (returns : Returns p trace value) (performs : p.Performs NoCli) : sends trace = [] := by
  apply List.filterMap_eq_nil_iff.mpr
  intro event member
  obtain ⟨op, answer⟩ := event
  cases op with
  | cli command => exact absurd rfl (returns.allowed performs _ member command)
  | _ => rfl

theorem retryTransient_performs {α : Type} {backoff : Duration}
    {op : CliProg (Except JmcpError α)} (performs : op.Performs NoCli) (left : Nat) :
    (retryTransient backoff op left).Performs NoCli := by
  induction left with
  | zero => exact performs
  | succ left ih =>
      apply performs.bind
      intro result
      cases result with
      | ok value => trivial
      | error error =>
          by_cases stale : errorIsTransient error.display = true
          · simp only [stale, if_true]
            exact ⟨nofun, fun _ => ih⟩
          · simp only [stale, Bool.false_eq_true, if_false]
            trivial

theorem connectFresh_performs (router : Text) : (connectFresh router).Performs NoCli := by
  refine ⟨nofun, fun listed => ?_⟩
  cases listed with
  | error error => trivial
  | ok _ =>
      have attempt : (connectAttempt router).Performs NoCli := ⟨nofun, fun _ => trivial⟩
      exact retryTransient_performs attempt _

theorem openSession_performs (router : Text) : (openSession router).Performs NoCli := by
  refine ⟨nofun, fun pooled => ?_⟩
  cases pooled with
  | true => trivial
  | false => exact connectFresh_performs router

theorem openFreshSession_performs (router : Text) : (openFreshSession router).Performs NoCli :=
  ⟨nofun, fun _ => connectFresh_performs router⟩

theorem openFailure_append {first second : CliTrace} {error : JmcpError}
    (failed : openFailure second = some error) : openFailure (first ++ second) = some error := by
  cases second with
  | nil => cases failed
  | cons event rest =>
      rw [openFailure, List.getLast?_append_of_ne_nil _ (List.cons_ne_nil event rest)]
      exact failed

theorem openFailure_cons {event : Σ op, CliAnswer op} {trace : CliTrace} {error : JmcpError}
    (failed : openFailure trace = some error) : openFailure (event :: trace) = some error := by
  rw [← List.singleton_append]
  exact openFailure_append failed

theorem retryTransient_fails {α : Type} {backoff : Duration} {op : CliProg (Except JmcpError α)}
    (told : ∀ {trace error}, Returns op trace (.error error) → openFailure trace = some error)
    {left : Nat} {trace : CliTrace} {error : JmcpError}
    (returns : Returns (retryTransient backoff op left) trace (.error error)) :
    openFailure trace = some error := by
  induction left generalizing trace with
  | zero => exact told returns
  | succ left ih =>
      obtain ⟨first, second, attempt, rfl, here, rest⟩ := returns_bind.mp returns
      cases attempt with
      | ok value =>
          obtain ⟨_, same⟩ := returns_pure.mp rest
          cases same
      | error failure =>
          by_cases stale : errorIsTransient failure.display = true
          · simp only [stale, if_true] at rest
            obtain ⟨_, later, rfl, again⟩ := returns_step.mp rest
            exact openFailure_append (openFailure_cons (ih again))
          · simp only [stale, Bool.false_eq_true, if_false] at rest
            obtain ⟨rfl, same⟩ := returns_pure.mp rest
            cases same
            rw [List.append_nil]
            exact told here

theorem connectFresh_fails {router : Text} {trace : CliTrace} {error : JmcpError}
    (returns : Returns (connectFresh router) trace (.error error)) :
    openFailure trace = some error := by
  obtain ⟨listed, rest, rfl, looked⟩ := returns_step.mp returns
  cases listed with
  | error failure =>
      obtain ⟨rfl, same⟩ := returns_pure.mp looked
      cases same
      rfl
  | ok _ =>
      apply openFailure_cons
      refine retryTransient_fails ?_ looked
      intro trace error attempt
      obtain ⟨answer, rest, rfl, stopped⟩ := returns_step.mp attempt
      obtain ⟨rfl, same⟩ := returns_pure.mp stopped
      subst same
      rfl

/-! ## The whole call -/

/-- The commands a call sent, the error that kept a session from opening, and the result. -/
inductive CallShape :
    List (Except CliFailure Text) → Option JmcpError → Except JmcpError Text → Prop where
  | unopened (failure : Option JmcpError) (error : JmcpError) : CallShape [] failure (.error error)
  | answered (failure : Option JmcpError) (output : Text) :
      CallShape [.ok output] failure (.ok output)
  | failed (opening : Option JmcpError) (failure : CliFailure) :
      errorIsTransient failure.error.display = false →
      CallShape [.error failure] opening (.error (.rustez failure.error))
  | unreplaced (failure : CliFailure) (error : JmcpError) :
      errorIsTransient failure.error.display = true →
      CallShape [.error failure] (some error) (.error error)
  | resent (failure : CliFailure) (answer : Except CliFailure Text)
      (result : Except JmcpError Text) :
      errorIsTransient failure.error.display = true →
      CallShape [.error failure, answer] none result

theorem sends_cli (command : Text) (answer : Except CliFailure Text) (trace : CliTrace) :
    sends (⟨.cli command, answer⟩ :: trace) = answer :: sends trace := rfl

/-- The second attempt, behind a first one that read as a stale session. -/
theorem resend_shape {router command : Text} {failure : CliFailure} {before trace : CliTrace}
    {result : Except JmcpError Text} (stale : errorIsTransient failure.error.display = true)
    (alone : sends before = [.error failure])
    (returns : Returns ((openFreshSession router).andThen fun _ => .step (.cli command) fun answer =>
      .pure (answer.mapError fun failure => .rustez failure.error)) trace result) :
    CallShape (sends (before ++ trace)) (openFailure (before ++ trace)) result := by
  rcases returns_andThen.mp returns with ⟨error, failed, rfl⟩ | ⟨first, second, _, rfl, opened, rest⟩
  · have quiet := sends_nil_of_noCli failed (openFreshSession_performs router)
    obtain ⟨_, later, rfl, connected⟩ := returns_step.mp failed
    rw [sends_append, alone, quiet, openFailure_append (openFailure_cons (connectFresh_fails connected))]
    exact .unreplaced failure error stale
  · have quiet := sends_nil_of_noCli opened (openFreshSession_performs router)
    obtain ⟨answer, later, rfl, stopped⟩ := returns_step.mp rest
    obtain ⟨rfl, _⟩ := returns_pure.mp stopped
    have last : openFailure (before ++ (first ++ [⟨.cli command, answer⟩])) = none := by
      simp [openFailure, ← List.append_assoc]
    rw [last, sends_append, sends_append, alone, quiet]
    exact .resent failure answer result stale

theorem runCli_shape {router command : Text} {trace : CliTrace} {result : Except JmcpError Text}
    (returns : Returns (runCli router command) trace result) :
    CallShape (sends trace) (openFailure trace) result := by
  rcases returns_andThen.mp returns with ⟨error, failed, rfl⟩ | ⟨first, second, _, rfl, opened, rest⟩
  · rw [sends_nil_of_noCli failed (openSession_performs router)]
    exact .unopened _ error
  · have quiet := sends_nil_of_noCli opened (openSession_performs router)
    obtain ⟨answer, later, rfl, answered⟩ := returns_step.mp rest
    have sent : sends (first ++ [⟨.cli command, answer⟩]) = [answer] := by
      rw [sends_append, quiet]
      rfl
    cases answer with
    | ok output =>
        obtain ⟨rfl, rfl⟩ := returns_pure.mp answered
        rw [sent]
        exact .answered _ output
    | error failure =>
        cases stale : errorIsTransient failure.error.display with
        | true =>
            simp only [stale, if_true] at answered
            obtain ⟨_, tail, rfl, again⟩ := returns_step.mp answered
            have alone : sends (first ++ [⟨.cli command, .error failure⟩, ⟨.dropSession, ()⟩]) =
                [.error failure] := by
              rw [sends_append, quiet]
              rfl
            have shape := resend_shape stale alone again
            rwa [List.append_assoc] at shape
        | false =>
            simp only [stale, Bool.false_eq_true, if_false] at answered
            obtain ⟨rfl, rfl⟩ := returns_pure.mp answered
            rw [sent]
            exact .failed _ failure stale

/-- A command is sent once, unless its first send did not reach the device, exactly where no error
behind the sending is taken for a stale session. -/
theorem runCli_sentOnce_iff {router command : Text} {trace : CliTrace}
    {result : Except JmcpError Text} (returns : Returns (runCli router command) trace result) :
    SentOnce trace result ↔ NotTakenForStale trace := by
  have shape := runCli_shape returns
  constructor
  · intro once failure head reached
    obtain ⟨alone, same⟩ := once.reported failure head reached
    rw [alone] at shape
    generalize opening : openFailure trace = ended at shape
    cases shape with
    | failed _ _ plain => exact .inl plain
    | unreplaced _ error _ =>
        rw [Except.error.inj same]
        exact .inr rfl
  · intro plain
    rw [NotTakenForStale] at plain
    generalize sent : sends trace = commands at shape plain
    generalize openFailure trace = ended at shape plain
    cases shape with
    | unopened _ error => exact ⟨by simp [sent], by simp [sent]⟩
    | answered _ output => exact ⟨by simp [sent], by simp [sent]⟩
    | failed _ failure _ =>
        refine ⟨by simp [sent], fun other head _ => ?_⟩
        rw [sent] at head
        cases head
        exact ⟨sent, rfl⟩
    | unreplaced failure error stale =>
        refine ⟨by simp [sent], fun other head reached => ?_⟩
        rw [sent] at head
        cases head
        rcases plain failure rfl reached with settled | same
        · rw [stale] at settled
          cases settled
        · cases same
          exact ⟨sent, rfl⟩
    | resent failure answer _ stale =>
        have unreached : ¬failure.reached := by
          intro reached
          rcases plain failure rfl reached with settled | impossible
          · rw [stale] at settled
            cases settled
          · cases impossible
        refine ⟨fun first second rest same => ?_, fun other head reached => ?_⟩
        · rw [sent] at same
          cases same
          exact ⟨failure, rfl, unreached⟩
        · rw [sent] at head
          cases head
          exact absurd reached unreached

/-! ## A reboot that runs twice -/

def rebootCommand : Text := "request system reboot".toList

/-- The connection goes down while the device carries out the command. -/
def lostSession : CliFailure :=
  ⟨⟨.netconf .transport, "netconf error: transport error: connection closed".toList⟩, .awaitingReply⟩

def rebootedTwice : CliTrace :=
  [⟨.tryCheckout "r1".toList, true⟩, ⟨.cli rebootCommand, .error lostSession⟩, ⟨.dropSession, ()⟩,
   ⟨.invalidate "r1".toList, ()⟩, ⟨.inventoryGet "r1".toList, .ok ()⟩,
   ⟨.connect "r1".toList, .ok ()⟩, ⟨.cli rebootCommand, .ok []⟩]

theorem lost_session_resends :
    ¬∀ router command trace result, Returns (runCli router command) trace result →
      SentOnce trace result := by
  intro holds
  have returns : Returns (runCli "r1".toList rebootCommand) rebootedTwice (.ok []) := by
    refine .step (.step ?_)
    exact .step (.step (.step (.step (.step (.pure _)))))
  have once := holds _ _ _ _ returns
  have reached : lostSession.reached := nofun
  obtain ⟨alone, _⟩ := once.reported lostSession rfl reached
  cases alone

/-- An error of the device that names no session is reported. -/
theorem syntax_error_sentOnce :
    SentOnce [⟨.tryCheckout "r1".toList, true⟩, ⟨.cli rebootCommand, .error
      ⟨⟨.netconf (.rpc .other), "rpc-error: syntax error".toList⟩, .replied⟩⟩]
      (.error (.rustez ⟨.netconf (.rpc .other), "rpc-error: syntax error".toList⟩)) := by
  have returns : Returns (runCli "r1".toList rebootCommand) [⟨.tryCheckout "r1".toList, true⟩,
      ⟨.cli rebootCommand, .error
        ⟨⟨.netconf (.rpc .other), "rpc-error: syntax error".toList⟩, .replied⟩⟩]
      (.error (.rustez ⟨.netconf (.rpc .other), "rpc-error: syntax error".toList⟩)) :=
    .step (.step (.pure _))
  apply (runCli_sentOnce_iff returns).mpr
  intro failure head _
  cases head
  exact .inl (by decide)

end JunosMcp.CommandRetry
