import JunosMcp.Lib.Program

/-!
# Awaited calls

A call can be awaited as it is, under a timeout of its own, or in a race with cancellation and a
deadline. A call whose caller stopped waiting may or may not have had its effect.
-/

namespace JunosMcp.Lib

universe u w

inductive Activity where
  | active
  | cancelled
  | expired
  deriving DecidableEq

inductive Timed (α : Type w) where
  | completed (value : α)
  | elapsed
  deriving DecidableEq

inductive Raced (α : Type w) where
  | completed (value : α)
  | cancelled
  | elapsed
  deriving DecidableEq

inductive Await (Call : Type u) where
  | ensureActive
  | bare (call : Call)
  | timed (call : Call)
  | raced (call : Call)

namespace Await

variable {Call Call' : Type u} {Reply : Call → Type} {Reply' : Call' → Type}

def Res (Reply : Call → Type) : Await Call → Type
  | .ensureActive => Activity
  | .bare call => Reply call
  | .timed call => Timed (Reply call)
  | .raced call => Raced (Reply call)

/-- The call an await sends. -/
def sends : Await Call → Option Call
  | .ensureActive => none
  | .bare call | .timed call | .raced call => some call

/-- What a call may do to the world; `none` is a reply that nobody saw. -/
abbrev Effect (Call : Type u) (Reply : Call → Type) (σ : Type*) :=
  σ → (call : Call) → Option (Reply call) → σ → Prop

variable {σ : Type*}

/-- The world of the awaits. A race lost to cancellation may end before the call is sent. -/
def world (effect : Effect Call Reply σ) : World (Await Call) (Res Reply) σ where
  answered
    | s, .ensureActive, _, s' => s' = s
    | s, .bare call, reply, s' => effect s call (some reply) s'
    | s, .timed call, .completed reply, s' => effect s call (some reply) s'
    | s, .timed call, .elapsed, s' => effect s call none s'
    | s, .raced call, .completed reply, s' => effect s call (some reply) s'
    | s, .raced call, .cancelled, s' => effect s call none s' ∨ s' = s
    | s, .raced call, .elapsed, s' => effect s call none s'
  abandoned
    | _, .ensureActive, _ => False
    | s, .bare call, s' => effect s call none s'
    | s, .timed call, s' => effect s call none s'
    | s, .raced call, s' => effect s call none s'

/-- What an await's answer shows of the reply to the call it sent. -/
inductive Seen : (op : Await Call) → (call : Call) → Option (Res Reply op) → Option (Reply call) →
    Prop where
  | bare {call : Call} (reply : Reply call) : Seen (.bare call) call (some reply) (some reply)
  | timed {call : Call} (reply : Reply call) :
      Seen (.timed call) call (some (.completed reply)) (some reply)
  | timedOut {call : Call} : Seen (.timed call) call (some .elapsed) none
  | raced {call : Call} (reply : Reply call) :
      Seen (.raced call) call (some (.completed reply)) (some reply)
  | cancelled {call : Call} : Seen (.raced call) call (some .cancelled) none
  | racedOut {call : Call} : Seen (.raced call) call (some .elapsed) none
  | abandoned {op : Await Call} {call : Call} : op.sends = some call → Seen op call none none

theorem Seen.sends {op : Await Call} {call : Call} {answer : Option (Res Reply op)}
    {reply : Option (Reply call)} (seen : Seen op call answer reply) : op.sends = some call := by
  cases seen with
  | abandoned sends => exact sends
  | _ => rfl

theorem world_answered {effect : Effect Call Reply σ} {s s' : σ} {op : Await Call}
    {answer : Res Reply op} (here : (world effect).answered s op answer s') :
    s' = s ∨ ∃ call reply, Seen op call (some answer) reply ∧ effect s call reply s' := by
  cases op with
  | ensureActive => exact .inl here
  | bare call => exact .inr ⟨call, some answer, @Seen.bare _ Reply call answer, here⟩
  | timed call => cases answer with
      | completed reply => exact .inr ⟨call, some reply, .timed reply, here⟩
      | elapsed => exact .inr ⟨call, none, .timedOut, here⟩
  | raced call => cases answer with
      | completed reply => exact .inr ⟨call, some reply, .raced reply, here⟩
      | elapsed => exact .inr ⟨call, none, .racedOut, here⟩
      | cancelled =>
          rcases here with here | same
          · exact .inr ⟨call, none, .cancelled, here⟩
          · exact .inl same

theorem world_abandoned {effect : Effect Call Reply σ} {s s' : σ} {op : Await Call}
    (here : (world effect).abandoned s op s') :
    ∃ call, op.sends = some call ∧ effect s call none s' := by
  cases op with
  | ensureActive => exact here.elim
  | bare call => exact ⟨call, rfl, here⟩
  | timed call => exact ⟨call, rfl, here⟩
  | raced call => exact ⟨call, rfl, here⟩

def rename (name : Call → Call') : Await Call → Await Call'
  | .ensureActive => .ensureActive
  | .bare call => .bare (name call)
  | .timed call => .timed (name call)
  | .raced call => .raced (name call)

def readTimed {α β : Type} (read : α → β) : Timed α → Timed β
  | .completed value => .completed (read value)
  | .elapsed => .elapsed

def readRaced {α β : Type} (read : α → β) : Raced α → Raced β
  | .completed value => .completed (read value)
  | .cancelled => .cancelled
  | .elapsed => .elapsed

/-- The answer to a renamed await, with the reply read as the original call's. -/
def readAnswer (name : Call → Call') (read : ∀ call, Reply' (name call) → Reply call) :
    (op : Await Call) → Res Reply' (op.rename name) → Res Reply op
  | .ensureActive, answer => answer
  | .bare call, answer => read call answer
  | .timed call, answer => readTimed (read call) answer
  | .raced call, answer => readRaced (read call) answer

end Await

end JunosMcp.Lib
