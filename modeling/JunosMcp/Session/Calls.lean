import JunosMcp.Helpers
import JunosMcp.Lib.Await

/-!
# Calls on one device session

What a tool does with the guard of a pooled session: it reads and sets the guard's own flags, and
awaits calls on the device.
-/

namespace JunosMcp
open Lib

/-- What is known on our side of the session, without a round trip. -/
inductive GuardOp where
  | present
  | preventReuse
  | allowReuse
  | reuseAllowed
  | isConfigDbOpen
  | touchedCandidate
  | sessionAlive
  deriving DecidableEq

def GuardOp.Value : GuardOp → Type
  | .preventReuse | .allowReuse => Unit
  | _ => Bool

/-- Calls of the device library. `config` hands out the configuration manager. -/
inductive Rpc where
  | config
  | lock
  | unlock
  | load (payload : ConfigPayload) (action : LoadAction)
  | rollback (version : Nat)
  | diff
  | commitCheck
  | commitWithComment (comment : Text)
  | commitConfirmed (seconds : Nat)
  | confirmedCommitXml (xml : Text)
  | candidateXml
  | cli (command : Text)
  | close
  deriving DecidableEq

def Rpc.Value : Rpc → Type
  | .diff => Option Text
  | .confirmedCommitXml _ | .candidateXml | .cli _ => Text
  | _ => Unit

inductive SessionCall where
  | guard (op : GuardOp)
  | device (rpc : Rpc)
  deriving DecidableEq

def SessionCall.Reply : SessionCall → Type
  | .guard op => op.Value
  | .device rpc => Except RustEzError rpc.Value

abbrev SessionOp := Await SessionCall

abbrev SessionRes := Await.Res SessionCall.Reply

abbrev SessionEvent := Σ op, SessionRes op

abbrev SessionTrace := Trace SessionOp SessionRes

abbrev SessionProg (α : Type) := Prog SessionOp SessionRes α

def guardOp (op : GuardOp) : SessionProg op.Value := .step (.bare (.guard op)) .pure

def call (rpc : Rpc) : SessionProg (Except RustEzError rpc.Value) :=
  .step (.bare (.device rpc)) .pure

/-- A call under the cleanup budget. -/
def callWithin (rpc : Rpc) : SessionProg (Timed (Except RustEzError rpc.Value)) :=
  .step (.timed (.device rpc)) .pure

end JunosMcp
