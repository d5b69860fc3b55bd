import JunosMcp.Session.PooledDevice

/-!
# A session and its device

The state of one session on both ends, and what each call may do to it. The library marks the
candidate of a session when a load or a rollback is sent, only an acknowledged commit with comment
takes the mark away, and a close of a marked session sends `<discard-changes/>` first. A call that
was not acknowledged may have been carried out all the same.
-/

namespace JunosMcp
open Lib

structure Session where
  /-- The guard still has its session. -/
  present : Bool
  reuseAllowed : Bool
  configDbOpen : Bool
  /-- The library's mark on the candidate. -/
  touched : Bool
  alive : Bool
  /-- The device holds the candidate lock for this session. -/
  locked : Bool
  /-- The candidate holds edits this session made. -/
  dirtied : Bool
  /-- The session gave the lock up and has not taken it since. -/
  released : Bool
  /-- A discard of this session was sent after it gave the lock up. -/
  lateDiscard : Bool
  deriving DecidableEq

/-- A session just connected. -/
def Session.connected : Session where
  present := true
  reuseAllowed := true
  configDbOpen := false
  touched := false
  alive := true
  locked := false
  dirtied := false
  released := false
  lateDiscard := false

/-- What the outside decides about a call: whether it was carried out, and what it left. -/
structure Choice where
  carried : Bool
  alive : Bool
  edits : Bool
  configDbOpen : Bool

namespace Session

def read (s : Session) : (op : GuardOp) → op.Value
  | .present => s.present
  | .preventReuse | .allowReuse => ()
  | .reuseAllowed => s.reuseAllowed
  | .isConfigDbOpen => s.present && s.configDbOpen
  | .touchedCandidate => s.present && s.touched
  | .sessionAlive => s.alive

def set (s : Session) : GuardOp → Session
  | .preventReuse => { s with reuseAllowed := false }
  | .allowReuse => { s with reuseAllowed := true }
  | _ => s

/-- The session after a call, given whether it was carried out. -/
def after (s : Session) (rpc : Rpc) (acked carried : Bool) (choice : Choice) : Session :=
  match rpc with
  | .config => s
  | .lock => { s with
      locked := s.locked || carried
      released := s.released && !carried
      alive := s.alive && choice.alive }
  | .unlock => { s with
      locked := s.locked && !carried
      released := s.released || (s.locked && carried)
      configDbOpen := s.configDbOpen && (!carried || choice.configDbOpen)
      alive := s.alive && choice.alive }
  | .load _ _ | .rollback (_ + 1) => { s with
      touched := true
      dirtied := if carried then choice.edits else s.dirtied
      configDbOpen := s.configDbOpen || choice.configDbOpen
      alive := s.alive && choice.alive }
  | .rollback 0 => { s with
      touched := true
      dirtied := s.dirtied && !carried
      configDbOpen := s.configDbOpen || choice.configDbOpen
      lateDiscard := s.lateDiscard || s.released
      alive := s.alive && choice.alive }
  | .commitWithComment _ => { s with
      touched := s.touched && !acked
      dirtied := s.dirtied && !carried
      alive := s.alive && choice.alive }
  | .commitConfirmed _ | .confirmedCommitXml _ => { s with
      dirtied := s.dirtied && !carried
      alive := s.alive && choice.alive }
  | .close => { s with
      present := false
      lateDiscard := s.lateDiscard || (s.touched && s.released)
      locked := s.locked && !carried
      dirtied := s.dirtied && !(carried && s.touched) }
  | .diff | .commitCheck | .candidateXml | .cli _ => { s with alive := s.alive && choice.alive }

def acked {rpc : Rpc} : Option (Except RustEzError rpc.Value) → Bool
  | some (.ok _) => true
  | _ => false

/-- The effect of a call on the session; an acknowledged call was carried out. Handing out the
configuration manager and the guard's own operations are no awaits, so nobody stops waiting. -/
def effect : Await.Effect SessionCall SessionCall.Reply Session
  | s, .guard op, reply, s' => reply = some (s.read op) ∧ s' = s.set op
  | s, .device .config, reply, s' => reply.isSome ∧ s' = s
  | s, .device rpc, reply, s' => ∃ choice : Choice,
      s' = s.after rpc (acked reply) (acked reply || choice.carried) choice

end Session

def sessionWorld : World SessionOp SessionRes Session := Await.world Session.effect

end JunosMcp
