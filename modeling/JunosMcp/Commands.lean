import JunosMcp.Session.System

/-!
# Commands on a pooled session

What `execute_junos_command`, the PFE call and the batch do with the session they opened. The
outer timeout of a call and the batch timeout drop the whole call at one of its awaits.
-/

namespace JunosMcp
open Lib

/-- Wordings of a stale session or a connect blip. -/
def transientNeedles : List Text :=
  ["session expired".toList, "keepalive probe failed".toList, "connection closed".toList,
   "connection reset".toList, "connection refused".toList, "connection failed".toList,
   "broken pipe".toList, "unexpected eof".toList, "early eof".toList, "channel closed".toList,
   "session closed".toList, "no route to host".toList, "transport error".toList]

def errorIsTransient (err : Text) : Bool :=
  transientNeedles.any fun needle => Text.contains (asciiLowercase err) needle

/-- What the first attempt of `run_cli` comes to. -/
inductive CliAttempt where
  | output (text : Text)
  | stale
  | failed (error : JmcpError)
  deriving DecidableEq

/-- `run_cli` on the session `open` gave; a stale one calls for a second attempt. -/
def runCli (command : Text) : SessionProg CliAttempt := do
  match ← call (.cli command) with
  | .ok output => return .output output
  | .error error =>
      if errorIsTransient error.display then return .stale
      else return .failed (.rustez error)

/-- The second attempt, on the session of `open_fresh`, and the only one of a PFE command. -/
def runOnce (command : Text) : SessionProg (Except JmcpError Text) := do
  match ← call (.cli command) with
  | .ok output => return .ok output
  | .error error => return .error (.rustez error)

def pfeWrapper (fpcTarget pfeCommand : Text) : Text :=
  "request pfe execute target ".toList ++ fpcTarget ++ " command \"".toList ++ pfeCommand ++
    "\"".toList

structure CommandOutcome where
  command : Text
  ok : Bool
  value : Option Text
  error : Option Text
  deriving DecidableEq

def commandOutcome (command : Text) : Timed (Except RustEzError Text) → CommandOutcome
  | .completed (.ok output) => ⟨command, true, some output, none⟩
  | .completed (.error error) =>
      ⟨command, false, none, some ("transport error: ".toList ++ (JmcpError.rustez error).display)⟩
  | .elapsed => ⟨command, false, none, some "command timeout".toList⟩

/-- `run_device` on an open session: a command that timed out does not end the loop. -/
def runDevice : List Text → SessionProg (List CommandOutcome)
  | [] => return []
  | command :: rest => do
      let reply ← callWithin (.cli command)
      let outcomes ← runDevice rest
      return commandOutcome command reply :: outcomes

/-- The commands, by the session they start on. -/
inductive CommandCall : Place → SessionProg Place → Prop where
  | execute (place : Place) (command : Text) :
      CommandCall place (thenDo (runCli command) dropGuard)
  | retry (command : Text) : CommandCall .fresh (thenDo (runOnce command) dropGuard)
  | pfe (place : Place) (fpcTarget pfeCommand : Text) :
      CommandCall place (thenDo (runOnce (pfeWrapper fpcTarget pfeCommand)) dropGuard)
  | batch (place : Place) (commands : List Text) :
      CommandCall place (thenDo (runDevice commands) dropGuard)

end JunosMcp
