import JunosMcp.Lib.Program
import JunosMcp.Srx.Errors

/-!
# The device of a workflow

A workflow opens the executor of its session and calls operations of the device through it.
-/

namespace JunosMcp.Srx

open Lib

inductive DeviceOp where
  /-- `device.rpc()`. -/
  | rpc
  | call (name : String) (args : List (Text × Text))
  | callXml (payload : String)
deriving DecidableEq

abbrev DeviceAnswer : DeviceOp → Type
  | .rpc => Except RustEzError Unit
  | .call .. | .callXml .. => Except RustEzError Text

abbrev DeviceProg (α : Type) := Prog DeviceOp DeviceAnswer (Except SrxError α)

abbrev DeviceTrace := Trace DeviceOp DeviceAnswer

def transport (error : RustEzError) : SrxError := .transport (.rustez error)

def openExecutor : DeviceProg Unit :=
  .step .rpc fun answer => .pure (answer.mapError transport)

def callRpc (name : String) (args : List (Text × Text)) : DeviceProg Text :=
  .step (.call name args) fun answer => .pure (Except.mapError transport answer)

def callXml (payload : String) : DeviceProg Text :=
  .step (.callXml payload) fun answer => .pure (Except.mapError transport answer)

theorem returns_openExecutor {trace : DeviceTrace} :
    Returns openExecutor trace (.ok ()) ↔ trace = [⟨.rpc, .ok ()⟩] := by
  constructor
  · intro returns
    obtain ⟨answer, rest, rfl, stopped⟩ := returns_step.mp returns
    obtain ⟨rfl, opened⟩ := returns_pure.mp stopped
    cases answer with
    | error error => cases opened
    | ok value => rfl
  · rintro rfl
    exact .step (.pure _)

theorem returns_callRpc {name : String} {args : List (Text × Text)} {trace : DeviceTrace}
    {reply : Text} :
    Returns (callRpc name args) trace (.ok reply) ↔ trace = [⟨.call name args, .ok reply⟩] := by
  constructor
  · intro returns
    obtain ⟨answer, rest, rfl, stopped⟩ := returns_step.mp returns
    obtain ⟨rfl, replied⟩ := returns_pure.mp stopped
    cases answer with
    | error error => cases replied
    | ok value =>
        cases replied
        rfl
  · rintro rfl
    exact .step (.pure _)

theorem returns_callXml {payload : String} {trace : DeviceTrace} {reply : Text} :
    Returns (callXml payload) trace (.ok reply) ↔ trace = [⟨.callXml payload, .ok reply⟩] := by
  constructor
  · intro returns
    obtain ⟨answer, rest, rfl, stopped⟩ := returns_step.mp returns
    obtain ⟨rfl, replied⟩ := returns_pure.mp stopped
    cases answer with
    | error error => cases replied
    | ok value =>
        cases replied
        rfl
  · rintro rfl
    exact .step (.pure _)

end JunosMcp.Srx
