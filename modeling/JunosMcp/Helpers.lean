import JunosMcp.Errors

/-!
# Arguments of a configuration load

What callers may ask for, and the wire action it becomes.
-/

namespace JunosMcp

inductive ConfigPayload where
  | set (text : Text)
  | text (text : Text)
  | xml (text : Text)
  deriving DecidableEq

inductive LoadAction where
  | merge
  | replace
  | override
  | set
  | update
  deriving DecidableEq

def buildConfigPayload (text : Text) (format : Option Text) : Except JmcpError ConfigPayload :=
  let format := format.getD "set".toList
  if format == "set".toList then .ok (.set text)
  else if format == "text".toList then .ok (.text text)
  else if format == "xml".toList then .ok (.xml text)
  else .error (.badFormat format)

def parseLoadMode (mode : Option Text) : Except JmcpError LoadAction :=
  let mode := mode.getD "merge".toList
  if mode == "merge".toList then .ok .merge
  else if mode == "replace".toList then .ok .replace
  else if mode == "override".toList then .ok .override
  else .error (.badLoadMode mode)

/-- Set commands have a wire action of their own, and no override. -/
def resolveLoadAction (format : Text) (mode : LoadAction) : Except JmcpError LoadAction :=
  if format == "set".toList then
    if mode = .override then .error (.incompatibleFormatMode format "override".toList)
    else .ok .set
  else .ok mode

def refuseOverrideOutsideChangeset (tool : Text) (mode : LoadAction) : Except JmcpError Unit :=
  if mode = .override then .error (.overrideRequiresChangeSet tool) else .ok ()

def LoadAction.asStr : LoadAction → Text
  | .merge => "merge".toList
  | .replace => "replace".toList
  | .override => "override".toList
  | .set => "set".toList
  | .update => "update".toList

def excerptWithin : Nat → Text → Text
  | _, [] => []
  | budget, c :: rest =>
      if c.utf8Size ≤ budget then c :: excerptWithin (budget - c.utf8Size) rest else []

/-- At most 120 bytes, cut on a character boundary. -/
def excerpt (text : Text) : Text := excerptWithin 120 text

/-! ## Confirm windows -/

inductive ConfirmDecision where
  | confirmed (mins : Nat)
  | optedOut
  deriving DecidableEq

def resolveConfirmTimeout (defaultMins : Nat) : Option Nat → ConfirmDecision
  | none => .confirmed defaultMins
  | some 0 => .optedOut
  | some mins => .confirmed mins

/-- Minutes to seconds within a `u32`. -/
def confirmTimeoutToSecs (mins : Nat) : Except JmcpError Nat :=
  if mins = 0 then .error (.validation "confirm_timeout_mins must be >= 1".toList)
  else if mins * 60 < 2 ^ 32 then .ok (mins * 60)
  else .error (.validation
    "confirm_timeout_mins too large (overflow when converting to seconds)".toList)

/-- The deadline of a window opened right now, saturating at a `u64`. -/
def rollbackDeadlineUnix (now mins : Nat) : Nat :=
  min (now + min (mins * 60) (2 ^ 64 - 1)) (2 ^ 64 - 1)

/-! ## Rollback archives -/

def validateRollbackVersion (version : Int) : Except JmcpError Nat :=
  if 0 ≤ version ∧ version ≤ 49 then .ok version.toNat else .error (.badRollbackVersion version)

end JunosMcp
