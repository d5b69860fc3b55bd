import Mathlib.Data.List.AList
import JunosMcp.Json
import JunosMcp.Lib.Program
import JunosMcp.Transfer.Checks

/-!
# The confirmation store

A destructive signature-package workflow runs in two calls. The first issues a token for a plan,
the second presents the token with the plan computed again. The store keeps a digest of each
token, with the binding and a digest of the plan it was issued for. Each operation reads the clock
before it takes the lock, so the times of successive operations come in no order.
-/

namespace JunosMcp.Srx

open Transfer (Bytes Sha256 utf8Bytes)

/-- What the store takes from other crates. Times and durations are in nanoseconds. -/
structure ConfirmationCrates where
  sha256 : Bytes → Sha256
  /-- `serde_json::to_vec`. -/
  toVec : Json → Bytes
  /-- `Base64UrlUnpadded::encode_string`. -/
  encodeString : Vector UInt8 32 → Text
  /-- The wall clock with the time to live added, as RFC 3339 prints it. -/
  expiryText : Nat → Nat → Option Text

structure ConfirmationBinding where
  caller : Text
  router : Text
  deviceIdentity : Text
deriving DecidableEq

def ConfirmationBinding.new (caller : Option Text) (router deviceIdentity : Text) :
    ConfirmationBinding :=
  ⟨caller.getD "unauthenticated".toList, router, deviceIdentity⟩

inductive ConfirmationError where
  | capacity
  | invalid
  | expired
  | bindingMismatch
  | planDrift
deriving DecidableEq

structure ConfirmedPlan where
  correlationId : Text

structure ValidatedPlan where
  correlationId : Text

structure PendingConfirmation where
  binding : ConfirmationBinding
  planDigest : Sha256
  correlationId : Text
  expiresAt : Nat

abbrev Entries := AList fun _ : Sha256 => PendingConfirmation

structure ConfirmationStore where
  entries : Entries
  ttl : Nat
  capacity : Nat

def ConfirmationStore.new (ttl capacity : Nat) : ConfirmationStore := ⟨∅, ttl, capacity⟩

def defaultTtl : Nat := 5 * 60 * 10 ^ 9
def defaultCapacity : Nat := 4096

/-- The seconds of an `Instant` are an `i64`. -/
def instantLimit : Nat := 2 ^ 63 * 10 ^ 9

def checkedAdd (now ttl : Nat) : Option Nat :=
  if now + ttl < instantLimit then some (now + ttl) else none

structure Clock where
  now : Nat
  wall : Nat

/-- `entries.retain(|_, pending| pending.expires_at > now)`. -/
def retainLive (entries : Entries) (now : Nat) : Entries where
  entries := entries.entries.filter fun entry => now < entry.2.expiresAt
  nodupKeys := entries.nodupKeys.sublist List.filter_sublist

section Operations

variable (crates : ConfirmationCrates)

def digestToken (token : Text) : Sha256 := crates.sha256 (utf8Bytes token)

def digestPlan (plan : Json) : Sha256 := crates.sha256 (crates.toVec plan)

/-- The loop of `issue` over the random bytes it draws; `none` while every draw was taken. -/
def drawToken (entries : Entries) : List (Vector UInt8 32) → Option Text
  | [] => none
  | tokenBytes :: rest =>
      let token := crates.encodeString tokenBytes
      if digestToken crates token ∈ entries then drawToken entries rest else some token

def returnedPlan (members : List (Text × Json)) (token expiry correlationId : Text) : Json :=
  .object (Json.insert "correlation_id".toList (.string correlationId)
    (Json.insert "confirmation_expires_at".toList (.string expiry)
      (Json.insert "confirmation_token".toList (.string token) members)))

namespace ConfirmationStore

variable (store : ConfirmationStore)

def issue (clock : Clock) (draws : List (Vector UInt8 32)) (plan : Json)
    (binding : ConfirmationBinding) (correlationId : Text) :
    Option (ConfirmationStore × Except ConfirmationError Json) :=
  match plan with
  | .object members =>
      match checkedAdd clock.now store.ttl, crates.expiryText clock.wall store.ttl with
      | some expiresAt, some expiry =>
          let entries := retainLive store.entries clock.now
          if store.capacity ≤ entries.entries.length then
            some ({ store with entries }, .error .capacity)
          else
            (drawToken crates entries draws).map fun token =>
              ({ store with
                  entries := entries.insert (digestToken crates token)
                    ⟨binding, digestPlan crates plan, correlationId, expiresAt⟩ },
                .ok (returnedPlan members token expiry correlationId))
      | _, _ => some (store, .error .invalid)
  | _ => some (store, .error .invalid)

def remove (digest : Sha256) : ConfirmationStore :=
  { store with entries := store.entries.erase digest }

def validateBinding (now : Nat) (token : Text) (binding : ConfirmationBinding) :
    ConfirmationStore × Except ConfirmationError ValidatedPlan :=
  match store.entries.lookup (digestToken crates token) with
  | none => (store, .error .invalid)
  | some pending =>
      if pending.expiresAt ≤ now then (store.remove (digestToken crates token), .error .expired)
      else if pending.binding ≠ binding then (store, .error .bindingMismatch)
      else (store, .ok ⟨pending.correlationId⟩)

def consume (now : Nat) (token : Text) (binding : ConfirmationBinding) (currentPlan : Json) :
    ConfirmationStore × Except ConfirmationError ConfirmedPlan :=
  match store.entries.lookup (digestToken crates token) with
  | none => (store, .error .invalid)
  | some pending =>
      if pending.expiresAt ≤ now then (store.remove (digestToken crates token), .error .expired)
      else if pending.binding ≠ binding then (store, .error .bindingMismatch)
      else if pending.planDigest ≠ digestPlan crates currentPlan then
        (store.remove (digestToken crates token), .error .planDrift)
      else (store.remove (digestToken crates token), .ok ⟨pending.correlationId⟩)

end ConfirmationStore

/-! ## Calls of the store -/

inductive StoreCall where
  | issue (clock : Clock) (draws : List (Vector UInt8 32)) (plan : Json)
      (binding : ConfirmationBinding) (correlationId : Text)
  | validateBinding (now : Nat) (token : Text) (binding : ConfirmationBinding)
  | consume (now : Nat) (token : Text) (binding : ConfirmationBinding) (currentPlan : Json)

abbrev StoreCall.Answer : StoreCall → Type
  | .issue .. => Except ConfirmationError Json
  | .validateBinding .. => Except ConfirmationError ValidatedPlan
  | .consume .. => Except ConfirmationError ConfirmedPlan

def ConfirmationStore.answer (store : ConfirmationStore) :
    (call : StoreCall) → Option (ConfirmationStore × call.Answer)
  | .issue clock draws plan binding correlationId =>
      store.issue crates clock draws plan binding correlationId
  | .validateBinding now token binding => some (store.validateBinding crates now token binding)
  | .consume now token binding currentPlan =>
      some (store.consume crates now token binding currentPlan)

abbrev History := Lib.Trace StoreCall StoreCall.Answer

/-- The calls in the order in which they took the lock. -/
inductive StoreRun (start : ConfirmationStore) : History → ConfirmationStore → Prop where
  | start : StoreRun start [] start
  | step {before : History} {store after : ConfirmationStore} {call : StoreCall}
      {answer : call.Answer} :
      StoreRun start before store → store.answer crates call = some (after, answer) →
      StoreRun start (before ++ [⟨call, answer⟩]) after

end Operations

/-! ## Issued tokens -/

structure Issue where
  token : Text
  binding : ConfirmationBinding
  plan : Json
  correlationId : Text
  expiresAt : Nat

def confirmationToken : Json → Option Text
  | .object members =>
      match Json.get members "confirmation_token".toList with
      | some (.string token) => some token
      | _ => none
  | _ => none

def issueOf (ttl : Nat) : (Σ call : StoreCall, call.Answer) → Option Issue
  | ⟨.issue clock _ plan binding correlationId, .ok returned⟩ =>
      (confirmationToken returned).map fun token =>
        ⟨token, binding, plan, correlationId, clock.now + ttl⟩
  | _ => none

def issues (ttl : Nat) (events : History) : List Issue := events.filterMap (issueOf ttl)

theorem confirmationToken_returnedPlan (members : List (Text × Json))
    (token expiry correlationId : Text) :
    confirmationToken (returnedPlan members token expiry correlationId) = some token := by
  have apart : "correlation_id".toList ≠ "confirmation_token".toList := by decide
  have apart' : "confirmation_expires_at".toList ≠ "confirmation_token".toList := by decide
  rw [returnedPlan, confirmationToken, Json.get_insert_of_ne _ _ apart,
    Json.get_insert_of_ne _ _ apart', Json.get_insert_self]

end JunosMcp.Srx
