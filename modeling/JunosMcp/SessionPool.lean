import JunosMcp.Session.PooledDevice
import Mathlib.Data.List.Induction
import Mathlib.Logic.Function.Basic

/-!
# The session pool over time

Which session lies in which slot since when, who holds a guard, and which sessions are closed.
-/

namespace JunosMcp

/-! ## The pool -/

structure PoolEntry where
  session : Nat
  returnedAt : Nat
  deriving DecidableEq

/-- Times are in seconds; `next` is the number of the next session. -/
structure Pool where
  clock : Nat
  slots : Text → Option PoolEntry
  guards : Nat → Option Text
  closed : Nat → Bool
  next : Nat

def poolIdleTimeout : Duration := 300

namespace Pool
variable (pool : Pool)

def expired (entry : PoolEntry) : Bool := poolIdleTimeout < pool.clock - entry.returnedAt

def close (session : Nat) : Pool := { pool with closed := Function.update pool.closed session true }

def setSlot (router : Text) (entry : Option PoolEntry) : Pool :=
  { pool with slots := Function.update pool.slots router entry }

def setGuard (session : Nat) (router : Option Text) : Pool :=
  { pool with guards := Function.update pool.guards session router }

/-- The pass of the reaper, for one slot. -/
def evictExpired (router : Text) : Pool :=
  match pool.slots router with
  | none => pool
  | some entry =>
      if pool.expired entry then (pool.setSlot router none).close entry.session else pool

def tryCheckout (router : Text) (alive : Bool) : Option Nat × Pool :=
  match pool.slots router with
  | none => (none, pool)
  | some entry =>
      if pool.expired entry || !alive then
        (none, (pool.setSlot router none).close entry.session)
      else (some entry.session, pool.setSlot router none)

/-- The session that was in the slot is closed. -/
def returnSession (router : Text) (session : Nat) (alive : Bool) : Pool :=
  if alive then
    match pool.slots router with
    | none => pool.setSlot router (some ⟨session, pool.clock⟩)
    | some old => (pool.setSlot router (some ⟨session, pool.clock⟩)).close old.session
  else pool.close session

def invalidate (router : Text) : Pool :=
  match pool.slots router with
  | none => pool
  | some entry => (pool.setSlot router none).close entry.session

def drop (session : Nat) (reuseAllowed configDbOpen touched alive : Bool) : Pool :=
  match pool.guards session with
  | none => pool
  | some router =>
      if shouldPool reuseAllowed configDbOpen touched then
        (pool.setGuard session none).returnSession router session alive
      else (pool.setGuard session none).close session

/-- `close` through a guard: of a tainted run, or of a handle that gives its lock up. -/
def closeInPlace (session : Nat) : Pool :=
  match pool.guards session with
  | none => pool
  | some _ => (pool.setGuard session none).close session

def openPooled (router : Text) (alive : Bool) : Pool :=
  match pool.tryCheckout router alive with
  | (none, rest) => rest
  | (some session, rest) => rest.setGuard session (some router)

def connectFresh (router : Text) : Pool :=
  { pool.setGuard pool.next (some router) with next := pool.next + 1 }

end Pool

inductive PoolAction where
  | wait (seconds : Nat)
  | evictExpired (router : Text)
  | openPooled (router : Text) (alive : Bool)
  | connectFresh (router : Text)
  | drop (session : Nat) (reuseAllowed configDbOpen touched alive : Bool)
  | closeInPlace (session : Nat)
  | invalidate (router : Text)

namespace Pool

def step (pool : Pool) : PoolAction → Pool
  | .wait seconds => { pool with clock := pool.clock + seconds }
  | .evictExpired router => pool.evictExpired router
  | .openPooled router alive => pool.openPooled router alive
  | .connectFresh router => pool.connectFresh router
  | .drop session reuseAllowed configDbOpen touched alive =>
      pool.drop session reuseAllowed configDbOpen touched alive
  | .closeInPlace session => pool.closeInPlace session
  | .invalidate router => pool.invalidate router

def run (pool : Pool) (history : List PoolAction) : Pool := history.foldl step pool

/-! ## What closes a session -/

/-- In the state before it, the action does not close the session: it is found in its slot in
time and alive, it is not displaced or invalidated, and whoever holds it gives it back clean. -/
def Spares (pool : Pool) (session : Nat) : PoolAction → Prop
  | .wait _ | .connectFresh _ => True
  | .evictExpired router => ∀ entry, pool.slots router = some entry → entry.session = session →
      pool.expired entry = false
  | .openPooled router alive => ∀ entry, pool.slots router = some entry →
      entry.session = session → pool.expired entry = false ∧ alive = true
  | .drop dropped reuseAllowed configDbOpen touched alive =>
      ∀ router, pool.guards dropped = some router →
        if shouldPool reuseAllowed configDbOpen touched && alive then
          ∀ old, pool.slots router = some old → old.session ≠ session
        else dropped ≠ session
  | .closeInPlace closing => pool.guards closing ≠ none → closing ≠ session
  | .invalidate router => ∀ entry, pool.slots router = some entry → entry.session ≠ session

theorem close_closed {pool : Pool} {closing session : Nat} :
    (pool.close closing).closed session = true ↔ closing = session ∨ pool.closed session = true := by
  by_cases same : session = closing
  · simp [close, same]
  · simp [close, Function.update_of_ne same, Ne.symm same]

@[simp] theorem setSlot_closed {pool : Pool} {router : Text} {entry : Option PoolEntry} :
    (pool.setSlot router entry).closed = pool.closed := rfl

@[simp] theorem setGuard_closed {pool : Pool} {session : Nat} {router : Option Text} :
    (pool.setGuard session router).closed = pool.closed := rfl

@[simp] theorem setGuard_slots {pool : Pool} {session : Nat} {router : Option Text} :
    (pool.setGuard session router).slots = pool.slots := rfl

theorem evictExpired_closed {pool : Pool} {session : Nat} {router : Text} :
    (pool.evictExpired router).closed session = true ↔
      pool.closed session = true ∨ ¬pool.Spares session (.evictExpired router) := by
  rw [evictExpired, Spares]
  cases slot : pool.slots router with
  | none => simp
  | some entry =>
      cases expired : pool.expired entry with
      | true => simp [expired, close_closed, or_comm]
      | false => simp [expired]

theorem openPooled_closed {pool : Pool} {session : Nat} {router : Text} {alive : Bool} :
    (pool.openPooled router alive).closed session = true ↔
      pool.closed session = true ∨ ¬pool.Spares session (.openPooled router alive) := by
  rw [openPooled, tryCheckout, Spares]
  cases slot : pool.slots router with
  | none => simp
  | some entry =>
      cases expired : pool.expired entry with
      | true => simp [expired, close_closed, or_comm]
      | false =>
          cases alive with
          | true => simp [expired]
          | false => simp [expired, close_closed, or_comm]

theorem returnSession_closed {pool : Pool} {session returned : Nat} {router : Text} {alive : Bool} :
    (pool.returnSession router returned alive).closed session = true ↔
      pool.closed session = true ∨
        ¬if alive then ∀ old, pool.slots router = some old → old.session ≠ session
          else returned ≠ session := by
  rw [returnSession]
  cases alive with
  | false => simp [close_closed, or_comm]
  | true =>
      cases slot : pool.slots router with
      | none => simp
      | some old => simp [close_closed, or_comm]

theorem drop_closed {pool : Pool} {session dropped : Nat}
    {reuseAllowed configDbOpen touched alive : Bool} :
    (pool.drop dropped reuseAllowed configDbOpen touched alive).closed session = true ↔
      pool.closed session = true ∨
        ¬pool.Spares session (.drop dropped reuseAllowed configDbOpen touched alive) := by
  rw [drop, Spares]
  cases guard : pool.guards dropped with
  | none => simp
  | some router =>
      cases shouldPool reuseAllowed configDbOpen touched with
      | false => simp [close_closed, or_comm]
      | true => simp [returnSession_closed]

theorem step_closed_iff {pool : Pool} {session : Nat} {action : PoolAction} :
    (pool.step action).closed session = true ↔
      pool.closed session = true ∨ ¬pool.Spares session action := by
  cases action with
  | wait seconds => simp [step, Spares]
  | connectFresh router => simp [step, Spares, connectFresh]
  | evictExpired router => exact evictExpired_closed
  | openPooled router alive => exact openPooled_closed
  | drop dropped reuseAllowed configDbOpen touched alive => exact drop_closed
  | closeInPlace closing =>
      rw [step, closeInPlace, Spares]
      cases guard : pool.guards closing with
      | none => simp
      | some router => simp [close_closed, or_comm]
  | invalidate router =>
      rw [step, invalidate, Spares]
      cases slot : pool.slots router with
      | none => simp
      | some entry => simp [close_closed, or_comm]

/-- The session is open in every state the history comes to before the deadline. -/
def OpenUntil (pool : Pool) (deadline session : Nat) (history : List PoolAction) : Prop :=
  ∀ before after, history = before ++ after → (pool.run before).clock < deadline →
    (pool.run before).closed session = false

/-- No action that ends before the deadline closes the session. -/
def SparedUntil (pool : Pool) (deadline session : Nat) (history : List PoolAction) : Prop :=
  ∀ before action after, history = before ++ action :: after →
    ((pool.run before).step action).clock < deadline → (pool.run before).Spares session action

theorem run_snoc {pool : Pool} {before : List PoolAction} {action : PoolAction} :
    pool.run (before ++ [action]) = (pool.run before).step action := by
  simp [run]

@[simp] theorem close_clock {pool : Pool} {session : Nat} :
    (pool.close session).clock = pool.clock := rfl

@[simp] theorem setSlot_clock {pool : Pool} {router : Text} {entry : Option PoolEntry} :
    (pool.setSlot router entry).clock = pool.clock := rfl

@[simp] theorem setGuard_clock {pool : Pool} {session : Nat} {router : Option Text} :
    (pool.setGuard session router).clock = pool.clock := rfl

theorem returnSession_clock {pool : Pool} {router : Text} {session : Nat} {alive : Bool} :
    (pool.returnSession router session alive).clock = pool.clock := by
  rw [returnSession]
  cases alive with
  | false => rfl
  | true => cases pool.slots router <;> rfl

theorem drop_clock {pool : Pool} {session : Nat} {reuseAllowed configDbOpen touched alive : Bool} :
    (pool.drop session reuseAllowed configDbOpen touched alive).clock = pool.clock := by
  rw [drop]
  cases pool.guards session with
  | none => rfl
  | some router =>
      cases shouldPool reuseAllowed configDbOpen touched with
      | false => rfl
      | true => exact returnSession_clock

/-- Only waiting takes time. -/
theorem clock_le_step (pool : Pool) (action : PoolAction) :
    pool.clock ≤ (pool.step action).clock := by
  cases action with
  | wait seconds => exact Nat.le_add_right _ _
  | connectFresh router => exact Nat.le_refl _
  | evictExpired router =>
      rw [step, evictExpired]
      cases pool.slots router with
      | none => exact Nat.le_refl _
      | some entry => simp only; split <;> simp
  | openPooled router alive =>
      rw [step, openPooled, tryCheckout]
      cases pool.slots router with
      | none => exact Nat.le_refl _
      | some entry => cases expired : pool.expired entry <;> cases alive <;> simp [expired]
  | drop dropped reuseAllowed configDbOpen touched alive => exact Nat.le_of_eq drop_clock.symm
  | closeInPlace closing =>
      rw [step, closeInPlace]
      cases pool.guards closing <;> simp
  | invalidate router =>
      rw [step, invalidate]
      cases pool.slots router <;> simp

theorem openUntil_iff {pool : Pool} {deadline session : Nat} {history : List PoolAction}
    (isOpen : pool.closed session = false) :
    pool.OpenUntil deadline session history ↔ pool.SparedUntil deadline session history := by
  constructor
  · intro openUntil before action after split early
    by_contra strikes
    have shut := step_closed_iff.mpr (.inr strikes)
    have still := openUntil (before ++ [action]) after (by rw [split]; simp)
      (by rwa [run_snoc])
    rw [run_snoc, shut] at still
    cases still
  · intro spared before
    induction before using List.reverseRecOn with
    | nil => exact fun _ _ _ => isOpen
    | append_singleton before action ih =>
        intro after split early
        rw [run_snoc] at early ⊢
        have here : history = before ++ action :: after := by rw [split]; simp
        have still := ih (action :: after) here (Nat.lt_of_le_of_lt (clock_le_step _ _) early)
        have spares := spared before action after here early
        rw [← Bool.not_eq_true, step_closed_iff]
        rintro (shut | strikes)
        · rw [still] at shut
          cases shut
        · exact strikes spares

theorem sparedUntil_cons {pool : Pool} {deadline session : Nat} {action : PoolAction}
    {rest : List PoolAction} :
    pool.SparedUntil deadline session (action :: rest) ↔
      ((pool.step action).clock < deadline → pool.Spares session action) ∧
        (pool.step action).SparedUntil deadline session rest := by
  constructor
  · intro spared
    refine ⟨spared [] action rest rfl, ?_⟩
    intro before next after split early
    exact spared (action :: before) next after (by rw [split]; rfl) early
  · rintro ⟨first, spared⟩ before next after split early
    cases before with
    | nil =>
        cases split
        exact first early
    | cons head before =>
        cases split
        exact spared before next after rfl early

/-- The session is with a guard for the router, and nowhere else. -/
structure Holds (pool : Pool) (session : Nat) (router : Text) : Prop where
  guard : pool.guards session = some router
  isOpen : pool.closed session = false
  out : ∀ name entry, pool.slots name = some entry → entry.session ≠ session

/-- A guard that was made reusable pools its session unless the session is unfit itself. -/
theorem Holds.drop_spares {pool : Pool} {session : Nat} {router : Text}
    (holds : pool.Holds session router) {configDbOpen touched alive : Bool} :
    pool.Spares session (.drop session true configDbOpen touched alive) ↔
      configDbOpen = false ∧ touched = false ∧ alive = true := by
  rw [Spares, holds.guard]
  have out := holds.out router
  cases configDbOpen <;> cases touched <;> cases alive <;> simp_all [shouldPool]

end Pool

end JunosMcp
