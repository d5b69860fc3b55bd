import JunosMcp.Text

/-!
# The rollback duration of an open commit-confirmed window

`parseRollbackDuration` is a scan over the characters of one token. It accepts the compact
durations: groups of digits, each closed by `m` or `s`, of at most `u64Max` seconds in total.
-/

namespace JunosMcp.Upgrade

def u64Max : Nat := 2 ^ 64 - 1

def checked (n : Nat) : Option Nat := if n ≤ u64Max then some n else none

theorem checked_eq_some {n m : Nat} : checked n = some m ↔ n ≤ u64Max ∧ n = m := by
  simp [checked]

/-! ## The scan -/

/-- The locals of the loop of `parse_rollback_duration`. -/
structure DurationScan where
  totalSecs : Nat
  num : Nat
  haveNum : Bool

def DurationScan.start : DurationScan := ⟨0, 0, false⟩

/-- `char::to_digit(10)`. -/
def toDigit (c : Char) : Option Nat := if c.isDigit then some (c.toNat - '0'.toNat) else none

def DurationScan.closeGroup (scan : DurationScan) (secondsPerUnit : Nat) : Option DurationScan :=
  if scan.haveNum then do
    let group ← checked (scan.num * secondsPerUnit)
    let totalSecs ← checked (scan.totalSecs + group)
    some ⟨totalSecs, 0, false⟩
  else none

def DurationScan.next (scan : DurationScan) (c : Char) : Option DurationScan :=
  match toDigit c with
  | some d => do
      let shifted ← checked (scan.num * 10)
      let num ← checked (shifted + d)
      some { scan with num, haveNum := true }
  | none =>
      if c = 'm' then scan.closeGroup 60
      else if c = 's' then scan.closeGroup 1
      else none

def DurationScan.finish (scan : DurationScan) : Option Nat :=
  if scan.haveNum then none else some scan.totalSecs

def parseRollbackDuration (token : Text) : Option Nat :=
  (token.foldlM DurationScan.next .start).bind DurationScan.finish

/-! ## Compact durations -/

inductive DurationUnit where
  | minutes
  | seconds
  deriving DecidableEq

def DurationUnit.suffix : DurationUnit → Char
  | .minutes => 'm'
  | .seconds => 's'

def DurationUnit.inSeconds : DurationUnit → Nat
  | .minutes => 60
  | .seconds => 1

/-- The value of a digit string behind the digits already read. -/
def digitsValue (start : Nat) (digits : Text) : Nat :=
  digits.foldl (fun value c => value * 10 + (c.toNat - '0'.toNat)) start

/-- Groups `<digits>m` and `<digits>s`, one after another, with their total in seconds. -/
inductive CompactDuration : Text → Nat → Prop where
  | empty : CompactDuration [] 0
  | group {digits rest : Text} {unit : DurationUnit} {total : Nat} :
      digits ≠ [] → (∀ c ∈ digits, c.isDigit) → CompactDuration rest total →
      CompactDuration (digits ++ unit.suffix :: rest)
        (digitsValue 0 digits * unit.inSeconds + total)

/-- A compact duration that continues behind the digits of an open group. -/
inductive PendingDuration : Option Nat → Text → Nat → Prop where
  | stop : PendingDuration none [] 0
  | digit {pending : Option Nat} {c : Char} {rest : Text} {total : Nat} :
      c.isDigit → PendingDuration (some (digitsValue (pending.getD 0) [c])) rest total →
      PendingDuration pending (c :: rest) total
  | close {num : Nat} {unit : DurationUnit} {rest : Text} {total : Nat} :
      PendingDuration none rest total →
      PendingDuration (some num) (unit.suffix :: rest) (num * unit.inSeconds + total)

theorem PendingDuration.le {num total : Nat} {token : Text}
    (pending : PendingDuration (some num) token total) : num ≤ total := by
  generalize open_ : some num = start at pending
  induction pending generalizing num with
  | stop => cases open_
  | digit isDigit rest ih =>
      subst open_
      have bound := ih rfl
      simp only [digitsValue, List.foldl_cons, List.foldl_nil, Option.getD_some] at bound
      omega
  | @close _ unit _ _ _ _ =>
      cases open_
      cases unit <;> simp only [DurationUnit.inSeconds] <;> omega

theorem pendingDuration_digits {digits rest : Text} {unit : DurationUnit} {total : Nat}
    (isDigit : ∀ c ∈ digits, c.isDigit) (closed : PendingDuration none rest total) (num : Nat) :
    PendingDuration (some num) (digits ++ unit.suffix :: rest)
      (digitsValue num digits * unit.inSeconds + total) := by
  induction digits generalizing num with
  | nil => exact .close closed
  | cons c digits ih =>
      exact .digit (isDigit c (by simp)) (ih (fun d member => isDigit d (by simp [member])) _)

theorem CompactDuration.pending {token : Text} {total : Nat}
    (compact : CompactDuration token total) : PendingDuration none token total := by
  induction compact with
  | empty => exact .stop
  | @group digits rest unit total nonempty isDigit _ ih =>
      cases digits with
      | nil => exact absurd rfl nonempty
      | cons c digits =>
          exact .digit (isDigit c (by simp))
            (pendingDuration_digits (fun d member => isDigit d (by simp [member])) ih _)

/-- What the rest of a token is, by whether a group is open. -/
def PendingShape : Option Nat → Text → Nat → Prop
  | none, token, total => CompactDuration token total
  | some num, token, total => ∃ (digits rest : Text) (unit : DurationUnit) (tail : Nat),
      token = digits ++ unit.suffix :: rest ∧ (∀ c ∈ digits, c.isDigit) ∧
      CompactDuration rest tail ∧ total = digitsValue num digits * unit.inSeconds + tail

theorem PendingDuration.shape {pending : Option Nat} {token : Text} {total : Nat}
    (duration : PendingDuration pending token total) : PendingShape pending token total := by
  induction duration with
  | stop => exact .empty
  | @digit pending c rest total isDigit _ ih =>
      obtain ⟨digits, rest, unit, tail, rfl, allDigits, compact, rfl⟩ := ih
      have cons : ∀ d ∈ c :: digits, d.isDigit := by
        simpa [isDigit] using allDigits
      cases pending with
      | none => exact .group (List.cons_ne_nil c digits) cons compact
      | some num => exact ⟨c :: digits, rest, unit, tail, rfl, cons, compact, rfl⟩
  | @close num unit rest total _ ih => exact ⟨[], rest, unit, total, rfl, by simp, ih, rfl⟩

theorem compactDuration_iff_pending {token : Text} {total : Nat} :
    CompactDuration token total ↔ PendingDuration none token total :=
  ⟨CompactDuration.pending, PendingDuration.shape⟩

/-! ## The scan accepts the compact durations -/

/-- The invariant of the loop: both counters fit, and a closed group leaves no number behind. -/
structure DurationScan.Valid (scan : DurationScan) : Prop where
  total : scan.totalSecs ≤ u64Max
  num : scan.num ≤ u64Max
  closed : scan.haveNum = false → scan.num = 0

def DurationScan.pending (scan : DurationScan) : Option Nat :=
  if scan.haveNum then some scan.num else none

theorem DurationScan.Valid.pending_getD {scan : DurationScan} (valid : scan.Valid) :
    scan.pending.getD 0 = scan.num := by
  cases have_ : scan.haveNum
  · simp [DurationScan.pending, have_, valid.closed have_]
  · simp [DurationScan.pending, have_]

theorem next_digit {scan : DurationScan} {c : Char} (isDigit : c.isDigit) {after : DurationScan} :
    scan.next c = some after ↔ digitsValue scan.num [c] ≤ u64Max ∧
      after = ⟨scan.totalSecs, digitsValue scan.num [c], true⟩ := by
  simp only [DurationScan.next, toDigit, isDigit, if_true, Option.bind_eq_bind,
    Option.bind_eq_some_iff, checked_eq_some, digitsValue, List.foldl_cons, List.foldl_nil]
  constructor
  · rintro ⟨_, ⟨_, rfl⟩, _, ⟨bound, rfl⟩, same⟩
    exact ⟨bound, (Option.some.inj same).symm⟩
  · rintro ⟨bound, rfl⟩
    exact ⟨_, ⟨by omega, rfl⟩, _, ⟨bound, rfl⟩, rfl⟩

theorem next_unit {scan : DurationScan} (unit : DurationUnit) {after : DurationScan} :
    scan.next unit.suffix = some after ↔ scan.haveNum = true ∧
      scan.totalSecs + scan.num * unit.inSeconds ≤ u64Max ∧
      after = ⟨scan.totalSecs + scan.num * unit.inSeconds, 0, false⟩ := by
  have reduced : scan.next unit.suffix = scan.closeGroup unit.inSeconds := by
    cases unit <;> rfl
  rw [reduced]
  cases have_ : scan.haveNum with
  | false => simp [DurationScan.closeGroup, have_]
  | true =>
      simp only [DurationScan.closeGroup, have_, if_true, Option.bind_eq_bind,
        Option.bind_eq_some_iff, checked_eq_some]
      constructor
      · rintro ⟨_, ⟨_, rfl⟩, _, ⟨bound, rfl⟩, same⟩
        exact ⟨trivial, bound, (Option.some.inj same).symm⟩
      · rintro ⟨_, bound, rfl⟩
        exact ⟨_, ⟨by omega, rfl⟩, _, ⟨bound, rfl⟩, rfl⟩

/-- A character the scan takes is a digit or the suffix of a unit. -/
theorem next_some {scan after : DurationScan} {c : Char} (taken : scan.next c = some after) :
    c.isDigit ∨ ∃ unit : DurationUnit, c = unit.suffix := by
  cases isDigit : c.isDigit with
  | true => exact .inl rfl
  | false =>
      simp only [DurationScan.next, toDigit, isDigit] at taken
      split at taken
      · cases ‹(if _ then _ else _) = some _›
      · split at taken
        · exact .inr ⟨.minutes, ‹_›⟩
        · split at taken
          · exact .inr ⟨.seconds, ‹_›⟩
          · cases taken

theorem DurationScan.Valid.digit {scan : DurationScan} {num : Nat} (valid : scan.Valid)
    (bound : num ≤ u64Max) : (⟨scan.totalSecs, num, true⟩ : DurationScan).Valid :=
  ⟨valid.total, bound, nofun⟩

theorem DurationScan.closed_valid {total : Nat} (bound : total ≤ u64Max) :
    (⟨total, 0, false⟩ : DurationScan).Valid :=
  ⟨bound, Nat.zero_le _, fun _ => rfl⟩

@[simp] theorem DurationScan.pending_open (total num : Nat) :
    (⟨total, num, true⟩ : DurationScan).pending = some num := rfl

@[simp] theorem DurationScan.pending_closed (total num : Nat) :
    (⟨total, num, false⟩ : DurationScan).pending = none := rfl

theorem scan_finished {scan : DurationScan} (valid : scan.Valid) {secs : Nat} :
    scan.finish = some secs ↔
      ∃ rest, PendingDuration scan.pending [] rest ∧ scan.totalSecs + rest = secs ∧
        secs ≤ u64Max := by
  obtain ⟨totalSecs, num, haveNum⟩ := scan
  cases haveNum with
  | false =>
      rw [DurationScan.pending_closed]
      constructor
      · rintro same
        cases same
        exact ⟨0, .stop, rfl, valid.total⟩
      · rintro ⟨_, finished, rfl, _⟩
        cases finished
        rfl
  | true =>
      rw [DurationScan.pending_open]
      constructor
      · intro finished
        cases finished
      · rintro ⟨_, finished, _⟩
        cases finished

/-- What the scan accepts from here is what is still pending. -/
theorem scan_accepts {scan : DurationScan} (valid : scan.Valid) {token : Text} {secs : Nat} :
    (token.foldlM DurationScan.next scan).bind DurationScan.finish = some secs ↔
      ∃ rest, PendingDuration scan.pending token rest ∧ scan.totalSecs + rest = secs ∧
        secs ≤ u64Max := by
  induction token generalizing scan with
  | nil => exact scan_finished valid
  | cons c token ih =>
      rw [List.foldlM_cons, Option.bind_eq_bind, Option.bind_assoc, Option.bind_eq_some_iff]
      constructor
      · rintro ⟨after, taken, accepted⟩
        rcases next_some taken with isDigit | ⟨unit, rfl⟩
        · obtain ⟨bound, rfl⟩ := (next_digit isDigit).mp taken
          obtain ⟨rest, pending, total, fits⟩ := (ih (valid.digit bound)).mp accepted
          refine ⟨rest, .digit isDigit ?_, total, fits⟩
          rwa [valid.pending_getD]
        · obtain ⟨have_, bound, rfl⟩ := (next_unit unit).mp taken
          obtain ⟨rest, pending, total, fits⟩ :=
            (ih (DurationScan.closed_valid bound)).mp accepted
          refine ⟨scan.num * unit.inSeconds + rest, ?_, ?_, fits⟩
          · rw [DurationScan.pending, if_pos have_]
            exact .close pending
          · rw [← total, Nat.add_assoc]
      · rintro ⟨rest, pending, total, fits⟩
        generalize whole : c :: token = text at pending
        generalize opened : scan.pending = start at pending
        cases pending with
        | stop => cases whole
        | digit isDigit tail =>
            cases whole
            rw [← opened, valid.pending_getD] at tail
            have bound : digitsValue scan.num [c] ≤ u64Max := by
              have := tail.le
              omega
            exact ⟨_, (next_digit isDigit).mpr ⟨bound, rfl⟩,
              (ih (valid.digit bound)).mpr ⟨rest, tail, total, fits⟩⟩
        | @close num unit _ tailTotal tail =>
            cases whole
            cases have_ : scan.haveNum
            · rw [DurationScan.pending, have_] at opened
              cases opened
            · rw [DurationScan.pending, have_] at opened
              cases opened
              have bound : scan.totalSecs + scan.num * unit.inSeconds ≤ u64Max := by omega
              exact ⟨_, (next_unit unit).mpr ⟨have_, bound, rfl⟩,
                (ih (DurationScan.closed_valid bound)).mpr
                  ⟨tailTotal, tail, by rw [← total, Nat.add_assoc], fits⟩⟩

theorem DurationScan.start_valid : DurationScan.start.Valid := ⟨by decide, by decide, fun _ => rfl⟩

/-- The parser reads a token exactly when it is a compact duration that fits in a `u64`. -/
theorem parseRollbackDuration_eq_some {token : Text} {secs : Nat} :
    parseRollbackDuration token = some secs ↔ CompactDuration token secs ∧ secs ≤ u64Max := by
  rw [parseRollbackDuration, scan_accepts DurationScan.start_valid, compactDuration_iff_pending]
  constructor
  · rintro ⟨rest, pending, total, fits⟩
    rw [← total]
    refine ⟨?_, by omega⟩
    simpa [DurationScan.start] using pending
  · rintro ⟨pending, fits⟩
    exact ⟨secs, pending, Nat.zero_add _, fits⟩


end JunosMcp.Upgrade
