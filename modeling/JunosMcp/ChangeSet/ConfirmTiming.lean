import JunosMcp.ChangeSet.Confirm

/-!
# Two clocks and one window

The device counts its window from the instant it applies the provisional commit. The server counts
the same window from the acknowledgement, on its own clock, and looks at that clock before it sends
the confirming commit.
-/

namespace JunosMcp.ChangeSet
open Lib

/-- When things happen, in milliseconds since the epoch, and what the server's clock shows then, in
seconds. -/
structure Timing where
  clock : Nat → Nat
  minutes : Nat
  appliedAt : Nat
  acknowledgedAt : Nat
  checkedAt : Nat
  arrivedAt : Nat
  applied_acknowledged : appliedAt ≤ acknowledgedAt
  acknowledged_checked : acknowledgedAt ≤ checkedAt
  checked_arrived : checkedAt ≤ arrivedAt

namespace Timing
variable (t : Timing)

/-- The device rolls the provisional commit back at this instant. -/
def deviceDeadline : Nat := t.appliedAt + t.minutes * 60 * 1000

/-- The provisional commit, and the deadline it hands to the coordinator and to the caller. -/
def Issued (deadline : Nat) : Prop :=
  ∃ comment trace details, Returns
    (confirmedCommitOnSession (t.clock t.acknowledgedAt) t.minutes comment) trace
    (.ok (.awaitingConfirmation deadline details))

/-- A confirmation of the operation is sent after a look at the clock, and recorded. -/
def Confirmed (deadline : Nat) : Prop :=
  ∃ inventory args attribution record store store' trace result,
    store.operations (ConfirmChangeSetArgs.operationId args) = some record ∧
    record.rollbackDeadlineUnix = some deadline ∧
    (∀ now, clockRead trace = some now → now = t.clock t.checkedAt) ∧
    Runs confirmWorld store (confirmChangeSet inventory args attribution) trace result store' ∧
    trace.any showsRecorded = true

/-- What is recorded as confirmed is live, and no caller was promised more time than there is. -/
def Honoured : Prop :=
  ∀ deadline, t.Issued deadline → deadline * 1000 ≤ t.deviceDeadline ∧
    (t.Confirmed deadline → t.arrivedAt < t.deviceDeadline)

end Timing

section Timing
variable {t : Timing} {deadline : Nat}

theorem confirmedCommit_deadline {now minutes : Nat} {comment details : Text}
    {trace : SessionTrace}
    (returns : Returns (confirmedCommitOnSession now minutes comment) trace
      (.ok (.awaitingConfirmation deadline details))) : deadline = now + minutes * 60 := by
  obtain ⟨config, rest, rfl, returns₁⟩ := returns_step.mp returns
  cases config with
  | error error => cases (returns_pure.mp returns₁).2
  | ok _ =>
      obtain ⟨reply, rest, rfl, returns₂⟩ := returns_step.mp returns₁
      cases reply with
      | error error =>
          change Returns (if isTransportUncertainty error then _ else _) rest _ at returns₂
          split at returns₂ <;> cases (returns_pure.mp returns₂).2
      | ok response =>
          obtain ⟨_, rest, rfl, returns₃⟩ := returns_step.mp returns₂
          cases (returns_pure.mp returns₃).2
          rfl

theorem issued_iff :
    t.Issued deadline ↔ deadline = t.clock t.acknowledgedAt + t.minutes * 60 := by
  constructor
  · rintro ⟨comment, trace, details, returns⟩
    exact confirmedCommit_deadline returns
  · rintro rfl
    have answered : Returns (confirmedCommitOnSession (t.clock t.acknowledgedAt) t.minutes [])
        [⟨.bare (.device .config), .ok ()⟩,
         ⟨.bare (.device (.confirmedCommitXml (buildConfirmedCommitXml t.minutes []))), .ok []⟩,
         ⟨.bare (.guard .allowReuse), ()⟩] _ := .step (.step (.step (.pure _)))
    exact ⟨[], _, _, answered⟩

theorem confirmed_iff : t.Confirmed deadline ↔ t.clock t.checkedAt < deadline := by
  constructor
  · rintro ⟨inventory, args, attribution, record, store, store', trace, result, stored, window,
      looks, run, recorded⟩
    rcases confirmChangeSet_spec run with
      ⟨_, quiet⟩ | ⟨_, _, _, _, _, _, _, quiet⟩ |
        ⟨found, deadline', now, details, stored', window', read, early⟩
    · rw [quiet] at recorded
      cases recorded
    · rw [quiet] at recorded
      cases recorded
    · obtain rfl : found = record := Option.some_inj.mp (stored'.symm.trans stored)
      obtain rfl : deadline' = deadline := Option.some_inj.mp (window'.symm.trans window)
      rw [← looks now read]
      exact early
  · intro early
    have stored := putOperation_same Store.empty (awaitingRecord deadline (stagedOperation
      .validated))
    have run : Runs confirmWorld _
        (confirmChangeSet ownerContext.inventory confirmArgs ownerAttribution)
        (confirmTrace confirmArgs ownerAttribution (awaitingRecord deadline (stagedOperation
          .validated)) (t.clock t.checkedAt)) _ _ :=
      confirms_in_time rfl stored rfl rfl rfl early
    refine ⟨_, _, _, _, _, _, _, _, stored, rfl, ?_, run, rfl⟩
    intro now read
    cases read
    rfl

/-- Both ends of the window, on whatever clock. -/
theorem window_honoured_iff (t : Timing) :
    t.Honoured ↔ t.clock t.acknowledgedAt * 1000 ≤ t.appliedAt ∧
      (t.clock t.acknowledgedAt + t.minutes * 60 ≤ t.clock t.checkedAt ∨
        t.arrivedAt < t.deviceDeadline) := by
  have same : (t.clock t.acknowledgedAt + t.minutes * 60) * 1000 ≤ t.deviceDeadline ↔
      t.clock t.acknowledgedAt * 1000 ≤ t.appliedAt := by
    unfold Timing.deviceDeadline
    omega
  constructor
  · intro honoured
    obtain ⟨promised, live⟩ := honoured _ (issued_iff.mpr rfl)
    refine ⟨same.mp promised, ?_⟩
    by_cases open_ : t.clock t.checkedAt < t.clock t.acknowledgedAt + t.minutes * 60
    · exact .inr (live (confirmed_iff.mpr open_))
    · exact .inl (Nat.le_of_not_lt open_)
  · rintro ⟨prompt, arrives⟩ deadline issued
    obtain rfl := issued_iff.mp issued
    refine ⟨same.mpr prompt, fun confirmed => ?_⟩
    rcases arrives with closed | early
    · exact absurd (confirmed_iff.mp confirmed) (Nat.not_lt_of_le closed)
    · exact early

/-- A clock that is right, an acknowledgement two seconds after the commit took effect, and a
confirming commit that is checked in the last second and arrives too late. -/
def lateTiming : Timing where
  clock instant := instant / 1000
  minutes := 1
  appliedAt := 0
  acknowledgedAt := 2000
  checkedAt := 60500
  arrivedAt := 61000
  applied_acknowledged := by decide
  acknowledged_checked := by decide
  checked_arrived := by decide

theorem late_confirmation_recorded : ¬∀ t : Timing, t.Honoured := by
  intro claim
  have live := (claim lateTiming 62 (issued_iff.mpr rfl)).2 (confirmed_iff.mpr (by decide))
  exact absurd live (by decide)

end Timing

end JunosMcp.ChangeSet
