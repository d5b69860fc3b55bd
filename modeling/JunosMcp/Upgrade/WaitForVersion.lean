import JunosMcp.Lib.Await
import JunosMcp.Commands
import JunosMcp.Upgrade.Preflight

/-!
# The wait behind the reboot

`wait_for_version` polls `show version` until it reads the target version, round by round. A round
is what the attempt came to, the time on the clock behind it, and whether the call was cancelled in
the pause. Times are in nanoseconds.
-/

namespace JunosMcp.Upgrade
open Lib

inductive WaitError where
  | tool (error : JmcpError)
  | upgradePostVerifyMismatch (router expected observed : Text)
  | upgradeRebootTimeout (router : Text) (waitedSecs : Nat)
  deriving DecidableEq

def WaitError.display : WaitError → Text
  | .tool error => error.display
  | .upgradePostVerifyMismatch router expected observed =>
      "post-upgrade version mismatch [code=postverify_mismatch]: router '".toList ++ router ++
        "' expected '".toList ++ expected ++ "', got '".toList ++ observed ++
        "'; the install may have rolled back or failed silently".toList
  | .upgradeRebootTimeout router waitedSecs =>
      "device did not return after reboot [code=reboot_timeout]: router '".toList ++ router ++
        "' did not reopen NETCONF within ".toList ++ (Nat.repr waitedSecs).toList ++
        "s; check console / hardware status".toList

structure WaitRequest where
  router : Text
  targetVersion : Text
  budget : Nat

structure WaitRound where
  /-- The probe within its deadline, unless the call is cancelled. -/
  attempt : Raced (Except JmcpError Text)
  elapsed : Nat
  cancelled : Bool

/-- What the wait makes of an attempt: its result, or the version it remembers from here on. -/
def readAttempt (target : Text) (lastObserved : Option Text) :
    Raced (Except JmcpError Text) → Except (Except WaitError Text) (Option Text)
  | .cancelled => .error (.error (.tool .cancelled))
  | .completed (.ok output) => match parseJunosVersion output with
      | some observed => if observed = target then .error (.ok output) else .ok (some observed)
      | none => .ok lastObserved
  | .completed (.error error) =>
      if errorIsTransient error.display then .ok lastObserved else .error (.error (.tool error))
  | .elapsed => .ok lastObserved

def exhausted (request : WaitRequest) : Option Text → WaitError
  | some observed => .upgradePostVerifyMismatch request.router request.targetVersion observed
  | none => .upgradeRebootTimeout request.router (request.budget / 10 ^ 9)

/-- The loop; `none` is a wait that goes on behind these rounds. -/
def waitFrom (request : WaitRequest) (lastObserved : Option Text) :
    List WaitRound → Option (Except WaitError Text)
  | [] => none
  | round :: rest => match readAttempt request.targetVersion lastObserved round.attempt with
      | .error result => some result
      | .ok lastObserved =>
          if request.budget ≤ round.elapsed then some (.error (exhausted request lastObserved))
          else if round.cancelled then some (.error (.tool .cancelled))
          else waitFrom request lastObserved rest

/-- The initial delay may be cancelled, too. -/
def waitForVersion (request : WaitRequest) (cancelled : Bool) (rounds : List WaitRound) :
    Option (Except WaitError Text) :=
  if cancelled then some (.error (.tool .cancelled)) else waitFrom request none rounds

/-! ## Rounds by what their attempt came to -/

/-- The output the probe gave, and the version in it. -/
def Reports (round : WaitRound) (output version : Text) : Prop :=
  round.attempt = .completed (.ok output) ∧ parseJunosVersion output = some version

def PermanentError (round : WaitRound) (error : JmcpError) : Prop :=
  round.attempt = .completed (.error error) ∧ errorIsTransient error.display = false

/-- Another version, no version, a transient error, or the deadline of the attempt. -/
inductive Inconclusive (target : Text) (round : WaitRound) : Prop where
  | otherVersion (output version : Text) :
      Reports round output version → version ≠ target → Inconclusive target round
  | unparseable (output : Text) :
      round.attempt = .completed (.ok output) → parseJunosVersion output = none →
      Inconclusive target round
  | transient (error : JmcpError) :
      round.attempt = .completed (.error error) → errorIsTransient error.display = true →
      Inconclusive target round
  | deadline : round.attempt = .elapsed → Inconclusive target round

/-- The version the attempt of a round read, if it read one. -/
def parsedVersion (round : WaitRound) : Option Text :=
  match round.attempt with
  | .completed (.ok output) => parseJunosVersion output
  | _ => none

def lastParsed (rounds : List WaitRound) : Option Text := (rounds.filterMap parsedVersion).getLast?

/-- The wait goes on behind a round. -/
structure Passes (request : WaitRequest) (round : WaitRound) : Prop where
  inconclusive : Inconclusive request.targetVersion round
  within : round.elapsed < request.budget
  live : round.cancelled = false

/-- The round the wait ends with, behind rounds that passed. -/
inductive Decides (request : WaitRequest) (passed : List WaitRound) (round : WaitRound) :
    Except WaitError Text → Prop where
  | target (output : Text) :
      Reports round output request.targetVersion → Decides request passed round (.ok output)
  | permanent (error : JmcpError) :
      PermanentError round error → Decides request passed round (.error (.tool error))
  | mismatch (observed : Text) :
      Inconclusive request.targetVersion round → request.budget ≤ round.elapsed →
      lastParsed (passed ++ [round]) = some observed →
      Decides request passed round (.error
        (.upgradePostVerifyMismatch request.router request.targetVersion observed))
  | timeout :
      Inconclusive request.targetVersion round → request.budget ≤ round.elapsed →
      (∀ earlier ∈ passed ++ [round], parsedVersion earlier = none) →
      Decides request passed round (.error
        (.upgradeRebootTimeout request.router (request.budget / 10 ^ 9)))
  | cancelledAttempt :
      round.attempt = .cancelled → Decides request passed round (.error (.tool .cancelled))
  | cancelledPause :
      Inconclusive request.targetVersion round → round.elapsed < request.budget →
      round.cancelled = true → Decides request passed round (.error (.tool .cancelled))

/-! ## One round -/

theorem parsedVersion_reports {round : WaitRound} {output version : Text}
    (reports : Reports round output version) : parsedVersion round = some version := by
  rw [parsedVersion, reports.1]
  exact reports.2

theorem readAttempt_inconclusive {target : Text} {round : WaitRound}
    (inconclusive : Inconclusive target round) (lastObserved : Option Text) :
    readAttempt target lastObserved round.attempt =
      .ok ((parsedVersion round).or lastObserved) := by
  cases inconclusive with
  | otherVersion output version reports other =>
      rw [parsedVersion_reports reports, reports.1]
      simp only [readAttempt, reports.2, if_neg other, Option.some_or]
  | unparseable output completed unread =>
      simp only [parsedVersion, completed, readAttempt, unread, Option.none_or]
  | transient error completed stale =>
      simp only [parsedVersion, completed, readAttempt, stale, if_true, Option.none_or]
  | deadline late => simp only [parsedVersion, late, readAttempt, Option.none_or]

theorem lastParsed_snoc (passed : List WaitRound) (round : WaitRound) :
    lastParsed (passed ++ [round]) = (parsedVersion round).or (lastParsed passed) := by
  rw [lastParsed, lastParsed, List.filterMap_append]
  cases parsed : parsedVersion round <;> simp [List.filterMap, parsed]

theorem lastParsed_eq_none {rounds : List WaitRound} :
    lastParsed rounds = none ↔ ∀ round ∈ rounds, parsedVersion round = none := by
  rw [lastParsed, List.getLast?_eq_none_iff, List.filterMap_eq_nil_iff]

theorem waitFrom_inconclusive {request : WaitRequest} {round : WaitRound}
    (inconclusive : Inconclusive request.targetVersion round) (passed rest : List WaitRound) :
    waitFrom request (lastParsed passed) (round :: rest) =
      if request.budget ≤ round.elapsed then
        some (.error (exhausted request (lastParsed (passed ++ [round]))))
      else if round.cancelled then some (.error (.tool .cancelled))
      else waitFrom request (lastParsed (passed ++ [round])) rest := by
  rw [waitFrom, readAttempt_inconclusive inconclusive, lastParsed_snoc]

theorem Passes.run {request : WaitRequest} {round : WaitRound} (passes : Passes request round)
    (passed rest : List WaitRound) :
    waitFrom request (lastParsed passed) (round :: rest) =
      waitFrom request (lastParsed (passed ++ [round])) rest := by
  rw [waitFrom_inconclusive passes.inconclusive, if_neg (Nat.not_le.mpr passes.within), passes.live,
    if_neg Bool.false_ne_true]

theorem Decides.run {request : WaitRequest} {passed : List WaitRound} {round : WaitRound}
    {result : Except WaitError Text} (decides : Decides request passed round result)
    (rest : List WaitRound) :
    waitFrom request (lastParsed passed) (round :: rest) = some result := by
  cases decides with
  | target output reports =>
      rw [waitFrom, reports.1]
      simp only [readAttempt, reports.2, if_true]
  | permanent error permanent =>
      rw [waitFrom, permanent.1]
      simp only [readAttempt, permanent.2, Bool.false_eq_true, if_false]
  | mismatch observed inconclusive spent last =>
      rw [waitFrom_inconclusive inconclusive, if_pos spent, last]
      rfl
  | timeout inconclusive spent unread =>
      rw [waitFrom_inconclusive inconclusive, if_pos spent, lastParsed_eq_none.mpr unread]
      rfl
  | cancelledAttempt cancelled =>
      rw [waitFrom, cancelled]
      rfl
  | cancelledPause inconclusive within cancelled =>
      rw [waitFrom_inconclusive inconclusive, if_neg (Nat.not_le.mpr within), cancelled, if_pos rfl]

/-- A round whose attempt is inconclusive passes or ends the wait by the clock. -/
theorem Inconclusive.passes_or_decides {request : WaitRequest} {round : WaitRound}
    (inconclusive : Inconclusive request.targetVersion round) (passed : List WaitRound) :
    Passes request round ∨ ∃ result, Decides request passed round result := by
  by_cases spent : request.budget ≤ round.elapsed
  · cases last : lastParsed (passed ++ [round]) with
    | some observed => exact .inr ⟨_, .mismatch observed inconclusive spent last⟩
    | none => exact .inr ⟨_, .timeout inconclusive spent (lastParsed_eq_none.mp last)⟩
  · have within := Nat.not_le.mp spent
    cases cancelled : round.cancelled with
    | true => exact .inr ⟨_, .cancelledPause inconclusive within cancelled⟩
    | false => exact .inl ⟨inconclusive, within, cancelled⟩

theorem passes_or_decides (request : WaitRequest) (passed : List WaitRound) (round : WaitRound) :
    Passes request round ∨ ∃ result, Decides request passed round result := by
  cases attempt : round.attempt with
  | cancelled => exact .inr ⟨_, .cancelledAttempt attempt⟩
  | elapsed => exact (Inconclusive.deadline attempt).passes_or_decides passed
  | completed reply => cases reply with
      | error error => cases stale : errorIsTransient error.display with
          | true => exact (Inconclusive.transient error attempt stale).passes_or_decides passed
          | false => exact .inr ⟨_, .permanent error ⟨attempt, stale⟩⟩
      | ok output => cases parsed : parseJunosVersion output with
          | none => exact (Inconclusive.unparseable output attempt parsed).passes_or_decides passed
          | some version =>
              by_cases same : version = request.targetVersion
              · subst same
                exact .inr ⟨_, .target output ⟨attempt, parsed⟩⟩
              · have other := Inconclusive.otherVersion output version ⟨attempt, parsed⟩ same
                exact other.passes_or_decides passed

theorem Passes.not_decides {request : WaitRequest} {passed : List WaitRound} {round : WaitRound}
    (passes : Passes request round) (result : Except WaitError Text) :
    ¬Decides request passed round result := by
  intro decides
  have ended := decides.run []
  rw [passes.run] at ended
  cases ended

/-! ## The whole wait -/

theorem waitFrom_eq_none {request : WaitRequest} (passed : List WaitRound) {rounds : List WaitRound} :
    waitFrom request (lastParsed passed) rounds = none ↔ ∀ round ∈ rounds, Passes request round := by
  induction rounds generalizing passed with
  | nil => simp [waitFrom]
  | cons round rest ih =>
      rw [List.forall_mem_cons]
      rcases passes_or_decides request passed round with passes | ⟨result, decides⟩
      · rw [passes.run, ih]
        exact ⟨fun later => ⟨passes, later⟩, And.right⟩
      · rw [decides.run]
        constructor
        · intro impossible
          cases impossible
        · rintro ⟨passes, _⟩
          exact absurd decides (passes.not_decides result)

theorem waitFrom_eq_some {request : WaitRequest} (passed : List WaitRound) {rounds : List WaitRound}
    {result : Except WaitError Text} :
    waitFrom request (lastParsed passed) rounds = some result ↔
      ∃ before round after, rounds = before ++ round :: after ∧
        (∀ earlier ∈ before, Passes request earlier) ∧
        Decides request (passed ++ before) round result := by
  induction rounds generalizing passed with
  | nil => simp [waitFrom]
  | cons round rest ih =>
      rcases passes_or_decides request passed round with passes | ⟨here, decides⟩
      · rw [passes.run, ih]
        constructor
        · rintro ⟨before, last, after, rfl, earlier, decides⟩
          refine ⟨round :: before, last, after, rfl, ?_, by simpa using decides⟩
          exact List.forall_mem_cons.mpr ⟨passes, earlier⟩
        · rintro ⟨before, last, after, split, earlier, decides⟩
          cases before with
          | nil =>
              obtain ⟨rfl, rfl⟩ := List.cons.inj split
              rw [List.append_nil] at decides
              exact absurd decides (passes.not_decides result)
          | cons first before =>
              obtain ⟨rfl, rfl⟩ := List.cons.inj split
              refine ⟨before, last, after, rfl, ?_, by simpa using decides⟩
              exact (List.forall_mem_cons.mp earlier).2
      · rw [decides.run]
        constructor
        · intro same
          obtain rfl := Option.some.inj same
          exact ⟨[], round, rest, rfl, nofun, by simpa using decides⟩
        · rintro ⟨before, last, after, split, earlier, other⟩
          cases before with
          | nil =>
              obtain ⟨rfl, rfl⟩ := List.cons.inj split
              rw [List.append_nil] at other
              rw [← decides.run rest, ← other.run rest]
          | cons first before =>
              obtain ⟨rfl, rfl⟩ := List.cons.inj split
              exact absurd decides ((List.forall_mem_cons.mp earlier).1.not_decides here)

/-- The version alone decides: the wait goes on as long as every round passes, and its result is
that of the first round that does not. -/
theorem waitForVersion_decides (request : WaitRequest) (rounds : List WaitRound) :
    (waitForVersion request false rounds = none ↔ ∀ round ∈ rounds, Passes request round) ∧
    ∀ result, waitForVersion request false rounds = some result ↔
      ∃ before round after, rounds = before ++ round :: after ∧
        (∀ earlier ∈ before, Passes request earlier) ∧ Decides request before round result := by
  have start : waitForVersion request false rounds = waitFrom request (lastParsed []) rounds := rfl
  rw [start]
  refine ⟨waitFrom_eq_none [], fun result => ?_⟩
  rw [waitFrom_eq_some]
  rfl

end JunosMcp.Upgrade
