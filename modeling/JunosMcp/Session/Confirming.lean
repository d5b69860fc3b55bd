import JunosMcp.JunosTransaction
import JunosMcp.Session.Device
import JunosMcp.Lib.Weave

/-!
# The confirming commit on a shared candidate

A commit puts the whole candidate into force, whoever wrote it. `confirm_commit` takes no lock and
compares nothing, so what it puts into force is what other sessions have left in the candidate.
-/

namespace JunosMcp
open Lib

/-! ## The tool -/

structure ConfirmCommitReport where
  device : Text
  confirmed : Bool
  commitOutcome : Option CommitOutcome
  details : Option Text
  message : Text
  deriving DecidableEq

def confirmCommitReport (device : Text) : CommitOutcome → Except JmcpError ConfirmCommitReport
  | .reconciled true details => .ok
      { device := device
        confirmed := true
        commitOutcome := none
        details := some details
        message := ("confirming commit accepted; any pending automatic rollback is " ++
          "cancelled").toList }
  | .reconciled false details =>
      .error (.validation ("confirming commit failed: ".toList ++ details))
  | outcome => .ok
      { device := device
        confirmed := false
        commitOutcome := some outcome
        details := none
        message := ("the confirming commit did not report a definite outcome; if a rollback " ++
          "window is open on the device it may still be running").toList }

/-- The tool on an opened session. -/
def confirmCommitTool (device comment : Text) :
    SessionProg (Except JmcpError ConfirmCommitReport) :=
  (confirmCommit comment).andThen fun outcome => .pure (confirmCommitReport device outcome)

/-! ## The configurations of a device -/

structure Configs (Config : Type) where
  running : Config
  candidate : Config
  /-- What an open commit-confirmed window falls back to. -/
  fallback : Option Config

variable {Config : Type}

/-- Any commit puts the whole candidate into force and closes an open window. -/
def Configs.committed (s : Configs Config) : Configs Config := ⟨s.candidate, s.candidate, none⟩

def Configs.provisional (s : Configs Config) : Configs Config :=
  ⟨s.candidate, s.candidate, some s.running⟩

/-- Loads and rollbacks write the candidate, and a close may discard what it holds. -/
def Configs.effect : Await.Effect SessionCall SessionCall.Reply (Configs Config)
  | s, .device (.commitWithComment _), reply, s' =>
      s' = s.committed ∨ Session.acked reply = false ∧ s' = s
  | s, .device (.commitConfirmed _), reply, s' =>
      s' = s.provisional ∨ Session.acked reply = false ∧ s' = s
  | s, .device (.confirmedCommitXml _), reply, s' =>
      s' = s.provisional ∨ Session.acked reply = false ∧ s' = s
  | s, .device (.load ..), _, s' | s, .device (.rollback _), _, s' =>
      s' = { s with candidate := s'.candidate }
  | s, .device .close, _, s' => s' = s ∨ s' = { s with candidate := s.running }
  | s, _, _, s' => s' = s

def configWorld : World SessionOp SessionRes (Configs Config) := Await.world Configs.effect

/-- What happens to the device besides the session. -/
inductive Foreign (Config : Type) where
  | edit (candidate : Config)
  | expire
  deriving DecidableEq

def Foreign.step (s : Configs Config) : Foreign Config → Configs Config → Prop
  | .edit candidate, s' => s' = { s with candidate := candidate }
  | .expire, s' => match s.fallback with
      | none => s' = s
      | some saved => s' = ⟨saved, saved, none⟩

abbrev ConfigHistory (Config : Type) := Interleaving SessionOp SessionRes (Foreign Config)

/-! ## What the confirming commit finds -/

section Confirming
variable {s s' : Configs Config}

theorem NoWrite.keeps {op : SessionOp} {answer : SessionRes op} (quiet : NoWrite op)
    (here : configWorld.answered s op answer s') :
    s'.running = s.running ∧ s'.fallback = s.fallback := by
  rcases Await.world_answered here with rfl | ⟨called, reply, seen, effect⟩
  · exact ⟨rfl, rfl⟩
  · have sends := seen.sends
    cases called with
    | guard op =>
        obtain rfl : s' = s := effect
        exact ⟨rfl, rfl⟩
    | device rpc =>
        unfold NoWrite at quiet
        rw [sends] at quiet
        cases rpc with
        | load payload action => exact quiet.elim
        | rollback version => exact quiet.elim
        | commitWithComment comment => exact quiet.elim
        | commitConfirmed seconds => exact quiet.elim
        | confirmedCommitXml xml => exact quiet.elim
        | close =>
            have closed : s' = s ∨ s' = { s with candidate := s.running } := effect
            rcases closed with rfl | rfl <;> exact ⟨rfl, rfl⟩
        | _ =>
            obtain rfl : s' = s := effect
            exact ⟨rfl, rfl⟩

theorem confirmCommit_succeeded {comment details : Text} {trace : SessionTrace}
    (returns : Returns (confirmCommit comment) trace (.ok (.reconciled true details))) :
    ∃ closing : SessionTrace, trace = ⟨.bare (.device .config), .ok ()⟩ ::
        ⟨.bare (.device (.commitWithComment ("Confirming commit: ".toList ++ comment))), .ok ()⟩ ::
          closing ∧ ∀ event ∈ closing, NoWrite event.1 := by
  obtain ⟨config, rest, rfl, returns₁⟩ := returns_step.mp returns
  cases config with
  | error error => cases (returns_pure.mp returns₁).2
  | ok _ =>
      obtain ⟨reply, rest, rfl, returns₂⟩ := returns_step.mp returns₁
      obtain ⟨closing, second, _, rfl, closes, ends⟩ := returns_bind.mp
        (show Returns (closeInPlace.bind fun _ => .pure (Except.ok (confirmOutcome reply))) rest _
          from returns₂)
      obtain ⟨rfl, same⟩ := returns_pure.mp ends
      cases reply with
      | error error => cases same
      | ok _ =>
          refine ⟨closing, by rw [List.append_nil]; rfl, ?_⟩
          exact closes.allowed closeInPlace_performs

/-- The device as the confirming commit of the history found it. -/
def CommitFinds (s : Configs Config) (history : ConfigHistory Config) (found : Configs Config) :
    Prop :=
  ∃ before comment after, history =
      before ++ .own ⟨.bare (.device (.commitWithComment comment)), Except.ok ()⟩ :: after ∧
    Woven configWorld Foreign.step s before found

theorem committed_stays {history : ConfigHistory Config} {target : Config}
    (woven : Woven configWorld Foreign.step s history s')
    (quiet : ∀ event ∈ ownTrace history, NoWrite event.1)
    (start : s.running = target ∧ s.fallback = none) :
    s'.running = target ∧ s'.fallback = none := by
  apply woven.invariant (fun s => s.running = target ∧ s.fallback = none) start
  · intro s op answer s' member inv here
    obtain ⟨running, fallback⟩ := (quiet _ (mem_ownTrace.mpr member)).keeps here
    exact ⟨running.trans inv.1, fallback.trans inv.2⟩
  · intro s event s' _ inv here
    cases event with
    | edit candidate =>
        obtain rfl : s' = { s with candidate := candidate } := here
        exact inv
    | expire =>
        unfold Foreign.step at here
        rw [inv.2] at here
        obtain rfl : s' = s := here
        exact inv

theorem edits_keep_running {history : ConfigHistory Config}
    (woven : Woven configWorld Foreign.step s history s')
    (quiet : ∀ event ∈ ownTrace history, NoWrite event.1)
    (open_ : .other .expire ∉ history) : s'.running = s.running := by
  apply woven.invariant (fun middle => middle.running = s.running) rfl
  · intro middle op answer middle' member inv here
    exact ((quiet _ (mem_ownTrace.mpr member)).keeps here).1.trans inv
  · intro middle event middle' member inv here
    cases event with
    | edit candidate =>
        obtain rfl : middle' = { middle with candidate := candidate } := here
        exact inv
    | expire => exact absurd member open_

/-- For any device, with or without an open window. -/
theorem confirm_activates_nothing_iff {history : ConfigHistory Config} {comment details : Text}
    (woven : Woven configWorld Foreign.step s history s')
    (returns : Returns (confirmCommit comment) (ownTrace history)
      (.ok (.reconciled true details))) :
    ∃ found, CommitFinds s history found ∧
      (s'.running = found.running ↔ found.candidate = found.running) ∧
      (.other .expire ∉ history → found.running = s.running) := by
  obtain ⟨closing, shape, quiet⟩ := confirmCommit_succeeded returns
  have split : ownTrace history = [⟨.bare (.device .config), Except.ok ()⟩] ++
      ⟨.bare (.device (.commitWithComment ("Confirming commit: ".toList ++ comment))),
        Except.ok ()⟩ :: closing := shape
  obtain ⟨before, after, rfl, first, rest⟩ := ownTrace_split split
  obtain ⟨found, early, late⟩ := woven_append.mp woven
  obtain ⟨activated, here, later⟩ := woven_own.mp late
  have commits : activated = found.committed := by
    rcases here with commits | ⟨refused, _⟩
    · exact commits
    · cases refused
  subst commits
  refine ⟨found, ⟨before, _, after, rfl, early⟩, ?_, fun open_ => ?_⟩
  · have stays := committed_stays later (rest ▸ quiet) ⟨rfl, rfl⟩
    rw [stays.1]
    exact Iff.rfl
  · apply edits_keep_running early
    · rw [first]
      intro event member
      rw [List.mem_singleton] at member
      subst member
      trivial
    · exact fun member => open_ (List.mem_append_left _ member)

theorem confirmCommitReport_confirmed {device : Text} {outcome : CommitOutcome}
    {report : ConfirmCommitReport} (reported : confirmCommitReport device outcome = .ok report)
    (confirmed : report.confirmed = true) : ∃ details, outcome = .reconciled true details := by
  cases outcome with
  | reconciled succeeded details =>
      cases succeeded with
      | true => exact ⟨details, rfl⟩
      | false => cases reported
  | _ =>
      cases reported
      cases confirmed

/-- A tool that reports success has sent a confirming commit that succeeded. -/
theorem confirmCommitTool_confirmed {device comment : Text} {trace : SessionTrace}
    {report : ConfirmCommitReport}
    (returns : Returns (confirmCommitTool device comment) trace (.ok report))
    (confirmed : report.confirmed = true) :
    ∃ details, Returns (confirmCommit comment) trace (.ok (.reconciled true details)) := by
  obtain ⟨first, second, outcome, rfl, sends, ends⟩ := returns_bind.mp returns
  cases outcome with
  | error error => cases (returns_pure.mp ends).2
  | ok outcome =>
      obtain ⟨rfl, reported⟩ := returns_pure.mp ends
      obtain ⟨details, rfl⟩ := confirmCommitReport_confirmed reported.symm confirmed
      rw [List.append_nil]
      exact ⟨details, sends⟩

end Confirming

/-! ## An edit between the provisional commit and its confirmation -/

def approvedConfigs (fallback : Option Text) : Configs Text :=
  ⟨"approved".toList, "approved".toList, fallback⟩

def editedConfigs (fallback : Option Text) : Configs Text :=
  ⟨"approved".toList, "edited".toList, fallback⟩

def confirmingTrace : SessionTrace :=
  [⟨.bare (.device .config), .ok ()⟩,
   ⟨.bare (.device (.commitWithComment "Confirming commit: ".toList)), .ok ()⟩,
   ⟨.bare (.guard .present), false⟩]

theorem confirms : Returns (confirmCommit []) confirmingTrace
    (.ok (.reconciled true "confirming commit succeeded".toList)) :=
  .step (.step (.step (.pure _)))

def editThenConfirm : ConfigHistory Text :=
  .other (.edit "edited".toList) :: confirmingTrace.map .own

theorem edit_then_confirm (fallback : Option Text) :
    Woven configWorld Foreign.step (approvedConfigs fallback) editThenConfirm
      (editedConfigs fallback).committed := by
  have edits : Foreign.step (approvedConfigs fallback) (.edit "edited".toList)
      (editedConfigs fallback) := rfl
  have commits : configWorld.answered (editedConfigs fallback)
      (.bare (.device (.commitWithComment "Confirming commit: ".toList))) (Except.ok ())
      (editedConfigs fallback).committed := .inl rfl
  exact .other edits (.own rfl (.own commits (.own rfl (.refl _))))

/-- The foreign edit is activated, with a window open and without one. -/
theorem confirm_activates_foreign_edit :
    (¬∀ (s s' : Configs Text) (history : ConfigHistory Text) (comment details : Text),
      s.fallback.isSome = true → .other .expire ∉ history →
      Woven configWorld Foreign.step s history s' →
      Returns (confirmCommit comment) (ownTrace history) (.ok (.reconciled true details)) →
      s'.running = s.running) ∧
    ¬∀ (s s' : Configs Text) (history : ConfigHistory Text) (comment details : Text),
      s.fallback = none →
      Woven configWorld Foreign.step s history s' →
      Returns (confirmCommit comment) (ownTrace history) (.ok (.reconciled true details)) →
      s'.running = s.running := by
  constructor
  · intro claim
    have same := claim _ _ editThenConfirm [] _ rfl (by simp [editThenConfirm, confirmingTrace])
      (edit_then_confirm (some "before".toList)) confirms
    exact absurd same (by decide)
  · intro claim
    have same := claim _ _ editThenConfirm [] _ rfl (edit_then_confirm none) confirms
    exact absurd same (by decide)

/-- Without a foreign edit the provisional configuration stays. -/
theorem unedited_candidate_confirmed :
    ∃ found, CommitFinds (approvedConfigs (some "before".toList)) (confirmingTrace.map .own) found ∧
      found.running = "approved".toList := by
  have woven : Woven configWorld Foreign.step (approvedConfigs (some "before".toList))
      (confirmingTrace.map .own) (approvedConfigs none) := by
    have commits : configWorld.answered (approvedConfigs (some "before".toList))
        (.bare (.device (.commitWithComment "Confirming commit: ".toList))) (Except.ok ())
        (approvedConfigs none) := .inl rfl
    exact .own rfl (.own commits (.own rfl (.refl _)))
  obtain ⟨found, finds, _, kept⟩ := confirm_activates_nothing_iff woven confirms
  exact ⟨found, finds, kept (by simp [confirmingTrace])⟩

end JunosMcp
