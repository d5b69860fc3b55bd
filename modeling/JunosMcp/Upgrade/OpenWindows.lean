import JunosMcp.Lib.Weave
import JunosMcp.DirectWindows

/-!
# Windows that are open when an upgrade installs

The lease excludes upgrades and package work only, so other tools can open a confirm window after
the run has looked for one. What is pending at the install is what was left open since that look.
-/

namespace JunosMcp.Upgrade
open Lib ChangeSet

/-! ## The last look before the install -/

section Run
variable {context : UpgradeContext} {request : UpgradeRequest}

def installOp (request : UpgradeRequest) : ToolOp :=
  .bare (.cli request.device (installCommand request.sourcePath))

def commitProbe (device : Text) : ToolOp := .raced (.cli device commitCommand)

/-- An answer to `show system commit` in a run. -/
def answerOf (device output : Text) : ToolEvent :=
  ⟨commitProbe device, (Raced.completed (.ok output) : Raced (Except RustEzError Text))⟩

theorem sends_not_install {op : ToolOp} (sends : Sends Shows request.device op) :
    ¬op = installOp request := by
  rintro rfl
  have isS : 's' = 'r' := Text.startsWith_head sends.2
  exact absurd isS (by decide)

/-- Reads other than another look for windows. -/
def ReadsOn (command : Text) : Prop := Shows command ∧ command ≠ commitCommand

instance : DecidablePred ReadsOn := fun command =>
  inferInstanceAs (Decidable (Shows command ∧ command ≠ commitCommand))

theorem readsOn_shows {op : ToolOp} (sends : Sends ReadsOn request.device op) :
    Sends Shows request.device op :=
  sends.mono fun _ => And.left

theorem cli_answered {command output : Text} {trace : ToolTrace}
    (returns : Returns (cli request command) trace (.ok (.ok output))) :
    trace = [⟨.raced (.cli request.device command),
      (Raced.completed (.ok output) : Raced (Except RustEzError Text))⟩] := by
  obtain ⟨reply, rest, rfl, later⟩ := returns_step.mp returns
  obtain ⟨rfl, same⟩ := returns_pure.mp later
  cases reply with
  | completed result =>
      cases same
      rfl
  | cancelled => cases same
  | elapsed => cases same

theorem runProbe_answered {command phase output : Text} {trace : ToolTrace}
    (returns : Returns (runProbe request command phase) trace (.ok output)) :
    trace = [⟨.raced (.cli request.device command),
      (Raced.completed (.ok output) : Raced (Except RustEzError Text))⟩] := by
  obtain ⟨first, second, result, rfl, here, rest⟩ := returns.of_andThen
  cases result with
  | error error =>
      obtain ⟨_, same⟩ := returns_pure.mp rest
      cases same
  | ok shown =>
      obtain ⟨rfl, same⟩ := returns_pure.mp rest
      cases same
      rw [cli_answered here]
      rfl

theorem gatherFacts_asks {localSize : Nat} {facts : PreflightFacts} {trace : ToolTrace}
    (returns : Returns (gatherFacts request localSize) trace (.ok facts)) :
    ∃ early late, trace = early ++ answerOf request.device facts.commitOutput :: late ∧
      (∀ event ∈ early, Sends Shows request.device event.1) ∧
      ∀ event ∈ late, Sends ReadsOn request.device event.1 := by
  have reads := returns.allowed (gatherFacts_sends factCommands_show)
  obtain ⟨clusterTrace, rest, cluster, rfl, _, returns⟩ := returns.of_andThen
  obtain ⟨versionTrace, rest, version, rfl, _, returns⟩ := returns.of_andThen
  obtain ⟨commitTrace, rest, commit, rfl, asked, returns⟩ := returns.of_andThen
  obtain ⟨storageTrace, rest, storage, rfl, here, returns⟩ := returns.of_andThen
  obtain ⟨rfl, same⟩ := returns_pure.mp returns
  cases same
  have answer := runProbe_answered asked
  subst answer
  refine ⟨clusterTrace ++ versionTrace, storageTrace, ?_, ?_, ?_⟩
  · simp [answerOf, commitProbe]
  · intro event member
    apply reads event
    rcases List.mem_append.mp member with first | second
    · exact List.mem_append_left _ first
    · exact List.mem_append_right _ (List.mem_append_left _ second)
  · exact here.allowed (runProbe_sends (by decide))

/-- The install is sent once, after reads and before reads. -/
def InstallsOnce (request : UpgradeRequest) (late : ToolTrace) (trace : ToolTrace) : Prop :=
  ∃ reply rest, trace = late ++ ⟨installOp request, reply⟩ :: rest ∧
    (∀ event ∈ late, Sends ReadsOn request.device event.1) ∧
    ∀ event ∈ rest, Sends Shows request.device event.1

theorem InstallsOnce.prepend {first late trace : ToolTrace}
    (reads : ∀ event ∈ first, Sends ReadsOn request.device event.1)
    (installs : InstallsOnce request late trace) :
    InstallsOnce request (first ++ late) (first ++ trace) := by
  obtain ⟨reply, rest, rfl, between, after⟩ := installs
  refine ⟨reply, rest, (List.append_assoc ..).symm, ?_, after⟩
  intro event member
  rcases List.mem_append.mp member with early | later
  · exact reads event early
  · exact between event later

theorem InstallsOnce.append {late trace second : ToolTrace}
    (installs : InstallsOnce request late trace)
    (reads : ∀ event ∈ second, Sends Shows request.device event.1) :
    InstallsOnce request late (trace ++ second) := by
  obtain ⟨reply, rest, rfl, between, after⟩ := installs
  refine ⟨reply, rest ++ second, by simp, between, ?_⟩
  intro event member
  rcases List.mem_append.mp member with early | later
  · exact after event early
  · exact reads event later

def Marked (request : UpgradeRequest) (trace : ToolTrace) : Prop :=
  ∃ event ∈ trace, event.1 = installOp request

theorem unmarked {α : Type} {p : ToolProg α} (reads : p.Performs (Sends Shows request.device)) :
    p.Performs fun op => ¬op = installOp request :=
  reads.mono fun _ => sends_not_install

theorem install_once {trace : ToolTrace} {result : Except JmcpError Unit}
    (returns : Returns (install request) trace result) (marked : Marked request trace) :
    ∃ late, InstallsOnce request late trace := by
  obtain ⟨opening, rest, _, rfl, opened, sent, _⟩ :=
    returns.past_andThen (unmarked openSession_sends) marked
  obtain ⟨reply, rest, rfl, later⟩ := returns_step.mp sent
  refine ⟨opening, reply, rest, rfl, opened.allowed openSession_sends, ?_⟩
  exact later.allowed (installed_sends reply)

theorem baselineCommands_readsOn : ∀ command ∈ baselineCommands, ReadsOn command := by
  decide

/-- After the install only reads follow. -/
theorem installing_once {α : Type} {f : Unit → ToolProg (Except JmcpError α)} {trace : ToolTrace}
    {result : Except JmcpError α}
    (reads : ∀ value, (f value).Performs (Sends Shows request.device))
    (returns : Returns ((install request).andThen f) trace result)
    (marked : Marked request trace) : ∃ late, InstallsOnce request late trace := by
  obtain ⟨first, second, value, rfl, here, rest⟩ := returns_bind.mp returns
  have after : ∀ event ∈ second, Sends Shows request.device event.1 := by
    cases value with
    | ok value => exact rest.allowed (reads value)
    | error error =>
        obtain ⟨rfl, _⟩ := returns_pure.mp rest
        simp
  have inside : Marked request first := by
    obtain ⟨event, member, is⟩ := marked
    rcases List.mem_append.mp member with early | late
    · exact ⟨event, early, is⟩
    · exact absurd is (sends_not_install (after event late))
  obtain ⟨late, installs⟩ := install_once here inside
  exact ⟨late, installs.append after⟩

theorem runDestructive_once {facts : PreflightFacts} {warning : Option Text} {trace : ToolTrace}
    {result : Except JmcpError UpgradeReport}
    (returns : Returns (runDestructive request facts warning) trace result)
    (marked : Marked request trace) : ∃ late, InstallsOnce request late trace := by
  obtain ⟨baseline, rest, before, rfl, captured, returns, marked⟩ :=
    returns.past_andThen (unmarked (captureBaseline_sends baselineCommands_show)) marked
  obtain ⟨transfer, rest, _, rfl, sent, installing, marked⟩ :=
    Returns.past_andThen returns (unmarked ⟨trivial, fun _ => trivial⟩) marked
  have reads := captured.allowed (captureBaseline_sends baselineCommands_readsOn)
  have reads' : ∀ event ∈ transfer, Sends ReadsOn request.device event.1 :=
    sent.allowed ⟨trivial, fun _ => trivial⟩
  have once : ∃ late, InstallsOnce request late rest := by
    refine installing_once ?_ installing marked
    intro _
    refine Prog.Performs.andThen ?_ fun _ => ?_
    · exact ⟨trivial, fun _ => trivial⟩
    · exact (captureBaseline_sends baselineCommands_show).andThen fun _ => trivial
  obtain ⟨late, installs⟩ := once
  exact ⟨_, (installs.prepend reads').prepend reads⟩

theorem orFail_past {α : Type} {p : ToolProg (Except JmcpError α)} {f : α → UpgradeProg}
    {trace : ToolTrace} {result : Except UpgradeError UpgradeReport}
    (returns : Returns (orFail p f) trace result)
    (reads : p.Performs (Sends Shows request.device)) (marked : Marked request trace) :
    ∃ first second value, trace = first ++ second ∧ Returns p first (.ok value) ∧
      Returns (f value) second result ∧ Marked request second := by
  obtain ⟨first, second, value, rfl, here, rest, marked⟩ :=
    Returns.past returns (unmarked reads) marked
  cases value with
  | ok value => exact ⟨first, second, value, rfl, here, rest, marked⟩
  | error error =>
      obtain ⟨rfl, _⟩ := returns_pure.mp rest
      obtain ⟨event, member, _⟩ := marked
      cases member

/-- The preflight proceeds only where the answer shows no window. -/
theorem proceeds_shown {facts : PreflightFacts}
    (proceeds : preflightDecision context request facts = .proceed) :
    detectActiveCommitConfirmed facts.commitOutput = none := by
  cases shown : detectActiveCommitConfirmed facts.commitOutput with
  | none => rfl
  | some secs =>
      rw [preflightDecision, evaluatePreflight, shown] at proceeds
      split at proceeds
      · cases proceeds
      · split at proceeds
        · cases proceeds
        · split at proceeds <;> cases proceeds

theorem finished_unmarked {decision : PreflightDecision} {trace : ToolTrace}
    {result : Except UpgradeError UpgradeReport}
    (returns : Returns (.pure (finishPreflight request decision)) trace result) :
    ¬Marked request trace := by
  obtain ⟨rfl, _⟩ := returns_pure.mp returns
  rintro ⟨event, member, _⟩
  cases member

theorem dispatchLocked_installs {facts : PreflightFacts} {warning : Option Text}
    {trace : ToolTrace} {result : Except UpgradeError UpgradeReport}
    (returns : Returns (dispatchLocked context request facts warning) trace result)
    (marked : Marked request trace) :
    detectActiveCommitConfirmed facts.commitOutput = none ∧
      ∃ late, InstallsOnce request late trace := by
  rw [dispatchLocked] at returns
  cases decision : preflightDecision context request facts with
  | proceed =>
      rw [decision] at returns
      refine ⟨proceeds_shown decision, ?_⟩
      obtain ⟨first, second, value, rfl, here, rest⟩ := returns_bind.mp returns
      have nothing : second = [] := by
        cases value with
        | ok report => exact (returns_pure.mp rest).1
        | error error => exact (returns_pure.mp rest).1
      subst nothing
      rw [List.append_nil] at marked ⊢
      exact runDestructive_once here marked
  | _ =>
      rw [decision] at returns
      exact absurd marked (finished_unmarked returns)

/-- A run that sends the install: reads, a look for a window, reads, the install, and reads. -/
def InstallsAfterLook (request : UpgradeRequest) (trace : ToolTrace) : Prop :=
  ∃ early output late second, trace = early ++ answerOf request.device output :: second ∧
    detectActiveCommitConfirmed output = none ∧
    (∀ event ∈ early, Sends Shows request.device event.1) ∧ InstallsOnce request late second

theorem InstallsAfterLook.prepend {first trace : ToolTrace}
    (reads : ∀ event ∈ first, Sends Shows request.device event.1)
    (installs : InstallsAfterLook request trace) : InstallsAfterLook request (first ++ trace) := by
  obtain ⟨early, output, late, second, rfl, shown, before, once⟩ := installs
  refine ⟨first ++ early, output, late, second, (List.append_assoc ..).symm, shown, ?_, once⟩
  intro event member
  rcases List.mem_append.mp member with here | later
  · exact reads event here
  · exact before event later

theorem dispatchPreflight_installs {localSize : Nat} {facts : PreflightFacts}
    {warning : Option Text} {trace : ToolTrace} {result : Except UpgradeError UpgradeReport}
    (returns : Returns (dispatchPreflight context request localSize facts warning) trace result)
    (marked : Marked request trace) : InstallsAfterLook request trace := by
  rw [dispatchPreflight] at returns
  cases decision : preflightDecision context request facts with
  | proceed =>
      rw [decision] at returns
      obtain ⟨leasing, rest, _, rfl, leased, gathering, marked⟩ :=
        orFail_past returns acquireLease_sends marked
      obtain ⟨looking, rest, lockedFacts, rfl, looked, deciding, ahead⟩ :=
        orFail_past gathering (gatherFacts_sends factCommands_show) marked
      obtain ⟨early, late, rfl, before, after⟩ := gatherFacts_asks looked
      obtain ⟨shown, late', once⟩ := dispatchLocked_installs deciding ahead
      apply InstallsAfterLook.prepend (leased.allowed acquireLease_sends)
      exact ⟨early, _, _, late ++ rest, by simp, shown, before, once.prepend after⟩
  | _ =>
      rw [decision] at returns
      exact absurd marked (finished_unmarked returns)

theorem upgradeChecked_installs {warning : Option Text} {trace : ToolTrace}
    {result : Except UpgradeError UpgradeReport}
    (returns : Returns (upgradeChecked context request warning) trace result)
    (marked : Marked request trace) : InstallsAfterLook request trace := by
  have staged : (toolCall (.stagedFile request.sourcePath)).Performs
      (Sends Shows request.device) := ⟨trivial, fun _ => trivial⟩
  obtain ⟨staging, rest, kind, rfl, found, checking, marked⟩ :=
    Returns.past returns (unmarked staged) marked
  obtain ⟨none, rest, _, rfl, checked, digesting, marked⟩ := orFail_past checking trivial marked
  have digest : (localDigest request).Performs (Sends Shows request.device) :=
    ⟨trivial, fun _ => trivial⟩
  obtain ⟨digests, rest, localSize, rfl, digested, gathering, marked⟩ :=
    orFail_past digesting digest marked
  have gather : (gatherFacts request localSize).Performs (Sends Shows request.device) :=
    gatherFacts_sends factCommands_show
  obtain ⟨looking, rest, facts, rfl, looked, dispatching, ahead⟩ :=
    orFail_past gathering gather marked
  obtain ⟨rfl, _⟩ := returns_pure.mp checked
  apply InstallsAfterLook.prepend (found.allowed staged)
  apply InstallsAfterLook.prepend (digested.allowed digest)
  apply InstallsAfterLook.prepend (looked.allowed gather)
  exact dispatchPreflight_installs dispatching ahead

theorem upgradeJunos_installs {badByte : Text → Text} {trace : ToolTrace}
    {result : Except UpgradeError UpgradeReport}
    (returns : Returns (upgradeJunos context request badByte) trace result)
    (marked : Marked request trace) : InstallsAfterLook request trace := by
  obtain ⟨activity, rest, rfl, later⟩ := returns_step.mp returns
  have ahead : Marked request rest := by
    obtain ⟨event, member, is⟩ := marked
    rcases List.mem_cons.mp member with rfl | inside
    · cases is
    · exact ⟨event, inside, is⟩
  have first : ∀ event ∈ [(⟨.ensureActive, activity⟩ : ToolEvent)],
      Sends Shows request.device event.1 := by
    simp [Sends]
  apply InstallsAfterLook.prepend first
  have checked : Returns (orFail (.pure (checkRequest context request badByte))
      (upgradeChecked context request)) rest result := by
    cases activity with
    | cancelled =>
        obtain ⟨rfl, _⟩ := returns_pure.mp later
        obtain ⟨event, member, _⟩ := ahead
        cases member
    | active => exact later
    | expired => exact later
  obtain ⟨none, second, warning, rfl, allowed, running, inside⟩ := orFail_past checked trivial ahead
  obtain ⟨rfl, _⟩ := returns_pure.mp allowed
  exact upgradeChecked_installs running inside

end Run

/-! ## Windows on the router -/

/-- What other calls on this server and the device's own timer do in the meantime; the flag says
whether the device carried the call out. -/
inductive Elsewhere where
  | tool (event : ToolEvent) (carried : Bool)
  | changeSet (event : ApplyEvent) (carried : Bool)
  | confirmed (device : Text)
  | lapsed (device : Text)

/-- A confirmed commit leaves a window open, and a plain one settles the one before it. -/
def modeLeaves : CandidateMode → Option Bool
  | .commitConfirmed _ => some true
  | .commitWithComment _ => some false
  | .dryRun | .commitCheck | .discard => none

def Elsewhere.leaves (device : Text) : Elsewhere → Option Bool
  | .tool ⟨.bare (.transaction target request _), _⟩ true =>
      if target = device then modeLeaves request.mode else none
  | .changeSet ⟨.bare (.commitOperation key _ _ confirmTimeout), _⟩ true =>
      if key.device = device then some confirmTimeout.isSome else none
  | .confirmed target | .lapsed target => if target = device then some false else none
  | _ => none

abbrev UpgradeHistory := Interleaving ToolOp ToolRes Elsewhere

/-- Whether a window is pending on the device, before and after a stretch of history. -/
abbrev Windows (device : Text) (pending : Bool) (history : UpgradeHistory) (pending' : Bool) : Prop :=
  Woven World.quiet (Writing (Elsewhere.leaves device)) pending history pending'

/-- A window was opened and not settled, or one was pending at the start and nothing changed. -/
def LeftOpen (device : Text) (pending : Bool) (history : UpgradeHistory) : Prop :=
  LastWrites (Elsewhere.leaves device) true history ∨
    pending = true ∧ Untouched (Elsewhere.leaves device) history

/-- The run looks for a window before it installs and not again, so what is pending at the install
is what was left open since that look. -/
theorem pending_at_install_iff (context : UpgradeContext) (request : UpgradeRequest)
    (badByte : Text → Text) (before : UpgradeHistory) (reply : ToolRes (installOp request))
    (later : ToolTrace) (result : Except UpgradeError UpgradeReport) (start pending : Bool)
    (returns : Returns (upgradeJunos context request badByte)
      (ownTrace before ++ ⟨installOp request, reply⟩ :: later) result)
    (windows : Windows request.device start before pending) :
    ∃ early output late seen, before = early ++ .own (answerOf request.device output) :: late ∧
      detectActiveCommitConfirmed output = none ∧
      (∀ event, .own event ∈ late → event.1 ≠ commitProbe request.device) ∧
      Windows request.device start early seen ∧
      (pending = false ↔ ¬LeftOpen request.device seen late) := by
  have marked : Marked request (ownTrace before ++ ⟨installOp request, reply⟩ :: later) :=
    ⟨_, List.mem_append_right _ List.mem_cons_self, rfl⟩
  obtain ⟨first, output, between, second, split, shown, reads, reply', rest, rfl, readsOn, after⟩ :=
    upgradeJunos_installs returns marked
  have place : ownTrace before = first ++ answerOf request.device output :: between := by
    have same : ownTrace before ++ ⟨installOp request, reply⟩ :: later =
        (first ++ answerOf request.device output :: between) ++ ⟨installOp request, reply'⟩ :: rest := by
      rw [split]
      simp
    refine (append_cons_unique (fun event : ToolEvent => event.1 = installOp request) same rfl
      ?_ fun event member => sends_not_install (after event member)).1
    intro event member
    apply sends_not_install
    rcases List.mem_append.mp member with early | late
    · exact reads event early
    · rcases List.mem_cons.mp late with rfl | late
      · exact ⟨rfl, by decide⟩
      · exact readsOn_shows (readsOn event late)
  obtain ⟨early, late, rfl, _, own⟩ := ownTrace_split place
  obtain ⟨seen, upTo, on⟩ := woven_append.mp windows
  obtain ⟨seen', same, since⟩ := woven_own.mp on
  cases same
  refine ⟨early, output, late, seen, rfl, shown, ?_, upTo, ?_⟩
  · intro event member asks
    rw [← mem_ownTrace, own] at member
    have on := readsOn event member
    rw [asks] at on
    exact on.2.2 rfl
  · rw [LeftOpen, ← woven_register_iff since, Bool.not_eq_true]

/-! ## A load during the transfer -/

def bench : UpgradeContext :=
  { campus with
    inventory := fun _ => .ok ⟨⟨"192.0.2.1".toList, 830, .local⟩, .sshKey⟩
    parseF64Scaled := capturedSizes }

def benchUpgrade : UpgradeRequest where
  toUpgradeJunosArgs := confirmedUpgrade
  sourcePath := "junos-25.4R1.12.tgz".toList
  timeout := 3600

def printed (command output : Text) : ToolEvent :=
  ⟨.raced (.cli confirmedUpgrade.device command),
    (Raced.completed (.ok output) : Raced (Except RustEzError Text))⟩

def openedSession : ToolEvent :=
  ⟨.raced (.openSession confirmedUpgrade.device),
    (Raced.completed (.ok ()) : Raced (Except JmcpError Unit))⟩

def noEntries : PreflightFacts := standaloneFacts []

def factsTrace : ToolTrace :=
  [openedSession, printed clusterCommand noEntries.clusterStatusOutput,
   printed versionCommand noEntries.versionOutput, printed commitCommand noEntries.commitOutput,
   printed storageCommand noEntries.storageOutput]

def checksTrace : ToolTrace :=
  [⟨.ensureActive, Activity.active⟩,
   ⟨.bare (.stagedFile benchUpgrade.sourcePath), (some .regular : Option FileKind)⟩,
   ⟨.raced (.digest benchUpgrade.sourcePath),
     (Raced.completed (.ok 1000000) : Raced (Except JmcpError Nat))⟩]

def leaseTrace : ToolTrace :=
  [⟨.raced (.lease confirmedUpgrade.device),
    (Raced.completed (.ok ()) : Raced (Except JmcpError Unit))⟩]

def baselineTrace : ToolTrace := openedSession :: baselineCommands.map fun command => printed command []

def transferTrace : ToolTrace :=
  [⟨.bare (.transfer confirmedUpgrade.device benchUpgrade.sourcePath 3600),
    (.ok () : Except JmcpError Unit)⟩]

theorem factsTrace_returns :
    Returns (gatherFacts benchUpgrade 1000000) factsTrace (.ok noEntries) := by
  iterate 5 refine .step ?_
  exact .pure _

def blankBaseline : Baseline := baselineCommands.map fun command => (command, [])

theorem baselineTrace_returns :
    Returns (captureBaseline benchUpgrade) baselineTrace (.ok blankBaseline) := by
  iterate 7 refine .step ?_
  exact .pure _

theorem bench_proceeds : preflightDecision bench benchUpgrade noEntries = .proceed := by
  decide

theorem orFail_returns {α : Type} {p : ToolProg (Except JmcpError α)} {f : α → UpgradeProg}
    {first second : ToolTrace} {value : α} {result : Except UpgradeError UpgradeReport}
    (here : Returns p first (.ok value)) (rest : Returns (f value) second result) :
    Returns (orFail p f) (first ++ second) result :=
  returns_bind.mpr ⟨first, second, .ok value, rfl, here, rest⟩

def installTrace : ToolTrace :=
  [openedSession, ⟨installOp benchUpgrade, (.ok [] : Except RustEzError Text)⟩,
   ⟨.ensureActive, Activity.cancelled⟩]

theorem installTrace_returns :
    Returns (install benchUpgrade) installTrace (.error .cancelled) := by
  iterate 3 refine .step ?_
  exact .pure _

theorem destructive_returns :
    Returns (runDestructive benchUpgrade noEntries none)
      (baselineTrace ++ (transferTrace ++ (installTrace ++ []))) (.error .cancelled) := by
  refine returns_andThen_ok baselineTrace_returns ?_
  refine returns_andThen_ok (.step (.pure _) : Returns (toolCall (.transfer _ _ _)) transferTrace _) ?_
  exact returns_bind.mpr ⟨installTrace, [], .error .cancelled, rfl, installTrace_returns, .pure _⟩

theorem locked_returns :
    Returns (dispatchLocked bench benchUpgrade noEntries none)
      (baselineTrace ++ (transferTrace ++ (installTrace ++ [])) ++ []) (.error (.tool .cancelled)) := by
  rw [dispatchLocked, bench_proceeds]
  exact returns_bind.mpr ⟨_, [], .error .cancelled, rfl, destructive_returns, .pure _⟩

theorem dispatched_returns :
    Returns (dispatchPreflight bench benchUpgrade 1000000 noEntries none)
      (leaseTrace ++ (factsTrace ++ (baselineTrace ++ (transferTrace ++ (installTrace ++ [])) ++ [])))
      (.error (.tool .cancelled)) := by
  rw [dispatchPreflight, bench_proceeds]
  refine orFail_returns (.step (.pure _) : Returns (acquireLease benchUpgrade) leaseTrace _) ?_
  exact orFail_returns factsTrace_returns locked_returns

theorem bench_returns :
    Returns (upgradeJunos bench benchUpgrade fun _ => [])
      (checksTrace ++ (factsTrace ++ (leaseTrace ++
        (factsTrace ++ (baselineTrace ++ (transferTrace ++ (installTrace ++ [])) ++ [])))))
      (.error (.tool .cancelled)) := by
  have gathered : Returns (orFail (gatherFacts benchUpgrade 1000000) fun facts =>
      dispatchPreflight bench benchUpgrade 1000000 facts none) _ _ :=
    orFail_returns factsTrace_returns dispatched_returns
  iterate 3 refine .step ?_
  exact gathered

/-- Everything up to the transfer, and from there to the install. -/
def untilTransfer : UpgradeHistory :=
  (checksTrace ++ factsTrace ++ leaseTrace ++ factsTrace ++ baselineTrace).map .own

def fromTransfer : UpgradeHistory := (transferTrace ++ [openedSession]).map .own

def windowOpened : UpgradeHistory :=
  (windowTrace confirmedUpgrade.device).map fun event => .other (.tool event true)

theorem own_quiet {device : Text} {pending : Bool} (trace : ToolTrace) :
    Windows device pending (trace.map .own) pending := by
  induction trace with
  | nil => exact .refl _
  | cons event rest ih => exact .own rfl ih

theorem undisturbed_upgrade_installs :
    ∃ early output late seen,
      untilTransfer ++ fromTransfer = early ++ .own (answerOf benchUpgrade.device output) :: late ∧
      detectActiveCommitConfirmed output = none ∧
      (∀ event, .own event ∈ late → event.1 ≠ commitProbe benchUpgrade.device) ∧
      Windows benchUpgrade.device false early seen ∧
      (false = false ↔ ¬LeftOpen benchUpgrade.device seen late) := by
  refine pending_at_install_iff bench benchUpgrade (fun _ => []) (untilTransfer ++ fromTransfer)
    (.ok [] : Except RustEzError Text) [⟨.ensureActive, Activity.cancelled⟩] _ false false
    bench_returns ?_
  exact woven_append.mpr ⟨false, own_quiet _, own_quiet _⟩

/-- The same run with a `load_and_commit_config` in between installs over its window. -/
theorem load_opens_window_before_install :
    Returns (loadAndCommitConfig bench.toToolContext (bannerOn confirmedUpgrade.device))
        (windowTrace confirmedUpgrade.device) (.ok bannerReport) ∧
      ∃ reply later result, Returns (upgradeJunos bench benchUpgrade fun _ => [])
        (ownTrace (untilTransfer ++ windowOpened ++ fromTransfer) ++
          ⟨installOp benchUpgrade, reply⟩ :: later) result ∧
        Windows benchUpgrade.device false (untilTransfer ++ windowOpened ++ fromTransfer) true := by
  refine ⟨windowTrace_returns rfl, (.ok [] : Except RustEzError Text),
    [⟨.ensureActive, Activity.cancelled⟩], _, bench_returns, ?_⟩
  refine woven_append.mpr ⟨true, woven_append.mpr ⟨false, own_quiet _, ?_⟩, own_quiet _⟩
  exact .other rfl (.other rfl (.refl _))

end JunosMcp.Upgrade
