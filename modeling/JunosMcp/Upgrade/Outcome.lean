import JunosMcp.Upgrade.OpenWindows

/-!
# What an upgrade comes to

A run that reports an upgrade has read facts under the lease that let it go ahead, pushed the image,
had the install accepted, and seen the new version. Every other end but an error behind the install
leaves the device as it was.
-/

namespace JunosMcp.Upgrade
open Lib ChangeSet

section Outcome
variable {context : UpgradeContext} {request : UpgradeRequest}

/-! ## The decision -/

/-- The facts of a standalone device on another version, with no window open and room to install. -/
structure Ready (context : UpgradeContext) (request : UpgradeRequest) (facts : PreflightFacts)
    (current : Text) (free : Nat) : Prop where
  standalone : detectClusterActive facts.clusterStatusOutput = false
  version : parseJunosVersion facts.versionOutput = some current
  behind : current ≠ request.targetVersion
  settled : detectActiveCommitConfirmed facts.commitOutput = none
  storage : parseStorageFreeBytes context.parseF64Scaled facts.storageOutput = some free
  room : requiredBytes facts.localImageSize ≤ free

abbrev Reads (request : UpgradeRequest) (trace : ToolTrace) : Prop :=
  ∀ event ∈ trace, Sends Shows request.device event.1

/-- The facts were read somewhere in the trace. -/
def FactsRead (request : UpgradeRequest) (localSize : Nat) (facts : PreflightFacts)
    (trace : ToolTrace) : Prop :=
  ∃ early gathered, trace = early ++ gathered ∧
    Returns (gatherFacts request localSize) gathered (.ok facts)

def leased (device : Text) : ToolEvent :=
  ⟨.raced (.lease device), (Raced.completed (.ok ()) : Raced (Except JmcpError Unit))⟩

def transferred (request : UpgradeRequest) : ToolEvent :=
  ⟨.bare (.transfer request.device request.sourcePath request.timeout),
    (.ok () : Except JmcpError Unit)⟩

def freshSession (device : Text) : ToolEvent :=
  ⟨.raced (.openSession device), (Raced.completed (.ok ()) : Raced (Except JmcpError Unit))⟩

/-- Everything up to the install: facts read under the lease that let the run go ahead, the
baseline, and the image on the device. -/
def Prepared (context : UpgradeContext) (request : UpgradeRequest) (localSize : Nat)
    (current : Text) (before : Baseline) (trace : ToolTrace) : Prop :=
  ∃ early locked baseline facts free,
    trace = early ++ leased request.device :: (locked ++
      (baseline ++ [transferred request, freshSession request.device])) ∧
    Reads request early ∧
    Returns (gatherFacts request localSize) locked (.ok facts) ∧
    Ready context request facts current free ∧ request.confirm = true ∧
    Returns (captureBaseline request) baseline (.ok before)

/-- The install command was answered, or cut off by the reboot. -/
def Accepted : Except RustEzError Text → Prop
  | .ok _ => True
  | .error error => installErrorIndicatesSessionDrop error.display = true

/-- The new version was seen, and the baseline captured once more. -/
def SeenUpgraded (request : UpgradeRequest) (after : Baseline) (trace : ToolTrace) : Prop :=
  ∃ checks shown late, trace = checks ++ ⟨.bare (.waitForVersion request.device request.targetVersion),
      (.ok shown : Except JmcpError Text)⟩ :: late ∧
    (∀ event ∈ checks, event.1 = .ensureActive) ∧
    Returns (captureBaseline request) late (.ok after)

/-- How a run ends that has passed its checks. -/
inductive Outcome (context : UpgradeContext) (request : UpgradeRequest) (localSize : Nat)
    (warning : Option Text) (trace : ToolTrace) : Except UpgradeError UpgradeReport → Prop where
  | refused (error : JmcpError) :
      Reads request trace → Outcome context request localSize warning trace (.error (.tool error))
  | unconfirmed (facts : PreflightFacts) (current : Text) (free : Nat) :
      Reads request trace → FactsRead request localSize facts trace →
      Ready context request facts current free → request.confirm = false →
      Outcome context request localSize warning trace (.error (.confirmationRequired
        (confirmationPayload facts request.toUpgradeJunosArgs current free)))
  | already (facts : PreflightFacts) :
      Reads request trace → FactsRead request localSize facts trace →
      parseJunosVersion facts.versionOutput = some request.targetVersion →
      Outcome context request localSize warning trace
        (.ok (.alreadyAtTarget request.targetVersion request.targetVersion))
  | failed (current : Text) (before : Baseline) (prepared after : ToolTrace)
      (reply : Except RustEzError Text) (error : JmcpError) :
      Prepared context request localSize current before prepared →
      trace = prepared ++ ⟨installOp request, reply⟩ :: after → Reads request after →
      Outcome context request localSize warning trace (.error (.tool error))
  | upgraded (current : Text) (before after : Baseline) (prepared later : ToolTrace)
      (reply : Except RustEzError Text) :
      Prepared context request localSize current before prepared →
      trace = prepared ++ ⟨installOp request, reply⟩ :: later → Accepted reply →
      SeenUpgraded request after later →
      Outcome context request localSize warning trace
        (.ok (.upgraded current request.targetVersion before after warning))

theorem reads_append {first second : ToolTrace} (here : Reads request first)
    (there : Reads request second) : Reads request (first ++ second) := by
  intro event member
  rcases List.mem_append.mp member with early | late
  · exact here event early
  · exact there event late

theorem FactsRead.prepend {first trace : ToolTrace} {localSize : Nat} {facts : PreflightFacts}
    (read : FactsRead request localSize facts trace) :
    FactsRead request localSize facts (first ++ trace) := by
  obtain ⟨early, gathered, rfl, returns⟩ := read
  exact ⟨first ++ early, gathered, (List.append_assoc ..).symm, returns⟩

theorem Prepared.prepend {first trace : ToolTrace} {localSize : Nat} {current : Text}
    {before : Baseline} (reads : Reads request first)
    (prepared : Prepared context request localSize current before trace) :
    Prepared context request localSize current before (first ++ trace) := by
  obtain ⟨early, locked, baseline, facts, free, rfl, looked, rest⟩ := prepared
  exact ⟨first ++ early, locked, baseline, facts, free, (List.append_assoc ..).symm,
    reads_append reads looked, rest⟩

theorem Outcome.prepend {first trace : ToolTrace} {localSize : Nat} {warning : Option Text}
    {result : Except UpgradeError UpgradeReport} (reads : Reads request first)
    (outcome : Outcome context request localSize warning trace result) :
    Outcome context request localSize warning (first ++ trace) result := by
  cases outcome with
  | refused error looked => exact .refused error (reads_append reads looked)
  | unconfirmed facts current free looked read ready confirm =>
      exact .unconfirmed facts current free (reads_append reads looked) read.prepend ready confirm
  | already facts looked read version =>
      exact .already facts (reads_append reads looked) read.prepend version
  | failed current before prepared after reply error ready shape looked =>
      subst shape
      exact .failed current before (first ++ prepared) after reply error (ready.prepend reads)
        (List.append_assoc ..).symm looked
  | upgraded current before after prepared later reply ready shape accepted verified =>
      subst shape
      exact .upgraded current before after (first ++ prepared) later reply (ready.prepend reads)
        (List.append_assoc ..).symm accepted verified

/-! ## The run -/

/-- The first part ends the run with its error, or the rest goes on from its value. -/
theorem returns_orFail {α : Type} {p : ToolProg (Except JmcpError α)} {f : α → UpgradeProg}
    {trace : ToolTrace} {result : Except UpgradeError UpgradeReport}
    (returns : Returns (orFail p f) trace result) :
    (∃ error, Returns p trace (.error error) ∧ result = .error (.tool error)) ∨
      ∃ first second value, trace = first ++ second ∧ Returns p first (.ok value) ∧
        Returns (f value) second result := by
  obtain ⟨first, second, value, rfl, here, rest⟩ := returns_bind.mp returns
  cases value with
  | ok value => exact .inr ⟨first, second, value, rfl, here, rest⟩
  | error error =>
      obtain ⟨rfl, rfl⟩ := returns_pure.mp rest
      rw [List.append_nil]
      exact .inl ⟨error, here, rfl⟩

/-- A run fails with reads only, or it goes on from what the reads gave. -/
theorem orFail_outcome {α : Type} {p : ToolProg (Except JmcpError α)} {f : α → UpgradeProg}
    {localSize : Nat} {warning : Option Text} {trace : ToolTrace}
    {result : Except UpgradeError UpgradeReport} (returns : Returns (orFail p f) trace result)
    (reads : p.Performs (Sends Shows request.device))
    (rest : ∀ first second value, trace = first ++ second → Returns p first (.ok value) →
      Returns (f value) second result → Outcome context request localSize warning second result) :
    Outcome context request localSize warning trace result := by
  rcases returns_orFail returns with ⟨error, here, rfl⟩ | ⟨first, second, value, rfl, here, later⟩
  · exact .refused error (here.allowed reads)
  · exact (rest first second value rfl here later).prepend (here.allowed reads)

theorem SeenUpgraded.behind {first trace : ToolTrace} {after : Baseline}
    (looks : ∀ event ∈ first, event.1 = .ensureActive) (verified : SeenUpgraded request after trace) :
    SeenUpgraded request after (first ++ trace) := by
  obtain ⟨checks, shown, late, rfl, only, captured⟩ := verified
  refine ⟨first ++ checks, shown, late, (List.append_assoc ..).symm, ?_, captured⟩
  intro event member
  rcases List.mem_append.mp member with early | later
  · exact looks event early
  · exact only event later

/-- The staged image is a regular file, and its size was read. -/
def Admitted (request : UpgradeRequest) (localSize : Nat) (trace rest : ToolTrace) : Prop :=
  ∃ activity : Activity, activity ≠ .cancelled ∧ trace = ⟨.ensureActive, activity⟩ ::
    ⟨.bare (.stagedFile request.sourcePath), (some .regular : Option FileKind)⟩ ::
    ⟨.raced (.digest request.sourcePath),
      (Raced.completed (.ok localSize) : Raced (Except JmcpError Nat))⟩ :: rest

end Outcome

/-! ## An upgrade that goes through -/

end JunosMcp.Upgrade
