import JunosMcp.Srx.PackageRuns

/-!
# What a confirmed download installs

The download operation is sent without a version, so the device fetches the latest package of that
moment, whichever version the consumed plan is for.
-/

namespace JunosMcp.Srx

open Lib

/-- A text member of a plan. -/
def textMember (key : String) : Json → Option Text
  | .object members => match members.lookup key.toList with
      | some (.string text) => some text
      | _ => none
  | _ => none

def Service.downloadAndInstall : Service → LicenseCrates → PackageArgs → PackageCaller →
    PackageProg PackageResponse
  | .idp => Idp.downloadAndInstall
  | .appid => Appid.downloadAndInstall

namespace Package

/-- What the device fetches: the version it is asked for, and else the latest of that moment. -/
def fetchedVersion (rpcArgs : List (Text × Text)) (latest : Text) : Text :=
  (rpcArgs.lookup "version".toList).getD latest

def Calls (name : String) (op : PackageOp) : Prop :=
  ∃ rpcArgs, op = .device (.call name rpcArgs)

def Silent (name : String) (trace : PackageTrace) : Prop := ∀ event ∈ trace, ¬Calls name event.1

/-- The version is the target of the one plan that was consumed. -/
def Approved (profile : PackageProfile) (before : PackageTrace) (version : Text) : Prop :=
  ∃ plan target, consumedPlans before = [plan] ∧
    textMember "target_package_version" plan = some target ∧
    profile.leadingVersionNumber version = profile.leadingVersionNumber target

/-- Every download fetches, and every install installs, the version of the plan. At the position `n`
of the trace the server's latest version is `latestAt n`. -/
structure PlanExecuted (profile : PackageProfile) (latestAt : Nat → Text) (trace : PackageTrace) :
    Prop where
  downloads : ∀ before rpcArgs answer behind,
    trace = before ++ ⟨.device (.call profile.rpcDownload rpcArgs), answer⟩ :: behind →
    Approved profile before (fetchedVersion rpcArgs (latestAt before.length))
  installs : ∀ before rpcArgs answer behind,
    trace = before ++ ⟨.device (.call profile.rpcInstall rpcArgs), answer⟩ :: behind →
    ∃ first downloadArgs reply between,
      before = first ++ ⟨.device (.call profile.rpcDownload downloadArgs), reply⟩ :: between ∧
      Silent profile.rpcDownload between ∧
      Approved profile before (fetchedVersion downloadArgs (latestAt first.length))

/-! ## The destructive part -/

section Destructive

variable {crates : LicenseCrates} {profile : PackageProfile} {args : PackageArgs}
variable {trace : PackageTrace}

theorem actAndPoll_cases {rpc : String} {probe : Probe} {detailElement action : String}
    {started : Nat} {result : Except SrxError Unit}
    (returned : Returns (actAndPoll crates profile args rpc probe detailElement action started)
      trace result) :
    (∃ answer error, trace = [⟨.device .rpc, answer⟩] ∧ result = .error error) ∨
    ∃ answer polled, trace = ⟨.device .rpc, .ok ()⟩ :: ⟨.device (.call rpc []), answer⟩ :: polled ∧
      ∀ looked, looked ≠ probe → ∀ event ∈ polled, Avoids looked event.1 := by
  rcases returns_andThen.mp returned with ⟨error, here, rfl⟩ | ⟨called, polled, _, rfl, here, rest⟩
  · rcases callOnce_sends here with ⟨answer, _, rfl, -⟩ | ⟨answer, rfl⟩
    · exact .inl ⟨answer, error, rfl, rfl⟩
    · exact .inr ⟨answer, [], rfl, by simp⟩
  · rw [returns_callOnce.mp here]
    refine .inr ⟨_, polled, rfl, fun looked other => rest.allowed ?_⟩
    exact (pollFrom_avoids other).bind fun _ => trivial

theorem not_calls_of_avoids {name : String} {op : PackageOp} (avoids : Avoids (.flat name) op) :
    ¬Calls name op := by
  rintro ⟨rpcArgs, rfl⟩
  simp [Avoids, Probe.asks] at avoids

theorem silent_of_avoids {name : String} (avoids : ∀ event ∈ trace, Avoids (.flat name) event.1) :
    Silent name trace :=
  fun event mem => not_calls_of_avoids (avoids event mem)

theorem silent_append {name : String} {first second : PackageTrace} :
    Silent name (first ++ second) ↔ Silent name first ∧ Silent name second :=
  List.forall_mem_append

theorem silent_opened {name : String} {answer : PackageAnswer (.device .rpc)} :
    Silent name [⟨.device .rpc, answer⟩] := by
  simp [Silent, Calls]

/-- The call is sent at most once, without arguments. -/
def AtMostOnce (name : String) (trace : PackageTrace) : Prop :=
  Silent name trace ∨ ∃ first answer second,
    trace = first ++ ⟨.device (.call name []), answer⟩ :: second ∧
      Silent name first ∧ Silent name second

theorem AtMostOnce.append_silent {name : String} {first second : PackageTrace}
    (once : AtMostOnce name first) (silent : Silent name second) :
    AtMostOnce name (first ++ second) := by
  rcases once with quiet | ⟨before, answer, behind, rfl, early, late⟩
  · exact .inl (silent_append.mpr ⟨quiet, silent⟩)
  · exact .inr ⟨before, answer, behind ++ second, by simp, early, silent_append.mpr ⟨late, silent⟩⟩

theorem AtMostOnce.silent_append {name : String} {first second : PackageTrace}
    (silent : Silent name first) (once : AtMostOnce name second) :
    AtMostOnce name (first ++ second) := by
  rcases once with quiet | ⟨before, answer, behind, rfl, early, late⟩
  · exact .inl (Package.silent_append.mpr ⟨silent, quiet⟩)
  · exact .inr ⟨first ++ before, answer, behind, by simp,
      Package.silent_append.mpr ⟨silent, early⟩, late⟩

/-- What the workflow looks for is different. -/
theorem rpcs_apart (service : Service) :
    service.profile.rpcDownload ≠ service.profile.rpcInstall ∧
    (∀ probe ∈ [service.profile.downloadStatus, service.profile.installStatus],
      Probe.flat service.profile.rpcDownload ≠ probe ∧
      Probe.flat service.profile.rpcInstall ≠ probe) ∧
    ∀ probe ∈ planningProbes service.profile,
      Probe.flat service.profile.rpcDownload ≠ probe ∧
      Probe.flat service.profile.rpcInstall ≠ probe := by
  cases service <;> decide

variable {service : Service}

theorem installAndPoll_once {started : Nat} {result : Except SrxError Unit}
    (returned : Returns (installAndPoll crates service.profile args started) trace result) :
    Silent service.profile.rpcDownload trace ∧ AtMostOnce service.profile.rpcInstall trace := by
  obtain ⟨apart, statuses, -⟩ := rpcs_apart service
  obtain ⟨downloading, installing⟩ := statuses service.profile.installStatus (by simp)
  constructor
  · apply silent_of_avoids
    exact returned.allowed (actAndPoll_avoids (by simpa using apart) downloading)
  · rcases actAndPoll_cases returned with ⟨answer, _, rfl, -⟩ | ⟨answer, polled, rfl, quiet⟩
    · exact .inl silent_opened
    · exact .inr ⟨[⟨.device .rpc, .ok ()⟩], answer, polled, rfl, silent_opened,
        silent_of_avoids (quiet _ installing)⟩

/-- The download comes once at most, and the install comes after it. -/
theorem runDestructive_cases {snapshot : CheckServerData} {result : Except SrxError PackageResponse}
    (returned : Returns (runDestructive crates service.profile args snapshot) trace result) :
    (Silent service.profile.rpcDownload trace ∧ Silent service.profile.rpcInstall trace) ∨
    ∃ first answer behind,
      trace = first ++ ⟨.device (.call service.profile.rpcDownload []), answer⟩ :: behind ∧
      Silent service.profile.rpcDownload first ∧ Silent service.profile.rpcInstall first ∧
      Silent service.profile.rpcDownload behind ∧
      AtMostOnce service.profile.rpcInstall behind := by
  obtain ⟨-, statuses, others⟩ := rpcs_apart service
  obtain ⟨downloading, installing⟩ := statuses service.profile.downloadStatus (by simp)
  obtain ⟨information, information'⟩ := others (.flat service.profile.rpcPackageInformation)
    (by simp [planningProbes])
  obtain ⟨started, acted, rfl, acting⟩ := returns_step.mp returned
  dsimp only at acting
  split at acting
  · obtain ⟨rfl, -⟩ := returns_pure.mp acting
    exact .inl (by simp [Silent, Calls])
  have first : ∀ name, Silent name
      ([⟨.now, started⟩, ⟨.device .rpc, .ok ()⟩] : PackageTrace) := by
    intro name
    simp [Silent, Calls]
  rcases returns_andThen.mp acting with ⟨error, here, rfl⟩ |
    ⟨downloaded, rest, _, rfl, here, continuing⟩
  · rcases actAndPoll_cases here with ⟨answer, _, rfl, -⟩ | ⟨answer, polled, rfl, quiet⟩
    · exact .inl (by simp [Silent, Calls])
    · exact .inr ⟨_, answer, polled, rfl, first _, first _,
        silent_of_avoids (quiet _ downloading), .inl (silent_of_avoids (quiet _ installing))⟩
  rcases actAndPoll_cases here with ⟨_, _, -, failed⟩ | ⟨answer, polled, rfl, quiet⟩
  · cases failed
  refine .inr ⟨_, answer, polled ++ rest, rfl, first _, first _, silent_append.mpr
    ⟨silent_of_avoids (quiet _ downloading), ?_⟩,
    AtMostOnce.silent_append (silent_of_avoids (quiet _ installing)) ?_⟩
  all_goals
    rcases returns_andThen.mp continuing with ⟨error, there, rfl⟩ |
      ⟨installed, last, _, rfl, there, verifying⟩
  · exact (installAndPoll_once there).1
  · exact silent_append.mpr ⟨(installAndPoll_once there).1,
      silent_of_avoids (verifying.allowed ((verifyInstalledVersion_avoids information).andThen
        fun _ => ⟨trivial, fun _ => trivial⟩))⟩
  · exact (installAndPoll_once there).2
  · exact (installAndPoll_once there).2.append_silent
      (silent_of_avoids (verifying.allowed ((verifyInstalledVersion_avoids information').andThen
        fun _ => ⟨trivial, fun _ => trivial⟩)))

end Destructive

/-! ## The whole run -/

section Execution

variable {crates : LicenseCrates} {args : PackageArgs} {caller : PackageCaller}
variable {service : Service} {trace : PackageTrace} {result : Except SrxError PackageResponse}

theorem buildPlan_target {style : PlanStyle} {snapshot : CheckServerData} {pinned : Option Text}
    {blockers : List Text} {plan : ConfirmationPlan}
    (built : buildPlan style snapshot pinned blockers = .needsConfirmation plan) :
    textMember "target_package_version" plan.toJson =
      some (resolveTarget snapshot.latestVersion pinned).1 := by
  dsimp only [buildPlan] at built
  split at built
  · cases built
  · cases built
    rfl

/-- A confirmed run up to its destructive part. -/
def Confirmed.approval {workflow : String}
    {planning : PackageProg (CheckServerData × PlanOutcome)}
    {destroy : CheckServerData → PackageProg PackageResponse}
    (run : Confirmed args caller workflow planning destroy trace result) : PackageTrace :=
  ⟨.validateBinding run.token (bindingOf args caller), .ok run.validated⟩ ::
    ⟨.acquire args.router workflow.toList run.validated.correlationId, .ok ()⟩ :: (run.planned ++
      [⟨.consume run.token (bindingOf args caller) run.plan.toJson, .ok run.confirmed⟩])

section Confirmed

variable {workflow : String} {planning : PackageProg (CheckServerData × PlanOutcome)}
variable {destroy : CheckServerData → PackageProg PackageResponse}
variable (run : Confirmed args caller workflow planning destroy trace result)

theorem Confirmed.split : trace = run.approval ++ run.destroyed := by
  apply run.trace_eq.trans
  simp [approval]

theorem Confirmed.silent {name : String} (planned : Silent name run.planned) :
    Silent name run.approval := by
  intro event mem
  simp only [approval, List.mem_cons, List.mem_append, List.not_mem_nil, or_false] at mem
  rcases mem with rfl | rfl | mem | rfl
  · rintro ⟨_, same⟩
    cases same
  · rintro ⟨_, same⟩
    cases same
  · exact planned event mem
  · rintro ⟨_, same⟩
    cases same

theorem Confirmed.consumed (planned : consumedPlans run.planned = []) :
    consumedPlans run.approval = [run.plan.toJson] := by
  rw [approval, consumedPlans_cons, consumedPlans_cons, consumedPlans_append, planned]
  rfl

theorem Confirmed.replies (probe : Probe) :
    repliesTo probe run.approval = repliesTo probe run.planned := by
  rw [approval, repliesTo_cons, repliesTo_cons, repliesTo_append]
  exact List.append_nil _

end Confirmed

theorem checkServer_apart (service : Service) :
    service.profile.checkServer ≠ .flat service.profile.rpcDownload ∧
    service.profile.checkServer ≠ service.profile.downloadStatus ∧
    service.profile.checkServer ≠ .flat service.profile.rpcInstall ∧
    service.profile.checkServer ≠ service.profile.installStatus ∧
    service.profile.checkServer ≠ .flat service.profile.rpcPackageInformation := by
  cases service <;> decide

theorem Silent.not_called {name : String} {before behind : PackageTrace}
    {rpcArgs : List (Text × Text)} {answer : PackageAnswer (.device (.call name rpcArgs))}
    (silent : Silent name trace)
    (found : trace = before ++ ⟨.device (.call name rpcArgs), answer⟩ :: behind) : False :=
  silent _ (by rw [found]; exact List.mem_append_right _ List.mem_cons_self) ⟨rpcArgs, rfl⟩

theorem approved_iff {profile : PackageProfile} {before : PackageTrace} {plan : Json}
    {target version : Text} (consumed : consumedPlans before = [plan])
    (member : textMember "target_package_version" plan = some target) :
    Approved profile before version ↔
      profile.leadingVersionNumber version = profile.leadingVersionNumber target := by
  constructor
  · rintro ⟨plan', target', consumed', member', same⟩
    rw [consumed] at consumed'
    cases consumed'
    rw [member] at member'
    cases member'
    exact same
  · intro same
    exact ⟨plan, target, consumed, member, same⟩

/-- Everything hangs on what the server offers when the download is sent. -/
theorem executed_iff_of_download {latestAt : Nat → Text} {before behind : PackageTrace}
    {answer : PackageAnswer (.device (.call service.profile.rpcDownload []))} {plan : Json}
    {target : Text}
    (whole : trace = before ++ ⟨.device (.call service.profile.rpcDownload []), answer⟩ :: behind)
    (earlyDownload : Silent service.profile.rpcDownload before)
    (earlyInstall : Silent service.profile.rpcInstall before)
    (lateDownload : Silent service.profile.rpcDownload behind)
    (install : AtMostOnce service.profile.rpcInstall behind)
    (consumed : consumedPlans before = [plan]) (rest : consumedPlans behind = [])
    (member : textMember "target_package_version" plan = some target) :
    PlanExecuted service.profile latestAt trace ↔
      service.profile.leadingVersionNumber (latestAt before.length) =
        service.profile.leadingVersionNumber target := by
  obtain ⟨apart, -⟩ := rpcs_apart service
  constructor
  · intro executed
    exact (approved_iff consumed member).mp (executed.downloads before [] answer behind whole)
  intro same
  constructor
  · intro before' rpcArgs answer' behind' found
    obtain ⟨rfl, event, rfl⟩ := append_cons_unique
      (fun event : Σ op, PackageAnswer op => Calls service.profile.rpcDownload event.1) (found.symm.trans whole)
      ⟨rpcArgs, rfl⟩ earlyDownload lateDownload
    cases event
    exact (approved_iff consumed member).mpr same
  · intro before' rpcArgs answer' behind' found
    have silentDownload : Silent service.profile.rpcInstall
        [⟨.device (.call service.profile.rpcDownload []), answer⟩] := by
      simpa [Silent, Calls] using apart
    rcases install with silent | ⟨between, reply, last, rfl, silent, silent'⟩
    · refine (Silent.not_called (silent_append.mpr ⟨earlyInstall, ?_⟩)
        (whole.symm.trans found)).elim
      exact silent_append.mpr ⟨silentDownload, silent⟩
    · obtain ⟨rfl, event, rfl⟩ := append_cons_unique
        (fun event : Σ op, PackageAnswer op => Calls service.profile.rpcInstall event.1)
        (found.symm.trans (whole.trans (List.append_assoc before (_ :: between) _).symm))
        ⟨rpcArgs, rfl⟩
        (silent_append.mpr ⟨earlyInstall, silent_append.mpr ⟨silentDownload, silent⟩⟩) silent'
      rw [consumedPlans_append] at rest
      have between_consumed := (List.append_eq_nil_iff.mp rest).1
      refine ⟨before, [], answer, between, rfl, (silent_append.mp lateDownload).1,
        (approved_iff ?_ member).mpr same⟩
      rw [consumedPlans_append, consumed, consumedPlans_cons, between_consumed]
      rfl

theorem executed_of_silent {latestAt : Nat → Text}
    (download : Silent service.profile.rpcDownload trace)
    (install : Silent service.profile.rpcInstall trace) :
    PlanExecuted service.profile latestAt trace :=
  ⟨fun _ _ _ _ found => (download.not_called found).elim,
    fun _ _ _ _ found => (install.not_called found).elim⟩

theorem plan_executed_iff {latestAt : Nat → Text}
    (returned : Returns (service.downloadAndInstall crates args caller) trace result) :
    PlanExecuted service.profile latestAt trace ↔
      ∀ before rpcArgs answer behind,
        trace = before ++ ⟨.device (.call service.profile.rpcDownload rpcArgs), answer⟩ :: behind →
        ∀ reply ∈ repliesTo service.profile.checkServer trace, ∀ latest,
          parseCheckServerReply crates service.profile reply args.router = .ok latest →
          service.profile.leadingVersionNumber (latestAt before.length) =
            service.profile.leadingVersionNumber (resolveTarget latest args.version).1 := by
  obtain ⟨workflow, same⟩ : ∃ workflow, service.downloadAndInstall crates args caller =
      Package.downloadAndInstall crates args caller service.profile workflow := by
    cases service <;> exact ⟨_, rfl⟩
  rw [same] at returned
  obtain ⟨apart, -, others⟩ := rpcs_apart service
  have plans : (planInstall crates args service.profile).Performs fun op =>
      ¬Calls service.profile.rpcDownload op ∧ ¬Calls service.profile.rpcInstall op :=
    ((planInstall_avoids fun probe mem => (others probe mem).1).mono
      fun _ => not_calls_of_avoids).and
      ((planInstall_avoids fun probe mem => (others probe mem).2).mono fun _ => not_calls_of_avoids)
  rcases inTwoCalls_cases plans (by rintro op other; simp [Calls, other]) returned with
    ⟨⟨run⟩⟩ | unconfirmed
  · obtain ⟨built, ⟨infoXml, planned⟩, checkXml, checked, parsed⟩ := planInstall_ok run.plans
    have quiet := run.plans.allowed plans
    have earlyDownload := run.silent fun event mem => (quiet event mem).1
    have earlyInstall := run.silent fun event mem => (quiet event mem).2
    obtain ⟨a, b, c, d, e⟩ := checkServer_apart service
    have destroyedQuiet := run.destroys.allowed (runDestructive_avoids a b c d e)
    have replies : repliesTo service.profile.checkServer trace = [checkXml] := by
      rw [run.split, repliesTo_append, run.replies, checked, repliesTo_eq_nil destroyedQuiet]
      rfl
    have consumed := run.consumed planned.consumed
    have rest := consumedPlans_eq_nil destroyedQuiet
    rcases runDestructive_cases run.destroys with ⟨download, install⟩ |
      ⟨first, answer, behind, destroyed, firstDownload, firstInstall, lateDownload, install⟩
    · have noDownload : Silent service.profile.rpcDownload trace := by
        rw [run.split]
        exact silent_append.mpr ⟨earlyDownload, download⟩
      have noInstall : Silent service.profile.rpcInstall trace := by
        rw [run.split]
        exact silent_append.mpr ⟨earlyInstall, install⟩
      exact ⟨fun _ _ _ _ _ found => (noDownload.not_called found).elim,
        fun _ => executed_of_silent noDownload noInstall⟩
    · have whole := run.split
      rw [destroyed, ← List.append_assoc] at whole
      rw [destroyed, consumedPlans_append, List.append_eq_nil_iff, consumedPlans_cons,
        List.append_eq_nil_iff] at rest
      rw [executed_iff_of_download whole (silent_append.mpr ⟨earlyDownload, firstDownload⟩)
        (silent_append.mpr ⟨earlyInstall, firstInstall⟩) lateDownload install
        (by rw [consumedPlans_append, consumed, rest.1]; rfl) rest.2.2 (buildPlan_target built.symm),
        replies]
      constructor
      · intro same before rpcArgs answer' behind' found reply mem latest latestParsed
        obtain rfl := List.mem_singleton.mp mem
        rw [parsed] at latestParsed
        cases latestParsed
        obtain ⟨rfl, -⟩ := append_cons_unique
          (fun event : Σ op, PackageAnswer op => Calls service.profile.rpcDownload event.1)
          (found.symm.trans whole) ⟨rpcArgs, rfl⟩
          (silent_append.mpr ⟨earlyDownload, firstDownload⟩) lateDownload
        exact same
      · intro same
        exact same _ [] answer behind whole checkXml (List.mem_singleton_self _) _ parsed
  · have download : Silent service.profile.rpcDownload trace :=
      fun event mem => (unconfirmed.allowed event mem).1
    have install : Silent service.profile.rpcInstall trace :=
      fun event mem => (unconfirmed.allowed event mem).2
    exact ⟨fun _ _ _ _ _ found => (download.not_called found).elim,
      fun _ => executed_of_silent download install⟩

end Execution

/-! ### Replies of a standalone device -/

def licenseReply : Text :=
  "<feature-summary><name>idp-sig</name>".toList ++
    "<licenses-installed>1</licenses-installed></feature-summary>".toList

def licenseDocument : XmlDocument :=
  [.element "feature-summary".toList [] [
    .element "name".toList [] [.text "idp-sig".toList],
    .element "licenses-installed".toList [] [.text "1".toList]]]

def clusterReply : Text :=
  "<error><message>Chassis cluster is not enabled</message></error>".toList

def clusterDocument : XmlDocument :=
  [.element "error".toList [] [.element "message".toList []
    [.text "Chassis cluster is not enabled".toList]]]

def commitReply : Text := "<commit-information/>".toList

def commitDocument : XmlDocument := [.element "commit-information".toList [] []]

/-- A reader of a few texts. -/
def sampleCrates (documents : List (Text × XmlDocument)) : LicenseCrates where
  parse xml := match documents.lookup xml with
    | some document => .ok document
    | none => .error "unknown token".toList
  escape xml := xml
  rfc3339 _ := .error "a component could not be parsed".toList
  debug text := text

def licensing : PackageTrace :=
  [⟨.device .rpc, .ok ()⟩, answered (.flat "get-license-summary-information") licenseReply]

def clustering : PackageTrace :=
  [⟨.device .rpc, .ok ()⟩, answered (.flat "get-chassis-cluster-status") clusterReply]

def committing : PackageTrace :=
  [⟨.device .rpc, .ok ()⟩, answered (.flat "get-commit-information") commitReply]

section Samples

variable {crates : LicenseCrates} {args : PackageArgs}

theorem licensing_returns (read : crates.parse licenseReply = .ok licenseDocument) :
    Returns (licenseActive crates Idp.profile args) licensing (.ok ()) := by
  have clean : sanitizeRustezXml licenseReply = licenseReply :=
    sanitizeRustezXml_clean (by decide) (by decide)
  refine returns_andThen_ok (returns_callOnce.mpr rfl) (returns_pure.mpr ⟨rfl, ?_⟩)
  have parsed : License.parse crates .idp licenseReply = .ok (.active
      ⟨.idp, [⟨"idp-sig".toList, [], none⟩], ⟨0, 1, 0⟩, none, true⟩) := by
    rw [License.parse, clean, read]
    rfl
  dsimp only [requireLicense, Idp.profile]
  rw [parsed]
  rfl

theorem clustering_returns (read : crates.parse clusterReply = .ok clusterDocument) :
    Returns (clusterTopology crates args) clustering (.ok .standalone) := by
  refine returns_andThen_ok (returns_callOnce.mpr rfl) (returns_pure.mpr ⟨rfl, ?_⟩)
  exact (topologyOf_standalone.mpr (.inl ⟨_, read, by decide⟩)).symm

theorem committing_returns (read : crates.parse commitReply = .ok commitDocument) :
    Returns (commitWindow crates) committing (.ok []) := by
  have clean : sanitizeRustezXml commitReply = commitReply :=
    sanitizeRustezXml_clean (by decide) (by decide)
  refine returns_bind.mpr ⟨committing, [], .ok commitReply, rfl, returns_callOnce.mpr rfl, ?_⟩
  dsimp only [detectCommitConfirmed]
  rw [clean, read]
  exact .pure _

end Samples

/-! ### A pinned version -/

def informationReply : Text :=
  "<idp-security-package-information><security-package-version>3650".toList ++
    "</security-package-version></idp-security-package-information>".toList

def informationDocument : XmlDocument :=
  [.element "idp-security-package-information".toList [] [
    .element "security-package-version".toList [] [.text "3650".toList]]]

def checkReply : Text :=
  "<secpack-download-status><secpack-download-status-detail>Version info:3910".toList ++
    "</secpack-download-status-detail></secpack-download-status>".toList

def checkDocument : XmlDocument :=
  [.element "secpack-download-status".toList [] [
    .element "secpack-download-status-detail".toList [] [.text "Version info:3910".toList]]]

def pinnedCrates : LicenseCrates :=
  sampleCrates [(licenseReply, licenseDocument), (clusterReply, clusterDocument),
    (commitReply, commitDocument), (informationReply, informationDocument),
    (checkReply, checkDocument)]

def pinnedArgs : PackageArgs where
  router := "srx-01".toList
  version := some "3714".toList
  confirm := true
  confirmationToken := some "token".toList
  timeout := none
  includeRaw := false

def sampleCaller : PackageCaller := ⟨none, "srx-01:830".toList, "r".toList⟩

def pinnedNode : CheckServerNode :=
  ⟨[], some ⟨"3650".toList, by decide⟩, none, none, none⟩

def pinnedSnapshot : CheckServerData where
  router := "srx-01".toList
  service := .idp
  topology := .standalone
  latestVersion := "3910".toList
  nodes := [pinnedNode]
  updateAvailable := true
  rawXml := none

def pinnedPlan : ConfirmationPlan := .downloadAndInstall {
  router := "srx-01".toList
  service := .idp
  topology := .standalone
  nodes := [⟨[], "3650".toList, none⟩]
  targetPackageVersion := "3714".toList
  targetSource := .pinned
  latestFromCheckServer := some "3910".toList
  estimatedPackageSizeBytes := none
  estimatedInstallDurationSeconds := none
  preflightBlockers := []
  warning := "Will download ".toList ++ "IDP signature package".toList ++ " ".toList ++
    "3714".toList ++ " and install it on ".toList ++ "srx-01".toList ++ " (".toList ++
    "standalone".toList ++ ").".toList ++
    " This briefly suspends IDP processing during attack-DB swap.".toList }

def checking : PackageTrace :=
  [⟨.device .rpc, .ok ()⟩,
    answered (.flat "get-idp-security-package-information") informationReply,
    answered Idp.profile.checkServer checkReply]

/-- The answer of a device that stops answering. -/
def lost : RustEzError := ⟨.netconf .transport, "connection closed".toList⟩

def pinnedDestroyed : PackageTrace :=
  [⟨.now, (0 : Nat)⟩, ⟨.device .rpc, .ok ()⟩,
    ⟨.device (.call "request-idp-security-package-download" []), .error lost⟩]

def pinnedPlanned : PackageTrace := licensing ++ (clustering ++ (committing ++ checking))

def pinnedTrace : PackageTrace :=
  ⟨.validateBinding "token".toList (bindingOf pinnedArgs sampleCaller), .ok ⟨"c".toList⟩⟩ ::
  ⟨.acquire "srx-01".toList "manage_idp_security_package/download_and_install".toList "c".toList,
    .ok ()⟩ :: (pinnedPlanned ++
  ⟨.consume "token".toList (bindingOf pinnedArgs sampleCaller) pinnedPlan.toJson,
    .ok ⟨"c".toList⟩⟩ :: pinnedDestroyed)

theorem pinned_information :
    parsePackageInformation pinnedCrates Idp.profile informationReply = .ok [pinnedNode] := by
  have clean : sanitizeRustezXml informationReply = informationReply :=
    sanitizeRustezXml_clean (by decide) (by decide)
  have read : pinnedCrates.parse informationReply = .ok informationDocument := rfl
  have node : nodeOf pinnedCrates Idp.profile ⟨[], informationReply⟩ = pinnedNode := by
    simp only [nodeOf, textOf, readFragment_document read]
    rfl
  have split : multiReSplit pinnedCrates.toXmlCrates informationReply =
      .ok [⟨[], informationReply⟩] := multiReSplit_standalone clean read (by decide)
  refine bind_eq_ok.mpr ⟨_, split, ?_⟩
  simp only [List.map_cons, node]
  rfl

theorem pinned_latest :
    parseCheckServerReply pinnedCrates Idp.profile checkReply "srx-01".toList =
      .ok "3910".toList := by
  have read : pinnedCrates.parse checkReply = .ok checkDocument := rfl
  have quiet : serverError pinnedCrates checkReply = none := by
    rw [serverError, if_neg (by decide)]
  rw [parseCheckServerReply, quiet]
  simp only [textOf, readFragment_document read]
  rfl

theorem pinned_checked :
    Returns (checkServer pinnedCrates Idp.profile pinnedArgs) checking (.ok pinnedSnapshot) := by
  have snapshot : readSnapshot pinnedCrates Idp.profile pinnedArgs informationReply checkReply =
      .ok pinnedSnapshot := by
    have latest : parseCheckServerReply pinnedCrates Idp.profile checkReply pinnedArgs.router =
        .ok "3910".toList := pinned_latest
    rw [readSnapshot, pinned_information, latest]
    rfl
  rw [checkServer, if_neg (by decide)]
  refine returns_bind.mpr ⟨checking, [], .ok (informationReply, checkReply), rfl,
    .step (.step (.step (.pure _))), returns_pure.mpr ⟨rfl, snapshot.symm⟩⟩

theorem pinned_planned : Returns (planInstall pinnedCrates pinnedArgs Idp.profile) pinnedPlanned
    (.ok (pinnedSnapshot, .needsConfirmation pinnedPlan)) := by
  have front : Returns (preflight pinnedCrates Idp.profile pinnedArgs) pinnedPlanned
      (.ok (pinnedSnapshot, [])) :=
    returns_andThen_ok (licensing_returns rfl) (returns_andThen_ok (clustering_returns rfl)
      (returns_andThen_ok (committing_returns rfl)
        (returns_bind.mpr ⟨checking, [], .ok pinnedSnapshot, rfl, pinned_checked, .pure _⟩)))
  exact returns_bind.mpr ⟨pinnedPlanned, [], .ok (pinnedSnapshot, []), rfl, front, .pure _⟩

theorem pinned_destroyed : Returns
    (runDestructive pinnedCrates Idp.profile pinnedArgs pinnedSnapshot) pinnedDestroyed
    (.error (transport lost)) := by
  refine .step ?_
  rw [if_neg (by decide)]
  exact .step (.step (.pure _))

def pinnedRun : Confirmed pinnedArgs sampleCaller
    "manage_idp_security_package/download_and_install"
    (planInstall pinnedCrates pinnedArgs Idp.profile)
    (runDestructive pinnedCrates Idp.profile pinnedArgs) pinnedTrace
    (.error (transport lost)) where
  token := "token".toList
  validated := ⟨"c".toList⟩
  planned := pinnedPlanned
  snapshot := pinnedSnapshot
  plan := pinnedPlan
  confirmed := ⟨"c".toList⟩
  destroyed := pinnedDestroyed
  trace_eq := rfl
  plans := pinned_planned
  destroys := pinned_destroyed

theorem pinned_returns :
    Returns (Service.idp.downloadAndInstall pinnedCrates pinnedArgs sampleCaller) pinnedTrace
      (.error (transport lost)) :=
  pinnedRun.returns (by decide) rfl

/-- The plan is for version 3714, and the device fetches version 3910. -/
theorem pinned_not_executed :
    Returns (Service.idp.downloadAndInstall pinnedCrates pinnedArgs sampleCaller) pinnedTrace
      (.error (transport lost)) ∧
    ¬PlanExecuted Idp.profile (fun _ => "3910".toList) pinnedTrace := by
  refine ⟨pinned_returns, fun executed => ?_⟩
  let before : PackageTrace := pinnedRun.approval ++ [⟨.now, (0 : Nat)⟩, ⟨.device .rpc, .ok ()⟩]
  obtain ⟨plan, target, consumed, member, same⟩ :=
    executed.downloads before [] (.error lost) [] rfl
  have shown : consumedPlans before = [pinnedPlan.toJson] := rfl
  rw [shown] at consumed
  cases consumed
  cases member
  exact absurd same (by decide)

theorem pinned_executed_iff :
    PlanExecuted Service.idp.profile (fun _ => "3910".toList) pinnedTrace ↔
      ∀ before rpcArgs answer behind,
        pinnedTrace = before ++
          ⟨.device (.call Service.idp.profile.rpcDownload rpcArgs), answer⟩ :: behind →
        ∀ reply ∈ repliesTo Service.idp.profile.checkServer pinnedTrace, ∀ latest,
          parseCheckServerReply pinnedCrates Service.idp.profile reply pinnedArgs.router =
              .ok latest →
          Service.idp.profile.leadingVersionNumber "3910".toList =
            Service.idp.profile.leadingVersionNumber
              (resolveTarget latest pinnedArgs.version).1 :=
  plan_executed_iff pinned_returns

end Package

end JunosMcp.Srx
