import JunosMcp.Srx.PackageExecution

/-!
# What a completed action has verified

The last reply is read node by node, and every node in it is at the target. The nodes the plan was
made for are not looked up in it.
-/

namespace JunosMcp.Srx

open Lib

/-- The tools with their actions. -/
inductive PackageTool where
  | idp (action : IdpAction)
  | appid (action : AppidAction)
deriving DecidableEq

def PackageTool.service : PackageTool → Service
  | .idp _ => .idp
  | .appid _ => .appid

def PackageTool.run (crates : LicenseCrates) (args : PackageArgs) (caller : PackageCaller) :
    PackageTool → PackageProg PackageResponse
  | .idp action => Idp.run crates args caller action
  | .appid action => Appid.run crates args caller action

namespace Package

/-- The version a plan leads to, and nothing where it removes the package. -/
def targetOf (plan : Json) : Option Text :=
  (textMember "target_package_version" plan).or (textMember "rollback_target_version" plan)

section Nodes

variable (crates : LicenseCrates) (profile : PackageProfile)

/-- The item reports the target, or no version where there is none. -/
def Reports (target : Option Text) (item : ReNode) : Prop :=
  ((nodeOf crates profile item).currentPackageVersion.map fun v =>
    profile.leadingVersionNumber v.val) = target.map profile.leadingVersionNumber

/-- There is an error among the elements of the item. -/
def HasError (item : ReNode) : Prop :=
  ∃ document, readFragment crates.toXmlCrates item.innerXml = .ok document ∧
    ∃ element ∈ document.descendants, ClusterStatus.isErrorElement element = true

/-- Every node that was planned for is among the items, without an error. -/
def AnsweredEverywhere (planned items : List ReNode) : Prop :=
  ∀ node ∈ planned, ∃ item ∈ items, item.reName = node.reName ∧ ¬HasError crates item

/-- Every node that was planned for is among the items, without an error and at the target. -/
def VerifiedEverywhere (target : Option Text) (planned items : List ReNode) : Prop :=
  ∀ node ∈ planned, ∃ item ∈ items, item.reName = node.reName ∧ ¬HasError crates item ∧
    Reports crates profile target item

variable {crates profile}

theorem verified_iff_answered {target : Option Text} {planned items : List ReNode}
    (reported : ∀ item ∈ items, Reports crates profile target item) :
    VerifiedEverywhere crates profile target planned items ↔
      AnsweredEverywhere crates planned items := by
  constructor
  · intro verified node mem
    obtain ⟨item, found, same, clean, -⟩ := verified node mem
    exact ⟨item, found, same, clean⟩
  · intro answered node mem
    obtain ⟨item, found, same, clean⟩ := answered node mem
    exact ⟨item, found, same, clean, reported item found⟩

theorem parsePackageInformation_ok {reply : Text} {nodes : List CheckServerNode}
    (parsed : parsePackageInformation crates profile reply = .ok nodes) :
    ∃ items, multiReSplit crates.toXmlCrates reply = .ok items ∧
      nodes = items.map (nodeOf crates profile) := by
  obtain ⟨items, split, read⟩ := bind_eq_ok.mp parsed
  refine ⟨items, split, ?_⟩
  split at read <;> cases read
  rfl

end Nodes

/-! ## The last reply -/

section Verification

variable {crates : LicenseCrates} {profile : PackageProfile} {args : PackageArgs}
variable {trace : PackageTrace}

/-- The trace ends with a reply that shows every node of it at the target. -/
structure Verified (crates : LicenseCrates) (profile : PackageProfile) (target : Option Text)
    (trace : PackageTrace) (post : Text) (items : List ReNode) : Prop where
  replies : repliesTo (.flat profile.rpcPackageInformation) trace = [post]
  consumed : consumedPlans trace = []
  split : multiReSplit crates.toXmlCrates post = .ok items
  reported : ∀ item ∈ items, Reports crates profile target item

theorem verification_replies {front : PackageTrace} {post : Text} {reading : Nat}
    (quiet : ∀ event ∈ front, Avoids (.flat profile.rpcPackageInformation) event.1) :
    let trace : PackageTrace := front ++ ([⟨.device .rpc, .ok ()⟩,
      answered (.flat profile.rpcPackageInformation) post] ++ [⟨.now, reading⟩])
    repliesTo (.flat profile.rpcPackageInformation) trace = [post] ∧ consumedPlans trace = [] := by
  constructor
  · rw [repliesTo_append, repliesTo_eq_nil quiet, List.cons_append, List.cons_append,
      repliesTo_opened, repliesTo_answered, if_pos rfl]
    rfl
  · rw [consumedPlans_append, consumedPlans_eq_nil quiet, List.cons_append, List.cons_append,
      consumedPlans_opened, consumedPlans_answered]
    rfl

theorem verifyNodes_ok {target installed : Text} {nodes : List CheckServerNode}
    (verified : verifyNodes profile args target nodes = .ok installed) :
    ∀ node ∈ nodes, isAt profile target node = true := by
  unfold verifyNodes at verified
  split at verified
  · cases verified
  · next none_found =>
      intro node mem
      simpa using List.find?_eq_none.mp none_found node mem

theorem reports_of_isAt {target : Text} {item : ReNode}
    (at_target : isAt profile target (nodeOf crates profile item) = true) :
    Reports crates profile (some target) item := by
  unfold isAt at at_target
  unfold Reports
  cases version : (nodeOf crates profile item).currentPackageVersion with
  | none =>
      rw [version] at at_target
      cases at_target
  | some v =>
      rw [version] at at_target
      simpa using at_target

theorem verifyInstalledVersion_ok {target installed : Text}
    (returned : Returns (verifyInstalledVersion crates profile args target) trace (.ok installed)) :
    ∃ post items, trace = [⟨.device .rpc, .ok ()⟩,
        answered (.flat profile.rpcPackageInformation) post] ∧
      multiReSplit crates.toXmlCrates post = .ok items ∧
      ∀ item ∈ items, Reports crates profile (some target) item := by
  obtain ⟨called, _, post, rfl, here, rest⟩ := Returns.of_andThen returned
  obtain ⟨rfl, verified⟩ := returns_pure.mp rest
  obtain ⟨nodes, parsed, verified'⟩ := bind_eq_ok.mp verified.symm
  obtain ⟨items, split, rfl⟩ := parsePackageInformation_ok parsed
  refine ⟨post, items, by rw [returns_callOnce.mp here, List.append_nil], split, ?_⟩
  intro item mem
  exact reports_of_isAt (verifyNodes_ok verified' _ (List.mem_map_of_mem mem))

theorem firstReported_none {version : CheckServerNode → Option PackageVersion}
    {nodes : List CheckServerNode} (none_reported : firstReported version nodes = none) :
    ∀ node ∈ nodes, version node = none := by
  simpa [firstReported, List.findSome?_eq_none_iff] using none_reported

theorem information_apart (service : Service) :
    ∀ probe ∈ [.flat service.profile.rpcDownload, service.profile.downloadStatus,
      .flat service.profile.rpcInstall, service.profile.installStatus,
      .flat "request-idp-security-package-rollback",
      .flat "request-appid-application-package-uninstall",
      .flat "request-appid-application-package-uninstall-status"],
      Probe.flat service.profile.rpcPackageInformation ≠ probe := by
  cases service <;> decide

/-! ## The three destructive parts -/

variable {service : Service} {snapshot : CheckServerData} {response : PackageResponse}

theorem runDestructive_verified
    (returned : Returns (runDestructive crates service.profile args snapshot) trace (.ok response))
    (completed : response.isCompleted = true) :
    ∃ post items, Verified crates service.profile
      (some (resolveTarget snapshot.latestVersion args.version).1) trace post items := by
  have apart := information_apart service
  obtain ⟨started, acted, rfl, acting⟩ := returns_step.mp returned
  dsimp only at acting
  split at acting
  · obtain ⟨-, same⟩ := returns_pure.mp acting
    cases same
    cases completed
  obtain ⟨downloaded, _, _, rfl, downloading, rest₁⟩ := Returns.of_andThen acting
  obtain ⟨installed, _, _, rfl, installing, rest₂⟩ := Returns.of_andThen rest₁
  obtain ⟨verified, _, version, rfl, verifying, rest₃⟩ := Returns.of_andThen rest₂
  obtain ⟨reading, _, rfl, rest₄⟩ := returns_step.mp rest₃
  obtain ⟨rfl, -⟩ := returns_pure.mp rest₄
  obtain ⟨post, items, rfl, split, reported⟩ := verifyInstalledVersion_ok verifying
  have quiet : ∀ event ∈ (⟨.now, started⟩ :: (downloaded ++ installed) : PackageTrace),
      Avoids (.flat service.profile.rpcPackageInformation) event.1 := by
    rw [List.forall_mem_cons, List.forall_mem_append]
    exact ⟨trivial, downloading.allowed (actAndPoll_avoids (apart _ (by simp)) (apart _ (by simp))),
      installing.allowed (actAndPoll_avoids (apart _ (by simp)) (apart _ (by simp)))⟩
  have shown := @verification_replies _ _ post reading quiet
  refine ⟨post, items, ?_, ?_, split, reported⟩
  · simpa using shown.1
  · simpa using shown.2

theorem runRollbackDestructive_verified
    (returned : Returns (runRollbackDestructive crates args snapshot) trace (.ok response)) :
    ∃ target post items,
      firstReported CheckServerNode.currentRollbackVersion snapshot.nodes = some target ∧
      Verified crates Idp.profile (some target) trace post items := by
  obtain ⟨started, acted, rfl, acting⟩ := returns_step.mp returned
  cases reported : firstReported CheckServerNode.currentRollbackVersion snapshot.nodes with
  | none =>
      rw [reported] at acting
      cases (returns_pure.mp acting).2
  | some target =>
      rw [reported] at acting
      obtain ⟨called, _, _, rfl, calling, rest₁⟩ := Returns.of_andThen acting
      obtain ⟨acknowledged, _, _, rfl, acknowledging, rest₂⟩ := Returns.of_andThen rest₁
      obtain ⟨rfl, -⟩ := returns_pure.mp acknowledging
      obtain ⟨verified, _, version, rfl, verifying, rest₃⟩ := Returns.of_andThen rest₂
      obtain ⟨reading, _, rfl, rest₄⟩ := returns_step.mp rest₃
      obtain ⟨rfl, -⟩ := returns_pure.mp rest₄
      obtain ⟨post, items, rfl, split, reports⟩ := verifyInstalledVersion_ok verifying
      have quiet : ∀ event ∈ (⟨.now, started⟩ :: called : PackageTrace),
          Avoids (.flat Idp.profile.rpcPackageInformation) event.1 :=
        List.forall_mem_cons.mpr
          ⟨trivial, calling.allowed (callOnce_avoids (information_apart .idp _ (by simp)))⟩
      have shown := @verification_replies _ _ post reading quiet
      refine ⟨target, post, items, rfl, ?_, ?_, split, reports⟩
      · simpa using shown.1
      · simpa using shown.2

theorem runUninstallDestructive_verified
    (returned : Returns (runUninstallDestructive crates args snapshot) trace (.ok response)) :
    ∃ post items, Verified crates Appid.profile none trace post items := by
  have apart := information_apart .appid
  obtain ⟨started, acted, rfl, acting⟩ := returns_step.mp returned
  cases reported : firstReported CheckServerNode.currentPackageVersion snapshot.nodes with
  | none =>
      rw [reported] at acting
      cases (returns_pure.mp acting).2
  | some previous =>
      rw [reported] at acting
      obtain ⟨uninstalled, _, _, rfl, uninstalling, rest₁⟩ := Returns.of_andThen acting
      obtain ⟨called, _, post, rfl, calling, rest₂⟩ := Returns.of_andThen rest₁
      obtain ⟨verified, _, _, rfl, verifying, rest₃⟩ := Returns.of_andThen rest₂
      obtain ⟨rfl, same⟩ := returns_pure.mp verifying
      obtain ⟨reading, _, rfl, rest₄⟩ := returns_step.mp rest₃
      obtain ⟨rfl, -⟩ := returns_pure.mp rest₄
      obtain ⟨nodes, parsed, absent⟩ := bind_eq_ok.mp same.symm
      obtain ⟨items, split, rfl⟩ := parsePackageInformation_ok parsed
      obtain rfl := returns_callOnce.mp calling
      have quiet : ∀ event ∈ (⟨.now, started⟩ :: uninstalled : PackageTrace),
          Avoids (.flat Appid.profile.rpcPackageInformation) event.1 :=
        List.forall_mem_cons.mpr ⟨trivial,
          uninstalling.allowed (actAndPoll_avoids (apart _ (by simp)) (apart _ (by simp)))⟩
      have shown := @verification_replies _ _ post reading quiet
      refine ⟨post, items, ?_, ?_, split, fun item mem => ?_⟩
      · simpa using shown.1
      · simpa using shown.2
      · unfold verifyUninstalled at absent
        split at absent
        · cases absent
        · next none_reported =>
            rw [Reports, firstReported_none none_reported _ (List.mem_map_of_mem mem)]
            rfl

end Verification

/-! ## The whole run -/

section Completed

variable {crates : LicenseCrates} {args : PackageArgs} {caller : PackageCaller}
variable {trace : PackageTrace} {response : PackageResponse}

theorem targetOf_buildPlan {style : PlanStyle} {snapshot : CheckServerData} {pinned : Option Text}
    {blockers : List Text} {plan : ConfirmationPlan}
    (built : buildPlan style snapshot pinned blockers = .needsConfirmation plan) :
    targetOf plan.toJson = some (resolveTarget snapshot.latestVersion pinned).1 := by
  rw [targetOf, buildPlan_target built, Option.some_or]

theorem targetOf_buildRollbackPlan {snapshot : CheckServerData} {blockers : List Text}
    {plan : ConfirmationPlan} (built : Idp.buildRollbackPlan snapshot blockers = .ok plan) :
    targetOf plan.toJson = firstReported CheckServerNode.currentRollbackVersion snapshot.nodes := by
  unfold Idp.buildRollbackPlan at built
  split at built
  · cases built
  · next reported =>
      cases built
      rw [reported]
      rfl

theorem targetOf_buildUninstallPlan {snapshot : CheckServerData} {blockers : List Text}
    {plan : ConfirmationPlan} (built : Appid.buildUninstallPlan snapshot blockers = .ok plan) :
    targetOf plan.toJson = none := by
  unfold Appid.buildUninstallPlan at built
  split at built <;> cases built
  rfl

/-- What a completed run has consumed and read. -/
def CompletedRun (crates : LicenseCrates) (profile : PackageProfile) (trace : PackageTrace) : Prop :=
  ∃ plan pre post planned items, consumedPlans trace = [plan] ∧
    repliesTo (.flat profile.rpcPackageInformation) trace = [pre, post] ∧
    multiReSplit crates.toXmlCrates pre = .ok planned ∧
    multiReSplit crates.toXmlCrates post = .ok items ∧
    ∀ item ∈ items, Reports crates profile (targetOf plan) item

theorem Confirmed.completed {profile : PackageProfile} {workflow : String}
    {planning : PackageProg (CheckServerData × PlanOutcome)}
    {destroy : CheckServerData → PackageProg PackageResponse} {infoXml post : Text}
    {items : List ReNode} (run : Confirmed args caller workflow planning destroy trace (.ok response))
    (planned : Planned crates profile run.planned run.snapshot infoXml)
    (verified : Verified crates profile (targetOf run.plan.toJson) run.destroyed post items) :
    CompletedRun crates profile trace := by
  obtain ⟨nodes, split, -⟩ := parsePackageInformation_ok planned.nodes
  refine ⟨run.plan.toJson, infoXml, post, nodes, items, ?_, ?_, split, verified.split,
    verified.reported⟩
  · apply (congrArg consumedPlans run.split).trans
    rw [consumedPlans_append, run.consumed planned.consumed, verified.consumed]
    rfl
  · apply (congrArg (repliesTo _) run.split).trans
    rw [repliesTo_append, run.replies, planned.replies, verified.replies]
    rfl

theorem downloadAndInstall_completed {service : Service} {workflow : String}
    (returned : Returns (Package.downloadAndInstall crates args caller service.profile workflow) trace
      (.ok response)) (completed : response.isCompleted = true) :
    CompletedRun crates service.profile trace := by
  rcases inTwoCalls_cases (Prog.performs_any _) (fun _ _ => trivial) returned with
    ⟨⟨run⟩⟩ | unconfirmed
  · obtain ⟨built, ⟨infoXml, planned⟩, -⟩ := planInstall_ok run.plans
    obtain ⟨post, items, verified⟩ := runDestructive_verified run.destroys completed
    rw [← targetOf_buildPlan built.symm] at verified
    exact run.completed planned verified
  · rw [unconfirmed.incomplete response rfl] at completed
    cases completed

theorem rollback_completed (returned : Returns (Idp.rollback crates args caller) trace (.ok response))
    (completed : response.isCompleted = true) : CompletedRun crates Idp.profile trace := by
  rcases inTwoCalls_cases (Prog.performs_any _) (fun _ _ => trivial) returned with
    ⟨⟨run⟩⟩ | unconfirmed
  · obtain ⟨⟨plan, built, same⟩, infoXml, planned⟩ :=
      @planLocal_ok _ _ _ .idp _ _ _ run.plans
    obtain ⟨target, post, items, reported, verified⟩ := runRollbackDestructive_verified run.destroys
    cases same
    rw [← reported, ← targetOf_buildRollbackPlan built] at verified
    exact run.completed planned verified
  · rw [unconfirmed.incomplete response rfl] at completed
    cases completed

theorem uninstall_completed
    (returned : Returns (Appid.uninstall crates args caller) trace (.ok response))
    (completed : response.isCompleted = true) : CompletedRun crates Appid.profile trace := by
  rcases inTwoCalls_cases (Prog.performs_any _) (fun _ _ => trivial) returned with
    ⟨⟨run⟩⟩ | unconfirmed
  · obtain ⟨⟨plan, built, same⟩, infoXml, planned⟩ :=
      @planLocal_ok _ _ _ .appid _ _ _ run.plans
    obtain ⟨post, items, verified⟩ := runUninstallDestructive_verified run.destroys
    cases same
    rw [← targetOf_buildUninstallPlan built] at verified
    exact run.completed planned verified
  · rw [unconfirmed.incomplete response rfl] at completed
    cases completed

theorem checkServer_incomplete {profile : PackageProfile}
    (returned : Returns ((checkServer crates profile args).andThen fun data =>
      .pure (.ok (PackageResponse.checkServer data))) trace (.ok response)) :
    response.isCompleted = false := by
  obtain ⟨_, _, data, rfl, -, stopped⟩ := Returns.of_andThen returned
  obtain ⟨-, same⟩ := returns_pure.mp stopped
  cases same
  rfl

theorem completedRun {tool : PackageTool}
    (returned : Returns (tool.run crates args caller) trace (.ok response))
    (completed : response.isCompleted = true) : CompletedRun crates tool.service.profile trace := by
  rcases tool with (_ | _ | _) | (_ | _ | _)
  · rw [checkServer_incomplete returned] at completed
    cases completed
  · exact @downloadAndInstall_completed _ _ _ _ _ .idp _ returned completed
  · exact rollback_completed returned completed
  · rw [checkServer_incomplete returned] at completed
    cases completed
  · exact @downloadAndInstall_completed _ _ _ _ _ .appid _ returned completed
  · exact uninstall_completed returned completed

theorem completed_verified_iff {tool : PackageTool}
    (returned : Returns (tool.run crates args caller) trace (.ok response))
    (completed : response.isCompleted = true) :
    ∃ plan pre post planned items, consumedPlans trace = [plan] ∧
      repliesTo (.flat tool.service.profile.rpcPackageInformation) trace = [pre, post] ∧
      multiReSplit crates.toXmlCrates pre = .ok planned ∧
      multiReSplit crates.toXmlCrates post = .ok items ∧
      (VerifiedEverywhere crates tool.service.profile (targetOf plan) planned items ↔
        AnsweredEverywhere crates planned items) := by
  obtain ⟨plan, pre, post, planned, items, consumed, replies, before, after, reported⟩ :=
    completedRun returned completed
  exact ⟨plan, pre, post, planned, items, consumed, replies, before, after,
    verified_iff_answered reported⟩

end Completed

/-! ### A node that has gone -/

def itemOf (name : String) (inner : XmlNode) : XmlNode :=
  .element "multi-routing-engine-item".toList [] [.element "re-name".toList [] [.text name.toList],
    inner]

def resultsOf (items : List XmlNode) : XmlDocument :=
  [.element "multi-routing-engine-results".toList [] items]

def itemText (name : String) (inner : Text) : Text :=
  "<multi-routing-engine-item><re-name>".toList ++ name.toList ++ "</re-name>".toList ++ inner ++
    "</multi-routing-engine-item>".toList

def resultsText (items : Text) : Text :=
  "<multi-routing-engine-results>".toList ++ items ++ "</multi-routing-engine-results>".toList

def plannedInner : Text :=
  "<i><security-package-version>3910</security-package-version>".toList ++
    "<security-package-rollback-version>3650</security-package-rollback-version></i>".toList

def plannedNode : XmlNode :=
  .element "i".toList [] [
    .element "security-package-version".toList [] [.text "3910".toList],
    .element "security-package-rollback-version".toList [] [.text "3650".toList]]

def revertedInner : Text :=
  "<i><security-package-version>3650</security-package-version></i>".toList

def revertedNode : XmlNode :=
  .element "i".toList [] [.element "security-package-version".toList [] [.text "3650".toList]]

/-- The second node has no package yet. -/
def plannedReply : Text := resultsText (itemText "re0" plannedInner ++ itemText "re1" "<i/>".toList)

def emptyNode : XmlNode := .element "i".toList [] []

def plannedDocument : XmlDocument := resultsOf [itemOf "re0" plannedNode, itemOf "re1" emptyNode]

def revertedReply : Text := resultsText (itemText "re0" revertedInner)

def revertedDocument : XmlDocument := resultsOf [itemOf "re0" revertedNode]

def ackReply : Text := "<secpack-rollback-status/>".toList

def ackDocument : XmlDocument := [.element "secpack-rollback-status".toList [] []]

def goneCrates : LicenseCrates :=
  sampleCrates [(licenseReply, licenseDocument), (clusterReply, clusterDocument),
    (commitReply, commitDocument), (plannedReply, plannedDocument), (plannedInner, [plannedNode]),
    ("<i/>".toList, [emptyNode]), (ackReply, ackDocument), (revertedReply, revertedDocument),
    (revertedInner, [revertedNode])]

def goneArgs : PackageArgs := { pinnedArgs with version := none }

def plannedItems : List ReNode := [⟨"re0".toList, plannedInner⟩, ⟨"re1".toList, "<i/>".toList⟩]

def revertedItems : List ReNode := [⟨"re0".toList, revertedInner⟩]

set_option maxRecDepth 4000 in
theorem planned_split : multiReSplit goneCrates.toXmlCrates plannedReply = .ok plannedItems := by
  have clean : sanitizeRustezXml plannedReply = plannedReply :=
    sanitizeRustezXml_clean (by decide) (by decide)
  have read : goneCrates.parse plannedReply = .ok plannedDocument := rfl
  dsimp only [multiReSplit]
  rw [clean, read]
  rfl

theorem reverted_split : multiReSplit goneCrates.toXmlCrates revertedReply = .ok revertedItems := by
  have clean : sanitizeRustezXml revertedReply = revertedReply :=
    sanitizeRustezXml_clean (by decide) (by decide)
  have read : goneCrates.parse revertedReply = .ok revertedDocument := rfl
  dsimp only [multiReSplit]
  rw [clean, read]
  rfl

theorem installed_available : "3910".toList ≠ notAvailable := by decide

theorem previous_available : "3650".toList ≠ notAvailable := by decide

def plannedNodes : List CheckServerNode :=
  [⟨"re0".toList, some ⟨"3910".toList, installed_available⟩, none,
      some ⟨"3650".toList, previous_available⟩, none⟩,
    ⟨"re1".toList, none, none, none, none⟩]

def revertedNodes : List CheckServerNode :=
  [⟨"re0".toList, some ⟨"3650".toList, previous_available⟩, none, none, none⟩]

def goneSnapshot : CheckServerData :=
  ⟨"srx-01".toList, .idp, .standalone, [], plannedNodes, false, none⟩

def gonePlan : ConfirmationPlan := .rollback {
  router := "srx-01".toList
  service := .idp
  topology := .standalone
  currentPackageVersion := "3910".toList
  rollbackTargetVersion := "3650".toList
  preflightBlockers := []
  warning := "Will revert IDP signature package from ".toList ++ "3910".toList ++ " to ".toList ++
    "3650".toList ++ " on ".toList ++ "srx-01".toList ++ " (".toList ++ "standalone".toList ++
    "). Brief IDP processing pause (~30s); no data-plane outage.".toList }

def informing : PackageTrace :=
  [⟨.device .rpc, .ok ()⟩, answered (.flat "get-idp-security-package-information") plannedReply]

def gonePlanned : PackageTrace := licensing ++ (clustering ++ (committing ++ informing))

def acknowledging : PackageTrace :=
  [⟨.device .rpc, .ok ()⟩, answered (.flat "request-idp-security-package-rollback") ackReply]

def verifying : PackageTrace :=
  [⟨.device .rpc, .ok ()⟩, answered (.flat "get-idp-security-package-information") revertedReply]

def goneDestroyed : PackageTrace :=
  ⟨.now, (0 : Nat)⟩ :: (acknowledging ++ (verifying ++ [⟨.now, (0 : Nat)⟩]))

def goneResponse : PackageResponse :=
  .rolledBack ⟨"srx-01".toList, .idp, .standalone, "3910".toList, "3650".toList, 0⟩

theorem planned_information :
    parsePackageInformation goneCrates Idp.profile plannedReply = .ok plannedNodes := by
  have inner : goneCrates.parse plannedInner = .ok [plannedNode] := rfl
  have empty : goneCrates.parse "<i/>".toList = .ok [emptyNode] := rfl
  have first : nodeOf goneCrates Idp.profile ⟨"re0".toList, plannedInner⟩ =
      ⟨"re0".toList, some ⟨"3910".toList, installed_available⟩, none,
        some ⟨"3650".toList, previous_available⟩, none⟩ := by
    simp only [nodeOf, textOf, readFragment_document inner]
    rfl
  have second : nodeOf goneCrates Idp.profile ⟨"re1".toList, "<i/>".toList⟩ =
      ⟨"re1".toList, none, none, none, none⟩ := by
    simp only [nodeOf, textOf, readFragment_document empty]
    rfl
  refine bind_eq_ok.mpr ⟨_, planned_split, ?_⟩
  simp only [plannedItems, List.map_cons, first, second]
  rfl

theorem reverted_information :
    parsePackageInformation goneCrates Idp.profile revertedReply = .ok revertedNodes := by
  have inner : goneCrates.parse revertedInner = .ok [revertedNode] := rfl
  have node : nodeOf goneCrates Idp.profile ⟨"re0".toList, revertedInner⟩ =
      ⟨"re0".toList, some ⟨"3650".toList, previous_available⟩, none, none, none⟩ := by
    simp only [nodeOf, textOf, readFragment_document inner]
    rfl
  refine bind_eq_ok.mpr ⟨_, reverted_split, ?_⟩
  simp only [revertedItems, List.map_cons, node]
  rfl

theorem gone_planned :
    Returns (planLocal goneCrates goneArgs Idp.profile Idp.buildRollbackPlan) gonePlanned
      (.ok (goneSnapshot, .needsConfirmation gonePlan)) := by
  have informed : Returns ((callOnce Idp.profile.rpcPackageInformation).andThen fun infoXml =>
      .pure ((parsePackageInformation goneCrates Idp.profile infoXml).map fun nodes =>
        ((⟨goneArgs.router, .idp, .standalone, [], nodes, false, none⟩, []) :
          CheckServerData × List Text))) informing (.ok (goneSnapshot, [])) := by
    refine returns_andThen_ok (returns_callOnce.mpr rfl) (returns_pure.mpr ⟨rfl, ?_⟩)
    rw [planned_information]
    rfl
  have front : Returns (preflightLocal goneCrates Idp.profile goneArgs) gonePlanned
      (.ok (goneSnapshot, [])) :=
    returns_andThen_ok (licensing_returns rfl) (returns_andThen_ok (clustering_returns rfl)
      (returns_andThen_ok (committing_returns rfl) informed))
  exact returns_bind.mpr ⟨gonePlanned, [], .ok (goneSnapshot, []), rfl, front, .pure _⟩

theorem gone_destroyed :
    Returns (runRollbackDestructive goneCrates goneArgs goneSnapshot) goneDestroyed
      (.ok goneResponse) := by
  have verified : Returns (verifyInstalledVersion goneCrates Idp.profile goneArgs "3650".toList)
      verifying (.ok "3650".toList) := by
    refine returns_andThen_ok (returns_callOnce.mpr rfl) (returns_pure.mpr ⟨rfl, ?_⟩)
    rw [reverted_information]
    rfl
  have acknowledged : Idp.parseRollbackAck goneCrates.toXmlCrates ackReply goneArgs.router =
      .ok () := by
    have read : goneCrates.parse ackReply = .ok ackDocument := rfl
    simp only [Idp.parseRollbackAck, textOf, readFragment_document read]
    rfl
  have reported : firstReported CheckServerNode.currentRollbackVersion goneSnapshot.nodes =
      some "3650".toList := rfl
  refine .step ?_
  rw [reported]
  refine returns_andThen_ok (returns_callOnce.mpr rfl) ?_
  rw [acknowledged]
  show Returns (Prog.andThen (verifyInstalledVersion _ _ _ _) _) _ _
  exact returns_andThen_ok verified (.step (.pure _))

def goneRun : Confirmed goneArgs sampleCaller "manage_idp_security_package/rollback"
    (planLocal goneCrates goneArgs Idp.profile Idp.buildRollbackPlan)
    (runRollbackDestructive goneCrates goneArgs)
    (⟨.validateBinding "token".toList (bindingOf goneArgs sampleCaller), .ok ⟨"c".toList⟩⟩ ::
      ⟨.acquire "srx-01".toList "manage_idp_security_package/rollback".toList "c".toList,
        .ok ()⟩ :: (gonePlanned ++
      ⟨.consume "token".toList (bindingOf goneArgs sampleCaller) gonePlan.toJson,
        .ok ⟨"c".toList⟩⟩ :: goneDestroyed))
    (.ok goneResponse) where
  token := "token".toList
  validated := ⟨"c".toList⟩
  planned := gonePlanned
  snapshot := goneSnapshot
  plan := gonePlan
  confirmed := ⟨"c".toList⟩
  destroyed := goneDestroyed
  trace_eq := rfl
  plans := gone_planned
  destroys := gone_destroyed

def goneTrace : PackageTrace := goneRun.approval ++ goneDestroyed

theorem gone_returns :
    Returns ((PackageTool.idp .rollback).run goneCrates goneArgs sampleCaller) goneTrace
      (.ok goneResponse) :=
  goneRun.returns (by decide) rfl

theorem gone_unanswered : ¬AnsweredEverywhere goneCrates plannedItems revertedItems := by
  intro answered
  obtain ⟨item, found, same, -⟩ := answered ⟨"re1".toList, "<i/>".toList⟩ (by simp [plannedItems])
  obtain rfl := List.mem_singleton.mp found
  exact absurd same (by decide)

/-- The rollback is completed, and nothing is known of the second node. -/
theorem gone_completed :
    Returns ((PackageTool.idp .rollback).run goneCrates goneArgs sampleCaller) goneTrace
        (.ok goneResponse) ∧ goneResponse.isCompleted = true ∧
      repliesTo (.flat "get-idp-security-package-information") goneTrace =
        [plannedReply, revertedReply] ∧
      multiReSplit goneCrates.toXmlCrates plannedReply = .ok plannedItems ∧
      multiReSplit goneCrates.toXmlCrates revertedReply = .ok revertedItems ∧
      ¬VerifiedEverywhere goneCrates Idp.profile (targetOf gonePlan.toJson) plannedItems
        revertedItems := by
  refine ⟨gone_returns, rfl, rfl, planned_split, reverted_split, fun verified => ?_⟩
  apply gone_unanswered
  intro node mem
  obtain ⟨item, found, same, clean, -⟩ := verified node mem
  exact ⟨item, found, same, clean⟩

theorem gone_verified_iff :
    ∃ plan pre post planned items, consumedPlans goneTrace = [plan] ∧
      repliesTo (.flat Idp.profile.rpcPackageInformation) goneTrace = [pre, post] ∧
      multiReSplit goneCrates.toXmlCrates pre = .ok planned ∧
      multiReSplit goneCrates.toXmlCrates post = .ok items ∧
      (VerifiedEverywhere goneCrates Idp.profile (targetOf plan) planned items ↔
        AnsweredEverywhere goneCrates planned items) :=
  completed_verified_iff gone_returns rfl

end Package

end JunosMcp.Srx
