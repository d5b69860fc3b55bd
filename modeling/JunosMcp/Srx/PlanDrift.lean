import JunosMcp.Srx.PackagePlan

/-!
# Which changes of the device a plan shows

Between the two calls of a destructive action the device may change. A `download_and_install` plan
lists every node, so any change makes another plan. A rollback or an uninstall plan has room for one
version of the device, the first that a node reports, and is the same plan as long as that version
is.
-/

namespace JunosMcp.Srx

inductive PackageAction where
  | downloadAndInstall (style : PlanStyle)
  | rollback
  | uninstall

namespace PackageAction

/-- The plan of the action, where there is one. -/
def plan (pinned : Option Text) (snapshot : CheckServerData) :
    PackageAction → Option ConfirmationPlan
  | .downloadAndInstall style => match buildPlan style snapshot pinned [] with
      | .needsConfirmation plan => some plan
      | .alreadyAtTarget _ => none
  | .rollback => (Idp.buildRollbackPlan snapshot []).toOption
  | .uninstall => (Appid.buildUninstallPlan snapshot []).toOption

section Changes

variable (first second : CheckServerData)

def StatesDiffer : Prop :=
  first.topology ≠ second.topology ∨
    (first.nodes.map fun node => (node.reName, node.currentPackageVersion)) ≠
      second.nodes.map fun node => (node.reName, node.currentPackageVersion)

/-- The device changed in what the action depends on. -/
def Differ (pinned pinned' : Option Text) : PackageAction → Prop
  | .downloadAndInstall _ => StatesDiffer first second ∨
      (resolveTarget first.latestVersion pinned).1 ≠ (resolveTarget second.latestVersion pinned').1
  | .rollback => StatesDiffer first second ∨
      (first.nodes.map fun node => (node.reName, node.currentRollbackVersion)) ≠
        second.nodes.map fun node => (node.reName, node.currentRollbackVersion)
  | .uninstall => StatesDiffer first second

def FirstReportsDiffer (version : CheckServerNode → Option PackageVersion) : Prop :=
  firstReported version first.nodes ≠ firstReported version second.nodes

/-- The change is one that the plan has room for. -/
def Shown : PackageAction → Prop
  | .downloadAndInstall _ => True
  | .rollback => first.router ≠ second.router ∨ first.service ≠ second.service ∨
      first.topology ≠ second.topology ∨
      FirstReportsDiffer first second CheckServerNode.currentPackageVersion ∨
      FirstReportsDiffer first second CheckServerNode.currentRollbackVersion
  | .uninstall => first.router ≠ second.router ∨ first.service ≠ second.service ∨
      first.topology ≠ second.topology ∨
      FirstReportsDiffer first second CheckServerNode.currentPackageVersion

end Changes

end PackageAction

/-! ## Equal plans -/

theorem Topology.name_injective {a b : Topology} (same : a.name = b.name) : a = b := by
  cases a <;> cases b <;> first | rfl | (revert same; decide)

theorem Service.name_injective {a b : Service} (same : a.name = b.name) : a = b := by
  cases a <;> cases b <;> first | rfl | (revert same; decide)

theorem member_inj {key : String} {a b : Text} : member key a = member key b ↔ a = b := by
  simp [member]

theorem NodeVersionInfo.toJson_eq {a b : NodeVersionInfo} (same : a.toJson = b.toJson) :
    a.reName = b.reName ∧ a.currentPackageVersion = b.currentPackageVersion := by
  simp only [toJson, Json.object.injEq, List.cons_append, List.cons.injEq, member_inj] at same
  exact ⟨same.1, same.2.1⟩

theorem DownloadAndInstallPlan.toJson_eq {a b : DownloadAndInstallPlan}
    (same : (ConfirmationPlan.downloadAndInstall a).toJson =
      (ConfirmationPlan.downloadAndInstall b).toJson) :
    a.topology = b.topology ∧
      a.nodes.map NodeVersionInfo.toJson = b.nodes.map NodeVersionInfo.toJson ∧
      a.targetPackageVersion = b.targetPackageVersion := by
  simp only [ConfirmationPlan.toJson, Json.object.injEq, List.cons_append, List.cons.injEq,
    member_inj, Prod.mk.injEq, Json.array.injEq, true_and] at same
  obtain ⟨-, -, topology, nodes, target, -⟩ := same
  exact ⟨Topology.name_injective topology, nodes, target⟩

theorem RollbackPlan.toJson_eq {a b : RollbackPlan}
    (same : (ConfirmationPlan.rollback a).toJson = (ConfirmationPlan.rollback b).toJson) :
    a.router = b.router ∧ a.service = b.service ∧ a.topology = b.topology ∧
      a.currentPackageVersion = b.currentPackageVersion ∧
      a.rollbackTargetVersion = b.rollbackTargetVersion := by
  simp only [ConfirmationPlan.toJson, Json.object.injEq, List.cons.injEq, member_inj,
    true_and] at same
  obtain ⟨router, service, topology, current, target, -⟩ := same
  exact ⟨router, Service.name_injective service, Topology.name_injective topology, current, target⟩

theorem UninstallPlan.toJson_eq {a b : UninstallPlan}
    (same : (ConfirmationPlan.uninstall a).toJson = (ConfirmationPlan.uninstall b).toJson) :
    a.router = b.router ∧ a.service = b.service ∧ a.topology = b.topology ∧
      a.currentPackageVersion = b.currentPackageVersion := by
  simp only [ConfirmationPlan.toJson, Json.object.injEq, List.cons.injEq, member_inj,
    true_and] at same
  obtain ⟨router, service, topology, current, -⟩ := same
  exact ⟨router, Service.name_injective service, Topology.name_injective topology, current⟩

/-- The placeholder stands for no version only. -/
theorem shown_version_injective {a b : Option PackageVersion}
    (same : (a.map Subtype.val).getD notAvailable = (b.map Subtype.val).getD notAvailable) :
    a = b := by
  cases a with
  | none =>
      cases b with
      | none => rfl
      | some v => exact absurd same.symm v.property
  | some u =>
      cases b with
      | none => exact absurd same u.property
      | some v => exact congrArg some (Subtype.ext same)

theorem nodes_of_shown {style : PlanStyle} :
    ∀ {a b : List CheckServerNode},
      (a.map (nodeVersionInfo style)).map NodeVersionInfo.toJson =
        (b.map (nodeVersionInfo style)).map NodeVersionInfo.toJson →
      (a.map fun node => (node.reName, node.currentPackageVersion)) =
        b.map fun node => (node.reName, node.currentPackageVersion)
  | [], [], _ => rfl
  | [], _ :: _, same => by cases same
  | _ :: _, [], same => by cases same
  | u :: a, v :: b, same => by
      simp only [List.map_cons, List.cons.injEq] at same ⊢
      obtain ⟨name, version⟩ := NodeVersionInfo.toJson_eq same.1
      have version := shown_version_injective version
      have rest := nodes_of_shown same.2
      exact ⟨by rw [Prod.mk.injEq]; exact ⟨name, version⟩, rest⟩

/-! ## The plans of two snapshots -/

section Plans

variable {first second : CheckServerData} {pinned pinned' : Option Text}
  {plan plan' : ConfirmationPlan}

theorem buildPlan_json {style : PlanStyle}
    (planned : (PackageAction.downloadAndInstall style).plan pinned first = some plan)
    (planned' : (PackageAction.downloadAndInstall style).plan pinned' second = some plan')
    (same : plan.toJson = plan'.toJson) :
    ¬ (PackageAction.downloadAndInstall style).Differ first second pinned pinned' := by
  simp only [PackageAction.plan, buildPlan] at planned planned'
  split at planned
  · next built =>
      split at planned'
      · next built' =>
          split at built
          · cases built
          · split at built'
            · cases built'
            · cases built
              cases built'
              cases planned
              cases planned'
              obtain ⟨topology, nodes, target⟩ := DownloadAndInstallPlan.toJson_eq same
              rintro ((differ | differ) | differ)
              · exact differ topology
              · exact differ (nodes_of_shown nodes)
              · exact differ target
      · cases planned'
  · cases planned

theorem firstReported_injective {version : CheckServerNode → Option PackageVersion}
    {nodes nodes' : List CheckServerNode}
    (same : (firstReported version nodes).getD notAvailable =
      (firstReported version nodes').getD notAvailable) :
    firstReported version nodes = firstReported version nodes' :=
  congrArg (Option.map Subtype.val) (shown_version_injective same)

theorem buildRollbackPlan_json
    (planned : PackageAction.rollback.plan pinned first = some plan)
    (planned' : PackageAction.rollback.plan pinned' second = some plan') :
    plan.toJson = plan'.toJson ↔ ¬ PackageAction.rollback.Shown first second := by
  simp only [PackageAction.plan, Idp.buildRollbackPlan] at planned planned'
  split at planned
  · cases planned
  · next target reported =>
      split at planned'
      · cases planned'
      · next target' reported' =>
          cases planned
          cases planned'
          constructor
          · intro same
            obtain ⟨router, service, topology, current, rollback⟩ := RollbackPlan.toJson_eq same
            rintro (differ | differ | differ | differ | differ)
            · exact differ router
            · exact differ service
            · exact differ topology
            · exact differ (firstReported_injective current)
            · apply differ
              rw [reported, reported']
              exact congrArg some rollback
          · intro hidden
            simp only [PackageAction.Shown, PackageAction.FirstReportsDiffer, not_or,
              not_not] at hidden
            obtain ⟨router, service, topology, current, rollback⟩ := hidden
            rw [reported, reported'] at rollback
            cases rollback
            simp only [router, service, topology, current]

theorem buildUninstallPlan_json
    (planned : PackageAction.uninstall.plan pinned first = some plan)
    (planned' : PackageAction.uninstall.plan pinned' second = some plan') :
    plan.toJson = plan'.toJson ↔ ¬ PackageAction.uninstall.Shown first second := by
  simp only [PackageAction.plan, Appid.buildUninstallPlan] at planned planned'
  split at planned
  · cases planned
  · next current reported =>
      split at planned'
      · cases planned'
      · next current' reported' =>
          cases planned
          cases planned'
          constructor
          · intro same
            obtain ⟨router, service, topology, shown⟩ := UninstallPlan.toJson_eq same
            rintro (differ | differ | differ | differ)
            · exact differ router
            · exact differ service
            · exact differ topology
            · apply differ
              rw [reported, reported']
              exact congrArg some shown
          · intro hidden
            simp only [PackageAction.Shown, PackageAction.FirstReportsDiffer, not_or,
              not_not] at hidden
            obtain ⟨router, service, topology, shown⟩ := hidden
            rw [reported, reported'] at shown
            cases shown
            simp only [router, service, topology]

/-- Of the changes an action depends on, its plan changes with those it shows. -/
theorem plan_json {action : PackageAction} (planned : action.plan pinned first = some plan)
    (planned' : action.plan pinned' second = some plan')
    (differ : action.Differ first second pinned pinned') :
    plan.toJson ≠ plan'.toJson ↔ action.Shown first second := by
  cases action with
  | downloadAndInstall style =>
      have changed : plan.toJson ≠ plan'.toJson :=
        fun same => buildPlan_json planned planned' same differ
      simp [PackageAction.Shown, changed]
  | rollback => rw [ne_eq, buildRollbackPlan_json planned planned', not_not]
  | uninstall => rw [ne_eq, buildUninstallPlan_json planned planned', not_not]

end Plans

/-! ## Consuming with the plan of the second snapshot -/

section Consume

variable {crates : ConfirmationCrates} {store : ConfirmationStore} {issue : Issue} {now : Nat}
  {plan : Json}

/-- With a live token of its binding, a consume compares the plans. -/
theorem consume_planDrift
    (live : store.entries.lookup (digestToken crates issue.token) = some (issue.pending crates))
    (early : now < issue.expiresAt)
    (apart : digestPlan crates issue.plan = digestPlan crates plan → issue.plan = plan) :
    (store.consume crates now issue.token issue.binding plan).2 = .error .planDrift ↔
      issue.plan ≠ plan := by
  have here : ¬ (issue.pending crates).expiresAt ≤ now := Nat.not_le.mpr early
  constructor
  · rintro drifted rfl
    simp [ConfirmationStore.consume, live, here] at drifted
    simp [Issue.pending] at drifted
  · intro differ
    exact ConfirmationStore.consume_drift live early rfl fun same => differ (apart same)

/-- A token issued for the plan of the first snapshot and presented with the plan of the second
answers plan drift exactly where the plan shows the change. -/
theorem drift_noticed {action : PackageAction} {first second : CheckServerData}
    {pinned pinned' : Option Text} {plan plan' : ConfirmationPlan}
    (planned : action.plan pinned first = some plan)
    (planned' : action.plan pinned' second = some plan')
    (differ : action.Differ first second pinned pinned')
    (issued : issue.plan = plan.toJson)
    (live : store.entries.lookup (digestToken crates issue.token) = some (issue.pending crates))
    (early : now < issue.expiresAt)
    (apart : digestPlan crates issue.plan = digestPlan crates plan'.toJson →
      issue.plan = plan'.toJson) :
    (store.consume crates now issue.token issue.binding plan'.toJson).2 = .error .planDrift ↔
      action.Shown first second := by
  rw [consume_planDrift live early apart, issued, plan_json planned planned' differ]

end Consume

/-! ### A node that a rollback plan leaves out -/

def packageVersion (text : String) (apart : text.toList ≠ notAvailable) : PackageVersion :=
  ⟨text.toList, apart⟩

/-- A cluster whose first node goes back to the version 3900, and whose second to this one. -/
def clusterGoingBack (version : PackageVersion) : CheckServerData where
  router := "srx-01".toList
  service := .idp
  topology := .chassisCluster
  latestVersion := []
  nodes := [
    ⟨"node0".toList, some (packageVersion "3910" (by decide)), none,
      some (packageVersion "3900" (by decide)), none⟩,
    ⟨"node1".toList, some (packageVersion "3910" (by decide)), none, some version, none⟩]
  updateAvailable := false
  rawXml := none

def previewed : CheckServerData := clusterGoingBack (packageVersion "3900" (by decide))

def confirmed : CheckServerData := clusterGoingBack (packageVersion "3800" (by decide))

def rollbackPlan : ConfirmationPlan := .rollback {
  router := "srx-01".toList
  service := .idp
  topology := .chassisCluster
  currentPackageVersion := "3910".toList
  rollbackTargetVersion := "3900".toList
  preflightBlockers := []
  warning := "Will revert IDP signature package from ".toList ++
    Idp.leadingVersionNumber "3910".toList ++ " to ".toList ++
    Idp.leadingVersionNumber "3900".toList ++ " on ".toList ++ "srx-01".toList ++ " (".toList ++
    Topology.chassisCluster.spelled ++
    "). Brief IDP processing pause (~30s); no data-plane outage.".toList }

def rollbackIssue : Issue :=
  ⟨labToken, labBinding, rollbackPlan.toJson, "req-123".toList, defaultTtl⟩

def rollbackStore : ConfirmationStore where
  entries := (∅ : Entries).insert (digestToken labCrates labToken)
    (rollbackIssue.pending labCrates)
  ttl := defaultTtl
  capacity := defaultCapacity

theorem previewed_plan : PackageAction.rollback.plan none previewed = some rollbackPlan := by
  rfl

theorem confirmed_plan : PackageAction.rollback.plan none confirmed = some rollbackPlan := by
  rfl

theorem rollback_nodes_differ : PackageAction.rollback.Differ previewed confirmed none none := by
  right
  decide

theorem rollback_live : rollbackStore.entries.lookup (digestToken labCrates labToken) =
    some (rollbackIssue.pending labCrates) := AList.lookup_insert ∅

theorem rollback_drift_noticed :
    (rollbackStore.consume labCrates 1 labToken labBinding rollbackPlan.toJson).2 =
      .error .planDrift ↔ PackageAction.rollback.Shown previewed confirmed :=
  have issued : rollbackIssue.plan = rollbackPlan.toJson := rfl
  drift_noticed previewed_plan confirmed_plan rollback_nodes_differ issued rollback_live (by decide)
    fun _ => rfl

/-- The token of the previewed plan is consumed though the second node goes back elsewhere. -/
theorem changed_node_consumed :
    PackageAction.rollback.plan none previewed = some rollbackPlan ∧
      PackageAction.rollback.plan none confirmed = some rollbackPlan ∧
      PackageAction.rollback.Differ previewed confirmed none none ∧
      (rollbackStore.consume labCrates 1 labToken labBinding rollbackPlan.toJson).2 =
        .ok ⟨"req-123".toList⟩ := by
  refine ⟨previewed_plan, confirmed_plan, rollback_nodes_differ, ?_⟩
  have found := rollback_live
  have early : ¬ (rollbackIssue.pending labCrates).expiresAt ≤ 1 := by decide
  simp [ConfirmationStore.consume, found, early]
  simp [Issue.pending, rollbackIssue]

end JunosMcp.Srx
