import JunosMcp.Srx.ConfirmationProtocol
import JunosMcp.Srx.Errors

/-!
# Plans of the signature-package workflows

What the preview of a destructive action shows, as the JSON object that is digested. The IDP and
the AppID workflow share the builders and differ in how a version is read and in the warning.
-/

namespace JunosMcp.Srx

inductive Service where
  | idp
  | appid
deriving DecidableEq

def Service.name : Service → Text
  | .idp => "idp".toList
  | .appid => "appid".toList

inductive Topology where
  | standalone
  | chassisCluster
deriving DecidableEq

def Topology.name : Topology → Text
  | .standalone => "standalone".toList
  | .chassisCluster => "chassis_cluster".toList

/-- The topology as the warnings spell it. -/
def Topology.spelled : Topology → Text
  | .standalone => "standalone".toList
  | .chassisCluster => "chassis cluster".toList

inductive TargetSource where
  | latestFromCheckServer
  | pinned
deriving DecidableEq

def TargetSource.name : TargetSource → Text
  | .latestFromCheckServer => "latest_from_check_server".toList
  | .pinned => "pinned".toList

def notAvailable : Text := "N/A".toList

/-- A version as the parsers leave it, which is never the placeholder. -/
abbrev PackageVersion := { text : Text // text ≠ notAvailable }

structure NodeVersionInfo where
  reName : Text
  currentPackageVersion : Text
  currentDetectorVersion : Option Text

structure DownloadAndInstallPlan where
  router : Text
  service : Service
  topology : Topology
  nodes : List NodeVersionInfo
  targetPackageVersion : Text
  targetSource : TargetSource
  latestFromCheckServer : Option Text
  estimatedPackageSizeBytes : Option Nat
  estimatedInstallDurationSeconds : Option Nat
  preflightBlockers : List Text
  warning : Text

structure RollbackPlan where
  router : Text
  service : Service
  topology : Topology
  currentPackageVersion : Text
  rollbackTargetVersion : Text
  preflightBlockers : List Text
  warning : Text

structure UninstallPlan where
  router : Text
  service : Service
  topology : Topology
  currentPackageVersion : Text
  preflightBlockers : List Text
  warning : Text

inductive ConfirmationPlan where
  | downloadAndInstall (plan : DownloadAndInstallPlan)
  | rollback (plan : RollbackPlan)
  | uninstall (plan : UninstallPlan)

/-! ## The JSON of a plan -/

def member (key : String) (text : Text) : Text × Json := (key.toList, .string text)

/-- `skip_serializing_if = "Option::is_none"`. -/
def optionalMember (key : String) (text : Option Text) : List (Text × Json) :=
  text.toList.map (member key)

def optionalNumber (key : String) (n : Option Nat) : List (Text × Json) :=
  n.toList.map fun n => (key.toList, .number (Nat.repr n).toList)

def texts (items : List Text) : Json := .array (items.map .string)

def NodeVersionInfo.toJson (node : NodeVersionInfo) : Json :=
  .object ([member "re_name" node.reName,
    member "current_package_version" node.currentPackageVersion] ++
    optionalMember "current_detector_version" node.currentDetectorVersion)

def ConfirmationPlan.toJson : ConfirmationPlan → Json
  | .downloadAndInstall plan => .object ([
      member "code" "confirmation_required".toList,
      member "router" plan.router,
      member "action" "download_and_install".toList,
      member "service" plan.service.name,
      member "topology" plan.topology.name,
      ("nodes".toList, .array (plan.nodes.map NodeVersionInfo.toJson)),
      member "target_package_version" plan.targetPackageVersion,
      member "target_source" plan.targetSource.name] ++
      optionalMember "latest_from_check_server" plan.latestFromCheckServer ++
      optionalNumber "estimated_package_size_bytes" plan.estimatedPackageSizeBytes ++
      optionalNumber "estimated_install_duration_seconds" plan.estimatedInstallDurationSeconds ++
      [("preflight_blockers".toList, texts plan.preflightBlockers), member "warning" plan.warning])
  | .rollback plan => .object [
      member "code" "confirmation_required".toList,
      member "router" plan.router,
      member "action" "rollback".toList,
      member "service" plan.service.name,
      member "topology" plan.topology.name,
      member "current_package_version" plan.currentPackageVersion,
      member "rollback_target_version" plan.rollbackTargetVersion,
      ("preflight_blockers".toList, texts plan.preflightBlockers),
      member "warning" plan.warning]
  | .uninstall plan => .object [
      member "code" "confirmation_required".toList,
      member "router" plan.router,
      member "action" "uninstall".toList,
      member "service" plan.service.name,
      member "topology" plan.topology.name,
      member "current_package_version" plan.currentPackageVersion,
      ("preflight_blockers".toList, texts plan.preflightBlockers),
      member "warning" plan.warning]

/-! ## Snapshots and plans -/

/-- A node of `IdpCheckServerNode`, or of `AppidCheckServerNode`, which has the release date only. -/
structure CheckServerNode where
  reName : Text
  currentPackageVersion : Option PackageVersion
  currentDetectorVersion : Option PackageVersion
  currentRollbackVersion : Option PackageVersion
  releaseDate : Option PackageVersion

structure CheckServerData where
  router : Text
  service : Service
  topology : Topology
  latestVersion : Text
  nodes : List CheckServerNode
  updateAvailable : Bool
  rawXml : Option Text

structure AlreadyAtTargetResponse where
  router : Text
  service : Service
  currentPackageVersion : Text
  targetPackageVersion : Text
  message : Text

def AlreadyAtTargetResponse.new (router : Text) (service : Service) (current target : Text) :
    AlreadyAtTargetResponse :=
  ⟨router, service, current, target,
    "device already running target version; no action taken".toList⟩

inductive PlanOutcome where
  | alreadyAtTarget (response : AlreadyAtTargetResponse)
  | needsConfirmation (plan : ConfirmationPlan)

/-- How one of the two workflows reads and words its plans. -/
structure PlanStyle where
  leadingVersionNumber : Text → Text
  detectorVersion : CheckServerNode → Option PackageVersion
  packageName : Text
  effect : Text

namespace Idp

def leadingVersionNumber (v : Text) : Text := Text.trim (v.takeWhile (· ≠ '('))

def style : PlanStyle where
  leadingVersionNumber := leadingVersionNumber
  detectorVersion := CheckServerNode.currentDetectorVersion
  packageName := "IDP signature package".toList
  effect := " This briefly suspends IDP processing during attack-DB swap.".toList

end Idp

namespace Appid

def leadingVersionNumber (v : Text) : Text :=
  Text.trim ((Text.trim v).takeWhile fun c => c ≠ '(' && c ≠ ' ')

def style : PlanStyle where
  leadingVersionNumber := leadingVersionNumber
  detectorVersion _ := none
  packageName := "AppID application package".toList
  effect := " This briefly suspends application identification during package swap.".toList

end Appid

/-- The version a `download_and_install` is for, where it is taken from, and the latest version
where it is not that. -/
def resolveTarget (latestVersion : Text) : Option Text → Text × TargetSource × Option Text
  | none => (latestVersion, .latestFromCheckServer, none)
  | some v =>
      if (Text.trim v).isEmpty then (latestVersion, .latestFromCheckServer, none)
      else (Text.trim v, .pinned, some latestVersion)

def firstReported (version : CheckServerNode → Option PackageVersion)
    (nodes : List CheckServerNode) : Option Text :=
  (nodes.findSome? version).map Subtype.val

section Builders

variable (style : PlanStyle)

def allAtTarget (nodes : List CheckServerNode) (target : Text) : Bool :=
  !nodes.isEmpty && nodes.all fun node => match node.currentPackageVersion with
    | none => false
    | some v => style.leadingVersionNumber v == style.leadingVersionNumber target

def nodeVersionInfo (node : CheckServerNode) : NodeVersionInfo where
  reName := node.reName
  currentPackageVersion := (node.currentPackageVersion.map Subtype.val).getD notAvailable
  currentDetectorVersion := (style.detectorVersion node).map Subtype.val

def buildPlan (snapshot : CheckServerData) (pinned : Option Text) (blockers : List Text) :
    PlanOutcome :=
  let (target, targetSource, latest) := resolveTarget snapshot.latestVersion pinned
  if allAtTarget style snapshot.nodes target then
    .alreadyAtTarget (.new snapshot.router snapshot.service
      ((snapshot.nodes.head?.bind fun node =>
        node.currentPackageVersion.map Subtype.val).getD []) target)
  else .needsConfirmation (.downloadAndInstall {
    router := snapshot.router
    service := snapshot.service
    topology := snapshot.topology
    nodes := snapshot.nodes.map (nodeVersionInfo style)
    targetPackageVersion := target
    targetSource
    latestFromCheckServer := latest
    estimatedPackageSizeBytes := none
    estimatedInstallDurationSeconds := none
    preflightBlockers := blockers
    warning := "Will download ".toList ++ style.packageName ++ " ".toList ++ target ++
      " and install it on ".toList ++ snapshot.router ++ " (".toList ++
      snapshot.topology.spelled ++ ").".toList ++ style.effect })

end Builders

def Idp.buildRollbackPlan (snapshot : CheckServerData) (blockers : List Text) :
    Except SrxError ConfirmationPlan :=
  match firstReported CheckServerNode.currentRollbackVersion snapshot.nodes with
  | none => .error (.signaturePackageNoRollbackTarget snapshot.router)
  | some target =>
      let current := (firstReported CheckServerNode.currentPackageVersion snapshot.nodes).getD
        notAvailable
      .ok (.rollback {
        router := snapshot.router
        service := snapshot.service
        topology := snapshot.topology
        currentPackageVersion := current
        rollbackTargetVersion := target
        preflightBlockers := blockers
        warning := "Will revert IDP signature package from ".toList ++
          Idp.leadingVersionNumber current ++ " to ".toList ++ Idp.leadingVersionNumber target ++
          " on ".toList ++ snapshot.router ++ " (".toList ++ snapshot.topology.spelled ++
          "). Brief IDP processing pause (~30s); no data-plane outage.".toList })

def Appid.buildUninstallPlan (snapshot : CheckServerData) (blockers : List Text) :
    Except SrxError ConfirmationPlan :=
  match firstReported CheckServerNode.currentPackageVersion snapshot.nodes with
  | none => .error (.signaturePackageNoUninstallTarget snapshot.router)
  | some current =>
      .ok (.uninstall {
        router := snapshot.router
        service := snapshot.service
        topology := snapshot.topology
        currentPackageVersion := current
        preflightBlockers := blockers
        warning := "Will uninstall the active AppID signature package (".toList ++ current ++
          ") on ".toList ++ snapshot.router ++ " (".toList ++ snapshot.topology.spelled ++
          ("). Application identification will be disabled until a fresh package is " ++
            "installed.").toList })

end JunosMcp.Srx
