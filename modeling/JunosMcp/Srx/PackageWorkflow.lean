import JunosMcp.Srx.ClusterTopology
import JunosMcp.Srx.PackageReplies

/-!
# The signature-package workflows

`manage_idp_security_package` and `manage_appid_signature_package`. A destructive action is planned
in a first call; a second call with the token plans it again, consumes the token, and carries it
out. Audit lines are left out. Instants are in nanoseconds.
-/

namespace JunosMcp.Srx

open Lib

inductive PackageOp where
  | device (op : DeviceOp)
  /-- `Instant::now`. -/
  | now
  | sleep (seconds : Nat)
  | issue (plan : Json) (binding : ConfirmationBinding) (requestId : Text)
  | validateBinding (token : Text) (binding : ConfirmationBinding)
  /-- `DeviceLeaseManager::acquire`. -/
  | acquire (router workflow correlationId : Text)
  | consume (token : Text) (binding : ConfirmationBinding) (plan : Json)

abbrev PackageAnswer : PackageOp → Type
  | .device op => DeviceAnswer op
  | .now => Nat
  | .sleep _ => Unit
  | .issue .. => Except ConfirmationError Json
  | .validateBinding .. => Except ConfirmationError ValidatedPlan
  | .acquire .. => Except JmcpError Unit
  | .consume .. => Except ConfirmationError ConfirmedPlan

abbrev PackageProg (α : Type) := Prog PackageOp PackageAnswer (Except SrxError α)

abbrev PackageTrace := Trace PackageOp PackageAnswer

/-! ## Confirmation -/

def confirmationTokenForRequest (confirm : Bool) (token : Option Text) (router : Text) :
    Except SrxError (Option Text) :=
  match confirm, (token.map Text.trim).filter fun value => !value.isEmpty with
  | false, none => .ok none
  | false, some _ => .error (.invalidInput "confirmation_token requires confirm=true".toList)
  | true, none => .error (.signaturePackageConfirmationTokenRequired router)
  | true, some token => .ok (some token)

def ConfirmationError.intoSrxError (router : Text) : ConfirmationError → SrxError
  | .capacity => .signaturePackageConfirmationCapacityExceeded router
  | .planDrift => .signaturePackageConfirmationPlanDrift router
  | .expired => .signaturePackageConfirmationTokenInvalid router
      "confirmation token expired; request a new preview".toList
  | .bindingMismatch => .signaturePackageConfirmationTokenInvalid router
      "confirmation token does not belong to this caller, router, or device".toList
  | .invalid => .signaturePackageConfirmationTokenInvalid router
      "confirmation token is invalid or has already been used".toList

/-! ## Arguments and answers -/

structure PackageArgs where
  router : Text
  version : Option Text
  confirm : Bool
  confirmationToken : Option Text
  timeout : Option Nat
  includeRaw : Bool

structure DownloadAndInstallCompletedData where
  router : Text
  service : Service
  topology : Topology
  targetPackageVersion : Text
  installedPackageVersion : Text
  elapsedSeconds : Nat

structure RollbackCompletedData where
  router : Text
  service : Service
  topology : Topology
  previousPackageVersion : Text
  installedPackageVersion : Text
  elapsedSeconds : Nat

structure UninstallCompletedData where
  router : Text
  service : Service
  topology : Topology
  previousPackageVersion : Text
  elapsedSeconds : Nat

inductive PackageResponse where
  | checkServer (data : CheckServerData)
  | alreadyAtTarget (response : AlreadyAtTargetResponse)
  | installed (data : DownloadAndInstallCompletedData)
  | rolledBack (data : RollbackCompletedData)
  | uninstalled (data : UninstallCompletedData)

def PackageResponse.isCompleted : PackageResponse → Bool
  | .installed _ | .rolledBack _ | .uninstalled _ => true
  | .checkServer _ | .alreadyAtTarget _ => false

/-- The caller as the server knows it. -/
structure PackageCaller where
  caller : Option Text
  deviceIdentity : Text
  requestId : Text

namespace Package

def second : Nat := 10 ^ 9

def pollIntervalSecs : Nat := 5

def clampTimeout (t : Option Nat) : Nat := min (t.getD 600) 1800 * second

def onDevice {α : Type} (p : DeviceProg α) : PackageProg α :=
  p.relabel PackageOp.device fun _ answer => answer

def sendProbe : Probe → DeviceProg Text
  | .flat name => callRpc name []
  | .composite payload => callXml payload

/-- A call through an executor of its own. -/
def callOnce (name : String) : PackageProg Text :=
  onDevice (openExecutor.andThen fun _ => callRpc name [])

section Workflow

variable (crates : LicenseCrates) (profile : PackageProfile) (args : PackageArgs)

/-! ## Pre-flight -/

def requireLicense (summaryXml : Text) : Except SrxError Unit :=
  let inactive : Except SrxError Unit :=
    .error (.signaturePackageLicenseInactive args.router profile.feature.displayName)
  match License.parse crates profile.feature summaryXml with
  | .error error => .error error
  | .ok parsed =>
      if parsed.state ≠ .active then inactive
      else if parsed.data.any fun data => data.counts.installed == 0 then inactive
      else .ok ()

def licenseActive : PackageProg Unit :=
  (callOnce "get-license-summary-information").andThen fun summaryXml =>
    .pure (requireLicense crates profile args summaryXml)

def clusterTopology : PackageProg Topology :=
  (callOnce "get-chassis-cluster-status").andThen fun reply =>
    .pure (topologyOf crates.toXmlCrates args.router reply)

def detectCommitConfirmed (commitInfoXml : Text) : Except SrxError Bool :=
  match crates.parse (sanitizeRustezXml commitInfoXml) with
  | .error error => .error (.parse ("roxmltree (commit-information): ".toList ++ error))
  | .ok document => .ok (document.descendants.any (XmlNode.named "commit-confirmed".toList))

/-- An open commit-confirmed window blocks nothing, nor does a probe that fails. -/
def commitWindow : PackageProg (List Text) :=
  (callOnce "get-commit-information").bind fun
    | .error _ => .pure (.ok [])
    | .ok commitXml => match detectCommitConfirmed crates commitXml with
        | .ok true => .pure (.ok ["commit-confirmed window open (informational)".toList])
        | _ => .pure (.ok [])

def topologyOfNodes (nodes : List CheckServerNode) : Topology :=
  if 1 < nodes.length then .chassisCluster else .standalone

def readSnapshot (infoXml checkXml : Text) : Except SrxError CheckServerData := do
  let nodes ← parsePackageInformation crates profile infoXml
  let latestVersion ← parseCheckServerReply crates profile checkXml args.router
  return {
    router := args.router
    service := profile.service
    topology := topologyOfNodes nodes
    latestVersion
    nodes
    updateAvailable := updateAvailable profile nodes latestVersion
    rawXml := if args.includeRaw then
        some ("<!-- ".toList ++ profile.rawLabel.toList ++ " -->\n".toList ++ infoXml ++
          "\n<!-- check-server -->\n".toList ++ checkXml)
      else none }

def checkServer : PackageProg CheckServerData :=
  if (Text.trim args.router).isEmpty then
    .pure (.error (.invalidInput "router must not be empty".toList))
  else (onDevice (openExecutor.andThen fun _ =>
      (callRpc profile.rpcPackageInformation []).andThen fun infoXml =>
        (sendProbe profile.checkServer).andThen fun checkXml =>
          .pure (.ok (infoXml, checkXml)))).andThen fun replies =>
    .pure (readSnapshot crates profile args replies.1 replies.2)

def preflight : PackageProg (CheckServerData × List Text) :=
  (licenseActive crates profile args).andThen fun _ =>
  (clusterTopology crates args).andThen fun topology =>
  (commitWindow crates).andThen fun blockers =>
  (checkServer crates profile args).andThen fun snapshot =>
  .pure (.ok ({ snapshot with topology }, blockers))

/-- `preflight_rollback` and `preflight_uninstall`: the server is not asked. -/
def preflightLocal : PackageProg (CheckServerData × List Text) :=
  (licenseActive crates profile args).andThen fun _ =>
  (clusterTopology crates args).andThen fun topology =>
  (commitWindow crates).andThen fun blockers =>
  (callOnce profile.rpcPackageInformation).andThen fun infoXml =>
  .pure ((parsePackageInformation crates profile infoXml).map fun nodes =>
    (⟨args.router, profile.service, topology, [], nodes, false, none⟩, blockers))

/-! ## Polling -/

inductive PollFailure where
  | timeout (elapsedSecs : Nat)
  | failed (detail : Text)
  | transport (error : SrxError)

/-- The poll loop from an instant on. Instants do not go back, and a sleep takes its time, so each
round is later than the one before by the interval. -/
def pollFrom (probe : Probe) (detailElement : String) (deadline started earliest : Nat) :
    Prog PackageOp PackageAnswer (Except PollFailure Unit) :=
  .step .now fun reading =>
    let now := max earliest reading
    if deadline ≤ now then .pure (.error (.timeout ((now - started) / second)))
    else (onDevice (openExecutor.andThen fun _ => sendProbe probe)).bind fun
      | .error error => .pure (.error (.transport error))
      | .ok reply =>
          let detail := (textOf crates.toXmlCrates reply detailElement.toList).getD []
          match profile.parseAsyncStatusDetail detail with
          | .done => .pure (.ok ())
          | .failed d => .pure (.error (.failed d))
          | .pending => .step .now fun reading =>
              let after := max now reading + pollIntervalSecs * second
              if _late : deadline ≤ after then .step .now fun reading =>
                .pure (.error (.timeout ((max now reading - started) / second)))
              else .step (.sleep pollIntervalSecs) fun _ =>
                pollFrom probe detailElement deadline started after
termination_by deadline - earliest
decreasing_by
  have pause : 0 < pollIntervalSecs * second := by decide
  dsimp only [after, now] at _late
  omega

def convertPollFailure (router action : Text) : PollFailure → SrxError
  | .timeout elapsedSecs => .signaturePackagePollTimeout router action elapsedSecs
  | .failed detail =>
      if action = "download".toList then .signaturePackageDownloadFailed router detail
      else .signaturePackageInstallFailed router detail
  | .transport error => error

/-- An operation that goes on behind its acknowledgement, until its status is terminal. -/
def actAndPoll (rpc : String) (probe : Probe) (detailElement action : String) (started : Nat) :
    PackageProg Unit :=
  (callOnce rpc).andThen fun _ack =>
    (pollFrom crates profile probe detailElement (started + clampTimeout args.timeout) started
      started).bind fun result =>
        .pure (result.mapError (convertPollFailure args.router action.toList))

def downloadAndPoll (started : Nat) : PackageProg Unit :=
  actAndPoll crates profile args profile.rpcDownload profile.downloadStatus profile.downloadDetail
    "download" started

def installAndPoll (started : Nat) : PackageProg Unit :=
  actAndPoll crates profile args profile.rpcInstall profile.installStatus profile.installDetail
    "install" started

/-! ## Verification -/

def isAt (target : Text) (node : CheckServerNode) : Bool :=
  node.currentPackageVersion.any fun v =>
    profile.leadingVersionNumber v.val == profile.leadingVersionNumber target

def verifyNodes (target : Text) (nodes : List CheckServerNode) : Except SrxError Text :=
  match nodes.find? fun node => !isAt profile target node with
  | some node => .error (.signaturePackageVerificationFailed args.router target
      ((node.currentPackageVersion.map Subtype.val).getD notAvailable))
  | none => .ok ((firstReported CheckServerNode.currentPackageVersion nodes).getD target)

def verifyInstalledVersion (target : Text) : PackageProg Text :=
  (callOnce profile.rpcPackageInformation).andThen fun infoXml =>
    .pure (parsePackageInformation crates profile infoXml >>= verifyNodes profile args target)

def verifyUninstalled (nodes : List CheckServerNode) : Except SrxError Unit :=
  match firstReported CheckServerNode.currentPackageVersion nodes with
  | some v => .error (.signaturePackageVerificationFailed args.router notAvailable v)
  | none => .ok ()

/-! ## The destructive parts -/

def elapsedSeconds (started reading : Nat) : Nat := (max started reading - started) / second

/-- `run_destructive`, for AppID `run_install_destructive`. -/
def runDestructive (snapshot : CheckServerData) : PackageProg PackageResponse :=
  .step .now fun started =>
    let target := (resolveTarget snapshot.latestVersion args.version).1
    if allAtTarget profile.toPlanStyle snapshot.nodes target then
      .pure (.ok (.alreadyAtTarget (.new args.router profile.service
        ((snapshot.nodes.head?.bind fun node =>
          node.currentPackageVersion.map Subtype.val).getD []) target)))
    else
      (downloadAndPoll crates profile args started).andThen fun _ =>
      (installAndPoll crates profile args started).andThen fun _ =>
      (verifyInstalledVersion crates profile args target).andThen fun installed =>
      .step .now fun reading =>
        .pure (.ok (.installed ⟨args.router, profile.service, snapshot.topology, target, installed,
          elapsedSeconds started reading⟩))

end Workflow

def runRollbackDestructive (crates : LicenseCrates) (args : PackageArgs)
    (snapshot : CheckServerData) : PackageProg PackageResponse :=
  .step .now fun started =>
    match firstReported CheckServerNode.currentRollbackVersion snapshot.nodes with
    | none => .pure (.error (.signaturePackageNoRollbackTarget args.router))
    | some target =>
        let previous := (firstReported CheckServerNode.currentPackageVersion snapshot.nodes).getD
          notAvailable
        (callOnce "request-idp-security-package-rollback").andThen fun reply =>
        Prog.andThen (.pure (Idp.parseRollbackAck crates.toXmlCrates reply args.router)) fun _ =>
        (verifyInstalledVersion crates Idp.profile args target).andThen fun installed =>
        .step .now fun reading =>
          .pure (.ok (.rolledBack ⟨args.router, .idp, snapshot.topology, previous, installed,
            elapsedSeconds started reading⟩))

def runUninstallDestructive (crates : LicenseCrates) (args : PackageArgs)
    (snapshot : CheckServerData) : PackageProg PackageResponse :=
  .step .now fun started =>
    match firstReported CheckServerNode.currentPackageVersion snapshot.nodes with
    | none => .pure (.error (.signaturePackageNoUninstallTarget args.router))
    | some previous =>
        (actAndPoll crates Appid.profile args "request-appid-application-package-uninstall"
          (.flat "request-appid-application-package-uninstall-status")
          "apppack-uninstall-status-detail" "uninstall" started).andThen fun _ =>
        (callOnce Appid.profile.rpcPackageInformation).andThen fun post =>
        Prog.andThen (.pure (parsePackageInformation crates Appid.profile post >>=
          verifyUninstalled args)) fun _ =>
        .step .now fun reading =>
          .pure (.ok (.uninstalled ⟨args.router, .appid, snapshot.topology, previous,
            elapsedSeconds started reading⟩))

/-! ## The two calls -/

section TwoCalls

variable (args : PackageArgs) (caller : PackageCaller)

def bindingOf : ConfirmationBinding := .new caller.caller args.router caller.deviceIdentity

def orRefused {α : Type} (answer : Except ConfirmationError α) : PackageProg α :=
  .pure (answer.mapError (ConfirmationError.intoSrxError args.router))

/-- The first call: the plan is issued with a token. -/
def previewCall (planning : PackageProg (CheckServerData × PlanOutcome)) :
    PackageProg PackageResponse :=
  planning.andThen fun (_, outcome) => match outcome with
    | .alreadyAtTarget response => .pure (.ok (.alreadyAtTarget response))
    | .needsConfirmation plan =>
        .step (.issue plan.toJson (bindingOf args caller) caller.requestId) fun issued =>
          (orRefused args issued).andThen fun shown =>
            .pure (.error (.signaturePackageConfirmationRequired args.router shown))

/-- The second call: the lease is taken first, the plan is made again, and the token is consumed. -/
def confirmedCall (workflow : String) (token : Text)
    (planning : PackageProg (CheckServerData × PlanOutcome))
    (destroy : CheckServerData → PackageProg PackageResponse) : PackageProg PackageResponse :=
  .step (.validateBinding token (bindingOf args caller)) fun validated =>
    (orRefused args validated).andThen fun validated =>
      .step (.acquire args.router workflow.toList validated.correlationId) fun leased =>
        Prog.andThen (.pure (Except.mapError SrxError.transport leased)) fun _ =>
          planning.andThen fun (snapshot, outcome) => match outcome with
            | .alreadyAtTarget _ =>
                .pure (.error (.signaturePackageConfirmationPlanDrift args.router))
            | .needsConfirmation plan =>
                .step (.consume token (bindingOf args caller) plan.toJson) fun confirmed =>
                  (orRefused args confirmed).andThen fun _ => destroy snapshot

def inTwoCalls (workflow : String) (planning : PackageProg (CheckServerData × PlanOutcome))
    (destroy : CheckServerData → PackageProg PackageResponse) : PackageProg PackageResponse :=
  if (Text.trim args.router).isEmpty then
    .pure (.error (.invalidInput "router must not be empty".toList))
  else Prog.andThen (.pure (confirmationTokenForRequest args.confirm args.confirmationToken
      args.router)) fun
    | none => previewCall args caller planning
    | some token => confirmedCall args caller workflow token planning destroy

end TwoCalls

section Actions

variable (crates : LicenseCrates) (args : PackageArgs) (caller : PackageCaller)

def planInstall (profile : PackageProfile) : PackageProg (CheckServerData × PlanOutcome) :=
  (preflight crates profile args).andThen fun (snapshot, _blockers) =>
    .pure (.ok (snapshot, buildPlan profile.toPlanStyle snapshot args.version []))

def planLocal (profile : PackageProfile)
    (build : CheckServerData → List Text → Except SrxError ConfirmationPlan) :
    PackageProg (CheckServerData × PlanOutcome) :=
  (preflightLocal crates profile args).andThen fun (snapshot, _blockers) =>
    .pure ((build snapshot []).map fun plan => (snapshot, .needsConfirmation plan))

def downloadAndInstall (profile : PackageProfile) (workflow : String) :
    PackageProg PackageResponse :=
  inTwoCalls args caller workflow (planInstall crates args profile)
    (runDestructive crates profile args)

end Actions

end Package

/-! ## The two tools -/

inductive IdpAction where
  | checkServer
  | downloadAndInstall
  | rollback
deriving DecidableEq

inductive AppidAction where
  | checkServer
  | downloadAndInstall
  | uninstall
deriving DecidableEq

section Tools

open Package

variable (crates : LicenseCrates) (args : PackageArgs) (caller : PackageCaller)

def Idp.downloadAndInstall : PackageProg PackageResponse :=
  Package.downloadAndInstall crates args caller Idp.profile
    "manage_idp_security_package/download_and_install"

def Idp.rollback : PackageProg PackageResponse :=
  inTwoCalls args caller "manage_idp_security_package/rollback"
    (planLocal crates args Idp.profile Idp.buildRollbackPlan) (runRollbackDestructive crates args)

def Idp.run : IdpAction → PackageProg PackageResponse
  | .checkServer => (checkServer crates Idp.profile args).andThen fun data =>
      .pure (.ok (.checkServer data))
  | .downloadAndInstall => Idp.downloadAndInstall crates args caller
  | .rollback => Idp.rollback crates args caller

def Appid.downloadAndInstall : PackageProg PackageResponse :=
  Package.downloadAndInstall crates args caller Appid.profile
    "manage_appid_signature_package/download_and_install"

def Appid.uninstall : PackageProg PackageResponse :=
  inTwoCalls args caller "manage_appid_signature_package/uninstall"
    (planLocal crates args Appid.profile Appid.buildUninstallPlan)
    (runUninstallDestructive crates args)

def Appid.run : AppidAction → PackageProg PackageResponse
  | .checkServer => (checkServer crates Appid.profile args).andThen fun data =>
      .pure (.ok (.checkServer data))
  | .downloadAndInstall => Appid.downloadAndInstall crates args caller
  | .uninstall => Appid.uninstall crates args caller

end Tools

end JunosMcp.Srx
