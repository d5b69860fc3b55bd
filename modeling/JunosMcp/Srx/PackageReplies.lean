import JunosMcp.Srx.License
import JunosMcp.Srx.PackagePlan

/-!
# Replies of the signature-package operations

The IDP and the AppID workflow send operations of their own and read replies of their own elements
and words. What they do with them is the same.
-/

namespace JunosMcp.Srx

open Lib

/-- A call that reads: flat, or an element with a child. -/
inductive Probe where
  | flat (name : String)
  | composite (payload : String)
deriving DecidableEq

inductive AsyncStatusOutcome where
  | pending
  | done
  | failed (detail : Text)
deriving DecidableEq

structure PackageProfile extends PlanStyle where
  service : Service
  feature : SrxLicensedFeature
  rpcPackageInformation : String
  rpcCheckServer : String
  rpcDownload : String
  rpcInstall : String
  checkServer : Probe
  downloadStatus : Probe
  installStatus : Probe
  checkDetail : String
  downloadDetail : String
  installDetail : String
  rawLabel : String
  /-- The node from its name and its elements, each trimmed and normalised. -/
  readNode : Text → (String → Option PackageVersion) → CheckServerNode
  normalizeVersionText : Text → Option PackageVersion
  saysUnreachable : Text → Bool
  parseAsyncStatusDetail : Text → AsyncStatusOutcome

/-- A version that says something, trimmed. -/
def packageVersionOf (saysNothing : Text → Bool) (raw : Text) : Option PackageVersion :=
  let t := Text.trim raw
  if h : eqIgnoreAsciiCase t "n/a".toList = true ∨ saysNothing t = true then none
  else some ⟨t, fun same => h (.inl (by rw [same]; decide))⟩

/-- The digits behind `Version info:`. -/
def extractVersionInfo (detail : Text) : Option Text :=
  match Text.findAfter "Version info:".toList detail with
  | none => none
  | some tail =>
      let digits := tail.takeWhile Char.isDigit
      if digits.isEmpty then none else some digits

/-- `str::to_lowercase` as far as ASCII letters come out of it: the Kelvin sign and the dotted capital
I are the only others whose lower case has one. -/
def toLowercase (text : Text) : Text :=
  text.flatMap fun c =>
    if c = Char.ofNat 0x212A then ['k']
    else if c = Char.ofNat 0x130 then ['i', Char.ofNat 0x307]
    else [c.toLower]

/-! ## IDP -/

namespace Idp

def normalizeVersionText (raw : Text) : Option PackageVersion :=
  packageVersionOf (fun t => t.isEmpty || Text.startsWith t "N/A(".toList) raw

def parseAsyncStatusDetail (detail : Text) : AsyncStatusOutcome :=
  let t := Text.trim detail
  if Text.contains t "Failed;".toList then .failed t
  else if Text.startsWith t "Done;".toList then .done
  else .pending

def profile : PackageProfile where
  toPlanStyle := style
  service := .idp
  feature := .idp
  rpcPackageInformation := "get-idp-security-package-information"
  rpcCheckServer := "request-idp-security-package-download/check-server"
  rpcDownload := "request-idp-security-package-download"
  rpcInstall := "request-idp-security-package-install"
  checkServer := .composite ("<request-idp-security-package-download><check-server/>" ++
    "</request-idp-security-package-download>")
  downloadStatus := .composite ("<request-idp-security-package-download><status/>" ++
    "</request-idp-security-package-download>")
  installStatus := .composite ("<request-idp-security-package-install><status/>" ++
    "</request-idp-security-package-install>")
  checkDetail := "secpack-download-status-detail"
  downloadDetail := "secpack-download-status-detail"
  installDetail := "secpack-status-detail"
  rawLabel := "package-information"
  readNode reName element := {
    reName
    currentPackageVersion := element "security-package-version"
    currentDetectorVersion := element "detector-version"
    currentRollbackVersion := element "security-package-rollback-version"
    releaseDate := none }
  normalizeVersionText := normalizeVersionText
  saysUnreachable detail := Text.contains detail "Failed;".toList
  parseAsyncStatusDetail := parseAsyncStatusDetail

end Idp

/-! ## AppID -/

namespace Appid

def normalizeVersionText (raw : Text) : Option PackageVersion :=
  packageVersionOf
    (fun t => t.isEmpty || Text.startsWith t "N/A(".toList || t == "0".toList) raw

def parseAsyncStatusDetail (detail : Text) : AsyncStatusOutcome :=
  let t := Text.trim detail
  let lower := toLowercase t
  if Text.contains lower "failed".toList then .failed t
  else if Text.startsWith lower "downloaded".toList || Text.startsWith lower "installed".toList ||
      Text.startsWith lower "uninstalled".toList then .done
  else .pending

def saysUnreachable (detail : Text) : Bool :=
  let lower := toLowercase detail
  Text.contains lower "not reachable".toList || Text.contains lower "verification failed".toList ||
    Text.contains lower "failed;".toList || Text.contains lower "could not connect".toList

def profile : PackageProfile where
  toPlanStyle := style
  service := .appid
  feature := .appId
  rpcPackageInformation := "get-appid-package-version"
  rpcCheckServer := "request-appid-application-package-download-check-server"
  rpcDownload := "request-appid-application-package-download"
  rpcInstall := "request-appid-application-package-install"
  checkServer := .flat "request-appid-application-package-download-check-server"
  downloadStatus := .flat "request-appid-application-package-download-status"
  installStatus := .flat "request-appid-application-package-install-status"
  checkDetail := "apppack-server-status-detail"
  downloadDetail := "apppack-download-status-detail"
  installDetail := "apppack-install-status-detail"
  rawLabel := "package-version"
  readNode reName element := {
    reName
    currentPackageVersion := element "version-detail"
    currentDetectorVersion := none
    currentRollbackVersion := none
    releaseDate := element "release-date" }
  normalizeVersionText := normalizeVersionText
  saysUnreachable := saysUnreachable
  parseAsyncStatusDetail := parseAsyncStatusDetail

end Appid

def Service.profile : Service → PackageProfile
  | .idp => Idp.profile
  | .appid => Appid.profile

/-! ## Reading replies -/

namespace Package

section

variable (crates : LicenseCrates) (profile : PackageProfile)

def nodeOf (node : ReNode) : CheckServerNode :=
  profile.readNode node.reName fun element =>
    (textOf crates.toXmlCrates node.innerXml element.toList).bind profile.normalizeVersionText

/-- `parse_package_information`, for AppID `parse_package_version`. -/
def parsePackageInformation (replyXml : Text) : Except SrxError (List CheckServerNode) := do
  let split ← multiReSplit crates.toXmlCrates replyXml
  if split.isEmpty then
    .error (.schemaMismatch profile.rpcPackageInformation "multi-routing-engine-item")
  else return split.map (nodeOf crates profile)

/-- What an `xnm:error` says. -/
def serverError (replyXml : Text) : Option Text :=
  if Text.contains replyXml "<xnm:error".toList || Text.contains replyXml "xmlns:xnm".toList then
    (textOf crates.toXmlCrates replyXml "message".toList).filter fun message => !message.isEmpty
  else none

def parseCheckServerReply (replyXml router : Text) : Except SrxError Text :=
  match serverError crates replyXml with
  | some message => .error (.signaturePackageServerUnreachable router message)
  | none => match textOf crates.toXmlCrates replyXml profile.checkDetail.toList with
      | none => .error (.schemaMismatch profile.rpcCheckServer profile.checkDetail)
      | some detail =>
          if profile.saysUnreachable detail then
            .error (.signaturePackageServerUnreachable router detail)
          else match extractVersionInfo detail with
            | some version => .ok version
            | none => .error (.parse (profile.rpcCheckServer.toList ++
                ": missing 'Version info:NNNN' in detail text: ".toList ++ crates.debug detail))

def updateAvailable (nodes : List CheckServerNode) (latestVersion : Text) : Bool :=
  nodes.any fun node => match node.currentPackageVersion with
    | none => true
    | some v => profile.leadingVersionNumber v.val != profile.leadingVersionNumber latestVersion

end

end Package

/-- `parse_rollback_ack`. -/
def Idp.parseRollbackAck (crates : XmlCrates) (replyXml router : Text) : Except SrxError Unit :=
  let detail := (textOf crates replyXml "secpack-rollback-status-detail".toList).getD []
  match Idp.parseAsyncStatusDetail detail with
  | .done | .pending => .ok ()
  | .failed d =>
      if Text.contains d "No backup available".toList then
        .error (.signaturePackageNoRollbackTarget router)
      else .error (.signaturePackageInstallFailed router d)

end JunosMcp.Srx
