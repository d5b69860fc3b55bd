import JunosMcp.Srx.ClusterStatus
import JunosMcp.Srx.Device

/-!
# `check_srx_feature_license`

The records of a licence summary whose name matches a security feature.
-/

namespace JunosMcp.Srx

open Lib

/-- What reading licences takes from other crates. A point in time is a number of nanoseconds. -/
structure LicenseCrates extends XmlCrates where
  /-- `OffsetDateTime::parse` for RFC 3339; an error is its `Display`. -/
  rfc3339 : Text → Except Text Int
  /-- A text as `{:?}` prints it. -/
  debug : Text → Text

inductive SrxLicensedFeature where
  | idp
  | appId
  | utmAntivirus
  | webFiltering
  | antiSpam
  | secIntel
  | atpCloud
  | sslProxy
deriving DecidableEq

namespace SrxLicensedFeature

def recordPatterns : SrxLicensedFeature → List Text
  | .idp => ["idp".toList, "intrusion".toList]
  | .appId => ["application identification".toList, "appid".toList, "app-id".toList]
  | .utmAntivirus =>
      ["antivirus".toList, "av-key".toList, "av_key".toList, "anti-virus".toList]
  | .webFiltering => ["web filtering".toList, "url filtering".toList, "web-filtering".toList]
  | .antiSpam => ["anti-spam".toList, "antispam".toList]
  | .secIntel => ["secintel".toList, "security intelligence".toList, "sec-intel".toList]
  | .atpCloud => ["atp cloud".toList, "sky atp".toList, "advanced threat".toList]
  | .sslProxy => ["ssl proxy".toList, "ssl forward proxy".toList, "ssl-proxy".toList]

def displayName : SrxLicensedFeature → Text
  | .idp => "idp".toList
  | .appId => "app_id".toList
  | .utmAntivirus => "utm_antivirus".toList
  | .webFiltering => "web_filtering".toList
  | .antiSpam => "anti_spam".toList
  | .secIntel => "sec_intel".toList
  | .atpCloud => "atp_cloud".toList
  | .sslProxy => "ssl_proxy".toList

end SrxLicensedFeature

structure LicenseRecord where
  featureName : Text
  licenseType : Text
  endDate : Option Int

structure LicenseCounts where
  used : Nat
  installed : Nat
  needed : Nat

structure LicenseData where
  feature : SrxLicensedFeature
  licenseRecords : List LicenseRecord
  counts : LicenseCounts
  earliestExpiry : Option Int
  allPermanent : Bool

structure LicenseArgs where
  router : Text
  feature : SrxLicensedFeature
  includeRaw : Bool

namespace License

/-- The text before and behind a byte position. -/
def splitAtByte : Nat → Text → Option (Text × Text)
  | 0, text => some ([], text)
  | _ + 1, [] => none
  | n + 1, c :: rest =>
      if c.utf8Size ≤ n + 1 then
        (splitAtByte (n + 1 - c.utf8Size) rest).map fun (before, behind) => (c :: before, behind)
      else none
termination_by _ text => text.length

def hasByte (n : Nat) (c : Char) (text : Text) : Bool :=
  match splitAtByte n text with
  | some (_, d :: _) => d == c
  | _ => false

/-- The RFC 3339 form of a Junos date; a date without a time is the end of its day. -/
def rfc3339Form (debug : Text → Text) (s : Text) : Except Text Text :=
  let s := Text.trim s
  let s := Text.trim ((Text.stripSuffix " UTC".toList s).getD s)
  if utf8Len s == 19 && hasByte 10 ' ' s then
    match splitAtByte 10 s with
    | some (day, _ :: time) => .ok (day ++ "T".toList ++ time ++ "+00:00".toList)
    | _ => .ok s
  else if utf8Len s == 10 && hasByte 4 '-' s && hasByte 7 '-' s then
    .ok (s ++ "T23:59:59+00:00".toList)
  else if 'T' ∈ s then .ok s
  else .error ("unrecognised Junos date format: ".toList ++ debug s)

section Parse

variable (crates : LicenseCrates)

def junosDateToOffset (s : Text) : Except Text Int := do
  let rfc ← rfc3339Form crates.debug s
  (crates.rfc3339 rfc).mapError fun e => "rfc3339 parse ".toList ++ crates.debug rfc ++ ": ".toList ++ e

/-- The trimmed text of the first child of this name, where it is not empty. -/
def childText (name : String) (node : XmlNode) : Option Text :=
  (((node.child name.toList).bind XmlNode.leadingText).map Text.trim).filter (!·.isEmpty)

def countOf (older newer : String) (summary : XmlNode) : Nat :=
  (((childText older summary).or (childText newer summary)).bind (parseUnsigned 32)).getD 0

def readCounts (summary : XmlNode) : LicenseCounts where
  used := countOf "licenses-used" "used-licensed" summary
  installed := countOf "licenses-installed" "licensed" summary
  needed := countOf "licenses-needed" "needed" summary

def saturatingAdd (a b : Nat) : Nat := min (a + b) (2 ^ 32 - 1)

def LicenseCounts.add (a b : LicenseCounts) : LicenseCounts :=
  ⟨saturatingAdd a.used b.used, saturatingAdd a.installed b.installed,
    saturatingAdd a.needed b.needed⟩

def featureName (summary : XmlNode) : Text := (childText "name" summary).getD []

def endDateOf (summary : XmlNode) : Except SrxError (Option Int) :=
  match childText "end-date" summary with
  | none => .ok none
  | some s => match junosDateToOffset crates s with
      | .ok date => .ok (some date)
      | .error e => .error (.parse ("end-date parse error: ".toList ++ e))

def readRecord (summary : XmlNode) : Except SrxError LicenseRecord := do
  let endDate ← endDateOf crates summary
  return ⟨featureName summary,
    ((childText "license-type" summary).or (childText "validity-type" summary)).getD
      (if endDate.isSome then "date-based".toList else []), endDate⟩

def matchesFeature (feature : SrxLicensedFeature) (summary : XmlNode) : Bool :=
  feature.recordPatterns.any fun p => Text.contains (asciiLowercase (featureName summary)) p

/-- The summaries a feature is matched against. -/
def featureSummaries (feature : SrxLicensedFeature) (document : XmlDocument) : List XmlNode :=
  (document.all "feature-summary".toList).filter (matchesFeature feature)

def licenseData (feature : SrxLicensedFeature) (summaries : List XmlNode)
    (records : List LicenseRecord) : LicenseData where
  feature := feature
  licenseRecords := records
  counts := (summaries.map readCounts).foldl LicenseCounts.add ⟨0, 0, 0⟩
  earliestExpiry := (records.filterMap LicenseRecord.endDate).min?
  allPermanent := records.all fun r => r.endDate.isNone

def parse (feature : SrxLicensedFeature) (summaryXml : Text) :
    Except SrxError (SrxToolResponse LicenseData) :=
  match crates.parse (sanitizeRustezXml summaryXml) with
  | .error error => .error (.parse ("roxmltree: ".toList ++ error))
  | .ok document => do
      let summaries := featureSummaries feature document
      let records ← summaries.mapM (readRecord crates)
      if records.isEmpty then
        return .notConfigured (feature.displayName ++ " not present in installed licenses".toList)
      else return .active (licenseData feature summaries records)

def run (args : LicenseArgs) : DeviceProg (SrxToolResponse LicenseData) :=
  if (Text.trim args.router).isEmpty then
    .pure (.error (.invalidInput "router must not be empty".toList))
  else openExecutor.andThen fun _ =>
    (callRpc "get-license-summary-information" []).andThen fun summary =>
    (callRpc "get-license-key-information" []).andThen fun keys =>
    .pure ((parse crates args.feature summary).map fun parsed =>
      if args.includeRaw then
        parsed.withRaw ("<!-- summary -->\n".toList ++ summary ++ "\n<!-- keys -->\n".toList ++ keys)
      else parsed)

end Parse

end License

end JunosMcp.Srx
