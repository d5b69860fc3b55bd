import JunosMcp.Srx.ClusterHealth
import JunosMcp.Srx.ClusterTopology

/-!
# What the health verdict is based on

A failed call is reported as a data gap. A reply that is no document, a part of it that is none, an
error in it and a node that is not in it are passed over, so their checks find nothing.
-/

namespace JunosMcp.Srx.ClusterHealth

open Lib

/-! ## The replies of a run -/

def replyTo (name : String) (trace : DeviceTrace) : SubCall :=
  (trace.findSome? fun
    | ⟨.call other _, answer⟩ => if other = name then some (subCall answer) else none
    | _ => none).getD ⟨[], none⟩

def captured (trace : DeviceTrace) : Captured where
  status := replyTo "get-chassis-cluster-status" trace
  interfaces := replyTo "get-chassis-cluster-interfaces" trace
  info := replyTo "get-chassis-cluster-information" trace
  dpStats := replyTo "get-chassis-cluster-data-plane-statistics" trace
  clStats := replyTo "get-chassis-cluster-statistics" trace
  software := replyTo "get-software-information" trace
  alarms := replyTo "get-system-alarm-information" trace
  uptime := replyTo "get-system-uptime-information" trace

section

variable (crates : XmlCrates)

def statusSnapshot (status : SubCall) : Option ClusterStatusData :=
  if status.isOk then
    match ClusterStatus.parse crates status.raw with
    | .error _ => none
    | .ok parsed => snapshotOf parsed
  else none

/-! ## Sources -/

/-- The part of the node is a document without an error, and what is looked for is in it. -/
def Answers (datum : XmlDocument → Bool) (node : ReNode) : Prop :=
  ∃ document, crates.parse node.innerXml = .ok document ∧
    (∀ element ∈ document.descendants, ClusterStatus.isErrorElement element = false) ∧
    datum document = true

/-- At least so many nodes are in the reply, and each of them answers. -/
def ReadFrom (nodeCount : Nat) (datum : XmlDocument → Bool) (source : SubCall) : Prop :=
  source.error = none ∧ ∃ nodes, multiReSplit crates source.raw = .ok nodes ∧
    nodeCount ≤ nodes.length ∧ ∀ node ∈ nodes, Answers crates datum node

def anything (_ : XmlDocument) : Bool := true

def Check.sources (c : Captured) : Check → List SubCall
  | .redLed => [c.info]
  | .disabledSecondary => [c.status]
  | .controlLinkFailure => [c.interfaces, c.info]
  | .majorAlarm | .minorAlarm => [c.alarms]
  | .recentReboot => [c.uptime]
  | .versionSkew => [c.software]

def Readable (c : Captured) (check : Check) : Prop :=
  ∀ source ∈ check.sources c, ReadFrom crates 0 anything source

/-- A part of the reply that can be read has such an element. -/
def Shows (source : SubCall) (name : Text) (test : XmlNode → Bool) : Prop :=
  source.error = none ∧ ∃ part ∈ readNodes crates source.raw,
    ∃ element ∈ part.2.all name, test element = true

/-- The call of the check failed, or a part of its reply that can be read shows a problem. -/
def Reports (c : Captured) : Check → Prop
  | .redLed => c.info.error ≠ none ∨
      Shows crates c.info "chassis-cluster-led-information".toList isRed
  | .disabledSecondary => statusSnapshot crates c.status = none ∨
      ∃ snapshot, statusSnapshot crates c.status = some snapshot ∧
        ∃ group ∈ snapshot.redundancyGroups, ∃ m ∈ group.members, isOut m = true
  | .controlLinkFailure => (c.interfaces.error ≠ none ∧ c.info.error ≠ none) ∨
      Shows crates c.interfaces monitoredStatus isDown ∨
      Shows crates c.info transitionRecord namesLinkFailure
  | .majorAlarm => c.alarms.error ≠ none ∨
      Shows crates c.alarms "alarm-detail".toList (hasClass "Major")
  | .minorAlarm => c.alarms.error ≠ none ∨
      Shows crates c.alarms "alarm-detail".toList (hasClass "Minor")
  | .recentReboot => c.uptime.error ≠ none ∨
      Shows crates c.uptime "system-uptime-information".toList fun uptime =>
        (uptimeSeconds uptime).any (· < 300)
  | .versionSkew => c.software.error ≠ none ∨
      2 ≤ nodeCount crates c.software.raw ∧
        ∃ a ∈ versions crates c.software.raw, ∃ b ∈ versions crates c.software.raw, a.2 ≠ b.2

variable {crates}

theorem report_data {args : ClusterHealthArgs} {requestId : Text}
    {snapshot : Option ClusterStatusData} {c : Captured} {data : ClusterHealthData}
    (reported : (report crates args requestId snapshot c).data = some data) :
    data.findings = allFindings crates snapshot c ∧
      data.verdict = Verdict.rollUp data.findings := by
  dsimp only [report] at reported
  split at reported <;> cases reported <;> exact ⟨rfl, rfl⟩

end

/-! ### Truncated replies -/

end JunosMcp.Srx.ClusterHealth
