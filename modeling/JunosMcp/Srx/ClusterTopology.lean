import JunosMcp.Lib.Results
import JunosMcp.Srx.ClusterStatus
import JunosMcp.Srx.PackagePlan

/-!
# The topology a destructive workflow goes by

`cluster_topology` takes every reply without cluster data for a standalone device, and every reply
whose members are all primary or secondary for a paired cluster.
-/

namespace JunosMcp.Srx

open Lib

/-! ## The topology -/

def isHealthyStatus (status : Text) : Bool :=
  asciiLowercase status == "primary".toList || asciiLowercase status == "secondary".toList

def classify (router : Text) (parsed : SrxToolResponse ClusterStatusData) :
    Except SrxError Topology :=
  match parsed.state with
  | .notConfigured | .error => .ok .standalone
  | .active =>
      let members := parsed.data.toList.flatMap fun data =>
        data.redundancyGroups.flatMap RedundancyGroup.members
      match members.find? fun m => !isHealthyStatus m.status with
      | some m => .error (.signaturePackageClusterDesynced router m.status)
      | none => .ok .chassisCluster

/-- What `cluster_topology` makes of the reply. -/
def topologyOf (crates : XmlCrates) (router reply : Text) : Except SrxError Topology :=
  ClusterStatus.parse crates reply >>= classify router

/-! ## What a reply says -/

open ClusterStatus

/-- Some node reports this role of the node in the group. -/
def Reported (reports : List NodeReport) (groupId : Nat) (node status : Text) : Prop :=
  ∃ report ∈ reports, ∃ group ∈ report.groups, group.groupId = groupId ∧
    ∃ m ∈ group.members, m.node = node ∧ asciiLowercase m.status = status

/-- The reply is not taken for an error, and these are its nodes and what they report. -/
structure ClusterAnswer (crates : XmlCrates) (reply : Text) (document : XmlDocument)
    (nodes : List ReNode) (reports : List NodeReport) : Prop where
  read : crates.parse reply = .ok document
  answers : isNotConfigured document = false
  split : multiReSplit crates reply = .ok nodes
  reported : nodeReports crates nodes = .ok reports

def Silent (reports : List NodeReport) : Prop :=
  ∀ report ∈ reports, report.clusterId = none ∧ report.groups = []

theorem mergeGroup_ne_nil (group : RedundancyGroup) (groups : List RedundancyGroup) :
    mergeGroup group groups ≠ [] := by
  cases groups with
  | nil => simp [mergeGroup]
  | cons existing rest =>
      rw [mergeGroup]
      split <;> simp

theorem mergeGroups_eq_nil {groups : List RedundancyGroup} :
    ∀ {seen : List RedundancyGroup},
      groups.foldl (fun groups group => mergeGroup group groups) seen = [] ↔
        seen = [] ∧ groups = [] := by
  induction groups with
  | nil => simp
  | cons group rest ih =>
      intro seen
      rw [List.foldl_cons, ih]
      simp [mergeGroup_ne_nil]

theorem merged_silent {reports : List NodeReport} :
    ∀ {seen : NodeReport}, ((reports.foldl mergeReport seen).clusterId = none ∧
        (reports.foldl mergeReport seen).groups = []) ↔
      (seen.clusterId = none ∧ seen.groups = []) ∧ Silent reports := by
  induction reports with
  | nil => simp [Silent]
  | cons report rest ih =>
      intro seen
      rw [List.foldl_cons, ih]
      simp only [mergeReport, mergeGroups_eq_nil, Option.or_eq_none_iff, Silent,
        List.forall_mem_cons]
      tauto

theorem silent_iff {reports : List NodeReport} :
    ((merged reports).clusterId.isNone && (merged reports).groups.isEmpty) = true ↔
      Silent reports := by
  rw [Bool.and_eq_true, Option.isNone_iff_eq_none, List.isEmpty_iff, merged, merged_silent]
  simp

section Classify

variable {crates : XmlCrates} {router reply : Text}

theorem isNotConfiguredXml_eq_ok {answer : Bool} :
    isNotConfiguredXml crates reply = .ok answer ↔
      ∃ document, crates.parse reply = .ok document ∧ answer = isNotConfigured document := by
  unfold isNotConfiguredXml
  cases crates.parse reply <;> simp [eq_comm]

theorem parse_eq_ok {response : SrxToolResponse ClusterStatusData} :
    ClusterStatus.parse crates reply = .ok response ↔
      (∃ document, crates.parse reply = .ok document ∧ isNotConfigured document = true ∧
        response = .notConfigured disabled) ∨
      ∃ document nodes reports, ClusterAnswer crates reply document nodes reports ∧
        ((Silent reports ∧ response = .notConfigured disabled) ∨
          (¬ Silent reports ∧ response = .active (clusterData reports))) := by
  unfold ClusterStatus.parse
  rw [bind_eq_ok]
  constructor
  · rintro ⟨answer, asked, rest⟩
    obtain ⟨document, read, rfl⟩ := isNotConfiguredXml_eq_ok.mp asked
    split at rest
    · next absent =>
        cases rest
        exact .inl ⟨document, read, absent, rfl⟩
    · next answers =>
        obtain ⟨nodes, split, rest⟩ := bind_eq_ok.mp rest
        obtain ⟨reports, reported, rest⟩ := bind_eq_ok.mp rest
        refine .inr ⟨document, nodes, reports,
          ⟨read, Bool.eq_false_of_not_eq_true answers, split, reported⟩, ?_⟩
        split at rest
        · next silent =>
            cases rest
            exact .inl ⟨silent_iff.mp silent, rfl⟩
        · next heard =>
            cases rest
            exact .inr ⟨fun silent => heard (silent_iff.mpr silent), rfl⟩
  · rintro (⟨document, read, absent, rfl⟩ | ⟨document, nodes, reports, answer, shown⟩)
    · exact ⟨true, isNotConfiguredXml_eq_ok.mpr ⟨document, read, absent.symm⟩, rfl⟩
    · refine ⟨false, isNotConfiguredXml_eq_ok.mpr ⟨document, answer.read, answer.answers.symm⟩, ?_⟩
      rw [if_neg Bool.false_ne_true]
      refine bind_eq_ok.mpr ⟨nodes, answer.split, bind_eq_ok.mpr ⟨reports, answer.reported, ?_⟩⟩
      rcases shown with ⟨silent, rfl⟩ | ⟨heard, rfl⟩
      · exact if_pos (silent_iff.mpr silent)
      · exact if_neg fun silent => heard (silent_iff.mp silent)

theorem classify_active {data : ClusterStatusData} :
    classify router (.active data) ≠ .ok .standalone ∧
      (classify router (.active data) = .ok .chassisCluster ↔
        ∀ group ∈ data.redundancyGroups, ∀ m ∈ group.members,
          isHealthyStatus m.status = true) := by
  have all : ((data.redundancyGroups.flatMap RedundancyGroup.members).find? fun m =>
      !isHealthyStatus m.status) = none ↔
      ∀ group ∈ data.redundancyGroups, ∀ m ∈ group.members, isHealthyStatus m.status = true := by
    simp [List.find?_eq_none]
  rw [← all]
  simp only [classify, SrxToolResponse.active, Option.toList_some, List.flatMap_singleton]
  cases (data.redundancyGroups.flatMap RedundancyGroup.members).find? fun m =>
      !isHealthyStatus m.status with
  | none => simp
  | some m => simp

theorem topologyOf_standalone :
    topologyOf crates router reply = .ok .standalone ↔
      (∃ document, crates.parse reply = .ok document ∧ isNotConfigured document = true) ∨
      ∃ document nodes reports, ClusterAnswer crates reply document nodes reports ∧
        Silent reports := by
  rw [topologyOf, bind_eq_ok]
  constructor
  · rintro ⟨response, parsed, classified⟩
    rcases parse_eq_ok.mp parsed with ⟨document, read, absent, rfl⟩ |
      ⟨document, nodes, reports, answer, ⟨silent, rfl⟩ | ⟨heard, rfl⟩⟩
    · exact .inl ⟨document, read, absent⟩
    · exact .inr ⟨document, nodes, reports, answer, silent⟩
    · exact absurd classified classify_active.1
  · rintro (⟨document, read, absent⟩ | ⟨document, nodes, reports, answer, silent⟩)
    · exact ⟨_, parse_eq_ok.mpr (.inl ⟨document, read, absent, rfl⟩), rfl⟩
    · exact ⟨_, parse_eq_ok.mpr
        (.inr ⟨document, nodes, reports, answer, .inl ⟨silent, rfl⟩⟩), rfl⟩

end Classify

/-! ### A denied query -/

end JunosMcp.Srx
