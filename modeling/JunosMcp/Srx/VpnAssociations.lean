import JunosMcp.Lib.KeyedJoin
import JunosMcp.Srx.VpnLifecycle

/-!
# The associations a VPN report leaves out

The nodes of the report are those of the first-phase reply, and each takes the part of the first node
of its name from the other reply. What no node takes is in no report.
-/

namespace JunosMcp.Srx.VpnLifecycle

open Lib

/-! ## What is written and what is shown -/

section Sas

variable (crates : XmlCrates) {Sa : Type}

/-- The associations of a node's part that pass the filter. -/
def written (sasOf : XmlDocument → List Sa) (wanted : Sa → Bool) (node : ReNode) : List Sa :=
  (((crates.parse (sanitizeRustezXml node.innerXml)).toOption.map sasOf).getD []).filter wanted

def shown (parse : Text → Except SrxError (List Sa)) (wanted : Sa → Bool) (node : ReNode) : List Sa :=
  ((parse node.innerXml).toOption.getD []).filter wanted

variable (peer tunnel : Option Text)

def writtenIke : ReNode → List IkeSa := written crates ikeSasOf (ikePasses peer)

def writtenIpsec : ReNode → List IpsecSa := written crates ipsecSasOf (ipsecPasses peer tunnel)

def shownIke : ReNode → List IkeSa := shown (parseIke crates) (ikePasses peer)

def shownIpsec : ReNode → List IpsecSa := shown (parseIpsec crates) (ipsecPasses peer tunnel)

end Sas

section Lossless

variable (crates : XmlCrates) (peer tunnel : Option Text)

/-- The nodes of a reply. -/
def nodesOf (replyXml : Text) : List ReNode :=
  (multiReSplit crates (sanitizeRustezXml replyXml)).toOption.getD []

def reportsOf (response : SrxToolResponse VpnLifecycleData) : List NodeVpnReport :=
  (response.data.map VpnLifecycleData.nodes).getD []

/-- Each association is in one report, that of its own node, as often as it is in the replies. -/
structure Lossless (ikeNodes ipsecNodes : List ReNode) (reports : List NodeVpnReport) : Prop where
  ike : ∀ name, (heldUnder NodeVpnReport.reName NodeVpnReport.ikeSas reports name).Perm
    (heldUnder ReNode.reName (writtenIke crates peer) ikeNodes name)
  ipsec : ∀ name, (heldUnder NodeVpnReport.reName NodeVpnReport.ipsecSas reports name).Perm
    (heldUnder ReNode.reName (writtenIpsec crates peer tunnel) ipsecNodes name)

/-- Replies that report an error each and no associations. -/
def Unconfigured (ikeXml ipsecXml : Text) : Prop :=
  isNotConfiguredXml crates (sanitizeRustezXml ikeXml) = .ok true ∧
    isNotConfiguredXml crates (sanitizeRustezXml ipsecXml) = .ok true

/-- The nodes of the two replies fit together. Under a name, the second-phase nodes hold what the
first of them shows, once for each first-phase node of the name. -/
structure Joined (ikeNodes ipsecNodes : List ReNode) : Prop where
  unmasked : ∀ node ∈ ikeNodes, isNotConfiguredXml crates node.innerXml = .ok true →
    writtenIke crates peer node = []
  paired : ∀ name, ((List.replicate (ikeNodes.countP fun node => node.reName = name)
      (firstHeld ReNode.reName (shownIpsec crates peer tunnel) ipsecNodes name)).flatten).Perm
    (heldUnder ReNode.reName (writtenIpsec crates peer tunnel) ipsecNodes name)

/-- What the replies have to be for no association to be lost. -/
def Kept (ikeXml ipsecXml : Text) : Prop :=
  (Unconfigured crates ikeXml ipsecXml →
    (∀ node ∈ nodesOf crates ikeXml, writtenIke crates peer node = []) ∧
      ∀ node ∈ nodesOf crates ipsecXml, writtenIpsec crates peer tunnel node = []) ∧
    (¬ Unconfigured crates ikeXml ipsecXml →
      Joined crates peer tunnel (nodesOf crates ikeXml) (nodesOf crates ipsecXml))

end Lossless

/-! ## One node -/

section Node

variable {crates : XmlCrates} {peer tunnel : Option Text} {Sa : Type} {phase : String}
  {sasOf : XmlDocument → List Sa} {node : ReNode} {sas : List Sa}

theorem parseSas_ok {xml : Text} (ok : parseSas crates phase sasOf xml = .ok sas) :
    (isNotConfiguredXml crates xml = .ok true ∧ sas = []) ∨
      (isNotConfiguredXml crates xml = .ok false ∧
        ∃ document, crates.parse (sanitizeRustezXml xml) = .ok document ∧ sas = sasOf document) := by
  obtain ⟨notConfigured, asked, ok⟩ := bind_eq_ok.mp ok
  cases notConfigured with
  | true =>
      cases ok
      exact .inl ⟨asked, rfl⟩
  | false =>
      refine .inr ⟨asked, ?_⟩
      cases read : crates.parse (sanitizeRustezXml xml) with
      | error error =>
          rw [read] at ok
          cases ok
      | ok document =>
          rw [read] at ok
          cases ok
          exact ⟨document, rfl, rfl⟩

/-- A node that reports nothing but an error shows nothing. -/
theorem shown_eq {wanted : Sa → Bool} (ok : parseSas crates phase sasOf node.innerXml = .ok sas) :
    (isNotConfiguredXml crates node.innerXml = .ok true ∧
        shown (parseSas crates phase sasOf) wanted node = []) ∨
      (isNotConfiguredXml crates node.innerXml = .ok false ∧
        shown (parseSas crates phase sasOf) wanted node = written crates sasOf wanted node) := by
  rw [shown, ok]
  rcases parseSas_ok ok with ⟨notConfigured, rfl⟩ | ⟨configured, document, read, rfl⟩
  · exact .inl ⟨notConfigured, rfl⟩
  · refine .inr ⟨configured, ?_⟩
    rw [written, read]
    rfl

theorem parseIke_eq : parseIke crates = parseSas crates "IKE" ikeSasOf := rfl

theorem nodeReport_ok {ipsecNodes : List ReNode} {report : NodeVpnReport}
    (ok : nodeReport crates peer tunnel ipsecNodes node = .ok report) :
    (∃ sas, parseIke crates node.innerXml = .ok sas) ∧ report.reName = node.reName ∧
      report.ikeSas = shownIke crates peer node ∧ report.ipsecSas =
        firstHeld ReNode.reName (shownIpsec crates peer tunnel) ipsecNodes node.reName := by
  obtain ⟨ikeSas, readIke, ok⟩ := bind_eq_ok.mp ok
  obtain ⟨ipsecSas, readIpsec, ok⟩ := bind_eq_ok.mp ok
  cases ok
  refine ⟨⟨ikeSas, readIke⟩, rfl, ?_, ?_⟩
  · rw [shownIke, shown, readIke]
    rfl
  · rw [innerOf] at readIpsec
    rw [firstHeld]
    cases found : ipsecNodes.find? fun other => other.reName = node.reName with
    | none =>
        rw [found] at readIpsec
        cases readIpsec
        rfl
    | some partner =>
        rw [found] at readIpsec
        rw [Option.map_some, Option.getD_some, shownIpsec, shown]
        have here : parseIpsec crates partner.innerXml = .ok ipsecSas := readIpsec
        rw [here]
        rfl

end Node

/-! ## All nodes -/

section Reports

variable {crates : XmlCrates} {peer tunnel : Option Text} {ikeNodes ipsecNodes : List ReNode}
  {reports : List NodeVpnReport}

theorem reports_ike (ok : ikeNodes.mapM (nodeReport crates peer tunnel ipsecNodes) = .ok reports) :
    heldUnder NodeVpnReport.reName NodeVpnReport.ikeSas reports =
      heldUnder ReNode.reName (shownIke crates peer) ikeNodes := by
  refine heldUnder_congr (mapM_ok_map ok fun node report read => ?_)
  obtain ⟨-, named, ike, -⟩ := nodeReport_ok read
  rw [named, ike]

theorem reports_ipsec (ok : ikeNodes.mapM (nodeReport crates peer tunnel ipsecNodes) = .ok reports)
    (name : Text) :
    heldUnder NodeVpnReport.reName NodeVpnReport.ipsecSas reports name =
      (List.replicate (ikeNodes.countP fun node => node.reName = name)
        (firstHeld ReNode.reName (shownIpsec crates peer tunnel) ipsecNodes name)).flatten := by
  rw [← heldUnder_join]
  refine congrFun (heldUnder_congr (mapM_ok_map ok fun node report read => ?_)) name
  obtain ⟨-, named, -, ipsec⟩ := nodeReport_ok read
  rw [named, ipsec]

theorem lossless_iff_joined
    (ok : ikeNodes.mapM (nodeReport crates peer tunnel ipsecNodes) = .ok reports) :
    Lossless crates peer tunnel ikeNodes ipsecNodes reports ↔
      Joined crates peer tunnel ikeNodes ipsecNodes := by
  have read : ∀ node ∈ ikeNodes, ∃ sas, parseIke crates node.innerXml = .ok sas := by
    intro node inside
    obtain ⟨report, reported⟩ := mapM_ok_of_mem ok inside
    exact (nodeReport_ok reported).1
  have part : ∀ node ∈ ikeNodes, (shownIke crates peer node).Sublist (writtenIke crates peer node) := by
    intro node inside
    obtain ⟨sas, parsed⟩ := read node inside
    rw [shownIke, writtenIke, parseIke_eq]
    rcases shown_eq parsed with ⟨-, none⟩ | ⟨-, all⟩
    · rw [none]
      exact List.nil_sublist _
    · rw [all]
  have unmasked : (∀ node ∈ ikeNodes, shownIke crates peer node = writtenIke crates peer node) ↔
      ∀ node ∈ ikeNodes, isNotConfiguredXml crates node.innerXml = .ok true →
        writtenIke crates peer node = [] := by
    refine forall₂_congr fun node inside => ?_
    obtain ⟨sas, parsed⟩ := read node inside
    rw [shownIke, writtenIke, parseIke_eq]
    rcases shown_eq parsed with ⟨masked, none⟩ | ⟨plain, all⟩
    · rw [none]
      exact ⟨fun same _ => same.symm, fun empty => (empty masked).symm⟩
    · exact ⟨fun _ masked => absurd (plain.symm.trans masked) (by simp), fun _ => all⟩
  constructor
  · intro lossless
    have ike := lossless.ike
    rw [reports_ike ok] at ike
    refine ⟨unmasked.mp ((heldUnder_perm_iff part).mp ike), ?_⟩
    exact fun name => reports_ipsec ok name ▸ lossless.ipsec name
  · intro joined
    refine ⟨?_, ?_⟩
    · rw [reports_ike ok]
      exact (heldUnder_perm_iff part).mpr (unmasked.mpr joined.unmasked)
    · exact fun name => (reports_ipsec ok name).symm ▸ joined.paired name

/-- Where the names of each reply are distinct and no second-phase node hides what it has behind an
error, the replies fit together when every node with a second-phase association is in the other. -/
theorem paired_iff_of_distinct (ikeDistinct : (ikeNodes.map ReNode.reName).Nodup)
    (ipsecDistinct : (ipsecNodes.map ReNode.reName).Nodup)
    (plain : shownIpsec crates peer tunnel = writtenIpsec crates peer tunnel) :
    (∀ name, ((List.replicate (ikeNodes.countP fun node => node.reName = name)
        (firstHeld ReNode.reName (shownIpsec crates peer tunnel) ipsecNodes name)).flatten).Perm
      (heldUnder ReNode.reName (writtenIpsec crates peer tunnel) ipsecNodes name)) ↔
      ∀ node ∈ ipsecNodes, writtenIpsec crates peer tunnel node ≠ [] →
        node.reName ∈ ikeNodes.map ReNode.reName :=
  plain ▸ join_perm_iff_of_distinct ipsecDistinct ikeDistinct

theorem parseCombined_ok {ikeXml ipsecXml : Text} {response : SrxToolResponse VpnLifecycleData}
    (ok : parseCombined crates peer tunnel ikeXml ipsecXml = .ok response) :
    (Unconfigured crates ikeXml ipsecXml ∧ reportsOf response = []) ∨
      (¬ Unconfigured crates ikeXml ipsecXml ∧
        (nodesOf crates ikeXml).mapM (nodeReport crates peer tunnel (nodesOf crates ipsecXml)) =
          .ok (reportsOf response)) := by
  obtain ⟨ikeNotConfigured, ikeAsked, ok⟩ := bind_eq_ok.mp ok
  obtain ⟨ipsecNotConfigured, ipsecAsked, ok⟩ := bind_eq_ok.mp ok
  rw [Unconfigured, ikeAsked, ipsecAsked]
  split at ok
  · rename_i both
    cases ok
    simp only [Bool.and_eq_true] at both
    obtain ⟨rfl, rfl⟩ := both
    exact .inl ⟨⟨rfl, rfl⟩, rfl⟩
  · rename_i some
    obtain ⟨ikeNodes, splitIke, ok⟩ := bind_eq_ok.mp ok
    obtain ⟨ipsecNodes, splitIpsec, ok⟩ := bind_eq_ok.mp ok
    obtain ⟨reports, read, ok⟩ := bind_eq_ok.mp ok
    cases ok
    refine .inr ⟨by simpa using some, ?_⟩
    rw [nodesOf, nodesOf, splitIke, splitIpsec]
    exact read

theorem parseCombined_lossless_iff {ikeXml ipsecXml : Text}
    {response : SrxToolResponse VpnLifecycleData}
    (ok : parseCombined crates peer tunnel ikeXml ipsecXml = .ok response) :
    Lossless crates peer tunnel (nodesOf crates ikeXml) (nodesOf crates ipsecXml)
        (reportsOf response) ↔ Kept crates peer tunnel ikeXml ipsecXml := by
  rcases parseCombined_ok ok with ⟨unconfigured, none⟩ | ⟨configured, read⟩
  · rw [none, Kept]
    simp only [unconfigured, not_true_eq_false, false_imp_iff, and_true, true_imp_iff]
    constructor
    · intro lossless
      have ike := fun name => (lossless.ike name).nil_eq.symm
      have ipsec := fun name => (lossless.ipsec name).nil_eq.symm
      exact ⟨heldUnder_eq_nil_iff.mp ike, heldUnder_eq_nil_iff.mp ipsec⟩
    · rintro ⟨ike, ipsec⟩
      refine ⟨fun name => ?_, fun name => ?_⟩
      · rw [heldUnder_nil, heldUnder_eq_nil_iff.mpr ike]
      · rw [heldUnder_nil, heldUnder_eq_nil_iff.mpr ipsec]
  · rw [lossless_iff_joined read, Kept]
    simp only [configured, not_false_eq_true, false_imp_iff, true_and, true_imp_iff]

end Reports

/-! ## The calls of a run -/

def vpnTrace (ikeXml ipsecXml : Text) : DeviceTrace :=
  [⟨.rpc, .ok ()⟩, ⟨.callXml ikeRequest, .ok ikeXml⟩, ⟨.call ipsecRpc [], .ok ipsecXml⟩]

section Run

variable {crates : XmlCrates} {args : VpnLifecycleArgs} {trace : DeviceTrace}
  {response : SrxToolResponse VpnLifecycleData}

theorem run_ok (returns : Returns (run crates args) trace (.ok response)) :
    ∃ ikeXml ipsecXml parsed, trace = vpnTrace ikeXml ipsecXml ∧
      parseCombined crates args.peer args.tunnel ikeXml ipsecXml = .ok parsed ∧
      reportsOf response = reportsOf parsed := by
  rw [run] at returns
  split at returns
  · obtain ⟨-, same⟩ := returns_pure.mp returns
    cases same
  obtain ⟨_, _, _, rfl, opened, returns⟩ := Returns.of_andThen returns
  obtain ⟨_, _, ikeXml, rfl, ike, returns⟩ := Returns.of_andThen returns
  obtain ⟨_, _, ipsecXml, rfl, ipsec, returns⟩ := Returns.of_andThen returns
  obtain ⟨rfl, same⟩ := returns_pure.mp returns
  obtain ⟨parsed, read, whole⟩ := map_eq_ok.mp same.symm
  obtain rfl := returns_openExecutor.mp opened
  obtain rfl := returns_callXml.mp ike
  obtain rfl := returns_callRpc.mp ipsec
  refine ⟨ikeXml, ipsecXml, parsed, rfl, read, ?_⟩
  rw [← whole]
  split <;> rfl

theorem returns_run (routed : (Text.trim args.router).isEmpty = false)
    (plain : args.includeRaw = false) {ikeXml ipsecXml : Text}
    (parsed : parseCombined crates args.peer args.tunnel ikeXml ipsecXml = .ok response) :
    Returns (run crates args) (vpnTrace ikeXml ipsecXml) (.ok response) := by
  rw [run, if_neg (by simp [routed])]
  refine returns_andThen_ok (returns_openExecutor.mpr rfl) ?_
  refine returns_andThen_ok (returns_callXml.mpr rfl) ?_
  refine returns_andThen_ok (returns_callRpc.mpr rfl) ?_
  rw [parsed, plain]
  exact .pure _

/-- A run loses no association exactly when every node with a second-phase one is, as the first of
its name, a node of the first-phase reply, and no node hides associations behind an error. -/
theorem run_lossless_iff (returns : Returns (run crates args) trace (.ok response)) :
    ∃ ikeXml ipsecXml, trace = vpnTrace ikeXml ipsecXml ∧
      (Lossless crates args.peer args.tunnel (nodesOf crates ikeXml) (nodesOf crates ipsecXml)
          (reportsOf response) ↔ Kept crates args.peer args.tunnel ikeXml ipsecXml) := by
  obtain ⟨ikeXml, ipsecXml, parsed, rfl, ok, same⟩ := run_ok returns
  exact ⟨ikeXml, ipsecXml, rfl, same ▸ parseCombined_lossless_iff ok⟩

end Run

/-! ### An association of the other node -/

def noIkeSas : XmlNode := .group "ike-security-associations-information" []

def tunnelSa : XmlNode :=
  .group "ipsec-security-associations-information"
    [.group "ipsec-security-associations-block" [.field "sa-block-state" "up",
      .group "ipsec-security-associations"
        [.field "sa-tunnel-index" "131073", .field "sa-remote-gateway" "192.0.2.161"]]]

def ikeReply : XmlDocument := clusterReplyOf [("node0", noIkeSas)]

def ipsecReply : XmlDocument := clusterReplyOf [("node1", tunnelSa)]

def tunnelCrates : XmlCrates := readerOfPrinted [ikeReply, ipsecReply, [noIkeSas], [tunnelSa]]

def tunnelNode : ReNode := ⟨"node1".toList, printed [tunnelSa]⟩

theorem tunnelCrates_parse :
    tunnelCrates.parse = parsePrinted [ikeReply, ipsecReply, [noIkeSas], [tunnelSa]] := rfl

theorem ikeReply_read : tunnelCrates.parse (printed ikeReply) = .ok ikeReply := by
  rw [tunnelCrates_parse, parsePrinted_here]

theorem ipsecReply_read : tunnelCrates.parse (printed ipsecReply) = .ok ipsecReply := by
  have later : printed ikeReply ≠ printed ipsecReply := by decide
  rw [tunnelCrates_parse, parsePrinted_later later, parsePrinted_here]

theorem noIkeSas_read : tunnelCrates.parse (printed [noIkeSas]) = .ok [noIkeSas] := by
  have ike : printed ikeReply ≠ printed [noIkeSas] := by decide
  have ipsec : printed ipsecReply ≠ printed [noIkeSas] := by decide
  rw [tunnelCrates_parse, parsePrinted_later ike, parsePrinted_later ipsec, parsePrinted_here]

theorem tunnelSa_read : tunnelCrates.parse (printed [tunnelSa]) = .ok [tunnelSa] := by
  have ike : printed ikeReply ≠ printed [tunnelSa] := by decide
  have ipsec : printed ipsecReply ≠ printed [tunnelSa] := by decide
  have none : printed [noIkeSas] ≠ printed [tunnelSa] := by decide
  rw [tunnelCrates_parse, parsePrinted_later ike, parsePrinted_later ipsec, parsePrinted_later none,
    parsePrinted_here]

theorem isNotConfiguredXml_read {crates : XmlCrates} {xml : Text} {document : XmlDocument}
    (trimmed : Text.trim xml = xml) (some : xml.isEmpty = false)
    (clean : sanitizeRustezXml xml = xml) (read : crates.parse xml = .ok document) :
    isNotConfiguredXml crates xml =
      .ok (hasTopError document && !document.descendants.any isSaInformation) := by
  rw [isNotConfiguredXml, trimmed, if_neg (by simp [some]), clean, readDocument, read]
  rfl

theorem ikeReply_clean : sanitizeRustezXml (printed ikeReply) = printed ikeReply :=
  sanitizeRustezXml_printed (by decide) (by decide)

theorem ipsecReply_clean : sanitizeRustezXml (printed ipsecReply) = printed ipsecReply :=
  sanitizeRustezXml_printed (by decide) (by decide)

theorem noIkeSas_clean : sanitizeRustezXml (printed [noIkeSas]) = printed [noIkeSas] :=
  sanitizeRustezXml_printed (by decide) (by decide)

theorem tunnelSa_clean : sanitizeRustezXml (printed [tunnelSa]) = printed [tunnelSa] :=
  sanitizeRustezXml_printed (by decide) (by decide)

theorem ikeReply_split : multiReSplit tunnelCrates (printed ikeReply) =
    .ok [⟨"node0".toList, printed [noIkeSas]⟩] :=
  multiReSplit_envelope ikeReply_clean ikeReply_read rfl

theorem ipsecReply_split : multiReSplit tunnelCrates (printed ipsecReply) = .ok [tunnelNode] :=
  multiReSplit_envelope ipsecReply_clean ipsecReply_read rfl

theorem noIkeSas_parsed : parseIke tunnelCrates (printed [noIkeSas]) = .ok [] := by
  rw [parseIke, parseSas, isNotConfiguredXml_read (by exact printed_trim ..) (by decide)
    noIkeSas_clean noIkeSas_read, noIkeSas_clean, noIkeSas_read]
  rfl

theorem tunnel_parsed : parseCombined tunnelCrates none none (printed ikeReply)
    (printed ipsecReply) = .ok (.active ⟨[⟨"node0".toList, [], [], []⟩]⟩) := by
  have ikeConfigured := isNotConfiguredXml_read (by exact printed_trim ..) (by decide)
    ikeReply_clean ikeReply_read
  have ipsecConfigured := isNotConfiguredXml_read (by exact printed_trim ..) (by decide)
    ipsecReply_clean ipsecReply_read
  have report : nodeReport tunnelCrates none none [tunnelNode]
      ⟨"node0".toList, printed [noIkeSas]⟩ = .ok ⟨"node0".toList, [], [], []⟩ := by
    rw [nodeReport, noIkeSas_parsed]
    rfl
  dsimp only [parseCombined]
  rw [ikeReply_clean, ipsecReply_clean, ikeConfigured, ipsecConfigured, ikeReply_split,
    ipsecReply_split]
  dsimp only [bind, Except.bind]
  rw [List.mapM_cons, report]
  rfl

theorem tunnel_written : writtenIpsec tunnelCrates none none tunnelNode ≠ [] := by
  rw [writtenIpsec, written, tunnelNode, tunnelSa_clean, tunnelSa_read]
  decide

theorem tunnelArgs_routed : (Text.trim "fw".toList).isEmpty = false := by decide

/-- The tunnel of the second node is in no report. -/
theorem tunnel_lost :
    ∃ crates args ikeXml ipsecXml response,
      Returns (run crates args) (vpnTrace ikeXml ipsecXml) (.ok response) ∧
      ¬ Lossless crates args.peer args.tunnel (nodesOf crates ikeXml) (nodesOf crates ipsecXml)
        (reportsOf response) := by
  refine ⟨tunnelCrates, ⟨"fw".toList, none, none, false⟩, printed ikeReply, printed ipsecReply, _,
    returns_run tunnelArgs_routed rfl tunnel_parsed, ?_⟩
  intro lossless
  have nodes : nodesOf tunnelCrates (printed ipsecReply) = [tunnelNode] := by
    rw [nodesOf, ipsecReply_clean, ipsecReply_split]
    rfl
  have empty := (lossless.ipsec "node1".toList).nil_eq
  have named : tunnelNode.reName = "node1".toList := rfl
  rw [nodes, heldUnder_cons, if_pos named, heldUnder_nil, List.append_nil] at empty
  exact tunnel_written empty.symm

theorem tunnel_lossless_iff :
    ∃ ikeXml ipsecXml, vpnTrace (printed ikeReply) (printed ipsecReply) = vpnTrace ikeXml ipsecXml ∧
      (Lossless tunnelCrates none none (nodesOf tunnelCrates ikeXml) (nodesOf tunnelCrates ipsecXml)
          [⟨"node0".toList, [], [], []⟩] ↔ Kept tunnelCrates none none ikeXml ipsecXml) :=
  @run_lossless_iff _ ⟨"fw".toList, none, none, false⟩ _ _
    (returns_run tunnelArgs_routed rfl tunnel_parsed)

end JunosMcp.Srx.VpnLifecycle
