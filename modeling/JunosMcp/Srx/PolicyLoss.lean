import JunosMcp.Lib.Results
import JunosMcp.Srx.PolicyList

/-!
# What a policy list leaves out

A policy is listed whole when each of its fields is read and each child of its lists has an entry.
The list is whole when every policy of every node is listed so.
-/

namespace JunosMcp.Srx.PolicyList

open Lib

/-! ## The lists of a policy -/

/-- What a list of a policy holds, in all containers of its name. -/
def entriesIn (container : String) (pi : XmlNode) : List XmlNode :=
  (pi.childrenNamed container).flatMap XmlNode.elements

/-- One name for each child. -/
def Lists (container nameTag : String) (pi : XmlNode) (names : List Text) : Prop :=
  List.Forall₂ (fun child name => child.childText nameTag = some name) (entriesIn container pi) names

/-- The children are items with a name each, all of them in the first container. -/
def Itemised (container itemTag nameTag : String) (pi : XmlNode) : Prop :=
  (∀ child ∈ entriesIn container pi, child.named itemTag.toList ∧
      ∃ name, child.childText nameTag = some name) ∧
    ∀ other ∈ (pi.childrenNamed container).tail, other.elements = []

def entryName (itemTag nameTag : String) (child : XmlNode) : Option Text :=
  if child.named itemTag.toList then child.childText nameTag else none

theorem named_isElement {name : Text} {node : XmlNode} (named : node.named name) :
    node.isElement := by
  cases node with
  | element => rfl
  | text => cases named
  | comment => cases named

theorem parseNameList_eq (itemTag nameTag : String) (container : XmlNode) :
    parseNameList itemTag nameTag container =
      container.elements.filterMap (entryName itemTag nameTag) := by
  rw [parseNameList, XmlNode.childrenNamed, XmlNode.elements, List.filterMap_filter,
    List.filterMap_filter]
  apply List.filterMap_congr
  intro child _
  by_cases named : child.named itemTag.toList
  · simp [entryName, named, named_isElement named]
  · simp [entryName, named]

theorem forall₂_filterMap {α β : Type} {pick read : α → Option β} {xs others : List α}
    (reads : ∀ x y, pick x = some y → read x = some y) :
    List.Forall₂ (fun x y => read x = some y) (xs ++ others) (xs.filterMap pick) ↔
      (∀ x ∈ xs, (pick x).isSome) ∧ others = [] := by
  constructor
  · intro all
    have lengths := all.length_eq
    have shorter := List.length_filterMap_le pick xs
    rw [List.length_append] at lengths
    refine ⟨List.filterMap_length_eq_length.mp (by omega), List.length_eq_zero_iff.mp (by omega)⟩
  · rintro ⟨picked, rfl⟩
    rw [List.append_nil]
    induction xs with
    | nil => exact .nil
    | cons x rest ih =>
        obtain ⟨here, later⟩ := List.forall_mem_cons.mp picked
        obtain ⟨y, chosen⟩ := Option.isSome_iff_exists.mp here
        rw [List.filterMap_cons_some chosen]
        exact .cons (reads x y chosen) (ih later)

theorem entryName_isSome {itemTag nameTag : String} {child : XmlNode} :
    (entryName itemTag nameTag child).isSome ↔
      child.named itemTag.toList ∧ ∃ name, child.childText nameTag = some name := by
  rw [entryName]
  by_cases named : child.named itemTag.toList
  · simp only [named, if_true, true_and, Option.isSome_iff_exists]
  · simp [named]

/-- The names read from the first container are one for each child exactly when all are items with
a name and no other container has any. -/
theorem lists_iff {container itemTag nameTag : String} {pi : XmlNode} :
    Lists container nameTag pi (namesIn container itemTag nameTag pi) ↔
      Itemised container itemTag nameTag pi := by
  rw [Lists, Itemised, namesIn, XmlNode.firstChild_eq_head?, entriesIn]
  cases pi.childrenNamed container with
  | nil => simp
  | cons first others =>
      have reads : ∀ child name, entryName itemTag nameTag child = some name →
          child.childText nameTag = some name := by
        intro child name chosen
        rw [entryName] at chosen
        split at chosen
        · exact chosen
        · cases chosen
      have exact := @forall₂_filterMap _ _ _ _ first.elements (others.flatMap XmlNode.elements) reads
      rw [List.flatMap_cons, List.head?_cons, Option.map_some, Option.getD_some,
        parseNameList_eq, exact, List.flatMap_eq_nil_iff, List.tail_cons]
      simp only [entryName_isSome]
      constructor
      · rintro ⟨items, empty⟩
        refine ⟨?_, empty⟩
        intro child inside
        rw [List.flatMap_eq_nil_iff.mpr empty, List.append_nil] at inside
        exact items child inside
      · rintro ⟨items, empty⟩
        exact ⟨fun child inside => items child (List.mem_append_left _ inside), empty⟩

/-! ## The policies of a reply -/

/-- The policies a context is written with. -/
def writtenIn (context : XmlNode) : List PolicyInformation :=
  (context.childrenNamed "policies").flatMap (policiesIn context)

section Reply

variable (crates : XmlCrates)

/-- The document of a node, whether or not it reports an error. -/
def nodeDocument (xml : Text) : Option XmlDocument := (crates.parse xml).toOption

def reportedDocument (xml : Text) : Option XmlDocument :=
  (configuredDocument crates xml).toOption.join

def policiesOf (inContext : XmlNode → List PolicyInformation) (document : Option XmlDocument) :
    List PolicyInformation :=
  (document.map fun d => (contexts d).flatMap inContext).getD []

def nodesOf (replyXml : Text) : List ReNode := (multiReSplit crates replyXml).toOption.getD []

/-- Every policy of every node. -/
def writtenPolicies (replyXml : Text) : List PolicyInformation :=
  (nodesOf crates replyXml).flatMap fun node =>
    policiesOf writtenIn (nodeDocument crates node.innerXml)

/-- The policies of the nodes that report a configuration, from the first container of a context. -/
def visitedPolicies (replyXml : Text) : List PolicyInformation :=
  (nodesOf crates replyXml).flatMap fun node =>
    policiesOf contextPolicies (reportedDocument crates node.innerXml)

end Reply

/-- A policy of the list that has everything the reply says of a policy. -/
structure Represents (policy : SecurityPolicy) (written : PolicyInformation) : Prop where
  fields : parsePolicyInformation written = .ok policy
  sources : Lists "source-addresses" "address-name" written.info policy.sourceAddresses
  destinations :
    Lists "destination-addresses" "address-name" written.info policy.destinationAddresses
  applications : Lists "applications" "application-name" written.info policy.applications

/-- Nothing in the list is cut short, and no policy is missing. -/
structure Lossless (written : List PolicyInformation) (listed : List SecurityPolicy) : Prop where
  whole : ∀ policy ∈ listed, ∃ w ∈ written, Represents policy w
  complete : ∀ w ∈ written, ∃ policy ∈ listed, Represents policy w

structure Whole (policy : PolicyInformation) : Prop where
  sources : Itemised "source-addresses" "source-address" "address-name" policy.info
  destinations : Itemised "destination-addresses" "destination-address" "address-name" policy.info
  applications : Itemised "applications" "application" "application-name" policy.info

/-- The same zones and the same name. -/
def SameKey (a b : PolicyInformation) : Prop :=
  a.fromZone = b.fromZone ∧ a.toZone = b.toZone ∧
    a.info.childText "policy-name" = b.info.childText "policy-name"

/-- Replies whose policies the loop can tell apart by their zones and names. -/
structure Plain (written visited : List PolicyInformation) : Prop where
  whole : ∀ w ∈ written, Whole w
  visits : ∀ w ∈ written, ∃ v ∈ visited, SameKey v w
  agree : ∀ v ∈ visited, ∀ w ∈ written, SameKey v w →
    parsePolicyInformation v = parsePolicyInformation w

/-! ### One policy -/

theorem parsePolicyInformation_ok {written : PolicyInformation} {policy : SecurityPolicy}
    (ok : parsePolicyInformation written = .ok policy) :
    policy.fromZone = written.fromZone ∧ policy.toZone = written.toZone ∧
      written.info.childText "policy-name" = some policy.name ∧
      policy.sourceAddresses =
        namesIn "source-addresses" "source-address" "address-name" written.info ∧
      policy.destinationAddresses =
        namesIn "destination-addresses" "destination-address" "address-name" written.info ∧
      policy.applications =
        namesIn "applications" "application" "application-name" written.info := by
  obtain ⟨-, -, ok⟩ := bind_eq_ok.mp ok
  obtain ⟨name, named, ok⟩ := bind_eq_ok.mp ok
  obtain ⟨state, -, ok⟩ := bind_eq_ok.mp ok
  obtain ⟨actionNode, -, ok⟩ := bind_eq_ok.mp ok
  obtain ⟨action, -, ok⟩ := bind_eq_ok.mp ok
  cases ok
  refine ⟨rfl, rfl, ?_, rfl, rfl, rfl⟩
  cases found : written.info.childText "policy-name" with
  | none =>
      rw [found] at named
      cases named
  | some text =>
      rw [found] at named
      cases named
      rfl

theorem represents_iff {written : PolicyInformation} {policy : SecurityPolicy} :
    Represents policy written ↔ parsePolicyInformation written = .ok policy ∧ Whole written := by
  constructor
  · intro represents
    obtain ⟨-, -, -, sources, destinations, applications⟩ :=
      parsePolicyInformation_ok represents.fields
    refine ⟨represents.fields, ⟨lists_iff.mp ?_, lists_iff.mp ?_, lists_iff.mp ?_⟩⟩
    · exact sources ▸ represents.sources
    · exact destinations ▸ represents.destinations
    · exact applications ▸ represents.applications
  · rintro ⟨fields, whole⟩
    obtain ⟨-, -, -, sources, destinations, applications⟩ := parsePolicyInformation_ok fields
    refine ⟨fields, ?_, ?_, ?_⟩
    · exact sources ▸ lists_iff.mpr whole.sources
    · exact destinations ▸ lists_iff.mpr whole.destinations
    · exact applications ▸ lists_iff.mpr whole.applications

theorem sameKey_iff {a b : PolicyInformation} {p q : SecurityPolicy}
    (readA : parsePolicyInformation a = .ok p) (readB : parsePolicyInformation b = .ok q) :
    SameKey a b ↔ p.key = q.key := by
  obtain ⟨fromA, toA, nameA, -⟩ := parsePolicyInformation_ok readA
  obtain ⟨fromB, toB, nameB, -⟩ := parsePolicyInformation_ok readB
  rw [SameKey, nameA, nameB, ← fromA, ← toA, ← fromB, ← toB]
  simp [SecurityPolicy.key]

/-! ### The loop -/

theorem lossless_iff {written visited : List PolicyInformation} {policies : List SecurityPolicy}
    (within : visited ⊆ written)
    (read : List.Forall₂ (fun w p => parsePolicyInformation w = .ok p) visited policies) :
    Lossless written (firstOccurrences SecurityPolicy.key policies) ↔ Plain written visited := by
  have subset := (firstOccurrences_sublist SecurityPolicy.key policies).subset
  constructor
  · rintro ⟨-, complete⟩
    refine ⟨?_, ?_, ?_⟩
    · intro w inside
      obtain ⟨policy, -, represents⟩ := complete w inside
      exact (represents_iff.mp represents).2
    · intro w inside
      obtain ⟨policy, listed, represents⟩ := complete w inside
      obtain ⟨v, visits, same⟩ := forall₂_mem_right read (subset listed)
      exact ⟨v, visits, (sameKey_iff same represents.fields).mpr rfl⟩
    · intro v visits w inside same
      obtain ⟨p, listedP, representsP⟩ := complete v (within visits)
      obtain ⟨q, listedQ, representsQ⟩ := complete w inside
      have sameKey := (sameKey_iff representsP.fields representsQ.fields).mp same
      have samePolicy := firstOccurrences_unique SecurityPolicy.key listedP listedQ sameKey
      rw [representsP.fields, representsQ.fields, samePolicy]
  · intro plain
    refine ⟨?_, ?_⟩
    · intro policy listed
      obtain ⟨v, visits, fields⟩ := forall₂_mem_right read (subset listed)
      exact ⟨v, within visits, represents_iff.mpr ⟨fields, plain.whole v (within visits)⟩⟩
    · intro w inside
      obtain ⟨v, visits, same⟩ := plain.visits w inside
      obtain ⟨p, inP, readV⟩ := forall₂_mem_left read visits
      obtain ⟨first, listed, sameFirst⟩ := exists_firstOccurrence SecurityPolicy.key inP
      obtain ⟨v', visits', readFirst⟩ := forall₂_mem_right read (subset listed)
      have readW : parsePolicyInformation w = .ok p := (plain.agree v visits w inside same) ▸ readV
      have sameFirst' := (sameKey_iff readFirst readW).mpr sameFirst
      have readW' := plain.agree v' visits' w inside sameFirst'
      exact ⟨first, listed, represents_iff.mpr ⟨readW'.symm.trans readFirst, plain.whole w inside⟩⟩

section Parse

variable {crates : XmlCrates} {replyXml : Text}

theorem addAll_ok {visited : List PolicyInformation} {listed listed' : Listed}
    (ok : visited.foldlM addPolicy listed = .ok listed') :
    ∃ policies, List.Forall₂ (fun w p => parsePolicyInformation w = .ok p) visited policies ∧
      listed' = policies.foldl (FirstSeen.insert SecurityPolicy.key) listed := by
  have reads := @foldlM_reads _ _ _ _ _ addPolicy (fun w => [w])
    (fun w p => parsePolicyInformation w = .ok p) (FirstSeen.insert SecurityPolicy.key) ?_ _ _ _ ok
  · rwa [List.flatMap_singleton'] at reads
  · intro w listed listed' added
    obtain ⟨policy, read, kept⟩ := bind_eq_ok.mp added
    cases kept
    exact ⟨[policy], .cons read .nil, rfl⟩

theorem parseNode_ok {node : ReNode} {listed listed' : Listed}
    (ok : parseNode crates listed node = .ok listed') :
    ∃ policies, List.Forall₂ (fun w p => parsePolicyInformation w = .ok p)
        (policiesOf contextPolicies (reportedDocument crates node.innerXml)) policies ∧
      listed' = policies.foldl (FirstSeen.insert SecurityPolicy.key) listed := by
  obtain ⟨document, read, ok⟩ := bind_eq_ok.mp ok
  rw [reportedDocument, read]
  cases document with
  | none =>
      cases ok
      exact ⟨[], .nil, rfl⟩
  | some document => exact foldlM_reads (fun context listed listed' added => addAll_ok added) ok

/-- The list keeps the first policy of each key among those the loop visits. -/
theorem allPolicies_ok {listed : List SecurityPolicy} (ok : allPolicies crates replyXml = .ok listed) :
    ∃ policies,
      List.Forall₂ (fun w p => parsePolicyInformation w = .ok p)
        (visitedPolicies crates replyXml) policies ∧
      listed = firstOccurrences SecurityPolicy.key policies := by
  obtain ⟨nodes, split, ok⟩ := bind_eq_ok.mp ok
  obtain ⟨kept, looped, ok⟩ := bind_eq_ok.mp ok
  cases ok
  obtain ⟨policies, read, rfl⟩ :=
    @foldlM_reads _ _ _ _ _ (parseNode crates) _ _ _ (fun node listed listed' => parseNode_ok)
      _ _ _ looped
  refine ⟨policies, ?_, insert_all_none SecurityPolicy.key policies⟩
  rw [visitedPolicies, nodesOf, split]
  exact read

theorem contextPolicies_subset (context : XmlNode) : contextPolicies context ⊆ writtenIn context := by
  rw [contextPolicies, writtenIn, XmlNode.firstChild_eq_head?]
  cases context.childrenNamed "policies" with
  | nil => exact List.nil_subset _
  | cons first others => exact List.subset_append_left _ _

theorem nodeDocument_of_reported {xml : Text} {document : XmlDocument}
    (reported : reportedDocument crates xml = some document) :
    nodeDocument crates xml = some document := by
  have configured : configuredDocument crates xml = .ok (some document) := by
    rw [reportedDocument] at reported
    cases result : configuredDocument crates xml with
    | error error =>
        rw [result] at reported
        cases reported
    | ok value =>
        rw [result] at reported
        cases value with
        | none => cases reported
        | some d =>
            cases reported
            rfl
  rw [nodeDocument, (configuredDocument_eq.mp configured).1]
  rfl

theorem visitedPolicies_subset :
    visitedPolicies crates replyXml ⊆ writtenPolicies crates replyXml := by
  intro w inside
  obtain ⟨node, split, inside⟩ := List.mem_flatMap.mp inside
  refine List.mem_flatMap.mpr ⟨node, split, ?_⟩
  cases reported : reportedDocument crates node.innerXml with
  | none =>
      rw [reported] at inside
      cases inside
  | some document =>
      rw [reported] at inside
      rw [nodeDocument_of_reported reported]
      obtain ⟨context, found, inside⟩ := List.mem_flatMap.mp inside
      exact List.mem_flatMap.mpr ⟨context, found, contextPolicies_subset context inside⟩

/-! ## The answer -/

theorem page_policies {hitCounts : Option HitCounts} {offset limit : Nat}
    {policies : List SecurityPolicy} (few : policies.length < 2 ^ 32) :
    (page hitCounts offset limit policies).policies =
        ((joinHitCounts hitCounts policies).drop offset).take limit ∧
      (page hitCounts offset limit policies).totalCount = policies.length := by
  have same : (joinHitCounts hitCounts policies).length = policies.length := by
    cases hitCounts with
    | none => rfl
    | some counts => exact List.length_map _
  refine ⟨?_, ?_⟩
  · rw [page, same, Nat.mod_eq_of_lt few]
    apply List.ext_getElem?
    intro i
    simp only [List.getElem?_drop, List.getElem?_take]
    by_cases inPage : i < limit
    · by_cases inList : offset + i < policies.length
      · rw [if_pos inPage, if_pos (by omega), Nat.min_eq_left (by omega)]
      · rw [if_pos inPage, if_neg (by omega), List.getElem?_eq_none (by omega)]
    · rw [if_neg inPage, if_neg (by omega)]
  · rw [page, same]
    exact Nat.mod_eq_of_lt few

/-- The list of an answer is whole exactly when each child of a policy's lists is an item with a
name, each policy is where the loop looks, and policies of the same zones and name read the same. -/
theorem parse_lossless_iff {hitCounts : Option HitCounts} {offset limit : Nat}
    {response : SrxToolResponse PolicyListData}
    (ok : parse crates replyXml hitCounts offset limit = .ok response) :
    ∃ listed, allPolicies crates replyXml = .ok listed ∧
      response = .active (page hitCounts offset limit listed) ∧
      (Lossless (writtenPolicies crates replyXml) listed ↔
        Plain (writtenPolicies crates replyXml) (visitedPolicies crates replyXml)) := by
  obtain ⟨listed, all, ok⟩ := bind_eq_ok.mp ok
  cases ok
  obtain ⟨policies, read, rfl⟩ := allPolicies_ok all
  exact ⟨_, all, rfl, lossless_iff visitedPolicies_subset read⟩

end Parse

/-! ### A source address without a name -/

def namelessPolicy : XmlNode :=
  .group "policy-information" [
    .field "policy-name" "web",
    .field "policy-state" "enabled",
    .group "source-addresses"
      [.group "source-address" [.field "address-name" "lan"], .group "source-address" []],
    .group "policy-action" [.field "action-type" "permit"]]

def namelessDocument : XmlDocument :=
  [.group "security-policies-information"
    [.group "security-context" [.group "policies" [namelessPolicy]]]]

def namelessText : Text := printed namelessDocument

def namelessListed : List SecurityPolicy :=
  [⟨"any".toList, "any".toList, "web".toList, .enabled, 0, ["lan".toList], [], [], .permit, .none,
    none⟩]

theorem nameless_split :
    multiReSplit (readerOf namelessText namelessDocument) namelessText = .ok [⟨[], namelessText⟩] :=
  multiReSplit_standalone (sanitizeRustezXml_printed (by decide) (by decide))
    (readerOf_parse ..) rfl

theorem nameless_written :
    writtenPolicies (readerOf namelessText namelessDocument) namelessText =
      [⟨"any".toList, "any".toList, namelessPolicy⟩] := by
  rw [writtenPolicies, nodesOf, nameless_split]
  dsimp only [Except.toOption, Option.getD_some]
  rw [List.flatMap_singleton, nodeDocument, readerOf_parse]
  rfl

theorem nameless_listed :
    allPolicies (readerOf namelessText namelessDocument) namelessText = .ok namelessListed := by
  have configured : configuredDocument (readerOf namelessText namelessDocument) namelessText =
      .ok (some namelessDocument) :=
    configuredDocument_eq.mpr ⟨readerOf_parse .., rfl⟩
  refine bind_eq_ok.mpr ⟨_, nameless_split, bind_eq_ok.mpr ⟨⟨namelessListed.map SecurityPolicy.key, namelessListed⟩, ?_, rfl⟩⟩
  refine foldlM_cons_ok.mpr ⟨_, bind_eq_ok.mpr ⟨_, configured, ?_⟩, rfl⟩
  rfl

theorem nameless_parsed :
    parse (readerOf namelessText namelessDocument) namelessText none 0 500 =
      .ok (.active (page none 0 500 namelessListed)) :=
  bind_eq_ok.mpr ⟨namelessListed, nameless_listed, rfl⟩

theorem nameless_lossy :
    ¬ Lossless (writtenPolicies (readerOf namelessText namelessDocument) namelessText)
      namelessListed := by
  intro lossless
  rw [nameless_written] at lossless
  obtain ⟨policy, listed, represents⟩ := lossless.complete _ (List.mem_singleton_self _)
  cases List.mem_singleton.mp listed
  exact absurd represents.sources.length_eq (by decide)

/-- Two source addresses are written and one is listed. -/
theorem nameless_dropped :
    ∃ crates replyXml listed, parse crates replyXml none 0 500 = .ok (.active (page none 0 500 listed)) ∧
      allPolicies crates replyXml = .ok listed ∧ ¬ Lossless (writtenPolicies crates replyXml) listed :=
  ⟨_, _, _, nameless_parsed, nameless_listed, nameless_lossy⟩

theorem nameless_not_plain :
    ¬ Plain (writtenPolicies (readerOf namelessText namelessDocument) namelessText)
      (visitedPolicies (readerOf namelessText namelessDocument) namelessText) := by
  obtain ⟨listed, all, -, exact⟩ := parse_lossless_iff nameless_parsed
  cases all.symm.trans nameless_listed
  exact fun plain => nameless_lossy (exact.mpr plain)

end JunosMcp.Srx.PolicyList
