import JunosMcp.Srx.ResolveApplication

/-!
# Which definition an application name gets

All containers of applications are entered first, the group's among them, and the group's once more.
The cap is applied to the applications a set comes to, before their terms are listed.
-/

namespace JunosMcp.Srx.ResolveApplication

open Lib

/-! ## Definitions in layers -/

/-- What the children of the containers define, in order. -/
def definitionsIn (containers : List XmlNode) : List (Text × ApplicationNode) :=
  (containers.flatMap XmlNode.elements).filterMap fun child => (definitionOf child).toOption.join

/-- The containers of the configuration itself, outside any group. -/
def userContainers (document : XmlDocument) : List XmlNode :=
  ((document.allWithParent "applications".toList).filter fun pair =>
    pair.1.any (XmlNode.named "configuration".toList)).map Prod.snd

def userDefinitions (document : XmlDocument) : List (Text × ApplicationNode) :=
  definitionsIn (userContainers document)

def groupDefinitions (document : XmlDocument) : List (Text × ApplicationNode) :=
  definitionsIn (defaultContainers document)

def allDefinitions (document : XmlDocument) : List (Text × ApplicationNode) :=
  definitionsIn (document.all "applications".toList)

/-- A name gets the user's definition, else the group's, else the table's. -/
def Precedence (table : List JunosDefaultEntry) (document : XmlDocument) (map : ApplicationMap) :
    Prop :=
  ∀ name, FromFirst name (staticDefaults table name) (map name)
    [userDefinitions document, groupDefinitions document]

/-- The user defines nothing otherwise than the group, and no other container has the last word. -/
structure Unshadowed (document : XmlDocument) : Prop where
  overridden : ∀ name node, lastUnder name (groupDefinitions document) = some node →
    Defines (userDefinitions document) name → (name, node) ∈ userDefinitions document
  stray : ∀ name node, lastUnder name (groupDefinitions document) = none →
    lastUnder name (allDefinitions document) = some node → (name, node) ∈ userDefinitions document

section Map

variable {table : List JunosDefaultEntry} {document : XmlDocument} {map map' : ApplicationMap}

theorem collectApplicationsContainer_ok {container : XmlNode}
    (ok : collectApplicationsContainer map container = .ok map') :
    map' = (definitionsIn [container]).foldl define map := by
  rw [definitionsIn, List.flatMap_singleton, List.foldl_filterMap]
  refine foldlM_ok_foldl ?_ ok
  intro before child after ok
  obtain ⟨found, read, ok⟩ := bind_eq_ok.mp ok
  rw [read]
  cases found with
  | none =>
      cases ok
      rfl
  | some definition =>
      cases ok
      rfl

theorem collectContainers_ok {containers : List XmlNode}
    (ok : containers.foldlM collectApplicationsContainer map = .ok map') :
    map' = (definitionsIn containers).foldl define map := by
  have whole := foldlM_ok_foldl (fun _ _ _ => collectApplicationsContainer_ok) ok
  rw [whole, definitionsIn, List.filterMap_flatMap, List.foldl_flatMap]
  simp only [definitionsIn, List.flatMap_singleton]

theorem applicationMap_ok (ok : applicationMap table document = .ok map) (name : Text) :
    map name = ((lastUnder name (groupDefinitions document)).or
      (lastUnder name (allDefinitions document))).or (staticDefaults table name) := by
  obtain ⟨collected, read, same⟩ := bind_eq_ok.mp ok
  cases same
  obtain ⟨first, all, group⟩ := bind_eq_ok.mp read
  dsimp only
  rw [collectContainers_ok group, foldl_define, collectContainers_ok all, foldl_define,
    Option.or_none]
  rfl

theorem definitionOf_device {child : XmlNode} {name : Text} {node : ApplicationNode}
    (defined : definitionOf child = .ok (some (name, node))) (application : ResolvedApplication) :
    node ≠ .leaf (.static application) := by
  rw [definitionOf] at defined
  split at defined
  · obtain ⟨_, -, same⟩ := bind_eq_ok.mp defined
    cases same
    nofun
  · split at defined
    · obtain ⟨_, -, same⟩ := bind_eq_ok.mp defined
      cases same
      nofun
    · cases defined

theorem definitionsIn_device {containers : List XmlNode} {name : Text} {node : ApplicationNode}
    (inside : (name, node) ∈ definitionsIn containers) (application : ResolvedApplication) :
    node ≠ .leaf (.static application) := by
  obtain ⟨child, -, found⟩ := List.mem_filterMap.mp inside
  cases read : definitionOf child with
  | error error =>
      rw [read] at found
      cases found
  | ok definition =>
      rw [read] at found
      have same : definition = some (name, node) := found
      exact definitionOf_device (same ▸ read) application

/-- The table has built-in applications only. -/
theorem staticDefaults_static {name : Text} {node : ApplicationNode}
    (found : staticDefaults table name = some node) :
    ∃ entry ∈ table, node = .leaf (.static entry.application) := by
  rw [staticDefaults, foldl_define, Option.or_none] at found
  obtain ⟨entry, listed, same⟩ := List.mem_map.mp (lastUnder_mem found)
  cases same
  exact ⟨entry, listed, rfl⟩

theorem userDefinitions_subset : userDefinitions document ⊆ allDefinitions document := by
  have containers : userContainers document ⊆ document.all "applications".toList := by
    intro container inside
    obtain ⟨pair, kept, rfl⟩ := List.mem_map.mp inside
    rw [XmlDocument.all, ← XmlDocument.allWithParent_nodes]
    exact List.mem_map_of_mem (List.mem_filter.mp kept).1
  intro definition inside
  obtain ⟨child, found, defined⟩ := List.mem_filterMap.mp inside
  obtain ⟨container, written, child_mem⟩ := List.mem_flatMap.mp found
  exact List.mem_filterMap.mpr ⟨child, List.mem_flatMap.mpr ⟨container, containers written, child_mem⟩,
    defined⟩

theorem precedence_iff (ok : applicationMap table document = .ok map) :
    Precedence table document map ↔ Unshadowed document := by
  have each : ∀ name, FromFirst name (staticDefaults table name) (map name)
      [userDefinitions document, groupDefinitions document] ↔
      ∀ node, (lastUnder name (groupDefinitions document)).or
          (lastUnder name (allDefinitions document)) = some node →
        (name, node) ∈ userDefinitions document ∨
          (¬ Defines (userDefinitions document) name ∧ (name, node) ∈ groupDefinitions document) := by
    intro name
    rw [applicationMap_ok ok]
    cases last : (lastUnder name (groupDefinitions document)).or
        (lastUnder name (allDefinitions document)) with
    | none =>
        obtain ⟨groupNone, allNone⟩ := Option.or_eq_none_iff.mp last
        have absent : ∀ layer ∈ [userDefinitions document, groupDefinitions document],
            ¬ Defines layer name := by
          refine List.forall_mem_cons.mpr ⟨?_, List.forall_mem_singleton.mpr ?_⟩
          · rintro ⟨node, inside⟩
            obtain ⟨_, found⟩ := lastUnder_isSome ⟨node, userDefinitions_subset inside⟩
            cases allNone.symm.trans found
          · intro defined
            obtain ⟨_, found⟩ := lastUnder_isSome defined
            cases groupNone.symm.trans found
        rw [Option.none_or]
        exact ⟨fun _ _ => nofun, fun _ => fromFirst_fallback absent⟩
    | some node =>
        have other : staticDefaults table name ≠ some node := by
          intro same
          obtain ⟨entry, -, rfl⟩ := staticDefaults_static same
          rcases Option.or_eq_some_iff.mp last with found | ⟨-, found⟩
          · exact definitionsIn_device (lastUnder_mem found) _ rfl
          · exact definitionsIn_device (lastUnder_mem found) _ rfl
        rw [Option.some_or, fromFirst_some_iff other]
        exact ⟨fun one _ same => Option.some.inj same ▸ one, fun every => every node rfl⟩
  constructor
  · intro precedence
    refine ⟨fun name node last defined => ?_, fun name node none last => ?_⟩
    · rcases (each name).mp (precedence name) node (by rw [last, Option.some_or]) with
        inside | ⟨absent, -⟩
      · exact inside
      · exact absurd defined absent
    · rcases (each name).mp (precedence name) node (by rw [none, Option.none_or, last]) with
        inside | ⟨-, grouped⟩
      · exact inside
      · obtain ⟨_, found⟩ := lastUnder_isSome ⟨node, grouped⟩
        cases none.symm.trans found
  · intro unshadowed name
    refine (each name).mpr fun node found => ?_
    rcases Option.or_eq_some_iff.mp found with last | ⟨none, last⟩
    · by_cases defined : Defines (userDefinitions document) name
      · exact .inl (unshadowed.overridden name node last defined)
      · exact .inr ⟨defined, lastUnder_mem last⟩
    · exact .inl (unshadowed.stray name node none last)

end Map

/-! ## The cap -/

/-- How many members an application comes to: one for each term. -/
def memberCount : ApplicationLeaf → Nat
  | .static _ => 1
  | .device appNode => max 1 (appNode.childrenNamed "term").length

def memberTotal (leaves : List (Text × ApplicationLeaf)) : Nat :=
  (leaves.map fun leaf => memberCount leaf.2).sum

/-- The members are no more than the cap, and are said to be cut exactly when some are missing. -/
structure Capped (map : ApplicationMap) (resolution : ApplicationResolution) : Prop where
  atMost : resolution.members.length ≤ defaultApplicationMemberCap
  truncated_iff : ∀ unfolding, map.Unfolds resolution.requested unfolding →
    (resolution.truncated = true ↔
      resolution.members.length < memberTotal (firstOccurrences Prod.fst unfolding))

/-- The first applications, as many as the cap allows, have no more terms than that. -/
def Fits (map : ApplicationMap) (name : Text) : Prop :=
  ∀ unfolding, map.Unfolds name unfolding →
    memberTotal ((firstOccurrences Prod.fst unfolding).take defaultApplicationMemberCap) ≤
      defaultApplicationMemberCap

section Members

variable {leaf : ApplicationLeaf} {leaves : List (Text × ApplicationLeaf)} {router name : Text}
  {map : ApplicationMap} {resolution : ApplicationResolution}

theorem memberCount_pos (leaf : ApplicationLeaf) : 0 < memberCount leaf := by
  cases leaf with
  | static application => exact Nat.one_pos
  | device appNode => exact Nat.lt_of_lt_of_le Nat.one_pos (Nat.le_max_left 1 _)

theorem expand_length {members : List ResolvedApplication} (ok : expand leaf = .ok members) :
    members.length = memberCount leaf := by
  cases leaf with
  | static application =>
      cases ok
      rfl
  | device appNode =>
      obtain ⟨name, -, ok⟩ := bind_eq_ok.mp ok
      rw [memberCount]
      dsimp only at ok
      split at ok
      · rename_i none
        obtain ⟨fields, -, ok⟩ := bind_eq_ok.mp ok
        cases ok
        rw [List.isEmpty_iff.mp none]
        rfl
      · rename_i some
        obtain ⟨_, -, ok⟩ := bind_eq_ok.mp ok
        have lengths := (mapM_ok_forall₂ ok).length_eq
        have pos := List.length_pos_iff.mpr fun none => some (List.isEmpty_iff.mpr none)
        omega

theorem expandAll_length {members : List (List ResolvedApplication)}
    (ok : leaves.mapM (fun leaf => expand leaf.2) = .ok members) :
    members.flatten.length = memberTotal leaves := by
  have lengths : members.map List.length = leaves.map fun leaf => memberCount leaf.2 :=
    mapM_ok_map ok fun _ _ => expand_length
  rw [List.length_flatten, lengths, memberTotal]

/-- Of applications with members, some are missing exactly when there are more than the cap. -/
theorem memberTotal_take_lt {cap : Nat} :
    memberTotal (leaves.take cap) < memberTotal leaves ↔ cap < leaves.length := by
  have whole : memberTotal leaves = memberTotal (leaves.take cap) + memberTotal (leaves.drop cap) := by
    rw [memberTotal, memberTotal, memberTotal, ← List.sum_append, ← List.map_append,
      List.take_append_drop]
  cases rest : leaves.drop cap with
  | nil =>
      have short := List.drop_eq_nil_iff.mp rest
      rw [whole, rest]
      simp only [memberTotal, List.map_nil, List.sum_nil]
      omega
  | cons first others =>
      have long : cap < leaves.length := by
        by_contra short
        rw [List.drop_eq_nil_of_le (Nat.le_of_not_lt short)] at rest
        cases rest
      have pos := memberCount_pos first.2
      rw [whole, rest, memberTotal, memberTotal, List.map_cons, List.sum_cons]
      omega

theorem resolveIn_ok (ok : resolveIn router name map = .ok resolution) :
    ∃ leaves, resolve router map "applications".toList name defaultApplicationMemberCap =
        .ok (leaves, resolution.truncated) ∧
      resolution.requested = name ∧ resolution.members.length = memberTotal leaves := by
  rw [resolveIn] at ok
  cases found : map name with
  | none =>
      rw [found] at ok
      cases ok
  | some node =>
      rw [found] at ok
      obtain ⟨⟨leaves, truncated⟩, resolved, ok⟩ := bind_eq_ok.mp ok
      obtain ⟨members, expanded, ok⟩ := bind_eq_ok.mp ok
      cases ok
      exact ⟨leaves, resolved, rfl, expandAll_length expanded⟩

theorem capped_iff (ok : resolveIn router name map = .ok resolution) :
    Capped map resolution ↔ Fits map name := by
  obtain ⟨leaves, resolved, rfl, members⟩ := resolveIn_ok ok
  obtain ⟨⟨unfolding, unfolds⟩, exact_⟩ := (resolve_exact router map "applications".toList
    resolution.requested defaultApplicationMemberCap).2 leaves resolution.truncated resolved
  obtain ⟨-, -, taken, truncated⟩ := exact_ unfolding unfolds
  constructor
  · rintro ⟨atMost, -⟩ other unfoldsOther
    cases unfolds.unique unfoldsOther
    rw [← taken, ← members]
    exact atMost
  · intro fits
    refine ⟨?_, fun other unfoldsOther => ?_⟩
    · rw [members, taken]
      exact fits unfolding unfolds
    · cases unfolds.unique unfoldsOther
      rw [truncated, members, taken, memberTotal_take_lt]

end Members

/-! ## A run -/

def applicationsTrace (reply : Text) : DeviceTrace :=
  [⟨.rpc, .ok ()⟩, ⟨.callXml (getConfigurationEnvelope filter), .ok reply⟩]

section Run

variable {table : List JunosDefaultEntry} {crates : XmlCrates} {args : ApplicationResolveArgs}
  {trace : DeviceTrace} {response : SrxToolResponse ApplicationResolution}

theorem parse_ok {router name replyXml : Text} {resolution : ApplicationResolution}
    (ok : parse crates table router name replyXml = .ok response)
    (active : response.data = some resolution) :
    ∃ document map, usableDocument crates replyXml = some document ∧
      applicationMap table document = .ok map ∧ resolveIn router name map = .ok resolution := by
  obtain ⟨nodes, split, ok⟩ := bind_eq_ok.mp ok
  obtain ⟨found, usable, ok⟩ := bind_eq_ok.mp ok
  rw [usableDocument_eq split usable]
  cases found with
  | none =>
      cases ok
      cases active
  | some node =>
      obtain ⟨document, read, ok⟩ := bind_eq_ok.mp ok
      obtain ⟨map, defined, ok⟩ := bind_eq_ok.mp ok
      obtain ⟨resolution', resolved, ok⟩ := bind_eq_ok.mp ok
      cases ok
      cases active
      refine ⟨document, map, ?_, defined, resolved⟩
      rw [Option.bind_some, readDocument_ok read]
      rfl

theorem runWith_ok (returns : Returns (runWith table crates args) trace (.ok response)) :
    ∃ reply parsed, trace = applicationsTrace reply ∧
      parse crates table args.router args.name reply = .ok parsed ∧ response.data = parsed.data := by
  rw [runWith] at returns
  split at returns
  · obtain ⟨-, same⟩ := returns_pure.mp returns
    cases same
  split at returns
  · obtain ⟨-, same⟩ := returns_pure.mp returns
    cases same
  obtain ⟨_, _, _, rfl, opened, returns⟩ := Returns.of_andThen returns
  obtain ⟨_, _, reply, rfl, fetched, returns⟩ := Returns.of_andThen returns
  obtain ⟨rfl, same⟩ := returns_pure.mp returns
  obtain ⟨parsed, read, whole⟩ := map_eq_ok.mp same.symm
  obtain rfl := returns_openExecutor.mp opened
  obtain rfl := returns_callXml.mp fetched
  refine ⟨reply, parsed, rfl, read, ?_⟩
  rw [← whole]
  split <;> rfl

/-- A run uses the definitions in their order and keeps to the cap exactly when the group does not
define what the user does and the terms of the first applications are no more than the cap. -/
theorem runWith_precedence_iff (returns : Returns (runWith table crates args) trace (.ok response)) :
    ∃ reply, trace = applicationsTrace reply ∧ ∀ resolution, response.data = some resolution →
      ∃ document map, usableDocument crates reply = some document ∧
        applicationMap table document = .ok map ∧
        (Precedence table document map ∧ Capped map resolution ↔
          Unshadowed document ∧ Fits map args.name) := by
  obtain ⟨reply, parsed, rfl, ok, same⟩ := runWith_ok returns
  refine ⟨reply, rfl, fun resolution active => ?_⟩
  obtain ⟨document, map, usable, defined, resolved⟩ := parse_ok ok (same ▸ active)
  exact ⟨document, map, usable, defined, and_congr (precedence_iff defined) (capped_iff resolved)⟩

end Run

/-! ### A predefined application of the user's own -/

def httpOn (port : String) : XmlNode :=
  .group "applications" [.group "application"
    [.field "name" "junos-http", .field "protocol" "tcp", .field "destination-port" port]]

def overriddenReply : XmlDocument :=
  [.group "configuration"
    [httpOn "8080", .group "groups" [.field "name" "junos-defaults", httpOn "80"]]]

def overriddenCrates : XmlCrates := readerOfPrinted [overriddenReply]

def overriddenArgs : ApplicationResolveArgs := ⟨"fw".toList, "junos-http".toList, false⟩

/-- What is resolved is the group's application. -/
def overriddenResolution : ApplicationResolution where
  requested := "junos-http".toList
  kind := .application
  members := [⟨"junos-http".toList, "tcp".toList, none, some (.numeric ⟨80, 80⟩), none, none, none,
    true, .device⟩]
  truncated := false

theorem overriddenReply_clean :
    sanitizeRustezXml (printed overriddenReply) = printed overriddenReply :=
  sanitizeRustezXml_printed (by decide) (by decide)

theorem overriddenCrates_parse : overriddenCrates.parse = parsePrinted [overriddenReply] := rfl

theorem overriddenReply_read :
    overriddenCrates.parse (printed overriddenReply) = .ok overriddenReply := by
  rw [overriddenCrates_parse, parsePrinted_here]

theorem overridden_split : multiReSplit overriddenCrates (printed overriddenReply) =
    .ok [⟨[], printed overriddenReply⟩] :=
  multiReSplit_standalone overriddenReply_clean overriddenReply_read rfl

theorem overridden_usable : firstUsable overriddenCrates [⟨[], printed overriddenReply⟩] =
    .ok (some ⟨[], printed overriddenReply⟩) :=
  firstUsable_standalone overriddenReply_clean overriddenReply_read rfl

theorem overridden_parsed :
    parse overriddenCrates junosDefaults overriddenArgs.router overriddenArgs.name
      (printed overriddenReply) = .ok (.active overriddenResolution) := by
  rw [parse, overridden_split]
  dsimp only [bind, Except.bind]
  rw [overridden_usable]
  dsimp only
  rw [overriddenReply_clean, readDocument, overriddenReply_read]
  rfl

theorem overridden_run : Returns (run overriddenCrates overriddenArgs)
    (applicationsTrace (printed overriddenReply)) (.ok (.active overriddenResolution)) := by
  rw [run, runWith, if_neg (by decide), if_neg (by decide)]
  refine returns_andThen_ok (returns_openExecutor.mpr rfl) ?_
  refine returns_andThen_ok (returns_callXml.mpr rfl) ?_
  rw [overridden_parsed]
  exact .pure _

theorem overridden_shadowed : ¬ Unshadowed overriddenReply := by
  intro unshadowed
  have grouped : groupDefinitions overriddenReply =
      [("junos-http".toList, .leaf (.device (.group "application" [.field "name" "junos-http",
        .field "protocol" "tcp", .field "destination-port" "80"])))] := rfl
  have written : userDefinitions overriddenReply =
      [("junos-http".toList, .leaf (.device (.group "application" [.field "name" "junos-http",
        .field "protocol" "tcp", .field "destination-port" "8080"])))] := rfl
  have inside := unshadowed.overridden "junos-http".toList _ (by rw [grouped]; rfl)
    ⟨_, by rw [written]; exact List.mem_singleton_self _⟩
  rw [written] at inside
  have ports := congrArg (fun definition : Text × ApplicationNode => match definition.2 with
    | .leaf (.device node) => node.childText "destination-port"
    | _ => none) (List.mem_singleton.mp inside)
  exact absurd ports (by decide)

/-- The user's port is not the one that is reported. -/
theorem overridden_ignored :
    ∃ crates args reply resolution document map,
      Returns (run crates args) (applicationsTrace reply) (.ok (.active resolution)) ∧
      usableDocument crates reply = some document ∧
      applicationMap junosDefaults document = .ok map ∧
      ¬ (Precedence junosDefaults document map ∧ Capped map resolution) := by
  obtain ⟨document, map, usable, defined, -⟩ := parse_ok overridden_parsed rfl
  refine ⟨_, _, _, _, document, map, overridden_run, usable, defined, ?_⟩
  rintro ⟨precedence, -⟩
  rw [usableDocument_eq overridden_split overridden_usable, Option.bind_some, overriddenReply_clean,
    overriddenReply_read] at usable
  cases usable
  exact overridden_shadowed ((precedence_iff defined).mp precedence)

theorem overridden_precedence_iff :
    ∃ reply, applicationsTrace (printed overriddenReply) = applicationsTrace reply ∧
      ∀ resolution, (SrxToolResponse.active overriddenResolution).data = some resolution →
        ∃ document map, usableDocument overriddenCrates reply = some document ∧
          applicationMap junosDefaults document = .ok map ∧
          (Precedence junosDefaults document map ∧ Capped map resolution ↔
            Unshadowed document ∧ Fits map "junos-http".toList) :=
  runWith_precedence_iff overridden_run

end JunosMcp.Srx.ResolveApplication
