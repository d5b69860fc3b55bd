import Mathlib.Data.List.Basic
import JunosMcp.Srx.ServicesStatus

/-!
# Whose status a slot shows

The parts of the replies are put together by their place, not by their name. That is right where the
replies list the same nodes in the same order.
-/

namespace JunosMcp.Srx.ServicesStatus

open Lib

section Attribution

variable (crates : XmlCrates)

/-- What a service says of a node by name. -/
def SlotOf {T : Type} (parse : Text → SubServiceStatus T) (call : SubCall) (name : Text)
    (slot : SubServiceStatus T) : Prop :=
  match call.result with
  | .error _ => slot.state = .error
  | .ok nodes => (∃ node ∈ nodes, node.reName = name ∧ slot = parse node.innerXml) ∨
      (∀ node ∈ nodes, node.reName ≠ name) ∧ slot.state = .error

/-- Each node of the successful replies has one entry, and no other does unless none succeeded. -/
structure Attributed (calls : Service → SubCall) (entries : List NodeServicesStatus) : Prop where
  distinct : (entries.map NodeServicesStatus.reName).Nodup
  complete : ∀ service nodes, (calls service).result = .ok nodes →
    ∀ node ∈ nodes, node.reName ∈ entries.map NodeServicesStatus.reName
  occurring : ∀ entry ∈ entries,
    (∃ service nodes, (calls service).result = .ok nodes ∧
      entry.reName ∈ nodes.map ReNode.reName) ∨
    ∀ service nodes, (calls service).result ≠ .ok nodes
  slots : ∀ entry ∈ entries, ∀ service,
    SlotOf (service.parser crates) (calls service) entry.reName (entry.slot service)

/-- What stands at a place of a reply reads like what the reply has for this name. -/
def Placed {T : Type} (parse : Text → SubServiceStatus T) (nodes : List ReNode) (index : Nat)
    (name : Text) : Prop :=
  match nodes[index]? with
  | none => ∀ node ∈ nodes, node.reName ≠ name
  | some here => (∃ node ∈ nodes, node.reName = name ∧ parse node.innerXml = parse here.innerXml) ∨
      (∀ node ∈ nodes, node.reName ≠ name) ∧ (parse here.innerXml).state = .error

/-- The replies agree with the first successful one on the nodes, and place by place. -/
structure Aligned (calls : Service → SubCall) : Prop where
  distinct : (nodeNames calls).Nodup
  complete : ∀ service nodes, (calls service).result = .ok nodes →
    ∀ node ∈ nodes, node.reName ∈ nodeNames calls
  placed : ∀ service nodes, (calls service).result = .ok nodes →
    ∀ index name, (nodeNames calls)[index]? = some name →
      Placed (service.parser crates) nodes index name

end Attribution

/-! ## Slots -/

section Slots

variable {crates : XmlCrates} {calls : Service → SubCall}

theorem nodeStatus_slot (entry : Text × Nat) (service : Service) :
    (nodeStatus crates calls entry).slot service =
      perNode (calls service) entry.2 (service.parser crates) := by
  cases service <;> rfl

theorem mem_nodeStatuses {status : NodeServicesStatus} :
    status ∈ nodeStatuses crates calls ↔
      ∃ index name, (nodeNames calls)[index]? = some name ∧
        status = nodeStatus crates calls (name, index) := by
  rw [nodeStatuses, List.mem_map]
  constructor
  · rintro ⟨⟨name, index⟩, inside, rfl⟩
    exact ⟨index, name, List.mem_zipIdx_iff_getElem?.mp inside, rfl⟩
  · rintro ⟨index, name, found, rfl⟩
    exact ⟨(name, index), List.mem_zipIdx_iff_getElem?.mpr found, rfl⟩

theorem nodeStatuses_names :
    (nodeStatuses crates calls).map NodeServicesStatus.reName = nodeNames calls := by
  rw [nodeStatuses, List.map_map]
  exact List.zipIdx_map_fst 0 _

theorem rpcErrorParts_reason {document : XmlDocument} {tag reason : Text}
    (reported : rpcErrorParts document = some (tag, reason)) : reason.head? = some 'r' := by
  rw [rpcErrorParts, Option.bind_eq_some_iff] at reported
  obtain ⟨root, -, reported⟩ := reported
  obtain ⟨error, -, parts⟩ := Option.map_eq_some_iff.mp reported
  cases parts
  split <;> rfl

/-- An error of a parser is one of reading or one of the device. -/
theorem readPayload_reason {T : Type} {body : XmlDocument → SubServiceStatus T} {xml : Text}
    (quiet : ∀ document, (body document).state ≠ .error) :
    readPayload crates body xml ≠ .error noPayload := by
  intro same
  rw [readPayload] at same
  have head : noPayload.head? = some 'n' := rfl
  split at same
  · have reasons := Option.some.inj (congrArg SubServiceStatus.reason same)
    rw [← reasons] at head
    exact absurd head (by simp)
  · split at same
    · rename_i errorTag reason reported
      split at same
      · cases congrArg SubServiceStatus.state same
      · have reasons := Option.some.inj (congrArg SubServiceStatus.reason same)
        rw [← reasons, rpcErrorParts_reason reported] at head
        cases head
    · exact quiet _ (congrArg SubServiceStatus.state same)

theorem parser_reason (service : Service) (xml : Text) :
    service.parser crates xml ≠ .error noPayload := by
  cases service with
  | idp =>
      refine readPayload_reason fun document => ?_
      split <;> nofun
  | appid =>
      refine readPayload_reason fun document => ?_
      split <;> nofun
  | utmAv =>
      refine readPayload_reason fun document => ?_
      dsimp only
      split <;> nofun
  | secintel =>
      refine readPayload_reason fun document => ?_
      dsimp only
      split <;> nofun
  | atpCloud =>
      refine readPayload_reason fun document => ?_
      split
      · nofun
      · split <;> nofun

theorem slotOf_perNode_iff {T : Type} {parse : Text → SubServiceStatus T} {call : SubCall}
    {index : Nat} {name : Text} (loud : ∀ xml, parse xml ≠ .error noPayload) :
    SlotOf parse call name (perNode call index parse) ↔
      ∀ nodes, call.result = .ok nodes → Placed parse nodes index name := by
  rw [SlotOf, perNode]
  cases call.result with
  | error reason => simp [SubServiceStatus.error]
  | ok nodes =>
      simp only [Except.ok.injEq, forall_eq', Placed]
      cases nodes[index]? with
      | none =>
          constructor
          · rintro (⟨node, -, -, same⟩ | ⟨absent, -⟩)
            · exact absurd same.symm (loud node.innerXml)
            · exact absent
          · exact fun absent => .inr ⟨absent, rfl⟩
      | some here => simp only [eq_comm]

theorem nodeNames_occur {name : Text} (listed : name ∈ nodeNames calls) :
    (∃ service nodes, (calls service).result = .ok nodes ∧ name ∈ nodes.map ReNode.reName) ∨
      ∀ service nodes, (calls service).result ≠ .ok nodes := by
  rw [nodeNames] at listed
  cases found : Service.all.findSome? fun service => (calls service).result.toOption with
  | some nodes =>
      rw [found] at listed
      obtain ⟨service, -, split⟩ := List.exists_of_findSome?_eq_some found
      refine .inl ⟨service, nodes, ?_, listed⟩
      cases result : (calls service).result with
      | error reason =>
          rw [result] at split
          cases split
      | ok nodes' =>
          rw [result] at split
          cases split
          rfl
  | none =>
      refine .inr fun service nodes ok => ?_
      have none := List.findSome?_eq_none_iff.mp found service (by cases service <;> decide)
      rw [ok] at none
      cases none

theorem attributed_iff :
    Attributed crates calls (nodeStatuses crates calls) ↔ Aligned crates calls := by
  have slots : (∀ entry ∈ nodeStatuses crates calls, ∀ service,
      SlotOf (service.parser crates) (calls service) entry.reName (entry.slot service)) ↔
      ∀ service nodes, (calls service).result = .ok nodes →
        ∀ index name, (nodeNames calls)[index]? = some name →
          Placed (service.parser crates) nodes index name := by
    constructor
    · intro each service nodes split index name found
      have here := each _ (mem_nodeStatuses.mpr ⟨index, name, found, rfl⟩) service
      rw [nodeStatus_slot] at here
      exact (slotOf_perNode_iff (parser_reason service)).mp here nodes split
    · intro placed entry inside service
      obtain ⟨index, name, found, rfl⟩ := mem_nodeStatuses.mp inside
      rw [nodeStatus_slot]
      exact (slotOf_perNode_iff (parser_reason service)).mpr fun nodes split =>
        placed service nodes split index name found
  constructor
  · intro attributed
    refine ⟨?_, ?_, slots.mp attributed.slots⟩
    · exact nodeStatuses_names ▸ attributed.distinct
    · exact nodeStatuses_names ▸ attributed.complete
  · intro aligned
    refine ⟨?_, ?_, ?_, slots.mpr aligned.placed⟩
    · exact nodeStatuses_names.symm ▸ aligned.distinct
    · exact nodeStatuses_names.symm ▸ aligned.complete
    · intro entry inside
      apply nodeNames_occur
      rw [← nodeStatuses_names]
      exact List.mem_map_of_mem inside

end Slots

/-! ## The calls of a run -/

def serviceEvent (service : Service) (answer : Except RustEzError Text) : Σ op, DeviceAnswer op :=
  ⟨.call service.rpc [], answer⟩

def servicesTrace (answers : Service → Except RustEzError Text) : DeviceTrace :=
  ⟨.rpc, .ok ()⟩ :: Service.all.map fun service => serviceEvent service (answers service)

section Run

variable {crates : XmlCrates} {args : ServicesStatusArgs} {trace : DeviceTrace}
  {response : SrxToolResponse ServicesStatusData}

def callsOf (crates : XmlCrates) (answers : Service → Except RustEzError Text)
    (service : Service) : SubCall :=
  subCall crates (answers service)

theorem capture_ok {service : Service} {call : SubCall}
    (returns : Returns (capture crates service) trace (.ok call)) :
    ∃ answer, trace = [serviceEvent service answer] ∧ call = subCall crates answer := by
  obtain ⟨answer, rest, rfl, stopped⟩ := returns_step.mp returns
  obtain ⟨rfl, same⟩ := returns_pure.mp stopped
  cases same
  exact ⟨answer, rfl, rfl⟩

/-- One of five, by the service. -/
def byService {α : Type} (idp appid utmAv secintel atpCloud : α) : Service → α
  | .idp => idp
  | .appid => appid
  | .utmAv => utmAv
  | .secintel => secintel
  | .atpCloud => atpCloud

theorem run_ok (returns : Returns (run crates args) trace (.ok response)) :
    ∃ answers, trace = servicesTrace answers ∧
      response = report crates args (callsOf crates answers) := by
  rw [run] at returns
  split at returns
  · obtain ⟨-, same⟩ := returns_pure.mp returns
    cases same
  obtain ⟨_, _, _, rfl, opened, returns⟩ := Returns.of_andThen returns
  obtain ⟨_, _, _, rfl, idp, returns⟩ := Returns.of_andThen returns
  obtain ⟨_, _, _, rfl, appid, returns⟩ := Returns.of_andThen returns
  obtain ⟨_, _, _, rfl, utmAv, returns⟩ := Returns.of_andThen returns
  obtain ⟨_, _, _, rfl, secintel, returns⟩ := Returns.of_andThen returns
  obtain ⟨_, _, _, rfl, atpCloud, returns⟩ := Returns.of_andThen returns
  obtain ⟨rfl, same⟩ := returns_pure.mp returns
  obtain rfl := returns_openExecutor.mp opened
  obtain ⟨a, rfl, rfl⟩ := capture_ok idp
  obtain ⟨b, rfl, rfl⟩ := capture_ok appid
  obtain ⟨c, rfl, rfl⟩ := capture_ok utmAv
  obtain ⟨d, rfl, rfl⟩ := capture_ok secintel
  obtain ⟨e, rfl, rfl⟩ := capture_ok atpCloud
  refine ⟨byService a b c d e, rfl, ?_⟩
  cases same
  congr 1
  funext service
  cases service <;> rfl

theorem returns_run (named : (Text.trim args.router).isEmpty = false)
    (answers : Service → Except RustEzError Text) :
    Returns (run crates args) (servicesTrace answers)
      (.ok (report crates args (callsOf crates answers))) := by
  have each : ∀ service, Returns (capture crates service) [serviceEvent service (answers service)]
      (.ok (callsOf crates answers service)) := fun service => .step (.pure _)
  have calls : callsOf crates answers = byService (callsOf crates answers .idp)
      (callsOf crates answers .appid) (callsOf crates answers .utmAv)
      (callsOf crates answers .secintel) (callsOf crates answers .atpCloud) := by
    funext service
    cases service <;> rfl
  rw [run, if_neg (by simp [named]), calls]
  exact returns_andThen_ok (returns_openExecutor.mpr rfl) (returns_andThen_ok (each .idp)
    (returns_andThen_ok (each .appid) (returns_andThen_ok (each .utmAv)
      (returns_andThen_ok (each .secintel) (returns_andThen_ok (each .atpCloud) (.pure _))))))

theorem report_data (calls : Service → SubCall) :
    (report crates args calls).data =
      if (nodeStatuses crates calls).all isAbsent then none else some ⟨nodeStatuses crates calls⟩ := by
  rw [report]
  split <;> split <;> rfl

/-- The entries of a run are attributed to their nodes exactly when the replies list the nodes of
the first successful one, place by place, as far as their parts do not read the same. -/
theorem run_attributed_iff (returns : Returns (run crates args) trace (.ok response)) :
    ∃ answers, trace = servicesTrace answers ∧
      response.data = (if (nodeStatuses crates (callsOf crates answers)).all isAbsent then none
        else some ⟨nodeStatuses crates (callsOf crates answers)⟩) ∧
      (Attributed crates (callsOf crates answers) (nodeStatuses crates (callsOf crates answers)) ↔
        Aligned crates (callsOf crates answers)) := by
  obtain ⟨answers, rfl, rfl⟩ := run_ok returns
  exact ⟨answers, rfl, report_data _, attributed_iff⟩

end Run

/-! ### An engine of the other node -/

def versionNode (version : String) : XmlNode :=
  .group "appid-package-version" [.field "version-detail" version]

def engineNode : XmlNode :=
  .group "anti-virus" [.field "anti-virus-scan-engine-type" "sophos-engine"]

def bothNodes : XmlDocument :=
  clusterReplyOf [("node0", versionNode "3712"), ("node1", versionNode "3714")]

/-- Only the second node replies. -/
def secondNode : XmlDocument := clusterReplyOf [("node1", engineNode)]

def strayCrates : XmlCrates := readerOfPrinted [bothNodes, secondNode, [engineNode]]

def strayAnswers : Service → Except RustEzError Text
  | .appid => .ok (printed bothNodes)
  | .utmAv => .ok (printed secondNode)
  | _ => .error ⟨.netconf .protocol, "closed".toList⟩

theorem strayCrates_parse :
    strayCrates.parse = parsePrinted [bothNodes, secondNode, [engineNode]] := rfl

theorem bothNodes_read : strayCrates.parse (printed bothNodes) = .ok bothNodes := by
  rw [strayCrates_parse, parsePrinted_here]

theorem secondNode_read : strayCrates.parse (printed secondNode) = .ok secondNode := by
  have later : printed bothNodes ≠ printed secondNode := by decide
  rw [strayCrates_parse, parsePrinted_later later, parsePrinted_here]

theorem engineNode_read : strayCrates.parse (printed [engineNode]) = .ok [engineNode] := by
  have later : printed bothNodes ≠ printed [engineNode] := by decide
  have last : printed secondNode ≠ printed [engineNode] := by decide
  rw [strayCrates_parse, parsePrinted_later later, parsePrinted_later last, parsePrinted_here]

theorem bothNodes_split : multiReSplit strayCrates (printed bothNodes) =
    .ok [⟨"node0".toList, printed [versionNode "3712"]⟩,
      ⟨"node1".toList, printed [versionNode "3714"]⟩] :=
  multiReSplit_envelope (sanitizeRustezXml_printed (by decide) (by decide))
    bothNodes_read rfl

theorem secondNode_split : multiReSplit strayCrates (printed secondNode) =
    .ok [⟨"node1".toList, printed [engineNode]⟩] :=
  multiReSplit_envelope (sanitizeRustezXml_printed (by decide) (by decide))
    secondNode_read rfl

theorem stray_appid : (callsOf strayCrates strayAnswers .appid).result =
    .ok [⟨"node0".toList, printed [versionNode "3712"]⟩,
      ⟨"node1".toList, printed [versionNode "3714"]⟩] := by
  dsimp only [callsOf, strayAnswers, subCall]
  rw [bothNodes_split]
  rfl

theorem stray_utmAv : (callsOf strayCrates strayAnswers .utmAv).result =
    .ok [⟨"node1".toList, printed [engineNode]⟩] := by
  dsimp only [callsOf, strayAnswers, subCall]
  rw [secondNode_split]
  rfl

theorem stray_names :
    nodeNames (callsOf strayCrates strayAnswers) = ["node0".toList, "node1".toList] := by
  have first : (Service.all.findSome? fun service =>
      (callsOf strayCrates strayAnswers service).result.toOption) =
      (callsOf strayCrates strayAnswers .appid).result.toOption := by
    rw [stray_appid]
    simp only [Service.all, List.findSome?_cons, stray_appid]
    rfl
  rw [nodeNames, first, stray_appid]
  rfl

theorem engine_active : (parseUtmAv strayCrates (printed [engineNode])).state = .active := by
  rw [parseUtmAv, readPayload, engineNode_read]
  rfl

theorem misplaced_engine {crates : XmlCrates} {calls : Service → SubCall} {xml : Text}
    (names : nodeNames calls = ["node0".toList, "node1".toList])
    (split : (calls .utmAv).result = .ok [⟨"node1".toList, xml⟩])
    (running : (parseUtmAv crates xml).state = .active) :
    ¬ Attributed crates calls (nodeStatuses crates calls) := by
  intro attributed
  have first : nodeStatus crates calls ("node0".toList, 0) ∈ nodeStatuses crates calls :=
    mem_nodeStatuses.mpr ⟨0, _, by rw [names]; rfl, rfl⟩
  have slot := attributed.slots _ first .utmAv
  rw [nodeStatus_slot, perNode, SlotOf, split] at slot
  rcases slot with ⟨node, inside, named, -⟩ | ⟨-, failed⟩
  · cases List.mem_singleton.mp inside
    exact absurd (show "node1".toList = "node0".toList from named) (by decide)
  · cases running.symm.trans failed

/-- The engine of the second node is shown as the first node's. -/
theorem stray_engine :
    ∃ crates args answers, Returns (run crates args) (servicesTrace answers)
        (.ok (report crates args (callsOf crates answers))) ∧
      ¬ Attributed crates (callsOf crates answers)
        (nodeStatuses crates (callsOf crates answers)) :=
  ⟨strayCrates, ⟨"fw".toList, false⟩, strayAnswers, returns_run (by decide) _,
    misplaced_engine stray_names stray_utmAv engine_active⟩

theorem stray_attributed_iff :
    ∃ answers, servicesTrace strayAnswers = servicesTrace answers ∧
      (report strayCrates ⟨"fw".toList, false⟩ (callsOf strayCrates strayAnswers)).data =
        (if (nodeStatuses strayCrates (callsOf strayCrates answers)).all isAbsent then none
          else some ⟨nodeStatuses strayCrates (callsOf strayCrates answers)⟩) ∧
      (Attributed strayCrates (callsOf strayCrates answers)
          (nodeStatuses strayCrates (callsOf strayCrates answers)) ↔
        Aligned strayCrates (callsOf strayCrates answers)) :=
  run_attributed_iff (returns_run (by decide) strayAnswers)

end JunosMcp.Srx.ServicesStatus
