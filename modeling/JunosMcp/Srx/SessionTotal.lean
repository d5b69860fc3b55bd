import Mathlib.Algebra.BigOperators.Group.List.Basic
import JunosMcp.Srx.Fields
import JunosMcp.Srx.FlowExposure

/-!
# The total of a session summary

The counts of the nodes are added up. A node that carries errors, none of them a warning or an
`error`, is passed over; any other node without a count leaves no total at all.
-/

namespace JunosMcp.Srx.FlowSessions

open Lib

section

variable (crates : XmlCrates)

/-! ## What a node carries -/

def rpcErrors (node : ReNode) : List XmlNode :=
  match readFragment crates node.innerXml with
  | .error _ => []
  | .ok document => document.all "rpc-error".toList

/-- An error of severity `error`. -/
def carriesError (node : ReNode) : Bool := (rpcErrors crates node).any (hasSeverity "error")

/-- Errors, and each without one of the two severities. -/
def isPassedOver (node : ReNode) : Bool :=
  !(rpcErrors crates node).isEmpty &&
    (rpcErrors crates node).all fun e => !hasSeverity "error" e && !hasSeverity "warning" e

def nodeCount (node : ReNode) : Option Nat :=
  match readFragment crates node.innerXml with
  | .error _ => none
  | .ok document => summaryCount document

/-- The saturated sum of the counts of the nodes that are not passed over. -/
def countedTotal (nodes : List ReNode) : Nat :=
  min ((nodes.filter fun node => !isPassedOver crates node).map fun node =>
    (nodeCount crates node).getD 0).sum (2 ^ 64 - 1)

/-- The total that the nodes give. -/
structure IsTotal (nodes : List ReNode) (total : Nat) : Prop where
  healthy : ∀ node ∈ nodes, carriesError crates node = false
  counted : ∃ node ∈ nodes, isPassedOver crates node = false
  complete : ∀ node ∈ nodes, isPassedOver crates node = false → (nodeCount crates node).isSome
  sum : total = countedTotal crates nodes

end

variable {crates : XmlCrates}

theorem extractRpcError_eq (node : ReNode) :
    extractRpcError crates node.innerXml =
      if (rpcErrors crates node).isEmpty then none
      else some ⟨List.intercalate "; ".toList ((rpcErrors crates node).map errorMessage),
        (rpcErrors crates node).any (hasSeverity "warning") && !carriesError crates node,
        carriesError crates node⟩ := by
  unfold extractRpcError rpcErrors carriesError rpcErrors
  cases readFragment crates node.innerXml with
  | error error => rfl
  | ok document => rfl

theorem info_isError (node : ReNode) :
    (extractRpcError crates node.innerXml).any RpcErrorInfo.isError = carriesError crates node := by
  rw [extractRpcError_eq, carriesError]
  cases rpcErrors crates node with
  | nil => rfl
  | cons e rest => rfl

theorem info_isPassedOver {node : ReNode} (healthy : carriesError crates node = false) :
    ((extractRpcError crates node.innerXml).any fun e => !e.isWarning) =
      isPassedOver crates node := by
  rw [extractRpcError_eq, healthy, isPassedOver]
  rw [carriesError] at healthy
  cases errors : rpcErrors crates node with
  | nil => rfl
  | cons e rest =>
      rw [errors] at healthy
      have none : ∀ x ∈ e :: rest, hasSeverity "error" x = false := by
        simpa only [List.any_eq_false, Bool.not_eq_true] using healthy
      have same : ((e :: rest).all fun x => !hasSeverity "error" x && !hasSeverity "warning" x) =
          (e :: rest).all fun x => !hasSeverity "warning" x := by
        rw [Bool.eq_iff_iff, List.all_eq_true, List.all_eq_true]
        refine forall_congr' fun x => imp_congr_right fun member => ?_
        rw [none x member]
        rfl
      rw [same, List.isEmpty_cons, if_neg (by decide)]
      simp [List.not_any_eq_all_not]

theorem carriesError_not_passedOver {node : ReNode} (carries : carriesError crates node = true) :
    isPassedOver crates node = false := by
  obtain ⟨e, member, severe⟩ := List.any_eq_true.mp carries
  rw [isPassedOver, Bool.and_eq_false_iff]
  refine .inr (List.all_eq_false.mpr ⟨e, member, ?_⟩)
  simp [severe]

/-! ## The loop -/

/-- One node of the loop. -/
theorem sumCounts_cons (counted : Option Nat) (node : ReNode) (rest : List ReNode) (t : Nat) :
    sumCounts crates counted (node :: rest) = .ok (some t) ↔
      carriesError crates node = false ∧
        (isPassedOver crates node = true ∧ sumCounts crates counted rest = .ok (some t) ∨
          isPassedOver crates node = false ∧ ∃ count, nodeCount crates node = some count ∧
            sumCounts crates (some (saturatingAdd (counted.getD 0) count)) rest =
              .ok (some t)) := by
  simp only [sumCounts, info_isError]
  cases carries : carriesError crates node with
  | true => simp
  | false =>
      rw [info_isPassedOver carries]
      cases isPassedOver crates node with
      | true => simp
      | false =>
          unfold readSingleRoot nodeCount
          cases readFragment crates node.innerXml with
          | error error => simp [Except.mapError]
          | ok document =>
              cases found : summaryCount document <;> simp [Except.mapError, found]

theorem saturatingAdd_sum (a b rest : Nat) :
    min (saturatingAdd a b + rest) (2 ^ 64 - 1) = min (a + (b + rest)) (2 ^ 64 - 1) := by
  rw [saturatingAdd]
  omega

/-- The loop behind what has been counted before. -/
theorem sumCounts_eq_some {nodes : List ReNode} {t : Nat} : ∀ {counted : Option Nat},
    (∀ before, counted = some before → before ≤ 2 ^ 64 - 1) →
    (sumCounts crates counted nodes = .ok (some t) ↔
      (∀ node ∈ nodes, carriesError crates node = false) ∧
        (counted.isSome ∨ ∃ node ∈ nodes, isPassedOver crates node = false) ∧
        (∀ node ∈ nodes, isPassedOver crates node = false → (nodeCount crates node).isSome) ∧
        t = min (counted.getD 0 + ((nodes.filter fun node => !isPassedOver crates node).map
          fun node => (nodeCount crates node).getD 0).sum) (2 ^ 64 - 1)) := by
  induction nodes with
  | nil =>
      intro counted bounded
      cases counted with
      | none => simp [sumCounts]
      | some before =>
          have small := bounded before rfl
          simp only [sumCounts, Except.ok.injEq, Option.some.injEq, List.not_mem_nil, false_imp_iff,
            implies_true, Option.isSome_some, true_or, true_and, Option.getD_some, List.filter_nil,
            List.map_nil, List.sum_nil, Nat.add_zero, Nat.min_eq_left small]
          exact eq_comm
  | cons node rest ih =>
      intro counted bounded
      have later (count : Nat) := @ih (some (saturatingAdd (counted.getD 0) count)) (by
        rintro before same
        cases same
        exact Nat.min_le_right _ _)
      rw [sumCounts_cons, List.forall_mem_cons, List.forall_mem_cons, and_assoc]
      refine and_congr_right fun healthy => ?_
      cases passed : isPassedOver crates node with
      | true =>
          simp only [true_and, Bool.true_eq_false, false_and, or_false, false_imp_iff,
            List.exists_mem_cons_iff, passed, false_or, List.filter_cons, Bool.not_true,
            Bool.false_eq_true, if_false]
          exact ih bounded
      | false =>
          simp only [Bool.false_eq_true, false_and, true_and, false_or, later, forall_const,
            List.exists_mem_cons_iff, passed, true_or, or_true, List.filter_cons, Bool.not_false,
            if_true, List.map_cons, List.sum_cons, Option.isSome_some, Option.getD_some,
            saturatingAdd_sum]
          cases found : nodeCount crates node with
          | none => simp
          | some count => simp

theorem parseSummaryTotal_eq_some {xml : Text} {t : Nat} :
    parseSummaryTotal crates xml = .ok (some t) ↔
      ∃ nodes, multiReSplit crates xml = .ok nodes ∧ IsTotal crates nodes t := by
  have total (nodes : List ReNode) :
      sumCounts crates none nodes = .ok (some t) ↔ IsTotal crates nodes t := by
    rw [sumCounts_eq_some (by rintro before same; cases same)]
    simp only [Option.isSome_none, Bool.false_eq_true, false_or, Option.getD_none, Nat.zero_add]
    exact ⟨fun ⟨healthy, counted, complete, sum⟩ => ⟨healthy, counted, complete, sum⟩,
      fun is => ⟨is.healthy, is.counted, is.complete, is.sum⟩⟩
  rw [parseSummaryTotal]
  constructor
  · intro summed
    obtain ⟨nodes, split, summed⟩ := bind_eq_ok.mp summed
    exact ⟨nodes, split, (total nodes).mp summed⟩
  · rintro ⟨nodes, split, is⟩
    exact bind_eq_ok.mpr ⟨nodes, split, (total nodes).mpr is⟩

/-! ## The order of the nodes -/

theorem countedTotal_perm {nodes nodes' : List ReNode} (perm : nodes.Perm nodes') :
    countedTotal crates nodes = countedTotal crates nodes' := by
  rw [countedTotal, countedTotal, ((perm.filter _).map _).sum_eq]

theorem IsTotal.perm {nodes nodes' : List ReNode} {t : Nat} (perm : nodes.Perm nodes')
    (is : IsTotal crates nodes t) : IsTotal crates nodes' t where
  healthy node member := is.healthy node (perm.mem_iff.mpr member)
  counted := by
    obtain ⟨node, member, counts⟩ := is.counted
    exact ⟨node, perm.mem_iff.mp member, counts⟩
  complete node member := is.complete node (perm.mem_iff.mpr member)
  sum := is.sum.trans (countedTotal_perm perm)

theorem isTotal_perm {nodes nodes' : List ReNode} {t : Nat} (perm : nodes.Perm nodes') :
    IsTotal crates nodes t ↔ IsTotal crates nodes' t :=
  ⟨IsTotal.perm perm, IsTotal.perm perm.symm⟩

/-! ## The plan -/

theorem planWalk_eq_proceed {total : Option Nat} {cap : Nat} :
    planWalk total cap = .proceed ↔ ∃ t, total = some t ∧ t ≤ cap := by
  cases total with
  | none => simp [planWalk]
  | some t => by_cases within : t ≤ cap <;> simp [planWalk, within]

/-- A call that reads the session table. -/
def asksWalk : DeviceOp → Prop
  | .call _ args => isWalk args = true
  | _ => False

theorem not_asksWalk_summary (filter : FlowSessionFilter) :
    (callRpc rpcName (summaryArgs filter)).Performs fun op => ¬ asksWalk op := by
  refine ⟨fun walk => ?_, fun answer => trivial⟩
  exact Bool.false_ne_true ((summaryArgs_isWalk filter).symm.trans walk)

/-- A walk comes after one summary, and the total of its nodes is within the cap. -/
theorem walk_within_total {args : FlowSessionsArgs} {trace : DeviceTrace}
    {outcome : Except SrxError (SrxToolResponse FlowSessionQuery)}
    (returned : Returns (run crates args) trace outcome)
    (walks : ∃ event ∈ trace, asksWalk event.1) :
    ∃ summary nodes t cap, replies false trace = [summary] ∧
      multiReSplit crates summary = .ok nodes ∧ IsTotal crates nodes t ∧
      validateCap args.cap = .ok cap ∧ t ≤ cap := by
  obtain ⟨_, _, filter, rfl, filtered, capping, walks⟩ :=
    Returns.past_andThen returned trivial walks
  obtain ⟨_, _, cap, rfl, capped, querying, walks⟩ := Returns.past_andThen capping trivial walks
  obtain ⟨_, _, ⟨⟩, rfl, opened, calls, walks⟩ :=
    Returns.past_andThen querying ⟨id, fun answer => trivial⟩ walks
  obtain ⟨_, _, summary, rfl, asked, summing, walks⟩ :=
    Returns.past_andThen calls (not_asksWalk_summary filter) walks
  obtain ⟨_, rest, total, rfl, summed, answering, walking⟩ :=
    Returns.past_andThen summing trivial walks
  obtain ⟨rfl, -⟩ := returns_pure.mp filtered
  obtain ⟨rfl, valid⟩ := returns_pure.mp capped
  obtain ⟨rfl, counted⟩ := returns_pure.mp summed
  cases returns_openExecutor.mp opened
  cases returns_callRpc.mp asked
  unfold answerTotal at answering
  cases plan : planWalk total cap with
  | refuse reason =>
      rw [plan] at answering
      obtain ⟨rfl, -⟩ := returns_pure.mp answering
      obtain ⟨event, member, -⟩ := walking
      exact absurd member List.not_mem_nil
  | proceed =>
      obtain ⟨t, rfl, within⟩ := planWalk_eq_proceed.mp plan
      obtain ⟨nodes, split, is⟩ := parseSummaryTotal_eq_some.mp counted.symm
      refine ⟨summary, nodes, t, cap, ?_, split, is, valid.symm, within⟩
      rw [plan] at answering
      have later : replies false rest = [] := by
        obtain ⟨answer, walked, rfl, going⟩ := returns_step.mp answering
        obtain rfl : walked = [] := by
          cases answer with
          | error error => exact (returns_pure.mp going).1
          | ok walk => exact (returns_pure.mp going).1
        cases answer <;> simp [replies, toRpcArgs_isWalk]
      have first : replies false
          ([⟨.rpc, .ok ()⟩] ++ ([⟨.call rpcName (summaryArgs filter), .ok summary⟩] ++ rest)) =
          summary :: replies false rest := by
        simp [replies, summaryArgs_isWalk]
      simp only [List.nil_append]
      rw [first, later]

/-- A total is given exactly when the nodes give it, their order does not matter for it, and only a
total within the cap lets a walk go on. -/
theorem summary_total_exact (crates : XmlCrates) :
    (∀ (xml : Text) (t : Nat), parseSummaryTotal crates xml = .ok (some t) ↔
      ∃ nodes, multiReSplit crates xml = .ok nodes ∧ IsTotal crates nodes t) ∧
    (∀ (xml xml' : Text) (nodes nodes' : List ReNode), multiReSplit crates xml = .ok nodes →
      multiReSplit crates xml' = .ok nodes' → nodes.Perm nodes' → ∀ t,
        (parseSummaryTotal crates xml = .ok (some t) ↔
          parseSummaryTotal crates xml' = .ok (some t))) ∧
    (∀ (total : Option Nat) (cap : Nat),
      planWalk total cap = .proceed ↔ ∃ t, total = some t ∧ t ≤ cap) ∧
    ∀ (args : FlowSessionsArgs) (trace : DeviceTrace)
      (outcome : Except SrxError (SrxToolResponse FlowSessionQuery)),
      Returns (run crates args) trace outcome → (∃ event ∈ trace, asksWalk event.1) →
        ∃ summary nodes t cap, replies false trace = [summary] ∧
          multiReSplit crates summary = .ok nodes ∧ IsTotal crates nodes t ∧
          validateCap args.cap = .ok cap ∧ t ≤ cap := by
  refine ⟨fun xml t => parseSummaryTotal_eq_some, ?_, fun total cap => planWalk_eq_proceed,
    fun args trace outcome => walk_within_total⟩
  intro xml xml' nodes nodes' split split' perm t
  rw [parseSummaryTotal_eq_some, parseSummaryTotal_eq_some]
  constructor
  · rintro ⟨found, same, is⟩
    cases split.symm.trans same
    exact ⟨nodes', split', is.perm perm⟩
  · rintro ⟨found, same, is⟩
    cases split'.symm.trans same
    exact ⟨nodes, split, is.perm perm.symm⟩

/-! ### Nodes with errors -/

def countedPart : XmlNode := .group "s" [.field "sessions-in-use" "5"]

/-- A count next to an error without a severity. -/
def passedPart : XmlNode := .group "s" [.group "rpc-error" [], .field "sessions-in-use" "9"]

def passedReply : XmlDocument := clusterReplyOf [("node0", countedPart), ("node1", passedPart)]

def swappedReply : XmlDocument := clusterReplyOf [("node1", passedPart), ("node0", countedPart)]

def passedXml : XmlCrates :=
  readerOfPrinted [passedReply, swappedReply, [countedPart], [passedPart]]

def nodeOf (name : String) (part : XmlNode) : ReNode := ⟨name.toList, printed [part]⟩

theorem passedXml_parse : passedXml.parse =
    parsePrinted [passedReply, swappedReply, [countedPart], [passedPart]] := rfl

theorem passedReply_read : passedXml.parse (printed passedReply) = .ok passedReply := by
  rw [passedXml_parse, parsePrinted_here]

theorem swappedReply_read : passedXml.parse (printed swappedReply) = .ok swappedReply := by
  have later : printed passedReply ≠ printed swappedReply := by decide
  rw [passedXml_parse, parsePrinted_later later, parsePrinted_here]

theorem countedPart_read : passedXml.parse (printed [countedPart]) = .ok [countedPart] := by
  have later : printed passedReply ≠ printed [countedPart] := by decide
  have swapped : printed swappedReply ≠ printed [countedPart] := by decide
  rw [passedXml_parse, parsePrinted_later later, parsePrinted_later swapped, parsePrinted_here]

theorem passedPart_read : passedXml.parse (printed [passedPart]) = .ok [passedPart] := by
  have later : printed passedReply ≠ printed [passedPart] := by decide
  have swapped : printed swappedReply ≠ printed [passedPart] := by decide
  have last : printed [countedPart] ≠ printed [passedPart] := by decide
  rw [passedXml_parse, parsePrinted_later later, parsePrinted_later swapped,
    parsePrinted_later last, parsePrinted_here]

theorem passedReply_split : multiReSplit passedXml (printed passedReply) =
    .ok [nodeOf "node0" countedPart, nodeOf "node1" passedPart] :=
  multiReSplit_envelope (sanitizeRustezXml_printed (by decide) (by decide)) passedReply_read rfl

theorem swappedReply_split : multiReSplit passedXml (printed swappedReply) =
    .ok [nodeOf "node1" passedPart, nodeOf "node0" countedPart] :=
  multiReSplit_envelope (sanitizeRustezXml_printed (by decide) (by decide)) swappedReply_read rfl

theorem countedPart_fragment :
    readFragment passedXml (nodeOf "node0" countedPart).innerXml = .ok [countedPart] :=
  readFragment_document countedPart_read

theorem passedPart_fragment :
    readFragment passedXml (nodeOf "node1" passedPart).innerXml = .ok [passedPart] :=
  readFragment_document passedPart_read

theorem passedReply_isTotal :
    IsTotal passedXml [nodeOf "node0" countedPart, nodeOf "node1" passedPart] 5 := by
  have count0 : nodeCount passedXml (nodeOf "node0" countedPart) = some 5 := by
    rw [nodeCount, countedPart_fragment]
    decide
  have healthy0 : carriesError passedXml (nodeOf "node0" countedPart) = false := by
    rw [carriesError, rpcErrors, countedPart_fragment]
    decide
  have healthy1 : carriesError passedXml (nodeOf "node1" passedPart) = false := by
    rw [carriesError, rpcErrors, passedPart_fragment]
    decide
  have passed0 : isPassedOver passedXml (nodeOf "node0" countedPart) = false := by
    rw [isPassedOver, rpcErrors, countedPart_fragment]
    decide
  have passed1 : isPassedOver passedXml (nodeOf "node1" passedPart) = true := by
    rw [isPassedOver, rpcErrors, passedPart_fragment]
    decide
  constructor
  · simp [healthy0, healthy1]
  · exact ⟨_, List.mem_cons_self, passed0⟩
  · simp [passed1, count0]
  · simp [countedTotal, passed0, passed1, count0]

def errorPart : XmlNode := .group "rpc-error" [.field "error-severity" "error"]

/-- Two attributes of one name in two namespaces, as they stand in the reply. -/
def prefixedPart : XmlNode :=
  .element "x".toList [] [.element "y".toList [⟨none, "xmlns:a".toList, "a".toList⟩,
    ⟨none, "xmlns:b".toList, "b".toList⟩, ⟨none, "a:k".toList, []⟩, ⟨none, "b:k".toList, []⟩] []]

/-- The same as it is read. -/
def resolvedPart : XmlNode :=
  .element "x".toList [] [.element "y".toList [⟨some "a".toList, "k".toList, []⟩,
    ⟨some "b".toList, "k".toList, []⟩] []]

def errorFirst (part : XmlNode) : XmlDocument :=
  clusterReplyOf [("node0", errorPart), ("node1", part)]

def errorLast (part : XmlNode) : XmlDocument :=
  clusterReplyOf [("node1", part), ("node0", errorPart)]

/-- The part of the second node is no document any more when it is written without its prefixes. -/
def prefixedXml : XmlCrates where
  parse xml := if xml = printed (errorFirst prefixedPart) then .ok (errorFirst resolvedPart)
    else if xml = printed (errorLast prefixedPart) then .ok (errorLast resolvedPart)
    else (readerOf (printed [errorPart]) [errorPart]).parse xml
  escape xml := xml

theorem errorFirst_split : multiReSplit prefixedXml (printed (errorFirst prefixedPart)) =
    .ok [nodeOf "node0" errorPart, nodeOf "node1" resolvedPart] := by
  have read : prefixedXml.parse (printed (errorFirst prefixedPart)) =
      .ok (errorFirst resolvedPart) := by
    dsimp only [prefixedXml]
    rw [if_pos rfl]
  exact multiReSplit_envelope (sanitizeRustezXml_printed (by decide) (by decide)) read rfl

theorem errorLast_split : multiReSplit prefixedXml (printed (errorLast prefixedPart)) =
    .ok [nodeOf "node1" resolvedPart, nodeOf "node0" errorPart] := by
  have read : prefixedXml.parse (printed (errorLast prefixedPart)) =
      .ok (errorLast resolvedPart) := by
    dsimp only [prefixedXml]
    rw [if_neg (by decide), if_pos rfl]
  exact multiReSplit_envelope (sanitizeRustezXml_printed (by decide) (by decide)) read rfl

theorem errorPart_carriesError : carriesError prefixedXml (nodeOf "node0" errorPart) = true := by
  have read : prefixedXml.parse (printed [errorPart]) = .ok [errorPart] := by
    dsimp only [prefixedXml]
    rw [if_neg (by decide), if_neg (by decide), readerOf_parse]
  rw [carriesError, rpcErrors, nodeOf, readFragment_document read]
  decide

theorem resolvedPart_fragment : readFragment prefixedXml (nodeOf "node1" resolvedPart).innerXml =
    .error "unknown token".toList := by
  have whole : prefixedXml.parse (printed [resolvedPart]) = .error "unknown token".toList := by
    dsimp only [prefixedXml, readerOf]
    rw [if_neg (by decide), if_neg (by decide), if_neg (by decide)]
  have wrapped : prefixedXml.parse ("<_>".toList ++ printed [resolvedPart] ++ "</_>".toList) =
      .error "unknown token".toList := by
    dsimp only [prefixedXml, readerOf]
    rw [if_neg (by decide), if_neg (by decide), if_neg (by decide)]
  rw [readFragment, nodeOf, whole]
  exact wrapped

theorem errorFirst_total :
    parseSummaryTotal prefixedXml (printed (errorFirst prefixedPart)) = .ok none := by
  refine bind_eq_ok.mpr ⟨_, errorFirst_split, ?_⟩
  rw [sumCounts, info_isError, errorPart_carriesError, if_pos rfl]

theorem errorLast_total : parseSummaryTotal prefixedXml (printed (errorLast prefixedPart)) =
    .error (.parse "roxmltree: unknown token".toList) := by
  have quiet : extractRpcError prefixedXml (nodeOf "node1" resolvedPart).innerXml = none := by
    rw [extractRpcError, resolvedPart_fragment]
  rw [parseSummaryTotal, errorLast_split]
  simp only [bind, Except.bind, sumCounts, quiet, readSingleRoot, resolvedPart_fragment]
  rfl

/-- A node is passed over although it has a count; and without a total, the order of the nodes
decides whether the reply is unreadable. -/
theorem total_misses_counted_node :
    (parseSummaryTotal passedXml (printed passedReply) = .ok (some 5) ∧
      multiReSplit passedXml (printed passedReply) =
        .ok [nodeOf "node0" countedPart, nodeOf "node1" passedPart] ∧
      nodeCount passedXml (nodeOf "node0" countedPart) = some 5 ∧
      nodeCount passedXml (nodeOf "node1" passedPart) = some 9) ∧
    multiReSplit prefixedXml (printed (errorFirst prefixedPart)) =
        .ok [nodeOf "node0" errorPart, nodeOf "node1" resolvedPart] ∧
      multiReSplit prefixedXml (printed (errorLast prefixedPart)) =
        .ok [nodeOf "node1" resolvedPart, nodeOf "node0" errorPart] ∧
      parseSummaryTotal prefixedXml (printed (errorFirst prefixedPart)) = .ok none ∧
      parseSummaryTotal prefixedXml (printed (errorLast prefixedPart)) =
        .error (.parse "roxmltree: unknown token".toList) := by
  refine ⟨⟨parseSummaryTotal_eq_some.mpr ⟨_, passedReply_split, passedReply_isTotal⟩,
    passedReply_split, ?_, ?_⟩, errorFirst_split, errorLast_split, errorFirst_total,
    errorLast_total⟩
  · rw [nodeCount, countedPart_fragment]
    decide
  · rw [nodeCount, passedPart_fragment]
    decide

theorem notice_walk_within_total :
    (parseSummaryTotal passedXml (printed passedReply) = .ok (some 5) ∧
      parseSummaryTotal passedXml (printed swappedReply) = .ok (some 5)) ∧
    planWalk (some 1) defaultCap = .proceed ∧
    ∃ summary nodes t cap, replies false noticeTrace = [summary] ∧
      multiReSplit noticeXml summary = .ok nodes ∧ IsTotal noticeXml nodes t ∧
      validateCap noticeArgs.cap = .ok cap ∧ t ≤ cap := by
  obtain ⟨given, order, -, -⟩ := summary_total_exact passedXml
  obtain ⟨-, -, plan, walked⟩ := summary_total_exact noticeXml
  have total : parseSummaryTotal passedXml (printed passedReply) = .ok (some 5) :=
    (given _ 5).mpr ⟨_, passedReply_split, passedReply_isTotal⟩
  refine ⟨⟨total, ?_⟩, ?_, ?_⟩
  · exact (order _ _ _ _ passedReply_split swappedReply_split (.swap ..) 5).mp total
  · exact (plan (some 1) defaultCap).mpr ⟨1, rfl, by decide⟩
  · exact walked noticeArgs noticeTrace _ notice_run
      ⟨⟨.call rpcName noticeFilter.toRpcArgs, .ok noticeWalk⟩, .tail _ (.tail _ (.head _)),
        toRpcArgs_isWalk noticeFilter⟩

end JunosMcp.Srx.FlowSessions
