import Mathlib.Data.List.Flatten
import JunosMcp.Lib.Results
import JunosMcp.Srx.FlowSessions

/-!
# What a session query exposes

The nodes the walk reads are cut at the cap, and the reply is attached only when nothing was cut. A
node with an error that is no warning is not read at all, so its sessions are neither counted nor
reported as missing.
-/

namespace JunosMcp.Srx.FlowSessions

open Lib

/-! ## The sessions of a reply -/

def isWalk (args : List (Text × Text)) : Bool := args.all fun arg => arg.1 != "summary".toList

/-- The replies to the calls with the summary flag, or to those without it. -/
def replies (walk : Bool) (trace : DeviceTrace) : List Text :=
  trace.filterMap fun
    | ⟨.call _ args, .ok reply⟩ => if isWalk args == walk then some reply else none
    | _ => none

section

variable (crates : XmlCrates)

variable {crates}

theorem rpcArg_isWalk {name : String} (other : name.toList ≠ "summary".toList)
    (value : Option Text) : isWalk (rpcArg name value) = true := by
  cases value with
  | none => rfl
  | some text => simpa [isWalk, rpcArg] using other

theorem toRpcArgs_isWalk (filter : FlowSessionFilter) : isWalk filter.toRpcArgs = true := by
  have append : ∀ xs ys, isWalk (xs ++ ys) = (isWalk xs && isWalk ys) := fun xs ys =>
    List.all_append
  simp only [FlowSessionFilter.toRpcArgs, append, Bool.and_eq_true]
  refine ⟨⟨⟨⟨⟨⟨?_, ?_⟩, ?_⟩, ?_⟩, ?_⟩, ?_⟩, ?_⟩ <;> exact rpcArg_isWalk (by decide) _

theorem summaryArgs_isWalk (filter : FlowSessionFilter) : isWalk (summaryArgs filter) = false := by
  simp [isWalk, summaryArgs]

end

/-! ### A node that answers with sessions and a notice -/

def noticeSummary : Text := "<s><displayed-session-count>1</displayed-session-count></s>".toList

def noticeWalk : Text :=
  "<s><rpc-error/><flow-session><session-identifier>7</session-identifier>".toList ++
    "<source-address>::1</source-address><destination-address>::2</destination-address>".toList ++
    "</flow-session></s>".toList

def textElement (name value : String) : XmlNode := .element name.toList [] [.text value.toList]

def noticeSummaryDocument : XmlDocument :=
  [.element "s".toList [] [textElement "displayed-session-count" "1"]]

def noticeBlock : XmlNode :=
  .element "flow-session".toList [] [textElement "session-identifier" "7",
    textElement "source-address" "::1", textElement "destination-address" "::2"]

def noticeDocument : XmlDocument :=
  [.element "s".toList [] [.element "rpc-error".toList [] [], noticeBlock]]

def noticeXml : XmlCrates where
  parse xml := if xml = noticeSummary then .ok noticeSummaryDocument
    else (readerOf noticeWalk noticeDocument).parse xml
  escape xml := xml

def noticeArgs : FlowSessionsArgs where
  router := "srx-01".toList
  sourcePrefix := none
  destinationPrefix := none
  sourcePort := none
  destinationPort := none
  protocol := some "tcp".toList
  application := none
  sessionIdentifier := none
  cap := none
  acknowledgeUnfiltered := false
  includeRaw := true

def noticeFilter : FlowSessionFilter := ⟨none, none, none, none, some .tcp, none, none⟩

def noticeTrace : DeviceTrace :=
  [⟨.rpc, .ok ()⟩, ⟨.call rpcName (summaryArgs noticeFilter), .ok noticeSummary⟩,
    ⟨.call rpcName noticeFilter.toRpcArgs, .ok noticeWalk⟩]

def noticeData : FlowSessionQuery :=
  ⟨[⟨[], [], some "rpc-error (no error-message)".toList⟩], some 1, false, none, defaultCap⟩

def noticeResponse : SrxToolResponse FlowSessionQuery :=
  attachRaw true (composeWalkRaw noticeSummary noticeWalk false) (.active noticeData)

theorem noticeSummary_clean : sanitizeRustezXml noticeSummary = noticeSummary :=
  sanitizeRustezXml_clean (by decide) (by decide)

theorem noticeWalk_clean : sanitizeRustezXml noticeWalk = noticeWalk :=
  sanitizeRustezXml_clean (by decide) (by decide)

theorem noticeSummary_read : noticeXml.parse noticeSummary = .ok noticeSummaryDocument := by
  dsimp only [noticeXml]
  rw [if_pos rfl]

theorem noticeWalk_read : noticeXml.parse noticeWalk = .ok noticeDocument := by
  dsimp only [noticeXml]
  rw [if_neg (by decide)]
  exact readerOf_parse _ _

theorem noticeSummary_total : parseSummaryTotal noticeXml noticeSummary = .ok (some 1) := by
  have split : multiReSplit noticeXml noticeSummary = .ok [⟨[], noticeSummary⟩] :=
    multiReSplit_standalone noticeSummary_clean noticeSummary_read (by decide)
  have quiet : extractRpcError noticeXml noticeSummary = none := by
    rw [extractRpcError, readFragment_document noticeSummary_read]
    decide
  have read : readSingleRoot noticeXml noticeSummary = .ok noticeSummaryDocument := by
    rw [readSingleRoot, readFragment_document noticeSummary_read]
    rfl
  refine bind_eq_ok.mpr ⟨_, split, ?_⟩
  simp only [sumCounts, quiet, read]
  rfl

theorem noticeWalk_split :
    multiReSplit noticeXml (sanitizeRustezXml noticeWalk) = .ok [⟨[], noticeWalk⟩] := by
  rw [noticeWalk_clean]
  exact multiReSplit_standalone noticeWalk_clean noticeWalk_read (by decide)

theorem noticeWalk_parsed :
    parseWalk noticeXml noticeWalk (some 1) defaultCap = .ok (.active noticeData) := by
  have info : extractRpcError noticeXml noticeWalk =
      some ⟨"rpc-error (no error-message)".toList, false, false⟩ := by
    rw [extractRpcError, readFragment_document noticeWalk_read]
    decide
  refine bind_eq_ok.mpr ⟨_, noticeWalk_split, ?_⟩
  simp only [List.foldlM_cons, walkNode, info]
  rfl

theorem notice_run : Returns (run noticeXml noticeArgs) noticeTrace (.ok noticeResponse) := by
  have filtered : validateFilter noticeArgs = .ok noticeFilter := by rfl
  have capped : validateCap noticeArgs.cap = .ok defaultCap := by rfl
  have answered : Returns (answerTotal noticeXml noticeArgs noticeFilter defaultCap noticeSummary
      (some 1)) [⟨.call rpcName noticeFilter.toRpcArgs, .ok noticeWalk⟩] (.ok noticeResponse) := by
    show Returns _ ([_] ++ []) _
    refine returns_andThen_ok (returns_callRpc.mpr rfl) (returns_pure.mpr ⟨rfl, ?_⟩)
    rw [noticeWalk_parsed]
    rfl
  rw [run, filtered, capped]
  refine returns_andThen_ok (returns_openExecutor.mpr rfl) ?_
  refine returns_andThen_ok (returns_callRpc.mpr rfl) ?_
  rw [noticeSummary_total]
  exact answered

end JunosMcp.Srx.FlowSessions
