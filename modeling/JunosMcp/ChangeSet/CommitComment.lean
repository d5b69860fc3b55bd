import JunosMcp.ChangeSet.CommitLog
import JunosMcp.ChangeSet.Records
import JunosMcp.Output

/-!
# The commit comment

`format_attribution` joins who asked, for whom, with what and who approved into one line, and the
request id stands in the middle of it. A field can carry a request id of its own.
-/

namespace JunosMcp

namespace Text

/-- The texts with the character between them. -/
def joined (c : Char) (first : Text) (rest : List Text) : Text :=
  first ++ rest.flatMap fun text => c :: text

/-- The texts between the line breaks. -/
def splitLines : Text → Text × List Text
  | [] => ([], [])
  | c :: rest =>
      let later := splitLines rest
      if c == '\n' then ([], later.1 :: later.2) else (c :: later.1, later.2)

theorem joined_splitLines (text : Text) :
    joined '\n' (splitLines text).1 (splitLines text).2 = text := by
  induction text with
  | nil => rfl
  | cons c rest ih =>
      by_cases broken : c = '\n'
      · subst broken
        simpa [splitLines, joined] using ih
      · simpa [splitLines, joined, broken] using ih

theorem splitLines_unbroken (text : Text) :
    ∀ line ∈ (splitLines text).1 :: (splitLines text).2, '\n' ∉ line := by
  induction text with
  | nil => simp [splitLines]
  | cons c rest ih =>
      by_cases broken : c = '\n'
      · subst broken
        simpa [splitLines] using ih
      · simpa [splitLines, broken, Ne.symm broken] using ih

theorem length_le_of_contains {text needle : Text} (holds : contains text needle = true) :
    needle.length ≤ text.length := by
  obtain ⟨before, after, rfl⟩ := contains_iff.mp holds
  simp only [List.length_append]
  omega

/-- A character that is not in the needle separates. -/
theorem contains_separated {c : Char} {needle : Text} (apart : c ∉ needle) (before after : Text) :
    contains (before ++ c :: after) needle =
      (contains before needle || contains after needle) := by
  rw [Bool.eq_iff_iff, Bool.or_eq_true, contains_iff, contains_iff, contains_iff]
  constructor
  · rintro ⟨front, back, split⟩
    rw [List.append_assoc] at split
    rcases List.append_eq_append_iff.mp split with ⟨gap, rfl, tail⟩ | ⟨gap, rfl, tail⟩
    · cases gap with
      | nil =>
          cases needle with
          | nil => exact .inl ⟨before, [], by simp⟩
          | cons d needle =>
              cases tail
              exact absurd List.mem_cons_self apart
      | cons d gap =>
          cases tail
          exact .inr ⟨gap, back, by simp⟩
    · rcases List.append_eq_append_iff.mp tail with ⟨rest, inside, _⟩ | ⟨rest, inside, crossed⟩
      · exact .inl ⟨front, rest, by simp [inside]⟩
      · cases rest with
        | nil =>
            rw [List.append_nil] at inside
            exact .inl ⟨front, [], by simp [inside]⟩
        | cons d rest =>
            cases crossed
            exact absurd (by simp [inside]) apart
  · rintro (⟨front, back, rfl⟩ | ⟨front, back, rfl⟩)
    · exact ⟨front, back ++ c :: after, by simp⟩
    · exact ⟨before ++ c :: front, back, by simp⟩

theorem contains_joined {c : Char} {needle : Text} (apart : c ∉ needle) (first : Text)
    (rest : List Text) : contains (joined c first rest) needle =
      (first :: rest).any fun text => contains text needle := by
  induction rest generalizing first with
  | nil => simp [joined]
  | cons next rest ih =>
      have step : joined c first (next :: rest) = first ++ c :: joined c next rest := by
        simp [joined]
      rw [step, contains_separated apart, ih, List.any_cons, List.any_cons, List.any_cons]

/-- Nothing that starts with the needle's first character is in front. -/
theorem contains_behind {c : Char} {front needle : Text} (apart : c ∉ front) (text : Text) :
    contains (front ++ text) (c :: needle) = contains text (c :: needle) := by
  rw [Bool.eq_iff_iff, contains_iff, contains_iff]
  constructor
  · rintro ⟨before, after, split⟩
    rw [List.append_assoc] at split
    rcases List.append_eq_append_iff.mp split with ⟨gap, rfl, tail⟩ | ⟨gap, rfl, tail⟩
    · exact ⟨gap, after, by simp [tail]⟩
    · cases gap with
      | nil => exact ⟨[], after, by simpa using tail.symm⟩
      | cons d gap =>
          obtain ⟨rfl, _⟩ := List.cons.inj tail
          exact absurd (by simp) apart
  · rintro ⟨before, after, rfl⟩
    exact ⟨front ++ before, after, by simp⟩

end Text

namespace ChangeSet

/-! ## The attribution -/

def isUuidCharacter (c : Char) : Bool := c.isDigit || ('a' ≤ c && c ≤ 'f') || c == '-'

/-- A UUID as it is displayed. -/
structure RequestId where
  text : Text
  length_eq : text.length = 36
  uuid : ∀ c ∈ text, isUuidCharacter c = true
  deriving DecidableEq

inductive ActorType where
  | human
  | agent
  | unknown
  deriving DecidableEq

structure AgentIdentity where
  provider : Text
  providerTier : Text
  modelId : Text
  deriving DecidableEq

/-- The attribution with everything the comment names. -/
structure FullAttribution extends Attribution where
  changeRef : Option Text
  onBehalfOf : Option Text
  actorType : ActorType
  agent : Option AgentIdentity
  requestId : RequestId
  deriving DecidableEq

def changeSetIdCommentPrefix : Nat := 16

def maxApproverInComment : Nat := 64

def ActorType.str : ActorType → Text
  | .human => "human".toList
  | .agent => "agent".toList
  | .unknown => "unknown".toList

def agentInfo : Option AgentIdentity → Text
  | some agent =>
      let model := if agent.modelId.isEmpty then [] else " model=".toList ++ agent.modelId
      " via ".toList ++ agent.provider ++ "-".toList ++ agent.providerTier ++ model
  | none => []

/-- A long name is cut and marked. -/
def approverInComment (approver : Text) : Text :=
  if maxApproverInComment < utf8Len approver then
    approver.take maxApproverInComment ++ "...".toList
  else approver

def approvalInfo (approver : Option Text) : Text :=
  (approver.map fun approver => " approved-by=".toList ++ approverInComment approver).getD []

def changeSetInfo (changeSetId : Option Text) : Text :=
  (changeSetId.map fun id => " change-set=".toList ++ id.take changeSetIdCommentPrefix).getD []

def formatAttribution (attribution : FullAttribution) : Text :=
  attribution.changeRef.getD "no-change-ref".toList ++ " by ".toList ++ attribution.principal ++
    " (".toList ++ attribution.actorType.str ++ ") on-behalf-of=".toList ++
    attribution.onBehalfOf.getD "self".toList ++ agentInfo attribution.agent ++
    " ".toList ++ requestIdKey ++ attribution.requestId.text ++ approvalInfo attribution.approver ++
    changeSetInfo attribution.changeSetId

/-! ## The words of the comment -/

def agentFields : Option AgentIdentity → List Text
  | some agent => [agent.provider ++ "-".toList ++ agent.providerTier, agent.modelId]
  | none => []

/-- The texts in the comment that are not the formatter's own, the request id apart. -/
def FullAttribution.fields (attribution : FullAttribution) : List Text :=
  [attribution.changeRef.getD "no-change-ref".toList, attribution.principal,
    attribution.onBehalfOf.getD "self".toList] ++ agentFields attribution.agent ++
    (attribution.approver.map approverInComment).toList ++
    (attribution.changeSetId.map (·.take changeSetIdCommentPrefix)).toList

def agentWords : Option AgentIdentity → List Text
  | some agent => ["via".toList, agent.provider ++ "-".toList ++ agent.providerTier] ++
      if agent.modelId.isEmpty then [] else ["model=".toList ++ agent.modelId]
  | none => []

def laterWords (attribution : FullAttribution) : List Text :=
  ["by".toList, attribution.principal, "(".toList ++ attribution.actorType.str ++ ")".toList,
    "on-behalf-of=".toList ++ attribution.onBehalfOf.getD "self".toList] ++
    agentWords attribution.agent ++ [needle attribution.requestId.text] ++
    (attribution.approver.map fun approver =>
      "approved-by=".toList ++ approverInComment approver).toList ++
    (attribution.changeSetId.map fun id =>
      "change-set=".toList ++ id.take changeSetIdCommentPrefix).toList

theorem formatAttribution_words (attribution : FullAttribution) :
    formatAttribution attribution =
      Text.joined ' ' (attribution.changeRef.getD "no-change-ref".toList)
        (laterWords attribution) := by
  have agentPart : agentInfo attribution.agent =
      (agentWords attribution.agent).flatMap fun text => ' ' :: text := by
    cases attribution.agent with
    | none => rfl
    | some agent =>
        unfold agentInfo agentWords
        by_cases named : agent.modelId.isEmpty = true <;> simp [named]
  have approvalPart : approvalInfo attribution.approver =
      (attribution.approver.map fun approver =>
        "approved-by=".toList ++ approverInComment approver).toList.flatMap
          fun text => ' ' :: text := by
    cases attribution.approver <;> simp [approvalInfo]
  have changeSetPart : changeSetInfo attribution.changeSetId =
      (attribution.changeSetId.map fun id =>
        "change-set=".toList ++ id.take changeSetIdCommentPrefix).toList.flatMap
          fun text => ' ' :: text := by
    cases attribution.changeSetId <;> simp [changeSetInfo]
  rw [formatAttribution, Text.joined, laterWords, agentPart, approvalPart, changeSetPart]
  simp [needle]

section Needle
variable (sought : RequestId)

theorem needle_length : (needle sought.text).length = 47 := by
  rw [needle, List.length_append, sought.length_eq]
  rfl

theorem needle_apart {c : Char} (literal : c ∉ requestIdKey)
    (other : isUuidCharacter c = false) : c ∉ needle sought.text := by
  intro member
  rcases List.mem_append.mp member with inLiteral | inId
  · exact literal inLiteral
  · have uuid := sought.uuid c inId
    rw [other] at uuid
    cases uuid

theorem uuid_visible {c : Char} (uuid : isUuidCharacter c = true) : Text.isWhitespace c = false := by
  simp only [isUuidCharacter, Bool.or_eq_true, Bool.and_eq_true, decide_eq_true_eq,
    beq_iff_eq] at uuid
  rcases uuid with (digit | ⟨low, high⟩) | rfl
  · exact Text.digit_visible digit
  · have from_a : 97 ≤ c.toNat := low
    have to_f : c.toNat ≤ 102 := high
    simp only [Text.isWhitespace, Bool.or_eq_false_iff, Bool.and_eq_false_iff,
      decide_eq_false_iff_not, beq_eq_false_iff_ne]
    omega
  · rfl

theorem needle_last : ∃ front last, needle sought.text = front ++ [last] ∧
    Text.isWhitespace last = false := by
  have some_char : sought.text ≠ [] := by
    intro empty
    have counted := sought.length_eq
    rw [empty] at counted
    cases counted
  have whole := List.dropLast_concat_getLast some_char
  refine ⟨needle sought.text.dropLast, sought.text.getLast some_char, ?_,
    uuid_visible (sought.uuid _ (List.getLast_mem some_char))⟩
  rw [needle, needle, List.append_assoc, whole]

/-- A text shorter than the needle does not hold it. -/
theorem contains_short {text : Text} (short : text.length < 47) :
    Text.contains text (needle sought.text) = false := by
  by_contra holds
  rw [Bool.not_eq_false] at holds
  have bound := Text.length_le_of_contains holds
  rw [needle_length] at bound
  omega

/-- The formatter's words in front of a value start no needle. -/
theorem contains_valued {key : Text} (apart : 'r' ∉ key) (value : Text) :
    Text.contains (key ++ value) (needle sought.text) =
      Text.contains value (needle sought.text) :=
  Text.contains_behind apart value

theorem contains_approved (value : Text) :
    Text.contains ("approved-by=".toList ++ value) (needle sought.text) =
      Text.contains value (needle sought.text) := by
  have apart : 'v' ∉ needle sought.text := needle_apart sought (by decide) rfl
  have split : "approved-by=".toList ++ value =
      "appro".toList ++ 'v' :: ("ed-by=".toList ++ value) := rfl
  rw [split, Text.contains_separated apart, contains_short sought (by decide), Bool.false_or]
  exact contains_valued sought (by decide) value

/-- One id stands in another's place only if it is the same. -/
theorem contains_needle (own : RequestId) :
    Text.contains (needle own.text) (needle sought.text) = decide (sought = own) := by
  rw [Bool.eq_iff_iff, decide_eq_true_eq, Text.contains_iff]
  constructor
  · rintro ⟨before, after, split⟩
    have counted := congrArg List.length split
    rw [List.length_append, List.length_append, needle_length, needle_length] at counted
    have front : before = [] := List.length_eq_zero_iff.mp (by omega)
    have back : after = [] := List.length_eq_zero_iff.mp (by omega)
    rw [front, back, List.nil_append, List.append_nil] at split
    have same := List.append_cancel_left split
    cases sought
    cases own
    cases same
    rfl
  · rintro rfl
    exact ⟨[], [], by simp⟩

end Needle

/-- The comment holds an id where one of its fields does, or where its own id stands. -/
theorem comment_contains (sought : RequestId) (attribution : FullAttribution) :
    Text.contains (formatAttribution attribution) (needle sought.text) =
      (attribution.fields.any (fun field => Text.contains field (needle sought.text)) ||
        decide (sought = attribution.requestId)) := by
  have apart : ' ' ∉ needle sought.text := needle_apart sought (by decide) rfl
  have by_ : Text.contains "by".toList (needle sought.text) = false :=
    contains_short sought (by decide)
  have actor : Text.contains ("(".toList ++ attribution.actorType.str ++ ")".toList)
      (needle sought.text) = false := by
    refine contains_short sought ?_
    cases attribution.actorType <;> decide
  have onBehalf (value : Text) := contains_valued sought (by decide : 'r' ∉ "on-behalf-of=".toList)
    value
  have agent : (agentWords attribution.agent).any
      (fun text => Text.contains text (needle sought.text)) =
        (agentFields attribution.agent).any
          fun text => Text.contains text (needle sought.text) := by
    have via : Text.contains "via".toList (needle sought.text) = false :=
      contains_short sought (by decide)
    have empty : Text.contains [] (needle sought.text) = false :=
      contains_short sought (by decide)
    have model (value : Text) := contains_valued sought (by decide : 'r' ∉ "model=".toList) value
    cases attribution.agent with
    | none => rfl
    | some agent =>
        obtain ⟨provider, providerTier, modelId⟩ := agent
        unfold agentWords agentFields
        cases modelId with
        | nil =>
            simp only [List.isEmpty_nil, if_true, List.append_nil, List.any_cons, List.any_nil,
              via, empty, Bool.false_or]
        | cons c rest =>
            simp only [List.isEmpty_cons, Bool.false_eq_true, if_false, List.cons_append,
              List.nil_append, List.any_cons, List.any_nil, via, model, Bool.false_or]
  have approved : ((attribution.approver.map fun approver =>
      "approved-by=".toList ++ approverInComment approver).toList.any
        fun text => Text.contains text (needle sought.text)) =
      (attribution.approver.map approverInComment).toList.any
        fun text => Text.contains text (needle sought.text) := by
    cases attribution.approver with
    | none => rfl
    | some approver => simp only [Option.map_some, Option.toList_some, List.any_cons,
        contains_approved]
  have changed : ((attribution.changeSetId.map fun id =>
      "change-set=".toList ++ id.take changeSetIdCommentPrefix).toList.any
        fun text => Text.contains text (needle sought.text)) =
      (attribution.changeSetId.map (·.take changeSetIdCommentPrefix)).toList.any
        fun text => Text.contains text (needle sought.text) := by
    cases attribution.changeSetId with
    | none => rfl
    | some id => simp only [Option.map_some, Option.toList_some, List.any_cons,
        contains_valued sought (by decide : 'r' ∉ "change-set=".toList)]
  rw [formatAttribution_words, Text.contains_joined apart]
  unfold laterWords FullAttribution.fields
  simp only [List.any_cons, List.any_append, List.any_nil, by_, actor, onBehalf, agent, approved,
    changed, contains_needle, Bool.false_or, Bool.or_false]
  cases decide (sought = attribution.requestId) <;> simp [Bool.or_assoc]

/-! ## The entry of a comment -/

/-- What the device prints above a comment, without the line break. -/
structure EntryHeader where
  text : Text
  numbered : Numbered text
  oneLine : ∀ c ∈ text, c ≠ '\n' ∧ c ≠ '\r'

theorem chomp_line (line : Text) :
    Text.chomp (line ++ ['\n']) = Text.finishLine line.reverse := by
  rw [Text.chomp, List.reverse_append]
  rfl

theorem EntryHeader.chomp_eq (header : EntryHeader) :
    Text.chomp (header.text ++ ['\n']) = header.text := by
  rw [chomp_line, Text.finishLine.eq_def]
  split
  · rename_i reversed ends
    have member : '\r' ∈ header.text.reverse := ends ▸ List.mem_cons_self
    exact absurd rfl (header.oneLine _ (List.mem_reverse.mp member)).2
  · exact List.reverse_reverse _

def commentLines (comment : Text) : List Text :=
  (Text.splitLines comment).1 :: (Text.splitLines comment).2

/-- Each line of the comment is indented below the header. -/
def printedEntry (header : EntryHeader) (comment : Text) : LogEntry where
  header := header.text ++ ['\n']
  continuation := (commentLines comment).map fun line => "    ".toList ++ line ++ ['\n']
  numbered := by
    rw [header.chomp_eq]
    exact header.numbered
  indented := by
    intro line member
    obtain ⟨body, _, rfl⟩ := List.mem_map.mp member
    exact ⟨_, rfl⟩

theorem inclusiveLinesFrom_line_eq {reversed body rest : Text} (unbroken : '\n' ∉ body) :
    Text.inclusiveLinesFrom reversed (body ++ '\n' :: rest) =
      (reversed.reverse ++ body ++ ['\n']) :: Text.inclusiveLinesFrom [] rest := by
  induction body generalizing reversed with
  | nil => simp [Text.inclusiveLinesFrom]
  | cons c body ih =>
      simp only [List.mem_cons, not_or] at unbroken
      have whole : ¬(c == '\n') = true := by simpa using Ne.symm unbroken.1
      rw [List.cons_append, Text.inclusiveLinesFrom, if_neg whole, ih unbroken.2]
      simp

theorem inclusiveLines_lines {bodies : List Text} (unbroken : ∀ body ∈ bodies, '\n' ∉ body) :
    Text.inclusiveLines (bodies.map (· ++ ['\n'])).flatten = bodies.map (· ++ ['\n']) := by
  induction bodies with
  | nil => rfl
  | cons body bodies ih =>
      rw [List.forall_mem_cons] at unbroken
      have first := @inclusiveLinesFrom_line_eq [] body (bodies.map (· ++ ['\n'])).flatten
        unbroken.1
      rw [List.map_cons, List.flatten_cons, List.append_assoc, List.singleton_append,
        Text.inclusiveLines, first, ← Text.inclusiveLines, ih unbroken.2]
      rfl

theorem printedEntry_isLog (header : EntryHeader) (comment : Text) :
    IsLog (printedEntry header comment).text [printedEntry header comment] := by
  have lines : (printedEntry header comment).lines =
      (header.text :: (commentLines comment).map ("    ".toList ++ ·)).map (· ++ ['\n']) := by
    rw [LogEntry.lines, List.map_cons, List.map_map]
    rfl
  have unbroken : ∀ body ∈ header.text :: (commentLines comment).map ("    ".toList ++ ·),
      '\n' ∉ body := by
    rw [List.forall_mem_cons]
    refine ⟨fun broken => (header.oneLine _ broken).1 rfl, ?_⟩
    intro body member broken
    obtain ⟨line, listed, rfl⟩ := List.mem_map.mp member
    rcases List.mem_append.mp broken with indent | inside
    · exact absurd indent (by decide)
    · exact Text.splitLines_unbroken comment line listed inside
  rw [IsLog, List.flatMap_cons, List.flatMap_nil, List.append_nil, LogEntry.text, lines]
  exact inclusiveLines_lines unbroken

theorem printedEntry_carries (header : EntryHeader) (comment : Text) (sought : RequestId) :
    (printedEntry header comment).carries sought.text =
      (Text.contains header.text (needle sought.text) ||
        Text.contains comment (needle sought.text)) := by
  have apart : '\n' ∉ needle sought.text := needle_apart sought (by decide) rfl
  have printed (line : Text) :
      Text.contains (Text.chomp ("    ".toList ++ line ++ ['\n'])) (needle sought.text) =
        Text.contains line (needle sought.text) := by
    obtain ⟨front, last, whole, visible⟩ := needle_last sought
    obtain ⟨ending, finished, blank⟩ := finishLine_append ("    ".toList ++ line).reverse
    rw [List.reverse_reverse] at finished
    calc
      Text.contains (Text.chomp ("    ".toList ++ line ++ ['\n'])) (needle sought.text) =
          Text.contains (Text.finishLine ("    ".toList ++ line).reverse ++ ending)
            (needle sought.text) := by
        rw [chomp_line, whole, Text.contains_append_whitespace blank visible]
      _ = Text.contains line (needle sought.text) := by
        rw [← finished]
        exact contains_valued sought (by decide) line
  have comments : Text.contains comment (needle sought.text) =
      (commentLines comment).any fun line => Text.contains line (needle sought.text) := by
    have joined := Text.contains_joined apart (Text.splitLines comment).1
      (Text.splitLines comment).2
    rw [Text.joined_splitLines] at joined
    exact joined
  rw [LogEntry.carries, LogEntry.lines, List.any_cons, comments]
  change (Text.contains (Text.chomp (header.text ++ ['\n'])) (needle sought.text) ||
    ((commentLines comment).map fun line => "    ".toList ++ line ++ ['\n']).any
      fun line => Text.contains (Text.chomp line) (needle sought.text)) = _
  rw [header.chomp_eq, List.any_map]
  simp only [Function.comp_def, printed]

/-! ## Forged ids -/

theorem comment_found (sought : RequestId) (attribution : FullAttribution) (header : EntryHeader) :
    (commitEntryForRequestId (printedEntry header (formatAttribution attribution)).text
        sought.text).isSome =
      ((header.text :: attribution.fields).any
          (fun field => Text.contains field (needle sought.text)) ||
        decide (sought = attribution.requestId)) := by
  have some_id : sought.text.isEmpty = false := by
    have counted := sought.length_eq
    cases text : sought.text with
    | nil =>
        rw [text] at counted
        cases counted
    | cons c rest => rfl
  have carried := printedEntry_carries header (formatAttribution attribution) sought
  rw [comment_contains] at carried
  rw [commitEntry_eq (printedEntry_isLog header _), some_id, List.find?_cons, carried,
    List.any_cons]
  cases Text.contains header.text (needle sought.text) <;>
    cases attribution.fields.any (fun field => Text.contains field (needle sought.text)) <;>
      cases decide (sought = attribution.requestId) <;> rfl

/-- The entry of a commit is found by exactly its own request id, if and only if it is looked up by
its own id or no text next to its own id carries the other one. -/
theorem comment_matched_iff (a b : FullAttribution) (header : EntryHeader) :
    ((commitEntryForRequestId (printedEntry header (formatAttribution b)).text
        a.requestId.text).isSome = true ↔ a.requestId = b.requestId) ↔
      (a.requestId = b.requestId ∨ ∀ field ∈ header.text :: b.fields,
        Text.contains field (needle a.requestId.text) = false) := by
  have clean : (∀ field ∈ header.text :: b.fields,
      Text.contains field (needle a.requestId.text) = false) ↔
        (header.text :: b.fields).any (fun field =>
          Text.contains field (needle a.requestId.text)) = false := by
    rw [List.any_eq_false]
    simp only [Bool.not_eq_true]
  rw [comment_found, clean]
  by_cases same : a.requestId = b.requestId
  · simp [same]
  · cases (header.text :: b.fields).any (fun field =>
        Text.contains field (needle a.requestId.text)) <;> simp [same]

/-! ## One forged reference -/

def victimId : RequestId where
  text := "550e8400-e29b-41d4-a716-446655440000".toList
  length_eq := by decide
  uuid := List.all_eq_true.mp rfl

def otherId : RequestId where
  text := "00000000-dead-4bee-8000-ffffffffffff".toList
  length_eq := by decide
  uuid := List.all_eq_true.mp rfl

def forger : FullAttribution where
  principal := "ci".toList
  changeSetId := none
  approver := none
  changeRef := some (needle victimId.text)
  onBehalfOf := none
  actorType := .agent
  agent := none
  requestId := otherId

def victim : FullAttribution := { forger with changeRef := none, requestId := victimId }

def plainHeader : EntryHeader where
  text := "0   2026-09-03 17:03:08 UTC by netconf via netconf".toList
  numbered := ⟨"0".toList, ' ', "  2026-09-03 17:03:08 UTC by netconf via netconf".toList, rfl,
    by simp, by simp, rfl⟩
  oneLine := by simp

/-- A change reference that names another request's id is found as that request's commit. -/
theorem change_ref_forges_commit :
    ¬((commitEntryForRequestId (printedEntry plainHeader (formatAttribution forger)).text
        victim.requestId.text).isSome = true ↔ victim.requestId = forger.requestId) := by
  have differ : victim.requestId ≠ forger.requestId := by decide
  have forged : (plainHeader.text :: forger.fields).any
      (fun field => Text.contains field (needle victim.requestId.text)) = true :=
    List.any_eq_true.mpr ⟨needle victimId.text, by simp [FullAttribution.fields, forger],
      Text.contains_iff.mpr ⟨[], [], by simp [victim]⟩⟩
  rw [comment_found, forged]
  simp [differ]

/-! ## The length of the comment -/

/-- The characters Junos accepts in a commit comment. -/
def maxCommitComment : Nat := 512

/-- What the agent takes of the comment. -/
def agentSpace : Option AgentIdentity → Nat
  | none => 0
  | some agent => 5 + agent.provider.length + 1 + agent.providerTier.length +
      if agent.modelId.isEmpty then 0 else 7 + agent.modelId.length

/-- A long name takes the place of its first characters and of the mark. -/
def approverSpace : Option Text → Nat
  | none => 0
  | some approver => 13 +
      if maxApproverInComment < utf8Len approver then min maxApproverInComment approver.length + 3
      else approver.length

def changeSetSpace : Option Text → Nat
  | none => 0
  | some id => 12 + min changeSetIdCommentPrefix id.length

def ActorType.space : ActorType → Nat
  | .human => 5
  | .agent => 5
  | .unknown => 7

/-- What the texts of the attribution take, and the words between them. -/
def FullAttribution.space (attribution : FullAttribution) : Nat :=
  (attribution.changeRef.map List.length).getD 13 + 4 + attribution.principal.length + 2 +
    attribution.actorType.space + 15 + (attribution.onBehalfOf.map List.length).getD 4 +
    agentSpace attribution.agent + 48 + approverSpace attribution.approver +
    changeSetSpace attribution.changeSetId

theorem agentInfo_length (agent : Option AgentIdentity) :
    (agentInfo agent).length = agentSpace agent := by
  cases agent with
  | none => rfl
  | some agent =>
      unfold agentInfo agentSpace
      by_cases unnamed : agent.modelId.isEmpty = true <;> simp [unnamed] <;> omega

theorem approvalInfo_length (approver : Option Text) :
    (approvalInfo approver).length = approverSpace approver := by
  cases approver with
  | none => rfl
  | some approver =>
      by_cases long : maxApproverInComment < utf8Len approver <;>
        simp [approvalInfo, approverInComment, approverSpace, long] <;> omega

theorem changeSetInfo_length (changeSetId : Option Text) :
    (changeSetInfo changeSetId).length = changeSetSpace changeSetId := by
  cases changeSetId with
  | none => rfl
  | some id =>
      simp [changeSetInfo, changeSetSpace]
      omega

theorem formatAttribution_length (attribution : FullAttribution) :
    (formatAttribution attribution).length = attribution.space := by
  have reference : (attribution.changeRef.getD "no-change-ref".toList).length =
      (attribution.changeRef.map List.length).getD 13 := by
    cases attribution.changeRef <;> rfl
  have behalf : (attribution.onBehalfOf.getD "self".toList).length =
      (attribution.onBehalfOf.map List.length).getD 4 := by
    cases attribution.onBehalfOf <;> rfl
  have actor : attribution.actorType.str.length = attribution.actorType.space := by
    cases attribution.actorType <;> rfl
  have words : " by ".toList.length = 4 ∧ " (".toList.length = 2 ∧
      ") on-behalf-of=".toList.length = 15 ∧ " ".toList.length = 1 ∧ requestIdKey.length = 11 :=
    ⟨rfl, rfl, rfl, rfl, rfl⟩
  obtain ⟨by_, bracket, onBehalf, space, key⟩ := words
  simp only [formatAttribution, List.length_append, reference, behalf, actor, agentInfo_length,
    approvalInfo_length, changeSetInfo_length, by_, bracket, onBehalf, space, key,
    attribution.requestId.length_eq, FullAttribution.space]

theorem formatAttribution_carries (attribution : FullAttribution) :
    Text.contains (formatAttribution attribution) (needle attribution.requestId.text) = true := by
  rw [comment_contains, decide_eq_true rfl, Bool.or_true]

/-- The request id is always whole in the comment, which is accepted exactly when the texts of the
attribution leave room for it. -/
theorem comment_fits_iff (attribution : FullAttribution) :
    ((formatAttribution attribution).length ≤ maxCommitComment ∧
        Text.contains (formatAttribution attribution) (needle attribution.requestId.text) = true) ↔
      attribution.space ≤ maxCommitComment := by
  rw [formatAttribution_length]
  exact and_iff_left (formatAttribution_carries attribution)

def longReference : FullAttribution := { forger with changeRef := some (List.replicate 512 'x') }

/-- A change reference as long as the limit leaves no room for the rest. -/
theorem long_reference_exceeds :
    ¬∀ attribution : FullAttribution, (formatAttribution attribution).length ≤ maxCommitComment ∧
      Text.contains (formatAttribution attribution) (needle attribution.requestId.text) = true := by
  intro fits
  have bound := (fits longReference).1
  rw [formatAttribution_length] at bound
  have reference : (longReference.changeRef.map List.length).getD 13 = 512 :=
    List.length_replicate
  rw [FullAttribution.space, reference, maxCommitComment] at bound
  omega

end ChangeSet
end JunosMcp
