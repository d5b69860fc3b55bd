import JunosMcp.Text

/-!
# The commit log

`show system commit` prints an entry as a numbered header and its comment on indented lines below.
The entry of a request is found by the text `request.id=<id>` on one of its lines.
-/

namespace JunosMcp

namespace Text

def trimStart (text : Text) : Text := text.dropWhile isWhitespace

def trimEnd (text : Text) : Text := (text.reverse.dropWhile isWhitespace).reverse

/-- `split_once(char::is_whitespace)`. -/
def splitOnceWhitespace (text : Text) : Option (Text × Text) :=
  match text.dropWhile fun c => !isWhitespace c with
  | [] => none
  | _ :: after => some (text.takeWhile fun c => !isWhitespace c, after)

/-- Each line of `lines` with its offset, the open line in reverse. -/
def lineOffsetsFrom (start : Nat) (reversed : Text) : Text → List (Nat × Text)
  | [] => if reversed.isEmpty then [] else [(start, reversed.reverse)]
  | c :: rest =>
      if c == '\n' then
        (start, finishLine reversed) :: lineOffsetsFrom (start + reversed.length + 1) [] rest
      else lineOffsetsFrom start (c :: reversed) rest

def lineOffsets (text : Text) : List (Nat × Text) := lineOffsetsFrom 0 [] text

/-- `split_inclusive('\n')`, the open line in reverse. -/
def inclusiveLinesFrom (reversed : Text) : Text → List Text
  | [] => if reversed.isEmpty then [] else [reversed.reverse]
  | c :: rest =>
      if c == '\n' then (c :: reversed).reverse :: inclusiveLinesFrom [] rest
      else inclusiveLinesFrom (c :: reversed) rest

def inclusiveLines (text : Text) : List Text := inclusiveLinesFrom [] text

/-- A line without its ending. -/
def chomp (line : Text) : Text :=
  match line.reverse with
  | '\n' :: reversed => finishLine reversed
  | reversed => reversed.reverse

/-- The offsets of lines that follow each other. -/
def locate (start : Nat) : List Text → List (Nat × Text)
  | [] => []
  | line :: rest => (start, chomp line) :: locate (start + line.length) rest

theorem contains_iff {text needle : Text} :
    contains text needle = true ↔ ∃ before after, text = before ++ needle ++ after := by
  constructor
  · intro holds
    rw [contains, Option.isSome_iff_exists] at holds
    obtain ⟨after, found⟩ := holds
    obtain ⟨before, split⟩ := findAfter_eq_some found
    exact ⟨before, after, split⟩
  · rintro ⟨before, after, rfl⟩
    exact contains_append before needle after

theorem inclusiveLinesFrom_flatten (reversed text : Text) :
    (inclusiveLinesFrom reversed text).flatten = reversed.reverse ++ text := by
  induction text generalizing reversed with
  | nil =>
      cases reversed with
      | nil => rfl
      | cons c reversed => simp [inclusiveLinesFrom]
  | cons c rest ih =>
      rw [inclusiveLinesFrom]
      split
      · rw [List.flatten_cons, ih]
        simp
      · rw [ih]
        simp

theorem inclusiveLines_flatten (text : Text) : (inclusiveLines text).flatten = text :=
  inclusiveLinesFrom_flatten [] text

/-- An open line holds no line break. -/
theorem chomp_open {reversed : Text} (unbroken : '\n' ∉ reversed) :
    chomp reversed.reverse = reversed.reverse := by
  rw [chomp, List.reverse_reverse]
  split
  · exact absurd List.mem_cons_self unbroken
  · rfl

/-- What `lines` takes off the end of a line. -/
theorem chomp_ending (line : Text) : ∃ ending, line = chomp line ++ ending ∧
    (ending = [] ∨ ending = ['\n'] ∨ ending = ['\r', '\n']) := by
  rw [chomp]
  split
  · rename_i reversed ends
    have whole : line = reversed.reverse ++ ['\n'] := by
      rw [← List.reverse_reverse line, ends, List.reverse_cons]
    rw [finishLine.eq_def]
    split
    · refine ⟨['\r', '\n'], ?_, .inr (.inr rfl)⟩
      rw [whole, List.reverse_cons, List.append_assoc]
      rfl
    · exact ⟨['\n'], whole, .inr (.inl rfl)⟩
  · exact ⟨[], by simp, .inl rfl⟩

/-- Whitespace behind a text holds no needle that ends in a visible character. -/
theorem contains_append_whitespace {text blank needle : Text} {last : Char}
    (blanks : ∀ c ∈ blank, isWhitespace c = true) (visible : isWhitespace last = false) :
    contains (text ++ blank) (needle ++ [last]) = contains text (needle ++ [last]) := by
  rw [Bool.eq_iff_iff, contains_iff, contains_iff]
  constructor
  · rintro ⟨before, after, split⟩
    have joined : text ++ blank = (before ++ needle) ++ last :: after := by simp [split]
    rcases List.append_eq_append_iff.mp joined with ⟨gap, inside, tail⟩ | ⟨gap, inside, tail⟩
    · have found := blanks last (by simp [tail])
      rw [visible] at found
      cases found
    · cases gap with
      | nil =>
          rw [List.nil_append] at tail
          have found := blanks last (by simp [← tail])
          rw [visible] at found
          cases found
      | cons c gap =>
          obtain ⟨rfl, rest⟩ := List.cons.inj tail
          exact ⟨before, gap, by simp [inside]⟩
  · rintro ⟨before, after, rfl⟩
    exact ⟨before, after ++ blank, by simp⟩

theorem trimEnd_append (text : Text) :
    ∃ blank, text = trimEnd text ++ blank ∧ ∀ c ∈ blank, isWhitespace c = true := by
  refine ⟨(text.reverse.takeWhile isWhitespace).reverse, ?_, ?_⟩
  · rw [trimEnd, ← List.reverse_append, List.takeWhile_append_dropWhile, List.reverse_reverse]
  · intro c member
    exact List.all_eq_true.mp List.all_takeWhile c (List.mem_reverse.mp member)

/-- Every line but the last is ended by its only line break. -/
theorem inclusiveLinesFrom_line {reversed text line : Text} {before after : List Text}
    (unbroken : '\n' ∉ reversed) (split : inclusiveLinesFrom reversed text = before ++ line :: after) :
    ∃ body, '\n' ∉ body ∧ (line = body ++ ['\n'] ∨ line = body ∧ after = []) := by
  induction text generalizing reversed before with
  | nil =>
      rw [inclusiveLinesFrom] at split
      split at split
      · cases before <;> cases split
      · cases before with
        | nil =>
            cases split
            exact ⟨_, by simpa using unbroken, .inr ⟨rfl, rfl⟩⟩
        | cons head tail => cases tail <;> cases split
  | cons c rest ih =>
      rw [inclusiveLinesFrom] at split
      split at split
      · rename_i broken
        have ending : c = '\n' := by simpa using broken
        subst ending
        cases before with
        | nil =>
            cases split
            exact ⟨reversed.reverse, by simpa using unbroken, .inl (by simp)⟩
        | cons head tail => exact ih List.not_mem_nil (List.cons.inj split).2
      · rename_i whole
        refine ih ?_ split
        simp only [List.mem_cons, not_or]
        exact ⟨fun ending => whole (by simp [← ending]), unbroken⟩

theorem lines_open {reversed text : Text} (unbroken : '\n' ∉ text) :
    linesFrom reversed text =
      if (reversed.reverse ++ text).isEmpty then [] else [reversed.reverse ++ text] := by
  induction text generalizing reversed with
  | nil => simp [linesFrom]
  | cons c rest ih =>
      simp only [List.mem_cons, not_or] at unbroken
      have whole : ¬(c == '\n') = true := by simpa using Ne.symm unbroken.1
      rw [linesFrom, if_neg whole, ih unbroken.2]
      simp

theorem lines_broken {reversed body rest : Text} (unbroken : '\n' ∉ body) :
    linesFrom reversed (body ++ '\n' :: rest) =
      finishLine (body.reverse ++ reversed) :: linesFrom [] rest := by
  induction body generalizing reversed with
  | nil => simp [linesFrom]
  | cons c body ih =>
      simp only [List.mem_cons, not_or] at unbroken
      have whole : ¬(c == '\n') = true := by simpa using Ne.symm unbroken.1
      rw [List.cons_append, linesFrom, if_neg whole, ih unbroken.2]
      simp

theorem lineOffsetsFrom_eq {start : Nat} {reversed text : Text} (unbroken : '\n' ∉ reversed) :
    lineOffsetsFrom start reversed text = locate start (inclusiveLinesFrom reversed text) := by
  induction text generalizing start reversed with
  | nil =>
      rw [lineOffsetsFrom, inclusiveLinesFrom]
      split
      · rfl
      · rw [locate, chomp_open unbroken, locate]
  | cons c rest ih =>
      rw [lineOffsetsFrom, inclusiveLinesFrom]
      split
      · rename_i broken
        have line : c = '\n' := by simpa using broken
        subst line
        rw [locate, ih (List.not_mem_nil), chomp]
        simp [Nat.add_assoc]
      · rename_i whole
        refine ih ?_
        simp only [List.mem_cons, not_or]
        exact ⟨fun line => whole (by simp [← line]), unbroken⟩

theorem lineOffsets_eq (text : Text) : lineOffsets text = locate 0 (inclusiveLines text) :=
  lineOffsetsFrom_eq List.not_mem_nil

end Text

namespace ChangeSet

/-! ## Finding the entry -/

def requestIdKey : Text := "request.id=".toList

def needle (requestId : Text) : Text := requestIdKey ++ requestId

/-- A line that starts with a number, and not with a space. -/
def isHeader (line : Text) : Bool :=
  (match Text.splitOnceWhitespace (Text.trimStart line) with
    | some (first, _) => !first.isEmpty && first.all Char.isDigit
    | none => false) && !Text.startsWith line " ".toList

/-- The loop over the lines that are left; a header after the hit ends the entry. -/
def scanLines (log needle : Text) :
    List (Nat × Text) → (start current : Option Nat) → (hit : Bool) → Option Text
  | [], start, _, hit => if hit then start.map fun from_ => Text.trimEnd (log.drop from_) else none
  | (offset, line) :: rest, start, current, hit =>
      if isHeader line && hit then
        start.map fun from_ => Text.trimEnd ((log.drop from_).take (offset - from_))
      else
        let current := if isHeader line then some offset else current
        if Text.contains line needle then scanLines log needle rest (current.or (some offset)) current true
        else scanLines log needle rest start current hit

def commitEntryForRequestId (commitLog requestId : Text) : Option Text :=
  if requestId.isEmpty then none
  else scanLines commitLog (needle requestId) (Text.lineOffsets commitLog) none none false

def entryIsConfirmedCommit (entry : Text) : Bool :=
  match Text.lines entry with
  | [] => false
  | header :: _ => Text.contains header "commit confirmed".toList

/-! ## A log of entries -/

/-- A number at column 0 and whitespace behind it. -/
def Numbered (line : Text) : Prop :=
  ∃ digits c tail, line = digits ++ c :: tail ∧ digits ≠ [] ∧ (∀ d ∈ digits, d.isDigit = true) ∧
    Text.isWhitespace c = true

/-- One entry, each line with its line ending. -/
structure LogEntry where
  header : Text
  continuation : List Text
  numbered : Numbered (Text.chomp header)
  indented : ∀ line ∈ continuation, ∃ rest, line = ' ' :: rest

namespace LogEntry

def lines (entry : LogEntry) : List Text := entry.header :: entry.continuation

def text (entry : LogEntry) : Text := entry.lines.flatten

/-- Some line of the entry has the request's id on it. -/
def carries (requestId : Text) (entry : LogEntry) : Bool :=
  entry.lines.any fun line => Text.contains (Text.chomp line) (needle requestId)

end LogEntry

/-- The log is the entries' lines one after the other. -/
def IsLog (log : Text) (entries : List LogEntry) : Prop :=
  Text.inclusiveLines log = entries.flatMap LogEntry.lines

theorem digit_not_whitespace {c : Char} (isDigit : c.isDigit = true) :
    Text.isWhitespace c = false := Text.digit_visible isDigit

theorem isHeader_of_numbered {line : Text} (numbered : Numbered line) : isHeader line = true := by
  obtain ⟨digits, c, tail, rfl, some_digit, all_digits, space⟩ := numbered
  have visible : ∀ d ∈ digits, Text.isWhitespace d = false :=
    fun d member => digit_not_whitespace (all_digits d member)
  obtain ⟨first, digits, rfl⟩ := List.exists_cons_of_ne_nil some_digit
  have firstVisible := visible first List.mem_cons_self
  have trimmed : Text.trimStart (first :: digits ++ c :: tail) = first :: digits ++ c :: tail := by
    simp [Text.trimStart, firstVisible]
  have split : Text.splitOnceWhitespace (first :: digits ++ c :: tail) =
      some (first :: digits, tail) := by
    have kept : (first :: digits ++ c :: tail).dropWhile (fun c => !Text.isWhitespace c) =
        c :: tail := by
      rw [List.dropWhile_append_of_pos (by simpa using visible)]
      simp [List.dropWhile, space]
    have taken : (first :: digits ++ c :: tail).takeWhile (fun c => !Text.isWhitespace c) =
        first :: digits := by
      rw [List.takeWhile_append_of_pos (by simpa using visible)]
      simp [List.takeWhile, space]
    rw [Text.splitOnceWhitespace, kept, taken]
  have unspaced : Text.startsWith (first :: digits ++ c :: tail) " ".toList = false := by
    cases starts : Text.startsWith (first :: digits ++ c :: tail) " ".toList with
    | false => rfl
    | true =>
        have same := Text.startsWith_head starts
        rw [← same] at firstVisible
        cases firstVisible
  rw [isHeader, trimmed, split, unspaced]
  simp only [Bool.not_false, Bool.and_true, List.isEmpty_cons, Bool.true_and]
  exact List.all_eq_true.mpr all_digits

theorem isHeader_indented {line rest : Text} (indented : line = ' ' :: rest) :
    isHeader (Text.chomp line) = false := by
  obtain ⟨ending, whole, kind⟩ := Text.chomp_ending line
  cases stripped : Text.chomp line with
  | nil =>
      rw [stripped, indented, List.nil_append] at whole
      rcases kind with rfl | rfl | rfl <;> cases whole
  | cons c tail =>
      rw [stripped, indented] at whole
      cases whole
      have spaced : Text.startsWith (' ' :: tail) " ".toList = true := rfl
      rw [isHeader, spaced]
      simp

/-! ## The scan, entry by entry -/

section Scan
variable {log sought : Text}

/-- Indented lines only look for the id; the entry they belong to starts at `from_`. -/
theorem scanLines_indented {lines more : List Text} {offset from_ : Nat} {hit : Bool}
    (indented : ∀ line ∈ lines, ∃ rest, line = ' ' :: rest) :
    scanLines log sought (Text.locate offset (lines ++ more)) (if hit then some from_ else none)
        (some from_) hit =
      scanLines log sought (Text.locate (offset + lines.flatten.length) more)
        (if hit || lines.any fun line => Text.contains (Text.chomp line) sought then some from_
          else none)
        (some from_) (hit || lines.any fun line => Text.contains (Text.chomp line) sought) := by
  induction lines generalizing offset hit with
  | nil => simp
  | cons line lines ih =>
      obtain ⟨rest, spaced⟩ := indented line List.mem_cons_self
      have later : ∀ line ∈ lines, ∃ rest, line = ' ' :: rest :=
        fun line member => indented line (List.mem_cons_of_mem _ member)
      have continued := @ih (offset + line.length)
        (hit || Text.contains (Text.chomp line) sought) later
      rw [List.cons_append, Text.locate, scanLines, isHeader_indented spaced, List.any_cons,
        List.flatten_cons, List.length_append, ← Nat.add_assoc, ← Bool.or_assoc, ← continued]
      cases hit <;> cases Text.contains (Text.chomp line) sought <;> simp

/-- After the hit the entry ends where the next one starts, or with the log. -/
theorem scanLines_found {before : Text} {entry : LogEntry} {entries : List LogEntry}
    (split : log = before ++ entry.text ++ (entries.flatMap LogEntry.lines).flatten) :
    scanLines log sought
        (Text.locate (before.length + entry.text.length) (entries.flatMap LogEntry.lines))
        (some before.length) (some before.length) true =
      some (Text.trimEnd entry.text) := by
  have dropped : log.drop before.length =
      entry.text ++ (entries.flatMap LogEntry.lines).flatten := by
    rw [split, List.append_assoc, List.drop_left]
  cases entries with
  | nil =>
      rw [List.flatMap_nil, Text.locate, scanLines]
      simp [dropped]
  | cons next entries =>
      rw [List.flatMap_cons, LogEntry.lines, List.cons_append, Text.locate, scanLines,
        isHeader_of_numbered next.numbered]
      simp [dropped]

theorem scanLines_entries {before : Text} {entries : List LogEntry} {current : Option Nat}
    {requestId : Text} (split : log = before ++ (entries.flatMap LogEntry.lines).flatten) :
    scanLines log (needle requestId)
        (Text.locate before.length (entries.flatMap LogEntry.lines)) none current false =
      (entries.find? (·.carries requestId)).map fun entry => Text.trimEnd entry.text := by
  induction entries generalizing before current with
  | nil => rfl
  | cons entry entries ih =>
      have parted : log = before ++ entry.text ++ (entries.flatMap LogEntry.lines).flatten := by
        rw [split, List.flatMap_cons, List.flatten_append, List.append_assoc]
        rfl
      have whole : entry.header.length + entry.continuation.flatten.length = entry.text.length := by
        simp [LogEntry.text, LogEntry.lines]
      have lines := @scanLines_indented log (needle requestId) entry.continuation
        (entries.flatMap LogEntry.lines) (before.length + entry.header.length) before.length
        (Text.contains (Text.chomp entry.header) (needle requestId)) entry.indented
      have carried : entry.carries requestId =
          (Text.contains (Text.chomp entry.header) (needle requestId) ||
            entry.continuation.any fun line =>
              Text.contains (Text.chomp line) (needle requestId)) := by
        rw [LogEntry.carries, LogEntry.lines, List.any_cons]
      rw [← carried, Nat.add_assoc, whole] at lines
      have header : scanLines log (needle requestId)
          (Text.locate before.length ((entry :: entries).flatMap LogEntry.lines)) none current
            false =
          scanLines log (needle requestId)
            (Text.locate (before.length + entry.text.length) (entries.flatMap LogEntry.lines))
            (if entry.carries requestId then some before.length else none) (some before.length)
            (entry.carries requestId) := by
        rw [← lines, List.flatMap_cons, LogEntry.lines, List.cons_append, Text.locate, scanLines,
          isHeader_of_numbered entry.numbered]
        cases Text.contains (Text.chomp entry.header) (needle requestId) <;> simp
      rw [header, List.find?_cons]
      cases entry.carries requestId with
      | true => exact scanLines_found parted
      | false =>
          have rest := @ih (before ++ entry.text) (some before.length) parted
          rw [List.length_append] at rest
          exact rest

end Scan

/-- The entry found is the first one with the id on one of its lines. -/
theorem commitEntry_eq {log : Text} {entries : List LogEntry} (isLog : IsLog log entries)
    (requestId : Text) : commitEntryForRequestId log requestId =
      if requestId.isEmpty then none
      else (entries.find? (·.carries requestId)).map fun entry => Text.trimEnd entry.text := by
  have split : log = [] ++ (entries.flatMap LogEntry.lines).flatten := by
    rw [List.nil_append, ← isLog, Text.inclusiveLines_flatten]
  rw [commitEntryForRequestId, Text.lineOffsets_eq, isLog]
  split
  · rfl
  · exact scanLines_entries split

/-! ## The entry's header -/

/-- A text of one line is marked as the line is. -/
theorem confirmed_open {text : Text} (unbroken : '\n' ∉ text) :
    entryIsConfirmedCommit text = Text.contains text "commit confirmed".toList := by
  rw [entryIsConfirmedCommit, Text.lines, Text.lines_open unbroken]
  cases text with
  | nil => rfl
  | cons c rest => rfl

theorem finishLine_append (reversed : Text) : ∃ ending,
    reversed.reverse = Text.finishLine reversed ++ ending ∧
      ∀ c ∈ ending, Text.isWhitespace c = true := by
  rw [Text.finishLine.eq_def]
  split
  · exact ⟨['\r'], by simp, by simp [Text.isWhitespace]⟩
  · exact ⟨[], by simp, by simp⟩

/-- Trimming the entry leaves the mark of its header as it is. -/
theorem entryIsConfirmedCommit_eq {log : Text} {entries : List LogEntry} {entry : LogEntry}
    (isLog : IsLog log entries) (member : entry ∈ entries) :
    entryIsConfirmedCommit (Text.trimEnd entry.text) =
      Text.contains (Text.chomp entry.header) "commit confirmed".toList := by
  obtain ⟨earlier, later, rfl⟩ := List.append_of_mem member
  have split : Text.inclusiveLinesFrom [] log = earlier.flatMap LogEntry.lines ++
      entry.header :: (entry.continuation ++ later.flatMap LogEntry.lines) := by
    rw [← Text.inclusiveLines, isLog]
    simp [LogEntry.lines]
  obtain ⟨blank, whole, blanks⟩ := Text.trimEnd_append entry.text
  have mark {text blank : Text} (blanks : ∀ c ∈ blank, Text.isWhitespace c = true) :
      Text.contains (text ++ blank) "commit confirmed".toList =
        Text.contains text "commit confirmed".toList :=
    @Text.contains_append_whitespace text blank "commit confirme".toList 'd' blanks rfl
  obtain ⟨body, unbroken, ends | ⟨same, last⟩⟩ :=
    Text.inclusiveLinesFrom_line List.not_mem_nil split
  · have text : entry.text = body ++ '\n' :: entry.continuation.flatten := by
      rw [LogEntry.text, LogEntry.lines, List.flatten_cons, ends, List.append_assoc]
      rfl
    have header : Text.chomp entry.header = Text.finishLine body.reverse := by
      rw [ends, Text.chomp, List.reverse_append]
      rfl
    have shorter {cut : Text} (inside : body = Text.trimEnd entry.text ++ cut)
        (blankCut : ∀ c ∈ cut, Text.isWhitespace c = true) :
        entryIsConfirmedCommit (Text.trimEnd entry.text) =
          Text.contains (Text.chomp entry.header) "commit confirmed".toList := by
      have opened : '\n' ∉ Text.trimEnd entry.text := by
        intro broken
        refine unbroken ?_
        rw [inside]
        exact List.mem_append_left _ broken
      obtain ⟨ending, finished, blankEnding⟩ := finishLine_append body.reverse
      rw [List.reverse_reverse] at finished
      calc
        entryIsConfirmedCommit (Text.trimEnd entry.text) =
            Text.contains (Text.trimEnd entry.text ++ cut) "commit confirmed".toList := by
          rw [confirmed_open opened, mark blankCut]
        _ = Text.contains (Text.finishLine body.reverse ++ ending) "commit confirmed".toList := by
          rw [← inside, ← finished]
        _ = Text.contains (Text.chomp entry.header) "commit confirmed".toList := by
          rw [mark blankEnding, header]
    rcases List.append_eq_append_iff.mp (text.symm.trans whole) with ⟨gap, trimmed, tail⟩ | ⟨gap, cut, tail⟩
    · cases gap with
      | nil =>
          rw [List.append_nil] at trimmed
          exact @shorter [] (by rw [trimmed, List.append_nil]) (by simp)
      | cons c gap =>
          obtain ⟨rfl, rest⟩ := List.cons.inj tail
          rw [trimmed, entryIsConfirmedCommit, Text.lines, Text.lines_broken unbroken, header]
          simp
    · refine shorter cut fun c member => blanks c ?_
      rw [tail]
      exact List.mem_append_left _ member
  · have alone : entry.continuation = [] := (List.append_eq_nil_iff.mp last).1
    have text : entry.text = body := by
      rw [LogEntry.text, LogEntry.lines, alone, same]
      simp
    have header : Text.chomp entry.header = body := by
      have opened := @Text.chomp_open body.reverse (by simpa using unbroken)
      rw [List.reverse_reverse] at opened
      rw [same, opened]
    have inside : '\n' ∉ Text.trimEnd entry.text := by
      intro broken
      refine unbroken ?_
      rw [← text, whole]
      exact List.mem_append_left _ broken
    rw [confirmed_open inside, header, ← mark blanks, ← whole, text]

end ChangeSet
end JunosMcp
