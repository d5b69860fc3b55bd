import JunosMcp.Text
import JunosMcp.Helpers

/-!
# Output of a command

`output.rs`: the pipe modifiers a command asks for, applied to the device's text, and the caps of
lines and of bytes. The regular expressions are a library's, which is a parameter: a pattern it
does not compile is searched for as it stands.
-/

namespace JunosMcp

def doubleQuote : Char := Char.ofNat 34

def singleQuote : Char := Char.ofNat 39

def backslash : Char := Char.ofNat 92

/-- Where the loop of `split_pipes` stands: inside quotes, behind a backslash there, or with
characters of a boundary still to skip. -/
structure PipeScan where
  inDouble : Bool
  inSingle : Bool
  escaped : Bool
  skip : Nat
  deriving DecidableEq

/-- `split_pipes` with the characters of the open segment in reverse. -/
def splitPipesFrom (scan : PipeScan) (current : Text) : Text → List Text
  | [] => if current.isEmpty then [] else [Text.trim current.reverse]
  | c :: rest =>
      if scan.escaped then splitPipesFrom { scan with escaped := false } (c :: current) rest
      else if scan.skip ≠ 0 then splitPipesFrom { scan with skip := scan.skip - 1 } current rest
      else if (scan.inDouble || scan.inSingle) && c == backslash && !rest.isEmpty then
        splitPipesFrom { scan with escaped := true } (c :: current) rest
      else if c == doubleQuote && !scan.inSingle then
        splitPipesFrom { scan with inDouble := !scan.inDouble } (c :: current) rest
      else if c == singleQuote && !scan.inDouble then
        splitPipesFrom { scan with inSingle := !scan.inSingle } (c :: current) rest
      else if !scan.inDouble && !scan.inSingle && c == ' ' && rest.take 2 == ['|', ' '] then
        Text.trim current.reverse :: splitPipesFrom { scan with skip := 2 } [] rest
      else splitPipesFrom scan (c :: current) rest

/-- Splits on the Junos pipe boundary, outside quotes. -/
def splitPipes (command : Text) : List Text := splitPipesFrom ⟨false, false, false, 0⟩ [] command

/-- One surrounding pair of quotes, if there is one. -/
def stripQuotes (s : Text) : Text :=
  let trimmed := Text.trim s
  match trimmed with
  | first :: rest =>
      if (first == doubleQuote || first == singleQuote) && rest.getLast? == some first then
        rest.dropLast
      else trimmed
  | [] => trimmed

/-- The first whitespace-delimited word, and the rest. -/
def splitFirstWord (s : Text) : Text × Text :=
  let trimmed := Text.trim s
  (trimmed.takeWhile fun c => !Text.isWhitespace c,
    Text.trim (trimmed.dropWhile fun c => !Text.isWhitespace c))

def digitOf (c : Char) : Nat := c.toNat - '0'.toNat

/-- `str::parse::<usize>`: decimal digits behind an optional plus sign, within 64 bits. -/
def parseUsize (text : Text) : Option Nat :=
  let digits := match text with
    | '+' :: rest => rest
    | _ => text
  if digits.isEmpty || !digits.all Char.isDigit then none
  else
    let value := digits.foldl (fun total c => total * 10 + digitOf c) 0
    if value < 2 ^ 64 then some value else none

def joinLines (lines : List Text) : Text := List.intercalate ['\n'] lines

/-- The lines with a newline behind each; none is the empty text. -/
def closeLines (lines : List Text) : Text :=
  if lines.isEmpty then [] else joinLines lines ++ ['\n']

/-- `regex::Regex::new`, and what the compiled expression matches. -/
abbrev Regexes := Text → Option (Text → Bool)

def lineFilter (regexes : Regexes) (pattern line : Text) : Bool :=
  match regexes pattern with
  | some isMatch => isMatch line
  | none => Text.contains line pattern

/-- A modifier that changes the output, as its segment reads. -/
inductive Modifier where
  | count
  | last (n : Nat)
  | matching (pattern : Text)
  | except (pattern : Text)
  deriving DecidableEq

/-- A `match` or `except` without a pattern is left alone, and so is any other segment. -/
def readModifier (segment : Text) : Option Modifier :=
  let (firstWord, remainder) := splitFirstWord (asciiLowercase segment)
  if firstWord == "count".toList then some .count
  else if firstWord == "last".toList then (parseUsize (Text.trim remainder)).map .last
  else if firstWord == "match".toList then
    if remainder.isEmpty then none else some (.matching (stripQuotes (splitFirstWord segment).2))
  else if firstWord == "except".toList then
    if remainder.isEmpty then none else some (.except (stripQuotes (splitFirstWord segment).2))
  else none

def countText (n : Nat) : Text :=
  "Count: ".toList ++ (Nat.repr n).toList ++ " lines".toList ++ ['\n']

/-- What a modifier makes of the lines. -/
def Modifier.apply (regexes : Regexes) (modifier : Modifier) (lines : List Text) : Text :=
  match modifier with
  | .count => countText lines.length
  | .last n =>
      let kept := joinLines (lines.drop (lines.length - n))
      if kept.isEmpty then [] else kept ++ ['\n']
  | .matching pattern => closeLines (lines.filter (lineFilter regexes pattern))
  | .except pattern => closeLines (lines.filter fun line => !lineFilter regexes pattern line)

def applySegment (regexes : Regexes) (out segment : Text) : Text :=
  match readModifier segment with
  | some modifier => modifier.apply regexes (Text.lines out)
  | none => out

/-- The modifiers behind the command itself, from left to right. -/
def applyPipeModifiers (regexes : Regexes) (command raw : Text) : Text :=
  (splitPipes command).tail.foldl (applySegment regexes) raw

/-! ## Caps -/

structure OutputCaps where
  maxLines : Option Nat
  maxBytes : Option Nat
  tail : Bool
  deriving DecidableEq

def ellipsis : Char := Char.ofNat 0x2026

def utf8Len (text : Text) : Nat := (text.map Char.utf8Size).sum

def byteMarker (omitted : Nat) : Text :=
  ellipsis :: " (truncated, ".toList ++ (Nat.repr omitted).toList ++ " bytes omitted)".toList

def lineMarker (more : Nat) : Text :=
  ellipsis :: " (truncated, ".toList ++ (Nat.repr more).toList ++ " more lines)".toList

/-- The marker counts against the budget, and a cut falls on a character boundary. -/
def applyByteCap (s : Text) (maxBytes : Option Nat) (tail : Bool) : Text :=
  match maxBytes with
  | none => s
  | some cap =>
      if utf8Len s ≤ cap then s
      else
        let contentBudget := cap - (utf8Len (byteMarker (utf8Len s)) + 1)
        if tail then
          let kept := (excerptWithin contentBudget s.reverse).reverse
          byteMarker (utf8Len s - utf8Len kept) ++ '\n' :: kept
        else
          let kept := excerptWithin contentBudget s
          kept ++ '\n' :: byteMarker (utf8Len s - utf8Len kept)

def applyLineCap (s : Text) (maxLines : Option Nat) (tail : Bool) : Text :=
  match maxLines with
  | none => s
  | some cap =>
      let lines := Text.lines s
      if lines.length ≤ cap then s
      else
        let contentBudget := cap - 1
        let marker := lineMarker (lines.length - contentBudget)
        if contentBudget = 0 then marker
        else if tail then
          marker ++ '\n' :: joinLines (lines.drop (lines.length - contentBudget))
        else joinLines (lines.take contentBudget) ++ '\n' :: marker

/-- Modifiers, then the line cap, then the byte cap. -/
def processOutput (regexes : Regexes) (command : Text) (caps : OutputCaps) (raw : Text) : Text :=
  applyByteCap (applyLineCap (applyPipeModifiers regexes command raw) caps.maxLines caps.tail)
    caps.maxBytes caps.tail

/-! ## Output that is passed through -/

/-- No segment behind the command is a modifier, and nothing is capped. -/
def Unfiltered (command : Text) (caps : OutputCaps) : Prop :=
  (∀ segment ∈ (splitPipes command).tail, readModifier segment = none) ∧
    caps.maxLines = none ∧ caps.maxBytes = none

theorem applySegments_unread {regexes : Regexes} {segments : List Text}
    (unread : ∀ segment ∈ segments, readModifier segment = none) (raw : Text) :
    segments.foldl (applySegment regexes) raw = raw := by
  induction segments with
  | nil => rfl
  | cons segment rest ih =>
      have inert : applySegment regexes raw segment = raw := by
        rw [applySegment, unread segment (by simp)]
      rw [List.foldl_cons, inert]
      exact ih fun other member => unread other (by simp [member])

/-- A modifier sees the lines only. -/
theorem applySegments_lines {regexes : Regexes} {segments : List Text} {raw raw' : Text}
    (same : Text.lines raw = Text.lines raw')
    (read : ∃ segment ∈ segments, readModifier segment ≠ none) :
    segments.foldl (applySegment regexes) raw = segments.foldl (applySegment regexes) raw' := by
  induction segments with
  | nil =>
      obtain ⟨_, member, _⟩ := read
      cases member
  | cons segment rest ih =>
      simp only [List.foldl_cons]
      cases here : readModifier segment with
      | some modifier =>
          have merged : applySegment regexes raw segment = applySegment regexes raw' segment := by
            simp only [applySegment, here, same]
          rw [merged]
      | none =>
          have inert (text : Text) : applySegment regexes text segment = text := by
            rw [applySegment, here]
          rw [inert, inert]
          obtain ⟨found, member, reads⟩ := read
          rcases List.mem_cons.mp member with rfl | later
          · exact absurd here reads
          · exact ih ⟨found, later, reads⟩

theorem applyByteCap_ellipsis {s : Text} {maxBytes : Option Nat} {tail : Bool}
    (marked : ellipsis ∈ s ∨ ∃ cap, maxBytes = some cap ∧ cap < utf8Len s) :
    ellipsis ∈ applyByteCap s maxBytes tail := by
  have marker (omitted : Nat) : ellipsis ∈ byteMarker omitted := by simp [byteMarker]
  cases maxBytes with
  | none =>
      rcases marked with found | ⟨_, impossible, _⟩
      · exact found
      · cases impossible
  | some cap =>
      rw [applyByteCap]
      by_cases fits : utf8Len s ≤ cap
      · rw [if_pos fits]
        rcases marked with found | ⟨cap', same, longer⟩
        · exact found
        · cases same
          exact absurd fits (Nat.not_le.mpr longer)
      · rw [if_neg fits]
        cases tail <;> simp [marker]

theorem applyLineCap_ellipsis {s : Text} {cap : Nat} {tail : Bool}
    (longer : cap < (Text.lines s).length) : ellipsis ∈ applyLineCap s (some cap) tail := by
  have marker (more : Nat) : ellipsis ∈ lineMarker more := by simp [lineMarker]
  rw [applyLineCap]
  simp only [Nat.not_le.mpr longer, if_false]
  by_cases one : cap - 1 = 0
  · simp [one, marker]
  · cases tail <;> simp [one, marker]

theorem linesFrom_newlines (n : Nat) :
    (Text.linesFrom [] (List.replicate n '\n')).length = n := by
  induction n with
  | zero => rfl
  | succ n ih => simp [List.replicate_succ, Text.linesFrom, ih]

theorem utf8Len_newlines (n : Nat) : utf8Len (List.replicate n '\n') = n := by
  have one : Char.utf8Size '\n' = 1 := rfl
  simp [utf8Len, one]

/-- A cap shows on a text of enough newlines. -/
theorem capped_newlines {caps : OutputCaps} (capped : caps.maxLines ≠ none ∨ caps.maxBytes ≠ none) :
    ∃ n, applyByteCap (applyLineCap (List.replicate n '\n') caps.maxLines caps.tail) caps.maxBytes
      caps.tail ≠ List.replicate n '\n' := by
  obtain ⟨maxLines, maxBytes, tail⟩ := caps
  have plain (n : Nat) : ellipsis ∉ List.replicate n '\n' := by
    intro member
    exact absurd (List.eq_of_mem_replicate member) (by decide)
  suffices shown : ∃ n, ellipsis ∈ applyByteCap
      (applyLineCap (List.replicate n '\n') maxLines tail) maxBytes tail by
    obtain ⟨n, found⟩ := shown
    refine ⟨n, fun same => plain n ?_⟩
    rw [← same]
    exact found
  cases maxLines with
  | some cap =>
      refine ⟨cap + 1, applyByteCap_ellipsis (.inl (applyLineCap_ellipsis ?_))⟩
      rw [Text.lines, linesFrom_newlines]
      omega
  | none =>
      cases maxBytes with
      | some cap =>
          refine ⟨cap + 1, applyByteCap_ellipsis (.inr ⟨cap, rfl, ?_⟩)⟩
          rw [applyLineCap, utf8Len_newlines]
          omega
      | none => simp at capped

theorem processOutput_id_iff {regexes : Regexes} {command : Text} {caps : OutputCaps} :
    (∀ raw, processOutput regexes command caps raw = raw) ↔ Unfiltered command caps := by
  constructor
  · intro same
    have unread : ∀ segment ∈ (splitPipes command).tail, readModifier segment = none := by
      by_contra reads
      push Not at reads
      have merged : processOutput regexes command caps ['a'] =
          processOutput regexes command caps ['a', '\n'] := by
        have pipes : applyPipeModifiers regexes command ['a'] =
            applyPipeModifiers regexes command ['a', '\n'] := applySegments_lines rfl reads
        rw [processOutput, processOutput, pipes]
      rw [same, same] at merged
      cases merged
    refine ⟨unread, ?_⟩
    by_contra capped
    obtain ⟨n, differs⟩ := capped_newlines (not_and_or.mp capped)
    have shown := same (List.replicate n '\n')
    rw [processOutput, applyPipeModifiers, applySegments_unread unread] at shown
    exact differs shown
  · rintro ⟨unread, lines, bytes⟩ raw
    rw [processOutput, applyPipeModifiers, applySegments_unread unread, lines, bytes]
    rfl

end JunosMcp
