import JunosMcp.Lib.Quoting
import JunosMcp.Output

/-!
# Stages of a piped command

`split_pipes` of `output.rs` against the quoting of a command: the stages that were joined come back
trimmed, and a command is never split inside a quoted span.
-/

namespace JunosMcp
open Lib

/-- The quotes of a command, and the backslash inside them. -/
def pipeQuoting : Quoting Char := ⟨fun c => c == doubleQuote || c == singleQuote, backslash, rfl⟩

def pipeBoundary : Text := [' ', '|', ' ']

def joinPipes (stages : List Text) : Text := List.intercalate pipeBoundary stages

/-- A stage shows something, closes its quotes, and has its pipes inside them. -/
structure PipeStage (stage : Text) : Prop where
  shown : Text.trim stage ≠ []
  closed : pipeQuoting.Closed (· ≠ '|') stage

/-! ## Segments before they are trimmed -/

/-- The segments the loop has pushed, and the one it holds at the end. -/
structure RawSegments where
  pushed : List Text
  current : Text
  deriving DecidableEq

def RawSegments.push (segment : Text) (segments : RawSegments) : RawSegments :=
  ⟨segment :: segments.pushed, segments.current⟩

/-- The loop of `split_pipes`. -/
def rawSegmentsFrom (scan : PipeScan) (current : Text) : Text → RawSegments
  | [] => ⟨[], current.reverse⟩
  | c :: rest =>
      if scan.escaped then rawSegmentsFrom { scan with escaped := false } (c :: current) rest
      else if scan.skip ≠ 0 then rawSegmentsFrom { scan with skip := scan.skip - 1 } current rest
      else if (scan.inDouble || scan.inSingle) && c == backslash && !rest.isEmpty then
        rawSegmentsFrom { scan with escaped := true } (c :: current) rest
      else if c == doubleQuote && !scan.inSingle then
        rawSegmentsFrom { scan with inDouble := !scan.inDouble } (c :: current) rest
      else if c == singleQuote && !scan.inDouble then
        rawSegmentsFrom { scan with inSingle := !scan.inSingle } (c :: current) rest
      else if !scan.inDouble && !scan.inSingle && c == ' ' && rest.take 2 == ['|', ' '] then
        (rawSegmentsFrom { scan with skip := 2 } [] rest).push current.reverse
      else rawSegmentsFrom scan (c :: current) rest

def rawSegments (command : Text) : RawSegments :=
  rawSegmentsFrom ⟨false, false, false, 0⟩ [] command

/-- What `split_pipes` gives back: the segment held at the end counts when it is not empty. -/
def RawSegments.trimmed (segments : RawSegments) : List Text :=
  segments.pushed.map Text.trim ++
    if segments.current.isEmpty then [] else [Text.trim segments.current]

def RawSegments.all (segments : RawSegments) : List Text := segments.pushed ++ [segments.current]

theorem RawSegments.trimmed_push (segment : Text) (segments : RawSegments) :
    (segments.push segment).trimmed = Text.trim segment :: segments.trimmed := rfl

theorem splitPipesFrom_raw (scan : PipeScan) (current text : Text) :
    splitPipesFrom scan current text = (rawSegmentsFrom scan current text).trimmed := by
  induction text generalizing scan current with
  | nil => simp [splitPipesFrom, rawSegmentsFrom, RawSegments.trimmed]
  | cons c rest ih =>
      rw [splitPipesFrom, rawSegmentsFrom]
      repeat' split
      all_goals first
        | exact ih _ _
        | rw [RawSegments.trimmed_push, ih]

theorem splitPipes_raw (command : Text) : splitPipes command = (rawSegments command).trimmed :=
  splitPipesFrom_raw _ _ _

/-! ## The scan reads quotes -/

def scanAt : Quoting.Place Char → PipeScan
  | .between => ⟨false, false, false, 0⟩
  | .inside quote => ⟨quote == doubleQuote, quote == singleQuote, false, 0⟩
  | .escaping quote => ⟨quote == doubleQuote, quote == singleQuote, true, 0⟩

/-- The open span, if there is one, is one of the two. -/
def Known : Quoting.Place Char → Prop
  | .between => True
  | .inside quote | .escaping quote => pipeQuoting.isQuote quote = true

theorem known_between : Known .between := trivial

theorem known_inside {quote : Char} (opens : pipeQuoting.isQuote quote = true) :
    Known (.inside quote) :=
  opens

theorem known_escaping {quote : Char} (opens : pipeQuoting.isQuote quote = true) :
    Known (.escaping quote) :=
  opens

theorem isQuote_iff {c : Char} :
    pipeQuoting.isQuote c = true ↔ c = doubleQuote ∨ c = singleQuote := by
  simp [pipeQuoting]

theorem quotes_differ : (doubleQuote == singleQuote) = false ∧ (singleQuote == doubleQuote) = false :=
  ⟨rfl, rfl⟩

theorem known_advance {place : Quoting.Place Char} (known : Known place) (c : Char) :
    Known (pipeQuoting.advance place c) := by
  cases place with
  | between =>
      rw [Quoting.advance]
      split
      · assumption
      · trivial
  | inside quote =>
      rw [Quoting.advance]
      split
      · exact known
      · split
        · trivial
        · exact known
  | escaping quote => exact known

/-- A pipe between blanks, outside the quotes. -/
def AtBoundary (place : Quoting.Place Char) (c : Char) (rest : Text) : Prop :=
  place = .between ∧ c = ' ' ∧ rest.take 2 = ['|', ' ']

theorem rawSegmentsFrom_boundary (current rest : Text) :
    rawSegmentsFrom (scanAt .between) current (' ' :: '|' :: ' ' :: rest) =
      (rawSegmentsFrom (scanAt .between) [] rest).push current.reverse := rfl

theorem rawSegmentsFrom_nil (scan : PipeScan) (current : Text) :
    rawSegmentsFrom scan current [] = ⟨[], current.reverse⟩ := rfl

/-- Anywhere else the character joins the open segment. -/
theorem rawSegmentsFrom_advance {place : Quoting.Place Char} (known : Known place) {c : Char}
    {rest : Text} (elsewhere : ¬AtBoundary place c rest) (current : Text) :
    rawSegmentsFrom (scanAt place) current (c :: rest) =
      rawSegmentsFrom (scanAt (pipeQuoting.advance place c)) (c :: current) rest := by
  cases place with
  | between =>
      by_cases double : c = doubleQuote
      · subst double
        rfl
      · by_cases single : c = singleQuote
        · subst single
          rfl
        · have bare : pipeQuoting.isQuote c = false := by simp [pipeQuoting, double, single]
          rw [Quoting.advance_bare bare, rawSegmentsFrom]
          have other : ¬(c = ' ' ∧ rest.take 2 = ['|', ' ']) := fun here => elsewhere ⟨rfl, here⟩
          simp [scanAt, double, single, other]
  | inside quote =>
      by_cases escape : c = backslash
      · subst escape
        rw [show pipeQuoting.advance (.inside quote) backslash = .escaping quote from
          Quoting.advance_escape quote]
        rcases isQuote_iff.mp known with rfl | rfl <;> cases rest <;> rfl
      · by_cases closes : c = quote
        · subst closes
          rw [Quoting.advance_closes known]
          rcases isQuote_iff.mp known with rfl | rfl <;> rfl
        · rw [Quoting.advance_inside closes escape, rawSegmentsFrom]
          rcases isQuote_iff.mp known with rfl | rfl <;> simp [scanAt, escape, closes, quotes_differ]
  | escaping quote =>
      rw [rawSegmentsFrom]
      rfl

/-- The two rules of the loop, over a text that is read to its end. -/
@[elab_as_elim] theorem pipe_induction
    {motive : Quoting.Place Char → Text → Text → Prop}
    (done : ∀ place current, motive place current [])
    (boundary : ∀ current rest, motive .between [] rest →
      motive .between current (' ' :: '|' :: ' ' :: rest))
    (advance : ∀ place current c rest, ¬AtBoundary place c rest →
      motive (pipeQuoting.advance place c) (c :: current) rest → motive place current (c :: rest))
    (place : Quoting.Place Char) (current text : Text) :
    motive place current text := by
  induction length : text.length using Nat.strongRecOn generalizing place current text with
  | _ n ih =>
      cases text with
      | nil => exact done place current
      | cons c rest =>
          by_cases here : AtBoundary place c rest
          · obtain ⟨rfl, rfl, taken⟩ := here
            obtain ⟨tail, rfl⟩ : ∃ tail, rest = '|' :: ' ' :: tail :=
              ⟨rest.drop 2, by rw [← List.take_append_drop 2 rest, taken]; rfl⟩
            exact boundary current tail (ih tail.length (by simp at length; omega) .between [] tail rfl)
          · exact advance place current c rest here
              (ih rest.length (by simp at length; omega) _ (c :: current) rest rfl)

/-! ## No boundary inside quotes -/

theorem joinPipes_cons {stage : Text} {stages : List Text} (more : stages ≠ []) :
    joinPipes (stage :: stages) = stage ++ pipeBoundary ++ joinPipes stages := by
  cases stages with
  | nil => exact absurd rfl more
  | cons next rest => simp [joinPipes, List.intercalate]

theorem all_push (segment : Text) (segments : RawSegments) :
    (segments.push segment).all = segment :: segments.all := rfl

/-- Nothing is lost between the segments but the boundaries. -/
theorem rawSegmentsFrom_join {place : Quoting.Place Char} (known : Known place)
    (current text : Text) :
    joinPipes (rawSegmentsFrom (scanAt place) current text).all = current.reverse ++ text := by
  induction place, current, text using pipe_induction with
  | done place current => simp [rawSegmentsFrom, RawSegments.all, joinPipes]
  | boundary current rest ih =>
      rw [rawSegmentsFrom_boundary, all_push, joinPipes_cons (by simp [RawSegments.all]), ih known]
      simp [pipeBoundary]
  | advance place current c rest elsewhere ih =>
      rw [rawSegmentsFrom_advance known elsewhere, ih (known_advance known c)]
      simp

theorem placeAfter_append (text more : Text) :
    pipeQuoting.placeAfter (text ++ more) =
      more.foldl pipeQuoting.advance (pipeQuoting.placeAfter text) := by
  rw [Quoting.placeAfter, List.foldl_append]
  rfl

theorem placeAfter_boundary {text : Text} (here : pipeQuoting.placeAfter text = .between) :
    pipeQuoting.placeAfter (text ++ pipeBoundary) = .between := by
  rw [placeAfter_append, here]
  rfl

/-- Behind every segment that was pushed no span is open. -/
theorem rawSegmentsFrom_between {place : Quoting.Place Char} (known : Known place)
    (current text passed : Text) (there : pipeQuoting.placeAfter (passed ++ current.reverse) = place)
    {before after : List Text}
    (pushed : (rawSegmentsFrom (scanAt place) current text).pushed = before ++ after)
    (some : before ≠ []) :
    pipeQuoting.placeAfter (passed ++ joinPipes before) = .between := by
  induction place, current, text using pipe_induction generalizing passed before with
  | done place current =>
      obtain ⟨rfl, _⟩ := List.append_eq_nil_iff.mp pushed.symm
      exact absurd rfl some
  | boundary current rest ih =>
      rw [rawSegmentsFrom_boundary] at pushed
      obtain ⟨segment, later, rfl⟩ := List.exists_cons_of_ne_nil some
      obtain ⟨rfl, rest_pushed⟩ := List.cons.inj pushed
      by_cases last : later = []
      · subst last
        simpa [joinPipes] using there
      · have behind := ih known (passed ++ current.reverse ++ pipeBoundary)
          (by simpa using placeAfter_boundary there) rest_pushed last
        rw [joinPipes_cons last]
        simpa using behind
  | advance place current c rest elsewhere ih =>
      rw [rawSegmentsFrom_advance known elsewhere] at pushed
      refine ih (known_advance known c) passed ?_ pushed some
      rw [List.reverse_cons, ← List.append_assoc, placeAfter_append, there]
      rfl

/-- The text in front of every boundary the command is split at. -/
theorem split_between {command : Text} {before after : List Text}
    (pushed : (rawSegments command).pushed = before ++ after) (some : before ≠ []) :
    pipeQuoting.placeAfter (joinPipes before) = .between :=
  rawSegmentsFrom_between known_between [] command [] rfl pushed some

/-! ## Stages that were joined -/

theorem not_atBoundary {place : Quoting.Place Char} {c : Char} {rest : Text}
    (other : rest.head? ≠ some '|') : ¬AtBoundary place c rest := by
  rintro ⟨_, _, taken⟩
  cases rest with
  | nil => cases taken
  | cons d rest =>
      obtain ⟨rfl, _⟩ := List.cons.inj taken
      exact other rfl

theorem inside_not_atBoundary {quote c : Char} {rest : Text} :
    ¬AtBoundary (.inside quote) c rest := by
  rintro ⟨impossible, _⟩
  cases impossible

theorem escaping_not_atBoundary {quote c : Char} {rest : Text} :
    ¬AtBoundary (.escaping quote) c rest := by
  rintro ⟨impossible, _⟩
  cases impossible

theorem rawSegmentsFrom_body {quote : Char} (opens : pipeQuoting.isQuote quote = true)
    {body : Text} (enclosed : pipeQuoting.Body quote body) (current tail : Text) :
    rawSegmentsFrom (scanAt (.inside quote)) current (body ++ tail) =
      rawSegmentsFrom (scanAt (.inside quote)) (body.reverse ++ current) tail := by
  induction enclosed generalizing current with
  | nil => rfl
  | plain differs kept _ ih =>
      rw [List.cons_append, rawSegmentsFrom_advance (known_inside opens) inside_not_atBoundary,
        Quoting.advance_inside differs kept, ih]
      simp
  | escaped a _ ih =>
      rw [List.cons_append, List.cons_append,
        rawSegmentsFrom_advance (known_inside opens) inside_not_atBoundary, Quoting.advance_escape,
        rawSegmentsFrom_advance (known_escaping opens) escaping_not_atBoundary,
        show pipeQuoting.advance (.escaping quote) a = .inside quote from rfl, ih]
      simp

theorem closed_head {stage tail : Text} (closed : pipeQuoting.Closed (· ≠ '|') stage)
    (other : tail.head? ≠ some '|') : (stage ++ tail).head? ≠ some '|' := by
  cases closed with
  | nil => exact other
  | plain _ meets _ => simpa using meets
  | span opens _ _ =>
      rcases isQuote_iff.mp opens with rfl | rfl <;> simp [doubleQuote, singleQuote]

/-- The scan goes through a stage and is between the spans again. -/
theorem rawSegmentsFrom_stage {stage : Text} (closed : pipeQuoting.Closed (· ≠ '|') stage)
    (current : Text) {tail : Text} (other : tail.head? ≠ some '|') :
    rawSegmentsFrom (scanAt .between) current (stage ++ tail) =
      rawSegmentsFrom (scanAt .between) (stage.reverse ++ current) tail := by
  induction closed generalizing current with
  | nil => rfl
  | plain bare _ closed ih =>
      rw [List.cons_append,
        rawSegmentsFrom_advance known_between (not_atBoundary (closed_head closed other)),
        Quoting.advance_bare bare, ih]
      simp
  | @span quote body rest opens enclosed closed ih =>
      have opening : ¬AtBoundary .between quote (body ++ quote :: rest ++ tail) := by
        rintro ⟨_, rfl, _⟩
        cases opens
      rw [List.cons_append, rawSegmentsFrom_advance known_between opening,
        Quoting.advance_opens opens, List.append_assoc, rawSegmentsFrom_body opens enclosed,
        List.cons_append, rawSegmentsFrom_advance (known_inside opens) inside_not_atBoundary,
        Quoting.advance_closes opens, ih]
      simp

theorem rawSegmentsFrom_joined {stage : Text} {stages : List Text}
    (closed : ∀ s ∈ stage :: stages, pipeQuoting.Closed (· ≠ '|') s) :
    (rawSegmentsFrom (scanAt .between) [] (joinPipes (stage :: stages))).all = stage :: stages := by
  induction stages generalizing stage with
  | nil =>
      have bare : ([] : Text).head? ≠ some '|' := by simp
      have whole := rawSegmentsFrom_stage (closed stage (by simp)) [] bare
      rw [List.append_nil, List.append_nil] at whole
      rw [joinPipes, List.intercalate_singleton, whole, rawSegmentsFrom_nil, List.reverse_reverse]
      rfl
  | cons next rest ih =>
      rw [joinPipes_cons (List.cons_ne_nil _ _), List.append_assoc,
        rawSegmentsFrom_stage (closed stage (by simp)) [] (by simp [pipeBoundary])]
      change (rawSegmentsFrom (scanAt .between) (stage.reverse ++ [])
        (' ' :: '|' :: ' ' :: joinPipes (next :: rest))).all = _
      rw [rawSegmentsFrom_boundary, all_push, List.append_nil, List.reverse_reverse,
        ih fun s member => closed s (by simp [member])]

theorem trimmed_all {segments : RawSegments} (shown : Text.trim segments.current ≠ []) :
    segments.trimmed = segments.all.map Text.trim := by
  have held : segments.current.isEmpty = false := by
    cases empty : segments.current with
    | nil =>
        rw [empty] at shown
        exact absurd rfl shown
    | cons c rest => rfl
  simp [RawSegments.trimmed, RawSegments.all, held]

theorem splitPipes_joined {stages : List Text} (all : ∀ stage ∈ stages, PipeStage stage) :
    splitPipes (joinPipes stages) = stages.map Text.trim := by
  cases stages with
  | nil => rfl
  | cons stage rest =>
      have segments : (rawSegments (joinPipes (stage :: rest))).all = stage :: rest :=
        rawSegmentsFrom_joined fun s member => (all s member).closed
      have held : (rawSegments (joinPipes (stage :: rest))).current ∈
          (rawSegments (joinPipes (stage :: rest))).all := by simp [RawSegments.all]
      rw [segments] at held
      rw [splitPipes_raw, trimmed_all (all _ held).shown, segments]

/-- Joined stages are split into themselves, and no command is split inside a quoted span. -/
theorem splitPipes_quoted :
    (∀ stages, (∀ stage ∈ stages, PipeStage stage) →
      splitPipes (joinPipes stages) = stages.map Text.trim) ∧
    ∀ command,
      splitPipes command = (rawSegments command).trimmed ∧
      joinPipes (rawSegments command).all = command ∧
      ∀ before after, (rawSegments command).pushed = before ++ after → before ≠ [] →
        ¬pipeQuoting.Within (joinPipes before) := by
  refine ⟨fun stages => splitPipes_joined, fun command => ⟨splitPipes_raw command, ?_, ?_⟩⟩
  · exact rawSegmentsFrom_join known_between [] command
  · intro before after pushed some
    exact Quoting.not_within (split_between pushed some)

/-- A pipe between blanks, inside quotes. -/
def quotedPipe : Text := [doubleQuote, 'a', ' ', '|', ' ', 'b', doubleQuote]

theorem quotedPipe_stage : PipeStage quotedPipe where
  shown := by decide
  closed := by
    have enclosed : pipeQuoting.Body doubleQuote ['a', ' ', '|', ' ', 'b'] := by
      repeat' first | exact .nil | refine .plain (by decide) (by decide) ?_
    exact .span rfl enclosed .nil

theorem quotedPipe_kept :
    splitPipes (joinPipes [quotedPipe, quotedPipe]) = [quotedPipe, quotedPipe] := by
  have stages : ∀ stage ∈ [quotedPipe, quotedPipe], PipeStage stage := by
    simp [quotedPipe_stage]
  exact splitPipes_quoted.1 _ stages

end JunosMcp
