import JunosMcp.Lib.Gaps
import JunosMcp.OutputCaps
import JunosMcp.Srx.Sanitize

/-!
# The text behind a fingerprint

What of a candidate goes into its fingerprint: attributes with the prefix `junos:` are cut out of
opening tags, and the lines are trimmed. Both work on characters and not on the markup.
-/

namespace JunosMcp.Fingerprint
open Text Lib Markup Srx

/-- `strip_junos_from_tag_content`: the loop of `simple_strip_junos` once more. -/
def stripJunosFromTagContent (tag : Text) : Text := simpleStripJunos tag

/-- What stands between the brackets of a tag; closing tags, comments and the like are kept. -/
def stripTag (content : Text) : Text :=
  if content.head?.any fun c => c == '/' || c == '!' || c == '?' then content
  else stripJunosFromTagContent content

/-- The loop of `simple_strip_junos_attrs`, with a bound on its rounds. -/
def stripTagsFrom : Nat → Text → Text
  | 0, xml => xml
  | _ + 1, [] => []
  | rounds + 1, c :: rest =>
      if c == '<' then
        match rest.dropWhile (· != '>') with
        | [] => c :: rest
        | close :: behind =>
            c :: (stripTag (rest.takeWhile (· != '>')) ++ close :: stripTagsFrom rounds behind)
      else c :: stripTagsFrom rounds rest

def simpleStripJunosAttrs (xml : Text) : Text := stripTagsFrom xml.length xml

/-- The lines that are left when each is trimmed. -/
def visibleLines (text : Text) : List Text :=
  ((lines text).map trim).filter fun line => !line.isEmpty

def normaliseLines (text : Text) : Text := joinLines (visibleLines text)

def normaliseCandidateForFingerprint (xml : Text) : Text :=
  normaliseLines (simpleStripJunosAttrs xml)

/-! ## Lines -/

/-- The text as it is read behind the end of a line. -/
abbrev readLine (text : Text) : Text := squeeze isWhitespace '\n' ['\n'] text

theorem trim_blank_end {c : Char} (blank : isWhitespace c = true) (text : Text) :
    trim (text ++ [c]) = trim text := by
  have single : [c].dropWhile isWhitespace = [] := List.dropWhile_cons_of_pos blank
  rw [trim, trim, List.dropWhile_append, single]
  split
  · rename_i none
    rw [List.isEmpty_iff.mp none]
  · rw [List.reverse_append]
    exact congrArg List.reverse (List.dropWhile_cons_of_pos blank)

/-- A line with its break, if anything is to be seen of it. -/
def markedLine (line : Text) : Text := if (trim line).isEmpty then [] else '\n' :: trim line

/-- Behind its first mark, a line is trimmed to what is read of it. -/
theorem trimEnd_visible {c : Char} {rest : Text} (seen : isWhitespace c = false)
    (unbroken : '\n' ∉ rest) :
    (c :: rest).reverse.dropWhile isWhitespace =
      (c :: squeeze isWhitespace '\n' [] rest).reverse := by
  have split : squeeze isWhitespace '\n' [] rest ++ trailing isWhitespace [] rest = rest :=
    squeeze_unbroken unbroken
  have gap := @trailing_blank _ isWhitespace [] (fun d none => absurd none List.not_mem_nil) rest
  have last := @squeeze_last _ _ isWhitespace '\n' [] rest
  generalize squeeze isWhitespace '\n' [] rest = read at split last ⊢
  rw [← split, ← List.cons_append, List.reverse_append,
    List.dropWhile_append_of_pos fun d inside => gap d (List.mem_reverse.mp inside)]
  rcases last with rfl | ⟨front, d, rfl, visible⟩
  · exact List.dropWhile_cons_of_neg (by rw [seen]; exact Bool.false_ne_true)
  · rw [← List.cons_append, List.reverse_append]
    exact List.dropWhile_cons_of_neg (by rw [visible]; exact Bool.false_ne_true)

/-- What is read of an open line is the line, trimmed. -/
theorem squeeze_line {gap line : Text} (breaks : '\n' ∈ gap) (unbroken : '\n' ∉ line) :
    squeeze isWhitespace '\n' gap line = markedLine line := by
  have split : line.takeWhile isWhitespace ++ line.dropWhile isWhitespace = line :=
    List.takeWhile_append_dropWhile
  have read : squeeze isWhitespace '\n' gap line =
      squeeze isWhitespace '\n' (gap ++ line.takeWhile isWhitespace)
        (line.dropWhile isWhitespace) := by
    rw [← squeeze_blanks fun c inside => List.mem_takeWhile_imp inside, split]
  have whole : '\n' ∉ line.dropWhile isWhitespace := fun inside =>
    unbroken ((List.dropWhile_sublist _).subset inside)
  have first := List.head?_dropWhile_not isWhitespace line
  rw [read, markedLine, trim]
  generalize line.dropWhile isWhitespace = visible at whole first ⊢
  cases visible with
  | nil => rfl
  | cons c rest =>
      have seen : isWhitespace c = false := first
      rw [squeeze_visible seen, gapForm_broken (List.mem_append_left _ breaks), trimEnd_visible seen
        fun inside => whole (List.mem_cons_of_mem c inside), List.reverse_reverse]
      rfl

theorem markedLine_finishLine (reversed : Text) :
    markedLine (finishLine reversed) = markedLine reversed.reverse := by
  unfold finishLine
  split
  · rename_i rest
    rw [List.reverse_cons, markedLine, markedLine, trim_blank_end (by decide)]
  · rfl

theorem squeeze_newline (gap text : Text) :
    squeeze isWhitespace '\n' gap ('\n' :: text) = readLine text := by
  rw [squeeze, if_pos (by decide)]
  exact squeeze_break (List.mem_append_right _ List.mem_cons_self) List.mem_cons_self text

theorem readLine_linesFrom {reversed : Text} (open_ : '\n' ∉ reversed) (rest : Text) :
    readLine (reversed.reverse ++ rest) = (linesFrom reversed rest).flatMap markedLine := by
  have unbroken : '\n' ∉ reversed.reverse := fun inside => open_ (List.mem_reverse.mp inside)
  induction rest generalizing reversed with
  | nil =>
      rw [List.append_nil, readLine, squeeze_line List.mem_cons_self unbroken, linesFrom]
      split
      · rename_i none
        rw [List.isEmpty_iff.mp none]
        rfl
      · exact (List.flatMap_singleton _ _).symm
  | cons c rest ih =>
      rw [linesFrom]
      by_cases broken : c = '\n'
      · subst broken
        rw [if_pos (by decide), readLine, squeeze_append, squeeze_newline,
          squeeze_line List.mem_cons_self unbroken, List.flatMap_cons, markedLine_finishLine, ← ih List.not_mem_nil List.not_mem_nil]
        rfl
      · have other : '\n' ∉ c :: reversed := by
          rw [List.mem_cons, not_or]
          exact ⟨Ne.symm broken, open_⟩
        rw [if_neg (by simpa using broken),
          ← ih other fun inside => other (List.mem_reverse.mp inside), List.reverse_cons, List.append_assoc]
        rfl

theorem flatMap_markedLine (group : List Text) :
    group.flatMap markedLine =
      ((group.map trim).filter fun line => !line.isEmpty).flatMap fun line => '\n' :: line := by
  induction group with
  | nil => rfl
  | cons line group ih =>
      rw [List.flatMap_cons, ih, markedLine, List.map_cons]
      cases none : (trim line).isEmpty with
      | true => rw [if_pos rfl, List.filter_cons_of_neg (by simp [none])]; rfl
      | false =>
          rw [if_neg Bool.false_ne_true, List.filter_cons_of_pos (by simp [none]),
            List.flatMap_cons]

theorem flatMap_break {first : Text} {group : List Text} :
    (first :: group).flatMap (fun line => '\n' :: line) = '\n' :: joinLines (first :: group) := by
  induction group generalizing first with
  | nil => simp [joinLines]
  | cons second group ih =>
      rw [List.flatMap_cons, ih, joinLines_cons]
      rfl

theorem readLine_eq (text : Text) :
    readLine text = (visibleLines text).flatMap fun line => '\n' :: line := by
  rw [visibleLines, ← flatMap_markedLine]
  exact readLine_linesFrom List.not_mem_nil text

theorem normaliseLines_eq_nil {text : Text} (none : normaliseLines text = []) :
    visibleLines text = [] := by
  cases shape : visibleLines text with
  | nil => rfl
  | cons line group =>
      have seen : line ∈ visibleLines text := by
        rw [shape]
        exact List.mem_cons_self
      have nonempty := (List.mem_filter.mp seen).2
      rw [normaliseLines, shape] at none
      cases group with
      | nil =>
          rw [show line = [] by simpa [joinLines] using none] at nonempty
          cases nonempty
      | cons second group =>
          rw [joinLines_cons] at none
          exact absurd (List.append_eq_nil_iff.mp none).2 (List.cons_ne_nil _ _)

/-- Two texts have the same lines just where they are read alike. -/
theorem normaliseLines_eq_iff {text text' : Text} :
    normaliseLines text = normaliseLines text' ↔ readLine text = readLine text' := by
  rw [readLine_eq, readLine_eq]
  constructor
  · intro same
    cases shape : visibleLines text with
    | nil =>
        rw [normaliseLines, shape] at same
        rw [normaliseLines_eq_nil same.symm]
    | cons line group =>
        cases shape' : visibleLines text' with
        | nil =>
            rw [normaliseLines, normaliseLines, shape'] at same
            rw [normaliseLines_eq_nil same] at shape
            cases shape
        | cons line' group' =>
            rw [normaliseLines, normaliseLines, shape, shape'] at same
            rw [flatMap_break, flatMap_break, same]
  · intro same
    unfold normaliseLines
    cases shape : visibleLines text with
    | nil =>
        rw [shape] at same
        cases shape' : visibleLines text' with
        | nil => rfl
        | cons line' group' =>
            rw [shape', flatMap_break] at same
            cases same
    | cons line group =>
        cases shape' : visibleLines text' with
        | nil =>
            rw [shape, shape', flatMap_break] at same
            cases same
        | cons line' group' =>
            rw [shape, shape', flatMap_break, flatMap_break] at same
            exact (List.cons.inj same).2

/-! ## The scan of the tags -/

theorem stripTagsFrom_enough {n m : Nat} {xml : Text} (enough : xml.length ≤ n)
    (enough' : xml.length ≤ m) : stripTagsFrom n xml = stripTagsFrom m xml := by
  induction n generalizing m xml with
  | zero =>
      obtain rfl := List.eq_nil_of_length_eq_zero (Nat.le_zero.mp enough)
      cases m <;> rfl
  | succ n ih =>
      cases xml with
      | nil => cases m <;> rfl
      | cons c rest =>
          cases m with
          | zero => exact absurd enough' (Nat.not_succ_le_zero _)
          | succ m =>
              have room := Nat.le_of_succ_le_succ enough
              have room' := Nat.le_of_succ_le_succ enough'
              rw [stripTagsFrom, stripTagsFrom]
              split
              · split
                · rfl
                · rename_i close behind shape
                  have shorter : behind.length ≤ rest.length := by
                    have bound := List.length_dropWhile_le (· != '>') rest
                    rw [shape] at bound
                    exact (Nat.le_succ _).trans bound
                  rw [ih (shorter.trans room) (shorter.trans room')]
              · rw [ih room room']

theorem strip_nil : simpleStripJunosAttrs [] = [] := rfl

theorem strip_char {c : Char} (other : c ≠ '<') (rest : Text) :
    simpleStripJunosAttrs (c :: rest) = c :: simpleStripJunosAttrs rest := by
  rw [simpleStripJunosAttrs, List.length_cons, stripTagsFrom, if_neg (by simpa using other)]
  rfl

theorem strip_text {text : Text} (plain : '<' ∉ text) (rest : Text) :
    simpleStripJunosAttrs (text ++ rest) = text ++ simpleStripJunosAttrs rest := by
  induction text with
  | nil => rfl
  | cons c text ih =>
      rw [List.mem_cons, not_or] at plain
      rw [List.cons_append, strip_char (Ne.symm plain.1), ih plain.2]
      rfl

/-- A tag goes from its bracket to the first closing one. -/
theorem strip_tag {content : Text} (plain : '>' ∉ content) (rest : Text) :
    simpleStripJunosAttrs ('<' :: (content ++ '>' :: rest)) =
      '<' :: (stripTag content ++ '>' :: simpleStripJunosAttrs rest) := by
  have passed : ∀ c ∈ content, (c != '>') = true := by
    intro c inside
    refine bne_iff_ne.mpr ?_
    rintro rfl
    exact plain inside
  have behind : (content ++ '>' :: rest).dropWhile (· != '>') = '>' :: rest := by
    rw [List.dropWhile_append_of_pos passed]
    rfl
  have front : (content ++ '>' :: rest).takeWhile (· != '>') = content := by
    rw [List.takeWhile_append_of_pos passed]
    exact List.append_nil _
  have room : rest.length ≤ (content ++ '>' :: rest).length := by
    rw [List.length_append, List.length_cons]
    omega
  rw [simpleStripJunosAttrs, List.length_cons, stripTagsFrom, if_pos (by decide), behind, front]
  dsimp only
  rw [stripTagsFrom_enough room le_rfl]
  rfl

theorem strip_open {content : Text} (plain : '>' ∉ content) :
    simpleStripJunosAttrs ('<' :: content) = '<' :: content := by
  have behind : content.dropWhile (· != '>') = [] := by
    refine List.dropWhile_eq_nil_iff.mpr fun c inside => bne_iff_ne.mpr ?_
    rintro rfl
    exact plain inside
  rw [simpleStripJunosAttrs, List.length_cons, stripTagsFrom, if_pos (by decide), behind]

/-- A text is read mark by mark outside of tags, and tag by tag. -/
@[elab_as_elim]
theorem tag_induction {motive : Text → Prop} (nil : motive [])
    (mark : ∀ c rest, c ≠ '<' → motive rest → motive (c :: rest))
    (tag : ∀ content rest, '>' ∉ content → motive rest → motive ('<' :: (content ++ '>' :: rest)))
    (unclosed : ∀ content, '>' ∉ content → motive ('<' :: content)) (text : Text) : motive text := by
  induction size : text.length using Nat.strong_induction_on generalizing text with
  | _ size ih =>
      cases text with
      | nil => exact nil
      | cons c rest =>
          subst size
          by_cases opens : c = '<'
          · subst opens
            by_cases closes : '>' ∈ rest
            · obtain ⟨content, behind, rfl, plain⟩ := List.eq_append_cons_of_mem closes
              refine tag content behind plain (ih behind.length ?_ behind rfl)
              rw [List.length_cons, List.length_append, List.length_cons]
              omega
            · exact unclosed rest closes
          · exact mark c rest opens (ih rest.length (Nat.lt_succ_self _) rest rfl)

/-- Behind a closing bracket the scanner is outside of tags, whatever came before. -/
theorem strip_closed (front rest : Text) :
    simpleStripJunosAttrs (front ++ '>' :: rest) =
      simpleStripJunosAttrs (front ++ ['>']) ++ simpleStripJunosAttrs rest := by
  induction front using tag_induction with
  | nil => exact strip_char (by decide) rest
  | mark c front other ih =>
      rw [List.cons_append, List.cons_append, strip_char other, strip_char other, ih]
      rfl
  | tag content behind plain ih =>
      simp only [List.cons_append, List.append_assoc]
      rw [strip_tag plain, strip_tag plain, ih]
      simp only [List.cons_append, List.append_assoc]
  | unclosed content plain =>
      rw [List.cons_append, List.cons_append, strip_tag plain, strip_tag plain, strip_nil]
      simp only [List.cons_append, List.append_assoc, List.nil_append]

theorem strip_last (front : Text) :
    ∃ output, simpleStripJunosAttrs (front ++ ['>']) = output ++ ['>'] := by
  induction front using tag_induction with
  | nil => exact ⟨[], rfl⟩
  | mark c front other ih =>
      obtain ⟨output, later⟩ := ih
      refine ⟨c :: output, ?_⟩
      rw [List.cons_append, strip_char other, later]
      rfl
  | tag content behind plain ih =>
      obtain ⟨output, later⟩ := ih
      refine ⟨'<' :: (stripTag content ++ '>' :: output), ?_⟩
      simp only [List.cons_append, List.append_assoc]
      rw [strip_tag plain, later]
  | unclosed content plain => exact ⟨'<' :: stripTag content, strip_tag plain []⟩

/-! ## The scan of markup -/

theorem isNameChar_opens {c : Char} (nameChar : isNameChar c = true) :
    (c == '/' || c == '!' || c == '?') = false := by
  have apart (d : Char) (other : isNameChar d = false) : (c == d) = false := by
    refine beq_eq_false_iff_ne.mpr ?_
    rintro rfl
    rw [nameChar] at other
    cases other
  rw [apart '/' (by decide), apart '!' (by decide), apart '?' (by decide)]
  rfl

theorem stripTag_kept {c : Char} (kept : c = '/' ∨ c = '!' ∨ c = '?') (content : Text) :
    stripTag (c :: content) = c :: content := by
  rcases kept with rfl | rfl | rfl <;> rfl

/-- Inside a tag the attributes are cut, and what is behind them is scanned by itself. -/
theorem stripTag_attributes {name tail ending : Text} {attributes : List WrittenAttribute}
    (formed : ∀ a ∈ attributes, a.WellFormed) (spaces : ∀ c ∈ tail, isXmlSpace c = true)
    (named : isName name = true) (unmarked : ¬junosPrefix <:+: name)
    (cuttable : ∀ a ∈ attributes, Cuttable a)
    (bounded : Bounded (renderAttributes attributes ++ (tail ++ ending)))
    (stop : ending.head? ≠ some ' ') :
    stripTag (name ++ (renderAttributes attributes ++ (tail ++ ending))) =
      name ++ (renderAttributes (stripAttributes false [] attributes tail).1 ++
        ((stripAttributes false [] attributes tail).2 ++ simpleStripJunos ending)) := by
  have opening : ((name ++ (renderAttributes attributes ++ (tail ++ ending))).head?.any
      fun c => c == '/' || c == '!' || c == '?') = false := by
    obtain ⟨nonempty, chars⟩ := isName_chars named
    obtain ⟨c, others, rfl⟩ := List.exists_cons_of_ne_nil nonempty
    exact isNameChar_opens (chars c List.mem_cons_self)
  have cut := @strip_attributes attributes tail ending formed cuttable spaces stop false []
  rw [List.nil_append, cutSpaces, if_neg Bool.false_ne_true] at cut
  rw [stripTag, opening, if_neg Bool.false_ne_true, stripJunosFromTagContent,
    simpleStripJunos_append unmarked bounded, cut]

section Slash

variable {slash : Text} (isSlash : slash = [] ∨ slash = ['/'])
include isSlash

theorem slash_bounded : Bounded slash := by
  rcases isSlash with rfl | rfl
  · rintro c ⟨⟩
  · exact bounded_cons (by decide)

theorem slash_stop : slash.head? ≠ some ' ' := by
  rcases isSlash with rfl | rfl <;> decide

theorem slash_kept : simpleStripJunos slash = slash := by
  rcases isSlash with rfl | rfl <;> rfl

theorem slash_plain : '>' ∉ slash := by
  rcases isSlash with rfl | rfl <;> decide

end Slash

theorem aside_closed (kind : Aside) (content : Text) :
    ∃ front, kind.render content = front ++ ['>'] := by
  cases kind with
  | comment => exact ⟨['<', '!', '-', '-'] ++ (content ++ ['-', '-']), by simp [Aside.render]⟩
  | instruction => exact ⟨['<', '?'] ++ (content ++ ['?']), by simp [Aside.render]⟩

end JunosMcp.Fingerprint
