import JunosMcp.Output

/-!
# The caps of the output

Lines are capped first and bytes after that. Each cap leaves a marker, and the cut of the bytes can
fall into lines that the cap of the lines has already counted.
-/

namespace JunosMcp

namespace Text

/-! ## Lines -/

theorem linesFrom_newline (reversed before after : Text) :
    (linesFrom reversed (before ++ '\n' :: after)).length =
      before.count '\n' + 1 + (lines after).length := by
  induction before generalizing reversed with
  | nil =>
      rw [List.nil_append, linesFrom, if_pos (by decide), List.length_cons, List.count_nil, lines]
      omega
  | cons c before ih =>
      rw [List.cons_append, linesFrom]
      by_cases broken : c = '\n'
      · subst broken
        rw [if_pos (by decide), List.length_cons, ih, List.count_cons_self]
        omega
      · rw [if_neg (by simpa using broken), ih, List.count_cons_of_ne broken]

theorem lines_newline (before after : Text) :
    (lines (before ++ '\n' :: after)).length = before.count '\n' + 1 + (lines after).length :=
  linesFrom_newline [] before after

theorem linesFrom_length_le (reversed text : Text) :
    (linesFrom reversed text).length ≤ text.count '\n' + 1 := by
  induction text generalizing reversed with
  | nil =>
      rw [linesFrom]
      split <;> simp
  | cons c rest ih =>
      rw [linesFrom]
      by_cases broken : c = '\n'
      · subst broken
        have bound := ih []
        rw [if_pos (by decide), List.length_cons, List.count_cons_self]
        omega
      · rw [if_neg (by simpa using broken), List.count_cons_of_ne broken]
        exact ih _

theorem linesFrom_unbroken (reversed line : Text) (unbroken : '\n' ∉ line) :
    linesFrom reversed line =
      if (reversed.reverse ++ line).isEmpty then [] else [reversed.reverse ++ line] := by
  induction line generalizing reversed with
  | nil => simp [linesFrom]
  | cons c line ih =>
      rw [List.mem_cons, not_or] at unbroken
      rw [linesFrom, if_neg (by simpa using Ne.symm unbroken.1), ih _ unbroken.2]
      simp

theorem lines_unbroken {line : Text} (unbroken : '\n' ∉ line) (some : line ≠ []) :
    lines line = [line] := by
  rw [lines, linesFrom_unbroken [] line unbroken]
  simp [some]

theorem finishLine_mem {reversed : Text} {c : Char} (member : c ∈ finishLine reversed) :
    c ∈ reversed := by
  unfold finishLine at member
  split at member
  · exact List.mem_cons_of_mem _ (List.mem_reverse.mp member)
  · exact List.mem_reverse.mp member

theorem mem_linesFrom_unbroken {reversed text line : Text} (open_ : '\n' ∉ reversed)
    (member : line ∈ linesFrom reversed text) : '\n' ∉ line := by
  induction text generalizing reversed with
  | nil =>
      rw [linesFrom] at member
      split at member
      · cases member
      · obtain rfl := List.mem_singleton.mp member
        exact fun broken => open_ (List.mem_reverse.mp broken)
  | cons c rest ih =>
      rw [linesFrom] at member
      split at member
      · rcases List.mem_cons.mp member with rfl | later
        · exact fun broken => open_ (finishLine_mem broken)
        · exact ih List.not_mem_nil later
      · next other =>
          refine ih ?_ member
          rw [List.mem_cons, not_or]
          exact ⟨fun same => other (by simp [← same]), open_⟩

theorem mem_lines_unbroken {text line : Text} (member : line ∈ lines text) : '\n' ∉ line :=
  mem_linesFrom_unbroken List.not_mem_nil member

end Text

open Text

theorem joinLines_cons (first second : Text) (rest : List Text) :
    joinLines (first :: second :: rest) = first ++ '\n' :: joinLines (second :: rest) := by
  simp [joinLines, List.intercalate]

theorem joinLines_count {group : List Text} (unbroken : ∀ line ∈ group, '\n' ∉ line) :
    (joinLines group).count '\n' = group.length - 1 := by
  induction group with
  | nil => rfl
  | cons first rest ih =>
      rw [List.forall_mem_cons] at unbroken
      have plain : first.count '\n' = 0 := List.count_eq_zero.mpr unbroken.1
      cases rest with
      | nil => simpa [joinLines, List.intercalate] using plain
      | cons second rest =>
          rw [joinLines_cons, List.count_append, List.count_cons_self, plain, ih unbroken.2]
          simp

/-! ## Bytes -/

theorem utf8Len_append (a b : Text) : utf8Len (a ++ b) = utf8Len a + utf8Len b := by
  simp [utf8Len]

theorem utf8Len_cons (c : Char) (a : Text) : utf8Len (c :: a) = c.utf8Size + utf8Len a := by
  simp [utf8Len]

theorem utf8Len_reverse (a : Text) : utf8Len a.reverse = utf8Len a := by
  simp [utf8Len]

theorem excerptWithin_isPrefix (budget : Nat) (s : Text) : excerptWithin budget s <+: s := by
  induction s generalizing budget with
  | nil => exact List.nil_prefix
  | cons c rest ih =>
      rw [excerptWithin]
      split
      · exact (List.prefix_cons_inj c).mpr (ih _)
      · exact List.nil_prefix

theorem excerptWithin_le (budget : Nat) (s : Text) : utf8Len (excerptWithin budget s) ≤ budget := by
  induction s generalizing budget with
  | nil => exact Nat.zero_le _
  | cons c rest ih =>
      rw [excerptWithin]
      split
      · next fits =>
          have bound := ih (budget - c.utf8Size)
          rw [utf8Len_cons]
          omega
      · exact Nat.zero_le _

theorem utf8Len_repr (n : Nat) : utf8Len (Nat.repr n).toList = (Nat.repr n).length := by
  have ascii : ∀ c ∈ (Nat.repr n).toList, c.utf8Size = 1 := by
    intro c member
    rw [Nat.toList_repr] at member
    have digit := Nat.isDigit_of_mem_toDigits (by omega) (by omega) member
    simp only [Char.isDigit, Bool.and_eq_true, decide_eq_true_eq] at digit
    rw [Char.utf8Size_eq_one_iff]
    exact UInt32.le_trans digit.2 (by decide)
  have length : (Nat.repr n).length = (Nat.toDigits 10 n).length := by
    rw [← String.length_toList, Nat.toList_repr]
  rw [utf8Len, List.map_congr_left ascii, length]
  simp

theorem repr_length_mono {m n : Nat} (le : m ≤ n) : (Nat.repr m).length ≤ (Nat.repr n).length :=
  (Nat.length_repr_le_iff Nat.length_repr_pos).mpr
    (Nat.lt_of_le_of_lt le ((Nat.length_repr_le_iff Nat.length_repr_pos).mp (Nat.le_refl _)))

theorem utf8Len_byteMarker (omitted : Nat) :
    utf8Len (byteMarker omitted) = 31 + (Nat.repr omitted).length := by
  have front : utf8Len (ellipsis :: " (truncated, ".toList) = 16 := by decide
  have back : utf8Len " bytes omitted)".toList = 15 := by decide
  rw [byteMarker, utf8Len_append, utf8Len_append, front, back, utf8Len_repr]
  omega

theorem repr_unbroken (n : Nat) : '\n' ∉ (Nat.repr n).toList := by
  intro member
  rw [Nat.toList_repr] at member
  exact absurd (Nat.isDigit_of_mem_toDigits (by omega) (by omega) member) (by decide)

theorem byteMarker_unbroken (omitted : Nat) : '\n' ∉ byteMarker omitted := by
  have front : '\n' ∉ ellipsis :: " (truncated, ".toList := by decide
  have back : '\n' ∉ " bytes omitted)".toList := by decide
  rw [byteMarker, List.mem_append, List.mem_append]
  exact not_or.mpr ⟨not_or.mpr ⟨front, repr_unbroken _⟩, back⟩

theorem lineMarker_unbroken (more : Nat) : '\n' ∉ lineMarker more := by
  have front : '\n' ∉ ellipsis :: " (truncated, ".toList := by decide
  have back : '\n' ∉ " more lines)".toList := by decide
  rw [lineMarker, List.mem_append, List.mem_append]
  exact not_or.mpr ⟨not_or.mpr ⟨front, repr_unbroken _⟩, back⟩

/-! ## Both caps -/

theorem applyLineCap_lines {cap : Nat} (positive : 0 < cap) (s : Text) (tail : Bool) :
    (lines (applyLineCap s (some cap) tail)).length ≤ cap := by
  rw [applyLineCap]
  by_cases fits : (lines s).length ≤ cap
  · simp only [fits, if_true]
  · have marker (more : Nat) : lines (lineMarker more) = [lineMarker more] :=
      lines_unbroken (lineMarker_unbroken more) (List.cons_ne_nil _ _)
    simp only [fits, if_false]
    by_cases one : cap - 1 = 0
    · simp only [one, if_true, marker, List.length_singleton]
      omega
    · simp only [one, if_false]
      cases tail with
      | true =>
          have kept (n : Nat) := @joinLines_count ((lines s).drop n) fun line member =>
            mem_lines_unbroken (List.mem_of_mem_drop member)
          have bound := linesFrom_length_le []
            (joinLines ((lines s).drop ((lines s).length - (cap - 1))))
          rw [if_pos rfl, lines_newline, List.count_eq_zero.mpr (lineMarker_unbroken _), lines]
          rw [kept, List.length_drop] at bound
          omega
      | false =>
          have kept (n : Nat) := @joinLines_count ((lines s).take n) fun line member =>
            mem_lines_unbroken (List.mem_of_mem_take member)
          rw [if_neg (by decide), lines_newline, kept (cap - 1), marker, List.length_take,
            List.length_singleton]
          omega

/-- The bytes left beside the marker of the byte cap. -/
def byteBudget (s : Text) (maxBytes : Nat) : Nat := maxBytes - (utf8Len (byteMarker (utf8Len s)) + 1)

theorem applyByteCap_head {s : Text} {maxBytes : Nat} (over_ : ¬utf8Len s ≤ maxBytes) :
    applyByteCap s (some maxBytes) false =
      excerptWithin (byteBudget s maxBytes) s ++ '\n' ::
        byteMarker (utf8Len s - utf8Len (excerptWithin (byteBudget s maxBytes) s)) := by
  simp only [applyByteCap, over_, if_false]
  rfl

theorem applyByteCap_tail {s : Text} {maxBytes : Nat} (over_ : ¬utf8Len s ≤ maxBytes) :
    applyByteCap s (some maxBytes) true =
      byteMarker (utf8Len s - utf8Len (excerptWithin (byteBudget s maxBytes) s.reverse).reverse) ++
        '\n' :: (excerptWithin (byteBudget s maxBytes) s.reverse).reverse := by
  simp only [applyByteCap, over_, if_false, if_true]
  rfl

/-- The byte cap holds exactly where its own marker has room. -/
theorem applyByteCap_bytes_iff {s : Text} {maxBytes : Nat} {tail : Bool} :
    utf8Len (applyByteCap s (some maxBytes) tail) ≤ maxBytes ↔
      utf8Len s ≤ maxBytes ∨ utf8Len (byteMarker (utf8Len s)) < maxBytes := by
  by_cases fits : utf8Len s ≤ maxBytes
  · simp [applyByteCap, fits]
  · have cut (kept : Text) (within : utf8Len kept ≤ byteBudget s maxBytes) :
        utf8Len kept + (1 + utf8Len (byteMarker (utf8Len s - utf8Len kept))) ≤ maxBytes ↔
          utf8Len (byteMarker (utf8Len s)) < maxBytes := by
      have digits := repr_length_mono (Nat.sub_le (utf8Len s) (utf8Len kept))
      simp only [byteBudget, utf8Len_byteMarker] at within ⊢
      by_cases empty : utf8Len kept = 0
      · rw [empty, Nat.sub_zero]
        omega
      · omega
    have newline : Char.utf8Size '\n' = 1 := rfl
    rw [or_iff_right fits]
    cases tail with
    | true =>
        have within := excerptWithin_le (byteBudget s maxBytes) s.reverse
        rw [← utf8Len_reverse] at within
        rw [applyByteCap_tail fits, utf8Len_append, utf8Len_cons, newline, ← cut _ within]
        omega
    | false =>
        rw [applyByteCap_head fits, utf8Len_append, utf8Len_cons, newline]
        exact cut _ (excerptWithin_le _ _)

/-- The lines the byte cap keeps, with the one its cut ends. -/
def keptLines (s : Text) (maxBytes : Nat) (tail : Bool) : Nat :=
  if tail then (lines (excerptWithin (byteBudget s maxBytes) s.reverse).reverse).length
  else (excerptWithin (byteBudget s maxBytes) s).count '\n' + 1

theorem applyByteCap_lines {s : Text} {maxBytes : Nat} {tail : Bool}
    (over_ : ¬utf8Len s ≤ maxBytes) :
    (lines (applyByteCap s (some maxBytes) tail)).length = keptLines s maxBytes tail + 1 := by
  cases tail with
  | true =>
      rw [applyByteCap_tail over_, lines_newline, List.count_eq_zero.mpr (byteMarker_unbroken _),
        keptLines, if_pos rfl]
      omega
  | false =>
      rw [applyByteCap_head over_, lines_newline,
        lines_unbroken (byteMarker_unbroken _) (List.cons_ne_nil _ _), keptLines,
        if_neg (by decide)]
      rfl

/-- The text of the line cap is within the bytes, or what the byte cap keeps of it leaves room for
the marker and for the marker's line. -/
def LeavesRoom (maxLines maxBytes : Nat) (tail : Bool) (s : Text) : Prop :=
  utf8Len s ≤ maxBytes ∨
    utf8Len (byteMarker (utf8Len s)) < maxBytes ∧ keptLines s maxBytes tail < maxLines

/-- Every text that fits into memory leaves room for the marker in the bytes the tools accept. -/
theorem byteMarker_fits {s : Text} {maxBytes : Nat} (accepted : 64 ≤ maxBytes)
    (stored : utf8Len s < 10 ^ 32) : utf8Len (byteMarker (utf8Len s)) < maxBytes := by
  have digits := (Nat.length_repr_le_iff (by decide)).mpr stored
  rw [utf8Len_byteMarker]
  omega

theorem processOutput_within_iff {regexes : Regexes} {command raw : Text} {maxLines maxBytes : Nat}
    {tail : Bool} (positive : 0 < maxLines) :
    (utf8Len (processOutput regexes command ⟨some maxLines, some maxBytes, tail⟩ raw) ≤ maxBytes ∧
        (lines (processOutput regexes command ⟨some maxLines, some maxBytes, tail⟩ raw)).length ≤
          maxLines) ↔
      LeavesRoom maxLines maxBytes tail
        (applyLineCap (applyPipeModifiers regexes command raw) (some maxLines) tail) := by
  have capped := applyLineCap_lines positive (applyPipeModifiers regexes command raw) tail
  rw [processOutput, LeavesRoom]
  generalize applyLineCap (applyPipeModifiers regexes command raw) (some maxLines) tail = s at *
  by_cases fits : utf8Len s ≤ maxBytes
  · simp [applyByteCap, fits, capped]
  · rw [applyByteCap_bytes_iff, applyByteCap_lines fits, or_iff_right fits, or_iff_right fits]
    exact and_congr_right fun _ => Nat.succ_le_iff

/-- One line that is longer than the bytes allow. -/
def longLine : Text := List.replicate 65 'a'

theorem long_line_within_iff :
    (utf8Len (processOutput (fun _ => none) "show x".toList ⟨some 1, some 64, false⟩ longLine) ≤ 64 ∧
        (lines (processOutput (fun _ => none) "show x".toList ⟨some 1, some 64, false⟩
          longLine)).length ≤ 1) ↔
      LeavesRoom 1 64 false
        (applyLineCap (applyPipeModifiers (fun _ => none) "show x".toList longLine) (some 1) false) :=
  processOutput_within_iff (by decide)

/-- The marker of the byte cap is a second line. -/
theorem long_line_takes_two :
    ¬∀ (regexes : Regexes) (command raw : Text) (tail : Bool) (maxLines maxBytes : Nat),
      1 ≤ maxLines → 64 ≤ maxBytes →
        utf8Len (processOutput regexes command ⟨some maxLines, some maxBytes, tail⟩ raw) ≤
            maxBytes ∧
          (lines (processOutput regexes command ⟨some maxLines, some maxBytes, tail⟩ raw)).length ≤
            maxLines := by
  intro within
  have bound := (within (fun _ => none) "show x".toList longLine false 1 64 (by decide)
    (by decide)).2
  exact absurd bound (by decide)

/-! ## Which end is kept -/

/-- A part at the end the caller asked for. -/
def Keeps (tail : Bool) (part whole : Text) : Prop :=
  if tail then part <:+ whole else part <+: whole

/-- The text behind or in front of what is kept. -/
def beside (tail : Bool) (kept marks : Text) : Text := if tail then marks ++ kept else kept ++ marks

/-- The marker of the line cap, with the line break between it and the text. -/
def IsLineMark (tail : Bool) (mark : Text) : Prop :=
  ∃ more, mark = lineMarker more ∨ mark = beside tail ['\n'] (lineMarker more)

/-- No marker, the marker of the line cap, or the marker of the byte cap with what its cut has left
of the other. -/
def IsMarks (tail : Bool) (marks : Text) : Prop :=
  marks = [] ∨ IsLineMark tail marks ∨
    ∃ omitted cut, (∃ whole, (whole = [] ∨ IsLineMark tail whole) ∧ Keeps tail cut whole) ∧
      marks = beside tail (beside tail cut ['\n']) (byteMarker omitted)

/-- The text without its markers. -/
def IsUnmarked (tail : Bool) (out kept : Text) : Prop :=
  ∃ marks, IsMarks tail marks ∧ out = beside tail kept marks

/-- The piped output as the caps see it: over the line cap, its lines with a newline between them. -/
def cappedText (maxLines : Option Nat) (piped : Text) : Text :=
  match maxLines with
  | none => piped
  | some cap => if (lines piped).length ≤ cap then piped else joinLines (lines piped)

theorem joinLines_append {front back : List Text} (some : back ≠ []) :
    joinLines (front ++ back) = (front.flatMap fun line => line ++ ['\n']) ++ joinLines back := by
  induction front with
  | nil => rfl
  | cons line front ih =>
      have more : front ++ back ≠ [] := by simp [some]
      obtain ⟨second, rest, same⟩ := List.exists_cons_of_ne_nil more
      rw [List.cons_append, same, joinLines_cons, ← same, ih, List.flatMap_cons]
      simp

theorem joinLines_take_prefix (n : Nat) (group : List Text) :
    joinLines (group.take n) <+: joinLines group := by
  induction group generalizing n with
  | nil => simp
  | cons first rest ih =>
      cases n with
      | zero => exact List.nil_prefix
      | succ n =>
          rw [List.take_succ_cons]
          cases rest with
          | nil => simp
          | cons second rest =>
              cases n with
              | zero => exact ⟨'\n' :: joinLines (second :: rest), by
                  rw [joinLines_cons]; simp [joinLines, List.intercalate]⟩
              | succ n =>
                  have later := ih (n + 1)
                  rw [List.take_succ_cons] at later ⊢
                  rw [joinLines_cons, joinLines_cons, List.prefix_append_right_inj,
                    List.prefix_cons_inj]
                  exact later

theorem joinLines_drop_suffix {n : Nat} {group : List Text} (inside : n < group.length) :
    joinLines (group.drop n) <:+ joinLines group := by
  have back : group.drop n ≠ [] := by
    simp only [ne_eq, List.drop_eq_nil_iff]
    omega
  have whole := @joinLines_append (group.take n) _ back
  rw [List.take_append_drop] at whole
  exact ⟨_, whole.symm⟩

theorem prefix_append_cases {part front back : Text} (starts : part <+: front ++ back) :
    part <+: front ∨ ∃ cut, cut <+: back ∧ part = front ++ cut := by
  obtain ⟨rest, same⟩ := starts
  rcases List.append_eq_append_iff.mp same with ⟨gap, rfl, _⟩ | ⟨gap, rfl, more⟩
  · exact .inl (List.prefix_append _ _)
  · exact .inr ⟨gap, ⟨rest, more.symm⟩, rfl⟩

theorem suffix_append_cases {part front back : Text} (ends : part <:+ front ++ back) :
    part <:+ back ∨ ∃ cut, cut <:+ front ∧ part = cut ++ back := by
  obtain ⟨rest, same⟩ := ends
  rcases List.append_eq_append_iff.mp same with ⟨gap, rfl, more⟩ | ⟨gap, rfl, rfl⟩
  · exact .inr ⟨gap, ⟨rest, rfl⟩, more⟩
  · exact .inl (List.suffix_append _ _)

/-- A part of text and marks is a part of the text, or the text with a part of the marks. -/
theorem keeps_beside_cases {tail : Bool} {part kept marks : Text}
    (part_ : Keeps tail part (beside tail kept marks)) :
    Keeps tail part kept ∨ ∃ cut, Keeps tail cut marks ∧ part = beside tail kept cut := by
  cases tail with
  | true => exact suffix_append_cases part_
  | false => exact prefix_append_cases part_

theorem Keeps.trans {tail : Bool} {a b c : Text} (first : Keeps tail a b) (second : Keeps tail b c) :
    Keeps tail a c := by
  cases tail with
  | true => exact List.IsSuffix.trans first second
  | false => exact List.IsPrefix.trans first second

theorem keeps_refl (tail : Bool) (a : Text) : Keeps tail a a := by
  cases tail with
  | true => exact List.suffix_refl a
  | false => exact List.prefix_refl a

theorem keeps_nil (tail : Bool) (a : Text) : Keeps tail [] a := by
  cases tail with
  | true => exact List.nil_suffix
  | false => exact List.nil_prefix

theorem beside_assoc (tail : Bool) (a b c : Text) :
    beside tail (beside tail a b) c = beside tail a (beside tail b c) := by
  cases tail <;> simp [beside]

theorem beside_nil (tail : Bool) (a : Text) : beside tail a [] = a := by
  cases tail <;> simp [beside]

/-- The line cap keeps lines at one end. -/
theorem applyLineCap_unmarked (s : Text) (maxLines : Option Nat) (tail : Bool) :
    ∃ kept mark, Keeps tail kept (cappedText maxLines s) ∧ (mark = [] ∨ IsLineMark tail mark) ∧
      applyLineCap s maxLines tail = beside tail kept mark := by
  cases maxLines with
  | none => exact ⟨s, [], keeps_refl _ _, .inl rfl, (beside_nil _ _).symm⟩
  | some cap =>
      by_cases fits : (lines s).length ≤ cap
      · refine ⟨s, [], ?_, .inl rfl, ?_⟩
        · simpa only [cappedText, fits, if_true] using keeps_refl tail s
        · simp only [applyLineCap, fits, if_true, beside_nil]
      · by_cases one : cap - 1 = 0
        · refine ⟨[], lineMarker ((lines s).length - (cap - 1)), keeps_nil _ _,
            .inr ⟨_, .inl rfl⟩, ?_⟩
          cases tail <;> simp [applyLineCap, fits, one, beside]
        · have text : cappedText (some cap) s = joinLines (lines s) := by
            simp only [cappedText, fits, if_false]
          cases tail with
          | true =>
              refine ⟨joinLines ((lines s).drop ((lines s).length - (cap - 1))), _, ?_,
                .inr ⟨(lines s).length - (cap - 1), .inr rfl⟩, ?_⟩
              · rw [text]
                exact joinLines_drop_suffix (by omega)
              · simp [applyLineCap, fits, one, beside]
          | false =>
              refine ⟨joinLines ((lines s).take (cap - 1)), _, ?_,
                .inr ⟨(lines s).length - (cap - 1), .inr rfl⟩, ?_⟩
              · rw [text]
                exact joinLines_take_prefix _ _
              · simp [applyLineCap, fits, one, beside]

/-- The byte cap keeps a part at the same end, in front of or behind its marker. -/
theorem applyByteCap_keeps (s : Text) (maxBytes : Option Nat) (tail : Bool) :
    applyByteCap s maxBytes tail = s ∨ ∃ part omitted, Keeps tail part s ∧
      applyByteCap s maxBytes tail = beside tail (beside tail part ['\n']) (byteMarker omitted) := by
  cases maxBytes with
  | none => exact .inl rfl
  | some cap =>
      by_cases fits : utf8Len s ≤ cap
      · exact .inl (by simp only [applyByteCap, fits, if_true])
      · refine .inr ?_
        cases tail with
        | true =>
            refine ⟨(excerptWithin (byteBudget s cap) s.reverse).reverse,
              utf8Len s - utf8Len (excerptWithin (byteBudget s cap) s.reverse).reverse, ?_, ?_⟩
            · have part := List.reverse_suffix.mpr (excerptWithin_isPrefix (byteBudget s cap) s.reverse)
              rwa [List.reverse_reverse] at part
            · rw [applyByteCap_tail fits]
              rfl
        | false =>
            refine ⟨excerptWithin (byteBudget s cap) s,
              utf8Len s - utf8Len (excerptWithin (byteBudget s cap) s),
              excerptWithin_isPrefix _ _, ?_⟩
            rw [applyByteCap_head fits]
            simp [beside]

/-- Neither cap is exceeded. -/
def WithinCaps (caps : OutputCaps) (piped : Text) : Prop :=
  (∀ cap, caps.maxLines = some cap → (lines piped).length ≤ cap) ∧
    ∀ cap, caps.maxBytes = some cap → utf8Len piped ≤ cap

theorem capped_within {caps : OutputCaps} {piped : Text} (within : WithinCaps caps piped) :
    applyByteCap (applyLineCap piped caps.maxLines caps.tail) caps.maxBytes caps.tail = piped := by
  have byLines : applyLineCap piped caps.maxLines caps.tail = piped := by
    cases same : caps.maxLines with
    | none => rfl
    | some cap => simp only [applyLineCap, within.1 cap same, if_true]
  rw [byLines]
  cases same : caps.maxBytes with
  | none => rfl
  | some cap => simp only [applyByteCap, within.2 cap same, if_true]

/-- Without its markers the output is a part of the capped text, at the end the caller asked for,
and without a cap that is exceeded it is the piped output. -/
theorem processOutput_keeps (regexes : Regexes) (command raw : Text) (caps : OutputCaps) :
    (∃ kept, IsUnmarked caps.tail (processOutput regexes command caps raw) kept ∧
        Keeps caps.tail kept
          (cappedText caps.maxLines (applyPipeModifiers regexes command raw))) ∧
      (WithinCaps caps (applyPipeModifiers regexes command raw) →
        processOutput regexes command caps raw = applyPipeModifiers regexes command raw) := by
  refine ⟨?_, fun within => capped_within within⟩
  rw [processOutput]
  generalize applyPipeModifiers regexes command raw = piped
  obtain ⟨kept, mark, part, marked, byLines⟩ :=
    applyLineCap_unmarked piped caps.maxLines caps.tail
  rw [byLines]
  rcases applyByteCap_keeps (beside caps.tail kept mark) caps.maxBytes caps.tail with
    same | ⟨cut, omitted, within, same⟩
  · rw [same]
    refine ⟨kept, ⟨mark, ?_, rfl⟩, part⟩
    rcases marked with none | line
    · exact .inl none
    · exact .inr (.inl line)
  · rw [same]
    rcases keeps_beside_cases within with inside | ⟨rest, ofMark, rfl⟩
    · refine ⟨cut, ⟨_, .inr (.inr ⟨omitted, [], ⟨[], .inl rfl, keeps_refl _ _⟩, rfl⟩), ?_⟩,
        inside.trans part⟩
      cases caps.tail <;> simp [beside]
    · refine ⟨kept, ⟨_, .inr (.inr ⟨omitted, rest, ⟨mark, marked, ofMark⟩, rfl⟩), ?_⟩, part⟩
      rw [beside_assoc, beside_assoc, beside_assoc]

/-! ### The newline of the last line -/

theorem beside_getLast? {kept marks : Text} {c : Char}
    (last : (beside true kept marks).getLast? = some c) :
    kept.getLast? = some c ∨ kept = [] ∧ marks.getLast? = some c := by
  cases kept with
  | nil => exact .inr ⟨rfl, by simpa [beside] using last⟩
  | cons d kept => exact .inl (by simpa [beside, List.getLast?_append] using last)

theorem lineMarker_getLast? (more : Nat) : (lineMarker more).getLast? = some ')' := by
  rw [lineMarker, List.getLast?_append]
  rfl

theorem lineMark_getLast? {mark : Text} {c : Char} (isMark : IsLineMark true mark)
    (last : mark.getLast? = some c) : c = ')' ∨ c = '\n' := by
  obtain ⟨more, rfl | rfl⟩ := isMark
  · rw [lineMarker_getLast?] at last
    exact .inl (Option.some.inj last).symm
  · rw [beside, if_pos rfl, List.getLast?_append] at last
    exact .inr (Option.some.inj last).symm

/-- In front of the text, every marker ends in a bracket or in a line break. -/
theorem marks_getLast? {marks : Text} {c : Char} (isMarks : IsMarks true marks)
    (last : marks.getLast? = some c) : c = ')' ∨ c = '\n' := by
  rcases isMarks with rfl | line | ⟨omitted, cut, ⟨whole, marked, part⟩, rfl⟩
  · cases last
  · exact lineMark_getLast? line last
  · rcases beside_getLast? last with behind | ⟨empty, _⟩
    · rw [beside, if_pos rfl, List.getLast?_append] at behind
      cases ends : cut.getLast? with
      | none =>
          rw [ends] at behind
          exact .inr (Option.some.inj behind).symm
      | some d =>
          rw [ends] at behind
          obtain rfl := Option.some.inj behind
          obtain ⟨front, rfl⟩ := part
          have wholeEnds : (front ++ cut).getLast? = some d := by
            rw [List.getLast?_append, ends]
            rfl
          rcases marked with none | line
          · rw [none] at wholeEnds
            cases wholeEnds
          · exact lineMark_getLast? line wholeEnds
    · cases cut <;> cases empty

def threeLines : Text := "a\nb\nc\n".toList

/-- Of the newest lines the last one comes back without its newline. -/
theorem last_newline_lost :
    ¬∀ (regexes : Regexes) (command raw : Text) (caps : OutputCaps),
      (∃ kept, IsUnmarked caps.tail (processOutput regexes command caps raw) kept ∧
          Keeps caps.tail kept (applyPipeModifiers regexes command raw)) ∧
        (WithinCaps caps (applyPipeModifiers regexes command raw) →
          processOutput regexes command caps raw = applyPipeModifiers regexes command raw) := by
  intro holds
  obtain ⟨⟨kept, ⟨marks, isMarks, same⟩, suffix⟩, _⟩ :=
    holds (fun _ => none) "show x".toList threeLines ⟨some 2, none, true⟩
  have last : (beside true kept marks).getLast? = some 'c' :=
    same ▸ (by decide : (processOutput (fun _ => none) "show x".toList ⟨some 2, none, true⟩
      threeLines).getLast? = some 'c')
  rcases beside_getLast? last with ofKept | ⟨_, ofMarks⟩
  · obtain ⟨front, whole⟩ := suffix
    have newline : (front ++ kept).getLast? = some '\n' := whole ▸ (by decide :
      (applyPipeModifiers (fun _ => none) "show x".toList threeLines).getLast? = some '\n')
    rw [List.getLast?_append, ofKept, Option.some_or] at newline
    cases newline
  · exact absurd (marks_getLast? isMarks ofMarks) (by decide)

end JunosMcp
