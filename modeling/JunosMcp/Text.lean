import Mathlib.Algebra.GroupWithZero.Nat
import Mathlib.Data.List.Basic

/-!
# Rust text

The `str` operations the server uses, on the list of characters of a text.
-/

namespace JunosMcp

abbrev Text := List Char

instance : LawfulBEq Text := inferInstance

namespace Text

/-- Unicode `White_Space`, the property behind `char::is_whitespace`. -/
def isWhitespace (c : Char) : Bool :=
  (9 ≤ c.toNat && c.toNat ≤ 13) || c.toNat == 0x20 || c.toNat == 0x85 || c.toNat == 0xA0 ||
    c.toNat == 0x1680 || (0x2000 ≤ c.toNat && c.toNat ≤ 0x200A) || c.toNat == 0x2028 ||
    c.toNat == 0x2029 || c.toNat == 0x202F || c.toNat == 0x205F || c.toNat == 0x3000

def trim (text : Text) : Text :=
  ((text.dropWhile isWhitespace).reverse.dropWhile isWhitespace).reverse

def stripPrefix (needle text : Text) : Option Text := needle.isPrefixOf? text

def stripSuffix (needle text : Text) : Option Text := needle.isSuffixOf? text

def startsWith (text needle : Text) : Bool := (stripPrefix needle text).isSome

theorem startsWith_head {c d : Char} {rest needle : Text}
    (starts : startsWith (c :: rest) (d :: needle) = true) : d = c := by
  by_contra differ
  have none : List.isPrefixOf? (d :: needle) (c :: rest) = none := by
    rw [List.isPrefixOf?, if_neg (by simpa using differ)]
  rw [startsWith, stripPrefix, none] at starts
  cases starts

/-- The text behind the first match of the needle: `text.find(needle)` and the slice from there. -/
def findAfter (needle : Text) : Text → Option Text
  | [] => stripPrefix needle []
  | c :: rest => match stripPrefix needle (c :: rest) with
      | some tail => some tail
      | none => findAfter needle rest

def contains (text needle : Text) : Bool := (findAfter needle text).isSome

/-- A finished line, its characters in reverse, without the `\r` of a `\r\n`. -/
def finishLine : Text → Text
  | '\r' :: reversed => reversed.reverse
  | reversed => reversed.reverse

/-- `str::lines` with the characters of the open line in reverse. -/
def linesFrom (reversed : Text) : Text → List Text
  | [] => if reversed.isEmpty then [] else [reversed.reverse]
  | c :: rest =>
      if c == '\n' then finishLine reversed :: linesFrom [] rest
      else linesFrom (c :: reversed) rest

def lines (text : Text) : List Text := linesFrom [] text

def splitWhitespace (text : Text) : List Text :=
  (text.splitOnP isWhitespace).filter fun field => !field.isEmpty

theorem stripPrefix_eq_some {needle text rest : Text} :
    stripPrefix needle text = some rest ↔ text = needle ++ rest := by
  unfold stripPrefix
  induction needle generalizing text with
  | nil => simp [List.isPrefixOf?, eq_comm]
  | cons c needle ih =>
      cases text with
      | nil => simp [List.isPrefixOf?]
      | cons d text =>
          simp only [List.isPrefixOf?, List.cons_append, List.cons.injEq]
          by_cases same : c = d
          · subst same
            simp [ih]
          · simp [same, Ne.symm same]

theorem findAfter_of_stripPrefix {needle text tail : Text}
    (here : stripPrefix needle text = some tail) : findAfter needle text = some tail := by
  cases text with
  | nil => exact here
  | cons c rest => simp [findAfter, here]

theorem findAfter_eq_some {needle text tail : Text} (found : findAfter needle text = some tail) :
    ∃ before, text = before ++ needle ++ tail := by
  induction text with
  | nil => exact ⟨[], stripPrefix_eq_some.mp found⟩
  | cons c rest ih =>
      rw [findAfter] at found
      cases here : stripPrefix needle (c :: rest) with
      | some after =>
          rw [here] at found
          cases found
          exact ⟨[], stripPrefix_eq_some.mp here⟩
      | none =>
          rw [here] at found
          obtain ⟨before, split⟩ := ih found
          exact ⟨c :: before, by simp [split]⟩

theorem contains_append (before needle tail : Text) :
    contains (before ++ needle ++ tail) needle = true := by
  induction before with
  | nil =>
      have here := findAfter_of_stripPrefix (stripPrefix_eq_some.mpr (rfl : needle ++ tail = _))
      simp [contains, here]
  | cons c before ih =>
      simp only [contains, List.cons_append, findAfter] at ih ⊢
      split
      · rfl
      · exact ih

theorem dropWhile_append_stop {p : Char → Bool} {c : Char} (stop : p c = false)
    (before after : Text) :
    (before ++ c :: after).dropWhile p = before.dropWhile p ++ c :: after := by
  induction before with
  | nil => simp [List.dropWhile, stop]
  | cons d before ih =>
      cases keep : p d <;> simp [List.dropWhile, keep, ih]

/-- Trimming never cuts into a stretch that starts and ends with a visible character. -/
theorem trim_keeps {first last : Char} (visibleFirst : isWhitespace first = false)
    (visibleLast : isWhitespace last = false) (before middle after : Text) :
    ∃ front back, trim (before ++ first :: middle ++ last :: after) =
      front ++ first :: middle ++ last :: back := by
  refine ⟨before.dropWhile isWhitespace, (after.reverse.dropWhile isWhitespace).reverse, ?_⟩
  have reversed : ((before ++ first :: middle ++ last :: after).dropWhile isWhitespace).reverse =
      after.reverse ++ last :: (before.dropWhile isWhitespace ++ first :: middle).reverse := by
    rw [List.append_assoc, List.cons_append, dropWhile_append_stop visibleFirst]
    simp
  rw [trim, reversed, dropWhile_append_stop visibleLast]
  simp

theorem digit_visible {c : Char} (isDigit : c.isDigit) : isWhitespace c = false := by
  simp only [Char.isDigit, Bool.and_eq_true, decide_eq_true_eq, UInt32.le_iff_toNat_le] at isDigit
  have low : 48 ≤ c.toNat := isDigit.1
  have high : c.toNat ≤ 57 := isDigit.2
  simp only [isWhitespace, Bool.or_eq_false_iff, Bool.and_eq_false_iff, decide_eq_false_iff_not,
    beq_eq_false_iff_ne]
  omega

end Text
end JunosMcp
