import Mathlib.Data.List.TakeWhile
import JunosMcp.Lib.DottedQuad
import JunosMcp.Transfer.Checks

/-!
# The copy program's errors

What is taken out of the text that `scp` printed before it is reported, and what is left.
-/

namespace JunosMcp.Transfer
open Text JunosMcp.Lib

/-! ## What is to be hidden -/

def isPathChar (c : Char) : Bool :=
  c.isAlphanum || c == '/' || c == '.' || c == '_' || c == '-' || c == '+'

def IsPath (text : Text) : Prop :=
  ∃ run, text = '/' :: run ∧ run ≠ [] ∧ ∀ c ∈ run, isPathChar c = true

abbrev IsAddress : Text → Prop := IsDotted Char.isDigit '.' 3

abbrev AddressAt : Text → Prop := NumberAt Char.isDigit '.' 3

/-- No path of the first text, and no address, is in the second. -/
def Hides (input output : Text) : Prop :=
  ∀ secret, IsPath secret ∨ IsAddress secret → secret <:+: input → ¬ secret <:+: output

/-- Some paths and addresses are replaced, and all other text is kept. -/
inductive Redacts : Text → Text → Prop
  | done : Redacts [] []
  | path {path rest output : Text} (isPath : IsPath path) (redacts : Redacts rest output) :
      Redacts (path ++ rest) ("<path>".toList ++ output)
  | host {address rest output : Text} (isAddress : IsAddress address)
      (redacts : Redacts rest output) : Redacts (address ++ rest) ("<host>".toList ++ output)
  | keep (c : Char) {rest output : Text} (redacts : Redacts rest output) :
      Redacts (c :: rest) (c :: output)

/-- The text ends inside a path. -/
def InPath (text : Text) : Prop :=
  ∃ front run, text = front ++ '/' :: run ∧ ∀ c ∈ run, isPathChar c = true

/-! ## Letters of one byte -/

def isAscii (c : Char) : Bool := c.toNat < 128

def latin (byte : UInt8) : Char := Char.ofNat byte.toNat

theorem latin_toNat (byte : UInt8) : (latin byte).toNat = byte.toNat := by
  have valid : byte.toNat.isValidChar := .inl (byte.toNat_lt.trans (by decide))
  rw [latin, Char.ofNat, dif_pos valid]
  rfl

theorem latin_eq_iff (byte other : UInt8) : latin byte = latin other ↔ byte = other := by
  constructor
  · intro same
    have nat := congrArg Char.toNat same
    rw [latin_toNat, latin_toNat] at nat
    exact UInt8.toNat_inj.mp nat
  · intro same
    rw [same]

theorem latin_within (byte low high : UInt8) :
    (decide ((latin byte).val ≥ (latin low).val) && decide ((latin byte).val ≤ (latin high).val)) =
      (decide (low ≤ byte) && decide (byte ≤ high)) := by
  have bounds (first second : UInt8) : (latin first).val ≤ (latin second).val ↔ first ≤ second := by
    rw [UInt32.le_iff_toNat_le, UInt8.le_iff_toNat_le]
    change (latin first).toNat ≤ (latin second).toNat ↔ _
    rw [latin_toNat, latin_toNat]
  exact congrArg₂ and (decide_eq_decide.mpr (bounds low byte))
    (decide_eq_decide.mpr (bounds byte high))

theorem latin_isDigit (byte : UInt8) : (latin byte).isDigit = isDigit byte :=
  latin_within byte 48 57

theorem latin_isDot (byte : UInt8) : latin byte = '.' ↔ byte = 46 := latin_eq_iff byte 46

theorem latin_isPathChar (byte : UInt8) : isPathChar (latin byte) = isPathByte byte := by
  have mark (other : UInt8) : (latin byte == latin other) = (byte == other) := by
    rw [Bool.eq_iff_iff, beq_iff_eq, beq_iff_eq, latin_eq_iff]
  have alphanumeric : (latin byte).isAlphanum =
      (isDigit byte || (65 ≤ byte && byte ≤ 90) || (97 ≤ byte && byte ≤ 122)) := by
    have upper : (latin byte).isUpper = (decide (65 ≤ byte) && decide (byte ≤ 90)) := by
      rw [← latin_within]
      exact Bool.decide_and _ _
    have lower : (latin byte).isLower = (decide (97 ≤ byte) && decide (byte ≤ 122)) :=
      latin_within byte 97 122
    have classes : (latin byte).isAlphanum =
        ((latin byte).isUpper || (latin byte).isLower || (latin byte).isDigit) := rfl
    rw [classes, upper, lower, latin_isDigit, Bool.or_comm, Bool.or_assoc]
  rw [isPathChar, alphanumeric, isPathByte, ← mark 47, ← mark 46, ← mark 95, ← mark 45, ← mark 43]
  rfl

theorem utf8EncodeChar_ascii {c : Char} (ascii : isAscii c = true) :
    (String.utf8EncodeChar c).map latin = [c] := by
  have bound : c.val.toNat ≤ 127 := Nat.le_of_lt_succ (of_decide_eq_true ascii)
  have same : (UInt8.ofNat c.val.toNat).toNat = c.toNat :=
    UInt8.toNat_ofNat_of_lt' (bound.trans_lt (by decide))
  rw [String.utf8EncodeChar, if_pos bound]
  simp only [List.map_cons, List.map_nil, latin, same, Char.ofNat_toNat]

/-- The encoding of any other character begins with two bytes that are no ASCII. -/
theorem utf8EncodeChar_wide {c : Char} (wide : isAscii c = false) :
    ∃ first second rest, String.utf8EncodeChar c = first :: second :: rest ∧
      isAscii (latin first) = false ∧ isAscii (latin second) = false := by
  have large : ¬ c.val.toNat ≤ 127 := fun bound => of_decide_eq_false wide (Nat.lt_succ_of_le bound)
  have high {n : Nat} (low : 128 ≤ n) (bound : n < 256) :
      isAscii (latin (UInt8.ofNat n)) = false := by
    refine decide_eq_false ?_
    rw [latin_toNat, UInt8.toNat_ofNat_of_lt' bound]
    omega
  rw [String.utf8EncodeChar, if_neg large]
  split
  · exact ⟨_, _, _, rfl, high (by omega) (by omega), high (by omega) (by omega)⟩
  · split
    · exact ⟨_, _, _, rfl, high (by omega) (by omega), high (by omega) (by omega)⟩
    · exact ⟨_, _, _, rfl, high (by omega) (by omega), high (by omega) (by omega)⟩

/-- The text that the bytes are copied to, one character for each. -/
def readLatin (text : Text) : Text := (utf8Bytes text).map latin

theorem readLatin_eq (text : Text) :
    readLatin text = text.flatMap fun c => (String.utf8EncodeChar c).map latin := by
  rw [readLatin, ← List.map_flatMap]
  simp [utf8Bytes, List.utf8Encode]

theorem readLatin_ascii {text : Text} (ascii : text.all isAscii = true) :
    readLatin text = text := by
  rw [readLatin_eq]
  induction text with
  | nil => rfl
  | cons c rest ih =>
      obtain ⟨here, later⟩ := Bool.and_eq_true_iff.mp ascii
      rw [List.flatMap_cons, utf8EncodeChar_ascii here, ih later]
      rfl

def wideCount (text : Text) : Nat := text.countP fun c => !isAscii c

theorem wideCount_append (front back : Text) :
    wideCount (front ++ back) = wideCount front + wideCount back := List.countP_append

/-- Every character that is no ASCII makes two at least. -/
theorem wideCount_readLatin (text : Text) : 2 * wideCount text ≤ wideCount (readLatin text) := by
  rw [readLatin_eq]
  induction text with
  | nil => exact le_rfl
  | cons c rest ih =>
      rw [List.flatMap_cons, wideCount_append, wideCount, List.countP_cons, ← wideCount]
      cases width : isAscii c with
      | true =>
          simp only [Bool.not_true, Bool.false_eq_true, if_false]
          omega
      | false =>
          obtain ⟨first, second, others, encoded, firstWide, secondWide⟩ :=
            utf8EncodeChar_wide width
          rw [encoded]
          simp only [wideCount, List.map_cons, List.countP_cons, firstWide, secondWide,
            Bool.not_false, if_true] at ih ⊢
          omega

/-! ## The scan -/

/-- What the scanner does with a text of one byte for each character. -/
inductive Scans : Text → Text → Prop
  | done : Scans [] []
  | path {run rest output : Text} (nonempty : run ≠ []) (inRun : ∀ c ∈ run, isPathChar c = true)
      (ends : ∀ c ∈ rest.head?, isPathChar c = false) (scans : Scans rest output) :
      Scans ('/' :: (run ++ rest)) ("<path>".toList ++ output)
  | host {address rest output : Text} (isAddress : IsAddress address)
      (ends : Ends Char.isDigit '.' rest) (scans : Scans rest output) :
      Scans (address ++ rest) ("<host>".toList ++ output)
  | keep {c : Char} {rest output : Text} (noAddress : ¬ AddressAt (c :: rest))
      (noPath : c = '/' → ∀ d ∈ rest.head?, isPathChar d = false) (scans : Scans rest output) :
      Scans (c :: rest) (c :: output)

theorem skipOctet_shape {bytes rest : Bytes} (skipped : skipOctet bytes = some rest) :
    ∃ run, bytes = run ++ rest ∧ IsOctet isDigit run := by
  unfold skipOctet at skipped
  dsimp only at skipped
  split at skipped
  · cases skipped
  · rename_i nonempty
    have pre : (bytes.take 3).takeWhile isDigit <+: bytes :=
      (List.takeWhile_prefix _).trans (List.take_prefix 3 bytes)
    refine ⟨(bytes.take 3).takeWhile isDigit, ?_, ?_, ?_, ?_⟩
    · rw [← Option.some.inj skipped]
      exact (List.prefix_append_drop pre)
    · intro none
      rw [none] at nonempty
      exact nonempty rfl
    · exact (List.takeWhile_sublist _).length_le.trans (List.length_take_le 3 bytes)
    · intro byte inside
      exact List.mem_takeWhile_imp inside

theorem skipOctet_append {run rest : Bytes} (octet : IsOctet isDigit run)
    (ends : ∀ byte ∈ rest.head?, isDigit byte = false) : skipOctet (run ++ rest) = some rest := by
  have stops : (rest.take (3 - run.length)).takeWhile isDigit = [] := by
    cases rest with
    | nil => rw [List.take_nil, List.takeWhile_nil]
    | cons byte rest =>
        cases 3 - run.length with
        | zero => rfl
        | succ room => exact List.takeWhile_cons_of_neg (by simp [ends byte rfl])
  have digits : ((run ++ rest).take 3).takeWhile isDigit = run := by
    rw [List.take_append, List.take_of_length_le octet.short,
      List.takeWhile_append_of_pos octet.digits, stops, List.append_nil]
  unfold skipOctet
  rw [digits, if_neg (by simpa using octet.nonempty), List.drop_left]

/-- Behind one octet and its dot. -/
def skipGroup (bytes : Bytes) : Option Bytes := (skipOctet bytes).bind skipDot

/-- Behind the last octet. -/
def skipLast (bytes : Bytes) : Option Bytes :=
  (skipOctet bytes).bind fun rest =>
    match rest with
    | next :: _ => if isDigit next || next == 46 then none else some rest
    | [] => some rest

theorem matchIpv4_eq (bytes : Bytes) :
    matchIpv4 bytes =
      (skipGroup bytes).bind fun first =>
        (skipGroup first).bind fun second => (skipGroup second).bind skipLast := by
  simp only [matchIpv4, skipGroup, Option.bind_eq_bind, Option.bind_assoc]
  rfl

theorem skipGroup_iff {bytes rest : Bytes} :
    skipGroup bytes = some rest ↔ ∃ group, bytes = group ++ 46 :: rest ∧ IsOctet isDigit group := by
  constructor
  · intro skipped
    obtain ⟨behind, octet, dotted⟩ := Option.bind_eq_some_iff.mp skipped
    obtain ⟨group, rfl, isOctet⟩ := skipOctet_shape octet
    unfold skipDot at dotted
    split at dotted
    · rw [Option.some.inj dotted]
      exact ⟨group, rfl, isOctet⟩
    · cases dotted
  · rintro ⟨group, rfl, octet⟩
    have ends : ∀ byte ∈ (46 :: rest).head?, isDigit byte = false := by
      rintro byte ⟨⟩
      rfl
    rw [skipGroup, skipOctet_append octet ends]
    rfl

theorem skipLast_iff {bytes rest : Bytes} :
    skipLast bytes = some rest ↔
      ∃ run, bytes = run ++ rest ∧ IsOctet isDigit run ∧ Ends isDigit 46 rest := by
  constructor
  · intro skipped
    obtain ⟨behind, octet, atEnd⟩ := Option.bind_eq_some_iff.mp skipped
    obtain ⟨run, rfl, isOctet⟩ := skipOctet_shape octet
    cases behind with
    | nil =>
        rw [← Option.some.inj atEnd]
        exact ⟨run, rfl, isOctet, trivial⟩
    | cons next behind =>
        dsimp only at atEnd
        split at atEnd
        · cases atEnd
        · rename_i free
          rw [← Option.some.inj atEnd]
          obtain ⟨noDigit, noDot⟩ := not_or.mp (mt Bool.or_eq_true_iff.mpr free)
          exact ⟨run, rfl, isOctet, eq_false_of_ne_true noDigit,
            fun same => noDot (beq_iff_eq.mpr same)⟩
  · rintro ⟨run, rfl, octet, ends⟩
    cases rest with
    | nil =>
        rw [skipLast, skipOctet_append octet (by rintro byte ⟨⟩)]
        rfl
    | cons next rest =>
        obtain ⟨noDigit, noDot⟩ := ends
        rw [skipLast, skipOctet_append octet (by rintro byte ⟨⟩; exact noDigit), Option.bind_some]
        dsimp only
        rw [noDigit, Bool.false_or, if_neg (mt beq_iff_eq.mp noDot)]

theorem matchIpv4_iff {bytes rest : Bytes} :
    matchIpv4 bytes = some rest ↔ ∃ address,
      bytes = address ++ rest ∧ IsDotted isDigit 46 3 address ∧ Ends isDigit 46 rest := by
  rw [matchIpv4_eq]
  constructor
  · intro matched
    obtain ⟨_, one, matched⟩ := Option.bind_eq_some_iff.mp matched
    obtain ⟨_, two, matched⟩ := Option.bind_eq_some_iff.mp matched
    obtain ⟨_, three, four⟩ := Option.bind_eq_some_iff.mp matched
    obtain ⟨first, rfl, firstOctet⟩ := skipGroup_iff.mp one
    obtain ⟨second, rfl, secondOctet⟩ := skipGroup_iff.mp two
    obtain ⟨third, rfl, thirdOctet⟩ := skipGroup_iff.mp three
    obtain ⟨fourth, rfl, fourthOctet, ends⟩ := skipLast_iff.mp four
    refine ⟨first ++ 46 :: (second ++ 46 :: (third ++ 46 :: fourth)), ?_, ?_, ends⟩
    · simp only [List.append_assoc, List.cons_append]
    · exact ⟨first, _, rfl, firstOctet, second, _, rfl, secondOctet, third, fourth, rfl, thirdOctet,
        fourthOctet⟩
  · rintro ⟨_, rfl, ⟨first, _, rfl, firstOctet, second, _, rfl, secondOctet, third, fourth, rfl,
      thirdOctet, fourthOctet⟩, ends⟩
    simp only [List.append_assoc, List.cons_append]
    rw [skipGroup_iff.mpr ⟨first, rfl, firstOctet⟩, Option.bind_some,
      skipGroup_iff.mpr ⟨second, rfl, secondOctet⟩, Option.bind_some,
      skipGroup_iff.mpr ⟨third, rfl, thirdOctet⟩, Option.bind_some,
      skipLast_iff.mpr ⟨fourth, rfl, fourthOctet, ends⟩]

/-- The scanner finds an address wherever one begins. -/
theorem matchIpv4_none {bytes : Bytes} (missed : matchIpv4 bytes = none) :
    ¬ AddressAt (bytes.map latin) := by
  intro found
  obtain ⟨address, rest, shape, isAddress, ends⟩ :=
    (numberAt_map latin_isDigit latin_isDot).mp found
  rw [matchIpv4_iff.mpr ⟨address, shape, isAddress, ends⟩] at missed
  cases missed

theorem AddressAt.digit {c : Char} {rest : Text} (found : AddressAt (c :: rest)) :
    c.isDigit = true := by
  obtain ⟨address, behind, shape, isAddress, -⟩ := found
  obtain ⟨first, others, rfl, digit⟩ := isAddress.head
  rw [(List.cons.inj shape).1]
  exact digit

theorem head_dropWhile_isPathByte {bytes : Bytes} :
    ∀ c ∈ ((bytes.dropWhile isPathByte).map latin).head?, isPathChar c = false := by
  intro c inside
  rw [List.head?_map] at inside
  obtain ⟨byte, found, rfl⟩ := Option.mem_map.mp inside
  rw [latin_isPathChar]
  have stops := List.head?_dropWhile_not isPathByte bytes
  rw [Option.mem_def.mp found] at stops
  exact stops

theorem scans_scrubFrom (fuel : Nat) (bytes : Bytes) (enough : bytes.length ≤ fuel) :
    Scans (bytes.map latin) (scrubFrom fuel bytes) := by
  induction fuel generalizing bytes with
  | zero =>
      rw [List.length_eq_zero_iff.mp (Nat.le_zero.mp enough)]
      exact .done
  | succ fuel ih =>
      cases bytes with
      | nil => exact .done
      | cons byte rest =>
          have room : rest.length ≤ fuel := Nat.le_of_succ_le_succ enough
          unfold scrubFrom
          split
          · rename_i slash
            obtain ⟨isSlash, goesOn⟩ := Bool.and_eq_true_iff.mp slash
            rw [beq_iff_eq] at isSlash
            subst isSlash
            have split : rest.map latin =
                (rest.takeWhile isPathByte).map latin ++ (rest.dropWhile isPathByte).map latin := by
              rw [← List.map_append, List.takeWhile_append_dropWhile]
            rw [List.map_cons, split]
            refine .path ?_ ?_ head_dropWhile_isPathByte
              (ih _ ((List.dropWhile_sublist _).length_le.trans room))
            · intro none
              cases rest with
              | nil => cases goesOn
              | cons next rest =>
                  have inRun : isPathByte next = true := goesOn
                  rw [List.takeWhile_cons_of_pos inRun] at none
                  cases none
            · intro c inside
              obtain ⟨inner, inRun, rfl⟩ := List.mem_map.mp inside
              rw [latin_isPathChar]
              exact List.mem_takeWhile_imp inRun
          · rename_i noSlash
            split
            · rename_i after matched
              split at matched
              · obtain ⟨address, shape, isAddress, ends⟩ := matchIpv4_iff.mp matched
                have shorter : after.length ≤ fuel := by
                  have sizes := congrArg List.length shape
                  have positive := List.length_pos_iff.mpr isAddress.ne_nil
                  rw [List.length_cons, List.length_append] at sizes
                  omega
                rw [shape, List.map_append]
                exact .host ((isDotted_map latin_isDigit latin_isDot).mpr isAddress)
                  ((ends_map latin_isDigit latin_isDot).mpr ends) (ih after shorter)
              · cases matched
            · rename_i missed
              refine .keep ?_ ?_ (ih rest room)
              · intro found
                have digit : isDigit byte = true := by
                  rw [← latin_isDigit]
                  exact AddressAt.digit found
                rw [if_pos digit] at missed
                exact matchIpv4_none missed found
              · intro isSlash d inside
                rw [List.head?_map] at inside
                obtain ⟨next, found, rfl⟩ := Option.mem_map.mp inside
                rw [latin_isPathChar]
                refine eq_false_of_ne_true fun goesOn => noSlash ?_
                rw [(latin_eq_iff byte 47).mp isSlash, Option.mem_def.mp found]
                exact goesOn

theorem scans_scrubScpStderr (stderr : Text) : Scans (readLatin stderr) (scrubScpStderr stderr) :=
  scans_scrubFrom _ _ le_rfl

theorem Scans.redacts {input output : Text} (scans : Scans input output) :
    Redacts input output := by
  induction scans with
  | done => exact .done
  | path nonempty inRun ends scans ih => exact .path ⟨_, rfl, nonempty, inRun⟩ ih
  | host isAddress ends scans ih => exact .host isAddress ih
  | keep noAddress noPath scans ih => exact .keep _ ih

/-! ## What is kept -/

theorem isPathChar_ascii {c : Char} (inPath : isPathChar c = true) : isAscii c = true := by
  have classes : c.isAlphanum = (decide ('A'.val ≤ c.val ∧ c.val ≤ 'Z'.val) ||
      decide ('a'.val ≤ c.val) && decide (c.val ≤ 'z'.val) ||
      decide ('0'.val ≤ c.val) && decide (c.val ≤ '9'.val)) := rfl
  simp only [isPathChar, classes, Bool.or_eq_true, Bool.and_eq_true, decide_eq_true_eq,
    UInt32.le_iff_toNat_le, beq_iff_eq] at inPath
  refine decide_eq_true ?_
  rcases inPath with ((((letter | rfl) | rfl) | rfl) | rfl) | rfl
  · change ((65 ≤ c.toNat ∧ c.toNat ≤ 90) ∨ (97 ≤ c.toNat ∧ c.toNat ≤ 122)) ∨
      (48 ≤ c.toNat ∧ c.toNat ≤ 57) at letter
    omega
  all_goals decide

theorem isDigit_isPathChar {c : Char} (digit : c.isDigit = true) : isPathChar c = true := by
  rw [isPathChar, Char.isAlphanum, digit, Bool.or_true]
  rfl

theorem IsAddress.isPathChar {address : Text} (isAddress : IsAddress address) {c : Char}
    (inside : c ∈ address) : isPathChar c = true := by
  rcases isAddress.mem inside with digit | rfl
  · exact isDigit_isPathChar digit
  · rfl

theorem wideCount_eq_zero {text : Text} (narrow : ∀ c ∈ text, isPathChar c = true) :
    wideCount text = 0 := by
  refine List.countP_eq_zero.mpr fun c inside => ?_
  rw [isPathChar_ascii (narrow c inside)]
  exact Bool.false_ne_true

/-- No other character is lost, and none is added. -/
theorem Redacts.wideCount_eq {input output : Text} (redacts : Redacts input output) :
    wideCount output = wideCount input := by
  induction redacts with
  | done => rfl
  | path isPath redacts ih =>
      obtain ⟨run, rfl, -, inRun⟩ := isPath
      have narrow : wideCount ('/' :: run) = 0 := by
        refine wideCount_eq_zero fun c inside => ?_
        rcases List.mem_cons.mp inside with rfl | inside
        · rfl
        · exact inRun c inside
      rw [wideCount_append, wideCount_append, narrow, ih]
      rfl
  | host isAddress redacts ih =>
      rw [wideCount_append, wideCount_append, wideCount_eq_zero fun _ => isAddress.isPathChar, ih]
      rfl
  | keep c redacts ih =>
      rw [wideCount, wideCount, List.countP_cons, List.countP_cons]
      exact congrArg (· + _) ih

/-- A text keeps the rest of itself just where it is ASCII. -/
theorem redacts_scrubScpStderr_iff (stderr : Text) :
    Redacts stderr (scrubScpStderr stderr) ↔ stderr.all isAscii = true := by
  constructor
  · intro redacts
    have counted := redacts.wideCount_eq
    rw [(scans_scrubScpStderr stderr).redacts.wideCount_eq] at counted
    have twice := wideCount_readLatin stderr
    have none : wideCount stderr = 0 := by omega
    refine List.all_eq_true.mpr fun c inside => ?_
    have narrow := List.countP_eq_zero.mp none c inside
    rwa [Bool.not_eq_true', Bool.not_eq_false] at narrow
  · intro ascii
    have scans := scans_scrubScpStderr stderr
    rw [readLatin_ascii ascii] at scans
    exact scans.redacts

/-! ## What is hidden -/

/-- An address that neither a digit nor a dot follows begins in this one. -/
def Caught (address after : Text) : Prop :=
  ∃ left right, address = left ++ right ∧ right ≠ [] ∧ AddressAt (right ++ after)

theorem infix_of_append {mark output secret : Text} {c : Char} (absent : c ∉ mark)
    (inside : c :: secret <:+: mark ++ output) : c :: secret <:+: output := by
  induction mark with
  | nil => exact inside
  | cons d mark ih =>
      rcases List.infix_cons_iff.mp inside with here | later
      · have same : c = d := (List.cons_prefix_cons.mp here).1
        rw [same] at absent
        exact absurd List.mem_cons_self absent
      · exact ih (fun inMark => absent (List.mem_cons_of_mem d inMark)) later

theorem Scans.head {input output : Text} (scans : Scans input output)
    (ends : ∀ c ∈ input.head?, isPathChar c = false) :
    ∀ c ∈ output.head?, isPathChar c = false := by
  cases scans with
  | done => exact ends
  | path nonempty inRun stops scans =>
      rintro c ⟨⟩
      rfl
  | host isAddress stops scans =>
      rintro c ⟨⟩
      rfl
  | keep noAddress noPath scans => exact ends

theorem Scans.no_path {input output : Text} (scans : Scans input output) {path : Text}
    (isPath : IsPath path) : ¬ path <:+: output := by
  obtain ⟨run, rfl, nonempty, inRun⟩ := isPath
  induction scans with
  | done =>
      intro inside
      cases List.infix_nil.mp inside
  | path _ _ _ _ ih => exact fun inside => ih (infix_of_append (by decide) inside)
  | host _ _ _ ih => exact fun inside => ih (infix_of_append (by decide) inside)
  | keep noAddress noPath scans ih =>
      intro inside
      rcases List.infix_cons_iff.mp inside with here | later
      · obtain ⟨rfl, runHere⟩ := List.cons_prefix_cons.mp here
        obtain ⟨d, run, rfl⟩ := List.exists_cons_of_ne_nil nonempty
        obtain ⟨behind, rfl⟩ := runHere
        have off := scans.head (noPath rfl) d rfl
        rw [inRun d List.mem_cons_self] at off
        cases off
      · exact ih later

/-- What stands in the output without a mark stood in the input, and no address began in it. -/
theorem Scans.kept_start {input output secret : Text} (scans : Scans input output)
    (unmarked : '<' ∉ secret) (kept : secret <+: output) :
    ∃ after, input = secret ++ after ∧ ¬ Caught secret after := by
  induction secret generalizing input output with
  | nil =>
      refine ⟨input, rfl, ?_⟩
      rintro ⟨left, right, split, nonempty, -⟩
      exact nonempty (List.append_eq_nil_iff.mp split.symm).2
  | cons c secret ih =>
      have notMark : c ≠ '<' := fun same => unmarked (same ▸ List.mem_cons_self)
      cases scans with
      | done => cases List.prefix_nil.mp kept
      | path _ _ _ _ => exact absurd (List.cons_prefix_cons.mp kept).1 notMark
      | host _ _ _ => exact absurd (List.cons_prefix_cons.mp kept).1 notMark
      | keep noAddress noPath scans =>
          obtain ⟨rfl, keptRest⟩ := List.cons_prefix_cons.mp kept
          obtain ⟨after, rfl, free⟩ :=
            ih scans (fun inside => unmarked (List.mem_cons_of_mem _ inside)) keptRest
          refine ⟨after, rfl, ?_⟩
          rintro ⟨left, right, split, nonempty, found⟩
          cases left with
          | nil =>
              rw [← show c :: secret = right from split] at found
              exact noAddress found
          | cons d left => exact free ⟨left, right, (List.cons.inj split).2, nonempty, found⟩

/-- Where no address begins, the text is kept. -/
theorem Scans.keeps_start {secret after output : Text} (scans : Scans (secret ++ after) output)
    (noSlash : '/' ∉ secret) (free : ¬ Caught secret after) : secret <+: output := by
  induction secret generalizing output with
  | nil => exact List.nil_prefix
  | cons c secret ih =>
      have found (begins : AddressAt (c :: (secret ++ after))) : False :=
        free ⟨[], c :: secret, rfl, List.cons_ne_nil c secret, begins⟩
      generalize shape : c :: secret ++ after = input at scans
      cases scans with
      | done => cases shape
      | path _ _ _ _ =>
          rw [(List.cons.inj shape).1] at noSlash
          exact absurd List.mem_cons_self noSlash
      | host isAddress ends _ => exact (found ⟨_, _, shape, isAddress, ends⟩).elim
      | keep noAddress noPath scans =>
          obtain ⟨rfl, rfl⟩ := List.cons.inj shape
          refine List.cons_prefix_cons.mpr ⟨rfl, ih scans ?_ ?_⟩
          · exact fun inside => noSlash (List.mem_cons_of_mem c inside)
          · rintro ⟨left, right, split, nonempty, begins⟩
            exact free ⟨c :: left, right, congrArg (c :: ·) split, nonempty, begins⟩

theorem InPath.append_left {front text : Text} (inPath : InPath text) : InPath (front ++ text) := by
  obtain ⟨before, run, rfl, inRun⟩ := inPath
  exact ⟨front ++ before, run, (List.append_assoc _ _ _).symm, inRun⟩

/-- Without a slash, only a path that has begun before goes on. -/
theorem InPath.of_append {before text : Text} (inPath : InPath (before ++ text))
    (noSlash : '/' ∉ text) : InPath before ∧ ∀ c ∈ text, isPathChar c = true := by
  obtain ⟨front, run, shape, inRun⟩ := inPath
  rcases List.append_eq_append_iff.mp shape with ⟨part, rfl, split⟩ | ⟨part, rfl, split⟩
  · rw [split] at noSlash
    exact absurd (List.mem_append_right _ List.mem_cons_self) noSlash
  · cases part with
    | nil =>
        rw [← show '/' :: run = text from split] at noSlash
        exact absurd List.mem_cons_self noSlash
    | cons c part =>
        obtain ⟨rfl, rfl⟩ := List.cons.inj split
        exact ⟨⟨front, part, rfl, fun d inside => inRun d (List.mem_append_left _ inside)⟩,
          fun d inside => inRun d (List.mem_append_right _ inside)⟩

theorem IsAddress.notMem {address : Text} (isAddress : IsAddress address) {c : Char}
    (other : c.isDigit = false) (noDot : c ≠ '.') : c ∉ address := by
  intro inside
  rcases isAddress.mem inside with digit | dot
  · rw [other] at digit
    cases digit
  · exact noDot dot

theorem IsAddress.past_mark {mark output address : Text} (isAddress : IsAddress address)
    (plain : mark.any Char.isDigit = false) (kept : address <:+: mark ++ output) :
    address <:+: output := by
  obtain ⟨c, others, rfl, digit⟩ := isAddress.head
  refine infix_of_append (fun inside => ?_) kept
  rw [List.any_eq_true.mpr ⟨c, inside, digit⟩] at plain
  cases plain

/-- An address in the output stood in the input, outside of paths and with none that begins in
it. -/
theorem Scans.kept {input output address : Text} (scans : Scans input output)
    (isAddress : IsAddress address) (kept : address <:+: output) (before : Text)
    (free : InPath before → ∀ c ∈ input.head?, isPathChar c = false) :
    ∃ front after, input = front ++ (address ++ after) ∧ ¬ InPath (before ++ front) ∧
      ¬ Caught address after := by
  induction scans generalizing before with
  | done => exact absurd (List.infix_nil.mp kept) isAddress.ne_nil
  | @path run rest output nonempty inRun ends scans ih =>
      have later := isAddress.past_mark (by decide) kept
      obtain ⟨front, after, rfl, outside, uncaught⟩ := ih later (before ++ '/' :: run) fun _ => ends
      refine ⟨'/' :: (run ++ front), after, ?_, ?_, uncaught⟩
      · simp only [List.cons_append, List.append_assoc]
      · rwa [List.append_assoc] at outside
  | @host found rest output isFound ends scans ih =>
      have later := isAddress.past_mark (by decide) kept
      have restFree (inPath : InPath (before ++ found)) :
          ∀ c ∈ rest.head?, isPathChar c = false := by
        -- A path that went on into the address would have begun before it.
        obtain ⟨inBefore, inFound⟩ := inPath.of_append (isFound.notMem rfl (by decide))
        obtain ⟨c, others, rfl, -⟩ := isFound.head
        have off := free inBefore c rfl
        rw [inFound c List.mem_cons_self] at off
        cases off
      obtain ⟨front, after, rfl, outside, uncaught⟩ := ih later (before ++ found) restFree
      refine ⟨found ++ front, after, (List.append_assoc _ _ _).symm, ?_, uncaught⟩
      rwa [List.append_assoc] at outside
  | @keep c rest output noAddress noPath scans ih =>
      rcases List.infix_cons_iff.mp kept with here | later
      · obtain ⟨after, shape, uncaught⟩ :=
          (Scans.keep noAddress noPath scans).kept_start (isAddress.notMem rfl (by decide)) here
        refine ⟨[], after, shape, fun inPath => ?_, uncaught⟩
        rw [List.append_nil] at inPath
        obtain ⟨d, others, rfl, digit⟩ := isAddress.head
        have off := free inPath c rfl
        rw [← (List.cons_prefix_cons.mp here).1, isDigit_isPathChar digit] at off
        cases off
      · have restFree (inPath : InPath (before ++ [c])) :
            ∀ d ∈ rest.head?, isPathChar d = false := by
          by_cases slash : c = '/'
          · exact noPath slash
          · obtain ⟨inBefore, inHere⟩ := inPath.of_append
              (fun inside => slash (List.mem_singleton.mp inside).symm)
            have off := free inBefore c rfl
            rw [inHere c List.mem_cons_self] at off
            cases off
        obtain ⟨front, after, rfl, outside, uncaught⟩ := ih later (before ++ [c]) restFree
        refine ⟨c :: front, after, rfl, ?_, uncaught⟩
        rwa [List.append_assoc] at outside

/-- An address outside of paths is kept where none begins in it. -/
theorem Scans.keeps {input output before address after : Text} (scans : Scans input output)
    (shape : input = before ++ (address ++ after)) (isAddress : IsAddress address)
    (outside : ¬ InPath before) (uncaught : ¬ Caught address after) : address <:+: output := by
  induction scans generalizing before with
  | done =>
      have none := (List.append_eq_nil_iff.mp shape.symm).2
      exact absurd (List.append_eq_nil_iff.mp none).1 isAddress.ne_nil
  | @path run rest output nonempty inRun ends scans ih =>
      have split : ('/' :: run) ++ rest = before ++ (address ++ after) := shape
      rcases List.append_eq_append_iff.mp split with ⟨part, rfl, later⟩ | ⟨part, whole, later⟩
      · exact List.infix_append_of_infix_right
          (ih later fun inPath => outside inPath.append_left)
      · cases before with
        | nil =>
            rw [List.nil_append] at whole
            obtain ⟨c, others, rfl, digit⟩ := isAddress.head
            rw [← whole] at later
            rw [(List.cons.inj later).1] at digit
            cases digit
        | cons c before =>
            obtain ⟨rfl, rfl⟩ := List.cons.inj whole
            exact absurd ⟨[], before, rfl, fun d inside => inRun d (List.mem_append_left _ inside)⟩
              outside
  | @host found rest output isFound ends scans ih =>
      rcases Nat.lt_or_ge before.length found.length with shorter | longer
      · have begins := isAddress.numberAt_inside rfl shape.symm shorter isFound ends
        exact absurd ⟨[], address, rfl, isAddress.ne_nil, begins⟩ uncaught
      · obtain ⟨part, rfl⟩ :=
          List.prefix_of_prefix_length_le (List.prefix_append found rest) ⟨_, shape.symm⟩ longer
        rw [List.append_assoc] at shape
        exact List.infix_append_of_infix_right
          (ih (List.append_cancel_left shape) fun inPath => outside inPath.append_left)
  | @keep c rest output noAddress noPath scans ih =>
      cases before with
      | nil =>
          have whole := Scans.keep noAddress noPath scans
          rw [show c :: rest = address ++ after from shape] at whole
          exact (whole.keeps_start (isAddress.notMem rfl (by decide)) uncaught).isInfix
      | cons d before =>
          obtain ⟨rfl, later⟩ := List.cons.inj shape
          exact List.infix_cons (ih later fun inPath => outside (@InPath.append_left [c] _ inPath))

/-! ## The errors -/

/-- Whatever was printed, no path is left. -/
theorem scrubScpStderr_no_path (stderr : Text) {path : Text} (isPath : IsPath path) :
    ¬ path <:+: scrubScpStderr stderr :=
  (scans_scrubScpStderr stderr).no_path isPath

/-- The scrubbed text hides every path and address and keeps all else just where the text is ASCII,
and an address outside of paths that a digit or a dot follows has one in it that neither
follows. -/
theorem scrubScpStderr_iff (stderr : Text) :
    (Hides stderr (scrubScpStderr stderr) ∧ Redacts stderr (scrubScpStderr stderr)) ↔
      stderr.all isAscii = true ∧ ∀ before address after, stderr = before ++ (address ++ after) →
        IsAddress address → InPath before ∨ Caught address after := by
  rw [redacts_scrubScpStderr_iff, and_comm]
  refine and_congr_right fun ascii => ?_
  have scans := scans_scrubScpStderr stderr
  rw [readLatin_ascii ascii] at scans
  constructor
  · intro hides before address after shape isAddress
    refine or_iff_not_imp_left.mpr fun outside => by_contra fun uncaught => ?_
    have inside : address <:+: stderr := ⟨before, after, by rw [shape, List.append_assoc]⟩
    exact hides address (.inr isAddress) inside (scans.keeps shape isAddress outside uncaught)
  · intro caught secret isSecret inside kept
    rcases isSecret with isPath | isAddress
    · exact scans.no_path isPath kept
    · have start : InPath [] → ∀ c ∈ stderr.head?, isPathChar c = false := by
        rintro ⟨front, run, shape, -⟩
        exact absurd shape.symm (by simp)
      obtain ⟨before, after, shape, outside, uncaught⟩ := scans.kept isAddress kept [] start
      rcases caught before secret after shape isAddress with inPath | begins
      · exact outside inPath
      · exact uncaught begins

/-- A full stop behind an address, and a letter of two bytes. -/
theorem full_stop_uncovers_address :
    ¬ Hides "at 10.0.0.1.".toList (scrubScpStderr "at 10.0.0.1.".toList) ∧
      ¬ Redacts "né".toList (scrubScpStderr "né".toList) := by
  constructor
  · intro hides
    have isAddress : IsAddress "10.0.0.1".toList := by
      have octet (run : Text) (digits : run.all Char.isDigit = true) (nonempty : run ≠ [])
          (short : run.length ≤ 3) : IsOctet Char.isDigit run :=
        ⟨nonempty, short, List.all_eq_true.mp digits⟩
      exact ⟨['1', '0'], _, rfl, octet _ rfl (by decide) (by decide), ['0'], _, rfl,
        octet _ rfl (by decide) (by decide), ['0'], _, rfl, octet _ rfl (by decide) (by decide),
        octet _ rfl (by decide) (by decide)⟩
    exact hides _ (.inr isAddress) ⟨"at ".toList, ['.'], rfl⟩
      ⟨"at ".toList, ['.'], by decide⟩
  · rw [redacts_scrubScpStderr_iff]
    decide

end JunosMcp.Transfer
