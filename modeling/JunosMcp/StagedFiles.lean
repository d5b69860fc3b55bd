import JunosMcp.Lib.Words
import JunosMcp.Lib.Results
import JunosMcp.Output
import JunosMcp.ChangeSet.CommitLog

/-!
# Files of the device's staging directory

`parse_var_tmp_listing` of `list_staged_files.rs`, and the listing it reads: `file list /var/tmp/
detail` prints an entry to a line, with the time of day of a recent file and the year of an older
one.
-/

namespace JunosMcp.StagedFiles
open Lib Text

structure DeviceFileEntry where
  path : Text
  sizeBytes : Nat
  mtimeIso : Text
  deriving DecidableEq

/-! ## The reader -/

def monthNames : List Text :=
  ["Jan".toList, "Feb".toList, "Mar".toList, "Apr".toList, "May".toList, "Jun".toList,
   "Jul".toList, "Aug".toList, "Sep".toList, "Oct".toList, "Nov".toList, "Dec".toList]

/-- The number of the month, or zero. -/
def monthToNum (month : Text) : Nat :=
  match monthNames.idxOf? month with
  | some index => index + 1
  | none => 0

/-- `{:0>2}`. -/
def padZero (text : Text) : Text := List.replicate (2 - text.length) '0' ++ text

def junosDateToIso (date time : Text) : Text :=
  match date.splitOn '-' with
  | [year, month, day] =>
      let clock := if List.contains time ':' then time ++ ":00".toList else "00:00:00".toList
      year ++ '-' :: (padZero (Nat.repr (monthToNum month)).toList ++ '-' :: (padZero day ++
        'T' :: clock))
  | _ => date ++ 'T' :: time

/-- The date and the time of day of the columns behind the size. -/
def columnsToIso (currentYear : Int) (month day last : Text) : Text :=
  if List.contains last ':' then
    junosDateToIso (currentYear.repr.toList ++ '-' :: (month ++ '-' :: padZero day)) last
  else junosDateToIso (last ++ '-' :: (month ++ '-' :: padZero day)) "00:00".toList

/-- One round of the loop of `parse_var_tmp_listing`. -/
def parseVarTmpLine (currentYear : Int) (line : Text) : Option DeviceFileEntry :=
  let trimmed := trimEnd line
  if trimmed.isEmpty || startsWith trimmed "total ".toList || trimmed.getLast? == some ':' then none
  else match splitWhitespace trimmed with
  | perms :: _links :: _owner :: _group :: sizeField :: month :: day :: last :: first :: more =>
      if startsWith perms ['d'] then none
      else match parseUsize sizeField with
      | none => none
      | some size =>
          if monthToNum month = 0 then none
          else
            let name := List.intercalate [' '] (first :: more)
            if name == ".".toList || name == "..".toList then none
            else some ⟨"/var/tmp/".toList ++ name, size, columnsToIso currentYear month day last⟩
  | _ => none

def parseVarTmpListing (output : Text) (currentYear : Int) : List DeviceFileEntry :=
  (lines output).filterMap (parseVarTmpLine currentYear)

/-! ## The listing -/

/-- A time on the device's clock, to the minute. -/
structure Stamp where
  year : Nat
  month : Fin 12
  day : Nat
  hour : Nat
  minute : Nat
  realDay : 1 ≤ day ∧ day ≤ 31
  realTime : hour < 24 ∧ minute < 60
  deriving DecidableEq

/-- Stamps in the order of time. -/
def Stamp.notLater (first second : Stamp) : Bool :=
  decide ((((first.year * 12 + first.month) * 32 + first.day) * 24 + first.hour) * 60 +
      first.minute ≤
    (((second.year * 12 + second.month) * 32 + second.day) * 24 + second.hour) * 60 +
      second.minute)

inductive EntryKind where
  | file
  | directory
  deriving DecidableEq

def EntryKind.letter : EntryKind → Char
  | .file => '-'
  | .directory => 'd'

/-- An entry with a name of its own on the device, and columns that are words. -/
structure DirectoryEntry where
  kind : EntryKind
  mode : Text
  links : Nat
  owner : Text
  group : Text
  size : Nat
  mtime : Stamp
  name : Text
  mode_visible : ∀ c ∈ mode, isWhitespace c = false
  owner_word : IsWord isWhitespace owner
  group_word : IsWord isWhitespace group
  size_fits : size < 2 ^ 64
  name_shown : name ≠ []
  name_line : '\n' ∉ name
  name_slash : '/' ∉ name
  file_name : kind = .file → name ≠ ".".toList ∧ name ≠ "..".toList

structure Columns where
  links : Nat
  owner : Nat
  group : Nat
  size : Nat

def decimal (n : Nat) : Text := (Nat.repr n).toList

def twoDigits (n : Nat) : Text := padZero (decimal n)

def gap (width : Nat) : Text := List.replicate (width + 1) ' '

def Stamp.clock (stamp : Stamp) : Text :=
  twoDigits stamp.hour ++ ':' :: twoDigits stamp.minute

def Stamp.monthName (stamp : Stamp) : Text := monthNames.getD stamp.month []

/-- A file that is not older than `since` shows its time of day. -/
def Stamp.timeColumn (since stamp : Stamp) : Text :=
  if since.notLater stamp then stamp.clock else decimal stamp.year

/-- The line of an entry; links, size and day stand at the right of their columns. -/
def DirectoryEntry.line (columns : Columns) (since : Stamp) (entry : DirectoryEntry) : Text :=
  let links := decimal entry.links
  let size := decimal entry.size
  let day := decimal entry.mtime.day
  let time := since.timeColumn entry.mtime
  (entry.kind.letter :: entry.mode) ++ (gap (columns.links - links.length) ++
    (links ++ (gap 0 ++
    (entry.owner ++ (gap (columns.owner - entry.owner.length) ++
    (entry.group ++ (gap ((columns.group - entry.group.length) + (columns.size - size.length)) ++
    (size ++ (gap 0 ++
    (entry.mtime.monthName ++ (gap (2 - day.length) ++
    (day ++ (gap (5 - time.length) ++
    (time ++ (gap 0 ++ entry.name)))))))))))))))

def listing (columns : Columns) (since : Stamp) (total : Nat) (entries : List DirectoryEntry) :
    Text :=
  closeLines ("/var/tmp/:".toList :: ("total ".toList ++ decimal total) ::
    entries.map (DirectoryEntry.line columns since))

/-! ## What the listing says -/

def Stamp.date (stamp : Stamp) : Text :=
  decimal stamp.year ++ '-' :: (twoDigits (stamp.month + 1) ++ '-' :: twoDigits stamp.day)

/-- The own date of a file, with its time of day where the listing shows it. -/
def Stamp.iso (since stamp : Stamp) : Text :=
  stamp.date ++ 'T' ::
    ((if since.notLater stamp then stamp.clock else "00:00".toList) ++ ":00".toList)

/-- A regular file as it is on the device. -/
def DirectoryEntry.listed (since : Stamp) (entry : DirectoryEntry) : Option DeviceFileEntry :=
  match entry.kind with
  | .directory => none
  | .file => some ⟨"/var/tmp/".toList ++ entry.name, entry.size, since.iso entry.mtime⟩

/-- The words of a name with single blanks between them are the name, and it does not end in a
colon. -/
def PlainName (name : Text) : Prop :=
  List.intercalate [' '] (splitWhitespace name) = name ∧ name.getLast? ≠ some ':'

/-- What the parser relies on: a plain name, and the current year on a file whose year is not
shown. -/
def Readable (now since : Stamp) (entry : DirectoryEntry) : Prop :=
  PlainName entry.name ∧ (since.notLater entry.mtime = true → entry.mtime.year = now.year)

/-! ## Numbers -/

theorem decimal_eq (n : Nat) : decimal n = Nat.toDigits 10 n := by
  rw [decimal, Nat.repr_eq_ofList_toDigits, String.toList_ofList]

theorem decimal_digit {n : Nat} {c : Char} (member : c ∈ decimal n) : c.isDigit = true := by
  rw [decimal_eq] at member
  exact Nat.isDigit_of_mem_toDigits (by decide) (by decide) member

theorem decimal_nonempty (n : Nat) : decimal n ≠ [] := by
  intro empty
  have value := @Nat.ofDigitChars_ten_toDigits n
  rw [decimal_eq] at empty
  have positive := @Nat.length_toDigits_pos 10 n
  rw [empty] at positive
  exact absurd positive (Nat.lt_irrefl 0)

theorem decimal_value (n : Nat) :
    (decimal n).foldl (fun total c => total * 10 + digitOf c) 0 = n := by
  have value := @Nat.ofDigitChars_ten_toDigits n
  rw [Nat.ofDigitChars_eq_foldl] at value
  rw [decimal_eq]
  simpa only [digitOf, Nat.mul_comm] using value

theorem decimal_injective {m n : Nat} (same : decimal m = decimal n) : m = n := by
  rw [← decimal_value m, same, decimal_value]

theorem decimal_word (n : Nat) : IsWord isWhitespace (decimal n) :=
  ⟨decimal_nonempty n, fun _ member => digit_visible (decimal_digit member)⟩

theorem parseUsize_decimal {n : Nat} (fits : n < 2 ^ 64) : parseUsize (decimal n) = some n := by
  have digits : (decimal n).all Char.isDigit = true :=
    List.all_eq_true.mpr fun c member => decimal_digit member
  have bare : ∀ rest, decimal n ≠ '+' :: rest := by
    intro rest shape
    have first := @decimal_digit n '+' (by rw [shape]; exact List.mem_cons_self)
    cases first
  have some : (decimal n).isEmpty = false := by
    simpa using decimal_nonempty n
  rw [parseUsize]
  · simp only [digits, some, decimal_value, if_pos fits]
    rfl
  · exact bare

theorem padZero_digit {text : Text} (digits : ∀ c ∈ text, c.isDigit = true) :
    ∀ c ∈ padZero text, c.isDigit = true := by
  intro c member
  rcases List.mem_append.mp member with zero | inside
  · rw [List.eq_of_mem_replicate zero]
    rfl
  · exact digits c inside

theorem twoDigits_digit {n : Nat} : ∀ c ∈ twoDigits n, c.isDigit = true :=
  padZero_digit fun _ member => decimal_digit member

theorem twoDigits_word (n : Nat) : IsWord isWhitespace (twoDigits n) := by
  refine ⟨fun empty => ?_, fun c member => digit_visible (twoDigits_digit c member)⟩
  exact decimal_nonempty n (List.append_eq_nil_iff.mp empty).2

theorem padZero_padZero (text : Text) : padZero (padZero text) = padZero text := by
  have wide : 2 - (padZero text).length = 0 := by
    simp only [padZero, List.length_append, List.length_replicate]
    omega
  rw [padZero, wide]
  rfl

theorem not_mem_of_digits {text : Text} {c : Char} (digits : ∀ d ∈ text, d.isDigit = true)
    (other : c.isDigit = false) : c ∉ text := by
  intro member
  rw [digits c member] at other
  cases other

/-! ## Columns -/

theorem monthName_facts : ∀ month : Fin 12, monthToNum (monthNames.getD month []) = month + 1 ∧
    (monthNames.getD month []).all (fun c => !isWhitespace c && c != '-') = true ∧
    monthNames.getD month [] ≠ [] := by
  decide

theorem monthToNum_monthName (stamp : Stamp) : monthToNum stamp.monthName = stamp.month + 1 :=
  (monthName_facts stamp.month).1

theorem monthName_word (stamp : Stamp) : IsWord isWhitespace stamp.monthName := by
  obtain ⟨_, each, shown⟩ := monthName_facts stamp.month
  refine ⟨shown, fun c member => ?_⟩
  have here := List.all_eq_true.mp each c member
  simp only [Bool.and_eq_true, Bool.not_eq_true'] at here
  exact here.1

theorem monthName_dash (stamp : Stamp) : '-' ∉ stamp.monthName := by
  intro member
  have here := List.all_eq_true.mp (monthName_facts stamp.month).2.1 _ member
  simp at here

theorem clock_word (stamp : Stamp) : IsWord isWhitespace stamp.clock := by
  refine ⟨by simp [Stamp.clock], fun c member => ?_⟩
  rw [Stamp.clock, List.mem_append, List.mem_cons] at member
  rcases member with hour | rfl | minute
  · exact (twoDigits_word _).visible c hour
  · rfl
  · exact (twoDigits_word _).visible c minute

theorem timeColumn_word (since stamp : Stamp) : IsWord isWhitespace (since.timeColumn stamp) := by
  rw [Stamp.timeColumn]
  split
  · exact clock_word stamp
  · exact decimal_word stamp.year

theorem gap_isGap (width : Nat) : IsGap isWhitespace (gap width) := by
  refine ⟨by simp [gap], fun c member => ?_⟩
  rw [List.eq_of_mem_replicate member]
  rfl

theorem perms_word (entry : DirectoryEntry) :
    IsWord isWhitespace (entry.kind.letter :: entry.mode) := by
  refine ⟨List.cons_ne_nil _ _, List.forall_mem_cons.mpr ⟨?_, entry.mode_visible⟩⟩
  cases entry.kind <;> rfl

variable {columns : Columns} {since now : Stamp} {entry : DirectoryEntry}

/-- The fields of a line, and what is read of the name. -/
theorem words_line : splitWhitespace (entry.line columns since) =
    (entry.kind.letter :: entry.mode) :: decimal entry.links :: entry.owner :: entry.group ::
      decimal entry.size :: entry.mtime.monthName :: decimal entry.mtime.day ::
      since.timeColumn entry.mtime :: splitWhitespace entry.name := by
  have fields (text : Text) : splitWhitespace text = words isWhitespace text := rfl
  rw [fields, fields, DirectoryEntry.line]
  rw [(perms_word entry).column (gap_isGap _), (decimal_word _).column (gap_isGap _),
    entry.owner_word.column (gap_isGap _), entry.group_word.column (gap_isGap _),
    (decimal_word _).column (gap_isGap _), (monthName_word _).column (gap_isGap _),
    (decimal_word _).column (gap_isGap _), (timeColumn_word _ _).column (gap_isGap _)]

theorem line_name (columns : Columns) (since : Stamp) (entry : DirectoryEntry) :
    ∃ front, entry.line columns since = front ++ entry.name := by
  rw [DirectoryEntry.line]
  simp only [← List.append_assoc]
  exact ⟨_, rfl⟩

/-! ## Dates -/

/-- The part of a date behind the year. -/
def Stamp.behindYear (since stamp : Stamp) : Text :=
  '-' :: (twoDigits (stamp.month + 1) ++ '-' :: (twoDigits stamp.day ++ 'T' ::
    ((if since.notLater stamp then stamp.clock else "00:00".toList) ++ ":00".toList)))

theorem iso_eq (stamp : Stamp) : since.iso stamp = decimal stamp.year ++ since.behindYear stamp := by
  simp [Stamp.iso, Stamp.date, Stamp.behindYear]

theorem junosDateToIso_dated {year month day time : Text} (yearDash : '-' ∉ year)
    (monthDash : '-' ∉ month) (dayDash : '-' ∉ padZero day) (clock : List.contains time ':' = true) :
    junosDateToIso (year ++ '-' :: (month ++ '-' :: padZero day)) time =
      year ++ '-' :: (padZero (decimal (monthToNum month)) ++ '-' :: (padZero day ++
        'T' :: (time ++ ":00".toList))) := by
  have parts : (year ++ '-' :: (month ++ '-' :: padZero day)).splitOn '-' =
      [year, month, padZero day] := by
    rw [List.splitOn_append_cons_self_of_not_mem yearDash,
      List.splitOn_append_cons_self_of_not_mem monthDash, List.splitOn_eq_singleton dayDash]
  rw [junosDateToIso, parts]
  simp only [clock, if_true, padZero_padZero]
  rfl

theorem dash_not_decimal (n : Nat) : '-' ∉ decimal n :=
  not_mem_of_digits (fun _ member => decimal_digit member) rfl

theorem dash_not_twoDigits (n : Nat) : '-' ∉ twoDigits n := not_mem_of_digits twoDigits_digit rfl

theorem clock_colon (stamp : Stamp) : List.contains stamp.clock ':' = true := by
  simp [Stamp.clock]

theorem decimal_colon (n : Nat) : List.contains (decimal n) ':' = false := by
  have absent : ':' ∉ decimal n := not_mem_of_digits (fun _ member => decimal_digit member) rfl
  simpa using absent

/-- The date that is read: the year that is shown, or the current one. -/
theorem columnsToIso_line (now stamp : Stamp) :
    columnsToIso now.year stamp.monthName (decimal stamp.day) (since.timeColumn stamp) =
      decimal (if since.notLater stamp then now.year else stamp.year) ++
        since.behindYear stamp := by
  have current : (Int.repr now.year).toList = decimal now.year := rfl
  rw [columnsToIso, Stamp.timeColumn, Stamp.behindYear]
  by_cases recent : since.notLater stamp = true
  · simp only [recent, if_true, clock_colon, current]
    rw [junosDateToIso_dated (dash_not_decimal _) (monthName_dash stamp) (dash_not_twoDigits _)
      (clock_colon stamp), monthToNum_monthName]
    rfl
  · simp only [recent, Bool.false_eq_true, if_false, decimal_colon]
    rw [junosDateToIso_dated (dash_not_decimal _) (monthName_dash stamp) (dash_not_twoDigits _)
      rfl, monthToNum_monthName]
    rfl

theorem columnsToIso_eq_iff {stamp : Stamp} :
    columnsToIso now.year stamp.monthName (decimal stamp.day) (since.timeColumn stamp) =
      since.iso stamp ↔ (since.notLater stamp = true → stamp.year = now.year) := by
  rw [columnsToIso_line, iso_eq, List.append_cancel_right_eq]
  by_cases recent : since.notLater stamp = true
  · simp only [recent, if_true, true_imp_iff]
    exact ⟨fun same => (decimal_injective same).symm, fun same => by rw [same]⟩
  · simp only [recent, Bool.false_eq_true, if_false, false_imp_iff]

/-! ## One line -/

theorem splitWhitespace_trimEnd (text : Text) :
    splitWhitespace (trimEnd text) = splitWhitespace text := by
  obtain ⟨blank, split, blanks⟩ := trimEnd_append text
  have trailing : words isWhitespace (trimEnd text ++ blank) = words isWhitespace (trimEnd text) :=
    words_trailing blanks _
  rw [← split] at trailing
  exact trailing.symm

theorem trimEnd_visible {front : Text} {last : Char} (visible : isWhitespace last = false) :
    trimEnd (front ++ [last]) = front ++ [last] := by
  simp [trimEnd, visible]

/-- A line starts with the letter of its kind, also when it is trimmed. -/
theorem trimEnd_line_head : ∃ rest, trimEnd (entry.line columns since) = entry.kind.letter :: rest := by
  obtain ⟨blank, split, blanks⟩ := trimEnd_append (entry.line columns since)
  cases trimmed : trimEnd (entry.line columns since) with
  | nil =>
      have fields := splitWhitespace_trimEnd (entry.line columns since)
      rw [trimmed, words_line] at fields
      cases fields
  | cons c rest =>
      rw [trimmed, DirectoryEntry.line] at split
      obtain ⟨same, _⟩ := List.cons.inj split
      exact ⟨rest, by rw [← same]⟩

/-- What is made of the words of a name. -/
def readName : List Text → Option Text
  | [] => none
  | first :: more =>
      let name := List.intercalate [' '] (first :: more)
      if name == ".".toList || name == "..".toList then none else some name

theorem parseVarTmpLine_line (year : Int) :
    parseVarTmpLine year (entry.line columns since) =
      if (trimEnd (entry.line columns since)).getLast? = some ':' then none
      else match entry.kind with
        | .directory => none
        | .file => (readName (splitWhitespace entry.name)).map fun name =>
            ⟨"/var/tmp/".toList ++ name, entry.size, columnsToIso year entry.mtime.monthName
              (decimal entry.mtime.day) (since.timeColumn entry.mtime)⟩ := by
  obtain ⟨rest, head⟩ := @trimEnd_line_head columns since entry
  have shown : (trimEnd (entry.line columns since)).isEmpty = false := by rw [head]; rfl
  have other : startsWith (trimEnd (entry.line columns since)) "total ".toList = false := by
    apply eq_false_of_ne_true
    intro starts
    rw [head] at starts
    have letter := startsWith_head starts
    cases kind : entry.kind <;> rw [kind] at letter <;> cases letter
  have fields := splitWhitespace_trimEnd (entry.line columns since)
  rw [words_line] at fields
  by_cases colon : (trimEnd (entry.line columns since)).getLast? = some ':'
  · simp [parseVarTmpLine, colon]
  · have last : ((trimEnd (entry.line columns since)).getLast? == some ':') = false := by
      simpa using colon
    simp only [parseVarTmpLine, shown, other, last, Bool.or_false, Bool.false_eq_true, if_false,
      colon, fields]
    cases words : splitWhitespace entry.name with
    | nil => cases entry.kind <;> rfl
    | cons first more =>
        have month : ¬monthToNum entry.mtime.monthName = 0 := by
          rw [monthToNum_monthName]
          exact Nat.succ_ne_zero _
        cases entry.kind with
        | directory => rfl
        | file =>
            have file : startsWith (EntryKind.file.letter :: entry.mode) ['d'] = false := rfl
            simp only [file, Bool.false_eq_true, if_false, parseUsize_decimal entry.size_fits, month,
              readName]
            split <;> rfl

theorem plain_last {name : Text} (shown : name ≠ [])
    (plain : List.intercalate [' '] (splitWhitespace name) = name) :
    ∃ front last, name = front ++ [last] ∧ isWhitespace last = false := by
  have some : splitWhitespace name ≠ [] := by
    intro none
    rw [none] at plain
    exact shown plain.symm
  obtain ⟨front, word, member, split⟩ := intercalate_last [' '] some
  have isWord : IsWord isWhitespace word := mem_words member
  obtain ⟨body, last, rfl⟩ := (List.eq_nil_or_concat word).resolve_left isWord.shown
  refine ⟨front ++ body, last, ?_, isWord.visible last (by simp)⟩
  rw [← plain, split]
  simp

/-- Nothing is cut from a line whose name ends in what can be seen. -/
theorem trimEnd_line (plain : List.intercalate [' '] (splitWhitespace entry.name) = entry.name) :
    (trimEnd (entry.line columns since)).getLast? = entry.name.getLast? := by
  obtain ⟨front, split⟩ := line_name columns since entry
  obtain ⟨body, last, name, visible⟩ := plain_last entry.name_shown plain
  rw [split, name, ← List.append_assoc, trimEnd_visible visible]
  simp

theorem readName_eq_some {words : List Text} {name : Text} :
    readName words = some name ↔ words ≠ [] ∧ List.intercalate [' '] words = name ∧
      name ≠ ".".toList ∧ name ≠ "..".toList := by
  cases words with
  | nil => simp [readName]
  | cons first more =>
      rw [readName]
      by_cases dots : List.intercalate [' '] (first :: more) = ".".toList ∨
          List.intercalate [' '] (first :: more) = "..".toList
      · have refused : (List.intercalate [' '] (first :: more) == ".".toList ||
            List.intercalate [' '] (first :: more) == "..".toList) = true := by simpa using dots
        simp only [refused, if_true]
        refine iff_of_false nofun ?_
        rintro ⟨_, rfl, one, two⟩
        exact dots.elim one two
      · have kept : (List.intercalate [' '] (first :: more) == ".".toList ||
            List.intercalate [' '] (first :: more) == "..".toList) = false := by simpa using dots
        obtain ⟨one, two⟩ := not_or.mp dots
        simp only [kept, Bool.false_eq_true, if_false, Option.some.injEq]
        constructor
        · rintro rfl
          exact ⟨List.cons_ne_nil _ _, rfl, one, two⟩
        · exact fun facts => facts.2.1

/-- A line is read as what it lists just where the parser may rely on it. -/
theorem parseVarTmpLine_eq_listed :
    parseVarTmpLine now.year (entry.line columns since) = entry.listed since ↔
      (entry.kind = .file → Readable now since entry) := by
  rw [parseVarTmpLine_line, DirectoryEntry.listed]
  cases kind : entry.kind with
  | directory => simp
  | file =>
      constructor
      · intro same _
        by_cases colon : (trimEnd (entry.line columns since)).getLast? = some ':'
        · rw [if_pos colon] at same
          cases same
        · rw [if_neg colon] at same
          obtain ⟨name, read, shape⟩ := Option.map_eq_some_iff.mp same
          obtain ⟨path, _, iso⟩ := DeviceFileEntry.mk.inj shape
          obtain rfl := List.append_cancel_left path
          obtain ⟨_, plain, _⟩ := readName_eq_some.mp read
          refine ⟨⟨plain, ?_⟩, columnsToIso_eq_iff.mp iso⟩
          rwa [← @trimEnd_line columns since entry plain]
      · intro readable
        obtain ⟨⟨plain, colon⟩, current⟩ := readable rfl
        rw [← @trimEnd_line columns since entry plain] at colon
        have some : splitWhitespace entry.name ≠ [] := by
          intro none
          rw [none] at plain
          exact entry.name_shown plain.symm
        have read := readName_eq_some.mpr ⟨some, plain, entry.file_name kind⟩
        rw [if_neg colon, read, Option.map_some, columnsToIso_eq_iff.mpr current]

theorem listed_of_parsed {year : Int}
    (parsed : (parseVarTmpLine year (entry.line columns since)).isSome) :
    (entry.listed since).isSome := by
  rw [parseVarTmpLine_line] at parsed
  rw [DirectoryEntry.listed]
  cases kind : entry.kind with
  | file => rfl
  | directory =>
      rw [kind] at parsed
      simp at parsed

/-! ## The whole listing -/

theorem trimEnd_finishLine (line : Text) : trimEnd (finishLine line.reverse) = trimEnd line := by
  cases reversed : line.reverse with
  | nil => rw [List.reverse_eq_nil_iff.mp reversed]; rfl
  | cons c rest =>
      by_cases return_ : c = '\r'
      · subst return_
        have split : line = rest.reverse ++ ['\r'] := by
          rw [← List.reverse_reverse line, reversed, List.reverse_cons]
        rw [split, finishLine]
        simp [trimEnd, isWhitespace]
      · have same : finishLine (c :: rest) = line := by
          rw [finishLine]
          · rw [← reversed, List.reverse_reverse]
          · exact fun _ impossible => return_ (List.cons.inj impossible).1
        rw [same]

theorem parseVarTmpLine_finishLine (year : Int) (line : Text) :
    parseVarTmpLine year (finishLine line.reverse) = parseVarTmpLine year line := by
  rw [parseVarTmpLine, parseVarTmpLine, trimEnd_finishLine]

theorem closeLines_cons (line : Text) (rest : List Text) :
    closeLines (line :: rest) = line ++ '\n' :: closeLines rest := by
  cases rest with
  | nil => simp [closeLines, joinLines]
  | cons next later => simp [closeLines, joinLines, List.intercalate]

/-- The lines of a listing are parsed one by one. -/
theorem parse_closeLines (year : Int) {printed : List Text} (whole : ∀ line ∈ printed, '\n' ∉ line) :
    parseVarTmpListing (closeLines printed) year = printed.filterMap (parseVarTmpLine year) := by
  rw [parseVarTmpListing, lines]
  induction printed with
  | nil => rfl
  | cons line rest ih =>
      obtain ⟨here, later⟩ := List.forall_mem_cons.mp whole
      rw [closeLines_cons, lines_broken here, List.append_nil, List.filterMap_cons,
        List.filterMap_cons, parseVarTmpLine_finishLine, ih later]

theorem newline_not_word {word : Text} (visible : ∀ c ∈ word, isWhitespace c = false) :
    '\n' ∉ word := by
  intro member
  have here := visible _ member
  cases here

theorem newline_not_gap (width : Nat) : '\n' ∉ gap width := by
  intro member
  cases List.eq_of_mem_replicate member

theorem newline_not_line (columns : Columns) (since : Stamp) (entry : DirectoryEntry) :
    '\n' ∉ entry.line columns since := by
  have number (n : Nat) := newline_not_word (decimal_word n).visible
  simp only [DirectoryEntry.line, List.mem_append, not_or, newline_not_gap, not_false_eq_true,
    newline_not_word (perms_word entry).visible, number,
    newline_not_word entry.owner_word.visible, newline_not_word entry.group_word.visible,
    newline_not_word (monthName_word entry.mtime).visible,
    newline_not_word (timeColumn_word since entry.mtime).visible, entry.name_line, and_self]

theorem parse_header (year : Int) : parseVarTmpLine year "/var/tmp/:".toList = none := by
  rfl

theorem parse_total (year : Int) (total : Nat) :
    parseVarTmpLine year ("total ".toList ++ decimal total) = none := by
  have kept : trimEnd ("total ".toList ++ decimal total) = "total ".toList ++ decimal total := by
    obtain ⟨body, last, digits⟩ := (List.eq_nil_or_concat (decimal total)).resolve_left
      (decimal_nonempty total)
    have visible : isWhitespace last = false := (decimal_word total).visible last (by simp [digits])
    rw [digits, List.concat_eq_append, ← List.append_assoc, trimEnd_visible visible]
  have starts : startsWith ("total ".toList ++ decimal total) "total ".toList = true := by
    rw [startsWith, stripPrefix_eq_some.mpr rfl]
    rfl
  rw [parseVarTmpLine, kept]
  simp only [starts, Bool.or_true, Bool.true_or, if_true]

/-- The parsed listing is the list of the regular files, just where the parser may rely on each of
them. -/
theorem parseVarTmpListing_iff (columns : Columns) (since now : Stamp) (total : Nat)
    (entries : List DirectoryEntry) :
    parseVarTmpListing (listing columns since total entries) now.year =
        entries.filterMap (DirectoryEntry.listed since) ↔
      ∀ entry ∈ entries, entry.kind = .file → Readable now since entry := by
  have whole : ∀ line ∈ "/var/tmp/:".toList :: ("total ".toList ++ decimal total) ::
      entries.map (DirectoryEntry.line columns since), '\n' ∉ line := by
    have number := newline_not_word (decimal_word total).visible
    refine List.forall_mem_cons.mpr ⟨by simp, List.forall_mem_cons.mpr ⟨by simp [number], ?_⟩⟩
    intro line member
    obtain ⟨entry, _, rfl⟩ := List.mem_map.mp member
    exact newline_not_line columns since entry
  have fewer : ∀ entry ∈ entries,
      ((parseVarTmpLine now.year ∘ DirectoryEntry.line columns since) entry).isSome →
        (entry.listed since).isSome := fun _ _ => listed_of_parsed
  rw [listing, parse_closeLines _ whole, List.filterMap_cons_none (parse_header _),
    List.filterMap_cons_none (parse_total _ total), List.filterMap_map, filterMap_eq_iff fewer]
  constructor
  · exact fun same entry member => parseVarTmpLine_eq_listed.mp (same entry member)
  · exact fun readable entry member => parseVarTmpLine_eq_listed.mpr (readable entry member)

/-- A file with two blanks in its name, changed in May. -/
def spacedFile : DirectoryEntry where
  kind := .file
  mode := "rw-r--r--".toList
  links := 1
  owner := "root".toList
  group := "wheel".toList
  size := 100
  mtime := ⟨2026, 4, 14, 18, 1, by decide, by decide⟩
  name := "a  b".toList
  mode_visible := by simp [isWhitespace]
  owner_word := ⟨by decide, by simp [isWhitespace]⟩
  group_word := ⟨by decide, by simp [isWhitespace]⟩
  size_fits := by decide
  name_shown := by decide
  name_line := by decide
  name_slash := by decide
  file_name := by decide

def midnight (year : Nat) : Stamp := ⟨year, 0, 1, 0, 0, by decide, by decide⟩

theorem spaced_name_misread :
    ¬∀ columns since now total entries,
      (∀ entry ∈ entries, Stamp.notLater (DirectoryEntry.mtime entry) now = true) →
        parseVarTmpListing (listing columns since total entries) now.year =
          entries.filterMap (DirectoryEntry.listed since) := by
  intro holds
  have same := holds ⟨0, 0, 0, 0⟩ (midnight 2026) (midnight 2027) 0 [spacedFile] (by simp; decide)
  revert same
  decide

end JunosMcp.StagedFiles
