import JunosMcp.Upgrade.Duration

/-!
# The preflight decision of `upgrade_junos`

Everything the device said arrives as text; `evaluatePreflight` decides from it and from the
arguments alone.
-/

namespace JunosMcp.Upgrade
open Text

/-! ## The readers of the device's output -/

/-- The first `Junos: <version>` line with a version on it. -/
def parseJunosVersion (output : Text) : Option Text :=
  (lines output).findSome? fun line =>
    match stripPrefix "Junos:".toList (trim line) with
    | some rest => if (trim rest).isEmpty then none else some (trim rest)
    | none => none

def detectClusterActive (output : Text) : Bool :=
  (lines output).any fun line => startsWith (trim line) "Cluster ID:".toList

/-- The text that announces an open window, with the blank before the duration. -/
def rollbackNeedle : Text := "rollback in ".toList

def announcedToken (tail : Text) : Text := tail.takeWhile fun c => !isWhitespace c

/-- The loop of `detect_active_commit_confirmed`: the first announcement decides. -/
def firstAnnouncement : List Text → Option Text
  | [] => none
  | line :: rest => match findAfter rollbackNeedle (trim line) with
      | some tail => some (announcedToken tail)
      | none => firstAnnouncement rest

def detectActiveCommitConfirmed (output : Text) : Option Nat :=
  match firstAnnouncement (lines output) with
  | some token => parseRollbackDuration token
  | none => none

section Storage

-- `parse::<f64>()`, times the multiplier, truncated to a `u64`; `none` is a parse error.
variable (parseF64Scaled : Text → Nat → Option Nat)

def parseSizeWithSuffix (size : Text) : Option Nat :=
  match stripSuffix ['G'] size with
  | some number => parseF64Scaled number (1024 * 1024 * 1024)
  | none => match stripSuffix ['M'] size with
    | some number => parseF64Scaled number (1024 * 1024)
    | none => match stripSuffix ['K'] size with
      | some number => parseF64Scaled number 1024
      | none => match stripSuffix ['B'] size with
        | some number => parseF64Scaled number 1
        | none => parseF64Scaled size 1

/-- The loop of `parse_storage_free_bytes` with its `root_mount_avail`. -/
def storageFreeBytesFrom (rootMountAvail : Option Text) : List Text → Option Nat
  | [] => rootMountAvail.bind (parseSizeWithSuffix parseF64Scaled)
  | line :: rest =>
      let trimmed := trim line
      if trimmed.isEmpty || startsWith trimmed "Filesystem".toList then
        storageFreeBytesFrom rootMountAvail rest
      else match splitWhitespace trimmed with
        | a :: b :: c :: avail :: e :: f :: more =>
            let mount := (a :: b :: c :: avail :: e :: f :: more).getLast (by simp)
            if mount == "/var".toList || mount == "/.mount/var".toList then
              parseSizeWithSuffix parseF64Scaled avail
            else if mount == "/.mount".toList then storageFreeBytesFrom (some avail) rest
            else storageFreeBytesFrom rootMountAvail rest
        | _ => storageFreeBytesFrom rootMountAvail rest

def parseStorageFreeBytes (output : Text) : Option Nat :=
  storageFreeBytesFrom parseF64Scaled none (lines output)

end Storage

/-! ## The decision -/

structure PreflightFacts where
  clusterStatusOutput : Text
  versionOutput : Text
  commitOutput : Text
  storageOutput : Text
  localImageSize : Nat
  imageBasename : Text

structure UpgradeJunosArgs where
  device : Text
  targetVersion : Text
  confirm : Bool

inductive JsonValue where
  | string (text : Text)
  | number (n : Nat)
  | emptyArray
  deriving DecidableEq

abbrev JsonObject := List (String × JsonValue)

inductive PreflightDecision where
  | clusterUnsupported
  | unparseableVersion
  | unparseableStorage
  | alreadyAtTarget (currentVersion : Text)
  | commitConfirmedActive (rollbackSecs : Nat)
  | insufficientDisk (free required : Nat)
  | confirmationRequired (payload : JsonObject)
  | proceed
  deriving DecidableEq

def upgradeDiskHeadroomBytes : Nat := 32 * 1024 * 1024

def estimatedOutageSeconds : Nat := 420

def saturating (n : Nat) : Nat := min n u64Max

def requiredBytes (localImageSize : Nat) : Nat :=
  saturating (saturating (localImageSize * 2) + upgradeDiskHeadroomBytes)

def confirmationWarning : String :=
  "DESTRUCTIVE: this will install a new Junos image and REBOOT the device, causing an outage " ++
  "of approximately 5–7 minutes. Re-call with confirm=true to proceed."

def confirmationPayload (facts : PreflightFacts) (args : UpgradeJunosArgs) (currentVersion : Text)
    (free : Nat) : JsonObject :=
  [("code", .string "confirmation_required".toList),
   ("router", .string args.device),
   ("current_version", .string currentVersion),
   ("target_version", .string args.targetVersion),
   ("image_basename", .string facts.imageBasename),
   ("image_size_bytes", .number facts.localImageSize),
   ("device_var_free_bytes", .number free),
   ("estimated_outage_seconds", .number estimatedOutageSeconds),
   ("preflight_blockers", .emptyArray),
   ("warning", .string confirmationWarning.toList)]

def evaluatePreflight (parseF64Scaled : Text → Nat → Option Nat) (facts : PreflightFacts)
    (args : UpgradeJunosArgs) : PreflightDecision :=
  if detectClusterActive facts.clusterStatusOutput then .clusterUnsupported
  else match parseJunosVersion facts.versionOutput with
  | none => .unparseableVersion
  | some currentVersion =>
    if currentVersion = args.targetVersion then .alreadyAtTarget currentVersion
    else match detectActiveCommitConfirmed facts.commitOutput with
    | some rollbackSecs => .commitConfirmedActive rollbackSecs
    | none => match parseStorageFreeBytes parseF64Scaled facts.storageOutput with
      | none => .unparseableStorage
      | some free =>
        if free < requiredBytes facts.localImageSize then
          .insufficientDisk free (requiredBytes facts.localImageSize)
        else if !args.confirm then
          .confirmationRequired (confirmationPayload facts args currentVersion free)
        else .proceed

/-! ## What an open window is -/

/-- The decision neither proceeds nor offers to proceed. -/
def PreflightDecision.Refuses : PreflightDecision → Prop
  | .confirmationRequired _ | .proceed => False
  | _ => True

def confirmedMarker : Text := "commit confirmed, rollback in ".toList

/-- Some line is marked `commit confirmed, rollback in <duration>`; a duration starts with a digit. -/
def MarkedConfirmed (output : Text) : Prop :=
  ∃ line ∈ lines output, ∃ (before : Text) (digit : Char) (after : Text),
    line = before ++ confirmedMarker ++ digit :: after ∧ digit.isDigit

/-- The first announcement of the output is a compact duration that fits in a `u64`. -/
def FirstAnnouncementCompact (output : Text) : Prop :=
  ∀ token, firstAnnouncement (lines output) = some token →
    ∃ secs, CompactDuration token secs ∧ secs ≤ u64Max

theorem confirmedMarker_split :
    confirmedMarker = 'c' :: ("ommit confirmed, ".toList ++ rollbackNeedle) := by decide

theorem firstAnnouncement_isSome {all : List Text} {line : Text} (member : line ∈ all)
    (announces : contains (trim line) rollbackNeedle = true) :
    (firstAnnouncement all).isSome := by
  induction all with
  | nil => cases member
  | cons head rest ih =>
      rw [firstAnnouncement]
      cases found : findAfter rollbackNeedle (trim head) with
      | some tail => rfl
      | none =>
          rcases List.mem_cons.mp member with rfl | later
          · simp [contains, found] at announces
          · exact ih later

/-- A marked entry is always seen as an announcement, whatever surrounds it. -/
theorem MarkedConfirmed.announced {output : Text} (marked : MarkedConfirmed output) :
    ∃ token, firstAnnouncement (lines output) = some token := by
  obtain ⟨line, member, before, digit, after, rfl, isDigit⟩ := marked
  rw [confirmedMarker_split] at member
  obtain ⟨front, back, kept⟩ := trim_keeps (by decide : isWhitespace 'c' = false)
    (digit_visible isDigit) before ("ommit confirmed, ".toList ++ rollbackNeedle) after
  have shown : trim (before ++ 'c' :: ("ommit confirmed, ".toList ++ rollbackNeedle) ++
      digit :: after) =
      (front ++ 'c' :: "ommit confirmed, ".toList) ++ rollbackNeedle ++ digit :: back := by
    rw [kept]
    simp
  refine Option.isSome_iff_exists.mp (firstAnnouncement_isSome member ?_)
  rw [shown]
  exact contains_append _ _ _

theorem detectActiveCommitConfirmed_isSome {output token : Text}
    (announced : firstAnnouncement (lines output) = some token) :
    (detectActiveCommitConfirmed output).isSome ↔ FirstAnnouncementCompact output := by
  simp only [detectActiveCommitConfirmed, FirstAnnouncementCompact, announced,
    Option.isSome_iff_exists, parseRollbackDuration_eq_some, Option.some.injEq, forall_eq']

/-- The refusals that come before and after the commit-confirmed check. -/
inductive OtherRefusal (parseF64Scaled : Text → Nat → Option Nat) (facts : PreflightFacts)
    (args : UpgradeJunosArgs) : Prop where
  | cluster : detectClusterActive facts.clusterStatusOutput = true → OtherRefusal ..
  | version : parseJunosVersion facts.versionOutput = none → OtherRefusal ..
  | target : parseJunosVersion facts.versionOutput = some args.targetVersion → OtherRefusal ..
  | storage : parseStorageFreeBytes parseF64Scaled facts.storageOutput = none → OtherRefusal ..
  | disk {free : Nat} : parseStorageFreeBytes parseF64Scaled facts.storageOutput = some free →
      free < requiredBytes facts.localImageSize → OtherRefusal ..

theorem evaluatePreflight_refuses {parseF64Scaled : Text → Nat → Option Nat}
    {facts : PreflightFacts} {args : UpgradeJunosArgs} :
    (evaluatePreflight parseF64Scaled facts args).Refuses ↔
      OtherRefusal parseF64Scaled facts args ∨
        (detectActiveCommitConfirmed facts.commitOutput).isSome := by
  rw [evaluatePreflight]
  cases cluster : detectClusterActive facts.clusterStatusOutput with
  | true => simp [PreflightDecision.Refuses, OtherRefusal.cluster cluster]
  | false =>
    cases version : parseJunosVersion facts.versionOutput with
    | none => simp [PreflightDecision.Refuses, OtherRefusal.version version]
    | some currentVersion =>
      by_cases target : currentVersion = args.targetVersion
      · simp [PreflightDecision.Refuses, target, OtherRefusal.target (target ▸ version)]
      · cases window : detectActiveCommitConfirmed facts.commitOutput with
        | some rollbackSecs => simp [PreflightDecision.Refuses, target]
        | none =>
          cases storage : parseStorageFreeBytes parseF64Scaled facts.storageOutput with
          | none => simp [PreflightDecision.Refuses, target, OtherRefusal.storage storage]
          | some free =>
            by_cases disk : free < requiredBytes facts.localImageSize
            · simp [PreflightDecision.Refuses, target, disk, OtherRefusal.disk storage disk]
            · have noOther : ¬OtherRefusal parseF64Scaled facts args := by
                intro refusal
                cases refusal with
                | cluster active => simp [cluster] at active
                | version unparsed => simp [version] at unparsed
                | target reached => exact target (Option.some.inj (version.symm.trans reached))
                | storage unparsed => simp [storage] at unparsed
                | disk parsed short =>
                    cases Option.some.inj (storage.symm.trans parsed)
                    exact disk short
              cases args.confirm <;> simp [PreflightDecision.Refuses, target, disk, noOther]

theorem marked_entry_refused_iff (parseF64Scaled : Text → Nat → Option Nat)
    (facts : PreflightFacts) (args : UpgradeJunosArgs)
    (marked : MarkedConfirmed facts.commitOutput) :
    (evaluatePreflight parseF64Scaled facts args).Refuses ↔
      OtherRefusal parseF64Scaled facts args ∨ FirstAnnouncementCompact facts.commitOutput := by
  obtain ⟨token, announced⟩ := marked.announced
  rw [evaluatePreflight_refuses, detectActiveCommitConfirmed_isSome announced]

/-! ## Two captured devices -/

def standaloneFacts (commitOutput : Text) : PreflightFacts where
  clusterStatusOutput := "error: Chassis cluster is not enabled.".toList
  versionOutput := "Junos: 24.4R1.9".toList
  commitOutput
  storageOutput := "/dev/gpt/var  10G  2.1G  7.0G  23%  /.mount/var".toList
  localImageSize := 1000000
  imageBasename := "junos-25.4R1.12.tgz".toList

def confirmedUpgrade : UpgradeJunosArgs :=
  ⟨"vsrx-test10".toList, "25.4R1.12".toList, true⟩

def capturedSizes (number : Text) (multiplier : Nat) : Option Nat :=
  if number == "7.0".toList then some (7 * multiplier) else none

def minutesEntry : Text :=
  "3   2026-03-30 21:49:31 UTC by netconf via netconf commit confirmed, rollback in 3mins".toList

def compactEntry : Text :=
  "0   2026-05-15 19:45:00 UTC by admin via cli commit confirmed, rollback in 9m42s".toList

/-- The minutes form of a captured log: the entry is marked, and the upgrade proceeds. -/
theorem minutes_entry_proceeds :
    MarkedConfirmed (standaloneFacts minutesEntry).commitOutput ∧
      evaluatePreflight capturedSizes (standaloneFacts minutesEntry) confirmedUpgrade =
        .proceed := by
  refine ⟨⟨minutesEntry, by decide, ?_⟩, by decide⟩
  exact ⟨"3   2026-03-30 21:49:31 UTC by netconf via netconf ".toList, '3', "mins".toList,
    by decide, by decide⟩

theorem compact_entry_refused :
    (evaluatePreflight capturedSizes (standaloneFacts compactEntry) confirmedUpgrade).Refuses := by
  have marked : MarkedConfirmed (standaloneFacts compactEntry).commitOutput :=
    ⟨compactEntry, by decide, "0   2026-05-15 19:45:00 UTC by admin via cli ".toList, '9',
      "m42s".toList, by decide, by decide⟩
  refine (marked_entry_refused_iff _ _ _ marked).mpr (.inr fun token announced => ?_)
  have first : firstAnnouncement (lines compactEntry) = some "9m42s".toList := by decide
  cases Option.some.inj (first.symm.trans announced)
  exact ⟨582, parseRollbackDuration_eq_some.mp (by decide)⟩

end JunosMcp.Upgrade
