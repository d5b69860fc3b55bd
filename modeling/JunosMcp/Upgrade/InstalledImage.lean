import JunosMcp.Transfer.FetchIntegrity
import JunosMcp.Upgrade.VerifiedImage

/-!
# The install step

The image that the install command names is the one whose checksum the run has read, as long as no
other call writes it in between. The permit of its router is free again by then.
-/

namespace JunosMcp.Upgrade
open Lib ChangeSet Transfer

section Install
variable {W : Type} [DecidableEq W] {files : FileWorld} {request : UpgradeRequest}
  {context : UpgradeContext} {upload : UploadContext} {badByte : Text → Text}
  {others : W → FileTool}

/-- Whatever the calls beside it do, as long as they spare the image once its checksum has been
read: when the install command is sent, the file it names has that checksum. -/
theorem install_names_verified_image {staged : Text → Option Staged}
    {remote : Text → Text → Option Bytes}
    {site : Calls.Site RunOp RunRes (Option W) (FileState (Option W)) RunReport}
    {next : ToolRes (installOp request) → RunProg RunReport}
    (reaches : (sparedImageCalls files request context upload badByte others).Reaches
      (.idle staged remote) site)
    (installs : site.2 none = some (.step (.tool (installOp request)) next)) :
    ∃ bytes, site.1.remote request.device request.sourcePath = some bytes ∧
      site.1.checked none = some (files.digest bytes) := by
  have programs (who : Option W) : (imagePact files request context upload badByte others).amid who
      (runPrograms request context upload badByte others who) (fun _ _ => True)
      (.idle staged remote) := by
    cases who with
    | none => exact amid_upgradeRun
    | some other => exact amid_fileTool
  have orderly : Calls.Orderly (imagePact files request context upload badByte others)
      (fun _ _ _ => True) site := reaches.orderly trivial programs
  obtain ⟨_, sha, checked, stored⟩ := orderly.sends installs rfl
  obtain ⟨bytes, found, rfl⟩ := Option.map_eq_some_iff.mp stored
  exact ⟨bytes, found, checked⟩

end Install

/-! ## A transfer and a run on their own -/

section Transfers
variable {upload : UploadContext} {args : TransferFileArgs} {entry : ToolDevice} {output shown : Text}
  {sha : Sha256} {size : Nat}

/-- What a transfer asks its router before it copies. -/
def askedTrace (args : TransferFileArgs) (entry : ToolDevice) (shown output : Text) :
    Trace FileOp FileRes :=
  [⟨.bare (.lookup args.device), (.ok entry : Except JmcpError ToolDevice)⟩,
   ⟨.raced (.openSession args.device), Raced.completed (.ok () : Except JmcpError Unit)⟩,
   ⟨.raced (.cli args.device storageCommand),
     Raced.completed (.ok shown : Except RustEzError Text)⟩,
   ⟨.raced (.cli args.device (checksumCommand args.sourcePath)),
     Raced.completed (.ok output : Except RustEzError Text)⟩]

def stagedTrace (args : TransferFileArgs) (sha : Sha256) (size : Nat) : Trace FileOp FileRes :=
  [⟨.bare (.stagedFile args.sourcePath), some FileKind.regular⟩,
   ⟨.raced (.hash args.sourcePath),
     Raced.completed (.ok (sha, size) : Except JmcpError (Sha256 × Nat))⟩]

/-- A transfer up to the checksum of the file it finds on the router. -/
def probedTrace (args : TransferFileArgs) (entry : ToolDevice) (sha : Sha256) (size : Nat)
    (shown output : Text) : Trace FileOp FileRes :=
  [⟨.ensureActive, Activity.active⟩,
   ⟨.bare .knownHosts, true⟩,
   ⟨.raced (.permit args.device), Raced.completed ()⟩] ++
    (stagedTrace args sha size ++ askedTrace args entry shown output)

theorem probed_leads {device : TargetDevice} {found : Option Sha256}
    (valid : [args.sourcePath].forM (validateSourceBasename upload.badByte) = .ok ())
    (room : checkStorage upload args size shown = .ok ())
    (parsed : parseChecksumOutput upload.debug output = .ok found) :
    Leads (transferFile upload args) (probedTrace args ⟨device, .sshKey⟩ sha size shown output)
      (releasing (transferKnown upload args sha size found)) := by
  have stored : Returns (Prog.pure (checkStorage upload args size shown) : FileProg _) []
      (.ok ()) := by
    rw [room]
    exact .pure _
  have asked : Leads (transferHashed upload args sha size)
      (askedTrace args ⟨device, .sshKey⟩ shown output)
      (transferKnown upload args sha size found) := by
    refine .step (.step (.step ?_))
    exact stored.leads_andThen ((probeChecksum_returns parsed).leads_andThen (.refl _))
  have locked : Leads (transferLocked upload args)
      (stagedTrace args sha size ++ askedTrace args ⟨device, .sshKey⟩ shown output)
      (transferKnown upload args sha size found) := .step (.step asked)
  exact .step ((validated_returns valid).leads_andThen (.step (.step (locked.bind _))))

def sentTrace (args : TransferFileArgs) (output : Text) : Trace FileOp FileRes :=
  [⟨.timed (.scp .connect (.upload args.device args.sourcePath)),
     Timed.completed (none : Option ScpEnd)⟩,
   ⟨.timed (.scp .openFile (.upload args.device args.sourcePath)), Timed.completed (0 : Nat)⟩,
   ⟨.timed (.scp .finish (.upload args.device args.sourcePath)), Timed.completed copiedWell⟩,
   ⟨.raced (.cli args.device (checksumCommand args.sourcePath)),
     Raced.completed (.ok output : Except RustEzError Text)⟩]

/-- A transfer that finds another file and replaces it. -/
def replacedTrace (args : TransferFileArgs) (output : Text) : Trace FileOp FileRes :=
  sentTrace args output ++ [⟨.bare .release, ()⟩]

theorem replaced_leads {old : Sha256} (differs : old ≠ sha) (forced : args.force = true)
    (parsed : parseChecksumOutput upload.debug output = .ok (some sha)) :
    Leads (releasing (transferKnown upload args sha size (some old))) (replacedTrace args output)
      (.pure (.ok (.transferred (remotePath args.sourcePath) size (hex32 sha) true))) := by
  have agrees : ¬(args.verify && sha != sha) = true := by simp
  have verified : Leads (verifyTransferred upload args sha size)
      [⟨.raced (.cli args.device (checksumCommand args.sourcePath)),
        Raced.completed (.ok output : Except RustEzError Text)⟩]
      (reportTransferred args sha size true) := by
    refine (probeChecksum_returns parsed).leads_andThen ?_
    dsimp only
    rw [if_neg agrees, beq_self_eq_true]
    exact .refl _
  have replaces : transferKnown upload args sha size (some old) = Transfer.upload upload args sha size := by
    rw [transferKnown, if_neg differs, if_pos forced]
  have copied : Leads (Transfer.upload upload args sha size) (sentTrace args output)
      (reportTransferred args sha size true) := .step (.step (.step verified))
  rw [replaces]
  exact (copied.bind _).append (.step (.refl _))

theorem skipped_leads :
    Leads (releasing (transferKnown upload args sha size (some sha))) [⟨.bare .release, ()⟩]
      (.pure (.ok (.skipped (remotePath args.sourcePath) size (hex32 sha)))) := by
  rw [transferKnown, if_pos rfl]
  exact .step (.refl _)

variable {Who : Type} [DecidableEq Who] {files : FileWorld} {who : Who} {s : FileState Who}

theorem probed_follows {file : Staged} {found : Option Sha256} (free : s.permit args.device = none)
    (there : s.staged args.sourcePath = some file) (hashed : files.digest file.bytes = sha)
    (parsed : parseChecksumOutput files.debug output = .ok found)
    (stored : (s.remote args.device args.sourcePath).map files.digest = found) :
    Follows (fileWorld files who) s (probedTrace args entry sha file.bytes.length shown output)
      ((s.takes who args.device).hears who found) := by
  have heard : commandEffect files who (s.takes who args.device) args.device
      (checksumCommand args.sourcePath) (some (.ok output))
      ((s.takes who args.device).hears who found) := commandEffect_checksum parsed stored
  have told : Follows (fileWorld files who) (s.takes who args.device)
      (stagedTrace args sha file.bytes.length ++ askedTrace args entry shown output)
      ((s.takes who args.device).hears who found) :=
    .step rfl (.step ⟨rfl, file, there, hashed, rfl⟩
      (.step rfl (.step rfl (.step rfl (.step heard (.refl _))))))
  exact .step rfl (.step rfl (.step ⟨free, rfl⟩ told))

/-- The state after the router has got this file and told its checksum. -/
def replacedBy (s : FileState Who) (who : Who) (args : TransferFileArgs) (bytes : Bytes)
    (sha : Sha256) : FileState Who :=
  ((s.putRemote args.device args.sourcePath (some bytes)).hears who (some sha)).releases who

theorem replaced_follows {bytes : Bytes} (hashed : files.digest bytes = sha)
    (parsed : parseChecksumOutput files.debug output = .ok (some sha)) :
    Follows (fileWorld files who) s (replacedTrace args output)
      (replacedBy s who args bytes sha) := by
  have written : (s.putRemote args.device args.sourcePath (some bytes)).remote args.device
      args.sourcePath = some bytes := if_pos ⟨rfl, rfl⟩
  have heard : commandEffect files who (s.putRemote args.device args.sourcePath (some bytes))
      args.device (checksumCommand args.sourcePath) (some (.ok output))
      ((s.putRemote args.device args.sourcePath (some bytes)).hears who (some sha)) := by
    apply commandEffect_checksum parsed
    rw [written, ← hashed]
    rfl
  exact .step rfl (.step ⟨_, rfl⟩ (.step rfl (.step heard (.step rfl (.refl _)))))

end Transfers

/-! ## Steps of the run -/

section Steps
variable {W : Type} {upload : UploadContext} {α : Type}

abbrev RunTrace := Trace RunOp RunRes

def toolEvents (trace : ToolTrace) : RunTrace := trace.map fun event => ⟨.tool event.1, event.2⟩

def fileEvents (trace : Trace FileOp FileRes) : RunTrace :=
  trace.map fun event => ⟨.file event.1, event.2⟩

theorem ofFile_leads {p left : FileProg α} {trace : Trace FileOp FileRes}
    (leads : Leads p trace left) : Leads (ofFile p) (fileEvents trace) (ofFile left) := by
  induction leads with
  | refl p => exact .refl _
  | step _ ih => exact .step ih

/-- Operations other than the transfer are carried out as they are. -/
def Plain (upload : UploadContext) (op : ToolOp) : Prop :=
  carryOut upload op = .step (.tool op) .pure

theorem expand_leads {p left : ToolProg α} {trace : ToolTrace} (leads : Leads p trace left)
    (plain : ∀ event ∈ trace, Plain upload event.1) :
    Leads (p.expand (carryOut upload)) (toolEvents trace) (left.expand (carryOut upload)) := by
  induction leads with
  | refl p => exact .refl _
  | @step op next answer trace left _ ih =>
      have here : carryOut upload op = .step (.tool op) .pure := plain ⟨op, answer⟩ List.mem_cons_self
      have expanded : (Prog.step op next).expand (carryOut upload) =
          .step (.tool op) fun answer => (next answer).expand (carryOut upload) := by
        rw [Prog.expand, here]
        rfl
      rw [expanded]
      exact .step (ih fun event member => plain event (List.mem_cons_of_mem _ member))

variable [DecidableEq W] {files : FileWorld} {request : UpgradeRequest} {who : Option W}
  {s s' : FileState (Option W)}

theorem toolEvents_follows (trace : ToolTrace) :
    Follows (runWorld files request who) s (toolEvents trace) s := by
  induction trace with
  | nil => exact .refl _
  | cons event rest ih => exact .step (.inl rfl) ih

theorem fileEvents_follows {trace : Trace FileOp FileRes}
    (follows : Follows (fileWorld files who) s trace s') :
    Follows (runWorld files request who) s (fileEvents trace) s' := by
  induction follows with
  | refl s => exact .refl _
  | step here _ ih => exact .step here ih

end Steps

/-! ## An upgrade whose image is there already -/

def benchUpload : UploadContext := { labFiles with parseF64Scaled := capturedSizes }

def benchTransfer : TransferFileArgs :=
  buildTransferArgs benchUpgrade.device benchUpgrade.sourcePath benchUpgrade.timeout

def shownStorage : Text := noEntries.storageOutput

theorem benchTransfer_valid : [benchTransfer.sourcePath].forM
    (validateSourceBasename benchUpload.badByte) = .ok () := by
  rfl

theorem bench_room {bytes : Bytes} (known : bytes = abcBytes ∨ bytes = []) :
    checkStorage benchUpload benchTransfer bytes.length shownStorage = .ok () := by
  rcases known with rfl | rfl <;> decide

/-- The run up to its transfer. -/
def beforeTransfer : ToolTrace :=
  checksTrace ++ (factsTrace ++ (leaseTrace ++ (factsTrace ++ (baselineTrace ++ []))))

/-- What is left then. -/
def transferring : UpgradeProg :=
  orFail ((toolCall (.transfer benchUpgrade.device benchUpgrade.sourcePath
      benchUpgrade.timeout)).andThen fun () =>
    (install benchUpgrade).andThen fun () =>
    (toolCall (.waitForVersion benchUpgrade.device benchUpgrade.targetVersion)).andThen fun _ =>
    (captureBaseline benchUpgrade).andThen fun after =>
      .pure (.ok (.upgraded ((parseJunosVersion noEntries.versionOutput).getD "<unknown>".toList)
        benchUpgrade.targetVersion blankBaseline after none))) fun report => .pure (.ok report)

theorem orFail_leads {α : Type} {p : ToolProg (Except JmcpError α)} {f : α → UpgradeProg}
    {first second : ToolTrace} {value : α} {left : UpgradeProg}
    (here : Returns p first (.ok value)) (rest : Leads (f value) second left) :
    Leads (orFail p f) (first ++ second) left :=
  here.leads rest

theorem beforeTransfer_leads :
    Leads (upgradeJunos bench benchUpgrade fun _ => []) beforeTransfer transferring := by
  have locked : Leads (dispatchLocked bench benchUpgrade noEntries none) (baselineTrace ++ [])
      transferring := by
    rw [dispatchLocked, bench_proceeds]
    exact (baselineTrace_returns.leads_andThen (.refl _)).bind _
  have dispatched : Leads (dispatchPreflight bench benchUpgrade 1000000 noEntries none)
      (leaseTrace ++ (factsTrace ++ (baselineTrace ++ []))) transferring := by
    rw [dispatchPreflight, bench_proceeds]
    refine orFail_leads (.step (.pure _) : Returns (acquireLease benchUpgrade) leaseTrace _) ?_
    exact orFail_leads factsTrace_returns locked
  have gathered : Leads (orFail (gatherFacts benchUpgrade 1000000) fun facts =>
      dispatchPreflight bench benchUpgrade 1000000 facts none)
      (factsTrace ++ (leaseTrace ++ (factsTrace ++ (baselineTrace ++ [])))) transferring :=
    orFail_leads factsTrace_returns dispatched
  iterate 3 refine .step ?_
  exact gathered

theorem beforeTransfer_plain : ∀ event ∈ beforeTransfer, Plain benchUpload event.1 := by
  have checks : ∀ event ∈ checksTrace, Plain benchUpload event.1 := by
    iterate 3 refine List.forall_mem_cons.mpr ⟨rfl, ?_⟩
    exact List.forall_mem_nil _
  have facts : ∀ event ∈ factsTrace, Plain benchUpload event.1 := by
    iterate 5 refine List.forall_mem_cons.mpr ⟨rfl, ?_⟩
    exact List.forall_mem_nil _
  have lease : ∀ event ∈ leaseTrace, Plain benchUpload event.1 := List.forall_mem_singleton.mpr rfl
  have baseline : ∀ event ∈ baselineTrace, Plain benchUpload event.1 := by
    refine List.forall_mem_cons.mpr ⟨rfl, fun event shown => ?_⟩
    obtain ⟨command, _, rfl⟩ := List.mem_map.mp shown
    rfl
  simp only [beforeTransfer, List.forall_mem_append]
  exact ⟨checks, facts, lease, facts, baseline, List.forall_mem_nil _⟩

/-- The transfer finds the image on the router and leaves it. -/
def skippedTrace : Trace FileOp FileRes :=
  probedTrace benchTransfer ⟨labFile, .sshKey⟩ abcSha abcBytes.length shownStorage
    (imageChecksum abcSha) ++ [⟨.bare .release, ()⟩]

def sessionOpened : RunTrace := toolEvents [openedSession]

/-- The run up to its install command. -/
def beforeInstall : RunTrace :=
  toolEvents beforeTransfer ++ (fileEvents skippedTrace ++ sessionOpened)

def noBadByte (_ : Text) : Text := []

theorem skippedTrace_leads :
    Leads (transferFile benchUpload benchTransfer) skippedTrace
      (.pure (.ok (.skipped (remotePath benchUpgrade.sourcePath) abcBytes.length
        (hex32 abcSha)))) :=
  (probed_leads benchTransfer_valid (bench_room (.inl rfl))
    (imageChecksum_parsed abcSha (.inl rfl))).append skipped_leads

theorem beforeInstall_leads :
    ∃ next, Leads (upgradeRun bench benchUpload benchUpgrade noBadByte) beforeInstall
      (.step (.tool (installOp benchUpgrade)) next) := by
  have transferred : Leads (ofFile (transferFile benchUpload benchTransfer))
      (fileEvents skippedTrace) _ := ofFile_leads skippedTrace_leads
  have before : Leads ((upgradeJunos bench benchUpgrade noBadByte).expand (carryOut benchUpload))
      (toolEvents beforeTransfer) (transferring.expand (carryOut benchUpload)) :=
    expand_leads beforeTransfer_leads beforeTransfer_plain
  refine ⟨_, (before.bind _).append (.append (((transferred.bind _).bind _).bind _) (.step (.refl _)))⟩

def imageStaged (name : Text) : Option Staged :=
  if name = benchUpgrade.sourcePath then some ⟨abcBytes, []⟩ else none

/-- The image, and an empty file under any other name. -/
def benchFiles (_ name : Text) : Option Bytes :=
  if name = benchUpgrade.sourcePath then some abcBytes else some []

section States
variable {W : Type} [DecidableEq W]

def benchIdle : FileState (Option W) := .idle imageStaged benchFiles

/-- The run has given its permit back and is about to install. -/
def benchVerified : FileState (Option W) :=
  ((benchIdle.takes none benchUpgrade.device).hears none (some abcSha)).releases none

theorem beforeInstall_follows :
    Follows (runWorld vectorFiles benchUpgrade none) (benchIdle : FileState (Option W))
      beforeInstall benchVerified := by
  have there : (benchIdle : FileState (Option W)).staged benchTransfer.sourcePath =
      some ⟨abcBytes, []⟩ := rfl
  have asked : Follows (fileWorld vectorFiles (none : Option W)) benchIdle
      (probedTrace benchTransfer ⟨labFile, .sshKey⟩ abcSha abcBytes.length shownStorage
        (imageChecksum abcSha)) _ :=
    probed_follows rfl there rfl (imageChecksum_parsed _ (.inl rfl)) rfl
  have skipped : Follows (fileWorld vectorFiles (none : Option W)) benchIdle skippedTrace
      benchVerified := follows_append.mpr ⟨_, asked, .step rfl (.refl _)⟩
  have opened : Follows (runWorld vectorFiles benchUpgrade (none : Option W)) benchVerified
      sessionOpened benchVerified := toolEvents_follows _
  exact follows_append.mpr ⟨_, toolEvents_follows _,
    follows_append.mpr ⟨_, fileEvents_follows skipped, opened⟩⟩

end States

def noOthers : Empty → FileTool := nofun

theorem lone_upgrade_installs_verified_image :
    ∃ bytes, (benchVerified : FileState (Option Empty)).remote benchUpgrade.device
        benchUpgrade.sourcePath = some bytes ∧
      (benchVerified : FileState (Option Empty)).checked none = some (vectorFiles.digest bytes) := by
  have spares (s : FileState (Option Empty)) (op : RunOp) (_ : Option (RunRes op))
      (_ : FileState (Option Empty)) : SparesImage benchUpgrade none s op := by
    cases op with
    | tool op => trivial
    | file op => exact fun differs => absurd rfl differs
  obtain ⟨next, leads⟩ := beforeInstall_leads
  let calls := sparedImageCalls vectorFiles benchUpgrade bench benchUpload noBadByte noOthers
  have begun : calls.Reaches benchIdle (benchIdle, fun who => some (calls.program who)) := .start
  have here : some (calls.program none) =
      some (upgradeRun bench benchUpload benchUpgrade noBadByte) := rfl
  have waiting := begun.leads here leads (beforeInstall_follows.restrict spares)
  exact install_names_verified_image waiting rfl

/-! ## Another file under the image's name -/

def otherName : Text := "other.tgz".toList

/-- Fetched from the same router under the image's name. -/
def fetchOther : FetchFileArgs :=
  ⟨benchUpgrade.device, otherName, some benchUpgrade.sourcePath, true, true, 600⟩

def forcedTransfer : TransferFileArgs := { benchTransfer with force := true }

def replacingTools (transfers : Bool) : FileTool :=
  if transfers then .transfer forcedTransfer else .fetch fetchOther

def fetchedTrace : Trace FileOp FileRes :=
  locateTrace fetchOther ⟨labFile, .sshKey⟩ (imageChecksum emptySha) ++
    (stagedOther fetchOther abcSha abcBytes.length ++
      (copyTrace fetchOther emptySha ([] : Bytes).length ++ promoteTrace fetchOther))

theorem fetchedTrace_leads :
    Leads (fetchFile labFiles fetchOther) fetchedTrace
      (.pure (.ok (fetchedReport labFiles fetchOther emptySha ([] : Bytes).length))) := by
  have found : Leads (fetchFile labFiles fetchOther)
      (locateTrace fetchOther ⟨labFile, .sshKey⟩ (imageChecksum emptySha))
      (releasing (fetchKnown labFiles fetchOther emptySha)) :=
    locate_leads rfl (imageChecksum_parsed emptySha (.inr rfl))
  have replaces : Leads (fetchKnown labFiles fetchOther emptySha)
      (stagedOther fetchOther abcSha abcBytes.length)
      (download labFiles fetchOther emptySha) := forced_leads (by decide) rfl
  have copies : Leads (download labFiles fetchOther emptySha)
      (copyTrace fetchOther emptySha ([] : Bytes).length)
      (promote labFiles fetchOther ([] : Bytes).length emptySha true) := copy_leads
  exact found.append ((replaces.bind _).append ((copies.bind _).append promote_leads))

abbrev BenchState := FileState (Option Bool)

/-- The other file has the image's name in the staging directory. -/
def benchFetched : BenchState :=
  promotedTo (copiedTo (located benchVerified (some false) benchUpgrade.device emptySha)
    (some false) fetchOther []) (some false) fetchOther ⟨[], benchUpgrade.device⟩

theorem fetchedTrace_follows :
    Follows (fileWorld vectorFiles (some false)) benchVerified fetchedTrace benchFetched := by
  have there : (benchVerified : BenchState).remote fetchOther.device fetchOther.remotePath =
      some [] := rfl
  have found : Follows (fileWorld vectorFiles (some false)) (benchVerified : BenchState)
      (locateTrace fetchOther ⟨labFile, .sshKey⟩ (imageChecksum emptySha))
      (located benchVerified (some false) benchUpgrade.device emptySha) :=
    locate_follows rfl there (imageChecksum_parsed emptySha (.inr rfl)) rfl
  have looked : Follows (fileWorld vectorFiles (some false))
      (located benchVerified (some false) benchUpgrade.device emptySha : BenchState)
      (stagedOther fetchOther abcSha abcBytes.length)
      (located benchVerified (some false) benchUpgrade.device emptySha) :=
    .step rfl (.step ⟨rfl, ⟨abcBytes, []⟩, rfl, rfl, rfl⟩ (.refl _))
  exact follows_append.mpr ⟨_, found, follows_append.mpr ⟨_, looked,
    follows_append.mpr ⟨_, copy_follows rfl, promote_follows rfl⟩⟩⟩

def forcedTrace : Trace FileOp FileRes :=
  probedTrace forcedTransfer ⟨labFile, .sshKey⟩ emptySha ([] : Bytes).length shownStorage
    (imageChecksum abcSha) ++ replacedTrace forcedTransfer (imageChecksum emptySha)

theorem forcedTrace_leads :
    Leads (transferFile benchUpload forcedTransfer) forcedTrace
      (.pure (.ok (.transferred (remotePath benchUpgrade.sourcePath) ([] : Bytes).length
        (hex32 emptySha) true))) := by
  have probed : Leads (transferFile benchUpload forcedTransfer)
      (probedTrace forcedTransfer ⟨labFile, .sshKey⟩ emptySha ([] : Bytes).length shownStorage
        (imageChecksum abcSha))
      (releasing (transferKnown benchUpload forcedTransfer emptySha ([] : Bytes).length
        (some abcSha))) :=
    probed_leads benchTransfer_valid (bench_room (.inr rfl)) (imageChecksum_parsed _ (.inl rfl))
  have differs : abcSha ≠ emptySha := by decide
  exact probed.append (replaced_leads differs rfl (imageChecksum_parsed emptySha (.inr rfl)))

/-- The router has the other file under the image's name. -/
def benchReplaced : BenchState :=
  replacedBy ((benchFetched.takes (some true) benchUpgrade.device).hears (some true)
    (some abcSha)) (some true) forcedTransfer [] emptySha

theorem forcedTrace_follows :
    Follows (fileWorld vectorFiles (some true)) benchFetched forcedTrace benchReplaced := by
  have there : benchFetched.staged forcedTransfer.sourcePath = some ⟨[], benchUpgrade.device⟩ := rfl
  have asked : Follows (fileWorld vectorFiles (some true)) benchFetched
      (probedTrace forcedTransfer ⟨labFile, .sshKey⟩ emptySha ([] : Bytes).length shownStorage
        (imageChecksum abcSha)) _ :=
    probed_follows rfl there rfl (imageChecksum_parsed abcSha (.inl rfl)) rfl
  exact follows_append.mpr ⟨_, asked,
    replaced_follows rfl (imageChecksum_parsed emptySha (.inr rfl))⟩

/-- Both calls come after the run's own transfer has verified the image. -/
theorem upgrade_installs_replaced_image :
    ¬∀ site next, (imageCalls vectorFiles benchUpgrade bench benchUpload noBadByte
        replacingTools).Reaches benchIdle site →
      site.2 none = some (.step (.tool (installOp benchUpgrade)) next) →
      ∃ bytes, site.1.remote benchUpgrade.device benchUpgrade.sourcePath = some bytes ∧
        site.1.checked none = some (vectorFiles.digest bytes) := by
  intro claimed
  obtain ⟨next, leads⟩ := beforeInstall_leads
  let calls := imageCalls vectorFiles benchUpgrade bench benchUpload noBadByte replacingTools
  have begun : calls.Reaches benchIdle (benchIdle, fun who => some (calls.program who)) := .start
  have here : some (calls.program none) =
      some (upgradeRun bench benchUpload benchUpgrade noBadByte) := rfl
  have waiting := begun.leads here leads beforeInstall_follows
  have fetching : Leads ((ofFile (fetchFile labFiles fetchOther)).bind fun result =>
      .pure (RunReport.fetched result)) (fileEvents fetchedTrace) _ :=
    (ofFile_leads fetchedTrace_leads).bind _
  have moved : Follows (calls.world (some false)) benchVerified (fileEvents fetchedTrace)
      benchFetched := fileEvents_follows fetchedTrace_follows
  have fetched := waiting.leads rfl fetching moved
  have sending : Leads ((ofFile (transferFile benchUpload forcedTransfer)).bind fun result =>
      .pure (RunReport.transferred result)) (fileEvents forcedTrace) _ :=
    (ofFile_leads forcedTrace_leads).bind _
  have written : Follows (calls.world (some true)) benchFetched (fileEvents forcedTrace)
      benchReplaced := fileEvents_follows forcedTrace_follows
  have replaced := fetched.leads rfl sending written
  obtain ⟨bytes, found, checked⟩ := claimed _ _ replaced rfl
  cases found
  have same : some abcSha = some emptySha := checked
  exact absurd same (by decide)

end JunosMcp.Upgrade
