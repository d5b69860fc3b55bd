import JunosMcp.Transfer.Fetch
import JunosMcp.Transfer.Upload
import JunosMcp.Upgrade.OpenWindows

/-!
# The image that is installed

One run of `upgrade_junos` among calls of `transfer_file` and `fetch_file`. The run carries its
transfer out as a `transfer_file` call of its own and gives the router's permit back when that
returns; the install command names the file by its path only.
-/

namespace JunosMcp.Upgrade
open Lib ChangeSet Transfer

/-! ## The run and the calls beside it -/

inductive RunOp where
  | tool (op : ToolOp)
  | file (op : FileOp)

def RunRes : RunOp → Type
  | .tool op => ToolRes op
  | .file op => FileRes op

abbrev RunProg (α : Type) := Prog RunOp RunRes α

def ofFile {α : Type} (p : FileProg α) : RunProg α := p.relabel RunOp.file fun _ answer => answer

def buildTransferArgs (device basename : Text) (timeout : Duration) : TransferFileArgs :=
  ⟨device, basename, false, true, timeout⟩

/-- The upgrade calls the handler of `transfer_file`. -/
def carryOut (upload : UploadContext) : (op : ToolOp) → RunProg (ToolRes op)
  | .bare (.transfer device basename timeout) =>
      (ofFile (transferFile upload (buildTransferArgs device basename timeout))).bind fun result =>
        .pure (show Except JmcpError Unit from result.map fun _ => ())
  | op => .step (.tool op) .pure

inductive FileTool where
  | fetch (args : FetchFileArgs)
  | transfer (args : TransferFileArgs)

inductive RunReport where
  | upgraded (result : Except UpgradeError UpgradeReport)
  | fetched (result : Except JmcpError FetchReport)
  | transferred (result : Except JmcpError TransferReport)

def FileTool.run (upload : UploadContext) : FileTool → RunProg RunReport
  | .fetch args => (ofFile (fetchFile upload.toFileContext args)).bind fun result =>
      .pure (.fetched result)
  | .transfer args => (ofFile (transferFile upload args)).bind fun result =>
      .pure (.transferred result)

def upgradeRun (context : UpgradeContext) (upload : UploadContext) (request : UpgradeRequest)
    (badByte : Text → Text) : RunProg RunReport :=
  ((upgradeJunos context request badByte).expand (carryOut upload)).bind fun result =>
    .pure (.upgraded result)

variable {W : Type}

section World
variable [DecidableEq W] (files : FileWorld) (request : UpgradeRequest)

/-- The rest of the run only reads; what an install makes of the files is open. -/
def ToolChange (op : ToolOp) (s s' : FileState (Option W)) : Prop :=
  s' = s ∨ op = installOp request ∧ RemoteChange s s'

def runWorld (who : Option W) : World RunOp RunRes (FileState (Option W)) where
  answered
    | s, .tool op, _, s' => ToolChange request op s s'
    | s, .file op, answer, s' => (fileWorld files who).answered s op answer s'
  abandoned
    | s, .tool op, s' => ∃ middle, ToolChange request op s middle ∧ s' = middle.releases who
    | s, .file op, s' => (fileWorld files who).abandoned s op s'

/-- Once the run has read the image's checksum, another call writes or deletes the image only under
the eyes of the run's own transfer. -/
def SparesImage (who : Option W) (s : FileState (Option W)) : RunOp → Prop
  | .tool _ => True
  | .file op => who ≠ none → opWrites op = some (request.device, request.sourcePath) →
      s.checked none = none ∨ s.permit request.device = some none

variable (context : UpgradeContext) (upload : UploadContext) (badByte : Text → Text)
  (others : W → FileTool)

def runPrograms : Option W → RunProg RunReport
  | none => upgradeRun context upload request badByte
  | some other => (others other).run upload

def imageCalls : Calls RunOp RunRes (Option W) (FileState (Option W)) RunReport where
  world := runWorld files request
  program := runPrograms request context upload badByte others
  outside _ _ := False

/-- The same calls as long as every step spares the image. -/
def sparedImageCalls : Calls RunOp RunRes (Option W) (FileState (Option W)) RunReport where
  world who := (runWorld files request who).restrict fun s op _ _ => SparesImage request who s op
  program := runPrograms request context upload badByte others
  outside _ _ := False

end World

/-! ## What the run relies on -/

section Relies
variable (files : FileWorld) (request : UpgradeRequest)

/-- The device has the file whose checksum it has told the run. -/
def Verified (s : FileState (Option W)) : Prop :=
  ∃ sha, s.checked none = some sha ∧
    (s.remote request.device request.sourcePath).map files.digest = some sha

structure Respects (who : Option W) (s t : FileState (Option W)) : Prop where
  permit : ∀ router, s.permit router = some who → t.permit router = some who
  checked : who = none → t.checked none = s.checked none
  image : who = none → (s.checked none ≠ none ∨ s.permit request.device = some none) →
    t.remote request.device request.sourcePath = s.remote request.device request.sourcePath

/-- Routers are written under their permits, and what the run installs it has verified. -/
def MayDo (who : Option W) (s : FileState (Option W)) : RunOp → Prop
  | .file op => ∀ router file, opWrites op = some (router, file) → s.permit router = some who
  | .tool op => op = installOp request → who = none ∧ Verified files request s

variable {files request} {who : Option W} {s t u : FileState (Option W)}

theorem Respects.refl (who : Option W) (s : FileState (Option W)) : Respects request who s s :=
  ⟨fun _ held => held, fun _ => rfl, fun _ _ => rfl⟩

theorem Respects.trans (first : Respects request who s t) (second : Respects request who t u) :
    Respects request who s u where
  permit router held := second.permit router (first.permit router held)
  checked same := (second.checked same).trans (first.checked same)
  image same kept := by
    refine (second.image same ?_).trans (first.image same kept)
    rcases kept with known | held
    · exact .inl ((first.checked same).trans_ne known)
    · refine .inr ?_
      subst same
      exact first.permit _ held

theorem Verified.respects (verified : Verified files request s) (kept : Respects request none s t) :
    Verified files request t := by
  obtain ⟨sha, checked, stored⟩ := verified
  have known : s.checked none ≠ none := by
    rw [checked]
    nofun
  refine ⟨sha, (kept.checked rfl).trans checked, ?_⟩
  rw [kept.image rfl (.inl known)]
  exact stored

/-- The permit keeps the writers of the router away, and the others spare the image. -/
theorem file_respects {op : FileOp} (may : MayDo files request who s (.file op))
    (spares : SparesImage request who s (.file op)) (frame : Frame who (opTouches op) s t)
    (remote : ∀ {router file}, opWrites op ≠ some (router, file) →
      t.remote router file = s.remote router file)
    {other : Option W} (differs : other ≠ who) : Respects request other s t where
  permit router held := frame.permit other router differs held
  checked same := by
    subst same
    exact frame.checked none differs
  image same kept := by
    subst same
    apply remote
    intro written
    have mine := may _ _ written
    have held : s.permit request.device = some none := by
      rcases kept with known | held
      · exact (spares differs.symm written).resolve_left known
      · exact held
    rw [held] at mine
    exact differs (Option.some.inj mine)

theorem tool_respects {op : ToolOp} (may : MayDo files request who s (.tool op))
    (change : ToolChange request op s t) {other : Option W} (differs : other ≠ who) :
    Respects request other s t := by
  rcases change with rfl | ⟨installs, remote, rfl⟩
  · exact .refl ..
  · obtain ⟨rfl, _⟩ := may installs
    exact ⟨fun _ held => held, fun same => absurd same differs, fun same => absurd same differs⟩

variable [DecidableEq W]

theorem releases_respects {other : Option W} (differs : other ≠ who) :
    Respects request other s (s.releases who) := by
  have frame : Frame who [] s (s.releases who) := releases_frame
  exact ⟨fun router held => frame.permit other router differs held, fun _ => rfl, fun _ _ => rfl⟩

end Relies

/-! ## The calls together -/

variable [DecidableEq W] {files : FileWorld} {request : UpgradeRequest} {context : UpgradeContext}
  {upload : UploadContext} {badByte : Text → Text} {others : W → FileTool}

def imagePact (files : FileWorld) (request : UpgradeRequest) (context : UpgradeContext)
    (upload : UploadContext) (badByte : Text → Text) (others : W → FileTool) :
    Pact (sparedImageCalls files request context upload badByte others).world
      (sparedImageCalls files request context upload badByte others).outside where
  inv _ := True
  rely := Respects request
  allowed := MayDo files request
  refl := Respects.refl
  trans := Respects.trans
  answered := by
    rintro who s op answer s' _ may ⟨here, spares⟩
    refine ⟨trivial, fun other differs => ?_⟩
    cases op with
    | tool op => exact tool_respects may here differs
    | file op =>
        refine file_respects may spares (fileWorld_answered here) ?_ differs
        exact fun untouched => fileWorld_remote untouched (.inl ⟨answer, here⟩)
  abandoned := by
    rintro who s op s' _ may ⟨here, spares⟩
    refine ⟨trivial, fun other differs => ?_⟩
    cases op with
    | tool op =>
        obtain ⟨middle, change, rfl⟩ := here
        exact (tool_respects may change differs).trans (releases_respects differs)
    | file op =>
        refine file_respects may spares (fileWorld_abandoned here) ?_ differs
        exact fun untouched => fileWorld_remote untouched (.inr here)
  outside := fun _ impossible => impossible.elim

/-! ## A transfer among the calls -/

/-- The pact as the file handlers see it. -/
abbrev filePact (files : FileWorld) (request : UpgradeRequest) (context : UpgradeContext)
    (upload : UploadContext) (badByte : Text → Text) (others : W → FileTool) :=
  (imagePact files request context upload badByte others).pull RunOp.file fun _ answer => answer

section Transfers
variable {args : TransferFileArgs} {who : Option W} {s : FileState (Option W)}

theorem filePact_sound : Sound files fun who =>
    ((sparedImageCalls files request context upload badByte others).world who).pull RunOp.file
      fun _ answer => answer := by
  rintro who s op answer s' ⟨_, rfl, here⟩
  exact here.1

/-- The transfer the run makes of its image. -/
def Ours (request : UpgradeRequest) (args : TransferFileArgs) (who : Option W) : Prop :=
  who = none ∧ args.device = request.device ∧ args.sourcePath = request.sourcePath ∧
    args.verify = true

/-- The permit is held, and the run has this checksum from the device. -/
def Probed (files : FileWorld) (request : UpgradeRequest) (args : TransferFileArgs)
    (who : Option W) (sha : Option Sha256) (s : FileState (Option W)) : Prop :=
  s.permit args.device = some who ∧ (Ours request args who → s.checked none = sha ∧
    (s.remote request.device request.sourcePath).map files.digest = sha)

/-- A transfer of the run that reports a checksum has verified the image. -/
def Transferred (files : FileWorld) (request : UpgradeRequest) (args : TransferFileArgs)
    (who : Option W) (result : Except JmcpError TransferReport) (s : FileState (Option W)) : Prop :=
  Ours request args who → ∀ report, result = .ok report →
    Verified files request s ∧ (s.checked none).map hex32 = some report.sha256

theorem amid_failed {error : JmcpError} :
    (filePact files request context upload badByte others).amid who (.pure (.error error))
      (Transferred files request args who) s :=
  fun _ _ _ _ _ impossible => by cases impossible

theorem amid_reported {result : Except JmcpError TransferReport}
    (reported : Transferred files request args who result s) :
    (filePact files request context upload badByte others).amid who (.pure result)
      (Transferred files request args who) s := by
  intro t kept _ ours report is
  obtain ⟨verified, shown⟩ := reported ours report is
  obtain ⟨rfl, _⟩ := ours
  exact ⟨verified.respects kept, (congrArg _ (kept.checked rfl)).trans shown⟩

/-- Calls that write to this router only and keep the permit. -/
def Careful (device : Text) (op : FileOp) : Prop :=
  op.sends ≠ some .release ∧ ∀ router file, opWrites op = some (router, file) → router = device

theorem dry_may {op : FileOp} (dry : opWrites op = none) {t : FileState (Option W)} :
    (filePact files request context upload badByte others).allowed who t op := by
  intro router file written
  rw [dry] at written
  cases written

theorem amid_held {α : Type} {p : FileProg (Except JmcpError α)} {f : α → TransferProg}
    (held : s.permit args.device = some who) (careful : p.Performs (Careful args.device))
    (goes : ∀ value t, t.permit args.device = some who →
      (filePact files request context upload badByte others).amid who (f value)
        (Transferred files request args who) t) :
    (filePact files request context upload badByte others).amid who (p.andThen f)
      (Transferred files request args who) s := by
  refine amid_quiet filePact_sound (fun _ _ => amid_failed) (fun held kept => kept.permit _ held)
    ?_ (fun free => free.1) held careful goes
  intro op t free held router file written
  rw [free.2 router file written]
  exact held

theorem amid_probed {phase : Text} {f : Option Sha256 → TransferProg}
    (held : s.permit args.device = some who)
    (goes : ∀ sha t, Probed files request args who sha t →
      (filePact files request context upload badByte others).amid who (f sha)
        (Transferred files request args who) t) :
    (filePact files request context upload badByte others).amid who
      ((probeChecksum args.timeout upload.debug args.device args.sourcePath phase).andThen f)
      (Transferred files request args who) s := by
  rw [probeChecksum, Prog.andThen_assoc]
  refine amid_raced filePact_sound (fun _ _ => amid_failed) (fun _ _ => dry_may rfl) ?_
  intro t reply s' output kept here read
  have holding : s'.permit args.device = some who :=
    effect_holds here nofun (kept.permit _ held)
  cases reply with
  | error error => cases read
  | ok shown =>
      cases read
      cases parsed : parseChecksumOutput upload.debug output with
      | error error => exact amid_failed
      | ok sha =>
          obtain ⟨stored, rfl⟩ := commandEffect_heard here parsed
          refine goes sha _ ⟨holding, ?_⟩
          rintro ⟨rfl, device, source, _⟩
          refine ⟨hears_checked none, ?_⟩
          rw [← device, ← source]
          exact stored

theorem amid_deleteMismatched {localSha remoteSha : Sha256}
    (held : s.permit args.device = some who) :
    (filePact files request context upload badByte others).amid who
      (deleteMismatched args localSha remoteSha) (Transferred files request args who) s := by
  refine amid_timed filePact_sound (fun _ _ => amid_failed) ?_ fun _ _ _ _ _ => amid_failed
  intro t kept router file written
  have same : router = args.device := by
    cases (writes_delete args.device args.sourcePath).symm.trans written
    rfl
  subst same
  exact kept.permit _ held

theorem amid_verifyTransferred {localSha : Sha256} {localSize : Nat}
    (held : s.permit args.device = some who) :
    (filePact files request context upload badByte others).amid who
      (verifyTransferred upload args localSha localSize) (Transferred files request args who) s := by
  refine amid_probed held ?_
  intro sha t probed
  cases sha with
  | none =>
      by_cases verify : args.verify = true
      · simp only [verify, if_true]
        exact amid_failed
      · simp only [verify]
        exact amid_reported fun ours => absurd ours.2.2.2 verify
  | some sha =>
      by_cases differs : (args.verify && sha != localSha) = true
      · simp only [differs, if_true]
        exact amid_deleteMismatched probed.1
      · simp only [differs]
        refine amid_reported fun ours report is => ?_
        cases is
        obtain ⟨checked, stored⟩ := probed.2 ours
        have equal : sha = localSha := by
          have verify := ours.2.2.2
          simpa [verify] using differs
        subst equal
        refine ⟨⟨sha, checked, stored⟩, ?_⟩
        rw [checked]
        rfl

theorem amid_upload {localSha : Sha256} {localSize : Nat}
    (held : s.permit args.device = some who) :
    (filePact files request context upload badByte others).amid who
      (Transfer.upload upload args localSha localSize) (Transferred files request args who) s := by
  have careful : (runScp args.timeout (.upload args.device args.sourcePath)).Performs
      (Careful args.device) := by
    apply runScp_performs
    rintro (_ | _ | _ | _)
    all_goals
      refine ⟨nofun, fun router file written => ?_⟩
      cases written
    all_goals rfl
  refine amid_held held careful ?_
  intro result t held
  cases result with
  | interrupted => exact amid_failed
  | failed display => exact amid_failed
  | exited outcome =>
      by_cases succeeded : outcome.exitCode = 0
      · simp only [succeeded, if_true]
        exact amid_verifyTransferred held
      · simp only [succeeded, if_false]
        exact amid_failed

theorem amid_transferKnown {localSha : Sha256} {localSize : Nat} {remoteSha : Option Sha256}
    (probed : Probed files request args who remoteSha s) :
    (filePact files request context upload badByte others).amid who
      (transferKnown upload args localSha localSize remoteSha) (Transferred files request args who) s := by
  cases remoteSha with
  | none => exact amid_upload probed.1
  | some remoteSha =>
      rw [transferKnown]
      by_cases equal : remoteSha = localSha
      · rw [if_pos equal]
        subst equal
        refine amid_reported fun ours report is => ?_
        cases is
        obtain ⟨checked, stored⟩ := probed.2 ours
        refine ⟨⟨remoteSha, checked, stored⟩, ?_⟩
        rw [checked]
        rfl
      · rw [if_neg equal]
        by_cases force : args.force = true
        · rw [if_pos force]
          exact amid_upload probed.1
        · rw [if_neg force]
          exact amid_failed

theorem amid_transferHashed {localSha : Sha256} {localSize : Nat}
    (held : s.permit args.device = some who) :
    (filePact files request context upload badByte others).amid who
      (transferHashed upload args localSha localSize) (Transferred files request args who) s := by
  have looks : (lookupKey args.device).Performs (Careful args.device) :=
    (fileCall_performs ⟨nofun, nofun⟩).bind fun _ => trivial
  have opens : (Transfer.openSession args.timeout args.device).Performs (Careful args.device) :=
    raced_performs ⟨nofun, nofun⟩
  have probes : (probe args.timeout args.device storageCommand "storage_probe".toList).Performs
      (Careful args.device) := raced_performs ⟨nofun, nofun⟩
  refine amid_held held looks fun _ t held => ?_
  refine amid_held held opens fun _ t held => ?_
  refine amid_held held probes fun storage t held => ?_
  cases checkStorage upload args localSize storage with
  | error error => exact amid_failed
  | ok _ => exact amid_probed held fun sha t probed => amid_transferKnown probed

theorem amid_transferLocked
    (held : s.permit args.device = some who) :
    (filePact files request context upload badByte others).amid who (transferLocked upload args)
      (Transferred files request args who) s := by
  refine amid_call filePact_sound (fun _ _ => dry_may rfl) ?_
  rintro t kind s' kept rfl
  have hashes : (hashFile args.timeout args.sourcePath).Performs (Careful args.device) :=
    raced_performs ⟨nofun, nofun⟩
  have hashed : (filePact files request context upload badByte others).amid who
      ((hashFile args.timeout args.sourcePath).andThen fun hashed =>
        transferHashed upload args hashed.1 hashed.2) (Transferred files request args who) s' :=
    amid_held (kept.permit _ held) hashes fun _ _ held => amid_transferHashed held
  cases checkStagedFile (upload.stagingDir ++ "/".toList ++ args.sourcePath) kind with
  | error error => exact amid_failed
  | ok _ => exact hashed

theorem amid_transferFile :
    (filePact files request context upload badByte others).amid who (transferFile upload args)
      (Transferred files request args who) s := by
  refine amid_guarded filePact_sound (fun _ _ => amid_failed)
    (fun _ => ⟨dry_may rfl, dry_may rfl⟩) fun t => ?_
  refine amid_permitted filePact_sound (fun _ _ => amid_failed)
    (fun _ => ⟨dry_may rfl, dry_may rfl⟩) (fun _ held => amid_transferLocked held) ?_
  intro result t u done kept
  refine amid_reported fun ours report is => ?_
  obtain ⟨verified, shown⟩ := done ours report is
  obtain ⟨rfl, _⟩ := ours
  obtain ⟨sha, checked, stored⟩ := verified.respects kept
  exact ⟨⟨sha, checked, stored⟩, (congrArg _ (kept.checked rfl)).trans shown⟩

end Transfers

/-! ## The other calls and the run -/

section Runs
variable {s : FileState (Option W)} {α β : Type}

theorem amid_ofFile {who : Option W} {p : FileProg α} {post : α → FileState (Option W) → Prop}
    (holds : (filePact files request context upload badByte others).amid who p post s) :
    (imagePact files request context upload badByte others).amid who (ofFile p) post s :=
  Pact.amid_relabel holds

theorem amid_fileTool {who : Option W} {tool : FileTool} :
    (imagePact files request context upload badByte others).amid who (tool.run upload)
      (fun _ _ => True) s := by
  cases tool with
  | transfer args =>
      exact Pact.amid_then (amid_ofFile amid_transferFile) fun _ _ _ _ _ _ _ => trivial
  | fetch args =>
      have dry : (filePact files request context upload badByte others).amid who
          (fetchFile upload.toFileContext args) (fun _ _ => True) s :=
        Pact.amid_keeps fetchFile_dry trivial (fun _ _ => trivial) (fun free _ _ => dry_may free)
          fun _ _ _ => trivial
      exact Pact.amid_then (amid_ofFile dry) fun _ _ _ _ _ _ _ => trivial

omit [DecidableEq W] in
theorem carryOut_eq {op : ToolOp} (other : ∀ device basename timeout,
      op ≠ .bare (.transfer device basename timeout)) :
    carryOut upload op = .step (.tool op) .pure := by
  rcases op with _ | call | call | call
  · rfl
  · cases call with
    | transfer device basename timeout => exact absurd rfl (other device basename timeout)
    | _ => rfl
  · rfl
  · rfl

theorem installCommand_hidden : ¬Shows (installCommand request.sourcePath) := nofun

/-- Operations that only read may stand anywhere. -/
theorem amid_carryOut {op : ToolOp} (sends : Sends Shows request.device op) :
    (imagePact files request context upload badByte others).amid none (carryOut upload op)
      (fun _ _ => True) s := by
  by_cases transfers : ∃ device basename timeout, op = .bare (.transfer device basename timeout)
  · obtain ⟨device, basename, timeout, rfl⟩ := transfers
    exact Pact.amid_then (amid_ofFile amid_transferFile) fun _ _ _ _ _ _ _ => trivial
  · have other : ∀ device basename timeout, op ≠ .bare (.transfer device basename timeout) :=
      fun device basename timeout same => transfers ⟨device, basename, timeout, same⟩
    rw [carryOut_eq other]
    refine fun t _ _ => ⟨fun installs => ?_, fun _ _ _ _ _ _ => trivial⟩
    subst installs
    exact absurd sends.2 installCommand_hidden

theorem amid_reads_only {p : ToolProg α} (reads : p.Performs (Sends Shows request.device)) :
    (imagePact files request context upload badByte others).amid none
      (p.expand (carryOut upload)) (fun _ _ => True) s :=
  Pact.amid_expand reads trivial (fun _ _ => trivial) fun free _ => amid_carryOut free

/-- What only reads is followed by the rest, from any state. -/
theorem amid_reads {p : ToolProg α} {f : α → ToolProg β}
    (reads : p.Performs (Sends Shows request.device))
    (goes : ∀ value t, (imagePact files request context upload badByte others).amid none
      ((f value).expand (carryOut upload)) (fun _ _ => True) t) :
    (imagePact files request context upload badByte others).amid none
      ((p.bind f).expand (carryOut upload)) (fun _ _ => True) s := by
  rw [Prog.expand_bind]
  exact Pact.amid_then (amid_reads_only reads) fun value t _ _ => goes value t

theorem amid_installed {result : Except RustEzError Text} :
    (imagePact files request context upload badByte others).amid none
      ((installed result).expand (carryOut upload)) (fun _ _ => True) s :=
  amid_reads_only (installed_sends result)

/-- The image that is named is the one that was verified, whatever happens in between. -/
theorem amid_install (verified : Verified files request s) :
    (imagePact files request context upload badByte others).amid none
      ((install request).expand (carryOut upload)) (fun _ _ => True) s := by
  intro t kept _
  have still := verified.respects kept
  refine ⟨nofun, fun reply s' here => ?_⟩
  have opened : Verified files request s' := by
    rcases here.1 with rfl | ⟨installs, _⟩
    · exact still
    · cases installs
  have sending : (imagePact files request context upload badByte others).amid none
      ((toolCall (.cli request.device (installCommand request.sourcePath))).bind
        installed |>.expand (carryOut upload)) (fun _ _ => True) s' := by
    intro u kept _
    exact ⟨fun _ => ⟨rfl, opened.respects kept⟩, fun _ _ _ => amid_installed⟩
  rcases reply with (_ | _) | _ | _
  · exact fun _ _ _ => trivial
  · exact sending
  · exact fun _ _ _ => trivial
  · exact fun _ _ _ => trivial

theorem amid_installing {rest : ToolProg (Except JmcpError α)}
    (verified : Verified files request s)
    (reads : rest.Performs (Sends Shows request.device)) :
    (imagePact files request context upload badByte others).amid none
      (((install request).andThen fun () => rest).expand (carryOut upload)) (fun _ _ => True) s := by
  rw [Prog.andThen, Prog.expand_bind]
  refine Pact.amid_then (amid_install verified) fun result t _ _ => ?_
  cases result with
  | error error => exact fun _ _ _ => trivial
  | ok _ => exact amid_reads_only reads

/-- A transfer that returns leaves the device with the image whose checksum it has told. -/
theorem amid_transfer :
    (imagePact files request context upload badByte others).amid none
      (carryOut upload (.bare (.transfer request.device request.sourcePath request.timeout)))
      (fun (reply : Except JmcpError Unit) t => reply = .ok () → Verified files request t) s := by
  refine Pact.amid_then (amid_ofFile amid_transferFile) ?_
  intro result t _ done u kept _ returned
  cases result with
  | error error => cases returned
  | ok report => exact (done ⟨rfl, rfl, rfl, rfl⟩ report rfl).1.respects kept

/-- After the install command the run only reads. -/
theorem afterInstall_sends {facts : PreflightFacts} {before : Baseline} {warning : Option Text} :
    ((toolCall (.waitForVersion request.device request.targetVersion)).andThen fun _ =>
      (captureBaseline request).andThen fun after =>
        Prog.pure (.ok (UpgradeReport.upgraded
          ((parseJunosVersion facts.versionOutput).getD "<unknown>".toList)
          request.targetVersion before after warning))).Performs
      (Sends Shows request.device) := by
  refine Prog.Performs.andThen ⟨trivial, fun _ => trivial⟩ fun _ => ?_
  exact (captureBaseline_sends baselineCommands_show).andThen fun _ => trivial

theorem amid_runDestructive {facts : PreflightFacts} {warning : Option Text} :
    (imagePact files request context upload badByte others).amid none
      ((runDestructive request facts warning).expand (carryOut upload)) (fun _ _ => True) s := by
  refine amid_reads (captureBaseline_sends baselineCommands_show) fun before t => ?_
  cases before with
  | error error => exact fun _ _ _ => trivial
  | ok before =>
      refine Pact.amid_then amid_transfer fun reply u _ verified => ?_
      cases reply with
      | error error => exact fun _ _ _ => trivial
      | ok _ => exact amid_installing (verified rfl) afterInstall_sends

theorem amid_orFail {p : ToolProg (Except JmcpError α)} {f : α → UpgradeProg}
    (reads : p.Performs (Sends Shows request.device))
    (goes : ∀ value t, (imagePact files request context upload badByte others).amid none
      ((f value).expand (carryOut upload)) (fun _ _ => True) t) :
    (imagePact files request context upload badByte others).amid none
      ((orFail p f).expand (carryOut upload)) (fun _ _ => True) s := by
  refine amid_reads reads fun result t => ?_
  cases result with
  | error error => exact fun _ _ _ => trivial
  | ok value => exact goes value t

theorem amid_dispatchLocked {facts : PreflightFacts} {warning : Option Text} :
    (imagePact files request context upload badByte others).amid none
      ((dispatchLocked context request facts warning).expand (carryOut upload))
      (fun _ _ => True) s := by
  rw [dispatchLocked]
  cases preflightDecision context request facts with
  | proceed =>
      rw [orFail, Prog.expand_bind]
      refine Pact.amid_then amid_runDestructive fun result t _ _ => ?_
      cases result with
      | error error => exact fun _ _ _ => trivial
      | ok report => exact fun _ _ _ => trivial
  | _ => exact fun _ _ _ => trivial

theorem amid_dispatchPreflight {localSize : Nat} {facts : PreflightFacts}
    {warning : Option Text} :
    (imagePact files request context upload badByte others).amid none
      ((dispatchPreflight context request localSize facts warning).expand (carryOut upload))
      (fun _ _ => True) s := by
  rw [dispatchPreflight]
  cases preflightDecision context request facts with
  | proceed =>
      refine amid_orFail acquireLease_sends fun _ t => ?_
      exact amid_orFail (gatherFacts_sends factCommands_show) fun _ _ => amid_dispatchLocked
  | _ => exact fun _ _ _ => trivial

theorem amid_upgradeChecked {warning : Option Text} :
    (imagePact files request context upload badByte others).amid none
      ((upgradeChecked context request warning).expand (carryOut upload))
      (fun _ _ => True) s := by
  have looks : (toolCall (.stagedFile request.sourcePath)).Performs
      (Sends Shows request.device) := ⟨trivial, fun _ => trivial⟩
  have hashes : (localDigest request).Performs (Sends Shows request.device) :=
    ⟨trivial, fun _ => trivial⟩
  refine amid_reads looks fun kind t => ?_
  refine amid_orFail trivial fun _ t => ?_
  refine amid_orFail hashes fun localSize t => ?_
  exact amid_orFail (gatherFacts_sends factCommands_show) fun _ _ => amid_dispatchPreflight

theorem amid_upgradeRun :
    (imagePact files request context upload badByte others).amid none
      (upgradeRun context upload request badByte) (fun _ _ => True) s := by
  have run : (imagePact files request context upload badByte others).amid none
      ((upgradeJunos context request badByte).expand (carryOut upload)) (fun _ _ => True) s := by
    intro t _ _
    refine ⟨nofun, fun activity s' _ => ?_⟩
    have checked : (imagePact files request context upload badByte others).amid none
        ((orFail (.pure (checkRequest context request badByte))
          (upgradeChecked context request)).expand (carryOut upload)) (fun _ _ => True) s' :=
      amid_orFail trivial fun _ _ => amid_upgradeChecked
    cases activity with
    | cancelled => exact fun _ _ _ => trivial
    | active => exact checked
    | expired => exact checked
  exact Pact.amid_then run fun _ _ _ _ _ _ _ => trivial

end Runs

end JunosMcp.Upgrade
