import JunosMcp.Transfer.Handlers

/-!
# `fetch_file`

A file is copied to a partial file beside its place, hashed there, and moved in place. The partial
file is named after the local name alone, while the permit is one for each router: two calls for
different routers can work on the same partial file.
-/

namespace JunosMcp.Transfer
open Lib ChangeSet Upgrade

/-! ## The handler -/

structure FetchFileArgs where
  device : Text
  remotePath : Text
  localName : Option Text
  force : Bool
  verify : Bool
  timeout : Duration

inductive FetchReport where
  | skipped (localPath remotePath : Text) (sizeBytes : Nat) (sha256 : Text)
  | fetched (localPath remotePath : Text) (sizeBytes : Nat) (sha256 : Text) (verified : Bool)
  deriving DecidableEq

namespace FetchFileArgs
variable (args : FetchFileArgs)

def localBasename : Text := args.localName.getD args.remotePath

def partialPath : Text := partialName args.localBasename

def localPath (context : FileContext) : Text :=
  context.stagingDir ++ "/".toList ++ args.localBasename

def job : ScpJob := .fetch args.device args.remotePath args.partialPath

end FetchFileArgs

abbrev FetchProg := FileProg (Except JmcpError FetchReport)

section Handler
variable (context : FileContext) (args : FetchFileArgs)

def failRemoving (name : Text) (error : JmcpError) : FetchProg :=
  (fileCall (.removeFile name)).bind fun _ => .pure (.error error)

def promote (size : Nat) (sha : Sha256) (verified : Bool) : FetchProg :=
  (fileCall (.rename args.partialPath args.localBasename)).bind fun renamed =>
    .pure <| match renamed with
      | Except.ok _ => .ok (.fetched (args.localPath context) (Transfer.remotePath args.remotePath)
          size (hex32 sha) verified)
      | .error display => .error (.io display)

def verifyFetched (remoteSha : Sha256) : FetchProg :=
  (hashFile args.timeout args.partialPath).andThen fun (sha, size) =>
    if args.verify && sha != remoteSha then
      failRemoving args.partialPath
        (.fetchVerifyMismatch (args.localPath context) (hex32 sha) (hex32 remoteSha))
    else promote context args size sha (sha == remoteSha)

def copied (remoteSha : Sha256) : ScpEnd → FetchProg
  | .interrupted => failRemoving args.partialPath .cancelled
  | .failed display => failRemoving args.partialPath (.io display)
  | .exited outcome =>
      if outcome.exitCode = 0 then verifyFetched context args remoteSha
      else failRemoving args.partialPath
        (classifyScpFailure context.toTransferConfig args.device outcome)

def download (remoteSha : Sha256) : FetchProg :=
  (fileCall (.removeFile args.partialPath)).bind fun _ =>
    (runScp args.timeout args.job).andThen (copied context args remoteSha)

/-- A local file with the device's checksum is left as it is. -/
def fetchKnown (remoteSha : Sha256) : FetchProg :=
  (fileCall (.stagedFile args.localBasename)).bind fun kind => match kind with
    | some FileKind.symlink => .pure (.error (.badSourcePath
        ("local destination is a symlink, refusing to overwrite: ".toList ++
          args.localPath context)))
    | some .regular => (hashFile args.timeout args.localBasename).andThen fun (sha, size) =>
        if sha = remoteSha then .pure (.ok (.skipped (args.localPath context)
          (Transfer.remotePath args.remotePath) size (hex32 sha)))
        else if args.force then download context args remoteSha
        else .pure (.error (.localDestExistsDiffers (args.localPath context) (hex32 sha)
          (hex32 remoteSha)))
    | _ => download context args remoteSha

def fetchLocked : FetchProg :=
  (lookupKey args.device).andThen fun () =>
  (openSession args.timeout args.device).andThen fun () =>
  (probeChecksum args.timeout context.debug args.device args.remotePath
    "remote_checksum".toList).andThen fun remoteSha => match remoteSha with
      | some remoteSha => fetchKnown context args remoteSha
      | none => .pure (.error (.remoteFileMissing args.device (Transfer.remotePath args.remotePath)))

def fetchFile : FetchProg :=
  guarded context args.timeout [args.remotePath, args.localBasename] args.device
    (fetchLocked context args)

end Handler

/-! ## What a fetch does on the router -/

section Dry
variable {context : FileContext} {args : FetchFileArgs}

/-- The call writes no file of a router. -/
def Dry (op : FileOp) : Prop := opWrites op = none

theorem dry_call {c : FileCall} (silent : c.writes = none) : (fileCall c).Performs Dry :=
  fileCall_performs silent

theorem dry_raced {timeout : Duration} {α : Type} {c : FileCall}
    {read : c.Reply → Except JmcpError α} (silent : c.writes = none) :
    (raced timeout c read).Performs Dry :=
  raced_performs silent

theorem failRemoving_dry {name : Text} {error : JmcpError} :
    (failRemoving name error).Performs Dry :=
  (dry_call rfl).bind fun _ => trivial

theorem verifyFetched_dry {remoteSha : Sha256} :
    (verifyFetched context args remoteSha).Performs Dry := by
  have hashes : (hashFile args.timeout args.partialPath).Performs Dry := dry_raced rfl
  apply hashes.andThen
  rintro ⟨sha, size⟩
  by_cases differs : (args.verify && sha != remoteSha) = true
  · simp only [differs, if_true]
    exact failRemoving_dry
  · simp only [differs]
    exact (dry_call rfl).bind fun _ => trivial

theorem download_dry {remoteSha : Sha256} : (download context args remoteSha).Performs Dry := by
  have copies : (runScp args.timeout args.job).Performs Dry := by
    apply runScp_performs
    rintro (_ | _ | _ | _) <;> rfl
  refine Prog.Performs.bind (dry_call rfl) fun _ => copies.andThen fun result => ?_
  cases result with
  | interrupted => exact failRemoving_dry
  | failed display => exact failRemoving_dry
  | exited outcome =>
      by_cases succeeded : outcome.exitCode = 0
      · simp only [copied, succeeded, if_true]
        exact verifyFetched_dry
      · simp only [copied, succeeded, if_false]
        exact failRemoving_dry

theorem fetchKnown_dry {remoteSha : Sha256} : (fetchKnown context args remoteSha).Performs Dry := by
  refine Prog.Performs.bind (dry_call rfl) fun kind => ?_
  rcases kind with _ | (_ | _ | _)
  · exact download_dry
  · have hashes : (hashFile args.timeout args.localBasename).Performs Dry := dry_raced rfl
    apply hashes.andThen
    rintro ⟨sha, size⟩
    by_cases same : sha = remoteSha
    · simp only [same, if_true]
      trivial
    · by_cases force : args.force = true
      · simp only [same, if_false, force, if_true]
        exact download_dry
      · simp only [same, if_false, force]
        trivial
  · trivial
  · exact download_dry

theorem fetchFile_dry : (fetchFile context args).Performs Dry := by
  have looks : (lookupKey args.device).Performs Dry :=
    (dry_call rfl).bind fun _ => trivial
  have opens : (Transfer.openSession args.timeout args.device).Performs Dry := dry_raced rfl
  have probes : (probeChecksum args.timeout context.debug args.device args.remotePath
      "remote_checksum".toList).Performs Dry := (dry_raced rfl).andThen fun _ => trivial
  refine guarded_performs rfl rfl rfl rfl (looks.andThen fun _ => opens.andThen fun _ => ?_)
  apply probes.andThen
  intro remoteSha
  cases remoteSha with
  | some remoteSha => exact fetchKnown_dry
  | none => trivial

end Dry

/-! ## Calls that spare a download -/

variable {Who : Type}

/-- A call for another router leaves alone what this call is downloading. -/
def Spares (device : Who → Text) (call who : Who) (s : FileState Who) (op : FileOp) : Prop :=
  device who ≠ device call → ∀ name ∈ opTouches op, s.pending call ≠ some name

/-- The files of a router that change on their own. -/
def RemoteChange (s s' : FileState Who) : Prop := ∃ remote, s' = { s with remote := remote }

def fetchCalls [DecidableEq Who] (files : FileWorld) (context : FileContext) (args : Who → FetchFileArgs) :
    Calls FileOp FileRes Who (FileState Who) (Except JmcpError FetchReport) where
  world := fileWorld files
  program who := fetchFile context (args who)
  outside := RemoteChange

/-- The same calls as long as every step spares the download of one of them. -/
def sparingCalls [DecidableEq Who] (files : FileWorld) (context : FileContext) (args : Who → FetchFileArgs)
    (call : Who) : Calls FileOp FileRes Who (FileState Who) (Except JmcpError FetchReport) where
  world who := (fileWorld files who).restrict fun s op _ _ =>
    Spares (fun who => (args who).device) call who s op
  program who := fetchFile context (args who)
  outside := RemoteChange

section Sharing
variable (device : Who → Text) (call : Who)

/-- A download goes on under the permit of its router. -/
def Guarded (s : FileState Who) : Prop :=
  ∀ who name, s.pending who = some name → s.permit (device who) = some who

/-- What the other calls leave to a call. -/
structure Leaves (who : Who) (s t : FileState Who) : Prop where
  permit : s.permit (device who) = some who → t.permit (device who) = some who
  pending : who = call → ∀ name, s.pending who = some name →
    t.pending who = some name ∧ t.staged name = s.staged name
  promoted : t.promoted who = s.promoted who

def MayTouch (who : Who) (s : FileState Who) (op : FileOp) : Prop :=
  opTouches op ≠ [] → s.permit (device who) = some who

variable {device call} {who : Who} {s s' : FileState Who} {op : FileOp}

theorem guarded_step (guarded : Guarded device s) (may : MayTouch device who s op)
    (frame : Frame who (opTouches op) s s') : Guarded device s' := by
  intro other name waits
  by_cases same : other = who
  · subst same
    obtain ⟨before, kept⟩ := frame.own name waits
    apply kept
    rcases before with before | touched
    · exact guarded other name before
    · exact may (List.ne_nil_of_mem touched)
  · exact frame.permit other _ same (guarded other name (frame.stale other name same waits))

/-- The permit keeps the calls for its own router away, and the others spare the download. -/
theorem leaves_step (guarded : Guarded device s) (may : MayTouch device who s op)
    (spares : Spares device call who s op) (frame : Frame who (opTouches op) s s') {other : Who}
    (differs : other ≠ who) : Leaves device call other s s' where
  permit := frame.permit other _ differs
  pending := by
    rintro rfl name waits
    have untouched : name ∉ opTouches op := by
      intro touched
      by_cases sameRouter : device who = device other
      · have mine := may (List.ne_nil_of_mem touched)
        have theirs := guarded other name waits
        rw [sameRouter, theirs] at mine
        exact differs (Option.some.inj mine)
      · exact spares sameRouter name touched waits
    exact ⟨frame.pending other name differs waits untouched, frame.staged name untouched⟩
  promoted := frame.promoted other differs

theorem Leaves.trans {t u : FileState Who} (first : Leaves device call who s t)
    (second : Leaves device call who t u) : Leaves device call who s u where
  permit held := second.permit (first.permit held)
  pending same name waits := by
    obtain ⟨waiting, kept⟩ := first.pending same name waits
    obtain ⟨waits', kept'⟩ := second.pending same name waiting
    exact ⟨waits', kept'.trans kept⟩
  promoted := second.promoted.trans first.promoted

end Sharing

variable [DecidableEq Who] {files : FileWorld} {context : FileContext} {args : Who → FetchFileArgs}
  {call : Who}

def sharing (files : FileWorld) (context : FileContext) (args : Who → FetchFileArgs) (call : Who) :
    Pact (sparingCalls files context args call).world
      (sparingCalls files context args call).outside where
  inv := Guarded fun who => (args who).device
  rely := Leaves (fun who => (args who).device) call
  allowed := MayTouch fun who => (args who).device
  refl _ _ := ⟨id, fun _ _ waits => ⟨waits, rfl⟩, rfl⟩
  trans := Leaves.trans
  answered guarded may here := by
    have frame := fileWorld_answered here.1
    exact ⟨guarded_step guarded may frame,
      fun other differs => leaves_step guarded may here.2 frame differs⟩
  abandoned guarded may here := by
    have frame := fileWorld_abandoned here.1
    exact ⟨guarded_step guarded may frame,
      fun other differs => leaves_step guarded may here.2 frame differs⟩
  outside := by
    rintro s s' guarded ⟨remote, rfl⟩
    exact ⟨guarded, fun who => ⟨id, fun _ _ waits => ⟨waits, rfl⟩, rfl⟩⟩

/-! ## One call among the others -/

section Call
variable {who : Who} {s : FileState Who}

/-- What a report says of the file that was moved in place. -/
def Promised (files : FileWorld) (device : Text) (promoted : Option Staged) :
    Except JmcpError FetchReport → Prop
  | .ok (.fetched _ _ _ sha256 _) =>
      ∃ file, promoted = some file ∧ hex32 (files.digest file.bytes) = sha256 ∧
        file.router = device
  | _ => True

/-- The call whose downloads are spared keeps its promise. -/
def Keeps (files : FileWorld) (args : Who → FetchFileArgs) (call who : Who)
    (result : Except JmcpError FetchReport) (s : FileState Who) : Prop :=
  who = call → Promised files (args who).device (s.promoted who) result

def Held (args : Who → FetchFileArgs) (who : Who) (s : FileState Who) : Prop :=
  s.permit (args who).device = some who

omit [DecidableEq Who] in
theorem Held.rely {t : FileState Who} (held : Held args who s)
    (leaves : Leaves (fun who => (args who).device) call who s t) : Held args who t :=
  leaves.permit held

theorem amid_result {result : Except JmcpError FetchReport}
    (keeps : Keeps files args call who result s) :
    (sharing files context args call).amid who (.pure result) (Keeps files args call who) s := by
  intro t leaves _ same
  rw [leaves.promoted]
  exact keeps same

theorem amid_error {error : JmcpError} :
    (sharing files context args call).amid who (.pure (.error error))
      (Keeps files args call who) s :=
  amid_result fun _ => trivial

theorem sharing_sound : Sound files (sparingCalls files context args call).world :=
  fun here => here.1

omit [DecidableEq Who] in
theorem may_touch {op : FileOp} (held : Held args who s) :
    ∀ t, Leaves (fun who => (args who).device) call who s t →
      MayTouch (fun who => (args who).device) who t op :=
  fun _ leaves _ => held.rely leaves

/-- What touches no staged file goes on under the permit. -/
theorem amid_held {α : Type} {p : FileProg (Except JmcpError α)} {f : α → FetchProg}
    (held : Held args who s) (quiet : p.Performs Quiet)
    (goes : ∀ value t, Held args who t →
      (sharing files context args call).amid who (f value) (Keeps files args call who) t) :
    (sharing files context args call).amid who (p.andThen f) (Keeps files args call who) s :=
  amid_quiet sharing_sound (fun _ _ => amid_error) (fun held leaves => Leaves.permit leaves held)
    (fun free _ touching => absurd free.2 touching) (fun free => free.1) held quiet goes

/-! ## The download -/

/-- The call writes its partial file, and nobody else has touched it. -/
def Downloading (args : Who → FetchFileArgs) (call who : Who) (s : FileState Who) : Prop :=
  Held args who s ∧ (who = call → s.pending who = some (args who).partialPath)

/-- The partial file is what the router has sent. -/
def Copied (args : Who → FetchFileArgs) (call who : Who) (good : Bytes → Prop)
    (s : FileState Who) : Prop :=
  Downloading args call who s ∧ (who = call → ∃ bytes,
    s.staged (args who).partialPath = some ⟨bytes, (args who).device⟩ ∧ good bytes)

section Rely
omit [DecidableEq Who]

theorem Downloading.rely {t : FileState Who} (here : Downloading args call who s)
    (leaves : Leaves (fun who => (args who).device) call who s t) :
    Downloading args call who t :=
  ⟨here.1.rely leaves, fun same => (leaves.pending same _ (here.2 same)).1⟩

theorem Copied.rely {t : FileState Who} {good : Bytes → Prop}
    (here : Copied args call who good s)
    (leaves : Leaves (fun who => (args who).device) call who s t) :
    Copied args call who good t := by
  refine ⟨here.1.rely leaves, fun same => ?_⟩
  rw [(leaves.pending same _ (here.1.2 same)).2]
  exact here.2 same

end Rely

theorem amid_failRemoving {name : Text} {error : JmcpError} (held : Held args who s) :
    (sharing files context args call).amid who (failRemoving name error)
      (Keeps files args call who) s :=
  amid_call sharing_sound (may_touch held) fun _ _ _ _ _ => amid_error

theorem amid_promote {size : Nat} {sha : Sha256} {verified : Bool}
    (copied : Copied args call who (fun bytes => files.digest bytes = sha) s) :
    (sharing files context args call).amid who (promote context (args who) size sha verified)
      (Keeps files args call who) s := by
  refine amid_call sharing_sound (may_touch copied.1.1) fun t reply s' leaves here => amid_result fun same => ?_
  cases reply with
  | error display => trivial
  | ok _ =>
      obtain ⟨file, found, rfl⟩ := here
      obtain ⟨bytes, there, good⟩ := (copied.rely leaves).2 same
      cases there.symm.trans found
      exact ⟨⟨bytes, (args who).device⟩, Function.update_self .., congrArg hex32 good, rfl⟩

theorem amid_verifyFetched {remoteSha : Sha256}
    (copied : Copied args call who (fun _ => True) s) :
    (sharing files context args call).amid who (verifyFetched context (args who) remoteSha)
      (Keeps files args call who) s := by
  refine amid_raced sharing_sound (fun _ _ => amid_error) (may_touch copied.1.1) ?_
  intro t reply s' value leaves here read
  obtain ⟨sha, size⟩ := value
  cases read
  obtain ⟨rfl, file, found, hashed, _⟩ := here
  have still := copied.rely leaves
  by_cases mismatch : ((args who).verify && sha != remoteSha) = true
  · simp only [mismatch, if_true]
    exact amid_failRemoving still.1.1
  · simp only [mismatch]
    refine amid_promote ⟨still.1, fun same => ?_⟩
    obtain ⟨bytes, there, _⟩ := still.2 same
    cases there.symm.trans found
    exact ⟨bytes, there, hashed⟩

theorem amid_copied {remoteSha : Sha256} {result : ScpEnd} (held : Held args who s)
    (brought : result.Succeeds → Copied args call who (fun _ => True) s) :
    (sharing files context args call).amid who (copied context (args who) remoteSha result)
      (Keeps files args call who) s := by
  cases result with
  | interrupted => exact amid_failRemoving held
  | failed display => exact amid_failRemoving held
  | exited outcome =>
      by_cases succeeded : outcome.exitCode = 0
      · simp only [copied, succeeded, if_true]
        exact amid_verifyFetched (brought succeeded)
      · simp only [copied, succeeded, if_false]
        exact amid_failRemoving held

theorem amid_blocks {n : Nat} {f : Unit → FetchProg} (here : Downloading args call who s)
    (goes : ∀ t, Downloading args call who t →
      (sharing files context args call).amid who (f ()) (Keeps files args call who) t) :
    (sharing files context args call).amid who
      ((scpBlocks (args who).timeout (args who).job n).andThen f)
      (Keeps files args call who) s := by
  induction n generalizing s with
  | zero => exact goes s here
  | succ n ih =>
      rw [scpBlocks, Prog.andThen_assoc]
      refine amid_timed sharing_sound (fun _ _ => amid_error) (may_touch here.1) ?_
      rintro t _ s' leaves ⟨file, rfl⟩
      have still := here.rely leaves
      exact ih ⟨still.1, fun same => disturbs_own.trans (still.2 same)⟩

theorem amid_writing {n : Nat} {f : ScpEnd → FetchProg} (here : Downloading args call who s)
    (goes : ∀ result t, Held args who t →
      (result.Succeeds → Copied args call who (fun _ => True) t) →
      (sharing files context args call).amid who (f result) (Keeps files args call who) t) :
    (sharing files context args call).amid who
      (((scpBlocks (args who).timeout (args who).job n).andThen fun _ =>
        finishScp (args who).timeout (args who).job).andThen f)
      (Keeps files args call who) s := by
  rw [Prog.andThen_assoc]
  refine amid_blocks here ?_
  intro t writing
  refine amid_timed sharing_sound (fun _ _ => amid_error) (may_touch writing.1) ?_
  rintro t result s' leaves ⟨rfl, brought⟩
  have waiting := writing.rely leaves
  refine goes result _ waiting.1 fun succeeds => ⟨waiting, fun same => ?_⟩
  obtain ⟨bytes, there⟩ := brought succeeds (waiting.2 same)
  exact ⟨bytes, there, trivial⟩

theorem amid_runScp {f : ScpEnd → FetchProg} (held : Held args who s)
    (goes : ∀ result t, Held args who t →
      (result.Succeeds → Copied args call who (fun _ => True) t) →
      (sharing files context args call).amid who (f result) (Keeps files args call who) t) :
    (sharing files context args call).amid who
      ((runScp (args who).timeout (args who).job).andThen f) (Keeps files args call who) s := by
  rw [runScp, Prog.andThen_assoc]
  refine amid_timed sharing_sound (fun _ _ => amid_error) (may_touch held) ?_
  intro t failure s' leaves here
  have still := held.rely leaves
  cases failure with
  | some failure =>
      obtain ⟨failed, rfl⟩ := here
      exact goes failure _ still fun succeeds => absurd succeeds failed
  | none =>
      cases here
      rw [Prog.andThen_assoc]
      refine amid_timed sharing_sound (fun _ _ => amid_error) (may_touch still) ?_
      rintro t blocks s' leaves ⟨file, rfl⟩
      have opened := still.rely leaves
      exact amid_writing ⟨opened, fun _ => Function.update_self ..⟩ goes

theorem amid_download {remoteSha : Sha256} (held : Held args who s) :
    (sharing files context args call).amid who (download context (args who) remoteSha)
      (Keeps files args call who) s := by
  refine amid_call sharing_sound (may_touch held) ?_
  rintro t _ s' leaves rfl
  have still := held.rely leaves
  exact amid_runScp still fun result t held brought => amid_copied held brought

theorem amid_fetchKnown {remoteSha : Sha256} (held : Held args who s) :
    (sharing files context args call).amid who (fetchKnown context (args who) remoteSha)
      (Keeps files args call who) s := by
  refine amid_call sharing_sound (may_touch held) ?_
  rintro t kind s' leaves rfl
  have still := held.rely leaves
  cases kind with
  | none => exact amid_download still
  | some kind => cases kind with
      | symlink => exact amid_error
      | other => exact amid_download still
      | regular =>
          refine amid_held still hashFile_quiet ?_
          rintro ⟨sha, size⟩ t held
          by_cases same : sha = remoteSha
          · simp only [same, if_true]
            exact amid_result fun _ => trivial
          · by_cases force : (args who).force = true
            · simp only [same, if_false, force, if_true]
              exact amid_download held
            · simp only [same, if_false, force]
              exact amid_error

theorem amid_fetchLocked (held : Held args who s) :
    (sharing files context args call).amid who (fetchLocked context (args who))
      (Keeps files args call who) s := by
  refine amid_held held lookupKey_quiet fun _ t held => ?_
  refine amid_held held openSession_quiet fun _ t held => ?_
  refine amid_held held probeChecksum_quiet fun remoteSha t held => ?_
  cases remoteSha with
  | some remoteSha => exact amid_fetchKnown held
  | none => exact amid_error

theorem amid_fetchFile :
    (sharing files context args call).amid who (fetchFile context (args who))
      (Keeps files args call who) s := by
  refine amid_guarded sharing_sound (fun _ _ => amid_error)
    (fun _ => ⟨fun touching => absurd rfl touching, fun touching => absurd rfl touching⟩) ?_
  intro t
  refine amid_permitted sharing_sound (fun _ _ => amid_error)
    (fun _ => ⟨fun touching => absurd rfl touching, fun touching => absurd rfl touching⟩)
    (fun _ held => amid_fetchLocked held) ?_
  intro result t u keeps leaves
  refine amid_result fun same => ?_
  have kept : u.promoted who = t.promoted who := leaves.promoted
  exact kept ▸ keeps same

end Call

end JunosMcp.Transfer
