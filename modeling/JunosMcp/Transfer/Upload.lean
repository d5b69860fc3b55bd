import JunosMcp.Transfer.Handlers

/-!
# `transfer_file`

A staged file is copied to `/var/tmp` of a router under the router's permit: the checksum is read
before, where an equal file ends the call, and again after the copy.
-/

namespace JunosMcp.Transfer
open Lib ChangeSet Upgrade Text

/-! ## Free storage -/

section Storage
variable (parseF64Scaled : Text → Nat → Option Nat)

theorem fields_ne_nil (a b c avail e f : Text) (more : List Text) :
    a :: b :: c :: avail :: e :: f :: more ≠ [] :=
  List.cons_ne_nil _ _

/-- The `Avail` column of the row that counts. -/
def storageAvail (rootMountAvail : Option Text) : List Text → Option Text
  | [] => rootMountAvail
  | line :: rest =>
      let trimmed := trim line
      if trimmed.isEmpty || startsWith trimmed "Filesystem".toList then
        storageAvail rootMountAvail rest
      else match splitWhitespace trimmed with
        | a :: b :: c :: avail :: e :: f :: more =>
            let mount := (a :: b :: c :: avail :: e :: f :: more).getLast
              (fields_ne_nil a b c avail e f more)
            if mount == "/var".toList || mount == "/.mount/var".toList then some avail
            else if mount == "/.mount".toList then storageAvail (some avail) rest
            else storageAvail rootMountAvail rest
        | _ => storageAvail rootMountAvail rest

def readStorageFreeBytes (output : Text) : Except JmcpError Nat :=
  match storageAvail none (lines output) with
  | none => .error (.insufficientDisk 0 0
      "no /var, /.mount/var, or /.mount row found in storage output".toList)
  | some avail => match parseSizeWithSuffix parseF64Scaled avail with
      | some free => .ok free
      | none => .error (.insufficientDisk 0 0
          ("could not parse storage size '".toList ++ avail ++ "'".toList))

theorem storageFreeBytesFrom_eq (rootMountAvail : Option Text) (output : List Text) :
    storageFreeBytesFrom parseF64Scaled rootMountAvail output =
      (storageAvail rootMountAvail output).bind (parseSizeWithSuffix parseF64Scaled) := by
  induction output generalizing rootMountAvail with
  | nil => rfl
  | cons line rest ih =>
      unfold storageFreeBytesFrom storageAvail
      by_cases skipped : ((trim line).isEmpty || startsWith (trim line) "Filesystem".toList) = true
      · simp only [skipped, if_true]
        exact ih rootMountAvail
      · simp only [skipped]
        generalize splitWhitespace (trim line) = fields
        rcases fields with _ | ⟨a, _ | ⟨b, _ | ⟨c, _ | ⟨avail, _ | ⟨e, _ | ⟨f, more⟩⟩⟩⟩⟩⟩
        case cons.cons.cons.cons.cons.cons =>
          dsimp only
          generalize List.getLast _ _ = mount
          by_cases var : (mount == "/var".toList || mount == "/.mount/var".toList) = true
          · simp only [var, if_true]
            rfl
          · simp only [var]
            by_cases root : (mount == "/.mount".toList) = true
            · simp only [root, if_true]
              exact ih (some avail)
            · simp only [root]
              exact ih rootMountAvail
        all_goals exact ih rootMountAvail

/-- The upgrade reads the same number, without the text of the error. -/
theorem parseStorageFreeBytes_eq (output : Text) :
    parseStorageFreeBytes parseF64Scaled output =
      (readStorageFreeBytes parseF64Scaled output).toOption := by
  rw [parseStorageFreeBytes, storageFreeBytesFrom_eq, readStorageFreeBytes]
  cases storageAvail none (lines output) with
  | none => rfl
  | some avail =>
      rw [Option.bind_some]
      cases read : parseSizeWithSuffix parseF64Scaled avail with
      | none => simp only [read, Except.toOption]
      | some free => simp only [read, Except.toOption]

end Storage

/-! ## The handler -/

structure TransferFileArgs where
  device : Text
  sourcePath : Text
  force : Bool
  verify : Bool
  timeout : Duration

inductive TransferReport where
  | skipped (remotePath : Text) (sizeBytes : Nat) (sha256 : Text)
  | transferred (remotePath : Text) (sizeBytes : Nat) (sha256 : Text) (verified : Bool)
  deriving DecidableEq

def TransferReport.sha256 : TransferReport → Text
  | .skipped _ _ sha256 | .transferred _ _ sha256 _ => sha256

structure UploadContext extends FileContext where
  parseF64Scaled : Text → Nat → Option Nat

def minFreeHeadroomBytes : Nat := 32 * 1024 * 1024

/-- `saturating_add` on 64 bits. -/
def requiredBytes (localSize : Nat) : Nat := min (localSize + minFreeHeadroomBytes) (2 ^ 64 - 1)

abbrev TransferProg := FileProg (Except JmcpError TransferReport)

section Handler
variable (context : UploadContext) (args : TransferFileArgs)

def checkStorage (localSize : Nat) (output : Text) : Except JmcpError Unit := do
  let free ← readStorageFreeBytes context.parseF64Scaled output
  if free < requiredBytes localSize then
    .error (.insufficientDisk free (requiredBytes localSize)
      ("device '".toList ++ args.device ++ "' /var/tmp".toList))
  else .ok ()

def mismatch (localSha : Sha256) (remoteSha : Text) : JmcpError :=
  .verifyMismatch (remotePath args.sourcePath) (hex32 localSha) remoteSha

/-- The command's result is ignored: the mismatch is what the caller sees. -/
def deleteMismatched (localSha remoteSha : Sha256) : TransferProg :=
  (timed args.timeout (.cli args.device (deleteCommand args.sourcePath))).andThen fun _ =>
    .pure (.error (mismatch args localSha (hex32 remoteSha)))

def reportTransferred (localSha : Sha256) (localSize : Nat) (verified : Bool) : TransferProg :=
  .pure (.ok (.transferred (remotePath args.sourcePath) localSize (hex32 localSha) verified))

def verifyTransferred (localSha : Sha256) (localSize : Nat) : TransferProg :=
  (probeChecksum args.timeout context.debug args.device args.sourcePath
    "verify_checksum".toList).andThen fun remoteSha => match remoteSha with
      | none =>
          if args.verify then .pure (.error (mismatch args localSha "<missing>".toList))
          else reportTransferred args localSha localSize false
      | some remoteSha =>
          if args.verify && remoteSha != localSha then deleteMismatched args localSha remoteSha
          else reportTransferred args localSha localSize (remoteSha == localSha)

def upload (localSha : Sha256) (localSize : Nat) : TransferProg :=
  (runScp args.timeout (.upload args.device args.sourcePath)).andThen fun result => match result with
    | .interrupted => .pure (.error .cancelled)
    | .failed display => .pure (.error (.io display))
    | .exited outcome =>
        if outcome.exitCode = 0 then verifyTransferred context args localSha localSize
        else .pure (.error (classifyScpFailure context.toTransferConfig args.device outcome))

/-- An equal file is left as it is, and a different one only replaced on request. -/
def transferKnown (localSha : Sha256) (localSize : Nat) : Option Sha256 → TransferProg
  | none => upload context args localSha localSize
  | some remoteSha =>
      if remoteSha = localSha then
        .pure (.ok (.skipped (remotePath args.sourcePath) localSize (hex32 localSha)))
      else if args.force then upload context args localSha localSize
      else .pure (.error (.destExistsDiffers (remotePath args.sourcePath) (hex32 localSha)
        (hex32 remoteSha)))

def transferHashed (localSha : Sha256) (localSize : Nat) : TransferProg :=
  (lookupKey args.device).andThen fun () =>
  (openSession args.timeout args.device).andThen fun () =>
  (probe args.timeout args.device storageCommand "storage_probe".toList).andThen fun storage =>
  (Prog.pure (checkStorage context args localSize storage)).andThen fun () =>
  (probeChecksum args.timeout context.debug args.device args.sourcePath
    "remote_checksum".toList).andThen (transferKnown context args localSha localSize)

def transferLocked : TransferProg :=
  (fileCall (.stagedFile args.sourcePath)).bind fun kind =>
  (Prog.pure (checkStagedFile (context.stagingDir ++ "/".toList ++ args.sourcePath)
    kind)).andThen fun () =>
  (hashFile args.timeout args.sourcePath).andThen fun (localSha, localSize) =>
    transferHashed context args localSha localSize

def transferFile : TransferProg :=
  guarded context.toFileContext args.timeout [args.sourcePath] args.device
    (transferLocked context args)

end Handler

end JunosMcp.Transfer
