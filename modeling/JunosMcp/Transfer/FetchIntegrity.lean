import JunosMcp.Transfer.Fetch

/-!
# What a fetched file is

A call that reports a fetched file has moved what its router sent in place, under the checksum it
reports, unless a call for another router worked on the same partial file in between.
-/

namespace JunosMcp.Transfer
open Lib ChangeSet Upgrade

variable {Who : Type} [DecidableEq Who]

/-- From any staging directory and any files on the routers, whatever the calls do and in whatever
order: the reported checksum is that of the promoted file, and the file is the router's. -/
theorem spared_fetch_is_routers {files : FileWorld} {context : FileContext}
    {args : Who → FetchFileArgs} {call : Who} {staged : Text → Option Staged}
    {remote : Text → Text → Option Bytes}
    {site : Calls.Site FileOp FileRes Who (FileState Who) (Except JmcpError FetchReport)}
    {localPath path sha256 : Text} {size : Nat} {verified : Bool}
    (reaches : (sparingCalls files context args call).Reaches (.idle staged remote) site)
    (reported : site.2 call = some (.pure (.ok (.fetched localPath path size sha256 verified)))) :
    ∃ file, site.1.promoted call = some file ∧ hex32 (files.digest file.bytes) = sha256 ∧
      file.router = (args call).device := by
  have idle : (sharing files context args call).inv (.idle staged remote) := nofun
  have orderly := reaches.orderly idle fun _ => amid_fetchFile
  exact orderly.returned reported rfl

/-! ## A download on its own -/

section Download
variable {context : FileContext} {args : FetchFileArgs} {entry : ToolDevice} {output : Text}
  {sha : Sha256}

def copiedWell : ScpEnd := .exited ⟨0, []⟩

/-- The partial file is copied and hashed. -/
def copyTrace (args : FetchFileArgs) (sha : Sha256) (size : Nat) : Trace FileOp FileRes :=
  [⟨.bare (.removeFile args.partialPath), ()⟩,
   ⟨.timed (.scp .connect args.job), Timed.completed (none : Option ScpEnd)⟩,
   ⟨.timed (.scp .openFile args.job), Timed.completed (0 : Nat)⟩,
   ⟨.timed (.scp .finish args.job), Timed.completed copiedWell⟩,
   ⟨.raced (.hash args.partialPath),
     Raced.completed (.ok (sha, size) : Except JmcpError (Sha256 × Nat))⟩]

/-- A call up to the checksum of its file. -/
def locateTrace (args : FetchFileArgs) (entry : ToolDevice) (output : Text) :
    Trace FileOp FileRes :=
  [⟨.ensureActive, Activity.active⟩,
   ⟨.bare .knownHosts, true⟩,
   ⟨.raced (.permit args.device), Raced.completed ()⟩,
   ⟨.bare (.lookup args.device), (.ok entry : Except JmcpError ToolDevice)⟩,
   ⟨.raced (.openSession args.device), Raced.completed (.ok () : Except JmcpError Unit)⟩,
   ⟨.raced (.cli args.device (checksumCommand args.remotePath)),
     Raced.completed (.ok output : Except RustEzError Text)⟩]

def releasing {α : Type} (work : FileProg (Except JmcpError α)) : FileProg (Except JmcpError α) :=
  work.bind fun result => (fileCall .release).bind fun _ => .pure result

theorem probeChecksum_returns {timeout : Duration} {debug : Text → Text} {device name phase : Text}
    {found : Option Sha256} (parsed : parseChecksumOutput debug output = .ok found) :
    Returns (probeChecksum timeout debug device name phase)
      [⟨.raced (.cli device (checksumCommand name)),
        Raced.completed (.ok output : Except RustEzError Text)⟩] (.ok found) := by
  refine .step ?_
  rw [← parsed]
  exact .pure _

theorem validated_returns {names : List Text}
    (valid : names.forM (validateSourceBasename context.badByte) = .ok ()) :
    Returns (Prog.pure (names.forM (validateSourceBasename context.badByte)) : FileProg _) []
      (.ok ()) := by
  rw [valid]
  exact .pure _

theorem locate_leads {device : TargetDevice}
    (valid : [args.remotePath, args.localBasename].forM (validateSourceBasename context.badByte) =
      .ok ())
    (parsed : parseChecksumOutput context.debug output = .ok (some sha)) :
    Leads (fetchFile context args) (locateTrace args ⟨device, .sshKey⟩ output)
      (releasing (fetchKnown context args sha)) := by
  have probed : Leads (fetchLocked context args)
      [⟨.bare (.lookup args.device), (.ok ⟨device, .sshKey⟩ : Except JmcpError ToolDevice)⟩,
       ⟨.raced (.openSession args.device), Raced.completed (.ok () : Except JmcpError Unit)⟩,
       ⟨.raced (.cli args.device (checksumCommand args.remotePath)),
         Raced.completed (.ok output : Except RustEzError Text)⟩]
      (fetchKnown context args sha) :=
    .step (.step ((probeChecksum_returns parsed).leads_andThen (.refl _)))
  exact .step ((validated_returns valid).leads_andThen (.step (.step (probed.bind _))))

theorem copy_leads {size : Nat} :
    Leads (download context args sha) (copyTrace args sha size)
      (promote context args size sha true) := by
  have agrees : ¬(args.verify && sha != sha) = true := by simp
  have promotes : promote context args size sha true =
      if (args.verify && sha != sha) = true then
        failRemoving args.partialPath
          (.fetchVerifyMismatch (args.localPath context) (hex32 sha) (hex32 sha))
      else promote context args size sha (sha == sha) := by
    rw [if_neg agrees, beq_self_eq_true]
  exact .step (.step (.step (.step (.step (leads_nil.mpr promotes)))))

/-- Nothing is staged under the local name. -/
theorem unstaged_leads :
    Leads (fetchKnown context args sha)
      [⟨.bare (.stagedFile args.localBasename), (none : Option FileKind)⟩]
      (download context args sha) :=
  .step (.refl _)

/-- Another file has the local name. -/
def stagedOther (args : FetchFileArgs) (old : Sha256) (size : Nat) : Trace FileOp FileRes :=
  [⟨.bare (.stagedFile args.localBasename), some FileKind.regular⟩,
   ⟨.raced (.hash args.localBasename),
     Raced.completed (.ok (old, size) : Except JmcpError (Sha256 × Nat))⟩]

theorem forced_leads {old : Sha256} {size : Nat} (differs : old ≠ sha)
    (forced : args.force = true) :
    Leads (fetchKnown context args sha) (stagedOther args old size) (download context args sha) := by
  refine .step (.step (leads_nil.mpr ?_))
  dsimp only [Prog.pure_bind]
  rw [if_neg differs, if_pos forced]

/-- The state in which the device has told its checksum. -/
def located (s : FileState Who) (who : Who) (device : Text) (sha : Sha256) : FileState Who :=
  (s.takes who device).hears who (some sha)

/-- The state in which the call is about to move its partial file in place. -/
def copiedTo (s : FileState Who) (who : Who) (args : FetchFileArgs) (bytes : Bytes) :
    FileState Who :=
  (s.put who args.partialPath none).opens who args.partialPath (some ⟨bytes, args.device⟩)

variable {files : FileWorld} {who : Who} {s : FileState Who}

theorem locate_follows {bytes : Bytes} (free : s.permit args.device = none)
    (there : s.remote args.device args.remotePath = some bytes)
    (parsed : parseChecksumOutput files.debug output = .ok (some sha))
    (hashed : files.digest bytes = sha) :
    Follows (fileWorld files who) s (locateTrace args entry output)
      (located s who args.device sha) := by
  have heard : commandEffect files who (s.takes who args.device) args.device
      (checksumCommand args.remotePath) (some (.ok output)) (located s who args.device sha) := by
    apply commandEffect_checksum parsed
    rw [← hashed]
    exact congrArg (Option.map files.digest) there
  exact .step rfl (.step rfl (.step ⟨free, rfl⟩ (.step rfl (.step rfl (.step heard (.refl _))))))

theorem copy_follows {bytes : Bytes} (hashed : files.digest bytes = sha) :
    Follows (fileWorld files who) s (copyTrace args sha bytes.length)
      (copiedTo s who args bytes) := by
  have written : (copiedTo s who args bytes).staged args.partialPath =
      some ⟨bytes, args.device⟩ := Function.update_self ..
  exact .step rfl (.step rfl (.step ⟨_, rfl⟩ (.step ⟨rfl, fun _ _ => ⟨bytes, written⟩⟩
    (.step ⟨rfl, ⟨bytes, args.device⟩, written, hashed, rfl⟩ (.refl _)))))

/-- The call moves its partial file in place and gives its permit back. -/
def promoteTrace (args : FetchFileArgs) : Trace FileOp FileRes :=
  [⟨.bare (.rename args.partialPath args.localBasename), (.ok () : Except Text Unit)⟩,
   ⟨.bare .release, ()⟩]

def fetchedReport (context : FileContext) (args : FetchFileArgs) (sha : Sha256) (size : Nat) :
    FetchReport :=
  .fetched (args.localPath context) (remotePath args.remotePath) size (hex32 sha) true

theorem promote_leads {size : Nat} :
    Leads (releasing (promote context args size sha true)) (promoteTrace args)
      (.pure (.ok (fetchedReport context args sha size))) :=
  .step (.step (.refl _))

def promotedTo (s : FileState Who) (who : Who) (args : FetchFileArgs) (file : Staged) :
    FileState Who :=
  (s.promotes who args.partialPath args.localBasename file).releases who

theorem promote_follows {file : Staged} (there : s.staged args.partialPath = some file) :
    Follows (fileWorld files who) s (promoteTrace args) (promotedTo s who args file) :=
  .step ⟨file, there, rfl⟩ (.step rfl (.refl _))

end Download

/-! ## Two routers, one local name -/

def abcSha : Sha256 :=
  #v[0xba, 0x78, 0x16, 0xbf, 0x8f, 0x01, 0xcf, 0xea, 0x41, 0x41, 0x40, 0xde, 0x5d, 0xae, 0x22, 0x23,
     0xb0, 0x03, 0x61, 0xa3, 0x96, 0x17, 0x7a, 0x9c, 0xb4, 0x10, 0xff, 0x61, 0xf2, 0x00, 0x15, 0xad]

def emptySha : Sha256 :=
  #v[0xe3, 0xb0, 0xc4, 0x42, 0x98, 0xfc, 0x1c, 0x14, 0x9a, 0xfb, 0xf4, 0xc8, 0x99, 0x6f, 0xb9, 0x24,
     0x27, 0xae, 0x41, 0xe4, 0x64, 0x9b, 0x93, 0x4c, 0xa4, 0x95, 0x99, 0x1b, 0x78, 0x52, 0xb8, 0x55]

def abcBytes : Bytes := [97, 98, 99]

/-- The known vectors of the hash. -/
def vectorFiles : FileWorld where
  digest bytes := if bytes = abcBytes then abcSha else emptySha
  debug text := text

def labFiles : FileContext := ⟨⟨"/staging".toList, "/known_hosts".toList, .strict⟩, id, id⟩

def imageName : Text := "junos-25.4R1.12.tgz".toList

def imageChecksum (sha : Sha256) : Text :=
  "SHA256 (/var/tmp/junos-25.4R1.12.tgz) = ".toList ++ hex32 sha ++ "\n".toList

/-- The same name from each router. -/
def imageFrom (device : Text) : FetchFileArgs := ⟨device, imageName, none, false, true, 600⟩

def labFile : TargetDevice := ⟨"192.0.2.1".toList, 22, .local⟩

def routerFiles (router _ : Text) : Option Bytes :=
  if router = "r1".toList then some abcBytes else some []

def noneStaged (_ : Text) : Option Staged := none

theorem imageFrom_valid (device : Text) :
    [(imageFrom device).remotePath, (imageFrom device).localBasename].forM
      (validateSourceBasename labFiles.badByte) = .ok () := by
  rfl

theorem imageChecksum_parsed (sha : Sha256) (known : sha = abcSha ∨ sha = emptySha) :
    parseChecksumOutput labFiles.debug (imageChecksum sha) = .ok (some sha) := by
  rcases known with rfl | rfl <;> rfl

section Runs
variable {who : Who} {device : Text} {sha : Sha256} {bytes : Bytes}

/-- A call for the image as far as the hash of its partial file. -/
def imageTrace (device : Text) (sha : Sha256) (size : Nat) : Trace FileOp FileRes :=
  locateTrace (imageFrom device) ⟨labFile, .sshKey⟩ (imageChecksum sha) ++
    (⟨.bare (.stagedFile imageName), (none : Option FileKind)⟩ ::
      copyTrace (imageFrom device) sha size)

def imageCopied (s : FileState Who) (who : Who) (device : Text) (sha : Sha256) (bytes : Bytes) :
    FileState Who :=
  copiedTo (located s who device sha) who (imageFrom device) bytes

theorem imageTrace_leads {size : Nat} (known : sha = abcSha ∨ sha = emptySha) :
    Leads (fetchFile labFiles (imageFrom device)) (imageTrace device sha size)
      (releasing (promote labFiles (imageFrom device) size sha true)) := by
  have looked : Leads (fetchKnown labFiles (imageFrom device) sha)
      (⟨.bare (.stagedFile imageName), (none : Option FileKind)⟩ ::
        copyTrace (imageFrom device) sha size)
      (promote labFiles (imageFrom device) size sha true) := unstaged_leads.append copy_leads
  exact (locate_leads (imageFrom_valid device) (imageChecksum_parsed sha known)).append
    (looked.bind _)

theorem imageTrace_follows {s : FileState Who} (free : s.permit device = none)
    (there : s.remote device imageName = some bytes)
    (known : sha = abcSha ∨ sha = emptySha) (hashed : vectorFiles.digest bytes = sha) :
    Follows (fileWorld vectorFiles who) s (imageTrace device sha bytes.length)
      (imageCopied s who device sha bytes) := by
  refine follows_append.mpr ⟨_, locate_follows free there (imageChecksum_parsed _ known) hashed, ?_⟩
  exact .step rfl (copy_follows hashed)

end Runs

def r1 : Text := "r1".toList

def r2 : Text := "r2".toList

/-- The same file in two calls. -/
def pairFrom (second : Bool) : FetchFileArgs := imageFrom (if second then r2 else r1)

theorem lone_fetch_is_routers :
    ∃ file : Staged, hex32 (vectorFiles.digest file.bytes) = hex32 abcSha ∧ file.router = r1 := by
  have spares (s : FileState Unit) (op : FileOp) (_ : Option (FileRes op)) (_ : FileState Unit) :
      Spares (fun _ => r1) () () s op := fun differs => absurd rfl differs
  let idle : FileState Unit := .idle noneStaged routerFiles
  let full : FileState Unit := imageCopied idle () r1 abcSha abcBytes
  have copied : Follows (fileWorld vectorFiles ()) idle
      (imageTrace r1 abcSha abcBytes.length) full := imageTrace_follows rfl rfl (.inl rfl) rfl
  have moved : Follows (fileWorld vectorFiles ()) full (promoteTrace (imageFrom r1))
      (promotedTo full () (imageFrom r1) ⟨abcBytes, r1⟩) := promote_follows rfl
  let calls := sparingCalls vectorFiles labFiles (fun _ => imageFrom r1) ()
  have begun : calls.Reaches idle (idle, fun who => some (calls.program who)) := .start
  have waiting := begun.leads rfl (imageTrace_leads (.inl rfl)) (copied.restrict spares)
  have done := waiting.leads rfl promote_leads (moved.restrict spares)
  obtain ⟨file, _, hashed, router⟩ := spared_fetch_is_routers done rfl
  exact ⟨file, hashed, router⟩

/-- The first call has verified its copy when the second one replaces it. -/
theorem fetch_promotes_other_routers_file :
    ¬∀ site localPath path sha256 size,
      (fetchCalls vectorFiles labFiles pairFrom).Reaches (.idle noneStaged routerFiles) site →
      site.2 false = some (.pure (.ok (.fetched localPath path size sha256 true))) →
      ∃ file, site.1.promoted false = some file ∧
        hex32 (vectorFiles.digest file.bytes) = sha256 ∧ file.router = r1 := by
  intro claimed
  let idle : FileState Bool := .idle noneStaged routerFiles
  let first : FileState Bool := imageCopied idle false r1 abcSha abcBytes
  let second : FileState Bool := imageCopied first true r2 emptySha []
  have copied : Follows (fileWorld vectorFiles false) idle
      (imageTrace r1 abcSha abcBytes.length) first := imageTrace_follows rfl rfl (.inl rfl) rfl
  have replaced : Follows (fileWorld vectorFiles true) first
      (imageTrace r2 emptySha ([] : Bytes).length) second :=
    imageTrace_follows rfl rfl (.inr rfl) rfl
  have moved : Follows (fileWorld vectorFiles false) second (promoteTrace (imageFrom r1))
      (promotedTo second false (imageFrom r1) ⟨[], r2⟩) := promote_follows rfl
  let calls := fetchCalls vectorFiles labFiles pairFrom
  have begun : calls.Reaches idle (idle, fun who => some (calls.program who)) := .start
  have waiting := begun.leads rfl (imageTrace_leads (.inl rfl)) copied
  have both := waiting.leads rfl (imageTrace_leads (.inr rfl)) replaced
  have done := both.leads rfl promote_leads moved
  obtain ⟨file, promoted, _, router⟩ := claimed _ _ _ _ _ done rfl
  cases promoted
  exact absurd router (by decide)

end JunosMcp.Transfer
