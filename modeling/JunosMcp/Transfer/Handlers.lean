import JunosMcp.Transfer.Files

/-!
# The parts of the file handlers

What `transfer_file` and `fetch_file` have in common: the permit they hold for their router, the
checks of the device, the probes over its session and the copy itself.
-/

namespace JunosMcp.Transfer
open Lib ChangeSet Upgrade

structure FileContext extends TransferConfig where
  badByte : Text → Text
  debug : Text → Text

def fileCall (call : FileCall) : FileProg call.Reply := .step (.bare call) .pure

section Parts
variable (timeout : Duration)

/-- A call that cancellation ends. -/
def raced {α : Type} (call : FileCall) (read : call.Reply → Except JmcpError α) :
    FileProg (Except JmcpError α) :=
  .step (.raced call) fun reply => .pure <| match reply with
    | Raced.completed reply => read reply
    | .cancelled => .error .cancelled
    | .elapsed => .error (.transferOuterTimeout timeout)

/-- A call that sees to its cancellation itself. -/
def timed (call : FileCall) : FileProg (Except JmcpError call.Reply) :=
  .step (.timed call) fun reply => .pure <| match reply with
    | Timed.completed reply => .ok reply
    | .elapsed => .error (.transferOuterTimeout timeout)

/-- The permit is held to the end of the block. -/
def permitted {α : Type} (router : Text) (work : FileProg (Except JmcpError α)) :
    FileProg (Except JmcpError α) :=
  (raced timeout (.permit router) fun _ => .ok ()).andThen fun () =>
    work.bind fun result => (fileCall .release).bind fun _ => .pure result

def lookupKey (device : Text) : FileProg (Except JmcpError Unit) :=
  (fileCall (.lookup device)).bind fun entry => .pure <| match entry with
    | Except.ok entry => requireSshKey device (ToolDevice.auth entry)
    | .error error => .error error

def openSession (device : Text) : FileProg (Except JmcpError Unit) :=
  raced timeout (.openSession device) fun reply => reply

def probe (device command phase : Text) : FileProg (Except JmcpError Text) :=
  raced timeout (.cli device command) fun reply => match reply with
    | Except.ok output => .ok output
    | .error error => .error (.deviceProbeFailed phase (RustEzError.display error))

def probeChecksum (debug : Text → Text) (device name phase : Text) :
    FileProg (Except JmcpError (Option Sha256)) :=
  (probe timeout device (checksumCommand name) phase).andThen fun output =>
    .pure (parseChecksumOutput debug output)

def hashFile (name : Text) : FileProg (Except JmcpError (Sha256 × Nat)) :=
  raced timeout (.hash name) fun reply => reply

def connectScp (job : ScpJob) : FileProg (Except JmcpError (Option ScpEnd)) :=
  timed timeout (.scp .connect job)

def openScp (job : ScpJob) : FileProg (Except JmcpError Nat) := timed timeout (.scp .openFile job)

def finishScp (job : ScpJob) : FileProg (Except JmcpError ScpEnd) :=
  timed timeout (.scp .finish job)

def scpBlocks (job : ScpJob) : Nat → FileProg (Except JmcpError Unit)
  | 0 => .pure (.ok ())
  | n + 1 => (timed timeout (.scp .block job)).andThen fun _ => scpBlocks job n

/-- Only the timeout of the whole call ends a copy from outside. -/
def runScp (job : ScpJob) : FileProg (Except JmcpError ScpEnd) :=
  (connectScp timeout job).andThen fun failure => match failure with
    | some failure => .pure (.ok failure)
    | none => (openScp timeout job).andThen fun blocks =>
        (scpBlocks timeout job blocks).andThen fun _ => finishScp timeout job

end Parts

/-- The known hosts before anything else, then the work under the router's permit. -/
def guarded {α : Type} (context : FileContext) (timeout : Duration) (names : List Text)
    (router : Text) (work : FileProg (Except JmcpError α)) : FileProg (Except JmcpError α) :=
  .step .ensureActive fun activity => match activity with
    | Activity.cancelled => .pure (.error .cancelled)
    | _ => (Prog.pure (names.forM (validateSourceBasename context.badByte))).andThen fun () =>
        (fileCall .knownHosts).bind fun isFile =>
          (Prog.pure (checkKnownHosts context.toTransferConfig isFile)).andThen fun () =>
            permitted timeout router work

/-! ## What the parts send -/

/-- Calls that touch no staged file and keep the permit. -/
def Quiet (op : FileOp) : Prop := op.sends ≠ some .release ∧ opTouches op = []

section Sends
variable {timeout : Duration} {allowed : FileOp → Prop} {α : Type}

theorem fileCall_performs {call : FileCall} (sent : allowed (.bare call)) :
    (fileCall call).Performs allowed :=
  ⟨sent, fun _ => trivial⟩

theorem raced_performs {call : FileCall} {read : call.Reply → Except JmcpError α}
    (sent : allowed (.raced call)) : (raced timeout call read).Performs allowed :=
  ⟨sent, fun _ => trivial⟩

theorem timed_performs {call : FileCall} (sent : allowed (.timed call)) :
    (timed timeout call).Performs allowed :=
  ⟨sent, fun _ => trivial⟩

theorem scpBlocks_performs {job : ScpJob} (sent : ∀ phase, allowed (.timed (.scp phase job)))
    (n : Nat) : (scpBlocks timeout job n).Performs allowed := by
  induction n with
  | zero => trivial
  | succ n ih => exact (timed_performs (sent _)).andThen fun _ => ih

theorem runScp_performs {job : ScpJob} (sent : ∀ phase, allowed (.timed (.scp phase job))) :
    (runScp timeout job).Performs allowed := by
  have connects : (connectScp timeout job).Performs allowed := timed_performs (sent _)
  have opens : (openScp timeout job).Performs allowed := timed_performs (sent _)
  have finishes : (finishScp timeout job).Performs allowed := timed_performs (sent _)
  apply connects.andThen
  intro failure
  cases failure with
  | some failure => trivial
  | none => exact opens.andThen fun n => (scpBlocks_performs sent n).andThen fun _ => finishes

theorem permitted_performs {router : Text} {work : FileProg (Except JmcpError α)}
    (takes : allowed (.raced (.permit router))) (gives : allowed (.bare .release))
    (works : work.Performs allowed) : (permitted timeout router work).Performs allowed := by
  refine Prog.Performs.andThen (raced_performs takes) fun _ => ?_
  exact works.bind fun _ => (fileCall_performs gives).bind fun _ => trivial

theorem guarded_performs {context : FileContext} {names : List Text} {router : Text}
    {work : FileProg (Except JmcpError α)} (activity : allowed .ensureActive)
    (hosts : allowed (.bare .knownHosts)) (takes : allowed (.raced (.permit router)))
    (gives : allowed (.bare .release)) (works : work.Performs allowed) :
    (guarded context timeout names router work).Performs allowed := by
  refine ⟨activity, fun answer => ?_⟩
  have checked : (Prog.andThen (Prog.pure (names.forM (validateSourceBasename context.badByte)))
      fun () => (fileCall .knownHosts).bind fun isFile =>
        (Prog.pure (checkKnownHosts context.toTransferConfig isFile)).andThen fun () =>
          permitted timeout router work).Performs allowed := by
    cases names.forM (validateSourceBasename context.badByte) with
    | error error => trivial
    | ok _ =>
        refine (fileCall_performs hosts).bind fun isFile => ?_
        cases checkKnownHosts context.toTransferConfig isFile with
        | error error => trivial
        | ok _ => exact permitted_performs takes gives works
  cases answer with
  | cancelled => trivial
  | active => exact checked
  | expired => exact checked

theorem lookupKey_quiet {device : Text} : (lookupKey device).Performs Quiet :=
  (fileCall_performs ⟨nofun, rfl⟩).bind fun _ => trivial

theorem openSession_quiet {device : Text} : (openSession timeout device).Performs Quiet :=
  raced_performs ⟨nofun, rfl⟩

theorem probe_quiet {device command phase : Text} :
    (probe timeout device command phase).Performs Quiet :=
  raced_performs ⟨nofun, rfl⟩

theorem probeChecksum_quiet {debug : Text → Text} {device name phase : Text} :
    (probeChecksum timeout debug device name phase).Performs Quiet :=
  probe_quiet.andThen fun _ => trivial

theorem hashFile_quiet {name : Text} : (hashFile timeout name).Performs Quiet :=
  raced_performs ⟨nofun, rfl⟩

end Sends

/-! ## The parts among other calls -/

/-- Whatever a world answers, the files change as the calls change them. -/
def Sound {Who : Type} [DecidableEq Who] (files : FileWorld)
    (world : Who → World FileOp FileRes (FileState Who)) : Prop :=
  ∀ {who s op answer s'}, (world who).answered s op answer s' →
    (fileWorld files who).answered s op answer s'

section Amid
variable {Who : Type} [DecidableEq Who] {files : FileWorld}
  {world : Who → World FileOp FileRes (FileState Who)}
  {outside : FileState Who → FileState Who → Prop} {pact : Pact world outside} {who : Who}
  {s : FileState Who} {α β : Type} {post : Except JmcpError β → FileState Who → Prop}

theorem amid_call {γ : Type} {post : γ → FileState Who → Prop} {c : FileCall}
    {f : c.Reply → FileProg γ} (sound : Sound files world)
    (may : ∀ t, pact.rely who s t → pact.allowed who t (.bare c))
    (goes : ∀ t reply s', pact.rely who s t → fileEffect files who t c (some reply) s' →
      pact.amid who (f reply) post s') : pact.amid who ((fileCall c).bind f) post s := by
  intro t kept _
  exact ⟨may t kept, fun reply s' here => goes t reply s' kept (sound here)⟩

theorem amid_raced {timeout : Duration} {c : FileCall} {read : c.Reply → Except JmcpError α}
    {f : α → FileProg (Except JmcpError β)} (sound : Sound files world)
    (onError : ∀ error t, pact.amid who (.pure (.error error)) post t)
    (may : ∀ t, pact.rely who s t → pact.allowed who t (.raced c))
    (goes : ∀ t reply s' value, pact.rely who s t → fileEffect files who t c (some reply) s' →
      read reply = .ok value → pact.amid who (f value) post s') :
    pact.amid who ((raced timeout c read).andThen f) post s := by
  intro t kept _
  refine ⟨may t kept, fun answer s' here => ?_⟩
  cases answer with
  | cancelled => exact onError _ _
  | elapsed => exact onError _ _
  | completed reply =>
      cases result : read reply with
      | error error =>
          simp only [Prog.pure_bind, result]
          exact onError _ _
      | ok value =>
          simp only [Prog.pure_bind, result]
          exact goes t reply s' value kept (sound here) result

theorem amid_timed {timeout : Duration} {c : FileCall}
    {f : c.Reply → FileProg (Except JmcpError β)} (sound : Sound files world)
    (onError : ∀ error t, pact.amid who (.pure (.error error)) post t)
    (may : ∀ t, pact.rely who s t → pact.allowed who t (.timed c))
    (goes : ∀ t reply s', pact.rely who s t → fileEffect files who t c (some reply) s' →
      pact.amid who (f reply) post s') :
    pact.amid who ((timed timeout c).andThen f) post s := by
  intro t kept _
  refine ⟨may t kept, fun answer s' here => ?_⟩
  cases answer with
  | elapsed => exact onError _ _
  | completed reply => exact goes t reply s' kept (sound here)

/-- Calls that are free to be made at any time keep the permit. -/
theorem amid_quiet {free : FileOp → Prop} {router : Text} {p : FileProg (Except JmcpError α)}
    {f : α → FileProg (Except JmcpError β)} (sound : Sound files world)
    (onError : ∀ error t, pact.amid who (.pure (.error error)) post t)
    (relied : ∀ {s t}, s.permit router = some who → pact.rely who s t →
      t.permit router = some who)
    (allowed : ∀ {op t}, free op → t.permit router = some who → pact.allowed who t op)
    (keeps : ∀ {op}, free op → op.sends ≠ some .release) (held : s.permit router = some who)
    (performs : p.Performs free)
    (goes : ∀ value t, t.permit router = some who → pact.amid who (f value) post t) :
    pact.amid who (p.andThen f) post s := by
  have kept : pact.amid who p (fun _ t => t.permit router = some who) s := by
    refine Pact.amid_keeps performs held relied (fun free _ held => allowed free held) ?_
    intro op t answer t' free held here
    rcases Await.world_answered (sound here) with rfl | ⟨c, reply, seen, effect⟩
    · exact held
    · exact effect_holds effect (fun same => keeps free (same ▸ seen.sends)) held
  apply Pact.amid_then kept
  intro result t _ held
  cases result with
  | ok value => exact goes value t held
  | error error => exact onError error t

/-- The block under the permit, and its end. -/
theorem amid_permitted {timeout : Duration} {router : Text} {work : FileProg (Except JmcpError β)}
    (sound : Sound files world) (onError : ∀ error t, pact.amid who (.pure (.error error)) post t)
    (may : ∀ t, pact.allowed who t (.raced (.permit router)) ∧ pact.allowed who t (.bare .release))
    (works : ∀ t, t.permit router = some who → pact.amid who work post t)
    (released : ∀ result t u, post result t → pact.rely who t u →
      pact.amid who (.pure result) post (u.releases who)) :
    pact.amid who (permitted timeout router work) post s := by
  refine amid_raced sound onError (fun t _ => (may t).1) ?_
  rintro t _ s' _ _ ⟨_, rfl⟩ _
  refine Pact.amid_then (works _ (Function.update_self ..)) fun result t _ finished => ?_
  refine amid_call sound (fun t _ => (may t).2) ?_
  rintro u _ s' kept rfl
  exact released result t u finished kept

/-- A refused call does nothing, and what comes before the permit changes nothing. -/
theorem amid_guarded {context : FileContext} {timeout : Duration} {names : List Text}
    {router : Text} {work : FileProg (Except JmcpError β)} (sound : Sound files world)
    (onError : ∀ error t, pact.amid who (.pure (.error error)) post t)
    (may : ∀ t, pact.allowed who t .ensureActive ∧ pact.allowed who t (.bare .knownHosts))
    (goes : ∀ t, pact.amid who (permitted timeout router work) post t) :
    pact.amid who (guarded context timeout names router work) post s := by
  intro t _ _
  refine ⟨(may t).1, fun activity s' _ => ?_⟩
  have checked : pact.amid who ((Prog.pure (names.forM (validateSourceBasename
      context.badByte))).andThen fun () => (fileCall .knownHosts).bind fun isFile =>
        (Prog.pure (checkKnownHosts context.toTransferConfig isFile)).andThen fun () =>
          permitted timeout router work) post s' := by
    cases names.forM (validateSourceBasename context.badByte) with
    | error error => exact onError error s'
    | ok _ =>
        refine amid_call sound (fun t _ => (may t).2) ?_
        intro t isFile s' _ _
        cases checkKnownHosts context.toTransferConfig isFile with
        | error error => exact onError error s'
        | ok _ => exact goes s'
  cases activity with
  | cancelled => exact onError _ s'
  | active => exact checked
  | expired => exact checked

end Amid

end JunosMcp.Transfer
