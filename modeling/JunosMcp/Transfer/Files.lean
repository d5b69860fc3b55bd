import JunosMcp.Lib.Concurrent
import JunosMcp.Lib.Await
import JunosMcp.Transfer.Checks

/-!
# Files and permits

The calls of the file tools and what they do to the staging directory, to `/var/tmp` of the routers
and to the permits, one for each router. What a download may lose to another call is kept beside
them: the file it is writing, as long as no other call has touched it.
-/

namespace JunosMcp.Transfer
open Lib ChangeSet Text

/-! ## Calls -/

/-- A copy of one file; the device stands for the address and the login of its inventory entry. -/
inductive ScpJob where
  | fetch (device remoteName localName : Text)
  | upload (device localName : Text)

/-- How a copy ends: an `io::Result` of an outcome. -/
inductive ScpEnd where
  | interrupted
  | failed (display : Text)
  | exited (outcome : ScpOutcome)

def ScpEnd.Succeeds : ScpEnd → Prop
  | .exited outcome => outcome.exitCode = 0
  | _ => False

inductive ScpPhase where
  | connect
  | openFile
  | block
  | finish

inductive FileCall where
  | knownHosts
  | permit (router : Text)
  | release
  | lookup (device : Text)
  | stagedFile (name : Text)
  | hash (name : Text)
  | openSession (device : Text)
  | cli (device command : Text)
  | removeFile (name : Text)
  | rename (source target : Text)
  | scp (phase : ScpPhase) (job : ScpJob)

/-- A connection that fails ends the copy; an open file will be written so many times. -/
def FileCall.Reply : FileCall → Type
  | .knownHosts => Bool
  | .permit _ | .release | .removeFile _ => Unit
  | .lookup _ => Except JmcpError ToolDevice
  | .stagedFile _ => Option FileKind
  | .hash _ => Except JmcpError (Sha256 × Nat)
  | .openSession _ => Except JmcpError Unit
  | .cli .. => Except RustEzError Text
  | .rename .. => Except Text Unit
  | .scp .connect _ => Option ScpEnd
  | .scp .openFile _ => Nat
  | .scp .block _ => Unit
  | .scp .finish _ => ScpEnd

abbrev FileOp := Await FileCall

abbrev FileRes := Await.Res FileCall.Reply

abbrev FileProg (α : Type) := Prog FileOp FileRes α

/-- The staged files a call creates, writes, moves or removes. -/
def FileCall.touches : FileCall → List Text
  | .removeFile name => [name]
  | .rename source target => [source, target]
  | .scp .openFile (.fetch _ _ localName) | .scp .block (.fetch _ _ localName) => [localName]
  | _ => []

/-- The file on a router that a call writes or deletes. -/
def FileCall.writes : FileCall → Option (Text × Text)
  | .cli device command => (stripPrefix deletePrefix command).map fun name => (device, name)
  | .scp .openFile (.upload device name) | .scp .block (.upload device name) => some (device, name)
  | _ => none

/-! ## The state -/

structure Staged where
  bytes : Bytes
  router : Text

/-- The last three fields are of no effect: what each call is downloading undisturbed, what it has
moved in place, and the last checksum a device has told it. -/
structure FileState (Who : Type) where
  staged : Text → Option Staged
  remote : Text → Text → Option Bytes
  permit : Text → Option Who
  pending : Who → Option Text
  promoted : Who → Option Staged
  checked : Who → Option Sha256

variable {Who : Type}

/-- No call has done anything yet. -/
def FileState.idle (staged : Text → Option Staged) (remote : Text → Text → Option Bytes) :
    FileState Who :=
  ⟨staged, remote, fun _ => none, fun _ => none, fun _ => none, fun _ => none⟩

section Updates
variable [DecidableEq Who] (s : FileState Who) (who : Who)

/-- No other call is undisturbed that downloads to this file. -/
def FileState.disturbs (name : Text) : FileState Who :=
  { s with pending := fun other =>
      if other ≠ who ∧ s.pending other = some name then none else s.pending other }

def FileState.put (name : Text) (file : Option Staged) : FileState Who :=
  { s.disturbs who name with staged := Function.update s.staged name file }

def FileState.opens (name : Text) (file : Option Staged) : FileState Who :=
  { s.put who name file with
    pending := Function.update (s.put who name file).pending who (some name) }

def FileState.promotes (source target : Text) (file : Staged) : FileState Who :=
  let moved := (s.put who source none).put who target (some file)
  { moved with
    pending := Function.update moved.pending who none
    promoted := Function.update moved.promoted who (some file) }

def FileState.putRemote (device name : Text) (bytes : Option Bytes) : FileState Who :=
  { s with remote := fun router file =>
      if router = device ∧ file = name then bytes else s.remote router file }

def FileState.takes (router : Text) : FileState Who :=
  { s with permit := Function.update s.permit router (some who) }

/-- A permit goes with the call that holds it. -/
def FileState.releases : FileState Who :=
  { s with
    permit := fun router => if s.permit router = some who then none else s.permit router
    pending := Function.update s.pending who none }

def FileState.hears (sha : Option Sha256) : FileState Who :=
  { s with checked := Function.update s.checked who sha }

end Updates

/-! ## What a call does -/

/-- The hash, and how a text is printed in an error. -/
structure FileWorld where
  digest : Bytes → Sha256
  debug : Text → Text

section World
variable [DecidableEq Who] (files : FileWorld) (who : Who)

/-- The device answers a checksum command for the file it has. -/
def commandEffect (s : FileState Who) (device command : Text)
    (reply : Option (Except RustEzError Text)) (s' : FileState Who) : Prop :=
  match stripPrefix deletePrefix command with
  | some name => s' = s ∨ s' = s.putRemote device name none
  | none => match stripPrefix checksumPrefix command, reply with
      | some name, some (.ok output) => match parseChecksumOutput files.debug output with
          | .ok sha => (s.remote device name).map files.digest = sha ∧ s' = s.hears who sha
          | .error _ => s' = s
      | _, _ => s' = s

theorem stripPrefix_checksumCommand (name : Text) :
    stripPrefix checksumPrefix (checksumCommand name) = some name :=
  stripPrefix_eq_some.mpr rfl

theorem stripPrefix_deletePrefix_checksumCommand (name : Text) :
    stripPrefix deletePrefix (checksumCommand name) = none := rfl

theorem writes_delete (device name : Text) :
    (FileCall.cli device (deleteCommand name)).writes = some (device, name) := by
  have found : stripPrefix deletePrefix (deleteCommand name) = some name :=
    stripPrefix_eq_some.mpr rfl
  exact congrArg (Option.map fun name => (device, name)) found

theorem hears_checked {s : FileState Who} {sha : Option Sha256} :
    (s.hears who sha).checked who = sha :=
  Function.update_self ..

variable {files who} in
theorem commandEffect_checksum {s : FileState Who} {device name output : Text}
    {sha : Option Sha256} (parsed : parseChecksumOutput files.debug output = .ok sha)
    (there : (s.remote device name).map files.digest = sha) :
    commandEffect files who s device (checksumCommand name) (some (.ok output))
      (s.hears who sha) := by
  unfold commandEffect
  simp only [stripPrefix_deletePrefix_checksumCommand, stripPrefix_checksumCommand, parsed, there,
    and_self]

variable {files who} in
/-- What is read from the answer is the checksum of the device's file. -/
theorem commandEffect_heard {s s' : FileState Who} {debug : Text → Text} {device name output : Text}
    {sha : Option Sha256}
    (here : commandEffect files who s device (checksumCommand name) (some (.ok output)) s')
    (parsed : parseChecksumOutput debug output = .ok sha) :
    (s.remote device name).map files.digest = sha ∧ s' = s.hears who sha := by
  unfold commandEffect at here
  simp only [stripPrefix_deletePrefix_checksumCommand, stripPrefix_checksumCommand,
    parseChecksumOutput_debug parsed] at here
  exact here

/-- A copy that nobody disturbs and that succeeds has brought the file from its router. -/
def scpEffect (s : FileState Who) : (phase : ScpPhase) → (job : ScpJob) →
    Option (FileCall.scp phase job).Reply → FileState Who → Prop
  | .connect, _, some (some failure), s' => ¬failure.Succeeds ∧ s' = s
  | .openFile, .fetch _ _ localName, some _, s' => ∃ file, s' = s.opens who localName file
  | .block, .fetch _ _ localName, _, s' => ∃ file, s' = s.put who localName file
  | .finish, .fetch device _ localName, some result, s' =>
      s' = s ∧ (result.Succeeds → s.pending who = some localName →
        ∃ bytes, s.staged localName = some ⟨bytes, device⟩)
  | .openFile, .upload device name, some _, s' => ∃ bytes, s' = s.putRemote device name bytes
  | .block, .upload device name, _, s' => ∃ bytes, s' = s.putRemote device name bytes
  | _, _, _, s' => s' = s

/-- What is not awaited is done when it returns. -/
def fileEffect : Await.Effect FileCall FileCall.Reply (FileState Who)
  | s, .permit router, some _, s' => s.permit router = none ∧ s' = s.takes who router
  | s, .release, some _, s' => s' = s.releases who
  | s, .hash name, some (.ok (sha, size)), s' =>
      s' = s ∧ ∃ file, s.staged name = some file ∧ files.digest file.bytes = sha ∧
        file.bytes.length = size
  | s, .removeFile name, some _, s' => s' = s.put who name none
  | s, .rename source target, some (.ok _), s' =>
      ∃ file, s.staged source = some file ∧ s' = s.promotes who source target file
  | _, .release, none, _ | _, .removeFile _, none, _ | _, .rename .., none, _
  | _, .knownHosts, none, _ | _, .lookup _, none, _ | _, .stagedFile _, none, _ => False
  | s, .cli device command, reply, s' => commandEffect files who s device command reply s'
  | s, .scp phase job, reply, s' => scpEffect who s phase job reply s'
  | s, _, _, s' => s' = s

/-- A call that is dropped gives its permit back. -/
def fileWorld : World FileOp FileRes (FileState Who) where
  answered := (Await.world (fileEffect files who)).answered
  abandoned s op s' := ∃ middle,
    (Await.world (fileEffect files who)).abandoned s op middle ∧ s' = middle.releases who

end World

/-! ## What a call leaves alone -/

/-- What a call that touches these files leaves to the others, and what it has afterwards. -/
structure Frame (who : Who) (names : List Text) (s s' : FileState Who) : Prop where
  staged : ∀ name, name ∉ names → s'.staged name = s.staged name
  pending : ∀ other name, other ≠ who → s.pending other = some name → name ∉ names →
    s'.pending other = some name
  stale : ∀ other name, other ≠ who → s'.pending other = some name → s.pending other = some name
  permit : ∀ other router, other ≠ who → s.permit router = some other →
    s'.permit router = some other
  promoted : ∀ other, other ≠ who → s'.promoted other = s.promoted other
  checked : ∀ other, other ≠ who → s'.checked other = s.checked other
  own : ∀ name, s'.pending who = some name → (s.pending who = some name ∨ name ∈ names) ∧
    ∀ router, s.permit router = some who → s'.permit router = some who

section Frames
variable {who : Who} {names : List Text} {s s' : FileState Who}

theorem Frame.refl (who : Who) (names : List Text) (s : FileState Who) : Frame who names s s where
  staged _ _ := rfl
  pending _ _ _ found _ := found
  stale _ _ _ found := found
  permit _ _ _ held := held
  promoted _ _ := rfl
  checked _ _ := rfl
  own _ found := ⟨.inl found, fun _ held => held⟩

/-- The call keeps nothing for itself. -/
theorem Frame.settles {middle : FileState Who} (first : Frame who names s middle)
    (second : Frame who names middle s') (cleared : s'.pending who = none) :
    Frame who names s s' where
  staged name untouched := (second.staged name untouched).trans (first.staged name untouched)
  pending other name differs waits untouched :=
    second.pending other name differs (first.pending other name differs waits untouched) untouched
  stale other name differs waits :=
    first.stale other name differs (second.stale other name differs waits)
  permit other router differs held :=
    second.permit other router differs (first.permit other router differs held)
  promoted other differs := (second.promoted other differs).trans (first.promoted other differs)
  checked other differs := (second.checked other differs).trans (first.checked other differs)
  own name waits := by
    rw [cleared] at waits
    cases waits

/-- What is settled about the call itself is nothing to the others. -/
theorem own_frame (staged : s'.staged = s.staged) (permit : ∀ other router, other ≠ who →
      s.permit router = some other → s'.permit router = some other)
    (pending : ∀ other, other ≠ who → s'.pending other = s.pending other)
    (promoted : ∀ other, other ≠ who → s'.promoted other = s.promoted other)
    (checked : ∀ other, other ≠ who → s'.checked other = s.checked other)
    (own : ∀ name, s'.pending who = some name → s.pending who = some name ∧
      ∀ router, s.permit router = some who → s'.permit router = some who) :
    Frame who names s s' where
  staged name _ := congrFun staged name
  pending other _ differs waits _ := (pending other differs).trans waits
  stale other _ differs waits := (pending other differs).symm.trans waits
  permit := permit
  promoted := promoted
  checked := checked
  own name waits := ⟨.inl (own name waits).1, (own name waits).2⟩

theorem putRemote_frame {device name : Text} {bytes : Option Bytes} :
    Frame who names s (s.putRemote device name bytes) :=
  own_frame rfl (fun _ _ _ held => held) (fun _ _ => rfl) (fun _ _ => rfl) (fun _ _ => rfl)
    fun _ waits => ⟨waits, fun _ held => held⟩

theorem takes_holds {other : Who} {router device : Text} (free : s.permit router = none)
    (held : s.permit device = some other) : (s.takes who router).permit device = some other := by
  have differs : device ≠ router := by
    rintro rfl
    rw [free] at held
    cases held
  exact (Function.update_of_ne differs ..).trans held

theorem takes_frame {router : Text} (free : s.permit router = none) :
    Frame who names s (s.takes who router) :=
  own_frame rfl (fun _ _ _ held => takes_holds free held) (fun _ _ => rfl) (fun _ _ => rfl)
    (fun _ _ => rfl) fun _ waits => ⟨waits, fun _ held => takes_holds free held⟩

variable [DecidableEq Who]

theorem disturbs_pending {other : Who} {name file : Text} (differs : other ≠ who) :
    (s.disturbs who name).pending other = some file ↔ s.pending other = some file ∧ file ≠ name := by
  simp only [FileState.disturbs, differs, ne_eq, not_false_eq_true, true_and]
  by_cases same : s.pending other = some name
  · rw [if_pos same, same]
    constructor
    · intro found
      cases found
    · rintro ⟨found, other⟩
      cases found
      exact absurd rfl other
  · rw [if_neg same]
    constructor
    · intro found
      refine ⟨found, ?_⟩
      rintro rfl
      exact same found
    · exact And.left

@[simp] theorem disturbs_own {name : Text} : (s.disturbs who name).pending who = s.pending who := by
  simp [FileState.disturbs]

theorem put_frame {name : Text} {file : Option Staged} (member : name ∈ names) :
    Frame who names s (s.put who name file) where
  staged other untouched := by
    have differs : other ≠ name := fun same => untouched (same ▸ member)
    exact Function.update_of_ne differs ..
  pending other found differs waits untouched := by
    refine (disturbs_pending differs).mpr ⟨waits, ?_⟩
    rintro rfl
    exact untouched member
  stale other found differs waits := ((disturbs_pending differs).mp waits).1
  permit _ _ _ held := held
  promoted _ _ := rfl
  checked _ _ := rfl
  own found waits := by
    have before : s.pending who = some found :=
      (disturbs_own : (s.disturbs who name).pending who = s.pending who) ▸ waits
    exact ⟨.inl before, fun _ held => held⟩

theorem opens_frame {name : Text} {file : Option Staged} (member : name ∈ names) :
    Frame who names s (s.opens who name file) := by
  have frame : Frame who names s (s.put who name file) := put_frame member
  have others {other : Who} (differs : other ≠ who) :
      (s.opens who name file).pending other = (s.put who name file).pending other :=
    Function.update_of_ne differs ..
  constructor
  · exact frame.staged
  · intro other found differs waits untouched
    rw [others differs]
    exact frame.pending other found differs waits untouched
  · intro other found differs waits
    rw [others differs] at waits
    exact frame.stale other found differs waits
  · exact frame.permit
  · exact frame.promoted
  · exact frame.checked
  · intro found waits
    have same : (s.opens who name file).pending who = some name := Function.update_self ..
    cases same.symm.trans waits
    exact ⟨.inr member, fun _ held => held⟩

theorem hears_frame {sha : Option Sha256} : Frame who names s (s.hears who sha) :=
  own_frame rfl (fun _ _ _ held => held) (fun _ _ => rfl) (fun _ _ => rfl)
    (fun _ differs => Function.update_of_ne differs ..) fun _ waits => ⟨waits, fun _ held => held⟩

theorem releases_frame : Frame who names s (s.releases who) := by
  refine own_frame rfl ?_ ?_ (fun _ _ => rfl) (fun _ _ => rfl) ?_
  · intro other router differs held
    have others : s.permit router ≠ some who := by
      rw [held]
      exact fun same => differs (Option.some.inj same)
    exact (if_neg others).trans held
  · exact fun other differs => Function.update_of_ne differs ..
  · intro name waits
    have cleared : (s.releases who).pending who = none := Function.update_self ..
    rw [cleared] at waits
    cases waits

theorem promotes_frame {source target : Text} {file : Staged} (moved : source ∈ names)
    (replaced : target ∈ names) : Frame who names s (s.promotes who source target file) := by
  have first : Frame who names s (s.put who source none) := put_frame moved
  have second : Frame who names (s.put who source none)
      ((s.put who source none).put who target (some file)) := put_frame replaced
  have cleared : (s.promotes who source target file).pending who = none := Function.update_self ..
  refine first.settles ⟨second.staged, ?_, ?_, second.permit, ?_, second.checked, ?_⟩ cleared
  · intro other name differs waits untouched
    have kept := second.pending other name differs waits untouched
    exact (Function.update_of_ne differs ..).trans kept
  · intro other name differs waits
    exact second.stale other name differs ((Function.update_of_ne differs ..).symm.trans waits)
  · intro other differs
    exact (Function.update_of_ne differs ..).trans (second.promoted other differs)
  · intro name waits
    rw [cleared] at waits
    cases waits

theorem commandEffect_frame {files : FileWorld} {device command : Text}
    {reply : Option (Except RustEzError Text)}
    (here : commandEffect files who s device command reply s') : Frame who names s s' := by
  unfold commandEffect at here
  split at here
  · rcases here with rfl | rfl
    · exact .refl ..
    · exact putRemote_frame
  · split at here
    · split at here
      · obtain ⟨_, rfl⟩ := here
        exact hears_frame
      · subst here
        exact .refl ..
    · subst here
      exact .refl ..

theorem scpEffect_frame {phase : ScpPhase} {job : ScpJob}
    {reply : Option (FileCall.scp phase job).Reply} (here : scpEffect who s phase job reply s') :
    Frame who (FileCall.scp phase job).touches s s' := by
  unfold scpEffect at here
  split at here
  · rw [here.2]
    exact .refl ..
  · obtain ⟨file, rfl⟩ := here
    exact opens_frame List.mem_cons_self
  · obtain ⟨file, rfl⟩ := here
    exact put_frame List.mem_cons_self
  · rw [here.1]
    exact .refl ..
  · obtain ⟨bytes, rfl⟩ := here
    exact putRemote_frame
  · obtain ⟨bytes, rfl⟩ := here
    exact putRemote_frame
  · subst here
    exact .refl ..

theorem effect_frame {files : FileWorld} {call : FileCall} {reply : Option call.Reply}
    (here : fileEffect files who s call reply s') : Frame who call.touches s s' := by
  unfold fileEffect at here
  split at here
  · rw [here.2]
    exact takes_frame here.1
  · subst here
    exact releases_frame
  · rw [here.1]
    exact .refl ..
  · subst here
    exact put_frame List.mem_cons_self
  · obtain ⟨file, _, rfl⟩ := here
    exact promotes_frame List.mem_cons_self (.tail _ (.head _))
  all_goals first
    | exact here.elim
    | exact commandEffect_frame here
    | exact scpEffect_frame here
    | exact here ▸ .refl ..

theorem commandEffect_permit {files : FileWorld} {device command : Text}
    {reply : Option (Except RustEzError Text)}
    (here : commandEffect files who s device command reply s') : s'.permit = s.permit := by
  unfold commandEffect at here
  split at here
  · rcases here with rfl | rfl <;> rfl
  · split at here
    · split at here
      · rw [here.2]
        rfl
      · rw [here]
    · rw [here]

theorem scpEffect_permit {phase : ScpPhase} {job : ScpJob}
    {reply : Option (FileCall.scp phase job).Reply} (here : scpEffect who s phase job reply s') :
    s'.permit = s.permit := by
  unfold scpEffect at here
  split at here
  · rw [here.2]
  · obtain ⟨file, rfl⟩ := here
    rfl
  · obtain ⟨file, rfl⟩ := here
    rfl
  · rw [here.1]
  · obtain ⟨bytes, rfl⟩ := here
    rfl
  · obtain ⟨bytes, rfl⟩ := here
    rfl
  · rw [here]

/-- Nothing but the end of the block gives a permit back. -/
theorem effect_holds {files : FileWorld} {call : FileCall} {reply : Option call.Reply}
    (here : fileEffect files who s call reply s') (keeps : call ≠ .release) {router : Text}
    (held : s.permit router = some who) : s'.permit router = some who := by
  unfold fileEffect at here
  split at here
  · rw [here.2]
    exact takes_holds here.1 held
  · exact absurd rfl keeps
  · rw [here.1]
    exact held
  · rw [here]
    exact held
  · obtain ⟨file, _, rfl⟩ := here
    exact held
  all_goals first
    | exact here.elim
    | exact (congrFun (commandEffect_permit here) router).trans held
    | exact (congrFun (scpEffect_permit here) router).trans held
    | exact here ▸ held

omit [DecidableEq Who] in
theorem putRemote_remote {device name router file : Text} {bytes : Option Bytes}
    (differs : ¬(router = device ∧ file = name)) :
    (s.putRemote device name bytes).remote router file = s.remote router file :=
  if_neg differs

theorem commandEffect_remote {files : FileWorld} {device command router file : Text}
    {reply : Option (Except RustEzError Text)}
    (here : commandEffect files who s device command reply s')
    (untouched : (FileCall.cli device command).writes ≠ some (router, file)) :
    s'.remote router file = s.remote router file := by
  unfold commandEffect at here
  split at here
  · rename_i name found
    rcases here with rfl | rfl
    · rfl
    · refine putRemote_remote ?_
      rintro ⟨rfl, rfl⟩
      exact untouched (congrArg (Option.map fun name => (router, name)) found)
  · split at here
    · split at here
      · rw [here.2]
        rfl
      · rw [here]
    · rw [here]

theorem scpEffect_remote {phase : ScpPhase} {job : ScpJob} {router file : Text}
    {reply : Option (FileCall.scp phase job).Reply} (here : scpEffect who s phase job reply s')
    (untouched : (FileCall.scp phase job).writes ≠ some (router, file)) :
    s'.remote router file = s.remote router file := by
  unfold scpEffect at here
  split at here
  · rw [here.2]
  · obtain ⟨file, rfl⟩ := here
    rfl
  · obtain ⟨file, rfl⟩ := here
    rfl
  · rw [here.1]
  · obtain ⟨bytes, rfl⟩ := here
    refine putRemote_remote ?_
    rintro ⟨rfl, rfl⟩
    exact untouched rfl
  · obtain ⟨bytes, rfl⟩ := here
    refine putRemote_remote ?_
    rintro ⟨rfl, rfl⟩
    exact untouched rfl
  · rw [here]

/-- A router's file changes only by a call that writes it. -/
theorem effect_remote {files : FileWorld} {call : FileCall} {reply : Option call.Reply}
    {router file : Text} (here : fileEffect files who s call reply s')
    (untouched : call.writes ≠ some (router, file)) :
    s'.remote router file = s.remote router file := by
  unfold fileEffect at here
  split at here
  · rw [here.2]
    rfl
  · rw [here]
    rfl
  · rw [here.1]
  · rw [here]
    rfl
  · obtain ⟨file, _, rfl⟩ := here
    rfl
  all_goals first
    | exact here.elim
    | exact commandEffect_remote here untouched
    | exact scpEffect_remote here untouched
    | rw [here]

/-- The files an awaited call touches. -/
def opTouches (op : FileOp) : List Text := (op.sends.map FileCall.touches).getD []

theorem opTouches_of_sends {op : FileOp} {call : FileCall} (sends : op.sends = some call) :
    opTouches op = call.touches := by
  rw [opTouches, sends]
  rfl

theorem fileWorld_answered {files : FileWorld} {op : FileOp} {answer : FileRes op}
    (here : (fileWorld files who).answered s op answer s') : Frame who (opTouches op) s s' := by
  rcases Await.world_answered here with rfl | ⟨call, reply, seen, effect⟩
  · exact .refl ..
  · rw [opTouches_of_sends seen.sends]
    exact effect_frame effect

theorem fileWorld_abandoned {files : FileWorld} {op : FileOp}
    (here : (fileWorld files who).abandoned s op s') : Frame who (opTouches op) s s' := by
  obtain ⟨middle, dropped, rfl⟩ := here
  obtain ⟨call, sends, effect⟩ := Await.world_abandoned dropped
  rw [opTouches_of_sends sends]
  exact (effect_frame effect).settles releases_frame (Function.update_self ..)

/-- The file an awaited call writes on a router. -/
def opWrites (op : FileOp) : Option (Text × Text) := op.sends.bind FileCall.writes

theorem fileWorld_remote {files : FileWorld} {op : FileOp} {router file : Text}
    (untouched : opWrites op ≠ some (router, file))
    (here : (∃ answer, (fileWorld files who).answered s op answer s') ∨
      (fileWorld files who).abandoned s op s') :
    s'.remote router file = s.remote router file := by
  have alone {call : FileCall} (sends : op.sends = some call) :
      call.writes ≠ some (router, file) := by
    rw [opWrites, sends] at untouched
    exact untouched
  rcases here with ⟨answer, here⟩ | ⟨middle, dropped, rfl⟩
  · rcases Await.world_answered here with rfl | ⟨call, reply, seen, effect⟩
    · rfl
    · exact effect_remote effect (alone seen.sends)
  · obtain ⟨call, sends, effect⟩ := Await.world_abandoned dropped
    have kept : middle.remote router file = s.remote router file :=
      effect_remote effect (alone sends)
    exact kept

end Frames

end JunosMcp.Transfer
