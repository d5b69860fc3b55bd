import JunosMcp.ChangeSet.CommitLog
import JunosMcp.ChangeSet.Records
import JunosMcp.Lib.Serving
import Mathlib.Data.List.Rotate

/-!
# The recovery sweep

`changeset_recovery.rs`: every operation a crash left behind is looked up in its device's commit
log, and settled when the log shows a commit that is not provisional. Live traffic works on the same
store meanwhile.
-/

namespace JunosMcp.ChangeSet
open Lib

structure PersistedAttribution where
  requestId : Text
  deriving DecidableEq

structure PersistedOperation extends OperationRecord where
  attribution : Option PersistedAttribution
  deriving DecidableEq

inductive LockProbeResult where
  | provenFree
  | notProven
  deriving DecidableEq

inductive ReprobeOutcome where
  | committed
  | committedProvisional
  | notFound
  | unreachable (reason : Text)
  deriving DecidableEq

def reprobeDeviceTimeout : Duration := 20

/-- What the reply to `show system commit` says about the record. -/
def reprobeOperation (record : PersistedOperation) (probe : Timed (Except JmcpError Text)) :
    ReprobeOutcome :=
  match record.attribution with
  | none => .notFound
  | some attribution => match probe with
      | .elapsed => .unreachable ("device did not answer within ".toList ++
          (Nat.repr reprobeDeviceTimeout).toList ++ "s".toList)
      | .completed (.error error) => .unreachable error.display
      | .completed (.ok commitLog) =>
          match commitEntryForRequestId commitLog attribution.requestId with
          | none => .notFound
          | some entry =>
              if record.rollbackDeadlineUnix.isSome || entryIsConfirmedCommit entry then
                .committedProvisional
              else .committed

def isReprobeCandidate (record : PersistedOperation) : Bool :=
  record.state = .indeterminate && record.attribution.isSome

def lockStatusMsg : LockProbeResult → Text
  | .provenFree => "the lock was proven free and returned".toList
  | .notProven => "the lock state could not be verified".toList

def settledDetails (record : PersistedOperation) (lockProbe : LockProbeResult) : Text :=
  "re-probed after restart: the device's commit log carries request.id=".toList ++
    (match record.attribution with
      | some attribution => attribution.requestId
      | none => "<none>".toList) ++
    ", so the commit landed before this process died; ".toList ++ lockStatusMsg lockProbe

def settleFromOutcome (record : PersistedOperation) (outcome : ReprobeOutcome)
    (lockProbe : LockProbeResult) : Option PersistedOperation :=
  match outcome with
  | .committed => some { record with
      state := .committed
      configLockHeld := match lockProbe with
        | .provenFree => false
        | .notProven => record.configLockHeld
      details := some (settledDetails record lockProbe) }
  | .committedProvisional | .notFound | .unreachable _ => none

structure SweepSummary where
  candidates : Nat
  settled : Nat
  provisional : Nat
  notFound : Nat
  unreachable : Nat
  writeFailed : Nat
  timedOut : Bool
  deriving DecidableEq

def SweepSummary.start (candidates : Nat) : SweepSummary := ⟨candidates, 0, 0, 0, 0, 0, false⟩

/-! ## The sweep -/

/-- A probe that has ended, of one of the records still out. -/
inductive Joined (count : Nat) where
  | sweepElapsed
  | panicked (task : Fin count)
  | probed (task : Fin count) (reply : Timed (Except JmcpError Text))

inductive SweepOp where
  | operations
  | rotation
  | joinNext (running : List PersistedOperation)
  | record (id owner device : Text)
  | probeLockFreedom (device : Text)
  | update (record : PersistedOperation)

def SweepRes : SweepOp → Type
  | .operations => List PersistedOperation
  | .rotation => Nat
  | .joinNext running => Joined running.length
  | .record _ _ _ => Option PersistedOperation
  | .probeLockFreedom _ => Timed LockProbeResult
  | .update _ => Except Text Unit

abbrev SweepProg := Prog SweepOp SweepRes SweepSummary

/-- `still_a_candidate`. -/
def stillACandidate (current : Option PersistedOperation) : Option PersistedOperation :=
  current.filter isReprobeCandidate

def settle (record : PersistedOperation) (summary : SweepSummary)
    (next : SweepSummary → SweepProg) : SweepProg :=
  .step (.record record.id record.owner record.device) fun current =>
    match stillACandidate current with
    | none => next summary
    | some current => .step (.probeLockFreedom record.device) fun probe =>
        let (summary, lockProbe) : SweepSummary × LockProbeResult := match probe with
          | Timed.completed result => (summary, result)
          | .elapsed => ({ summary with timedOut := true }, .notProven)
        match settleFromOutcome current .committed lockProbe with
        | none => next summary
        | some settled => .step (.update settled) fun
            | Except.error _ => next { summary with writeFailed := summary.writeFailed + 1 }
            | .ok () => next { summary with settled := summary.settled + 1 }

/-- The probes run at once and are taken as they end; `left` of them have not been taken. -/
def sweepLoop : (left : Nat) → (running : List PersistedOperation) → SweepSummary → SweepProg
  | 0, _, summary => .pure summary
  | left + 1, running, summary => .step (.joinNext running) fun
      | Joined.sweepElapsed => .pure { summary with timedOut := true }
      | .panicked task =>
          sweepLoop left (running.eraseIdx task)
            { summary with unreachable := summary.unreachable + 1 }
      | .probed task reply =>
          let record := running.get task
          let running := running.eraseIdx task
          match reprobeOperation record reply with
          | .committed => settle record summary (sweepLoop left running)
          | .committedProvisional =>
              sweepLoop left running { summary with provisional := summary.provisional + 1 }
          | .notFound => sweepLoop left running { summary with notFound := summary.notFound + 1 }
          | .unreachable _ =>
              sweepLoop left running { summary with unreachable := summary.unreachable + 1 }

def sweepCrashedCommits : SweepProg :=
  .step .operations fun operations =>
    let candidates : List PersistedOperation := List.filter isReprobeCandidate operations
    if candidates.isEmpty then .pure (.start candidates.length)
    else .step .rotation fun (rotation : Nat) =>
      sweepLoop candidates.length (candidates.rotate (rotation % candidates.length))
        (.start candidates.length)

/-! ## The store -/

/-- Operations by id, and the logs the devices have answered with, each with the record it was
asked for. -/
structure RecoverySite where
  records : Text → Option PersistedOperation
  named : ∀ {id : Text} {record : PersistedOperation}, records id = some record → record.id = id
  heard : List (PersistedOperation × Text)

def RecoverySite.put (site : RecoverySite) (record : PersistedOperation) : RecoverySite where
  records := Function.update site.records record.id (some record)
  named {id found} stored := by
    by_cases same : id = record.id
    · subst same
      rw [Function.update_self] at stored
      cases stored
      rfl
    · rw [Function.update_of_ne same] at stored
      exact site.named stored
  heard := site.heard

def RecoverySite.hears (site : RecoverySite) (record : PersistedOperation) (log : Text) :
    RecoverySite :=
  { site with heard := (record, log) :: site.heard }

/-- The listing of every operation. -/
def RecoverySite.lists (site : RecoverySite) (listed : List PersistedOperation) : Prop :=
  ∀ record, record ∈ listed ↔ site.records record.id = some record

/-- Only an update writes a record, and one that is reported failed may have been written. -/
def recoveryWorld : World SweepOp SweepRes RecoverySite where
  answered
    | site, .operations, listed, site' => site' = site ∧ site.lists listed
    | site, .rotation, _, site' => site' = site
    | site, .joinNext running, answer, site' => match answer with
        | Joined.probed task (.completed (.ok log)) => site' = site.hears (running.get task) log
        | _ => site' = site
    | site, .record id owner device, answer, site' => site' = site ∧
        answer = (site.records id).filter fun record =>
          record.owner = owner && record.device = device
    | site, .probeLockFreedom _, _, site' => site' = site
    | site, .update record, answer, site' => match answer with
        | Except.ok () => site' = site.put record
        | .error _ => site' = site.put record ∨ site' = site
  abandoned site _ site' := site' = site

/-- Another writer of the store. -/
structure OtherWrite where
  id : Text
  value : Option PersistedOperation

def writes (site : RecoverySite) (event : OtherWrite) (site' : RecoverySite) : Prop :=
  site'.records = Function.update site.records event.id event.value ∧ site'.heard = site.heard

/-! ## What is settled -/

/-- The record was a crashed commit without a deadline, and an entry that its device's log shows for
it is not provisional; nothing but the state, the lock flag and the details is new. -/
structure Settlement (heard : List (PersistedOperation × Text))
    (record settled : PersistedOperation) : Prop where
  candidate : isReprobeCandidate record = true
  noDeadline : record.rollbackDeadlineUnix = none
  found : ∃ attribution log entry, record.attribution = some attribution ∧
    (record, log) ∈ heard ∧ commitEntryForRequestId log attribution.requestId = some entry ∧
    entryIsConfirmedCommit entry = false
  written : ∃ lockProbe, settleFromOutcome record .committed lockProbe = some settled

theorem Settlement.mono {heard heard' : List (PersistedOperation × Text)}
    {record settled : PersistedOperation} (settlement : Settlement heard record settled)
    (later : ∀ reply ∈ heard, reply ∈ heard') : Settlement heard' record settled := by
  obtain ⟨attribution, log, entry, known, member, found, plain⟩ := settlement.found
  exact { settlement with found := ⟨attribution, log, entry, known, later _ member, found, plain⟩ }

theorem Settlement.settled_state {heard : List (PersistedOperation × Text)}
    {record settled : PersistedOperation} (settlement : Settlement heard record settled) :
    settled.state = .committed := by
  obtain ⟨lockProbe, written⟩ := settlement.written
  cases written
  rfl

theorem settle_id {record settled : PersistedOperation} {outcome : ReprobeOutcome}
    {lockProbe : LockProbeResult}
    (written : settleFromOutcome record outcome lockProbe = some settled) :
    settled.id = record.id := by
  cases outcome <;> cases written
  rfl

/-- A plain commit in the log of the reply is the only way to `Committed`. -/
theorem reprobe_committed {record : PersistedOperation}
    {reply : Timed (Except JmcpError Text)} (outcome : reprobeOperation record reply = .committed) :
    ∃ attribution log entry, record.attribution = some attribution ∧
      reply = .completed (.ok log) ∧
      commitEntryForRequestId log attribution.requestId = some entry ∧
      record.rollbackDeadlineUnix = none ∧ entryIsConfirmedCommit entry = false := by
  rw [reprobeOperation] at outcome
  cases known : record.attribution with
  | none =>
      rw [known] at outcome
      cases outcome
  | some attribution =>
      rw [known] at outcome
      rcases reply with (error | log) | _
      · cases outcome
      · cases found : commitEntryForRequestId log attribution.requestId with
        | none => simp [found] at outcome
        | some entry =>
            simp only [found] at outcome
            split at outcome
            · cases outcome
            · rename_i plain
              rw [Bool.or_eq_true, not_or, Option.isSome_iff_ne_none, not_not] at plain
              exact ⟨attribution, log, entry, rfl, rfl, found, plain.1,
                Bool.eq_false_iff.mpr plain.2⟩
      · cases outcome

section Regime
variable (id : Text) (first : Option PersistedOperation)

/-- The record is what it was first, or its settlement. -/
def Undisturbed (site : RecoverySite) : Prop :=
  site.records id = first ∨ ∃ record settled, first = some record ∧
    site.records id = some settled ∧ Settlement site.heard record settled

/-- A settlement is all that may be written over the record. -/
def recoveryRegime : Regime fun _ : Unit => recoveryWorld where
  inv := Undisturbed id first
  later site site' := ∀ reply ∈ site.heard, reply ∈ site'.heard
  allowed _ site op := match op with
    | .update settled => settled.id = id →
        ∃ record, first = some record ∧ Settlement site.heard record settled
    | _ => True
  refl _ _ member := member
  trans early late reply member := late reply (early reply member)
  answered {_ site op answer site'} kept allowed here := by
    have unchanged (same : site' = site) :
        Undisturbed id first site' ∧ ∀ reply ∈ site.heard, reply ∈ site'.heard := by
      subst same
      exact ⟨kept, fun _ member => member⟩
    cases op with
    | operations => exact unchanged here.1
    | rotation => exact unchanged here
    | record _ _ _ => exact unchanged here.1
    | probeLockFreedom _ => exact unchanged here
    | joinNext running =>
        rcases answer with _ | _ | ⟨task, (error | log) | _⟩
        · exact unchanged here
        · exact unchanged here
        · exact unchanged here
        · cases here
          refine ⟨?_, fun reply member => List.mem_cons_of_mem _ member⟩
          rcases kept with same | ⟨record, settled, old, new, settlement⟩
          · exact .inl same
          · exact .inr ⟨record, settled, old, new,
              settlement.mono fun reply member => List.mem_cons_of_mem _ member⟩
        · exact unchanged here
    | update settled =>
        have put (same : site' = site.put settled) :
            Undisturbed id first site' ∧ ∀ reply ∈ site.heard, reply ∈ site'.heard := by
          subst same
          refine ⟨?_, fun _ member => member⟩
          by_cases mine : settled.id = id
          · obtain ⟨record, old, settlement⟩ := allowed mine
            refine .inr ⟨record, settled, old, ?_, settlement⟩
            rw [← mine]
            exact Function.update_self _ _ _
          · have other : (site.put settled).records id = site.records id :=
              Function.update_of_ne (Ne.symm mine) _ _
            rw [Undisturbed, other]
            exact kept
        cases answer with
        | ok _ => exact put here
        | error _ => exact here.elim put unchanged
  abandoned kept _ here := by
    cases here
    exact ⟨kept, fun _ member => member⟩

variable {id first} {site : RecoverySite}

theorem amid_settle {record : PersistedOperation} {summary : SweepSummary} {log : Text}
    {next : SweepSummary → SweepProg} (mine : record.id = id → first = some record)
    (heard : (record, log) ∈ site.heard)
    (outcome : reprobeOperation record (.completed (.ok log)) = .committed)
    (rest : ∀ summary site, (recoveryRegime id first).amid () (next summary) (fun _ _ => True) site) :
    (recoveryRegime id first).amid () (settle record summary next) (fun _ _ => True) site := by
  rintro t later kept
  refine ⟨trivial, ?_⟩
  rintro current t' ⟨rfl, answer⟩
  dsimp only
  cases still : stillACandidate current with
  | none => exact rest _ _
  | some found =>
      obtain ⟨here, candidate⟩ := Option.filter_eq_some_iff.mp still
      rw [answer] at here
      obtain ⟨stored, _⟩ := Option.filter_eq_some_iff.mp here
      have named := t'.named stored
      rintro u pastProbe _
      refine ⟨trivial, ?_⟩
      rintro probe u' rfl
      dsimp only
      split
      · exact rest _ _
      · rename_i settled written
        rintro v pastUpdate _
        refine ⟨?_, ?_⟩
        · intro same
          have mineToo : record.id = id := by rw [← named, ← settle_id written, same]
          have old := mine mineToo
          -- The record that is written over is the one that was probed.
          have unsettled : found = record := by
            rw [mineToo] at stored
            rcases kept with unchanged | ⟨_, settled', _, new, settlement⟩
            · rw [stored, old] at unchanged
              exact Option.some.inj unchanged
            · rw [stored] at new
              cases new
              rw [isReprobeCandidate, settlement.settled_state] at candidate
              cases candidate
          subst unsettled
          obtain ⟨attribution, log', entry, known, reply, entryFound, noDeadline, plain⟩ :=
            reprobe_committed outcome
          cases reply
          exact ⟨found, old, candidate, noDeadline, ⟨attribution, log, entry, known,
            pastUpdate _ (pastProbe _ (later _ heard)), entryFound, plain⟩, _, written⟩
        · rintro (_ | _) w _ <;> exact rest _ _

theorem amid_sweepLoop {left : Nat} {running : List PersistedOperation} {summary : SweepSummary}
    (mine : ∀ record ∈ running, record.id = id → first = some record) :
    (recoveryRegime id first).amid () (sweepLoop left running summary) (fun _ _ => True) site := by
  induction left generalizing running summary site with
  | zero => exact fun _ _ _ => trivial
  | succ left ih =>
      rintro t later kept
      refine ⟨trivial, ?_⟩
      have others (task : Fin running.length) :
          ∀ record ∈ running.eraseIdx task, record.id = id → first = some record :=
        fun record member => mine record (List.mem_of_mem_eraseIdx member)
      rintro (_ | task | ⟨task, reply⟩) t' here
      · exact fun _ _ _ => trivial
      · exact ih (others task)
      · dsimp only
        cases outcome : reprobeOperation (running.get task) reply with
        | committed =>
            obtain ⟨_, log, _, _, rfl, _⟩ := reprobe_committed outcome
            cases here
            exact amid_settle (mine _ (List.get_mem running task)) List.mem_cons_self outcome
              fun summary site => ih (others task)
        | committedProvisional => exact ih (others task)
        | notFound => exact ih (others task)
        | unreachable reason => exact ih (others task)

theorem amid_sweep :
    (recoveryRegime id first).amid () sweepCrashedCommits (fun _ _ => True) site := by
  rintro t _ kept
  refine ⟨trivial, ?_⟩
  rintro listed t' ⟨rfl, lists⟩
  dsimp only
  split
  · exact fun _ _ _ => trivial
  · rintro u _ _
    refine ⟨trivial, ?_⟩
    rintro rotation u' rfl
    refine amid_sweepLoop ?_
    intro record member same
    obtain ⟨inList, candidate⟩ := List.mem_filter.mp (List.mem_rotate.mp member)
    have stored := (lists record).mp inList
    rw [same] at stored
    rcases kept with unchanged | ⟨_, settled, _, new, settlement⟩
    · rw [← unchanged, stored]
    · rw [stored] at new
      cases new
      rw [isReprobeCandidate, settlement.settled_state] at candidate
      cases candidate

end Regime

/-! ## Attribution -/

theorem Settlement.entry {heard : List (PersistedOperation × Text)}
    {record settled : PersistedOperation} (settlement : Settlement heard record settled) :
    ∃ attribution log, record.attribution = some attribution ∧ (record, log) ∈ heard ∧
      ∀ entries, IsLog log entries → ∃ entry,
        entries.find? (·.carries attribution.requestId) = some entry ∧
        Text.contains (Text.chomp entry.header) "commit confirmed".toList = false := by
  obtain ⟨attribution, log, shown, known, member, found, plain⟩ := settlement.found
  refine ⟨attribution, log, known, member, fun entries isLog => ?_⟩
  rw [commitEntry_eq isLog] at found
  split at found
  · cases found
  · obtain ⟨entry, first, rfl⟩ := Option.map_eq_some_iff.mp found
    rw [entryIsConfirmedCommit_eq isLog (List.mem_of_find?_eq_some first)] at plain
    exact ⟨entry, first, plain⟩

/-- The entry that is found is the first with the id on a line of it, and the sweep settles an
operation only on such an entry of its device's log, one that is not provisional. -/
theorem commit_log_attributed :
    (∀ log entries, IsLog log entries → ∀ requestId, commitEntryForRequestId log requestId =
      if requestId.isEmpty then none
      else (entries.find? (·.carries requestId)).map fun entry => Text.trimEnd entry.text) ∧
    ∀ site history site' left, site.heard = [] → Woven recoveryWorld writes site history site' →
      Leads sweepCrashedCommits (ownTrace history) left →
      ∀ id, (∀ event, .other event ∈ history → event.id ≠ id) →
        site'.records id = site.records id ∨
        ∃ record settled, site.records id = some record ∧ site'.records id = some settled ∧
          record.state = .indeterminate ∧ record.rollbackDeadlineUnix = none ∧
          settled = { record with
            state := .committed
            configLockHeld := settled.configLockHeld
            details := settled.details } ∧
          ∃ attribution log, record.attribution = some attribution ∧
            (record, log) ∈ site'.heard ∧ ∀ entries, IsLog log entries → ∃ entry,
              entries.find? (·.carries attribution.requestId) = some entry ∧
              Text.contains (Text.chomp entry.header) "commit confirmed".toList = false := by
  refine ⟨fun log entries isLog requestId => commitEntry_eq isLog requestId, ?_⟩
  intro site history site' left _ woven leads id untouched
  have start : Undisturbed id (site.records id) site := .inl rfl
  obtain ⟨kept, _⟩ := Regime.amid_woven amid_sweep start woven leads (by
    rintro t event t' member kept ⟨records, heard⟩
    have other : t'.records id = t.records id := by
      rw [records]
      exact Function.update_of_ne (Ne.symm (untouched event member)) _ _
    refine ⟨?_, fun reply member => ?_⟩
    · rcases kept with same | ⟨record, settled, old, new, settlement⟩
      · exact .inl (other.trans same)
      · refine .inr ⟨record, settled, old, other.trans new, settlement.mono ?_⟩
        exact fun reply member => by rwa [heard]
    · rwa [heard])
  rcases kept with same | ⟨record, settled, old, new, settlement⟩
  · exact .inl same
  · refine .inr ⟨record, settled, old, new, ?_, settlement.noDeadline, ?_, settlement.entry⟩
    · have candidate := settlement.candidate
      rw [isReprobeCandidate, Bool.and_eq_true, decide_eq_true_eq] at candidate
      exact candidate.1
    · obtain ⟨lockProbe, written⟩ := settlement.written
      cases written
      rfl

/-! ## One log -/

def appliedEntry : LogEntry where
  header := "0 2026-09-03 by netconf\n".toList
  continuation := ["    CHG-7 request.id=7e57-ab12\n".toList]
  numbered := ⟨"0".toList, ' ', "2026-09-03 by netconf".toList, rfl, by simp, by simp, rfl⟩
  indented := by
    intro line member
    cases List.mem_singleton.mp member
    exact ⟨_, rfl⟩

def appliedLog : Text := appliedEntry.text

theorem appliedLog_isLog : IsLog appliedLog [appliedEntry] := rfl

/-- The id of another request is found where it only starts the entry's own id. -/
theorem shorter_id_found :
    IsLog appliedLog [appliedEntry] ∧
      commitEntryForRequestId appliedLog "7e57-ab1".toList = some (Text.trimEnd appliedLog) ∧
      needle "7e57-ab1".toList ∉ Text.splitWhitespace appliedEntry.text := by
  refine ⟨appliedLog_isLog, ?_, by decide⟩
  rw [commitEntry_eq appliedLog_isLog]
  rfl

def crashedApply : PersistedOperation where
  id := "op-1".toList
  owner := "alice".toList
  device := "r1".toList
  current := []
  state := .indeterminate
  details := none
  configLockHeld := true
  rollbackDeadlineUnix := none
  attribution := some ⟨"7e57-ab12".toList⟩

def crashedSite : RecoverySite where
  records id := if id = crashedApply.id then some crashedApply else none
  named {id record} stored := by
    split at stored
    · rename_i same
      cases stored
      exact same.symm
    · cases stored
  heard := []

def settledApply : PersistedOperation := { crashedApply with
  state := .committed
  configLockHeld := false
  details := some (settledDetails crashedApply .provenFree) }

/-- The sweep finds the entry and settles the crashed operation. -/
theorem crashed_apply_settled :
    commitEntryForRequestId appliedLog "7e57-ab12".toList = some (Text.trimEnd appliedLog) ∧
      ∃ attribution log, crashedApply.attribution = some attribution ∧
        (crashedApply, log) ∈ [(crashedApply, appliedLog)] ∧ ∀ entries, IsLog log entries →
          ∃ entry, entries.find? (·.carries attribution.requestId) = some entry ∧
            Text.contains (Text.chomp entry.header) "commit confirmed".toList = false := by
  refine ⟨(commit_log_attributed.1 appliedLog [appliedEntry] appliedLog_isLog _).trans rfl, ?_⟩
  let swept : RecoverySite := (crashedSite.hears crashedApply appliedLog).put settledApply
  have run : Woven recoveryWorld writes crashedSite
      [.own ⟨.operations, [crashedApply]⟩, .own ⟨.rotation, (0 : Nat)⟩,
        .own ⟨.joinNext [crashedApply], .probed 0 (.completed (.ok appliedLog))⟩,
        .own ⟨.record crashedApply.id crashedApply.owner crashedApply.device, some crashedApply⟩,
        .own ⟨.probeLockFreedom crashedApply.device, .completed .provenFree⟩,
        .own ⟨.update settledApply, .ok ()⟩] swept := by
    refine .own ⟨rfl, fun record => ?_⟩ (.own rfl (.own rfl (.own ⟨rfl, rfl⟩
      (.own rfl (.own rfl (.refl _))))))
    rw [List.mem_singleton]
    constructor
    · rintro rfl
      rfl
    · intro stored
      simp only [crashedSite] at stored
      split at stored
      · exact (Option.some.inj stored).symm
      · cases stored
  have leads : Leads sweepCrashedCommits
      [⟨.operations, [crashedApply]⟩, ⟨.rotation, (0 : Nat)⟩,
        ⟨.joinNext [crashedApply], .probed 0 (.completed (.ok appliedLog))⟩,
        ⟨.record crashedApply.id crashedApply.owner crashedApply.device, some crashedApply⟩,
        ⟨.probeLockFreedom crashedApply.device, .completed .provenFree⟩,
        ⟨.update settledApply, .ok ()⟩] (.pure ⟨1, 1, 0, 0, 0, 0, false⟩) :=
    .step (.step (.step (.step (.step (.step (.refl _))))))
  have outcome := commit_log_attributed.2 crashedSite _ swept _ rfl run leads crashedApply.id
    (by simp)
  rcases outcome with same | ⟨record, settled, old, new, _, _, _, shown⟩
  · cases same
  · cases old
    exact shown

end JunosMcp.ChangeSet
