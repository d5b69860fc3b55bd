import JunosMcp.DeviceTransactions
import JunosMcp.GatedServer

/-!
# Reviewed commits

What the calls of a gated server send to devices: a commit that follows a load is that of a change
set which another principal approved, or which was waived in lab mode and overrides nothing.
-/

namespace JunosMcp
open Lib ChangeSet

variable {σ Arguments : Type}

/-! ## Transactions of the server -/

/-- The RPCs of a transaction that came of what the call has sent, as far as it went. A change set's
session is the one it was staged on, whoever commits it. -/
inductive Transacts (coordinator : ChangesetCoordinator σ) (cleanupTimeout : Duration)
    (log : List (Sent σ Arguments)) (caller : Incoming Arguments) : List Rpc → Prop where
  | direct {store : σ} {op : ServerOp} {device : Text} {asked : CandidateRequest}
      {timeout : Duration} {rpcs : List Rpc} : ⟨caller, store, op⟩ ∈ log →
      op.sends = some (.tool (.transaction device asked timeout)) →
      Emits (runCandidate asked timeout cleanupTimeout) rpcs →
      Transacts coordinator cleanupTimeout log caller rpcs
  | confirming {store : σ} {op : ServerOp} {operationId comment : Text} {attribution : Attribution}
      {rpcs : List Rpc} : ⟨caller, store, op⟩ ∈ log →
      op.sends = some (.confirm (.confirmCommit operationId attribution)) →
      Emits (confirmCommit comment) rpcs → Transacts coordinator cleanupTimeout log caller rpcs
  | settling {store : σ} {op : ServerOp} {called : ApplyCall} {program : SessionProg Place}
      {rpcs : List Rpc} : ⟨caller, store, op⟩ ∈ log → op.sends = some (.apply called) →
      called.OnSession cleanupTimeout program → Emits program rpcs →
      Transacts coordinator cleanupTimeout log caller rpcs
  | changeSet {store : σ} {op : ServerOp} {earlier : List (Sent σ Arguments)}
      {staged : StageRequest} {actions : List JunosAction} {rpcs : List Rpc} :
      ⟨caller, store, op⟩ :: earlier <:+ log → op.sends = some (.apply (.applyChangeSet staged)) →
      coordinator.stages store staged actions → ApplySession cleanupTimeout actions rpcs →
      Transacts coordinator cleanupTimeout log caller rpcs

/-- When the call applied the change set it was approved, or waived in lab mode by then. -/
def Reviewed (coordinator : ChangesetCoordinator σ) (log : List (Sent σ Arguments))
    (caller : Incoming Arguments) (id device : Text) (override : Prop) : Prop :=
  ∃ store op earlier record approval, ⟨caller, store, op⟩ :: earlier <:+ log ∧
    coordinator.changeSets store id device = some record ∧ record.approval = some approval ∧
      (approval.ByAnother record.owner ∨
        approval.waived = true ∧ WaivedInLab earlier id device ∧ ¬override)

def Rpc.Overrides (rpc : Rpc) : Prop := ∃ payload, rpc = .load payload .override

section Reviewing
variable {coordinator : ChangesetCoordinator σ} {registry : Registry Arguments}
  {cleanupTimeout : Duration} {log : List (Sent σ Arguments)} {caller : Incoming Arguments}
  {rpcs : List Rpc} {load commit : Rpc}

theorem sent_suffix {sent : Sent σ Arguments} (member : sent ∈ log) :
    ∃ earlier, sent :: earlier <:+ log := by
  obtain ⟨later, earlier, rfl⟩ := List.append_of_mem member
  exact ⟨earlier, List.suffix_append _ _⟩

/-- What is staged was approved, or waived and overrides nothing. -/
theorem staged_reviewed (lawful : coordinator.Lawful) {store : σ} {staged : StageRequest}
    {actions : List JunosAction} {asked : Text → Text → Prop}
    (sound : coordinator.Sound asked store) (stages : coordinator.stages store staged actions)
    (session : ApplySession cleanupTimeout actions rpcs) (sent : load ∈ rpcs) :
    ∃ record approval,
      coordinator.changeSets store staged.changeSetId staged.device = some record ∧
        record.approval = some approval ∧ (approval.ByAnother record.owner ∨
          approval.waived = true ∧ asked staged.changeSetId staged.device ∧ ¬load.Overrides) := by
  obtain ⟨record, approval, stored, approved, planned⟩ := lawful.stages stages
  have genuine := sound _ _ record stored
  refine ⟨record, approval, stored, approved, ?_⟩
  cases waived : approval.waived with
  | false => exact .inl (genuine.approved approval approved waived)
  | true =>
      obtain ⟨wasAsked, plain⟩ := genuine.waived approval approved waived
      refine .inr ⟨rfl, wasAsked, ?_⟩
      rintro ⟨payload, rfl⟩
      obtain ⟨resolved, ok, member⟩ := session.loads sent
      have overrides : record.plan.Overrides := by
        rw [ChangeSetRecord.plan, planned]
        exact resolveActions_override ok member
      exact plain overrides

theorem Recorded.reviewed (lawful : coordinator.Lawful)
    (recorded : Recorded coordinator registry log)
    (transacts : Transacts coordinator cleanupTimeout log caller rpcs) (loads : load.Loads)
    (commits : commit.Commits) (sent : [load, commit].Sublist rpcs) :
    ∃ args, caller.request registry = .ok (.applyChangeSet args) ∧
      Reviewed coordinator log caller args.changeSetId args.device load.Overrides := by
  have loaded : load ∈ rpcs := sent.subset List.mem_cons_self
  have committed : commit ∈ rpcs := sent.subset (List.mem_cons_of_mem _ List.mem_cons_self)
  cases transacts with
  | direct member sends emits =>
      obtain ⟨earlier, suffix⟩ := sent_suffix member
      have plain := (recorded.found suffix).2 _ sends
      exact absurd commits (emits.only (runCandidate_uncommitted plain) commit committed)
  | @confirming _ _ _ comment _ _ member sends emits =>
      exact absurd loads (emits.only (confirmCommit_loads_nothing comment) load loaded)
  | settling member sends runs emits =>
      have quiet := emits.only (runs.noWrite.mono fun _ quiet => quiet.only) load loaded
      exact absurd loads quiet.1
  | @changeSet store op earlier staged actions _ suffix sends stages session =>
      obtain ⟨sound, may⟩ := recorded.found suffix
      obtain ⟨args, asked, id, device⟩ := may _ sends
      obtain ⟨record, approval, stored, approved, reviewed⟩ :=
        staged_reviewed lawful sound stages session loaded
      rw [id, device] at stored reviewed
      exact ⟨args, asked, store, op, earlier, record, approval, suffix, stored, approved, reviewed⟩

theorem Recorded.not_installing (recorded : Recorded coordinator registry log)
    {sent : Sent σ Arguments} (member : sent ∈ log) {upgrade : Upgrade.UpgradeRequest}
    (asked : sent.caller.request registry = .ok (.upgradeJunos upgrade)) {device command : Text}
    (sends : sent.op.sends = some (.tool (.cli device command))) (sourcePath : Text) :
    command ≠ Upgrade.installCommand sourcePath := by
  obtain ⟨earlier, suffix⟩ := sent_suffix member
  have shows : Upgrade.Shows command := (recorded.found suffix).2 _ sends upgrade asked
  rintro rfl
  cases shows

/-- Nothing unreviewed is committed, whatever is called over any restarts. -/
theorem nothing_unreviewed_committed (lawful : coordinator.Lawful) {start : Server σ Arguments}
    {site : Server σ Arguments × List (Job ServerOp ServerRes (Incoming Arguments)
      (Except CallError ToolReport))}
    (closed : start.handler.allowDirectCommit = false) (fresh : start.log = [])
    (empty : ∀ id device, coordinator.changeSets start.store id device = none)
    (reaches : (gatedServer coordinator registry).Reaches start site) :
    (∀ cleanupTimeout caller rpcs load commit,
      Transacts coordinator cleanupTimeout site.1.log caller rpcs → load.Loads → commit.Commits →
        [load, commit].Sublist rpcs → ∃ args, caller.request registry = .ok (.applyChangeSet args) ∧
          Reviewed coordinator site.1.log caller args.changeSetId args.device load.Overrides) ∧
    ∀ sent ∈ site.1.log, ∀ upgrade, sent.caller.request registry = .ok (.upgradeJunos upgrade) →
      ∀ device command sourcePath, sent.op.sends = some (.tool (.cli device command)) →
        command ≠ Upgrade.installCommand sourcePath := by
  have recorded := (gatedServer_kept lawful closed fresh empty reaches).recorded
  constructor
  · intro cleanupTimeout caller rpcs load commit transacts loads commits sent
    exact recorded.reviewed lawful transacts loads commits sent
  · intro sent member upgrade asked device command sourcePath sends
    exact recorded.not_installing member asked sends sourcePath

end Reviewing

/-! ## A coordinator -/

/-- Change sets kept in memory. -/
abbrev Shelf := Text → Text → Option ChangeSetRecord

def Shelf.put (shelf : Shelf) (id device : Text) (record : ChangeSetRecord) : Shelf :=
  fun id' device' => if id' = id ∧ device' = device then some record else shelf id' device'

inductive ShelfReview (shelf : Shelf) : (call : ReviewCall) → Option call.Reply → Shelf → Prop where
  | created {device owner fingerprint signature : Text} {actions : List JunosAction}
      {planned : PlannedSet} : shelf planned.changeSetId device = none →
      ShelfReview shelf (.createChangeSet device actions owner fingerprint signature)
        (some (.ok planned)) (shelf.put planned.changeSetId device
          ⟨planned.changeSetId, owner, device, actions.map .ok, .planned, none⟩)
  | waived {id device owner digest : Text} {record : ChangeSetRecord} {planned : PlannedSet} :
      shelf id device = some record →
      ShelfReview shelf (.waiveApproval id device owner digest) (some (.ok planned))
        (shelf.put id device { record with state := .approved, approval := some ⟨none, true⟩ })
  | approved {id device approver digest actorType : Text} {record : ChangeSetRecord}
      {planned : PlannedSet} : shelf id device = some record → approver ≠ record.owner →
      ShelfReview shelf (.approveChangeSet id device approver digest actorType) (some (.ok planned))
        (shelf.put id device
          { record with state := .approved, approval := some ⟨some approver, false⟩ })
  | refused {call : ReviewCall} {error : Text} : ShelfReview shelf call (some (.error error)) shelf
  | unseen {call : ReviewCall} : ShelfReview shelf call none shelf

inductive ShelfApply (shelf : Shelf) : (call : ApplyCall) → Option call.Reply → Shelf → Prop where
  | served {id device : Text} {record : ChangeSetRecord} : shelf id device = some record →
      record.id = id → record.device = device →
      ShelfApply shelf (.changeSet id device) (some (.ok record)) shelf
  | written {record old : ChangeSetRecord} : shelf record.id record.device = some old →
      record.plan = old.plan → ShelfApply shelf (.updateChangeSet record) (some (.ok ()))
        (shelf.put record.id record.device record)
  | other {call : ApplyCall} {reply : Option call.Reply} :
      (∀ id device, call ≠ .changeSet id device) → ShelfApply shelf call reply shelf

def shelving : ChangesetCoordinator Shelf where
  changeSets shelf := shelf
  issued shelf id device := (shelf id device).map ChangeSetRecord.plan
  review := ShelfReview
  apply := ShelfApply
  confirm shelf _ _ shelf' := shelf' = shelf
  load shelf shelf' := shelf' = shelf
  stages shelf staged actions := ∃ record approval,
    shelf staged.changeSetId staged.device = some record ∧ record.approval = some approval ∧
      record.actions = actions.map .ok

section Shelf
variable {shelf shelf' : Shelf} {id device id' device' : Text} {record found : ChangeSetRecord}

theorem Shelf.put_same : shelf.put id device record id device = some record := by
  simp [Shelf.put]

theorem Shelf.put_found (stored : shelf.put id device record id' device' = some found) :
    id' = id ∧ device' = device ∧ found = record ∨ shelf id' device' = some found := by
  unfold Shelf.put at stored
  split at stored
  · rename_i same
    exact .inl ⟨same.1, same.2, (Option.some.inj stored).symm⟩
  · exact .inr stored

theorem Shelf.kept (same : shelf' = shelf) (stored : shelf' id device = some record) :
    shelving.Kept shelf id device record := by
  rw [same] at stored
  exact ⟨record, stored, rfl, rfl⟩

theorem Shelf.put_issued {plan : Plan}
    (same : ∀ old, shelf id device = some old → record.plan = old.plan)
    (issued : shelving.issued shelf id' device' = some plan) :
    shelving.issued (shelf.put id device record) id' device' = some plan := by
  obtain ⟨old, stored, rfl⟩ := Option.map_eq_some_iff.mp issued
  by_cases here : id' = id ∧ device' = device
  · obtain ⟨rfl, rfl⟩ := here
    exact Option.map_eq_some_iff.mpr ⟨record, Shelf.put_same, same old stored⟩
  · refine Option.map_eq_some_iff.mpr ⟨old, ?_, rfl⟩
    rw [Shelf.put, if_neg here, stored]

theorem Shelf.moves_issued {plan : Plan} (moves : shelving.Moves shelf shelf')
    (issued : shelving.issued shelf id device = some plan) :
    shelving.issued shelf' id device = some plan := by
  cases moves with
  | review here =>
      cases here with
      | created absent =>
          refine Shelf.put_issued ?_ issued
          intro old stored
          rw [absent] at stored
          cases stored
      | waived stored =>
          refine Shelf.put_issued ?_ issued
          intro old again
          rw [stored] at again
          cases again
          rfl
      | approved stored another =>
          refine Shelf.put_issued ?_ issued
          intro old again
          rw [stored] at again
          cases again
          rfl
      | refused => exact issued
      | unseen => exact issued
  | apply here =>
      cases here with
      | served stored => exact issued
      | written stored same =>
          refine Shelf.put_issued ?_ issued
          intro old again
          rw [stored] at again
          cases again
          exact same
      | other => exact issued
  | confirm here => rw [show shelf' = shelf from here]; exact issued
  | load here => rw [show shelf' = shelf from here]; exact issued

theorem Shelf.reviews {call : ReviewCall} {reply : Option call.Reply}
    (here : ShelfReview shelf call reply shelf') (stored : shelf' id device = some record) :
    shelving.Reviews shelf shelf' id device record call := by
  cases here with
  | created absent =>
      rcases Shelf.put_found stored with ⟨rfl, rfl, rfl⟩ | before
      · exact .created rfl rfl (congrArg (Option.map ChangeSetRecord.plan) Shelf.put_same)
      · exact .kept (Shelf.kept rfl before)
  | waived before =>
      rcases Shelf.put_found stored with ⟨rfl, rfl, rfl⟩ | kept
      · exact .waived before rfl rfl
      · exact .kept (Shelf.kept rfl kept)
  | approved before another =>
      rcases Shelf.put_found stored with ⟨rfl, rfl, rfl⟩ | kept
      · exact .approved before rfl rfl another
      · exact .kept (Shelf.kept rfl kept)
  | refused => exact .kept (Shelf.kept rfl stored)
  | unseen => exact .kept (Shelf.kept rfl stored)

theorem shelving_lawful : shelving.Lawful where
  issued := Shelf.moves_issued
  created here := by
    cases here
    exact congrArg (Option.map ChangeSetRecord.plan) Shelf.put_same
  review := Shelf.reviews
  apply here stored := by
    cases here with
    | served => exact .inl (Shelf.kept rfl stored)
    | written old same =>
        rcases Shelf.put_found stored with ⟨rfl, rfl, rfl⟩ | before
        · exact .inr ⟨rfl, rfl, rfl⟩
        · exact .inl (Shelf.kept rfl before)
    | other => exact .inl (Shelf.kept rfl stored)
  served here := by
    cases here with
    | served stored id device => exact ⟨stored, id, device⟩
    | other plain => exact absurd rfl (plain _ _)
  confirm here stored := Shelf.kept here stored
  load here stored := Shelf.kept here stored
  stages here := here

end Shelf

/-! ## Alice and Bob -/

namespace TwoPerson

def byName : Registry ToolRequest where
  decode name request := if request.tool = name then .ok request else .error "wrong tool".toList
  decodeExecute _ := .error "no operation".toList
  named {name arguments request} ok := by
    split at ok
    · rename_i same
      cases ok
      exact same
    · cases ok

def twoPerson : JmcpHandler :=
  { campus with
    allowDirectCommit := false
    directCommitRefusal := "use a change set".toList
    labMode := false
    fromCaller := fun caller => ⟨caller.tokenName, none, none⟩
    stdio := ⟨"stdio".toList, none, none⟩
    actorType := fun _ => "service".toList
    badByte := fun _ => [] }

def token (name : Text) : CallerCtx := ⟨name, fun _ => true, fun _ => true⟩

def wholeConfig : JunosAction :=
  ⟨some ⟨"system \x7b \x7d".toList, some "text".toList, some "override".toList⟩, none⟩

def applyArgs : ApplyChangeSetArgs := ⟨"c1".toList, [], [], edge, some 0⟩

def asks (number : Nat) (name : Text) (request : ToolRequest) : Incoming ToolRequest :=
  ⟨number, twoPerson, some (token name), request.tool, request⟩

def creates : Incoming ToolRequest :=
  asks 0 "alice".toList (.createChangeSet ⟨edge, [], [wholeConfig]⟩)

def approves : Incoming ToolRequest :=
  asks 1 "bob".toList (.approveChangeSet ⟨"c1".toList, edge, []⟩)

def applies : Incoming ToolRequest := asks 2 "alice".toList (.applyChangeSet applyArgs)

theorem creates_program : ∃ next, (gatedServer shelving byName).program creates =
    .step (.bare (.review (.createChangeSet edge [wholeConfig] "alice".toList []
      "junos-default-v1".toList))) next := ⟨_, rfl⟩

theorem approves_program : ∃ next, (gatedServer shelving byName).program approves =
    .step (.bare (.review (.approveChangeSet "c1".toList edge "bob".toList []
      "service".toList))) next := ⟨_, rfl⟩

def plannedRecord : ChangeSetRecord :=
  ⟨"c1".toList, "alice".toList, edge, [wholeConfig].map .ok, .planned, none⟩

def approvedRecord : ChangeSetRecord :=
  { plannedRecord with state := .approved, approval := some ⟨some "bob".toList, false⟩ }

theorem applies_program : ∃ next, (gatedServer shelving byName).program applies =
    .step (.bare (.apply (.changeSet "c1".toList edge))) next ∧
    ∃ staged last, staged.changeSetId = "c1".toList ∧ staged.device = edge ∧
      next (.ok approvedRecord) = .step (.bare (.apply (.applyChangeSet staged))) last :=
  ⟨_, rfl, _, _, rfl, rfl, rfl⟩

/-- The server between its calls. -/
def served (store : Shelf) (calls : Nat) (log : List (Sent Shelf ToolRequest)) :
    Server Shelf ToolRequest := ⟨twoPerson, store, calls, log⟩

def bare : Shelf := fun _ _ => none

def planned : Shelf := bare.put "c1".toList edge plannedRecord

def approved : Shelf := planned.put "c1".toList edge approvedRecord

def created : Sent Shelf ToolRequest := ⟨creates, bare, .bare (.review (.createChangeSet edge
  [wholeConfig] "alice".toList [] "junos-default-v1".toList))⟩

def reviewed : Sent Shelf ToolRequest := ⟨approves, planned, .bare (.review (.approveChangeSet
  "c1".toList edge "bob".toList [] "service".toList))⟩

def looked : Sent Shelf ToolRequest := ⟨applies, approved, .bare (.apply (.changeSet "c1".toList
  edge))⟩

def planReply : PlannedSet := ⟨"c1".toList, [], .planned, none, none⟩

theorem reaches_applied : ∃ staged, staged.changeSetId = "c1".toList ∧ staged.device = edge ∧
    (gatedServer shelving byName).Reaches (served bare 0 [])
      (served approved 3 [⟨applies, approved, .bare (.apply (.applyChangeSet staged))⟩, looked,
        reviewed, created], []) := by
  obtain ⟨_, creating⟩ := creates_program
  obtain ⟨_, approving⟩ := approves_program
  obtain ⟨_, looking, staged, _, id, device, applying⟩ := applies_program
  have creation : ShelfReview bare (.createChangeSet edge [wholeConfig] "alice".toList []
      "junos-default-v1".toList) (some (.ok planReply)) planned := .created rfl
  have approval : ShelfReview planned (.approveChangeSet "c1".toList edge "bob".toList []
      "service".toList) (some (.ok planReply)) approved :=
    .approved Shelf.put_same (show "bob".toList ≠ plannedRecord.owner by decide)
  have lookup : ShelfApply approved (.changeSet "c1".toList edge) (some (.ok approvedRecord))
      approved := .served Shelf.put_same rfl rfl
  have application : ShelfApply approved (.applyChangeSet staged) none approved := .other nofun
  have idle : (gatedServer shelving byName).Reaches (served bare 0 []) (served bare 0 [], []) :=
    .start
  have wasCreated : (gatedServer shelving byName).Reaches (served bare 0 [])
      (served planned 1 [created], []) :=
    (idle.replied ⟨rfl, rfl, rfl⟩ creating ⟨planned, creation, rfl⟩).dropped
  have wasApproved : (gatedServer shelving byName).Reaches (served bare 0 [])
      (served approved 2 [reviewed, created], []) :=
    (wasCreated.replied ⟨rfl, rfl, rfl⟩ approving ⟨approved, approval, rfl⟩).dropped
  have lookedUp := wasApproved.replied ⟨rfl, rfl, rfl⟩ looking ⟨approved, lookup, rfl⟩
  rw [applying] at lookedUp
  exact ⟨staged, id, device, lookedUp.abandoned ⟨approved, application, rfl⟩⟩

def wholeLoad : ResolvedAction := .load (.text "system \x7b \x7d".toList) .override

def stagedLoad : Rpc := .load (.text "system \x7b \x7d".toList) .override

def stagedRpcs : List Rpc := [.config, .lock, stagedLoad]

def committedRpcs : List Rpc := [.config, .commitWithComment []]

/-- The session is cut off after the load, and again once the commit is sent. -/
theorem session_commits : ApplySession 5 [wholeConfig] (stagedRpcs ++ committedRpcs) := by
  have resolved : resolveActions [wholeConfig] = .ok [wholeLoad] := rfl
  have staged : ApplySession 5 [wholeConfig] ([] ++ stagedRpcs) := by
    refine .method .opened (.stage resolved) ⟨[.bare (.guard .preventReuse),
      .bare (.device .config), .bare (.device .lock), .bare (.device stagedLoad)], ?_, rfl⟩
    exact .step () (.step (.ok ()) (.step (.ok ()) (.step (.ok ()) (.cut _))))
  refine .method staged (.commit 0 none [])
    ⟨[.bare (.device .config), .bare (.device (.commitWithComment []))], ?_, rfl⟩
  exact .step (.ok ()) (.step (.ok ()) (.cut _))

/-- Alice's override is applied once Bob has approved it. -/
theorem approved_override_committed : ∃ site rpcs commit,
    (gatedServer shelving byName).Reaches (served bare 0 []) site ∧
    Transacts shelving 5 site.1.log applies rpcs ∧ commit.Commits ∧
    [stagedLoad, commit].Sublist rpcs ∧ ∃ args,
      applies.request byName = .ok (.applyChangeSet args) ∧
        Reviewed shelving site.1.log applies args.changeSetId args.device stagedLoad.Overrides := by
  obtain ⟨staged, id, device, reaches⟩ := reaches_applied
  let log : List (Sent Shelf ToolRequest) :=
    [⟨applies, approved, .bare (.apply (.applyChangeSet staged))⟩, looked, reviewed, created]
  have transacts : Transacts shelving 5 log applies (stagedRpcs ++ committedRpcs) := by
    refine .changeSet (List.suffix_refl _) rfl ⟨approvedRecord, _, ?_, rfl, rfl⟩ session_commits
    rw [id, device]
    exact Shelf.put_same
  have sent : [stagedLoad, .commitWithComment []].Sublist (stagedRpcs ++ committedRpcs) := by
    decide
  have commits : (Rpc.commitWithComment []).Commits := trivial
  refine ⟨_, _, _, reaches, transacts, commits, sent, ?_⟩
  exact (nothing_unreviewed_committed shelving_lawful rfl rfl (fun _ _ => rfl) reaches).1
    5 applies _ _ _ transacts trivial commits sent

end TwoPerson

end JunosMcp
