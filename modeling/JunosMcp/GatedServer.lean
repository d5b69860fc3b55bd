import JunosMcp.DirectCommitGate
import JunosMcp.Lib.Serving

/-!
# The server behind the gate

The server under any calls and restarts while direct commits are off: what its calls may send at any
time, and that every change set it keeps carries a genuine approval.
-/

namespace JunosMcp
open Lib ChangeSet

/-! ## The server -/

/-- A call, and the server's settings when it came in. -/
structure Incoming (Arguments : Type) where
  number : Nat
  handler : JmcpHandler
  ctx : Option CallerCtx
  name : Text
  arguments : Arguments

structure Sent (σ Arguments : Type) where
  caller : Incoming Arguments
  store : σ
  op : ServerOp

/-- The log has what calls have sent, the latest first, and the store each found. -/
structure Server (σ Arguments : Type) where
  handler : JmcpHandler
  store : σ
  calls : Nat
  log : List (Sent σ Arguments)

variable {σ Arguments : Type}

def Incoming.request (caller : Incoming Arguments) (registry : Registry Arguments) :
    Except CallError ToolRequest :=
  route registry caller.ctx caller.name caller.arguments

def Server.after (s : Server σ Arguments) (caller : Incoming Arguments) (op : ServerOp) (store : σ) :
    Server σ Arguments :=
  { s with store := store, log := ⟨caller, s.store, op⟩ :: s.log }

def serverEffect (coordinator : ChangesetCoordinator σ) :
    Await.Effect ServerCall ServerCall.Reply σ
  | s, .tool _, _, s' => s' = s
  | s, .review call, reply, s' => coordinator.review s call reply s'
  | s, .apply call, reply, s' => coordinator.apply s call reply s'
  | s, .confirm call, reply, s' => coordinator.confirm s call reply s'

def serverWorld (coordinator : ChangesetCoordinator σ) (caller : Incoming Arguments) :
    World ServerOp ServerRes (Server σ Arguments) where
  answered s op answer s' := ∃ store,
    (Await.world (serverEffect coordinator)).answered s.store op answer store ∧
      s' = s.after caller op store
  abandoned s op s' := ∃ store,
    (Await.world (serverEffect coordinator)).abandoned s.store op store ∧
      s' = s.after caller op store

/-- A restart may change every setting but the gate, and loads the change sets again. -/
def gatedServer (coordinator : ChangesetCoordinator σ) (registry : Registry Arguments) :
    Service ServerOp ServerRes (Incoming Arguments) (Server σ Arguments)
      (Except CallError ToolReport) where
  world := serverWorld coordinator
  program caller := callTool registry caller.handler caller.ctx caller.name caller.arguments
  starts s caller s' := caller.handler = s.handler ∧ caller.number = s.calls ∧
    s' = { s with calls := s.calls + 1 }
  restarts s s' := s'.handler.allowDirectCommit = false ∧ coordinator.load s.store s'.store ∧
    s'.calls = s.calls ∧ s'.log = s.log

/-! ## What may be sent -/

/-- A call in lab mode has asked for the waiver. -/
def WaivedInLab (log : List (Sent σ Arguments)) (id device : Text) : Prop :=
  ∃ sent ∈ log, sent.caller.handler.labMode = true ∧ ∃ owner digest,
    sent.op.sends = some (.review (.waiveApproval id device owner digest))

/-- Besides what the gate leaves, a call may waive in lab mode what overrides nothing, apply the
change set it names, and write back a record that is genuine. -/
def May (coordinator : ChangesetCoordinator σ) (registry : Registry Arguments) (store : σ)
    (log : List (Sent σ Arguments)) (caller : Incoming Arguments) : ServerCall → Prop
  | .tool (.transaction _ asked _) => asked.mode.commits = false
  | .tool (.cli _ command) => ∀ upgrade, caller.request registry = .ok (.upgradeJunos upgrade) →
      Upgrade.Shows command
  | .review (.waiveApproval id device _ _) => caller.handler.labMode = true ∧
      ∃ plan, coordinator.issued store id device = some plan ∧ ¬plan.Overrides
  | .apply (.applyChangeSet staged) => ∃ args,
      caller.request registry = .ok (.applyChangeSet args) ∧
        staged.changeSetId = args.changeSetId ∧ staged.device = args.device
  | .apply (.commitOperation ..) => ∃ args, caller.request registry = .ok (.applyChangeSet args)
  | .apply (.updateChangeSet record) =>
      coordinator.Genuine (WaivedInLab log) store record.id record.device record
  | _ => True

def MaySend (coordinator : ChangesetCoordinator σ) (registry : Registry Arguments) (store : σ)
    (log : List (Sent σ Arguments)) (caller : Incoming Arguments) (op : ServerOp) : Prop :=
  ∀ call, op.sends = some call → May coordinator registry store log caller call

/-- Each entry found genuine records only, and was allowed. -/
def Recorded (coordinator : ChangesetCoordinator σ) (registry : Registry Arguments) :
    List (Sent σ Arguments) → Prop
  | [] => True
  | sent :: earlier => coordinator.Sound (WaivedInLab earlier) sent.store ∧
      MaySend coordinator registry sent.store earlier sent.caller sent.op ∧
      Recorded coordinator registry earlier

section Gate
variable {coordinator : ChangesetCoordinator σ} {registry : Registry Arguments}

theorem WaivedInLab.more {earlier log : List (Sent σ Arguments)} (suffix : earlier <:+ log)
    (id device : Text) (waived : WaivedInLab earlier id device) : WaivedInLab log id device := by
  obtain ⟨sent, member, lab, asked⟩ := waived
  exact ⟨sent, suffix.subset member, lab, asked⟩

theorem Recorded.found {earlier log : List (Sent σ Arguments)} {sent : Sent σ Arguments}
    (recorded : Recorded coordinator registry log) (suffix : sent :: earlier <:+ log) :
    coordinator.Sound (WaivedInLab earlier) sent.store ∧
      MaySend coordinator registry sent.store earlier sent.caller sent.op := by
  induction log with
  | nil => exact absurd (List.suffix_nil.mp suffix) (List.cons_ne_nil _ _)
  | cons last log ih =>
      rcases List.suffix_cons_iff.mp suffix with same | before
      · cases same
        exact ⟨recorded.1, recorded.2.1⟩
      · exact ih recorded.2.2 before

/-- What a call may do to the store leaves its records genuine. -/
theorem serverEffect_sound (lawful : coordinator.Lawful) {store store' : σ}
    {log : List (Sent σ Arguments)} {caller : Incoming Arguments} {op : ServerOp}
    {call : ServerCall} {reply : Option call.Reply}
    (sound : coordinator.Sound (WaivedInLab log) store) (sends : op.sends = some call)
    (may : May coordinator registry store log caller call)
    (effect : serverEffect coordinator store call reply store') :
    coordinator.Sound (WaivedInLab (⟨caller, store, op⟩ :: log)) store' ∧
      (store' = store ∨ coordinator.Moves store store') := by
  have more : ∀ id device, WaivedInLab log id device →
      WaivedInLab (⟨caller, store, op⟩ :: log) id device :=
    WaivedInLab.more (List.suffix_cons _ _)
  cases call with
  | tool call =>
      obtain rfl : store' = store := effect
      exact ⟨sound.later more, .inl rfl⟩
  | review call =>
      refine ⟨sound.review lawful effect more ?_, .inr (.review effect)⟩
      cases call with
      | waiveApproval id device owner digest =>
          obtain ⟨lab, issued⟩ := may
          exact ⟨⟨_, List.mem_cons_self, lab, owner, digest, sends⟩, issued⟩
      | _ => trivial
  | apply call =>
      refine ⟨sound.apply lawful effect more ?_, .inr (.apply effect)⟩
      cases call with
      | updateChangeSet record => exact may
      | _ => trivial
  | confirm call => exact ⟨sound.confirm lawful effect more, .inr (.confirm effect)⟩

structure Kept (coordinator : ChangesetCoordinator σ) (registry : Registry Arguments)
    (s : Server σ Arguments) : Prop where
  closed : s.handler.allowDirectCommit = false
  sound : coordinator.Sound (WaivedInLab s.log) s.store
  recorded : Recorded coordinator registry s.log

/-- Nothing is unissued and nothing is forgotten. -/
structure Later (coordinator : ChangesetCoordinator σ) (s t : Server σ Arguments) : Prop where
  issued : ∀ {id device plan}, coordinator.issued s.store id device = some plan →
    coordinator.issued t.store id device = some plan
  log : s.log <:+ t.log

theorem Kept.after (lawful : coordinator.Lawful) {s : Server σ Arguments}
    {caller : Incoming Arguments} {op : ServerOp} {store : σ} (kept : Kept coordinator registry s)
    (may : MaySend coordinator registry s.store s.log caller op)
    (moved : store = s.store ∨ ∃ call reply, op.sends = some call ∧
      serverEffect coordinator s.store call reply store) :
    Kept coordinator registry (s.after caller op store) ∧
      Later coordinator s (s.after caller op store) := by
  have stepped : coordinator.Sound (WaivedInLab (⟨caller, s.store, op⟩ :: s.log)) store ∧
      (store = s.store ∨ coordinator.Moves s.store store) := by
    rcases moved with rfl | ⟨call, reply, sends, effect⟩
    · exact ⟨kept.sound.later (WaivedInLab.more (List.suffix_cons _ _)), .inl rfl⟩
    · exact serverEffect_sound lawful kept.sound sends (may call sends) effect
  refine ⟨⟨kept.closed, stepped.1, kept.sound, may, kept.recorded⟩, ?_, List.suffix_cons _ _⟩
  intro id device plan issued
  rcases stepped.2 with rfl | moves
  · exact issued
  · exact lawful.issued moves issued

/-- What holds of the gated server, whatever calls are running on it. -/
def gate (registry : Registry Arguments) (lawful : coordinator.Lawful) :
    Regime fun caller : Incoming Arguments => serverWorld coordinator caller where
  inv := Kept coordinator registry
  later := Later coordinator
  allowed caller s := MaySend coordinator registry s.store s.log caller
  refl s := ⟨id, List.suffix_refl _⟩
  trans first second := ⟨fun issued => second.issued (first.issued issued), first.log.trans second.log⟩
  answered := by
    rintro caller s op answer s' kept may ⟨store, here, rfl⟩
    apply kept.after lawful may
    rcases Await.world_answered here with same | ⟨call, reply, seen, effect⟩
    · exact .inl same
    · exact .inr ⟨call, reply, seen.sends, effect⟩
  abandoned := by
    rintro caller s op s' kept may ⟨store, here, rfl⟩
    apply kept.after lawful may
    obtain ⟨call, sends, effect⟩ := Await.world_abandoned here
    exact .inr ⟨call, none, sends, effect⟩

/-! ## What calls send -/

section Calls
variable (lawful : coordinator.Lawful) {caller : Incoming Arguments} {s : Server σ Arguments}
  {α : Type}

theorem amid_after {checks : Except CallError α} {program : α → HandlerProg}
    (holds : ∀ value, checks = .ok value →
      (gate registry lawful).amid caller (program value) (fun _ _ => True) s) :
    (gate registry lawful).amid caller (after checks program) (fun _ _ => True) s := by
  cases checks with
  | error error => exact fun _ _ _ => trivial
  | ok value => exact holds value rfl

theorem amid_reported {report : α → ToolReport} {program : ServerProg (Except JmcpError α)}
    (holds : (gate registry lawful).amid caller program (fun _ _ => True) s) :
    (gate registry lawful).amid caller (reported report program) (fun _ _ => True) s := by
  apply Regime.amid_bind
  apply Regime.amid_mono holds
  intro result t _ _
  cases result <;> exact fun _ _ _ => trivial

theorem LeftOpen.may {request : ToolRequest} {call : ServerCall} {store : σ}
    {log : List (Sent σ Arguments)} (asked : caller.request registry = .ok request)
    (leftOpen : LeftOpen request call) : May coordinator registry store log caller call := by
  cases call with
  | tool call =>
      cases call with
      | transaction device asked timeout => exact leftOpen
      | cli device command =>
          intro upgrade same
          rw [asked] at same
          exact leftOpen upgrade (Except.ok.inj same)
      | _ => trivial
  | review call =>
      cases call with
      | waiveApproval id device owner digest => exact leftOpen.elim
      | _ => trivial
  | apply call =>
      cases call with
      | applyChangeSet staged => exact leftOpen.elim
      | commitOperation key signature attribution timeout => exact leftOpen.elim
      | updateChangeSet record => exact leftOpen.elim
      | _ => trivial
  | confirm call => trivial

theorem plain_amid {request : ToolRequest} (closed : caller.handler.allowDirectCommit = false)
    (asked : caller.request registry = .ok request) (plain : ¬request.Plans) :
    (gate registry lawful).amid caller (handle caller.handler caller.ctx request)
      (fun _ _ => True) s :=
  Regime.amid_performs (handle_open closed plain) fun _ _ sends _ call sent =>
    LeftOpen.may asked (sends call sent)

/-! ## Planning a change set -/

/-- The gate as a program sees it that consults the coordinator. -/
abbrev reviewGate (registry : Registry Arguments) (lawful : coordinator.Lawful) :=
  (gate registry lawful).pull (Await.rename ServerCall.review)
    (Await.readAnswer ServerCall.review fun _ reply => reply)

/-- A plan that overrides nothing may be waived from when it was issued on. -/
theorem waiveCreated_amid {args : CreateChangeSetArgs} {owner : Text} {planned : PlannedSet}
    {plan : Plan} (lab : caller.handler.labMode = true) (plain : ¬plan.Overrides)
    (issued : coordinator.issued s.store planned.changeSetId args.device = some plan) :
    (reviewGate registry lawful).amid caller (waiveCreated args owner planned)
      (fun _ _ => True) s := by
  intro t later kept
  refine ⟨?_, ?_⟩
  · intro call sends
    cases sends
    exact ⟨lab, plan, later.issued issued, plain⟩
  · intro reply t' _
    cases reply <;> exact fun _ _ _ => trivial

theorem createChangeSet_amid (args : CreateChangeSetArgs) :
    (gate registry lawful).amid caller (createChangeSetHandler caller.handler caller.ctx args)
      (fun _ _ => True) s := by
  apply amid_after
  intro owner _
  apply amid_reported
  apply amid_relabel
  change (reviewGate registry lawful).amid caller _ _ s
  rw [createChangeSet]
  cases checked : checkNewChangeSet caller.handler.toToolContext caller.handler.labMode args with
  | error error => exact fun _ _ _ => trivial
  | ok _ =>
      intro t _ _
      refine ⟨?_, ?_⟩
      · intro call sends
        cases sends
        trivial
      · rintro reply t' ⟨seen, rfl, store, effect, rfl⟩
        cases seen with
        | error error => exact fun _ _ _ => trivial
        | ok planned =>
            have issued := lawful.created effect
            cases lab : caller.handler.labMode with
            | false => exact fun _ _ _ => trivial
            | true =>
                rw [lab] at checked
                exact waiveCreated_amid lawful lab (checkNewChangeSet_lab checked) issued

/-! ## Applying a change set -/

abbrev applyGate (registry : Registry Arguments) (lawful : coordinator.Lawful) :=
  (gate registry lawful).pull (Await.rename ServerCall.apply)
    (Await.readAnswer ServerCall.apply fun _ reply => reply)

/-- What an apply sends besides writing its change set back. -/
def Applies (args : ApplyChangeSetArgs) (op : ApplyOp) : Prop :=
  ∀ call, op.sends = some call → match call with
    | .applyChangeSet staged => staged.changeSetId = args.changeSetId ∧ staged.device = args.device
    | .updateChangeSet _ => False
    | _ => True

theorem onOperation_applies {args : ApplyChangeSetArgs} {op : ApplyOp} (on : OnOperation op) :
    Applies args op := by
  intro call sends
  cases op with
  | ensureActive => cases sends
  | bare inner =>
      cases sends
      cases call <;> first | exact on.elim | trivial
  | timed inner =>
      cases sends
      cases call <;> first | exact on.elim | trivial
  | raced inner => exact on.elim

section Apply
variable {args : ApplyChangeSetArgs} {context : ApplyContext} {device : TargetDevice}
  {attribution : Attribution} {principal : Text} {confirmTimeout : Option Duration}
  {staged : ApplyOutput} (asked : caller.request registry = .ok (.applyChangeSet args))

include asked in
theorem Applies.allowed {op : ApplyOp} (applies : Applies args op) (t : Server σ Arguments) :
    (applyGate registry lawful).allowed caller t op := by
  intro call sends
  have named {inner : ApplyCall} (sent : op.sends = some inner) :
      May coordinator registry t.store t.log caller (.apply inner) := by
    have here := applies inner sent
    cases inner with
    | applyChangeSet staged => exact ⟨args, asked, here⟩
    | commitOperation key signature attribution timeout => exact ⟨args, asked⟩
    | updateChangeSet record => exact here.elim
    | _ => trivial
  cases op with
  | ensureActive => cases sends
  | bare inner => cases sends; exact named rfl
  | timed inner => cases sends; exact named rfl
  | raced inner => cases sends; exact named rfl

include asked in
theorem applies_amid {program : ApplyProg α} (performs : program.Performs (Applies args)) :
    (applyGate registry lawful).amid caller program (fun _ _ => True) s :=
  Regime.amid_performs performs fun _ t applies _ => applies.allowed lawful asked t

/-- A record is written back as it was read, but for its state. -/
theorem settleChangeSet_amid (id device : Text) :
    (applyGate registry lawful).amid caller (settleChangeSet id device) (fun _ _ => True) s := by
  intro t _ kept
  refine ⟨?_, ?_⟩
  · intro call sends
    cases sends
    trivial
  · rintro reply t' ⟨seen, rfl, store, effect, rfl⟩
    cases seen with
    | error error => exact fun _ _ _ => trivial
    | ok record =>
        obtain ⟨stored, rfl, rfl⟩ := lawful.served effect
        intro u later _
        refine ⟨?_, fun _ _ _ => fun _ _ _ => trivial⟩
        intro call sends
        cases sends
        have genuine := kept.sound _ _ record stored
        have issued := later.issued (lawful.issued (.apply effect) genuine.issued)
        have more : ∀ id device, WaivedInLab t.log id device → WaivedInLab u.log id device :=
          WaivedInLab.more ((List.suffix_cons _ _).trans later.log)
        exact ⟨issued, genuine.approved, (genuine.later issued more).waived⟩

include asked in
theorem abandonApply_amid {outcome : AbandonOutcome} {reason : Text} :
    (applyGate registry lawful).amid caller (abandonApply args principal staged outcome reason)
      (fun _ _ => True) s := by
  apply Regime.amid_bind
  have abandoned : (applyGate registry lawful).amid caller
      (abandonFailedApply ⟨args.changeSetId, args.device, principal, staged.operationId,
        args.expectedFingerprint, reason, outcome⟩) (fun _ _ => True) s := by
    apply Regime.amid_bind
    have released : (ChangeSet.request .release).Performs (Applies args) :=
      ⟨fun call sends => by cases sends; trivial, fun _ => trivial⟩
    apply Regime.amid_mono (applies_amid lawful asked released)
    intro released t _ _
    apply Regime.amid_bind
    apply Regime.amid_mono (applies_amid lawful asked
      ((settleReleased_performs _ released).mono fun _ => onOperation_applies))
    intro _ u _ _
    exact settleChangeSet_amid lawful _ _
  apply Regime.amid_mono abandoned
  intro _ t _ _
  exact fun _ _ _ => trivial

include asked in
theorem reportOutcome_amid (outcome : OperationOutcome) :
    (applyGate registry lawful).amid caller (reportOutcome args device principal staged outcome)
      (fun _ _ => True) s := by
  cases outcome with
  | reconciled succeeded details =>
      cases succeeded with
      | true => exact fun _ _ _ => trivial
      | false => exact abandonApply_amid lawful asked
  | indeterminate reason => exact abandonApply_amid lawful asked
  | detached jobId => exact fun _ _ _ => trivial
  | awaitingConfirmation deadline details => exact fun _ _ _ => trivial

include asked in
/-- A call that is no write-back goes on to whatever its reply calls for. -/
theorem request_amid {call : ApplyCall} {next : call.Reply → ApplyProg α}
    (applies : Applies args (.bare call))
    (rest : ∀ reply t, (applyGate registry lawful).amid caller (next reply) (fun _ _ => True) t) :
    (applyGate registry lawful).amid caller ((ChangeSet.request call).bind next)
      (fun _ _ => True) s :=
  fun t _ _ => ⟨applies.allowed lawful asked t, fun reply t' _ => rest reply t'⟩

include asked in
theorem commitApply_amid :
    (applyGate registry lawful).amid caller
      (commitApply args device attribution confirmTimeout staged) (fun _ _ => True) s := by
  apply request_amid lawful asked
  · intro call sends
    cases sends
    trivial
  · intro reply t
    cases reply with
    | error reason => exact abandonApply_amid lawful asked
    | ok outcome => exact reportOutcome_amid lawful asked outcome

include asked in
theorem finishApply_amid :
    (applyGate registry lawful).amid caller
      (finishApply args device attribution confirmTimeout staged) (fun _ _ => True) s := by
  apply request_amid lawful asked
  · intro call sends
    cases sends
    trivial
  · intro diff t
    cases diff with
    | error reason => exact abandonApply_amid lawful asked
    | ok _ =>
        apply request_amid lawful asked
        · intro call sends
          cases sends
          trivial
        · intro checked u
          cases checked with
          | error reason => exact abandonApply_amid lawful asked
          | ok validation =>
              simp only
              cases validation.valid with
              | true => exact commitApply_amid lawful asked
              | false => exact abandonApply_amid lawful asked

include asked in
theorem applyChangeSet_amid :
    (applyGate registry lawful).amid caller (applyChangeSet context args) (fun _ _ => True) s := by
  rw [applyChangeSet]
  cases context.inventory args.device with
  | error error => exact fun _ _ _ => trivial
  | ok device =>
      cases confirmWindow context args with
      | error error => exact fun _ _ _ => trivial
      | ok confirmTimeout =>
          apply request_amid lawful asked
          · intro call sends
            cases sends
            trivial
          · intro found t
            cases found with
            | error error => exact fun _ _ _ => trivial
            | ok record =>
                simp only
                cases resolvedModes context args.device record.actions with
                | error error => exact fun _ _ _ => trivial
                | ok modes =>
                    apply request_amid lawful asked
                    · intro call sends
                      cases sends
                      exact ⟨rfl, rfl⟩
                    · intro reply u
                      cases reply with
                      | error error => exact fun _ _ _ => trivial
                      | ok staged => exact finishApply_amid lawful asked

end Apply

/-! ## Every call -/

theorem callTool_amid (closed : caller.handler.allowDirectCommit = false) :
    (gate registry lawful).amid caller
      (callTool registry caller.handler caller.ctx caller.name caller.arguments)
      (fun _ _ => True) s := by
  apply amid_after
  intro request asked
  by_cases plans : request.Plans
  · cases request with
    | createChangeSet args => exact createChangeSet_amid lawful args
    | applyChangeSet args =>
        apply amid_after
        intro owner _
        apply amid_reported
        apply amid_relabel
        exact applyChangeSet_amid lawful asked
    | _ => exact plans.elim
  · exact plain_amid lawful closed asked plans

end Calls

/-- Whatever is called, in whatever order, over any restarts. -/
theorem gatedServer_kept (lawful : coordinator.Lawful) {start : Server σ Arguments}
    {site : Server σ Arguments × List (Job ServerOp ServerRes (Incoming Arguments)
      (Except CallError ToolReport))}
    (closed : start.handler.allowDirectCommit = false) (fresh : start.log = [])
    (empty : ∀ id device, coordinator.changeSets start.store id device = none)
    (reaches : (gatedServer coordinator registry).Reaches start site) :
    Kept coordinator registry site.1 := by
  have kept : Kept coordinator registry start := by
    refine ⟨closed, ?_, ?_⟩
    · intro id device record stored
      rw [empty] at stored
      cases stored
    · rw [fresh]
      trivial
  let service := gatedServer coordinator registry
  let regime : Regime service.world := gate registry lawful
  have starts {s s' : Server σ Arguments} {caller : Incoming Arguments} (still : regime.inv s)
      (begun : service.starts s caller s') : regime.inv s' ∧ regime.later s s' ∧
        regime.amid caller (service.program caller) (fun _ _ => True) s' := by
    obtain ⟨same, _, rfl⟩ := begun
    have later : Later coordinator s { s with calls := s.calls + 1 } := ⟨id, List.suffix_refl _⟩
    refine ⟨⟨still.closed, still.sound, still.recorded⟩, later, ?_⟩
    apply callTool_amid lawful
    rw [same]
    exact still.closed
  have restarts {s s' : Server σ Arguments} (still : regime.inv s)
      (again : service.restarts s s') : regime.inv s' := by
    obtain ⟨gated, loaded, _, log⟩ := again
    have sound := still.sound.load lawful loaded
    refine ⟨gated, ?_, ?_⟩
    · rw [log]
      exact sound
    · rw [log]
      exact still.recorded
  exact (Service.Reaches.orderly starts restarts kept reaches).1

end Gate

end JunosMcp
