import JunosMcp.ChangeSet.Review
import JunosMcp.ChangeSet.Confirm

/-!
# The coordinator

What the server relies on of the package that keeps the change sets: which calls change which
record, and that it stages nothing that was neither approved nor waived.
-/

namespace JunosMcp.ChangeSet
open Lib

variable {σ : Type}

/-- The store, what each call can make of it, and what an apply can hand to the transaction. `issued`
is the plan an id was given for. -/
structure ChangesetCoordinator (σ : Type) where
  changeSets : σ → Text → Text → Option ChangeSetRecord
  issued : σ → Text → Text → Option Plan
  review : Await.Effect ReviewCall ReviewCall.Reply σ
  apply : Await.Effect ApplyCall ApplyCall.Reply σ
  confirm : Await.Effect ConfirmCall ConfirmCall.Reply σ
  load : σ → σ → Prop
  stages : σ → StageRequest → List JunosAction → Prop

/-- A principal other than the owner has approved. -/
def ApprovalRecord.ByAnother (approval : ApprovalRecord) (owner : Text) : Prop :=
  approval.waived = false ∧ ∃ approver, approval.approver = some approver ∧ approver ≠ owner

namespace ChangesetCoordinator

/-- The record stands for the same plan with the same approval as before. -/
def Kept (coordinator : ChangesetCoordinator σ) (s : σ) (id device : Text) (record : ChangeSetRecord) :
    Prop :=
  ∃ old, coordinator.changeSets s id device = some old ∧ record.plan = old.plan ∧
    record.approval = old.approval

/-- How a record can come out of a call. -/
inductive Reviews (coordinator : ChangesetCoordinator σ) (s s' : σ) (id device : Text)
    (record : ChangeSetRecord) : ReviewCall → Prop where
  | kept {call : ReviewCall} : coordinator.Kept s id device record →
      Reviews coordinator s s' id device record call
  | created {actions : List JunosAction} {owner fingerprint signature : Text} :
      record.plan = ⟨owner, actions.map .ok⟩ → record.approval = none →
      coordinator.issued s' id device = some record.plan →
      Reviews coordinator s s' id device record
        (.createChangeSet device actions owner fingerprint signature)
  | waived {old : ChangeSetRecord} {owner digest : Text} :
      coordinator.changeSets s id device = some old → record.plan = old.plan →
      record.approval = some ⟨none, true⟩ →
      Reviews coordinator s s' id device record (.waiveApproval id device owner digest)
  | approved {old : ChangeSetRecord} {approver digest actorType : Text} :
      coordinator.changeSets s id device = some old → record.plan = old.plan →
      record.approval = some ⟨some approver, false⟩ → approver ≠ record.owner →
      Reviews coordinator s s' id device record
        (.approveChangeSet id device approver digest actorType)

/-- The store goes from one state to the next. -/
inductive Moves (coordinator : ChangesetCoordinator σ) : σ → σ → Prop where
  | review {s s' : σ} {call : ReviewCall} {reply : Option call.Reply} :
      coordinator.review s call reply s' → Moves coordinator s s'
  | apply {s s' : σ} {call : ApplyCall} {reply : Option call.Reply} :
      coordinator.apply s call reply s' → Moves coordinator s s'
  | confirm {s s' : σ} {call : ConfirmCall} {reply : Option call.Reply} :
      coordinator.confirm s call reply s' → Moves coordinator s s'
  | load {s s' : σ} : coordinator.load s s' → Moves coordinator s s'

/-- A plan is stored as it was given, approved by another principal only, waived when asked, and
staged only once it is approved or waived. -/
structure Lawful (coordinator : ChangesetCoordinator σ) : Prop where
  issued {s s' : σ} {id device : Text} {plan : Plan} : coordinator.Moves s s' →
    coordinator.issued s id device = some plan → coordinator.issued s' id device = some plan
  created {s s' : σ} {device owner fingerprint signature : Text} {actions : List JunosAction}
    {planned : PlannedSet} :
    coordinator.review s (.createChangeSet device actions owner fingerprint signature)
      (some (.ok planned)) s' →
    coordinator.issued s' planned.changeSetId device = some ⟨owner, actions.map .ok⟩
  review {s s' : σ} {call : ReviewCall} {reply : Option call.Reply} {id device : Text}
    {record : ChangeSetRecord} : coordinator.review s call reply s' →
    coordinator.changeSets s' id device = some record →
    coordinator.Reviews s s' id device record call
  apply {s s' : σ} {call : ApplyCall} {reply : Option call.Reply} {id device : Text}
    {record : ChangeSetRecord} : coordinator.apply s call reply s' →
    coordinator.changeSets s' id device = some record →
    coordinator.Kept s id device record ∨
      call = .updateChangeSet record ∧ record.id = id ∧ record.device = device
  served {s s' : σ} {id device : Text} {record : ChangeSetRecord} :
    coordinator.apply s (.changeSet id device) (some (.ok record)) s' →
    coordinator.changeSets s id device = some record ∧ record.id = id ∧ record.device = device
  confirm {s s' : σ} {call : ConfirmCall} {reply : Option call.Reply} {id device : Text}
    {record : ChangeSetRecord} : coordinator.confirm s call reply s' →
    coordinator.changeSets s' id device = some record → coordinator.Kept s id device record
  load {s s' : σ} {id device : Text} {record : ChangeSetRecord} : coordinator.load s s' →
    coordinator.changeSets s' id device = some record → coordinator.Kept s id device record
  stages {s : σ} {request : StageRequest} {actions : List JunosAction} :
    coordinator.stages s request actions → ∃ record approval,
      coordinator.changeSets s request.changeSetId request.device = some record ∧
        record.approval = some approval ∧ record.actions = actions.map .ok

/-! ## What the records show -/

/-- The approval a record carries is real: another principal's, or a waiver that was asked for and
that lets no override through. -/
structure Genuine (coordinator : ChangesetCoordinator σ) (asked : Text → Text → Prop) (s : σ)
    (id device : Text) (record : ChangeSetRecord) : Prop where
  issued : coordinator.issued s id device = some record.plan
  approved : ∀ approval, record.approval = some approval → approval.waived = false →
    approval.ByAnother record.owner
  waived : ∀ approval, record.approval = some approval → approval.waived = true →
    asked id device ∧ ¬record.plan.Overrides

def Sound (coordinator : ChangesetCoordinator σ) (asked : Text → Text → Prop) (s : σ) : Prop :=
  ∀ id device record, coordinator.changeSets s id device = some record →
    coordinator.Genuine asked s id device record

/-- A waiver may be asked for a plan without an override only. -/
def MayReview (coordinator : ChangesetCoordinator σ) (asked : Text → Text → Prop) (s : σ) :
    ReviewCall → Prop
  | .waiveApproval id device _ _ => asked id device ∧
      ∃ plan, coordinator.issued s id device = some plan ∧ ¬plan.Overrides
  | _ => True

/-- A record is only written back as it was read. -/
def MayApply (coordinator : ChangesetCoordinator σ) (asked : Text → Text → Prop) (s : σ) :
    ApplyCall → Prop
  | .updateChangeSet record => coordinator.Genuine asked s record.id record.device record
  | _ => True

section Laws
variable {coordinator : ChangesetCoordinator σ} (lawful : coordinator.Lawful)
  {asked asked' : Text → Text → Prop} {s s' : σ} {id device : Text} {record : ChangeSetRecord}

theorem Genuine.later (genuine : coordinator.Genuine asked s id device record)
    (issued : coordinator.issued s' id device = some record.plan)
    (more : ∀ id device, asked id device → asked' id device) :
    coordinator.Genuine asked' s' id device record where
  issued := issued
  approved := genuine.approved
  waived approval given isWaived := by
    obtain ⟨wasAsked, plain⟩ := genuine.waived approval given isWaived
    exact ⟨more id device wasAsked, plain⟩

theorem Sound.later (sound : coordinator.Sound asked s)
    (more : ∀ id device, asked id device → asked' id device) : coordinator.Sound asked' s :=
  fun id device record stored =>
    (sound id device record stored).later (sound id device record stored).issued more

include lawful in
theorem Genuine.moves (genuine : coordinator.Genuine asked s id device record)
    (moves : coordinator.Moves s s') (more : ∀ id device, asked id device → asked' id device) :
    coordinator.Genuine asked' s' id device record :=
  genuine.later (lawful.issued moves genuine.issued) more

include lawful in
theorem Sound.kept (sound : coordinator.Sound asked s) (kept : coordinator.Kept s id device record)
    (moves : coordinator.Moves s s') (more : ∀ id device, asked id device → asked' id device) :
    coordinator.Genuine asked' s' id device record := by
  obtain ⟨old, stored, plan, approval⟩ := kept
  have genuine := (sound id device old stored).moves lawful moves more
  have owner : record.owner = old.owner := congrArg Plan.owner plan
  constructor
  · rw [plan]
    exact genuine.issued
  · rw [approval, owner]
    exact genuine.approved
  · rw [approval, plan]
    exact genuine.waived

include lawful in
theorem Sound.review {call : ReviewCall} {reply : Option call.Reply}
    (sound : coordinator.Sound asked s) (here : coordinator.review s call reply s')
    (more : ∀ id device, asked id device → asked' id device)
    (may : coordinator.MayReview asked' s call) : coordinator.Sound asked' s' := by
  intro id device record stored
  have moves : coordinator.Moves s s' := .review here
  cases lawful.review here stored with
  | kept kept => exact sound.kept lawful kept moves more
  | created plan approval issued =>
      refine ⟨issued, ?_, ?_⟩
      · intro given same
        rw [approval] at same
        cases same
      · intro given same
        rw [approval] at same
        cases same
  | @waived old owner digest found plan approval =>
      have genuine := (sound id device old found).moves lawful moves more
      obtain ⟨wasAsked, issuedPlan, issued, plain⟩ := may
      have same : issuedPlan = record.plan := by
        have was := (sound id device old found).issued
        rw [issued, ← plan] at was
        exact Option.some.inj was
      refine ⟨?_, ?_, ?_⟩
      · rw [plan]
        exact genuine.issued
      · intro given is notWaived
        rw [approval] at is
        cases is
        cases notWaived
      · intro given is isWaived
        rw [← same]
        exact ⟨wasAsked, plain⟩
  | @approved old approver digest actorType found plan approval another =>
      have genuine := (sound id device old found).moves lawful moves more
      refine ⟨?_, ?_, ?_⟩
      · rw [plan]
        exact genuine.issued
      · intro given is notWaived
        rw [approval] at is
        cases is
        exact ⟨rfl, approver, rfl, another⟩
      · intro given is isWaived
        rw [approval] at is
        cases is
        cases isWaived

include lawful in
theorem Sound.apply {call : ApplyCall} {reply : Option call.Reply}
    (sound : coordinator.Sound asked s) (here : coordinator.apply s call reply s')
    (more : ∀ id device, asked id device → asked' id device)
    (may : coordinator.MayApply asked s call) : coordinator.Sound asked' s' := by
  intro id device record stored
  have moves : coordinator.Moves s s' := .apply here
  rcases lawful.apply here stored with kept | ⟨rfl, rfl, rfl⟩
  · exact sound.kept lawful kept moves more
  · exact Genuine.moves lawful may moves more

include lawful in
theorem Sound.confirm {call : ConfirmCall} {reply : Option call.Reply}
    (sound : coordinator.Sound asked s) (here : coordinator.confirm s call reply s')
    (more : ∀ id device, asked id device → asked' id device) : coordinator.Sound asked' s' :=
  fun _ _ _ stored => sound.kept lawful (lawful.confirm here stored) (.confirm here) more

include lawful in
theorem Sound.load (sound : coordinator.Sound asked s) (here : coordinator.load s s') :
    coordinator.Sound asked s' :=
  fun _ _ _ stored => sound.kept lawful (lawful.load here stored) (.load here) fun _ _ was => was

end Laws

end ChangesetCoordinator

end JunosMcp.ChangeSet
