import JunosMcp.Srx.PackageWorkflow

/-!
# Runs of the signature-package workflows

What a run performs, and in which order. A run that consumes a token has planned before and does
the destructive part after.
-/

namespace JunosMcp.Srx

open Lib

def Probe.asks : Probe → DeviceOp → Bool
  | .flat name, .call name' _ => name == name'
  | .composite payload, .callXml payload' => payload == payload'
  | _, _ => false

namespace Package

/-! ## The shape of the two calls -/

section TwoCalls

variable {args : PackageArgs} {caller : PackageCaller} {workflow : String}
variable {planning : PackageProg (CheckServerData × PlanOutcome)}
variable {destroy : CheckServerData → PackageProg PackageResponse}
variable {trace : PackageTrace} {result : Except SrxError PackageResponse}

theorem returns_orRefused {α : Type} {answer : Except ConfirmationError α} {trace : PackageTrace}
    {value : Except SrxError α} :
    Returns (orRefused args answer) trace value ↔
      trace = [] ∧ value = answer.mapError (ConfirmationError.intoSrxError args.router) :=
  returns_pure

/-- A second call that gets as far as its destructive part. -/
structure Confirmed (args : PackageArgs) (caller : PackageCaller) (workflow : String)
    (planning : PackageProg (CheckServerData × PlanOutcome))
    (destroy : CheckServerData → PackageProg PackageResponse) (trace : PackageTrace)
    (result : Except SrxError PackageResponse) : Type where
  token : Text
  validated : ValidatedPlan
  planned : PackageTrace
  snapshot : CheckServerData
  plan : ConfirmationPlan
  confirmed : ConfirmedPlan
  destroyed : PackageTrace
  trace_eq : trace = ⟨.validateBinding token (bindingOf args caller), .ok validated⟩ ::
    ⟨.acquire args.router workflow.toList validated.correlationId, .ok ()⟩ :: (planned ++
      ⟨.consume token (bindingOf args caller) plan.toJson, .ok confirmed⟩ :: destroyed)
  plans : Returns planning planned (.ok (snapshot, .needsConfirmation plan))
  destroys : Returns (destroy snapshot) destroyed result

/-- What is known of a call that does not get there. -/
structure Unconfirmed (allowed : PackageOp → Prop) (trace : PackageTrace)
    (result : Except SrxError PackageResponse) : Prop where
  allowed : ∀ event ∈ trace, allowed event.1
  incomplete : ∀ response, result = .ok response → response.isCompleted = false

theorem previewCall_incomplete {response : PackageResponse}
    (returned : Returns (previewCall args caller planning) trace (.ok response)) :
    response.isCompleted = false := by
  obtain ⟨first, second, ⟨snapshot, outcome⟩, rfl, here, rest⟩ := Returns.of_andThen returned
  cases outcome with
  | alreadyAtTarget response =>
      obtain ⟨rfl, same⟩ := returns_pure.mp rest
      cases same
      rfl
  | needsConfirmation plan =>
      obtain ⟨issued, last, rfl, issuing⟩ := returns_step.mp rest
      obtain ⟨_, _, shown, rfl, -, stopped⟩ := Returns.of_andThen issuing
      cases (returns_pure.mp stopped).2

section Cases

variable {allowed : PackageOp → Prop} (plans : planning.Performs allowed)
variable (others : ∀ op, (∀ d, op ≠ .device d) → allowed op)

include plans others

theorem previewCall_performs : (previewCall args caller planning).Performs allowed := by
  apply plans.andThen
  rintro ⟨snapshot, outcome⟩
  cases outcome with
  | alreadyAtTarget response => trivial
  | needsConfirmation plan =>
      refine ⟨others _ (by simp), fun issued => ?_⟩
      cases issued <;> trivial

theorem confirmedCall_cases {token : Text}
    (returned : Returns (confirmedCall args caller workflow token planning destroy) trace result) :
    Nonempty (Confirmed args caller workflow planning destroy trace result) ∨
      Unconfirmed allowed trace result := by
  obtain ⟨validated, _, rfl, validating⟩ := returns_step.mp returned
  have atValidate := others (.validateBinding token (bindingOf args caller)) (by simp)
  rcases returns_andThen.mp validating with ⟨error, here, rfl⟩ | ⟨_, rest, valid, rfl, here, going⟩
  · obtain ⟨rfl, -⟩ := returns_orRefused.mp here
    exact .inr ⟨by simpa using atValidate, nofun⟩
  obtain ⟨rfl, same⟩ := returns_orRefused.mp here
  obtain rfl : validated = .ok valid := by
    cases validated <;> cases same
    rfl
  obtain ⟨leased, _, rfl, leasing⟩ := returns_step.mp going
  have atAcquire := others (.acquire args.router workflow.toList valid.correlationId) (by simp)
  rcases returns_andThen.mp leasing with ⟨error, here, rfl⟩ | ⟨_, rest, _, rfl, here, preparing⟩
  · obtain ⟨rfl, -⟩ := returns_pure.mp here
    exact .inr ⟨by simpa using ⟨atValidate, atAcquire⟩, nofun⟩
  obtain ⟨rfl, same⟩ := returns_pure.mp here
  obtain rfl : leased = .ok () := by
    cases leased <;> cases same
    rfl
  rcases returns_andThen.mp preparing with ⟨error, here, rfl⟩ |
    ⟨planned, rest, ⟨snapshot, outcome⟩, rfl, here, deciding⟩
  · refine .inr ⟨?_, nofun⟩
    simpa using ⟨atValidate, atAcquire, here.allowed plans⟩
  cases outcome with
  | alreadyAtTarget response =>
      obtain ⟨rfl, rfl⟩ := returns_pure.mp deciding
      refine .inr ⟨?_, nofun⟩
      simpa using ⟨atValidate, atAcquire, here.allowed plans⟩
  | needsConfirmation plan =>
      obtain ⟨confirmed, _, rfl, consuming⟩ := returns_step.mp deciding
      have atConsume := others (.consume token (bindingOf args caller) plan.toJson) (by simp)
      rcases returns_andThen.mp consuming with ⟨error, ended, rfl⟩ |
        ⟨_, destroyed, accepted, rfl, ended, destroying⟩
      · obtain ⟨rfl, -⟩ := returns_orRefused.mp ended
        refine .inr ⟨?_, nofun⟩
        rw [List.nil_append, List.nil_append]
        refine List.forall_mem_cons.mpr ⟨atValidate, List.forall_mem_cons.mpr ⟨atAcquire, ?_⟩⟩
        exact List.forall_mem_append.mpr ⟨here.allowed plans, by simpa using atConsume⟩
      · obtain ⟨rfl, same⟩ := returns_orRefused.mp ended
        obtain rfl : confirmed = .ok accepted := by
          cases confirmed <;> cases same
          rfl
        exact .inl ⟨⟨token, valid, planned, snapshot, plan, accepted, destroyed, rfl, here,
          destroying⟩⟩

theorem inTwoCalls_cases
    (returned : Returns (inTwoCalls args caller workflow planning destroy) trace result) :
    Nonempty (Confirmed args caller workflow planning destroy trace result) ∨
      Unconfirmed allowed trace result := by
  unfold inTwoCalls at returned
  split at returned
  · obtain ⟨rfl, rfl⟩ := returns_pure.mp returned
    exact .inr ⟨by simp, nofun⟩
  · rcases returns_andThen.mp returned with ⟨error, here, rfl⟩ | ⟨_, rest, token, rfl, here, going⟩
    · obtain ⟨rfl, -⟩ := returns_pure.mp here
      exact .inr ⟨by simp, nofun⟩
    · obtain ⟨rfl, -⟩ := returns_pure.mp here
      cases token with
      | none =>
          refine .inr ⟨going.allowed (previewCall_performs plans others), ?_⟩
          rintro response rfl
          exact previewCall_incomplete going
      | some token => exact confirmedCall_cases plans others going

end Cases

theorem Confirmed.returns (run : Confirmed args caller workflow planning destroy trace result)
    (named : (Text.trim args.router).isEmpty = false)
    (given : confirmationTokenForRequest args.confirm args.confirmationToken args.router =
      .ok (some run.token)) :
    Returns (inTwoCalls args caller workflow planning destroy) trace result := by
  rw [run.trace_eq, inTwoCalls, if_neg (by rw [named]; exact Bool.false_ne_true), given]
  show Returns (confirmedCall args caller workflow run.token planning destroy) _ result
  refine .step (.step ?_)
  show Returns (Prog.andThen planning _) _ result
  exact returns_andThen_ok run.plans (.step run.destroys)

end TwoCalls

/-! ## Operations that are not looked for -/

/-- Neither asks this of the device nor consumes a token. -/
def Avoids (probe : Probe) : PackageOp → Prop
  | .device op => probe.asks op = false
  | .consume .. => False
  | _ => True

/-- What the planning asks of the device. -/
def planningProbes (profile : PackageProfile) : List Probe :=
  [.flat "get-license-summary-information", .flat "get-chassis-cluster-status",
    .flat "get-commit-information", .flat profile.rpcPackageInformation, profile.checkServer]

section Avoiding

variable {crates : LicenseCrates} {profile : PackageProfile} {args : PackageArgs}
variable {looked : Probe}

theorem openExecutor_avoids :
    openExecutor.Performs fun op => Avoids looked (.device op) :=
  ⟨by cases looked <;> rfl, fun _ => trivial⟩

theorem callRpc_avoids {name : String} (other : looked ≠ .flat name) :
    (callRpc name []).Performs fun op => Avoids looked (.device op) := by
  refine ⟨?_, fun _ => trivial⟩
  cases looked with
  | flat name' => simpa [Avoids, Probe.asks] using other
  | composite payload => rfl

theorem sendProbe_avoids {probe : Probe} (other : looked ≠ probe) :
    (sendProbe probe).Performs fun op => Avoids looked (.device op) := by
  cases probe with
  | flat name => exact callRpc_avoids other
  | composite payload =>
      refine ⟨?_, fun _ => trivial⟩
      cases looked with
      | flat name => rfl
      | composite payload' => simpa [Avoids, Probe.asks] using other

theorem callOnce_avoids {name : String} (other : looked ≠ .flat name) :
    (callOnce name).Performs (Avoids looked) := by
  apply Prog.Performs.relabel
  exact openExecutor_avoids.andThen fun _ => callRpc_avoids other

theorem pollFrom_avoids {probe : Probe} (other : looked ≠ probe) {detailElement : String}
    {deadline started : Nat} : ∀ {earliest : Nat},
    (pollFrom crates profile probe detailElement deadline started earliest).Performs
      (Avoids looked) := by
  intro earliest
  induction earliest using pollFrom.induct deadline with
  | case1 earliest ih =>
      rw [pollFrom]
      refine ⟨trivial, fun reading => ?_⟩
      dsimp only
      split
      · trivial
      · next early =>
          apply Prog.Performs.bind
          · apply Prog.Performs.relabel
            exact openExecutor_avoids.andThen fun _ => sendProbe_avoids other
          · intro result
            cases result with
            | error error => trivial
            | ok reply =>
                dsimp only
                split
                · trivial
                · trivial
                · refine ⟨trivial, fun reading' => ?_⟩
                  dsimp only
                  split
                  · exact ⟨trivial, fun _ => trivial⟩
                  · next soon =>
                      exact Prog.performs_step.mpr ⟨trivial, fun _ => ih reading early reading' soon⟩

theorem actAndPoll_avoids {rpc : String} {probe : Probe} {detailElement action : String}
    {started : Nat} (act : looked ≠ .flat rpc) (poll : looked ≠ probe) :
    (actAndPoll crates profile args rpc probe detailElement action started).Performs
      (Avoids looked) :=
  (callOnce_avoids act).andThen fun _ => (pollFrom_avoids poll).bind fun _ => trivial

theorem commitWindow_avoids (other : looked ≠ .flat "get-commit-information") :
    (commitWindow crates).Performs (Avoids looked) := by
  apply (callOnce_avoids other).bind
  intro reply
  cases reply with
  | error error => trivial
  | ok commitXml =>
      dsimp only
      split <;> trivial

theorem checkServer_avoids (information : looked ≠ .flat profile.rpcPackageInformation)
    (check : looked ≠ profile.checkServer) :
    (checkServer crates profile args).Performs (Avoids looked) := by
  unfold checkServer
  split
  · trivial
  · refine Prog.Performs.andThen (Prog.Performs.relabel ?_) fun _ => trivial
    exact openExecutor_avoids.andThen fun _ => (callRpc_avoids information).andThen fun _ =>
      (sendProbe_avoids check).andThen fun _ => trivial

theorem planInstall_avoids (other : ∀ probe ∈ planningProbes profile, looked ≠ probe) :
    (planInstall crates args profile).Performs (Avoids looked) := by
  simp only [planningProbes, List.forall_mem_cons] at other
  obtain ⟨license, cluster, commit, information, check, -⟩ := other
  unfold planInstall preflight licenseActive clusterTopology
  refine Prog.Performs.andThen ?_ fun _ => trivial
  refine Prog.Performs.andThen ((callOnce_avoids license).andThen fun _ => trivial) fun _ => ?_
  refine Prog.Performs.andThen ((callOnce_avoids cluster).andThen fun _ => trivial) fun _ => ?_
  refine (commitWindow_avoids commit).andThen fun _ => ?_
  exact (checkServer_avoids information check).andThen fun _ => trivial

theorem verifyInstalledVersion_avoids {target : Text}
    (information : looked ≠ .flat profile.rpcPackageInformation) :
    (verifyInstalledVersion crates profile args target).Performs (Avoids looked) :=
  (callOnce_avoids information).andThen fun _ => trivial

theorem runDestructive_avoids {snapshot : CheckServerData}
    (download : looked ≠ .flat profile.rpcDownload) (downloading : looked ≠ profile.downloadStatus)
    (install : looked ≠ .flat profile.rpcInstall) (installing : looked ≠ profile.installStatus)
    (information : looked ≠ .flat profile.rpcPackageInformation) :
    (runDestructive crates profile args snapshot).Performs (Avoids looked) := by
  refine Prog.performs_step.mpr ⟨trivial, fun started => ?_⟩
  dsimp only
  split
  · trivial
  · refine (actAndPoll_avoids download downloading).andThen fun _ => ?_
    refine (actAndPoll_avoids install installing).andThen fun _ => ?_
    exact (verifyInstalledVersion_avoids information).andThen fun _ => ⟨trivial, fun _ => trivial⟩

end Avoiding

/-! ## What a trace shows -/

def replyTo (probe : Probe) : (Σ op, PackageAnswer op) → Option Text
  | ⟨.device (.call name args), .ok reply⟩ =>
      if probe.asks (.call name args) then some reply else none
  | ⟨.device (.callXml payload), .ok reply⟩ =>
      if probe.asks (.callXml payload) then some reply else none
  | _ => none

def consumedPlan : (Σ op, PackageAnswer op) → Option Json
  | ⟨.consume _ _ plan, .ok _⟩ => some plan
  | _ => none

def repliesTo (probe : Probe) (trace : PackageTrace) : List Text := trace.filterMap (replyTo probe)

def consumedPlans (trace : PackageTrace) : List Json := trace.filterMap consumedPlan

/-- The answer to a probe. -/
def answered : Probe → Text → Σ op, PackageAnswer op
  | .flat name, reply => ⟨.device (.call name []), .ok reply⟩
  | .composite payload, reply => ⟨.device (.callXml payload), .ok reply⟩

section Traces

variable {probe : Probe} {trace first second : PackageTrace}

@[simp] theorem repliesTo_append :
    repliesTo probe (first ++ second) = repliesTo probe first ++ repliesTo probe second :=
  List.filterMap_append

@[simp] theorem consumedPlans_append :
    consumedPlans (first ++ second) = consumedPlans first ++ consumedPlans second :=
  List.filterMap_append

theorem repliesTo_cons {event : Σ op, PackageAnswer op} :
    repliesTo probe (event :: trace) = (replyTo probe event).toList ++ repliesTo probe trace := by
  unfold repliesTo
  cases replied : replyTo probe event with
  | none => rw [List.filterMap_cons_none replied, Option.toList_none, List.nil_append]
  | some reply => rw [List.filterMap_cons_some replied, Option.toList_some, List.singleton_append]

theorem consumedPlans_cons {event : Σ op, PackageAnswer op} :
    consumedPlans (event :: trace) = (consumedPlan event).toList ++ consumedPlans trace := by
  unfold consumedPlans
  cases consumed : consumedPlan event with
  | none => rw [List.filterMap_cons_none consumed, Option.toList_none, List.nil_append]
  | some plan => rw [List.filterMap_cons_some consumed, Option.toList_some, List.singleton_append]

theorem replyTo_eq_none {event : Σ op, PackageAnswer op} (avoids : Avoids probe event.1) :
    replyTo probe event = none ∧ consumedPlan event = none := by
  obtain ⟨op, answer⟩ := event
  cases op with
  | device op =>
      refine ⟨?_, rfl⟩
      cases op with
      | rpc => rfl
      | call name args => cases answer <;> simp [replyTo, show probe.asks (.call name args) = false from avoids]
      | callXml payload => cases answer <;> simp [replyTo, show probe.asks (.callXml payload) = false from avoids]
  | consume token binding plan => exact avoids.elim
  | _ => exact ⟨rfl, rfl⟩

theorem repliesTo_eq_nil (avoids : ∀ event ∈ trace, Avoids probe event.1) :
    repliesTo probe trace = [] :=
  List.filterMap_eq_nil_iff.mpr fun event mem => (replyTo_eq_none (avoids event mem)).1

theorem consumedPlans_eq_nil (avoids : ∀ event ∈ trace, Avoids probe event.1) :
    consumedPlans trace = [] :=
  List.filterMap_eq_nil_iff.mpr fun event mem => (replyTo_eq_none (avoids event mem)).2

def deviceEvent (event : Σ op, DeviceAnswer op) : Σ op, PackageAnswer op :=
  ⟨.device event.1, event.2⟩

theorem returns_onDevice {α : Type} {p : DeviceProg α} {value : Except SrxError α} :
    Returns (onDevice p) trace value ↔
      ∃ inner, trace = inner.map deviceEvent ∧ Returns p inner value := by
  unfold onDevice
  induction p generalizing trace with
  | pure result =>
      rw [Prog.relabel, returns_pure]
      constructor
      · rintro ⟨rfl, rfl⟩
        exact ⟨[], rfl, .pure _⟩
      · rintro ⟨inner, rfl, stopped⟩
        obtain ⟨rfl, rfl⟩ := returns_pure.mp stopped
        exact ⟨rfl, rfl⟩
  | step op next ih =>
      rw [Prog.relabel, returns_step]
      constructor
      · rintro ⟨answer, rest, rfl, returned⟩
        obtain ⟨inner, rfl, here⟩ := (ih answer).mp returned
        exact ⟨⟨op, answer⟩ :: inner, rfl, .step here⟩
      · rintro ⟨inner, rfl, returned⟩
        obtain ⟨answer, rest, rfl, here⟩ := returns_step.mp returned
        exact ⟨answer, rest.map deviceEvent, rfl, (ih answer).mpr ⟨rest, rfl, here⟩⟩

theorem returns_callOnce {name : String} {reply : Text} :
    Returns (callOnce name) trace (.ok reply) ↔
      trace = [⟨.device .rpc, .ok ()⟩, answered (.flat name) reply] := by
  constructor
  · intro returned
    obtain ⟨inner, rfl, called⟩ := returns_onDevice.mp returned
    obtain ⟨first, second, _, rfl, opened, last⟩ := Returns.of_andThen called
    rw [returns_openExecutor.mp opened, returns_callRpc.mp last]
    rfl
  · rintro rfl
    exact .step (.step (.pure _))

/-- The executor is not opened, or the call is sent. -/
theorem callOnce_sends {name : String} {result : Except SrxError Text}
    (returned : Returns (callOnce name) trace result) :
    (∃ answer error, trace = [⟨.device .rpc, answer⟩] ∧ result = .error error) ∨
      ∃ answer, trace = [⟨.device .rpc, .ok ()⟩, ⟨.device (.call name []), answer⟩] := by
  obtain ⟨inner, rfl, called⟩ := returns_onDevice.mp returned
  rcases returns_andThen.mp called with ⟨error, here, rfl⟩ | ⟨first, second, _, rfl, here, last⟩
  · obtain ⟨answer, rest, rfl, stopped⟩ := returns_step.mp here
    obtain ⟨rfl, -⟩ := returns_pure.mp stopped
    exact .inl ⟨answer, error, rfl, rfl⟩
  · obtain ⟨answer, rest, rfl, stopped⟩ := returns_step.mp last
    obtain ⟨rfl, -⟩ := returns_pure.mp stopped
    rw [returns_openExecutor.mp here]
    exact .inr ⟨answer, rfl⟩

theorem replyTo_answered {other : Probe} {reply : Text} :
    replyTo probe (answered other reply) = if probe = other then some reply else none := by
  cases probe <;> cases other <;> simp [answered, replyTo, Probe.asks]

theorem consumedPlan_answered {reply : Text} : consumedPlan (answered probe reply) = none := by
  cases probe <;> rfl

theorem repliesTo_opened :
    repliesTo probe (⟨.device .rpc, .ok ()⟩ :: trace) = repliesTo probe trace :=
  repliesTo_cons

theorem consumedPlans_opened :
    consumedPlans (⟨.device .rpc, .ok ()⟩ :: trace) = consumedPlans trace :=
  consumedPlans_cons

theorem repliesTo_answered {other : Probe} {reply : Text} :
    repliesTo probe (answered other reply :: trace) =
      (if probe = other then [reply] else []) ++ repliesTo probe trace := by
  rw [repliesTo_cons, replyTo_answered]
  split <;> rfl

theorem consumedPlans_answered {other : Probe} {reply : Text} :
    consumedPlans (answered other reply :: trace) = consumedPlans trace := by
  rw [consumedPlans_cons, consumedPlan_answered]
  rfl

theorem returns_sendProbe {trace : DeviceTrace} {reply : Text}
    (returned : Returns (sendProbe probe) trace (.ok reply)) :
    trace.map deviceEvent = [answered probe reply] := by
  cases probe with
  | flat name =>
      rw [returns_callRpc.mp returned]
      rfl
  | composite payload =>
      obtain ⟨answer, rest, rfl, stopped⟩ := returns_step.mp returned
      obtain ⟨rfl, replied⟩ := returns_pure.mp stopped
      cases answer with
      | error error => cases replied
      | ok value =>
          cases replied
          rfl

end Traces

/-! ## Planning that succeeds -/

section Planning

variable {crates : LicenseCrates} {args : PackageArgs} {trace : PackageTrace}

theorem readSnapshot_ok {profile : PackageProfile} {infoXml checkXml : Text}
    {snapshot : CheckServerData}
    (read : readSnapshot crates profile args infoXml checkXml = .ok snapshot) :
    parsePackageInformation crates profile infoXml = .ok snapshot.nodes ∧
      parseCheckServerReply crates profile checkXml args.router = .ok snapshot.latestVersion := by
  obtain ⟨nodes, information, read⟩ := bind_eq_ok.mp read
  obtain ⟨latest, checked, read⟩ := bind_eq_ok.mp read
  cases read
  exact ⟨information, checked⟩

theorem checkServer_ok {profile : PackageProfile} {snapshot : CheckServerData}
    (returned : Returns (checkServer crates profile args) trace (.ok snapshot)) :
    ∃ infoXml checkXml, trace = [⟨.device .rpc, .ok ()⟩,
        answered (.flat profile.rpcPackageInformation) infoXml,
        answered profile.checkServer checkXml] ∧
      readSnapshot crates profile args infoXml checkXml = .ok snapshot := by
  unfold checkServer at returned
  split at returned
  · cases (returns_pure.mp returned).2
  · obtain ⟨_, last, ⟨infoXml, checkXml⟩, rfl, asked, stopped⟩ := Returns.of_andThen returned
    obtain ⟨rfl, read⟩ := returns_pure.mp stopped
    obtain ⟨inner, rfl, asked'⟩ := returns_onDevice.mp asked
    obtain ⟨opening, _, _, rfl, opened, called⟩ := Returns.of_andThen asked'
    obtain ⟨calling, _, info, rfl, informed, probed⟩ := Returns.of_andThen called
    obtain ⟨probing, _, check, rfl, checked, ended⟩ := Returns.of_andThen probed
    obtain ⟨rfl, same⟩ := returns_pure.mp ended
    cases same
    refine ⟨infoXml, checkXml, ?_, read.symm⟩
    rw [returns_openExecutor.mp opened, returns_callRpc.mp informed]
    simp only [List.append_nil, List.map_append, returns_sendProbe checked]
    rfl

/-- What was read to make the plan. -/
structure Planned (crates : LicenseCrates) (profile : PackageProfile) (trace : PackageTrace)
    (snapshot : CheckServerData) (infoXml : Text) : Prop where
  replies : repliesTo (.flat profile.rpcPackageInformation) trace = [infoXml]
  nodes : parsePackageInformation crates profile infoXml = .ok snapshot.nodes
  consumed : consumedPlans trace = []

variable {service : Service} {snapshot : CheckServerData} {outcome : PlanOutcome}

theorem planInstall_ok
    (returned : Returns (planInstall crates args service.profile) trace (.ok (snapshot, outcome))) :
    outcome = buildPlan service.profile.toPlanStyle snapshot args.version [] ∧
    (∃ infoXml, Planned crates service.profile trace snapshot infoXml) ∧
    ∃ checkXml, repliesTo service.profile.checkServer trace = [checkXml] ∧
      parseCheckServerReply crates service.profile checkXml args.router =
        .ok snapshot.latestVersion := by
  obtain ⟨_, last, ⟨found, blockers⟩, rfl, preflighted, ended⟩ := Returns.of_andThen returned
  obtain ⟨rfl, same⟩ := returns_pure.mp ended
  cases same
  obtain ⟨licensing, _, _, rfl, licensed, rest₁⟩ := Returns.of_andThen preflighted
  obtain ⟨clustering, _, topology, rfl, clustered, rest₂⟩ := Returns.of_andThen rest₁
  obtain ⟨committing, _, _, rfl, committed, rest₃⟩ := Returns.of_andThen rest₂
  obtain ⟨checking, _, data, rfl, checked, rest₄⟩ := Returns.of_andThen rest₃
  obtain ⟨rfl, same⟩ := returns_pure.mp rest₄
  cases same
  obtain ⟨infoXml, checkXml, rfl, read⟩ := checkServer_ok checked
  obtain ⟨information, latest⟩ := readSnapshot_ok read
  have quiet : ∀ looked, looked = .flat service.profile.rpcPackageInformation ∨
      looked = service.profile.checkServer → ∀ event ∈ licensing ++ (clustering ++ committing),
        Avoids looked event.1 := by
    intro looked which
    have others : looked ≠ .flat "get-license-summary-information" ∧
        looked ≠ .flat "get-chassis-cluster-status" ∧ looked ≠ .flat "get-commit-information" := by
      cases service <;> rcases which with rfl | rfl <;> decide
    simp only [List.forall_mem_append]
    exact ⟨licensed.allowed ((callOnce_avoids others.1).andThen fun _ => trivial),
      clustered.allowed ((callOnce_avoids others.2.1).andThen fun _ => trivial),
      committed.allowed (commitWindow_avoids others.2.2)⟩
  have apart : Probe.flat service.profile.rpcPackageInformation ≠ service.profile.checkServer := by
    cases service <;> decide
  have quietInformation := quiet _ (.inl rfl)
  have quietCheck := quiet _ (.inr rfl)
  simp only [← List.append_assoc] at quietInformation quietCheck
  refine ⟨rfl, ⟨infoXml, ?_, information, ?_⟩, checkXml, ?_, latest⟩ <;>
    simp only [← List.append_assoc, List.append_nil]
  · rw [repliesTo_append, repliesTo_eq_nil quietInformation]
    rw [repliesTo_opened, repliesTo_answered, repliesTo_answered, if_pos rfl, if_neg apart]
    rfl
  · rw [consumedPlans_append, consumedPlans_eq_nil quietInformation]
    rw [consumedPlans_opened, consumedPlans_answered, consumedPlans_answered]
    rfl
  · rw [repliesTo_append, repliesTo_eq_nil quietCheck]
    rw [repliesTo_opened, repliesTo_answered, repliesTo_answered, if_pos rfl, if_neg apart.symm]
    rfl

theorem planLocal_ok {build : CheckServerData → List Text → Except SrxError ConfirmationPlan}
    (returned : Returns (planLocal crates args service.profile build) trace
      (.ok (snapshot, outcome))) :
    (∃ plan, build snapshot [] = .ok plan ∧ outcome = .needsConfirmation plan) ∧
    ∃ infoXml, Planned crates service.profile trace snapshot infoXml := by
  obtain ⟨_, last, ⟨found, blockers⟩, rfl, preflighted, ended⟩ := Returns.of_andThen returned
  obtain ⟨rfl, same⟩ := returns_pure.mp ended
  obtain ⟨plan, built, same⟩ := map_eq_ok.mp same.symm
  cases same
  obtain ⟨licensing, _, _, rfl, licensed, rest₁⟩ := Returns.of_andThen preflighted
  obtain ⟨clustering, _, topology, rfl, clustered, rest₂⟩ := Returns.of_andThen rest₁
  obtain ⟨committing, _, _, rfl, committed, rest₃⟩ := Returns.of_andThen rest₂
  obtain ⟨informing, _, infoXml, rfl, informed, rest₄⟩ := Returns.of_andThen rest₃
  obtain ⟨rfl, same⟩ := returns_pure.mp rest₄
  obtain ⟨nodes, information, same⟩ := map_eq_ok.mp same.symm
  cases same
  have quiet : ∀ event ∈ licensing ++ clustering ++ committing,
      Avoids (.flat service.profile.rpcPackageInformation) event.1 := by
    have others : Probe.flat service.profile.rpcPackageInformation ≠
        .flat "get-license-summary-information" ∧
        Probe.flat service.profile.rpcPackageInformation ≠ .flat "get-chassis-cluster-status" ∧
        Probe.flat service.profile.rpcPackageInformation ≠ .flat "get-commit-information" := by
      cases service <;> decide
    simp only [List.forall_mem_append]
    exact ⟨⟨licensed.allowed ((callOnce_avoids others.1).andThen fun _ => trivial),
      clustered.allowed ((callOnce_avoids others.2.1).andThen fun _ => trivial)⟩,
      committed.allowed (commitWindow_avoids others.2.2)⟩
  rw [returns_callOnce.mp informed]
  refine ⟨⟨plan, built, rfl⟩, infoXml, ?_, information, ?_⟩ <;>
    simp only [← List.append_assoc, List.append_nil]
  · rw [repliesTo_append, repliesTo_eq_nil quiet]
    rw [repliesTo_opened, repliesTo_answered, if_pos rfl]
    rfl
  · rw [consumedPlans_append, consumedPlans_eq_nil quiet]
    rw [consumedPlans_opened, consumedPlans_answered]
    rfl

end Planning

end Package

end JunosMcp.Srx
