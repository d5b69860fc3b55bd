import JunosMcp.Srx.ConfirmationProtocol
import JunosMcp.Srx.PackageGrants

/-!
# The calls of the signature-package tools

What a plan is made of only asks, and a call acts once its token is consumed. So in every run, what
is sent a device beyond the questions of a plan is behind a grant.
-/

namespace JunosMcp.Srx

open Lib Package

/-! ## The parts of a workflow -/

section Parts
variable {licences : LicenseCrates} {args : PackageArgs} {allowed : PackageOp → Prop}

theorem onOpened_performs {α : Type} {p : DeviceProg α} (opened : allowed (.device .rpc))
    (performs : p.Performs fun op => allowed (.device op)) :
    (Package.onDevice (openExecutor.andThen fun _ => p)).Performs allowed := by
  have opens : openExecutor.Performs fun op => allowed (.device op) := ⟨opened, fun _ => trivial⟩
  apply Prog.Performs.relabel
  exact opens.andThen fun _ => performs

theorem callOnce_performs {name : String} (opened : allowed (.device .rpc))
    (called : allowed (.device (.call name []))) : (callOnce name).Performs allowed :=
  onOpened_performs opened ⟨called, fun _ => trivial⟩

theorem sendProbe_performs {probe : Probe}
    (asked : ∀ op, probe.asks op = true → allowed (.device op)) :
    (sendProbe probe).Performs fun op => allowed (.device op) := by
  cases probe with
  | flat name => exact ⟨asked _ (beq_self_eq_true name), fun _ => trivial⟩
  | composite payload => exact ⟨asked _ (beq_self_eq_true payload), fun _ => trivial⟩

/-! ### Planning -/

section Planning
variable {profile : PackageProfile} (opened : allowed (.device .rpc))
  (asked : ∀ probe ∈ planningProbes profile, ∀ op, probe.asks op = true → allowed (.device op))

include opened asked

theorem planningCall_performs {name : String} (member : .flat name ∈ planningProbes profile) :
    (callOnce name).Performs allowed :=
  callOnce_performs opened (asked _ member _ (beq_self_eq_true name))

theorem front_performs {α : Type} {rest : Topology → List Text → PackageProg α}
    (performs : ∀ topology blockers, (rest topology blockers).Performs allowed) :
    ((licenseActive licences profile args).andThen fun _ =>
      (clusterTopology licences args).andThen fun topology =>
      (commitWindow licences).andThen fun blockers => rest topology blockers).Performs allowed := by
  have call {name : String} (member : .flat name ∈ planningProbes profile) :=
    planningCall_performs opened asked member
  refine Prog.Performs.andThen ((call ?_).andThen fun _ => trivial) fun _ => ?_
  · simp [planningProbes]
  refine Prog.Performs.andThen ((call ?_).andThen fun _ => trivial) fun topology => ?_
  · simp [planningProbes]
  refine Prog.Performs.andThen ((call ?_).bind fun reply => ?_) fun blockers => performs _ _
  · simp [planningProbes]
  · cases reply with
    | error error => trivial
    | ok commitXml =>
        dsimp only
        split <;> trivial

theorem checkServer_performs : (checkServer licences profile args).Performs allowed := by
  have member (probe : Probe) (listed : probe = .flat profile.rpcPackageInformation ∨
      probe = profile.checkServer) : probe ∈ planningProbes profile := by
    simp only [planningProbes, List.mem_cons]
    tauto
  unfold checkServer
  split
  · trivial
  · refine Prog.Performs.andThen (onOpened_performs opened ?_) fun _ => trivial
    have informs := sendProbe_performs (asked _ (member _ (.inl rfl)))
    have checks := sendProbe_performs (asked _ (member _ (.inr rfl)))
    exact informs.andThen fun _ => checks.andThen fun _ => trivial

theorem planInstall_performs : (planInstall licences args profile).Performs allowed := by
  refine Prog.Performs.andThen (front_performs opened asked fun topology blockers => ?_)
    fun _ => trivial
  exact (checkServer_performs opened asked).andThen fun _ => trivial

theorem planLocal_performs
    {build : CheckServerData → List Text → Except SrxError ConfirmationPlan} :
    (planLocal licences args profile build).Performs allowed := by
  refine Prog.Performs.andThen (front_performs opened asked fun topology blockers => ?_)
    fun _ => trivial
  have member : .flat profile.rpcPackageInformation ∈ planningProbes profile := by
    simp [planningProbes]
  exact (planningCall_performs opened asked member).andThen fun _ => trivial

end Planning

/-! ### Acting -/

section Acting
variable (devices : ∀ op, allowed (.device op)) (clock : allowed .now)
  (sleeps : ∀ seconds, allowed (.sleep seconds))

include devices clock sleeps

theorem pollFrom_performs {profile : PackageProfile} {probe : Probe} {detailElement : String}
    {deadline started : Nat} : ∀ {earliest : Nat},
    (pollFrom licences profile probe detailElement deadline started earliest).Performs allowed := by
  intro earliest
  induction earliest using pollFrom.induct deadline with
  | case1 earliest ih =>
      rw [pollFrom]
      refine ⟨clock, fun reading => ?_⟩
      dsimp only
      split
      · trivial
      · next early =>
          apply Prog.Performs.bind
          · exact onOpened_performs (devices _) (sendProbe_performs fun op _ => devices op)
          · intro result
            cases result with
            | error error => trivial
            | ok reply =>
                dsimp only
                split
                · trivial
                · trivial
                · refine ⟨clock, fun reading' => ?_⟩
                  dsimp only
                  split
                  · exact ⟨clock, fun _ => trivial⟩
                  · next soon =>
                      refine Prog.performs_step.mpr ⟨sleeps _, ?_⟩
                      exact fun _ => ih reading early reading' soon

theorem actAndPoll_performs {profile : PackageProfile} {rpc : String} {probe : Probe}
    {detailElement action : String} {started : Nat} :
    (actAndPoll licences profile args rpc probe detailElement action started).Performs allowed :=
  (callOnce_performs (devices _) (devices _)).andThen fun _ =>
    (pollFrom_performs devices clock sleeps).bind fun _ => trivial

omit clock sleeps in
theorem verifyInstalledVersion_performs {profile : PackageProfile} {target : Text} :
    (verifyInstalledVersion licences profile args target).Performs allowed :=
  (callOnce_performs (devices _) (devices _)).andThen fun _ => trivial

theorem runDestructive_performs {profile : PackageProfile} (snapshot : CheckServerData) :
    (runDestructive licences profile args snapshot).Performs allowed := by
  refine Prog.performs_step.mpr ⟨clock, fun started => ?_⟩
  dsimp only
  split
  · trivial
  · refine (actAndPoll_performs devices clock sleeps).andThen fun _ => ?_
    refine (actAndPoll_performs devices clock sleeps).andThen fun _ => ?_
    exact (verifyInstalledVersion_performs devices).andThen fun _ =>
      ⟨clock, fun _ => trivial⟩

omit sleeps in
theorem runRollbackDestructive_performs (snapshot : CheckServerData) :
    (runRollbackDestructive licences args snapshot).Performs allowed := by
  refine Prog.performs_step.mpr ⟨clock, fun started => ?_⟩
  split
  · trivial
  · refine (callOnce_performs (devices _) (devices _)).andThen fun reply => ?_
    refine Prog.Performs.andThen trivial fun _ => ?_
    exact (verifyInstalledVersion_performs devices).andThen fun _ =>
      ⟨clock, fun _ => trivial⟩

theorem runUninstallDestructive_performs (snapshot : CheckServerData) :
    (runUninstallDestructive licences args snapshot).Performs allowed := by
  refine Prog.performs_step.mpr ⟨clock, fun started => ?_⟩
  split
  · trivial
  · refine (actAndPoll_performs devices clock sleeps).andThen fun _ => ?_
    refine (callOnce_performs (devices _) (devices _)).andThen fun post => ?_
    refine Prog.Performs.andThen trivial fun _ => ?_
    exact ⟨clock, fun _ => trivial⟩

end Acting

/-! ### What a plan shows -/

/-- The plan, where one comes out, names what it is for. -/
def Planning (tool : PackageTool) (planned : CheckServerData × PlanOutcome) : Prop :=
  ∀ plan, planned.2 = .needsConfirmation plan → tool.Shows plan.toJson

theorem readSnapshot_service {profile : PackageProfile} {infoXml checkXml : Text}
    {snapshot : CheckServerData}
    (ok : readSnapshot licences profile args infoXml checkXml = .ok snapshot) :
    snapshot.service = profile.service := by
  obtain ⟨nodes, _, ok⟩ := bind_eq_ok.mp ok
  obtain ⟨latest, _, ok⟩ := bind_eq_ok.mp ok
  cases ok
  rfl

theorem preflight_yields {profile : PackageProfile} :
    (preflight licences profile args).Yields (Unless fun found =>
      found.1.service = profile.service) := by
  refine Prog.Yields.andThen (Prog.yields_unless _) fun _ _ => ?_
  refine Prog.Yields.andThen (Prog.yields_unless _) fun _ _ => ?_
  refine Prog.Yields.andThen (Prog.yields_unless _) fun _ _ => ?_
  have checked : (checkServer licences profile args).Yields
      (Unless fun snapshot => snapshot.service = profile.service) := by
    unfold checkServer
    split
    · exact unless_error
    · refine Prog.Yields.andThen (Prog.yields_unless _) fun _ _ => ?_
      exact fun snapshot ok => readSnapshot_service ok
  refine checked.andThen fun snapshot service => ?_
  rintro _ ⟨⟩
  exact service

theorem preflightLocal_yields {profile : PackageProfile} :
    (preflightLocal licences profile args).Yields (Unless fun found =>
      found.1.service = profile.service) := by
  refine Prog.Yields.andThen (Prog.yields_unless _) fun _ _ => ?_
  refine Prog.Yields.andThen (Prog.yields_unless _) fun _ _ => ?_
  refine Prog.Yields.andThen (Prog.yields_unless _) fun _ _ => ?_
  refine Prog.Yields.andThen (Prog.yields_unless _) fun infoXml _ => ?_
  intro found ok
  obtain ⟨nodes, _, rfl⟩ := map_eq_ok.mp ok
  rfl

theorem buildPlan_shows {tool : PackageTool} {style : PlanStyle} {snapshot : CheckServerData}
    {pinned : Option Text} {blockers : List Text} {plan : ConfirmationPlan}
    (action : tool.actionName = "download_and_install".toList)
    (service : snapshot.service = tool.service)
    (built : buildPlan style snapshot pinned blockers = .needsConfirmation plan) :
    tool.Shows plan.toJson := by
  unfold buildPlan at built
  dsimp only at built
  split at built
  · cases built
  · cases built
    refine ⟨?_, ?_⟩
    · rw [action]
      rfl
    · rw [← service]
      rfl

theorem planInstall_yields {tool : PackageTool}
    (action : tool.actionName = "download_and_install".toList) :
    (planInstall licences args tool.service.profile).Yields (Unless (Planning tool)) := by
  refine preflight_yields.andThen ?_
  rintro ⟨snapshot, blockers⟩ service
  rintro _ ⟨⟩ plan built
  refine buildPlan_shows action ?_ built
  rw [service]
  cases tool <;> rfl

theorem planLocal_yields {tool : PackageTool}
    {build : CheckServerData → List Text → Except SrxError ConfirmationPlan}
    (built : ∀ snapshot blockers plan, snapshot.service = tool.service →
      build snapshot blockers = .ok plan → tool.Shows plan.toJson) :
    (planLocal licences args tool.service.profile build).Yields (Unless (Planning tool)) := by
  refine preflightLocal_yields.andThen ?_
  rintro ⟨snapshot, blockers⟩ service
  intro planned ok
  obtain ⟨plan, made, rfl⟩ := map_eq_ok.mp ok
  rintro _ ⟨⟩
  refine built snapshot [] plan ?_ made
  rw [service]
  cases tool <;> rfl

theorem rollbackPlan_shows {snapshot : CheckServerData} {blockers : List Text}
    {plan : ConfirmationPlan} (service : snapshot.service = .idp)
    (built : Idp.buildRollbackPlan snapshot blockers = .ok plan) :
    (PackageTool.idp .rollback).Shows plan.toJson := by
  unfold Idp.buildRollbackPlan at built
  split at built
  · cases built
  · cases built
    refine ⟨rfl, ?_⟩
    rw [PackageTool.service, ← service]
    rfl

theorem uninstallPlan_shows {snapshot : CheckServerData} {blockers : List Text}
    {plan : ConfirmationPlan} (service : snapshot.service = .appid)
    (built : Appid.buildUninstallPlan snapshot blockers = .ok plan) :
    (PackageTool.appid .uninstall).Shows plan.toJson := by
  unfold Appid.buildUninstallPlan at built
  split at built
  · cases built
  · cases built
    refine ⟨rfl, ?_⟩
    rw [PackageTool.service, ← service]
    rfl

end Parts

/-! ## Every call keeps to what it may do -/

inductive Asking : PackageOp → Prop where
  | device {op : DeviceOp} : OnlyAsks op → Asking (.device op)

inductive Acting : PackageOp → Prop where
  | device (op : DeviceOp) : Acting (.device op)
  | now : Acting .now
  | sleep (seconds : Nat) : Acting (.sleep seconds)

section Calls
variable {crates : ConfirmationCrates} {ttl : Nat} {authorizationRequired : Bool} {Who : Type}
  {requests : Who → PackageRequest} {licences : LicenseCrates} {who : Who} {caller : PackageCaller}
  {s : PackageState Who}

theorem answered_longer {op : ManageOp} {answer : ManageAnswer op} {s' : PackageState Who}
    (answered : (packageWorld crates who).answered s op answer s') : s.log <+: s'.log := by
  obtain ⟨clock, store, _, rfl⟩ := answered
  exact prefix_snoc

variable (authorizationRequired requests) in
/-- The call is admitted, and the caller it goes on as is its own. -/
structure Going (log : List (Deed Who)) (who : Who) (caller : PackageCaller) : Prop where
  admitted : Admitted authorizationRequired (requests who)
  bound : Bound requests log who (bindingOf (requests who).args caller)

theorem Going.mono {log log' : List (Deed Who)}
    (going : Going authorizationRequired requests log who caller) (longer : log <+: log') :
    Going authorizationRequired requests log' who caller :=
  ⟨going.admitted, going.bound.mono longer⟩

variable (crates ttl authorizationRequired requests) in
def workflowPact :=
  (packagePact crates ttl authorizationRequired requests).pull ManageOp.package
    fun _ answer => answer

theorem asking_amid {α : Type} {p : PackageProg α} (performs : p.Performs Asking)
    (going : Going authorizationRequired requests s.log who caller) :
    (workflowPact crates ttl authorizationRequired requests).amid who p
      (fun _ t => Going authorizationRequired requests t.log who caller) s := by
  refine Pact.amid_keeps performs going ?_ ?_ ?_
  · exact fun going longer => going.mono longer
  · rintro op t ⟨asks⟩ _ going
    exact ⟨going.admitted, .asking asks⟩
  · rintro op t answer t' _ going ⟨_, rfl, answered⟩
    exact going.mono (answered_longer answered)

theorem acting_amid {α : Type} {p : PackageProg α} (performs : p.Performs Acting)
    (admitted : Admitted authorizationRequired (requests who))
    (grant : Nonempty (Grant crates ttl s.log who)) :
    (workflowPact crates ttl authorizationRequired requests).amid who p (fun _ _ => True) s := by
  have keeps : (workflowPact crates ttl authorizationRequired requests).amid who p
      (fun _ t => Nonempty (Grant crates ttl t.log who)) s := by
    refine Pact.amid_keeps performs grant ?_ ?_ ?_
    · exact fun grant longer => Grant.mono grant longer
    · intro op t acts _ grant
      refine ⟨admitted, ?_⟩
      cases acts with
      | device op => exact .granted grant
      | now => exact .now
      | sleep seconds => exact .sleep seconds
    · rintro op t answer t' _ grant ⟨_, rfl, answered⟩
      exact Grant.mono grant (answered_longer answered)
  exact Pact.amid_mono keeps fun _ _ _ _ => trivial

section TwoCalls
variable {tool : PackageTool} (same : (requests who).tool = tool) {workflow : String}
  {planning : PackageProg (CheckServerData × PlanOutcome)}
  {destroy : CheckServerData → PackageProg PackageResponse}
  (asks : planning.Performs Asking) (shows : planning.Yields (Unless (Planning tool)))
  (going : Going authorizationRequired requests s.log who caller)

include same asks shows going

theorem previewCall_amid :
    (workflowPact crates ttl authorizationRequired requests).amid who
      (previewCall (requests who).args caller planning) (fun _ _ => True) s := by
  refine Pact.amid_then (Pact.amid_yields shows (asking_amid asks going)) ?_
  rintro result t _ ⟨shown, going⟩
  cases result with
  | error error => exact fun _ _ _ => trivial
  | ok planned =>
      obtain ⟨snapshot, outcome⟩ := planned
      cases outcome with
      | alreadyAtTarget response => exact fun _ _ _ => trivial
      | needsConfirmation plan =>
          intro t' longer _
          have names : (requests who).tool.Shows plan.toJson := by
            rw [same]
            exact shown _ rfl plan rfl
          refine ⟨⟨going.admitted, .issue (going.bound.mono longer) names⟩, ?_⟩
          intro issued t'' _
          cases issued <;> exact fun _ _ _ => trivial

theorem confirmedCall_amid {token : Text}
    (presented : confirmationTokenForRequest (requests who).args.confirm
      (requests who).args.confirmationToken (requests who).args.router = .ok (some token))
    (acts : ∀ snapshot, (destroy snapshot).Performs Acting) :
    (workflowPact crates ttl authorizationRequired requests).amid who
      (confirmedCall (requests who).args caller workflow token planning destroy)
      (fun _ _ => True) s := by
  intro t longer _
  replace going := going.mono longer
  refine ⟨⟨going.admitted, .validateBinding going.bound⟩, ?_⟩
  rintro _ t' ⟨validated, rfl, answered⟩
  replace going := going.mono (answered_longer answered)
  cases validated with
  | error error => exact fun _ _ _ => trivial
  | ok valid =>
      intro u longer _
      replace going := going.mono longer
      refine ⟨⟨going.admitted, .acquire _ _⟩, ?_⟩
      rintro _ u' ⟨leased, rfl, answered⟩
      replace going := going.mono (answered_longer answered)
      cases leased with
      | error error => exact fun _ _ _ => trivial
      | ok _ =>
          show (workflowPact crates ttl authorizationRequired requests).amid who
            (planning.andThen _) _ _
          refine Pact.amid_then (Pact.amid_yields shows (asking_amid asks going)) ?_
          rintro result v _ ⟨shown, going⟩
          cases result with
          | error error => exact fun _ _ _ => trivial
          | ok planned =>
              obtain ⟨snapshot, outcome⟩ := planned
              cases outcome with
              | alreadyAtTarget response => exact fun _ _ _ => trivial
              | needsConfirmation plan =>
                  intro v' longer sound
                  have names : (requests who).tool.Shows plan.toJson := by
                    rw [same]
                    exact shown _ rfl plan rfl
                  refine ⟨⟨going.admitted, .consume (going.bound.mono longer) names presented⟩, ?_⟩
                  rintro _ w ⟨confirmed, rfl, clock, store, stored, rfl⟩
                  cases confirmed with
                  | error error => exact fun _ _ _ => trivial
                  | ok confirmed =>
                      cases stored with
                      | consume consumed =>
                          exact acting_amid (acts snapshot) going.admitted
                            (sound.backed.grant consumed)

theorem inTwoCalls_amid (acts : ∀ snapshot, (destroy snapshot).Performs Acting) :
    (workflowPact crates ttl authorizationRequired requests).amid who
      (inTwoCalls (requests who).args caller workflow planning destroy) (fun _ _ => True) s := by
  unfold inTwoCalls
  split
  · exact fun _ _ _ => trivial
  · cases presented : confirmationTokenForRequest (requests who).args.confirm
      (requests who).args.confirmationToken (requests who).args.router with
    | error error => exact fun _ _ _ => trivial
    | ok token =>
        cases token with
        | none => exact previewCall_amid same asks shows going
        | some token => exact confirmedCall_amid same asks shows going presented acts

end TwoCalls

theorem asking_of_probe (service : Service) :
    ∀ probe ∈ planningProbes service.profile, ∀ op, probe.asks op = true → Asking (.device op) :=
  fun _ member _ asks => ⟨.probe member asks⟩

theorem check_amid (service : Service) {args : PackageArgs}
    (going : Going authorizationRequired requests s.log who caller) :
    (workflowPact crates ttl authorizationRequired requests).amid who
      ((checkServer licences service.profile args).andThen fun data =>
        .pure (.ok (PackageResponse.checkServer data))) (fun _ _ => True) s := by
  have checks : (checkServer licences service.profile args).Performs Asking :=
    checkServer_performs ⟨.rpc⟩ (asking_of_probe service)
  have asks : ((checkServer licences service.profile args).andThen fun data =>
      .pure (.ok (PackageResponse.checkServer data))).Performs Asking :=
    checks.andThen fun _ => trivial
  exact Pact.amid_mono (asking_amid asks going) fun _ _ _ _ => trivial

theorem run_amid (going : Going authorizationRequired requests s.log who caller) :
    (workflowPact crates ttl authorizationRequired requests).amid who
      ((requests who).tool.run licences (requests who).args caller) (fun _ _ => True) s := by
  have installs (service : Service) : (planInstall licences (requests who).args
      service.profile).Performs Asking := planInstall_performs ⟨.rpc⟩ (asking_of_probe service)
  have locals {build} (service : Service) : (planLocal licences (requests who).args
      service.profile build).Performs Asking := planLocal_performs ⟨.rpc⟩ (asking_of_probe service)
  have acts {profile : PackageProfile} (snapshot : CheckServerData) : (runDestructive licences
      profile (requests who).args snapshot).Performs Acting :=
    runDestructive_performs .device .now .sleep snapshot
  cases same : (requests who).tool with
  | idp action =>
      cases action with
      | checkServer => exact check_amid .idp going
      | downloadAndInstall =>
          exact inTwoCalls_amid same (installs .idp) (planInstall_yields rfl) going acts
      | rollback =>
          exact inTwoCalls_amid same (locals .idp)
            (planLocal_yields fun _ _ _ => rollbackPlan_shows) going
            (runRollbackDestructive_performs .device .now)
  | appid action =>
      cases action with
      | checkServer => exact check_amid .appid going
      | downloadAndInstall =>
          exact inTwoCalls_amid same (installs .appid) (planInstall_yields rfl) going acts
      | uninstall =>
          exact inTwoCalls_amid same (locals .appid)
            (planLocal_yields fun _ _ _ => uninstallPlan_shows) going
            (runUninstallDestructive_performs .device .now .sleep)

theorem validateConfirmationRequest_amid
    (going : Going authorizationRequired requests s.log who caller) :
    (workflowPact crates ttl authorizationRequired requests).amid who
      (validateConfirmationRequest (requests who).args caller)
      (fun _ t => Going authorizationRequired requests t.log who caller) s := by
  have stays : ∀ {α : Type} {value : Except SrxError α} {t : PackageState Who},
      Going authorizationRequired requests t.log who caller →
      (workflowPact crates ttl authorizationRequired requests).amid who (.pure value)
        (fun _ t => Going authorizationRequired requests t.log who caller) t :=
    fun going _ longer _ => going.mono longer
  unfold validateConfirmationRequest
  cases confirmationTokenForRequest (requests who).args.confirm
    (requests who).args.confirmationToken (requests who).args.router with
  | error error => exact stays going
  | ok token =>
      cases token with
      | none => exact stays going
      | some token =>
          intro t longer _
          replace going := going.mono longer
          refine ⟨⟨going.admitted, .validateBinding going.bound⟩, ?_⟩
          rintro _ t' ⟨validated, rfl, answered⟩
          replace going := going.mono (answered_longer answered)
          cases validated with
          | error error => exact stays going
          | ok valid => exact stays going

theorem onPackage_amid {α : Type} {p : PackageProg α} {kept : PackageState Who → Prop}
    (stays : ∀ {t u : PackageState Who}, kept t → t.log <+: u.log → kept u)
    (holds : (workflowPact crates ttl authorizationRequired requests).amid who p
      (fun _ => kept) s) :
    (packagePact crates ttl authorizationRequired requests).amid who (onPackage p)
      (fun _ => kept) s := by
  refine Pact.amid_then (Pact.amid_relabel holds) ?_
  exact fun _ _ _ here _ longer _ => stays here longer

theorem lookedUp_amid (going : Going authorizationRequired requests s.log who caller) :
    (packagePact crates ttl authorizationRequired requests).amid who
      (onPackage (if (requests who).tool.isCheckServer then .pure (.ok ())
        else validateConfirmationRequest (requests who).args caller))
      (fun _ t => Going authorizationRequired requests t.log who caller) s := by
  have kept : ∀ {t u : PackageState Who}, Going authorizationRequired requests t.log who caller →
      t.log <+: u.log → Going authorizationRequired requests u.log who caller :=
    fun here longer => here.mono longer
  split
  · exact onPackage_amid kept fun _ longer _ => going.mono longer
  · exact onPackage_amid kept (validateConfirmationRequest_amid going)

theorem managePackage_amid (admitted : Admitted authorizationRequired (requests who)) :
    (packagePact crates ttl authorizationRequired requests).amid who
      (managePackage licences (requests who)) (fun _ _ => True) s := by
  intro t _ _
  refine ⟨⟨admitted, .inventory⟩, ?_⟩
  rintro inventory t' ⟨clock, store, stored, rfl⟩
  dsimp only [deviceIdentity]
  cases stored with
  | inventory addressed =>
      cases found : inventory.get (requests who).args.router with
      | error error => exact fun _ _ _ => trivial
      | ok entry =>
          have going : Going authorizationRequired requests
              (t.log ++ [⟨who, .inventory, some inventory, clock.now⟩]) who
              ⟨(requests who).ctx.map CallerCtx.tokenName,
                identityOf (requests who).args.router entry, (requests who).requestId⟩ := by
            refine ⟨admitted, entry, ⟨inventory, clock.now, ?_, found, addressed _ _ found⟩, rfl⟩
            exact List.mem_append_right _ List.mem_cons_self
          show (packagePact crates ttl authorizationRequired requests).amid who
            ((onPackage _).andThen _) _ _
          refine Pact.amid_then (lookedUp_amid going) ?_
          rintro (error | _) u _ going
          · exact fun _ _ _ => trivial
          · intro u' longer _
            refine ⟨⟨admitted, .openDevice⟩, ?_⟩
            rintro opened v answered
            replace going := (going.mono longer).mono (answered_longer answered)
            cases opened with
            | error error => exact fun _ _ _ => trivial
            | ok _ => exact onPackage_amid (fun _ _ => trivial) (run_amid going)

/-- Whatever else is running, a call does no more than it may. -/
theorem manageSecurityPackage_amid :
    (packagePact crates ttl authorizationRequired requests).amid who
      (manageSecurityPackage licences authorizationRequired (requests who)) (fun _ _ => True)
      s := by
  unfold manageSecurityPackage
  cases checked : authorizeCall authorizationRequired (requests who).ctx (requests who).tool.name
      (some (requests who).args.router) with
  | error error => exact fun _ _ _ => trivial
  | ok ctx => exact managePackage_amid (authorizeCall_admitted checked)

end Calls

/-! ## Every run -/

section Runs
variable {crates : ConfirmationCrates} {licences : LicenseCrates} {authorizationRequired : Bool}
  {ttl capacity : Nat} {Who : Type} [DecidableEq Who] {requests : Who → PackageRequest}

theorem packageServer_sound
    {site : Calls.Site ManageOp ManageAnswer Who (PackageState Who)
      (Except ManageError PackageResponse)}
    (reaches : (packageServer crates licences authorizationRequired requests).Reaches
      ⟨.new ttl capacity, []⟩ site) : Sound crates ttl authorizationRequired requests site.1 := by
  have start : Sound crates ttl authorizationRequired requests
      (⟨.new ttl capacity, []⟩ : PackageState Who) := by
    refine ⟨rfl, ?_, .nil⟩
    intro digest pending found
    cases found
  have orderly : Calls.Orderly (packagePact crates ttl authorizationRequired requests)
      (fun _ _ _ => True) site :=
    reaches.orderly start fun _ => manageSecurityPackage_amid
  exact orderly.1

/-- Whatever calls run at once: what a call sends a device beyond the questions of a plan is
behind a grant of its own. -/
theorem destructive_sanctioned
    {site : Calls.Site ManageOp ManageAnswer Who (PackageState Who)
      (Except ManageError PackageResponse)}
    (reaches : (packageServer crates licences authorizationRequired requests).Reaches
      ⟨.new ttl capacity, []⟩ site)
    {before after : List (Deed Who)} {who : Who} {op : DeviceOp}
    {answer : Option (DeviceAnswer op)} {now : Nat}
    (done : site.1.log = before ++ ⟨who, .package (.device op), answer, now⟩ :: after)
    (acts : ¬OnlyAsks op) :
    ∃ grant : Grant crates ttl before who, Sanctioned authorizationRequired requests grant ∧
      ∀ other (grant' : Grant crates ttl site.1.log other),
        grant'.before.length = grant.before.length → other = who := by
  have sound := packageServer_sound reaches
  obtain ⟨_, permitted⟩ := sound.ledger.justified done
  cases permitted with
  | asking asks => exact absurd asks acts
  | granted grant =>
      obtain ⟨grant⟩ := grant
      have longer : before <+: site.1.log := by
        rw [done]
        exact List.prefix_append ..
      refine ⟨grant, sound.sanctioned longer grant, ?_⟩
      obtain ⟨more, split⟩ := longer
      rw [← split]
      exact fun other grant' same => (grant.extend more).own grant' same

end Runs

/-! ### What is done in a trace -/

section Traces
variable {crates : ConfirmationCrates} {Who : Type} {who : Who}

def packaged (trace : PackageTrace) : Trace ManageOp ManageAnswer :=
  trace.renamed ManageOp.package fun _ answer => answer

theorem packaged_confirmed (validated acquired consumed now opened acted : Σ op, PackageAnswer op)
    (planned : PackageTrace) :
    packaged (validated :: acquired :: (planned ++ consumed :: [now, opened, acted])) =
      (⟨.package validated.1, validated.2⟩ :: ⟨.package acquired.1, acquired.2⟩ ::
        (packaged planned ++ [⟨.package consumed.1, consumed.2⟩, ⟨.package now.1, now.2⟩,
          ⟨.package opened.1, opened.2⟩])) ++ [⟨.package acted.1, acted.2⟩] := by
  simp [packaged, Trace.renamed]

theorem onPackage_leads {α : Type} {p left : PackageProg α} {trace : PackageTrace}
    (leads : Leads p trace left) : Leads (onPackage p) (packaged trace) (onPackage left) :=
  (leads.relabel fun _ _ => rfl).bind _

variable (crates who) in
/-- What the store becomes while a call does what is in the trace. -/
def Brings (store : ConfirmationStore) (trace : Trace ManageOp ManageAnswer)
    (after : ConfirmationStore) : Prop :=
  ∀ log, ∃ log', Follows (packageWorld crates who) ⟨store, log⟩ trace ⟨after, log'⟩

variable {store middle after : ConfirmationStore} {trace first second : Trace ManageOp ManageAnswer}
  {op : ManageOp} {answer : ManageAnswer op}

theorem Brings.nil : Brings crates who store [] store := fun log => ⟨log, .refl _⟩

theorem Brings.cons (clock : Clock) (stored : Stored crates store clock op answer middle)
    (rest : Brings crates who middle trace after) :
    Brings crates who store (⟨op, answer⟩ :: trace) after := by
  intro log
  obtain ⟨log', follows⟩ := rest (log ++ [⟨who, op, some answer, clock.now⟩])
  exact ⟨log', .step ⟨clock, middle, stored, rfl⟩ follows⟩

theorem Brings.append (here : Brings crates who store first middle)
    (rest : Brings crates who middle second after) :
    Brings crates who store (first ++ second) after := by
  intro log
  obtain ⟨log', early⟩ := here log
  obtain ⟨log'', late⟩ := rest log'
  exact ⟨log'', follows_append.mpr ⟨_, early, late⟩⟩

/-- The last event of the trace is the last deed of the log. -/
theorem Brings.ends (clock : Clock) (here : Brings crates who store first middle)
    (stored : Stored crates middle clock op answer after) (log : List (Deed Who)) :
    ∃ before, Follows (packageWorld crates who) ⟨store, log⟩ (first ++ [⟨op, answer⟩])
      ⟨after, before ++ [⟨who, op, some answer, clock.now⟩]⟩ := by
  obtain ⟨before, follows⟩ := here log
  exact ⟨before, follows_append.mpr ⟨_, follows, .step ⟨clock, after, stored, rfl⟩ (.refl _)⟩⟩

/-- A device is no part of the store. -/
theorem brings_devices {trace : PackageTrace}
    (devices : ∀ event ∈ trace, ∃ op, event.1 = .device op) :
    Brings crates who store (packaged trace) store := by
  induction trace with
  | nil => exact .nil
  | cons event trace ih =>
      obtain ⟨here, later⟩ := List.forall_mem_cons.mp devices
      obtain ⟨op, answer⟩ := event
      obtain ⟨op, rfl⟩ := here
      exact .cons ⟨0, 0⟩ .device (ih later)

end Traces

/-! ### A rollback in two calls -/

def rollbackArgs (confirmationToken : Option Text) : PackageArgs :=
  { goneArgs with confirm := confirmationToken.isSome, confirmationToken }

theorem rollback_planned (confirmationToken : Option Text) :
    Returns (planLocal goneCrates (rollbackArgs confirmationToken) Idp.profile
      Idp.buildRollbackPlan) gonePlanned (.ok (goneSnapshot, .needsConfirmation gonePlan)) :=
  gone_planned

/-- Alice's calls: the second has the token that the first is shown. -/
def twoCalls (confirms : Bool) : PackageRequest where
  ctx := some ⟨"alice".toList, fun _ => true, fun _ => true⟩
  tool := .idp .rollback
  args := rollbackArgs (if confirms then some labToken else none)
  requestId := "req-123".toList

def labInventory : Inventory :=
  ⟨[("srx-01".toList, ⟨"192.0.2.1".toList, 830, "netconf".toList, .password "x".toList, none⟩)]⟩

theorem labInventory_addressed : Addressed labInventory := by
  intro name entry found
  cases List.mem_singleton.mp (get_mem found)
  rfl

def issuedStore : ConfirmationStore where
  entries := (∅ : Entries).insert (digestToken labCrates labToken)
    ⟨labBinding, digestPlan labCrates gonePlan.toJson, "req-123".toList, defaultTtl⟩
  ttl := defaultTtl
  capacity := defaultCapacity

theorem plan_issued : ∃ returned, (ConfirmationStore.new defaultTtl defaultCapacity).issue labCrates
    ⟨0, 0⟩ [Vector.replicate 32 0] gonePlan.toJson labBinding "req-123".toList =
      some (issuedStore, .ok returned) := by
  have pruned : retainLive ∅ 0 = ∅ := rfl
  obtain ⟨members, shown⟩ : ∃ members, gonePlan.toJson = .object members := ⟨_, rfl⟩
  refine ⟨returnedPlan members labToken "1970-01-01T00:05:00Z".toList "req-123".toList, ?_⟩
  simp [ConfirmationStore.issue, shown, ConfirmationStore.new, checkedAdd, instantLimit,
    defaultTtl, defaultCapacity, labCrates, pruned, drawToken, issuedStore]

theorem plan_live : issuedStore.entries.lookup (digestToken labCrates labToken) =
    some ⟨labBinding, digestPlan labCrates gonePlan.toJson, "req-123".toList, defaultTtl⟩ :=
  AList.lookup_insert ∅

theorem token_validated : issuedStore.validateBinding labCrates 1 labToken labBinding =
    (issuedStore, .ok ⟨"req-123".toList⟩) := by
  simp [ConfirmationStore.validateBinding, plan_live, defaultTtl]

theorem token_consumed : issuedStore.consume labCrates 1 labToken labBinding gonePlan.toJson =
    (issuedStore.remove (digestToken labCrates labToken), .ok ⟨"req-123".toList⟩) := by
  simp [ConfirmationStore.consume, plan_live, defaultTtl]

theorem planned_devices : ∀ event ∈ gonePlanned, ∃ op, event.1 = .device op := by
  simp [gonePlanned, licensing, clustering, committing, informing, Package.answered]

def labCaller : PackageCaller :=
  ⟨some "alice".toList, "srx-01|192.0.2.1|830|netconf".toList, "req-123".toList⟩

theorem first_opens {trace : Trace ManageOp ManageAnswer} {left : ManageProg PackageResponse}
    (leads : Leads (onPackage ((twoCalls false).tool.run goneCrates (twoCalls false).args
      labCaller)) trace left) :
    Leads (manageSecurityPackage goneCrates true (twoCalls false))
      (⟨.inventory, labInventory⟩ :: ⟨.openDevice "srx-01".toList, .ok ()⟩ :: trace) left := by
  show Leads (managePackage goneCrates (twoCalls false)) _ _
  refine .step ?_
  exact .step leads

theorem preview_leads (returned : Json) : ∃ left,
    Leads ((twoCalls false).tool.run goneCrates (twoCalls false).args labCaller)
      (gonePlanned ++ [⟨.issue gonePlan.toJson labBinding "req-123".toList, .ok returned⟩]) left :=
  ⟨_, (rollback_planned none).leads_andThen (.step (.refl _))⟩

theorem second_opens {trace : Trace ManageOp ManageAnswer} {left : ManageProg PackageResponse}
    (leads : Leads (onPackage ((twoCalls true).tool.run goneCrates (twoCalls true).args
      labCaller)) trace left) :
    Leads (manageSecurityPackage goneCrates true (twoCalls true))
      (⟨.inventory, labInventory⟩ ::
        ⟨.package (.validateBinding labToken labBinding), .ok ⟨"req-123".toList⟩⟩ ::
        ⟨.openDevice "srx-01".toList, .ok ()⟩ :: trace) left := by
  show Leads (managePackage goneCrates (twoCalls true)) _ _
  refine .step ?_
  refine .step ?_
  exact .step leads

theorem destroy_leads (confirmationToken : Option Text) : ∃ left,
    Leads (runRollbackDestructive goneCrates (rollbackArgs confirmationToken) goneSnapshot)
      (⟨.now, (0 : Nat)⟩ :: acknowledging) left := by
  have reported : firstReported CheckServerNode.currentRollbackVersion goneSnapshot.nodes =
      some "3650".toList := rfl
  apply Exists.imp fun _ leads => Leads.step leads
  rw [reported]
  exact Returns.ahead (returns_callOnce.mpr rfl) _

theorem confirmed_leads : ∃ left,
    Leads ((twoCalls true).tool.run goneCrates (twoCalls true).args labCaller)
      (⟨.validateBinding labToken labBinding, .ok ⟨"req-123".toList⟩⟩ ::
        ⟨.acquire "srx-01".toList "manage_idp_security_package/rollback".toList "req-123".toList,
          .ok ()⟩ :: (gonePlanned ++
        ⟨.consume labToken labBinding gonePlan.toJson, .ok ⟨"req-123".toList⟩⟩ ::
        [⟨.now, (0 : Nat)⟩, ⟨.device .rpc, .ok ()⟩,
          ⟨.device (.call "request-idp-security-package-rollback" []), .ok ackReply⟩])) left := by
  obtain ⟨left, destroys⟩ := destroy_leads (some labToken)
  refine ⟨left, .step (.step ?_)⟩
  exact (rollback_planned (some labToken)).leads_andThen (.step destroys)

theorem first_call : ∃ trace left,
    Leads (manageSecurityPackage goneCrates true (twoCalls false)) trace left ∧
      Brings labCrates false (.new defaultTtl defaultCapacity) trace issuedStore := by
  obtain ⟨returned, issued⟩ := plan_issued
  obtain ⟨left, previews⟩ := preview_leads returned
  refine ⟨_, _, first_opens (onPackage_leads previews), ?_⟩
  refine .cons ⟨0, 0⟩ (.inventory labInventory_addressed) (.cons ⟨0, 0⟩ .openDevice ?_)
  rw [packaged, Trace.renamed, List.map_append]
  exact (brings_devices planned_devices).append (.cons ⟨0, 0⟩ (.issue issued) .nil)

/-- The second call, up to where it rolls back. -/
def secondTrace : Trace ManageOp ManageAnswer :=
  ⟨.inventory, labInventory⟩ ::
    ⟨.package (.validateBinding labToken labBinding), .ok ⟨"req-123".toList⟩⟩ ::
    ⟨.openDevice "srx-01".toList, .ok ()⟩ ::
    ⟨.package (.validateBinding labToken labBinding), .ok ⟨"req-123".toList⟩⟩ ::
    ⟨.package (.acquire "srx-01".toList "manage_idp_security_package/rollback".toList
      "req-123".toList), .ok ()⟩ ::
    (packaged gonePlanned ++
      [⟨.package (.consume labToken labBinding gonePlan.toJson), .ok ⟨"req-123".toList⟩⟩,
        ⟨.package .now, (0 : Nat)⟩, ⟨.package (.device .rpc), .ok ()⟩])

theorem second_leads : ∃ left,
    Leads (manageSecurityPackage goneCrates true (twoCalls true)) (secondTrace ++
      [⟨.package (.device (.call "request-idp-security-package-rollback" [])), .ok ackReply⟩])
      left := by
  obtain ⟨left, confirms⟩ := confirmed_leads
  have leads := second_opens (onPackage_leads confirms)
  rw [packaged_confirmed] at leads
  exact ⟨_, leads⟩

theorem second_brings : Brings labCrates true issuedStore secondTrace
    (issuedStore.remove (digestToken labCrates labToken)) := by
  refine .cons ⟨1, 0⟩ (.inventory labInventory_addressed) ?_
  refine .cons ⟨1, 0⟩ (.validateBinding token_validated) (.cons ⟨1, 0⟩ .openDevice ?_)
  refine .cons ⟨1, 0⟩ (.validateBinding token_validated) (.cons ⟨1, 0⟩ .acquire ?_)
  refine (brings_devices planned_devices).append (.cons ⟨1, 0⟩ (.consume token_consumed) ?_)
  exact .cons ⟨1, 0⟩ .now (.cons ⟨1, 0⟩ .device .nil)

theorem rollback_reached : ∃ site before, (packageServer labCrates goneCrates true twoCalls).Reaches
    ⟨.new defaultTtl defaultCapacity, []⟩ site ∧ site.1.log = before ++
      [⟨true, .package (.device (.call "request-idp-security-package-rollback" [])),
        some (.ok ackReply), 1⟩] := by
  obtain ⟨trace, left, first, brings⟩ := first_call
  obtain ⟨log, previews⟩ := brings []
  obtain ⟨left', second⟩ := second_leads
  obtain ⟨before, rolls⟩ := second_brings.ends ⟨1, 0⟩ .device log
  have previewed : (packageServer labCrates goneCrates true twoCalls).Reaches
      ⟨.new defaultTtl defaultCapacity, []⟩ (⟨issuedStore, log⟩, _) :=
    Calls.Reaches.start.leads rfl first previews
  exact ⟨_, before, previewed.leads rfl second rolls, rfl⟩

theorem rollback_acts : ¬OnlyAsks (.call "request-idp-security-package-rollback" []) := by
  have silent : ∀ service : Service, ∀ probe ∈ planningProbes service.profile,
      probe.asks (.call "request-idp-security-package-rollback" []) = false := by
    intro service
    cases service <;> decide
  intro asks
  cases asks with
  | probe member asked =>
      rw [silent _ _ member] at asked
      cases asked

/-- The rollback of the second call is behind the token of the first. -/
theorem rollback_sanctioned : ∃ (log : List (Deed Bool))
    (grant : Grant labCrates defaultTtl log true), Sanctioned true twoCalls grant := by
  obtain ⟨site, before, reaches, done⟩ := rollback_reached
  obtain ⟨grant, sanctioned, _⟩ := destructive_sanctioned reaches done rollback_acts
  exact ⟨before, grant, sanctioned⟩

end JunosMcp.Srx
