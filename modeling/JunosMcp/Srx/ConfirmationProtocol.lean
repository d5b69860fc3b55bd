import JunosMcp.Srx.Confirmation

/-!
# One token, one plan, one run

Every entry of a reached store was put there by an issue of the history, and nothing after that
issue presented its token with its binding and either a drifted plan or success. So a token is
consumed at most once, in time, with its binding and its plan.
-/

namespace JunosMcp.Srx

open Transfer (Bytes Sha256 utf8Bytes)

variable {crates : ConfirmationCrates}

/-! ## What one operation does to the entries -/

section Lookup

variable {entries : Entries} {digest : Sha256} {pending : PendingConfirmation}

theorem lookup_retainLive {now : Nat} :
    (retainLive entries now).lookup digest = some pending ↔
      entries.lookup digest = some pending ∧ now < pending.expiresAt := by
  simp [← Option.mem_def, AList.mem_lookup_iff, retainLive]

theorem retainLive_length (now : Nat) :
    (retainLive entries now).entries.length ≤ entries.entries.length :=
  List.length_filter_le _ _

theorem drawToken_fresh {draws : List (Vector UInt8 32)} {token : Text}
    (drawn : drawToken crates entries draws = some token) : digestToken crates token ∉ entries := by
  induction draws with
  | nil => cases drawn
  | cons tokenBytes rest ih =>
      rw [drawToken] at drawn
      split at drawn
      · exact ih drawn
      · next fresh =>
          cases drawn
          exact fresh

theorem lookup_insert {fresh : Sha256} {stored : PendingConfirmation} :
    (entries.insert fresh stored).lookup digest = some pending ↔
      digest = fresh ∧ pending = stored ∨ digest ≠ fresh ∧ entries.lookup digest = some pending := by
  by_cases same : digest = fresh
  · subst same
    simp [eq_comm]
  · simp [same, AList.lookup_insert_ne]

theorem lookup_erase {removed : Sha256} :
    (entries.erase removed).lookup digest = some pending ↔
      digest ≠ removed ∧ entries.lookup digest = some pending := by
  by_cases same : digest = removed
  · subst same
    simp
  · simp [same, AList.lookup_erase_ne]

end Lookup

namespace ConfirmationStore

variable {store after : ConfirmationStore}

/-- What `issue` can do: refuse, prune and refuse, or prune and add one fresh entry. -/
theorem issue_cases {clock : Clock} {draws : List (Vector UInt8 32)} {plan : Json}
    {binding : ConfirmationBinding} {correlationId : Text} {answer : Except ConfirmationError Json}
    (issued : store.issue crates clock draws plan binding correlationId = some (after, answer)) :
    (after = store ∧ answer = .error .invalid) ∨
      (after = { store with entries := retainLive store.entries clock.now } ∧
        answer = .error .capacity) ∨
      ∃ returned token, answer = .ok returned ∧ confirmationToken returned = some token ∧
        digestToken crates token ∉ retainLive store.entries clock.now ∧
        (retainLive store.entries clock.now).entries.length < store.capacity ∧
        after = { store with
          entries := (retainLive store.entries clock.now).insert (digestToken crates token)
            ⟨binding, digestPlan crates plan, correlationId, clock.now + store.ttl⟩ } := by
  unfold issue at issued
  split at issued
  · next members =>
      split at issued
      · next expiresAt expiry added shown =>
          have expires : clock.now + store.ttl = expiresAt := by
            unfold checkedAdd at added
            split at added
            · simpa using added
            · cases added
          subst expires
          dsimp only at issued
          split at issued
          · cases issued
            exact .inr (.inl ⟨rfl, rfl⟩)
          · next room =>
              obtain ⟨token, drawn, same⟩ := Option.map_eq_some_iff.mp issued
              cases same
              exact .inr (.inr ⟨_, token, rfl, confirmationToken_returnedPlan _ _ _ _,
                drawToken_fresh drawn, by omega, rfl⟩)
      · cases issued
        exact .inl ⟨rfl, rfl⟩
  · cases issued
    exact .inl ⟨rfl, rfl⟩

/-- What presenting a token does to the store, whether it is validated or consumed. -/
inductive Presented (store : ConfirmationStore) (digest : Sha256) (now : Nat)
    (binding : ConfirmationBinding) : ConfirmationStore → Prop where
  | unknown : store.entries.lookup digest = none → Presented store digest now binding store
  | expired {pending : PendingConfirmation} : store.entries.lookup digest = some pending →
      pending.expiresAt ≤ now → Presented store digest now binding (store.remove digest)
  | mismatch {pending : PendingConfirmation} : store.entries.lookup digest = some pending →
      pending.binding ≠ binding → Presented store digest now binding store
  | bound {pending : PendingConfirmation} {after : ConfirmationStore} :
      store.entries.lookup digest = some pending → pending.binding = binding →
      (after = store ∨ after = store.remove digest) → Presented store digest now binding after

section Present

variable {now : Nat} {token : Text} {binding : ConfirmationBinding} {plan : Json}

theorem validateBinding_presented {answer : Except ConfirmationError ValidatedPlan}
    (validated : store.validateBinding crates now token binding = (after, answer)) :
    Presented store (digestToken crates token) now binding after := by
  unfold validateBinding at validated
  split at validated
  · next absent =>
      cases validated
      exact .unknown absent
  · next pending found =>
      split at validated
      · next late =>
          cases validated
          exact .expired found late
      · split at validated
        · next apart =>
            cases validated
            exact .mismatch found apart
        · next same =>
            cases validated
            exact .bound found (not_not.mp same) (.inl rfl)

theorem consume_presented {answer : Except ConfirmationError ConfirmedPlan}
    (consumed : store.consume crates now token binding plan = (after, answer)) :
    Presented store (digestToken crates token) now binding after := by
  unfold consume at consumed
  split at consumed
  · next absent =>
      cases consumed
      exact .unknown absent
  · next pending found =>
      split at consumed
      · next late =>
          cases consumed
          exact .expired found late
      · split at consumed
        · next apart =>
            cases consumed
            exact .mismatch found apart
        · next same =>
            have removed : after = store.remove (digestToken crates token) := by
              split at consumed
              · cases consumed
                rfl
              · cases consumed
                rfl
            exact .bound found (not_not.mp same) (.inr removed)

theorem validateBinding_ok {validated : ValidatedPlan}
    (accepted : store.validateBinding crates now token binding = (after, .ok validated)) :
    ∃ pending, store.entries.lookup (digestToken crates token) = some pending ∧
      pending.binding = binding := by
  unfold validateBinding at accepted
  split at accepted
  · cases accepted
  · next pending found =>
      split at accepted
      · cases accepted
      · split at accepted
        · cases accepted
        · next same => exact ⟨pending, found, not_not.mp same⟩

theorem consume_ok {confirmed : ConfirmedPlan}
    (consumed : store.consume crates now token binding plan = (after, .ok confirmed)) :
    ∃ pending, store.entries.lookup (digestToken crates token) = some pending ∧
      now < pending.expiresAt ∧ pending.binding = binding ∧
      pending.planDigest = digestPlan crates plan ∧
      confirmed.correlationId = pending.correlationId := by
  unfold consume at consumed
  split at consumed
  · cases consumed
  · next pending found =>
      split at consumed
      · cases consumed
      · next early =>
          split at consumed
          · cases consumed
          · next same =>
              split at consumed
              · cases consumed
              · next drift =>
                  cases consumed
                  exact ⟨pending, found, by omega, not_not.mp same, not_not.mp drift, rfl⟩

/-- What a consume leaves of the token's entry, it leaves for another binding. -/
theorem consume_leaves {answer : Except ConfirmationError ConfirmedPlan}
    (consumed : store.consume crates now token binding plan = (after, answer))
    {pending : PendingConfirmation}
    (left : after.entries.lookup (digestToken crates token) = some pending) :
    pending.binding ≠ binding := by
  have erased : (store.remove (digestToken crates token)).entries.lookup
      (digestToken crates token) ≠ some pending := fun found => (lookup_erase.mp found).1 rfl
  unfold consume at consumed
  split at consumed
  · next absent =>
      cases consumed
      rw [absent] at left
      cases left
  · next stored found =>
      split at consumed
      · cases consumed
        exact absurd left erased
      · split at consumed
        · next apart =>
            cases consumed
            rw [found] at left
            cases left
            exact apart
        · split at consumed
          · cases consumed
            exact absurd left erased
          · cases consumed
            exact absurd left erased

theorem consume_drift {pending : PendingConfirmation}
    (found : store.entries.lookup (digestToken crates token) = some pending)
    (early : now < pending.expiresAt) (same : pending.binding = binding)
    (drift : pending.planDigest ≠ digestPlan crates plan) :
    (store.consume crates now token binding plan).2 = .error .planDrift := by
  have open' : ¬ pending.expiresAt ≤ now := by omega
  simp [consume, found, open', same, drift]

end Present

theorem Presented.live {digest : Sha256} {now : Nat} {binding : ConfirmationBinding}
    (presented : Presented store digest now binding after)
    (foreign : ∀ pending, store.entries.lookup digest = some pending → pending.binding ≠ binding)
    {other : Sha256} {pending : PendingConfirmation} (live : now < pending.expiresAt) :
    after.entries.lookup other = some pending ↔ store.entries.lookup other = some pending := by
  cases presented with
  | unknown => rfl
  | expired found late =>
      rw [remove, lookup_erase]
      constructor
      · exact And.right
      · intro there
        refine ⟨?_, there⟩
        rintro rfl
        rw [found] at there
        cases there
        omega
  | mismatch => rfl
  | bound found same => exact absurd same (foreign _ found)

theorem Presented.kept {digest : Sha256} {now : Nat} {binding : ConfirmationBinding}
    (presented : Presented store digest now binding after) {other : Sha256}
    {pending : PendingConfirmation} (left : after.entries.lookup other = some pending) :
    store.entries.lookup other = some pending := by
  have erased : (store.remove digest).entries.lookup other = some pending →
      store.entries.lookup other = some pending := fun found => (lookup_erase.mp found).2
  cases presented with
  | unknown => exact left
  | expired => exact erased left
  | mismatch => exact left
  | bound _ _ removed =>
      rcases removed with rfl | rfl
      · exact left
      · exact erased left

theorem Presented.length {digest : Sha256} {now : Nat} {binding : ConfirmationBinding}
    (presented : Presented store digest now binding after) :
    after.entries.entries.length ≤ store.entries.entries.length ∧
      after.ttl = store.ttl ∧ after.capacity = store.capacity := by
  have erased : (store.remove digest).entries.entries.length ≤ store.entries.entries.length :=
    (List.kerase_sublist digest store.entries.entries).length_le
  cases presented with
  | unknown => exact ⟨le_refl _, rfl, rfl⟩
  | expired => exact ⟨erased, rfl, rfl⟩
  | mismatch => exact ⟨le_refl _, rfl, rfl⟩
  | bound _ _ removed =>
      rcases removed with rfl | rfl
      · exact ⟨le_refl _, rfl, rfl⟩
      · exact ⟨erased, rfl, rfl⟩

end ConfirmationStore

/-! ## Where entries come from -/

/-- The event presents the token of the issue with its binding, and burns or consumes it. -/
def Burns (issue : Issue) : (Σ call : StoreCall, call.Answer) → Prop
  | ⟨.consume _ token binding plan, answer⟩ =>
      token = issue.token ∧ binding = issue.binding ∧ (plan ≠ issue.plan ∨ ∃ plan, answer = .ok plan)
  | _ => False

def Succeeds (token : Text) : (Σ call : StoreCall, call.Answer) → Prop
  | ⟨.consume _ presented _ _, answer⟩ => presented = token ∧ ∃ confirmed, answer = .ok confirmed
  | _ => False

variable (crates) in
def Issue.pending (issue : Issue) : PendingConfirmation :=
  ⟨issue.binding, digestPlan crates issue.plan, issue.correlationId, issue.expiresAt⟩

/-- The issue is in the history, and no event since burned its token. -/
def Outstanding (ttl : Nat) (events : History) (issue : Issue) : Prop :=
  ∃ before event since, events = before ++ event :: since ∧ issueOf ttl event = some issue ∧
    ∀ later ∈ since, ¬ Burns issue later

variable (crates) in
structure Accounted (ttl capacity : Nat) (events : History) (store : ConfirmationStore) :
    Prop where
  ttl_eq : store.ttl = ttl
  capacity_eq : store.capacity = capacity
  bounded : store.entries.entries.length ≤ capacity
  issued : ∀ digest pending, store.entries.lookup digest = some pending →
    ∃ issue, Outstanding ttl events issue ∧ digest = digestToken crates issue.token ∧
      pending = issue.pending crates

theorem Outstanding.mem {ttl : Nat} {events : History} {issue : Issue}
    (outstanding : Outstanding ttl events issue) : issue ∈ issues ttl events := by
  obtain ⟨before, event, since, rfl, issued, -⟩ := outstanding
  exact List.mem_filterMap.mpr ⟨event, by simp, issued⟩

theorem Outstanding.snoc {ttl : Nat} {events : History} {issue : Issue}
    (outstanding : Outstanding ttl events issue) {event : Σ call : StoreCall, call.Answer}
    (spared : ¬ Burns issue event) : Outstanding ttl (events ++ [event]) issue := by
  obtain ⟨before, issuing, since, rfl, issued, kept⟩ := outstanding
  refine ⟨before, issuing, since ++ [event], by simp, issued, ?_⟩
  intro later mem
  rcases List.mem_append.mp mem with old | new
  · exact kept later old
  · rw [List.mem_singleton] at new
    rwa [new]

theorem Outstanding.last {ttl : Nat} (events : History) {issue : Issue}
    {event : Σ call : StoreCall, call.Answer} (issued : issueOf ttl event = some issue) :
    Outstanding ttl (events ++ [event]) issue :=
  ⟨events, event, [], rfl, issued, List.forall_mem_nil _⟩

section Accounts

variable {ttl capacity : Nat} {events : History} {store after : ConfirmationStore}

theorem accounted_new : Accounted crates ttl capacity [] (.new ttl capacity) where
  ttl_eq := rfl
  capacity_eq := rfl
  bounded := Nat.zero_le _
  issued _ _ found := by cases found

/-- An event that adds nothing and leaves no entry whose token it burns. -/
theorem Accounted.shrink (accounted : Accounted crates ttl capacity events store)
    {event : Σ call : StoreCall, call.Answer} (same : after.ttl = store.ttl)
    (room : after.capacity = store.capacity)
    (shorter : after.entries.entries.length ≤ store.entries.entries.length)
    (kept : ∀ digest pending, after.entries.lookup digest = some pending →
      store.entries.lookup digest = some pending)
    (spared : ∀ issue, after.entries.lookup (digestToken crates issue.token) =
      some (issue.pending crates) → ¬ Burns issue event) :
    Accounted crates ttl capacity (events ++ [event]) after where
  ttl_eq := same.trans accounted.ttl_eq
  capacity_eq := room.trans accounted.capacity_eq
  bounded := shorter.trans accounted.bounded
  issued digest pending found := by
    obtain ⟨issue, outstanding, rfl, rfl⟩ := accounted.issued digest pending (kept _ _ found)
    exact ⟨issue, outstanding.snoc (spared issue found), rfl, rfl⟩

theorem Accounted.issue (accounted : Accounted crates ttl capacity events store) {clock : Clock}
    {draws : List (Vector UInt8 32)} {plan : Json} {binding : ConfirmationBinding}
    {correlationId : Text} {answer : Except ConfirmationError Json}
    (issued : store.issue crates clock draws plan binding correlationId = some (after, answer)) :
    Accounted crates ttl capacity
      (events ++ [⟨.issue clock draws plan binding correlationId, answer⟩]) after := by
  have pruned := @retainLive_length store.entries clock.now
  have kept : ∀ digest pending, (retainLive store.entries clock.now).lookup digest = some pending →
      store.entries.lookup digest = some pending := fun _ _ found => (lookup_retainLive.mp found).1
  rcases ConfirmationStore.issue_cases issued with
    ⟨rfl, rfl⟩ | ⟨rfl, rfl⟩ | ⟨returned, token, rfl, shown, fresh, room, rfl⟩
  · exact accounted.shrink rfl rfl (le_refl _) (fun _ _ => id) fun _ _ => id
  · exact accounted.shrink rfl rfl pruned kept fun _ _ => id
  · have atTtl := accounted.ttl_eq
    subst atTtl
    refine ⟨rfl, accounted.capacity_eq, ?_, ?_⟩
    · rw [← accounted.capacity_eq, AList.entries_insert_of_notMem fresh]
      exact room
    · intro digest pending found
      rcases lookup_insert.mp found with ⟨rfl, rfl⟩ | ⟨-, old⟩
      · refine ⟨⟨token, binding, plan, correlationId, clock.now + store.ttl⟩,
          Outstanding.last _ ?_, rfl, rfl⟩
        simp [issueOf, shown]
      · obtain ⟨issue, outstanding, rfl, rfl⟩ := accounted.issued digest pending (kept _ _ old)
        exact ⟨issue, outstanding.snoc id, rfl, rfl⟩

theorem Accounted.step (accounted : Accounted crates ttl capacity events store) {call : StoreCall}
    {answer : call.Answer} (answered : store.answer crates call = some (after, answer)) :
    Accounted crates ttl capacity (events ++ [⟨call, answer⟩]) after := by
  cases call with
  | issue clock draws plan binding correlationId => exact accounted.issue answered
  | validateBinding now token binding =>
      have presented := ConfirmationStore.validateBinding_presented (Option.some.inj answered)
      obtain ⟨shorter, same, room⟩ := presented.length
      exact accounted.shrink same room shorter (fun _ _ => presented.kept) fun _ _ => id
  | consume now token binding plan =>
      have here : store.consume crates now token binding plan = (after, answer) :=
        Option.some.inj answered
      have presented := ConfirmationStore.consume_presented here
      obtain ⟨shorter, same, room⟩ := presented.length
      refine accounted.shrink same room shorter (fun _ _ => presented.kept) ?_
      rintro issue found ⟨rfl, rfl, -⟩
      exact ConfirmationStore.consume_leaves here found rfl

/-- The invariant of a run. -/
theorem StoreRun.accounted (run : StoreRun crates (.new ttl capacity) events store) :
    Accounted crates ttl capacity events store := by
  induction run with
  | start => exact accounted_new
  | step _ answered ih => exact ih.step answered

end Accounts

/-! ## Digests tell tokens and plans apart -/

theorem utf8Bytes_injective {a b : Text} (same : utf8Bytes a = utf8Bytes b) : a = b := by
  have bytes : (String.ofList a).toUTF8 = (String.ofList b).toUTF8 :=
    ByteArray.ext (Array.toList_inj.mp same)
  exact String.ofList_injective (String.toByteArray_inj.mp bytes)

def plans : (Σ call : StoreCall, call.Answer) → List Json
  | ⟨.issue _ _ plan _ _, _⟩ => [plan]
  | ⟨.validateBinding .., _⟩ => []
  | ⟨.consume _ _ _ plan, _⟩ => [plan]

def tokens : (Σ call : StoreCall, call.Answer) → List Text
  | ⟨.issue .., .ok returned⟩ => (confirmationToken returned).toList
  | ⟨.issue .., .error _⟩ => []
  | ⟨.validateBinding _ token _, _⟩ => [token]
  | ⟨.consume _ token _ _, _⟩ => [token]

variable (crates) in
/-- The byte strings a history digests. -/
def digested (events : History) : List Bytes :=
  events.flatMap fun event => (tokens event).map utf8Bytes ++ (plans event).map crates.toVec

variable (crates) in
def CollisionFree (events : History) : Prop :=
  ∀ a ∈ digested crates events, ∀ b ∈ digested crates events,
    crates.sha256 a = crates.sha256 b → a = b

variable (crates) in
def PrintedApart (events : History) : Prop :=
  ∀ p ∈ events.flatMap plans, ∀ q ∈ events.flatMap plans, crates.toVec p = crates.toVec q → p = q

section Digests

variable {ttl : Nat} {events : History} {token token' : Text} {plan plan' : Json}

theorem token_digested (mem : token ∈ events.flatMap tokens) :
    utf8Bytes token ∈ digested crates events := by
  obtain ⟨event, here, presented⟩ := List.mem_flatMap.mp mem
  exact List.mem_flatMap.mpr
    ⟨event, here, List.mem_append_left _ (List.mem_map_of_mem presented)⟩

theorem plan_digested (mem : plan ∈ events.flatMap plans) :
    crates.toVec plan ∈ digested crates events := by
  obtain ⟨event, here, planned⟩ := List.mem_flatMap.mp mem
  exact List.mem_flatMap.mpr ⟨event, here, List.mem_append_right _ (List.mem_map_of_mem planned)⟩

theorem CollisionFree.token_eq (free : CollisionFree crates events)
    (mem : token ∈ events.flatMap tokens) (mem' : token' ∈ events.flatMap tokens)
    (same : digestToken crates token = digestToken crates token') : token = token' :=
  utf8Bytes_injective (free _ (token_digested mem) _ (token_digested mem') same)

theorem CollisionFree.plan_eq (free : CollisionFree crates events)
    (apart : PrintedApart crates events) (mem : plan ∈ events.flatMap plans)
    (mem' : plan' ∈ events.flatMap plans)
    (same : digestPlan crates plan = digestPlan crates plan') : plan = plan' :=
  apart _ mem _ mem' (free _ (plan_digested mem) _ (plan_digested mem') same)

theorem CollisionFree.before {event : Σ call : StoreCall, call.Answer}
    (free : CollisionFree crates (events ++ [event])) : CollisionFree crates events := by
  have wider : ∀ a ∈ digested crates events, a ∈ digested crates (events ++ [event]) := by
    intro a mem
    rw [digested, List.flatMap_append]
    exact List.mem_append_left _ mem
  exact fun a here b there => free a (wider a here) b (wider b there)

theorem issue_token_mem {issue : Issue} (issued : issue ∈ issues ttl events) :
    issue.token ∈ events.flatMap tokens ∧ issue.plan ∈ events.flatMap plans := by
  obtain ⟨event, mem, made⟩ := List.mem_filterMap.mp issued
  unfold issueOf at made
  split at made
  · obtain ⟨token, shown, rfl⟩ := Option.map_eq_some_iff.mp made
    exact ⟨List.mem_flatMap.mpr ⟨_, mem, by simp [tokens, shown]⟩,
      List.mem_flatMap.mpr ⟨_, mem, by simp [plans]⟩⟩
  · cases made

end Digests

/-! ## Once -/

section Once

variable {ttl capacity : Nat} {events : History} {store after : ConfirmationStore}

/-- What a successful consume found. -/
theorem consume_issued (run : StoreRun crates (.new ttl capacity) events store) {now : Nat}
    {token : Text} {binding : ConfirmationBinding} {plan : Json} {confirmed : ConfirmedPlan}
    (consumed : store.consume crates now token binding plan = (after, .ok confirmed))
    (free : CollisionFree crates (events ++ [⟨.consume now token binding plan, .ok confirmed⟩])) :
    ∃ issue, Outstanding ttl events issue ∧ issue.token = token ∧ issue.binding = binding ∧
      now < issue.expiresAt ∧ digestPlan crates issue.plan = digestPlan crates plan ∧
      issue.correlationId = confirmed.correlationId := by
  obtain ⟨pending, found, early, bound, planned, correlated⟩ :=
    ConfirmationStore.consume_ok consumed
  obtain ⟨issue, outstanding, digest, rfl⟩ := run.accounted.issued _ _ found
  have same : token = issue.token := by
    refine free.token_eq ?_ ?_ digest
    · simp [tokens]
    · rw [List.flatMap_append]
      exact List.mem_append_left _ (issue_token_mem outstanding.mem).1
  exact ⟨issue, outstanding, same.symm, bound, early, planned, correlated.symm⟩

theorem succeeds_mem {token : Text} {event : Σ call : StoreCall, call.Answer}
    (succeeds : Succeeds token event) : token ∈ tokens event := by
  obtain ⟨call, answer⟩ := event
  cases call with
  | issue => exact succeeds.elim
  | validateBinding => exact succeeds.elim
  | consume now presented binding plan => simp [tokens, succeeds.1]

/-- A token that was consumed was issued before. -/
theorem succeeded_issued (run : StoreRun crates (.new ttl capacity) events store)
    (free : CollisionFree crates events) {token : Text} {event : Σ call : StoreCall, call.Answer}
    (mem : event ∈ events) (succeeds : Succeeds token event) :
    ∃ issue ∈ issues ttl events, issue.token = token := by
  induction run with
  | start => cases mem
  | @step before store after call answer run answered ih =>
      have wider : ∀ issue ∈ issues ttl before, issue ∈ issues ttl (before ++ [⟨call, answer⟩]) := by
        intro issue here
        rw [issues, List.filterMap_append]
        exact List.mem_append_left _ here
      rcases List.mem_append.mp mem with old | new
      · obtain ⟨issue, here, same⟩ := ih free.before old
        exact ⟨issue, wider issue here, same⟩
      · rw [List.mem_singleton] at new
        subst new
        cases call with
        | issue => exact succeeds.elim
        | validateBinding => exact succeeds.elim
        | consume now presented binding plan =>
            obtain ⟨rfl, confirmed, rfl⟩ := succeeds
            obtain ⟨issue, outstanding, same, -⟩ :=
              consume_issued run (Option.some.inj answered) free
            exact ⟨issue, wider issue outstanding.mem, same⟩

/-- The token of an entry was never consumed. -/
theorem entry_unspent (run : StoreRun crates (.new ttl capacity) events store)
    (free : CollisionFree crates events) (distinct : ((issues ttl events).map Issue.token).Nodup)
    {token : Text} {pending : PendingConfirmation}
    (found : store.entries.lookup (digestToken crates token) = some pending)
    {event : Σ call : StoreCall, call.Answer} (mem : event ∈ events) : ¬ Succeeds token event := by
  intro succeeds
  induction run generalizing pending with
  | start => cases mem
  | @step before store after call answer run answered ih =>
      have parted : issues ttl (before ++ [⟨call, answer⟩]) =
          issues ttl before ++ (issueOf ttl ⟨call, answer⟩).toList := by
        rw [issues, List.filterMap_append]
        cases made : issueOf ttl ⟨call, answer⟩ <;> simp [issues, made]
      rw [parted, List.map_append] at distinct
      have earlier : ∀ {pending}, store.entries.lookup (digestToken crates token) = some pending →
          event ∈ before → False := ih free.before distinct.of_append_left
      rcases List.mem_append.mp mem with old | new
      · cases call with
        | issue clock draws plan binding correlationId =>
            have kept : ∀ {pending}, (retainLive store.entries clock.now).lookup
                (digestToken crates token) = some pending → False :=
              fun there => earlier (lookup_retainLive.mp there).1 old
            rcases ConfirmationStore.issue_cases answered with
              ⟨rfl, -⟩ | ⟨rfl, -⟩ | ⟨returned, issued, rfl, shown, -, -, rfl⟩
            · exact earlier found old
            · exact kept found
            · rcases lookup_insert.mp found with ⟨digest, -⟩ | ⟨-, there⟩
              · have same : token = issued := by
                  refine free.token_eq ?_ ?_ digest
                  · exact List.mem_flatMap.mpr ⟨event, mem, succeeds_mem succeeds⟩
                  · simp [tokens, shown]
                obtain ⟨issue, here, there⟩ := succeeded_issued run free.before old succeeds
                have twice : token ∈ (issues ttl before).map Issue.token :=
                  List.mem_map.mpr ⟨issue, here, there⟩
                refine List.disjoint_of_nodup_append distinct twice ?_
                simp [issueOf, shown, same]
              · exact kept there
        | validateBinding now presented binding =>
            have presented := ConfirmationStore.validateBinding_presented (Option.some.inj answered)
            exact earlier (presented.kept found) old
        | consume now presented binding plan =>
            have presented := ConfirmationStore.consume_presented (Option.some.inj answered)
            exact earlier (presented.kept found) old
      · rw [List.mem_singleton] at new
        subst new
        cases call with
        | issue => exact succeeds.elim
        | validateBinding => exact succeeds.elim
        | consume now presented binding plan =>
            obtain ⟨rfl, confirmed, rfl⟩ := succeeds
            have consumed : store.consume crates now presented binding plan =
                (after, .ok confirmed) := Option.some.inj answered
            obtain ⟨stored, there, -, bound, -⟩ := ConfirmationStore.consume_ok consumed
            have left := (ConfirmationStore.consume_presented consumed).kept found
            rw [there] at left
            cases left
            exact ConfirmationStore.consume_leaves consumed found bound

end Once

/-! ## The protocol -/

def Presents (now : Nat) (token : Text) (binding : ConfirmationBinding) :
    (Σ call : StoreCall, call.Answer) → Prop
  | ⟨.issue .., _⟩ => False
  | ⟨.validateBinding at' presented by', _⟩ => at' = now ∧ presented = token ∧ by' = binding
  | ⟨.consume at' presented by' _, _⟩ => at' = now ∧ presented = token ∧ by' = binding

def Refused : (Σ call : StoreCall, call.Answer) → Prop
  | ⟨.issue .., answer⟩ => ∃ error, answer = .error error
  | ⟨.validateBinding .., answer⟩ => ∃ error, answer = .error error
  | ⟨.consume .., answer⟩ => ∃ error, answer = .error error

variable (crates) in
/-- What one event of a run does, with the events before it. -/
structure Protected (ttl capacity : Nat) (before : History) (store : ConfirmationStore)
    (event : Σ call : StoreCall, call.Answer) (after : ConfirmationStore) : Prop where
  /-- A consumed token was issued for this binding and plan, and is neither expired nor burned. -/
  consumed : ∀ now token binding plan confirmed,
    event = ⟨.consume now token binding plan, .ok confirmed⟩ →
    ∃ issue, Outstanding ttl before issue ∧ issue.token = token ∧ issue.binding = binding ∧
      issue.plan = plan ∧ now < issue.expiresAt ∧ issue.correlationId = confirmed.correlationId
  once : ∀ token, Succeeds token event → ∀ earlier ∈ before, ¬ Succeeds token earlier
  spared : ∀ now token binding, Presents now token binding event →
    (store.entries.lookup (digestToken crates token) = none ∨
      ∀ issue ∈ issues ttl before, issue.token = token → issue.binding ≠ binding) →
    Refused event ∧ ∀ digest pending, now < pending.expiresAt →
      (after.entries.lookup digest = some pending ↔ store.entries.lookup digest = some pending)
  burned : ∀ now token binding plan answer, event = ⟨.consume now token binding plan, answer⟩ →
    ∀ issue ∈ issues ttl before, issue.token = token → issue.binding = binding →
    issue.plan ≠ plan →
    Refused event ∧ after.entries.lookup (digestToken crates token) = none ∧
      ∀ pending, store.entries.lookup (digestToken crates token) = some pending →
        now < pending.expiresAt → answer = .error .planDrift
  bounded : after.entries.entries.length ≤ capacity

section Protocol

variable {ttl capacity : Nat} {before : History} {store after : ConfirmationStore}

theorem issue_eq (distinct : ((issues ttl before).map Issue.token).Nodup) {issue issue' : Issue}
    (here : issue ∈ issues ttl before) (here' : issue' ∈ issues ttl before)
    (same : issue.token = issue'.token) : issue = issue' :=
  List.inj_on_of_nodup_map distinct here here' same

/-- The entry of a presented token is the one of its issue. -/
theorem entry_issue (run : StoreRun crates (.new ttl capacity) before store)
    {event : Σ call : StoreCall, call.Answer} (free : CollisionFree crates (before ++ [event]))
    {token : Text} (presented : token ∈ tokens event) {pending : PendingConfirmation}
    (found : store.entries.lookup (digestToken crates token) = some pending) :
    ∃ issue ∈ issues ttl before, issue.token = token ∧ pending = issue.pending crates := by
  obtain ⟨issue, outstanding, digest, rfl⟩ := run.accounted.issued _ _ found
  refine ⟨issue, outstanding.mem, ?_, rfl⟩
  refine (free.token_eq ?_ ?_ digest).symm
  · simp [presented]
  · rw [List.flatMap_append]
    exact List.mem_append_left _ (issue_token_mem outstanding.mem).1

theorem presents_spared (run : StoreRun crates (.new ttl capacity) before store) {call : StoreCall}
    {answer : call.Answer} (answered : store.answer crates call = some (after, answer))
    (free : CollisionFree crates (before ++ [⟨call, answer⟩])) {now : Nat} {token : Text}
    {binding : ConfirmationBinding} (presents : Presents now token binding ⟨call, answer⟩)
    (foreign : store.entries.lookup (digestToken crates token) = none ∨
      ∀ issue ∈ issues ttl before, issue.token = token → issue.binding ≠ binding) :
    Refused ⟨call, answer⟩ ∧ ∀ digest pending, now < pending.expiresAt →
      (after.entries.lookup digest = some pending ↔
        store.entries.lookup digest = some pending) := by
  have apart : token ∈ tokens ⟨call, answer⟩ → ∀ pending,
      store.entries.lookup (digestToken crates token) = some pending →
      pending.binding ≠ binding := by
    intro presented pending found
    rcases foreign with absent | foreign
    · rw [absent] at found
      cases found
    · obtain ⟨issue, here, same, rfl⟩ := entry_issue run free presented found
      exact foreign issue here same
  cases call with
  | issue => exact presents.elim
  | validateBinding =>
      obtain ⟨rfl, rfl, rfl⟩ := presents
      have apart' := apart (by simp [tokens])
      have validated := Option.some.inj answered
      refine ⟨?_, fun digest pending live =>
        (ConfirmationStore.validateBinding_presented validated).live apart' live⟩
      cases answer with
      | error error => exact ⟨error, rfl⟩
      | ok plan =>
          obtain ⟨pending, found, same⟩ := ConfirmationStore.validateBinding_ok validated
          exact absurd same (apart' pending found)
  | consume =>
      obtain ⟨rfl, rfl, rfl⟩ := presents
      have apart' := apart (by simp [tokens])
      have consumed := Option.some.inj answered
      refine ⟨?_, fun digest pending live =>
        (ConfirmationStore.consume_presented consumed).live apart' live⟩
      cases answer with
      | error error => exact ⟨error, rfl⟩
      | ok plan =>
          obtain ⟨pending, found, -, same, -⟩ := ConfirmationStore.consume_ok consumed
          exact absurd same (apart' pending found)

theorem drifted_burned (run : StoreRun crates (.new ttl capacity) before store) {now : Nat}
    {token : Text} {binding : ConfirmationBinding} {plan : Json}
    {answer : Except ConfirmationError ConfirmedPlan}
    (consumed : store.consume crates now token binding plan = (after, answer))
    (free : CollisionFree crates (before ++ [⟨.consume now token binding plan, answer⟩]))
    (apart : PrintedApart crates (before ++ [⟨.consume now token binding plan, answer⟩]))
    (distinct : ((issues ttl before).map Issue.token).Nodup) {issue : Issue}
    (issued : issue ∈ issues ttl before) (same : issue.token = token)
    (bound : issue.binding = binding) (drift : issue.plan ≠ plan) :
    Refused ⟨.consume now token binding plan, answer⟩ ∧
      after.entries.lookup (digestToken crates token) = none ∧
      ∀ pending, store.entries.lookup (digestToken crates token) = some pending →
        now < pending.expiresAt → answer = .error .planDrift := by
  have mine : ∀ pending, store.entries.lookup (digestToken crates token) = some pending →
      pending = issue.pending crates := by
    intro pending found
    obtain ⟨other, here, there, rfl⟩ := entry_issue run free (by simp [tokens]) found
    rw [issue_eq distinct here issued (there.trans same.symm)]
  have planned : digestPlan crates issue.plan ≠ digestPlan crates plan := by
    intro digests
    refine drift (free.plan_eq apart ?_ ?_ digests)
    · rw [List.flatMap_append]
      exact List.mem_append_left _ (issue_token_mem issued).2
    · simp [plans]
  refine ⟨?_, ?_, ?_⟩
  · cases answer with
    | error error => exact ⟨error, rfl⟩
    | ok confirmed =>
        obtain ⟨pending, found, -, -, agreed, -⟩ := ConfirmationStore.consume_ok consumed
        rw [mine pending found] at agreed
        exact absurd agreed planned
  · rw [Option.eq_none_iff_forall_ne_some]
    intro pending left
    have found := (ConfirmationStore.consume_presented consumed).kept left
    rw [mine pending found] at left
    exact ConfirmationStore.consume_leaves consumed left bound
  · intro pending found early
    have bound' : pending.binding = binding := by
      rw [mine pending found]
      exact bound
    have planned' : pending.planDigest ≠ digestPlan crates plan := by
      rw [mine pending found]
      exact planned
    have drifted := ConfirmationStore.consume_drift found early bound' planned'
    rwa [consumed] at drifted

/-- Every event of every run is protected, where issued tokens are distinct and digests tell the
tokens and plans of the run apart. -/
theorem confirmation_protocol {call : StoreCall} {answer : call.Answer}
    (run : StoreRun crates (.new ttl capacity) before store)
    (answered : store.answer crates call = some (after, answer))
    (distinct : ((issues ttl before).map Issue.token).Nodup)
    (free : CollisionFree crates (before ++ [⟨call, answer⟩]))
    (apart : PrintedApart crates (before ++ [⟨call, answer⟩])) :
    Protected crates ttl capacity before store ⟨call, answer⟩ after where
  consumed := by
    rintro now token binding plan confirmed ⟨⟩
    obtain ⟨issue, outstanding, token, bound, early, planned, correlated⟩ :=
      consume_issued run (Option.some.inj answered) free
    refine ⟨issue, outstanding, token, bound, ?_, early, correlated⟩
    refine free.plan_eq apart ?_ (by simp [plans]) planned
    rw [List.flatMap_append]
    exact List.mem_append_left _ (issue_token_mem outstanding.mem).2
  once := by
    intro token succeeds earlier mem
    cases call with
    | issue => exact succeeds.elim
    | validateBinding => exact succeeds.elim
    | consume now presented binding plan =>
        obtain ⟨rfl, confirmed, rfl⟩ := succeeds
        have consumed := Option.some.inj answered
        obtain ⟨pending, found, -⟩ := ConfirmationStore.consume_ok consumed
        exact entry_unspent run free.before distinct found mem
  spared _ _ _ presents foreign := presents_spared run answered free presents foreign
  burned := by
    rintro now token binding plan answer ⟨⟩ issue issued same bound drift
    exact drifted_burned run (Option.some.inj answered) free apart distinct issued same bound drift
  bounded := (run.accounted.step answered).bounded

end Protocol

/-! ### A token issued and consumed -/

def labToken : Text := List.replicate 43 'A'

def labPlan : Json := .object [("service".toList, .string "idp".toList)]

def labPlanText : Text := "\x7b\"service\":\"idp\"\x7d".toList

def labTokenSha : Sha256 :=
  #v[0x0f, 0x00, 0x73, 0x85, 0xb6, 0xf9, 0xd4, 0xb7, 0xee, 0xb2, 0x74, 0x86, 0x05, 0xaf, 0xe1, 0xa9,
     0x84, 0xa0, 0xa3, 0xbf, 0xa3, 0xf0, 0x14, 0xd0, 0x9e, 0x2a, 0x78, 0x4c, 0xe9, 0xe5, 0xcd, 0x1a]

def labPlanSha : Sha256 :=
  #v[0x00, 0x98, 0x5c, 0xf1, 0xca, 0xdc, 0xcc, 0x16, 0xe0, 0x10, 0x26, 0x52, 0xb9, 0xe2, 0xb8, 0x0f,
     0x57, 0x79, 0x04, 0x6f, 0x22, 0xee, 0xe6, 0x4d, 0x44, 0x70, 0x97, 0x3d, 0x2b, 0x14, 0x28, 0x39]

/-- What the crates answer on the token of the bytes `0`, and on the plan. -/
def labCrates : ConfirmationCrates where
  sha256 bytes := if bytes = utf8Bytes labToken then labTokenSha else labPlanSha
  toVec _ := utf8Bytes labPlanText
  encodeString _ := labToken
  expiryText _ _ := some "1970-01-01T00:05:00Z".toList

def labBinding : ConfirmationBinding :=
  .new (some "alice".toList) "srx-01".toList "srx-01|192.0.2.1|830|netconf".toList

def labIssue : StoreCall :=
  .issue ⟨0, 0⟩ [Vector.replicate 32 0] labPlan labBinding "req-123".toList

def labReturned : Json :=
  returnedPlan [("service".toList, .string "idp".toList)] labToken "1970-01-01T00:05:00Z".toList
    "req-123".toList

def labStore : ConfirmationStore where
  entries := (∅ : Entries).insert (digestToken labCrates labToken)
    ⟨labBinding, digestPlan labCrates labPlan, "req-123".toList, defaultTtl⟩
  ttl := defaultTtl
  capacity := defaultCapacity

def labConsume : StoreCall := .consume 1 labToken labBinding labPlan

theorem lab_issued : ConfirmationStore.answer labCrates (.new defaultTtl defaultCapacity) labIssue =
    some (labStore, .ok labReturned) := by
  have pruned : retainLive ∅ 0 = ∅ := rfl
  simp [ConfirmationStore.answer, labIssue, ConfirmationStore.issue, labPlan,
    ConfirmationStore.new, checkedAdd, instantLimit, defaultTtl, defaultCapacity, labCrates, pruned,
    drawToken, labStore, labReturned]

def labHistory : History :=
  [⟨.issue ⟨0, 0⟩ [Vector.replicate 32 0] labPlan labBinding "req-123".toList, .ok labReturned⟩,
    ⟨.consume 1 labToken labBinding labPlan, .ok ⟨"req-123".toList⟩⟩]

theorem lab_collisionFree : CollisionFree labCrates labHistory := by
  have apart : utf8Bytes labPlanText ≠ utf8Bytes labToken :=
    fun same => absurd (utf8Bytes_injective same) (by decide)
  have shas : labTokenSha ≠ labPlanSha := by decide
  have texts : ∀ bytes ∈ digested labCrates labHistory,
      bytes = utf8Bytes labToken ∨ bytes = utf8Bytes labPlanText := by
    simp [digested, labHistory, tokens, plans, labReturned, confirmationToken_returnedPlan,
      labCrates]
  intro a here b there same
  rcases texts a here with rfl | rfl <;> rcases texts b there with rfl | rfl
  · rfl
  · simp [labCrates, apart, shas] at same
  · simp [labCrates, apart, shas.symm] at same
  · rfl

theorem lab_printedApart : PrintedApart labCrates labHistory := by
  have planned : ∀ plan ∈ labHistory.flatMap plans, plan = labPlan := by
    simp [labHistory, plans]
  exact fun p here q there _ => (planned p here).trans (planned q there).symm

theorem lab_token_consumed :
    Protected labCrates defaultTtl defaultCapacity [⟨labIssue, .ok labReturned⟩] labStore
      ⟨labConsume, .ok ⟨"req-123".toList⟩⟩ (labStore.remove (digestToken labCrates labToken)) := by
  have found : labStore.entries.lookup (digestToken labCrates labToken) =
      some ⟨labBinding, digestPlan labCrates labPlan, "req-123".toList, defaultTtl⟩ :=
    AList.lookup_insert ∅
  have consumed : ConfirmationStore.answer labCrates labStore labConsume =
      some (labStore.remove (digestToken labCrates labToken), .ok ⟨"req-123".toList⟩) := by
    simp [ConfirmationStore.answer, labConsume, ConfirmationStore.consume, found, defaultTtl]
  exact confirmation_protocol (StoreRun.step .start lab_issued) consumed (List.nodup_singleton _)
    lab_collisionFree lab_printedApart

end JunosMcp.Srx
