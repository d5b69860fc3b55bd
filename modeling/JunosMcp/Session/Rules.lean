import JunosMcp.Session.System

/-!
# Rules for session programs

The weakest precondition of each operation, in a world that keeps a promise.
-/

namespace JunosMcp
open Lib

abbrev Promise := Session → (op : SessionOp) → Option (SessionRes op) → Session → Prop

variable {promise : Promise} {watch : Watch Session} {α β : Type} {s : Session}

theorem effect_device {rpc : Rpc} (sent : rpc ≠ .config)
    {reply : Option (Except RustEzError rpc.Value)} {s' : Session} :
    Session.effect s (.device rpc) reply s' ↔ ∃ choice : Choice,
      s' = s.after rpc (Session.acked reply) (Session.acked reply || choice.carried) choice := by
  cases rpc with
  | config => exact absurd rfl sent
  | _ => exact Iff.rfl

theorem acked_or {acked carried : Bool} (ok : acked = true) : (acked || carried) = true := by
  rw [ok, Bool.true_or]

theorem not_acked {carried : Bool} (acked : false = true) : carried = true := by
  cases acked

@[simp] theorem reuseAllowed_after (rpc : Rpc) (acked carried : Bool) (choice : Choice) :
    (s.after rpc acked carried choice).reuseAllowed = s.reuseAllowed := by
  cases rpc with
  | rollback version => cases version <;> rfl
  | _ => rfl

theorem present_after {rpc : Rpc} (kept : rpc ≠ .close) (acked carried : Bool)
    (choice : Choice) : (s.after rpc acked carried choice).present = s.present := by
  cases rpc with
  | rollback version => cases version <;> rfl
  | close => exact absurd rfl kept
  | _ => rfl

theorem wp_guardOp {op : GuardOp} {next : op.Value → SessionProg α} {post : α → Session → Prop}
    (safe : watch.always (s.set op))
    (rest : wp (sessionWorld.restrict promise) watch (next (s.read op)) post (s.set op)) :
    wp (sessionWorld.restrict promise) watch ((guardOp op).bind next) post s := by
  constructor
  · rintro answer s' ⟨⟨same, rfl⟩, _⟩
    cases same
    exact ⟨safe, rest⟩
  · rintro s' ⟨⟨lost, _⟩, _⟩
    cases lost

theorem wp_config {next : Except RustEzError Unit → SessionProg α} {post : α → Session → Prop}
    (safe : watch.always s)
    (rest : ∀ reply, promise s (.bare (.device .config)) (some reply) s →
      wp (sessionWorld.restrict promise) watch (next reply) post s) :
    wp (sessionWorld.restrict promise) watch ((call .config).bind next) post s := by
  constructor
  · rintro reply s' ⟨⟨_, rfl⟩, kept⟩
    exact ⟨safe, rest reply kept⟩
  · rintro s' ⟨⟨lost, _⟩, _⟩
    cases lost

theorem wp_call (rpc : Rpc) (sent : rpc ≠ .config)
    {next : Except RustEzError rpc.Value → SessionProg α} {post : α → Session → Prop}
    (rest : ∀ (reply : Except RustEzError rpc.Value) (carried : Bool) (choice : Choice)
      (s' : Session), (Session.acked (some reply) = true → carried = true) →
      s' = s.after rpc (Session.acked (some reply)) carried choice →
      promise s (.bare (.device rpc)) (some reply) s' →
      watch.always s' ∧ wp (sessionWorld.restrict promise) watch (next reply) post s')
    (cut : ∀ (carried : Bool) (choice : Choice) (s' : Session),
      s' = s.after rpc false carried choice →
      promise s (.bare (.device rpc)) none s' → watch.always s' ∧ watch.cut s') :
    wp (sessionWorld.restrict promise) watch ((call rpc).bind next) post s := by
  constructor
  · rintro reply s' ⟨here, kept⟩
    obtain ⟨choice, same⟩ := (effect_device sent).mp here
    exact rest reply _ choice s' acked_or same kept
  · rintro s' ⟨here, kept⟩
    obtain ⟨choice, same⟩ := (effect_device sent).mp here
    exact cut choice.carried choice s' (by simpa [Session.acked] using same) kept

theorem wp_callWithin (rpc : Rpc) (sent : rpc ≠ .config)
    {next : Timed (Except RustEzError rpc.Value) → SessionProg α} {post : α → Session → Prop}
    (rest : ∀ (reply : Timed (Except RustEzError rpc.Value)) (acked carried : Bool)
      (choice : Choice) (s' : Session), (acked = true → carried = true) →
      s' = s.after rpc acked carried choice →
      promise s (.timed (.device rpc)) (some reply) s' →
      watch.always s' ∧ wp (sessionWorld.restrict promise) watch (next reply) post s')
    (cut : ∀ (carried : Bool) (choice : Choice) (s' : Session),
      s' = s.after rpc false carried choice →
      promise s (.timed (.device rpc)) none s' → watch.always s' ∧ watch.cut s') :
    wp (sessionWorld.restrict promise) watch ((callWithin rpc).bind next) post s := by
  constructor
  · rintro reply s' ⟨here, kept⟩
    cases reply with
    | completed result =>
        obtain ⟨choice, same⟩ := (effect_device sent).mp here
        exact rest _ _ _ choice s' acked_or same kept
    | elapsed =>
        obtain ⟨choice, same⟩ := (effect_device sent).mp here
        exact rest _ false choice.carried choice s' nofun (by simpa [Session.acked] using same)
          kept
  · rintro s' ⟨here, kept⟩
    obtain ⟨choice, same⟩ := (effect_device sent).mp here
    exact cut choice.carried choice s' (by simpa [Session.acked] using same) kept

theorem wp_present {next : Bool → SessionProg α} {post : α → Session → Prop}
    (safe : watch.always s)
    (rest : wp (sessionWorld.restrict promise) watch (next s.present) post s) :
    wp (sessionWorld.restrict promise) watch ((guardOp .present).bind next) post s :=
  wp_guardOp safe rest

theorem wp_isReusable {next : Bool → SessionProg α} {post : α → Session → Prop}
    (safe : watch.always s)
    (rest : wp (sessionWorld.restrict promise) watch
      (next (shouldPool s.reuseAllowed (s.present && s.configDbOpen) (s.present && s.touched)))
      post s) :
    wp (sessionWorld.restrict promise) watch (isReusable.bind next) post s :=
  wp_bind.mpr (wp_guardOp safe (wp_guardOp safe (wp_guardOp safe rest)))

/-! ## Any call -/

/-- What one of these calls can do, or none at all. -/
inductive Session.Moved (s : Session) (calls : Rpc → Prop) : Session → Prop where
  | still : s.Moved calls s
  | call {rpc : Rpc} {acked carried : Bool} (choice : Choice) :
      calls rpc → (acked = true → carried = true) → s.Moved calls (s.after rpc acked carried choice)

theorem Session.Moved.of_effect {calls : Rpc → Prop} {rpc : Rpc} (called : calls rpc)
    {reply : Option (Except RustEzError rpc.Value)} {s' : Session}
    (here : Session.effect s (.device rpc) reply s') : s.Moved calls s' := by
  by_cases sent : rpc = .config
  · subst sent
    obtain ⟨_, rfl⟩ := here
    exact .still
  · obtain ⟨choice, rfl⟩ := (effect_device sent).mp here
    exact .call choice called acked_or

/-- The await sends one of these calls to the device, or nothing. -/
def OnDevice (calls : Rpc → Prop) (op : SessionOp) : Prop :=
  match op.sends with
  | none => True
  | some (.guard _) => False
  | some (.device rpc) => calls rpc

variable {calls : Rpc → Prop} {op : SessionOp}

theorem OnDevice.sent (device : OnDevice calls op) {called : SessionCall}
    (sends : op.sends = some called) : ∃ rpc, called = .device rpc ∧ calls rpc := by
  rw [OnDevice, sends] at device
  cases called with
  | guard op => exact device.elim
  | device rpc => exact ⟨rpc, rfl, device⟩

theorem answered_moved (device : OnDevice calls op) {answer : SessionRes op} {s' : Session}
    (here : sessionWorld.answered s op answer s') : s.Moved calls s' := by
  rcases Await.world_answered here with rfl | ⟨called, reply, seen, here⟩
  · exact .still
  · obtain ⟨rpc, rfl, called⟩ := device.sent seen.sends
    exact .of_effect called here

theorem abandoned_moved (device : OnDevice calls op) {s' : Session}
    (here : sessionWorld.abandoned s op s') : s.Moved calls s' := by
  obtain ⟨called, sends, here⟩ := Await.world_abandoned here
  obtain ⟨rpc, rfl, called⟩ := device.sent sends
  exact .of_effect called here

theorem onDevice_backend (op : BackendOp) : OnDevice (fun _ => True) (op.rename backendRpc) := by
  cases op with
  | ensureActive => trivial
  | bare called => cases called <;> trivial
  | timed called => cases called <;> trivial
  | raced called => cases called <;> trivial

end JunosMcp
