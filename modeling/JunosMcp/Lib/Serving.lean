import JunosMcp.Lib.Weave

/-!
# A server's calls

Programs that run at once on one state, started by whoever calls and cut off by a restart. What a
call relies on has to outlast whatever the other calls are allowed to do.
-/

namespace JunosMcp.Lib

universe u v w

/-- The world may know who is calling. -/
structure Service (Op : Type u) (Res : Op → Type v) (Who σ : Type*) (α : Type w) where
  world : Who → World Op Res σ
  program : Who → Prog Op Res α
  starts : σ → Who → σ → Prop
  restarts : σ → σ → Prop

variable {Op : Type u} {Res : Op → Type v} {Who σ : Type*} {α β : Type w}

structure Job (Op : Type u) (Res : Op → Type v) (Who : Type*) (α : Type w) where
  who : Who
  left : Prog Op Res α

namespace Service

/-- A call comes in, a call goes on, its answer is lost with it, it is dropped, or all are. -/
inductive Step (service : Service Op Res Who σ α) :
    σ × List (Job Op Res Who α) → σ × List (Job Op Res Who α) → Prop where
  | call {s s' : σ} {jobs : List (Job Op Res Who α)} {who : Who} :
      service.starts s who s' → Step service (s, jobs) (s', ⟨who, service.program who⟩ :: jobs)
  | answer {s s' : σ} {before after : List (Job Op Res Who α)} {who : Who} {op : Op}
      {next : Res op → Prog Op Res α} {answer : Res op} :
      (service.world who).answered s op answer s' →
      Step service (s, before ++ ⟨who, .step op next⟩ :: after)
        (s', before ++ ⟨who, next answer⟩ :: after)
  | abandon {s s' : σ} {before after : List (Job Op Res Who α)} {who : Who} {op : Op}
      {next : Res op → Prog Op Res α} :
      (service.world who).abandoned s op s' →
      Step service (s, before ++ ⟨who, .step op next⟩ :: after) (s', before ++ after)
  | drop {s : σ} {before after : List (Job Op Res Who α)} {job : Job Op Res Who α} :
      Step service (s, before ++ job :: after) (s, before ++ after)
  | restart {s s' : σ} {jobs : List (Job Op Res Who α)} :
      service.restarts s s' → Step service (s, jobs) (s', [])

/-- The states and running calls that can follow. -/
inductive Reaches (service : Service Op Res Who σ α) (start : σ) :
    σ × List (Job Op Res Who α) → Prop where
  | start : Reaches service start (start, [])
  | step {site site' : σ × List (Job Op Res Who α)} :
      Reaches service start site → Step service site site' → Reaches service start site'

section Alone
variable {service : Service Op Res Who σ α} {start s s' s'' : σ} {who : Who} {op : Op}
  {next : Res op → Prog Op Res α}

/-- A call comes in on an idle server and has its first answer. -/
theorem Reaches.replied {answer : Res op} (reaches : Reaches service start (s, []))
    (begun : service.starts s who s') (program : service.program who = .step op next)
    (answered : (service.world who).answered s' op answer s'') :
    Reaches service start (s'', [⟨who, next answer⟩]) := by
  have running := reaches.step (.call begun)
  rw [program] at running
  exact running.step (@Step.answer _ _ _ _ _ _ s' s'' [] [] who op next answer answered)

theorem Reaches.dropped {job : Job Op Res Who α} (reaches : Reaches service start (s, [job])) :
    Reaches service start (s, []) :=
  reaches.step (@Step.drop _ _ _ _ _ _ s [] [] job)

theorem Reaches.abandoned (reaches : Reaches service start (s, [⟨who, .step op next⟩]))
    (here : (service.world who).abandoned s op s') : Reaches service start (s', []) :=
  reaches.step (@Step.abandon _ _ _ _ _ _ s s' [] [] who op next here)

end Alone

end Service

/-- What holds all the time, what stays true from a state on, and what may be sent in it. -/
structure Regime (world : Who → World Op Res σ) where
  inv : σ → Prop
  later : σ → σ → Prop
  allowed : Who → σ → Op → Prop
  refl : ∀ s, later s s
  trans : ∀ {s t u}, later s t → later t u → later s u
  answered : ∀ {who s op answer s'}, inv s → allowed who s op → (world who).answered s op answer s' →
    inv s' ∧ later s s'
  abandoned : ∀ {who s op s'}, inv s → allowed who s op → (world who).abandoned s op s' →
    inv s' ∧ later s s'

namespace Regime
variable {world : Who → World Op Res σ} (regime : Regime world) (who : Who)

/-- The program sends what is allowed in whatever state it comes to send it, and `post` holds when
it stops. -/
def amid : Prog Op Res α → (α → σ → Prop) → σ → Prop
  | .pure value, post, s => ∀ t, regime.later s t → regime.inv t → post value t
  | .step op next, post, s => ∀ t, regime.later s t → regime.inv t →
      regime.allowed who t op ∧
        ∀ answer t', (world who).answered t op answer t' → amid (next answer) post t'

variable {regime} {who}

theorem amid_later {p : Prog Op Res α} {post : α → σ → Prop} {s t : σ}
    (holds : regime.amid who p post s) (later : regime.later s t) : regime.amid who p post t := by
  cases p with
  | pure value => exact fun u past inv => holds u (regime.trans later past) inv
  | step op next => exact fun u past inv => holds u (regime.trans later past) inv

theorem amid_of_later {p : Prog Op Res α} {post : α → σ → Prop} {s : σ}
    (holds : ∀ t, regime.later s t → regime.inv t → regime.amid who p post t) :
    regime.amid who p post s := by
  cases p with
  | pure value => exact fun t later inv => holds t later inv t (regime.refl t) inv
  | step op next => exact fun t later inv => holds t later inv t (regime.refl t) inv

theorem amid_mono {p : Prog Op Res α} {post post' : α → σ → Prop} {s : σ}
    (holds : regime.amid who p post s)
    (wider : ∀ value t, regime.inv t → post value t → post' value t) :
    regime.amid who p post' s := by
  induction p generalizing s with
  | pure value => exact fun t later inv => wider value t inv (holds t later inv)
  | step op next ih =>
      intro t later inv
      obtain ⟨allowed, rest⟩ := holds t later inv
      exact ⟨allowed, fun answer t' here => ih answer (rest answer t' here)⟩

theorem amid_bind {p : Prog Op Res α} {f : α → Prog Op Res β} {post : β → σ → Prop} {s : σ}
    (holds : regime.amid who p (fun value t => regime.amid who (f value) post t) s) :
    regime.amid who (p.bind f) post s := by
  induction p generalizing s with
  | pure value => exact amid_of_later holds
  | step op next ih =>
      intro t later inv
      obtain ⟨allowed, rest⟩ := holds t later inv
      exact ⟨allowed, fun answer t' here => ih answer (rest answer t' here)⟩

/-- Operations that are allowed in every state need no care. -/
theorem amid_performs {free : Op → Prop} {p : Prog Op Res α} {s : σ} (performs : p.Performs free)
    (allowed : ∀ op t, free op → regime.inv t → regime.allowed who t op) :
    regime.amid who p (fun _ _ => True) s := by
  induction p generalizing s with
  | pure value => exact fun _ _ _ => trivial
  | step op next ih =>
      intro t later inv
      exact ⟨allowed op t performs.1 inv, fun answer t' _ => ih answer (performs.2 answer)⟩

/-- A program among events that break nothing keeps the invariant, wherever it has got to. -/
theorem amid_woven {Env : Type*} {env : σ → Env → σ → Prop} {p left : Prog Op Res α}
    {post : α → σ → Prop} {s s' : σ} {history : Interleaving Op Res Env}
    (holds : regime.amid who p post s) (inv : regime.inv s)
    (woven : Woven (world who) env s history s') (leads : Leads p (ownTrace history) left)
    (others : ∀ t event t', .other event ∈ history → regime.inv t → env t event t' →
      regime.inv t' ∧ regime.later t t') :
    regime.inv s' ∧ regime.amid who left post s' := by
  induction woven generalizing p with
  | refl s =>
      cases leads_nil.mp leads
      exact ⟨inv, holds⟩
  | own here _ ih =>
      obtain ⟨next, rfl, rest⟩ := leads_cons.mp leads
      obtain ⟨allowed, goes⟩ := holds _ (regime.refl _) inv
      obtain ⟨still, _⟩ := regime.answered inv allowed here
      refine ih (goes _ _ here) still rest ?_
      exact fun t event t' member => others t event t' (List.mem_cons_of_mem _ member)
  | other here _ ih =>
      obtain ⟨still, later⟩ := others _ _ _ List.mem_cons_self inv here
      refine ih (amid_later holds later) still leads ?_
      exact fun t event t' member => others t event t' (List.mem_cons_of_mem _ member)

end Regime

section Names
variable {Op' : Type u} {Res' : Op' → Type v}

/-- The regime as a program sees it that sends its operations under other names. -/
def Regime.pull {world : Who → World Op' Res' σ} (regime : Regime world) (name : Op → Op')
    (read : ∀ op, Res' (name op) → Res op) : Regime fun who => (world who).pull name read where
  inv := regime.inv
  later := regime.later
  allowed who s op := regime.allowed who s (name op)
  refl := regime.refl
  trans := regime.trans
  answered := by
    rintro who s op answer s' inv allowed ⟨seen, rfl, here⟩
    exact regime.answered inv allowed here
  abandoned inv allowed here := regime.abandoned inv allowed here

theorem amid_relabel {world : Who → World Op' Res' σ} {regime : Regime world} {name : Op → Op'}
    {read : ∀ op, Res' (name op) → Res op} {who : Who} {p : Prog Op Res α}
    {post : α → σ → Prop} {s : σ} (holds : (regime.pull name read).amid who p post s) :
    regime.amid who (p.relabel name read) post s := by
  induction p generalizing s with
  | pure value => exact holds
  | step op next ih =>
      intro t later inv
      obtain ⟨allowed, rest⟩ := holds t later inv
      refine ⟨allowed, fun seen t' here => ih _ (rest _ t' ⟨seen, rfl, here⟩)⟩

end Names

/-! ## Every reachable state -/

namespace Service
variable {service : Service Op Res Who σ α} {regime : Regime service.world}

/-- The invariant holds, and every running call sends only what is allowed from here on. -/
def Orderly (regime : Regime service.world) (site : σ × List (Job Op Res Who α)) : Prop :=
  regime.inv site.1 ∧ ∀ job ∈ site.2, regime.amid job.who job.left (fun _ _ => True) site.1

theorem Orderly.others {s s' : σ} {before after : List (Job Op Res Who α)}
    {job : Job Op Res Who α} (orderly : Orderly regime (s, before ++ job :: after))
    (later : regime.later s s') :
    ∀ other ∈ before ++ after, regime.amid other.who other.left (fun _ _ => True) s' := by
  intro other member
  apply Regime.amid_later _ later
  apply orderly.2
  rcases List.mem_append.mp member with early | late
  · exact List.mem_append_left _ early
  · exact List.mem_append_right _ (List.mem_cons_of_mem _ late)

theorem Orderly.step
    (starts : ∀ {s who s'}, regime.inv s → service.starts s who s' → regime.inv s' ∧
      regime.later s s' ∧ regime.amid who (service.program who) (fun _ _ => True) s')
    (restarts : ∀ {s s'}, regime.inv s → service.restarts s s' → regime.inv s')
    {site site' : σ × List (Job Op Res Who α)} (orderly : Orderly regime site)
    (step : Step service site site') : Orderly regime site' := by
  cases step with
  | call started =>
      obtain ⟨inv, later, amid⟩ := starts orderly.1 started
      refine ⟨inv, ?_⟩
      intro job member
      rcases List.mem_cons.mp member with rfl | old
      · exact amid
      · exact Regime.amid_later (orderly.2 job old) later
  | @answer s s' before after who op next answer here =>
      have running := orderly.2 _ (List.mem_append_right _ List.mem_cons_self)
      obtain ⟨allowed, rest⟩ := running s (regime.refl s) orderly.1
      obtain ⟨inv, later⟩ := regime.answered orderly.1 allowed here
      refine ⟨inv, ?_⟩
      intro job member
      rcases List.mem_append.mp member with early | found
      · exact orderly.others later job (List.mem_append_left _ early)
      · rcases List.mem_cons.mp found with rfl | late
        · exact rest answer s' here
        · exact orderly.others later job (List.mem_append_right _ late)
  | @abandon s s' before after who op next here =>
      have running := orderly.2 _ (List.mem_append_right _ List.mem_cons_self)
      obtain ⟨allowed, _⟩ := running s (regime.refl s) orderly.1
      obtain ⟨inv, later⟩ := regime.abandoned orderly.1 allowed here
      exact ⟨inv, orderly.others later⟩
  | drop => exact ⟨orderly.1, orderly.others (regime.refl _)⟩
  | restart restarted => exact ⟨restarts orderly.1 restarted, nofun⟩

/-- Whatever comes in and however often the server restarts, the invariant holds. -/
theorem Reaches.orderly {start : σ}
    (starts : ∀ {s who s'}, regime.inv s → service.starts s who s' → regime.inv s' ∧
      regime.later s s' ∧ regime.amid who (service.program who) (fun _ _ => True) s')
    (restarts : ∀ {s s'}, regime.inv s → service.restarts s s' → regime.inv s')
    (inv : regime.inv start) {site : σ × List (Job Op Res Who α)}
    (reaches : Reaches service start site) : Orderly regime site := by
  induction reaches with
  | start => exact ⟨inv, nofun⟩
  | step _ step ih => exact ih.step starts restarts step

end Service

end JunosMcp.Lib
