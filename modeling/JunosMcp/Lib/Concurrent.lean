import JunosMcp.Lib.Program
import Mathlib.Logic.Function.Basic

/-!
# Concurrent calls

Programs that run at once on one state, one for each caller, among changes from outside. What a call
relies on has to outlast what the others are allowed to do; its own steps may change it.
-/

namespace JunosMcp.Lib

universe u v w

variable {Op : Type u} {Res : Op → Type v} {Who σ : Type*} {α β : Type w}

structure Calls (Op : Type u) (Res : Op → Type v) (Who σ : Type*) (α : Type w) where
  world : Who → World Op Res σ
  program : Who → Prog Op Res α
  outside : σ → σ → Prop

namespace Calls

/-- A state, and what is left of each call that was not dropped. -/
abbrev Site (Op : Type u) (Res : Op → Type v) (Who σ : Type*) (α : Type w) :=
  σ × (Who → Option (Prog Op Res α))

variable [DecidableEq Who]

/-- A call goes on, a call is dropped while it waits, or the state changes from outside. -/
inductive Step (calls : Calls Op Res Who σ α) :
    Site Op Res Who σ α → Site Op Res Who σ α → Prop where
  | answer {s s' : σ} {left : Who → Option (Prog Op Res α)} {who : Who} {op : Op}
      {next : Res op → Prog Op Res α} {answer : Res op} :
      left who = some (.step op next) → (calls.world who).answered s op answer s' →
      Step calls (s, left) (s', Function.update left who (some (next answer)))
  | abandon {s s' : σ} {left : Who → Option (Prog Op Res α)} {who : Who} {op : Op}
      {next : Res op → Prog Op Res α} :
      left who = some (.step op next) → (calls.world who).abandoned s op s' →
      Step calls (s, left) (s', Function.update left who none)
  | outside {s s' : σ} {left : Who → Option (Prog Op Res α)} :
      calls.outside s s' → Step calls (s, left) (s', left)

inductive Reaches (calls : Calls Op Res Who σ α) (start : σ) : Site Op Res Who σ α → Prop where
  | start : Reaches calls start (start, fun who => some (calls.program who))
  | step {site site' : Site Op Res Who σ α} :
      Reaches calls start site → Step calls site site' → Reaches calls start site'

/-- One call goes on for a while. -/
theorem Reaches.leads {calls : Calls Op Res Who σ α} {start s s' : σ}
    {left : Who → Option (Prog Op Res α)} {who : Who} {p rest : Prog Op Res α}
    {trace : Trace Op Res} (reaches : Reaches calls start (s, left)) (here : left who = some p)
    (leads : Leads p trace rest) (follows : Follows (calls.world who) s trace s') :
    Reaches calls start (s', Function.update left who (some rest)) := by
  induction leads generalizing s left with
  | refl p =>
      cases follows
      rw [← here, Function.update_eq_self]
      exact reaches
  | step later ih =>
      obtain ⟨middle, answered, follows⟩ := follows_cons.mp follows
      have reached := ih (reaches.step (.answer here answered)) (Function.update_self ..) follows
      rwa [Function.update_idem] at reached

end Calls

/-! ## What a call relies on -/

structure Pact (world : Who → World Op Res σ) (outside : σ → σ → Prop) where
  inv : σ → Prop
  rely : Who → σ → σ → Prop
  allowed : Who → σ → Op → Prop
  refl : ∀ who s, rely who s s
  trans : ∀ {who s t u}, rely who s t → rely who t u → rely who s u
  answered : ∀ {who s op answer s'}, inv s → allowed who s op → (world who).answered s op answer s' →
    inv s' ∧ ∀ other, other ≠ who → rely other s s'
  abandoned : ∀ {who s op s'}, inv s → allowed who s op → (world who).abandoned s op s' →
    inv s' ∧ ∀ other, other ≠ who → rely other s s'
  outside : ∀ {s s'}, inv s → outside s s' → inv s' ∧ ∀ who, rely who s s'

namespace Pact
variable {world : Who → World Op Res σ} {outside : σ → σ → Prop} (pact : Pact world outside)
  (who : Who)

/-- The call sends what it is allowed to send, and `post` holds when it stops and from then on. -/
def amid : Prog Op Res α → (α → σ → Prop) → σ → Prop
  | .pure value, post, s => ∀ t, pact.rely who s t → pact.inv t → post value t
  | .step op next, post, s => ∀ t, pact.rely who s t → pact.inv t →
      pact.allowed who t op ∧
        ∀ answer t', (world who).answered t op answer t' → amid (next answer) post t'

variable {pact} {who}

theorem amid_rely {p : Prog Op Res α} {post : α → σ → Prop} {s t : σ}
    (holds : pact.amid who p post s) (kept : pact.rely who s t) : pact.amid who p post t := by
  cases p with
  | pure value => exact fun u later inv => holds u (pact.trans kept later) inv
  | step op next => exact fun u later inv => holds u (pact.trans kept later) inv

theorem amid_of_rely {p : Prog Op Res α} {post : α → σ → Prop} {s : σ}
    (holds : ∀ t, pact.rely who s t → pact.inv t → pact.amid who p post t) :
    pact.amid who p post s := by
  cases p with
  | pure value => exact fun t kept inv => holds t kept inv t (pact.refl who t) inv
  | step op next => exact fun t kept inv => holds t kept inv t (pact.refl who t) inv

theorem amid_mono {p : Prog Op Res α} {post post' : α → σ → Prop} {s : σ}
    (holds : pact.amid who p post s) (wider : ∀ value t, pact.inv t → post value t → post' value t) :
    pact.amid who p post' s := by
  induction p generalizing s with
  | pure value => exact fun t kept inv => wider value t inv (holds t kept inv)
  | step op next ih =>
      intro t kept inv
      obtain ⟨allowed, rest⟩ := holds t kept inv
      exact ⟨allowed, fun answer t' here => ih answer (rest answer t' here)⟩

theorem amid_bind {p : Prog Op Res α} {f : α → Prog Op Res β} {post : β → σ → Prop} {s : σ}
    (holds : pact.amid who p (fun value t => pact.amid who (f value) post t) s) :
    pact.amid who (p.bind f) post s := by
  induction p generalizing s with
  | pure value => exact amid_of_rely holds
  | step op next ih =>
      intro t kept inv
      obtain ⟨allowed, rest⟩ := holds t kept inv
      exact ⟨allowed, fun answer t' here => ih answer (rest answer t' here)⟩

/-- A first part with its own result, and what follows from it. -/
theorem amid_then {p : Prog Op Res α} {f : α → Prog Op Res β} {middle : α → σ → Prop}
    {post : β → σ → Prop} {s : σ} (first : pact.amid who p middle s)
    (rest : ∀ value t, pact.inv t → middle value t → pact.amid who (f value) post t) :
    pact.amid who (p.bind f) post s :=
  amid_bind (amid_mono first rest)

/-- What every allowed operation of the call keeps, and every other call, the call keeps. -/
theorem amid_keeps {free : Op → Prop} {kept : σ → Prop} {p : Prog Op Res α} {s : σ}
    (performs : p.Performs free) (start : kept s)
    (relied : ∀ {s t}, kept s → pact.rely who s t → kept t)
    (allowed : ∀ {op t}, free op → pact.inv t → kept t → pact.allowed who t op)
    (answered : ∀ {op t answer t'}, free op → kept t → (world who).answered t op answer t' →
      kept t') : pact.amid who p (fun _ => kept) s := by
  induction p generalizing s with
  | pure value => exact fun t later _ => relied start later
  | step op next ih =>
      intro t later inv
      have here := relied start later
      refine ⟨allowed performs.1 inv here, fun answer t' goes => ?_⟩
      exact ih answer (performs.2 answer) (answered performs.1 here goes)

end Pact

/-! ## Every reachable state -/

namespace Calls
variable [DecidableEq Who] {calls : Calls Op Res Who σ α} {pact : Pact calls.world calls.outside}
  {post : Who → α → σ → Prop}

/-- The invariant holds, and every call is on its way to its postcondition. -/
def Orderly (pact : Pact calls.world calls.outside) (post : Who → α → σ → Prop)
    (site : Site Op Res Who σ α) : Prop :=
  pact.inv site.1 ∧ ∀ who p, site.2 who = some p → pact.amid who p (post who) site.1

theorem Orderly.step {site site' : Site Op Res Who σ α} (orderly : Orderly pact post site)
    (step : Step calls site site') : Orderly pact post site' := by
  obtain ⟨inv, running⟩ := orderly
  cases step with
  | @answer s s' left who op next answer here goes =>
      obtain ⟨allowed, rest⟩ := running who _ here s (pact.refl who s) inv
      obtain ⟨inv', kept⟩ := pact.answered inv allowed goes
      refine ⟨inv', fun other p found => ?_⟩
      by_cases same : other = who
      · subst same
        simp only [Function.update_self, Option.some.injEq] at found
        subst found
        exact rest answer s' goes
      · simp only [Function.update_of_ne same] at found
        exact Pact.amid_rely (running other p found) (kept other same)
  | @abandon s s' left who op next here goes =>
      obtain ⟨allowed, _⟩ := running who _ here s (pact.refl who s) inv
      obtain ⟨inv', kept⟩ := pact.abandoned inv allowed goes
      refine ⟨inv', fun other p found => ?_⟩
      by_cases same : other = who
      · subst same
        simp only [Function.update_self, reduceCtorEq] at found
      · simp only [Function.update_of_ne same] at found
        exact Pact.amid_rely (running other p found) (kept other same)
  | outside changed =>
      obtain ⟨inv', kept⟩ := pact.outside inv changed
      exact ⟨inv', fun who p found => Pact.amid_rely (running who p found) (kept who)⟩

theorem Reaches.orderly {start : σ} (inv : pact.inv start)
    (programs : ∀ who, pact.amid who (calls.program who) (post who) start)
    {site : Site Op Res Who σ α} (reaches : Reaches calls start site) :
    Orderly pact post site := by
  induction reaches with
  | start =>
      refine ⟨inv, fun who p found => ?_⟩
      cases found
      exact programs who
  | step _ step ih => exact ih.step step

section Ends
omit [DecidableEq Who]
variable {site : Site Op Res Who σ α} {who : Who}

theorem Orderly.returned {value : α} (orderly : Orderly pact post site)
    (stopped : site.2 who = some (.pure value)) : post who value site.1 :=
  orderly.2 who _ stopped site.1 (pact.refl who _) orderly.1

theorem Orderly.sends {op : Op} {next : Res op → Prog Op Res α}
    (orderly : Orderly pact post site) (waits : site.2 who = some (.step op next)) :
    pact.allowed who site.1 op :=
  (orderly.2 who _ waits site.1 (pact.refl who _) orderly.1).1

end Ends

end Calls

/-! ## Operations that stand for programs -/

section Expand
variable {Op' : Type u} {Res' : Op' → Type v}

/-- Each operation is carried out by a program of its own. -/
def Prog.expand {Res : Op → Type w} (carryOut : ∀ op, Prog Op' Res' (Res op)) :
    Prog Op Res α → Prog Op' Res' α
  | .pure value => .pure value
  | .step op next => (carryOut op).bind fun answer => (next answer).expand carryOut

variable {Res : Op → Type w} {carryOut : ∀ op, Prog Op' Res' (Res op)}

@[simp] theorem Prog.expand_pure {value : α} :
    (Prog.pure value : Prog Op Res α).expand carryOut = .pure value := rfl

theorem Prog.expand_bind {p : Prog Op Res α} {f : α → Prog Op Res β} :
    (p.bind f).expand carryOut = (p.expand carryOut).bind fun value => (f value).expand carryOut := by
  induction p with
  | pure value => rfl
  | step op next ih => simp only [Prog.step_bind, Prog.expand, ih, Prog.bind_assoc]

/-- What every operation's program keeps, whoever carries it out, the whole program keeps. -/
theorem Pact.amid_expand {world : Who → World Op' Res' σ} {outside : σ → σ → Prop}
    {pact : Pact world outside} {who : Who} {free : Op → Prop} {kept : σ → Prop}
    {p : Prog Op Res α} {s : σ} (performs : p.Performs free) (start : kept s)
    (relied : ∀ {s t}, kept s → pact.rely who s t → kept t)
    (carried : ∀ {op t}, free op → kept t → pact.amid who (carryOut op) (fun _ => kept) t) :
    pact.amid who (p.expand carryOut) (fun _ => kept) s := by
  induction p generalizing s with
  | pure value => exact fun t later _ => relied start later
  | step op next ih =>
      refine Pact.amid_then (carried performs.1 start) fun answer t _ here => ?_
      exact ih answer (performs.2 answer) here

end Expand

/-! ## Operations under other names -/

section Names
variable {Op' : Type u} {Res' : Op' → Type v}

/-- The pact as a program sees it that sends its operations under other names. -/
def Pact.pull {world : Who → World Op' Res' σ} {outside : σ → σ → Prop}
    (pact : Pact world outside) (name : Op → Op') (read : ∀ op, Res' (name op) → Res op) :
    Pact (fun who => (world who).pull name read) outside where
  inv := pact.inv
  rely := pact.rely
  allowed who s op := pact.allowed who s (name op)
  refl := pact.refl
  trans := pact.trans
  answered := by
    rintro who s op answer s' inv allowed ⟨seen, rfl, here⟩
    exact pact.answered inv allowed here
  abandoned inv allowed here := pact.abandoned inv allowed here
  outside := pact.outside

theorem Pact.amid_relabel {world : Who → World Op' Res' σ} {outside : σ → σ → Prop}
    {pact : Pact world outside} {name : Op → Op'} {read : ∀ op, Res' (name op) → Res op}
    {who : Who} {p : Prog Op Res α} {post : α → σ → Prop} {s : σ}
    (holds : (pact.pull name read).amid who p post s) :
    pact.amid who (p.relabel name read) post s := by
  induction p generalizing s with
  | pure value => exact holds
  | step op next ih =>
      intro t kept inv
      obtain ⟨allowed, rest⟩ := holds t kept inv
      exact ⟨allowed, fun seen t' here => ih _ (rest _ t' ⟨seen, rfl, here⟩)⟩

end Names

end JunosMcp.Lib
