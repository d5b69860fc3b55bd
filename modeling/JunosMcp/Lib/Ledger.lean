import JunosMcp.Lib.Concurrent
import Mathlib.Data.List.Infix

/-!
# Ledgers

A log that only grows, in which every entry is justified by the entries before it. Calls that run
at once and justify what they write keep it so.
-/

namespace JunosMcp.Lib

universe u v w

section Ledger
variable {δ : Type*} {justifies : List δ → δ → Prop} {log : List δ} {entry : δ}

inductive Ledger (justifies : List δ → δ → Prop) : List δ → Prop where
  | nil : Ledger justifies []
  | snoc {log : List δ} {entry : δ} :
      Ledger justifies log → justifies log entry → Ledger justifies (log ++ [entry])

theorem Ledger.justified (ledger : Ledger justifies log) {before after : List δ}
    (split : log = before ++ entry :: after) : justifies before entry := by
  induction ledger generalizing after with
  | nil => cases before <;> cases split
  | @snoc log last _ here ih =>
      rcases List.eq_nil_or_concat after with rfl | ⟨init, final, rfl⟩
      · obtain ⟨rfl, same⟩ := List.append_inj' split rfl
        cases same
        exact here
      · rw [List.concat_eq_append, ← List.cons_append, ← List.append_assoc] at split
        exact ih (List.append_inj' split rfl).1

theorem first_marked_unique (mark : δ → Prop) {a b a' b' : List δ} {x x' : δ}
    (same : a ++ x :: b = a' ++ x' :: b') (is : mark x) (is' : mark x')
    (before : ∀ y ∈ a, ¬mark y) (before' : ∀ y ∈ a', ¬mark y) : x = x' := by
  rcases List.append_eq_append_iff.mp same with ⟨gap, rfl, tail⟩ | ⟨gap, rfl, tail⟩
  · cases gap with
    | nil =>
        cases tail
        rfl
    | cons y gap =>
        cases tail
        exact absurd is (before' x (List.mem_append_right _ List.mem_cons_self))
  · cases gap with
    | nil =>
        cases tail
        rfl
    | cons y gap =>
        cases tail
        exact absurd is' (before x' (List.mem_append_right _ List.mem_cons_self))

theorem prefix_snoc : log <+: log ++ [entry] := List.prefix_append log [entry]

end Ledger

/-! ## Values of programs -/

variable {Op : Type u} {Res : Op → Type v} {Who σ : Type*} {α β : Type w}

/-- Every value the program can stop with is good. -/
def Prog.Yields (good : α → Prop) : Prog Op Res α → Prop
  | .pure value => good value
  | .step _ next => ∀ answer, (next answer).Yields good

theorem Prog.yields_any : ∀ p : Prog Op Res α, p.Yields fun _ => True
  | .pure _ => trivial
  | .step _ next => fun answer => (next answer).yields_any

theorem Prog.Yields.mono {good good' : α → Prop} {p : Prog Op Res α} (yields : p.Yields good)
    (wider : ∀ value, good value → good' value) : p.Yields good' := by
  induction p with
  | pure value => exact wider value yields
  | step op next ih => exact fun answer => ih answer (yields answer)

theorem Prog.Yields.bind {good : α → Prop} {good' : β → Prop} {p : Prog Op Res α}
    {f : α → Prog Op Res β} (yields : p.Yields good)
    (rest : ∀ value, good value → (f value).Yields good') : (p.bind f).Yields good' := by
  induction p with
  | pure value => exact rest value yields
  | step op next ih => exact fun answer => ih answer (yields answer)

/-- The values of a program that may fail, where it does not. -/
def Unless {ε : Type*} (good : α → Prop) (result : Except ε α) : Prop :=
  ∀ value, result = .ok value → good value

theorem unless_error {ε : Type*} {good : α → Prop} {error : ε} :
    Unless good (.error error : Except ε α) := by
  intro value same
  cases same

theorem Prog.Yields.andThen {ε : Type*} {good : α → Prop} {good' : β → Prop}
    {p : Prog Op Res (Except ε α)} {f : α → Prog Op Res (Except ε β)}
    (yields : p.Yields (Unless good))
    (rest : ∀ value, good value → (f value).Yields (Unless good')) :
    (p.andThen f).Yields (Unless good') := by
  apply yields.bind
  intro result fine
  cases result with
  | ok value => exact rest value (fine value rfl)
  | error error => exact unless_error

theorem Prog.yields_unless {ε : Type*} (p : Prog Op Res (Except ε α)) :
    p.Yields (Unless fun _ => True) := by
  induction p with
  | pure value => exact fun _ _ => trivial
  | step op next ih => exact fun answer => ih answer

theorem Pact.amid_yields {world : Who → World Op Res σ} {outside : σ → σ → Prop}
    {pact : Pact world outside} {who : Who} {good : α → Prop} {post : α → σ → Prop}
    {p : Prog Op Res α} {s : σ} (yields : p.Yields good) (holds : pact.amid who p post s) :
    pact.amid who p (fun value t => good value ∧ post value t) s := by
  induction p generalizing s with
  | pure value => exact fun t kept inv => ⟨yields, holds t kept inv⟩
  | step op next ih =>
      intro t kept inv
      obtain ⟨allowed, rest⟩ := holds t kept inv
      exact ⟨allowed, fun answer t' here => ih answer (yields answer) (rest answer t' here)⟩

theorem Returns.ahead {ε : Type*} {p : Prog Op Res (Except ε α)} {trace : Trace Op Res}
    {value : α} (here : Returns p trace (.ok value)) (f : α → Prog Op Res (Except ε β)) :
    ∃ left, Leads (p.andThen f) trace left := by
  have leads := here.leads_andThen (.refl (f value))
  rw [List.append_nil] at leads
  exact ⟨_, leads⟩

/-! ## Traces under other names -/

section Names
variable {Op' : Type u} {Res' : Op' → Type v}

/-- The operations of a trace under other names. -/
def Trace.renamed (name : Op → Op') (write : ∀ op, Res op → Res' (name op))
    (trace : Trace Op Res) : Trace Op' Res' :=
  trace.map fun event => ⟨name event.1, write event.1 event.2⟩

theorem Leads.relabel {name : Op → Op'} {read : ∀ op, Res' (name op) → Res op}
    {write : ∀ op, Res op → Res' (name op)} (same : ∀ op answer, read op (write op answer) = answer)
    {p left : Prog Op Res α} {trace : Trace Op Res} (leads : Leads p trace left) :
    Leads (p.relabel name read) (trace.renamed name write) (left.relabel name read) := by
  induction leads with
  | refl p => exact .refl _
  | @step op next answer trace left later ih =>
      refine .step ?_
      rw [same]
      exact ih

end Names

end JunosMcp.Lib
