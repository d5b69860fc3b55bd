import Mathlib.Logic.Basic

/-!
# Interaction programs

A program is a tree: it stops with a value, or performs an operation and goes on from the answer.
`Returns` says which values it can stop with along a trace of answered operations, and `wp` is the
weakest precondition of a postcondition for every behaviour of the world. It is taken under a
watch: what must hold after every operation, and what the caller may stop waiting in.
-/

namespace JunosMcp.Lib

universe u v w

inductive Prog (Op : Type u) (Res : Op → Type v) (α : Type w) where
  | pure (value : α)
  | step (op : Op) (next : Res op → Prog Op Res α)

variable {Op : Type u} {Res : Op → Type v} {α β : Type w}

namespace Prog

def bind : Prog Op Res α → (α → Prog Op Res β) → Prog Op Res β
  | .pure value, f => f value
  | .step op next, f => .step op fun answer => (next answer).bind f

@[simp] theorem pure_bind (value : α) (f : α → Prog Op Res β) :
    (Prog.pure value : Prog Op Res α).bind f = f value := rfl

@[simp] theorem step_bind (op : Op) (next : Res op → Prog Op Res α) (f : α → Prog Op Res β) :
    (Prog.step op next).bind f = .step op fun answer => (next answer).bind f := rfl

instance : Monad (Prog Op Res) where
  pure := Prog.pure
  bind := Prog.bind

@[simp] theorem pure_eq (value : α) : (Pure.pure value : Prog Op Res α) = .pure value := rfl

@[simp] theorem bind_eq (p : Prog Op Res α) (f : α → Prog Op Res β) : p >>= f = p.bind f := rfl

theorem bind_assoc {γ : Type w} (p : Prog Op Res α) (f : α → Prog Op Res β)
    (g : β → Prog Op Res γ) : (p.bind f).bind g = p.bind fun value => (f value).bind g := by
  induction p with
  | pure value => rfl
  | step op next ih => simp only [step_bind, ih]

/-- The `?` operator: an error ends the program, a value goes on. -/
def andThen {ε : Type*} (p : Prog Op Res (Except ε α)) (f : α → Prog Op Res (Except ε β)) :
    Prog Op Res (Except ε β) :=
  p.bind fun
    | .ok value => f value
    | .error error => .pure (.error error)

theorem andThen_assoc {ε γ : Type w} (p : Prog Op Res (Except ε α))
    (f : α → Prog Op Res (Except ε β)) (g : β → Prog Op Res (Except ε γ)) :
    (p.andThen f).andThen g = p.andThen fun value => (f value).andThen g := by
  rw [andThen, andThen, bind_assoc]
  congr 1
  funext result
  cases result <;> rfl

/-- Every operation the program can come to perform is allowed. -/
def Performs (allowed : Op → Prop) : Prog Op Res α → Prop
  | .pure _ => True
  | .step op next => allowed op ∧ ∀ answer, (next answer).Performs allowed

theorem performs_step {allowed : Op → Prop} {op : Op} {next : Res op → Prog Op Res α} :
    (Prog.step op next).Performs allowed ↔
      allowed op ∧ ∀ answer, (next answer).Performs allowed := Iff.rfl

theorem Performs.mono {allowed allowed' : Op → Prop} (wider : ∀ op, allowed op → allowed' op) :
    ∀ {p : Prog Op Res α}, p.Performs allowed → p.Performs allowed'
  | .pure _, _ => trivial
  | .step op _, performs => ⟨wider op performs.1, fun answer => (performs.2 answer).mono wider⟩

theorem Performs.and {allowed allowed' : Op → Prop} :
    ∀ {p : Prog Op Res α}, p.Performs allowed → p.Performs allowed' →
      p.Performs fun op => allowed op ∧ allowed' op
  | .pure _, _, _ => trivial
  | .step _ _, first, second =>
      ⟨⟨first.1, second.1⟩, fun answer => (first.2 answer).and (second.2 answer)⟩

theorem performs_all {ι : Type*} {allowed : ι → Op → Prop} :
    ∀ {p : Prog Op Res α}, (∀ i, p.Performs (allowed i)) → p.Performs fun op => ∀ i, allowed i op
  | .pure _, _ => trivial
  | .step _ _, performs =>
      ⟨fun i => (performs i).1, fun answer => performs_all fun i => (performs i).2 answer⟩

theorem performs_any : ∀ p : Prog Op Res α, p.Performs fun _ => True
  | .pure _ => trivial
  | .step _ next => ⟨trivial, fun answer => (next answer).performs_any⟩

end Prog

/-! ## Traces -/

abbrev Trace (Op : Type u) (Res : Op → Type v) := List (Σ op, Res op)

/-- The program stops with the value after exactly these answers. -/
inductive Returns : Prog Op Res α → Trace Op Res → α → Prop where
  | pure (value : α) : Returns (.pure value) [] value
  | step {op : Op} {next : Res op → Prog Op Res α} {answer : Res op} {trace : Trace Op Res}
      {value : α} :
      Returns (next answer) trace value → Returns (.step op next) (⟨op, answer⟩ :: trace) value

theorem returns_pure {value result : α} {trace : Trace Op Res} :
    Returns (.pure value) trace result ↔ trace = [] ∧ result = value := by
  constructor
  · intro returns
    cases returns
    exact ⟨rfl, rfl⟩
  · rintro ⟨rfl, rfl⟩
    exact .pure _

theorem returns_step {op : Op} {next : Res op → Prog Op Res α} {trace : Trace Op Res}
    {result : α} :
    Returns (.step op next) trace result ↔
      ∃ answer rest, trace = ⟨op, answer⟩ :: rest ∧ Returns (next answer) rest result := by
  constructor
  · intro returns
    cases returns with
    | step rest => exact ⟨_, _, rfl, rest⟩
  · rintro ⟨answer, rest, rfl, returns⟩
    exact .step returns

theorem returns_bind {p : Prog Op Res α} {f : α → Prog Op Res β} {trace : Trace Op Res}
    {result : β} :
    Returns (p.bind f) trace result ↔
      ∃ first second value, trace = first ++ second ∧ Returns p first value ∧
        Returns (f value) second result := by
  induction p generalizing trace with
  | pure value =>
      constructor
      · intro returns
        exact ⟨[], trace, value, rfl, .pure value, returns⟩
      · rintro ⟨first, second, middle, rfl, returns, rest⟩
        obtain ⟨rfl, rfl⟩ := returns_pure.mp returns
        exact rest
  | step op next ih =>
      rw [Prog.step_bind, returns_step]
      constructor
      · rintro ⟨answer, rest, rfl, returns⟩
        obtain ⟨first, second, value, rfl, here, later⟩ := (ih answer).mp returns
        exact ⟨⟨op, answer⟩ :: first, second, value, rfl, .step here, later⟩
      · rintro ⟨first, second, value, rfl, here, later⟩
        obtain ⟨answer, rest, rfl, inner⟩ := returns_step.mp here
        exact ⟨answer, rest ++ second, rfl, (ih answer).mpr ⟨rest, second, value, rfl, inner, later⟩⟩

/-- What is left of a program after these answers. -/
inductive Leads : Prog Op Res α → Trace Op Res → Prog Op Res α → Prop where
  | refl (p : Prog Op Res α) : Leads p [] p
  | step {op : Op} {next : Res op → Prog Op Res α} {answer : Res op} {trace : Trace Op Res}
      {left : Prog Op Res α} :
      Leads (next answer) trace left → Leads (.step op next) (⟨op, answer⟩ :: trace) left

theorem leads_nil {p left : Prog Op Res α} : Leads p [] left ↔ left = p := by
  constructor
  · intro leads
    cases leads
    rfl
  · rintro rfl
    exact .refl _

theorem leads_cons {op : Op} {answer : Res op} {trace : Trace Op Res} {p left : Prog Op Res α} :
    Leads p (⟨op, answer⟩ :: trace) left ↔
      ∃ next : Res op → Prog Op Res α, p = .step op next ∧ Leads (next answer) trace left := by
  constructor
  · intro leads
    cases leads with
    | step rest => exact ⟨_, rfl, rest⟩
  · rintro ⟨next, rfl, rest⟩
    exact .step rest

theorem Leads.returns {p left : Prog Op Res α} {trace : Trace Op Res} {value : α}
    (leads : Leads p trace left) (stopped : left = .pure value) : Returns p trace value := by
  induction leads with
  | refl p =>
      subst stopped
      exact .pure value
  | step _ ih => exact .step (ih stopped)

/-- One more answer. -/
theorem Leads.snoc {p : Prog Op Res α} {trace : Trace Op Res} {op : Op}
    {next : Res op → Prog Op Res α} (leads : Leads p trace (.step op next)) (answer : Res op) :
    Leads p (trace ++ [⟨op, answer⟩]) (next answer) := by
  generalize stopped : Prog.step op next = left at leads
  induction leads with
  | refl p =>
      subst stopped
      exact .step (.refl _)
  | step _ ih => exact .step (ih stopped)

theorem Leads.append {p middle left : Prog Op Res α} {first second : Trace Op Res}
    (leads : Leads p first middle) (rest : Leads middle second left) :
    Leads p (first ++ second) left := by
  induction leads with
  | refl p => exact rest
  | step _ ih => exact .step (ih rest)

theorem Leads.bind {p left : Prog Op Res α} {trace : Trace Op Res} (leads : Leads p trace left)
    (f : α → Prog Op Res β) : Leads (p.bind f) trace (left.bind f) := by
  induction leads with
  | refl p => exact .refl _
  | step _ ih => exact .step ih

/-- The first part stops, and the rest goes on for a while. -/
theorem Returns.leads {p : Prog Op Res α} {f : α → Prog Op Res β} {first second : Trace Op Res}
    {value : α} {left : Prog Op Res β} (here : Returns p first value)
    (rest : Leads (f value) second left) : Leads (p.bind f) (first ++ second) left := by
  induction here with
  | pure value => exact rest
  | step _ ih => exact .step (ih rest)

theorem Returns.leads_andThen {ε : Type*} {p : Prog Op Res (Except ε α)}
    {f : α → Prog Op Res (Except ε β)} {first second : Trace Op Res} {value : α}
    {left : Prog Op Res (Except ε β)} (here : Returns p first (.ok value))
    (rest : Leads (f value) second left) : Leads (p.andThen f) (first ++ second) left :=
  here.leads rest

theorem Prog.Performs.bind {allowed : Op → Prop} {p : Prog Op Res α} {f : α → Prog Op Res β}
    (first : p.Performs allowed) (rest : ∀ value, (f value).Performs allowed) :
    (p.bind f).Performs allowed := by
  induction p with
  | pure value => exact rest value
  | step op next ih => exact ⟨first.1, fun answer => ih answer (first.2 answer)⟩

theorem Prog.Performs.andThen {ε : Type*} {allowed : Op → Prop} {p : Prog Op Res (Except ε α)}
    {f : α → Prog Op Res (Except ε β)} (first : p.Performs allowed)
    (rest : ∀ value, (f value).Performs allowed) : (p.andThen f).Performs allowed := by
  apply first.bind
  intro result
  cases result with
  | ok value => exact rest value
  | error error => trivial

theorem returns_andThen_ok {ε : Type*} {p : Prog Op Res (Except ε α)}
    {f : α → Prog Op Res (Except ε β)} {first second : Trace Op Res} {value : α}
    {result : Except ε β} (here : Returns p first (.ok value))
    (rest : Returns (f value) second result) : Returns (p.andThen f) (first ++ second) result :=
  returns_bind.mpr ⟨first, second, .ok value, rfl, here, rest⟩

/-- Either the first part ends with an error, or the rest goes on from its value. -/
theorem returns_andThen {ε : Type*} {p : Prog Op Res (Except ε α)}
    {f : α → Prog Op Res (Except ε β)} {trace : Trace Op Res} {result : Except ε β} :
    Returns (p.andThen f) trace result ↔
      (∃ error, Returns p trace (.error error) ∧ result = .error error) ∨
      ∃ first second value, trace = first ++ second ∧ Returns p first (.ok value) ∧
        Returns (f value) second result := by
  constructor
  · intro returns
    obtain ⟨first, second, value, rfl, here, rest⟩ := returns_bind.mp returns
    cases value with
    | ok value => exact .inr ⟨first, second, value, rfl, here, rest⟩
    | error error =>
        obtain ⟨rfl, rfl⟩ := returns_pure.mp rest
        rw [List.append_nil]
        exact .inl ⟨error, here, rfl⟩
  · rintro (⟨error, here, rfl⟩ | ⟨first, second, value, rfl, here, rest⟩)
    · exact returns_bind.mpr ⟨trace, [], .error error, (List.append_nil _).symm, here, .pure _⟩
    · exact returns_andThen_ok here rest

theorem Returns.of_andThen {ε : Type*} {p : Prog Op Res (Except ε α)}
    {f : α → Prog Op Res (Except ε β)} {trace : Trace Op Res} {result : β}
    (returns : Returns (p.andThen f) trace (.ok result)) :
    ∃ first second value, trace = first ++ second ∧ Returns p first (.ok value) ∧
      Returns (f value) second (.ok result) := by
  obtain ⟨first, second, value, rfl, here, rest⟩ := returns_bind.mp returns
  cases value with
  | ok value => exact ⟨first, second, value, rfl, here, rest⟩
  | error error =>
      obtain ⟨_, same⟩ := returns_pure.mp rest
      cases same

/-- The run against a world that answers each operation in one way. -/
def Prog.play (answers : (op : Op) → Res op) : Prog Op Res α → Trace Op Res × α
  | .pure value => ([], value)
  | .step op next =>
      let rest := (next (answers op)).play answers
      (⟨op, answers op⟩ :: rest.1, rest.2)

theorem returns_play (answers : (op : Op) → Res op) (p : Prog Op Res α) :
    Returns p (p.play answers).1 (p.play answers).2 := by
  induction p with
  | pure value => exact .pure value
  | step op next ih => exact .step (ih (answers op))

/-- Some run goes to the end, whatever the world is. -/
theorem exists_returns [answers : ∀ op, Nonempty (Res op)] (p : Prog Op Res α) :
    ∃ trace value, Returns p trace value := by
  induction p with
  | pure value => exact ⟨[], value, .pure value⟩
  | step op next ih =>
      obtain ⟨answer⟩ := answers op
      obtain ⟨trace, value, returns⟩ := ih answer
      exact ⟨⟨op, answer⟩ :: trace, value, .step returns⟩

/-- A run of the first part goes on to some end. -/
theorem Returns.continues [∀ op, Nonempty (Res op)] {p : Prog Op Res α} {first : Trace Op Res}
    {value : α} (here : Returns p first value) (f : α → Prog Op Res β) :
    ∃ second result, Returns (p.bind f) (first ++ second) result := by
  obtain ⟨second, result, rest⟩ := exists_returns (f value)
  exact ⟨second, result, returns_bind.mpr ⟨first, second, value, rfl, here, rest⟩⟩

theorem Returns.allowed {allowed : Op → Prop} {p : Prog Op Res α} {trace : Trace Op Res}
    {value : α} (returns : Returns p trace value) (performs : p.Performs allowed) :
    ∀ event ∈ trace, allowed event.1 := by
  induction returns with
  | pure value => simp
  | step _ ih =>
      intro event member
      rcases List.mem_cons.mp member with rfl | later
      · exact performs.1
      · exact ih (performs.2 _) event later

theorem Returns.any_eq_false {allowed : Op → Prop} {test : (Σ op, Res op) → Bool}
    {p : Prog Op Res α} {trace : Trace Op Res} {value : α} (returns : Returns p trace value)
    (performs : p.Performs allowed) (silent : ∀ event, allowed event.1 → test event = false) :
    trace.any test = false := by
  rw [List.any_eq_false]
  intro event member shown
  rw [silent event (returns.allowed performs event member)] at shown
  cases shown

/-- What the program has performed when it stops or is cut off. -/
inductive Performed : Prog Op Res α → List Op → Prop where
  | cut (p : Prog Op Res α) : Performed p []
  | step {op : Op} {next : Res op → Prog Op Res α} {ops : List Op} (answer : Res op) :
      Performed (next answer) ops → Performed (.step op next) (op :: ops)

theorem Performed.allowed {allowed : Op → Prop} {p : Prog Op Res α} {ops : List Op}
    (performed : Performed p ops) (performs : p.Performs allowed) : ∀ op ∈ ops, allowed op := by
  induction performed with
  | cut p => nofun
  | step _ _ ih =>
      intro found member
      rcases List.mem_cons.mp member with rfl | later
      · exact performs.1
      · exact ih (performs.2 _) found later

/-- Where the first part cannot perform what is looked for, it is found in the rest. -/
theorem Returns.past {mark : Op → Prop} {p : Prog Op Res α} {f : α → Prog Op Res β}
    {trace : Trace Op Res} {result : β} (returns : Returns (p.bind f) trace result)
    (unmarked : p.Performs fun op => ¬mark op) (marked : ∃ event ∈ trace, mark event.1) :
    ∃ first second value, trace = first ++ second ∧ Returns p first value ∧
      Returns (f value) second result ∧ ∃ event ∈ second, mark event.1 := by
  obtain ⟨first, second, value, rfl, here, rest⟩ := returns_bind.mp returns
  obtain ⟨event, member, is⟩ := marked
  rcases List.mem_append.mp member with early | late
  · exact absurd is (here.allowed unmarked event early)
  · exact ⟨first, second, value, rfl, here, rest, event, late, is⟩

theorem Returns.past_andThen {ε : Type*} {mark : Op → Prop} {p : Prog Op Res (Except ε α)}
    {f : α → Prog Op Res (Except ε β)} {trace : Trace Op Res} {result : Except ε β}
    (returns : Returns (p.andThen f) trace result)
    (unmarked : p.Performs fun op => ¬mark op) (marked : ∃ event ∈ trace, mark event.1) :
    ∃ first second value, trace = first ++ second ∧ Returns p first (.ok value) ∧
      Returns (f value) second result ∧ ∃ event ∈ second, mark event.1 := by
  obtain ⟨first, second, value, rfl, here, rest, marked⟩ := Returns.past returns unmarked marked
  cases value with
  | ok value => exact ⟨first, second, value, rfl, here, rest, marked⟩
  | error error =>
      obtain ⟨rfl, _⟩ := returns_pure.mp rest
      obtain ⟨event, member, _⟩ := marked
      cases member

/-- The place of the only marked event of a list. -/
theorem append_cons_unique {γ : Type*} (mark : γ → Prop) {a b a' b' : List γ} {x x' : γ}
    (same : a ++ x :: b = a' ++ x' :: b') (is : mark x) (before : ∀ y ∈ a', ¬mark y)
    (after : ∀ y ∈ b', ¬mark y) : a = a' ∧ x = x' ∧ b = b' := by
  rcases List.append_eq_append_iff.mp same with ⟨gap, rfl, tail⟩ | ⟨gap, rfl, tail⟩
  · cases gap with
    | nil =>
        cases tail
        exact ⟨(List.append_nil _).symm, rfl, rfl⟩
    | cons y gap =>
        cases tail
        exact absurd is (before x (List.mem_append_right _ List.mem_cons_self))
  · cases gap with
    | nil =>
        cases tail
        exact ⟨List.append_nil _, rfl, rfl⟩
    | cons y gap =>
        cases tail
        exact absurd is (after x (List.mem_append_right _ List.mem_cons_self))

/-! ## The world -/

/-- How the world changes when an operation is answered, and when its caller stops waiting. -/
structure World (Op : Type u) (Res : Op → Type v) (σ : Type*) where
  answered : σ → (op : Op) → Res op → σ → Prop
  abandoned : σ → Op → σ → Prop

variable {σ : Type*}

/-- The states the world goes through along a trace. -/
inductive Follows (world : World Op Res σ) : σ → Trace Op Res → σ → Prop where
  | refl (s : σ) : Follows world s [] s
  | step {s s' s'' : σ} {op : Op} {answer : Res op} {trace : Trace Op Res} :
      world.answered s op answer s' → Follows world s' trace s'' →
      Follows world s (⟨op, answer⟩ :: trace) s''

theorem follows_nil {world : World Op Res σ} {s s' : σ} : Follows world s [] s' ↔ s' = s := by
  constructor
  · intro follows
    cases follows
    rfl
  · rintro rfl
    exact .refl _

theorem follows_cons {world : World Op Res σ} {s s'' : σ} {op : Op} {answer : Res op}
    {trace : Trace Op Res} :
    Follows world s (⟨op, answer⟩ :: trace) s'' ↔
      ∃ s', world.answered s op answer s' ∧ Follows world s' trace s'' := by
  constructor
  · intro follows
    cases follows with
    | step here rest => exact ⟨_, here, rest⟩
  · rintro ⟨s', here, rest⟩
    exact .step here rest

theorem follows_append {world : World Op Res σ} {s s'' : σ} {first second : Trace Op Res} :
    Follows world s (first ++ second) s'' ↔
      ∃ s', Follows world s first s' ∧ Follows world s' second s'' := by
  induction first generalizing s with
  | nil => simp [follows_nil]
  | cons event first ih =>
      obtain ⟨op, answer⟩ := event
      simp only [List.cons_append, follows_cons, ih]
      constructor
      · rintro ⟨middle, here, s', rest, later⟩
        exact ⟨s', ⟨middle, here, rest⟩, later⟩
      · rintro ⟨s', ⟨middle, here, rest⟩, later⟩
        exact ⟨middle, here, s', rest, later⟩

/-- A complete run: the program stops with the value and the world has followed. -/
def Runs (world : World Op Res σ) (s : σ) (p : Prog Op Res α) (trace : Trace Op Res) (value : α)
    (s' : σ) : Prop :=
  Returns p trace value ∧ Follows world s trace s'

theorem runs_pure {world : World Op Res σ} {s s' : σ} {value result : α} {trace : Trace Op Res} :
    Runs world s (.pure value) trace result s' ↔ trace = [] ∧ result = value ∧ s' = s := by
  rw [Runs, returns_pure]
  constructor
  · rintro ⟨⟨rfl, same⟩, follows⟩
    exact ⟨rfl, same, follows_nil.mp follows⟩
  · rintro ⟨rfl, same, rfl⟩
    exact ⟨⟨rfl, same⟩, .refl _⟩

theorem runs_step {world : World Op Res σ} {s s'' : σ} {op : Op} {next : Res op → Prog Op Res α}
    {trace : Trace Op Res} {result : α} :
    Runs world s (.step op next) trace result s'' ↔
      ∃ answer rest s', trace = ⟨op, answer⟩ :: rest ∧ world.answered s op answer s' ∧
        Runs world s' (next answer) rest result s'' := by
  rw [Runs, returns_step]
  constructor
  · rintro ⟨⟨answer, rest, rfl, returns⟩, follows⟩
    obtain ⟨s', here, later⟩ := follows_cons.mp follows
    exact ⟨answer, rest, s', rfl, here, returns, later⟩
  · rintro ⟨answer, rest, s', rfl, here, returns, later⟩
    exact ⟨⟨answer, rest, rfl, returns⟩, .step here later⟩

theorem runs_bind {world : World Op Res σ} {s s'' : σ} {p : Prog Op Res α}
    {f : α → Prog Op Res β} {trace : Trace Op Res} {result : β} :
    Runs world s (p.bind f) trace result s'' ↔
      ∃ first second value s', trace = first ++ second ∧ Runs world s p first value s' ∧
        Runs world s' (f value) second result s'' := by
  rw [Runs, returns_bind]
  constructor
  · rintro ⟨⟨first, second, value, rfl, here, later⟩, follows⟩
    obtain ⟨s', early, late⟩ := follows_append.mp follows
    exact ⟨first, second, value, s', rfl, ⟨here, early⟩, later, late⟩
  · rintro ⟨first, second, value, s', rfl, ⟨here, early⟩, later, late⟩
    exact ⟨⟨first, second, value, rfl, here, later⟩, follows_append.mpr ⟨s', early, late⟩⟩

theorem Runs.andThen {ε : Type*} {world : World Op Res σ} {s s' s'' : σ}
    {p : Prog Op Res (Except ε α)} {f : α → Prog Op Res (Except ε β)} {first second : Trace Op Res}
    {value : α} {result : Except ε β} (here : Runs world s p first (.ok value) s')
    (rest : Runs world s' (f value) second result s'') :
    Runs world s (p.andThen f) (first ++ second) result s'' :=
  ⟨returns_andThen_ok here.1 rest.1, follows_append.mpr ⟨s', here.2, rest.2⟩⟩

/-- The world in which every step keeps a promise; `none` stands for the lost answer. -/
def World.restrict (world : World Op Res σ) (promise : σ → (op : Op) → Option (Res op) → σ → Prop) :
    World Op Res σ where
  answered s op answer s' := world.answered s op answer s' ∧ promise s op (some answer) s'
  abandoned s op s' := world.abandoned s op s' ∧ promise s op none s'

theorem Follows.of_restrict {world : World Op Res σ}
    {promise : σ → (op : Op) → Option (Res op) → σ → Prop} {s s' : σ} {trace : Trace Op Res}
    (follows : Follows (world.restrict promise) s trace s') : Follows world s trace s' := by
  induction follows with
  | refl s => exact .refl s
  | step here _ ih => exact .step here.1 ih

theorem Follows.restrict {world : World Op Res σ}
    {promise : σ → (op : Op) → Option (Res op) → σ → Prop} {s s' : σ} {trace : Trace Op Res}
    (follows : Follows world s trace s') (kept : ∀ s op answer s', promise s op answer s') :
    Follows (world.restrict promise) s trace s' := by
  induction follows with
  | refl s => exact .refl s
  | step here _ ih => exact .step ⟨here, kept _ _ _ _⟩ ih

/-! ## Weakest preconditions -/

structure Watch (σ : Type*) where
  always : σ → Prop
  cut : σ → Prop

/-- Every behaviour of the world ends in `post`, under the watch. -/
def wp (world : World Op Res σ) (watch : Watch σ) :
    Prog Op Res α → (α → σ → Prop) → σ → Prop
  | .pure value, post, s => post value s
  | .step op next, post, s =>
      (∀ answer s', world.answered s op answer s' →
        watch.always s' ∧ wp world watch (next answer) post s') ∧
      ∀ s', world.abandoned s op s' → watch.always s' ∧ watch.cut s'

section Rules
variable {world : World Op Res σ} {watch : Watch σ}

@[simp] theorem wp_pure {value : α} {post : α → σ → Prop} {s : σ} :
    wp world watch (.pure value) post s ↔ post value s := Iff.rfl

theorem wp_step {op : Op} {next : Res op → Prog Op Res α} {post : α → σ → Prop} {s : σ} :
    wp world watch (.step op next) post s ↔
      (∀ answer s', world.answered s op answer s' →
        watch.always s' ∧ wp world watch (next answer) post s') ∧
      ∀ s', world.abandoned s op s' → watch.always s' ∧ watch.cut s' := Iff.rfl

theorem wp_bind {p : Prog Op Res α} {f : α → Prog Op Res β} {post : β → σ → Prop} {s : σ} :
    wp world watch (p.bind f) post s ↔
      wp world watch p (fun value => wp world watch (f value) post) s := by
  induction p generalizing s with
  | pure value => exact Iff.rfl
  | step op next ih => simp only [Prog.step_bind, wp_step, ih]

theorem wp_mono {p : Prog Op Res α} {post post' : α → σ → Prop} {watch' : Watch σ} {s : σ}
    (holds : wp world watch p post s) (onReturn : ∀ value s', post value s' → post' value s')
    (onStep : ∀ s', watch.always s' → watch'.always s')
    (onCut : ∀ s', watch.cut s' → watch'.cut s') : wp world watch' p post' s := by
  induction p generalizing s with
  | pure value => exact onReturn _ _ holds
  | step op next ih =>
      constructor
      · intro answer s' here
        obtain ⟨safe, rest⟩ := holds.1 answer s' here
        exact ⟨onStep s' safe, ih answer rest⟩
      · intro s' here
        obtain ⟨safe, cut⟩ := holds.2 s' here
        exact ⟨onStep s' safe, onCut s' cut⟩

theorem wp_then {p : Prog Op Res α} {f : α → Prog Op Res β} {inv : α → σ → Prop}
    {post : β → σ → Prop} {s : σ} (first : wp world watch p inv s)
    (rest : ∀ value s', inv value s' → wp world watch (f value) post s') :
    wp world watch (p.bind f) post s :=
  wp_bind.mpr (wp_mono first rest (fun _ safe => safe) fun _ cut => cut)

theorem wp_andThen {ε : Type*} {p : Prog Op Res (Except ε α)} {f : α → Prog Op Res (Except ε β)}
    {inv : Except ε α → σ → Prop} {post : Except ε β → σ → Prop} {s : σ}
    (first : wp world watch p inv s)
    (failed : ∀ error s', inv (.error error) s' → post (.error error) s')
    (rest : ∀ value s', inv (.ok value) s' → wp world watch (f value) post s') :
    wp world watch (p.andThen f) post s := by
  refine wp_then first fun result s' holds => ?_
  cases result with
  | ok value => exact rest value s' holds
  | error error => exact failed error s' holds

/-- The invariant rule: what every allowed operation keeps, the program keeps. -/
theorem wp_invariant {allowed : Op → Prop} {inv : σ → Prop} {p : Prog Op Res α} {s : σ}
    (performs : p.Performs allowed) (start : inv s)
    (kept : ∀ s op answer s', allowed op → inv s → world.answered s op answer s' →
      watch.always s' ∧ inv s')
    (cut : ∀ s op s', allowed op → inv s → world.abandoned s op s' →
      watch.always s' ∧ watch.cut s') :
    wp world watch p (fun _ => inv) s := by
  induction p generalizing s with
  | pure value => exact start
  | step op next ih =>
      constructor
      · intro answer s' here
        obtain ⟨safe, still⟩ := kept s op answer s' performs.1 start here
        exact ⟨safe, ih answer (performs.2 answer) still⟩
      · intro s' here
        exact cut s op s' performs.1 start here

theorem wp_runs {p : Prog Op Res α} {post : α → σ → Prop} {trace : Trace Op Res} {value : α}
    {s s' : σ} (holds : wp world watch p post s) (runs : Runs world s p trace value s') :
    post value s' := by
  obtain ⟨returns, follows⟩ := runs
  induction returns generalizing s with
  | pure value =>
      obtain rfl := follows_nil.mp follows
      exact holds
  | step _ ih =>
      obtain ⟨middle, here, later⟩ := follows_cons.mp follows
      exact ih (holds.1 _ middle here).2 later

/-- A state on the way of some run. -/
def Visits (world : World Op Res σ) (s : σ) (p : Prog Op Res α) (s' : σ) : Prop :=
  ∃ trace left, Leads p trace left ∧ Follows world s trace s'

theorem Runs.visits {p : Prog Op Res α} {trace : Trace Op Res} {value : α} {s s' : σ}
    (runs : Runs world s p trace value s') : Visits world s p s' := by
  obtain ⟨returns, follows⟩ := runs
  refine ⟨trace, .pure value, ?_, follows⟩
  clear follows
  induction returns with
  | pure value => exact .refl _
  | step _ ih => exact .step ih

theorem wp_visits {p : Prog Op Res α} {post : α → σ → Prop} {s s' : σ}
    (holds : wp world watch p post s) (start : watch.always s)
    (visits : Visits world s p s') : watch.always s' := by
  obtain ⟨trace, left, leads, follows⟩ := visits
  induction leads generalizing s with
  | refl p =>
      obtain rfl := follows_nil.mp follows
      exact start
  | step _ ih =>
      obtain ⟨middle, here, later⟩ := follows_cons.mp follows
      obtain ⟨safe, rest⟩ := holds.1 _ middle here
      exact ih rest safe later

end Rules

/-! ## Operations under other names -/

/-- The program on another signature, one operation for one. -/
def Prog.relabel {Op' : Type u} {Res' : Op' → Type v} (name : Op → Op')
    (read : ∀ op, Res' (name op) → Res op) : Prog Op Res α → Prog Op' Res' α
  | .pure value => .pure value
  | .step op next => .step (name op) fun answer => (next (read op answer)).relabel name read

theorem Prog.Performs.relabel {Op' : Type u} {Res' : Op' → Type v} {allowed : Op' → Prop}
    {name : Op → Op'} {read : ∀ op, Res' (name op) → Res op} {p : Prog Op Res α}
    (performs : p.Performs fun op => allowed (name op)) :
    (p.relabel name read).Performs allowed := by
  induction p with
  | pure value => trivial
  | step op next ih => exact ⟨performs.1, fun answer => ih _ (performs.2 _)⟩

/-- The world as the program sees it through the names. -/
def World.pull {Op' : Type u} {Res' : Op' → Type v} (world : World Op' Res' σ) (name : Op → Op')
    (read : ∀ op, Res' (name op) → Res op) : World Op Res σ where
  answered s op answer s' := ∃ seen, read op seen = answer ∧ world.answered s (name op) seen s'
  abandoned s op s' := world.abandoned s (name op) s'

theorem wp_relabel {Op' : Type u} {Res' : Op' → Type v} {world : World Op' Res' σ}
    {name : Op → Op'} {read : ∀ op, Res' (name op) → Res op} {watch : Watch σ}
    {p : Prog Op Res α} {post : α → σ → Prop} {s : σ} :
    wp world watch (p.relabel name read) post s ↔ wp (world.pull name read) watch p post s := by
  induction p generalizing s with
  | pure value => exact Iff.rfl
  | step op next ih =>
      simp only [Prog.relabel, wp_step, World.pull, ih]
      constructor
      · rintro ⟨onAnswer, onCut⟩
        refine ⟨?_, onCut⟩
        rintro _ s' ⟨seen, rfl, here⟩
        exact onAnswer seen s' here
      · rintro ⟨onAnswer, onCut⟩
        exact ⟨fun seen s' here => onAnswer _ s' ⟨seen, rfl, here⟩, onCut⟩

end JunosMcp.Lib
