import JunosMcp.Lib.Program

/-!
# Interleavings

A program that runs while others work on the same state: its own answered operations and the events
of the environment, in any order.
-/

namespace JunosMcp.Lib

universe u v

variable {Op : Type u} {Res : Op → Type v} {Env σ : Type*}

inductive Moment (Op : Type u) (Res : Op → Type v) (Env : Type*) where
  | own (event : Σ op, Res op)
  | other (event : Env)

abbrev Interleaving (Op : Type u) (Res : Op → Type v) (Env : Type*) := List (Moment Op Res Env)

/-- What the program itself has seen. -/
def ownTrace : Interleaving Op Res Env → Trace Op Res
  | [] => []
  | .own event :: rest => event :: ownTrace rest
  | .other _ :: rest => ownTrace rest

theorem mem_ownTrace {history : Interleaving Op Res Env} {event : Σ op, Res op} :
    event ∈ ownTrace history ↔ .own event ∈ history := by
  induction history with
  | nil => simp [ownTrace]
  | cons moment rest ih => cases moment <;> simp [ownTrace, ih]

/-- The place of one own event in the whole history. -/
theorem ownTrace_split {history : Interleaving Op Res Env} {first second : Trace Op Res}
    {event : Σ op, Res op} (own : ownTrace history = first ++ event :: second) :
    ∃ before after, history = before ++ .own event :: after ∧ ownTrace before = first ∧
      ownTrace after = second := by
  induction history generalizing first with
  | nil => cases first <;> cases own
  | cons moment rest ih =>
      cases moment with
      | other event' =>
          obtain ⟨before, after, rfl, own, later⟩ := ih own
          exact ⟨.other event' :: before, after, rfl, own, later⟩
      | own event' =>
          cases first with
          | nil =>
              cases own
              exact ⟨[], rest, rfl, rfl, rfl⟩
          | cons head tail =>
              obtain ⟨same, tails⟩ := List.cons.inj own
              obtain ⟨before, after, rfl, own', later⟩ := ih tails
              refine ⟨.own event' :: before, after, rfl, ?_, later⟩
              rw [ownTrace, own', same]

/-- The states the world goes through while the environment acts in between. -/
inductive Woven (world : World Op Res σ) (env : σ → Env → σ → Prop) :
    σ → Interleaving Op Res Env → σ → Prop where
  | refl (s : σ) : Woven world env s [] s
  | own {s s' s'' : σ} {op : Op} {answer : Res op} {rest : Interleaving Op Res Env} :
      world.answered s op answer s' → Woven world env s' rest s'' →
      Woven world env s (.own ⟨op, answer⟩ :: rest) s''
  | other {s s' s'' : σ} {event : Env} {rest : Interleaving Op Res Env} :
      env s event s' → Woven world env s' rest s'' → Woven world env s (.other event :: rest) s''

section Rules
variable {world : World Op Res σ} {env : σ → Env → σ → Prop} {s s'' : σ}

theorem woven_own {op : Op} {answer : Res op} {rest : Interleaving Op Res Env} :
    Woven world env s (.own ⟨op, answer⟩ :: rest) s'' ↔
      ∃ s', world.answered s op answer s' ∧ Woven world env s' rest s'' := by
  constructor
  · intro woven
    cases woven with
    | own here later => exact ⟨_, here, later⟩
  · rintro ⟨s', here, later⟩
    exact .own here later

theorem woven_append {first second : Interleaving Op Res Env} :
    Woven world env s (first ++ second) s'' ↔
      ∃ s', Woven world env s first s' ∧ Woven world env s' second s'' := by
  constructor
  · intro woven
    induction first generalizing s with
    | nil => exact ⟨s, .refl s, woven⟩
    | cons moment first ih =>
        cases woven with
        | own here later =>
            obtain ⟨s', early, late⟩ := ih later
            exact ⟨s', .own here early, late⟩
        | other here later =>
            obtain ⟨s', early, late⟩ := ih later
            exact ⟨s', .other here early, late⟩
  · rintro ⟨s', early, late⟩
    induction early with
    | refl s => exact late
    | own here _ ih => exact .own here (ih late)
    | other here _ ih => exact .other here (ih late)

/-- What every moment keeps, the history keeps. -/
theorem Woven.invariant {history : Interleaving Op Res Env}
    (woven : Woven world env s history s'') (inv : σ → Prop) (start : inv s)
    (own : ∀ s op answer s', .own ⟨op, answer⟩ ∈ history → inv s → world.answered s op answer s' →
      inv s')
    (other : ∀ s event s', .other event ∈ history → inv s → env s event s' → inv s') : inv s'' := by
  induction woven with
  | refl s => exact start
  | own here _ ih =>
      refine ih (own _ _ _ _ List.mem_cons_self start here) ?_ ?_
      · exact fun s op answer s' member => own s op answer s' (List.mem_cons_of_mem _ member)
      · exact fun s event s' member => other s event s' (List.mem_cons_of_mem _ member)
  | other here _ ih =>
      refine ih (other _ _ _ List.mem_cons_self start here) ?_ ?_
      · exact fun s op answer s' member => own s op answer s' (List.mem_cons_of_mem _ member)
      · exact fun s event s' member => other s event s' (List.mem_cons_of_mem _ member)

/-! ## A register of the environment -/

/-- The program only reads. -/
def World.quiet : World Op Res σ where
  answered s _ _ s' := s' = s
  abandoned s _ s' := s' = s

/-- Some events write the register. -/
def Writing (effect : Env → Option σ) (s : σ) (event : Env) (s' : σ) : Prop :=
  s' = (effect event).getD s

def Untouched (effect : Env → Option σ) (history : Interleaving Op Res Env) : Prop :=
  ∀ event, .other event ∈ history → effect event = none

/-- The last write of the history writes the value. -/
def LastWrites (effect : Env → Option σ) (value : σ) (history : Interleaving Op Res Env) : Prop :=
  ∃ before event after, history = before ++ .other event :: after ∧ effect event = some value ∧
    Untouched effect after

variable {effect : Env → Option σ}

theorem LastWrites.cons {value : σ} {history : Interleaving Op Res Env}
    (last : LastWrites effect value history) (moment : Moment Op Res Env) :
    LastWrites effect value (moment :: history) := by
  obtain ⟨before, event, after, rfl, writes, untouched⟩ := last
  exact ⟨moment :: before, event, after, rfl, writes, untouched⟩

/-- The register holds what was written last. -/
theorem woven_register {history : Interleaving Op Res Env}
    (woven : Woven World.quiet (Writing effect) s history s'') :
    (s'' = s ∧ Untouched effect history) ∨ LastWrites effect s'' history := by
  induction woven with
  | refl s => exact .inl ⟨rfl, nofun⟩
  | own here rest ih =>
      cases here
      rcases ih with ⟨same, untouched⟩ | last
      · refine .inl ⟨same, fun event member => ?_⟩
        rcases List.mem_cons.mp member with other | later
        · cases other
        · exact untouched event later
      · exact .inr (last.cons _)
  | @other s s' s'' event rest here _ ih =>
      rcases ih with ⟨rfl, untouched⟩ | last
      · cases written : effect event with
        | none =>
            rw [Writing, written] at here
            refine .inl ⟨here, fun later member => ?_⟩
            rcases List.mem_cons.mp member with same | member
            · cases same
              exact written
            · exact untouched later member
        | some value =>
            rw [Writing, written] at here
            subst here
            exact .inr ⟨[], event, rest, rfl, written, untouched⟩
      · exact .inr (last.cons _)

/-- One history has one last write. -/
theorem LastWrites.unique {value value' : σ} {history : Interleaving Op Res Env}
    (last : LastWrites effect value history) (last' : LastWrites effect value' history) :
    value = value' := by
  obtain ⟨before, event, after, rfl, writes, untouched⟩ := last
  obtain ⟨before', event', after', same, writes', untouched'⟩ := last'
  rcases List.append_eq_append_iff.mp same with ⟨gap, rfl, tail⟩ | ⟨gap, rfl, tail⟩
  · cases gap with
    | nil =>
        cases tail
        exact Option.some.inj (writes.symm.trans writes')
    | cons moment gap =>
        cases tail
        have silent := untouched event' (List.mem_append_right _ List.mem_cons_self)
        rw [writes'] at silent
        cases silent
  · cases gap with
    | nil =>
        cases tail
        exact Option.some.inj (writes.symm.trans writes')
    | cons moment gap =>
        cases tail
        have silent := untouched' event (List.mem_append_right _ List.mem_cons_self)
        rw [writes] at silent
        cases silent

theorem LastWrites.touched {value : σ} {history : Interleaving Op Res Env}
    (last : LastWrites effect value history) : ¬Untouched effect history := by
  obtain ⟨before, event, after, rfl, writes, _⟩ := last
  intro untouched
  rw [untouched event (List.mem_append_right _ List.mem_cons_self)] at writes
  cases writes

theorem woven_register_iff {history : Interleaving Op Res Env} {value : σ}
    (woven : Woven World.quiet (Writing effect) s history s'') :
    s'' = value ↔ LastWrites effect value history ∨ (s = value ∧ Untouched effect history) := by
  rcases woven_register woven with ⟨rfl, untouched⟩ | last
  · constructor
    · intro same
      exact .inr ⟨same, untouched⟩
    · rintro (last | ⟨same, _⟩)
      · exact absurd untouched last.touched
      · exact same
  · constructor
    · rintro rfl
      exact .inl last
    · rintro (last' | ⟨_, untouched⟩)
      · exact last.unique last'
      · exact absurd untouched last.touched

end Rules

end JunosMcp.Lib
