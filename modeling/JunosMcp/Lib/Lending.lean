import JunosMcp.Lib.Program
import Mathlib.Logic.Function.Basic
import Mathlib.Logic.Relation

/-!
# Resources lent to programs

Each resource rests in a place or is in the hands of one program, which ends with the place it
leaves the resource in. A program whose caller stops waiting is replaced by the program that runs
when it is dropped. Any number of resources take their steps in any order.
-/

namespace JunosMcp.Lib

universe u v

variable {Op : Type u} {Res : Op → Type v} {Place σ : Type*}

inductive Slot (Op : Type u) (Res : Op → Type v) (Place : Type*) where
  | resting (place : Place)
  | busy (program onCut : Prog Op Res Place)

/-- A world, and which programs may take a resource from which place. -/
structure Lending (Op : Type u) (Res : Op → Type v) (Place σ : Type*) where
  world : World Op Res σ
  starts : Place → Prog Op Res Place → Prog Op Res Place → σ → σ → Prop

namespace Lending

/-- One step in the life of one resource. -/
inductive Step (lending : Lending Op Res Place σ) :
    Slot Op Res Place × σ → Slot Op Res Place × σ → Prop where
  | start {place : Place} {program onCut : Prog Op Res Place} {s s' : σ} :
      lending.starts place program onCut s s' →
      lending.Step (.resting place, s) (.busy program onCut, s')
  | answer {op : Op} {next : Res op → Prog Op Res Place} {onCut : Prog Op Res Place}
      {answer : Res op} {s s' : σ} :
      lending.world.answered s op answer s' →
      lending.Step (.busy (.step op next) onCut, s) (.busy (next answer) onCut, s')
  | cut {op : Op} {next : Res op → Prog Op Res Place} {onCut : Prog Op Res Place} {s s' : σ} :
      lending.world.abandoned s op s' →
      lending.Step (.busy (.step op next) onCut, s) (.busy onCut onCut, s')
  | finish {place : Place} {onCut : Prog Op Res Place} {s : σ} :
      lending.Step (.busy (.pure place) onCut, s) (.resting place, s)

variable {Id : Type*} [DecidableEq Id]

/-- One resource takes a step, the others stay as they are. -/
def SystemStep (lending : Lending Op Res Place σ) (before after : Id → Slot Op Res Place × σ) :
    Prop :=
  ∃ id next, lending.Step (before id) next ∧ after = Function.update before id next

def Reachable (lending : Lending Op Res Place σ) (start s : Id → Slot Op Res Place × σ) : Prop :=
  Relation.ReflTransGen lending.SystemStep start s

/-- The steps that keep a promise about every operation. -/
def restrict (lending : Lending Op Res Place σ)
    (promise : σ → (op : Op) → Option (Res op) → σ → Prop) : Lending Op Res Place σ :=
  { lending with world := lending.world.restrict promise }

theorem run_slot {lending : Lending Op Res Place σ} {program onCut : Prog Op Res Place}
    {trace : Trace Op Res} {place : Place} (returns : Returns program trace place) {s s' : σ}
    (follows : Follows lending.world s trace s') :
    Relation.ReflTransGen lending.Step (.busy program onCut, s) (.resting place, s') := by
  induction returns generalizing s with
  | pure place =>
      cases follows
      exact .single .finish
  | step _ ih =>
      obtain ⟨middle, here, rest⟩ := follows_cons.mp follows
      exact .head (.answer here) (ih rest)

theorem reachable_of_slot {lending : Lending Op Res Place σ}
    {start : Id → Slot Op Res Place × σ} {id : Id} {slot : Slot Op Res Place × σ}
    (reached : Relation.ReflTransGen lending.Step (start id) slot) :
    lending.Reachable start (Function.update start id slot) := by
  induction reached with
  | refl =>
      rw [Function.update_eq_self]
      exact .refl
  | @tail before after _ step ih =>
      refine .tail ih ⟨id, after, ?_, ?_⟩
      · rwa [Function.update_self]
      · rw [Function.update_idem]

/-- Every program gives back what the place it ends in calls for, whenever it is cut off. -/
structure Discipline (lending : Lending Op Res Place σ) (inv : Place → σ → Prop)
    (always : σ → Prop) : Prop where
  rest : ∀ {place s}, inv place s → always s
  starts : ∀ {place program onCut s s'}, inv place s →
    lending.starts place program onCut s s' →
    always s' ∧ ∃ cut, wp lending.world ⟨always, cut⟩ program inv s' ∧
      ∀ t, cut t → wp lending.world ⟨always, cut⟩ onCut inv t

def SlotInvariant (lending : Lending Op Res Place σ) (inv : Place → σ → Prop)
    (always : σ → Prop) : Slot Op Res Place × σ → Prop
  | (.resting place, s) => inv place s
  | (.busy program onCut, s) => always s ∧ ∃ cut, wp lending.world ⟨always, cut⟩ program inv s ∧
      ∀ t, cut t → wp lending.world ⟨always, cut⟩ onCut inv t

variable {lending : Lending Op Res Place σ} {inv : Place → σ → Prop} {always : σ → Prop}

theorem SlotInvariant.step (discipline : lending.Discipline inv always)
    {before after : Slot Op Res Place × σ} (holds : lending.SlotInvariant inv always before)
    (step : lending.Step before after) : lending.SlotInvariant inv always after := by
  cases step with
  | start starts => exact discipline.starts holds starts
  | answer here =>
      obtain ⟨_, cut, safe, onCut⟩ := holds
      obtain ⟨still, rest⟩ := safe.1 _ _ here
      exact ⟨still, cut, rest, onCut⟩
  | cut here =>
      obtain ⟨_, cut, safe, onCut⟩ := holds
      obtain ⟨still, dropped⟩ := safe.2 _ here
      exact ⟨still, cut, onCut _ dropped, onCut⟩
  | finish =>
      obtain ⟨_, cut, safe, _⟩ := holds
      exact safe

theorem SlotInvariant.reachable (discipline : lending.Discipline inv always)
    {start s : Id → Slot Op Res Place × σ}
    (initially : ∀ id, lending.SlotInvariant inv always (start id))
    (reached : lending.Reachable start s) (id : Id) :
    lending.SlotInvariant inv always (s id) := by
  induction reached generalizing id with
  | refl => exact initially id
  | @tail before after _ step ih =>
      obtain ⟨moved, next, step, rfl⟩ := step
      by_cases same : id = moved
      · subst same
        rw [Function.update_self]
        exact (ih id).step discipline step
      · rw [Function.update_of_ne same]
        exact ih id

theorem SlotInvariant.safe (discipline : lending.Discipline inv always)
    {slot : Slot Op Res Place × σ} (holds : lending.SlotInvariant inv always slot) :
    always slot.2 := by
  obtain ⟨slot, s⟩ := slot
  cases slot with
  | resting place => exact discipline.rest holds
  | busy program onCut => exact holds.1

end Lending

end JunosMcp.Lib
