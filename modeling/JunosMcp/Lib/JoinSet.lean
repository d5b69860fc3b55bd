import JunosMcp.Lib.Program
import Mathlib.Data.List.Basic

/-!
# Tasks under permits

Programs spawned at once, of which only so many hold a permit at a time. They end in any order,
with a value or in a panic, and a table collects the values by their index.
-/

namespace JunosMcp.Lib

universe u v w

variable {Op : Type u} {Res : Op → Type v} {β : Type w}

structure Task (Op : Type u) (Res : Op → Type v) (β : Type w) where
  index : Nat
  left : Prog Op Res β

structure JoinSet (Op : Type u) (Res : Op → Type v) (β : Type w) where
  waiting : List (Task Op Res β)
  running : List (Task Op Res β)
  ended : List (Nat × Option β)
  results : List (Option β)

inductive TaskEvent (Op : Type u) (Res : Op → Type v) where
  | permitted (index : Nat)
  | performed (index : Nat) (op : Op) (answer : Res op)
  | returned (index : Nat)
  | panicked (index : Nat)
  | joined (index : Nat)

namespace JoinSet

def spawn (tasks : List (Task Op Res β)) (results : List (Option β)) : JoinSet Op Res β :=
  ⟨tasks, [], [], results⟩

/-- The permits are handed out in any order; what an operation answers is up to the world. -/
inductive Step (permits : Nat) : JoinSet Op Res β → TaskEvent Op Res → JoinSet Op Res β → Prop where
  | permit {before after running ended results} {task : Task Op Res β} :
      running.length < permits →
      Step permits ⟨before ++ task :: after, running, ended, results⟩ (.permitted task.index)
        ⟨before ++ after, task :: running, ended, results⟩
  | perform {waiting before after ended results} {index : Nat} {op : Op}
      {next : Res op → Prog Op Res β} (answer : Res op) :
      Step permits ⟨waiting, before ++ ⟨index, .step op next⟩ :: after, ended, results⟩
        (.performed index op answer)
        ⟨waiting, before ++ ⟨index, next answer⟩ :: after, ended, results⟩
  | return {waiting before after ended results} {index : Nat} {value : β} :
      Step permits ⟨waiting, before ++ ⟨index, .pure value⟩ :: after, ended, results⟩
        (.returned index) ⟨waiting, before ++ after, (index, some value) :: ended, results⟩
  | panic {waiting before after ended results} {task : Task Op Res β} :
      Step permits ⟨waiting, before ++ task :: after, ended, results⟩
        (.panicked task.index) ⟨waiting, before ++ after, (task.index, none) :: ended, results⟩
  | join {waiting running before after results} {index : Nat} {value : β} :
      Step permits ⟨waiting, running, before ++ (index, some value) :: after, results⟩
        (.joined index) ⟨waiting, running, before ++ after, results.set index (some value)⟩
  | joinFailed {waiting running before after results} {index : Nat} :
      Step permits ⟨waiting, running, before ++ (index, none) :: after, results⟩
        (.joined index) ⟨waiting, running, before ++ after, results⟩

inductive Runs (permits : Nat) (start : JoinSet Op Res β) :
    List (TaskEvent Op Res) → JoinSet Op Res β → Prop where
  | start : Runs permits start [] start
  | step {events : List (TaskEvent Op Res)} {set set' : JoinSet Op Res β}
      {event : TaskEvent Op Res} :
      Runs permits start events set → Step permits set event set' →
      Runs permits start (events ++ [event]) set'

/-- Every task has ended and was joined. -/
def Drained (set : JoinSet Op Res β) : Prop :=
  set.waiting = [] ∧ set.running = [] ∧ set.ended = []

/-! ## Progress -/

theorem progress {permits : Nat} (positive : 0 < permits) (set : JoinSet Op Res β)
    [answers : ∀ op, Nonempty (Res op)] :
    set.Drained ∨ ∃ event set', Step permits set event set' := by
  obtain ⟨waiting, running, ended, results⟩ := set
  cases ended with
  | cons first ended =>
      obtain ⟨index, value⟩ := first
      cases value with
      | some value => exact .inr ⟨_, _, @Step.join _ _ _ _ _ _ [] ended _ index value⟩
      | none => exact .inr ⟨_, _, @Step.joinFailed _ _ _ _ _ _ [] ended _ index⟩
  | nil =>
      cases running with
      | cons task running =>
          obtain ⟨index, left⟩ := task
          cases left with
          | pure value => exact .inr ⟨_, _, @Step.return _ _ _ _ _ [] running _ _ index value⟩
          | step op next =>
              obtain ⟨answer⟩ := answers op
              exact .inr ⟨_, _, @Step.perform _ _ _ _ _ [] running _ _ index op next answer⟩
      | nil =>
          cases waiting with
          | cons task waiting =>
              exact .inr ⟨_, _, @Step.permit _ _ _ _ [] waiting [] _ _ task positive⟩
          | nil => exact .inl ⟨rfl, rfl, rfl⟩

/-! ## Where a value comes from -/

theorem mem_restored {γ : Type*} {before after : List γ} {x y : γ}
    (member : x ∈ before ++ after) : x ∈ before ++ y :: after :=
  ((List.Sublist.refl before).append (List.sublist_cons_self y after)).subset member

/-- The values of the table are those it started with, and returns of the task of their index. -/
structure Honest (tasks : List (Task Op Res β)) (table : List (Option β)) (set : JoinSet Op Res β) :
    Prop where
  waiting : ∀ task ∈ set.waiting, task ∈ tasks
  running : ∀ task ∈ set.running, ∃ program trace, ⟨task.index, program⟩ ∈ tasks ∧
    Leads program trace task.left
  ended : ∀ index value, (index, some value) ∈ set.ended →
    ∃ program trace, ⟨index, program⟩ ∈ tasks ∧ Returns program trace value
  results : ∀ index value, set.results[index]? = some (some value) →
    table[index]? = some (some value) ∨
      ∃ program trace, ⟨index, program⟩ ∈ tasks ∧ Returns program trace value
  kept : ∀ index, (∀ program, ⟨index, program⟩ ∉ tasks) → set.results[index]? = table[index]?

section Honest
variable {permits : Nat} {tasks : List (Task Op Res β)} {table : List (Option β)}
  {set set' : JoinSet Op Res β}

theorem honest_spawn : Honest tasks table (spawn tasks table) where
  waiting _ member := member
  running := nofun
  ended := nofun
  results _ _ found := .inl found
  kept _ _ := rfl

theorem Honest.step {event : TaskEvent Op Res} (honest : Honest tasks table set)
    (step : Step permits set event set') : Honest tasks table set' := by
  obtain ⟨waiting, running, ended, results, kept⟩ := honest
  cases step with
  | @permit before after _ _ _ task _ =>
      refine ⟨fun task member => waiting task (mem_restored member), ?_, ended, results, kept⟩
      intro other member
      rcases List.mem_cons.mp member with rfl | old
      · exact ⟨other.left, [], waiting other (List.mem_append_right _ List.mem_cons_self), .refl _⟩
      · exact running other old
  | @perform _ before after _ _ index op next answer =>
      refine ⟨waiting, ?_, ended, results, kept⟩
      intro task member
      rcases List.mem_append.mp member with early | found
      · exact running task (List.mem_append_left _ early)
      · rcases List.mem_cons.mp found with rfl | late
        · obtain ⟨program, trace, spawned, leads⟩ :=
            running _ (List.mem_append_right _ List.mem_cons_self)
          exact ⟨program, _, spawned, leads.snoc answer⟩
        · exact running task (List.mem_append_right _ (List.mem_cons_of_mem _ late))
  | @«return» _ before after _ _ index value =>
      refine ⟨waiting, fun task member => running task (mem_restored member), ?_, results, kept⟩
      intro i found member
      rcases List.mem_cons.mp member with same | old
      · cases same
        obtain ⟨program, trace, spawned, leads⟩ :=
          running _ (List.mem_append_right _ List.mem_cons_self)
        exact ⟨program, trace, spawned, leads.returns rfl⟩
      · exact ended i found old
  | @panic _ before after _ _ task =>
      refine ⟨waiting, fun other member => running other (mem_restored member), ?_, results, kept⟩
      intro i found member
      rcases List.mem_cons.mp member with same | old
      · cases same
      · exact ended i found old
  | @join _ _ before after table' index value =>
      refine ⟨waiting, running, fun i found member => ended i found (mem_restored member), ?_, ?_⟩
      · intro i found shown
        by_cases same : index = i
        · subst same
          rw [List.getElem?_set_self'] at shown
          cases here : table'[index]? with
          | none => simp [here] at shown
          | some old =>
              have : value = found := by simpa [here] using shown
              subst this
              exact .inr (ended _ _ (List.mem_append_right _ List.mem_cons_self))
        · rw [List.getElem?_set_ne same] at shown
          exact results i found shown
      · intro i absent
        obtain ⟨program, _, spawned, _⟩ :=
          ended index value (List.mem_append_right _ List.mem_cons_self)
        have other : index ≠ i := by
          rintro rfl
          exact absent program spawned
        exact (List.getElem?_set_ne other).trans (kept i absent)
  | @joinFailed _ _ before after _ index =>
      exact ⟨waiting, running, fun i found member => ended i found (mem_restored member),
        results, kept⟩

theorem Runs.honest {events : List (TaskEvent Op Res)}
    (runs : Runs permits (spawn tasks table) events set) : Honest tasks table set := by
  induction runs with
  | start => exact honest_spawn
  | step _ step ih => exact ih.step step

end Honest

/-! ## The cap and the accounts -/

section Accounts
variable {permits : Nat} {start set set' : JoinSet Op Res β} {event : TaskEvent Op Res}

theorem Step.bounded (step : Step permits set event set') (bounded : set.running.length ≤ permits) :
    set'.running.length ≤ permits := by
  cases step with
  | permit free => exact free
  | perform answer => simpa using bounded
  | «return» => simp only [List.length_append, List.length_cons] at bounded ⊢; omega
  | panic => simp only [List.length_append, List.length_cons] at bounded ⊢; omega
  | join => exact bounded
  | joinFailed => exact bounded

/-- At no time do more tasks run than there are permits. -/
theorem Runs.bounded {events : List (TaskEvent Op Res)} (runs : Runs permits start events set)
    (idle : start.running = []) : set.running.length ≤ permits := by
  induction runs with
  | start => simp [idle]
  | step _ step ih => exact step.bounded ih

/-- A task is still to be joined, or its value is in the table. -/
def Accounted (set : JoinSet Op Res β) (index : Nat) : Prop :=
  index ∈ set.waiting.map Task.index ∨ index ∈ set.running.map Task.index ∨
    (∃ value, (index, some value) ∈ set.ended) ∨ ∃ value, set.results[index]? = some (some value)

theorem Step.length (step : Step permits set event set') :
    set'.results.length = set.results.length := by
  cases step with
  | join => exact List.length_set
  | _ => rfl

theorem Step.accounted {i : Nat} (step : Step permits set event set') (calm : event ≠ .panicked i)
    (listed : i < set.results.length) (accounted : set.Accounted i) : set'.Accounted i := by
  cases step with
  | permit =>
      rcases accounted with waits | runs | rest
      · simp only [List.map_append, List.map_cons, List.mem_append, List.mem_cons] at waits
        rcases waits with early | rfl | late
        · exact .inl (by simp [early])
        · exact .inr (.inl List.mem_cons_self)
        · exact .inl (by simp [late])
      · exact .inr (.inl (List.mem_cons_of_mem _ runs))
      · exact .inr (.inr rest)
  | perform answer =>
      rcases accounted with waits | runs | rest
      · exact .inl waits
      · exact .inr (.inl (by simpa using runs))
      · exact .inr (.inr rest)
  | @«return» _ _ _ _ _ index value =>
      rcases accounted with waits | runs | ⟨value', ended⟩ | rest
      · exact .inl waits
      · simp only [List.map_append, List.map_cons, List.mem_append, List.mem_cons] at runs
        rcases runs with early | rfl | late
        · exact .inr (.inl (by simp [early]))
        · exact .inr (.inr (.inl ⟨value, List.mem_cons_self⟩))
        · exact .inr (.inl (by simp [late]))
      · exact .inr (.inr (.inl ⟨value', List.mem_cons_of_mem _ ended⟩))
      · exact .inr (.inr (.inr rest))
  | panic =>
      rcases accounted with waits | runs | ⟨value', ended⟩ | rest
      · exact .inl waits
      · simp only [List.map_append, List.map_cons, List.mem_append, List.mem_cons] at runs
        rcases runs with early | rfl | late
        · exact .inr (.inl (by simp [early]))
        · exact absurd rfl calm
        · exact .inr (.inl (by simp [late]))
      · exact .inr (.inr (.inl ⟨value', List.mem_cons_of_mem _ ended⟩))
      · exact .inr (.inr (.inr rest))
  | @join _ _ _ _ table index value =>
      by_cases same : index = i
      · subst same
        exact .inr (.inr (.inr ⟨value, List.getElem?_set_self listed⟩))
      · rcases accounted with waits | runs | ⟨value', ended⟩ | ⟨value', rest⟩
        · exact .inl waits
        · exact .inr (.inl runs)
        · refine .inr (.inr (.inl ⟨value', ?_⟩))
          simpa [Ne.symm same] using ended
        · exact .inr (.inr (.inr ⟨value', (List.getElem?_set_ne same).trans rest⟩))
  | joinFailed =>
      rcases accounted with waits | runs | ⟨value', ended⟩ | rest
      · exact .inl waits
      · exact .inr (.inl runs)
      · exact .inr (.inr (.inl ⟨value', by simpa using ended⟩))
      · exact .inr (.inr (.inr rest))

theorem Runs.accounted {events : List (TaskEvent Op Res)} {i : Nat}
    (runs : Runs permits start events set) (calm : .panicked i ∉ events)
    (listed : i < start.results.length) (accounted : start.Accounted i) :
    i < set.results.length ∧ set.Accounted i := by
  induction runs with
  | start => exact ⟨listed, accounted⟩
  | @step events _ _ event _ step ih =>
      obtain ⟨listed, accounted⟩ := ih fun early => calm (List.mem_append_left _ early)
      have quiet : event ≠ .panicked i := by
        rintro rfl
        exact calm (List.mem_append_right _ List.mem_cons_self)
      exact ⟨step.length ▸ listed, step.accounted quiet listed accounted⟩

/-- Once everything was joined, a task that did not panic has its value in the table. -/
theorem Runs.delivered {events : List (TaskEvent Op Res)} {tasks : List (Task Op Res β)}
    {table : List (Option β)} {i : Nat} (runs : Runs permits (spawn tasks table) events set)
    (drained : set.Drained) (spawned : i ∈ tasks.map Task.index) (listed : i < table.length)
    (calm : .panicked i ∉ events) : ∃ value, set.results[i]? = some (some value) := by
  obtain ⟨_, accounted⟩ := runs.accounted calm listed (.inl spawned)
  obtain ⟨waiting, running, ended⟩ := drained
  simpa [Accounted, waiting, running, ended] using accounted

end Accounts

/-! ## What each task has done -/

/-- What the event performed under the index. -/
def performedBy (i : Nat) : TaskEvent Op Res → Option (Σ op, Res op)
  | .performed index op answer => if index = i then some ⟨op, answer⟩ else none
  | .permitted _ | .returned _ | .panicked _ | .joined _ => none

def traceOf (i : Nat) (events : List (TaskEvent Op Res)) : Trace Op Res :=
  events.filterMap (performedBy i)

def takesPermit : TaskEvent Op Res → Bool
  | .permitted _ => true
  | .performed .. | .returned _ | .panicked _ | .joined _ => false

def givesPermitBack : TaskEvent Op Res → Bool
  | .returned _ | .panicked _ => true
  | .permitted _ | .performed .. | .joined _ => false

theorem traceOf_snoc {i : Nat} {events : List (TaskEvent Op Res)} {event : TaskEvent Op Res} :
    traceOf i (events ++ [event]) = traceOf i events ++ (performedBy i event).toList := by
  rw [traceOf, List.filterMap_append]
  cases performed : performedBy i event with
  | none => rw [List.filterMap_cons_none performed]; rfl
  | some here => rw [List.filterMap_cons_some performed]; rfl

/-- The indices that are still to be joined. -/
def live (set : JoinSet Op Res β) : List Nat :=
  set.waiting.map Task.index ++ set.running.map Task.index ++ set.ended.map Prod.fst

/-- Each index is in one place, and what was performed under it is a run of its task. -/
structure Traced (tasks : List (Task Op Res β)) (table : List (Option β))
    (events : List (TaskEvent Op Res)) (set : JoinSet Op Res β) : Prop where
  distinct : set.live.Nodup
  waiting : ∀ task ∈ set.waiting, task ∈ tasks ∧ traceOf task.index events = []
  running : ∀ task ∈ set.running, ∃ program, ⟨task.index, program⟩ ∈ tasks ∧
    Leads program (traceOf task.index events) task.left
  ended : ∀ index value, (index, some value) ∈ set.ended →
    ∃ program, ⟨index, program⟩ ∈ tasks ∧ Returns program (traceOf index events) value
  results : ∀ index value, set.results[index]? = some (some value) →
    table[index]? = some (some value) ∨ index ∉ set.live ∧
      ∃ program, ⟨index, program⟩ ∈ tasks ∧ Returns program (traceOf index events) value
  started : ∀ index, traceOf index events ≠ [] →
    ∃ program left, ⟨index, program⟩ ∈ tasks ∧ Leads program (traceOf index events) left

section Traced
variable {permits : Nat} {tasks : List (Task Op Res β)} {table : List (Option β)}
  {events : List (TaskEvent Op Res)} {set set' : JoinSet Op Res β}

theorem traced_spawn (distinct : (tasks.map Task.index).Nodup) :
    Traced tasks table [] (spawn tasks table) where
  distinct := by simpa [live, spawn] using distinct
  waiting task member := ⟨member, rfl⟩
  running := nofun
  ended := nofun
  results _ _ found := .inl found
  started _ some := absurd rfl some

/-- An event that performs nothing, after which no index is live that was not. -/
theorem Traced.quiet {event : TaskEvent Op Res} (traced : Traced tasks table events set)
    (quiet : ∀ i, performedBy i event = none) (distinct : set'.live.Nodup)
    (fewer : ∀ index ∈ set'.live, index ∈ set.live)
    (waiting : ∀ task ∈ set'.waiting, task ∈ set.waiting)
    (running : ∀ task ∈ set'.running, task ∈ set.running ∨ task ∈ set.waiting)
    (ended : ∀ index value, (index, some value) ∈ set'.ended → (index, some value) ∈ set.ended ∨
      ⟨index, .pure value⟩ ∈ set.running)
    (results : ∀ index value, set'.results[index]? = some (some value) →
      set.results[index]? = some (some value) ∨
        (index, some value) ∈ set.ended ∧ index ∉ set'.live) :
    Traced tasks table (events ++ [event]) set' := by
  have same (i : Nat) : traceOf i (events ++ [event]) = traceOf i events := by
    rw [traceOf_snoc, quiet]
    exact List.append_nil _
  refine ⟨distinct, ?_, ?_, ?_, ?_, ?_⟩
  · intro task member
    rw [same]
    exact traced.waiting task (waiting task member)
  · intro task member
    rw [same]
    rcases running task member with old | fresh
    · exact traced.running task old
    · obtain ⟨spawned, none⟩ := traced.waiting task fresh
      rw [none]
      exact ⟨task.left, spawned, .refl _⟩
  · intro index value member
    rw [same]
    rcases ended index value member with old | fresh
    · exact traced.ended index value old
    · obtain ⟨program, spawned, leads⟩ := traced.running _ fresh
      exact ⟨program, spawned, leads.returns rfl⟩
  · intro index value found
    rw [same]
    rcases results index value found with old | ⟨joined, gone⟩
    · rcases traced.results index value old with early | ⟨gone, returned⟩
      · exact .inl early
      · exact .inr ⟨fun back => gone (fewer index back), returned⟩
    · exact .inr ⟨gone, traced.ended index value joined⟩
  · intro index some
    rw [same] at some ⊢
    exact traced.started index some

theorem alone_of_nodup {before after : List Nat} {index : Nat}
    (distinct : (before ++ index :: after).Nodup) : index ∉ before ++ after :=
  (List.nodup_cons.mp (List.perm_middle.nodup_iff.mp distinct)).1

theorem Traced.performed {waiting before after : List (Task Op Res β)}
    {ended : List (Nat × Option β)} {results : List (Option β)} {index : Nat} {op : Op}
    {next : Res op → Prog Op Res β} (answer : Res op)
    (traced : Traced tasks table events
      ⟨waiting, before ++ ⟨index, .step op next⟩ :: after, ended, results⟩) :
    Traced tasks table (events ++ [.performed index op answer])
      ⟨waiting, before ++ ⟨index, next answer⟩ :: after, ended, results⟩ := by
  have own : traceOf index (events ++ [.performed index op answer]) =
      traceOf index events ++ [⟨op, answer⟩] := by
    rw [traceOf_snoc, performedBy, if_pos rfl]
    rfl
  have other {i : Nat} (differs : index ≠ i) :
      traceOf i (events ++ [.performed index op answer]) = traceOf i events := by
    rw [traceOf_snoc, performedBy, if_neg differs]
    exact List.append_nil _
  have split : live ⟨waiting, before ++ ⟨index, .step op next⟩ :: after, ended, results⟩ =
      (waiting.map Task.index ++ before.map Task.index) ++
        index :: (after.map Task.index ++ ended.map Prod.fst) := by simp [live]
  have alone := alone_of_nodup (split ▸ traced.distinct)
  simp only [List.mem_append, List.mem_map, not_or, not_exists, not_and] at alone
  obtain ⟨program, spawned, leads⟩ :=
    traced.running _ (List.mem_append_right _ List.mem_cons_self)
  have goes := leads.snoc answer
  have sameLive : live ⟨waiting, before ++ ⟨index, next answer⟩ :: after, ended, results⟩ =
      live ⟨waiting, before ++ ⟨index, .step op next⟩ :: after, ended, results⟩ := by
    simp [live]
  refine ⟨sameLive ▸ traced.distinct, ?_, ?_, ?_, ?_, ?_⟩
  · intro task member
    rw [other fun same => alone.1.1 task member same.symm]
    exact traced.waiting task member
  · intro task member
    rcases List.mem_append.mp member with early | found
    · rw [other fun same => alone.1.2 task early same.symm]
      exact traced.running task (List.mem_append_left _ early)
    · rcases List.mem_cons.mp found with rfl | late
      · rw [own]
        exact ⟨program, spawned, goes⟩
      · rw [other fun same => alone.2.1 task late same.symm]
        exact traced.running task (List.mem_append_right _ (List.mem_cons_of_mem _ late))
  · intro i value member
    rw [other fun same => alone.2.2 (i, some value) member same.symm]
    exact traced.ended i value member
  · intro i value found
    rw [sameLive]
    rcases traced.results i value found with early | ⟨gone, returned⟩
    · exact .inl early
    · refine .inr ⟨gone, ?_⟩
      have differs : index ≠ i := by
        rintro rfl
        exact gone (by simp [live])
      rw [other differs]
      exact returned
  · intro i some
    by_cases same : index = i
    · subst same
      rw [own]
      exact ⟨program, _, spawned, goes⟩
    · rw [other same] at some ⊢
      exact traced.started i some

theorem Traced.step {event : TaskEvent Op Res} (traced : Traced tasks table events set)
    (step : Step permits set event set') : Traced tasks table (events ++ [event]) set' := by
  cases step with
  | @permit before after running ended results task _ =>
      have moved : (live ⟨before ++ after, task :: running, ended, results⟩).Perm
          (live ⟨before ++ task :: after, running, ended, results⟩) := by
        rw [List.perm_iff_count]
        intro i
        simp only [live, List.map_append, List.map_cons, List.count_append, List.count_cons]
        omega
      refine traced.quiet (fun _ => rfl) (moved.nodup_iff.mpr traced.distinct)
        (fun _ => moved.mem_iff.mp) (fun _ => mem_restored) ?_ (fun _ _ => .inl)
        (fun _ _ => .inl)
      intro other member
      rcases List.mem_cons.mp member with rfl | old
      · exact .inr (List.mem_append_right _ List.mem_cons_self)
      · exact .inl old
  | perform answer => exact traced.performed answer
  | @«return» waiting before after ended results index value =>
      have moved : (live ⟨waiting, before ++ after, (index, some value) :: ended, results⟩).Perm
          (live ⟨waiting, before ++ ⟨index, .pure value⟩ :: after, ended, results⟩) := by
        rw [List.perm_iff_count]
        intro i
        simp only [live, List.map_append, List.map_cons, List.count_append, List.count_cons]
        omega
      refine traced.quiet (fun _ => rfl) (moved.nodup_iff.mpr traced.distinct)
        (fun _ => moved.mem_iff.mp) (fun _ => id) (fun _ member => .inl (mem_restored member)) ?_
        (fun _ _ => .inl)
      intro i found member
      rcases List.mem_cons.mp member with same | old
      · cases same
        exact .inr (List.mem_append_right _ List.mem_cons_self)
      · exact .inl old
  | @panic waiting before after ended results task =>
      have moved : (live ⟨waiting, before ++ after, (task.index, none) :: ended, results⟩).Perm
          (live ⟨waiting, before ++ task :: after, ended, results⟩) := by
        rw [List.perm_iff_count]
        intro i
        simp only [live, List.map_append, List.map_cons, List.count_append, List.count_cons]
        omega
      refine traced.quiet (fun _ => rfl) (moved.nodup_iff.mpr traced.distinct)
        (fun _ => moved.mem_iff.mp) (fun _ => id) (fun _ member => .inl (mem_restored member)) ?_
        (fun _ _ => .inl)
      intro i found member
      rcases List.mem_cons.mp member with same | old
      · cases same
      · exact .inl old
  | @join waiting running before after results index value =>
      have split : live ⟨waiting, running, before ++ (index, some value) :: after, results⟩ =
          (waiting.map Task.index ++ running.map Task.index ++ before.map Prod.fst) ++
            index :: after.map Prod.fst := by simp [live]
      have alone := alone_of_nodup (split ▸ traced.distinct)
      have left : live ⟨waiting, running, before ++ after, results.set index (some value)⟩ =
          (waiting.map Task.index ++ running.map Task.index ++ before.map Prod.fst) ++
            after.map Prod.fst := by simp [live]
      have fewer : (live ⟨waiting, running, before ++ after, results.set index (some value)⟩).Sublist
          (live ⟨waiting, running, before ++ (index, some value) :: after, results⟩) := by
        rw [left, split]
        exact (List.Sublist.refl _).append (List.sublist_cons_self _ _)
      refine traced.quiet (fun _ => rfl) (fewer.nodup traced.distinct)
        (fun _ member => fewer.subset member) (fun _ => id) (fun _ => .inl)
        (fun _ _ member => .inl (mem_restored member)) ?_
      intro i found shown
      by_cases same : index = i
      · subst same
        rw [List.getElem?_set_self'] at shown
        cases here : results[index]? with
        | none => simp [here] at shown
        | some old =>
            have : value = found := by simpa [here] using shown
            subst this
            refine .inr ⟨List.mem_append_right _ List.mem_cons_self, ?_⟩
            rw [left]
            exact alone
      · rw [List.getElem?_set_ne same] at shown
        exact .inl shown
  | @joinFailed waiting running before after results index =>
      have fewer : (live ⟨waiting, running, before ++ after, results⟩).Sublist
          (live ⟨waiting, running, before ++ (index, none) :: after, results⟩) := by
        simp only [live, List.map_append, List.map_cons]
        exact (List.Sublist.refl _).append
          ((List.Sublist.refl _).append (List.sublist_cons_self _ _))
      exact traced.quiet (fun _ => rfl) (fewer.nodup traced.distinct)
        (fun _ member => fewer.subset member) (fun _ => id) (fun _ => .inl)
        (fun _ _ member => .inl (mem_restored member)) (fun _ _ => .inl)

theorem Runs.traced (runs : Runs permits (spawn tasks table) events set)
    (distinct : (tasks.map Task.index).Nodup) : Traced tasks table events set := by
  induction runs with
  | start => exact traced_spawn distinct
  | step _ step ih => exact ih.step step

/-- As many permits are taken as tasks run, and no more than there are. -/
theorem Runs.permits_taken {start : JoinSet Op Res β} (runs : Runs permits start events set)
    (idle : start.running = []) :
    events.countP takesPermit = events.countP givesPermitBack + set.running.length := by
  induction runs with
  | start => simp [idle]
  | step _ step ih =>
      rw [List.countP_append, List.countP_append, ih]
      cases step <;> simp [takesPermit, givesPermitBack] <;> omega

end Traced

end JoinSet

end JunosMcp.Lib
