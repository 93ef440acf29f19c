/-
**Runs of a labelled step function.**

A system is a partial function `step state label`. The states a run can reach are `Reach`; every
step of the run has to meet `guard`, a condition on the state before the step and its label, so
one notion serves both the runs of the system itself (`Unguarded`) and the runs that stay inside a
condition.

* `Reach.invariant` — what holds at the start and is kept by every allowed step holds everywhere.
* `Leads` — a run from the state comes to a goal.
* `run`, `runGuarded` — a schedule of labels, executed; `reach_of_run` and `reach_of_runGuarded`
  turn an executed schedule into a reached state, so concrete runs are settled by evaluation.
* `run_history` — the invariant rule for what relates a state to the labels that led to it.
* `Since` — a label entered the history, and none that undoes it came later; `Lasting` — the same
  of a point the history has come to; `EachAfter` — every label suits the labels before it.
* `Trace` — an infinite run; `exists_trace` builds one from a step that can always be taken again,
  and `Trace.eventually` is the ranking rule under fairness.
* `everyState_iff_everyStep` — where the steps that keep a property are known exactly, it holds in
  every state of a run when every step of the run is one of them; `everyState_and_everyStep_iff` is
  the same for a property of the states and one of the steps.
-/

import Mathlib.Data.List.Induction
import Mathlib.Logic.Basic
import Mathlib.Tactic.Common

namespace StepRuns

universe u v

section Runs

variable {State : Type u} {Label : Type v} (step : State → Label → Option State)

/-- The states reached from `start` by runs whose every step meets `guard`. -/
inductive Reach (guard : State → Label → Prop) (start : State) : State → Prop
  | start : Reach guard start start
  | step {before after : State} {label : Label} (reached : Reach guard start before)
      (allowed : guard before label) (taken : step before label = some after) :
      Reach guard start after

/-- The guard every step meets. -/
def Unguarded (_ : State) (_ : Label) : Prop := True

instance (state : State) (label : Label) : Decidable (Unguarded state label) :=
  inferInstanceAs (Decidable True)

/-- Executing a schedule. -/
def run : State → List Label → Option State
  | state, [] => some state
  | state, label :: rest => (step state label).bind fun next => run next rest

/-- Executing a schedule, stopping at the first label the guard refuses. -/
def runGuarded (guard : State → Label → Prop) [∀ state label, Decidable (guard state label)] :
    State → List Label → Option State
  | state, [] => some state
  | state, label :: rest =>
      if guard state label then
        (step state label).bind fun next => runGuarded guard next rest
      else none

variable {step}

/-- **The invariant rule.** What holds at the start and is kept by every allowed step holds in
every reached state. -/
theorem Reach.invariant {guard : State → Label → Prop} {start state : State}
    (Holds : State → Prop) (initial : Holds start)
    (kept : ∀ before label after, Holds before → guard before label →
      step before label = some after → Holds after)
    (reached : Reach step guard start state) : Holds state := by
  induction reached with
  | start => exact initial
  | step _ allowed taken ih => exact kept _ _ _ ih allowed taken

theorem Reach.trans {guard : State → Label → Prop} {start middle state : State}
    (first : Reach step guard start middle) (second : Reach step guard middle state) :
    Reach step guard start state := by
  induction second with
  | start => exact first
  | step _ allowed taken ih => exact .step ih allowed taken

/-- A weaker guard allows more runs. -/
theorem Reach.mono {guard weaker : State → Label → Prop} {start state : State}
    (reached : Reach step guard start state)
    (allows : ∀ state label, guard state label → weaker state label) :
    Reach step weaker start state := by
  induction reached with
  | start => exact .start
  | step _ allowed taken ih => exact .step ih (allows _ _ allowed) taken

variable (step) in
/-- A run from the state comes to a goal. -/
def Leads (guard : State → Label → Prop) (Goal : State → Prop) (state : State) : Prop :=
  ∃ later, Reach step guard state later ∧ Goal later

theorem Leads.here {guard : State → Label → Prop} {Goal : State → Prop} {state : State}
    (goal : Goal state) : Leads step guard Goal state :=
  ⟨state, .start, goal⟩

/-- One step on the way. -/
theorem Leads.after {guard : State → Label → Prop} {Goal : State → Prop} {state next : State}
    {label : Label} (allowed : guard state label) (taken : step state label = some next)
    (leads : Leads step guard Goal next) : Leads step guard Goal state := by
  obtain ⟨later, reached, goal⟩ := leads
  exact ⟨later, Reach.trans (.step .start allowed taken) reached, goal⟩

/-- One goal after the other. -/
theorem Leads.trans {guard : State → Label → Prop} {Middle Goal : State → Prop} {state : State}
    (leads : Leads step guard Middle state)
    (onward : ∀ later, Middle later → Leads step guard Goal later) :
    Leads step guard Goal state := by
  obtain ⟨middle, reached, halfway⟩ := leads
  obtain ⟨later, onward, goal⟩ := onward middle halfway
  exact ⟨later, Reach.trans reached onward, goal⟩

/-- **An executed guarded schedule is a guarded run.** -/
theorem reach_of_runGuarded {guard : State → Label → Prop}
    [∀ state label, Decidable (guard state label)] {start state : State} {schedule : List Label}
    (executed : runGuarded step guard start schedule = some state) :
    Reach step guard start state := by
  induction schedule generalizing start with
  | nil =>
      cases executed
      exact .start
  | cons label rest ih =>
      rw [runGuarded] at executed
      split at executed
      · rename_i allowed
        obtain ⟨next, taken, later⟩ := Option.bind_eq_some_iff.mp executed
        exact Reach.trans (.step .start allowed taken) (ih later)
      · cases executed

/-- **An executed schedule is a run.** -/
theorem reach_of_run {start state : State} {schedule : List Label}
    (executed : run step start schedule = some state) :
    Reach step Unguarded start state := by
  induction schedule generalizing start with
  | nil =>
      cases executed
      exact .start
  | cons label rest ih =>
      obtain ⟨next, taken, later⟩ := Option.bind_eq_some_iff.mp executed
      exact Reach.trans (.step .start trivial taken) (ih later)

variable (step) in
/-- A schedule that runs to a state with a tested property reaches such a state. -/
theorem exists_reach_of_run (start : State) (schedule : List Label) (test : State → Bool)
    (passed : (run step start schedule).map test = some true) :
    ∃ state, Reach step Unguarded start state ∧ test state = true := by
  obtain ⟨state, executed, holds⟩ := Option.map_eq_some_iff.mp passed
  exact ⟨state, reach_of_run executed, holds⟩

variable (step) in
/-- The guarded form of `exists_reach_of_run`. -/
theorem exists_reach_of_runGuarded (guard : State → Label → Prop)
    [∀ state label, Decidable (guard state label)] (start : State) (schedule : List Label)
    (test : State → Bool) (passed : (runGuarded step guard start schedule).map test = some true) :
    ∃ state, Reach step guard start state ∧ test state = true := by
  obtain ⟨state, executed, holds⟩ := Option.map_eq_some_iff.mp passed
  exact ⟨state, reach_of_runGuarded executed, holds⟩

/-- **The invariant rule with the history.** -/
theorem run_history {start : State} (Holds : List Label → State → Prop) (initial : Holds [] start)
    (kept : ∀ history before label after, Holds history before →
      step before label = some after → Holds (history ++ [label]) after)
    {labels : List Label} {state : State} (executed : run step start labels = some state) :
    Holds labels state := by
  have extend (history : List Label) (middle : State) (holds : Holds history middle)
      (later : run step middle labels = some state) : Holds (history ++ labels) state := by
    clear initial executed
    induction labels generalizing history middle with
    | nil =>
        cases later
        rwa [List.append_nil]
    | cons label rest ih =>
        obtain ⟨next, taken, later⟩ := Option.bind_eq_some_iff.mp later
        rw [List.append_cons]
        exact ih (history ++ [label]) next (kept history middle label next holds taken) later
  exact extend [] start initial executed

end Runs

/-! ### Infinite runs -/

section Traces

variable {State : Type u} {Label : Type v} {step : State → Label → Option State} {start : State}

variable (step start) in
/-- An infinite run. -/
structure Trace where
  state : ℕ → State
  label : ℕ → Label
  begins : state 0 = start
  steps : ∀ time, step (state time) (label time) = some (state (time + 1))

/-- What every step keeps holds at all times. -/
theorem Trace.always (trace : Trace step start) {Holds : State → Prop} (initial : Holds start)
    (kept : ∀ before label after, Holds before → step before label = some after → Holds after)
    (time : ℕ) : Holds (trace.state time) := by
  induction time with
  | zero => rwa [trace.begins]
  | succ time ih => exact kept _ _ _ ih (trace.steps time)

/-- **A run that goes on for ever**: where a step of some kind is always possible again, there is a
trace of such steps. -/
theorem exists_trace (Holds : State → Prop) (Kind : Label → Prop) (initial : Holds start)
    (continues : ∀ state, Holds state →
      ∃ label next, Kind label ∧ step state label = some next ∧ Holds next) :
    ∃ trace : Trace step start,
      (∀ time, Holds (trace.state time)) ∧ ∀ time, Kind (trace.label time) := by
  choose label next kind taken holds using continues
  let states : ℕ → {state // Holds state} := fun time =>
    Nat.rec ⟨start, initial⟩ (fun _ state => ⟨next state.1 state.2, holds state.1 state.2⟩) time
  refine ⟨⟨fun time => (states time).1, fun time => label (states time).1 (states time).2, rfl,
    fun time => taken (states time).1 (states time).2⟩, fun time => (states time).2, ?_⟩
  exact fun time => kind (states time).1 (states time).2

/-- **The ranking rule.** When no step raises the rank, every step of a kind lowers it until the
goal, and such steps come again and again, the goal is reached. -/
theorem Trace.eventually (trace : Trace step start) {Holds Goal : State → Prop}
    {Kind : Label → Prop} (rank : State → ℕ) (initial : Holds start)
    (kept : ∀ before label after, Holds before → step before label = some after →
      Holds after ∧ rank after ≤ rank before ∧
        (Kind label → ¬ Goal before → rank after < rank before))
    (fair : ∀ time, ¬ Goal (trace.state time) → ∃ later, time ≤ later ∧ Kind (trace.label later)) :
    ∃ time, Goal (trace.state time) := by
  by_contra never
  push Not at never
  have holds : ∀ time, Holds (trace.state time) :=
    trace.always initial fun before label after holds taken =>
      (kept before label after holds taken).1
  have falls : ∀ time later, time ≤ later →
      rank (trace.state later) ≤ rank (trace.state time) := by
    intro time later order
    induction order with
    | refl => exact Nat.le_refl _
    | @step later _ ih => exact Nat.le_trans (kept _ _ _ (holds later) (trace.steps later)).2.1 ih
  have descends : ∀ bound time, rank (trace.state time) ≤ bound → False := by
    intro bound
    induction bound with
    | zero =>
        intro time low
        obtain ⟨later, order, kind⟩ := fair time (never time)
        have lower := (kept _ _ _ (holds later) (trace.steps later)).2.2 kind (never later)
        have := falls time later order
        omega
    | succ bound ih =>
        intro time low
        obtain ⟨later, order, kind⟩ := fair time (never time)
        have lower := (kept _ _ _ (holds later) (trace.steps later)).2.2 kind (never later)
        have := falls time later order
        exact ih (later + 1) (by omega)
  exact descends _ 0 (Nat.le_refl _)

end Traces

/-! ### Histories -/

section Histories

variable {Label : Type v} {enters leaves : Label → Prop} {history : List Label}

/-- A label of the history enters, and none after it leaves. -/
def Since (enters leaves : Label → Prop) (history : List Label) : Prop :=
  ∃ earlier entry later, history = earlier ++ entry :: later ∧ enters entry ∧
    ∀ label ∈ later, ¬ leaves label

theorem not_since_nil : ¬ Since enters leaves [] := by
  rintro ⟨earlier, entry, later, split, -⟩
  simp at split

/-- **One more label** enters, or does not leave. -/
theorem since_append {label : Label} :
    Since enters leaves (history ++ [label]) ↔
      enters label ∨ Since enters leaves history ∧ ¬ leaves label := by
  constructor
  · rintro ⟨earlier, entry, later, split, enter, stays⟩
    rcases List.eq_nil_or_concat later with rfl | ⟨front, last, rfl⟩
    · obtain ⟨-, same⟩ := List.append_inj' split rfl
      obtain rfl : label = entry := by simpa using same
      exact .inl enter
    · rw [List.concat_eq_append, ← List.cons_append, ← List.append_assoc] at split
      obtain ⟨rfl, same⟩ := List.append_inj' split rfl
      obtain rfl : label = last := by simpa using same
      rw [List.concat_eq_append] at stays
      refine .inr ⟨⟨earlier, entry, front, rfl, enter, fun other member => stays other ?_⟩,
        stays label ?_⟩
      · exact List.mem_append_left _ member
      · simp
  · rintro (enter | ⟨⟨earlier, entry, later, rfl, enter, stays⟩, stay⟩)
    · exact ⟨history, label, [], rfl, enter, fun _ member => absurd member List.not_mem_nil⟩
    · refine ⟨earlier, entry, later ++ [label], by simp, enter, fun other member => ?_⟩
      rcases List.mem_append.mp member with before | last
      · exact stays other before
      · rwa [List.mem_singleton.mp last]

/-- The history has come to a point, and no label after it leaves. -/
def Lasting (begins : List Label → Prop) (leaves : Label → Prop) (history : List Label) : Prop :=
  ∃ front later, history = front ++ later ∧ begins front ∧ ∀ label ∈ later, ¬ leaves label

/-- **One more label** comes to the point, or does not leave. -/
theorem lasting_append {begins : List Label → Prop} {label : Label} :
    Lasting begins leaves (history ++ [label]) ↔
      begins (history ++ [label]) ∨ Lasting begins leaves history ∧ ¬ leaves label := by
  constructor
  · rintro ⟨front, later, split, begun, stays⟩
    rcases List.eq_nil_or_concat later with rfl | ⟨middle, last, rfl⟩
    · rw [List.append_nil] at split
      exact .inl (split ▸ begun)
    · rw [List.concat_eq_append, ← List.append_assoc] at split
      obtain ⟨rfl, same⟩ := List.append_inj' split rfl
      obtain rfl : label = last := by simpa using same
      rw [List.concat_eq_append] at stays
      refine .inr ⟨⟨front, middle, rfl, begun, fun other member => stays other ?_⟩,
        stays label ?_⟩
      · exact List.mem_append_left _ member
      · simp
  · rintro (begun | ⟨⟨front, later, rfl, begun, stays⟩, stay⟩)
    · exact ⟨_, [], (List.append_nil _).symm, begun, fun _ member => absurd member List.not_mem_nil⟩
    · refine ⟨front, later ++ [label], by simp, begun, fun other member => ?_⟩
      rcases List.mem_append.mp member with before | last
      · exact stays other before
      · rwa [List.mem_singleton.mp last]

theorem lasting_nil {begins : List Label → Prop} (unbegun : ¬ begins []) :
    ¬ Lasting begins leaves [] := by
  rintro ⟨front, later, split, begun, -⟩
  obtain ⟨rfl, -⟩ := List.append_eq_nil_iff.mp split.symm
  exact unbegun begun

/-- Every label of the history has a property, together with the labels before it. -/
def EachAfter (holds : List Label → Label → Prop) (history : List Label) : Prop :=
  ∀ front label later, history = front ++ label :: later → holds front label

theorem eachAfter_nil {holds : List Label → Label → Prop} : EachAfter holds [] := by
  intro front label later split
  simp at split

/-- **One more label** has the property with the whole history before it. -/
theorem eachAfter_append {holds : List Label → Label → Prop} {label : Label} :
    EachAfter holds (history ++ [label]) ↔ EachAfter holds history ∧ holds history label := by
  constructor
  · intro each
    refine ⟨fun front other later split => ?_, each history label [] rfl⟩
    exact each front other (later ++ [label]) (by simp [split])
  · rintro ⟨each, last⟩ front other later split
    rcases List.eq_nil_or_concat later with rfl | ⟨middle, final, rfl⟩
    · obtain ⟨rfl, same⟩ := List.append_inj' split rfl
      obtain rfl : label = other := by simpa using same
      exact last
    · rw [List.concat_eq_append, ← List.cons_append, ← List.append_assoc] at split
      obtain ⟨rfl, -⟩ := List.append_inj' split rfl
      exact each front other middle rfl

end Histories

/-! ### Runs of a total step function -/

section Total

variable {State : Type u} {Label : Type v} {step : State → Label → State}

/-- **Every state of a run has a property, and every step of it another, exactly when every step is
allowed**, where allowed steps are those that keep the one and have the other. -/
theorem everyState_and_everyStep_iff {start : State} {Holds : State → Prop}
    {Right Allowed : State → Label → Prop} (initial : Holds start)
    (exact : ∀ state label, Holds state →
      (Holds (step state label) ∧ Right state label ↔ Allowed state label))
    (labels : List Label) :
    ((∀ done, done <+: labels → Holds (done.foldl step start)) ∧
        ∀ done label, done ++ [label] <+: labels → Right (done.foldl step start) label) ↔
      ∀ done label, done ++ [label] <+: labels → Allowed (done.foldl step start) label := by
  constructor
  · rintro ⟨holds, right⟩ done label front
    have before : Holds (done.foldl step start) :=
      holds done ((List.prefix_append done [label]).trans front)
    have after := holds (done ++ [label]) front
    rw [List.foldl_append] at after
    exact (exact _ _ before).mp ⟨after, right done label front⟩
  · intro allowed
    have holds (done : List Label) (front : done <+: labels) : Holds (done.foldl step start) := by
      induction done using List.reverseRecOn with
      | nil => exact initial
      | append_singleton done label ih =>
          have before := ih ((List.prefix_append done [label]).trans front)
          rw [List.foldl_append]
          exact ((exact _ _ before).mpr (allowed done label front)).1
    refine ⟨holds, fun done label front => ?_⟩
    have before := holds done ((List.prefix_append done [label]).trans front)
    exact ((exact _ _ before).mpr (allowed done label front)).2

/-- **Every state of a run has a property exactly when every step of it is allowed**, where allowed
steps are those that keep the property. -/
theorem everyState_iff_everyStep {start : State} {Holds : State → Prop}
    {Allowed : State → Label → Prop} (initial : Holds start)
    (exact : ∀ state label, Holds state → (Holds (step state label) ↔ Allowed state label))
    (labels : List Label) :
    (∀ done, done <+: labels → Holds (done.foldl step start)) ↔
      ∀ done label, done ++ [label] <+: labels → Allowed (done.foldl step start) label := by
  have exact' (state : State) (label : Label) (holds : Holds state) :
      Holds (step state label) ∧ True ↔ Allowed state label :=
    (and_iff_left trivial).trans (exact state label holds)
  have both := everyState_and_everyStep_iff initial exact' labels
  exact (and_iff_left fun _ _ _ => trivial).symm.trans both

end Total

end StepRuns
