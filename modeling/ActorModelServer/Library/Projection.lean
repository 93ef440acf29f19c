/-
**A machine seen through one of its parts.**

A part of a machine is a machine of its own when every step of the whole is a step of the part, one
in which the part does nothing being a step of its surroundings. `Projection` says so; what is
proved of the part alone then holds of the whole.

* `Reach.through` — the runs of the whole are runs of the part, also where the whole goes on without
  the part.
* `Projection.trace` — so are the infinite ones.
* `Projection.fair` — the whole is fair to the part, although it may do something else in between:
  what it does in between counts down.
* `guarded` — a machine that takes the steps of a guard only.
* `threadStep_of_moved` — one thread moves and the other ones stay: this is a step.
-/

import ActorModelServer.Library.Fairness

namespace StepRuns

universe u v w x

section Projection

variable {State : Type u} {Label : Type v} {Part : Type w} {PartLabel : Type x}

/-- **A run of the whole is a run of the part**: a step of the whole is one of the part, or leaves
the part as it is. -/
theorem Reach.through {step : State → Label → Option State}
    {partStep : Part → PartLabel → Option Part} {guard : State → Label → Prop}
    {partGuard : Part → PartLabel → Prop} {start state : State} (part : State → Part)
    (moves : ∀ before label after, Reach step guard start before → guard before label →
      step before label = some after → part after = part before ∨
        ∃ partLabel, partGuard (part before) partLabel ∧
          partStep (part before) partLabel = some (part after))
    (reached : Reach step guard start state) :
    Reach partStep partGuard (part start) (part state) := by
  induction reached with
  | start => exact .start
  | step reached allowed taken ih =>
      rcases moves _ _ _ reached allowed taken with same | ⟨partLabel, allowed', taken'⟩
      · rw [same]
        exact ih
      · exact .step ih allowed' taken'

/-- **The part of a machine.** -/
structure Projection (step : State → Label → Option State)
    (partStep : Part → PartLabel → Option Part) where
  part : State → Part
  label : State → Label → PartLabel
  commutes : ∀ before taken after, step before taken = some after →
    partStep (part before) (label before taken) = some (part after)

variable {step : State → Label → Option State} {partStep : Part → PartLabel → Option Part}
  {start : State}

/-- An infinite run of the whole is one of the part. -/
def Projection.trace (projection : Projection step partStep) {partStart : Part}
    (begins : projection.part start = partStart) (trace : Trace step start) :
    Trace partStep partStart where
  state time := projection.part (trace.state time)
  label time := projection.label (trace.state time) (trace.label time)
  begins := by rw [trace.begins, begins]
  steps time := projection.commutes _ _ _ (trace.steps time)

variable (projection : Projection step partStep) {partStart : Part}
  {begins : projection.part start = partStart} {trace : Trace step start}

/-- What comes for the part comes for the whole. -/
theorem Projection.later {time : ℕ} {Goal : Part → Prop}
    (later : (projection.trace begins trace).Later time Goal) :
    trace.Later time fun state => Goal (projection.part state) := later

/-- **Fairness to the part.** From some time on, where a step of the part is possible, a fair step
of the whole is, and it is that step of the part, or it counts down; nothing counts up. -/
theorem Projection.fair {Kind : Label → Prop} {PartKind : PartLabel → Prop} (fair : trace.Fair Kind)
    (rank : State → ℕ) (time : ℕ)
    (enabled : ∀ later, time ≤ later →
      Enabled partStep PartKind (projection.part (trace.state later)) →
        Enabled step Kind (trace.state later))
    (descends : ∀ later, time ≤ later →
      Enabled partStep PartKind (projection.part (trace.state later)) →
        ¬ PartKind (projection.label (trace.state later) (trace.label later)) →
          rank (trace.state (later + 1)) ≤ rank (trace.state later) ∧
            (Kind (trace.label later) →
              rank (trace.state (later + 1)) < rank (trace.state later))) :
    (projection.trace begins trace).Fair PartKind := by
  intro start possible
  by_contra never
  have last : start ≤ max start time := Nat.le_max_left start time
  have settled : time ≤ max start time := Nat.le_max_right start time
  have other (later : ℕ) (order : max start time ≤ later) :
      ¬ PartKind (projection.label (trace.state later) (trace.label later)) :=
    fun kind => never ⟨later, Nat.le_trans last order, kind⟩
  obtain ⟨-, -, impossible⟩ : trace.Later (max start time) fun _ => False := by
    refine Trace.later_of_descent fair rank (fun _ => True) trivial ?_ ?_
    · exact fun later order _ => enabled later (Nat.le_trans settled order)
        (possible later (Nat.le_trans last order))
    · exact fun later order _ => .inr ⟨trivial, descends later (Nat.le_trans settled order)
        (possible later (Nat.le_trans last order)) (other later order)⟩
  exact impossible

/-- The steps a guard allows. -/
def guarded (step : State → Label → Option State) (guard : State → Label → Prop)
    [∀ state label, Decidable (guard state label)] (state : State) (label : Label) :
    Option State :=
  if guard state label then step state label else none

theorem guarded_eq_some {guard : State → Label → Prop}
    [∀ state label, Decidable (guard state label)] {state next : State} {label : Label} :
    guarded step guard state label = some next ↔
      guard state label ∧ step state label = some next :=
  Option.ite_none_right_eq_some

/-- A part of a machine is one of the guarded machine. -/
def Projection.guarded (projection : Projection step partStep) (guard : State → Label → Prop)
    [∀ state label, Decidable (guard state label)] :
    Projection (StepRuns.guarded step guard) partStep where
  part := projection.part
  label := projection.label
  commutes _ _ _ taken := projection.commutes _ _ _ (guarded_eq_some.mp taken).2

end Projection

end StepRuns

namespace ThreadTable

/-- One thread moves, and the other ones stay. -/
theorem threadStep_of_moved {Shared Tid Pc Choice : Type*} [DecidableEq Tid]
    {act : Shared → Pc → Choice → Option (Shared × Pc)} {state after : System Shared Tid Pc}
    {thread : Tid} {choice : Choice}
    (acted : act state.shared (state.pc thread) choice = some (after.shared, after.pc thread))
    (others : ∀ other, other ≠ thread → after.pc other = state.pc other) :
    threadStep act state (thread, choice) = some after := by
  refine threadStep_eq_some.mpr ⟨after.shared, after.pc thread, acted, System.ext rfl ?_⟩
  funext other
  show after.pc other = Function.update state.pc thread (after.pc thread) other
  by_cases same : other = thread
  · rw [same, Function.update_self]
  · rw [Function.update_of_ne same, others other same]

end ThreadTable
