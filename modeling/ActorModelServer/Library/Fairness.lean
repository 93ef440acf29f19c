/-
**Progress along an infinite run.**

A run may go on for ever without a step that could always be taken; weak fairness excludes that for
a kind of steps. Progress is what follows from it.

* `Trace.Fair` — a kind of step that stays possible is taken.
* `Trace.later_of_fair` — a fair kind of step stays possible under a condition that lasts until the
  goal, and such a step reaches the goal: then the goal is reached.
* `Trace.later_of_rank` — the goal is reached where every time under the condition is followed by
  the goal or by a time of a lower rank.
* `Trace.later_of_descent` — the same for one fair kind of step that stays possible.
* `exists_trace_of_run` — a schedule and then one step for ever, and `Trace.fair_of_settled`, which
  says that this is fair to what is not possible in the end.
-/

import ActorModelServer.Library.ThreadTable

namespace StepRuns

universe u v

section Progress

variable {State : Type u} {Label : Type v} {step : State → Label → Option State} {start : State}

variable (step) in
/-- A step of the kind is possible. -/
def Enabled (Kind : Label → Prop) (state : State) : Prop :=
  ∃ label next, Kind label ∧ step state label = some next

/-- **Weak fairness**: a kind of step that stays possible is taken. -/
def Trace.Fair (trace : Trace step start) (Kind : Label → Prop) : Prop :=
  ∀ time, (∀ later, time ≤ later → Enabled step Kind (trace.state later)) →
    ∃ later, time ≤ later ∧ Kind (trace.label later)

/-- The goal holds at a time from this one on. -/
def Trace.Later (trace : Trace step start) (time : ℕ) (Goal : State → Prop) : Prop :=
  ∃ later, time ≤ later ∧ Goal (trace.state later)

variable {trace : Trace step start} {time : ℕ} {Goal : State → Prop}

theorem Trace.Later.now (goal : Goal (trace.state time)) : trace.Later time Goal :=
  ⟨time, Nat.le_refl time, goal⟩

/-- One goal after the other. -/
theorem Trace.Later.trans {Middle : State → Prop} (later : trace.Later time Middle)
    (onward : ∀ middle, time ≤ middle → Middle (trace.state middle) → trace.Later middle Goal) :
    trace.Later time Goal := by
  obtain ⟨middle, order, halfway⟩ := later
  obtain ⟨last, order', goal⟩ := onward middle order halfway
  exact ⟨last, Nat.le_trans order order', goal⟩

theorem Trace.Later.mono {Other : State → Prop} (later : trace.Later time Goal)
    (weaker : ∀ state, Goal state → Other state) : trace.Later time Other := by
  obtain ⟨last, order, goal⟩ := later
  exact ⟨last, order, weaker _ goal⟩

/-- What lasts from a time on, when every step keeps it. -/
theorem Trace.lasts (Holds : State → Prop) (now : Holds (trace.state time))
    (kept : ∀ later, time ≤ later → Holds (trace.state later) → Holds (trace.state (later + 1))) :
    ∀ later, time ≤ later → Holds (trace.state later) := by
  intro later order
  induction order with
  | refl => exact now
  | step order ih => exact kept _ order ih

/-- **One fair step.** A fair kind of step stays possible under the condition, and a step keeps the
condition and is of another kind, or reaches the goal. -/
theorem Trace.later_of_fair {Kind : Label → Prop} (fair : trace.Fair Kind)
    (Holds : State → Prop) (now : Holds (trace.state time))
    (enabled : ∀ later, time ≤ later → Holds (trace.state later) →
      Enabled step Kind (trace.state later))
    (once : ∀ later, time ≤ later → Holds (trace.state later) →
      Holds (trace.state (later + 1)) ∧ ¬ Kind (trace.label later) ∨
        Goal (trace.state (later + 1))) :
    trace.Later time Goal := by
  by_contra never
  have stays (later : ℕ) (order : time ≤ later) (holds : Holds (trace.state later)) :
      Holds (trace.state (later + 1)) ∧ ¬ Kind (trace.label later) :=
    (once later order holds).resolve_right fun goal =>
      never ⟨later + 1, Nat.le_succ_of_le order, goal⟩
  have holds : ∀ later, time ≤ later → Holds (trace.state later) :=
    Trace.lasts Holds now fun later order holds => (stays later order holds).1
  obtain ⟨later, order, kind⟩ := fair time fun later order =>
    enabled later order (holds later order)
  exact (stays later order (holds later order)).2 kind

/-- **The ranking rule.** From every time under the condition the goal comes, or the condition with
a lower rank. -/
theorem Trace.later_of_rank (rank : State → ℕ) (Holds : State → Prop)
    (now : Holds (trace.state time))
    (descends : ∀ later, time ≤ later → Holds (trace.state later) →
      trace.Later later fun state => Goal state ∨
        Holds state ∧ rank state < rank (trace.state later)) :
    trace.Later time Goal := by
  have reached (bound : ℕ) : ∀ later, time ≤ later → Holds (trace.state later) →
      rank (trace.state later) ≤ bound → trace.Later later Goal := by
    induction bound with
    | zero =>
        intro later order holds low
        refine (descends later order holds).mono fun state => ?_
        rintro (goal | ⟨-, lower⟩)
        · exact goal
        · omega
    | succ bound ih =>
        intro later order holds low
        refine (descends later order holds).trans fun middle onward => ?_
        rintro (goal | ⟨holds', lower⟩)
        · exact .now goal
        · exact ih middle (Nat.le_trans order onward) holds' (by omega)
  exact reached _ time (Nat.le_refl time) now (Nat.le_refl _)

/-- **The ranking rule for one fair kind of step**: no step raises the rank, and the fair ones,
which stay possible, lower it. -/
theorem Trace.later_of_descent {Kind : Label → Prop} (fair : trace.Fair Kind) (rank : State → ℕ)
    (Holds : State → Prop) (now : Holds (trace.state time))
    (enabled : ∀ later, time ≤ later → Holds (trace.state later) →
      Enabled step Kind (trace.state later))
    (descends : ∀ later, time ≤ later → Holds (trace.state later) →
      Goal (trace.state (later + 1)) ∨
        Holds (trace.state (later + 1)) ∧
          rank (trace.state (later + 1)) ≤ rank (trace.state later) ∧
          (Kind (trace.label later) → rank (trace.state (later + 1)) < rank (trace.state later))) :
    trace.Later time Goal := by
  refine Trace.later_of_rank rank Holds now fun moment order holds => ?_
  refine Trace.later_of_fair fair
    (fun state => Holds state ∧ rank state = rank (trace.state moment)) ⟨holds, rfl⟩ ?_ ?_
  · exact fun later onward stays => enabled later (Nat.le_trans order onward) stays.1
  · rintro later onward ⟨holds, same⟩
    rcases descends later (Nat.le_trans order onward) holds with goal | ⟨holds', most, lower⟩
    · exact .inr (.inl goal)
    · rcases Nat.lt_or_eq_of_le most with less | equal
      · exact .inr (.inr ⟨holds', same ▸ less⟩)
      · exact .inl ⟨⟨holds', equal.trans same⟩, fun kind => (lower kind).ne equal⟩

/-- A kind of step that is not possible any more is not owed. -/
theorem Trace.fair_of_settled {Kind : Label → Prop} (time : ℕ)
    (settled : ∀ later, time ≤ later → ¬ Enabled step Kind (trace.state later)) :
    trace.Fair Kind := by
  intro start possible
  have last := Nat.le_max_left time start
  exact absurd (possible (max time start) (Nat.le_max_right time start)) (settled _ last)

end Progress

section Schedules

variable {State : Type u} {Label : Type v} {step : State → Label → Option State}

/-- **A schedule, and then one step for ever.** -/
theorem exists_trace_of_run {start last : State} {idle : Label} (schedule : List Label)
    (executed : run step start schedule = some last) (stays : step last idle = some last) :
    ∃ trace : Trace step start,
      (∀ time, run step start (schedule.take time) = some (trace.state time)) ∧
        (∀ time label, schedule[time]? = some label → trace.label time = label) ∧
        ∀ time, schedule.length ≤ time → trace.state time = last ∧ trace.label time = idle := by
  induction schedule generalizing start with
  | nil =>
      cases executed
      refine ⟨⟨fun _ => last, fun _ => idle, rfl, fun _ => stays⟩, fun time => ?_, ?_,
        fun _ _ => ⟨rfl, rfl⟩⟩
      · rw [List.take_nil, run]
      · intro time label there
        cases there
  | cons label rest ih =>
      obtain ⟨next, taken, onward⟩ := Option.bind_eq_some_iff.mp executed
      obtain ⟨trace, fronts, labels, ends⟩ := ih onward
      refine ⟨⟨fun time => time.casesOn start trace.state,
        fun time => time.casesOn label trace.label, rfl, ?_⟩, ?_, ?_, ?_⟩
      · intro time
        cases time with
        | zero =>
            show step start label = some (trace.state 0)
            rw [trace.begins]
            exact taken
        | succ time => exact trace.steps time
      · intro time
        cases time with
        | zero => rfl
        | succ time =>
            exact Option.bind_eq_some_iff.mpr ⟨next, taken, fronts time⟩
      · intro time other there
        cases time with
        | zero => exact Option.some.inj there
        | succ time => exact labels time other there
      · intro time long
        cases time with
        | zero => exact absurd long (Nat.not_succ_le_zero _)
        | succ time => exact ends time (Nat.le_of_succ_le_succ long)

end Schedules

end StepRuns

namespace ThreadTable

open StepRuns (Enabled)

/-- A step a thread can take is possible. -/
theorem enabled_of_act {Shared Tid Pc Choice : Type*} [DecidableEq Tid]
    {act : Shared → Pc → Choice → Option (Shared × Pc)} {Kind : Tid × Choice → Prop}
    {state : System Shared Tid Pc} (thread : Tid) (choice : Choice) {shared : Shared} {next : Pc}
    (kind : Kind (thread, choice))
    (acted : act state.shared (state.pc thread) choice = some (shared, next)) :
    Enabled (threadStep act) Kind state :=
  ⟨(thread, choice), _, kind, threadStep_eq_some.mpr ⟨shared, next, acted, rfl⟩⟩

end ThreadTable
