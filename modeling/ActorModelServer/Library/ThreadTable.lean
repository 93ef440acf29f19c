/-
**Programs of many threads over one shared state.**

A thread is a program counter; `act shared pc choice` is what one atomic step of a thread does to
the shared state and to its own counter, `choice` resolving whatever the thread does not decide
itself. A system state is the shared state with a table of counters, and a label of the system is
a thread with a choice (`threadStep`).

* `tally weight pc` adds a weight over all threads. `tally_update` says what one step does to it.
* `tally_le_step`, `tally_eq_step` — **accounting**: an invariant `tally ≤ balance shared` (or
  `=`) is kept when the one thread that moves keeps it, whatever the other threads are doing.
* `forall_update` — **interference freedom**: an assertion about every thread is kept when the
  mover establishes it for itself and does not break it for any other counter.
* `exists_update` — which threads have a property after a step.
* `leads_of_act` — one thread steps on the way to a goal.
* `reach_each` — the threads go from one table to another, one after the other.
-/

import ActorModelServer.Library.Runs
import Mathlib.Algebra.BigOperators.Fin
import Mathlib.Algebra.Order.BigOperators.Group.Finset
import Mathlib.Data.Fintype.BigOperators
import Mathlib.Data.Fintype.Sum

namespace ThreadTable

open StepRuns (Reach Leads)

universe u v w x y

/-- The shared state and every thread's program counter. -/
@[ext]
structure System (Shared : Type u) (Tid : Type v) (Pc : Type w) where
  shared : Shared
  pc : Tid → Pc

section Step

variable {Shared : Type u} {Tid : Type v} {Pc : Type w} {Choice : Type x} [DecidableEq Tid]

/-- One step of one thread. -/
def threadStep (act : Shared → Pc → Choice → Option (Shared × Pc))
    (state : System Shared Tid Pc) (label : Tid × Choice) : Option (System Shared Tid Pc) :=
  (act state.shared (state.pc label.1) label.2).map fun result =>
    ⟨result.1, Function.update state.pc label.1 result.2⟩

/-- **Everything a step can do**: the mover acts, the other counters stay. -/
theorem threadStep_eq_some {act : Shared → Pc → Choice → Option (Shared × Pc)}
    {state after : System Shared Tid Pc} {label : Tid × Choice} :
    threadStep act state label = some after ↔
      ∃ shared pc, act state.shared (state.pc label.1) label.2 = some (shared, pc) ∧
        after = ⟨shared, Function.update state.pc label.1 pc⟩ := by
  constructor
  · intro taken
    obtain ⟨⟨shared, pc⟩, acted, rfl⟩ := Option.map_eq_some_iff.mp taken
    exact ⟨shared, pc, acted, rfl⟩
  · rintro ⟨shared, pc, acted, rfl⟩
    rw [threadStep, acted]
    rfl

/-- The mover acts, and the other counters stay. -/
theorem threadStep_moved {act : Shared → Pc → Choice → Option (Shared × Pc)}
    {state after : System Shared Tid Pc} {label : Tid × Choice}
    (taken : threadStep act state label = some after) :
    act state.shared (state.pc label.1) label.2 = some (after.shared, after.pc label.1) ∧
      ∀ other, other ≠ label.1 → after.pc other = state.pc other := by
  obtain ⟨shared, pc, acted, rfl⟩ := threadStep_eq_some.mp taken
  refine ⟨?_, fun other different => Function.update_of_ne different _ _⟩
  show _ = some (shared, Function.update state.pc label.1 pc label.1)
  rw [Function.update_self]
  exact acted

/-- One step of a thread on the way to a goal, the other counters staying. -/
theorem leads_of_act {act : Shared → Pc → Choice → Option (Shared × Pc)}
    {guard : System Shared Tid Pc → Tid × Choice → Prop} {Goal : System Shared Tid Pc → Prop}
    {state : System Shared Tid Pc} {thread : Tid} {place next : Pc} {shared : Shared}
    (here : state.pc thread = place) (choice : Choice) (allowed : guard state (thread, choice))
    (acted : act state.shared place choice = some (shared, next))
    (leads : ∀ pc : Tid → Pc, pc thread = next →
      (∀ other, other ≠ thread → pc other = state.pc other) →
        Leads (threadStep act) guard Goal ⟨shared, pc⟩) :
    Leads (threadStep act) guard Goal state := by
  refine Leads.after allowed (threadStep_eq_some.mpr ⟨shared, next, here ▸ acted, rfl⟩) ?_
  exact leads _ (Function.update_self _ _ _) fun other different =>
    Function.update_of_ne different _ _

/-- **Interference freedom.** An assertion about each thread survives a step that establishes it
for the mover's new counter and keeps it for every counter another thread may be at. -/
theorem forall_update {Holds : Shared → Pc → Prop} {shared shared' : Shared} {pc : Tid → Pc}
    {mover : Tid} {next : Pc} (all : ∀ thread, Holds shared (pc thread))
    (own : Holds shared' next)
    (others : ∀ thread, thread ≠ mover → Holds shared (pc thread) → Holds shared' (pc thread)) :
    ∀ thread, Holds shared' (Function.update pc mover next thread) := by
  intro thread
  by_cases same : thread = mover
  · subst same
    rw [Function.update_self]
    exact own
  · rw [Function.update_of_ne same]
    exact others thread same (all thread)

/-- A thread with a property after a step is the mover, or another thread that had it before. -/
theorem exists_update (Holds : Pc → Prop) {pc : Tid → Pc} {mover : Tid} {next : Pc} :
    (∃ thread, Holds (Function.update pc mover next thread)) ↔
      Holds next ∨ ∃ thread, thread ≠ mover ∧ Holds (pc thread) := by
  constructor
  · rintro ⟨thread, holds⟩
    by_cases same : thread = mover
    · rw [same, Function.update_self] at holds
      exact .inl holds
    · rw [Function.update_of_ne same] at holds
      exact .inr ⟨thread, same, holds⟩
  · rintro (holds | ⟨thread, different, holds⟩)
    · exact ⟨mover, by rwa [Function.update_self]⟩
    · exact ⟨thread, by rwa [Function.update_of_ne different]⟩

/-- A table of which some threads have gone to another one. -/
def mixed (start target : Tid → Pc) (gone : Finset Tid) (thread : Tid) : Pc :=
  if thread ∈ gone then target thread else start thread

/-- **One thread after the other.** -/
theorem reach_each [Fintype Tid] {Label : Type y}
    {step : System Shared Tid Pc → Label → Option (System Shared Tid Pc)}
    {guard : System Shared Tid Pc → Label → Prop} {shared : Shared} {start target : Tid → Pc}
    (each : ∀ gone thread, thread ∉ gone →
      Reach step guard ⟨shared, mixed start target gone⟩
        ⟨shared, Function.update (mixed start target gone) thread (target thread)⟩) :
    Reach step guard ⟨shared, start⟩ ⟨shared, target⟩ := by
  have reached (gone : Finset Tid) :
      Reach step guard ⟨shared, start⟩ ⟨shared, mixed start target gone⟩ := by
    induction gone using Finset.induction_on with
    | empty => exact .start
    | insert thread gone fresh ih =>
        have next : Function.update (mixed start target gone) thread (target thread) =
            mixed start target (insert thread gone) := by
          funext other
          by_cases same : other = thread
          · subst same
            simp [mixed]
          · simp [mixed, same]
        rw [← next]
        exact ih.trans (each gone thread fresh)
  have all : mixed start target Finset.univ = target := by
    funext thread
    simp [mixed]
  rw [← all]
  exact reached Finset.univ

end Step

/-! ### Adding a weight over the table -/

section Tally

variable {Shared : Type u} {Tid : Type v} {Pc : Type w} [Fintype Tid]

/-- The sum of a weight over all threads. -/
def tally (weight : Pc → ℕ) (pc : Tid → Pc) : ℕ := ∑ thread, weight (pc thread)

theorem weight_le_tally (weight : Pc → ℕ) (pc : Tid → Pc) (thread : Tid) :
    weight (pc thread) ≤ tally weight pc :=
  Finset.single_le_sum (f := fun other => weight (pc other)) (fun _ _ => Nat.zero_le _)
    (Finset.mem_univ thread)

theorem tally_eq_zero {weight : Pc → ℕ} {pc : Tid → Pc} :
    tally weight pc = 0 ↔ ∀ thread, weight (pc thread) = 0 := by
  simp [tally]

theorem tally_add (first second : Pc → ℕ) (pc : Tid → Pc) :
    tally (fun place => first place + second place) pc = tally first pc + tally second pc :=
  Finset.sum_add_distrib

/-- All but one thread weigh nothing. -/
theorem tally_eq_single {weight : Pc → ℕ} {pc : Tid → Pc} (thread : Tid)
    (others : ∀ other, other ≠ thread → weight (pc other) = 0) :
    tally weight pc = weight (pc thread) :=
  Finset.sum_eq_single thread (fun other _ different => others other different)
    fun missing => absurd (Finset.mem_univ thread) missing

variable [DecidableEq Tid]

/-- **One thread moves**: the tally exchanges its old weight for its new one. -/
theorem tally_update (weight : Pc → ℕ) (pc : Tid → Pc) (mover : Tid) (next : Pc) :
    tally weight (Function.update pc mover next) + weight (pc mover) =
      tally weight pc + weight next := by
  have split (table : Tid → Pc) : tally weight table =
      weight (table mover) + ∑ thread ∈ Finset.univ.erase mover, weight (table thread) :=
    (Finset.add_sum_erase Finset.univ (fun thread => weight (table thread))
      (Finset.mem_univ mover)).symm
  have others : ∑ thread ∈ Finset.univ.erase mover, weight (Function.update pc mover next thread) =
      ∑ thread ∈ Finset.univ.erase mover, weight (pc thread) := by
    refine Finset.sum_congr rfl fun thread member => ?_
    rw [Function.update_of_ne (Finset.ne_of_mem_erase member)]
  rw [split (Function.update pc mover next), split pc, others, Function.update_self]
  omega

/-- Two threads weigh at most the tally. -/
theorem add_weight_le_tally (weight : Pc → ℕ) (pc : Tid → Pc) {first second : Tid}
    (different : first ≠ second) :
    weight (pc first) + weight (pc second) ≤ tally weight pc := by
  have member : second ∈ Finset.univ.erase first :=
    Finset.mem_erase.mpr ⟨different.symm, Finset.mem_univ _⟩
  have rest := Finset.single_le_sum (f := fun other => weight (pc other))
    (fun _ _ => Nat.zero_le _) member
  have whole := Finset.add_sum_erase Finset.univ (fun thread => weight (pc thread))
    (Finset.mem_univ first)
  unfold tally
  omega

/-- **Accounting, upper bound.** A tally bounded by a balance of the shared state stays bounded
when the mover does not gain more weight than the balance gains. -/
theorem tally_le_step {weight : Pc → ℕ} {balance : Shared → ℤ} {shared shared' : Shared}
    {pc : Tid → Pc} (mover : Tid) (next : Pc)
    (bounded : (tally weight pc : ℤ) ≤ balance shared)
    (kept : balance shared + weight next ≤ balance shared' + weight (pc mover)) :
    (tally weight (Function.update pc mover next) : ℤ) ≤ balance shared' := by
  have exchange := tally_update weight pc mover next
  omega

/-- **Accounting, equality.** -/
theorem tally_eq_step {weight : Pc → ℕ} {balance : Shared → ℤ} {shared shared' : Shared}
    {pc : Tid → Pc} (mover : Tid) (next : Pc)
    (balanced : (tally weight pc : ℤ) = balance shared)
    (kept : balance shared + weight next = balance shared' + weight (pc mover)) :
    (tally weight (Function.update pc mover next) : ℤ) = balance shared' := by
  have exchange := tally_update weight pc mover next
  omega

end Tally

end ThreadTable
