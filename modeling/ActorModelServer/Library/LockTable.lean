/-
**Threads that take mutexes.**

A place of a program holds some mutexes, each shared or exclusively, and may be waiting for one
(`Locking`). A thread whose place waits moves only when no other thread holds that mutex in a
conflicting mode (`lockStep`), whatever order the waiting threads are served in.

* `Excluded.step` — **mutual exclusion**: a step that gains no mutex but the one it waited for keeps
  the modes in which the threads hold a mutex compatible.
* `blocks`, `Deadlocked` — a place waits for a mutex another place holds; two places wait for each
  other.
* `Acyclic` — no set of threads waits in a cycle. Only threads that hold something and wait matter
  (`Acyclic.of_waiting`), and a rank that rises from what is held to what is wanted excludes cycles
  (`acyclic_of_rank`).
* `reach_solo` — a thread that nobody blocks steps alone.
-/

import ActorModelServer.Library.ThreadTable
import Mathlib.Logic.Relation

namespace ThreadTable

universe u v w x y

/-- How a mutex is held. -/
inductive Mode
  | shared
  | exclusive
  deriving DecidableEq, Repr

/-- Two threads may hold a mutex at once when both share it. -/
def Mode.compatible : Mode → Mode → Bool
  | .shared, .shared => true
  | _, _ => false

/-- Which mutexes a place holds, and which one it waits for. -/
structure Locking (Pc : Type w) (Mutex : Type y) where
  held : Pc → Mutex → Option Mode
  wanted : Pc → Option (Mutex × Mode)

section Locking

variable {Shared : Type u} {Tid : Type v} {Pc : Type w} {Choice : Type x} {Mutex : Type y}

/-- The holder keeps the waiter from the mutex it waits for. -/
def Locking.blocks (locking : Locking Pc Mutex) (holder waiter : Pc) : Bool :=
  match locking.wanted waiter with
  | none => false
  | some (mutex, mode) =>
      match locking.held holder mutex with
      | none => false
      | some other => !mode.compatible other

theorem Locking.blocks_iff {locking : Locking Pc Mutex} {holder waiter : Pc} :
    locking.blocks holder waiter = true ↔
      ∃ mutex mode other, locking.wanted waiter = some (mutex, mode) ∧
        locking.held holder mutex = some other ∧ mode.compatible other = false := by
  unfold Locking.blocks
  cases wants : locking.wanted waiter with
  | none => simp
  | some want =>
      obtain ⟨mutex, mode⟩ := want
      cases holds : locking.held holder mutex <;> simp [holds]

/-- Each of two places waits for a mutex the other holds. -/
def Locking.Deadlocked (locking : Locking Pc Mutex) (first second : Pc) : Prop :=
  locking.blocks second first = true ∧ locking.blocks first second = true

instance (locking : Locking Pc Mutex) (first second : Pc) :
    Decidable (locking.Deadlocked first second) :=
  inferInstanceAs (Decidable (_ ∧ _))

/-- No other thread keeps a thread from moving. -/
def Locking.Free (locking : Locking Pc Mutex) (pc : Tid → Pc) (thread : Tid) : Prop :=
  ∀ other, other ≠ thread → locking.blocks (pc other) (pc thread) = false

instance [Fintype Tid] [DecidableEq Tid] (locking : Locking Pc Mutex) (pc : Tid → Pc)
    (thread : Tid) : Decidable (locking.Free pc thread) :=
  inferInstanceAs (Decidable (∀ _, _))

/-- One step of one thread, which waits while it is blocked. -/
def lockStep [Fintype Tid] [DecidableEq Tid] (locking : Locking Pc Mutex)
    (act : Shared → Pc → Choice → Option (Shared × Pc)) (state : System Shared Tid Pc)
    (label : Tid × Choice) : Option (System Shared Tid Pc) :=
  if locking.Free state.pc label.1 then threadStep act state label else none

/-- **Everything a step can do**: the mover is free and acts, the other threads stay. -/
theorem lockStep_moved [Fintype Tid] [DecidableEq Tid] {locking : Locking Pc Mutex}
    {act : Shared → Pc → Choice → Option (Shared × Pc)} {state after : System Shared Tid Pc}
    {label : Tid × Choice} (taken : lockStep locking act state label = some after) :
    locking.Free state.pc label.1 ∧
      act state.shared (state.pc label.1) label.2 = some (after.shared, after.pc label.1) ∧
      ∀ thread, thread ≠ label.1 → after.pc thread = state.pc thread := by
  rw [lockStep] at taken
  split at taken
  · rename_i free
    obtain ⟨shared, pc, acted, rfl⟩ := threadStep_eq_some.mp taken
    exact ⟨free, by simp [acted], fun thread different => Function.update_of_ne different _ _⟩
  · cases taken

/-- A free thread that can act moves. -/
theorem lockStep_of_free [Fintype Tid] [DecidableEq Tid] {locking : Locking Pc Mutex}
    {act : Shared → Pc → Choice → Option (Shared × Pc)} {state : System Shared Tid Pc}
    {label : Tid × Choice} {shared : Shared} {next : Pc} (free : locking.Free state.pc label.1)
    (acted : act state.shared (state.pc label.1) label.2 = some (shared, next)) :
    lockStep locking act state label = some ⟨shared, Function.update state.pc label.1 next⟩ := by
  rw [lockStep, if_pos free]
  exact threadStep_eq_some.mpr ⟨shared, next, acted, rfl⟩

/-- A step gains no mutex but the one its place waits for. -/
def Locking.GainsWanted (locking : Locking Pc Mutex) (place next : Pc) : Prop :=
  ∀ mutex mode, locking.held next mutex = some mode →
    locking.held place mutex = some mode ∨ locking.wanted place = some (mutex, mode)

/-- No two threads hold a mutex in conflicting modes. -/
def Locking.Excluded (locking : Locking Pc Mutex) (pc : Tid → Pc) : Prop :=
  ∀ first second, first ≠ second → ∀ mutex mode other,
    locking.held (pc first) mutex = some mode → locking.held (pc second) mutex = some other →
      mode.compatible other = true

theorem Mode.compatible_comm (mode other : Mode) :
    mode.compatible other = other.compatible mode := by
  cases mode <;> cases other <;> rfl

/-- A free thread may take what it waits for beside every other holder. -/
theorem Locking.Free.compatible {locking : Locking Pc Mutex} {pc : Tid → Pc} {thread other : Tid}
    (free : locking.Free pc thread) (different : other ≠ thread) {mutex : Mutex}
    {mode held : Mode} (wants : locking.wanted (pc thread) = some (mutex, mode))
    (holds : locking.held (pc other) mutex = some held) : mode.compatible held = true := by
  have unblocked := free other different
  simpa [Locking.blocks, wants, holds] using unblocked

/-- **Mutual exclusion** is kept by every step. -/
theorem Locking.Excluded.step {locking : Locking Pc Mutex} {pc pc' : Tid → Pc} {mover : Tid}
    (excluded : locking.Excluded pc) (free : locking.Free pc mover)
    (gains : locking.GainsWanted (pc mover) (pc' mover))
    (others : ∀ thread, thread ≠ mover → pc' thread = pc thread) : locking.Excluded pc' := by
  have beside {other : Tid} (different : other ≠ mover) {mutex : Mutex} {mode held : Mode}
      (gained : locking.held (pc' mover) mutex = some mode)
      (holds : locking.held (pc other) mutex = some held) : mode.compatible held = true := by
    rcases gains mutex mode gained with kept | wants
    · exact excluded mover other different.symm mutex mode held kept holds
    · exact free.compatible different wants holds
  intro first second different mutex mode other holds holds'
  by_cases moved : first = mover
  · subst moved
    rw [others second different.symm] at holds'
    exact beside different.symm holds holds'
  · rw [others first moved] at holds
    by_cases moved' : second = mover
    · subst moved'
      rw [Mode.compatible_comm]
      exact beside different holds' holds
    · rw [others second moved'] at holds'
      exact excluded first second different mutex mode other holds holds'

/-! ### Waiting in a cycle -/

/-- A thread waits for a mutex the other holds. -/
def Locking.Waits (locking : Locking Pc Mutex) (pc : Tid → Pc) (waiter holder : Tid) : Prop :=
  locking.blocks (pc holder) (pc waiter) = true

/-- No set of threads waits in a cycle. -/
def Locking.Acyclic (locking : Locking Pc Mutex) (pc : Tid → Pc) : Prop :=
  ∀ thread, ¬ Relation.TransGen (locking.Waits pc) thread thread

/-- A thread that waits wants something, and the one it waits for holds something. -/
theorem Locking.Waits.wants_holds {locking : Locking Pc Mutex} {pc : Tid → Pc}
    {waiter holder : Tid} (waits : locking.Waits pc waiter holder) :
    ∃ mutex mode held, locking.wanted (pc waiter) = some (mutex, mode) ∧
      locking.held (pc holder) mutex = some held := by
  obtain ⟨mutex, mode, held, wants, holds, -⟩ := Locking.blocks_iff.mp waits
  exact ⟨mutex, mode, held, wants, holds⟩

/-- The place holds a mutex, and waits for one. -/
def Locking.HoldsAndWaits (locking : Locking Pc Mutex) (place : Pc) : Prop :=
  (∃ mutex held, locking.held place mutex = some held) ∧ ∃ want, locking.wanted place = some want

/-- **Only threads that hold and wait matter** for a cycle. -/
theorem Locking.Acyclic.of_waiting {locking : Locking Pc Mutex} {pc pc' : Tid → Pc}
    (acyclic : locking.Acyclic pc')
    (same : ∀ thread, locking.HoldsAndWaits (pc thread) → pc' thread = pc thread) :
    locking.Acyclic pc := by
  have lifted {first last : Tid} (path : Relation.TransGen (locking.Waits pc) first last)
      (holds : ∃ mutex held, locking.held (pc first) mutex = some held)
      (wants : ∃ want, locking.wanted (pc last) = some want) :
      Relation.TransGen (locking.Waits pc') first last := by
    induction path using Relation.TransGen.head_induction_on with
    | single edge =>
        obtain ⟨mutex, mode, held, want, hold⟩ := edge.wants_holds
        refine .single ?_
        rw [Locking.Waits, same _ ⟨holds, _, want⟩, same _ ⟨⟨mutex, held, hold⟩, wants⟩]
        exact edge
    | head edge rest ih =>
        obtain ⟨mutex, mode, held, want, hold⟩ := edge.wants_holds
        obtain ⟨next, nextEdge, -⟩ := Relation.TransGen.head'_iff.mp rest
        obtain ⟨mutex', mode', -, want', -⟩ := nextEdge.wants_holds
        refine .head ?_ (ih ⟨mutex, held, hold⟩)
        rw [Locking.Waits, same _ ⟨holds, _, want⟩, same _ ⟨⟨mutex, held, hold⟩, _, want'⟩]
        exact edge
  intro thread cycle
  obtain ⟨next, first, -⟩ := Relation.TransGen.head'_iff.mp cycle
  obtain ⟨previous, -, last⟩ := Relation.TransGen.tail'_iff.mp cycle
  obtain ⟨mutex, mode, -, want, -⟩ := first.wants_holds
  obtain ⟨mutex', -, held, -, hold⟩ := last.wants_holds
  exact acyclic thread (lifted cycle ⟨mutex', held, hold⟩ ⟨_, want⟩)

/-- **The rank rule.** Where every wanted mutex ranks above what the place holds, no set of threads
waits in a cycle. -/
theorem Locking.acyclic_of_rank {locking : Locking Pc Mutex} {pc : Tid → Pc} (rank : Mutex → ℕ)
    (rises : ∀ thread mutex mode, locking.wanted (pc thread) = some (mutex, mode) →
      ∀ other held, locking.held (pc thread) other = some held → rank other < rank mutex) :
    locking.Acyclic pc := by
  have climbs {first last : Tid} (path : Relation.TransGen (locking.Waits pc) first last)
      {mutex : Mutex} {mode : Mode} (wants : locking.wanted (pc last) = some (mutex, mode)) :
      ∃ lower lowerMode, locking.wanted (pc first) = some (lower, lowerMode) ∧
        rank lower < rank mutex := by
    induction path using Relation.TransGen.head_induction_on with
    | single edge =>
        obtain ⟨lower, lowerMode, held, want, hold⟩ := edge.wants_holds
        exact ⟨lower, lowerMode, want, rises _ _ _ wants lower held hold⟩
    | head edge _ ih =>
        obtain ⟨middle, middleMode, wants', below⟩ := ih
        obtain ⟨lower, lowerMode, held, want, hold⟩ := edge.wants_holds
        exact ⟨lower, lowerMode, want, (rises _ _ _ wants' lower held hold).trans below⟩
  intro thread cycle
  obtain ⟨next, first, -⟩ := Relation.TransGen.head'_iff.mp cycle
  obtain ⟨mutex, mode, -, want, -⟩ := first.wants_holds
  obtain ⟨lower, lowerMode, want', below⟩ := climbs cycle want
  rw [want] at want'
  cases want'
  exact lt_irrefl _ below

/-! ### A thread that steps alone -/

/-- No other thread keeps a thread from moving on from a place. -/
def Locking.FreeAt (locking : Locking Pc Mutex) (pc : Tid → Pc) (thread : Tid) (place : Pc) :
    Prop :=
  ∀ other, other ≠ thread → locking.blocks (pc other) place = false

theorem Locking.freeAt_of_wanted_none {locking : Locking Pc Mutex} {place : Pc}
    (wants : locking.wanted place = none) (pc : Tid → Pc) (thread : Tid) :
    locking.FreeAt pc thread place := by
  intro other _
  rw [Locking.blocks, wants]

/-- **A thread that nobody blocks** takes a step. -/
theorem reach_solo [Fintype Tid] [DecidableEq Tid] {locking : Locking Pc Mutex}
    {act : Shared → Pc → Choice → Option (Shared × Pc)} {shared shared' : Shared}
    {pc : Tid → Pc} {thread : Tid} {place next : Pc} (choice : Choice)
    (acted : act shared place choice = some (shared', next))
    (free : locking.FreeAt pc thread place) :
    StepRuns.Reach (lockStep locking act) StepRuns.Unguarded
      ⟨shared, Function.update pc thread place⟩ ⟨shared', Function.update pc thread next⟩ := by
  have taken : lockStep locking act ⟨shared, Function.update pc thread place⟩ (thread, choice) =
      some ⟨shared', Function.update pc thread next⟩ := by
    have free' : locking.Free (Function.update pc thread place) thread := by
      intro other different
      rw [Function.update_self, Function.update_of_ne different]
      exact free other different
    have acted' : act shared (Function.update pc thread place thread) choice =
        some (shared', next) := by
      rw [Function.update_self]
      exact acted
    rw [lockStep_of_free free' acted', Function.update_idem]
  exact .step .start trivial taken

end Locking

end ThreadTable
