/-
**When a fallible computation succeeds.**

`Exact allowed run Post` says that a computation with errors succeeds exactly under a condition, and
that its result then has a property.

* `Exact.pure`, `Exact.map`, `Exact.bind`, `Exact.of_iff` — nothing can go wrong; a part of the
  result; one computation after another; the same condition in other words.
* `Exact.foldlM` — a loop, whose invariant may speak of the items that are left.
* `Exact.of_ok`, `Exact.of_error` — what a result, or an error, tells.
-/

import Mathlib.Logic.Basic
import Mathlib.Tactic.Common

namespace Fallible

universe u v w

variable {Error : Type u} {α : Type v} {β : Type v}

/-- The computation succeeds exactly under the condition, with a result that has the property. -/
structure Exact (allowed : Prop) (run : Except Error α) (Post : α → Prop) : Prop where
  succeeds : allowed → ∃ result, run = .ok result ∧ Post result
  fails : ¬ allowed → ∃ error, run = .error error

variable {allowed further : Prop} {run : Except Error α} {Post : α → Prop}

theorem Exact.pure {result : α} (post : Post result) :
    Exact True (pure result : Except Error α) Post :=
  ⟨fun _ => ⟨result, rfl, post⟩, fun refused => absurd trivial refused⟩

theorem Exact.of_iff (exact : Exact allowed run Post) (same : further ↔ allowed) :
    Exact further run Post :=
  ⟨fun holds => exact.succeeds (same.mp holds), fun refused => exact.fails (mt same.mpr refused)⟩

/-- A part of the result. -/
theorem Exact.map {view : α → β} {Final : β → Prop} (exact : Exact allowed run Post)
    (post : ∀ result, Post result → Final (view result)) : Exact allowed (view <$> run) Final where
  succeeds holds := by
    obtain ⟨result, rfl, held⟩ := exact.succeeds holds
    exact ⟨view result, rfl, post result held⟩
  fails refused := by
    obtain ⟨error, rfl⟩ := exact.fails refused
    exact ⟨error, rfl⟩

/-- **One computation after another.** -/
theorem Exact.bind {next : α → Except Error β} {Final : β → Prop}
    (first : Exact allowed run Post)
    (second : ∀ result, Post result → Exact further (next result) Final) :
    Exact (allowed ∧ further) (run >>= next) Final where
  succeeds := by
    rintro ⟨holds, also⟩
    obtain ⟨result, rfl, post⟩ := first.succeeds holds
    exact (second result post).succeeds also
  fails refused := by
    by_cases holds : allowed
    · obtain ⟨result, rfl, post⟩ := first.succeeds holds
      exact (second result post).fails fun also => refused ⟨holds, also⟩
    · obtain ⟨error, rfl⟩ := first.fails holds
      exact ⟨error, rfl⟩

/-- **A loop succeeds** exactly when each of its passes does. -/
theorem Exact.foldlM {State : Type w} {pass : State → α → Except Error State}
    {Allowed : α → Prop} (Holds : List α → State → Prop)
    (each : ∀ item rest state, Holds (item :: rest) state →
      Exact (Allowed item) (pass state item) (Holds rest))
    (items : List α) (state : State) (holds : Holds items state) :
    Exact (∀ item ∈ items, Allowed item) (items.foldlM pass state) (Holds []) := by
  induction items generalizing state with
  | nil => exact (Exact.pure holds).of_iff (iff_of_true (by simp) trivial)
  | cons item rest ih =>
      rw [List.foldlM_cons]
      exact ((each item rest state holds).bind fun next held => ih next held).of_iff
        List.forall_mem_cons

/-- A result tells that the condition held. -/
theorem Exact.of_ok (exact : Exact allowed run Post) {result : α} (ok : run = .ok result) :
    allowed ∧ Post result := by
  by_cases holds : allowed
  · obtain ⟨other, same, post⟩ := exact.succeeds holds
    obtain rfl := Except.ok.inj (ok.symm.trans same)
    exact ⟨holds, post⟩
  · obtain ⟨error, failed⟩ := exact.fails holds
    cases ok.symm.trans failed

/-- An error tells that it did not. -/
theorem Exact.of_error (exact : Exact allowed run Post) {error : Error}
    (failed : run = .error error) : ¬ allowed := by
  intro holds
  obtain ⟨result, ok, -⟩ := exact.succeeds holds
  cases failed.symm.trans ok

end Fallible
