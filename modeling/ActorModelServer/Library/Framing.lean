/-
**Streams of frames, cut anywhere.**

A stream is the concatenation of frames. `boundary frames count` is where the first `count` frames
end. A reader that takes whole frames off the stream, and leaves the rest alone only when it is no
longer than `slack`, is content with the first `position` symbols when they end at most `slack`
behind a boundary (`Settled`).

* `settled_cons_iff` — beyond the slack, the first frame has to be there; the rest is about the
  other frames.
* `settled_drop_iff` — the same after any number of whole frames.
* `split_frame` — a buffer that holds the whole first frame begins with it.
-/

import Mathlib.Data.List.TakeDrop
import Mathlib.Algebra.BigOperators.Group.List.Basic
import Mathlib.Tactic.Common

namespace Framing

universe u

section Framing

variable {Symbol : Type u}

/-- Where the first frames of a stream end. -/
def boundary (frames : List (List Symbol)) (count : ℕ) : ℕ := (frames.take count).flatten.length

/-- The position is at most `slack` behind a boundary. -/
def Settled (slack : ℕ) (frames : List (List Symbol)) (position : ℕ) : Prop :=
  ∃ count, boundary frames count ≤ position ∧ position ≤ boundary frames count + slack

variable {slack position : ℕ} {frame : List Symbol} {frames : List (List Symbol)}

@[simp]
theorem boundary_zero (frames : List (List Symbol)) : boundary frames 0 = 0 := rfl

@[simp]
theorem boundary_nil (count : ℕ) : boundary ([] : List (List Symbol)) count = 0 := by
  simp [boundary]

theorem boundary_cons_succ (frame : List Symbol) (frames : List (List Symbol)) (count : ℕ) :
    boundary (frame :: frames) (count + 1) = frame.length + boundary frames count := by
  simp [boundary]

/-- Behind a boundary the stream is that of the other frames. -/
theorem drop_boundary (frames : List (List Symbol)) (count : ℕ) :
    frames.flatten.drop (boundary frames count) = (frames.drop count).flatten := by
  have split : frames.flatten = (frames.take count).flatten ++ (frames.drop count).flatten := by
    rw [← List.flatten_append, List.take_append_drop]
  rw [split, boundary, List.drop_left]

/-- A buffer at the front of a stream that holds the whole first frame begins with it. -/
theorem split_frame {buffer coming others : List Symbol}
    (stream : buffer ++ coming = frame ++ others) (whole : frame.length ≤ buffer.length) :
    ∃ rest, buffer = frame ++ rest ∧ rest ++ coming = others := by
  rcases List.append_eq_append_iff.mp stream with ⟨rest, same, behind⟩ | ⟨rest, same, behind⟩
  · have none : rest = [] := by
      rw [same, List.length_append] at whole
      exact List.eq_nil_of_length_eq_zero (by omega)
    subst none
    exact ⟨[], by simpa using same.symm, by simpa using behind⟩
  · exact ⟨rest, same, behind.symm⟩

theorem settled_of_le (close : position ≤ slack) : Settled slack frames position :=
  ⟨0, Nat.zero_le _, by simpa using close⟩

/-- Beyond the slack, the first frame is there and the rest settles. -/
theorem settled_cons_iff (beyond : slack < position) :
    Settled slack (frame :: frames) position ↔
      frame.length ≤ position ∧ Settled slack frames (position - frame.length) := by
  constructor
  · rintro ⟨count, least, most⟩
    cases count with
    | zero =>
        rw [boundary_zero] at most
        omega
    | succ count =>
        rw [boundary_cons_succ] at least most
        exact ⟨by omega, count, by omega, by omega⟩
  · rintro ⟨whole, count, least, most⟩
    refine ⟨count + 1, ?_, ?_⟩ <;> rw [boundary_cons_succ] <;> omega

/-- Whole frames can be left out, when each is longer than the slack. -/
theorem settled_drop_iff (long : ∀ frame ∈ frames, slack < frame.length) (taken : ℕ)
    (behind : boundary frames taken ≤ position) :
    Settled slack frames position ↔
      Settled slack (frames.drop taken) (position - boundary frames taken) := by
  induction taken generalizing frames position with
  | zero => simp
  | succ taken ih =>
      cases frames with
      | nil => simp
      | cons frame frames =>
          rw [boundary_cons_succ] at behind ⊢
          have beyond : slack < position := by
            have := long frame List.mem_cons_self
            omega
          rw [settled_cons_iff beyond, List.drop_succ_cons,
            ih (fun other member => long other (List.mem_cons_of_mem _ member)) (by omega)]
          constructor
          · rintro ⟨-, rest⟩
            rwa [Nat.sub_add_eq]
          · intro rest
            exact ⟨by omega, by rwa [Nat.sub_add_eq] at rest⟩

end Framing

end Framing
