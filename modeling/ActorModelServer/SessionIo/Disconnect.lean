/-
**`Disconnect` and the flag it tests.**

`Disconnect` shuts the socket down when `isUsingSession` is set, and clears the flag. `TakesEffect`
is what a first call is for: one `shutdown`, and nothing from any later call.

* `takesEffect_iff` — from any state at all, a call takes effect exactly when the flag is set;
* `isUsingSession_false` — in no reachable state is it: `OnConnected` alone sets it, and no thread
  runs `OnConnected`;
* `disconnect_never_takesEffect` — so no call of any run shuts a socket down.
-/

import ActorModelServer.SessionIo.Moves

namespace ActorModelServer.SessionIo

open ThreadTable (threadStep_eq_some)
open StepRuns (Reach Unguarded run reach_of_run)

universe u

section Disconnect

variable {Buffer : Type u} {Io : Type}

/-- `OnConnected`. -/
def Session.onConnected (session : Session Buffer) : Session Buffer :=
  { session with isUsingSession := true }

/-- Accepted and inserted, and not released. -/
def Session.Connected (session : Session Buffer) : Prop :=
  session.registered = true ∧ session.released = 0

instance (session : Session Buffer) : Decidable session.Connected :=
  inferInstanceAs (Decidable (_ ∧ _))

/-- A call of `Disconnect` shuts the socket down, and no later call does anything. -/
def TakesEffect [DecidableEq Io] (state : State Buffer Io) : Prop :=
  state.shared.disconnect.shutdowns = state.shared.shutdowns + 1 ∧
    ∀ later, Reach step Unguarded { state with shared := state.shared.disconnect } later →
      later.shared.disconnect = later.shared

/-- Where the flag is clear `Disconnect` does nothing. -/
theorem Session.disconnect_unused {session : Session Buffer}
    (unused : session.isUsingSession = false) : session.disconnect = session :=
  if_pos unused

/-- **No step sets the flag.** -/
theorem isUsingSession_move {session session' : Session Buffer} {pc pc' : Pc Buffer}
    {choice : Choice Buffer} (moved : Moves session pc choice session' pc')
    (unused : session.isUsingSession = false) : session'.isUsingSession = false := by
  cases moved with
  | released next => exact session.releaseSession_isUsingSession
  | disconnected => rw [session.disconnect_unused unused, unused]
  | dequeued index restSize buffers next more => rw [session.dequeueInto_eq, unused]
  | _ => exact unused

variable [DecidableEq Io]

/-- A cleared flag stays clear. -/
theorem isUsingSession_reach {guard : State Buffer Io → Tid Io × Choice Buffer → Prop}
    {state later : State Buffer Io} (reached : Reach step guard state later)
    (unused : state.shared.isUsingSession = false) : later.shared.isUsingSession = false := by
  refine reached.invariant (fun state : State Buffer Io => state.shared.isUsingSession = false)
    unused ?_
  intro before label after unused _ taken
  obtain ⟨session', pc', acted, rfl⟩ := threadStep_eq_some.mp taken
  exact isUsingSession_move (act_moves acted) unused

/-- **In no reachable state is the session in use.** -/
theorem isUsingSession_false {guard : State Buffer Io → Tid Io × Choice Buffer → Prop}
    {state : State Buffer Io} (reached : Reach step guard (initial Buffer Io) state) :
    state.shared.isUsingSession = false :=
  isUsingSession_reach reached rfl

/-- **A call takes effect exactly when the flag is set.** -/
theorem takesEffect_iff {state : State Buffer Io} :
    TakesEffect state ↔ state.shared.isUsingSession = true := by
  constructor
  · rintro ⟨shut, -⟩
    by_contra unused
    rw [Bool.not_eq_true] at unused
    rw [Session.disconnect_unused unused] at shut
    exact Nat.succ_ne_self _ shut.symm
  · intro used
    refine ⟨?_, fun later reached => ?_⟩
    · rw [Session.disconnect_eq, used, Bool.toNat_true]
    · have cleared : state.shared.disconnect.isUsingSession = false := by
        rw [Session.disconnect_eq]
      exact Session.disconnect_unused (isUsingSession_reach reached cleared)

/-- Had `OnConnected` run, the call would take effect. -/
theorem takesEffect_onConnected (state : State Buffer Io) :
    TakesEffect { state with shared := state.shared.onConnected } :=
  takesEffect_iff.mpr rfl

/-- **No `Disconnect` of any run takes effect**: it leaves the session as it was. -/
theorem disconnect_never_takesEffect {state : State Buffer Io}
    (reached : Reach step Unguarded (initial Buffer Io) state) :
    ¬ TakesEffect state ∧ state.shared.disconnect = state.shared := by
  have unused := isUsingSession_false reached
  refine ⟨fun effect => ?_, Session.disconnect_unused unused⟩
  rw [takesEffect_iff, unused] at effect
  exact Bool.false_ne_true effect

end Disconnect

/-- The accept thread sets a session up: count, completion port, `InsertSession`, `DoRecv`. -/
def acceptSchedule : List (Tid Unit × Choice ℕ) :=
  [(.accept, .go), (.accept, .accepted), (.accept, .go), (.accept, .go), (.accept, .accepted),
    (.accept, .go)]

/-- A connected session that nobody has disconnected: the call does not take effect. -/
theorem disconnect_never_takesEffect_accepted :
    ∃ state : State ℕ Unit, Reach step Unguarded (initial ℕ Unit) state ∧
      state.shared.Connected ∧ ¬ TakesEffect state := by
  have accepted : ((run step (initial ℕ Unit) acceptSchedule).map fun state =>
      decide state.shared.Connected) = some true := by decide
  obtain ⟨state, ran, connected⟩ := Option.map_eq_some_iff.mp accepted
  have reached := reach_of_run ran
  exact ⟨state, reached, of_decide_eq_true connected, (disconnect_never_takesEffect reached).1⟩

/-- The first `Disconnect` of a connected session shuts nothing down. -/
theorem exists_disconnect_ignored :
    ∃ (schedule : List (Tid Unit × Choice ℕ)) (state : State ℕ Unit),
      run step (initial ℕ Unit) schedule = some state ∧ state.shared.Connected ∧
        (∀ label ∈ schedule, label.2 ≠ .disconnect) ∧ ¬ TakesEffect state := by
  have accepted : ((run step (initial ℕ Unit) acceptSchedule).map fun state =>
      decide (state.shared.Connected ∧
        state.shared.disconnect.shutdowns ≠ state.shared.shutdowns + 1)) = some true := by decide
  obtain ⟨state, ran, ignored⟩ := Option.map_eq_some_iff.mp accepted
  obtain ⟨connected, shut⟩ := of_decide_eq_true ignored
  exact ⟨acceptSchedule, state, ran, connected, by decide, fun effect => shut effect.1⟩

end ActorModelServer.SessionIo
