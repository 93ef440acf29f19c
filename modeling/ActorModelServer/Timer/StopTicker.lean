/-
**Stopping the ticker.**

`Start` creates the ticker thread and `Stop` stores false in `isRunning` and joins it. The flag is
set by the thread, in its first instruction, and not by `Start`: a `Stop` that comes before it is
overwritten. `Start` and `Stop` are called one at a time, as two calls at once are a race for
`tickerThread`; the ticker's threads go on in between. What a tick does to the ticker's fields is
left to the label, and a tick that has begun can end.

* `Stays` — a stopped ticker stays stopped, and the join can return.
* `stays` — it does in every run in which no `Stop` comes before the first instruction of the thread
  that is to be joined.
* `stop_lost` — after a `Stop` that does, the flag is set for good and the join never returns.
-/

import ActorModelServer.Timer.Ticker

namespace ActorModelServer.TickerThread

open StepRuns (Leads Reach Unguarded exists_reach_of_run exists_reach_of_runGuarded)
open Timer (Ticker initialTicker)

universe u

section Model

/-- Where a ticker thread is. -/
inductive Place
  /- before the store to `isRunning`, before the test of the loop, in a tick, behind the loop -/
  | entered
  | test
  | tick
  | left
  deriving DecidableEq, Repr

/-- Where the caller of `Start` and `Stop` is. -/
inductive Control
  | outside
  /- in `Start`, with the thread created; in `Stop`, with the flag stored -/
  | assigning
  | joining
  deriving DecidableEq, Repr

/-- The ticker, its threads and their caller. -/
structure State (Event : Type u) where
  isRunning : Bool
  tickInterval : ℕ
  ticker : Ticker Event
  tickerThread : Option Place
  /-- The thread that `Start` has created and not stored yet. -/
  created : Option Place
  control : Control
  /-- `Stop` has stored false since the last `Start`, and the ticks that began since. -/
  stopped : Bool
  ticksBegun : ℕ

/-- The ticker threads there are at once. -/
inductive Which
  | tickerThread
  | created
  deriving DecidableEq, Repr

/-- What happens next. -/
inductive Label (Event : Type u)
  | start (intervalMs nowMs : ℕ)
  | assign
  | stop
  | join
  /- a ticker thread goes on; a tick leaves the fields so -/
  | thread (which : Which) (ticker : Ticker Event)

variable {Event : Type u}

variable (Event) in
/-- Before the first call. -/
def initial : State Event := ⟨false, 0, initialTicker Event, none, none, .outside, false, 0⟩

namespace State

/-- A thread goes on to a place. -/
def moved (state : State Event) (which : Which) (place : Place) : State Event :=
  match which with
  | .tickerThread => { state with tickerThread := some place }
  | .created => { state with created := some place }

/-- Where a thread is, if it is there. -/
def place (state : State Event) : Which → Option Place
  | .tickerThread => state.tickerThread
  | .created => state.created

/-- One step of `UpdateTick`. -/
def updateTick (state : State Event) (which : Which) (ticker : Ticker Event) :
    Option (State Event) :=
  match state.place which with
  | some .entered => some ({ state with isRunning := true }.moved which .test)
  | some .test =>
      if state.isRunning then
        some ({ state with ticksBegun := state.ticksBegun + 1 }.moved which .tick)
      else some (state.moved which .left)
  | some .tick => some ({ state with ticker := ticker }.moved which .test)
  | some .left => none
  | none => none

end State

/-- One step. -/
def step (state : State Event) : Label Event → Option (State Event)
  | .start intervalMs nowMs =>
      if state.control = .outside then
        some { state with
          tickInterval := intervalMs
          ticker := { state.ticker with nowMs := nowMs }
          created := some .entered
          control := .assigning
          stopped := false }
      else none
  | .assign =>
      -- the assignment joins the thread it replaces
      if state.control = .assigning ∧ state.tickerThread.all (· = .left) then
        some { state with
          tickerThread := state.created
          created := none
          control := .outside }
      else none
  | .stop =>
      if state.control = .outside then
        some { state with
          isRunning := false
          control := .joining
          stopped := true
          ticksBegun := 0 }
      else none
  | .join =>
      if state.control = .joining then
        match state.tickerThread with
        -- there is nothing to join, and `join` throws
        | none => some { state with control := .outside }
        | some .left =>
            some { state with
              tickerThread := none
              ticker := { state.ticker with timerEvents := ∅, unregisterTargetList := [] }
              control := .outside }
        | some _ => none
      else none
  | .thread which ticker => state.updateTick which ticker

/-- Steps of the ticker's threads, and of a caller that waits for them. -/
def Onward (_ : State Event) : Label Event → Prop
  | .start _ _ => False
  | .stop => False
  | _ => True

/-- **A stopped ticker stays stopped**: the flag is false, no tick has begun since it was stored,
and a caller that joins the thread can come out of it. -/
structure Stays (state : State Event) : Prop where
  flag : state.stopped = true → state.isRunning = false
  ticks : state.stopped = true → state.ticksBegun = 0
  returns : state.control = .joining →
    Leads step Onward (fun later => later.control = .outside) state

/-- A `Stop` comes after the first instruction of the thread it is to join. -/
def StoredFirst (state : State Event) : Label Event → Prop
  | .stop => state.tickerThread ≠ some .entered
  | _ => True

instance (state : State Event) (label : Label Event) : Decidable (StoredFirst state label) := by
  unfold StoredFirst
  cases label <;> infer_instance

end Model

/-! ### What every step keeps -/

section Steps

variable {Event : Type u} {state after : State Event} {which : Which} {place : Place}

@[simp] theorem moved_control : (state.moved which place).control = state.control := by
  cases which <;> rfl

@[simp] theorem moved_stopped : (state.moved which place).stopped = state.stopped := by
  cases which <;> rfl

/-- **Everything a ticker thread's step can do.** -/
inductive Moves (state : State Event) (which : Which) (ticker : Ticker Event) :
    State Event → Prop
  | store (here : state.place which = some .entered) :
      Moves state which ticker ({ state with isRunning := true }.moved which .test)
  | begin (here : state.place which = some .test) (runs : state.isRunning = true) :
      Moves state which ticker
        ({ state with ticksBegun := state.ticksBegun + 1 }.moved which .tick)
  | leave (here : state.place which = some .test) (halted : state.isRunning = false) :
      Moves state which ticker (state.moved which .left)
  | finish (here : state.place which = some .tick) :
      Moves state which ticker ({ state with ticker := ticker }.moved which .test)

theorem moves_iff {ticker : Ticker Event} :
    state.updateTick which ticker = some after ↔ Moves state which ticker after := by
  constructor
  · intro stepped
    unfold State.updateTick at stepped
    split at stepped
    · rename_i here
      exact Option.some.inj stepped ▸ .store here
    · rename_i here
      split at stepped
      · rename_i runs
        exact Option.some.inj stepped ▸ .begin here runs
      · rename_i halted
        exact Option.some.inj stepped ▸ .leave here (Bool.eq_false_of_not_eq_true halted)
    · rename_i here
      exact Option.some.inj stepped ▸ .finish here
    · cases stepped
    · cases stepped
  · rintro (here | ⟨here, runs⟩ | ⟨here, halted⟩ | here)
    · rw [State.updateTick, here]
    · rw [State.updateTick, here]
      exact if_pos runs
    · rw [State.updateTick, here]
      exact if_neg (by simp [halted])
    · rw [State.updateTick, here]

/-- **Everything a step can do.** -/
inductive Taken (state : State Event) : Label Event → State Event → Prop
  | start (intervalMs nowMs : ℕ) (outside : state.control = .outside) :
      Taken state (.start intervalMs nowMs)
        { state with
          tickInterval := intervalMs
          ticker := { state.ticker with nowMs := nowMs }
          created := some .entered
          control := .assigning
          stopped := false }
  | assign (assigning : state.control = .assigning)
      (left : state.tickerThread.all (· = .left) = true) :
      Taken state .assign
        { state with tickerThread := state.created, created := none, control := .outside }
  | stop (outside : state.control = .outside) :
      Taken state .stop
        { state with isRunning := false, control := .joining, stopped := true, ticksBegun := 0 }
  | throws (joins : state.control = .joining) (none : state.tickerThread = none) :
      Taken state .join { state with control := .outside }
  | joined (joins : state.control = .joining) (left : state.tickerThread = some .left) :
      Taken state .join
        { state with
          tickerThread := none
          ticker := { state.ticker with timerEvents := ∅, unregisterTargetList := [] }
          control := .outside }
  | thread {next : State Event} (name : Which) (ticker : Ticker Event)
      (moves : Moves state name ticker next) : Taken state (.thread name ticker) next

theorem taken_of_step {label : Label Event} (stepped : step state label = some after) :
    Taken state label after := by
  cases label with
  | start intervalMs nowMs =>
      obtain ⟨outside, stored⟩ := Option.ite_none_right_eq_some.mp stepped
      exact Option.some.inj stored ▸ .start intervalMs nowMs outside
  | assign =>
      obtain ⟨⟨assigning, left⟩, stored⟩ := Option.ite_none_right_eq_some.mp stepped
      exact Option.some.inj stored ▸ .assign assigning left
  | stop =>
      obtain ⟨outside, stored⟩ := Option.ite_none_right_eq_some.mp stepped
      exact Option.some.inj stored ▸ .stop outside
  | join =>
      obtain ⟨joins, stored⟩ := Option.ite_none_right_eq_some.mp stepped
      split at stored
      · rename_i none
        exact Option.some.inj stored ▸ .throws joins none
      · rename_i left
        exact Option.some.inj stored ▸ .joined joins left
      · cases stored
  | thread which ticker => exact .thread which ticker (moves_iff.mp stepped)

/-- A thread that moves is there. -/
theorem Moves.there {ticker : Ticker Event} (moves : Moves state which ticker after) :
    state.place which ≠ none := by
  cases moves with
  | store here | begin here _ | leave here _ | finish here =>
      rw [here]
      exact Option.some_ne_none _

/-- A thread's step leaves the caller where it is. -/
theorem Moves.control_stopped {ticker : Ticker Event} (moves : Moves state which ticker after) :
    after.control = state.control ∧ after.stopped = state.stopped := by
  cases moves with
  | store _ | begin _ _ | leave _ _ | finish _ => exact ⟨moved_control, moved_stopped⟩

/-- The caller's place says which threads there are. -/
structure Placed (state : State Event) : Prop where
  created : state.control ≠ .assigning → state.created = none
  joining : state.control = .joining → state.stopped = true
  stopped : state.stopped = true → state.control ≠ .assigning

/-- Nothing is left that would set the flag of a stopped ticker. -/
structure Quiet (state : State Event) : Prop where
  flag : state.stopped = true → state.isRunning = false
  ticks : state.stopped = true → state.ticksBegun = 0
  stored : state.stopped = true → state.tickerThread ≠ some .entered

theorem placed_initial : Placed (initial Event) :=
  ⟨fun _ => rfl, fun joining => (by cases joining), fun stopped => (by cases stopped)⟩

theorem quiet_initial : Quiet (initial Event) :=
  ⟨fun _ => rfl, fun _ => rfl, fun _ => by simp [initial]⟩

theorem placed_step {label : Label Event} (placed : Placed state)
    (taken : Taken state label after) : Placed after := by
  obtain ⟨created, joining, stopped⟩ := placed
  cases taken with
  | start intervalMs nowMs outside =>
      exact ⟨fun elsewhere => absurd rfl elsewhere, fun joins => (by cases joins),
        fun stopped => (by cases stopped)⟩
  | assign assigning left => exact ⟨fun _ => rfl, fun joins => (by cases joins), fun _ => by simp⟩
  | stop outside => exact ⟨fun _ => created (by simp [outside]), fun _ => rfl, fun _ => by simp⟩
  | throws joins _ | joined joins _ =>
      exact ⟨fun _ => created (by simp [joins]), fun joins => (by cases joins), fun _ => by simp⟩
  | thread which ticker moves =>
      obtain ⟨sameControl, sameStopped⟩ := moves.control_stopped
      refine ⟨fun elsewhere => ?_, ?_, ?_⟩
      · rw [sameControl] at elsewhere
        have none := created elsewhere
        cases moves with
        | store here | begin here _ | leave here _ | finish here =>
            cases which with
            | tickerThread => exact none
            | created => exact absurd (here.symm.trans none) (by simp)
      · rw [sameControl, sameStopped]
        exact joining
      · rw [sameControl, sameStopped]
        exact stopped

/-- **The step lemma**: a stopped ticker stays quiet in a step that meets the condition. -/
theorem quiet_step {label : Label Event} (placed : Placed state) (quiet : Quiet state)
    (first : StoredFirst state label) (taken : Taken state label after) : Quiet after := by
  obtain ⟨flag, ticks, stored⟩ := quiet
  cases taken with
  | start intervalMs nowMs outside =>
      exact ⟨fun stopped => (by cases stopped), fun stopped => (by cases stopped),
        fun stopped => (by cases stopped)⟩
  | assign assigning left =>
      exact ⟨flag, ticks, fun stopped => absurd assigning (placed.stopped stopped)⟩
  | stop outside => exact ⟨fun _ => rfl, fun _ => rfl, fun _ => first⟩
  | throws _ _ => exact ⟨flag, ticks, stored⟩
  | joined _ _ => exact ⟨flag, ticks, fun _ => by simp⟩
  | thread which ticker moves =>
      cases which with
      | created =>
          -- a created thread is there only while `Start` runs, which has reset `stopped`
          have going : ¬ state.stopped = true := fun stopped =>
            moves.there (placed.created (placed.stopped stopped))
          rw [← moves.control_stopped.2] at going
          exact ⟨fun stopped => absurd stopped going, fun stopped => absurd stopped going,
            fun stopped => absurd stopped going⟩
      | tickerThread =>
          cases moves with
          | store here =>
              exact ⟨fun stopped => absurd here (stored stopped),
                fun stopped => absurd here (stored stopped), fun _ => by simp [State.moved]⟩
          | begin here runs =>
              have going : state.stopped ≠ true := fun stopped =>
                absurd (runs.symm.trans (flag stopped)) (by simp)
              exact ⟨flag, fun stopped => absurd stopped going, fun _ => by simp [State.moved]⟩
          | leave here halted => exact ⟨flag, ticks, fun _ => by simp [State.moved]⟩
          | finish here => exact ⟨flag, ticks, fun _ => by simp [State.moved]⟩

end Steps

/-! ### Runs -/

section Runs

variable {Event : Type u} {state after : State Event}

theorem placed_of_reach {guard : State Event → Label Event → Prop}
    (reached : Reach step guard (initial Event) state) : Placed state :=
  reached.invariant Placed placed_initial fun _ _ _ placed _ stepped =>
    placed_step placed (taken_of_step stepped)

/-- The join of a thread that has left its loop returns, and one without a thread throws. -/
theorem leads_of_left (joins : state.control = .joining)
    (left : state.tickerThread.all (· = .left)) :
    Leads step Onward (fun later => later.control = .outside) state := by
  have onward : Onward state .join := trivial
  cases there : state.tickerThread with
  | none =>
      have taken : step state .join = some { state with control := .outside } := by
        rw [step, if_pos joins, there]
      exact .after onward taken (.here rfl)
  | some place =>
      obtain rfl : place = .left := by simpa [there] using left
      have taken : step state .join = some { state with
          tickerThread := none
          ticker := { state.ticker with timerEvents := ∅, unregisterTargetList := [] }
          control := .outside } := by
        rw [step, if_pos joins, there]
      exact .after onward taken (.here rfl)

/-- A thread that tests the flag leaves its loop. -/
theorem leads_of_test (joins : state.control = .joining) (halted : state.isRunning = false)
    (there : state.tickerThread = some .test) :
    Leads step Onward (fun later => later.control = .outside) state := by
  have onward : Onward state (.thread .tickerThread state.ticker) := trivial
  have taken : step state (.thread .tickerThread state.ticker) =
      some (state.moved .tickerThread .left) := moves_iff.mpr (.leave there halted)
  exact .after onward taken (leads_of_left joins rfl)

/-- A tick that has begun ends before. -/
theorem leads_of_tick (joins : state.control = .joining) (halted : state.isRunning = false)
    (there : state.tickerThread = some .tick) :
    Leads step Onward (fun later => later.control = .outside) state := by
  have onward : Onward state (.thread .tickerThread state.ticker) := trivial
  have taken : step state (.thread .tickerThread state.ticker) =
      some (state.moved .tickerThread .test) := moves_iff.mpr (.finish there)
  exact .after onward taken (leads_of_test joins halted rfl)

/-- What is quiet stays stopped. -/
theorem stays_of_quiet (placed : Placed state) (quiet : Quiet state) : Stays state := by
  refine ⟨quiet.flag, quiet.ticks, fun joins => ?_⟩
  have stopped := placed.joining joins
  cases there : state.tickerThread with
  | none => exact leads_of_left joins (by rw [there]; rfl)
  | some place =>
      cases place with
      | entered => exact absurd there (quiet.stored stopped)
      | test => exact leads_of_test joins (quiet.flag stopped) there
      | tick => exact leads_of_tick joins (quiet.flag stopped) there
      | left => exact leads_of_left joins (by rw [there]; rfl)

/-- **A stopped ticker stays stopped** in every run in which each `Stop` comes after the first
instruction of the thread it is to join. -/
theorem stays (reached : Reach step StoredFirst (initial Event) state) : Stays state := by
  have quiet : Quiet state := by
    refine (reached.invariant (fun state => Placed state ∧ Quiet state)
      ⟨placed_initial, quiet_initial⟩ fun _ _ _ both first stepped => ?_).2
    have taken := taken_of_step stepped
    exact ⟨placed_step both.1 taken, quiet_step both.1 both.2 first taken⟩
  exact stays_of_quiet (placed_of_reach reached) quiet

/-- The ticker loops, and the caller waits for it. -/
structure Looping (state : State Event) : Prop where
  control : state.control = .joining
  created : state.created = none
  isRunning : state.isRunning = true
  loops : state.tickerThread = some .test ∨ state.tickerThread = some .tick

theorem looping_step {label : Label Event} (looping : Looping state)
    (taken : Taken state label after) : Looping after := by
  obtain ⟨control, created, isRunning, loops⟩ := looping
  cases taken with
  | start _ _ elsewhere | assign elsewhere _ | stop elsewhere =>
      exact absurd (control.symm.trans elsewhere) (by simp)
  | throws _ there | joined _ there =>
      rcases loops with here | here <;> cases here.symm.trans there
  | thread which ticker moves =>
      cases which with
      | created => exact absurd created moves.there
      | tickerThread =>
          cases moves with
          | store here => rcases loops with there | there <;> cases here.symm.trans there
          | begin here runs => exact ⟨control, created, isRunning, .inr rfl⟩
          | leave here halted => exact absurd (isRunning.symm.trans halted) (by simp)
          | finish here => exact ⟨control, created, isRunning, .inl rfl⟩

theorem looping_of_reach {start : State Event} (looping : Looping start)
    (reached : Reach step Unguarded start state) : Looping state :=
  reached.invariant Looping looping fun _ _ _ looping _ stepped =>
    looping_step looping (taken_of_step stepped)

/-- **A lost `Stop`**: where one comes before the first instruction of the thread, that instruction
sets the flag, and from there on it is set and the caller of `Stop` waits, whatever happens. -/
theorem stop_lost {guard : State Event → Label Event → Prop}
    (reached : Reach step guard (initial Event) state) (stopped : step state .stop = some after)
    (early : state.tickerThread = some .entered) (ticker : Ticker Event) :
    ∃ next, step after (.thread .tickerThread ticker) = some next ∧ ¬ Stays next ∧
      ∀ later, Reach step Unguarded next later →
        later.isRunning = true ∧ later.control = .joining := by
  obtain ⟨outside, stored⟩ := Option.ite_none_right_eq_some.mp stopped
  have empty : state.created = none := (placed_of_reach reached).created (by simp [outside])
  obtain ⟨control, created, still, entered⟩ : after.control = .joining ∧ after.created = none ∧
      after.stopped = true ∧ after.tickerThread = some .entered := by
    rw [← Option.some.inj stored]
    exact ⟨rfl, empty, rfl, early⟩
  have looping : Looping ({ after with isRunning := true }.moved .tickerThread .test) :=
    ⟨control, created, rfl, .inl rfl⟩
  refine ⟨_, moves_iff.mpr (.store entered), fun stays => ?_, fun later onward => ?_⟩
  · exact absurd (looping.isRunning.symm.trans (stays.flag still)) (by simp)
  · have onward := looping_of_reach looping onward
    exact ⟨onward.isRunning, onward.control⟩

/-- A `Stop` in the middle of a tick. -/
theorem stays_in_tick :
    ∃ state : State ℕ, state.tickerThread = some .tick ∧ state.control = .joining ∧
      Stays state := by
  obtain ⟨state, reached, there⟩ := exists_reach_of_runGuarded step StoredFirst (initial ℕ)
    [.start 100 0, .assign, .thread .tickerThread (initialTicker ℕ),
      .thread .tickerThread (initialTicker ℕ), .stop]
    (fun state => decide (state.tickerThread = some .tick ∧ state.control = .joining)) (by decide)
  obtain ⟨tick, joins⟩ := of_decide_eq_true there
  exact ⟨state, tick, joins, stays reached⟩

/-- **A `Stop` right behind `Start`.** The new thread sets the flag again. -/
theorem stop_overwritten :
    ¬ ∀ state : State ℕ, Reach step Unguarded (initial ℕ) state → Stays state := by
  intro stays
  obtain ⟨state, reached, there⟩ := exists_reach_of_run step (initial ℕ)
    [.start 100 0, .assign, .stop, .thread .tickerThread (initialTicker ℕ)]
    (fun state => decide (state.stopped = true ∧ state.isRunning = true)) (by decide)
  obtain ⟨stopped, runs⟩ := of_decide_eq_true there
  have flag := (stays state reached).flag stopped
  rw [runs] at flag
  cases flag

end Runs

end ActorModelServer.TickerThread
