/-
**The ticker and its two lists.**

`UpdateTick` runs on the ticker thread: at each tick it takes `unregisterTargetList`, erases the
ids it took from `timerEvents`, and then goes over the map under the shared lock and fires what is
due. Any number of threads call `RegisterTimerEvent` and `UnregisterTimerEvent`; `Fire` may call
`UnregisterTimerEvent`, not `RegisterTimerEvent`, which would wait for the lock its thread holds.
`act` is one atomic step; a critical section is one step, except the pass, which other threads see
as the lock (`passing`). `history` lists what took effect, in order.

* `step_moves` — the branches of a step, as the ticker thread sees them.
* `Pending` — an id waits for its removal: in the list, or in the copy the ticker has taken.
-/

import ActorModelServer.Library.ThreadTable
import Mathlib.Data.List.AList
import Mathlib.Data.List.Sort

namespace ActorModelServer.Timer

open ThreadTable (threadStep_eq_some)

universe u v

section Model

/-- `TimerEventId`, an unsigned 16-bit number. -/
abbrev TimerEventId := ℕ

/-- The objects of classes derived from `TimerEvent`, with the fields that never change. -/
structure TimerEvents (Event : Type u) where
  timerEventId : Event → TimerEventId
  intervalMs : Event → ℕ

/-- What took effect. -/
inductive Happening (Event : Type u)
  /- `RegisterTimerEvent` is through its lock -/
  | registered (event : Event)
  | unregistered (timerEventId : TimerEventId)
  /- a tick's `UnregisterTimerEventImpl` takes the list -/
  | listTaken
  /- a tick's pass begins -/
  | passBegun
  | fired (event : Event)
  deriving DecidableEq, Repr

/-- The ticker's fields and the `nextTick` of the events. -/
structure Ticker (Event : Type u) where
  nowMs : ℕ
  tickCount : ℕ
  nextTick : Event → ℕ
  timerEvents : AList fun _ : TimerEventId => Event
  unregisterTargetList : List TimerEventId
  /-- The ticker thread holds `timerEventsMutex` shared. -/
  passing : Bool
  history : List (Happening Event)

/-- Where a thread is. -/
inductive Place (Event : Type u)
  /- the ticker thread: asleep; before the lock of the list, with a copy of the list before the
  lock of the map; before the pass, in it, in `Fire`; after it -/
  | sleep
  | takeList
  | erase (copyUnregisterTargetList : List TimerEventId)
  | beginPass
  | pass (rest : List Event)
  | fire (event : Event) (rest : List Event)
  | count
  /- any other thread: outside, and in `RegisterTimerEvent` before the lock of the map -/
  | outside
  | emplace (event : Event)
  deriving DecidableEq

/-- What the surroundings decide. -/
inductive Choice (Event : Type u)
  | go
  /- the ticker wakes up at a time of the clock -/
  | wake (nowMs : ℕ)
  | register (eventObject : Option Event)
  | unregister (timerEventId : TimerEventId)

variable {Event : Type u}

namespace Ticker

/-- History grows. -/
def record (ticker : Ticker Event) (happening : Happening Event) : Ticker Event :=
  { ticker with history := ticker.history ++ [happening] }

/-- `TimerEvent::SetNextTick`. -/
def setNextTick [DecidableEq Event] (events : TimerEvents Event) (ticker : Ticker Event)
    (event : Event) (nowTickMs : ℕ) : Ticker Event :=
  { ticker with
    nextTick := Function.update ticker.nextTick event
      ((nowTickMs + events.intervalMs event) % 2 ^ 64) }

/-- `TimerEvent::ShouldFire`. -/
def shouldFire (ticker : Ticker Event) (event : Event) : Bool :=
  decide (ticker.nextTick event ≤ ticker.nowMs)

/-- The events of the map, in the order of their ids. -/
def values (ticker : Ticker Event) : List Event :=
  (ticker.timerEvents.entries.insertionSort fun first second => first.1 ≤ second.1).map Sigma.snd

/-- `UnregisterTimerEvent`. -/
def unregisterTimerEvent (ticker : Ticker Event) (timerEventId : TimerEventId) : Ticker Event :=
  { ticker with
    unregisterTargetList :=
      if timerEventId ∈ ticker.unregisterTargetList then ticker.unregisterTargetList
      else ticker.unregisterTargetList ++ [timerEventId] }.record (.unregistered timerEventId)

/-- `timerEvents.emplace`: an id that is in the map keeps its event. -/
def emplace (events : TimerEvents Event) (ticker : Ticker Event) (event : Event) : Ticker Event :=
  { ticker with
    timerEvents :=
      if events.timerEventId event ∈ ticker.timerEvents then ticker.timerEvents
      else ticker.timerEvents.insert (events.timerEventId event) event }.record (.registered event)

/-- The loop of `UnregisterTimerEventImpl`. -/
def eraseAll (ticker : Ticker Event) (copyUnregisterTargetList : List TimerEventId) :
    Ticker Event :=
  { ticker with
    timerEvents := copyUnregisterTargetList.foldl
      (fun timerEvents timerEventId => timerEvents.erase timerEventId) ticker.timerEvents }

end Ticker

/-- One atomic step of a thread. -/
def act [DecidableEq Event] (events : TimerEvents Event) (ticker : Ticker Event)
    (place : Place Event) (choice : Choice Event) : Option (Ticker Event × Place Event) :=
  match place, choice with
  | .sleep, .wake nowMs => some ({ ticker with nowMs := nowMs }, .takeList)
  | .takeList, .go =>
      if ticker.unregisterTargetList = [] then some (ticker.record .listTaken, .beginPass)
      else some (({ ticker with unregisterTargetList := [] }).record .listTaken,
        .erase ticker.unregisterTargetList)
  | .erase copyUnregisterTargetList, .go =>
      some (ticker.eraseAll copyUnregisterTargetList, .beginPass)
  | .beginPass, .go =>
      some (({ ticker with passing := true }).record .passBegun, .pass ticker.values)
  | .pass [], .go => some ({ ticker with passing := false }, .count)
  | .pass (event :: rest), .go =>
      if ticker.shouldFire event then some (ticker.record (.fired event), .fire event rest)
      else some (ticker, .pass rest)
  | .fire event rest, .unregister timerEventId =>
      some (ticker.unregisterTimerEvent timerEventId, .fire event rest)
  | .fire event rest, .go => some (ticker.setNextTick events event ticker.nowMs, .pass rest)
  | .count, .go => some ({ ticker with tickCount := (ticker.tickCount + 1) % 2 ^ 64 }, .sleep)
  | .outside, .register none => some (ticker, .outside)
  | .outside, .register (some event) =>
      -- `nextTick` gets the interval twice
      some (ticker.setNextTick events event (ticker.nowMs + events.intervalMs event),
        .emplace event)
  | .emplace event, .go =>
      if ticker.passing then none else some (ticker.emplace events event, .outside)
  | .outside, .unregister timerEventId =>
      some (ticker.unregisterTimerEvent timerEventId, .outside)
  | _, _ => none

/-- The ticker thread, and any other threads. -/
inductive Tid (Caller : Type v)
  | ticker
  | caller (name : Caller)
  deriving DecidableEq

/-- Where each thread starts. -/
def initialPlace {Caller : Type v} : Tid Caller → Place Event
  | .ticker => .sleep
  | .caller _ => .outside

/-- The state of the machine. -/
abbrev State (Event : Type u) (Caller : Type v) :=
  ThreadTable.System (Ticker Event) (Tid Caller) (Place Event)

variable (Event) in
/-- The ticker after `Start`. -/
def initialTicker : Ticker Event := ⟨0, 0, fun _ => 0, ∅, [], false, []⟩

/-- The start: no events. -/
def initial (Event : Type u) (Caller : Type v) : State Event Caller :=
  ⟨initialTicker Event, initialPlace⟩

/-- One step of the machine. -/
def step {Caller : Type v} [DecidableEq Event] [DecidableEq Caller] (events : TimerEvents Event) :
    State Event Caller → Tid Caller × Choice Event → Option (State Event Caller) :=
  ThreadTable.threadStep (act events)

/-! ### What one step does -/

/-- The ids the ticker has taken from the list and not erased yet. -/
def Place.copy : Place Event → List TimerEventId
  | .erase copyUnregisterTargetList => copyUnregisterTargetList
  | _ => []

/-- The events the pass has still to look at. -/
def Place.waiting : Place Event → List Event
  | .pass rest => rest
  | .fire _ rest => rest
  | _ => []

/-- The lists, the map and the history are as they were. -/
structure Quiet (ticker after : Ticker Event) : Prop where
  timerEvents : after.timerEvents = ticker.timerEvents
  unregisterTargetList : after.unregisterTargetList = ticker.unregisterTargetList
  history : after.history = ticker.history

/-- A place of a thread that calls the ticker. -/
def Place.calls : Place Event → Bool
  | .outside => true
  | .emplace _ => true
  | _ => false

section Steps

/-- What a step of the thread at `mover` does, seen from the place of the ticker thread; the
branches that touch only times and the lock are one. -/
inductive Moves (events : TimerEvents Event) (mover : Place Event) (ticker : Ticker Event) :
    Place Event → Ticker Event → Place Event → Prop
  | quiet {place next : Place Event} {after : Ticker Event} (same : Quiet ticker after)
      (copy : next.copy = place.copy) (waiting : next.waiting ⊆ place.waiting) :
      Moves events mover ticker place after next
  | nothingTaken (none : ticker.unregisterTargetList = []) :
      Moves events mover ticker .takeList (ticker.record .listTaken) .beginPass
  | taken (some : ticker.unregisterTargetList ≠ []) :
      Moves events mover ticker .takeList
        (({ ticker with unregisterTargetList := [] }).record .listTaken)
        (.erase ticker.unregisterTargetList)
  | erased (copyUnregisterTargetList : List TimerEventId) :
      Moves events mover ticker (.erase copyUnregisterTargetList)
        (ticker.eraseAll copyUnregisterTargetList) .beginPass
  | begun :
      Moves events mover ticker .beginPass (({ ticker with passing := true }).record .passBegun)
        (.pass ticker.values)
  | fired (event : Event) (rest : List Event) :
      Moves events mover ticker (.pass (event :: rest)) (ticker.record (.fired event))
        (.fire event rest)
  | unregistered (place : Place Event) (timerEventId : TimerEventId) :
      Moves events mover ticker place (ticker.unregisterTimerEvent timerEventId) place
  | emplaced (place : Place Event) {event : Event} (registers : mover = .emplace event) :
      Moves events mover ticker place (ticker.emplace events event) place

variable [DecidableEq Event]

variable {events : TimerEvents Event} {ticker after : Ticker Event} {place next : Place Event}
  {choice : Choice Event}

/-- A step of the ticker thread. -/
theorem ticker_moves (acted : act events ticker place choice = some (after, next))
    (own : place.calls = false) :
    Moves events place ticker place after next ∧ next.calls = false := by
  revert acted own
  fun_cases act events ticker place choice
  all_goals intro acted own
  all_goals simp only [Option.some.injEq, Prod.mk.injEq, reduceCtorEq] at acted
  all_goals obtain ⟨rfl, rfl⟩ := acted
  case case2 none => exact ⟨.nothingTaken none, rfl⟩
  case case3 some => exact ⟨.taken some, rfl⟩
  case case4 => exact ⟨.erased _, rfl⟩
  case case5 => exact ⟨.begun, rfl⟩
  case case7 => exact ⟨.fired _ _, rfl⟩
  case case8 => exact ⟨.quiet ⟨rfl, rfl, rfl⟩ rfl (List.subset_cons_self _ _), rfl⟩
  case case9 => exact ⟨.unregistered _ _, rfl⟩
  all_goals first
    | exact ⟨.quiet ⟨rfl, rfl, rfl⟩ rfl (List.Subset.refl _), rfl⟩
    | cases own

/-- A step of another thread, wherever the ticker thread is. -/
theorem caller_moves (acted : act events ticker place choice = some (after, next))
    (calls : place.calls = true) (other : Place Event) :
    Moves events place ticker other after other ∧ next.calls = true := by
  revert acted calls
  fun_cases act events ticker place choice
  all_goals intro acted calls
  all_goals simp only [Option.some.injEq, Prod.mk.injEq, reduceCtorEq] at acted
  all_goals obtain ⟨rfl, rfl⟩ := acted
  case case15 => exact ⟨.emplaced other rfl, rfl⟩
  case case16 => exact ⟨.unregistered other _, rfl⟩
  all_goals first
    | exact ⟨.quiet ⟨rfl, rfl, rfl⟩ rfl (List.Subset.refl _), rfl⟩
    | cases calls

/-- A caller is on its way through a registration that it has just begun. -/
theorem register_of_emplace
    (acted : act events ticker place choice = some (after, .emplace event)) :
    choice = .register (some event) := by
  revert acted
  fun_cases act events ticker place choice
  all_goals intro acted
  all_goals simp only [Option.some.injEq, Prod.mk.injEq, reduceCtorEq, and_false] at acted
  case case13 registering =>
    rw [Place.emplace.inj acted.2]

theorem emplace_of_act (acted : act events ticker (.emplace event) choice = some (after, next)) :
    after = ticker.emplace events event := by
  cases choice with
  | go =>
      simp only [act] at acted
      split at acted
      · cases acted
      · cases acted
        rfl
  | _ => cases acted

/-- Every thread keeps to its own code. -/
structure Placed {Caller : Type v} (pc : Tid Caller → Place Event) : Prop where
  ticker : (pc .ticker).calls = false
  callers : ∀ name, (pc (.caller name)).calls = true

/-- **Inversion of a step.** -/
theorem step_moves {Caller : Type v} [DecidableEq Caller] {state after : State Event Caller}
    {label : Tid Caller × Choice Event} (placed : Placed state.pc)
    (taken : step events state label = some after) :
    Moves events (state.pc label.1) state.shared (state.pc .ticker) after.shared
        (after.pc .ticker) ∧
      Placed after.pc := by
  obtain ⟨shared, next, acted, rfl⟩ := threadStep_eq_some.mp taken
  obtain ⟨mover, choice⟩ := label
  cases mover with
  | ticker =>
      obtain ⟨moved, calls⟩ := ticker_moves acted placed.ticker
      refine ⟨?_, ?_, fun name => ?_⟩
      · simpa using moved
      · simpa using calls
      · simpa using placed.callers name
  | caller name =>
      obtain ⟨moved, calls⟩ := caller_moves acted (placed.callers name) (state.pc .ticker)
      refine ⟨?_, ?_, fun other => ?_⟩
      · simpa using moved
      · simpa using placed.ticker
      · by_cases same : other = name
        · subst same
          simpa using calls
        · simpa [Function.update_of_ne, same] using placed.callers other

end Steps

/-! ### The map -/

section Map

variable {ticker : Ticker Event} {timerEventId other : TimerEventId} {event : Event}

/-- The pass goes over the events of the map. -/
theorem mem_values :
    event ∈ ticker.values ↔
      ∃ timerEventId, ticker.timerEvents.lookup timerEventId = some event := by
  simp only [Ticker.values, List.mem_map, List.mem_insertionSort, Sigma.exists]
  constructor
  · rintro ⟨timerEventId, _, member, rfl⟩
    exact ⟨timerEventId, AList.mem_lookup_iff.mpr member⟩
  · rintro ⟨timerEventId, found⟩
    exact ⟨timerEventId, event, AList.mem_lookup_iff.mp found, rfl⟩

/-- `UnregisterTimerEventImpl` erases the ids it took, and no others. -/
theorem lookup_eraseAll (ticker : Ticker Event) (ids : List TimerEventId) :
    (ticker.eraseAll ids).timerEvents.lookup timerEventId =
      if timerEventId ∈ ids then none else ticker.timerEvents.lookup timerEventId := by
  have erased (table : AList fun _ : TimerEventId => Event) :
      (ids.foldl (fun timerEvents id => timerEvents.erase id) table).lookup timerEventId =
        if timerEventId ∈ ids then none else table.lookup timerEventId := by
    induction ids generalizing table with
    | nil => rfl
    | cons first rest ih =>
        rw [List.foldl_cons, ih]
        by_cases same : timerEventId = first
        · subst same
          simp
        · simp [same, AList.lookup_erase_ne same]
  exact erased ticker.timerEvents

/-- `emplace` puts the event at its id, unless the id has one. -/
theorem lookup_emplace (events : TimerEvents Event) (ticker : Ticker Event) (event : Event) :
    (ticker.emplace events event).timerEvents.lookup (events.timerEventId event) =
      some ((ticker.timerEvents.lookup (events.timerEventId event)).getD event) := by
  simp only [Ticker.emplace, Ticker.record]
  split
  · rename_i member
    obtain ⟨found, here⟩ := Option.isSome_iff_exists.mp (AList.lookup_isSome.mpr member)
    rw [here, Option.getD_some]
  · rename_i missing
    rw [AList.lookup_insert, AList.lookup_eq_none.mpr missing, Option.getD_none]

theorem lookup_emplace_ne (events : TimerEvents Event)
    (different : other ≠ events.timerEventId event) :
    (ticker.emplace events event).timerEvents.lookup other = ticker.timerEvents.lookup other := by
  simp only [Ticker.emplace, Ticker.record]
  split
  · rfl
  · exact AList.lookup_insert_ne different

/-- `UnregisterTimerEvent` puts its id into the list. -/
theorem mem_unregisterTimerEvent :
    other ∈ (ticker.unregisterTimerEvent timerEventId).unregisterTargetList ↔
      other = timerEventId ∨ other ∈ ticker.unregisterTargetList := by
  simp only [Ticker.unregisterTimerEvent, Ticker.record]
  split
  · rename_i member
    constructor
    · exact .inr
    · rintro (rfl | waits)
      · exact member
      · exact waits
  · simp [or_comm]

end Map

/-! ### Pending removals -/

section Pending

/-- The id waits for its removal, in the list or in the copy the ticker has taken. -/
def Pending (ticker : Ticker Event) (place : Place Event) (timerEventId : TimerEventId) : Prop :=
  timerEventId ∈ ticker.unregisterTargetList ∨ timerEventId ∈ place.copy

instance (ticker : Ticker Event) (place : Place Event) (timerEventId : TimerEventId) :
    Decidable (Pending ticker place timerEventId) :=
  inferInstanceAs (Decidable (_ ∨ _))

end Pending

end Model

end ActorModelServer.Timer
