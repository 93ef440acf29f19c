/-
**Calls of the ticker from `Fire`.**

A tick of the ticker thread, with the mutexes the thread holds. `Fire` runs while the thread holds
`timerEventsMutex` shared, and may call the ticker. `UnregisterTimerEvent` takes the other mutex and
leaves the work to the next tick; `RegisterTimerEvent` takes `timerEventsMutex` exclusively, and
waits for its own thread.

* `exact_callEach`, `exact_pass` — a body of `Fire`, and the pass of a tick, succeed exactly when no
  event is registered.
* `callbacks_served_iff` — for every reachable ticker, the thread does not wait for itself in a
  tick, every due event fires once and what was registered from `Fire` is in the table, exactly when
  no event that is due registers one.
* `fire_waits` — an event that registers the next one.
-/

import ActorModelServer.Library.Fallible
import ActorModelServer.Library.LockTable
import ActorModelServer.Timer.Schedule

namespace ActorModelServer.TimerCallbacks

open Fallible (Exact)
open StepRuns (Reach Unguarded run reach_of_run)
open ThreadTable (Mode)
open Timer (Keyed Ticker TimerEventId TimerEvents initialTicker keyed_emplace keyed_eraseAll
  lookup_eraseAll mem_values nodup_values)

universe u

section Model

variable {Event : Type u} [DecidableEq Event]

/-- The mutexes of the ticker. -/
inductive Mutex
  | timerEvents
  | unregisterList
  deriving DecidableEq, Repr

/-- A request that waits for a lock the thread holds itself. -/
structure SelfWait where
  mutex : Mutex
  mode : Mode
  deriving DecidableEq, Repr

/-- A call of the ticker. -/
inductive Call (Event : Type u)
  | registerTimerEvent (eventObject : Option Event)
  | unregisterTimerEvent (timerEventId : TimerEventId)
  deriving DecidableEq

/-- The ticker's fields, the mutexes its thread holds, and what it has fired in this tick. -/
structure Thread (Event : Type u) where
  ticker : Ticker Event
  held : Mutex → Option Mode
  fired : List Event

namespace Thread

/-- A mutex is requested. -/
def request (thread : Thread Event) (mutex : Mutex) (mode : Mode) :
    Except SelfWait (Thread Event) :=
  if (thread.held mutex).all mode.compatible then
    .ok { thread with held := Function.update thread.held mutex (some mode) }
  else .error ⟨mutex, mode⟩

/-- A block under a lock. -/
def withLock (mutex : Mutex) (mode : Mode) (block : Thread Event → Except SelfWait (Thread Event))
    (thread : Thread Event) : Except SelfWait (Thread Event) := do
  let locked ← thread.request mutex mode
  let done ← block locked
  return { done with held := thread.held }

/-- A block that changes the ticker's fields. -/
def modify (change : Ticker Event → Ticker Event) (thread : Thread Event) :
    Except SelfWait (Thread Event) :=
  .ok { thread with ticker := change thread.ticker }

variable (events : TimerEvents Event)

/-- `RegisterTimerEvent`; `nextTick` gets the interval twice. -/
def registerTimerEvent (thread : Thread Event) (eventObject : Option Event) :
    Except SelfWait (Thread Event) :=
  match eventObject with
  | none => .ok thread
  | some event =>
      withLock .timerEvents .exclusive (modify fun ticker => ticker.emplace events event)
        { thread with
          ticker := thread.ticker.setNextTick events event
            (thread.ticker.nowMs + events.intervalMs event) }

/-- `UnregisterTimerEvent`. -/
def unregisterTimerEvent (thread : Thread Event) (timerEventId : TimerEventId) :
    Except SelfWait (Thread Event) :=
  withLock .unregisterList .exclusive
    (modify fun ticker => ticker.unregisterTimerEvent timerEventId) thread

/-- A call. -/
def call (thread : Thread Event) : Call Event → Except SelfWait (Thread Event)
  | .registerTimerEvent eventObject => thread.registerTimerEvent events eventObject
  | .unregisterTimerEvent timerEventId => thread.unregisterTimerEvent timerEventId

/-- `UnregisterTimerEventImpl`. -/
def unregisterTimerEventImpl (thread : Thread Event) : Except SelfWait (Thread Event) := do
  let copyUnregisterTargetList := thread.ticker.unregisterTargetList
  let taken ← withLock .unregisterList .exclusive
    (modify fun ticker => { ticker with unregisterTargetList := [] }) thread
  if copyUnregisterTargetList = [] then return taken
  else
    withLock .timerEvents .exclusive (modify fun ticker => ticker.eraseAll copyUnregisterTargetList)
      taken

variable (fire : Event → List (Call Event))

/-- The body of the loop over the events. -/
def visit (thread : Thread Event) (event : Event) : Except SelfWait (Thread Event) :=
  if thread.ticker.shouldFire event then do
    let fired ← (fire event).foldlM (call events) { thread with fired := thread.fired ++ [event] }
    return { fired with ticker := fired.ticker.setNextTick events event fired.ticker.nowMs }
  else .ok thread

end Thread

variable (events : TimerEvents Event) (fire : Event → List (Call Event)) (nowMs : ℕ)

/-- One turn of the loop of `UpdateTick`; `fire` is what the bodies of `Fire` do in it. -/
def updateTick (ticker : Ticker Event) : Except SelfWait (Thread Event) := do
  let begun : Thread Event := ⟨{ ticker with nowMs := nowMs }, fun _ => none, []⟩
  let removed ← begun.unregisterTimerEventImpl
  let passed ← Thread.withLock .timerEvents .shared
    (fun thread => thread.ticker.values.foldlM (Thread.visit events fire) thread) removed
  return { passed with ticker := { passed.ticker with
    tickCount := (passed.ticker.tickCount + 1) % 2 ^ 64 } }

/-- A call from outside, or a tick with its bodies. -/
inductive Op (Event : Type u)
  | call (call : Call Event)
  | tick (fire : Event → List (Call Event)) (nowMs : ℕ)

/-- One step of the ticker; there is none behind a tick whose thread waits for itself. -/
def step (ticker : Ticker Event) : Op Event → Option (Ticker Event)
  | .call (.registerTimerEvent none) => some ticker
  | .call (.registerTimerEvent (some event)) =>
      some ((ticker.setNextTick events event
        (ticker.nowMs + events.intervalMs event)).emplace events event)
  | .call (.unregisterTimerEvent timerEventId) => some (ticker.unregisterTimerEvent timerEventId)
  | .tick fire nowMs =>
      match updateTick events fire nowMs ticker with
      | .ok thread => some thread.ticker
      | .error _ => none

/-- The event is due in a tick that begins: in the table, not about to be removed, and its time has
come. -/
def Due (ticker : Ticker Event) (event : Event) : Prop :=
  (∃ timerEventId ∉ ticker.unregisterTargetList,
    ticker.timerEvents.lookup timerEventId = some event) ∧ ticker.nextTick event ≤ nowMs

/-- **A tick serves its callbacks**: the thread does not wait for itself, every due event fires once
and no other, and the events that were registered from `Fire` are in the table when it is over. -/
def Served (ticker : Ticker Event) : Prop :=
  ∃ after, updateTick events fire nowMs ticker = .ok after ∧
    (∀ event, Due nowMs ticker event → after.fired.count event = 1) ∧
    (∀ event, ¬ Due nowMs ticker event → event ∉ after.fired) ∧
    ∀ event other, Due nowMs ticker event → .registerTimerEvent (some other) ∈ fire event →
      after.ticker.timerEvents.lookup (events.timerEventId other) = some other

/-- A body of `Fire` registers no event. -/
def RegistersNone (body : List (Call Event)) : Prop :=
  ∀ other, .registerTimerEvent (some other) ∉ body

end Model

/-! ### The locks -/

section Locks

variable {Event : Type u} {thread : Thread Event}

/-- A block under a mutex that the thread does not hold runs. -/
theorem withLock_of_free {mutex : Mutex} {mode : Mode} {change : Ticker Event → Ticker Event}
    (free : thread.held mutex = none) :
    Thread.withLock mutex mode (Thread.modify change) thread =
      .ok { thread with ticker := change thread.ticker } := by
  unfold Thread.withLock Thread.request
  rw [free]
  rfl

/-- A block under a mutex that the thread holds in a conflicting mode does not. -/
theorem withLock_of_held {mutex : Mutex} {mode held : Mode}
    {block : Thread Event → Except SelfWait (Thread Event)} (holds : thread.held mutex = some held)
    (conflict : mode.compatible held = false) :
    Thread.withLock mutex mode block thread = .error ⟨mutex, mode⟩ := by
  unfold Thread.withLock Thread.request
  rw [holds, Option.all_some, conflict]
  rfl

variable [DecidableEq Event]

/-- What the calls of a body leave as it was. -/
structure Same (before after : Thread Event) : Prop where
  held : after.held = before.held
  fired : after.fired = before.fired
  timerEvents : after.ticker.timerEvents = before.ticker.timerEvents
  nextTick : after.ticker.nextTick = before.ticker.nextTick
  nowMs : after.ticker.nowMs = before.ticker.nowMs

/-- The mutexes the thread holds in a pass. -/
def passing : Mutex → Option Mode
  | .timerEvents => some .shared
  | .unregisterList => none

/-- **A call from `Fire`** waits for its own thread exactly when it registers an event. -/
theorem exact_call (events : TimerEvents Event) (inPass : thread.held = passing)
    (call : Call Event) :
    Exact (∀ other, call ≠ .registerTimerEvent (some other)) (thread.call events call)
      (Same thread) := by
  cases call with
  | registerTimerEvent eventObject =>
      cases eventObject with
      | none =>
          exact ⟨fun _ => ⟨thread, rfl, rfl, rfl, rfl, rfl, rfl⟩,
            fun refused => absurd (by simp) refused⟩
      | some event =>
          refine ⟨fun none => absurd rfl (none event), fun _ => ⟨⟨.timerEvents, .exclusive⟩, ?_⟩⟩
          exact withLock_of_held (congrFun inPass .timerEvents) rfl
  | unregisterTimerEvent timerEventId =>
      refine ⟨fun _ => ⟨_, withLock_of_free (congrFun inPass .unregisterList), rfl, rfl, rfl, rfl,
        rfl⟩, fun refused => absurd (by simp) refused⟩

/-- **A body of `Fire`.** -/
theorem exact_callEach (events : TimerEvents Event) (inPass : thread.held = passing)
    (body : List (Call Event)) :
    Exact (RegistersNone body) (body.foldlM (Thread.call events) thread) (Same thread) := by
  have each (call : Call Event) (_ : List (Call Event)) (before : Thread Event)
      (same : Same thread before) :
      Exact (∀ other, call ≠ .registerTimerEvent (some other)) (before.call events call)
        (Same thread) := by
    obtain ⟨held, fired, timerEvents, nextTick, nowMs⟩ := same
    have own := exact_call events (held.trans inPass) call
    refine ⟨fun free => ?_, own.fails⟩
    obtain ⟨after, called, also⟩ := own.succeeds free
    exact ⟨after, called, also.held.trans held, also.fired.trans fired,
      also.timerEvents.trans timerEvents, also.nextTick.trans nextTick, also.nowMs.trans nowMs⟩
  refine (Exact.foldlM (fun _ => Same thread) each body thread ⟨rfl, rfl, rfl, rfl, rfl⟩).of_iff ?_
  constructor
  · rintro none call member other rfl
    exact none other member
  · intro free other member
    exact free _ member other rfl

end Locks

/-! ### The pass -/

section Pass

variable {Event : Type u} [DecidableEq Event] {start : Thread Event} {all : List Event}

/-- **The pass, with some events left**: the mutex is held, the events that are left have the times
they had at its start, and with those of them that are due the thread has fired what was due. -/
structure Passing (start : Thread Event) (all rest : List Event) (thread : Thread Event) :
    Prop where
  held : thread.held = passing
  timerEvents : thread.ticker.timerEvents = start.ticker.timerEvents
  nowMs : thread.ticker.nowMs = start.ticker.nowMs
  nextTick : ∀ event ∈ rest, thread.ticker.nextTick event = start.ticker.nextTick event
  fired : thread.fired ++ rest.filter start.ticker.shouldFire =
    start.fired ++ all.filter start.ticker.shouldFire
  nodup : rest.Nodup

/-- **One event of the pass.** -/
theorem exact_visit (events : TimerEvents Event) (fire : Event → List (Call Event))
    (event : Event) (rest : List Event) (thread : Thread Event)
    (inPass : Passing start all (event :: rest) thread) :
    Exact (start.ticker.shouldFire event = true → RegistersNone (fire event))
      (thread.visit events fire event) (Passing start all rest) := by
  obtain ⟨held, timerEvents, nowMs, nextTick, fired, nodup⟩ := inPass
  obtain ⟨once, nodup⟩ := List.nodup_cons.mp nodup
  have due : thread.ticker.shouldFire event = start.ticker.shouldFire event := by
    rw [Ticker.shouldFire, Ticker.shouldFire, nowMs, nextTick event List.mem_cons_self]
  unfold Thread.visit
  rw [due]
  by_cases fires : start.ticker.shouldFire event = true
  · rw [if_pos fires]
    have body : Exact (RegistersNone (fire event)) _ (Same _) :=
      @exact_callEach _ { thread with fired := thread.fired ++ [event] } _ events held (fire event)
    refine (body.map fun after same => ?_).of_iff ⟨fun none => none fires, fun none _ => none⟩
    refine ⟨same.held.trans held, same.timerEvents.trans timerEvents, same.nowMs.trans nowMs, ?_,
      ?_, nodup⟩
    · intro other member
      have different : other ≠ event := by
        rintro rfl
        exact once member
      show Function.update after.ticker.nextTick event _ other = _
      rw [Function.update_of_ne different, same.nextTick]
      exact nextTick other (List.mem_cons_of_mem _ member)
    · show after.fired ++ _ = _
      rw [same.fired]
      rw [List.filter_cons_of_pos fires] at fired
      rw [← fired, List.append_assoc]
      rfl
  · rw [if_neg fires]
    rw [List.filter_cons_of_neg fires] at fired
    refine ⟨fun _ => ⟨thread, rfl, held, timerEvents, nowMs, fun other member => ?_, fired, nodup⟩,
      fun refused => absurd (fun yes => absurd yes fires) refused⟩
    exact nextTick other (List.mem_cons_of_mem _ member)

/-- **The pass succeeds** exactly when no event that is due registers one; it has fired all of these
then, and the table is as it was. -/
theorem exact_pass (events : TimerEvents Event) (fire : Event → List (Call Event))
    (held : start.held = passing) (nodup : all.Nodup) :
    Exact (∀ event ∈ all, start.ticker.shouldFire event = true → RegistersNone (fire event))
      (all.foldlM (Thread.visit events fire) start)
      (fun after => after.fired = start.fired ++ all.filter start.ticker.shouldFire ∧
        after.ticker.timerEvents = start.ticker.timerEvents) := by
  have loop := Exact.foldlM (Passing start all) (exact_visit events fire) all start
    ⟨held, rfl, rfl, fun _ _ => rfl, rfl, nodup⟩
  refine ⟨fun none => ?_, loop.fails⟩
  obtain ⟨after, passed, inPass⟩ := loop.succeeds none
  have fired := inPass.fired
  rw [List.filter_nil, List.append_nil] at fired
  exact ⟨after, passed, fired, inPass.timerEvents⟩

end Pass

/-! ### A tick -/

section Tick

variable {Event : Type u} {events : TimerEvents Event} {nowMs : ℕ} {ticker : Ticker Event}

/-- The ticker when the pass of a tick begins. -/
def atPass (nowMs : ℕ) (ticker : Ticker Event) : Ticker Event :=
  { ({ ticker with nowMs := nowMs } : Ticker Event).eraseAll ticker.unregisterTargetList with
    unregisterTargetList := [] }

/-- `UnregisterTimerEventImpl` never waits. -/
theorem unregisterTimerEventImpl_eq (nowMs : ℕ) (ticker : Ticker Event) :
    (⟨{ ticker with nowMs := nowMs }, fun _ => none, []⟩ : Thread Event).unregisterTimerEventImpl =
      .ok ⟨atPass nowMs ticker, fun _ => none, []⟩ := by
  unfold Thread.unregisterTimerEventImpl
  dsimp only
  rw [withLock_of_free rfl]
  by_cases empty : ticker.unregisterTargetList = []
  · unfold atPass Ticker.eraseAll
    simp only [empty]
    rfl
  · show (if ticker.unregisterTargetList = [] then _ else _) = _
    rw [if_neg empty, withLock_of_free rfl]
    rfl

/-- What the pass goes over and finds due, is due. -/
theorem due_iff {event : Event} :
    Due nowMs ticker event ↔
      event ∈ (atPass nowMs ticker).values.filter (atPass nowMs ticker).shouldFire := by
  rw [List.mem_filter, mem_values]
  have times : (atPass nowMs ticker).shouldFire event = true ↔ ticker.nextTick event ≤ nowMs :=
    decide_eq_true_iff
  have table (timerEventId : TimerEventId) :
      (atPass nowMs ticker).timerEvents.lookup timerEventId = some event ↔
        timerEventId ∉ ticker.unregisterTargetList ∧
          ticker.timerEvents.lookup timerEventId = some event := by
    have erased : (atPass nowMs ticker).timerEvents.lookup timerEventId =
        if timerEventId ∈ ticker.unregisterTargetList then none
        else ticker.timerEvents.lookup timerEventId :=
      lookup_eraseAll { ticker with nowMs := nowMs } ticker.unregisterTargetList
    rw [erased, Option.ite_none_left_eq_some]
  rw [times, Due]
  exact and_congr_left fun _ => exists_congr fun timerEventId => (table timerEventId).symm

theorem keyed_atPass (nowMs : ℕ) (keyed : Keyed events ticker) :
    Keyed events (atPass nowMs ticker) := by
  have erased : Keyed events (ticker.eraseAll ticker.unregisterTargetList) := keyed_eraseAll keyed
  exact erased

variable [DecidableEq Event] {fire : Event → List (Call Event)}

/-- A step that is a tick. -/
theorem ticked_of_step {after : Ticker Event}
    (stepped : step events ticker (.tick fire nowMs) = some after) :
    ∃ thread, updateTick events fire nowMs ticker = .ok thread ∧ thread.ticker = after := by
  cases ticked : updateTick events fire nowMs ticker with
  | ok thread =>
      refine ⟨thread, rfl, ?_⟩
      rw [step, ticked] at stepped
      exact Option.some.inj stepped
  | error wait =>
      rw [step, ticked] at stepped
      cases stepped

/-- A tick is through: it has fired what was due, and erased what was to be removed. -/
structure Ticked (nowMs : ℕ) (ticker : Ticker Event) (after : Thread Event) : Prop where
  fired : after.fired = (atPass nowMs ticker).values.filter (atPass nowMs ticker).shouldFire
  timerEvents : after.ticker.timerEvents = (atPass nowMs ticker).timerEvents

/-- **A tick** of a ticker whose events are at their ids. -/
theorem exact_updateTick (fire : Event → List (Call Event)) (nowMs : ℕ)
    (keyed : Keyed events ticker) :
    Exact (∀ event, Due nowMs ticker event → RegistersNone (fire event))
      (updateTick events fire nowMs ticker) (Ticked nowMs ticker) := by
  have distinct : (atPass nowMs ticker).values.Nodup := nodup_values (keyed_atPass nowMs keyed)
  have free : Thread.request (⟨atPass nowMs ticker, fun _ => none, []⟩ : Thread Event)
      .timerEvents .shared = .ok ⟨atPass nowMs ticker, passing, []⟩ := by
    refine congrArg (fun held => Except.ok (⟨atPass nowMs ticker, held, []⟩ : Thread Event)) ?_
    funext mutex
    cases mutex <;> rfl
  have pass := @exact_pass _ _ ⟨atPass nowMs ticker, passing, []⟩ _ events fire rfl distinct
  have unlocked (passed : Thread Event) (through : passed.fired = [] ++
      (atPass nowMs ticker).values.filter (atPass nowMs ticker).shouldFire ∧
        passed.ticker.timerEvents = (atPass nowMs ticker).timerEvents) :
      Exact True
        (pure { passed with held := fun _ => none } : Except SelfWait (Thread Event))
        (Ticked nowMs ticker) :=
    Exact.pure ⟨through.1, through.2⟩
  have counted (passed : Thread Event) (ticked : Ticked nowMs ticker passed) :
      Exact True
        (pure { passed with ticker := { passed.ticker with
          tickCount := (passed.ticker.tickCount + 1) % 2 ^ 64 } } :
          Except SelfWait (Thread Event))
        (Ticked nowMs ticker) :=
    Exact.pure ⟨ticked.fired, ticked.timerEvents⟩
  unfold updateTick
  dsimp only
  rw [unregisterTimerEventImpl_eq]
  show Exact _ (Thread.withLock .timerEvents .shared _ _ >>= _) _
  unfold Thread.withLock
  rw [free]
  refine ((pass.bind unlocked).bind counted).of_iff ?_
  rw [and_true, and_true]
  constructor
  · intro none event member fires
    exact none event (due_iff.mpr (List.mem_filter.mpr ⟨member, fires⟩))
  · intro none event due
    obtain ⟨member, fires⟩ := List.mem_filter.mp (due_iff.mp due)
    exact none event member fires

/-- The events of a reachable ticker are at their ids. -/
theorem keyed_of_reach (reached : Reach (step events) Unguarded (initialTicker Event) ticker) :
    Keyed events ticker := by
  refine Reach.invariant (Keyed events) (fun _ _ found => ?_)
    (fun before op after keyed _ stepped => ?_) reached
  · exact absurd found (by simp [initialTicker])
  · cases op with
    | call call =>
        cases call with
        | registerTimerEvent eventObject =>
            cases eventObject with
            | none =>
                obtain rfl := Option.some.inj stepped
                exact keyed
            | some event =>
                obtain rfl := Option.some.inj stepped
                exact keyed_emplace keyed
        | unregisterTimerEvent timerEventId =>
            obtain rfl := Option.some.inj stepped
            exact keyed
    | tick fire nowMs =>
        obtain ⟨thread, ticked, rfl⟩ := ticked_of_step stepped
        intro timerEventId event found
        have through := ((exact_updateTick fire nowMs keyed).of_ok ticked).2
        rw [through.timerEvents] at found
        exact keyed_atPass nowMs keyed timerEventId event found

/-- **Timer callbacks may use the ticker** exactly as long as no event that is due registers one:
for every reachable ticker and every tick, whatever the bodies of `Fire` do. -/
theorem callbacks_served_iff
    (reached : Reach (step events) Unguarded (initialTicker Event) ticker)
    (fire : Event → List (Call Event)) (nowMs : ℕ) :
    Served events fire nowMs ticker ↔
      ∀ event, Due nowMs ticker event → RegistersNone (fire event) := by
  have keyed := keyed_of_reach reached
  have tick := exact_updateTick fire nowMs keyed
  constructor
  · rintro ⟨after, ticked, -⟩
    exact (tick.of_ok ticked).1
  · intro none
    obtain ⟨after, ticked, through⟩ := tick.succeeds none
    have distinct : after.fired.Nodup := by
      rw [through.fired]
      exact (nodup_values (keyed_atPass nowMs keyed)).filter _
    refine ⟨after, ticked, fun event due => ?_, fun event undue => ?_, fun event other due => ?_⟩
    · exact List.count_eq_one_of_mem distinct (through.fired ▸ due_iff.mp due)
    · rw [through.fired]
      exact fun member => undue (due_iff.mpr member)
    · exact fun registers => absurd registers (none event due other)

end Tick

/-! ### Runs -/

section Runs

/-- Events that are their own ids, ten milliseconds apart. -/
def everyTen : TimerEvents ℕ := ⟨id, fun _ => 10⟩

/-- The event with an id of zero was registered at time zero. -/
def zeroRegistered : Ticker ℕ :=
  ((initialTicker ℕ).setNextTick everyTen 0 10).emplace everyTen 0

theorem reach_zeroRegistered :
    Reach (step everyTen) Unguarded (initialTicker ℕ) zeroRegistered :=
  reach_of_run (show run _ _ [.call (.registerTimerEvent (some 0))] = _ from rfl)

/-- Events that unregister themselves, and register nothing. -/
theorem callbacks_served_iff_cancelling :
    Served everyTen (fun event => [.unregisterTimerEvent event, .registerTimerEvent none]) 25
      zeroRegistered := by
  refine (callbacks_served_iff reach_zeroRegistered _ 25).mpr fun event _ other registers => ?_
  simp at registers

/-- **A follow-up.** The event with an id of zero registers the next one from its `Fire`; the ticker
thread waits for itself. -/
theorem fire_waits :
    ¬ ∀ (ticker : Ticker ℕ), Reach (step everyTen) Unguarded (initialTicker ℕ) ticker →
      ∀ (fire : ℕ → List (Call ℕ)) (nowMs : ℕ), Served everyTen fire nowMs ticker := by
  intro served
  obtain ⟨after, ticked, -⟩ := served zeroRegistered reach_zeroRegistered
    (fun event => [.registerTimerEvent (some (event + 1))]) 25
  have waits : updateTick everyTen (fun event => [.registerTimerEvent (some (event + 1))]) 25
      zeroRegistered = .error ⟨.timerEvents, .exclusive⟩ := rfl
  rw [waits] at ticked
  cases ticked

end Runs

end ActorModelServer.TimerCallbacks
