/-
**When a timer event fires.**

`RegisterTimerEvent` hands `SetNextTick` the clock and the interval, and `SetNextTick` adds the
interval once more. A tick is a wake-up of the ticker; the log of an event has its ticks since the
registration, the newest first, each with the clock value and the number of its `Fire` calls.

* `Scheduled` — the event fired at the first tick from `start` on, and after a tick at which it
  fired at the first later one that is an interval away; once at each of these.
* `kept_runsFrom` — an event that was registered at some time keeps the schedule that starts two
  intervals later.
* `schedule_iff` — so it keeps the one that starts one interval later exactly when no tick falls
  between the two starts.
-/

import ActorModelServer.Timer.TimerTable

namespace ActorModelServer.Timer

open ThreadTable (threadStep_eq_some)
open StepRuns (Reach Unguarded runGuarded exists_reach_of_runGuarded)

universe u v

/-! ### Schedules -/

section Schedules

/-- A tick, as an event sees it. -/
structure Tick where
  nowMs : ℕ
  /-- How often `Fire` was called. -/
  fires : ℕ
  deriving DecidableEq, Repr

/-- When the event is due after the ticks; the newest tick comes first. -/
def nextDue (intervalMs start : ℕ) : List ℕ → ℕ
  | [] => start
  | nowMs :: earlier =>
      if nextDue intervalMs start earlier ≤ nowMs then nowMs + intervalMs
      else nextDue intervalMs start earlier

/-- How often the event is to fire at each of the ticks. -/
def schedule (intervalMs start : ℕ) : List ℕ → List ℕ
  | [] => []
  | nowMs :: earlier =>
      (if nextDue intervalMs start earlier ≤ nowMs then 1 else 0) ::
        schedule intervalMs start earlier

/-- **The event kept the schedule** that starts at some time. -/
def Scheduled (intervalMs start : ℕ) (log : List Tick) : Prop :=
  log.map Tick.fires = schedule intervalMs start (log.map Tick.nowMs)

instance (intervalMs start : ℕ) (log : List Tick) : Decidable (Scheduled intervalMs start log) :=
  inferInstanceAs (Decidable (_ = _))

variable {intervalMs start : ℕ} {ticks : List ℕ}

/-- Without a tick between the starts, two schedules an interval apart are due together, or both
still at their starts. -/
theorem nextDue_cases (clear : ∀ nowMs ∈ ticks, ¬ (start ≤ nowMs ∧ nowMs < start + intervalMs)) :
    (nextDue intervalMs start ticks = nextDue intervalMs (start + intervalMs) ticks ∧
        ∃ nowMs ∈ ticks, start + intervalMs ≤ nowMs) ∨
      (nextDue intervalMs start ticks = start ∧
        nextDue intervalMs (start + intervalMs) ticks = start + intervalMs) := by
  induction ticks with
  | nil => exact .inr ⟨rfl, rfl⟩
  | cons nowMs earlier ih =>
      have own := clear nowMs List.mem_cons_self
      rcases ih fun other member => clear other (List.mem_cons_of_mem _ member) with
        ⟨same, fired, member, late⟩ | ⟨first, second⟩
      · refine .inl ⟨?_, fired, List.mem_cons_of_mem _ member, late⟩
        rw [nextDue, nextDue, same]
      · rw [nextDue, nextDue, first, second]
        by_cases due : start + intervalMs ≤ nowMs
        · exact .inl ⟨by rw [if_pos due, if_pos (by omega)], nowMs, List.mem_cons_self, due⟩
        · exact .inr ⟨if_neg (by omega), if_neg due⟩

/-- **Two schedules an interval apart** agree exactly when no tick falls between their starts. -/
theorem schedule_eq_iff (ordered : ticks.Pairwise (· ≥ ·)) :
    schedule intervalMs (start + intervalMs) ticks = schedule intervalMs start ticks ↔
      ∀ nowMs ∈ ticks, ¬ (start ≤ nowMs ∧ nowMs < start + intervalMs) := by
  induction ticks with
  | nil => simp [schedule]
  | cons nowMs earlier ih =>
      obtain ⟨newest, ordered⟩ := List.pairwise_cons.mp ordered
      rw [schedule, schedule, List.cons.injEq, ih ordered, List.forall_mem_cons]
      refine and_congr_left fun clear => ?_
      rcases nextDue_cases clear with ⟨same, fired, member, late⟩ | ⟨first, second⟩
      · have order := newest fired member
        rw [same]
        exact iff_of_true rfl fun between => by omega
      · rw [first, second]
        split <;> split <;> simp <;> omega

end Schedules

/-! ### Watching an event -/

section Watching

variable {Event : Type u} {Caller : Type v} [DecidableEq Event] [DecidableEq Caller]

/-- The machine, and the log of one event. -/
structure Watched (Event : Type u) (Caller : Type v) where
  state : State Event Caller
  log : List Tick

/-- `Fire` was called in the newest tick. -/
def addFire : List Tick → List Tick
  | [] => []
  | tick :: earlier => { tick with fires := tick.fires + 1 } :: earlier

/-- What a step adds to the log. -/
def watch (event : Event) (before after : Ticker Event) (choice : Choice Event)
    (log : List Tick) : List Tick :=
  match choice with
  | .wake nowMs => ⟨nowMs, 0⟩ :: log
  | _ => if after.history = before.history ++ [.fired event] then addFire log else log

/-- One step, watched. -/
def watchedStep (events : TimerEvents Event) (event : Event) (watched : Watched Event Caller)
    (label : Tid Caller × Choice Event) : Option (Watched Event Caller) :=
  (step events watched.state label).map fun after =>
    ⟨after, watch event watched.state.shared after.shared label.2 watched.log⟩

/-- The clock does not go back, and its values fit a signed 64-bit number. The event is not
registered again, its id not unregistered, and no tick begins until its registration is through;
no other event is registered with its id before that. -/
def Undisturbed (events : TimerEvents Event) (event : Event) (watched : Watched Event Caller)
    (label : Tid Caller × Choice Event) : Prop :=
  match label.2 with
  | .wake nowMs =>
      watched.state.shared.nowMs ≤ nowMs ∧ nowMs < 2 ^ 63 ∧
        events.timerEventId event ∈ watched.state.shared.timerEvents
  | .register (some other) =>
      other ≠ event ∧ (events.timerEventId other = events.timerEventId event →
        events.timerEventId event ∈ watched.state.shared.timerEvents)
  | .unregister timerEventId => timerEventId ≠ events.timerEventId event
  | .register none => True
  | .go => True

/-- The id of the event is not in use: not in the table, not waiting for its removal, and no
registration of it is under way. -/
structure Unused (events : TimerEvents Event) (event : Event) (state : State Event Caller) :
    Prop where
  absent : events.timerEventId event ∉ state.shared.timerEvents
  notPending : ¬ Pending state.shared (state.pc .ticker) (events.timerEventId event)
  callers : ∀ name other, state.pc (.caller name) = .emplace other →
    events.timerEventId other ≠ events.timerEventId event

end Watching

/-! ### What every step keeps -/

section Steps

variable {Event : Type u} {events : TimerEvents Event} {ticker after : Ticker Event}
  {place next : Place Event} {event : Event}

/-- The events the pass has not done with. -/
def Place.looking : Place Event → List Event
  | .pass rest => rest
  | .fire event rest => event :: rest
  | _ => []

variable (events) in
/-- The pass has every event of the table once, and the events are at their ids. -/
structure Passes (ticker : Ticker Event) (place : Place Event) : Prop where
  keyed : Keyed events ticker
  nodup : place.looking.Nodup
  inTable : ∀ event ∈ place.looking,
    ticker.timerEvents.lookup (events.timerEventId event) = some event

theorem nodup_values (keyed : Keyed events ticker) : ticker.values.Nodup := by
  have entries : ticker.timerEvents.entries.Nodup :=
    List.Nodup.of_map _ ticker.timerEvents.nodupKeys
  refine List.Nodup.map_on ?_ ((List.perm_insertionSort _ _).nodup_iff.mpr entries)
  rintro ⟨first, event⟩ here ⟨second, other⟩ there same
  rw [List.mem_insertionSort] at here there
  obtain rfl : event = other := same
  have own := keyed first event (AList.mem_lookup_iff.mpr here)
  have also := keyed second event (AList.mem_lookup_iff.mpr there)
  rw [← own, ← also]

variable [DecidableEq Event] {choice : Choice Event}

theorem passes_ticker (acted : act events ticker place choice = some (after, next))
    (own : place.calls = false) (passes : Passes events ticker place) :
    Passes events after next := by
  obtain ⟨keyed, nodup, inTable⟩ := passes
  revert acted own nodup inTable
  fun_cases act events ticker place choice
  all_goals intro acted own nodup inTable
  all_goals simp only [Option.some.injEq, Prod.mk.injEq, reduceCtorEq] at acted
  all_goals obtain ⟨rfl, rfl⟩ := acted
  case case4 => exact ⟨keyed_eraseAll keyed, List.nodup_nil, fun _ member => by cases member⟩
  case case5 =>
    refine ⟨keyed, nodup_values keyed, fun event member => ?_⟩
    obtain ⟨timerEventId, found⟩ := mem_values.mp member
    rw [keyed timerEventId event found]
    exact found
  case case8 =>
    exact ⟨keyed, nodup.of_cons, fun event member => inTable event (List.mem_cons_of_mem _ member)⟩
  case case10 =>
    exact ⟨keyed, nodup.of_cons, fun event member => inTable event (List.mem_cons_of_mem _ member)⟩
  all_goals first
    | exact ⟨keyed, nodup, inTable⟩
    | cases own

theorem passes_caller (acted : act events ticker place choice = some (after, next))
    (calls : place.calls = true) {other : Place Event} (passes : Passes events ticker other) :
    Passes events after other := by
  obtain ⟨keyed, nodup, inTable⟩ := passes
  revert acted calls
  fun_cases act events ticker place choice
  all_goals intro acted calls
  all_goals simp only [Option.some.injEq, Prod.mk.injEq, reduceCtorEq] at acted
  all_goals obtain ⟨rfl, rfl⟩ := acted
  case case15 registering _ =>
    refine ⟨keyed_emplace keyed, nodup, fun event member => ?_⟩
    have found := inTable event member
    by_cases same : events.timerEventId event = events.timerEventId registering
    · rw [same, lookup_emplace, ← same, found, Option.getD_some]
    · rw [lookup_emplace_ne events same, found]
  all_goals first
    | exact ⟨keyed, nodup, inTable⟩
    | cases calls

/-- The ticker's step leaves an id alone that does not wait for its removal. -/
theorem lookup_ticker (acted : act events ticker place choice = some (after, next))
    (own : place.calls = false) {timerEventId : TimerEventId}
    (other : choice ≠ .unregister timerEventId) (waits : ¬ Pending ticker place timerEventId) :
    after.timerEvents.lookup timerEventId = ticker.timerEvents.lookup timerEventId ∧
      ¬ Pending after next timerEventId := by
  obtain ⟨unlisted, uncopied⟩ := not_or.mp waits
  revert acted own other uncopied
  fun_cases act events ticker place choice
  all_goals intro acted own other uncopied
  all_goals simp only [Option.some.injEq, Prod.mk.injEq, reduceCtorEq] at acted
  all_goals obtain ⟨rfl, rfl⟩ := acted
  case case3 => exact ⟨rfl, not_or.mpr ⟨List.not_mem_nil, unlisted⟩⟩
  case case4 =>
    exact ⟨(lookup_eraseAll _ _).trans (if_neg uncopied),
      not_or.mpr ⟨unlisted, List.not_mem_nil⟩⟩
  case case9 =>
    refine ⟨rfl, not_or.mpr ⟨fun member => ?_, List.not_mem_nil⟩⟩
    rcases mem_unregisterTimerEvent.mp member with rfl | listed
    · exact other rfl
    · exact unlisted listed
  all_goals first
    | exact ⟨rfl, not_or.mpr ⟨unlisted, List.not_mem_nil⟩⟩
    | cases own

/-- Another thread's step, too. -/
theorem lookup_caller (acted : act events ticker place choice = some (after, next))
    (calls : place.calls = true) {timerEventId : TimerEventId}
    (other : choice ≠ .unregister timerEventId)
    (elsewhere : ∀ registering, place = .emplace registering →
      events.timerEventId registering = timerEventId → timerEventId ∈ ticker.timerEvents)
    {tickerPlace : Place Event} (waits : ¬ Pending ticker tickerPlace timerEventId) :
    after.timerEvents.lookup timerEventId = ticker.timerEvents.lookup timerEventId ∧
      ¬ Pending after tickerPlace timerEventId := by
  revert acted calls other elsewhere
  fun_cases act events ticker place choice
  all_goals intro acted calls other elsewhere
  all_goals simp only [Option.some.injEq, Prod.mk.injEq, reduceCtorEq] at acted
  all_goals obtain ⟨rfl, rfl⟩ := acted
  case case15 registering _ =>
    refine ⟨?_, waits⟩
    by_cases same : timerEventId = events.timerEventId registering
    · subst same
      obtain ⟨stored, found⟩ := Option.isSome_iff_exists.mp
        (AList.lookup_isSome.mpr (elsewhere registering rfl rfl))
      rw [lookup_emplace, found, Option.getD_some]
    · exact lookup_emplace_ne events same
  case case16 =>
    refine ⟨rfl, fun pending => waits (pending.imp_left fun member => ?_)⟩
    rcases mem_unregisterTimerEvent.mp member with rfl | listed
    · exact absurd rfl other
    · exact listed
  all_goals first
    | exact ⟨rfl, waits⟩
    | cases calls

end Steps

/-! ### The schedule the code keeps -/

section Follows

variable {Event : Type u} {events : TimerEvents Event} {ticker after : Ticker Event}
  {place next : Place Event} {event : Event} {choice : Choice Event} {start : ℕ} {log : List Tick}

/-- Whether the tick has come to the event. -/
inductive Stage
  | ahead
  | firing
  | done

/-- The stage of an event of the table. -/
def Place.stage [DecidableEq Event] (event : Event) : Place Event → Stage
  | .takeList => .ahead
  | .erase _ => .ahead
  | .beginPass => .ahead
  | .pass rest => if event ∈ rest then .ahead else .done
  | .fire other rest =>
      if other = event then .firing else if event ∈ rest then .ahead else .done
  | _ => .done

/-- The event keeps the schedule: in the ticks before this one, as far as this one has come. -/
def Follows (intervalMs start : ℕ) (ticker : Ticker Event) (event : Event) (log : List Tick) :
    Stage → Prop
  | .ahead => ∃ earlier, log = ⟨ticker.nowMs, 0⟩ :: earlier ∧ Scheduled intervalMs start earlier ∧
      ticker.nextTick event = nextDue intervalMs start (earlier.map Tick.nowMs)
  | .firing => ∃ earlier, log = ⟨ticker.nowMs, 1⟩ :: earlier ∧
      Scheduled intervalMs start earlier ∧
      nextDue intervalMs start (earlier.map Tick.nowMs) ≤ ticker.nowMs
  | .done => Scheduled intervalMs start log ∧
      ticker.nextTick event = nextDue intervalMs start (log.map Tick.nowMs)

/-- A tick at which the event is not due, or is. -/
theorem Scheduled.cons {intervalMs : ℕ} {earlier : List Tick}
    (scheduled : Scheduled intervalMs start earlier) (nowMs : ℕ) :
    Scheduled intervalMs start
      (⟨nowMs, if nextDue intervalMs start (earlier.map Tick.nowMs) ≤ nowMs then 1 else 0⟩ ::
        earlier) := by
  rw [Scheduled, List.map_cons, List.map_cons, schedule, scheduled]

/-- What changes neither the clock nor the event's time. -/
theorem Follows.of_same {intervalMs : ℕ} {stage : Stage}
    (follows : Follows intervalMs start ticker event log stage) (clock : after.nowMs = ticker.nowMs)
    (time : after.nextTick event = ticker.nextTick event) :
    Follows intervalMs start after event log stage := by
  cases stage <;> simpa only [Follows, clock, time] using follows

variable [DecidableEq Event]

/-- A step that does not come to the event. -/
theorem Follows.keeps {intervalMs : ℕ} {stage : Stage}
    (follows : Follows intervalMs start ticker event log stage) (clock : after.nowMs = ticker.nowMs)
    (time : after.nextTick event = ticker.nextTick event)
    (unfired : watch event ticker after choice log = log) (same : next.stage event = stage) :
    Follows intervalMs start after event (watch event ticker after choice log)
      (next.stage event) := by
  rw [unfired, same]
  exact follows.of_same clock time

/-- **The ticker's step** keeps the schedule of an event of the table. -/
theorem follows_ticker (acted : act events ticker place choice = some (after, next))
    (own : place.calls = false) (passes : Passes events ticker place)
    (found : ticker.timerEvents.lookup (events.timerEventId event) = some event)
    (clock : ticker.nowMs < 2 ^ 63) (interval : events.intervalMs event < 2 ^ 32)
    (follows : Follows (events.intervalMs event) start ticker event log (place.stage event)) :
    Follows (events.intervalMs event) start after event (watch event ticker after choice log)
      (next.stage event) := by
  revert acted own passes follows
  fun_cases act events ticker place choice
  all_goals intro acted own passes follows
  all_goals simp only [Option.some.injEq, Prod.mk.injEq, reduceCtorEq] at acted
  all_goals obtain ⟨rfl, rfl⟩ := acted
  case case1 nowMs => exact ⟨log, rfl, follows⟩
  case case2 => exact follows.keeps rfl rfl (by simp [watch, Ticker.record]) rfl
  case case3 => exact follows.keeps rfl rfl (by simp [watch, Ticker.record]) rfl
  case case4 => exact follows.keeps rfl rfl (by simp [watch, Ticker.eraseAll]) rfl
  case case5 =>
    have inPass : event ∈ ticker.values := mem_values.mpr ⟨_, found⟩
    exact follows.keeps rfl rfl (by simp [watch, Ticker.record]) (if_pos inPass)
  case case6 => exact follows.keeps rfl rfl (by simp [watch]) rfl
  case case7 first rest due =>
    by_cases same : first = event
    · subst same
      have here : Follows (events.intervalMs first) start ticker first log .ahead := by
        simpa [Place.stage] using follows
      obtain ⟨earlier, rfl, scheduled, time⟩ := here
      have late : ticker.nextTick first ≤ ticker.nowMs := of_decide_eq_true due
      simp only [Place.stage, if_true, watch, Ticker.record]
      exact ⟨earlier, rfl, scheduled, time ▸ late⟩
    · exact follows.keeps rfl rfl (by simp [watch, Ticker.record, same])
        (by simp [Place.stage, same, Ne.symm same])
  case case8 first rest early =>
    by_cases same : first = event
    · subst same
      have here : Follows (events.intervalMs first) start ticker first log .ahead := by
        simpa [Place.stage] using follows
      obtain ⟨earlier, rfl, scheduled, time⟩ := here
      have notYet : ¬ nextDue (events.intervalMs first) start (earlier.map Tick.nowMs) ≤
          ticker.nowMs := by
        rw [← time]
        simpa [Ticker.shouldFire] using early
      have behind : first ∉ rest := (List.nodup_cons.mp passes.nodup).1
      have next := scheduled.cons ticker.nowMs
      rw [if_neg notYet] at next
      simp only [Place.stage, behind, if_false, watch]
      simpa [Follows, nextDue, notYet, time] using next
    · exact follows.keeps rfl rfl (by simp [watch]) (by simp [Place.stage, Ne.symm same])
  case case9 other rest timerEventId =>
    exact follows.keeps rfl rfl (by simp [watch, Ticker.unregisterTimerEvent, Ticker.record]) rfl
  case case10 other rest =>
    by_cases same : other = event
    · subst same
      have here : Follows (events.intervalMs other) start ticker other log .firing := by
        simpa [Place.stage] using follows
      obtain ⟨earlier, rfl, scheduled, late⟩ := here
      have behind : other ∉ rest := (List.nodup_cons.mp passes.nodup).1
      have next := scheduled.cons ticker.nowMs
      rw [if_pos late] at next
      have time : (ticker.setNextTick events other ticker.nowMs).nextTick other =
          ticker.nowMs + events.intervalMs other :=
        (Function.update_self ..).trans (Nat.mod_eq_of_lt (by omega))
      have quiet : watch other ticker (ticker.setNextTick events other ticker.nowMs) .go
          (⟨ticker.nowMs, 1⟩ :: earlier) = ⟨ticker.nowMs, 1⟩ :: earlier := by
        simp [watch, Ticker.setNextTick]
      simp only [Place.stage, behind, if_false, quiet]
      refine ⟨next, ?_⟩
      rw [time, List.map_cons, nextDue, if_pos late]
    · refine follows.keeps rfl ?_ (by simp [watch, Ticker.setNextTick])
        (by simp [Place.stage, same])
      exact Function.update_of_ne (Ne.symm same) _ _
  case case11 => exact follows.keeps rfl rfl (by simp [watch]) rfl
  all_goals cases own

/-- The ticker's step while the event is not in the table yet, and no tick begins. -/
theorem ticker_of_absent (log : List Tick)
    (acted : act events ticker place choice = some (after, next))
    (own : place.calls = false) (passes : Passes events ticker place)
    (absent : events.timerEventId event ∉ ticker.timerEvents)
    (awake : ∀ nowMs, choice ≠ .wake nowMs) :
    after.nextTick event = ticker.nextTick event ∧ watch event ticker after choice log = log := by
  have elsewhere (other : Event) (member : other ∈ place.looking) : other ≠ event := by
    rintro rfl
    exact absent (AList.lookup_isSome.mp (passes.inTable other member ▸ rfl))
  revert acted own awake elsewhere
  clear passes
  fun_cases act events ticker place choice
  all_goals intro acted own awake elsewhere
  all_goals simp only [Option.some.injEq, Prod.mk.injEq, reduceCtorEq] at acted
  all_goals obtain ⟨rfl, rfl⟩ := acted
  case case1 nowMs => exact absurd rfl (awake nowMs)
  case case7 first rest _ =>
    have other := elsewhere first List.mem_cons_self
    exact ⟨rfl, by simp [watch, Ticker.record, other]⟩
  case case10 first rest =>
    have other := elsewhere first List.mem_cons_self
    exact ⟨Function.update_of_ne other.symm _ _, by simp [watch, Ticker.setNextTick]⟩
  case case12 | case13 | case15 | case16 => cases own
  case case9 => exact ⟨rfl, by simp [watch, Ticker.unregisterTimerEvent, Ticker.record]⟩
  case case4 => exact ⟨rfl, by simp [watch, Ticker.eraseAll]⟩
  case case6 | case8 | case11 => exact ⟨rfl, by simp [watch]⟩
  all_goals exact ⟨rfl, by simp [watch, Ticker.record]⟩

/-- Another thread's step does not fire, and leaves the event's time alone. -/
theorem caller_watch (log : List Tick)
    (acted : act events ticker place choice = some (after, next))
    (calls : place.calls = true) (other : choice ≠ .register (some event)) :
    after.nextTick event = ticker.nextTick event ∧ watch event ticker after choice log = log := by
  revert acted calls other
  fun_cases act events ticker place choice
  all_goals intro acted calls other
  all_goals simp only [Option.some.injEq, Prod.mk.injEq, reduceCtorEq] at acted
  all_goals obtain ⟨rfl, rfl⟩ := acted
  case case13 registering =>
    have different : event ≠ registering := fun same => other (same ▸ rfl)
    exact ⟨Function.update_of_ne different _ _, by simp [watch, Ticker.setNextTick]⟩
  case case12 => exact ⟨rfl, by simp [watch]⟩
  case case15 => exact ⟨rfl, by simp [watch, Ticker.emplace, Ticker.record]⟩
  case case16 => exact ⟨rfl, by simp [watch, Ticker.unregisterTimerEvent, Ticker.record]⟩
  all_goals cases calls

/-- Only the ticker wakes up. -/
theorem caller_awake (acted : act events ticker place choice = some (after, next))
    (calls : place.calls = true) (nowMs : ℕ) : choice ≠ .wake nowMs := by
  rintro rfl
  cases place with
  | outside | emplace => simp [act] at acted
  | _ => cases calls

/-- A registration that is let into the table, and finds the id free. -/
theorem follows_registered {intervalMs : ℕ} (time : ticker.nextTick event = start)
    (later : ticker.nowMs < start) (outside : event ∉ place.looking) :
    Follows intervalMs start ticker event [⟨ticker.nowMs, 0⟩] (place.stage event) := by
  have ahead : Follows intervalMs start ticker event [⟨ticker.nowMs, 0⟩] .ahead :=
    ⟨[], rfl, rfl, time⟩
  have done : Follows intervalMs start ticker event [⟨ticker.nowMs, 0⟩] .done := by
    have early : ¬ start ≤ ticker.nowMs := Nat.not_le.mpr later
    refine ⟨?_, ?_⟩
    · simp [Scheduled, schedule, nextDue, early]
    · simp [nextDue, early, time]
  cases place with
  | takeList | erase | beginPass => exact ahead
  | pass rest =>
      have behind : event ∉ rest := outside
      rw [Place.stage, if_neg behind]
      exact done
  | fire other rest =>
      obtain ⟨different, behind⟩ := not_or.mp (List.mem_cons.not.mp outside)
      rw [Place.stage, if_neg (Ne.symm different), if_neg behind]
      exact done
  | sleep | count | outside | emplace => exact done

/-- Only a wake-up sets the clock. -/
theorem nowMs_of_act (acted : act events ticker place choice = some (after, next))
    (awake : ∀ nowMs, choice ≠ .wake nowMs) : after.nowMs = ticker.nowMs := by
  revert acted awake
  fun_cases act events ticker place choice
  all_goals intro acted awake
  all_goals simp only [Option.some.injEq, Prod.mk.injEq, reduceCtorEq] at acted
  all_goals obtain ⟨rfl, rfl⟩ := acted
  case case1 nowMs => exact absurd rfl (awake nowMs)
  all_goals rfl

/-- The clock values of the log. -/
theorem clocks_watch (awake : ∀ nowMs, choice ≠ .wake nowMs) :
    (watch event ticker after choice log).map Tick.nowMs = log.map Tick.nowMs := by
  have fired : (addFire log).map Tick.nowMs = log.map Tick.nowMs := by
    cases log <;> rfl
  cases choice with
  | wake nowMs => exact absurd rfl (awake nowMs)
  | _ =>
      simp only [watch]
      split
      · exact fired
      · rfl

end Follows

/-! ### Runs after a registration -/

section Runs

variable {Event : Type u} {Caller : Type v} {events : TimerEvents Event} {event : Event}
  {start : ℕ} {watched after : Watched Event Caller}

variable (events event start) in
/-- The registration is not through: the event's time is set, and it is not in the table. -/
structure Registering (watched : Watched Event Caller) : Prop where
  absent : events.timerEventId event ∉ watched.state.shared.timerEvents
  log : watched.log = [⟨watched.state.shared.nowMs, 0⟩]
  time : watched.state.shared.nextTick event = start
  later : watched.state.shared.nowMs < start
  callers : ∀ name other, watched.state.pc (.caller name) = .emplace other →
    events.timerEventId other = events.timerEventId event → other = event

variable (events event start) in
/-- The registration is through, and the event keeps its schedule. -/
structure InTable [DecidableEq Event] (watched : Watched Event Caller) : Prop where
  found : watched.state.shared.timerEvents.lookup (events.timerEventId event) = some event
  follows : Follows (events.intervalMs event) start watched.state.shared event watched.log
    ((watched.state.pc .ticker).stage event)

variable (events event start) in
/-- What every step after the registration keeps. -/
structure Kept [DecidableEq Event] (watched : Watched Event Caller) : Prop where
  placed : Placed watched.state.pc
  passes : Passes events watched.state.shared (watched.state.pc .ticker)
  notPending : ¬ Pending watched.state.shared (watched.state.pc .ticker)
    (events.timerEventId event)
  clock : watched.state.shared.nowMs < 2 ^ 63
  clocks : ∃ earlier, watched.log.map Tick.nowMs = watched.state.shared.nowMs :: earlier ∧
    (watched.state.shared.nowMs :: earlier).Pairwise (· ≥ ·)
  phase : Registering events event start watched ∨ InTable events event start watched

variable [DecidableEq Event] [DecidableEq Caller]

omit [DecidableEq Caller] in
/-- A step that sets no clock keeps the clock values. -/
theorem Kept.clocks_of_awake (kept : Kept events event start watched) {shared : Ticker Event}
    (log : List Tick) (clock : shared.nowMs = watched.state.shared.nowMs)
    (log_eq : log.map Tick.nowMs = watched.log.map Tick.nowMs) :
    ∃ earlier, log.map Tick.nowMs = shared.nowMs :: earlier ∧
      (shared.nowMs :: earlier).Pairwise (· ≥ ·) := by
  rw [clock, log_eq]
  exact kept.clocks

omit [DecidableEq Caller] in
/-- A tick begins. -/
theorem Kept.wake (kept : Kept events event start watched) {nowMs : ℕ}
    (here : watched.state.pc .ticker = .sleep)
    (undisturbed : Undisturbed events event watched (.ticker, .wake nowMs))
    {pc : Tid Caller → Place Event} (next : pc .ticker = .takeList) (placed : Placed pc) :
    Kept events event start
      ⟨⟨{ watched.state.shared with nowMs := nowMs }, pc⟩, ⟨nowMs, 0⟩ :: watched.log⟩ := by
  obtain ⟨later, small, through⟩ := undisturbed
  obtain ⟨earlier, log_eq, ordered⟩ := kept.clocks
  have found : InTable events event start watched :=
    kept.phase.resolve_left fun registering => registering.absent through
  have follows := found.follows
  rw [here] at follows
  have passes : Passes events { watched.state.shared with nowMs := nowMs } (pc .ticker) := by
    rw [next]
    exact ⟨kept.passes.keyed, List.nodup_nil, fun _ member => absurd member List.not_mem_nil⟩
  have waits : ¬ Pending { watched.state.shared with nowMs := nowMs } (pc .ticker)
      (events.timerEventId event) := by
    have before := kept.notPending
    rw [here] at before
    rw [next]
    exact before
  have begun : Follows (events.intervalMs event) start
      { watched.state.shared with nowMs := nowMs } event (⟨nowMs, 0⟩ :: watched.log)
      ((pc .ticker).stage event) := by
    rw [next]
    exact ⟨watched.log, rfl, follows⟩
  refine ⟨placed, passes, waits, small, ?_, .inr ⟨found.found, begun⟩⟩
  refine ⟨watched.state.shared.nowMs :: earlier, by rw [List.map_cons, log_eq], ?_⟩
  refine List.pairwise_cons.mpr ⟨fun other member => ?_, ordered⟩
  rcases List.mem_cons.mp member with rfl | member
  · exact later
  · exact Nat.le_trans ((List.pairwise_cons.mp ordered).1 other member) later

omit [DecidableEq Caller] in
/-- **The ticker's step**, but for the wake-up. -/
theorem Kept.ticker (kept : Kept events event start watched) {choice : Choice Event}
    {shared : Ticker Event} {pc : Tid Caller → Place Event}
    (acted : act events watched.state.shared (watched.state.pc .ticker) choice =
      some (shared, pc .ticker))
    (undisturbed : Undisturbed events event watched (.ticker, choice))
    (awake : ∀ nowMs, choice ≠ .wake nowMs)
    (interval : events.intervalMs event < 2 ^ 32) (placed : Placed pc)
    (callers : ∀ name, pc (.caller name) = watched.state.pc (.caller name)) :
    Kept events event start
      ⟨⟨shared, pc⟩, watch event watched.state.shared shared choice watched.log⟩ := by
  have own := kept.placed.ticker
  have clock := nowMs_of_act acted awake
  have other : choice ≠ .unregister (events.timerEventId event) := by
    rintro rfl
    exact undisturbed rfl
  obtain ⟨same, waits⟩ := lookup_ticker acted own other kept.notPending
  refine ⟨placed, passes_ticker acted own kept.passes, waits, clock ▸ kept.clock,
    kept.clocks_of_awake _ clock (clocks_watch awake), kept.phase.imp (fun registering => ?_)
      fun inTable => ?_⟩
  · obtain ⟨time, quiet⟩ := ticker_of_absent watched.log acted own kept.passes
      registering.absent awake
    refine ⟨?_, ?_, time.trans registering.time, clock ▸ registering.later, ?_⟩
    · rw [← AList.lookup_eq_none, same, AList.lookup_eq_none]
      exact registering.absent
    · exact quiet.trans (clock ▸ registering.log)
    · exact fun name other there =>
        registering.callers name other ((callers name).symm.trans there)
  · exact ⟨same.trans inTable.found, follows_ticker acted own kept.passes inTable.found kept.clock
      interval inTable.follows⟩

omit [DecidableEq Caller] in
/-- **A caller's step.** -/
theorem Kept.caller (kept : Kept events event start watched) {name : Caller}
    {choice : Choice Event} {shared : Ticker Event} {pc : Tid Caller → Place Event}
    (acted : act events watched.state.shared (watched.state.pc (.caller name)) choice =
      some (shared, pc (.caller name)))
    (undisturbed : Undisturbed events event watched (.caller name, choice)) (placed : Placed pc)
    (others : ∀ thread, thread ≠ .caller name → pc thread = watched.state.pc thread) :
    Kept events event start
      ⟨⟨shared, pc⟩, watch event watched.state.shared shared choice watched.log⟩ := by
  have calls := kept.placed.callers name
  have awake := caller_awake acted calls
  have clock := nowMs_of_act acted awake
  have unregisters : choice ≠ .unregister (events.timerEventId event) := by
    rintro rfl
    exact undisturbed rfl
  have registers : choice ≠ .register (some event) := by
    rintro rfl
    exact undisturbed.1 rfl
  have tickerPlace : pc .ticker = watched.state.pc .ticker := others .ticker (by simp)
  have passes : Passes events shared (pc .ticker) :=
    tickerPlace ▸ passes_caller acted calls kept.passes
  obtain ⟨time, quiet⟩ := caller_watch watched.log acted calls registers
  have clocks := kept.clocks_of_awake (watch event watched.state.shared shared choice watched.log)
    clock (clocks_watch awake)
  -- a step that puts no event at the id
  have lookups (elsewhere : ∀ registering, watched.state.pc (.caller name) = .emplace registering →
      events.timerEventId registering = events.timerEventId event →
        events.timerEventId event ∈ watched.state.shared.timerEvents) :=
    lookup_caller acted calls unregisters elsewhere kept.notPending
  rcases kept.phase with registering | inTable
  · by_cases through : watched.state.pc (.caller name) = .emplace event
    · rw [through] at acted
      obtain rfl := emplace_of_act acted
      have waits := kept.notPending
      rw [← tickerPlace] at waits
      refine ⟨placed, passes, waits, kept.clock, clocks, .inr ⟨?_, ?_⟩⟩
      · refine (lookup_emplace events watched.state.shared event).trans ?_
        rw [AList.lookup_eq_none.mpr registering.absent, Option.getD_none]
      · have outside : event ∉ (watched.state.pc .ticker).looking := fun member =>
          registering.absent (AList.lookup_isSome.mp (kept.passes.inTable event member ▸ rfl))
        show Follows _ _ _ _ _ ((pc .ticker).stage event)
        rw [quiet, tickerPlace, registering.log]
        exact (follows_registered registering.time registering.later outside).of_same rfl rfl
    · obtain ⟨same, waits⟩ := lookups fun other there sameId =>
        absurd (registering.callers name other there sameId ▸ there) through
      rw [← tickerPlace] at waits
      refine ⟨placed, passes, waits, clock ▸ kept.clock, clocks, .inl ⟨?_, ?_, ?_, ?_, ?_⟩⟩
      · rw [← AList.lookup_eq_none, same, AList.lookup_eq_none]
        exact registering.absent
      · exact quiet.trans (clock ▸ registering.log)
      · exact time.trans registering.time
      · exact clock ▸ registering.later
      · intro thread other there sameId
        by_cases own : thread = name
        · subst own
          have there : pc (.caller thread) = .emplace other := there
          rw [there] at acted
          obtain rfl := register_of_emplace acted
          exact absurd (undisturbed.2 sameId) registering.absent
        · exact registering.callers thread other
            ((others (.caller thread) (by simpa using own)).symm.trans there) sameId
  · have present : events.timerEventId event ∈ watched.state.shared.timerEvents :=
      AList.lookup_isSome.mp (inTable.found ▸ rfl)
    obtain ⟨same, waits⟩ := lookups fun _ _ _ => present
    rw [← tickerPlace] at waits
    refine ⟨placed, passes, waits, clock ▸ kept.clock, clocks, .inr ⟨?_, ?_⟩⟩
    · exact same.trans inTable.found
    · show Follows _ _ _ _ _ ((pc .ticker).stage event)
      rw [quiet, tickerPlace]
      exact inTable.follows.of_same clock time

/-- Every run keeps the pass and the table together. -/
theorem passes_reach {state : State Event Caller}
    (reached : Reach (step events) Unguarded (initial Event Caller) state) :
    Placed state.pc ∧ Passes events state.shared (state.pc .ticker) := by
  refine reached.invariant (fun state : State Event Caller =>
    Placed state.pc ∧ Passes events state.shared (state.pc .ticker)) ?_ ?_
  · refine ⟨⟨rfl, fun _ => rfl⟩, fun _ _ found => ?_, List.nodup_nil, fun _ member => ?_⟩
    · cases found
    · cases member
  · rintro before ⟨mover, choice⟩ after ⟨placed, passes⟩ - taken
    have placed' := (step_moves placed taken).2
    obtain ⟨shared, next, acted, rfl⟩ := threadStep_eq_some.mp taken
    refine ⟨placed', ?_⟩
    cases mover with
    | ticker =>
        simp only [Function.update_self]
        exact passes_ticker acted placed.ticker passes
    | caller name =>
        simpa using passes_caller acted (placed.callers name) passes

/-- **One step** after the registration. -/
theorem Kept.step (kept : Kept events event start watched) {label : Tid Caller × Choice Event}
    (undisturbed : Undisturbed events event watched label)
    (interval : events.intervalMs event < 2 ^ 32)
    (taken : watchedStep events event watched label = some after) :
    Kept events event start after := by
  obtain ⟨state, stepped, rfl⟩ := Option.map_eq_some_iff.mp taken
  have placed := (step_moves kept.placed stepped).2
  obtain ⟨shared, next, acted, rfl⟩ := threadStep_eq_some.mp stepped
  obtain ⟨mover, choice⟩ := label
  cases mover with
  | caller name =>
      refine kept.caller (by simpa using acted) undisturbed placed fun thread other => ?_
      exact Function.update_of_ne other _ _
  | ticker =>
      by_cases awake : ∀ nowMs, choice ≠ .wake nowMs
      · refine kept.ticker (by simpa using acted) undisturbed awake interval placed fun name => ?_
        exact Function.update_of_ne (by simp) _ _
      · push Not at awake
        obtain ⟨nowMs, rfl⟩ := awake
        have here : watched.state.pc .ticker = .sleep := by
          cases place : watched.state.pc .ticker <;> simp [place, act] at acted ⊢
        simp only [here, act, Option.some.injEq, Prod.mk.injEq] at acted
        obtain ⟨rfl, rfl⟩ := acted
        exact kept.wake here undisturbed (Function.update_self ..) placed

variable (events event) in
/-- A run after a call of `RegisterTimerEvent` at some time of the clock, for an event whose id is
not in use. -/
def RunsFrom (nowMs : ℕ) (watched : Watched Event Caller) : Prop :=
  ∃ before registering name, Reach (step events) Unguarded (initial Event Caller) before ∧
    Unused events event before ∧ before.shared.nowMs = nowMs ∧ nowMs < 2 ^ 63 ∧
    step events before (.caller name, .register (some event)) = some registering ∧
    Reach (watchedStep events event) (Undisturbed events event) ⟨registering, [⟨nowMs, 0⟩]⟩ watched

/-- **Registration**: the event is due two intervals later. -/
theorem kept_registering {before registering : State Event Caller} {name : Caller}
    (reached : Reach (step events) Unguarded (initial Event Caller) before)
    (unused : Unused events event before) (clock : before.shared.nowMs < 2 ^ 63)
    (interval : 0 < events.intervalMs event ∧ events.intervalMs event < 2 ^ 32)
    (called : step events before (.caller name, .register (some event)) = some registering) :
    Kept events event
      (before.shared.nowMs + events.intervalMs event + events.intervalMs event)
      ⟨registering, [⟨before.shared.nowMs, 0⟩]⟩ := by
  obtain ⟨placed, passes⟩ := passes_reach reached
  have placed' := (step_moves placed called).2
  obtain ⟨shared, next, acted, rfl⟩ := threadStep_eq_some.mp called
  have here : before.pc (.caller name) = .outside := by
    have calls := placed.callers name
    cases place : before.pc (.caller name) <;> simp [place, act, Place.calls] at acted calls ⊢
  simp only [here, act, Option.some.injEq, Prod.mk.injEq] at acted
  obtain ⟨rfl, rfl⟩ := acted
  obtain ⟨positive, small⟩ := interval
  refine ⟨placed', ?_, ?_, clock, ⟨[], rfl, List.pairwise_singleton _ _⟩,
    .inl ⟨unused.absent, rfl, ?_, ?_, ?_⟩⟩
  · simpa using (⟨passes.keyed, passes.nodup, passes.inTable⟩ : Passes events
      (before.shared.setNextTick events event (before.shared.nowMs + events.intervalMs event))
      (before.pc .ticker))
  · have waits : ¬ Pending (before.shared.setNextTick events event
        (before.shared.nowMs + events.intervalMs event)) (before.pc .ticker)
        (events.timerEventId event) := unused.notPending
    simpa using waits
  · exact (Function.update_self ..).trans (Nat.mod_eq_of_lt (by omega))
  · show before.shared.nowMs < _
    omega
  · intro thread other there sameId
    by_cases own : thread = name
    · subst own
      have there : Place.emplace event = .emplace other := by simpa using there
      cases there
      rfl
    · have there : before.pc (.caller thread) = .emplace other := by
        simpa [Function.update_of_ne, own] using there
      exact absurd sameId (unused.callers thread other there)

/-- **The schedule the code keeps** begins two intervals after the registration. -/
theorem kept_runsFrom {nowMs : ℕ} (runs : RunsFrom events event nowMs watched)
    (interval : 0 < events.intervalMs event ∧ events.intervalMs event < 2 ^ 32) :
    Kept events event (nowMs + events.intervalMs event + events.intervalMs event) watched := by
  obtain ⟨before, registering, name, reached, unused, rfl, clock, called, ran⟩ := runs
  refine ran.invariant (Kept events event _)
    (kept_registering reached unused clock interval called) ?_
  exact fun watched label after kept undisturbed taken =>
    kept.step undisturbed interval.2 taken

omit [DecidableEq Caller] in
/-- While the ticker sleeps, every tick has come to the event. -/
theorem Kept.scheduled (kept : Kept events event start watched)
    (asleep : watched.state.pc .ticker = .sleep) :
    Scheduled (events.intervalMs event) start watched.log := by
  rcases kept.phase with registering | inTable
  · have early : ¬ start ≤ watched.state.shared.nowMs := Nat.not_le.mpr registering.later
    rw [registering.log]
    simp [Scheduled, schedule, nextDue, early]
  · have follows := inTable.follows
    rw [asleep] at follows
    exact follows.1

/-- **When a timer event fires.** Of an event registered at `nowMs`, in every run after that, with
any ticks and any other events: it fires as it should at the ticks that are over, first from
`nowMs` and an interval on, exactly when none of them falls before `nowMs` and two intervals. -/
theorem schedule_iff (events : TimerEvents Event) (event : Event)
    (interval : 0 < events.intervalMs event ∧ events.intervalMs event < 2 ^ 32) (nowMs : ℕ)
    (watched : Watched Event Caller) (runs : RunsFrom events event nowMs watched)
    (asleep : watched.state.pc .ticker = .sleep) :
    Scheduled (events.intervalMs event) (nowMs + events.intervalMs event) watched.log ↔
      ∀ tick ∈ watched.log, ¬ (nowMs + events.intervalMs event ≤ tick.nowMs ∧
        tick.nowMs < nowMs + events.intervalMs event + events.intervalMs event) := by
  have kept := kept_runsFrom runs interval
  have late := kept.scheduled asleep
  obtain ⟨earlier, clocks, ordered⟩ := kept.clocks
  rw [Scheduled] at late
  rw [Scheduled, late, schedule_eq_iff (clocks ▸ ordered), List.forall_mem_map]

end Runs

/-! ### Runs on a clock -/

section Examples

/-- Every event has the interval of ten milliseconds. -/
def tenMs : TimerEvents ℕ := ⟨fun event => event, fun _ => 10⟩

instance (watched : Watched ℕ Unit) (label : Tid Unit × Choice ℕ) :
    Decidable (Undisturbed tenMs 0 watched label) := by
  unfold Undisturbed
  split <;> infer_instance

/-- After `RegisterTimerEvent` at time zero, before its lock. -/
def registeringAtZero : State ℕ Unit :=
  ⟨(initialTicker ℕ).setNextTick tenMs 0 10,
    Function.update initialPlace (.caller ()) (.emplace 0)⟩

/-- A schedule after it. -/
theorem exists_runsFrom (schedule : List (Tid Unit × Choice ℕ)) (test : Watched ℕ Unit → Bool)
    (passed : (runGuarded (watchedStep tenMs 0) (Undisturbed tenMs 0)
      ⟨registeringAtZero, [⟨0, 0⟩]⟩ schedule).map test = some true) :
    ∃ watched : Watched ℕ Unit, RunsFrom tenMs 0 0 watched ∧ test watched = true := by
  obtain ⟨watched, reached, holds⟩ := exists_reach_of_runGuarded _ _ _ schedule test passed
  have unused : Unused tenMs 0 (initial ℕ Unit) :=
    ⟨by decide, by decide, fun _ _ there => by cases there⟩
  exact ⟨watched, ⟨_, _, (), .start, unused, rfl, by decide, rfl, reached⟩, holds⟩

/-- A whole tick in which the event is due, or is not. -/
def tickAt (nowMs : ℕ) (due : Bool) : List (Tid Unit × Choice ℕ) :=
  let goes : Tid Unit × Choice ℕ := (.ticker, .go)
  [(.ticker, .wake nowMs), goes, goes, goes] ++ (if due then [goes] else []) ++ [goes, goes]

/-- Registered at zero with an interval of ten, the event fires at 25 and 35, and not at 30. -/
theorem schedule_iff_fired :
    ∃ watched : Watched ℕ Unit,
      watched.log = [⟨35, 1⟩, ⟨30, 0⟩, ⟨25, 1⟩, ⟨0, 0⟩] ∧ Scheduled 10 10 watched.log := by
  obtain ⟨watched, runs, holds⟩ := exists_runsFrom
    ((.caller (), .go) :: (tickAt 25 true ++ tickAt 30 false ++ tickAt 35 true))
    (fun watched => watched.log == [⟨35, 1⟩, ⟨30, 0⟩, ⟨25, 1⟩, ⟨0, 0⟩] &&
      watched.state.pc .ticker == .sleep) (by decide)
  obtain ⟨log, asleep⟩ := Bool.and_eq_true_iff.mp holds
  have log := eq_of_beq log
  refine ⟨watched, log, (schedule_iff tenMs 0 (by decide) 0 watched runs
    (eq_of_beq asleep)).mpr ?_⟩
  rw [log]
  decide

/-- **An interval late.** Registered at zero with an interval of ten, the event does not fire at
ten. -/
theorem fires_late :
    ¬ ∀ watched : Watched ℕ Unit, RunsFrom tenMs 0 0 watched →
      watched.state.pc .ticker = .sleep → Scheduled 10 10 watched.log := by
  intro scheduled
  obtain ⟨watched, runs, holds⟩ := exists_runsFrom ((.caller (), .go) :: tickAt 10 false)
    (fun watched => watched.log == [⟨10, 0⟩, ⟨0, 0⟩] && watched.state.pc .ticker == .sleep)
    (by decide)
  obtain ⟨log, asleep⟩ := Bool.and_eq_true_iff.mp holds
  have kept := scheduled watched runs (eq_of_beq asleep)
  rw [eq_of_beq log] at kept
  revert kept
  decide

end Examples

end ActorModelServer.Timer
