/-
**What the timer table holds.**

Registration changes `timerEvents` at once; removal waits in `unregisterTargetList` for the next
tick.

* `registered_inTable` — where no registration takes effect while its id waits for removal, an
  event is in the table from its registration to the next unregistration of its id.
* `registration_cancelled` — a registration between `UnregisterTimerEvent` and the tick is undone
  by that tick; `pending_cancels` — so is every one that takes effect while its id waits.
* `unregistered_silent` — an id that was unregistered before a tick takes the list, and not
  registered again, does not fire in that tick or a later one, and an event leaves the table only
  through its own id.
-/

import ActorModelServer.Timer.Ticker

namespace ActorModelServer.Timer

open ThreadTable (threadStep_eq_some leads_of_act)
open StepRuns (Reach Leads Unguarded Since Lasting EachAfter since_append lasting_append
  eachAfter_append not_since_nil lasting_nil eachAfter_nil exists_reach_of_run
  exists_reach_of_runGuarded)

universe u v

section Model

variable {Event : Type u} {Caller : Type v}

/-- Every event of the table is at its own id. -/
def Keyed (events : TimerEvents Event) (ticker : Ticker Event) : Prop :=
  ∀ timerEventId event, ticker.timerEvents.lookup timerEventId = some event →
    events.timerEventId event = timerEventId

/-- The event was registered, and its id not unregistered since. -/
def Registered (events : TimerEvents Event) (event : Event)
    (history : List (Happening Event)) : Prop :=
  Since (· = .registered event) (· = .unregistered (events.timerEventId event)) history

/-- A registration with the id. -/
def registers (events : TimerEvents Event) (timerEventId : TimerEventId) :
    Happening Event → Prop
  | .registered event => events.timerEventId event = timerEventId
  | _ => False

/-- The id was unregistered, and no event of the id registered since. -/
def Unregistered (events : TimerEvents Event) (timerEventId : TimerEventId)
    (history : List (Happening Event)) : Prop :=
  Since (· = .unregistered timerEventId) (registers events timerEventId) history

/-- A tick took the list when the id was unregistered, and no event of the id was registered
since. -/
def Overdue (events : TimerEvents Event) (timerEventId : TimerEventId) :
    List (Happening Event) → Prop :=
  Lasting (fun history => ∃ front, history = front ++ [.listTaken] ∧
    Unregistered events timerEventId front) (registers events timerEventId)

/-- A registration takes effect only while its id does not wait for removal. -/
def NotPending (events : TimerEvents Event) (state : State Event Caller)
    (label : Tid Caller × Choice Event) : Prop :=
  match state.pc label.1 with
  | .emplace event =>
      ¬ Pending state.shared (state.pc .ticker) (events.timerEventId event)
  | _ => True

instance (events : TimerEvents Event) (state : State Event Caller)
    (label : Tid Caller × Choice Event) : Decidable (NotPending events state label) := by
  unfold NotPending
  split <;> infer_instance

end Model

/-! ### The keys of the table -/

section Keys

variable {Event : Type u} {events : TimerEvents Event} {ticker after : Ticker Event}
  {mover place next : Place Event} {event : Event}

theorem keyed_emplace (keyed : Keyed events ticker) :
    Keyed events (ticker.emplace events event) := by
  intro timerEventId other found
  by_cases same : timerEventId = events.timerEventId event
  · subst same
    rw [lookup_emplace] at found
    obtain rfl := Option.some.inj found
    cases here : ticker.timerEvents.lookup (events.timerEventId event) with
    | none => rfl
    | some stored => exact keyed _ _ here
  · rw [lookup_emplace_ne events same] at found
    exact keyed _ _ found

theorem keyed_eraseAll {ids : List TimerEventId} (keyed : Keyed events ticker) :
    Keyed events (ticker.eraseAll ids) := by
  intro timerEventId other found
  rw [lookup_eraseAll] at found
  exact keyed _ _ (Option.ite_none_left_eq_some.mp found).2

theorem keyed_step (moved : Moves events mover ticker place after next)
    (keyed : Keyed events ticker) : Keyed events after := by
  cases moved with
  | quiet same _ _ =>
      unfold Keyed
      rw [same.timerEvents]
      exact keyed
  | erased _ => exact keyed_eraseAll keyed
  | emplaced _ _ => exact keyed_emplace keyed
  | nothingTaken _ | taken _ | begun | fired _ _ | unregistered _ _ => exact keyed

end Keys

/-! ### Registered events -/

section RegisteredEvents

variable {Event : Type u} {events : TimerEvents Event} {ticker after : Ticker Event}
  {mover place next : Place Event} {event : Event}

variable (events) in
/-- The event is in the table, and not about to be removed, while it is registered. -/
def Held (event : Event) (ticker : Ticker Event) (place : Place Event) : Prop :=
  Registered events event ticker.history →
    ticker.timerEvents.lookup (events.timerEventId event) = some event ∧
      ¬ Pending ticker place (events.timerEventId event)

/-- A registration that takes effect. -/
theorem held_emplace {registering : Event} (distinct : Function.Injective events.timerEventId)
    (keyed : Keyed events ticker)
    (notPending : ¬ Pending ticker place (events.timerEventId registering))
    (held : Held events event ticker place) :
    Held events event (ticker.emplace events registering) place := by
  intro registered
  rcases since_append.mp registered with entered | ⟨before, -⟩
  · obtain rfl : registering = event := by simpa using entered
    refine ⟨?_, notPending⟩
    rw [lookup_emplace]
    cases here : ticker.timerEvents.lookup (events.timerEventId registering) with
    | none => rfl
    | some stored => rw [Option.getD_some, distinct (keyed _ _ here)]
  · obtain ⟨found, waits⟩ := held before
    refine ⟨?_, waits⟩
    by_cases same : events.timerEventId event = events.timerEventId registering
    · rw [same, lookup_emplace, ← same, found, Option.getD_some]
    · rw [lookup_emplace_ne events same, found]

theorem held_step (distinct : Function.Injective events.timerEventId)
    (moved : Moves events mover ticker place after next) (keyed : Keyed events ticker)
    (notPending : ∀ registering, mover = .emplace registering →
      ¬ Pending ticker place (events.timerEventId registering))
    (held : Held events event ticker place) : Held events event after next := by
  intro registered
  cases moved with
  | quiet same copy _ =>
      rw [same.history] at registered
      unfold Pending
      rw [same.timerEvents, same.unregisterTargetList, copy]
      exact held registered
  | nothingTaken none =>
      have before := (since_append.mp registered).resolve_left (by simp)
      exact held before.1
  | taken _ =>
      have before := (since_append.mp registered).resolve_left (by simp)
      obtain ⟨found, waits⟩ := held before.1
      refine ⟨found, fun pending => waits (.inl ?_)⟩
      exact pending.resolve_left List.not_mem_nil
  | erased ids =>
      obtain ⟨found, waits⟩ := held registered
      have kept : events.timerEventId event ∉ ids := fun member => waits (.inr member)
      refine ⟨?_, fun pending => waits (.inl (pending.resolve_right List.not_mem_nil))⟩
      rw [lookup_eraseAll, if_neg kept, found]
  | begun =>
      have before := (since_append.mp registered).resolve_left (by simp)
      exact held before.1
  | fired _ _ =>
      have before := (since_append.mp registered).resolve_left (by simp)
      exact held before.1
  | unregistered _ timerEventId =>
      obtain ⟨before, other⟩ := (since_append.mp registered).resolve_left (by simp)
      obtain ⟨found, waits⟩ := held before
      refine ⟨found, fun pending => waits (pending.imp_left fun member => ?_)⟩
      refine (mem_unregisterTimerEvent.mp member).resolve_left fun same => other ?_
      rw [same]
  | emplaced _ registers =>
      exact held_emplace distinct keyed (notPending _ registers) held registered

variable {Caller : Type v} [DecidableEq Event] [DecidableEq Caller]

/-- **Registered events are in the table.** In every run in which no registration takes effect
while its id waits for removal, an event that was registered is in the table, and so in the pass of
a tick that begins, until its id is unregistered. -/
theorem registered_inTable (events : TimerEvents Event)
    (distinct : Function.Injective events.timerEventId) (state : State Event Caller)
    (reached : Reach (step events) (NotPending events) (initial Event Caller) state)
    (event : Event) (registered : Registered events event state.shared.history) :
    state.shared.timerEvents.lookup (events.timerEventId event) = some event ∧
      event ∈ state.shared.values := by
  have holds : (Placed state.pc ∧ Keyed events state.shared) ∧
      Held events event state.shared (state.pc .ticker) := by
    refine reached.invariant (fun state : State Event Caller =>
      (Placed state.pc ∧ Keyed events state.shared) ∧
        Held events event state.shared (state.pc .ticker)) ?_ ?_
    · refine ⟨⟨⟨rfl, fun _ => rfl⟩, ?_⟩, fun since => absurd since not_since_nil⟩
      intro timerEventId other found
      cases found
    · rintro before label after ⟨⟨placed, keyed⟩, held⟩ notPending taken
      obtain ⟨moved, placed⟩ := step_moves placed taken
      refine ⟨⟨placed, keyed_step moved keyed⟩, held_step distinct moved keyed ?_ held⟩
      intro registering here
      unfold NotPending at notPending
      rw [here] at notPending
      exact notPending
  obtain ⟨found, -⟩ := holds.2 registered
  exact ⟨found, mem_values.mpr ⟨_, found⟩⟩

end RegisteredEvents

/-! ### Registrations that are cancelled -/

section Cancelled

variable {Event : Type u} {Caller : Type v} {events : TimerEvents Event} {event : Event}

variable (events) in
/-- The pass that has just begun finds the event, if it was registered. -/
def InPass (event : Event) (ticker : Ticker Event) : Prop :=
  ∀ front, ticker.history = front ++ [.passBegun] → Registered events event front →
    ticker.timerEvents.lookup (events.timerEventId event) = some event

/-- The ticker thread alone steps. -/
def TickerAlone (_ : State Event Caller) (label : Tid Caller × Choice Event) : Prop :=
  label.1 = .ticker

/-- What happens but an unregistration of its id leaves an event registered. -/
theorem Registered.record {history : List (Happening Event)} {happening : Happening Event}
    (registered : Registered events event history)
    (other : happening ≠ .unregistered (events.timerEventId event)) :
    Registered events event (history ++ [happening]) :=
  since_append.mpr (.inr ⟨registered, other⟩)

variable [DecidableEq Event] [DecidableEq Caller]

variable (events) in
/-- The ticker alone comes to a pass without the registered event. -/
def Cancels (event : Event) (state : State Event Caller) : Prop :=
  Leads (step events) TickerAlone (fun later => ¬ InPass events event later.shared) state

variable {state : State Event Caller} {place next : Place Event} {after : Ticker Event}

/-- One step of the ticker on the way. -/
theorem Cancels.after_step (here : state.pc .ticker = place) (choice : Choice Event)
    (acted : act events state.shared place choice = some (after, next))
    (cancels : ∀ pc : Tid Caller → Place Event, pc .ticker = next →
      Cancels events event ⟨after, pc⟩) : Cancels events event state :=
  leads_of_act here choice rfl acted fun pc there _ => cancels pc there

theorem cancels_beginPass_of_none (here : state.pc .ticker = .beginPass)
    (registered : Registered events event state.shared.history)
    (gone : state.shared.timerEvents.lookup (events.timerEventId event) = none) :
    Cancels events event state := by
  refine Cancels.after_step here .go rfl fun pc _ => Leads.here fun inPass => ?_
  have found : state.shared.timerEvents.lookup (events.timerEventId event) = some event :=
    inPass state.shared.history rfl registered
  rw [gone] at found
  cases found

theorem cancels_erase_of_mem {ids : List TimerEventId} (here : state.pc .ticker = .erase ids)
    (registered : Registered events event state.shared.history)
    (taken : events.timerEventId event ∈ ids) : Cancels events event state := by
  refine Cancels.after_step here .go rfl fun pc next =>
    cancels_beginPass_of_none next registered ?_
  show (state.shared.eraseAll ids).timerEvents.lookup _ = none
  rw [lookup_eraseAll, if_pos taken]

theorem cancels_takeList (here : state.pc .ticker = .takeList)
    (registered : Registered events event state.shared.history)
    (waits : events.timerEventId event ∈ state.shared.unregisterTargetList) :
    Cancels events event state :=
  Cancels.after_step here .go (if_neg (List.ne_nil_of_mem waits)) fun _ next =>
    cancels_erase_of_mem next (registered.record nofun) waits

theorem cancels_sleep (here : state.pc .ticker = .sleep)
    (registered : Registered events event state.shared.history)
    (waits : events.timerEventId event ∈ state.shared.unregisterTargetList) :
    Cancels events event state :=
  Cancels.after_step here (.wake 0) rfl fun _ next => cancels_takeList next registered waits

theorem cancels_count (here : state.pc .ticker = .count)
    (registered : Registered events event state.shared.history)
    (waits : events.timerEventId event ∈ state.shared.unregisterTargetList) :
    Cancels events event state :=
  Cancels.after_step here .go rfl fun _ next => cancels_sleep next registered waits

/-- The pass goes on to its end. -/
theorem cancels_pass {rest : List Event} (here : state.pc .ticker = .pass rest)
    (registered : Registered events event state.shared.history)
    (waits : events.timerEventId event ∈ state.shared.unregisterTargetList) :
    Cancels events event state := by
  induction rest generalizing state with
  | nil => exact Cancels.after_step here .go rfl fun _ next => cancels_count next registered waits
  | cons first rest ih =>
      by_cases due : state.shared.shouldFire first = true
      · refine Cancels.after_step here .go (if_pos due) fun _ fires => ?_
        refine Cancels.after_step fires .go rfl fun _ next => ?_
        exact ih next (registered.record nofun) waits
      · exact Cancels.after_step here .go (if_neg due) fun _ next => ih next registered waits

theorem cancels_beginPass (here : state.pc .ticker = .beginPass)
    (registered : Registered events event state.shared.history)
    (waits : events.timerEventId event ∈ state.shared.unregisterTargetList) :
    Cancels events event state :=
  Cancels.after_step here .go rfl fun _ next =>
    cancels_pass next (registered.record nofun) waits

/-- A registered event whose id waits for its removal is removed. -/
theorem cancels_of_pending (placed : Placed state.pc)
    (registered : Registered events event state.shared.history)
    (pending : Pending state.shared (state.pc .ticker) (events.timerEventId event)) :
    Cancels events event state := by
  have own := placed.ticker
  cases here : state.pc .ticker with
  | erase ids =>
      rw [here] at pending
      by_cases taken : events.timerEventId event ∈ ids
      · exact cancels_erase_of_mem here registered taken
      · exact Cancels.after_step here .go rfl fun _ next =>
          cancels_beginPass next registered (pending.resolve_right taken)
  | fire first rest =>
      rw [here] at pending
      exact Cancels.after_step here .go rfl fun _ next =>
        cancels_pass next registered (pending.resolve_right List.not_mem_nil)
  | sleep =>
      rw [here] at pending
      exact cancels_sleep here registered (pending.resolve_right List.not_mem_nil)
  | takeList =>
      rw [here] at pending
      exact cancels_takeList here registered (pending.resolve_right List.not_mem_nil)
  | beginPass =>
      rw [here] at pending
      exact cancels_beginPass here registered (pending.resolve_right List.not_mem_nil)
  | pass rest =>
      rw [here] at pending
      exact cancels_pass here registered (pending.resolve_right List.not_mem_nil)
  | count =>
      rw [here] at pending
      exact cancels_count here registered (pending.resolve_right List.not_mem_nil)
  | outside | emplace _ =>
      rw [here] at own
      cases own

/-- **The condition is exact**: after a registration that takes effect while its id waits for
removal, the ticker alone comes to a pass without the event. -/
theorem pending_cancels {name : Caller} {choice : Choice Event} {after : State Event Caller}
    (placed : Placed state.pc) (registers : state.pc (.caller name) = .emplace event)
    (pending : Pending state.shared (state.pc .ticker) (events.timerEventId event))
    (taken : step events state (.caller name, choice) = some after) :
    Cancels events event after := by
  obtain ⟨-, placed⟩ := step_moves placed taken
  obtain ⟨shared, next, acted, rfl⟩ := threadStep_eq_some.mp taken
  rw [registers] at acted
  cases choice with
  | go =>
      obtain ⟨-, same⟩ := Option.ite_none_left_eq_some.mp acted
      cases same
      refine cancels_of_pending placed (since_append.mpr (.inl rfl)) ?_
      show Pending state.shared (Function.update state.pc (.caller name) .outside .ticker) _
      rw [Function.update_of_ne (by simp)]
      exact pending
  | wake _ | register _ | unregister _ => cases acted

end Cancelled

/-! ### Unregistered events -/

section UnregisteredEvents

variable {Event : Type u} {events : TimerEvents Event} {ticker after : Ticker Event}
  {mover place next : Place Event} {timerEventId : TimerEventId}

/-- The tick that takes the list makes the unregistered ids overdue. -/
theorem overdue_listTaken {history : List (Happening Event)} :
    Overdue events timerEventId (history ++ [.listTaken]) ↔
      Unregistered events timerEventId history ∨ Overdue events timerEventId history := by
  unfold Overdue
  rw [lasting_append]
  constructor
  · rintro (⟨front, same, unregistered⟩ | ⟨overdue, -⟩)
    · obtain ⟨rfl, -⟩ := List.append_inj' same rfl
      exact .inl unregistered
    · exact .inr overdue
  · rintro (unregistered | overdue)
    · exact .inl ⟨history, rfl, unregistered⟩
    · exact .inr ⟨overdue, id⟩

/-- What happens else makes no id overdue. -/
theorem overdue_append {history : List (Happening Event)} {happening : Happening Event}
    (other : happening ≠ .listTaken) :
    Overdue events timerEventId (history ++ [happening]) ↔
      Overdue events timerEventId history ∧ ¬ registers events timerEventId happening := by
  unfold Overdue
  rw [lasting_append, or_iff_right]
  rintro ⟨front, same, -⟩
  obtain ⟨-, same⟩ := List.append_inj' same rfl
  exact other (by simpa using same)

variable (events timerEventId) in
/-- What is left of an unregistered id: it waits for its removal or is gone; once it is overdue,
the ticker has it in its copy, and its pass has no event of the id to look at. -/
structure Leaving (ticker : Ticker Event) (place : Place Event) : Prop where
  unregistered : Unregistered events timerEventId ticker.history →
    Pending ticker place timerEventId ∨ ticker.timerEvents.lookup timerEventId = none
  overdue : Overdue events timerEventId ticker.history →
    timerEventId ∈ place.copy ∨ ticker.timerEvents.lookup timerEventId = none
  waiting : Overdue events timerEventId ticker.history →
    ∀ event ∈ place.waiting, events.timerEventId event ≠ timerEventId

/-- A registration of another id. -/
theorem lookup_emplace_of_not_registers {event : Event}
    (other : ¬ registers events timerEventId (.registered event)) :
    (ticker.emplace events event).timerEvents.lookup timerEventId =
      ticker.timerEvents.lookup timerEventId :=
  lookup_emplace_ne events fun same => other same.symm

theorem leaving_step (moved : Moves events mover ticker place after next)
    (keyed : Keyed events ticker) (leaving : Leaving events timerEventId ticker place) :
    Leaving events timerEventId after next := by
  cases moved with
  | quiet same copy waiting =>
      constructor
      · unfold Pending
        rw [same.history, same.timerEvents, same.unregisterTargetList, copy]
        exact leaving.unregistered
      · rw [same.history, same.timerEvents, copy]
        exact leaving.overdue
      · rw [same.history]
        exact fun overdue event member => leaving.waiting overdue event (waiting member)
  | nothingTaken none =>
      have gone (unregistered : Unregistered events timerEventId ticker.history) :
          ticker.timerEvents.lookup timerEventId = .none := by
        refine (leaving.unregistered unregistered).resolve_left ?_
        rintro (waits | waits)
        · rw [none] at waits
          exact List.not_mem_nil waits
        · exact List.not_mem_nil waits
      constructor
      · intro unregistered
        exact .inr (gone ((since_append.mp unregistered).resolve_left nofun).1)
      · intro overdue
        rcases overdue_listTaken.mp overdue with unregistered | overdue
        · exact .inr (gone unregistered)
        · exact leaving.overdue overdue
      · exact fun _ event member => absurd member List.not_mem_nil
  | taken _ =>
      constructor
      · intro unregistered
        have before := ((since_append.mp unregistered).resolve_left nofun).1
        refine (leaving.unregistered before).imp_left fun waits => .inr ?_
        exact waits.resolve_right List.not_mem_nil
      · intro overdue
        rcases overdue_listTaken.mp overdue with unregistered | overdue
        · refine (leaving.unregistered unregistered).imp_left fun waits => ?_
          exact waits.resolve_right List.not_mem_nil
        · exact .inr ((leaving.overdue overdue).resolve_left List.not_mem_nil)
      · exact fun _ event member => absurd member List.not_mem_nil
  | erased ids =>
      have gone (waits : timerEventId ∈ ids ∨ ticker.timerEvents.lookup timerEventId = none) :
          (ticker.eraseAll ids).timerEvents.lookup timerEventId = none := by
        rw [lookup_eraseAll]
        split
        · rfl
        · rename_i absent
          exact waits.resolve_left absent
      constructor
      · intro unregistered
        rcases leaving.unregistered unregistered with (waits | copied) | missing
        · exact .inl (.inl waits)
        · exact .inr (gone (.inl copied))
        · exact .inr (gone (.inr missing))
      · exact fun overdue => .inr (gone (leaving.overdue overdue))
      · exact fun _ event member => absurd member List.not_mem_nil
  | begun =>
      constructor
      · intro unregistered
        exact leaving.unregistered ((since_append.mp unregistered).resolve_left nofun).1
      · intro overdue
        exact leaving.overdue ((overdue_append (by simp)).mp overdue).1
      · intro overdue event member same
        have missing := (leaving.overdue ((overdue_append (by simp)).mp overdue).1).resolve_left
          List.not_mem_nil
        obtain ⟨id, found⟩ := mem_values.mp member
        obtain rfl : id = timerEventId := (keyed id event found).symm.trans same
        rw [missing] at found
        cases found
  | fired event rest =>
      constructor
      · intro unregistered
        exact leaving.unregistered ((since_append.mp unregistered).resolve_left nofun).1
      · intro overdue
        exact leaving.overdue ((overdue_append (by simp)).mp overdue).1
      · intro overdue other member
        exact leaving.waiting ((overdue_append (by simp)).mp overdue).1 other (.tail _ member)
  | unregistered _ id =>
      constructor
      · intro unregistered
        rcases since_append.mp unregistered with entered | ⟨before, -⟩
        · obtain rfl : id = timerEventId := by simpa using entered
          exact .inl (.inl (mem_unregisterTimerEvent.mpr (.inl rfl)))
        · refine (leaving.unregistered before).imp_left fun waits => waits.imp_left fun member => ?_
          exact mem_unregisterTimerEvent.mpr (.inr member)
      · intro overdue
        exact leaving.overdue ((overdue_append (by simp)).mp overdue).1
      · intro overdue
        exact leaving.waiting ((overdue_append (by simp)).mp overdue).1
  | emplaced _ _ =>
      constructor
      · intro unregistered
        obtain ⟨before, other⟩ := (since_append.mp unregistered).resolve_left nofun
        rw [lookup_emplace_of_not_registers other]
        exact leaving.unregistered before
      · intro overdue
        obtain ⟨before, other⟩ := (overdue_append (by simp)).mp overdue
        rw [lookup_emplace_of_not_registers other]
        exact leaving.overdue before
      · intro overdue
        exact leaving.waiting ((overdue_append (by simp)).mp overdue).1

variable (events) in
/-- No event fired while its id was overdue. -/
def Silent (history : List (Happening Event)) : Prop :=
  EachAfter (fun front happening => ∀ event, happening = .fired event →
    ¬ Overdue events (events.timerEventId event) front) history

theorem silent_step (moved : Moves events mover ticker place after next)
    (leaving : ∀ id, Leaving events id ticker place) (silent : Silent events ticker.history) :
    Silent events after.history := by
  cases moved with
  | quiet same _ _ =>
      rw [same.history]
      exact silent
  | erased _ => exact silent
  | fired event rest =>
      refine eachAfter_append.mpr ⟨silent, fun other same overdue => ?_⟩
      obtain rfl : event = other := by simpa using same
      exact (leaving _).waiting overdue event (.head _) rfl
  | nothingTaken _ | taken _ | begun | unregistered _ _ | emplaced _ _ =>
      exact eachAfter_append.mpr ⟨silent, nofun⟩

/-- The ids that wait for their removal were unregistered. -/
def Called (ticker : Ticker Event) (place : Place Event) : Prop :=
  ∀ id, Pending ticker place id → .unregistered id ∈ ticker.history

theorem called_step (moved : Moves events mover ticker place after next)
    (called : Called ticker place) : Called after next := by
  intro id pending
  cases moved with
  | quiet same copy _ =>
      unfold Pending at pending
      rw [same.unregisterTargetList, copy] at pending
      rw [same.history]
      exact called id pending
  | taken _ =>
      refine List.mem_append_left _ (called id (.inl ?_))
      exact pending.resolve_left List.not_mem_nil
  | erased _ => exact called id (.inl (pending.resolve_right List.not_mem_nil))
  | unregistered _ other =>
      rcases pending with waits | copied
      · rcases mem_unregisterTimerEvent.mp waits with rfl | before
        · exact List.mem_append_right _ (.head _)
        · exact List.mem_append_left _ (called id (.inl before))
      · exact List.mem_append_left _ (called id (.inr copied))
  | nothingTaken _ | begun | fired _ _ | emplaced _ _ =>
      exact List.mem_append_left _ (called id pending)

/-- An event leaves the table only when its own id is in the copy. -/
theorem stays_step (moved : Moves events mover ticker place after next)
    (called : Called ticker place) {event : Event}
    (found : ticker.timerEvents.lookup timerEventId = some event) :
    after.timerEvents.lookup timerEventId = some event ∨
      timerEventId ∈ place.copy ∧ .unregistered timerEventId ∈ ticker.history := by
  cases moved with
  | quiet same _ _ =>
      rw [same.timerEvents]
      exact .inl found
  | erased ids =>
      by_cases erased : timerEventId ∈ ids
      · exact .inr ⟨erased, called timerEventId (.inr erased)⟩
      · rw [lookup_eraseAll, if_neg erased]
        exact .inl found
  | @emplaced _ registering _ =>
      left
      by_cases same : timerEventId = events.timerEventId registering
      · rw [same, lookup_emplace, ← same, found, Option.getD_some]
      · rw [lookup_emplace_ne events same, found]
  | nothingTaken _ | taken _ | begun | fired _ _ | unregistered _ _ => exact .inl found

variable (events) in
/-- What every run keeps of the ids, the table and the history. -/
structure Settled {Caller : Type v} (state : State Event Caller) : Prop where
  placed : Placed state.pc
  keyed : Keyed events state.shared
  leaving : ∀ id, Leaving events id state.shared (state.pc .ticker)
  silent : Silent events state.shared.history
  called : Called state.shared (state.pc .ticker)

variable {Caller : Type v} [DecidableEq Event] [DecidableEq Caller]

theorem settled_of_reach {state : State Event Caller}
    (reached : Reach (step events) Unguarded (initial Event Caller) state) :
    Settled events state := by
  refine reached.invariant (fun state : State Event Caller => Settled events state) ?_ ?_
  · have unbegun (id : TimerEventId) : ¬ Overdue events id ([] : List (Happening Event)) :=
      lasting_nil fun ⟨_, same, _⟩ => by simp at same
    refine ⟨⟨rfl, fun _ => rfl⟩, ?_, fun id => ⟨?_, ?_, ?_⟩, ?_, ?_⟩
    · intro id event found
      cases found
    · exact fun unregistered => absurd unregistered not_since_nil
    · exact fun overdue => absurd overdue (unbegun id)
    · exact fun overdue => absurd overdue (unbegun id)
    · exact eachAfter_nil
    · rintro id (waits | copied)
      · exact absurd waits List.not_mem_nil
      · exact absurd copied List.not_mem_nil
  · rintro before label after ⟨placed, keyed, leaving, silent, called⟩ - taken
    obtain ⟨moved, placed⟩ := step_moves placed taken
    exact ⟨placed, keyed_step moved keyed, fun id => leaving_step moved keyed (leaving id),
      silent_step moved leaving silent, called_step moved called⟩

/-- **Unregistered events stay silent.** In every run: when an id was unregistered before a tick
took the list and was not registered since, its events do not fire in that tick or a later one. No
step takes out an event whose id is not in the copy of the list, which has unregistered ids only,
and the removal leaves the times of all events as they are. -/
theorem unregistered_silent (events : TimerEvents Event) (state : State Event Caller)
    (reached : Reach (step events) Unguarded (initial Event Caller) state) :
    (∀ id front later, state.shared.history = front ++ .listTaken :: later →
      Unregistered events id front → (∀ happening ∈ later, ¬ registers events id happening) →
        ∀ event, .fired event ∈ later → events.timerEventId event ≠ id) ∧
    (∀ label after, step events state label = some after →
      ∀ id event, state.shared.timerEvents.lookup id = some event →
        after.shared.timerEvents.lookup id = some event ∨
          id ∈ (state.pc .ticker).copy ∧ .unregistered id ∈ state.shared.history) ∧
    ∀ ids choice after, state.pc .ticker = .erase ids →
      step events state (.ticker, choice) = some after →
        after.shared.nextTick = state.shared.nextTick := by
  have settled := settled_of_reach reached
  refine ⟨?_, ?_, ?_⟩
  · intro id front later split unregistered notAgain event fired same
    obtain ⟨between, rest, rfl⟩ := List.append_of_mem fired
    refine settled.silent (front ++ .listTaken :: between) _ rest ?_ event rfl ?_
    · rw [split, List.append_assoc]
      rfl
    · refine ⟨front ++ [.listTaken], between, by simp, ⟨front, rfl, same ▸ unregistered⟩, ?_⟩
      rw [same]
      exact fun happening member => notAgain happening (List.mem_append_left _ member)
  · intro label after taken id event found
    obtain ⟨moved, -⟩ := step_moves settled.placed taken
    exact stays_step moved settled.called found
  · intro ids choice after here taken
    obtain ⟨shared, next, acted, rfl⟩ := threadStep_eq_some.mp taken
    rw [here] at acted
    cases choice with
    | go =>
        cases acted
        rfl
    | wake _ | register _ | unregister _ => cases acted

end UnregisteredEvents

/-! ### Runs -/

section Runs

/-- Events that are their own ids. -/
def ownIds : TimerEvents ℕ := ⟨id, fun _ => 0⟩

theorem registered_inTable_again :
    ∃ state, Reach (step ownIds) (NotPending ownIds) (initial ℕ Unit) state ∧
      Registered ownIds 7 state.shared.history ∧
        state.shared.timerEvents.lookup 7 = some 7 ∧ 7 ∈ state.shared.values := by
  obtain ⟨state, reached, first⟩ := exists_reach_of_runGuarded (step ownIds) (NotPending ownIds)
    (initial ℕ Unit)
    [(.caller (), .register (some 7)), (.caller (), .go), (.caller (), .unregister 7),
      (.ticker, .wake 16), (.ticker, .go), (.ticker, .go), (.caller (), .register (some 7)),
      (.caller (), .go), (.ticker, .go)]
    (fun state => decide (state.shared.history = [.registered 7, .unregistered 7, .listTaken,
      .registered 7, .passBegun])) (by decide)
  have registered : Registered ownIds 7 state.shared.history := by
    rw [of_decide_eq_true first]
    exact ⟨[.registered 7, .unregistered 7, .listTaken], .registered 7, [.passBegun], rfl, rfl,
      by simp⟩
  exact ⟨state, reached, registered,
    registered_inTable ownIds (fun _ _ same => same) state reached 7 registered⟩

/-- **A cancelled registration**: the event is unregistered and registered again before the tick,
whose pass does not find it. -/
theorem registration_cancelled :
    ¬ ∀ state, Reach (step ownIds) Unguarded (initial ℕ Unit) state →
      ∀ event, InPass ownIds event state.shared := by
  intro inPass
  obtain ⟨state, reached, first⟩ := exists_reach_of_run (step ownIds) (initial ℕ Unit)
    [(.caller (), .register (some 7)), (.caller (), .go), (.caller (), .unregister 7),
      (.caller (), .register (some 7)), (.caller (), .go), (.ticker, .wake 16), (.ticker, .go),
      (.ticker, .go), (.ticker, .go)]
    (fun state => decide (state.shared.history = [.registered 7, .unregistered 7, .registered 7,
      .listTaken, .passBegun] ∧ state.shared.timerEvents.lookup 7 = none)) (by decide)
  obtain ⟨history, gone⟩ := of_decide_eq_true first
  have found : state.shared.timerEvents.lookup 7 = some 7 :=
    inPass state reached 7 [.registered 7, .unregistered 7, .registered 7, .listTaken] history
      ⟨[.registered 7, .unregistered 7], .registered 7, [.listTaken], rfl, rfl, by simp⟩
  rw [gone] at found
  cases found

/-- The event unregisters itself in its own `Fire`; the next tick does not fire it. -/
theorem unregistered_silent_own :
    ∃ state, Reach (step ownIds) Unguarded (initial ℕ Unit) state ∧
      state.shared.history = [.registered 7, .listTaken, .passBegun, .fired 7, .unregistered 7,
        .listTaken, .passBegun] ∧ Happening.fired 7 ∉ [Happening.passBegun] := by
  obtain ⟨state, reached, first⟩ := exists_reach_of_run (step ownIds) (initial ℕ Unit)
    [(.caller (), .register (some 7)), (.caller (), .go), (.ticker, .wake 16), (.ticker, .go),
      (.ticker, .go), (.ticker, .go), (.ticker, .unregister 7), (.ticker, .go), (.ticker, .go),
      (.ticker, .go), (.ticker, .wake 32), (.ticker, .go), (.ticker, .go), (.ticker, .go)]
    (fun state => decide (state.shared.history = [.registered 7, .listTaken, .passBegun, .fired 7,
      .unregistered 7, .listTaken, .passBegun])) (by decide)
  have history := of_decide_eq_true first
  refine ⟨state, reached, history, fun fired => ?_⟩
  refine (unregistered_silent ownIds state reached).1 7
    [.registered 7, .listTaken, .passBegun, .fired 7, .unregistered 7] [.passBegun] history
    ⟨[.registered 7, .listTaken, .passBegun, .fired 7], .unregistered 7, [], rfl, rfl, by simp⟩
    ?_ 7 fired rfl
  simp [registers]

end Runs

end ActorModelServer.Timer
