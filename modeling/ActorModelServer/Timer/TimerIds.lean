/-
**The ids of timer events.**

`TimerEventCreator` takes the ids of new events from a counter of 16 bits, which starts at one and
wraps. The machine here is the ticker's, with events created one after the other and named by their
place in that order. `requests` and `taken` are the events for which `UnregisterTimerEvent` was
called, while their ids are in `unregisterTargetList` and in the copy a tick has taken of it.

* `Held`, `Used` — an event is in the table or on its way there; or it waits for its removal.
* `Right` — what a step has to do: a new id is no id of the table, a registration puts its own event
  there, and a removal takes no other event away.
* `ids_live` — all steps do, as long as no call of `Create`, `RegisterTimerEvent` or
  `UnregisterTimerEvent` comes while another event is in use that was created a multiple of 65536
  creations earlier or later.
* `id_taken` — the id of an event that stays in the table is given out again.
-/

import ActorModelServer.Timer.TimerTable

namespace ActorModelServer.TimerIds

open Timer (Tid Choice Place Moves Ticker TimerEvents TimerEventId Keyed Placed act lookup_eraseAll
  lookup_emplace lookup_emplace_ne mem_unregisterTimerEvent step_moves register_of_emplace
  emplace_of_act keyed_step)
open ThreadTable (threadStep_eq_some)
open StepRuns (Reach Unguarded run reach_of_run)

universe v

section Model

variable {Caller : Type v}

/-- The id that `TimerEventCreator::Create` gives to the event that is created after some others. -/
def timerEventId (event : ℕ) : ℕ := (event + 1) % 2 ^ 16

/-- The events, in the order of their creation. -/
def createdEvents (intervalMs : ℕ → ℕ) : TimerEvents ℕ := ⟨timerEventId, intervalMs⟩

/-- The ticker and its threads, and the events. -/
structure World (Caller : Type v) where
  timers : Timer.State ℕ Caller
  /-- How many events were created; `timerEventIdGenerator` is one more, in 16 bits. -/
  created : ℕ
  requests : List ℕ
  taken : List ℕ

/-- The start: no events. -/
def initial (Caller : Type v) : World Caller := ⟨Timer.initial ℕ Caller, 0, [], []⟩

/-- A call, or a step of a thread. -/
inductive Op (Caller : Type v)
  | create
  | wake (nowMs : ℕ)
  | register (name : Caller) (eventObject : Option ℕ)
  | unregister (thread : Tid Caller) (event : ℕ)
  | go (thread : Tid Caller)

/-- What becomes of the requests when a thread goes on. -/
def World.goes (world : World Caller) (thread : Tid Caller) (timers : Timer.State ℕ Caller) :
    World Caller :=
  match world.timers.pc thread with
  | .takeList => { world with timers := timers, requests := [], taken := world.requests }
  | .erase _ => { world with timers := timers, taken := [] }
  | _ => { world with timers := timers }

variable [DecidableEq Caller]

/-- One step. -/
def worldStep (intervalMs : ℕ → ℕ) (world : World Caller) (op : Op Caller) :
    Option (World Caller) :=
  let step := Timer.step (createdEvents intervalMs) world.timers
  match op with
  | .create => some { world with created := world.created + 1 }
  | .wake nowMs =>
      (step (.ticker, .wake nowMs)).map fun timers => { world with timers := timers }
  | .register name eventObject =>
      if ∀ event ∈ eventObject, event < world.created then
        (step (.caller name, .register eventObject)).map fun timers =>
          { world with timers := timers }
      else none
  | .unregister thread event =>
      if event < world.created then
        (step (thread, .unregister (timerEventId event))).map fun timers =>
          { world with timers := timers, requests := world.requests ++ [event] }
      else none
  | .go thread => (step (thread, .go)).map (world.goes thread)

/-- The event is in the table. -/
def Stored (timers : Timer.State ℕ Caller) (event : ℕ) : Prop :=
  timers.shared.timerEvents.lookup (timerEventId event) = some event

/-- The event is in the table, or its registration is under way. -/
def Held (timers : Timer.State ℕ Caller) (event : ℕ) : Prop :=
  Stored timers event ∨ ∃ name, timers.pc (.caller name) = .emplace event

/-- The event is held, or waits for its removal. -/
def Used (world : World Caller) (event : ℕ) : Prop :=
  Held world.timers event ∨ event ∈ world.requests ∨ event ∈ world.taken

/-- Two events were created a multiple of 65536 creations apart. -/
def Collide (event other : ℕ) : Prop := event ≠ other ∧ event % 2 ^ 16 = other % 2 ^ 16

/-- No call comes while an event is in use that collides with its own. -/
def Apart (world : World Caller) (op : Op Caller) : Prop :=
  match op with
  | .create => ∀ other, Stored world.timers other → ¬ Collide other world.created
  | .register _ (some event) => ∀ other, Used world other → ¬ Collide other event
  | .unregister _ event => ∀ other, Held world.timers other → ¬ Collide other event
  | .register _ none => True
  | .wake _ => True
  | .go _ => True

/-- **What a step has to do.** -/
def Right (world : World Caller) (op : Op Caller) (after : World Caller) : Prop :=
  match op with
  | .create => ∀ key event, world.timers.shared.timerEvents.lookup key = some event →
      timerEventId event ≠ timerEventId world.created
  | .go thread =>
      match world.timers.pc thread with
      | .emplace event => Stored after.timers event
      | .erase ids => ∀ key ∈ ids, (∃ event ∈ world.taken, timerEventId event = key) ∧
          ∀ event ∈ world.taken, timerEventId event = key →
            ∀ other, world.timers.shared.timerEvents.lookup key = some other → other = event
      | _ => True
  | _ => True

end Model

/-! ### Ids that are in use -/

section Live

variable {Caller : Type v} {world after : World Caller} {intervalMs : ℕ → ℕ}

theorem timerEventId_eq_iff {event other : ℕ} :
    timerEventId event = timerEventId other ↔ event % 2 ^ 16 = other % 2 ^ 16 := by
  unfold timerEventId
  omega

/-- Events that do not collide have different ids. -/
theorem eq_of_not_collide {event other : ℕ} (apart : ¬ Collide event other)
    (same : timerEventId event = timerEventId other) : event = other := by
  by_contra different
  exact apart ⟨different, timerEventId_eq_iff.mp same⟩

/-- **Ids that are in use are unique**, and every id that waits for its removal is one that was
asked for. -/
structure Live (world : World Caller) : Prop where
  placed : Placed world.timers.pc
  keyed : Keyed (createdEvents fun _ => 0) world.timers.shared
  bounded : ∀ event, Used world event → event < world.created
  unique : ∀ event other, Held world.timers event → Used world other →
    timerEventId event = timerEventId other → event = other
  listed : ∀ key ∈ world.timers.shared.unregisterTargetList,
    ∃ event ∈ world.requests, timerEventId event = key
  copied : ∀ key ∈ (world.timers.pc .ticker).copy, ∃ event ∈ world.taken, timerEventId event = key

/-- The table gets only what a registration puts there. -/
theorem lookup_of_moves {events : TimerEvents ℕ} {ticker next : Ticker ℕ}
    {mover place nextPlace : Place ℕ} {key : TimerEventId} {event : ℕ}
    (moved : Moves events mover ticker place next nextPlace)
    (found : next.timerEvents.lookup key = some event) :
    ticker.timerEvents.lookup key = some event ∨ mover = .emplace event := by
  cases moved with
  | quiet same _ _ => exact .inl (same.timerEvents ▸ found)
  | erased ids =>
      rw [lookup_eraseAll] at found
      exact .inl (Option.ite_none_left_eq_some.mp found).2
  | @emplaced _ registering registers =>
      by_cases own : key = events.timerEventId registering
      · subst own
        rw [lookup_emplace] at found
        cases stored : ticker.timerEvents.lookup (events.timerEventId registering) with
        | none =>
            rw [stored] at found
            exact .inr (registers.trans (congrArg Place.emplace (Option.some.inj found)))
        | some present =>
            rw [stored] at found
            exact .inl found
      · rw [lookup_emplace_ne events own] at found
        exact .inl found
  | nothingTaken _ | taken _ | begun | fired _ _ | unregistered _ _ => exact .inl found

/-- Only the ticker thread is at the ticker's places. -/
theorem eq_ticker_of_place {pc : Tid Caller → Place ℕ} (placed : Placed pc) {thread : Tid Caller}
    (own : (pc thread).calls = false) : thread = .ticker := by
  cases thread with
  | ticker => rfl
  | caller name =>
      rw [placed.callers name] at own
      cases own

/-- Only callers are on their way through a registration. -/
theorem eq_caller_of_emplace {pc : Tid Caller → Place ℕ} (placed : Placed pc)
    {thread : Tid Caller} {event : ℕ} (here : pc thread = .emplace event) :
    ∃ name, thread = .caller name := by
  cases thread with
  | ticker =>
      have own := placed.ticker
      rw [here] at own
      cases own
  | caller name => exact ⟨name, rfl⟩

/-- A step holds what was held, and what it begins to register. -/
theorem held_of_step [DecidableEq Caller] {timers next : Timer.State ℕ Caller}
    {label : Tid Caller × Choice ℕ} (placed : Placed timers.pc)
    (taken : Timer.step (createdEvents intervalMs) timers label = some next) {event : ℕ}
    (held : Held next event) :
    Held timers event ∨ label.2 = .register (some event) := by
  rcases held with stored | ⟨name, there⟩
  · left
    rcases lookup_of_moves (step_moves placed taken).1 stored with before | registers
    · exact .inl before
    · obtain ⟨name, mover⟩ := eq_caller_of_emplace placed registers
      exact .inr ⟨name, mover ▸ registers⟩
  · obtain ⟨shared, place, acted, rfl⟩ := threadStep_eq_some.mp taken
    by_cases own : Tid.caller name = label.1
    · obtain rfl : place = .emplace event := by simpa [own] using there
      exact .inr (register_of_emplace acted)
    · exact .inl (.inr ⟨name, by simpa [Function.update_of_ne, own] using there⟩)

/-- The ids in the list come from calls, and the ids in the copy from the list. -/
theorem lists_of_act {events : TimerEvents ℕ} {ticker next : Ticker ℕ} {place nextPlace : Place ℕ}
    {choice : Choice ℕ} (acted : act events ticker place choice = some (next, nextPlace)) :
    (∀ key ∈ next.unregisterTargetList, place ≠ .takeList ∧
        (key ∈ ticker.unregisterTargetList ∨ choice = .unregister key)) ∧
      ∀ key ∈ nextPlace.copy,
        place = .takeList ∧ choice = .go ∧ key ∈ ticker.unregisterTargetList := by
  revert acted
  fun_cases act events ticker place choice
  all_goals intro acted
  all_goals simp only [Option.some.injEq, Prod.mk.injEq, reduceCtorEq] at acted
  all_goals obtain ⟨rfl, rfl⟩ := acted
  case case2 none =>
    refine ⟨fun key listed => ?_, fun key copied => absurd copied List.not_mem_nil⟩
    exact absurd (none ▸ listed) List.not_mem_nil
  case case3 =>
    refine ⟨fun key listed => absurd listed List.not_mem_nil, fun key copied => ?_⟩
    exact ⟨rfl, rfl, copied⟩
  case case9 | case16 =>
    refine ⟨fun key listed => ⟨by simp, ?_⟩, fun key copied => absurd copied List.not_mem_nil⟩
    rcases mem_unregisterTimerEvent.mp listed with rfl | before
    · exact .inr rfl
    · exact .inl before
  all_goals
    exact ⟨fun key listed => ⟨by simp, .inl listed⟩,
      fun key copied => absurd copied List.not_mem_nil⟩

/-- What a step makes of the list and of the ticker's copy. -/
theorem lists_of_step [DecidableEq Caller] {timers next : Timer.State ℕ Caller}
    {label : Tid Caller × Choice ℕ}
    (taken : Timer.step (createdEvents intervalMs) timers label = some next) :
    (∀ key ∈ next.shared.unregisterTargetList, timers.pc label.1 ≠ .takeList ∧
        (key ∈ timers.shared.unregisterTargetList ∨ label.2 = .unregister key)) ∧
      ∀ key ∈ (next.pc .ticker).copy,
        timers.pc label.1 = .takeList ∧ label.2 = .go ∧
            key ∈ timers.shared.unregisterTargetList ∨
          label.1 ≠ .ticker ∧ key ∈ (timers.pc .ticker).copy := by
  obtain ⟨shared, place, acted, rfl⟩ := threadStep_eq_some.mp taken
  obtain ⟨lists, copies⟩ := lists_of_act acted
  refine ⟨lists, fun key copied => ?_⟩
  by_cases own : label.1 = .ticker
  · refine .inl (copies key ?_)
    simpa [own] using copied
  · refine .inr ⟨own, ?_⟩
    simpa [Function.update_of_ne (Ne.symm own)] using copied

/-- One more request, of an event that no held event collides with. -/
theorem Live.requested (live : Live world) {event : ℕ} (known : event < world.created)
    (apart : ∀ other, Held world.timers other → ¬ Collide other event) :
    Live { world with requests := world.requests ++ [event] } := by
  have used (other : ℕ) (uses : Used { world with requests := world.requests ++ [event] } other) :
      Used world other ∨ other = event := by
    rcases uses with held | listed | copied
    · exact .inl (.inl held)
    · rcases List.mem_append.mp listed with before | last
      · exact .inl (.inr (.inl before))
      · exact .inr (List.mem_singleton.mp last)
    · exact .inl (.inr (.inr copied))
  refine ⟨live.placed, live.keyed, fun other uses => ?_, fun other second held uses same => ?_,
    fun key listed => ?_, live.copied⟩
  · rcases used other uses with before | rfl
    · exact live.bounded other before
    · exact known
  · rcases used second uses with before | rfl
    · exact live.unique other second held before same
    · exact eq_of_not_collide (apart other held) same
  · obtain ⟨other, before, names⟩ := live.listed key listed
    exact ⟨other, List.mem_append_left _ before, names⟩

/-- An event of the table has an id that is in use. -/
theorem Live.stored_of_lookup (live : Live world) {key : TimerEventId} {event : ℕ}
    (found : world.timers.shared.timerEvents.lookup key = some event) :
    Stored world.timers event ∧ timerEventId event = key := by
  have keyed : timerEventId event = key := live.keyed key event found
  exact ⟨by rw [Stored, keyed, found], keyed⟩

/-- A registration puts its own event into the table. -/
theorem Live.stored_of_emplace (live : Live world) {name : Caller} {event : ℕ}
    (here : world.timers.pc (.caller name) = .emplace event) :
    (world.timers.shared.emplace (createdEvents intervalMs) event).timerEvents.lookup
      (timerEventId event) = some event := by
  have placed := lookup_emplace (createdEvents intervalMs) world.timers.shared event
  change _ = some ((world.timers.shared.timerEvents.lookup (timerEventId event)).getD event)
    at placed
  cases found : world.timers.shared.timerEvents.lookup (timerEventId event) with
  | none => rwa [found] at placed
  | some other =>
      obtain ⟨stored, same⟩ := live.stored_of_lookup found
      have own := live.unique event other (.inr ⟨name, here⟩) (.inl (.inl stored)) same.symm
      rwa [found, Option.getD_some, ← own] at placed

/-- A removal takes away the event it was asked for. -/
theorem Live.right_of_erase (live : Live world) {ids : List TimerEventId}
    (here : world.timers.pc .ticker = .erase ids) {key : TimerEventId} (member : key ∈ ids) :
    (∃ event ∈ world.taken, timerEventId event = key) ∧
      ∀ event ∈ world.taken, timerEventId event = key →
        ∀ other, world.timers.shared.timerEvents.lookup key = some other → other = event := by
  refine ⟨live.copied key (by rwa [here]), fun event taken names other found => ?_⟩
  obtain ⟨stored, same⟩ := live.stored_of_lookup found
  exact live.unique other event (.inl stored) (.inr (.inr taken)) (same.trans names.symm)

/-- At the start no event is in use. -/
theorem not_used_initial (event : ℕ) : ¬ Used (initial Caller) event := by
  rintro ((stored | ⟨name, there⟩) | listed | copied)
  · cases stored
  · cases there
  · cases listed
  · cases copied

theorem live_initial : Live (initial Caller) where
  placed := ⟨rfl, fun _ => rfl⟩
  keyed _ _ found := by cases found
  bounded event uses := absurd uses (not_used_initial event)
  unique event _ held _ _ := absurd (.inl held) (not_used_initial event)
  listed _ member := by cases member
  copied _ member := by cases member

variable [DecidableEq Caller] {timers : Timer.State ℕ Caller} {label : Tid Caller × Choice ℕ}

/-- A step of a thread, with what becomes of the requests. -/
theorem live_of_step (live : Live world)
    (stepped : Timer.step (createdEvents intervalMs) world.timers label = some timers)
    (registers : ∀ event, label.2 = .register (some event) →
      event < world.created ∧ ∀ other, Used world other → ¬ Collide other event)
    {requests taken : List ℕ}
    (waits : ∀ event, event ∈ requests ∨ event ∈ taken → Used world event)
    (listed : ∀ key ∈ timers.shared.unregisterTargetList,
      ∃ event ∈ requests, timerEventId event = key)
    (copied : ∀ key ∈ (timers.pc .ticker).copy, ∃ event ∈ taken, timerEventId event = key) :
    Live ⟨timers, world.created, requests, taken⟩ := by
  obtain ⟨moved, placed⟩ := step_moves live.placed stepped
  have used (event : ℕ) (uses : Used ⟨timers, world.created, requests, taken⟩ event) :
      Used world event ∨ label.2 = .register (some event) := by
    rcases uses with held | waiting
    · exact (held_of_step live.placed stepped held).imp_left .inl
    · exact .inl (waits event waiting)
  have keyed : Keyed (createdEvents intervalMs) timers.shared := keyed_step moved live.keyed
  refine ⟨placed, keyed, fun event uses => ?_,
    fun event other held uses same => ?_, listed, copied⟩
  · rcases used event uses with before | begins
    · exact live.bounded event before
    · exact (registers event begins).1
  · rcases held_of_step live.placed stepped held with before | begins
    · rcases used other uses with earlier | begins
      · exact live.unique event other before earlier same
      · exact eq_of_not_collide ((registers other begins).2 event (.inl before)) same
    · rcases used other uses with earlier | again
      · exact (eq_of_not_collide ((registers event begins).2 other earlier) same.symm).symm
      · simpa using begins.symm.trans again

/-- A call, or the ticker waking up: the requests stay. -/
theorem live_of_call (live : Live world)
    (stepped : Timer.step (createdEvents intervalMs) world.timers label = some timers)
    (call : label.2 ≠ .go)
    (registers : ∀ event, label.2 = .register (some event) →
      event < world.created ∧ ∀ other, Used world other → ¬ Collide other event)
    (unregisters : ∀ key, label.2 = .unregister key →
      ∃ event ∈ world.requests, timerEventId event = key) :
    Live { world with timers := timers } := by
  obtain ⟨lists, copies⟩ := lists_of_step stepped
  refine live_of_step live stepped registers (fun event waiting => .inr waiting) ?_ ?_
  · intro key listed
    rcases (lists key listed).2 with before | called
    · exact live.listed key before
    · exact unregisters key called
  · intro key copied
    rcases copies key copied with ⟨-, goes, -⟩ | ⟨-, before⟩
    · exact absurd goes call
    · exact live.copied key before

/-- A thread goes on. -/
theorem live_of_go (live : Live world) {thread : Tid Caller}
    (stepped : Timer.step (createdEvents intervalMs) world.timers (thread, .go) = some timers) :
    Live (world.goes thread timers) := by
  obtain ⟨lists, copies⟩ := lists_of_step stepped
  have listed (key : TimerEventId) (member : key ∈ timers.shared.unregisterTargetList) :
      ∃ event ∈ world.requests, timerEventId event = key :=
    live.listed key ((lists key member).2.resolve_right (by simp))
  unfold World.goes
  split
  · rename_i takes
    refine live_of_step live stepped (by simp) (fun event waiting => ?_) ?_ ?_
    · exact .inr (.inl (waiting.resolve_left List.not_mem_nil))
    · exact fun key member => absurd takes (lists key member).1
    · intro key copied
      rcases copies key copied with ⟨-, -, before⟩ | ⟨other, -⟩
      · exact live.listed key before
      · exact absurd (eq_ticker_of_place live.placed (by rw [takes]; rfl)) other
  · rename_i ids erases
    refine live_of_step live stepped (by simp) (fun event waiting => ?_) listed ?_
    · exact .inr (.inl (waiting.resolve_right List.not_mem_nil))
    · intro key copied
      rcases copies key copied with ⟨takes, -, -⟩ | ⟨other, -⟩
      · rw [erases] at takes
        cases takes
      · exact absurd (eq_ticker_of_place live.placed (by rw [erases]; rfl)) other
  · rename_i notTakes notErases
    refine live_of_step live stepped (by simp) (fun event waiting => .inr waiting) listed ?_
    intro key copied
    rcases copies key copied with ⟨takes, -, -⟩ | ⟨-, before⟩
    · exact absurd takes notTakes
    · exact live.copied key before

/-- **Every step keeps ids that are in use unique**, if no event in use collides with its own. -/
theorem live_step {op : Op Caller} (live : Live world) (apart : Apart world op)
    (stepped : worldStep intervalMs world op = some after) : Live after := by
  cases op with
  | create =>
      cases stepped
      refine ⟨live.placed, live.keyed, fun event uses => ?_, live.unique, live.listed, live.copied⟩
      exact Nat.lt_succ_of_lt (live.bounded event uses)
  | wake nowMs =>
      obtain ⟨timers, taken, rfl⟩ := Option.map_eq_some_iff.mp stepped
      exact live_of_call live taken (by simp) (by simp) (by simp)
  | register name eventObject =>
      simp only [worldStep] at stepped
      split at stepped
      · rename_i known
        obtain ⟨timers, taken, rfl⟩ := Option.map_eq_some_iff.mp stepped
        refine live_of_call live taken (by simp) (fun event begins => ?_) (by simp)
        obtain rfl : eventObject = some event := by simpa using begins
        exact ⟨known event rfl, apart⟩
      · cases stepped
  | unregister thread event =>
      simp only [worldStep] at stepped
      split at stepped
      · rename_i known
        obtain ⟨timers, taken, rfl⟩ := Option.map_eq_some_iff.mp stepped
        have requested := live.requested known apart
        refine live_of_call requested taken (by simp) (by simp) fun key called => ?_
        obtain rfl : timerEventId event = key := by simpa using called
        exact ⟨event, List.mem_append_right _ (List.mem_singleton_self event), rfl⟩
      · cases stepped
  | go thread =>
      obtain ⟨timers, taken, rfl⟩ := Option.map_eq_some_iff.mp stepped
      exact live_of_go live taken

/-- **While ids that are in use are unique, a step does what it has to do**. -/
theorem right_of_live {op : Op Caller} (live : Live world) (apart : Apart world op)
    (stepped : worldStep intervalMs world op = some after) : Right world op after := by
  cases op with
  | create =>
      intro key event found same
      obtain ⟨stored, -⟩ := live.stored_of_lookup found
      have fresh := live.bounded event (.inl (.inl stored))
      have own := eq_of_not_collide (apart event stored) same
      omega
  | go thread =>
      obtain ⟨timers, taken, rfl⟩ := Option.map_eq_some_iff.mp stepped
      simp only [Right]
      split
      · rename_i event here
        simp only [World.goes, here]
        obtain ⟨name, rfl⟩ := eq_caller_of_emplace live.placed here
        obtain ⟨shared, place, acted, rfl⟩ := threadStep_eq_some.mp taken
        rw [here] at acted
        obtain rfl := emplace_of_act acted
        exact live.stored_of_emplace here
      · rename_i ids here
        obtain rfl := eq_ticker_of_place live.placed (by rw [here]; rfl)
        exact fun key member => live.right_of_erase here member
      · trivial
  | wake _ | register _ _ | unregister _ _ => trivial

/-- **Live ids are unique.** In every run in which no call of `Create`, `RegisterTimerEvent` or
`UnregisterTimerEvent` comes while another event is in use that was created a multiple of 65536
creations apart, no new id is the id of an event of the table, every registration puts its own
event there, and no removal takes away an event other than the one it was asked for. -/
theorem ids_live (intervalMs : ℕ → ℕ) (world after : World Caller) (op : Op Caller)
    (reached : Reach (worldStep intervalMs) Apart (initial Caller) world)
    (apart : Apart world op) (stepped : worldStep intervalMs world op = some after) :
    Right world op after := by
  have live : Live world :=
    reached.invariant Live live_initial fun before op after live apart stepped =>
      live_step live apart stepped
  exact right_of_live live apart stepped

/-- An event is created and registered. -/
theorem ids_live_registered :
    ∃ world after : World Unit,
      Reach (worldStep fun _ => 16) Apart (initial Unit) world ∧
        Apart world (.go (.caller ())) ∧
        worldStep (fun _ => 16) world (.go (.caller ())) = some after ∧ Stored after.timers 0 := by
  have creates : Apart (initial Unit) .create :=
    fun other stored => absurd (.inl (.inl stored)) (not_used_initial other)
  have created : Reach (worldStep fun _ => 16) Apart (initial Unit)
      { initial Unit with created := 1 } := .step .start creates rfl
  have registers : Apart { initial Unit with created := 1 } (.register () (some 0)) :=
    fun other uses => absurd uses (not_used_initial other)
  have registering := created.step registers rfl
  exact ⟨_, _, registering, trivial, rfl, ids_live _ _ _ (.go (.caller ())) registering trivial rfl⟩

/-- Events are created. -/
theorem reach_creates (world : World Caller) (count : ℕ) :
    Reach (worldStep intervalMs) Unguarded world
      { world with created := world.created + count } := by
  induction count with
  | zero => exact .start
  | succ count ih =>
      have creates : worldStep intervalMs { world with created := world.created + count } .create =
          some { world with created := world.created + (count + 1) } := rfl
      exact .step ih trivial creates

/-- The first event stays in the table while 65535 others are created. The next one has its id, and
is not in the table after its registration. -/
theorem id_taken :
    ∃ world after registering done : World Unit,
      Reach (worldStep fun _ => 16) Unguarded (initial Unit) world ∧
        worldStep (fun _ => 16) world .create = some after ∧ ¬ Right world .create after ∧
        worldStep (fun _ => 16) after (.register () (some 65536)) = some registering ∧
        worldStep (fun _ => 16) registering (.go (.caller ())) = some done ∧
        ¬ Right registering (.go (.caller ())) done := by
  have executed : run (worldStep fun _ => 16) (initial Unit)
      [.create, .register () (some 0), .go (.caller ())] = some ⟨_, 1, [], []⟩ := rfl
  have reached := (reach_of_run executed).trans (reach_creates _ 65535)
  refine ⟨⟨_, 65536, [], []⟩, ⟨_, 65537, [], []⟩, ⟨_, 65537, [], []⟩, ⟨_, 65537, [], []⟩, reached,
    rfl, fun fresh => ?_, rfl, rfl, fun stored => ?_⟩
  · exact fresh 1 0 rfl rfl
  · have kept : some 0 = some 65536 := stored
    exact absurd kept (by decide)

end Live

end ActorModelServer.TimerIds
