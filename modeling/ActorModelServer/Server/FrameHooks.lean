/-
**The timer hooks of a frame.**

A frame of a logic thread is `PreWakeLogicThread`, `OnWakeLogicThread` and `PostWakeLogicThread`;
each goes over `sessionMap` and then over `nonNetworkActorMap`, and calls its hook for every actor
there, under the shared lock of that map. Between these passes the maps are free, and actors enter
and leave them. What a hook does on other threads' behalf is a step of the surroundings too; no null
pointer gets into a map.

* `hooks_in_order` — while actors enter a map only when the hook of its next pass is their turn
  (`EntersInTurn`), every actor gets `PreTimer`, `OnTimer` and `PostTimer` in order, and in a frame
  no hook without its `PreTimer`.
* `Ordered.reach_disordered` — the condition is exact: after any other entry the logic thread alone
  calls a hook out of turn.
* `hook_out_of_turn` — an actor registered during a frame gets `OnTimer` first.
-/

import ActorModelServer.Library.Runs
import Mathlib.Data.Finset.Basic
import Mathlib.Data.Finset.Dedup
import Mathlib.Data.List.Basic
import Mathlib.Logic.Function.Basic

namespace ActorModelServer.FrameHooks

open StepRuns (Reach Unguarded exists_reach_of_run reach_of_runGuarded runGuarded)

universe u

/-! ### Frames and maps -/

section Model

/-- The timer hooks; each is the hook of one of the three functions of a frame. -/
inductive Hook
  | preTimer
  | onTimer
  | postTimer
  deriving DecidableEq, Repr

/-- The maps of the shard. -/
inductive Map
  | sessionMap
  | nonNetworkActorMap
  deriving DecidableEq, Repr

/-- A hook of a frame. -/
structure Call where
  frame : ℕ
  hook : Hook
  deriving DecidableEq, Repr

variable (A : Type u)

/-- Where the logic thread is. -/
inductive Place
  | wait
  | lock (hook : Hook) (map : Map)
  | pass (hook : Hook) (map : Map) (rest : List A)

/-- The maps of a shard and its logic thread. -/
structure Shard where
  actors : Map → Finset A
  /-- The number of the frame that runs, or comes next. -/
  frame : ℕ
  place : Place A
  /-- The hooks called so far. -/
  calls : A → List Call

/-- A step of the logic thread, or of its surroundings. -/
inductive Event
  | timeout
  /- the lock is taken, and the map is traversed in some order -/
  | lock (order : List A)
  | call
  | unlock
  | insertSession (session : A)
  | eraseSession (session : A)
  | registerNonNetworkActor (actor : A)
  | unregisterNonNetworkActor (actor : A)

/-- Before the first frame. -/
def initial : Shard A where
  actors := fun _ => ∅
  frame := 0
  place := .wait
  calls := fun _ => []

variable {A}

/-- Nobody traverses the map. -/
def Place.free (place : Place A) (map : Map) : Bool :=
  match place with
  | .wait => true
  | .lock _ _ => true
  | .pass _ current _ => !(current == map)

/-- The place and the frame after a pass. -/
def afterPass (frame : ℕ) (hook : Hook) (map : Map) : ℕ × Place A :=
  match map, hook with
  | .sessionMap, hook => (frame, .lock hook .nonNetworkActorMap)
  | .nonNetworkActorMap, .preTimer => (frame, .lock .onTimer .sessionMap)
  | .nonNetworkActorMap, .onTimer => (frame, .lock .postTimer .sessionMap)
  | .nonNetworkActorMap, .postTimer => (frame + 1, .wait)

variable [DecidableEq A]

/-- `insert` of a map, under its lock. -/
def Shard.enter (shard : Shard A) (map : Map) (actor : A) : Shard A :=
  { shard with actors := Function.update shard.actors map (insert actor (shard.actors map)) }

/-- `erase` of a map, under its lock. -/
def Shard.leave (shard : Shard A) (map : Map) (actor : A) : Shard A :=
  { shard with actors := Function.update shard.actors map ((shard.actors map).erase actor) }

theorem mem_enter {shard : Shard A} {map current : Map} {actor other : A} :
    other ∈ (shard.enter map actor).actors current ↔
      current = map ∧ other = actor ∨ other ∈ shard.actors current := by
  by_cases same : current = map
  · subst same
    simp [Shard.enter]
  · simp [Shard.enter, same]

theorem mem_leave {shard : Shard A} {map current : Map} {actor other : A} :
    other ∈ (shard.leave map actor).actors current ↔
      other ∈ shard.actors current ∧ (current = map → other ≠ actor) := by
  by_cases same : current = map
  · subst same
    simp [Shard.leave, and_comm]
  · simp [Shard.leave, same]

/-- One step; `mapOf` is the map of an actor's class. -/
def step (mapOf : A → Map) (shard : Shard A) (event : Event A) : Option (Shard A) :=
  match event with
  | .timeout =>
      match shard.place with
      | .wait => some { shard with place := .lock .preTimer .sessionMap }
      | _ => none
  | .lock order =>
      match shard.place with
      | .lock hook map =>
          if order.Nodup ∧ order.toFinset = shard.actors map then
            some { shard with place := .pass hook map order }
          else none
      | _ => none
  | .call =>
      match shard.place with
      | .pass hook map (actor :: rest) =>
          some { shard with
            place := .pass hook map rest
            calls := Function.update shard.calls actor
              (shard.calls actor ++ [⟨shard.frame, hook⟩]) }
      | _ => none
  | .unlock =>
      match shard.place with
      | .pass hook map [] =>
          some { shard with
            frame := (afterPass (A := A) shard.frame hook map).1
            place := (afterPass shard.frame hook map).2 }
      | _ => none
  | .insertSession session =>
      if mapOf session = .sessionMap ∧ shard.place.free .sessionMap = true then
        some (shard.enter .sessionMap session)
      else none
  | .eraseSession session =>
      if shard.place.free .sessionMap = true then some (shard.leave .sessionMap session)
      else none
  | .registerNonNetworkActor actor =>
      if mapOf actor = .nonNetworkActorMap ∧ shard.place.free .nonNetworkActorMap = true then
        some (shard.enter .nonNetworkActorMap actor)
      else none
  | .unregisterNonNetworkActor actor =>
      if shard.place.free .nonNetworkActorMap = true then
        some (shard.leave .nonNetworkActorMap actor)
      else none

end Model

/-! ### The order of the hooks -/

section Order

/-- `PreTimer`, `OnTimer` and `PostTimer`, repeated. -/
def rounds (count : ℕ) : List Hook :=
  (List.replicate count [.preTimer, .onTimer, .postTimer]).flatten

/-- The hooks an actor got are in order, and each is of a frame in which it got `PreTimer`. -/
def InOrder (calls : List Call) : Prop :=
  (∃ count, calls.map Call.hook <+: rounds count) ∧
    ∀ call ∈ calls, ⟨call.frame, .preTimer⟩ ∈ calls

/-- The hook after a number of hooks. -/
def hookAt (index : ℕ) : Hook :=
  if index % 3 = 0 then .preTimer else if index % 3 = 1 then .onTimer else .postTimer

/-- The hook is the one an actor with these calls has to get next. -/
def Due (calls : List Call) (turn : Call) : Prop :=
  turn.hook = hookAt calls.length ∧
    (turn.hook = .preTimer ∨ ⟨turn.frame, .preTimer⟩ ∈ calls)

instance (calls : List Call) (turn : Call) : Decidable (Due calls turn) :=
  inferInstanceAs (Decidable (_ ∧ _))

/-- The hook of the next pass over the same map. -/
def Call.next : Call → Call
  | ⟨frame, .preTimer⟩ => ⟨frame, .onTimer⟩
  | ⟨frame, .onTimer⟩ => ⟨frame, .postTimer⟩
  | ⟨frame, .postTimer⟩ => ⟨frame + 1, .preTimer⟩

theorem rounds_eq (count : ℕ) : rounds count = (List.range (3 * count)).map hookAt := by
  induction count with
  | zero => rfl
  | succ count ih =>
      have first : hookAt (3 * count) = .preTimer := by
        simp [hookAt]
      have second : hookAt (3 * count + 1) = .onTimer := by
        have rest : (3 * count + 1) % 3 = 1 := by omega
        simp [hookAt, rest]
      have third : hookAt (3 * count + 2) = .postTimer := by
        have rest : (3 * count + 2) % 3 = 2 := by omega
        simp [hookAt, rest]
      have one_more : rounds (count + 1) = rounds count ++ [.preTimer, .onTimer, .postTimer] := by
        simp [rounds, List.replicate_succ']
      rw [one_more, ih, show 3 * (count + 1) = 3 * count + 1 + 1 + 1 from rfl, List.range_succ,
        List.range_succ, List.range_succ]
      simp [first, second, third]

/-- A list of hooks is in order when every hook is the one of its index. -/
theorem front_of_rounds_iff (hooks : List Hook) :
    (∃ count, hooks <+: rounds count) ↔ hooks = (List.range hooks.length).map hookAt := by
  constructor
  · rintro ⟨count, front⟩
    have short := front.length_le
    rw [rounds_eq, List.length_map, List.length_range] at short
    have taken := List.prefix_iff_eq_take.mp front
    rwa [rounds_eq, ← List.map_take, List.take_range, min_eq_left short] at taken
  · intro hooks_eq
    refine ⟨hooks.length, ?_⟩
    rw [List.prefix_iff_eq_take, rounds_eq, ← List.map_take, List.take_range,
      min_eq_left (by omega)]
    exact hooks_eq

theorem inOrder_nil : InOrder [] :=
  ⟨⟨0, List.prefix_rfl⟩, fun _ member => absurd member List.not_mem_nil⟩

section Append

variable {calls : List Call} {turn : Call}

/-- **The hook that is due** keeps the order. -/
theorem InOrder.append (inOrder : InOrder calls) (due : Due calls turn) :
    InOrder (calls ++ [turn]) := by
  obtain ⟨front, framed⟩ := inOrder
  obtain ⟨hook, first⟩ := due
  constructor
  · rw [front_of_rounds_iff] at front ⊢
    rw [List.length_map] at front
    rw [List.map_append, List.length_append, List.length_map, List.map_singleton,
      List.length_singleton, List.range_succ, List.map_append, ← front, List.map_singleton, hook]
  · intro call member
    rcases List.mem_append.mp member with old | new
    · exact List.mem_append_left _ (framed call old)
    · obtain rfl := List.mem_singleton.mp new
      rcases first with first | earlier
      · rw [← first]
        exact member
      · exact List.mem_append_left _ earlier

/-- Any other hook breaks it. -/
theorem InOrder.due (inOrder : InOrder (calls ++ [turn])) : Due calls turn := by
  obtain ⟨front, framed⟩ := inOrder
  constructor
  · rw [front_of_rounds_iff, List.map_append, List.length_append, List.length_map,
      List.map_singleton, List.length_singleton, List.range_succ, List.map_append,
      List.map_singleton] at front
    obtain ⟨-, last⟩ := List.append_inj' front rfl
    simpa using last
  · rcases List.mem_append.mp (framed turn (List.mem_append_right _ (List.mem_singleton_self _)))
      with earlier | itself
    · exact .inr earlier
    · exact .inl (congrArg Call.hook (List.mem_singleton.mp itself)).symm

/-- After it, the hook of the next pass is due. -/
theorem Due.append (due : Due calls turn) : Due (calls ++ [turn]) turn.next := by
  obtain ⟨hook, first⟩ := due
  obtain ⟨frame, current⟩ := turn
  simp only at hook first
  rw [Due, List.length_append, List.length_singleton]
  cases current with
  | preTimer =>
      refine ⟨?_, .inr (List.mem_append_right _ (List.mem_singleton_self _))⟩
      grind [hookAt, Call.next]
  | onTimer =>
      have earlier := first.resolve_left (by decide)
      refine ⟨?_, .inr (List.mem_append_left _ earlier)⟩
      grind [hookAt, Call.next]
  | postTimer =>
      refine ⟨?_, .inl rfl⟩
      grind [hookAt, Call.next]

end Append

end Order

/-! ### Whose turn it is -/

section Turn

variable {A : Type u}

/-- The next pass that begins over a map. -/
def Place.upcoming (place : Place A) (frame : ℕ) (map : Map) : Call :=
  match place with
  | .wait => ⟨frame, .preTimer⟩
  | .lock hook current =>
      if current = .nonNetworkActorMap ∧ map = .sessionMap then Call.next ⟨frame, hook⟩
      else ⟨frame, hook⟩
  | .pass hook current _ =>
      if current = .sessionMap ∧ map = .nonNetworkActorMap then ⟨frame, hook⟩
      else Call.next ⟨frame, hook⟩

/-- After a pass, the next passes over both maps are as before. -/
theorem upcoming_afterPass (frame : ℕ) (hook : Hook) (map current : Map) :
    (afterPass (A := A) frame hook map).2.upcoming (afterPass (A := A) frame hook map).1 current =
      (Place.pass hook map ([] : List A)).upcoming frame current := by
  cases map <;> cases hook <;> cases current <;> rfl

/-- The next place is not within a pass. -/
theorem afterPass_ne_pass (frame : ℕ) (hook : Hook) (map : Map) (hook' : Hook) (map' : Map)
    (rest : List A) : (afterPass frame hook map).2 ≠ .pass hook' map' rest := by
  cases map <;> cases hook <;> simp [afterPass]

variable [DecidableEq A]

/-- The next hook an actor in a map gets. -/
def Place.turn (place : Place A) (frame : ℕ) (map : Map) (actor : A) : Call :=
  match place with
  | .pass hook current rest =>
      if actor ∈ rest then ⟨frame, hook⟩ else Place.upcoming (.pass hook current rest) frame map
  | place => place.upcoming frame map

/-- Nobody traverses the map of an actor that does not wait for its hook. -/
theorem Place.turn_eq_upcoming {place : Place A} {actor : A}
    (idle : ∀ hook map rest, place = .pass hook map rest → actor ∉ rest) (frame : ℕ) (map : Map) :
    place.turn frame map actor = place.upcoming frame map := by
  cases place with
  | wait => rfl
  | lock hook current => rfl
  | pass hook current rest => exact if_neg (idle hook current rest rfl)

/-- An actor enters a map only before the pass of the hook that is due to it. -/
def EntersInTurn (mapOf : A → Map) (shard : Shard A) (event : Event A) : Prop :=
  match event with
  | .insertSession actor | .registerNonNetworkActor actor =>
      actor ∉ shard.actors (mapOf actor) →
        Due (shard.calls actor) (shard.place.upcoming shard.frame (mapOf actor))
  | _ => True

instance (mapOf : A → Map) (shard : Shard A) (event : Event A) :
    Decidable (EntersInTurn mapOf shard event) :=
  match event with
  | .insertSession actor | .registerNonNetworkActor actor =>
      inferInstanceAs (Decidable (actor ∉ shard.actors (mapOf actor) → _))
  | .timeout | .lock _ | .call | .unlock | .eraseSession _ | .unregisterNonNetworkActor _ =>
      inferInstanceAs (Decidable True)

/-- The hooks are in order, and every actor in a map is due the hook it gets next. -/
structure Ordered (mapOf : A → Map) (shard : Shard A) : Prop where
  inOrder : ∀ actor, InOrder (shard.calls actor)
  member : ∀ map, ∀ actor ∈ shard.actors map, mapOf actor = map
  due : ∀ map, ∀ actor ∈ shard.actors map,
    Due (shard.calls actor) (shard.place.turn shard.frame map actor)
  rest : ∀ hook map rest, shard.place = .pass hook map rest →
    rest.Nodup ∧ ∀ actor ∈ rest, actor ∈ shard.actors map

theorem ordered_initial (mapOf : A → Map) : Ordered mapOf (initial A) where
  inOrder := fun _ => inOrder_nil
  member := fun _ _ member => absurd member (Finset.notMem_empty _)
  due := fun _ _ member => absurd member (Finset.notMem_empty _)
  rest := fun _ _ _ place => by cases place

variable {mapOf : A → Map} {shard : Shard A}

/-- A move of the logic thread between the hooks. -/
theorem Ordered.moved (ordered : Ordered mapOf shard) {frame : ℕ} {place : Place A}
    (turns : ∀ map, ∀ actor ∈ shard.actors map,
      place.turn frame map actor = shard.place.turn shard.frame map actor)
    (rests : ∀ hook map rest, place = .pass hook map rest →
      rest.Nodup ∧ ∀ actor ∈ rest, actor ∈ shard.actors map) :
    Ordered mapOf { shard with frame := frame, place := place } where
  inOrder := ordered.inOrder
  member := ordered.member
  due := by
    intro map actor member
    have due := ordered.due map actor member
    rwa [← turns map actor member] at due
  rest := rests

/-- **A pass begins.** The actors of the map wait for its hook, the others for what they waited
for. -/
theorem Ordered.locked (ordered : Ordered mapOf shard) {hook : Hook} {map : Map} {order : List A}
    (place : shard.place = .lock hook map) (distinct : order.Nodup)
    (all : order.toFinset = shard.actors map) :
    Ordered mapOf { shard with place := .pass hook map order } := by
  have inside (actor : A) : actor ∈ order ↔ actor ∈ shard.actors map := by
    rw [← all, List.mem_toFinset]
  apply ordered.moved
  · intro current actor member
    rw [place]
    show Place.turn (.pass hook map order) shard.frame current actor =
      Place.upcoming (.lock hook map : Place A) shard.frame current
    rw [Place.turn]
    by_cases here : current = map
    · subst here
      rw [if_pos ((inside actor).mpr member), Place.upcoming, if_neg (by grind)]
    · have elsewhere : actor ∉ order := by
        intro waiting
        have one := ordered.member current actor member
        have other := ordered.member map actor ((inside actor).mp waiting)
        exact here (one.symm.trans other)
      rw [if_neg elsewhere]
      cases map <;> cases current <;> simp_all [Place.upcoming]
  · rintro hook' map' rest ⟨rfl⟩
    exact ⟨distinct, fun actor waiting => (inside actor).mp waiting⟩

/-- **A pass ends.** Nobody waits any more, and the next hook of an actor is the one it was. -/
theorem Ordered.unlocked (ordered : Ordered mapOf shard) {hook : Hook} {map : Map}
    (place : shard.place = .pass hook map []) :
    Ordered mapOf { shard with
      frame := (afterPass (A := A) shard.frame hook map).1
      place := (afterPass shard.frame hook map).2 } := by
  have outside (hook' : Hook) (map' : Map) (rest : List A) :=
    afterPass_ne_pass shard.frame hook map hook' map' rest
  apply ordered.moved
  · intro current actor _
    rw [place, Place.turn_eq_upcoming, upcoming_afterPass, Place.turn_eq_upcoming]
    · rintro hook' map' rest ⟨rfl⟩
      exact List.not_mem_nil
    · exact fun hook' map' rest within => absurd within (outside hook' map' rest)
  · exact fun hook' map' rest within => absurd within (outside hook' map' rest)

/-- **A hook is called.** -/
theorem Ordered.called (ordered : Ordered mapOf shard) {hook : Hook} {map : Map} {actor : A}
    {rest : List A} (place : shard.place = .pass hook map (actor :: rest)) :
    Ordered mapOf { shard with
      place := .pass hook map rest
      calls := Function.update shard.calls actor
        (shard.calls actor ++ [⟨shard.frame, hook⟩]) } := by
  obtain ⟨distinct, inside⟩ := ordered.rest hook map _ place
  obtain ⟨fresh, distinct⟩ := List.nodup_cons.mp distinct
  have here : actor ∈ shard.actors map := inside actor List.mem_cons_self
  have due : Due (shard.calls actor) ⟨shard.frame, hook⟩ := by
    have due := ordered.due map actor here
    rwa [place, Place.turn, if_pos List.mem_cons_self] at due
  refine ⟨?_, ordered.member, ?_, ?_⟩
  · intro other
    show InOrder (Function.update shard.calls actor _ other)
    by_cases same : other = actor
    · subst same
      rw [Function.update_self]
      exact (ordered.inOrder other).append due
    · rw [Function.update_of_ne same]
      exact ordered.inOrder other
  · intro current other member
    show Due (Function.update shard.calls actor _ other)
      ((Place.pass hook map rest).turn shard.frame current other)
    by_cases same : other = actor
    · subst same
      have home : current = map :=
        (ordered.member current other member).symm.trans (ordered.member map other here)
      subst home
      rw [Function.update_self, Place.turn, if_neg fresh, Place.upcoming, if_neg (by grind)]
      exact due.append
    · have due := ordered.due current other member
      rw [Function.update_of_ne same]
      simpa [Place.turn, Place.upcoming, place, same] using due
  · rintro hook' map' rest' ⟨rfl⟩
    exact ⟨distinct, fun other member => inside other (List.mem_cons_of_mem actor member)⟩

/-- **An actor enters** a map that nobody traverses. -/
theorem Ordered.entered (ordered : Ordered mapOf shard) {actor : A}
    (free : shard.place.free (mapOf actor) = true)
    (inTurn : actor ∉ shard.actors (mapOf actor) →
      Due (shard.calls actor) (shard.place.upcoming shard.frame (mapOf actor))) :
    Ordered mapOf (shard.enter (mapOf actor) actor) := by
  refine ⟨ordered.inOrder, ?_, ?_, ?_⟩
  · intro map other member
    rcases mem_enter.mp member with ⟨rfl, rfl⟩ | old
    · rfl
    · exact ordered.member map other old
  · intro map other member
    by_cases old : other ∈ shard.actors map
    · exact ordered.due map other old
    · obtain ⟨rfl, rfl⟩ := (mem_enter.mp member).resolve_right old
      have next : shard.place.turn shard.frame (mapOf other) other =
          shard.place.upcoming shard.frame (mapOf other) := by
        apply Place.turn_eq_upcoming
        intro hook map rest place waiting
        have inside := (ordered.rest hook map rest place).2 other waiting
        rw [place, ← ordered.member map other inside] at free
        simp [Place.free] at free
      show Due (shard.calls other) (shard.place.turn shard.frame (mapOf other) other)
      rw [next]
      exact inTurn old
  · intro hook map rest place
    obtain ⟨distinct, inside⟩ := ordered.rest hook map rest place
    exact ⟨distinct, fun other waiting => mem_enter.mpr (.inr (inside other waiting))⟩

/-- **An actor leaves** a map that nobody traverses. -/
theorem Ordered.left (ordered : Ordered mapOf shard) {map : Map} {actor : A}
    (free : shard.place.free map = true) : Ordered mapOf (shard.leave map actor) := by
  refine ⟨ordered.inOrder, ?_, ?_, ?_⟩
  · exact fun current other member => ordered.member current other (mem_leave.mp member).1
  · exact fun current other member => ordered.due current other (mem_leave.mp member).1
  · intro hook current rest place
    obtain ⟨distinct, inside⟩ := ordered.rest hook current rest place
    refine ⟨distinct, fun other waiting => ?_⟩
    have elsewhere : current ≠ map := by
      rintro rfl
      have within : shard.place = .pass hook current rest := place
      rw [within] at free
      simp [Place.free] at free
    exact mem_leave.mpr ⟨inside other waiting, fun same => absurd same elsewhere⟩

/-- **One step.** -/
theorem Ordered.step {event : Event A} {after : Shard A} (ordered : Ordered mapOf shard)
    (inTurn : EntersInTurn mapOf shard event) (taken : step mapOf shard event = some after) :
    Ordered mapOf after := by
  cases event with
  | timeout =>
      simp only [FrameHooks.step] at taken
      split at taken
      · rename_i place
        cases taken
        refine ordered.moved ?_ ?_
        · intro map actor _
          rw [place]
          simp [Place.turn, Place.upcoming]
        · rintro hook map rest ⟨⟩
      · cases taken
  | lock order =>
      simp only [FrameHooks.step] at taken
      split at taken
      · rename_i hook map place
        obtain ⟨⟨distinct, all⟩, taken⟩ := Option.ite_none_right_eq_some.mp taken
        cases taken
        exact ordered.locked place distinct all
      · cases taken
  | call =>
      simp only [FrameHooks.step] at taken
      split at taken
      · rename_i hook map actor rest place
        cases taken
        exact ordered.called place
      · cases taken
  | unlock =>
      simp only [FrameHooks.step] at taken
      split at taken
      · rename_i hook map place
        cases taken
        exact ordered.unlocked place
      · cases taken
  | insertSession session =>
      obtain ⟨⟨home, free⟩, taken⟩ := Option.ite_none_right_eq_some.mp taken
      cases taken
      rw [← home] at free ⊢
      exact ordered.entered free inTurn
  | eraseSession session =>
      obtain ⟨free, taken⟩ := Option.ite_none_right_eq_some.mp taken
      cases taken
      exact ordered.left free
  | registerNonNetworkActor actor =>
      obtain ⟨⟨home, free⟩, taken⟩ := Option.ite_none_right_eq_some.mp taken
      cases taken
      rw [← home] at free ⊢
      exact ordered.entered free inTurn
  | unregisterNonNetworkActor actor =>
      obtain ⟨free, taken⟩ := Option.ite_none_right_eq_some.mp taken
      cases taken
      exact ordered.left free

end Turn

/-! ### An actor that enters out of turn -/

section OutOfTurn

variable {A : Type u} [DecidableEq A] {mapOf : A → Map} {shard : Shard A} {actor : A}

/-- The logic thread gets to a place, and calls no hook of the actor on the way. -/
def Goes (mapOf : A → Map) (actor : A) (shard : Shard A) (frame : ℕ) (place : Place A) : Prop :=
  ∃ after, Reach (step mapOf) Unguarded shard after ∧ after.actors = shard.actors ∧
    after.calls actor = shard.calls actor ∧ after.frame = frame ∧ after.place = place

theorem Goes.here : Goes mapOf actor shard shard.frame shard.place :=
  ⟨shard, .start, rfl, rfl, rfl, rfl⟩

/-- One more step. -/
theorem Goes.step {frame frame' : ℕ} {place place' : Place A} (event : Event A)
    (goes : Goes mapOf actor shard frame place)
    (taken : ∀ before : Shard A, before.actors = shard.actors → before.frame = frame →
      before.place = place → ∃ calls, calls actor = before.calls actor ∧
        step mapOf before event = some ⟨before.actors, frame', place', calls⟩) :
    Goes mapOf actor shard frame' place' := by
  obtain ⟨before, reached, actors, called, atFrame, atPlace⟩ := goes
  obtain ⟨calls, same, taken⟩ := taken before actors atFrame atPlace
  exact ⟨_, .step reached trivial taken, actors, same.trans called, rfl, rfl⟩

/-- The logic thread works off a pass over other actors. -/
theorem Goes.finish {frame : ℕ} {hook : Hook} {map : Map} {rest : List A}
    (goes : Goes mapOf actor shard frame (.pass hook map rest)) (apart : actor ∉ rest) :
    Goes mapOf actor shard frame (.pass hook map []) := by
  induction rest with
  | nil => exact goes
  | cons other rest ih =>
      have different : actor ≠ other := fun same => apart (same ▸ List.mem_cons_self)
      refine ih (goes.step .call fun before _ atFrame atPlace => ?_)
        fun member => apart (List.mem_cons_of_mem other member)
      refine ⟨Function.update before.calls other (before.calls other ++ [⟨frame, hook⟩]),
        Function.update_of_ne different _ _, ?_⟩
      simp only [FrameHooks.step, atPlace, atFrame]

/-- After a pass it goes to the next one. -/
theorem Goes.unlock {frame : ℕ} {hook : Hook} {map : Map}
    (goes : Goes mapOf actor shard frame (.pass hook map [])) :
    Goes mapOf actor shard (afterPass (A := A) frame hook map).1 (afterPass frame hook map).2 :=
  goes.step .unlock fun before _ atFrame atPlace =>
    ⟨before.calls, rfl, by simp only [FrameHooks.step, atPlace, atFrame]⟩

/-- It begins a pass over a map in any order. -/
theorem Goes.lock {frame : ℕ} {hook : Hook} {map : Map} {order : List A}
    (goes : Goes mapOf actor shard frame (.lock hook map)) (distinct : order.Nodup)
    (all : order.toFinset = shard.actors map) :
    Goes mapOf actor shard frame (.pass hook map order) :=
  goes.step (.lock order) fun before actors atFrame atPlace => by
    refine ⟨before.calls, rfl, ?_⟩
    rw [← actors] at all
    simp only [FrameHooks.step, atPlace, atFrame, if_pos (And.intro distinct all)]

/-- From a pass that has ended over the other map, it goes to the next pass over the actor's. -/
theorem Goes.next {frame : ℕ} {hook : Hook} {map : Map} (other : map ≠ mapOf actor)
    (goes : Goes mapOf actor shard frame (.pass hook map [])) :
    Goes mapOf actor shard ((Place.pass hook map ([] : List A)).upcoming frame (mapOf actor)).frame
      (.lock ((Place.pass hook map ([] : List A)).upcoming frame (mapOf actor)).hook
        (mapOf actor)) := by
  have unlocked := goes.unlock
  cases map with
  | sessionMap =>
      obtain home : mapOf actor = .nonNetworkActorMap := by
        cases home : mapOf actor with
        | sessionMap => exact absurd home.symm other
        | nonNetworkActorMap => rfl
      rw [home]
      exact unlocked
  | nonNetworkActorMap =>
      obtain home : mapOf actor = .sessionMap := by
        cases home : mapOf actor with
        | sessionMap => rfl
        | nonNetworkActorMap => exact absurd home.symm other
      rw [home]
      cases hook with
      | preTimer => exact unlocked
      | onTimer => exact unlocked
      | postTimer =>
          exact unlocked.step .timeout fun before _ atFrame atPlace =>
            ⟨before.calls, rfl, by simp [FrameHooks.step, atPlace, atFrame, afterPass,
              Place.upcoming, Call.next]⟩

/-- Before a pass over the other map, too. -/
theorem Goes.around {frame : ℕ} {hook : Hook} {map : Map} (other : map ≠ mapOf actor)
    (homes : ∀ map, ∀ other ∈ shard.actors map, mapOf other = map)
    (goes : Goes mapOf actor shard frame (.lock hook map)) :
    Goes mapOf actor shard ((Place.pass hook map ([] : List A)).upcoming frame (mapOf actor)).frame
      (.lock ((Place.pass hook map ([] : List A)).upcoming frame (mapOf actor)).hook
        (mapOf actor)) := by
  have begun := goes.lock (Finset.nodup_toList (shard.actors map)) (Finset.toList_toFinset _)
  refine (begun.finish fun member => ?_).next other
  exact other (homes map actor (Finset.mem_toList.mp member)).symm

/-- **The logic thread gets to the next pass** over the map of an actor that nobody traverses. -/
theorem goes_upcoming (homes : ∀ map, ∀ other ∈ shard.actors map, mapOf other = map)
    (rests : ∀ hook map rest, shard.place = .pass hook map rest →
      ∀ other ∈ rest, other ∈ shard.actors map)
    (free : shard.place.free (mapOf actor) = true) :
    Goes mapOf actor shard (shard.place.upcoming shard.frame (mapOf actor)).frame
      (.lock (shard.place.upcoming shard.frame (mapOf actor)).hook (mapOf actor)) := by
  have here : Goes mapOf actor shard shard.frame shard.place := .here
  cases place : shard.place with
  | wait =>
      rw [place] at here
      have woken : Goes mapOf actor shard shard.frame (.lock .preTimer .sessionMap) :=
        here.step .timeout fun before _ atFrame atPlace =>
          ⟨before.calls, rfl, by simp only [FrameHooks.step, atPlace, atFrame]⟩
      cases home : mapOf actor with
      | sessionMap => exact woken
      | nonNetworkActorMap =>
          have around := woken.around (by rw [home]; decide) homes
          rwa [home] at around
  | lock hook map =>
      rw [place] at here
      by_cases own : map = mapOf actor
      · rw [← own, Place.upcoming, if_neg (by grind)]
        exact here
      · have around := here.around own homes
        cases map <;> cases home : mapOf actor <;> simp_all [Place.upcoming]
  | pass hook map rest =>
      rw [place] at here free
      have own : map ≠ mapOf actor := by
        rintro rfl
        simp [Place.free] at free
      refine (here.finish fun member => ?_).next own
      exact own (homes map actor (rests hook map rest place actor member)).symm

/-- **An actor that is not due its next hook** gets it out of turn. -/
theorem reach_disordered (homes : ∀ map, ∀ other ∈ shard.actors map, mapOf other = map)
    (rests : ∀ hook map rest, shard.place = .pass hook map rest →
      ∀ other ∈ rest, other ∈ shard.actors map)
    (free : shard.place.free (mapOf actor) = true) (member : actor ∈ shard.actors (mapOf actor))
    (out : ¬ Due (shard.calls actor) (shard.place.upcoming shard.frame (mapOf actor))) :
    ∃ after, Reach (step mapOf) Unguarded shard after ∧ ¬ InOrder (after.calls actor) := by
  have distinct : (actor :: ((shard.actors (mapOf actor)).erase actor).toList).Nodup :=
    List.nodup_cons.mpr ⟨by simp, Finset.nodup_toList _⟩
  have all : (actor :: ((shard.actors (mapOf actor)).erase actor).toList).toFinset =
      shard.actors (mapOf actor) := by
    rw [List.toFinset_cons, Finset.toList_toFinset, Finset.insert_erase member]
  obtain ⟨before, reached, -, called, atFrame, atPlace⟩ :=
    (goes_upcoming homes rests free).lock distinct all
  have taken : step mapOf before .call = some { before with
      place := .pass (shard.place.upcoming shard.frame (mapOf actor)).hook (mapOf actor)
        ((shard.actors (mapOf actor)).erase actor).toList
      calls := Function.update before.calls actor (before.calls actor ++
        [⟨before.frame, (shard.place.upcoming shard.frame (mapOf actor)).hook⟩]) } := by
    simp only [step, atPlace]
  refine ⟨_, .step reached trivial taken, fun inOrder => out ?_⟩
  simp only [Function.update_self, called, atFrame] at inOrder
  exact inOrder.due

/-- **The condition is exact**: after an actor has entered out of turn, the logic thread alone gets
its hooks out of order. -/
theorem Ordered.reach_disordered {event : Event A} {after : Shard A}
    (ordered : Ordered mapOf shard) (out : ¬ EntersInTurn mapOf shard event)
    (taken : FrameHooks.step mapOf shard event = some after) :
    ∃ later actor, Reach (FrameHooks.step mapOf) Unguarded after later ∧
      ¬ InOrder (later.calls actor) := by
  have entered {actor : A} (free : shard.place.free (mapOf actor) = true)
      (out : ¬ Due (shard.calls actor) (shard.place.upcoming shard.frame (mapOf actor))) :
      ∃ later actor', Reach (FrameHooks.step mapOf) Unguarded (shard.enter (mapOf actor) actor)
        later ∧ ¬ InOrder (later.calls actor') := by
    have homes : ∀ map, ∀ other ∈ (shard.enter (mapOf actor) actor).actors map,
        mapOf other = map := by
      intro map other member
      rcases mem_enter.mp member with ⟨rfl, rfl⟩ | old
      · rfl
      · exact ordered.member map other old
    have rests : ∀ hook map rest,
        (shard.enter (mapOf actor) actor).place = .pass hook map rest →
          ∀ other ∈ rest, other ∈ (shard.enter (mapOf actor) actor).actors map := by
      intro hook map rest place other waiting
      exact mem_enter.mpr (.inr ((ordered.rest hook map rest place).2 other waiting))
    have member : actor ∈ (shard.enter (mapOf actor) actor).actors (mapOf actor) :=
      mem_enter.mpr (.inl ⟨rfl, rfl⟩)
    obtain ⟨later, reached, disordered⟩ :=
      FrameHooks.reach_disordered homes rests free member out
    exact ⟨later, actor, reached, disordered⟩
  cases event with
  | insertSession session =>
      obtain ⟨⟨home, free⟩, taken⟩ := Option.ite_none_right_eq_some.mp taken
      cases taken
      rw [← home] at free ⊢
      exact entered free (Classical.not_imp.mp out).2
  | registerNonNetworkActor actor =>
      obtain ⟨⟨home, free⟩, taken⟩ := Option.ite_none_right_eq_some.mp taken
      cases taken
      rw [← home] at free ⊢
      exact entered free (Classical.not_imp.mp out).2
  | timeout | lock | call | unlock | eraseSession | unregisterNonNetworkActor =>
      exact absurd trivial out

end OutOfTurn

/-! ### Every run -/

section Runs

variable {A : Type u} [DecidableEq A]

/-- **The order of the hooks.** In every run in which actors enter a map only before the pass of the
hook that is due to them, the hooks of every actor are `PreTimer`, `OnTimer`, `PostTimer`, repeated,
and no actor gets `OnTimer` or `PostTimer` in a frame in which it did not get `PreTimer`. -/
theorem hooks_in_order (mapOf : A → Map) (shard : Shard A)
    (reached : Reach (step mapOf) (EntersInTurn mapOf) (initial A) shard) (actor : A) :
    InOrder (shard.calls actor) := by
  have ordered : Ordered mapOf shard :=
    reached.invariant (Ordered mapOf) (ordered_initial mapOf)
      fun _ _ _ ordered inTurn taken => ordered.step inTurn taken
  exact ordered.inOrder actor

/-- Every actor is a non-network actor. -/
def nonNetwork (_ : ℕ) : Map := .nonNetworkActorMap

/-- An actor is registered, and gets its first hook. -/
def registeredBefore : List (Event ℕ) :=
  [.registerNonNetworkActor 7, .timeout, .lock [], .unlock, .lock [7], .call]

theorem hooks_in_order_registered :
    ∃ shard, Reach (step nonNetwork) (EntersInTurn nonNetwork) (initial ℕ) shard ∧
      shard.calls 7 = [⟨0, .preTimer⟩] ∧ InOrder (shard.calls 7) := by
  obtain ⟨shard, reached, first⟩ := StepRuns.exists_reach_of_runGuarded (step nonNetwork)
    (EntersInTurn nonNetwork) (initial ℕ) registeredBefore
    (fun shard => decide (shard.calls 7 = [⟨0, .preTimer⟩])) (by decide)
  exact ⟨shard, reached, of_decide_eq_true first, hooks_in_order nonNetwork shard reached 7⟩

/-- An actor is registered after `PreWakeLogicThread`. -/
def registeredDuring : List (Event ℕ) :=
  [.timeout, .lock [], .unlock, .lock [], .unlock, .registerNonNetworkActor 7, .lock [], .unlock,
    .lock [7], .call]

/-- **A hook out of turn**: the first hook of the actor is `OnTimer`. -/
theorem hook_out_of_turn :
    ¬ ∀ shard, Reach (step nonNetwork) Unguarded (initial ℕ) shard →
      ∀ actor, InOrder (shard.calls actor) := by
  intro ordered
  obtain ⟨shard, reached, first⟩ := exists_reach_of_run (step nonNetwork) (initial ℕ)
    registeredDuring (fun shard => decide (shard.calls 7 = [⟨0, .onTimer⟩])) (by decide)
  have framed := (ordered shard reached 7).2
  rw [of_decide_eq_true first] at framed
  revert framed
  decide

end Runs

end ActorModelServer.FrameHooks
