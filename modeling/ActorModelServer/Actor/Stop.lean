/-
**Stopping an actor.**

`Stop` sets `isStop`. `SendMessage` reads it before it pushes, `ProcessMessage` once, before it
swaps the queues; the loop behind the swap does not. The runs here are interleavings of the atomic
steps, in which a load sees the last store.

* `stop_halts` — where every `Stop` comes when the logic thread has nothing left to call (`Idle`),
  no message starts after it, and `SendMessage` returns false.
* `stop_starts` — the condition is exact: after any other `Stop` a message starts.
* `stopped_in_batch` — a message stops its own actor, and the next one of the batch is called.
-/

import ActorModelServer.Actor.MessageOrder

namespace ActorModelServer.Actor

open ThreadTable (threadStep_eq_some leads_of_act)
open StepRuns (Reach Leads runGuarded exists_reach_of_runGuarded)

universe u v

section Model

variable {Body : Type u} {Sender : Type v}

/-- No message of the list can be called. -/
def NoneRuns (entries : List (Entry Body)) : Prop := ∀ entry ∈ entries, entry.runs = false

/-- The thread is about to push a message that can be called. -/
def Pc.pushes : Pc Body → Bool
  | .sendPush message _ => message.isSome
  | _ => false

/-- Nothing is left to call behind the check of `ProcessMessage`: no message is in the queue that
is drained, or on its way into it. -/
def Idle (state : State Body Sender) : Prop :=
  match (state.pc .logic).base with
  | .processSwap => NoneRuns state.shared.storeQueue ∧ ∀ thread, (state.pc thread).pushes = false
  | .processLoop => NoneRuns state.shared.consumerQueue
  | .processRun => NoneRuns state.shared.consumerQueue.tail
  | _ => True

/-- A load of `isStop` sees the last store. -/
def Interleaved (_ : State Body Sender) (label : Tid Sender × Choice Body) : Prop :=
  match label.2 with
  | .missStop => False
  | _ => True

/-- `Stop` comes when nothing is left to call. -/
def StopsIdle (state : State Body Sender) (label : Tid Sender × Choice Body) : Prop :=
  match label.2 with
  | .missStop => False
  | .stop => Idle state
  | _ => True

instance (entries : List (Entry Body)) : Decidable (NoneRuns entries) :=
  inferInstanceAs (Decidable (∀ entry ∈ entries, _))

instance [Fintype Sender] (holds : Tid Sender → Prop) [DecidablePred holds] :
    Decidable (∀ thread, holds thread) :=
  decidable_of_iff (holds .logic ∧ ∀ name, holds (.sender name))
    ⟨fun both thread => by cases thread with
      | logic => exact both.1
      | sender name => exact both.2 name, fun all => ⟨all _, fun _ => all _⟩⟩

instance [Fintype Sender] (state : State Body Sender) : Decidable (Idle state) := by
  unfold Idle
  split <;> infer_instance

instance (state : State Body Sender) (label : Tid Sender × Choice Body) :
    Decidable (Interleaved state label) := by
  unfold Interleaved
  split <;> infer_instance

instance [Fintype Sender] (state : State Body Sender) (label : Tid Sender × Choice Body) :
    Decidable (StopsIdle state label) := by
  unfold StopsIdle
  split <;> infer_instance

/-- A place from which a thread calls `SendMessage`. -/
def Pc.calls : Pc Body → Bool
  | .sender => true
  | .logic => true
  | .processRun => true
  | _ => false

/-- A call of `SendMessage` returns to a place that calls it. -/
def Pc.formed : Pc Body → Bool
  | .sendCheck _ next => next.calls
  | .sendPush _ next => next.calls
  | _ => true

/-! ### The places -/

theorem Pc.formed_of_calls {pc : Pc Body} (calls : pc.calls = true) : pc.formed = true := by
  cases pc with
  | sender | logic | processRun => rfl
  | sendCheck | sendPush | processEntry | processSwap | processLoop => cases calls

theorem Pc.pushes_of_calls {pc : Pc Body} (calls : pc.calls = true) : pc.pushes = false := by
  cases pc with
  | sender | logic | processRun => rfl
  | sendCheck | sendPush | processEntry | processSwap | processLoop => cases calls

theorem act_formed {mailbox mailbox' : Mailbox Body} {pc pc' : Pc Body} {choice : Choice Body}
    (acted : act mailbox pc choice = some (mailbox', pc')) (formed : pc.formed = true) :
    pc'.formed = true := by
  revert acted formed
  fun_cases act mailbox pc choice
  all_goals intro acted formed
  all_goals simp only [Option.some.injEq, Prod.mk.injEq, reduceCtorEq] at acted
  all_goals obtain ⟨rfl, rfl⟩ := acted
  case case6 =>
    split
    · exact Pc.formed_of_calls formed
    · exact formed
  case case7 => exact formed
  case case8 => exact Pc.formed_of_calls formed
  case case9 => split <;> rfl
  all_goals rfl

variable [DecidableEq Sender]

theorem formed_step {state after : State Body Sender} {label : Tid Sender × Choice Body}
    (formed : ∀ thread, (state.pc thread).formed = true)
    (taken : step state label = some after) : ∀ thread, (after.pc thread).formed = true := by
  obtain ⟨mailbox, pc, acted, rfl⟩ := threadStep_eq_some.mp taken
  intro thread
  by_cases mover : thread = label.1
  · subst mover
    simpa using act_formed acted (formed _)
  · simpa [Function.update_of_ne mover] using formed thread

omit [DecidableEq Sender] in
theorem formed_initial (thread : Tid Sender) :
    ((initial Body Sender).pc thread).formed = true := by
  cases thread with
  | logic => rfl
  | sender name => rfl

end Model

/-! ### A stopped actor -/

section Stopped

variable {Body : Type u} {Sender : Type v}

/-- A place of the logic thread, with a mailbox, is idle. -/
def IdleAt (mailbox : Mailbox Body) (pc : Pc Body) : Prop :=
  match pc with
  | .processSwap => NoneRuns mailbox.storeQueue
  | .processLoop => NoneRuns mailbox.consumerQueue
  | .processRun => NoneRuns mailbox.consumerQueue.tail
  | _ => True

/-- What a thread of a stopped actor does, with a load that sees the stop. -/
inductive StoppedMoves (mailbox : Mailbox Body) (pc : Pc Body) (next : Pc Body) :
    Mailbox Body → Prop
  | quiet (base : next.base = pc.base) : StoppedMoves mailbox pc next mailbox
  | pushed (message : Option Body) (pushes : pc.pushes = message.isSome)
      (base : next.base = pc.base) : StoppedMoves mailbox pc next (mailbox.push message)
  | process (logic : pc.base = .logic) (entry : next.base = .processEntry) :
      StoppedMoves mailbox pc next mailbox
  | refused (entry : pc.base = .processEntry) (logic : next.base = .logic) :
      StoppedMoves mailbox pc next mailbox
  | swapped (swap : pc.base = .processSwap) (loop : next.base = .processLoop) :
      StoppedMoves mailbox pc next mailbox.swapQueues
  | drained (loop : pc.base = .processLoop) (logic : next.base = .logic) :
      StoppedMoves mailbox pc next mailbox
  | started (entry : Entry Body) (loop : pc.base = .processLoop)
      (front : entry ∈ mailbox.consumerQueue) (runs : entry.runs = true) :
      StoppedMoves mailbox pc next (mailbox.start entry)
  | skipped (loop : pc.base = .processLoop) (again : next.base = .processLoop) :
      StoppedMoves mailbox pc next mailbox.pop
  | finished (run : pc.base = .processRun) (loop : next.base = .processLoop) :
      StoppedMoves mailbox pc next mailbox.pop

theorem act_stopped {mailbox mailbox' : Mailbox Body} {pc pc' : Pc Body} {choice : Choice Body}
    (acted : act mailbox pc choice = some (mailbox', pc')) (stopped : mailbox.isStop = true)
    (formed : pc.formed = true) (seen : choice ≠ .missStop) :
    StoppedMoves mailbox pc pc' mailbox' ∧ pc'.pushes = false := by
  have same : mailbox.stop = mailbox := by
    unfold Mailbox.stop
    rw [← stopped]
  revert acted formed seen
  fun_cases act mailbox pc choice
  all_goals intro acted formed seen
  all_goals simp only [Option.some.injEq, Prod.mk.injEq, reduceCtorEq] at acted
  all_goals obtain ⟨rfl, rfl⟩ := acted
  case case6 message next =>
    rw [if_pos stopped]
    exact ⟨.quiet rfl, Pc.pushes_of_calls formed⟩
  case case7 => exact absurd rfl seen
  case case8 message next => exact ⟨.pushed message rfl rfl, Pc.pushes_of_calls formed⟩
  case case9 =>
    rw [if_pos stopped]
    exact ⟨.refused rfl rfl, rfl⟩
  case case10 => exact absurd rfl seen
  case case11 => exact ⟨.swapped rfl rfl, rfl⟩
  case case12 => exact ⟨.drained rfl rfl, rfl⟩
  case case13 entry rest front runs => exact ⟨.started entry rfl (front ▸ .head _) runs, rfl⟩
  case case14 => exact ⟨.skipped rfl rfl, rfl⟩
  case case5 => exact ⟨.process rfl rfl, rfl⟩
  case case17 => exact ⟨.finished rfl rfl, rfl⟩
  case case2 | case4 | case16 =>
    rw [same]
    exact ⟨.quiet rfl, rfl⟩
  all_goals exact ⟨.quiet rfl, rfl⟩

/-- A null message may be pushed at any time, any other one when the swap is over. -/
theorem IdleAt.push {mailbox : Mailbox Body} {place : Pc Body} {message : Option Body}
    (idle : IdleAt mailbox place) (null : place = .processSwap → message.isSome = false) :
    IdleAt (mailbox.push message) place := by
  cases place with
  | processSwap =>
      intro entry member
      rcases List.mem_append.mp member with before | last
      · exact idle entry before
      · rw [List.mem_singleton.mp last]
        exact null rfl
  | processLoop => exact idle
  | processRun => exact idle
  | sender | logic | sendCheck | sendPush | processEntry => trivial

/-- A move of the logic thread starts nothing, and comes to the swap from the swap only. -/
theorem idleAt_logic {mailbox mailbox' : Mailbox Body} {pc pc' : Pc Body}
    (moved : StoppedMoves mailbox pc pc' mailbox') (idle : IdleAt mailbox pc.base)
    (quiet : pc.base = .processSwap → pc.pushes = false) :
    (IdleAt mailbox' pc'.base ∧ (pc'.base = .processSwap → pc.base = .processSwap)) ∧
      mailbox'.executed = mailbox.executed ∧ mailbox'.isStop = mailbox.isStop := by
  cases moved with
  | quiet base =>
      rw [base]
      exact ⟨⟨idle, id⟩, rfl, rfl⟩
  | pushed message pushes base =>
      rw [base]
      exact ⟨⟨idle.push fun swap => pushes.symm.trans (quiet swap), id⟩, rfl, rfl⟩
  | process _ entry =>
      rw [entry]
      exact ⟨⟨trivial, nofun⟩, rfl, rfl⟩
  | refused _ logic | drained _ logic =>
      rw [logic]
      exact ⟨⟨trivial, nofun⟩, rfl, rfl⟩
  | swapped swap loop =>
      rw [swap] at idle
      rw [loop]
      exact ⟨⟨idle, nofun⟩, rfl, rfl⟩
  | started entry loop front runs =>
      rw [loop] at idle
      exact absurd runs (Bool.eq_false_iff.mp (idle entry front))
  | skipped loop again =>
      rw [loop] at idle
      rw [again]
      exact ⟨⟨fun entry member => idle entry (List.mem_of_mem_tail member), nofun⟩, rfl, rfl⟩
  | finished run loop =>
      rw [run] at idle
      rw [loop]
      exact ⟨⟨idle, nofun⟩, rfl, rfl⟩

/-- A move of another thread starts nothing, wherever the logic thread is. -/
theorem idleAt_sender {mailbox mailbox' : Mailbox Body} {pc pc' place : Pc Body}
    (moved : StoppedMoves mailbox pc pc' mailbox') (sender : pc.base = .sender)
    (idle : IdleAt mailbox place) (quiet : place = .processSwap → pc.pushes = false) :
    IdleAt mailbox' place ∧ mailbox'.executed = mailbox.executed ∧
      mailbox'.isStop = mailbox.isStop := by
  cases moved with
  | quiet _ => exact ⟨idle, rfl, rfl⟩
  | pushed message pushes _ =>
      exact ⟨idle.push fun swap => pushes.symm.trans (quiet swap), rfl, rfl⟩
  | process elsewhere _ | refused elsewhere _ | swapped elsewhere _ | drained elsewhere _
  | started _ elsewhere _ _ | skipped elsewhere _ | finished elsewhere _ =>
      rw [sender] at elsewhere
      cases elsewhere

theorem idle_iff {state : State Body Sender} :
    Idle state ↔ IdleAt state.shared (state.pc .logic).base ∧
      ((state.pc .logic).base = .processSwap → ∀ thread, (state.pc thread).pushes = false) := by
  unfold Idle IdleAt
  cases (state.pc .logic).base with
  | processSwap => simp
  | sender | logic | sendCheck | sendPush | processEntry | processLoop | processRun => simp

/-- The actor is stopped, and nothing is left to call. -/
structure Sealed [DecidableEq Sender] (state : State Body Sender) : Prop where
  stopped : state.shared.isStop = true
  idle : Idle state
  formed : ∀ thread, (state.pc thread).formed = true
  ordered : Ordered state

variable [DecidableEq Sender]

/-- **One step of a sealed actor** starts nothing. -/
theorem Sealed.step {state after : State Body Sender} {label : Tid Sender × Choice Body}
    (closed : Sealed state) (seen : label.2 ≠ .missStop)
    (taken : Actor.step state label = some after) :
    Sealed after ∧ after.shared.executed = state.shared.executed := by
  have ordered := closed.ordered.step taken
  have formed := formed_step closed.formed taken
  obtain ⟨mailbox, next, acted, rfl⟩ := threadStep_eq_some.mp taken
  obtain ⟨moved, pushes⟩ := act_stopped acted closed.stopped (closed.formed _) seen
  obtain ⟨idle, quiet⟩ := idle_iff.mp closed.idle
  have silent (swap : (state.pc .logic).base = .processSwap) :
      ∀ thread, (Function.update state.pc label.1 next thread).pushes = false := by
    intro thread
    by_cases mover : thread = label.1
    · subst mover
      simpa using pushes
    · simpa [Function.update_of_ne mover] using quiet swap thread
  cases mover : label.1 with
  | logic =>
      rw [mover] at moved silent formed ordered
      obtain ⟨⟨idle, origin⟩, executed, stop⟩ := idleAt_logic moved idle fun swap => quiet swap _
      refine ⟨⟨stop.trans closed.stopped, idle_iff.mpr ⟨?_, ?_⟩, formed, ordered⟩, executed⟩
      · simpa using idle
      · intro swap
        exact silent (origin (by simpa using swap))
  | sender name =>
      rw [mover] at moved silent formed ordered
      obtain ⟨idle, executed, stop⟩ :=
        idleAt_sender moved (closed.ordered.senders name) idle fun swap => quiet swap _
      refine ⟨⟨stop.trans closed.stopped, idle_iff.mpr ⟨?_, ?_⟩, formed, ordered⟩, executed⟩
      · simpa using idle
      · intro swap
        exact silent (by simpa using swap)

omit [DecidableEq Sender] in
/-- `Stop` is called from outside, or by a message of the actor. -/
theorem act_stop {mailbox mailbox' : Mailbox Body} {pc pc' : Pc Body}
    (acted : act mailbox pc .stop = some (mailbox', pc')) :
    mailbox' = mailbox.stop ∧ pc' = pc := by
  cases pc with
  | sender | logic | processRun =>
      cases acted
      exact ⟨rfl, rfl⟩
  | sendCheck | sendPush | processEntry | processSwap | processLoop => cases acted

theorem step_stop {state after : State Body Sender} {thread : Tid Sender}
    (taken : step state (thread, .stop) = some after) :
    after = ⟨state.shared.stop, state.pc⟩ := by
  obtain ⟨mailbox, next, acted, rfl⟩ := threadStep_eq_some.mp taken
  obtain ⟨rfl, rfl⟩ := act_stop acted
  rw [Function.update_eq_self]

/-- A call of `SendMessage` is refused. -/
theorem Sealed.refuses {state after : State Body Sender} {thread : Tid Sender}
    {message : Option Body} {next : Pc Body} {choice : Choice Body} (closed : Sealed state)
    (check : state.pc thread = .sendCheck message next) (seen : choice ≠ .missStop)
    (taken : Actor.step state (thread, choice) = some after) :
    after.pc thread = next ∧ after.shared = state.shared := by
  obtain ⟨mailbox, pc, acted, rfl⟩ := threadStep_eq_some.mp taken
  rw [check] at acted
  cases choice with
  | go =>
      change some (state.shared, if state.shared.isStop then next else .sendPush message next) =
        some (mailbox, pc) at acted
      rw [if_pos closed.stopped] at acted
      cases acted
      exact ⟨Function.update_self _ _ _, rfl⟩
  | missStop => exact absurd rfl seen
  | send | stop | process => cases acted

omit [DecidableEq Sender] in
/-- Only `Stop` stops. -/
theorem act_isStop {mailbox mailbox' : Mailbox Body} {pc pc' : Pc Body} {choice : Choice Body}
    (acted : act mailbox pc choice = some (mailbox', pc')) (other : choice ≠ .stop) :
    mailbox'.isStop = mailbox.isStop := by
  revert acted other
  fun_cases act mailbox pc choice
  all_goals intro acted other
  all_goals simp only [Option.some.injEq, Prod.mk.injEq, reduceCtorEq] at acted
  all_goals obtain ⟨rfl, rfl⟩ := acted
  all_goals first
    | rfl
    | exact absurd rfl other

/-- The places are in order, and a stopped actor is sealed. -/
structure Stops (state : State Body Sender) : Prop where
  ordered : Ordered state
  formed : ∀ thread, (state.pc thread).formed = true
  sealed : state.shared.isStop = true → Sealed state

omit [DecidableEq Sender] in
theorem StopsIdle.seen {state : State Body Sender} {label : Tid Sender × Choice Body}
    (allowed : StopsIdle state label) : label.2 ≠ .missStop := by
  intro missed
  unfold StopsIdle at allowed
  rw [missed] at allowed
  exact allowed

theorem Stops.step {state after : State Body Sender} {label : Tid Sender × Choice Body}
    (stops : Stops state) (allowed : StopsIdle state label)
    (taken : Actor.step state label = some after) : Stops after := by
  have ordered := stops.ordered.step taken
  have formed := formed_step stops.formed taken
  refine ⟨ordered, formed, fun stopped => ?_⟩
  obtain ⟨thread, choice⟩ := label
  by_cases stop : choice = .stop
  · subst stop
    have same := step_stop taken
    subst same
    exact ⟨stopped, allowed, formed, ordered⟩
  · obtain ⟨mailbox, next, acted, rfl⟩ := threadStep_eq_some.mp taken
    have before := (act_isStop acted stop).symm.trans stopped
    exact ((stops.sealed before).step allowed.seen taken).1

theorem stops_of_reach {state : State Body Sender}
    (reached : Reach step StopsIdle (initial Body Sender) state) : Stops state :=
  reached.invariant (fun state : State Body Sender => Stops state)
    ⟨ordered_initial, formed_initial, nofun⟩ fun _ _ _ stops allowed taken =>
      stops.step allowed taken

/-- **Stop halts consumption.** In every run whose `Stop`s all come when nothing is left to call: in
a stopped actor no message starts any more, and a call of `SendMessage` that comes to its check
returns false and leaves the queues as they are. -/
theorem stop_halts {state : State Body Sender}
    (reached : Reach step StopsIdle (initial Body Sender) state)
    (stopped : state.shared.isStop = true) :
    (∀ later, Reach step StopsIdle state later →
      later.shared.isStop = true ∧ later.shared.executed = state.shared.executed) ∧
    ∀ thread message next choice after, state.pc thread = .sendCheck message next →
      StopsIdle state (thread, choice) → step state (thread, choice) = some after →
        after.pc thread = next ∧ after.shared = state.shared := by
  have closed := (stops_of_reach reached).sealed stopped
  constructor
  · intro later run
    have holds : Sealed later ∧ later.shared.executed = state.shared.executed := by
      refine run.invariant (fun later : State Body Sender =>
        Sealed later ∧ later.shared.executed = state.shared.executed) ⟨closed, rfl⟩ ?_
      rintro before label after ⟨closed, same⟩ allowed taken
      obtain ⟨closed, executed⟩ := closed.step allowed.seen taken
      exact ⟨closed, executed.trans same⟩
    exact ⟨holds.1.stopped, holds.2⟩
  · intro thread message next choice after check allowed taken
    exact closed.refuses check allowed.seen taken

end Stopped

/-! ### A stop that comes too early -/

section Early

variable {Body : Type u} {Sender : Type v} [DecidableEq Sender] {count : ℕ}
  {state : State Body Sender}

/-- The actor comes to more calls than the count. -/
def Starts (count : ℕ) (state : State Body Sender) : Prop :=
  Leads step Interleaved (fun later => count < later.shared.executed.length) state

/-- One step on the way. -/
theorem Starts.after_step {thread : Tid Sender} {place next : Pc Body} {mailbox : Mailbox Body}
    (here : state.pc thread = place) (acted : act state.shared place .go = some (mailbox, next))
    (starts : ∀ pc : Tid Sender → Pc Body, pc thread = next →
      (∀ other, other ≠ thread → pc other = state.pc other) → Starts count ⟨mailbox, pc⟩) :
    Starts count state :=
  leads_of_act here .go trivial acted starts

/-- The loop comes to the next message that can be called. -/
theorem starts_processLoop {entries : List (Entry Body)} (here : state.pc .logic = .processLoop)
    (queue : state.shared.consumerQueue = entries) (some : ¬ NoneRuns entries)
    (few : count ≤ state.shared.executed.length) : Starts count state := by
  induction entries generalizing state with
  | nil => exact absurd (fun _ member => absurd member List.not_mem_nil) some
  | cons entry rest ih =>
      cases runs : entry.runs with
      | true =>
          have acted : act state.shared .processLoop .go =
              .some (state.shared.start entry, .processRun) := by
            simp [act, queue, runs]
          refine Starts.after_step here acted fun pc _ _ => Leads.here ?_
          show count < (state.shared.executed ++ [entry]).length
          rw [List.length_append, List.length_singleton]
          omega
      | false =>
          have acted : act state.shared .processLoop .go =
              .some (state.shared.pop, .processLoop) := by
            simp [act, queue, runs]
          refine Starts.after_step here acted fun pc loop _ => ih loop ?_ ?_ few
          · show state.shared.consumerQueue.tail = rest
            rw [queue, List.tail_cons]
          · intro none
            refine some fun other member => ?_
            rcases List.mem_cons.mp member with rfl | later
            · exact runs
            · exact none other later

/-- The swap brings what is in `storeQueue`. -/
theorem starts_processSwap (here : state.pc .logic = .processSwap)
    (some : ¬ NoneRuns state.shared.storeQueue) (few : count ≤ state.shared.executed.length) :
    Starts count state :=
  Starts.after_step here rfl fun _ loop _ => starts_processLoop loop rfl some few

/-- A message that is about to be pushed comes along. -/
theorem starts_pushes {thread : Tid Sender} (here : state.pc .logic = .processSwap)
    (pushes : (state.pc thread).pushes = true) (few : count ≤ state.shared.executed.length) :
    Starts count state := by
  cases pending : state.pc thread with
  | sendPush message next =>
      rw [pending] at pushes
      have other : Tid.logic ≠ thread := by
        intro same
        rw [same, pending] at here
        cases here
      refine Starts.after_step pending rfl fun pc _ others => ?_
      refine starts_processSwap ((others _ other).trans here) ?_ few
      intro none
      have runs := none ⟨state.shared.accepted.length, message⟩
        (List.mem_append_right _ (.head _))
      exact absurd pushes (Bool.eq_false_iff.mp runs)
  | sender | logic | sendCheck | processEntry | processSwap | processLoop | processRun =>
      rw [pending] at pushes
      cases pushes

/-- The running message returns. -/
theorem starts_processRun (here : state.pc .logic = .processRun)
    (some : ¬ NoneRuns state.shared.consumerQueue.tail)
    (few : count ≤ state.shared.executed.length) : Starts count state :=
  Starts.after_step here rfl fun _ loop _ => starts_processLoop loop rfl some few

/-- The running message pushes what it sends, and returns. -/
theorem starts_sendPush {message : Option Body}
    (here : state.pc .logic = .sendPush message .processRun)
    (some : ¬ NoneRuns state.shared.consumerQueue.tail)
    (few : count ≤ state.shared.executed.length) : Starts count state :=
  Starts.after_step here rfl fun _ run _ => starts_processRun run some few

theorem starts_sendCheck {message : Option Body}
    (here : state.pc .logic = .sendCheck message .processRun)
    (some : ¬ NoneRuns state.shared.consumerQueue.tail)
    (few : count ≤ state.shared.executed.length) : Starts count state := by
  by_cases stopped : state.shared.isStop = true
  · have acted : act state.shared (.sendCheck message .processRun) .go =
        .some (state.shared, .processRun) := by
      simp [act, stopped]
    exact Starts.after_step here acted fun _ run _ => starts_processRun run some few
  · have acted : act state.shared (.sendCheck message .processRun) .go =
        .some (state.shared, .sendPush message .processRun) := by
      simp [act, stopped]
    exact Starts.after_step here acted fun _ push _ => starts_sendPush push some few

/-- A message starts from every state that is not idle. -/
theorem starts_of_not_idle (formed : ∀ thread, (state.pc thread).formed = true)
    (early : ¬ Idle state) (few : count ≤ state.shared.executed.length) : Starts count state := by
  have own := formed .logic
  rw [idle_iff] at early
  cases here : state.pc .logic with
  | processSwap =>
      rw [here] at early
      by_cases queue : NoneRuns state.shared.storeQueue
      · obtain ⟨thread, pushes⟩ : ∃ thread, (state.pc thread).pushes = true := by
          by_contra none
          refine early ⟨queue, fun _ thread => Bool.eq_false_iff.mpr fun pushes => ?_⟩
          exact none ⟨thread, pushes⟩
        exact starts_pushes here pushes few
      · exact starts_processSwap here queue few
  | processLoop =>
      rw [here] at early
      exact starts_processLoop here rfl (fun queue => early ⟨queue, nofun⟩) few
  | processRun =>
      rw [here] at early
      exact starts_processRun here (fun queue => early ⟨queue, nofun⟩) few
  | sendCheck message next =>
      rw [here] at early own
      cases next with
      | processRun => exact starts_sendCheck here (fun queue => early ⟨queue, nofun⟩) few
      | sender | logic => exact absurd ⟨trivial, nofun⟩ early
      | sendCheck | sendPush | processEntry | processSwap | processLoop => cases own
  | sendPush message next =>
      rw [here] at early own
      cases next with
      | processRun => exact starts_sendPush here (fun queue => early ⟨queue, nofun⟩) few
      | sender | logic => exact absurd ⟨trivial, nofun⟩ early
      | sendCheck | sendPush | processEntry | processSwap | processLoop => cases own
  | sender | logic | processEntry =>
      rw [here] at early
      exact absurd ⟨trivial, nofun⟩ early

/-- **The condition is exact**: after a `Stop` that comes when something is left to call, a message
starts. -/
theorem stop_starts {after : State Body Sender} {thread : Tid Sender}
    (reached : Reach step Interleaved (initial Body Sender) state) (early : ¬ Idle state)
    (taken : step state (thread, .stop) = some after) :
    Starts after.shared.executed.length after := by
  have formed : ∀ thread, (state.pc thread).formed = true :=
    reached.invariant (fun state : State Body Sender => ∀ thread, (state.pc thread).formed = true)
      formed_initial fun _ _ _ formed _ taken => formed_step formed taken
  have same := step_stop taken
  subst same
  exact starts_of_not_idle formed early (Nat.le_refl _)

end Early

/-! ### Runs -/

section Runs

/-- Two messages are sent and taken; the second `Stop` comes when the logic thread is idle. -/
def stopAfterBatch : List (Tid Unit × Choice ℕ) :=
  [(.sender (), .send (some 7)), (.sender (), .go), (.sender (), .go), (.logic, .process),
    (.logic, .go), (.logic, .go), (.logic, .go), (.logic, .go), (.logic, .go),
    (.sender (), .stop), (.sender (), .send (some 8))]

theorem stop_halts_afterBatch :
    ∃ state, Reach step StopsIdle (initial ℕ Unit) state ∧
      state.shared.executed.map Entry.message = [some 7] ∧
      ∀ later, Reach step StopsIdle state later →
        later.shared.isStop = true ∧ later.shared.executed = state.shared.executed := by
  obtain ⟨state, reached, test⟩ := exists_reach_of_runGuarded step StopsIdle (initial ℕ Unit)
    stopAfterBatch (fun state => decide (state.shared.isStop = true ∧
      state.shared.executed.map Entry.message = [some 7])) (by decide)
  obtain ⟨stopped, executed⟩ := of_decide_eq_true test
  exact ⟨state, reached, executed, (stop_halts reached stopped).1⟩

/-- Two messages are taken in one batch; the first stops its actor. -/
def stopInBatch : List (Tid Unit × Choice ℕ) :=
  [(.sender (), .send (some 7)), (.sender (), .go), (.sender (), .go),
    (.sender (), .send (some 8)), (.sender (), .go), (.sender (), .go), (.logic, .process),
    (.logic, .go), (.logic, .go), (.logic, .go), (.logic, .stop)]

/-- **A message starts after `Stop`**: the second of the batch. -/
theorem stopped_in_batch :
    ¬ ∀ state, Reach step Interleaved (initial ℕ Unit) state → state.shared.isStop = true →
      ∀ later, Reach step Interleaved state later →
        later.shared.executed = state.shared.executed := by
  intro halts
  obtain ⟨state, reached, test⟩ := exists_reach_of_runGuarded step Interleaved (initial ℕ Unit)
    stopInBatch (fun state => decide (state.shared.isStop = true ∧
      state.shared.executed.length = 1 ∧
      (runGuarded step Interleaved state [(.logic, .go), (.logic, .go)]).map
        (fun later => decide (later.shared.executed.length = 2)) = some true)) (by decide)
  obtain ⟨stopped, one, goesOn⟩ := of_decide_eq_true test
  obtain ⟨later, run, two⟩ := exists_reach_of_runGuarded step Interleaved state
    [(.logic, .go), (.logic, .go)] (fun later => decide (later.shared.executed.length = 2)) goesOn
  have same := halts state reached stopped later run
  have length := of_decide_eq_true two
  rw [same, one] at length
  cases length

end Runs

end ActorModelServer.Actor
