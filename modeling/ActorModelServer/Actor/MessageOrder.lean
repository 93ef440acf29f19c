/-
**Mailbox order: what an actor executes is what it accepted, in order and once.**

Any number of threads call `SendMessage` and `Stop` on one actor; the logic thread of the actor
does too, and calls `ProcessMessage`. A running message may send to its own actor and stop it; it
does not call `ProcessMessage`. `act` is one atomic step; the critical sections of `queueMutex` are
one step each.

`ProcessMessage` leaves its loop with `consumerQueue` empty and nobody else fills it, so the next
swap finds it empty (`Settled.drained`). With that every step keeps the accounting of the queues
(`Settled.move`, `Ordered.step`), and `executed_prefix_accepted` reads the result off.
-/

import ActorModelServer.Actor.Mailbox
import ActorModelServer.Library.ThreadTable

namespace ActorModelServer.Actor

open ThreadTable (threadStep_eq_some)
open StepRuns (Reach Unguarded exists_reach_of_run)

universe u v

section MessageOrder

/-- Where a thread is. A place inside `SendMessage` carries the place it returns to. -/
inductive Pc (Body : Type u)
  | sender
  /- the logic thread outside of this actor's functions -/
  | logic
  /- `SendMessage` -/
  | sendCheck (message : Option Body) (next : Pc Body)
  | sendPush (message : Option Body) (next : Pc Body)
  /- `ProcessMessage`: at its entry, before the swap, at the head of the loop, in a message -/
  | processEntry
  | processSwap
  | processLoop
  | processRun
  deriving DecidableEq

/-- What a thread does next. -/
inductive Choice (Body : Type u)
  | go
  | send (message : Option Body)
  | stop
  | process
  /- a relaxed load of `isStop` that does not see the store of `Stop` yet -/
  | missStop

variable {Body : Type u}

/-- One atomic step of a thread. -/
def act (mailbox : Mailbox Body) (pc : Pc Body) (choice : Choice Body) :
    Option (Mailbox Body × Pc Body) :=
  match pc, choice with
  | .sender, .send message => some (mailbox, .sendCheck message .sender)
  | .sender, .stop => some (mailbox.stop, .sender)
  | .logic, .send message => some (mailbox, .sendCheck message .logic)
  | .logic, .stop => some (mailbox.stop, .logic)
  | .logic, .process => some (mailbox, .processEntry)
  | .sendCheck message next, .go =>
      -- `return false` when stopped
      some (mailbox, if mailbox.isStop then next else .sendPush message next)
  | .sendCheck message next, .missStop => some (mailbox, .sendPush message next)
  | .sendPush message next, .go => some (mailbox.push message, next)
  | .processEntry, .go => some (mailbox, if mailbox.isStop then .logic else .processSwap)
  | .processEntry, .missStop => some (mailbox, .processSwap)
  | .processSwap, .go => some (mailbox.swapQueues, .processLoop)
  | .processLoop, .go =>
      match mailbox.consumerQueue with
      | [] => some (mailbox, .logic)
      | entry :: _ =>
          if entry.runs then some (mailbox.start entry, .processRun)
          else some (mailbox.pop, .processLoop)
  | .processRun, .send message => some (mailbox, .sendCheck message .processRun)
  | .processRun, .stop => some (mailbox.stop, .processRun)
  | .processRun, .go => some (mailbox.pop, .processLoop)
  | _, _ => none

/-- The logic thread of the actor, and any other threads. -/
inductive Tid (Sender : Type v)
  | logic
  | sender (name : Sender)
  deriving DecidableEq

/-- Where each thread starts. -/
def initialPc {Sender : Type v} : Tid Sender → Pc Body
  | .logic => .logic
  | .sender _ => .sender

/-- The state of the machine. -/
abbrev State (Body : Type u) (Sender : Type v) :=
  ThreadTable.System (Mailbox Body) (Tid Sender) (Pc Body)

/-- The start: a new actor. -/
def initial (Body : Type u) (Sender : Type v) : State Body Sender := ⟨.empty, initialPc⟩

variable {Sender : Type v} [DecidableEq Sender]

/-- One step of the machine. -/
def step : State Body Sender → Tid Sender × Choice Body → Option (State Body Sender) :=
  ThreadTable.threadStep act

/-! ### What one step does -/

/-- The place below the calls of `SendMessage`. -/
def Pc.base : Pc Body → Pc Body
  | .sendCheck _ next => next.base
  | .sendPush _ next => next.base
  | pc => pc

/-- The branches of `act`, by the place below the calls of `SendMessage`. -/
inductive Moves (mailbox : Mailbox Body) : Pc Body → Mailbox Body → Pc Body → Prop
  | stays (pc : Pc Body) : Moves mailbox pc mailbox pc
  | stopped (pc : Pc Body) : Moves mailbox pc mailbox.stop pc
  | pushed (pc : Pc Body) (message : Option Body) : Moves mailbox pc (mailbox.push message) pc
  | entered : Moves mailbox .logic mailbox .processEntry
  | refused (stopped : mailbox.isStop = true) : Moves mailbox .processEntry mailbox .logic
  | checked : Moves mailbox .processEntry mailbox .processSwap
  | swapped : Moves mailbox .processSwap mailbox.swapQueues .processLoop
  | drained (none : mailbox.consumerQueue = []) : Moves mailbox .processLoop mailbox .logic
  | skipped (entry : Entry Body) (rest : List (Entry Body))
      (front : mailbox.consumerQueue = entry :: rest) (null : entry.runs = false) :
      Moves mailbox .processLoop mailbox.pop .processLoop
  | started (entry : Entry Body) (rest : List (Entry Body))
      (front : mailbox.consumerQueue = entry :: rest) (runs : entry.runs = true) :
      Moves mailbox .processLoop (mailbox.start entry) .processRun
  | finished : Moves mailbox .processRun mailbox.pop .processLoop

/-- **Inversion of a step.** -/
theorem act_moves {mailbox mailbox' : Mailbox Body} {pc pc' : Pc Body} {choice : Choice Body}
    (acted : act mailbox pc choice = some (mailbox', pc')) :
    Moves mailbox pc.base mailbox' pc'.base := by
  revert acted
  fun_cases act mailbox pc choice
  case case6 message next =>
    intro acted
    cases acted
    split <;> exact .stays _
  case case9 =>
    intro acted
    cases acted
    split
    · exact .refused ‹_›
    · exact .checked
  all_goals intro acted
  all_goals simp only [Option.some.injEq, Prod.mk.injEq, reduceCtorEq] at acted
  all_goals obtain ⟨rfl, rfl⟩ := acted
  all_goals try simp only [Bool.not_eq_true] at *
  all_goals first | exact .stays _ | (constructor <;> assumption)

/-! ### The invariant -/

/-- The logic thread is calling a message. -/
def isRunning : Pc Body → Bool
  | .processRun => true
  | _ => false

/-- `consumerQueue` may hold messages: `ProcessMessage` is past its swap. -/
def mayHold : Pc Body → Bool
  | .processLoop => true
  | .processRun => true
  | _ => false

/-- The queues suit the place of the logic thread. -/
structure Settled (pc : Pc Body) (mailbox : Mailbox Body) : Prop where
  accounted : Mailbox.Accounted (isRunning pc) mailbox
  drained : mayHold pc = false → mailbox.consumerQueue = []

/-- **One move keeps the accounting and the empty `consumerQueue`.** -/
theorem Settled.move {mailbox mailbox' : Mailbox Body} {pc pc' : Pc Body}
    (settled : Settled pc mailbox) (moved : Moves mailbox pc mailbox' pc') :
    Settled pc' mailbox' := by
  obtain ⟨accounted, drained⟩ := settled
  cases moved with
  | stays => exact ⟨accounted, drained⟩
  | stopped => exact ⟨accounted.stop, drained⟩
  | pushed pc message => exact ⟨accounted.push message, drained⟩
  | entered => exact ⟨accounted, fun _ => drained rfl⟩
  | refused => exact ⟨accounted, fun _ => drained rfl⟩
  | checked => exact ⟨accounted, fun _ => drained rfl⟩
  | swapped => exact ⟨accounted.swapQueues (drained rfl), fun held => by cases held⟩
  | drained none => exact ⟨accounted, fun _ => none⟩
  | skipped entry rest front null => exact ⟨accounted.skip front null, fun held => by cases held⟩
  | started entry rest front runs => exact ⟨accounted.start front runs, fun held => by cases held⟩
  | finished => exact ⟨accounted.finish, fun held => by cases held⟩

/-- What every run keeps. -/
structure Ordered (state : State Body Sender) : Prop where
  settled : Settled (state.pc .logic).base state.shared
  senders : ∀ name, (state.pc (.sender name)).base = .sender

/-- A move of another thread is a call of `SendMessage` or `Stop`; it suits the logic thread
wherever that is. -/
theorem sender_move {mailbox mailbox' : Mailbox Body} {pc' : Pc Body}
    (moved : Moves mailbox .sender mailbox' pc') (pc : Pc Body) :
    pc' = .sender ∧ Moves mailbox pc mailbox' pc := by
  cases moved with
  | stays => exact ⟨rfl, .stays pc⟩
  | stopped => exact ⟨rfl, .stopped pc⟩
  | pushed _ message => exact ⟨rfl, .pushed pc message⟩

/-- **One step keeps the invariant.** -/
theorem Ordered.step {state after : State Body Sender} {label : Tid Sender × Choice Body}
    (ordered : Ordered state) (taken : Actor.step state label = some after) : Ordered after := by
  obtain ⟨mailbox', pc', acted, rfl⟩ := threadStep_eq_some.mp taken
  have moved := act_moves acted
  cases mover : label.1 with
  | logic =>
      rw [mover] at moved
      refine ⟨?_, fun name => ?_⟩
      · simpa using ordered.settled.move moved
      · simpa using ordered.senders name
  | sender name =>
      rw [mover, ordered.senders name] at moved
      obtain ⟨stays, alike⟩ := sender_move moved (state.pc .logic).base
      refine ⟨?_, fun other => ?_⟩
      · simpa using ordered.settled.move alike
      · by_cases same : other = name
        · subst same
          simpa using stays
        · simpa [Function.update_of_ne, same] using ordered.senders other

omit [DecidableEq Sender] in
theorem ordered_initial : Ordered (initial Body Sender) where
  settled := ⟨Mailbox.accounted_empty, fun _ => rfl⟩
  senders := fun _ => rfl

/-- **Every run keeps the invariant.** -/
theorem ordered_of_reach {state : State Body Sender}
    (reached : Reach step Unguarded (initial Body Sender) state) : Ordered state :=
  reached.invariant Ordered ordered_initial fun _ _ _ ordered _ taken => ordered.step taken

/-- **Mailbox order and exactly once.** In every run the executed messages are a prefix of the
accepted messages that are not null, none is executed twice, and `consumerQueue` is empty at every
entry to `ProcessMessage`. -/
theorem executed_prefix_accepted {state : State Body Sender}
    (reached : Reach step Unguarded (initial Body Sender) state) :
    state.shared.executed <+: state.shared.accepted.filter Entry.runs ∧
      (state.shared.executed.map Entry.ticket).Nodup ∧
      (state.pc .logic = .processEntry → state.shared.consumerQueue = []) := by
  have settled := (ordered_of_reach reached).settled
  refine ⟨settled.accounted.executed_prefix, settled.accounted.executed_nodup, fun entry => ?_⟩
  refine settled.drained ?_
  rw [entry]
  rfl

/-- A message sends to its own actor while it runs; the next call of `ProcessMessage` is entered. -/
def selfSendSchedule : List (Tid Bool × Choice ℕ) :=
  [(.sender true, .send (some 7)), (.sender true, .go), (.sender true, .go),
    (.logic, .process), (.logic, .go), (.logic, .go), (.logic, .go),
    (.logic, .send (some 8)), (.logic, .go), (.sender false, .send none), (.sender false, .go),
    (.sender false, .go), (.logic, .go), (.logic, .go), (.logic, .go), (.logic, .process)]

theorem executed_prefix_selfSend :
    ∃ state, Reach step Unguarded (initial ℕ Bool) state ∧
      state.shared.accepted.map Entry.message = [some 7, none, some 8] ∧
      state.shared.executed.map Entry.message = [some 7] ∧
      state.shared.executed <+: state.shared.accepted.filter Entry.runs ∧
      state.shared.consumerQueue = [] := by
  obtain ⟨state, reached, test⟩ := exists_reach_of_run step (initial ℕ Bool) selfSendSchedule
    (fun state => decide (state.shared.accepted.map Entry.message = [some 7, none, some 8] ∧
      state.shared.executed.map Entry.message = [some 7] ∧ state.pc .logic = .processEntry))
    (by decide +kernel)
  obtain ⟨accepted, executed, entry⟩ := of_decide_eq_true test
  obtain ⟨order, -, drained⟩ := executed_prefix_accepted reached
  exact ⟨state, reached, accepted, executed, order, drained entry⟩

end MessageOrder

end ActorModelServer.Actor
