/-
**The two message queues of an actor.**

`SendMessage` appends to `storeQueue`; `ProcessMessage` swaps the queues and drains
`consumerQueue`. `Mailbox` is what the two share, with the history the results speak of: every
accepted message carries a ticket, its place in the order in which messages entered `storeQueue`.

* `Mailbox.Accounted` — the accounting: what was accepted, null messages left out, is what was
  executed, then what still waits in `consumerQueue`, then `storeQueue`. Each operation of the code
  keeps it (`Accounted.push`, `Accounted.swapQueues`, ...); the swap does because it finds
  `consumerQueue` empty.
* `Accounted.executed_prefix`, `Accounted.executed_nodup` — order, and at most once.
-/

import Mathlib.Data.List.Basic
import Mathlib.Data.List.Nodup
import Mathlib.Data.List.Range
import Mathlib.Tactic.Common

namespace ActorModelServer.Actor

universe u

section Mailbox

/-- A message with its ticket; a null `std::function` is `none`. -/
structure Entry (Body : Type u) where
  ticket : ℕ
  message : Option Body
  deriving DecidableEq, Repr

variable {Body : Type u}

/-- The message is not null. -/
def Entry.runs (entry : Entry Body) : Bool := entry.message.isSome

/-- The queues of an actor. -/
structure Mailbox (Body : Type u) where
  isStop : Bool
  storeQueue : List (Entry Body)
  consumerQueue : List (Entry Body)
  /-- Everything that entered `storeQueue`, in order. -/
  accepted : List (Entry Body)
  /-- Everything whose call has started, in order. -/
  executed : List (Entry Body)
  deriving DecidableEq

namespace Mailbox

/-- The queues of a new actor. -/
def empty : Mailbox Body := ⟨false, [], [], [], []⟩

/-- `Stop`. -/
def stop (mailbox : Mailbox Body) : Mailbox Body := { mailbox with isStop := true }

/-- `storeQueue.push` under `queueMutex`; `SendMessage` then returns true. -/
def push (mailbox : Mailbox Body) (message : Option Body) : Mailbox Body :=
  { mailbox with
    storeQueue := mailbox.storeQueue ++ [⟨mailbox.accepted.length, message⟩]
    accepted := mailbox.accepted ++ [⟨mailbox.accepted.length, message⟩] }

/-- `std::swap(consumerQueue, storeQueue)` under `queueMutex`. -/
def swapQueues (mailbox : Mailbox Body) : Mailbox Body :=
  { mailbox with
    consumerQueue := mailbox.storeQueue
    storeQueue := mailbox.consumerQueue }

/-- The call of a message starts. -/
def start (mailbox : Mailbox Body) (entry : Entry Body) : Mailbox Body :=
  { mailbox with executed := mailbox.executed ++ [entry] }

/-- `consumerQueue.pop()`. -/
def pop (mailbox : Mailbox Body) : Mailbox Body :=
  { mailbox with consumerQueue := mailbox.consumerQueue.tail }

/-- What of `consumerQueue` has not started: all of it, or all but the running front. -/
def waiting (mailbox : Mailbox Body) (running : Bool) : List (Entry Body) :=
  if running then mailbox.consumerQueue.tail else mailbox.consumerQueue

/-- **The accounting of the queues**; `running` says whether the front of `consumerQueue` is being
called. -/
structure Accounted (running : Bool) (mailbox : Mailbox Body) : Prop where
  order : mailbox.accepted.filter Entry.runs =
    mailbox.executed ++ (mailbox.waiting running).filter Entry.runs ++
      mailbox.storeQueue.filter Entry.runs
  tickets : mailbox.accepted.map Entry.ticket = List.range mailbox.accepted.length

theorem accounted_empty : Accounted false (empty : Mailbox Body) := ⟨rfl, rfl⟩

variable {mailbox : Mailbox Body} {running : Bool}

theorem Accounted.stop (accounted : Accounted running mailbox) : Accounted running mailbox.stop :=
  ⟨accounted.order, accounted.tickets⟩

theorem Accounted.push (accounted : Accounted running mailbox) (message : Option Body) :
    Accounted running (mailbox.push message) where
  order := by
    simp only [Mailbox.push, List.filter_append, accounted.order, List.append_assoc]
    rfl
  tickets := by
    simp [Mailbox.push, accounted.tickets, List.range_succ]

/-- The swap keeps the order because nothing is left in `consumerQueue`. -/
theorem Accounted.swapQueues (accounted : Accounted false mailbox)
    (drained : mailbox.consumerQueue = []) : Accounted false mailbox.swapQueues where
  order := by
    have order := accounted.order
    simp only [waiting, Bool.false_eq_true, if_false, drained, List.filter_nil,
      List.append_nil] at order
    simp only [Mailbox.swapQueues, waiting, Bool.false_eq_true, if_false, drained, List.filter_nil,
      List.append_nil]
    exact order
  tickets := accounted.tickets

/-- A null message at the front is dropped. -/
theorem Accounted.skip (accounted : Accounted false mailbox) {entry : Entry Body}
    {rest : List (Entry Body)} (front : mailbox.consumerQueue = entry :: rest)
    (null : entry.runs = false) : Accounted false mailbox.pop where
  order := by
    have order := accounted.order
    simp only [waiting, Bool.false_eq_true, if_false, front, List.filter_cons, null] at order
    simp only [Mailbox.pop, waiting, Bool.false_eq_true, if_false, front, List.tail_cons]
    exact order
  tickets := accounted.tickets

/-- The call of the front moves it from the waiting to the executed messages. -/
theorem Accounted.start (accounted : Accounted false mailbox) {entry : Entry Body}
    {rest : List (Entry Body)} (front : mailbox.consumerQueue = entry :: rest)
    (runs : entry.runs = true) : Accounted true (mailbox.start entry) where
  order := by
    have order := accounted.order
    simp only [waiting, Bool.false_eq_true, if_false, front, List.filter_cons, runs,
      if_true] at order
    simp only [Mailbox.start, waiting, if_true, front, List.tail_cons, order]
    simp
  tickets := accounted.tickets

/-- The front is popped when its call returns. -/
theorem Accounted.finish (accounted : Accounted true mailbox) : Accounted false mailbox.pop :=
  ⟨accounted.order, accounted.tickets⟩

/-- **Order**: what was executed is a prefix of what was accepted. -/
theorem Accounted.executed_prefix (accounted : Accounted running mailbox) :
    mailbox.executed <+: mailbox.accepted.filter Entry.runs := by
  rw [accounted.order, List.append_assoc]
  exact List.prefix_append _ _

/-- Tickets tell the accepted messages apart. -/
theorem Accounted.accepted_nodup (accounted : Accounted running mailbox) :
    (mailbox.accepted.map Entry.ticket).Nodup := by
  rw [accounted.tickets]
  exact List.nodup_range

/-- **At most once**: no ticket is executed twice. -/
theorem Accounted.executed_nodup (accounted : Accounted running mailbox) :
    (mailbox.executed.map Entry.ticket).Nodup :=
  accounted.accepted_nodup.sublist
    ((accounted.executed_prefix.sublist.trans List.filter_sublist).map Entry.ticket)

end Mailbox

end Mailbox

end ActorModelServer.Actor
