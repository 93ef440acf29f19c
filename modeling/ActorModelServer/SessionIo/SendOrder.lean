/-
**Send order: what is posted is what was enqueued, in order and once.**

A run in which every `WSASend` is accepted and every send completes, on a session that stays live.
Whoever has the token of `ioMode` knows how far the queue has been read (`Phase`): before it
dequeues, what was posted and what waits is what was enqueued, and `bufferCount` is zero; while it
dequeues, the buffers it carries are in between; and `bufferCount` counts the last posted list from
the addition until the completion handler clears it. The other threads only append to the queue
(`Extends`).

* `Orderly.step` — a step keeps this. The mover without the token (`tokenless_move`) and the mover
  with it (`token_move`) are separate cases.
* `sends_in_order` — order, batch sizes, one send at a time, and `bufferCount`.
-/

import ActorModelServer.SessionIo.SendMode

namespace ActorModelServer.SessionIo

open ThreadTable (tally threadStep_eq_some tally_eq_step weight_le_tally add_weight_le_tally)
open StepRuns (Reach exists_reach_of_runGuarded)

universe u

section SendOrder

variable {Buffer : Type u} {Io : Type}

/-! ### What the holder of the token knows -/

/-- What was posted, then what is carried, then what waits, is what was enqueued. -/
def InOrder (session : Session Buffer) (carried : List Buffer) : Prop :=
  session.posted.flatten ++ carried ++ session.sendQueue = session.enqueued

/-- A legal number of buffers for one `WSASend`. -/
def Batch (count : ℕ) : Prop := 1 ≤ count ∧ count ≤ oneSendWsabufMax

/-- Nothing is carried or counted. -/
def Cleared (session : Session Buffer) : Prop := InOrder session [] ∧ session.bufferCount = 0

/-- Nothing is carried, and `bufferCount` is the size of the last list posted. -/
def CountsLast (session : Session Buffer) : Prop :=
  InOrder session [] ∧ ∃ earlier last, session.posted = earlier ++ [last] ∧
    session.bufferCount = last.length

/-- **What a thread with the token knows** at each place, along its call. -/
def Phase (session : Session Buffer) : Pc Buffer → Prop
  | .ioFind .send _ => CountsLast session
  | .freeSent _ => CountsLast session
  | .storeNoneSending => Cleared session
  | .recvIncrease next => Phase session next
  | .wsaRecv next => Phase session next
  | .decrease next => Phase session next
  | .releaseSession next => Phase session next
  | .doSendReturn next => Phase session next
  | .casAcquire .noneSending next => Phase session next
  | .casAcquire .sending next => Cleared session ∧ Phase session next
  | .getRestSize _ next => Cleared session ∧ Phase session next
  | .casRelease _ next => Cleared session ∧ Phase session next
  | .dequeue index restSize buffers next =>
      (InOrder session buffers ∧ session.bufferCount = 0 ∧ buffers.length = index ∧
        index ≤ restSize ∧ Batch restSize ∧ restSize ≤ index + session.sendQueue.length) ∧
          Phase session next
  | .addBufferCount restSize buffers next =>
      (InOrder session buffers ∧ session.bufferCount = 0 ∧ buffers.length = restSize ∧
        Batch restSize) ∧ Phase session next
  | .sendIncrease buffers next =>
      (InOrder session buffers ∧ session.bufferCount = buffers.length ∧ Batch buffers.length) ∧
        Phase session next
  | .wsaSend buffers next =>
      (InOrder session buffers ∧ session.bufferCount = buffers.length ∧ Batch buffers.length) ∧
        Phase session next
  | _ => True

/-- Without the token there is nothing to know. -/
theorem phase_of_tokenless (session : Session Buffer) {pc : Pc Buffer}
    (tokenless : sendToken pc = 0) : Phase session pc := by
  unfold sendToken at tokenless
  induction pc with
  | recvIncrease next ih | wsaRecv next ih | decrease next ih | releaseSession next ih
  | doSendReturn next ih =>
      exact ih (by simpa [Pc.weigh, sendTokenAt] using tokenless)
  | casAcquire expected next ih =>
      cases expected with
      | noneSending => exact ih (by simpa [Pc.weigh, sendTokenAt] using tokenless)
      | sending => simp [Pc.weigh, sendTokenAt] at tokenless
  | ioFind kind result =>
      cases kind with
      | recv => trivial
      | send => simp [Pc.weigh, sendTokenAt] at tokenless
  | getRestSize | casRelease | dequeue | addBufferCount | sendIncrease | wsaSend | freeSent
  | storeNoneSending => simp [Pc.weigh, sendTokenAt] at tokenless
  | _ => trivial

/-! ### What the other threads do -/

/-- The queue may have grown; nothing else of the send side has changed. -/
structure Extends (session session' : Session Buffer) : Prop where
  posted : session'.posted = session.posted
  bufferCount : session'.bufferCount = session.bufferCount
  grown : ∃ added, session'.sendQueue = session.sendQueue ++ added ∧
    session'.enqueued = session.enqueued ++ added

/-- Whoever has the token knows the order. -/
theorem phase_inOrder {session : Session Buffer} {pc : Pc Buffer} {goal : Prop}
    (holds : sendToken pc ≠ 0) (phase : Phase session pc)
    (known : ∀ carried, InOrder session carried → goal) : goal := by
  unfold sendToken at holds
  induction pc with
  | recvIncrease next ih | wsaRecv next ih | decrease next ih | releaseSession next ih
  | doSendReturn next ih =>
      exact ih (by simpa [Pc.weigh, sendTokenAt] using holds) phase
  | casAcquire expected next ih =>
      cases expected with
      | noneSending => exact ih (by simpa [Pc.weigh, sendTokenAt] using holds) phase
      | sending => exact known _ phase.1.1
  | ioFind kind result =>
      cases kind with
      | recv => exact absurd rfl holds
      | send => exact known _ phase.1
  | getRestSize | casRelease | dequeue | addBufferCount | sendIncrease | wsaSend =>
      exact known _ phase.1.1
  | freeSent | storeNoneSending => exact known _ phase.1
  | _ => exact absurd rfl holds

/-- Outside the send functions the token is with a completion: the last list counts. -/
theorem phase_countsLast {session : Session Buffer} {pc : Pc Buffer}
    (holds : sendToken pc ≠ 0) (outside : insideSend pc = false) (phase : Phase session pc) :
    CountsLast session := by
  unfold sendToken at holds
  induction pc with
  | recvIncrease next ih | wsaRecv next ih | decrease next ih | releaseSession next ih =>
      exact ih (by simpa [Pc.weigh, sendTokenAt] using holds) outside phase
  | ioFind kind result =>
      cases kind with
      | recv => exact absurd rfl holds
      | send => exact phase
  | casAcquire | getRestSize | casRelease | dequeue | addBufferCount | sendIncrease | wsaSend
  | doSendReturn | freeSent | storeNoneSending => cases outside
  | _ => exact absurd rfl holds

section Extends

variable {session session' : Session Buffer}

theorem Extends.of_eq (posted : session'.posted = session.posted)
    (bufferCount : session'.bufferCount = session.bufferCount)
    (sendQueue : session'.sendQueue = session.sendQueue)
    (enqueued : session'.enqueued = session.enqueued) : Extends session session' :=
  ⟨posted, bufferCount, [], by rw [sendQueue, List.append_nil], by rw [enqueued, List.append_nil]⟩

theorem Extends.inOrder (extends' : Extends session session') {carried : List Buffer}
    (ordered : InOrder session carried) : InOrder session' carried := by
  obtain ⟨added, queue, enqueued⟩ := extends'.grown
  unfold InOrder at ordered ⊢
  rw [extends'.posted, queue, enqueued, ← ordered, List.append_assoc _ session.sendQueue]

theorem Extends.cleared (extends' : Extends session session') (cleared : Cleared session) :
    Cleared session' :=
  ⟨extends'.inOrder cleared.1, extends'.bufferCount.trans cleared.2⟩

theorem Extends.countsLast (extends' : Extends session session') (counts : CountsLast session) :
    CountsLast session' := by
  obtain ⟨ordered, earlier, last, posted, count⟩ := counts
  exact ⟨extends'.inOrder ordered, earlier, last, extends'.posted.trans posted,
    extends'.bufferCount.trans count⟩

/-- What a thread knows outlives the steps of the others. -/
theorem Extends.phase (extends' : Extends session session') {pc : Pc Buffer}
    (phase : Phase session pc) : Phase session' pc := by
  have longer : session.sendQueue.length ≤ session'.sendQueue.length := by
    obtain ⟨added, queue, -⟩ := extends'.grown
    rw [queue, List.length_append]
    omega
  induction pc with
  | recvIncrease next ih | wsaRecv next ih | decrease next ih | releaseSession next ih
  | doSendReturn next ih => exact ih phase
  | casAcquire expected next ih =>
      cases expected with
      | noneSending => exact ih phase
      | sending => exact ⟨extends'.cleared phase.1, ih phase.2⟩
  | getRestSize expected next ih | casRelease expected next ih =>
      exact ⟨extends'.cleared phase.1, ih phase.2⟩
  | ioFind kind result =>
      cases kind with
      | recv => trivial
      | send => exact extends'.countsLast phase
  | freeSent index => exact extends'.countsLast phase
  | storeNoneSending => exact extends'.cleared phase
  | dequeue index restSize buffers next ih =>
      obtain ⟨⟨ordered, count, carried, more, batch, enough⟩, rest⟩ := phase
      exact ⟨⟨extends'.inOrder ordered, extends'.bufferCount.trans count, carried, more, batch,
        by omega⟩, ih rest⟩
  | addBufferCount restSize buffers next ih =>
      obtain ⟨⟨ordered, count, carried, batch⟩, rest⟩ := phase
      exact ⟨⟨extends'.inOrder ordered, extends'.bufferCount.trans count, carried, batch⟩, ih rest⟩
  | sendIncrease buffers next ih | wsaSend buffers next ih =>
      obtain ⟨⟨ordered, count, batch⟩, rest⟩ := phase
      exact ⟨⟨extends'.inOrder ordered, extends'.bufferCount.trans count, batch⟩, ih rest⟩
  | _ => trivial

theorem phase_of_eq {pc : Pc Buffer} (phase : Phase session pc)
    (posted : session'.posted = session.posted)
    (bufferCount : session'.bufferCount = session.bufferCount)
    (sendQueue : session'.sendQueue = session.sendQueue)
    (enqueued : session'.enqueued = session.enqueued) : Phase session' pc :=
  (Extends.of_eq posted bufferCount sendQueue enqueued).phase phase

end Extends

/-! ### What a step does -/

/-- The release thread disconnects the session. -/
def takesUp : Pc Buffer → Bool
  | .eraseSession => true
  | .closeSocket _ => true
  | .freeStored _ _ => true
  | .drainQueue _ => true
  | _ => false

/-- **The condition on a step**: the send succeeds, and the session stays. -/
structure LiveSend (state : State Buffer Io) (label : Tid Io × Choice Buffer) : Prop where
  succeeds : SendSucceeds state label
  live : takesUp (state.pc label.1) = false

instance [DecidableEq Buffer] (state : State Buffer Io) (label : Tid Io × Choice Buffer) :
    Decidable (LiveSend state label) :=
  decidable_of_iff (SendSucceeds state label ∧ takesUp (state.pc label.1) = false)
    ⟨fun ⟨succeeds, live⟩ => ⟨succeeds, live⟩, fun allowed => ⟨allowed.succeeds, allowed.live⟩⟩

section Move

variable {session session' : Session Buffer} {pc pc' : Pc Buffer} {choice : Choice Buffer}

/-- **A mover without the token** only appends to the queue. It gets the token from an idle session,
or from the kernel. -/
theorem tokenless_move (moved : Moves session pc choice session' pc')
    (live : takesUp pc = false) (tokenless : sendToken pc = 0)
    (idle : session.ioMode = .noneSending → Cleared session)
    (flying : 0 < session.sendOutstanding → CountsLast session) :
    Extends session session' ∧ Phase session' pc' ∧
      (session'.ioMode = .noneSending → session.ioMode = .noneSending) ∧
      (0 < session'.sendOutstanding → 0 < session.sendOutstanding) := by
  cases moved with
  | sendCompleted result outstanding =>
      exact ⟨.of_eq rfl rfl rfl rfl, flying outstanding, id, fun _ => outstanding⟩
  | acquired expected next same =>
      cases expected with
      | noneSending =>
          refine ⟨.of_eq rfl rfl rfl rfl, ⟨idle same, ?_⟩, (fun taken => by cases taken), id⟩
          exact phase_of_tokenless _ (by simpa [sendToken, Pc.weigh, sendTokenAt] using tokenless)
      | sending => simp [sendToken, Pc.weigh, sendTokenAt] at tokenless
  | packetEnqueued buffer =>
      exact ⟨⟨rfl, rfl, [buffer], rfl, rfl⟩, phase_of_tokenless _ rfl, id, id⟩
  | disconnected =>
      rw [Session.disconnect_eq]
      exact ⟨.of_eq rfl rfl rfl rfl, phase_of_tokenless _ rfl, id, id⟩
  | foundRecv found => exact ⟨.of_eq rfl rfl rfl rfl, phase_of_tokenless _ rfl, id, id⟩
  | erased | storedFreed | storedCleared | queueDrained | sweepEnded | requestServed
  | socketClosed => cases live
  | acquireFailed expected next other =>
      rw [sendToken_casAcquire] at tokenless
      refine ⟨.of_eq rfl rfl rfl rfl, phase_of_tokenless _ ?_, id, id⟩
      simp only [sendToken, Pc.weigh, sendTokenAt] at tokenless ⊢
      omega
  | sentFreed | sentCleared | modeStored | restEmpty | restFound | modeReleased | releaseFailed
  | dequeued | dequeueDone | countAdded | sendIncreased | sendPosted | sendRefused =>
      simp [sendToken, Pc.weigh, sendTokenAt] at tokenless
  | _ =>
      refine ⟨.of_eq rfl rfl rfl rfl, phase_of_tokenless _ ?_, id, id⟩
      simp_all [sendToken, Pc.weigh, sendTokenAt]

/-- The slot takes the head of a queue that is not empty. -/
theorem dequeueInto_slot {buffer : Buffer} {rest : List Buffer}
    (full : session.sendQueue = buffer :: rest) (index : ℕ) :
    (session.dequeueInto index).sendQueue = rest ∧
      ((session.dequeueInto index).sendBufferStore index).toList = [buffer] := by
  rw [Session.dequeueInto_eq]
  simp [full]

/-- **One `Dequeue`** carries the head of the queue on. -/
theorem InOrder.dequeued {carried : List Buffer} {buffer : Buffer} {rest : List Buffer}
    (ordered : InOrder session carried) (full : session.sendQueue = buffer :: rest) (index : ℕ) :
    InOrder (session.dequeueInto index)
      (carried ++ ((session.dequeueInto index).sendBufferStore index).toList) := by
  obtain ⟨queue, slot⟩ := dequeueInto_slot full index
  have posted : (session.dequeueInto index).posted = session.posted := by
    rw [session.dequeueInto_eq index]
  have enqueued : (session.dequeueInto index).enqueued = session.enqueued := by
    rw [session.dequeueInto_eq index]
  unfold InOrder at ordered ⊢
  rw [posted, enqueued, queue, slot, ← ordered, full]
  simp

/-- Under a place with the token, which is the only one, nobody has it. -/
theorem tokenless_under {place : Pc Buffer} (next : Pc Buffer)
    (above : sendToken place = 1 + sendToken next) (single : sendToken place ≤ 1) :
    sendToken next = 0 := by
  omega

/-- **The mover with the token** knows at its next place what it has to know there. When it gives
the token up, the session is idle again, or the kernel has it. -/
theorem token_move (moved : Moves session pc choice session' pc')
    (live : takesUp pc = false) (routed : looksUp pc = true → session.registered = true)
    (accepted : posts pc = true → choice = .accepted) (transferred : failsSend pc = false)
    (single : sendToken pc ≤ 1) (sending : session.ioMode = .sending)
    (none : session.sendOutstanding = 0) (phase : Phase session pc) :
    Phase session' pc' ∧ (session'.ioMode = .noneSending → Cleared session') ∧
      (0 < session'.sendOutstanding → CountsLast session') ∧
      ∀ buffers ∈ session'.posted, buffers ∈ session.posted ∨ Batch buffers.length := by
  have busy {holds : Prop} (idle : session.ioMode = .noneSending) : holds := by
    rw [sending] at idle
    cases idle
  have landed {holds : Prop} (flying : 0 < session.sendOutstanding) : holds := by
    rw [none] at flying
    exact absurd flying (Nat.lt_irrefl 0)
  cases moved with
  | foundNone kind result gone =>
      rw [routed rfl] at gone
      cases gone
  | foundDone kind result found nothing =>
      cases kind with
      | recv => exact ⟨trivial, busy, landed, fun _ => .inl⟩
      | send => cases result with
        | transferred => exact absurd rfl nothing
        | zeroBytes => cases transferred
        | failed => cases transferred
  | sendCompleted result outstanding => exact landed outstanding
  | sentCleared index last => exact ⟨⟨phase.1, rfl⟩, busy, landed, fun _ => .inl⟩
  | modeStored => exact ⟨trivial, fun _ => phase, landed, fun _ => .inl⟩
  | acquired expected next same =>
      rw [sending] at same
      subst same
      exact ⟨⟨phase.1, phase_of_eq phase.2 rfl rfl rfl rfl⟩, (fun idle => by cases idle),
        landed, fun _ => .inl⟩
  | acquireFailed expected next other =>
      cases expected with
      | noneSending => exact ⟨phase, busy, landed, fun _ => .inl⟩
      | sending => exact absurd sending other
  | restFound expected next waiting =>
      have some : 0 < session.sendQueue.length := List.length_pos_of_ne_nil waiting
      have positive : 0 < oneSendWsabufMax := by decide
      obtain ⟨cleared, rest⟩ := phase
      refine ⟨⟨⟨cleared.1, cleared.2, rfl, Nat.zero_le _, ⟨?_, ?_⟩, ?_⟩, rest⟩, busy, landed,
        fun _ => .inl⟩ <;> omega
  | modeReleased expected next same =>
      exact ⟨phase_of_eq phase.2 rfl rfl rfl rfl, fun _ => phase.1, landed,
        fun _ => .inl⟩
  | releaseFailed expected next other =>
      refine ⟨?_, busy, landed, fun _ => .inl⟩
      rw [sending]
      exact phase
  | dequeued index restSize buffers next more =>
      obtain ⟨⟨ordered, count, carried, most, batch, enough⟩, -⟩ := phase
      have tokenless := tokenless_under next rfl single
      cases full : session.sendQueue with
      | nil =>
          rw [full, List.length_nil] at enough
          omega
      | cons buffer waiting =>
          obtain ⟨queue, slot⟩ := dequeueInto_slot full index
          rw [full, List.length_cons] at enough
          have same := session.dequeueInto_eq index
          refine ⟨⟨⟨ordered.dequeued full index, ?_, ?_, more, batch, ?_⟩,
            phase_of_tokenless _ tokenless⟩, ?_, ?_, ?_⟩
          · rw [same]
            exact count
          · rw [slot, List.length_append, carried, List.length_singleton]
          · rw [queue]
            omega
          · rw [same]
            exact busy
          · rw [same]
            exact landed
          · rw [same]
            exact fun _ => .inl
  | dequeueDone index restSize buffers next last =>
      obtain ⟨⟨ordered, count, carried, most, batch, enough⟩, rest⟩ := phase
      exact ⟨⟨⟨ordered, count, by omega, batch⟩, rest⟩, busy, landed, fun _ => .inl⟩
  | countAdded restSize buffers next =>
      obtain ⟨⟨ordered, count, carried, batch⟩, -⟩ := phase
      have tokenless := tokenless_under next rfl single
      refine ⟨⟨⟨ordered, ?_, carried ▸ batch⟩, phase_of_tokenless _ tokenless⟩, busy, landed,
        fun _ => .inl⟩
      show session.bufferCount + restSize = buffers.length
      rw [count, carried, Nat.zero_add]
  | sendPosted buffers next =>
      obtain ⟨⟨ordered, count, batch⟩, -⟩ := phase
      have tokenless := tokenless_under next rfl single
      refine ⟨phase_of_tokenless _ ?_, busy, fun _ => ⟨?_, session.posted, buffers, rfl, count⟩, ?_⟩
      · simpa [sendToken, Pc.weigh, sendTokenAt] using tokenless
      · unfold InOrder at ordered ⊢
        simpa using ordered
      · intro list member
        rcases List.mem_append.mp member with earlier | now
        · exact .inl earlier
        · rw [List.mem_singleton.mp now]
          exact .inr batch
  | sendRefused buffers next => cases accepted rfl
  | packetEnqueued buffer => exact ⟨trivial, busy, landed, fun _ => .inl⟩
  | disconnected =>
      rw [Session.disconnect_eq]
      exact ⟨trivial, busy, landed, fun _ => .inl⟩
  | erased | storedFreed | storedCleared | queueDrained | sweepEnded | requestServed
  | socketClosed => cases live
  | _ => exact ⟨phase_of_eq phase rfl rfl rfl rfl, busy, landed, fun _ => .inl⟩

end Move

/-! ### Runs -/

variable [Fintype Io]

/-- What a run of successful sends keeps: the token is somewhere, and whoever has it knows how far
the queue has been read. -/
structure Orderly (state : State Buffer Io) : Prop where
  balanced : (tally sendToken state.pc : ℤ) = sendBalance state.shared
  idle : state.shared.ioMode = .noneSending → Cleared state.shared
  flying : 0 < state.shared.sendOutstanding → CountsLast state.shared
  phases : ∀ thread, Phase state.shared (state.pc thread)
  batches : ∀ buffers ∈ state.shared.posted, Batch buffers.length

theorem Orderly.start {start : State Buffer Io} (unsent : Unsent start) : Orderly start where
  balanced := tally_sendToken_unsent unsent
  idle := fun _ => by
    refine ⟨?_, unsent.uncounted⟩
    unfold InOrder
    rw [unsent.unposted, unsent.empty, unsent.unenqueued]
    rfl
  flying := fun flying => by
    rw [unsent.none] at flying
    cases flying
  phases := fun thread => phase_of_tokenless _ (unsent.outside thread)
  batches := fun buffers member => by
    rw [unsent.unposted] at member
    cases member

variable [DecidableEq Io]

/-- **One step keeps the order.** Either the mover has the token, and the others know nothing, or it
has not, and what the others know outlives its step. -/
theorem Orderly.step {state after : State Buffer Io} {label : Tid Io × Choice Buffer}
    (orderly : Orderly state) (allowed : LiveSend state label)
    (taken : SessionIo.step state label = some after) : Orderly after := by
  obtain ⟨session', pc', acted, rfl⟩ := threadStep_eq_some.mp taken
  have moved := act_moves acted
  have balanced := tally_eq_step label.1 pc' orderly.balanced (sendToken_move moved
    (sending_of_token orderly.balanced) allowed.succeeds.routed allowed.succeeds.accepted
    allowed.succeeds.transferred)
  have most := sendBalance_le state.shared
  have share := weight_le_tally sendToken state.pc label.1
  have before := orderly.balanced
  have elsewhere {Holds : Pc Buffer → Prop} (own : Holds pc')
      (others : ∀ thread, thread ≠ label.1 → Holds (state.pc thread)) (thread : Tid Io) :
      Holds (Function.update state.pc label.1 pc' thread) := by
    by_cases mover : thread = label.1
    · rw [mover, Function.update_self]
      exact own
    · rw [Function.update_of_ne mover]
      exact others thread mover
  by_cases tokenless : sendToken (state.pc label.1) = 0
  · obtain ⟨extends', phase, mode, outstanding⟩ :=
      tokenless_move moved allowed.live tokenless orderly.idle orderly.flying
    refine ⟨balanced, fun idle => extends'.cleared (orderly.idle (mode idle)),
      fun flying => extends'.countsLast (orderly.flying (outstanding flying)),
      elsewhere phase fun thread _ => extends'.phase (orderly.phases thread), ?_⟩
    rw [show session'.posted = state.shared.posted from extends'.posted]
    exact orderly.batches
  · have sending := sending_of_token orderly.balanced (Nat.pos_of_ne_zero tokenless)
    rw [sendBalance, if_pos sending] at before most
    obtain ⟨phase, idle, flying, posted⟩ :=
      token_move moved allowed.live allowed.succeeds.routed allowed.succeeds.accepted
        allowed.succeeds.transferred (by omega) sending (by omega) (orderly.phases label.1)
    refine ⟨balanced, idle, flying, elsewhere phase fun thread different => ?_,
      fun buffers member => (posted buffers member).elim (orderly.batches buffers) id⟩
    have both := add_weight_le_tally sendToken state.pc different
    exact phase_of_tokenless _ (by omega)

/-- **A run of successful sends is orderly.** -/
theorem orderly_of_reach {start state : State Buffer Io} (unsent : Unsent start)
    (reached : Reach step LiveSend start state) : Orderly state :=
  reached.invariant Orderly (.start unsent) fun _ _ _ orderly allowed taken =>
    orderly.step allowed taken

omit [DecidableEq Io] in
/-- While `ioMode` is `IO_SENDING`, the token is with the kernel or with a thread. -/
theorem Orderly.holder {state : State Buffer Io} (orderly : Orderly state)
    (sending : state.shared.ioMode = .sending) :
    0 < state.shared.sendOutstanding ∨ ∃ thread, sendToken (state.pc thread) ≠ 0 := by
  by_contra nobody
  push Not at nobody
  have zero := ThreadTable.tally_eq_zero.mpr nobody.2
  have balanced := orderly.balanced
  rw [sendBalance, if_pos sending] at balanced
  omega

omit [DecidableEq Io] in
/-- What was posted is the front of what was enqueued: somebody knows the rest. -/
theorem Orderly.posted_front {state : State Buffer Io} (orderly : Orderly state) :
    state.shared.posted.flatten <+: state.shared.enqueued := by
  have known : ∀ carried, InOrder state.shared carried →
      state.shared.posted.flatten <+: state.shared.enqueued := by
    intro carried ordered
    rw [← ordered, List.append_assoc]
    exact List.prefix_append _ _
  cases mode : state.shared.ioMode with
  | noneSending => exact known _ (orderly.idle mode).1
  | sending =>
      rcases orderly.holder mode with flying | ⟨thread, holds⟩
      · exact known _ (orderly.flying flying).1
      · exact phase_inOrder holds (orderly.phases thread) known

/-- **Send order**: what was posted is a front of what was enqueued, in lists of a legal size; at
most one send is outstanding; and when no thread is inside the send functions, `bufferCount` is the
size of the outstanding list. -/
theorem sends_in_order {start state : State Buffer Io} (unsent : Unsent start)
    (reached : Reach step LiveSend start state) :
    state.shared.posted.flatten <+: state.shared.enqueued ∧
      (∀ buffers ∈ state.shared.posted, 1 ≤ buffers.length ∧
        buffers.length ≤ oneSendWsabufMax) ∧
      sendsOutstanding state ≤ 1 ∧
      (Quiescent state →
        (sendsOutstanding state = 0 → state.shared.bufferCount = 0) ∧
        (sendsOutstanding state = 1 → ∃ earlier outstanding,
          state.shared.posted = earlier ++ [outstanding] ∧
            state.shared.bufferCount = outstanding.length)) := by
  have orderly := orderly_of_reach unsent reached
  refine ⟨orderly.posted_front, orderly.batches, ?_, fun quiescent => ?_⟩
  · have less : tally reportedSend state.pc ≤ tally sendToken state.pc :=
      Finset.sum_le_sum fun thread _ => reportedSend_le (state.pc thread)
    have balanced := orderly.balanced
    unfold sendBalance at balanced
    unfold sendsOutstanding
    split at balanced <;> omega
  · rw [sendsOutstanding_of_quiescent orderly.balanced quiescent]
    by_cases sending : state.shared.ioMode = .sending
    · rw [if_pos sending]
      refine ⟨(fun none => by cases none), fun _ => ?_⟩
      rcases orderly.holder sending with flying | ⟨thread, holds⟩
      · exact (orderly.flying flying).2
      · exact (phase_countsLast holds (quiescent thread) (orderly.phases thread)).2
    · rw [if_neg sending]
      refine ⟨fun _ => ?_, (fun one => by cases one)⟩
      cases mode : state.shared.ioMode with
      | noneSending => exact (orderly.idle mode).2
      | sending => exact absurd mode sending

/-- A live session: some threads call `SendPacket`, the others wait for completions. -/
def live (sends : Tid Io → Bool) : State Buffer Io where
  shared := { initialSession Buffer with registered := true, ioCount := 1, recvOutstanding := 1 }
  pc := fun thread => if sends thread then .logicHandler else .ioWait

omit [Fintype Io] [DecidableEq Io] in
theorem unsent_live (sends : Tid Io → Bool) : Unsent (live sends : State Buffer Io) where
  idle := rfl
  none := rfl
  empty := rfl
  unenqueued := rfl
  unposted := rfl
  uncounted := rfl
  outside := fun thread => by
    show sendToken (if sends thread then .logicHandler else .ioWait : Pc Buffer) = 0
    split <;> rfl

/-- Two threads send a packet each; the second enqueues while the first is in `DoSend`, and both
packets go out with one call. -/
def batchSchedule : List (Tid Unit × Choice ℕ) :=
  List.flatten [[(.logic, .sendPacket 1), (.logic, .go), (.accept, .sendPacket 2)], goes .accept 2,
    goes .logic 6, [(.logic, .accepted), (.logic, .go)]]

theorem sends_in_order_batch :
    ∃ state, Reach step LiveSend (live fun thread => thread ≠ .io ()) state ∧
      state.shared.posted = [[1, 2]] ∧ state.shared.posted.flatten <+: state.shared.enqueued ∧
      state.shared.bufferCount = 2 := by
  obtain ⟨state, reached, test⟩ := exists_reach_of_runGuarded step LiveSend
    (live fun thread : Tid Unit => thread ≠ .io ()) batchSchedule
    (fun state => decide (Quiescent state ∧ state.shared.posted = [[1, 2]] ∧
      sendsOutstanding state = 1)) (by decide +kernel)
  obtain ⟨quiescent, posted, one⟩ := of_decide_eq_true test
  obtain ⟨front, -, -, counts⟩ := sends_in_order (unsent_live _) reached
  obtain ⟨earlier, outstanding, last, count⟩ := (counts quiescent).2 one
  rw [posted] at last
  obtain ⟨-, rfl⟩ : [] = earlier ∧ [1, 2] = outstanding := by
    have same : ([] ++ [[1, 2]] : List (List ℕ)) = earlier ++ [outstanding] := last
    obtain ⟨before, after⟩ := List.append_inj' same rfl
    exact ⟨before, List.singleton_inj.mp after⟩
  exact ⟨state, reached, posted, front, count⟩

end SendOrder

end ActorModelServer.SessionIo
