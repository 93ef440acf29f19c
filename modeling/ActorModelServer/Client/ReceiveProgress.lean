/-
**The receiving side of the test client gets on.**

`recv` takes eight bytes at most, the ring holds what is no packet yet, and the logic thread takes
the packets of one moment and sleeps. None of it keeps a packet back: every step of the receive
thread brings a packet whose bytes have arrived nearer to the queue (`RecvMoves.nearer`), and every
step of the logic thread brings a queued one nearer to `ProcessLogic` (`LogicMoves.nearer`).

* `eventually_processed` — in a fair run on a stream, every packet whose frame has arrived is
  processed in its place, or the client stops.
* `eventually_recvDone_iff`, `eventually_logicDone` — a client that stops ends its receive thread
  exactly when `recv` returns, and its logic thread always.
-/

import ActorModelServer.Client.ReceiveThread
import ActorModelServer.Library.Fairness

namespace ActorModelServer.ClientReceive

open ClientSend (toInt toInt_eq)
open Network (NetBufferLib NetBuffer StreamPacket)
open PacketEncoders (sizeofPointer)
open ThreadTable (threadStep_eq_some threadStep_moved enabled_of_act)
open StepRuns (Trace Enabled run exists_trace_of_run)

universe v

section Progress

variable {Name : Type v} [DecidableEq Name] {lib : NetBufferLib}
  {Encoded : List UInt8 → List UInt8 → Prop} {capacity : ℕ} {inbox inbox' : Inbox} {pc pc' : Pc}
  {packets : ℕ → StreamPacket lib Encoded} {state after : State Name}
  {label : Tid Name × Choice} {index : ℕ}

/-- The two threads go on when they can, and `recv` returns what is there. -/
structure Fair (trace : Trace (step lib capacity) (initial Name)) : Prop where
  recv : trace.Fair fun label => label.1 = .recvThread ∧ label.2 ≠ .recvFails
  logic : trace.Fair fun label => label.1 = .logicThread

/-- How many bytes the packets up to this one have. -/
def needed (packets : ℕ → StreamPacket lib Encoded) (index : ℕ) : ℕ :=
  (stream packets 0 (index + 1)).length

theorem le_needed {count : ℕ} (before : count ≤ index) :
    (stream packets 0 count).length + (packets count).frame.length ≤ needed packets index := by
  have least : (stream packets 0 (count + 1)).length ≤ needed packets index :=
    (stream_grows (Nat.succ_le_succ before)).length_le
  rw [stream_add, Nat.zero_add, List.length_append, stream_succ, List.length_append] at least
  omega

/-! ### Into the queue -/

/-- How many steps the receive thread is from its next `recv`. -/
def Pc.toRecv : Pc → ℕ
  | .enqueuing _ => 6
  | .pushing _ _ => 6
  | .making _ => 5
  | .recvHead => 4
  | .receiving => 3
  | .closing => 2
  | .stopping => 1
  | _ => 0

/-- How far a packet is from the queue: the bytes to receive, the packets to find, and the way of
the receive thread. -/
def unqueued (packets : ℕ → StreamPacket lib Encoded) (index : ℕ) (inbox : Inbox) (pc : Pc) :
    ℕ :=
  10 * (needed packets index - (inbox.arrived.length - inbox.incoming.length)) +
    5 * (index + 1 - (inbox.queued ++ pc.found).length) + pc.toRecv

/-- The packet is not in the queue yet. -/
structure Coming (packets : ℕ → StreamPacket lib Encoded) (index : ℕ) (state : State Name) :
    Prop where
  sound : Sound packets state
  arrived : needed packets index ≤ state.shared.arrived.length
  unqueued : state.shared.queued.length ≤ index
  running : state.shared.needStop = false

/-- Before a `recv` there are bytes missing. -/
theorem Streamed.missing {count : ℕ} (streamed : Streamed packets inbox .receiving count)
    (unqueued : inbox.queued.length ≤ index) :
    inbox.arrived.length - inbox.incoming.length < needed packets index := by
  have counted := streamed.count_eq
  simp only [Pc.found, List.append_nil] at counted
  have most : _ ≤ needed packets index := le_needed (counted ▸ unqueued)
  have short := streamed.short rfl
  have got := streamed.got_eq
  simp only [Pc.piece, List.append_nil] at got
  omega

/-- **A step of the receive thread brings the packet nearer to the queue.** -/
theorem RecvMoves.nearer {count : ℕ} (streamed : Streamed packets inbox pc count)
    (unqueued : inbox.queued.length ≤ index) (running : inbox.needStop = false)
    (moved : RecvMoves lib capacity inbox pc inbox' pc') :
    index < inbox'.queued.length ∨ inbox'.needStop = true ∨
      ClientReceive.unqueued packets index inbox' pc' <
        ClientReceive.unqueued packets index inbox pc := by
  cases moved with
  | ended stopped =>
      rw [running] at stopped
      cases stopped
  | looped | broken | full | enqueued | noMore | rejected | closed =>
      refine .inr (.inr ?_)
      simp only [ClientReceive.unqueued, Pc.toRecv, Pc.found]
      omega
  | returned recvSize positive most there =>
      have missing := streamed.missing unqueued
      refine .inr (.inr ?_)
      simp only [ClientReceive.unqueued, Pc.toRecv, Pc.found, List.length_drop]
      have counted := streamed.got_eq
      omega
  | decoded restSize buffer ring rest round =>
      refine .inr (.inr ?_)
      simp only [ClientReceive.unqueued, Pc.toRecv, Pc.found, List.length_append,
        List.length_singleton, List.length_nil]
      omega
  | pushed buffer restSize =>
      refine .inr (.inr ?_)
      simp only [ClientReceive.unqueued, Inbox.push, Pc.toRecv, Pc.found, List.append_nil]
      omega
  | gaveUp => exact .inr (.inl rfl)

/-- Something keeps the receive thread from `recvDone`, and gives `recv` its bytes. -/
theorem Coming.enabled (coming : Coming packets index state) :
    Enabled (step lib capacity)
      (fun label => label.1 = .recvThread ∧ label.2 ≠ .recvFails) state := by
  obtain ⟨⟨orderly, bounded, count, streamed⟩, arrived, unqueued, running⟩ := coming
  have acts : ∃ choice inbox pc, choice ≠ .recvFails ∧
      act lib capacity state.shared (state.pc .recvThread) choice = some (inbox, pc) := by
    have place := orderly.recv
    generalize state.pc .recvThread = pc at place bounded streamed
    cases pc with
    | receiving =>
        have missing := streamed.missing unqueued
        have one : 0 < 1 ∧ 1 ≤ sizeofPointer ∧ 1 ≤ state.shared.incoming.length :=
          ⟨Nat.one_pos, by decide, by omega⟩
        exact ⟨.recvReturns 1, _, _, by simp, if_pos one⟩
    | enqueuing received =>
        by_cases full : capacity - state.shared.recvRingBuffer.length < received.length
        · exact ⟨.go, _, _, by simp, if_pos full⟩
        · exact ⟨.go, _, _, by simp, if_neg full⟩
    | recvDone =>
        have stopped : state.shared.needStop = true := bounded
        rw [running] at stopped
        cases stopped
    | recvHead | making | pushing | closing | stopping => exact ⟨.go, _, _, by simp, rfl⟩
    | _ => cases place
  obtain ⟨choice, inbox, pc, normal, acted⟩ := acts
  exact enabled_of_act .recvThread choice ⟨rfl, normal⟩ acted

/-! ### Out of the queue -/

/-- How many steps the logic thread is from its next `ProcessLogic`. -/
def Pc.toProcess : Pc → ℕ
  | .freeing _ _ => 7
  | .popLoop 0 => 6
  | .sleeping => 5
  | .logicHead => 4
  | .takeSize => 3
  | .popLoop (_ + 1) => 2
  | .processing _ _ => 1
  | _ => 0

/-- How far a queued packet is from `ProcessLogic`. -/
def unprocessed (index : ℕ) (inbox : Inbox) (pc : Pc) : ℕ :=
  8 * (index + 1 - inbox.processed.length) + pc.toProcess

/-- The packet is in the queue, and not processed yet. -/
structure Waiting (index : ℕ) (state : State Name) : Prop where
  orderly : Orderly state
  queued : index < state.shared.queued.length
  unprocessed : state.shared.processed.length ≤ index
  running : state.shared.needStop = false

/-- **A step of the logic thread brings the packet nearer to `ProcessLogic`.** -/
theorem LogicMoves.nearer (ordered : Ordered inbox pc) (queued : index < inbox.queued.length)
    (unprocessed : inbox.processed.length ≤ index) (running : inbox.needStop = false)
    (small : inbox.recvBufferQueue.length < 2 ^ 31) (moved : LogicMoves inbox pc inbox' pc') :
    ClientReceive.unprocessed index inbox' pc' < ClientReceive.unprocessed index inbox pc := by
  cases moved with
  | ended stopped =>
      rw [running] at stopped
      cases stopped
  | overrun count none =>
      have enough := ordered.enough
      rw [none] at enough
      exact absurd enough (Nat.not_succ_le_zero count)
  | sized =>
      -- the packet is in the queue, so the count is not zero
      have owned := congrArg List.length ordered.queued
      have handed := congrArg List.length ordered.processed
      simp only [Pc.held, Pc.handed, List.append_nil, List.length_append] at owned handed
      obtain ⟨more, counted⟩ : ∃ more, inbox.recvBufferQueue.length = more + 1 :=
        ⟨inbox.recvBufferQueue.length - 1, by omega⟩
      rw [toInt_eq small, counted]
      simp [ClientReceive.unprocessed, Pc.toProcess]
  | processed buffer count =>
      simp only [ClientReceive.unprocessed, Inbox.process, Pc.toProcess, List.length_append,
        List.length_singleton]
      omega
  | freed buffer count =>
      cases count <;> simp [ClientReceive.unprocessed, Inbox.free, Pc.toProcess]
  | looped | drained | popped | slept => simp [ClientReceive.unprocessed, Pc.toProcess]

/-- Nothing keeps the logic thread. -/
theorem Ordered.acts (ordered : Ordered inbox pc) (unfinished : pc ≠ .logicDone) :
    ∃ inbox' pc', act lib capacity inbox pc .go = some (inbox', pc') := by
  cases pc with
  | popLoop count =>
      cases count with
      | zero => exact ⟨_, _, rfl⟩
      | succ count =>
          cases front : inbox.recvBufferQueue with
          | nil => exact ⟨inbox, .undefined, by simp [act, front]⟩
          | cons buffer rest =>
              exact ⟨{ inbox with recvBufferQueue := rest }, .processing buffer count,
                by simp [act, front]⟩
  | logicDone => exact absurd rfl unfinished
  | undefined => exact absurd rfl ordered.defined
  | logicHead | takeSize | processing | freeing | sleeping => exact ⟨_, _, rfl⟩
  | _ => cases ordered.place

theorem logic_enabled (ordered : Ordered state.shared (state.pc .logicThread))
    (unfinished : state.pc .logicThread ≠ .logicDone) :
    Enabled (step lib capacity) (fun label => label.1 = .logicThread) state := by
  obtain ⟨inbox, pc, acted⟩ := ordered.acts unfinished
  exact enabled_of_act .logicThread .go rfl acted

/-! ### The whole way -/

section Traces

variable {trace : Trace (step lib capacity) (initial Name)} {time : ℕ}

theorem sound_always (lawful : lib.Lawful Encoded)
    (room : lib.headerSize + lib.defaultSize + sizeofPointer ≤ capacity)
    (genuine : ∀ time, Genuine packets (trace.state time) (trace.label time)) (time : ℕ) :
    Sound packets (trace.state time) := by
  induction time with
  | zero =>
      rw [trace.begins]
      exact sound_initial lawful
  | succ time ih => exact ih.step lawful room (genuine time) (trace.steps time)

/-- **The packet is queued**, or the client stops. -/
theorem eventually_queued (lawful : lib.Lawful Encoded)
    (room : lib.headerSize + lib.defaultSize + sizeofPointer ≤ capacity) (fair : Fair trace)
    (genuine : ∀ time, Genuine packets (trace.state time) (trace.label time))
    (arrived : needed packets index ≤ (trace.state time).shared.arrived.length) :
    trace.Later time fun state =>
      index < state.shared.queued.length ∨ state.shared.needStop = true := by
  by_cases goal : index < (trace.state time).shared.queued.length ∨
      (trace.state time).shared.needStop = true
  · exact .now goal
  obtain ⟨unqueued, running⟩ := not_or.mp goal
  refine Trace.later_of_descent fair.recv
    (fun state => ClientReceive.unqueued packets index state.shared (state.pc .recvThread))
    (Coming packets index) ⟨sound_always lawful room genuine time, arrived,
      Nat.not_lt.mp unqueued, by simpa using running⟩
    (fun later _ coming => coming.enabled) ?_
  intro later _ coming
  by_cases goal : index < (trace.state (later + 1)).shared.queued.length ∨
      (trace.state (later + 1)).shared.needStop = true
  · exact .inl goal
  obtain ⟨unqueued', running'⟩ := not_or.mp goal
  obtain ⟨sound, arrived, unqueued, running⟩ := coming
  have sound' := sound.step lawful room (genuine later) (trace.steps later)
  obtain ⟨count, streamed⟩ := sound.streamed
  refine .inr ?_
  rcases step_cases sound.orderly (trace.steps later) with
    ⟨⟨name, own⟩, moved, recv, -⟩ | ⟨own, moved, -⟩ | ⟨own, moved, recv, -⟩
  · obtain ⟨bytes, incoming, more⟩ := moved.leaves.arrives
    refine ⟨⟨sound', ?_, Nat.not_lt.mp unqueued', by simpa using running'⟩, ?_, fun kind => ?_⟩
    · rw [more, List.length_append]
      omega
    · simp only [ClientReceive.unqueued, recv, moved.leaves.queued, incoming, more,
        List.length_append]
      omega
    · rw [own] at kind
      cases kind.1
  · have lower := (moved.nearer streamed unqueued running).resolve_left unqueued'
    have lower := lower.resolve_left running'
    refine ⟨⟨sound', ?_, Nat.not_lt.mp unqueued', by simpa using running'⟩, lower.le,
      fun _ => lower⟩
    rw [moved.arrived]
    exact arrived
  · refine ⟨⟨sound', ?_, Nat.not_lt.mp unqueued', by simpa using running'⟩, ?_, fun kind => ?_⟩
    · rw [moved.arrived]
      exact arrived
    · obtain ⟨bytes, incoming, more⟩ := moved.leaves.arrives
      simp only [ClientReceive.unqueued, recv, moved.leaves.queued, incoming, more,
        List.length_append]
      omega
    · rw [own] at kind
      cases kind.1

/-- The packet was processed in its place. -/
def Processed (packet : StreamPacket lib Encoded) (index : ℕ) (state : State Name) : Prop :=
  ∃ buffer, state.shared.processed[index]? = some buffer ∧ buffer.unread = packet.payload

/-- From the queue to `ProcessLogic`. -/
theorem eventually_taken (fair : Fair trace)
    (orderly : ∀ time, Orderly (trace.state time))
    (small : ∀ time, (trace.state time).shared.recvBufferQueue.length < 2 ^ 31)
    (queued : index < (trace.state time).shared.queued.length) :
    trace.Later time fun state =>
      index < state.shared.processed.length ∨ state.shared.needStop = true := by
  by_cases goal : index < (trace.state time).shared.processed.length ∨
      (trace.state time).shared.needStop = true
  · exact .now goal
  obtain ⟨unprocessed, running⟩ := not_or.mp goal
  refine Trace.later_of_descent fair.logic
    (fun state => ClientReceive.unprocessed index state.shared (state.pc .logicThread))
    (Waiting index)
    ⟨orderly time, queued, Nat.not_lt.mp unprocessed, by simpa using running⟩ ?_ ?_
  · intro later _ waiting
    refine logic_enabled waiting.orderly.logic fun done => ?_
    have stopped := waiting.orderly.logic.stopped done
    rw [waiting.running] at stopped
    cases stopped
  intro later _ waiting
  by_cases goal : index < (trace.state (later + 1)).shared.processed.length ∨
      (trace.state (later + 1)).shared.needStop = true
  · exact .inl goal
  obtain ⟨unprocessed', running'⟩ := not_or.mp goal
  obtain ⟨-, queued, unprocessed, running⟩ := waiting
  have runs : (trace.state (later + 1)).shared.needStop = false := by simpa using running'
  -- who is not the logic thread only appends to the queue
  have stays (grows : Grows (trace.state later).shared (trace.state (later + 1)).shared)
      (logic : (trace.state (later + 1)).pc .logicThread = (trace.state later).pc .logicThread) :
      Waiting index (trace.state (later + 1)) ∧
        ClientReceive.unprocessed index (trace.state (later + 1)).shared
            ((trace.state (later + 1)).pc .logicThread) =
          ClientReceive.unprocessed index (trace.state later).shared
            ((trace.state later).pc .logicThread) := by
    obtain ⟨added, -, more⟩ := grows.grown
    refine ⟨⟨orderly _, ?_, Nat.not_lt.mp unprocessed', runs⟩, ?_⟩
    · rw [more, List.length_append]
      omega
    · rw [ClientReceive.unprocessed, logic, grows.processed]
      rfl
  refine .inr ?_
  rcases step_cases (orderly later) (trace.steps later) with
    ⟨⟨name, own⟩, moved, -, logic, -⟩ | ⟨own, moved, logic, -⟩ | ⟨-, moved, -⟩
  · obtain ⟨waiting, same⟩ := stays moved.grows logic
    refine ⟨waiting, same.le, fun kind => ?_⟩
    rw [own] at kind
    cases kind
  · obtain ⟨waiting, same⟩ := stays moved.grows logic
    refine ⟨waiting, same.le, fun kind => ?_⟩
    rw [own] at kind
    cases kind
  · have lower := moved.nearer (orderly later).logic queued unprocessed running (small later)
    refine ⟨⟨orderly _, ?_, Nat.not_lt.mp unprocessed', runs⟩, lower.le, fun _ => lower⟩
    rw [moved.leaves.queued]
    exact queued

/-- **Every packet is processed**: in every fair run of the two threads on a stream, whatever the
pieces, a packet whose frame has arrived is processed in its place in the end, or the client
stops. -/
theorem eventually_processed (lawful : lib.Lawful Encoded)
    (room : lib.headerSize + lib.defaultSize + sizeofPointer ≤ capacity) (fair : Fair trace)
    (genuine : ∀ time, Genuine packets (trace.state time) (trace.label time))
    (small : ∀ time, (trace.state time).shared.recvBufferQueue.length < 2 ^ 31)
    (arrived : needed packets index ≤ (trace.state time).shared.arrived.length) :
    trace.Later time fun state =>
      Processed (packets index) index state ∨ state.shared.needStop = true := by
  have sound := sound_always lawful room genuine
  refine (eventually_queued lawful room fair genuine arrived).trans fun middle _ => ?_
  rintro (queued | stopped)
  · refine (eventually_taken fair (fun time => (sound time).orderly) small queued).trans
      fun last _ => ?_
    rintro (taken | stopped)
    · refine .now (.inl ?_)
      have received := (sound last).received
      obtain ⟨buffer, there⟩ :
          ∃ buffer, (trace.state last).shared.processed[index]? = some buffer :=
        ⟨_, List.getElem?_eq_getElem taken⟩
      refine ⟨buffer, there, ?_⟩
      obtain ⟨rest, whole⟩ := received.order
      have queue : (trace.state last).shared.queued[index]? = some buffer := by
        rw [← whole, List.getElem?_append_left taken, there]
      have most : index < (trace.state last).shared.queued.length := by
        rw [← whole, List.length_append]
        omega
      have payload := congrArg (fun list => list[index]?) received.queued
      simp only [List.getElem?_map, queue, Option.map_some, payloads,
        List.getElem?_range most] at payload
      exact Option.some.inj payload
    · exact .now (.inr stopped)
  · exact .now (.inr stopped)

end Traces

/-! ### The threads end -/

section Ends

variable {trace : Trace (step lib capacity) (initial Name)} {time : ℕ}

theorem orderly_always (trace : Trace (step lib capacity) (initial Name)) (time : ℕ) :
    Orderly (trace.state time) :=
  trace.always orderly_initial (fun _ _ _ orderly taken => orderly.step taken) time

theorem needStop_lasts (stopped : (trace.state time).shared.needStop = true) :
    ∀ later, time ≤ later → (trace.state later).shared.needStop = true := by
  refine Trace.lasts (fun state : State Name => state.shared.needStop = true) stopped ?_
  intro later _ stopped
  rcases step_cases (orderly_always trace later) (trace.steps later) with
    ⟨-, moved, -⟩ | ⟨-, moved, -⟩ | ⟨-, moved, -⟩
  · exact moved.grows.stops stopped
  · exact moved.grows.stops stopped
  · exact moved.leaves.stops stopped

/-- How far the receive thread is from its end, outside of `recv`. -/
def Pc.toRecvEnd (inbox : Inbox) : Pc → ℕ
  | .enqueuing received => 2 * (inbox.recvRingBuffer ++ received).length + 5
  | .pushing _ restSize => 2 * restSize + 5
  | .making restSize => 2 * restSize + 4
  | .closing => 3
  | .stopping => 2
  | .recvHead => 1
  | _ => 0

/-- Once `needStop` is set, a step outside of `recv` brings the receive thread nearer to its
end. -/
theorem RecvMoves.ends (stopped : inbox.needStop = true) (outside : 0 < pc.toRecvEnd inbox)
    (moved : RecvMoves lib capacity inbox pc inbox' pc') :
    pc' = .recvDone ∨ 0 < pc'.toRecvEnd inbox' ∧ pc'.toRecvEnd inbox' < pc.toRecvEnd inbox := by
  cases moved with
  | ended => exact .inl rfl
  | looped running =>
      rw [stopped] at running
      cases running
  | returned | broken => exact absurd outside (Nat.lt_irrefl 0)
  | decoded restSize buffer ring rest round =>
      have less := makePacket_lt round
      refine .inr ⟨Nat.succ_pos _, ?_⟩
      simp only [Pc.toRecvEnd]
      omega
  | rejected restSize ring round =>
      refine .inr ⟨Nat.succ_pos _, ?_⟩
      simp only [Pc.toRecvEnd]
      omega
  | full | enqueued | noMore | pushed | closed | gaveUp =>
      refine .inr ⟨Nat.succ_pos _, ?_⟩
      simp only [Pc.toRecvEnd]
      omega

/-- How far the logic thread is from its end, behind the size of the queue. -/
def Pc.toLogicEnd : Pc → ℕ
  | .processing _ count => 3 * count + 5
  | .freeing _ count => 3 * count + 4
  | .popLoop count => 3 * count + 3
  | .sleeping => 2
  | .logicHead => 1
  | _ => 0

theorem LogicMoves.ends (ordered : Ordered inbox pc) (stopped : inbox.needStop = true)
    (behind : 0 < pc.toLogicEnd) (moved : LogicMoves inbox pc inbox' pc') :
    pc' = .logicDone ∨ 0 < pc'.toLogicEnd ∧ pc'.toLogicEnd < pc.toLogicEnd := by
  cases moved with
  | ended => exact .inl rfl
  | looped running =>
      rw [stopped] at running
      cases running
  | sized => exact absurd behind (Nat.lt_irrefl 0)
  | overrun count none =>
      have enough := ordered.enough
      rw [none] at enough
      exact absurd enough (Nat.not_succ_le_zero count)
  | drained | popped | processed | freed | slept =>
      refine .inr ⟨Nat.succ_pos _, ?_⟩
      simp only [Pc.toLogicEnd]
      omega

end Ends

/-! ### A fair run -/

section FairRuns

/-- Something else happens. -/
theorem step_other {name : Name} (idle : state.pc (.outside name) = .outside) :
    step lib capacity state (.outside name, .other) = some state := by
  refine threadStep_eq_some.mpr ⟨state.shared, .outside, ?_, ?_⟩
  · show act lib capacity state.shared (state.pc (.outside name)) .other = _
    rw [idle]
    rfl
  · rw [← idle, Function.update_eq_self]

/-- The receive thread waits for bytes, and the logic thread is done. -/
def Resting (state : State Name) : Prop :=
  state.pc .recvThread = .receiving ∧ state.shared.incoming = [] ∧
    state.shared.peerClosed = false ∧ state.pc .logicThread = .logicDone

instance (state : State Name) : Decidable (Resting state) :=
  inferInstanceAs (Decidable (_ ∧ _ ∧ _ ∧ _))

theorem fair_of_resting {trace : Trace (step lib capacity) (initial Name)} {bound : ℕ}
    {last : State Name} (rests : ∀ time, bound ≤ time → trace.state time = last)
    (resting : Resting last) : Fair trace := by
  obtain ⟨waits, nothing, opened, done⟩ := resting
  constructor
  · refine Trace.fair_of_settled bound fun later order => ?_
    rintro ⟨⟨thread, choice⟩, next, ⟨rfl, normal⟩, taken⟩
    obtain ⟨acted, -⟩ := threadStep_moved taken
    rw [rests later order, waits] at acted
    cases choice with
    | recvReturns recvSize =>
        simp only [act, nothing, List.length_nil] at acted
        rw [if_neg (by omega)] at acted
        cases acted
    | recvCloses => simp [act, opened] at acted
    | recvFails => exact normal rfl
    | _ => cases acted
  · refine Trace.fair_of_settled bound fun later order => ?_
    rintro ⟨⟨thread, choice⟩, next, rfl, taken⟩
    obtain ⟨acted, -⟩ := threadStep_moved taken
    rw [rests later order, done] at acted
    cases choice <;> cases acted

/-- One packet arrives and is processed, and the client is stopped behind it. -/
def processedSchedule : List (Tid Unit × Choice) :=
  [(.outside (), .serverSends Network.tick.frame), (.recvThread, .go),
   (.recvThread, .recvReturns 6), (.recvThread, .go), (.recvThread, .go), (.recvThread, .go),
   (.recvThread, .go), (.recvThread, .go), (.logicThread, .go), (.logicThread, .go),
   (.logicThread, .go), (.logicThread, .go), (.logicThread, .go), (.logicThread, .go),
   (.outside (), .setNeedStop), (.logicThread, .go), (.logicThread, .go)]

theorem eventually_processed_tick :
    ∃ trace : Trace (step (Network.xorLib 512) 1024) (initial Unit), Fair trace ∧
      (trace.state 1).shared.processed = [] ∧
      trace.Later 1 fun state =>
        Processed Network.tick 0 state ∨ state.shared.needStop = true := by
  obtain ⟨last, executed, rests⟩ := Option.map_eq_some_iff.mp
    (show (run (step (Network.xorLib 512) 1024) (initial Unit) processedSchedule).map
      (fun state => decide (Resting state ∧ state.pc (.outside ()) = .outside)) = some true by
        decide)
  obtain ⟨resting, idle⟩ := of_decide_eq_true rests
  obtain ⟨trace, fronts, labels, ends⟩ :=
    exists_trace_of_run processedSchedule executed (step_other idle)
  have fair : Fair trace := fair_of_resting (fun time order => (ends time order).1) resting
  have whole : ∀ time : Fin processedSchedule.length,
      ((run (step (Network.xorLib 512) 1024) (initial Unit) (processedSchedule.take time)).all
        fun state => decide (Genuine (fun _ => Network.tick) state processedSchedule[time] ∧
          state.shared.recvBufferQueue.length ≤ 1)) = true := by decide
  have front (time : ℕ) (inside : time < processedSchedule.length) :
      Genuine (fun _ => Network.tick) (trace.state time) (trace.label time) ∧
        (trace.state time).shared.recvBufferQueue.length ≤ 1 := by
    have step := whole ⟨time, inside⟩
    rw [fronts time] at step
    rw [labels time _ (List.getElem?_eq_getElem inside)]
    simpa using step
  have behind : last.shared.recvBufferQueue = [] := by
    have empty : (run (step (Network.xorLib 512) 1024) (initial Unit) processedSchedule).map
        (fun state => state.shared.recvBufferQueue) = some [] := by decide
    rw [executed] at empty
    exact Option.some.inj empty
  have genuine (time : ℕ) :
      Genuine (fun _ => Network.tick) (trace.state time) (trace.label time) := by
    rcases Nat.lt_or_ge time processedSchedule.length with inside | behind
    · exact (front time inside).1
    · rw [(ends time behind).2]
      trivial
  have small (time : ℕ) : (trace.state time).shared.recvBufferQueue.length < 2 ^ 31 := by
    rcases Nat.lt_or_ge time processedSchedule.length with inside | beyond
    · have least := (front time inside).2
      omega
    · rw [(ends time beyond).1, behind]
      exact Nat.two_pow_pos 31
  have first : (run (step (Network.xorLib 512) 1024) (initial Unit)
      (processedSchedule.take 1)).map (fun state => (state.shared.arrived.length,
        state.shared.processed)) = some (6, []) := by decide
  rw [fronts 1] at first
  obtain ⟨arrived, unprocessed⟩ := Prod.mk.inj (Option.some.inj first)
  exact ⟨trace, fair, unprocessed, eventually_processed (Network.xorLib_lawful 512) (by decide)
    fair genuine small (by rw [arrived]; decide)⟩

end FairRuns

end Progress

end ActorModelServer.ClientReceive
