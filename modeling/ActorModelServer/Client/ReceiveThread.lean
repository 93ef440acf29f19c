/-
**How the test client receives.**

`RunRecvThread` calls `DoRecv`, which takes at most `sizeof(recvBuffer)` bytes off the connection,
enqueues them in `recvRingBuffer` and runs `MakePacketsFromRingBuffer`; every packet it finds is
pushed on `recvBufferQueue`. `RunLogicThread` takes the size of the queue and processes that many
packets, again and again. The server sends what it likes and when it likes, and `needStop` may be
set by any thread at any time.

* `making_leads` — the rounds of the loop, taken one after the other, do what
  `MakePacketsFromRingBuffer` does as a whole.
* `ring_never_full` — no bytes of the server fill a ring that has room for the longest frame.
* `received_in_order` — the packets of a stream are processed in order and once, each buffer is
  freed once, and the queue is never popped when it is empty.
-/

import ActorModelServer.Client.SendThread
import ActorModelServer.Network.ClientStream
import ActorModelServer.Network.PacketEncoders

namespace ActorModelServer.ClientReceive

open ClientSend (toInt toInt_le)
open Network (NetBufferLib NetBuffer SimpleClient StreamPacket peekHeader dequeuePayload announced
  makePackets)
open PacketEncoders (sizeofPointer)
open ThreadTable (threadStep_moved leads_of_act)
open StepRuns (Reach Leads exists_reach_of_run exists_reach_of_runGuarded)

universe v

section Model

/-- The receiving fields of a client, and what it has done. -/
structure Inbox where
  needStop : Bool
  /-- What the server has sent and `recv` has not returned. -/
  incoming : List UInt8
  peerClosed : Bool
  recvRingBuffer : List UInt8
  recvBufferQueue : List NetBuffer
  /-- Everything the server has sent. -/
  arrived : List UInt8
  /-- Everything that entered `recvBufferQueue`, that `ProcessLogic` has got, and that was freed. -/
  queued : List NetBuffer
  processed : List NetBuffer
  freed : List NetBuffer
  deriving DecidableEq

/-- What a round of the loop of `MakePacketsFromRingBuffer` finds. -/
inductive Round
  /- the loop ends, and the function returns true -/
  | noMore
  /- the function returns false, and leaves this in the ring -/
  | rejected (ring : List UInt8)
  | decoded (buffer : NetBuffer) (ring : List UInt8) (restSize : ℕ)
  deriving DecidableEq

/-- One round; the buffer of a round that finds no packet is freed in it. -/
def makePacket (lib : NetBufferLib) (ring : List UInt8) (restSize : ℕ) : Round :=
  if lib.headerSize < restSize then
    let buffer := peekHeader lib ring lib.alloc
    let payloadLength := announced buffer.serializeBuffer
    if restSize < payloadLength + lib.headerSize then
      if lib.defaultSize < payloadLength then .rejected ring else .noMore
    else
      let behind := ring.drop lib.headerSize
      let dequeuedSize := (behind.take payloadLength).length
      match lib.decode (dequeuePayload behind buffer payloadLength) with
      | none => .rejected (behind.drop payloadLength)
      | some decoded =>
          .decoded decoded (behind.drop payloadLength) (restSize - (dequeuedSize + lib.headerSize))
  else .noMore

namespace Inbox

/-- A client that starts. -/
def empty : Inbox := ⟨false, [], false, [], [], [], [], [], []⟩

/-- `needStop = true`. -/
def stop (inbox : Inbox) : Inbox := { inbox with needStop := true }

/-- The server sends. -/
def arrive (inbox : Inbox) (bytes : List UInt8) : Inbox :=
  { inbox with incoming := inbox.incoming ++ bytes, arrived := inbox.arrived ++ bytes }

/-- `recvBufferQueue.push` under `recvBufferDequeMutex`. -/
def push (inbox : Inbox) (buffer : NetBuffer) : Inbox :=
  { inbox with
    recvBufferQueue := inbox.recvBufferQueue ++ [buffer]
    queued := inbox.queued ++ [buffer] }

/-- `ProcessLogic`. -/
def process (inbox : Inbox) (buffer : NetBuffer) : Inbox :=
  { inbox with processed := inbox.processed ++ [buffer] }

/-- `NetBuffer::Free`. -/
def free (inbox : Inbox) (buffer : NetBuffer) : Inbox :=
  { inbox with freed := inbox.freed ++ [buffer] }

end Inbox

/-- Where a thread is. -/
inductive Pc
  | outside
  /- `RunRecvThread` -/
  | recvHead
  /- `DoRecv`: in `recv`, behind it, in a round of the loop, before a push, and on the way out -/
  | receiving
  | enqueuing (received : List UInt8)
  | making (restSize : ℕ)
  | pushing (buffer : NetBuffer) (restSize : ℕ)
  | closing
  | stopping
  | recvDone
  /- `RunLogicThread` -/
  | logicHead
  | takeSize
  | popLoop (count : ℕ)
  | processing (buffer : NetBuffer) (count : ℕ)
  | freeing (buffer : NetBuffer) (count : ℕ)
  | sleeping
  | logicDone
  /- `front` of an empty queue -/
  | undefined
  deriving DecidableEq

/-- What a thread does next. -/
inductive Choice
  | go
  /- `recv` returns a number of bytes, zero, or `SOCKET_ERROR` -/
  | recvReturns (recvSize : ℕ)
  | recvCloses
  | recvFails
  /- the other threads, and the server -/
  | setNeedStop
  | serverSends (bytes : List UInt8)
  | serverCloses
  | other
  deriving DecidableEq

/-- Where the receive thread goes from a round. -/
def afterRound (inbox : Inbox) : Round → Inbox × Pc
  | .noMore => (inbox, .recvHead)
  | .rejected ring => ({ inbox with recvRingBuffer := ring }, .closing)
  | .decoded buffer ring restSize =>
      ({ inbox with recvRingBuffer := ring }, .pushing buffer restSize)

/-- One atomic step of a thread. -/
def act (lib : NetBufferLib) (capacity : ℕ) (inbox : Inbox) (pc : Pc) (choice : Choice) :
    Option (Inbox × Pc) :=
  match pc, choice with
  | .outside, .setNeedStop => some (inbox.stop, .outside)
  | .outside, .serverSends bytes =>
      if inbox.peerClosed then none else some (inbox.arrive bytes, .outside)
  | .outside, .serverCloses => some ({ inbox with peerClosed := true }, .outside)
  | .outside, .other => some (inbox, .outside)
  | .recvHead, .go => some (inbox, if inbox.needStop then .recvDone else .receiving)
  | .receiving, .recvReturns recvSize =>
      -- the argument is a pointer, and `sizeof` its size
      if 0 < recvSize ∧ recvSize ≤ sizeofPointer ∧ recvSize ≤ inbox.incoming.length then
        some ({ inbox with incoming := inbox.incoming.drop recvSize },
          .enqueuing (inbox.incoming.take recvSize))
      else none
  | .receiving, .recvCloses =>
      if inbox.incoming = [] ∧ inbox.peerClosed = true then some (inbox, .closing) else none
  | .receiving, .recvFails => some (inbox, .closing)
  | .enqueuing received, .go =>
      if capacity - inbox.recvRingBuffer.length < received.length then some (inbox, .stopping)
      else
        some ({ inbox with recvRingBuffer := inbox.recvRingBuffer ++ received },
          .making (inbox.recvRingBuffer ++ received).length)
  | .making restSize, .go => some (afterRound inbox (makePacket lib inbox.recvRingBuffer restSize))
  | .pushing buffer restSize, .go => some (inbox.push buffer, .making restSize)
  | .closing, .go => some (inbox, .stopping)
  | .stopping, .go => some (inbox.stop, .recvHead)
  | .logicHead, .go => some (inbox, if inbox.needStop then .logicDone else .takeSize)
  | .takeSize, .go => some (inbox, .popLoop (toInt inbox.recvBufferQueue.length).toNat)
  | .popLoop 0, .go => some (inbox, .sleeping)
  | .popLoop (count + 1), .go =>
      match inbox.recvBufferQueue with
      | [] => some (inbox, .undefined)
      | buffer :: rest => some ({ inbox with recvBufferQueue := rest }, .processing buffer count)
  | .processing buffer count, .go => some (inbox.process buffer, .freeing buffer count)
  | .freeing buffer count, .go => some (inbox.free buffer, .popLoop count)
  | .sleeping, .go => some (inbox, .logicHead)
  | _, _ => none

/-- The two threads, and what is outside of them. -/
inductive Tid (Name : Type v)
  | recvThread
  | logicThread
  | outside (name : Name)
  deriving DecidableEq

/-- Where each thread starts. -/
def initialPc {Name : Type v} : Tid Name → Pc
  | .recvThread => .recvHead
  | .logicThread => .logicHead
  | .outside _ => .outside

/-- The state of the machine. -/
abbrev State (Name : Type v) := ThreadTable.System Inbox (Tid Name) Pc

/-- The start: nothing has arrived. -/
def initial (Name : Type v) : State Name := ⟨.empty, initialPc⟩

/-- One step of the machine. -/
def step {Name : Type v} [DecidableEq Name] (lib : NetBufferLib) (capacity : ℕ) :
    State Name → Tid Name × Choice → Option (State Name) :=
  ThreadTable.threadStep (act lib capacity)

/-- The places of the receive thread. -/
def Pc.ofRecvThread : Pc → Bool
  | .recvHead => true
  | .receiving => true
  | .enqueuing _ => true
  | .making _ => true
  | .pushing _ _ => true
  | .closing => true
  | .stopping => true
  | .recvDone => true
  | _ => false

/-- The places of the logic thread. -/
def Pc.ofLogicThread : Pc → Bool
  | .logicHead => true
  | .takeSize => true
  | .popLoop _ => true
  | .processing _ _ => true
  | .freeing _ _ => true
  | .sleeping => true
  | .logicDone => true
  | .undefined => true
  | _ => false

end Model

/-! ### What one step does -/

section Steps

variable {lib : NetBufferLib} {capacity : ℕ} {inbox inbox' : Inbox} {pc pc' : Pc} {choice : Choice}

/-- What happens outside of the two threads. -/
inductive OutsideMoves (inbox : Inbox) : Choice → Inbox → Prop
  | stays : OutsideMoves inbox .other inbox
  | stopped : OutsideMoves inbox .setNeedStop inbox.stop
  | arrived (bytes : List UInt8) : OutsideMoves inbox (.serverSends bytes) (inbox.arrive bytes)
  | closed : OutsideMoves inbox .serverCloses { inbox with peerClosed := true }

/-- What the receive thread does. -/
inductive RecvMoves (lib : NetBufferLib) (capacity : ℕ) (inbox : Inbox) : Pc → Inbox → Pc → Prop
  | ended (stopped : inbox.needStop = true) : RecvMoves lib capacity inbox .recvHead inbox .recvDone
  | looped (running : inbox.needStop = false) :
      RecvMoves lib capacity inbox .recvHead inbox .receiving
  | returned (recvSize : ℕ) (positive : 0 < recvSize) (most : recvSize ≤ sizeofPointer)
      (there : recvSize ≤ inbox.incoming.length) :
      RecvMoves lib capacity inbox .receiving
        { inbox with incoming := inbox.incoming.drop recvSize }
        (.enqueuing (inbox.incoming.take recvSize))
  | broken : RecvMoves lib capacity inbox .receiving inbox .closing
  | full (received : List UInt8)
      (full : capacity - inbox.recvRingBuffer.length < received.length) :
      RecvMoves lib capacity inbox (.enqueuing received) inbox .stopping
  | enqueued (received : List UInt8)
      (fits : received.length ≤ capacity - inbox.recvRingBuffer.length) :
      RecvMoves lib capacity inbox (.enqueuing received)
        { inbox with recvRingBuffer := inbox.recvRingBuffer ++ received }
        (.making (inbox.recvRingBuffer ++ received).length)
  | noMore (restSize : ℕ) (round : makePacket lib inbox.recvRingBuffer restSize = .noMore) :
      RecvMoves lib capacity inbox (.making restSize) inbox .recvHead
  | rejected (restSize : ℕ) (ring : List UInt8)
      (round : makePacket lib inbox.recvRingBuffer restSize = .rejected ring) :
      RecvMoves lib capacity inbox (.making restSize) { inbox with recvRingBuffer := ring } .closing
  | decoded (restSize : ℕ) (buffer : NetBuffer) (ring : List UInt8) (rest : ℕ)
      (round : makePacket lib inbox.recvRingBuffer restSize = .decoded buffer ring rest) :
      RecvMoves lib capacity inbox (.making restSize) { inbox with recvRingBuffer := ring }
        (.pushing buffer rest)
  | pushed (buffer : NetBuffer) (restSize : ℕ) :
      RecvMoves lib capacity inbox (.pushing buffer restSize) (inbox.push buffer) (.making restSize)
  | closed : RecvMoves lib capacity inbox .closing inbox .stopping
  | gaveUp : RecvMoves lib capacity inbox .stopping inbox.stop .recvHead

/-- What the logic thread does. -/
inductive LogicMoves (inbox : Inbox) : Pc → Inbox → Pc → Prop
  | ended (stopped : inbox.needStop = true) : LogicMoves inbox .logicHead inbox .logicDone
  | looped (running : inbox.needStop = false) : LogicMoves inbox .logicHead inbox .takeSize
  | sized : LogicMoves inbox .takeSize inbox (.popLoop (toInt inbox.recvBufferQueue.length).toNat)
  | drained : LogicMoves inbox (.popLoop 0) inbox .sleeping
  | overrun (count : ℕ) (none : inbox.recvBufferQueue = []) :
      LogicMoves inbox (.popLoop (count + 1)) inbox .undefined
  | popped (count : ℕ) (buffer : NetBuffer) (rest : List NetBuffer)
      (front : inbox.recvBufferQueue = buffer :: rest) :
      LogicMoves inbox (.popLoop (count + 1)) { inbox with recvBufferQueue := rest }
        (.processing buffer count)
  | processed (buffer : NetBuffer) (count : ℕ) :
      LogicMoves inbox (.processing buffer count) (inbox.process buffer) (.freeing buffer count)
  | freed (buffer : NetBuffer) (count : ℕ) :
      LogicMoves inbox (.freeing buffer count) (inbox.free buffer) (.popLoop count)
  | slept : LogicMoves inbox .sleeping inbox .logicHead

/-- **Inversion of a step outside.** -/
theorem act_outside (acted : act lib capacity inbox pc choice = some (inbox', pc'))
    (place : pc = .outside) : OutsideMoves inbox choice inbox' ∧ pc' = .outside := by
  revert acted
  fun_cases act lib capacity inbox pc choice <;> intro acted
  case case1 =>
    cases acted
    exact ⟨.stopped, rfl⟩
  case case3 bytes opened =>
    cases acted
    exact ⟨.arrived bytes, rfl⟩
  case case4 =>
    cases acted
    exact ⟨.closed, rfl⟩
  case case5 =>
    cases acted
    exact ⟨.stays, rfl⟩
  case case2 | case26 => cases acted
  all_goals cases place

/-- **Inversion of a step of the receive thread.** -/
theorem act_recv (acted : act lib capacity inbox pc choice = some (inbox', pc'))
    (place : pc.ofRecvThread = true) : RecvMoves lib capacity inbox pc inbox' pc' := by
  revert acted
  fun_cases act lib capacity inbox pc choice <;> intro acted
  case case6 =>
    cases acted
    cases stopped : inbox.needStop with
    | true => exact .ended stopped
    | false => exact .looped stopped
  case case7 recvSize most =>
    cases acted
    exact .returned recvSize most.1 most.2.1 most.2.2
  case case12 received full =>
    cases acted
    exact .full received full
  case case13 received fits =>
    cases acted
    exact .enqueued received (Nat.le_of_not_lt fits)
  case case14 restSize =>
    cases round : makePacket lib inbox.recvRingBuffer restSize with
    | noMore =>
        rw [round] at acted
        cases acted
        exact .noMore restSize round
    | rejected ring =>
        rw [round] at acted
        cases acted
        exact .rejected restSize ring round
    | decoded buffer ring rest =>
        rw [round] at acted
        cases acted
        exact .decoded restSize buffer ring rest round
  case case9 | case11 | case15 | case16 | case17 =>
    cases acted
    constructor
  case case8 | case10 | case26 => cases acted
  all_goals cases place

/-- **Inversion of a step of the logic thread.** -/
theorem act_logic (acted : act lib capacity inbox pc choice = some (inbox', pc'))
    (place : pc.ofLogicThread = true) : LogicMoves inbox pc inbox' pc' := by
  revert acted
  fun_cases act lib capacity inbox pc choice <;> intro acted
  case case18 =>
    cases acted
    cases stopped : inbox.needStop with
    | true => exact .ended stopped
    | false => exact .looped stopped
  case case21 count none =>
    cases acted
    exact .overrun count none
  case case22 count buffer rest front =>
    cases acted
    exact .popped count buffer rest front
  case case19 | case20 | case23 | case24 | case25 =>
    cases acted
    constructor
  case case26 => cases acted
  all_goals cases place

end Steps

/-! ### A round of the loop -/

section Rounds

variable {lib : NetBufferLib} {Encoded : List UInt8 → List UInt8 → Prop}

/-- **`MakePacketsFromRingBuffer` round by round.** -/
theorem makePackets_round (client : SimpleClient) (restSize : ℕ) :
    ∃ copied, makePackets lib client restSize =
      match makePacket lib client.recvRingBuffer restSize with
      | .noMore => (true, client)
      | .rejected ring => (false, ⟨ring, client.recvBufferQueue, copied⟩)
      | .decoded buffer ring rest =>
          makePackets lib ⟨ring, client.recvBufferQueue ++ [buffer], copied⟩ rest := by
  rw [makePackets, makePacket]
  by_cases more : lib.headerSize < restSize
  · simp only [if_pos more]
    split
    · rename_i incomplete
      by_cases oversized : lib.defaultSize <
          announced (peekHeader lib client.recvRingBuffer lib.alloc).serializeBuffer
      · exact ⟨client.copied, by simp [oversized]⟩
      · exact ⟨client.copied, by simp [oversized]⟩
    · refine ⟨client.copied ++ [((client.recvRingBuffer.drop lib.headerSize).take (announced
        (peekHeader lib client.recvRingBuffer lib.alloc).serializeBuffer)).length], ?_⟩
      cases lib.decode (dequeuePayload (client.recvRingBuffer.drop lib.headerSize)
        (peekHeader lib client.recvRingBuffer lib.alloc)
        (announced (peekHeader lib client.recvRingBuffer lib.alloc).serializeBuffer)) with
      | none => rfl
      | some decoded => rfl
  · exact ⟨client.copied, by simp [more]⟩

/-- What is counted of the ring is what is left in it. -/
theorem makePacket_restSize {ring after : List UInt8} {buffer : NetBuffer} {rest : ℕ}
    (round : makePacket lib ring ring.length = .decoded buffer after rest) :
    rest = after.length ∧ after.length < ring.length := by
  have header := lib.header
  unfold makePacket at round
  split at round
  · rename_i more
    dsimp only at round
    split at round
    · split at round <;> cases round
    · split at round
      · cases round
      · cases round
        simp only [List.length_drop, List.length_take]
        omega
  · cases round

/-- Every round counts down. -/
theorem makePacket_lt {ring after : List UInt8} {buffer : NetBuffer} {restSize rest : ℕ}
    (round : makePacket lib ring restSize = .decoded buffer after rest) : rest < restSize := by
  have header := lib.header
  unfold makePacket at round
  split at round
  · dsimp only at round
    split at round
    · split at round <;> cases round
    · split at round
      · cases round
      · cases round
        omega
  · cases round

/-- A round puts nothing into the ring. -/
theorem makePacket_ring {ring after : List UInt8} {restSize : ℕ}
    (round : makePacket lib ring restSize = .rejected after ∨
      ∃ buffer rest, makePacket lib ring restSize = .decoded buffer after rest) :
    after.length ≤ ring.length := by
  unfold makePacket at round
  split at round
  · dsimp only at round
    split at round
    · split at round
      · rcases round with same | ⟨buffer, rest, other⟩
        · cases same
          exact Nat.le_refl _
        · cases other
      · rcases round with other | ⟨buffer, rest, other⟩ <;> cases other
    · split at round
      · rcases round with same | ⟨buffer, rest, other⟩
        · cases same
          simp only [List.length_drop]
          omega
        · cases other
      · rcases round with other | ⟨buffer, rest, same⟩
        · cases other
        · cases same
          simp only [List.length_drop]
          omega
  · rcases round with other | ⟨buffer, rest, other⟩ <;> cases other

/-- A round that ends the loop leaves less than the longest frame in the ring. -/
theorem makePacket_over {ring : List UInt8}
    (round : makePacket lib ring ring.length = .noMore) :
    ring.length ≤ lib.headerSize + lib.defaultSize := by
  unfold makePacket at round
  split at round
  · dsimp only at round
    split at round
    · split at round
      · cases round
      · omega
    · split at round <;> cases round
  · omega

/-- Part of a frame ends the loop. -/
theorem makePacket_incomplete (lawful : lib.Lawful Encoded) (packet : StreamPacket lib Encoded)
    {ring coming others : List UInt8} (front : ring ++ coming = packet.frame ++ others)
    (short : ring.length < packet.frame.length) : makePacket lib ring ring.length = .noMore := by
  obtain ⟨length, told⟩ := lawful.length _ _ packet.encoded
  have header := lib.header
  have most := packet.most
  unfold makePacket
  by_cases more : lib.headerSize < ring.length
  · have announces : announced ring = packet.payload.length := by
      rw [← told]
      exact Network.announced_of_append front (by omega) (by omega)
    rw [if_pos more]
    simp only [Network.announced_peekHeader (Nat.le_of_lt more), announces]
    rw [if_pos (by omega), if_neg (by omega)]
  · rw [if_neg more]

/-- A whole frame at the front of the ring is decoded. -/
theorem makePacket_complete (lawful : lib.Lawful Encoded) (packet : StreamPacket lib Encoded)
    (rest : List UInt8) :
    ∃ decoded, decoded.unread = packet.payload ∧
      makePacket lib (packet.frame ++ rest) (packet.frame ++ rest).length =
        .decoded decoded rest rest.length := by
  obtain ⟨length, -⟩ := lawful.length _ _ packet.encoded
  have long := packet.long lawful
  obtain ⟨told, decoded, unread, success⟩ :=
    Network.decode_of_frame lawful packet.encoded rest
  have more : lib.headerSize < (packet.frame ++ rest).length := by
    rw [List.length_append]
    omega
  refine ⟨decoded, unread, ?_⟩
  unfold makePacket
  rw [if_pos more]
  simp only [Network.announced_peekHeader (Nat.le_of_lt more), told]
  rw [if_neg (by rw [List.length_append]; omega), success]
  have behind : ((packet.frame ++ rest).drop lib.headerSize).drop packet.payload.length = rest := by
    rw [List.drop_drop, ← length, List.drop_left]
  simp only [behind, Round.decoded.injEq, true_and]
  simp only [List.length_take, List.length_drop, List.length_append]
  omega

end Rounds

/-! ### The logic thread -/

section Logic

variable {lib : NetBufferLib} {capacity : ℕ} {inbox inbox' : Inbox} {pc pc' : Pc}

/-- The packet the logic thread has in hand. -/
def Pc.held : Pc → List NetBuffer
  | .processing buffer _ => [buffer]
  | .freeing buffer _ => [buffer]
  | _ => []

/-- The packet in hand that was processed. -/
def Pc.handed : Pc → List NetBuffer
  | .freeing buffer _ => [buffer]
  | _ => []

/-- How many packets the logic thread will still take from the queue. -/
def Pc.rest : Pc → ℕ
  | .popLoop count => count
  | .processing _ count => count
  | .freeing _ count => count
  | _ => 0

/-- **The accounts of the logic thread.** -/
structure Ordered (inbox : Inbox) (pc : Pc) : Prop where
  place : pc.ofLogicThread = true
  defined : pc ≠ .undefined
  queued : inbox.queued = inbox.freed ++ pc.held ++ inbox.recvBufferQueue
  processed : inbox.processed = inbox.freed ++ pc.handed
  enough : pc.rest ≤ inbox.recvBufferQueue.length
  stopped : pc = .logicDone → inbox.needStop = true

/-- The others only append to the queue, and may set `needStop`. -/
structure Grows (inbox inbox' : Inbox) : Prop where
  grown : ∃ added, inbox'.recvBufferQueue = inbox.recvBufferQueue ++ added ∧
    inbox'.queued = inbox.queued ++ added
  processed : inbox'.processed = inbox.processed
  freed : inbox'.freed = inbox.freed
  stops : inbox.needStop = true → inbox'.needStop = true

theorem grows_of_eq (queue : inbox'.recvBufferQueue = inbox.recvBufferQueue)
    (queued : inbox'.queued = inbox.queued) (processed : inbox'.processed = inbox.processed)
    (freed : inbox'.freed = inbox.freed)
    (stops : inbox.needStop = true → inbox'.needStop = true) : Grows inbox inbox' :=
  ⟨⟨[], by rw [queue, List.append_nil], by rw [queued, List.append_nil]⟩, processed, freed, stops⟩

theorem OutsideMoves.grows {choice : Choice} (moved : OutsideMoves inbox choice inbox') :
    Grows inbox inbox' := by
  cases moved with
  | stopped => exact grows_of_eq rfl rfl rfl rfl fun _ => rfl
  | stays | arrived | closed => exact grows_of_eq rfl rfl rfl rfl id

theorem RecvMoves.grows (moved : RecvMoves lib capacity inbox pc inbox' pc') :
    Grows inbox inbox' := by
  cases moved with
  | pushed buffer restSize => exact ⟨⟨[buffer], rfl, rfl⟩, rfl, rfl, id⟩
  | gaveUp => exact grows_of_eq rfl rfl rfl rfl fun _ => rfl
  | _ => exact grows_of_eq rfl rfl rfl rfl id

theorem Ordered.grows (ordered : Ordered inbox pc) (grows : Grows inbox inbox') :
    Ordered inbox' pc := by
  obtain ⟨added, queue, queued⟩ := grows.grown
  refine ⟨ordered.place, ordered.defined, ?_, ?_, ?_,
    fun done => grows.stops (ordered.stopped done)⟩
  · rw [queued, queue, grows.freed, ordered.queued, List.append_assoc _ inbox.recvBufferQueue]
  · rw [grows.processed, grows.freed]
    exact ordered.processed
  · rw [queue, List.length_append]
    exact Nat.le_add_right_of_le ordered.enough

/-- **A step of the logic thread keeps its accounts.** -/
theorem Ordered.step (ordered : Ordered inbox pc) (moved : LogicMoves inbox pc inbox' pc') :
    Ordered inbox' pc' := by
  obtain ⟨-, -, queued, processed, enough, -⟩ := ordered
  cases moved with
  | ended stopped => exact ⟨rfl, by simp, queued, processed, enough, fun _ => stopped⟩
  | looped running => exact ⟨rfl, by simp, queued, processed, enough, by simp⟩
  | sized =>
      exact ⟨rfl, by simp, queued, processed, toInt_le inbox.recvBufferQueue.length, by simp⟩
  | drained => exact ⟨rfl, by simp, queued, processed, enough, by simp⟩
  | overrun count none =>
      rw [none] at enough
      exact absurd enough (Nat.not_succ_le_zero count)
  | popped count buffer rest front =>
      refine ⟨rfl, by simp, ?_, processed, ?_, by simp⟩
      · rw [front] at queued
        simpa [Pc.held] using queued
      · rw [front] at enough
        exact Nat.le_of_succ_le_succ enough
  | processed buffer count =>
      refine ⟨rfl, by simp, queued, ?_, enough, by simp⟩
      simpa [Inbox.process, Pc.handed] using processed
  | freed buffer count =>
      refine ⟨rfl, by simp, ?_, ?_, enough, by simp⟩
      · simpa [Inbox.free, Pc.held] using queued
      · simpa [Inbox.free, Pc.handed] using processed
  | slept => exact ⟨rfl, by simp, queued, processed, enough, by simp⟩

/-- What is in the queue has not been processed. -/
theorem Ordered.processed_le (ordered : Ordered inbox pc) :
    inbox.processed.length + inbox.recvBufferQueue.length ≤ inbox.queued.length := by
  have handed : pc.handed.length ≤ pc.held.length := by cases pc <;> simp [Pc.handed, Pc.held]
  rw [ordered.processed, ordered.queued]
  simp only [List.length_append]
  omega

end Logic

/-! ### The machine -/

section Machine

variable {Name : Type v} [DecidableEq Name] {lib : NetBufferLib} {capacity : ℕ}
  {state after : State Name} {label : Tid Name × Choice}

/-- Every thread is at one of its places, and the logic thread has its accounts. -/
structure Orderly (state : State Name) : Prop where
  recv : (state.pc .recvThread).ofRecvThread = true
  logic : Ordered state.shared (state.pc .logicThread)
  outside : ∀ name, state.pc (.outside name) = .outside

/-- A step outside, of the receive thread, or of the logic thread. -/
theorem step_cases (orderly : Orderly state) (taken : step lib capacity state label = some after) :
    ((∃ name, label.1 = .outside name) ∧ OutsideMoves state.shared label.2 after.shared ∧
        after.pc .recvThread = state.pc .recvThread ∧
        after.pc .logicThread = state.pc .logicThread ∧
        ∀ name, after.pc (.outside name) = .outside) ∨
      (label.1 = .recvThread ∧
        RecvMoves lib capacity state.shared (state.pc .recvThread) after.shared
          (after.pc .recvThread) ∧
        after.pc .logicThread = state.pc .logicThread ∧
        ∀ name, after.pc (.outside name) = .outside) ∨
      (label.1 = .logicThread ∧
        LogicMoves state.shared (state.pc .logicThread) after.shared (after.pc .logicThread) ∧
        after.pc .recvThread = state.pc .recvThread ∧
        ∀ name, after.pc (.outside name) = .outside) := by
  obtain ⟨acted, others⟩ := threadStep_moved taken
  obtain ⟨thread, choice⟩ := label
  cases thread with
  | outside name =>
      obtain ⟨moved, place⟩ := act_outside acted (orderly.outside name)
      refine .inl ⟨⟨name, rfl⟩, moved, others _ (by simp), others _ (by simp), fun other => ?_⟩
      by_cases same : other = name
      · exact same ▸ place
      · exact (others _ (by simpa using same)).trans (orderly.outside other)
  | recvThread =>
      refine .inr (.inl ⟨rfl, act_recv acted orderly.recv, others _ (by simp), fun name => ?_⟩)
      exact (others _ (by simp)).trans (orderly.outside name)
  | logicThread =>
      refine .inr (.inr ⟨rfl, act_logic acted orderly.logic.place, others _ (by simp), ?_⟩)
      exact fun name => (others _ (by simp)).trans (orderly.outside name)

theorem RecvMoves.place {inbox inbox' : Inbox} {pc pc' : Pc}
    (moved : RecvMoves lib capacity inbox pc inbox' pc') : pc'.ofRecvThread = true := by
  cases moved <;> rfl

theorem Orderly.step (orderly : Orderly state)
    (taken : ClientReceive.step lib capacity state label = some after) : Orderly after := by
  rcases step_cases orderly taken with ⟨-, moved, recv, logic, outside⟩ |
    ⟨-, moved, logic, outside⟩ | ⟨-, moved, recv, outside⟩
  · exact ⟨recv ▸ orderly.recv, logic ▸ orderly.logic.grows moved.grows, outside⟩
  · exact ⟨moved.place, logic ▸ orderly.logic.grows moved.grows, outside⟩
  · exact ⟨recv ▸ orderly.recv, orderly.logic.step moved, outside⟩

omit [DecidableEq Name] in
theorem orderly_initial : Orderly (initial Name) where
  recv := rfl
  logic :=
    ⟨rfl, by simp [initial, initialPc], rfl, rfl, Nat.le_refl 0, by simp [initial, initialPc]⟩
  outside := fun _ => rfl

/-- The receive thread is behind the loop, with what `MakePacketsFromRingBuffer` returns and
leaves. -/
def MadeAll (lib : NetBufferLib) (before : Inbox) (copied : List ℕ) (restSize : ℕ)
    (later : State Name) : Prop :=
  ∃ gained copied', makePackets lib ⟨before.recvRingBuffer, before.recvBufferQueue, copied⟩
      restSize = (decide (later.pc .recvThread = .recvHead),
        ⟨later.shared.recvRingBuffer, before.recvBufferQueue ++ gained, copied'⟩) ∧
    later.shared.recvBufferQueue = before.recvBufferQueue ++ gained ∧
    later.shared.queued = before.queued ++ gained

/-- **The loop as a whole**: left alone, the receive thread gets through the rounds to what
`MakePacketsFromRingBuffer` returns and leaves. -/
theorem making_leads {restSize : ℕ} (copied : List ℕ)
    (place : state.pc .recvThread = .making restSize) :
    Leads (step lib capacity) (fun _ label => label.1 = .recvThread)
      (MadeAll lib state.shared copied restSize) state := by
  induction restSize using Nat.strong_induction_on generalizing state copied with
  | _ restSize ih =>
      obtain ⟨copied', rounds⟩ := makePackets_round
        ⟨state.shared.recvRingBuffer, state.shared.recvBufferQueue, copied⟩ restSize
      have acted : act lib capacity state.shared (.making restSize) .go = some
          (afterRound state.shared (makePacket lib state.shared.recvRingBuffer restSize)) := rfl
      cases round : makePacket lib state.shared.recvRingBuffer restSize with
      | noMore =>
          rw [round] at acted
          rw [round] at rounds
          refine leads_of_act place Choice.go rfl acted fun pc here _ => Leads.here ?_
          exact ⟨[], copied, by simp [rounds, here], by simp, by simp⟩
      | rejected ring =>
          rw [round] at acted
          rw [round] at rounds
          refine leads_of_act place Choice.go rfl acted fun pc here _ => Leads.here ?_
          exact ⟨[], copied', by simp [rounds, here], by simp, by simp⟩
      | decoded buffer ring rest =>
          rw [round] at acted
          rw [round] at rounds
          refine leads_of_act place Choice.go rfl acted fun pc here _ => ?_
          refine leads_of_act here Choice.go rfl rfl fun pc' here' _ => ?_
          refine (ih rest (makePacket_lt round) copied' here').trans fun later made => Leads.here ?_
          obtain ⟨gained, copied'', same, queue, queued⟩ := made
          refine ⟨buffer :: gained, copied'', ?_, ?_, ?_⟩
          · rw [rounds]
            refine same.trans ?_
            simp [Inbox.push]
          · rw [queue]
            simp [Inbox.push]
          · rw [queued]
            simp [Inbox.push]

/-! ### Room in the ring -/

/-- What the receive thread knows of the ring. -/
def RingBounded (lib : NetBufferLib) (inbox : Inbox) : Pc → Prop
  | .recvHead =>
      inbox.recvRingBuffer.length ≤ lib.headerSize + lib.defaultSize ∨ inbox.needStop = true
  | .receiving => inbox.recvRingBuffer.length ≤ lib.headerSize + lib.defaultSize
  | .enqueuing received =>
      inbox.recvRingBuffer.length ≤ lib.headerSize + lib.defaultSize ∧
        received.length ≤ sizeofPointer
  | .making restSize => restSize = inbox.recvRingBuffer.length
  | .pushing _ restSize => restSize = inbox.recvRingBuffer.length
  | .recvDone => inbox.needStop = true
  | _ => True

/-- What the others leave of the receive thread's fields. -/
structure Leaves (inbox inbox' : Inbox) : Prop where
  ring : inbox'.recvRingBuffer = inbox.recvRingBuffer
  queued : inbox'.queued = inbox.queued
  stops : inbox.needStop = true → inbox'.needStop = true
  arrives : ∃ bytes, inbox'.incoming = inbox.incoming ++ bytes ∧
    inbox'.arrived = inbox.arrived ++ bytes

theorem leaves_of_eq {inbox inbox' : Inbox} (ring : inbox'.recvRingBuffer = inbox.recvRingBuffer)
    (queued : inbox'.queued = inbox.queued)
    (stops : inbox.needStop = true → inbox'.needStop = true)
    (incoming : inbox'.incoming = inbox.incoming) (arrived : inbox'.arrived = inbox.arrived) :
    Leaves inbox inbox' :=
  ⟨ring, queued, stops, [], by rw [incoming, List.append_nil], by rw [arrived, List.append_nil]⟩

theorem OutsideMoves.leaves {inbox inbox' : Inbox} {choice : Choice}
    (moved : OutsideMoves inbox choice inbox') : Leaves inbox inbox' := by
  cases moved with
  | stopped => exact leaves_of_eq rfl rfl (fun _ => rfl) rfl rfl
  | arrived bytes => exact ⟨rfl, rfl, id, bytes, rfl, rfl⟩
  | stays | closed => exact leaves_of_eq rfl rfl id rfl rfl

theorem RecvMoves.arrived {inbox inbox' : Inbox} {pc pc' : Pc}
    (moved : RecvMoves lib capacity inbox pc inbox' pc') : inbox'.arrived = inbox.arrived := by
  cases moved <;> rfl

theorem LogicMoves.arrived {inbox inbox' : Inbox} {pc pc' : Pc}
    (moved : LogicMoves inbox pc inbox' pc') : inbox'.arrived = inbox.arrived := by
  cases moved <;> rfl

theorem LogicMoves.processed_grow {inbox inbox' : Inbox} {pc pc' : Pc}
    (moved : LogicMoves inbox pc inbox' pc') :
    inbox.processed.length ≤ inbox'.processed.length := by
  cases moved with
  | processed buffer count =>
      show inbox.processed.length ≤ (inbox.processed ++ [buffer]).length
      rw [List.length_append]
      exact Nat.le_add_right _ _
  | _ => exact Nat.le_refl _

theorem LogicMoves.leaves {inbox inbox' : Inbox} {pc pc' : Pc}
    (moved : LogicMoves inbox pc inbox' pc') : Leaves inbox inbox' := by
  cases moved <;> exact leaves_of_eq rfl rfl id rfl rfl

theorem RingBounded.leaves {inbox inbox' : Inbox} {pc : Pc} (bounded : RingBounded lib inbox pc)
    (leaves : Leaves inbox inbox') : RingBounded lib inbox' pc := by
  unfold RingBounded at bounded ⊢
  rw [leaves.ring]
  cases pc with
  | recvHead => exact bounded.imp_right leaves.stops
  | recvDone => exact leaves.stops bounded
  | _ => exact bounded

/-- **A step of the receive thread keeps the bound.** -/
theorem RingBounded.step {inbox inbox' : Inbox} {pc pc' : Pc} (bounded : RingBounded lib inbox pc)
    (moved : RecvMoves lib capacity inbox pc inbox' pc') : RingBounded lib inbox' pc' := by
  cases moved with
  | ended stopped => exact stopped
  | broken | full | rejected | closed => trivial
  | looped running =>
      refine bounded.resolve_right fun stopped => ?_
      rw [running] at stopped
      cases stopped
  | returned recvSize positive most there =>
      exact ⟨bounded, by rw [List.length_take]; omega⟩
  | enqueued received fits => rfl
  | noMore restSize round =>
      have counted : restSize = inbox.recvRingBuffer.length := bounded
      subst counted
      exact .inl (makePacket_over round)
  | decoded restSize buffer ring rest round =>
      have counted : restSize = inbox.recvRingBuffer.length := bounded
      subst counted
      exact (makePacket_restSize round).1
  | pushed buffer restSize => exact bounded
  | gaveUp => exact .inr rfl

/-- A round leaves no more in the ring than was there. -/
theorem RecvMoves.ring_le {inbox inbox' : Inbox} {pc pc' : Pc}
    (moved : RecvMoves lib capacity inbox pc inbox' pc')
    (least : inbox.recvRingBuffer.length ≤ capacity) :
    inbox'.recvRingBuffer.length ≤ capacity := by
  cases moved with
  | enqueued received fits =>
      show (inbox.recvRingBuffer ++ received).length ≤ capacity
      rw [List.length_append]
      omega
  | rejected restSize ring round => exact (makePacket_ring (.inl round)).trans least
  | decoded restSize buffer ring rest round =>
      exact (makePacket_ring (.inr ⟨buffer, rest, round⟩)).trans least
  | _ => exact least

/-- **The ring is never full**: whatever the server sends, a ring with room for the longest frame
and one call of `recv` takes every piece, and between two pieces it holds no more than that
frame. -/
theorem ring_never_full (room : lib.headerSize + lib.defaultSize + sizeofPointer ≤ capacity)
    {guard : State Name → Tid Name × Choice → Prop}
    (reached : Reach (step lib capacity) guard (initial Name) state) :
    state.shared.recvRingBuffer.length ≤ capacity ∧
      (state.pc .recvThread = .receiving →
        state.shared.recvRingBuffer.length ≤ lib.headerSize + lib.defaultSize) ∧
      ∀ received, state.pc .recvThread = .enqueuing received →
        received.length ≤ capacity - state.shared.recvRingBuffer.length := by
  have holds : Orderly state ∧ RingBounded lib state.shared (state.pc .recvThread) ∧
      state.shared.recvRingBuffer.length ≤ capacity := by
    refine reached.invariant (fun state => Orderly state ∧
      RingBounded lib state.shared (state.pc .recvThread) ∧
        state.shared.recvRingBuffer.length ≤ capacity)
      ⟨orderly_initial, .inl (Nat.zero_le _), Nat.zero_le _⟩ ?_
    rintro before label after ⟨orderly, bounded, least⟩ - taken
    refine ⟨orderly.step taken, ?_⟩
    rcases step_cases orderly taken with ⟨-, moved, recv, -⟩ | ⟨-, moved, -⟩ | ⟨-, moved, recv, -⟩
    · exact ⟨recv ▸ bounded.leaves moved.leaves, moved.leaves.ring ▸ least⟩
    · exact ⟨bounded.step moved, moved.ring_le least⟩
    · exact ⟨recv ▸ bounded.leaves moved.leaves, moved.leaves.ring ▸ least⟩
  obtain ⟨-, bounded, least⟩ := holds
  refine ⟨least, fun place => ?_, fun received place => ?_⟩
  · rw [place] at bounded
    exact bounded
  · rw [place] at bounded
    have rings := bounded.1
    have piece := bounded.2
    omega

end Machine

/-! ### The packets of a stream -/

section Stream

variable {Name : Type v} [DecidableEq Name] {lib : NetBufferLib}
  {Encoded : List UInt8 → List UInt8 → Prop} {capacity : ℕ} {inbox inbox' : Inbox} {pc pc' : Pc}
  {packets : ℕ → StreamPacket lib Encoded} {state : State Name}

/-- The bytes of some packets, from one on. -/
def stream (packets : ℕ → StreamPacket lib Encoded) (start count : ℕ) : List UInt8 :=
  ((List.range' start count).map fun index => (packets index).frame).flatten

/-- The bytes begin the stream; no packet is shorter than a byte. -/
def Front (packets : ℕ → StreamPacket lib Encoded) (bytes : List UInt8) : Prop :=
  bytes <+: stream packets 0 bytes.length

/-- The server sends the packets, in pieces of its choice. -/
def Genuine (packets : ℕ → StreamPacket lib Encoded) (state : State Name)
    (label : Tid Name × Choice) : Prop :=
  match label.2 with
  | .serverSends bytes => Front packets (state.shared.arrived ++ bytes)
  | _ => True

instance (state : State Name) (label : Tid Name × Choice) :
    Decidable (Genuine packets state label) := by
  unfold Genuine Front
  split <;> infer_instance

/-- The packet the receive thread has found. -/
def Pc.found : Pc → List NetBuffer
  | .pushing buffer _ => [buffer]
  | _ => []

/-- The bytes the receive thread has in hand. -/
def Pc.piece : Pc → List UInt8
  | .enqueuing received => received
  | _ => []

/-- The loop of `MakePacketsFromRingBuffer` runs. -/
def Pc.inLoop : Pc → Bool
  | .making _ => true
  | .pushing _ _ => true
  | _ => false

/-- The payloads of the first packets. -/
def payloads (packets : ℕ → StreamPacket lib Encoded) (count : ℕ) : List (List UInt8) :=
  (List.range count).map fun index => (packets index).payload

/-- **What the receive thread has made of a stream**, when it has found this many packets. -/
structure Streamed (packets : ℕ → StreamPacket lib Encoded) (inbox : Inbox) (pc : Pc)
    (count : ℕ) : Prop where
  gained : (inbox.queued ++ pc.found).map NetBuffer.unread = payloads packets count
  split : stream packets 0 count ++ (inbox.recvRingBuffer ++ pc.piece) ++ inbox.incoming =
    inbox.arrived
  genuine : Front packets inbox.arrived
  counted : ∀ restSize, pc = .making restSize ∨ (∃ buffer, pc = .pushing buffer restSize) →
    restSize = inbox.recvRingBuffer.length
  /-- Outside of the loop the next packet is not all there. -/
  short : pc.inLoop = false → inbox.recvRingBuffer.length < (packets count).frame.length

theorem stream_add (start first second : ℕ) :
    stream packets start (first + second) =
      stream packets start first ++ stream packets (start + first) second := by
  unfold stream
  rw [← List.range'_append_1, List.map_append, List.flatten_append]

theorem stream_succ (start count : ℕ) :
    stream packets start (count + 1) =
      (packets start).frame ++ stream packets (start + 1) count := by
  unfold stream
  rw [List.range'_succ, List.map_cons, List.flatten_cons]

theorem stream_grows {first second : ℕ} (le : first ≤ second) :
    stream packets 0 first <+: stream packets 0 second := by
  obtain ⟨more, rfl⟩ := Nat.exists_eq_add_of_le le
  rw [stream_add]
  exact List.prefix_append _ _

/-- A stream of that many packets is long enough. -/
theorem le_length_stream (lawful : lib.Lawful Encoded) (start count : ℕ) :
    count ≤ (stream packets start count).length := by
  induction count generalizing start with
  | zero => exact Nat.zero_le _
  | succ count ih =>
      have long := (packets start).long lawful
      have rest := ih (start + 1)
      rw [stream_succ, List.length_append]
      omega

/-- The bytes of the first packets begin the stream. -/
theorem front_stream (lawful : lib.Lawful Encoded) (count : ℕ) :
    Front packets (stream packets 0 count) :=
  stream_grows (le_length_stream lawful 0 count)

/-- What the ring and what comes behind it are: the packets that were not found yet. -/
theorem Streamed.front {count : ℕ} (streamed : Streamed packets inbox pc count)
    (bare : pc.piece = []) :
    ∃ coming more, inbox.recvRingBuffer ++ coming = stream packets count (more + 1) := by
  have long : inbox.arrived.length ≤ count + (inbox.arrived.length + 1) := by omega
  obtain ⟨future, whole⟩ := streamed.genuine.trans (stream_grows long)
  refine ⟨inbox.incoming ++ future, inbox.arrived.length, ?_⟩
  have split : inbox.arrived =
      stream packets 0 count ++ (inbox.recvRingBuffer ++ inbox.incoming) := by
    rw [← streamed.split, bare, List.append_nil, List.append_assoc]
  generalize inbox.arrived.length = more at whole ⊢
  rw [split, stream_add, Nat.zero_add, List.append_assoc, List.append_assoc] at whole
  exact List.append_cancel_left whole

theorem Streamed.leaves {count : ℕ} (streamed : Streamed packets inbox pc count)
    (leaves : Leaves inbox inbox') (genuine : Front packets inbox'.arrived) :
    Streamed packets inbox' pc count := by
  obtain ⟨bytes, incoming, arrived⟩ := leaves.arrives
  refine ⟨?_, ?_, genuine, ?_, ?_⟩
  · rw [leaves.queued]
    exact streamed.gained
  · rw [leaves.ring, incoming, arrived, ← streamed.split, ← List.append_assoc]
  · rw [leaves.ring]
    exact streamed.counted
  · rw [leaves.ring]
    exact streamed.short

/-- A round on the front of a stream: the next packet is found, or it is not all there. -/
theorem Streamed.round {count restSize : ℕ} (lawful : lib.Lawful Encoded)
    (streamed : Streamed packets inbox (.making restSize) count) :
    (makePacket lib inbox.recvRingBuffer restSize = .noMore ∧
        inbox.recvRingBuffer.length < (packets count).frame.length) ∨
      ∃ rest decoded, inbox.recvRingBuffer = (packets count).frame ++ rest ∧
        decoded.unread = (packets count).payload ∧
        makePacket lib inbox.recvRingBuffer restSize = .decoded decoded rest rest.length := by
  obtain ⟨coming, more, front⟩ := streamed.front rfl
  have counted := streamed.counted restSize (.inl rfl)
  subst counted
  rw [stream_succ] at front
  rcases Nat.lt_or_ge inbox.recvRingBuffer.length (packets count).frame.length with short | whole
  · exact .inl ⟨makePacket_incomplete lawful (packets count) front short, short⟩
  · obtain ⟨rest, ring, -⟩ := Framing.split_frame front whole
    obtain ⟨decoded, unread, round⟩ := makePacket_complete lawful (packets count) rest
    exact .inr ⟨rest, decoded, ring, unread, ring ▸ round⟩

/-- The receive thread has found as many packets as are in the queue or in its hand. -/
theorem Streamed.count_eq {count : ℕ} (streamed : Streamed packets inbox pc count) :
    (inbox.queued ++ pc.found).length = count := by
  have lengths := congrArg List.length streamed.gained
  simpa [payloads] using lengths

/-- What is in front of the next `recv`. -/
theorem Streamed.got_eq {count : ℕ} (streamed : Streamed packets inbox pc count) :
    inbox.arrived.length = (stream packets 0 count).length +
      (inbox.recvRingBuffer ++ pc.piece).length + inbox.incoming.length := by
  rw [← streamed.split, List.length_append, List.length_append]

/-- The receive thread goes from one place outside of the loop to another. -/
theorem Streamed.goes {count : ℕ} (streamed : Streamed packets inbox pc count)
    (outside : pc.inLoop = false) (outside' : pc'.inLoop = false)
    (ring : inbox'.recvRingBuffer = inbox.recvRingBuffer) (queued : inbox'.queued = inbox.queued)
    (split : (inbox'.recvRingBuffer ++ pc'.piece) ++ inbox'.incoming =
      (inbox.recvRingBuffer ++ pc.piece) ++ inbox.incoming)
    (arrived : inbox'.arrived = inbox.arrived) : Streamed packets inbox' pc' count := by
  have bare {place : Pc} (beyond : place.inLoop = false) : place.found = [] := by
    cases place <;> first | rfl | cases beyond
  refine ⟨?_, ?_, ?_, ?_, ?_⟩
  · rw [bare outside', queued]
    have gained := streamed.gained
    rwa [bare outside] at gained
  · rw [List.append_assoc, split, arrived, ← List.append_assoc]
    exact streamed.split
  · rw [arrived]
    exact streamed.genuine
  · rintro restSize (rfl | ⟨buffer, rfl⟩) <;> cases outside'
  · intro _
    rw [ring]
    exact streamed.short outside

/-- **A step of the receive thread**, on a stream. -/
theorem Streamed.step {count : ℕ} (lawful : lib.Lawful Encoded)
    (room : lib.headerSize + lib.defaultSize + sizeofPointer ≤ capacity)
    (bounded : RingBounded lib inbox pc) (streamed : Streamed packets inbox pc count)
    (moved : RecvMoves lib capacity inbox pc inbox' pc') :
    ∃ more, Streamed packets inbox' pc' more := by
  cases moved with
  | ended | looped | broken | closed | gaveUp =>
      exact ⟨count, streamed.goes rfl rfl rfl rfl rfl rfl⟩
  | returned recvSize positive most there =>
      refine ⟨count, streamed.goes rfl rfl rfl rfl ?_ rfl⟩
      simp only [Pc.piece, List.append_nil, List.append_assoc, List.take_append_drop]
  | full received full =>
      have rings := bounded.1
      have piece := bounded.2
      omega
  | enqueued received fits =>
      refine ⟨count, streamed.gained, ?_, streamed.genuine, ?_, ?_⟩
      · have split := streamed.split
        simpa [Pc.piece] using split
      · rintro restSize (same | ⟨buffer, other⟩)
        · cases same
          rfl
        · cases other
      · exact fun outside => by cases outside
  | noMore restSize round =>
      rcases streamed.round lawful with ⟨-, short⟩ | ⟨rest, decoded, -, -, found⟩
      · refine ⟨count, streamed.gained, streamed.split, streamed.genuine, ?_, fun _ => short⟩
        rintro other (same | ⟨buffer, same⟩) <;> cases same
      · rw [found] at round
        cases round
  | rejected restSize ring round =>
      rcases streamed.round lawful with ⟨noMore, -⟩ | ⟨rest, decoded, -, -, found⟩
      · rw [noMore] at round
        cases round
      · rw [found] at round
        cases round
  | decoded restSize buffer ring rest round =>
      rcases streamed.round lawful with ⟨noMore, -⟩ | ⟨rest', decoded, front, unread, found⟩
      · rw [noMore] at round
        cases round
      · rw [found] at round
        cases round
        refine ⟨count + 1, ?_, ?_, streamed.genuine, ?_, fun outside => by cases outside⟩
        · have gained := streamed.gained
          simp only [Pc.found, List.append_nil] at gained
          rw [List.map_append, gained, payloads, payloads, List.range_succ, List.map_append]
          simp [Pc.found, unread]
        · have split := streamed.split
          simp only [Pc.piece, List.append_nil] at split ⊢
          rw [front] at split
          rw [stream_add, Nat.zero_add, stream_succ, ← split]
          simp [stream]
        · rintro other (same | ⟨buffer, same⟩) <;> cases same
          rfl
  | pushed buffer restSize =>
      refine ⟨count, ?_, streamed.split, streamed.genuine, ?_, fun outside => by cases outside⟩
      · have gained := streamed.gained
        simpa [Pc.found, Inbox.push] using gained
      · rintro other (same | ⟨buffer', same⟩) <;> cases same
        exact streamed.counted restSize (.inr ⟨buffer, rfl⟩)

omit [DecidableEq Name] in
/-- What has arrived stays a front of the stream. -/
theorem OutsideMoves.genuine {label : Tid Name × Choice}
    (moved : OutsideMoves state.shared label.2 inbox')
    (before : Front packets state.shared.arrived) (genuine : Genuine packets state label) :
    Front packets inbox'.arrived := by
  unfold Genuine at genuine
  generalize label.2 = choice at moved genuine
  cases moved with
  | arrived bytes => exact genuine
  | stays | stopped | closed => exact before

/-- A step behind which a front of the stream has arrived. -/
theorem genuine_of_front {after : State Name} {label : Tid Name × Choice}
    (taken : step lib capacity state label = some after)
    (front : Front packets after.shared.arrived) : Genuine packets state label := by
  obtain ⟨acted, -⟩ := threadStep_moved taken
  unfold Genuine
  split
  · rename_i bytes sends
    rw [sends] at acted
    generalize state.pc label.1 = pc at acted
    cases pc with
    | outside =>
        obtain ⟨-, same⟩ := Option.ite_none_left_eq_some.mp acted
        obtain ⟨shared, -⟩ := Prod.mk.inj (Option.some.inj same)
        rw [← shared] at front
        exact front
    | popLoop count => cases count <;> cases acted
    | _ => cases acted
  · trivial

/-- **What a client makes of a stream.** -/
structure Received (packets : ℕ → StreamPacket lib Encoded) (state : State Name) : Prop where
  /-- The queue has got the first packets, and all of those that `recv` has returned while it waits
  for more. -/
  queued : state.shared.queued.map NetBuffer.unread = payloads packets state.shared.queued.length
  current : state.pc .recvThread = .receiving →
    state.shared.arrived.length - state.shared.incoming.length <
      (stream packets 0 (state.shared.queued.length + 1)).length
  /-- They are processed in order, each of them once. -/
  order : state.shared.processed <+: state.shared.queued
  /-- Every buffer is freed, in the hand of the logic thread or in the queue, once. -/
  owned : state.shared.queued = state.shared.freed ++ (state.pc .logicThread).held ++
    state.shared.recvBufferQueue
  /-- The queue is never popped when it is empty. -/
  defined : state.pc .logicThread ≠ .undefined

/-- The invariant of a run on a stream. -/
structure Sound (packets : ℕ → StreamPacket lib Encoded) (state : State Name) : Prop where
  orderly : Orderly state
  bounded : RingBounded lib state.shared (state.pc .recvThread)
  streamed : ∃ count, Streamed packets state.shared (state.pc .recvThread) count

omit [DecidableEq Name] in
theorem sound_initial (lawful : lib.Lawful Encoded) : Sound packets (initial Name) := by
  refine ⟨orderly_initial, .inl (Nat.zero_le _), 0, rfl, rfl, List.nil_prefix, ?_, fun _ => ?_⟩
  · rintro restSize (same | ⟨buffer, same⟩) <;> cases same
  · exact Nat.lt_of_le_of_lt (Nat.zero_le _) ((packets 0).long lawful)

theorem Sound.step {after : State Name} {label : Tid Name × Choice} (lawful : lib.Lawful Encoded)
    (room : lib.headerSize + lib.defaultSize + sizeofPointer ≤ capacity)
    (sound : Sound packets state) (genuine : Genuine packets state label)
    (taken : ClientReceive.step lib capacity state label = some after) : Sound packets after := by
  obtain ⟨orderly, bounded, count, streamed⟩ := sound
  rcases step_cases orderly taken with ⟨-, moved, recv, -⟩ | ⟨-, moved, -⟩ | ⟨-, moved, recv, -⟩
  · exact ⟨orderly.step taken, recv ▸ bounded.leaves moved.leaves, count,
      recv ▸ streamed.leaves moved.leaves (moved.genuine streamed.genuine genuine)⟩
  · exact ⟨orderly.step taken, bounded.step moved, streamed.step lawful room bounded moved⟩
  · exact ⟨orderly.step taken, recv ▸ bounded.leaves moved.leaves, count,
      recv ▸ streamed.leaves moved.leaves (moved.arrived ▸ streamed.genuine)⟩

theorem sound_of_reach (lawful : lib.Lawful Encoded)
    (room : lib.headerSize + lib.defaultSize + sizeofPointer ≤ capacity)
    (reached : Reach (step lib capacity) (Genuine packets) (initial Name) state) :
    Sound packets state :=
  reached.invariant (Sound packets) (sound_initial lawful) fun _ _ _ sound genuine taken =>
    sound.step lawful room genuine taken

omit [DecidableEq Name] in
theorem Sound.received (sound : Sound packets state) : Received packets state := by
  obtain ⟨orderly, -, count, streamed⟩ := sound
  have length := streamed.count_eq
  rw [List.length_append] at length
  refine ⟨?_, fun waits => ?_, ?_, orderly.logic.queued, orderly.logic.defined⟩
  · have fronts := congrArg (List.take state.shared.queued.length) streamed.gained
    rw [List.map_append, List.take_left' (by simp), payloads, ← List.map_take, List.take_range,
      Nat.min_eq_left (by omega)] at fronts
    exact fronts
  · rw [waits] at length streamed
    obtain rfl : state.shared.queued.length = count := by simpa [Pc.found] using length
    have short := streamed.short rfl
    have got := streamed.got_eq
    simp only [Pc.piece, List.append_nil] at got
    rw [stream_add, Nat.zero_add, List.length_append, stream_succ, List.length_append]
    omega
  · rw [orderly.logic.processed, orderly.logic.queued, List.append_assoc]
    refine (List.prefix_append_right_inj _).mpr ?_
    cases state.pc .logicThread <;> simp [Pc.handed, Pc.held]

/-- **In order and once**: in every run of the two threads on a stream of packets, cut as the
connection likes, the queue gets the packets that have arrived and the logic thread processes them
in order; every buffer is freed once. -/
theorem received_in_order (lawful : lib.Lawful Encoded)
    (room : lib.headerSize + lib.defaultSize + sizeofPointer ≤ capacity)
    (reached : Reach (step lib capacity) (Genuine packets) (initial Name) state) :
    Received packets state :=
  (sound_of_reach lawful room reached).received

/-- Two packets of one byte, in pieces that cut the second header; the logic thread looks for
packets between the two. -/
def tickSchedule : List (Tid Unit × Choice) :=
  [(.recvThread, .go), (.outside (), .serverSends (Network.tick.frame ++ [0x77])),
   (.recvThread, .recvReturns 7), (.recvThread, .go), (.recvThread, .go), (.recvThread, .go),
   (.recvThread, .go), (.logicThread, .go), (.logicThread, .go), (.recvThread, .go),
   (.logicThread, .go), (.logicThread, .go),
   (.outside (), .serverSends (Network.tick.frame.drop 1)), (.recvThread, .recvReturns 5),
   (.recvThread, .go), (.logicThread, .go), (.logicThread, .go), (.recvThread, .go),
   (.recvThread, .go), (.recvThread, .go), (.recvThread, .go)]

theorem received_in_order_tick :
    ∃ state : State Unit, Received (fun _ => Network.tick) state ∧
      state.shared.processed.map NetBuffer.unread = [[7]] ∧
      state.shared.recvBufferQueue.map NetBuffer.unread = [[7]] := by
  obtain ⟨state, reached, last⟩ := exists_reach_of_runGuarded (step (Network.xorLib 512) 1024)
    (Genuine fun _ => Network.tick) (initial Unit) tickSchedule
    (fun state => state.shared.processed.map NetBuffer.unread = [[7]] ∧
      state.shared.recvBufferQueue.map NetBuffer.unread = [[7]]) (by decide)
  exact ⟨state, received_in_order (Network.xorLib_lawful 512) (by decide) reached,
    of_decide_eq_true last⟩

/-- A server that sends what is no packet. -/
def garbageSchedule : List (Tid Unit × Choice) :=
  [(.recvThread, .go), (.outside (), .serverSends [0, 255, 0, 1, 2, 3, 4, 5, 6]),
   (.recvThread, .recvReturns 8), (.recvThread, .go), (.recvThread, .go), (.recvThread, .go),
   (.recvThread, .recvReturns 1)]

theorem ring_never_full_garbage :
    ∃ state : State Unit, state.pc .recvThread = .enqueuing [6] ∧
      state.shared.recvRingBuffer = [0, 255, 0, 1, 2, 3, 4, 5] ∧
      [(6 : UInt8)].length ≤ 1024 - state.shared.recvRingBuffer.length := by
  obtain ⟨state, reached, last⟩ := exists_reach_of_run (step (Network.xorLib 512) 1024)
    (initial Unit) garbageSchedule (fun state => state.pc .recvThread = .enqueuing [6] ∧
      state.shared.recvRingBuffer = [0, 255, 0, 1, 2, 3, 4, 5]) (by decide)
  obtain ⟨place, ring⟩ := of_decide_eq_true last
  exact ⟨state, place, ring, (ring_never_full (by decide) reached).2.2 [6] place⟩

end Stream

end ActorModelServer.ClientReceive
