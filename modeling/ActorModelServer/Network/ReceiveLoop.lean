/-
**The books of the receive loop.**

`OnRecvIoCompleted` counts the bytes of the ring in `restSize`, takes a `NetBuffer` for each packet
and gives up a count of the session at its end. Here the header has any positive size, `restSize`
is an `int`, and what `Alloc`, `Decode`, `CreateMessageFromPacket` and `SendMessage` return is
arbitrary in every pass. `DoRecv` is one call; the count it takes and gives back is its own.

* `books_pass` — a pass that succeeds takes the header and what was dequeued off the ring, and
  `restSize` is the ring's used size again.
* `settled_run` — the loop ends, with every buffer freed once and one `DecreaseIOCount`.
* `receive_booked` — both, for every completed receive.
-/

import ActorModelServer.Library.Runs
import ActorModelServer.Network.Receive

namespace ActorModelServer.ReceiveLoop

open Network (NetBuffer NetBufferLib announced dequeuePayload)
open StepRuns (Reach Unguarded)

universe u

section Model

/-- `df_HEADER_SIZE` and `dfDEFAULTSIZE`. -/
structure Sizes where
  headerSize : ℕ
  header : 0 < headerSize
  defaultSize : ℕ

/-- What the calls of one pass return. -/
structure Returns (Message : Type u) where
  alloc : NetBuffer
  decode : NetBuffer → Option NetBuffer
  createMessageFromPacket : NetBuffer → Option Message
  sendMessage : Message → Bool

/-- What `OnRecvIoCompleted` calls for the books; a buffer has the number of its pass. -/
inductive Event
  | alloc (buffer : ℕ)
  | free (buffer : ℕ)
  | doRecv (posted : Bool)
  | decreaseIOCount
  deriving DecidableEq, Repr

/-- The ring, the local `restSize`, the passes so far, and the calls. -/
structure Loop where
  ringBuffer : List UInt8
  restSize : ℤ
  passes : ℕ
  events : List Event
  deriving DecidableEq, Repr

/-- What `RecvStreamToBuffer` returns and leaves. -/
structure Received where
  success : Bool
  ringBuffer : List UInt8
  buffer : NetBuffer
  restSize : ℤ
  dequeuedSize : ℕ

variable {Message : Type u} (sizes : Sizes)

/-- `RecvStreamToBuffer`. -/
def recvStreamToBuffer (decode : NetBuffer → Option NetBuffer) (ringBuffer : List UInt8)
    (buffer : NetBuffer) (restSize : ℤ) : Received :=
  let peeked := { buffer.writeAt 0 (ringBuffer.take sizes.headerSize) with iRead := 0 }
  let payloadLength := announced peeked.serializeBuffer
  if restSize < payloadLength + sizes.headerSize ∧ payloadLength > sizes.defaultSize then
    ⟨false, ringBuffer, peeked, restSize, 0⟩
  else
    let removed := ringBuffer.drop sizes.headerSize
    let dequeuedSize := (removed.take payloadLength).length
    let dequeued := dequeuePayload removed peeked payloadLength
    match decode dequeued with
    | none => ⟨false, removed.drop payloadLength, dequeued, restSize, dequeuedSize⟩
    | some decoded =>
        ⟨true, removed.drop payloadLength, decoded,
          restSize - (dequeuedSize + sizes.headerSize), dequeuedSize⟩

/-- `RecvStreamToBuffer`, as a pass calls it. -/
def received (loop : Loop) (returns : Returns Message) : Received :=
  recvStreamToBuffer sizes returns.decode loop.ringBuffer returns.alloc loop.restSize

/-- `messageSendSuccess` of a pass. -/
def messageSendSuccess (loop : Loop) (returns : Returns Message) : Bool :=
  if (received sizes loop returns).success then
    match returns.createMessageFromPacket (received sizes loop returns).buffer with
    | none => false
    | some message => returns.sendMessage message
  else false

/-- The loop behind the `Free` of a pass. -/
def freed (loop : Loop) (returns : Returns Message) : Loop :=
  { ringBuffer := (received sizes loop returns).ringBuffer
    restSize := (received sizes loop returns).restSize
    passes := loop.passes + 1
    events := loop.events ++ [.alloc loop.passes] ++ [.free loop.passes] }

/-- From one loop head to the next; there is none when the loop ends. -/
def pass (loop : Loop) (returns : Returns Message) : Option Loop :=
  if loop.restSize > sizes.headerSize ∧ messageSendSuccess sizes loop returns = true then
    some (freed sizes loop returns)
  else none

/-- The loop and what follows it; there is no result when it takes more passes than the fuel. -/
def run (returns : ℕ → Returns Message) (posted : Bool) : ℕ → Loop → Option (Bool × Loop)
  | 0, _ => none
  | fuel + 1, loop =>
      if loop.restSize > sizes.headerSize then
        let after := freed sizes loop (returns loop.passes)
        if messageSendSuccess sizes loop (returns loop.passes) then run returns posted fuel after
        else some (false, { after with events := after.events ++ [.decreaseIOCount] })
      else
        some (posted, { loop with events := loop.events ++ [.doRecv posted] ++ [.decreaseIOCount] })

/-- The loop's first head, when a receive brought these bytes. -/
def entry (ringBuffer transferred : List UInt8) : Loop :=
  ⟨ringBuffer ++ transferred, (ringBuffer ++ transferred).length, 0, []⟩

/-- `OnRecvIoCompleted`. -/
def onRecvIoCompleted (returns : ℕ → Returns Message) (posted : Bool) (fuel : ℕ)
    (ringBuffer transferred : List UInt8) : Option (Bool × Loop) :=
  run sizes returns posted fuel (entry ringBuffer transferred)

/-- A loop head. -/
def LoopHead (Message : Type u) (ringBuffer transferred : List UInt8) : Loop → Prop :=
  Reach (fun loop (returns : Returns Message) => pass sizes loop returns) Unguarded
    (entry ringBuffer transferred)

/-- Every buffer was freed as often as it was taken, which is once at most, and the session's count
was given up once. -/
structure Settled (events : List Event) : Prop where
  freed : ∀ buffer, events.count (.free buffer) = events.count (.alloc buffer)
  once : ∀ buffer, events.count (.alloc buffer) ≤ 1
  decreased : events.count .decreaseIOCount = 1

/-- **The books of a completed receive**: at every loop head `restSize` is the ring's used size, a
pass that succeeds takes the header and what was dequeued off the ring, and the loop ends with its
buffers and the count settled, whatever is returned to it. -/
structure Booked (Message : Type u) (ringBuffer transferred : List UInt8) : Prop where
  restSize : ∀ head, LoopHead sizes Message ringBuffer transferred head →
    head.restSize = head.ringBuffer.length ∧ 0 ≤ head.restSize
  removes : ∀ head (returns : Returns Message) after,
    LoopHead sizes Message ringBuffer transferred head → pass sizes head returns = some after →
      after.ringBuffer = head.ringBuffer.drop
          (sizes.headerSize + (received sizes head returns).dequeuedSize) ∧
        head.ringBuffer.length = after.ringBuffer.length +
          (sizes.headerSize + (received sizes head returns).dequeuedSize)
  ends : ∀ (returns : ℕ → Returns Message) posted fuel, (ringBuffer ++ transferred).length < fuel →
    ∃ result after, onRecvIoCompleted sizes returns posted fuel ringBuffer transferred =
      some (result, after) ∧ Settled after.events

end Model

/-! ### One packet -/

section Packet

variable {sizes : Sizes} {decode : NetBuffer → Option NetBuffer} {ringBuffer : List UInt8}
  {buffer : NetBuffer} {restSize : ℤ}

/-- **What a success takes off the ring**, and what is left of `restSize`. -/
theorem recvStreamToBuffer_success
    (success : (recvStreamToBuffer sizes decode ringBuffer buffer restSize).success = true) :
    ∃ payloadLength, (recvStreamToBuffer sizes decode ringBuffer buffer restSize).dequeuedSize =
        min payloadLength (ringBuffer.length - sizes.headerSize) ∧
      (recvStreamToBuffer sizes decode ringBuffer buffer restSize).ringBuffer =
        (ringBuffer.drop sizes.headerSize).drop payloadLength ∧
      (recvStreamToBuffer sizes decode ringBuffer buffer restSize).restSize = restSize -
        ((recvStreamToBuffer sizes decode ringBuffer buffer restSize).dequeuedSize +
          sizes.headerSize) := by
  unfold recvStreamToBuffer at success ⊢
  dsimp only at success ⊢
  split at success
  · cases success
  · rename_i whole
    rw [if_neg whole]
    split at success
    · cases success
    · exact ⟨_, by rw [List.length_take, List.length_drop], rfl, rfl⟩

/-- **The books of one packet.** -/
theorem recvStreamToBuffer_books (more : sizes.headerSize < ringBuffer.length)
    (counted : restSize = ringBuffer.length)
    (success : (recvStreamToBuffer sizes decode ringBuffer buffer restSize).success = true) :
    let received := recvStreamToBuffer sizes decode ringBuffer buffer restSize
    received.restSize = received.ringBuffer.length ∧
      received.ringBuffer = ringBuffer.drop (sizes.headerSize + received.dequeuedSize) ∧
      ringBuffer.length =
        received.ringBuffer.length + (sizes.headerSize + received.dequeuedSize) := by
  obtain ⟨payloadLength, dequeued, rest, left⟩ := recvStreamToBuffer_success success
  have length : (recvStreamToBuffer sizes decode ringBuffer buffer restSize).ringBuffer.length =
      ringBuffer.length - sizes.headerSize - payloadLength := by
    rw [rest, List.length_drop, List.length_drop]
  refine ⟨?_, ?_, ?_⟩
  · rw [left, length, dequeued]
    omega
  · rw [rest, dequeued, List.drop_drop]
    rcases Nat.le_total payloadLength (ringBuffer.length - sizes.headerSize) with fits | short
    · rw [Nat.min_eq_left fits]
    · -- the packet is not all there, and nothing stays
      rw [Nat.min_eq_right short, List.drop_of_length_le (by omega),
        List.drop_of_length_le (by omega)]
  · rw [length, dequeued]
    omega

/-- The sizes of a library. -/
def libSizes (lib : NetBufferLib) : Sizes :=
  ⟨lib.headerSize, Nat.lt_of_lt_of_le (by decide) lib.header, lib.defaultSize⟩

/-- With the constants and the `Decode` of a library, this is its `RecvStreamToBuffer`. -/
theorem recvStreamToBuffer_lib (lib : NetBufferLib) (ringBuffer : List UInt8) (buffer : NetBuffer)
    (restSize : ℕ) :
    let received := recvStreamToBuffer (libSizes lib) lib.decode ringBuffer buffer restSize
    let other := Network.recvStreamToBuffer lib ringBuffer buffer restSize
    received.success = other.success ∧ received.ringBuffer = other.ring ∧
      received.buffer = other.buffer ∧ received.dequeuedSize = other.copied := by
  unfold recvStreamToBuffer Network.recvStreamToBuffer Network.peekHeader
  dsimp only
  split
  · rename_i short
    rw [if_pos ⟨Int.ofNat_lt.mp short.1, short.2⟩]
    exact ⟨rfl, rfl, rfl, rfl⟩
  · rename_i whole
    rw [if_neg fun short => whole ⟨Int.ofNat_lt.mpr short.1, short.2⟩]
    dsimp only [libSizes]
    generalize lib.decode _ = decoded
    cases decoded <;> exact ⟨rfl, rfl, rfl, rfl⟩

end Packet

/-! ### The loop -/

section Loops

variable {Message : Type u} {sizes : Sizes} {loop after : Loop}

/-- The calls of the first passes. -/
def passEvents (passes : ℕ) : List Event :=
  (List.range passes).flatMap fun buffer => [.alloc buffer, .free buffer]

theorem passEvents_succ (passes : ℕ) :
    passEvents (passes + 1) = passEvents passes ++ [.alloc passes] ++ [.free passes] := by
  unfold passEvents
  rw [List.range_succ, List.flatMap_append]
  simp

/-- **Between two passes**: `restSize` is the ring's used size, and no buffer is out. -/
structure Books (loop : Loop) : Prop where
  restSize : loop.restSize = loop.ringBuffer.length
  events : loop.events = passEvents loop.passes

theorem books_entry (ringBuffer transferred : List UInt8) : Books (entry ringBuffer transferred) :=
  ⟨rfl, rfl⟩

/-- A pass has its calls, successful or not. -/
theorem freed_events (events : loop.events = passEvents loop.passes) (returns : Returns Message) :
    (freed sizes loop returns).events = passEvents (freed sizes loop returns).passes := by
  show loop.events ++ _ ++ _ = passEvents (loop.passes + 1)
  rw [events, passEvents_succ]

theorem received_of_messageSendSuccess {returns : Returns Message}
    (sent : messageSendSuccess sizes loop returns = true) :
    (received sizes loop returns).success = true := by
  unfold messageSendSuccess at sent
  split at sent
  · assumption
  · cases sent

/-- **The step lemma.** -/
theorem books_pass {returns : Returns Message} (books : Books loop)
    (passed : pass sizes loop returns = some after) :
    Books after ∧
      after.ringBuffer =
        loop.ringBuffer.drop (sizes.headerSize + (received sizes loop returns).dequeuedSize) ∧
      loop.ringBuffer.length = after.ringBuffer.length +
        (sizes.headerSize + (received sizes loop returns).dequeuedSize) := by
  obtain ⟨⟨more, sent⟩, stored⟩ := Option.ite_none_right_eq_some.mp passed
  have counted := books.restSize
  obtain ⟨left, rest, length⟩ := recvStreamToBuffer_books (by omega) counted
    (received_of_messageSendSuccess sent)
  cases stored
  exact ⟨⟨left, freed_events books.events returns⟩, rest, length⟩

/-- A pass that succeeds leads from one loop head to the next. -/
theorem run_of_pass {returns : ℕ → Returns Message} {posted : Bool}
    (passed : pass sizes loop (returns loop.passes) = some after) (fuel : ℕ) :
    run sizes returns posted (fuel + 1) loop = run sizes returns posted fuel after := by
  obtain ⟨⟨more, sent⟩, stored⟩ := Option.ite_none_right_eq_some.mp passed
  cases stored
  rw [run, if_pos more, if_pos sent]

theorem books_of_loopHead {ringBuffer transferred : List UInt8}
    (reached : LoopHead sizes Message ringBuffer transferred loop) : Books loop :=
  reached.invariant Books (books_entry _ _) fun _ _ _ books _ passed => (books_pass books passed).1

/-- The calls of whole passes are settled but for the session's count. -/
theorem count_passEvents (passes buffer : ℕ) :
    (passEvents passes).count (.alloc buffer) = (if buffer < passes then 1 else 0) ∧
      (passEvents passes).count (.free buffer) = (if buffer < passes then 1 else 0) ∧
      (passEvents passes).count .decreaseIOCount = 0 := by
  induction passes with
  | zero => exact ⟨rfl, rfl, rfl⟩
  | succ passes ih =>
      obtain ⟨allocs, frees, decreases⟩ := ih
      rw [passEvents_succ]
      simp only [List.count_append, allocs, frees, decreases, List.count_singleton, beq_iff_eq,
        Event.alloc.injEq, Event.free.injEq, reduceCtorEq, if_false, Nat.add_zero, and_true]
      constructor <;> split_ifs <;> omega

/-- At either exit the calls are settled. -/
theorem settled_exit {events : List Event} (passes : ℕ) (posted : Option Bool)
    (exit : events = passEvents passes ++ posted.toList.map .doRecv ++ [.decreaseIOCount]) :
    Settled events := by
  have absent (event : Event) (other : ∀ posted, event ≠ .doRecv posted) :
      (posted.toList.map Event.doRecv).count event = 0 := by
    refine List.count_eq_zero.mpr fun member => ?_
    obtain ⟨result, -, same⟩ := List.mem_map.mp member
    exact other result same.symm
  have counts := count_passEvents passes
  have decreases := (counts 0).2.2
  subst exit
  refine ⟨fun buffer => ?_, fun buffer => ?_, ?_⟩
  · simp [counts, absent]
  · have once : (if buffer < passes then 1 else 0) ≤ 1 := by split <;> omega
    simpa [counts, absent] using once
  · simp [decreases, absent]

/-- **The loop ends**, settled, with more fuel than there are bytes. -/
theorem settled_run (returns : ℕ → Returns Message) (posted : Bool) (fuel : ℕ) (books : Books loop)
    (enough : loop.ringBuffer.length < fuel) :
    ∃ result after, run sizes returns posted fuel loop = some (result, after) ∧
      Settled after.events := by
  induction fuel generalizing loop with
  | zero => exact absurd enough (Nat.not_lt_zero _)
  | succ fuel ih =>
      by_cases more : loop.restSize > sizes.headerSize
      · by_cases sent : messageSendSuccess sizes loop (returns loop.passes) = true
        · have passed : pass sizes loop (returns loop.passes) = some _ := if_pos ⟨more, sent⟩
          obtain ⟨booked, -, length⟩ := books_pass books passed
          have header := sizes.header
          rw [run_of_pass passed]
          exact ih booked (by omega)
        · refine ⟨false, _, by rw [run, if_pos more, if_neg sent], ?_⟩
          refine settled_exit (loop.passes + 1) none ?_
          show (freed sizes loop _).events ++ _ = _
          rw [freed_events books.events, Option.toList_none, List.map_nil, List.append_nil]
          rfl
      · refine ⟨posted, _, by rw [run, if_neg more], settled_exit loop.passes (some posted) ?_⟩
        rw [books.events]
        rfl

/-- **The books of every completed receive**, for any bytes in the ring and any returns. -/
theorem receive_booked (Message : Type u) (sizes : Sizes) (ringBuffer transferred : List UInt8) :
    Booked sizes Message ringBuffer transferred where
  restSize head reached := by
    have counted := (books_of_loopHead reached).restSize
    exact ⟨counted, by omega⟩
  removes head returns after reached passed := (books_pass (books_of_loopHead reached) passed).2
  ends returns posted fuel enough :=
    settled_run returns posted fuel (books_entry ringBuffer transferred) enough

end Loops

end ActorModelServer.ReceiveLoop
