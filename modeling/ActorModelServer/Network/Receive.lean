/-
**Receiving packets.**

`RecvStreamToBuffer` and `OnRecvIoCompleted` of the server, and `MakePacketsFromRingBuffer` of the
test client. A ring buffer is its unread bytes: `Peek` reads the first ones, `RemoveData` and
`Dequeue` take `min(n, used)` of them off, and what a completed receive brought is behind them.

* `recvStreamToBuffer_complete`, `recvStreamToBuffer_incomplete` — on a complete frame the server
  reads its payload; on a frame that is not all there, `Decode` fails on the bytes it has taken.
-/

import ActorModelServer.Actor.Mailbox
import ActorModelServer.Network.NetBuffer

namespace ActorModelServer.Network

universe u

section Model

variable (lib : NetBufferLib)

/-- `Peek` of a header into a buffer, and `m_iRead = 0`. -/
def peekHeader (ring : List UInt8) (buffer : NetBuffer) : NetBuffer :=
  { buffer.writeAt 0 (ring.take lib.headerSize) with iRead := 0 }

/-- `Dequeue` of a payload to the buffer's write position, and `m_iWrite += dequeuedSize`. -/
def dequeuePayload (ring : List UInt8) (buffer : NetBuffer) (payloadLength : ℕ) : NetBuffer :=
  { buffer.writeAt buffer.iWrite (ring.take payloadLength) with
    iWrite := buffer.iWrite + (ring.take payloadLength).length }

/-- What `RecvStreamToBuffer` returns and leaves. -/
structure Received where
  success : Bool
  ring : List UInt8
  buffer : NetBuffer
  restSize : ℕ
  /-- How many payload bytes were copied into the buffer. -/
  copied : ℕ

/-- `RecvStreamToBuffer`. -/
def recvStreamToBuffer (ring : List UInt8) (buffer : NetBuffer) (restSize : ℕ) : Received :=
  let buffer := peekHeader lib ring buffer
  let payloadLength := announced buffer.serializeBuffer
  if restSize < payloadLength + lib.headerSize ∧ lib.defaultSize < payloadLength then
    ⟨false, ring, buffer, restSize, 0⟩
  else
    -- a frame that is not all there goes on here, too
    let ring := ring.drop lib.headerSize
    let dequeuedSize := (ring.take payloadLength).length
    let buffer := dequeuePayload ring buffer payloadLength
    match lib.decode buffer with
    | none => ⟨false, ring.drop payloadLength, buffer, restSize, dequeuedSize⟩
    | some decoded =>
        ⟨true, ring.drop payloadLength, decoded, restSize - (dequeuedSize + lib.headerSize),
          dequeuedSize⟩

/-- A `PACKET_ID`, an unsigned int, low byte first. -/
def packetId (bytes : List UInt8) : ℕ :=
  (bytes.getD 0 0).toNat + 2 ^ 8 * (bytes.getD 1 0).toNat + 2 ^ 16 * (bytes.getD 2 0).toNat +
    2 ^ 24 * (bytes.getD 3 0).toNat

/-- A session, as far as receiving uses it. -/
structure RecvSession (Message : Type u) where
  ringBuffer : List UInt8
  mailbox : Actor.Mailbox Message
  /-- A factory makes a message of the bytes behind the packet id. -/
  messageFactories : ℕ → Option (List UInt8 → Message)
  ioCount : ℤ
  /-- How often `ReleaseSession` was called. -/
  released : ℕ

variable {Message : Type u}

/-- `CreateMessageFromPacket`, with `FindFunctionObject`. -/
def createMessageFromPacket (messageFactories : ℕ → Option (List UInt8 → Message))
    (buffer : NetBuffer) : Option Message :=
  if buffer.useSize < 4 then none
  else (messageFactories (packetId buffer.unread)).map fun factory => factory (buffer.unread.drop 4)

/-- `SendMessage`; a stopped actor takes nothing. -/
def sendMessage (mailbox : Actor.Mailbox Message) (message : Message) :
    Option (Actor.Mailbox Message) :=
  if mailbox.isStop = true then none else some (mailbox.push (some message))

namespace RecvSession

/-- `DecreaseIOCount`. -/
def decreaseIOCount (session : RecvSession Message) : RecvSession Message :=
  { session with
    ioCount := session.ioCount - 1
    released := if session.ioCount = 1 then session.released + 1 else session.released }

/-- `DoRecv`: the kernel takes the receive, or not. -/
def doRecv (session : RecvSession Message) (posted : Bool) : Bool × RecvSession Message :=
  let increased := { session with ioCount := session.ioCount + 1 }
  if posted then (true, increased) else (false, increased.decreaseIOCount)

end RecvSession

theorem recvStreamToBuffer_restSize {ring : List UInt8} {buffer : NetBuffer} {restSize : ℕ}
    (success : (recvStreamToBuffer lib ring buffer restSize).success = true)
    (more : lib.headerSize < restSize) :
    (recvStreamToBuffer lib ring buffer restSize).restSize < restSize := by
  have header := lib.header
  unfold recvStreamToBuffer at success ⊢
  dsimp only at success ⊢
  split at success
  · cases success
  · rename_i whole
    rw [if_neg whole]
    split at success
    · cases success
    · dsimp only
      omega

/-- The loop of `OnRecvIoCompleted`. -/
def readPackets (session : RecvSession Message) (restSize : ℕ) : Bool × RecvSession Message :=
  if _more : lib.headerSize < restSize then
    let received := recvStreamToBuffer lib session.ringBuffer lib.alloc restSize
    let taken := { session with ringBuffer := received.ring }
    if _success : received.success = true then
      match createMessageFromPacket session.messageFactories received.buffer with
      | none => (false, taken)
      | some message =>
          match sendMessage session.mailbox message with
          | none => (false, taken)
          | some mailbox => readPackets { taken with mailbox := mailbox } received.restSize
    else (false, taken)
  else (true, session)
termination_by restSize
decreasing_by exact recvStreamToBuffer_restSize lib _success _more

/-- `OnRecvIoCompleted`, when a receive brought these bytes. -/
def onRecvIoCompleted (session : RecvSession Message) (transferred : List UInt8) (posted : Bool) :
    Bool × RecvSession Message :=
  let moved := { session with ringBuffer := session.ringBuffer ++ transferred }
  let read := readPackets lib moved moved.ringBuffer.length
  if read.1 = true then
    let received := read.2.doRecv posted
    (received.1, received.2.decreaseIOCount)
  else (false, read.2.decreaseIOCount)

/-- The client's side of a receive: its ring, and `recvBufferQueue`. -/
structure SimpleClient where
  recvRingBuffer : List UInt8
  recvBufferQueue : List NetBuffer
  /-- How many payload bytes were copied into each buffer. -/
  copied : List ℕ

/-- The loop of `MakePacketsFromRingBuffer`. -/
def makePackets (client : SimpleClient) (restSize : ℕ) : Bool × SimpleClient :=
  if lib.headerSize < restSize then
    let buffer := peekHeader lib client.recvRingBuffer lib.alloc
    let payloadLength := announced buffer.serializeBuffer
    if restSize < payloadLength + lib.headerSize then
      (!decide (lib.defaultSize < payloadLength), client)
    else
      let ring := client.recvRingBuffer.drop lib.headerSize
      let dequeuedSize := (ring.take payloadLength).length
      let taken := { client with
        recvRingBuffer := ring.drop payloadLength
        copied := client.copied ++ [dequeuedSize] }
      match lib.decode (dequeuePayload ring buffer payloadLength) with
      | none => (false, taken)
      | some decoded =>
          makePackets { taken with recvBufferQueue := client.recvBufferQueue ++ [decoded] }
            (restSize - (dequeuedSize + lib.headerSize))
  else (true, client)
termination_by restSize
decreasing_by
  have header := lib.header
  omega

/-- `MakePacketsFromRingBuffer`. -/
def makePacketsFromRingBuffer (client : SimpleClient) : Bool × SimpleClient :=
  makePackets lib client client.recvRingBuffer.length

end Model

/-! ### What is taken off the ring -/

section Taken

variable {lib : NetBufferLib} {Encoded : List UInt8 → List UInt8 → Prop} {ring : List UInt8}

/-- The length a header announces is the one in the ring. -/
theorem announced_peekHeader (whole : lib.headerSize ≤ ring.length) (buffer : NetBuffer) :
    announced (peekHeader lib ring buffer).serializeBuffer = announced ring := by
  have header := lib.header
  rw [← announced_take header ring, ← announced_take header]
  congr 1
  simp [peekHeader, NetBuffer.writeAt, whole]

/-- The buffer has the header and what was there of the payload. -/
theorem written_dequeuePayload (whole : lib.headerSize ≤ ring.length) {buffer : NetBuffer}
    (fresh : buffer.iWrite = lib.headerSize) (payloadLength : ℕ) :
    (dequeuePayload (ring.drop lib.headerSize) (peekHeader lib ring buffer)
      payloadLength).written = ring.take (lib.headerSize + payloadLength) := by
  have peeked : (peekHeader lib ring buffer).serializeBuffer.take lib.headerSize =
      ring.take lib.headerSize := by
    simp [peekHeader, NetBuffer.writeAt, whole]
  have place : (peekHeader lib ring buffer).iWrite = lib.headerSize := fresh
  have length : (ring.take lib.headerSize).length = lib.headerSize := List.length_take_of_le whole
  rw [NetBuffer.written, dequeuePayload, NetBuffer.writeAt]
  simp only [place, peeked]
  rw [List.take_append_of_le_length (by simp [whole]), List.take_of_length_le (by simp [length]),
    ← List.take_add]

/-- Reading starts at the front of a received buffer. -/
theorem iRead_dequeuePayload (buffer : NetBuffer) (payloadLength : ℕ) :
    (dequeuePayload (ring.drop lib.headerSize) (peekHeader lib ring buffer)
      payloadLength).iRead = 0 := rfl

/-- A frame at the front of the ring announces its payload, and is decoded to it. -/
theorem decode_of_frame (lawful : lib.Lawful Encoded) {payload frame : List UInt8}
    (encoded : Encoded payload frame) (rest : List UInt8) :
    announced (frame ++ rest) = payload.length ∧ ∃ decoded, decoded.unread = payload ∧
      lib.decode (dequeuePayload ((frame ++ rest).drop lib.headerSize)
        (peekHeader lib (frame ++ rest) lib.alloc) payload.length) = some decoded := by
  obtain ⟨length, told⟩ := lawful.length payload frame encoded
  have whole : lib.headerSize ≤ (frame ++ rest).length := by
    rw [List.length_append]
    omega
  refine ⟨?_, ?_⟩
  · rw [← told, ← announced_take lib.header, ← announced_take lib.header frame,
      List.take_append_of_le_length (by omega)]
  · have written := written_dequeuePayload whole lawful.alloc payload.length
    rw [← length, List.take_left] at written
    obtain ⟨decoded, success, unread⟩ := lawful.decode _ payload
      (iRead_dequeuePayload lib.alloc payload.length) (written ▸ encoded)
    exact ⟨decoded, unread, success⟩

/-- **A complete frame** is decoded, and taken off the ring. -/
theorem recvStreamToBuffer_complete (lawful : lib.Lawful Encoded) {payload frame : List UInt8}
    (encoded : Encoded payload frame) (rest : List UInt8) :
    ∃ decoded, decoded.unread = payload ∧
      recvStreamToBuffer lib (frame ++ rest) lib.alloc (frame ++ rest).length =
        ⟨true, rest, decoded, rest.length, payload.length⟩ := by
  obtain ⟨length, -⟩ := lawful.length payload frame encoded
  obtain ⟨told, decoded, unread, success⟩ := decode_of_frame lawful encoded rest
  have whole : lib.headerSize ≤ (frame ++ rest).length := by
    rw [List.length_append]
    omega
  refine ⟨decoded, unread, ?_⟩
  have enough : ¬ ((frame ++ rest).length < payload.length + lib.headerSize ∧
      lib.defaultSize < payload.length) := by
    rw [List.length_append]
    omega
  have off : ((frame ++ rest).drop lib.headerSize).drop payload.length = rest := by
    rw [List.drop_drop, ← length, List.drop_left]
  have dequeued : (((frame ++ rest).drop lib.headerSize).take payload.length).length =
      payload.length := by
    rw [List.length_take_of_le]
    rw [List.length_drop, List.length_append]
    omega
  have left : (frame ++ rest).length - (payload.length + lib.headerSize) = rest.length := by
    rw [List.length_append]
    omega
  simp only [recvStreamToBuffer, announced_peekHeader whole, told, if_neg enough, success, off,
    dequeued, left]

/-- **An incomplete frame** fails: what was there of it is no frame. -/
theorem recvStreamToBuffer_incomplete (lawful : lib.Lawful Encoded)
    (whole : lib.headerSize ≤ ring.length)
    (short : ring.length < lib.headerSize + announced ring) :
    (recvStreamToBuffer lib ring lib.alloc ring.length).success = false := by
  have written := written_dequeuePayload whole lawful.alloc (announced ring)
  rw [List.take_of_length_le (Nat.le_of_lt short)] at written
  simp only [recvStreamToBuffer, announced_peekHeader whole]
  split
  · rfl
  · split
    · rfl
    · rename_i decoded success
      obtain ⟨payload, encoded⟩ := lawful.decode_only _ decoded
        (iRead_dequeuePayload lib.alloc (announced ring)) success
      rw [written] at encoded
      obtain ⟨length, told⟩ := lawful.length payload ring encoded
      omega

end Taken

end ActorModelServer.Network
