/-
**Injecting a packet in a test.**

`SendPacketForTest` builds the buffer of a packet as `SendPacket` does, and makes a message of it as
the receiving code does. In between, the receiving code decodes: `BuildPacketBuffer` leaves an
encoded buffer, and the test reads the packet id and the arguments off the encoded bytes.

* `buildPacketBuffer_spec` — the payload that is encoded is the id and the body.
* `sendPacketForTest_eq`, `receive_eq` — the calls either path makes, by the bytes it reads.
* `agrees_iff` — the paths make the same calls exactly when the undecoded bytes spell the call that
  the id and the body spell (`Spells`).
* `ping_not_injected` — a `Ping` whose handler the test does not call.
-/

import ActorModelServer.Network.PacketDispatch
import ActorModelServer.Network.PacketEncoders

namespace ActorModelServer.TestInjection

open Network (NetBuffer NetBufferLib Sendable encode deserialize packetId recvStreamToBuffer
  recvStreamToBuffer_complete XorEncoded xorEncode xorLib xorLib_lawful)
open PacketDispatch (ActorPointer Buffers Call Handler Message Registration body created created_eq
  deserialize_body firstHandler skipPacketId)
open PacketEncoders (Packet littleEndian)

section Model

/-- A `NetBuffer` with what the encoder uses: `m_iWriteLast` and `m_bIsEncoded`. -/
structure CodecBuffer extends NetBuffer where
  iWriteLast : ℕ
  isEncoded : Bool

/-- `operator<<` and `WriteBuffer`: the bytes are copied to the write position. -/
def CodecBuffer.write (buffer : CodecBuffer) (bytes : List UInt8) : CodecBuffer :=
  { buffer with
    toNetBuffer := { buffer.toNetBuffer.writeAt buffer.iWrite bytes with
      iWrite := buffer.iWrite + bytes.length } }

/-- What the sending code uses of the library, beyond what the receiving code does. -/
structure CodecLib extends NetBufferLib where
  encodeBuffer : CodecBuffer → CodecBuffer
  /-- The bytes from `GetBufferPtr` on, `GetAllUseSize` of them. -/
  sent : CodecBuffer → List UInt8

/-- **The laws of the library**: a fresh buffer has room for the header, `Encode` makes a frame of
what was written behind the header, `Decode` takes it back, and what is readable in an encoded
buffer is not the plain payload. -/
structure CodecLib.Lawful (lib : CodecLib) (Encoded : List UInt8 → List UInt8 → Prop) : Prop where
  receiving : lib.toNetBufferLib.Lawful Encoded
  room : lib.headerSize ≤ lib.alloc.serializeBuffer.length
  decoded : ∀ buffer decoded, lib.decode buffer = some decoded →
    decoded.iWrite ≤ decoded.serializeBuffer.length
  encodes : ∀ (buffer : CodecBuffer) payload, buffer.iRead = 0 → buffer.iWrite = 0 →
    payload.length ≤ lib.defaultSize → buffer.iWriteLast = lib.headerSize + payload.length →
      (buffer.serializeBuffer.take buffer.iWriteLast).drop lib.headerSize = payload →
        Encoded payload (lib.sent (lib.encodeBuffer buffer)) ∧
          (lib.encodeBuffer buffer).readable ≠ payload

variable (lib : CodecLib)

/-- `NetBuffer::Alloc`: a fresh buffer is not encoded. -/
def CodecLib.allocate : CodecBuffer := ⟨lib.alloc, 0, false⟩

/-- `BuildPacketBuffer`. -/
def buildPacketBuffer (packet : Packet) : CodecBuffer :=
  let buffer := (lib.allocate.write (littleEndian packet.packetId)).write packet.body
  if buffer.isEncoded then buffer
  else
    lib.encodeBuffer
      { buffer with
        toNetBuffer := { buffer.toNetBuffer with iWrite := 0, iRead := 0 }
        iWriteLast := buffer.iWrite }

/-- `InjectPacketForTest`. -/
def injectPacketForTest (packet : Packet) : CodecBuffer := buildPacketBuffer lib packet

/-- The calls of an executed message; of `nullopt` there are none. -/
def executed (message : Option Message) (later : Buffers) : List Call :=
  match message with
  | none => []
  | some message => message later

variable (registrations : List Registration) (session : ActorPointer) (packet : Packet)

/-- `SendPacketForTest`: the calls it makes. The buffer is freed before the message runs. -/
def sendPacketForTest (later : Buffers) : List Call :=
  let testBuffer := injectPacketForTest lib packet
  executed (created registrations session 0 fun _ => testBuffer.toNetBuffer) later

/-- The network path: the frame arrives, whatever comes behind it, and is read. -/
def receive (rest : List UInt8) (later : Buffers) : List Call :=
  let ring := lib.sent (buildPacketBuffer lib packet) ++ rest
  let received := recvStreamToBuffer lib.toNetBufferLib ring lib.alloc ring.length
  if received.success = true then
    executed (created registrations session 0 fun _ => received.buffer) later
  else []

/-- Both paths make the same calls, whatever the buffers hold when the messages run. -/
def Agrees : Prop :=
  ∀ rest later later', sendPacketForTest lib registrations session packet later =
    receive lib registrations session packet rest later'

/-- The payload of a packet: its id and its body. -/
def payload : List UInt8 := littleEndian packet.packetId ++ packet.body

/-- The bytes spell a call: an id whose first handler it is, and an encoding of the arguments. -/
def Spells (bytes : List UInt8) (handler : Handler) (args : Network.Tuple handler.types) : Prop :=
  4 ≤ bytes.length ∧ firstHandler registrations (packetId bytes) = some handler ∧
    Sendable handler.types args ∧ encode handler.types args <+: bytes.drop 4

end Model

/-! ### What is written -/

section Written

variable {lib : CodecLib} {Encoded : List UInt8 → List UInt8 → Prop}

/-- A write appends to what was written. -/
theorem written_write {buffer : CodecBuffer} (bytes : List UInt8)
    (room : buffer.iWrite ≤ buffer.serializeBuffer.length) :
    (buffer.write bytes).written = buffer.written ++ bytes ∧
      (buffer.write bytes).iWrite = buffer.iWrite + bytes.length ∧
      (buffer.write bytes).iWrite ≤ (buffer.write bytes).serializeBuffer.length := by
  have front : (buffer.serializeBuffer.take buffer.iWrite).length = buffer.iWrite :=
    List.length_take_of_le room
  refine ⟨?_, rfl, ?_⟩
  · show ((buffer.serializeBuffer.take buffer.iWrite ++ bytes) ++ _).take
      (buffer.iWrite + bytes.length) = buffer.serializeBuffer.take buffer.iWrite ++ bytes
    rw [List.take_append_of_le_length (by simp [front]), List.take_of_length_le (by simp [front])]
  · show buffer.iWrite + bytes.length ≤
      (buffer.serializeBuffer.take buffer.iWrite ++ bytes ++ _).length
    rw [List.length_append, List.length_append, front]
    exact Nat.le_add_right _ _

/-- **The frame is an encoding of the id and the body**, and what is readable in the encoded buffer
is something else. -/
theorem buildPacketBuffer_spec (lawful : lib.Lawful Encoded) {packet : Packet}
    (fits : (payload packet).length ≤ lib.defaultSize) :
    Encoded (payload packet) (lib.sent (buildPacketBuffer lib packet)) ∧
      (buildPacketBuffer lib packet).readable ≠ payload packet := by
  have start : lib.allocate.iWrite = lib.headerSize := lawful.receiving.alloc
  have room : lib.allocate.iWrite ≤ lib.allocate.serializeBuffer.length := by
    rw [start]
    exact lawful.room
  obtain ⟨first, place, room'⟩ := written_write (littleEndian packet.packetId) room
  obtain ⟨second, last, -⟩ := written_write packet.body room'
  rw [first] at second
  have header : lib.allocate.written.length = lib.headerSize := by
    rw [NetBuffer.written, List.length_take_of_le room, start]
  refine lawful.encodes _ (payload packet) rfl rfl fits ?_ ?_
  · show ((lib.allocate.write _).write _).iWrite = _
    rw [last, place, start, payload, List.length_append]
    omega
  · show List.drop lib.headerSize (NetBuffer.written _) = _
    rw [second, ← header, List.append_assoc, List.drop_left, payload]

end Written

/-! ### What is called -/

section Called

variable {lib : CodecLib} {Encoded : List UInt8 → List UInt8 → Prop}
  {registrations : List Registration} {session : ActorPointer} {packet : Packet}

/-- The call that the readable bytes of a buffer spell. -/
def spelled (registrations : List Registration) (session : ActorPointer) (buffer : NetBuffer) :
    Option Call :=
  if buffer.useSize < 4 then none
  else (firstHandler registrations (packetId buffer.readable)).bind fun handler =>
    (deserialize handler.types (skipPacketId buffer)).map fun args => ⟨session, handler, args⟩

/-- An executed message makes the call that is spelled, and no other. -/
theorem executed_created (buffer : NetBuffer) (later : Buffers) :
    executed (created registrations session 0 fun _ => buffer) later =
      (spelled registrations session buffer).toList := by
  rw [created_eq, spelled]
  by_cases small : buffer.useSize < 4
  · rw [if_pos small, if_pos small]
    rfl
  · rw [if_neg small, if_neg small]
    cases firstHandler registrations (packetId buffer.readable) <;> rfl

/-- The bytes behind the packet id. -/
theorem body_eq_drop {buffer : NetBuffer} (enough : 4 ≤ buffer.useSize) :
    body buffer = buffer.readable.drop 4 := by
  have split := buffer.cursor.ahead_eq buffer.byteAt enough
  have behind : (buffer.cursor.advance 4).ahead buffer.byteAt = body buffer := by
    have rest : buffer.iWrite - (buffer.iRead + 4) = buffer.useSize - 4 := Nat.sub_add_eq _ _ _
    simp only [body, NetBuffer.readable, Reader.Cursor.ahead, Reader.Cursor.symbols,
      NetBuffer.cursor, Reader.Cursor.advance, skipPacketId, NetBuffer.useSize, rest]
    rfl
  rw [← behind, NetBuffer.readable, split]
  exact (List.drop_left' (by simp)).symm

/-- **The call that is spelled** is one of the session, and the bytes spell it. -/
theorem spelled_iff {buffer : NetBuffer} {call : Call} :
    spelled registrations session buffer = some call ↔
      call.derived = session ∧ Spells registrations buffer.readable call.handler call.args := by
  obtain ⟨derived, handler, args⟩ := call
  have size : buffer.readable.length = buffer.useSize := buffer.cursor.length_ahead buffer.byteAt
  have argument : (∃ others, deserialize handler.types (skipPacketId buffer) = some others ∧
      (⟨session, handler, others⟩ : Call) = ⟨derived, handler, args⟩) ↔
      derived = session ∧ deserialize handler.types (skipPacketId buffer) = some args := by
    constructor
    · rintro ⟨others, read, same⟩
      cases same
      exact ⟨rfl, read⟩
    · rintro ⟨rfl, read⟩
      exact ⟨args, read, rfl⟩
  unfold spelled Spells
  by_cases small : buffer.useSize < 4
  · rw [if_pos small, size]
    constructor
    · intro none
      cases none
    · rintro ⟨-, enough, -⟩
      exact absurd small (Nat.not_lt.mpr enough)
  · have enough := Nat.not_lt.mp small
    rw [if_neg small, size, ← body_eq_drop enough, Option.bind_eq_some_iff]
    constructor
    · rintro ⟨other, found, made⟩
      obtain ⟨others, read, same⟩ := Option.map_eq_some_iff.mp made
      cases same
      exact ⟨rfl, enough, found, deserialize_body.mp read⟩
    · rintro ⟨own, -, found, spells⟩
      exact ⟨handler, found, Option.map_eq_some_iff.mpr
        (argument.mpr ⟨own, deserialize_body.mpr spells⟩)⟩

/-- **The calls of the test**: those the undecoded bytes spell. -/
theorem sendPacketForTest_eq (later : Buffers) :
    sendPacketForTest lib registrations session packet later =
      (spelled registrations session (buildPacketBuffer lib packet).toNetBuffer).toList :=
  executed_created _ later

/-- What `RecvStreamToBuffer` returns was decoded. -/
theorem decode_of_success {receiving : NetBufferLib} {ring : List UInt8} {buffer : NetBuffer}
    {restSize : ℕ} (success : (recvStreamToBuffer receiving ring buffer restSize).success = true) :
    ∃ taken, receiving.decode taken =
      some (recvStreamToBuffer receiving ring buffer restSize).buffer := by
  unfold recvStreamToBuffer at success ⊢
  dsimp only at success ⊢
  split at success
  · cases success
  · rename_i whole
    rw [if_neg whole]
    split at success
    · cases success
    · rename_i decoded taken
      exact ⟨_, taken⟩

variable (session) in
/-- **The calls of the network path**: those the id and the body spell. -/
theorem receive_eq (lawful : lib.Lawful Encoded)
    (fits : (payload packet).length ≤ lib.defaultSize) (rest : List UInt8) :
    ∃ decoded : NetBuffer, decoded.readable = payload packet ∧ ∀ later,
      receive lib registrations session packet rest later =
        (spelled registrations session decoded).toList := by
  obtain ⟨encoded, -⟩ := buildPacketBuffer_spec lawful fits
  obtain ⟨decoded, unread, received⟩ := recvStreamToBuffer_complete lawful.receiving encoded rest
  have success := congrArg Network.Received.success received
  obtain ⟨taken, made⟩ := decode_of_success success
  rw [received] at made
  refine ⟨decoded, ?_, fun later => ?_⟩
  · rw [NetBuffer.readable_eq_unread (lawful.decoded _ _ made), unread]
  · rw [receive, received]
    exact executed_created decoded later

/-- **The test injects a packet as the network does** exactly when the bytes that are readable in
the encoded buffer spell the call that the id and the body spell. -/
theorem agrees_iff (lawful : lib.Lawful Encoded)
    (fits : (payload packet).length ≤ lib.defaultSize) :
    Agrees lib registrations session packet ↔ ∀ handler args,
      Spells registrations (buildPacketBuffer lib packet).readable handler args ↔
        Spells registrations (payload packet) handler args := by
  have spells (buffer : NetBuffer) (handler : Handler) (args : Network.Tuple handler.types) :
      spelled registrations session buffer = some ⟨session, handler, args⟩ ↔
        Spells registrations buffer.readable handler args :=
    spelled_iff.trans (and_iff_right rfl)
  constructor
  · intro agrees handler args
    obtain ⟨decoded, plain, calls⟩ := receive_eq session lawful fits []
    have same := agrees [] (fun _ => lib.alloc) (fun _ => lib.alloc)
    rw [sendPacketForTest_eq, calls] at same
    have call : spelled registrations session (buildPacketBuffer lib packet).toNetBuffer =
        spelled registrations session decoded := by
      refine Option.ext fun call => ?_
      rw [← Option.mem_toList, same, Option.mem_toList]
    rw [← plain, ← spells, ← spells, call]
  · intro alike rest later later'
    obtain ⟨decoded, plain, calls⟩ := receive_eq session lawful fits rest
    rw [sendPacketForTest_eq, calls]
    refine congrArg Option.toList (Option.ext fun call => ?_)
    obtain ⟨derived, handler, args⟩ := call
    rw [spelled_iff, spelled_iff, plain]
    exact and_congr_right fun _ => alike handler args

/-- An id that is not registered is spelled by no bytes. -/
theorem not_spells_of_unregistered {bytes : List UInt8}
    (unregistered : firstHandler registrations (packetId bytes) = none) {handler : Handler}
    {args : Network.Tuple handler.types} : ¬ Spells registrations bytes handler args := by
  rintro ⟨-, found, -⟩
  rw [unregistered] at found
  cases found

end Called

/-! ### A `Ping` -/

section Ping

/-- The encoder of the library: the header goes to the front, and the payload is xored. -/
def xorEncodeBuffer (buffer : CodecBuffer) : CodecBuffer where
  serializeBuffer := xorEncode 0x5a ((buffer.serializeBuffer.take buffer.iWriteLast).drop 5)
  iRead := buffer.iRead
  iWrite := buffer.iWriteLast
  iWriteLast := buffer.iWriteLast
  isEncoded := true

/-- The library, with buffers of its size. -/
def xorCodec : CodecLib where
  toNetBufferLib := { xorLib 512 with alloc := ⟨List.replicate 517 0, 5, 5⟩ }
  encodeBuffer := xorEncodeBuffer
  sent := fun buffer => buffer.serializeBuffer

theorem xorCodec_lawful : xorCodec.Lawful XorEncoded where
  receiving := { xorLib_lawful 512 with alloc := rfl }
  room := by
    show 5 ≤ (List.replicate 517 (0 : UInt8)).length
    rw [List.length_replicate]
    decide
  decoded := by
    intro buffer decoded success
    change Network.xorDecode buffer = some decoded at success
    rw [Network.xorDecode] at success
    split at success
    · rename_i matched
      cases success
      have long := congrArg List.length matched.2
      rw [Network.length_xorEncode] at long
      simp only [List.length_append, List.length_take]
      omega
    · cases success
  encodes := by
    intro buffer payload start _ short last written
    have front : (buffer.serializeBuffer.take buffer.iWriteLast).drop 5 = payload := written
    have place : buffer.iWriteLast = 5 + payload.length := last
    have small : payload.length ≤ 512 := short
    constructor
    · show XorEncoded payload
        (xorEncode 0x5a ((buffer.serializeBuffer.take buffer.iWriteLast).drop 5))
      rw [front]
      exact ⟨by omega, 0x5a, rfl⟩
    · intro same
      have size : (xorEncodeBuffer buffer).readable.length = buffer.iWriteLast - buffer.iRead :=
        (xorEncodeBuffer buffer).cursor.length_ahead _
      have length : (xorEncodeBuffer buffer).readable.length = payload.length :=
        congrArg List.length same
      omega

/-- `HandlePing` is registered for the id 1; it has no arguments. -/
def pingHandler : List Registration := [⟨1, ⟨0, [], .nil⟩⟩]

/-- A `Ping`: the vtable pointer only. -/
def ping : Packet := ⟨1, List.replicate 8 0xf0, by decide, by decide⟩

/-- The plain payload of a `Ping` spells a call; its encoded bytes do not. -/
theorem agrees_iff_ping : ¬ Agrees xorCodec pingHandler 7 ping := by
  rw [agrees_iff xorCodec_lawful (by decide)]
  intro alike
  have plain : Spells pingHandler (payload ping) ⟨0, [], .nil⟩ () :=
    ⟨by decide, by decide, trivial, List.nil_prefix⟩
  have unregistered :
      firstHandler pingHandler (packetId (buildPacketBuffer xorCodec ping).readable) = none := by
    decide +kernel
  exact not_spells_of_unregistered unregistered ((alike _ _).mpr plain)

/-- **The test does not call the handler of a `Ping`**, and the network path does. -/
theorem ping_not_injected :
    ¬ ∀ registrations session packet, Agrees xorCodec registrations session packet := by
  intro agrees
  have same := agrees pingHandler 7 ping [] (fun _ => xorCodec.alloc) (fun _ => xorCodec.alloc)
  have counts := congrArg List.length same
  revert counts
  decide +kernel

end Ping

end ActorModelServer.TestInjection
