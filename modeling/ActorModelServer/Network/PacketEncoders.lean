/-
**The two packet encoders.**

`Client::SendPacket` and `Session::BuildPacketBuffer` write the id of a packet and the bytes of its
object behind the vtable pointer into a buffer. The client adds `sizeof(char*)` to a pointer to the
object, which counts in objects of `IPacket`; the server casts to `char*` first.

* `buildPacketBuffer_faithful` — the server writes the id and the body, and reads the object only.
* `encoders_agree_iff` — the client does the same exactly for the packets without a body.
* `encoders_disagree` — the two payloads of an `AppearActor`.
-/

import Mathlib.Algebra.Group.Nat.Defs
import Mathlib.Data.List.TakeDrop
import Mathlib.Tactic.Common

namespace ActorModelServer.PacketEncoders

section Model

/-- `sizeof(char*)`. -/
def sizeofPointer : ℕ := 8

/-- `sizeof(IPacket)`: the vtable pointer. -/
def sizeofIPacket : ℕ := 8

/-- A packet: what `GetPacketId` returns, and the bytes of the object, the vtable pointer first. -/
structure Packet where
  packetId : UInt32
  bytes : List UInt8
  vtable : sizeofPointer ≤ bytes.length
  /-- No type of the compiler is larger; `GetPacketSize` is an `int`. -/
  small : bytes.length < 2 ^ 31

/-- The fields behind the vtable pointer. -/
def Packet.body (packet : Packet) : List UInt8 := packet.bytes.drop sizeofPointer

/-- `GET_PACKET_SIZE`. -/
def Packet.getPacketSize (packet : Packet) : ℕ := packet.bytes.length - 8

/-- A packet object in memory. -/
structure PacketObject where
  memory : ℕ → UInt8
  address : ℕ
  packet : Packet
  stored : ∀ index (inside : index < packet.bytes.length),
    memory (address + index) = packet.bytes[index]

/-- The payload of a `NetBuffer`, with the addresses it was copied from. -/
structure SendBuffer where
  payload : List UInt8
  sources : List ℕ
  deriving DecidableEq, Repr

/-- The bytes of a number, low byte first. -/
def littleEndian (value : UInt32) : List UInt8 :=
  (List.range 4).map fun index => UInt8.ofNat (value.toNat / 256 ^ index)

namespace SendBuffer

/-- `NetBuffer::Alloc`. -/
def alloc : SendBuffer := ⟨[], []⟩

/-- `operator<<`. -/
def insert (buffer : SendBuffer) (value : UInt32) : SendBuffer :=
  { buffer with payload := buffer.payload ++ littleEndian value }

/-- `WriteBuffer`. -/
def writeBuffer (buffer : SendBuffer) (memory : ℕ → UInt8) (targetPtr size : ℕ) : SendBuffer where
  payload := buffer.payload ++ (List.range size).map fun offset => memory (targetPtr + offset)
  sources := buffer.sources ++ (List.range size).map fun offset => targetPtr + offset

end SendBuffer

/-- `Client::SendPacket`, up to the encoding. -/
def sendPacket (object : PacketObject) : SendBuffer :=
  let buffer := SendBuffer.alloc.insert object.packet.packetId
  -- `&packet + sizeof(char*)`
  let targetPtr := object.address + sizeofPointer * sizeofIPacket
  buffer.writeBuffer object.memory targetPtr object.packet.getPacketSize

/-- `Session::BuildPacketBuffer`, up to the encoding. -/
def buildPacketBuffer (object : PacketObject) : SendBuffer :=
  let buffer := SendBuffer.alloc.insert object.packet.packetId
  buffer.writeBuffer object.memory (object.address + 8) object.packet.getPacketSize

/-- The payload is the id and the body, copied from inside the object. -/
structure Faithful (object : PacketObject) (buffer : SendBuffer) : Prop where
  payload : buffer.payload = littleEndian object.packet.packetId ++ object.packet.body
  inside : ∀ source ∈ buffer.sources,
    object.address ≤ source ∧ source < object.address + object.packet.bytes.length

/-- Both encoders write the same payload, the id and the body. -/
structure EncodersAgree (object : PacketObject) : Prop where
  same : (sendPacket object).payload = (buildPacketBuffer object).payload
  client : Faithful object (sendPacket object)
  server : Faithful object (buildPacketBuffer object)

end Model

/-! ### The two payloads -/

section Payloads

theorem length_body (packet : Packet) : packet.body.length = packet.getPacketSize := by
  unfold Packet.body Packet.getPacketSize sizeofPointer
  rw [List.length_drop]

/-- What is behind the vtable pointer is the body. -/
theorem read_body (object : PacketObject) :
    ((List.range object.packet.getPacketSize).map fun offset =>
      object.memory (object.address + 8 + offset)) = object.packet.body := by
  apply List.ext_getElem
  · rw [List.length_map, List.length_range, length_body]
  · intro index before _
    have inside : 8 + index < object.packet.bytes.length := by
      rw [List.length_map, List.length_range] at before
      unfold Packet.getPacketSize at before
      omega
    rw [List.getElem_map, List.getElem_range, Nat.add_assoc, object.stored _ inside]
    simp only [Packet.body, sizeofPointer, List.getElem_drop]

/-- **The server** writes the id and the body of every packet. -/
theorem buildPacketBuffer_faithful (object : PacketObject) :
    Faithful object (buildPacketBuffer object) := by
  constructor
  · show [] ++ littleEndian object.packet.packetId ++ _ = _
    rw [List.nil_append]
    show littleEndian object.packet.packetId ++ _ = _
    rw [read_body]
  · intro source member
    obtain ⟨offset, small, rfl⟩ := List.mem_map.mp member
    have inside := List.mem_range.mp small
    unfold Packet.getPacketSize at inside
    omega

/-- **The client** writes `GetPacketSize` bytes from the ninth `IPacket` on. -/
theorem sendPacket_payload (object : PacketObject) :
    (sendPacket object).payload = littleEndian object.packet.packetId ++
      (List.range object.packet.getPacketSize).map fun offset =>
        object.memory (object.address + 64 + offset) := by
  rfl

/-- The last byte the client copies lies behind the object. -/
theorem sendPacket_outside {object : PacketObject} (body : 0 < object.packet.getPacketSize) :
    ∃ source ∈ (sendPacket object).sources,
      object.address + object.packet.bytes.length ≤ source := by
  refine ⟨object.address + 64 + (object.packet.getPacketSize - 1), ?_, ?_⟩
  · refine List.mem_map.mpr ⟨object.packet.getPacketSize - 1, List.mem_range.mpr ?_, rfl⟩
    omega
  · unfold Packet.getPacketSize
    omega

/-- **The encoders agree** on a packet exactly when it has no body, whatever is in memory. -/
theorem encoders_agree_iff (object : PacketObject) :
    EncodersAgree object ↔ object.packet.getPacketSize = 0 := by
  constructor
  · intro agree
    by_contra body
    obtain ⟨source, copied, outside⟩ := sendPacket_outside (Nat.pos_of_ne_zero body)
    exact absurd (agree.client.inside source copied).2 (Nat.not_lt_of_le outside)
  · intro empty
    have server := buildPacketBuffer_faithful object
    have noBody : object.packet.body = [] := by
      rw [← List.length_eq_zero_iff, length_body, empty]
    have payload : (sendPacket object).payload = littleEndian object.packet.packetId := by
      rw [sendPacket_payload, empty, List.range_zero, List.map_nil, List.append_nil]
    refine ⟨?_, ⟨?_, ?_⟩, server⟩
    · rw [payload, server.payload, noBody, List.append_nil]
    · rw [payload, noBody, List.append_nil]
    · intro source copied
      obtain ⟨offset, small, rfl⟩ := List.mem_map.mp copied
      rw [empty] at small
      exact absurd small List.not_mem_nil

end Payloads

/-! ### Packets of the protocol -/

section Protocol

/-- The bytes of an `AppearActor` of the player 7. -/
def appearActorBytes : List UInt8 := List.replicate 8 0xf0 ++ [7, 0, 0, 0, 0, 0, 0, 0, 1, 0]

/-- The object, with other data behind it. -/
def appearActor : PacketObject where
  memory := fun address => appearActorBytes.getD (address - 4096) 0xcc
  address := 4096
  packet := ⟨3, appearActorBytes, by decide, by decide⟩
  stored := by decide

/-- **The payloads of an `AppearActor`**: the client sends the bytes behind other objects. -/
theorem encoders_disagree : ¬ ∀ object, EncodersAgree object := by
  intro agree
  have same := (agree appearActor).same
  revert same
  decide

end Protocol

end ActorModelServer.PacketEncoders
