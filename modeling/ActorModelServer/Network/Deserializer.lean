/-
**The argument deserializer.**

`Deserialize<Args...>` reads the arguments of a handler off a received buffer: a primitive is its
`sizeof(T)` bytes, copied, and a string a two-byte length and that many bytes. A primitive value is
the bytes that represent it. The functions advance the pointer and the count they were given by
reference; the cursor is both, with the places that were read.

* `encode` — the reference encoding of a tuple of arguments.
* `accepts_deserializeImpl` — the functions accept exactly the encoded tuples.
* `deserialize_exact` — on any buffer: the tuple that some front of the buffer encodes, or none.
-/

import ActorModelServer.Library.Reader
import ActorModelServer.Network.NetBuffer

namespace ActorModelServer.Network

open Reader (Cursor Moves Accepts andThen fixed)

section Model

/-- The type of an argument. -/
inductive ArgType
  | primitive (size : ℕ)
  | string
  deriving DecidableEq, Repr

/-- A value of the type. -/
def ArgType.Value : ArgType → Type
  | .primitive size => {bytes : List UInt8 // bytes.length = size}
  | .string => List UInt8

/-- `std::tuple<Args...>`. -/
def Tuple : List ArgType → Type
  | [] => Unit
  | type :: rest => type.Value × Tuple rest

/-- A `uint16_t`, low byte first. -/
def uint16 (bytes : List UInt8) : ℕ := (bytes.getD 0 0).toNat + 2 ^ 8 * (bytes.getD 1 0).toNat

/-- The byte at a place of the buffer. -/
def NetBuffer.byteAt (buffer : NetBuffer) (position : ℕ) : UInt8 :=
  buffer.serializeBuffer.getD position 0

/-- `GetReadBufferPtr` and `GetUseSize`. -/
def NetBuffer.cursor (buffer : NetBuffer) : Cursor := ⟨buffer.iRead, buffer.useSize, []⟩

/-- The bytes from `GetReadBufferPtr` on, `GetUseSize` of them. -/
def NetBuffer.readable (buffer : NetBuffer) : List UInt8 := buffer.cursor.ahead buffer.byteAt

/-- In a buffer that was written as far as it says, these are the unread bytes. -/
theorem NetBuffer.readable_eq_unread {buffer : NetBuffer}
    (whole : buffer.iWrite ≤ buffer.serializeBuffer.length) :
    buffer.readable = buffer.unread := by
  refine List.ext_getElem ?_ fun index inside _ => ?_
  · simp [readable, cursor, useSize, unread, written, whole]
  · have small : index < buffer.iWrite - buffer.iRead := by
      simpa [readable, cursor, useSize] using inside
    have within : buffer.iRead + index < buffer.serializeBuffer.length := by omega
    simp [readable, Cursor.ahead, Cursor.symbols, cursor, byteAt, unread, written, within]

variable (memory : ℕ → UInt8)

/-- `ReadPrimitive`. -/
def readPrimitive (size : ℕ) (cursor : Cursor) :
    Option (ArgType.primitive size).Value × Cursor :=
  if cursor.remaining < size then (none, cursor)
  else (some ⟨cursor.symbols memory size, cursor.length_symbols memory size⟩, cursor.advance size)

/-- `ReadString`. -/
def readString (cursor : Cursor) : Option ArgType.string.Value × Cursor :=
  match readPrimitive memory 2 cursor with
  | (none, cursor) => (none, cursor)
  | (some value, cursor) =>
      let length := uint16 value.1
      if cursor.remaining < length then (none, cursor)
      else (some (cursor.symbols memory length), cursor.advance length)

/-- `DeserializeOne`. -/
def deserializeOne (type : ArgType) (cursor : Cursor) : Option type.Value × Cursor :=
  match type with
  | .string => readString memory cursor
  | .primitive size => readPrimitive memory size cursor

/-- `DeserializeImpl`. -/
def deserializeImpl : (types : List ArgType) → Cursor → Option (Tuple types) × Cursor
  | [], cursor => (some (), cursor)
  | [type], cursor =>
      match deserializeOne memory type cursor with
      | (none, cursor) => (none, cursor)
      | (some result, cursor) => (some (result, ()), cursor)
  | type :: next :: rest, cursor =>
      match deserializeOne memory type cursor with
      | (none, cursor) => (none, cursor)
      | (some first, cursor) =>
          match deserializeImpl (next :: rest) cursor with
          | (none, cursor) => (none, cursor)
          | (some others, cursor) => (some (first, others), cursor)

/-- `Deserialize`. -/
def deserialize (types : List ArgType) (buffer : NetBuffer) : Option (Tuple types) :=
  (deserializeImpl buffer.byteAt types buffer.cursor).1

end Model

/-! ### The reference encoding -/

section Encoding

/-- A string's length has to fit into its two bytes. -/
def SendableOne : (type : ArgType) → type.Value → Prop
  | .primitive _, _ => True
  | .string, (bytes : List UInt8) => bytes.length < 2 ^ 16

/-- The encoding of an argument. -/
def encodeOne : (type : ArgType) → type.Value → List UInt8
  | .primitive _, value => value.1
  | .string, (bytes : List UInt8) =>
      [UInt8.ofNat bytes.length, UInt8.ofNat (bytes.length / 2 ^ 8)] ++ bytes

/-- Every string of the tuple fits. -/
def Sendable : (types : List ArgType) → Tuple types → Prop
  | [], _ => True
  | type :: rest, (first, others) => SendableOne type first ∧ Sendable rest others

/-- The encodings of the arguments, in order. -/
def encode : (types : List ArgType) → Tuple types → List UInt8
  | [], _ => []
  | type :: rest, (first, others) => encodeOne type first ++ encode rest others

/-- The bytes encode the tuple. -/
def Encodes (types : List ArgType) (values : Tuple types) (encoded : List UInt8) : Prop :=
  Sendable types values ∧ encoded = encode types values

/-- The two bytes of a length. -/
theorem uint16_length {length : ℕ} (small : length < 2 ^ 16) :
    uint16 [UInt8.ofNat length, UInt8.ofNat (length / 2 ^ 8)] = length := by
  simp only [uint16, List.getD_cons_zero, List.getD_cons_succ, UInt8.toNat_ofNat']
  omega

/-- Two bytes are those of the length they say. -/
theorem length_uint16 {bytes : List UInt8} (two : bytes.length = 2) :
    uint16 bytes < 2 ^ 16 ∧
      bytes = [UInt8.ofNat (uint16 bytes), UInt8.ofNat (uint16 bytes / 2 ^ 8)] := by
  obtain ⟨low, high, rfl⟩ := List.length_eq_two.mp two
  have lowByte := low.toNat_lt
  have highByte := high.toNat_lt
  simp only [uint16, List.getD_cons_zero, List.getD_cons_succ, List.cons.injEq, and_true]
  refine ⟨by omega, UInt8.toNat_inj.mp ?_, UInt8.toNat_inj.mp ?_⟩ <;>
    rw [UInt8.toNat_ofNat'] <;> omega

end Encoding

/-! ### What the functions accept -/

section Acceptance

variable {memory : ℕ → UInt8}

theorem accepts_readPrimitive (size : ℕ) :
    Accepts memory (fun value encoded => encoded = value.1) (readPrimitive memory size) := by
  have plain : Accepts memory (fun value encoded => value.length = size ∧ encoded = value)
      (Reader.map Subtype.val (readPrimitive memory size)) := by
    refine (Accepts.fixed size).congr (fun _ _ => Iff.rfl) fun cursor => ?_
    unfold Reader.map readPrimitive fixed
    split <;> rfl
  exact (plain.of_map Subtype.val_injective).congr
    (fun value _ => (and_iff_right value.2).symm) fun _ => rfl

/-- A string is its length, and that many bytes. -/
theorem readString_eq (cursor : Cursor) : readString memory cursor =
    andThen (readPrimitive memory 2) (fun value => fixed memory (uint16 value.1)) cursor := by
  rcases found : readPrimitive memory 2 cursor with ⟨_ | length, moved⟩ <;>
    simp only [readString, andThen, found] <;> rfl

theorem accepts_readString :
    Accepts memory
      (fun value encoded => SendableOne .string value ∧ encoded = encodeOne .string value)
      (readString memory) := by
  refine ((accepts_readPrimitive 2).andThen fun value =>
    Accepts.fixed (uint16 value.1)).congr (fun (value : List UInt8) encoded => ?_) readString_eq
  constructor
  · rintro ⟨small, rfl⟩
    exact ⟨⟨_, rfl⟩, _, value, rfl, ⟨(uint16_length small).symm, rfl⟩, rfl⟩
  · rintro ⟨⟨length, two⟩, front, back, rfl, ⟨same, rfl⟩, rfl⟩
    obtain ⟨small, bytes⟩ := length_uint16 two
    rw [← same] at small bytes
    exact ⟨small, congrArg (· ++ back) bytes⟩

theorem accepts_deserializeOne (type : ArgType) :
    Accepts memory (fun value encoded => SendableOne type value ∧ encoded = encodeOne type value)
      (deserializeOne memory type) := by
  cases type with
  | primitive size =>
      exact (accepts_readPrimitive size).congr (fun _ _ => and_iff_right trivial) fun _ => rfl
  | string => exact accepts_readString

/-- The last argument is read like the others. -/
theorem deserializeImpl_cons (type : ArgType) (rest : List ArgType) (cursor : Cursor) :
    deserializeImpl memory (type :: rest) cursor =
      andThen (deserializeOne memory type)
        (fun first => Reader.map (Prod.mk first) (deserializeImpl memory rest)) cursor := by
  rcases found : deserializeOne memory type cursor with ⟨_ | first, moved⟩
  · cases rest <;> simp only [deserializeImpl, andThen, found] <;> rfl
  · cases rest with
    | nil =>
        simp only [deserializeImpl, andThen, found]
        rfl
    | cons next others =>
        rcases read : deserializeImpl memory (next :: others) moved with ⟨_ | second, after⟩ <;>
          simp only [deserializeImpl, andThen, found, Reader.map, read] <;> rfl

/-- **The functions accept exactly the encoded tuples.** -/
theorem accepts_deserializeImpl (types : List ArgType) :
    Accepts memory (Encodes types) (deserializeImpl memory types) := by
  induction types with
  | nil =>
      refine (Accepts.pure ()).congr (fun _ _ => ?_) fun _ => rfl
      simp [Encodes, Sendable, encode]
  | cons type rest ih =>
      refine ((accepts_deserializeOne type).andThen fun first => ih.map (Prod.mk first)).congr
        (fun values encoded => ?_) (deserializeImpl_cons type rest)
      obtain ⟨first, others⟩ := values
      constructor
      · rintro ⟨⟨fits, fitsRest⟩, rfl⟩
        exact ⟨first, _, _, ⟨fits, rfl⟩, ⟨others, ⟨fitsRest, rfl⟩, rfl⟩, rfl⟩
      · rintro ⟨own, front, back, ⟨fits, rfl⟩, ⟨behind, ⟨fitsRest, rfl⟩, same⟩, rfl⟩
        cases same
        exact ⟨⟨fits, fitsRest⟩, rfl⟩

/-- The pointer and the count when `Deserialize` is done. -/
def afterDeserialize (types : List ArgType) (buffer : NetBuffer) : Cursor :=
  (deserializeImpl buffer.byteAt types buffer.cursor).2

/-- **The deserializer and the reference encoding.** -/
structure DeserializesExactly (types : List ArgType) (buffer : NetBuffer) : Prop where
  accepts : ∀ values, deserialize types buffer = some values ↔
    Sendable types values ∧ encode types values <+: buffer.readable
  inverts : ∀ values rest, Sendable types values → buffer.readable = encode types values ++ rest →
    deserialize types buffer = some values
  consumes : ∀ values, deserialize types buffer = some values →
    (afterDeserialize types buffer).data = buffer.iRead + (encode types values).length
  together : (afterDeserialize types buffer).data + (afterDeserialize types buffer).remaining =
    buffer.iRead + buffer.useSize
  /-- The places read are those consumed, and inside what was remaining at first. -/
  reads : (afterDeserialize types buffer).reads =
    List.range' buffer.iRead ((afterDeserialize types buffer).data - buffer.iRead)
  inside : ∀ position ∈ (afterDeserialize types buffer).reads,
    position < buffer.iRead + buffer.useSize

/-- **The deserializer accepts exactly its format**, for every list of argument types and every
buffer. -/
theorem deserialize_exact (types : List ArgType) (buffer : NetBuffer) :
    DeserializesExactly types buffer := by
  have exact : Accepts buffer.byteAt (Encodes types) (deserializeImpl buffer.byteAt types) :=
    accepts_deserializeImpl types
  have accepts (values : Tuple types) (fits : Sendable types values)
      (front : encode types values <+: buffer.readable) :
      deserializeImpl buffer.byteAt types buffer.cursor =
        (some values, buffer.cursor.advance (encode types values).length) :=
    exact.accepts buffer.cursor values _ ⟨fits, rfl⟩ front
  have only (values : Tuple types) (read : deserialize types buffer = some values) :
      Sendable types values ∧ encode types values <+: buffer.readable := by
    obtain ⟨encoded, ⟨fits, rfl⟩, front⟩ := exact.only buffer.cursor values read
    exact ⟨fits, front⟩
  obtain ⟨count, enough, moved⟩ := exact.moves buffer.cursor
  have after : afterDeserialize types buffer = buffer.cursor.advance count := moved
  have within : count ≤ buffer.useSize := enough
  refine ⟨fun values => ⟨only values, fun both => ?_⟩, fun values rest fits readable => ?_,
    fun values read => ?_, ?_, ?_, fun position read => ?_⟩
  · exact congrArg Prod.fst (accepts values both.1 both.2)
  · exact congrArg Prod.fst (accepts values fits (readable ▸ List.prefix_append _ _))
  · obtain ⟨fits, front⟩ := only values read
    rw [afterDeserialize, accepts values fits front]
    rfl
  · rw [after]
    show buffer.iRead + count + (buffer.useSize - count) = _
    omega
  · rw [after]
    show [] ++ List.range' buffer.iRead count = List.range' buffer.iRead _
    rw [List.nil_append]
    exact congrArg (List.range' buffer.iRead) (Nat.add_sub_cancel_left _ _).symm
  · rw [after] at read
    have place := (List.mem_range'_1.mp ((List.mem_append.mp read).resolve_left
      List.not_mem_nil)).2
    change position < buffer.iRead + count at place
    omega

/-- The arguments depend on the readable bytes only. -/
theorem deserialize_eq_of_readable (types : List ArgType) {buffer other : NetBuffer}
    (same : buffer.readable = other.readable) :
    deserialize types buffer = deserialize types other := by
  refine Option.ext fun values => ?_
  exact ((deserialize_exact types buffer).accepts values).trans
    (same ▸ ((deserialize_exact types other).accepts values).symm)

/-- A number and a string, with more behind them; and the same, cut off. -/
example :
    (deserialize [.primitive 1, .string] ⟨[7, 2, 0, 104, 105, 9], 0, 6⟩).isSome = true ∧
      (deserialize [.primitive 1, .string] ⟨[7, 2, 0, 104, 105, 9], 0, 4⟩).isSome = false := by
  decide

end Acceptance

end ActorModelServer.Network
