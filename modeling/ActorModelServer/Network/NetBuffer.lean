/-
**`NetBuffer`, and the library it comes from.**

`NetBuffer`, its pool and its codec are not part of the repository. `NetBufferLib` is what the
receiving code uses of them: the two constants, a fresh buffer, and `Decode`. `Lawful` is what the
code relies on: the header carries the payload's length in its second and third byte, and `Decode`
succeeds on exactly the complete encoded frames.

* `xorLib` — a library with these laws: five header bytes, and a payload that is xored with a key.
-/

import Mathlib.Algebra.Group.Nat.Defs
import Mathlib.Data.List.TakeDrop
import Mathlib.Tactic.Common

namespace ActorModelServer.Network

section NetBuffer

/-- `NetBuffer`: `m_pSerializeBuffer`, `m_iRead` and `m_iWrite`. -/
structure NetBuffer where
  serializeBuffer : List UInt8
  iRead : ℕ
  iWrite : ℕ
  deriving DecidableEq, Repr

namespace NetBuffer

/-- Bytes are copied to a place in the buffer. -/
def writeAt (buffer : NetBuffer) (position : ℕ) (bytes : List UInt8) : NetBuffer :=
  { buffer with
    serializeBuffer := buffer.serializeBuffer.take position ++ bytes ++
      buffer.serializeBuffer.drop (position + bytes.length) }

/-- What has been written. -/
def written (buffer : NetBuffer) : List UInt8 := buffer.serializeBuffer.take buffer.iWrite

/-- `GetUseSize`. -/
def useSize (buffer : NetBuffer) : ℕ := buffer.iWrite - buffer.iRead

/-- The bytes from `GetReadBufferPtr` on, `GetUseSize` of them. -/
def unread (buffer : NetBuffer) : List UInt8 := buffer.written.drop buffer.iRead

end NetBuffer

/-- The payload length a header announces: a WORD at the second byte, low byte first. -/
def announced (bytes : List UInt8) : ℕ := (bytes.getD 1 0).toNat + 256 * (bytes.getD 2 0).toNat

/-- What the receiving code uses of the library. -/
structure NetBufferLib where
  /-- `df_HEADER_SIZE`; the receiving code reads a WORD at the second byte of a header. -/
  headerSize : ℕ
  header : 3 ≤ headerSize
  /-- `dfDEFAULTSIZE`. -/
  defaultSize : ℕ
  /-- `NetBuffer::Alloc`. -/
  alloc : NetBuffer
  /-- `Decode`, with the buffer it leaves when it succeeds. -/
  decode : NetBuffer → Option NetBuffer

/-- **The laws of the library**, for the frames that encode a payload. -/
structure NetBufferLib.Lawful (lib : NetBufferLib) (Encoded : List UInt8 → List UInt8 → Prop) :
    Prop where
  alloc : lib.alloc.iWrite = lib.headerSize
  length : ∀ payload frame, Encoded payload frame →
    frame.length = lib.headerSize + payload.length ∧ announced frame = payload.length
  decode : ∀ buffer payload, buffer.iRead = 0 → Encoded payload buffer.written →
    ∃ decoded, lib.decode buffer = some decoded ∧ decoded.unread = payload
  decode_only : ∀ buffer decoded, buffer.iRead = 0 → lib.decode buffer = some decoded →
    ∃ payload, Encoded payload buffer.written

/-- The announced length is in the header. -/
theorem announced_take {count : ℕ} (header : 3 ≤ count) (bytes : List UInt8) :
    announced (bytes.take count) = announced bytes := by
  have inside {index : ℕ} (small : index < 3) :
      (bytes.take count).getD index 0 = bytes.getD index 0 := by
    rw [List.getD_eq_getElem?_getD, List.getD_eq_getElem?_getD, List.getElem?_take_of_lt (by omega)]
  rw [announced, announced, inside (by omega), inside (by omega)]

end NetBuffer

/-! ### A library -/

section XorLib

/-- The sum of the bytes. -/
def checksum (payload : List UInt8) : UInt8 := payload.foldl (· + ·) 0

/-- A payload, encoded with a key. -/
def xorEncode (key : UInt8) (payload : List UInt8) : List UInt8 :=
  [0x77, UInt8.ofNat payload.length, UInt8.ofNat (payload.length / 256), key, checksum payload] ++
    payload.map (· ^^^ key)

/-- The frames of a payload. -/
def XorEncoded (payload frame : List UInt8) : Prop :=
  payload.length < 2 ^ 16 ∧ ∃ key, frame = xorEncode key payload

/-- The decoder: it takes the key off, and compares the frame with the payload's encoding. -/
def xorDecode (buffer : NetBuffer) : Option NetBuffer :=
  let payload := (buffer.written.drop 5).map (· ^^^ buffer.written.getD 3 0)
  if payload.length < 2 ^ 16 ∧ buffer.written = xorEncode (buffer.written.getD 3 0) payload then
    some ⟨buffer.written.take 5 ++ payload, 5, 5 + payload.length⟩
  else none

/-- The library. -/
def xorLib (defaultSize : ℕ) : NetBufferLib where
  headerSize := 5
  header := by decide
  defaultSize := defaultSize
  alloc := ⟨[], 0, 5⟩
  decode := xorDecode

theorem xor_payload (key : UInt8) (payload : List UInt8) :
    (((xorEncode key payload).drop 5).map (· ^^^ key)) = payload := by
  have twice (byte : UInt8) : byte ^^^ key ^^^ key = byte := by
    rw [UInt8.xor_assoc, UInt8.xor_self, UInt8.xor_zero]
  simp [xorEncode, Function.comp_def, twice]

theorem length_xorEncode (key : UInt8) (payload : List UInt8) :
    (xorEncode key payload).length = 5 + payload.length := by
  simp [xorEncode]
  omega

theorem announced_xorEncode (key : UInt8) {payload : List UInt8} (short : payload.length < 2 ^ 16) :
    announced (xorEncode key payload) = payload.length := by
  simp only [announced, xorEncode, List.cons_append, List.getD_cons_succ, List.getD_cons_zero,
    UInt8.toNat_ofNat']
  omega

theorem xorLib_lawful (defaultSize : ℕ) : (xorLib defaultSize).Lawful XorEncoded where
  alloc := rfl
  length := by
    rintro payload frame ⟨short, key, rfl⟩
    exact ⟨length_xorEncode key payload, announced_xorEncode key short⟩
  decode := by
    rintro buffer payload start ⟨short, key, frame⟩
    have sameKey : buffer.written.getD 3 0 = key := by
      rw [frame]
      rfl
    refine ⟨⟨buffer.written.take 5 ++ payload, 5, 5 + payload.length⟩, ?_, ?_⟩
    · show xorDecode buffer = _
      rw [xorDecode, sameKey, frame, xor_payload, if_pos ⟨short, rfl⟩]
    · rw [frame]
      have header : (xorEncode key payload).take 5 ++ payload =
          0x77 :: UInt8.ofNat payload.length :: UInt8.ofNat (payload.length / 256) :: key ::
            checksum payload :: payload := rfl
      rw [NetBuffer.unread, NetBuffer.written, header, List.take_of_length_le (by simp; omega)]
      rfl
  decode_only := by
    intro buffer decoded _ success
    change xorDecode buffer = some decoded at success
    rw [xorDecode] at success
    split at success
    · rename_i matched
      exact ⟨_, matched.1, _, matched.2⟩
    · cases success

end XorLib

end ActorModelServer.Network
