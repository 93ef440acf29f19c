/-
**How much of a payload is copied.**

The peer writes the length field. Both receivers compare it with `dfDEFAULTSIZE` only for a frame
that is not all there; a frame that announces more, and is all there, is copied whole.

* `LoopHead` — the contents of the ring at the head of the client's loop, one complete frame after
  the other.
* `payload_bounded_iff` — at most `dfDEFAULTSIZE` bytes are copied, and frames that announce more
  are rejected, exactly when no such frame is complete (`Overrun`).
* `payload_unbounded` — 600 bytes are copied into a buffer for 512.
-/

import ActorModelServer.Network.Receive
import Mathlib.Data.List.Infix

namespace ActorModelServer.Network

section PayloadBound

variable (lib : NetBufferLib)

/-- A complete frame announces more than `dfDEFAULTSIZE`. -/
def Overrun (ring : List UInt8) : Prop :=
  lib.defaultSize < announced ring ∧ lib.headerSize + announced ring ≤ ring.length

/-- `RecvStreamToBuffer`, called for the ring by the loop of `OnRecvIoCompleted`, copies at most
`dfDEFAULTSIZE` bytes, and rejects a frame that announces more. -/
def ServerBounded (ring : List UInt8) : Prop :=
  lib.headerSize < ring.length →
    (recvStreamToBuffer lib ring lib.alloc ring.length).copied ≤ lib.defaultSize ∧
      (lib.defaultSize < announced ring →
        (recvStreamToBuffer lib ring lib.alloc ring.length).success = false)

/-- The contents of the ring at the head of the loop of `MakePacketsFromRingBuffer`. -/
inductive LoopHead (ring : List UInt8) : List UInt8 → Prop
  | entry : LoopHead ring ring
  | next {head : List UInt8} {decoded : NetBuffer} (reached : LoopHead ring head)
      (more : lib.headerSize < head.length)
      (complete : lib.headerSize + announced head ≤ head.length)
      (decodes : lib.decode (dequeuePayload (head.drop lib.headerSize)
        (peekHeader lib head lib.alloc) (announced head)) = some decoded) :
      LoopHead ring ((head.drop lib.headerSize).drop (announced head))

/-- `MakePacketsFromRingBuffer` copies at most `dfDEFAULTSIZE` bytes into a buffer, and rejects the
frames it comes to that announce more. -/
def ClientBounded (ring : List UInt8) (recvBufferQueue : List NetBuffer) : Prop :=
  (∀ count ∈ (makePacketsFromRingBuffer lib ⟨ring, recvBufferQueue, []⟩).2.copied,
      count ≤ lib.defaultSize) ∧
    ∀ head, LoopHead lib ring head → lib.headerSize < head.length →
      lib.defaultSize < announced head →
        (makePacketsFromRingBuffer lib ⟨ring, recvBufferQueue, []⟩).1 = false

variable {lib} {ring : List UInt8}

/-- **The server** fails on the complete frames that announce too much, and on no other. -/
theorem serverBounded_iff : ServerBounded lib ring ↔ ¬ Overrun lib ring := by
  constructor
  · rintro bounded ⟨oversized, complete⟩
    have more : lib.headerSize < ring.length := by omega
    have copied := (bounded more).1
    have whole : ¬ (ring.length < announced ring + lib.headerSize ∧
        lib.defaultSize < announced ring) := by omega
    have length : ((ring.drop lib.headerSize).take (announced ring)).length = announced ring := by
      rw [List.length_take, List.length_drop]
      omega
    simp only [recvStreamToBuffer, announced_peekHeader (Nat.le_of_lt more), if_neg whole,
      length] at copied
    split at copied <;> exact absurd copied (Nat.not_le_of_lt oversized)
  · intro within more
    have most : ((ring.drop lib.headerSize).take (announced ring)).length ≤ announced ring :=
      List.length_take_le _ _
    simp only [recvStreamToBuffer, announced_peekHeader (Nat.le_of_lt more)]
    split
    · exact ⟨Nat.zero_le _, fun _ => rfl⟩
    · rename_i whole
      have fits : announced ring ≤ lib.defaultSize := by
        by_contra oversized
        exact within ⟨by omega, by omega⟩
      split <;> exact ⟨most.trans fits, fun oversized => absurd fits (Nat.not_le_of_lt oversized)⟩

/-! ### The client's loop -/

/-- A complete frame is decoded, and the loop goes on behind it. -/
theorem makePackets_next (client : SimpleClient) {decoded : NetBuffer}
    (more : lib.headerSize < client.recvRingBuffer.length)
    (complete : lib.headerSize + announced client.recvRingBuffer ≤ client.recvRingBuffer.length)
    (decodes : lib.decode (dequeuePayload (client.recvRingBuffer.drop lib.headerSize)
      (peekHeader lib client.recvRingBuffer lib.alloc) (announced client.recvRingBuffer)) =
        some decoded) :
    makePackets lib client client.recvRingBuffer.length =
      makePackets lib
        ⟨(client.recvRingBuffer.drop lib.headerSize).drop (announced client.recvRingBuffer),
          client.recvBufferQueue ++ [decoded],
          client.copied ++ [announced client.recvRingBuffer]⟩
        ((client.recvRingBuffer.drop lib.headerSize).drop
          (announced client.recvRingBuffer)).length := by
  have length : ((client.recvRingBuffer.drop lib.headerSize).take
      (announced client.recvRingBuffer)).length = announced client.recvRingBuffer := by
    rw [List.length_take, List.length_drop]
    omega
  rw [makePackets, if_pos more]
  simp only [announced_peekHeader (Nat.le_of_lt more)]
  rw [if_neg (by omega), decodes]
  simp only [length, List.length_drop]
  congr 1
  omega

/-- The copies of earlier rounds stay. -/
theorem copied_stays (client : SimpleClient) (restSize : ℕ) :
    client.copied <+: (makePackets lib client restSize).2.copied := by
  fun_induction makePackets lib client restSize with
  | case1 => exact List.prefix_rfl
  | case2 => exact List.prefix_append _ _
  | case3 client restSize _ _ _ _ _ _ _ _ _ ih =>
      exact (List.prefix_append _ _).trans ih
  | case4 => exact List.prefix_rfl

/-- The loop comes to each of its heads. -/
theorem LoopHead.run {head : List UInt8} (reached : LoopHead lib ring head)
    (recvBufferQueue : List NetBuffer) (copied : List ℕ) :
    ∃ queue counts, makePackets lib ⟨ring, recvBufferQueue, copied⟩ ring.length =
      makePackets lib ⟨head, queue, counts⟩ head.length := by
  induction reached with
  | entry => exact ⟨recvBufferQueue, copied, rfl⟩
  | next reached more complete decodes ih =>
      obtain ⟨queue, counts, same⟩ := ih
      exact ⟨_, _, same.trans (makePackets_next ⟨_, queue, counts⟩ more complete decodes)⟩

theorem LoopHead.trans {middle head : List UInt8} (first : LoopHead lib ring middle)
    (second : LoopHead lib middle head) : LoopHead lib ring head := by
  induction second with
  | entry => exact first
  | next _ more complete decodes ih => exact ih.next more complete decodes

/-- Where no complete frame announces too much, what is copied is bounded. -/
theorem copied_of_heads (client : SimpleClient) (restSize : ℕ)
    (whole : restSize = client.recvRingBuffer.length)
    (within : ∀ head, LoopHead lib client.recvRingBuffer head → ¬ Overrun lib head) :
    ∀ count ∈ (makePackets lib client restSize).2.copied,
      count ∈ client.copied ∨ count ≤ lib.defaultSize := by
  fun_induction makePackets lib client restSize with
  | case1 client restSize more buffer payloadLength short => exact fun count member => .inl member
  | case2 client restSize more buffer payloadLength complete ring dequeuedSize taken failed =>
      subst whole
      have told : payloadLength = announced client.recvRingBuffer :=
        announced_peekHeader (Nat.le_of_lt more) _
      have unfinished := within _ .entry
      have small : dequeuedSize ≤ payloadLength := List.length_take_le _ _
      unfold Overrun at unfinished
      intro count member
      rcases List.mem_append.mp member with earlier | now
      · exact .inl earlier
      · rw [List.mem_singleton.mp now]
        exact .inr (by omega)
  | case3 client restSize more buffer payloadLength complete ring dequeuedSize taken decoded decodes
      ih =>
      subst whole
      have told : payloadLength = announced client.recvRingBuffer :=
        announced_peekHeader (Nat.le_of_lt more) _
      have unfinished := within _ .entry
      have small : dequeuedSize ≤ payloadLength := List.length_take_le _ _
      have length : ring.length = client.recvRingBuffer.length - lib.headerSize :=
        List.length_drop
      have exact' : dequeuedSize = payloadLength := List.length_take_of_le (by omega)
      have behind : LoopHead lib client.recvRingBuffer (ring.drop payloadLength) := by
        rw [told]
        exact .next .entry more (by omega) (told ▸ decodes)
      unfold Overrun at unfinished
      intro count member
      rcases ih (by simp only [taken, List.length_drop]; omega)
        (fun head reached => within head (behind.trans reached)) count member with earlier | bounded
      · rcases List.mem_append.mp earlier with before | now
        · exact .inl before
        · rw [List.mem_singleton.mp now]
          exact .inr (by omega)
      · exact .inr bounded
  | case4 client restSize done => exact fun count member => .inl member

/-- A complete frame that announces too much is copied. -/
theorem copied_of_complete {head : List UInt8} (more : lib.headerSize < head.length)
    (complete : lib.headerSize + announced head ≤ head.length) (queue : List NetBuffer)
    (counts : List ℕ) :
    announced head ∈ (makePackets lib ⟨head, queue, counts⟩ head.length).2.copied := by
  have length : ((head.drop lib.headerSize).take (announced head)).length = announced head := by
    rw [List.length_take, List.length_drop]
    omega
  cases decodes : lib.decode (dequeuePayload (head.drop lib.headerSize)
      (peekHeader lib head lib.alloc) (announced head)) with
  | none =>
      rw [makePackets, if_pos more]
      simp only [announced_peekHeader (Nat.le_of_lt more)]
      rw [if_neg (by omega), decodes]
      simp [length]
  | some decoded =>
      have next := makePackets_next ⟨head, queue, counts⟩ more complete decodes
      dsimp only at next
      rw [next]
      exact (copied_stays _ _).subset (by simp)

/-- **The client** fails on the complete frames it comes to that announce too much. -/
theorem clientBounded_iff (recvBufferQueue : List NetBuffer) :
    ClientBounded lib ring recvBufferQueue ↔
      ∀ head, LoopHead lib ring head → ¬ Overrun lib head := by
  constructor
  · rintro ⟨bounded, -⟩ head reached ⟨oversized, complete⟩
    obtain ⟨queue, counts, same⟩ := reached.run recvBufferQueue []
    have copied := copied_of_complete (by omega) complete queue counts
    rw [← same] at copied
    exact absurd (bounded _ copied) (Nat.not_le_of_lt oversized)
  · intro within
    refine ⟨fun count member => ?_, fun head reached more oversized => ?_⟩
    · have copied := copied_of_heads ⟨ring, recvBufferQueue, []⟩ ring.length rfl within count member
      simpa using copied
    · obtain ⟨queue, counts, same⟩ := reached.run recvBufferQueue []
      have incomplete : head.length < announced head + lib.headerSize := by
        have unfinished := within head reached
        unfold Overrun at unfinished
        omega
      rw [makePacketsFromRingBuffer, same, makePackets, if_pos more]
      simp only [announced_peekHeader (Nat.le_of_lt more), if_pos incomplete, oversized]
      rfl

/-- **Payload bound.** Each receiver copies at most `dfDEFAULTSIZE` bytes, and rejects the frames
that announce more, exactly when it does not come to a complete frame that announces more. -/
theorem payload_bounded_iff (lib : NetBufferLib) (ring : List UInt8)
    (recvBufferQueue : List NetBuffer) :
    (ServerBounded lib ring ↔ ¬ Overrun lib ring) ∧
      (ClientBounded lib ring recvBufferQueue ↔
        ∀ head, LoopHead lib ring head → ¬ Overrun lib head) :=
  ⟨serverBounded_iff, clientBounded_iff recvBufferQueue⟩

/-- A frame with 600 bytes of payload. -/
def longFrame : List UInt8 := xorEncode 9 (List.replicate 600 1)

/-- **A long frame is copied whole**, by both receivers. -/
theorem payload_unbounded : ¬ ServerBounded (xorLib 512) longFrame ∧
    ¬ ClientBounded (xorLib 512) longFrame [] := by
  have overrun : Overrun (xorLib 512) longFrame := by
    have length : (List.replicate 600 (1 : UInt8)).length = 600 := List.length_replicate
    have announces : announced longFrame = 600 := by
      rw [longFrame, announced_xorEncode 9 (by rw [length]; decide), length]
    refine ⟨?_, ?_⟩
    · rw [announces]
      exact (by decide : 512 < 600)
    · rw [announces, longFrame, length_xorEncode, length]
      exact Nat.le_refl _
  exact ⟨fun bounded => serverBounded_iff.mp bounded overrun,
    fun bounded => (clientBounded_iff []).mp bounded _ .entry overrun⟩

end PayloadBound

end ActorModelServer.Network
