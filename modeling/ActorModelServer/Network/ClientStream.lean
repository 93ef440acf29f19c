/-
**The client reassembles its stream.**

`DoRecv` of the test client enqueues what `recv` returned and runs `MakePacketsFromRingBuffer`. The
loop leaves a frame that is not all there in the ring, untouched, so the next piece finds its front
where it was: however the stream is cut, the packets come out one by one.

* `makePackets_spec` — one run of the loop reads the whole frames in the ring, and no part of the
  next one.
* `client_reassembled` — the packets of a stream arrive, whatever the cuts.
-/

import ActorModelServer.Network.PayloadBound
import ActorModelServer.Network.Reassembly

namespace ActorModelServer.Network

open Framing

section ClientStream

variable {lib : NetBufferLib} {Encoded : List UInt8 → List UInt8 → Prop}

/-- An encoded packet with a legal payload. -/
structure StreamPacket (lib : NetBufferLib) (Encoded : List UInt8 → List UInt8 → Prop) where
  payload : List UInt8
  frame : List UInt8
  encoded : Encoded payload frame
  least : 1 ≤ payload.length
  most : payload.length ≤ lib.defaultSize

/-- `DoRecv` of the client, when `recv` returned these bytes (none when the connection is closed):
whether the client goes on, and the client. -/
def SimpleClient.doRecv (lib : NetBufferLib) (capacity : ℕ) (client : SimpleClient)
    (received : List UInt8) : Bool × SimpleClient :=
  if 0 < received.length then
    if capacity - client.recvRingBuffer.length < received.length then (false, client)
    else makePacketsFromRingBuffer lib
      { client with recvRingBuffer := client.recvRingBuffer ++ received }
  else (false, client)

/-- `DoRecv` for one piece after the other: what each call returned, and the client in the end. -/
def SimpleClient.recvAll (lib : NetBufferLib) (capacity : ℕ) (client : SimpleClient) :
    List (List UInt8) → List Bool × SimpleClient
  | [] => ([], client)
  | received :: rest =>
      let done := client.doRecv lib capacity received
      let later := done.2.recvAll lib capacity rest
      (done.1 :: later.1, later.2)

/-- Every piece fits the ring's free space when it arrives. -/
def Fits (lib : NetBufferLib) (capacity : ℕ) (client : SimpleClient) : List (List UInt8) → Prop
  | [] => True
  | received :: rest =>
      received.length ≤ capacity - client.recvRingBuffer.length ∧
        Fits lib capacity (client.doRecv lib capacity received).2 rest

/-- The payloads are appended to `recvBufferQueue`, in order. -/
def Gains (before after : SimpleClient) (payloads : List (List UInt8)) : Prop :=
  ∃ gained, after.recvBufferQueue = before.recvBufferQueue ++ gained ∧
    gained.map NetBuffer.unread = payloads

theorem Gains.trans {before middle after : SimpleClient} {first second : List (List UInt8)}
    (one : Gains before middle first) (two : Gains middle after second) :
    Gains before after (first ++ second) := by
  obtain ⟨gained, queue, payloads⟩ := one
  obtain ⟨gained', queue', payloads'⟩ := two
  refine ⟨gained ++ gained', ?_, ?_⟩
  · rw [queue', queue, List.append_assoc]
  · rw [List.map_append, payloads, payloads']

theorem StreamPacket.long (lawful : lib.Lawful Encoded) (packet : StreamPacket lib Encoded) :
    lib.headerSize < packet.frame.length := by
  have length := (lawful.length _ _ packet.encoded).1
  have least := packet.least
  omega

/-- Part of a frame stays in the ring. -/
theorem makePackets_incomplete (lawful : lib.Lawful Encoded) (packet : StreamPacket lib Encoded)
    (client : SimpleClient) {coming others : List UInt8}
    (front : client.recvRingBuffer ++ coming = packet.frame ++ others)
    (short : client.recvRingBuffer.length < packet.frame.length) :
    makePackets lib client client.recvRingBuffer.length = (true, client) := by
  obtain ⟨length, told⟩ := lawful.length _ _ packet.encoded
  have header := lib.header
  have most := packet.most
  unfold makePackets
  by_cases more : lib.headerSize < client.recvRingBuffer.length
  · have announces : announced client.recvRingBuffer = packet.payload.length := by
      rw [← told]
      exact announced_of_append front (by omega) (by omega)
    rw [if_pos more]
    simp only [announced_peekHeader (Nat.le_of_lt more), announces]
    rw [if_pos (by omega)]
    simp [Nat.not_lt.mpr most]
  · rw [if_neg more]

/-- A whole frame at the front of the ring is read, and the loop goes on behind it. -/
theorem makePackets_complete (lawful : lib.Lawful Encoded) (packet : StreamPacket lib Encoded)
    (client : SimpleClient) {rest : List UInt8}
    (ring : client.recvRingBuffer = packet.frame ++ rest) :
    ∃ next, Gains client next [packet.payload] ∧ next.recvRingBuffer = rest ∧
      makePackets lib client client.recvRingBuffer.length =
        makePackets lib next next.recvRingBuffer.length := by
  obtain ⟨length, -⟩ := lawful.length _ _ packet.encoded
  have least := packet.least
  obtain ⟨told, decoded, unread, success⟩ := decode_of_frame lawful packet.encoded rest
  rw [← ring] at told success
  have whole : client.recvRingBuffer.length = packet.frame.length + rest.length := by
    rw [ring, List.length_append]
  have next := makePackets_next client (by omega) (by omega) (told ▸ success)
  refine ⟨_, ⟨[decoded], rfl, ?_⟩, ?_, next⟩
  · rw [List.map_singleton, unread]
  · rw [List.drop_drop, told, ← length, ring, List.drop_left]

/-- **One run of the loop**, on a ring that holds the front of a stream: whole frames are read, the
rest of the ring is the front of the other frames, and nothing is left of a stream that is over. -/
theorem makePackets_spec (lawful : lib.Lawful Encoded) (packets : List (StreamPacket lib Encoded)) :
    ∀ (client : SimpleClient) (coming : List UInt8),
      client.recvRingBuffer ++ coming = (packets.map StreamPacket.frame).flatten →
      ∃ count after, makePackets lib client client.recvRingBuffer.length = (true, after) ∧
        Gains client after ((packets.take count).map StreamPacket.payload) ∧
        after.recvRingBuffer ++ coming = ((packets.drop count).map StreamPacket.frame).flatten ∧
        (coming = [] → packets.length ≤ count) := by
  induction packets with
  | nil =>
      intro client coming stream
      obtain ⟨empty, -⟩ := List.append_eq_nil_iff.mp stream
      refine ⟨0, client, ?_, ⟨[], by simp, rfl⟩, stream, fun _ => Nat.le_refl 0⟩
      rw [makePackets, if_neg (by simp [empty])]
  | cons packet packets ih =>
      intro client coming stream
      have stream' : client.recvRingBuffer ++ coming =
          packet.frame ++ (packets.map StreamPacket.frame).flatten := stream
      rcases Nat.lt_or_ge client.recvRingBuffer.length packet.frame.length with short | whole
      · refine ⟨0, client, makePackets_incomplete lawful packet client stream' short,
          ⟨[], by simp, rfl⟩, stream, fun ended => ?_⟩
        have total := congrArg List.length stream'
        rw [ended, List.append_nil, List.length_append] at total
        omega
      · obtain ⟨rest, ring, behind⟩ := split_frame stream' whole
        obtain ⟨next, gains, left, same⟩ := makePackets_complete lawful packet client ring
        obtain ⟨count, after, ran, gains', front, ended⟩ := ih next coming (by rw [left, behind])
        refine ⟨count + 1, after, same.trans ran, ?_, front, fun done => ?_⟩
        · exact gains.trans gains'
        · exact Nat.succ_le_succ (ended done)

/-- A nonempty piece that fits is enqueued, and the loop runs. -/
theorem doRecv_of_fits {capacity : ℕ} {client : SimpleClient} {piece : List UInt8}
    (nonempty : piece ≠ []) (fits : piece.length ≤ capacity - client.recvRingBuffer.length) :
    client.doRecv lib capacity piece = makePacketsFromRingBuffer lib
      { client with recvRingBuffer := client.recvRingBuffer ++ piece } := by
  unfold SimpleClient.doRecv
  rw [if_pos (List.length_pos_of_ne_nil nonempty), if_neg (Nat.not_lt.mpr fits)]

/-- **Reassembly**, from a ring that holds the front of the stream. -/
theorem recvAll_spec (lawful : lib.Lawful Encoded) (capacity : ℕ) (pieces : List (List UInt8)) :
    ∀ (client : SimpleClient) (packets : List (StreamPacket lib Encoded)),
      (∀ piece ∈ pieces, piece ≠ []) → Fits lib capacity client pieces →
      client.recvRingBuffer ++ pieces.flatten = (packets.map StreamPacket.frame).flatten →
      (pieces = [] → packets = []) →
      (∀ returned ∈ (client.recvAll lib capacity pieces).1, returned = true) ∧
        (client.recvAll lib capacity pieces).2.recvRingBuffer = [] ∧
        Gains client (client.recvAll lib capacity pieces).2
          (packets.map StreamPacket.payload) := by
  induction pieces with
  | nil =>
      intro client packets _ _ stream ended
      rw [ended rfl] at stream ⊢
      have empty : client.recvRingBuffer = [] := by simpa using stream
      refine ⟨(fun _ member => by cases member), empty, [], ?_, rfl⟩
      exact (List.append_nil _).symm
  | cons piece pieces ih =>
      intro client packets nonempty fits stream _
      have front : (client.recvRingBuffer ++ piece) ++ pieces.flatten =
          (packets.map StreamPacket.frame).flatten := by
        rw [List.append_assoc, ← List.flatten_cons]
        exact stream
      obtain ⟨count, after, ran, gains, rest, ended⟩ := makePackets_spec lawful packets
        { client with recvRingBuffer := client.recvRingBuffer ++ piece } pieces.flatten front
      have done : client.doRecv lib capacity piece = (true, after) :=
        (doRecv_of_fits (nonempty piece List.mem_cons_self) fits.1).trans ran
      have fits' := fits.2
      rw [done] at fits'
      obtain ⟨returned, empty, gains'⟩ := ih after (packets.drop count)
        (fun other member => nonempty other (List.mem_cons_of_mem _ member)) fits' rest
        (fun none => List.drop_eq_nil_of_le (ended (by rw [none, List.flatten_nil])))
      have all : client.recvAll lib capacity (piece :: pieces) =
          (true :: (after.recvAll lib capacity pieces).1,
            (after.recvAll lib capacity pieces).2) := by
        rw [SimpleClient.recvAll, done]
      rw [all]
      refine ⟨?_, empty, ?_⟩
      · rintro answer (_ | ⟨_, member⟩)
        · rfl
        · exact returned answer member
      · have whole := gains.trans gains'
        rw [← List.map_append, List.take_append_drop] at whole
        exact whole

/-- **The client reassembles its stream**: however the stream of the packets is cut into pieces that
fit the ring, every receive succeeds, and in the end the ring is empty and `recvBufferQueue` has
gained the decoded packets, in order. -/
theorem client_reassembled (lawful : lib.Lawful Encoded) (capacity : ℕ) (client : SimpleClient)
    (packets : List (StreamPacket lib Encoded)) (pieces : List (List UInt8))
    (fresh : client.recvRingBuffer = []) (nonempty : ∀ piece ∈ pieces, piece ≠ [])
    (fits : Fits lib capacity client pieces)
    (stream : pieces.flatten = (packets.map StreamPacket.frame).flatten) :
    (∀ returned ∈ (client.recvAll lib capacity pieces).1, returned = true) ∧
      (client.recvAll lib capacity pieces).2.recvRingBuffer = [] ∧
      ∃ gained, (client.recvAll lib capacity pieces).2.recvBufferQueue =
          client.recvBufferQueue ++ gained ∧
        gained.map NetBuffer.unread = packets.map StreamPacket.payload := by
  refine recvAll_spec lawful capacity pieces client packets nonempty fits ?_ fun none => ?_
  · rw [fresh, List.nil_append, stream]
  · -- no pieces make no stream, and every packet has a frame
    rw [none, List.flatten_nil] at stream
    cases packets with
    | nil => rfl
    | cons packet packets =>
        have long := packet.long lawful
        have total := congrArg List.length stream
        rw [List.map_cons, List.flatten_cons, List.length_append, List.length_nil] at total
        omega

/-! ### A client with room for the stream -/

/-- The loop puts nothing into the ring. -/
theorem length_makePackets (client : SimpleClient) (restSize : ℕ) :
    (makePackets lib client restSize).2.recvRingBuffer.length ≤ client.recvRingBuffer.length := by
  fun_induction makePackets lib client restSize with
  | case1 => exact Nat.le_refl _
  | case2 client restSize more buffer payloadLength complete ring dequeuedSize taken failed =>
      show (ring.drop payloadLength).length ≤ _
      rw [List.length_drop, List.length_drop]
      omega
  | case3 client restSize more buffer payloadLength complete ring dequeuedSize taken decoded decodes
      ih =>
      refine ih.trans ?_
      show (ring.drop payloadLength).length ≤ _
      rw [List.length_drop, List.length_drop]
      omega
  | case4 => exact Nat.le_refl _

/-- A stream no longer than the ring fits, in whatever pieces. -/
theorem fits_of_length {capacity : ℕ} (pieces : List (List UInt8)) :
    ∀ client : SimpleClient, (∀ piece ∈ pieces, piece ≠ []) →
      client.recvRingBuffer.length + pieces.flatten.length ≤ capacity →
      Fits lib capacity client pieces := by
  induction pieces with
  | nil => exact fun _ _ _ => trivial
  | cons piece pieces ih =>
      intro client nonempty room
      rw [List.flatten_cons, List.length_append] at room
      have fits : piece.length ≤ capacity - client.recvRingBuffer.length := by omega
      refine ⟨fits, ih _ (fun other member => nonempty other (List.mem_cons_of_mem _ member)) ?_⟩
      rw [doRecv_of_fits (nonempty piece List.mem_cons_self) fits]
      refine (Nat.add_le_add_right (length_makePackets _ _) _).trans ?_
      rw [List.length_append]
      omega

/-- A packet with one byte. -/
def tick : StreamPacket (xorLib 512) XorEncoded where
  payload := [7]
  frame := xorEncode 9 [7]
  encoded := ⟨by decide, 9, rfl⟩
  least := by decide
  most := by decide

/-- A client with nothing received. -/
def freshClient : SimpleClient := ⟨[], [], []⟩

/-- Two packets in three pieces, with a cut right behind the first header and one in the second. -/
def tickPieces : List (List UInt8) :=
  [tick.frame.take 5, tick.frame.drop 5 ++ tick.frame.take 2, tick.frame.drop 2]

theorem client_reassembled_tick :
    (freshClient.recvAll (xorLib 512) 64 tickPieces).2.recvRingBuffer = [] ∧
      ∃ gained, (freshClient.recvAll (xorLib 512) 64 tickPieces).2.recvBufferQueue = [] ++ gained ∧
        gained.map NetBuffer.unread = [[7], [7]] := by
  have nonempty : ∀ piece ∈ tickPieces, piece ≠ [] := by decide
  have fits : Fits (xorLib 512) 64 freshClient tickPieces :=
    fits_of_length tickPieces freshClient nonempty (by decide)
  exact (client_reassembled (xorLib_lawful 512) 64 freshClient [tick, tick] tickPieces rfl nonempty
    fits (by decide)).2

end ClientStream

end ActorModelServer.Network
