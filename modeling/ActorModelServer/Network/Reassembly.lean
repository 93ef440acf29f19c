/-
**Reassembling a stream of packets.**

A client sends well-formed packets (`Packet`); the bytes arrive in pieces, however the network cuts
the stream, and `OnRecvIoCompleted` runs for each piece. The server reads whole frames and leaves
the rest in the ring, but only when the rest is no longer than a header: a longer piece of a frame
is taken off the ring and refused.

* `readPackets_spec` — one run of the loop of `OnRecvIoCompleted`.
* `reassembled_iff` — all packets arrive, whatever the cuts, exactly when at every cut at most a
  header's length of an unfinished frame has arrived.
* `reassembled_not` — a frame whose payload arrives in two pieces is lost.
-/

import ActorModelServer.Library.Framing
import ActorModelServer.Network.Receive

namespace ActorModelServer.Network

open Framing

universe u

section Reassembly

variable {lib : NetBufferLib} {Encoded : List UInt8 → List UInt8 → Prop} {Message : Type u}
  {messageFactories : ℕ → Option (List UInt8 → Message)}

/-- A well-formed packet: its payload has a registered id and a legal length. -/
structure Packet (lib : NetBufferLib) (Encoded : List UInt8 → List UInt8 → Prop)
    (messageFactories : ℕ → Option (List UInt8 → Message)) where
  payload : List UInt8
  frame : List UInt8
  message : Message
  encoded : Encoded payload frame
  least : 4 ≤ payload.length
  most : payload.length ≤ lib.defaultSize
  registered : (messageFactories (packetId payload)).map (fun factory => factory (payload.drop 4)) =
    some message

/-- The messages are appended to `storeQueue`, in order. -/
def deliver (mailbox : Actor.Mailbox Message) (messages : List Message) : Actor.Mailbox Message :=
  messages.foldl (fun mailbox message => mailbox.push (some message)) mailbox

/-- `OnRecvIoCompleted` for one piece after the other, when every `DoRecv` succeeds: what each call
returned, and the session in the end. -/
def receiveAll (lib : NetBufferLib) (session : RecvSession Message) :
    List (List UInt8) → List Bool × RecvSession Message
  | [] => ([], session)
  | transferred :: rest =>
      let completed := onRecvIoCompleted lib session transferred true
      let later := receiveAll lib completed.2 rest
      (completed.1 :: later.1, later.2)

/-- Every completion succeeds; in the end the ring is empty and each packet's message was appended
to `storeQueue`, in order. -/
def Reassembled (session : RecvSession Message)
    (packets : List (Packet lib Encoded messageFactories)) (pieces : List (List UInt8)) : Prop :=
  (∀ returned ∈ (receiveAll lib session pieces).1, returned = true) ∧
    (receiveAll lib session pieces).2.ringBuffer = [] ∧
    (receiveAll lib session pieces).2.mailbox =
      deliver session.mailbox (packets.map Packet.message)

theorem createMessageFromPacket_eq (packet : Packet lib Encoded messageFactories)
    {buffer : NetBuffer} (unread : buffer.unread = packet.payload) :
    createMessageFromPacket messageFactories buffer = some packet.message := by
  have size : buffer.unread.length ≤ buffer.useSize := by
    rw [NetBuffer.unread, NetBuffer.written, List.length_drop, List.length_take, NetBuffer.useSize]
    omega
  rw [unread] at size
  have least := packet.least
  rw [createMessageFromPacket, if_neg (by omega), unread]
  exact packet.registered

theorem Packet.long (lawful : lib.Lawful Encoded) (packet : Packet lib Encoded messageFactories) :
    lib.headerSize < packet.frame.length := by
  have length := (lawful.length _ _ packet.encoded).1
  have least := packet.least
  omega

/-- Streams that begin alike announce the same length. -/
theorem announced_of_append {first second more other : List UInt8}
    (same : first ++ more = second ++ other) (header : 3 ≤ first.length)
    (header' : 3 ≤ second.length) : announced first = announced second := by
  rw [← announced_take (Nat.le_refl 3) first, ← announced_take (Nat.le_refl 3) second,
    ← List.take_append_of_le_length header, same, List.take_append_of_le_length header']

/-- An incomplete frame beyond the header ends the loop. -/
theorem readPackets_incomplete (lawful : lib.Lawful Encoded) (session : RecvSession Message)
    (more : lib.headerSize < session.ringBuffer.length)
    (short : session.ringBuffer.length < lib.headerSize + announced session.ringBuffer) :
    (readPackets lib session session.ringBuffer.length).1 = false := by
  have failed := recvStreamToBuffer_incomplete lawful (Nat.le_of_lt more) short
  rw [readPackets, dif_pos more]
  simp only [failed, Bool.false_eq_true, dite_false]

/-- A complete packet is read, and the loop goes on behind it. -/
theorem readPackets_complete (lawful : lib.Lawful Encoded)
    (packet : Packet lib Encoded messageFactories) (session : RecvSession Message)
    (factories : session.messageFactories = messageFactories)
    (running : session.mailbox.isStop = false) {rest : List UInt8}
    (ring : session.ringBuffer = packet.frame ++ rest) :
    readPackets lib session session.ringBuffer.length =
      readPackets lib { session with
        ringBuffer := rest
        mailbox := session.mailbox.push (some packet.message) } rest.length := by
  have more : lib.headerSize < (packet.frame ++ rest).length := by
    have long := packet.long lawful
    rw [List.length_append]
    omega
  obtain ⟨decoded, unread, received⟩ := recvStreamToBuffer_complete lawful packet.encoded rest
  have created : createMessageFromPacket session.messageFactories decoded =
      some packet.message := by
    rw [factories]
    exact createMessageFromPacket_eq packet unread
  have sent : sendMessage session.mailbox packet.message =
      some (session.mailbox.push (some packet.message)) := by
    rw [sendMessage, running]
    rfl
  rw [readPackets, ring, dif_pos more]
  simp only [received, dite_true, created, sent]

/-- **One run of the loop**, on a ring that holds the front of a stream: the whole frames are read
when no more than a header's length is left over, and the run fails otherwise. -/
theorem readPackets_spec (lawful : lib.Lawful Encoded)
    (packets : List (Packet lib Encoded messageFactories)) :
    ∀ (session : RecvSession Message) (coming : List UInt8),
      session.messageFactories = messageFactories → session.mailbox.isStop = false →
      session.ringBuffer ++ coming = (packets.map Packet.frame).flatten →
      (∃ count, boundary (packets.map Packet.frame) count ≤ session.ringBuffer.length ∧
        session.ringBuffer.length ≤ boundary (packets.map Packet.frame) count + lib.headerSize ∧
        readPackets lib session session.ringBuffer.length = (true,
          { session with
            ringBuffer := session.ringBuffer.drop (boundary (packets.map Packet.frame) count)
            mailbox := deliver session.mailbox ((packets.take count).map Packet.message) })) ∨
      (¬ Settled lib.headerSize (packets.map Packet.frame) session.ringBuffer.length ∧
        (readPackets lib session session.ringBuffer.length).1 = false) := by
  induction packets with
  | nil =>
      intro session coming _ _ stream
      obtain ⟨empty, -⟩ := List.append_eq_nil_iff.mp stream
      refine .inl ⟨0, by simp, by simp [empty], ?_⟩
      rw [readPackets, dif_neg (by simp [empty])]
      rfl
  | cons packet packets ih =>
      intro session coming factories running stream
      obtain ⟨length, told⟩ := lawful.length _ _ packet.encoded
      have long := packet.long lawful
      rcases Nat.lt_or_ge lib.headerSize session.ringBuffer.length with more | few
      swap
      · refine .inl ⟨0, by simp, by simpa using few, ?_⟩
        rw [readPackets, dif_neg (by omega)]
        rfl
      rw [List.map_cons, List.flatten_cons] at stream
      rcases Nat.lt_or_ge session.ringBuffer.length packet.frame.length with short | whole
      · refine .inr ⟨fun settled => ?_, ?_⟩
        · rw [List.map_cons, settled_cons_iff more] at settled
          omega
        · have announces : announced session.ringBuffer = packet.payload.length := by
            rw [← told]
            exact announced_of_append stream (by have := lib.header; omega)
              (by have := lib.header; omega)
          exact readPackets_incomplete lawful session more (by omega)
      · obtain ⟨rest, ring, behind⟩ := split_frame stream whole
        rw [readPackets_complete lawful packet session factories running ring]
        have length' : session.ringBuffer.length = packet.frame.length + rest.length := by
          rw [ring, List.length_append]
        rcases ih { session with
            ringBuffer := rest
            mailbox := session.mailbox.push (some packet.message) } coming factories running
            behind with ⟨count, least, most, read⟩ | ⟨unsettled, failed⟩
        · refine .inl ⟨count + 1, ?_, ?_, ?_⟩
          · rw [List.map_cons, boundary_cons_succ, length']
            exact Nat.add_le_add_left least _
          · rw [List.map_cons, boundary_cons_succ, length']
            dsimp only at most
            omega
          · rw [read, ring, List.map_cons, boundary_cons_succ, ← List.drop_drop, List.drop_left]
            rfl
        · refine .inr ⟨?_, failed⟩
          rw [List.map_cons, settled_cons_iff more, length', Nat.add_sub_cancel_left]
          exact fun settled => unsettled settled.2

/-- How many bytes have arrived with the first pieces. -/
def arrived (pieces : List (List UInt8)) (count : ℕ) : ℕ := (pieces.take count).flatten.length

theorem arrived_cons_succ (piece : List UInt8) (pieces : List (List UInt8)) (count : ℕ) :
    arrived (piece :: pieces) (count + 1) = piece.length + arrived pieces count := by
  simp [arrived]

theorem deliver_isStop (messages : List Message) : ∀ mailbox : Actor.Mailbox Message,
    (deliver mailbox messages).isStop = mailbox.isStop := by
  induction messages with
  | nil => exact fun _ => rfl
  | cons message messages ih => exact fun mailbox => ih (mailbox.push (some message))

theorem deliver_append (mailbox : Actor.Mailbox Message) (first second : List Message) :
    deliver (deliver mailbox first) second = deliver mailbox (first ++ second) :=
  (List.foldl_append ..).symm

/-- A completion whose frames are read succeeds, and goes on with what is left in the ring. -/
theorem onRecvIoCompleted_of_read {session read : RecvSession Message} {transferred : List UInt8}
    (reads : readPackets lib { session with ringBuffer := session.ringBuffer ++ transferred }
      (session.ringBuffer ++ transferred).length = (true, read)) :
    ∃ after, onRecvIoCompleted lib session transferred true = (true, after) ∧
      after.ringBuffer = read.ringBuffer ∧ after.mailbox = read.mailbox ∧
      after.messageFactories = read.messageFactories := by
  refine ⟨(read.doRecv true).2.decreaseIOCount, ?_, rfl, rfl, rfl⟩
  rw [onRecvIoCompleted]
  dsimp only
  rw [reads]
  rfl

/-- **Reassembly**, from a ring that holds no more than a header's length of the stream. -/
theorem reassembled_of_ring (lawful : lib.Lawful Encoded) (pieces : List (List UInt8)) :
    ∀ (session : RecvSession Message) (packets : List (Packet lib Encoded messageFactories)),
      session.messageFactories = messageFactories → session.mailbox.isStop = false →
      session.ringBuffer.length ≤ lib.headerSize →
      session.ringBuffer ++ pieces.flatten = (packets.map Packet.frame).flatten →
      (Reassembled session packets pieces ↔ ∀ count, Settled lib.headerSize
        (packets.map Packet.frame) (session.ringBuffer.length + arrived pieces count)) := by
  induction pieces with
  | nil =>
      intro session packets _ _ few stream
      have none : packets = [] := by
        cases packets with
        | nil => rfl
        | cons packet packets =>
            have long := packet.long lawful
            have total := congrArg List.length stream
            simp only [List.flatten_nil, List.append_nil, List.map_cons, List.flatten_cons,
              List.length_append] at total
            omega
      subst none
      have empty : session.ringBuffer = [] := by simpa using stream
      refine ⟨fun _ count => settled_of_le (by simp [empty, arrived]), fun _ => ?_⟩
      exact ⟨by simp [receiveAll], empty, rfl⟩
  | cons piece pieces ih =>
      intro session packets factories running few stream
      have stream' : (session.ringBuffer ++ piece) ++ pieces.flatten =
          (packets.map Packet.frame).flatten := by
        rw [← stream, List.flatten_cons, List.append_assoc]
      have position (count : ℕ) :
          session.ringBuffer.length + arrived (piece :: pieces) (count + 1) =
            (session.ringBuffer ++ piece).length + arrived pieces count := by
        rw [arrived_cons_succ, List.length_append, Nat.add_assoc]
      rcases readPackets_spec lawful packets
          { session with ringBuffer := session.ringBuffer ++ piece } pieces.flatten factories
          running stream' with ⟨count, least, most, read⟩ | ⟨unsettled, failed⟩
      · dsimp only at least most read
        obtain ⟨after, completed, ring, mailbox, factories'⟩ := onRecvIoCompleted_of_read read
        dsimp only at ring mailbox factories'
        have behind : after.ringBuffer ++ pieces.flatten =
            ((packets.drop count).map Packet.frame).flatten := by
          rw [ring, ← List.drop_append_of_le_length least, stream', List.map_drop, drop_boundary]
        have rest := ih after (packets.drop count) (factories'.trans factories)
          (by rw [mailbox, deliver_isStop, running])
          (by rw [ring, List.length_drop]; omega) behind
        have same : Reassembled session packets (piece :: pieces) ↔
            Reassembled after (packets.drop count) pieces := by
          simp only [Reassembled, receiveAll, completed, List.mem_cons, forall_eq_or_imp, true_and,
            mailbox, deliver_append, ← List.map_append, List.take_append_drop]
        rw [same, rest]
        have long : ∀ frame ∈ packets.map Packet.frame, lib.headerSize < frame.length := by
          intro frame member
          obtain ⟨packet, -, rfl⟩ := List.mem_map.mp member
          exact packet.long lawful
        have shift (later : ℕ) : Settled lib.headerSize (packets.map Packet.frame)
              (session.ringBuffer.length + arrived (piece :: pieces) (later + 1)) ↔
            Settled lib.headerSize ((packets.drop count).map Packet.frame)
              (after.ringBuffer.length + arrived pieces later) := by
          rw [position, settled_drop_iff long count (by omega), List.map_drop, ring,
            List.length_drop, Nat.sub_add_comm least]
        constructor
        · intro settled later
          cases later with
          | zero => exact settled_of_le (by simpa [arrived] using few)
          | succ later => exact (shift later).mpr (settled later)
        · exact fun settled later => (shift later).mp (settled (later + 1))
      · refine ⟨fun reassembled => ?_, fun settled => ?_⟩
        · have first := reassembled.1 _ List.mem_cons_self
          rw [onRecvIoCompleted] at first
          dsimp only at first failed
          rw [if_neg (by rw [failed]; exact Bool.false_ne_true)] at first
          cases first
        · refine absurd ?_ unsettled
          have now := settled 1
          rw [position 0] at now
          simpa [arrived] using now

/-- **Reassembly.** The packets of a client all arrive, in order, exactly when the bytes of every
first pieces end at most a header behind the end of a packet's frame. -/
theorem reassembled_iff (lawful : lib.Lawful Encoded) (session : RecvSession Message)
    (packets : List (Packet lib Encoded session.messageFactories)) (pieces : List (List UInt8))
    (running : session.mailbox.isStop = false) (fresh : session.ringBuffer = [])
    (stream : pieces.flatten = (packets.map Packet.frame).flatten) :
    Reassembled session packets pieces ↔
      ∀ count, ∃ whole, boundary (packets.map Packet.frame) whole ≤ arrived pieces count ∧
        arrived pieces count ≤ boundary (packets.map Packet.frame) whole + lib.headerSize := by
  have settled := reassembled_of_ring lawful pieces session packets rfl running (by simp [fresh])
    (by rw [fresh, stream, List.nil_append])
  simpa [fresh, Settled] using settled

/-! ### One client -/

/-- A session with one packet handler; its message is the number of bytes behind the id. -/
def pingSession : RecvSession ℕ where
  ringBuffer := []
  mailbox := .empty
  messageFactories := fun id => if id = 1 then some List.length else none
  ioCount := 1
  released := 0

/-- A packet without a body. -/
def ping : Packet (xorLib 512) XorEncoded pingSession.messageFactories where
  payload := [1, 0, 0, 0]
  frame := xorEncode 9 [1, 0, 0, 0]
  message := 0
  encoded := ⟨by decide, 9, rfl⟩
  least := by decide
  most := by decide
  registered := by decide

/-- Two packets, with a cut in the second one's header. -/
theorem reassembled_iff_ping : Reassembled pingSession [ping, ping]
    [ping.frame ++ ping.frame.take 3, ping.frame.drop 3] := by
  refine (reassembled_iff (xorLib_lawful 512) pingSession [ping, ping]
    [ping.frame ++ ping.frame.take 3, ping.frame.drop 3] rfl rfl (by decide)).mpr fun count => ?_
  rcases count with _ | _ | count
  · exact ⟨0, by decide⟩
  · exact ⟨1, by decide⟩
  · refine ⟨2, ?_⟩
    have all : arrived [ping.frame ++ ping.frame.take 3, ping.frame.drop 3] (count + 2) = 18 := by
      rw [arrived, List.take_of_length_le (by simp)]
      decide
    rw [all]
    decide

/-- **A cut in a payload loses the packet.** -/
theorem reassembled_not : ¬ ∀ (packets : List (Packet (xorLib 512) XorEncoded
      pingSession.messageFactories)) (pieces : List (List UInt8)),
    (∀ piece ∈ pieces, piece ≠ []) → pieces.flatten = (packets.map Packet.frame).flatten →
      Reassembled pingSession packets pieces := by
  intro reassembles
  have reassembled := reassembles [ping] [ping.frame.take 6, ping.frame.drop 6] (by decide)
    (by decide)
  have settled := (reassembled_of_ring (xorLib_lawful 512) _ pingSession [ping] rfl rfl
    (Nat.zero_le _) (by decide)).mp reassembled 1
  rw [List.map_cons, settled_cons_iff (by decide)] at settled
  exact absurd settled.1 (by decide)

end Reassembly

end ActorModelServer.Network
