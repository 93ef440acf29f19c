/-
**The answers to a client's packets, in order.**

A client sends packets; the bytes arrive in pieces of any size. One receive is outstanding at a time
(`rights`), so one worker at most reads packets off the ring, and between two of its completions
nobody does (`Reading`). A worker that fails, or finds the actor stopped, gives the right to receive
up, and nobody reads any more. With the order of the mailbox and that of the send path, the packets
are answered in the order in which the client sent them.

* `Sound.step` — the mailbox has the messages of the first packets, and the message in a worker's
  hand is the next one.
* `Answering.step` — what was enqueued, and what the running message still sends, is what the
  messages run so far send.
* `handled_in_order` — both, in every run: no packet is lost, repeated or overtaken on its way to
  its handler.
* `answers_in_order` — when the sends succeed, the client is sent the answers to its first packets,
  in order, each of them once.
* `pong_for_ping` — so a player gets a pong for a ping, and nothing else.
-/

import ActorModelServer.Server.Pipeline

namespace ActorModelServer.Pipeline

open Actor (Mailbox Entry)
open Network (NetBufferLib StreamPacket recvStreamToBuffer createMessageFromPacket packetId)
open SessionIo (receiving)
open StepRuns (Reach Unguarded exists_reach_of_runGuarded)
open ThreadTable (tally tally_update add_weight_le_tally weight_le_tally threadStep_eq_some
  threadStep_moved)

universe u v w

/-! ### The right to receive -/

section Rights

variable {Buffer : Type v} {Io : Type} {session after : SessionIo.State Buffer Io}
  {label : SessionIo.Tid Io × SessionIo.Choice Buffer}

/-- The loop that reads packets. -/
def readingAt : SessionIo.Pc Buffer → ℕ
  | .ioRecv => 1
  | _ => 0

/-- No function returns to the loop. -/
def Sheer (pc : SessionIo.Pc Buffer) : Prop := pc = .ioRecv ∨ pc.weigh readingAt = 0

theorem not_ioRecv {pc : SessionIo.Pc Buffer} (elsewhere : pc.weigh readingAt = 0) :
    pc ≠ .ioRecv := by
  rintro rfl
  cases elsewhere

/-- Only a completed receive leads into the loop. -/
theorem Sheer.move {before next : SessionIo.Session Buffer} {pc pc' : SessionIo.Pc Buffer}
    {choice : SessionIo.Choice Buffer} (sheer : Sheer pc)
    (moved : SessionIo.Moves before pc choice next pc') :
    Sheer pc' ∧ (pc' = .ioRecv → pc = .ioFind .recv .transferred) := by
  have elsewhere (under : pc'.weigh readingAt = 0) :
      Sheer pc' ∧ (pc' = .ioRecv → pc = .ioFind .recv .transferred) :=
    ⟨.inr under, fun here => absurd here (not_ioRecv under)⟩
  cases moved with
  | foundRecv found => exact ⟨.inl rfl, fun _ => rfl⟩
  | _ =>
      unfold Sheer at sheer
      exact elsewhere (by simp_all [SessionIo.Pc.weigh, readingAt])

variable [Fintype Io]

/-- The outstanding receive, and the threads that may post the next one. -/
def rights (session : SessionIo.State Buffer Io) : ℕ :=
  session.shared.recvOutstanding + tally receiving session.pc

theorem rights_initial : rights (SessionIo.initial Buffer Io) = 1 := by
  have one :
      tally receiving (SessionIo.initialPc : SessionIo.Tid Io → SessionIo.Pc Buffer) = 1 := by
    refine (ThreadTable.tally_eq_single SessionIo.Tid.accept ?_).trans rfl
    intro other different
    cases other with
    | accept => exact absurd rfl different
    | _ => rfl
  exact congrArg (0 + ·) one

theorem receiving_le_rights (thread : SessionIo.Tid Io) :
    receiving (session.pc thread) ≤ rights session :=
  Nat.le_trans (weight_le_tally receiving session.pc thread) (Nat.le_add_left _ _)

variable [DecidableEq Io]

/-- A right is not shared. -/
theorem alone {first second : SessionIo.Tid Io} (single : rights session ≤ 1)
    (receives : receiving (session.pc first) = 1) (receives' : receiving (session.pc second) = 1) :
    first = second := by
  by_contra different
  have both := add_weight_le_tally receiving session.pc different
  unfold rights at single
  omega

/-- **No step makes a right.** -/
theorem rights_step (stepped : SessionIo.step session label = some after) :
    rights after ≤ rights session := by
  obtain ⟨shared, pc, acted, rfl⟩ := threadStep_eq_some.mp stepped
  have balance := SessionIo.receiving_move (SessionIo.act_moves acted)
  have exchange := tally_update receiving session.pc label.1 pc
  unfold SessionIo.receiveBalance at balance
  unfold rights
  dsimp only at *
  omega

/-- A worker that gives up takes the right with it. -/
theorem rights_malformed {worker : Io} (single : rights session ≤ 1)
    (place : session.pc (.io worker) = .ioRecv)
    (stepped : SessionIo.step session (.io worker, .malformed) = some after) :
    rights after = 0 := by
  obtain ⟨shared, pc, acted, rfl⟩ := threadStep_eq_some.mp stepped
  have exchange := tally_update receiving session.pc (.io worker) pc
  dsimp only at acted exchange
  rw [place] at acted exchange
  cases acted
  have one : receiving (.ioRecv : SessionIo.Pc Buffer) = 1 := rfl
  have none : receiving (.decrease .ioWait : SessionIo.Pc Buffer) = 0 := rfl
  unfold rights at single ⊢
  dsimp only
  omega

end Rights

/-! ### The mailbox -/

section Letters

variable {Message : Type u}

/-- The message of a packet. -/
def packetOf : Option (Letter Message) → Option Message
  | some (.packet message) => some message
  | _ => none

/-- The messages of packets, in order. -/
def packetsOf (entries : List (Entry (Letter Message))) : List Message :=
  entries.filterMap fun entry => packetOf entry.message

/-- The thread is not about to send a packet's message. -/
def Quiet : Actor.Pc (Letter Message) → Prop
  | .sendCheck message next => packetOf message = none ∧ Quiet next
  | .sendPush message next => packetOf message = none ∧ Quiet next
  | _ => True

theorem packetsOf_push (mailbox : Mailbox (Letter Message)) (message : Option (Letter Message)) :
    packetsOf (mailbox.push message).accepted =
      packetsOf mailbox.accepted ++ (packetOf message).toList := by
  unfold packetsOf Mailbox.push
  rw [List.filterMap_append]
  cases made : packetOf message <;> simp [made]

theorem packetOf_map (message : Option Message) : packetOf (message.map .other) = none := by
  cases message <;> rfl

/-- **Who is not about to send a packet's message, does not.** -/
theorem Quiet.act {mailbox mailbox' : Mailbox (Letter Message)} {pc pc' : Actor.Pc (Letter Message)}
    {choice : Actor.Choice Message} (quiet : Quiet pc)
    (acted : Actor.act mailbox pc (letterChoice choice) = some (mailbox', pc')) :
    Quiet pc' ∧ packetsOf mailbox'.accepted = packetsOf mailbox.accepted := by
  -- only `send` brings a message, and `letterChoice` makes it one of no packet
  have silent (message : Option (Letter Message)) (sends : letterChoice choice = .send message) :
      packetOf message = none := by
    cases choice with
    | send message =>
        cases sends
        exact packetOf_map message
    | go | stop | process | missStop => cases sends
  revert acted silent
  generalize letterChoice choice = taken
  fun_cases Actor.act mailbox pc taken with
  | case1 message | case3 message | case15 message =>
      intro acted silent
      cases acted
      exact ⟨⟨silent message rfl, trivial⟩, rfl⟩
  | case6 message next =>
      intro acted silent
      cases acted
      refine ⟨?_, rfl⟩
      split
      · exact quiet.2
      · exact quiet
  | case8 message next =>
      intro acted silent
      cases acted
      refine ⟨quiet.2, ?_⟩
      rw [packetsOf_push, quiet.1]
      exact List.append_nil _
  | case9 =>
      intro acted silent
      cases acted
      refine ⟨?_, rfl⟩
      split <;> trivial
  | case7 message next =>
      intro acted silent
      cases acted
      exact ⟨quiet, rfl⟩
  | _ =>
      intro acted silent
      cases acted <;> exact ⟨trivial, rfl⟩

/-- The place of a worker, and the message it has made. -/
inductive Hand : Actor.Pc (Letter Message) → Option Message → Prop
  | none : Hand .sender none
  | check (message : Message) : Hand (.sendCheck (some (.packet message)) .sender) (some message)
  | push (message : Message) : Hand (.sendPush (some (.packet message)) .sender) (some message)

end Letters

/-! ### The ring -/

section Ring

variable {Message : Type u} {Buffer : Type v} {Io : Type} {Name : Type w}
  {setup : Setup Message Buffer} {Encoded : List UInt8 → List UInt8 → Prop}
  {world : World Message Buffer Io Name} {packets : List (StreamPacket setup.lib Encoded)}
  {count : ℕ} {worker : Io} {message : Message}

/-- The message of a packet, if its id is registered. -/
def Setup.made (setup : Setup Message Buffer) (packet : StreamPacket setup.lib Encoded) :
    Option Message :=
  (setup.messageFactories (packetId packet.payload)).map fun factory =>
    factory (packet.payload.drop 4)

variable (setup) in
/-- The messages are those of the first packets. -/
def Read (packets : List (StreamPacket setup.lib Encoded)) (messages : List Message) : Prop :=
  messages.map some <+: packets.map setup.made

/-- The next packet's message goes on. -/
theorem Read.next {messages : List Message} {packet : StreamPacket setup.lib Encoded}
    (read : Read setup packets messages) (there : packets[messages.length]? = some packet)
    (made : setup.made packet = some message) : Read setup packets (messages ++ [message]) := by
  obtain ⟨others, whole⟩ := read
  have place : (messages.map some ++ others)[messages.length]? = some (some message) := by
    rw [whole, List.getElem?_map, there, Option.map_some, made]
  rw [List.getElem?_append_right (by rw [List.length_map]), List.length_map, Nat.sub_self] at place
  cases others with
  | nil => cases place
  | cons first rest =>
      have first : first = some message := Option.some.inj place
      refine ⟨rest, ?_⟩
      rw [← whole, first, List.map_append, List.append_assoc]
      rfl

/-- The first packets have been taken off the ring. -/
structure Streamed (packets : List (StreamPacket setup.lib Encoded))
    (world : World Message Buffer Io Name) (count : ℕ) : Prop where
  split : ((packets.take count).map StreamPacket.frame).flatten ++ world.ringBuffer = world.arrived
  genuine : world.arrived <+: (packets.map StreamPacket.frame).flatten
  counted : ∀ worker, world.session.pc (.io worker) = .ioRecv →
    world.restSize worker = world.ringBuffer.length

/-- The ring is the front of what the client still sends. -/
theorem Streamed.front (streamed : Streamed packets world count) :
    ∃ coming, world.ringBuffer ++ coming =
      ((packets.drop count).map StreamPacket.frame).flatten := by
  obtain ⟨coming, whole⟩ := streamed.genuine
  refine ⟨coming, ?_⟩
  rw [← streamed.split, ← List.take_append_drop count packets, List.map_append,
    List.flatten_append, List.append_assoc, List.take_append_drop] at whole
  exact List.append_cancel_left whole

/-- The message that is created is the packet's. -/
theorem made_of_createMessage {packet : StreamPacket setup.lib Encoded} {buffer : Network.NetBuffer}
    (unread : buffer.unread = packet.payload)
    (created : createMessageFromPacket setup.messageFactories buffer = some message) :
    setup.made packet = some message := by
  obtain ⟨-, made⟩ := Option.ite_none_left_eq_some.mp created
  rwa [unread] at made

variable [DecidableEq Io]

/-- **What a pass of the loop makes is the next packet's message.** -/
theorem Streamed.receive (lawful : setup.lib.Lawful Encoded)
    (streamed : Streamed packets world count)
    (place : world.session.pc (.io worker) = .ioRecv)
    (more : setup.lib.headerSize < world.restSize worker)
    (made : (world.receive setup worker).1 = some message) :
    ∃ packet rest, packets[count]? = some packet ∧ setup.made packet = some message ∧
      world.ringBuffer = packet.frame ++ rest ∧
      (world.receive setup worker).2.ringBuffer = rest ∧
      (world.receive setup worker).2.restSize worker = rest.length := by
  have size := streamed.counted worker place
  obtain ⟨coming, front⟩ := streamed.front
  rw [size] at more
  cases others : packets.drop count with
  | nil =>
      rw [others, List.map_nil, List.flatten_nil, List.append_eq_nil_iff] at front
      rw [front.1] at more
      cases more
  | cons packet rest =>
      rw [others, List.map_cons, List.flatten_cons] at front
      have next : packets[count]? = some packet := by
        rw [← Nat.add_zero count, ← List.getElem?_drop, others]
        rfl
      rcases Nat.lt_or_ge world.ringBuffer.length packet.frame.length with short | whole
      · -- `Decode` fails on a frame that is not all there
        obtain ⟨length, told⟩ := lawful.length _ _ packet.encoded
        have header := setup.lib.header
        have announces : Network.announced world.ringBuffer = packet.payload.length := by
          rw [← told]
          exact Network.announced_of_append front (by omega) (by omega)
        have failed := Network.recvStreamToBuffer_incomplete lawful (Nat.le_of_lt more)
          (by rw [announces]; omega)
        unfold World.receive at made
        dsimp only at made
        rw [size, failed] at made
        cases made
      · obtain ⟨behind, ring, -⟩ := Framing.split_frame front whole
        obtain ⟨decoded, unread, received⟩ :=
          Network.recvStreamToBuffer_complete lawful packet.encoded behind
        rw [← ring] at received
        refine ⟨packet, behind, next, ?_, ring, ?_, ?_⟩
        · unfold World.receive at made
          dsimp only at made
          rw [size, received] at made
          exact made_of_createMessage unread made
        · unfold World.receive
          dsimp only
          rw [size, received]
        · unfold World.receive
          dsimp only
          rw [size, received]
          exact Function.update_self _ _ _

end Ring

/-! ### Who reads -/

section Reading

variable {Message : Type u} {Buffer : Type v} {Io : Type} {Name : Type w}
  {setup : Setup Message Buffer} {Encoded : List UInt8 → List UInt8 → Prop}
  {world after : World Message Buffer Io Name} {packets : List (StreamPacket setup.lib Encoded)}
  {label : Label Message Buffer Io Name}

/-- In the loop a worker has the right to receive. -/
theorem receiving_ioRecv {worker : Io} (place : world.session.pc (.io worker) = .ioRecv) :
    receiving (world.session.pc (.io worker)) = 1 := by
  rw [place]
  rfl

/-- A function of the session reads no packets and runs no messages. -/
theorem of_free {thread : SessionIo.Tid Io} (free : world.free thread = true) :
    world.session.pc thread ≠ .ioRecv ∧
      world.session.pc thread ≠ .ioFind .recv .transferred ∧
      world.session.pc thread ≠ .logicHandler := by
  unfold World.free at free
  refine ⟨?_, ?_, ?_⟩
  all_goals
    intro place
    rw [place] at free
    cases thread <;> cases free

section Invariant

variable [Fintype Io]

/-- **The mailbox and the ring**: nobody has a message in hand, or one worker has the next one, or
nobody receives any more. -/
inductive Reading (packets : List (StreamPacket setup.lib Encoded))
    (world : World Message Buffer Io Name) : Prop
  | between (empty : ∀ worker, world.actor.pc (.sender (.inl worker)) = .sender)
      (read : Read setup packets (packetsOf world.actor.shared.accepted))
      (streamed : Streamed packets world (packetsOf world.actor.shared.accepted).length)
  | holding (worker : Io) (message : Message) (place : world.session.pc (.io worker) = .ioRecv)
      (hand : Hand (world.actor.pc (.sender (.inl worker))) (some message))
      (others : ∀ other, other ≠ worker → world.actor.pc (.sender (.inl other)) = .sender)
      (read : Read setup packets (packetsOf world.actor.shared.accepted ++ [message]))
      (streamed : Streamed packets world ((packetsOf world.actor.shared.accepted).length + 1))
  | ended (empty : ∀ worker, world.actor.pc (.sender (.inl worker)) = .sender)
      (read : Read setup packets (packetsOf world.actor.shared.accepted))
      (none : rights world.session = 0)

/-- The invariant of a run. -/
structure Sound (packets : List (StreamPacket setup.lib Encoded))
    (world : World Message Buffer Io Name) : Prop where
  reading : Reading packets world
  single : rights world.session ≤ 1
  sheer : ∀ thread, Sheer (world.session.pc thread)
  logic : Quiet (world.actor.pc .logic)
  others : ∀ name, Quiet (world.actor.pc (.sender (.inr name)))

theorem sound_initial : Sound packets (initial Message Buffer Io Name) where
  reading := .between (fun _ => rfl) List.nil_prefix
    ⟨rfl, List.nil_prefix, fun worker place => by cases place⟩
  single := rights_initial.le
  sheer := fun thread => .inr (by cases thread <;> rfl)
  logic := trivial
  others := fun _ => trivial

/-- A step of the session that takes no worker into the loop, and none out of it with a message. -/
theorem Reading.of_session (reading : Reading packets world) (actor : after.actor = world.actor)
    (ring : after.ringBuffer = world.ringBuffer) (restSize : after.restSize = world.restSize)
    (arrived : after.arrived = world.arrived)
    (fewer : rights after.session ≤ rights world.session)
    (readers : ∀ worker, after.session.pc (.io worker) = .ioRecv →
      world.session.pc (.io worker) = .ioRecv)
    (stays : ∀ worker, world.actor.pc (.sender (.inl worker)) ≠ .sender →
      world.session.pc (.io worker) = .ioRecv → after.session.pc (.io worker) = .ioRecv) :
    Reading packets after := by
  have onward {count : ℕ} (streamed : Streamed packets world count) :
      Streamed packets after count := by
    refine ⟨?_, ?_, fun worker place => ?_⟩
    · rw [ring, arrived, streamed.split]
    · rw [arrived]
      exact streamed.genuine
    · rw [ring, restSize]
      exact streamed.counted worker (readers worker place)
  cases reading with
  | between empty read streamed =>
      rw [← actor] at empty read streamed
      exact .between empty read (onward streamed)
  | holding worker message place hand others read streamed =>
      have holds : world.actor.pc (.sender (.inl worker)) ≠ .sender := by
        intro idle
        rw [idle] at hand
        cases hand
      have place' := stays worker holds place
      rw [← actor] at hand others read streamed
      exact .holding worker message place' hand others read (onward streamed)
  | ended empty read none =>
      rw [← actor] at empty read
      exact .ended empty read (Nat.eq_zero_of_le_zero (none ▸ fewer))

/-- A step of the actor by a thread that reads no packets. -/
theorem Reading.of_actor (reading : Reading packets world)
    (session : after.session = world.session) (ring : after.ringBuffer = world.ringBuffer)
    (restSize : after.restSize = world.restSize) (arrived : after.arrived = world.arrived)
    (workers : ∀ worker, after.actor.pc (.sender (.inl worker)) =
      world.actor.pc (.sender (.inl worker)))
    (kept : packetsOf after.actor.shared.accepted = packetsOf world.actor.shared.accepted) :
    Reading packets after := by
  have onward {count : ℕ} (streamed : Streamed packets world count) :
      Streamed packets after count := by
    refine ⟨?_, ?_, fun worker place => ?_⟩
    · rw [ring, arrived, streamed.split]
    · rw [arrived]
      exact streamed.genuine
    · rw [ring, restSize]
      rw [session] at place
      exact streamed.counted worker place
  cases reading with
  | between empty read streamed =>
      rw [← kept] at read streamed
      exact .between (fun worker => (workers worker).trans (empty worker)) read (onward streamed)
  | holding worker message place hand others read streamed =>
      rw [← kept] at read streamed
      rw [← workers worker] at hand
      rw [← session] at place
      exact .holding worker message place hand
        (fun other different => (workers other).trans (others other different)) read
        (onward streamed)
  | ended empty read none =>
      rw [← kept] at read
      rw [← session] at none
      exact .ended (fun worker => (workers worker).trans (empty worker)) read none

/-- In each case the messages in the mailbox are those of the first packets. -/
theorem Reading.read (reading : Reading packets world) :
    Read setup packets (packetsOf world.actor.shared.accepted) := by
  cases reading with
  | between empty read streamed => exact read
  | holding worker message place hand others read streamed =>
      unfold Read at read ⊢
      rw [List.map_append] at read
      exact (List.prefix_append _ _).trans read
  | ended empty read none => exact read

/-- The steps of a worker leave the other senders where they are. -/
theorem Sound.quiet {worker : Io} {actor : Actor.State (Letter Message) (Io ⊕ Name)}
    (sound : Sound packets world)
    (stays : ∀ other, other ≠ .sender (.inl worker) → actor.pc other = world.actor.pc other) :
    Quiet (actor.pc .logic) ∧ ∀ name, Quiet (actor.pc (.sender (.inr name))) := by
  refine ⟨?_, fun name => ?_⟩
  · rw [stays _ (by simp)]
    exact sound.logic
  · rw [stays _ (by simp)]
    exact sound.others name

end Invariant

variable [DecidableEq Io]

/-- **Only a completed receive brings a worker into the loop.** -/
theorem session_readers {session session' : SessionIo.State Buffer Io}
    {taken : SessionIo.Tid Io × SessionIo.Choice Buffer}
    (sheer : ∀ thread, Sheer (session.pc thread))
    (stepped : SessionIo.step session taken = some session') :
    (∀ thread, Sheer (session'.pc thread)) ∧ ∀ thread, session'.pc thread = .ioRecv →
      session.pc thread = .ioRecv ∨
        thread = taken.1 ∧ session.pc thread = .ioFind .recv .transferred := by
  obtain ⟨acted, others⟩ := threadStep_moved stepped
  have moved := (sheer taken.1).move (SessionIo.act_moves acted)
  refine ⟨fun thread => ?_, fun thread reads => ?_⟩
  · by_cases mover : thread = taken.1
    · rw [mover]
      exact moved.1
    · rw [others thread mover]
      exact sheer thread
  · by_cases mover : thread = taken.1
    · rw [mover] at reads ⊢
      exact .inr ⟨rfl, moved.2 reads⟩
    · rw [← others thread mover]
      exact .inl reads

variable [Fintype Io]

/-- A step of the session, for a worker that has no message in hand. -/
theorem Sound.of_session {taken : SessionIo.Tid Io × SessionIo.Choice Buffer}
    {session : SessionIo.State Buffer Io} (sound : Sound packets world)
    (stepped : SessionIo.step world.session taken = some session)
    (unfound : ∀ worker, taken.1 = .io worker → session.pc (.io worker) = .ioRecv →
      world.session.pc (.io worker) = .ioRecv)
    (idle : ∀ worker, taken.1 = .io worker → world.session.pc (.io worker) = .ioRecv →
      world.actor.pc (.sender (.inl worker)) = .sender)
    (todo : List (Action Message Buffer)) :
    Sound packets { world with session := session, todo := todo } := by
  obtain ⟨reading, single, sheer, logic, others⟩ := sound
  obtain ⟨sheer', readers⟩ := session_readers sheer stepped
  have fewer := rights_step stepped
  obtain ⟨-, stays⟩ := threadStep_moved stepped
  refine ⟨?_, Nat.le_trans fewer single, sheer', logic, others⟩
  refine reading.of_session rfl rfl rfl rfl fewer (fun worker reads => ?_)
    fun worker holds reads => ?_
  · rcases readers (.io worker) reads with here | ⟨mover, -⟩
    · exact here
    · exact unfound worker mover.symm reads
  · by_cases mover : taken.1 = .io worker
    · exact absurd (idle worker mover reads) holds
    · exact (stays (.io worker) (Ne.symm mover)).trans reads

/-- **A completed receive**: only its worker reads. -/
theorem Sound.found {worker : Io} {transferred : List UInt8} {session : SessionIo.State Buffer Io}
    (sound : Sound packets world)
    (genuine : world.arrived ++ transferred <+: (packets.map StreamPacket.frame).flatten)
    (place : world.session.pc (.io worker) = .ioFind .recv .transferred)
    (stepped : SessionIo.step world.session (.io worker, .go) = some session) :
    Sound packets { world with
      session := session
      ringBuffer := world.ringBuffer ++ transferred
      restSize := Function.update world.restSize worker (world.ringBuffer ++ transferred).length
      arrived := world.arrived ++ transferred } := by
  obtain ⟨reading, single, sheer, logic, others⟩ := sound
  obtain ⟨sheer', readers⟩ := session_readers sheer stepped
  have fewer := rights_step stepped
  have receives : receiving (world.session.pc (.io worker)) = 1 := by
    rw [place]
    rfl
  have nobody (other : Io) : world.session.pc (.io other) ≠ .ioRecv := by
    intro reads
    have same := alone single (receiving_ioRecv reads) receives
    rw [same, place] at reads
    cases reads
  refine ⟨?_, Nat.le_trans fewer single, sheer', logic, others⟩
  cases reading with
  | between empty read streamed =>
      refine .between empty read ⟨?_, genuine, fun other reads => ?_⟩
      · show _ ++ (world.ringBuffer ++ transferred) = world.arrived ++ transferred
        rw [← List.append_assoc, streamed.split]
      · rcases readers (.io other) reads with here | ⟨mover, -⟩
        · exact absurd here (nobody other)
        · cases mover
          exact Function.update_self _ _ _
  | holding holder message place' hand others read streamed => exact absurd place' (nobody holder)
  | ended empty read none =>
      have held : receiving (world.session.pc (.io worker)) ≤ rights world.session :=
        receiving_le_rights _
      omega

/-- A worker fails on a packet, or cannot send it, and nobody receives any more. -/
theorem Sound.given_up {worker : Io} {session : SessionIo.State Buffer Io}
    {actor : Actor.State (Letter Message) (Io ⊕ Name)} (sound : Sound packets world)
    (place : world.session.pc (.io worker) = .ioRecv)
    (stepped : SessionIo.step world.session (.io worker, .malformed) = some session)
    (kept : packetsOf actor.shared.accepted = packetsOf world.actor.shared.accepted)
    (back : actor.pc (.sender (.inl worker)) = .sender)
    (stays : ∀ other, other ≠ .sender (.inl worker) → actor.pc other = world.actor.pc other)
    (ringBuffer : List UInt8) (restSize : Io → ℕ) :
    Sound packets { world with
      session := session
      actor := actor
      ringBuffer := ringBuffer
      restSize := restSize } := by
  obtain ⟨logic', others'⟩ := sound.quiet stays
  obtain ⟨reading, single, sheer, logic, others⟩ := sound
  obtain ⟨sheer', -⟩ := session_readers sheer stepped
  have none := rights_malformed single place stepped
  have idle (empty : ∀ other, other ≠ worker → world.actor.pc (.sender (.inl other)) = .sender)
      (other : Io) : actor.pc (.sender (.inl other)) = .sender := by
    by_cases same : other = worker
    · rw [same, back]
    · rw [stays _ (by simpa using same), empty other same]
  refine ⟨?_, none.le.trans (Nat.zero_le _), sheer', logic', others'⟩
  cases reading with
  | between empty read streamed =>
      refine .ended (idle fun other _ => empty other) ?_ none
      rw [← kept] at read
      exact read
  | holding holder message place' hand empty read streamed =>
      have same := alone single (receiving_ioRecv place') (receiving_ioRecv place)
      cases same
      refine .ended (idle empty) ?_ none
      unfold Read at read ⊢
      rw [List.map_append] at read
      dsimp only
      rw [kept]
      exact (List.prefix_append _ _).trans read
  | ended empty read none' =>
      have held : receiving (world.session.pc (.io worker)) ≤ rights world.session :=
        receiving_le_rights _
      have receives := receiving_ioRecv place
      omega

/-- A worker that is in `SendMessage` has the next packet's message in hand. -/
theorem Reading.holder {worker : Io} (reading : Reading packets world)
    (busy : world.actor.pc (.sender (.inl worker)) ≠ .sender) :
    ∃ message, Hand (world.actor.pc (.sender (.inl worker))) (some message) ∧
      (∀ other, other ≠ worker → world.actor.pc (.sender (.inl other)) = .sender) ∧
      Read setup packets (packetsOf world.actor.shared.accepted ++ [message]) ∧
      Streamed packets world ((packetsOf world.actor.shared.accepted).length + 1) := by
  cases reading with
  | between empty read streamed => exact absurd (empty worker) busy
  | holding holder message place hand others read streamed =>
      by_cases same : worker = holder
      · cases same
        exact ⟨message, hand, others, read, streamed⟩
      · exact absurd (others worker same) busy
  | ended empty read none => exact absurd (empty worker) busy

variable [DecidableEq Name]

/-- A step of the actor by a thread that is no worker. -/
theorem Sound.of_actor {thread : Actor.Tid (Io ⊕ Name)} {choice : Actor.Choice Message}
    {actor : Actor.State (Letter Message) (Io ⊕ Name)} (sound : Sound packets world)
    (stepped : Actor.step world.actor (thread, letterChoice choice) = some actor)
    (other : ∀ worker, thread ≠ .sender (.inl worker)) (todo : List (Action Message Buffer)) :
    Sound packets { world with actor := actor, todo := todo } := by
  obtain ⟨reading, single, sheer, logic, others⟩ := sound
  obtain ⟨acted, stays⟩ := threadStep_moved stepped
  have quiet : Quiet (world.actor.pc thread) := by
    cases thread with
    | logic => exact logic
    | sender name =>
        cases name with
        | inl worker => exact absurd rfl (other worker)
        | inr name => exact others name
  obtain ⟨quiet', kept⟩ := quiet.act acted
  have quietly (name : Actor.Tid (Io ⊕ Name)) (before : Quiet (world.actor.pc name)) :
      Quiet (actor.pc name) := by
    by_cases mover : name = thread
    · rw [mover]
      exact quiet'
    · rw [stays name mover]
      exact before
  refine ⟨?_, single, sheer, quietly _ logic, fun name => quietly _ (others name)⟩
  exact reading.of_actor rfl rfl rfl rfl (fun worker => stays _ (other worker).symm) kept

/-- **A worker makes the message of the next packet.** -/
theorem Sound.made {worker : Io} {message : Message}
    {actor : Actor.State (Letter Message) (Io ⊕ Name)} (lawful : setup.lib.Lawful Encoded)
    (sound : Sound packets world) (reads : Reads world worker .sender)
    (more : setup.lib.headerSize < world.restSize worker)
    (made : (world.receive setup worker).1 = some message)
    (stepped : Actor.step world.actor (.sender (.inl worker), .send (some (.packet message))) =
      some actor) :
    Sound packets { (world.receive setup worker).2 with actor := actor } := by
  obtain ⟨acted, stays⟩ := threadStep_moved stepped
  dsimp only at acted
  rw [reads.actor] at acted
  obtain ⟨shared, place⟩ := Prod.mk.inj (Option.some.inj acted)
  obtain ⟨logic', others'⟩ := sound.quiet stays
  obtain ⟨reading, single, sheer, logic, others⟩ := sound
  refine ⟨?_, single, sheer, logic', others'⟩
  cases reading with
  | between empty read streamed =>
      obtain ⟨packet, rest, next, told, ring, ring', size⟩ :=
        streamed.receive lawful reads.session more made
      rw [shared] at read streamed next
      refine .holding worker message reads.session (place ▸ .check message)
        (fun other different => ?_) ?_ ⟨?_, streamed.genuine, fun other there => ?_⟩
      · dsimp only
        rw [stays _ (by simpa using different), empty other]
      · exact read.next next told
      · have split := streamed.split
        rw [ring, ← List.append_assoc] at split
        show _ ++ (world.receive setup worker).2.ringBuffer = world.arrived
        rw [ring', List.take_add_one, next, List.map_append, List.flatten_append]
        simpa using split
      · have same := alone single (receiving_ioRecv there) (receiving_ioRecv reads.session)
        cases same
        dsimp only
        rw [ring']
        exact size
  | holding holder message' place' hand empty read streamed =>
      have same := alone single (receiving_ioRecv place') (receiving_ioRecv reads.session)
      cases same
      rw [reads.actor] at hand
      cases hand
  | ended empty read none =>
      have held : receiving (world.session.pc (.io worker)) ≤ rights world.session :=
        receiving_le_rights _
      have receives := receiving_ioRecv reads.session
      omega

/-- A worker has looked whether the actor is stopped. -/
theorem Sound.checked {worker : Io} {choice : Actor.Choice (Letter Message)}
    {actor : Actor.State (Letter Message) (Io ⊕ Name)} {message : Option (Letter Message)}
    {next : Actor.Pc (Letter Message)} (sound : Sound packets world)
    (reads : Reads world worker (.sendCheck message next))
    (stepped : Actor.step world.actor (.sender (.inl worker), choice) = some actor) :
    packetsOf actor.shared.accepted = packetsOf world.actor.shared.accepted ∧
      (actor.pc (.sender (.inl worker)) ≠ .sender →
        Sound packets { world with actor := actor }) := by
  obtain ⟨acted, stays⟩ := threadStep_moved stepped
  obtain ⟨logic', others'⟩ := sound.quiet stays
  obtain ⟨reading, single, sheer, logic, others⟩ := sound
  have busy : world.actor.pc (.sender (.inl worker)) ≠ .sender := by simp [reads.actor]
  obtain ⟨made, hand, empty, read, streamed⟩ := reading.holder busy
  dsimp only at acted
  rw [reads.actor] at acted hand
  cases hand with
  | check made =>
      have passed : actor.shared = world.actor.shared ∧
          (actor.pc (.sender (.inl worker)) ≠ .sender →
            actor.pc (.sender (.inl worker)) = .sendPush (some (.packet made)) .sender) := by
        cases choice with
        | go =>
            obtain ⟨shared, place⟩ := Prod.mk.inj (Option.some.inj acted)
            refine ⟨shared.symm, fun onward => ?_⟩
            rw [← place] at onward ⊢
            split at onward
            · exact absurd rfl onward
            · rename_i running
              rw [if_neg running]
        | missStop =>
            obtain ⟨shared, place⟩ := Prod.mk.inj (Option.some.inj acted)
            exact ⟨shared.symm, fun _ => place.symm⟩
        | send | stop | process => cases acted
      obtain ⟨shared, onward⟩ := passed
      refine ⟨by rw [shared], fun going => ⟨?_, single, sheer, logic', others'⟩⟩
      rw [← shared] at read streamed
      refine .holding worker made reads.session (onward going ▸ .push made)
        (fun other different => ?_) read ⟨streamed.split, streamed.genuine, streamed.counted⟩
      exact (stays _ (by simpa using different)).trans (empty other different)

/-- **The message enters the mailbox.** -/
theorem Sound.pushed {worker : Io} {choice : Actor.Choice (Letter Message)}
    {actor : Actor.State (Letter Message) (Io ⊕ Name)} {message : Option (Letter Message)}
    {next : Actor.Pc (Letter Message)} (sound : Sound packets world)
    (reads : Reads world worker (.sendPush message next))
    (stepped : Actor.step world.actor (.sender (.inl worker), choice) = some actor) :
    Sound packets { world with actor := actor } := by
  obtain ⟨acted, stays⟩ := threadStep_moved stepped
  obtain ⟨logic', others'⟩ := sound.quiet stays
  obtain ⟨reading, single, sheer, logic, others⟩ := sound
  have busy : world.actor.pc (.sender (.inl worker)) ≠ .sender := by simp [reads.actor]
  obtain ⟨made, hand, empty, read, streamed⟩ := reading.holder busy
  dsimp only at acted
  rw [reads.actor] at acted hand
  cases hand with
  | push made =>
      cases choice with
      | go =>
          obtain ⟨shared, place⟩ := Prod.mk.inj (Option.some.inj acted)
          have accepted : packetsOf actor.shared.accepted =
              packetsOf world.actor.shared.accepted ++ [made] := by
            rw [← shared, packetsOf_push]
            rfl
          refine ⟨.between (fun other => ?_) ?_ ?_, single, sheer, logic', others'⟩
          · by_cases same : other = worker
            · rw [same]
              exact place.symm
            · exact (stays _ (by simpa using same)).trans (empty other same)
          · dsimp only
            rw [accepted]
            exact read
          · dsimp only
            rw [accepted, List.length_append, List.length_singleton]
            exact ⟨streamed.split, streamed.genuine, streamed.counted⟩
      | send | stop | process | missStop => cases acted

/-- **The step lemma.** -/
theorem Sound.step (lawful : setup.lib.Lawful Encoded) (sound : Sound packets world)
    (genuine : Genuine packets world label) (moved : Moved setup world label after) :
    Sound packets after := by
  cases moved with
  | session thread choice session free stepped =>
      obtain ⟨outside, unfound, -⟩ := of_free free
      refine sound.of_session stepped (fun worker mover reads => ?_) (fun worker mover reads => ?_)
        world.todo
      · cases mover
        exact ((session_readers sound.sheer stepped).2 _ reads).resolve_right fun found =>
          unfound found.2
      · cases mover
        exact absurd reads outside
  | found worker transferred session place stepped found => exact sound.found genuine place stepped
  | gone worker transferred session place stepped gone =>
      refine sound.of_session stepped (fun other mover reads => ?_) (fun other mover reads => ?_)
        world.todo
      · cases mover
        exact absurd reads gone
      · cases mover
        rw [place] at reads
        cases reads
  | refused worker session reads more none stepped =>
      exact sound.given_up reads.session stepped rfl reads.actor (fun _ _ => rfl) _ _
  | made worker message actor reads more made stepped =>
      exact sound.made lawful reads more made stepped
  | checked worker choice actor message next reads stepped onward =>
      exact (sound.checked reads stepped).2 onward
  | stopped worker choice actor session message next reads stepped back ended =>
      exact sound.given_up reads.session ended (sound.checked reads stepped).1 back
        (threadStep_moved stepped).2 _ _
  | pushed worker choice actor message next reads stepped => exact sound.pushed reads stepped
  | loopEnded worker session reads few stepped =>
      refine sound.of_session stepped (fun other mover _ => ?_) (fun other mover _ => ?_) world.todo
      · cases mover
        exact reads.session
      · cases mover
        exact reads.actor
  | other name choice actor stepped => exact sound.of_actor stepped (by simp) world.todo
  | logic choice actor outside stepped => exact sound.of_actor stepped (by simp) world.todo
  | looped choice actor place stepped => exact sound.of_actor stepped (by simp) _
  | returned actor runs done stepped =>
      have stepped : Actor.step world.actor (.logic, letterChoice .go) = some actor := stepped
      exact sound.of_actor stepped (by simp) world.todo
  | sentPacket buffer rest session runs todo stepped =>
      exact sound.of_session stepped (fun _ mover => by cases mover) (fun _ mover => by cases mover)
        rest
  | disconnected rest session runs todo stepped =>
      exact sound.of_session stepped (fun _ mover => by cases mover) (fun _ mover => by cases mover)
        rest
  | sentMessage choice action rest actor runs todo silent calls stepped =>
      exact sound.of_actor stepped (by simp) rest
  | frameEnded session outside stepped =>
      exact sound.of_session stepped (fun _ mover => by cases mover) (fun _ mover => by cases mover)
        world.todo

end Reading

/-! ### Who answers -/

section Answering

variable {Message : Type u} {Buffer : Type v} {Io : Type} {Name : Type w}

/-- The packets that are sent. -/
def sends (actions : List (Action Message Buffer)) : List Buffer :=
  actions.filterMap fun
    | .sendPacket buffer => some buffer
    | _ => none

/-- What an entry of the mailbox sends when it is called. -/
def Setup.answers (setup : Setup Message Buffer) (entry : Entry (Letter Message)) : List Buffer :=
  sends (setup.actions entry)

variable {setup : Setup Message Buffer} {world after : World Message Buffer Io Name}
  {label : Label Message Buffer Io Name}

/-- **What the messages run so far send** is enqueued, or is still to be sent by the running one. -/
structure Answering (setup : Setup Message Buffer) (world : World Message Buffer Io Name) :
    Prop where
  sent : world.session.shared.enqueued ++ sends world.todo =
    world.actor.shared.executed.flatMap setup.answers
  idle : (world.actor.pc .logic).base ≠ .processRun → world.todo = []
  /-- The running message is the last one that was started. -/
  rest : world.todo = [] ∨ ∃ earlier entry,
    world.actor.shared.executed = earlier ++ [entry] ∧ world.todo <:+ setup.actions entry

theorem Answering.rest_of_suffix (answering : Answering setup world)
    {todo : List (Action Message Buffer)} (shorter : todo <:+ world.todo) :
    todo = [] ∨ ∃ earlier entry,
      world.actor.shared.executed = earlier ++ [entry] ∧ todo <:+ setup.actions entry := by
  rcases answering.rest with none | ⟨earlier, entry, last, rest⟩
  · rw [none] at shorter
    exact .inl (List.suffix_nil.mp shorter)
  · exact .inr ⟨earlier, entry, last, shorter.trans rest⟩

theorem Answering.idle_of_suffix (answering : Answering setup world)
    {todo : List (Action Message Buffer)} (shorter : todo <:+ world.todo)
    (outside : (world.actor.pc .logic).base ≠ .processRun) : todo = [] := by
  rw [answering.idle outside] at shorter
  exact List.suffix_nil.mp shorter

/-- A null message does nothing. -/
theorem actions_of_null {entry : Entry (Letter Message)} (null : entry.runs = false) :
    setup.actions entry = [] := by
  unfold Setup.actions
  cases message : entry.message with
  | none => rfl
  | some letter =>
      rw [Entry.runs, message] at null
      cases null

/-- Only `SendPacket` enqueues. -/
theorem enqueued_move {before next : SessionIo.Session Buffer} {pc pc' : SessionIo.Pc Buffer}
    {choice : SessionIo.Choice Buffer} (moved : SessionIo.Moves before pc choice next pc')
    (other : pc ≠ .logicHandler ∨ ∀ buffer, choice ≠ .sendPacket buffer) :
    next.enqueued = before.enqueued := by
  cases moved with
  | packetEnqueued buffer =>
      rcases other with place | choice
      · exact absurd rfl place
      · exact absurd rfl (choice buffer)
  | dequeued => rw [SessionIo.Session.dequeueInto_eq]
  | disconnected => rw [SessionIo.Session.disconnect_eq]
  | _ => rfl

/-- Only the head of the loop starts a message. -/
theorem executed_act {mailbox mailbox' : Mailbox (Letter Message)}
    {pc pc' : Actor.Pc (Letter Message)} {choice : Actor.Choice (Letter Message)}
    (acted : Actor.act mailbox pc choice = some (mailbox', pc')) (elsewhere : pc ≠ .processLoop) :
    mailbox'.executed = mailbox.executed := by
  revert acted
  fun_cases Actor.act mailbox pc choice with
  | case12 | case13 | case14 => exact absurd rfl elsewhere
  | _ =>
      intro acted
      cases acted <;> rfl

/-- A message is left at its end only. -/
theorem base_act {mailbox mailbox' : Mailbox (Letter Message)} {pc pc' : Actor.Pc (Letter Message)}
    {choice : Actor.Choice (Letter Message)}
    (acted : Actor.act mailbox pc choice = some (mailbox', pc'))
    (inside : pc ≠ .processRun ∨ choice ≠ .go) (runs : pc.base = .processRun) :
    pc'.base = .processRun := by
  revert acted
  fun_cases Actor.act mailbox pc choice with
  | case6 message next =>
      intro acted
      cases acted
      split <;> exact runs
  | case17 => exact absurd rfl (inside.resolve_left fun elsewhere => elsewhere rfl)
  | _ =>
      intro acted
      cases acted <;> first | exact runs | cases runs

variable [DecidableEq Io]

theorem enqueued_step {session : SessionIo.State Buffer Io}
    {taken : SessionIo.Tid Io × SessionIo.Choice Buffer}
    (stepped : SessionIo.step world.session taken = some session)
    (other : world.session.pc taken.1 ≠ .logicHandler ∨ ∀ buffer, taken.2 ≠ .sendPacket buffer) :
    session.shared.enqueued = world.session.shared.enqueued :=
  enqueued_move (SessionIo.act_moves (threadStep_moved stepped).1) other

/-- A step of the session that enqueues nothing. -/
theorem Answering.of_session {taken : SessionIo.Tid Io × SessionIo.Choice Buffer}
    {session : SessionIo.State Buffer Io} (answering : Answering setup world)
    (stepped : SessionIo.step world.session taken = some session)
    (other : world.session.pc taken.1 ≠ .logicHandler ∨ ∀ buffer, taken.2 ≠ .sendPacket buffer)
    {todo : List (Action Message Buffer)} (kept : sends todo = sends world.todo)
    (shorter : todo <:+ world.todo) :
    Answering setup { world with session := session, todo := todo } := by
  refine ⟨?_, answering.idle_of_suffix shorter, answering.rest_of_suffix shorter⟩
  dsimp only
  rw [enqueued_step stepped other, kept]
  exact answering.sent

variable [DecidableEq Name]

/-- A step of the actor that starts no message and ends none. -/
theorem Answering.of_actor {taken : Actor.Tid (Io ⊕ Name) × Actor.Choice (Letter Message)}
    {actor : Actor.State (Letter Message) (Io ⊕ Name)} (answering : Answering setup world)
    (stepped : Actor.step world.actor taken = some actor)
    (elsewhere : world.actor.pc taken.1 ≠ .processLoop)
    (inside : world.actor.pc taken.1 ≠ .processRun ∨ taken.2 ≠ .go)
    {todo : List (Action Message Buffer)} (kept : sends todo = sends world.todo)
    (shorter : todo <:+ world.todo) :
    Answering setup { world with actor := actor, todo := todo } := by
  obtain ⟨acted, stays⟩ := threadStep_moved stepped
  refine ⟨?_, fun outside => answering.idle_of_suffix shorter fun runs => outside ?_, ?_⟩
  · dsimp only
    rw [kept, executed_act acted elsewhere]
    exact answering.sent
  · by_cases mover : taken.1 = .logic
    · rw [mover] at acted inside
      exact base_act acted inside runs
    · dsimp only
      rw [stays _ (Ne.symm mover)]
      exact runs
  · dsimp only
    rw [executed_act acted elsewhere]
    exact answering.rest_of_suffix shorter

/-- **The head of the loop**: a message starts with everything it does before it. -/
theorem Answering.looped {choice : Actor.Choice Message}
    {actor : Actor.State (Letter Message) (Io ⊕ Name)} (answering : Answering setup world)
    (place : world.actor.pc .logic = .processLoop)
    (stepped : Actor.step world.actor (.logic, letterChoice choice) = some actor) :
    Answering setup { world with
      actor := actor
      todo :=
        match world.actor.shared.consumerQueue with
        | [] => world.todo
        | entry :: _ => setup.actions entry } := by
  obtain ⟨acted, -⟩ := threadStep_moved stepped
  have none : world.todo = [] := answering.idle (by rw [place]; simp [Actor.Pc.base])
  have sent := answering.sent
  rw [none] at sent
  dsimp only at acted
  rw [place] at acted
  cases choice with
  | go =>
      change Actor.act world.actor.shared .processLoop .go = _ at acted
      cases front : world.actor.shared.consumerQueue with
      | nil =>
          simp only [Actor.act, front] at acted
          obtain ⟨shared, -⟩ := Prod.mk.inj (Option.some.inj acted)
          refine ⟨?_, fun _ => none, .inl none⟩
          dsimp only
          rw [none, ← shared]
          exact sent
      | cons entry rest =>
          simp only [Actor.act, front] at acted
          cases runs : entry.runs with
          | true =>
              rw [if_pos runs] at acted
              obtain ⟨shared, next⟩ := Prod.mk.inj (Option.some.inj acted)
              refine ⟨?_, fun outside => absurd (by rw [← next]; rfl) outside, .inr ?_⟩
              · dsimp only
                rw [← shared, Mailbox.start, List.flatMap_append, ← sent]
                simp [Setup.answers, sends]
              · dsimp only
                rw [← shared]
                exact ⟨world.actor.shared.executed, entry, rfl, List.suffix_refl _⟩
          | false =>
              rw [if_neg (by simp [runs])] at acted
              obtain ⟨shared, -⟩ := Prod.mk.inj (Option.some.inj acted)
              have silent : setup.actions entry = [] := actions_of_null runs
              refine ⟨?_, fun _ => silent, .inl silent⟩
              dsimp only
              rw [silent, ← shared]
              exact sent
  | send | stop | process | missStop => cases acted

/-- **The step lemma.** -/
theorem Answering.step (answering : Answering setup world)
    (senders : ∀ name, (world.actor.pc (.sender name)).base = .sender)
    (moved : Moved setup world label after) : Answering setup after := by
  have outside (name : Io ⊕ Name) : world.actor.pc (.sender name) ≠ .processLoop ∧
      world.actor.pc (.sender name) ≠ .processRun := by
    have sender := senders name
    refine ⟨fun place => ?_, fun place => ?_⟩ <;> rw [place] at sender <;> cases sender
  cases moved with
  | session thread choice session free stepped =>
      exact answering.of_session stepped (.inl (of_free free).2.2) rfl (List.suffix_refl _)
  | found worker transferred session place stepped found =>
      have next := answering.of_session stepped (.inr fun _ => by simp) rfl (List.suffix_refl _)
      exact ⟨next.sent, answering.idle, answering.rest⟩
  | gone worker transferred session place stepped gone =>
      exact answering.of_session stepped (.inr fun _ => by simp) rfl (List.suffix_refl _)
  | refused worker session reads more none stepped =>
      have next := answering.of_session stepped (.inr fun _ => by simp) rfl (List.suffix_refl _)
      exact ⟨next.sent, answering.idle, answering.rest⟩
  | made worker message actor reads more made stepped =>
      have next := answering.of_actor stepped (outside _).1 (.inl (outside _).2) rfl
        (List.suffix_refl _)
      exact ⟨next.sent, next.idle, next.rest⟩
  | checked worker choice actor message next reads stepped onward =>
      exact answering.of_actor stepped (outside _).1 (.inl (outside _).2) rfl (List.suffix_refl _)
  | stopped worker choice actor session message next reads stepped back ended =>
      have next := answering.of_actor stepped (outside _).1 (.inl (outside _).2) rfl
        (List.suffix_refl _)
      exact next.of_session ended (.inr fun _ => by simp) rfl (List.suffix_refl _)
  | pushed worker choice actor message next reads stepped =>
      exact answering.of_actor stepped (outside _).1 (.inl (outside _).2) rfl (List.suffix_refl _)
  | loopEnded worker session reads few stepped =>
      exact answering.of_session stepped (.inr fun _ => by simp) rfl (List.suffix_refl _)
  | other name choice actor stepped =>
      exact answering.of_actor stepped (outside _).1 (.inl (outside _).2) rfl (List.suffix_refl _)
  | logic choice actor elsewhere stepped =>
      exact answering.of_actor stepped elsewhere.2 (.inl elsewhere.1) rfl (List.suffix_refl _)
  | looped choice actor place stepped => exact answering.looped place stepped
  | returned actor runs done stepped =>
      have acted := (threadStep_moved stepped).1
      refine ⟨?_, fun _ => done, .inl done⟩
      dsimp only
      rw [executed_act acted (by rw [runs.actor]; simp)]
      exact answering.sent
  | sentPacket buffer rest session runs todo stepped =>
      have acted := (threadStep_moved stepped).1
      have sent := answering.sent
      dsimp only at acted
      rw [runs.session] at acted
      obtain ⟨shared, -⟩ := Prod.mk.inj (Option.some.inj acted)
      rw [todo] at sent
      have shorter : rest <:+ world.todo := todo ▸ List.suffix_cons _ rest
      refine ⟨?_, fun outside => absurd (by rw [runs.actor]; rfl) outside,
        answering.rest_of_suffix shorter⟩
      dsimp only
      rw [← shared, ← sent]
      simp [sends]
  | disconnected rest session runs todo stepped =>
      exact answering.of_session stepped (.inr fun _ => by simp) (by rw [todo]; rfl)
        (todo ▸ List.suffix_cons _ rest)
  | sentMessage choice action rest actor runs todo silent calls stepped =>
      refine answering.of_actor stepped (by rw [runs.actor]; simp) (.inr ?_) ?_
        (todo ▸ List.suffix_cons _ rest)
      · cases choice <;> simp_all [letterChoice]
      · rw [todo]
        cases action <;> simp_all [sends]
  | frameEnded session outside stepped =>
      exact answering.of_session stepped (.inr fun _ => by simp) rfl (List.suffix_refl _)

end Answering

/-! ### Players -/

section Player

/-- What a player is called for: by its packets, and by other actors. -/
inductive PlayerMessage
  | handlePing
  | handleTestMessage (value : ℤ) (requestPlayerId : ℕ)
  | prepareItemForTrade (itemId : ℤ)
  | prepareMoneyForTrade (money : ℤ)
  deriving DecidableEq

/-- `PACKET_ID::PING`. -/
def pingId : ℕ := 1

variable {Buffer : Type v}

/-- A player: `RegisterAllPacketHandler`, and what its functions do; `pong` is what
`BuildPacketBuffer` makes of a `Pong`. -/
def playerSetup (lib : NetBufferLib) (pong : Buffer) : Setup PlayerMessage Buffer where
  lib := lib
  messageFactories := fun id => if id = pingId then some fun _ => .handlePing else none
  body
    | .handlePing => [.sendPacket pong]
    | .handleTestMessage _ _ => []
    | .prepareItemForTrade _ => []
    | .prepareMoneyForTrade _ => []

/-- The packet is a `Ping`. -/
def isPing {lib : NetBufferLib} {Encoded : List UInt8 → List UInt8 → Prop}
    (packet : StreamPacket lib Encoded) : Bool :=
  packetId packet.payload = pingId

/-- A ping. -/
def ping : StreamPacket (Network.xorLib 512) Network.XorEncoded where
  payload := Network.ping.payload
  frame := Network.ping.frame
  encoded := Network.ping.encoded
  least := by decide
  most := Network.ping.most

/-- The player of the run below, and its pong. -/
abbrev pinged : Setup PlayerMessage (List UInt8) := playerSetup (Network.xorLib 512) [2, 0, 0, 0]

/-- A session is accepted, a ping comes in two pieces, and is answered in a frame. -/
def pingSchedule : List (Label PlayerMessage (List UInt8) Unit Unit) :=
  [.session .accept .go, .session .accept .accepted, .session .accept .go, .session .accept .go,
    .session .accept .accepted, .session .accept .go,
    .session (.io ()) (.completion .recv .transferred), .recvCompleted () (ping.frame.take 4),
    .doRecv (), .session (.io ()) .go, .session (.io ()) .accepted, .session (.io ()) .go,
    .session (.io ()) (.completion .recv .transferred), .recvCompleted () (ping.frame.drop 4),
    .readPacket (), .other () (.send (some (.handleTestMessage 3 8))), .other () .go, .other () .go,
    .sendMessage () .go, .sendMessage () .go, .doRecv (),
    .session .logic .beginFrame, .logic .process, .logic .go, .logic .go, .logic .go, .handler,
    .logic .go, .handler, .session .logic .go, .session .logic .go, .session .logic .go,
    .session .logic .go, .session .logic .go, .session .logic .go, .session .logic .accepted,
    .session .logic .go, .handler, .logic .go, .endFrame]

/-- The run of the schedule: every send succeeds, and only the ping is answered. -/
theorem exists_pinged :
    ∃ world, Reach (step pinged) (fun world label => Genuine [ping] world label ∧ Live world label)
        (initial PlayerMessage (List UInt8) Unit Unit) world ∧
      world.session.shared.posted = [[[2, 0, 0, 0]]] ∧
      packetsOf world.actor.shared.accepted = [.handlePing] ∧
      (∀ entry ∈ world.actor.shared.accepted, entry.message ≠ some (.other .handlePing)) ∧
      ∀ entry ∈ world.actor.shared.accepted, packetOf entry.message = none →
        pinged.answers entry = [] := by
  obtain ⟨world, reached, test⟩ := exists_reach_of_runGuarded (step pinged)
    (fun world label => Genuine [ping] world label ∧ Live world label)
    (initial PlayerMessage (List UInt8) Unit Unit) pingSchedule
    (fun world => decide (world.session.shared.posted = [[[2, 0, 0, 0]]] ∧
      packetsOf world.actor.shared.accepted = [.handlePing] ∧
      (∀ entry ∈ world.actor.shared.accepted, entry.message ≠ some (.other .handlePing)) ∧
      ∀ entry ∈ world.actor.shared.accepted, packetOf entry.message = none →
        pinged.answers entry = [])) (by decide +kernel)
  obtain ⟨posted, accepted, others, silent⟩ := of_decide_eq_true test
  exact ⟨world, reached, posted, accepted, others, silent⟩

end Player

/-! ### Runs -/

section Runs

variable {Message : Type u} {Buffer : Type v} {Io : Type} {Name : Type w} [DecidableEq Io]
  [DecidableEq Name] {setup : Setup Message Buffer} {Encoded : List UInt8 → List UInt8 → Prop}
  {world : World Message Buffer Io Name} {packets : List (StreamPacket setup.lib Encoded)}

theorem answering_of_reach
    {guard : World Message Buffer Io Name → Label Message Buffer Io Name → Prop}
    (reached : Reach (step setup) guard (initial Message Buffer Io Name) world) :
    Answering setup world := by
  suffices Answering setup world ∧ Actor.Ordered world.actor from this.1
  refine reached.invariant (fun world => Answering setup world ∧ Actor.Ordered world.actor)
    ⟨⟨rfl, fun _ => rfl, .inl rfl⟩, Actor.ordered_initial⟩ ?_
  rintro before label after ⟨answering, ordered⟩ - taken
  have moved := moved_of_step taken
  refine ⟨answering.step ordered.senders moved, ?_⟩
  rcases moved.actor_step with same | ⟨actorLabel, stepped⟩
  · rw [same]
    exact ordered
  · exact ordered.step stepped

variable [Fintype Io]

theorem sound_of_reach (lawful : setup.lib.Lawful Encoded)
    {guard : World Message Buffer Io Name → Label Message Buffer Io Name → Prop}
    (genuine : ∀ world label, guard world label → Genuine packets world label)
    (reached : Reach (step setup) guard (initial Message Buffer Io Name) world) :
    Sound packets world :=
  reached.invariant (Sound packets) sound_initial fun _ _ _ sound allowed taken =>
    sound.step lawful (genuine _ _ allowed) (moved_of_step taken)

variable (setup) in
/-- **From the bytes to the answers of one session.** -/
structure Handled (packets : List (StreamPacket setup.lib Encoded))
    (world : World Message Buffer Io Name) : Prop where
  /-- The mailbox has the messages of the first packets, among those of other actors. -/
  read : Read setup packets (packetsOf world.actor.shared.accepted)
  /-- The messages run in the order in which they came, null messages left out. -/
  order : world.actor.shared.executed <+: world.actor.shared.accepted.filter Entry.runs
  /-- `sendQueue` has got exactly what they send, but for what the running one still sends. -/
  sent : world.session.shared.enqueued ++ sends world.todo =
    world.actor.shared.executed.flatMap setup.answers
  idle : (world.actor.pc .logic).base ≠ .processRun → world.todo = []
  /-- The running one is the last. -/
  rest : world.todo = [] ∨ ∃ earlier entry,
    world.actor.shared.executed = earlier ++ [entry] ∧ world.todo <:+ setup.actions entry

/-- **The packets of a client are handled in order**, whatever the pieces they come in, whoever else
sends messages, and whatever becomes of the sends: the messages made of them are those of its first
packets, they run in this order, and `sendQueue` gets what they send and nothing else. -/
theorem handled_in_order (lawful : setup.lib.Lawful Encoded)
    (reached : Reach (step setup) (Genuine packets) (initial Message Buffer Io Name) world) :
    Handled setup packets world where
  read := (sound_of_reach lawful (fun _ _ => id) reached).reading.read
  order := (Actor.executed_prefix_accepted (actorRun reached)).1
  sent := (answering_of_reach reached).sent
  idle := (answering_of_reach reached).idle
  rest := (answering_of_reach reached).rest

theorem handled_in_order_ping :
    ∃ world : World PlayerMessage (List UInt8) Unit Unit,
      packetsOf world.actor.shared.accepted = [.handlePing] ∧
        Handled pinged [ping] world := by
  obtain ⟨world, reached, -, accepted, -, -⟩ := exists_pinged
  exact ⟨world, accepted, handled_in_order (Network.xorLib_lawful 512)
    (reached.mono fun _ _ allowed => allowed.1)⟩

/-- The answers to a packet. -/
def Setup.answersTo (setup : Setup Message Buffer) (packet : StreamPacket setup.lib Encoded) :
    List Buffer :=
  (setup.made packet).toList.flatMap fun message => sends (setup.body message)

omit [DecidableEq Io] [DecidableEq Name] [Fintype Io] in
/-- A null message sends nothing. -/
theorem flatMap_filter_runs (entries : List (Entry (Letter Message))) :
    (entries.filter Entry.runs).flatMap setup.answers = entries.flatMap setup.answers := by
  induction entries with
  | nil => rfl
  | cons entry rest ih =>
      rw [List.flatMap_cons, ← ih, List.filter_cons]
      split
      · rw [List.flatMap_cons]
      · rename_i null
        have silent : setup.answers entry = [] := by
          unfold Setup.answers
          rw [actions_of_null (by simpa using null)]
          rfl
        rw [silent, List.nil_append]

omit [DecidableEq Io] [DecidableEq Name] [Fintype Io] in
/-- When only packets are answered, the mailbox is answered as its packets are. -/
theorem flatMap_answers {entries : List (Entry (Letter Message))}
    (silent : ∀ entry ∈ entries, packetOf entry.message = none → setup.answers entry = []) :
    entries.flatMap setup.answers =
      (packetsOf entries).flatMap fun message => sends (setup.body message) := by
  induction entries with
  | nil => rfl
  | cons entry rest ih =>
      have others := ih fun other member => silent other (List.mem_cons_of_mem _ member)
      unfold packetsOf at others ⊢
      rw [List.flatMap_cons, others]
      cases made : packetOf entry.message with
      | none =>
          simp only [List.filterMap_cons, made]
          rw [silent entry List.mem_cons_self made, List.nil_append]
      | some message =>
          simp only [List.filterMap_cons, made, List.flatMap_cons]
          congr 1
          unfold packetOf at made
          split at made
          · rename_i letter
            cases made
            rw [Setup.answers, Setup.actions, letter]
            rfl
          · cases made

omit [DecidableEq Io] [DecidableEq Name] [Fintype Io] in
/-- The answers to the messages of the first packets are the first answers. -/
theorem Read.answers {messages : List Message} (read : Read setup packets messages) :
    (messages.flatMap fun message => sends (setup.body message)) <+:
      packets.flatMap setup.answersTo := by
  have answered := List.IsPrefix.flatMap read fun made =>
    made.toList.flatMap fun message => sends (setup.body message)
  rw [List.flatMap_map, List.flatMap_map] at answered
  show _ <+: packets.flatMap fun packet =>
    (setup.made packet).toList.flatMap fun message => sends (setup.body message)
  simpa using answered

/-- What is posted are answers to the packets' messages in the mailbox. -/
theorem posted_answers (lawful : setup.lib.Lawful Encoded)
    (reached : Reach (step setup)
      (fun world label => Genuine packets world label ∧ Live world label)
      (initial Message Buffer Io Name) world)
    (silent : ∀ entry ∈ world.actor.shared.accepted, packetOf entry.message = none →
      setup.answers entry = []) :
    world.session.shared.posted.flatten <+: (packetsOf world.actor.shared.accepted).flatMap
      fun message => sends (setup.body message) := by
  have handled := handled_in_order lawful (reached.mono fun _ _ allowed => allowed.1)
  have posted := (SessionIo.sends_in_order SessionIo.unsent_initial
    (liveRun (fun _ _ allowed => allowed.2) reached)).1
  have executed := List.IsPrefix.flatMap handled.order setup.answers
  rw [flatMap_filter_runs, flatMap_answers silent] at executed
  rw [← handled.sent] at executed
  exact posted.trans ((List.prefix_append _ _).trans executed)

/-- **The answers go out in order**, each of them once: when every send succeeds and the session
stays, and the messages of other actors send nothing, what is posted is a front of the answers to
the client's packets. -/
theorem answers_in_order (lawful : setup.lib.Lawful Encoded)
    (reached : Reach (step setup)
      (fun world label => Genuine packets world label ∧ Live world label)
      (initial Message Buffer Io Name) world)
    (silent : ∀ entry ∈ world.actor.shared.accepted, packetOf entry.message = none →
      setup.answers entry = []) :
    world.session.shared.posted.flatten <+: packets.flatMap setup.answersTo :=
  (posted_answers lawful reached silent).trans
    (sound_of_reach lawful (fun _ _ allowed => allowed.1) reached).reading.read.answers

theorem answers_in_order_ping :
    ∃ world : World PlayerMessage (List UInt8) Unit Unit,
      world.session.shared.posted = [[[2, 0, 0, 0]]] ∧
        world.session.shared.posted.flatten <+:
          [(ping : StreamPacket pinged.lib Network.XorEncoded)].flatMap pinged.answersTo := by
  obtain ⟨world, reached, posted, -, -, silent⟩ := exists_pinged
  exact ⟨world, posted, answers_in_order (Network.xorLib_lawful 512) reached silent⟩

end Runs

/-! ### A player's answers -/

section Pongs

variable {Buffer : Type v} {lib : NetBufferLib} {Encoded : List UInt8 → List UInt8 → Prop}
  {pong : Buffer} {packets : List (StreamPacket lib Encoded)}

/-- The messages made of packets are those of the pings before the first other packet. -/
theorem Read.pings {messages : List PlayerMessage}
    (read : Read (playerSetup lib pong) packets messages) :
    messages = List.replicate messages.length .handlePing ∧
      messages.length ≤ (packets.takeWhile isPing).length := by
  induction messages generalizing packets with
  | nil => exact ⟨rfl, Nat.zero_le _⟩
  | cons message rest ih =>
      cases packets with
      | nil => cases List.prefix_nil.mp read
      | cons packet others =>
          obtain ⟨made, read⟩ := List.cons_prefix_cons.mp read
          obtain ⟨alike, most⟩ := ih read
          obtain ⟨factory, registered, made⟩ := Option.map_eq_some_iff.mp made.symm
          obtain ⟨ping, stored⟩ := Option.ite_none_right_eq_some.mp registered
          cases stored
          refine ⟨?_, ?_⟩
          · rw [List.length_cons, List.replicate_succ, ← alike, ← made]
          · rw [List.takeWhile_cons_of_pos (by simpa [isPing] using ping)]
            exact Nat.succ_le_succ most

variable {Io : Type} {Name : Type w} [Fintype Io] [DecidableEq Io] [DecidableEq Name]
  {world : World PlayerMessage Buffer Io Name}

/-- **A pong for a ping.** A player is sent nothing but pongs, and no more of them than it has sent
pings before its first other packet. -/
theorem pong_for_ping (lawful : lib.Lawful Encoded)
    (reached : Reach (step (playerSetup lib pong))
      (fun world label => Genuine packets world label ∧ Live world label)
      (initial PlayerMessage Buffer Io Name) world)
    (others : ∀ entry ∈ world.actor.shared.accepted, entry.message ≠ some (.other .handlePing)) :
    ∃ pongs, world.session.shared.posted.flatten = List.replicate pongs pong ∧
      pongs ≤ (packets.takeWhile isPing).length := by
  have silent (entry : Entry (Letter PlayerMessage)) (member : entry ∈ world.actor.shared.accepted)
      (other : packetOf entry.message = none) : (playerSetup lib pong).answers entry = [] := by
    have foreign := others entry member
    unfold Setup.answers Setup.actions
    cases letter : entry.message with
    | none => rfl
    | some message =>
        rw [letter] at other foreign
        cases message with
        | packet message => cases other
        | other message =>
            cases message with
            | handlePing => exact absurd rfl foreign
            | handleTestMessage | prepareItemForTrade | prepareMoneyForTrade => rfl
  have posted := posted_answers lawful reached silent
  obtain ⟨alike, most⟩ :=
    (sound_of_reach lawful (fun _ _ allowed => allowed.1) reached).reading.read.pings
  have sent : sends ((playerSetup lib pong).body .handlePing) = [pong] := rfl
  rw [alike, List.flatMap_replicate, sent, List.flatten_replicate_singleton] at posted
  refine ⟨world.session.shared.posted.flatten.length, ?_, ?_⟩
  · refine List.eq_replicate_of_mem fun buffer member => ?_
    exact List.eq_of_mem_replicate (posted.subset member)
  · have shorter := posted.length_le
    rw [List.length_replicate] at shorter
    exact Nat.le_trans shorter most

theorem pong_for_ping_run :
    ∃ world : World PlayerMessage (List UInt8) Unit Unit,
      world.session.shared.posted = [[[2, 0, 0, 0]]] ∧
        ∃ pongs, world.session.shared.posted.flatten = List.replicate pongs [2, 0, 0, 0] ∧
          pongs ≤ ([ping].takeWhile isPing).length := by
  obtain ⟨world, reached, posted, -, others, -⟩ := exists_pinged
  exact ⟨world, posted, pong_for_ping (Network.xorLib_lawful 512) reached others⟩

end Pongs

end ActorModelServer.Pipeline
