/-
**The ping-pong of a client and its server.**

`main` sends one `Ping` when it has connected, the server answers a `Ping` with a `Pong`, and the
client answers a `Pong` with a `Ping`. The server is all that is assumed here: it sends nothing but
one `Pong` for every `Ping` it has got, and does not close the connection; and `send`, which blocks,
takes a whole buffer or fails.

* `one_under_way` — the `Ping` of `main` is all there ever is: at any moment one thread is about to
  push it, or it is in one of the two queues, in the hand of a thread, or on the connection.
* `ping_pong` — in a fair run it goes round and round: however many `Pong`s were processed, another
  one will be, or the client stops.
-/

import ActorModelServer.Client.Scheduling

namespace ActorModelServer.ClientMachine

open ClientReceive (Inbox stream Front front_stream stream_add payloads)
open ClientSend (Outbox)
open Network (NetBufferLib NetBuffer StreamPacket)
open PacketEncoders (sizeofPointer)
open StepRuns (Reach Trace guarded guarded_eq_some run exists_trace_of_run
  exists_reach_of_runGuarded)
open ThreadTable (threadStep_moved)

universe u

section Server

variable {Buffer : Type u} {setup : Setup Buffer} {Encoded : List UInt8 → List UInt8 → Prop}
  {system after : System Buffer} {label : Label Buffer}

/-- A server of `Pong`s: the library is lawful, the ring has room for its frames, and the client
reads them as `Pong`s. -/
structure Service (setup : Setup Buffer) (Encoded : List UInt8 → List UInt8 → Prop) where
  pong : StreamPacket setup.lib Encoded
  lawful : setup.lib.Lawful Encoded
  room : setup.lib.headerSize + setup.lib.defaultSize + sizeofPointer ≤ setup.capacity
  isPong : ∀ buffer, buffer.unread = pong.payload → (setup.read buffer).packetId = PONG

/-- How many buffers `send` has taken. -/
def Setup.received (setup : Setup Buffer) (outbox : Outbox Buffer) : ℕ :=
  outbox.sends.countP fun call => call.2 = some (setup.bufferLib.bytes call.1).length

/-- The server answers what it has got, and stays; `send` takes a whole buffer or fails. -/
def Serves (service : Service setup Encoded) (system : System Buffer) (label : Label Buffer) :
    Prop :=
  match label with
  | .serverSends bytes =>
      bytes = service.pong.frame ∧ system.client.inbox.arrived.length <
        service.pong.frame.length * setup.received system.client.outbox
  | .serverCloses => False
  | .send (.sendReturns (some sendSize)) =>
      match system.send with
      | .sending buffer _ => sendSize = (setup.bufferLib.bytes buffer).length
      | _ => True
  | _ => True

instance (service : Service setup Encoded) (system : System Buffer) (label : Label Buffer) :
    Decidable (Serves service system label) := by
  unfold Serves
  split
  · infer_instance
  · infer_instance
  · split <;> infer_instance
  · infer_instance

/-- The stream of the server. -/
def Service.pongs (service : Service setup Encoded) : ℕ → StreamPacket setup.lib Encoded :=
  fun _ => service.pong

theorem Service.length_stream (service : Service setup Encoded) (start count : ℕ) :
    (stream service.pongs start count).length = service.pong.frame.length * count := by
  unfold stream
  simp [Service.pongs, Nat.mul_comm]

theorem Service.frame_pos (service : Service setup Encoded) : 0 < service.pong.frame.length :=
  Nat.lt_of_le_of_lt (Nat.zero_le _) (service.pong.long service.lawful)

/-- **A client that is served.** -/
structure Served (service : Service setup Encoded) (system : System Buffer) : Prop where
  sides : Sides setup system
  sound : ClientReceive.Sound service.pongs system.receiving
  /-- The server has answered no more than it has got. -/
  answers : ∃ answers, system.client.inbox.arrived = stream service.pongs 0 answers ∧
    answers ≤ setup.received system.client.outbox
  /-- A `send` took a whole buffer or failed. -/
  whole : ∀ call ∈ system.client.outbox.sends,
    call.2 = none ∨ call.2 = some (setup.bufferLib.bytes call.1).length
  opened : system.client.inbox.peerClosed = false

theorem served_initial (service : Service setup Encoded) : Served service initial where
  sides := sides_initial
  sound := receiving_initial ▸ ClientReceive.sound_initial service.lawful
  answers := ⟨0, rfl, Nat.zero_le _⟩
  whole := fun _ member => by cases member
  opened := rfl

/-- What a step does to what has arrived. -/
theorem arrived_step (sides : Sides setup system) (taken : step setup system label = some after) :
    ((∀ bytes, label ≠ .serverSends bytes) ∧
        after.client.inbox.arrived = system.client.inbox.arrived) ∨
      ∃ bytes, label = .serverSends bytes ∧
        after.client.inbox.arrived = system.client.inbox.arrived ++ bytes := by
  cases step_moves taken with
  | main choice client pc moved =>
      refine .inl ⟨by simp, ?_⟩
      generalize system.main = main at moved
      cases moved <;> rfl
  | recv choice client pc created moved =>
      have acted := moved.receiving
      exact .inl ⟨by simp, (ClientReceive.act_recv acted sides.receiving.recv).arrived⟩
  | send choice client pc created moved =>
      refine .inl ⟨by simp, ?_⟩
      generalize system.send = send at moved
      cases moved <;> rfl
  | logic client pc created moved =>
      refine .inl ⟨by simp, ?_⟩
      rcases moved.receiving with ⟨place, here, acted⟩ | ⟨-, inbox, -⟩
      · have logic : system.logic.place.ofLogicThread = true := sides.receiving.logic.place
        rw [here] at logic
        exact (ClientReceive.act_logic acted logic).arrived
      · exact congrArg Inbox.arrived inbox
  | serverSends bytes => exact .inr ⟨bytes, rfl, rfl⟩
  | serverCloses => exact .inl ⟨by simp, rfl⟩

/-- Only `send` adds to the calls of `send`. -/
theorem act_sends {lib : ClientSend.BufferLib Buffer} {outbox outbox' : Outbox Buffer}
    {place place' : ClientSend.Pc Buffer} {choice : ClientSend.Choice Buffer}
    (acted : ClientSend.act lib outbox place choice = some (outbox', place')) :
    outbox'.sends = outbox.sends ∨ ∃ buffer restSize sendSize, place = .sending buffer restSize ∧
      choice = .sendReturns sendSize ∧ outbox'.sends = outbox.sends ++ [(buffer, sendSize)] := by
  revert acted
  fun_cases ClientSend.act lib outbox place choice <;> intro acted
  case case14 buffer restSize sendSize most =>
    cases acted
    exact .inr ⟨buffer, restSize, sendSize, rfl, rfl, rfl⟩
  all_goals
    cases acted
    try exact .inl rfl

/-- What a step does to the calls of `send`. -/
theorem sends_step {service : Service setup Encoded} (sides : Sides setup system)
    (serves : Serves service system label) (taken : step setup system label = some after) :
    after.client.outbox.sends = system.client.outbox.sends ∨
      ∃ call, after.client.outbox.sends = system.client.outbox.sends ++ [call] ∧
        (call.2 = none ∨ call.2 = some (setup.bufferLib.bytes call.1).length) := by
  rcases ClientSend.step_cases sides.sending (send_commutes taken) with
    ⟨own, -, -⟩ | ⟨name, -, moved, -⟩
  · cases label with
    | send choice =>
        obtain ⟨acted, -⟩ := threadStep_moved (send_commutes taken)
        rcases act_sends acted with same | ⟨buffer, restSize, sendSize, place, rfl, more⟩
        · exact .inl same
        · refine .inr ⟨(buffer, sendSize), more, ?_⟩
          cases sendSize with
          | none => exact .inl rfl
          | some sendSize =>
              have here : system.send = .sending buffer restSize := place
              unfold Serves at serves
              rw [here] at serves
              exact .inr (congrArg some serves)
    | _ => cases own
  · exact .inl moved.grows.sends

/-- What was taken stays taken. -/
theorem received_step {service : Service setup Encoded} (sides : Sides setup system)
    (serves : Serves service system label) (taken : step setup system label = some after) :
    setup.received system.client.outbox ≤ setup.received after.client.outbox := by
  unfold Setup.received
  rcases sends_step sides serves taken with same | ⟨call, more, -⟩
  · rw [same]
  · rw [more, List.countP_append]
    exact Nat.le_add_right _ _

/-- The connection is closed by the server only. -/
theorem opened_step {service : Service setup Encoded} (sides : Sides setup system)
    (serves : Serves service system label) (taken : step setup system label = some after) :
    after.client.inbox.peerClosed = system.client.inbox.peerClosed := by
  cases step_moves taken with
  | main choice client pc moved =>
      generalize system.main = main at moved
      cases moved <;> rfl
  | recv choice client pc created moved =>
      have moved := ClientReceive.act_recv moved.receiving sides.receiving.recv
      generalize system.recv = place, client.inbox = inbox at moved ⊢
      cases moved <;> rfl
  | send choice client pc created moved =>
      generalize system.send = send at moved
      cases moved <;> rfl
  | logic client pc created moved =>
      rcases moved.receiving with ⟨place, here, acted⟩ | ⟨-, inbox, -⟩
      · have logic : system.logic.place.ofLogicThread = true := sides.receiving.logic.place
        rw [here] at logic
        have moved := ClientReceive.act_logic acted logic
        generalize pc.place = place', client.inbox = inbox at moved ⊢
        cases moved <;> rfl
      · exact congrArg Inbox.peerClosed inbox
  | serverSends bytes => rfl
  | serverCloses => exact absurd serves id

theorem Served.step {service : Service setup Encoded} (served : Served service system)
    (serves : Serves service system label)
    (taken : ClientMachine.step setup system label = some after) : Served service after := by
  obtain ⟨sides, sound, ⟨answers, arrived, most⟩, whole, opened⟩ := served
  have received := received_step sides serves taken
  have arrives : ∃ answers, after.client.inbox.arrived = stream service.pongs 0 answers ∧
      answers ≤ setup.received after.client.outbox := by
    rcases arrived_step sides taken with ⟨-, same⟩ | ⟨bytes, rfl, more⟩
    · exact ⟨answers, same.trans arrived, Nat.le_trans most received⟩
    · obtain ⟨rfl, owed⟩ : bytes = service.pong.frame ∧ _ := serves
      rw [arrived, service.length_stream] at owed
      refine ⟨answers + 1, ?_, Nat.lt_of_lt_of_le (Nat.lt_of_mul_lt_mul_left owed) received⟩
      rw [more, arrived, stream_add]
      simp [stream, Service.pongs]
  have genuine : ClientReceive.Genuine service.pongs system.receiving
      (receiveLabel system label) := by
    refine ClientReceive.genuine_of_front (receive_commutes taken) ?_
    show Front service.pongs after.client.inbox.arrived
    obtain ⟨later, all, -⟩ := arrives
    rw [all]
    exact front_stream service.lawful later
  refine ⟨sides.step taken,
    sound.step service.lawful service.room genuine (receive_commutes taken), arrives, ?_,
    (opened_step sides serves taken).trans opened⟩
  rcases sends_step sides serves taken with same | ⟨call, more, size⟩
  · rw [same]
    exact whole
  · rw [more]
    intro other member
    rcases List.mem_append.mp member with before | new
    · exact whole other before
    · rw [List.mem_singleton.mp new]
      exact size

theorem served_of_reach {service : Service setup Encoded}
    (reached : Reach (step setup) (Serves service) initial system) : Served service system :=
  reached.invariant (Served service) (served_initial service) fun _ _ _ served serves taken =>
    served.step serves taken

/-- **Where the `Ping` of `main` is.** No number is less than the one before it, and the last one
is one more than the first at most: between two of them is one `Ping` or `Pong`, in
`recvBufferQueue` or a hand, on its way back, on its way to the server, in `sendBufferQueue` or a
hand, or with a thread that is about to push it. -/
structure OneUnderWay (setup : Setup Buffer) (system : System Buffer) (answers : ℕ) : Prop where
  processed : system.client.inbox.processed.length + system.client.inbox.recvBufferQueue.length ≤
    system.client.inbox.queued.length
  queued : system.client.inbox.queued.length ≤ answers
  answers : answers ≤ setup.received system.client.outbox
  received : setup.received system.client.outbox ≤ system.client.outbox.sends.length
  sends : system.client.outbox.sends.length + system.client.outbox.sendBufferQueue.length ≤
    system.client.outbox.pushed.length
  pushed : system.client.outbox.pushed.length + unpushed system.main.caller +
    unpushed system.logic.caller = system.main.pings + system.client.inbox.processed.length

theorem MainPc.pings_le (main : MainPc Buffer) : main.pings ≤ 1 := by
  rcases main with place | place
  · cases pinged : place.pinged <;> simp [MainPc.pings, pinged]
  · exact Nat.le_refl 1

/-- The queues hold one packet at most. -/
theorem OneUnderWay.queues {answers : ℕ} (one : OneUnderWay setup system answers) :
    system.client.outbox.sendBufferQueue.length + system.client.inbox.recvBufferQueue.length ≤
      1 := by
  obtain ⟨processed, queued, answers, received, sends, pushed⟩ := one
  have pings := system.main.pings_le
  omega

/-- All that is processed are `Pong`s. -/
theorem Served.pongs {service : Service setup Encoded} (served : Served service system) :
    setup.pongs system.client.inbox.processed = system.client.inbox.processed.length := by
  have received := served.sound.received
  refine List.countP_eq_length.mpr fun buffer member => ?_
  have payload : buffer.unread ∈ system.client.inbox.queued.map NetBuffer.unread :=
    List.mem_map_of_mem (received.order.subset member)
  rw [show system.client.inbox.queued.map NetBuffer.unread = _ from received.queued] at payload
  obtain ⟨index, -, same⟩ := List.mem_map.mp payload
  exact decide_eq_true (service.isPong buffer same.symm)

theorem Served.oneUnderWay {service : Service setup Encoded} (served : Served service system) :
    ∃ answers, system.client.inbox.arrived = stream service.pongs 0 answers ∧
      OneUnderWay setup system answers := by
  have pongs := served.pongs
  obtain ⟨sides, sound, ⟨answers, arrived, most⟩, -, -⟩ := served
  refine ⟨answers, arrived, sides.receiving.logic.processed_le, ?_, most, List.countP_le_length,
    sides.sending.sender.sends_le, ?_⟩
  · -- what was found is at the front of what has arrived
    obtain ⟨count, streamed⟩ := sound.streamed
    have counted := streamed.count_eq
    have got := streamed.got_eq
    have length : system.receiving.shared.arrived.length = _ := congrArg List.length arrived
    rw [length, service.length_stream, service.length_stream] at got
    have least : service.pong.frame.length * count ≤ service.pong.frame.length * answers := by
      omega
    have queue : system.client.inbox.queued.length ≤ count := by
      rw [← counted, List.length_append]
      exact Nat.le_add_right _ _
    exact Nat.le_trans queue (Nat.le_of_mul_le_mul_left least service.frame_pos)
  · rw [sides.accounts.total, sides.accounts.world, pings_worldOf, pongs]

/-- **One is under way**: in every run with a server of `Pong`s, however the threads are scheduled,
there is the one `Ping` of `main`, or the `Pong` for it; the two queues hold one packet at most. -/
theorem one_under_way {service : Service setup Encoded}
    (reached : Reach (step setup) (Serves service) initial system) :
    (∃ answers, system.client.inbox.arrived = stream service.pongs 0 answers ∧
      OneUnderWay setup system answers) ∧
        system.client.outbox.sendBufferQueue.length +
          system.client.inbox.recvBufferQueue.length ≤ 1 := by
  obtain ⟨answers, arrived, one⟩ := (served_of_reach reached).oneUnderWay
  exact ⟨⟨answers, arrived, one⟩, one.queues⟩

end Server

/-! ### Round and round -/

section Progress

variable {Buffer : Type u} {setup : Setup Buffer} {Encoded : List UInt8 → List UInt8 → Prop}
  {service : Service setup Encoded} {system after : System Buffer} {label : Label Buffer}

/-- The client and the server. -/
def servedStep (service : Service setup Encoded) :
    System Buffer → Label Buffer → Option (System Buffer) :=
  guarded (step setup) (Serves service)

/-- The threads go on when they can, the calls that can return do, and the server answers. -/
structure ServedFairly (trace : Trace (servedStep service) initial) : Prop extends Fair trace where
  server : trace.Fair fun label => ∃ bytes, label = .serverSends bytes

/-- The server and what `send` takes are all that `Serves` is about. -/
theorem serves_free (service : Service setup Encoded) : Free (Serves service) where
  main _ _ := trivial
  recv _ _ := trivial
  send _ choice other := by
    cases choice with
    | sendReturns sendSize =>
        cases sendSize with
        | none => trivial
        | some sendSize => exact absurd rfl (other sendSize)
    | _ => trivial
  logic _ := trivial

variable {trace : Trace (servedStep service) initial} {time : ℕ}

theorem served_always (trace : Trace (servedStep service) initial) (time : ℕ) :
    Served service (trace.state time) := by
  refine trace.always (served_initial service) (fun _ _ _ served taken => ?_) time
  obtain ⟨serves, taken⟩ := guarded_eq_some.mp taken
  exact served.step serves taken

/-! #### One round -/

/-- The client was told to stop. -/
def Stopped (system : System Buffer) : Prop := system.client.inbox.needStop = true

/-- What was processed stays processed. -/
theorem processed_step (sides : Sides setup system)
    (taken : step setup system label = some after) :
    system.client.inbox.processed.length ≤ after.client.inbox.processed.length := by
  rcases ClientReceive.step_cases sides.receiving (receive_commutes taken) with
    ⟨-, moved, -⟩ | ⟨-, moved, -⟩ | ⟨-, moved, -⟩
  · exact (congrArg List.length moved.grows.processed).ge
  · exact (congrArg List.length moved.grows.processed).ge
  · exact moved.processed_grow

theorem processed_lasts {count : ℕ}
    (least : count ≤ (trace.state time).client.inbox.processed.length) :
    ∀ later, time ≤ later → count ≤ (trace.state later).client.inbox.processed.length :=
  Trace.lasts (fun system : System Buffer => count ≤ system.client.inbox.processed.length) least
    fun later _ least => least.trans
      (processed_step (served_always trace later).sides (step_always trace later))

theorem received_lasts {count : ℕ}
    (least : count ≤ setup.received (trace.state time).client.outbox) :
    ∀ later, time ≤ later → count ≤ setup.received (trace.state later).client.outbox :=
  Trace.lasts (fun system : System Buffer => count ≤ setup.received system.client.outbox) least
    fun later _ least => least.trans (received_step (served_always trace later).sides
      (guarded_eq_some.mp (trace.steps later)).1 (step_always trace later))

theorem Carries.unpushed_eq {place : ClientSend.Pc Buffer} (carries : Carries setup place)
    (other : place ≠ .pushing setup.encodedPing) : unpushed place = 0 := by
  rcases carries with rfl | rfl | rfl
  · rfl
  · exact absurd rfl other
  · rfl

/-- Another push is the next one. -/
theorem pushed_next {count : ℕ} {outbox : Outbox Buffer} (served : Served service system)
    (least : count ≤ system.client.inbox.processed.length)
    (pushed : outbox = system.client.outbox.push setup.encodedPing) :
    count < outbox.pushed.length := by
  obtain ⟨answers, -, processed, queued, answered, received, sends, total⟩ := served.oneUnderWay
  have pings := system.main.pings_le
  have length : outbox.pushed.length = system.client.outbox.pushed.length + 1 := by
    rw [pushed]
    exact List.length_append
  omega

/-- Behind the push of `main`. -/
theorem pushed_by_main {count : ℕ} (fair : ServedFairly trace)
    (here : (trace.state time).main = .pinging (.pushing setup.encodedPing))
    (least : count ≤ (trace.state time).client.inbox.processed.length) :
    trace.Later time fun system => count < system.client.outbox.pushed.length := by
  refine (later_main (serves_free service) fair.toFair
    (fun system => Served service system ∧ count ≤ system.client.inbox.processed.length) here
    (fun later order => ⟨served_always trace later, processed_lasts least later order⟩)
    fun later _ here => main_acts (sides_always trace later) here).mono ?_
  rintro after ⟨system, ⟨served, least⟩, -, moved⟩
  refine pushed_next served least ?_
  generalize after.client = client, after.main = pc at moved ⊢
  cases moved with
  | sends place place' outbox busy acted =>
      cases acted
      rfl

/-- Behind the push of the logic thread. -/
theorem pushed_by_logic {count : ℕ} {buffer : NetBuffer} {rest : ℕ} (fair : ServedFairly trace)
    (connected : Connected (trace.state time))
    (here : (trace.state time).logic = .pinging (.pushing setup.encodedPing) buffer rest)
    (least : count ≤ (trace.state time).client.inbox.processed.length) :
    trace.Later time fun system => count < system.client.outbox.pushed.length := by
  refine (later_logic (serves_free service) fair.toFair connected
    (fun system => Served service system ∧ count ≤ system.client.inbox.processed.length) here
    (fun same => by cases same)
    fun later order => ⟨served_always trace later, processed_lasts least later order⟩).mono ?_
  rintro after ⟨system, ⟨served, least⟩, -, moved⟩
  refine pushed_next served least ?_
  generalize after.client = client, after.logic = pc at moved ⊢
  cases moved with
  | sends place place' outbox buffer count busy acted =>
      cases acted
      rfl

/-- **The next `Ping` is pushed**, once the `Pong`s before it were processed. -/
theorem eventually_pushed {count : ℕ} (fair : ServedFairly trace)
    (connected : Connected (trace.state time))
    (least : count ≤ (trace.state time).client.inbox.processed.length) :
    trace.Later time fun system => count < system.client.outbox.pushed.length := by
  rcases connected with here | pinged
  · -- `main` enters `SendPacket` first
    refine (later_main (serves_free service) fair.toFair (fun _ => True) here
      (fun _ _ => trivial) fun later _ here => ?_).trans fun middle order => ?_
    · refine ⟨(trace.state later).client, .pinging (.pushing setup.encodedPing), ?_⟩
      unfold mainAct
      rw [here]
      rfl
    · rintro ⟨system, -, -, moved⟩
      refine pushed_by_main fair ?_ (processed_lasts least middle order)
      generalize (trace.state middle).client = client, (trace.state middle).main = pc at moved ⊢
      cases moved
      rfl
  · have served := served_always trace time
    have connected : Connected (trace.state time) := .inr pinged
    obtain ⟨answers, -, one⟩ := served.oneUnderWay
    have total := one.pushed
    have carries := served.sides.accounts
    by_cases main : (trace.state time).main.caller = .pushing setup.encodedPing
    · obtain ⟨place, here, -⟩ := main_pings (by rw [main]; simp)
      rw [here] at main
      obtain rfl : place = _ := main
      exact pushed_by_main fair here least
    by_cases logic : (trace.state time).logic.caller = .pushing setup.encodedPing
    · obtain ⟨place, buffer, rest, here, -⟩ := logic_pings (by rw [logic]; simp)
      rw [here] at logic
      obtain rfl : place = _ := logic
      exact pushed_by_logic fair connected here least
    · rw [carries.main.unpushed_eq main, carries.logic.unpushed_eq logic, pinged] at total
      exact .now (by omega)

/-- A `send` that failed stops the client. -/
theorem stopped_of_broken (fair : ServedFairly trace) (connected : Connected (trace.state time))
    (broken : ¬ (trace.state time).client.outbox.Intact) : trace.Later time Stopped := by
  by_cases failed : ∃ buffer, (trace.state time).send = .failed buffer
  · obtain ⟨buffer, here⟩ := failed
    refine Trace.later_of_fair fair.send (fun system => system.send = .failed buffer) here ?_ ?_
    · intro later order here
      have created := ((connected_lasts connected later order).threads
        (served_always trace later).sides.threads).2.2
      have acted : ClientSend.act setup.bufferLib (trace.state later).client.outbox
          (trace.state later).send .go = some ((trace.state later).client.outbox.stop,
            .freeingLast buffer) := by
        rw [here]
        rfl
      exact send_enabled (serves_free service) created acted
    · intro later _ here
      have moves := step_moves (step_always trace later)
      generalize trace.state (later + 1) = after, trace.label later = label at moves ⊢
      cases moves with
      | send choice client pc created moved =>
          rw [here] at moved
          cases moved with
          | gaveUp => exact .inr rfl
          | sends _ _ _ _ _ intact => exact absurd rfl (intact buffer)
      | _ =>
          refine .inl ⟨here, ?_⟩
          rintro ⟨choice, same⟩
          cases same
  · have sides := (served_always trace time).sides
    refine .now (sides.agree.trans ?_)
    have failures := sides.sending.sender.failures
    have place : (trace.state time).sending.pc .sendThread = (trace.state time).send := rfl
    rw [place] at failures
    generalize (trace.state time).send = pc at failures failed
    cases pc with
    | loopHead => exact (failures.resolve_left broken).2
    | failed buffer => exact absurd ⟨buffer, rfl⟩ failed
    | freeingLast | done => exact failures.2
    | _ => exact absurd failures broken

/-- **It is sent**, or the client stops. -/
theorem eventually_received {count : ℕ} (fair : ServedFairly trace)
    (connected : Connected (trace.state time))
    (pushed : count < (trace.state time).client.outbox.pushed.length) :
    trace.Later time fun system =>
      count < setup.received system.client.outbox ∨ Stopped system := by
  have small (later : ℕ) :
      ((sendTrace trace).state later).shared.sendBufferQueue.length < 2 ^ 31 := by
    obtain ⟨answers, -, one⟩ := (served_always trace later).oneUnderWay
    have queues := one.queues
    show (trace.state later).client.outbox.sendBufferQueue.length < 2 ^ 31
    omega
  have sent : trace.Later time fun system => count < system.client.outbox.sends.length ∨
      system.client.outbox.needStop = true :=
    ClientSend.eventually_sent (send_fair (serves_free service) fair.toFair connected) small pushed
  refine sent.trans fun middle order => ?_
  rintro (sent | stopped)
  · have served := served_always trace middle
    have failures := served.sides.sending.sender.failures
    by_cases intact : (trace.state middle).client.outbox.Intact
    · refine .now (.inl ?_)
      have all : setup.received (trace.state middle).client.outbox =
          (trace.state middle).client.outbox.sends.length := by
        refine List.countP_eq_length.mpr fun call member => ?_
        exact decide_eq_true ((served.whole call member).resolve_left (intact call member))
      rw [all]
      exact sent
    · exact (stopped_of_broken fair (connected_lasts connected middle order) intact).mono
        fun _ => .inr
  · exact .now (.inr ((served_always trace middle).sides.agree.trans stopped))

/-- **The server answers it.** -/
theorem eventually_answered {count : ℕ} (fair : ServedFairly trace)
    (received : count < setup.received (trace.state time).client.outbox) :
    trace.Later time fun system =>
      ClientReceive.needed service.pongs count ≤ system.client.inbox.arrived.length := by
  have needed : ClientReceive.needed service.pongs count =
      service.pong.frame.length * (count + 1) := service.length_stream 0 (count + 1)
  rw [needed]
  by_cases done : service.pong.frame.length * (count + 1) ≤
      (trace.state time).client.inbox.arrived.length
  · exact .now done
  have owes := received_lasts (Nat.succ_le_of_lt received)
  refine Trace.later_of_descent fair.server
    (fun system => service.pong.frame.length * (count + 1) - system.client.inbox.arrived.length)
    (fun system => system.client.inbox.arrived.length < service.pong.frame.length * (count + 1))
    (Nat.lt_of_not_le done) ?_ ?_
  · intro later order unanswered
    have opened := (served_always trace later).opened
    have owed : (trace.state later).client.inbox.arrived.length <
        service.pong.frame.length * setup.received (trace.state later).client.outbox :=
      Nat.lt_of_lt_of_le unanswered (Nat.mul_le_mul_left _ (owes later order))
    refine ⟨.serverSends service.pong.frame, _, ⟨_, rfl⟩,
      guarded_eq_some.mpr ⟨⟨rfl, owed⟩, if_neg ?_⟩⟩
    rw [opened]
    exact Bool.false_ne_true
  · intro later order unanswered
    have frame := service.frame_pos
    obtain ⟨serves, taken⟩ := guarded_eq_some.mp (trace.steps later)
    by_cases done : service.pong.frame.length * (count + 1) ≤
        (trace.state (later + 1)).client.inbox.arrived.length
    · exact .inl done
    refine .inr ⟨Nat.lt_of_not_le done, ?_⟩
    rcases arrived_step (served_always trace later).sides taken with
      ⟨other, same⟩ | ⟨bytes, own, more⟩
    · refine ⟨by rw [same], ?_⟩
      rintro ⟨bytes, own⟩
      exact absurd own (other bytes)
    · rw [own] at serves
      obtain ⟨rfl, -⟩ : bytes = service.pong.frame ∧ _ := serves
      rw [more, List.length_append] at done ⊢
      exact ⟨by omega, fun _ => by omega⟩

/-- **The answer is processed**, or the client stops. -/
theorem eventually_answerProcessed {count : ℕ} (fair : ServedFairly trace)
    (connected : Connected (trace.state time))
    (arrived : ClientReceive.needed service.pongs count ≤
      (trace.state time).client.inbox.arrived.length) :
    trace.Later time fun system =>
      count < system.client.inbox.processed.length ∨ Stopped system := by
  have genuine (later : ℕ) : ClientReceive.Genuine service.pongs
      ((receiveTrace trace).state later) ((receiveTrace trace).label later) := by
    refine ClientReceive.genuine_of_front ((receiveTrace trace).steps later) ?_
    obtain ⟨count, streamed⟩ := (served_always trace (later + 1)).sound.streamed
    exact streamed.genuine
  have small (later : ℕ) :
      ((receiveTrace trace).state later).shared.recvBufferQueue.length < 2 ^ 31 := by
    obtain ⟨answers, -, one⟩ := (served_always trace later).oneUnderWay
    have queues := one.queues
    show (trace.state later).client.inbox.recvBufferQueue.length < 2 ^ 31
    omega
  have processed : trace.Later time fun system =>
      ClientReceive.Processed (service.pongs count) count system.receiving ∨
        system.client.inbox.needStop = true :=
    ClientReceive.eventually_processed service.lawful service.room
      (receive_fair (serves_free service) fair.toFair connected) genuine small arrived
  refine processed.mono fun system => ?_
  rintro (⟨buffer, there, -⟩ | stopped)
  · exact .inl (List.getElem?_eq_some_iff.mp there).1
  · exact .inr stopped

/-- **The ping-pong**: in every fair run, from when `main` has connected, however many `Pong`s were
processed, another one will be, or the client stops. -/
theorem ping_pong (fair : ServedFairly trace) (connected : Connected (trace.state time))
    (count : ℕ) :
    trace.Later time fun system =>
      count < system.client.inbox.processed.length ∨ Stopped system := by
  have reaches (count : ℕ) : trace.Later time fun system =>
      count ≤ system.client.inbox.processed.length ∨ Stopped system := by
    induction count with
    | zero => exact .now (.inl (Nat.zero_le _))
    | succ count ih =>
        refine ih.trans fun first order => ?_
        rintro (least | stopped)
        · have connected := connected_lasts connected first order
          refine (eventually_pushed fair connected least).trans fun second order pushed => ?_
          have connected := connected_lasts connected second order
          refine (eventually_received fair connected pushed).trans fun third order => ?_
          rintro (received | stopped)
          · have connected := connected_lasts connected third order
            refine (eventually_answered fair received).trans fun fourth order arrived => ?_
            have connected := connected_lasts connected fourth order
            exact eventually_answerProcessed fair connected arrived
          · exact .now (.inr stopped)
        · exact .now (.inr stopped)
  exact reaches (count + 1)

/-! #### A run -/

/-- The server of the answers above. -/
def flagService : Service flagSetup Network.XorEncoded where
  pong := ⟨PacketEncoders.littleEndian 2, Network.xorEncode 9 (PacketEncoders.littleEndian 2),
    ⟨by decide, 9, rfl⟩, by decide, by decide⟩
  lawful := Network.xorLib_lawful 512
  room := by decide
  isPong buffer same := by
    show UInt32.ofNat (numberOf (buffer.unread.take 4)) = PONG
    rw [same]
    rfl

/-- The `Ping` of `main` is sent and answered, and so is the one for the answer; then `recv`
fails. -/
def roundSchedule : List (Label (Bool × List UInt8)) :=
  connectSchedule ++ [.send .go, .send .go, .send .go, .send .go, .send (.sendReturns (some 9)),
   .send .go, .send .go, .send .go, .recv .go,
   .serverSends (Network.xorEncode 9 (PacketEncoders.littleEndian 2)),
   .recv (.recvReturns 8), .recv .go, .recv .go, .recv .go, .recv (.recvReturns 1), .recv .go,
   .recv .go, .recv .go, .recv .go, .recv .go, .logic, .logic, .logic, .logic, .logic, .logic,
   .logic, .logic, .logic, .send .go, .send .go, .send .go, .send (.sendReturns (some 9)),
   .send .go, .send .go, .send .go,
   .serverSends (Network.xorEncode 9 (PacketEncoders.littleEndian 2)),
   .recv .recvFails, .recv .go, .recv .go, .recv .go, .logic, .logic]

/-- Nobody goes on but `main`. -/
def Resting (system : System (Bool × List UInt8)) : Prop :=
  system.main = .at .running ∧ system.recv = .recvDone ∧ system.send = .waiting ∧
    system.client.outbox.sendThreadEventHandle = 0 ∧ system.logic = .looping .logicDone ∧
    flagService.pong.frame.length * flagSetup.received system.client.outbox ≤
      system.client.inbox.arrived.length

instance (system : System (Bool × List UInt8)) : Decidable (Resting system) :=
  inferInstanceAs (Decidable (_ ∧ _ ∧ _ ∧ _ ∧ _ ∧ _))

theorem one_under_way_round :
    ∃ system : System (Bool × List UInt8),
      system.client.inbox.processed.length = 1 ∧ system.client.outbox.pushed.length = 2 ∧
      system.client.outbox.sendBufferQueue.length +
        system.client.inbox.recvBufferQueue.length ≤ 1 := by
  obtain ⟨system, reached, last⟩ := exists_reach_of_runGuarded (step flagSetup)
    (Serves flagService) initial roundSchedule
    (fun system => system.client.inbox.processed.length = 1 ∧
      system.client.outbox.pushed.length = 2) (by decide)
  obtain ⟨processed, pushed⟩ := of_decide_eq_true last
  exact ⟨system, processed, pushed, (one_under_way reached).2⟩

theorem fair_of_resting {trace : Trace (servedStep flagService) initial} {bound : ℕ}
    {last : System (Bool × List UInt8)}
    (rests : ∀ time, bound ≤ time → trace.state time = last ∧ trace.label time = .main .go)
    (resting : Resting last) : ServedFairly trace := by
  obtain ⟨-, recv, send, released, logic, answered⟩ := resting
  have settled {Kind : Label (Bool × List UInt8) → Prop}
      (never : ∀ label next, Kind label → Serves flagService last label →
        Moves flagSetup last label next → False) : trace.Fair Kind := by
    refine Trace.fair_of_settled bound fun later order => ?_
    rw [(rests later order).1]
    rintro ⟨label, next, kind, taken⟩
    obtain ⟨serves, taken⟩ := guarded_eq_some.mp taken
    exact never label next kind serves (step_moves taken)
  refine ⟨⟨?_, settled ?_, settled ?_, settled ?_⟩, settled ?_⟩
  · exact fun time _ => ⟨max time bound, Nat.le_max_left _ _, (rests _ (Nat.le_max_right _ _)).2⟩
  · rintro - next ⟨choice, rfl, -⟩ - moves
    cases moves with
    | recv choice client pc created moved =>
        rw [recv] at moved
        cases moved with
        | receives _ _ _ inbox acted => cases choice <;> cases acted
  · rintro - next ⟨choice, rfl⟩ - moves
    cases moves with
    | send choice client pc created moved =>
        rw [send] at moved
        cases moved with
        | sends _ _ _ outbox acted =>
            cases choice with
            | go => simp [ClientSend.act, released] at acted
            | _ => cases acted
  · rintro - next rfl - moves
    cases moves with
    | logic client pc created moved =>
        rw [logic] at moved
        cases moved with
        | loops _ _ inbox plain acted => cases acted
  · rintro - next ⟨bytes, rfl⟩ serves -
    exact absurd serves.2 (Nat.not_lt.mpr answered)

theorem ping_pong_round :
    ∃ trace : Trace (servedStep flagService) initial, ServedFairly trace ∧
      Connected (trace.state 14) ∧
      (trace.state 14).client.inbox.processed = [] ∧
      trace.Later 14 fun system =>
        0 < system.client.inbox.processed.length ∨ Stopped system := by
  obtain ⟨last, executed, rests⟩ := Option.map_eq_some_iff.mp
    (show (run (servedStep flagService) initial roundSchedule).map
      (fun system => decide (Resting system)) = some true by decide)
  have resting := of_decide_eq_true rests
  have stays : servedStep flagService last (.main .go) = some last := by
    have acted : mainAct flagSetup last .go = some (last.client, .at .running) := by
      unfold mainAct
      rw [resting.1]
    refine guarded_eq_some.mpr ⟨trivial, ?_⟩
    rw [step_main acted, ← resting.1]
  obtain ⟨trace, fronts, -, ends⟩ := exists_trace_of_run roundSchedule executed stays
  have fair : ServedFairly trace := fair_of_resting ends resting
  have pinged : (run (servedStep flagService) initial (roundSchedule.take 14)).map
      (fun system => (system.main.pings, system.client.inbox.processed)) = some (1, []) := by
    decide
  rw [fronts 14] at pinged
  obtain ⟨pings, unprocessed⟩ := Prod.mk.inj (Option.some.inj pinged)
  have connected : Connected (trace.state 14) := .inr pings
  exact ⟨trace, fair, connected, unprocessed, ping_pong fair connected 0⟩

end Progress

end ActorModelServer.ClientMachine
