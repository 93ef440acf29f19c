/-
**The test client as a whole.**

`main` starts a client, sends it a `Ping` and stops it; `StartClient` creates the logic thread
before `Start` connects and creates the receive and the send thread, and `StopClient` sets
`needStop`, releases the semaphore and joins them one after the other. `ProcessLogic` answers every
`Pong` with a `Ping`, from inside the logic thread. The server sends what it likes.

* `receiveProjection`, `sendProjection` — the whole client is the receiving machine and the sending
  machine at once: what is proved of each of them holds of it.
* `client_accounts` — every `Ping` has its reason: the first one, or a `Pong` that was processed;
  and the world is what `ProcessLogic` makes of the packets, one after the other.
-/

import ActorModelServer.Client.ReceiveProgress
import ActorModelServer.Client.SendProgress
import ActorModelServer.Client.World
import ActorModelServer.Library.Projection
import Mathlib.Data.List.Induction

namespace ActorModelServer.ClientMachine

open ClientReceive (Inbox)
open ClientSend (Outbox BufferLib enterSendPacket)
open ClientWorld (World)
open Network (NetBufferLib NetBuffer)
open StepRuns (Projection Reach exists_reach_of_run)
open ThreadTable (threadStep_of_moved)

universe u

section Model

/-- What the client uses of the outside. -/
structure Setup (Buffer : Type u) where
  lib : NetBufferLib
  /-- The bytes `recvRingBuffer` has room for. -/
  capacity : ℕ
  bufferLib : BufferLib Buffer
  /-- `operator>>` of `ProcessLogic` and its cases. -/
  read : NetBuffer → ClientWorld.Packet
  /-- The buffer `Client::SendPacket` makes of a `Ping`. -/
  ping : Buffer

/-- A handle or a socket. -/
inductive Handle
  | absent
  | opened
  | closed
  deriving DecidableEq

/-- The client object, and what it has done. `needStop` is one variable of the two sides. -/
structure Client (Buffer : Type u) where
  inbox : Inbox
  outbox : Outbox Buffer
  world : World
  logicThread : Bool
  recvThread : Bool
  sendThread : Bool
  /-- Before it is opened and when it is closed the count in the outbox counts for nothing. -/
  sendThreadEventHandle : Handle
  sessionSocket : Handle
  /-- `WSAStartup`, without a `WSACleanup` behind it. -/
  wsaStarted : Bool
  isConnected : Bool

/-- Where `main` is outside of `SendPacket`. -/
inductive Place
  /- `StartClient` -/
  | startClient
  /- `Start` -/
  | readOptionFile
  | createSemaphore
  | wsaStartup
  | createSocket
  /- `ConnectToServer`, with the tries it has left -/
  | connectToServer (tries : ℕ)
  | closeSocket
  | cleanUp
  | createRecvThread
  | createSendThread
  | connected
  | sendPing
  /- the loop of `main` -/
  | running
  /- `WaitStopAllThreads` -/
  | setNeedStop
  | releaseSemaphore
  | joinRecvThread
  | joinSendThread
  | disconnected
  | closeHandle
  /- the rest of `StopClient` -/
  | wsaCleanup
  | joinLogicThread
  | stopped
  /- a start that failed: the destructor of the client joins the logic thread -/
  | failed
  | exited
  deriving DecidableEq

/-- Where `main` is. -/
inductive MainPc (Buffer : Type u)
  | at (place : Place)
  /- in `SendPacket` -/
  | pinging (place : ClientSend.Pc Buffer)
  deriving DecidableEq

/-- Where the logic thread is. -/
inductive LogicPc (Buffer : Type u)
  | looping (place : ClientReceive.Pc)
  /- in the `SendPacket` of `Pong`, with the packet in hand and how many are left -/
  | pinging (place : ClientSend.Pc Buffer) (buffer : NetBuffer) (count : ℕ)
  deriving DecidableEq

/-- The client and its threads. -/
structure System (Buffer : Type u) where
  client : Client Buffer
  main : MainPc Buffer
  recv : ClientReceive.Pc
  send : ClientSend.Pc Buffer
  logic : LogicPc Buffer

/-- What `main` does next: it goes on, a call fails, the key is pressed. -/
inductive MainChoice
  | go
  | fails
  | escape
  deriving DecidableEq

/-- A step of a thread, or of the server. -/
inductive Label (Buffer : Type u)
  | main (choice : MainChoice)
  | recv (choice : ClientReceive.Choice)
  | send (choice : ClientSend.Choice Buffer)
  | logic
  | serverSends (bytes : List UInt8)
  | serverCloses
  deriving DecidableEq

variable {Buffer : Type u}

/-- `needStop = true`. -/
def Client.stop (client : Client Buffer) : Client Buffer :=
  { client with inbox := client.inbox.stop, outbox := client.outbox.stop }

/-- `RECONNECT_TRY_COUNT`. -/
def reconnectTryCount : ℕ := 5

/-- `PACKET_ID::PONG`. -/
def PONG : UInt32 := 2

/-- One step of `main`. -/
def mainAct (setup : Setup Buffer) (system : System Buffer) (choice : MainChoice) :
    Option (Client Buffer × MainPc Buffer) :=
  let client := system.client
  match system.main, choice with
  | .at .startClient, .go => some ({ client with logicThread := true }, .at .readOptionFile)
  | .at .readOptionFile, .go => some (client, .at .createSemaphore)
  | .at .readOptionFile, .fails => some (client, .at .failed)
  | .at .createSemaphore, .go =>
      some ({ client with sendThreadEventHandle := .opened }, .at .wsaStartup)
  | .at .wsaStartup, .go => some ({ client with wsaStarted := true }, .at .createSocket)
  | .at .wsaStartup, .fails => some (client, .at .failed)
  | .at .createSocket, .go =>
      some ({ client with sessionSocket := .opened }, .at (.connectToServer reconnectTryCount))
  | .at .createSocket, .fails => some (client, .at .cleanUp)
  | .at (.connectToServer 0), .go => some (client, .at .closeSocket)
  | .at (.connectToServer (_ + 1)), .go => some (client, .at .createRecvThread)
  | .at (.connectToServer (tries + 1)), .fails => some (client, .at (.connectToServer tries))
  | .at .closeSocket, .go => some ({ client with sessionSocket := .closed }, .at .cleanUp)
  | .at .cleanUp, .go => some ({ client with wsaStarted := false }, .at .failed)
  | .at .createRecvThread, .go => some ({ client with recvThread := true }, .at .createSendThread)
  | .at .createSendThread, .go => some ({ client with sendThread := true }, .at .connected)
  | .at .connected, .go => some ({ client with isConnected := true }, .at .sendPing)
  | .at .sendPing, .go =>
      some (client, .pinging (enterSendPacket setup.bufferLib (some setup.ping)))
  | .pinging .caller, .go => some (client, .at .running)
  | .pinging place, .go =>
      (ClientSend.act setup.bufferLib client.outbox place .go).map fun moved =>
        ({ client with outbox := moved.1 }, .pinging moved.2)
  | .at .running, .go => some (client, .at .running)
  | .at .running, .escape => some (client, .at .setNeedStop)
  | .at .setNeedStop, .go => some (client.stop, .at .releaseSemaphore)
  | .at .releaseSemaphore, .go =>
      some ({ client with outbox := client.outbox.releaseSemaphore }, .at .joinRecvThread)
  | .at .joinRecvThread, .go =>
      if system.recv = .recvDone then some (client, .at .joinSendThread) else none
  | .at .joinSendThread, .go =>
      match system.send with
      | .done => some (client, .at .disconnected)
      | _ => none
  | .at .disconnected, .go => some ({ client with isConnected := false }, .at .closeHandle)
  | .at .closeHandle, .go =>
      some ({ client with sendThreadEventHandle := .closed }, .at .wsaCleanup)
  | .at .wsaCleanup, .go => some ({ client with wsaStarted := false }, .at .joinLogicThread)
  | .at .joinLogicThread, .go =>
      match system.logic with
      | .looping .logicDone => some (client, .at .stopped)
      | _ => none
  | .at .failed, .go =>
      match system.logic with
      | .looping .logicDone => some (client, .at .exited)
      | _ => none
  | _, _ => none

/-- One step of the receive thread. -/
def recvAct (setup : Setup Buffer) (client : Client Buffer) (place : ClientReceive.Pc)
    (choice : ClientReceive.Choice) : Option (Client Buffer × ClientReceive.Pc) :=
  (ClientReceive.act setup.lib setup.capacity client.inbox place choice).map fun moved =>
    (match place with
      | .closing => { client with inbox := moved.1, sessionSocket := .closed }
      | .stopping => client.stop
      | _ => { client with inbox := moved.1 }, moved.2)

/-- One step of the send thread. -/
def sendAct (setup : Setup Buffer) (client : Client Buffer) (place : ClientSend.Pc Buffer)
    (choice : ClientSend.Choice Buffer) : Option (Client Buffer × ClientSend.Pc Buffer) :=
  (ClientSend.act setup.bufferLib client.outbox place choice).map fun moved =>
    (match place with
      | .failed _ => client.stop
      | _ => { client with outbox := moved.1 }, moved.2)

/-- One step of the logic thread. -/
def logicAct (setup : Setup Buffer) (client : Client Buffer) (pc : LogicPc Buffer) :
    Option (Client Buffer × LogicPc Buffer) :=
  match pc with
  | .looping (.processing buffer count) =>
      let packet := setup.read buffer
      some ({ client with
          inbox := client.inbox.process buffer
          world := client.world.processLogic packet },
        if packet.packetId = PONG then
          .pinging (enterSendPacket setup.bufferLib (some setup.ping)) buffer count
        else .looping (.freeing buffer count))
  | .looping place =>
      (ClientReceive.act setup.lib setup.capacity client.inbox place .go).map fun moved =>
        ({ client with inbox := moved.1 }, .looping moved.2)
  | .pinging .caller buffer count => some (client, .looping (.freeing buffer count))
  | .pinging place buffer count =>
      (ClientSend.act setup.bufferLib client.outbox place .go).map fun moved =>
        ({ client with outbox := moved.1 }, .pinging moved.2 buffer count)

/-- One step of the client, or of the server. A thread takes its first step when it was created. -/
def step (setup : Setup Buffer) (system : System Buffer) (label : Label Buffer) :
    Option (System Buffer) :=
  match label with
  | .main choice =>
      (mainAct setup system choice).map fun moved =>
        { system with client := moved.1, main := moved.2 }
  | .recv choice =>
      if system.client.recvThread then
        (recvAct setup system.client system.recv choice).map fun moved =>
          { system with client := moved.1, recv := moved.2 }
      else none
  | .send choice =>
      if system.client.sendThread then
        (sendAct setup system.client system.send choice).map fun moved =>
          { system with client := moved.1, send := moved.2 }
      else none
  | .logic =>
      if system.client.logicThread then
        (logicAct setup system.client system.logic).map fun moved =>
          { system with client := moved.1, logic := moved.2 }
      else none
  | .serverSends bytes =>
      if system.client.inbox.peerClosed then none
      else
        some { system with
          client := { system.client with inbox := system.client.inbox.arrive bytes } }
  | .serverCloses =>
      some { system with
        client := { system.client with inbox := { system.client.inbox with peerClosed := true } } }

/-- A client object that was constructed. -/
def Client.constructed : Client Buffer :=
  ⟨.empty, .empty, ClientWorld.initial, false, false, false, .absent, .absent, false, false⟩

/-- The start of `main`. -/
def initial : System Buffer :=
  ⟨.constructed, .at .startClient, .recvHead, .loopHead, .looping .logicHead⟩

end Model

/-! ### What one step does -/

section Steps

variable {Buffer : Type u} {setup : Setup Buffer} {system after : System Buffer}
  {client client' : Client Buffer}

/-- What `main` does. -/
inductive MainMoves (setup : Setup Buffer) (system : System Buffer) :
    MainPc Buffer → Client Buffer → MainPc Buffer → Prop
  | startsClient : MainMoves setup system (.at .startClient)
      { system.client with logicThread := true } (.at .readOptionFile)
  | readOptionFile :
      MainMoves setup system (.at .readOptionFile) system.client (.at .createSemaphore)
  | readNothing : MainMoves setup system (.at .readOptionFile) system.client (.at .failed)
  | createdSemaphore : MainMoves setup system (.at .createSemaphore)
      { system.client with sendThreadEventHandle := .opened } (.at .wsaStartup)
  | startedUp : MainMoves setup system (.at .wsaStartup)
      { system.client with wsaStarted := true } (.at .createSocket)
  | notStartedUp : MainMoves setup system (.at .wsaStartup) system.client (.at .failed)
  | createdSocket : MainMoves setup system (.at .createSocket)
      { system.client with sessionSocket := .opened }
      (.at (.connectToServer reconnectTryCount))
  | noSocket : MainMoves setup system (.at .createSocket) system.client (.at .cleanUp)
  | outOfTries :
      MainMoves setup system (.at (.connectToServer 0)) system.client (.at .closeSocket)
  | connected (tries : ℕ) : MainMoves setup system (.at (.connectToServer (tries + 1)))
      system.client (.at .createRecvThread)
  | refused (tries : ℕ) : MainMoves setup system (.at (.connectToServer (tries + 1)))
      system.client (.at (.connectToServer tries))
  | closedSocket : MainMoves setup system (.at .closeSocket)
      { system.client with sessionSocket := .closed } (.at .cleanUp)
  | cleanedUp : MainMoves setup system (.at .cleanUp)
      { system.client with wsaStarted := false } (.at .failed)
  | createdRecvThread : MainMoves setup system (.at .createRecvThread)
      { system.client with recvThread := true } (.at .createSendThread)
  | createdSendThread : MainMoves setup system (.at .createSendThread)
      { system.client with sendThread := true } (.at .connected)
  | isConnected : MainMoves setup system (.at .connected)
      { system.client with isConnected := true } (.at .sendPing)
  | pings : MainMoves setup system (.at .sendPing) system.client
      (.pinging (enterSendPacket setup.bufferLib (some setup.ping)))
  | pinged : MainMoves setup system (.pinging .caller) system.client (.at .running)
  | sends (place place' : ClientSend.Pc Buffer) (outbox : Outbox Buffer) (busy : place ≠ .caller)
      (acted : ClientSend.act setup.bufferLib system.client.outbox place .go =
        some (outbox, place')) :
      MainMoves setup system (.pinging place) { system.client with outbox := outbox }
        (.pinging place')
  | runs : MainMoves setup system (.at .running) system.client (.at .running)
  | escapes : MainMoves setup system (.at .running) system.client (.at .setNeedStop)
  | stops :
      MainMoves setup system (.at .setNeedStop) system.client.stop (.at .releaseSemaphore)
  | releases : MainMoves setup system (.at .releaseSemaphore)
      { system.client with outbox := system.client.outbox.releaseSemaphore }
      (.at .joinRecvThread)
  | joinedRecvThread (done : system.recv = .recvDone) :
      MainMoves setup system (.at .joinRecvThread) system.client (.at .joinSendThread)
  | joinedSendThread (done : system.send = .done) :
      MainMoves setup system (.at .joinSendThread) system.client (.at .disconnected)
  | isDisconnected : MainMoves setup system (.at .disconnected)
      { system.client with isConnected := false } (.at .closeHandle)
  | closedHandle : MainMoves setup system (.at .closeHandle)
      { system.client with sendThreadEventHandle := .closed } (.at .wsaCleanup)
  | wsaCleanedUp : MainMoves setup system (.at .wsaCleanup)
      { system.client with wsaStarted := false } (.at .joinLogicThread)
  | joinedLogicThread (done : system.logic = .looping .logicDone) :
      MainMoves setup system (.at .joinLogicThread) system.client (.at .stopped)
  | exits (done : system.logic = .looping .logicDone) :
      MainMoves setup system (.at .failed) system.client (.at .exited)

/-- **Inversion of a step of `main`.** -/
theorem mainAct_moves {choice : MainChoice} {pc : MainPc Buffer}
    (acted : mainAct setup system choice = some (client, pc)) :
    MainMoves setup system system.main client pc := by
  unfold mainAct at acted
  generalize system.main = main at acted ⊢
  revert acted
  split <;> intro acted
  case h_19 place busy =>
    obtain ⟨⟨outbox, place'⟩, acted', same⟩ := Option.map_eq_some_iff.mp acted
    cases same
    exact .sends place place' outbox (fun same => busy same) acted'
  case h_24 =>
    obtain ⟨done, same⟩ := Option.ite_none_right_eq_some.mp acted
    cases same
    exact .joinedRecvThread done
  case h_25 =>
    dsimp only at acted
    split at acted
    · rename_i done
      cases acted
      exact .joinedSendThread done
    · cases acted
  case h_29 | h_30 =>
    dsimp only at acted
    split at acted
    · rename_i done
      cases acted
      constructor
      exact done
    · cases acted
  case h_31 => cases acted
  all_goals
    cases acted
    constructor

/-- What the receive thread does. -/
inductive RecvMoves (setup : Setup Buffer) (client : Client Buffer) :
    ClientReceive.Pc → ClientReceive.Choice → Client Buffer → ClientReceive.Pc → Prop
  | closes : RecvMoves setup client .closing .go { client with sessionSocket := .closed } .stopping
  | gaveUp : RecvMoves setup client .stopping .go client.stop .recvHead
  | receives (place place' : ClientReceive.Pc) (choice : ClientReceive.Choice) (inbox : Inbox)
      (acted : ClientReceive.act setup.lib setup.capacity client.inbox place choice =
        some (inbox, place'))
      (opened : place ≠ .closing) (runs : place ≠ .stopping) :
      RecvMoves setup client place choice { client with inbox := inbox } place'

/-- What the send thread does. -/
inductive SendMoves (setup : Setup Buffer) (client : Client Buffer) :
    ClientSend.Pc Buffer → ClientSend.Choice Buffer → Client Buffer → ClientSend.Pc Buffer → Prop
  | gaveUp (buffer : Buffer) :
      SendMoves setup client (.failed buffer) .go client.stop (.freeingLast buffer)
  | sends (place place' : ClientSend.Pc Buffer) (choice : ClientSend.Choice Buffer)
      (outbox : Outbox Buffer)
      (acted : ClientSend.act setup.bufferLib client.outbox place choice = some (outbox, place'))
      (intact : ∀ buffer, place ≠ .failed buffer) :
      SendMoves setup client place choice { client with outbox := outbox } place'

/-- **Inversion of a step of the receive thread.** -/
theorem recvAct_moves {place place' : ClientReceive.Pc} {choice : ClientReceive.Choice}
    (acted : recvAct setup client place choice = some (client', place')) :
    RecvMoves setup client place choice client' place' := by
  obtain ⟨⟨inbox, place'⟩, acted', same⟩ := Option.map_eq_some_iff.mp acted
  cases place with
  | closing =>
      cases choice <;> cases acted'
      cases same
      exact .closes
  | stopping =>
      cases choice <;> cases acted'
      cases same
      exact .gaveUp
  | _ =>
      cases same
      exact .receives _ _ _ _ acted' (by simp) (by simp)

/-- **Inversion of a step of the send thread.** -/
theorem sendAct_moves {place place' : ClientSend.Pc Buffer} {choice : ClientSend.Choice Buffer}
    (acted : sendAct setup client place choice = some (client', place')) :
    SendMoves setup client place choice client' place' := by
  obtain ⟨⟨outbox, place'⟩, acted', same⟩ := Option.map_eq_some_iff.mp acted
  cases place with
  | failed buffer =>
      cases choice <;> cases acted'
      cases same
      exact .gaveUp buffer
  | _ =>
      cases same
      exact .sends _ _ _ _ acted' (by simp)

/-- What the logic thread does. -/
inductive LogicMoves (setup : Setup Buffer) (client : Client Buffer) :
    LogicPc Buffer → Client Buffer → LogicPc Buffer → Prop
  | processed (buffer : NetBuffer) (count : ℕ) (other : (setup.read buffer).packetId ≠ PONG) :
      LogicMoves setup client (.looping (.processing buffer count))
        { client with
          inbox := client.inbox.process buffer
          world := client.world.processLogic (setup.read buffer) }
        (.looping (.freeing buffer count))
  | answers (buffer : NetBuffer) (count : ℕ) (pong : (setup.read buffer).packetId = PONG) :
      LogicMoves setup client (.looping (.processing buffer count))
        { client with
          inbox := client.inbox.process buffer
          world := client.world.processLogic (setup.read buffer) }
        (.pinging (enterSendPacket setup.bufferLib (some setup.ping)) buffer count)
  | loops (place place' : ClientReceive.Pc) (inbox : Inbox)
      (plain : ∀ buffer count, place ≠ .processing buffer count)
      (acted : ClientReceive.act setup.lib setup.capacity client.inbox place .go =
        some (inbox, place')) :
      LogicMoves setup client (.looping place) { client with inbox := inbox } (.looping place')
  | answered (buffer : NetBuffer) (count : ℕ) :
      LogicMoves setup client (.pinging .caller buffer count) client
        (.looping (.freeing buffer count))
  | sends (place place' : ClientSend.Pc Buffer) (outbox : Outbox Buffer) (buffer : NetBuffer)
      (count : ℕ) (busy : place ≠ .caller)
      (acted : ClientSend.act setup.bufferLib client.outbox place .go = some (outbox, place')) :
      LogicMoves setup client (.pinging place buffer count) { client with outbox := outbox }
        (.pinging place' buffer count)

/-- **Inversion of a step of the logic thread.** -/
theorem logicAct_moves {pc pc' : LogicPc Buffer}
    (acted : logicAct setup client pc = some (client', pc')) :
    LogicMoves setup client pc client' pc' := by
  revert acted
  fun_cases logicAct setup client pc <;> intro acted
  case case1 buffer count packet =>
    cases acted
    by_cases pong : (setup.read buffer).packetId = PONG
    · rw [if_pos pong]
      exact .answers buffer count pong
    · rw [if_neg pong]
      exact .processed buffer count pong
  case case2 place plain =>
    obtain ⟨⟨inbox, place'⟩, acted', same⟩ := Option.map_eq_some_iff.mp acted
    cases same
    exact .loops place place' inbox (fun buffer count same => plain buffer count same) acted'
  case case3 buffer count =>
    cases acted
    exact .answered buffer count
  case case4 place buffer count busy =>
    obtain ⟨⟨outbox, place'⟩, acted', same⟩ := Option.map_eq_some_iff.mp acted
    cases same
    exact .sends place place' outbox buffer count (fun same => busy same) acted'

/-- What a step does. -/
inductive Moves (setup : Setup Buffer) (system : System Buffer) :
    Label Buffer → System Buffer → Prop
  | main (choice : MainChoice) (client : Client Buffer) (pc : MainPc Buffer)
      (moved : MainMoves setup system system.main client pc) :
      Moves setup system (.main choice) { system with client := client, main := pc }
  | recv (choice : ClientReceive.Choice) (client : Client Buffer) (pc : ClientReceive.Pc)
      (created : system.client.recvThread = true)
      (moved : RecvMoves setup system.client system.recv choice client pc) :
      Moves setup system (.recv choice) { system with client := client, recv := pc }
  | send (choice : ClientSend.Choice Buffer) (client : Client Buffer) (pc : ClientSend.Pc Buffer)
      (created : system.client.sendThread = true)
      (moved : SendMoves setup system.client system.send choice client pc) :
      Moves setup system (.send choice) { system with client := client, send := pc }
  | logic (client : Client Buffer) (pc : LogicPc Buffer)
      (created : system.client.logicThread = true)
      (moved : LogicMoves setup system.client system.logic client pc) :
      Moves setup system .logic { system with client := client, logic := pc }
  | serverSends (bytes : List UInt8) (opened : ¬ system.client.inbox.peerClosed = true) :
      Moves setup system (.serverSends bytes)
        { system with client := { system.client with inbox := system.client.inbox.arrive bytes } }
  | serverCloses :
      Moves setup system .serverCloses { system with
        client := { system.client with inbox := { system.client.inbox with peerClosed := true } } }

/-- **Inversion of a step.** -/
theorem step_moves {label : Label Buffer} (taken : step setup system label = some after) :
    Moves setup system label after := by
  cases label with
  | main choice =>
      obtain ⟨⟨client, pc⟩, acted, rfl⟩ := Option.map_eq_some_iff.mp taken
      exact .main choice client pc (mainAct_moves acted)
  | recv choice =>
      obtain ⟨created, taken⟩ := Option.ite_none_right_eq_some.mp taken
      obtain ⟨⟨client, pc⟩, acted, rfl⟩ := Option.map_eq_some_iff.mp taken
      exact .recv choice client pc created (recvAct_moves acted)
  | send choice =>
      obtain ⟨created, taken⟩ := Option.ite_none_right_eq_some.mp taken
      obtain ⟨⟨client, pc⟩, acted, rfl⟩ := Option.map_eq_some_iff.mp taken
      exact .send choice client pc created (sendAct_moves acted)
  | logic =>
      obtain ⟨created, taken⟩ := Option.ite_none_right_eq_some.mp taken
      obtain ⟨⟨client, pc⟩, acted, rfl⟩ := Option.map_eq_some_iff.mp taken
      exact .logic client pc created (logicAct_moves acted)
  | serverSends bytes =>
      obtain ⟨opened, same⟩ := Option.ite_none_left_eq_some.mp taken
      cases same
      exact .serverSends bytes opened
  | serverCloses =>
      cases taken
      exact .serverCloses

/-- A step of `main`. -/
theorem step_main {choice : MainChoice} {pc : MainPc Buffer}
    (acted : mainAct setup system choice = some (client, pc)) :
    step setup system (.main choice) = some { system with client := client, main := pc } := by
  show Option.map _ (mainAct setup system choice) = _
  rw [acted]
  rfl

/-- A step of the receive thread. -/
theorem step_recv {choice : ClientReceive.Choice} {inbox : Inbox} {pc : ClientReceive.Pc}
    (created : system.client.recvThread = true)
    (acted : ClientReceive.act setup.lib setup.capacity system.client.inbox system.recv choice =
      some (inbox, pc)) : ∃ next, step setup system (.recv choice) = some next := by
  unfold step recvAct
  simp only [created, acted, if_true, Option.map_some]
  exact ⟨_, rfl⟩

/-- A step of the send thread. -/
theorem step_send {choice : ClientSend.Choice Buffer} {outbox : Outbox Buffer}
    {pc : ClientSend.Pc Buffer} (created : system.client.sendThread = true)
    (acted : ClientSend.act setup.bufferLib system.client.outbox system.send choice =
      some (outbox, pc)) : ∃ next, step setup system (.send choice) = some next := by
  unfold step sendAct
  simp only [created, acted, if_true, Option.map_some]
  exact ⟨_, rfl⟩

/-- A step of the logic thread. -/
theorem step_logic {pc : LogicPc Buffer} (created : system.client.logicThread = true)
    (acted : logicAct setup system.client system.logic = some (client, pc)) :
    ∃ next, step setup system .logic = some next := by
  unfold step
  simp only [created, acted, if_true, Option.map_some]
  exact ⟨_, rfl⟩

end Steps

/-! ### The two sides of the client -/

section Sides

variable {Buffer : Type u} {setup : Setup Buffer}

/-- The logic thread, as the receiving side sees it. -/
def LogicPc.place : LogicPc Buffer → ClientReceive.Pc
  | .looping place => place
  | .pinging _ buffer count => .freeing buffer count

/-- The logic thread, as the sending side sees it. -/
def LogicPc.caller : LogicPc Buffer → ClientSend.Pc Buffer
  | .looping _ => .caller
  | .pinging place _ _ => place

/-- `main`, as the sending side sees it. -/
def MainPc.caller : MainPc Buffer → ClientSend.Pc Buffer
  | .at _ => .caller
  | .pinging place => place

/-- Who calls `SendPacket`, or sets `needStop`. -/
inductive Caller
  | main
  | logic
  | others
  deriving DecidableEq

/-- Where the receiving side is. -/
def System.receivingPc (system : System Buffer) : ClientReceive.Tid Unit → ClientReceive.Pc
  | .recvThread => system.recv
  | .logicThread => system.logic.place
  | .outside _ => .outside

/-- Where the sending side is. -/
def System.sendingPc (system : System Buffer) : ClientSend.Tid Caller → ClientSend.Pc Buffer
  | .sendThread => system.send
  | .caller .main => system.main.caller
  | .caller .logic => system.logic.caller
  | .caller .others => .caller

/-- The receiving side. -/
def System.receiving (system : System Buffer) : ClientReceive.State Unit :=
  ⟨system.client.inbox, system.receivingPc⟩

/-- The sending side. -/
def System.sending (system : System Buffer) : ClientSend.State Buffer Caller :=
  ⟨system.client.outbox, system.sendingPc⟩

/-- A step, as the receiving side sees it. -/
def receiveLabel (system : System Buffer) :
    Label Buffer → ClientReceive.Tid Unit × ClientReceive.Choice
  | .main _ =>
      (.outside (), match system.main with
        | .at .setNeedStop => .setNeedStop
        | _ => .other)
  | .recv choice => (.recvThread, choice)
  | .send _ =>
      (.outside (), match system.send with
        | .failed _ => .setNeedStop
        | _ => .other)
  | .logic =>
      match system.logic with
      | .looping _ => (.logicThread, .go)
      | .pinging _ _ _ => (.outside (), .other)
  | .serverSends bytes => (.outside (), .serverSends bytes)
  | .serverCloses => (.outside (), .serverCloses)

/-- A step of a thread that may be in `SendPacket`. -/
def callerChoice (place : ClientSend.Pc Buffer) : ClientSend.Choice Buffer :=
  match place with
  | .caller => .other
  | _ => .go

/-- A step, as the sending side sees it. -/
def sendLabel (setup : Setup Buffer) (system : System Buffer) :
    Label Buffer → ClientSend.Tid Caller × ClientSend.Choice Buffer
  | .main _ =>
      (.caller .main, match system.main with
        | .at .sendPing => .sendPacket (some setup.ping)
        | .at .setNeedStop => .setNeedStop
        | .at .releaseSemaphore => .wake
        | .at _ => .other
        | .pinging place => callerChoice place)
  | .recv _ =>
      (.caller .others, match system.recv with
        | .stopping => .setNeedStop
        | _ => .other)
  | .send choice => (.sendThread, choice)
  | .logic =>
      (.caller .logic, match system.logic with
        | .looping (.processing buffer _) =>
            if (setup.read buffer).packetId = PONG then .sendPacket (some setup.ping) else .other
        | .looping _ => .other
        | .pinging place _ _ => callerChoice place)
  | .serverSends _ => (.caller .others, .other)
  | .serverCloses => (.caller .others, .other)

/-! #### Every step is one of each side -/

variable {system after : System Buffer} {client : Client Buffer} {label : Label Buffer}

theorem callerChoice_of_ne {place : ClientSend.Pc Buffer} (busy : place ≠ .caller) :
    callerChoice place = .go := by
  unfold callerChoice
  split
  · exact absurd rfl busy
  · rfl

/-- `main`, on the receiving side. -/
theorem MainMoves.receiving {pc : MainPc Buffer} (choice : MainChoice)
    (moved : MainMoves setup system system.main client pc) :
    ClientReceive.act setup.lib setup.capacity system.client.inbox .outside
      (receiveLabel system (.main choice)).2 = some (client.inbox, .outside) := by
  unfold receiveLabel
  generalize system.main = main at moved ⊢
  cases moved <;> rfl

/-- `main`, on the sending side. -/
theorem MainMoves.sending {pc : MainPc Buffer} (choice : MainChoice)
    (moved : MainMoves setup system system.main client pc) :
    ClientSend.act setup.bufferLib system.client.outbox system.main.caller
      (sendLabel setup system (.main choice)).2 = some (client.outbox, pc.caller) := by
  unfold sendLabel
  generalize system.main = main at moved ⊢
  cases moved with
  | sends place place' outbox busy acted =>
      show ClientSend.act setup.bufferLib system.client.outbox place (callerChoice place) = _
      rw [callerChoice_of_ne busy]
      exact acted
  | _ => rfl

/-- The receive thread, on the receiving side. -/
theorem RecvMoves.receiving {place place' : ClientReceive.Pc} {choice : ClientReceive.Choice}
    {before : Client Buffer} (moved : RecvMoves setup before place choice client place') :
    ClientReceive.act setup.lib setup.capacity before.inbox place choice =
      some (client.inbox, place') := by
  cases moved with
  | closes | gaveUp => rfl
  | receives _ _ _ _ acted => exact acted

/-- The receive thread, on the sending side. -/
theorem RecvMoves.sending {place' : ClientReceive.Pc} {choice : ClientReceive.Choice}
    (moved : RecvMoves setup system.client system.recv choice client place') :
    ClientSend.act setup.bufferLib system.client.outbox .caller
      (sendLabel setup system (.recv choice)).2 = some (client.outbox, .caller) := by
  unfold sendLabel
  generalize system.recv = place at moved ⊢
  cases moved with
  | closes | gaveUp => rfl
  | receives _ _ _ inbox acted opened runs => cases place <;> first | rfl | exact absurd rfl runs

/-- The send thread, on the sending side. -/
theorem SendMoves.sending {place place' : ClientSend.Pc Buffer}
    {choice : ClientSend.Choice Buffer} {before : Client Buffer}
    (moved : SendMoves setup before place choice client place') :
    ClientSend.act setup.bufferLib before.outbox place choice =
      some (client.outbox, place') := by
  cases moved with
  | gaveUp => rfl
  | sends _ _ _ _ acted => exact acted

/-- The send thread, on the receiving side. -/
theorem SendMoves.receiving {place' : ClientSend.Pc Buffer} {choice : ClientSend.Choice Buffer}
    (moved : SendMoves setup system.client system.send choice client place') :
    ClientReceive.act setup.lib setup.capacity system.client.inbox .outside
      (receiveLabel system (.send choice)).2 = some (client.inbox, .outside) := by
  unfold receiveLabel
  generalize system.send = place at moved ⊢
  cases moved with
  | gaveUp => rfl
  | sends _ _ _ outbox acted intact =>
      cases place <;> first | rfl | exact absurd rfl (intact _)

/-- The logic thread, on the sending side. -/
theorem LogicMoves.sending {pc : LogicPc Buffer}
    (moved : LogicMoves setup system.client system.logic client pc) :
    ClientSend.act setup.bufferLib system.client.outbox system.logic.caller
      (sendLabel setup system .logic).2 = some (client.outbox, pc.caller) := by
  unfold sendLabel
  generalize system.logic = logic at moved ⊢
  cases moved with
  | processed buffer count other =>
      show ClientSend.act setup.bufferLib system.client.outbox .caller
        (if (setup.read buffer).packetId = PONG then _ else _) = _
      rw [if_neg other]
      rfl
  | answers buffer count pong =>
      show ClientSend.act setup.bufferLib system.client.outbox .caller
        (if (setup.read buffer).packetId = PONG then _ else _) = _
      rw [if_pos pong]
      rfl
  | loops place place' inbox plain acted =>
      cases place <;> first | rfl | exact absurd rfl (plain _ _)
  | answered buffer count => rfl
  | sends place place' outbox buffer count busy acted =>
      show ClientSend.act setup.bufferLib system.client.outbox place (callerChoice place) = _
      rw [callerChoice_of_ne busy]
      exact acted

/-- The logic thread, on the receiving side: it moves there, or stays where it is. -/
theorem LogicMoves.receiving {pc : LogicPc Buffer}
    (moved : LogicMoves setup system.client system.logic client pc) :
    (∃ place, system.logic = .looping place ∧
        ClientReceive.act setup.lib setup.capacity system.client.inbox place .go =
          some (client.inbox, pc.place)) ∨
      (∃ place buffer count, system.logic = .pinging place buffer count) ∧
        client.inbox = system.client.inbox ∧ pc.place = system.logic.place := by
  generalize system.logic = logic at moved ⊢
  cases moved with
  | processed buffer count | answers buffer count => exact .inl ⟨_, rfl, rfl⟩
  | loops place place' inbox plain acted => exact .inl ⟨place, rfl, acted⟩
  | answered buffer count => exact .inr ⟨⟨_, _, _, rfl⟩, rfl, rfl⟩
  | sends place place' outbox buffer count => exact .inr ⟨⟨_, _, _, rfl⟩, rfl, rfl⟩

/-- A step of the receiving side. -/
theorem receiving_step {thread : ClientReceive.Tid Unit} {choice : ClientReceive.Choice}
    (acted : ClientReceive.act setup.lib setup.capacity system.client.inbox
      (system.receivingPc thread) choice = some (after.client.inbox, after.receivingPc thread))
    (others : ∀ other, other ≠ thread → after.receivingPc other = system.receivingPc other) :
    ClientReceive.step setup.lib setup.capacity system.receiving (thread, choice) =
      some after.receiving :=
  threadStep_of_moved acted others

/-- A step of the sending side. -/
theorem sending_step {thread : ClientSend.Tid Caller} {choice : ClientSend.Choice Buffer}
    (acted : ClientSend.act setup.bufferLib system.client.outbox (system.sendingPc thread) choice =
      some (after.client.outbox, after.sendingPc thread))
    (others : ∀ other, other ≠ thread → after.sendingPc other = system.sendingPc other) :
    ClientSend.step setup.bufferLib system.sending (thread, choice) = some after.sending :=
  threadStep_of_moved acted others

/-- **Every step is one of the receiving side.** -/
theorem receive_commutes (taken : step setup system label = some after) :
    ClientReceive.step setup.lib setup.capacity system.receiving (receiveLabel system label) =
      some after.receiving := by
  cases step_moves taken with
  | main choice client pc moved =>
      refine receiving_step (moved.receiving choice) fun other _ => ?_
      cases other <;> rfl
  | recv choice client pc created moved =>
      refine receiving_step moved.receiving fun other different => ?_
      cases other <;> first | rfl | exact absurd rfl different
  | send choice client pc created moved =>
      refine receiving_step moved.receiving fun other _ => ?_
      cases other <;> rfl
  | logic client pc created moved =>
      unfold receiveLabel
      rcases moved.receiving with
        ⟨place, here, acted⟩ | ⟨⟨place, buffer, count, here⟩, inbox, stays⟩
      · rw [here]
        refine receiving_step ?_ fun other different => ?_
        · show ClientReceive.act _ _ _ system.logic.place .go = _
          rw [here]
          exact acted
        · cases other <;> first | rfl | exact absurd rfl different
      · rw [here]
        refine receiving_step ?_ fun other different => ?_
        · show some (system.client.inbox, ClientReceive.Pc.outside) = some (client.inbox, _)
          rw [inbox]
          rfl
        · cases other <;> first | rfl | exact stays
  | serverSends bytes opened =>
      refine receiving_step (if_neg opened) fun other different => ?_
      cases other <;> rfl
  | serverCloses =>
      refine receiving_step rfl fun other different => ?_
      cases other <;> rfl

/-- **Every step is one of the sending side.** -/
theorem send_commutes (taken : step setup system label = some after) :
    ClientSend.step setup.bufferLib system.sending (sendLabel setup system label) =
      some after.sending := by
  cases step_moves taken with
  | main choice client pc moved =>
      refine sending_step (moved.sending choice) fun other different => ?_
      rcases other with _ | _ | _ | _ <;> first | rfl | exact absurd rfl different
  | recv choice client pc created moved =>
      refine sending_step moved.sending fun other different => ?_
      rcases other with _ | _ | _ | _ <;> rfl
  | send choice client pc created moved =>
      refine sending_step moved.sending fun other different => ?_
      rcases other with _ | _ | _ | _ <;> first | rfl | exact absurd rfl different
  | logic client pc created moved =>
      refine sending_step moved.sending fun other different => ?_
      rcases other with _ | _ | _ | _ <;> first | rfl | exact absurd rfl different
  | serverSends bytes opened =>
      refine sending_step rfl fun other different => ?_
      rcases other with _ | _ | _ | _ <;> rfl
  | serverCloses =>
      refine sending_step rfl fun other different => ?_
      rcases other with _ | _ | _ | _ <;> rfl

/-- **The receiving machine is a part of the client.** -/
def receiveProjection (setup : Setup Buffer) :
    Projection (step setup) (ClientReceive.step setup.lib setup.capacity :
      ClientReceive.State Unit → _ → _) where
  part := System.receiving
  label := receiveLabel
  commutes _ _ _ taken := receive_commutes taken

/-- **The sending machine is a part of the client.** -/
def sendProjection (setup : Setup Buffer) :
    Projection (step setup) (ClientSend.step setup.bufferLib :
      ClientSend.State Buffer Caller → _ → _) where
  part := System.sending
  label := sendLabel setup
  commutes _ _ _ taken := send_commutes taken

theorem receiving_initial :
    (initial : System Buffer).receiving = ClientReceive.initial Unit := by
  refine ThreadTable.System.ext rfl ?_
  funext thread
  cases thread <;> rfl

theorem sending_initial :
    (initial : System Buffer).sending = ClientSend.initial Buffer Caller := by
  refine ThreadTable.System.ext rfl ?_
  funext thread
  rcases thread with _ | _ | _ | _ <;> rfl

end Sides

/-! ### The Pings and the Pongs -/

section Accounts

variable {Buffer : Type u} {setup : Setup Buffer} {system after : System Buffer}
  {client : Client Buffer} {label : Label Buffer}

/-- The `Ping` as `SendPacket` pushes it. -/
def Setup.encodedPing (setup : Setup Buffer) : Buffer :=
  if setup.bufferLib.isEncoded setup.ping then setup.ping else setup.bufferLib.encode setup.ping

/-- The world behind some packets. -/
def Setup.worldOf (setup : Setup Buffer) (processed : List NetBuffer) : World :=
  processed.foldl (fun world buffer => world.processLogic (setup.read buffer)) ClientWorld.initial

/-- `main` has come past its `SendPacket`. -/
def Place.pinged : Place → Bool
  | .running => true
  | .setNeedStop => true
  | .releaseSemaphore => true
  | .joinRecvThread => true
  | .joinSendThread => true
  | .disconnected => true
  | .closeHandle => true
  | .wsaCleanup => true
  | .joinLogicThread => true
  | .stopped => true
  | _ => false

/-- How many `Ping`s `main` has called `SendPacket` for. -/
def MainPc.pings : MainPc Buffer → ℕ
  | .at place => if place.pinged then 1 else 0
  | .pinging _ => 1

/-- A caller in `SendPacket` has this many buffers to push. -/
def unpushed : ClientSend.Pc Buffer → ℕ
  | .pushing _ => 1
  | _ => 0

/-- A caller is outside of `SendPacket`, or there with a `Ping`. -/
def Carries (setup : Setup Buffer) (place : ClientSend.Pc Buffer) : Prop :=
  place = .caller ∨ place = .pushing setup.encodedPing ∨ place = .releasing

/-- **The accounts of the client.** -/
structure Accounts (setup : Setup Buffer) (system : System Buffer) : Prop where
  main : Carries setup system.main.caller
  logic : Carries setup system.logic.caller
  /-- Nothing but `Ping`s is sent. -/
  pings : ∀ buffer ∈ system.client.outbox.pushed, buffer = setup.encodedPing
  /-- The first one, and one for every `Pong`. -/
  total : system.client.outbox.pushed.length + unpushed system.main.caller +
    unpushed system.logic.caller = system.main.pings + system.client.world.pings
  world : system.client.world = setup.worldOf system.client.inbox.processed

/-- An actor that appears sends nothing. -/
theorem pings_clientAddActor (world : World) (actorId : UInt64) (actorType : UInt16) :
    (world.clientAddActor actorId actorType).pings = world.pings := by
  unfold World.clientAddActor World.createActor
  by_cases player : actorType = ClientWorld.PLAYER <;>
    simp [player, World.create, World.addActor, World.logError]

/-- A `Pong` is one more `Ping`. -/
theorem pings_processLogic (world : World) (packet : ClientWorld.Packet) :
    (world.processLogic packet).pings =
      world.pings + if packet.packetId = PONG then 1 else 0 := by
  unfold World.processLogic
  split
  · rename_i pong
    rw [pong]
    rfl
  · rename_i appears
    rw [appears]
    exact pings_clientAddActor world packet.actorId packet.actorType
  · rename_i disappears
    rw [disappears]
    unfold World.removeActor
    split <;> rfl
  · rename_i other _ _
    rw [if_neg (show packet.packetId ≠ PONG from other)]
    rfl

theorem enterSendPacket_ping (setup : Setup Buffer) :
    enterSendPacket setup.bufferLib (some setup.ping) = .pushing setup.encodedPing := rfl

/-- Outside of `ProcessLogic` nothing is processed. -/
theorem act_processed {lib : NetBufferLib} {capacity : ℕ} {inbox inbox' : Inbox}
    {place place' : ClientReceive.Pc} {choice : ClientReceive.Choice}
    (acted : ClientReceive.act lib capacity inbox place choice = some (inbox', place'))
    (plain : ∀ buffer count, place ≠ .processing buffer count) :
    inbox'.processed = inbox.processed := by
  revert acted
  fun_cases ClientReceive.act lib capacity inbox place choice <;> intro acted
  case case14 restSize =>
    unfold ClientReceive.afterRound at acted
    split at acted <;> (cases acted; rfl)
  case case23 buffer count => exact absurd rfl (plain buffer count)
  all_goals
    cases acted
    try rfl

/-- Where the receiving side leaves `needStop` alone. -/
theorem act_needStop {lib : NetBufferLib} {capacity : ℕ} {inbox inbox' : Inbox}
    {place place' : ClientReceive.Pc} {choice : ClientReceive.Choice}
    (acted : ClientReceive.act lib capacity inbox place choice = some (inbox', place'))
    (inside : place ≠ .outside) (runs : place ≠ .stopping) :
    inbox'.needStop = inbox.needStop := by
  revert acted
  fun_cases ClientReceive.act lib capacity inbox place choice <;> intro acted
  case case14 restSize =>
    unfold ClientReceive.afterRound at acted
    split at acted <;> (cases acted; rfl)
  case case1 => exact absurd rfl inside
  case case17 => exact absurd rfl runs
  all_goals
    cases acted
    try rfl

/-- Where the send thread leaves `needStop` alone. -/
theorem SenderMoves_needStop {lib : BufferLib Buffer} {outbox outbox' : Outbox Buffer}
    {place place' : ClientSend.Pc Buffer}
    (moved : ClientSend.SenderMoves lib outbox place outbox' place')
    (intact : ∀ buffer, place ≠ .failed buffer) : outbox'.needStop = outbox.needStop := by
  cases moved with
  | gaveUp buffer => exact absurd rfl (intact buffer)
  | _ => rfl

/-- A caller with a `Ping` pushes it, or releases the semaphore. -/
theorem Carries.step {outbox outbox' : Outbox Buffer} {place place' : ClientSend.Pc Buffer}
    (carries : Carries setup place) (busy : place ≠ .caller)
    (acted : ClientSend.act setup.bufferLib outbox place .go = some (outbox', place')) :
    place = .pushing setup.encodedPing ∧ place' = .releasing ∧
        outbox' = outbox.push setup.encodedPing ∨
      place = .releasing ∧ place' = .caller ∧ outbox' = outbox.releaseSemaphore := by
  rcases carries with rfl | rfl | rfl
  · exact absurd rfl busy
  · cases acted
    exact .inl ⟨rfl, rfl, rfl⟩
  · cases acted
    exact .inr ⟨rfl, rfl, rfl⟩

theorem accounts_initial : Accounts setup (initial : System Buffer) where
  main := .inl rfl
  logic := .inl rfl
  pings := fun _ member => by cases member
  total := rfl
  world := rfl

/-- `main` keeps the accounts. -/
theorem Accounts.main_step {pc : MainPc Buffer} (accounts : Accounts setup system)
    (moved : MainMoves setup system system.main client pc) :
    Accounts setup { system with client := client, main := pc } := by
  obtain ⟨main, logic, pings, total, world⟩ := accounts
  generalize system.main = place at moved main total
  cases moved with
  | pings =>
      refine ⟨.inr (.inl rfl), logic, pings, ?_, world⟩
      simp only [MainPc.caller, MainPc.pings, Place.pinged, unpushed, Bool.false_eq_true,
        if_false, enterSendPacket_ping] at total ⊢
      omega
  | sends place place' outbox busy acted =>
      rcases Carries.step main busy acted with ⟨rfl, rfl, rfl⟩ | ⟨rfl, rfl, rfl⟩
      · refine ⟨.inr (.inr rfl), logic, ?_, ?_, world⟩
        · intro buffer member
          rcases List.mem_append.mp member with before | new
          · exact pings buffer before
          · exact List.mem_singleton.mp new
        · simp only [MainPc.caller, MainPc.pings, unpushed, Outbox.push, List.length_append,
            List.length_singleton] at total ⊢
          omega
      · exact ⟨.inl rfl, logic, pings, total, world⟩
  | _ => exact ⟨.inl rfl, logic, pings, total, world⟩

/-- The logic thread keeps the accounts. -/
theorem Accounts.logic_step {pc : LogicPc Buffer} (accounts : Accounts setup system)
    (moved : LogicMoves setup system.client system.logic client pc) :
    Accounts setup { system with client := client, logic := pc } := by
  obtain ⟨main, logic, pings, total, world⟩ := accounts
  generalize system.logic = place at moved logic total
  have processed (buffer : NetBuffer) : system.client.world.processLogic (setup.read buffer) =
      setup.worldOf (system.client.inbox.process buffer).processed := by
    unfold Setup.worldOf Inbox.process
    rw [List.foldl_append, world]
    rfl
  have counted (buffer : NetBuffer) :=
    pings_processLogic system.client.world (setup.read buffer)
  cases moved with
  | processed buffer count other =>
      have counted := counted buffer
      rw [if_neg other] at counted
      refine ⟨main, .inl rfl, pings, ?_, processed buffer⟩
      show _ = _ + (system.client.world.processLogic (setup.read buffer)).pings
      rw [counted]
      exact total
  | answers buffer count pong =>
      have counted := counted buffer
      rw [if_pos pong] at counted
      refine ⟨main, .inr (.inl rfl), pings, ?_, processed buffer⟩
      show _ + 1 = _ + (system.client.world.processLogic (setup.read buffer)).pings
      rw [counted]
      exact congrArg Nat.succ total
  | loops place place' inbox plain acted =>
      refine ⟨main, .inl rfl, pings, total, ?_⟩
      show system.client.world = setup.worldOf inbox.processed
      rw [act_processed acted plain]
      exact world
  | answered buffer count => exact ⟨main, .inl rfl, pings, total, world⟩
  | sends place place' outbox buffer count busy acted =>
      rcases Carries.step logic busy acted with ⟨rfl, rfl, rfl⟩ | ⟨rfl, rfl, rfl⟩
      · refine ⟨main, .inr (.inr rfl), ?_, ?_, world⟩
        · intro buffer member
          rcases List.mem_append.mp member with before | new
          · exact pings buffer before
          · exact List.mem_singleton.mp new
        · simp only [LogicPc.caller, unpushed, Outbox.push, List.length_append,
            List.length_singleton] at total ⊢
          omega
      · exact ⟨main, .inl rfl, pings, total, world⟩

theorem Accounts.step (accounts : Accounts setup system)
    (receiving : ClientReceive.Orderly system.receiving)
    (sending : ClientSend.Orderly system.sending)
    (taken : ClientMachine.step setup system label = some after) : Accounts setup after := by
  cases step_moves taken with
  | main choice client pc moved => exact accounts.main_step moved
  | logic client pc created moved => exact accounts.logic_step moved
  | recv choice client pc created moved =>
      have place : system.recv.ofRecvThread = true := receiving.recv
      obtain ⟨main, logic, pings, total, world⟩ := accounts
      generalize system.recv = recv at moved place
      cases moved with
      | closes | gaveUp => exact ⟨main, logic, pings, total, world⟩
      | receives _ _ _ inbox acted =>
          refine ⟨main, logic, pings, total, ?_⟩
          show system.client.world = setup.worldOf inbox.processed
          rw [act_processed acted fun buffer count same => ?_]
          · exact world
          · rw [same] at place
            cases place
  | send choice client pc created moved =>
      have place : system.send.ofSendThread = true := sending.sender.place
      obtain ⟨main, logic, pings, total, world⟩ := accounts
      generalize system.send = send at moved place
      cases moved with
      | gaveUp => exact ⟨main, logic, pings, total, world⟩
      | sends _ _ _ outbox acted =>
          have same := (ClientSend.act_sender acted place).pushed
          refine ⟨main, logic, ?_, ?_, world⟩
          · show ∀ buffer ∈ outbox.pushed, buffer = setup.encodedPing
            rw [same]
            exact pings
          · show outbox.pushed.length + _ + _ = _
            rw [same]
            exact total
  | serverSends | serverCloses =>
      exact ⟨accounts.main, accounts.logic, accounts.pings, accounts.total, accounts.world⟩

/-- How many `Pong`s there are among some packets. -/
def Setup.pongs (setup : Setup Buffer) (processed : List NetBuffer) : ℕ :=
  processed.countP fun buffer => (setup.read buffer).packetId = PONG

theorem pings_worldOf (processed : List NetBuffer) :
    (setup.worldOf processed).pings = setup.pongs processed := by
  induction processed using List.reverseRecOn with
  | nil => rfl
  | append_singleton front buffer ih =>
      have counted := pings_processLogic (setup.worldOf front) (setup.read buffer)
      rw [ih] at counted
      have behind : setup.worldOf (front ++ [buffer]) =
          (setup.worldOf front).processLogic (setup.read buffer) := List.foldl_append
      rw [behind, counted, Setup.pongs, Setup.pongs, List.countP_append, List.countP_singleton]
      simp

/-- The threads that were created when `main` is at a place: logic, receive and send. -/
def Place.threads : Place → Bool × Bool × Bool
  | .startClient => (false, false, false)
  | .readOptionFile => (true, false, false)
  | .createSemaphore => (true, false, false)
  | .wsaStartup => (true, false, false)
  | .createSocket => (true, false, false)
  | .connectToServer _ => (true, false, false)
  | .closeSocket => (true, false, false)
  | .cleanUp => (true, false, false)
  | .failed => (true, false, false)
  | .exited => (true, false, false)
  | .createRecvThread => (true, false, false)
  | .createSendThread => (true, true, false)
  | _ => (true, true, true)

/-- The threads that were created where `main` is. -/
def MainPc.threads : MainPc Buffer → Bool × Bool × Bool
  | .at place => place.threads
  | .pinging _ => (true, true, true)

/-- The threads of a client object. -/
def Client.threads (client : Client Buffer) : Bool × Bool × Bool :=
  (client.logicThread, client.recvThread, client.sendThread)

/-- **Which threads there are** is where `main` is. -/
theorem threads_step (threads : system.client.threads = system.main.threads)
    (taken : step setup system label = some after) :
    after.client.threads = after.main.threads := by
  cases step_moves taken with
  | main choice client pc moved =>
      generalize system.main = main at moved threads
      simp only [Client.threads, MainPc.threads] at threads
      cases moved <;>
        simp_all [Client.threads, MainPc.threads, Place.threads, Client.stop]
  | recv choice client pc created moved =>
      rw [← threads]
      generalize system.recv = recv at moved
      cases moved <;> rfl
  | send choice client pc created moved =>
      rw [← threads]
      generalize system.send = send at moved
      cases moved <;> rfl
  | logic client pc created moved =>
      rw [← threads]
      generalize system.logic = logic at moved
      cases moved <;> rfl
  | serverSends | serverCloses => exact threads

/-- **`needStop` is one variable.** -/
theorem agree_step (receiving : ClientReceive.Orderly system.receiving)
    (sending : ClientSend.Orderly system.sending) (accounts : Accounts setup system)
    (agree : system.client.inbox.needStop = system.client.outbox.needStop)
    (taken : step setup system label = some after) :
    after.client.inbox.needStop = after.client.outbox.needStop := by
  cases step_moves taken with
  | main choice client pc moved =>
      have carries := accounts.main
      generalize system.main = main at moved carries
      cases moved with
      | stops => rfl
      | sends place place' outbox busy acted =>
          rcases Carries.step carries busy acted with ⟨-, -, rfl⟩ | ⟨-, -, rfl⟩ <;> exact agree
      | _ => exact agree
  | recv choice client pc created moved =>
      have place : system.recv.ofRecvThread = true := receiving.recv
      generalize system.recv = recv at moved place
      cases moved with
      | closes => exact agree
      | gaveUp => rfl
      | receives _ _ _ inbox acted opened runs =>
          refine (act_needStop acted ?_ runs).trans agree
          rintro rfl
          cases place
  | send choice client pc created moved =>
      have place : system.send.ofSendThread = true := sending.sender.place
      generalize system.send = send at moved place
      cases moved with
      | gaveUp => rfl
      | sends _ _ _ outbox acted intact =>
          exact agree.trans (SenderMoves_needStop (ClientSend.act_sender acted place) intact).symm
  | logic client pc created moved =>
      have place : system.logic.place.ofLogicThread = true := receiving.logic.place
      have carries := accounts.logic
      generalize system.logic = logic at moved place carries
      cases moved with
      | loops place place' inbox plain acted =>
          refine (act_needStop acted ?_ ?_).trans agree <;> (rintro rfl; cases place)
      | sends place place' outbox buffer count busy acted =>
          rcases Carries.step carries busy acted with ⟨-, -, rfl⟩ | ⟨-, -, rfl⟩ <;> exact agree
      | _ => exact agree
  | serverSends | serverCloses => exact agree

/-- The client in a run, and its two sides. -/
structure Sides (setup : Setup Buffer) (system : System Buffer) : Prop where
  receiving : ClientReceive.Orderly system.receiving
  sending : ClientSend.Orderly system.sending
  accounts : Accounts setup system
  threads : system.client.threads = system.main.threads
  agree : system.client.inbox.needStop = system.client.outbox.needStop

theorem sides_initial : Sides setup (initial : System Buffer) where
  receiving := receiving_initial ▸ ClientReceive.orderly_initial
  sending := sending_initial ▸ ClientSend.orderly_initial
  accounts := accounts_initial
  threads := rfl
  agree := rfl

theorem Sides.step (sides : Sides setup system)
    (taken : ClientMachine.step setup system label = some after) : Sides setup after where
  receiving := sides.receiving.step (receive_commutes taken)
  sending := sides.sending.step (send_commutes taken)
  accounts := sides.accounts.step sides.receiving sides.sending taken
  threads := threads_step sides.threads taken
  agree := agree_step sides.receiving sides.sending sides.accounts sides.agree taken

theorem sides_of_reach {guard : System Buffer → Label Buffer → Prop}
    (reached : Reach (step setup) guard initial system) : Sides setup system :=
  reached.invariant (Sides setup) sides_initial fun _ _ _ sides _ taken => sides.step taken

/-- **One `Ping` for every `Pong`**: in every run, what the client has pushed are `Ping`s, the first
one of `main` and one for each `Pong` that `ProcessLogic` has got, but for those a thread is about
to push; and the world is what `ProcessLogic` makes of the packets in their order. -/
theorem client_accounts {guard : System Buffer → Label Buffer → Prop}
    (reached : Reach (step setup) guard initial system) :
    (∀ buffer ∈ system.client.outbox.pushed, buffer = setup.encodedPing) ∧
      system.client.outbox.pushed.length + unpushed system.main.caller +
        unpushed system.logic.caller =
          system.main.pings + setup.pongs system.client.inbox.processed ∧
      system.client.world = setup.worldOf system.client.inbox.processed := by
  have accounts := (sides_of_reach reached).accounts
  refine ⟨accounts.pings, ?_, accounts.world⟩
  rw [accounts.total, accounts.world, pings_worldOf]

/-- Buffers with `m_bIsEncoded`. -/
def flagLib : BufferLib (Bool × List UInt8) where
  isEncoded := Prod.fst
  encode buffer := (true, Network.xorEncode 9 buffer.2)
  bytes := Prod.snd

/-- A number, low byte first. -/
def numberOf (bytes : List UInt8) : ℕ := bytes.foldr (fun byte rest => byte.toNat + 256 * rest) 0

/-- A client of these buffers. -/
def flagSetup : Setup (Bool × List UInt8) where
  lib := Network.xorLib 512
  capacity := 1024
  bufferLib := flagLib
  read buffer :=
    ⟨.ofNat (numberOf (buffer.unread.take 4)), .ofNat (numberOf ((buffer.unread.drop 4).take 8)),
      .ofNat (numberOf ((buffer.unread.drop 12).take 2))⟩
  ping := (false, PacketEncoders.littleEndian 1)

/-- The second try connects, and `main` pings. -/
def connectSchedule : List (Label (Bool × List UInt8)) :=
  [.main .go, .main .go, .main .go, .main .go, .main .go, .main .fails, .main .go, .main .go,
   .main .go, .main .go, .main .go, .main .go, .main .go, .main .go]

/-- The server answers, in two pieces. -/
def answerSchedule : List (Label (Bool × List UInt8)) :=
  connectSchedule ++ [.recv .go, .serverSends (Network.xorEncode 9 (PacketEncoders.littleEndian 2)),
   .recv (.recvReturns 8), .recv .go, .recv .go, .recv .go, .recv (.recvReturns 1), .recv .go,
   .recv .go, .recv .go, .logic, .logic, .logic, .logic, .logic]

theorem client_accounts_answered :
    ∃ system : System (Bool × List UInt8),
      flagSetup.pongs system.client.inbox.processed = 1 ∧
      system.client.outbox.pushed = [flagSetup.encodedPing, flagSetup.encodedPing] ∧
      system.client.world = flagSetup.worldOf system.client.inbox.processed := by
  obtain ⟨system, reached, last⟩ := exists_reach_of_run (step flagSetup) initial answerSchedule
    (fun system => flagSetup.pongs system.client.inbox.processed = 1 ∧
      system.client.outbox.pushed = [flagSetup.encodedPing, flagSetup.encodedPing]) (by decide)
  obtain ⟨pongs, pushed⟩ := of_decide_eq_true last
  exact ⟨system, pongs, pushed, (client_accounts reached).2.2⟩

end Accounts

end ActorModelServer.ClientMachine
