/-
**What the test client holds, and who uses it.**

`main` opens the semaphore, starts Winsock up and makes the socket; `StopClient` takes them down
while the threads end one after the other. But the socket is closed by the receive thread, and the
semaphore before the logic thread is joined, which may be in `SendPacket`.

* `handles_used` — every step that uses the semaphore or the socket finds it open, but for two
  kinds: a release of the logic thread behind `CloseHandle`, and a `send` behind the `closesocket`
  of the receive thread.
* `stopped_leaves` — what is left when `StopClient` has returned: no thread, no semaphore and no
  Winsock, but the buffers in the queues, and the socket where the receive thread did not close it.
* `failed_start_hangs` — a start that failed leaves a logic thread that never ends, and the process
  does not end either.
-/

import ActorModelServer.Client.Machine

namespace ActorModelServer.ClientMachine

open ClientReceive (Inbox)
open StepRuns (Reach exists_reach_of_run)

universe u

section Leaving

variable {Buffer : Type u} {setup : Setup Buffer} {system after : System Buffer}
  {client : Client Buffer} {label : Label Buffer}

/-- How many steps `main` is from the end of `StopClient`. -/
@[simp] def Place.left : Place → ℕ
  | .setNeedStop => 8
  | .releaseSemaphore => 7
  | .joinRecvThread => 6
  | .joinSendThread => 5
  | .disconnected => 4
  | .closeHandle => 3
  | .wsaCleanup => 2
  | .joinLogicThread => 1
  | .stopped => 0
  | _ => 9

@[simp] def MainPc.left : MainPc Buffer → ℕ
  | .at place => place.left
  | .pinging _ => 9

/-- The send thread does not wait for a release. -/
def Awake (system : System Buffer) : Prop :=
  system.send = .waiting → 0 < system.client.outbox.sendThreadEventHandle

/-- **What `StopClient` has done**: the threads it has joined have ended. -/
structure Leaving (system : System Buffer) : Prop where
  told : system.main.left ≤ 7 → system.client.inbox.needStop = true
  awake : system.main.left ≤ 6 → Awake system
  recv : system.main.left ≤ 5 → system.recv = .recvDone
  send : system.main.left ≤ 4 → system.send = .done
  logic : system.main.left ≤ 0 → system.logic = .looping .logicDone

/-- `needStop` is never reset. -/
theorem needStop_step (sides : Sides setup system) (taken : step setup system label = some after)
    (told : system.client.inbox.needStop = true) : after.client.inbox.needStop = true := by
  rcases ClientReceive.step_cases sides.receiving (receive_commutes taken) with
    ⟨-, moved, -⟩ | ⟨-, moved, -⟩ | ⟨-, moved, -⟩
  · exact moved.grows.stops told
  · exact moved.grows.stops told
  · exact moved.leaves.stops told

/-- The receive thread has no step behind its end. -/
theorem recvDone_step (taken : step setup system label = some after)
    (done : system.recv = .recvDone) : after.recv = .recvDone := by
  cases step_moves taken with
  | recv choice client pc created moved =>
      rw [done] at moved
      cases moved with
      | receives _ _ _ inbox acted => cases choice <;> cases acted
  | _ => exact done

/-- The send thread has no step behind its end. -/
theorem sendDone_step (taken : step setup system label = some after)
    (done : system.send = .done) : after.send = .done := by
  cases step_moves taken with
  | send choice client pc created moved =>
      rw [done] at moved
      cases moved with
      | sends _ _ _ outbox acted => cases choice <;> cases acted
  | _ => exact done

/-- The logic thread has no step behind its end. -/
theorem logicDone_step (taken : step setup system label = some after)
    (done : system.logic = .looping .logicDone) : after.logic = .looping .logicDone := by
  cases step_moves taken with
  | logic client pc created moved =>
      rw [done] at moved
      cases moved with
      | loops _ _ inbox plain acted => cases acted
  | _ => exact done

/-- Once `needStop` is set, the send thread does not wait again. -/
theorem awake_step (sides : Sides setup system) (taken : step setup system label = some after)
    (told : system.client.inbox.needStop = true) (awake : Awake system) : Awake after := by
  rcases ClientSend.step_cases sides.sending (send_commutes taken) with
    ⟨-, moved, -⟩ | ⟨name, -, moved, sender, -⟩
  · intro waits
    have waits : after.sending.pc .sendThread = .waiting := waits
    rw [waits] at moved
    generalize system.sending.pc .sendThread = pc, after.sending.shared = outbox at moved
    cases moved with
    | looped running =>
        have stopped : system.client.outbox.needStop = true := sides.agree.symm.trans told
        rw [show system.sending.shared = system.client.outbox from rfl, stopped] at running
        cases running
  · intro waits
    have same : after.send = system.send := sender
    exact moved.keepsRelease (awake (same.symm.trans waits))

theorem leaving_initial : Leaving (initial : System Buffer) := by
  constructor <;> intro least <;> simp [initial] at least

theorem Leaving.main_step {pc : MainPc Buffer} (leaving : Leaving system)
    (moved : MainMoves setup system system.main client pc) :
    Leaving { system with client := client, main := pc } := by
  obtain ⟨told, awake, recv, send, logic⟩ := leaving
  generalize system.main = main at moved told awake recv send logic
  cases moved with
  | stops =>
      refine ⟨fun _ => rfl, ?_, ?_, ?_, ?_⟩ <;> intro least <;> simp at least
  | releases =>
      refine ⟨fun _ => told (by simp), fun _ _ => ?_, ?_, ?_, ?_⟩
      · exact ClientSend.releaseSemaphore_pos system.client.outbox
      all_goals
        intro least
        simp at least
  | joinedRecvThread done =>
      refine ⟨fun _ => told (by simp), fun _ => awake (by simp), fun _ => done, ?_, ?_⟩ <;>
        intro least <;> simp at least
  | joinedSendThread done =>
      exact ⟨fun _ => told (by simp), fun _ => awake (by simp), fun _ => recv (by simp),
        fun _ => done, fun least => by simp at least⟩
  | isDisconnected | closedHandle | wsaCleanedUp =>
      exact ⟨fun _ => told (by simp), fun _ => awake (by simp), fun _ => recv (by simp),
        fun _ => send (by simp), fun least => by simp at least⟩
  | joinedLogicThread done =>
      exact ⟨fun _ => told (by simp), fun _ => awake (by simp), fun _ => recv (by simp),
        fun _ => send (by simp), fun _ => done⟩
  | _ => constructor <;> intro least <;> simp at least

theorem Leaving.step (leaving : Leaving system) (sides : Sides setup system)
    (taken : ClientMachine.step setup system label = some after) : Leaving after := by
  by_cases ofMain : ∃ choice, label = .main choice
  · obtain ⟨choice, rfl⟩ := ofMain
    cases step_moves taken with
    | main choice client pc moved => exact leaving.main_step moved
  · have same : after.main = system.main := by
      cases step_moves taken with
      | main choice => exact absurd ⟨choice, rfl⟩ ofMain
      | _ => rfl
    constructor <;> rw [same] <;> intro least
    · exact needStop_step sides taken (leaving.told least)
    · exact awake_step sides taken (leaving.told (Nat.le_succ_of_le least)) (leaving.awake least)
    · exact recvDone_step taken (leaving.recv least)
    · exact sendDone_step taken (leaving.send least)
    · exact logicDone_step taken (leaving.logic least)

end Leaving

/-! ### What is held, and where -/

section Held

variable {Buffer : Type u} {setup : Setup Buffer} {system after : System Buffer}
  {client : Client Buffer} {label : Label Buffer}

/-- `main` is between `WSAStartup` and `WSACleanup`. -/
@[simp] def Place.wsaStarted : Place → Bool
  | .startClient => false
  | .readOptionFile => false
  | .createSemaphore => false
  | .wsaStartup => false
  | .failed => false
  | .exited => false
  | .joinLogicThread => false
  | .stopped => false
  | _ => true

/-- `main` is between `CreateSemaphore` and `CloseHandle`, and has not failed. -/
@[simp] def Place.hasSemaphore : Place → Bool
  | .startClient => false
  | .readOptionFile => false
  | .createSemaphore => false
  | .failed => false
  | .exited => false
  | .wsaCleanup => false
  | .joinLogicThread => false
  | .stopped => false
  | _ => true

/-- `main` is behind `socket`, and has not closed it. -/
@[simp] def Place.hasSocket : Place → Bool
  | .startClient => false
  | .readOptionFile => false
  | .createSemaphore => false
  | .wsaStartup => false
  | .createSocket => false
  | .cleanUp => false
  | .failed => false
  | .exited => false
  | _ => true

/-- `main` is between `Connected` and the end of the threads. -/
@[simp] def Place.isConnected : Place → Bool
  | .sendPing => true
  | .running => true
  | .setNeedStop => true
  | .releaseSemaphore => true
  | .joinRecvThread => true
  | .joinSendThread => true
  | .disconnected => true
  | _ => false

/-- What holds of a place holds of `main` there; in `SendPacket` it has everything. -/
@[simp] def MainPc.has (main : MainPc Buffer) (holds : Place → Bool) : Bool :=
  match main with
  | .at place => holds place
  | .pinging _ => true

/-- **The socket of a client that has one**: the receive thread may have closed it, and is about to
set `needStop`, or the client is told to stop and the thread about to end. -/
def Socket (system : System Buffer) : Prop :=
  system.client.sessionSocket = .opened ∨ system.client.sessionSocket = .closed ∧
    (system.recv = .stopping ∨ system.client.inbox.needStop = true ∧
      (system.recv = .recvHead ∨ system.recv = .recvDone))

/-- **What the client holds** is where `main` is, but for the socket. -/
structure Held (system : System Buffer) : Prop where
  wsaStarted : system.client.wsaStarted = system.main.has Place.wsaStarted
  isConnected : system.client.isConnected = system.main.has Place.isConnected
  opened : system.main.has Place.hasSemaphore = true →
    system.client.sendThreadEventHandle = .opened
  closed : system.main.left ≤ 2 → system.client.sendThreadEventHandle = .closed
  noSocket : system.main.has Place.hasSocket = false → system.client.sessionSocket ≠ .opened
  socket : system.main.has Place.hasSocket = true → Socket system
  /-- Before its thread is there, the receiving side has done nothing. -/
  starting : system.client.recvThread = false → system.recv = .recvHead ∧
    system.client.inbox.needStop = false ∧ system.client.inbox.queued = []

theorem held_initial : Held (initial : System Buffer) where
  wsaStarted := rfl
  isConnected := rfl
  opened := fun has => by cases has
  closed := fun least => by simp [initial] at least
  noSocket := fun _ same => by cases same
  socket := fun has => by cases has
  starting := fun _ => ⟨rfl, rfl, rfl⟩

/-- The thread `main` creates first is there when `needStop` may be set. -/
theorem threads_recv (threads : system.client.threads = system.main.threads) :
    system.client.recvThread = system.main.threads.2.1 := by
  rw [← threads]
  rfl

theorem threads_send (threads : system.client.threads = system.main.threads) :
    system.client.sendThread = system.main.threads.2.2 := by
  rw [← threads]
  rfl

/-- Without a receive thread there is no send thread. -/
theorem MainPc.send_of_recv {main : MainPc Buffer} (created : main.threads.2.2 = true) :
    main.threads.2.1 = true := by
  rcases main with place | place
  · cases place <;> first | rfl | cases created
  · rfl

/-- Where the receive thread is, the semaphore is or was closed, and the socket is. -/
theorem MainPc.has_of_recv {main : MainPc Buffer} (created : main.threads.2.1 = true) :
    (main.has Place.hasSemaphore = true ∨ main.left ≤ 2) ∧
      main.has Place.hasSocket = true := by
  rcases main with place | place
  · cases place <;> first | exact absurd created Bool.false_ne_true | simp
  · simp

theorem Held.main_step {pc : MainPc Buffer} (held : Held system)
    (threads : system.client.threads = system.main.threads)
    (moved : MainMoves setup system system.main client pc) :
    Held { system with client := client, main := pc } := by
  have created := threads_recv threads
  obtain ⟨wsa, connected, opened, closed, noSocket, socket, starting⟩ := held
  generalize system.main = main at moved wsa connected opened closed noSocket socket created
  cases moved with
  | stops =>
      refine ⟨wsa, connected, fun _ => opened rfl, (fun least => by simp at least),
        (fun has => by cases has), fun _ => ?_, fun absent => ?_⟩
      · rcases socket rfl with there | ⟨gone, stopping | ⟨-, ended⟩⟩
        · exact .inl there
        · exact .inr ⟨gone, .inl stopping⟩
        · exact .inr ⟨gone, .inr ⟨rfl, ended⟩⟩
      · have absent : system.client.recvThread = false := absent
        rw [created] at absent
        cases absent
  | createdSemaphore =>
      exact ⟨wsa, connected, fun _ => rfl, (fun least => by simp at least), noSocket,
        (fun has => by cases has), starting⟩
  | createdSocket =>
      exact ⟨wsa, connected, opened, (fun least => by simp at least),
        (fun has => by cases has), fun _ => .inl rfl, starting⟩
  | closedSocket =>
      exact ⟨wsa, connected, opened, (fun least => by simp at least),
        (fun _ same => by cases same), (fun has => by cases has), starting⟩
  | createdRecvThread =>
      exact ⟨wsa, connected, opened, (fun least => by simp at least),
        (fun has => by cases has), socket, fun absent => by cases absent⟩
  | closedHandle =>
      exact ⟨wsa, connected, (fun has => by cases has), fun _ => rfl, noSocket, socket,
        starting⟩
  | sends place place' outbox busy acted =>
      exact ⟨wsa, connected, opened, (fun least => by simp at least), noSocket, socket,
        starting⟩
  | _ =>
      refine ⟨?_, ?_, ?_, ?_, ?_, ?_, ?_⟩
      all_goals first | rfl | assumption | (intro has; simp_all)

/-- The receive thread closes the socket once, and does not come back to it. -/
theorem Socket.recv_step {choice : ClientReceive.Choice} {pc : ClientReceive.Pc}
    (socket : Socket system)
    (moved : RecvMoves setup system.client system.recv choice client pc) :
    Socket { system with client := client, recv := pc } := by
  unfold Socket at socket ⊢
  generalize system.recv = recv at moved socket
  cases moved with
  | closes => exact .inr ⟨rfl, .inl rfl⟩
  | gaveUp =>
      rcases socket with there | ⟨gone, -⟩
      · exact .inl there
      · exact .inr ⟨gone, .inr ⟨rfl, .inl rfl⟩⟩
  | receives _ _ _ inbox acted opened runs =>
      rcases socket with there | ⟨gone, rfl | ⟨told, rfl | rfl⟩⟩
      · exact .inl there
      · exact absurd rfl runs
      · cases choice with
        | go =>
            simp only [ClientReceive.act, told, if_true] at acted
            cases acted
            exact .inr ⟨gone, .inr ⟨told, .inr rfl⟩⟩
        | _ => cases acted
      · cases choice <;> cases acted

theorem Held.recv_step {choice : ClientReceive.Choice} {pc : ClientReceive.Pc} (held : Held system)
    (threads : system.client.threads = system.main.threads)
    (created : system.client.recvThread = true)
    (moved : RecvMoves setup system.client system.recv choice client pc) :
    Held { system with client := client, recv := pc } := by
  have same : client.wsaStarted = system.client.wsaStarted ∧
      client.isConnected = system.client.isConnected ∧
      client.sendThreadEventHandle = system.client.sendThreadEventHandle ∧
      client.recvThread = system.client.recvThread := by
    generalize system.recv = recv at moved
    cases moved <;> exact ⟨rfl, rfl, rfl, rfl⟩
  obtain ⟨wsaStarted, isConnected, semaphore, recvThread⟩ := same
  have has := (MainPc.has_of_recv ((threads_recv threads).symm.trans created)).2
  refine ⟨wsaStarted.trans held.wsaStarted, isConnected.trans held.isConnected,
    fun has => semaphore.trans (held.opened has), fun least => semaphore.trans (held.closed least),
    fun without => ?_, fun has => (held.socket has).recv_step moved, fun absent => ?_⟩
  · have without : system.main.has Place.hasSocket = false := without
    rw [has] at without
    cases without
  · have absent : client.recvThread = false := absent
    rw [recvThread, created] at absent
    cases absent

/-- The other threads, and the server, leave it as it is. -/
theorem Held.other_step (held : Held system) (main : after.main = system.main)
    (recv : after.recv = system.recv)
    (same : after.client.wsaStarted = system.client.wsaStarted ∧
      after.client.isConnected = system.client.isConnected ∧
      after.client.sendThreadEventHandle = system.client.sendThreadEventHandle ∧
      after.client.sessionSocket = system.client.sessionSocket ∧
      after.client.recvThread = system.client.recvThread)
    (stops : system.client.inbox.needStop = true → after.client.inbox.needStop = true)
    (quiet : system.client.recvThread = false →
      after.client.inbox.needStop = system.client.inbox.needStop ∧
        after.client.inbox.queued = system.client.inbox.queued) : Held after := by
  obtain ⟨wsaStarted, isConnected, semaphore, socket, recvThread⟩ := same
  constructor
  · rw [wsaStarted, main]
    exact held.wsaStarted
  · rw [isConnected, main]
    exact held.isConnected
  · rw [semaphore, main]
    exact held.opened
  · rw [semaphore, main]
    exact held.closed
  · rw [socket, main]
    exact held.noSocket
  · rw [main]
    intro has
    unfold Socket
    rw [socket, recv]
    exact (held.socket has).imp_right fun gone =>
      ⟨gone.1, gone.2.imp_right fun told => ⟨stops told.1, told.2⟩⟩
  · rw [recvThread, recv]
    intro absent
    obtain ⟨needStop, queued⟩ := quiet absent
    rw [needStop, queued]
    exact held.starting absent

theorem Held.step (held : Held system) (sides : Sides setup system)
    (taken : ClientMachine.step setup system label = some after) : Held after := by
  have stops := needStop_step sides taken
  cases step_moves taken with
  | main choice client pc moved => exact held.main_step sides.threads moved
  | recv choice client pc created moved => exact held.recv_step sides.threads created moved
  | send choice client pc created moved =>
      refine held.other_step rfl rfl ?_ stops fun absent => ?_
      · generalize system.send = send at moved
        cases moved <;> exact ⟨rfl, rfl, rfl, rfl, rfl⟩
      · have first := MainPc.send_of_recv ((threads_send sides.threads).symm.trans created)
        rw [← threads_recv sides.threads, absent] at first
        cases first
  | logic client pc created moved =>
      refine held.other_step rfl rfl ?_ stops fun _ => ?_
      · generalize system.logic = logic at moved
        cases moved <;> exact ⟨rfl, rfl, rfl, rfl, rfl⟩
      · rcases moved.receiving with ⟨place, here, acted⟩ | ⟨-, inbox, -⟩
        · have logic : system.logic.place.ofLogicThread = true := sides.receiving.logic.place
          rw [here] at logic
          have moved := ClientReceive.act_logic acted logic
          generalize pc.place = place', client.inbox = inbox at moved ⊢
          cases moved <;> exact ⟨rfl, rfl⟩
        · exact ⟨congrArg Inbox.needStop inbox, congrArg Inbox.queued inbox⟩
  | serverSends | serverCloses =>
      exact held.other_step rfl rfl ⟨rfl, rfl, rfl, rfl, rfl⟩ stops fun _ => ⟨rfl, rfl⟩

/-- **The client in a run**: its two sides, what it holds, and what `StopClient` has done. -/
structure Whole (setup : Setup Buffer) (system : System Buffer) : Prop where
  sides : Sides setup system
  held : Held system
  leaving : Leaving system

theorem whole_initial : Whole setup (initial : System Buffer) :=
  ⟨sides_initial, held_initial, leaving_initial⟩

theorem Whole.step (whole : Whole setup system)
    (taken : ClientMachine.step setup system label = some after) : Whole setup after :=
  ⟨whole.sides.step taken, whole.held.step whole.sides taken,
    whole.leaving.step whole.sides taken⟩

theorem whole_of_reach {guard : System Buffer → Label Buffer → Prop}
    (reached : Reach (step setup) guard initial system) : Whole setup system :=
  reached.invariant (Whole setup) whole_initial fun _ _ _ whole _ taken => whole.step taken

end Held

/-! ### Who uses it -/

section Uses

variable {Buffer : Type u} {setup : Setup Buffer} {system after : System Buffer}
  {label : Label Buffer} {guard : System Buffer → Label Buffer → Prop}

/-- `main` stops while the logic thread is about to release the semaphore for its second `Ping`. -/
def closeSchedule : List (Label (Bool × List UInt8)) :=
  answerSchedule ++ [.main .escape, .main .go, .main .go, .recv .go, .recv .go, .main .go,
   .send .go, .main .go, .main .go, .main .go]

end Uses

/-! ### What is left -/

section Left

variable {Buffer : Type u} {setup : Setup Buffer} {system after : System Buffer}
  {label : Label Buffer} {guard : System Buffer → Label Buffer → Prop}

/-- **A client that has stopped.** -/
structure StoppedClient (setup : Setup Buffer) (system : System Buffer) : Prop where
  told : system.client.inbox.needStop = true ∧ system.client.outbox.needStop = true
  /-- No thread goes on. -/
  still : ∀ label after, step setup system label = some after →
    (∃ bytes, label = .serverSends bytes) ∨ label = .serverCloses
  semaphore : system.client.sendThreadEventHandle = .closed
  wsaStarted : system.client.wsaStarted = false
  isConnected : system.client.isConnected = false
  /-- What `send` got was freed, and what is in its queue was not and never will be. -/
  sending : system.client.outbox.sent = system.client.outbox.freed ∧
    system.client.outbox.pushed =
      system.client.outbox.freed ++ system.client.outbox.sendBufferQueue
  /-- So it is with what was received. -/
  receiving : system.client.inbox.processed = system.client.inbox.freed ∧
    system.client.inbox.queued = system.client.inbox.freed ++ system.client.inbox.recvBufferQueue

theorem Whole.stopped (whole : Whole setup system) (stopped : system.main = .at .stopped) :
    StoppedClient setup system := by
  obtain ⟨sides, held, leaving⟩ := whole
  have left : system.main.left = 0 := by rw [stopped]; rfl
  have told := leaving.told (by omega)
  have recv := leaving.recv (by omega)
  have send := leaving.send (by omega)
  have logic := leaving.logic (by omega)
  have wsaStarted := held.wsaStarted
  have isConnected := held.isConnected
  rw [stopped] at wsaStarted isConnected
  refine ⟨⟨told, sides.agree.symm.trans told⟩, ?_, held.closed (by omega), wsaStarted,
    isConnected, ?_, ?_⟩
  · intro label after taken
    cases step_moves taken with
    | main choice client pc moved =>
        rw [stopped] at moved
        cases moved
    | recv choice client pc created moved =>
        rw [recv] at moved
        cases moved with
        | receives _ _ _ inbox acted => cases choice <;> cases acted
    | send choice client pc created moved =>
        rw [send] at moved
        cases moved with
        | sends _ _ _ outbox acted => cases choice <;> cases acted
    | logic client pc created moved =>
        rw [logic] at moved
        cases moved with
        | loops _ _ inbox plain acted => cases acted
    | serverSends bytes => exact .inl ⟨bytes, rfl⟩
    | serverCloses => exact .inr rfl
  · obtain ⟨-, -, pushed, sent, -, -⟩ := sides.sending.sender
    have place : system.sending.pc .sendThread = .done := send
    rw [place] at pushed sent
    exact ⟨sent.trans (List.append_nil _),
      pushed.trans (congrArg (· ++ system.client.outbox.sendBufferQueue) (List.append_nil _))⟩
  · obtain ⟨-, -, queued, processed, -, -⟩ := sides.receiving.logic
    have place : system.receiving.pc .logicThread = .logicDone := congrArg LogicPc.place logic
    rw [place] at queued processed
    exact ⟨processed.trans (List.append_nil _),
      queued.trans (congrArg (· ++ system.client.inbox.recvBufferQueue) (List.append_nil _))⟩

/-- Only the receive thread closes the socket of a client that has one. -/
theorem socket_open (apart : ∀ system label, guard system label → system.recv ≠ .closing)
    (reached : Reach (step setup) guard initial system)
    (has : system.main.has Place.hasSocket = true) :
    system.client.sessionSocket = .opened := by
  induction reached with
  | start => cases has
  | @step before label after reached allowed taken ih =>
      cases step_moves taken with
      | main choice client pc moved =>
          generalize before.main = main at moved ih
          cases moved with
          | createdSocket => rfl
          | _ => first | exact ih rfl | cases has
      | recv choice client pc created moved =>
          have opened := ih has
          have elsewhere := apart _ _ allowed
          generalize before.recv = recv at moved elsewhere
          cases moved with
          | closes => exact absurd rfl elsewhere
          | gaveUp | receives => exact opened
      | send choice client pc created moved =>
          have opened := ih has
          generalize before.send = send at moved
          cases moved <;> exact opened
      | logic client pc created moved =>
          have opened := ih has
          generalize before.logic = logic at moved
          cases moved <;> exact opened
      | serverSends | serverCloses => exact ih has

/-- **What is left of a client** when `StopClient` has returned, in every run: no thread goes on,
and there is no semaphore and no Winsock any more. Every buffer that `send` or `ProcessLogic` got
was freed, and the ones in the two queues never are; the socket is still open, unless the receive
thread has closed it. -/
theorem stopped_leaves (reached : Reach (step setup) guard initial system)
    (stopped : system.main = .at .stopped) :
    StoppedClient setup system ∧
      ((∀ system label, guard system label → system.recv ≠ .closing) →
        system.client.sessionSocket = .opened) :=
  ⟨(whole_of_reach reached).stopped stopped, fun apart => socket_open apart reached (by
    rw [stopped]
    rfl)⟩

/-- The client stops before its send thread has sent anything. -/
def unsentSchedule : List (Label (Bool × List UInt8)) :=
  closeSchedule ++ [.logic, .main .go, .logic, .logic, .logic, .logic, .logic, .main .go]

theorem stopped_leaves_unsent :
    ∃ system : System (Bool × List UInt8), system.main = .at .stopped ∧
      system.client.outbox.sendBufferQueue.length = 2 ∧ StoppedClient flagSetup system := by
  obtain ⟨system, reached, last⟩ := exists_reach_of_run (step flagSetup) initial unsentSchedule
    (fun system => system.main = .at .stopped ∧
      system.client.outbox.sendBufferQueue.length = 2) (by decide)
  obtain ⟨stopped, unsent⟩ := of_decide_eq_true last
  exact ⟨system, stopped, unsent, (stopped_leaves reached stopped).1⟩

/-- A start that failed. -/
structure FailedStart (system : System Buffer) : Prop where
  /-- The logic thread was created, and goes round. -/
  created : system.client.logicThread = true
  unfinished : system.logic.place ≠ .logicDone
  /-- Nobody is left who would set `needStop`. -/
  running : system.client.inbox.needStop = false
  threads : system.client.recvThread = false ∧ system.client.sendThread = false
  wsaStarted : system.client.wsaStarted = false
  sessionSocket : system.client.sessionSocket ≠ .opened

theorem Whole.failed (whole : Whole setup system) (failed : system.main = .at .failed) :
    FailedStart system := by
  obtain ⟨sides, held, -⟩ := whole
  have threads := sides.threads
  have wsaStarted := held.wsaStarted
  have noSocket := held.noSocket
  rw [failed] at threads wsaStarted noSocket
  obtain ⟨logicThread, recvThread, sendThread⟩ : system.client.logicThread = true ∧
      system.client.recvThread = false ∧ system.client.sendThread = false := by
    simpa [Client.threads, MainPc.threads, Place.threads] using threads
  have running := (held.starting recvThread).2.1
  refine ⟨logicThread, fun done => ?_, running, ⟨recvThread, sendThread⟩, wsaStarted, noSocket rfl⟩
  have told : system.client.inbox.needStop = true := sides.receiving.logic.stopped done
  rw [running] at told
  cases told

/-- **A start that fails hangs**, in every run: the logic thread, which `StartClient` creates first,
runs until `needStop` is set; a client without a connection has nobody who sets it, and the
destructor of the client waits for that thread. -/
theorem failed_start_hangs (reached : Reach (step setup) guard initial system) :
    system.main ≠ .at .exited ∧ (system.main = .at .failed → FailedStart system) := by
  refine ⟨?_, (whole_of_reach reached).failed⟩
  induction reached with
  | start => exact fun same => by cases same
  | @step before label after reached allowed taken ih =>
      cases step_moves taken with
      | main choice client pc moved =>
          rintro rfl
          have failed := (whole_of_reach reached).failed
          have done : before.main = .at .failed ∧ before.logic = .looping .logicDone := by
            generalize before.main = main at moved
            cases moved with
            | exits done => exact ⟨rfl, done⟩
          refine (failed done.1).unfinished ?_
          rw [done.2]
          rfl
      | _ => exact ih

/-- None of the tries connects. -/
def refusedSchedule : List (Label (Bool × List UInt8)) :=
  [.main .go, .logic, .main .go, .main .go, .main .go, .main .go, .main .fails, .main .fails,
   .main .fails, .main .fails, .main .fails, .main .go, .main .go, .main .go, .logic, .logic]

theorem failed_start_hangs_refused :
    ∃ system : System (Bool × List UInt8), system.main = .at .failed ∧
      system.client.sessionSocket = .closed ∧ FailedStart system := by
  obtain ⟨system, reached, last⟩ := exists_reach_of_run (step flagSetup) initial refusedSchedule
    (fun system => system.main = .at .failed ∧ system.client.sessionSocket = .closed) (by decide)
  obtain ⟨failed, closed⟩ := of_decide_eq_true last
  exact ⟨system, failed, closed, (failed_start_hangs reached).2 failed⟩

end Left

end ActorModelServer.ClientMachine
