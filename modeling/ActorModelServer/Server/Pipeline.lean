/-
**From the bytes of a client to the answers.**

One session with all of its threads: the IO workers read packets off the ring and send each as a
message to the session's own actor; the logic thread runs the messages in its frames, and their
handlers call `SendPacket`; the send path posts what they enqueued. The world is the machine of the
session (`SessionIo`) and the machine of its actor (`Actor`), which run side by side, and what ties
them together: the ring, each worker's `restSize`, and what the running message still does.

* `moved_of_step` — everything one step can do.
* `sessionRun`, `liveRun`, `actorRun` — a run of the world is a run of the session, and one of the
  actor.
-/

import ActorModelServer.Actor.MessageOrder
import ActorModelServer.Library.Projection
import ActorModelServer.Network.ClientStream
import ActorModelServer.SessionIo.SendOrder

namespace ActorModelServer.Pipeline

open Actor (Mailbox Entry)
open Network (NetBufferLib StreamPacket recvStreamToBuffer createMessageFromPacket)
open SessionIo (IoKind IoResult LiveSend)
open StepRuns (Reach Unguarded)

universe u v w

section Model

/-- What a message does to its session while it runs. -/
inductive Action (Message : Type u) (Buffer : Type v)
  | sendPacket (buffer : Buffer)
  /- to its own actor; the message may be null -/
  | sendMessage (message : Option Message)
  | stop
  | disconnect
  deriving DecidableEq

/-- A message of the mailbox, made from a packet or sent by another actor. -/
inductive Letter (Message : Type u)
  | packet (message : Message)
  | other (message : Message)
  deriving DecidableEq

/-- The message of a letter. -/
def Letter.message {Message : Type u} : Letter Message → Message
  | .packet message => message
  | .other message => message

/-- The library, the packet handlers, and what a message does. -/
structure Setup (Message : Type u) (Buffer : Type v) where
  lib : NetBufferLib
  messageFactories : ℕ → Option (List UInt8 → Message)
  body : Message → List (Action Message Buffer)

/-- A session, its actor, and what the threads keep between the two. -/
structure World (Message : Type u) (Buffer : Type v) (Io : Type) (Name : Type w) where
  session : SessionIo.State Buffer Io
  /-- The workers send messages, too. -/
  actor : Actor.State (Letter Message) (Io ⊕ Name)
  ringBuffer : List UInt8
  /-- The local variable of `OnRecvIoCompleted`. -/
  restSize : Io → ℕ
  /-- What the running message has not done yet. -/
  todo : List (Action Message Buffer)
  /-- What the completed receives have brought. -/
  arrived : List UInt8

/-- What happens next. -/
inductive Label (Message : Type u) (Buffer : Type v) (Io : Type) (Name : Type w)
  /- in the functions of the session, outside of the places below -/
  | session (thread : SessionIo.Tid Io) (choice : SessionIo.Choice Buffer)
  /- `OnRecvIoCompleted`: its first lines, one packet, `SendMessage`, and the end of its loop -/
  | recvCompleted (worker : Io) (transferred : List UInt8)
  | readPacket (worker : Io)
  | sendMessage (worker : Io) (choice : Actor.Choice (Letter Message))
  | doRecv (worker : Io)
  /- another thread calls `SendMessage` or `Stop` -/
  | other (name : Name) (choice : Actor.Choice Message)
  /- the logic thread: `ProcessMessage`, the running message, the end of the frame -/
  | logic (choice : Actor.Choice Message)
  | handler
  | endFrame

variable {Message : Type u} {Buffer : Type v} {Io : Type} {Name : Type w}

/-- A message that no packet was made to. -/
def letterChoice : Actor.Choice Message → Actor.Choice (Letter Message)
  | .go => .go
  | .send message => .send (message.map .other)
  | .stop => .stop
  | .process => .process
  | .missStop => .missStop

/-- What an entry of the mailbox does when it is called. -/
def Setup.actions (setup : Setup Message Buffer) (entry : Entry (Letter Message)) :
    List (Action Message Buffer) :=
  match entry.message with
  | some letter => setup.body letter.message
  | none => []

/-- The thread is in a function of the session that reads no packets and runs no messages. -/
def World.free (world : World Message Buffer Io Name) (thread : SessionIo.Tid Io) : Bool :=
  match thread, world.session.pc thread with
  | _, .ioFind .recv .transferred => false
  | _, .ioRecv => false
  | _, .logicHandler => false
  | .logic, .logicIdle =>
      match world.actor.pc .logic with
      | .logic => true
      | _ => false
  | _, _ => true

variable [DecidableEq Io] [DecidableEq Name]

/-- A step of the session. -/
def World.sessionStep (world : World Message Buffer Io Name)
    (label : SessionIo.Tid Io × SessionIo.Choice Buffer) : Option (World Message Buffer Io Name) :=
  (SessionIo.step world.session label).map fun session => { world with session := session }

/-- A step of the actor. -/
def World.actorStep (world : World Message Buffer Io Name)
    (label : Actor.Tid (Io ⊕ Name) × Actor.Choice (Letter Message)) :
    Option (World Message Buffer Io Name) :=
  (Actor.step world.actor label).map fun actor => { world with actor := actor }

/-- A completed receive has found the session: `MoveWritePos`, and `GetUseSize` into `restSize`. -/
def World.moveWritePos (world : World Message Buffer Io Name) (worker : Io)
    (transferred : List UInt8) : World Message Buffer Io Name :=
  match world.session.pc (.io worker) with
  | .ioRecv =>
      { world with
        ringBuffer := world.ringBuffer ++ transferred
        restSize := Function.update world.restSize worker (world.ringBuffer ++ transferred).length
        arrived := world.arrived ++ transferred }
  -- the session was gone
  | _ => world

/-- `RecvStreamToBuffer` and `CreateMessageFromPacket` in one pass of the loop: the message, and
what is left. The ring belongs to the one worker that has the completed receive. -/
def World.receive (setup : Setup Message Buffer) (world : World Message Buffer Io Name)
    (worker : Io) : Option Message × World Message Buffer Io Name :=
  let received := recvStreamToBuffer setup.lib world.ringBuffer setup.lib.alloc
    (world.restSize worker)
  (if received.success then createMessageFromPacket setup.messageFactories received.buffer
    else none,
    { world with
      ringBuffer := received.ring
      restSize := Function.update world.restSize worker received.restSize })

/-- `OnRecvIoCompleted` begins, if the session is found. -/
def World.recvCompleted (world : World Message Buffer Io Name) (worker : Io)
    (transferred : List UInt8) : Option (World Message Buffer Io Name) :=
  match world.session.pc (.io worker) with
  | .ioFind .recv .transferred =>
      if transferred = [] then none
      else (world.sessionStep (.io worker, .go)).map fun next =>
        next.moveWritePos worker transferred
  | _ => none

/-- The loop of `OnRecvIoCompleted`, up to `SendMessage`. -/
def World.readPacket (setup : Setup Message Buffer) (world : World Message Buffer Io Name)
    (worker : Io) : Option (World Message Buffer Io Name) :=
  match world.session.pc (.io worker), world.actor.pc (.sender (.inl worker)) with
  | .ioRecv, .sender =>
      if setup.lib.headerSize < world.restSize worker then
        match (world.receive setup worker).1 with
        | none => (world.receive setup worker).2.sessionStep (.io worker, .malformed)
        | some message =>
            (world.receive setup worker).2.actorStep
              (.sender (.inl worker), .send (some (.packet message)))
      else none
  | _, _ => none

/-- `SendMessage` in the loop. -/
def World.sendMessage (world : World Message Buffer Io Name) (worker : Io)
    (choice : Actor.Choice (Letter Message)) : Option (World Message Buffer Io Name) :=
  match world.session.pc (.io worker), world.actor.pc (.sender (.inl worker)) with
  | .ioRecv, .sendCheck _ _ =>
      (world.actorStep (.sender (.inl worker), choice)).bind fun next =>
        match next.actor.pc (.sender (.inl worker)) with
        -- it returns false
        | .sender => next.sessionStep (.io worker, .malformed)
        | _ => some next
  | .ioRecv, .sendPush _ _ => world.actorStep (.sender (.inl worker), choice)
  | _, _ => none

/-- Behind the loop. -/
def World.doRecv (setup : Setup Message Buffer) (world : World Message Buffer Io Name)
    (worker : Io) : Option (World Message Buffer Io Name) :=
  match world.session.pc (.io worker), world.actor.pc (.sender (.inl worker)) with
  | .ioRecv, .sender =>
      if setup.lib.headerSize < world.restSize worker then none
      else world.sessionStep (.io worker, .go)
  | _, _ => none

/-- The logic thread in `ProcessMessage`, outside of a running message; it calls it for this session
in this session's part of a frame. -/
def World.logic (setup : Setup Message Buffer) (world : World Message Buffer Io Name)
    (choice : Actor.Choice Message) : Option (World Message Buffer Io Name) :=
  match world.session.pc .logic, world.actor.pc .logic with
  | .logicIdle, .logic =>
      match choice with
      | .process => none
      | _ => world.actorStep (.logic, letterChoice choice)
  | .logicIdle, .sendCheck _ _ => world.actorStep (.logic, letterChoice choice)
  | .logicIdle, .sendPush _ _ => world.actorStep (.logic, letterChoice choice)
  | .logicHandler, .processRun => none
  | .logicHandler, .processLoop =>
      (world.actorStep (.logic, letterChoice choice)).map fun next =>
        { next with
          todo :=
            match world.actor.shared.consumerQueue with
            | [] => world.todo
            | entry :: _ => setup.actions entry }
  | .logicHandler, _ => world.actorStep (.logic, letterChoice choice)
  | _, _ => none

/-- The running message: its next action, or its end. -/
def World.handler (world : World Message Buffer Io Name) : Option (World Message Buffer Io Name) :=
  match world.session.pc .logic, world.actor.pc .logic with
  | .logicHandler, .processRun =>
      match world.todo with
      | [] => world.actorStep (.logic, .go)
      | action :: rest =>
          let next : World Message Buffer Io Name := { world with todo := rest }
          match action with
          | .sendPacket buffer => next.sessionStep (.logic, .sendPacket buffer)
          | .sendMessage message => next.actorStep (.logic, letterChoice (.send message))
          | .stop => next.actorStep (.logic, letterChoice .stop)
          | .disconnect => next.sessionStep (.logic, .disconnect)
  | _, _ => none

/-- The session's part of the frame is over. -/
def World.endFrame (world : World Message Buffer Io Name) : Option (World Message Buffer Io Name) :=
  match world.session.pc .logic, world.actor.pc .logic with
  | .logicHandler, .logic => world.sessionStep (.logic, .endFrame)
  | _, _ => none

/-- One step. -/
def step (setup : Setup Message Buffer) (world : World Message Buffer Io Name) :
    Label Message Buffer Io Name → Option (World Message Buffer Io Name)
  | .session thread choice =>
      if world.free thread then world.sessionStep (thread, choice) else none
  | .recvCompleted worker transferred => world.recvCompleted worker transferred
  | .readPacket worker => world.readPacket setup worker
  | .sendMessage worker choice => world.sendMessage worker choice
  | .doRecv worker => world.doRecv setup worker
  | .other name choice => world.actorStep (.sender (.inr name), letterChoice choice)
  | .logic choice => world.logic setup choice
  | .handler => world.handler
  | .endFrame => world.endFrame

/-- The start: a created session, before the accept thread has set it up. -/
def initial (Message : Type u) (Buffer : Type v) (Io : Type) (Name : Type w) :
    World Message Buffer Io Name :=
  ⟨SessionIo.initial Buffer Io, Actor.initial (Letter Message) (Io ⊕ Name), [], fun _ => 0, [], []⟩

section Guards

variable {lib : NetBufferLib} {Encoded : List UInt8 → List UInt8 → Prop}

/-- What arrives are the packets of the client, in pieces. -/
def Genuine (packets : List (StreamPacket lib Encoded)) (world : World Message Buffer Io Name) :
    Label Message Buffer Io Name → Prop
  | .recvCompleted _ transferred =>
      world.arrived ++ transferred <+: (packets.map StreamPacket.frame).flatten
  | _ => True

instance (packets : List (StreamPacket lib Encoded)) (world : World Message Buffer Io Name)
    (label : Label Message Buffer Io Name) : Decidable (Genuine packets world label) := by
  unfold Genuine
  split <;> infer_instance

/-- The send succeeds, and the session stays. -/
def Live (world : World Message Buffer Io Name) : Label Message Buffer Io Name → Prop
  | .session thread choice => LiveSend world.session (thread, choice)
  | .recvCompleted worker _ => LiveSend world.session (.io worker, .go)
  | _ => True

instance [DecidableEq Buffer] (world : World Message Buffer Io Name)
    (label : Label Message Buffer Io Name) : Decidable (Live world label) := by
  unfold Live
  split <;> infer_instance

end Guards

end Model

/-! ### What one step does -/

section Moves

variable {Message : Type u} {Buffer : Type v} {Io : Type} {Name : Type w} [DecidableEq Io]
  [DecidableEq Name] {setup : Setup Message Buffer} {world after : World Message Buffer Io Name}
  {label : Label Message Buffer Io Name}

/-- The worker is between two packets, or holds the message of one. -/
structure Reads (world : World Message Buffer Io Name) (worker : Io)
    (place : Actor.Pc (Letter Message)) : Prop where
  session : world.session.pc (.io worker) = .ioRecv
  actor : world.actor.pc (.sender (.inl worker)) = place

/-- The logic thread is in a message. -/
structure Runs (world : World Message Buffer Io Name) : Prop where
  session : world.session.pc .logic = .logicHandler
  actor : world.actor.pc .logic = .processRun

/-- The branches of `step`. -/
inductive Moved (setup : Setup Message Buffer) (world : World Message Buffer Io Name) :
    Label Message Buffer Io Name → World Message Buffer Io Name → Prop
  | session (thread : SessionIo.Tid Io) (choice : SessionIo.Choice Buffer)
      (session : SessionIo.State Buffer Io) (free : world.free thread = true)
      (stepped : SessionIo.step world.session (thread, choice) = some session) :
      Moved setup world (.session thread choice) { world with session := session }
  | found (worker : Io) (transferred : List UInt8) (session : SessionIo.State Buffer Io)
      (place : world.session.pc (.io worker) = .ioFind .recv .transferred)
      (stepped : SessionIo.step world.session (.io worker, .go) = some session)
      (found : session.pc (.io worker) = .ioRecv) :
      Moved setup world (.recvCompleted worker transferred)
        { world with
          session := session
          ringBuffer := world.ringBuffer ++ transferred
          restSize := Function.update world.restSize worker
            (world.ringBuffer ++ transferred).length
          arrived := world.arrived ++ transferred }
  | gone (worker : Io) (transferred : List UInt8) (session : SessionIo.State Buffer Io)
      (place : world.session.pc (.io worker) = .ioFind .recv .transferred)
      (stepped : SessionIo.step world.session (.io worker, .go) = some session)
      (gone : session.pc (.io worker) ≠ .ioRecv) :
      Moved setup world (.recvCompleted worker transferred) { world with session := session }
  | refused (worker : Io) (session : SessionIo.State Buffer Io) (reads : Reads world worker .sender)
      (more : setup.lib.headerSize < world.restSize worker)
      (none : (world.receive setup worker).1 = none)
      (stepped : SessionIo.step world.session (.io worker, .malformed) = some session) :
      Moved setup world (.readPacket worker)
        { (world.receive setup worker).2 with session := session }
  | made (worker : Io) (message : Message) (actor : Actor.State (Letter Message) (Io ⊕ Name))
      (reads : Reads world worker .sender) (more : setup.lib.headerSize < world.restSize worker)
      (some : (world.receive setup worker).1 = some message)
      (stepped : Actor.step world.actor (.sender (.inl worker), .send (.some (.packet message))) =
        .some actor) :
      Moved setup world (.readPacket worker) { (world.receive setup worker).2 with actor := actor }
  | checked (worker : Io) (choice : Actor.Choice (Letter Message))
      (actor : Actor.State (Letter Message) (Io ⊕ Name)) (message : Option (Letter Message))
      (next : Actor.Pc (Letter Message)) (reads : Reads world worker (.sendCheck message next))
      (stepped : Actor.step world.actor (.sender (.inl worker), choice) = some actor)
      (onward : actor.pc (.sender (.inl worker)) ≠ .sender) :
      Moved setup world (.sendMessage worker choice) { world with actor := actor }
  | stopped (worker : Io) (choice : Actor.Choice (Letter Message))
      (actor : Actor.State (Letter Message) (Io ⊕ Name)) (session : SessionIo.State Buffer Io)
      (message : Option (Letter Message)) (next : Actor.Pc (Letter Message))
      (reads : Reads world worker (.sendCheck message next))
      (stepped : Actor.step world.actor (.sender (.inl worker), choice) = some actor)
      (back : actor.pc (.sender (.inl worker)) = .sender)
      (ended : SessionIo.step world.session (.io worker, .malformed) = some session) :
      Moved setup world (.sendMessage worker choice)
        { world with session := session, actor := actor }
  | pushed (worker : Io) (choice : Actor.Choice (Letter Message))
      (actor : Actor.State (Letter Message) (Io ⊕ Name)) (message : Option (Letter Message))
      (next : Actor.Pc (Letter Message)) (reads : Reads world worker (.sendPush message next))
      (stepped : Actor.step world.actor (.sender (.inl worker), choice) = some actor) :
      Moved setup world (.sendMessage worker choice) { world with actor := actor }
  | loopEnded (worker : Io) (session : SessionIo.State Buffer Io)
      (reads : Reads world worker .sender) (few : world.restSize worker ≤ setup.lib.headerSize)
      (stepped : SessionIo.step world.session (.io worker, .go) = some session) :
      Moved setup world (.doRecv worker) { world with session := session }
  | other (name : Name) (choice : Actor.Choice Message)
      (actor : Actor.State (Letter Message) (Io ⊕ Name))
      (stepped : Actor.step world.actor (.sender (.inr name), letterChoice choice) = some actor) :
      Moved setup world (.other name choice) { world with actor := actor }
  | logic (choice : Actor.Choice Message) (actor : Actor.State (Letter Message) (Io ⊕ Name))
      (outside : world.actor.pc .logic ≠ .processRun ∧ world.actor.pc .logic ≠ .processLoop)
      (stepped : Actor.step world.actor (.logic, letterChoice choice) = some actor) :
      Moved setup world (.logic choice) { world with actor := actor }
  | looped (choice : Actor.Choice Message) (actor : Actor.State (Letter Message) (Io ⊕ Name))
      (place : world.actor.pc .logic = .processLoop)
      (stepped : Actor.step world.actor (.logic, letterChoice choice) = some actor) :
      Moved setup world (.logic choice)
        { world with
          actor := actor
          todo :=
            match world.actor.shared.consumerQueue with
            | [] => world.todo
            | entry :: _ => setup.actions entry }
  | returned (actor : Actor.State (Letter Message) (Io ⊕ Name)) (runs : Runs world)
      (done : world.todo = []) (stepped : Actor.step world.actor (.logic, .go) = some actor) :
      Moved setup world .handler { world with actor := actor }
  | sentPacket (buffer : Buffer) (rest : List (Action Message Buffer))
      (session : SessionIo.State Buffer Io) (runs : Runs world)
      (todo : world.todo = .sendPacket buffer :: rest)
      (stepped : SessionIo.step world.session (.logic, .sendPacket buffer) = some session) :
      Moved setup world .handler { world with session := session, todo := rest }
  | disconnected (rest : List (Action Message Buffer)) (session : SessionIo.State Buffer Io)
      (runs : Runs world) (todo : world.todo = .disconnect :: rest)
      (stepped : SessionIo.step world.session (.logic, .disconnect) = some session) :
      Moved setup world .handler { world with session := session, todo := rest }
  | sentMessage (choice : Actor.Choice Message) (action : Action Message Buffer)
      (rest : List (Action Message Buffer)) (actor : Actor.State (Letter Message) (Io ⊕ Name))
      (runs : Runs world) (todo : world.todo = action :: rest)
      (silent : ∀ buffer, action ≠ .sendPacket buffer) (calls : choice ≠ .go)
      (stepped : Actor.step world.actor (.logic, letterChoice choice) = some actor) :
      Moved setup world .handler { world with actor := actor, todo := rest }
  | frameEnded (session : SessionIo.State Buffer Io)
      (outside : world.session.pc .logic = .logicHandler ∧ world.actor.pc .logic = .logic)
      (stepped : SessionIo.step world.session (.logic, .endFrame) = some session) :
      Moved setup world .endFrame { world with session := session }

omit [DecidableEq Name] in
theorem sessionStep_eq_some {label : SessionIo.Tid Io × SessionIo.Choice Buffer} :
    world.sessionStep label = some after ↔ ∃ session, SessionIo.step world.session label =
      some session ∧ { world with session := session } = after :=
  Option.map_eq_some_iff

theorem actorStep_eq_some {label : Actor.Tid (Io ⊕ Name) × Actor.Choice (Letter Message)} :
    world.actorStep label = some after ↔ ∃ actor, Actor.step world.actor label = some actor ∧
      { world with actor := actor } = after :=
  Option.map_eq_some_iff

theorem moved_of_recvCompleted {worker : Io} {transferred : List UInt8}
    (stepped : world.recvCompleted worker transferred = some after) :
    Moved setup world (.recvCompleted worker transferred) after := by
  unfold World.recvCompleted at stepped
  split at stepped
  · rename_i place
    obtain ⟨-, stepped⟩ := Option.ite_none_left_eq_some.mp stepped
    obtain ⟨next, advanced, rfl⟩ := Option.map_eq_some_iff.mp stepped
    obtain ⟨session, taken, rfl⟩ := sessionStep_eq_some.mp advanced
    unfold World.moveWritePos
    split
    · exact .found worker transferred session place taken ‹_›
    · exact .gone worker transferred session place taken ‹_›
  · cases stepped

theorem moved_of_readPacket {worker : Io} (stepped : world.readPacket setup worker = some after) :
    Moved setup world (.readPacket worker) after := by
  unfold World.readPacket at stepped
  split at stepped
  · rename_i reads idle
    obtain ⟨more, stepped⟩ := Option.ite_none_right_eq_some.mp stepped
    split at stepped
    · obtain ⟨session, taken, rfl⟩ := sessionStep_eq_some.mp stepped
      exact .refused worker session ⟨reads, idle⟩ more ‹_› taken
    · obtain ⟨actor, taken, rfl⟩ := actorStep_eq_some.mp stepped
      exact .made worker _ actor ⟨reads, idle⟩ more ‹_› taken
  · cases stepped

theorem moved_of_sendMessage {worker : Io} {choice : Actor.Choice (Letter Message)}
    (stepped : world.sendMessage worker choice = some after) :
    Moved setup world (.sendMessage worker choice) after := by
  unfold World.sendMessage at stepped
  split at stepped
  · rename_i message next reads idle
    obtain ⟨middle, stepped, onward⟩ := Option.bind_eq_some_iff.mp stepped
    obtain ⟨actor, taken, rfl⟩ := actorStep_eq_some.mp stepped
    split at onward
    · obtain ⟨session, ended, rfl⟩ := sessionStep_eq_some.mp onward
      exact .stopped worker choice actor session message next ⟨reads, idle⟩ taken ‹_› ended
    · cases onward
      exact .checked worker choice actor message next ⟨reads, idle⟩ taken ‹_›
  · rename_i message next reads idle
    obtain ⟨actor, taken, rfl⟩ := actorStep_eq_some.mp stepped
    exact .pushed worker choice actor message next ⟨reads, idle⟩ taken
  · cases stepped

theorem moved_of_doRecv {worker : Io} (stepped : world.doRecv setup worker = some after) :
    Moved setup world (.doRecv worker) after := by
  unfold World.doRecv at stepped
  split at stepped
  · rename_i reads idle
    obtain ⟨few, stepped⟩ := Option.ite_none_left_eq_some.mp stepped
    obtain ⟨session, taken, rfl⟩ := sessionStep_eq_some.mp stepped
    exact .loopEnded worker session ⟨reads, idle⟩ (Nat.not_lt.mp few) taken
  · cases stepped

theorem moved_of_logic {choice : Actor.Choice Message}
    (stepped : world.logic setup choice = some after) :
    Moved setup world (.logic choice) after := by
  have called (outside : world.actor.pc .logic ≠ .processRun ∧ world.actor.pc .logic ≠ .processLoop)
      (stepped : world.actorStep (.logic, letterChoice choice) = some after) :
      Moved setup world (.logic choice) after := by
    obtain ⟨actor, taken, rfl⟩ := actorStep_eq_some.mp stepped
    exact .logic choice actor outside taken
  unfold World.logic at stepped
  split at stepped
  · rename_i place
    split at stepped
    · cases stepped
    · exact called (by simp [place]) stepped
  · rename_i place
    exact called (by simp [place]) stepped
  · rename_i place
    exact called (by simp [place]) stepped
  · cases stepped
  · rename_i place
    obtain ⟨next, advanced, rfl⟩ := Option.map_eq_some_iff.mp stepped
    obtain ⟨actor, taken, rfl⟩ := actorStep_eq_some.mp advanced
    exact .looped choice actor place taken
  · rename_i handles run loop
    exact called ⟨run, loop⟩ stepped
  · cases stepped

theorem moved_of_handler (stepped : world.handler = some after) :
    Moved setup world .handler after := by
  unfold World.handler at stepped
  split at stepped
  · rename_i handles place
    split at stepped
    · rename_i done
      obtain ⟨actor, taken, rfl⟩ := actorStep_eq_some.mp stepped
      exact .returned actor ⟨handles, place⟩ done taken
    · rename_i action rest todo
      dsimp only at stepped
      split at stepped
      · obtain ⟨session, taken, rfl⟩ := sessionStep_eq_some.mp stepped
        exact .sentPacket _ rest session ⟨handles, place⟩ todo taken
      · obtain ⟨actor, taken, rfl⟩ := actorStep_eq_some.mp stepped
        exact .sentMessage _ _ rest actor ⟨handles, place⟩ todo (by simp) (by simp) taken
      · obtain ⟨actor, taken, rfl⟩ := actorStep_eq_some.mp stepped
        exact .sentMessage _ _ rest actor ⟨handles, place⟩ todo (by simp) (by simp) taken
      · obtain ⟨session, taken, rfl⟩ := sessionStep_eq_some.mp stepped
        exact .disconnected rest session ⟨handles, place⟩ todo taken
  · cases stepped

/-- **Inversion of a step.** -/
theorem moved_of_step (stepped : step setup world label = some after) :
    Moved setup world label after := by
  cases label with
  | session thread choice =>
      obtain ⟨free, stepped⟩ := Option.ite_none_right_eq_some.mp stepped
      obtain ⟨session, taken, rfl⟩ := sessionStep_eq_some.mp stepped
      exact .session thread choice session free taken
  | recvCompleted worker transferred => exact moved_of_recvCompleted stepped
  | readPacket worker => exact moved_of_readPacket stepped
  | sendMessage worker choice => exact moved_of_sendMessage stepped
  | doRecv worker => exact moved_of_doRecv stepped
  | other name choice =>
      obtain ⟨actor, taken, rfl⟩ := actorStep_eq_some.mp stepped
      exact .other name choice actor taken
  | logic choice => exact moved_of_logic stepped
  | handler => exact moved_of_handler stepped
  | endFrame =>
      unfold step World.endFrame at stepped
      dsimp only at stepped
      split at stepped
      · rename_i handles idle
        obtain ⟨session, taken, rfl⟩ := sessionStep_eq_some.mp stepped
        exact .frameEnded session ⟨handles, idle⟩ taken
      · cases stepped

end Moves

/-! ### The two machines -/

section Parts

variable {Message : Type u} {Buffer : Type v} {Io : Type} {Name : Type w} [DecidableEq Io]
  [DecidableEq Name] {setup : Setup Message Buffer} {world after : World Message Buffer Io Name}
  {label : Label Message Buffer Io Name}

omit [DecidableEq Io] [DecidableEq Name] in
/-- Reading packets and running messages neither posts nor looks a session up. -/
theorem liveSend_of_place {session : SessionIo.State Buffer Io} {thread : SessionIo.Tid Io}
    {choice : SessionIo.Choice Buffer}
    (place : session.pc thread = .ioRecv ∨ session.pc thread = .logicHandler) :
    LiveSend session (thread, choice) := by
  rcases place with place | place
  all_goals
    refine ⟨⟨fun looks => ?_, fun posts => ?_, ?_⟩, ?_⟩ <;>
      simp_all [SessionIo.looksUp, SessionIo.posts, SessionIo.failsSend, SessionIo.takesUp]

/-- **A step of the world is one of the session**, or none. -/
theorem Moved.session_step (moved : Moved setup world label after) :
    after.session = world.session ∨ ∃ taken, (Live world label → LiveSend world.session taken) ∧
      SessionIo.step world.session taken = some after.session := by
  cases moved with
  | session thread choice session free stepped => exact .inr ⟨_, id, stepped⟩
  | found worker transferred session place stepped found => exact .inr ⟨_, id, stepped⟩
  | gone worker transferred session place stepped gone => exact .inr ⟨_, id, stepped⟩
  | refused worker session reads more none stepped =>
      exact .inr ⟨_, fun _ => liveSend_of_place (.inl reads.session), stepped⟩
  | stopped worker choice actor session message next reads stepped back ended =>
      exact .inr ⟨_, fun _ => liveSend_of_place (.inl reads.session), ended⟩
  | loopEnded worker session reads few stepped =>
      exact .inr ⟨_, fun _ => liveSend_of_place (.inl reads.session), stepped⟩
  | sentPacket buffer rest session runs todo stepped =>
      exact .inr ⟨_, fun _ => liveSend_of_place (.inr runs.session), stepped⟩
  | disconnected rest session runs todo stepped =>
      exact .inr ⟨_, fun _ => liveSend_of_place (.inr runs.session), stepped⟩
  | frameEnded session outside stepped =>
      exact .inr ⟨_, fun _ => liveSend_of_place (.inr outside.1), stepped⟩
  | made | checked | pushed | other | logic | looped | returned | sentMessage => exact .inl rfl

/-- **A step of the world is one of the actor**, or none. -/
theorem Moved.actor_step (moved : Moved setup world label after) :
    after.actor = world.actor ∨ ∃ taken, Actor.step world.actor taken = some after.actor := by
  cases moved with
  | made worker message actor reads more some stepped => exact .inr ⟨_, stepped⟩
  | checked worker choice actor message next reads stepped onward => exact .inr ⟨_, stepped⟩
  | stopped worker choice actor session message next reads stepped back ended =>
      exact .inr ⟨_, stepped⟩
  | pushed worker choice actor message next reads stepped => exact .inr ⟨_, stepped⟩
  | other name choice actor stepped => exact .inr ⟨_, stepped⟩
  | logic choice actor outside stepped => exact .inr ⟨_, stepped⟩
  | looped choice actor place stepped => exact .inr ⟨_, stepped⟩
  | returned actor runs done stepped => exact .inr ⟨_, stepped⟩
  | sentMessage choice action rest actor runs todo silent calls stepped => exact .inr ⟨_, stepped⟩
  | session | found | gone | refused | loopEnded | sentPacket | disconnected | frameEnded =>
      exact .inl rfl

/-- A run of the world is one of the session. -/
theorem sessionRun {guard : World Message Buffer Io Name → Label Message Buffer Io Name → Prop}
    (reached : Reach (step setup) guard (initial Message Buffer Io Name) world) :
    Reach SessionIo.step Unguarded (SessionIo.initial Buffer Io) world.session := by
  refine Reach.through World.session (fun before label after _ _ taken => ?_) reached
  exact (moved_of_step taken).session_step.imp_right fun ⟨taken, _, stepped⟩ =>
    ⟨taken, trivial, stepped⟩

/-- When every send succeeds and the session stays, it is so in the session's run. -/
theorem liveRun {guard : World Message Buffer Io Name → Label Message Buffer Io Name → Prop}
    (live : ∀ world label, guard world label → Live world label)
    (reached : Reach (step setup) guard (initial Message Buffer Io Name) world) :
    Reach SessionIo.step LiveSend (SessionIo.initial Buffer Io) world.session := by
  refine Reach.through World.session (fun before label after _ allowed taken => ?_) reached
  exact (moved_of_step taken).session_step.imp_right fun ⟨taken, lives, stepped⟩ =>
    ⟨taken, lives (live _ _ allowed), stepped⟩

/-- A run of the world is one of the actor. -/
theorem actorRun {guard : World Message Buffer Io Name → Label Message Buffer Io Name → Prop}
    (reached : Reach (step setup) guard (initial Message Buffer Io Name) world) :
    Reach Actor.step Unguarded (Actor.initial (Letter Message) (Io ⊕ Name)) world.actor := by
  refine Reach.through World.actor (fun before label after _ _ taken => ?_) reached
  exact (moved_of_step taken).actor_step.imp_right fun ⟨taken, stepped⟩ =>
    ⟨taken, trivial, stepped⟩

end Parts

end ActorModelServer.Pipeline
