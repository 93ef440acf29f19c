/-
**The life of one session, step by step.**

The code of `Session` (`SendPacket`, `DoSend`, `DoRecv`, `DecreaseIOCount`, `ReleaseSession`,
`Disconnect`, `OnDisconnected`) and the code of `ServerCore` that works on a session
(`RunAcceptThread`, `RunIoThread`, `OnRecvIoCompleted`, `OnSendIoCompleted`, `RunReleaseThread`,
`EraseAllSession`), cut at every atomic operation. `Session` is the state the threads share, `Pc`
the places a thread can be at, `act` one atomic step. A step the code does not decide itself is
decided by a `Choice`: what a handler does next, whether the kernel takes an operation, which
completion `GetQueuedCompletionStatus` returns and what it reports.

The queue is a linearizable FIFO with an exact `GetRestSize`, so the branch of `DoSend` for a
negative rest size is never taken and `Dequeue` fails on an empty queue only. `isStop` is never
written, so no loop ends. `recvStoredQueue` is never filled.
-/

import ActorModelServer.Library.ThreadTable
import Mathlib.Tactic.DeriveFintype

namespace ActorModelServer.SessionIo

universe u

/-- `ONE_SEND_WSABUF_MAX`. -/
def oneSendWsabufMax : ℕ := 20

/-- `IO_MODE`. -/
inductive IoMode
  | noneSending
  | sending
  deriving DecidableEq, Repr

/-- Which of the two overlapped structures of a session completed. -/
inductive IoKind
  | recv
  | send
  deriving DecidableEq, Repr

/-- What a completion reports: some bytes, none (`transferred == 0`), or an error
(`iocpRetval == false`). -/
inductive IoResult
  | transferred
  | zeroBytes
  | failed
  deriving DecidableEq, Repr

/-- `sessionMapMutex` of the session's shard, as far as it keeps other threads out of a whole
section: the shared lock of a logic frame, and the exclusive lock of `EraseAllSession`. -/
inductive MapLock
  | unlocked
  | frame
  | sweep
  deriving DecidableEq, Repr

section Machine

variable (Buffer : Type u)

/-- A session as its threads share it, with the history the results below speak of. -/
structure Session where
  ioMode : IoMode
  sendQueue : List Buffer
  bufferCount : ℕ
  sendBufferStore : ℕ → Option Buffer
  ioCount : ℤ
  isUsingSession : Bool
  /-- The session is in `sessionMap`. -/
  registered : Bool
  mapLock : MapLock
  /-- Entries of this session in `releaseThreadsQueue`. -/
  releaseRequests : ℕ
  /-- Operations the kernel has taken and not reported yet. -/
  sendOutstanding : ℕ
  recvOutstanding : ℕ
  socketOpen : Bool
  /-- How often `shutdown` was called on the socket. -/
  shutdowns : ℕ
  /-- What `SendPacket` enqueued, what was handed to `WSASend` and what was freed, in order. -/
  enqueued : List Buffer
  posted : List (List Buffer)
  freed : List Buffer
  /-- How often `ReleaseSession`, hence `OnActorDestroyed`, ran. -/
  released : ℕ
  /-- `ioCount` has dropped to zero; it was raised after that. -/
  dropped : Bool
  raisedAfterDrop : Bool

/-- Where a thread is. A place inside a subroutine carries the place it returns to. -/
inductive Pc
  /- `RunAcceptThread`, from the created session on -/
  | acceptIncrease
  | acceptAssociate
  | acceptInsert
  | acceptDone
  /- `RunIoThread` and `OnIoCompleted` -/
  | ioWait
  | ioFind (kind : IoKind) (result : IoResult)
  /- `OnRecvIoCompleted`, reading the frames -/
  | ioRecv
  /- `OnSendIoCompleted` -/
  | freeSent (index : ℕ)
  | storeNoneSending
  /- `DoRecv` -/
  | recvIncrease (next : Pc)
  | wsaRecv (next : Pc)
  /- `DecreaseIOCount` -/
  | decrease (next : Pc)
  | releaseSession (next : Pc)
  /- the logic thread: outside a frame, and in a handler of this session -/
  | logicIdle
  | logicHandler
  /- `DoSend` -/
  | casAcquire (expected : IoMode) (next : Pc)
  | getRestSize (expected : IoMode) (next : Pc)
  | casRelease (expected : IoMode) (next : Pc)
  | dequeue (index restSize : ℕ) (buffers : List Buffer) (next : Pc)
  | addBufferCount (restSize : ℕ) (buffers : List Buffer) (next : Pc)
  | sendIncrease (buffers : List Buffer) (next : Pc)
  | wsaSend (buffers : List Buffer) (next : Pc)
  | doSendReturn (next : Pc)
  /- `RunReleaseThread`, `OnDisconnected` and `EraseAllSession` -/
  | releaseWait
  | eraseSession
  | closeSocket (sweep : Bool)
  | freeStored (sweep : Bool) (index : ℕ)
  | drainQueue (sweep : Bool)
  | popRequest
  deriving DecidableEq

/-- What the code leaves to its surroundings. -/
inductive Choice
  | go
  /- the kernel takes or refuses the operation -/
  | accepted
  | refused
  /- a completion arrives -/
  | completion (kind : IoKind) (result : IoResult)
  /- a received frame is malformed, its packet unknown or the actor stopped -/
  | malformed
  /- a frame of the logic thread, and what the session's handlers do in it -/
  | beginFrame
  | sendPacket (buffer : Buffer)
  | disconnect
  | endFrame
  /- the release thread wakes up: a request, or the stop event -/
  | request
  | stopEvent
  deriving DecidableEq

variable {Buffer}

/-- `++ioCount`. -/
@[simps]
def Session.increaseIOCount (session : Session Buffer) : Session Buffer :=
  { session with
    ioCount := session.ioCount + 1
    raisedAfterDrop := session.raisedAfterDrop || session.dropped }

/-- `--ioCount`. -/
@[simps]
def Session.decreaseIOCount (session : Session Buffer) : Session Buffer :=
  { session with
    ioCount := session.ioCount - 1
    dropped := session.dropped || decide (session.ioCount = 1) }

/-- `ReleaseSession`: the flag, `OnActorDestroyed`, and the request to the release thread. -/
@[simps]
def Session.releaseSession (session : Session Buffer) : Session Buffer :=
  { session with
    isUsingSession := false
    released := session.released + 1
    releaseRequests := session.releaseRequests + 1 }

/-- `NetBuffer::Free(sendBufferStore[index])`. -/
@[simps]
def Session.freeStoredAt (session : Session Buffer) (index : ℕ) : Session Buffer :=
  { session with freed := session.freed ++ (session.sendBufferStore index).toList }

/-- `sendQueue.Dequeue(&sendBufferStore[index])`: an empty queue leaves the slot as it is. -/
def Session.dequeueInto (session : Session Buffer) (index : ℕ) : Session Buffer :=
  match session.sendQueue with
  | [] => session
  | buffer :: rest =>
      { session with
        sendQueue := rest
        sendBufferStore := Function.update session.sendBufferStore index (some buffer) }

/-- `Disconnect`. -/
def Session.disconnect (session : Session Buffer) : Session Buffer :=
  if session.isUsingSession = false then session
  else { session with isUsingSession := false, shutdowns := session.shutdowns + 1 }

/-- The queue loses its head, if it has one; the slot takes it. -/
theorem Session.dequeueInto_eq (session : Session Buffer) (index : ℕ) :
    session.dequeueInto index =
      { session with
        sendQueue := session.sendQueue.tail
        sendBufferStore := Function.update session.sendBufferStore index
          (session.sendQueue.head?.or (session.sendBufferStore index)) } := by
  unfold Session.dequeueInto
  split
  · rename_i empty
    rw [empty, List.head?_nil, Option.none_or, Function.update_eq_self, List.tail_nil, ← empty]
  · rename_i full
    rw [full, List.head?_cons, Option.some_or, List.tail_cons]

/-- After `Disconnect` the session is not in use; only a session in use is shut down. -/
theorem Session.disconnect_eq (session : Session Buffer) :
    session.disconnect =
      { session with
        isUsingSession := false
        shutdowns := session.shutdowns + session.isUsingSession.toNat } := by
  unfold Session.disconnect
  split
  · rename_i unused
    rw [unused, Bool.toNat_false, Nat.add_zero, ← unused]
  · rename_i used
    rw [Bool.not_eq_false] at used
    rw [used, Bool.toNat_true]

/-- One atomic step of a thread. -/
def act (session : Session Buffer) (pc : Pc Buffer) (choice : Choice Buffer) :
    Option (Session Buffer × Pc Buffer) :=
  match pc, choice with
  | .acceptIncrease, .go => some (session.increaseIOCount, .acceptAssociate)
  | .acceptAssociate, .accepted => some (session, .acceptInsert)
  | .acceptAssociate, .refused => some (session, .decrease .acceptDone)
  | .acceptInsert, .go =>
      if session.mapLock = .unlocked then
        some ({ session with registered := true }, .recvIncrease (.decrease .acceptDone))
      else none
  | .ioWait, .completion .recv result =>
      if 0 < session.recvOutstanding then
        some ({ session with recvOutstanding := session.recvOutstanding - 1 }, .ioFind .recv result)
      else none
  | .ioWait, .completion .send result =>
      if 0 < session.sendOutstanding then
        some ({ session with sendOutstanding := session.sendOutstanding - 1 }, .ioFind .send result)
      else none
  | .ioFind kind result, .go =>
      if session.mapLock = .sweep then none
      else if session.registered = false then some (session, .ioWait)
      else
        match result, kind with
        | .transferred, .recv => some (session, .ioRecv)
        | .transferred, .send => some (session, .freeSent 0)
        | _, _ => some (session, .decrease .ioWait)
  | .ioRecv, .go => some (session, .recvIncrease (.decrease .ioWait))
  | .ioRecv, .malformed => some (session, .decrease .ioWait)
  | .freeSent index, .go =>
      if index < session.bufferCount then some (session.freeStoredAt index, .freeSent (index + 1))
      else some ({ session with bufferCount := 0 }, .storeNoneSending)
  | .storeNoneSending, .go =>
      some ({ session with ioMode := .noneSending }, .decrease (.casAcquire .noneSending .ioWait))
  | .recvIncrease next, .go => some (session.increaseIOCount, .wsaRecv next)
  | .wsaRecv next, .accepted =>
      some ({ session with recvOutstanding := session.recvOutstanding + 1 }, next)
  | .wsaRecv next, .refused => some (session, .decrease next)
  | .decrease next, .go =>
      some (session.decreaseIOCount, if session.ioCount = 1 then .releaseSession next else next)
  | .releaseSession next, .go => some (session.releaseSession, next)
  | .logicIdle, .beginFrame =>
      if session.mapLock = .unlocked ∧ session.registered = true then
        some ({ session with mapLock := .frame }, .logicHandler)
      else none
  | .logicHandler, .sendPacket buffer =>
      some ({ session with
          sendQueue := session.sendQueue ++ [buffer]
          enqueued := session.enqueued ++ [buffer] }, .casAcquire .noneSending .logicHandler)
  | .logicHandler, .disconnect => some (session.disconnect, .logicHandler)
  | .logicHandler, .endFrame => some ({ session with mapLock := .unlocked }, .logicIdle)
  | .casAcquire expected next, .go =>
      if session.ioMode = expected then
        some ({ session with ioMode := .sending }, .getRestSize expected next)
      else some (session, .doSendReturn next)
  | .getRestSize expected next, .go =>
      if session.sendQueue.length = 0 then some (session, .casRelease expected next)
      else some (session, .dequeue 0 (min oneSendWsabufMax session.sendQueue.length) [] next)
  | .casRelease expected next, .go =>
      -- a failed compare-exchange stores the value it found in `expected`
      if session.ioMode = expected then
        some ({ session with ioMode := .noneSending }, .doSendReturn next)
      else some (session, .casAcquire session.ioMode next)
  | .dequeue index restSize buffers next, .go =>
      if index < restSize then
        some (session.dequeueInto index, .dequeue (index + 1) restSize
          (buffers ++ ((session.dequeueInto index).sendBufferStore index).toList) next)
      else some (session, .addBufferCount restSize buffers next)
  | .addBufferCount restSize buffers next, .go =>
      some ({ session with bufferCount := session.bufferCount + restSize },
        .sendIncrease buffers next)
  | .sendIncrease buffers next, .go => some (session.increaseIOCount, .wsaSend buffers next)
  | .wsaSend buffers next, .accepted =>
      some ({ session with
          sendOutstanding := session.sendOutstanding + 1
          posted := session.posted ++ [buffers] }, .doSendReturn next)
  | .wsaSend _ next, .refused => some (session, .decrease (.doSendReturn next))
  | .doSendReturn next, .go => some (session, next)
  | .releaseWait, .request =>
      if 0 < session.releaseRequests ∧ session.mapLock ≠ .sweep then
        some (session, if session.registered = true then .eraseSession else .popRequest)
      else none
  | .eraseSession, .go =>
      if session.mapLock = .unlocked then
        some ({ session with registered := false }, .closeSocket false)
      else none
  | .releaseWait, .stopEvent =>
      if session.mapLock = .unlocked ∧ session.registered = true then
        some ({ session with mapLock := .sweep }, .closeSocket true)
      else none
  | .closeSocket sweep, .go => some ({ session with socketOpen := false }, .freeStored sweep 0)
  | .freeStored sweep index, .go =>
      if index < session.bufferCount then
        some (session.freeStoredAt index, .freeStored sweep (index + 1))
      else some ({ session with bufferCount := 0 }, .drainQueue sweep)
  | .drainQueue sweep, .go =>
      match session.sendQueue, sweep with
      | buffer :: rest, _ =>
          some ({ session with sendQueue := rest, freed := session.freed ++ [buffer] },
            .drainQueue sweep)
      | [], false => some (session, .popRequest)
      | [], true => some ({ session with registered := false, mapLock := .unlocked }, .releaseWait)
  | .popRequest, .go =>
      some ({ session with releaseRequests := session.releaseRequests - 1 }, .releaseWait)
  | _, _ => none

/-- The threads that touch a session: the accept thread, the logic thread and the release thread
of its shard, and any number of IO threads. -/
inductive Tid (Io : Type)
  | accept
  | logic
  | release
  | io (worker : Io)
  deriving DecidableEq, Fintype

variable (Buffer) in
/-- A freshly created session. -/
def initialSession : Session Buffer where
  ioMode := .noneSending
  sendQueue := []
  bufferCount := 0
  sendBufferStore := fun _ => none
  ioCount := 0
  isUsingSession := false
  registered := false
  mapLock := .unlocked
  releaseRequests := 0
  sendOutstanding := 0
  recvOutstanding := 0
  socketOpen := true
  shutdowns := 0
  enqueued := []
  posted := []
  freed := []
  released := 0
  dropped := false
  raisedAfterDrop := false

/-- Where each thread starts. -/
def initialPc {Io : Type} : Tid Io → Pc Buffer
  | .accept => .acceptIncrease
  | .logic => .logicIdle
  | .release => .releaseWait
  | .io _ => .ioWait

/-- The state of the machine. -/
abbrev State (Buffer : Type u) (Io : Type) :=
  ThreadTable.System (Session Buffer) (Tid Io) (Pc Buffer)

/-- The start: a created session, before the accept thread has set it up. -/
def initial (Buffer : Type u) (Io : Type) : State Buffer Io := ⟨initialSession Buffer, initialPc⟩

/-- One step of the machine. -/
def step {Io : Type} [DecidableEq Io] :
    State Buffer Io → Tid Io × Choice Buffer → Option (State Buffer Io) :=
  ThreadTable.threadStep act

end Machine

end ActorModelServer.SessionIo
