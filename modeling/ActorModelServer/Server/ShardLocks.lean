/-
**The mutexes of a shard.**

The code of one shard that takes `sessionMapMutex` or `releaseThreadsQueueMutex`, cut at every
acquisition and release: the three passes of a logic frame with the handlers that send packets,
`RunReleaseThread`, `InsertSession`, `FindSession` and `ReleaseSession`, on the logic thread, the
release thread, the accept thread and any number of IO threads. What a handler does, which
operations the kernel refuses, and whether an IO count reaches zero is left to a `Choice`. The
handlers look no session up, and `nonNetworkActorMapMutex` is left out.

* `act_moves` — everything a step can do; the facts about one step are case analyses on `Moves`.
* `not_deadlocked` — while every step keeps the order (`KeepsOrder`), the logic thread and the
  release thread never wait for each other.
* `deadlocked_of_not_keepsOrder` — the condition is exact. A step that breaks the order leaves the
  logic thread in `ReleaseSession`, under `sessionMapMutex`, waiting for a release thread that has
  a registered session to erase (`Doomed`); nothing ends this, and the release thread runs into it.
* `shard_deadlocked` — a send refused during a release is such a step.
-/

import ActorModelServer.Library.LockTable
import Mathlib.Data.Finset.Dedup
import Mathlib.Data.Finset.Insert
import Mathlib.Tactic.DeriveFintype

namespace ActorModelServer.ShardLocks

open ThreadTable (Mode Locking lockStep lockStep_moved)
open StepRuns (Reach Unguarded exists_reach_of_run exists_reach_of_runGuarded)

section Model

/-- `SessionIdType`. -/
abbrev SessionId := ℕ

/-- The mutexes of the shard. -/
inductive Mutex
  | sessionMapMutex
  | releaseThreadsQueueMutex
  deriving DecidableEq, Repr

/-- What the mutexes protect, and the release thread's event. -/
structure Shard where
  sessionMap : Finset SessionId
  releaseThreadsQueue : List SessionId
  releaseEvent : Bool

/-- The passes of a logic frame. -/
inductive Pass
  | preWake
  | onWake
  | postWake
  deriving DecidableEq, Repr

/-- Where `DoSend` and `DecreaseIOCount` return to. -/
inductive Return
  /- a handler of a session, and of a non-network actor -/
  | handler
  | nonNetworkHandler
  /- the accept thread, done and before its last `DecreaseIOCount` -/
  | accepted
  | acceptedReceiving (sessionId : SessionId)
  /- an IO thread, done, before its last `DecreaseIOCount`, and before its `DoSend` -/
  | completed
  | completedReceiving (sessionId : SessionId)
  | completedSending (sessionId : SessionId)
  deriving DecidableEq, Repr

/-- Where a thread is; a place that ends in `Lock` waits for a mutex. -/
inductive Place
  /- `RunLogicThread` -/
  | logicWait
  | passLock (pass : Pass)
  | inPass (pass : Pass)
  | nonNetworkOnTimer
  /- `DoSend`, `DecreaseIOCount` and `ReleaseSession` -/
  | doSend (sessionId : SessionId) (next : Return)
  | decreaseIOCount (sessionId : SessionId) (next : Return)
  | releaseSessionLock (sessionId : SessionId) (next : Return)
  | pushRequest (sessionId : SessionId) (next : Return)
  /- `RunReleaseThread`, with `FindSession`, `EraseSession` and `EraseAllSession` -/
  | releaseWait
  | drainLock
  | drain
  | targetLock (sessionId : SessionId)
  | findTarget (sessionId : SessionId)
  | eraseLock (sessionId : SessionId)
  | eraseSession (sessionId : SessionId)
  | onDisconnected
  | popRequest
  | eraseAllLock
  | eraseAllSession
  /- `RunAcceptThread`, with `InsertSession` and `DoRecv` -/
  | acceptWait
  | associate (sessionId : SessionId)
  | insertLock (sessionId : SessionId)
  | insertSession (sessionId : SessionId)
  | doRecv (sessionId : SessionId) (next : Return)
  /- `RunIoThread`, with `FindSession` and `OnIoCompleted` -/
  | ioWait
  | findLock (sessionId : SessionId)
  | findSession (sessionId : SessionId)
  | onIoCompleted (sessionId : SessionId)
  deriving DecidableEq, Repr

/-- What the code leaves to its surroundings. -/
inductive Choice
  | go
  /- `WaitForSingleObject` runs out, or one of the release thread's events is set -/
  | timeout
  | releaseEvent
  | stopEvent
  /- a handler sends a packet on a session; it has no more to do -/
  | sendPacket (sessionId : SessionId)
  | return
  /- the kernel takes an operation, or nothing is handed to it; it refuses the operation -/
  | accepted
  | refused
  /- an IO count reaches zero, or not -/
  | zero
  | positive
  /- a connection; a completion that failed, was a receive or was a send -/
  | accept (sessionId : SessionId)
  | completion (sessionId : SessionId)
  | failed
  | received
  | sent
  deriving DecidableEq, Repr

/-- The place a call returns to. -/
def Return.place : Return → Place
  | .handler => .inPass .onWake
  | .nonNetworkHandler => .nonNetworkOnTimer
  | .accepted => .acceptWait
  | .acceptedReceiving sessionId => .decreaseIOCount sessionId .accepted
  | .completed => .ioWait
  | .completedReceiving sessionId => .decreaseIOCount sessionId .completed
  | .completedSending sessionId => .doSend sessionId .completed

/-- The mode in which a caller holds `sessionMapMutex`. -/
def Return.map : Return → Option Mode
  | .handler => some .shared
  | _ => none

/-- How a place holds `sessionMapMutex`. -/
def Place.map : Place → Option Mode
  | .inPass _ => some .shared
  | .doSend _ next => next.map
  | .decreaseIOCount _ next => next.map
  | .releaseSessionLock _ next => next.map
  | .pushRequest _ next => next.map
  | .doRecv _ next => next.map
  | .findTarget _ => some .shared
  | .eraseSession _ => some .exclusive
  | .eraseAllSession => some .exclusive
  | .insertSession _ => some .exclusive
  | .findSession _ => some .shared
  | _ => none

/-- How a place holds `releaseThreadsQueueMutex`. -/
def Place.queue : Place → Option Mode
  | .pushRequest _ _ => some .exclusive
  | .drain => some .exclusive
  | .targetLock _ => some .exclusive
  | .findTarget _ => some .exclusive
  | .eraseLock _ => some .exclusive
  | .eraseSession _ => some .exclusive
  | .onDisconnected => some .exclusive
  | .popRequest => some .exclusive
  | _ => none

/-- The mutex a place waits for. -/
def Place.wanted : Place → Option (Mutex × Mode)
  | .passLock _ => some (.sessionMapMutex, .shared)
  | .releaseSessionLock _ _ => some (.releaseThreadsQueueMutex, .exclusive)
  | .drainLock => some (.releaseThreadsQueueMutex, .exclusive)
  | .targetLock _ => some (.sessionMapMutex, .shared)
  | .eraseLock _ => some (.sessionMapMutex, .exclusive)
  | .eraseAllLock => some (.sessionMapMutex, .exclusive)
  | .insertLock _ => some (.sessionMapMutex, .exclusive)
  | .findLock _ => some (.sessionMapMutex, .shared)
  | _ => none

/-- The use of the mutexes. -/
def locking : Locking Place Mutex where
  held := fun place mutex =>
    match mutex with
    | .sessionMapMutex => place.map
    | .releaseThreadsQueueMutex => place.queue
  wanted := Place.wanted

/-- One step of a thread that is not kept waiting. -/
def act (shard : Shard) (place : Place) (choice : Choice) : Option (Shard × Place) :=
  match place, choice with
  | .logicWait, .timeout => some (shard, .passLock .preWake)
  | .passLock pass, .go => some (shard, .inPass pass)
  | .inPass .preWake, .return => some (shard, .passLock .onWake)
  | .inPass .onWake, .sendPacket sessionId => some (shard, .doSend sessionId .handler)
  | .inPass .onWake, .return => some (shard, .nonNetworkOnTimer)
  | .inPass .postWake, .return => some (shard, .logicWait)
  | .nonNetworkOnTimer, .sendPacket sessionId =>
      some (shard, .doSend sessionId .nonNetworkHandler)
  | .nonNetworkOnTimer, .return => some (shard, .passLock .postWake)
  | .doSend _ next, .accepted => some (shard, next.place)
  | .doSend sessionId next, .refused => some (shard, .decreaseIOCount sessionId next)
  | .decreaseIOCount _ next, .positive => some (shard, next.place)
  | .decreaseIOCount sessionId next, .zero => some (shard, .releaseSessionLock sessionId next)
  | .releaseSessionLock sessionId next, .go => some (shard, .pushRequest sessionId next)
  | .pushRequest sessionId next, .go =>
      some ({ shard with
          releaseThreadsQueue := shard.releaseThreadsQueue ++ [sessionId]
          releaseEvent := true }, next.place)
  | .releaseWait, .releaseEvent =>
      if shard.releaseEvent = true then some ({ shard with releaseEvent := false }, .drainLock)
      else none
  | .releaseWait, .stopEvent => some (shard, .eraseAllLock)
  | .drainLock, .go => some (shard, .drain)
  | .drain, .go =>
      match shard.releaseThreadsQueue with
      | [] => some (shard, .releaseWait)
      | targetSessionId :: _ => some (shard, .targetLock targetSessionId)
  | .targetLock sessionId, .go => some (shard, .findTarget sessionId)
  | .findTarget sessionId, .go =>
      some (shard, if sessionId ∈ shard.sessionMap then .eraseLock sessionId else .popRequest)
  | .eraseLock sessionId, .go => some (shard, .eraseSession sessionId)
  | .eraseSession sessionId, .go =>
      some ({ shard with sessionMap := shard.sessionMap.erase sessionId }, .onDisconnected)
  | .onDisconnected, .go => some (shard, .popRequest)
  | .popRequest, .go =>
      some ({ shard with releaseThreadsQueue := shard.releaseThreadsQueue.tail }, .drain)
  | .eraseAllLock, .go => some (shard, .eraseAllSession)
  | .eraseAllSession, .go => some ({ shard with sessionMap := ∅ }, .releaseWait)
  | .acceptWait, .accept sessionId => some (shard, .associate sessionId)
  | .associate sessionId, .accepted => some (shard, .insertLock sessionId)
  | .associate sessionId, .refused => some (shard, .decreaseIOCount sessionId .accepted)
  | .insertLock sessionId, .go => some (shard, .insertSession sessionId)
  | .insertSession sessionId, .go =>
      some ({ shard with sessionMap := insert sessionId shard.sessionMap },
        .doRecv sessionId (.acceptedReceiving sessionId))
  | .doRecv _ next, .accepted => some (shard, next.place)
  | .doRecv sessionId next, .refused => some (shard, .decreaseIOCount sessionId next)
  | .ioWait, .completion sessionId => some (shard, .findLock sessionId)
  | .findLock sessionId, .go => some (shard, .findSession sessionId)
  | .findSession sessionId, .go =>
      some (shard, if sessionId ∈ shard.sessionMap then .onIoCompleted sessionId else .ioWait)
  | .onIoCompleted sessionId, .failed => some (shard, .decreaseIOCount sessionId .completed)
  | .onIoCompleted sessionId, .received =>
      some (shard, .doRecv sessionId (.completedReceiving sessionId))
  | .onIoCompleted sessionId, .sent =>
      some (shard, .decreaseIOCount sessionId (.completedSending sessionId))
  | _, _ => none

/-- The threads of the shard. -/
inductive Tid (Io : Type)
  | logic
  | release
  | accept
  | io (worker : Io)
  deriving DecidableEq, Fintype

/-- Where each thread starts. -/
def initialPlace {Io : Type} : Tid Io → Place
  | .logic => .logicWait
  | .release => .releaseWait
  | .accept => .acceptWait
  | .io _ => .ioWait

/-- The shard with its threads. -/
abbrev ShardState (Io : Type) := ThreadTable.System Shard (Tid Io) Place

/-- The start: no sessions, no requests. -/
def initialShard (Io : Type) : ShardState Io := ⟨⟨∅, [], false⟩, initialPlace⟩

variable {Io : Type} [Fintype Io] [DecidableEq Io]

/-- One step of the shard. -/
def shardStep : ShardState Io → Tid Io × Choice → Option (ShardState Io) := lockStep locking act

end Model

/-! ### What a step does -/

section Steps

/-- Whose code a place belongs to. -/
inductive Role
  | logic
  | release
  | accept
  | io
  deriving DecidableEq, Repr

def Return.role : Return → Role
  | .handler => .logic
  | .nonNetworkHandler => .logic
  | .accepted => .accept
  | .acceptedReceiving _ => .accept
  | .completed => .io
  | .completedReceiving _ => .io
  | .completedSending _ => .io

def Place.role : Place → Role
  | .logicWait => .logic
  | .passLock _ => .logic
  | .inPass _ => .logic
  | .nonNetworkOnTimer => .logic
  | .doSend _ next => next.role
  | .decreaseIOCount _ next => next.role
  | .releaseSessionLock _ next => next.role
  | .pushRequest _ next => next.role
  | .releaseWait => .release
  | .drainLock => .release
  | .drain => .release
  | .targetLock _ => .release
  | .findTarget _ => .release
  | .eraseLock _ => .release
  | .eraseSession _ => .release
  | .onDisconnected => .release
  | .popRequest => .release
  | .eraseAllLock => .release
  | .eraseAllSession => .release
  | .acceptWait => .accept
  | .associate _ => .accept
  | .insertLock _ => .accept
  | .insertSession _ => .accept
  | .doRecv _ next => next.role
  | .ioWait => .io
  | .findLock _ => .io
  | .findSession _ => .io
  | .onIoCompleted _ => .io

@[simp]
theorem Return.role_place (next : Return) : next.place.role = next.role := by
  cases next <;> rfl

@[simp]
theorem Return.map_place (next : Return) : next.place.map = next.map := by
  cases next <;> rfl

@[simp]
theorem Return.queue_place (next : Return) : next.place.queue = none := by
  cases next <;> rfl

/-- The release thread makes no calls. -/
theorem Return.role_ne_release (next : Return) : next.role ≠ .release := by
  cases next <;> exact Role.noConfusion

/-- The request the release thread works on, up to its erasure. -/
def Place.target : Place → Option SessionId
  | .targetLock sessionId => some sessionId
  | .findTarget sessionId => some sessionId
  | .eraseLock sessionId => some sessionId
  | _ => none

@[simp]
theorem Return.target_place (next : Return) : next.place.target = none := by
  cases next <;> rfl

/-- The release thread works on the front of the queue, and erases what it found. -/
structure Aimed (shard : Shard) (place : Place) : Prop where
  front : ∀ sessionId, place.target = some sessionId →
    shard.releaseThreadsQueue.head? = some sessionId
  found : ∀ sessionId, place = .eraseLock sessionId → sessionId ∈ shard.sessionMap

/-- The requests whose sessions the release thread has still to look up. -/
def unresolved (shard : Shard) : Place → List SessionId
  | .onDisconnected => shard.releaseThreadsQueue.tail
  | .popRequest => shard.releaseThreadsQueue.tail
  | _ => shard.releaseThreadsQueue

/-- One of them names a registered session. -/
def NamesRegistered (shard : Shard) (place : Place) : Prop :=
  ∃ sessionId ∈ unresolved shard place, sessionId ∈ shard.sessionMap

instance (shard : Shard) (place : Place) : Decidable (NamesRegistered shard place) :=
  inferInstanceAs (Decidable (∃ _ ∈ _, _))

variable {shard shard' : Shard} {place place' : Place} {choice : Choice}

/-- The branches of `act`. -/
inductive Moves (shard : Shard) : Place → Choice → Shard → Place → Prop
  | woken : Moves shard .logicWait .timeout shard (.passLock .preWake)
  | passLocked (pass : Pass) : Moves shard (.passLock pass) .go shard (.inPass pass)
  | preWoken : Moves shard (.inPass .preWake) .return shard (.passLock .onWake)
  | handlerSends (sessionId : SessionId) :
      Moves shard (.inPass .onWake) (.sendPacket sessionId) shard (.doSend sessionId .handler)
  | handled : Moves shard (.inPass .onWake) .return shard .nonNetworkOnTimer
  | postWoken : Moves shard (.inPass .postWake) .return shard .logicWait
  | nonNetworkSends (sessionId : SessionId) :
      Moves shard .nonNetworkOnTimer (.sendPacket sessionId) shard
        (.doSend sessionId .nonNetworkHandler)
  | nonNetworkHandled : Moves shard .nonNetworkOnTimer .return shard (.passLock .postWake)
  | sent (sessionId : SessionId) (next : Return) :
      Moves shard (.doSend sessionId next) .accepted shard next.place
  | sendRefused (sessionId : SessionId) (next : Return) :
      Moves shard (.doSend sessionId next) .refused shard (.decreaseIOCount sessionId next)
  | decreased (sessionId : SessionId) (next : Return) :
      Moves shard (.decreaseIOCount sessionId next) .positive shard next.place
  | dropped (sessionId : SessionId) (next : Return) :
      Moves shard (.decreaseIOCount sessionId next) .zero shard (.releaseSessionLock sessionId next)
  | releaseLocked (sessionId : SessionId) (next : Return) :
      Moves shard (.releaseSessionLock sessionId next) .go shard (.pushRequest sessionId next)
  | requested (sessionId : SessionId) (next : Return) :
      Moves shard (.pushRequest sessionId next) .go
        { shard with
          releaseThreadsQueue := shard.releaseThreadsQueue ++ [sessionId]
          releaseEvent := true } next.place
  | releaseWoken (event : shard.releaseEvent = true) :
      Moves shard .releaseWait .releaseEvent { shard with releaseEvent := false } .drainLock
  | stopped : Moves shard .releaseWait .stopEvent shard .eraseAllLock
  | drainLocked : Moves shard .drainLock .go shard .drain
  | drained (empty : shard.releaseThreadsQueue = []) : Moves shard .drain .go shard .releaseWait
  | targeted (targetSessionId : SessionId) (rest : List SessionId)
      (front : shard.releaseThreadsQueue = targetSessionId :: rest) :
      Moves shard .drain .go shard (.targetLock targetSessionId)
  | targetLocked (sessionId : SessionId) :
      Moves shard (.targetLock sessionId) .go shard (.findTarget sessionId)
  | targetFound (sessionId : SessionId) (found : sessionId ∈ shard.sessionMap) :
      Moves shard (.findTarget sessionId) .go shard (.eraseLock sessionId)
  | targetGone (sessionId : SessionId) (gone : sessionId ∉ shard.sessionMap) :
      Moves shard (.findTarget sessionId) .go shard .popRequest
  | eraseLocked (sessionId : SessionId) :
      Moves shard (.eraseLock sessionId) .go shard (.eraseSession sessionId)
  | erased (sessionId : SessionId) :
      Moves shard (.eraseSession sessionId) .go
        { shard with sessionMap := shard.sessionMap.erase sessionId } .onDisconnected
  | disconnected : Moves shard .onDisconnected .go shard .popRequest
  | popped :
      Moves shard .popRequest .go
        { shard with releaseThreadsQueue := shard.releaseThreadsQueue.tail } .drain
  | eraseAllLocked : Moves shard .eraseAllLock .go shard .eraseAllSession
  | allErased :
      Moves shard .eraseAllSession .go { shard with sessionMap := ∅ } .releaseWait
  | accepted (sessionId : SessionId) :
      Moves shard .acceptWait (.accept sessionId) shard (.associate sessionId)
  | associated (sessionId : SessionId) :
      Moves shard (.associate sessionId) .accepted shard (.insertLock sessionId)
  | associateRefused (sessionId : SessionId) :
      Moves shard (.associate sessionId) .refused shard (.decreaseIOCount sessionId .accepted)
  | insertLocked (sessionId : SessionId) :
      Moves shard (.insertLock sessionId) .go shard (.insertSession sessionId)
  | inserted (sessionId : SessionId) :
      Moves shard (.insertSession sessionId) .go
        { shard with sessionMap := insert sessionId shard.sessionMap }
        (.doRecv sessionId (.acceptedReceiving sessionId))
  | receives (sessionId : SessionId) (next : Return) :
      Moves shard (.doRecv sessionId next) .accepted shard next.place
  | recvRefused (sessionId : SessionId) (next : Return) :
      Moves shard (.doRecv sessionId next) .refused shard (.decreaseIOCount sessionId next)
  | completed (sessionId : SessionId) :
      Moves shard .ioWait (.completion sessionId) shard (.findLock sessionId)
  | findLocked (sessionId : SessionId) :
      Moves shard (.findLock sessionId) .go shard (.findSession sessionId)
  | sessionFound (sessionId : SessionId) (found : sessionId ∈ shard.sessionMap) :
      Moves shard (.findSession sessionId) .go shard (.onIoCompleted sessionId)
  | sessionGone (sessionId : SessionId) (gone : sessionId ∉ shard.sessionMap) :
      Moves shard (.findSession sessionId) .go shard .ioWait
  | ioFailed (sessionId : SessionId) :
      Moves shard (.onIoCompleted sessionId) .failed shard (.decreaseIOCount sessionId .completed)
  | ioReceived (sessionId : SessionId) :
      Moves shard (.onIoCompleted sessionId) .received shard
        (.doRecv sessionId (.completedReceiving sessionId))
  | ioSent (sessionId : SessionId) :
      Moves shard (.onIoCompleted sessionId) .sent shard
        (.decreaseIOCount sessionId (.completedSending sessionId))

/-- **Inversion of a step**: it is one of the branches. -/
theorem act_moves (acted : act shard place choice = some (shard', place')) :
    Moves shard place choice shard' place' := by
  revert acted
  fun_cases act shard place choice
  all_goals intro acted
  all_goals simp only [Option.some.injEq, Prod.mk.injEq, reduceCtorEq] at acted
  all_goals obtain ⟨rfl, rfl⟩ := acted
  case case20 targetSessionId rest front => exact .targeted targetSessionId rest front
  case case22 sessionId =>
    split
    · exact .targetFound sessionId ‹_›
    · exact .targetGone sessionId ‹_›
  case case38 sessionId =>
    split
    · exact .sessionFound sessionId ‹_›
    · exact .sessionGone sessionId ‹_›
  all_goals constructor <;> assumption

/-- A thread keeps to its own code. -/
theorem act_role (acted : act shard place choice = some (shard', place')) :
    place'.role = place.role := by
  cases act_moves acted <;> first | rfl | exact Return.role_place _

theorem act_gains (acted : act shard place choice = some (shard', place')) :
    locking.GainsWanted place place' := by
  have moves := act_moves acted
  intro mutex mode holds
  cases mutex <;> simp only [locking] at holds ⊢ <;> cases moves
  all_goals first
    -- the next place holds what this one holds, nothing, or what this one waits for
    | exact .inl holds
    | (simp only [Place.map, Place.queue, reduceCtorEq] at holds; done)
    | grind [Place.map, Place.queue, Place.wanted, Return.map, Return.map_place,
        Return.queue_place]

theorem act_aimed (aimed : Aimed shard place)
    (acted : act shard place choice = some (shard', place')) : Aimed shard' place' := by
  obtain ⟨front, found⟩ := aimed
  have moves := act_moves acted
  constructor
  · intro sessionId target
    cases moves <;> grind [Place.target, Return.target_place, List.head?_cons]
  · intro sessionId erases
    cases moves <;> grind [Place.target, Return.target_place]

/-- The requests and the registered sessions grow under their mutexes, and shrink by the release
thread only. -/
theorem act_others (acted : act shard place choice = some (shard', place'))
    (other : place.role ≠ .release) :
    (shard'.releaseThreadsQueue = shard.releaseThreadsQueue ∨ place.queue = some .exclusive ∧
        ∃ sessionId, shard'.releaseThreadsQueue = shard.releaseThreadsQueue ++ [sessionId]) ∧
      (shard'.sessionMap = shard.sessionMap ∨ place.map = some .exclusive ∧
        ∃ sessionId, shard'.sessionMap = insert sessionId shard.sessionMap) := by
  cases act_moves acted <;> grind [Place.role, Place.queue, Place.map]

/-- The release thread names no further session. -/
theorem act_release (acted : act shard place choice = some (shard', place'))
    (release : place.role = .release) (names : NamesRegistered shard' place') :
    NamesRegistered shard place := by
  obtain ⟨sessionId, member, registered⟩ := names
  refine ⟨sessionId, ?_⟩
  cases act_moves acted <;>
    grind [unresolved, Place.role, Return.role_ne_release, List.mem_of_mem_tail,
      Finset.mem_of_mem_erase]

/-- The one way into `ReleaseSession`. -/
theorem act_waits {sessionId : SessionId} {next : Return}
    (acted : act shard place choice = some (shard', .releaseSessionLock sessionId next)) :
    place = .decreaseIOCount sessionId next ∧ choice = .zero ∧ shard' = shard := by
  have elsewhere (other : Return) : other.place ≠ .releaseSessionLock sessionId next := by
    cases other <;> exact Place.noConfusion
  have moves := act_moves acted
  generalize waits : Place.releaseSessionLock sessionId next = place' at moves
  cases moves <;> grind

/-- How many steps the release thread can take with the queue, before it erases a session. -/
def stepsLeft (shard : Shard) (place : Place) : ℕ :=
  6 * (unresolved shard place).length +
    match place with
    | .onDisconnected => 5
    | .popRequest => 4
    | .drain => 3
    | .targetLock _ => 2
    | .findTarget _ => 1
    | _ => 0

/-- With the queue in its hands and a registered session to look up, the release thread goes on
looking up until it wants to erase one. -/
theorem act_drains (release : place.role = .release) (drains : place.queue = some .exclusive)
    (names : NamesRegistered shard place) (aimed : Aimed shard place)
    (unerasing : place.map ≠ some .exclusive)
    (searching : ∀ sessionId, place ≠ .eraseLock sessionId) :
    ∃ shard' place', act shard place .go = some (shard', place') ∧
      place'.queue = some .exclusive ∧ NamesRegistered shard' place' ∧
      stepsLeft shard' place' < stepsLeft shard place := by
  obtain ⟨sessionId, member, registered⟩ := names
  cases place with
  | drain =>
      change sessionId ∈ shard.releaseThreadsQueue at member
      obtain ⟨front, rest, queue⟩ := List.exists_cons_of_ne_nil (List.ne_nil_of_mem member)
      refine ⟨shard, .targetLock front, by simp [act, queue], rfl,
        ⟨sessionId, member, registered⟩, ?_⟩
      simp [stepsLeft, unresolved]
  | targetLock target =>
      refine ⟨shard, .findTarget target, rfl, rfl, ⟨sessionId, member, registered⟩, ?_⟩
      simp [stepsLeft, unresolved]
  | findTarget target =>
      have front := aimed.front target rfl
      obtain ⟨rest, queue⟩ := List.head?_eq_some_iff.mp front
      by_cases found : target ∈ shard.sessionMap
      · refine ⟨shard, .eraseLock target, by simp [act, found], rfl,
          ⟨sessionId, member, registered⟩, ?_⟩
        simp [stepsLeft, unresolved]
      · refine ⟨shard, .popRequest, by simp [act, found], rfl, ⟨sessionId, ?_, registered⟩, ?_⟩
        · change sessionId ∈ shard.releaseThreadsQueue at member
          change sessionId ∈ shard.releaseThreadsQueue.tail
          rw [queue, List.mem_cons] at member
          rw [queue]
          exact member.resolve_left fun same => found (same ▸ registered)
        · simp only [stepsLeft, unresolved, queue, List.tail_cons, List.length_cons]
          omega
  | onDisconnected =>
      refine ⟨shard, .popRequest, rfl, rfl, ⟨sessionId, member, registered⟩, ?_⟩
      simp [stepsLeft, unresolved]
  | popRequest =>
      refine ⟨_, .drain, rfl, rfl, ⟨sessionId, member, registered⟩, ?_⟩
      simp [stepsLeft, unresolved]
  | eraseLock target => exact absurd rfl (searching target)
  | eraseSession target => exact absurd rfl unerasing
  | pushRequest target next => exact absurd release next.role_ne_release
  | _ => cases drains

/-- The one thing a thread does at a place of the release thread's drain is to go on. -/
theorem choice_of_drains {shard shard' : Shard} {place place' : Place} {choice : Choice}
    (release : place.role = .release) (drains : place.queue = some .exclusive)
    (acted : act shard place choice = some (shard', place')) : choice = .go := by
  cases act_moves acted <;> grind [Place.role, Place.queue, Return.role_ne_release]

end Steps

/-! ### The order of the mutexes -/

section Order

variable {Io : Type}

/-- Whose code a thread runs. -/
def Tid.role : Tid Io → Role
  | .logic => .logic
  | .release => .release
  | .accept => .accept
  | .io _ => .io

/-- What holds in every run of the shard. -/
structure Sound (state : ShardState Io) : Prop where
  placed : ∀ thread, (state.pc thread).role = thread.role
  excluded : locking.Excluded state.pc
  aimed : Aimed state.shared (state.pc .release)

/-- **The logic thread waits in `ReleaseSession`, under `sessionMapMutex`, for a release thread that
will want to erase a session.** -/
structure Doomed (state : ShardState Io) : Prop where
  waits : ∃ sessionId, state.pc .logic = .releaseSessionLock sessionId .handler
  drains : (state.pc .release).queue = some .exclusive
  names : NamesRegistered state.shared (state.pc .release)

theorem sound_initial : Sound (initialShard Io) where
  placed := fun thread => by cases thread <;> rfl
  excluded := fun first second _ mutex mode other holds => by
    cases first <;> cases mutex <;> cases holds
  aimed := ⟨fun _ target => (by cases target), fun _ => Place.noConfusion⟩

variable {state after : ShardState Io} {label : Tid Io × Choice}

/-- Where the release thread waits with a mutex in its hands. -/
theorem place_of_release {place : Place} (release : place.role = .release)
    (waits : place.wanted.isSome) (holds : ∃ mutex mode, locking.held place mutex = some mode) :
    (∃ sessionId, place = .targetLock sessionId) ∨ ∃ sessionId, place = .eraseLock sessionId := by
  obtain ⟨mutex, mode, holds⟩ := holds
  cases place <;> cases mutex <;> simp [Place.role, Return.role_ne_release] at release <;>
    simp [locking, Place.wanted, Place.map, Place.queue] at waits holds ⊢

/-- Where the logic thread waits for the queue under `sessionMapMutex`. -/
theorem place_of_logic {place : Place} (logic : place.role = .logic) {mode : Mode}
    (holds : place.map = some mode) :
    mode = .shared ∧ ∀ wanted, place.wanted = some (.releaseThreadsQueueMutex, wanted) →
      ∃ sessionId, place = .releaseSessionLock sessionId .handler := by
  cases place <;> grind [Place.role, Place.map, Place.wanted, Return.role, Return.map]

/-- The places where the logic thread and the release thread wait for each other. -/
theorem Sound.deadlocked (sound : Sound state)
    (deadlocked : locking.Deadlocked (state.pc .logic) (state.pc .release)) :
    (∃ sessionId, state.pc .logic = .releaseSessionLock sessionId .handler) ∧
      ∃ sessionId, state.pc .release = .eraseLock sessionId := by
  have logic := sound.placed .logic
  have release := sound.placed .release
  obtain ⟨waits, keeps⟩ := deadlocked
  obtain ⟨mutex, mode, held, wants, holds, -⟩ := Locking.blocks_iff.mp waits
  obtain ⟨mutex', mode', held', wants', holds', conflict⟩ := Locking.blocks_iff.mp keeps
  rcases place_of_release release (Option.isSome_of_eq_some wants') ⟨mutex, held, holds⟩ with
    ⟨sessionId, place⟩ | ⟨sessionId, place⟩
  · rw [place] at wants'
    cases wants'
    rw [(place_of_logic logic holds').1] at conflict
    cases conflict
  · rw [place] at wants' holds
    cases wants'
    cases mutex with
    | sessionMapMutex => cases holds
    | releaseThreadsQueueMutex =>
        exact ⟨(place_of_logic logic holds').2 mode wants, sessionId, place⟩

/-- **A deadlock of the two threads is a doomed state.** -/
theorem Sound.doomed_of_deadlocked (sound : Sound state)
    (deadlocked : locking.Deadlocked (state.pc .logic) (state.pc .release)) : Doomed state := by
  obtain ⟨waits, sessionId, erases⟩ := sound.deadlocked deadlocked
  have aimed := sound.aimed
  rw [erases] at aimed
  refine ⟨waits, by rw [erases]; rfl, sessionId, ?_, aimed.found sessionId rfl⟩
  rw [erases]
  exact List.mem_of_head? (aimed.front sessionId rfl)

/-- The step does not bring the logic thread, under `sessionMapMutex`, to `ReleaseSession` while
the release thread holds the queue with a registered session to look up, and does not give the
release thread such a queue while the logic thread waits there. -/
def KeepsOrder (state : ShardState Io) (label : Tid Io × Choice) : Prop :=
  match label.1, state.pc .logic with
  | .logic, .decreaseIOCount _ .handler =>
      label.2 = .zero → (state.pc .release).queue = some .exclusive →
        ¬ NamesRegistered state.shared (state.pc .release)
  | .release, .releaseSessionLock _ .handler =>
      state.pc .release = .drainLock → ¬ NamesRegistered state.shared (state.pc .release)
  | _, _ => True

instance (state : ShardState Io) (label : Tid Io × Choice) :
    Decidable (KeepsOrder state label) := by
  unfold KeepsOrder
  split <;> infer_instance

/-- While the logic thread waits under `sessionMapMutex` and the release thread holds the queue,
no other thread adds a request or a session. -/
theorem Sound.act_others_names {shard' : Shard} {place' : Place} (sound : Sound state)
    {sessionId : SessionId} (waits : state.pc .logic = .releaseSessionLock sessionId .handler)
    (drains : (state.pc .release).queue = some .exclusive) {mover : Tid Io} {choice : Choice}
    (logic : mover ≠ .logic) (release : mover ≠ .release)
    (acted : act state.shared (state.pc mover) choice = some (shard', place')) :
    NamesRegistered shard' (state.pc .release) ↔
      NamesRegistered state.shared (state.pc .release) := by
  have foreign : (state.pc mover).role ≠ .release := by
    rw [sound.placed]
    cases mover <;> simp_all [Tid.role]
  obtain ⟨queue, map⟩ := act_others acted foreign
  have sameQueue : shard'.releaseThreadsQueue = state.shared.releaseThreadsQueue := by
    rcases queue with kept | ⟨pushes, -⟩
    · exact kept
    · cases sound.excluded mover .release release .releaseThreadsQueueMutex _ _ pushes drains
  have sameMap : shard'.sessionMap = state.shared.sessionMap := by
    rcases map with kept | ⟨inserts, -⟩
    · exact kept
    · have reads : (state.pc .logic).map = some .shared := by
        rw [waits]
        rfl
      cases sound.excluded mover .logic logic .sessionMapMutex _ _ inserts reads
  unfold NamesRegistered unresolved
  rw [sameQueue, sameMap]

/-- In a doomed state the logic thread is kept waiting. -/
theorem Doomed.blocks (doomed : Doomed state) :
    locking.blocks (state.pc .release) (state.pc .logic) = true := by
  obtain ⟨sessionId, waits⟩ := doomed.waits
  exact Locking.blocks_iff.mpr ⟨.releaseThreadsQueueMutex, .exclusive, .exclusive,
    by rw [waits]; rfl, doomed.drains, rfl⟩

/-- In a doomed state the logic thread holds `sessionMapMutex`. -/
theorem Doomed.reads (doomed : Doomed state) : (state.pc .logic).map = some .shared := by
  obtain ⟨sessionId, waits⟩ := doomed.waits
  rw [waits]
  rfl

/-- In a doomed state nobody holds `sessionMapMutex` exclusively. -/
theorem Sound.unerasing (sound : Sound state) (doomed : Doomed state) (thread : Tid Io) :
    (state.pc thread).map ≠ some .exclusive := by
  intro erases
  by_cases logic : thread = .logic
  · rw [logic, doomed.reads] at erases
    cases erases
  · cases sound.excluded thread .logic logic .sessionMapMutex _ _ erases doomed.reads

/-- In a doomed state the release thread moves until it wants to erase a session. -/
theorem Sound.free_release (sound : Sound state) (doomed : Doomed state)
    (searching : ∀ target, state.pc .release ≠ .eraseLock target) :
    locking.Free state.pc .release := by
  intro other _
  by_contra blocks
  obtain ⟨mutex, mode, held, wants, holds, conflict⟩ :=
    Locking.blocks_iff.mp (Bool.eq_true_of_not_eq_false blocks)
  rcases place_of_release (sound.placed .release) (Option.isSome_of_eq_some wants)
    ⟨.releaseThreadsQueueMutex, _, doomed.drains⟩ with ⟨target, place⟩ | ⟨target, place⟩
  · rw [place] at wants
    cases wants
    cases held with
    | shared => cases conflict
    | exclusive => exact sound.unerasing doomed other holds
  · exact searching target place

variable [Fintype Io] [DecidableEq Io]

/-- **Every step keeps the shard sound.** -/
theorem Sound.step (sound : Sound state) (taken : shardStep state label = some after) :
    Sound after := by
  obtain ⟨free, acted, others⟩ := lockStep_moved taken
  refine ⟨fun thread => ?_, sound.excluded.step free (act_gains acted) others, ?_⟩
  · by_cases same : thread = label.1
    · subst same
      rw [act_role acted]
      exact sound.placed _
    · rw [others thread same]
      exact sound.placed thread
  · by_cases same : label.1 = .release
    · rw [same] at acted
      exact act_aimed sound.aimed acted
    · rw [others _ (Ne.symm same)]
      have foreign : (state.pc label.1).role ≠ .release := by
        rw [sound.placed]
        cases mover : label.1 <;> simp_all [Tid.role]
      obtain ⟨queue, map⟩ := act_others acted foreign
      constructor
      · intro sessionId target
        have front := sound.aimed.front sessionId target
        rcases queue with kept | ⟨-, pushed, grown⟩
        · rwa [kept]
        · rw [grown, List.head?_append, front]
          rfl
      · intro sessionId erases
        have found := sound.aimed.found sessionId erases
        rcases map with kept | ⟨-, inserted, grown⟩
        · rwa [kept]
        · rw [grown]
          exact Finset.mem_insert_of_mem found

/-- **A step that keeps the order dooms nobody.** -/
theorem Sound.not_doomed_step (sound : Sound state) (undoomed : ¬ Doomed state)
    (allowed : KeepsOrder state label) (taken : shardStep state label = some after) :
    ¬ Doomed after := by
  obtain ⟨-, acted, others⟩ := lockStep_moved taken
  rintro ⟨⟨sessionId, waits⟩, drains, names⟩
  by_cases logic : label.1 = .logic
  · rw [logic, waits] at acted
    obtain ⟨place, zero, same⟩ := act_waits acted
    rw [others .release (by simp [logic])] at drains names
    rw [same] at names
    simp only [KeepsOrder, logic, place] at allowed
    exact allowed zero drains names
  by_cases release : label.1 = .release
  · rw [others .logic (by simp [release])] at waits
    rw [release] at acted
    have before := act_release acted (sound.placed .release) names
    rcases act_gains acted .releaseThreadsQueueMutex _ drains with kept | wanted
    · exact undoomed ⟨⟨sessionId, waits⟩, kept, before⟩
    · have place : state.pc .release = .drainLock := by
        have own := sound.placed .release
        generalize state.pc .release = place at wanted own
        cases place <;> simp [locking, Place.wanted] at wanted <;>
          simp [Place.role, Tid.role, Return.role_ne_release] at own ⊢
      simp only [KeepsOrder, release, waits] at allowed
      exact allowed place before
  · rw [others .logic (Ne.symm logic)] at waits
    rw [others .release (Ne.symm release)] at drains names
    exact undoomed ⟨⟨sessionId, waits⟩, drains,
      (sound.act_others_names waits drains logic release acted).mp names⟩

/-- **No deadlock.** While every step keeps the order, the logic thread and the release thread
never wait for each other. -/
theorem not_deadlocked (reached : Reach shardStep KeepsOrder (initialShard Io) state) :
    ¬ locking.Deadlocked (state.pc .logic) (state.pc .release) := by
  have both : Sound state ∧ ¬ Doomed state := by
    refine reached.invariant (fun state => Sound state ∧ ¬ Doomed state) ⟨sound_initial, ?_⟩ ?_
    · rintro ⟨⟨sessionId, waits⟩, -, -⟩
      cases waits
    · rintro before label after ⟨sound, undoomed⟩ allowed taken
      exact ⟨sound.step taken, sound.not_doomed_step undoomed allowed taken⟩
  exact fun deadlocked => both.2 (both.1.doomed_of_deadlocked deadlocked)

/-! ### Without the order -/

/-- **Nothing ends a doomed state.** -/
theorem Sound.doomed_step (sound : Sound state) (doomed : Doomed state)
    (taken : shardStep state label = some after) : Doomed after := by
  obtain ⟨free, acted, others⟩ := lockStep_moved taken
  by_cases logic : label.1 = .logic
  · rw [logic] at free
    have blocks := doomed.blocks
    rw [free .release (by simp)] at blocks
    cases blocks
  obtain ⟨sessionId, waits⟩ := doomed.waits
  have waits' := (others .logic (Ne.symm logic)).trans waits
  by_cases release : label.1 = .release
  · rw [release] at acted free
    have searching (target : SessionId) : state.pc .release ≠ .eraseLock target := by
      intro erases
      have blocks : locking.blocks (state.pc .logic) (state.pc .release) = true :=
        Locking.blocks_iff.mpr ⟨.sessionMapMutex, .exclusive, .shared, by rw [erases]; rfl,
          doomed.reads, rfl⟩
      rw [free .logic (by simp)] at blocks
      cases blocks
    obtain ⟨shard', place', went, drains, names, -⟩ := act_drains (sound.placed .release)
      doomed.drains doomed.names sound.aimed (sound.unerasing doomed _) searching
    rw [choice_of_drains (sound.placed .release) doomed.drains acted, went] at acted
    obtain ⟨rfl, rfl⟩ := Prod.mk.inj (Option.some.inj acted)
    exact ⟨⟨sessionId, waits'⟩, drains, names⟩
  · refine ⟨⟨sessionId, waits'⟩, ?_, ?_⟩
    · rw [others .release (Ne.symm release)]
      exact doomed.drains
    · rw [others .release (Ne.symm release)]
      exact (sound.act_others_names waits doomed.drains logic release acted).mpr doomed.names

/-- **A doomed state leads to a deadlock**, by the steps of the release thread alone. -/
theorem Sound.deadlocks (sound : Sound state) (doomed : Doomed state) :
    ∃ later, Reach shardStep Unguarded state later ∧
      locking.Deadlocked (later.pc .logic) (later.pc .release) := by
  induction left : stepsLeft state.shared (state.pc .release) using Nat.strong_induction_on
    generalizing state with
  | _ left ih =>
      by_cases searching : ∃ target, state.pc .release = .eraseLock target
      · obtain ⟨target, erases⟩ := searching
        exact ⟨state, .start, doomed.blocks, Locking.blocks_iff.mpr ⟨.sessionMapMutex, .exclusive,
          .shared, by rw [erases]; rfl, doomed.reads, rfl⟩⟩
      · have searching := not_exists.mp searching
        obtain ⟨shard', place', acted, -, -, fewer⟩ := act_drains (sound.placed .release)
          doomed.drains doomed.names sound.aimed (sound.unerasing doomed _) searching
        have taken : shardStep state (.release, .go) = some
            ⟨shard', Function.update state.pc .release place'⟩ :=
          ThreadTable.lockStep_of_free (sound.free_release doomed searching) acted
        obtain ⟨later, reached, deadlocked⟩ := ih _ (by simpa [← left] using fewer)
          (sound.step taken) (sound.doomed_step doomed taken) rfl
        exact ⟨later, (Reach.start.step trivial taken).trans reached, deadlocked⟩

/-- **A step that breaks the order dooms the two threads.** -/
theorem doomed_of_not_keepsOrder (broken : ¬ KeepsOrder state label)
    (taken : shardStep state label = some after) : Doomed after := by
  obtain ⟨-, acted, others⟩ := lockStep_moved taken
  unfold KeepsOrder at broken
  split at broken
  · rename_i sessionId mover place
    push Not at broken
    obtain ⟨zero, drains, names⟩ := broken
    rw [mover] at acted others
    rw [place, zero] at acted
    obtain ⟨shared, waits⟩ := Prod.mk.inj (Option.some.inj acted)
    have same := others .release (by simp)
    exact ⟨⟨sessionId, waits.symm⟩, by rwa [same], by rwa [← shared, same]⟩
  · rename_i sessionId mover waits
    push Not at broken
    obtain ⟨place, names⟩ := broken
    rw [mover] at acted others
    rw [place] at acted names
    cases choice : label.2 with
    | go =>
        rw [choice] at acted
        obtain ⟨shared, drains⟩ := Prod.mk.inj (Option.some.inj acted)
        refine ⟨⟨sessionId, (others .logic (by simp)).trans waits⟩, by rw [← drains]; rfl, ?_⟩
        rw [← shared, ← drains]
        exact names
    | _ =>
        rw [choice] at acted
        cases acted
  · exact absurd trivial broken

/-- **The order is needed**: a run with a step that breaks it goes on to a deadlock. -/
theorem deadlocked_of_not_keepsOrder
    (reached : Reach shardStep Unguarded (initialShard Io) state)
    (broken : ¬ KeepsOrder state label) (taken : shardStep state label = some after) :
    ∃ later, Reach shardStep Unguarded (initialShard Io) later ∧
      locking.Deadlocked (later.pc .logic) (later.pc .release) := by
  have sound : Sound after := (reached.step trivial taken).invariant Sound sound_initial
    fun _ _ _ sound _ taken => sound.step taken
  obtain ⟨later, goes, deadlocked⟩ := sound.deadlocks (doomed_of_not_keepsOrder broken taken)
  exact ⟨later, (reached.step trivial taken).trans goes, deadlocked⟩

/-- A session is accepted; its first receive is posted. -/
def accepts (sessionId : SessionId) : List (Tid (Fin 1) × Choice) :=
  [(.accept, .accept sessionId), (.accept, .accepted), (.accept, .go), (.accept, .go),
    (.accept, .accepted), (.accept, .positive)]

/-- A failed completion releases a session. -/
def releases (sessionId : SessionId) : List (Tid (Fin 1) × Choice) :=
  [(.io 0, .completion sessionId), (.io 0, .go), (.io 0, .go), (.io 0, .failed), (.io 0, .zero),
    (.io 0, .go), (.io 0, .go)]

/-- A logic frame, up to a handler whose send is refused and takes the IO count to zero. -/
def sends (sessionId : SessionId) : List (Tid (Fin 1) × Choice) :=
  [(.logic, .timeout), (.logic, .go), (.logic, .return), (.logic, .go),
    (.logic, .sendPacket sessionId), (.logic, .refused), (.logic, .zero)]

/-- The release thread takes a queue that names a session no more, while a handler waits for it. -/
def staleSchedule : List (Tid (Fin 1) × Choice) :=
  List.flatten [accepts 1, accepts 2, releases 1, [(.io 0, .completion 2)],
    [(.release, .releaseEvent), (.release, .go), (.release, .go), (.release, .go), (.release, .go),
      (.release, .go), (.release, .go), (.release, .go)], sends 2]

theorem not_deadlocked_stale : ∃ state : ShardState (Fin 1),
    Reach shardStep KeepsOrder (initialShard (Fin 1)) state ∧
      state.pc .logic = .releaseSessionLock 2 .handler ∧
      (state.pc .release).queue = some .exclusive ∧
      ¬ locking.Deadlocked (state.pc .logic) (state.pc .release) := by
  obtain ⟨state, reached, test⟩ := exists_reach_of_runGuarded shardStep KeepsOrder
    (initialShard (Fin 1)) staleSchedule
    (fun state => decide (state.pc .logic = .releaseSessionLock 2 .handler ∧
      (state.pc .release).queue = some .exclusive)) (by decide +kernel)
  obtain ⟨waits, drains⟩ := of_decide_eq_true test
  exact ⟨state, reached, waits, drains, not_deadlocked reached⟩

/-- The release thread has found a session, and wants to erase it, when the handler's send fails. -/
def refusedSchedule : List (Tid (Fin 1) × Choice) :=
  List.flatten [accepts 1, accepts 2, releases 1,
    [(.release, .releaseEvent), (.release, .go), (.release, .go), (.release, .go), (.release, .go)],
    sends 2]

/-- **A refused send during a drain is a deadlock.** -/
theorem shard_deadlocked : ¬ ∀ state : ShardState (Fin 1),
    Reach shardStep Unguarded (initialShard (Fin 1)) state →
      ¬ locking.Deadlocked (state.pc .logic) (state.pc .release) := by
  intro never
  obtain ⟨state, reached, test⟩ := exists_reach_of_run shardStep (initialShard (Fin 1))
    refusedSchedule (fun state => decide
      (locking.Deadlocked (state.pc .logic) (state.pc .release))) (by decide +kernel)
  exact never state reached (of_decide_eq_true test)

end Order

end ActorModelServer.ShardLocks
