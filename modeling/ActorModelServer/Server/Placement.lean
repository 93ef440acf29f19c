/-
**Where actors are placed while the server starts.**

An actor computes its shard when it is constructed, as its id modulo `numOfLogicThread`; that field
is zero until `OptionParsing` reads LOGIC_THREAD, and the vectors of the shards grow in
`InitThreads`. Here calls that construct, create, register and look for actors come between any two
steps of a `StartServer` that may fail at each of them.

* `Op.Allowed` — the divisor is not zero, and `InitThreads` has appended what the call indexes.
* `placement_iff` — nothing goes wrong in a run exactly when every step of it is allowed.
* `allowed_of_initThreads` — every call is, once `InitThreads` is through with a LOGIC_THREAD that
  is not zero.
* `undefined_placement` — an actor constructed before `StartServer`, or after a start with
  LOGIC_THREAD zero, divides by zero; one created after a start that failed indexes an empty vector.
-/

import ActorModelServer.Library.Fallible
import ActorModelServer.Library.ShardedMap
import ActorModelServer.Server.Startup

namespace ActorModelServer.Placement

open Fallible (Exact)
open ShardedMap (Table)
open Startup (Vector loopBody)
open StepRuns (Reach Unguarded exists_reach_of_run)

section Model

/-- `ActorIdType`, an unsigned 64-bit number. -/
abbrev ActorId := ℕ

/-- `ThreadIdType`, an unsigned char. -/
abbrev ThreadId := ℕ

/-- The class of an actor, as far as its placement goes. -/
inductive Kind
  | session
  | nonNetworkActor (isTesterActor : Bool)
  /- of another class derived from `Actor` -/
  | other
  deriving DecidableEq, Repr

/-- An actor. -/
structure Actor where
  actorId : ActorId
  threadId : ThreadId
  kind : Kind
  deriving DecidableEq, Repr

/-- What must not happen. -/
inductive Fault
  | divisionByZero
  | outOfRange (vector : Vector) (index : ℕ)
  deriving DecidableEq, Repr

/-- The options, in the order in which `OptionParsing` reads them. -/
inductive OptionKey
  | bindPort
  | workerThread
  | usingWorkerThread
  | logicThread
  | packetCode
  | packetKey
  deriving DecidableEq, Repr

def optionKeys : List OptionKey :=
  [.bindPort, .workerThread, .usingWorkerThread, .logicThread, .packetCode, .packetKey]

/-- Where `StartServer` is. -/
inductive Place
  /- in `OptionParsing` -/
  | openFile
  | read (rest : List OptionKey)
  | initNetwork
  /- in `InitThreads`: before the loop over the shards, in it -/
  | startThreads
  | shards (i : ℕ)
  | shard (i : ℕ) (rest : List Vector)
  | setSessionFactory
  | createPort
  | started
  deriving DecidableEq, Repr

/-- A map of one shard. -/
abbrev ActorMap := Table ActorId Actor

/-- The fields of `ServerCore` that placement reads, and the actors. -/
structure ServerCore where
  numOfLogicThread : BitVec 8
  place : Place
  /-- `StartServer` has returned false, or an exception has left it. -/
  failed : Bool
  /-- The lengths of the vectors of mutexes. -/
  sessionMapMutex : ℕ
  nonNetworkActorMapMutex : ℕ
  sessionMap : List ActorMap
  nonNetworkActorMap : List ActorMap
  actorIdGenerator : ℕ
  /-- The actors constructed so far. -/
  actors : List Actor
  /-- What went wrong; nothing is defined after it. -/
  fault : Option Fault

/-- The program before its first actor. -/
def initial : ServerCore := ⟨0, .openFile, false, 0, 0, [], [], 0, [], none⟩

namespace ServerCore

/-! `StartServer`. -/

/-- `parser.GetValue_Byte`, and `GetValue_Short`: what is left in the field. -/
def readOption (core : ServerCore) (key : OptionKey) (value : BitVec 8) : ServerCore :=
  match key with
  | .logicThread => { core with numOfLogicThread := value }
  | _ => core

/-- `emplace_back`. -/
def emplaceBack (core : ServerCore) (vector : Vector) : ServerCore :=
  match vector with
  | .sessionMapMutex => { core with sessionMapMutex := core.sessionMapMutex + 1 }
  | .nonNetworkActorMapMutex =>
      { core with nonNetworkActorMapMutex := core.nonNetworkActorMapMutex + 1 }
  | .sessionMap => { core with sessionMap := core.sessionMap ++ [∅] }
  | .nonNetworkActorMap => { core with nonNetworkActorMap := core.nonNetworkActorMap ++ [∅] }
  | _ => core

/-- One step of `StartServer`, which goes well or fails. -/
def goOn (core : ServerCore) (ok : Bool) (value : BitVec 8) : ServerCore :=
  match core.place, ok with
  | .openFile, true => { core with place := .read optionKeys }
  | .read (key :: rest), true => { core.readOption key value with place := .read rest }
  -- the field may have been written
  | .read (key :: _), false => { core.readOption key value with failed := true }
  | .read [], _ => { core with place := .initNetwork }
  | .initNetwork, true => { core with place := .startThreads }
  | .startThreads, true => { core with place := .shards 0 }
  | .shards i, _ =>
      if i < core.numOfLogicThread.toNat then { core with place := .shard i loopBody }
      else { core with place := .setSessionFactory }
  | .shard i (vector :: rest), true => { core.emplaceBack vector with place := .shard i rest }
  | .shard i [], _ => { core with place := .shards (i + 1) }
  | .setSessionFactory, true => { core with place := .createPort }
  -- a failure is null, which is compared with `INVALID_HANDLE_VALUE`
  | .createPort, _ => { core with place := .started }
  | .started, _ => core
  | .openFile, false | .initNetwork, false | .startThreads, false | .shard _ (_ :: _), false
  | .setSessionFactory, false => { core with failed := true }

/-! Actors. -/

/-- `GetTargetThreadId`; the remainder is converted to an unsigned char. -/
def getTargetThreadId (core : ServerCore) (actorId : ActorId) : Except Fault ThreadId :=
  if core.numOfLogicThread = 0 then .error .divisionByZero
  else .ok (actorId % core.numOfLogicThread.toNat % 2 ^ 8)

/-- `Actor::Actor`, with `GenerateActorId`. -/
def construct (core : ServerCore) (kind : Kind) : Except Fault (ServerCore × Actor) := do
  let actorId := (core.actorIdGenerator + 1) % 2 ^ 64
  let threadId ← core.getTargetThreadId actorId
  let actor : Actor := ⟨actorId, threadId, kind⟩
  return ({ core with actorIdGenerator := actorId, actors := core.actors ++ [actor] }, actor)

/-- An element of a vector. -/
def element {α : Type} (vector : Vector) (elements : List α) (index : ℕ) : Except Fault α :=
  match elements[index]? with
  | some found => .ok found
  | none => .error (.outOfRange vector index)

/-- A mutex of a vector is locked. -/
def lock (vector : Vector) (length index : ℕ) : Except Fault Unit :=
  if index < length then .ok () else .error (.outOfRange vector index)

/-- A session map, under its mutex. -/
def withSessionMap {α : Type} (core : ServerCore) (threadId : ThreadId)
    (use : ActorMap → ActorMap × α) : Except Fault (ServerCore × α) := do
  lock .sessionMapMutex core.sessionMapMutex threadId
  let map ← element .sessionMap core.sessionMap threadId
  return ({ core with sessionMap := core.sessionMap.set threadId (use map).1 }, (use map).2)

/-- A map of non-network actors, under its mutex. -/
def withNonNetworkActorMap {α : Type} (core : ServerCore) (threadId : ThreadId)
    (use : ActorMap → ActorMap × α) : Except Fault (ServerCore × α) := do
  lock .nonNetworkActorMapMutex core.nonNetworkActorMapMutex threadId
  let map ← element .nonNetworkActorMap core.nonNetworkActorMap threadId
  return ({ core with nonNetworkActorMap := core.nonNetworkActorMap.set threadId (use map).1 },
    (use map).2)

/-- `InsertSession`. -/
def insertSession (core : ServerCore) (session : Actor) : Except Fault (ServerCore × Unit) :=
  core.withSessionMap session.threadId fun map => (map.insertNew session.actorId session, ())

/-- `EraseSession`. -/
def eraseSession (core : ServerCore) (sessionId : ActorId) (threadId : ThreadId) :
    Except Fault (ServerCore × Unit) :=
  core.withSessionMap threadId fun map => (map.erase sessionId, ())

/-- `FindSession`. -/
def findSession (core : ServerCore) (sessionId : ActorId) (threadId : ThreadId) :
    Except Fault (ServerCore × Option Actor) :=
  core.withSessionMap threadId fun map => (map, map.lookup sessionId)

/-- `FindNonNetworkActor`. -/
def findNonNetworkActor (core : ServerCore) (actorId : ActorId) :
    Except Fault (ServerCore × Option Actor) := do
  let threadId ← core.getTargetThreadId actorId
  core.withNonNetworkActorMap threadId fun map => (map, map.lookup actorId)

/-- `FindActor`. -/
def findActor (core : ServerCore) (actorId : ActorId) (isNetworkActor : Bool) :
    Except Fault (ServerCore × Option Actor) := do
  let threadId ← core.getTargetThreadId actorId
  if isNetworkActor then core.findSession actorId threadId
  else core.findNonNetworkActor actorId

/-- The map of a non-network actor; tester actors are in none. -/
def withOwnMap (core : ServerCore) (actor : Actor) (use : ActorMap → ActorMap × Bool) :
    Except Fault (ServerCore × Bool) :=
  if actor.kind = .nonNetworkActor true then return (core, false)
  else core.withNonNetworkActorMap actor.threadId use

/-- `RegisterNonNetworkActor` of `NonNetworkActor`, with the one of `ServerCore` that it calls. -/
def registerNonNetworkActor (core : ServerCore) (registerActor : Actor) :
    Except Fault (ServerCore × Bool) :=
  core.withOwnMap registerActor fun map =>
    (map.insertNew registerActor.actorId registerActor, true)

/-- `UnregisterNonNetworkActor` of `NonNetworkActor`, with the one of `ServerCore`. -/
def unregisterNonNetworkActor (core : ServerCore) (unregisterActor : Actor) :
    Except Fault (ServerCore × Bool) :=
  core.withOwnMap unregisterActor fun map =>
    (map.erase unregisterActor.actorId, decide (unregisterActor.actorId ∈ map))

/-- `ActorCreator::Create`. -/
def create (core : ServerCore) (kind : Kind) : Except Fault (ServerCore × Actor) := do
  let (constructed, actor) ← core.construct kind
  match kind with
  | .nonNetworkActor _ =>
      let (registered, _) ← constructed.registerNonNetworkActor actor
      return (registered, actor)
  | .session | .other => return (constructed, actor)

end ServerCore

/-- A step of `StartServer`, or a call. -/
inductive Op
  | startServer (ok : Bool) (value : BitVec 8)
  | construct (kind : Kind)
  | create (kind : Kind)
  | registerNonNetworkActor (actor : Actor)
  | unregisterNonNetworkActor (actor : Actor)
  | insertSession (session : Actor)
  | eraseSession (session : Actor)
  | findSession (session : Actor)
  | findActor (actorId : ActorId) (isNetworkActor : Bool)

/-- `StartServer` has not ended; a caller has a pointer to an actor of the class it needs. -/
def Op.Possible (core : ServerCore) : Op → Prop
  | .startServer _ _ => core.failed = false ∧ core.place ≠ .started
  | .construct _ | .create _ | .findActor _ _ => True
  | .registerNonNetworkActor actor | .unregisterNonNetworkActor actor =>
      actor ∈ core.actors ∧ ∃ isTesterActor, actor.kind = .nonNetworkActor isTesterActor
  | .insertSession session | .eraseSession session | .findSession session =>
      session ∈ core.actors ∧ session.kind = .session

/-- What a step does. -/
def execute (core : ServerCore) : Op → Except Fault ServerCore
  | .startServer ok value => .ok (core.goOn ok value)
  | .construct kind => Prod.fst <$> core.construct kind
  | .create kind => Prod.fst <$> core.create kind
  | .registerNonNetworkActor actor => Prod.fst <$> core.registerNonNetworkActor actor
  | .unregisterNonNetworkActor actor => Prod.fst <$> core.unregisterNonNetworkActor actor
  | .insertSession session => Prod.fst <$> core.insertSession session
  | .eraseSession session => Prod.fst <$> core.eraseSession session.actorId session.threadId
  | .findSession session => Prod.fst <$> core.findSession session.actorId session.threadId
  | .findActor actorId isNetworkActor => Prod.fst <$> core.findActor actorId isNetworkActor

instance (core : ServerCore) (op : Op) : Decidable (op.Possible core) := by
  cases op <;> unfold Op.Possible <;> infer_instance

/-- One step. -/
def step (core : ServerCore) (op : Op) : Option ServerCore :=
  if core.fault = none ∧ op.Possible core then
    match execute core op with
    | .ok after => some after
    | .error fault => some { core with fault := some fault }
  else none

/-! How far `StartServer` is. -/

/-- How many entries the loop over the shards has appended to a vector. -/
def Place.filled (place : Place) (numOfLogicThread : ℕ) (vector : Vector) : ℕ :=
  match place with
  | .openFile | .read _ | .initNetwork | .startThreads => 0
  | .shards i => i
  | .shard i rest => if vector ∈ rest then i else i + 1
  | .setSessionFactory | .createPort | .started => numOfLogicThread

def ServerCore.filled (core : ServerCore) (vector : Vector) : ℕ :=
  core.place.filled core.numOfLogicThread.toNat vector

/-- The loop is past the sessions of a shard. -/
def ServerCore.SessionsReady (core : ServerCore) (threadId : ThreadId) : Prop :=
  threadId < core.filled .sessionMapMutex ∧ threadId < core.filled .sessionMap

/-- The loop is past the non-network actors of a shard. -/
def ServerCore.NonNetworkActorsReady (core : ServerCore) (threadId : ThreadId) : Prop :=
  threadId < core.filled .nonNetworkActorMapMutex ∧ threadId < core.filled .nonNetworkActorMap

/-- The shard of an id. -/
def ServerCore.shardOf (core : ServerCore) (actorId : ActorId) : ThreadId :=
  actorId % core.numOfLogicThread.toNat

/-- The id of the next actor. -/
def ServerCore.nextId (core : ServerCore) : ActorId := (core.actorIdGenerator + 1) % 2 ^ 64

/-- **When a step is allowed**: LOGIC_THREAD was read and is not zero, where it divides, and
`InitThreads` has come past the shard, where its vectors are indexed. -/
def Op.Allowed (core : ServerCore) : Op → Prop
  | .startServer _ _ => True
  | .construct _ => core.numOfLogicThread ≠ 0
  | .create kind => core.numOfLogicThread ≠ 0 ∧
      (kind = .nonNetworkActor false → core.NonNetworkActorsReady (core.shardOf core.nextId))
  | .registerNonNetworkActor actor | .unregisterNonNetworkActor actor =>
      actor.kind = .nonNetworkActor false → core.NonNetworkActorsReady actor.threadId
  | .insertSession session | .eraseSession session | .findSession session =>
      core.SessionsReady session.threadId
  | .findActor actorId true =>
      core.numOfLogicThread ≠ 0 ∧ core.SessionsReady (core.shardOf actorId)
  | .findActor actorId false =>
      core.numOfLogicThread ≠ 0 ∧ core.NonNetworkActorsReady (core.shardOf actorId)

end Model

/-! ### The start -/

section Start

/-- The length of a vector that has to do with actors. -/
def ServerCore.size (core : ServerCore) : Vector → ℕ
  | .sessionMapMutex => core.sessionMapMutex
  | .nonNetworkActorMapMutex => core.nonNetworkActorMapMutex
  | .sessionMap => core.sessionMap.length
  | .nonNetworkActorMap => core.nonNetworkActorMap.length
  | _ => 0

/-- The vectors that have to do with actors. -/
def actorVectors : List Vector :=
  [.sessionMapMutex, .nonNetworkActorMapMutex, .sessionMap, .nonNetworkActorMap]

/-- Where `StartServer` is in its loops. -/
def Place.Inside (numOfLogicThread : ℕ) : Place → Prop
  | .read rest => rest <:+ optionKeys
  | .shards i => i ≤ numOfLogicThread
  | .shard i rest => i < numOfLogicThread ∧ rest <:+ loopBody
  | _ => True

/-- `StartServer` has still to read LOGIC_THREAD. -/
def Place.Unread : Place → Prop
  | .openFile => True
  | .read rest => .logicThread ∈ rest
  | _ => False

/-- **The invariant**: the vectors are as long as the loop has come, the field is zero until
LOGIC_THREAD is read, and every actor is on one of the shards. -/
structure Grown (core : ServerCore) : Prop where
  inside : core.place.Inside core.numOfLogicThread.toNat
  sizes : ∀ vector ∈ actorVectors, core.size vector = core.filled vector
  unread : core.place.Unread → core.failed = false → core.numOfLogicThread = 0
  actors : ∀ actor ∈ core.actors, actor.threadId < core.numOfLogicThread.toNat

theorem grown_initial : Grown initial where
  inside := trivial
  sizes vector member := by
    revert vector
    decide
  unread _ _ := rfl
  actors _ member := absurd member List.not_mem_nil

variable {core after : ServerCore}

/-- A statement of the loop's body appends to its vector. -/
theorem size_emplaceBack (core : ServerCore) (vector : Vector) {other : Vector}
    (member : other ∈ actorVectors) :
    (core.emplaceBack vector).size other =
      if other = vector then core.size other + 1 else core.size other := by
  simp only [actorVectors, List.mem_cons, List.not_mem_nil, or_false] at member
  rcases member with rfl | rfl | rfl | rfl <;> cases vector <;>
    simp [ServerCore.emplaceBack, ServerCore.size]

theorem emplaceBack_frame (core : ServerCore) (vector : Vector) :
    (core.emplaceBack vector).numOfLogicThread = core.numOfLogicThread ∧
      (core.emplaceBack vector).actors = core.actors := by
  cases vector <;> exact ⟨rfl, rfl⟩

/-- `StartServer` goes to another place, and changes nothing else. -/
theorem Grown.moved (grown : Grown core) {old place : Place} (here : core.place = old)
    (inside : place.Inside core.numOfLogicThread.toNat)
    (filled : ∀ vector ∈ actorVectors, place.filled core.numOfLogicThread.toNat vector =
      old.filled core.numOfLogicThread.toNat vector)
    (unread : place.Unread → old.Unread) : Grown { core with place := place } where
  inside := inside
  sizes vector member := by
    have before := grown.sizes vector member
    rw [ServerCore.filled, here] at before
    exact before.trans (filled vector member).symm
  unread waits running := grown.unread (here ▸ unread waits) running
  actors := grown.actors

/-- It returns false. -/
theorem Grown.failing (grown : Grown core) : Grown { core with failed := true } where
  inside := grown.inside
  sizes := grown.sizes
  unread _ running := by cases running
  actors := grown.actors

/-- An option is read, or the read fails: no actor is there yet when it is LOGIC_THREAD. -/
theorem Grown.readOption (grown : Grown core) (running : core.failed = false) {key : OptionKey}
    {rest : List OptionKey} (here : core.place = .read (key :: rest)) (value : BitVec 8) :
    (∀ vector ∈ actorVectors, (core.readOption key value).size vector = 0) ∧
      ∀ actor ∈ (core.readOption key value).actors,
        actor.threadId < (core.readOption key value).numOfLogicThread.toNat := by
  have sizes (vector : Vector) (member : vector ∈ actorVectors) : core.size vector = 0 := by
    rw [grown.sizes vector member, ServerCore.filled, here, Place.filled]
  cases key with
  | logicThread =>
      have zero : core.numOfLogicThread = 0 :=
        grown.unread (by rw [here]; exact List.mem_cons_self) running
      refine ⟨sizes, fun actor member => ?_⟩
      have below := grown.actors actor member
      rw [zero] at below
      exact absurd below (Nat.not_lt_zero _)
  | bindPort | workerThread | usingWorkerThread | packetCode | packetKey =>
      exact ⟨sizes, grown.actors⟩

/-- LOGIC_THREAD is read once. -/
theorem Grown.unread_of_read (grown : Grown core) (running : core.failed = false)
    {key : OptionKey} {rest : List OptionKey} (here : core.place = .read (key :: rest))
    (suffix : (key :: rest) <:+ optionKeys) (value : BitVec 8)
    (waits : OptionKey.logicThread ∈ rest) : (core.readOption key value).numOfLogicThread = 0 := by
  have once : (key :: rest).Nodup := suffix.sublist.nodup (by decide)
  cases key with
  | logicThread => exact absurd waits (List.nodup_cons.mp once).1
  | bindPort | workerThread | usingWorkerThread | packetCode | packetKey =>
      refine grown.unread ?_ running
      rw [here]
      exact List.mem_cons_of_mem _ waits

/-- A statement of the loop's body. -/
theorem Grown.emplaceBack (grown : Grown core) {i : ℕ} {vector : Vector} {rest : List Vector}
    (here : core.place = .shard i (vector :: rest)) :
    Grown { core.emplaceBack vector with place := .shard i rest } := by
  obtain ⟨count, actors⟩ := emplaceBack_frame core vector
  have inside : i < core.numOfLogicThread.toNat ∧ (vector :: rest) <:+ loopBody := by
    have := grown.inside
    rwa [here] at this
  have once : (vector :: rest).Nodup := inside.2.sublist.nodup (by decide)
  refine ⟨?_, fun other member => ?_, fun waits => waits.elim, ?_⟩
  · rw [count]
    exact ⟨inside.1, (List.suffix_cons vector rest).trans inside.2⟩
  · have before := grown.sizes other member
    rw [ServerCore.filled, here, Place.filled] at before
    have grows := size_emplaceBack core vector member
    show (core.emplaceBack vector).size other = if other ∈ rest then i else i + 1
    rw [grows, before]
    by_cases own : other = vector
    · subst own
      simp [(List.nodup_cons.mp once).1]
    · simp [own]
  · rw [count, actors]
    exact grown.actors

/-- **Every step of `StartServer`.** -/
theorem Grown.goOn (grown : Grown core) (running : core.failed = false) (ok : Bool)
    (value : BitVec 8) : Grown (core.goOn ok value) := by
  have inside := grown.inside
  unfold ServerCore.goOn
  split
  all_goals rename_i here
  · exact grown.moved here List.suffix_rfl (fun _ _ => rfl) fun _ => trivial
  · rename_i key rest
    rw [here] at inside
    obtain ⟨sizes, actors⟩ := grown.readOption running here value
    refine ⟨(List.suffix_cons key rest).trans inside, sizes, fun waits _ => ?_, actors⟩
    exact grown.unread_of_read running here inside value waits
  · rename_i key rest
    obtain ⟨sizes, actors⟩ := grown.readOption running here value
    have place : (core.readOption key value).place = .read (key :: rest) := by
      cases key <;> exact here
    refine ⟨?_, fun vector member => ?_, fun _ again => Bool.noConfusion again, actors⟩
    · rw [here] at inside
      exact place ▸ inside
    · refine (sizes vector member).trans ?_
      show 0 = (core.readOption key value).place.filled _ vector
      rw [place, Place.filled]
  · exact grown.moved here trivial (fun _ _ => rfl) False.elim
  · exact grown.moved here trivial (fun _ _ => rfl) False.elim
  · exact grown.moved here (Nat.zero_le _) (fun _ _ => rfl) False.elim
  · rename_i i
    rw [here] at inside
    split
    · rename_i more
      refine grown.moved here ⟨more, List.suffix_rfl⟩ (fun vector member => if_pos ?_) False.elim
      revert vector
      decide
    · rename_i done
      refine grown.moved here trivial (fun vector member => ?_) False.elim
      exact Nat.le_antisymm (Nat.le_of_not_lt done) inside
  · exact grown.emplaceBack here
  · rw [here] at inside
    refine grown.moved here inside.1 (fun vector member => ?_) False.elim
    rw [Place.filled, Place.filled, if_neg List.not_mem_nil]
  · exact grown.moved here trivial (fun _ _ => rfl) False.elim
  · exact grown.moved here trivial (fun _ _ => rfl) False.elim
  · exact grown
  all_goals exact grown.failing

end Start

/-! ### Calls -/

section Calls

variable {core after : ServerCore} {α : Type}

/-- A call leaves `StartServer` and the lengths of the vectors as they are; it adds at most an actor
that is on one of the shards. -/
structure Keeps (core after : ServerCore) : Prop where
  numOfLogicThread : after.numOfLogicThread = core.numOfLogicThread
  place : after.place = core.place
  failed : after.failed = core.failed
  sizes : ∀ vector, after.size vector = core.size vector
  actors : ∀ actor ∈ after.actors,
    actor ∈ core.actors ∨ actor.threadId < core.numOfLogicThread.toNat
  fault : after.fault = core.fault

theorem Keeps.refl (core : ServerCore) : Keeps core core :=
  ⟨rfl, rfl, rfl, fun _ => rfl, fun _ member => .inl member, rfl⟩

theorem Keeps.trans {middle : ServerCore} (first : Keeps core middle)
    (second : Keeps middle after) : Keeps core after where
  numOfLogicThread := second.numOfLogicThread.trans first.numOfLogicThread
  place := second.place.trans first.place
  failed := second.failed.trans first.failed
  sizes vector := (second.sizes vector).trans (first.sizes vector)
  actors actor member := by
    rcases second.actors actor member with before | below
    · exact first.actors actor before
    · rw [first.numOfLogicThread] at below
      exact .inr below
  fault := second.fault.trans first.fault

theorem Grown.keeps (grown : Grown core) (keeps : Keeps core after) : Grown after where
  inside := by
    rw [keeps.place, keeps.numOfLogicThread]
    exact grown.inside
  sizes vector member := by
    rw [keeps.sizes, grown.sizes vector member, ServerCore.filled, ServerCore.filled, keeps.place,
      keeps.numOfLogicThread]
  unread := by
    rw [keeps.place, keeps.failed, keeps.numOfLogicThread]
    exact grown.unread
  actors actor member := by
    rw [keeps.numOfLogicThread]
    exact (keeps.actors actor member).elim (grown.actors actor) id

/-- An id has a shard, once LOGIC_THREAD is not zero. -/
theorem shardOf_lt (nonzero : core.numOfLogicThread ≠ 0) (actorId : ActorId) :
    core.shardOf actorId < core.numOfLogicThread.toNat :=
  Nat.mod_lt actorId (Nat.pos_of_ne_zero fun zero => nonzero (BitVec.eq_of_toNat_eq zero))

/-- `GetTargetThreadId` divides by `numOfLogicThread`, and converting the remainder loses
nothing. -/
theorem exact_getTargetThreadId (core : ServerCore) (actorId : ActorId) :
    Exact (core.numOfLogicThread ≠ 0) (core.getTargetThreadId actorId)
      fun threadId => threadId = core.shardOf actorId ∧
        threadId < core.numOfLogicThread.toNat := by
  unfold ServerCore.getTargetThreadId
  split
  · rename_i zero
    exact ⟨fun nonzero => absurd zero nonzero, fun _ => ⟨_, rfl⟩⟩
  · rename_i nonzero
    refine ⟨fun _ => ⟨_, rfl, ?_⟩, fun zero => absurd nonzero zero⟩
    have below := shardOf_lt nonzero actorId
    exact ⟨Nat.mod_eq_of_lt (below.trans core.numOfLogicThread.isLt),
      (Nat.mod_le _ _).trans_lt below⟩

theorem exact_lock (vector : Vector) (length index : ℕ) :
    Exact (index < length) (ServerCore.lock vector length index) fun _ => True := by
  unfold ServerCore.lock
  split
  · rename_i inside
    exact ⟨fun _ => ⟨(), rfl, trivial⟩, fun outside => absurd inside outside⟩
  · rename_i outside
    exact ⟨fun inside => absurd inside outside, fun _ => ⟨_, rfl⟩⟩

theorem exact_element (vector : Vector) (elements : List α) (index : ℕ) :
    Exact (index < elements.length) (ServerCore.element vector elements index)
      fun _ => True := by
  unfold ServerCore.element
  split
  · rename_i found here
    obtain ⟨inside, -⟩ := List.getElem?_eq_some_iff.mp here
    exact ⟨fun _ => ⟨found, rfl, trivial⟩, fun outside => absurd inside outside⟩
  · rename_i missing
    have outside := List.getElem?_eq_none_iff.mp missing
    exact ⟨fun inside => absurd inside (Nat.not_lt_of_le outside), fun _ => ⟨_, rfl⟩⟩

/-- Both vectors of the sessions have an entry for the shard. -/
def ServerCore.SessionsFit (core : ServerCore) (threadId : ThreadId) : Prop :=
  threadId < core.size .sessionMapMutex ∧ threadId < core.size .sessionMap

/-- Both vectors of the non-network actors have one. -/
def ServerCore.NonNetworkActorsFit (core : ServerCore) (threadId : ThreadId) : Prop :=
  threadId < core.size .nonNetworkActorMapMutex ∧ threadId < core.size .nonNetworkActorMap

theorem exact_withSessionMap (core : ServerCore) (threadId : ThreadId)
    (use : ActorMap → ActorMap × α) :
    Exact (core.SessionsFit threadId) (core.withSessionMap threadId use)
      fun result => Keeps core result.1 := by
  have keeps (map : ActorMap) :
      Keeps core { core with sessionMap := core.sessionMap.set threadId map } := by
    refine ⟨rfl, rfl, rfl, fun vector => ?_, fun _ member => .inl member, rfl⟩
    cases vector <;> simp [ServerCore.size]
  refine Exact.of_iff ((exact_lock _ _ _).bind fun _ _ => (exact_element _ _ _).bind fun map _ =>
    Exact.pure (keeps (use map).1)) ?_
  exact and_congr_right' (and_iff_left trivial).symm

theorem exact_withNonNetworkActorMap (core : ServerCore) (threadId : ThreadId)
    (use : ActorMap → ActorMap × α) :
    Exact (core.NonNetworkActorsFit threadId) (core.withNonNetworkActorMap threadId use)
      fun result => Keeps core result.1 := by
  have keeps (map : ActorMap) :
      Keeps core { core with nonNetworkActorMap := core.nonNetworkActorMap.set threadId map } := by
    refine ⟨rfl, rfl, rfl, fun vector => ?_, fun _ member => .inl member, rfl⟩
    cases vector <;> simp [ServerCore.size]
  refine Exact.of_iff ((exact_lock _ _ _).bind fun _ _ => (exact_element _ _ _).bind fun map _ =>
    Exact.pure (keeps (use map).1)) ?_
  exact and_congr_right' (and_iff_left trivial).symm

/-- The constructor places its actor on one of the shards. -/
theorem exact_construct (core : ServerCore) (kind : Kind) :
    Exact (core.numOfLogicThread ≠ 0) (core.construct kind) fun result =>
      Keeps core result.1 ∧ result.2 = ⟨core.nextId, core.shardOf core.nextId, kind⟩ := by
  refine Exact.of_iff ((exact_getTargetThreadId core core.nextId).bind fun threadId placed =>
    Exact.pure ⟨⟨rfl, rfl, rfl, fun vector => ?_, fun actor member => ?_, rfl⟩, ?_⟩)
    (and_iff_left trivial).symm
  · cases vector <;> rfl
  · rcases List.mem_append.mp member with before | last
    · exact .inl before
    · rw [List.mem_singleton.mp last]
      exact .inr placed.2
  · rw [placed.1]
    rfl

/-- Tester actors index nothing. -/
theorem exact_withOwnMap (core : ServerCore) (actor : Actor)
    (use : ActorMap → ActorMap × Bool) :
    Exact (actor.kind ≠ .nonNetworkActor true → core.NonNetworkActorsFit actor.threadId)
      (core.withOwnMap actor use) fun result => Keeps core result.1 := by
  unfold ServerCore.withOwnMap
  split
  · rename_i tester
    refine Exact.of_iff (Exact.pure ?_) (iff_true_intro fun other => absurd tester other)
    exact Keeps.refl core
  · rename_i other
    exact (exact_withNonNetworkActorMap core _ _).of_iff
      ⟨fun fits => fits other, fun fits _ => fits⟩

/-- `ActorCreator::Create` registers non-network actors. -/
theorem exact_create (core : ServerCore) (kind : Kind) :
    Exact (core.numOfLogicThread ≠ 0 ∧
        (kind = .nonNetworkActor false → core.NonNetworkActorsFit (core.shardOf core.nextId)))
      (core.create kind) fun result => Keeps core result.1 := by
  refine (exact_construct core kind).bind fun ⟨constructed, actor⟩ ⟨keeps, placed⟩ => ?_
  obtain rfl : actor = ⟨core.nextId, core.shardOf core.nextId, kind⟩ := placed
  cases kind with
  | session | other =>
      exact Exact.of_iff (Exact.pure keeps) (iff_true_intro fun network => by cases network)
  | nonNetworkActor isTesterActor =>
      refine Exact.of_iff ((exact_withOwnMap constructed _ _).bind fun result registered =>
        Exact.pure (keeps.trans registered)) ?_
      unfold ServerCore.NonNetworkActorsFit
      rw [and_iff_left trivial, keeps.sizes, keeps.sizes]
      cases isTesterActor <;> simp

/-- `FindActor` divides, and so does `FindNonNetworkActor` again. -/
theorem exact_findActor (core : ServerCore) (actorId : ActorId) (isNetworkActor : Bool) :
    Exact (core.numOfLogicThread ≠ 0 ∧
        if isNetworkActor then core.SessionsFit (core.shardOf actorId)
        else core.NonNetworkActorsFit (core.shardOf actorId))
      (core.findActor actorId isNetworkActor) fun result => Keeps core result.1 := by
  have divides := exact_getTargetThreadId core actorId
  cases isNetworkActor with
  | true =>
      refine divides.bind fun threadId ⟨placed, _⟩ => ?_
      rw [placed]
      exact exact_withSessionMap core _ _
  | false =>
      have finds : Exact (core.numOfLogicThread ≠ 0 ∧
          core.NonNetworkActorsFit (core.shardOf actorId)) (core.findNonNetworkActor actorId)
          fun result => Keeps core result.1 := by
        refine divides.bind fun threadId ⟨placed, _⟩ => ?_
        rw [placed]
        exact exact_withNonNetworkActorMap core _ _
      exact (divides.bind fun _ _ => finds).of_iff (and_self_left).symm

/-- What `InitThreads` has appended fits. -/
theorem Grown.sessionsReady_iff (grown : Grown core) (threadId : ThreadId) :
    core.SessionsReady threadId ↔ core.SessionsFit threadId := by
  unfold ServerCore.SessionsReady ServerCore.SessionsFit
  rw [grown.sizes .sessionMapMutex (by decide), grown.sizes .sessionMap (by decide)]

theorem Grown.nonNetworkActorsReady_iff (grown : Grown core) (threadId : ThreadId) :
    core.NonNetworkActorsReady threadId ↔ core.NonNetworkActorsFit threadId := by
  unfold ServerCore.NonNetworkActorsReady ServerCore.NonNetworkActorsFit
  rw [grown.sizes .nonNetworkActorMapMutex (by decide),
    grown.sizes .nonNetworkActorMap (by decide)]

theorem goOn_fault (core : ServerCore) (ok : Bool) (value : BitVec 8) :
    (core.goOn ok value).fault = core.fault := by
  unfold ServerCore.goOn
  split
  case h_2 key _ _ | h_3 key _ _ => cases key <;> rfl
  case h_7 => split <;> rfl
  case h_8 vector _ _ => cases vector <;> rfl
  all_goals rfl

/-- **When each step goes well.** -/
theorem exact_execute (grown : Grown core) {op : Op} (possible : op.Possible core) :
    Exact (op.Allowed core) (execute core op) fun after =>
      Grown after ∧ after.fault = core.fault := by
  have post {α : Type} (result : ServerCore × α) (keeps : Keeps core result.1) :
      Grown result.1 ∧ result.1.fault = core.fault := ⟨grown.keeps keeps, keeps.fault⟩
  have own {actor : Actor}
      (network : ∃ isTesterActor, actor.kind = .nonNetworkActor isTesterActor) :
      (actor.kind = .nonNetworkActor false → core.NonNetworkActorsReady actor.threadId) ↔
        (actor.kind ≠ .nonNetworkActor true → core.NonNetworkActorsFit actor.threadId) := by
    obtain ⟨isTesterActor, kind⟩ := network
    rw [grown.nonNetworkActorsReady_iff, kind]
    cases isTesterActor <;> simp
  cases op with
  | startServer ok value =>
      exact ⟨fun _ => ⟨_, rfl, grown.goOn possible.1 ok value, goOn_fault core ok value⟩,
        fun refused => absurd trivial refused⟩
  | construct kind =>
      exact (exact_construct core kind).map fun result keeps => post result keeps.1
  | create kind =>
      refine Exact.of_iff ((exact_create core kind).map post) ?_
      exact and_congr_right fun _ => forall_congr' fun _ => grown.nonNetworkActorsReady_iff _
  | registerNonNetworkActor actor | unregisterNonNetworkActor actor =>
      exact ((exact_withOwnMap core actor _).map post).of_iff (own possible.2)
  | insertSession session | eraseSession session | findSession session =>
      exact ((exact_withSessionMap core session.threadId _).map post).of_iff
        (grown.sessionsReady_iff _)
  | findActor actorId isNetworkActor =>
      refine Exact.of_iff ((exact_findActor core actorId isNetworkActor).map post) ?_
      cases isNetworkActor with
      | true => exact and_congr_right fun _ => grown.sessionsReady_iff _
      | false => exact and_congr_right fun _ => grown.nonNetworkActorsReady_iff _

end Calls

/-! ### Runs -/

section Results

variable {core after : ServerCore} {op : Op}

/-- A fault changes nothing else. -/
theorem Grown.faulty (grown : Grown core) (fault : Fault) :
    Grown { core with fault := some fault } :=
  ⟨grown.inside, grown.sizes, grown.unread, grown.actors⟩

/-- **One step**: it goes well exactly when it is allowed. -/
theorem grown_step (grown : Grown core) (taken : step core op = some after) :
    Grown after ∧ (after.fault = none ↔ op.Allowed core) := by
  obtain ⟨⟨quiet, possible⟩, taken⟩ := Option.ite_none_right_eq_some.mp taken
  have exact := exact_execute grown possible
  split at taken
  · rename_i result ok
    obtain rfl := Option.some.inj taken
    obtain ⟨allowed, kept, same⟩ := exact.of_ok ok
    exact ⟨kept, iff_of_true (same.trans quiet) allowed⟩
  · rename_i fault failed
    obtain rfl := Option.some.inj taken
    exact ⟨grown.faulty fault, iff_of_false (by simp) (exact.of_error failed)⟩

theorem grown_of_reach {guard : ServerCore → Op → Prop} (reached : Reach step guard initial core) :
    Grown core :=
  reached.invariant Grown grown_initial fun _ _ _ grown _ taken => (grown_step grown taken).1

/-- **Placement is defined** throughout a run exactly when every step of it is allowed: actors are
constructed, and looked for, only after `OptionParsing` has read a LOGIC_THREAD that is not zero,
and the vectors of a shard are indexed only after `InitThreads` has appended to them. -/
theorem placement_iff (core : ServerCore) :
    Reach step Op.Allowed initial core ↔
      Reach step Unguarded initial core ∧ core.fault = none := by
  constructor
  · intro reached
    refine ⟨reached.mono fun _ _ _ => trivial, ?_⟩
    cases reached with
    | start => rfl
    | step earlier allowed taken =>
        exact (grown_step (grown_of_reach earlier) taken).2.mpr allowed
  · rintro ⟨reached, quiet⟩
    induction reached with
    | start => exact .start
    | step earlier _ taken ih =>
        obtain ⟨⟨before, -⟩, -⟩ := Option.ite_none_right_eq_some.mp taken
        have allowed := (grown_step (grown_of_reach earlier) taken).2.mp quiet
        exact .step (ih before) allowed taken

/-- `InitThreads` has returned. -/
def Place.AfterInitThreads : Place → Prop
  | .setSessionFactory | .createPort | .started => True
  | _ => False

/-- **After `InitThreads`**, with a LOGIC_THREAD that is not zero, every step is allowed. -/
theorem allowed_of_initThreads (reached : Reach step Unguarded initial core)
    (started : core.place.AfterInitThreads) (nonzero : core.numOfLogicThread ≠ 0)
    (possible : op.Possible core) : op.Allowed core := by
  have grown := grown_of_reach reached
  have filled (vector : Vector) : core.filled vector = core.numOfLogicThread.toNat := by
    unfold ServerCore.filled
    cases here : core.place with
    | setSessionFactory | createPort | started => rfl
    | _ =>
        rw [here] at started
        exact started.elim
  have sessions {threadId : ThreadId} (below : threadId < core.numOfLogicThread.toNat) :
      core.SessionsReady threadId := by
    unfold ServerCore.SessionsReady
    rw [filled, filled]
    exact ⟨below, below⟩
  have others {threadId : ThreadId} (below : threadId < core.numOfLogicThread.toNat) :
      core.NonNetworkActorsReady threadId := by
    unfold ServerCore.NonNetworkActorsReady
    rw [filled, filled]
    exact ⟨below, below⟩
  cases op with
  | startServer _ _ => trivial
  | construct _ => exact nonzero
  | create _ => exact ⟨nonzero, fun _ => others (shardOf_lt nonzero _)⟩
  | registerNonNetworkActor actor | unregisterNonNetworkActor actor =>
      exact fun _ => others (grown.actors actor possible.1)
  | insertSession session | eraseSession session | findSession session =>
      exact sessions (grown.actors session possible.1)
  | findActor actorId isNetworkActor =>
      cases isNetworkActor with
      | true => exact ⟨nonzero, sessions (shardOf_lt nonzero actorId)⟩
      | false => exact ⟨nonzero, others (shardOf_lt nonzero actorId)⟩

/-- **Placement is not always defined**: a tester actor constructed before `StartServer`, a session
constructed after a start with LOGIC_THREAD zero, and an actor created after a start that failed at
`InitNetwork`. -/
theorem undefined_placement :
    (∃ core, Reach step Unguarded initial core ∧ core.fault = some .divisionByZero ∧
      core.place = .openFile) ∧
    (∃ core, Reach step Unguarded initial core ∧ core.fault = some .divisionByZero ∧
      core.place = .started) ∧
    ∃ core, Reach step Unguarded initial core ∧
      core.fault = some (.outOfRange .nonNetworkActorMapMutex 1) ∧ core.failed = true := by
  refine ⟨?_, ?_, ?_⟩
  · obtain ⟨core, reached, passed⟩ := exists_reach_of_run step initial
      [.construct (.nonNetworkActor true)]
      (fun core => decide (core.fault = some .divisionByZero ∧ core.place = .openFile)) (by decide)
    exact ⟨core, reached, of_decide_eq_true passed⟩
  · obtain ⟨core, reached, passed⟩ := exists_reach_of_run step initial
      (List.replicate 13 (.startServer true 0) ++ [.construct .session])
      (fun core => decide (core.fault = some .divisionByZero ∧ core.place = .started)) (by decide)
    exact ⟨core, reached, of_decide_eq_true passed⟩
  · obtain ⟨core, reached, passed⟩ := exists_reach_of_run step initial
      (List.replicate 8 (.startServer true 2) ++
        [.startServer false 0, .create (.nonNetworkActor false)])
      (fun core => decide (core.fault = some (.outOfRange .nonNetworkActorMapMutex 1) ∧
        core.failed = true)) (by decide)
    exact ⟨core, reached, of_decide_eq_true passed⟩

end Results

end ActorModelServer.Placement
