/-
**The registry of actors.**

Every actor gets an id and the shard it belongs to when it is constructed. `InsertSession`,
`EraseSession` and the registration of non-network actors change the maps of the shard the actor
remembers; `FindActor` computes the shard from the id. `Server` is what these functions read and
write, one shard for each logic thread; the hooks they call are left out.

* `Directory` — the purpose of the registry: one map from ids to the actors that are registered.
* `Refines` — the maps of the shards represent the directory of the history.
* `registry_refines` — whatever the order of the operations, an actor is found by its id exactly
  while it is registered.
-/

import ActorModelServer.Library.Runs
import ActorModelServer.Library.ShardedMap
import Mathlib.Algebra.Group.Nat.Defs
import Mathlib.Algebra.Order.Group.Nat
import Mathlib.Data.Nat.Basic

namespace ActorModelServer.Registry

open ShardedMap (Table Shards Represents)
open StepRuns (run run_history Since not_since_nil since_append)

/-! ### The functions of the source -/

section Model

/-- `ActorIdType`, and `SessionIdType`. -/
abbrev ActorId := ℕ

/-- `numOfLogicThread`, a byte. -/
structure NumOfLogicThread where
  count : ℕ
  least : 1 ≤ count
  most : count ≤ 255

/-- `ThreadIdType`, where it is the number of a logic thread and of its shard. -/
abbrev ThreadId (numOfLogicThread : NumOfLogicThread) := Fin numOfLogicThread.count

/-- `GetTargetThreadId`; the remainder is converted to an unsigned char. -/
def getTargetThreadId (numOfLogicThread : NumOfLogicThread) (actorId : ActorId) :
    ThreadId numOfLogicThread :=
  ⟨actorId % numOfLogicThread.count % 2 ^ 8,
    (Nat.mod_le _ _).trans_lt (Nat.mod_lt _ numOfLogicThread.least)⟩

/-- The conversion loses nothing. -/
theorem getTargetThreadId_val (numOfLogicThread : NumOfLogicThread) (actorId : ActorId) :
    (getTargetThreadId numOfLogicThread actorId).val = actorId % numOfLogicThread.count := by
  have small := Nat.mod_lt actorId numOfLogicThread.least
  have most := numOfLogicThread.most
  exact Nat.mod_eq_of_lt (by omega)

/-- What the registry knows of an actor's class. -/
inductive Kind
  | session
  | nonNetworkActor (isTesterActor : Bool)
  deriving DecidableEq

/-- An actor, with its place in the order of construction. -/
structure Actor (numOfLogicThread : NumOfLogicThread) where
  number : ℕ
  actorId : ActorId
  threadId : ThreadId numOfLogicThread
  kind : Kind
  deriving DecidableEq

variable {numOfLogicThread : NumOfLogicThread}

/-- The actor is a session, a network actor. -/
def Actor.isSession (actor : Actor numOfLogicThread) : Bool :=
  match actor.kind with
  | .session => true
  | .nonNetworkActor _ => false

/-- `IsTesterActor`. -/
def Actor.isTesterActor (actor : Actor numOfLogicThread) : Bool :=
  match actor.kind with
  | .session => false
  | .nonNetworkActor isTesterActor => isTesterActor

/-- `Actor::Actor`, with `GenerateActorId`. -/
def newActor (number : ℕ) (kind : Kind) : Actor numOfLogicThread :=
  let actorId := (number + 1) % 2 ^ 64
  ⟨number, actorId, getTargetThreadId numOfLogicThread actorId, kind⟩

theorem actorId_newActor (number : ℕ) (kind : Kind) :
    (newActor number kind : Actor numOfLogicThread).actorId = (number + 1) % 2 ^ 64 :=
  rfl

variable (numOfLogicThread) in
/-- The maps, and what is counted of them. -/
structure Server where
  /-- The actors constructed so far; `actorIdGenerator` is their number modulo 2^64. -/
  actors : List (Actor numOfLogicThread)
  sessionMap : Shards (ThreadId numOfLogicThread) ActorId (Actor numOfLogicThread)
  nonNetworkActorMap : Shards (ThreadId numOfLogicThread) ActorId (Actor numOfLogicThread)
  numOfUser : BitVec 32
  /-- The requests of each release thread. -/
  releaseThreadsQueue : ThreadId numOfLogicThread → List (ActorId × ThreadId numOfLogicThread)

variable (numOfLogicThread) in
/-- Before the first actor. -/
def initial : Server numOfLogicThread where
  actors := []
  sessionMap := fun _ => ∅
  nonNetworkActorMap := fun _ => ∅
  numOfUser := 0
  releaseThreadsQueue := fun _ => []

/-- The construction of an actor. -/
def Server.construct (server : Server numOfLogicThread) (kind : Kind) : Server numOfLogicThread :=
  { server with actors := server.actors ++ [newActor server.actors.length kind] }

/-- `InsertSession`. -/
def Server.insertSession (server : Server numOfLogicThread) (session : Actor numOfLogicThread) :
    Server numOfLogicThread :=
  { server with
    sessionMap :=
      ShardedMap.insertNew server.sessionMap session.threadId session.actorId session
    numOfUser := server.numOfUser + 1 }

/-- `EraseAllSession`. -/
def Server.eraseAllSession (server : Server numOfLogicThread)
    (threadId : ThreadId numOfLogicThread) : Server numOfLogicThread :=
  { server with
    sessionMap := ShardedMap.clear server.sessionMap threadId
    numOfUser := 0 }

/-- `EraseSession`. -/
def Server.eraseSession (server : Server numOfLogicThread) (sessionId : ActorId)
    (threadId : ThreadId numOfLogicThread) : Server numOfLogicThread :=
  { server with
    sessionMap := ShardedMap.erase server.sessionMap threadId sessionId
    numOfUser := server.numOfUser - 1 }

/-- `FindSession`. -/
def Server.findSession (server : Server numOfLogicThread) (sessionId : ActorId)
    (threadId : ThreadId numOfLogicThread) : Option (Actor numOfLogicThread) :=
  AList.lookup sessionId (server.sessionMap threadId)

/-- `RegisterNonNetworkActor` of `ServerCore`; a null pointer is `none`. -/
def Server.registerNonNetworkActor (server : Server numOfLogicThread)
    (actor : Option (Actor numOfLogicThread)) (threadId : ThreadId numOfLogicThread) :
    Server numOfLogicThread × Bool :=
  match actor with
  | none => (server, false)
  | some actor =>
      ({ server with
         nonNetworkActorMap :=
           ShardedMap.insertNew server.nonNetworkActorMap threadId actor.actorId actor }, true)

/-- `UnregisterNonNetworkActor` of `ServerCore`. -/
def Server.unregisterNonNetworkActor (server : Server numOfLogicThread)
    (actor : Option (Actor numOfLogicThread)) (threadId : ThreadId numOfLogicThread) :
    Server numOfLogicThread × Bool :=
  match actor with
  | none => (server, false)
  | some actor =>
      ({ server with
         nonNetworkActorMap :=
           ShardedMap.erase server.nonNetworkActorMap threadId actor.actorId },
       decide (actor.actorId ∈ server.nonNetworkActorMap threadId))

/-- `FindNonNetworkActor`. -/
def Server.findNonNetworkActor (server : Server numOfLogicThread) (actorId : ActorId) :
    Option (Actor numOfLogicThread) :=
  AList.lookup actorId (server.nonNetworkActorMap (getTargetThreadId numOfLogicThread actorId))

/-- `FindActor`. -/
def Server.findActor (server : Server numOfLogicThread) (actorId : ActorId)
    (isNetworkActor : Bool) : Option (Actor numOfLogicThread) :=
  let threadId := getTargetThreadId numOfLogicThread actorId
  if isNetworkActor then server.findSession actorId threadId
  else server.findNonNetworkActor actorId

/-- `RegisterNonNetworkActor` of `NonNetworkActor`. -/
def registerNonNetworkActor (server : Server numOfLogicThread)
    (registerActor : Actor numOfLogicThread) : Server numOfLogicThread :=
  if !registerActor.isTesterActor then
    (server.registerNonNetworkActor (some registerActor) registerActor.threadId).1
  else server

/-- `UnregisterNonNetworkActor` of `NonNetworkActor`. -/
def unregisterNonNetworkActor (server : Server numOfLogicThread)
    (unregisterActor : Actor numOfLogicThread) : Server numOfLogicThread :=
  if !unregisterActor.isTesterActor then
    (server.unregisterNonNetworkActor (some unregisterActor) unregisterActor.threadId).1
  else server

end Model

/-! ### Sequences of operations -/

section Machine

variable {numOfLogicThread : NumOfLogicThread}

variable (numOfLogicThread) in
/-- An operation on the registry. -/
inductive Op
  | construct (kind : Kind)
  | insertSession (session : Actor numOfLogicThread)
  | eraseSession (session : Actor numOfLogicThread)
  | eraseAllSession (threadId : ThreadId numOfLogicThread)
  | registerNonNetworkActor (actor : Actor numOfLogicThread)
  | unregisterNonNetworkActor (actor : Actor numOfLogicThread)

/-- The caller of an operation has a pointer to the actor. -/
def Server.Constructed (server : Server numOfLogicThread) (isSession : Bool)
    (actor : Actor numOfLogicThread) : Prop :=
  actor ∈ server.actors ∧ actor.isSession = isSession

instance (server : Server numOfLogicThread) (isSession : Bool) (actor : Actor numOfLogicThread) :
    Decidable (server.Constructed isSession actor) :=
  inferInstanceAs (Decidable (_ ∧ _))

/-- One operation. -/
def step (server : Server numOfLogicThread) (op : Op numOfLogicThread) :
    Option (Server numOfLogicThread) :=
  match op with
  | .construct kind => some (server.construct kind)
  | .insertSession session =>
      if server.Constructed true session then some (server.insertSession session) else none
  | .eraseSession session =>
      if server.Constructed true session then
        some (server.eraseSession session.actorId session.threadId)
      else none
  | .eraseAllSession threadId => some (server.eraseAllSession threadId)
  | .registerNonNetworkActor actor =>
      if server.Constructed false actor then some (registerNonNetworkActor server actor) else none
  | .unregisterNonNetworkActor actor =>
      if server.Constructed false actor then some (unregisterNonNetworkActor server actor)
      else none

/-- The maps of a kind of actors. -/
def Server.map (server : Server numOfLogicThread) (isNetworkActor : Bool) :
    Shards (ThreadId numOfLogicThread) ActorId (Actor numOfLogicThread) :=
  match isNetworkActor with
  | true => server.sessionMap
  | false => server.nonNetworkActorMap

/-- What leaves the non-network actors as they are changes the map of the sessions only. -/
theorem map_of_sessionMap {before after : Server numOfLogicThread}
    (same : after.nonNetworkActorMap = before.nonNetworkActorMap) (other : Bool)
    (different : other ≠ true) : after.map other = before.map other := by
  cases other with
  | false => exact same
  | true => exact absurd rfl different

theorem map_of_nonNetworkActorMap {before after : Server numOfLogicThread}
    (same : after.sessionMap = before.sessionMap) (other : Bool)
    (different : other ≠ false) : after.map other = before.map other := by
  cases other with
  | false => exact absurd rfl different
  | true => exact same

/-- `FindActor` looks into the shard of the id. -/
theorem findActor_eq (server : Server numOfLogicThread) (actorId : ActorId)
    (isNetworkActor : Bool) : server.findActor actorId isNetworkActor =
      AList.lookup actorId
        (server.map isNetworkActor (getTargetThreadId numOfLogicThread actorId)) := by
  cases isNetworkActor <;> rfl

end Machine

/-! ### One map from ids to actors -/

section Directory

variable {numOfLogicThread : NumOfLogicThread}

variable (numOfLogicThread) in
/-- The registered actors by their ids. -/
abbrev Directory := ActorId → Option (Actor numOfLogicThread)

/-- What an operation does to the directory. -/
def Directory.step (directory : Directory numOfLogicThread) (op : Op numOfLogicThread) :
    Directory numOfLogicThread :=
  match op with
  | .construct _ => directory
  | .insertSession session => Function.update directory session.actorId (some session)
  | .eraseSession session => Function.update directory session.actorId none
  | .eraseAllSession threadId => fun actorId =>
      (directory actorId).filter fun actor => !(actor.isSession && actor.threadId == threadId)
  | .registerNonNetworkActor actor =>
      if actor.isTesterActor then directory
      else Function.update directory actor.actorId (some actor)
  | .unregisterNonNetworkActor actor =>
      if actor.isTesterActor then directory else Function.update directory actor.actorId none

/-- The directory after a sequence of operations. -/
def directory (history : List (Op numOfLogicThread)) : Directory numOfLogicThread :=
  history.foldl Directory.step fun _ => none

theorem directory_append (history : List (Op numOfLogicThread)) (op : Op numOfLogicThread) :
    directory (history ++ [op]) = (directory history).step op := by
  rw [directory, List.foldl_append]
  rfl

/-- The sessions of a directory, or its other actors. -/
def Directory.kind (directory : Directory numOfLogicThread) (isNetworkActor : Bool) :
    Directory numOfLogicThread := fun actorId =>
  (directory actorId).filter fun actor => actor.isSession == isNetworkActor

/-- The operation registers the actor; tester actors are never registered. -/
def Enters (actor : Actor numOfLogicThread) (op : Op numOfLogicThread) : Prop :=
  match actor.kind with
  | .session => op = .insertSession actor
  | .nonNetworkActor isTesterActor =>
      isTesterActor = false ∧ op = .registerNonNetworkActor actor

/-- The operation takes the actor out. -/
def Leaves (actor : Actor numOfLogicThread) (op : Op numOfLogicThread) : Prop :=
  match actor.kind with
  | .session => op = .eraseSession actor ∨ op = .eraseAllSession actor.threadId
  | .nonNetworkActor _ => op = .unregisterNonNetworkActor actor

/-- The actor was registered and not taken out since. -/
def Registered (actor : Actor numOfLogicThread) (history : List (Op numOfLogicThread)) : Prop :=
  Since (Enters actor) (Leaves actor) history

section Entries

variable {actor other : Actor numOfLogicThread} {kind : Kind} {threadId : ThreadId numOfLogicThread}

@[simp] theorem not_enters_construct : ¬ Enters other (.construct kind) := by
  unfold Enters
  split <;> simp

@[simp] theorem not_enters_eraseSession : ¬ Enters other (.eraseSession actor) := by
  unfold Enters
  split <;> simp

@[simp] theorem not_enters_eraseAllSession : ¬ Enters other (.eraseAllSession threadId) := by
  unfold Enters
  split <;> simp

@[simp] theorem not_enters_unregisterNonNetworkActor :
    ¬ Enters other (.unregisterNonNetworkActor actor) := by
  unfold Enters
  split <;> simp

@[simp] theorem not_leaves_construct : ¬ Leaves other (.construct kind) := by
  unfold Leaves
  split <;> simp

@[simp] theorem not_leaves_insertSession : ¬ Leaves other (.insertSession actor) := by
  unfold Leaves
  split <;> simp

@[simp] theorem not_leaves_registerNonNetworkActor :
    ¬ Leaves other (.registerNonNetworkActor actor) := by
  unfold Leaves
  split <;> simp

theorem enters_insertSession (session : actor.isSession = true) :
    Enters other (.insertSession actor) ↔ other = actor := by
  unfold Enters
  grind [Actor.isSession]

theorem enters_registerNonNetworkActor (network : actor.isSession = false) :
    Enters other (.registerNonNetworkActor actor) ↔
      other = actor ∧ actor.isTesterActor = false := by
  unfold Enters
  grind [Actor.isSession, Actor.isTesterActor]

theorem leaves_eraseSession (session : actor.isSession = true) :
    Leaves other (.eraseSession actor) ↔ other = actor := by
  unfold Leaves
  grind [Actor.isSession]

theorem leaves_unregisterNonNetworkActor (network : actor.isSession = false) :
    Leaves other (.unregisterNonNetworkActor actor) ↔ other = actor := by
  unfold Leaves
  grind [Actor.isSession]

theorem leaves_eraseAllSession :
    Leaves other (.eraseAllSession threadId) ↔
      other.isSession = true ∧ other.threadId = threadId := by
  unfold Leaves Actor.isSession
  split <;> simp [eq_comm]

end Entries

theorem not_registered_of_isTesterActor {actor : Actor numOfLogicThread}
    (tester : actor.isTesterActor = true) (history : List (Op numOfLogicThread)) :
    ¬ Registered actor history := by
  rintro ⟨-, entry, -, -, enter, -⟩
  unfold Enters at enter
  grind [Actor.isTesterActor]

theorem Directory.kind_eq_some {directory : Directory numOfLogicThread} {isNetworkActor : Bool}
    {actorId : ActorId} {actor : Actor numOfLogicThread} :
    directory.kind isNetworkActor actorId = some actor ↔
      directory actorId = some actor ∧ actor.isSession = isNetworkActor := by
  simp [Directory.kind]

/-- An update with an actor updates the directory of its kind. -/
theorem Directory.kind_update_some (directory : Directory numOfLogicThread)
    (actor : Actor numOfLogicThread) :
    Directory.kind (Function.update directory actor.actorId (some actor)) actor.isSession =
      Function.update (directory.kind actor.isSession) actor.actorId (some actor) := by
  funext actorId
  by_cases own : actorId = actor.actorId
  · subst own
    simp [Directory.kind]
  · simp [Directory.kind, Function.update_of_ne own]

theorem Directory.kind_update_none (directory : Directory numOfLogicThread) (actorId : ActorId)
    (isNetworkActor : Bool) :
    Directory.kind (Function.update directory actorId none) isNetworkActor =
      Function.update (directory.kind isNetworkActor) actorId none := by
  funext other
  by_cases own : other = actorId
  · subst own
    simp [Directory.kind]
  · simp [Directory.kind, Function.update_of_ne own]

/-- An update at an id that has no actor of the kind. -/
theorem Directory.kind_update_other {directory : Directory numOfLogicThread} {actorId : ActorId}
    {isNetworkActor : Bool} (absent : directory.kind isNetworkActor actorId = none)
    {value : Option (Actor numOfLogicThread)}
    (other : ∀ actor ∈ value, actor.isSession ≠ isNetworkActor) :
    Directory.kind (Function.update directory actorId value) isNetworkActor =
      directory.kind isNetworkActor := by
  funext id
  by_cases own : id = actorId
  · subst own
    rw [absent]
    cases value with
    | none => simp [Directory.kind]
    | some actor => simpa [Directory.kind] using other actor rfl
  · simp [Directory.kind, Function.update_of_ne own]

end Directory

/-! ### The shards represent the directory -/

section Refinement

variable {numOfLogicThread : NumOfLogicThread}

/-- The maps after a history represent its directory, which has the registered actors. -/
structure Refines (history : List (Op numOfLogicThread)) (server : Server numOfLogicThread) :
    Prop where
  made : ∀ actor ∈ server.actors,
    actor.number < server.actors.length ∧ actor = newActor actor.number actor.kind
  distinct : ∀ first ∈ server.actors, ∀ second ∈ server.actors,
    first.number = second.number → first = second
  known : ∀ actorId actor, directory history actorId = some actor → actor ∈ server.actors
  registered : ∀ actorId actor, directory history actorId = some actor ↔
    actor.actorId = actorId ∧ Registered actor history
  represents : ∀ isNetworkActor, Represents (getTargetThreadId numOfLogicThread)
    (server.map isNetworkActor) ((directory history).kind isNetworkActor)

theorem refines_initial : Refines [] (initial numOfLogicThread) where
  made := fun _ member => absurd member List.not_mem_nil
  distinct := fun _ member => absurd member List.not_mem_nil
  known := fun _ _ found => absurd found (by simp [directory])
  registered := fun _ _ =>
    ⟨fun found => absurd found (by simp [directory]), fun present => absurd present.2 not_since_nil⟩
  represents := fun isNetworkActor => by
    cases isNetworkActor <;> exact Represents.empty

section Step

variable {history : List (Op numOfLogicThread)} {before after : Server numOfLogicThread}
  {actor : Actor numOfLogicThread} {op : Op numOfLogicThread}

/-- The shard an actor remembers is the shard of its id. -/
theorem Refines.threadId_eq (refines : Refines history before) (member : actor ∈ before.actors) :
    actor.threadId = getTargetThreadId numOfLogicThread actor.actorId := by
  have made := (refines.made actor member).2
  rw [made]
  rfl

/-- **Ids are unique** while they do not wrap around. -/
theorem Refines.unique (refines : Refines history before) (few : before.actors.length < 2 ^ 64)
    {first second : Actor numOfLogicThread} (one : first ∈ before.actors)
    (other : second ∈ before.actors) (same : first.actorId = second.actorId) :
    first = second := by
  apply refines.distinct first one second other
  obtain ⟨early, made⟩ := refines.made first one
  obtain ⟨early', made'⟩ := refines.made second other
  rw [made, made', actorId_newActor, actorId_newActor] at same
  have wrapped : (first.number + 1) % 2 ^ 64 = (second.number + 1) % 2 ^ 64 := same
  omega

/-- Only the actor itself is found at its id. -/
theorem Refines.eq_of_found (refines : Refines history before)
    (few : before.actors.length < 2 ^ 64) (member : actor ∈ before.actors)
    {found : Actor numOfLogicThread} (at_id : directory history actor.actorId = some found) :
    found = actor :=
  refines.unique few (refines.known _ _ at_id) member ((refines.registered _ _).mp at_id).1

/-- No actor of the other kind has the id. -/
theorem Refines.kind_eq_none (refines : Refines history before)
    (few : before.actors.length < 2 ^ 64) (member : actor ∈ before.actors) {other : Bool}
    (different : other ≠ actor.isSession) :
    (directory history).kind other actor.actorId = none := by
  rw [Option.eq_none_iff_forall_not_mem]
  intro found at_id
  obtain ⟨at_id, kind⟩ := Directory.kind_eq_some.mp at_id
  rw [refines.eq_of_found few member at_id] at kind
  exact different kind.symm

/-- A history that changes nothing in the maps. -/
theorem Refines.unchanged (refines : Refines history before)
    (actors : after.actors = before.actors)
    (map : ∀ isNetworkActor, after.map isNetworkActor = before.map isNetworkActor)
    (same : directory (history ++ [op]) = directory history)
    (enters : ∀ other, ¬ Enters other op)
    (leaves : ∀ other, Registered other history → ¬ Leaves other op) :
    Refines (history ++ [op]) after where
  made := by rw [actors]; exact refines.made
  distinct := by rw [actors]; exact refines.distinct
  known := by rw [actors, same]; exact refines.known
  registered := by
    intro actorId other
    rw [same, refines.registered]
    refine and_congr_right fun _ => ?_
    constructor
    · intro registered
      exact since_append.mpr (.inr ⟨registered, leaves other registered⟩)
    · intro registered
      rcases since_append.mp registered with enter | ⟨registered, -⟩
      · exact absurd enter (enters other)
      · exact registered
  represents := by
    intro isNetworkActor
    rw [map, same]
    exact refines.represents isNetworkActor

/-- An operation that exchanges the entry of one actor. -/
theorem Refines.exchanged (refines : Refines history before)
    (few : before.actors.length < 2 ^ 64) (member : actor ∈ before.actors)
    (actors : after.actors = before.actors) {entry : Option (Actor numOfLogicThread)}
    (only : ∀ found, entry = some found → found = actor)
    (updated : directory (history ++ [op]) =
      Function.update (directory history) actor.actorId entry)
    (own : Represents (getTargetThreadId numOfLogicThread) (after.map actor.isSession)
      (Directory.kind (Function.update (directory history) actor.actorId entry) actor.isSession))
    (others : ∀ other, other ≠ actor.isSession → after.map other = before.map other)
    (here : ∀ other, entry = some other ↔
      other.actorId = actor.actorId ∧ Registered other (history ++ [op]))
    (elsewhere : ∀ other, other.actorId ≠ actor.actorId →
      (Registered other (history ++ [op]) ↔ Registered other history)) :
    Refines (history ++ [op]) after where
  made := by rw [actors]; exact refines.made
  distinct := by rw [actors]; exact refines.distinct
  known := by
    intro actorId found at_id
    rw [actors]
    rw [updated] at at_id
    by_cases same : actorId = actor.actorId
    · rw [same, Function.update_self] at at_id
      rw [only found at_id]
      exact member
    · rw [Function.update_of_ne same] at at_id
      exact refines.known actorId found at_id
  registered := by
    intro actorId other
    rw [updated]
    by_cases same : actorId = actor.actorId
    · subst same
      rw [Function.update_self]
      exact here other
    · rw [Function.update_of_ne same, refines.registered]
      refine and_congr_right fun at_id => ?_
      rw [elsewhere other (at_id ▸ same)]
  represents := by
    intro isNetworkActor
    rw [updated]
    by_cases kind : isNetworkActor = actor.isSession
    · rw [kind]
      exact own
    · have absent := refines.kind_eq_none few member kind
      rw [others isNetworkActor kind, Directory.kind_update_other absent]
      · exact refines.represents isNetworkActor
      · rintro other found equal
        rw [only other found] at equal
        exact kind equal.symm

/-- **An actor is registered.** -/
theorem Refines.entered (refines : Refines history before) (few : before.actors.length < 2 ^ 64)
    (member : actor ∈ before.actors) (actors : after.actors = before.actors)
    (own : after.map actor.isSession = ShardedMap.insertNew (before.map actor.isSession)
      actor.threadId actor.actorId actor)
    (others : ∀ other, other ≠ actor.isSession → after.map other = before.map other)
    (updated : directory (history ++ [op]) =
      Function.update (directory history) actor.actorId (some actor))
    (enters : ∀ other, Enters other op ↔ other = actor) (leaves : ∀ other, ¬ Leaves other op) :
    Refines (history ++ [op]) after := by
  have registered (other : Actor numOfLogicThread) :
      Registered other (history ++ [op]) ↔ other = actor ∨ Registered other history := by
    rw [Registered, since_append, enters, and_iff_left (leaves other)]
    rfl
  refine refines.exchanged few member actors (fun found same => (Option.some.inj same).symm) updated
    ?_ others (fun other => ?_) fun other different => ?_
  · rw [own, refines.threadId_eq member, Directory.kind_update_some]
    apply (refines.represents actor.isSession).insertNew
    intro old found
    exact refines.eq_of_found few member (Directory.kind_eq_some.mp found).1
  · rw [registered]
    constructor
    · rintro ⟨rfl⟩
      exact ⟨rfl, .inl rfl⟩
    · rintro ⟨same, rfl | earlier⟩
      · rfl
      · have found := (refines.registered _ _).mpr ⟨same, earlier⟩
        rw [refines.eq_of_found few member found]
  · rw [registered]
    exact or_iff_right fun same => different (congrArg Actor.actorId same)

/-- **An actor is taken out.** -/
theorem Refines.left (refines : Refines history before) (few : before.actors.length < 2 ^ 64)
    (member : actor ∈ before.actors) (actors : after.actors = before.actors)
    (own : after.map actor.isSession = ShardedMap.erase (before.map actor.isSession)
      actor.threadId actor.actorId)
    (others : ∀ other, other ≠ actor.isSession → after.map other = before.map other)
    (updated : directory (history ++ [op]) =
      Function.update (directory history) actor.actorId none)
    (enters : ∀ other, ¬ Enters other op) (leaves : ∀ other, Leaves other op ↔ other = actor) :
    Refines (history ++ [op]) after := by
  have registered (other : Actor numOfLogicThread) :
      Registered other (history ++ [op]) ↔ Registered other history ∧ other ≠ actor := by
    rw [Registered, since_append, leaves, or_iff_right (enters other)]
    rfl
  refine refines.exchanged few member actors (fun found same => by cases same) updated ?_ others
    (fun other => ?_) fun other different => ?_
  · rw [own, refines.threadId_eq member, Directory.kind_update_none]
    exact (refines.represents actor.isSession).erase actor.actorId
  · rw [registered]
    refine iff_of_false (Option.some_ne_none other).symm ?_
    rintro ⟨same, earlier, different⟩
    have found := (refines.registered _ _).mpr ⟨same, earlier⟩
    exact different (refines.eq_of_found few member found)
  · rw [registered]
    exact and_iff_left fun same => different (congrArg Actor.actorId same)

/-- **An actor is constructed.** -/
theorem Refines.constructed (refines : Refines history before) (kind : Kind) :
    Refines (history ++ [.construct kind]) (before.construct kind) where
  made := by
    intro actor member
    rcases List.mem_append.mp member with old | new
    · obtain ⟨early, made⟩ := refines.made actor old
      refine ⟨?_, made⟩
      simp only [Server.construct, List.length_append, List.length_singleton]
      omega
    · obtain rfl := List.mem_singleton.mp new
      refine ⟨?_, rfl⟩
      simp [Server.construct, newActor]
  distinct := by
    have fresh : ∀ actor ∈ before.actors, actor.number ≠ before.actors.length :=
      fun actor member => (refines.made actor member).1.ne
    intro first one second other same
    rcases List.mem_append.mp one with old | new
    · rcases List.mem_append.mp other with old' | new'
      · exact refines.distinct first old second old' same
      · obtain rfl := List.mem_singleton.mp new'
        exact absurd same (fresh first old)
    · obtain rfl := List.mem_singleton.mp new
      rcases List.mem_append.mp other with old' | new'
      · exact absurd same.symm (fresh second old')
      · exact (List.mem_singleton.mp new').symm
  known := by
    intro actorId actor found
    rw [directory_append] at found
    exact List.mem_append_left _ (refines.known actorId actor found)
  registered := by
    intro actorId actor
    have same : (directory history).step (.construct kind) = directory history := rfl
    rw [directory_append, same, refines.registered, Registered, Registered, since_append]
    simp
  represents := by
    rw [directory_append]
    exact refines.represents

/-- **A shard loses its sessions.** -/
theorem Refines.cleared (refines : Refines history before)
    (threadId : ThreadId numOfLogicThread) :
    Refines (history ++ [.eraseAllSession threadId]) (before.eraseAllSession threadId) := by
  have found_iff (actorId : ActorId) (actor : Actor numOfLogicThread) :
      directory (history ++ [.eraseAllSession threadId]) actorId = some actor ↔
        directory history actorId = some actor ∧
          ¬ (actor.isSession = true ∧ actor.threadId = threadId) := by
    rw [directory_append, Directory.step, Option.filter_eq_some_iff]
    grind
  refine ⟨refines.made, refines.distinct, ?_, ?_, ?_⟩
  · intro actorId actor found
    exact refines.known actorId actor ((found_iff actorId actor).mp found).1
  · intro actorId actor
    rw [found_iff, Registered, since_append, leaves_eraseAllSession, refines.registered]
    simp [Registered, and_assoc]
  · rintro (_ | _)
    · have kept : (directory (history ++ [.eraseAllSession threadId])).kind false =
          (directory history).kind false := by
        funext actorId
        apply Option.ext
        intro actor
        rw [Directory.kind_eq_some, Directory.kind_eq_some, found_iff]
        grind
      rw [kept]
      exact refines.represents false
    · have kept : (directory (history ++ [.eraseAllSession threadId])).kind true =
          fun actorId => if getTargetThreadId numOfLogicThread actorId = threadId then none
            else (directory history).kind true actorId := by
        funext actorId
        apply Option.ext
        intro actor
        rw [Directory.kind_eq_some, found_iff]
        have home (found : directory history actorId = some actor) :
            actor.threadId = getTargetThreadId numOfLogicThread actorId := by
          rw [← ((refines.registered _ _).mp found).1]
          exact refines.threadId_eq (refines.known _ _ found)
        split
        · grind
        · rw [Directory.kind_eq_some]
          grind
      rw [kept]
      exact (refines.represents true).clear threadId

/-- **One operation.** -/
theorem Refines.step (refines : Refines history before) (few : before.actors.length < 2 ^ 64)
    (taken : step before op = some after) : Refines (history ++ [op]) after := by
  have updated := directory_append history op
  cases op with
  | construct kind =>
      cases taken
      exact refines.constructed kind
  | insertSession session =>
      obtain ⟨⟨member, kind⟩, taken⟩ := Option.ite_none_right_eq_some.mp taken
      cases taken
      refine refines.entered few member rfl ?_ ?_ updated ?_ ?_
      · rw [kind]
        rfl
      · rw [kind]
        exact map_of_sessionMap rfl
      · exact fun _ => enters_insertSession kind
      · exact fun _ => not_leaves_insertSession
  | eraseSession session =>
      obtain ⟨⟨member, kind⟩, taken⟩ := Option.ite_none_right_eq_some.mp taken
      cases taken
      refine refines.left few member rfl ?_ ?_ updated ?_ ?_
      · rw [kind]
        rfl
      · rw [kind]
        exact map_of_sessionMap rfl
      · exact fun _ => not_enters_eraseSession
      · exact fun _ => leaves_eraseSession kind
  | eraseAllSession threadId =>
      cases taken
      exact refines.cleared threadId
  | registerNonNetworkActor actor =>
      obtain ⟨⟨member, kind⟩, taken⟩ := Option.ite_none_right_eq_some.mp taken
      cases taken
      rw [Directory.step] at updated
      by_cases tester : actor.isTesterActor = true
      · rw [if_pos tester] at updated
        have same : registerNonNetworkActor before actor = before := by
          simp [registerNonNetworkActor, tester]
        rw [same]
        apply refines.unchanged rfl (fun _ => rfl) updated
        · intro other
          simp [enters_registerNonNetworkActor kind, tester]
        · exact fun _ _ => not_leaves_registerNonNetworkActor
      · rw [if_neg tester] at updated
        have registered : registerNonNetworkActor before actor =
            (before.registerNonNetworkActor (some actor) actor.threadId).1 := by
          simp [registerNonNetworkActor, tester]
        rw [registered]
        refine refines.entered few member rfl ?_ ?_ updated ?_ ?_
        · rw [kind]
          rfl
        · rw [kind]
          exact map_of_nonNetworkActorMap rfl
        · intro other
          simp [enters_registerNonNetworkActor kind, tester]
        · exact fun _ => not_leaves_registerNonNetworkActor
  | unregisterNonNetworkActor actor =>
      obtain ⟨⟨member, kind⟩, taken⟩ := Option.ite_none_right_eq_some.mp taken
      cases taken
      rw [Directory.step] at updated
      by_cases tester : actor.isTesterActor = true
      · rw [if_pos tester] at updated
        have same : unregisterNonNetworkActor before actor = before := by
          simp [unregisterNonNetworkActor, tester]
        rw [same]
        apply refines.unchanged rfl (fun _ => rfl) updated
        · exact fun _ => not_enters_unregisterNonNetworkActor
        · intro other registered leave
          obtain rfl := (leaves_unregisterNonNetworkActor kind).mp leave
          exact not_registered_of_isTesterActor tester history registered
      · rw [if_neg tester] at updated
        have unregistered : unregisterNonNetworkActor before actor =
            (before.unregisterNonNetworkActor (some actor) actor.threadId).1 := by
          simp [unregisterNonNetworkActor, tester]
        rw [unregistered]
        refine refines.left few member rfl ?_ ?_ updated ?_ ?_
        · rw [kind]
          rfl
        · rw [kind]
          exact map_of_nonNetworkActorMap rfl
        · exact fun _ => not_enters_unregisterNonNetworkActor
        · exact fun _ => leaves_unregisterNonNetworkActor kind

theorem actors_length_le (taken : step before op = some after) :
    before.actors.length ≤ after.actors.length := by
  cases op with
  | construct kind =>
      cases taken
      simp [Server.construct]
  | eraseAllSession threadId =>
      cases taken
      exact le_rfl
  | insertSession _ | eraseSession _ =>
      obtain ⟨-, taken⟩ := Option.ite_none_right_eq_some.mp taken
      cases taken
      exact le_rfl
  | registerNonNetworkActor _ | unregisterNonNetworkActor _ =>
      obtain ⟨-, taken⟩ := Option.ite_none_right_eq_some.mp taken
      cases taken
      simp only [registerNonNetworkActor, unregisterNonNetworkActor]
      split <;> exact le_rfl

end Step

section Run

variable {history : List (Op numOfLogicThread)} {server : Server numOfLogicThread}

/-- **Every run** of fewer than 2^64 constructions. -/
theorem refines_of_run (executed : run step (initial numOfLogicThread) history = some server)
    (few : server.actors.length < 2 ^ 64) : Refines history server := by
  refine run_history
    (fun history server => server.actors.length < 2 ^ 64 → Refines history server)
    (fun _ => refines_initial) ?_ executed few
  intro history before op after holds taken few
  have few' := (actors_length_le taken).trans_lt few
  exact (holds few').step few' taken

/-- A map has an actor in the shard of its id, while the actor is registered. -/
theorem Refines.lookup_iff (refines : Refines history server) {isNetworkActor : Bool}
    {shard : ThreadId numOfLogicThread} {actorId : ActorId} {actor : Actor numOfLogicThread} :
    AList.lookup actorId (server.map isNetworkActor shard) = some actor ↔
      shard.val = actorId % numOfLogicThread.count ∧ actor.actorId = actorId ∧
        actor.isSession = isNetworkActor ∧ Registered actor history := by
  rw [(refines.represents isNetworkActor).lookup_eq_some_iff, Directory.kind_eq_some,
    refines.registered, Fin.ext_iff, getTargetThreadId_val]
  tauto

/-- `FindActor` finds the registered actors of its kind. -/
theorem Refines.findActor_iff (refines : Refines history server) {isNetworkActor : Bool}
    {actorId : ActorId} {actor : Actor numOfLogicThread} :
    server.findActor actorId isNetworkActor = some actor ↔
      actor.actorId = actorId ∧ actor.isSession = isNetworkActor ∧ Registered actor history := by
  rw [findActor_eq, refines.lookup_iff, getTargetThreadId_val]
  simp

end Run

/-! ### Which lookups an operation changes -/

section Frame

variable {history : List (Op numOfLogicThread)} {before after : Server numOfLogicThread}
  {op : Op numOfLogicThread}

/-- The lookups an operation is about: those of its actor, and of the sessions of a shard. -/
def Op.Concerns (op : Op numOfLogicThread) (actorId : ActorId) (isNetworkActor : Bool) : Prop :=
  match op with
  | .construct _ => False
  | .insertSession actor | .eraseSession actor => isNetworkActor = true ∧ actorId = actor.actorId
  | .eraseAllSession threadId =>
      isNetworkActor = true ∧ actorId % numOfLogicThread.count = threadId.val
  | .registerNonNetworkActor actor | .unregisterNonNetworkActor actor =>
      isNetworkActor = false ∧ actorId = actor.actorId

/-- What changes one map at one id changes the lookup of that id in that map only. -/
theorem findActor_of_aside {kind isNetworkActor : Bool} {changed actorId : ActorId}
    (others : ∀ other, other ≠ kind → after.map other = before.map other)
    (own : ∀ actorId, actorId ≠ changed → ∀ shard,
      AList.lookup actorId (after.map kind shard) = AList.lookup actorId (before.map kind shard))
    (aside : ¬ (isNetworkActor = kind ∧ actorId = changed)) :
    after.findActor actorId isNetworkActor = before.findActor actorId isNetworkActor := by
  rw [findActor_eq, findActor_eq]
  by_cases same : isNetworkActor = kind
  · subst same
    exact own actorId (fun here => aside ⟨rfl, here⟩) _
  · rw [others isNetworkActor same]

/-- **Every other lookup is as it was.** -/
theorem findActor_of_not_concerns (taken : step before op = some after) {actorId : ActorId}
    {isNetworkActor : Bool} (aside : ¬ op.Concerns actorId isNetworkActor) :
    after.findActor actorId isNetworkActor = before.findActor actorId isNetworkActor := by
  cases op with
  | construct kind =>
      cases taken
      cases isNetworkActor <;> rfl
  | insertSession session =>
      obtain ⟨-, taken⟩ := Option.ite_none_right_eq_some.mp taken
      cases taken
      refine findActor_of_aside (map_of_sessionMap rfl) (fun other different shard => ?_) aside
      exact ShardedMap.lookup_insertNew_ne _ _ _ _ different
  | eraseSession session =>
      obtain ⟨-, taken⟩ := Option.ite_none_right_eq_some.mp taken
      cases taken
      refine findActor_of_aside (map_of_sessionMap rfl) (fun other different shard => ?_) aside
      exact ShardedMap.lookup_erase_ne _ _ _ different
  | eraseAllSession threadId =>
      cases taken
      rw [findActor_eq, findActor_eq]
      cases isNetworkActor with
      | false => rfl
      | true =>
          have elsewhere : getTargetThreadId numOfLogicThread actorId ≠ threadId := by
            rintro rfl
            exact aside ⟨rfl, (getTargetThreadId_val numOfLogicThread actorId).symm⟩
          exact congrArg (AList.lookup actorId)
            (ShardedMap.clear_of_ne before.sessionMap elsewhere)
  | registerNonNetworkActor actor =>
      obtain ⟨-, taken⟩ := Option.ite_none_right_eq_some.mp taken
      cases taken
      rw [registerNonNetworkActor]
      split
      · refine findActor_of_aside (map_of_nonNetworkActorMap rfl)
          (fun other different shard => ?_) aside
        exact ShardedMap.lookup_insertNew_ne _ _ _ _ different
      · rfl
  | unregisterNonNetworkActor actor =>
      obtain ⟨-, taken⟩ := Option.ite_none_right_eq_some.mp taken
      cases taken
      rw [unregisterNonNetworkActor]
      split
      · refine findActor_of_aside (map_of_nonNetworkActorMap rfl)
          (fun other different shard => ?_) aside
        exact ShardedMap.lookup_erase_ne _ _ _ different
      · rfl

/-- **`EraseAllSession` clears its shard.** -/
theorem findActor_eraseAllSession (server : Server numOfLogicThread)
    {threadId : ThreadId numOfLogicThread} {actorId : ActorId}
    (inside : actorId % numOfLogicThread.count = threadId.val) :
    (server.eraseAllSession threadId).findActor actorId true = none := by
  have here : getTargetThreadId numOfLogicThread actorId = threadId :=
    Fin.ext (by rw [getTargetThreadId_val, inside])
  rw [findActor_eq, here]
  exact (congrArg (AList.lookup actorId) (ShardedMap.clear_self server.sessionMap threadId)).trans
    (AList.lookup_empty actorId)

end Frame

end Refinement

/-! ### The refinement -/

section Registry

/-- **The registry is one map from ids to actors.** After every sequence of operations with fewer
than 2^64 constructions an actor is in a map exactly while it is registered, in the map of its kind
and in the shard of its id; `FindActor` finds it by its id; and an operation changes only the
lookups it is about, `EraseAllSession` those of the sessions of its shard. -/
theorem registry_refines (numOfLogicThread : NumOfLogicThread)
    (history : List (Op numOfLogicThread)) (server : Server numOfLogicThread)
    (executed : run step (initial numOfLogicThread) history = some server)
    (few : server.actors.length < 2 ^ 64) :
    (∀ isNetworkActor (shard : ThreadId numOfLogicThread) actorId actor,
      AList.lookup actorId (server.map isNetworkActor shard) = some actor ↔
        shard.val = actorId % numOfLogicThread.count ∧ actor.actorId = actorId ∧
          actor.isSession = isNetworkActor ∧ Registered actor history) ∧
    (∀ actorId isNetworkActor actor,
      server.findActor actorId isNetworkActor = some actor ↔
        actor.actorId = actorId ∧ actor.isSession = isNetworkActor ∧ Registered actor history) ∧
    (∀ op after, step server op = some after → ∀ actorId isNetworkActor,
      ¬ op.Concerns actorId isNetworkActor →
        after.findActor actorId isNetworkActor = server.findActor actorId isNetworkActor) ∧
    ∀ threadId : ThreadId numOfLogicThread, ∀ actorId,
      actorId % numOfLogicThread.count = threadId.val →
        (server.eraseAllSession threadId).findActor actorId true = none := by
  have refines := refines_of_run executed few
  refine ⟨?_, ?_, ?_, ?_⟩
  · intro isNetworkActor shard actorId actor
    exact refines.lookup_iff
  · intro actorId isNetworkActor actor
    exact refines.findActor_iff
  · intro op after taken actorId isNetworkActor aside
    exact findActor_of_not_concerns taken aside
  · intro threadId actorId inside
    exact findActor_eraseAllSession server inside

/-- Two logic threads. -/
def twoThreads : NumOfLogicThread := ⟨2, by decide, by decide⟩

/-- A session and a non-network actor on different shards, each registered twice; the shard of the
session is cleared. -/
def registrations : List (Op twoThreads) :=
  [.construct .session, .construct (.nonNetworkActor false), .insertSession (newActor 0 .session),
    .insertSession (newActor 0 .session),
    .registerNonNetworkActor (newActor 1 (.nonNetworkActor false)),
    .eraseAllSession ⟨1, by decide⟩]

theorem registry_refines_registrations :
    Registered (newActor 1 (.nonNetworkActor false)) registrations ∧
      ¬ Registered (newActor 0 .session) registrations := by
  obtain ⟨server, executed⟩ := Option.isSome_iff_exists.mp
    (show (run step (initial twoThreads) registrations).isSome = true by decide)
  have found : (run step (initial twoThreads) registrations).map (fun server =>
      (server.actors.length, server.findActor 2 false, server.findActor 1 true)) =
        some (2, some (newActor 1 (.nonNetworkActor false)), none) := by decide
  rw [executed] at found
  obtain ⟨two, found, erased⟩ : server.actors.length = 2 ∧
      server.findActor 2 false = some (newActor 1 (.nonNetworkActor false)) ∧
      server.findActor 1 true = none := by simpa using found
  have few : server.actors.length < 2 ^ 64 := by omega
  obtain ⟨-, finds, -⟩ := registry_refines twoThreads registrations server executed few
  refine ⟨((finds _ _ _).mp found).2.2, fun registered => ?_⟩
  have again := (finds 1 true (newActor 0 .session)).mpr ⟨rfl, rfl, registered⟩
  rw [erased] at again
  cases again

end Registry

end ActorModelServer.Registry
