/-
**The client's actors.**

`Client::ProcessLogic` reads the packets of the server; `APPEAR_ACTOR` constructs an actor and puts
it into `ActorManager`, `DISAPPEAR_ACTOR` takes it out. `CreateActor` hands the actor's type to the
constructor in place of its id, `Actor::Create` and `Client::AddActor` both put the actor into the
map, and the case of `DISAPPEAR_ACTOR` runs on into the default case.

* `explained` — what the world is after any notifications: the map has at most the key 1, and every
  actor is told twice that it was created.
* `mirrors_iff` — the world is what the notifications say exactly when no actor appears.
* `appeared_missing` — an actor that appeared is not found.
-/

import ActorModelServer.Library.Runs
import Mathlib.Data.List.Count

namespace ActorModelServer.ClientWorld

open StepRuns (Since EachAfter since_append eachAfter_append not_since_nil eachAfter_nil)

section Model

/-- A callback of an actor object; the objects are numbered in the order of their construction. -/
inductive Callback
  | onActorCreated (object : ℕ)
  | onActorDestroyed (object : ℕ)
  deriving DecidableEq, Repr

/-- The actors of the client, and what it has done. -/
structure World where
  /-- The `actorId` of every object. -/
  actors : List UInt64
  actorMap : UInt64 → Option ℕ
  callbacks : List Callback
  logs : List String
  /-- How many `Ping`s were sent. -/
  pings : ℕ

/-- The world of a client that starts. -/
def initial : World := ⟨[], fun _ => none, [], [], 0⟩

/-- The type of a player. -/
def PLAYER : UInt16 := 1

/-- A packet, with what its case of `ProcessLogic` reads. -/
structure Packet where
  packetId : UInt32
  actorId : UInt64
  actorType : UInt16

namespace World

/-- `LOG_ERROR`. -/
def logError (world : World) (logString : String) : World :=
  { world with logs := world.logs ++ [logString] }

/-- `Actor::GetActorId`. -/
def getActorId (world : World) (object : ℕ) : UInt64 := world.actors.getD object 0

/-- `ActorManager::FindActor`. -/
def findActor (world : World) (actorId : UInt64) : Option ℕ := world.actorMap actorId

/-- `ActorManager::AddActor`. -/
def addActor (world : World) (actor : Option ℕ) : World :=
  match actor with
  | none => world
  | some object =>
      { world with
        actorMap := Function.update world.actorMap (world.getActorId object) (some object)
        callbacks := world.callbacks ++ [.onActorCreated object] }

/-- `ActorManager::RemoveActor`. -/
def removeActor (world : World) (actorId : UInt64) : World :=
  match world.actorMap actorId with
  | none => world
  | some eraseActor =>
      { world with
        actorMap := Function.update world.actorMap actorId none
        callbacks := world.callbacks ++ [.onActorDestroyed eraseActor] }

/-- `Actor::Create<Player>`; it registers the actor. -/
def create (world : World) (inActorId : UInt64) : World × ℕ :=
  let actor := world.actors.length
  ({ world with actors := world.actors ++ [inActorId] }.addActor (some actor), actor)

/-- `ActorCreator::CreateActor`: the constructor gets the type. -/
def createActor (world : World) (_inActorId : UInt64) (inActorType : UInt16) :
    World × Option ℕ :=
  if inActorType = PLAYER then
    ((world.create inActorType.toUInt64).1, some (world.create inActorType.toUInt64).2)
  else
    (world.logError ("[ActorCreator] Unknown actor type: " ++ toString inActorType), none)

/-- `Client::AddActor`. -/
def clientAddActor (world : World) (actorId : UInt64) (actorType : UInt16) : World :=
  match world.createActor actorId actorType with
  | (world, none) =>
      world.logError ("[Client] Failed to create actor. Actor ID: " ++ toString actorId ++
        ", Actor Type: " ++ toString actorType)
  | (world, some newActor) => world.addActor (some newActor)

/-- The default case. -/
def unknownPacket (world : World) (packet : Packet) : World :=
  world.logError ("[Client] Unknown packet received. Packet ID: " ++ toString packet.packetId)

/-- `Client::ProcessLogic`. -/
def processLogic (world : World) (packet : Packet) : World :=
  match packet.packetId with
  | 2 => { world with pings := world.pings + 1 }
  | 3 => world.clientAddActor packet.actorId packet.actorType
  -- there is no `break`
  | 4 => (world.removeActor packet.actorId).unknownPacket packet
  | _ => world.unknownPacket packet

end World

/-- What the server tells about an actor. -/
inductive Notification
  | appearActor (actorId : UInt64)
  | disappearActor (actorId : UInt64)
  deriving DecidableEq, Repr

/-- The packet of a notification; every actor that appears is a player. -/
def Notification.packet : Notification → Packet
  | .appearActor actorId => ⟨3, actorId, PLAYER⟩
  | .disappearActor actorId => ⟨4, actorId, 0⟩

/-- The world after the notifications. -/
def after (notifications : List Notification) : World :=
  notifications.foldl (fun world notification => world.processLogic notification.packet) initial

/-- The last notification about the id says that the actor appears. -/
def Appeared (actorId : UInt64) (notifications : List Notification) : Prop :=
  Since (· = .appearActor actorId) (· = .disappearActor actorId) notifications

/-- The world is what the notifications say. -/
structure Mirrors (notifications : List Notification) (world : World) : Prop where
  found : ∀ actorId, (∃ object, world.findActor actorId = some object ∧
    world.getActorId object = actorId) ↔ Appeared actorId notifications
  created : ∀ object < world.actors.length, world.callbacks.count (.onActorCreated object) = 1
  destroyed : ∀ object < world.actors.length,
    world.callbacks.count (.onActorDestroyed object) ≤ 1
  order : EachAfter (fun front callback => ∀ object, callback = .onActorDestroyed object →
    .onActorCreated object ∈ front) world.callbacks

end Model

/-! ### What a notification does -/

section Steps

variable (world : World) (actorId : UInt64)

/-- **An actor appears**: a new object, at the key 1, and two callbacks. -/
theorem processLogic_appearActor :
    world.processLogic (Notification.appearActor actorId).packet =
      { world with
        actors := world.actors ++ [1]
        actorMap := Function.update world.actorMap 1 (some world.actors.length)
        callbacks := world.callbacks ++
          [.onActorCreated world.actors.length, .onActorCreated world.actors.length] } := by
  have key : (world.actors ++ [1]).getD world.actors.length 0 = 1 := by simp
  show ((world.create 1).1.addActor (some world.actors.length)) = _
  simp only [World.create, World.addActor, World.getActorId, key, Function.update_idem,
    List.append_assoc, List.cons_append, List.nil_append]

/-- An actor that is not in the map disappears. -/
theorem processLogic_disappearActor_none (missing : world.actorMap actorId = none) :
    world.processLogic (Notification.disappearActor actorId).packet =
      world.unknownPacket (Notification.disappearActor actorId).packet := by
  show (world.removeActor actorId).unknownPacket _ = _
  unfold World.removeActor
  rw [missing]

/-- An actor of the map disappears. -/
theorem processLogic_disappearActor_some {object : ℕ}
    (here : world.actorMap actorId = some object) :
    world.processLogic (Notification.disappearActor actorId).packet =
      ({ world with
        actorMap := Function.update world.actorMap actorId none
        callbacks := world.callbacks ++ [.onActorDestroyed object] } : World).unknownPacket
          (Notification.disappearActor actorId).packet := by
  show (world.removeActor actorId).unknownPacket _ = _
  unfold World.removeActor
  rw [here]

end Steps

/-! ### What the world is -/

section Explained

/-- What holds after any notifications. -/
structure Explained (notifications : List Notification) (world : World) : Prop where
  appeared : world.actors ≠ [] ↔ ∃ actorId, .appearActor actorId ∈ notifications
  /-- Every object has the type of a player for its id. -/
  ids : ∀ actorId ∈ world.actors, actorId = 1
  created : ∀ object, world.callbacks.count (.onActorCreated object) =
    if object < world.actors.length then 2 else 0
  destroyed : ∀ object, world.callbacks.count (.onActorDestroyed object) ≤ 1
  order : EachAfter (fun front callback => ∀ object, callback = .onActorDestroyed object →
    .onActorCreated object ∈ front) world.callbacks
  map : ∀ actorId object, world.actorMap actorId = some object →
    actorId = 1 ∧ object < world.actors.length ∧ .onActorDestroyed object ∉ world.callbacks
  /-- The key 1 is in the map from any appearance to the next disappearance of the id 1. -/
  present : world.actorMap 1 ≠ none ↔
    Since (fun notification => ∃ actorId, notification = .appearActor actorId)
      (· = .disappearActor 1) notifications

variable {notifications : List Notification} {world : World}

theorem explained_initial : Explained [] initial where
  appeared := by simp [initial]
  ids := fun _ member => absurd member List.not_mem_nil
  created := fun _ => rfl
  destroyed := fun _ => Nat.zero_le 1
  order := eachAfter_nil
  map := fun _ _ found => by cases found
  present := by
    constructor
    · exact fun found => absurd rfl found
    · exact fun since => absurd since not_since_nil

theorem Explained.appear (explained : Explained notifications world) (actorId : UInt64) :
    Explained (notifications ++ [.appearActor actorId])
      (world.processLogic (Notification.appearActor actorId).packet) := by
  rw [processLogic_appearActor]
  constructor
  · constructor
    · exact fun _ => ⟨actorId, by simp⟩
    · exact fun _ => by simp
  · intro other member
    rcases List.mem_append.mp member with before | new
    · exact explained.ids other before
    · exact List.mem_singleton.mp new
  · intro object
    have before := explained.created object
    rw [List.count_append, before, List.length_append, List.length_singleton]
    rcases Nat.lt_trichotomy object world.actors.length with old | rfl | later
    · have other : world.actors.length ≠ object := by omega
      simp [other, old, Nat.lt_succ_of_lt old]
    · simp
    · have other : world.actors.length ≠ object := by omega
      simp [other, Nat.not_lt_of_lt later]
      omega
  · intro object
    rw [List.count_append]
    simpa using explained.destroyed object
  · have first := eachAfter_append.mpr ⟨explained.order,
      fun _ (same : Callback.onActorCreated world.actors.length = _) => by cases same⟩
    have second := eachAfter_append.mpr ⟨first,
      fun _ (same : Callback.onActorCreated world.actors.length = _) => by cases same⟩
    rw [List.append_assoc] at second
    exact second
  · intro other object found
    change Function.update world.actorMap 1 (some world.actors.length) other = some object at found
    by_cases same : other = 1
    · subst same
      obtain rfl : world.actors.length = object := by simpa using found
      refine ⟨rfl, by simp, fun destroyed => ?_⟩
      have before : .onActorDestroyed world.actors.length ∈ world.callbacks := by
        simpa using destroyed
      obtain ⟨front, later, split⟩ := List.append_of_mem before
      have created : .onActorCreated world.actors.length ∈ world.callbacks := by
        rw [split]
        exact List.mem_append_left _ (explained.order front _ later split _ rfl)
      have none := explained.created world.actors.length
      rw [if_neg (Nat.lt_irrefl _), List.count_eq_zero] at none
      exact none created
    · have before : world.actorMap other = some object := by
        simpa [Function.update_of_ne same] using found
      exact absurd (explained.map other object before).1 same
  · rw [since_append]
    exact ⟨fun _ => .inl ⟨actorId, rfl⟩, fun _ => by simp⟩

/-- What is logged is no part of it. -/
theorem Explained.unknownPacket (explained : Explained notifications world) (packet : Packet) :
    Explained notifications (world.unknownPacket packet) :=
  ⟨explained.appeared, explained.ids, explained.created, explained.destroyed, explained.order,
    explained.map, explained.present⟩

/-- A notification about an actor that is not in the map. -/
theorem Explained.missing (explained : Explained notifications world) {actorId : UInt64}
    (missing : world.actorMap actorId = none) :
    Explained (notifications ++ [.disappearActor actorId]) world := by
  refine ⟨?_, explained.ids, explained.created, explained.destroyed, explained.order,
    explained.map, ?_⟩
  · simpa using explained.appeared
  · rw [since_append]
    constructor
    · intro found
      refine .inr ⟨explained.present.mp found, fun same => found ?_⟩
      obtain rfl : actorId = 1 := by simpa using same
      exact missing
    · rintro (⟨other, new⟩ | ⟨since, -⟩)
      · cases new
      · exact explained.present.mpr since

/-- The actor of the map goes. -/
theorem Explained.erase (explained : Explained notifications world) {object : ℕ}
    (here : world.actorMap 1 = some object) :
    Explained (notifications ++ [.disappearActor 1])
      { world with
        actorMap := Function.update world.actorMap 1 none
        callbacks := world.callbacks ++ [.onActorDestroyed object] } := by
  obtain ⟨-, inside, alive⟩ := explained.map 1 object here
  have created : .onActorCreated object ∈ world.callbacks := by
    have twice := explained.created object
    rw [if_pos inside] at twice
    exact List.count_pos_iff.mp (by omega)
  constructor
  · simpa using explained.appeared
  · exact explained.ids
  · intro other
    rw [List.count_append]
    simpa using explained.created other
  · intro other
    rw [List.count_append]
    by_cases same : object = other
    · subst same
      simp [List.count_eq_zero.mpr alive]
    · simpa [same] using explained.destroyed other
  · refine eachAfter_append.mpr ⟨explained.order, fun other same => ?_⟩
    obtain rfl : object = other := by simpa using same
    exact created
  · intro other found stays
    change Function.update world.actorMap 1 none other = some found at stays
    by_cases same : other = 1
    · subst same
      rw [Function.update_self] at stays
      cases stays
    · rw [Function.update_of_ne same] at stays
      exact absurd (explained.map other found stays).1 same
  · rw [since_append]
    constructor
    · intro found
      refine absurd ?_ found
      show Function.update world.actorMap 1 none 1 = none
      rw [Function.update_self]
    · rintro (⟨other, new⟩ | ⟨-, stays⟩)
      · cases new
      · exact absurd rfl stays

theorem Explained.disappear (explained : Explained notifications world) (actorId : UInt64) :
    Explained (notifications ++ [.disappearActor actorId])
      (world.processLogic (Notification.disappearActor actorId).packet) := by
  cases here : world.actorMap actorId with
  | none =>
      rw [processLogic_disappearActor_none _ _ here]
      exact (explained.missing here).unknownPacket _
  | some object =>
      obtain ⟨rfl, -⟩ := explained.map actorId object here
      rw [processLogic_disappearActor_some _ _ here]
      exact (explained.erase here).unknownPacket _

/-- **The world after any notifications.** -/
theorem explained (notifications : List Notification) :
    Explained notifications (after notifications) := by
  induction notifications using List.reverseRecOn with
  | nil => exact explained_initial
  | append_singleton notifications notification ih =>
      unfold after at ih ⊢
      rw [List.foldl_append]
      cases notification with
      | appearActor actorId => exact ih.appear actorId
      | disappearActor actorId => exact ih.disappear actorId

end Explained

/-! ### The notifications and the world -/

section Mirrors

/-- **The world is what the notifications say** exactly when no actor appears. -/
theorem mirrors_iff (notifications : List Notification) :
    Mirrors notifications (after notifications) ↔
      ∀ actorId, .appearActor actorId ∉ notifications := by
  have explained := explained notifications
  constructor
  · intro mirrors actorId appears
    have some : 0 < (after notifications).actors.length :=
      List.length_pos_iff.mpr (explained.appeared.mpr ⟨actorId, appears⟩)
    have twice := explained.created 0
    rw [mirrors.created 0 some, if_pos some] at twice
    exact absurd twice (by decide)
  · intro none
    have empty : (after notifications).actors = [] := by
      by_contra appeared
      obtain ⟨actorId, appears⟩ := explained.appeared.mp appeared
      exact none actorId appears
    refine ⟨fun actorId => ⟨?_, ?_⟩, ?_, fun object _ => explained.destroyed object,
      explained.order⟩
    · rintro ⟨object, found, -⟩
      have inside := (explained.map actorId object found).2.1
      rw [empty] at inside
      exact absurd inside (Nat.not_lt_zero object)
    · rintro ⟨earlier, entry, later, rfl, rfl, -⟩
      exact absurd (List.mem_append_right _ (.head _)) (none actorId)
    · intro object inside
      rw [empty] at inside
      exact absurd inside (Nat.not_lt_zero object)

/-- **An actor that appeared is not found**: the actor with the id 7 is at the key 1. -/
theorem appeared_missing :
    ¬ ∀ notifications, Mirrors notifications (after notifications) := by
  intro mirrors
  have appeared : Appeared 7 [.appearActor 7] :=
    ⟨[], .appearActor 7, [], rfl, rfl, fun _ member => absurd member List.not_mem_nil⟩
  obtain ⟨object, found, -⟩ := ((mirrors [.appearActor 7]).found 7).mpr appeared
  have missing : (after [.appearActor 7]).findActor 7 = none := by decide
  rw [missing] at found
  cases found

end Mirrors

end ActorModelServer.ClientWorld
