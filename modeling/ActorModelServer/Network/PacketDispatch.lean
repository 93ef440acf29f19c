/-
**Packet handlers.**

`RegisterPacketHandler` puts a factory into the actor's `messageFactories`;
`CreateMessageFromPacket` takes the packet id off a buffer and lets the factory of that id make a
message. A message is a closure: what it calls when it is executed, in whatever state the buffers
are in by then.

* `lookup_registerAll` — the table has the factory of the first handler registered for an id.
* `createMessageFromPacket_eq` — the message, in terms of the registrations and the bytes.
* `compiles_iff` — the lambda over the arguments takes none of the elements of its const tuple, so a
  handler that can be registered has no arguments.
* `dispatches` — packets are dispatched as they should be: `Deserialize` does not fail inside the
  factory, and the message calls the handler once.
-/

import ActorModelServer.Library.ShardedMap
import ActorModelServer.Network.Deserializer
import ActorModelServer.Network.Receive

namespace ActorModelServer.PacketDispatch

open ShardedMap (Table)
open Network (ArgType Tuple NetBuffer Sendable encode deserialize deserialize_exact packetId)

section Model

/-- `PACKET_ID`, an unsigned int. -/
abbrev PacketId := ℕ

/-- An `Actor*`, and a `NetBuffer*`. -/
abbrev ActorPointer := ℕ
abbrev Packet := ℕ

/-- The buffers, by their addresses. -/
abbrev Buffers := Packet → NetBuffer

/-- An element that `std::get` yields of a tuple. -/
structure Element where
  type : ArgType
  const : Bool

/-- What `std::apply` hands on of the arguments. They are captured by a lambda that is not
`mutable`, so the tuple is const in it, and `std::move` leaves it so. -/
def unpackedArgs (types : List ArgType) : List Element := types.map fun type => ⟨type, true⟩

/-- A parameter `Args&&` takes an element of its type that is not const. -/
def Element.Binds (element : Element) (parameter : ArgType) : Prop :=
  element.type = parameter ∧ element.const = false

/-- `RegisterPacketHandler` compiles for a member function with the arguments. -/
def Compiles (types : List ArgType) : Prop := List.Forall₂ Element.Binds (unpackedArgs types) types

/-- A member function of an actor that can be registered, and the types of its arguments. -/
structure Handler where
  func : ℕ
  types : List ArgType
  compiles : Compiles types
  deriving DecidableEq, Repr

/-- A call of a member function. -/
structure Call where
  derived : ActorPointer
  handler : Handler
  args : Tuple handler.types

/-- `std::function<void()>`: the calls it makes, given the buffers as they are then. -/
abbrev Message := Buffers → List Call

/-- `MessageFactory`; it reads the buffers as they are when it is called. -/
abbrev MessageFactory := ActorPointer → Packet → Buffers → Message

/-- A call of `RegisterPacketHandler`. -/
structure Registration where
  packetId : PacketId
  handler : Handler
  deriving DecidableEq, Repr

/-- The factory that `RegisterPacketHandler` makes. -/
def messageFactory (handler : Handler) : MessageFactory := fun derived packet buffers =>
  match deserialize handler.types (buffers packet) with
  | none => fun _ => []
  | some args => fun _ => [⟨derived, handler, args⟩]

/-- `RegisterPacketHandler`; what it throws is the error. -/
def registerPacketHandler (messageFactories : Table PacketId MessageFactory)
    (registration : Registration) : Except String (Table PacketId MessageFactory) :=
  if registration.packetId ∈ messageFactories then .error "Packet ID already registered."
  else .ok (AList.insert registration.packetId (messageFactory registration.handler)
    messageFactories)

/-- The table behind a call that may have thrown. -/
def afterRegistration (messageFactories : Table PacketId MessageFactory)
    (registration : Registration) : Table PacketId MessageFactory :=
  match registerPacketHandler messageFactories registration with
  | .ok registered => registered
  | .error _ => messageFactories

/-- The table after a sequence of calls. -/
def registerAll (registrations : List Registration) : Table PacketId MessageFactory :=
  registrations.foldl afterRegistration ∅

/-- `FindFunctionObject`. -/
def findFunctionObject (messageFactories : Table PacketId MessageFactory) (packetId : PacketId)
    (actor : ActorPointer) (packet : Packet) (buffers : Buffers) : Option Message :=
  (AList.lookup packetId messageFactories).map fun factory => factory actor packet buffers

/-- `buffer >> packetId`. -/
def skipPacketId (buffer : NetBuffer) : NetBuffer :=
  { buffer with iRead := buffer.iRead + 4 }

/-- `CreateMessageFromPacket`. -/
def createMessageFromPacket (messageFactories : Table PacketId MessageFactory)
    (actor : ActorPointer) (packet : Packet) (buffers : Buffers) : Option Message :=
  let buffer := buffers packet
  if buffer.useSize < 4 then none
  else
    findFunctionObject messageFactories (packetId buffer.readable) actor packet
      (Function.update buffers packet (skipPacketId buffer))

end Model

/-! ### The handlers -/

section Handlers

/-- **No argument binds**, so there is none. -/
theorem compiles_iff {types : List ArgType} : Compiles types ↔ types = [] := by
  constructor
  · intro compiles
    cases types with
    | nil => rfl
    | cons type rest =>
        obtain ⟨⟨-, mutable⟩, -⟩ := List.forall₂_cons.mp compiles
        cases mutable
  · rintro rfl
    exact .nil

/-- The argument list of a handler is always read. -/
theorem exists_deserialize (handler : Handler) (buffer : NetBuffer) :
    ∃ args, deserialize handler.types buffer = some args := by
  obtain ⟨func, types, compiles⟩ := handler
  obtain rfl := compiles_iff.mp compiles
  exact ⟨(), rfl⟩

end Handlers

/-! ### The table -/

section Registered

/-- The first handler that was registered for the id. -/
def firstHandler (registrations : List Registration) (packetId : PacketId) : Option Handler :=
  (registrations.find? fun registration => registration.packetId = packetId).map
    Registration.handler

theorem firstHandler_append_of_ne (earlier : List Registration) {registration : Registration}
    {packetId : PacketId} (different : registration.packetId ≠ packetId) :
    firstHandler (earlier ++ [registration]) packetId = firstHandler earlier packetId := by
  simp [firstHandler, List.find?_append, different]

theorem firstHandler_append_self (earlier : List Registration) (registration : Registration) :
    firstHandler (earlier ++ [registration]) registration.packetId =
      some ((firstHandler earlier registration.packetId).getD registration.handler) := by
  rw [firstHandler, firstHandler, List.find?_append]
  cases earlier.find? fun other => other.packetId = registration.packetId <;> simp

/-- **The table has the first handler's factory.** -/
theorem lookup_registerAll (registrations : List Registration) (packetId : PacketId) :
    AList.lookup packetId (registerAll registrations) =
      (firstHandler registrations packetId).map messageFactory := by
  induction registrations using List.reverseRecOn with
  | nil => rfl
  | append_singleton earlier registration ih =>
      have last : registerAll (earlier ++ [registration]) =
          afterRegistration (registerAll earlier) registration := List.foldl_concat _ _ _ _
      rw [last, afterRegistration, registerPacketHandler]
      by_cases own : registration.packetId = packetId
      · subst own
        rw [firstHandler_append_self]
        cases found : firstHandler earlier registration.packetId with
        | none =>
            rw [found] at ih
            rw [if_neg (AList.lookup_eq_none.mp ih)]
            exact AList.lookup_insert _
        | some handler =>
            rw [found] at ih
            rw [if_pos (AList.lookup_isSome.mp (ih ▸ rfl))]
            exact ih
      · rw [firstHandler_append_of_ne earlier own]
        split
        · rename_i registered same
          split at same
          · cases same
          · cases same
            rw [AList.lookup_insert_ne fun same => own same.symm]
            exact ih
        · exact ih

/-- A call throws exactly when its id is registered already, and changes nothing then. -/
theorem registerPacketHandler_iff (registrations : List Registration)
    (registration : Registration) :
    (registerPacketHandler (registerAll registrations) registration =
        .error "Packet ID already registered." ↔
      (firstHandler registrations registration.packetId).isSome) ∧
      ((firstHandler registrations registration.packetId).isSome →
        registerAll (registrations ++ [registration]) = registerAll registrations) := by
  have present : registration.packetId ∈ registerAll registrations ↔
      (firstHandler registrations registration.packetId).isSome := by
    rw [← AList.lookup_isSome, lookup_registerAll, Option.isSome_map]
  have last : registerAll (registrations ++ [registration]) =
      afterRegistration (registerAll registrations) registration := List.foldl_concat _ _ _ _
  rw [last, afterRegistration, registerPacketHandler, ← present]
  by_cases known : registration.packetId ∈ registerAll registrations
  · simp [known]
  · simp [known]

end Registered

/-! ### The messages -/

section Dispatch

variable (registrations : List Registration) (actor : ActorPointer) (packet : Packet)
  (buffers : Buffers)

/-- The bytes behind the packet id. -/
def body (buffer : NetBuffer) : List UInt8 := (skipPacketId buffer).readable

/-- The bytes are too few for the arguments: no front of them encodes any. -/
def TooFew (types : List ArgType) (bytes : List UInt8) : Prop :=
  ∀ args : Tuple types, ¬ (Sendable types args ∧ encode types args <+: bytes)

/-- The message that `CreateMessageFromPacket` makes of a packet, or `nullopt`. -/
def created : Option Message :=
  createMessageFromPacket (registerAll registrations) actor packet buffers

/-- **Packet dispatch.** -/
structure Dispatches : Prop where
  registers : ∀ registration,
    (registerPacketHandler (registerAll registrations) registration =
        .error "Packet ID already registered." ↔
      (firstHandler registrations registration.packetId).isSome) ∧
      ((firstHandler registrations registration.packetId).isSome →
        registerAll (registrations ++ [registration]) = registerAll registrations)
  rejects : created registrations actor packet buffers = none ↔
    (buffers packet).useSize < 4 ∨
      firstHandler registrations (packetId (buffers packet).readable) = none ∨
      ∃ handler, firstHandler registrations (packetId (buffers packet).readable) = some handler ∧
        TooFew handler.types (body (buffers packet))
  executes : ∀ message, created registrations actor packet buffers = some message →
    ∃ handler args,
      firstHandler registrations (packetId (buffers packet).readable) = some handler ∧
        Sendable handler.types args ∧ encode handler.types args <+: body (buffers packet) ∧
        ∀ later, message later = [⟨actor, handler, args⟩]

variable {registrations actor packet buffers}

/-- The factory decodes the bytes behind the id. -/
theorem deserialize_body {types : List ArgType} {args : Tuple types} {buffer : NetBuffer} :
    deserialize types (skipPacketId buffer) = some args ↔
      Sendable types args ∧ encode types args <+: body buffer :=
  (deserialize_exact types (skipPacketId buffer)).accepts args

theorem deserialize_eq_none {types : List ArgType} {buffer : NetBuffer} :
    deserialize types (skipPacketId buffer) = none ↔ TooFew types (body buffer) := by
  rw [Option.eq_none_iff_forall_ne_some]
  exact forall_congr' fun args => not_congr deserialize_body

/-- **What is made of a packet**: nothing of a short one or one without a handler, and otherwise
what the handler's factory makes. -/
theorem created_eq : created registrations actor packet buffers =
    if (buffers packet).useSize < 4 then none
    else (firstHandler registrations (packetId (buffers packet).readable)).map fun handler _ =>
      ((deserialize handler.types (skipPacketId (buffers packet))).map
        fun args => (⟨actor, handler, args⟩ : Call)).toList := by
  rw [created, createMessageFromPacket, findFunctionObject, lookup_registerAll, Option.map_map]
  split
  · rfl
  · congr 1
    funext handler
    simp only [Function.comp_def, messageFactory, Function.update_self]
    cases deserialize handler.types (skipPacketId (buffers packet)) <;> rfl

/-- The bytes are enough for every handler. -/
theorem not_tooFew (handler : Handler) (buffer : NetBuffer) :
    ¬ TooFew handler.types (body buffer) := by
  obtain ⟨args, read⟩ := exists_deserialize handler (skipPacketId buffer)
  rw [← deserialize_eq_none, read]
  exact Option.some_ne_none args

/-- **Packets are dispatched** to the first handler registered for their id, for every sequence of
registrations and every buffer. -/
theorem dispatches (registrations : List Registration) (actor : ActorPointer) (packet : Packet)
    (buffers : Buffers) : Dispatches registrations actor packet buffers := by
  refine ⟨registerPacketHandler_iff registrations, ?_, fun message made => ?_⟩
  · rw [created_eq]
    by_cases small : (buffers packet).useSize < 4
    · simp [small]
    · rw [if_neg small, Option.map_eq_none_iff]
      constructor
      · exact fun unknown => .inr (.inl unknown)
      · rintro (short | unknown | ⟨handler, found, few⟩)
        · exact absurd short small
        · exact unknown
        · exact absurd few (not_tooFew handler _)
  · rw [created_eq] at made
    obtain ⟨large, made⟩ := Option.ite_none_left_eq_some.mp made
    obtain ⟨handler, found, rfl⟩ := Option.map_eq_some_iff.mp made
    obtain ⟨args, decoded⟩ := exists_deserialize handler (skipPacketId (buffers packet))
    obtain ⟨fits, front⟩ := deserialize_body.mp decoded
    refine ⟨handler, args, found, fits, front, fun later => ?_⟩
    rw [decoded]
    rfl

/-- The factory of an id, on the bytes behind it. -/
def factoryOf (registrations : List Registration) (actor : ActorPointer) (packetId : PacketId) :
    Option (List UInt8 → Message) :=
  (firstHandler registrations packetId).map fun handler bytes =>
    messageFactory handler actor 0 fun _ => ⟨bytes, 0, bytes.length⟩

/-- **The message is the one the receiving code makes**, with these factories, of a buffer that was
written as far as it says. -/
theorem created_eq_createMessageFromPacket
    (whole : (buffers packet).iWrite ≤ (buffers packet).serializeBuffer.length) :
    created registrations actor packet buffers =
      Network.createMessageFromPacket (factoryOf registrations actor) (buffers packet) := by
  have readable := NetBuffer.readable_eq_unread whole
  have behind : body (buffers packet) = (buffers packet).unread.drop 4 := by
    have rest : (skipPacketId (buffers packet)).readable =
        (skipPacketId (buffers packet)).unread := NetBuffer.readable_eq_unread whole
    exact rest.trans (List.drop_drop ..).symm
  have own : NetBuffer.readable ⟨(buffers packet).unread.drop 4, 0,
      ((buffers packet).unread.drop 4).length⟩ = (buffers packet).unread.drop 4 := by
    rw [NetBuffer.readable_eq_unread (Nat.le_refl _)]
    simp [NetBuffer.unread, NetBuffer.written]
  rw [created_eq, Network.createMessageFromPacket, ← readable, factoryOf, Option.map_map]
  split
  · rfl
  · congr 1
    funext handler
    rw [readable]
    simp only [Function.comp_def, messageFactory]
    rw [Network.deserialize_eq_of_readable handler.types (behind.trans own.symm)]
    cases deserialize handler.types _ <;> rfl

end Dispatch

end ActorModelServer.PacketDispatch
