/-
**From a completion to its session.**

The code that hands a completion to a session: `RunAcceptThread`, which takes a key from
`ioCompletionKeyPool` for each socket and fills it, and `RunIoThread`, which reads the key a
completion comes with, looks the session up, and gives the key back at the top of its loop. Clients
are numbered as they are accepted, and so are their sockets, sessions and keys. Other actors that
are created, sessions that leave `sessionMap`, and operations other threads post are steps of the
surroundings.

The pool may return every block that is not allocated. A completion of a socket comes with the key
that was registered for it.

* `routed` — while no socket has a second completion (`FirstCompletion`), a completion goes to the
  session of its socket and a key is given back at most once.
* `misrouted` — a second completion goes to another client's session, and a key is given back twice.
-/

import ActorModelServer.Library.ThreadTable
import Mathlib.Data.List.Count
import Mathlib.Tactic.DeriveFintype

namespace ActorModelServer.CompletionRouting

open StepRuns (Reach Unguarded exists_reach_of_run exists_reach_of_runGuarded)
open ThreadTable (threadStep threadStep_eq_some tally tally_update weight_le_tally)

universe u

section Model

/-- The number of an accepted client: its socket, its session and its key. -/
abbrev Client := ℕ

/-- `IOCompletionKeyType`. -/
structure IOCompletionKey where
  sessionId : ℕ
  threadId : ℕ
  deriving DecidableEq, Repr

/-- `IOCP_CLOSE_KEY`; the thread id is an unsigned char. -/
def iocpCloseKey : IOCompletionKey := ⟨2 ^ 64 - 1, 255⟩

variable (Address : Type u)

/-- What the threads share, with its history. -/
structure Server where
  /-- How many actors were created; `actorIdGenerator` is this number modulo 2^64. -/
  actors : ℕ
  numOfLogicThread : ℕ
  clients : ℕ
  /-- The id and the thread id of each client's session. -/
  sessionKey : Client → IOCompletionKey
  /-- `ioCompletionKeyPool`: the allocated blocks, what is in a block, and for which client it was
  allocated last. -/
  allocated : Address → Bool
  contents : Address → IOCompletionKey
  owner : Address → Option Client
  /-- The key registered for a socket. -/
  registered : Client → Option Address
  /-- Operations of a socket that were posted, and have not completed; those that have. -/
  outstanding : Client → ℕ
  completed : Client → ℕ
  sessionMap : IOCompletionKey → Option Client
  /-- Each call of `OnIoCompleted`: whose socket completed, and whose session was handed over. -/
  handed : List (Client × Client)
  /-- The keys given back. -/
  freed : List Client

/-- Where a thread is. The client in a place of an IO thread is the one whose socket completed. -/
inductive Place
  /- `RunAcceptThread` -/
  | acceptWait
  | acceptFill (client : Client) (key : Address)
  | acceptAssociate (client : Client) (key : Address)
  | acceptInsert (client : Client)
  | acceptRecv (client : Client)
  /- `RunIoThread` -/
  | ioTop (ioCompletionKey : Option (Client × Address))
  | ioWait
  | ioFind (client : Client) (key : Address) (succeeded : Bool)
  | onIoCompleted (client : Client) (key : Address) (session : Client)
  | ioStopped
  /- everybody else -/
  | surroundings
  deriving DecidableEq

/-- What the code leaves to its surroundings. -/
inductive Choice
  | go
  /- a connection is accepted, and the pool returns a block -/
  | accept (key : Address)
  /- the system takes an operation, refuses it, or fails in a way the code does not test for -/
  | accepted
  | refused
  | unnoticed
  /- a completion of a socket arrives, or `GetQueuedCompletionStatus` returns no overlapped
  structure -/
  | completion (client : Client) (succeeded : Bool)
  | noOverlapped
  /- the session posts an operation; it has no more to post -/
  | post
  | return
  /- an operation of a session is posted elsewhere, a session leaves `sessionMap`, an actor is
  created -/
  | postElsewhere (client : Client)
  | erase (key : IOCompletionKey)
  | createActor
  deriving DecidableEq

variable {Address}
variable [DecidableEq Address]

/-- `GenerateActorId` and `GetTargetThreadId`. -/
def Server.newKey (server : Server Address) : IOCompletionKey :=
  ⟨(server.actors + 1) % 2 ^ 64, (server.actors + 1) % 2 ^ 64 % server.numOfLogicThread⟩

/-- `CreateSession` and `ioCompletionKeyPool.Alloc`. -/
@[simps]
def Server.accept (server : Server Address) (key : Address) : Server Address :=
  { server with
    actors := server.actors + 1
    clients := server.clients + 1
    sessionKey := Function.update server.sessionKey server.clients server.newKey
    allocated := Function.update server.allocated key true
    owner := Function.update server.owner key (some server.clients) }

/-- `ioCompletionKeyPool.Free`. -/
@[simps]
def Server.free (server : Server Address) (key : Address) : Server Address :=
  { server with
    allocated := Function.update server.allocated key false
    freed := server.freed ++ (server.owner key).toList }

/-- A socket gets an operation. -/
@[simps]
def Server.post (server : Server Address) (client : Client) : Server Address :=
  { server with
    outstanding := Function.update server.outstanding client (server.outstanding client + 1) }

/-- `InsertSession`: a session id that is there stays. -/
@[simps]
def Server.insertSession (server : Server Address) (client : Client) : Server Address :=
  { server with
    sessionMap := Function.update server.sessionMap (server.sessionKey client)
      (some ((server.sessionMap (server.sessionKey client)).getD client)) }

/-- One step of a thread. -/
def act (server : Server Address) (place : Place Address) (choice : Choice Address) :
    Option (Server Address × Place Address) :=
  match place, choice with
  | .acceptWait, .accept key =>
      if server.allocated key = false then some (server.accept key, .acceptFill server.clients key)
      else none
  | .acceptFill client key, .go =>
      some ({ server with
          contents := Function.update server.contents key (server.sessionKey client) },
        .acceptAssociate client key)
  | .acceptAssociate client key, .accepted =>
      some ({ server with registered := Function.update server.registered client (some key) },
        .acceptInsert client)
  | .acceptAssociate _ _, .refused => some (server, .acceptWait)
  -- `CreateIoCompletionPort` reports failure by NULL, the code tests for INVALID_HANDLE_VALUE
  | .acceptAssociate client _, .unnoticed => some (server, .acceptInsert client)
  | .acceptInsert client, .go => some (server.insertSession client, .acceptRecv client)
  | .acceptRecv client, .accepted => some (server.post client, .acceptWait)
  | .acceptRecv _, .refused => some (server, .acceptWait)
  | .ioTop none, .go => some (server, .ioWait)
  | .ioTop (some (_, key)), .go => some (server.free key, .ioWait)
  | .ioWait, .noOverlapped => some (server, .ioStopped)
  | .ioWait, .completion client succeeded =>
      match server.registered client with
      | none => none
      | some key =>
          if 0 < server.outstanding client then
            some ({ server with
                outstanding := Function.update server.outstanding client
                  (server.outstanding client - 1)
                completed := Function.update server.completed client
                  (server.completed client + 1) },
              .ioFind client key succeeded)
          else none
  | .ioFind client key succeeded, .go =>
      if server.contents key = iocpCloseKey then some (server, .ioStopped)
      else
        match server.sessionMap (server.contents key) with
        | none => some (server, .ioTop (some (client, key)))
        | some session =>
            if succeeded then
              some ({ server with handed := server.handed ++ [(client, session)] },
                .onIoCompleted client key session)
            else some (server, .ioTop (some (client, key)))
  | .onIoCompleted client key session, .post =>
      some (server.post session, .onIoCompleted client key session)
  | .onIoCompleted client key _, .return => some (server, .ioTop (some (client, key)))
  | .surroundings, .postElsewhere client => some (server.post client, .surroundings)
  | .surroundings, .erase key =>
      some ({ server with sessionMap := Function.update server.sessionMap key none },
        .surroundings)
  | .surroundings, .createActor => some ({ server with actors := server.actors + 1 }, .surroundings)
  | _, _ => none

/-- The threads. -/
inductive Tid (Io : Type)
  | accept
  | io (worker : Io)
  | surroundings
  deriving DecidableEq, Fintype

/-- The server with its threads. -/
abbrev State (Address : Type u) (Io : Type) :=
  ThreadTable.System (Server Address) (Tid Io) (Place Address)

variable (Address) in
/-- The start: no clients, and every block free. -/
def initialServer (numOfLogicThread : ℕ) : Server Address where
  actors := 0
  numOfLogicThread := numOfLogicThread
  clients := 0
  sessionKey := fun _ => ⟨0, 0⟩
  allocated := fun _ => false
  contents := fun _ => ⟨0, 0⟩
  owner := fun _ => none
  registered := fun _ => none
  outstanding := fun _ => 0
  completed := fun _ => 0
  sessionMap := fun _ => none
  handed := []
  freed := []

/-- Where each thread starts. -/
def initialPlace {Io : Type} : Tid Io → Place Address
  | .accept => .acceptWait
  | .io _ => .ioTop none
  | .surroundings => .surroundings

variable (Address) in
/-- The start of the server. -/
def initial (Io : Type) (numOfLogicThread : ℕ) : State Address Io :=
  ⟨initialServer Address numOfLogicThread, initialPlace⟩

/-- One step of the server. -/
def step {Io : Type} [DecidableEq Io] :
    State Address Io → Tid Io × Choice Address → Option (State Address Io) := threadStep act

end Model

/-! ### Who has a key -/

section Keys

variable {Address : Type u}

/-- The key a place has in its hands, and whose it is. -/
def Place.key : Place Address → Option (Client × Address)
  | .acceptFill client key => some (client, key)
  | .acceptAssociate client key => some (client, key)
  | .ioTop ioCompletionKey => ioCompletionKey
  | .ioFind client key _ => some (client, key)
  | .onIoCompleted client key _ => some (client, key)
  | _ => none

/-- The key a place is about to use, which has to be filled. -/
def Place.filledKey : Place Address → Option (Client × Address)
  | .acceptAssociate client key => some (client, key)
  | .ioFind client key _ => some (client, key)
  | _ => none

/-- How many keys of a client a place has in its hands. -/
def keysOf (client : Client) (place : Place Address) : ℕ :=
  if place.key.map Prod.fst = some client then 1 else 0

/-- The key of a client waits, registered, for its socket's first completion. -/
def waiting (server : Server Address) (client : Client) : ℕ :=
  if (server.registered client).isSome ∧ server.completed client = 0 then 1 else 0

/-- How many keys were taken for a client. -/
def taken (server : Server Address) (client : Client) : ℕ :=
  if client < server.clients then 1 else 0

/-- A block is a client's. -/
def Owns (server : Server Address) (client : Client) (key : Address) : Prop :=
  server.allocated key = true ∧ server.owner key = some client

/-- What a place relies on: the key in its hands is its client's, and filled before it is used. -/
structure Held (server : Server Address) (place : Place Address) : Prop where
  owned : ∀ client key, place.key = some (client, key) → Owns server client key
  filled : ∀ client key, place.filledKey = some (client, key) →
    server.contents key = server.sessionKey client
  old : ∀ client, place = .acceptInsert client → client < server.clients

/-- The registered keys that wait are their clients', and filled. -/
def Queued (server : Server Address) : Prop :=
  ∀ client key, server.registered client = some key → server.completed client = 0 →
    Owns server client key ∧ server.contents key = server.sessionKey client

/-- Sessions have different keys, and `sessionMap` finds a session by its own. -/
structure Keyed (server : Server Address) : Prop where
  old : ∀ client, client < server.clients → (server.sessionKey client).sessionId ≤ server.actors
  distinct : ∀ first second, first < server.clients → second < server.clients →
    server.sessionKey first = server.sessionKey second → first = second
  mapped : ∀ key client, server.sessionMap key = some client →
    client < server.clients ∧ server.sessionKey client = key

theorem key_of_filledKey {place : Place Address} {client : Client} {key : Address}
    (uses : place.filledKey = some (client, key)) : place.key = some (client, key) := by
  cases place <;> first | exact uses | cases uses

theorem keysOf_eq_one {place : Place Address} {client : Client} {key : Address}
    (holds : place.key = some (client, key)) : keysOf client place = 1 := by
  rw [keysOf, holds]
  exact if_pos rfl

theorem waiting_eq_one {server : Server Address} {client : Client} {key : Address}
    (registered : server.registered client = some key) (first : server.completed client = 0) :
    waiting server client = 1 := by
  rw [waiting, registered, first]
  rfl

/-- A place without a key, past the insertion, relies on nothing. -/
theorem held_of_none {server : Server Address} {place : Place Address} (none : place.key = none)
    (inserted : ∀ client, place ≠ .acceptInsert client) : Held server place where
  owned := fun client key holds => by
    rw [none] at holds
    cases holds
  filled := fun client key uses => by
    have holds := key_of_filledKey uses
    rw [none] at holds
    cases holds
  old := fun client place => absurd place (inserted client)

end Keys

/-! ### What a step does -/

section Steps

variable {Address : Type u} [DecidableEq Address]

/-- The branches of `act`. -/
inductive Moves (server : Server Address) :
    Place Address → Choice Address → Server Address → Place Address → Prop
  | accepted (key : Address) (unallocated : server.allocated key = false) :
      Moves server .acceptWait (.accept key) (server.accept key) (.acceptFill server.clients key)
  | filled (client : Client) (key : Address) :
      Moves server (.acceptFill client key) .go
        { server with
          contents := Function.update server.contents key (server.sessionKey client) }
        (.acceptAssociate client key)
  | associated (client : Client) (key : Address) :
      Moves server (.acceptAssociate client key) .accepted
        { server with registered := Function.update server.registered client (some key) }
        (.acceptInsert client)
  | associateRefused (client : Client) (key : Address) :
      Moves server (.acceptAssociate client key) .refused server .acceptWait
  | associateUnnoticed (client : Client) (key : Address) :
      Moves server (.acceptAssociate client key) .unnoticed server (.acceptInsert client)
  | inserted (client : Client) :
      Moves server (.acceptInsert client) .go (server.insertSession client) (.acceptRecv client)
  | recvPosted (client : Client) :
      Moves server (.acceptRecv client) .accepted (server.post client) .acceptWait
  | recvRefused (client : Client) : Moves server (.acceptRecv client) .refused server .acceptWait
  | topEmpty : Moves server (.ioTop none) .go server .ioWait
  | freed (client : Client) (key : Address) :
      Moves server (.ioTop (some (client, key))) .go (server.free key) .ioWait
  | noOverlapped : Moves server .ioWait .noOverlapped server .ioStopped
  | completed (client : Client) (key : Address) (succeeded : Bool)
      (registered : server.registered client = some key) (posted : 0 < server.outstanding client) :
      Moves server .ioWait (.completion client succeeded)
        { server with
          outstanding := Function.update server.outstanding client (server.outstanding client - 1)
          completed := Function.update server.completed client (server.completed client + 1) }
        (.ioFind client key succeeded)
  | closed (client : Client) (key : Address) (succeeded : Bool)
      (close : server.contents key = iocpCloseKey) :
      Moves server (.ioFind client key succeeded) .go server .ioStopped
  | unfound (client : Client) (key : Address) (succeeded : Bool)
      (absent : server.sessionMap (server.contents key) = none) :
      Moves server (.ioFind client key succeeded) .go server (.ioTop (some (client, key)))
  | handed (client : Client) (key : Address) (session : Client)
      (found : server.sessionMap (server.contents key) = some session) :
      Moves server (.ioFind client key true) .go
        { server with handed := server.handed ++ [(client, session)] }
        (.onIoCompleted client key session)
  | failed (client : Client) (key : Address) (session : Client)
      (found : server.sessionMap (server.contents key) = some session) :
      Moves server (.ioFind client key false) .go server (.ioTop (some (client, key)))
  | posted (client : Client) (key : Address) (session : Client) :
      Moves server (.onIoCompleted client key session) .post (server.post session)
        (.onIoCompleted client key session)
  | returned (client : Client) (key : Address) (session : Client) :
      Moves server (.onIoCompleted client key session) .return server
        (.ioTop (some (client, key)))
  | postedElsewhere (client : Client) :
      Moves server .surroundings (.postElsewhere client) (server.post client) .surroundings
  | erased (key : IOCompletionKey) :
      Moves server .surroundings (.erase key)
        { server with sessionMap := Function.update server.sessionMap key none } .surroundings
  | actorCreated :
      Moves server .surroundings .createActor { server with actors := server.actors + 1 }
        .surroundings

/-- **Inversion of `act`.** -/
theorem act_moves {server server' : Server Address} {place place' : Place Address}
    {choice : Choice Address} (acted : act server place choice = some (server', place')) :
    Moves server place choice server' place' := by
  revert acted
  fun_cases act server place choice <;> intro acted <;>
    simp only [Option.some.injEq, Prod.mk.injEq, reduceCtorEq] at acted <;>
    obtain ⟨rfl, rfl⟩ := acted
  case case19 client key succeeded _ session found failure =>
    obtain rfl := Bool.eq_false_iff.mpr failure
    exact .failed client key session found
  all_goals constructor <;> assumption

section Moved

variable {server server' : Server Address} {place place' other : Place Address}
  {choice : Choice Address}

/-- The completion is its socket's first one. -/
def First (server : Server Address) : Choice Address → Prop
  | .completion client _ => server.completed client = 0
  | _ => True

/-- **The mover's account**: a key is taken, passed on, given back, or lost. -/
theorem Moves.account (moved : Moves server place choice server' place')
    (held : Held server place) (first : First server choice) (client : Client) :
    keysOf client place' + waiting server' client + server'.freed.count client +
        taken server client ≤
      keysOf client place + waiting server client + server.freed.count client +
        taken server' client := by
  cases moved with
  | accepted key unallocated =>
      simp only [keysOf, Place.key, waiting, taken, Server.accept]
      grind
  | associated owner key =>
      simp only [keysOf, Place.key, waiting, taken, Function.update_apply]
      grind
  | freed owner key =>
      have own := (held.owned owner key rfl).2
      simp only [keysOf, Place.key, waiting, taken, Server.free, own, Option.toList_some,
        List.count_append, List.count_singleton]
      grind
  | completed owner key succeeded registered posted =>
      have waits := waiting_eq_one registered first
      simp only [keysOf, Place.key, waiting, taken, Function.update_apply] at waits ⊢
      grind
  | _ =>
      simp only [keysOf, Place.key, waiting, taken, Server.insertSession, Server.post]
      grind

/-- What another thread relies on stays. -/
theorem Moves.held_other (moved : Moves server place choice server' place')
    (held : Held server place) (held' : Held server other)
    (apart : ∀ client key key', place.key = some (client, key) → other.key ≠ some (client, key'))
    (old : ∀ client key, other.key = some (client, key) → client < server.clients) :
    Held server' other := by
  have kept := held'.owned
  have full := held'.filled
  have inserted := held'.old
  -- two threads have different blocks
  have different {owner client : Client} {key key' : Address} (mine : place.key = some (owner, key))
      (holds : other.key = some (client, key')) : key' ≠ key := by
    rintro rfl
    have same := (kept client key' holds).2.symm.trans (held.owned owner key' mine).2
    cases same
    exact apart _ _ _ mine holds
  cases moved with
  | accepted key unallocated =>
      constructor
      · intro client key' holds
        have own := kept client key' holds
        have different : key' ≠ key := by
          rintro rfl
          rw [own.1] at unallocated
          cases unallocated
        exact ⟨by simp [different, own.1], by simp [different, own.2]⟩
      · intro client key' uses
        have before := old client key' (key_of_filledKey uses)
        simpa [Nat.ne_of_lt before] using full client key' uses
      · exact fun client place => Nat.lt_succ_of_lt (inserted client place)
  | filled owner key =>
      refine ⟨kept, fun client key' uses => ?_, inserted⟩
      have others := different rfl (key_of_filledKey uses)
      simpa [others] using full client key' uses
  | freed owner key =>
      refine ⟨fun client key' holds => ?_, full, inserted⟩
      have own := kept client key' holds
      have others := different rfl holds
      exact ⟨by simp [others, own.1], own.2⟩
  | _ => exact ⟨kept, full, inserted⟩

/-- The mover can rely on what it has. -/
theorem Moves.held_own (moved : Moves server place choice server' place')
    (held : Held server place) (queued : Queued server) (first : First server choice)
    (old : ∀ client key, place.key = some (client, key) → client < server.clients) :
    Held server' place' := by
  have kept := held.owned
  have full := held.filled
  -- a place that passes its key on, in a server that has the same keys
  have passed {next : Place Address} (same : next.key = place.key)
      (unused : next.filledKey = none) (inserted : ∀ client, next ≠ .acceptInsert client) :
      Held server next :=
    ⟨fun client key holds => kept client key (same ▸ holds),
      fun client key uses => (by rw [unused] at uses; cases uses),
      fun client place => absurd place (inserted client)⟩
  cases moved with
  | accepted key unallocated =>
      constructor
      · intro client key' holds
        obtain ⟨rfl, rfl⟩ := Prod.mk.inj (Option.some.inj holds)
        simp [Owns]
      · intro client key' uses
        cases uses
      · intro client place
        cases place
  | filled owner key =>
      constructor
      · exact kept
      · intro client key' uses
        obtain ⟨rfl, rfl⟩ := Prod.mk.inj (Option.some.inj uses)
        simp
      · intro client place
        cases place
  | associated owner key =>
      constructor
      · intro client key' holds
        cases holds
      · intro client key' uses
        cases uses
      · rintro client ⟨⟩
        exact old owner key rfl
  | associateUnnoticed owner key =>
      constructor
      · intro client key' holds
        cases holds
      · intro client key' uses
        cases uses
      · rintro client ⟨⟩
        exact old owner key rfl
  | completed owner key succeeded registered posted =>
      obtain ⟨owns, filled⟩ := queued owner key registered first
      constructor
      · intro client key' holds
        obtain ⟨rfl, rfl⟩ := Prod.mk.inj (Option.some.inj holds)
        exact owns
      · intro client key' uses
        obtain ⟨rfl, rfl⟩ := Prod.mk.inj (Option.some.inj uses)
        exact filled
      · intro client place
        cases place
  | unfound owner key succeeded absent => exact passed rfl rfl nofun
  | handed owner key session found =>
      exact ⟨kept, fun client key' uses => (by cases uses), fun client place => (by cases place)⟩
  | failed owner key session found => exact passed rfl rfl nofun
  | posted owner key session =>
      exact ⟨kept, fun client key' uses => (by cases uses), fun client place => (by cases place)⟩
  | returned owner key session => exact passed rfl rfl nofun
  | _ => exact held_of_none rfl nofun

/-- The registered keys that wait stay their clients', and filled. -/
theorem Moves.queued (moved : Moves server place choice server' place')
    (held : Held server place) (queued : Queued server)
    (apart : ∀ client key, place.key = some (client, key) → waiting server client = 0)
    (old : ∀ client, waiting server client = 1 → client < server.clients) : Queued server' := by
  have unqueued {client : Client} {key key' : Address} (holds : place.key = some (client, key))
      (registered : server.registered client = some key') : server.completed client ≠ 0 := by
    intro first
    have none := apart client key holds
    rw [waiting_eq_one registered first] at none
    cases none
  cases moved with
  | accepted key unallocated =>
      intro client key' registered first
      obtain ⟨own, filled⟩ := queued client key' registered first
      have before := old client (waiting_eq_one registered first)
      have different : key' ≠ key := by
        rintro rfl
        rw [own.1] at unallocated
        cases unallocated
      exact ⟨⟨by simp [different, own.1], by simp [different, own.2]⟩,
        by simpa [Nat.ne_of_lt before] using filled⟩
  | filled owner key =>
      intro client key' registered first
      obtain ⟨own, filled⟩ := queued client key' registered first
      have different : key' ≠ key := by
        rintro rfl
        have same := own.2.symm.trans (held.owned owner key' rfl).2
        cases same
        exact unqueued rfl registered first
      exact ⟨own, by simpa [different] using filled⟩
  | associated owner key =>
      intro client key' registered first
      by_cases same : client = owner
      · subst same
        simp only [Function.update_self, Option.some.injEq] at registered
        subst registered
        exact ⟨held.owned client key rfl, held.filled client key rfl⟩
      · simp only [Function.update_of_ne same] at registered
        exact queued client key' registered first
  | freed owner key =>
      intro client key' registered first
      obtain ⟨own, filled⟩ := queued client key' registered first
      have different : key' ≠ key := by
        rintro rfl
        have same := own.2.symm.trans (held.owned owner key' rfl).2
        cases same
        exact unqueued rfl registered first
      exact ⟨⟨by simp [different, own.1], own.2⟩, filled⟩
  | completed owner key succeeded registered posted =>
      intro client key' registered' first
      by_cases same : client = owner
      · subst same
        simp at first
      · simp only [Function.update_of_ne same] at first
        exact queued client key' registered' first
  | _ => exact queued

/-- Sessions keep different keys, while fewer than 2^64 actors are created. -/
theorem Moves.keyed (moved : Moves server place choice server' place')
    (held : Held server place) (keyed : Keyed server) (few : server'.actors < 2 ^ 64) :
    Keyed server' := by
  obtain ⟨old, distinct, mapped⟩ := keyed
  cases moved with
  | accepted key unallocated =>
      have id : server.newKey.sessionId = server.actors + 1 := Nat.mod_eq_of_lt few
      have new {client : Client} (before : client < server.clients) :
          server.sessionKey client ≠ server.newKey := by
        intro same
        have least := old client before
        rw [same, id] at least
        omega
      constructor
      · intro client before
        by_cases same : client = server.clients
        · subst same
          simp [id]
        · simp only [Server.accept, Function.update_of_ne same]
          exact Nat.le_succ_of_le (old client (by simp at before; omega))
      · intro first second before before' equal
        rcases Nat.lt_succ_iff_lt_or_eq.mp before with earlier | rfl <;>
          rcases Nat.lt_succ_iff_lt_or_eq.mp before' with earlier' | rfl
        · simp only [Server.accept, Function.update_of_ne (Nat.ne_of_lt earlier),
            Function.update_of_ne (Nat.ne_of_lt earlier')] at equal
          exact distinct first second earlier earlier' equal
        · simp only [Server.accept, Function.update_of_ne (Nat.ne_of_lt earlier),
            Function.update_self] at equal
          exact absurd equal (new earlier)
        · simp only [Server.accept, Function.update_of_ne (Nat.ne_of_lt earlier'),
            Function.update_self] at equal
          exact absurd equal.symm (new earlier')
        · rfl
      · intro key' client found
        obtain ⟨before, same⟩ := mapped key' client found
        exact ⟨Nat.lt_succ_of_lt before, by simpa [Nat.ne_of_lt before] using same⟩
  | inserted owner =>
      refine ⟨old, distinct, fun key client found => ?_⟩
      simp only [Server.insertSession, Function.update_apply] at found
      split at found
      · rename_i same
        cases earlier : server.sessionMap (server.sessionKey owner) with
        | none =>
            rw [earlier] at found
            cases found
            exact ⟨held.old _ rfl, same.symm⟩
        | some session =>
            rw [earlier] at found
            cases found
            rw [same]
            exact mapped _ _ earlier
      · exact mapped key client found
  | erased key =>
      refine ⟨old, distinct, fun key' client found => ?_⟩
      simp only [Function.update_apply] at found
      split at found
      · cases found
      · exact mapped key' client found
  | actorCreated =>
      exact ⟨fun client before => Nat.le_succ_of_le (old client before), distinct, mapped⟩
  | _ => exact ⟨old, distinct, mapped⟩

/-- A completion goes to its socket's session. -/
theorem Moves.handed_right (moved : Moves server place choice server' place')
    (held : Held server place) (keyed : Keyed server)
    (old : ∀ client key, place.key = some (client, key) → client < server.clients)
    (right : ∀ pair ∈ server.handed, pair.2 = pair.1) :
    ∀ pair ∈ server'.handed, pair.2 = pair.1 := by
  cases moved with
  | handed client key session found =>
      intro pair member
      rcases List.mem_append.mp member with earlier | now
      · exact right pair earlier
      · cases List.mem_singleton.mp now
        rw [held.filled client key rfl] at found
        obtain ⟨before, same⟩ := keyed.mapped _ _ found
        exact keyed.distinct session client before (old client key rfl) same
  | _ => exact right

/-- The number of created actors does not fall. -/
theorem Moves.actors (moved : Moves server place choice server' place') :
    server.actors ≤ server'.actors := by
  cases moved with
  | accepted key unallocated => exact Nat.le_succ _
  | actorCreated => exact Nat.le_succ _
  | _ => exact Nat.le_refl _

end Moved

end Steps

/-! ### Every key is in one place -/

section Ownership

variable {Address : Type u} {Io : Type} [Fintype Io]

/-- **The invariant**: a client's key is with one thread, or waits at its socket, or was given
back; whoever has it can rely on it; and completions went to their sessions. -/
structure Sound (state : State Address Io) : Prop where
  account : ∀ client, tally (keysOf client) state.pc + waiting state.shared client +
    state.shared.freed.count client ≤ taken state.shared client
  held : ∀ thread, Held state.shared (state.pc thread)
  queued : Queued state.shared
  keyed : Keyed state.shared
  handed : ∀ pair ∈ state.shared.handed, pair.2 = pair.1

variable {state after : State Address Io} {label : Tid Io × Choice Address}

theorem sound_initial (numOfLogicThread : ℕ) :
    Sound (initial Address Io numOfLogicThread) where
  account := fun client => by
    have none : tally (keysOf client) (initial Address Io numOfLogicThread).pc = 0 :=
      ThreadTable.tally_eq_zero.mpr fun thread => by cases thread <;> rfl
    rw [none]
    rfl
  held := fun thread => by
    constructor <;> cases thread <;> intro _ <;>
      first | (intro _ none; cases none) | (intro none; cases none)
  queued := fun _ _ none => by cases none
  keyed := by
    constructor
    · exact fun _ impossible => absurd impossible (Nat.not_lt_zero _)
    · exact fun _ _ impossible => absurd impossible (Nat.not_lt_zero _)
    · exact fun _ _ none => by cases none
  handed := fun _ none => by cases none

/-- A client whose key a thread has is not new. -/
theorem Sound.old_of_key (sound : Sound state) (thread : Tid Io) (client : Client) (key : Address)
    (holds : (state.pc thread).key = some (client, key)) : client < state.shared.clients := by
  have own := weight_le_tally (keysOf client) state.pc thread
  rw [keysOf_eq_one holds] at own
  have account := sound.account client
  unfold taken at account
  split at account
  · assumption
  · omega

/-- A client whose key waits is not new. -/
theorem Sound.old_of_waiting (sound : Sound state) (client : Client)
    (waits : waiting state.shared client = 1) : client < state.shared.clients := by
  have account := sound.account client
  unfold taken at account
  split at account
  · assumption
  · omega

/-- A key a thread has does not wait at its socket. -/
theorem Sound.unqueued (sound : Sound state) (thread : Tid Io) (client : Client) (key : Address)
    (holds : (state.pc thread).key = some (client, key)) : waiting state.shared client = 0 := by
  have own := weight_le_tally (keysOf client) state.pc thread
  rw [keysOf_eq_one holds] at own
  have account := sound.account client
  unfold taken at account
  split at account <;> omega

variable [DecidableEq Io]

/-- A key is with one thread. -/
theorem Sound.alone (sound : Sound state) {thread other : Tid Io} (different : thread ≠ other)
    (client : Client) (key key' : Address) (holds : (state.pc thread).key = some (client, key)) :
    (state.pc other).key ≠ some (client, key') := by
  intro holds'
  have both := ThreadTable.add_weight_le_tally (keysOf client) state.pc different
  rw [keysOf_eq_one holds, keysOf_eq_one holds'] at both
  have account := sound.account client
  unfold taken at account
  split at account <;> omega

variable [DecidableEq Address]

/-- The socket that completes has not completed before. -/
def FirstCompletion (state : State Address Io) (label : Tid Io × Choice Address) : Prop :=
  First state.shared label.2

/-- **A first completion keeps every key in one place**, while fewer than 2^64 actors are
created. -/
theorem Sound.step (sound : Sound state) (first : FirstCompletion state label)
    (stepped : CompletionRouting.step state label = some after)
    (few : after.shared.actors < 2 ^ 64) : Sound after := by
  obtain ⟨server', place', acted, rfl⟩ := threadStep_eq_some.mp stepped
  have moved := act_moves acted
  have held := sound.held label.1
  have old := sound.old_of_key label.1
  constructor
  · intro client
    have exchange := tally_update (keysOf client) state.pc label.1 place'
    have account := sound.account client
    have own := moved.account held first client
    show tally (keysOf client) (Function.update state.pc label.1 place') + waiting server' client +
      server'.freed.count client ≤ taken server' client
    omega
  · refine ThreadTable.forall_update sound.held
      (moved.held_own held sound.queued first old) fun thread different held' => ?_
    exact moved.held_other held held' (sound.alone different.symm)
      (sound.old_of_key thread)
  · exact moved.queued held sound.queued (sound.unqueued label.1) sound.old_of_waiting
  · exact moved.keyed held sound.keyed few
  · exact moved.handed_right held sound.keyed old sound.handed

/-- Every completion was handed to the session of its socket. -/
def Routed (server : Server Address) : Prop := ∀ pair ∈ server.handed, pair.2 = pair.1

instance (server : Server Address) : Decidable (Routed server) :=
  inferInstanceAs (Decidable (∀ _ ∈ _, _))

/-- **Routing and ownership.** In every run in which no socket has a second completion, with fewer
than 2^64 actors, each completion is handed to the session of its socket and no key is given back
twice. -/
theorem routed {numOfLogicThread : ℕ}
    (reached : Reach step FirstCompletion (initial Address Io numOfLogicThread) state)
    (few : state.shared.actors < 2 ^ 64) : Routed state.shared ∧ state.shared.freed.Nodup := by
  have sound : Sound state := by
    refine reached.invariant (fun state => state.shared.actors < 2 ^ 64 → Sound state)
      (fun _ => sound_initial numOfLogicThread) ?_ few
    intro before label after sound first stepped few
    obtain ⟨server', place', acted, rfl⟩ := threadStep_eq_some.mp stepped
    exact (sound (Nat.lt_of_le_of_lt (act_moves acted).actors few)).step first stepped few
  refine ⟨sound.handed, List.nodup_iff_count_le_one.mpr fun client => ?_⟩
  have account := sound.account client
  unfold taken at account
  split at account <;> omega

/-- A client is accepted with this key. -/
def accepts (key : Fin 2) : List (Tid (Fin 2) × Choice (Fin 2)) :=
  [(.accept, .accept key), (.accept, .go), (.accept, .accepted), (.accept, .go),
    (.accept, .accepted)]

/-- An IO thread takes a completion, posts the next operation, and is back at the wait. -/
def completes (worker : Fin 2) (client : Client) : List (Tid (Fin 2) × Choice (Fin 2)) :=
  [(.io worker, .completion client true), (.io worker, .go), (.io worker, .post),
    (.io worker, .return), (.io worker, .go)]

/-- Two clients; the second one gets the key the first one's completion has freed. -/
def firstSchedule : List (Tid (Fin 2) × Choice (Fin 2)) :=
  List.flatten [[(.io 0, .go), (.io 1, .go)], accepts 0, completes 0 0, accepts 0, completes 1 1]

instance (server : Server (Fin 2)) (choice : Choice (Fin 2)) : Decidable (First server choice) := by
  unfold First
  split <;> infer_instance

instance (state : State (Fin 2) (Fin 2)) (label : Tid (Fin 2) × Choice (Fin 2)) :
    Decidable (FirstCompletion state label) :=
  inferInstanceAs (Decidable (First _ _))

theorem routed_first : ∃ state : State (Fin 2) (Fin 2),
    Reach step FirstCompletion (initial (Fin 2) (Fin 2) 4) state ∧
      state.shared.handed = [(0, 0), (1, 1)] ∧ state.shared.freed = [0, 1] ∧
      Routed state.shared ∧ state.shared.freed.Nodup := by
  obtain ⟨state, reached, test⟩ := exists_reach_of_runGuarded step FirstCompletion
    (initial (Fin 2) (Fin 2) 4) firstSchedule
    (fun state => decide (state.shared.actors < 2 ^ 64 ∧
      state.shared.handed = [(0, 0), (1, 1)] ∧ state.shared.freed = [0, 1])) (by decide +kernel)
  obtain ⟨few, handed, freed⟩ := of_decide_eq_true test
  exact ⟨state, reached, handed, freed, routed reached few⟩

/-- The first client completes a second operation, after its key went to the second client. -/
def secondSchedule : List (Tid (Fin 2) × Choice (Fin 2)) :=
  List.flatten [[(.io 0, .go), (.io 1, .go)], accepts 0, completes 0 0, accepts 0, completes 0 0,
    completes 1 1]

/-- **A second completion goes astray**: its key is the next client's, and is given back twice. -/
theorem misrouted : ∃ state : State (Fin 2) (Fin 2),
    Reach step Unguarded (initial (Fin 2) (Fin 2) 4) state ∧ state.shared.actors < 2 ^ 64 ∧
      ¬ Routed state.shared ∧ ¬ state.shared.freed.Nodup := by
  obtain ⟨state, reached, test⟩ := exists_reach_of_run step
    (initial (Fin 2) (Fin 2) 4) secondSchedule
    (fun state => decide (state.shared.actors < 2 ^ 64 ∧
      ¬ Routed state.shared ∧ ¬ state.shared.freed.Nodup)) (by decide +kernel)
  exact ⟨state, reached, of_decide_eq_true test⟩

end Ownership

end ActorModelServer.CompletionRouting
