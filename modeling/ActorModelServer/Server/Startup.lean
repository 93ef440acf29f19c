/-
**The start of the server.**

After its options and its network, `StartServer` runs `InitThreads`, sets the session factory and
creates the completion port. The threads run as soon as they are constructed. `act` is one step of
the main thread or of one of the others; clients connect, sessions end and handlers look for actors
of any shard whenever they can. A call of the factory that is not set throws, and the program ends.

* `run_moves` — everything a step can do, by the branch that is taken.
* `never_outOfRange` — no thread indexes a vector behind its end, in any run.
* `asks_of_reach` — when clients and IO threads come in time, a thread is at `CreateSession` or in
  the loop of `RunIoThread` only when what it needs there is set up.
* `startup_safe` — so nothing goes wrong in a run when `accept` returns clients only after
  `SetSessionFactory`, and the IO threads begin only after the completion port is created; a step
  that comes too early makes a run go wrong.
* `client_before_factory` — a client connects while `InitThreads` runs.
-/

import ActorModelServer.Library.ThreadTable
import Mathlib.Data.List.Infix

namespace ActorModelServer.Startup

open ThreadTable (threadStep_eq_some)
open StepRuns (Reach Unguarded exists_reach_of_run exists_reach_of_runGuarded)

section Model

/-- The vectors that the loop over the shards fills, in its order; each of its statements appends
to one of them. -/
inductive Vector
  | sessionMapMutex
  | nonNetworkActorMapMutex
  | sessionMap
  | nonNetworkActorMap
  | releaseThreadsEventHandles
  | releaseThreads
  | releaseThreadsQueue
  | releaseThreadsQueueMutex
  | packetAssembleThreadEvents
  | logicThreads
  deriving DecidableEq, Repr

/-- The body of the loop over the shards. -/
def loopBody : List Vector :=
  [.sessionMapMutex, .nonNetworkActorMapMutex, .sessionMap, .nonNetworkActorMap,
    .releaseThreadsEventHandles, .releaseThreads, .releaseThreadsQueue, .releaseThreadsQueueMutex,
    .packetAssembleThreadEvents, .logicThreads]

/-- What StartServer is given: the options, and whether the factory is not null. -/
structure Options where
  numOfWorkerThread : ℕ
  numOfLogicThread : ℕ
  factoryFunc : Bool

/-- What must not happen. -/
inductive Fault
  /- `CreateSession` without a factory -/
  | nullFactory
  /- a wait on `iocpHandle` before it is created -/
  | noPort
  | outOfRange (vector : Vector) (index : ℕ)
  deriving DecidableEq, Repr

/-- `iocpHandle`: as it starts, as `CreateIoCompletionPort` leaves it when it fails, and a port. -/
inductive Handle
  | invalidHandleValue
  | null
  | port
  deriving DecidableEq, Repr

/-- The fields of `ServerCore` the threads share. -/
structure ServerCore where
  acceptThread : Bool
  ioThreads : ℕ
  size : Vector → ℕ
  sessionFactory : Bool
  iocpHandle : Handle
  /-- The shards of the sessions created so far. -/
  sessions : List ℕ
  /-- The release events that are set. -/
  releaseEvents : List ℕ
  /-- An exception has left a thread. -/
  terminated : Bool
  faults : List Fault

/-- Where a thread is; a thread's number is the `threadId` it was given. -/
inductive Place
  /- the main thread -/
  | startAccept
  | createEvents
  | startTicker
  | startIo (i : ℕ)
  | shards (i : ℕ)
  | shard (i : ℕ) (rest : List Vector)
  | setSessionFactory
  | createPort
  | started
  | startedWithoutPort
  | failed
  /- a thread that is not constructed, or has not begun -/
  | acceptUnborn
  | ioUnborn (i : ℕ)
  | logicUnborn (i : ℕ)
  | releaseUnborn (i : ℕ)
  /- the accept thread -/
  | accept
  | createSession
  | associate (threadId : ℕ)
  | insertSession (threadId : ℕ)
  | doRecv (threadId : ℕ)
  /- an IO thread: before the wait, with a completion -/
  | ioWait
  | findSession (threadId : ℕ)
  | completed (threadId : ℕ)
  /- a logic thread: between frames, in the passes of a frame -/
  | logicWait (i : ℕ)
  | frame (i : ℕ) (rest : List Vector)
  /- a release thread -/
  | releaseWait (i : ℕ)
  | releasing (i : ℕ)
  | ended
  deriving DecidableEq

/-- What the surroundings decide. -/
inductive Choice
  | go
  | fails
  /- a session of the shard, created, completed or released -/
  | session (threadId : ℕ)
  | release
  /- a handler, a hook or `OnDisconnected` reads a vector at a shard -/
  | touch (vector : Vector) (threadId : ℕ)
  | stop

namespace ServerCore

/-- A fault is noted. -/
def fault (core : ServerCore) (fault : Fault) : ServerCore :=
  { core with faults := core.faults ++ [fault] }

/-- A vector is indexed. -/
def index (core : ServerCore) (vector : Vector) (index : ℕ) : ServerCore :=
  if index < core.size vector then core else core.fault (.outOfRange vector index)

/-- Several vectors are indexed. -/
def indexAll (core : ServerCore) (vectors : List Vector) (index : ℕ) : ServerCore :=
  vectors.foldl (fun core vector => core.index vector index) core

/-- `emplace_back`. -/
def emplace (core : ServerCore) (vector : Vector) : ServerCore :=
  { core with size := Function.update core.size vector (core.size vector + 1) }

/-- `ReleaseSession`. -/
def releaseSession (core : ServerCore) (threadId : ℕ) : ServerCore :=
  let indexed := core.indexAll
    [.releaseThreadsQueueMutex, .releaseThreadsQueue, .releaseThreadsEventHandles] threadId
  { indexed with releaseEvents := indexed.releaseEvents ++ [threadId] }

end ServerCore

/-- What a frame indexes: each of its three functions goes over both maps. -/
def framePasses : List Vector :=
  [.sessionMapMutex, .sessionMap, .nonNetworkActorMapMutex, .nonNetworkActorMap,
    .sessionMapMutex, .sessionMap, .nonNetworkActorMapMutex, .nonNetworkActorMap,
    .sessionMapMutex, .sessionMap, .nonNetworkActorMapMutex, .nonNetworkActorMap]

/-- One step of a thread. -/
def run (options : Options) (core : ServerCore) (place : Place) (choice : Choice) :
    Option (ServerCore × Place) :=
  match place, choice with
  | .startAccept, .go => some ({ core with acceptThread := true }, .createEvents)
  | .createEvents, .go => some (core, .startTicker)
  | .startTicker, .go => some (core, .startIo 0)
  | .startIo i, .go =>
      if i < options.numOfWorkerThread then
        some ({ core with ioThreads := core.ioThreads + 1 }, .startIo (i + 1))
      else some (core, .shards 0)
  | .shards i, .go =>
      if i < options.numOfLogicThread then some (core, .shard i loopBody)
      else some (core, .setSessionFactory)
  | .shard i (vector :: rest), .go => some (core.emplace vector, .shard i rest)
  | .shard i [], .go => some (core, .shards (i + 1))
  | .setSessionFactory, .go =>
      if options.factoryFunc then some ({ core with sessionFactory := true }, .createPort)
      else some (core, .failed)
  | .createPort, .go => some ({ core with iocpHandle := .port }, .started)
  -- the result is compared with `INVALID_HANDLE_VALUE`, a failure is null
  | .createPort, .fails => some ({ core with iocpHandle := .null }, .startedWithoutPort)
  | .acceptUnborn, .go => if core.acceptThread then some (core, .accept) else none
  | .ioUnborn i, .go => if i < core.ioThreads then some (core, .ioWait) else none
  | .logicUnborn i, .go =>
      if i < core.size .logicThreads then some (core, .logicWait i) else none
  | .releaseUnborn i, .go =>
      if i < core.size .releaseThreads then
        some (core.index .releaseThreadsEventHandles i, .releaseWait i)
      else none
  | .accept, .go => some (core, .createSession)
  | .accept, .fails => some (core, .accept)
  | .accept, .stop => some (core, .ended)
  | .createSession, .session threadId =>
      if core.sessionFactory then
        -- `GetTargetThreadId`
        if threadId < options.numOfLogicThread then
          some ({ core with sessions := core.sessions ++ [threadId] }, .associate threadId)
        else none
      else some ({ core.fault .nullFactory with terminated := true }, .ended)
  | .createSession, .fails =>
      if core.sessionFactory then some (core, .accept)
      else some ({ core.fault .nullFactory with terminated := true }, .ended)
  | .associate threadId, .go => some (core, .insertSession threadId)
  | .associate threadId, .fails => some (core.releaseSession threadId, .accept)
  | .insertSession threadId, .go =>
      some (core.indexAll [.sessionMapMutex, .sessionMap] threadId, .doRecv threadId)
  | .doRecv threadId, .touch vector other =>
      if other < options.numOfLogicThread then some (core.index vector other, .doRecv threadId)
      else none
  | .doRecv _, .go => some (core, .accept)
  | .doRecv threadId, .release => some (core.releaseSession threadId, .accept)
  | .ioWait, .session threadId =>
      if core.iocpHandle = .port then
        if threadId ∈ core.sessions then some (core, .findSession threadId) else none
      else some (core.fault .noPort, .ended)
  | .ioWait, .stop =>
      if core.iocpHandle = .port then some (core, .ended)
      else some (core.fault .noPort, .ended)
  | .findSession threadId, .go =>
      some (core.indexAll [.sessionMapMutex, .sessionMap] threadId, .completed threadId)
  | .completed _, .go => some (core, .ioWait)
  | .completed threadId, .release => some (core.releaseSession threadId, .ioWait)
  | .logicWait i, .go => some (core, .frame i framePasses)
  | .frame i (vector :: rest), .go => some (core.index vector i, .frame i rest)
  | .frame i [], .go => some (core, .logicWait i)
  | .frame i rest, .touch vector threadId =>
      -- a handler runs for a session
      if core.sessions ≠ [] ∧ threadId < options.numOfLogicThread then
        some (core.index vector threadId, .frame i rest)
      else none
  | .releaseWait i, .release =>
      if i ∈ core.releaseEvents then
        some ({ core.indexAll [.releaseThreadsQueueMutex, .releaseThreadsQueue] i with
          releaseEvents := core.releaseEvents.erase i }, .releasing i)
      else none
  | .releaseWait i, .stop =>
      -- `EraseAllSession`; where there is a session its `OnDisconnected` runs
      some (core.indexAll [.sessionMapMutex, .sessionMap] i,
        if core.sessions = [] then .releaseWait i else .releasing i)
  | .releasing i, .session threadId =>
      if threadId ∈ core.sessions then
        some (core.indexAll [.sessionMapMutex, .sessionMap] threadId, .releasing i)
      else none
  | .releasing i, .touch vector threadId =>
      if threadId < options.numOfLogicThread then some (core.index vector threadId, .releasing i)
      else none
  | .releasing i, .go => some (core, .releaseWait i)
  | _, _ => none

/-- One step of a thread, unless the program has ended. -/
def act (options : Options) (core : ServerCore) (place : Place) (choice : Choice) :
    Option (ServerCore × Place) :=
  if core.terminated then none else run options core place choice

/-- The threads. -/
inductive Tid
  | main
  | accept
  | io (i : ℕ)
  | logic (i : ℕ)
  | release (i : ℕ)
  deriving DecidableEq

/-- Where each thread starts. -/
def initialPlace : Tid → Place
  | .main => .startAccept
  | .accept => .acceptUnborn
  | .io i => .ioUnborn i
  | .logic i => .logicUnborn i
  | .release i => .releaseUnborn i

/-- The state of the machine. -/
abbrev State := ThreadTable.System ServerCore Tid Place

/-- The server when its network is ready. -/
def initial : State :=
  ⟨⟨false, 0, fun _ => 0, false, .invalidHandleValue, [], [], false, []⟩, initialPlace⟩

/-- One step of the machine. -/
def step (options : Options) : State → Tid × Choice → Option State :=
  ThreadTable.threadStep (act options)

/-- `StartServer` is past `SetSessionFactory`. -/
def Place.factorySet : Place → Bool
  | .createPort | .started | .startedWithoutPort => true
  | _ => false

/-- `accept` returns a client only after `SetSessionFactory`, and an IO thread begins only after
`CreateIoCompletionPort` has made the port. -/
def InTime (state : State) (label : Tid × Choice) : Prop :=
  match state.pc label.1, label.2 with
  | .accept, .go => (state.pc .main).factorySet = true
  | .ioUnborn _, .go => state.pc .main = .started
  | _, _ => True

instance (state : State) (label : Tid × Choice) : Decidable (InTime state label) := by
  unfold InTime
  split <;> infer_instance

end Model

section Invariant

variable {options : Options} {core : ServerCore} {place : Place}

/-- What a step does, by the branch that is taken. -/
inductive Moves (options : Options) (core : ServerCore) :
    Place → Choice → ServerCore → Place → Prop
  | acceptStarted :
      Moves options core .startAccept .go { core with acceptThread := true } .createEvents
  | eventsCreated : Moves options core .createEvents .go core .startTicker
  | tickerStarted : Moves options core .startTicker .go core (.startIo 0)
  | ioStarted (i : ℕ) (more : i < options.numOfWorkerThread) :
      Moves options core (.startIo i) .go { core with ioThreads := core.ioThreads + 1 }
        (.startIo (i + 1))
  | allIoStarted (i : ℕ) (done : ¬ i < options.numOfWorkerThread) :
      Moves options core (.startIo i) .go core (.shards 0)
  | shardBegun (i : ℕ) (more : i < options.numOfLogicThread) :
      Moves options core (.shards i) .go core (.shard i loopBody)
  | shardsDone (i : ℕ) (done : ¬ i < options.numOfLogicThread) :
      Moves options core (.shards i) .go core .setSessionFactory
  | emplaced (i : ℕ) (vector : Vector) (rest : List Vector) :
      Moves options core (.shard i (vector :: rest)) .go (core.emplace vector) (.shard i rest)
  | shardDone (i : ℕ) : Moves options core (.shard i []) .go core (.shards (i + 1))
  | factorySet (given : options.factoryFunc = true) :
      Moves options core .setSessionFactory .go { core with sessionFactory := true } .createPort
  | factoryMissing (missing : ¬ options.factoryFunc = true) :
      Moves options core .setSessionFactory .go core .failed
  | portCreated : Moves options core .createPort .go { core with iocpHandle := .port } .started
  | portFailed :
      Moves options core .createPort .fails { core with iocpHandle := .null } .startedWithoutPort
  | acceptBorn (born : core.acceptThread = true) :
      Moves options core .acceptUnborn .go core .accept
  | ioBorn (i : ℕ) (born : i < core.ioThreads) : Moves options core (.ioUnborn i) .go core .ioWait
  | logicBorn (i : ℕ) (born : i < core.size .logicThreads) :
      Moves options core (.logicUnborn i) .go core (.logicWait i)
  | releaseBorn (i : ℕ) (born : i < core.size .releaseThreads) :
      Moves options core (.releaseUnborn i) .go (core.index .releaseThreadsEventHandles i)
        (.releaseWait i)
  | connected : Moves options core .accept .go core .createSession
  | acceptFailed : Moves options core .accept .fails core .accept
  | acceptStopped : Moves options core .accept .stop core .ended
  | created (threadId : ℕ) (set : core.sessionFactory = true)
      (shard : threadId < options.numOfLogicThread) :
      Moves options core .createSession (.session threadId)
        { core with sessions := core.sessions ++ [threadId] } (.associate threadId)
  | createFailed (set : core.sessionFactory = true) :
      Moves options core .createSession .fails core .accept
  | thrown (choice : Choice) (unset : ¬ core.sessionFactory = true) :
      Moves options core .createSession choice { core.fault .nullFactory with terminated := true }
        .ended
  | associated (threadId : ℕ) :
      Moves options core (.associate threadId) .go core (.insertSession threadId)
  | associateFailed (threadId : ℕ) :
      Moves options core (.associate threadId) .fails (core.releaseSession threadId) .accept
  | inserted (threadId : ℕ) :
      Moves options core (.insertSession threadId) .go
        (core.indexAll [.sessionMapMutex, .sessionMap] threadId) (.doRecv threadId)
  | recvTouched (threadId : ℕ) (vector : Vector) (other : ℕ)
      (shard : other < options.numOfLogicThread) :
      Moves options core (.doRecv threadId) (.touch vector other) (core.index vector other)
        (.doRecv threadId)
  | receives (threadId : ℕ) : Moves options core (.doRecv threadId) .go core .accept
  | recvReleased (threadId : ℕ) :
      Moves options core (.doRecv threadId) .release (core.releaseSession threadId) .accept
  | completion (threadId : ℕ) (port : core.iocpHandle = .port) (member : threadId ∈ core.sessions) :
      Moves options core .ioWait (.session threadId) core (.findSession threadId)
  | ioStopped (port : core.iocpHandle = .port) : Moves options core .ioWait .stop core .ended
  | waitFailed (choice : Choice) (unmade : ¬ core.iocpHandle = .port) :
      Moves options core .ioWait choice (core.fault .noPort) .ended
  | found (threadId : ℕ) :
      Moves options core (.findSession threadId) .go
        (core.indexAll [.sessionMapMutex, .sessionMap] threadId) (.completed threadId)
  | completedDone (threadId : ℕ) : Moves options core (.completed threadId) .go core .ioWait
  | completedReleased (threadId : ℕ) :
      Moves options core (.completed threadId) .release (core.releaseSession threadId) .ioWait
  | frameBegun (i : ℕ) : Moves options core (.logicWait i) .go core (.frame i framePasses)
  | framePassed (i : ℕ) (vector : Vector) (rest : List Vector) :
      Moves options core (.frame i (vector :: rest)) .go (core.index vector i) (.frame i rest)
  | frameDone (i : ℕ) : Moves options core (.frame i []) .go core (.logicWait i)
  | frameTouched (i : ℕ) (rest : List Vector) (vector : Vector) (threadId : ℕ)
      (may : core.sessions ≠ [] ∧ threadId < options.numOfLogicThread) :
      Moves options core (.frame i rest) (.touch vector threadId) (core.index vector threadId)
        (.frame i rest)
  | releaseWoken (i : ℕ) (event : i ∈ core.releaseEvents) :
      Moves options core (.releaseWait i) .release
        { core.indexAll [.releaseThreadsQueueMutex, .releaseThreadsQueue] i with
          releaseEvents := core.releaseEvents.erase i } (.releasing i)
  | nothingErased (i : ℕ) (empty : core.sessions = []) :
      Moves options core (.releaseWait i) .stop
        (core.indexAll [.sessionMapMutex, .sessionMap] i) (.releaseWait i)
  | allErased (i : ℕ) (present : core.sessions ≠ []) :
      Moves options core (.releaseWait i) .stop
        (core.indexAll [.sessionMapMutex, .sessionMap] i) (.releasing i)
  | released (i : ℕ) (threadId : ℕ) (member : threadId ∈ core.sessions) :
      Moves options core (.releasing i) (.session threadId)
        (core.indexAll [.sessionMapMutex, .sessionMap] threadId) (.releasing i)
  | releaseTouched (i : ℕ) (vector : Vector) (threadId : ℕ)
      (shard : threadId < options.numOfLogicThread) :
      Moves options core (.releasing i) (.touch vector threadId) (core.index vector threadId)
        (.releasing i)
  | releaseDone (i : ℕ) : Moves options core (.releasing i) .go core (.releaseWait i)

/-- **Inversion of a step**: it is one of the branches. -/
theorem run_moves {choice : Choice} {after : ServerCore} {next : Place}
    (ran : run options core place choice = some (after, next)) :
    Moves options core place choice after next := by
  revert ran
  fun_cases run options core place choice
  all_goals intro ran
  all_goals simp only [Option.some.injEq, Prod.mk.injEq, reduceCtorEq] at ran
  all_goals obtain ⟨rfl, rfl⟩ := ran
  all_goals try split
  all_goals constructor <;> assumption

/-- What the main thread has set up where it stands. -/
def SetUp (options : Options) (core : ServerCore) : Place → Prop
  | .startAccept | .createEvents | .startTicker | .startIo _ => ∀ vector, core.size vector = 0
  | .shards i => i ≤ options.numOfLogicThread ∧ ∀ vector, core.size vector = i
  | .shard i rest =>
      i < options.numOfLogicThread ∧ rest ∈ loopBody.tails ∧
        ∀ vector, core.size vector = if vector ∈ rest then i else i + 1
  | .setSessionFactory | .createPort | .started | .startedWithoutPort | .failed =>
      ∀ vector, core.size vector = options.numOfLogicThread
  | _ => False

/-- The main thread at its place. -/
structure Main (options : Options) (core : ServerCore) (place : Place) : Prop where
  setUp : SetUp options core place
  factory : core.sessionFactory = place.factorySet
  port : core.iocpHandle = .port ↔ place = .started

/-- What another thread may rely on where it stands. -/
def Relies (options : Options) (core : ServerCore) : Place → Prop
  | .acceptUnborn | .accept | .createSession | .ioUnborn _ | .ioWait | .logicUnborn _
  | .releaseUnborn _ | .ended => True
  | .associate threadId | .insertSession threadId | .doRecv threadId | .findSession threadId
  | .completed threadId => threadId < options.numOfLogicThread ∧ core.sessions ≠ []
  | .logicWait i | .frame i _ => i < core.size .logicThreads
  | .releaseWait i => i < core.size .releaseThreads
  | .releasing i => i < core.size .releaseThreads ∧ core.sessions ≠ []
  | _ => False

/-- Sessions and release events are of a shard, and come after the factory. -/
structure Sessions (options : Options) (core : ServerCore) : Prop where
  factory : core.sessions ≠ [] → core.sessionFactory = true
  shard : ∀ threadId ∈ core.sessions, threadId < options.numOfLogicThread
  event : ∀ threadId ∈ core.releaseEvents,
    threadId < options.numOfLogicThread ∧ core.sessions ≠ []

/-- The states of the runs. -/
structure Formed (options : Options) (state : State) : Prop where
  main : Main options state.shared (state.pc .main)
  others : ∀ thread, thread ≠ .main → Relies options state.shared (state.pc thread)
  sessions : Sessions options state.shared

/-- A vector that the loop body fills before another one is never shorter. -/
theorem SetUp.size_le {earlier later : Vector} (setUp : SetUp options core place)
    (order : ∀ rest ∈ loopBody.tails, earlier ∈ rest → later ∈ rest) :
    core.size later ≤ core.size earlier := by
  unfold SetUp at setUp
  split at setUp
  case h_6 i rest =>
    obtain ⟨-, tail, sizes⟩ := setUp
    have filled := order rest tail
    rw [sizes earlier, sizes later]
    by_cases waits : earlier ∈ rest
    · rw [if_pos waits, if_pos (filled waits)]
    · rw [if_neg waits]
      split <;> omega
  all_goals first | exact setUp.elim | simp [setUp]

/-- Behind `InitThreads` every vector has its shards. -/
theorem Main.size_eq (main : Main options core place) (factory : core.sessionFactory = true)
    (vector : Vector) : core.size vector = options.numOfLogicThread := by
  obtain ⟨setUp, set, -⟩ := main
  rw [factory] at set
  cases place <;> simp only [Place.factorySet, reduceCtorEq] at set
  all_goals exact setUp vector

theorem ServerCore.emplace_size (core : ServerCore) (vector other : Vector) :
    (core.emplace vector).size other =
      if other = vector then core.size vector + 1 else core.size other :=
  Function.update_apply core.size vector (core.size vector + 1) other

@[simp] theorem ServerCore.index_eq {vector : Vector} {index : ℕ}
    (inside : index < core.size vector) : core.index vector index = core := if_pos inside

@[simp] theorem ServerCore.indexAll_eq {vectors : List Vector} {index : ℕ}
    (inside : ∀ vector ∈ vectors, index < core.size vector) :
    core.indexAll vectors index = core := by
  induction vectors with
  | nil => rfl
  | cons vector rest ih =>
      obtain ⟨here, inside⟩ := List.forall_mem_cons.mp inside
      rw [ServerCore.indexAll, List.foldl_cons, ServerCore.index_eq here]
      exact ih inside

/-- What goes wrong in a step at a place. -/
def noted (core : ServerCore) : Place → List Fault
  | .createSession => if core.sessionFactory then [] else [.nullFactory]
  | .ioWait => if core.iocpHandle = .port then [] else [.noPort]
  | _ => []

/-- What a step of a thread other than the main thread leaves. -/
structure Served (options : Options) (core : ServerCore) (place : Place) (after : ServerCore)
    (next : Place) : Prop where
  size : after.size = core.size
  factory : after.sessionFactory = core.sessionFactory
  port : after.iocpHandle = core.iocpHandle
  sessions : Sessions options after
  remain : core.sessions ≠ [] → after.sessions ≠ []
  relies : Relies options after next
  faults : after.faults = core.faults ++ noted core place

/-- A step that changes nothing the threads share. -/
theorem served_same {next : Place} (sessions : Sessions options core)
    (relies : Relies options core next) (quiet : noted core place = []) :
    Served options core place core next :=
  ⟨rfl, rfl, rfl, sessions, id, relies, by rw [quiet, List.append_nil]⟩

/-- Once there is a session every vector has the shard. -/
theorem inside_of_session {mainPlace : Place} {threadId : ℕ}
    (main : Main options core mainPlace) (sessions : Sessions options core)
    (shard : threadId < options.numOfLogicThread) (present : core.sessions ≠ [])
    (vector : Vector) : threadId < core.size vector := by
  rw [main.size_eq (sessions.factory present)]
  exact shard

/-- `ReleaseSession` of a session of the shard. -/
theorem served_release {mainPlace next : Place} {threadId : ℕ}
    (main : Main options core mainPlace) (sessions : Sessions options core)
    (shard : threadId < options.numOfLogicThread) (present : core.sessions ≠ [])
    (relies : Relies options core next) (quiet : noted core place = []) :
    Served options core place (core.releaseSession threadId) next := by
  have inside := inside_of_session main sessions shard present
  have released : core.releaseSession threadId =
      { core with releaseEvents := core.releaseEvents ++ [threadId] } := by
    rw [ServerCore.releaseSession, ServerCore.indexAll_eq fun vector _ => inside vector]
  rw [released]
  refine ⟨rfl, rfl, rfl, ⟨sessions.factory, sessions.shard, fun other event => ?_⟩, id, ?_, ?_⟩
  · rcases List.mem_append.mp event with before | new
    · exact sessions.event other before
    · rw [List.mem_singleton.mp new]
      exact ⟨shard, present⟩
  · cases next <;> exact relies
  · rw [quiet, List.append_nil]

/-- The fault of the place ends the thread. -/
theorem served_fault {fault : Fault} {terminated : Bool} (sessions : Sessions options core)
    (noted : noted core place = [fault]) :
    Served options core place { core.fault fault with terminated := terminated } .ended :=
  ⟨rfl, rfl, rfl, ⟨sessions.factory, sessions.shard, sessions.event⟩, id, trivial,
    by rw [noted]; rfl⟩

theorem run_served {mainPlace next : Place} {choice : Choice} {after : ServerCore}
    (main : Main options core mainPlace) (sessions : Sessions options core)
    (relies : Relies options core place)
    (acted : run options core place choice = some (after, next)) :
    Served options core place after next := by
  have inside {threadId : ℕ} (shard : threadId < options.numOfLogicThread)
      (present : core.sessions ≠ []) := inside_of_session main sessions shard present
  -- a release thread comes after the maps of its shard
  have maps {i : ℕ} (born : i < core.size .releaseThreads) :
      ∀ vector ∈ [Vector.sessionMapMutex, .sessionMap], i < core.size vector := by
    simp only [List.forall_mem_cons, List.not_mem_nil, false_implies, implies_true, and_true]
    exact ⟨born.trans_le (main.setUp.size_le (by decide)),
      born.trans_le (main.setUp.size_le (by decide))⟩
  cases run_moves acted with
  | acceptStarted | eventsCreated | tickerStarted | ioStarted | allIoStarted | shardBegun
  | shardsDone | emplaced | shardDone | factorySet | factoryMissing | portCreated | portFailed =>
      exact relies.elim
  | acceptBorn | ioBorn | connected | acceptFailed | acceptStopped | receives | completedDone =>
      exact served_same sessions trivial rfl
  | associated | frameBegun | frameDone => exact served_same sessions relies rfl
  | logicBorn i born => exact served_same sessions born rfl
  | releaseBorn i born =>
      rw [ServerCore.index_eq (born.trans_le (main.setUp.size_le (by decide)))]
      exact served_same sessions born rfl
  | created threadId set shard =>
      refine ⟨rfl, rfl, rfl, ⟨fun _ => set, ?_, ?_⟩, by simp, ⟨shard, by simp⟩,
        by simp [noted, set]⟩
      · intro other member
        rcases List.mem_append.mp member with before | new
        · exact sessions.shard other before
        · rwa [List.mem_singleton.mp new]
      · intro other event
        exact ⟨(sessions.event other event).1, by simp⟩
  | createFailed set => exact served_same sessions trivial (by simp [noted, set])
  | thrown choice unset => exact served_fault sessions (by simp [noted, unset])
  | associateFailed | recvReleased | completedReleased =>
      exact served_release main sessions relies.1 relies.2 trivial rfl
  | inserted | found =>
      rw [ServerCore.indexAll_eq fun vector _ => inside relies.1 relies.2 vector]
      exact served_same sessions relies rfl
  | recvTouched threadId vector other shard | releaseTouched i vector threadId shard =>
      rw [ServerCore.index_eq (inside shard relies.2 vector)]
      exact served_same sessions relies rfl
  | completion threadId port member =>
      exact served_same sessions ⟨sessions.shard _ member, List.ne_nil_of_mem member⟩
        (by simp [noted, port])
  | ioStopped port => exact served_same sessions trivial (by simp [noted, port])
  | waitFailed choice unmade => exact served_fault sessions (by simp [noted, unmade])
  | framePassed i vector rest =>
      have born : i < core.size .logicThreads := relies
      rw [ServerCore.index_eq (born.trans_le (main.setUp.size_le (by cases vector <;> decide)))]
      exact served_same sessions born rfl
  | frameTouched i rest vector threadId may =>
      rw [ServerCore.index_eq (inside may.2 may.1 vector)]
      exact served_same sessions relies rfl
  | releaseWoken i event =>
      obtain ⟨shard, present⟩ := sessions.event i event
      rw [ServerCore.indexAll_eq fun vector _ => inside shard present vector]
      refine ⟨rfl, rfl, rfl, ⟨sessions.factory, sessions.shard, fun other member => ?_⟩, id,
        ⟨relies, present⟩, by simp [noted]⟩
      exact sessions.event other (List.mem_of_mem_erase member)
  | nothingErased i =>
      rw [ServerCore.indexAll_eq (maps relies)]
      exact served_same sessions relies rfl
  | allErased i present =>
      rw [ServerCore.indexAll_eq (maps relies)]
      exact served_same sessions ⟨relies, present⟩ rfl
  | released i threadId member =>
      rw [ServerCore.indexAll_eq fun vector _ => inside (sessions.shard _ member) relies.2 vector]
      exact served_same sessions relies rfl
  | releaseDone => exact served_same sessions relies.1 rfl

/-- What a step of the main thread leaves. -/
structure Started (options : Options) (core : ServerCore) (after : ServerCore) (next : Place) :
    Prop where
  main : Main options after next
  size : ∀ vector, core.size vector ≤ after.size vector
  factory : core.sessionFactory = true → after.sessionFactory = true
  sessions : after.sessions = core.sessions
  releaseEvents : after.releaseEvents = core.releaseEvents
  faults : after.faults = core.faults

/-- The main thread goes on; it sets neither the factory nor the port, and fills no vector. -/
theorem started_same {after : ServerCore} {next : Place} (main : Main options core place)
    (same : (after.size, after.sessionFactory, after.iocpHandle, after.sessions,
        after.releaseEvents, after.faults) =
      (core.size, core.sessionFactory, core.iocpHandle, core.sessions, core.releaseEvents,
        core.faults))
    (setUp : SetUp options core next) (factory : next.factorySet = place.factorySet)
    (port : next = .started ↔ place = .started) : Started options core after next := by
  simp only [Prod.mk.injEq] at same
  obtain ⟨size, set, handle, sessions, releaseEvents, faults⟩ := same
  refine ⟨⟨?_, ?_, ?_⟩, fun vector => size ▸ le_rfl, fun before => set ▸ before, sessions,
    releaseEvents, faults⟩
  · unfold SetUp at setUp ⊢
    rwa [size]
  · rw [set, factory]
    exact main.factory
  · rw [handle, port]
    exact main.port

theorem run_started {next : Place} {choice : Choice} {after : ServerCore}
    (main : Main options core place)
    (acted : run options core place choice = some (after, next)) :
    Started options core after next := by
  have setUp := main.setUp
  cases run_moves acted with
  | acceptStarted | eventsCreated | tickerStarted | ioStarted | factoryMissing =>
      exact started_same main rfl setUp rfl (by simp)
  | allIoStarted => exact started_same main rfl ⟨Nat.zero_le _, setUp⟩ rfl (by simp)
  | shardBegun i more =>
      refine started_same main rfl ⟨more, by decide, fun vector => ?_⟩ rfl (by simp)
      rw [setUp.2 vector, if_pos (by cases vector <;> decide)]
  | shardsDone i done =>
      refine started_same main rfl (fun vector => ?_) rfl (by simp)
      have most := setUp.1
      rw [setUp.2 vector]
      omega
  | emplaced i vector rest =>
      obtain ⟨more, tail, sizes⟩ := setUp
      have suffix := (List.mem_tails _ _).mp tail
      obtain ⟨once, -⟩ := List.nodup_cons.mp (suffix.sublist.nodup (by decide))
      refine ⟨⟨⟨more, ?_, fun other => ?_⟩, main.factory, main.port.trans (by simp)⟩,
        fun other => ?_, id, rfl, rfl, rfl⟩
      · exact (List.mem_tails _ _).mpr ((List.suffix_cons vector rest).trans suffix)
      · rw [ServerCore.emplace_size]
        by_cases same : other = vector
        · rw [if_pos same, same, if_neg once, sizes vector, if_pos List.mem_cons_self]
        · rw [if_neg same, sizes other]
          simp only [List.mem_cons, same, false_or]
      · rw [ServerCore.emplace_size]
        split
        · rename_i same
          rw [same]
          exact Nat.le_succ _
        · exact le_rfl
  | shardDone i =>
      obtain ⟨more, -, sizes⟩ := setUp
      exact started_same main rfl ⟨more, by simpa using sizes⟩ rfl (by simp)
  | factorySet =>
      exact ⟨⟨setUp, rfl, main.port.trans (by simp)⟩, fun _ => le_rfl, fun _ => rfl, rfl, rfl, rfl⟩
  | portCreated | portFailed =>
      exact ⟨⟨setUp, main.factory, by simp⟩, fun _ => le_rfl, id, rfl, rfl, rfl⟩
  -- the other threads
  | _ => exact setUp.elim

/-- What another thread relies on stays while sizes and sessions only grow. -/
theorem Relies.mono {after : ServerCore} (relies : Relies options core place)
    (size : ∀ vector, core.size vector ≤ after.size vector)
    (remain : core.sessions ≠ [] → after.sessions ≠ []) : Relies options after place := by
  cases place
  case associate | insertSession | doRecv | findSession | completed =>
    exact ⟨relies.1, remain relies.2⟩
  case logicWait i | frame i rest => exact lt_of_lt_of_le relies (size _)
  case releaseWait i => exact lt_of_lt_of_le relies (size _)
  case releasing i => exact ⟨relies.1.trans_le (size _), remain relies.2⟩
  all_goals exact relies

/-- A step of a thread starts from where the thread is. -/
theorem act_eq_some {after : ServerCore} {next : Place} {choice : Choice} :
    act options core place choice = some (after, next) ↔
      core.terminated = false ∧ run options core place choice = some (after, next) := by
  unfold act
  split <;> simp [*]

/-- One step of the machine: what it keeps, and what goes wrong in it. -/
theorem formed_step {before after : State} {label : Tid × Choice} (formed : Formed options before)
    (taken : step options before label = some after) :
    Formed options after ∧
      after.shared.faults = before.shared.faults ++ noted before.shared (before.pc label.1) := by
  obtain ⟨core, next, acted, rfl⟩ := threadStep_eq_some.mp taken
  obtain ⟨-, ran⟩ := act_eq_some.mp acted
  obtain ⟨thread, choice⟩ := label
  by_cases own : thread = .main
  · subst own
    have started := run_started formed.main ran
    have quiet : noted before.shared (before.pc .main) = [] := by
      have setUp := formed.main.setUp
      generalize before.pc .main = place at setUp
      cases place <;> first | rfl | exact setUp.elim
    refine ⟨⟨?_, fun other different => ?_, ?_⟩, ?_⟩
    · show Main options core (Function.update before.pc .main next .main)
      rw [Function.update_self]
      exact started.main
    · show Relies options core (Function.update before.pc .main next other)
      rw [Function.update_of_ne different]
      apply (formed.others other different).mono started.size
      exact fun present => started.sessions ▸ present
    · obtain ⟨factory, shard, event⟩ := formed.sessions
      refine ⟨?_, ?_, ?_⟩
      · rw [started.sessions]
        exact fun present => started.factory (factory present)
      · rw [started.sessions]
        exact shard
      · rw [started.sessions, started.releaseEvents]
        exact event
    · rw [quiet, List.append_nil]
      exact started.faults
  · have served := run_served formed.main formed.sessions (formed.others thread own) ran
    refine ⟨⟨?_, fun other different => ?_, served.sessions⟩, served.faults⟩
    · show Main options core (Function.update before.pc thread next .main)
      rw [Function.update_of_ne (Ne.symm own)]
      obtain ⟨setUp, factory, port⟩ := formed.main
      refine ⟨?_, served.factory ▸ factory, served.port ▸ port⟩
      unfold SetUp at setUp ⊢
      rwa [served.size]
    · show Relies options core (Function.update before.pc thread next other)
      by_cases same : other = thread
      · rw [same, Function.update_self]
        exact served.relies
      · rw [Function.update_of_ne same]
        apply (formed.others other different).mono _ served.remain
        exact fun vector => served.size ▸ le_rfl

theorem formed_initial : Formed options initial := by
  refine ⟨⟨fun _ => rfl, rfl, by simp [initial, initialPlace]⟩, ?_, ?_⟩
  · intro thread different
    cases thread
    case main => exact absurd rfl different
    all_goals trivial
  · exact ⟨fun present => absurd rfl present, fun _ member => absurd member List.not_mem_nil,
      fun _ member => absurd member List.not_mem_nil⟩

/-- Every reached state is formed, whatever guard its run met. -/
theorem formed_of_reach {guard : State → Tid × Choice → Prop} {state : State}
    (reached : Reach (step options) guard initial state) : Formed options state := by
  apply reached.invariant (Formed options) formed_initial
  intro before label after formed _ taken
  exact (formed_step formed taken).1

end Invariant

/-! ### Coming in time -/

section InTime

variable {options : Options} {core after : ServerCore} {place next mainPlace : Place}
  {choice : Choice}

/-- What a thread needs of the main thread where it stands. -/
def Place.Asks (place mainPlace : Place) : Prop :=
  match place with
  | .createSession => mainPlace.factorySet = true
  | .ioWait | .findSession _ | .completed _ => mainPlace = .started
  | _ => True

/-- **The places behind a step in time** ask for nothing new: a client and an IO thread come when
what they need is there. -/
theorem Moves.asks (moved : Moves options core place choice after next)
    (asked : place.Asks mainPlace)
    (client : place = .accept → choice = .go → mainPlace.factorySet = true)
    (worker : ∀ i, place = .ioUnborn i → choice = .go → mainPlace = .started) :
    next.Asks mainPlace := by
  cases moved with
  | connected => exact client rfl rfl
  | ioBorn i born => exact worker i rfl rfl
  | completion | found | completedDone | completedReleased => exact asked
  | _ => exact trivial

/-- What the main thread has set up stays. -/
theorem Moves.keeps (moved : Moves options core place choice after next) :
    (place.factorySet = true → next.factorySet = true) ∧ place ≠ .started := by
  cases moved with
  | portCreated | portFailed => exact ⟨fun _ => rfl, by simp⟩
  | _ => exact ⟨by simp [Place.factorySet], by simp⟩

theorem Place.Asks.mono {mainNext : Place} (asked : place.Asks mainPlace)
    (factory : mainPlace.factorySet = true → mainNext.factorySet = true)
    (port : mainPlace = .started → mainNext = .started) : place.Asks mainNext := by
  cases place
  case createSession => exact factory asked
  case ioWait | findSession | completed => exact port asked
  all_goals trivial

/-- Where a thread has what it needs, nothing goes wrong. -/
theorem noted_of_asks (main : Main options core mainPlace) (asked : place.Asks mainPlace) :
    noted core place = [] := by
  cases place
  case createSession => exact if_pos (main.factory.trans asked)
  case ioWait => exact if_pos (main.port.mpr asked)
  all_goals rfl

/-- **In a run in time every thread has what it needs.** -/
theorem asks_of_reach {state : State} (reached : Reach (step options) InTime initial state)
    (thread : Tid) : (state.pc thread).Asks (state.pc .main) := by
  revert thread
  refine reached.invariant (fun state => ∀ thread, (state.pc thread).Asks (state.pc .main)) ?_ ?_
  · intro thread
    cases thread <;> trivial
  · intro before label after asked inTime taken thread
    obtain ⟨core, next, acted, rfl⟩ := threadStep_eq_some.mp taken
    have moved := run_moves (act_eq_some.mp acted).2
    have place : (Function.update before.pc label.1 next thread).Asks (before.pc .main) := by
      by_cases own : thread = label.1
      · subst own
        rw [Function.update_self]
        unfold InTime at inTime
        refine moved.asks (asked _) (fun here goes => ?_) fun i here goes => ?_
        · rwa [here, goes] at inTime
        · rwa [here, goes] at inTime
      · rw [Function.update_of_ne own]
        exact asked thread
    have main : ((before.pc .main).factorySet = true →
          (Function.update before.pc label.1 next .main).factorySet = true) ∧
        (before.pc .main = .started → Function.update before.pc label.1 next .main = .started) := by
      by_cases own : .main = label.1
      · rw [← own] at moved ⊢
        rw [Function.update_self]
        exact ⟨moved.keeps.1, fun here => absurd here moved.keeps.2⟩
      · rw [Function.update_of_ne own]
        exact ⟨id, id⟩
    exact place.mono main.1 main.2

end InTime

section Results

variable {options : Options} {state : State}

/-- **No index behind the end**, in any run. -/
theorem never_outOfRange (reached : Reach (step options) Unguarded initial state) (vector : Vector)
    (index : ℕ) : Fault.outOfRange vector index ∉ state.shared.faults := by
  induction reached with
  | start => exact List.not_mem_nil
  | step earlier _ taken ih =>
      rename_i before after label
      rw [(formed_step (formed_of_reach earlier) taken).2, List.mem_append, not_or]
      refine ⟨ih, ?_⟩
      unfold noted
      split <;> try split
      all_goals simp

/-- Nothing goes wrong in a run in time. -/
theorem faults_of_inTime (reached : Reach (step options) InTime initial state) :
    state.shared.faults = [] := by
  induction reached with
  | start => rfl
  | @step before after label earlier _ taken ih =>
      have formed := formed_of_reach earlier
      have quiet := noted_of_asks formed.main (asks_of_reach earlier label.1)
      rw [(formed_step formed taken).2, ih, quiet]
      rfl

/-- Where a step goes wrong, one can be taken. -/
theorem run_of_noted {core : ServerCore} {place : Place} (wrong : noted core place ≠ []) :
    ∃ choice, choice ≠ .go ∧ (run options core place choice).isSome := by
  cases place
  case createSession =>
    refine ⟨.fails, by simp, ?_⟩
    unfold run
    dsimp only
    split <;> rfl
  case ioWait =>
    refine ⟨.stop, by simp, ?_⟩
    unfold run
    dsimp only
    split <;> rfl
  all_goals exact absurd rfl wrong

/-- A thread that stands where something goes wrong, goes wrong with a step. -/
theorem fault_of_noted {thread : Tid} (formed : Formed options state)
    (running : state.shared.terminated = false)
    (wrong : noted state.shared (state.pc thread) ≠ []) :
    ∃ next final, next.1 = thread ∧ InTime state next ∧ step options state next = some final ∧
      final.shared.faults ≠ [] := by
  obtain ⟨choice, other, runs⟩ := run_of_noted wrong
  obtain ⟨⟨core, next⟩, ran⟩ := Option.isSome_iff_exists.mp runs
  have taken : step options state (thread, choice) =
      some ⟨core, Function.update state.pc thread next⟩ :=
    threadStep_eq_some.mpr ⟨core, next, act_eq_some.mpr ⟨running, ran⟩, rfl⟩
  refine ⟨_, _, rfl, ?_, taken, ?_⟩
  · unfold InTime
    split
    · exact absurd ‹_› other
    · exact absurd ‹_› other
    · trivial
  · rw [(formed_step formed taken).2]
    exact List.append_ne_nil_of_right_ne_nil _ wrong

/-- **A client or an IO thread that comes too early** goes wrong with its next step. -/
theorem fault_of_early {after : State} {label : Tid × Choice} (formed : Formed options state)
    (early : ¬ InTime state label) (taken : step options state label = some after) :
    ∃ next final, next.1 = label.1 ∧ InTime after next ∧ step options after next = some final ∧
      final.shared.faults ≠ [] := by
  obtain ⟨later, -⟩ := formed_step formed taken
  obtain ⟨core, next, acted, rfl⟩ := threadStep_eq_some.mp taken
  obtain ⟨running, ran⟩ := act_eq_some.mp acted
  have moved := run_moves ran
  have wrong : core = state.shared ∧ noted core next ≠ [] := by
    unfold InTime at early
    generalize state.pc label.1 = place at moved early
    generalize label.2 = choice at moved early
    cases moved with
    | connected =>
        have unset : ¬ state.shared.sessionFactory = true := fun set =>
          early (formed.main.factory.symm.trans set)
        simp [noted, unset]
    | ioBorn i born =>
        have unmade : ¬ state.shared.iocpHandle = .port := fun made =>
          early (formed.main.port.mp made)
        simp [noted, unmade]
    | _ => exact absurd trivial early
  have here : noted core (Function.update state.pc label.1 next label.1) ≠ [] := by
    rw [Function.update_self]
    exact wrong.2
  exact fault_of_noted later (wrong.1 ▸ running) here

/-- **The start is safe** in every run in which `accept` returns clients only after
`SetSessionFactory` and the IO threads begin only after the completion port is created. Each step
that does not wait for it makes the run go wrong with the next step of its thread. In no run is an
index behind the end of a vector. -/
theorem startup_safe (options : Options) :
    (∀ state, Reach (step options) InTime initial state → state.shared.faults = []) ∧
      (∀ before label after, Reach (step options) InTime initial before → ¬ InTime before label →
        step options before label = some after →
          ∃ next final, next.1 = label.1 ∧ InTime after next ∧
            step options after next = some final ∧ final.shared.faults ≠ []) ∧
      ∀ state, Reach (step options) Unguarded initial state →
        ∀ vector index, Fault.outOfRange vector index ∉ state.shared.faults :=
  ⟨fun _ => faults_of_inTime,
    fun _ _ _ reached => fault_of_early (formed_of_reach reached),
    fun _ => never_outOfRange⟩

/-- The server has started, a client has connected, and its first completion is served. -/
theorem startup_safe_served : ∃ state, Reach (step ⟨1, 1, true⟩) InTime initial state ∧
    (state.shared.sessions = [0] ∧ state.pc (.io 0) = .findSession 0) ∧
      state.shared.faults = [] := by
  obtain ⟨state, reached, served⟩ := exists_reach_of_runGuarded (step ⟨1, 1, true⟩) InTime initial
    (List.replicate 20 (.main, .go) ++ [(.accept, .go), (.accept, .go), (.accept, .session 0),
      (.io 0, .go), (.io 0, .session 0)])
    (fun state => decide (state.shared.sessions = [0] ∧ state.pc (.io 0) = .findSession 0))
    (by decide +kernel)
  exact ⟨state, reached, of_decide_eq_true served, (startup_safe _).1 state reached⟩

/-- A client connects while `InitThreads` is at its first loop. -/
theorem client_before_factory : ¬ ∀ options state,
    Reach (step options) Unguarded initial state → state.shared.faults = [] := by
  intro safe
  obtain ⟨state, reached, faulty⟩ := exists_reach_of_run (step ⟨1, 1, true⟩) initial
    [(.main, .go), (.accept, .go), (.accept, .go), (.accept, .session 0)]
    (fun state => state.shared.faults = [.nullFactory]) rfl
  rw [safe _ _ reached] at faulty
  simp at faulty

end Results

end ActorModelServer.Startup
