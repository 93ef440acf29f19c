/-
**The registry, called from hooks.**

A logic thread runs the hooks of its actors under the shared lock of the map it goes over. A hook
that looks an actor up takes the mutex of that actor's shard; one that registers or unregisters an
actor takes it exclusively and runs `OnActorCreated` or `OnActorDestroyed` under it, which may call
the registry again. Which hooks call what is the input `hooks`; which actors are registered, and
whether a hook makes a call it may make, is left to a `Choice`. A thread that requests a mutex it
holds already gets no further here; to the standard library this is undefined.

* `Disciplined` — a condition on the calls alone: no chain of hooks requests a mutex of its own, and
  chains of several threads that can be there at once do not wait in a cycle.
* `registry_safe_iff` — the condition is exact.
* `safe_of_rank` — it holds when every chain of hooks requests mutexes of rising rank.
-/

import ActorModelServer.Library.LockTable
import ActorModelServer.Server.FrameHooks
import ActorModelServer.Server.Registry

namespace ActorModelServer.HookLocks

open ActorModelServer.FrameHooks (Hook Map)
open ActorModelServer.Registry (ActorId NumOfLogicThread ThreadId getTargetThreadId twoThreads)
open StepRuns (Reach Unguarded exists_reach_of_run)
open ThreadTable (Mode Locking System lockStep lockStep_moved reach_solo reach_each mixed)

/-! ### Hooks and the mutexes they take -/

section Model

variable (numOfLogicThread : NumOfLogicThread)

/-- The mutexes of the shards. -/
inductive Mutex
  | sessionMapMutex (threadId : ThreadId numOfLogicThread)
  | nonNetworkActorMapMutex (threadId : ThreadId numOfLogicThread)
  deriving DecidableEq

/-- A pass of a frame: a timer hook over one of the maps. -/
structure Pass where
  hook : Hook
  map : Map
  deriving DecidableEq

/-- A hook that runs, with its actor. A message handler runs within `OnTimer`. -/
inductive Running
  | timer (hook : Hook) (map : Map) (actorId : ActorId)
  | onActorCreated (actorId : ActorId)
  | onActorDestroyed (actorId : ActorId)
  deriving DecidableEq

/-- A call of the registry. -/
inductive Call
  | findActor (actorId : ActorId) (isNetworkActor : Bool)
  | findNonNetworkActor (actorId : ActorId)
  | registerNonNetworkActor (actorId : ActorId)
  | unregisterNonNetworkActor (actorId : ActorId)
  deriving DecidableEq

/-- Where a logic thread is; `stack` has the hooks that run, the innermost first. -/
inductive Place
  | wait (threadId : ThreadId numOfLogicThread)
  | passLock (threadId : ThreadId numOfLogicThread) (pass : Pass)
  | inPass (threadId : ThreadId numOfLogicThread) (pass : Pass) (stack : List Running)
  | callLock (threadId : ThreadId numOfLogicThread) (pass : Pass) (stack : List Running)
      (call : Call)
  | inMap (threadId : ThreadId numOfLogicThread) (pass : Pass) (stack : List Running) (call : Call)
  deriving DecidableEq

/-- What the code leaves to its surroundings. -/
inductive Choice
  | timeout
  | lock
  /- the pass gets to an actor of the map -/
  | actor (actorId : ActorId)
  | call (call : Call)
  /- the hook of a registered actor runs; a pass, a hook or a call has no more to do -/
  | hook
  | return
  deriving DecidableEq

variable {numOfLogicThread}

/-- The mutex a pass holds. -/
def Pass.mutex (pass : Pass) (threadId : ThreadId numOfLogicThread) : Mutex numOfLogicThread :=
  match pass.map with
  | .sessionMap => .sessionMapMutex threadId
  | .nonNetworkActorMap => .nonNetworkActorMapMutex threadId

/-- The pass after a pass of the frame. -/
def Pass.next : Pass → Option Pass
  | ⟨hook, .sessionMap⟩ => some ⟨hook, .nonNetworkActorMap⟩
  | ⟨.preTimer, .nonNetworkActorMap⟩ => some ⟨.onTimer, .sessionMap⟩
  | ⟨.onTimer, .nonNetworkActorMap⟩ => some ⟨.postTimer, .sessionMap⟩
  | ⟨.postTimer, .nonNetworkActorMap⟩ => none

/-- The mutex that is held for a hook inside a registration. -/
def Running.mutex : Running → Option (Mutex numOfLogicThread)
  | .timer _ _ _ => none
  | .onActorCreated actorId =>
      some (.nonNetworkActorMapMutex (getTargetThreadId numOfLogicThread actorId))
  | .onActorDestroyed actorId =>
      some (.nonNetworkActorMapMutex (getTargetThreadId numOfLogicThread actorId))

/-- The mutex a call takes. -/
def Call.want : Call → Mutex numOfLogicThread × Mode
  | .findActor actorId true =>
      (.sessionMapMutex (getTargetThreadId numOfLogicThread actorId), .shared)
  | .findActor actorId false =>
      (.nonNetworkActorMapMutex (getTargetThreadId numOfLogicThread actorId), .shared)
  | .findNonNetworkActor actorId =>
      (.nonNetworkActorMapMutex (getTargetThreadId numOfLogicThread actorId), .shared)
  | .registerNonNetworkActor actorId =>
      (.nonNetworkActorMapMutex (getTargetThreadId numOfLogicThread actorId), .exclusive)
  | .unregisterNonNetworkActor actorId =>
      (.nonNetworkActorMapMutex (getTargetThreadId numOfLogicThread actorId), .exclusive)

/-- The hook a registration runs under its lock. -/
def Call.hook : Call → Option Running
  | .findActor _ _ => none
  | .findNonNetworkActor _ => none
  | .registerNonNetworkActor actorId => some (.onActorCreated actorId)
  | .unregisterNonNetworkActor actorId => some (.onActorDestroyed actorId)

/-- The call may end without a hook: a lookup, or an actor that is not registered. -/
def Call.mayEnd : Call → Bool
  | .registerNonNetworkActor _ => false
  | _ => true

/-- What a pass with its hooks holds. -/
def heldIn (threadId : ThreadId numOfLogicThread) (pass : Pass) (stack : List Running)
    (mutex : Mutex numOfLogicThread) : Option Mode :=
  if pass.mutex threadId = mutex then some .shared
  else if ∃ running ∈ stack, running.mutex = some mutex then some .exclusive
  else none

/-- What a place holds. -/
def Place.held (place : Place numOfLogicThread) (mutex : Mutex numOfLogicThread) : Option Mode :=
  match place with
  | .wait _ => none
  | .passLock _ _ => none
  | .inPass threadId pass stack => heldIn threadId pass stack mutex
  | .callLock threadId pass stack _ => heldIn threadId pass stack mutex
  | .inMap threadId pass stack call =>
      if call.want.1 = mutex then some (call.want : Mutex numOfLogicThread × Mode).2
      else heldIn threadId pass stack mutex

/-- What a place waits for. -/
def Place.wanted : Place numOfLogicThread → Option (Mutex numOfLogicThread × Mode)
  | .wait _ => none
  | .passLock threadId pass => some (pass.mutex threadId, .shared)
  | .inPass _ _ _ => none
  | .callLock _ _ _ call => some call.want
  | .inMap _ _ _ _ => none

/-- The use of the mutexes. -/
def locking : Locking (Place numOfLogicThread) (Mutex numOfLogicThread) where
  held := Place.held
  wanted := Place.wanted

/-- One step of a logic thread that is not kept waiting by another; `hooks` says which calls a hook
may make. -/
def act (hooks : Running → Call → Bool) (shared : Unit) (place : Place numOfLogicThread)
    (choice : Choice) : Option (Unit × Place numOfLogicThread) :=
  match place, choice with
  | .wait threadId, .timeout => some (shared, .passLock threadId ⟨.preTimer, .sessionMap⟩)
  | .passLock threadId pass, .lock => some (shared, .inPass threadId pass [])
  | .inPass threadId pass [], .actor actorId =>
      if getTargetThreadId numOfLogicThread actorId = threadId then
        some (shared, .inPass threadId pass [.timer pass.hook pass.map actorId])
      else none
  | .inPass threadId pass [], .return =>
      match pass.next with
      | some next => some (shared, .passLock threadId next)
      | none => some (shared, .wait threadId)
  | .inPass threadId pass (running :: below), .call call =>
      if hooks running call then
        some (shared, .callLock threadId pass (running :: below) call)
      else none
  | .inPass threadId pass (_ :: below), .return => some (shared, .inPass threadId pass below)
  | .callLock threadId pass stack call, .lock =>
      -- the thread gets no further with a mutex it holds
      if heldIn threadId pass stack call.want.1 = none then
        some (shared, .inMap threadId pass stack call)
      else none
  | .inMap threadId pass stack call, .hook =>
      match call.hook with
      | some running => some (shared, .inPass threadId pass (running :: stack))
      | none => none
  | .inMap threadId pass stack call, .return =>
      if call.mayEnd then some (shared, .inPass threadId pass stack) else none
  | _, _ => none

/-- The logic threads, and which calls their hooks may make. -/
abbrev State (numOfLogicThread : NumOfLogicThread) :=
  System Unit (ThreadId numOfLogicThread) (Place numOfLogicThread)

/-- One step of one thread. -/
abbrev step (hooks : Running → Call → Bool) :
    State numOfLogicThread → ThreadId numOfLogicThread × Choice →
      Option (State numOfLogicThread) :=
  lockStep locking (act hooks)

variable (numOfLogicThread) in
/-- Every logic thread waits for its next frame. -/
def initial : State numOfLogicThread := ⟨(), Place.wait⟩

/-- No thread requests a mutex it holds, and no set of threads waits in a cycle. -/
def Safe (pc : ThreadId numOfLogicThread → Place numOfLogicThread) : Prop :=
  (∀ thread mutex mode, locking.wanted (pc thread) = some (mutex, mode) →
    locking.held (pc thread) mutex = none) ∧ locking.Acyclic pc

end Model

/-! ### What the calls of the hooks allow -/

section Chains

variable {numOfLogicThread : NumOfLogicThread}

/-- The hooks that may run inside each other in a pass: the timer hook of an actor of the shard, and
inside it the hooks of registrations, each under a mutex that was not held. -/
inductive Chain (hooks : Running → Call → Bool) (threadId : ThreadId numOfLogicThread)
    (pass : Pass) : List Running → Prop
  | empty : Chain hooks threadId pass []
  | timer {actorId : ActorId} (home : getTargetThreadId numOfLogicThread actorId = threadId) :
      Chain hooks threadId pass [.timer pass.hook pass.map actorId]
  | nested {outer inner : Running} {below : List Running} {call : Call}
      (chain : Chain hooks threadId pass (outer :: below)) (calls : hooks outer call = true)
      (runs : call.hook = some inner)
      (free : heldIn threadId pass (outer :: below) call.want.1 = none) :
      Chain hooks threadId pass (inner :: outer :: below)

/-- A call that waits: its pass, the hook that makes it with the hooks around it, and the call. -/
structure Request where
  pass : Pass
  running : Running
  below : List Running
  call : Call

/-- The request may be made by a thread. -/
def Request.Possible (request : Request) (hooks : Running → Call → Bool)
    (threadId : ThreadId numOfLogicThread) : Prop :=
  Chain hooks threadId request.pass (request.running :: request.below) ∧
    hooks request.running request.call = true

/-- The threads with a request wait for its mutex, the others wait for their next frame. -/
def waiting (requests : ThreadId numOfLogicThread → Option Request)
    (threadId : ThreadId numOfLogicThread) : Place numOfLogicThread :=
  match requests threadId with
  | none => .wait threadId
  | some request =>
      .callLock threadId request.pass (request.running :: request.below) request.call

/-- **The condition on the calls.** No chain of hooks requests a mutex it holds, and requests of
several threads whose chains hold compatible mutexes do not wait in a cycle. -/
structure Disciplined (numOfLogicThread : NumOfLogicThread) (hooks : Running → Call → Bool) :
    Prop where
  noReentry : ∀ (threadId : ThreadId numOfLogicThread) (request : Request),
    request.Possible hooks threadId →
      heldIn threadId request.pass (request.running :: request.below) request.call.want.1 = none
  noCycle : ∀ requests : ThreadId numOfLogicThread → Option Request,
    (∀ threadId request, requests threadId = some request → request.Possible hooks threadId) →
      locking.Excluded (waiting requests) → locking.Acyclic (waiting requests)

end Chains

/-! ### What a chain holds -/

section Holding

variable {numOfLogicThread : NumOfLogicThread} {hooks : Running → Call → Bool}
  {threadId : ThreadId numOfLogicThread} {pass : Pass} {stack : List Running}
  {mutex : Mutex numOfLogicThread} {mode : Mode}

theorem heldIn_eq_some : heldIn threadId pass stack mutex = some mode ↔
    pass.mutex threadId = mutex ∧ mode = .shared ∨
      pass.mutex threadId ≠ mutex ∧ (∃ running ∈ stack, running.mutex = some mutex) ∧
        mode = .exclusive := by
  unfold heldIn
  by_cases base : pass.mutex threadId = mutex
  · simp [base, eq_comm]
  · by_cases inside : ∃ running ∈ stack, running.mutex = some mutex
    · simp only [if_neg base, if_pos inside, Option.some.injEq]
      grind
    · simp [base, inside]

/-- A pass without a registration holds its map. -/
theorem heldIn_nil :
    heldIn threadId pass [] mutex = some mode ↔ pass.mutex threadId = mutex ∧ mode = .shared := by
  simp [heldIn_eq_some]

theorem heldIn_timer {hook : Hook} {map : Map} {actorId : ActorId} :
    heldIn threadId pass [.timer hook map actorId] mutex = heldIn threadId pass [] mutex := by
  simp [heldIn, Running.mutex]

/-- A hook inside holds what is held around it. -/
theorem heldIn_cons (running : Running) (held : heldIn threadId pass stack mutex = some mode) :
    heldIn threadId pass (running :: stack) mutex = some mode := by
  rw [heldIn_eq_some] at held ⊢
  rcases held with base | ⟨other, ⟨inner, member, own⟩, exclusive⟩
  · exact .inl base
  · exact .inr ⟨other, ⟨inner, List.mem_cons_of_mem running member, own⟩, exclusive⟩

/-- What a hook inside holds is held around it, or is its own. -/
theorem heldIn_cons_cases {running : Running}
    (held : heldIn threadId pass (running :: stack) mutex = some mode) :
    heldIn threadId pass stack mutex = some mode ∨
      running.mutex = some mutex ∧ mode = .exclusive := by
  rw [heldIn_eq_some] at held ⊢
  rcases held with base | ⟨other, ⟨inner, member, own⟩, exclusive⟩
  · exact .inl (.inl base)
  · rcases List.mem_cons.mp member with rfl | below
    · exact .inr ⟨own, exclusive⟩
    · exact .inl (.inr ⟨other, ⟨inner, below, own⟩, exclusive⟩)

/-- A registration takes its mutex exclusively, for the hook it runs. -/
theorem Call.hook_mutex (numOfLogicThread : NumOfLogicThread) {call : Call} {running : Running}
    (runs : call.hook = some running) :
    running.mutex = some (call.want : Mutex numOfLogicThread × Mode).1 ∧
      (call.want : Mutex numOfLogicThread × Mode).2 = .exclusive := by
  cases call with
  | findActor actorId isNetworkActor => cases runs
  | findNonNetworkActor actorId => cases runs
  | registerNonNetworkActor actorId =>
      cases runs
      exact ⟨rfl, rfl⟩
  | unregisterNonNetworkActor actorId =>
      cases runs
      exact ⟨rfl, rfl⟩

/-- The hook of a registration holds the mutex that was free. -/
theorem heldIn_hook {call : Call} {running : Running} (runs : call.hook = some running)
    (free : heldIn threadId pass stack call.want.1 = none) :
    heldIn threadId pass (running :: stack) call.want.1 = some .exclusive := by
  rw [heldIn_eq_some]
  refine .inr ⟨fun base => ?_, ⟨running, List.mem_cons_self, (Call.hook_mutex _ runs).1⟩, rfl⟩
  have held : heldIn threadId pass stack call.want.1 = some .shared :=
    heldIn_eq_some.mpr (.inl ⟨base, rfl⟩)
  rw [free] at held
  cases held

theorem Chain.pop {running : Running} (chain : Chain hooks threadId pass (running :: stack)) :
    Chain hooks threadId pass stack := by
  cases chain with
  | timer home => exact .empty
  | nested chain calls runs free => exact chain

/-- Where a thread may be by the calls alone. -/
def Placed (hooks : Running → Call → Bool) (thread : ThreadId numOfLogicThread) :
    Place numOfLogicThread → Prop
  | .wait threadId => threadId = thread
  | .passLock threadId _ => threadId = thread
  | .inPass threadId pass stack => threadId = thread ∧ Chain hooks threadId pass stack
  | .callLock threadId pass stack call =>
      threadId = thread ∧ ∃ running below, stack = running :: below ∧
        Request.Possible ⟨pass, running, below, call⟩ hooks threadId
  | .inMap threadId pass stack call =>
      threadId = thread ∧ (∃ running below, stack = running :: below ∧
        Request.Possible ⟨pass, running, below, call⟩ hooks threadId) ∧
        heldIn threadId pass stack call.want.1 = none

/-- **One step of a thread** stays among these places, and gains no mutex but the wanted one. -/
theorem Placed.act {thread : ThreadId numOfLogicThread} {place next : Place numOfLogicThread}
    {choice : Choice} {shared : Unit} (placed : Placed hooks thread place)
    (acted : act hooks () place choice = some (shared, next)) :
    Placed hooks thread next ∧ locking.GainsWanted place next := by
  unfold HookLocks.act at acted
  split at acted
  · -- a frame begins
    cases acted
    exact ⟨placed, fun _ _ held => by cases held⟩
  · -- a pass takes its lock
    cases acted
    refine ⟨⟨placed, .empty⟩, fun mutex mode held => .inr ?_⟩
    obtain ⟨rfl, rfl⟩ := heldIn_nil.mp held
    rfl
  · -- the pass gets to an actor
    obtain ⟨home, acted⟩ := Option.ite_none_right_eq_some.mp acted
    cases acted
    refine ⟨⟨placed.1, .timer home⟩, fun mutex mode held => .inl ?_⟩
    exact heldIn_timer.symm.trans held
  · -- the pass ends
    split at acted
    · cases acted
      exact ⟨placed.1, fun _ _ held => by cases held⟩
    · cases acted
      exact ⟨placed.1, fun _ _ held => by cases held⟩
  · -- a hook calls the registry
    obtain ⟨calls, acted⟩ := Option.ite_none_right_eq_some.mp acted
    cases acted
    exact ⟨⟨placed.1, _, _, rfl, placed.2, calls⟩, fun _ _ held => .inl held⟩
  · -- a hook returns
    cases acted
    exact ⟨⟨placed.1, placed.2.pop⟩, fun mutex mode held => .inl (heldIn_cons _ held)⟩
  · -- a call takes its lock
    obtain ⟨free, acted⟩ := Option.ite_none_right_eq_some.mp acted
    cases acted
    refine ⟨⟨placed.1, placed.2, free⟩, fun mutex mode held => ?_⟩
    simp only [locking, Place.held] at held
    split at held
    · rename_i own
      cases held
      exact .inr (by rw [← own]; rfl)
    · exact .inl held
  · -- the hook of a registration runs
    obtain ⟨same, ⟨outer, below, rfl, chain, calls⟩, free⟩ := placed
    split at acted
    · rename_i inner runs
      cases acted
      refine ⟨⟨same, .nested chain calls runs free⟩, fun mutex mode held => .inl ?_⟩
      obtain ⟨own, exclusive⟩ := Call.hook_mutex numOfLogicThread runs
      simp only [locking, Place.held]
      split
      · rename_i wanted
        subst wanted
        have now := heldIn_hook runs free
        rw [exclusive, ← now]
        exact held
      · rename_i other
        rcases heldIn_cons_cases held with around | ⟨inside, -⟩
        · exact around
        · rw [own] at inside
          exact absurd (Option.some.inj inside) other
    · cases acted
  · -- a call returns
    obtain ⟨same, ⟨outer, below, rfl, chain, calls⟩, free⟩ := placed
    obtain ⟨-, acted⟩ := Option.ite_none_right_eq_some.mp acted
    cases acted
    refine ⟨⟨same, chain⟩, fun mutex mode held => .inl ?_⟩
    simp only [locking, Place.held]
    split
    · rename_i wanted
      subst wanted
      exact absurd (free.symm.trans held) (by simp)
    · exact held
  · cases acted

end Holding

/-! ### Disciplined calls are safe -/

section Safe

variable {numOfLogicThread : NumOfLogicThread} {hooks : Running → Call → Bool}

/-- What every run keeps. -/
structure Ordered (hooks : Running → Call → Bool)
    (pc : ThreadId numOfLogicThread → Place numOfLogicThread) : Prop where
  placed : ∀ thread, Placed hooks thread (pc thread)
  excluded : locking.Excluded pc

theorem ordered_of_reach {state : State numOfLogicThread}
    (reached : Reach (step hooks) Unguarded (initial numOfLogicThread) state) :
    Ordered hooks state.pc := by
  have start : Ordered hooks (initial numOfLogicThread).pc :=
    ⟨fun _ => rfl, fun _ _ _ _ _ _ held => by cases held⟩
  refine reached.invariant (fun state => Ordered hooks state.pc) start ?_
  rintro before ⟨mover, choice⟩ after ⟨placed, excluded⟩ - taken
  obtain ⟨free, acted, others⟩ := lockStep_moved taken
  obtain ⟨now, gains⟩ := (placed mover).act acted
  refine ⟨fun thread => ?_, excluded.step free gains others⟩
  by_cases moved : thread = mover
  · rw [moved]
    exact now
  · rw [others thread moved]
    exact placed thread

/-- The request of a place. -/
def Place.request : Place numOfLogicThread → Option Request
  | .callLock _ pass (running :: below) call => some ⟨pass, running, below, call⟩
  | _ => none

/-- A thread is where its request waits, or has none. -/
theorem waiting_request {thread : ThreadId numOfLogicThread} {place : Place numOfLogicThread}
    {pc : ThreadId numOfLogicThread → Place numOfLogicThread} (here : pc thread = place)
    (placed : Placed hooks thread place) :
    (waiting (fun thread => (pc thread).request) thread = place ∧
        ∃ request, place.request = some request ∧ request.Possible hooks thread) ∨
      waiting (fun thread => (pc thread).request) thread = .wait thread ∧ place.request = none := by
  simp only [waiting, here]
  cases place with
  | callLock threadId pass stack call =>
      obtain ⟨rfl, running, below, rfl, possible⟩ := placed
      exact .inl ⟨rfl, _, rfl, possible⟩
  | wait threadId => exact .inr ⟨rfl, rfl⟩
  | passLock threadId pass => exact .inr ⟨rfl, rfl⟩
  | inPass threadId pass stack => exact .inr ⟨rfl, rfl⟩
  | inMap threadId pass stack call => exact .inr ⟨rfl, rfl⟩

/-- A thread that waits while it holds a mutex has a request: only a call does both. -/
theorem request_ne_none {thread : ThreadId numOfLogicThread} {place : Place numOfLogicThread}
    (placed : Placed hooks thread place) {mutex : Mutex numOfLogicThread} {mode : Mode}
    {want : Mutex numOfLogicThread × Mode} (holds : locking.held place mutex = some mode)
    (wants : locking.wanted place = some want) : place.request ≠ none := by
  cases place with
  | callLock threadId pass stack call =>
      obtain ⟨rfl, running, below, rfl, -⟩ := placed
      simp [Place.request]
  | passLock threadId pass => cases holds
  | wait threadId => cases wants
  | inPass threadId pass stack => cases wants
  | inMap threadId pass stack call => cases wants

section Disciplined

variable {pc : ThreadId numOfLogicThread → Place numOfLogicThread}

/-- **No mutex is requested by its holder.** -/
theorem Ordered.not_held (ordered : Ordered hooks pc)
    (disciplined : Disciplined numOfLogicThread hooks) (thread : ThreadId numOfLogicThread)
    (mutex : Mutex numOfLogicThread) (mode : Mode)
    (wants : locking.wanted (pc thread) = some (mutex, mode)) :
    locking.held (pc thread) mutex = none := by
  have here := ordered.placed thread
  cases place : pc thread with
  | callLock threadId pass stack call =>
      rw [place] at here wants
      obtain ⟨rfl, running, below, rfl, possible⟩ := here
      have free := disciplined.noReentry threadId _ possible
      have same : call.want = (mutex, mode) := Option.some.inj wants
      rw [same] at free
      exact free
  | passLock threadId pass => rfl
  | wait threadId => rfl
  | inPass threadId pass stack =>
      rw [place] at wants
      cases wants
  | inMap threadId pass stack call =>
      rw [place] at wants
      cases wants

/-- **No threads wait in a cycle.** A thread in a cycle holds and waits, so it is where its request
waits, and the requests of all threads are compatible. -/
theorem Ordered.acyclic (ordered : Ordered hooks pc)
    (disciplined : Disciplined numOfLogicThread hooks) : locking.Acyclic pc := by
  have requests := fun thread => waiting_request rfl (ordered.placed thread)
  have acyclic : locking.Acyclic (waiting fun thread => (pc thread).request) := by
    apply disciplined.noCycle
    · intro thread request asks
      rcases requests thread with ⟨-, other, asks', possible⟩ | ⟨-, silent⟩
      · rw [asks'] at asks
        cases asks
        exact possible
      · rw [silent] at asks
        cases asks
    · -- the waiting threads hold what they held
      have less (thread : ThreadId numOfLogicThread) {mutex : Mutex numOfLogicThread}
          {mode : Mode} (held : locking.held
            (waiting (fun thread => (pc thread).request) thread) mutex = some mode) :
          locking.held (pc thread) mutex = some mode := by
        rcases requests thread with ⟨same, -⟩ | ⟨idle, -⟩
        · rwa [same] at held
        · rw [idle] at held
          cases held
      intro first second different mutex mode other held held'
      exact ordered.excluded first second different mutex mode other (less first held)
        (less second held')
  refine acyclic.of_waiting fun thread ⟨⟨mutex, mode, holds⟩, want, wants⟩ => ?_
  rcases requests thread with ⟨same, -⟩ | ⟨-, silent⟩
  · exact same
  · exact absurd silent (request_ne_none (ordered.placed thread) holds wants)

/-- **Disciplined calls** are safe in every state of a run. -/
theorem Ordered.safe (ordered : Ordered hooks pc)
    (disciplined : Disciplined numOfLogicThread hooks) : Safe pc :=
  ⟨ordered.not_held disciplined, ordered.acyclic disciplined⟩

end Disciplined

end Safe

/-! ### Every set of compatible requests is reached -/

section Reached

variable {numOfLogicThread : NumOfLogicThread} {hooks : Running → Call → Bool}
  {pc : ThreadId numOfLogicThread → Place numOfLogicThread} {thread : ThreadId numOfLogicThread}

/-- A pass waits for nobody while the others only share mutexes. -/
theorem freeAt_passLock
    (shared : ∀ other mutex mode, locking.held (pc other) mutex = some mode → mode = .shared)
    (pass : Pass) : locking.FreeAt pc thread (.passLock thread pass) := by
  intro other _
  rw [Bool.eq_false_iff, Ne, Locking.blocks_iff]
  rintro ⟨mutex, mode, held, wants, holds, conflict⟩
  cases wants
  rw [shared other _ held holds] at conflict
  cases conflict

/-- The thread goes on to any pass of its frame. -/
theorem reach_pass
    (shared : ∀ other mutex mode, locking.held (pc other) mutex = some mode → mode = .shared)
    (pass : Pass) :
    Reach (step hooks) Unguarded ⟨(), Function.update pc thread (.wait thread)⟩
      ⟨(), Function.update pc thread (.inPass thread pass [])⟩ := by
  have lock (pass : Pass) : Reach (step hooks) Unguarded
      ⟨(), Function.update pc thread (.passLock thread pass)⟩
      ⟨(), Function.update pc thread (.inPass thread pass [])⟩ :=
    reach_solo Choice.lock rfl (freeAt_passLock shared pass)
  have go (pass next : Pass) (follows : pass.next = some next)
      (reached : Reach (step hooks) Unguarded ⟨(), Function.update pc thread (.wait thread)⟩
        ⟨(), Function.update pc thread (.inPass thread pass [])⟩) :
      Reach (step hooks) Unguarded ⟨(), Function.update pc thread (.wait thread)⟩
        ⟨(), Function.update pc thread (.inPass thread next [])⟩ := by
    have ends : act hooks () (.inPass thread pass []) .return =
        some ((), .passLock thread next) := by
      simp only [act, follows]
    exact reached.trans
      ((reach_solo Choice.return ends (locking.freeAt_of_wanted_none rfl pc thread)).trans
        (lock next))
  have first : Reach (step hooks) Unguarded ⟨(), Function.update pc thread (.wait thread)⟩
      ⟨(), Function.update pc thread (.inPass thread ⟨.preTimer, .sessionMap⟩ [])⟩ :=
    (reach_solo Choice.timeout rfl (locking.freeAt_of_wanted_none rfl pc thread)).trans (lock _)
  have second := go _ ⟨.preTimer, .nonNetworkActorMap⟩ rfl first
  have third := go _ ⟨.onTimer, .sessionMap⟩ rfl second
  have fourth := go _ ⟨.onTimer, .nonNetworkActorMap⟩ rfl third
  have fifth := go _ ⟨.postTimer, .sessionMap⟩ rfl fourth
  have sixth := go _ ⟨.postTimer, .nonNetworkActorMap⟩ rfl fifth
  obtain ⟨hook, map⟩ := pass
  cases hook <;> cases map <;> assumption

/-- The other threads hold nothing that conflicts with what a place holds. -/
def Beside (pc : ThreadId numOfLogicThread → Place numOfLogicThread)
    (thread : ThreadId numOfLogicThread) (pass : Pass) (stack : List Running) : Prop :=
  ∀ other, other ≠ thread → ∀ mutex mode held, heldIn thread pass stack mutex = some mode →
    locking.held (pc other) mutex = some held → mode.compatible held = true

/-- **The thread goes into a chain** while the others hold nothing that conflicts with it. -/
theorem reach_chain {pass : Pass} {stack : List Running} (chain : Chain hooks thread pass stack)
    (beside : Beside pc thread pass stack) :
    Reach (step hooks) Unguarded ⟨(), Function.update pc thread (.inPass thread pass [])⟩
      ⟨(), Function.update pc thread (.inPass thread pass stack)⟩ := by
  induction chain with
  | empty => exact .start
  | @timer actorId home =>
      have acted : act hooks () (.inPass thread pass []) (.actor actorId) =
          some ((), .inPass thread pass [.timer pass.hook pass.map actorId]) := by
        simp only [act, if_pos home]
      exact reach_solo (Choice.actor actorId) acted
        (locking.freeAt_of_wanted_none rfl pc thread)
  | @nested outer inner below call chain calls runs free ih =>
      have around : Beside pc thread pass (outer :: below) := fun other different mutex mode held
        holds => beside other different mutex mode held (heldIn_cons inner holds)
      have asks : act hooks () (.inPass thread pass (outer :: below)) (.call call) =
          some ((), .callLock thread pass (outer :: below) call) := by
        simp only [act, if_pos calls]
      have locks : act hooks () (.callLock thread pass (outer :: below) call) .lock =
          some ((), .inMap thread pass (outer :: below) call) := by
        simp only [act, if_pos free]
      have hooked : act hooks () (.inMap thread pass (outer :: below) call) .hook =
          some ((), .inPass thread pass (inner :: outer :: below)) := by
        simp only [act, runs]
      -- nobody holds the mutex that the inner hook holds exclusively
      have unheld : locking.FreeAt pc thread (.callLock thread pass (outer :: below) call) := by
        intro other different
        rw [Bool.eq_false_iff, Ne, Locking.blocks_iff]
        rintro ⟨mutex, mode, held, wants, holds, -⟩
        have same : call.want = (mutex, mode) := Option.some.inj wants
        have own := heldIn_hook runs free
        rw [same] at own
        have compatible := beside other different mutex .exclusive held own holds
        cases compatible
      exact (ih around).trans
        ((reach_solo (Choice.call call) asks (locking.freeAt_of_wanted_none rfl pc thread)).trans
          ((reach_solo Choice.lock locks unheld).trans
            (reach_solo Choice.hook hooked (locking.freeAt_of_wanted_none rfl pc thread))))

/-- The threads with a request have begun the pass it is made in. -/
def begun (requests : ThreadId numOfLogicThread → Option Request)
    (threadId : ThreadId numOfLogicThread) : Place numOfLogicThread :=
  match requests threadId with
  | none => .wait threadId
  | some request => .inPass threadId request.pass []

/-- **All passes begin**: the threads only share mutexes. -/
theorem reach_begun (requests : ThreadId numOfLogicThread → Option Request) :
    Reach (step hooks) Unguarded (initial numOfLogicThread) ⟨(), begun requests⟩ := by
  refine reach_each fun gone thread fresh => ?_
  have here : mixed Place.wait (begun requests) gone thread = .wait thread := by
    simp [mixed, fresh]
  cases asks : requests thread with
  | none =>
      have stays : begun requests thread =
          mixed Place.wait (begun requests) gone thread := by
        rw [here, begun, asks]
      rw [stays, Function.update_eq_self]
      exact .start
  | some request =>
      have goes : begun requests thread = .inPass thread request.pass [] := by
        rw [begun, asks]
      have start : Function.update (mixed Place.wait (begun requests) gone) thread
          (.wait thread) = mixed Place.wait (begun requests) gone := by
        rw [← here, Function.update_eq_self]
      rw [goes]
      nth_rewrite 1 [← start]
      refine reach_pass ?_ request.pass
      intro other mutex mode held
      unfold mixed begun at held
      split at held
      · split at held
        · cases held
        · exact (heldIn_nil.mp held).2
      · cases held

/-- On the way the threads hold no more than where they wait. -/
theorem held_of_mixed {requests : ThreadId numOfLogicThread → Option Request}
    {gone : Finset (ThreadId numOfLogicThread)} {thread : ThreadId numOfLogicThread}
    {mutex : Mutex numOfLogicThread} {mode : Mode}
    (held : locking.held (mixed (begun requests) (waiting requests) gone thread) mutex =
      some mode) : locking.held (waiting requests thread) mutex = some mode := by
  unfold mixed at held
  split at held
  · exact held
  · unfold begun at held
    unfold waiting
    split at held
    · cases held
    · exact heldIn_eq_some.mpr (.inl (heldIn_nil.mp held))

/-- **Compatible requests are reached.** -/
theorem reach_waiting {requests : ThreadId numOfLogicThread → Option Request}
    (possible : ∀ threadId request, requests threadId = some request →
      request.Possible hooks threadId)
    (excluded : locking.Excluded (waiting requests)) :
    Reach (step hooks) Unguarded (initial numOfLogicThread) ⟨(), waiting requests⟩ := by
  refine (reach_begun requests).trans (reach_each fun gone thread fresh => ?_)
  have here : mixed (begun requests) (waiting requests) gone thread = begun requests thread := by
    simp [mixed, fresh]
  cases asks : requests thread with
  | none =>
      have stays : waiting requests thread =
          mixed (begun requests) (waiting requests) gone thread := by
        rw [here, waiting, begun, asks]
      rw [stays, Function.update_eq_self]
      exact .start
  | some request =>
      obtain ⟨chain, calls⟩ := possible thread request asks
      have goes : waiting requests thread =
          .callLock thread request.pass (request.running :: request.below) request.call := by
        rw [waiting, asks]
      have starts : mixed (begun requests) (waiting requests) gone thread =
          .inPass thread request.pass [] := by
        rw [here, begun, asks]
      have start : Function.update (mixed (begun requests) (waiting requests) gone) thread
          (.inPass thread request.pass []) = mixed (begun requests) (waiting requests) gone := by
        rw [← starts, Function.update_eq_self]
      have beside : Beside (mixed (begun requests) (waiting requests) gone) thread request.pass
          (request.running :: request.below) := by
        intro other different mutex mode held own holds
        refine excluded thread other different.symm mutex mode held ?_ (held_of_mixed holds)
        rw [goes]
        exact own
      have asked : act hooks () (.inPass thread request.pass (request.running :: request.below))
          (.call request.call) = some ((), .callLock thread request.pass
            (request.running :: request.below) request.call) := by
        simp only [act, if_pos calls]
      rw [goes]
      nth_rewrite 1 [← start]
      exact (reach_chain chain beside).trans (reach_solo (Choice.call request.call) asked
        (locking.freeAt_of_wanted_none rfl _ thread))

/-- A single thread that waits conflicts with nobody. -/
theorem excluded_single (threadId : ThreadId numOfLogicThread) (request : Request) :
    locking.Excluded (waiting (Function.update (fun _ => none) threadId (some request))) := by
  have idle (other : ThreadId numOfLogicThread) (different : other ≠ threadId)
      (mutex : Mutex numOfLogicThread) : locking.held
        (waiting (Function.update (fun _ => none) threadId (some request)) other) mutex = none := by
    rw [waiting, Function.update_of_ne different]
    rfl
  intro first second different mutex mode other held held'
  by_cases own : first = threadId
  · rw [idle second (fun same => different (own.trans same.symm))] at held'
    cases held'
  · rw [idle first own] at held
    cases held

/-- **Calls that are safe are disciplined.** -/
theorem disciplined_of_safe (safe : ∀ state : State numOfLogicThread,
    Reach (step hooks) Unguarded (initial numOfLogicThread) state → Safe state.pc) :
    Disciplined numOfLogicThread hooks where
  noReentry := by
    intro threadId request possible
    have reached : Reach (step hooks) Unguarded (initial numOfLogicThread)
        ⟨(), waiting (Function.update (fun _ => none) threadId (some request))⟩ := by
      refine reach_waiting ?_ (excluded_single threadId request)
      intro other asked asks
      by_cases own : other = threadId
      · subst own
        rw [Function.update_self] at asks
        cases asks
        exact possible
      · rw [Function.update_of_ne own] at asks
        cases asks
    have here : waiting (Function.update (fun _ => none) threadId (some request)) threadId =
        .callLock threadId request.pass (request.running :: request.below) request.call := by
      rw [waiting, Function.update_self]
    have free := (safe _ reached).1 threadId
    simp only [here] at free
    exact free _ _ rfl
  noCycle := fun _ possible excluded => (safe _ (reach_waiting possible excluded)).2

end Reached

/-! ### Which hooks may call the registry -/

section Registry

/-- **The registry, called from hooks.** For every number of logic threads and every set of calls
the hooks may make: in every run no thread requests a mutex it holds and no set of threads waits in
a cycle, exactly when the calls are disciplined. -/
theorem registry_safe_iff (numOfLogicThread : NumOfLogicThread) (hooks : Running → Call → Bool) :
    (∀ state, Reach (step hooks) Unguarded (initial numOfLogicThread) state → Safe state.pc) ↔
      Disciplined numOfLogicThread hooks :=
  ⟨disciplined_of_safe, fun disciplined _ reached => (ordered_of_reach reached).safe disciplined⟩

/-- **A rank of the mutexes.** Calls are safe when every chain of hooks requests mutexes that rank
above all it holds. -/
theorem safe_of_rank {numOfLogicThread : NumOfLogicThread} {hooks : Running → Call → Bool}
    (rank : Mutex numOfLogicThread → ℕ)
    (rises : ∀ (threadId : ThreadId numOfLogicThread) (request : Request),
      request.Possible hooks threadId → ∀ mutex mode,
        heldIn threadId request.pass (request.running :: request.below) mutex = some mode →
          rank mutex < rank request.call.want.1)
    {state : State numOfLogicThread}
    (reached : Reach (step hooks) Unguarded (initial numOfLogicThread) state) :
    Safe state.pc := by
  refine (ordered_of_reach reached).safe ⟨?_, ?_⟩
  · intro threadId request possible
    rw [Option.eq_none_iff_forall_ne_some]
    intro mode held
    exact lt_irrefl _ (rises threadId request possible _ mode held)
  · intro requests possible _
    refine Locking.acyclic_of_rank rank fun thread mutex mode wants other held holds => ?_
    unfold waiting at wants holds
    split at wants
    · cases wants
    · rename_i request asks
      rw [asks] at holds
      have same : request.call.want = (mutex, mode) := Option.some.inj wants
      have lower := rises thread request (possible thread request asks) other held holds
      rw [same] at lower
      exact lower

/-- `PreTimer` of a non-network actor creates another one. -/
def creates (running : Running) (call : Call) : Bool :=
  running == .timer .preTimer .nonNetworkActorMap 2 && call == .registerNonNetworkActor 4

/-- **A hook that creates an actor of its own shard** requests the mutex its pass holds. -/
theorem registry_reentered :
    ¬ ∀ (numOfLogicThread : NumOfLogicThread) (hooks : Running → Call → Bool) state,
      Reach (step hooks) Unguarded (initial numOfLogicThread) state → Safe state.pc := by
  intro safe
  obtain ⟨state, reached, stuck⟩ := exists_reach_of_run (step creates) (initial twoThreads)
    [(⟨0, by decide⟩, .timeout), (⟨0, by decide⟩, .lock), (⟨0, by decide⟩, .return),
      (⟨0, by decide⟩, .lock), (⟨0, by decide⟩, .actor 2),
      (⟨0, by decide⟩, .call (.registerNonNetworkActor 4))]
    (fun state => decide (locking.wanted (state.pc ⟨0, by decide⟩) =
        some (.nonNetworkActorMapMutex ⟨0, by decide⟩, .exclusive) ∧
      locking.held (state.pc ⟨0, by decide⟩) (.nonNetworkActorMapMutex ⟨0, by decide⟩) =
        some .shared)) (by decide)
  obtain ⟨wants, holds⟩ := of_decide_eq_true stuck
  have free := (safe twoThreads creates state reached).1 _ _ _ wants
  rw [holds] at free
  cases free

end Registry

end ActorModelServer.HookLocks
