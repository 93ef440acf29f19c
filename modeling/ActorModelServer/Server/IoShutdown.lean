/-
**How the IO threads are stopped.**

`StopServer` posts a close completion and joins the first IO thread, then the second, and so on; any
IO thread that waits may take a completion. `RunIoThread` tests for a missing overlapped structure
before it tests for `IOCP_CLOSE_KEY`, and a close completion has none: the thread that takes it
leaves, and posts nothing for the others. `isStop` is never set. Operations of sessions complete at
any time, under the key of a session.

* `join_not_stuck` — while every close completion is taken by the thread that is being joined
  (`TakenByJoined`), `StopServer` is never stuck in a join.
* `stuck_of_takenElsewhere` — the condition is exact: once another thread takes it, the run never
  gets past this join, and on to a stuck one.
* `neverStuck_iff` — whatever thread takes the completions, only a single IO thread is safe.
-/

import ActorModelServer.Library.Runs
import ActorModelServer.Server.CompletionRouting
import Mathlib.Data.List.Count
import Mathlib.Logic.Function.Basic

namespace ActorModelServer.IoShutdown

open ActorModelServer.CompletionRouting (IOCompletionKey iocpCloseKey)
open StepRuns (Reach Unguarded reach_of_run reach_of_runGuarded exists_reach_of_run
  exists_reach_of_runGuarded)

section Model

/-- What `GetQueuedCompletionStatus` returns: whether there is an overlapped structure, and the key
behind the pointer, if there is one. -/
structure Completion where
  overlapped : Bool
  ioCompletionKey : Option IOCompletionKey
  deriving DecidableEq, Repr

/-- What `PostQueuedCompletionStatus` is called with. -/
def closeCompletion : Completion := ⟨false, some iocpCloseKey⟩

/-- Where an IO thread is in `RunIoThread`. -/
inductive IoPlace
  | getQueuedCompletionStatus
  | received (completion : Completion)
  /- the session is looked up, and `OnIoCompleted` runs if it is found -/
  | onIoCompleted
  | left
  deriving DecidableEq, Repr

/-- Where `StopServer` is. -/
inductive StopPlace (numOfWorkerThread : ℕ)
  | post (i : ℕ)
  | join (i : Fin numOfWorkerThread)
  | joined
  deriving DecidableEq

/-- The completion port and its threads. -/
structure Server (numOfWorkerThread : ℕ) where
  queue : List Completion
  ioThreads : Fin numOfWorkerThread → IoPlace
  stopServer : StopPlace numOfWorkerThread

/-- A step of a thread, or of the kernel. -/
inductive Event (numOfWorkerThread : ℕ)
  | stopServer
  /- the kernel gives the next completion to a thread that waits -/
  | take (thread : Fin numOfWorkerThread)
  | ioThread (thread : Fin numOfWorkerThread)
  /- an operation of a session completes -/
  | complete (ioCompletionKey : IOCompletionKey)
  deriving DecidableEq

/-- `StopServer` is called while all IO threads wait. -/
def initial (numOfWorkerThread : ℕ) : Server numOfWorkerThread where
  queue := []
  ioThreads := fun _ => .getQueuedCompletionStatus
  stopServer := .post 0

variable {numOfWorkerThread : ℕ}

/-- What a thread does with a completion, and what it posts. -/
def runIoThread (completion : Completion) : IoPlace × List Completion :=
  if completion.overlapped = false then (.left, [])
  else
    match completion.ioCompletionKey with
    | none => (.getQueuedCompletionStatus, [])
    | some ioCompletionKey =>
        if ioCompletionKey = iocpCloseKey then (.left, [closeCompletion])
        else (.onIoCompleted, [])

/-- A thread goes to a place. -/
def Server.goes (server : Server numOfWorkerThread) (thread : Fin numOfWorkerThread)
    (place : IoPlace) : Server numOfWorkerThread :=
  { server with ioThreads := Function.update server.ioThreads thread place }

theorem ioThreads_goes (server : Server numOfWorkerThread) (thread other : Fin numOfWorkerThread)
    (place : IoPlace) :
    (server.goes thread place).ioThreads other =
      if other = thread then place else server.ioThreads other :=
  Function.update_apply _ _ _ _

/-- One step. The thread id of a session is the number of a logic thread, and there are at most 255
of them. -/
def step (server : Server numOfWorkerThread) (event : Event numOfWorkerThread) :
    Option (Server numOfWorkerThread) :=
  match event with
  | .stopServer =>
      match server.stopServer with
      | .post i =>
          if bound : i < numOfWorkerThread then
            some { server with
              queue := server.queue ++ [closeCompletion]
              stopServer := .join ⟨i, bound⟩ }
          else some { server with stopServer := .joined }
      | .join i =>
          if server.ioThreads i = .left then
            some { server with stopServer := .post (i.val + 1) }
          else none
      | .joined => none
  | .take thread =>
      match server.ioThreads thread, server.queue with
      | .getQueuedCompletionStatus, completion :: rest =>
          some ({ server with queue := rest }.goes thread (.received completion))
      | _, _ => none
  | .ioThread thread =>
      match server.ioThreads thread with
      | .received completion =>
          some ({ server with queue := server.queue ++ (runIoThread completion).2 }.goes thread
            (runIoThread completion).1)
      | .onIoCompleted => some (server.goes thread .getQueuedCompletionStatus)
      | _ => none
  | .complete ioCompletionKey =>
      if ioCompletionKey.threadId < 255 then
        some { server with queue := server.queue ++ [⟨true, some ioCompletionKey⟩] }
      else none

/-- `StopServer` joins a thread that waits, and no completion is queued. -/
def Stuck (server : Server numOfWorkerThread) : Prop :=
  ∃ i, server.stopServer = .join i ∧ server.ioThreads i = .getQueuedCompletionStatus ∧
    server.queue = []

/-- A completion without an overlapped structure is taken by the thread that is being joined. -/
def TakenByJoined (server : Server numOfWorkerThread) (event : Event numOfWorkerThread) : Prop :=
  match event with
  | .take thread =>
      ∀ completion ∈ server.queue.head?, completion.overlapped = false →
        server.stopServer = .join thread
  | _ => True

instance (server : Server numOfWorkerThread) (event : Event numOfWorkerThread) :
    Decidable (TakenByJoined server event) :=
  match event with
  | .take thread => inferInstanceAs (Decidable (∀ completion ∈ server.queue.head?,
      completion.overlapped = false → server.stopServer = .join thread))
  | .stopServer | .ioThread _ | .complete _ => inferInstanceAs (Decidable True)

end Model

/-! ### One close completion for each join -/

section Handshake

variable {numOfWorkerThread : ℕ}

/-- The close completions of a queue. -/
def closes (queue : List Completion) : ℕ := queue.countP fun completion => !completion.overlapped

/-- A completion of a session, or a close completion. -/
def Completion.Posted (completion : Completion) : Prop :=
  completion.overlapped = true → ∃ key, completion.ioCompletionKey = some key ∧ key.threadId < 255

/-- The thread leaves, or has left. -/
def IoPlace.closing : IoPlace → Bool
  | .getQueuedCompletionStatus => false
  | .received completion => !completion.overlapped
  | .onIoCompleted => false
  | .left => true

/-- The kernel has posted everything that is queued or received. -/
structure AllPosted (server : Server numOfWorkerThread) : Prop where
  queued : ∀ completion ∈ server.queue, completion.Posted
  received : ∀ thread completion, server.ioThreads thread = .received completion →
    completion.Posted

/-- How many close completions are queued, and which threads are closing, where `StopServer` is. -/
def OneForEachJoin (place : StopPlace numOfWorkerThread) (queued : ℕ)
    (closing : Fin numOfWorkerThread → Bool) : Prop :=
  match place with
  | .post i => queued = 0 ∧ ∀ thread, i ≤ thread.val → closing thread = false
  | .join i =>
      (queued = if closing i then 0 else 1) ∧ ∀ thread, i < thread → closing thread = false
  | .joined => queued = 0

/-- The threads that are closing. -/
def Server.closing (server : Server numOfWorkerThread) (thread : Fin numOfWorkerThread) : Bool :=
  (server.ioThreads thread).closing

/-- What a run keeps. -/
structure Handshake (server : Server numOfWorkerThread) : Prop where
  posted : AllPosted server
  one : OneForEachJoin server.stopServer (closes server.queue) server.closing

theorem handshake_initial : Handshake (initial numOfWorkerThread) where
  posted := ⟨fun _ member => absurd member List.not_mem_nil, fun _ _ place => by cases place⟩
  one := ⟨rfl, fun _ _ => rfl⟩

theorem closes_append (queue : List Completion) (completion : Completion) :
    closes (queue ++ [completion]) = closes queue + if completion.overlapped then 0 else 1 := by
  rw [closes, List.countP_append]
  cases held : completion.overlapped <;> simp [closes, held]

theorem closes_cons (completion : Completion) (rest : List Completion) :
    closes (completion :: rest) = closes rest + if completion.overlapped then 0 else 1 := by
  cases held : completion.overlapped <;> simp [closes, held]

/-- **The branch that posts for the next thread is never reached.** A completion with an overlapped
structure has the key of a session, and a thread leaves on the others. -/
theorem runIoThread_posted {completion : Completion} (posted : completion.Posted) :
    runIoThread completion =
      (if completion.overlapped then .onIoCompleted else .left, []) := by
  cases held : completion.overlapped with
  | false => simp [runIoThread, held]
  | true =>
      obtain ⟨key, found, small⟩ := posted held
      have session : key ≠ iocpCloseKey := by
        rintro rfl
        exact absurd small (by decide)
      simp [runIoThread, held, found, session]

/-- Where a thread goes from what it received, it is closing as before. -/
theorem closing_runIoThread {completion : Completion} (posted : completion.Posted) :
    (runIoThread completion).1.closing = (IoPlace.received completion).closing := by
  rw [runIoThread_posted posted]
  cases held : completion.overlapped <;> simp [IoPlace.closing, held]

section Step

variable {server after : Server numOfWorkerThread} {event : Event numOfWorkerThread}

/-- **Everything a step can do**, when all completions were posted by the kernel. -/
inductive Moves (server : Server numOfWorkerThread) :
    Event numOfWorkerThread → Server numOfWorkerThread → Prop
  | posts {i : Fin numOfWorkerThread} (place : server.stopServer = .post i.val) :
      Moves server .stopServer { server with
        queue := server.queue ++ [closeCompletion]
        stopServer := .join i }
  | ends {i : ℕ} (place : server.stopServer = .post i) (last : numOfWorkerThread ≤ i) :
      Moves server .stopServer { server with stopServer := .joined }
  | joins {i : Fin numOfWorkerThread} (place : server.stopServer = .join i)
      (gone : server.ioThreads i = .left) :
      Moves server .stopServer { server with stopServer := .post (i.val + 1) }
  | takes {thread : Fin numOfWorkerThread} {completion : Completion} {rest : List Completion}
      (waits : server.ioThreads thread = .getQueuedCompletionStatus)
      (next : server.queue = completion :: rest) :
      Moves server (.take thread) ({ server with queue := rest }.goes thread (.received completion))
  | turns {thread : Fin numOfWorkerThread} {place : IoPlace}
      (idle : ∀ completion, place ≠ .received completion)
      (same : place.closing = (server.ioThreads thread).closing) :
      Moves server (.ioThread thread) (server.goes thread place)
  | completes {key : IOCompletionKey} (session : key.threadId < 255) :
      Moves server (.complete key) { server with
        queue := server.queue ++ [⟨true, some key⟩] }

theorem step_moves (posted : AllPosted server) (taken : step server event = some after) :
    Moves server event after := by
  cases event with
  | stopServer =>
      simp only [step] at taken
      split at taken
      · rename_i i place
        split at taken
        · cases taken
          exact .posts place
        · rename_i last
          cases taken
          exact .ends place (not_lt.mp last)
      · rename_i i place
        obtain ⟨gone, taken⟩ := Option.ite_none_right_eq_some.mp taken
        cases taken
        exact .joins place gone
      · cases taken
  | take thread =>
      simp only [step] at taken
      split at taken
      · rename_i waits next
        cases taken
        exact .takes waits next
      · cases taken
  | ioThread thread =>
      simp only [step] at taken
      split at taken
      · rename_i completion place
        cases taken
        have known := posted.received thread completion place
        have nothing : (runIoThread completion).2 = [] := by rw [runIoThread_posted known]
        rw [nothing, List.append_nil]
        refine .turns ?_ (by rw [place, closing_runIoThread known])
        rw [runIoThread_posted known]
        intro other
        split <;> simp
      · rename_i place
        cases taken
        exact .turns (by simp) (by rw [place]; rfl)
      · cases taken
  | complete key =>
      obtain ⟨session, taken⟩ := Option.ite_none_right_eq_some.mp taken
      cases taken
      exact .completes session

/-- What is posted was posted by the kernel or by `StopServer`. -/
theorem AllPosted.step (posted : AllPosted server) (taken : step server event = some after) :
    AllPosted after := by
  obtain ⟨queued, received⟩ := posted
  have appended {completion : Completion} (known : completion.Posted) :
      ∀ other ∈ server.queue ++ [completion], other.Posted := by
    intro other member
    rcases List.mem_append.mp member with old | new
    · exact queued other old
    · rwa [List.mem_singleton.mp new]
  cases step_moves ⟨queued, received⟩ taken with
  | posts place => exact ⟨appended fun held => absurd held (by decide), received⟩
  | ends place last => exact ⟨queued, received⟩
  | joins place gone => exact ⟨queued, received⟩
  | @takes thread completion rest waits next =>
      refine ⟨fun other member => queued other ?_, ?_⟩
      · rw [next]
        exact List.mem_cons_of_mem completion member
      · intro other held place
        rw [ioThreads_goes] at place
        split at place
        · cases place
          exact queued completion (by rw [next]; exact List.mem_cons_self)
        · exact received other held place
  | turns idle same =>
      refine ⟨queued, fun other held place => ?_⟩
      rw [ioThreads_goes] at place
      split at place
      · exact absurd place (idle held)
      · exact received other held place
  | completes session => exact ⟨appended fun _ => ⟨_, rfl, session⟩, received⟩

/-- A thread that moves is closing, or not, by its new place. -/
theorem closing_goes (thread : Fin numOfWorkerThread) (place : IoPlace) :
    (server.goes thread place).closing =
      Function.update server.closing thread place.closing := by
  funext other
  rw [Server.closing, ioThreads_goes, Function.update_apply]
  split <;> rfl

theorem closing_goes_same (server : Server numOfWorkerThread)
    {thread : Fin numOfWorkerThread} {place : IoPlace}
    (same : place.closing = (server.ioThreads thread).closing) :
    (server.goes thread place).closing = server.closing := by
  rw [closing_goes, same]
  exact Function.update_eq_self thread server.closing

/-- **One step**: one close completion for each join. -/
theorem Handshake.step (handshake : Handshake server) (allowed : TakenByJoined server event)
    (taken : step server event = some after) : Handshake after := by
  obtain ⟨posted, one⟩ := handshake
  refine ⟨posted.step taken, ?_⟩
  cases step_moves posted taken with
  | @posts i place =>
      rw [place] at one
      obtain ⟨none, running⟩ := one
      refine ⟨?_, fun thread later => running thread (Nat.le_of_lt later)⟩
      have runs : server.closing i = false := running i le_rfl
      show closes (server.queue ++ [closeCompletion]) = if server.closing i then 0 else 1
      rw [closes_append, none, runs]
      rfl
  | @ends i place last =>
      rw [place] at one
      exact one.1
  | @joins i place gone =>
      rw [place] at one
      obtain ⟨single, running⟩ := one
      have closed : server.closing i = true := by rw [Server.closing, gone]; rfl
      rw [if_pos closed] at single
      exact ⟨single, fun thread later => running thread later⟩
  | @takes thread completion rest waits next =>
      have counted := closes_cons completion rest
      rw [← next] at counted
      have open_before : server.closing thread = false := by rw [Server.closing, waits]; rfl
      cases held : completion.overlapped with
      | true =>
          have same : (IoPlace.received completion).closing =
              (server.ioThreads thread).closing := by
            rw [waits]
            simp [IoPlace.closing, held]
          rw [held, if_pos rfl, Nat.add_zero] at counted
          rw [counted] at one
          rw [closing_goes_same { server with queue := rest } same]
          exact one
      | false =>
          have joining := allowed completion (by rw [next]; rfl) held
          have closes_now : (IoPlace.received completion).closing = true := by
            simp [IoPlace.closing, held]
          rw [joining, counted, held] at one
          obtain ⟨single, running⟩ := one
          rw [open_before] at single
          have none : closes rest = 0 := by simpa using single
          rw [closing_goes, closes_now]
          show OneForEachJoin server.stopServer (closes rest)
            (Function.update server.closing thread true)
          rw [joining]
          refine ⟨by rw [none, Function.update_self]; rfl, fun other later => ?_⟩
          rw [Function.update_of_ne later.ne']
          exact running other later
  | turns idle same =>
      rw [closing_goes_same server same]
      exact one
  | @completes key session =>
      have counted := closes_append server.queue ⟨true, some key⟩
      show OneForEachJoin server.stopServer (closes (server.queue ++ [⟨true, some key⟩]))
        server.closing
      rw [counted]
      exact one

/-- A thread takes a close completion only while another one, or itself, is being joined. -/
theorem Handshake.joining (handshake : Handshake server) {completion : Completion}
    {rest : List Completion} (next : server.queue = completion :: rest)
    (close : completion.overlapped = false) :
    ∃ i, server.stopServer = .join i ∧ server.closing i = false ∧ closes rest = 0 := by
  have counted := closes_cons completion rest
  have one := handshake.one
  rw [next, counted, close] at one
  cases place : server.stopServer with
  | post i =>
      rw [place] at one
      exact absurd one.1 (by simp)
  | join i =>
      rw [place] at one
      obtain ⟨single, -⟩ := one
      cases closed : server.closing i with
      | false => exact ⟨i, rfl, closed, by simpa [closed] using single⟩
      | true => simp [closed] at single
  | joined =>
      rw [place] at one
      exact absurd one (by simp [OneForEachJoin])

/-- Where `StopServer` waits for a thread that waits, a close completion is queued. -/
theorem Handshake.not_stuck (handshake : Handshake server) : ¬ Stuck server := by
  rintro ⟨i, place, waits, empty⟩
  have one := handshake.one
  rw [place, empty] at one
  have runs : server.closing i = false := by rw [Server.closing, waits]; rfl
  rw [OneForEachJoin, runs] at one
  exact absurd one.1 (by decide)

end Step

end Handshake

/-! ### A close completion that another thread takes -/

section Doomed

variable {numOfWorkerThread : ℕ} {server after : Server numOfWorkerThread}
  {event : Event numOfWorkerThread}

/-- `StopServer` joins a thread that is not closing, and there is no close completion for it. -/
def Doomed (server : Server numOfWorkerThread) : Prop :=
  ∃ i, server.stopServer = .join i ∧ server.closing i = false ∧ closes server.queue = 0

/-- **Nothing ends this.** -/
theorem Doomed.kept (doomed : Doomed server) (posted : AllPosted server)
    (taken : step server event = some after) : Doomed after := by
  obtain ⟨i, joining, runs, none⟩ := doomed
  cases step_moves posted taken with
  | posts place => rw [joining] at place; cases place
  | ends place last => rw [joining] at place; cases place
  | joins place gone =>
      rw [joining] at place
      cases place
      rw [Server.closing, gone] at runs
      cases runs
  | @takes thread completion rest waits next =>
      rw [next, closes_cons] at none
      have held : completion.overlapped = true := by
        by_contra close
        simp [close] at none
      have same : (IoPlace.received completion).closing = (server.ioThreads thread).closing := by
        rw [waits]
        simp [IoPlace.closing, held]
      refine ⟨i, joining, ?_, Nat.eq_zero_of_add_eq_zero_right none⟩
      rw [closing_goes_same { server with queue := rest } same]
      exact runs
  | turns idle same =>
      refine ⟨i, joining, ?_, none⟩
      rw [closing_goes_same server same]
      exact runs
  | @completes key session =>
      refine ⟨i, joining, runs, ?_⟩
      show closes (server.queue ++ [⟨true, some key⟩]) = 0
      rw [closes_append, none]
      rfl

/-- **The condition is exact**: a close completion that another thread takes leaves none for the
thread that is being joined. -/
theorem doomed_of_takenElsewhere (handshake : Handshake server)
    (taken : step server event = some after) (elsewhere : ¬ TakenByJoined server event) :
    Doomed after := by
  cases step_moves handshake.posted taken with
  | @takes thread completion rest waits next =>
      rw [TakenByJoined, next] at elsewhere
      push Not at elsewhere
      obtain ⟨other, head, close, different⟩ := elsewhere
      cases head
      obtain ⟨i, joining, runs, none⟩ := handshake.joining next close
      have apart : i ≠ thread := by
        rintro rfl
        exact different joining
      refine ⟨i, joining, ?_, none⟩
      rw [closing_goes, Function.update_of_ne apart]
      exact runs
  | posts | ends | joins | turns | completes => exact absurd trivial elsewhere

/-- A thread that is not closing gets back to the completion port. -/
theorem reach_waiting (posted : AllPosted server) {thread : Fin numOfWorkerThread}
    (runs : server.closing thread = false) :
    ∃ after, Reach step Unguarded server after ∧ AllPosted after ∧
      after.ioThreads thread = .getQueuedCompletionStatus ∧ after.queue = server.queue ∧
      after.stopServer = server.stopServer := by
  have finish {server : Server numOfWorkerThread} (posted : AllPosted server)
      (place : server.ioThreads thread = .onIoCompleted) :
      ∃ after, Reach step Unguarded server after ∧ AllPosted after ∧
        after.ioThreads thread = .getQueuedCompletionStatus ∧ after.queue = server.queue ∧
        after.stopServer = server.stopServer := by
    have taken : step server (.ioThread thread) =
        some (server.goes thread .getQueuedCompletionStatus) := by
      simp [step, place]
    exact ⟨_, .step .start trivial taken, posted.step taken, by simp [ioThreads_goes], rfl, rfl⟩
  cases place : server.ioThreads thread with
  | getQueuedCompletionStatus => exact ⟨server, .start, posted, place, rfl, rfl⟩
  | onIoCompleted => exact finish posted place
  | left =>
      rw [Server.closing, place] at runs
      cases runs
  | received completion =>
      have held : completion.overlapped = true := by
        rw [Server.closing, place] at runs
        simpa [IoPlace.closing] using runs
      have taken : step server (.ioThread thread) = some (server.goes thread .onIoCompleted) := by
        have known := runIoThread_posted (posted.received thread completion place)
        simp [step, place, known, held]
      obtain ⟨after, reached, posted, waits, queue, stop⟩ :=
        finish (posted.step taken) (by simp [ioThreads_goes])
      exact ⟨after, Reach.trans (.step .start trivial taken) reached, posted, waits, queue, stop⟩

/-- A thread that waits works off a queue without close completions. -/
theorem reach_empty (posted : AllPosted server) {thread : Fin numOfWorkerThread}
    (waits : server.ioThreads thread = .getQueuedCompletionStatus)
    (none : closes server.queue = 0) :
    ∃ after, Reach step Unguarded server after ∧
      after.ioThreads thread = .getQueuedCompletionStatus ∧ after.queue = [] ∧
      after.stopServer = server.stopServer := by
  generalize queued : server.queue = queue at none
  induction queue generalizing server with
  | nil => exact ⟨server, .start, waits, queued, rfl⟩
  | cons completion rest ih =>
      rw [closes_cons] at none
      have held : completion.overlapped = true := by
        by_contra close
        simp [close] at none
      have taken : step server (.take thread) =
          some ({ server with queue := rest }.goes thread (.received completion)) := by
        simp [step, waits, queued]
      have runs : ({ server with queue := rest }.goes thread
          (.received completion)).closing thread = false := by
        rw [closing_goes, Function.update_self]
        simp [IoPlace.closing, held]
      obtain ⟨middle, first, posted, waits, queue, stop⟩ :=
        reach_waiting (posted.step taken) runs
      obtain ⟨after, second, waits, empty, stop'⟩ :=
        ih posted waits queue (Nat.eq_zero_of_add_eq_zero_right none)
      exact ⟨after, Reach.trans (.step .start trivial taken) (first.trans second), waits, empty,
        stop'.trans stop⟩

/-- **The run gets stuck.** -/
theorem reach_stuck_of_doomed (doomed : Doomed server) (posted : AllPosted server) :
    ∃ after, Reach step Unguarded server after ∧ Stuck after := by
  obtain ⟨i, joining, runs, none⟩ := doomed
  obtain ⟨middle, first, posted, waits, queue, stop⟩ := reach_waiting posted runs
  rw [← queue] at none
  obtain ⟨after, second, waits, empty, stop'⟩ := reach_empty posted waits none
  exact ⟨after, first.trans second, i, by rw [stop', stop, joining], waits, empty⟩

end Doomed

/-! ### Every run -/

section Runs

variable {numOfWorkerThread : ℕ}

theorem handshake_of_reach {server : Server numOfWorkerThread}
    (reached : Reach step TakenByJoined (initial numOfWorkerThread) server) : Handshake server :=
  reached.invariant Handshake handshake_initial
    fun _ _ _ handshake allowed taken => handshake.step allowed taken

/-- **The shutdown of the IO threads.** For every number of IO threads, in every run in which the
thread that is being joined takes the close completions, `StopServer` is never stuck in a join. -/
theorem join_not_stuck (numOfWorkerThread : ℕ) (server : Server numOfWorkerThread)
    (reached : Reach step TakenByJoined (initial numOfWorkerThread) server) : ¬ Stuck server :=
  (handshake_of_reach reached).not_stuck

/-- **A run in which another thread takes one** gets stuck. -/
theorem stuck_of_takenElsewhere {before server : Server numOfWorkerThread}
    {event : Event numOfWorkerThread}
    (reached : Reach step TakenByJoined (initial numOfWorkerThread) before)
    (elsewhere : ¬ TakenByJoined before event) (taken : step before event = some server) :
    ∃ after, Reach step Unguarded server after ∧ Stuck after := by
  have handshake := handshake_of_reach reached
  exact reach_stuck_of_doomed (doomed_of_takenElsewhere handshake taken elsewhere)
    (handshake.posted.step taken)

/-- A single thread takes every completion itself. -/
theorem takenByJoined_of_single (single : numOfWorkerThread ≤ 1)
    {server after : Server numOfWorkerThread} {event : Event numOfWorkerThread}
    (handshake : Handshake server) (taken : step server event = some after) :
    TakenByJoined server event := by
  cases step_moves handshake.posted taken with
  | @takes thread completion rest waits next =>
      rw [TakenByJoined, next]
      rintro other ⟨rfl⟩ close
      obtain ⟨i, joining, -, -⟩ := handshake.joining next close
      have same : i = thread := Fin.ext (by omega)
      rw [joining, same]
  | posts | ends | joins | turns | completes => trivial

/-- **Whichever threads take the completions**, a single IO thread is stopped, and more are not. -/
theorem neverStuck_iff (numOfWorkerThread : ℕ) :
    (∀ server, Reach step Unguarded (initial numOfWorkerThread) server → ¬ Stuck server) ↔
      numOfWorkerThread ≤ 1 := by
  constructor
  · intro never
    by_contra several
    have first : 0 < numOfWorkerThread := by omega
    have second : 1 < numOfWorkerThread := by omega
    have executed : StepRuns.run step (initial numOfWorkerThread)
        [.stopServer, .take ⟨1, second⟩] = some
          ({ initial numOfWorkerThread with stopServer := .join ⟨0, first⟩ }.goes ⟨1, second⟩
            (.received closeCompletion)) := by
      simp [StepRuns.run, step, initial, first]
    refine never _ (reach_of_run executed) ⟨⟨0, first⟩, rfl, ?_, rfl⟩
    simp [ioThreads_goes, initial]
  · intro single server reached
    have handshake : Handshake server :=
      reached.invariant Handshake handshake_initial fun _ _ _ handshake _ taken =>
        handshake.step (takenByJoined_of_single single handshake taken) taken
    exact handshake.not_stuck

/-- Both threads take their own completions. -/
def handedOver : List (Event 2) :=
  let first : Fin 2 := ⟨0, Nat.zero_lt_two⟩
  let second : Fin 2 := ⟨1, Nat.one_lt_two⟩
  [.stopServer, .take first, .ioThread first, .stopServer, .stopServer, .take second,
    .ioThread second]

theorem join_not_stuck_both :
    ∃ server : Server 2, Reach step TakenByJoined (initial 2) server ∧
      server.ioThreads = (fun _ => .left) ∧ ¬ Stuck server := by
  obtain ⟨server, reached, gone⟩ := exists_reach_of_runGuarded step TakenByJoined (initial 2)
    handedOver (fun server => decide (server.ioThreads = fun _ => .left)) (by decide)
  exact ⟨server, reached, of_decide_eq_true gone, join_not_stuck 2 server reached⟩

/-- **The second thread takes the completion of the first.** -/
theorem join_stuck :
    ¬ ∀ server : Server 2, Reach step Unguarded (initial 2) server → ¬ Stuck server := by
  intro never
  obtain ⟨server, reached, stuck⟩ := exists_reach_of_run step (initial 2)
    [.stopServer, .take 1, .ioThread 1]
    (fun server => decide (server.stopServer = .join 0 ∧
      server.ioThreads 0 = .getQueuedCompletionStatus ∧ server.queue = [])) (by decide)
  exact never server reached ⟨0, of_decide_eq_true stuck⟩

end Runs

end ActorModelServer.IoShutdown
