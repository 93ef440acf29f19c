/-
**The loops of the threads, and how they end.**

`RunAcceptThread`, `RunLogicThread` and `RunReleaseThread` run while `isStop` is not set, and
nothing sets it. `StopServer` closes the listen socket and sets the stop event. The accept thread
leaves its loop when `accept` fails with `WSAEINTR`, that is, when it was in `accept` as the socket
was closed; a call on the closed socket fails in another way. The stop event ends a wait of the
other threads, but a `break` there leaves the `switch` only. What a wait and `accept` return is
left to a `Choice`, and so is what fails while a client is accepted. The locks are left out.

* `left_never` — no logic thread and no release thread ever leaves its loop.
* `loopsEnd_iff` — wherever the threads are when `StopServer` has done its part, they all leave
  their loops exactly when there is no logic and no release thread left to leave, and the accept
  thread was in `accept`.
-/

import ActorModelServer.Library.Runs
import Mathlib.Data.Fintype.Basic
import Mathlib.Logic.Function.Basic

namespace ActorModelServer.ThreadLoops

open StepRuns (Reach Unguarded Trace exists_trace)

/-! ### The loops -/

section Model

/-- An error of `accept`, with the value of the system's headers. -/
def wsaeintr : ℕ := 10004

/-- Where the accept thread is. -/
inductive AcceptPlace
  | top
  /- in `accept`, called while the socket was listening, or after it was closed -/
  | accept (listening : Bool)
  | failed (error : ℕ)
  | createSession
  | createIoCompletionPort
  | insertSession
  | doRecv
  | left
  deriving DecidableEq, Repr

/-- Where a logic thread is. -/
inductive LogicPlace
  | top
  | waitForSingleObject
  | preWake
  | onWake
  | postWake
  | left
  deriving DecidableEq, Repr

/-- Where a release thread is. -/
inductive ReleasePlace
  | top
  | waitForMultipleObjects
  /- the queue is locked, and worked off -/
  | queue
  | sleep
  | eraseAllSession
  | left
  deriving DecidableEq, Repr

/-- A release thread, its event and the number of its requests. -/
structure ReleaseThread where
  place : ReleasePlace
  event : Bool
  requests : ℕ
  deriving DecidableEq, Repr

/-- What the code leaves to the system. -/
inductive Choice
  | go
  /- `accept` returns a client, or fails -/
  | client
  | error (code : ℕ)
  /- a session or its completion port is created, or not -/
  | created
  | refused
  /- how a wait ends -/
  | timeout
  | object (index : ℕ)
  | failed
  deriving DecidableEq, Repr

/-- What the threads test, and where they are. -/
structure Server (numOfLogicThread : ℕ) where
  isStop : Bool
  listenSocketClosed : Bool
  /-- `logicThreadEventStopHandle`; nothing resets it. -/
  stopEvent : Bool
  acceptThread : AcceptPlace
  logicThreads : Fin numOfLogicThread → LogicPlace
  releaseThreads : Fin numOfLogicThread → ReleaseThread

/-- The threads that `StopServer` joins besides the IO threads. -/
inductive Thread (numOfLogicThread : ℕ)
  | accept
  | logic (threadId : Fin numOfLogicThread)
  | release (threadId : Fin numOfLogicThread)
  deriving DecidableEq

/-- A step of a thread, or of its surroundings. -/
inductive Event (numOfLogicThread : ℕ)
  | run (thread : Thread numOfLogicThread) (choice : Choice)
  | releaseSession (threadId : Fin numOfLogicThread)
  | closeSocket
  | setStopEvent
  deriving DecidableEq

/-- `RunAcceptThread`. -/
def runAcceptThread (isStop closed : Bool) (place : AcceptPlace) (choice : Choice) :
    Option AcceptPlace :=
  match place, choice with
  | .top, .go => some (if isStop then .left else .accept !closed)
  | .accept listening, .client =>
      if listening && !closed then some .createSession else none
  | .accept listening, .error code =>
      -- closing the socket interrupts a call that waits; a later call fails otherwise
      if closed = true → (code = wsaeintr ↔ listening = true) then some (.failed code) else none
  | .failed error, .go => some (if error = wsaeintr then .left else .top)
  | .createSession, .created => some .createIoCompletionPort
  | .createSession, .refused => some .top
  | .createIoCompletionPort, .created => some .insertSession
  | .createIoCompletionPort, .refused => some .top
  | .insertSession, .go => some .doRecv
  | .doRecv, .go => some .top
  | _, _ => none

/-- `RunLogicThread`. -/
def runLogicThread (isStop stopEvent : Bool) (place : LogicPlace) (choice : Choice) :
    Option LogicPlace :=
  match place, choice with
  | .top, .go => some (if isStop then .left else .waitForSingleObject)
  | .waitForSingleObject, .timeout => if stopEvent then none else some .preWake
  -- the `break` of this case leaves the `switch`
  | .waitForSingleObject, .object 0 => if stopEvent then some .top else none
  | .waitForSingleObject, .failed => some .top
  | .preWake, .go => some .onWake
  | .onWake, .go => some .postWake
  | .postWake, .go => some .top
  | _, _ => none

/-- `RunReleaseThread`; the wait returns the first of its events that is set, and resets the release
event. -/
def runReleaseThread (isStop stopEvent : Bool) (thread : ReleaseThread) (choice : Choice) :
    Option ReleaseThread :=
  match thread.place, choice with
  | .top, .go =>
      some { thread with place := if isStop then .left else .waitForMultipleObjects }
  | .waitForMultipleObjects, .object 0 =>
      if thread.event then some { thread with place := .queue, event := false } else none
  | .waitForMultipleObjects, .object 1 =>
      if !thread.event && stopEvent then some { thread with place := .sleep } else none
  | .waitForMultipleObjects, .failed => some { thread with place := .top }
  | .queue, .go =>
      if thread.requests = 0 then some { thread with place := .top }
      else some { thread with requests := thread.requests - 1 }
  | .sleep, .go => some { thread with place := .eraseAllSession }
  | .eraseAllSession, .go => some { thread with place := .top }
  | _, _ => none

variable {numOfLogicThread : ℕ}

/-- One step. -/
def step (server : Server numOfLogicThread) (event : Event numOfLogicThread) :
    Option (Server numOfLogicThread) :=
  match event with
  | .run .accept choice =>
      (runAcceptThread server.isStop server.listenSocketClosed server.acceptThread choice).map
        fun place => { server with acceptThread := place }
  | .run (.logic threadId) choice =>
      (runLogicThread server.isStop server.stopEvent (server.logicThreads threadId) choice).map
        fun place => { server with
          logicThreads := Function.update server.logicThreads threadId place }
  | .run (.release threadId) choice =>
      (runReleaseThread server.isStop server.stopEvent (server.releaseThreads threadId) choice).map
        fun thread => { server with
          releaseThreads := Function.update server.releaseThreads threadId thread }
  | .releaseSession threadId =>
      let thread := server.releaseThreads threadId
      -- the queue is locked while the release thread works it off
      if thread.place = .queue then none
      else some { server with
        releaseThreads := Function.update server.releaseThreads threadId
          { thread with event := true, requests := thread.requests + 1 } }
  | .closeSocket => some { server with listenSocketClosed := true }
  | .setStopEvent => some { server with stopEvent := true }

/-- The thread has left its loop. -/
def Left (server : Server numOfLogicThread) : Thread numOfLogicThread → Prop
  | .accept => server.acceptThread = .left
  | .logic threadId => server.logicThreads threadId = .left
  | .release threadId => (server.releaseThreads threadId).place = .left

/-- The server after `InitThreads`. -/
def started (numOfLogicThread : ℕ) : Server numOfLogicThread where
  isStop := false
  listenSocketClosed := false
  stopEvent := false
  acceptThread := .top
  logicThreads := fun _ => .top
  releaseThreads := fun _ => ⟨.top, false, 0⟩

/-- The listen socket is closed and the stop event is set, while the threads are anywhere. -/
def stopped (acceptThread : AcceptPlace) (logicThreads : Fin numOfLogicThread → LogicPlace)
    (releaseThreads : Fin numOfLogicThread → ReleaseThread) : Server numOfLogicThread where
  isStop := false
  listenSocketClosed := true
  stopEvent := true
  acceptThread := acceptThread
  logicThreads := logicThreads
  releaseThreads := releaseThreads

/-- The thread gets to run again and again, until it has left its loop. -/
def FairTo (thread : Thread numOfLogicThread) {server : Server numOfLogicThread}
    (trace : Trace step server) : Prop :=
  ∀ time, ¬ Left (trace.state time) thread →
    ∃ later, time ≤ later ∧ ∃ choice, trace.label later = .run thread choice

/-- Every thread leaves its loop, whatever the waits and `accept` return. -/
def LoopsEnd (server : Server numOfLogicThread) : Prop :=
  ∀ thread, ∀ trace : Trace step server, FairTo thread trace →
    ∃ time, Left (trace.state time) thread

/-- The accept thread was in `accept` when the socket was closed, or has left its loop. -/
def AcceptPlace.interrupted : AcceptPlace → Bool
  | .accept listening => listening
  | .failed error => error == wsaeintr
  | .left => true
  | _ => false

end Model

/-! ### The accept thread -/

section Accept

variable {numOfLogicThread : ℕ} {server after : Server numOfLogicThread}
  {event : Event numOfLogicThread}

/-- How far an interrupted accept thread is from the end of its loop. -/
def AcceptPlace.rank : AcceptPlace → ℕ
  | .accept _ => 2
  | .failed _ => 1
  | _ => 0

/-- The listen socket is closed, and the accept thread was interrupted. -/
def Leaving (server : Server numOfLogicThread) : Prop :=
  server.listenSocketClosed = true ∧ server.acceptThread.interrupted = true

/-- An interrupted thread fails with `WSAEINTR`, and leaves. -/
theorem runAcceptThread_interrupted {isStop : Bool} {place next : AcceptPlace} {choice : Choice}
    (interrupted : place.interrupted = true)
    (taken : runAcceptThread isStop true place choice = some next) :
    next.interrupted = true ∧ next.rank < place.rank := by
  cases place with
  | accept listening =>
      obtain rfl : listening = true := interrupted
      cases choice with
      | error code =>
          obtain ⟨same, taken⟩ := Option.ite_none_right_eq_some.mp taken
          cases taken
          obtain rfl : code = wsaeintr := (same rfl).mpr rfl
          exact ⟨rfl, by decide⟩
      | _ => cases taken
  | failed error =>
      obtain rfl : error = wsaeintr := by simpa [AcceptPlace.interrupted] using interrupted
      cases choice with
      | go =>
          cases taken
          exact ⟨rfl, by decide⟩
      | _ => cases taken
  | left => cases choice <;> cases taken
  | top | createSession | createIoCompletionPort | insertSession | doRecv => cases interrupted

/-- **One step** of a server whose accept thread was interrupted. -/
theorem Leaving.step (leaving : Leaving server) (taken : step server event = some after) :
    Leaving after ∧ after.acceptThread.rank ≤ server.acceptThread.rank ∧
      ((∃ choice, event = .run .accept choice) → ¬ Left server .accept →
        after.acceptThread.rank < server.acceptThread.rank) := by
  obtain ⟨closed, interrupted⟩ := leaving
  cases event with
  | run thread choice =>
      cases thread with
      | accept =>
          obtain ⟨place, moved, rfl⟩ := Option.map_eq_some_iff.mp taken
          rw [closed] at moved
          obtain ⟨kept, lower⟩ := runAcceptThread_interrupted interrupted moved
          exact ⟨⟨closed, kept⟩, lower.le, fun _ _ => lower⟩
      | logic threadId =>
          obtain ⟨place, -, rfl⟩ := Option.map_eq_some_iff.mp taken
          exact ⟨⟨closed, interrupted⟩, le_rfl, fun own => by simp at own⟩
      | release threadId =>
          obtain ⟨thread, -, rfl⟩ := Option.map_eq_some_iff.mp taken
          exact ⟨⟨closed, interrupted⟩, le_rfl, fun own => by simp at own⟩
  | releaseSession threadId =>
      obtain ⟨-, taken⟩ := Option.ite_none_left_eq_some.mp taken
      cases taken
      exact ⟨⟨closed, interrupted⟩, le_rfl, fun own => by simp at own⟩
  | closeSocket =>
      cases taken
      exact ⟨⟨rfl, interrupted⟩, le_rfl, fun own => by simp at own⟩
  | setStopEvent =>
      cases taken
      exact ⟨⟨closed, interrupted⟩, le_rfl, fun own => by simp at own⟩

/-- **An interrupted accept thread leaves its loop.** -/
theorem accept_leaves (leaving : Leaving server) (trace : Trace step server)
    (fair : FairTo .accept trace) : ∃ time, Left (trace.state time) .accept :=
  trace.eventually (fun server => server.acceptThread.rank) leaving
    (fun _ _ _ leaving taken => leaving.step taken) fair

/-- What happens to an accept thread that was not interrupted. -/
def AcceptPlace.choice : AcceptPlace → Choice
  | .accept _ => .error (wsaeintr + 1)
  | .createSession => .created
  | .createIoCompletionPort => .created
  | _ => .go

/-- **Any other accept thread runs on**: its calls fail, and not with `WSAEINTR`. -/
theorem runAcceptThread_other {place : AcceptPlace} (other : place.interrupted = false) :
    ∃ next, runAcceptThread false true place place.choice = some next ∧
      next.interrupted = false := by
  cases place with
  | accept listening =>
      obtain rfl : listening = false := other
      exact ⟨.failed (wsaeintr + 1), rfl, rfl⟩
  | failed error =>
      have different : error ≠ wsaeintr := by simpa [AcceptPlace.interrupted] using other
      exact ⟨.top, congrArg some (if_neg different), rfl⟩
  | left => cases other
  | top => exact ⟨_, rfl, rfl⟩
  | createSession => exact ⟨_, rfl, rfl⟩
  | createIoCompletionPort => exact ⟨_, rfl, rfl⟩
  | insertSession => exact ⟨_, rfl, rfl⟩
  | doRecv => exact ⟨_, rfl, rfl⟩

end Accept

/-! ### Threads that never leave -/

section RunsOn

variable {numOfLogicThread : ℕ} {server : Server numOfLogicThread}

/-- A thread that can always step again, and is in its loop then, has a fair trace in which it never
leaves. -/
theorem not_loopsEnd_of_runsOn (Holds : Server numOfLogicThread → Prop)
    (thread : Thread numOfLogicThread) (initial : Holds server)
    (continues : ∀ state, Holds state → ∃ choice next,
      step state (.run thread choice) = some next ∧ Holds next)
    (inside : ∀ state, Holds state → ¬ Left state thread) : ¬ LoopsEnd server := by
  intro ends
  obtain ⟨trace, holds, kind⟩ := exists_trace Holds
    (fun event => ∃ choice, event = Event.run thread choice) initial fun state holds => by
      obtain ⟨choice, next, taken, kept⟩ := continues state holds
      exact ⟨.run thread choice, next, ⟨choice, rfl⟩, taken, kept⟩
  obtain ⟨time, left⟩ := ends thread trace fun time _ => ⟨time, le_rfl, kind time⟩
  exact inside _ (holds time) left

/-- A logic thread finds the stop event set, and goes round. -/
theorem runLogicThread_runsOn {place : LogicPlace} (inside : place ≠ .left) :
    ∃ choice next, runLogicThread false true place choice = some next ∧ next ≠ .left := by
  cases place with
  | top => exact ⟨.go, .waitForSingleObject, rfl, by decide⟩
  | waitForSingleObject => exact ⟨.object 0, .top, rfl, by decide⟩
  | preWake => exact ⟨.go, .onWake, rfl, by decide⟩
  | onWake => exact ⟨.go, .postWake, rfl, by decide⟩
  | postWake => exact ⟨.go, .top, rfl, by decide⟩
  | left => exact absurd rfl inside

/-- A release thread works its queue off, clears its shard, and goes round. -/
theorem runReleaseThread_runsOn {thread : ReleaseThread} (inside : thread.place ≠ .left) :
    ∃ choice next, runReleaseThread false true thread choice = some next ∧
      next.place ≠ .left := by
  obtain ⟨place, event, requests⟩ := thread
  cases place with
  | top => exact ⟨.go, _, rfl, by simp⟩
  | waitForMultipleObjects =>
      cases event with
      | true => exact ⟨.object 0, _, rfl, by simp⟩
      | false => exact ⟨.object 1, _, rfl, by simp⟩
  | queue =>
      cases requests with
      | zero => exact ⟨.go, _, rfl, by simp⟩
      | succ requests => exact ⟨.go, _, rfl, by simp⟩
  | sleep => exact ⟨.go, _, rfl, by simp⟩
  | eraseAllSession => exact ⟨.go, _, rfl, by simp⟩
  | left => exact absurd rfl inside

variable {acceptThread : AcceptPlace} {logicThreads : Fin numOfLogicThread → LogicPlace}
  {releaseThreads : Fin numOfLogicThread → ReleaseThread}

/-- **A logic thread in its loop stays there.** -/
theorem not_loopsEnd_logic (threadId : Fin numOfLogicThread)
    (inside : logicThreads threadId ≠ .left) :
    ¬ LoopsEnd (stopped acceptThread logicThreads releaseThreads) := by
  refine not_loopsEnd_of_runsOn (fun state =>
    state.isStop = false ∧ state.stopEvent = true ∧ state.logicThreads threadId ≠ .left)
    (.logic threadId) ⟨rfl, rfl, inside⟩ ?_ fun state holds => holds.2.2
  rintro state ⟨running, signaled, inside⟩
  obtain ⟨choice, next, moved, stays⟩ := runLogicThread_runsOn inside
  rw [← running, ← signaled] at moved
  refine ⟨choice, _, Option.map_eq_some_iff.mpr ⟨next, moved, rfl⟩, running, signaled, ?_⟩
  simpa using stays

/-- **A release thread in its loop stays there.** -/
theorem not_loopsEnd_release {threadId : Fin numOfLogicThread}
    (inside : (releaseThreads threadId).place ≠ .left) :
    ¬ LoopsEnd (stopped acceptThread logicThreads releaseThreads) := by
  refine not_loopsEnd_of_runsOn (fun state => state.isStop = false ∧
      state.stopEvent = true ∧ (state.releaseThreads threadId).place ≠ .left)
    (.release threadId) ⟨rfl, rfl, inside⟩ ?_ fun state holds => holds.2.2
  rintro state ⟨running, signaled, inside⟩
  obtain ⟨choice, next, moved, stays⟩ := runReleaseThread_runsOn inside
  rw [← running, ← signaled] at moved
  refine ⟨choice, _, Option.map_eq_some_iff.mpr ⟨next, moved, rfl⟩, running, signaled, ?_⟩
  simpa using stays

/-- **An accept thread that was not interrupted stays in its loop.** -/
theorem not_loopsEnd_accept (other : acceptThread.interrupted = false) :
    ¬ LoopsEnd (stopped acceptThread logicThreads releaseThreads) := by
  refine not_loopsEnd_of_runsOn (fun state => state.isStop = false ∧
      state.listenSocketClosed = true ∧ state.acceptThread.interrupted = false)
    .accept ⟨rfl, rfl, other⟩ ?_ ?_
  · rintro state ⟨running, closed, other⟩
    obtain ⟨next, moved, stays⟩ := runAcceptThread_other other
    rw [← running, ← closed] at moved
    exact ⟨state.acceptThread.choice, _, Option.map_eq_some_iff.mpr ⟨next, moved, rfl⟩, running,
      closed, stays⟩
  · rintro state ⟨-, -, other⟩ left
    rw [Left] at left
    rw [left] at other
    cases other

/-- Without `isStop` nothing takes a logic thread out of its loop. -/
theorem runLogicThread_stays {stopEvent : Bool} {place next : LogicPlace} {choice : Choice}
    (taken : runLogicThread false stopEvent place choice = some next) : next ≠ .left := by
  unfold runLogicThread at taken
  split at taken <;> simp_all <;> rintro rfl <;> simp_all

/-- Nor a release thread. -/
theorem runReleaseThread_stays {stopEvent : Bool} {thread next : ReleaseThread} {choice : Choice}
    (taken : runReleaseThread false stopEvent thread choice = some next) :
    next.place ≠ .left := by
  unfold runReleaseThread at taken
  split at taken <;> grind

/-- **No logic thread and no release thread ever leaves its loop**: nothing sets `isStop`. -/
theorem left_never {server : Server numOfLogicThread}
    (reached : Reach step Unguarded (started numOfLogicThread) server)
    (threadId : Fin numOfLogicThread) :
    ¬ Left server (.logic threadId) ∧ ¬ Left server (.release threadId) := by
  have inside : server.isStop = false ∧ ∀ threadId, server.logicThreads threadId ≠ .left ∧
      (server.releaseThreads threadId).place ≠ .left := by
    refine reached.invariant (fun server => server.isStop = false ∧ ∀ threadId,
      server.logicThreads threadId ≠ .left ∧ (server.releaseThreads threadId).place ≠ .left)
      ⟨rfl, fun _ => ⟨by simp [started], by simp [started]⟩⟩ ?_
    rintro before event after ⟨running, inside⟩ - taken
    cases event with
    | run thread choice =>
        cases thread with
        | accept =>
            obtain ⟨place, -, rfl⟩ := Option.map_eq_some_iff.mp taken
            exact ⟨running, inside⟩
        | logic mover =>
            obtain ⟨place, moved, rfl⟩ := Option.map_eq_some_iff.mp taken
            rw [running] at moved
            refine ⟨running, fun other => ⟨?_, (inside other).2⟩⟩
            show Function.update before.logicThreads mover place other ≠ .left
            rw [Function.update_apply]
            split
            · exact runLogicThread_stays moved
            · exact (inside other).1
        | release mover =>
            obtain ⟨thread, moved, rfl⟩ := Option.map_eq_some_iff.mp taken
            rw [running] at moved
            refine ⟨running, fun other => ⟨(inside other).1, ?_⟩⟩
            show (Function.update before.releaseThreads mover thread other).place ≠ .left
            rw [Function.update_apply]
            split
            · exact runReleaseThread_stays moved
            · exact (inside other).2
    | releaseSession mover =>
        obtain ⟨-, taken⟩ := Option.ite_none_left_eq_some.mp taken
        cases taken
        refine ⟨running, fun other => ⟨(inside other).1, ?_⟩⟩
        show (Function.update before.releaseThreads mover _ other).place ≠ .left
        rw [Function.update_apply]
        split
        · exact (inside mover).2
        · exact (inside other).2
    | closeSocket =>
        cases taken
        exact ⟨running, inside⟩
    | setStopEvent =>
        cases taken
        exact ⟨running, inside⟩
  exact inside.2 threadId

end RunsOn

/-! ### How the loops end -/

section Ends

/-- **The loops end** exactly when the accept thread was in `accept` as the socket was closed, and
no logic thread and no release thread is in its loop. -/
theorem loopsEnd_iff (numOfLogicThread : ℕ) (acceptThread : AcceptPlace)
    (logicThreads : Fin numOfLogicThread → LogicPlace)
    (releaseThreads : Fin numOfLogicThread → ReleaseThread) :
    LoopsEnd (stopped acceptThread logicThreads releaseThreads) ↔
      acceptThread.interrupted = true ∧
        ∀ threadId, logicThreads threadId = .left ∧ (releaseThreads threadId).place = .left := by
  constructor
  · intro ends
    refine ⟨?_, fun threadId => ⟨?_, ?_⟩⟩
    · by_contra other
      exact not_loopsEnd_accept (Bool.eq_false_iff.mpr other) ends
    · by_contra inside
      exact not_loopsEnd_logic threadId inside ends
    · by_contra inside
      exact not_loopsEnd_release inside ends
  · rintro ⟨interrupted, gone⟩ thread trace fair
    cases thread with
    | accept => exact accept_leaves ⟨rfl, interrupted⟩ trace fair
    | logic threadId =>
        refine ⟨0, ?_⟩
        rw [trace.begins]
        exact (gone threadId).1
    | release threadId =>
        refine ⟨0, ?_⟩
        rw [trace.begins]
        exact (gone threadId).2

/-- **The loops of a server that waits**: the accept thread is in `accept`, the logic thread and the
release thread wait. -/
theorem loops_run_on :
    ¬ ∀ numOfLogicThread acceptThread (logicThreads : Fin numOfLogicThread → LogicPlace)
      releaseThreads, LoopsEnd (stopped acceptThread logicThreads releaseThreads) := by
  intro ends
  refine not_loopsEnd_logic ⟨0, Nat.one_pos⟩ ?_ (ends 1 (.accept true)
    (fun _ => .waitForSingleObject) fun _ => ⟨.waitForMultipleObjects, false, 0⟩)
  decide

end Ends

end ActorModelServer.ThreadLoops
