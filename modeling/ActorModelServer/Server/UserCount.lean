/-
**The number of users.**

`InsertSession`, `EraseSession` and `EraseAllSession` keep `numOfUser` beside the session maps of
the shards. The operations here are those that call them: sessions are inserted, releases are
requested, a release thread works its requests off, and the stop event makes it clear its shard.

* `numOfUser_iff` — `numOfUser` is the number of sessions throughout a sequence of operations
  exactly when no step adds a session that is there already, or too many for an `int`, and none
  clears a shard while another one has sessions.
* `numOfUser_lost` — clearing one shard of two stores zero while the other still has its session.
-/

import ActorModelServer.Server.Registry

namespace ActorModelServer.Registry

open ShardedMap (size size_empty size_insertNew_of_notMem size_erase_of_mem size_clear_eq_zero
  insertNew_of_mem)
open StepRuns (everyState_iff_everyStep)

section Model

variable {numOfLogicThread : NumOfLogicThread}

/-- `ReleaseSession`. -/
def Server.releaseSession (server : Server numOfLogicThread) (sessionId : ActorId)
    (threadId : ThreadId numOfLogicThread) : Server numOfLogicThread :=
  { server with
    releaseThreadsQueue := Function.update server.releaseThreadsQueue threadId
      (server.releaseThreadsQueue threadId ++ [(sessionId, threadId)]) }

/-- `RunReleaseThread` takes one request. -/
def Server.processRequest (server : Server numOfLogicThread)
    (request : ActorId × ThreadId numOfLogicThread) : Server numOfLogicThread :=
  if (server.findSession request.1 request.2).isSome then
    server.eraseSession request.1 request.2
  else server

/-- `RunReleaseThread` after its release event; it keeps the queue locked until it is empty. -/
def Server.processQueue (server : Server numOfLogicThread)
    (threadId : ThreadId numOfLogicThread) : Server numOfLogicThread :=
  let processed := (server.releaseThreadsQueue threadId).foldl Server.processRequest server
  { processed with
    releaseThreadsQueue := Function.update processed.releaseThreadsQueue threadId [] }

variable (numOfLogicThread) in
/-- An operation that changes the sessions, or asks for a change. -/
inductive UserOp
  | insertSession (session : Actor numOfLogicThread)
  | releaseSession (sessionId : ActorId) (threadId : ThreadId numOfLogicThread)
  | processQueue (threadId : ThreadId numOfLogicThread)
  | eraseAllSession (threadId : ThreadId numOfLogicThread)

/-- One operation. -/
def userStep (server : Server numOfLogicThread) (op : UserOp numOfLogicThread) :
    Server numOfLogicThread :=
  match op with
  | .insertSession session => server.insertSession session
  | .releaseSession sessionId threadId => server.releaseSession sessionId threadId
  | .processQueue threadId => server.processQueue threadId
  | .eraseAllSession threadId => server.eraseAllSession threadId

end Model

/-! ### The counter and the maps -/

section Counting

variable {numOfLogicThread : NumOfLogicThread}

/-- `numOfUser` is the number of sessions, and not negative. -/
def Counted (server : Server numOfLogicThread) : Prop :=
  server.numOfUser.toInt = size server.sessionMap ∧ 0 ≤ server.numOfUser.toInt

/-- The session is new to its shard, and `numOfUser` can count it; a shard is cleared after all
others are empty. -/
def KeepsCount (server : Server numOfLogicThread) (op : UserOp numOfLogicThread) : Prop :=
  match op with
  | .insertSession session =>
      session.actorId ∉ server.sessionMap session.threadId ∧
        size server.sessionMap + 1 < 2 ^ 31
  | .releaseSession _ _ => True
  | .processQueue _ => True
  | .eraseAllSession threadId =>
      ∀ other, other ≠ threadId → (server.sessionMap other).keys = []

theorem counted_iff {server : Server numOfLogicThread} :
    Counted server ↔ server.numOfUser.toInt = size server.sessionMap := by
  constructor
  · exact And.left
  · intro counted
    exact ⟨counted, by rw [counted]; exact Int.natCast_nonneg _⟩

theorem counted_initial : Counted (initial numOfLogicThread) := by
  rw [counted_iff]
  exact congrArg Nat.cast size_empty.symm

/-- **Insertion** keeps the count of a session that is new, up to the largest `int`. -/
theorem counted_insertSession {server : Server numOfLogicThread} (counted : Counted server)
    (session : Actor numOfLogicThread) :
    Counted (server.insertSession session) ↔ KeepsCount server (.insertSession session) := by
  rw [counted_iff] at counted ⊢
  have range := server.numOfUser.two_mul_toInt_lt
  have raised : (server.insertSession session).numOfUser.toInt =
      if size server.sessionMap + 1 < 2 ^ 31 then (size server.sessionMap : ℤ) + 1
      else -2 ^ 31 := by
    have sum : (server.insertSession session).numOfUser.toInt =
        (server.numOfUser.toInt + 1).bmod (2 ^ 32) := BitVec.toInt_add _ _
    rw [sum, counted, Int.bmod_def]
    split <;> split <;> omega
  rw [raised]
  by_cases present : session.actorId ∈ server.sessionMap session.threadId
  · have same : (server.insertSession session).sessionMap = server.sessionMap :=
      insertNew_of_mem session present
    rw [same]
    constructor
    · intro equal
      split at equal <;> omega
    · intro keeps
      exact absurd present keeps.1
  · have more : size (server.insertSession session).sessionMap = size server.sessionMap + 1 :=
      size_insertNew_of_notMem session present
    rw [more]
    constructor
    · intro equal
      refine ⟨present, ?_⟩
      split at equal <;> omega
    · rintro ⟨-, few⟩
      rw [if_pos few]
      omega

/-- **A request** that finds its session erases it, and any other changes nothing. -/
theorem counted_processRequest {server : Server numOfLogicThread} (counted : Counted server)
    (request : ActorId × ThreadId numOfLogicThread) :
    Counted (server.processRequest request) := by
  rw [Server.processRequest]
  split
  · rename_i found
    rw [counted_iff] at counted ⊢
    have present : request.1 ∈ server.sessionMap request.2 := AList.lookup_isSome.mp found
    have fewer : size (server.eraseSession request.1 request.2).sessionMap + 1 =
        size server.sessionMap := size_erase_of_mem present
    have range := server.numOfUser.two_mul_toInt_lt
    have lowered : (server.eraseSession request.1 request.2).numOfUser.toInt =
        (server.numOfUser.toInt - 1).bmod (2 ^ 32) := BitVec.toInt_sub
    rw [lowered, counted, Int.bmod_def]
    split <;> omega
  · exact counted

/-- **The whole queue.** -/
theorem counted_processQueue {server : Server numOfLogicThread} (counted : Counted server)
    (threadId : ThreadId numOfLogicThread) : Counted (server.processQueue threadId) := by
  have processed : ∀ (queue : List (ActorId × ThreadId numOfLogicThread))
      (server : Server numOfLogicThread), Counted server →
        Counted (queue.foldl Server.processRequest server) := by
    intro queue
    induction queue with
    | nil => exact fun _ counted => counted
    | cons request rest ih =>
        intro server counted
        exact ih _ (counted_processRequest counted request)
  exact processed _ server counted

/-- **Clearing a shard** keeps the count when no other shard has a session. -/
theorem counted_eraseAllSession (server : Server numOfLogicThread)
    (threadId : ThreadId numOfLogicThread) :
    Counted (server.eraseAllSession threadId) ↔
      KeepsCount server (.eraseAllSession threadId) := by
  rw [counted_iff, KeepsCount, ← size_clear_eq_zero]
  change (0 : ℤ) = size (ShardedMap.clear server.sessionMap threadId) ↔ _
  omega

/-- **One operation** keeps the count exactly when it meets the condition. -/
theorem counted_userStep {server : Server numOfLogicThread} {op : UserOp numOfLogicThread}
    (counted : Counted server) : Counted (userStep server op) ↔ KeepsCount server op := by
  cases op with
  | insertSession session => exact counted_insertSession counted session
  | releaseSession sessionId threadId => exact iff_of_true counted trivial
  | processQueue threadId => exact iff_of_true (counted_processQueue counted threadId) trivial
  | eraseAllSession threadId => exact counted_eraseAllSession server threadId

/-- **The user count.** For every number of shards and every sequence of operations: `numOfUser` is
the number of sessions in every state, and never negative, exactly when every operation keeps the
count. -/
theorem numOfUser_iff (numOfLogicThread : NumOfLogicThread)
    (ops : List (UserOp numOfLogicThread)) :
    (∀ done, done <+: ops → Counted (done.foldl userStep (initial numOfLogicThread))) ↔
      ∀ done op, done ++ [op] <+: ops →
        KeepsCount (done.foldl userStep (initial numOfLogicThread)) op :=
  everyState_iff_everyStep counted_initial (fun _ _ counted => counted_userStep counted) ops

/-- Clearing the empty shard of two, after a session was inserted into the other. -/
def clearedElsewhere : List (UserOp twoThreads) :=
  [.insertSession (newActor 0 .session), .eraseAllSession ⟨0, by decide⟩]

/-- **A session that is not counted.** -/
theorem numOfUser_lost :
    ¬ ∀ numOfLogicThread, ∀ ops : List (UserOp numOfLogicThread),
      Counted (ops.foldl userStep (initial numOfLogicThread)) := by
  intro counted
  have lost := (counted twoThreads clearedElsewhere).1
  revert lost
  decide

end Counting

end ActorModelServer.Registry
