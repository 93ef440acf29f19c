/-
**The release queue of a shard.**

`ReleaseSession` pushes a request and sets the release event, under the mutex of the shard's queue.
`RunReleaseThread` waits for the event, which the wait resets, and works the queue off under the
same mutex; the stop event makes it call `EraseAllSession`. `Shard` is what they share, with a step
for every critical section or a part of it; `owed` are the sessions that are still to be
disconnected.

* `Consistent` — the sessions inserted are those owed and those disconnected, each once.
* `Woken` — a request is in the queue only while something will make the release thread look.
* `release_idempotent` — however the calls and the release thread interleave, a session is
  disconnected at most once, and once by a drain that processes a request for it.
-/

import ActorModelServer.Library.Runs
import Mathlib.Data.List.Perm.Basic
import Mathlib.Data.List.Nodup

namespace ActorModelServer.ReleaseQueue

open StepRuns (Reach Unguarded run reach_of_run)

section Model

/-- `SessionIdType`. -/
abbrev SessionId := ℕ

/-- `releaseThreadsQueueMutex`, with the place of a `ReleaseSession` that holds it. -/
inductive QueueMutex
  | free
  | push (sessionId : SessionId)
  | setEvent
  | unlock
  | releaseThread
  deriving DecidableEq, Repr

/-- Where the release thread is, with its local variables. -/
inductive Place
  | top
  | waitForMultipleObjects
  | lockQueue
  /- the test of the inner loop -/
  | empty
  | findSession (targetSessionId : SessionId)
  | eraseSession (targetSessionId : SessionId)
  | onDisconnected (targetSessionId : SessionId)
  | pop
  | sleep
  /- the sessions the loop has not come to; `sessionMapMutex` is held -/
  | eraseAllSession (rest : List SessionId)
  | left
  deriving DecidableEq, Repr

/-- A request that was processed. -/
structure Processed where
  sessionId : SessionId
  /-- The session was inserted before the drain. -/
  inserted : Bool
  deriving DecidableEq, Repr

/-- One shard, and what has happened in it. -/
structure Shard where
  isStop : Bool
  /-- `logicThreadEventStopHandle`; nothing resets it. -/
  stopEvent : Bool
  sessionMap : List SessionId
  queueMutex : QueueMutex
  queue : List SessionId
  /-- `releaseThreadsEventHandles`, reset by the wait that it ends. -/
  event : Bool
  place : Place
  /-- The sessions inserted so far, and those at the beginning of the drain. -/
  inserted : List SessionId
  insertedBefore : List SessionId
  /-- The calls of `OnDisconnected`. -/
  disconnected : List SessionId
  processed : List Processed
  deriving DecidableEq, Repr

/-- After `InitThreads`. -/
def initial : Shard where
  isStop := false
  stopEvent := false
  sessionMap := []
  queueMutex := .free
  queue := []
  event := false
  place := .top
  inserted := []
  insertedBefore := []
  disconnected := []
  processed := []

/-- What the release thread leaves to the system. -/
inductive Choice
  | go
  /- how the wait ends -/
  | object (index : ℕ)
  | failed
  /- the order of the sessions in the map -/
  | traversal (sessions : List SessionId)
  deriving DecidableEq, Repr

/-- A step of a caller, or of the release thread. -/
inductive Event
  /- a `ReleaseSession` takes the mutex, and goes on -/
  | releaseSession (sessionId : SessionId)
  | caller
  | insertSession (sessionId : SessionId)
  | setStopEvent
  | run (choice : Choice)
  deriving DecidableEq, Repr

/-- The further steps of the `ReleaseSession` that holds the mutex. -/
def Shard.caller (shard : Shard) : Option Shard :=
  match shard.queueMutex with
  | .push sessionId =>
      some { shard with queue := shard.queue ++ [sessionId], queueMutex := .setEvent }
  | .setEvent => some { shard with event := true, queueMutex := .unlock }
  | .unlock => some { shard with queueMutex := .free }
  | _ => none

/-- `EraseAllSession` has locked the map. -/
def Place.locksMap : Place → Bool
  | .eraseAllSession _ => true
  | _ => false

/-- `InsertSession`; the accept thread inserts a session once, and ids are unique. -/
def Shard.insertSession (shard : Shard) (sessionId : SessionId) : Option Shard :=
  if shard.place.locksMap = false ∧ sessionId ∉ shard.inserted then
    some { shard with
      sessionMap := shard.sessionMap ++ [sessionId]
      inserted := shard.inserted ++ [sessionId] }
  else none

/-- `RunReleaseThread`; the wait returns the first of its events that is set. -/
def Shard.runReleaseThread (shard : Shard) (choice : Choice) : Option Shard :=
  match shard.place, choice with
  | .top, .go =>
      some { shard with place := if shard.isStop then .left else .waitForMultipleObjects }
  | .waitForMultipleObjects, .object 0 =>
      if shard.event then some { shard with event := false, place := .lockQueue } else none
  | .waitForMultipleObjects, .object 1 =>
      if !shard.event && shard.stopEvent then some { shard with place := .sleep } else none
  | .waitForMultipleObjects, .failed => some { shard with place := .top }
  | .lockQueue, .go =>
      if shard.queueMutex = .free then
        some { shard with
          queueMutex := .releaseThread
          insertedBefore := shard.inserted
          place := .empty }
      else none
  | .empty, .go =>
      match shard.queue with
      | [] => some { shard with queueMutex := .free, place := .top }
      | targetSessionId :: _ => some { shard with place := .findSession targetSessionId }
  | .findSession targetSessionId, .go =>
      some { shard with
        place := if targetSessionId ∈ shard.sessionMap then .eraseSession targetSessionId
          else .pop }
  | .eraseSession targetSessionId, .go =>
      some { shard with
        sessionMap := shard.sessionMap.erase targetSessionId
        place := .onDisconnected targetSessionId }
  | .onDisconnected targetSessionId, .go =>
      some { shard with
        disconnected := shard.disconnected ++ [targetSessionId]
        place := .pop }
  | .pop, .go =>
      match shard.queue with
      | [] => none
      | request :: rest =>
          some { shard with
            queue := rest
            processed := shard.processed ++ [⟨request, decide (request ∈ shard.insertedBefore)⟩]
            place := .empty }
  | .sleep, .traversal sessions =>
      if sessions.Perm shard.sessionMap then
        some { shard with place := .eraseAllSession sessions }
      else none
  | .eraseAllSession (session :: rest), .go =>
      some { shard with
        disconnected := shard.disconnected ++ [session]
        place := .eraseAllSession rest }
  | .eraseAllSession [], .go => some { shard with sessionMap := [], place := .top }
  | _, _ => none

/-- One step. -/
def step (shard : Shard) (event : Event) : Option Shard :=
  match event with
  | .releaseSession sessionId =>
      if shard.queueMutex = .free then some { shard with queueMutex := .push sessionId } else none
  | .caller => shard.caller
  | .insertSession sessionId => shard.insertSession sessionId
  | .setStopEvent => some { shard with stopEvent := true }
  | .run choice => shard.runReleaseThread choice

/-- The sessions that are still to be disconnected. -/
def Shard.owed (shard : Shard) : List SessionId :=
  match shard.place with
  | .onDisconnected targetSessionId => targetSessionId :: shard.sessionMap
  | .eraseAllSession rest => rest
  | _ => shard.sessionMap

/-- The release thread holds the queue's mutex. -/
def Place.drains : Place → Bool
  | .empty => true
  | .findSession _ => true
  | .eraseSession _ => true
  | .onDisconnected _ => true
  | .pop => true
  | _ => false

/-- The request the release thread is at. -/
def Place.target : Place → Option SessionId
  | .findSession targetSessionId => some targetSessionId
  | .eraseSession targetSessionId => some targetSessionId
  | .onDisconnected targetSessionId => some targetSessionId
  | _ => none

end Model

/-! ### The steps -/

section Steps

variable {shard after : Shard} {event : Event}

/-- What a step does. -/
inductive Moves (shard : Shard) : Shard → Prop
  | locked (sessionId : SessionId) (free : shard.queueMutex = .free) :
      Moves shard { shard with queueMutex := .push sessionId }
  | pushed (sessionId : SessionId) (held : shard.queueMutex = .push sessionId) :
      Moves shard { shard with queue := shard.queue ++ [sessionId], queueMutex := .setEvent }
  | signalled (held : shard.queueMutex = .setEvent) :
      Moves shard { shard with event := true, queueMutex := .unlock }
  | unlocked (held : shard.queueMutex = .unlock) : Moves shard { shard with queueMutex := .free }
  | inserted (sessionId : SessionId) (unlocked : shard.place.locksMap = false)
      (new : sessionId ∉ shard.inserted) :
      Moves shard { shard with
        sessionMap := shard.sessionMap ++ [sessionId]
        inserted := shard.inserted ++ [sessionId] }
  | stopped : Moves shard { shard with stopEvent := true }
  /- between two waits, where the release thread has no session in its hands -/
  | idle (place : Place) (here : shard.place ∈ [.top, .waitForMultipleObjects])
      (next : place ∈ [.left, .waitForMultipleObjects, .sleep, .top]) :
      Moves shard { shard with place := place }
  | wakes (here : shard.place = .waitForMultipleObjects) (set : shard.event = true) :
      Moves shard { shard with event := false, place := .lockQueue }
  | begins (here : shard.place = .lockQueue) (free : shard.queueMutex = .free) :
      Moves shard { shard with
        queueMutex := .releaseThread
        insertedBefore := shard.inserted
        place := .empty }
  | ends (here : shard.place = .empty) (none : shard.queue = []) :
      Moves shard { shard with queueMutex := .free, place := .top }
  | takes (here : shard.place = .empty) (targetSessionId : SessionId) (rest : List SessionId)
      (front : shard.queue = targetSessionId :: rest) :
      Moves shard { shard with place := .findSession targetSessionId }
  | found (targetSessionId : SessionId) (here : shard.place = .findSession targetSessionId)
      (present : targetSessionId ∈ shard.sessionMap) :
      Moves shard { shard with place := .eraseSession targetSessionId }
  | missed (targetSessionId : SessionId) (here : shard.place = .findSession targetSessionId)
      (absent : targetSessionId ∉ shard.sessionMap) :
      Moves shard { shard with place := .pop }
  | erased (targetSessionId : SessionId) (here : shard.place = .eraseSession targetSessionId) :
      Moves shard { shard with
        sessionMap := shard.sessionMap.erase targetSessionId
        place := .onDisconnected targetSessionId }
  | disconnected (targetSessionId : SessionId)
      (here : shard.place = .onDisconnected targetSessionId) :
      Moves shard { shard with
        disconnected := shard.disconnected ++ [targetSessionId]
        place := .pop }
  | popped (here : shard.place = .pop) (request : SessionId) (rest : List SessionId)
      (front : shard.queue = request :: rest) :
      Moves shard { shard with
        queue := rest
        processed := shard.processed ++ [⟨request, decide (request ∈ shard.insertedBefore)⟩]
        place := .empty }
  | clears (here : shard.place = .sleep) (sessions : List SessionId)
      (traversal : sessions.Perm shard.sessionMap) :
      Moves shard { shard with place := .eraseAllSession sessions }
  | clearsOne (session : SessionId) (rest : List SessionId)
      (here : shard.place = .eraseAllSession (session :: rest)) :
      Moves shard { shard with
        disconnected := shard.disconnected ++ [session]
        place := .eraseAllSession rest }
  | cleared (here : shard.place = .eraseAllSession []) :
      Moves shard { shard with sessionMap := [], place := .top }

/-- **Every step** is one of these. -/
theorem moves_of_step (taken : step shard event = some after) : Moves shard after := by
  cases event with
  | releaseSession sessionId =>
      obtain ⟨free, taken⟩ := Option.ite_none_right_eq_some.mp taken
      cases taken
      exact .locked sessionId free
  | caller =>
      simp only [step, Shard.caller] at taken
      split at taken
      · cases taken
        exact .pushed _ ‹_›
      · cases taken
        exact .signalled ‹_›
      · cases taken
        exact .unlocked ‹_›
      · cases taken
  | insertSession sessionId =>
      obtain ⟨⟨unlocked, new⟩, taken⟩ := Option.ite_none_right_eq_some.mp taken
      cases taken
      exact .inserted sessionId unlocked new
  | setStopEvent =>
      cases taken
      exact .stopped
  | run choice =>
      simp only [step, Shard.runReleaseThread] at taken
      split at taken
      · rename_i here
        cases taken
        refine .idle _ (by simp [here]) ?_
        split <;> simp
      · rename_i here
        obtain ⟨set, taken⟩ := Option.ite_none_right_eq_some.mp taken
        cases taken
        exact .wakes here set
      · rename_i here
        obtain ⟨-, taken⟩ := Option.ite_none_right_eq_some.mp taken
        cases taken
        exact .idle _ (by simp [here]) (by simp)
      · rename_i here
        cases taken
        exact .idle _ (by simp [here]) (by simp)
      · rename_i here
        obtain ⟨free, taken⟩ := Option.ite_none_right_eq_some.mp taken
        cases taken
        exact .begins here free
      · rename_i here
        split at taken
        · cases taken
          exact .ends here ‹_›
        · cases taken
          exact .takes here _ _ ‹_›
      · rename_i here
        cases taken
        split
        · exact .found _ here ‹_›
        · exact .missed _ here ‹_›
      · cases taken
        exact .erased _ ‹_›
      · cases taken
        exact .disconnected _ ‹_›
      · rename_i here
        split at taken
        · cases taken
        · cases taken
          exact .popped here _ _ ‹_›
      · rename_i here
        obtain ⟨traversal, taken⟩ := Option.ite_none_right_eq_some.mp taken
        cases taken
        exact .clears here _ traversal
      · cases taken
        exact .clearsOne _ _ ‹_›
      · cases taken
        exact .cleared ‹_›
      · cases taken

end Steps

/-! ### What every run keeps -/

section Invariants

variable {shard after : Shard}

/-- The release thread holds the mutex while it works the queue off, and is at its front. -/
structure Holds (shard : Shard) : Prop where
  drains : shard.place.drains = true ↔ shard.queueMutex = .releaseThread
  front : ∀ sessionId, shard.place.target = some sessionId → shard.queue.head? = some sessionId

/-- **The sessions inserted are those owed and those disconnected.** -/
structure Consistent (shard : Shard) : Prop where
  accounts : (shard.owed ++ shard.disconnected).Perm shard.inserted
  once : shard.inserted.Nodup
  found : ∀ sessionId, shard.place = .eraseSession sessionId → sessionId ∈ shard.sessionMap

/-- What the requests that were processed have come to. -/
structure Settled (shard : Shard) : Prop where
  before : shard.insertedBefore ⊆ shard.inserted
  served : shard.place = .pop → ∀ sessionId, shard.queue.head? = some sessionId →
    sessionId ∈ shard.insertedBefore → sessionId ∈ shard.disconnected
  processed : ∀ request ∈ shard.processed, request.inserted = true →
    request.sessionId ∈ shard.disconnected

/-- **Something makes the release thread look**: it is about to, or the event is set or about to be
set. -/
def Woken (shard : Shard) : Prop :=
  shard.queue ≠ [] → shard.place.drains = true ∨ shard.place = .lockQueue ∨ shard.event = true ∨
    shard.queueMutex = .setEvent

/-- The mutex keeps the callers out. -/
theorem Moves.holds (moved : Moves shard after) (holds : Holds shard) : Holds after := by
  obtain ⟨drains, front⟩ := holds
  have outside (sessionId : SessionId) (at_target : shard.place.target = some sessionId) :
      shard.queueMutex = .releaseThread := by
    refine drains.mp ?_
    cases here : shard.place <;> simp_all [Place.target, Place.drains]
  have away {place : Place} {queue : List SessionId} (none : place.target = none) :
      ∀ sessionId, place.target = some sessionId → queue.head? = some sessionId :=
    fun sessionId target => absurd (none.symm.trans target) (Option.some_ne_none sessionId).symm
  cases moved with
  | locked sessionId free =>
      exact ⟨by simp [drains, free], front⟩
  | pushed sessionId held =>
      refine ⟨by simp [drains, held], fun target isTarget => ?_⟩
      rw [outside target isTarget] at held
      cases held
  | signalled held => exact ⟨by simp [drains, held], front⟩
  | unlocked held => exact ⟨by simp [drains, held], front⟩
  | inserted sessionId unlocked new => exact ⟨drains, front⟩
  | stopped => exact ⟨drains, front⟩
  | idle place here next =>
      have released : shard.queueMutex ≠ .releaseThread := by
        intro held
        rw [← drains] at held
        simp at here
        rcases here with here | here <;> simp [here, Place.drains] at held
      simp at next
      rcases next with rfl | rfl | rfl | rfl <;> exact ⟨by simp [Place.drains, released], away rfl⟩
  | wakes here set => exact ⟨by simpa [here, Place.drains] using drains, away rfl⟩
  | begins here free => exact ⟨by simp [Place.drains], away rfl⟩
  | ends here none => exact ⟨by simp [Place.drains], away rfl⟩
  | takes here targetSessionId rest queue =>
      refine ⟨by simpa [here, Place.drains] using drains, fun sessionId isTarget => ?_⟩
      cases isTarget
      exact congrArg List.head? queue
  | found targetSessionId here present =>
      exact ⟨by simpa [here, Place.drains] using drains, by simpa [here, Place.target] using front⟩
  | missed targetSessionId here absent =>
      exact ⟨by simpa [here, Place.drains] using drains, away rfl⟩
  | erased targetSessionId here =>
      exact ⟨by simpa [here, Place.drains] using drains, by simpa [here, Place.target] using front⟩
  | disconnected targetSessionId here =>
      exact ⟨by simpa [here, Place.drains] using drains, away rfl⟩
  | popped here request rest queue => exact ⟨by simpa [here, Place.drains] using drains, away rfl⟩
  | clears here sessions traversal => exact ⟨by simpa [here, Place.drains] using drains, away rfl⟩
  | clearsOne session rest here => exact ⟨by simpa [here, Place.drains] using drains, away rfl⟩
  | cleared here => exact ⟨by simpa [here, Place.drains] using drains, away rfl⟩

/-- A session moves from those owed to those disconnected. -/
theorem accounts_disconnect {owed disconnected inserted : List SessionId} {session : SessionId}
    (accounts : (session :: owed ++ disconnected).Perm inserted) :
    (owed ++ (disconnected ++ [session])).Perm inserted := by
  refine .trans ?_ accounts
  rw [← List.append_assoc]
  exact List.perm_append_singleton _ _

/-- A new session is owed, while the map is not locked. -/
theorem owed_insert {place : Place} (unlocked : place.locksMap = false) (sessionId : SessionId)
    (here : shard.place = place) :
    Shard.owed { shard with
        sessionMap := shard.sessionMap ++ [sessionId]
        inserted := shard.inserted ++ [sessionId] } = shard.owed ++ [sessionId] := by
  unfold Shard.owed
  cases place with
  | eraseAllSession rest => cases unlocked
  | _ => simp [here]

/-- **The sessions are accounted for.** -/
theorem Moves.consistent (moved : Moves shard after) (consistent : Consistent shard) :
    Consistent after := by
  obtain ⟨accounts, once, found⟩ := consistent
  have elsewhere {place : Place} {sessionMap : List SessionId}
      (other : ∀ sessionId, place ≠ .eraseSession sessionId) :
      ∀ sessionId, place = .eraseSession sessionId → sessionId ∈ sessionMap :=
    fun sessionId here => absurd here (other sessionId)
  -- a step between places that owe what is in the map
  have moves (place : Place) (plain : shard.owed = shard.sessionMap)
      (same : Shard.owed { shard with place := place } = shard.sessionMap) :
      (Shard.owed { shard with place := place } ++ shard.disconnected).Perm shard.inserted := by
    rw [same, ← plain]
    exact accounts
  cases moved with
  | locked | pushed | signalled | unlocked | stopped => exact ⟨accounts, once, found⟩
  | inserted sessionId unlocked new =>
      refine ⟨?_, ?_, fun target here => List.mem_append_left _ (found target here)⟩
      · rw [owed_insert unlocked sessionId rfl, List.append_assoc]
        exact (List.perm_append_comm_assoc _ _ _).trans
          ((List.perm_append_comm).trans (accounts.append_right [sessionId]))
      · refine List.nodup_append.mpr ⟨once, List.pairwise_singleton _ _, ?_⟩
        rintro old member other last rfl
        exact new (List.mem_singleton.mp last ▸ member)
  | idle place here next =>
      simp at here next
      refine ⟨moves place ?_ ?_, once, ?_⟩
      · rcases here with here | here <;> simp [Shard.owed, here]
      · rcases next with rfl | rfl | rfl | rfl <;> rfl
      · rcases next with rfl | rfl | rfl | rfl <;> intro _ other <;> cases other
  | wakes here set =>
      exact ⟨moves .lockQueue (by simp [Shard.owed, here]) rfl, once, elsewhere (by simp)⟩
  | begins here free =>
      exact ⟨moves .empty (by simp [Shard.owed, here]) rfl, once, elsewhere (by simp)⟩
  | ends here none => exact ⟨moves .top (by simp [Shard.owed, here]) rfl, once, elsewhere (by simp)⟩
  | takes here targetSessionId rest queue =>
      exact ⟨moves (.findSession targetSessionId) (by simp [Shard.owed, here]) rfl, once,
        elsewhere (by simp)⟩
  | found targetSessionId here present =>
      refine ⟨moves (.eraseSession targetSessionId) (by simp [Shard.owed, here]) rfl, once, ?_⟩
      intro sessionId same
      cases same
      exact present
  | missed targetSessionId here absent =>
      exact ⟨moves .pop (by simp [Shard.owed, here]) rfl, once, elsewhere (by simp)⟩
  | erased targetSessionId here =>
      have owed : shard.owed = shard.sessionMap := by simp [Shard.owed, here]
      refine ⟨.trans (.append_right _ ?_) accounts, once, elsewhere (by simp)⟩
      rw [owed]
      exact (List.perm_cons_erase (found targetSessionId here)).symm
  | disconnected targetSessionId here =>
      have owed : shard.owed = targetSessionId :: shard.sessionMap := by simp [Shard.owed, here]
      rw [owed] at accounts
      exact ⟨accounts_disconnect accounts, once, elsewhere (by simp)⟩
  | popped here request rest queue =>
      exact ⟨moves .empty (by simp [Shard.owed, here]) rfl, once, elsewhere (by simp)⟩
  | clears here sessions traversal =>
      have owed : shard.owed = shard.sessionMap := by simp [Shard.owed, here]
      rw [owed] at accounts
      exact ⟨(traversal.append_right _).trans accounts, once, elsewhere (by simp)⟩
  | clearsOne session rest here =>
      have owed : shard.owed = session :: rest := by simp [Shard.owed, here]
      rw [owed] at accounts
      exact ⟨accounts_disconnect accounts, once, elsewhere (by simp)⟩
  | cleared here =>
      have owed : shard.owed = [] := by simp [Shard.owed, here]
      rw [owed] at accounts
      exact ⟨accounts, once, elsewhere (by simp)⟩

/-- A session that was inserted and is not owed was disconnected. -/
theorem Consistent.disconnected_of_not_owed (consistent : Consistent shard) {sessionId : SessionId}
    (inserted : sessionId ∈ shard.inserted) (settled : sessionId ∉ shard.owed) :
    sessionId ∈ shard.disconnected := by
  rcases List.mem_append.mp (consistent.accounts.mem_iff.mpr inserted) with owed | disconnected
  · exact absurd owed settled
  · exact disconnected

/-- **A request is processed** with its session disconnected. -/
theorem Moves.settled (moved : Moves shard after) (holds : Holds shard)
    (consistent : Consistent shard) (settled : Settled shard) : Settled after := by
  obtain ⟨before, served, processed⟩ := settled
  have later (session : SessionId) : ∀ request ∈ shard.processed, request.inserted = true →
      request.sessionId ∈ shard.disconnected ++ [session] :=
    fun request member inserted => List.mem_append_left _ (processed request member inserted)
  cases moved with
  | locked | signalled | unlocked | stopped => exact ⟨before, served, processed⟩
  | pushed sessionId held =>
      refine ⟨before, fun here => ?_, processed⟩
      have isPop : shard.place = .pop := here
      have drains : shard.place.drains = true := by simp [isPop, Place.drains]
      rw [holds.drains, held] at drains
      cases drains
  | inserted sessionId unlocked new =>
      exact ⟨fun session early => List.mem_append_left _ (before early), served, processed⟩
  | idle place here next =>
      refine ⟨before, fun pop => ?_, processed⟩
      simp at next
      rcases next with rfl | rfl | rfl | rfl <;> cases pop
  | wakes | ends | takes | found | erased | clears | cleared =>
      exact ⟨before, (fun pop => by cases pop), processed⟩
  | begins here free => exact ⟨List.Subset.refl _, (fun pop => by cases pop), processed⟩
  | missed targetSessionId here absent =>
      refine ⟨before, fun _ sessionId front early => ?_, processed⟩
      have target := holds.front targetSessionId (by simp [here, Place.target])
      obtain rfl : targetSessionId = sessionId := Option.some.inj (target.symm.trans front)
      exact consistent.disconnected_of_not_owed (before early) (by simpa [Shard.owed, here])
  | disconnected targetSessionId here =>
      refine ⟨before, fun _ sessionId front early => ?_, later targetSessionId⟩
      have target := holds.front targetSessionId (by simp [here, Place.target])
      obtain rfl : targetSessionId = sessionId := Option.some.inj (target.symm.trans front)
      exact List.mem_append_right _ (List.mem_singleton_self _)
  | popped here request rest queue =>
      refine ⟨before, (fun pop => by cases pop), fun other member inserted => ?_⟩
      rcases List.mem_append.mp member with earlier | last
      · exact processed other earlier inserted
      · rw [List.mem_singleton.mp last] at inserted ⊢
        exact served here request (by rw [queue]; rfl) (of_decide_eq_true inserted)
  | clearsOne session rest here => exact ⟨before, (fun pop => by cases pop), later session⟩

/-- **No request is left asleep.** -/
theorem Moves.keeps_woken (moved : Moves shard after) (woken : Woken shard) : Woken after := by
  -- a step of a place without the mutex that changes none of this
  have still (plain : shard.place.drains = false) (waiting : shard.place ≠ .lockQueue)
      (pending : shard.queue ≠ []) : shard.event = true ∨ shard.queueMutex = .setEvent := by
    rcases woken pending with drains | locks | signalled
    · exact absurd (plain.symm.trans drains) Bool.false_ne_true
    · exact absurd locks waiting
    · exact signalled
  -- a step of a caller that is not behind its `SetEvent`
  have elsewhere (other : shard.queueMutex ≠ .setEvent) (pending : shard.queue ≠ [])
      {later : Prop} : shard.place.drains = true ∨ shard.place = .lockQueue ∨
        shard.event = true ∨ later := by
    rcases woken pending with drains | locks | set | held
    · exact .inl drains
    · exact .inr (.inl locks)
    · exact .inr (.inr (.inl set))
    · exact absurd held other
  cases moved with
  | locked sessionId free => exact fun pending => elsewhere (by simp [free]) pending
  | pushed sessionId held => exact fun _ => .inr (.inr (.inr rfl))
  | signalled held => exact fun _ => .inr (.inr (.inl rfl))
  | unlocked held => exact fun pending => elsewhere (by simp [held]) pending
  | inserted | stopped => exact woken
  | idle place here next =>
      intro pending
      simp at here
      refine .inr (.inr (still ?_ ?_ pending))
      · rcases here with here | here <;> simp [here, Place.drains]
      · rcases here with here | here <;> simp [here]
  | wakes here set => exact fun _ => .inr (.inl rfl)
  | ends here none => exact fun pending => absurd none pending
  | begins | takes | found | missed | erased | disconnected | popped => exact fun _ => .inl rfl
  | clears here sessions traversal =>
      have signalled := still (by simp [here, Place.drains]) (by simp [here])
      exact fun pending => .inr (.inr (signalled pending))
  | clearsOne session rest here =>
      have signalled := still (by simp [here, Place.drains]) (by simp [here])
      exact fun pending => .inr (.inr (signalled pending))
  | cleared here =>
      have signalled := still (by simp [here, Place.drains]) (by simp [here])
      exact fun pending => .inr (.inr (signalled pending))

/-- What every run keeps. -/
structure Invariant (shard : Shard) : Prop where
  holds : Holds shard
  consistent : Consistent shard
  settled : Settled shard
  woken : Woken shard

theorem invariant_initial : Invariant initial where
  holds := ⟨by decide, fun _ isTarget => by cases isTarget⟩
  consistent := ⟨.nil, .nil, fun _ other => by cases other⟩
  settled := ⟨List.Subset.refl _, (fun pop => by cases pop), fun _ member => by cases member⟩
  woken := fun pending => absurd rfl pending

theorem invariant_reach (reached : Reach step Unguarded initial shard) : Invariant shard := by
  refine Reach.invariant Invariant invariant_initial ?_ reached
  intro before event after invariant _ taken
  have moved := moves_of_step taken
  exact ⟨moved.holds invariant.holds, moved.consistent invariant.consistent,
    moved.settled invariant.holds invariant.consistent invariant.settled,
    moved.keeps_woken invariant.woken⟩

/-- **What comes of the requests.** -/
structure ReleasedOnce (shard : Shard) : Prop where
  atMostOnce : ∀ sessionId, shard.disconnected.count sessionId ≤ 1
  onlyInserted : ∀ sessionId ∈ shard.disconnected, sessionId ∈ shard.inserted
  processed : ∀ request ∈ shard.processed, request.inserted = true →
    shard.disconnected.count request.sessionId = 1
  /-- A call that has pushed its request and not set the event yet is about to. -/
  noneLeft : shard.place = .waitForMultipleObjects → shard.event = false →
    shard.queueMutex ≠ .setEvent → shard.queue = []

/-- **Release requests are idempotent**, in every run of the shard: any number of calls of
`ReleaseSession`, with any ids, of `InsertSession`, and of drains and `EraseAllSession` by the
release thread. -/
theorem release_idempotent (reached : Reach step Unguarded initial shard) :
    ReleasedOnce shard := by
  obtain ⟨holds, consistent, settled, woken⟩ := invariant_reach reached
  have once : shard.disconnected.Nodup :=
    (List.nodup_append.mp (consistent.accounts.nodup_iff.mpr consistent.once)).2.1
  refine ⟨List.nodup_iff_count_le_one.mp once, fun sessionId member => ?_,
    fun request member inserted => ?_, fun waiting unset calls => ?_⟩
  · exact consistent.accounts.mem_iff.mp (List.mem_append_right _ member)
  · exact List.count_eq_one_of_mem once (settled.processed request member inserted)
  · by_contra pending
    rcases woken pending with drains | locks | set | held
    · simp [waiting, Place.drains] at drains
    · simp [waiting] at locks
    · exact Bool.false_ne_true (unset.symm.trans set)
    · exact calls held

/-- A session is inserted, and the release thread drains three requests, two of them for it. -/
def duplicates : List Event :=
  let request : SessionId → List Event := fun sessionId =>
    [.releaseSession sessionId, .caller, .caller, .caller]
  let drainOne : List Event := [.run .go, .run .go, .run .go]
  [.insertSession 1] ++ request 1 ++ request 1 ++ request 7 ++
    [.run .go, .run (.object 0), .run .go] ++
    [.run .go, .run .go, .run .go, .run .go, .run .go] ++ drainOne ++ drainOne ++
    [.run .go, .run .go]

theorem release_idempotent_duplicates :
    (run step initial duplicates).map (fun shard => (shard.disconnected, shard.processed)) =
      some ([1], [⟨1, true⟩, ⟨1, true⟩, ⟨7, false⟩]) ∧
    ∀ shard, run step initial duplicates = some shard → ReleasedOnce shard :=
  ⟨by decide, fun _ executed => release_idempotent (reach_of_run executed)⟩

end Invariants

end ActorModelServer.ReleaseQueue
