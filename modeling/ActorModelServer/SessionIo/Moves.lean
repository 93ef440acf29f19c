/-
**Everything a step of a session's threads can do.**

`Moves` names the branches of `act`, one constructor each, with the test that leads into the branch
as its hypothesis. `act_moves` is the inversion every invariant below is proved by: a proof about
one step is a case analysis on `Moves`. `Pc.weigh` adds a weight along a place and the places it
returns to; the invariants below are accountings over such weights.
-/

import ActorModelServer.SessionIo.Machine

namespace ActorModelServer.SessionIo

universe u

section Moves

variable {Buffer : Type u}

/-- The branches of `act`. -/
inductive Moves (session : Session Buffer) :
    Pc Buffer → Choice Buffer → Session Buffer → Pc Buffer → Prop
  | setupIncreased : Moves session .acceptIncrease .go session.increaseIOCount .acceptAssociate
  | associated : Moves session .acceptAssociate .accepted session .acceptInsert
  | associateRefused : Moves session .acceptAssociate .refused session (.decrease .acceptDone)
  | inserted (unlocked : session.mapLock = .unlocked) :
      Moves session .acceptInsert .go { session with registered := true }
        (.recvIncrease (.decrease .acceptDone))
  | recvCompleted (result : IoResult) (outstanding : 0 < session.recvOutstanding) :
      Moves session .ioWait (.completion .recv result)
        { session with recvOutstanding := session.recvOutstanding - 1 } (.ioFind .recv result)
  | sendCompleted (result : IoResult) (outstanding : 0 < session.sendOutstanding) :
      Moves session .ioWait (.completion .send result)
        { session with sendOutstanding := session.sendOutstanding - 1 } (.ioFind .send result)
  | foundNone (kind : IoKind) (result : IoResult) (gone : session.registered = false) :
      Moves session (.ioFind kind result) .go session .ioWait
  | foundRecv (found : session.registered = true) :
      Moves session (.ioFind .recv .transferred) .go session .ioRecv
  | foundSend (found : session.registered = true) :
      Moves session (.ioFind .send .transferred) .go session (.freeSent 0)
  | foundDone (kind : IoKind) (result : IoResult) (found : session.registered = true)
      (nothing : result ≠ .transferred) :
      Moves session (.ioFind kind result) .go session (.decrease .ioWait)
  | framesRead : Moves session .ioRecv .go session (.recvIncrease (.decrease .ioWait))
  | frameMalformed : Moves session .ioRecv .malformed session (.decrease .ioWait)
  | sentFreed (index : ℕ) (stored : index < session.bufferCount) :
      Moves session (.freeSent index) .go (session.freeStoredAt index) (.freeSent (index + 1))
  | sentCleared (index : ℕ) (last : session.bufferCount ≤ index) :
      Moves session (.freeSent index) .go { session with bufferCount := 0 } .storeNoneSending
  | modeStored :
      Moves session .storeNoneSending .go { session with ioMode := .noneSending }
        (.decrease (.casAcquire .noneSending .ioWait))
  | recvIncreased (next : Pc Buffer) :
      Moves session (.recvIncrease next) .go session.increaseIOCount (.wsaRecv next)
  | recvPosted (next : Pc Buffer) :
      Moves session (.wsaRecv next) .accepted
        { session with recvOutstanding := session.recvOutstanding + 1 } next
  | recvRefused (next : Pc Buffer) :
      Moves session (.wsaRecv next) .refused session (.decrease next)
  | decreasedLast (next : Pc Buffer) (last : session.ioCount = 1) :
      Moves session (.decrease next) .go session.decreaseIOCount (.releaseSession next)
  | decreased (next : Pc Buffer) (others : session.ioCount ≠ 1) :
      Moves session (.decrease next) .go session.decreaseIOCount next
  | released (next : Pc Buffer) :
      Moves session (.releaseSession next) .go session.releaseSession next
  | frameBegun (unlocked : session.mapLock = .unlocked) (registered : session.registered = true) :
      Moves session .logicIdle .beginFrame { session with mapLock := .frame } .logicHandler
  | packetEnqueued (buffer : Buffer) :
      Moves session .logicHandler (.sendPacket buffer)
        { session with
          sendQueue := session.sendQueue ++ [buffer]
          enqueued := session.enqueued ++ [buffer] } (.casAcquire .noneSending .logicHandler)
  | disconnected : Moves session .logicHandler .disconnect session.disconnect .logicHandler
  | frameEnded :
      Moves session .logicHandler .endFrame { session with mapLock := .unlocked } .logicIdle
  | acquired (expected : IoMode) (next : Pc Buffer) (same : session.ioMode = expected) :
      Moves session (.casAcquire expected next) .go { session with ioMode := .sending }
        (.getRestSize expected next)
  | acquireFailed (expected : IoMode) (next : Pc Buffer) (other : session.ioMode ≠ expected) :
      Moves session (.casAcquire expected next) .go session (.doSendReturn next)
  | restEmpty (expected : IoMode) (next : Pc Buffer) (empty : session.sendQueue = []) :
      Moves session (.getRestSize expected next) .go session (.casRelease expected next)
  | restFound (expected : IoMode) (next : Pc Buffer) (waiting : session.sendQueue ≠ []) :
      Moves session (.getRestSize expected next) .go session
        (.dequeue 0 (min oneSendWsabufMax session.sendQueue.length) [] next)
  | modeReleased (expected : IoMode) (next : Pc Buffer) (same : session.ioMode = expected) :
      Moves session (.casRelease expected next) .go { session with ioMode := .noneSending }
        (.doSendReturn next)
  | releaseFailed (expected : IoMode) (next : Pc Buffer) (other : session.ioMode ≠ expected) :
      Moves session (.casRelease expected next) .go session (.casAcquire session.ioMode next)
  | dequeued (index restSize : ℕ) (buffers : List Buffer) (next : Pc Buffer)
      (more : index < restSize) :
      Moves session (.dequeue index restSize buffers next) .go (session.dequeueInto index)
        (.dequeue (index + 1) restSize
          (buffers ++ ((session.dequeueInto index).sendBufferStore index).toList) next)
  | dequeueDone (index restSize : ℕ) (buffers : List Buffer) (next : Pc Buffer)
      (last : restSize ≤ index) :
      Moves session (.dequeue index restSize buffers next) .go session
        (.addBufferCount restSize buffers next)
  | countAdded (restSize : ℕ) (buffers : List Buffer) (next : Pc Buffer) :
      Moves session (.addBufferCount restSize buffers next) .go
        { session with bufferCount := session.bufferCount + restSize } (.sendIncrease buffers next)
  | sendIncreased (buffers : List Buffer) (next : Pc Buffer) :
      Moves session (.sendIncrease buffers next) .go session.increaseIOCount (.wsaSend buffers next)
  | sendPosted (buffers : List Buffer) (next : Pc Buffer) :
      Moves session (.wsaSend buffers next) .accepted
        { session with
          sendOutstanding := session.sendOutstanding + 1
          posted := session.posted ++ [buffers] } (.doSendReturn next)
  | sendRefused (buffers : List Buffer) (next : Pc Buffer) :
      Moves session (.wsaSend buffers next) .refused session (.decrease (.doSendReturn next))
  | returned (next : Pc Buffer) : Moves session (.doSendReturn next) .go session next
  | requestFound (asked : 0 < session.releaseRequests) (found : session.registered = true) :
      Moves session .releaseWait .request session .eraseSession
  | requestStale (asked : 0 < session.releaseRequests) (gone : session.registered = false) :
      Moves session .releaseWait .request session .popRequest
  | erased (unlocked : session.mapLock = .unlocked) :
      Moves session .eraseSession .go { session with registered := false } (.closeSocket false)
  | sweepBegun (unlocked : session.mapLock = .unlocked) (registered : session.registered = true) :
      Moves session .releaseWait .stopEvent { session with mapLock := .sweep } (.closeSocket true)
  | socketClosed (sweep : Bool) :
      Moves session (.closeSocket sweep) .go { session with socketOpen := false }
        (.freeStored sweep 0)
  | storedFreed (sweep : Bool) (index : ℕ) (stored : index < session.bufferCount) :
      Moves session (.freeStored sweep index) .go (session.freeStoredAt index)
        (.freeStored sweep (index + 1))
  | storedCleared (sweep : Bool) (index : ℕ) (last : session.bufferCount ≤ index) :
      Moves session (.freeStored sweep index) .go { session with bufferCount := 0 }
        (.drainQueue sweep)
  | queueDrained (sweep : Bool) (buffer : Buffer) (rest : List Buffer)
      (waiting : session.sendQueue = buffer :: rest) :
      Moves session (.drainQueue sweep) .go
        { session with sendQueue := rest, freed := session.freed ++ [buffer] } (.drainQueue sweep)
  | requestServed (empty : session.sendQueue = []) :
      Moves session (.drainQueue false) .go session .popRequest
  | sweepEnded (empty : session.sendQueue = []) :
      Moves session (.drainQueue true) .go
        { session with registered := false, mapLock := .unlocked } .releaseWait
  | requestPopped :
      Moves session .popRequest .go
        { session with releaseRequests := session.releaseRequests - 1 } .releaseWait

/-- **Inversion of a step**: it is one of the branches. -/
theorem act_moves {session session' : Session Buffer} {pc pc' : Pc Buffer} {choice : Choice Buffer}
    (acted : act session pc choice = some (session', pc')) :
    Moves session pc choice session' pc' := by
  revert acted
  fun_cases act session pc choice
  case case14 kind result _ found notRecv notSend =>
    intro acted
    cases acted
    refine .foundDone kind result (Bool.eq_true_of_not_eq_false found) fun transferred => ?_
    cases kind
    · exact notRecv transferred rfl
    · exact notSend transferred rfl
  case case23 next =>
    intro acted
    cases acted
    split
    · exact .decreasedLast next ‹_›
    · exact .decreased next ‹_›
  case case25 open' =>
    intro acted
    cases acted
    exact .frameBegun open'.1 open'.2
  case case43 asked =>
    intro acted
    cases acted
    split
    · exact .requestFound asked.1 ‹_›
    · exact .requestStale asked.1 (Bool.eq_false_of_not_eq_true ‹_›)
  case case47 open' =>
    intro acted
    cases acted
    exact .sweepBegun open'.1 open'.2
  all_goals intro acted
  all_goals simp only [Option.some.injEq, Prod.mk.injEq, reduceCtorEq] at acted
  all_goals obtain ⟨rfl, rfl⟩ := acted
  all_goals try simp only [not_lt, List.length_eq_zero_iff, Bool.not_eq_false] at *
  all_goals constructor <;> first | rfl | assumption

/-! ### Weights along a call -/

/-- The weight of a place together with the places it returns to. -/
def Pc.weigh (own : Pc Buffer → ℕ) : Pc Buffer → ℕ
  | .recvIncrease next => own (.recvIncrease next) + weigh own next
  | .wsaRecv next => own (.wsaRecv next) + weigh own next
  | .decrease next => own (.decrease next) + weigh own next
  | .releaseSession next => own (.releaseSession next) + weigh own next
  | .casAcquire expected next => own (.casAcquire expected next) + weigh own next
  | .getRestSize expected next => own (.getRestSize expected next) + weigh own next
  | .casRelease expected next => own (.casRelease expected next) + weigh own next
  | .dequeue index restSize buffers next =>
      own (.dequeue index restSize buffers next) + weigh own next
  | .addBufferCount restSize buffers next =>
      own (.addBufferCount restSize buffers next) + weigh own next
  | .sendIncrease buffers next => own (.sendIncrease buffers next) + weigh own next
  | .wsaSend buffers next => own (.wsaSend buffers next) + weigh own next
  | .doSendReturn next => own (.doSendReturn next) + weigh own next
  | pc => own pc

/-- The place itself weighs at most as much as the whole call. -/
theorem Pc.own_le_weigh (own : Pc Buffer → ℕ) (pc : Pc Buffer) : own pc ≤ pc.weigh own := by
  cases pc <;> simp [weigh]

theorem Pc.weigh_mono {less more : Pc Buffer → ℕ} (below : ∀ pc, less pc ≤ more pc)
    (pc : Pc Buffer) : pc.weigh less ≤ pc.weigh more := by
  induction pc with
  | recvIncrease next ih | wsaRecv next ih | decrease next ih | releaseSession next ih
  | casAcquire expected next ih | getRestSize expected next ih | casRelease expected next ih
  | dequeue index restSize buffers next ih | addBufferCount restSize buffers next ih
  | sendIncrease buffers next ih | wsaSend buffers next ih | doSendReturn next ih =>
      exact Nat.add_le_add (below _) ih
  | _ => exact below _

/-- At the start no thread is inside a call. -/
theorem tally_weigh_initialPc {Io : Type} [Fintype Io] (own : Pc Buffer → ℕ)
    (accept : own .acceptIncrease = 0) (logic : own .logicIdle = 0) (release : own .releaseWait = 0)
    (io : own .ioWait = 0) :
    ThreadTable.tally (Pc.weigh own) (initialPc : Tid Io → Pc Buffer) = 0 :=
  ThreadTable.tally_eq_zero.mpr fun thread => by
    cases thread <;> assumption

end Moves

end ActorModelServer.SessionIo
