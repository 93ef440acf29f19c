/-
**Who owns a buffer.**

The operations on the buffers of a session (`SendPacket`, the completion of a send,
`OnDisconnected`) taken as wholes: a thread steps only while all others are at rest.
`OnDisconnected` comes when no `WSASend` is outstanding, and nothing is sent after it.

* `Holding` — what the one thread under way knows about the buffers, place by place. Where it is at
  rest again, what was enqueued is what was freed, then what is stored, then what waits.
* `buffers_owned` — a buffer is in exactly one of these, and is not freed while a `WSASend` that
  refers to it is outstanding; after `OnDisconnected` all are freed.
-/

import ActorModelServer.SessionIo.StrandedPacket

namespace ActorModelServer.SessionIo

open ThreadTable (threadStep_eq_some)
open StepRuns (Reach exists_reach_of_runGuarded)

universe u

section Wholes

variable {Buffer : Type u} {Io : Type}

/-- A place between two operations. -/
def Pc.atRest : Pc Buffer → Bool
  | .acceptIncrease | .acceptAssociate | .acceptInsert | .acceptDone | .ioWait | .logicIdle
  | .logicHandler | .releaseWait => true
  | _ => false

/-- `OnDisconnected` finds no `WSASend` outstanding; no packet is sent after it. -/
def Allowed (session : Session Buffer) : Pc Buffer → Choice Buffer → Prop
  | .closeSocket _, _ => session.sendOutstanding = 0
  | _, .sendPacket _ => session.socketOpen = true
  | _, _ => True

/-- The operations run as wholes. -/
def Whole (state : State Buffer Io) (label : Tid Io × Choice Buffer) : Prop :=
  (∀ other, other ≠ label.1 → (state.pc other).atRest = true) ∧
    Allowed state.shared (state.pc label.1) label.2

instance (session : Session Buffer) (pc : Pc Buffer) (choice : Choice Buffer) :
    Decidable (Allowed session pc choice) := by
  unfold Allowed
  split <;> infer_instance

instance [Fintype Io] [DecidableEq Io] (state : State Buffer Io)
    (label : Tid Io × Choice Buffer) : Decidable (Whole state label) :=
  inferInstanceAs (Decidable (_ ∧ _))

/-- `sendBufferStore[0 .. count)`. -/
def Session.storedTo (session : Session Buffer) (count : ℕ) : List Buffer :=
  (List.range count).filterMap session.sendBufferStore

/-- `sendBufferStore[index .. bufferCount)`. -/
def Session.storedFrom (session : Session Buffer) (index : ℕ) : List Buffer :=
  ((List.range session.bufferCount).drop index).filterMap session.sendBufferStore

/-- `sendBufferStore[0 .. bufferCount)`. -/
def Session.stored (session : Session Buffer) : List Buffer := session.storedTo session.bufferCount

/-- What the outstanding `WSASend` refers to. -/
def Session.referred (session : Session Buffer) : List Buffer :=
  if session.sendOutstanding = 0 then [] else session.posted.getLast?.getD []

end Wholes

section Ownership

variable {Buffer : Type u} {Io : Type} {session session' : Session Buffer} {pc pc' : Pc Buffer}

/-- The buffers between two operations. -/
structure Settled (session : Session Buffer) : Prop where
  placed : session.enqueued = session.freed ++ session.stored ++ session.sendQueue
  filled : session.stored.length = session.bufferCount
  idle : session.ioMode = .noneSending → session.bufferCount = 0 ∧ session.sendOutstanding = 0
  outstanding : session.sendOutstanding = 0 ∨
    session.sendOutstanding = 1 ∧ session.posted.getLast? = some session.stored
  closed : session.socketOpen = false → session.sendQueue = [] ∧ session.bufferCount = 0

/-- The buffers inside an operation that holds some of them. -/
structure Holds (session : Session Buffer) (held : List Buffer) : Prop where
  placed : session.enqueued = session.freed ++ held ++ session.sendQueue
  quiet : session.sendOutstanding = 0

/-- The buffers inside a send or the completion of one. -/
structure Sends (session : Session Buffer) (held : List Buffer) : Prop extends
    Holds session held where
  mode : session.ioMode = .sending
  closed : session.socketOpen = false → held = [] ∧ session.sendQueue = []

/-- A place at which no buffer is under way. -/
def Bare : Pc Buffer → Prop
  | .recvIncrease next | .wsaRecv next | .decrease next | .releaseSession next
  | .casAcquire .noneSending next | .doSendReturn next => Bare next
  | .ioFind .send _ | .freeSent _ | .storeNoneSending | .casAcquire .sending _ | .getRestSize _ _
  | .casRelease _ _ | .dequeue _ _ _ _ | .addBufferCount _ _ _ | .sendIncrease _ _ | .wsaSend _ _
  | .freeStored _ _ | .drainQueue _ => False
  | _ => True

/-- **What the thread under way knows** at each place. -/
def Holding (session : Session Buffer) : Pc Buffer → Prop
  | .ioFind .send _ =>
      Settled session ∧ session.ioMode = .sending ∧ session.sendOutstanding = 0
  | .freeSent index => Sends session (session.storedFrom index)
  | .storeNoneSending => Sends session [] ∧ session.bufferCount = 0
  | .casAcquire .sending next | .getRestSize _ next | .casRelease _ next =>
      Bare next ∧ Sends session [] ∧ session.bufferCount = 0
  | .dequeue index restSize buffers next =>
      Bare next ∧ Sends session buffers ∧ session.bufferCount = 0 ∧
        session.storedTo index = buffers ∧ buffers.length = index ∧ index ≤ restSize ∧
          restSize ≤ index + session.sendQueue.length
  | .addBufferCount restSize buffers next =>
      Bare next ∧ Sends session buffers ∧ session.bufferCount = 0 ∧
        session.storedTo restSize = buffers ∧ buffers.length = restSize
  | .sendIncrease buffers next | .wsaSend buffers next =>
      Bare next ∧ Sends session buffers ∧ session.stored = buffers ∧
        buffers.length = session.bufferCount
  | .freeStored _ index => Holds session (session.storedFrom index)
  | .drainQueue _ => Holds session [] ∧ session.bufferCount = 0
  | pc => Bare pc ∧ Settled session

theorem bare_of_atRest (rest : pc.atRest = true) : Bare pc := by
  cases pc <;> trivial

theorem holding_of_bare (bare : Bare pc) (settled : Settled session) : Holding session pc := by
  cases pc
  case ioFind kind result => cases kind <;> first | exact ⟨bare, settled⟩ | exact bare.elim
  case casAcquire expected next =>
    cases expected <;> first | exact ⟨bare, settled⟩ | exact bare.elim
  all_goals first | exact ⟨bare, settled⟩ | exact bare.elim

theorem settled_of_bare (bare : Bare pc) (holding : Holding session pc) : Settled session := by
  cases pc
  case ioFind kind result => cases kind <;> first | exact holding.2 | exact bare.elim
  case casAcquire expected next => cases expected <;> first | exact holding.2 | exact bare.elim
  all_goals first | exact holding.2 | exact bare.elim

/-- Without buffers under way only the fields of the buffers matter. -/
theorem Settled.congr (settled : Settled session)
    (same : (session'.enqueued, session'.freed, session'.posted, session'.sendQueue,
        session'.bufferCount, session'.sendBufferStore, session'.ioMode, session'.sendOutstanding,
        session'.socketOpen) =
      (session.enqueued, session.freed, session.posted, session.sendQueue, session.bufferCount,
        session.sendBufferStore, session.ioMode, session.sendOutstanding, session.socketOpen)) :
    Settled session' := by
  simp only [Prod.mk.injEq] at same
  obtain ⟨enqueued, freed, posted, queue, count, store, mode, outstanding, socket⟩ := same
  have stored : session'.stored = session.stored := by
    rw [Session.stored, Session.stored, Session.storedTo, Session.storedTo, count, store]
  refine ⟨?_, ?_, ?_, ?_, ?_⟩
  · rw [enqueued, freed, stored, queue]
    exact settled.placed
  · rw [stored, count]
    exact settled.filled
  · rw [mode, count, outstanding]
    exact settled.idle
  · rw [outstanding, posted, stored]
    exact settled.outstanding
  · rw [socket, queue, count]
    exact settled.closed

/-- The first stored buffer of what is left, and what is left behind it. -/
theorem storedFrom_eq {index : ℕ} (stored : index < session.bufferCount) :
    session.storedFrom index =
      (session.sendBufferStore index).toList ++ session.storedFrom (index + 1) := by
  have inside : index < (List.range session.bufferCount).length := by rwa [List.length_range]
  unfold Session.storedFrom
  rw [List.drop_eq_getElem_cons inside, List.getElem_range, List.filterMap_cons]
  cases session.sendBufferStore index <;> rfl

theorem storedFrom_eq_nil {index : ℕ} (last : session.bufferCount ≤ index) :
    session.storedFrom index = [] := by
  unfold Session.storedFrom
  rw [List.drop_eq_nil_of_le (by rwa [List.length_range]), List.filterMap_nil]

/-- `Dequeue` into the next slot. -/
theorem storedTo_dequeueInto {index : ℕ} {buffer : Buffer} {rest : List Buffer}
    (waiting : session.sendQueue = buffer :: rest) :
    (session.dequeueInto index).storedTo (index + 1) = session.storedTo index ++ [buffer] := by
  have earlier : (List.range index).filterMap
      (Function.update session.sendBufferStore index (some buffer)) =
        (List.range index).filterMap session.sendBufferStore := by
    apply List.filterMap_congr
    intro slot below
    have different : slot ≠ index := (List.mem_range.mp below).ne
    rw [Function.update_of_ne different]
  rw [Session.dequeueInto_eq, waiting]
  show (List.range (index + 1)).filterMap
    (Function.update session.sendBufferStore index (some buffer)) = _
  rw [List.range_succ, List.filterMap_append, earlier, List.filterMap_cons, Function.update_self]
  rfl

/-- A send is under way once the mode has been taken. -/
theorem Settled.sends (settled : Settled session) (idle : session.ioMode = .noneSending) :
    Sends { session with ioMode := .sending } [] ∧ session.bufferCount = 0 := by
  obtain ⟨empty, quiet⟩ := settled.idle idle
  have nothing : session.stored = [] := by
    rw [← List.length_eq_zero_iff, settled.filled, empty]
  refine ⟨⟨⟨?_, quiet⟩, rfl, fun shut => ⟨rfl, (settled.closed shut).1⟩⟩, empty⟩
  rw [← nothing]
  exact settled.placed

/-- Nothing is held, and nothing is stored: the mode may be given back. -/
theorem Sends.settled {mode : IoMode} (sends : Sends session []) (empty : session.bufferCount = 0) :
    Settled { session with ioMode := mode } := by
  obtain ⟨⟨placed, quiet⟩, -, closed⟩ := sends
  have nothing : ({ session with ioMode := mode } : Session Buffer).stored = [] := by
    show (List.range session.bufferCount).filterMap session.sendBufferStore = []
    rw [empty]
    rfl
  refine ⟨?_, ?_, fun _ => ⟨empty, quiet⟩, .inl quiet, fun shut => ⟨(closed shut).2, empty⟩⟩
  · rw [nothing]
    exact placed
  · rw [nothing, empty]
    rfl

/-- The queue has been emptied too. -/
theorem Holds.settled (holds : Holds session []) (empty : session.bufferCount = 0)
    (drained : session.sendQueue = []) : Settled session := by
  have nothing : session.stored = [] := by
    rw [Session.stored, empty]
    rfl
  refine ⟨?_, ?_, fun _ => ⟨empty, holds.quiet⟩, .inl holds.quiet, fun _ => ⟨drained, empty⟩⟩
  · rw [nothing]
    exact holds.placed
  · rw [nothing, empty]
    rfl

/-- What a send holds is stored: it may go on without the thread. -/
theorem Sends.closed_stored (sends : Sends session session.stored)
    (filled : session.stored.length = session.bufferCount) (shut : session.socketOpen = false) :
    session.sendQueue = [] ∧ session.bufferCount = 0 := by
  obtain ⟨nothing, empty⟩ := sends.closed shut
  refine ⟨empty, ?_⟩
  rw [← filled, nothing]
  rfl

/-- One stored buffer is freed. -/
theorem placed_freeStoredAt {index : ℕ} (stored : index < session.bufferCount)
    (placed : session.enqueued =
      session.freed ++ session.storedFrom index ++ session.sendQueue) :
    (session.freeStoredAt index).enqueued = (session.freeStoredAt index).freed ++
      (session.freeStoredAt index).storedFrom (index + 1) ++
        (session.freeStoredAt index).sendQueue := by
  show session.enqueued = session.freed ++ (session.sendBufferStore index).toList ++
    session.storedFrom (index + 1) ++ session.sendQueue
  rw [placed, storedFrom_eq stored, ← List.append_assoc session.freed]

/-- **One step of the thread under way.** -/
theorem holding_step {choice : Choice Buffer} (holding : Holding session pc)
    (moves : Moves session pc choice session' pc') (allowed : Allowed session pc choice) :
    Holding session' pc' := by
  cases moves
  case sendCompleted result outstanding =>
    obtain ⟨-, settled⟩ := holding
    obtain none | ⟨one, last⟩ := settled.outstanding
    · omega
    · have busy : session.ioMode = .sending := by
        cases mode : session.ioMode with
        | noneSending =>
            have := (settled.idle mode).2
            omega
        | sending => rfl
      have quiet : session.sendOutstanding - 1 = 0 := by omega
      refine ⟨⟨settled.placed, settled.filled, fun idle => ?_, .inl quiet, settled.closed⟩, busy,
        quiet⟩
      exact absurd (busy.symm.trans idle) (by decide)
  case foundNone kind result gone =>
    cases kind with
    | recv => exact holding
    | send => exact ⟨trivial, holding.1⟩
  case foundSend found =>
    obtain ⟨settled, busy, quiet⟩ := holding
    refine ⟨⟨settled.placed, quiet⟩, busy, fun shut => ?_⟩
    obtain ⟨empty, none⟩ := settled.closed shut
    exact ⟨storedFrom_eq_nil none.le, empty⟩
  case foundDone kind result found nothing =>
    cases kind with
    | recv => exact holding
    | send => exact ⟨trivial, holding.1⟩
  case sentFreed index stored =>
    obtain ⟨⟨placed, quiet⟩, busy, closed⟩ := holding
    refine ⟨⟨placed_freeStoredAt stored placed, quiet⟩, busy, fun shut => ?_⟩
    obtain ⟨nothing, empty⟩ := closed shut
    rw [storedFrom_eq stored, List.append_eq_nil_iff] at nothing
    exact ⟨nothing.2, empty⟩
  case sentCleared index last =>
    obtain ⟨⟨placed, quiet⟩, busy, closed⟩ := holding
    rw [storedFrom_eq_nil last] at placed
    exact ⟨⟨⟨placed, quiet⟩, busy, fun shut => ⟨rfl, (closed shut).2⟩⟩, rfl⟩
  case modeStored => exact ⟨trivial, holding.1.settled holding.2⟩
  case packetEnqueued buffer =>
    obtain ⟨-, settled⟩ := holding
    have sent : session.socketOpen = true := allowed
    refine ⟨trivial, ⟨?_, settled.filled, settled.idle, settled.outstanding, fun shut => ?_⟩⟩
    · show session.enqueued ++ [buffer] =
        session.freed ++ session.stored ++ (session.sendQueue ++ [buffer])
      rw [settled.placed, List.append_assoc _ session.sendQueue]
    · exact absurd (sent.symm.trans shut) (by decide)
  case disconnected =>
    rw [Session.disconnect_eq]
    exact ⟨trivial, holding.2.congr rfl⟩
  case acquired expected next same =>
    cases expected with
    | noneSending => exact ⟨holding.1, holding.2.sends same⟩
    | sending =>
        obtain ⟨bare, ⟨held, -, closed⟩, empty⟩ := holding
        exact ⟨bare, ⟨⟨held.placed, held.quiet⟩, rfl, closed⟩, empty⟩
  case acquireFailed expected next other =>
    cases expected with
    | noneSending => exact holding
    | sending => exact absurd holding.2.1.mode other
  case restEmpty expected next empty => exact holding
  case restFound expected next waiting =>
    obtain ⟨bare, sends, empty⟩ := holding
    refine ⟨bare, sends, empty, rfl, rfl, Nat.zero_le _, ?_⟩
    rw [Nat.zero_add]
    exact Nat.min_le_right _ _
  case modeReleased expected next same => exact ⟨holding.1, holding.2.1.settled holding.2.2⟩
  case releaseFailed expected next other =>
    have busy : session.ioMode = .sending := holding.2.1.mode
    rw [busy]
    exact holding
  case dequeued index restSize buffers next more =>
    obtain ⟨bare, sends, empty, stored, counted, -, enough⟩ := holding
    obtain ⟨buffer, rest, waiting⟩ : ∃ buffer rest, session.sendQueue = buffer :: rest := by
      apply List.exists_cons_of_length_pos
      omega
    have slot : (session.dequeueInto index).sendBufferStore index = some buffer := by
      rw [Session.dequeueInto_eq, waiting]
      exact Function.update_self _ _ _
    have later : (session.dequeueInto index).sendQueue = rest := by
      rw [Session.dequeueInto_eq, waiting]
      rfl
    rw [slot]
    refine ⟨bare, ⟨⟨?_, ?_⟩, ?_, fun shut => ?_⟩, ?_, ?_, ?_, more, ?_⟩
    · rw [later, Session.dequeueInto_eq]
      show session.enqueued = session.freed ++ (buffers ++ [buffer]) ++ rest
      rw [sends.placed, waiting]
      simp only [List.append_assoc, List.cons_append, List.nil_append]
    · rw [Session.dequeueInto_eq]
      exact sends.quiet
    · rw [Session.dequeueInto_eq]
      exact sends.mode
    · rw [Session.dequeueInto_eq] at shut
      have none := (sends.closed shut).2
      rw [waiting] at none
      cases none
    · rw [Session.dequeueInto_eq]
      exact empty
    · rw [storedTo_dequeueInto waiting, stored]
      rfl
    · rw [Option.toList_some, List.length_append, counted]
      rfl
    · rw [later]
      rw [waiting, List.length_cons] at enough
      omega
  case dequeueDone index restSize buffers next last =>
    obtain ⟨bare, sends, empty, stored, counted, below, -⟩ := holding
    have all : index = restSize := le_antisymm below last
    exact ⟨bare, sends, empty, all ▸ stored, all ▸ counted⟩
  case countAdded restSize buffers next =>
    obtain ⟨bare, ⟨held, mode, closed⟩, empty, stored, counted⟩ := holding
    have count : session.bufferCount + restSize = restSize := by rw [empty, Nat.zero_add]
    refine ⟨bare, ⟨⟨held.placed, held.quiet⟩, mode, closed⟩, ?_, ?_⟩
    · show session.storedTo (session.bufferCount + restSize) = buffers
      rw [count]
      exact stored
    · show buffers.length = session.bufferCount + restSize
      rw [count]
      exact counted
  case sendIncreased buffers next =>
    obtain ⟨bare, ⟨held, mode, closed⟩, stored, counted⟩ := holding
    exact ⟨bare, ⟨⟨held.placed, held.quiet⟩, mode, closed⟩, stored, counted⟩
  case sendPosted buffers next =>
    obtain ⟨bare, sends, stored, counted⟩ := holding
    subst stored
    refine ⟨bare, ⟨sends.placed, counted, fun idle => ?_, .inr ⟨?_, ?_⟩, ?_⟩⟩
    · exact absurd (sends.mode.symm.trans idle) (by decide)
    · show session.sendOutstanding + 1 = 1
      rw [sends.quiet]
    · exact List.getLast?_concat
    · exact sends.closed_stored counted
  case sendRefused buffers next =>
    obtain ⟨bare, sends, stored, counted⟩ := holding
    subst stored
    refine ⟨bare, ⟨sends.placed, counted, fun idle => ?_, .inl sends.quiet, ?_⟩⟩
    · exact absurd (sends.mode.symm.trans idle) (by decide)
    · exact sends.closed_stored counted
  case socketClosed sweep =>
    obtain ⟨-, settled⟩ := holding
    have quiet : session.sendOutstanding = 0 := allowed
    exact ⟨settled.placed, quiet⟩
  case storedFreed sweep index stored =>
    exact ⟨placed_freeStoredAt stored holding.placed, holding.quiet⟩
  case storedCleared sweep index last =>
    obtain ⟨placed, quiet⟩ := holding
    rw [storedFrom_eq_nil last] at placed
    exact ⟨⟨placed, quiet⟩, rfl⟩
  case queueDrained sweep buffer rest waiting =>
    obtain ⟨⟨placed, quiet⟩, empty⟩ := holding
    refine ⟨⟨?_, quiet⟩, empty⟩
    rw [placed, waiting]
    simp only [List.append_nil, List.append_assoc, List.cons_append, List.nil_append]
  case requestServed empty => exact ⟨trivial, (holding.1.settled holding.2 empty).congr rfl⟩
  case sweepEnded empty => exact ⟨trivial, (holding.1.settled holding.2 empty).congr rfl⟩
  all_goals try exact ⟨holding.1, holding.2.congr rfl⟩
  all_goals exact holding_of_bare holding.1 (holding.2.congr rfl)

/-- One thread is under way at most, and knows about the buffers. -/
def UnderWay (state : State Buffer Io) : Prop :=
  ∃ thread, (∀ other, other ≠ thread → (state.pc other).atRest = true) ∧
    Holding state.shared (state.pc thread)

variable [DecidableEq Io]

theorem underWay_step {before after : State Buffer Io} {label : Tid Io × Choice Buffer}
    (underWay : UnderWay before) (whole : Whole before label)
    (taken : step before label = some after) : UnderWay after := by
  obtain ⟨session, next, acted, rfl⟩ := threadStep_eq_some.mp taken
  obtain ⟨thread, others, holding⟩ := underWay
  obtain ⟨alone, allowed⟩ := whole
  have own : Holding before.shared (before.pc label.1) := by
    by_cases same : thread = label.1
    · exact same ▸ holding
    · -- the thread that was under way is at rest, and so is the one that begins
      have settled := settled_of_bare (bare_of_atRest (alone thread same)) holding
      exact holding_of_bare (bare_of_atRest (others label.1 (Ne.symm same))) settled
  refine ⟨label.1, fun other different => ?_, ?_⟩
  · show (Function.update before.pc label.1 next other).atRest = true
    rw [Function.update_of_ne different]
    exact alone other different
  · show Holding session (Function.update before.pc label.1 next label.1)
    rw [Function.update_self]
    exact holding_step own (act_moves acted) allowed

theorem underWay_of_reach {state : State Buffer Io}
    (reached : Reach step Whole (initial Buffer Io) state) : UnderWay state := by
  apply reached.invariant UnderWay
  · refine ⟨.accept, fun other _ => ?_, trivial, rfl, rfl, fun _ => ⟨rfl, rfl⟩, .inl rfl, nofun⟩
    cases other <;> rfl
  · exact fun before label after underWay whole taken => underWay_step underWay whole taken

/-- Between operations and inside them. -/
theorem settled_or_holds (holding : Holding session pc) :
    Settled session ∨ ∃ held, Holds session held := by
  cases pc
  case ioFind kind result => cases kind <;> first | exact .inl holding.1 | exact .inl holding.2
  case casAcquire expected next =>
    cases expected with
    | noneSending => exact .inl holding.2
    | sending => exact .inr ⟨_, holding.2.1.toHolds⟩
  case freeSent index => exact .inr ⟨_, holding.toHolds⟩
  case storeNoneSending => exact .inr ⟨_, holding.1.toHolds⟩
  case getRestSize | casRelease | dequeue | addBufferCount | sendIncrease | wsaSend =>
    exact .inr ⟨_, holding.2.1.toHolds⟩
  case freeStored sweep index => exact .inr ⟨_, holding⟩
  case drainQueue sweep => exact .inr ⟨_, holding.1⟩
  all_goals exact .inl holding.2

/-- An outstanding `WSASend` refers to what is stored. -/
theorem Settled.referred (settled : Settled session) :
    session.sendOutstanding = 0 ∧ session.referred = [] ∨
      session.sendOutstanding = 1 ∧ session.referred = session.stored := by
  unfold Session.referred
  rcases settled.outstanding with none | ⟨one, last⟩
  · exact .inl ⟨none, if_pos none⟩
  · refine .inr ⟨one, ?_⟩
    rw [if_neg (by omega), last]
    rfl

/-- What an outstanding `WSASend` refers to comes behind what is freed. -/
theorem referred_behind_freed (holding : Holding session pc) :
    session.freed ++ session.referred <+: session.enqueued := by
  rcases settled_or_holds holding with settled | ⟨held, placed, quiet⟩
  · rw [settled.placed, List.append_assoc]
    apply List.prefix_append_right_inj _ |>.mpr
    rcases settled.referred with ⟨-, nothing⟩ | ⟨-, stored⟩
    · rw [nothing]
      exact List.nil_prefix
    · rw [stored]
      exact List.prefix_append _ _
  · rw [placed, Session.referred, if_pos quiet, List.append_nil, List.append_assoc]
    exact List.prefix_append _ _

end Ownership

section Results

variable {Buffer : Type u} {Io : Type} [DecidableEq Io] {state : State Buffer Io}

/-- The buffers of a session between two operations. -/
structure Owned (session : Session Buffer) : Prop where
  /-- Every buffer enqueued has been freed, is stored, or waits. -/
  placed : session.enqueued = session.freed ++ session.stored ++ session.sendQueue
  filled : session.stored.length = session.bufferCount
  /-- Different buffers are in exactly one of the three, once. -/
  once : session.enqueued.Nodup → (session.freed ++ session.stored ++ session.sendQueue).Nodup
  /-- The one `WSASend` there may be refers to what is stored. -/
  outstanding : session.sendOutstanding = 0 ∨
    session.sendOutstanding = 1 ∧ session.referred = session.stored
  /-- After `OnDisconnected` all are freed. -/
  disconnected : session.socketOpen = false → session.freed = session.enqueued

/-- **Buffer ownership.** At every step what is freed and what an outstanding `WSASend` refers to
are different buffers of those enqueued; between operations every buffer has one owner. -/
theorem buffers_owned (reached : Reach step Whole (initial Buffer Io) state) :
    state.shared.freed ++ state.shared.referred <+: state.shared.enqueued ∧
      ((∀ thread, (state.pc thread).atRest = true) → Owned state.shared) := by
  obtain ⟨thread, -, holding⟩ := underWay_of_reach reached
  refine ⟨referred_behind_freed holding, fun rest => ?_⟩
  have settled := settled_of_bare (bare_of_atRest (rest thread)) holding
  refine ⟨settled.placed, settled.filled, fun different => ?_, ?_, fun shut => ?_⟩
  · rwa [← settled.placed]
  · exact settled.referred.imp And.left id
  · obtain ⟨drained, empty⟩ := settled.closed shut
    have nothing : state.shared.stored = [] := by
      rw [← List.length_eq_zero_iff, settled.filled, empty]
    rw [settled.placed, nothing, drained, List.append_nil, List.append_nil]

/-- Two packets: the first is sent, the second is refused and stays stored until the sweep. -/
def sweptSchedule : List (Tid Unit × Choice ℕ) :=
  List.flatten [setupSchedule, [(.logic, .beginFrame), (.logic, .sendPacket 1)], goes .logic 6,
    [(.logic, .accepted), (.logic, .go), (.logic, .sendPacket 2)], goes .logic 2,
    [(.logic, .endFrame), (.io (), .completion .send .transferred)], goes (.io ()) 11,
    [(.io (), .refused)], goes (.io ()) 2, [(.release, .stopEvent)], goes .release 4]

theorem buffers_owned_swept :
    ∃ state, Reach step Whole (initial ℕ Unit) state ∧ state.shared.enqueued = [1, 2] ∧
      state.shared.freed = [1, 2] ∧ Owned state.shared := by
  obtain ⟨state, reached, test⟩ := exists_reach_of_runGuarded step Whole (initial ℕ Unit)
    sweptSchedule (fun state => decide (state.shared.enqueued = [1, 2] ∧
      state.shared.socketOpen = false ∧ ∀ thread, (state.pc thread).atRest = true))
    (by decide +kernel)
  obtain ⟨enqueued, shut, rest⟩ := of_decide_eq_true test
  have owned := (buffers_owned reached).2 rest
  exact ⟨state, reached, enqueued, (owned.disconnected shut).trans enqueued, owned⟩

end Results

end ActorModelServer.SessionIo
