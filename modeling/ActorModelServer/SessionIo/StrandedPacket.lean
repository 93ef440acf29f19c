/-
**Who owns `ioMode`, and when a packet is left behind.**

`ioMode` is `IO_SENDING` while somebody is responsible for the send queue: a thread inside the
compare-exchange loop of `DoSend`, a `WSASend` in flight, or a completion handler that has not
stored `IO_NONE_SENDING` yet (`ownsSend_le`, an accounting over all threads).

The loop gives `ioMode` back after it has seen the queue empty. A packet enqueued between that look
and the releasing compare-exchange finds `ioMode` taken, and its own `DoSend` returns; the release
then leaves it behind. `ReleaseSeesPackets` says of a step that it is not such a release. In every
run whose steps all meet it, a packet that waits while `ioMode` is `IO_NONE_SENDING` has a thread
on its way to the compare-exchange (`Served`), so nothing is left behind when the threads are out
of these functions (`sendQueue_empty_of_quiescent`). A release that does not meet it leaves its
packets to nobody (`release_strands`).
-/

import ActorModelServer.SessionIo.Moves

namespace ActorModelServer.SessionIo

open ThreadTable (tally threadStep_eq_some exists_update)
open StepRuns (Reach exists_reach_of_runGuarded)

universe u

section StrandedPacket

variable {Buffer : Type u} {Io : Type} [DecidableEq Io]

/-! ### The owner of `ioMode` -/

/-- A place of the owner of `ioMode`: the thread that set it to `IO_SENDING`, or that handles the
completion of the send that did. -/
def ownsSendAt : Pc Buffer → ℕ
  | .ioFind .send .transferred => 1
  | .freeSent _ => 1
  | .storeNoneSending => 1
  | .casAcquire .sending _ => 1
  | .getRestSize _ _ => 1
  | .casRelease _ _ => 1
  | .dequeue _ _ _ _ => 1
  | .addBufferCount _ _ _ => 1
  | .sendIncrease _ _ => 1
  | .wsaSend _ _ => 1
  | _ => 0

/-- How often the thread owns `ioMode`. -/
def ownsSend : Pc Buffer → ℕ := Pc.weigh ownsSendAt

/-- One unit when `ioMode` is taken, less the sends in flight. -/
def sendBalance (session : Session Buffer) : ℤ :=
  (if session.ioMode = .sending then 1 else 0) - session.sendOutstanding

/-- A compare-exchange thread owns `ioMode` exactly when it expects `IO_SENDING`. -/
theorem ownsSend_casAcquire (mode : IoMode) (next : Pc Buffer) :
    ownsSend (.casAcquire mode next) = (if mode = .sending then 1 else 0) + ownsSend next := by
  cases mode
  · simp [ownsSend, Pc.weigh, ownsSendAt]
  · simp [ownsSend, Pc.weigh, ownsSendAt]

theorem ownsSend_ioFind_le (kind : IoKind) (result : IoResult) :
    ownsSend (.ioFind kind result : Pc Buffer) ≤ 1 := by
  cases kind <;> cases result <;> simp [ownsSend, Pc.weigh, ownsSendAt]

/-- **One step keeps the ownership.** No thread gains more of it than `ioMode` grants. -/
theorem ownsSend_step {session session' : Session Buffer} {pc pc' : Pc Buffer}
    {choice : Choice Buffer} (moved : Moves session pc choice session' pc') :
    sendBalance session + ownsSend pc' ≤ sendBalance session' + ownsSend pc := by
  cases moved with
  | sendCompleted result outstanding =>
      have one : ownsSend (.ioFind .send result : Pc Buffer) ≤ 1 := ownsSend_ioFind_le .send result
      have zero : ownsSend (.ioWait : Pc Buffer) = 0 := rfl
      simp only [sendBalance, zero]
      omega
  | modeStored =>
      simp only [sendBalance, ownsSend, Pc.weigh, ownsSendAt, reduceCtorEq, if_false]
      split <;> omega
  | acquired expected next same =>
      rw [ownsSend_casAcquire]
      simp only [sendBalance, ownsSend, Pc.weigh, ownsSendAt, same, if_true]
      push_cast
      split <;> omega
  | acquireFailed expected next other =>
      rw [ownsSend_casAcquire]
      simp only [sendBalance, ownsSend, Pc.weigh, ownsSendAt]
      omega
  | modeReleased expected next same =>
      simp only [sendBalance, ownsSend, Pc.weigh, ownsSendAt, reduceCtorEq, if_false]
      split <;> omega
  | releaseFailed expected next other =>
      rw [ownsSend_casAcquire]
      simp only [sendBalance, ownsSend, Pc.weigh, ownsSendAt]
      split <;> omega
  | foundDone kind result found nothing => simp only [ownsSend, Pc.weigh, ownsSendAt]; omega
  | foundNone kind result gone => simp only [ownsSend, Pc.weigh, ownsSendAt]; omega
  | _ =>
      simp [sendBalance, ownsSend, Pc.weigh, ownsSendAt, Session.dequeueInto_eq,
        Session.disconnect_eq] <;> omega

/-- **`ioMode` has at most one owner**: the threads that own it and the sends in flight are
together at most one, and none when it is `IO_NONE_SENDING`. -/
theorem ownsSend_le [Fintype Io] {guard : State Buffer Io → Tid Io × Choice Buffer → Prop}
    {state : State Buffer Io} (reached : Reach step guard (initial Buffer Io) state) :
    (tally ownsSend state.pc : ℤ) ≤ sendBalance state.shared := by
  refine reached.invariant (fun state => (tally ownsSend state.pc : ℤ) ≤
    sendBalance state.shared) ?_ ?_
  · have none : tally ownsSend (initialPc : Tid Io → Pc Buffer) = 0 :=
      tally_weigh_initialPc ownsSendAt rfl rfl rfl rfl
    simp [initial, none, sendBalance, initialSession]
  · intro before label after bounded _ taken
    obtain ⟨session', pc', acted, rfl⟩ := threadStep_eq_some.mp taken
    exact ThreadTable.tally_le_step _ _ bounded (ownsSend_step (act_moves acted))

/-! ### The thread that picks a waiting packet up -/

/-- The thread is on its way to `DoSend`'s first compare-exchange, the one that expects
`IO_NONE_SENDING`. -/
def willAcquire : Pc Buffer → Bool
  | .casAcquire .noneSending _ => true
  | .decrease next => willAcquire next
  | .releaseSession next => willAcquire next
  | .recvIncrease next => willAcquire next
  | .wsaRecv next => willAcquire next
  | _ => false

/-- The thread is inside `SendPacket`, `OnSendIoCompleted` or `DoSend`. -/
def insideSend : Pc Buffer → Bool
  | .freeSent _ => true
  | .storeNoneSending => true
  | .casAcquire _ _ => true
  | .getRestSize _ _ => true
  | .casRelease _ _ => true
  | .dequeue _ _ _ _ => true
  | .addBufferCount _ _ _ => true
  | .sendIncrease _ _ => true
  | .wsaSend _ _ => true
  | .doSendReturn _ => true
  | .decrease next => insideSend next
  | .releaseSession next => insideSend next
  | .recvIncrease next => insideSend next
  | .wsaRecv next => insideSend next
  | _ => false

theorem insideSend_of_willAcquire {pc : Pc Buffer} (coming : willAcquire pc = true) :
    insideSend pc = true := by
  induction pc with
  | decrease next ih => exact ih coming
  | releaseSession next ih => exact ih coming
  | recvIncrease next ih => exact ih coming
  | wsaRecv next ih => exact ih coming
  | casAcquire expected next _ => rfl
  | _ => cases coming

/-- The compare-exchange by which `DoSend` gives `ioMode` back, about to succeed. -/
def givesBack (session : Session Buffer) : Pc Buffer → Bool
  | .casRelease expected _ => decide (session.ioMode = expected)
  | _ => false

/-- The thread is about to call `WSASend`. -/
def posts : Pc Buffer → Bool
  | .wsaSend _ _ => true
  | _ => false

/-- **The condition on a step.** Whenever `DoSend` gives `ioMode` back, the queue is empty, or
another thread has its own first compare-exchange still ahead. -/
def ReleaseSeesPackets (state : State Buffer Io) (label : Tid Io × Choice Buffer) : Prop :=
  givesBack state.shared (state.pc label.1) = true →
    state.shared.sendQueue.isEmpty = true ∨
      ∃ other, other ≠ label.1 ∧ willAcquire (state.pc other) = true

instance [Fintype Io] (state : State Buffer Io) (label : Tid Io × Choice Buffer) :
    Decidable (ReleaseSeesPackets state label) :=
  inferInstanceAs (Decidable (_ → _))

/-- No thread is inside the send functions. -/
def Quiescent (state : State Buffer Io) : Prop := ∀ thread, insideSend (state.pc thread) = false

instance [Fintype Io] (state : State Buffer Io) : Decidable (Quiescent state) :=
  inferInstanceAs (Decidable (∀ _, _))

/-- A packet that waits while nobody sends has a thread coming for it. -/
def Served (state : State Buffer Io) : Prop :=
  state.shared.ioMode = .noneSending → state.shared.sendQueue ≠ [] →
    ∃ thread, willAcquire (state.pc thread) = true

/-- Where a packet waits after a move and nobody sends, the mover is coming for it, or it gave
`ioMode` back, or the packet waited before and the mover was not the one coming. -/
theorem willAcquire_move {session session' : Session Buffer} {pc pc' : Pc Buffer}
    {choice : Choice Buffer} (moved : Moves session pc choice session' pc')
    (idle : session'.ioMode = .noneSending) (waiting : session'.sendQueue ≠ []) :
    willAcquire pc' = true ∨ givesBack session pc = true ∧ session'.sendQueue = session.sendQueue ∨
      willAcquire pc = false ∧ session.ioMode = .noneSending ∧ session.sendQueue ≠ [] := by
  have stays (same : willAcquire pc' = willAcquire pc) (before : session.ioMode = .noneSending)
      (had : session.sendQueue ≠ []) : willAcquire pc' = true ∨
        givesBack session pc = true ∧ session'.sendQueue = session.sendQueue ∨
        willAcquire pc = false ∧ session.ioMode = .noneSending ∧ session.sendQueue ≠ [] := by
    cases coming : willAcquire pc with
    | true => exact .inl (same.trans coming)
    | false => exact .inr (.inr ⟨rfl, before, had⟩)
  cases moved with
  | modeStored => exact .inl rfl
  | packetEnqueued buffer => exact .inl rfl
  | modeReleased expected next same => exact .inr (.inl ⟨decide_eq_true same, rfl⟩)
  | acquired expected next same => cases idle
  | acquireFailed expected next other =>
      -- only the compare-exchange that expects `IO_SENDING` fails against `IO_NONE_SENDING`
      cases expected with
      | noneSending => exact absurd idle other
      | sending => exact .inr (.inr ⟨rfl, idle, waiting⟩)
  | releaseFailed expected next other =>
      rw [show session.ioMode = .noneSending from idle]
      exact .inl rfl
  | decreasedLast => exact stays rfl idle waiting
  | decreased => exact stays rfl idle waiting
  | released => exact stays rfl idle waiting
  | recvIncreased => exact stays rfl idle waiting
  | recvPosted => exact stays rfl idle waiting
  | recvRefused => exact stays rfl idle waiting
  | disconnected =>
      rw [Session.disconnect_eq] at idle waiting
      exact .inr (.inr ⟨rfl, idle, waiting⟩)
  | dequeued index restSize buffers next more =>
      rw [Session.dequeueInto_eq] at idle waiting
      refine .inr (.inr ⟨rfl, idle, fun empty => waiting ?_⟩)
      simp only [empty, List.tail_nil]
  | queueDrained sweep buffer rest full =>
      refine .inr (.inr ⟨rfl, idle, ?_⟩)
      rw [full]
      exact List.cons_ne_nil _ _
  | _ => exact .inr (.inr ⟨rfl, idle, waiting⟩)

/-- **One step keeps the waiting packets served.** -/
theorem Served.step {state after : State Buffer Io} {label : Tid Io × Choice Buffer}
    (served : Served state) (allowed : ReleaseSeesPackets state label)
    (taken : SessionIo.step state label = some after) : Served after := by
  obtain ⟨session', pc', acted, rfl⟩ := threadStep_eq_some.mp taken
  intro idle waiting
  refine (exists_update (fun pc => willAcquire pc = true)).mpr ?_
  rcases willAcquire_move (act_moves acted) idle waiting with coming | ⟨gives, same⟩ |
    ⟨mover, idleBefore, waitingBefore⟩
  · exact .inl coming
  · rcases allowed gives with empty | other
    · exact absurd (same.trans (List.isEmpty_iff.mp empty)) waiting
    · exact .inr other
  · obtain ⟨other, coming⟩ := served idleBefore waitingBefore
    refine .inr ⟨other, ?_, coming⟩
    rintro rfl
    rw [mover] at coming
    cases coming

/-- **A run keeps the waiting packets served**, when each of its releases sees them. -/
theorem served_of_reach {state : State Buffer Io}
    (reached : Reach step ReleaseSeesPackets (initial Buffer Io) state) : Served state :=
  reached.invariant Served (fun _ waiting => absurd rfl waiting)
    fun _ _ _ served allowed taken => served.step allowed taken

/-- **No stranded packet**, in a run whose releases see the packets: when no thread is inside the
send functions and nobody owns `ioMode`, the queue is empty. -/
theorem sendQueue_empty_of_quiescent {state : State Buffer Io}
    (reached : Reach step ReleaseSeesPackets (initial Buffer Io) state)
    (quiescent : Quiescent state) (idle : state.shared.ioMode = .noneSending) :
    state.shared.sendQueue = [] := by
  by_contra waiting
  obtain ⟨thread, coming⟩ := served_of_reach reached idle waiting
  have inside := insideSend_of_willAcquire coming
  rw [quiescent thread] at inside
  cases inside

/-- `count` steps of one thread that leave nothing to its surroundings. -/
def goes {Io : Type} (thread : Tid Io) (count : ℕ) : List (Tid Io × Choice ℕ) :=
  List.replicate count (thread, .go)

/-- Setting a session up: the accept thread runs to its end, with one `WSARecv` outstanding. -/
def setupSchedule {Io : Type} : List (Tid Io × Choice ℕ) :=
  [(.accept, .go), (.accept, .accepted), (.accept, .go), (.accept, .go), (.accept, .accepted),
    (.accept, .go)]

/-- A first packet is sent and its completion handled up to the last look at the empty queue; then
the logic thread enqueues a second packet. -/
def windowSchedule : List (Tid Unit × Choice ℕ) :=
  List.flatten [setupSchedule, [(.logic, .beginFrame), (.logic, .sendPacket 1)], goes .logic 6,
    [(.logic, .accepted), (.logic, .go), (.io (), .completion .send .transferred)],
    goes (.io ()) 10, [(.logic, .sendPacket 2)]]

/-- The second packet's `DoSend` comes after the release, and its completion is handled. -/
def servedSchedule : List (Tid Unit × Choice ℕ) :=
  List.flatten [windowSchedule, goes (.io ()) 2, goes .logic 6,
    [(.logic, .accepted), (.logic, .go), (.io (), .completion .send .transferred)],
    goes (.io ()) 12]

/-- The second packet's `DoSend` comes before the release. -/
def strandedSchedule : List (Tid Unit × Choice ℕ) :=
  List.flatten [windowSchedule, goes .logic 2, goes (.io ()) 2]

theorem sendQueue_empty_of_servedSchedule :
    ∃ state, Reach step ReleaseSeesPackets (initial ℕ Unit) state ∧
      state.shared.posted = [[1], [2]] ∧ state.shared.sendQueue = [] := by
  obtain ⟨state, reached, test⟩ := exists_reach_of_runGuarded step ReleaseSeesPackets
    (initial ℕ Unit) servedSchedule
    (fun state => decide (Quiescent state ∧ state.shared.ioMode = .noneSending ∧
      state.shared.posted = [[1], [2]])) (by decide +kernel)
  obtain ⟨quiescent, idle, posted⟩ := of_decide_eq_true test
  exact ⟨state, reached, posted, sendQueue_empty_of_quiescent reached quiescent idle⟩

/-- Every `WSASend` is accepted. -/
def SendsAccepted (state : State Buffer Io) (label : Tid Io × Choice Buffer) : Prop :=
  posts (state.pc label.1) = true → label.2 = .accepted

instance [DecidableEq Buffer] (state : State Buffer Io) (label : Tid Io × Choice Buffer) :
    Decidable (SendsAccepted state label) :=
  inferInstanceAs (Decidable (_ → _))

/-- A packet stays behind: it was enqueued, and given up by the release, inside the window. -/
theorem sendQueue_stranded :
    ¬ ∀ state : State ℕ Unit, Reach step SendsAccepted (initial ℕ Unit) state →
      Quiescent state → state.shared.ioMode = .noneSending → state.shared.sendQueue = [] := by
  intro holds
  obtain ⟨state, reached, test⟩ := exists_reach_of_runGuarded step SendsAccepted
    (initial ℕ Unit) strandedSchedule
    (fun state => decide (Quiescent state ∧ state.shared.ioMode = .noneSending ∧
      state.shared.sendQueue = [2])) (by decide +kernel)
  obtain ⟨quiescent, idle, waits⟩ := of_decide_eq_true test
  rw [holds state reached quiescent idle] at waits
  cases waits

/-- **A release that does not see its packets leaves them to nobody.** -/
theorem release_strands {state after : State Buffer Io} {label : Tid Io × Choice Buffer}
    (blind : ¬ ReleaseSeesPackets state label) (taken : step state label = some after) :
    ¬ Served after := by
  obtain ⟨session', pc', acted, rfl⟩ := threadStep_eq_some.mp taken
  simp only [ReleaseSeesPackets, Classical.not_imp, not_or, not_exists, not_and] at blind
  obtain ⟨gives, waiting, alone⟩ := blind
  intro served
  have moved := act_moves acted
  generalize mover : state.pc label.1 = pc at moved gives
  generalize label.2 = choice at moved
  cases moved with
  | modeReleased expected next same =>
      rcases (exists_update (fun pc => willAcquire pc = true)).mp
        (served rfl (by simpa using waiting)) with coming | ⟨other, own, coming⟩
      · cases coming
      · exact alone other own coming
  | releaseFailed expected next other =>
      exact other (of_decide_eq_true gives)
  | _ => cases gives

end StrandedPacket

end ActorModelServer.SessionIo
