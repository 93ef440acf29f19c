/-
**`IO_SENDING` means that a send is in flight.**

While `ioMode` is `IO_SENDING` there is one token of it (`sendToken`): with the thread inside
`DoSend`, with the kernel, or with the thread that handles the completion. The handler of a
completion brings the token back by storing `IO_NONE_SENDING`. The error exits do not: a refused
`WSASend`, and a completion that reports no bytes or an error, leave `ioMode` as it is.
`SendSucceeds` says of a step that it is not such an exit.

* `sending_outstanding` — in a run whose steps all meet it, `IO_SENDING` means that exactly one send
  is outstanding, whenever no thread is inside the send functions.
* `leaked_of_not_sendSucceeds`, `Leaked.step` — a step that breaks it loses the token, and it never
  comes back: nobody sends any more.
* `sending_lost` — a refused `WSASend` is such a step.
-/

import ActorModelServer.SessionIo.IoCount

namespace ActorModelServer.SessionIo

open ThreadTable (tally threadStep_eq_some tally_eq_step tally_le_step weight_le_tally
  tally_eq_zero)
open StepRuns (Reach Unguarded exists_reach_of_run exists_reach_of_runGuarded)

universe u

section SendMode

variable {Buffer : Type u} {Io : Type}

/-! ### The token of `ioMode` -/

/-- A place of the holder of the token: as for `ownsSendAt`, and every completion of a send that is
not handled yet. -/
def sendTokenAt : Pc Buffer → ℕ
  | .ioFind .send _ => 1
  | .freeSent _ => 1
  | .storeNoneSending => 1
  | .casAcquire .sending _ => 1
  | .getRestSize _ _ => 1
  | .casRelease _ _ => 1
  | .dequeue _ _ _ _ => 1
  | .addBufferCount _ _ _ => 1
  | .sendIncrease _ _ => 1
  | .wsaSend _ _ => 1
  | _ => 0

def sendToken : Pc Buffer → ℕ := Pc.weigh sendTokenAt

/-- A completion of a send, before its handler starts. -/
def reportedSendAt : Pc Buffer → ℕ
  | .ioFind .send _ => 1
  | _ => 0

def reportedSend : Pc Buffer → ℕ := Pc.weigh reportedSendAt

/-- A completion that is not handled yet has the token. -/
theorem reportedSend_le (pc : Pc Buffer) : reportedSend pc ≤ sendToken pc := by
  unfold reportedSend sendToken
  refine Pc.weigh_mono (fun place => ?_) pc
  cases place with
  | ioFind kind result => cases kind <;> exact Nat.le_refl _
  | _ => exact Nat.zero_le _

/-- The sends that were posted and whose completion handler has not started. -/
def sendsOutstanding [Fintype Io] (state : State Buffer Io) : ℕ :=
  state.shared.sendOutstanding + tally reportedSend state.pc

/-- Nothing has been sent, and no thread is inside the send functions. -/
structure Unsent (state : State Buffer Io) : Prop where
  idle : state.shared.ioMode = .noneSending
  none : state.shared.sendOutstanding = 0
  empty : state.shared.sendQueue = []
  unenqueued : state.shared.enqueued = []
  unposted : state.shared.posted = []
  uncounted : state.shared.bufferCount = 0
  outside : ∀ thread, sendToken (state.pc thread) = 0

theorem unsent_initial : Unsent (initial Buffer Io) where
  idle := rfl
  none := rfl
  empty := rfl
  unenqueued := rfl
  unposted := rfl
  uncounted := rfl
  outside := fun thread => by cases thread <;> rfl

/-- The thread handles a completion of a send that reports no bytes or an error. -/
def failsSend : Pc Buffer → Bool
  | .ioFind .send .zeroBytes => true
  | .ioFind .send .failed => true
  | _ => false

/-- **The condition on a step.** -/
structure SendSucceeds (state : State Buffer Io) (label : Tid Io × Choice Buffer) : Prop where
  /-- A completion finds its session. -/
  routed : Routed state label
  /-- `WSASend` is accepted. -/
  accepted : posts (state.pc label.1) = true → label.2 = .accepted
  /-- A completion of a send reports its bytes. -/
  transferred : failsSend (state.pc label.1) = false

instance [DecidableEq Buffer] (state : State Buffer Io) (label : Tid Io × Choice Buffer) :
    Decidable (SendSucceeds state label) :=
  decidable_of_iff
    (Routed state label ∧ (posts (state.pc label.1) = true → label.2 = .accepted) ∧
      failsSend (state.pc label.1) = false)
    ⟨fun ⟨routed, accepted, transferred⟩ => ⟨routed, accepted, transferred⟩,
      fun allowed => ⟨allowed.routed, allowed.accepted, allowed.transferred⟩⟩

/-! ### What a step does to the token -/

section Move

variable {session session' : Session Buffer} {pc pc' : Pc Buffer} {choice : Choice Buffer}

theorem sendToken_casAcquire (mode : IoMode) (next : Pc Buffer) :
    sendToken (.casAcquire mode next) = (if mode = .sending then 1 else 0) + sendToken next := by
  cases mode <;> simp [sendToken, Pc.weigh, sendTokenAt]

theorem sendToken_ioFind (kind : IoKind) (result : IoResult) :
    sendToken (.ioFind kind result : Pc Buffer) = if kind = .send then 1 else 0 := by
  cases kind <;> rfl

/-- **One step hands the token on**, when it does not take an error exit. -/
theorem sendToken_move (moved : Moves session pc choice session' pc')
    (taken : 0 < sendToken pc → session.ioMode = .sending)
    (routed : looksUp pc = true → session.registered = true)
    (accepted : posts pc = true → choice = .accepted) (transferred : failsSend pc = false) :
    sendBalance session + sendToken pc' = sendBalance session' + sendToken pc := by
  cases moved with
  | foundNone kind result gone =>
      rw [routed rfl] at gone
      cases gone
  | foundDone kind result found nothing =>
      cases kind with
      | recv => rfl
      | send => cases result with
        | transferred => exact absurd rfl nothing
        | zeroBytes => cases transferred
        | failed => cases transferred
  | sendCompleted result outstanding =>
      rw [sendToken_ioFind, if_pos rfl]
      simp only [sendBalance, show sendToken (.ioWait : Pc Buffer) = 0 from rfl]
      omega
  | recvCompleted result outstanding => rfl
  | modeStored =>
      have sending := taken Nat.one_pos
      simp only [sendBalance, sending, sendToken, Pc.weigh, sendTokenAt, reduceCtorEq, if_false,
        if_true]
      omega
  | acquired expected next same =>
      rw [sendToken_casAcquire]
      simp only [sendBalance, sendToken, Pc.weigh, sendTokenAt, same, if_true]
      push_cast
      split <;> omega
  | acquireFailed expected next other =>
      cases expected with
      | noneSending => rfl
      | sending => exact absurd (taken (by rw [sendToken_casAcquire, if_pos rfl]; omega)) other
  | modeReleased expected next same =>
      have sending := taken (by simp [sendToken, Pc.weigh, sendTokenAt])
      simp only [sendBalance, sending, sendToken, Pc.weigh, sendTokenAt, reduceCtorEq, if_false,
        if_true]
      omega
  | releaseFailed expected next other =>
      have sending := taken (by simp [sendToken, Pc.weigh, sendTokenAt])
      rw [sendToken_casAcquire, if_pos sending]
      simp only [sendToken, Pc.weigh, sendTokenAt]
  | sendRefused buffers next => cases accepted rfl
  | _ =>
      simp [sendBalance, sendToken, Pc.weigh, sendTokenAt, Session.dequeueInto_eq,
        Session.disconnect_eq] <;> omega

/-- **An error exit drops the token**, and leaves `ioMode` as it is. -/
theorem sendToken_exit (moved : Moves session pc choice session' pc')
    (routed : looksUp pc = true → session.registered = true)
    (fails : ¬ ((posts pc = true → choice = .accepted) ∧ failsSend pc = false)) :
    session'.ioMode = session.ioMode ∧ session'.sendOutstanding = session.sendOutstanding ∧
      sendToken pc' + 1 = sendToken pc := by
  cases moved with
  | sendRefused buffers next =>
      refine ⟨rfl, rfl, ?_⟩
      simp only [sendToken, Pc.weigh, sendTokenAt]
      omega
  | foundDone kind result registered nothing =>
      cases kind with
      | recv => exact absurd ⟨(fun posts => by cases posts), rfl⟩ fails
      | send => exact ⟨rfl, rfl, rfl⟩
  | foundNone kind result gone =>
      rw [routed rfl] at gone
      cases gone
  | sendPosted buffers next => exact absurd ⟨fun _ => rfl, rfl⟩ fails
  | _ => exact absurd ⟨(fun posts => by cases posts), rfl⟩ fails

/-- Outside the send functions the token is with a completion that is not handled yet. -/
theorem sendToken_of_outside (outside : insideSend pc = false) :
    sendToken pc = reportedSend pc := by
  unfold sendToken reportedSend
  induction pc with
  | recvIncrease next ih => simpa [Pc.weigh, sendTokenAt, reportedSendAt] using ih outside
  | wsaRecv next ih => simpa [Pc.weigh, sendTokenAt, reportedSendAt] using ih outside
  | decrease next ih => simpa [Pc.weigh, sendTokenAt, reportedSendAt] using ih outside
  | releaseSession next ih => simpa [Pc.weigh, sendTokenAt, reportedSendAt] using ih outside
  | ioFind kind result => cases kind <;> rfl
  | casAcquire | getRestSize | casRelease | dequeue | addBufferCount | sendIncrease | wsaSend
  | doSendReturn | freeSent | storeNoneSending => cases outside
  | _ => rfl

end Move

variable [Fintype Io]

theorem sendBalance_le (session : Session Buffer) : sendBalance session ≤ 1 := by
  unfold sendBalance
  split <;> omega

/-- While somebody has the token, `ioMode` is `IO_SENDING`. -/
theorem sending_of_token {state : State Buffer Io}
    (balanced : (tally sendToken state.pc : ℤ) = sendBalance state.shared) {thread : Tid Io}
    (holds : 0 < sendToken (state.pc thread)) : state.shared.ioMode = .sending := by
  have share := weight_le_tally sendToken state.pc thread
  unfold sendBalance at balanced
  by_cases sending : state.shared.ioMode = .sending
  · exact sending
  · rw [if_neg sending] at balanced
    omega

theorem tally_sendToken_unsent {start : State Buffer Io} (unsent : Unsent start) :
    (tally sendToken start.pc : ℤ) = sendBalance start.shared := by
  rw [tally_eq_zero.mpr unsent.outside, sendBalance, unsent.idle, unsent.none]
  rfl

/-- Where no thread is inside the send functions, the sends outstanding are the token. -/
theorem sendsOutstanding_of_quiescent {state : State Buffer Io}
    (balanced : (tally sendToken state.pc : ℤ) = sendBalance state.shared)
    (quiescent : Quiescent state) :
    sendsOutstanding state = if state.shared.ioMode = .sending then 1 else 0 := by
  have same : tally sendToken state.pc = tally reportedSend state.pc :=
    Finset.sum_congr rfl fun thread _ => sendToken_of_outside (quiescent thread)
  rw [same] at balanced
  unfold sendBalance at balanced
  unfold sendsOutstanding
  by_cases sending : state.shared.ioMode = .sending
  · rw [if_pos sending] at balanced ⊢
    omega
  · rw [if_neg sending] at balanced ⊢
    omega

variable [DecidableEq Io]

/-- **The token is always somewhere**, in a run without error exits. -/
theorem sendToken_balance {start state : State Buffer Io} (unsent : Unsent start)
    (reached : Reach step SendSucceeds start state) :
    (tally sendToken state.pc : ℤ) = sendBalance state.shared := by
  refine reached.invariant (fun state : State Buffer Io => (tally sendToken state.pc : ℤ) =
    sendBalance state.shared) (tally_sendToken_unsent unsent) ?_
  intro before label after balanced allowed taken
  obtain ⟨session', pc', acted, rfl⟩ := threadStep_eq_some.mp taken
  exact tally_eq_step _ _ balanced (sendToken_move (act_moves acted)
    (sending_of_token balanced) allowed.routed allowed.accepted allowed.transferred)

/-- **`IO_SENDING` means that a send is outstanding**, and only one, whenever no thread is inside
the send functions. -/
theorem sending_outstanding {start state : State Buffer Io} (unsent : Unsent start)
    (reached : Reach step SendSucceeds start state) (quiescent : Quiescent state)
    (sending : state.shared.ioMode = .sending) : sendsOutstanding state = 1 := by
  rw [sendsOutstanding_of_quiescent (sendToken_balance unsent reached) quiescent, if_pos sending]

/-- A packet is sent. -/
def sentSchedule : List (Tid Unit × Choice ℕ) :=
  List.flatten [setupSchedule, [(.logic, .beginFrame), (.logic, .sendPacket 1)], goes .logic 6,
    [(.logic, .accepted), (.logic, .go)]]

theorem sending_outstanding_sent :
    ∃ state, Reach step SendSucceeds (initial ℕ Unit) state ∧
      state.shared.posted = [[1]] ∧ sendsOutstanding state = 1 := by
  obtain ⟨state, reached, test⟩ := exists_reach_of_runGuarded step SendSucceeds
    (initial ℕ Unit) sentSchedule
    (fun state => decide (Quiescent state ∧ state.shared.ioMode = .sending ∧
      state.shared.posted = [[1]])) (by decide +kernel)
  obtain ⟨quiescent, sending, posted⟩ := of_decide_eq_true test
  exact ⟨state, reached, posted, sending_outstanding unsent_initial reached quiescent sending⟩

/-- The first `WSASend` is refused; the packet after it is enqueued and not sent. -/
def refusedSendSchedule : List (Tid Unit × Choice ℕ) :=
  List.flatten [setupSchedule, [(.logic, .beginFrame), (.logic, .sendPacket 1)], goes .logic 6,
    [(.logic, .refused)], goes .logic 2, [(.logic, .sendPacket 2)], goes .logic 2]

/-- **A refused send leaves `IO_SENDING` behind**, with nothing outstanding; a later `SendPacket`
enqueues its packet and returns. -/
theorem sending_lost :
    ¬ ∀ state : State ℕ Unit, Reach step Routed (initial ℕ Unit) state →
      Quiescent state → state.shared.ioMode = .sending → sendsOutstanding state = 1 := by
  intro holds
  obtain ⟨state, reached, test⟩ := exists_reach_of_runGuarded step Routed
    (initial ℕ Unit) refusedSendSchedule
    (fun state => decide (Quiescent state ∧ state.shared.ioMode = .sending ∧
      state.shared.sendQueue = [2] ∧ sendsOutstanding state = 0)) (by decide +kernel)
  obtain ⟨quiescent, sending, -, none⟩ := of_decide_eq_true test
  rw [holds state reached quiescent sending] at none
  cases none

/-! ### A lost token never comes back -/

/-- `ioMode` is `IO_SENDING` and nobody has the token. -/
structure Leaked (state : State Buffer Io) : Prop where
  sending : state.shared.ioMode = .sending
  none : state.shared.sendOutstanding = 0
  nobody : ∀ thread, sendToken (state.pc thread) = 0

omit [Fintype Io] [DecidableEq Io] in
/-- A thread without the token that finds `IO_SENDING`, with no send at the kernel, changes none of
this, and posts nothing. -/
theorem leaked_move {session session' : Session Buffer} {pc pc' : Pc Buffer}
    {choice : Choice Buffer} (moved : Moves session pc choice session' pc')
    (sending : session.ioMode = .sending) (none : session.sendOutstanding = 0)
    (nobody : sendToken pc = 0) :
    session'.ioMode = .sending ∧ session'.sendOutstanding = 0 ∧ sendToken pc' = 0 ∧
      session'.posted = session.posted := by
  cases moved with
  | sendCompleted result outstanding => omega
  | acquired expected next same =>
      rw [sendToken_casAcquire, ← same, if_pos sending] at nobody
      omega
  | packetEnqueued buffer => exact ⟨sending, none, rfl, rfl⟩
  | _ =>
      simp_all [sendToken, Pc.weigh, sendTokenAt, Session.disconnect_eq]

omit [Fintype Io] in
/-- **The token does not come back**, and nothing is posted. -/
theorem Leaked.step {state after : State Buffer Io} {label : Tid Io × Choice Buffer}
    (leaked : Leaked state) (taken : SessionIo.step state label = some after) :
    Leaked after ∧ after.shared.posted = state.shared.posted := by
  obtain ⟨session', pc', acted, rfl⟩ := threadStep_eq_some.mp taken
  obtain ⟨sending, none, nobody, posted⟩ :=
    leaked_move (act_moves acted) leaked.sending leaked.none (leaked.nobody label.1)
  refine ⟨⟨sending, none, fun thread => ?_⟩, posted⟩
  show sendToken (Function.update state.pc label.1 pc' thread) = 0
  by_cases mover : thread = label.1
  · rw [mover, Function.update_self]
    exact nobody
  · rw [Function.update_of_ne mover]
    exact leaked.nobody thread

/-- **After a leak nothing is sent any more**, whatever happens: `ioMode` stays `IO_SENDING` with no
send outstanding, and no buffer is posted. -/
theorem leaked_of_reach {start state : State Buffer Io}
    {guard : State Buffer Io → Tid Io × Choice Buffer → Prop} (leaked : Leaked start)
    (reached : Reach step guard start state) :
    state.shared.ioMode = .sending ∧ sendsOutstanding state = 0 ∧
      state.shared.posted = start.shared.posted := by
  have kept : Leaked state ∧ state.shared.posted = start.shared.posted := by
    refine reached.invariant (fun state => Leaked state ∧
      state.shared.posted = start.shared.posted) ⟨leaked, rfl⟩ ?_
    rintro before label after ⟨leaked, same⟩ - taken
    obtain ⟨leaked', posted⟩ := leaked.step taken
    exact ⟨leaked', posted.trans same⟩
  obtain ⟨leaked', posted⟩ := kept
  refine ⟨leaked'.sending, ?_, posted⟩
  unfold sendsOutstanding
  rw [leaked'.none, tally_eq_zero.mpr fun thread => ?_]
  have less := reportedSend_le (state.pc thread)
  have none := leaked'.nobody thread
  omega

/-- **An error exit loses the token.** -/
theorem leaked_of_not_sendSucceeds {state after : State Buffer Io}
    {label : Tid Io × Choice Buffer}
    (balanced : (tally sendToken state.pc : ℤ) = sendBalance state.shared)
    (routed : Routed state label) (fails : ¬ SendSucceeds state label)
    (taken : step state label = some after) : Leaked after := by
  obtain ⟨session', pc', acted, rfl⟩ := threadStep_eq_some.mp taken
  have exit := sendToken_exit (act_moves acted) routed fun succeeds =>
    fails ⟨routed, succeeds.1, succeeds.2⟩
  obtain ⟨mode, outstanding, lost⟩ := exit
  have share := weight_le_tally sendToken state.pc label.1
  have most := sendBalance_le state.shared
  have holds : 0 < sendToken (state.pc label.1) := by omega
  have sending := sending_of_token balanced holds
  have exchange := ThreadTable.tally_update sendToken state.pc label.1 pc'
  rw [sendBalance, if_pos sending] at balanced most
  refine ⟨mode.trans sending, ?_, fun thread => ?_⟩
  · show session'.sendOutstanding = 0
    omega
  · have none := weight_le_tally sendToken (Function.update state.pc label.1 pc') thread
    show sendToken (Function.update state.pc label.1 pc' thread) = 0
    omega

end SendMode

end ActorModelServer.SessionIo
