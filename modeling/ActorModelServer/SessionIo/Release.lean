/-
**The reference count of a session, and its release.**

`ioCount` counts references: one for every operation the kernel holds and one for every thread
that still has to decrement (`references`). No thread has more of them than the count grants
(`references_le`, in every run), so whoever decrements holds a reference, and a count of zero means
that nothing is outstanding.

What the count does not cover is `DoSend`: `OnSendIoCompleted` decrements before it calls it, and
the logic thread calls it without a reference. When it finds a packet after the count has dropped
to zero, it raises the count again. `ReleaseIsLast` says of a step that it does not do so: `DoSend`
enters its send branch only while the count is positive, the count drops to zero only while no
thread is inside that branch, and the stop event finds the count at zero. In every run whose steps
all meet it the release is final (`release_final`): one `ReleaseSession`, no increment after it,
and `OnDisconnected` with nothing outstanding.
-/

import ActorModelServer.SessionIo.StrandedPacket

namespace ActorModelServer.SessionIo

open ThreadTable (tally threadStep_eq_some weight_le_tally tally_le_step tally_eq_step tally_update
  forall_update)
open StepRuns (Reach exists_reach_of_runGuarded)

universe u

section Release

variable {Buffer : Type u} {Io : Type} [Fintype Io]

/-! ### References -/

/-- A place whose thread has a decrement of its own ahead. -/
def referenceAt : Pc Buffer → ℕ
  | .acceptAssociate => 1
  | .acceptInsert => 1
  | .ioFind _ _ => 1
  | .ioRecv => 1
  | .freeSent _ => 1
  | .storeNoneSending => 1
  | .wsaRecv _ => 1
  | .decrease _ => 1
  | .wsaSend _ _ => 1
  | _ => 0

/-- The references a thread holds. -/
def references : Pc Buffer → ℕ := Pc.weigh referenceAt

/-- What the count grants to threads: the operations of the kernel are counted too. -/
def referenceBalance (session : Session Buffer) : ℤ :=
  session.ioCount - session.recvOutstanding - session.sendOutstanding

/-- **One step keeps the references.** Only a completion whose session is no longer found gives a
reference up without decrementing. -/
theorem references_move {session session' : Session Buffer} {pc pc' : Pc Buffer}
    {choice : Choice Buffer} (moved : Moves session pc choice session' pc') :
    referenceBalance session + references pc' ≤ referenceBalance session' + references pc := by
  cases moved with
  | _ =>
      simp [referenceBalance, references, Pc.weigh, referenceAt, Session.dequeueInto_eq,
        Session.disconnect_eq] <;> omega

theorem references_initial : (tally references (initial Buffer Io).pc : ℤ) ≤
    referenceBalance (initial Buffer Io).shared := by
  have none : tally references (initialPc : Tid Io → Pc Buffer) = 0 :=
    tally_weigh_initialPc referenceAt rfl rfl rfl rfl
  simp [initial, none, referenceBalance, initialSession]

/-- **No thread holds more references than the count grants**, in every run. -/
theorem references_le [DecidableEq Io] {guard : State Buffer Io → Tid Io × Choice Buffer → Prop}
    {state : State Buffer Io} (reached : Reach step guard (initial Buffer Io) state) :
    (tally references state.pc : ℤ) ≤ referenceBalance state.shared := by
  refine reached.invariant (fun state : State Buffer Io => (tally references state.pc : ℤ) ≤
    referenceBalance state.shared) references_initial ?_
  intro before label after bounded _ taken
  obtain ⟨session', pc', acted, rfl⟩ := threadStep_eq_some.mp taken
  exact tally_le_step _ _ bounded (references_move (act_moves acted))

/-! ### Places of a thread -/

/-- The thread is about to raise `ioCount`. -/
def increments : Pc Buffer → Bool
  | .acceptIncrease => true
  | .recvIncrease _ => true
  | .sendIncrease _ _ => true
  | _ => false

/-- `DoSend` has seen a packet and not raised `ioCount` for it yet. -/
def inSendBranchAt : Pc Buffer → ℕ
  | .dequeue _ _ _ _ => 1
  | .addBufferCount _ _ _ => 1
  | .sendIncrease _ _ => 1
  | _ => 0

def inSendBranch : Pc Buffer → ℕ := Pc.weigh inSendBranchAt

/-- The thread is about to run `ReleaseSession`. -/
def releasingAt : Pc Buffer → ℕ
  | .releaseSession _ => 1
  | _ => 0

def releasing : Pc Buffer → ℕ := Pc.weigh releasingAt

/-- The accept thread before its own `IncreaseIOCount`. -/
def settingUpAt : Pc Buffer → ℕ
  | .acceptIncrease => 1
  | _ => 0

def settingUp : Pc Buffer → ℕ := Pc.weigh settingUpAt

/-- `DoRecv`, called without a reference. -/
def unheldRecvAt : Pc Buffer → ℕ
  | .recvIncrease next => if references next = 0 then 1 else 0
  | _ => 0

def unheldRecv : Pc Buffer → ℕ := Pc.weigh unheldRecvAt

/-- The release thread has taken the session up: `EraseSession` and `OnDisconnected`. -/
def disconnectingAt : Pc Buffer → ℕ
  | .eraseSession => 1
  | .closeSocket _ => 1
  | .freeStored _ _ => 1
  | .drainQueue _ => 1
  | _ => 0

def disconnecting : Pc Buffer → ℕ := Pc.weigh disconnectingAt

/-- `DoSend` is about to find a packet and enter its send branch. -/
def entersSendBranch (session : Session Buffer) : Pc Buffer → Bool
  | .getRestSize _ _ => !session.sendQueue.isEmpty
  | _ => false

/-- The thread is about to take `ioCount` from one to zero. -/
def dropsLast (session : Session Buffer) : Pc Buffer → Bool
  | .decrease _ => decide (session.ioCount = 1)
  | _ => false

/-- **The condition on a step.** -/
structure ReleaseIsLast (state : State Buffer Io) (label : Tid Io × Choice Buffer) : Prop where
  /-- `DoSend` enters its send branch only for a session that is still referenced. -/
  referenced : entersSendBranch state.shared (state.pc label.1) = true → 0 < state.shared.ioCount
  /-- The last reference goes only while no thread is inside the send branch. -/
  alone : dropsLast state.shared (state.pc label.1) = true →
    ∀ thread, inSendBranch (state.pc thread) = 0
  /-- The stop event finds the session without references. -/
  stopped : label.2 = .stopEvent → state.shared.ioCount = 0

instance [DecidableEq Buffer] (state : State Buffer Io) (label : Tid Io × Choice Buffer) :
    Decidable (ReleaseIsLast state label) :=
  decidable_of_iff
    ((entersSendBranch state.shared (state.pc label.1) = true → 0 < state.shared.ioCount) ∧
      (dropsLast state.shared (state.pc label.1) = true →
        ∀ thread, inSendBranch (state.pc thread) = 0) ∧
      (label.2 = .stopEvent → state.shared.ioCount = 0))
    ⟨fun ⟨referenced, alone, stopped⟩ => ⟨referenced, alone, stopped⟩,
      fun allowed => ⟨allowed.referenced, allowed.alone, allowed.stopped⟩⟩

/-! ### What one move does -/

section Move

variable {session session' : Session Buffer} {pc pc' : Pc Buffer} {choice : Choice Buffer}

/-- A move leaves the count alone, or raises it, or lowers it. -/
theorem count_move (moved : Moves session pc choice session' pc') :
    (session'.ioCount = session.ioCount ∧ session'.dropped = session.dropped ∧
      session'.raisedAfterDrop = session.raisedAfterDrop) ∨
    (increments pc = true ∧ session' = session.increaseIOCount) ∨
    ((∃ next, pc = .decrease next) ∧ session' = session.decreaseIOCount) := by
  cases moved with
  | setupIncreased => exact .inr (.inl ⟨rfl, rfl⟩)
  | recvIncreased next => exact .inr (.inl ⟨rfl, rfl⟩)
  | sendIncreased buffers next => exact .inr (.inl ⟨rfl, rfl⟩)
  | decreasedLast next last => exact .inr (.inr ⟨⟨_, rfl⟩, rfl⟩)
  | decreased next others => exact .inr (.inr ⟨⟨_, rfl⟩, rfl⟩)
  | disconnected =>
      rw [Session.disconnect_eq]
      exact .inl ⟨rfl, rfl, rfl⟩
  | dequeued index restSize buffers next more =>
      rw [Session.dequeueInto_eq]
      exact .inl ⟨rfl, rfl, rfl⟩
  | _ => exact .inl ⟨rfl, rfl, rfl⟩

/-- Only a packet found by `GetRestSize` leads into the send branch, and finding it changes
nothing. -/
theorem inSendBranch_move (moved : Moves session pc choice session' pc') :
    inSendBranch pc' ≤ inSendBranch pc ∨
      entersSendBranch session pc = true ∧ session' = session := by
  cases moved with
  | restFound expected next waiting =>
      refine .inr ⟨?_, rfl⟩
      simpa [entersSendBranch] using waiting
  | _ => exact .inl (by simp [inSendBranch, Pc.weigh, inSendBranchAt])

/-- One unit once the count has dropped, less the calls of `ReleaseSession`. -/
def releaseBalance (session : Session Buffer) : ℤ := session.dropped.toNat - session.released

/-- The first drop sends one thread to `ReleaseSession`. -/
theorem releasing_move (moved : Moves session pc choice session' pc')
    (first : (∃ next, pc = .decrease next) → session.dropped = false) :
    releaseBalance session + releasing pc' = releaseBalance session' + releasing pc := by
  cases moved with
  | decreasedLast next last =>
      simp only [releaseBalance, releasing, Pc.weigh, releasingAt, Session.decreaseIOCount, last,
        first ⟨next, rfl⟩, decide_true, Bool.or_true, Bool.toNat_true, Bool.toNat_false]
      omega
  | decreased next others => simp [releaseBalance, releasing, Pc.weigh, releasingAt, others]
  | released next =>
      simp only [releaseBalance, releasing, Pc.weigh, releasingAt, Session.releaseSession]
      omega
  | _ =>
      simp [releaseBalance, releasing, Pc.weigh, releasingAt, Session.dequeueInto_eq,
        Session.disconnect_eq]

/-- Every request comes from a call of `ReleaseSession`. -/
theorem releaseRequests_move (moved : Moves session pc choice session' pc')
    (asked : session.releaseRequests ≤ session.released) :
    session'.releaseRequests ≤ session'.released := by
  cases moved with
  | released next => exact Nat.succ_le_succ asked
  | requestPopped => exact (Nat.sub_le _ _).trans asked
  | disconnected => rwa [Session.disconnect_eq]
  | dequeued index restSize buffers next more => rwa [Session.dequeueInto_eq]
  | _ => exact asked

/-- Only the accept thread registers the session, and it holds a reference. -/
theorem registered_move (moved : Moves session pc choice session' pc')
    (found : session'.registered = true) :
    session.registered = true ∨ 0 < references pc ∧ session'.ioCount = session.ioCount := by
  cases moved with
  | inserted unlocked => exact .inr ⟨Nat.one_pos, rfl⟩
  | disconnected =>
      rw [Session.disconnect_eq] at found
      exact .inl found
  | dequeued index restSize buffers next more =>
      rw [Session.dequeueInto_eq] at found
      exact .inl found
  | erased unlocked => cases found
  | sweepEnded empty => cases found
  | _ => exact .inl found

/-- The release thread takes the session up for a request, or for the stop event. -/
theorem disconnecting_move (moved : Moves session pc choice session' pc') :
    disconnecting pc' ≤ disconnecting pc ∨ 0 < session.releaseRequests ∨
      choice = .stopEvent ∧ session.registered = true := by
  cases moved with
  | requestFound asked found => exact .inr (.inl asked)
  | sweepBegun unlocked registered => exact .inr (.inr ⟨rfl, registered⟩)
  | _ => exact .inl (by simp [disconnecting, Pc.weigh, disconnectingAt])

theorem unheldRecv_move (moved : Moves session pc choice session' pc') :
    unheldRecv pc' ≤ unheldRecv pc := by
  cases moved with
  | inserted unlocked => exact Nat.le_refl 0
  | framesRead => exact Nat.le_refl 0
  | _ => simp [unheldRecv, Pc.weigh, unheldRecvAt]

theorem settingUp_move (moved : Moves session pc choice session' pc') :
    settingUp pc' ≤ settingUp pc := by
  cases moved with
  | _ => simp [settingUp, Pc.weigh, settingUpAt]

omit [Fintype Io] in
/-- The first step of a run is the accept thread's. -/
theorem first_move {thread : Tid Io}
    (moved : Moves (initial Buffer Io).shared ((initial Buffer Io).pc thread) choice session' pc') :
    thread = .accept ∧ pc' = .acceptAssociate := by
  unfold initial at moved
  cases thread with
  | accept =>
      cases moved with
      | setupIncreased => exact ⟨rfl, rfl⟩
  | logic =>
      cases moved with
      | frameBegun unlocked registered => cases registered
  | release =>
      cases moved with
      | requestFound asked found => cases found
      | requestStale asked gone => cases asked
      | sweepBegun unlocked registered => cases registered
  | io worker =>
      cases moved with
      | recvCompleted result outstanding => cases outstanding
      | sendCompleted result outstanding => cases outstanding

/-- After its first step the run has no thread before its own setup. -/
theorem settingUp_first [DecidableEq Io] {thread : Tid Io}
    (moved : Moves (initial Buffer Io).shared ((initial Buffer Io).pc thread) choice session' pc') :
    tally settingUp (Function.update (initial Buffer Io).pc thread pc') = 0 := by
  obtain ⟨rfl, rfl⟩ := first_move moved
  refine ThreadTable.tally_eq_zero.mpr fun other => ?_
  cases other with
  | accept => rfl
  | _ => rfl

end Move

/-! ### The invariant -/

/-- What a run within the condition keeps. -/
structure Sound (state : State Buffer Io) : Prop where
  granted : (tally references state.pc : ℤ) ≤ referenceBalance state.shared
  unraised : state.shared.raisedAfterDrop = false
  droppedToZero : state.shared.dropped = true → state.shared.ioCount = 0
  droppedAlone : state.shared.dropped = true → tally inSendBranch state.pc = 0
  releases : (tally releasing state.pc : ℤ) = releaseBalance state.shared
  requests : state.shared.releaseRequests ≤ state.shared.released
  counted : state.shared.registered = true → state.shared.dropped = true ∨ 0 < state.shared.ioCount
  disconnects : 0 < tally disconnecting state.pc → state.shared.dropped = true
  held : tally unheldRecv state.pc = 0
  begun : state = initial Buffer Io ∨ tally settingUp state.pc = 0

theorem Sound.initial : Sound (initial Buffer Io) where
  granted := references_initial
  unraised := rfl
  droppedToZero := fun dropped => by cases dropped
  droppedAlone := fun dropped => by cases dropped
  releases := by
    rw [releasing]
    exact congrArg Nat.cast (tally_weigh_initialPc releasingAt rfl rfl rfl rfl)
  requests := Nat.le_refl 0
  counted := fun registered => by cases registered
  disconnects := fun positive =>
    absurd (tally_weigh_initialPc disconnectingAt rfl rfl rfl rfl) (Nat.ne_of_gt positive)
  held := tally_weigh_initialPc unheldRecvAt rfl rfl rfl rfl
  begun := .inl rfl

section Step

variable {state : State Buffer Io} {thread : Tid Io}

/-- A thread with a reference finds the count positive. -/
theorem Sound.ioCount_pos (sound : Sound state) (holds : 0 < references (state.pc thread)) :
    0 < state.shared.ioCount := by
  have share := weight_le_tally references state.pc thread
  have granted := sound.granted
  unfold referenceBalance at granted
  omega

/-- While the count is positive it has not dropped. -/
theorem Sound.undropped_of_pos (sound : Sound state) (positive : 0 < state.shared.ioCount) :
    state.shared.dropped = false := by
  by_contra dropped
  have zero := sound.droppedToZero (Bool.eq_true_of_not_eq_false dropped)
  omega

/-- Whoever decrements finds the count positive. -/
theorem Sound.ioCount_pos_of_decrease (sound : Sound state)
    (decreases : ∃ next, state.pc thread = .decrease next) : 0 < state.shared.ioCount := by
  obtain ⟨next, place⟩ := decreases
  have holds : 0 < references (state.pc thread) := by
    rw [place]
    exact Nat.lt_add_right _ Nat.one_pos
  exact sound.ioCount_pos holds

/-- **No increment after the drop**: the accept thread is the first to increment, `DoRecv` has a
reference, and the send branch is empty once the count has dropped. -/
theorem Sound.undropped_of_increments (sound : Sound state)
    (raises : increments (state.pc thread) = true) : state.shared.dropped = false := by
  cases place : state.pc thread with
  | acceptIncrease =>
      have share := weight_le_tally settingUp state.pc thread
      rw [place] at share
      rcases sound.begun with start | none
      · rw [start]
        rfl
      · have one : settingUp (.acceptIncrease : Pc Buffer) = 1 := rfl
        omega
  | recvIncrease next =>
      have share := weight_le_tally unheldRecv state.pc thread
      have unheld := Pc.own_le_weigh unheldRecvAt (.recvIncrease next)
      have held := sound.held
      rw [place] at share
      unfold unheldRecv at share held
      simp only [unheldRecvAt] at unheld
      have holds : 0 < references (state.pc thread) := by
        rw [place]
        show 0 < 0 + references next
        split at unheld <;> omega
      exact sound.undropped_of_pos (sound.ioCount_pos holds)
  | sendIncrease buffers next =>
      by_contra dropped
      have none := sound.droppedAlone (Bool.eq_true_of_not_eq_false dropped)
      have share := weight_le_tally inSendBranch state.pc thread
      have inside := Pc.own_le_weigh inSendBranchAt (.sendIncrease buffers next)
      rw [place] at share
      unfold inSendBranch at share none
      simp only [inSendBranchAt] at inside
      omega
  | _ =>
      rw [place] at raises
      cases raises

/-- What a step of the invariant does to the count: it is not raised after its drop, a drop is at
zero, and a positive count stays positive or drops. -/
theorem Sound.count_step (sound : Sound state) {session' : Session Buffer} {pc' : Pc Buffer}
    {choice : Choice Buffer} (moved : Moves state.shared (state.pc thread) choice session' pc') :
    session'.raisedAfterDrop = false ∧
      (session'.dropped = true → session'.ioCount = 0) ∧
      (0 < state.shared.ioCount → session'.dropped = true ∨ 0 < session'.ioCount) ∧
      (state.shared.dropped = true → session'.dropped = true) := by
  rcases count_move moved with ⟨count, dropped, raised⟩ | ⟨raises, rfl⟩ | ⟨decreases, rfl⟩
  · rw [count, dropped, raised]
    exact ⟨sound.unraised, sound.droppedToZero, .inr, id⟩
  · have undropped := sound.undropped_of_increments raises
    refine ⟨?_, ?_, ?_, id⟩
    · simp [undropped, sound.unraised]
    · intro dropped
      rw [Session.increaseIOCount_dropped, undropped] at dropped
      cases dropped
    · intro positive
      refine .inr ?_
      simp only [Session.increaseIOCount_ioCount]
      omega
  · have positive := sound.ioCount_pos_of_decrease decreases
    have undropped := sound.undropped_of_pos positive
    refine ⟨sound.unraised, ?_, ?_, ?_⟩
    · simp only [Session.decreaseIOCount_dropped, undropped, Bool.false_or, decide_eq_true_eq,
        Session.decreaseIOCount_ioCount]
      omega
    · simp only [Session.decreaseIOCount_dropped, undropped, Bool.false_or, decide_eq_true_eq,
        Session.decreaseIOCount_ioCount]
      omega
    · intro dropped
      rw [undropped] at dropped
      cases dropped

/-- The count drops by a decrement from one. -/
theorem dropped_move {session session' : Session Buffer} {pc pc' : Pc Buffer}
    {choice : Choice Buffer} (moved : Moves session pc choice session' pc')
    (dropped : session'.dropped = true) : session.dropped = true ∨ dropsLast session pc = true := by
  rcases count_move moved with ⟨-, same, -⟩ | ⟨-, rfl⟩ | ⟨⟨next, rfl⟩, rfl⟩
  · exact .inl (same ▸ dropped)
  · exact .inl dropped
  · simpa [dropsLast] using dropped

variable [DecidableEq Io]

/-- **One step within the condition keeps the invariant.** -/
theorem Sound.step {after : State Buffer Io} {label : Tid Io × Choice Buffer}
    (sound : Sound state) (allowed : ReleaseIsLast state label)
    (taken : SessionIo.step state label = some after) : Sound after := by
  obtain ⟨session', pc', acted, rfl⟩ := threadStep_eq_some.mp taken
  have moved := act_moves acted
  obtain ⟨unraised, droppedToZero, stays, keeps⟩ := sound.count_step moved
  have exchange (weight : Pc Buffer → ℕ) := tally_update weight state.pc label.1 pc'
  refine ⟨?granted, unraised, droppedToZero, ?droppedAlone, ?releases, ?requests, ?counted,
    ?disconnects, ?held, ?begun⟩
  case granted => exact tally_le_step _ _ sound.granted (references_move moved)
  case droppedAlone =>
    intro dropped
    have change := exchange inSendBranch
    have before : tally inSendBranch state.pc = 0 := by
      rcases dropped_move moved dropped with earlier | last
      · exact sound.droppedAlone earlier
      · exact ThreadTable.tally_eq_zero.mpr (allowed.alone last)
    rcases inSendBranch_move moved with less | ⟨enters, same⟩
    · show tally inSendBranch (Function.update state.pc label.1 pc') = 0
      omega
    · have undropped := sound.undropped_of_pos (allowed.referenced enters)
      rw [show session' = state.shared from same, undropped] at dropped
      cases dropped
  case releases =>
    refine tally_eq_step _ _ sound.releases (releasing_move moved fun decreases => ?_)
    exact sound.undropped_of_pos (sound.ioCount_pos_of_decrease decreases)
  case requests => exact releaseRequests_move moved sound.requests
  case counted =>
    intro found
    rcases registered_move moved found with already | ⟨holds, -⟩
    · exact (sound.counted already).elim (fun dropped => .inl (keeps dropped)) stays
    · exact stays (sound.ioCount_pos holds)
  case disconnects =>
    intro positive
    have change := exchange disconnecting
    refine keeps ?_
    rcases disconnecting_move moved with less | asked | ⟨stop, found⟩
    · refine sound.disconnects ?_
      have positive : 0 < tally disconnecting (Function.update state.pc label.1 pc') := positive
      omega
    · -- a request comes from `ReleaseSession`, which one thread runs, after the drop
      have releases := sound.releases
      have requests := sound.requests
      unfold releaseBalance at releases
      by_contra undropped
      rw [Bool.eq_false_of_not_eq_true undropped, Bool.toNat_false] at releases
      omega
    · have zero := allowed.stopped stop
      rcases sound.counted found with dropped | positive
      · exact dropped
      · omega
  case held =>
    have change := exchange unheldRecv
    have less := unheldRecv_move moved
    have held := sound.held
    show tally unheldRecv (Function.update state.pc label.1 pc') = 0
    omega
  case begun =>
    refine .inr ?_
    show tally settingUp (Function.update state.pc label.1 pc') = 0
    rcases sound.begun with start | none
    · rw [start] at moved ⊢
      exact settingUp_first moved
    · have change := exchange settingUp
      have less := settingUp_move moved
      omega

end Step

variable [DecidableEq Io]

/-- **Every run within the condition keeps the invariant.** -/
theorem sound_of_reach {state : State Buffer Io}
    (reached : Reach step ReleaseIsLast (initial Buffer Io) state) : Sound state :=
  reached.invariant Sound .initial fun _ _ _ sound allowed taken => sound.step allowed taken

/-- **Release is final**, in a run whose steps all meet the condition: `ReleaseSession` runs at
most once, `ioCount` is not raised after it has dropped to zero, and nothing is outstanding while
a thread disconnects the session. -/
theorem release_final {state : State Buffer Io}
    (reached : Reach step ReleaseIsLast (initial Buffer Io) state) :
    state.shared.released ≤ 1 ∧ state.shared.raisedAfterDrop = false ∧
      ∀ thread, 0 < disconnecting (state.pc thread) →
        state.shared.sendOutstanding = 0 ∧ state.shared.recvOutstanding = 0 := by
  have sound := sound_of_reach reached
  refine ⟨?_, sound.unraised, fun thread active => ?_⟩
  · have releases := sound.releases
    have unit := Bool.toNat_le state.shared.dropped
    unfold releaseBalance at releases
    omega
  · have share := weight_le_tally disconnecting state.pc thread
    have zero := sound.droppedToZero (sound.disconnects (Nat.lt_of_lt_of_le active share))
    have granted := sound.granted
    unfold referenceBalance at granted
    omega

/-- The peer closes; the last reference goes and the release thread takes the session up. -/
def closedSchedule : List (Tid Unit × Choice ℕ) :=
  List.flatten [setupSchedule, [(.io (), .completion .recv .zeroBytes)], goes (.io ()) 3,
    [(.release, .request), (.release, .go)]]

theorem release_final_closed :
    ∃ state, Reach step ReleaseIsLast (initial ℕ Unit) state ∧
      state.shared.released = 1 ∧ state.pc .release = .closeSocket false ∧
      state.shared.raisedAfterDrop = false ∧ state.shared.sendOutstanding = 0 ∧
      state.shared.recvOutstanding = 0 := by
  obtain ⟨state, reached, test⟩ := exists_reach_of_runGuarded step ReleaseIsLast
    (initial ℕ Unit) closedSchedule
    (fun state => decide (state.shared.released = 1 ∧ state.pc .release = .closeSocket false))
    (by decide +kernel)
  obtain ⟨released, place⟩ := of_decide_eq_true test
  obtain ⟨-, unraised, quiet⟩ := release_final reached
  have active : 0 < disconnecting (state.pc .release) := by
    rw [place]
    exact Nat.one_pos
  exact ⟨state, reached, released, place, unraised, (quiet .release active).1,
    (quiet .release active).2⟩

/-- A half-closed peer still reads. The send completion gives the last reference up and finds the
next packet, twice; then the release thread disconnects the session while the last send is out. -/
def resurrectedSchedule : List (Tid Unit × Choice ℕ) :=
  List.flatten [setupSchedule, [(.logic, .beginFrame), (.logic, .sendPacket 1)], goes .logic 6,
    [(.logic, .accepted), (.logic, .go), (.io (), .completion .recv .zeroBytes)], goes (.io ()) 2,
    [(.logic, .sendPacket 2)], goes .logic 2,
    [(.io (), .completion .send .transferred)], goes (.io ()) 12,
    [(.io (), .accepted), (.io (), .go)],
    [(.logic, .sendPacket 3)], goes .logic 2, [(.logic, .endFrame)],
    [(.io (), .completion .send .transferred)], goes (.io ()) 12,
    [(.io (), .accepted), (.io (), .go)],
    [(.release, .request), (.release, .go)]]

/-- The server is not being stopped. -/
def NotStopped (_ : State Buffer Io) (label : Tid Io × Choice Buffer) : Prop :=
  label.2 ≠ .stopEvent

instance [DecidableEq Buffer] (state : State Buffer Io) (label : Tid Io × Choice Buffer) :
    Decidable (NotStopped state label) :=
  inferInstanceAs (Decidable (_ ≠ _))

/-- `ReleaseSession` ran twice, `ioCount` rose from zero, and the session is disconnected with a
send outstanding. -/
theorem release_repeated :
    ¬ ∀ state : State ℕ Unit, Reach step NotStopped (initial ℕ Unit) state →
      state.shared.released ≤ 1 ∧ state.shared.raisedAfterDrop = false ∧
        ∀ thread, 0 < disconnecting (state.pc thread) →
          state.shared.sendOutstanding = 0 ∧ state.shared.recvOutstanding = 0 := by
  intro holds
  obtain ⟨state, reached, test⟩ := exists_reach_of_runGuarded step NotStopped
    (initial ℕ Unit) resurrectedSchedule
    (fun state => decide (state.shared.released = 2 ∧ state.shared.raisedAfterDrop = true ∧
      state.pc .release = .closeSocket false ∧ state.shared.sendOutstanding = 1))
    (by decide +kernel)
  obtain ⟨released, -⟩ := of_decide_eq_true test
  have once := (holds state reached).1
  omega

end Release

end ActorModelServer.SessionIo
