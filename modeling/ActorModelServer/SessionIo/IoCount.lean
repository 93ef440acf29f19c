/-
**What `ioCount` counts.**

Every unit of `ioCount` belongs to somebody: to an operation the kernel holds, to a completion
whose handling has its `DecreaseIOCount` ahead (`handling`), to the accept thread while it sets the
session up (`inSetup`), or to a `DoRecv` or `DoSend` that has incremented and not posted
(`posting`). No unit is lost as long as every completion finds its session (`Routed`).

* `ioCount_accounted` — the count is the sum of these, it is never negative, and at most one receive
  is outstanding. The last part is an accounting of its own: the right to post a receive
  (`receiving`) is handed from the accept thread to the kernel, to the handler of the completion,
  and back.
-/

import ActorModelServer.SessionIo.Release

namespace ActorModelServer.SessionIo

open ThreadTable (tally threadStep_eq_some tally_le_step tally_eq_step tally_add tally_eq_single)
open StepRuns (Reach exists_reach_of_runGuarded)

universe u

section IoCount

variable {Buffer : Type u} {Io : Type}

/-! ### Who holds a unit -/

/-- A reported operation, whose handling has its `DecreaseIOCount` ahead. -/
def handlingAt : Pc Buffer → ℕ
  | .ioFind _ _ => 1
  | .ioRecv => 1
  | .freeSent _ => 1
  | .storeNoneSending => 1
  | .decrease .acceptDone => 0
  | .decrease (.decrease _) => 0
  | .decrease (.doSendReturn _) => 0
  | .decrease _ => 1
  | _ => 0

def handling : Pc Buffer → ℕ := Pc.weigh handlingAt

/-- The accept thread, setting the session up. -/
def inSetupAt : Pc Buffer → ℕ
  | .acceptAssociate => 1
  | .acceptInsert => 1
  | .decrease .acceptDone => 1
  | _ => 0

def inSetup : Pc Buffer → ℕ := Pc.weigh inSetupAt

/-- `DoRecv` or `DoSend`, after its increment: the operation is not posted yet, or it was refused
and the call takes its increment back. -/
def postingAt : Pc Buffer → ℕ
  | .wsaRecv _ => 1
  | .wsaSend _ _ => 1
  | .decrease (.decrease _) => 1
  | .decrease (.doSendReturn _) => 1
  | _ => 0

def posting : Pc Buffer → ℕ := Pc.weigh postingAt

/-- The thread may post the session's next receive. -/
def receivingAt : Pc Buffer → ℕ
  | .acceptIncrease => 1
  | .acceptAssociate => 1
  | .acceptInsert => 1
  | .ioFind .recv _ => 1
  | .ioRecv => 1
  | .recvIncrease _ => 1
  | .wsaRecv _ => 1
  | _ => 0

def receiving : Pc Buffer → ℕ := Pc.weigh receivingAt

/-- The references of a place are of these three kinds. -/
theorem references_eq (pc : Pc Buffer) :
    references pc = handling pc + inSetup pc + posting pc := by
  have whole : ∀ place : Pc Buffer,
      referenceAt place = handlingAt place + inSetupAt place + postingAt place := by
    intro place
    cases place with
    | decrease next => cases next <;> rfl
    | _ => rfl
  unfold references handling inSetup posting
  induction pc with
  | recvIncrease next ih | wsaRecv next ih | decrease next ih | releaseSession next ih
  | casAcquire expected next ih | getRestSize expected next ih | casRelease expected next ih
  | dequeue index restSize buffers next ih | addBufferCount restSize buffers next ih
  | sendIncrease buffers next ih | wsaSend buffers next ih | doSendReturn next ih =>
      simp only [Pc.weigh, whole, ih]
      omega
  | _ => rfl

/-! ### Runs whose completions find the session -/

/-- The thread has a completion and looks its session up. -/
def looksUp : Pc Buffer → Bool
  | .ioFind _ _ => true
  | _ => false

/-- **Every completion is routed to the session that issued it**: it finds the session. -/
def Routed (state : State Buffer Io) (label : Tid Io × Choice Buffer) : Prop :=
  looksUp (state.pc label.1) = true → state.shared.registered = true

instance (state : State Buffer Io) (label : Tid Io × Choice Buffer) :
    Decidable (Routed state label) :=
  inferInstanceAs (Decidable (_ → _))

/-- **One step keeps the account.** -/
theorem references_balance {session session' : Session Buffer} {pc pc' : Pc Buffer}
    {choice : Choice Buffer} (moved : Moves session pc choice session' pc')
    (routed : looksUp pc = true → session.registered = true) :
    referenceBalance session + references pc' = referenceBalance session' + references pc := by
  cases moved with
  | foundNone kind result gone =>
      rw [routed rfl] at gone
      cases gone
  | recvCompleted result outstanding =>
      simp only [referenceBalance, references, Pc.weigh, referenceAt]
      omega
  | sendCompleted result outstanding =>
      simp only [referenceBalance, references, Pc.weigh, referenceAt]
      omega
  | _ =>
      simp [referenceBalance, references, Pc.weigh, referenceAt, Session.dequeueInto_eq,
        Session.disconnect_eq] <;> omega

/-- One receive may be posted, less those the kernel holds. -/
def receiveBalance (session : Session Buffer) : ℤ := 1 - session.recvOutstanding

/-- **One step keeps the right to post a receive single.** -/
theorem receiving_move {session session' : Session Buffer} {pc pc' : Pc Buffer}
    {choice : Choice Buffer} (moved : Moves session pc choice session' pc') :
    receiveBalance session + receiving pc' ≤ receiveBalance session' + receiving pc := by
  cases moved with
  | recvCompleted result outstanding =>
      simp only [receiveBalance, receiving, Pc.weigh, receivingAt]
      omega
  | sendCompleted result outstanding =>
      simp only [receiveBalance, receiving, Pc.weigh, receivingAt]
      omega
  | _ =>
      simp [receiveBalance, receiving, Pc.weigh, receivingAt, Session.dequeueInto_eq,
        Session.disconnect_eq] <;> omega

variable [Fintype Io] [DecidableEq Io]

/-- **Every unit has its holder**, in a run whose completions find the session. -/
theorem references_accounted {state : State Buffer Io}
    (reached : Reach step Routed (initial Buffer Io) state) :
    (tally references state.pc : ℤ) = referenceBalance state.shared := by
  refine reached.invariant (fun state => (tally references state.pc : ℤ) =
    referenceBalance state.shared) ?_ ?_
  · have none : tally references (initialPc : Tid Io → Pc Buffer) = 0 :=
      tally_weigh_initialPc referenceAt rfl rfl rfl rfl
    simp [initial, none, referenceBalance, initialSession]
  · intro before label after balanced routed taken
    obtain ⟨session', pc', acted, rfl⟩ := threadStep_eq_some.mp taken
    exact tally_eq_step _ _ balanced (references_balance (act_moves acted) routed)

/-- **At most one thread may post a receive**, and none while the kernel holds one. -/
theorem receiving_le {guard : State Buffer Io → Tid Io × Choice Buffer → Prop}
    {state : State Buffer Io} (reached : Reach step guard (initial Buffer Io) state) :
    (tally receiving state.pc : ℤ) ≤ receiveBalance state.shared := by
  refine reached.invariant (fun state => (tally receiving state.pc : ℤ) ≤
    receiveBalance state.shared) ?_ ?_
  · have one : tally receiving (initialPc : Tid Io → Pc Buffer) = 1 := by
      refine (tally_eq_single Tid.accept ?_).trans rfl
      intro other different
      cases other with
      | accept => exact absurd rfl different
      | _ => rfl
    simp [initial, one, receiveBalance, initialSession]
  · intro before label after bounded _ taken
    obtain ⟨session', pc', acted, rfl⟩ := threadStep_eq_some.mp taken
    exact tally_le_step _ _ bounded (receiving_move (act_moves acted))

/-- **`ioCount` is accounted for**: it is the number of posted operations whose handling has not
decremented yet, and one for the setup of the session, and one for each call that is about to post.
It is never negative, and at most one receive is outstanding. -/
theorem ioCount_accounted {state : State Buffer Io}
    (reached : Reach step Routed (initial Buffer Io) state) :
    state.shared.ioCount = (state.shared.recvOutstanding + state.shared.sendOutstanding +
        tally handling state.pc : ℕ) + tally inSetup state.pc + tally posting state.pc ∧
      0 ≤ state.shared.ioCount ∧ state.shared.recvOutstanding ≤ 1 := by
  have accounted := references_accounted reached
  have single := receiving_le reached
  have kinds : tally references state.pc =
      tally handling state.pc + tally inSetup state.pc + tally posting state.pc := by
    have split : (references : Pc Buffer → ℕ) =
        fun pc => (fun pc => handling pc + inSetup pc) pc + posting pc := by
      funext pc
      exact references_eq pc
    rw [split, tally_add, tally_add]
  unfold referenceBalance at accounted
  unfold receiveBalance at single
  refine ⟨?_, ?_, ?_⟩ <;> omega

/-- A packet is sent, a malformed frame arrives, and the send completes. -/
def malformedSchedule : List (Tid Unit × Choice ℕ) :=
  List.flatten [setupSchedule, [(.logic, .beginFrame), (.logic, .sendPacket 1)], goes .logic 6,
    [(.io (), .completion .recv .transferred), (.io (), .go), (.io (), .malformed)]]

/-- The send is about to be posted, and the malformed receive is about to be given up. -/
theorem ioCount_accounted_malformed :
    ∃ state, Reach step Routed (initial ℕ Unit) state ∧
      (tally handling state.pc = 1 ∧ tally posting state.pc = 1 ∧ tally inSetup state.pc = 0) ∧
      state.shared.ioCount = 2 ∧ state.shared.recvOutstanding ≤ 1 := by
  obtain ⟨state, reached, test⟩ := exists_reach_of_runGuarded step Routed
    (initial ℕ Unit) malformedSchedule
    (fun state => decide (tally handling state.pc = 1 ∧ tally posting state.pc = 1 ∧
      tally inSetup state.pc = 0 ∧ state.shared.recvOutstanding = 0 ∧
      state.shared.sendOutstanding = 0)) (by decide +kernel)
  obtain ⟨handles, posts, done, received, sent⟩ := of_decide_eq_true test
  obtain ⟨count, -, single⟩ := ioCount_accounted reached
  refine ⟨state, reached, ⟨handles, posts, done⟩, ?_, single⟩
  rw [count, handles, posts, done, received, sent]
  rfl

end IoCount

end ActorModelServer.SessionIo
