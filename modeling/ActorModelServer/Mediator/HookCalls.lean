/-
**Rollbacks from inside the hooks.**

The derived class may call `RollbackTransaction` on any id `StartTransaction` has returned: between
the operations, and from inside a hook that fires for another transaction. So a hook is a place of
its own here. `Frame` is a call in progress, `stack` the calls in progress, the innermost first;
`goOn` lets the hook that runs return, and the code behind it run to the next hook.

* `reach_rollbackTransaction`, `reach_commitTransaction` — with hooks that return at once the calls
  are those of `MediatorBase`.
* `reach_silent` — so the runs of `Mediator.step` are runs of this machine.
-/

import ActorModelServer.Mediator.Model

namespace ActorModelServer.Mediator.HookCalls

open StepRuns (Reach Unguarded)

section Model

/-- The entries of a transaction's participants. -/
abbrev Entry := Sigma fun _ : ParticipantId => Participant

/-- A call in progress, inside one of its hooks; the requests of a loop carry what the loop has
still to visit. -/
inductive Frame
  | transactionStarted (transactionId : TransactionId)
  | sendCommitRequest (transactionId : TransactionId) (entry : Entry) (rest : List Entry)
  | transactionCompleted (transactionId : TransactionId)
  | sendRollbackRequest (transactionId : TransactionId) (rest : List Entry)
  | transactionFailed (transactionId : TransactionId)
  /- the second loop of `OnTimer`, not in a hook of its own -/
  | timer (timedOutTransactions : List TransactionId)

namespace Frame

/-- The transaction the hook fires for. -/
def hook : Frame → Option TransactionId
  | .transactionStarted transactionId | .sendCommitRequest transactionId _ _
  | .transactionCompleted transactionId | .sendRollbackRequest transactionId _
  | .transactionFailed transactionId => some transactionId
  | .timer _ => none

end Frame

/-- The mediator with the calls in progress, and the ids `StartTransaction` has returned. -/
structure State where
  mediator : MediatorBase
  stack : List Frame
  returned : List TransactionId

/-- The first mediator of the program, no call in progress. -/
def initial : State := ⟨Mediator.initial, [], []⟩

/-- What happens next. -/
inductive Call
  | startTransaction (participantIds : List ParticipantId) (timeout now : ℤ)
  | onParticipantReady (transactionId : TransactionId) (participantId : ParticipantId)
      (success : Bool) (now : ℤ)
  | onTimer (now : ℤ)
  | generateElsewhere
  /- the derived class, between the operations or in the hook that runs -/
  | rollbackTransaction (transactionId : TransactionId)
  /- the hook that runs returns, or the loop of `OnTimer` goes on -/
  | goOn

/-- A write through the reference `transaction`; where the transaction was erased meanwhile there is
nothing to write to. -/
def modifyTransaction (mediator : MediatorBase) (transactionId : TransactionId)
    (change : Transaction → Transaction) : MediatorBase :=
  match mediator.activeTransactions.lookup transactionId with
  | none => mediator
  | some transaction => mediator.setTransaction transactionId (change transaction)

/-- `CommitTransaction` from its loop on, to its next hook. -/
def commitFrom (mediator : MediatorBase) (transactionId : TransactionId) :
    List Entry → MediatorBase × Frame
  | entry :: rest =>
      (mediator.record (.sendCommitRequest transactionId entry.2.id),
        .sendCommitRequest transactionId entry rest)
  | [] =>
      ((modifyTransaction mediator transactionId fun transaction =>
          { transaction with state := .completed }).record (.completed transactionId),
        .transactionCompleted transactionId)

/-- `CommitTransaction`, to its first hook. -/
def beginCommit (traversal : Traversal) (mediator : MediatorBase) (transactionId : TransactionId) :
    MediatorBase × Frame :=
  let transaction := mediator.transactionAt transactionId
  let committing := mediator.setTransaction transactionId { transaction with state := .committing }
  commitFrom committing transactionId (traversal.order transaction.participants.entries)

/-- `RollbackTransaction` from its loop on, to its next hook. -/
def rollbackFrom (mediator : MediatorBase) (transactionId : TransactionId) :
    List Entry → MediatorBase × Frame
  | entry :: rest =>
      if entry.2.state = .prepared then
        (mediator.record (.sendRollbackRequest transactionId entry.2.id),
          .sendRollbackRequest transactionId rest)
      else rollbackFrom mediator transactionId rest
  | [] =>
      ((modifyTransaction mediator transactionId fun transaction =>
          { transaction with state := .failed }).record (.failed transactionId),
        .transactionFailed transactionId)

/-- `RollbackTransaction`, to its first hook. -/
def beginRollback (traversal : Traversal) (mediator : MediatorBase)
    (transactionId : TransactionId) : MediatorBase × Frame :=
  let transaction := mediator.transactionAt transactionId
  let rollingBack :=
    mediator.setTransaction transactionId { transaction with state := .rollingBack }
  rollbackFrom rollingBack transactionId (traversal.order transaction.participants.entries)

/-- The first loop of `OnTimer`. -/
def timedOutTransactions (traversal : Traversal) (mediator : MediatorBase) (now : ℤ) :
    List TransactionId :=
  ((traversal.order mediator.activeTransactions.entries).filter
    fun entry => MediatorBase.timedOut entry.2 now).map Sigma.fst

namespace State

/-- A call has come to a hook. -/
def enter (state : State) (below : List Frame) (result : MediatorBase × Frame) : State :=
  { state with mediator := result.1, stack := result.2 :: below }

/-- `OnParticipantReady`, to its first hook or its end. -/
def onParticipantReady (traversal : Traversal) (state : State) (transactionId : TransactionId)
    (participantId : ParticipantId) (success : Bool) (now : ℤ) : State :=
  let called := state.mediator.record (.voted transactionId participantId success)
  match state.mediator.activeTransactions.lookup transactionId with
  | none => { state with mediator := called }
  | some transaction =>
      match transaction.participants.lookup participantId with
      | none => { state with mediator := called }
      | some participant =>
          let transaction := MediatorBase.setVote transaction participantId participant success now
          let noted := called.setTransaction transactionId transaction
          if success then
            if MediatorBase.allParticipantsPrepared transaction then
              state.enter [] (beginCommit traversal noted transactionId)
            else { state with mediator := noted }
          else state.enter [] (beginRollback traversal noted transactionId)

/-- The innermost call goes on. -/
def resume (traversal : Traversal) (state : State) (below : List Frame) : Frame → State
  | .transactionStarted transactionId =>
      { state with stack := below, returned := state.returned ++ [transactionId] }
  | .sendCommitRequest transactionId entry rest =>
      let committed := modifyTransaction state.mediator transactionId fun transaction =>
        { transaction with
          participants :=
            transaction.participants.insert entry.1 { entry.2 with state := .committed } }
      state.enter below (commitFrom committed transactionId rest)
  | .sendRollbackRequest transactionId rest =>
      state.enter below (rollbackFrom state.mediator transactionId rest)
  | .transactionCompleted transactionId | .transactionFailed transactionId =>
      { state with mediator := state.mediator.eraseTransaction transactionId, stack := below }
  | .timer [] => { state with stack := below }
  | .timer (transactionId :: rest) =>
      state.enter (.timer rest :: below) (beginRollback traversal state.mediator transactionId)

/-- The derived class may roll back a returned id, in a hook one of another transaction. -/
def MayRollBack (state : State) (transactionId : TransactionId) : Prop :=
  transactionId ∈ state.returned ∧
    ∀ frame ∈ state.stack.head?, frame.hook ≠ none ∧ frame.hook ≠ some transactionId

instance (state : State) (transactionId : TransactionId) :
    Decidable (state.MayRollBack transactionId) :=
  inferInstanceAs (Decidable (_ ∧ _))

end State

/-- One step, with the order in which its loops visit the maps. -/
def step (state : State) (label : Call × Traversal) : Option State :=
  match state.stack, label.1 with
  | [], .startTransaction participantIds timeout now =>
      let started := state.mediator.startTransaction participantIds timeout now
      some (state.enter [] (started, .transactionStarted started.transactionIdGenerator))
  | [], .onParticipantReady transactionId participantId success now =>
      some (state.onParticipantReady label.2 transactionId participantId success now)
  | [], .onTimer now =>
      some { state with stack := [.timer (timedOutTransactions label.2 state.mediator now)] }
  | _, .generateElsewhere =>
      some { state with mediator := state.mediator.generateTransactionId }
  | stack, .rollbackTransaction transactionId =>
      if state.MayRollBack transactionId then
        some (state.enter stack (beginRollback label.2 state.mediator transactionId))
      else none
  | frame :: below, .goOn => some (state.resume label.2 below frame)
  | _, _ => none

end Model

/-! ### Hooks that return at once -/

section Silent

variable {mediator : MediatorBase} {transactionId other : TransactionId} {below : List Frame}
  {returned : List TransactionId}

/-- `activeTransactions[transactionId]` of an active transaction adds nothing. -/
theorem setTransaction_active (active : transactionId ∈ mediator.activeTransactions)
    (transaction : Transaction) :
    other ∈ (mediator.setTransaction transactionId transaction).activeTransactions ↔
      other ∈ mediator.activeTransactions := by
  show other ∈ mediator.activeTransactions.insert transactionId transaction ↔ _
  rw [AList.mem_insert]
  exact or_iff_right_of_imp fun same => same ▸ active

theorem modifyTransaction_active (change : Transaction → Transaction) :
    other ∈ (modifyTransaction mediator transactionId change).activeTransactions ↔
      other ∈ mediator.activeTransactions := by
  unfold modifyTransaction
  split
  · rfl
  · rename_i transaction present
    have member : transactionId ∈ mediator.activeTransactions :=
      AList.lookup_isSome.mp (Option.isSome_of_eq_some present)
    show other ∈ mediator.activeTransactions.insert transactionId (change transaction) ↔ _
    rw [AList.mem_insert]
    exact or_iff_right_of_imp fun same => same ▸ member

@[simp]
theorem modifyTransaction_trace (change : Transaction → Transaction) :
    (modifyTransaction mediator transactionId change).trace = mediator.trace := by
  unfold modifyTransaction
  split <;> rfl

/-- The reference is to the transaction as long as it is there. -/
theorem modifyTransaction_eq (active : transactionId ∈ mediator.activeTransactions)
    (change : Transaction → Transaction) :
    modifyTransaction mediator transactionId change =
      mediator.setTransaction transactionId (change (mediator.transactionAt transactionId)) := by
  obtain ⟨transaction, found⟩ := Option.isSome_iff_exists.mp (AList.lookup_isSome.mpr active)
  unfold modifyTransaction MediatorBase.transactionAt
  rw [found]
  rfl

/-- The innermost hook returns. -/
theorem reach_goOn {frame : Frame} {next later : State} (traversal : Traversal)
    (resumes : State.resume traversal ⟨mediator, frame :: below, returned⟩ below frame = next)
    (reached : Reach step Unguarded next later) :
    Reach step Unguarded ⟨mediator, frame :: below, returned⟩ later := by
  have taken : step ⟨mediator, frame :: below, returned⟩ (.goOn, traversal) = some next :=
    congrArg some resumes
  exact Reach.trans (.step .start trivial taken) reached

theorem reach_rollbackFrom (entries : List Entry)
    (active : transactionId ∈ mediator.activeTransactions) :
    Reach step Unguarded
      ⟨(rollbackFrom mediator transactionId entries).1,
        (rollbackFrom mediator transactionId entries).2 :: below, returned⟩
      ⟨(((entries.foldl (MediatorBase.rollbackParticipant transactionId) mediator).setTransaction
          transactionId
          { (entries.foldl (MediatorBase.rollbackParticipant transactionId)
              mediator).transactionAt transactionId with state := .failed }).record
          (.failed transactionId)).eraseTransaction transactionId, below, returned⟩ := by
  induction entries generalizing mediator with
  | nil =>
      rw [rollbackFrom, modifyTransaction_eq active]
      exact reach_goOn .stored rfl .start
  | cons entry rest ih =>
      rw [List.foldl_cons]
      unfold rollbackFrom MediatorBase.rollbackParticipant
      split
      · exact reach_goOn .stored rfl (ih active)
      · exact ih active

/-- **`RollbackTransaction`** is the call whose hooks return at once. -/
theorem reach_rollbackTransaction (traversal : Traversal) :
    Reach step Unguarded
      ⟨(beginRollback traversal mediator transactionId).1,
        (beginRollback traversal mediator transactionId).2 :: below, returned⟩
      ⟨mediator.rollbackTransaction traversal transactionId, below, returned⟩ :=
  reach_rollbackFrom _ (AList.mem_insert _ |>.mpr (.inl rfl))

theorem reach_commitFrom (entries : List Entry)
    (active : transactionId ∈ mediator.activeTransactions) :
    Reach step Unguarded
      ⟨(commitFrom mediator transactionId entries).1,
        (commitFrom mediator transactionId entries).2 :: below, returned⟩
      ⟨(((entries.foldl (MediatorBase.commitParticipant transactionId) mediator).setTransaction
          transactionId
          { (entries.foldl (MediatorBase.commitParticipant transactionId)
              mediator).transactionAt transactionId with state := .completed }).record
          (.completed transactionId)).eraseTransaction transactionId, below, returned⟩ := by
  induction entries generalizing mediator with
  | nil =>
      rw [commitFrom, modifyTransaction_eq active]
      exact reach_goOn .stored rfl .start
  | cons entry rest ih =>
      have sent : transactionId ∈ (mediator.record
          (.sendCommitRequest transactionId entry.2.id)).activeTransactions := active
      have round : modifyTransaction (mediator.record (.sendCommitRequest transactionId entry.2.id))
          transactionId (fun transaction =>
            { transaction with
              participants :=
                transaction.participants.insert entry.1 { entry.2 with state := .committed } }) =
          mediator.commitParticipant transactionId entry := modifyTransaction_eq sent _
      rw [List.foldl_cons]
      refine reach_goOn .stored (congrArg (fun noted => State.enter ⟨_, _, returned⟩ below
        (commitFrom noted transactionId rest)) round) ?_
      exact ih ((setTransaction_active sent _).mpr sent)

/-- **`CommitTransaction`** is the call whose hooks return at once. -/
theorem reach_commitTransaction (traversal : Traversal) :
    Reach step Unguarded
      ⟨(beginCommit traversal mediator transactionId).1,
        (beginCommit traversal mediator transactionId).2 :: below, returned⟩
      ⟨mediator.commitTransaction traversal transactionId, below, returned⟩ :=
  reach_commitFrom _ (AList.mem_insert _ |>.mpr (.inl rfl))

/-- The second loop of `OnTimer`. -/
theorem reach_timer (traversal : Traversal) (timedOut : List TransactionId) :
    Reach step Unguarded ⟨mediator, .timer timedOut :: below, returned⟩
      ⟨timedOut.foldl (fun mediator transactionId =>
        mediator.rollbackTransaction traversal transactionId) mediator, below, returned⟩ := by
  induction timedOut generalizing mediator with
  | nil => exact reach_goOn .stored rfl .start
  | cons first rest ih =>
      exact reach_goOn traversal rfl (Reach.trans (reach_rollbackTransaction traversal) ih)

/-- `OnParticipantReady`, from the vote on. -/
theorem reach_onParticipantReady (traversal : Traversal) (participantId : ParticipantId)
    (success : Bool) (now : ℤ) :
    Reach step Unguarded
      (State.onParticipantReady traversal ⟨mediator, [], returned⟩ transactionId participantId
        success now)
      ⟨mediator.onParticipantReady traversal transactionId participantId success now, [],
        returned⟩ := by
  unfold State.onParticipantReady MediatorBase.onParticipantReady
  cases mediator.activeTransactions.lookup transactionId with
  | none => exact .start
  | some transaction =>
      dsimp only
      cases transaction.participants.lookup participantId with
      | none => exact .start
      | some participant =>
          dsimp only
          split
          · split
            · exact reach_commitTransaction traversal
            · exact .start
          · exact reach_rollbackTransaction traversal

/-- **An operation is a run** in which the hooks return at once. -/
theorem reach_operation {after : MediatorBase} {label : Operation × Traversal}
    (taken : Mediator.step mediator label = some after) :
    ∃ known, Reach step Unguarded ⟨mediator, [], returned⟩ ⟨after, [], known⟩ := by
  obtain ⟨operation, traversal⟩ := label
  cases operation <;> cases taken
  case startTransaction participantIds timeout now =>
    have begun : step ⟨mediator, [], returned⟩
        (.startTransaction participantIds timeout now, traversal) = some _ := rfl
    exact ⟨_, Reach.trans (.step .start trivial begun) (reach_goOn traversal rfl .start)⟩
  case onParticipantReady transactionId participantId success now =>
    have begun : step ⟨mediator, [], returned⟩
        (.onParticipantReady transactionId participantId success now, traversal) = some _ := rfl
    exact ⟨_, Reach.trans (.step .start trivial begun)
      (reach_onParticipantReady traversal participantId success now)⟩
  case onTimer now =>
    have begun : step ⟨mediator, [], returned⟩ (.onTimer now, traversal) = some _ := rfl
    exact ⟨_, Reach.trans (.step .start trivial begun) (reach_timer traversal _)⟩
  case generateElsewhere =>
    have begun : step ⟨mediator, [], returned⟩ (.generateElsewhere, traversal) = some _ := rfl
    exact ⟨_, .step .start trivial begun⟩

/-- **The runs whose hooks do not call back** are runs. -/
theorem reach_silent (reached : Reach Mediator.step Unguarded Mediator.initial mediator) :
    ∃ known, Reach step Unguarded initial ⟨mediator, [], known⟩ := by
  induction reached with
  | start => exact ⟨[], .start⟩
  | step _ _ taken ih =>
      obtain ⟨known, earlier⟩ := ih
      obtain ⟨later, onward⟩ := reach_operation taken
      exact ⟨later, Reach.trans earlier onward⟩

end Silent

end ActorModelServer.Mediator.HookCalls
