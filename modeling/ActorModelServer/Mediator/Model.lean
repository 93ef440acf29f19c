/-
**The mediator's transactions.**

`MediatorBase` with its operations `StartTransaction`, `OnParticipantReady` and `OnTimer`. A map is
an association list without duplicate keys; a loop over a map visits its entries in an order the
operation is given (`Traversal`), since the map leaves it open. `trace` is the history: every
started transaction, every delivered vote and every call of a hook, in order. The hooks do not call
back.

* `step` — one operation. Transaction ids are the values of a 64-bit counter all mediators
  share; `generateElsewhere` is another mediator taking one.
* `commitTransaction_spec`, `rollbackTransaction_spec` — what ending a transaction does: it is gone,
  the others are as they were, and its hooks were called.
-/

import ActorModelServer.Library.Runs
import Mathlib.Algebra.Group.Nat.Defs
import Mathlib.Data.List.AList
import Mathlib.Data.List.Perm.Basic

namespace ActorModelServer.Mediator

section Model

/-- `TransactionIdType` and `ParticipantIdType`, unsigned 64-bit numbers. -/
abbrev TransactionId := ℕ

abbrev ParticipantId := ℕ

/-- `MEDIATOR_TRANSACTION_STATE`. -/
inductive TransactionState
  | pending
  | preparing
  | committing
  | completed
  | failed
  | rollingBack
  deriving DecidableEq, Repr

/-- `PARTICIPANT_STATE`. -/
inductive ParticipantState
  | waiting
  | prepared
  | committed
  | failed
  deriving DecidableEq, Repr

/-- `Participant`; times are nanoseconds of the steady clock. -/
structure Participant where
  id : ParticipantId
  state : ParticipantState
  lastUpdate : ℤ
  deriving DecidableEq, Repr

/-- `Participant{ participantId }`. -/
def Participant.new (id : ParticipantId) : Participant := ⟨id, .waiting, 0⟩

/-- The participants of a transaction. -/
abbrev Participants := AList fun _ : ParticipantId => Participant

/-- `Transaction`; the timeout is in microseconds. -/
structure Transaction where
  id : TransactionId
  state : TransactionState
  participants : Participants
  startTime : ℤ
  timeout : ℤ

/-- The value `activeTransactions[transactionId]` creates. -/
def Transaction.new : Transaction := ⟨0, .pending, ∅, 0, 5000⟩

/-- What happens at the mediator's boundary. -/
inductive Event
  | started (transaction : TransactionId) (participants : List ParticipantId)
  | voted (transaction : TransactionId) (participant : ParticipantId) (success : Bool)
  | sendCommitRequest (transaction : TransactionId) (participant : ParticipantId)
  | sendRollbackRequest (transaction : TransactionId) (participant : ParticipantId)
  | completed (transaction : TransactionId)
  | failed (transaction : TransactionId)
  deriving DecidableEq, Repr

/-- The transaction an event is about. -/
def Event.transaction : Event → TransactionId
  | .started transaction _ => transaction
  | .voted transaction _ _ => transaction
  | .sendCommitRequest transaction _ => transaction
  | .sendRollbackRequest transaction _ => transaction
  | .completed transaction => transaction
  | .failed transaction => transaction

/-- The events of a history that are about one transaction. -/
def about (transactionId : TransactionId) (trace : List Event) : List Event :=
  trace.filter fun event => event.transaction = transactionId

/-- The event starts a transaction. -/
def Event.starts : Event → Bool
  | .started _ _ => true
  | _ => false

/-- The order in which loops visit the entries of the maps. -/
structure Traversal where
  order : {α : Type} → List α → List α
  perm : ∀ {α : Type} (list : List α), (order list).Perm list

/-- The order in which the entries are stored. -/
def Traversal.stored : Traversal := ⟨fun list => list, fun list => .refl list⟩

/-- The mediator, its history, and the counter it shares with the other mediators. -/
structure MediatorBase where
  activeTransactions : AList fun _ : TransactionId => Transaction
  transactionIdGenerator : ℕ
  /-- How many ids have been generated, here and elsewhere. -/
  generated : ℕ
  trace : List Event

/-- The first mediator of the program. -/
def initial : MediatorBase := ⟨∅, 1, 0, []⟩

namespace MediatorBase

/-- History grows. -/
def record (mediator : MediatorBase) (event : Event) : MediatorBase :=
  { mediator with trace := mediator.trace ++ [event] }

/-- `activeTransactions[transactionId]`, read. -/
def transactionAt (mediator : MediatorBase) (transactionId : TransactionId) : Transaction :=
  (mediator.activeTransactions.lookup transactionId).getD .new

/-- `activeTransactions[transactionId] = transaction`. -/
def setTransaction (mediator : MediatorBase) (transactionId : TransactionId)
    (transaction : Transaction) : MediatorBase :=
  { mediator with
    activeTransactions := mediator.activeTransactions.insert transactionId transaction }

/-- `activeTransactions.erase(transactionId)`. -/
def eraseTransaction (mediator : MediatorBase) (transactionId : TransactionId) : MediatorBase :=
  { mediator with activeTransactions := mediator.activeTransactions.erase transactionId }

/-- `GenerateTransactionId`: the counter wraps at 2^64. -/
def generateTransactionId (mediator : MediatorBase) : MediatorBase :=
  { mediator with
    transactionIdGenerator := (mediator.transactionIdGenerator + 1) % 2 ^ 64
    generated := mediator.generated + 1 }

/-- `StartTransaction`; the id it returns is the counter's new value. -/
def startTransaction (mediator : MediatorBase) (participantIds : List ParticipantId)
    (timeout now : ℤ) : MediatorBase :=
  let generated := mediator.generateTransactionId
  let transactionId := generated.transactionIdGenerator
  let transaction := generated.transactionAt transactionId
  let participants := participantIds.foldl
    (fun participants participantId =>
      participants.insert participantId (.new participantId)) transaction.participants
  (generated.setTransaction transactionId
    { transaction with
      id := transactionId
      startTime := now
      timeout := timeout
      participants := participants }).record (.started transactionId participantIds)

/-- One round of the loop of `CommitTransaction`. -/
def commitParticipant (transactionId : TransactionId) (mediator : MediatorBase)
    (entry : Sigma fun _ : ParticipantId => Participant) : MediatorBase :=
  let sent := mediator.record (.sendCommitRequest transactionId entry.2.id)
  let transaction := sent.transactionAt transactionId
  sent.setTransaction transactionId
    { transaction with
      participants := transaction.participants.insert entry.1 { entry.2 with state := .committed } }

/-- `CommitTransaction`. -/
def commitTransaction (traversal : Traversal) (mediator : MediatorBase)
    (transactionId : TransactionId) : MediatorBase :=
  let transaction := mediator.transactionAt transactionId
  let committing := mediator.setTransaction transactionId { transaction with state := .committing }
  let sent := (traversal.order transaction.participants.entries).foldl
    (commitParticipant transactionId) committing
  let completed := sent.setTransaction transactionId
    { sent.transactionAt transactionId with state := .completed }
  (completed.record (.completed transactionId)).eraseTransaction transactionId

/-- One round of the loop of `RollbackTransaction`. -/
def rollbackParticipant (transactionId : TransactionId) (mediator : MediatorBase)
    (entry : Sigma fun _ : ParticipantId => Participant) : MediatorBase :=
  if entry.2.state = .prepared then
    mediator.record (.sendRollbackRequest transactionId entry.2.id)
  else mediator

/-- `RollbackTransaction`. -/
def rollbackTransaction (traversal : Traversal) (mediator : MediatorBase)
    (transactionId : TransactionId) : MediatorBase :=
  let transaction := mediator.transactionAt transactionId
  let rollingBack :=
    mediator.setTransaction transactionId { transaction with state := .rollingBack }
  let sent := (traversal.order transaction.participants.entries).foldl
    (rollbackParticipant transactionId) rollingBack
  let failed := sent.setTransaction transactionId
    { sent.transactionAt transactionId with state := .failed }
  (failed.record (.failed transactionId)).eraseTransaction transactionId

/-- `AllParticipantsPrepared`. -/
def allParticipantsPrepared (transaction : Transaction) : Bool :=
  transaction.participants.entries.all fun entry => entry.2.state == .prepared

/-- A participant's vote is noted: `lastUpdate` and `state` change. -/
def setVote (transaction : Transaction) (participantId : ParticipantId) (participant : Participant)
    (success : Bool) (now : ℤ) : Transaction :=
  { transaction with
    participants := transaction.participants.insert participantId { participant with
      lastUpdate := now
      state := if success then .prepared else .failed } }

/-- `OnParticipantReady`; the vote is recorded whether or not it is taken. -/
def onParticipantReady (traversal : Traversal) (mediator : MediatorBase)
    (transactionId : TransactionId) (participantId : ParticipantId) (success : Bool) (now : ℤ) :
    MediatorBase :=
  let called := mediator.record (.voted transactionId participantId success)
  match mediator.activeTransactions.lookup transactionId with
  | none => called
  | some transaction =>
      match transaction.participants.lookup participantId with
      | none => called
      | some participant =>
          let transaction := setVote transaction participantId participant success now
          let noted := called.setTransaction transactionId transaction
          if success then
            if allParticipantsPrepared transaction then
              noted.commitTransaction traversal transactionId
            else noted
          else noted.rollbackTransaction traversal transactionId

/-- The test of `OnTimer`: nanoseconds against microseconds. -/
def timedOut (transaction : Transaction) (now : ℤ) : Bool :=
  decide (now - transaction.startTime > transaction.timeout * 1000)

/-- `OnTimer`: collect what timed out, then roll it back. -/
def onTimer (traversal : Traversal) (mediator : MediatorBase) (now : ℤ) : MediatorBase :=
  let timedOutTransactions :=
    ((traversal.order mediator.activeTransactions.entries).filter
      fun entry => timedOut entry.2 now).map Sigma.fst
  timedOutTransactions.foldl (fun mediator transactionId =>
    mediator.rollbackTransaction traversal transactionId) mediator

end MediatorBase

/-- An operation of the mediator, or of another one on the shared counter. -/
inductive Operation
  | startTransaction (participantIds : List ParticipantId) (timeout now : ℤ)
  | onParticipantReady (transactionId : TransactionId) (participantId : ParticipantId)
      (success : Bool) (now : ℤ)
  | onTimer (now : ℤ)
  | generateElsewhere

/-- One operation, with the order in which its loops visit the maps. -/
def step (mediator : MediatorBase) (label : Operation × Traversal) : Option MediatorBase :=
  match label.1 with
  | .startTransaction participantIds timeout now =>
      some (mediator.startTransaction participantIds timeout now)
  | .onParticipantReady transactionId participantId success now =>
      some (mediator.onParticipantReady label.2 transactionId participantId success now)
  | .onTimer now => some (mediator.onTimer label.2 now)
  | .generateElsewhere => some mediator.generateTransactionId

/-! ### What ending a transaction does -/

section Ending

variable {mediator after : MediatorBase} {transactionId other : TransactionId}

@[simp]
theorem record_activeTransactions (event : Event) :
    (mediator.record event).activeTransactions = mediator.activeTransactions := rfl

@[simp]
theorem record_trace (event : Event) :
    (mediator.record event).trace = mediator.trace ++ [event] := rfl

@[simp]
theorem setTransaction_trace (transaction : Transaction) :
    (mediator.setTransaction transactionId transaction).trace = mediator.trace := rfl

@[simp]
theorem eraseTransaction_trace :
    (mediator.eraseTransaction transactionId).trace = mediator.trace := rfl

/-- An operation works on one transaction: the others, with their histories, and the counter
stay. -/
structure WorksOn (transactionId : TransactionId) (mediator after : MediatorBase) : Prop where
  others : ∀ other, other ≠ transactionId →
    after.activeTransactions.lookup other = mediator.activeTransactions.lookup other
  histories : ∀ other, other ≠ transactionId → about other after.trace = about other mediator.trace
  generator : after.transactionIdGenerator = mediator.transactionIdGenerator
  generated : after.generated = mediator.generated

theorem WorksOn.refl : WorksOn transactionId mediator mediator :=
  ⟨fun _ _ => rfl, fun _ _ => rfl, rfl, rfl⟩

theorem WorksOn.trans {middle : MediatorBase} (first : WorksOn transactionId mediator middle)
    (second : WorksOn transactionId middle after) : WorksOn transactionId mediator after where
  others := fun other different =>
    (second.others other different).trans (first.others other different)
  histories := fun other different =>
    (second.histories other different).trans (first.histories other different)
  generator := second.generator.trans first.generator
  generated := second.generated.trans first.generated

theorem worksOn_record (event : Event) (own : event.transaction = transactionId) :
    WorksOn transactionId mediator (mediator.record event) where
  others := fun _ _ => rfl
  histories := fun other different => by
    rw [record_trace, about, List.filter_append, List.filter_singleton]
    simp [own, different.symm, about]
  generator := rfl
  generated := rfl

theorem worksOn_setTransaction (transaction : Transaction) :
    WorksOn transactionId mediator (mediator.setTransaction transactionId transaction) :=
  ⟨fun _ different => AList.lookup_insert_ne different, fun _ _ => rfl, rfl, rfl⟩

theorem worksOn_eraseTransaction :
    WorksOn transactionId mediator (mediator.eraseTransaction transactionId) :=
  ⟨fun _ different => AList.lookup_erase_ne different, fun _ _ => rfl, rfl, rfl⟩

theorem lookup_setTransaction (transaction : Transaction) :
    (mediator.setTransaction transactionId transaction).activeTransactions.lookup transactionId =
      some transaction :=
  AList.lookup_insert _

theorem lookup_eraseTransaction :
    (mediator.eraseTransaction transactionId).activeTransactions.lookup transactionId = none :=
  AList.lookup_erase _ _

/-- The loop of `CommitTransaction`: one request for each visited entry. -/
theorem commitParticipants_spec (transactionId : TransactionId)
    (entries : List (Sigma fun _ : ParticipantId => Participant)) :
    ∀ mediator : MediatorBase,
      WorksOn transactionId mediator
          (entries.foldl (MediatorBase.commitParticipant transactionId) mediator) ∧
        (entries.foldl (MediatorBase.commitParticipant transactionId) mediator).trace =
          mediator.trace ++
            entries.map fun entry => .sendCommitRequest transactionId entry.2.id := by
  induction entries with
  | nil => exact fun mediator => ⟨.refl, by simp⟩
  | cons entry rest ih =>
      intro mediator
      obtain ⟨works, trace⟩ := ih (mediator.commitParticipant transactionId entry)
      refine ⟨WorksOn.trans ?_ works, ?_⟩
      · exact (worksOn_record (.sendCommitRequest transactionId entry.2.id) rfl).trans
          (worksOn_setTransaction _)
      · rw [List.foldl_cons, trace, MediatorBase.commitParticipant]
        simp

/-- The loop of `RollbackTransaction`: one request for each visited entry that is prepared. -/
theorem rollbackParticipants_spec (transactionId : TransactionId)
    (entries : List (Sigma fun _ : ParticipantId => Participant)) :
    ∀ mediator : MediatorBase,
      WorksOn transactionId mediator
          (entries.foldl (MediatorBase.rollbackParticipant transactionId) mediator) ∧
        (entries.foldl (MediatorBase.rollbackParticipant transactionId) mediator).trace =
          mediator.trace ++ (entries.filter fun entry => entry.2.state = .prepared).map
            fun entry => .sendRollbackRequest transactionId entry.2.id := by
  induction entries with
  | nil => exact fun mediator => ⟨.refl, by simp⟩
  | cons entry rest ih =>
      intro mediator
      obtain ⟨works, trace⟩ := ih (mediator.rollbackParticipant transactionId entry)
      by_cases prepared : entry.2.state = .prepared
      · have round : mediator.rollbackParticipant transactionId entry =
            mediator.record (.sendRollbackRequest transactionId entry.2.id) := if_pos prepared
        rw [round] at works trace
        refine ⟨?_, ?_⟩
        · rw [List.foldl_cons, round]
          exact (worksOn_record (.sendRollbackRequest transactionId entry.2.id) rfl).trans works
        · rw [List.foldl_cons, round, trace, List.filter_cons_of_pos (by simpa using prepared)]
          simp
      · have round : mediator.rollbackParticipant transactionId entry = mediator := if_neg prepared
        rw [round] at works trace
        refine ⟨?_, ?_⟩
        · rw [List.foldl_cons, round]
          exact works
        · rw [List.foldl_cons, round, trace, List.filter_cons_of_neg (by simpa using prepared)]

/-- **`CommitTransaction`**: every participant is sent one commit request, then the transaction
completes and is gone. -/
theorem commitTransaction_spec (mediator : MediatorBase) (transactionId : TransactionId)
    (traversal : Traversal) :
    WorksOn transactionId mediator (mediator.commitTransaction traversal transactionId) ∧
      (mediator.commitTransaction traversal transactionId).activeTransactions.lookup
        transactionId = none ∧
      (mediator.commitTransaction traversal transactionId).trace = mediator.trace ++
        ((traversal.order (mediator.transactionAt transactionId).participants.entries).map
          fun entry => .sendCommitRequest transactionId entry.2.id) ++
        [.completed transactionId] := by
  obtain ⟨works, trace⟩ := commitParticipants_spec transactionId
    (traversal.order (mediator.transactionAt transactionId).participants.entries)
    (mediator.setTransaction transactionId
      { mediator.transactionAt transactionId with state := .committing })
  refine ⟨?_, lookup_eraseTransaction, ?_⟩
  · refine (worksOn_setTransaction _).trans (works.trans ?_)
    exact (worksOn_setTransaction _).trans
      ((worksOn_record (.completed transactionId) rfl).trans worksOn_eraseTransaction)
  · simp [MediatorBase.commitTransaction, trace]

/-- **`RollbackTransaction`**: every prepared participant is sent one rollback request, then the
transaction fails and is gone. -/
theorem rollbackTransaction_spec (mediator : MediatorBase) (transactionId : TransactionId)
    (traversal : Traversal) :
    WorksOn transactionId mediator (mediator.rollbackTransaction traversal transactionId) ∧
      (mediator.rollbackTransaction traversal transactionId).activeTransactions.lookup
        transactionId = none ∧
      (mediator.rollbackTransaction traversal transactionId).trace = mediator.trace ++
        (((traversal.order (mediator.transactionAt transactionId).participants.entries).filter
          fun entry => entry.2.state = .prepared).map
          fun entry => .sendRollbackRequest transactionId entry.2.id) ++
        [.failed transactionId] := by
  obtain ⟨works, trace⟩ := rollbackParticipants_spec transactionId
    (traversal.order (mediator.transactionAt transactionId).participants.entries)
    (mediator.setTransaction transactionId
      { mediator.transactionAt transactionId with state := .rollingBack })
  refine ⟨?_, lookup_eraseTransaction, ?_⟩
  · refine (worksOn_setTransaction _).trans (works.trans ?_)
    exact (worksOn_setTransaction _).trans
      ((worksOn_record (.failed transactionId) rfl).trans worksOn_eraseTransaction)
  · simp [MediatorBase.rollbackTransaction, trace]

theorem transactionAt_setTransaction (transaction : Transaction) :
    (mediator.setTransaction transactionId transaction).transactionAt transactionId =
      transaction := by
  rw [MediatorBase.transactionAt, lookup_setTransaction, Option.getD_some]

/-- The branches of `OnParticipantReady`, after the vote is recorded. -/
inductive VoteMoves (traversal : Traversal) (mediator : MediatorBase)
    (transactionId : TransactionId) (participantId : ParticipantId) (now : ℤ) :
    Bool → MediatorBase → Prop
  | inactive (success : Bool) (absent : mediator.activeTransactions.lookup transactionId = none) :
      VoteMoves traversal mediator transactionId participantId now success
        (mediator.record (.voted transactionId participantId success))
  | stranger (success : Bool) (transaction : Transaction)
      (present : mediator.activeTransactions.lookup transactionId = some transaction)
      (unknown : transaction.participants.lookup participantId = none) :
      VoteMoves traversal mediator transactionId participantId now success
        (mediator.record (.voted transactionId participantId success))
  | committed (transaction : Transaction) (participant : Participant)
      (present : mediator.activeTransactions.lookup transactionId = some transaction)
      (found : transaction.participants.lookup participantId = some participant)
      (ready : MediatorBase.allParticipantsPrepared
        (MediatorBase.setVote transaction participantId participant true now) = true) :
      VoteMoves traversal mediator transactionId participantId now true
        (((mediator.record (.voted transactionId participantId true)).setTransaction transactionId
          (MediatorBase.setVote transaction participantId participant true now)).commitTransaction
          traversal transactionId)
  | prepared (transaction : Transaction) (participant : Participant)
      (present : mediator.activeTransactions.lookup transactionId = some transaction)
      (found : transaction.participants.lookup participantId = some participant)
      (unready : MediatorBase.allParticipantsPrepared
        (MediatorBase.setVote transaction participantId participant true now) = false) :
      VoteMoves traversal mediator transactionId participantId now true
        ((mediator.record (.voted transactionId participantId true)).setTransaction transactionId
          (MediatorBase.setVote transaction participantId participant true now))
  | rolledBack (transaction : Transaction) (participant : Participant)
      (present : mediator.activeTransactions.lookup transactionId = some transaction)
      (found : transaction.participants.lookup participantId = some participant) :
      VoteMoves traversal mediator transactionId participantId now false
        (((mediator.record (.voted transactionId participantId false)).setTransaction transactionId
          (MediatorBase.setVote transaction participantId participant false
            now)).rollbackTransaction traversal transactionId)

/-- **Inversion of `OnParticipantReady`.** -/
theorem onParticipantReady_moves (mediator : MediatorBase) (transactionId : TransactionId)
    (traversal : Traversal) (participantId : ParticipantId)
    (success : Bool) (now : ℤ) :
    VoteMoves traversal mediator transactionId participantId now success
      (mediator.onParticipantReady traversal transactionId participantId success now) := by
  fun_cases MediatorBase.onParticipantReady traversal mediator transactionId participantId success
    now
  case case1 called absent => exact .inactive success absent
  case case2 called transaction present unknown =>
    exact .stranger success transaction present unknown
  case case3 called transaction present participant found _ _ succeeded ready =>
    subst succeeded
    exact .committed transaction participant present found ready
  case case4 called transaction present participant found _ _ succeeded unready =>
    subst succeeded
    exact .prepared transaction participant present found (Bool.eq_false_iff.mpr unready)
  case case5 called transaction present participant found _ _ failed =>
    obtain rfl := Bool.eq_false_iff.mpr failed
    exact .rolledBack transaction participant present found

/-- A vote works on its own transaction. -/
theorem onParticipantReady_worksOn (mediator : MediatorBase) (transactionId : TransactionId)
    (traversal : Traversal) (participantId : ParticipantId)
    (success : Bool) (now : ℤ) :
    WorksOn transactionId mediator
      (mediator.onParticipantReady traversal transactionId participantId success now) := by
  have moved := onParticipantReady_moves mediator transactionId
    traversal participantId success now
  have called : WorksOn transactionId mediator
      (mediator.record (.voted transactionId participantId success)) := worksOn_record _ rfl
  have noted (transaction : Transaction) : WorksOn transactionId mediator
      ((mediator.record (.voted transactionId participantId success)).setTransaction transactionId
        transaction) := called.trans (worksOn_setTransaction _)
  generalize mediator.onParticipantReady traversal transactionId participantId success now = after
    at moved ⊢
  cases moved with
  | inactive => exact called
  | stranger => exact called
  | committed => exact (noted _).trans (commitTransaction_spec _ _ traversal).1
  | prepared => exact noted _
  | rolledBack => exact (noted _).trans (rollbackTransaction_spec _ _ traversal).1

/-- What the mediator keeps of a transaction, and its history, stay. -/
structure Untouched (other : TransactionId) (mediator after : MediatorBase) : Prop where
  kept : after.activeTransactions.lookup other = mediator.activeTransactions.lookup other
  history : about other after.trace = about other mediator.trace

theorem WorksOn.untouched (works : WorksOn transactionId mediator after)
    (different : other ≠ transactionId) : Untouched other mediator after :=
  ⟨works.others other different, works.histories other different⟩

theorem Untouched.trans {middle : MediatorBase} (first : Untouched other mediator middle)
    (second : Untouched other middle after) : Untouched other mediator after :=
  ⟨second.kept.trans first.kept, second.history.trans first.history⟩

/-- The second loop of `OnTimer` leaves what it was not given, and the counter. -/
theorem rollbackAll_others (traversal : Traversal) (timedOut : List TransactionId) :
    ∀ mediator : MediatorBase,
      (∀ other, other ∉ timedOut → Untouched other mediator
        (timedOut.foldl (fun mediator transactionId =>
          mediator.rollbackTransaction traversal transactionId) mediator)) ∧
        (timedOut.foldl (fun mediator transactionId =>
          mediator.rollbackTransaction traversal transactionId) mediator).generated =
          mediator.generated := by
  induction timedOut with
  | nil => exact fun mediator => ⟨fun _ _ => ⟨rfl, rfl⟩, rfl⟩
  | cons first rest ih =>
      intro mediator
      have works := (rollbackTransaction_spec mediator first traversal).1
      obtain ⟨others, generated⟩ := ih (mediator.rollbackTransaction traversal first)
      refine ⟨fun other absent => ?_, generated.trans works.generated⟩
      obtain ⟨different, later⟩ := not_or.mp (mt List.mem_cons.mpr absent)
      exact (works.untouched different).trans (others other later)

/-- An operation on one transaction leaves the others: a vote, a rollback, a start, and the sweep
of the transactions that have timed out. -/
structure Isolated (mediator : MediatorBase) : Prop where
  onParticipantReady : ∀ transactionId other, other ≠ transactionId →
    ∀ traversal participantId success now, Untouched other mediator
      (mediator.onParticipantReady traversal transactionId participantId success now)
  rollbackTransaction : ∀ transactionId other, other ≠ transactionId →
    ∀ traversal, Untouched other mediator (mediator.rollbackTransaction traversal transactionId)
  startTransaction : ∀ other, other ≠ mediator.generateTransactionId.transactionIdGenerator →
    ∀ participantIds timeout now,
      Untouched other mediator (mediator.startTransaction participantIds timeout now)
  onTimer : ∀ other now, (∀ transaction,
      mediator.activeTransactions.lookup other = some transaction →
        MediatorBase.timedOut transaction now = false) →
    ∀ traversal, Untouched other mediator (mediator.onTimer traversal now)

/-- **Isolation** of the transactions from each other. -/
theorem isolated (mediator : MediatorBase) : Isolated mediator where
  onParticipantReady := fun transactionId _ different traversal participantId success now =>
    (onParticipantReady_worksOn mediator transactionId traversal participantId success
      now).untouched different
  rollbackTransaction := fun transactionId _ different traversal =>
    (rollbackTransaction_spec mediator transactionId traversal).1.untouched different
  startTransaction := fun other different participantIds timeout now => by
    have works : WorksOn mediator.generateTransactionId.transactionIdGenerator
        mediator.generateTransactionId (mediator.startTransaction participantIds timeout now) :=
      (worksOn_setTransaction _).trans (worksOn_record _ rfl)
    have same : Untouched other mediator mediator.generateTransactionId := ⟨rfl, rfl⟩
    exact same.trans (works.untouched different)
  onTimer := fun other now running traversal => by
    refine (rollbackAll_others traversal _ mediator).1 other fun member => ?_
    obtain ⟨entry, chosen, rfl⟩ := List.mem_map.mp member
    obtain ⟨visited, late⟩ := List.mem_filter.mp chosen
    have kept := AList.mem_lookup_iff.mpr ((traversal.perm _).mem_iff.mp visited)
    rw [running entry.2 kept] at late
    cases late

end Ending

end Model

end ActorModelServer.Mediator
