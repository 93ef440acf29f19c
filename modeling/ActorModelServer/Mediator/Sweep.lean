/-
**The sweep of `OnTimer`.**

The first loop collects the ids of the transactions that have timed out, the second rolls each of
them back, and changes the map the first one went over.

* `rollbackAll_spec` — the second loop: distinct ids are rolled back as they were before the loop.
* `sweep_exact` — whatever the map holds, the sweep takes out exactly the transactions that have
  timed out, and calls the hooks of their rollbacks and no others.
-/

import ActorModelServer.Mediator.HookCalls
import ActorModelServer.Mediator.Outcome

namespace ActorModelServer.Mediator

open HookCalls (timedOutTransactions)

section Sweep

variable {mediator : MediatorBase} {transactionId : TransactionId} {transaction : Transaction}
  {calls : List Event}

/-- The participant an event requests to roll the transaction back. -/
def rollbackOf (transactionId : TransactionId) : Event → Option ParticipantId
  | .sendRollbackRequest requested participantId =>
      if requested = transactionId then some participantId else none
  | _ => none

/-- The time of the transaction has passed: nanoseconds against microseconds. -/
def Expired (transaction : Transaction) (now : ℤ) : Prop :=
  transaction.timeout * 1000 < now - transaction.startTime

/-- The hooks of one rollback: `OnTransactionFailed` once, and `SendRollbackRequest` once for each
participant that is prepared. -/
structure RolledBackOnce (transactionId : TransactionId) (transaction : Transaction)
    (calls : List Event) : Prop where
  failed : calls.count (.failed transactionId) = 1
  requests : (calls.filterMap (rollbackOf transactionId)).Perm
    ((transaction.participants.entries.filter fun entry => entry.2.state = .prepared).map
      fun entry => entry.2.id)
  commits : ∀ participantId, .sendCommitRequest transactionId participantId ∉ calls

/-- What `RollbackTransaction` calls, with the participants in the order of the loop. -/
def rollbackCalls (traversal : Traversal) (transactionId : TransactionId)
    (transaction : Transaction) : List Event :=
  ((traversal.order transaction.participants.entries).filter
      fun entry => entry.2.state = .prepared).map
    (fun entry => .sendRollbackRequest transactionId entry.2.id) ++ [.failed transactionId]

theorem timedOut_iff {now : ℤ} :
    MediatorBase.timedOut transaction now = true ↔ Expired transaction now :=
  decide_eq_true_iff

theorem not_expired_iff {now : ℤ} :
    ¬ Expired transaction now ↔ now - transaction.startTime ≤ transaction.timeout * 1000 :=
  Int.not_lt

theorem rollbackCalls_transaction (traversal : Traversal) :
    ∀ event ∈ rollbackCalls traversal transactionId transaction,
      event.transaction = transactionId := by
  intro event member
  rcases List.mem_append.mp member with request | last
  · obtain ⟨entry, -, rfl⟩ := List.mem_map.mp request
    rfl
  · rw [List.mem_singleton.mp last]
    rfl

/-- One rollback, in a history where nothing else is about the transaction. -/
theorem rolledBackOnce_of_about (traversal : Traversal)
    (own : about transactionId calls = rollbackCalls traversal transactionId transaction) :
    RolledBackOnce transactionId transaction calls := by
  refine ⟨?_, ?_, fun participantId sent => ?_⟩
  · have counted := count_about calls (.failed transactionId)
    rw [Event.transaction, own, rollbackCalls, List.count_append, List.count_singleton_self,
      List.count_eq_zero_of_not_mem (by simp)] at counted
    exact counted.symm
  · have requested : calls.filterMap (rollbackOf transactionId) =
        (about transactionId calls).filterMap (rollbackOf transactionId) := by
      rw [about, List.filterMap_filter]
      refine List.filterMap_congr fun event _ => ?_
      cases event with
      | sendRollbackRequest requested participantId =>
          by_cases same : requested = transactionId <;> simp [rollbackOf, Event.transaction, same]
      | started | voted | sendCommitRequest | completed | failed => simp [rollbackOf]
    have each : rollbackOf transactionId ∘
        (fun entry : Sigma fun _ : ParticipantId => Participant =>
          Event.sendRollbackRequest transactionId entry.2.id) =
        fun entry => some entry.2.id := by
      funext entry
      simp [rollbackOf]
    rw [requested, own, rollbackCalls, List.filterMap_append, List.filterMap_map, each,
      List.filterMap_eq_map', List.filterMap_cons_none rfl, List.filterMap_nil, List.append_nil]
    exact ((traversal.perm transaction.participants.entries).filter _).map _
  · have member := (mem_about_iff calls (.sendCommitRequest transactionId participantId)).mpr sent
    rw [Event.transaction, own] at member
    simp [rollbackCalls] at member

/-! ### The two loops -/

/-- **The second loop**: distinct ids are rolled back, each with the contents it had before. -/
theorem rollbackAll_spec (traversal : Traversal) {timedOut : List TransactionId}
    (distinct : timedOut.Nodup) :
    ∀ mediator : MediatorBase, ∃ calls,
      (timedOut.foldl (fun mediator transactionId =>
          mediator.rollbackTransaction traversal transactionId) mediator).trace =
        mediator.trace ++ calls ∧
      (∀ transactionId ∈ timedOut,
        (timedOut.foldl (fun mediator transactionId =>
          mediator.rollbackTransaction traversal transactionId)
          mediator).activeTransactions.lookup transactionId = none ∧
        about transactionId calls =
          rollbackCalls traversal transactionId (mediator.transactionAt transactionId)) ∧
      ∀ event ∈ calls, event.transaction ∈ timedOut := by
  induction timedOut with
  | nil => exact fun mediator => ⟨[], by simp, nofun, nofun⟩
  | cons first rest ih =>
      intro mediator
      obtain ⟨new, distinct⟩ := List.nodup_cons.mp distinct
      obtain ⟨works, gone, trace⟩ := rollbackTransaction_spec mediator first traversal
      obtain ⟨calls, later, each, inside⟩ := ih distinct
        (mediator.rollbackTransaction traversal first)
      refine ⟨rollbackCalls traversal first (mediator.transactionAt first) ++ calls, ?_, ?_, ?_⟩
      · rw [List.foldl_cons, later, trace, rollbackCalls, List.append_assoc, List.append_assoc,
          List.append_assoc]
      · intro transactionId member
        rw [about_append, List.foldl_cons]
        rcases List.mem_cons.mp member with rfl | member
        · have kept := ((rollbackAll_others traversal rest
            (mediator.rollbackTransaction traversal transactionId)).1 transactionId new).kept
          refine ⟨kept.trans gone, ?_⟩
          rw [about_all (rollbackCalls_transaction traversal)]
          have none : about transactionId calls = [] := by
            refine List.filter_eq_nil_iff.mpr fun event called => ?_
            intro same
            exact new (of_decide_eq_true same ▸ inside event called)
          rw [none, List.append_nil]
        · have different : transactionId ≠ first := fun same => new (same ▸ member)
          obtain ⟨gone, own⟩ := each transactionId member
          refine ⟨gone, ?_⟩
          have none : about transactionId
              (rollbackCalls traversal first (mediator.transactionAt first)) = [] := by
            refine List.filter_eq_nil_iff.mpr fun event called same => different ?_
            rw [← of_decide_eq_true same, rollbackCalls_transaction traversal event called]
          have same : (mediator.rollbackTransaction traversal first).transactionAt transactionId =
              mediator.transactionAt transactionId := by
            unfold MediatorBase.transactionAt
            rw [works.others transactionId different]
          rw [none, List.nil_append, own, same]
      · intro event member
        rcases List.mem_append.mp member with called | called
        · rw [rollbackCalls_transaction traversal event called]
          exact .head _
        · exact List.mem_cons_of_mem _ (inside event called)

/-- **The first loop** collects the ids whose time has passed, each once. -/
theorem timedOutTransactions_spec (traversal : Traversal) (mediator : MediatorBase) (now : ℤ) :
    (timedOutTransactions traversal mediator now).Nodup ∧
      ∀ transactionId, transactionId ∈ timedOutTransactions traversal mediator now ↔
        ∃ transaction, mediator.activeTransactions.lookup transactionId = some transaction ∧
          Expired transaction now := by
  have distinct : ((traversal.order mediator.activeTransactions.entries).map Sigma.fst).Nodup :=
    ((traversal.perm _).map Sigma.fst).nodup_iff.mpr mediator.activeTransactions.keys_nodup
  refine ⟨distinct.sublist (List.filter_sublist.map Sigma.fst), fun transactionId => ?_⟩
  constructor
  · intro member
    obtain ⟨entry, chosen, rfl⟩ := List.mem_map.mp member
    obtain ⟨visited, late⟩ := List.mem_filter.mp chosen
    exact ⟨entry.2, AList.mem_lookup_iff.mpr ((traversal.perm _).mem_iff.mp visited),
      timedOut_iff.mp late⟩
  · rintro ⟨transaction, present, expired⟩
    have visited := (traversal.perm _).mem_iff.mpr (AList.mem_lookup_iff.mp present)
    exact List.mem_map.mpr
      ⟨⟨transactionId, transaction⟩, List.mem_filter.mpr ⟨visited, timedOut_iff.mpr expired⟩, rfl⟩

/-- **The sweep is exact.** After `OnTimer` the transactions whose time has not passed are active
with the same contents, and no others are; each of the others was rolled back once; and no other
hook was called. -/
theorem sweep_exact (traversal : Traversal) (mediator : MediatorBase) (now : ℤ) :
    (∀ transactionId transaction,
      (mediator.onTimer traversal now).activeTransactions.lookup transactionId =
          some transaction ↔
        mediator.activeTransactions.lookup transactionId = some transaction ∧
          now - transaction.startTime ≤ transaction.timeout * 1000) ∧
    ∃ calls, (mediator.onTimer traversal now).trace = mediator.trace ++ calls ∧
      (∀ transactionId transaction,
        mediator.activeTransactions.lookup transactionId = some transaction →
          Expired transaction now → RolledBackOnce transactionId transaction calls) ∧
      ∀ event ∈ calls, ∃ transaction,
        mediator.activeTransactions.lookup event.transaction = some transaction ∧
          Expired transaction now := by
  obtain ⟨distinct, collected⟩ := timedOutTransactions_spec traversal mediator now
  obtain ⟨calls, trace, each, inside⟩ := rollbackAll_spec traversal distinct mediator
  have others := (rollbackAll_others traversal (timedOutTransactions traversal mediator now)
    mediator).1
  refine ⟨fun transactionId transaction => ?_, calls, trace, ?_, ?_⟩
  · by_cases late : transactionId ∈ timedOutTransactions traversal mediator now
    · obtain ⟨stored, present, expired⟩ := (collected transactionId).mp late
      refine iff_of_false (fun active => ?_) ?_
      · rw [MediatorBase.onTimer, ← timedOutTransactions, (each transactionId late).1] at active
        cases active
      · rintro ⟨same, live⟩
        cases present.symm.trans same
        exact not_expired_iff.mpr live expired
    · rw [MediatorBase.onTimer, ← timedOutTransactions, (others transactionId late).kept]
      refine (and_iff_left_of_imp fun present => ?_).symm
      exact not_expired_iff.mp fun expired =>
        late ((collected transactionId).mpr ⟨transaction, present, expired⟩)
  · intro transactionId transaction present expired
    have own := (each transactionId ((collected transactionId).mpr ⟨_, present, expired⟩)).2
    rw [MediatorBase.transactionAt, present, Option.getD_some] at own
    exact rolledBackOnce_of_about traversal own
  · exact fun event called => (collected event.transaction).mp (inside event called)

end Sweep

end ActorModelServer.Mediator
