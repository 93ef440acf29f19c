/-
**The outcome of a transaction.**

What the stories say at the boundary of the mediator: who is told what, how often, and when.

* `outcome_safe` — a transaction has at most one outcome. A completed one had every participant's
  success vote and no failure vote, and sent each one commit request; a failed one sent a rollback
  request to exactly the participants whose last vote was success. Nothing is sent after the
  outcome, and an operation on one transaction leaves the others alone.
* `prepared_told` — when a participant votes once and prepares before the outcome, it is told the
  outcome. A success vote that comes after the outcome is ignored (`prepared_late`).
-/

import ActorModelServer.Mediator.Story
import Mathlib.Data.List.Count

namespace ActorModelServer.Mediator

open StepRuns (Reach Unguarded exists_reach_of_run)

section Outcome

variable {transactionId : TransactionId} {participantIds : List ParticipantId}
  {history : List Event}

/-! ### Reading a story -/

theorem OnlyVotes.not_mem {segment : List Event} (only : OnlyVotes segment) {event : Event}
    (other : ∀ transactionId participantId success,
      event ≠ .voted transactionId participantId success) : event ∉ segment := by
  intro member
  obtain ⟨_, _, _, rfl⟩ := only event member
  exact other _ _ _ rfl

theorem OnlyVotes.count {segment : List Event} (only : OnlyVotes segment) {event : Event}
    (other : ∀ transactionId participantId success,
      event ≠ .voted transactionId participantId success) : segment.count event = 0 :=
  List.count_eq_zero_of_not_mem (only.not_mem other)

/-- What a completed transaction shows. -/
structure CompletedWell (transactionId : TransactionId) (participantIds : List ParticipantId)
    (history : List Event) : Prop where
  /-- Every participant voted success, and none failure, between the start and the outcome; before
  and after there are only votes. -/
  timeline : ∃ early during late,
    history = early ++ [.started transactionId participantIds] ++ during ++
      [.completed transactionId] ++ late ∧
    (∀ participantId ∈ participantIds, .voted transactionId participantId true ∈ during ∧
      .voted transactionId participantId false ∉ during) ∧ OnlyVotes early ∧ OnlyVotes late
  commits : ∀ participantId, history.count (.sendCommitRequest transactionId participantId) =
    if participantId ∈ participantIds then 1 else 0
  rollbacks : ∀ participantId, .sendRollbackRequest transactionId participantId ∉ history

/-- What a failed transaction shows. -/
structure FailedWell (transactionId : TransactionId) (participantIds : List ParticipantId)
    (history : List Event) : Prop where
  /-- The participants whose last vote before the outcome was success, the vote that brought it
  about included, are sent one request each; after the outcome there are only votes. -/
  timeline : ∃ early during late,
    history = early ++ [.started transactionId participantIds] ++ during ++
      [.failed transactionId] ++ late ∧
    (∀ participantId, history.count (.sendRollbackRequest transactionId participantId) =
      if participantId ∈ participantIds ∧ latestVote participantId during = some true
        then 1 else 0) ∧ OnlyVotes early ∧ OnlyVotes late
  commits : ∀ participantId, .sendCommitRequest transactionId participantId ∉ history

/-- A participant whose last vote is a success has cast it. -/
theorem voted_of_latestVote {votes : List Event} {participantId : ParticipantId}
    (own : ∀ event ∈ votes, event.transaction = transactionId) {success : Bool}
    (latest : latestVote participantId votes = some success) :
    .voted transactionId participantId success ∈ votes := by
  obtain ⟨event, member, vote⟩ := List.mem_filterMap.mp (List.mem_of_getLast? latest)
  cases event with
  | voted transaction voter choice =>
      have same := own _ member
      rw [voteOf] at vote
      split at vote
      · rename_i voterSame
        cases vote
        rw [Event.transaction] at same
        rwa [same, voterSame] at member
      · cases vote
  | _ => cases vote

/-- Requests sent to distinct participants are sent once each. -/
theorem count_requests {sent : List ParticipantId} (distinct : sent.Nodup)
    (request : ParticipantId → Event) (injective : Function.Injective request)
    (participantId : ParticipantId) :
    (sent.map request).count (request participantId) = if participantId ∈ sent then 1 else 0 := by
  rw [List.count_map_of_injective _ _ injective, distinct.count]

/-- A story with its start: the transaction is active, or it completed well, or it failed well. -/
inductive Read (transactionId : TransactionId) (participantIds : List ParticipantId)
    (history : List Event) : Option Transaction → Prop
  | active (transaction : Transaction) (uncompleted : .completed transactionId ∉ history)
      (unfailed : .failed transactionId ∉ history) :
      Read transactionId participantIds history (some transaction)
  | completed (once : history.count (.completed transactionId) = 1)
      (unfailed : .failed transactionId ∉ history)
      (well : CompletedWell transactionId participantIds history) :
      Read transactionId participantIds history none
  | failed (once : history.count (.failed transactionId) = 1)
      (uncompleted : .completed transactionId ∉ history)
      (well : FailedWell transactionId participantIds history) :
      Read transactionId participantIds history none

/-- **Reading a story** from its start on. -/
theorem Story.read {kept : Option Transaction} (story : Story transactionId history kept)
    (own : ∀ event ∈ history, event.transaction = transactionId)
    (started : .started transactionId participantIds ∈ history) :
    Read transactionId participantIds history kept := by
  cases story with
  | unstarted _ before => exact absurd started (before.not_mem fun _ _ _ => Event.noConfusion)
  | active early ids votes transaction running noFailure =>
      have before := running.before
      have during := running.during
      refine .active transaction ?_ ?_
      · simp [before.not_mem, during.not_mem]
      · simp [before.not_mem, during.not_mem]
  | committed early ids votes sent late before during behind distinct everyone prepared noFailure =>
      have same : participantIds = ids := by
        simpa [before.not_mem, during.not_mem, behind.not_mem] using started
      subst same
      refine .completed ?_ ?_ ⟨⟨early, votes ++ sent.map (.sendCommitRequest transactionId), late,
        ?_, ?_, before, behind⟩, ?_, ?_⟩
      · simp [before.count, during.count, behind.count, List.count_eq_zero]
      · simp [before.not_mem, during.not_mem, behind.not_mem]
      · simp
      · intro participantId member
        refine ⟨List.mem_append_left _ (voted_of_latestVote (fun event inside => own event ?_)
          (prepared participantId member)), ?_⟩
        · simp [inside]
        · simpa using noFailure participantId member transactionId
      · intro participantId
        have requests := count_requests distinct (.sendCommitRequest transactionId)
          (fun _ _ equal => by cases equal; rfl) participantId
        simp [before.count, during.count, behind.count, requests, everyone]
      · intro participantId
        simp [before.not_mem, during.not_mem, behind.not_mem]
  | rolledBack early ids votes sent late before during behind distinct prepared =>
      have same : participantIds = ids := by
        simpa [before.not_mem, during.not_mem, behind.not_mem] using started
      subst same
      refine .failed ?_ ?_ ⟨⟨early, votes ++ sent.map (.sendRollbackRequest transactionId), late,
        ?_, ?_, before, behind⟩, ?_⟩
      · simp [before.count, during.count, behind.count, List.count_eq_zero]
      · simp [before.not_mem, during.not_mem, behind.not_mem]
      · simp
      · intro participantId
        have requests := count_requests distinct (.sendRollbackRequest transactionId)
          (fun _ _ equal => by cases equal; rfl) participantId
        have latest : latestVote participantId
            (votes ++ sent.map (.sendRollbackRequest transactionId)) =
            latestVote participantId votes := by
          have none : (sent.map (.sendRollbackRequest transactionId)).filterMap
              (voteOf participantId) = [] := by simp [voteOf, List.filterMap_eq_nil_iff]
          rw [latestVote, List.filterMap_append, none, List.append_nil]
          rfl
        simp [before.count, during.count, behind.count, requests, prepared, latest]
      · intro participantId
        simp [before.not_mem, during.not_mem, behind.not_mem]

/-! ### The outcome -/

variable {mediator : MediatorBase}

theorem mem_about_iff (trace : List Event) (event : Event) :
    event ∈ about event.transaction trace ↔ event ∈ trace := by
  rw [about, List.mem_filter]
  simp

theorem count_about (trace : List Event) (event : Event) :
    (about event.transaction trace).count event = trace.count event :=
  List.count_filter (decide_eq_true rfl)

/-- Every started transaction of a run can be read. -/
theorem read_of_reach (reached : Reach step Unguarded initial mediator)
    (few : mediator.generated < 2 ^ 64)
    (started : .started transactionId participantIds ∈ mediator.trace) :
    Read transactionId participantIds (about transactionId mediator.trace)
      (mediator.activeTransactions.lookup transactionId) :=
  ((chronicle_of_reach reached few).stories transactionId).read
    (fun _ member => of_decide_eq_true (List.mem_filter.mp member).2)
    ((mem_about_iff _ (.started transactionId participantIds)).mpr started)

/-- **Outcome safety.** In every run with fewer than 2^64 started transactions, a transaction has
at most one outcome; it completes well or fails well; and no operation on it touches another. -/
theorem outcome_safe (reached : Reach step Unguarded initial mediator)
    (few : mediator.generated < 2 ^ 64)
    (started : .started transactionId participantIds ∈ mediator.trace) :
    mediator.trace.count (.completed transactionId) +
        mediator.trace.count (.failed transactionId) ≤ 1 ∧
      (.completed transactionId ∈ mediator.trace →
        CompletedWell transactionId participantIds (about transactionId mediator.trace)) ∧
      (.failed transactionId ∈ mediator.trace →
        FailedWell transactionId participantIds (about transactionId mediator.trace)) ∧
      Isolated mediator := by
  have read := read_of_reach reached few started
  rw [← count_about _ (.completed transactionId), ← count_about _ (.failed transactionId),
    ← mem_about_iff _ (.completed transactionId), ← mem_about_iff _ (.failed transactionId)]
  simp only [Event.transaction]
  generalize mediator.activeTransactions.lookup transactionId = kept at read
  cases read with
  | active transaction uncompleted unfailed =>
      refine ⟨?_, fun member => absurd member uncompleted, fun member => absurd member unfailed,
        isolated mediator⟩
      rw [List.count_eq_zero_of_not_mem uncompleted, List.count_eq_zero_of_not_mem unfailed]
      omega
  | completed once unfailed well =>
      refine ⟨?_, fun _ => well, fun member => absurd member unfailed, isolated mediator⟩
      rw [once, List.count_eq_zero_of_not_mem unfailed]
  | failed once uncompleted well =>
      refine ⟨?_, fun member => absurd member uncompleted, fun _ => well, isolated mediator⟩
      rw [once, List.count_eq_zero_of_not_mem uncompleted]

/-- A transaction of two participants that both prepare. -/
def preparedSchedule : List (Operation × Traversal) :=
  [(.startTransaction [1, 2] 5000 0, .stored), (.onParticipantReady 2 1 true 1, .stored),
    (.onParticipantReady 2 2 true 2, .stored)]

theorem outcome_safe_prepared : ∃ mediator : MediatorBase,
    Event.completed 2 ∈ mediator.trace ∧
      CompletedWell 2 [1, 2] (about 2 mediator.trace) := by
  obtain ⟨mediator, reached, test⟩ := exists_reach_of_run step initial
    preparedSchedule (fun mediator => decide (mediator.generated < 2 ^ 64 ∧
      .started 2 [1, 2] ∈ mediator.trace ∧ .completed 2 ∈ mediator.trace)) (by decide +kernel)
  obtain ⟨few, started, completed⟩ := of_decide_eq_true test
  exact ⟨mediator, completed, (outcome_safe reached few started).2.1 completed⟩

/-! ### Who prepares in time is told -/

/-- The participant's success vote is delivered while the transaction is active. -/
def HeardInTime (transactionId : TransactionId) (participantIds : List ParticipantId)
    (participantId : ParticipantId) (history : List Event) : Prop :=
  ∃ before after, history = before ++ .voted transactionId participantId true :: after ∧
    .started transactionId participantIds ∈ before ∧
    .completed transactionId ∉ before ∧ .failed transactionId ∉ before

section Told

variable {participantId : ParticipantId}

/-- What stands after a mark that is not repeated before, stands behind it. -/
theorem mem_behind {before after first second : List Event} {event mark : Event}
    (split : before ++ event :: after = first ++ mark :: second) (marked : mark ∈ before)
    (new : mark ∉ first) :
    ∃ between, before = first ++ mark :: between ∧ second = between ++ event :: after := by
  rcases List.append_eq_append_iff.mp split with ⟨more, rfl, _⟩ | ⟨more, rfl, rest⟩
  · exact absurd (List.mem_append_left _ marked) new
  · cases more with
    | nil => exact absurd (by simpa using marked) new
    | cons head between =>
        obtain ⟨rfl, rfl⟩ := List.cons.inj rest
        exact ⟨between, rfl, rfl⟩

/-- What stands before a mark's first place stands in front of it. -/
theorem mem_front {before after first second : List Event} {event mark : Event}
    (split : before ++ event :: after = first ++ mark :: second) (unmarked : mark ∉ before)
    (different : event ≠ mark) : event ∈ first := by
  rcases List.append_eq_append_iff.mp split with ⟨more, rfl, rest⟩ | ⟨more, rfl, rest⟩
  · cases more with
    | nil => exact absurd (List.cons.inj rest).1 different
    | cons head more =>
        rw [(List.cons.inj rest).1]
        simp
  · cases more with
    | nil => exact absurd (List.cons.inj rest).1.symm different
    | cons head more =>
        rw [(List.cons.inj rest).1] at unmarked
        simp at unmarked

variable (participantId) in
/-- In time means between the start and the outcome. -/
theorem heardInTime_iff {outcome : Event} {early during late : List Event}
    (shape : history =
      early ++ [.started transactionId participantIds] ++ during ++ [outcome] ++ late)
    (ends : outcome = .completed transactionId ∨ outcome = .failed transactionId)
    (once : history.count (.completed transactionId) + history.count (.failed transactionId) = 1)
    (before : OnlyVotes early) :
    HeardInTime transactionId participantIds participantId history ↔
      .voted transactionId participantId true ∈ during := by
  subst shape
  constructor
  · rintro ⟨front, after, split, started, uncompleted, unfailed⟩
    have unmarked : outcome ∉ front := by
      rcases ends with rfl | rfl <;> assumption
    simp only [List.append_assoc, List.singleton_append] at split
    obtain ⟨between, rfl, rest⟩ := mem_behind split.symm started
      (before.not_mem fun _ _ _ => Event.noConfusion)
    refine mem_front rest.symm (fun member => unmarked ?_) ?_
    · simp [member]
    · rcases ends with rfl | rfl <;> exact Event.noConfusion
  · intro member
    obtain ⟨first, second, rfl⟩ := List.append_of_mem member
    refine ⟨early ++ [.started transactionId participantIds] ++ first,
      second ++ [outcome] ++ late, by simp, by simp, ?_, ?_⟩
    · rw [← List.count_eq_zero]
      rcases ends with rfl | rfl <;> simp at once ⊢ <;> omega
    · rw [← List.count_eq_zero]
      rcases ends with rfl | rfl <;> simp at once ⊢ <;> omega

/-- With one vote, a participant's last vote in time is success when it was success at all. -/
theorem latestVote_once {during : List Event}
    (own : ∀ event ∈ during, event.transaction = transactionId)
    (once : during.count (.voted transactionId participantId true) +
      during.count (.voted transactionId participantId false) ≤ 1) :
    latestVote participantId during = some true ↔
      .voted transactionId participantId true ∈ during := by
  refine ⟨voted_of_latestVote own, fun member => ?_⟩
  have counted := List.count_pos_iff.mpr member
  have unique : .voted transactionId participantId false ∉ during :=
    List.count_eq_zero.mp (by omega)
  cases latest : latestVote participantId during with
  | none =>
      have silent := List.getLast?_eq_none_iff.mp latest
      have vote := List.mem_filterMap.mpr
        ⟨_, member, show voteOf participantId _ = some true from if_pos rfl⟩
      rw [silent] at vote
      cases vote
  | some success =>
      cases success with
      | true => rfl
      | false => exact absurd (voted_of_latestVote own latest) unique

/-- **No orphan among those heard in time.** A participant that votes once and whose success vote
is delivered while the transaction is active has been told the outcome, once, when the transaction
is no longer active; a vote delivered before the start or after the outcome is ignored. -/
theorem prepared_told (reached : Reach step Unguarded initial mediator)
    (few : mediator.generated < 2 ^ 64)
    (started : .started transactionId participantIds ∈ mediator.trace)
    (listed : participantId ∈ participantIds)
    (once : mediator.trace.count (.voted transactionId participantId true) +
      mediator.trace.count (.voted transactionId participantId false) ≤ 1)
    (inactive : mediator.activeTransactions.lookup transactionId = none) :
    (HeardInTime transactionId participantIds participantId (about transactionId mediator.trace) →
        mediator.trace.count (.sendCommitRequest transactionId participantId) +
          mediator.trace.count (.sendRollbackRequest transactionId participantId) = 1) ∧
      (¬ HeardInTime transactionId participantIds participantId
          (about transactionId mediator.trace) →
        mediator.trace.count (.sendCommitRequest transactionId participantId) +
          mediator.trace.count (.sendRollbackRequest transactionId participantId) = 0) := by
  have read := read_of_reach reached few started
  rw [← count_about _ (.sendCommitRequest transactionId participantId),
    ← count_about _ (.sendRollbackRequest transactionId participantId)]
  rw [← count_about _ (.voted transactionId participantId true),
    ← count_about _ (.voted transactionId participantId false)] at once
  have own : ∀ event ∈ about transactionId mediator.trace, event.transaction = transactionId :=
    fun _ member => of_decide_eq_true (List.mem_filter.mp member).2
  rw [inactive] at read
  simp only [Event.transaction] at once ⊢
  generalize about transactionId mediator.trace = history at read once own ⊢
  generalize ended : (none : Option Transaction) = kept at read
  cases read with
  | active => cases ended
  | completed count unfailed well =>
      obtain ⟨early, during, late, shape, votes, before, -⟩ := well.timeline
      have heard := (heardInTime_iff participantId shape (.inl rfl)
        (by rw [count, List.count_eq_zero_of_not_mem unfailed]) before).mpr (votes _ listed).1
      refine ⟨fun _ => ?_, fun unheard => absurd heard unheard⟩
      rw [well.commits, if_pos listed, List.count_eq_zero_of_not_mem (well.rollbacks _)]
  | failed count uncompleted well =>
      obtain ⟨early, during, late, shape, requests, before, -⟩ := well.timeline
      have heard := heardInTime_iff participantId shape (.inr rfl)
        (by rw [count, List.count_eq_zero_of_not_mem uncompleted]) before
      have latest : latestVote participantId during = some true ↔
          .voted transactionId participantId true ∈ during := by
        subst shape
        refine latestVote_once (fun event member => own event (by simp [member])) ?_
        simp only [List.count_append] at once
        omega
      rw [List.count_eq_zero_of_not_mem (well.commits _), requests, Nat.zero_add]
      refine ⟨fun inTime => if_pos ⟨listed, latest.mpr (heard.mp inTime)⟩,
        fun late => if_neg fun prepared => late (heard.mpr (latest.mp prepared.2))⟩

/-- The first participant prepares, the second one fails: the first is sent a rollback request. -/
def refusedSchedule : List (Operation × Traversal) :=
  [(.startTransaction [1, 2] 5000 0, .stored), (.onParticipantReady 2 1 true 1, .stored),
    (.onParticipantReady 2 2 false 2, .stored)]

theorem prepared_told_refused : ∃ mediator : MediatorBase,
    Event.failed 2 ∈ mediator.trace ∧
      mediator.trace.count (.sendCommitRequest 2 1) +
        mediator.trace.count (.sendRollbackRequest 2 1) = 1 := by
  obtain ⟨mediator, reached, test⟩ := exists_reach_of_run step initial
    refusedSchedule (fun mediator => decide (mediator.generated < 2 ^ 64 ∧
      mediator.trace.count (.voted 2 1 true) + mediator.trace.count (.voted 2 1 false) ≤ 1 ∧
      mediator.activeTransactions.lookup 2 = none ∧
      about 2 mediator.trace = [.started 2 [1, 2], .voted 2 1 true, .voted 2 2 false,
        .sendRollbackRequest 2 1, .failed 2])) (by decide +kernel)
  obtain ⟨few, once, inactive, history⟩ := of_decide_eq_true test
  have happened {event : Event} (member : event ∈ about 2 mediator.trace) :
      event ∈ mediator.trace := (List.mem_filter.mp member).1
  refine ⟨mediator, happened (by simp [history]),
    (prepared_told reached few (happened (by rw [history]; exact List.mem_cons_self))
      (by decide : 1 ∈ [1, 2]) once inactive).1 ?_⟩
  exact ⟨[.started 2 [1, 2]], [.voted 2 2 false, .sendRollbackRequest 2 1, .failed 2], history,
    by decide, by decide, by decide⟩

/-- The second participant's success vote comes after the first one's failure. -/
def lateSchedule : List (Operation × Traversal) :=
  [(.startTransaction [1, 2] 5000 0, .stored), (.onParticipantReady 2 1 false 1, .stored),
    (.onParticipantReady 2 2 true 2, .stored)]

/-- **Who prepares too late is told nothing.** -/
theorem prepared_late : ¬ ∀ mediator : MediatorBase, Reach step Unguarded initial mediator →
    mediator.generated < 2 ^ 64 →
    (∀ transactionId participantId,
      mediator.trace.count (.voted transactionId participantId true) +
        mediator.trace.count (.voted transactionId participantId false) ≤ 1) →
    ∀ transactionId participantIds participantId,
      .started transactionId participantIds ∈ mediator.trace → participantId ∈ participantIds →
      .voted transactionId participantId true ∈ mediator.trace →
      mediator.activeTransactions.lookup transactionId = none →
      mediator.trace.count (.sendCommitRequest transactionId participantId) +
        mediator.trace.count (.sendRollbackRequest transactionId participantId) = 1 := by
  intro told
  obtain ⟨mediator, reached, test⟩ := exists_reach_of_run step initial
    lateSchedule (fun mediator => decide (mediator.generated < 2 ^ 64 ∧
      mediator.activeTransactions.lookup 2 = none ∧
      mediator.trace = [.started 2 [1, 2], .voted 2 1 false, .failed 2, .voted 2 2 true]))
    (by decide +kernel)
  obtain ⟨few, inactive, history⟩ := of_decide_eq_true test
  have once (transactionId participantId : ℕ) :
      mediator.trace.count (.voted transactionId participantId true) +
        mediator.trace.count (.voted transactionId participantId false) ≤ 1 := by
    rw [history]
    simp only [List.count_cons, List.count_nil, beq_iff_eq, Event.voted.injEq, reduceCtorEq]
    grind
  have sent := told mediator reached few once 2 [1, 2] 2 (by simp [history]) (by decide)
    (by simp [history]) inactive
  rw [history] at sent
  exact absurd sent (by decide)

end Told

end Outcome

end ActorModelServer.Mediator
