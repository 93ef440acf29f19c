/-
**The order of the votes.**

The votes for one transaction come in any order, success votes as often as the participants send
them, and with votes of others among them. `Delivery` is one call of `OnParticipantReady`.

* `Stage` — what a transaction has come to after some of its votes: it reflects them as long as
  they do not decide it, and then has had its one terminal hook.
* `vote_order` — any two orders of the same votes end with the same hook, at the delivery that
  decides.
-/

import ActorModelServer.Mediator.Outcome

namespace ActorModelServer.Mediator

section Model

/-- A call of `OnParticipantReady` for one transaction. -/
structure Delivery where
  participantId : ParticipantId
  success : Bool
  now : ℤ
  traversal : Traversal

/-- One delivery. -/
def deliver (transactionId : TransactionId) (mediator : MediatorBase) (delivery : Delivery) :
    MediatorBase :=
  mediator.onParticipantReady delivery.traversal transactionId delivery.participantId
    delivery.success delivery.now

/-- The deliveries, one after the other. -/
def deliverAll (transactionId : TransactionId) (mediator : MediatorBase)
    (deliveries : List Delivery) : MediatorBase :=
  deliveries.foldl (deliver transactionId) mediator

/-- The hook tells the outcome of the transaction. -/
def Event.tells (transactionId : TransactionId) (event : Event) : Bool :=
  event = .completed transactionId ∨ event = .failed transactionId

/-- The terminal hooks of the transaction since some state of the mediator. -/
def terminalHooks (transactionId : TransactionId) (before after : MediatorBase) : List Event :=
  (after.trace.drop before.trace.length).filter (Event.tells transactionId)

variable (participantIds : List ParticipantId)

/-- The participants vote as assigned. -/
def Consistent (vote : ParticipantId → Bool) (deliveries : List Delivery) : Prop :=
  ∀ delivery ∈ deliveries, delivery.participantId ∈ participantIds →
    delivery.success = vote delivery.participantId

/-- Every participant has voted. -/
def EveryoneHeard (deliveries : List Delivery) : Prop :=
  ∀ participantId ∈ participantIds, ∃ delivery ∈ deliveries, delivery.participantId = participantId

/-- A participant has voted failure. -/
def FailureHeard (deliveries : List Delivery) : Prop :=
  ∃ delivery ∈ deliveries, delivery.participantId ∈ participantIds ∧ delivery.success = false

/-- A delivery order of the assigned votes; a participant may repeat its vote, and others vote
whatever they like. -/
structure Delivers (vote : ParticipantId → Bool) (deliveries : List Delivery) : Prop where
  consistent : Consistent participantIds vote deliveries
  everyone : EveryoneHeard participantIds deliveries

/-- The terminal hook fires at the delivery behind some others. -/
def FiresAt (transactionId : TransactionId) (started : MediatorBase) (front : List Delivery)
    (delivery : Delivery) : Prop :=
  terminalHooks transactionId started (deliverAll transactionId started front) = [] ∧
    terminalHooks transactionId started
      (deliverAll transactionId started (front ++ [delivery])) ≠ []

/-- **The outcome of the votes**: completion, at the delivery that completes the set of the
participants heard; or failure, at the first failure vote. -/
structure Decides (vote : ParticipantId → Bool) (transactionId : TransactionId)
    (started : MediatorBase) (deliveries : List Delivery) : Prop where
  completes : (∀ participantId ∈ participantIds, vote participantId = true) →
    terminalHooks transactionId started (deliverAll transactionId started deliveries) =
        [.completed transactionId] ∧
      ∀ front delivery rest, deliveries = front ++ delivery :: rest →
        (FiresAt transactionId started front delivery ↔
          ¬ EveryoneHeard participantIds front ∧ EveryoneHeard participantIds (front ++ [delivery]))
  fails : (∃ participantId ∈ participantIds, vote participantId = false) →
    terminalHooks transactionId started (deliverAll transactionId started deliveries) =
        [.failed transactionId] ∧
      ∀ front delivery rest, deliveries = front ++ delivery :: rest →
        (FiresAt transactionId started front delivery ↔
          ¬ FailureHeard participantIds front ∧
            delivery.participantId ∈ participantIds ∧ delivery.success = false)

instance (deliveries : List Delivery) : Decidable (EveryoneHeard participantIds deliveries) :=
  inferInstanceAs (Decidable (∀ participantId ∈ participantIds, ∃ delivery ∈ deliveries, _))

instance (deliveries : List Delivery) : Decidable (FailureHeard participantIds deliveries) :=
  inferInstanceAs (Decidable (∃ delivery ∈ deliveries, _))

end Model

/-! ### What is heard -/

section Heard

variable {transactionId : TransactionId} {participantIds : List ParticipantId}
  {vote : ParticipantId → Bool} {deliveries : List Delivery} {delivery : Delivery}
  {participantId : ParticipantId}

theorem failureHeard_append :
    FailureHeard participantIds (deliveries ++ [delivery]) ↔
      FailureHeard participantIds deliveries ∨
        delivery.participantId ∈ participantIds ∧ delivery.success = false := by
  simp only [FailureHeard, List.mem_append, List.mem_singleton, or_and_right, exists_or,
    exists_eq_left]

theorem EveryoneHeard.append (everyone : EveryoneHeard participantIds deliveries)
    (delivery : Delivery) : EveryoneHeard participantIds (deliveries ++ [delivery]) := by
  intro participantId member
  obtain ⟨earlier, heard, same⟩ := everyone participantId member
  exact ⟨earlier, List.mem_append_left _ heard, same⟩

/-- A stranger does not count. -/
theorem everyoneHeard_stranger (stranger : delivery.participantId ∉ participantIds) :
    EveryoneHeard participantIds (deliveries ++ [delivery]) ↔
      EveryoneHeard participantIds deliveries := by
  refine ⟨fun everyone participantId member => ?_, fun everyone => everyone.append delivery⟩
  obtain ⟨voter, heard, rfl⟩ := everyone participantId member
  rcases List.mem_append.mp heard with earlier | last
  · exact ⟨voter, earlier, rfl⟩
  · exact absurd (List.mem_singleton.mp last ▸ member) stranger

/-- Who has voted failure votes failure again. -/
theorem failureHeard_of_everyone
    (consistent : Consistent participantIds vote (deliveries ++ [delivery]))
    (everyone : EveryoneHeard participantIds deliveries)
    (member : delivery.participantId ∈ participantIds) (refused : delivery.success = false) :
    FailureHeard participantIds deliveries := by
  obtain ⟨earlier, heard, same⟩ := everyone delivery.participantId member
  refine ⟨earlier, heard, same ▸ member, ?_⟩
  rw [consistent earlier (List.mem_append_left _ heard) (same ▸ member), same, ← refused,
    consistent delivery (List.mem_append_right _ (.head _)) member]

/-- The events of the deliveries. -/
def votesOf (transactionId : TransactionId) (deliveries : List Delivery) : List Event :=
  deliveries.map fun delivery => .voted transactionId delivery.participantId delivery.success

theorem votesOf_append :
    votesOf transactionId (deliveries ++ [delivery]) = votesOf transactionId deliveries ++
      [.voted transactionId delivery.participantId delivery.success] :=
  List.map_append

/-- A vote of the events comes from a delivery. -/
theorem exists_of_mem_votes {success : Bool}
    (member : success ∈ (votesOf transactionId deliveries).filterMap (voteOf participantId)) :
    ∃ delivery ∈ deliveries, delivery.participantId = participantId ∧
      delivery.success = success := by
  obtain ⟨event, inside, voted⟩ := List.mem_filterMap.mp member
  obtain ⟨delivery, heard, rfl⟩ := List.mem_map.mp inside
  obtain ⟨same, vote⟩ := Option.ite_none_right_eq_some.mp voted
  exact ⟨delivery, heard, same, Option.some.inj vote⟩

/-- Without a failure, who was heard has voted success. -/
theorem latestVote_votesOf (unfailed : ¬ FailureHeard participantIds deliveries)
    (member : participantId ∈ participantIds) :
    latestVote participantId (votesOf transactionId deliveries) = some true ↔
      ∃ delivery ∈ deliveries, delivery.participantId = participantId := by
  constructor
  · intro latest
    obtain ⟨delivery, heard, same, -⟩ := exists_of_mem_votes (List.mem_of_getLast? latest)
    exact ⟨delivery, heard, same⟩
  · rintro ⟨delivery, heard, rfl⟩
    have cast : delivery.success ∈
        (votesOf transactionId deliveries).filterMap (voteOf delivery.participantId) :=
      List.mem_filterMap.mpr ⟨_, List.mem_map_of_mem heard, if_pos rfl⟩
    obtain ⟨last, latest⟩ := Option.isSome_iff_exists.mp
      (List.getLast?_isSome.mpr (List.ne_nil_of_mem cast))
    obtain ⟨voter, voted, same, success⟩ := exists_of_mem_votes (List.mem_of_getLast? latest)
    cases last with
    | true => exact latest
    | false => exact absurd ⟨voter, voted, same ▸ member, success⟩ unfailed

end Heard

/-! ### One delivery -/

section Stages

variable {transactionId : TransactionId} {participantIds : List ParticipantId}
  {vote : ParticipantId → Bool} {deliveries : List Delivery} {delivery : Delivery}
  {started mediator after : MediatorBase}

/-- The terminal hooks of the votes so far. -/
def hooksOf (participantIds : List ParticipantId) (transactionId : TransactionId)
    (deliveries : List Delivery) : List Event :=
  if FailureHeard participantIds deliveries then [.failed transactionId]
  else if EveryoneHeard participantIds deliveries then [.completed transactionId]
  else []

/-- **What the transaction has come to**: it reflects the votes while they do not decide it. -/
structure Stage (participantIds : List ParticipantId) (transactionId : TransactionId)
    (started : MediatorBase) (deliveries : List Delivery) (mediator : MediatorBase) : Prop where
  hooks : ∃ calls, mediator.trace = started.trace ++ calls ∧
    calls.filter (Event.tells transactionId) = hooksOf participantIds transactionId deliveries
  running : ¬ FailureHeard participantIds deliveries →
    ¬ EveryoneHeard participantIds deliveries → ∃ transaction,
      mediator.activeTransactions.lookup transactionId = some transaction ∧
        Reflects participantIds (votesOf transactionId deliveries) transaction.participants
  ended : FailureHeard participantIds deliveries ∨ EveryoneHeard participantIds deliveries →
    mediator.activeTransactions.lookup transactionId = none

theorem Stage.terminalHooks_eq
    (stage : Stage participantIds transactionId started deliveries mediator) :
    terminalHooks transactionId started mediator =
      hooksOf participantIds transactionId deliveries := by
  obtain ⟨calls, trace, hooks⟩ := stage.hooks
  rw [terminalHooks, trace, List.drop_left, hooks]

/-- More calls, with the hooks among them. -/
theorem Stage.more (stage : Stage participantIds transactionId started deliveries mediator)
    {calls hooks : List Event} (trace : after.trace = mediator.trace ++ calls)
    (tells : calls.filter (Event.tells transactionId) = hooks) :
    ∃ calls, after.trace = started.trace ++ calls ∧
      calls.filter (Event.tells transactionId) =
        hooksOf participantIds transactionId deliveries ++ hooks := by
  obtain ⟨before, earlier, told⟩ := stage.hooks
  exact ⟨before ++ calls, by rw [trace, earlier, List.append_assoc], by
    rw [List.filter_append, told, tells]⟩

theorem tells_voted (participantId : ParticipantId) (success : Bool) :
    [Event.voted transactionId participantId success].filter (Event.tells transactionId) = [] := by
  simp [Event.tells]

/-- The votes are decided, and nothing changes any more. -/
theorem Stage.late (stage : Stage participantIds transactionId started deliveries mediator)
    (consistent : Consistent participantIds vote (deliveries ++ [delivery]))
    (decided : FailureHeard participantIds deliveries ∨ EveryoneHeard participantIds deliveries) :
    Stage participantIds transactionId started (deliveries ++ [delivery])
      (deliver transactionId mediator delivery) := by
  have gone := stage.ended decided
  have noted : deliver transactionId mediator delivery =
      mediator.record (.voted transactionId delivery.participantId delivery.success) := by
    rw [deliver, MediatorBase.onParticipantReady, gone]
  have failed : FailureHeard participantIds (deliveries ++ [delivery]) ↔
      FailureHeard participantIds deliveries := by
    rw [failureHeard_append]
    refine or_iff_left_of_imp fun refused => ?_
    rcases decided with failed | everyone
    · exact failed
    · exact failureHeard_of_everyone consistent everyone refused.1 refused.2
  have still : FailureHeard participantIds (deliveries ++ [delivery]) ∨
      EveryoneHeard participantIds (deliveries ++ [delivery]) :=
    decided.imp failed.mpr fun everyone => everyone.append delivery
  have same : hooksOf participantIds transactionId (deliveries ++ [delivery]) =
      hooksOf participantIds transactionId deliveries := by
    unfold hooksOf
    by_cases refused : FailureHeard participantIds deliveries
    · rw [if_pos refused, if_pos (failed.mpr refused)]
    · have everyone := decided.resolve_left refused
      rw [if_neg refused, if_neg (mt failed.mp refused), if_pos everyone,
        if_pos (everyone.append delivery)]
  rw [noted]
  refine ⟨?_, fun unfailed unheard => ?_, fun _ => gone⟩
  · have calls := stage.more
      (record_trace (.voted transactionId delivery.participantId delivery.success))
      (tells_voted delivery.participantId delivery.success)
    rwa [List.append_nil, ← same] at calls
  · exact absurd still (not_or.mpr ⟨unfailed, unheard⟩)

/-- The hooks of a commit, or of a rollback: requests, then the outcome. -/
theorem tells_ending {participantId : ParticipantId} {success : Bool}
    (entries : List (Sigma fun _ : ParticipantId => Participant))
    {request : ParticipantId → Event} {outcome : Event}
    (silent : ∀ participantId, Event.tells transactionId (request participantId) = false)
    (told : Event.tells transactionId outcome = true) :
    ([Event.voted transactionId participantId success] ++
      ((entries.map fun entry => request entry.2.id) ++ [outcome])).filter
        (Event.tells transactionId) = [outcome] := by
  have requests : (entries.map fun entry => request entry.2.id).filter
      (Event.tells transactionId) = [] := by
    refine List.filter_eq_nil_iff.mpr fun event member => ?_
    obtain ⟨entry, -, rfl⟩ := List.mem_map.mp member
    rw [silent]
    exact Bool.false_ne_true
  rw [List.filter_append, List.filter_append, tells_voted, requests, List.filter_singleton, told]
  rfl

/-- A vote that does not decide is noted. -/
theorem Stage.noted (stage : Stage participantIds transactionId started deliveries mediator)
    (undecided : hooksOf participantIds transactionId deliveries = [])
    (failed : ¬ FailureHeard participantIds (deliveries ++ [delivery]))
    (heard : ¬ EveryoneHeard participantIds (deliveries ++ [delivery]))
    (trace : after.trace = mediator.trace ++
      [.voted transactionId delivery.participantId delivery.success])
    {transaction : Transaction}
    (present : after.activeTransactions.lookup transactionId = some transaction)
    (reflects : Reflects participantIds (votesOf transactionId (deliveries ++ [delivery]))
      transaction.participants) :
    Stage participantIds transactionId started (deliveries ++ [delivery]) after := by
  refine ⟨?_, fun _ _ => ⟨transaction, present, reflects⟩, fun decided => ?_⟩
  · obtain ⟨calls, trace, hooks⟩ := stage.more trace (tells_voted _ _)
    refine ⟨calls, trace, ?_⟩
    rw [hooks, undecided, hooksOf, if_neg failed, if_neg heard]
    rfl
  · exact absurd decided (not_or.mpr ⟨failed, heard⟩)

/-- A vote that decides ends the transaction. -/
theorem Stage.decided (stage : Stage participantIds transactionId started deliveries mediator)
    (undecided : hooksOf participantIds transactionId deliveries = [])
    {entries : List (Sigma fun _ : ParticipantId => Participant)}
    (request : ParticipantId → Event) {outcome : Event}
    (silent : ∀ participantId, Event.tells transactionId (request participantId) = false)
    (told : Event.tells transactionId outcome = true)
    (trace : after.trace = mediator.trace ++
      ([.voted transactionId delivery.participantId delivery.success] ++
        ((entries.map fun entry => request entry.2.id) ++ [outcome])))
    (gone : after.activeTransactions.lookup transactionId = none)
    (decides : FailureHeard participantIds (deliveries ++ [delivery]) ∨
      EveryoneHeard participantIds (deliveries ++ [delivery]))
    (hooks : hooksOf participantIds transactionId (deliveries ++ [delivery]) = [outcome]) :
    Stage participantIds transactionId started (deliveries ++ [delivery]) after := by
  refine ⟨?_, fun failed heard => absurd decides (not_or.mpr ⟨failed, heard⟩), fun _ => gone⟩
  obtain ⟨calls, trace, ended⟩ := stage.more trace (tells_ending entries silent told)
  exact ⟨calls, trace, by rw [ended, undecided, hooks, List.nil_append]⟩

/-- **A vote of an undecided transaction**: it is noted, or it decides. -/
theorem Stage.early (stage : Stage participantIds transactionId started deliveries mediator)
    (unfailed : ¬ FailureHeard participantIds deliveries)
    (unheard : ¬ EveryoneHeard participantIds deliveries) :
    Stage participantIds transactionId started (deliveries ++ [delivery])
      (deliver transactionId mediator delivery) := by
  obtain ⟨transaction, present, reflects⟩ := stage.running unfailed unheard
  have undecided : hooksOf participantIds transactionId deliveries = [] := by
    rw [hooksOf, if_neg unfailed, if_neg unheard]
  have moved := onParticipantReady_moves mediator transactionId delivery.traversal
    delivery.participantId delivery.success delivery.now
  rw [deliver]
  generalize mediator.onParticipantReady delivery.traversal transactionId delivery.participantId
    delivery.success delivery.now = after at moved ⊢
  generalize cast : delivery.success = success at moved
  have voted {participant : Participant}
      (found : transaction.participants.lookup delivery.participantId = some participant) :
      delivery.participantId ∈ participantIds ∧
        Reflects participantIds (votesOf transactionId (deliveries ++ [delivery]))
          (MediatorBase.setVote transaction delivery.participantId participant success
            delivery.now).participants := by
    rw [votesOf_append, cast]
    exact ⟨(reflects.members _).mp (AList.lookup_isSome.mp (Option.isSome_of_eq_some found)),
      reflects.voted found success delivery.now⟩
  have unfailed_of (counts : delivery.participantId ∈ participantIds → delivery.success = true) :
      ¬ FailureHeard participantIds (deliveries ++ [delivery]) := by
    rw [failureHeard_append]
    rintro (failed | ⟨member, refused⟩)
    · exact unfailed failed
    · rw [counts member] at refused
      cases refused
  cases moved with
  | inactive _ absent =>
      rw [absent] at present
      cases present
  | stranger _ stored same unknown =>
      cases same.symm.trans present
      have outside : delivery.participantId ∉ participantIds := fun member =>
        AList.lookup_eq_none.mp unknown ((reflects.members _).mpr member)
      refine stage.noted undecided (unfailed_of fun member => absurd member outside)
        (mt (everyoneHeard_stranger outside).mp unheard) (by rw [cast, record_trace]) present ?_
      rw [votesOf_append]
      exact reflects.stranger unknown delivery.success
  | prepared stored participant same found unready =>
      cases same.symm.trans present
      obtain ⟨-, reflects⟩ := voted found
      have failed := unfailed_of fun _ => cast
      refine stage.noted undecided failed (fun everyone => ?_) (by
        rw [cast, setTransaction_trace, record_trace]) (lookup_setTransaction _) reflects
      have ready := reflects.allPrepared_iff.mpr fun participantId member =>
        (latestVote_votesOf failed member).mpr (everyone participantId member)
      rw [unready] at ready
      cases ready
  | committed stored participant same found ready =>
      cases same.symm.trans present
      obtain ⟨-, reflects⟩ := voted found
      have failed := unfailed_of fun _ => cast
      have everyone : EveryoneHeard participantIds (deliveries ++ [delivery]) :=
        fun participantId member => (latestVote_votesOf failed member).mp
          (reflects.allPrepared_iff.mp ready participantId member)
      obtain ⟨-, gone, trace⟩ := commitTransaction_spec ((mediator.record
        (.voted transactionId delivery.participantId true)).setTransaction transactionId
        (MediatorBase.setVote transaction delivery.participantId participant true delivery.now))
        transactionId delivery.traversal
      rw [setTransaction_trace, record_trace, List.append_assoc, List.append_assoc] at trace
      refine stage.decided undecided (.sendCommitRequest transactionId) ?_ ?_
        (by rw [cast]; exact trace) gone (.inr everyone) ?_
      · simp [Event.tells]
      · simp [Event.tells]
      · rw [hooksOf, if_neg failed, if_pos everyone]
  | rolledBack stored participant same found =>
      cases same.symm.trans present
      have failed : FailureHeard participantIds (deliveries ++ [delivery]) :=
        failureHeard_append.mpr (.inr ⟨(voted found).1, cast⟩)
      obtain ⟨-, gone, trace⟩ := rollbackTransaction_spec ((mediator.record
        (.voted transactionId delivery.participantId false)).setTransaction transactionId
        (MediatorBase.setVote transaction delivery.participantId participant false delivery.now))
        transactionId delivery.traversal
      rw [setTransaction_trace, record_trace, List.append_assoc, List.append_assoc] at trace
      refine stage.decided undecided (.sendRollbackRequest transactionId) ?_ ?_
        (by rw [cast]; exact trace) gone (.inl failed) ?_
      · simp [Event.tells]
      · simp [Event.tells]
      · rw [hooksOf, if_pos failed]

end Stages

/-! ### All deliveries -/

section Orders

variable {transactionId : TransactionId} {participantIds : List ParticipantId}
  {vote : ParticipantId → Bool} {deliveries : List Delivery} {started mediator : MediatorBase}

/-- A transaction that is new is undecided. -/
theorem stage_started (mediator : MediatorBase) (timeout now : ℤ) (some : participantIds ≠ [])
    (fresh : mediator.activeTransactions.lookup
      mediator.generateTransactionId.transactionIdGenerator = none) :
    Stage participantIds mediator.generateTransactionId.transactionIdGenerator
      (mediator.startTransaction participantIds timeout now) []
      (mediator.startTransaction participantIds timeout now) := by
  obtain ⟨participantId, member⟩ := List.exists_mem_of_ne_nil _ some
  have unfailed : ¬ FailureHeard participantIds [] := nofun
  have unheard : ¬ EveryoneHeard participantIds [] := fun everyone => by
    obtain ⟨_, heard, -⟩ := everyone participantId member
    cases heard
  have empty : mediator.generateTransactionId.transactionAt
      mediator.generateTransactionId.transactionIdGenerator = .new := by
    unfold MediatorBase.transactionAt
    exact congrArg (Option.getD · Transaction.new) fresh
  refine ⟨⟨[], (List.append_nil _).symm, ?_⟩, fun _ _ => ⟨_, AList.lookup_insert _, ?_⟩, ?_⟩
  · rw [hooksOf, if_neg unfailed, if_neg unheard]
    rfl
  · dsimp only
    rw [empty]
    exact reflects_started participantIds
  · exact fun decided => absurd decided (not_or.mpr ⟨unfailed, unheard⟩)

/-- **The deliveries** bring the transaction from stage to stage. -/
theorem stage_of_deliveries
    (begun : Stage participantIds transactionId started [] started)
    (consistent : Consistent participantIds vote deliveries) :
    Stage participantIds transactionId started deliveries
      (deliverAll transactionId started deliveries) := by
  induction deliveries using List.reverseRecOn with
  | nil => exact begun
  | append_singleton front delivery ih =>
      have stage := ih fun earlier heard => consistent earlier (List.mem_append_left _ heard)
      have last : deliverAll transactionId started (front ++ [delivery]) =
          deliver transactionId (deliverAll transactionId started front) delivery :=
        List.foldl_concat _ _ _ _
      rw [last]
      by_cases decided : FailureHeard participantIds front ∨ EveryoneHeard participantIds front
      · exact stage.late consistent decided
      · obtain ⟨unfailed, unheard⟩ := not_or.mp decided
        exact stage.early unfailed unheard

/-- The hooks after any front of the deliveries. -/
theorem terminalHooks_front (begun : Stage participantIds transactionId started [] started)
    (consistent : Consistent participantIds vote deliveries) {front rest : List Delivery}
    (split : deliveries = front ++ rest) :
    terminalHooks transactionId started (deliverAll transactionId started front) =
      hooksOf participantIds transactionId front :=
  (stage_of_deliveries begun fun delivery heard =>
    consistent delivery (split ▸ List.mem_append_left _ heard)).terminalHooks_eq

/-- When the hook fires, in terms of what was heard. -/
theorem firesAt_iff (begun : Stage participantIds transactionId started [] started)
    (consistent : Consistent participantIds vote deliveries) {front rest : List Delivery}
    {delivery : Delivery} (split : deliveries = front ++ delivery :: rest) :
    FiresAt transactionId started front delivery ↔
      hooksOf participantIds transactionId front = [] ∧
        hooksOf participantIds transactionId (front ++ [delivery]) ≠ [] := by
  rw [FiresAt, terminalHooks_front begun consistent split,
    terminalHooks_front begun consistent (split.trans (List.append_cons _ _ _))]

/-- **One order of the votes.** -/
theorem decides_of_begun (begun : Stage participantIds transactionId started [] started)
    (delivers : Delivers participantIds vote deliveries) :
    Decides participantIds vote transactionId started deliveries := by
  obtain ⟨consistent, everyone⟩ := delivers
  have whole := terminalHooks_front begun consistent (List.append_nil deliveries).symm
  constructor
  · intro successful
    have unfailed {front : List Delivery} (inside : front ⊆ deliveries) :
        ¬ FailureHeard participantIds front := by
      rintro ⟨delivery, heard, member, refused⟩
      rw [consistent delivery (inside heard) member, successful _ member] at refused
      cases refused
    have hooks {front : List Delivery} (inside : front ⊆ deliveries) :
        hooksOf participantIds transactionId front =
          if EveryoneHeard participantIds front then [.completed transactionId] else [] := by
      rw [hooksOf, if_neg (unfailed inside)]
    refine ⟨?_, fun front delivery rest split => ?_⟩
    · rw [whole, hooks (List.Subset.refl _), if_pos everyone]
    · rw [firesAt_iff begun consistent split, hooks (by simp [split]), hooks (by simp [split])]
      simp
  · rintro ⟨opponent, member, against⟩
    have hooks {front : List Delivery} (inside : front ⊆ deliveries) :
        hooksOf participantIds transactionId front =
          if FailureHeard participantIds front then [.failed transactionId] else [] := by
      unfold hooksOf
      split
      · rfl
      · rename_i unfailed
        refine if_neg fun everyone => unfailed ?_
        obtain ⟨delivery, heard, same⟩ := everyone opponent member
        refine ⟨delivery, heard, same ▸ member, ?_⟩
        rw [consistent delivery (inside heard) (same ▸ member), same, against]
    obtain ⟨delivery, heard, same⟩ := everyone opponent member
    have failed : FailureHeard participantIds deliveries :=
      ⟨delivery, heard, same ▸ member, by rw [consistent delivery heard (same ▸ member), same,
        against]⟩
    refine ⟨?_, fun front delivery rest split => ?_⟩
    · rw [whole, hooks (List.Subset.refl _), if_pos failed]
    · rw [firesAt_iff begun consistent split, hooks (by simp [split]), hooks (by simp [split])]
      by_cases before : FailureHeard participantIds front <;>
        simp [before, failureHeard_append]

/-- **The order of the votes does not change the outcome.** Two orders of the same votes on a new
transaction end with the same hook: with completion when all votes are success, at the delivery
that completes the participants; and otherwise with failure, at the first failure vote. -/
theorem vote_order (mediator : MediatorBase) (participantIds : List ParticipantId)
    (timeout now : ℤ) (vote : ParticipantId → Bool) (first second : List Delivery)
    (some : participantIds ≠ [])
    (fresh : mediator.activeTransactions.lookup
      mediator.generateTransactionId.transactionIdGenerator = none)
    (one : Delivers participantIds vote first) (other : Delivers participantIds vote second) :
    let transactionId := mediator.generateTransactionId.transactionIdGenerator
    let started := mediator.startTransaction participantIds timeout now
    Decides participantIds vote transactionId started first ∧
      Decides participantIds vote transactionId started second ∧
      terminalHooks transactionId started (deliverAll transactionId started first) =
        terminalHooks transactionId started (deliverAll transactionId started second) := by
  intro transactionId started
  have begun := stage_started mediator timeout now some fresh
  have early := decides_of_begun begun one
  have late := decides_of_begun begun other
  refine ⟨early, late, ?_⟩
  by_cases successful : ∀ participantId ∈ participantIds, vote participantId = true
  · exact (early.completes successful).1.trans (late.completes successful).1.symm
  · have against : ∃ participantId ∈ participantIds, vote participantId = false := by
      simpa using successful
    exact (early.fails against).1.trans (late.fails against).1.symm

/-- A vote at time zero. -/
def voteAtZero (participantId : ParticipantId) (success : Bool) : Delivery :=
  ⟨participantId, success, 0, .stored⟩

/-- Two participants prepare, in either order, one of them twice and with a stranger between. -/
theorem vote_order_pair :
    terminalHooks 2 (initial.startTransaction [1, 2] 5000 0)
        (deliverAll 2 (initial.startTransaction [1, 2] 5000 0)
          [voteAtZero 1 true, voteAtZero 9 false, voteAtZero 1 true, voteAtZero 2 true]) =
      [.completed 2] ∧
    terminalHooks 2 (initial.startTransaction [1, 2] 5000 0)
        (deliverAll 2 (initial.startTransaction [1, 2] 5000 0)
          [voteAtZero 2 true, voteAtZero 1 true]) = [.completed 2] := by
  obtain ⟨first, second, -⟩ := vote_order initial [1, 2] 5000 0 (fun _ => true)
    [voteAtZero 1 true, voteAtZero 9 false, voteAtZero 1 true, voteAtZero 2 true]
    [voteAtZero 2 true, voteAtZero 1 true] (by decide) rfl
    ⟨by simp [Consistent, voteAtZero], by decide⟩ ⟨by simp [Consistent, voteAtZero], by decide⟩
  exact ⟨(first.completes fun _ _ => rfl).1, (second.completes fun _ _ => rfl).1⟩

end Orders

end ActorModelServer.Mediator
