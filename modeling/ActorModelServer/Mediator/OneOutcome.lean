/-
**One outcome, whatever is rolled back.**

* `Accounted` — the account of the outcomes: an active transaction has had none since its start,
  unless one is being reported, and no two calls in progress end the same transaction.
* `one_outcome` — a transaction has one outcome at most, in every run in which
  `RollbackTransaction`, by the derived class or by `OnTimer`, is only called for a transaction that
  is active and not already being ended.
* `rolledBack_twice` — the condition is exact: the calls in progress only have to return
  (`leads_return`, `leads_unwound`).
* `rolledBack_completed` — a completed transaction is rolled back.
-/

import ActorModelServer.Mediator.HookCalls

namespace ActorModelServer.Mediator.HookCalls

open StepRuns (Reach Leads Unguarded Since EachAfter since_append eachAfter_append eachAfter_nil
  not_since_nil exists_reach_of_run exists_reach_of_runGuarded)

section Condition

namespace Frame

/-- The transaction whose requests are being sent. -/
def sending : Frame → Option TransactionId
  | .sendCommitRequest transactionId _ _ | .sendRollbackRequest transactionId _ =>
      some transactionId
  | _ => none

/-- The transaction whose outcome is being reported. -/
def reporting : Frame → Option TransactionId
  | .transactionCompleted transactionId | .transactionFailed transactionId => some transactionId
  | _ => none

/-- The transaction that is being committed or rolled back. -/
def ends (frame : Frame) : Option TransactionId := frame.sending.or frame.reporting

end Frame

/-- The transaction a step calls `RollbackTransaction` for: the derived class's, or the next one of
`OnTimer`. -/
def State.rollsBack (state : State) : Call → Option TransactionId
  | .rollbackTransaction transactionId => some transactionId
  | .goOn =>
      match state.stack with
      | .timer (transactionId :: _) :: _ => some transactionId
      | _ => none
  | _ => none

/-- `RollbackTransaction` is called only for a transaction that is active, and that no call in
progress is committing or rolling back. -/
def Proper (state : State) (label : Call × Traversal) : Prop :=
  ∀ transactionId ∈ state.rollsBack label.1,
    transactionId ∈ state.mediator.activeTransactions ∧
      ∀ frame ∈ state.stack, frame.ends ≠ some transactionId

instance (state : State) (label : Call × Traversal) : Decidable (Proper state label) :=
  inferInstanceAs (Decidable (∀ transactionId ∈ state.rollsBack label.1, _))

/-- The event reports the outcome of the transaction. -/
def outcomeOf (transactionId : TransactionId) : Event → Prop
  | .completed transaction | .failed transaction => transaction = transactionId
  | _ => False

/-- The event starts the transaction. -/
def startOf (transactionId : TransactionId) : Event → Prop
  | .started transaction _ => transaction = transactionId
  | _ => False

instance (transactionId : TransactionId) : DecidablePred (outcomeOf transactionId) := by
  intro event
  unfold outcomeOf
  split <;> infer_instance

/-- **One outcome**: where a transaction is not started again, at most one call of
`OnTransactionCompleted` or `OnTransactionFailed` is for it. -/
def OneOutcome (trace : List Event) : Prop :=
  ∀ transactionId early during late, trace = early ++ during ++ late →
    (∀ event ∈ during, ¬ startOf transactionId event) →
      during.countP (outcomeOf transactionId ·) ≤ 1

end Condition

section Accounting

variable {mediator after : MediatorBase} {transactionId other : TransactionId} {frame : Frame}
  {below stack : List Frame} {returned : List TransactionId} {trace : List Event} {event : Event}

/-- The transaction has had an outcome since its last start. -/
def Ended (transactionId : TransactionId) (trace : List Event) : Prop :=
  Since (outcomeOf transactionId) (startOf transactionId) trace

/-- The event is not about the course of a transaction. -/
def Quiet (event : Event) : Prop :=
  ∀ transactionId, ¬ outcomeOf transactionId event ∧ ¬ startOf transactionId event

theorem ended_quiet (quiet : Quiet event) :
    Ended transactionId (trace ++ [event]) ↔ Ended transactionId trace := by
  obtain ⟨reports, starts⟩ := quiet transactionId
  unfold Ended
  rw [since_append]
  tauto

theorem outcomeOf_unique (outcome : outcomeOf transactionId event) (own : outcomeOf other event) :
    other = transactionId := by
  cases event <;> first | exact outcome.elim | exact own.symm.trans outcome

/-- An outcome is for one transaction, and starts none. -/
theorem ended_outcome (outcome : outcomeOf transactionId event) :
    Ended other (trace ++ [event]) ↔ other = transactionId ∨ Ended other trace := by
  have starts : ¬ startOf other event := by
    cases event <;> first | exact id | exact outcome.elim
  have reports : outcomeOf other event ↔ other = transactionId :=
    ⟨outcomeOf_unique outcome, fun same => same ▸ outcome⟩
  unfold Ended
  rw [since_append, reports]
  tauto

/-- What a frame will still need to have been started. -/
def Frame.knows : Frame → List TransactionId
  | .transactionStarted transactionId => [transactionId]
  | .timer timedOutTransactions => timedOutTransactions
  | _ => []

/-- **The account of the outcomes.** -/
structure Accounted (mediator : MediatorBase) (stack : List Frame)
    (returned : List TransactionId) : Prop where
  /-- Every outcome so far was the first one since the start of its transaction. -/
  each : EachAfter (fun before event => ∀ transactionId, outcomeOf transactionId event →
    ¬ Ended transactionId before) mediator.trace
  /-- An active transaction has had none, unless it is being reported. -/
  unended : ∀ transactionId ∈ mediator.activeTransactions,
    (∀ frame ∈ stack, frame.reporting ≠ some transactionId) →
      ¬ Ended transactionId mediator.trace
  sending : ∀ frame ∈ stack, ∀ transactionId, frame.sending = some transactionId →
    transactionId ∈ mediator.activeTransactions
  reporting : ∀ frame ∈ stack, ∀ transactionId, frame.reporting = some transactionId →
    Ended transactionId mediator.trace
  /-- No two calls in progress end the same transaction. -/
  distinct : (stack.filterMap Frame.ends).Nodup
  /-- Whoever is known is active or has been ended. -/
  known : ∀ transactionId ∈ returned ++ stack.flatMap Frame.knows,
    transactionId ∈ mediator.activeTransactions ∨ Ended transactionId mediator.trace

/-- A call for the transaction runs to a hook: a request, or the outcome. -/
structure Fires (transactionId : TransactionId) (mediator after : MediatorBase) (frame : Frame) :
    Prop where
  active : ∀ other, other ∈ after.activeTransactions ↔ other ∈ mediator.activeTransactions
  knows : frame.knows = []
  hook :
    (frame.sending = some transactionId ∧ frame.reporting = none ∧
      ∃ event, Quiet event ∧ after.trace = mediator.trace ++ [event]) ∨
    (frame.sending = none ∧ frame.reporting = some transactionId ∧
      ∃ event, outcomeOf transactionId event ∧ after.trace = mediator.trace ++ [event])

theorem commitFrom_fires (mediator : MediatorBase) (transactionId : TransactionId)
    (entries : List Entry) :
    Fires transactionId mediator (commitFrom mediator transactionId entries).1
      (commitFrom mediator transactionId entries).2 := by
  cases entries with
  | nil =>
      refine ⟨fun other => modifyTransaction_active _, rfl, .inr ⟨rfl, rfl, ?_⟩⟩
      refine ⟨.completed transactionId, rfl, ?_⟩
      rw [commitFrom, record_trace, modifyTransaction_trace]
  | cons entry rest =>
      exact ⟨fun other => Iff.rfl, rfl, .inl ⟨rfl, rfl, _, fun _ => ⟨id, id⟩, rfl⟩⟩

theorem rollbackFrom_fires (mediator : MediatorBase) (transactionId : TransactionId)
    (entries : List Entry) :
    Fires transactionId mediator (rollbackFrom mediator transactionId entries).1
      (rollbackFrom mediator transactionId entries).2 := by
  induction entries with
  | nil =>
      refine ⟨fun other => modifyTransaction_active _, rfl, .inr ⟨rfl, rfl, ?_⟩⟩
      refine ⟨.failed transactionId, rfl, ?_⟩
      rw [rollbackFrom, record_trace, modifyTransaction_trace]
  | cons entry rest ih =>
      unfold rollbackFrom
      split
      · exact ⟨fun other => Iff.rfl, rfl, .inl ⟨rfl, rfl, _, fun _ => ⟨id, id⟩, rfl⟩⟩
      · exact ih

/-- The contents of the transactions do not count. -/
theorem Accounted.changed (accounted : Accounted mediator stack returned)
    (active : ∀ other, other ∈ after.activeTransactions ↔ other ∈ mediator.activeTransactions)
    (trace : after.trace = mediator.trace) : Accounted after stack returned := by
  obtain ⟨each, unended, sending, reporting, distinct, known⟩ := accounted
  refine ⟨?_, ?_, ?_, ?_, distinct, ?_⟩
  all_goals simp only [trace, active]
  · exact each
  · exact unended
  · exact sending
  · exact reporting
  · exact known

theorem Accounted.modified (accounted : Accounted mediator stack returned)
    (transactionId : TransactionId) (change : Transaction → Transaction) :
    Accounted (modifyTransaction mediator transactionId change) stack returned :=
  accounted.changed (fun _ => modifyTransaction_active change) (modifyTransaction_trace change)

/-- A quiet event does not count. -/
theorem Accounted.recorded (accounted : Accounted mediator stack returned) (quiet : Quiet event)
    (active : ∀ other, other ∈ after.activeTransactions ↔ other ∈ mediator.activeTransactions)
    (trace : after.trace = mediator.trace ++ [event]) : Accounted after stack returned := by
  obtain ⟨each, unended, sending, reporting, distinct, known⟩ := accounted
  refine ⟨?_, ?_, ?_, ?_, distinct, ?_⟩
  all_goals simp only [trace, active, ended_quiet quiet]
  · exact eachAfter_append.mpr ⟨each, fun other outcome => absurd outcome (quiet other).1⟩
  · exact unended
  · exact sending
  · exact reporting
  · exact known

theorem Frame.ends_eq_some :
    frame.ends = some transactionId ↔
      frame.sending = some transactionId ∨ frame.reporting = some transactionId := by
  cases frame <;> simp [Frame.ends, Frame.sending, Frame.reporting]

/-- One more call, which ends a transaction no other call ends. -/
theorem distinct_cons (distinct : (stack.filterMap Frame.ends).Nodup)
    (ends : frame.ends = some transactionId)
    (free : ∀ frame ∈ stack, frame.ends ≠ some transactionId) :
    ((frame :: stack).filterMap Frame.ends).Nodup := by
  rw [List.filterMap_cons_some ends]
  refine List.nodup_cons.mpr ⟨fun member => ?_, distinct⟩
  obtain ⟨busy, called, same⟩ := List.mem_filterMap.mp member
  exact free busy called same

/-- An active transaction that no call ends is brought to a hook of a new call. -/
theorem Accounted.fire (accounted : Accounted mediator stack returned)
    (fires : Fires transactionId mediator after frame)
    (active : transactionId ∈ mediator.activeTransactions)
    (free : ∀ frame ∈ stack, frame.ends ≠ some transactionId) :
    Accounted after (frame :: stack) returned := by
  obtain ⟨same, knows, hook⟩ := fires
  rcases hook with ⟨sends, reports, event, quiet, trace⟩ | ⟨sends, reports, event, outcome, trace⟩
  · obtain ⟨each, unended, sending, reporting, distinct, known⟩ :=
      accounted.recorded quiet same trace
    refine ⟨each, fun other present unreported => ?_, ?_, ?_, ?_, ?_⟩
    · exact unended other present (List.forall_mem_cons.mp unreported).2
    · refine List.forall_mem_cons.mpr ⟨fun other own => ?_, sending⟩
      rw [sends] at own
      exact Option.some.inj own ▸ (same _).mpr active
    · refine List.forall_mem_cons.mpr ⟨fun other own => ?_, reporting⟩
      rw [reports] at own
      cases own
    · exact distinct_cons distinct (Frame.ends_eq_some.mpr (.inl sends)) free
    · rwa [List.flatMap_cons, knows]
  · obtain ⟨each, unended, sending, reporting, distinct, known⟩ := accounted
    have fresh : ¬ Ended transactionId mediator.trace :=
      unended transactionId active fun busy called own =>
        free busy called (Frame.ends_eq_some.mpr (.inr own))
    refine ⟨?_, fun other present unreported => ?_, ?_, ?_, ?_, ?_⟩
    · rw [trace]
      refine eachAfter_append.mpr ⟨each, fun other own => ?_⟩
      rwa [outcomeOf_unique outcome own]
    · rw [trace, ended_outcome outcome, not_or]
      obtain ⟨here, later⟩ := List.forall_mem_cons.mp unreported
      exact ⟨fun own => here (own ▸ reports), unended other ((same _).mp present) later⟩
    · refine List.forall_mem_cons.mpr ⟨fun other own => ?_, fun busy called other own => ?_⟩
      · rw [sends] at own
        cases own
      · exact (same _).mpr (sending busy called other own)
    · refine List.forall_mem_cons.mpr ⟨fun other own => ?_, fun busy called other own => ?_⟩
      · rw [reports] at own
        rw [trace, ended_outcome outcome]
        exact .inl (Option.some.inj own).symm
      · rw [trace, ended_outcome outcome]
        exact .inr (reporting busy called other own)
    · exact distinct_cons distinct (Frame.ends_eq_some.mpr (.inr reports)) free
    · rw [List.flatMap_cons, knows]
      intro other member
      rw [trace, ended_outcome outcome]
      exact (known other member).imp (same _).mpr .inr

/-- The transaction a call ends is ended by no other one. -/
theorem distinct_head (distinct : ((frame :: below).filterMap Frame.ends).Nodup)
    (ends : frame.ends = some transactionId) :
    (below.filterMap Frame.ends).Nodup ∧ ∀ frame ∈ below, frame.ends ≠ some transactionId := by
  rw [List.filterMap_cons_some ends] at distinct
  obtain ⟨fresh, distinct⟩ := List.nodup_cons.mp distinct
  exact ⟨distinct, fun busy called same => fresh (List.mem_filterMap.mpr ⟨busy, called, same⟩)⟩

/-- The innermost call leaves its request. -/
theorem Accounted.leave_request (accounted : Accounted mediator (frame :: below) returned)
    (sends : frame.sending = some transactionId) :
    Accounted mediator below returned ∧ transactionId ∈ mediator.activeTransactions ∧
      ∀ frame ∈ below, frame.ends ≠ some transactionId := by
  obtain ⟨each, unended, sending, reporting, distinct, known⟩ := accounted
  obtain ⟨here, sending⟩ := List.forall_mem_cons.mp sending
  obtain ⟨distinct, free⟩ := distinct_head distinct (Frame.ends_eq_some.mpr (.inl sends))
  have silent : frame.reporting = none := by
    cases frame <;> first | rfl | cases sends
  refine ⟨⟨each, fun other present unreported => ?_, sending, ?_, distinct, ?_⟩, here _ sends, free⟩
  · refine unended other present (List.forall_mem_cons.mpr ⟨?_, unreported⟩)
    rw [silent]
    exact Option.some_ne_none other |>.symm
  · exact (List.forall_mem_cons.mp reporting).2
  · intro other member
    refine known other ?_
    rw [List.flatMap_cons, List.mem_append, List.mem_append]
    exact (List.mem_append.mp member).imp id .inr

/-- The innermost call has reported, and erases its transaction. -/
theorem Accounted.leave_report (accounted : Accounted mediator (frame :: below) returned)
    (reports : frame.reporting = some transactionId) :
    Accounted (mediator.eraseTransaction transactionId) below returned := by
  obtain ⟨each, unended, sending, reporting, distinct, known⟩ := accounted
  obtain ⟨reported, reporting⟩ := List.forall_mem_cons.mp reporting
  obtain ⟨distinct, free⟩ := distinct_head distinct (Frame.ends_eq_some.mpr (.inr reports))
  have erased (other : TransactionId) :
      other ∈ (mediator.eraseTransaction transactionId).activeTransactions ↔
        other ≠ transactionId ∧ other ∈ mediator.activeTransactions := AList.mem_erase
  refine ⟨each, fun other present unreported => ?_, ?_, reporting, distinct, ?_⟩
  · obtain ⟨different, present⟩ := (erased other).mp present
    refine unended other present (List.forall_mem_cons.mpr ⟨?_, unreported⟩)
    rw [reports]
    exact fun same => different (Option.some.inj same).symm
  · intro busy called other own
    refine (erased other).mpr ⟨fun same => ?_, ?_⟩
    · exact free busy called (Frame.ends_eq_some.mpr (.inl (same ▸ own)))
    · exact (List.forall_mem_cons.mp sending).2 busy called other own
  · intro other member
    by_cases same : other = transactionId
    · subst same
      exact .inr (reported _ reports)
    · refine (known other ?_).imp (fun present => (erased other).mpr ⟨same, present⟩) id
      rw [List.flatMap_cons, List.mem_append, List.mem_append]
      exact (List.mem_append.mp member).imp id .inr

/-- The innermost call, which ends no transaction, is exchanged for others that end none and know
no more. -/
theorem Accounted.exchange (accounted : Accounted mediator (frame :: below) returned)
    (ends : frame.ends = none) (top : List Frame) (added : List TransactionId)
    (idle : ∀ frame ∈ top, frame.ends = none)
    (knows : ∀ transactionId ∈ added ++ top.flatMap Frame.knows, transactionId ∈ frame.knows) :
    Accounted mediator (top ++ below) (returned ++ added) := by
  obtain ⟨each, unended, sending, reporting, distinct, known⟩ := accounted
  have split {busy : Frame} (called : busy ∈ top ++ below) (other : TransactionId)
      (own : busy.ends = some other) : busy ∈ frame :: below := by
    rcases List.mem_append.mp called with new | old
    · rw [idle busy new] at own
      cases own
    · exact List.mem_cons_of_mem _ old
  refine ⟨each, fun other present unreported => ?_, ?_, ?_, ?_, ?_⟩
  · refine unended other present (List.forall_mem_cons.mpr ⟨fun own => ?_, ?_⟩)
    · rw [Frame.ends_eq_some.mpr (.inr own)] at ends
      cases ends
    · exact fun busy called => unreported busy (List.mem_append_right _ called)
  · intro busy called other own
    exact sending busy (split called other (Frame.ends_eq_some.mpr (.inl own))) other own
  · intro busy called other own
    exact reporting busy (split called other (Frame.ends_eq_some.mpr (.inr own))) other own
  · have none : top.filterMap Frame.ends = [] :=
      List.filterMap_eq_nil_iff.mpr idle
    rw [List.filterMap_cons_none ends] at distinct
    rwa [List.filterMap_append, none, List.nil_append]
  · intro other member
    refine known other ?_
    simp only [List.flatMap_append, List.flatMap_cons, List.mem_append] at member ⊢
    have := knows other
    rw [List.mem_append] at this
    tauto

/-- The loop of `OnTimer` takes its next transaction. -/
theorem Accounted.next {rest : List TransactionId}
    (accounted : Accounted mediator (.timer (transactionId :: rest) :: below) returned) :
    Accounted mediator (.timer rest :: below) returned := by
  have exchanged := accounted.exchange rfl [.timer rest] [] (List.forall_mem_singleton.mpr rfl)
    (by simp +contextual [Frame.knows])
  rwa [List.append_nil] at exchanged

theorem Fires.of_set (active : transactionId ∈ mediator.activeTransactions)
    {transaction : Transaction}
    (fires : Fires transactionId (mediator.setTransaction transactionId transaction) after frame) :
    Fires transactionId mediator after frame :=
  ⟨fun other => (fires.active other).trans (setTransaction_active active transaction),
    fires.knows, fires.hook⟩

theorem beginCommit_fires (traversal : Traversal)
    (active : transactionId ∈ mediator.activeTransactions) :
    Fires transactionId mediator (beginCommit traversal mediator transactionId).1
      (beginCommit traversal mediator transactionId).2 :=
  (commitFrom_fires _ transactionId _).of_set active

theorem beginRollback_fires (traversal : Traversal)
    (active : transactionId ∈ mediator.activeTransactions) :
    Fires transactionId mediator (beginRollback traversal mediator transactionId).1
      (beginRollback traversal mediator transactionId).2 :=
  (rollbackFrom_fires _ transactionId _).of_set active

/-- `StartTransaction` forgets what its id stood for. -/
theorem Accounted.start (accounted : Accounted mediator [] returned)
    (participantIds : List ParticipantId) (timeout now : ℤ) :
    Accounted (mediator.startTransaction participantIds timeout now)
      [.transactionStarted
        (mediator.startTransaction participantIds timeout now).transactionIdGenerator]
      returned := by
  obtain ⟨each, unended, -, -, -, known⟩ := accounted
  have active (other : TransactionId) :
      other ∈ (mediator.startTransaction participantIds timeout now).activeTransactions ↔
        other = mediator.generateTransactionId.transactionIdGenerator ∨
          other ∈ mediator.activeTransactions := AList.mem_insert _
  have trace : (mediator.startTransaction participantIds timeout now).trace = mediator.trace ++
      [.started mediator.generateTransactionId.transactionIdGenerator participantIds] := rfl
  have forgets (other : TransactionId) :
      Ended other (mediator.startTransaction participantIds timeout now).trace ↔
        Ended other mediator.trace ∧
          other ≠ mediator.generateTransactionId.transactionIdGenerator := by
    unfold Ended
    rw [trace, since_append]
    simp only [outcomeOf, startOf, false_or, ne_eq, eq_comm]
  show Accounted _ [.transactionStarted mediator.generateTransactionId.transactionIdGenerator] _
  generalize mediator.generateTransactionId.transactionIdGenerator = started at *
  refine ⟨?_, fun other present _ => ?_, ?_, ?_, List.nodup_nil, fun other member => ?_⟩
  · rw [trace]
    exact eachAfter_append.mpr ⟨each, fun other outcome => outcome.elim⟩
  · rw [forgets]
    rintro ⟨ended, different⟩
    have before := ((active other).mp present).resolve_left different
    exact unended other before (fun _ called => absurd called List.not_mem_nil) ended
  · exact List.forall_mem_singleton.mpr fun _ => nofun
  · exact List.forall_mem_singleton.mpr fun _ => nofun
  · rw [active, forgets]
    by_cases same : other = started
    · exact .inl (.inl same)
    · rcases List.mem_append.mp member with before | new
      · have := known other (List.mem_append_left _ before)
        tauto
      · exact absurd (List.mem_singleton.mp new) same

/-- `OnTimer` collects active transactions. -/
theorem Accounted.sweep (accounted : Accounted mediator [] returned) (traversal : Traversal)
    (now : ℤ) :
    Accounted mediator [.timer (timedOutTransactions traversal mediator now)] returned := by
  obtain ⟨each, unended, -, -, -, known⟩ := accounted
  refine ⟨each, fun other present _ => ?_, ?_, ?_, List.nodup_nil, fun other member => ?_⟩
  · exact unended other present fun _ called => absurd called List.not_mem_nil
  · exact List.forall_mem_singleton.mpr fun _ => nofun
  · exact List.forall_mem_singleton.mpr fun _ => nofun
  · rcases List.mem_append.mp member with before | collected
    · exact known other (List.mem_append_left _ before)
    · rw [List.flatMap_singleton] at collected
      obtain ⟨entry, late, rfl⟩ := List.mem_map.mp collected
      have visited := (traversal.perm _).mem_iff.mp (List.mem_filter.mp late).1
      exact .inl (AList.mem_keys.mpr (List.mem_map_of_mem visited))

theorem accounted_initial : Accounted Mediator.initial [] [] := by
  refine ⟨eachAfter_nil, ?_, nofun, nofun, List.nodup_nil, nofun⟩
  exact fun _ _ _ => not_since_nil

/-- A vote, noted or not, and what follows it. -/
theorem accounted_vote {state : State} (traversal : Traversal) (idle : state.stack = [])
    (accounted : Accounted state.mediator [] state.returned)
    (participantId : ParticipantId) (success : Bool) (now : ℤ) :
    Accounted
      (state.onParticipantReady traversal transactionId participantId success now).mediator
      (state.onParticipantReady traversal transactionId participantId success now).stack
      (state.onParticipantReady traversal transactionId participantId success now).returned := by
  have called : Accounted (state.mediator.record (.voted transactionId participantId success)) []
      state.returned := accounted.recorded (fun _ => ⟨id, id⟩) (fun _ => Iff.rfl) rfl
  have noted {transaction : Transaction} (voted : Transaction)
      (found : state.mediator.activeTransactions.lookup transactionId = some transaction) :
      Accounted ((state.mediator.record (.voted transactionId participantId
          success)).setTransaction transactionId voted) [] state.returned ∧
        transactionId ∈ ((state.mediator.record (.voted transactionId participantId
          success)).setTransaction transactionId voted).activeTransactions := by
    have present : transactionId ∈ state.mediator.activeTransactions :=
      AList.lookup_isSome.mp (Option.isSome_of_eq_some found)
    exact ⟨called.changed (fun _ => setTransaction_active present voted) rfl,
      (setTransaction_active present voted).mpr present⟩
  have free : ∀ frame ∈ ([] : List Frame), frame.ends ≠ some transactionId :=
    fun _ member => absurd member List.not_mem_nil
  fun_cases State.onParticipantReady traversal state transactionId participantId success now
  case case1 => exact idle ▸ called
  case case2 => exact idle ▸ called
  case case3 transaction found participant member voted _ _ ready =>
    obtain ⟨kept, active⟩ := noted voted found
    exact kept.fire (beginCommit_fires traversal active) active free
  case case4 transaction found participant member voted _ _ unready =>
    exact idle ▸ (noted voted found).1
  case case5 transaction found participant member voted _ refused =>
    obtain ⟨kept, active⟩ := noted voted found
    exact kept.fire (beginRollback_fires traversal active) active free

/-- **One proper step.** -/
theorem accounted_step {before after : State} {label : Call × Traversal}
    (accounted : Accounted before.mediator before.stack before.returned)
    (proper : Proper before label) (taken : step before label = some after) :
    Accounted after.mediator after.stack after.returned := by
  unfold Proper at proper
  revert taken
  fun_cases step before label
  all_goals intro taken
  all_goals cases taken
  case case1 participantIds timeout now call idle started =>
    rw [idle] at accounted
    exact accounted.start participantIds timeout now
  case case2 transactionId participantId success now call idle =>
    rw [idle] at accounted
    exact accounted_vote label.2 idle accounted participantId success now
  case case3 now call idle =>
    rw [idle] at accounted
    exact accounted.sweep label.2 now
  case case4 call => exact accounted.changed (fun _ => Iff.rfl) rfl
  case case5 transactionId call may =>
    rw [call] at proper
    obtain ⟨active, free⟩ := proper transactionId rfl
    exact accounted.fire (beginRollback_fires label.2 active) active free
  case case7 frame below call calls =>
    rw [calls] at accounted
    rw [call] at proper
    unfold State.rollsBack at proper
    simp only [calls] at proper
    cases frame with
    | transactionStarted transactionId =>
        exact accounted.exchange rfl [] [transactionId] nofun (by simp [Frame.knows])
    | sendCommitRequest transactionId entry rest =>
        obtain ⟨left, active, free⟩ := accounted.leave_request rfl
        exact (left.modified transactionId _).fire (commitFrom_fires _ transactionId rest)
          ((modifyTransaction_active _).mpr active) free
    | sendRollbackRequest transactionId rest =>
        obtain ⟨left, active, free⟩ := accounted.leave_request rfl
        exact left.fire (rollbackFrom_fires _ transactionId rest) active free
    | transactionCompleted transactionId | transactionFailed transactionId =>
        exact accounted.leave_report rfl
    | timer timedOut =>
        cases timedOut with
        | nil =>
            have left : Accounted before.mediator below before.returned := by
              simpa using accounted.exchange rfl [] [] nofun nofun
            exact left
        | cons transactionId rest =>
            obtain ⟨active, free⟩ := proper transactionId rfl
            obtain ⟨-, free⟩ := List.forall_mem_cons.mp free
            exact accounted.next.fire (beginRollback_fires label.2 active) active
              (List.forall_mem_cons.mpr ⟨nofun, free⟩)

/-- When every outcome is the first one since the start, there is one at most. -/
theorem oneOutcome_of_each (each : EachAfter (fun before event => ∀ transactionId,
    outcomeOf transactionId event → ¬ Ended transactionId before) trace) : OneOutcome trace := by
  intro transactionId early during late split restarts
  by_contra many
  rw [not_le, List.countP_eq_length_filter] at many
  obtain ⟨first, second, more, two⟩ : ∃ first second more,
      during.filter (outcomeOf transactionId ·) = first :: second :: more := by
    match filtered : during.filter (outcomeOf transactionId ·) with
    | [] | [_] => simp [filtered] at many
    | first :: second :: more => exact ⟨first, second, more, rfl⟩
  have outcomes : ∀ event ∈ first :: second :: more, outcomeOf transactionId event := by
    intro event member
    rw [← two] at member
    exact of_decide_eq_true (List.mem_filter.mp member).2
  have inside : (first :: second :: more).Sublist during := two ▸ List.filter_sublist
  obtain ⟨front, back, rfl, here, later⟩ := List.cons_sublist_iff.mp inside
  obtain ⟨before, between, rfl⟩ := List.append_of_mem here
  obtain ⟨after, rest, rfl⟩ := List.append_of_mem (later.subset List.mem_cons_self)
  refine each (early ++ before ++ first :: (between ++ after)) second (rest ++ late) ?_
    transactionId (outcomes second (by simp)) ?_
  · rw [split]
    simp
  · refine ⟨early ++ before, first, between ++ after, rfl, outcomes first (by simp), ?_⟩
    intro event member
    refine restarts event ?_
    simp only [List.mem_append, List.mem_cons] at member ⊢
    tauto

end Accounting

section Unwinding

variable {transactionId : TransactionId} {below : List Frame} {returned : List TransactionId}
  {trace : List Event}

/-- The calls above `below` have returned; since the trace was as given nothing was started, and
`ending` has had an outcome. -/
structure Unwound (below : List Frame) (trace : List Event) (ending : Option TransactionId)
    (state : State) : Prop where
  stack : state.stack = below
  history : ∃ events, state.mediator.trace = trace ++ events ∧
    (∀ event ∈ events, ∀ other, ¬ startOf other event) ∧
    ∀ transactionId ∈ ending, ∃ event ∈ events, outcomeOf transactionId event

/-- An earlier trace. -/
theorem Unwound.earlier {events : List Event} {ending : Option TransactionId} {state : State}
    (unwound : Unwound below (trace ++ events) ending state)
    (restarts : ∀ event ∈ events, ∀ other, ¬ startOf other event) :
    Unwound below trace ending state := by
  obtain ⟨stack, more, history, none, ends⟩ := unwound
  refine ⟨stack, events ++ more, by rw [history, List.append_assoc], ?_, fun other own => ?_⟩
  · exact List.forall_mem_append.mpr ⟨restarts, none⟩
  · obtain ⟨event, member, outcome⟩ := ends other own
    exact ⟨event, List.mem_append_right _ member, outcome⟩

/-- The innermost hook returns on the way to a goal. -/
theorem leads_goOn {Goal : State → Prop} {mediator : MediatorBase} {frame : Frame}
    (leads : Leads step Unguarded Goal
      (State.resume .stored ⟨mediator, frame :: below, returned⟩ below frame)) :
    Leads step Unguarded Goal ⟨mediator, frame :: below, returned⟩ := by
  have taken : step ⟨mediator, frame :: below, returned⟩ (.goOn, .stored) =
      some (State.resume .stored ⟨mediator, frame :: below, returned⟩ below frame) := rfl
  exact Leads.after trivial taken leads

/-- The hook that reports an outcome returns. -/
theorem leads_reported {mediator reported : MediatorBase} {frame : Frame} {event : Event}
    (reports : frame.reporting = some transactionId) (outcome : outcomeOf transactionId event)
    (trace : reported.trace = mediator.trace ++ [event]) :
    Leads step Unguarded (Unwound below mediator.trace (some transactionId))
      ⟨reported, frame :: below, returned⟩ := by
  have starts (other : TransactionId) : ¬ startOf other event := by
    cases event <;> first | exact id | exact outcome.elim
  have unwound (later : State) (popped : later.stack = below)
      (same : later.mediator.trace = reported.trace) :
      Unwound below mediator.trace (some transactionId) later := by
    refine ⟨popped, [event], same.trans trace, List.forall_mem_singleton.mpr starts, ?_⟩
    rintro other ⟨⟩
    exact ⟨event, List.mem_singleton_self event, outcome⟩
  apply leads_goOn
  cases frame with
  | transactionCompleted | transactionFailed => exact .here (unwound _ rfl rfl)
  | _ => cases reports

/-- The loop of `RollbackTransaction`, with hooks that return at once. -/
theorem leads_rollbackFrom (entries : List Entry) (mediator : MediatorBase) :
    Leads step Unguarded (Unwound below mediator.trace (some transactionId))
      ⟨(rollbackFrom mediator transactionId entries).1,
        (rollbackFrom mediator transactionId entries).2 :: below, returned⟩ := by
  induction entries generalizing mediator with
  | nil =>
      have outcome : outcomeOf transactionId (.failed transactionId) := rfl
      refine leads_reported rfl outcome ?_
      rw [rollbackFrom, record_trace, modifyTransaction_trace]
  | cons entry rest ih =>
      unfold rollbackFrom
      split
      · apply leads_goOn
        refine (ih (mediator.record (.sendRollbackRequest transactionId entry.2.id))).trans ?_
        exact fun later unwound => .here (unwound.earlier
          (List.forall_mem_singleton.mpr fun _ => id))
      · exact ih mediator

/-- The loop of `CommitTransaction`, with hooks that return at once. -/
theorem leads_commitFrom (entries : List Entry) (mediator : MediatorBase) :
    Leads step Unguarded (Unwound below mediator.trace (some transactionId))
      ⟨(commitFrom mediator transactionId entries).1,
        (commitFrom mediator transactionId entries).2 :: below, returned⟩ := by
  induction entries generalizing mediator with
  | nil =>
      have outcome : outcomeOf transactionId (.completed transactionId) := rfl
      refine leads_reported rfl outcome ?_
      rw [commitFrom, record_trace, modifyTransaction_trace]
  | cons entry rest ih =>
      unfold commitFrom
      apply leads_goOn
      refine (ih _).trans fun later unwound => .here ?_
      rw [modifyTransaction_trace, record_trace] at unwound
      exact unwound.earlier (List.forall_mem_singleton.mpr fun _ => id)

/-- `RollbackTransaction`, with hooks that return at once. -/
theorem leads_beginRollback (traversal : Traversal) (mediator : MediatorBase)
    (transactionId : TransactionId) :
    Leads step Unguarded (Unwound below mediator.trace (some transactionId))
      ⟨(beginRollback traversal mediator transactionId).1,
        (beginRollback traversal mediator transactionId).2 :: below, returned⟩ :=
  leads_rollbackFrom _ (mediator.setTransaction transactionId _)

/-- What has unwound further. -/
theorem Unwound.later {middle later : State} {upper lower : List Frame}
    {first second : Option TransactionId} (one : Unwound upper trace first middle)
    (two : Unwound lower middle.mediator.trace second later) :
    Unwound lower trace second later := by
  obtain ⟨-, events, history, none, -⟩ := one
  exact (history ▸ two).earlier none

/-- The loop of `OnTimer`, with hooks that return at once. -/
theorem leads_timer (timedOut : List TransactionId) (mediator : MediatorBase) :
    Leads step Unguarded (Unwound below mediator.trace none)
      ⟨mediator, .timer timedOut :: below, returned⟩ := by
  induction timedOut generalizing mediator returned with
  | nil =>
      apply leads_goOn
      exact .here ⟨rfl, [], (List.append_nil _).symm, nofun, nofun⟩
  | cons first rest ih =>
      apply leads_goOn
      refine (leads_beginRollback .stored mediator first).trans fun middle one => ?_
      obtain ⟨after, stack, known⟩ := middle
      obtain rfl : stack = .timer rest :: below := one.stack
      exact (ih after).trans fun later two => .here (one.later two)

/-- A call in progress returns, and has ended what it was ending. -/
theorem leads_return (frame : Frame) (mediator : MediatorBase) :
    Leads step Unguarded (Unwound below mediator.trace frame.sending)
      ⟨mediator, frame :: below, returned⟩ := by
  cases frame with
  | sendCommitRequest transactionId entry rest =>
      apply leads_goOn
      refine (leads_commitFrom rest _).trans fun later unwound => .here ?_
      rwa [modifyTransaction_trace] at unwound
  | sendRollbackRequest transactionId rest =>
      apply leads_goOn
      exact leads_rollbackFrom rest mediator
  | timer timedOut => exact leads_timer timedOut mediator
  | transactionStarted | transactionCompleted | transactionFailed =>
      apply leads_goOn
      exact .here ⟨rfl, [], (List.append_nil _).symm, nofun, nofun⟩

/-- All calls above a point return. -/
theorem leads_unwound (upper : List Frame) (mediator : MediatorBase) :
    Leads step Unguarded (Unwound below mediator.trace none)
      ⟨mediator, upper ++ below, returned⟩ := by
  induction upper generalizing mediator returned with
  | nil => exact .here ⟨rfl, [], (List.append_nil _).symm, nofun, nofun⟩
  | cons frame rest ih =>
      refine (leads_return frame mediator).trans fun middle one => ?_
      obtain ⟨after, stack, known⟩ := middle
      obtain rfl : stack = rest ++ below := one.stack
      exact (ih after).trans fun later two => .here (one.later two)

/-- Two outcomes without a start between them. -/
theorem not_oneOutcome {early first second : List Event}
    (restarts : ∀ event ∈ first ++ second, ¬ startOf transactionId event)
    (one : ∃ event ∈ first, outcomeOf transactionId event)
    (two : ∃ event ∈ second, outcomeOf transactionId event) :
    ¬ OneOutcome (early ++ (first ++ second)) := by
  intro once
  have count := once transactionId early (first ++ second) [] (by simp) restarts
  rw [List.countP_append] at count
  have counted {events : List Event} (some : ∃ event ∈ events, outcomeOf transactionId event) :
      0 < events.countP (outcomeOf transactionId ·) := by
    obtain ⟨event, member, outcome⟩ := some
    exact List.countP_pos_iff.mpr ⟨event, member, decide_eq_true outcome⟩
  have := counted one
  have := counted two
  omega

/-- A rollback of a transaction that has been ended, or is being ended, ends it a second time. -/
theorem leads_twice {mediator : MediatorBase} {stack : List Frame} (traversal : Traversal)
    (accounted : Accounted mediator stack returned)
    (known : transactionId ∈ mediator.activeTransactions ∨ Ended transactionId mediator.trace)
    (improper : ¬ (transactionId ∈ mediator.activeTransactions ∧
      ∀ frame ∈ stack, frame.ends ≠ some transactionId)) :
    Leads step Unguarded (fun later => ¬ OneOutcome later.mediator.trace)
      ⟨(beginRollback traversal mediator transactionId).1,
        (beginRollback traversal mediator transactionId).2 :: stack, returned⟩ := by
  refine (leads_beginRollback traversal mediator transactionId).trans fun middle one => ?_
  obtain ⟨events, history, restarts, ends⟩ := one.history
  by_cases ended : Ended transactionId mediator.trace
  · obtain ⟨early, event, late, split, outcome, stays⟩ := ended
    refine .here ?_
    rw [history, split, List.append_assoc]
    refine not_oneOutcome (List.forall_mem_append.mpr ⟨?_, fun other member => ?_⟩)
      ⟨event, List.mem_cons_self, outcome⟩ (ends transactionId rfl)
    · refine List.forall_mem_cons.mpr ⟨?_, stays⟩
      cases event <;> first | exact id | exact outcome.elim
    · exact restarts other member transactionId
  · -- then a call further out is still sending the requests of the transaction
    have active := known.resolve_right ended
    obtain ⟨busy, called, own⟩ : ∃ frame ∈ stack, frame.ends = some transactionId := by
      by_contra free
      push Not at free
      exact improper ⟨active, free⟩
    have sends : busy.sending = some transactionId := by
      refine (Frame.ends_eq_some.mp own).resolve_right fun reports => ended ?_
      exact accounted.reporting busy called transactionId reports
    obtain ⟨upper, lower, rfl⟩ := List.append_of_mem called
    obtain ⟨after, stack, returned⟩ := middle
    obtain rfl : stack = upper ++ busy :: lower := one.stack
    refine (leads_unwound upper after).trans fun further two => ?_
    obtain ⟨last, stack, returned⟩ := further
    obtain rfl : stack = busy :: lower := two.stack
    refine (leads_return busy last).trans fun later three => .here ?_
    obtain ⟨more, total, none, again⟩ := (two.later three).history
    rw [total, history, List.append_assoc]
    refine not_oneOutcome (fun event member => ?_) (ends transactionId rfl)
      (again transactionId sends)
    rcases List.mem_append.mp member with first | second
    · exact restarts event first transactionId
    · exact none event second transactionId

end Unwinding

section Results

variable {state : State}

theorem accounted_of_reach (reached : Reach step Proper initial state) :
    Accounted state.mediator state.stack state.returned := by
  apply reached.invariant fun state : State =>
    Accounted state.mediator state.stack state.returned
  · exact accounted_initial
  · exact fun before label after accounted proper taken => accounted_step accounted proper taken

/-- **One outcome**, as long as `RollbackTransaction` is called for active transactions only that no
call in progress is ending. -/
theorem one_outcome (reached : Reach step Proper initial state) :
    OneOutcome state.mediator.trace :=
  oneOutcome_of_each (accounted_of_reach reached).each

/-- **The condition is exact**: after a step that breaks it, hooks that return at once are enough
for a second outcome. -/
theorem rolledBack_twice {label : Call × Traversal} {after : State}
    (reached : Reach step Proper initial state) (taken : step state label = some after)
    (improper : ¬ Proper state label) :
    Leads step Unguarded (fun later => ¬ OneOutcome later.mediator.trace) after := by
  have accounted := accounted_of_reach reached
  unfold Proper at improper
  push Not at improper
  obtain ⟨transactionId, begins, breaks⟩ := improper
  revert taken
  fun_cases step state label
  all_goals intro taken
  all_goals cases taken
  case case5 target call may =>
    rw [call] at begins
    obtain rfl : target = transactionId := Option.some.inj begins
    refine leads_twice label.2 accounted (accounted.known target ?_) fun proper => ?_
    · exact List.mem_append_left _ may.1
    · obtain ⟨frame, calls, ends⟩ := breaks proper.1
      exact proper.2 frame calls ends
  case case7 frame below call calls =>
    rw [call] at begins
    unfold State.rollsBack at begins
    simp only [calls] at begins
    split at begins
    case h_2 => cases begins
    case h_1 rest _ same =>
      cases same
      obtain rfl := Option.some.inj begins
      rw [calls] at accounted breaks
      refine leads_twice label.2 accounted.next (accounted.known _ ?_) fun proper => ?_
      · simp [Frame.knows]
      · obtain ⟨frame, called, ends⟩ := breaks proper.1
        rcases List.mem_cons.mp called with rfl | further
        · cases ends
        · exact proper.2 frame (List.mem_cons_of_mem _ further) ends
  case case1 participantIds timeout now call idle started =>
    rw [call] at begins
    cases begins
  case case2 target participantId success now call idle =>
    rw [call] at begins
    cases begins
  case case3 now call idle =>
    rw [call] at begins
    cases begins
  case case4 call =>
    rw [call] at begins
    cases begins

/-- Two transactions; the hook that reports the end of one rolls the other back. -/
def nestedSchedule : List (Call × Traversal) :=
  [(.startTransaction [1] 5000 0, .stored), (.goOn, .stored),
    (.startTransaction [2] 5000 0, .stored), (.goOn, .stored),
    (.onParticipantReady 2 1 true 1, .stored), (.goOn, .stored), (.rollbackTransaction 3, .stored),
    (.goOn, .stored), (.goOn, .stored)]

theorem one_outcome_nested : ∃ state, Reach step Proper initial state ∧
    state.mediator.trace = [.started 2 [1], .started 3 [2], .voted 2 1 true,
      .sendCommitRequest 2 1, .completed 2, .failed 3] ∧ OneOutcome state.mediator.trace := by
  obtain ⟨state, reached, test⟩ := exists_reach_of_runGuarded step Proper initial nestedSchedule
    (fun state => decide (state.mediator.trace = [.started 2 [1], .started 3 [2],
      .voted 2 1 true, .sendCommitRequest 2 1, .completed 2, .failed 3])) (by decide +kernel)
  exact ⟨state, reached, of_decide_eq_true test, one_outcome reached⟩

/-- The transaction completes; its id is rolled back. -/
def finishedSchedule : List (Call × Traversal) :=
  [(.startTransaction [1] 5000 0, .stored), (.goOn, .stored),
    (.onParticipantReady 2 1 true 1, .stored), (.goOn, .stored), (.goOn, .stored),
    (.rollbackTransaction 2, .stored), (.goOn, .stored)]

/-- **A completed transaction is reported failed.** -/
theorem rolledBack_completed : ¬ ∀ state, Reach step Unguarded initial state →
    OneOutcome state.mediator.trace := by
  intro once
  obtain ⟨state, reached, test⟩ := exists_reach_of_run step initial finishedSchedule
    (fun state => decide (state.mediator.trace = [.started 2 [1], .voted 2 1 true,
      .sendCommitRequest 2 1, .completed 2, .failed 2])) (by decide +kernel)
  have twice := once state reached 2 [.started 2 [1]]
    [.voted 2 1 true, .sendCommitRequest 2 1, .completed 2, .failed 2] []
    (by rw [of_decide_eq_true test]; rfl) (by simp [startOf])
  exact absurd twice (by decide)

end Results

end ActorModelServer.Mediator.HookCalls
