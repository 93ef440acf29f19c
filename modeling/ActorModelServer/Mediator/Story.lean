/-
**The story of one transaction.**

Seen from one transaction, a run of the mediator has a simple shape (`Story`): it is not started,
or it is active and has only received votes, or it was committed, or it was rolled back. The votes
that reach it while it is active decide what its participants' states are and, in the end, who is
sent what; votes before its start and after its end leave no mark.

* `Story.ignored`, `Story.taken`, `Story.commit`, `Story.rollback` — the story goes on.
* `Chronicle` — every transaction has its story, and only ids the counter has left behind are
  started; `chronicle_of_reach` — so in every run with fewer than 2^64 ids.
-/

import ActorModelServer.Mediator.Model

namespace ActorModelServer.Mediator

open StepRuns (Reach Unguarded)

section Story

/-! ### The events about one transaction -/

/-- Only votes happened. -/
def OnlyVotes (segment : List Event) : Prop :=
  ∀ event ∈ segment, ∃ transactionId participantId success,
    event = .voted transactionId participantId success

/-- The vote an event is, if it is one of this participant. -/
def voteOf (participantId : ParticipantId) : Event → Option Bool
  | .voted _ voter success => if voter = participantId then some success else none
  | _ => none

/-- The last vote of a participant. -/
def latestVote (participantId : ParticipantId) (segment : List Event) : Option Bool :=
  (segment.filterMap (voteOf participantId)).getLast?

/-- The state a participant's last vote leaves it in. -/
def stateAfter : Option Bool → ParticipantState
  | none => .waiting
  | some true => .prepared
  | some false => .failed

section About

variable {transactionId other : TransactionId}

theorem about_append (first second : List Event) :
    about transactionId (first ++ second) =
      about transactionId first ++ about transactionId second :=
  List.filter_append _ _

theorem about_all {segment : List Event}
    (all : ∀ event ∈ segment, event.transaction = transactionId) :
    about transactionId segment = segment :=
  List.filter_eq_self.mpr fun _ member => decide_eq_true (all _ member)

theorem onlyVotes_append {first second : List Event} (one : OnlyVotes first)
    (two : OnlyVotes second) : OnlyVotes (first ++ second) := fun event member =>
  (List.mem_append.mp member).elim (one event) (two event)

theorem onlyVotes_singleton (participantId : ParticipantId) (success : Bool) :
    OnlyVotes [.voted transactionId participantId success] := fun _ member =>
  ⟨_, _, _, List.mem_singleton.mp member⟩

/-- A vote is the voter's last. -/
theorem latestVote_voted (segment : List Event) (participantId : ParticipantId) (success : Bool) :
    latestVote participantId (segment ++ [.voted transactionId participantId success]) =
      some success := by
  simp [latestVote, List.filterMap_append, voteOf]

/-- A vote leaves the other participants' last votes. -/
theorem latestVote_other (segment : List Event) {participantId voter : ParticipantId}
    (different : voter ≠ participantId) (success : Bool) :
    latestVote participantId (segment ++ [.voted transactionId voter success]) =
      latestVote participantId segment := by
  simp [latestVote, List.filterMap_append, voteOf, different]

end About

/-! ### The shape of a story -/

/-- The participants of an active transaction are the started ones, each in the state its last vote
left it in. -/
structure Reflects (participantIds : List ParticipantId) (votes : List Event)
    (participants : Participants) : Prop where
  members : ∀ participantId, participantId ∈ participants ↔ participantId ∈ participantIds
  states : ∀ participantId participant, participants.lookup participantId = some participant →
    participant.id = participantId ∧ participant.state = stateAfter (latestVote participantId votes)

/-- No participant has voted failure. -/
def NoFailure (participantIds : List ParticipantId) (votes : List Event) : Prop :=
  ∀ participantId ∈ participantIds, ∀ transactionId,
    .voted transactionId participantId false ∉ votes

/-- The transaction runs: it was started after some votes that do not count, and reflects the votes
since. -/
structure Running (early : List Event) (participantIds : List ParticipantId) (votes : List Event)
    (transaction : Transaction) : Prop where
  before : OnlyVotes early
  during : OnlyVotes votes
  reflects : Reflects participantIds votes transaction.participants

/-- **The story of a transaction**: what happened to it, and what the mediator keeps of it. -/
inductive Story (transactionId : TransactionId) : List Event → Option Transaction → Prop
  | unstarted (early : List Event) (before : OnlyVotes early) : Story transactionId early none
  | active (early : List Event) (participantIds : List ParticipantId) (votes : List Event)
      (transaction : Transaction) (running : Running early participantIds votes transaction)
      (noFailure : NoFailure participantIds votes) :
      Story transactionId (early ++ [.started transactionId participantIds] ++ votes)
        (some transaction)
  | committed (early : List Event) (participantIds : List ParticipantId) (votes : List Event)
      (sent : List ParticipantId) (late : List Event) (before : OnlyVotes early)
      (during : OnlyVotes votes) (behind : OnlyVotes late) (distinct : sent.Nodup)
      (everyone : ∀ participantId, participantId ∈ sent ↔ participantId ∈ participantIds)
      (prepared : ∀ participantId ∈ participantIds, latestVote participantId votes = some true)
      (noFailure : NoFailure participantIds votes) :
      Story transactionId (early ++ [.started transactionId participantIds] ++ votes ++
        (sent.map (.sendCommitRequest transactionId) ++ [.completed transactionId]) ++ late) none
  | rolledBack (early : List Event) (participantIds : List ParticipantId) (votes : List Event)
      (sent : List ParticipantId) (late : List Event) (before : OnlyVotes early)
      (during : OnlyVotes votes) (behind : OnlyVotes late) (distinct : sent.Nodup)
      (prepared : ∀ participantId, participantId ∈ sent ↔
        participantId ∈ participantIds ∧ latestVote participantId votes = some true) :
      Story transactionId (early ++ [.started transactionId participantIds] ++ votes ++
        (sent.map (.sendRollbackRequest transactionId) ++ [.failed transactionId]) ++ late) none

/-! ### Reflecting the votes -/

section Reflects

variable {transactionId : TransactionId} {participantIds : List ParticipantId} {votes : List Event}
  {participants : Participants}

theorem stateAfter_prepared {vote : Option Bool} :
    stateAfter vote = .prepared ↔ vote = some true := by
  rcases vote with _ | _ | _ <;> simp [stateAfter]

/-- An entry's participant carries its key and its last vote. -/
theorem Reflects.entry (reflects : Reflects participantIds votes participants)
    {entry : Sigma fun _ : ParticipantId => Participant} (member : entry ∈ participants.entries) :
    entry.2.id = entry.1 ∧ entry.2.state = stateAfter (latestVote entry.1 votes) :=
  reflects.states entry.1 entry.2 (AList.mem_lookup_iff.mpr member)

/-- Whoever is sent a request by a loop over selected entries is a selected participant, once. -/
theorem Reflects.selected (reflects : Reflects participantIds votes participants)
    (traversal : Traversal) (test : (Sigma fun _ : ParticipantId => Participant) → Bool) :
    (((traversal.order participants.entries).filter test).map fun entry => entry.2.id).Nodup ∧
      ∀ participantId,
        participantId ∈ ((traversal.order participants.entries).filter test).map
          (fun entry => entry.2.id) ↔
        ∃ entry ∈ participants.entries, entry.1 = participantId ∧ test entry = true := by
  have inside {entry : Sigma fun _ : ParticipantId => Participant}
      (member : entry ∈ (traversal.order participants.entries).filter test) :
      entry ∈ participants.entries ∧ test entry = true := by
    obtain ⟨visited, selected⟩ := List.mem_filter.mp member
    exact ⟨(traversal.perm _).mem_iff.mp visited, selected⟩
  have keys : ((traversal.order participants.entries).filter test).map (fun entry => entry.2.id) =
      ((traversal.order participants.entries).filter test).map Sigma.fst :=
    List.map_congr_left fun entry member => (reflects.entry (inside member).1).1
  rw [keys]
  constructor
  · have distinct : ((traversal.order participants.entries).map Sigma.fst).Nodup :=
      ((traversal.perm participants.entries).map Sigma.fst).nodup_iff.mpr participants.keys_nodup
    exact distinct.sublist (List.filter_sublist.map Sigma.fst)
  · intro participantId
    constructor
    · intro member
      obtain ⟨entry, chosen, rfl⟩ := List.mem_map.mp member
      exact ⟨entry, (inside chosen).1, rfl, (inside chosen).2⟩
    · rintro ⟨entry, member, rfl, selected⟩
      exact List.mem_map_of_mem
        (List.mem_filter.mpr ⟨(traversal.perm _).mem_iff.mpr member, selected⟩)

/-- The entries are the participants. -/
theorem Reflects.entry_iff (reflects : Reflects participantIds votes participants)
    (participantId : ParticipantId) :
    (∃ entry ∈ participants.entries, entry.1 = participantId) ↔ participantId ∈ participantIds := by
  rw [← reflects.members, AList.mem_keys, AList.keys, List.keys, List.mem_map]

/-- `RollbackTransaction` reaches the participants whose last vote is success. -/
theorem Reflects.prepared_iff (reflects : Reflects participantIds votes participants)
    (participantId : ParticipantId) :
    (∃ entry ∈ participants.entries, entry.1 = participantId ∧
        decide (entry.2.state = .prepared) = true) ↔
      participantId ∈ participantIds ∧ latestVote participantId votes = some true := by
  constructor
  · rintro ⟨entry, member, rfl, prepared⟩
    have state := (reflects.entry member).2
    rw [of_decide_eq_true prepared] at state
    exact ⟨(reflects.entry_iff _).mp ⟨entry, member, rfl⟩, stateAfter_prepared.mp state.symm⟩
  · rintro ⟨member, vote⟩
    obtain ⟨participant, found⟩ := Option.isSome_iff_exists.mp
      (AList.lookup_isSome.mpr ((reflects.members participantId).mpr member))
    refine ⟨⟨participantId, participant⟩, AList.mem_lookup_iff.mp found, rfl, decide_eq_true ?_⟩
    rw [(reflects.states participantId participant found).2, vote]
    rfl

/-- The loop of `StartTransaction`: the listed participants are new, the others as before. -/
theorem newParticipants_spec (participantIds : List ParticipantId) :
    ∀ participants : Participants,
      (∀ participantId, participantId ∈ participantIds.foldl (fun participants participantId =>
          participants.insert participantId (.new participantId)) participants ↔
        participantId ∈ participantIds ∨ participantId ∈ participants) ∧
      ∀ participantId participant, (participantIds.foldl (fun participants participantId =>
          participants.insert participantId (.new participantId)) participants).lookup
          participantId = some participant →
        participant = .new participantId ∨
          participants.lookup participantId = some participant := by
  induction participantIds with
  | nil => exact fun participants => ⟨fun _ => by simp, fun _ _ found => .inr found⟩
  | cons first rest ih =>
      intro participants
      obtain ⟨members, states⟩ := ih (participants.insert first (.new first))
      constructor
      · intro participantId
        rw [List.foldl_cons, members, AList.mem_insert, List.mem_cons]
        tauto
      · intro participantId participant found
        rcases states participantId participant found with new | inserted
        · exact .inl new
        · by_cases same : participantId = first
          · subst same
            rw [AList.lookup_insert] at inserted
            exact .inl (Option.some.inj inserted).symm
          · rw [AList.lookup_insert_ne same] at inserted
            exact .inr inserted

/-- A new transaction reflects that nobody has voted. -/
theorem reflects_started (participantIds : List ParticipantId) :
    Reflects participantIds [] (participantIds.foldl
      (fun participants participantId => participants.insert participantId (.new participantId))
      ∅) where
  members := fun participantId => by
    rw [(newParticipants_spec participantIds ∅).1 participantId]
    simp
  states := fun participantId participant found => by
    rcases (newParticipants_spec participantIds ∅).2 participantId participant found with
      rfl | absent
    · exact ⟨rfl, rfl⟩
    · cases absent

/-- A participant's vote is reflected in its state. -/
theorem Reflects.voted (reflects : Reflects participantIds votes participants)
    {participantId : ParticipantId} {participant : Participant}
    (found : participants.lookup participantId = some participant) (success : Bool) (now : ℤ) :
    Reflects participantIds (votes ++ [.voted transactionId participantId success])
      (participants.insert participantId { participant with
        lastUpdate := now
        state := if success then .prepared else .failed }) where
  members := fun other => by
    rw [AList.mem_insert, reflects.members]
    constructor
    · rintro (rfl | member)
      · exact (reflects.members _).mp (AList.lookup_isSome.mp (Option.isSome_of_eq_some found))
      · exact member
    · exact .inr
  states := fun other participant' => by
    by_cases same : other = participantId
    · subst same
      rw [AList.lookup_insert, latestVote_voted]
      rintro ⟨⟩
      refine ⟨(reflects.states _ _ found).1, ?_⟩
      cases success <;> rfl
    · rw [AList.lookup_insert_ne same, latestVote_other votes (Ne.symm same)]
      exact reflects.states other participant'

/-- The vote of a stranger is reflected as it stands. -/
theorem Reflects.stranger (reflects : Reflects participantIds votes participants)
    {participantId : ParticipantId} (absent : participants.lookup participantId = none)
    (success : Bool) :
    Reflects participantIds (votes ++ [.voted transactionId participantId success])
      participants where
  members := reflects.members
  states := fun other participant found => by
    have different : participantId ≠ other := by
      rintro rfl
      rw [absent] at found
      cases found
    rw [latestVote_other votes different]
    exact reflects.states other participant found

/-- All participants are prepared when each one's last vote is success. -/
theorem Reflects.allPrepared_iff {transaction : Transaction}
    (reflects : Reflects participantIds votes transaction.participants) :
    MediatorBase.allParticipantsPrepared transaction = true ↔
      ∀ participantId ∈ participantIds, latestVote participantId votes = some true := by
  constructor
  · intro ready participantId member
    obtain ⟨entry, kept, rfl⟩ := (reflects.entry_iff participantId).mpr member
    have state := List.all_eq_true.mp ready entry kept
    rw [(reflects.entry kept).2, beq_iff_eq] at state
    exact stateAfter_prepared.mp state
  · intro prepared
    refine List.all_eq_true.mpr fun entry kept => ?_
    have member := (reflects.entry_iff entry.1).mp ⟨entry, kept, rfl⟩
    rw [(reflects.entry kept).2, prepared entry.1 member]
    rfl

end Reflects

/-! ### The story goes on -/

section Going

variable {transactionId : TransactionId} {history early : List Event}
  {participantIds : List ParticipantId} {votes : List Event} {transaction : Transaction}

/-- **A vote for a transaction that is not active leaves no mark.** -/
theorem Story.inactive (story : Story transactionId history none) (participantId : ParticipantId)
    (success : Bool) :
    Story transactionId (history ++ [.voted transactionId participantId success]) none := by
  generalize absent : (none : Option Transaction) = kept at story
  cases story with
  | unstarted _ before =>
      exact .unstarted _ (onlyVotes_append before (onlyVotes_singleton participantId success))
  | active => cases absent
  | committed early participantIds votes sent late before during behind =>
      rw [List.append_assoc _ late]
      exact .committed early participantIds votes sent _ before during
        (onlyVotes_append behind (onlyVotes_singleton participantId success)) ‹_› ‹_› ‹_› ‹_›
  | rolledBack early participantIds votes sent late before during behind =>
      rw [List.append_assoc _ late]
      exact .rolledBack early participantIds votes sent _ before during
        (onlyVotes_append behind (onlyVotes_singleton participantId success)) ‹_› ‹_›

/-- A transaction that is kept runs. -/
theorem Story.running (story : Story transactionId history (some transaction)) :
    ∃ early participantIds votes, Running early participantIds votes transaction ∧
      NoFailure participantIds votes ∧
      history = early ++ [.started transactionId participantIds] ++ votes := by
  generalize present : some transaction = kept at story
  cases story with
  | active early participantIds votes _ running noFailure =>
      cases present
      exact ⟨early, participantIds, votes, running, noFailure, rfl⟩
  | _ => cases present

/-- A transaction that is not kept and never was started has seen votes only. -/
theorem Story.onlyVotes (story : Story transactionId history none)
    (fresh : ∀ participantIds, .started transactionId participantIds ∉ history) :
    OnlyVotes history := by
  generalize absent : (none : Option Transaction) = kept at story
  cases story with
  | unstarted _ before => exact before
  | active => cases absent
  | committed early participantIds => exact absurd (by simp) (fresh participantIds)
  | rolledBack early participantIds => exact absurd (by simp) (fresh participantIds)

/-- **The story begins** with the start of the transaction. -/
theorem Story.start (before : OnlyVotes history)
    (reflects : Reflects participantIds [] transaction.participants) :
    Story transactionId (history ++ [.started transactionId participantIds])
      (some transaction) := by
  have running : Running history participantIds [] transaction :=
    ⟨before, fun _ member => (List.not_mem_nil member).elim, reflects⟩
  rw [← List.append_nil (history ++ _)]
  exact .active _ _ _ _ running fun _ _ _ => List.not_mem_nil

/-- A running transaction takes a participant's vote. -/
theorem Running.voted (running : Running early participantIds votes transaction)
    {participantId : ParticipantId} {participant : Participant}
    (found : transaction.participants.lookup participantId = some participant) (success : Bool)
    (now : ℤ) :
    Running early participantIds (votes ++ [.voted transactionId participantId success])
      { transaction with
        participants := transaction.participants.insert participantId { participant with
          lastUpdate := now
          state := if success then .prepared else .failed } } where
  before := running.before
  during := onlyVotes_append running.during (onlyVotes_singleton participantId success)
  reflects := running.reflects.voted found success now

/-- A running transaction does not notice the vote of a stranger. -/
theorem Running.stranger (running : Running early participantIds votes transaction)
    {participantId : ParticipantId}
    (absent : transaction.participants.lookup participantId = none) (success : Bool) :
    Running early participantIds (votes ++ [.voted transactionId participantId success])
      transaction where
  before := running.before
  during := onlyVotes_append running.during (onlyVotes_singleton participantId success)
  reflects := running.reflects.stranger absent success

/-- **A stranger's vote** changes nothing but the history. -/
theorem Story.stranger (story : Story transactionId history (some transaction))
    {participantId : ParticipantId}
    (absent : transaction.participants.lookup participantId = none) (success : Bool) :
    Story transactionId (history ++ [.voted transactionId participantId success])
      (some transaction) := by
  obtain ⟨early, participantIds, votes, running, noFailure, rfl⟩ := story.running
  rw [List.append_assoc _ votes]
  refine .active _ _ _ _ (running.stranger absent success) fun member present other failed => ?_
  rcases List.mem_append.mp failed with earlier | last
  · exact noFailure member present other earlier
  · cases List.mem_singleton.mp last
    exact AList.lookup_eq_none.mp absent ((running.reflects.members _).mpr present)

/-- **A participant's success vote** leaves the transaction running. -/
theorem Story.prepared (story : Story transactionId history (some transaction))
    {participantId : ParticipantId} {participant : Participant}
    (found : transaction.participants.lookup participantId = some participant) (now : ℤ) :
    Story transactionId (history ++ [.voted transactionId participantId true])
      (some { transaction with
        participants := transaction.participants.insert participantId
          { participant with lastUpdate := now, state := .prepared } }) := by
  obtain ⟨early, participantIds, votes, running, noFailure, rfl⟩ := story.running
  rw [List.append_assoc _ votes]
  refine .active _ _ _ _ (running.voted found true now) fun member present other failed => ?_
  rcases List.mem_append.mp failed with earlier | last
  · exact noFailure member present other earlier
  · cases List.mem_singleton.mp last

/-- **The commit** of a running transaction whose participants are all prepared. -/
theorem Story.commit (story : Story transactionId history (some transaction))
    (ready : MediatorBase.allParticipantsPrepared transaction = true) (traversal : Traversal) :
    Story transactionId (history ++
      ((traversal.order transaction.participants.entries).map
        fun entry => .sendCommitRequest transactionId entry.2.id) ++
      [.completed transactionId]) none := by
  obtain ⟨early, participantIds, votes, running, noFailure, rfl⟩ := story.running
  obtain ⟨distinct, selected⟩ := running.reflects.selected traversal fun _ => true
  rw [List.filter_true] at distinct selected
  have everyone (participantId : ParticipantId) :
      participantId ∈ (traversal.order transaction.participants.entries).map
        (fun entry => entry.2.id) ↔ participantId ∈ participantIds := by
    rw [selected, ← running.reflects.entry_iff]
    simp
  have prepared := running.reflects.allPrepared_iff.mp ready
  have story : Story transactionId _ none := .committed early participantIds votes _ []
    running.before running.during (fun _ member => (List.not_mem_nil member).elim) distinct
    everyone prepared noFailure
  rw [List.append_nil, List.map_map] at story
  rw [List.append_assoc _ (List.map _ _)]
  exact story

/-- **The rollback** of a running transaction. -/
theorem Running.rollback (running : Running early participantIds votes transaction)
    (traversal : Traversal) :
    Story transactionId (early ++ [.started transactionId participantIds] ++ votes ++
      (((traversal.order transaction.participants.entries).filter
        fun entry => entry.2.state = .prepared).map
        fun entry => .sendRollbackRequest transactionId entry.2.id) ++
      [.failed transactionId]) none := by
  obtain ⟨distinct, selected⟩ := running.reflects.selected traversal
    fun entry => entry.2.state = .prepared
  have story : Story transactionId _ none := .rolledBack early participantIds votes _ []
    running.before running.during (fun _ member => (List.not_mem_nil member).elim) distinct
    fun participantId =>
      (selected participantId).trans (running.reflects.prepared_iff participantId)
  rw [List.append_nil, List.map_map] at story
  rw [List.append_assoc _ (List.map _ _)]
  exact story

end Going

/-! ### All stories at once -/

/-- Every transaction has its story, and the started ids are ones the counter has passed. -/
structure Chronicle (mediator : MediatorBase) : Prop where
  stories : ∀ transactionId, Story transactionId (about transactionId mediator.trace)
    (mediator.activeTransactions.lookup transactionId)
  counter : mediator.transactionIdGenerator = (1 + mediator.generated) % 2 ^ 64
  passed : ∀ transactionId participantIds, .started transactionId participantIds ∈ mediator.trace →
    ∃ k, k ≤ mediator.generated ∧ 0 < k ∧ transactionId = (1 + k) % 2 ^ 64

section Chronicle

variable {mediator after : MediatorBase} {transactionId : TransactionId}

theorem chronicle_initial : Chronicle initial where
  stories := fun _ => .unstarted [] fun _ member => (List.not_mem_nil member).elim
  counter := by decide
  passed := fun _ _ member => (List.not_mem_nil member).elim

/-- The counter has passed an id. -/
def Passed (mediator : MediatorBase) (transactionId : TransactionId) : Prop :=
  ∃ k, k ≤ mediator.generated ∧ 0 < k ∧ transactionId = (1 + k) % 2 ^ 64

/-- An operation that works on one transaction and goes on with its story keeps all stories. -/
theorem Chronicle.extend (chronicle : Chronicle mediator)
    (works : WorksOn transactionId mediator after) {segment : List Event}
    (trace : after.trace = mediator.trace ++ segment)
    (own : ∀ event ∈ segment, event.transaction = transactionId)
    (starts : ∀ event ∈ segment, event.starts = true → Passed mediator transactionId)
    (story : Story transactionId (about transactionId mediator.trace ++ segment)
      (after.activeTransactions.lookup transactionId)) : Chronicle after where
  stories := fun other => by
    by_cases same : other = transactionId
    · subst same
      rw [trace, about_append, about_all own]
      exact story
    · rw [works.others other same, works.histories other same]
      exact chronicle.stories other
  counter := by rw [works.generator, works.generated, chronicle.counter]
  passed := fun other participantIds member => by
    rw [works.generated]
    rw [trace] at member
    rcases List.mem_append.mp member with earlier | last
    · exact chronicle.passed other participantIds earlier
    · have same : other = transactionId := own _ last
      rw [same]
      exact starts _ last rfl

/-- The events go on with a transaction that is started already. -/
def Follows (transactionId : TransactionId) (segment : List Event) : Prop :=
  ∀ event ∈ segment, event.transaction = transactionId ∧ event.starts = false

theorem Chronicle.goOn (chronicle : Chronicle mediator)
    (works : WorksOn transactionId mediator after) {segment : List Event}
    (trace : after.trace = mediator.trace ++ segment) (follows : Follows transactionId segment)
    (story : Story transactionId (about transactionId mediator.trace ++ segment)
      (after.activeTransactions.lookup transactionId)) : Chronicle after := by
  refine chronicle.extend works trace (fun event member => (follows event member).1) ?_ story
  intro event member starts
  rw [(follows event member).2] at starts
  cases starts

theorem follows_voted (participantId : ParticipantId) (success : Bool) :
    Follows transactionId [.voted transactionId participantId success] := fun event member => by
  cases List.mem_singleton.mp member
  exact ⟨rfl, rfl⟩

/-- The hooks that end a transaction are about it. -/
theorem follows_requests (entries : List (Sigma fun _ : ParticipantId => Participant))
    (request : ParticipantId → Event) {last : Event}
    (about : ∀ participantId, (request participantId).transaction = transactionId ∧
      (request participantId).starts = false)
    (ends : last.transaction = transactionId ∧ last.starts = false) :
    Follows transactionId (entries.map (fun entry => request entry.2.id) ++ [last]) :=
    fun event member => by
  rcases List.mem_append.mp member with sent | final
  · obtain ⟨entry, -, rfl⟩ := List.mem_map.mp sent
    exact about entry.2.id
  · rw [List.mem_singleton.mp final]
    exact ends

/-- **`OnParticipantReady` keeps all stories.** -/
theorem Chronicle.onParticipantReady (chronicle : Chronicle mediator) (traversal : Traversal)
    (transactionId : TransactionId) (participantId : ParticipantId) (success : Bool) (now : ℤ) :
    Chronicle (mediator.onParticipantReady traversal transactionId participantId success now) := by
  have works := onParticipantReady_worksOn mediator transactionId traversal participantId success
    now
  have moved := onParticipantReady_moves mediator transactionId traversal participantId success now
  have story := chronicle.stories transactionId
  generalize mediator.onParticipantReady traversal transactionId participantId success now = after
    at works moved
  cases moved with
  | inactive _ absent =>
      rw [absent] at story
      refine chronicle.goOn works rfl (follows_voted participantId _) ?_
      rw [record_activeTransactions, absent]
      exact story.inactive participantId success
  | stranger _ transaction present unknown =>
      rw [present] at story
      refine chronicle.goOn works rfl (follows_voted participantId _) ?_
      rw [record_activeTransactions, present]
      exact story.stranger unknown success
  | prepared transaction participant present found unready =>
      rw [present] at story
      refine chronicle.goOn works rfl (follows_voted participantId _) ?_
      rw [lookup_setTransaction]
      exact story.prepared found now
  | committed transaction participant present found ready =>
      rw [present] at story
      obtain ⟨-, gone, trace⟩ := commitTransaction_spec ((mediator.record
        (.voted transactionId participantId true)).setTransaction transactionId
        (MediatorBase.setVote transaction participantId participant true now)) transactionId
        traversal
      rw [transactionAt_setTransaction, setTransaction_trace, record_trace, List.append_assoc,
        List.append_assoc] at trace
      refine chronicle.goOn works trace ?_ ?_
      · intro event member
        rcases List.mem_append.mp member with vote | ending
        · exact follows_voted participantId true event vote
        · exact follows_requests _ (.sendCommitRequest transactionId) (fun _ => ⟨rfl, rfl⟩)
            ⟨rfl, rfl⟩ event ending
      · rw [gone, ← List.append_assoc, ← List.append_assoc]
        exact (story.prepared found now).commit ready traversal
  | rolledBack transaction participant present found =>
      rw [present] at story
      obtain ⟨early, participantIds, votes, running, -, history⟩ := story.running
      obtain ⟨-, gone, trace⟩ := rollbackTransaction_spec ((mediator.record
        (.voted transactionId participantId false)).setTransaction transactionId
        (MediatorBase.setVote transaction participantId participant false now)) transactionId
        traversal
      rw [transactionAt_setTransaction, setTransaction_trace, record_trace, List.append_assoc,
        List.append_assoc] at trace
      refine chronicle.goOn works trace ?_ ?_
      · intro event member
        rcases List.mem_append.mp member with vote | ending
        · exact follows_voted participantId false event vote
        · exact follows_requests _ (.sendRollbackRequest transactionId) (fun _ => ⟨rfl, rfl⟩)
            ⟨rfl, rfl⟩ event ending
      · rw [gone, history, ← List.append_assoc, ← List.append_assoc, List.append_assoc _ votes]
        exact (running.voted found false now).rollback traversal

/-- **`RollbackTransaction` of an active transaction keeps all stories.** -/
theorem Chronicle.rollbackTransaction (chronicle : Chronicle mediator) (traversal : Traversal)
    {transaction : Transaction}
    (present : mediator.activeTransactions.lookup transactionId = some transaction) :
    Chronicle (mediator.rollbackTransaction traversal transactionId) := by
  have story := chronicle.stories transactionId
  rw [present] at story
  obtain ⟨early, participantIds, votes, running, -, history⟩ := story.running
  obtain ⟨works, gone, trace⟩ := rollbackTransaction_spec mediator transactionId traversal
  have kept : mediator.transactionAt transactionId = transaction := by
    rw [MediatorBase.transactionAt, present, Option.getD_some]
  rw [kept, List.append_assoc] at trace
  refine chronicle.goOn works trace ?_ ?_
  · exact follows_requests _ (.sendRollbackRequest transactionId) (fun _ => ⟨rfl, rfl⟩) ⟨rfl, rfl⟩
  · rw [gone, history, ← List.append_assoc]
    exact running.rollback traversal

/-- The second loop of `OnTimer` keeps all stories: what it rolls back is active. -/
theorem Chronicle.rollbackAll (traversal : Traversal) (timedOut : List TransactionId) :
    ∀ mediator : MediatorBase, Chronicle mediator → timedOut.Nodup →
      (∀ transactionId ∈ timedOut, transactionId ∈ mediator.activeTransactions) →
      Chronicle (timedOut.foldl (fun mediator transactionId =>
        mediator.rollbackTransaction traversal transactionId) mediator) := by
  induction timedOut with
  | nil => exact fun _ chronicle _ _ => chronicle
  | cons first rest ih =>
      intro mediator chronicle distinct active
      obtain ⟨fresh, distinct⟩ := List.nodup_cons.mp distinct
      obtain ⟨transaction, present⟩ := Option.isSome_iff_exists.mp
        (AList.lookup_isSome.mpr (active first List.mem_cons_self))
      refine ih _ (chronicle.rollbackTransaction traversal present) distinct fun other member => ?_
      have different : other ≠ first := fun same => fresh (same ▸ member)
      rw [← AList.lookup_isSome,
        (rollbackTransaction_spec mediator first traversal).1.others other different,
        AList.lookup_isSome]
      exact active other (List.mem_cons_of_mem _ member)

/-- The transactions `OnTimer` collects are active, and each is collected once. -/
theorem timedOut_spec (mediator : MediatorBase) (traversal : Traversal) (now : ℤ) :
    (((traversal.order mediator.activeTransactions.entries).filter
      fun entry => MediatorBase.timedOut entry.2 now).map Sigma.fst).Nodup ∧
    ∀ transactionId ∈ ((traversal.order mediator.activeTransactions.entries).filter
      fun entry => MediatorBase.timedOut entry.2 now).map Sigma.fst,
      transactionId ∈ mediator.activeTransactions := by
  constructor
  · have distinct : ((traversal.order mediator.activeTransactions.entries).map Sigma.fst).Nodup :=
      ((traversal.perm mediator.activeTransactions.entries).map Sigma.fst).nodup_iff.mpr
        mediator.activeTransactions.keys_nodup
    exact distinct.sublist (List.filter_sublist.map Sigma.fst)
  · intro transactionId member
    obtain ⟨entry, chosen, rfl⟩ := List.mem_map.mp member
    have stored := (traversal.perm _).mem_iff.mp (List.mem_filter.mp chosen).1
    exact AList.mem_keys.mpr (List.mem_map_of_mem stored)

/-- **`OnTimer` keeps all stories.** -/
theorem Chronicle.onTimer (chronicle : Chronicle mediator) (traversal : Traversal) (now : ℤ) :
    Chronicle (mediator.onTimer traversal now) :=
  .rollbackAll traversal _ mediator chronicle (timedOut_spec mediator traversal now).1
    (timedOut_spec mediator traversal now).2

/-- The id the counter yields has not been started, while fewer than 2^64 are generated. -/
theorem Chronicle.fresh (chronicle : Chronicle mediator) (few : mediator.generated + 1 < 2 ^ 64)
    (participantIds : List ParticipantId) :
    .started mediator.generateTransactionId.transactionIdGenerator participantIds ∉
      mediator.trace := by
  intro member
  obtain ⟨k, low, positive, same⟩ := chronicle.passed _ _ member
  have counter := chronicle.counter
  simp only [MediatorBase.generateTransactionId] at same
  omega

theorem Chronicle.generateElsewhere (chronicle : Chronicle mediator) :
    Chronicle mediator.generateTransactionId where
  stories := chronicle.stories
  counter := by
    have counter := chronicle.counter
    simp only [MediatorBase.generateTransactionId]
    omega
  passed := fun transactionId participantIds member => by
    obtain ⟨k, low, positive, same⟩ := chronicle.passed transactionId participantIds member
    exact ⟨k, Nat.le_succ_of_le low, positive, same⟩

/-- A kept transaction was started. -/
theorem Story.started {history : List Event} {transaction : Transaction}
    (story : Story transactionId history (some transaction)) :
    ∃ participantIds, .started transactionId participantIds ∈ history := by
  obtain ⟨early, participantIds, votes, -, -, rfl⟩ := story.running
  exact ⟨participantIds, by simp⟩

theorem mem_about {trace : List Event} {event : Event}
    (member : event ∈ about transactionId trace) :
    event ∈ trace := (List.mem_filter.mp member).1

/-- **`StartTransaction` keeps all stories** and begins one. -/
theorem Chronicle.startTransaction (chronicle : Chronicle mediator)
    (few : mediator.generated + 1 < 2 ^ 64) (participantIds : List ParticipantId)
    (timeout now : ℤ) : Chronicle (mediator.startTransaction participantIds timeout now) := by
  have fresh := chronicle.fresh few
  have generated := chronicle.generateElsewhere
  have story := generated.stories mediator.generateTransactionId.transactionIdGenerator
  have absent : mediator.generateTransactionId.activeTransactions.lookup
      mediator.generateTransactionId.transactionIdGenerator = none := by
    cases kept : mediator.generateTransactionId.activeTransactions.lookup
        mediator.generateTransactionId.transactionIdGenerator with
    | none => rfl
    | some transaction =>
        rw [kept] at story
        obtain ⟨earlier, member⟩ := story.started
        exact absurd (mem_about member) (fresh earlier)
  have created : (mediator.generateTransactionId.transactionAt
      mediator.generateTransactionId.transactionIdGenerator).participants = ∅ := by
    rw [MediatorBase.transactionAt, absent]
    rfl
  rw [absent] at story
  have before := story.onlyVotes fun earlier member => fresh earlier (mem_about member)
  refine generated.extend ((worksOn_setTransaction _).trans (worksOn_record _ rfl)) rfl ?_ ?_ ?_
  · intro event member
    cases List.mem_singleton.mp member
    rfl
  · intro event member _
    exact ⟨mediator.generated + 1, Nat.le_refl _, Nat.succ_pos _, generated.counter⟩
  · rw [MediatorBase.startTransaction, record_activeTransactions, lookup_setTransaction, created]
    exact .start before (reflects_started participantIds)

/-- **Every operation keeps all stories**, while fewer than 2^64 ids are generated. -/
theorem Chronicle.step {label : Operation × Traversal} (chronicle : Chronicle mediator)
    (taken : Mediator.step mediator label = some after) (few : after.generated < 2 ^ 64) :
    Chronicle after := by
  obtain ⟨operation, traversal⟩ := label
  cases operation with
  | startTransaction participantIds timeout now =>
      cases taken
      exact chronicle.startTransaction few participantIds timeout now
  | onParticipantReady transactionId participantId success now =>
      cases taken
      exact chronicle.onParticipantReady traversal transactionId participantId success now
  | onTimer now =>
      cases taken
      exact chronicle.onTimer traversal now
  | generateElsewhere =>
      cases taken
      exact chronicle.generateElsewhere

/-- The number of generated ids does not fall. -/
theorem generated_mono {label : Operation × Traversal}
    (taken : Mediator.step mediator label = some after) : mediator.generated ≤ after.generated := by
  obtain ⟨operation, traversal⟩ := label
  cases operation with
  | startTransaction participantIds timeout now =>
      cases taken
      exact Nat.le_succ _
  | onParticipantReady transactionId participantId success now =>
      cases taken
      rw [(onParticipantReady_worksOn mediator transactionId traversal participantId success
        now).generated]
  | onTimer now =>
      cases taken
      exact Nat.le_of_eq (rollbackAll_others traversal _ mediator).2.symm
  | generateElsewhere =>
      cases taken
      exact Nat.le_succ _

/-- **Every run keeps all stories**, while fewer than 2^64 ids are generated. -/
theorem chronicle_of_reach (reached : Reach step Unguarded initial mediator)
    (few : mediator.generated < 2 ^ 64) : Chronicle mediator := by
  refine reached.invariant (fun mediator => mediator.generated < 2 ^ 64 → Chronicle mediator)
    (fun _ => chronicle_initial) ?_ few
  intro before label after chronicle _ taken few
  exact (chronicle (Nat.lt_of_le_of_lt (generated_mono taken) few)).step taken few

end Chronicle

end Story

end ActorModelServer.Mediator
