/-
**The hooks of a registration.**

`ServerCore::RegisterNonNetworkActor` calls `OnActorCreated` and `UnregisterNonNetworkActor` calls
`OnActorDestroyed`, both under the mutex of the shard's map. `Registrations` is the registry with
the calls of these hooks.

* `Balanced` — every actor's hooks alternate, beginning with `OnActorCreated`, and it is in the map
  exactly when it has had one more of them than of `OnActorDestroyed`.
* `callbacks_iff` — this holds throughout a sequence of calls, with each result telling whether the
  map changed, exactly when nothing is registered under an id that is present, and nothing
  unregistered in the place of another actor.
* `registered_twice` — an actor registered twice gets `OnActorCreated` twice.
-/

import ActorModelServer.Server.Registry

namespace ActorModelServer.Registry

open ShardedMap (lookup_insertNew_of_notMem lookup_erase)
open StepRuns (everyState_and_everyStep_iff)

section Model

/-- A hook of the actor's lifetime. -/
inductive Hook
  | onActorCreated
  | onActorDestroyed
  deriving DecidableEq

variable (numOfLogicThread : NumOfLogicThread)

/-- The registry, and the hooks called so far. -/
structure Registrations where
  server : Server numOfLogicThread
  calls : List (Actor numOfLogicThread × Hook)

/-- The actor and the shard a caller passes; a null pointer has no shard of its own. -/
inductive Target
  | own (actor : Actor numOfLogicThread)
  | null (threadId : ThreadId numOfLogicThread)

/-- A call from outside. -/
inductive RegistrationOp
  | registerNonNetworkActor (target : Target numOfLogicThread)
  | unregisterNonNetworkActor (target : Target numOfLogicThread)

variable {numOfLogicThread}

/-- The pointer that is passed. -/
def Target.pointer : Target numOfLogicThread → Option (Actor numOfLogicThread)
  | .own actor => some actor
  | .null _ => none

/-- The thread id that is passed with it. -/
def Target.threadId : Target numOfLogicThread → ThreadId numOfLogicThread
  | .own actor => actor.threadId
  | .null threadId => threadId

/-- `RegisterNonNetworkActor` of `ServerCore`. -/
def Registrations.registerNonNetworkActor (state : Registrations numOfLogicThread)
    (actor : Option (Actor numOfLogicThread)) (threadId : ThreadId numOfLogicThread) :
    Registrations numOfLogicThread × Bool :=
  match actor with
  | none => (state, false)
  | some actor =>
      let inserted := state.server.registerNonNetworkActor (some actor) threadId
      (⟨inserted.1, state.calls ++ [(actor, .onActorCreated)]⟩, inserted.2)

/-- `UnregisterNonNetworkActor` of `ServerCore`. -/
def Registrations.unregisterNonNetworkActor (state : Registrations numOfLogicThread)
    (actor : Option (Actor numOfLogicThread)) (threadId : ThreadId numOfLogicThread) :
    Registrations numOfLogicThread × Bool :=
  match actor with
  | none => (state, false)
  | some actor =>
      let erased := state.server.unregisterNonNetworkActor (some actor) threadId
      if erased.2 then (⟨erased.1, state.calls ++ [(actor, .onActorDestroyed)]⟩, true)
      else (⟨erased.1, state.calls⟩, false)

/-- One call, and its result. -/
def Registrations.execute (state : Registrations numOfLogicThread)
    (op : RegistrationOp numOfLogicThread) : Registrations numOfLogicThread × Bool :=
  match op with
  | .registerNonNetworkActor target =>
      state.registerNonNetworkActor target.pointer target.threadId
  | .unregisterNonNetworkActor target =>
      state.unregisterNonNetworkActor target.pointer target.threadId

/-- The state behind a call. -/
def registrationStep (state : Registrations numOfLogicThread)
    (op : RegistrationOp numOfLogicThread) : Registrations numOfLogicThread :=
  (state.execute op).1

variable (numOfLogicThread) in
/-- Before the first registration. -/
def noRegistrations : Registrations numOfLogicThread := ⟨initial numOfLogicThread, []⟩

/-- The hooks of one actor. -/
def Registrations.hooks (state : Registrations numOfLogicThread)
    (actor : Actor numOfLogicThread) : List Hook :=
  (state.calls.filter fun call => call.1 = actor).map Prod.snd

/-- The entry of the map under the actor's id, in the actor's shard. -/
def Registrations.entry (state : Registrations numOfLogicThread)
    (actor : Actor numOfLogicThread) : Option (Actor numOfLogicThread) :=
  AList.lookup actor.actorId (state.server.nonNetworkActorMap actor.threadId)

end Model

/-! ### Alternation -/

section Alternation

/-- The other hook. -/
def Hook.other : Hook → Hook
  | .onActorCreated => .onActorDestroyed
  | .onActorDestroyed => .onActorCreated

/-- The hooks alternate, and the first of them is the one that is due. -/
def Alternates : Hook → List Hook → Prop
  | _, [] => True
  | due, hook :: rest => hook = due ∧ Alternates due.other rest

/-- The hook that is due after some hooks. -/
def dueAfter (due : Hook) (hooks : List Hook) : Hook :=
  if hooks.length % 2 = 0 then due else due.other

theorem Hook.other_ne (hook : Hook) : hook.other ≠ hook := by
  cases hook <;> decide

theorem Hook.other_other (hook : Hook) : hook.other.other = hook := by
  cases hook <;> rfl

theorem dueAfter_cons (due hook : Hook) (rest : List Hook) :
    dueAfter due (hook :: rest) = dueAfter due.other rest := by
  unfold dueAfter
  rw [List.length_cons, Hook.other_other]
  rcases Nat.mod_two_eq_zero_or_one rest.length with even | odd
  · rw [if_neg (by omega), if_pos even]
  · rw [if_pos (by omega), if_neg (by omega)]

/-- **One more hook** has to be the one that is due. -/
theorem alternates_append {due hook : Hook} {hooks : List Hook} :
    Alternates due (hooks ++ [hook]) ↔ Alternates due hooks ∧ hook = dueAfter due hooks := by
  induction hooks generalizing due with
  | nil => simp [Alternates, dueAfter]
  | cons first rest ih =>
      rw [List.cons_append, Alternates, Alternates, ih, dueAfter_cons, and_assoc]

/-- The hooks that have come, by their kinds. -/
theorem Alternates.count_eq {due : Hook} {hooks : List Hook} (alternates : Alternates due hooks) :
    hooks.count due = hooks.count due.other + hooks.length % 2 := by
  induction hooks generalizing due with
  | nil => rfl
  | cons hook rest ih =>
      obtain ⟨rfl, later⟩ := alternates
      have counted := ih later
      rw [Hook.other_other] at counted
      rw [List.count_cons_self, List.count_cons_of_ne hook.other_ne.symm, List.length_cons]
      omega

end Alternation

/-! ### The hooks and the map -/

section Balance

variable {numOfLogicThread : NumOfLogicThread} {state : Registrations numOfLogicThread}
  {actor other : Actor numOfLogicThread} {op : RegistrationOp numOfLogicThread}

/-- **The hooks of every actor tell whether it is registered.** -/
structure Balanced (state : Registrations numOfLogicThread) : Prop where
  alternates : ∀ actor, Alternates .onActorCreated (state.hooks actor)
  member : ∀ actor, state.entry actor = some actor ↔
    (state.hooks actor).count .onActorCreated = (state.hooks actor).count .onActorDestroyed + 1

/-- The call returns true exactly when it changes the map. -/
def TellsChange (state : Registrations numOfLogicThread) (op : RegistrationOp numOfLogicThread) :
    Prop :=
  (state.execute op).2 = true ↔
    (registrationStep state op).server.nonNetworkActorMap ≠ state.server.nonNetworkActorMap

/-- Nothing is registered under an id that is present, and nothing unregistered in the place of
another actor. -/
def InTurn (state : Registrations numOfLogicThread) (op : RegistrationOp numOfLogicThread) : Prop :=
  match op with
  | .registerNonNetworkActor (.own actor) => state.entry actor = none
  | .unregisterNonNetworkActor (.own actor) =>
      ∀ found, state.entry actor = some found → found = actor
  | .registerNonNetworkActor (.null _) => True
  | .unregisterNonNetworkActor (.null _) => True

/-- A balanced actor is due to be created exactly when it is not registered. -/
theorem Balanced.due_eq (balanced : Balanced state) (actor : Actor numOfLogicThread) :
    dueAfter .onActorCreated (state.hooks actor) =
      if state.entry actor = some actor then .onActorDestroyed else .onActorCreated := by
  have counted := (balanced.alternates actor).count_eq
  have same := balanced.member actor
  change _ = List.count Hook.onActorDestroyed _ + _ at counted
  unfold dueAfter
  by_cases registered : state.entry actor = some actor
  · rw [if_pos registered, if_neg (by have := same.mp registered; omega)]
    rfl
  · rw [if_neg registered, if_pos ?_]
    by_contra odd
    exact registered (same.mpr (by omega))

theorem hooks_append_self (server : Server numOfLogicThread)
    (calls : List (Actor numOfLogicThread × Hook)) (hook : Hook) :
    Registrations.hooks ⟨server, calls ++ [(actor, hook)]⟩ actor =
      Registrations.hooks ⟨server, calls⟩ actor ++ [hook] := by
  simp [Registrations.hooks]

theorem hooks_append_of_ne (server : Server numOfLogicThread)
    (calls : List (Actor numOfLogicThread × Hook)) (hook : Hook) (different : other ≠ actor) :
    Registrations.hooks ⟨server, calls ++ [(actor, hook)]⟩ other =
      Registrations.hooks ⟨server, calls⟩ other := by
  simp [Registrations.hooks, different.symm]

/-- **A hook that is due** keeps the balance, when the map follows it. -/
theorem Balanced.call (balanced : Balanced state) {hook : Hook} {server : Server numOfLogicThread}
    (due : hook = dueAfter .onActorCreated (state.hooks actor))
    (own : AList.lookup actor.actorId (server.nonNetworkActorMap actor.threadId) = some actor ↔
      hook = .onActorCreated)
    (others : ∀ other, other ≠ actor →
      (AList.lookup other.actorId (server.nonNetworkActorMap other.threadId) = some other ↔
        state.entry other = some other)) :
    Balanced ⟨server, state.calls ++ [(actor, hook)]⟩ := by
  constructor
  · intro other
    by_cases same : other = actor
    · subst same
      rw [hooks_append_self]
      exact alternates_append.mpr ⟨balanced.alternates other, due⟩
    · rw [hooks_append_of_ne _ _ _ same]
      exact balanced.alternates other
  · intro other
    by_cases same : other = actor
    · subst same
      have counted := (balanced.alternates other).count_eq
      rw [hooks_append_self]
      refine own.trans ?_
      change _ = List.count Hook.onActorDestroyed _ + _ at counted
      show _ ↔ List.count Hook.onActorCreated (state.hooks other ++ [hook]) =
        List.count Hook.onActorDestroyed (state.hooks other ++ [hook]) + 1
      unfold dueAfter at due
      rcases Nat.mod_two_eq_zero_or_one (state.hooks other).length with even | odd
      · rw [if_pos even] at due
        subst due
        simp
        omega
      · rw [if_neg (by omega)] at due
        subst due
        simp [Hook.other]
        omega
    · rw [hooks_append_of_ne _ _ _ same]
      exact (others other same).trans (balanced.member other)

/-- A call that changes nothing. -/
theorem Balanced.of_unchanged (balanced : Balanced state) {server : Server numOfLogicThread}
    (same : server.nonNetworkActorMap = state.server.nonNetworkActorMap) :
    Balanced ⟨server, state.calls⟩ := by
  refine ⟨balanced.alternates, fun actor => ?_⟩
  rw [Registrations.entry]
  exact same ▸ balanced.member actor

/-- **Registration** is right exactly when the id is not present. -/
theorem balanced_register (balanced : Balanced state) (actor : Actor numOfLogicThread) :
    Balanced (registrationStep state (.registerNonNetworkActor (.own actor))) ∧
        TellsChange state (.registerNonNetworkActor (.own actor)) ↔
      state.entry actor = none := by
  have after : (registrationStep state
      (.registerNonNetworkActor (.own actor))).server.nonNetworkActorMap =
      ShardedMap.insertNew state.server.nonNetworkActorMap actor.threadId actor.actorId actor := rfl
  constructor
  · rintro ⟨-, tells⟩
    by_contra present
    rw [Registrations.entry, AList.lookup_eq_none, not_not] at present
    exact tells.mp rfl (after.trans (ShardedMap.insertNew_of_mem actor present))
  · intro absent
    have lookups := lookup_insertNew_of_notMem actor (AList.lookup_eq_none.mp absent)
    refine ⟨balanced.call ?_ (iff_of_true ?_ rfl) fun other different => ?_,
      iff_of_true rfl fun unchanged => ?_⟩
    · rw [balanced.due_eq, if_neg (by simp [absent])]
    · exact (lookups _ _).trans (if_pos ⟨rfl, rfl⟩)
    · refine (Eq.congr_left (lookups other.threadId other.actorId)).trans ?_
      split
      · rename_i same
        refine iff_of_false (fun equal => different (Option.some.inj equal).symm) ?_
        rw [Registrations.entry, same.1, same.2]
        exact fun found => Option.some_ne_none _ (found.symm.trans absent)
      · rfl
    · have found := lookups actor.threadId actor.actorId
      rw [if_pos ⟨rfl, rfl⟩, ← after, unchanged] at found
      exact Option.some_ne_none _ (found.symm.trans absent)

/-- **Unregistration** is right exactly when it finds the actor itself, or nothing. -/
theorem balanced_unregister (balanced : Balanced state) (actor : Actor numOfLogicThread) :
    Balanced (registrationStep state (.unregisterNonNetworkActor (.own actor))) ∧
        TellsChange state (.unregisterNonNetworkActor (.own actor)) ↔
      ∀ found, state.entry actor = some found → found = actor := by
  have lookups := lookup_erase state.server.nonNetworkActorMap actor.threadId
  by_cases present : actor.actorId ∈ state.server.nonNetworkActorMap actor.threadId
  · obtain ⟨found, isEntry⟩ := Option.isSome_iff_exists.mp (AList.lookup_isSome.mpr present)
    have entry : state.entry actor = some found := isEntry
    have taken : state.execute (.unregisterNonNetworkActor (.own actor)) =
        (⟨(state.server.unregisterNonNetworkActor (some actor) actor.threadId).1,
          state.calls ++ [(actor, .onActorDestroyed)]⟩, true) :=
      if_pos (decide_eq_true present)
    constructor
    · rintro ⟨after, -⟩ other same
      have alternates := after.alternates actor
      rw [registrationStep, taken, hooks_append_self, alternates_append] at alternates
      have due := alternates.2.trans (balanced.due_eq actor)
      split at due
      · rename_i own
        exact Option.some.inj (same.symm.trans own)
      · cases due
    · intro own
      have registered : state.entry actor = some actor := own found entry ▸ entry
      have after : (registrationStep state
          (.unregisterNonNetworkActor (.own actor))).server.nonNetworkActorMap =
          ShardedMap.erase state.server.nonNetworkActorMap actor.threadId actor.actorId := by
        rw [registrationStep, taken]
        rfl
      rw [TellsChange, after, registrationStep, taken]
      refine ⟨balanced.call ?_ (iff_of_false ?_ Hook.noConfusion) fun other different => ?_,
        iff_of_true rfl fun unchanged => ?_⟩
      · rw [balanced.due_eq, if_pos registered]
      · intro still
        have gone := lookups actor.threadId actor.actorId actor.actorId
        rw [if_pos ⟨rfl, rfl⟩] at gone
        exact Option.some_ne_none _ (still.symm.trans gone)
      · refine (Eq.congr_left (lookups other.threadId actor.actorId other.actorId)).trans ?_
        split
        · rename_i same
          refine iff_of_false (fun none => Option.some_ne_none _ none.symm) fun held => different ?_
          rw [Registrations.entry, same.1, same.2] at held
          exact Option.some.inj (held.symm.trans registered)
        · rfl
      · have gone := lookups actor.threadId actor.actorId actor.actorId
        rw [if_pos ⟨rfl, rfl⟩, unchanged] at gone
        exact Option.some_ne_none _ (registered.symm.trans gone)
  · have unmoved := ShardedMap.erase_of_notMem present
    have missed : state.execute (.unregisterNonNetworkActor (.own actor)) =
        (⟨(state.server.unregisterNonNetworkActor (some actor) actor.threadId).1, state.calls⟩,
          false) :=
      if_neg (ne_true_of_eq_false (decide_eq_false present))
    have absent : state.entry actor = none := AList.lookup_eq_none.mpr present
    rw [TellsChange, registrationStep, missed]
    refine iff_of_true ⟨balanced.of_unchanged unmoved, iff_of_false Bool.false_ne_true ?_⟩ ?_
    · exact fun changed => changed unmoved
    · exact fun found entry => absurd (entry.symm.trans absent) (Option.some_ne_none _)

/-- **One call** is right exactly when it comes in turn. -/
theorem balanced_step (balanced : Balanced state) (op : RegistrationOp numOfLogicThread) :
    Balanced (registrationStep state op) ∧ TellsChange state op ↔ InTurn state op := by
  have refused : Balanced state ∧ (false = true ↔
      state.server.nonNetworkActorMap ≠ state.server.nonNetworkActorMap) :=
    ⟨balanced, iff_of_false Bool.false_ne_true fun changed => changed rfl⟩
  cases op with
  | registerNonNetworkActor target =>
      cases target with
      | own actor => exact balanced_register balanced actor
      | null threadId => exact iff_of_true refused trivial
  | unregisterNonNetworkActor target =>
      cases target with
      | own actor => exact balanced_unregister balanced actor
      | null threadId => exact iff_of_true refused trivial

theorem balanced_noRegistrations : Balanced (noRegistrations numOfLogicThread) := by
  refine ⟨fun _ => trivial, fun actor => ?_⟩
  exact iff_of_false
    (fun found => Option.some_ne_none _ (found.symm.trans (AList.lookup_empty _))) Nat.zero_ne_one

/-- **The hooks of a registration.** For every sequence of calls: throughout it every actor's hooks
alternate and tell whether it is registered, and every result tells whether the map changed,
exactly when every call comes in turn. -/
theorem callbacks_iff (numOfLogicThread : NumOfLogicThread)
    (ops : List (RegistrationOp numOfLogicThread)) :
    ((∀ done, done <+: ops →
        Balanced (done.foldl registrationStep (noRegistrations numOfLogicThread))) ∧
      ∀ done op, done ++ [op] <+: ops →
        TellsChange (done.foldl registrationStep (noRegistrations numOfLogicThread)) op) ↔
      ∀ done op, done ++ [op] <+: ops →
        InTurn (done.foldl registrationStep (noRegistrations numOfLogicThread)) op :=
  everyState_and_everyStep_iff balanced_noRegistrations
    (fun _ op balanced => balanced_step balanced op) ops

/-- An actor that `ActorCreator::Create` has registered is registered again. -/
def registeredAgain : List (RegistrationOp twoThreads) :=
  let actor := newActor 0 (.nonNetworkActor false)
  [.registerNonNetworkActor (.own actor), .registerNonNetworkActor (.own actor)]

/-- **A second `OnActorCreated`**, and a result that tells of a change. -/
theorem registered_twice :
    ¬ ∀ numOfLogicThread, ∀ ops : List (RegistrationOp numOfLogicThread),
      Balanced (ops.foldl registrationStep (noRegistrations numOfLogicThread)) := by
  intro balanced
  have twice := (balanced twoThreads registeredAgain).alternates
    (newActor 0 (.nonNetworkActor false))
  have hooks : (registeredAgain.foldl registrationStep (noRegistrations twoThreads)).hooks
      (newActor 0 (.nonNetworkActor false)) = [.onActorCreated, .onActorCreated] := by
    decide
  rw [hooks] at twice
  cases twice.2.1

end Balance

end ActorModelServer.Registry
