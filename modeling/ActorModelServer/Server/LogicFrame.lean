/-
**One frame of a logic thread: whose messages it serves.**

`OnWakeLogicThread` calls `OnTimer` of every session in `sessionMap` and then of every actor in
`nonNetworkActorMap`, each map under its shared lock. `Session::OnTimer` is `ProcessMessage`;
`NonNetworkActor::OnTimer` is empty and `MediatorBase::OnTimer` rolls transactions back. `step` is
one atomic step of the frame or of its surroundings: other threads, and the messages and hooks the
frame runs, send to any actor and stop any actor at any time, and change a map while its lock is
free.

* `session_served` — a session that stays registered and is not stopped has executed every message
  it had, once.
* `nonNetwork_unserved` — an actor that is not a session executes nothing.
* `frame_completes` — a frame left alone ends.
* `served_iff` — the frame serves every actor, whatever the surroundings do, exactly when no
  registered running actor of `nonNetworkActorMap` has a message.
-/

import ActorModelServer.Actor.MessageOrder
import Mathlib.Data.List.Perm.Basic

namespace ActorModelServer.Server

open ActorModelServer.Actor (Mailbox Entry Pc Choice Moves Settled act act_moves)
open StepRuns (Reach Unguarded exists_reach_of_run)

universe u v w

section LogicFrame

/-- An actor of the shard. -/
inductive Ref (S : Type v) (N : Type w)
  | session (id : S)
  | nonNetwork (id : N)
  deriving DecidableEq

/-- The classes below `NonNetworkActor`. -/
inductive NonNetworkKind
  | nonNetworkActor
  | npcBase
  | mediatorBase
  | tradeMediator
  deriving DecidableEq, Repr

/-- The class inherits `MediatorBase::OnTimer`; the others inherit the empty one. -/
def NonNetworkKind.sweepsTransactions : NonNetworkKind → Bool
  | .nonNetworkActor => false
  | .npcBase => false
  | .mediatorBase => true
  | .tradeMediator => true

/-- A mailbox between two calls of `ProcessMessage`. -/
abbrev IdleMailbox (Body : Type u) := {mailbox : Mailbox Body // Settled .logic mailbox}

/-- Every mailbox a run reaches is one while the logic thread is elsewhere. -/
theorem settled_logic_of_reach {Body : Type u} {Sender : Type v} [DecidableEq Sender]
    {state : Actor.State Body Sender}
    (reached : Reach Actor.step Unguarded (Actor.initial Body Sender) state)
    (elsewhere : (state.pc .logic).base = .logic) : Settled .logic state.shared := by
  have settled := (Actor.ordered_of_reach reached).settled
  rwa [elsewhere] at settled

section Machine

variable (Body : Type u) (S : Type v) (N : Type w)

/-- Where the frame is. -/
inductive Place
  | wake
  | sessions (rest : List (Option S))
  /- in `Session::OnTimer`, at a place of `ProcessMessage` -/
  | sessionTimer (session : S) (inner : Pc Body) (rest : List (Option S))
  | betweenMaps
  | nonNetworkActors (rest : List (Option N))
  /- in `MediatorBase::OnTimer` -/
  | mediatorTimer (rest : List (Option N))
  | done

/-- The shard, and where its frame is. -/
structure Frame where
  mailbox : Ref S N → Mailbox Body
  /-- The values of the maps in the order of traversal; a null pointer is `none`. -/
  sessionMap : List (Option S)
  nonNetworkActorMap : List (Option N)
  /-- The actor was taken out of its map. -/
  left : Ref S N → Bool
  place : Place Body S N

/-- A step of the frame, or of its surroundings. -/
inductive Event
  | go
  | process (choice : Choice Body)
  /- `SendMessage` of another thread, another actor's message or a hook gets to its push -/
  | push (target : Ref S N) (message : Option Body)
  | stop (target : Ref S N)
  /- a map changes, and with it the order of traversal -/
  | insertSession (session : S) (map : List (Option S))
  | eraseSession (session : S) (map : List (Option S))
  | registerActor (actor : N) (map : List (Option N))
  | unregisterActor (actor : N) (map : List (Option N))

variable {Body S N}

/-- `sessionMapMutex` is free. -/
def Place.sessionsFree : Place Body S N → Bool
  | .sessions _ => false
  | .sessionTimer _ _ _ => false
  | _ => true

/-- `nonNetworkActorMapMutex` is free. -/
def Place.actorsFree : Place Body S N → Bool
  | .nonNetworkActors _ => false
  | .mediatorTimer _ => false
  | _ => true

/-- Where the frame goes when `ProcessMessage` has moved to `inner`. -/
def afterInner (session : S) (inner : Pc Body) (rest : List (Option S)) : Place Body S N :=
  match inner with
  | .logic => .sessions rest
  | inner => .sessionTimer session inner rest

variable [DecidableEq S] [DecidableEq N]

/-- One actor's mailbox changes. -/
def Frame.setMailbox (frame : Frame Body S N) (target : Ref S N) (mailbox : Mailbox Body) :
    Frame Body S N :=
  { frame with mailbox := Function.update frame.mailbox target mailbox }

/-- `ProcessMessage` of a session gets from one of its places to the next. -/
def Frame.process (frame : Frame Body S N) (session : S) (mailbox : Mailbox Body) (inner : Pc Body)
    (rest : List (Option S)) : Frame Body S N :=
  { frame.setMailbox (.session session) mailbox with place := afterInner session inner rest }

/-- One atomic step. -/
def step (kind : N → NonNetworkKind) (frame : Frame Body S N) (event : Event Body S N) :
    Option (Frame Body S N) :=
  match event with
  | .push target message => some (frame.setMailbox target ((frame.mailbox target).push message))
  | .stop target => some (frame.setMailbox target (frame.mailbox target).stop)
  | .insertSession session map =>
      if frame.place.sessionsFree = true ∧ map.Perm (some session :: frame.sessionMap) then
        some { frame with sessionMap := map }
      else none
  | .eraseSession session map =>
      if frame.place.sessionsFree = true ∧ map.Perm (frame.sessionMap.erase (some session)) then
        some { frame with
          sessionMap := map
          left := Function.update frame.left (.session session) true }
      else none
  | .registerActor actor map =>
      if frame.place.actorsFree = true ∧ map.Perm (some actor :: frame.nonNetworkActorMap) then
        some { frame with nonNetworkActorMap := map }
      else none
  | .unregisterActor actor map =>
      if frame.place.actorsFree = true ∧
          map.Perm (frame.nonNetworkActorMap.erase (some actor)) then
        some { frame with
          nonNetworkActorMap := map
          left := Function.update frame.left (.nonNetwork actor) true }
      else none
  | .process choice =>
      match frame.place with
      | .sessionTimer session inner rest =>
          (act (frame.mailbox (.session session)) inner choice).map fun result =>
            frame.process session result.1 result.2 rest
      | _ => none
  | .go =>
      match frame.place with
      | .wake => some { frame with place := .sessions frame.sessionMap }
      | .sessions [] => some { frame with place := .betweenMaps }
      | .sessions (none :: rest) => some { frame with place := .sessions rest }
      | .sessions (some session :: rest) =>
          some { frame with place := .sessionTimer session .processEntry rest }
      | .betweenMaps => some { frame with place := .nonNetworkActors frame.nonNetworkActorMap }
      | .nonNetworkActors [] => some { frame with place := .done }
      | .nonNetworkActors (none :: rest) => some { frame with place := .nonNetworkActors rest }
      | .nonNetworkActors (some actor :: rest) =>
          if (kind actor).sweepsTransactions then
            some { frame with place := .mediatorTimer rest }
          else some { frame with place := .nonNetworkActors rest }
      | .mediatorTimer rest => some { frame with place := .nonNetworkActors rest }
      | _ => none

/-- The frame is about to begin. -/
def Frame.begin (mailbox : Ref S N → Mailbox Body) (sessionMap : List (Option S))
    (nonNetworkActorMap : List (Option N)) : Frame Body S N where
  mailbox := mailbox
  sessionMap := sessionMap
  nonNetworkActorMap := nonNetworkActorMap
  left := fun _ => false
  place := .wake

end Machine

/-! ### What one step does -/

section Steps

variable {Body : Type u} {S : Type v} {N : Type w} [DecidableEq S] [DecidableEq N]

/-- The branches of `step`, by the place of the frame before it. -/
inductive FrameMoves (frame : Frame Body S N) : Place Body S N → Frame Body S N → Prop
  | pushed (place : Place Body S N) (target : Ref S N) (message : Option Body) :
      FrameMoves frame place
        (frame.setMailbox target ((frame.mailbox target).push message))
  | stopped (place : Place Body S N) (target : Ref S N) :
      FrameMoves frame place (frame.setMailbox target (frame.mailbox target).stop)
  | sessionInserted (place : Place Body S N) (session : S) (map : List (Option S))
      (free : place.sessionsFree = true) (grown : map.Perm (some session :: frame.sessionMap)) :
      FrameMoves frame place { frame with sessionMap := map }
  | sessionErased (place : Place Body S N) (session : S) (map : List (Option S))
      (free : place.sessionsFree = true)
      (shrunk : map.Perm (frame.sessionMap.erase (some session))) :
      FrameMoves frame place { frame with
        sessionMap := map
        left := Function.update frame.left (.session session) true }
  | actorRegistered (place : Place Body S N) (map : List (Option N)) :
      FrameMoves frame place { frame with nonNetworkActorMap := map }
  | actorUnregistered (place : Place Body S N) (actor : N) (map : List (Option N)) :
      FrameMoves frame place { frame with
        nonNetworkActorMap := map
        left := Function.update frame.left (.nonNetwork actor) true }
  | processed (session : S) (inner inner' : Pc Body) (rest : List (Option S))
      (mailbox' : Mailbox Body)
      (moved : Moves (frame.mailbox (.session session)) inner.base mailbox' inner'.base) :
      FrameMoves frame (.sessionTimer session inner rest)
        (frame.process session mailbox' inner' rest)
  | woken : FrameMoves frame .wake { frame with place := .sessions frame.sessionMap }
  | sessionsEnded : FrameMoves frame (.sessions []) { frame with place := .betweenMaps }
  | sessionNull (rest : List (Option S)) :
      FrameMoves frame (.sessions (none :: rest)) { frame with place := .sessions rest }
  | sessionBegun (session : S) (rest : List (Option S)) :
      FrameMoves frame (.sessions (some session :: rest))
        { frame with place := .sessionTimer session .processEntry rest }
  | actorsBegun :
      FrameMoves frame .betweenMaps
        { frame with place := .nonNetworkActors frame.nonNetworkActorMap }
  | actorsEnded : FrameMoves frame (.nonNetworkActors []) { frame with place := .done }
  | actorPassed (first : Option N) (rest : List (Option N)) :
      FrameMoves frame (.nonNetworkActors (first :: rest))
        { frame with place := .nonNetworkActors rest }
  | sweepBegun (actor : N) (rest : List (Option N)) :
      FrameMoves frame (.nonNetworkActors (some actor :: rest))
        { frame with place := .mediatorTimer rest }
  | sweepEnded (rest : List (Option N)) :
      FrameMoves frame (.mediatorTimer rest) { frame with place := .nonNetworkActors rest }

variable {kind : N → NonNetworkKind} {frame after : Frame Body S N} {event : Event Body S N}

/-- **Inversion of a step.** -/
theorem step_moves (taken : step kind frame event = some after) :
    FrameMoves frame frame.place after := by
  revert taken
  fun_cases step kind frame event
  case case11 choice session inner rest place =>
    intro taken
    obtain ⟨⟨mailbox', inner'⟩, acted, rfl⟩ := Option.map_eq_some_iff.mp taken
    rw [place]
    exact .processed session inner inner' rest mailbox' (act_moves acted)
  all_goals intro taken
  all_goals cases taken
  all_goals try rw [‹frame.place = _›]
  case case3 | case5 =>
    rename_i allowed
    constructor
    · exact allowed.1
    · exact allowed.2
  all_goals constructor

/-- Where the logic thread is in the functions of one actor. -/
def Place.at (place : Place Body S N) (target : Ref S N) : Pc Body :=
  match place with
  | .sessionTimer session inner _ => if target = .session session then inner.base else .logic
  | _ => .logic

theorem at_afterInner (session : S) (inner : Pc Body) (rest : List (Option S)) (target : Ref S N) :
    (afterInner session inner rest : Place Body S N).at target =
      if target = .session session then inner.base else .logic := by
  unfold afterInner
  split
  · simp [Place.at, Pc.base]
  · rfl

omit [DecidableEq S] [DecidableEq N] in
/-- `ProcessMessage` is left, or it is at its next place. -/
theorem afterInner_cases (session : S) (inner : Pc Body) (rest : List (Option S)) :
    (afterInner session inner rest : Place Body S N) = .sessions rest ∨
      (afterInner session inner rest : Place Body S N) = .sessionTimer session inner rest := by
  unfold afterInner
  split
  · exact .inl rfl
  · exact .inr rfl

@[simp]
theorem setMailbox_mailbox (target : Ref S N) (mailbox : Mailbox Body) :
    (frame.setMailbox target mailbox).mailbox = Function.update frame.mailbox target mailbox := rfl

/-- **One step is a move of every mailbox.** -/
theorem mailbox_moves (taken : step kind frame event = some after) (target : Ref S N) :
    Moves (frame.mailbox target) (frame.place.at target) (after.mailbox target)
      (after.place.at target) := by
  have moved := step_moves taken
  generalize place : frame.place = before at moved ⊢
  cases moved with
  | pushed _ actor message =>
      rw [show (frame.setMailbox actor _).place = frame.place from rfl, place]
      by_cases same : target = actor
      · subst same
        simpa using Moves.pushed (before.at target) message
      · simpa [Function.update_of_ne same] using Moves.stays (before.at target)
  | stopped _ actor =>
      rw [show (frame.setMailbox actor _).place = frame.place from rfl, place]
      by_cases same : target = actor
      · subst same
        simpa using Moves.stopped (before.at target)
      · simpa [Function.update_of_ne same] using Moves.stays (before.at target)
  | processed session inner inner' rest mailbox' moved =>
      rw [Frame.process, at_afterInner]
      by_cases same : target = .session session
      · subst same
        simpa [Place.at] using moved
      · simpa [Place.at, same, Function.update_of_ne] using Moves.stays Pc.logic
  | sessionBegun session rest =>
      by_cases same : target = .session session
      · subst same
        simpa [Place.at, Pc.base] using Moves.entered
      · simpa [Place.at, same] using Moves.stays Pc.logic
  | _ => first | exact Moves.stays _ | (rw [← place]; exact Moves.stays _)

/-! ### The messages of a session -/

/-- What one move never takes back. -/
theorem executed_subset {mailbox mailbox' : Mailbox Body} {pc pc' : Pc Body}
    (moved : Moves mailbox pc mailbox' pc') {entry : Entry Body}
    (executed : entry ∈ mailbox.executed) : entry ∈ mailbox'.executed := by
  cases moved with
  | started first rest front runs => exact List.mem_append_left _ executed
  | _ => exact executed

theorem isStop_mono {mailbox mailbox' : Mailbox Body} {pc pc' : Pc Body}
    (moved : Moves mailbox pc mailbox' pc') (stopped : mailbox.isStop = true) :
    mailbox'.isStop = true := by
  cases moved with
  | stopped => rfl
  | _ => exact stopped

/-- A message that is not accepted by a move is not lost by it. -/
theorem storeQueue_subset {mailbox mailbox' : Mailbox Body} {pc : Pc Body}
    (moved : Moves mailbox .logic mailbox' pc) {entry : Entry Body}
    (stored : entry ∈ mailbox.storeQueue) : entry ∈ mailbox'.storeQueue := by
  cases moved with
  | pushed _ message => exact List.mem_append_left _ stored
  | _ => exact stored

/-- The messages `ProcessMessage` is about to run, at a place in it. -/
def held (mailbox : Mailbox Body) : Pc Body → List (Entry Body)
  | .processEntry => mailbox.storeQueue
  | .processSwap => mailbox.storeQueue
  | .processLoop => mailbox.consumerQueue
  | .processRun => mailbox.consumerQueue.tail
  | _ => []

/-- **`ProcessMessage` runs what it holds**: one step of it keeps a message or starts it. -/
theorem held_move {mailbox mailbox' : Mailbox Body} {pc pc' : Pc Body}
    (moved : Moves mailbox pc mailbox' pc') {entry : Entry Body} (runs : entry.runs = true)
    (holds : entry ∈ held mailbox pc) :
    mailbox'.isStop = true ∨ entry ∈ mailbox'.executed ∨ entry ∈ held mailbox' pc' := by
  cases moved with
  | stays => exact .inr (.inr holds)
  | stopped => exact .inl rfl
  | pushed _ message =>
      refine .inr (.inr ?_)
      cases pc with
      | processEntry => exact List.mem_append_left _ holds
      | processSwap => exact List.mem_append_left _ holds
      | processLoop => exact holds
      | processRun => exact holds
      | _ => cases holds
  | entered => cases holds
  | refused stopped => exact .inl stopped
  | checked => exact .inr (.inr holds)
  | swapped => exact .inr (.inr holds)
  | drained none =>
      rw [held, none] at holds
      cases holds
  | skipped first rest front null =>
      rw [held, front] at holds
      rcases List.mem_cons.mp holds with rfl | later
      · rw [null] at runs
        cases runs
      · refine .inr (.inr ?_)
        rwa [held, Mailbox.pop, front, List.tail_cons]
  | started first rest front runs =>
      rw [held, front] at holds
      rcases List.mem_cons.mp holds with rfl | later
      · exact .inr (.inl (List.mem_append_right _ (List.mem_singleton_self _)))
      · refine .inr (.inr ?_)
        rwa [held, Mailbox.start, front, List.tail_cons]
  | finished => exact .inr (.inr holds)

/-- The session's turn is still to come. -/
def Place.pends (sessionMap : List (Option S)) (session : S) : Place Body S N → Prop
  | .wake => some session ∈ sessionMap
  | .sessions rest => some session ∈ rest
  | .sessionTimer current _ rest => session ≠ current ∧ some session ∈ rest
  | _ => False

/-- The frame has still to come to the session. -/
def Pending (frame : Frame Body S N) (session : S) : Prop :=
  frame.place.pends frame.sessionMap session

theorem Pending.at_eq {session : S} (pending : Pending frame session) :
    frame.place.at (.session session) = .logic := by
  unfold Pending at pending
  cases place : frame.place with
  | sessionTimer current inner rest =>
      rw [place] at pending
      exact if_neg fun same => pending.1 (Ref.session.inj same)
  | _ => rfl

theorem left_mono (taken : step kind frame event = some after) {target : Ref S N}
    (gone : frame.left target = true) : after.left target = true := by
  have moved := step_moves taken
  generalize frame.place = before at moved
  cases moved with
  | sessionErased _ other map free shrunk =>
      by_cases same : target = .session other
      · simp [same]
      · simpa [Function.update_of_ne same] using gone
  | actorUnregistered _ actor map =>
      by_cases same : target = .nonNetwork actor
      · simp [same]
      · simpa [Function.update_of_ne same] using gone
  | _ => exact gone

/-- **The frame comes to every session that stays**: a pending session stays pending, or leaves, or
has its turn. -/
theorem Pending.step {session : S} (pending : Pending frame session)
    (taken : Server.step kind frame event = some after) :
    Pending after session ∨ after.left (.session session) = true ∨
      after.place.at (.session session) = .processEntry := by
  have moved := step_moves taken
  have still : Pending frame session := pending
  unfold Pending at pending
  generalize place : frame.place = before at moved pending
  cases moved with
  | sessionInserted _ other map free grown =>
      refine .inl ?_
      show frame.place.pends map session
      rw [place]
      cases before with
      | wake => exact grown.mem_iff.mpr (List.mem_cons_of_mem _ pending)
      | sessions rest => cases free
      | sessionTimer current inner rest => cases free
      | _ => cases pending
  | sessionErased _ other map free shrunk =>
      by_cases same : session = other
      · exact .inr (.inl (by simp [same]))
      · refine .inl ?_
        show frame.place.pends map session
        rw [place]
        cases before with
        | wake =>
            have different : some session ≠ some other := fun equal => same (Option.some.inj equal)
            exact shrunk.mem_iff.mpr ((List.mem_erase_of_ne different).mpr pending)
        | sessions rest => cases free
        | sessionTimer current inner rest => cases free
        | _ => cases pending
  | processed current inner inner' rest mailbox' moved =>
      refine .inl ?_
      show (afterInner current inner' rest : Place Body S N).pends frame.sessionMap session
      rcases afterInner_cases current inner' rest with leaves | stays
      · rw [leaves]
        exact pending.2
      · rw [stays]
        exact pending
  | pushed _ target message => exact .inl still
  | stopped _ target => exact .inl still
  | actorRegistered _ map => exact .inl still
  | actorUnregistered _ actor map => exact .inl still
  | woken => exact .inl pending
  | sessionsEnded => cases pending
  | sessionNull rest =>
      rcases List.mem_cons.mp pending with first | later
      · cases first
      · exact .inl later
  | sessionBegun current rest =>
      by_cases same : session = current
      · refine .inr (.inr ?_)
        simp [Place.at, Pc.base, same]
      · rcases List.mem_cons.mp pending with first | later
        · exact absurd (Option.some.inj first) same
        · exact .inl ⟨same, later⟩
  | _ => cases pending

/-- A message of a session is executed or still due, unless the session left or was stopped. -/
def Due (session : S) (entry : Entry Body) (frame : Frame Body S N) : Prop :=
  frame.left (.session session) = true ∨ (frame.mailbox (.session session)).isStop = true ∨
    entry ∈ (frame.mailbox (.session session)).executed ∨
    entry ∈ held (frame.mailbox (.session session)) (frame.place.at (.session session)) ∨
    Pending frame session ∧ entry ∈ (frame.mailbox (.session session)).storeQueue

/-- **One step keeps a message executed or due.** -/
theorem Due.step {session : S} {entry : Entry Body} (runs : entry.runs = true)
    (due : Due session entry frame) (taken : Server.step kind frame event = some after) :
    Due session entry after := by
  have moved := mailbox_moves taken (.session session)
  rcases due with gone | stopped | executed | holds | ⟨pending, stored⟩
  · exact .inl (left_mono taken gone)
  · exact .inr (.inl (isStop_mono moved stopped))
  · exact .inr (.inr (.inl (executed_subset moved executed)))
  · rcases held_move moved runs holds with stopped | executed | holds
    · exact .inr (.inl stopped)
    · exact .inr (.inr (.inl executed))
    · exact .inr (.inr (.inr (.inl holds)))
  · rw [pending.at_eq] at moved
    have stored := storeQueue_subset moved stored
    rcases pending.step taken with pending | gone | turn
    · exact .inr (.inr (.inr (.inr ⟨pending, stored⟩)))
    · exact .inl gone
    · refine .inr (.inr (.inr (.inl ?_)))
      rwa [turn]

/-- The mailboxes suit the frame. -/
def Frame.Settled (frame : Frame Body S N) : Prop :=
  ∀ target, Actor.Settled (frame.place.at target) (frame.mailbox target)

theorem settled_of_reach {start final : Frame Body S N} (settled : start.Settled)
    (reached : Reach (step kind) Unguarded start final) : final.Settled :=
  reached.invariant Frame.Settled settled
    fun _ _ _ settled _ taken target => (settled target).move (mailbox_moves taken target)

/-- An accepted message has one ticket: executed, it is counted once. -/
theorem count_executed {mailbox : Mailbox Body} {pc : Pc Body} (settled : Actor.Settled pc mailbox)
    {entry : Entry Body} (executed : entry ∈ mailbox.executed) :
    (mailbox.executed.map Entry.ticket).count entry.ticket = 1 :=
  List.count_eq_one_of_mem settled.accounted.executed_nodup (List.mem_map_of_mem executed)

/-- A message in `storeQueue` has not been executed. -/
theorem count_stored {mailbox : Mailbox Body} (settled : Actor.Settled .logic mailbox)
    {entry : Entry Body} (runs : entry.runs = true) (stored : entry ∈ mailbox.storeQueue) :
    (mailbox.executed.map Entry.ticket).count entry.ticket = 0 := by
  have distinct : ((mailbox.accepted.filter Entry.runs).map Entry.ticket).Nodup :=
    settled.accounted.accepted_nodup.sublist (List.filter_sublist.map Entry.ticket)
  rw [settled.accounted.order, List.append_assoc, List.map_append] at distinct
  refine List.count_eq_zero_of_not_mem fun executed => ?_
  refine (List.nodup_append.mp distinct).2.2 _ executed _ ?_ rfl
  exact List.mem_map_of_mem (List.mem_append_right _ (List.mem_filter.mpr ⟨stored, runs⟩))

/-- **A session is served**: one that stays registered and is not stopped has executed each message
it had when the frame began, once. -/
theorem session_served {mailbox : Ref S N → IdleMailbox Body} {sessionMap : List (Option S)}
    {nonNetworkActorMap : List (Option N)} {final : Frame Body S N}
    (reached : Reach (step kind) Unguarded
      (.begin (fun target => (mailbox target).1) sessionMap nonNetworkActorMap) final)
    (finished : final.place = .done) {session : S} (registered : some session ∈ sessionMap)
    (stayed : final.left (.session session) = false)
    (running : (final.mailbox (.session session)).isStop = false) {entry : Entry Body}
    (stored : entry ∈ (mailbox (.session session)).1.storeQueue) (runs : entry.runs = true) :
    ((final.mailbox (.session session)).executed.map Entry.ticket).count entry.ticket = 1 := by
  have start : (Frame.begin (fun target => (mailbox target).1) sessionMap
      nonNetworkActorMap).Settled := fun target => (mailbox target).2
  have settled := settled_of_reach start reached
  have begun : Due session entry (.begin (fun target => (mailbox target).1) sessionMap
      nonNetworkActorMap) := .inr (.inr (.inr (.inr ⟨registered, stored⟩)))
  have due : Due session entry final :=
    reached.invariant (Due session entry) begun fun _ _ _ due _ taken => due.step runs taken
  refine count_executed (settled (.session session)) ?_
  rcases due with gone | stopped | executed | holds | ⟨pending, -⟩
  · rw [stayed] at gone
    cases gone
  · rw [running] at stopped
    cases stopped
  · exact executed
  · rw [finished] at holds
    cases holds
  · rw [Pending, finished] at pending
    cases pending

/-- **No other actor is served**: `ProcessMessage` is called for sessions only. -/
theorem nonNetwork_unserved {start final : Frame Body S N}
    (reached : Reach (step kind) Unguarded start final) (actor : N) :
    (final.mailbox (.nonNetwork actor)).executed =
      (start.mailbox (.nonNetwork actor)).executed := by
  have outside (place : Place Body S N) : place.at (.nonNetwork actor) = .logic := by
    unfold Place.at
    split
    · exact if_neg (by simp)
    · rfl
  refine reached.invariant (fun frame => (frame.mailbox (.nonNetwork actor)).executed =
    (start.mailbox (.nonNetwork actor)).executed) rfl ?_
  intro before event after same _ taken
  have moved := mailbox_moves taken (.nonNetwork actor)
  rw [outside, outside] at moved
  rw [← same]
  generalize after.mailbox (.nonNetwork actor) = mailbox' at moved
  cases moved with
  | _ => rfl

/-! ### A frame left alone -/

/-- What a frame left alone does not touch. -/
structure Alone (start final : Frame Body S N) : Prop where
  mailbox : ∀ actor, final.mailbox (.nonNetwork actor) = start.mailbox (.nonNetwork actor)
  map : final.nonNetworkActorMap = start.nonNetworkActorMap
  left : final.left = start.left

omit [DecidableEq S] [DecidableEq N] in
theorem Alone.refl (frame : Frame Body S N) : Alone frame frame := ⟨fun _ => rfl, rfl, rfl⟩

omit [DecidableEq S] [DecidableEq N] in
theorem Alone.trans {first second third : Frame Body S N} (one : Alone first second)
    (two : Alone second third) : Alone first third :=
  ⟨fun actor => (two.mailbox actor).trans (one.mailbox actor), two.map.trans one.map,
    two.left.trans one.left⟩

/-- A step of `ProcessMessage` is a step of the frame. -/
theorem step_process {session : S} {inner inner' : Pc Body} {rest : List (Option S)}
    {mailbox' : Mailbox Body} (place : frame.place = .sessionTimer session inner rest)
    (acted : act (frame.mailbox (.session session)) inner .go = some (mailbox', inner')) :
    step kind frame (.process .go) = some (frame.process session mailbox' inner' rest) := by
  simp only [step, place, acted, Option.map_some]

theorem alone_process (session : S) (mailbox' : Mailbox Body) (inner' : Pc Body)
    (rest : List (Option S)) : Alone frame (frame.process session mailbox' inner' rest) where
  mailbox := fun actor => by simp [Frame.process, Function.update_of_ne]
  map := rfl
  left := rfl

variable (kind) in
/-- The frame can get to a place by itself. -/
def Completes (frame : Frame Body S N) (place : Place Body S N) : Prop :=
  ∃ final, Reach (step kind) Unguarded frame final ∧ Alone frame final ∧ final.place = place

theorem completes_step {middle : Frame Body S N} {place : Place Body S N}
    (taken : step kind frame event = some middle) (alone : Alone frame middle)
    (rest : Completes kind middle place) : Completes kind frame place := by
  obtain ⟨final, reached, later, finished⟩ := rest
  exact ⟨final, Reach.trans (.step .start trivial taken) reached, alone.trans later, finished⟩

/-- The loop of `ProcessMessage` ends, by induction on `consumerQueue`. -/
theorem loop_completes {session : S} {rest : List (Option S)} (queue : List (Entry Body)) :
    ∀ frame : Frame Body S N, frame.place = .sessionTimer session .processLoop rest →
      (frame.mailbox (.session session)).consumerQueue = queue →
      Completes kind frame (.sessions rest) := by
  induction queue with
  | nil =>
      intro frame place drained
      have acted : act (frame.mailbox (.session session)) .processLoop .go =
          some (frame.mailbox (.session session), .logic) := by simp only [act, drained]
      exact completes_step (step_process place acted) (alone_process _ _ _ _)
        ⟨_, .start, .refl _, rfl⟩
  | cons entry queue ih =>
      intro frame place front
      by_cases runs : entry.runs = true
      · have acted : act (frame.mailbox (.session session)) .processLoop .go =
            some ((frame.mailbox (.session session)).start entry, .processRun) := by
          simp only [act, front, runs, if_true]
        refine completes_step (step_process place acted) (alone_process _ _ _ _) ?_
        refine completes_step (step_process rfl rfl) (alone_process _ _ _ _) (ih _ rfl ?_)
        simp [Frame.process, Mailbox.pop, Mailbox.start, front]
      · have acted : act (frame.mailbox (.session session)) .processLoop .go =
            some ((frame.mailbox (.session session)).pop, .processLoop) := by
          simp only [act, front, runs, Bool.false_eq_true, if_false]
        refine completes_step (step_process place acted) (alone_process _ _ _ _) (ih _ rfl ?_)
        simp [Frame.process, Mailbox.pop, front]

/-- A session's turn ends. -/
theorem turn_completes {session : S} {rest : List (Option S)}
    (place : frame.place = .sessionTimer session .processEntry rest) :
    Completes kind frame (.sessions rest) := by
  by_cases stopped : (frame.mailbox (.session session)).isStop = true
  · have acted : act (frame.mailbox (.session session)) .processEntry .go =
        some (frame.mailbox (.session session), .logic) := by simp only [act, stopped, if_true]
    exact completes_step (step_process place acted) (alone_process _ _ _ _)
      ⟨_, .start, .refl _, rfl⟩
  · have acted : act (frame.mailbox (.session session)) .processEntry .go =
        some (frame.mailbox (.session session), .processSwap) := by
      simp only [act, stopped, Bool.false_eq_true, if_false]
    refine completes_step (step_process place acted) (alone_process _ _ _ _) ?_
    refine completes_step (step_process rfl rfl) (alone_process _ _ _ _) ?_
    exact loop_completes _ _ rfl rfl

theorem Completes.trans {first second : Place Body S N} (one : Completes kind frame first)
    (two : ∀ middle : Frame Body S N, middle.place = first → Completes kind middle second) :
    Completes kind frame second := by
  obtain ⟨middle, reached, alone, place⟩ := one
  obtain ⟨final, later, alike, finished⟩ := two middle place
  exact ⟨final, reached.trans later, alone.trans alike, finished⟩

/-- The loop over `sessionMap` ends, by induction on what is left of it. -/
theorem sessions_complete (rest : List (Option S)) :
    ∀ frame : Frame Body S N, frame.place = .sessions rest →
      Completes kind frame .betweenMaps := by
  induction rest with
  | nil =>
      intro frame place
      have taken : step kind frame .go = some { frame with place := .betweenMaps } := by
        simp only [step, place]
      exact completes_step taken ⟨fun _ => rfl, rfl, rfl⟩ ⟨_, .start, .refl _, rfl⟩
  | cons first rest ih =>
      intro frame place
      cases first with
      | none =>
          have taken : step kind frame .go = some { frame with place := .sessions rest } := by
            simp only [step, place]
          exact completes_step taken ⟨fun _ => rfl, rfl, rfl⟩ (ih _ rfl)
      | some session =>
          have taken : step kind frame .go =
              some { frame with place := .sessionTimer session .processEntry rest } := by
            simp only [step, place]
          exact completes_step taken ⟨fun _ => rfl, rfl, rfl⟩ ((turn_completes rfl).trans ih)

/-- The loop over `nonNetworkActorMap` ends. -/
theorem actors_complete (rest : List (Option N)) :
    ∀ frame : Frame Body S N, frame.place = .nonNetworkActors rest →
      Completes kind frame .done := by
  induction rest with
  | nil =>
      intro frame place
      have taken : step kind frame .go = some { frame with place := .done } := by
        simp only [step, place]
      exact completes_step taken ⟨fun _ => rfl, rfl, rfl⟩ ⟨_, .start, .refl _, rfl⟩
  | cons first rest ih =>
      intro frame place
      cases first with
      | none =>
          have taken : step kind frame .go =
              some { frame with place := .nonNetworkActors rest } := by
            simp only [step, place]
          exact completes_step taken ⟨fun _ => rfl, rfl, rfl⟩ (ih _ rfl)
      | some actor =>
          by_cases sweeps : (kind actor).sweepsTransactions = true
          · have taken : step kind frame .go =
                some { frame with place := .mediatorTimer rest } := by
              simp only [step, place, sweeps, if_true]
            have swept : step kind { frame with place := .mediatorTimer rest } .go =
                some { frame with place := .nonNetworkActors rest } := rfl
            refine completes_step taken ⟨fun _ => rfl, rfl, rfl⟩ ?_
            exact completes_step swept ⟨fun _ => rfl, rfl, rfl⟩ (ih _ rfl)
          · have taken : step kind frame .go =
                some { frame with place := .nonNetworkActors rest } := by
              simp only [step, place, sweeps, Bool.false_eq_true, if_false]
            exact completes_step taken ⟨fun _ => rfl, rfl, rfl⟩ (ih _ rfl)

/-- **A frame left alone ends**, with the other actors as they were. -/
theorem frame_completes (start : Frame Body S N) (place : start.place = .wake) :
    Completes kind start .done := by
  have taken : step kind start .go = some { start with place := .sessions start.sessionMap } := by
    simp only [step, place]
  refine completes_step taken ⟨fun _ => rfl, rfl, rfl⟩ ?_
  refine (sessions_complete start.sessionMap _ rfl).trans fun middle between => ?_
  have taken : step kind middle .go =
      some { middle with place := .nonNetworkActors middle.nonNetworkActorMap } := by
    simp only [step, between]
  exact completes_step taken ⟨fun _ => rfl, rfl, rfl⟩ (actors_complete _ _ rfl)

theorem stopped_of_reach {start final : Frame Body S N}
    (reached : Reach (step kind) Unguarded start final) (target : Ref S N)
    (stopped : (start.mailbox target).isStop = true) : (final.mailbox target).isStop = true :=
  reached.invariant (fun frame => (frame.mailbox target).isStop = true) stopped
    fun _ _ _ stopped _ taken => isStop_mono (mailbox_moves taken target) stopped

/-! ### Whom the frame serves -/

/-- The actor is in its map. -/
def Registered (frame : Frame Body S N) : Ref S N → Prop
  | .session session => some session ∈ frame.sessionMap
  | .nonNetwork actor => some actor ∈ frame.nonNetworkActorMap

/-- Every message that an actor registered and running from the start to the end of the frame had
in its `storeQueue` has been executed, once. -/
def Served (start final : Frame Body S N) : Prop :=
  ∀ target, Registered start target → final.left target = false →
    (final.mailbox target).isStop = false →
    ∀ entry ∈ (start.mailbox target).storeQueue, entry.runs = true →
      ((final.mailbox target).executed.map Entry.ticket).count entry.ticket = 1

/-- **Whom a frame serves.** Whatever the surroundings do, the frame serves every actor, exactly
when no registered running actor of `nonNetworkActorMap` has a message to run. -/
theorem served_iff (kind : N → NonNetworkKind) (mailbox : Ref S N → IdleMailbox Body)
    (sessionMap : List (Option S)) (nonNetworkActorMap : List (Option N)) :
    (∀ final, Reach (step kind) Unguarded
        (.begin (fun target => (mailbox target).1) sessionMap nonNetworkActorMap) final →
      final.place = .done →
      Served (.begin (fun target => (mailbox target).1) sessionMap nonNetworkActorMap) final) ↔
    ∀ actor, some actor ∈ nonNetworkActorMap → (mailbox (.nonNetwork actor)).1.isStop = false →
      ∀ entry ∈ (mailbox (.nonNetwork actor)).1.storeQueue, entry.runs = false := by
  constructor
  · intro served actor registered running entry stored
    by_contra runs
    have runs := Bool.eq_true_of_not_eq_false runs
    have completes : Completes kind (.begin (fun target => (mailbox target).1) sessionMap
      nonNetworkActorMap) .done := frame_completes _ rfl
    obtain ⟨final, reached, alone, finished⟩ := completes
    have running : (final.mailbox (.nonNetwork actor)).isStop = false := by
      rw [alone.mailbox]
      exact running
    have once := served final reached finished (.nonNetwork actor) registered
      (by rw [alone.left]; rfl) running entry stored runs
    rw [alone.mailbox] at once
    have never := count_stored (mailbox (.nonNetwork actor)).2 runs stored
    exact absurd (never.symm.trans once) Nat.zero_ne_one
  · intro empty final reached finished target registered stayed running entry stored runs
    cases target with
    | session session => exact session_served reached finished registered stayed running stored runs
    | nonNetwork actor =>
        have unstopped : (mailbox (.nonNetwork actor)).1.isStop = false := by
          by_contra stopped
          have still := stopped_of_reach reached (.nonNetwork actor)
            (Bool.eq_true_of_not_eq_false stopped)
          rw [running] at still
          cases still
        rw [empty actor registered unstopped entry stored] at runs
        cases runs

/-- An actor of `nonNetworkActorMap` with a message. -/
def oneMessage : Ref Unit Unit → IdleMailbox ℕ
  | .session _ => ⟨.empty, ⟨Mailbox.accounted_empty, fun _ => rfl⟩⟩
  | .nonNetwork _ =>
      ⟨Mailbox.empty.push (some 7), ⟨Mailbox.accounted_empty.push _, fun _ => rfl⟩⟩

/-- A mediator's message is accepted and not served. -/
theorem served_not :
    ¬ ∀ final, Reach (step fun _ => .tradeMediator) Unguarded
        (.begin (fun target => (oneMessage target).1) [some ()] [some ()]) final →
      final.place = .done →
      Served (.begin (fun target => (oneMessage target).1) [some ()] [some ()]) final := by
  intro served
  have completes : Completes (fun _ => .tradeMediator)
      (.begin (fun target => (oneMessage target).1) [some ()] [some ()]) .done :=
    frame_completes _ rfl
  obtain ⟨final, reached, alone, finished⟩ := completes
  have mailbox := alone.mailbox ()
  have once := served final reached finished (.nonNetwork ()) (List.mem_singleton_self _)
    (by rw [alone.left]; rfl) (by rw [mailbox]; rfl) ⟨0, some 7⟩ (List.mem_singleton_self _) rfl
  rw [mailbox] at once
  cases once

end Steps

end LogicFrame

end ActorModelServer.Server
