/-
**The creation of a session.**

The accept thread sends the new session its `OnActorCreated` as a message, puts it into the session
map, calls `OnActorCreated` itself, and starts to receive. The logic thread calls `ProcessMessage`
in every frame while the session is in the map; an IO thread turns what was received into messages.
Other threads send messages and stop the session once it is in the map; what a running message does
to its own session is a step of another thread too.

* `act_moves` — everything a step can do; the facts about one step are case analyses on `Moves`.
* `created_once` — `OnActorCreated` is called before any packet handler; and exactly once as long as
  the logic thread never comes past the check of `ProcessMessage` with the message in the queue.
* `drained_twice` — the condition is exact.
* `created_twice` — a session that lives to its first frame.
-/

import ActorModelServer.Actor.Mailbox
import ActorModelServer.Library.ThreadTable

namespace ActorModelServer.SessionCreation

open Actor (Mailbox Entry)
open ThreadTable (threadStep_eq_some leads_of_act)
open StepRuns (Reach Leads Unguarded EachAfter eachAfter_append eachAfter_nil exists_reach_of_run
  exists_reach_of_runGuarded)

universe u v

section Model

/-- What a message of the session does. -/
inductive Job
  | onActorCreated
  | packetHandler (packet : ℕ)
  | other (message : ℕ)
  deriving DecidableEq, Repr

/-- The session. -/
structure Session where
  mailbox : Mailbox Job
  /-- It was put into the session map at some time, and is there now. -/
  inserted : Bool
  inMap : Bool
  /-- The logic thread holds the mutex of the map. -/
  passing : Bool
  /-- The receives that have not completed. -/
  receives : ℕ
  /-- What was called, in order. -/
  calls : List Job
  deriving DecidableEq

/-- Where a thread is. -/
inductive Place
  /- the accept thread: in `SendMessage`, before `InsertSession`, before the call, before `DoRecv`,
  behind it -/
  | sendCheck
  | sendPush
  | insertSession
  | onActorCreated
  | doRecv
  | accepted
  /- the logic thread: between frames, and in `ProcessMessage` -/
  | wait
  | processEntry
  | processSwap
  | processLoop
  | processRun
  /- an IO thread: waiting for a completion, in the loop over the packets, in `SendMessage` -/
  | ioWait
  | packets (rest : List ℕ)
  | packetPush (packet : ℕ) (rest : List ℕ)
  /- any other thread, outside, and in `SendMessage` -/
  | outside
  | push (message : Option ℕ)
  deriving DecidableEq

/-- What the surroundings decide. -/
inductive Choice
  | go
  /- `DoRecv` fails; a packet is not read, or has no handler -/
  | fails
  /- a receive completes with packets, or without -/
  | received (packets : List ℕ)
  | closed
  | send (message : Option ℕ)
  | stop
  /- the release thread takes the session out of the map -/
  | eraseSession

/-- A call starts. -/
def Session.call (session : Session) (job : Job) : Session :=
  { session with calls := session.calls ++ [job] }

/-- A message is pushed. -/
def Session.push (session : Session) (message : Option Job) : Session :=
  { session with mailbox := session.mailbox.push message }

/-- One atomic step of a thread. -/
def act (session : Session) (place : Place) (choice : Choice) : Option (Session × Place) :=
  match place, choice with
  | .sendCheck, .go =>
      some (session, if session.mailbox.isStop then .insertSession else .sendPush)
  | .sendPush, .go => some (session.push (some .onActorCreated), .insertSession)
  | .insertSession, .go =>
      if session.passing then none
      else some ({ session with inserted := true, inMap := true }, .onActorCreated)
  | .onActorCreated, .go => some (session.call .onActorCreated, .doRecv)
  | .doRecv, .go => some ({ session with receives := session.receives + 1 }, .accepted)
  | .doRecv, .fails => some (session, .accepted)
  | .wait, .go =>
      if session.inMap then some ({ session with passing := true }, .processEntry) else none
  | .processEntry, .go =>
      if session.mailbox.isStop then some ({ session with passing := false }, .wait)
      else some (session, .processSwap)
  | .processSwap, .go =>
      some ({ session with mailbox := session.mailbox.swapQueues }, .processLoop)
  | .processLoop, .go =>
      match session.mailbox.consumerQueue with
      | [] => some ({ session with passing := false }, .wait)
      | entry :: _ =>
          match entry.message with
          | none => some ({ session with mailbox := session.mailbox.pop }, .processLoop)
          | some job =>
              some ({ session with mailbox := session.mailbox.start entry }.call job, .processRun)
  | .processRun, .go => some ({ session with mailbox := session.mailbox.pop }, .processLoop)
  | .ioWait, .received packets =>
      if session.receives = 0 then none
      else
        -- `FindSession`
        some ({ session with receives := session.receives - 1 },
          if session.inMap then .packets packets else .ioWait)
  | .ioWait, .closed =>
      if session.receives = 0 then none
      else some ({ session with receives := session.receives - 1 }, .ioWait)
  | .packets [], .go => some ({ session with receives := session.receives + 1 }, .ioWait)
  | .packets (packet :: rest), .go =>
      some (session, if session.mailbox.isStop then .ioWait else .packetPush packet rest)
  | .packets _, .fails => some (session, .ioWait)
  | .packetPush packet rest, .go =>
      some (session.push (some (.packetHandler packet)), .packets rest)
  | .outside, .send message =>
      if session.inserted = false then none
      else some (session, if session.mailbox.isStop then .outside else .push message)
  | .push message, .go => some (session.push (message.map .other), .outside)
  | .outside, .stop =>
      if session.inserted = false then none
      else some ({ session with mailbox := session.mailbox.stop }, .outside)
  | .outside, .eraseSession =>
      if session.passing then none else some ({ session with inMap := false }, .outside)
  | _, _ => none

/-- The threads. -/
inductive Tid (Name : Type v)
  | accept
  | logic
  | io (name : Name)
  | other (name : Name)
  deriving DecidableEq

/-- Where each thread starts. -/
def initialPlace {Name : Type v} : Tid Name → Place
  | .accept => .sendCheck
  | .logic => .wait
  | .io _ => .ioWait
  | .other _ => .outside

/-- The state of the machine. -/
abbrev State (Name : Type v) := ThreadTable.System Session (Tid Name) Place

/-- The session its factory has made; its completion port is associated. -/
def initial (Name : Type v) : State Name :=
  ⟨⟨.empty, false, false, false, 0, []⟩, initialPlace⟩

variable {Name : Type v}

/-- One step of the machine. -/
def step [DecidableEq Name] : State Name → Tid Name × Choice → Option (State Name) :=
  ThreadTable.threadStep act

/-- The message of `OnActorCreated` waits in `storeQueue`. -/
def Queued (session : Session) : Prop :=
  ∃ entry ∈ session.mailbox.storeQueue, entry.message = some .onActorCreated

/-- `ProcessMessage` does not come past its check of `isStop` while the message is queued. -/
def NotDrained (state : State Name) (label : Tid Name × Choice) : Prop :=
  match state.pc label.1 with
  | .processEntry => state.shared.mailbox.isStop = true ∨ ¬ Queued state.shared
  | _ => True

/-- The accept thread has called `OnActorCreated`. -/
def Place.called : Place → Bool
  | .doRecv => true
  | .accepted => true
  | _ => false

/-- Every packet handler comes after a call of `OnActorCreated`. -/
def HandlersAfter (calls : List Job) : Prop :=
  EachAfter (fun front job => ∀ packet, job = .packetHandler packet → .onActorCreated ∈ front) calls

instance (session : Session) : Decidable (Queued session) :=
  inferInstanceAs (Decidable (∃ entry ∈ _, _))

instance (state : State Name) (label : Tid Name × Choice) : Decidable (NotDrained state label) := by
  unfold NotDrained
  split <;> infer_instance

end Model

/-! ### Handlers come later -/

section Order

variable {session session' : Session} {place place' : Place} {choice : Choice}

/-- What a step does, by the branch that is taken. -/
inductive Moves (session : Session) : Place → Choice → Session → Place → Prop
  | createRefused (stopped : session.mailbox.isStop = true) :
      Moves session .sendCheck .go session .insertSession
  | createChecked (running : session.mailbox.isStop = false) :
      Moves session .sendCheck .go session .sendPush
  | createSent : Moves session .sendPush .go (session.push (some .onActorCreated)) .insertSession
  | inserted (free : session.passing = false) :
      Moves session .insertSession .go { session with inserted := true, inMap := true }
        .onActorCreated
  | created : Moves session .onActorCreated .go (session.call .onActorCreated) .doRecv
  | receives :
      Moves session .doRecv .go { session with receives := session.receives + 1 } .accepted
  | receiveFailed : Moves session .doRecv .fails session .accepted
  | passed (inMap : session.inMap = true) :
      Moves session .wait .go { session with passing := true } .processEntry
  | processRefused (stopped : session.mailbox.isStop = true) :
      Moves session .processEntry .go { session with passing := false } .wait
  | processChecked (running : session.mailbox.isStop = false) :
      Moves session .processEntry .go session .processSwap
  | swapped :
      Moves session .processSwap .go { session with mailbox := session.mailbox.swapQueues }
        .processLoop
  | processed (empty : session.mailbox.consumerQueue = []) :
      Moves session .processLoop .go { session with passing := false } .wait
  | skipped (entry : Entry Job) (rest : List (Entry Job))
      (front : session.mailbox.consumerQueue = entry :: rest) (null : entry.message = none) :
      Moves session .processLoop .go { session with mailbox := session.mailbox.pop } .processLoop
  | taken (entry : Entry Job) (rest : List (Entry Job))
      (front : session.mailbox.consumerQueue = entry :: rest) (job : Job)
      (message : entry.message = some job) :
      Moves session .processLoop .go
        ({ session with mailbox := session.mailbox.start entry }.call job) .processRun
  | ran : Moves session .processRun .go { session with mailbox := session.mailbox.pop } .processLoop
  | received (packets : List ℕ) (pending : session.receives ≠ 0) (inMap : session.inMap = true) :
      Moves session .ioWait (.received packets) { session with receives := session.receives - 1 }
        (.packets packets)
  | receivedGone (packets : List ℕ) (pending : session.receives ≠ 0)
      (gone : session.inMap = false) :
      Moves session .ioWait (.received packets) { session with receives := session.receives - 1 }
        .ioWait
  | closed (pending : session.receives ≠ 0) :
      Moves session .ioWait .closed { session with receives := session.receives - 1 } .ioWait
  | receivesNext :
      Moves session (.packets []) .go { session with receives := session.receives + 1 } .ioWait
  | packetRefused (packet : ℕ) (rest : List ℕ) (stopped : session.mailbox.isStop = true) :
      Moves session (.packets (packet :: rest)) .go session .ioWait
  | packetChecked (packet : ℕ) (rest : List ℕ) (running : session.mailbox.isStop = false) :
      Moves session (.packets (packet :: rest)) .go session (.packetPush packet rest)
  | packetFailed (packets : List ℕ) : Moves session (.packets packets) .fails session .ioWait
  | packetSent (packet : ℕ) (rest : List ℕ) :
      Moves session (.packetPush packet rest) .go (session.push (some (.packetHandler packet)))
        (.packets rest)
  | sendRefused (message : Option ℕ) (known : session.inserted = true)
      (stopped : session.mailbox.isStop = true) :
      Moves session .outside (.send message) session .outside
  | sendChecked (message : Option ℕ) (known : session.inserted = true)
      (running : session.mailbox.isStop = false) :
      Moves session .outside (.send message) session (.push message)
  | sent (message : Option ℕ) :
      Moves session (.push message) .go (session.push (message.map .other)) .outside
  | stops (known : session.inserted = true) :
      Moves session .outside .stop { session with mailbox := session.mailbox.stop } .outside
  | erased (free : session.passing = false) :
      Moves session .outside .eraseSession { session with inMap := false } .outside

/-- **Inversion of a step**: it is one of the branches. -/
theorem act_moves (acted : act session place choice = some (session', place')) :
    Moves session place choice session' place' := by
  revert acted
  fun_cases act session place choice
  all_goals intro acted
  all_goals simp only [Option.some.injEq, Prod.mk.injEq, reduceCtorEq] at acted
  all_goals obtain ⟨rfl, rfl⟩ := acted
  case case14 entry rest front null => exact .skipped entry rest front null
  case case15 entry rest front job message => exact .taken entry rest front job message
  all_goals try split
  all_goals constructor <;> grind

/-- A place that is reached after the call of the accept thread. -/
def Place.afterCall : Place → Bool
  | .doRecv => true
  | .accepted => true
  | .packets _ => true
  | .packetPush _ _ => true
  | _ => false

/-- No packet is in the queues. -/
def NoPackets (mailbox : Mailbox Job) : Prop :=
  ∀ entry, entry ∈ mailbox.storeQueue ∨ entry ∈ mailbox.consumerQueue →
    ∀ packet, entry.message ≠ some (.packetHandler packet)

theorem NoPackets.push {mailbox : Mailbox Job} {message : Option Job} (none : NoPackets mailbox)
    (other : ∀ packet, message ≠ some (.packetHandler packet)) :
    NoPackets (mailbox.push message) := by
  rintro entry (stored | consumed)
  · rcases List.mem_append.mp stored with before | last
    · exact none entry (.inl before)
    · rw [List.mem_singleton.mp last]
      exact other
  · exact none entry (.inr consumed)

theorem NoPackets.pop {mailbox : Mailbox Job} (none : NoPackets mailbox) :
    NoPackets mailbox.pop := by
  rintro entry (stored | consumed)
  · exact none entry (.inl stored)
  · exact none entry (.inr (List.mem_of_mem_tail consumed))

/-- As long as nothing was called, nothing is received and no packet is queued. -/
structure Silent (session : Session) (place : Place) : Prop where
  receives : session.receives = 0
  place : place.afterCall = false
  queues : NoPackets session.mailbox

/-- A step of a silent thread calls `OnActorCreated`, or leaves it silent. -/
theorem act_silent (acted : act session place choice = some (session', place'))
    (silent : Silent session place) :
    .onActorCreated ∈ session'.calls ∨ Silent session' place' := by
  obtain ⟨receives, before, queues⟩ := silent
  cases act_moves acted with
  | created => exact .inl (List.mem_append_right _ (.head _))
  | createSent => exact .inr ⟨receives, rfl, queues.push nofun⟩
  | swapped => exact .inr ⟨receives, rfl, fun entry member => queues entry member.symm⟩
  | skipped | ran => exact .inr ⟨receives, rfl, queues.pop⟩
  | sent message =>
      refine .inr ⟨receives, rfl, queues.push fun packet same => ?_⟩
      cases message with
      | none => cases same
      | some message => cases same
  -- nothing was received
  | received packets pending | receivedGone packets pending | closed pending =>
      exact absurd receives pending
  | receives | receiveFailed | receivesNext | packetRefused | packetChecked | packetFailed
  | packetSent => cases before
  | createRefused | createChecked | inserted | passed | processRefused | processChecked | processed
  | taken | sendRefused | sendChecked | stops | erased => exact .inr ⟨receives, rfl, queues⟩

/-- The calls of a step: the accept thread's, or the one of a message that is taken. -/
theorem act_calls (acted : act session place choice = some (session', place')) :
    session'.calls = session.calls ∨ session'.calls = session.calls ++ [.onActorCreated] ∨
      ∃ entry ∈ session.mailbox.consumerQueue, ∃ job, entry.message = some job ∧
        session'.calls = session.calls ++ [job] := by
  cases act_moves acted with
  | created => exact .inr (.inl rfl)
  | taken entry rest front job message =>
      exact .inr (.inr ⟨entry, front ▸ .head _, job, message, rfl⟩)
  | _ => exact .inl rfl

variable {Name : Type v} [DecidableEq Name]

/-- Handlers come after `OnActorCreated`, before which all is silent. -/
structure Announced (state : State Name) : Prop where
  order : HandlersAfter state.shared.calls
  first : .onActorCreated ∈ state.shared.calls ∨
    ∀ thread, Silent state.shared (state.pc thread)

theorem Announced.step {state after : State Name} {label : Tid Name × Choice}
    (announced : Announced state) (taken : SessionCreation.step state label = some after) :
    Announced after := by
  obtain ⟨session, place, acted, rfl⟩ := threadStep_eq_some.mp taken
  obtain ⟨order, first⟩ := announced
  constructor
  · rcases act_calls acted with same | created | ⟨entry, front, job, message, handled⟩
    · rw [same]
      exact order
    · rw [created]
      exact eachAfter_append.mpr ⟨order, nofun⟩
    · rw [handled]
      refine eachAfter_append.mpr ⟨order, fun packet same => ?_⟩
      subst same
      rcases first with created | silent
      · exact created
      · exact absurd message ((silent .logic).queues entry (.inr front) packet)
  · rcases first with created | silent
    · left
      rcases act_calls acted with same | called | ⟨_, _, _, _, called⟩
      · rwa [same]
      · rw [called]
        exact List.mem_append_left _ created
      · rw [called]
        exact List.mem_append_left _ created
    · rcases act_silent acted (silent label.1) with created | next
      · exact .inl created
      · refine .inr fun thread => ?_
        by_cases mover : thread = label.1
        · subst mover
          simpa using next
        · refine ⟨next.receives, ?_, next.queues⟩
          simpa [Function.update_of_ne mover] using (silent thread).place

theorem announced_of_reach {state : State Name}
    (reached : Reach step Unguarded (initial Name) state) : Announced state := by
  refine reached.invariant (fun state : State Name => Announced state) ?_
    fun _ _ _ announced _ taken => announced.step taken
  refine ⟨eachAfter_nil, .inr fun thread => ⟨rfl, ?_, ?_⟩⟩
  · cases thread <;> rfl
  · rintro entry (member | member)
    · exact absurd member List.not_mem_nil
    · exact absurd member List.not_mem_nil

end Order

/-! ### The message waits -/

section Count

variable {session session' : Session} {place place' : Place} {choice : Choice} {Name : Type v}

/-- The thread a place belongs to. -/
def Place.role : Place → Tid Unit
  | .sendCheck | .sendPush | .insertSession | .onActorCreated | .doRecv | .accepted => .accept
  | .wait | .processEntry | .processSwap | .processLoop | .processRun => .logic
  | .ioWait | .packets _ | .packetPush _ _ => .io ()
  | .outside | .push _ => .other ()

/-- The role of a thread. -/
def Tid.role : Tid Name → Tid Unit
  | .accept => .accept
  | .logic => .logic
  | .io _ => .io ()
  | .other _ => .other ()

theorem act_role (acted : act session place choice = some (session', place')) :
    place'.role = place.role := by
  cases act_moves acted <;> rfl

/-- The accept thread's view: what it has done, and that its message waits. -/
def Accepting (session : Session) : Place → Prop
  | .sendCheck | .sendPush =>
      session.inserted = false ∧ session.mailbox.isStop = false ∧ session.calls = []
  | .insertSession =>
      session.inserted = false ∧ session.mailbox.isStop = false ∧ session.calls = [] ∧
        Queued session
  | .onActorCreated => session.calls = [] ∧ Queued session
  | .doRecv | .accepted => session.calls = [.onActorCreated] ∧ Queued session
  | _ => False

/-- The logic thread's view: it comes no further than the check. -/
structure Waiting (session : Session) (place : Place) : Prop where
  waits : place = .wait ∨ place = .processEntry ∧ session.inserted = true
  known : session.inMap = true → session.inserted = true

theorem Queued.push (queued : Queued session) (message : Option Job) :
    Queued (session.push message) := by
  obtain ⟨entry, member, own⟩ := queued
  exact ⟨entry, List.mem_append_left _ member, own⟩

theorem Accepting.queued (accepting : Accepting session place)
    (inserted : session.inserted = true) : Queued session := by
  cases place with
  | sendCheck | sendPush | insertSession =>
      have before := inserted.symm.trans accepting.1
      cases before
  | onActorCreated | doRecv | accepted => exact accepting.2
  | wait | processEntry | processSwap | processLoop | processRun | ioWait | packets | packetPush
  | outside | push => exact accepting.elim

/-- What the other threads leave: the calls, the message in the queue, and before the insertion the
session is not stopped. -/
structure Frame (session session' : Session) : Prop where
  calls : session'.calls = session.calls
  inserted : session'.inserted = session.inserted
  queued : Queued session → Queued session'
  isStop : session.inserted = false → session'.mailbox.isStop = session.mailbox.isStop
  inMap : session'.inMap = true → session.inMap = true

theorem Frame.accepting (frame : Frame session session') (accepting : Accepting session place) :
    Accepting session' place := by
  cases place with
  | sendCheck | sendPush =>
      obtain ⟨inserted, isStop, calls⟩ := accepting
      exact ⟨frame.inserted.trans inserted, (frame.isStop inserted).trans isStop,
        frame.calls.trans calls⟩
  | insertSession =>
      obtain ⟨inserted, isStop, calls, queued⟩ := accepting
      exact ⟨frame.inserted.trans inserted, (frame.isStop inserted).trans isStop,
        frame.calls.trans calls, frame.queued queued⟩
  | onActorCreated | doRecv | accepted =>
      exact ⟨frame.calls.trans accepting.1, frame.queued accepting.2⟩
  | wait | processEntry | processSwap | processLoop | processRun | ioWait | packets | packetPush
  | outside | push => exact accepting.elim

/-- The places of the other threads, and of a logic thread that waits. -/
def Place.drains : Place → Bool
  | .processSwap | .processLoop | .processRun => true
  | _ => false

theorem act_frame (acted : act session place choice = some (session', place'))
    (other : place.role ≠ .accept) (waits : place.drains = false) : Frame session session' := by
  cases act_moves acted with
  | createRefused | createChecked | createSent | inserted | created | receives | receiveFailed =>
      exact absurd rfl other
  | swapped | processed | skipped | taken | ran => cases waits
  | packetSent | sent => exact ⟨rfl, rfl, fun queued => queued.push _, fun _ => rfl, id⟩
  | stops known => exact ⟨rfl, rfl, id, fun before => absurd (known.symm.trans before) nofun, id⟩
  | erased => exact ⟨rfl, rfl, id, fun _ => rfl, nofun⟩
  | passed | processRefused | processChecked | received | receivedGone | closed | receivesNext
  | packetRefused | packetChecked | packetFailed | sendRefused | sendChecked =>
      exact ⟨rfl, rfl, id, fun _ => rfl, id⟩

/-- What the accept thread does. -/
theorem act_accepting (acted : act session place choice = some (session', place'))
    (own : place.role = .accept) (accepting : Accepting session place) :
    Accepting session' place' ∧ (session.inserted = true → session'.inserted = true) ∧
      (session'.inMap = true → session.inMap = true ∨ session'.inserted = true) := by
  cases act_moves acted with
  | createRefused stopped => exact absurd (accepting.2.1.symm.trans stopped) nofun
  | createChecked => exact ⟨accepting, id, .inl⟩
  | createSent =>
      obtain ⟨inserted, isStop, calls⟩ := accepting
      exact ⟨⟨inserted, isStop, calls, _, List.mem_append_right _ (.head _), rfl⟩, id, .inl⟩
  | inserted =>
      obtain ⟨-, -, calls, queued⟩ := accepting
      exact ⟨⟨calls, queued⟩, fun _ => rfl, fun _ => .inr rfl⟩
  | created =>
      obtain ⟨calls, queued⟩ := accepting
      refine ⟨⟨?_, queued⟩, id, .inl⟩
      show session.calls ++ [_] = _
      rw [calls, List.nil_append]
  | receives | receiveFailed => exact ⟨accepting, id, .inl⟩
  | _ => cases own

/-- What a logic thread that waits does. -/
theorem act_waiting (acted : act session place choice = some (session', place'))
    (waiting : Waiting session place)
    (refused : place = .processEntry → session.mailbox.isStop = true) :
    Waiting session' place' := by
  obtain ⟨waits, known⟩ := waiting
  rcases waits with rfl | ⟨rfl, inserted⟩
  · cases choice with
    | go =>
        obtain ⟨inMap, same⟩ := Option.ite_none_right_eq_some.mp acted
        cases same
        exact ⟨.inr ⟨rfl, known inMap⟩, known⟩
    | fails | received | closed | send | stop | eraseSession => cases acted
  · cases choice with
    | go =>
        change (if session.mailbox.isStop then _ else _) = _ at acted
        rw [if_pos (refused rfl)] at acted
        cases acted
        exact ⟨.inl rfl, known⟩
    | fails | received | closed | send | stop | eraseSession => cases acted

variable [DecidableEq Name]

/-- The accept thread's message waits, and the logic thread comes no further than the check. -/
structure Undrained (state : State Name) : Prop where
  placed : ∀ thread, (state.pc thread).role = thread.role
  accepting : Accepting state.shared (state.pc .accept)
  waiting : Waiting state.shared (state.pc .logic)

theorem placed_step {state after : State Name} {label : Tid Name × Choice}
    (placed : ∀ thread, (state.pc thread).role = thread.role)
    (taken : step state label = some after) :
    ∀ thread, (after.pc thread).role = thread.role := by
  obtain ⟨session, place, acted, rfl⟩ := threadStep_eq_some.mp taken
  intro thread
  by_cases mover : thread = label.1
  · subst mover
    simpa using (act_role acted).trans (placed _)
  · simpa [Function.update_of_ne mover] using placed thread

/-- Another thread's step. -/
theorem Waiting.frame (waiting : Waiting session place) (frame : Frame session session') :
    Waiting session' place := by
  refine ⟨?_, fun inMap => frame.inserted.trans (waiting.known (frame.inMap inMap))⟩
  rw [frame.inserted]
  exact waiting.waits

theorem not_drains_of_role (other : place.role ≠ .logic) : place.drains = false := by
  cases place with
  | processSwap | processLoop | processRun => exact absurd rfl other
  | sendCheck | sendPush | insertSession | onActorCreated | doRecv | accepted | wait
  | processEntry | ioWait | packets | packetPush | outside | push => rfl

theorem Undrained.step {state after : State Name} {label : Tid Name × Choice}
    (undrained : Undrained state) (allowed : NotDrained state label)
    (taken : SessionCreation.step state label = some after) : Undrained after := by
  have placed := placed_step undrained.placed taken
  obtain ⟨session, place, acted, rfl⟩ := threadStep_eq_some.mp taken
  obtain ⟨roles, accepting, waiting⟩ := undrained
  have role := roles label.1
  obtain ⟨mover, choice⟩ := label
  cases mover with
  | accept =>
      obtain ⟨accepted, grows, known⟩ := act_accepting acted role accepting
      refine ⟨placed, by simpa using accepted, ?_, fun inMap => ?_⟩
      · show state.pc .logic = .wait ∨ state.pc .logic = .processEntry ∧ _
        exact waiting.waits.imp_right fun entry => ⟨entry.1, grows entry.2⟩
      · rcases known inMap with before | now
        · exact grows (waiting.known before)
        · exact now
  | logic =>
      have refused (entry : state.pc .logic = .processEntry) :
          state.shared.mailbox.isStop = true := by
        unfold NotDrained at allowed
        rw [entry] at allowed
        have inserted : state.shared.inserted = true := by
          rcases waiting.waits with wait | ⟨-, inserted⟩
          · rw [wait] at entry
            cases entry
          · exact inserted
        exact allowed.resolve_right fun absent => absent (accepting.queued inserted)
      have waits : (state.pc .logic).drains = false := by
        rcases waiting.waits with wait | ⟨entry, -⟩
        · rw [wait]
          rfl
        · rw [entry]
          rfl
      have frame := act_frame acted (by rw [role]; nofun) waits
      exact ⟨placed, frame.accepting accepting, by simpa using act_waiting acted waiting refused⟩
  | io name | other name =>
      have frame := act_frame acted (by rw [role]; nofun)
        (not_drains_of_role (by rw [role]; nofun))
      exact ⟨placed, frame.accepting accepting, waiting.frame frame⟩

omit [DecidableEq Name] in
theorem placed_initial (thread : Tid Name) :
    ((initial Name).pc thread).role = thread.role := by
  cases thread with
  | accept | logic | io | other => rfl

theorem undrained_of_reach {state : State Name}
    (reached : Reach step NotDrained (initial Name) state) : Undrained state :=
  reached.invariant (fun state : State Name => Undrained state)
    ⟨placed_initial, ⟨rfl, rfl, rfl⟩, .inl rfl, nofun⟩ fun _ _ _ undrained allowed taken =>
      undrained.step allowed taken

/-- The count follows the accept thread. -/
theorem Accepting.count (accepting : Accepting session place) :
    session.calls.count .onActorCreated = if place.called then 1 else 0 := by
  cases place with
  | sendCheck | sendPush =>
      rw [accepting.2.2]
      rfl
  | insertSession =>
      rw [accepting.2.2.1]
      rfl
  | onActorCreated | doRecv | accepted =>
      rw [accepting.1]
      rfl
  | wait | processEntry | processSwap | processLoop | processRun | ioWait | packets | packetPush
  | outside | push => exact accepting.elim

/-- **Creation.** In every run `OnActorCreated` comes before any packet handler. In every run in
which `ProcessMessage` does not come past its check while the message of `OnActorCreated` is queued,
it is called exactly once, by the accept thread. -/
theorem created_once (Name : Type v) [DecidableEq Name] :
    (∀ state : State Name, Reach step Unguarded (initial Name) state →
      HandlersAfter state.shared.calls) ∧
    ∀ state : State Name, Reach step NotDrained (initial Name) state →
      state.shared.calls.count .onActorCreated = if (state.pc .accept).called then 1 else 0 :=
  ⟨fun _ reached => (announced_of_reach reached).order,
    fun _ reached => (undrained_of_reach reached).accepting.count⟩

end Count

/-! ### A message that is drained -/

section Drained

variable {Name : Type v} [DecidableEq Name] {state : State Name} {count : ℕ}

/-- The logic thread alone steps. -/
def LogicAlone (_ : State Name) (label : Tid Name × Choice) : Prop := label.1 = .logic

/-- The logic thread alone comes to more calls of `OnActorCreated` than the count. -/
def Creates (count : ℕ) (state : State Name) : Prop :=
  Leads step LogicAlone (fun later => count < later.shared.calls.count .onActorCreated) state

/-- One step of the logic thread on the way. -/
theorem Creates.after_step {place next : Place} {session : Session}
    (here : state.pc .logic = place) (acted : act state.shared place .go = some (session, next))
    (creates : ∀ pc : Tid Name → Place, pc .logic = next → Creates count ⟨session, pc⟩) :
    Creates count state :=
  leads_of_act here .go rfl acted fun pc there _ => creates pc there

/-- The loop comes to the message. -/
theorem creates_processLoop {entries : List (Entry Job)} (here : state.pc .logic = .processLoop)
    (queue : state.shared.mailbox.consumerQueue = entries)
    (queued : ∃ entry ∈ entries, entry.message = some .onActorCreated)
    (few : count ≤ state.shared.calls.count .onActorCreated) : Creates count state := by
  induction entries generalizing state with
  | nil =>
      obtain ⟨entry, member, -⟩ := queued
      exact absurd member List.not_mem_nil
  | cons entry rest ih =>
      obtain ⟨own, member, created⟩ := queued
      have later (other : entry.message ≠ some .onActorCreated) :
          ∃ entry ∈ rest, entry.message = some .onActorCreated := by
        rcases List.mem_cons.mp member with rfl | later
        · exact absurd created other
        · exact ⟨own, later, created⟩
      cases message : entry.message with
      | none =>
          have acted : act state.shared .processLoop .go =
              some ({ state.shared with mailbox := state.shared.mailbox.pop }, .processLoop) := by
            simp [act, queue, message]
          refine Creates.after_step here acted fun pc loop =>
            ih loop ?_ (later (by rw [message]; nofun)) few
          show state.shared.mailbox.consumerQueue.tail = rest
          rw [queue, List.tail_cons]
      | some job =>
          have acted : act state.shared .processLoop .go =
              some ({ state.shared with mailbox := state.shared.mailbox.start entry }.call job,
                .processRun) := by
            simp [act, queue, message]
          refine Creates.after_step here acted fun pc run => ?_
          by_cases same : job = .onActorCreated
          · subst same
            refine Leads.here ?_
            show count < (state.shared.calls ++ [Job.onActorCreated]).count Job.onActorCreated
            rw [List.count_append, List.count_singleton_self]
            omega
          · refine Creates.after_step run rfl fun pc loop => ih loop ?_ (later ?_) ?_
            · show state.shared.mailbox.consumerQueue.tail = rest
              rw [queue, List.tail_cons]
            · rw [message]
              exact fun equal => same (Option.some.inj equal)
            · show count ≤ (state.shared.calls ++ [job]).count Job.onActorCreated
              rw [List.count_append]
              omega

/-- **The condition is exact**: when `ProcessMessage` comes past its check while the message is
queued, the logic thread alone calls `OnActorCreated`, beside the accept thread. -/
theorem drained_twice {after : State Name} (entry : state.pc .logic = .processEntry)
    (running : state.shared.mailbox.isStop = false) (queued : Queued state.shared)
    (taken : step state (.logic, .go) = some after) :
    Creates (state.shared.calls.count .onActorCreated) after := by
  obtain ⟨session, place, acted, rfl⟩ := threadStep_eq_some.mp taken
  rw [entry] at acted
  change (if state.shared.mailbox.isStop then _ else _) = _ at acted
  rw [if_neg (Bool.eq_false_iff.mp running)] at acted
  cases acted
  have swap : Function.update state.pc .logic Place.processSwap .logic = .processSwap :=
    Function.update_self _ _ _
  exact Creates.after_step swap rfl fun pc loop =>
    creates_processLoop loop rfl queued (Nat.le_refl _)

end Drained

/-! ### Runs -/

section Runs

/-- The session is stopped after its insertion; the frame calls nothing. -/
def stoppedFirst : List (Tid Unit × Choice) :=
  [(.accept, .go), (.accept, .go), (.accept, .go), (.other (), .stop), (.logic, .go), (.logic, .go),
    (.accept, .go), (.accept, .go)]

theorem created_once_stopped :
    ∃ state : State Unit, Reach step NotDrained (initial Unit) state ∧
      state.pc .accept = .accepted ∧ state.shared.calls.count .onActorCreated = 1 ∧
        HandlersAfter state.shared.calls := by
  obtain ⟨state, reached, test⟩ := exists_reach_of_runGuarded step NotDrained (initial Unit)
    stoppedFirst (fun state => decide (state.pc .accept = .accepted)) (by decide)
  have accepted := of_decide_eq_true test
  have count := (created_once Unit).2 state reached
  rw [accepted] at count
  exact ⟨state, reached, accepted, count,
    (created_once Unit).1 state (reached.mono fun _ _ _ => trivial)⟩

/-- The session lives to its first frame. -/
def firstFrame : List (Tid Unit × Choice) :=
  [(.accept, .go), (.accept, .go), (.accept, .go), (.accept, .go), (.logic, .go), (.logic, .go),
    (.logic, .go), (.logic, .go)]

/-- **`OnActorCreated` is called twice**, by the accept thread and by the first frame. -/
theorem created_twice :
    ¬ ∀ state : State Unit, Reach step Unguarded (initial Unit) state →
      state.shared.calls.count .onActorCreated ≤ 1 := by
  intro once
  obtain ⟨state, reached, test⟩ := exists_reach_of_run step (initial Unit) firstFrame
    (fun state => decide (state.shared.calls.count .onActorCreated = 2)) (by decide)
  have most := once state reached
  rw [of_decide_eq_true test] at most
  exact absurd most (by decide)

end Runs

end ActorModelServer.SessionCreation
