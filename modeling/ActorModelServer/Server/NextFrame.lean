/-
**Answered by the next frame.**

What an actor has accepted before a call of `ProcessMessage` is executed when the call returns, or
the actor was stopped: the swap takes all of it, the loop leaves nothing behind, and what comes
meanwhile goes into the other queue (`Served.move`). A message that is not running any more has done
everything it does (`Answering`).

* `answered_by_frame` — so when `ProcessMessage` returns, `sendQueue` has got everything that the
  messages send which were accepted before it was called, in order, and nothing twice.
-/

import ActorModelServer.Server.Answers

namespace ActorModelServer.Actor

open StepRuns (Reach)
open ThreadTable (threadStep_moved)

universe u v

section Served

variable {Body : Type u} {batch : List (Entry Body)}

/-- Where a batch of messages is while the logic thread is at a place: a front of what was executed
and of what this call of `ProcessMessage` will execute. -/
def Served (batch : List (Entry Body)) (pc : Pc Body) (mailbox : Mailbox Body) : Prop :=
  mailbox.isStop = true ∨
    match pc with
    | .processEntry | .processSwap =>
        batch <+: mailbox.executed ++ mailbox.storeQueue.filter Entry.runs
    | .processLoop => batch <+: mailbox.executed ++ (mailbox.waiting false).filter Entry.runs
    | .processRun => batch <+: mailbox.executed ++ (mailbox.waiting true).filter Entry.runs
    | _ => batch <+: mailbox.executed

/-- **One move keeps the batch on its way.** -/
theorem Served.move {mailbox mailbox' : Mailbox Body} {pc pc' : Pc Body}
    (served : Served batch pc mailbox) (moved : Moves mailbox pc mailbox' pc') :
    Served batch pc' mailbox' := by
  rcases served with stopped | served
  · refine .inl ?_
    cases moved <;> first | exact stopped | rfl
  · cases moved with
    | stays => exact .inr served
    | stopped => exact .inl rfl
    | pushed pc message =>
        refine .inr ?_
        cases pc with
        | processEntry | processSwap =>
            refine served.trans ?_
            simp [Mailbox.push, List.filter_append]
        | _ => exact served
    | entered => exact .inr (served.trans (List.prefix_append _ _))
    | refused stopped => exact .inl stopped
    | checked => exact .inr served
    | swapped => exact .inr served
    | drained none =>
        have served : batch <+: mailbox.executed ++ mailbox.consumerQueue.filter Entry.runs :=
          served
        rw [none, List.filter_nil, List.append_nil] at served
        exact .inr served
    | skipped entry rest front null =>
        have served : batch <+: mailbox.executed ++ mailbox.consumerQueue.filter Entry.runs :=
          served
        rw [front, List.filter_cons_of_neg (by simp [null])] at served
        refine .inr ?_
        show batch <+: mailbox.executed ++ mailbox.consumerQueue.tail.filter Entry.runs
        rwa [front, List.tail_cons]
    | started entry rest front runs =>
        have served : batch <+: mailbox.executed ++ mailbox.consumerQueue.filter Entry.runs :=
          served
        rw [front, List.filter_cons_of_pos runs, List.append_cons] at served
        refine .inr ?_
        show batch <+: mailbox.executed ++ [entry] ++ mailbox.consumerQueue.tail.filter Entry.runs
        rwa [front, List.tail_cons]
    | finished => exact .inr served

variable {Sender : Type v} [DecidableEq Sender] {state after : State Body Sender}
  {label : Tid Sender × Choice Body}

theorem Served.step (ordered : Ordered state)
    (served : Served batch (state.pc .logic).base state.shared)
    (taken : Actor.step state label = some after) :
    Served batch (after.pc .logic).base after.shared := by
  obtain ⟨thread, choice⟩ := label
  obtain ⟨acted, others⟩ := threadStep_moved taken
  have moved := act_moves acted
  cases thread with
  | logic => exact served.move moved
  | sender name =>
      rw [others .logic (by simp)]
      dsimp only at moved
      rw [ordered.senders name] at moved
      exact served.move (sender_move moved _).2

/-- A call of `ProcessMessage` takes up everything that was accepted. -/
theorem served_of_process (ordered : Ordered state)
    (taken : Actor.step state (.logic, .process) = some after) :
    Served (state.shared.accepted.filter Entry.runs) (after.pc .logic).base after.shared := by
  obtain ⟨acted, -⟩ := threadStep_moved taken
  have settled := ordered.settled
  dsimp only at acted
  generalize state.pc .logic = pc at acted settled
  generalize after.pc .logic = pc' at acted ⊢
  cases pc with
  | logic =>
      obtain ⟨same, rfl⟩ := Prod.mk.inj (Option.some.inj acted)
      refine .inr ?_
      have order := settled.accounted.order
      have drained : state.shared.consumerQueue = [] := settled.drained rfl
      have waits : state.shared.waiting (isRunning (Pc.base (.logic : Pc Body))) = [] := drained
      rw [waits, List.filter_nil, List.append_nil] at order
      rw [order, same]
      exact List.prefix_refl _
  | _ => cases acted

end Served

end ActorModelServer.Actor

namespace ActorModelServer.Pipeline

open Actor (Entry Served)
open StepRuns (Reach run reach_of_run)

universe u v w

section Frames

variable {Message : Type u} {Buffer : Type v} {Io : Type} {Name : Type w} [DecidableEq Io]
  [DecidableEq Name] {setup : Setup Message Buffer}
  {before entered after : World Message Buffer Io Name}
  {guard : World Message Buffer Io Name → Label Message Buffer Io Name → Prop}

/-- The actor's step of a call of `ProcessMessage`. -/
theorem actorStep_of_process (taken : step setup before (.logic .process) = some entered) :
    Actor.step before.actor (.logic, .process) = some entered.actor := by
  cases moved_of_step taken with
  | logic choice actor outside stepped => exact stepped
  | looped choice actor place stepped =>
      obtain ⟨acted, -⟩ := ThreadTable.threadStep_moved stepped
      dsimp only at acted
      rw [place] at acted
      cases acted

/-- **Answered by the next frame**, in every run: when the call of `ProcessMessage` has returned,
what the messages send that were accepted before it is in `sendQueue`'s history, in order and at
its front, unless the actor was stopped; and there is nothing in it but what executed messages
send, once for each. -/
theorem answered_by_frame
    (reached : Reach (step setup) guard (initial Message Buffer Io Name) before)
    (allowed : guard before (.logic .process))
    (calls : step setup before (.logic .process) = some entered)
    (ran : Reach (step setup) guard entered after) (returned : after.actor.pc .logic = .logic) :
    (after.actor.shared.isStop = true ∨
        before.actor.shared.accepted.flatMap setup.answers <+: after.session.shared.enqueued) ∧
      after.session.shared.enqueued = after.actor.shared.executed.flatMap setup.answers := by
  have begun : Reach (step setup) guard (initial Message Buffer Io Name) entered :=
    .step reached allowed calls
  have answering := answering_of_reach (begun.trans ran)
  have sent : after.session.shared.enqueued =
      after.actor.shared.executed.flatMap setup.answers := by
    have sent := answering.sent
    rw [answering.idle (by rw [returned]; simp [Actor.Pc.base])] at sent
    simpa [sends] using sent
  have served : Actor.Ordered after.actor ∧
      Served (before.actor.shared.accepted.filter Entry.runs) (after.actor.pc .logic).base
        after.actor.shared := by
    refine ran.invariant (fun world => Actor.Ordered world.actor ∧
      Served (before.actor.shared.accepted.filter Entry.runs) (world.actor.pc .logic).base
        world.actor.shared) ?_ ?_
    · have stepped := actorStep_of_process calls
      exact ⟨Actor.ordered_of_reach (actorRun begun),
        Actor.served_of_process (Actor.ordered_of_reach (actorRun reached)) stepped⟩
    · rintro middle label next ⟨ordered, served⟩ - taken
      rcases (moved_of_step taken).actor_step with same | ⟨actorLabel, stepped⟩
      · rw [same]
        exact ⟨ordered, served⟩
      · exact ⟨ordered.step stepped, served.step ordered stepped⟩
  refine ⟨served.2.imp_right fun executed => ?_, sent⟩
  rw [returned] at executed
  have executed : before.actor.shared.accepted.filter Entry.runs <+: after.actor.shared.executed :=
    executed
  rw [sent, ← flatMap_filter_runs]
  exact executed.flatMap setup.answers

/-- The ping has been accepted and nothing sent; the frame sends the pong. -/
theorem answered_by_frame_ping :
    ∃ before after : World PlayerMessage (List UInt8) Unit Unit,
      before.session.shared.enqueued = [] ∧
        before.actor.shared.accepted.flatMap pinged.answers = [[2, 0, 0, 0]] ∧
        [[2, 0, 0, 0]] <+: after.session.shared.enqueued := by
  have executed : ((run (step pinged) (initial PlayerMessage (List UInt8) Unit Unit)
      (pingSchedule.take 22)).bind fun before =>
        (step pinged before (.logic .process)).bind fun entered =>
          (run (step pinged) entered (pingSchedule.drop 23)).map fun after =>
            decide (before.session.shared.enqueued = [] ∧
              before.actor.shared.accepted.flatMap pinged.answers = [[2, 0, 0, 0]] ∧
              after.actor.pc .logic = .logic ∧ after.actor.shared.isStop = false)) = some true := by
    decide +kernel
  obtain ⟨before, front, executed⟩ := Option.bind_eq_some_iff.mp executed
  obtain ⟨entered, calls, executed⟩ := Option.bind_eq_some_iff.mp executed
  obtain ⟨after, back, tested⟩ := Option.map_eq_some_iff.mp executed
  obtain ⟨unsent, answers, returned, running⟩ := of_decide_eq_true tested
  have answered := (answered_by_frame (reach_of_run front) trivial calls (reach_of_run back)
    returned).1
  rw [answers] at answered
  exact ⟨before, after, unsent, answers, answered.resolve_left (by simp [running])⟩

end Frames

end ActorModelServer.Pipeline
