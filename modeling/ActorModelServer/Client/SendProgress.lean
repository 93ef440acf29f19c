/-
**The send thread of the test client gets on.**

What `unsent_awaited` excludes at one moment is excluded for ever under fairness: the send thread
goes on when it can, and who is inside `SendPacket` gets out of it. Every step of the send thread
brings a pushed buffer nearer to its `send` (`SenderMoves.nearer`), and where the send thread waits
for the semaphore, a caller has the release still ahead (`Pending.releasing`).

* `eventually_sent` — every buffer that was pushed is given to `send`, or the client stops.
* `eventually_done_iff` — a client that stops ends its send thread exactly when the thread does not
  wait for the semaphore at some later moment, or finds it released.
-/

import ActorModelServer.Client.SendThread
import ActorModelServer.Library.Fairness

namespace ActorModelServer.ClientSend

open ThreadTable (threadStep_eq_some threadStep_moved enabled_of_act)
open StepRuns (Trace Enabled run exists_trace_of_run)

universe u v

/-! ### Every buffer is sent -/

section Progress

variable {Buffer : Type u} {Caller : Type v} [DecidableEq Caller] {lib : BufferLib Buffer}
  {state after : State Buffer Caller} {label : Tid Caller × Choice Buffer}

/-- The send thread goes on when it can, every `send` returns, and whoever is in `SendPacket` gets
on there. -/
structure Fair (trace : Trace (step lib) (initial Buffer Caller)) : Prop where
  sender : trace.Fair fun label => label.1 = .sendThread
  callers : ∀ name, trace.Fair fun label => label = (.caller name, .go)

/-- Nothing keeps the send thread from its next step. -/
def Ready (state : State Buffer Caller) : Prop :=
  state.pc .sendThread ≠ .done ∧
    (state.pc .sendThread = .waiting → 0 < state.shared.sendThreadEventHandle)

theorem enabled_of_ready (orderly : Orderly state) (ready : Ready state) :
    Enabled (step lib) (fun label => label.1 = .sendThread) state := by
  have acts : ∃ choice outbox pc,
      act lib state.shared (state.pc .sendThread) choice = some (outbox, pc) := by
    have place := orderly.sender.place
    have defined := orderly.sender.defined
    obtain ⟨unfinished, positive⟩ := ready
    generalize state.pc .sendThread = pc at place defined unfinished positive
    cases pc with
    | caller | pushing | releasing => cases place
    | undefined => exact absurd rfl defined
    | done => exact absurd rfl unfinished
    | waiting =>
        have released := positive rfl
        exact ⟨.go, _, _, if_neg (by omega)⟩
    | popLoop restSize =>
        cases restSize with
        | zero => exact ⟨.go, _, _, rfl⟩
        | succ restSize =>
            cases front : state.shared.sendBufferQueue with
            | nil => exact ⟨.go, state.shared, .undefined, by simp [act, front]⟩
            | cons buffer rest =>
                exact ⟨.go, { state.shared with sendBufferQueue := rest },
                  .sending buffer restSize, by simp [act, front]⟩
    | sending buffer restSize =>
        exact ⟨.sendReturns none, state.shared.send buffer none, .failed buffer, by simp [act]⟩
    | loopHead | takeSize | freeing | failed | freeingLast => exact ⟨.go, _, _, rfl⟩
  obtain ⟨choice, outbox, pc, acted⟩ := acts
  exact enabled_of_act .sendThread choice rfl acted

theorem orderly_always (trace : Trace (step lib) (initial Buffer Caller)) (time : ℕ) :
    Orderly (trace.state time) :=
  trace.always orderly_initial (fun _ _ _ orderly taken => orderly.step taken) time

/-- How many steps the send thread is from handing over its next buffer. -/
def Pc.distance (released : Bool) : Pc Buffer → ℕ
  | .freeing _ _ => 9
  | .popLoop 0 => 8
  | .loopHead => 7
  | .waiting => if released then 5 else 6
  | .takeSize => 4
  | .popLoop (_ + 1) => 3
  | .sending _ _ => 2
  | .failed _ => 1
  | _ => 0

/-- How far a buffer is from its `send`. -/
def remaining (index : ℕ) (state : State Buffer Caller) : ℕ :=
  10 * (index + 1 - state.shared.sends.length) +
    (state.pc .sendThread).distance (0 < state.shared.sendThreadEventHandle)

/-- A buffer was pushed and `send` has not got it yet. -/
structure Pending (index : ℕ) (state : State Buffer Caller) : Prop where
  orderly : Orderly state
  pushed : index < state.shared.pushed.length
  unsent : state.shared.sends.length ≤ index
  running : state.shared.needStop = false

/-- The buffer is sent, or the client stops. -/
def SentOrStopped (index : ℕ) (state : State Buffer Caller) : Prop :=
  index < state.shared.sends.length ∨ state.shared.needStop = true

/-- A step of the send thread brings the buffer nearer to its `send`. -/
theorem SenderMoves.nearer {index : ℕ} {outbox outbox' : Outbox Buffer} {pc pc' : Pc Buffer}
    (ordered : Ordered outbox pc) (pushed : index < outbox.pushed.length)
    (unsent : outbox.sends.length ≤ index) (running : outbox.needStop = false)
    (small : outbox.sendBufferQueue.length < 2 ^ 31)
    (moved : SenderMoves lib outbox pc outbox' pc') :
    index < outbox'.sends.length ∨ outbox'.needStop = true ∨
      10 * (index + 1 - outbox'.sends.length) + pc'.distance (0 < outbox'.sendThreadEventHandle) <
        10 * (index + 1 - outbox.sends.length) +
          pc.distance (0 < outbox.sendThreadEventHandle) := by
  cases moved with
  | ended stopped =>
      rw [running] at stopped
      cases stopped
  | looped running =>
      refine .inr (.inr ?_)
      simp only [Pc.distance]
      split <;> omega
  | signaled positive =>
      refine .inr (.inr ?_)
      simp [Pc.distance, positive]
  | sized =>
      have length := ordered.length_sends rfl
      have counted := toInt_eq small
      refine .inr (.inr ?_)
      rw [counted]
      obtain ⟨more, queued⟩ : ∃ more, outbox.sendBufferQueue.length = more + 1 :=
        ⟨outbox.sendBufferQueue.length - 1, by omega⟩
      rw [queued]
      simp [Pc.distance]
  | drained => exact .inr (.inr (by simp [Pc.distance]))
  | overrun restSize none =>
      have enough := ordered.enough
      rw [none] at enough
      exact absurd enough (Nat.not_succ_le_zero restSize)
  | popped restSize buffer rest front => exact .inr (.inr (by simp [Pc.distance]))
  | sent buffer restSize sendSize most =>
      refine .inr (.inr ?_)
      simp only [Outbox.send, List.length_append, List.length_singleton, Pc.distance]
      omega
  | refused buffer restSize =>
      refine .inr (.inr ?_)
      simp only [Outbox.send, List.length_append, List.length_singleton, Pc.distance]
      omega
  | freed buffer restSize =>
      refine .inr (.inr ?_)
      cases restSize <;> simp [Outbox.free, Pc.distance]
  | gaveUp buffer => exact .inr (.inl rfl)
  | freedLast buffer =>
      have stopped := ordered.failures.2
      rw [running] at stopped
      cases stopped

/-- No caller takes a release back. -/
theorem CallerMoves.keepsRelease {outbox outbox' : Outbox Buffer} {pc pc' : Pc Buffer}
    (moved : CallerMoves lib outbox pc outbox' pc') (positive : 0 < outbox.sendThreadEventHandle) :
    0 < outbox'.sendThreadEventHandle := by
  cases moved with
  | woken | released => exact releaseSemaphore_pos outbox
  | stays | entered | stopped | pushed => exact positive

/-- A step of a caller does not take the buffer away from its `send`. -/
theorem CallerMoves.nearer {outbox outbox' : Outbox Buffer} {place pc pc' : Pc Buffer}
    (moved : CallerMoves lib outbox pc outbox' pc') :
    place.distance (0 < outbox'.sendThreadEventHandle) ≤
      place.distance (0 < outbox.sendThreadEventHandle) := by
  cases place with
  | waiting =>
      by_cases positive : 0 < outbox.sendThreadEventHandle
      · simp [Pc.distance, positive, moved.keepsRelease positive]
      · simp only [Pc.distance, positive, decide_false, Bool.false_eq_true, if_false]
        split <;> omega
  | popLoop restSize => cases restSize <;> exact Nat.le_refl _
  | _ => exact Nat.le_refl _

/-- **A step on the way.** -/
theorem pending_step {index : ℕ} (pending : Pending index state)
    (small : state.shared.sendBufferQueue.length < 2 ^ 31)
    (taken : step lib state label = some after) :
    SentOrStopped index after ∨
      Pending index after ∧ remaining index after ≤ remaining index state ∧
        (label.1 = .sendThread → remaining index after < remaining index state) := by
  obtain ⟨orderly, pushed, unsent, running⟩ := pending
  by_cases goal : SentOrStopped index after
  · exact .inl goal
  obtain ⟨left, runs⟩ := not_or.mp goal
  have runs' : after.shared.needStop = false := by simpa using runs
  refine .inr ?_
  rcases step_cases orderly taken with ⟨own, moved, -⟩ | ⟨name, other, moved, sender, -⟩
  · have lower : remaining index after < remaining index state := by
      rcases moved.nearer orderly.sender pushed unsent running small with sent | stopped | lower
      · exact absurd sent left
      · exact absurd stopped runs
      · exact lower
    refine ⟨⟨orderly.step taken, ?_, Nat.not_lt.mp left, runs'⟩, lower.le, fun _ => lower⟩
    rw [moved.pushed]
    exact pushed
  · have grows := moved.grows
    refine ⟨⟨orderly.step taken, ?_, Nat.not_lt.mp left, runs'⟩, ?_, fun own => ?_⟩
    · obtain ⟨added, -, more⟩ := grows.grown
      rw [more, List.length_append]
      omega
    · unfold remaining
      rw [grows.sends, sender]
      exact Nat.add_le_add_left moved.nearer _
    · rw [own] at other
      cases other

omit [DecidableEq Caller] in
/-- From a waiting thread that nobody has woken: a caller will. -/
theorem Pending.releasing {index : ℕ} (pending : Pending index state) (awaited : Awaited state)
    (unready : ¬ Ready state) :
    state.pc .sendThread = .waiting ∧ ∃ name, state.pc (.caller name) = .releasing := by
  obtain ⟨orderly, pushed, unsent, running⟩ := pending
  have unfinished : state.pc .sendThread ≠ .done := by
    intro done
    have failures := orderly.sender.failures
    rw [done] at failures
    have stopped : state.shared.needStop = true := failures.2
    rw [running] at stopped
    cases stopped
  have waits : state.pc .sendThread = .waiting ∧ ¬ 0 < state.shared.sendThreadEventHandle := by
    by_contra other
    exact unready ⟨unfinished, fun waits => by_contra fun count => other ⟨waits, count⟩⟩
  refine ⟨waits.1, ?_⟩
  have length := orderly.sender.length_sends (by rw [waits.1]; rfl)
  rcases awaited with committed | counted | positive | stopped | releasing
  · rw [waits.1] at committed
    cases committed
  · rw [waits.1] at counted
    have : state.shared.sendBufferQueue.length ≤ 0 := counted
    omega
  · exact absurd positive waits.2
  · rw [running] at stopped
    cases stopped
  · exact releasing

section Traces

variable {trace : Trace (step lib) (initial Buffer Caller)} {time index : ℕ}

theorem awaited_always
    (small : ∀ time, (trace.state time).shared.sendBufferQueue.length < 2 ^ 31) (time : ℕ) :
    Awaited (trace.state time) := by
  induction time with
  | zero =>
      rw [trace.begins]
      exact .inr (.inl (Nat.le_refl 0))
  | succ time ih =>
      exact Awaited.step (orderly_always trace time) ih (small time) (trace.steps time)

/-- The goal, or the buffer gets nearer, when the step that is due is fair. -/
theorem descends_of_fair {Kind : Tid Caller × Choice Buffer → Prop} (fair : trace.Fair Kind)
    (small : ∀ time, (trace.state time).shared.sendBufferQueue.length < 2 ^ 31)
    (Due : State Buffer Caller → Prop) (pending : Pending index (trace.state time))
    (due : Due (trace.state time))
    (enabled : ∀ state, Pending index state → Due state → Enabled (step lib) Kind state)
    (kept : ∀ state label after, Pending index state → Due state →
      step lib state label = some after → label.1 ≠ .sendThread →
        remaining index after = remaining index state → Due after ∧ ¬ Kind label) :
    trace.Later time fun state => SentOrStopped index state ∨
      Pending index state ∧ remaining index state < remaining index (trace.state time) := by
  refine Trace.later_of_fair fair (fun state => Pending index state ∧ Due state ∧
    remaining index state = remaining index (trace.state time)) ⟨pending, due, rfl⟩ ?_ ?_
  · exact fun later _ holds => enabled _ holds.1 holds.2.1
  · rintro later - ⟨pending, due, same⟩
    rcases pending_step pending (small later) (trace.steps later) with
      goal | ⟨pending', lower, own⟩
    · exact .inr (.inl goal)
    · rcases Nat.lt_or_eq_of_le lower with less | equal
      · exact .inr (.inr ⟨pending', same ▸ less⟩)
      · have other : (trace.label later).1 ≠ .sendThread := fun sender => (own sender).ne equal
        obtain ⟨due', unkind⟩ := kept _ _ _ pending due (trace.steps later) other equal
        exact .inl ⟨⟨pending', due', equal.trans same⟩, unkind⟩

/-- From a pending buffer on, it gets nearer. -/
theorem pending_descends (fair : Fair trace)
    (small : ∀ time, (trace.state time).shared.sendBufferQueue.length < 2 ^ 31)
    (pending : Pending index (trace.state time)) :
    trace.Later time fun state => SentOrStopped index state ∨
      Pending index state ∧ remaining index state < remaining index (trace.state time) := by
  by_cases ready : Ready (trace.state time)
  · refine descends_of_fair fair.sender small Ready pending ready ?_ ?_
    · exact fun state pending ready => enabled_of_ready pending.orderly ready
    · intro state label after pending ready taken other same
      refine ⟨?_, other⟩
      rcases step_cases pending.orderly taken with ⟨own, -⟩ | ⟨name, -, moved, sender, -⟩
      · exact absurd own other
      · rw [Ready, sender]
        exact ⟨ready.1, fun waits => moved.keepsRelease (ready.2 waits)⟩
  · -- a caller has pushed, and is about to release the semaphore
    obtain ⟨waits, name, releasing⟩ := pending.releasing (awaited_always small time) ready
    have unreleased : ¬ 0 < (trace.state time).shared.sendThreadEventHandle := by
      refine fun positive => ready ⟨?_, fun _ => positive⟩
      rw [waits]
      exact fun same => by cases same
    refine descends_of_fair (fair.callers name) small
      (fun state => state.pc .sendThread = .waiting ∧ ¬ 0 < state.shared.sendThreadEventHandle ∧
        state.pc (.caller name) = .releasing) pending ⟨waits, unreleased, releasing⟩ ?_ ?_
    · rintro state - ⟨-, -, releasing⟩
      have acted : act lib state.shared (state.pc (.caller name)) .go =
          some (state.shared.releaseSemaphore, .caller) := by
        rw [releasing]
        rfl
      exact enabled_of_act (.caller name) .go rfl acted
    · rintro state label after pending ⟨waits, unreleased, releasing⟩ taken other same
      rcases step_cases pending.orderly taken with ⟨own, -⟩ | ⟨mover, own, moved, sender, callers⟩
      · exact absurd own other
      · have unreleased' : ¬ 0 < after.shared.sendThreadEventHandle := by
          intro positive
          unfold remaining at same
          rw [moved.grows.sends, sender, waits] at same
          simp [Pc.distance, positive, unreleased] at same
        have different : name ≠ mover := by
          rintro rfl
          rw [releasing] at moved
          generalize after.shared = outbox, after.pc (.caller name) = pc at moved unreleased'
          cases moved
          exact unreleased' (releaseSemaphore_pos _)
        refine ⟨⟨sender.trans waits, unreleased', (callers name different).trans releasing⟩, ?_⟩
        rintro rfl
        cases own
        exact different rfl

/-- **Every buffer is sent**: in every fair run in which the size of the queue fits an `int`, each
buffer that was pushed is given to `send` in the end, or the client stops. -/
theorem eventually_sent (fair : Fair trace)
    (small : ∀ time, (trace.state time).shared.sendBufferQueue.length < 2 ^ 31)
    (pushed : index < (trace.state time).shared.pushed.length) :
    trace.Later time (SentOrStopped index) := by
  by_cases goal : SentOrStopped index (trace.state time)
  · exact .now goal
  · obtain ⟨unsent, running⟩ := not_or.mp goal
    have pending : Pending index (trace.state time) :=
      ⟨orderly_always trace time, pushed, Nat.not_lt.mp unsent, by simpa using running⟩
    exact Trace.later_of_rank (remaining index) (Pending index) pending fun later _ pending =>
      pending_descends fair small pending

/-! ### The send thread ends -/

theorem needStop_lasts (stopped : (trace.state time).shared.needStop = true) :
    ∀ later, time ≤ later → (trace.state later).shared.needStop = true := by
  refine Trace.lasts (fun state : State Buffer Caller => state.shared.needStop = true) stopped ?_
  intro later _ stopped
  rcases step_cases (orderly_always trace later) (trace.steps later) with
    ⟨-, moved, -⟩ | ⟨name, -, moved, -⟩
  · generalize (trace.state later).pc .sendThread = pc at moved
    generalize (trace.state (later + 1)).pc .sendThread = pc' at moved
    generalize (trace.state (later + 1)).shared = outbox at moved ⊢
    cases moved <;> first | exact stopped | rfl
  · exact moved.grows.stops stopped

/-- The send thread takes its next step. -/
theorem sender_moves (fair : Fair trace) {place : Pc Buffer}
    (stopped : (trace.state time).shared.needStop = true)
    (here : (trace.state time).pc .sendThread = place) (ready : Ready (trace.state time)) :
    trace.Later time fun state : State Buffer Caller => Orderly state ∧
      ∃ outbox : Outbox Buffer, outbox.needStop = true ∧
        SenderMoves lib outbox place state.shared (state.pc .sendThread) := by
  refine Trace.later_of_fair fair.sender (fun state => state.pc .sendThread = place ∧ Ready state)
    ⟨here, ready⟩ ?_ ?_
  · exact fun later _ holds => enabled_of_ready (orderly_always trace later) holds.2
  · rintro later order ⟨here, ready⟩
    rcases step_cases (orderly_always trace later) (trace.steps later) with
      ⟨-, moved, -⟩ | ⟨name, own, moved, sender, -⟩
    · rw [here] at moved
      exact .inr ⟨orderly_always trace _, _, needStop_lasts stopped later order, moved⟩
    · have other : (trace.label later).1 ≠ .sendThread := by
        rw [own]
        exact fun same => by cases same
      refine .inl ⟨⟨sender.trans here, ?_⟩, other⟩
      rw [Ready, sender]
      exact ⟨ready.1, fun waits => moved.keepsRelease (ready.2 waits)⟩

/-- How far the loop of `DoSend` is from its end. -/
def Pc.steps : Pc Buffer → ℕ
  | .sending _ restSize => 3 * restSize + 4
  | .freeing _ restSize => 3 * restSize + 3
  | .popLoop restSize => 3 * restSize + 2
  | .failed _ => 3
  | .freeingLast _ => 2
  | .loopHead => 1
  | _ => 0

/-- Behind the size of the queue, the loop ends, and the send thread with it. -/
theorem done_of_steps (fair : Fair trace) (stopped : (trace.state time).shared.needStop = true)
    (inside : 0 < ((trace.state time).pc .sendThread).steps) :
    trace.Later time fun state => state.pc .sendThread = .done := by
  refine Trace.later_of_rank (fun state => (state.pc .sendThread).steps)
    (fun state => 0 < (state.pc .sendThread).steps) inside ?_
  intro later order inside
  have ready : Ready (trace.state later) := by
    constructor
    · intro done
      rw [done] at inside
      exact absurd inside (Nat.lt_irrefl 0)
    · intro waits
      rw [waits] at inside
      exact absurd inside (Nat.lt_irrefl 0)
  refine (sender_moves fair (needStop_lasts stopped later order) rfl ready).mono ?_
  rintro state ⟨orderly, outbox, stopped, moved⟩
  have defined := orderly.sender.defined
  generalize (trace.state later).pc .sendThread = place at moved inside
  generalize state.shared = outbox', state.pc .sendThread = next at moved defined
  cases moved with
  | ended => exact .inl rfl
  | looped running =>
      rw [stopped] at running
      cases running
  | signaled | sized => exact absurd inside (Nat.lt_irrefl 0)
  | overrun => exact absurd rfl defined
  | drained | popped | sent | refused | freed | gaveUp | freedLast =>
      refine .inr ⟨?_, ?_⟩ <;> simp only [Pc.steps] <;> omega

/-- **The send thread ends**, in every fair run, exactly when it does not wait any more once
`needStop` is set, or the semaphore is released again. -/
theorem eventually_done_iff (fair : Fair trace)
    (stopped : (trace.state time).shared.needStop = true) :
    (trace.Later time fun state => state.pc .sendThread = .done) ↔
      trace.Later time fun state =>
        state.pc .sendThread = .waiting → 0 < state.shared.sendThreadEventHandle := by
  constructor
  · intro ends
    refine ends.mono fun state done waits => ?_
    rw [done] at waits
    cases waits
  · intro woken
    refine woken.trans fun later order awake => ?_
    have stopped' := needStop_lasts stopped later order
    have sized {moment : ℕ} (onward : time ≤ moment)
        (place : (trace.state moment).pc .sendThread = .takeSize) :
        trace.Later moment fun state => state.pc .sendThread = .done := by
      have stopped := needStop_lasts stopped moment onward
      have ready : Ready (trace.state moment) := by simp [Ready, place]
      refine (sender_moves fair stopped place ready).trans fun last more => ?_
      rintro ⟨-, outbox, -, moved⟩
      refine done_of_steps fair (needStop_lasts stopped last more) ?_
      generalize (trace.state last).shared = outbox' at moved
      generalize (trace.state last).pc .sendThread = next at moved
      cases moved
      exact Nat.succ_pos _
    have sender := (orderly_always trace later).sender
    cases place : (trace.state later).pc .sendThread with
    | caller | pushing | releasing =>
        rw [place] at sender
        cases sender.place
    | undefined => exact absurd place sender.defined
    | done => exact .now place
    | takeSize => exact sized order place
    | waiting =>
        have ready : Ready (trace.state later) := ⟨by simp [place], awake⟩
        refine (sender_moves fair stopped' place ready).trans fun last more => ?_
        rintro ⟨-, outbox, -, moved⟩
        refine sized (Nat.le_trans order more) ?_
        generalize (trace.state last).shared = outbox' at moved
        generalize (trace.state last).pc .sendThread = next at moved
        cases moved
        rfl
    | loopHead | popLoop | sending | freeing | failed | freeingLast =>
        exact done_of_steps fair stopped' (by rw [place]; exact Nat.succ_pos _)

end Traces

/-! ### Two fair runs -/

section FairRuns

/-- A caller does something else. -/
theorem step_other {state : State Buffer Caller} {name : Caller}
    (idle : state.pc (.caller name) = .caller) :
    step lib state (.caller name, .other) = some state := by
  refine threadStep_eq_some.mpr ⟨state.shared, .caller, ?_, ?_⟩
  · show act lib state.shared (state.pc (.caller name)) .other = _
    rw [idle]
    rfl
  · rw [← idle, Function.update_eq_self]

/-- A run is fair when in the end no caller is in `SendPacket`, and the send thread waits or is
done. -/
theorem fair_of_rest {trace : Trace (step lib) (initial Buffer Caller)} {bound : ℕ}
    {last : State Buffer Caller} (rests : ∀ time, bound ≤ time → trace.state time = last)
    (idle : ∀ name, last.pc (.caller name) = .caller)
    (ended : last.pc .sendThread = .done ∨
      last.pc .sendThread = .waiting ∧ last.shared.sendThreadEventHandle = 0) : Fair trace where
  sender := by
    refine Trace.fair_of_settled bound fun later order => ?_
    rintro ⟨⟨thread, choice⟩, next, rfl, taken⟩
    obtain ⟨acted, -⟩ := threadStep_moved taken
    rw [rests later order] at acted
    rcases ended with done | ⟨waits, unreleased⟩
    · rw [done] at acted
      cases choice <;> cases acted
    · rw [waits] at acted
      cases choice with
      | go => simp [act, unreleased] at acted
      | _ => cases acted
  callers := by
    intro name
    refine Trace.fair_of_settled bound fun later order => ?_
    rintro ⟨-, next, rfl, taken⟩
    obtain ⟨acted, -⟩ := threadStep_moved taken
    rw [rests later order, idle name] at acted
    cases acted

theorem eventually_sent_resting :
    ∃ trace : Trace (step numberLib) (initial (List ℕ) Bool), Fair trace ∧
      (trace.state 2).shared.sends = [] ∧ trace.Later 2 (SentOrStopped 0) := by
  obtain ⟨last, executed, rests⟩ := Option.map_eq_some_iff.mp
    (show (run (step numberLib) (initial (List ℕ) Bool) sentSchedule).map
      (fun state => decide (Resting state)) = some true by decide)
  obtain ⟨waits, unreleased, -, idle⟩ := of_decide_eq_true rests
  obtain ⟨trace, fronts, -, ends⟩ :=
    exists_trace_of_run sentSchedule executed (step_other (idle true))
  have fair : Fair trace :=
    fair_of_rest (fun time order => (ends time order).1) idle (.inr ⟨waits, unreleased⟩)
  have short : ∀ front ∈ sentSchedule.inits,
      ((run (step numberLib) (initial (List ℕ) Bool) front).all
        fun state => state.shared.sendBufferQueue.length ≤ 1) = true := by decide
  have small (time : ℕ) : (trace.state time).shared.sendBufferQueue.length < 2 ^ 31 := by
    have length := short (sentSchedule.take time) ((List.mem_inits _ _).mpr (List.take_prefix _ _))
    rw [fronts time] at length
    have : (trace.state time).shared.sendBufferQueue.length ≤ 1 := by simpa using length
    omega
  have second : (run (step numberLib) (initial (List ℕ) Bool) (sentSchedule.take 2)).map
      (fun state => (state.shared.pushed.length, state.shared.sends)) = some (1, []) := by decide
  rw [fronts 2] at second
  obtain ⟨pushed, unsent⟩ := Prod.mk.inj (Option.some.inj second)
  exact ⟨trace, fair, unsent, eventually_sent fair small (by omega)⟩

/-- The send thread waits when the client is told to stop, and is woken. -/
def stoppedSchedule : List (Tid Bool × Choice (List ℕ)) :=
  [(.sendThread, .go), (.caller true, .setNeedStop), (.caller true, .wake), (.sendThread, .go),
   (.sendThread, .go), (.sendThread, .go), (.sendThread, .go)]

theorem eventually_done_woken :
    ∃ trace : Trace (step numberLib) (initial (List ℕ) Bool), Fair trace ∧
      (trace.state 2).pc .sendThread = .waiting ∧
      trace.Later 2 fun state => state.pc .sendThread = .done := by
  obtain ⟨last, executed, rests⟩ := Option.map_eq_some_iff.mp
    (show (run (step numberLib) (initial (List ℕ) Bool) stoppedSchedule).map
      (fun state => decide (state.pc .sendThread = .done ∧
        ∀ name, state.pc (.caller name) = .caller)) = some true by decide)
  obtain ⟨done, idle⟩ := of_decide_eq_true rests
  obtain ⟨trace, fronts, -, ends⟩ :=
    exists_trace_of_run stoppedSchedule executed (step_other (idle true))
  have fair : Fair trace := fair_of_rest (fun time order => (ends time order).1) idle (.inl done)
  have second : (run (step numberLib) (initial (List ℕ) Bool) (stoppedSchedule.take 2)).map
      (fun state => (state.pc .sendThread, state.shared.needStop)) = some (.waiting, true) := by
    decide
  have third : (run (step numberLib) (initial (List ℕ) Bool) (stoppedSchedule.take 3)).map
      (fun state => state.shared.sendThreadEventHandle) = some 1 := by decide
  rw [fronts 2] at second
  rw [fronts 3] at third
  obtain ⟨waits, stopped⟩ := Prod.mk.inj (Option.some.inj second)
  refine ⟨trace, fair, waits, (eventually_done_iff fair stopped).mpr ⟨3, by decide, fun _ => ?_⟩⟩
  have woken : (trace.state 3).shared.sendThreadEventHandle = 1 := Option.some.inj third
  omega

end FairRuns

end Progress

end ActorModelServer.ClientSend
