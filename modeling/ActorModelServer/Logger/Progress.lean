/-
**Every log in time comes to the file.**

The log event is set with every push and reset by the wait that sees it, before the queues are
swapped. So a worker at its wait that finds no event set has nothing in the queue; only the logs
from before `RunLoggerThread` have no event of their own. Of two set events the wait returns the log
event, so a worker that is told to stop stops when the logs end.

* `eventually_written_iff` — in a fair run a log that has entered is written, in its place, exactly
  when the worker swaps the queues once more or has the log already. A log behind the last swap
  never is.
* `eventually_returned` — a worker that is told to stop returns when no more logs are pushed.
-/

import ActorModelServer.Logger.Delivery
import ActorModelServer.Library.Fairness

namespace ActorModelServer.Logger

open StepRuns (Trace Enabled run exists_trace_of_run)

universe u v

/-! ### What the worker still does -/

section Places

/-- The worker swaps the queues once more. -/
def Place.takes : Place → Bool
  | .wait => true
  | .swap _ => true
  | .write _ last => !last
  | .sleep => false
  | .returned => false
  | .crashed => false

/-- `WaitForMultipleObjects` has failed. -/
def Place.failed : Place → Bool
  | .swap .failed => true
  | .crashed => true
  | _ => false

/-- The worker comes back to its wait, and has not looked at the events yet. -/
def Place.listening : Place → Bool
  | .wait => true
  | .write _ last => !last
  | _ => false

end Places

section Progress

variable {Log : Type u} {Caller : Type v} {state after : State Log Caller}
  {logWaitingQueue : List Log} {index : ℕ} {log : Log}

/-- **No event, no log**: only the logs from before the start are in the queue without one. -/
def Signaled (logWaitingQueue : List Log) (state : State Log Caller) : Prop :=
  state.worker.listening = true → state.logEvent = false →
    state.logWaitingQueue = [] ∨ state.entered = logWaitingQueue

/-- What every state has in a run in which the wait does not fail. -/
structure Watched (logWaitingQueue : List Log) (state : State Log Caller) : Prop where
  accounts : Accounts state
  signaled : Signaled logWaitingQueue state
  works : state.worker.failed = false

/-- The log has entered in its place, and the worker is going to have it, or has it. -/
structure Coming (logWaitingQueue : List Log) (index : ℕ) (log : Log)
    (state : State Log Caller) : Prop where
  watched : Watched logWaitingQueue state
  due : logWaitingQueue.length < state.entered.length ∨ state.stopEvent = true
  entered : state.entered[index]? = some log
  takes : state.worker.takes = true ∨
    index < state.logFileStream.length + state.copyLogWaitingQueue.length

/-- The steps of the worker to the log, besides those that write the logs before it. -/
def hops (index : ℕ) (state : State Log Caller) : ℕ :=
  if index < state.logFileStream.length + state.copyLogWaitingQueue.length then
    if state.worker = .sleep then 2 else 1
  else
    match state.worker with
    | .swap _ => 3
    | .wait => 4
    | _ => 5

/-- The steps of the worker until the log is written. -/
def unwritten (index : ℕ) (state : State Log Caller) : ℕ :=
  index - state.logFileStream.length + hops index state

/-- Nothing the worker does brings the log to the file. -/
def Missed (index : ℕ) (state : State Log Caller) : Prop :=
  state.worker.takes = false ∧
    state.logFileStream.length + state.copyLogWaitingQueue.length ≤ index

/-- The steps of the worker until it has returned, when no log is pushed. -/
def unreturned (state : State Log Caller) : ℕ :=
  state.copyLogWaitingQueue.length + state.logWaitingQueue.length +
    (if state.logEvent then 3 else 0) +
    match state.worker with
    | .swap .logHandle => 6
    | .write _ false => 5
    | .wait => 4
    | .swap _ => 3
    | .sleep => 2
    | _ => 1

/-! ### The steps of the worker -/

/-- **What the worker does in one step.** -/
inductive Moved (state : State Log Caller) : State Log Caller → Prop
  | logged (place : state.worker = .wait) (set : state.logEvent = true) :
      Moved state { state with logEvent := false, worker := .swap .logHandle }
  | stopped (place : state.worker = .wait) (unset : state.logEvent = false)
      (set : state.stopEvent = true) :
      Moved state { state with worker := .swap .stopHandle }
  | swapped (result : WaitResult) (place : state.worker = .swap result) :
      Moved state (state.swapQueues result)
  | through (last : Bool) (place : state.worker = .write 0 last) :
      Moved state { state with worker := if last then .returned else .wait }
  | wrote (logSize : ℕ) (last : Bool) (log : Log) (rest : List Log)
      (place : state.worker = .write (logSize + 1) last)
      (copied : state.copyLogWaitingQueue = log :: rest) :
      Moved state { state.writeLogToFile log with
        copyLogWaitingQueue := rest
        worker := .write logSize last }
  | awoke (place : state.worker = .sleep) :
      Moved state { state with
        worker := .write state.copyLogWaitingQueue.length true
        enteredBefore := state.entered }

theorem moved_of_workerStep (stepped : state.workerStep = some after) : Moved state after := by
  unfold State.workerStep at stepped
  split at stepped
  · rename_i place
    split at stepped
    · rename_i set
      cases stepped
      exact .logged place set
    · rename_i unset
      obtain ⟨set, stored⟩ := Option.ite_none_right_eq_some.mp stepped
      cases stored
      exact .stopped place (by simpa using unset) set
  · rename_i result place
    cases stepped
    exact .swapped result place
  · rename_i last place
    cases stepped
    exact .through last place
  · rename_i logSize last place
    split at stepped
    · cases stepped
    · rename_i log rest copied
      cases stepped
      exact .wrote logSize last log rest place copied
  · rename_i place
    cases stepped
    exact .awoke place
  · cases stepped
  · cases stepped

/-- The copy is empty when the worker waits or is about to swap. -/
theorem Accounts.unfilled (accounts : Accounts state)
    (place : state.worker = .wait ∨ ∃ result, state.worker = .swap result) :
    state.copyLogWaitingQueue = [] := by
  have tallies := accounts.tallies
  unfold Tallies at tallies
  rcases place with place | ⟨result, place⟩ <;> rw [place] at tallies <;> exact tallies.1

/-- In `WriteLogImpl` the copy has what is left to write. -/
theorem Accounts.copied {logSize : ℕ} {last : Bool} (accounts : Accounts state)
    (place : state.worker = .write logSize last) :
    state.copyLogWaitingQueue.length = logSize := by
  have tallies := accounts.tallies
  unfold Tallies at tallies
  rw [place] at tallies
  cases last <;> exact tallies.1

theorem Accounts.length_entered (accounts : Accounts state) :
    state.entered.length = state.logFileStream.length + state.copyLogWaitingQueue.length +
      state.logWaitingQueue.length := by
  rw [accounts.entered, List.length_append, List.length_append]

/-- The file has the front of what entered. -/
theorem Accounts.filed (accounts : Accounts state) (entered : state.entered[index]? = some log)
    (long : index < state.logFileStream.length) : state.logFileStream[index]? = some log := by
  rwa [accounts.entered, List.append_assoc, List.getElem?_append_left long] at entered

/-- The worker keeps what was pushed, and the stop event. -/
theorem Moved.entered (moved : Moved state after) :
    after.entered = state.entered ∧ after.stopEvent = state.stopEvent := by
  cases moved <;> exact ⟨rfl, rfl⟩

theorem Moved.works (moved : Moved state after) (works : state.worker.failed = false) :
    after.worker.failed = false := by
  cases moved with
  | logged place set => rfl
  | stopped place unset set => rfl
  | swapped result place =>
      rw [place] at works
      cases result with
      | logHandle => rfl
      | stopHandle => rfl
      | failed => cases works
  | through last place => cases last <;> rfl
  | wrote logSize last log rest place copied => rfl
  | awoke place => rfl

/-- The event is reset before the swap, so what the swap leaves behind has set it again. -/
theorem Moved.signaled (moved : Moved state after) (accounts : Accounts state)
    (signaled : Signaled logWaitingQueue state) : Signaled logWaitingQueue after := by
  intro listens unset
  cases moved with
  | logged place set => cases listens
  | stopped place unset set => cases listens
  | swapped result place => exact .inl (accounts.unfilled (.inr ⟨result, place⟩))
  | through last place =>
      cases last with
      | false => exact signaled (by rw [place]; rfl) unset
      | true => cases listens
  | wrote logSize last log rest place copied =>
      exact signaled (by rw [place]; exact listens) unset
  | awoke place => cases listens

/-- **The worker comes nearer** to a log that it is going to have. -/
theorem Moved.nearer (moved : Moved state after) (accounts : Accounts state)
    (entered : index < state.entered.length) (unwritten' : after.logFileStream.length ≤ index)
    (takes : state.worker.takes = true ∨
      index < state.logFileStream.length + state.copyLogWaitingQueue.length) :
    (after.worker.takes = true ∨
        index < after.logFileStream.length + after.copyLogWaitingQueue.length) ∧
      unwritten index after < unwritten index state := by
  have length := accounts.length_entered
  cases moved with
  | logged place set =>
      refine ⟨.inl rfl, ?_⟩
      have empty := accounts.unfilled (.inl place)
      have behind : ¬ index < state.logFileStream.length + state.copyLogWaitingQueue.length := by
        rw [empty]
        exact Nat.not_lt.mpr unwritten'
      simp only [unwritten, hops, if_neg behind, place]
      omega
  | stopped place unset set =>
      refine ⟨.inl rfl, ?_⟩
      have empty := accounts.unfilled (.inl place)
      have behind : ¬ index < state.logFileStream.length + state.copyLogWaitingQueue.length := by
        rw [empty]
        exact Nat.not_lt.mpr unwritten'
      simp only [unwritten, hops, if_neg behind, place]
      omega
  | swapped result place =>
      have empty := accounts.unfilled (.inr ⟨result, place⟩)
      rw [empty, List.length_nil, Nat.add_zero] at length
      have inside : index < (state.swapQueues result).logFileStream.length +
          (state.swapQueues result).copyLogWaitingQueue.length := length ▸ entered
      have behind : ¬ index < state.logFileStream.length + state.copyLogWaitingQueue.length := by
        rw [empty]
        exact Nat.not_lt.mpr unwritten'
      refine ⟨.inr inside, ?_⟩
      simp only [unwritten, hops, if_pos inside, if_neg behind, place]
      show index - state.logFileStream.length + _ < _
      split <;> omega
  | through last place =>
      have none := accounts.copied place
      have behind : ¬ index < state.logFileStream.length + state.copyLogWaitingQueue.length := by
        rw [none]
        exact Nat.not_lt.mpr unwritten'
      rw [place] at takes
      cases last with
      | false =>
          refine ⟨.inl rfl, ?_⟩
          simp only [unwritten, hops, if_neg behind, place, Bool.false_eq_true, if_false]
          omega
      | true => exact absurd (takes.resolve_left Bool.false_ne_true) behind
  | wrote logSize last log rest place copied =>
      have size := accounts.copied place
      rw [copied, List.length_cons, Nat.add_right_cancel_iff] at size
      have written : (state.writeLogToFile log).logFileStream.length =
          state.logFileStream.length + 1 := by
        rw [State.writeLogToFile, List.length_append, List.length_singleton]
      have unwritten' : state.logFileStream.length + 1 ≤ index := written ▸ unwritten'
      have same : state.logFileStream.length + 1 + rest.length =
          state.logFileStream.length + state.copyLogWaitingQueue.length := by
        rw [copied, List.length_cons]
        omega
      refine ⟨?_, ?_⟩
      · show _ ∨ index < (state.writeLogToFile log).logFileStream.length + rest.length
        rw [written, same]
        rw [place] at takes
        exact takes
      · simp only [unwritten, hops, written, same, place]
        split <;> simp <;> omega
  | awoke place =>
      rw [place] at takes
      have inside := takes.resolve_left Bool.false_ne_true
      refine ⟨.inr inside, ?_⟩
      simp only [unwritten, hops, if_pos inside, place]
      simp

/-- The worker does not go back to the queue behind its last swap. -/
theorem Moved.missed (moved : Moved state after) (missed : Missed index state) :
    Missed index after := by
  obtain ⟨takes, behind⟩ := missed
  cases moved with
  | logged place set => rw [place] at takes; cases takes
  | stopped place unset set => rw [place] at takes; cases takes
  | swapped result place => rw [place] at takes; cases takes
  | through last place =>
      rw [place] at takes
      cases last with
      | false => cases takes
      | true => exact ⟨rfl, behind⟩
  | wrote logSize last log rest place copied =>
      rw [place] at takes
      rw [copied, List.length_cons] at behind
      refine ⟨takes, ?_⟩
      show (state.logFileStream ++ [log]).length + rest.length ≤ index
      rw [List.length_append, List.length_singleton]
      omega
  | awoke place => exact ⟨rfl, behind⟩

/-- **The worker comes nearer to its return.** -/
theorem Moved.lower (moved : Moved state after) (accounts : Accounts state)
    (works : state.worker.failed = false) (going : after.worker ≠ .returned) :
    unreturned after < unreturned state := by
  cases moved with
  | logged place set =>
      simp only [unreturned, place, set]
      simp
  | stopped place unset set =>
      simp only [unreturned, place, unset]
      simp
  | swapped result place =>
      have empty := accounts.unfilled (.inr ⟨result, place⟩)
      rw [place] at works
      cases result with
      | logHandle =>
          simp only [unreturned, State.swapQueues, place, empty]
          simp
      | stopHandle =>
          simp only [unreturned, State.swapQueues, place, empty]
          simp
      | failed => cases works
  | through last place =>
      cases last with
      | false =>
          simp only [unreturned, place]
          simp
      | true => exact absurd rfl going
  | wrote logSize last log rest place copied =>
      simp only [unreturned, State.writeLogToFile, place, copied, List.length_cons]
      cases last <;> simp
  | awoke place =>
      simp only [unreturned, place]
      simp

end Progress

/-! ### The other threads -/

section Steps

variable {Log : Type u} {Caller : Type v} {state after : State Log Caller}
  {logWaitingQueue : List Log} {index : ℕ} {log : Log} {label : Label Log Caller}

/-- What a caller does to the worker: it may push a log, and sets the event when it does. -/
structure Called (state : State Log Caller) (logs : List Log) (after : State Log Caller) :
    Prop where
  worker : after.worker = state.worker
  logFileStream : after.logFileStream = state.logFileStream
  copyLogWaitingQueue : after.copyLogWaitingQueue = state.copyLogWaitingQueue
  logWaitingQueue : after.logWaitingQueue = state.logWaitingQueue ++ logs
  entered : after.entered = state.entered ++ logs
  stopEvent : state.stopEvent = true → after.stopEvent = true
  logEvent : if logs = [] then after.logEvent = state.logEvent else after.logEvent = true

theorem Called.signaled {logs : List Log} (called : Called state logs after)
    (signaled : Signaled logWaitingQueue state) : Signaled logWaitingQueue after := by
  intro listens unset
  have event := called.logEvent
  split at event
  · rename_i none
    rw [called.logWaitingQueue, called.entered, none, List.append_nil, List.append_nil]
    exact signaled (called.worker ▸ listens) (event ▸ unset)
  · rw [event] at unset
    cases unset

theorem Called.unwritten {logs : List Log} (called : Called state logs after) :
    Logger.unwritten index after = Logger.unwritten index state := by
  simp only [Logger.unwritten, hops, called.worker, called.logFileStream,
    called.copyLogWaitingQueue]

variable [DecidableEq Caller]

/-- **What one step is** when the wait does not fail. -/
theorem step_cases (stepped : step state label = some after) (waits : label ≠ .waitFails) :
    label = .worker ∧ Moved state after ∨
      label ≠ .worker ∧ ∃ logs, Called state logs after ∧
        (logs ≠ [] → ∃ caller, label = .push caller) := by
  cases label with
  | writeLog caller log =>
      obtain ⟨-, stored⟩ := Option.ite_none_right_eq_some.mp stepped
      cases stored
      refine .inr ⟨(fun same => by cases same), [], ?_, fun more => absurd rfl more⟩
      exact ⟨rfl, rfl, rfl, (List.append_nil _).symm, (List.append_nil _).symm, id, rfl⟩
  | push caller =>
      obtain ⟨log, -, rfl⟩ := Option.map_eq_some_iff.mp stepped
      refine .inr ⟨(fun same => by cases same), [log], ?_, fun _ => ⟨caller, rfl⟩⟩
      exact ⟨rfl, rfl, rfl, rfl, rfl, id, rfl⟩
  | setStopEvent =>
      cases stepped
      refine .inr ⟨(fun same => by cases same), [], ?_, fun more => absurd rfl more⟩
      exact ⟨rfl, rfl, rfl, (List.append_nil _).symm, (List.append_nil _).symm, fun _ => rfl, rfl⟩
  | worker => exact .inl ⟨rfl, moved_of_workerStep stepped⟩
  | waitFails => exact absurd rfl waits

/-- What has entered keeps its place. -/
theorem getElem?_entered (entered : state.entered[index]? = some log) (waits : label ≠ .waitFails)
    (stepped : step state label = some after) : after.entered[index]? = some log := by
  rcases step_cases stepped waits with ⟨-, moved⟩ | ⟨-, logs, called, -⟩
  · rw [moved.entered.1, entered]
  · rw [called.entered, List.getElem?_append_left (List.getElem?_eq_some_iff.mp entered).1, entered]

/-- **The step lemma.** -/
theorem Watched.step (watched : Watched logWaitingQueue state) (waits : label ≠ .waitFails)
    (stepped : Logger.step state label = some after) : Watched logWaitingQueue after := by
  refine ⟨accounts_step watched.accounts stepped, ?_, ?_⟩
  · rcases step_cases stepped waits with ⟨-, moved⟩ | ⟨-, logs, called, -⟩
    · exact moved.signaled watched.accounts watched.signaled
    · exact called.signaled watched.signaled
  · rcases step_cases stepped waits with ⟨-, moved⟩ | ⟨-, logs, called, -⟩
    · exact moved.works watched.works
    · rw [called.worker]
      exact watched.works

/-- The log comes nearer, or it is written. -/
theorem Coming.step (coming : Coming logWaitingQueue index log state) (waits : label ≠ .waitFails)
    (unwritten : after.logFileStream.length ≤ index)
    (stepped : Logger.step state label = some after) :
    Coming logWaitingQueue index log after ∧
      Logger.unwritten index after ≤ Logger.unwritten index state ∧
      (label = .worker → Logger.unwritten index after < Logger.unwritten index state) := by
  have watched := coming.watched.step waits stepped
  have entered := getElem?_entered coming.entered waits stepped
  rcases step_cases stepped waits with ⟨-, moved⟩ | ⟨other, logs, called, -⟩
  · obtain ⟨inside, -⟩ := List.getElem?_eq_some_iff.mp coming.entered
    obtain ⟨takes, lower⟩ := moved.nearer coming.watched.accounts inside unwritten coming.takes
    obtain ⟨same, stop⟩ := moved.entered
    exact ⟨⟨watched, same ▸ stop ▸ coming.due, entered, takes⟩, lower.le, fun _ => lower⟩
  · refine ⟨⟨watched, ?_, entered, ?_⟩, called.unwritten.le, fun own => absurd own other⟩
    · rw [called.entered, List.length_append]
      exact coming.due.imp (Nat.lt_add_right _) called.stopEvent
    · rw [called.worker, called.logFileStream, called.copyLogWaitingQueue]
      exact coming.takes

/-- The worker rests when it waits for an event that is not set, and behind its end. -/
theorem enabled_worker (accounts : Accounts state)
    (woken : ¬ (state.worker = .wait ∧ state.logEvent = false ∧ state.stopEvent = false))
    (going : state.worker ≠ .returned) (works : state.worker ≠ .crashed) :
    Enabled step (· = .worker) state := by
  suffices ∃ after, state.workerStep = some after by
    obtain ⟨after, stepped⟩ := this
    exact ⟨.worker, after, rfl, stepped⟩
  unfold State.workerStep
  cases place : state.worker with
  | wait =>
      cases set : state.logEvent with
      | true => exact ⟨_, rfl⟩
      | false =>
          cases told : state.stopEvent with
          | true => exact ⟨_, rfl⟩
          | false => exact absurd ⟨place, set, told⟩ woken
  | swap result => exact ⟨_, rfl⟩
  | write logSize last =>
      have size := accounts.copied place
      cases logSize with
      | zero => exact ⟨_, rfl⟩
      | succ logSize =>
          obtain ⟨log, rest, copied⟩ := List.exists_cons_of_length_eq_add_one size
          rw [copied]
          exact ⟨_, rfl⟩
  | sleep => exact ⟨_, rfl⟩
  | returned => exact absurd place going
  | crashed => exact absurd place works

theorem Missed.step (missed : Missed index state) (stepped : Logger.step state label = some after) :
    Missed index after := by
  by_cases waits : label = .waitFails
  · rw [waits] at stepped
    obtain ⟨place, -⟩ := Option.ite_none_right_eq_some.mp stepped
    have takes := missed.1
    rw [place] at takes
    cases takes
  rcases step_cases stepped waits with ⟨-, moved⟩ | ⟨-, logs, called, -⟩
  · exact moved.missed missed
  · unfold Missed
    rw [called.worker, called.logFileStream, called.copyLogWaitingQueue]
    exact missed

/-- The log is in the queue, and it had no event only before the start. -/
theorem Coming.enabled (coming : Coming logWaitingQueue index log state)
    (unwritten : state.logFileStream.length ≤ index) :
    Enabled Logger.step (· = .worker) state := by
  obtain ⟨⟨accounts, signaled, works⟩, due, entered, takes⟩ := coming
  obtain ⟨inside, -⟩ := List.getElem?_eq_some_iff.mp entered
  refine enabled_worker accounts ?_ ?_ ?_
  · rintro ⟨place, unset, running⟩
    have empty := accounts.unfilled (.inl place)
    have length := accounts.length_entered
    rcases signaled (by rw [place]; rfl) unset with none | same
    · rw [empty, none, List.length_nil] at length
      omega
    · rw [same, running] at due
      exact due.elim (Nat.lt_irrefl _) Bool.false_ne_true
  · intro place
    have empty : state.copyLogWaitingQueue = [] := by
      have tallies := accounts.tallies
      unfold Tallies at tallies
      rw [place] at tallies
      exact tallies.1
    rw [place, empty] at takes
    exact takes.elim Bool.false_ne_true (Nat.not_lt.mpr unwritten)
  · intro place
    rw [place] at works
    cases works

end Steps

/-! ### Fair runs -/

section Fair

variable {Log : Type u} {Caller : Type v} [DecidableEq Caller] {printToConsole : Bool}
  {logWaitingQueue : List Log} {trace : Trace step (initial Caller printToConsole logWaitingQueue)}
  {time index : ℕ} {log : Log}

/-- A log that is written, and the worker is told to stop. -/
def stopSchedule : List (Label ℕ Bool) :=
  [.writeLog true 4, .push true, .setStopEvent, .worker, .worker, .worker, .worker, .worker,
    .worker, .worker, .worker]

/-- The fair run of the schedule. -/
theorem exists_stopTrace :
    ∃ trace : Trace step (initial Bool false ([] : List ℕ)), trace.Fair (· = .worker) ∧
      (∀ time, run step (initial Bool false []) (stopSchedule.take time) =
        some (trace.state time)) ∧
      (∀ time, trace.label time ≠ .waitFails) ∧
      ∀ time, 3 ≤ time → ∀ caller, trace.label time ≠ .push caller := by
  obtain ⟨last, executed, rests⟩ := Option.map_eq_some_iff.mp
    (show (run step (initial Bool false ([] : List ℕ)) stopSchedule).map
      (fun state => decide (state.worker = .returned ∧ state.stopEvent = true)) = some true by
        decide)
  obtain ⟨returned, told⟩ := of_decide_eq_true rests
  have stays : step last .setStopEvent = some last := by
    show some { last with stopEvent := true } = some last
    rw [← told]
  obtain ⟨trace, fronts, labels, ends⟩ := exists_trace_of_run stopSchedule executed stays
  have scheduled (time : ℕ) (short : time < stopSchedule.length) :
      trace.label time ∈ stopSchedule.drop time := by
    rw [labels time _ (List.getElem?_eq_getElem short), List.drop_eq_getElem_cons short]
    exact List.mem_cons_self
  refine ⟨trace, ?_, fronts, ?_, ?_⟩
  · refine Trace.fair_of_settled stopSchedule.length ?_
    rintro later order ⟨label, next, rfl, stepped⟩
    have stepped : (trace.state later).workerStep = some next := stepped
    rw [(ends later order).1, State.workerStep, returned] at stepped
    cases stepped
  · intro time
    rcases Nat.lt_or_ge time stopSchedule.length with short | long
    · have scheduled := List.mem_of_mem_drop (scheduled time short)
      intro fails
      rw [fails] at scheduled
      simp [stopSchedule] at scheduled
    · rw [(ends time long).2]
      simp
  · intro time behind caller
    rcases Nat.lt_or_ge time stopSchedule.length with short | long
    · have scheduled := List.mem_of_mem_drop
        (show trace.label time ∈ (stopSchedule.drop 3).drop (time - 3) by
          rw [List.drop_drop, Nat.add_sub_cancel' behind]
          exact scheduled time short)
      intro push
      rw [push] at scheduled
      simp [stopSchedule] at scheduled
    · rw [(ends time long).2]
      simp

theorem watched_always (waits : ∀ moment, trace.label moment ≠ .waitFails) (time : ℕ) :
    Watched logWaitingQueue (trace.state time) := by
  induction time with
  | zero =>
      rw [trace.begins]
      exact ⟨accounts_initial _ _, fun _ _ => .inr rfl, rfl⟩
  | succ time ih => exact ih.step (waits time) (trace.steps time)

/-- A log that the worker does not swap for is not written. -/
theorem never_written (missed : Missed index (trace.state time)) :
    ¬ trace.Later time fun state => state.logFileStream[index]? = some log := by
  rintro ⟨later, order, written⟩
  obtain ⟨-, behind⟩ := Trace.lasts (Missed index) missed
    (fun later _ missed => missed.step (trace.steps later)) later order
  obtain ⟨inside, -⟩ := List.getElem?_eq_some_iff.mp written
  omega

/-- **Every log in time comes to the file**, in its place, and no other: the worker swaps the queues
once more, or it has the log in its copy or in the file. A log was pushed behind the start, or the
worker is told to stop. -/
theorem eventually_written_iff (fair : trace.Fair (· = .worker))
    (waits : ∀ moment, trace.label moment ≠ .waitFails)
    (entered : (trace.state time).entered[index]? = some log)
    (due : logWaitingQueue.length < (trace.state time).entered.length ∨
      (trace.state time).stopEvent = true) :
    trace.Later time (fun state => state.logFileStream[index]? = some log) ↔
      (trace.state time).worker.takes = true ∨
        index < (trace.state time).logFileStream.length +
          (trace.state time).copyLogWaitingQueue.length := by
  refine ⟨fun written => ?_, fun takes => ?_⟩
  · by_contra never
    obtain ⟨takes, behind⟩ := not_or.mp never
    exact never_written ⟨by simpa using takes, Nat.not_lt.mp behind⟩ written
  have coming : Coming logWaitingQueue index log (trace.state time) :=
    ⟨watched_always waits time, due, entered, takes⟩
  by_cases unwritten : (trace.state time).logFileStream.length ≤ index
  · refine Trace.later_of_descent fair (Logger.unwritten index)
      (fun state => Coming logWaitingQueue index log state ∧ state.logFileStream.length ≤ index)
      ⟨coming, unwritten⟩ (fun later _ holds => holds.1.enabled holds.2) ?_
    intro later _ holds
    have watched := watched_always waits (later + 1)
    by_cases unwritten' : (trace.state (later + 1)).logFileStream.length ≤ index
    · obtain ⟨coming', lower⟩ := holds.1.step (waits later) unwritten' (trace.steps later)
      exact .inr ⟨⟨coming', unwritten'⟩, lower⟩
    · have entered := getElem?_entered holds.1.entered (waits later) (trace.steps later)
      exact .inl (watched.accounts.filed entered (Nat.not_le.mp unwritten'))
  · exact .now (coming.watched.accounts.filed entered (Nat.not_le.mp unwritten))

theorem eventually_written_iff_stopped :
    ∃ trace : Trace step (initial Bool false ([] : List ℕ)), trace.Fair (· = .worker) ∧
      (trace.state 2).logFileStream = [] ∧
      trace.Later 2 fun state => state.logFileStream[0]? = some 4 := by
  obtain ⟨trace, fair, fronts, waits, -⟩ := exists_stopTrace
  have second : (run step (initial Bool false ([] : List ℕ)) (stopSchedule.take 2)).map
      (fun state => (state.entered, state.logFileStream, state.worker)) =
        some ([4], [], .wait) := by decide
  rw [fronts 2] at second
  obtain ⟨entered, file, place⟩ : _ ∧ _ ∧ _ := by simpa using second
  refine ⟨trace, fair, file, (eventually_written_iff fair waits ?_ (.inl ?_)).mpr (.inl ?_)⟩
  · rw [entered]
    rfl
  · rw [entered]
    exact Nat.zero_lt_one
  · rw [place]
    rfl

/-- **A worker that is told to stop returns** when no more logs are pushed. -/
theorem eventually_returned (fair : trace.Fair (· = .worker))
    (waits : ∀ moment, trace.label moment ≠ .waitFails)
    (told : (trace.state time).stopEvent = true)
    (ended : ∀ later, time ≤ later → ∀ caller, trace.label later ≠ .push caller) :
    trace.Later time fun state => state.worker = .returned := by
  by_cases returned : (trace.state time).worker = .returned
  · exact .now returned
  refine Trace.later_of_descent fair unreturned
    (fun state => Watched logWaitingQueue state ∧ state.stopEvent = true ∧
      state.worker ≠ .returned) ⟨watched_always waits time, told, returned⟩ ?_ ?_
  · rintro later _ ⟨watched, told, going⟩
    refine enabled_worker watched.accounts ?_ going ?_
    · rintro ⟨-, -, running⟩
      rw [told] at running
      cases running
    · intro crashed
      have works := watched.works
      rw [crashed] at works
      cases works
  · rintro later order ⟨watched, told, going⟩
    by_cases returned : (trace.state (later + 1)).worker = .returned
    · exact .inl returned
    have watched' := watched_always waits (later + 1)
    refine .inr ?_
    rcases step_cases (trace.steps later) (waits later) with
      ⟨-, moved⟩ | ⟨other, logs, called, pushes⟩
    · have lower := moved.lower watched.accounts watched.works returned
      exact ⟨⟨watched', moved.entered.2 ▸ told, returned⟩, lower.le, fun _ => lower⟩
    · have none : logs = [] := by
        by_contra more
        obtain ⟨caller, push⟩ := pushes more
        exact ended later order caller push
      refine ⟨⟨watched', called.stopEvent told, returned⟩, ?_, fun own => absurd own other⟩
      have same : (trace.state (later + 1)).logEvent = (trace.state later).logEvent := by
        have event := called.logEvent
        rwa [if_pos none] at event
      simp only [unreturned, called.worker, called.copyLogWaitingQueue, called.logWaitingQueue,
        none, List.append_nil, same]
      exact Nat.le_refl _

theorem eventually_returned_stopped :
    ∃ trace : Trace step (initial Bool false ([] : List ℕ)), trace.Fair (· = .worker) ∧
      (trace.state 3).worker = .wait ∧ trace.Later 3 fun state => state.worker = .returned := by
  obtain ⟨trace, fair, fronts, waits, ended⟩ := exists_stopTrace
  have third : (run step (initial Bool false ([] : List ℕ)) (stopSchedule.take 3)).map
      (fun state => (state.stopEvent, state.worker)) = some (true, .wait) := by decide
  rw [fronts 3] at third
  obtain ⟨told, place⟩ := Prod.mk.inj (Option.some.inj third)
  exact ⟨trace, fair, place, eventually_returned fair waits told ended⟩

end Fair

end ActorModelServer.Logger
