/-
**From `WriteLog` to the file.**

Any number of threads call `WriteLog`, which pushes a log on `logWaitingQueue` and sets the log
event, both under `logQueueLock`; that is one step. `Worker` waits for the log event and the stop
event, swaps the queue for its own empty one and writes what it has got. Behind the stop event it
sleeps for ten seconds first, with the queue swapped before: what is pushed meanwhile stays there.

* `accounts_of_reach` — what has entered the queue is in the file, in the worker's copy or in the
  queue, in this order.
* `delivered_iff` — when the worker has returned, what had entered before its last write is in the
  file exactly when nothing entered in the sleep.
* `delivered` — so it is in every run in which no log enters then.
* `slept_through` — a log that is lost.
-/

import ActorModelServer.Library.Runs
import Mathlib.Logic.Function.Basic

namespace ActorModelServer.Logger

open StepRuns (Reach Unguarded exists_reach_of_run exists_reach_of_runGuarded)

universe u v

section Model

/-- What `WaitForMultipleObjects` returns. -/
inductive WaitResult
  | logHandle
  | stopHandle
  | failed
  deriving DecidableEq, Repr

/-- Where the worker is. -/
inductive Place
  | wait
  | swap (result : WaitResult)
  /- in `WriteLogImpl`, for the last time or not -/
  | write (logSize : ℕ) (last : Bool)
  | sleep
  | returned
  | crashed
  deriving DecidableEq, Repr

/-- The fields of the logger, its worker and its callers. -/
structure State (Log : Type u) (Caller : Type v) where
  logWaitingQueue : List Log
  copyLogWaitingQueue : List Log
  logEvent : Bool
  stopEvent : Bool
  printToConsole : Bool
  logFileStream : List Log
  console : List Log
  worker : Place
  /-- The callers in `WriteLog`, before the lock. -/
  locking : Caller → Option Log
  /-- What has entered the queue; what did in the worker's sleep; what had before its last write. -/
  entered : List Log
  late : List Log
  enteredBefore : List Log

/-- What happens next. -/
inductive Label (Log : Type u) (Caller : Type v)
  | writeLog (caller : Caller) (log : Log)
  | push (caller : Caller)
  /- `StopLoggerThread` sets its event -/
  | setStopEvent
  | worker
  | waitFails

variable {Log : Type u} {Caller : Type v}

/-- After `RunLoggerThread`; logs may be in the queue already. -/
def initial (Caller : Type v) (printToConsole : Bool) (logWaitingQueue : List Log) :
    State Log Caller :=
  ⟨logWaitingQueue, [], false, false, printToConsole, [], [], .wait, fun _ => none,
    logWaitingQueue, [], []⟩

namespace State

/-- `WriteLogToFile`. -/
def writeLogToFile (state : State Log Caller) (log : Log) : State Log Caller :=
  { state with
    logFileStream := state.logFileStream ++ [log]
    console := if state.printToConsole then state.console ++ [log] else state.console }

/-- The queues are swapped, and the worker goes by what it waited for. -/
def swapQueues (state : State Log Caller) (result : WaitResult) : State Log Caller :=
  { state with
    logWaitingQueue := state.copyLogWaitingQueue
    copyLogWaitingQueue := state.logWaitingQueue
    worker :=
      match result with
      | .logHandle => .write state.logWaitingQueue.length false
      | .stopHandle => .sleep
      | .failed => .crashed }

/-- One step of `Worker`. -/
def workerStep (state : State Log Caller) : Option (State Log Caller) :=
  match state.worker with
  | .wait =>
      -- of two set events the wait returns the first, and resets it
      if state.logEvent then some { state with logEvent := false, worker := .swap .logHandle }
      else if state.stopEvent then some { state with worker := .swap .stopHandle }
      else none
  | .swap result => some (state.swapQueues result)
  | .write 0 last => some { state with worker := if last then .returned else .wait }
  | .write (logSize + 1) last =>
      match state.copyLogWaitingQueue with
      | [] => none
      | log :: rest =>
          some { state.writeLogToFile log with
            copyLogWaitingQueue := rest
            worker := .write logSize last }
  | .sleep =>
      some { state with
        worker := .write state.copyLogWaitingQueue.length true
        enteredBefore := state.entered }
  | .returned => none
  | .crashed => none

/-- `WriteLog` under its lock. -/
def push (state : State Log Caller) (log : Log) : State Log Caller :=
  { state with
    logWaitingQueue := state.logWaitingQueue ++ [log]
    logEvent := true
    entered := state.entered ++ [log]
    late := if state.worker = .sleep then state.late ++ [log] else state.late }

end State

/-- One step. -/
def step [DecidableEq Caller] (state : State Log Caller) :
    Label Log Caller → Option (State Log Caller)
  | .writeLog caller log =>
      if (state.locking caller).isNone then
        some { state with locking := Function.update state.locking caller (some log) }
      else none
  | .push caller =>
      (state.locking caller).map fun log =>
        { state.push log with locking := Function.update state.locking caller none }
  | .setStopEvent => some { state with stopEvent := true }
  | .worker => state.workerStep
  | .waitFails => if state.worker = .wait then some { state with worker := .swap .failed } else none

/-- **Log delivery**: when the worker has returned, the file has every log that had entered before
the last write, once and in this order. -/
def Delivered (state : State Log Caller) : Prop :=
  state.worker = .returned → state.logFileStream = state.enteredBefore

/-- No log enters between the swap behind the stop event and the last write. -/
def NoneLate (state : State Log Caller) : Label Log Caller → Prop
  | .push _ => state.worker ≠ .sleep
  | _ => True

instance (state : State Log Caller) (label : Label Log Caller) :
    Decidable (NoneLate state label) := by
  unfold NoneLate
  cases label <;> infer_instance

end Model

/-! ### What every step keeps -/

section Steps

variable {Log : Type u} {Caller : Type v} {state after : State Log Caller}

/-- What the worker's place says of its copy and of the logs that come late. -/
def Tallies (state : State Log Caller) : Prop :=
  match state.worker with
  | .wait => state.copyLogWaitingQueue = [] ∧ state.late = []
  | .swap _ => state.copyLogWaitingQueue = [] ∧ state.late = []
  | .write logSize false => state.copyLogWaitingQueue.length = logSize ∧ state.late = []
  | .sleep => state.logWaitingQueue = state.late
  | .write logSize true =>
      state.copyLogWaitingQueue.length = logSize ∧
        state.enteredBefore = state.logFileStream ++ state.copyLogWaitingQueue ++ state.late
  | .returned =>
      state.copyLogWaitingQueue = [] ∧ state.enteredBefore = state.logFileStream ++ state.late
  | .crashed => True

/-- **The accounts of the logs**: what has entered is in the file, in the copy or in the queue, in
this order, and the console shows what is in the file. -/
structure Accounts (state : State Log Caller) : Prop where
  entered : state.entered =
    state.logFileStream ++ state.copyLogWaitingQueue ++ state.logWaitingQueue
  console : state.console = if state.printToConsole then state.logFileStream else []
  tallies : Tallies state

theorem accounts_initial (printToConsole : Bool) (logWaitingQueue : List Log) :
    Accounts (initial Caller printToConsole logWaitingQueue) :=
  ⟨rfl, (ite_self _).symm, rfl, rfl⟩

/-- A log that comes late is the last of the queue and of the late ones. -/
theorem accounts_push (log : Log) (accounts : Accounts state) : Accounts (state.push log) := by
  obtain ⟨entered, console, tallies⟩ := accounts
  refine ⟨?_, console, ?_⟩
  · show state.entered ++ [log] = _ ++ (state.logWaitingQueue ++ [log])
    rw [entered, List.append_assoc]
    rfl
  · unfold Tallies State.push at *
    cases place : state.worker with
    | sleep =>
        rw [place] at tallies
        show state.logWaitingQueue ++ [log] = state.late ++ [log]
        rw [tallies]
    | write logSize last =>
        rw [place] at tallies
        cases last <;> exact tallies
    | wait | swap _ | returned | crashed =>
        rw [place] at tallies
        exact tallies

/-- The swap hands the whole queue to the worker, whose own was empty. -/
theorem accounts_swapQueues (result : WaitResult) (accounts : Accounts state)
    (empty : state.copyLogWaitingQueue = []) (none : state.late = []) :
    Accounts (state.swapQueues result) := by
  refine ⟨?_, accounts.console, ?_⟩
  · show state.entered = _ ++ state.logWaitingQueue ++ state.copyLogWaitingQueue
    rw [accounts.entered, empty, List.append_nil, List.append_nil]
    rfl
  · cases result with
    | logHandle => exact ⟨rfl, none⟩
    | stopHandle => exact empty.trans none.symm
    | failed => trivial

/-- A log goes from the front of the copy to the end of the file. -/
theorem accounts_writeLogToFile {log : Log} {rest : List Log} {logSize : ℕ} {last : Bool}
    (accounts : Accounts state) (place : state.worker = .write (logSize + 1) last)
    (copied : state.copyLogWaitingQueue = log :: rest) :
    Accounts { state.writeLogToFile log with
      copyLogWaitingQueue := rest
      worker := .write logSize last } := by
  have moves (behind : List Log) : state.logFileStream ++ log :: rest ++ behind =
      (state.logFileStream ++ [log]) ++ rest ++ behind := by
    rw [List.append_assoc state.logFileStream [log], List.singleton_append]
  have tallies := accounts.tallies
  unfold Tallies at tallies
  rw [place, copied] at tallies
  refine ⟨?_, ?_, ?_⟩
  · have entered := accounts.entered
    rw [copied] at entered
    exact entered.trans (moves _)
  · show (if state.printToConsole then state.console ++ [log] else state.console) =
      if state.printToConsole then state.logFileStream ++ [log] else []
    rw [accounts.console]
    split <;> rfl
  · cases last with
    | false => exact ⟨Nat.succ.inj tallies.1, tallies.2⟩
    | true => exact ⟨Nat.succ.inj tallies.1, tallies.2.trans (moves _)⟩

/-- `WriteLogImpl` is through with its copy. -/
theorem accounts_written {last : Bool} (accounts : Accounts state)
    (place : state.worker = .write 0 last) :
    Accounts { state with worker := if last then .returned else .wait } := by
  have tallies := accounts.tallies
  unfold Tallies at tallies
  rw [place] at tallies
  refine ⟨accounts.entered, accounts.console, ?_⟩
  cases last with
  | false => exact ⟨List.length_eq_zero_iff.mp tallies.1, tallies.2⟩
  | true =>
      obtain ⟨size, before⟩ := tallies
      have empty := List.length_eq_zero_iff.mp size
      rw [empty, List.append_nil] at before
      exact ⟨empty, before⟩

theorem accounts_worker (accounts : Accounts state) (stepped : state.workerStep = some after) :
    Accounts after := by
  have tallies := accounts.tallies
  unfold Tallies at tallies
  unfold State.workerStep at stepped
  split at stepped
  · rename_i place
    rw [place] at tallies
    split at stepped
    · cases stepped
      exact ⟨accounts.entered, accounts.console, tallies⟩
    · obtain ⟨-, stored⟩ := Option.ite_none_right_eq_some.mp stepped
      cases stored
      exact ⟨accounts.entered, accounts.console, tallies⟩
  · rename_i result place
    rw [place] at tallies
    cases stepped
    exact accounts_swapQueues result accounts tallies.1 tallies.2
  · rename_i last place
    cases stepped
    exact accounts_written accounts place
  · rename_i logSize last place
    split at stepped
    · cases stepped
    · rename_i log rest copied
      cases stepped
      exact accounts_writeLogToFile accounts place copied
  · rename_i place
    rw [place] at tallies
    cases stepped
    refine ⟨accounts.entered, accounts.console, rfl, ?_⟩
    show state.entered = _ ++ state.late
    rw [accounts.entered, tallies]
  · cases stepped
  · cases stepped

/-- The worker makes no log late. -/
theorem late_worker (stepped : state.workerStep = some after) : after.late = state.late := by
  revert stepped
  fun_cases State.workerStep state
  all_goals
    intro stepped
    cases stepped <;> rfl

variable [DecidableEq Caller]

/-- **The step lemma.** -/
theorem accounts_step {label : Label Log Caller} (accounts : Accounts state)
    (stepped : step state label = some after) : Accounts after := by
  cases label with
  | writeLog caller log =>
      obtain ⟨-, stored⟩ := Option.ite_none_right_eq_some.mp stepped
      cases stored
      exact ⟨accounts.entered, accounts.console, accounts.tallies⟩
  | push caller =>
      obtain ⟨log, waits, rfl⟩ := Option.map_eq_some_iff.mp stepped
      have pushed := accounts_push log accounts
      exact ⟨pushed.entered, pushed.console, pushed.tallies⟩
  | setStopEvent =>
      cases stepped
      exact ⟨accounts.entered, accounts.console, accounts.tallies⟩
  | worker => exact accounts_worker accounts stepped
  | waitFails =>
      obtain ⟨waits, stored⟩ := Option.ite_none_right_eq_some.mp stepped
      cases stored
      have tallies := accounts.tallies
      unfold Tallies at tallies
      rw [waits] at tallies
      exact ⟨accounts.entered, accounts.console, tallies⟩

/-- No step but a push in the sleep makes a log late. -/
theorem late_step {label : Label Log Caller} (none : state.late = [])
    (allowed : NoneLate state label) (stepped : step state label = some after) :
    after.late = [] := by
  cases label with
  | writeLog caller log =>
      obtain ⟨-, stored⟩ := Option.ite_none_right_eq_some.mp stepped
      cases stored
      exact none
  | push caller =>
      obtain ⟨log, waits, rfl⟩ := Option.map_eq_some_iff.mp stepped
      exact (if_neg allowed).trans none
  | setStopEvent =>
      cases stepped
      exact none
  | worker => exact (late_worker stepped).trans none
  | waitFails =>
      obtain ⟨-, stored⟩ := Option.ite_none_right_eq_some.mp stepped
      cases stored
      exact none

end Steps

/-! ### Runs -/

section Runs

variable {Log : Type u} {Caller : Type v} [DecidableEq Caller] {state : State Log Caller}
  {printToConsole : Bool} {logWaitingQueue : List Log}

theorem accounts_of_reach {guard : State Log Caller → Label Log Caller → Prop}
    (reached : Reach step guard (initial Caller printToConsole logWaitingQueue) state) :
    Accounts state :=
  reached.invariant Accounts (accounts_initial _ _) fun _ _ _ accounts _ stepped =>
    accounts_step accounts stepped

/-- **What the file has is what entered first**, whatever was lost: every log once, in order. -/
theorem file_prefix {guard : State Log Caller → Label Log Caller → Prop}
    (reached : Reach step guard (initial Caller printToConsole logWaitingQueue) state) :
    state.logFileStream <+: state.entered := by
  rw [(accounts_of_reach reached).entered, List.append_assoc]
  exact List.prefix_append _ _

/-- **A run delivers its logs** exactly when none of them entered while the worker slept. -/
theorem delivered_iff {guard : State Log Caller → Label Log Caller → Prop}
    (reached : Reach step guard (initial Caller printToConsole logWaitingQueue) state)
    (returned : state.worker = .returned) : Delivered state ↔ state.late = [] := by
  have tallies := (accounts_of_reach reached).tallies
  unfold Tallies at tallies
  rw [returned] at tallies
  unfold Delivered
  rw [tallies.2, List.self_eq_append_right]
  exact ⟨fun delivered => delivered returned, fun none _ => none⟩

/-- **Log delivery** in every run in which no log enters between the swap behind the stop event and
the last write. -/
theorem delivered
    (reached : Reach step NoneLate (initial Caller printToConsole logWaitingQueue) state) :
    Delivered state := by
  have none : state.late = [] :=
    reached.invariant (fun state => state.late = []) rfl fun _ _ _ none allowed stepped =>
      late_step none allowed stepped
  exact fun returned => (delivered_iff reached returned).mpr none returned

/-- Two logs of two threads, and one that enters during the last write. -/
theorem delivered_two :
    ∃ state : State ℕ Bool, state.worker = .returned ∧ state.enteredBefore = [4, 5] ∧
      state.logFileStream = [4, 5] := by
  obtain ⟨state, reached, there⟩ := exists_reach_of_runGuarded step NoneLate
    (initial Bool false ([] : List ℕ))
    [.writeLog true 5, .writeLog false 4, .push false, .worker, .push true, .setStopEvent,
      .worker, .worker, .worker, .worker, .worker, .worker, .worker, .worker, .worker, .worker,
      .writeLog true 6, .push true, .worker]
    (fun state => decide (state.worker = .returned ∧ state.enteredBefore = [4, 5])) (by decide)
  obtain ⟨returned, before⟩ := of_decide_eq_true there
  have whole := delivered reached returned
  exact ⟨state, returned, before, whole.trans before⟩

/-- **A log written in the ten seconds** behind the stop event does not come to the file. -/
theorem slept_through :
    ¬ ∀ state : State ℕ Bool, Reach step Unguarded (initial Bool false []) state →
      Delivered state := by
  intro delivered
  obtain ⟨state, reached, there⟩ := exists_reach_of_run step (initial Bool false ([] : List ℕ))
    [.setStopEvent, .worker, .worker, .writeLog true 4, .push true, .worker, .worker]
    (fun state => decide (state.worker = .returned ∧ state.logFileStream = [] ∧
      state.enteredBefore = [4])) (by decide)
  obtain ⟨returned, file, before⟩ := of_decide_eq_true there
  have whole := delivered state reached returned
  rw [file, before] at whole
  cases whole

end Runs

end ActorModelServer.Logger
