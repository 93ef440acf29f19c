/-
**Counting the clients of the logger.**

`RunLoggerThread` adds one to `currentConnectedClientCount` and starts the worker when the count
was not above zero; `StopLoggerThread` stops it when the count is one, and subtracts zero. So the
count is the number of `RunLoggerThread` calls, as a signed 16-bit number. The calls come one at a
time, and the events can be created.

* `Nesting` — what a reference count would do: the calls open, and the busy periods begun and ended.
* `Kept` — after the calls, the logger's thread is as the reference count says.
* `kept_iff` — it is after every one of the calls exactly when they are one `RunLoggerThread` with
  its `StopLoggerThread`, or never come back to zero and have at most 2 ^ 15 of the first.
* `not_restarted` — a second client after the first has left gets no worker.
-/

import Mathlib.Algebra.Group.Nat.Defs
import Mathlib.Data.List.Infix
import Mathlib.Tactic.Common

namespace ActorModelServer.LoggerClients

section Model

/-- A call. -/
inductive Call
  | runLoggerThread (isAlsoPrintToConsole : Bool)
  | stopLoggerThread
  deriving DecidableEq, Repr

/-- The logger, with the number of times its thread was started and joined. -/
structure Logger where
  currentConnectedClientCount : ℤ
  printToConsole : Bool
  /-- The thread is joinable: its worker runs, as only a `StopLoggerThread` that joins it stops
  it. -/
  loggerThread : Bool
  started : ℕ
  joined : ℕ
  deriving DecidableEq, Repr

namespace Logger

/-- Before the first call. -/
def initial : Logger := ⟨0, false, false, 0, 0⟩

/-- `RunLoggerThread`; there is no result when it does not return. -/
def runLoggerThread (logger : Logger) (isAlsoPrintToConsole : Bool) : Option Logger :=
  let counted := { logger with
    currentConnectedClientCount := Int.bmod (logger.currentConnectedClientCount + 1) (2 ^ 16) }
  if logger.currentConnectedClientCount > 0 then some counted
  -- the assignment joins the worker that runs, whose events are overwritten
  else if logger.loggerThread then none
  else some { counted with
    printToConsole := isAlsoPrintToConsole
    loggerThread := true
    started := logger.started + 1 }

/-- `StopLoggerThread`; there is no result when `join` throws. -/
def stopLoggerThread (logger : Logger) : Option Logger :=
  let counted := { logger with
    currentConnectedClientCount := Int.bmod (logger.currentConnectedClientCount - 0) (2 ^ 16) }
  if logger.currentConnectedClientCount ≠ 1 then some counted
  else if logger.loggerThread then
    some { counted with loggerThread := false, joined := logger.joined + 1 }
  else none

/-- A call. -/
def call (logger : Logger) : Call → Option Logger
  | .runLoggerThread isAlsoPrintToConsole => logger.runLoggerThread isAlsoPrintToConsole
  | .stopLoggerThread => logger.stopLoggerThread

end Logger

/-- A sequence of calls. -/
def exec (calls : List Call) : Option Logger :=
  calls.foldlM Logger.call Logger.initial

/-- **What the calls ask for**: how many there were of each, and the busy periods that began and
ended with them. -/
structure Nesting where
  runs : ℕ
  stops : ℕ
  begun : ℕ
  ended : ℕ
  deriving DecidableEq, Repr

/-- A call, as a reference count sees it. -/
def Nesting.call (nesting : Nesting) : Call → Nesting
  | .runLoggerThread _ =>
      { nesting with
        runs := nesting.runs + 1
        begun := if nesting.runs = nesting.stops then nesting.begun + 1 else nesting.begun }
  | .stopLoggerThread =>
      { nesting with
        stops := nesting.stops + 1
        ended := if nesting.runs = nesting.stops + 1 then nesting.ended + 1 else nesting.ended }

/-- The nesting of a sequence of calls. -/
def nesting (calls : List Call) : Nesting :=
  calls.foldl Nesting.call ⟨0, 0, 0, 0⟩

/-- Every prefix has at least as many `RunLoggerThread` as `StopLoggerThread` calls. -/
def Balanced (calls : List Call) : Prop :=
  ∀ earlier ∈ calls.inits, (nesting earlier).stops ≤ (nesting earlier).runs

instance (calls : List Call) : Decidable (Balanced calls) :=
  inferInstanceAs (Decidable (∀ earlier ∈ calls.inits, _))

/-- The thread is as the nesting says. -/
structure Agrees (nesting : Nesting) (logger : Logger) : Prop where
  running : logger.loggerThread = true ↔ nesting.stops < nesting.runs
  started : logger.started = nesting.begun
  joined : logger.joined = nesting.ended

/-- **The logger counts its clients**: the calls return, the worker runs exactly when there were
more `RunLoggerThread` than `StopLoggerThread` calls, and it was started and joined once for each
busy period. -/
def Kept (calls : List Call) : Prop :=
  ∃ logger, exec calls = some logger ∧ Agrees (nesting calls) logger

/-- From the first call on there is a client. -/
def Busy (calls : List Call) : Prop :=
  ∀ earlier ∈ calls.inits, earlier ≠ [] → (nesting earlier).stops < (nesting earlier).runs

instance (calls : List Call) : Decidable (Busy calls) :=
  inferInstanceAs (Decidable (∀ earlier ∈ calls.inits, earlier ≠ [] → _))

/-- One client that leaves, or clients of which one is always left. -/
def OnePeriod (calls : List Call) : Prop :=
  (∃ isAlsoPrintToConsole, calls = [.runLoggerThread isAlsoPrintToConsole, .stopLoggerThread]) ∨
    (Busy calls ∧ (nesting calls).runs ≤ 2 ^ 15)

end Model

/-! ### One more call -/

section Steps

variable {calls : List Call} {call : Call} {logger after : Logger} {nest : Nesting}

theorem exec_concat (ran : exec calls = some logger) :
    exec (calls ++ [call]) = logger.call call := by
  unfold exec at *
  rw [List.foldlM_append, ran]
  exact bind_pure (logger.call call)

theorem nesting_concat : nesting (calls ++ [call]) = (nesting calls).call call := by
  unfold nesting
  rw [List.foldl_append]
  rfl

theorem forall_inits_concat {Holds : List Call → Prop} :
    (∀ earlier ∈ (calls ++ [call]).inits, Holds earlier) ↔
      (∀ earlier ∈ calls.inits, Holds earlier) ∧ Holds (calls ++ [call]) := by
  simp only [List.mem_inits, List.prefix_concat_iff, forall_eq_or_imp]
  exact and_comm

theorem forall_inits_nil {Holds : List Call → Prop} :
    (∀ earlier ∈ ([] : List Call).inits, Holds earlier) ↔ Holds [] := by
  simp

theorem busy_concat : Busy (calls ++ [call]) ↔
    Busy calls ∧ (nesting (calls ++ [call])).stops < (nesting (calls ++ [call])).runs := by
  unfold Busy
  rw [forall_inits_concat]
  exact and_congr_right fun _ => ⟨fun more => more (by simp), fun more _ => more⟩

theorem runs_le_concat : (nesting calls).runs ≤ (nesting (calls ++ [call])).runs := by
  rw [nesting_concat]
  cases call with
  | runLoggerThread _ => exact Nat.le_succ _
  | stopLoggerThread => exact le_rfl

theorem nesting_length : (nesting calls).runs + (nesting calls).stops = calls.length := by
  induction calls using List.reverseRecOn with
  | nil => rfl
  | append_singleton calls call ih =>
      rw [nesting_concat, List.length_append, ← ih]
      cases call with
      | runLoggerThread _ => exact Nat.add_right_comm _ _ _
      | stopLoggerThread => rfl

/-- **In the first busy period**: the worker runs, and the count is that of the runs. -/
structure Serving (nest : Nesting) (logger : Logger) : Prop where
  count : logger.currentConnectedClientCount = Int.bmod nest.runs (2 ^ 16)
  running : logger.loggerThread = true
  started : logger.started = 1 ∧ nest.begun = 1
  joined : logger.joined = 0 ∧ nest.ended = 0

theorem Serving.agrees (serving : Serving nest logger) (served : nest.stops < nest.runs) :
    Agrees nest logger :=
  ⟨iff_of_true serving.running served, serving.started.1.trans serving.started.2.symm,
    serving.joined.1.trans serving.joined.2.symm⟩

/-- Below 2 ^ 15 the count is what was counted. -/
theorem Serving.count_eq (serving : Serving nest logger) (few : nest.runs < 2 ^ 15) :
    logger.currentConnectedClientCount = nest.runs := by
  rw [serving.count, Int.bmod_def]
  split <;> omega

/-- The first client. -/
theorem serving_first (isAlsoPrintToConsole : Bool) :
    ∃ logger, exec [.runLoggerThread isAlsoPrintToConsole] = some logger ∧
      Serving (nesting [.runLoggerThread isAlsoPrintToConsole]) logger := by
  have count : (1 : ℤ) = Int.bmod ((1 : ℕ) : ℤ) (2 ^ 16) := by decide
  exact ⟨⟨1, isAlsoPrintToConsole, true, 1, 0⟩, rfl, count, rfl, ⟨rfl, rfl⟩, ⟨rfl, rfl⟩⟩

/-- One more client, of less than 2 ^ 15. -/
theorem Serving.run (serving : Serving nest logger) (served : nest.stops < nest.runs)
    (few : nest.runs < 2 ^ 15) (isAlsoPrintToConsole : Bool) :
    ∃ after, logger.runLoggerThread isAlsoPrintToConsole = some after ∧
      Serving (nest.call (.runLoggerThread isAlsoPrintToConsole)) after := by
  have above : logger.currentConnectedClientCount > 0 := by
    rw [serving.count_eq few]
    omega
  refine ⟨_, if_pos above, ?_, serving.running, ?_, serving.joined⟩
  · show Int.bmod (logger.currentConnectedClientCount + 1) (2 ^ 16) = _
    rw [serving.count, Int.bmod_add_bmod]
    rfl
  · exact ⟨serving.started.1, (if_neg (by omega)).trans serving.started.2⟩

/-- The client after 2 ^ 15 others: the count has gone below zero, and the call does not return. -/
theorem Serving.run_wraps (serving : Serving nest logger) (many : nest.runs = 2 ^ 15)
    (isAlsoPrintToConsole : Bool) : logger.runLoggerThread isAlsoPrintToConsole = none := by
  have below : ¬ logger.currentConnectedClientCount > 0 := by
    rw [serving.count, many]
    decide
  unfold Logger.runLoggerThread
  dsimp only
  rw [if_neg below, if_pos serving.running]

/-- A client leaves, of more than one that came: nothing happens. -/
theorem Serving.stop (serving : Serving nest logger) (several : 1 < nest.runs)
    (few : nest.runs ≤ 2 ^ 15) :
    ∃ after, logger.stopLoggerThread = some after ∧ after.loggerThread = true ∧
      (nest.stops + 1 < nest.runs → Serving (nest.call .stopLoggerThread) after) := by
  have other : logger.currentConnectedClientCount ≠ 1 := by
    rw [serving.count, Int.bmod_def]
    split <;> omega
  refine ⟨_, if_pos other, serving.running, fun served =>
    ⟨?_, serving.running, serving.started, ?_⟩⟩
  · show Int.bmod (logger.currentConnectedClientCount - 0) (2 ^ 16) = _
    rw [serving.count, Int.sub_zero, Int.bmod_bmod]
    rfl
  · exact ⟨serving.joined.1, (if_neg (by omega)).trans serving.joined.2⟩

end Steps

/-! ### Sequences of calls -/

section Sequences

variable {calls : List Call}

theorem Busy.served (busy : Busy calls) (called : calls ≠ []) :
    (nesting calls).stops < (nesting calls).runs :=
  busy calls (by simp) called

/-- **The first busy period**, call by call. -/
theorem serving_of_busy (busy : Busy calls) (few : (nesting calls).runs ≤ 2 ^ 15)
    (called : calls ≠ []) :
    ∃ logger, exec calls = some logger ∧ Serving (nesting calls) logger := by
  induction calls using List.reverseRecOn with
  | nil => exact absurd rfl called
  | append_singleton calls call ih =>
      obtain ⟨earlier, served⟩ := busy_concat.mp busy
      by_cases first : calls = []
      · subst first
        cases call with
        | runLoggerThread isAlsoPrintToConsole => exact serving_first isAlsoPrintToConsole
        | stopLoggerThread => exact absurd served (by decide)
      · obtain ⟨logger, ran, serving⟩ := ih earlier (runs_le_concat.trans few) first
        have served' := earlier.served first
        rw [nesting_concat] at few served ⊢
        rw [exec_concat ran]
        cases call with
        | runLoggerThread isAlsoPrintToConsole =>
            exact serving.run served' few isAlsoPrintToConsole
        | stopLoggerThread =>
            have served : (nesting calls).stops + 1 < (nesting calls).runs := served
            obtain ⟨after, stopped, -, still⟩ := serving.stop (by omega) few
            exact ⟨after, stopped, still served⟩

theorem kept_nil : Kept [] :=
  ⟨.initial, rfl, by decide, rfl, rfl⟩

/-- One client comes and leaves. -/
theorem kept_one (isAlsoPrintToConsole : Bool) :
    Kept [.runLoggerThread isAlsoPrintToConsole, .stopLoggerThread] := by
  have idle : false = true ↔ 1 < 1 := by simp
  exact ⟨⟨1, isAlsoPrintToConsole, false, 1, 1⟩, rfl, idle, rfl, rfl⟩

theorem kept_of_busy (busy : Busy calls) (few : (nesting calls).runs ≤ 2 ^ 15) : Kept calls := by
  by_cases called : calls = []
  · subst called
    exact kept_nil
  · obtain ⟨logger, ran, serving⟩ := serving_of_busy busy few called
    exact ⟨logger, ran, serving.agrees (busy.served called)⟩

/-- One period is kept all along. -/
theorem kept_of_onePeriod (one : OnePeriod calls) : ∀ earlier ∈ calls.inits, Kept earlier := by
  rcases one with ⟨isAlsoPrintToConsole, rfl⟩ | ⟨busy, few⟩
  · have first : Kept [.runLoggerThread isAlsoPrintToConsole] := by
      obtain ⟨logger, ran, serving⟩ := serving_first isAlsoPrintToConsole
      exact ⟨logger, ran, serving.agrees Nat.one_pos⟩
    have early : ∀ earlier ∈ ([] ++ [Call.runLoggerThread isAlsoPrintToConsole]).inits,
        Kept earlier := forall_inits_concat.mpr ⟨forall_inits_nil.mpr kept_nil, first⟩
    have all : ∀ earlier ∈ ([Call.runLoggerThread isAlsoPrintToConsole] ++
        [Call.stopLoggerThread]).inits, Kept earlier :=
      forall_inits_concat.mpr ⟨early, kept_one isAlsoPrintToConsole⟩
    exact all
  · induction calls using List.reverseRecOn with
    | nil => exact forall_inits_nil.mpr kept_nil
    | append_singleton calls call ih =>
        refine forall_inits_concat.mpr ⟨?_, kept_of_busy busy few⟩
        exact ih (busy_concat.mp busy).1 (runs_le_concat.trans few)

/-- After one client has left, the next gets no worker. -/
theorem not_kept_again (isAlsoPrintToConsole printsAgain : Bool) :
    ¬ Kept [.runLoggerThread isAlsoPrintToConsole, .stopLoggerThread,
      .runLoggerThread printsAgain] := by
  rintro ⟨logger, ran, agrees⟩
  cases ran
  exact absurd (agrees.running.mpr Nat.one_lt_two) (by simp)

/-- One more client may come while the count has room for it. -/
theorem onePeriod_run {isAlsoPrintToConsole : Bool} (busy : Busy calls)
    (few : (nesting calls).runs ≤ 2 ^ 15) (called : calls ≠ [])
    (kept : Kept (calls ++ [.runLoggerThread isAlsoPrintToConsole])) :
    OnePeriod (calls ++ [.runLoggerThread isAlsoPrintToConsole]) := by
  obtain ⟨logger, ran, serving⟩ := serving_of_busy busy few called
  have room : (nesting calls).runs < 2 ^ 15 := by
    refine lt_of_le_of_ne few fun many => ?_
    obtain ⟨after, returned, -⟩ := kept
    rw [exec_concat ran, Logger.call, serving.run_wraps many] at returned
    cases returned
  refine .inr ⟨busy_concat.mpr ⟨busy, ?_⟩, ?_⟩
  · rw [nesting_concat]
    exact Nat.lt_succ_of_lt (busy.served called)
  · rw [nesting_concat]
    exact room

/-- A client may leave if it is the only one that came, or another one stays. -/
theorem onePeriod_stop (busy : Busy calls) (few : (nesting calls).runs ≤ 2 ^ 15)
    (called : calls ≠ []) (kept : Kept (calls ++ [.stopLoggerThread])) :
    OnePeriod (calls ++ [.stopLoggerThread]) := by
  obtain ⟨logger, ran, serving⟩ := serving_of_busy busy few called
  have served := busy.served called
  by_cases several : 1 < (nesting calls).runs
  · -- the worker runs on, so there must be a client left
    obtain ⟨after, stopped, runs, -⟩ := serving.stop several few
    obtain ⟨other, returned, agrees⟩ := kept
    rw [exec_concat ran, Logger.call, stopped] at returned
    cases returned
    refine .inr ⟨busy_concat.mpr ⟨busy, agrees.running.mp runs⟩, ?_⟩
    rw [nesting_concat]
    exact few
  · have single : calls.length = 1 := by
      rw [← nesting_length]
      omega
    obtain ⟨only, rfl⟩ := List.length_eq_one_iff.mp single
    cases only with
    | runLoggerThread isAlsoPrintToConsole => exact .inl ⟨isAlsoPrintToConsole, rfl⟩
    | stopLoggerThread => exact absurd served (Nat.not_lt_zero 1)

/-- What one more call may be. -/
theorem onePeriod_concat {call : Call} (one : OnePeriod calls)
    (balanced : (nesting (calls ++ [call])).stops ≤ (nesting (calls ++ [call])).runs)
    (kept : Kept (calls ++ [call])) : OnePeriod (calls ++ [call]) := by
  rcases one with ⟨isAlsoPrintToConsole, rfl⟩ | ⟨busy, few⟩
  · cases call with
    | runLoggerThread printsAgain => exact absurd kept (not_kept_again _ _)
    | stopLoggerThread => exact absurd balanced (Nat.not_succ_le_self 1)
  by_cases called : calls = []
  · subst called
    cases call with
    | runLoggerThread isAlsoPrintToConsole =>
        exact .inr ⟨busy_concat.mpr ⟨busy, Nat.one_pos⟩, Nat.one_le_two_pow⟩
    | stopLoggerThread => exact absurd balanced (by decide)
  cases call with
  | runLoggerThread isAlsoPrintToConsole => exact onePeriod_run busy few called kept
  | stopLoggerThread => exact onePeriod_stop busy few called kept

/-- **The logger counts its clients** all along a sequence of calls exactly when there is one client
that leaves, or one of less than 2 ^ 15 + 1 is always left. -/
theorem kept_iff (balanced : Balanced calls) :
    (∀ earlier ∈ calls.inits, Kept earlier) ↔ OnePeriod calls := by
  refine ⟨fun kept => ?_, kept_of_onePeriod⟩
  induction calls using List.reverseRecOn with
  | nil => exact .inr ⟨by simp [Busy], by decide⟩
  | append_singleton calls call ih =>
      obtain ⟨earlier, own⟩ := forall_inits_concat.mp balanced
      obtain ⟨before, kept⟩ := forall_inits_concat.mp kept
      exact onePeriod_concat (ih earlier before) own kept

/-- Two clients, of which the first leaves. -/
theorem kept_iff_two :
    Kept [.runLoggerThread false, .runLoggerThread true, .stopLoggerThread] := by
  have balanced : Balanced [.runLoggerThread false, .runLoggerThread true, .stopLoggerThread] := by
    decide
  exact (kept_iff balanced).mpr (.inr ⟨by decide, by decide⟩) _ (by simp)

/-- **A second client** that comes after the first has left gets no worker. -/
theorem not_restarted : ¬ ∀ calls, Balanced calls → Kept calls := by
  intro kept
  refine not_kept_again false false (kept _ ?_)
  decide

end Sequences

end ActorModelServer.LoggerClients
