/-
**An attempt to start the server, and what it leaves when it fails.**

`StartServer` runs `OptionParsing`, `InitNetwork`, `InitThreads` and `SetSessionFactory` and creates
the completion port; each of them but `InitThreads` may fail, and none undoes what the ones before
have done. `CreateIoCompletionPort` returns null when it fails, which is compared with
`INVALID_HANDLE_VALUE`: `StartServer` returns true then.

* `initThreads_spec` — the threads and the entries of the vectors that `InitThreads` adds.
* `startServer_ends` — the ways an attempt ends, with what it leaves.
* `failsCleanly_iff` — an attempt that returns false leaves nothing behind exactly when
  `OptionParsing` or `WSAStartup` has failed.
* `not_started_again` — after an attempt without a session factory no further one succeeds.
-/

import ActorModelServer.Server.Placement

namespace ActorModelServer.StartFailure

open Placement (OptionKey optionKeys)
open Startup (Handle Vector loopBody)

section Model

/-- The threads of the server. -/
inductive Thread
  | accept
  | ticker
  | io (i : ℕ)
  | release (i : ℕ)
  | logic (i : ℕ)
  deriving DecidableEq, Repr

/-- The fields that `OptionParsing` fills. -/
structure Options where
  port : BitVec 16
  numOfWorkerThread : BitVec 8
  numOfUsingWorkerThread : BitVec 8
  numOfLogicThread : BitVec 8
  headerCode : BitVec 8
  xorCode : BitVec 8
  deriving DecidableEq, Repr

/-- How each call of the system and of the parser ends. -/
structure Surroundings where
  optionFile : Bool
  /-- Whether the parser finds a key, and what it leaves in the field. -/
  getValue : OptionKey → Bool × BitVec 16
  wsaStartup : Bool
  socket : Option ℕ
  bind : Bool
  listen : Bool
  completionPort : Bool

/-- The fields of `ServerCore`, and what it has taken from the system. -/
structure ServerCore where
  options : Options
  listenSocket : Option ℕ
  /-- `acceptThread` and the thread of the ticker are joinable. -/
  acceptThread : Bool
  tickerThread : Bool
  ioThreads : ℕ
  size : Vector → ℕ
  sessionFactory : Bool
  iocpHandle : Handle
  running : List Thread
  openSockets : List ℕ
  /-- The calls of `WSAStartup` that succeeded, and those of `WSACleanup`. -/
  startups : ℕ
  cleanups : ℕ

namespace ServerCore

/-- A thread starts. -/
def spawn (core : ServerCore) (thread : Thread) : ServerCore :=
  { core with running := core.running ++ [thread] }

/-- `parser.GetValue_Byte`, and `GetValue_Short`. -/
def setOption (core : ServerCore) (key : OptionKey) (value : BitVec 16) : ServerCore :=
  let byte := value.setWidth 8
  { core with
    options := match key with
      | .bindPort => { core.options with port := value }
      | .workerThread => { core.options with numOfWorkerThread := byte }
      | .usingWorkerThread => { core.options with numOfUsingWorkerThread := byte }
      | .logicThread => { core.options with numOfLogicThread := byte }
      | .packetCode => { core.options with headerCode := byte }
      | .packetKey => { core.options with xorCode := byte } }

/-- The reading part of `OptionParsing`. -/
def readOptions (surroundings : Surroundings) :
    List OptionKey → ServerCore → Bool × ServerCore
  | [], core => (true, core)
  | key :: rest, core =>
      let core := core.setOption key (surroundings.getValue key).2
      if (surroundings.getValue key).1 = false then (false, core)
      else readOptions surroundings rest core

/-- `OptionParsing`. -/
def optionParsing (surroundings : Surroundings) (core : ServerCore) : Bool × ServerCore :=
  if surroundings.optionFile = false then (false, core)
  else readOptions surroundings optionKeys core

/-- `InitNetwork`. -/
def initNetwork (surroundings : Surroundings) (core : ServerCore) : Bool × ServerCore :=
  if surroundings.wsaStartup = false then (false, core)
  else
    let core := { core with startups := core.startups + 1 }
    match surroundings.socket with
    | none => (false, { core with listenSocket := none })
    | some socket =>
        let core := { core with
          listenSocket := some socket
          openSockets := core.openSockets ++ [socket] }
        if surroundings.bind = false then (false, core)
        else if surroundings.listen = false then (false, core)
        else (true, core)

/-- `ioThreads.emplace_back`. -/
def emplaceIoThread (core : ServerCore) (i : ℕ) : ServerCore :=
  { core.spawn (.io i) with ioThreads := core.ioThreads + 1 }

/-- `emplace_back` to a vector of the shards; two of them hold threads. -/
def emplaceBack (i : ℕ) (core : ServerCore) (vector : Vector) : ServerCore :=
  let core := { core with
    size := Function.update core.size vector (core.size vector + 1) }
  match vector with
  | .releaseThreads => core.spawn (.release i)
  | .logicThreads => core.spawn (.logic i)
  | _ => core

/-- The loop over the IO threads. -/
def startIoThreads (core : ServerCore) : ServerCore :=
  (List.range core.options.numOfWorkerThread.toNat).foldl emplaceIoThread core

/-- The loop over the shards. -/
def startShards (core : ServerCore) : ServerCore :=
  (List.range core.options.numOfLogicThread.toNat).foldl
    (fun core i => loopBody.foldl (emplaceBack i) core) core

/-- `acceptThread` gets its thread. -/
def startAcceptThread (core : ServerCore) : ServerCore :=
  { core.spawn .accept with acceptThread := true }

/-- `Ticker::Start`. -/
def startTicker (core : ServerCore) : ServerCore :=
  { core.spawn .ticker with tickerThread := true }

/-- `InitThreads`, which returns true. The assignment to a joinable `std::thread` terminates the
program, and the one to the ticker's joinable thread joins it for ever. -/
def initThreads (core : ServerCore) : Option ServerCore :=
  if core.acceptThread = true then none
  else if core.startAcceptThread.tickerThread = true then none
  else some core.startAcceptThread.startTicker.startIoThreads.startShards

/-- `SetSessionFactory`. -/
def setSessionFactory (factoryFunc : Bool) (core : ServerCore) : Bool × ServerCore :=
  if factoryFunc = false then (false, core) else (true, { core with sessionFactory := true })

/-- `CreateIoCompletionPort`, and the comparison of what it returns. -/
def createPort (surroundings : Surroundings) (core : ServerCore) : Bool × ServerCore :=
  let core := { core with iocpHandle := if surroundings.completionPort then .port else .null }
  (!decide (core.iocpHandle = .invalidHandleValue), core)

/-- `StartServer`: what it returns and leaves, unless it does not return. -/
def startServer (surroundings : Surroundings) (factoryFunc : Bool) (core : ServerCore) :
    Option (Bool × ServerCore) :=
  let parsed := optionParsing surroundings core
  if parsed.1 = false then some (false, parsed.2)
  else
    let network := initNetwork surroundings parsed.2
    if network.1 = false then some (false, network.2)
    else
      match initThreads network.2 with
      | none => none
      | some core =>
          let set := setSessionFactory factoryFunc core
          if set.1 = false then some (false, set.2)
          else some (createPort surroundings set.2)

end ServerCore

/-- **Nothing is left of the attempt**: no thread, no socket, no `WSAStartup` without its
`WSACleanup`, no entry of a vector. -/
structure FailedCleanly (before after : ServerCore) : Prop where
  running : after.running = before.running
  openSockets : after.openSockets = before.openSockets
  balanced : after.startups + before.cleanups = before.startups + after.cleanups
  size : ∀ vector, after.size vector = before.size vector

/-- `OptionParsing` finds the file and every key. -/
def Surroundings.Parses (surroundings : Surroundings) : Prop :=
  surroundings.optionFile = true ∧ ∀ key ∈ optionKeys, (surroundings.getValue key).1 = true

/-- The listen socket is opened, bound and listening. -/
def Surroundings.Listens (surroundings : Surroundings) : Prop :=
  surroundings.socket ≠ none ∧ surroundings.bind = true ∧ surroundings.listen = true

/-- **The attempt fails after `WSAStartup`**: at the listen socket, or for a null factory. -/
def FailsLate (surroundings : Surroundings) (factoryFunc : Bool) : Prop :=
  surroundings.Parses ∧ surroundings.wsaStartup = true ∧
    ¬ (surroundings.Listens ∧ factoryFunc = true)

end Model

/-! ### The threads -/

section Threads

/-- The threads that `InitThreads` starts. -/
def spawned (options : Options) : List Thread :=
  [.accept, .ticker] ++ ((List.range options.numOfWorkerThread.toNat).flatMap fun i => [.io i]) ++
    (List.range options.numOfLogicThread.toNat).flatMap fun i => [.release i, .logic i]

/-- A core with other threads, and vectors that have grown. -/
structure Grows (before after : ServerCore) (threads : List Thread) (entries : ℕ) : Prop where
  running : after.running = before.running ++ threads
  size : ∀ vector, after.size vector = before.size vector + entries
  options : after.options = before.options
  acceptThread : after.acceptThread = before.acceptThread
  openSockets : after.openSockets = before.openSockets
  startups : after.startups = before.startups
  cleanups : after.cleanups = before.cleanups

theorem Grows.refl (core : ServerCore) : Grows core core [] 0 :=
  ⟨(List.append_nil _).symm, fun _ => rfl, rfl, rfl, rfl, rfl, rfl⟩

theorem Grows.trans {first middle last : ServerCore} {threads others : List Thread}
    {entries more : ℕ} (one : Grows first middle threads entries)
    (two : Grows middle last others more) :
    Grows first last (threads ++ others) (entries + more) where
  running := by rw [two.running, one.running, List.append_assoc]
  size vector := by rw [two.size, one.size, Nat.add_assoc]
  options := two.options.trans one.options
  acceptThread := two.acceptThread.trans one.acceptThread
  openSockets := two.openSockets.trans one.openSockets
  startups := two.startups.trans one.startups
  cleanups := two.cleanups.trans one.cleanups

/-- A loop adds what its passes add. -/
theorem Grows.foldl {pass : ServerCore → ℕ → ServerCore} {threads : ℕ → List Thread} {entries : ℕ}
    (each : ∀ core i, Grows core (pass core i) (threads i) entries) (core : ServerCore)
    (count : ℕ) :
    Grows core ((List.range count).foldl pass core) ((List.range count).flatMap threads)
      (count * entries) := by
  induction count with
  | zero =>
      rw [Nat.zero_mul]
      exact .refl core
  | succ count ih =>
      rw [List.range_succ, List.foldl_append, List.flatMap_append, Nat.succ_mul,
        List.flatMap_singleton]
      exact ih.trans (each _ count)

theorem grows_emplaceIoThread (core : ServerCore) (i : ℕ) :
    Grows core (core.emplaceIoThread i) [.io i] 0 :=
  ⟨rfl, fun _ => rfl, rfl, rfl, rfl, rfl, rfl⟩

/-- The thread in an entry of a vector. -/
def threadOf (i : ℕ) : Vector → List Thread
  | .releaseThreads => [.release i]
  | .logicThreads => [.logic i]
  | _ => []

/-- A statement of the loop's body appends to its vector, and may start a thread. -/
theorem emplaceBack_spec (core : ServerCore) (i : ℕ) (vector : Vector) :
    Grows { core with size := Function.update core.size vector (core.size vector + 1) }
      (core.emplaceBack i vector) (threadOf i vector) 0 := by
  cases vector with
  | releaseThreads | logicThreads => exact ⟨rfl, fun _ => rfl, rfl, rfl, rfl, rfl, rfl⟩
  | _ => exact .refl _

/-- The statements one after the other. -/
theorem foldl_emplaceBack (i : ℕ) (vectors : List Vector) (core : ServerCore) :
    Grows { core with size := fun vector => core.size vector + vectors.count vector }
      (vectors.foldl (ServerCore.emplaceBack i) core) (vectors.flatMap (threadOf i)) 0 := by
  induction vectors generalizing core with
  | nil => exact .refl _
  | cons vector rest ih =>
      have first := emplaceBack_spec core i vector
      have later := ih (core.emplaceBack i vector)
      refine ⟨?_, fun other => ?_, later.options.trans first.options,
        later.acceptThread.trans first.acceptThread, later.openSockets.trans first.openSockets,
        later.startups.trans first.startups, later.cleanups.trans first.cleanups⟩
      · have running := later.running
        rw [List.foldl_cons, running]
        show (core.emplaceBack i vector).running ++ _ = core.running ++ _
        rw [first.running, List.flatMap_cons, List.append_assoc]
      · rw [List.foldl_cons, later.size]
        show (core.emplaceBack i vector).size other + rest.count other + 0 =
          core.size other + (vector :: rest).count other + 0
        rw [first.size, List.count_cons]
        show Function.update core.size vector (core.size vector + 1) other + 0 + _ + 0 = _
        by_cases same : vector = other
        · subst same
          rw [Function.update_self, if_pos (beq_self_eq_true _)]
          omega
        · rw [Function.update_of_ne (Ne.symm same), if_neg (by simpa using same)]
          omega

/-- **One pass of the loop over the shards** appends to each of its vectors once. -/
theorem grows_loopBody (core : ServerCore) (i : ℕ) :
    Grows core (loopBody.foldl (ServerCore.emplaceBack i) core) [.release i, .logic i] 1 := by
  have pass := foldl_emplaceBack i loopBody core
  refine ⟨pass.running, fun vector => ?_, pass.options, pass.acceptThread, pass.openSockets,
    pass.startups, pass.cleanups⟩
  have once : loopBody.count vector = 1 := by
    cases vector <;> rfl
  rw [pass.size]
  show core.size vector + loopBody.count vector + 0 = core.size vector + 1
  rw [once]

theorem grows_startIoThreads (core : ServerCore) :
    Grows core core.startIoThreads
      ((List.range core.options.numOfWorkerThread.toNat).flatMap fun i => [.io i]) 0 :=
  Grows.foldl grows_emplaceIoThread core _

theorem grows_startShards (core : ServerCore) :
    Grows core core.startShards
      ((List.range core.options.numOfLogicThread.toNat).flatMap fun i => [.release i, .logic i])
      core.options.numOfLogicThread.toNat := by
  have shards := Grows.foldl grows_loopBody core core.options.numOfLogicThread.toNat
  rw [Nat.mul_one] at shards
  exact shards

/-- **What `InitThreads` adds**, where it returns. -/
theorem initThreads_spec {core after : ServerCore} (initialized : core.initThreads = some after) :
    core.acceptThread ≠ true ∧ after.acceptThread = true ∧
      Grows { core with acceptThread := true } after (spawned core.options)
        core.options.numOfLogicThread.toNat := by
  unfold ServerCore.initThreads at initialized
  obtain ⟨fresh, initialized⟩ := Option.ite_none_left_eq_some.mp initialized
  obtain ⟨-, initialized⟩ := Option.ite_none_left_eq_some.mp initialized
  rw [Option.some.injEq] at initialized
  subst initialized
  have begun : Grows { core with acceptThread := true } core.startAcceptThread.startTicker
      [.accept, .ticker] 0 :=
    ⟨by simp [ServerCore.startTicker, ServerCore.startAcceptThread, ServerCore.spawn],
      fun _ => rfl, rfl, rfl, rfl, rfl, rfl⟩
  have workers := begun.trans (grows_startIoThreads _)
  have shards := workers.trans (grows_startShards _)
  rw [workers.options, Nat.zero_add] at shards
  exact ⟨fresh, shards.acceptThread, shards⟩

end Threads

/-! ### How an attempt ends -/

section Attempt

variable {factoryFunc returned : Bool} {before after : ServerCore} (surroundings : Surroundings)

/-- `OptionParsing` fills the options, and touches nothing else. -/
theorem readOptions_spec (keys : List OptionKey) (core : ServerCore) :
    ((ServerCore.readOptions surroundings keys core).1 = true ↔
        ∀ key ∈ keys, (surroundings.getValue key).1 = true) ∧
      ∃ options, (ServerCore.readOptions surroundings keys core).2 =
        { core with options := options } := by
  induction keys generalizing core with
  | nil => exact ⟨by simp [ServerCore.readOptions], core.options, rfl⟩
  | cons key rest ih =>
      obtain ⟨reads, options, filled⟩ := ih (core.setOption key (surroundings.getValue key).2)
      rw [ServerCore.readOptions]
      cases found : (surroundings.getValue key).1 with
      | false => exact ⟨by simp [found], _, rfl⟩
      | true =>
          rw [if_neg (Bool.noConfusion : ¬ true = false)]
          exact ⟨by simpa [found] using reads, options, filled⟩

theorem optionParsing_spec (core : ServerCore) :
    ((ServerCore.optionParsing surroundings core).1 = true ↔ surroundings.Parses) ∧
      ∃ options, (ServerCore.optionParsing surroundings core).2 =
        { core with options := options } := by
  obtain ⟨reads, options, filled⟩ := readOptions_spec surroundings optionKeys core
  unfold ServerCore.optionParsing Surroundings.Parses
  cases surroundings.optionFile with
  | false => exact ⟨by simp, core.options, rfl⟩
  | true =>
      refine ⟨?_, options, ?_⟩
      · simpa using reads
      · simpa using filled

/-- What `InitNetwork` leaves. -/
theorem initNetwork_spec (core : ServerCore) :
    ((core.initNetwork surroundings).1 = true ↔
        surroundings.wsaStartup = true ∧ surroundings.Listens) ∧
      (core.initNetwork surroundings).2.startups =
        core.startups + surroundings.wsaStartup.toNat ∧
      (core.initNetwork surroundings).2.cleanups = core.cleanups ∧
      (core.initNetwork surroundings).2.running = core.running ∧
      (core.initNetwork surroundings).2.size = core.size ∧
      (core.initNetwork surroundings).2.acceptThread = core.acceptThread ∧
      (surroundings.wsaStartup = false → (core.initNetwork surroundings).2 = core) := by
  unfold ServerCore.initNetwork Surroundings.Listens
  cases surroundings.wsaStartup with
  | false => simp
  | true =>
      cases surroundings.socket with
      | none => simp
      | some socket =>
          cases surroundings.bind <;> cases surroundings.listen <;> simp

variable {surroundings}

/-- A failed `CreateIoCompletionPort` goes unnoticed. -/
theorem createPort_returns (core : ServerCore) : (core.createPort surroundings).1 = true := by
  unfold ServerCore.createPort
  cases surroundings.completionPort <;> rfl

/-- **The ways an attempt ends**, with what it leaves. -/
inductive Ends (surroundings : Surroundings) (factoryFunc : Bool) (before : ServerCore) :
    Bool → ServerCore → Prop
  /- at the options, or at `WSAStartup` -/
  | early (options : Options) (failed : ¬ (surroundings.Parses ∧ surroundings.wsaStartup = true)) :
      Ends surroundings factoryFunc before false { before with options := options }
  /- at the listen socket -/
  | network (after : ServerCore) (parsed : surroundings.Parses)
      (winsock : surroundings.wsaStartup = true) (failed : ¬ surroundings.Listens)
      (startups : after.startups = before.startups + 1)
      (cleanups : after.cleanups = before.cleanups) :
      Ends surroundings factoryFunc before false after
  /- at the session factory -/
  | factory (after : ServerCore) (parsed : surroundings.Parses)
      (winsock : surroundings.wsaStartup = true) (null : factoryFunc = false)
      (startups : after.startups = before.startups + 1)
      (cleanups : after.cleanups = before.cleanups) (accept : after.acceptThread = true)
      (running : after.running = before.running ++ spawned after.options)
      (size : ∀ vector, after.size vector =
        before.size vector + after.options.numOfLogicThread.toNat) :
      Ends surroundings factoryFunc before false after
  | started (after : ServerCore) (listens : surroundings.Listens) (set : factoryFunc = true)
      (fresh : before.acceptThread ≠ true) :
      Ends surroundings factoryFunc before true after

/-- **Every attempt that returns ends in one of these ways.** -/
theorem startServer_ends
    (returns : ServerCore.startServer surroundings factoryFunc before = some (returned, after)) :
    Ends surroundings factoryFunc before returned after := by
  obtain ⟨parses, options, filled⟩ := optionParsing_spec surroundings before
  unfold ServerCore.startServer at returns
  dsimp only at returns
  rw [filled] at returns
  split at returns
  · rename_i failed
    cases returns
    exact .early options fun both => Bool.noConfusion (failed.symm.trans (parses.mpr both.1))
  · rename_i parsed
    rw [Bool.not_eq_false, parses] at parsed
    obtain ⟨listens, startups, cleanups, running, size, accept, untouched⟩ :=
      initNetwork_spec surroundings { before with options := options }
    generalize ServerCore.initNetwork surroundings { before with options := options } = network
      at *
    split at returns
    · rename_i failed
      cases returns
      cases winsock : surroundings.wsaStartup with
      | false =>
          rw [untouched winsock]
          exact .early options fun both => Bool.noConfusion (winsock.symm.trans both.2)
      | true =>
          rw [winsock] at startups
          refine .network _ parsed winsock (fun all => ?_) startups cleanups
          exact Bool.noConfusion (failed.symm.trans (listens.mpr ⟨winsock, all⟩))
    · rename_i listening
      rw [Bool.not_eq_false, listens] at listening
      obtain ⟨winsock, all⟩ := listening
      rw [winsock] at startups
      split at returns
      · cases returns
      · rename_i core initialized
        obtain ⟨fresh, joinable, grows⟩ := initThreads_spec initialized
        unfold ServerCore.setSessionFactory at returns
        cases set : factoryFunc with
        | false =>
            rw [set] at returns
            cases returns
            refine .factory _ parsed winsock rfl (grows.startups.trans startups)
              (grows.cleanups.trans cleanups) joinable ?_ fun vector => ?_
            · show core.running = before.running ++ spawned core.options
              rw [grows.running, grows.options]
              show network.2.running ++ _ = _
              rw [running]
            · show core.size vector = before.size vector + core.options.numOfLogicThread.toNat
              rw [grows.size, grows.options]
              show network.2.size vector + _ = _
              rw [size]
        | true =>
            rw [set] at returns
            obtain rfl : returned = true :=
              (congrArg Prod.fst (Option.some.inj returns)).symm.trans (createPort_returns _)
            exact .started _ all rfl fun same => fresh (accept.trans same)

/-- **An attempt that returns false leaves nothing behind** exactly when it does not fail after
`WSAStartup`, at the listen socket or for a null factory. -/
theorem failsCleanly_iff
    (returns : ServerCore.startServer surroundings factoryFunc before = some (returned, after)) :
    (returned = false → FailedCleanly before after) ↔ ¬ FailsLate surroundings factoryFunc := by
  have unbalanced (startups : after.startups = before.startups + 1)
      (cleanups : after.cleanups = before.cleanups) : ¬ FailedCleanly before after := by
    intro clean
    have balanced := clean.balanced
    omega
  cases startServer_ends returns with
  | early options failed =>
      refine iff_of_true (fun _ => ⟨rfl, rfl, rfl, fun _ => rfl⟩) ?_
      rintro ⟨parsed, winsock, -⟩
      exact failed ⟨parsed, winsock⟩
  | network _ parsed winsock failed startups cleanups =>
      refine iff_of_false (fun clean => unbalanced startups cleanups (clean rfl)) ?_
      exact not_not_intro ⟨parsed, winsock, fun both => failed both.1⟩
  | factory _ parsed winsock null startups cleanups _ _ _ =>
      refine iff_of_false (fun clean => unbalanced startups cleanups (clean rfl)) ?_
      rw [null]
      exact not_not_intro ⟨parsed, winsock, fun both => Bool.noConfusion both.2⟩
  | started _ listens set _ =>
      refine iff_of_true (fun failed => Bool.noConfusion failed) ?_
      rintro ⟨-, -, failed⟩
      exact failed ⟨listens, set⟩

/-- **A server that got no session factory cannot be started again**: no later attempt returns
true. -/
theorem not_started_again
    (returns : ServerCore.startServer surroundings false before = some (false, after))
    (parsed : surroundings.Parses) (winsock : surroundings.wsaStartup = true)
    (listens : surroundings.Listens) (again : Surroundings) (factoryFunc' : Bool)
    (final : ServerCore) :
    ServerCore.startServer again factoryFunc' after ≠ some (true, final) := by
  have joinable : after.acceptThread = true := by
    cases startServer_ends returns with
    | early options failed => exact absurd ⟨parsed, winsock⟩ failed
    | network _ _ _ failed _ _ => exact absurd listens failed
    | factory _ _ _ _ _ _ accept _ _ => exact accept
  intro succeeded
  cases startServer_ends succeeded with
  | started _ _ _ fresh => exact fresh joinable

end Attempt

/-! ### Attempts that fail -/

section Failures

/-- The server before its first start. -/
def fresh : ServerCore where
  options := ⟨0, 0, 0, 0, 0, 0⟩
  listenSocket := none
  acceptThread := false
  tickerThread := false
  ioThreads := 0
  size := fun _ => 0
  sessionFactory := false
  iocpHandle := .invalidHandleValue
  running := []
  openSockets := []
  startups := 0
  cleanups := 0

/-- Every call goes well; each number in the option file is 2. -/
def twoOfEach : Surroundings := ⟨true, fun _ => (true, 2), true, some 4, true, true, true⟩

/-- The option file has no PACKET_KEY. -/
def keyMissing : Surroundings :=
  { twoOfEach with getValue := fun key => (decide (key ≠ .packetKey), 2) }

theorem failsCleanly_keyMissing :
    ∃ after, ServerCore.startServer keyMissing true fresh = some (false, after) ∧
      FailedCleanly fresh after := by
  have missing : ¬ FailsLate keyMissing true := by
    rintro ⟨⟨-, found⟩, -⟩
    exact Bool.noConfusion (found .packetKey (by decide))
  exact ⟨_, rfl, (failsCleanly_iff rfl).mpr missing rfl⟩

/-- **A null factory leaves the threads running**, the socket open and the vectors filled. -/
theorem threads_left :
    ¬ ∀ surroundings factoryFunc before after,
      ServerCore.startServer surroundings factoryFunc before = some (false, after) →
        FailedCleanly before after := by
  intro clean
  have running := (clean twoOfEach false fresh _ rfl).running
  revert running
  decide

end Failures

end ActorModelServer.StartFailure
