/-
**Messages that throw.**

An exception leaves `ProcessMessage` with the message that threw at the front of `consumerQueue`,
and its caller catches it, as a test that drives `OnTimerForTest` may. The next call swaps the
queues as if `consumerQueue` were empty: what the exception left behind, the thrower included, goes
into `storeQueue`, in front of what is accepted from then on, and comes back with the swap after
that one.

* `Aftermath` — how far `ProcessMessage` has come since the first exception.
* `reach_allowed_iff` — the messages have started in order, and once each, exactly in the runs whose
  every call meets `Allowed`: after the first exception only the next call that swaps calls
  messages, and it does only if no message that can be called was left behind the thrower.
* `thrower_restarted` — a message behind the thrower is overtaken, and the thrower starts again.
-/

import ActorModelServer.Actor.MessageOrder

namespace ActorModelServer.Actor.Throwing

open ThreadTable (threadStep_eq_some)
open StepRuns (Reach Unguarded exists_reach_of_run)

universe u v

section Model

/-- What happened since an exception left `ProcessMessage` for the first time. -/
inductive Aftermath
  | none
  /- no call has swapped since; `behind` tells of a message behind the thrower -/
  | left (behind : Bool)
  /- the next call has swapped -/
  | resumed (behind : Bool)
  /- a later one has -/
  | again
  deriving DecidableEq, Repr

/-- An exception leaves `ProcessMessage`. -/
def Aftermath.leave (behind : Bool) : Aftermath → Aftermath
  | .none => .left behind
  | later => later

/-- A call of `ProcessMessage` swaps the queues. -/
def Aftermath.swap : Aftermath → Aftermath
  | .none => .none
  | .left behind => .resumed behind
  | .resumed _ => .again
  | .again => .again

/-- A message may be called. -/
def Aftermath.calls : Aftermath → Bool
  | .none => true
  | .left _ => false
  | .resumed behind => !behind
  | .again => false

variable (Body : Type u)

/-- A mailbox whose messages may throw, with the history of the exceptions. -/
structure Driven where
  mailbox : Mailbox Body
  aftermath : Aftermath

/-- What a thread does next: what it does without exceptions, or the running message throws. -/
inductive Choice
  | calm (choice : Actor.Choice Body)
  | throw

variable {Body}

/-- One atomic step of a thread. -/
def act (driven : Driven Body) (pc : Pc Body) (choice : Choice Body) :
    Option (Driven Body × Pc Body) :=
  match pc, choice with
  | .processRun, .throw =>
      -- the exception passes `consumerQueue.pop()` by
      some ({ driven with
          aftermath := driven.aftermath.leave
            (driven.mailbox.consumerQueue.tail.any Entry.runs) }, .logic)
  | .processSwap, .calm .go =>
      some (⟨driven.mailbox.swapQueues, driven.aftermath.swap⟩, .processLoop)
  | pc, .calm choice =>
      (Actor.act driven.mailbox pc choice).map fun result =>
        (⟨result.1, driven.aftermath⟩, result.2)
  | _, .throw => none

/-- The state of the machine. -/
abbrev State (Body : Type u) (Sender : Type v) :=
  ThreadTable.System (Driven Body) (Tid Sender) (Pc Body)

/-- The start: a new actor. -/
def initial (Body : Type u) (Sender : Type v) : State Body Sender :=
  ⟨⟨.empty, .none⟩, initialPc⟩

variable {Sender : Type v}

/-- One step of the machine. -/
def step [DecidableEq Sender] :
    State Body Sender → Tid Sender × Choice Body → Option (State Body Sender) :=
  ThreadTable.threadStep act

/-- The loop has come to a message that can be called. -/
def Driven.atCall (driven : Driven Body) (pc : Pc Body) : Prop :=
  pc = .processLoop ∧ driven.mailbox.consumerQueue.head?.any Entry.runs = true

/-- A step of the loop calls a message only when it may. -/
def Allowed (state : State Body Sender) (label : Tid Sender × Choice Body) : Prop :=
  match label.2 with
  | .calm .go => state.shared.atCall (state.pc label.1) → state.shared.aftermath.calls = true
  | _ => True

/-- **The order of the calls**: the messages that have started are the first of those accepted, and
none has started twice. -/
def InOrder (mailbox : Mailbox Body) : Prop :=
  mailbox.executed <+: mailbox.accepted.filter Entry.runs ∧
    (mailbox.executed.map Entry.ticket).Nodup

/-! ### What one step does -/

/-- The branches of `act`; the places of a step without an exception are those below the calls of
`SendMessage`. -/
inductive Moves (driven : Driven Body) :
    Pc Body → Choice Body → Driven Body → Pc Body → Prop
  | calm {pc pc' : Pc Body} {choice : Choice Body} {mailbox' : Mailbox Body}
      (moved : Actor.Moves driven.mailbox pc.base mailbox' pc'.base)
      (unswapped : pc.base = .processSwap → pc'.base ≠ .processLoop)
      (uncalled : pc.base = .processLoop → pc'.base ≠ .processRun) :
      Moves driven pc choice ⟨mailbox', driven.aftermath⟩ pc'
  | swapped : Moves driven .processSwap (.calm .go)
      ⟨driven.mailbox.swapQueues, driven.aftermath.swap⟩ .processLoop
  | started (entry : Entry Body) (rest : List (Entry Body))
      (front : driven.mailbox.consumerQueue = entry :: rest) (runs : entry.runs = true) :
      Moves driven .processLoop (.calm .go) ⟨driven.mailbox.start entry, driven.aftermath⟩
        .processRun
  | thrown : Moves driven .processRun .throw
      { driven with
        aftermath := driven.aftermath.leave (driven.mailbox.consumerQueue.tail.any Entry.runs) }
      .logic

/-- The place below the calls of `SendMessage` changes only when there is none. -/
theorem base_of_act {mailbox mailbox' : Mailbox Body} {pc pc' : Pc Body}
    {choice : Actor.Choice Body} (acted : Actor.act mailbox pc choice = some (mailbox', pc')) :
    pc'.base = pc.base ∨ pc = pc.base := by
  cases pc with
  | sendCheck message next =>
      cases choice with
      | go =>
          obtain ⟨-, rfl⟩ := Prod.mk.inj (Option.some.inj acted)
          left
          split <;> rfl
      | missStop =>
          cases acted
          exact .inl rfl
      | send | stop | process => cases acted
  | sendPush message next =>
      cases choice with
      | go =>
          cases acted
          exact .inl rfl
      | send | stop | process | missStop => cases acted
  | sender | logic | processEntry | processSwap | processLoop | processRun => exact .inr rfl

/-- A step of the loop calls the front, or calls nothing. -/
theorem act_processLoop {mailbox mailbox' : Mailbox Body} {pc' : Pc Body}
    {choice : Actor.Choice Body}
    (acted : Actor.act mailbox .processLoop choice = some (mailbox', pc')) :
    choice = .go ∧ (pc'.base ≠ .processRun ∨
      ∃ entry rest, mailbox.consumerQueue = entry :: rest ∧ entry.runs = true ∧
        mailbox' = mailbox.start entry ∧ pc' = .processRun) := by
  cases choice with
  | go =>
      refine ⟨rfl, ?_⟩
      cases front : mailbox.consumerQueue with
      | nil =>
          simp only [Actor.act, front, Option.some.injEq, Prod.mk.injEq] at acted
          rw [← acted.2]
          exact .inl (by simp [Pc.base])
      | cons entry rest =>
          simp only [Actor.act, front] at acted
          split at acted
          · rename_i runs
            cases acted
            exact .inr ⟨entry, rest, rfl, runs, rfl, rfl⟩
          · cases acted
            exact .inl (by simp [Pc.base])
  | send | stop | process | missStop => cases acted

/-- **Inversion of a step.** -/
theorem act_moves {driven driven' : Driven Body} {pc pc' : Pc Body} {choice : Choice Body}
    (acted : act driven pc choice = some (driven', pc')) :
    Moves driven pc choice driven' pc' := by
  revert acted
  fun_cases act driven pc choice
  case case1 =>
    rintro ⟨⟩
    exact .thrown
  case case2 =>
    rintro ⟨⟩
    exact .swapped
  case case3 choice other =>
    intro acted
    obtain ⟨⟨mailbox', next⟩, taken, same⟩ := Option.map_eq_some_iff.mp acted
    cases same
    have unswapped (swap : pc.base = .processSwap) : next.base ≠ .processLoop := by
      intro loop
      rcases base_of_act taken with stays | here
      · rw [stays, swap] at loop
        cases loop
      · rw [here, swap] at taken
        cases choice with
        | go => exact other (here.trans swap) rfl
        | send | stop | process | missStop => cases taken
    by_cases loop : pc.base = .processLoop
    · rcases base_of_act taken with stays | here
      · refine .calm (Actor.act_moves taken) unswapped fun _ => ?_
        rw [stays, loop]
        simp
      · obtain rfl : pc = .processLoop := here.trans loop
        obtain ⟨rfl, quiet | ⟨entry, rest, front, runs, rfl, rfl⟩⟩ := act_processLoop taken
        · exact .calm (Actor.act_moves taken) unswapped fun _ => quiet
        · exact .started entry rest front runs
    · exact .calm (Actor.act_moves taken) unswapped fun here => absurd here loop
  case case4 =>
    intro acted
    cases acted

/-! ### The invariant -/

/-- The messages of `consumerQueue` that have not started. -/
def pending (mailbox : Mailbox Body) (pc : Pc Body) : List (Entry Body) :=
  match pc with
  | .processLoop => mailbox.consumerQueue
  | _ => mailbox.consumerQueue.tail

/-- How the queues lie, by what has happened since the first exception. -/
inductive Follows (mailbox : Mailbox Body) (pc : Pc Body) : Aftermath → Prop
  | none (settled : Settled pc mailbox)
      (running : pc = .processRun → ∃ entry rest, mailbox.consumerQueue = entry :: rest ∧
        entry ∈ mailbox.executed ∧ entry.runs = true) :
      Follows mailbox pc .none
  | left (thrower : Entry Body) (rest : List (Entry Body)) (outside : mayHold pc = false)
      (front : mailbox.consumerQueue = thrower :: rest) (called : thrower ∈ mailbox.executed)
      (runs : thrower.runs = true)
      (order : mailbox.accepted.filter Entry.runs =
        mailbox.executed ++ rest.filter Entry.runs ++ mailbox.storeQueue.filter Entry.runs) :
      Follows mailbox pc (.left (rest.any Entry.runs))
  | resumed (thrower : Entry Body) (later : List (Entry Body))
      (front : mailbox.storeQueue = thrower :: later) (called : thrower ∈ mailbox.executed)
      (runs : thrower.runs = true)
      (order : mailbox.accepted.filter Entry.runs =
        mailbox.executed ++ (pending mailbox pc).filter Entry.runs ++ later.filter Entry.runs) :
      Follows mailbox pc (.resumed false)
  /- the next message in order is not in `consumerQueue` -/
  | overtaken (thrower : Entry Body) (later : List (Entry Body)) (next : Entry Body)
      (rest : List (Entry Body)) (front : mailbox.storeQueue = thrower :: later)
      (called : thrower ∈ mailbox.executed) (runs : thrower.runs = true)
      (order : mailbox.accepted.filter Entry.runs = mailbox.executed ++ next :: rest)
      (elsewhere : next ∉ mailbox.consumerQueue) :
      Follows mailbox pc (.resumed true)
  | again (thrower : Entry Body) (rest : List (Entry Body)) (loop : pc = .processLoop)
      (front : mailbox.consumerQueue = thrower :: rest) (called : thrower ∈ mailbox.executed)
      (runs : thrower.runs = true)
      (order : mailbox.executed <+: mailbox.accepted.filter Entry.runs) :
      Follows mailbox pc .again

variable {mailbox mailbox' : Mailbox Body} {pc pc' : Pc Body} {aftermath : Aftermath}

/-- What has started is a prefix of what was accepted. -/
theorem Follows.ordered (follows : Follows mailbox pc aftermath) :
    mailbox.executed <+: mailbox.accepted.filter Entry.runs := by
  cases follows with
  | none settled _ => exact settled.accounted.executed_prefix
  | left thrower rest _ _ _ _ order =>
      rw [order, List.append_assoc]
      exact List.prefix_append _ _
  | resumed thrower later _ _ _ order =>
      rw [order, List.append_assoc]
      exact List.prefix_append _ _
  | overtaken thrower later next rest _ _ _ order _ =>
      rw [order]
      exact List.prefix_append _ _
  | again thrower rest _ _ _ _ order => exact order

/-- `Stop` moves no message. -/
theorem Follows.stop (follows : Follows mailbox pc aftermath) :
    Follows mailbox.stop pc aftermath := by
  cases follows with
  | none settled running => exact .none (settled.move (.stopped pc)) running
  | left thrower rest outside front called runs order =>
      exact .left thrower rest outside front called runs order
  | resumed thrower later front called runs order =>
      exact .resumed thrower later front called runs order
  | overtaken thrower later next rest front called runs order elsewhere =>
      exact .overtaken thrower later next rest front called runs order elsewhere
  | again thrower rest loop front called runs order =>
      exact .again thrower rest loop front called runs order

/-- A new message goes to the end of `storeQueue`, and of the accepted messages. -/
theorem Follows.push (follows : Follows mailbox pc aftermath) (message : Option Body) :
    Follows (mailbox.push message) pc aftermath := by
  have grown : (mailbox.push message).accepted.filter Entry.runs =
      mailbox.accepted.filter Entry.runs ++
        [⟨mailbox.accepted.length, message⟩].filter Entry.runs := List.filter_append ..
  cases follows with
  | none settled running => exact .none (settled.move (.pushed pc message)) running
  | left thrower rest outside front called runs order =>
      refine .left thrower rest outside front called runs ?_
      rw [grown, order, List.append_assoc, ← List.filter_append]
      rfl
  | resumed thrower later front called runs order =>
      refine .resumed thrower (later ++ [⟨mailbox.accepted.length, message⟩]) ?_ called runs ?_
      · rw [Mailbox.push, front, List.cons_append]
      · rw [grown, order, List.append_assoc, ← List.filter_append]
        cases pc <;> rfl
  | overtaken thrower later next rest front called runs order elsewhere =>
      refine .overtaken thrower (later ++ [⟨mailbox.accepted.length, message⟩]) next
        (rest ++ [⟨mailbox.accepted.length, message⟩].filter Entry.runs) ?_ called runs ?_ elsewhere
      · rw [Mailbox.push, front, List.cons_append]
      · rw [grown, order, List.append_assoc, List.cons_append]
        rfl
  | again thrower rest loop front called runs order =>
      refine .again thrower rest loop front called runs ?_
      rw [grown]
      exact order.trans (List.prefix_append _ _)

/-- Outside of the loop the place does not matter. -/
theorem Follows.outside (follows : Follows mailbox pc aftermath) (here : mayHold pc = false)
    (there : mayHold pc' = false) : Follows mailbox pc' aftermath := by
  have idle (place : Pc Body) (out : mayHold place = false) : isRunning place = false := by
    cases place <;> first | rfl | cases out
  have rest (place : Pc Body) (out : mayHold place = false) :
      pending mailbox place = mailbox.consumerQueue.tail := by
    cases place <;> first | rfl | cases out
  cases follows with
  | none settled running =>
      refine .none ⟨?_, fun _ => settled.drained here⟩ fun run => ?_
      · rw [idle pc' there, ← idle pc here]
        exact settled.accounted
      · rw [run] at there
        cases there
  | left thrower rest _ front called runs order =>
      exact .left thrower rest there front called runs order
  | resumed thrower later front called runs order =>
      refine .resumed thrower later front called runs ?_
      rw [rest pc' there, ← rest pc here]
      exact order
  | overtaken thrower later next rest front called runs order elsewhere =>
      exact .overtaken thrower later next rest front called runs order elsewhere
  | again thrower rest loop _ _ _ _ =>
      rw [loop] at here
      cases here

/-- The loop ends when `consumerQueue` is empty. -/
theorem Follows.drained (follows : Follows mailbox .processLoop aftermath)
    (none : mailbox.consumerQueue = []) : Follows mailbox .logic aftermath := by
  cases follows with
  | none settled _ => exact .none (settled.move (.drained none)) fun run => by cases run
  | left _ _ outside _ _ _ _ => cases outside
  | resumed thrower later front called runs order =>
      refine .resumed thrower later front called runs ?_
      have empty : pending mailbox .logic = pending mailbox .processLoop := by
        show mailbox.consumerQueue.tail = mailbox.consumerQueue
        rw [none, List.tail_nil]
      rw [empty]
      exact order
  | overtaken thrower later next rest front called runs order elsewhere =>
      exact .overtaken thrower later next rest front called runs order elsewhere
  | again thrower rest _ front _ _ _ =>
      rw [none] at front
      cases front

/-- The loop drops a null message. -/
theorem Follows.skip {entry : Entry Body} {queue : List (Entry Body)}
    (follows : Follows mailbox .processLoop aftermath)
    (front : mailbox.consumerQueue = entry :: queue) (null : entry.runs = false) :
    Follows mailbox.pop .processLoop aftermath := by
  cases follows with
  | none settled _ =>
      exact .none (settled.move (.skipped entry queue front null)) fun run => by cases run
  | left _ _ outside _ _ _ _ => cases outside
  | resumed thrower later store called runs order =>
      refine .resumed thrower later store called runs ?_
      have same : (pending mailbox.pop .processLoop).filter Entry.runs =
          (pending mailbox .processLoop).filter Entry.runs := by
        show mailbox.consumerQueue.tail.filter Entry.runs = mailbox.consumerQueue.filter Entry.runs
        rw [front, List.tail_cons, List.filter_cons, null]
        rfl
      rw [same]
      exact order
  | overtaken thrower later next rest store called runs order elsewhere =>
      refine .overtaken thrower later next rest store called runs order fun member => ?_
      exact elsewhere (List.mem_of_mem_tail member)
  | again thrower rest _ first _ runs _ =>
      rw [front] at first
      cases first
      rw [null] at runs
      cases runs

/-- The loop calls a message that may be called. -/
theorem Follows.start {entry : Entry Body} {queue : List (Entry Body)}
    (follows : Follows mailbox .processLoop aftermath)
    (front : mailbox.consumerQueue = entry :: queue) (runs : entry.runs = true)
    (may : aftermath.calls = true) : Follows (mailbox.start entry) .processRun aftermath := by
  cases follows with
  | none settled _ =>
      refine .none (settled.move (.started entry queue front runs)) fun _ => ?_
      exact ⟨entry, queue, front, List.mem_append_right _ (.head _), runs⟩
  | left _ _ _ _ _ _ _ => cases may
  | resumed thrower later store called again order =>
      refine .resumed thrower later store (List.mem_append_left _ called) again ?_
      have waits : (pending mailbox .processLoop).filter Entry.runs =
          [entry] ++ queue.filter Entry.runs := by
        show mailbox.consumerQueue.filter Entry.runs = _
        rw [front, List.filter_cons, runs]
        rfl
      have left : pending (mailbox.start entry) .processRun = queue := by
        show mailbox.consumerQueue.tail = queue
        rw [front, List.tail_cons]
      rw [left]
      show mailbox.accepted.filter Entry.runs = mailbox.executed ++ [entry] ++ _ ++ _
      rw [order, waits]
      simp only [List.append_assoc]
  | overtaken _ _ _ _ _ _ _ _ _ => cases may
  | again _ _ _ _ _ _ _ => cases may

/-- The message returns, and is popped. -/
theorem Follows.finish (follows : Follows mailbox .processRun aftermath) :
    Follows mailbox.pop .processLoop aftermath := by
  cases follows with
  | none settled _ => exact .none (settled.move .finished) fun run => by cases run
  | left _ _ outside _ _ _ _ => cases outside
  | resumed thrower later store called runs order =>
      exact .resumed thrower later store called runs order
  | overtaken thrower later next rest store called runs order elsewhere =>
      refine .overtaken thrower later next rest store called runs order fun member => ?_
      exact elsewhere (List.mem_of_mem_tail member)
  | again _ _ loop _ _ _ _ => cases loop

/-- **A step without an exception**, swap and call left out, keeps the invariant. -/
theorem Follows.calm (follows : Follows mailbox pc aftermath)
    (moved : Actor.Moves mailbox pc mailbox' pc')
    (unswapped : pc = .processSwap → pc' ≠ .processLoop)
    (uncalled : pc = .processLoop → pc' ≠ .processRun) : Follows mailbox' pc' aftermath := by
  cases moved with
  | stays => exact follows
  | stopped => exact follows.stop
  | pushed _ message => exact follows.push message
  | entered | refused | checked => exact follows.outside rfl rfl
  | swapped => exact absurd rfl (unswapped rfl)
  | drained none => exact follows.drained none
  | skipped entry rest front null => exact follows.skip front null
  | started => exact absurd rfl (uncalled rfl)
  | finished => exact follows.finish

/-- **An exception leaves the thrower at the front**, and everything behind it in order. -/
theorem Follows.throw (follows : Follows mailbox .processRun aftermath) :
    Follows mailbox .logic (aftermath.leave (mailbox.consumerQueue.tail.any Entry.runs)) := by
  cases follows with
  | none settled running =>
      obtain ⟨thrower, rest, front, called, runs⟩ := running rfl
      rw [front, List.tail_cons]
      refine .left thrower rest rfl front called runs ?_
      have order := settled.accounted.order
      have left : mailbox.waiting true = rest := by
        show mailbox.consumerQueue.tail = rest
        rw [front, List.tail_cons]
      rw [show isRunning (Pc.processRun : Pc Body) = true from rfl, left] at order
      exact order
  | left _ _ outside _ _ _ _ => cases outside
  | resumed thrower later store called runs order =>
      exact .resumed thrower later store called runs order
  | overtaken thrower later next rest store called runs order elsewhere =>
      exact .overtaken thrower later next rest store called runs order elsewhere
  | again _ _ loop _ _ _ _ => cases loop

/-- **The swap**: before an exception it finds `consumerQueue` empty; after one it puts what was
left there behind, and the swap after that brings the thrower back. -/
theorem Follows.swap (follows : Follows mailbox .processSwap aftermath)
    (distinct : (mailbox.accepted.filter Entry.runs).Nodup) :
    Follows mailbox.swapQueues .processLoop aftermath.swap := by
  have prior := follows.ordered
  cases follows with
  | none settled _ => exact .none (settled.move .swapped) fun run => by cases run
  | left thrower rest _ front called runs order =>
      cases behind : rest.any Entry.runs with
      | false =>
          refine .resumed thrower rest front called runs ?_
          have silent : rest.filter Entry.runs = [] := by
            rw [List.filter_eq_nil_iff]
            exact List.any_eq_false.mp behind
          show mailbox.accepted.filter Entry.runs =
            mailbox.executed ++ mailbox.storeQueue.filter Entry.runs ++ rest.filter Entry.runs
          rw [order, silent, List.append_nil, List.append_nil]
      | true =>
          obtain ⟨member, inside, some⟩ := List.any_eq_true.mp behind
          obtain ⟨next, others, split⟩ := List.exists_cons_of_ne_nil
            (List.ne_nil_of_mem (List.mem_filter.mpr ⟨inside, some⟩))
          rw [order, split, List.append_assoc] at distinct
          have runs' : next.runs = true := by
            have first : next ∈ rest.filter Entry.runs := split ▸ List.mem_cons_self
            exact (List.mem_filter.mp first).2
          refine .overtaken thrower rest next (others ++ mailbox.storeQueue.filter Entry.runs)
            front called runs ?_ fun stored => ?_
          · show mailbox.accepted.filter Entry.runs = _
            rw [order, split, List.append_assoc, List.cons_append]
            rfl
          · have twice := (List.nodup_cons.mp (List.nodup_append'.mp distinct).2.1).1
            exact twice (List.mem_append_right _ (List.mem_filter.mpr ⟨stored, runs'⟩))
  | resumed thrower later front called runs order =>
      exact .again thrower later rfl front called runs prior
  | overtaken thrower later next rest front called runs order elsewhere =>
      exact .again thrower later rfl front called runs prior
  | again _ _ loop _ _ _ _ => cases loop

/-- **A call that may not be made breaks the order.** -/
theorem Follows.calls_of_start {entry : Entry Body} {queue : List (Entry Body)}
    (follows : Follows mailbox .processLoop aftermath)
    (front : mailbox.consumerQueue = entry :: queue)
    (distinct : (mailbox.accepted.filter Entry.runs).Nodup)
    (order : mailbox.executed ++ [entry] <+: mailbox.accepted.filter Entry.runs) :
    aftermath.calls = true := by
  cases follows with
  | none _ _ => rfl
  | left _ _ outside _ _ _ _ => cases outside
  | resumed _ _ _ _ _ _ => rfl
  | overtaken thrower later next rest _ _ _ split elsewhere =>
      rw [split, List.prefix_append_right_inj, List.cons_prefix_cons] at order
      refine absurd ?_ elsewhere
      rw [front, ← order.1]
      exact List.mem_cons_self
  | again thrower rest _ first called _ _ =>
      obtain ⟨rfl, -⟩ := List.cons.inj (front.symm.trans first)
      have once := (List.nodup_append'.mp (distinct.sublist order.sublist)).2.2
      exact absurd (List.mem_singleton_self _) (once called)

/-! ### What every run keeps -/

/-- The queues hold accepted messages, whose tickets are their places. -/
structure Known (mailbox : Mailbox Body) : Prop where
  tickets : mailbox.accepted.map Entry.ticket = List.range mailbox.accepted.length
  executed : ∀ entry ∈ mailbox.executed, entry ∈ mailbox.accepted
  consumerQueue : ∀ entry ∈ mailbox.consumerQueue, entry ∈ mailbox.accepted
  storeQueue : ∀ entry ∈ mailbox.storeQueue, entry ∈ mailbox.accepted

theorem known_empty : Known (Mailbox.empty : Mailbox Body) :=
  ⟨rfl, fun _ member => member, fun _ member => member, fun _ member => member⟩

theorem Known.push (known : Known mailbox) (message : Option Body) :
    Known (mailbox.push message) where
  tickets := by simp [Mailbox.push, known.tickets, List.range_succ]
  executed := fun entry member => List.mem_append_left _ (known.executed entry member)
  consumerQueue := fun entry member => List.mem_append_left _ (known.consumerQueue entry member)
  storeQueue := by
    intro entry member
    rcases List.mem_append.mp member with before | last
    · exact List.mem_append_left _ (known.storeQueue entry before)
    · exact List.mem_append_right _ last

theorem Known.pop (known : Known mailbox) : Known mailbox.pop where
  tickets := known.tickets
  executed := known.executed
  consumerQueue := fun entry member => known.consumerQueue entry (List.mem_of_mem_tail member)
  storeQueue := known.storeQueue

theorem Known.start (known : Known mailbox) {entry : Entry Body} {rest : List (Entry Body)}
    (front : mailbox.consumerQueue = entry :: rest) : Known (mailbox.start entry) where
  tickets := known.tickets
  executed := by
    intro other member
    rcases List.mem_append.mp member with before | last
    · exact known.executed other before
    · rw [List.mem_singleton.mp last]
      exact known.consumerQueue entry (front ▸ List.mem_cons_self)
  consumerQueue := known.consumerQueue
  storeQueue := known.storeQueue

theorem Known.swapQueues (known : Known mailbox) : Known mailbox.swapQueues :=
  ⟨known.tickets, known.executed, known.storeQueue, known.consumerQueue⟩

theorem Known.move (known : Known mailbox) (moved : Actor.Moves mailbox pc mailbox' pc') :
    Known mailbox' := by
  cases moved with
  | stays | entered | refused | checked | drained => exact known
  | stopped => exact ⟨known.tickets, known.executed, known.consumerQueue, known.storeQueue⟩
  | pushed _ message => exact known.push message
  | swapped => exact known.swapQueues
  | skipped | finished => exact known.pop
  | started entry rest front => exact known.start front

/-- Tickets tell messages apart. -/
theorem Known.distinct (known : Known mailbox) : (mailbox.accepted.map Entry.ticket).Nodup := by
  rw [known.tickets]
  exact List.nodup_range

theorem Known.inOrder_iff (known : Known mailbox) :
    InOrder mailbox ↔ mailbox.executed <+: mailbox.accepted.filter Entry.runs := by
  refine ⟨And.left, fun order => ⟨order, ?_⟩⟩
  exact known.distinct.sublist ((order.sublist.trans List.filter_sublist).map Entry.ticket)

/-- **An order that is broken stays broken.** -/
theorem Known.inOrder_before (known : Known mailbox)
    (moved : Actor.Moves mailbox pc mailbox' pc') (order : InOrder mailbox') :
    InOrder mailbox := by
  rw [known.inOrder_iff]
  have after := order.1
  cases moved with
  | stays | stopped | entered | refused | checked | drained | swapped | skipped | finished =>
      exact after
  | pushed _ message =>
      have grown : (mailbox.push message).accepted.filter Entry.runs =
          mailbox.accepted.filter Entry.runs ++
            [⟨mailbox.accepted.length, message⟩].filter Entry.runs := List.filter_append ..
      rw [grown] at after
      cases message with
      | none => rwa [List.filter_cons_of_neg (by simp [Entry.runs]), List.filter_nil,
          List.append_nil] at after
      | some body =>
          rw [List.filter_cons_of_pos rfl, List.filter_nil, List.prefix_concat_iff] at after
          refine after.resolve_left fun all => ?_
          have unknown : (⟨mailbox.accepted.length, some body⟩ : Entry Body) ∈ mailbox.executed :=
            all ▸ List.mem_append_right _ (.head _)
          have ticket := List.mem_map_of_mem (f := Entry.ticket) (known.executed _ unknown)
          rw [known.tickets, List.mem_range] at ticket
          exact absurd ticket (Nat.lt_irrefl _)
  | started entry rest front runs => exact (List.prefix_append _ _).trans after

/-- What a step with exceptions does to the mailbox, a step without them can do. -/
theorem Moves.underlying {driven driven' : Driven Body} {choice : Choice Body}
    (moved : Moves driven pc choice driven' pc') :
    ∃ here there, Actor.Moves driven.mailbox here driven'.mailbox there := by
  cases moved with
  | calm moved _ _ => exact ⟨_, _, moved⟩
  | swapped => exact ⟨_, _, .swapped⟩
  | started entry rest front runs => exact ⟨_, _, .started entry rest front runs⟩
  | thrown => exact ⟨.logic, .logic, .stays .logic⟩

variable [DecidableEq Sender] {state after : State Body Sender}

theorem known_of_reach {guard : State Body Sender → Tid Sender × Choice Body → Prop}
    (reached : Reach step guard (initial Body Sender) state) : Known state.shared.mailbox := by
  refine reached.invariant (fun state : State Body Sender => Known state.shared.mailbox)
    known_empty ?_
  intro before label after known _ taken
  obtain ⟨driven, pc, acted, rfl⟩ := threadStep_eq_some.mp taken
  obtain ⟨here, there, moved⟩ := (act_moves acted).underlying
  exact known.move moved

/-- The invariant of the runs that are allowed. -/
structure Kept (state : State Body Sender) : Prop where
  follows : Follows state.shared.mailbox (state.pc .logic).base state.shared.aftermath
  senders : ∀ name, (state.pc (.sender name)).base = .sender

omit [DecidableEq Sender] in
theorem kept_initial : Kept (initial Body Sender) where
  follows := .none ⟨Mailbox.accounted_empty, fun _ => rfl⟩ fun run => by cases run
  senders := fun _ => rfl

/-- A step of the logic thread. -/
theorem Follows.logic {driven driven' : Driven Body} {choice : Choice Body}
    (follows : Follows driven.mailbox pc.base driven.aftermath) (known : Known driven.mailbox)
    (moved : Moves driven pc choice driven' pc')
    (may : choice = .calm .go → driven.atCall pc → driven.aftermath.calls = true) :
    Follows driven'.mailbox pc'.base driven'.aftermath := by
  cases moved with
  | calm moved unswapped uncalled => exact follows.calm moved unswapped uncalled
  | swapped => exact follows.swap (known.distinct.of_map.filter _)
  | started entry rest front runs =>
      refine follows.start front runs (may rfl ⟨rfl, ?_⟩)
      rw [front]
      exact runs
  | thrown => exact follows.throw

/-- A step of another thread is a call of `SendMessage` or `Stop`. -/
theorem Follows.sender {driven driven' : Driven Body} {choice : Choice Body} {place : Pc Body}
    (follows : Follows driven.mailbox place driven.aftermath) (sender : pc.base = .sender)
    (moved : Moves driven pc choice driven' pc') :
    Follows driven'.mailbox place driven'.aftermath ∧ pc'.base = .sender := by
  cases moved with
  | calm moved unswapped uncalled =>
      rw [sender] at moved
      obtain ⟨stays, alike⟩ := sender_move moved place
      refine ⟨follows.calm alike ?_ ?_, stays⟩
      · intro swap loop
        rw [swap] at loop
        cases loop
      · intro loop run
        rw [loop] at run
        cases run
  | swapped | started | thrown => cases sender

/-- **One allowed step keeps the invariant.** -/
theorem Kept.step {label : Tid Sender × Choice Body} (kept : Kept state)
    (known : Known state.shared.mailbox) (allowed : Allowed state label)
    (taken : Throwing.step state label = some after) : Kept after := by
  obtain ⟨driven, pc, acted, rfl⟩ := threadStep_eq_some.mp taken
  have moved := act_moves acted
  obtain ⟨thread, choice⟩ := label
  cases thread with
  | logic =>
      have may (go : choice = .calm .go) (here : state.shared.atCall (state.pc .logic)) :
          state.shared.aftermath.calls = true := by
        subst go
        exact allowed here
      refine ⟨?_, fun name => ?_⟩
      · simpa using kept.follows.logic known moved may
      · simpa using kept.senders name
  | sender name =>
      obtain ⟨follows, stays⟩ := kept.follows.sender (kept.senders name) moved
      refine ⟨?_, fun other => ?_⟩
      · simpa using follows
      · by_cases same : other = name
        · subst same
          simpa using stays
        · simpa [Function.update_of_ne, same] using kept.senders other

theorem kept_of_reach (reached : Reach step Allowed (initial Body Sender) state) : Kept state := by
  have both : Kept state ∧ Reach step Allowed (initial Body Sender) state := by
    induction reached with
    | start => exact ⟨kept_initial, .start⟩
    | step earlier allowed taken ih =>
        exact ⟨ih.1.step (known_of_reach earlier) allowed taken, .step earlier allowed taken⟩
  exact both.1

/-- A step after which the order is right was allowed. -/
theorem Kept.allowed {label : Tid Sender × Choice Body} (kept : Kept state)
    (known : Known state.shared.mailbox) (taken : Throwing.step state label = some after)
    (order : InOrder after.shared.mailbox) : Allowed state label := by
  obtain ⟨driven, pc, acted, rfl⟩ := threadStep_eq_some.mp taken
  obtain ⟨thread, choice⟩ := label
  unfold Allowed
  split
  · rename_i go
    obtain rfl : choice = .calm .go := go
    rintro ⟨loop, call⟩
    cases thread with
    | logic =>
        have follows := kept.follows
        have here : state.pc .logic = .processLoop := loop
        rw [here] at acted follows
        cases front : state.shared.mailbox.consumerQueue with
        | nil =>
            rw [front] at call
            cases call
        | cons entry rest =>
            rw [front] at call
            have runs : entry.runs = true := call
            simp only [act, Actor.act, front, runs, if_true, Option.map_some, Option.some.injEq,
              Prod.mk.injEq] at acted
            obtain ⟨rfl, -⟩ := acted
            exact follows.calls_of_start front (known.distinct.of_map.filter _) order.1
    | sender name =>
        have base := kept.senders name
        have here : state.pc (.sender name) = .processLoop := loop
        rw [here] at base
        cases base
  · trivial

/-- **A mailbox survives a throwing message** exactly when, after the first exception, only the
next call of `ProcessMessage` that swaps calls messages, and it does only if no message that can be
called was left behind the thrower. -/
theorem reach_allowed_iff :
    Reach step Allowed (initial Body Sender) state ↔
      Reach step Unguarded (initial Body Sender) state ∧ InOrder state.shared.mailbox := by
  constructor
  · intro reached
    refine ⟨reached.mono fun _ _ _ => trivial, ?_⟩
    exact (known_of_reach reached).inOrder_iff.mpr (kept_of_reach reached).follows.ordered
  · rintro ⟨reached, order⟩
    induction reached with
    | start => exact .start
    | step earlier _ taken ih =>
        have known := known_of_reach earlier
        obtain ⟨driven, pc, acted, rfl⟩ := threadStep_eq_some.mp taken
        obtain ⟨here, there, moved⟩ := (act_moves acted).underlying
        have before := ih (known.inOrder_before moved order)
        exact .step before ((kept_of_reach before).allowed known taken order) taken

end Model

/-- Two messages are taken, and the first throws; a third is sent. The next call takes the third,
and the call after it starts the first again. -/
def throwSchedule : List (Tid Unit × Choice ℕ) :=
  [(.sender (), .calm (.send (some 7))), (.sender (), .calm .go), (.sender (), .calm .go),
    (.sender (), .calm (.send (some 8))), (.sender (), .calm .go), (.sender (), .calm .go),
    (.logic, .calm .process), (.logic, .calm .go), (.logic, .calm .go), (.logic, .calm .go),
    (.logic, .throw),
    (.sender (), .calm (.send (some 9))), (.sender (), .calm .go), (.sender (), .calm .go),
    (.logic, .calm .process), (.logic, .calm .go), (.logic, .calm .go), (.logic, .calm .go),
    (.logic, .calm .go), (.logic, .calm .go),
    (.logic, .calm .process), (.logic, .calm .go), (.logic, .calm .go), (.logic, .calm .go)]

/-- **The thrower starts again**, and the message behind it has been overtaken. -/
theorem thrower_restarted :
    ∃ state : State ℕ Unit, Reach step Unguarded (initial ℕ Unit) state ∧
      state.shared.mailbox.accepted.map Entry.message = [some 7, some 8, some 9] ∧
      state.shared.mailbox.executed.map Entry.message = [some 7, some 9, some 7] ∧
      ¬ InOrder state.shared.mailbox := by
  obtain ⟨state, reached, test⟩ := exists_reach_of_run step (initial ℕ Unit) throwSchedule
    (fun state => decide (state.shared.mailbox.accepted.map Entry.message =
        [some 7, some 8, some 9] ∧
      state.shared.mailbox.executed.map Entry.message = [some 7, some 9, some 7] ∧
      state.shared.mailbox.executed.map Entry.ticket = [0, 2, 0])) (by decide +kernel)
  obtain ⟨accepted, executed, tickets⟩ := of_decide_eq_true test
  refine ⟨state, reached, accepted, executed, fun order => ?_⟩
  have once := order.2
  rw [tickets] at once
  exact absurd once (by decide)

end ActorModelServer.Actor.Throwing
