/-
**The threads of the test client, scheduled fairly.**

A schedule is fair to the client when `main` and its three threads go on whenever they can, and the
calls that can return do. What was proved of the sending and of the receiving side alone needs a
schedule that is fair to that side; between two of its steps a thread may be on the other side. It
does not stay there.

* `receive_fair`, `send_fair` — a schedule that is fair to the client is fair to its two sides.
* `later_main`, `later_logic` — a thread that can go on takes its next step.
-/

import ActorModelServer.Client.Machine

namespace ActorModelServer.ClientMachine

open ClientSend (Outbox)
open StepRuns (Projection Trace Enabled guarded guarded_eq_some)
open ThreadTable (threadStep_moved)

universe u

section Scheduling

variable {Buffer : Type u} {setup : Setup Buffer} {guard : System Buffer → Label Buffer → Prop}
  [∀ system label, Decidable (guard system label)] {system after : System Buffer}
  {label : Label Buffer}

/-- A guard that leaves the threads alone: it is about the server, and about how much `send` takes
when it takes something. -/
structure Free (guard : System Buffer → Label Buffer → Prop) : Prop where
  main : ∀ system choice, guard system (.main choice)
  recv : ∀ system choice, guard system (.recv choice)
  send : ∀ system choice, (∀ sendSize, choice ≠ .sendReturns (some sendSize)) →
    guard system (.send choice)
  logic : ∀ system, guard system .logic

/-- The threads go on when they can, and the calls that can return do. -/
structure Fair (trace : Trace (guarded (step setup) guard) initial) : Prop where
  main : trace.Fair (· = .main .go)
  recv : trace.Fair fun label => ∃ choice, label = .recv choice ∧ choice ≠ .recvFails
  send : trace.Fair fun label => ∃ choice, label = .send choice
  logic : trace.Fair (· = .logic)

/-- `main` has connected. -/
def Connected (system : System Buffer) : Prop :=
  system.main = .at .sendPing ∨ system.main.pings = 1

theorem Connected.threads (connected : Connected system)
    (threads : system.client.threads = system.main.threads) :
    system.client.logicThread = true ∧ system.client.recvThread = true ∧
      system.client.sendThread = true := by
  have all : system.main.threads = (true, true, true) := by
    unfold Connected at connected
    generalize system.main = main at connected
    rcases main with place | place
    · cases place <;> first | rfl | simp [MainPc.pings, Place.pinged] at connected
    · rfl
  rw [all] at threads
  simpa [Client.threads] using threads

/-- Once connected, `main` has pinged or is about to. -/
theorem Connected.step (connected : Connected system)
    (taken : ClientMachine.step setup system label = some after) : Connected after := by
  cases step_moves taken with
  | main choice client pc moved =>
      unfold Connected at connected ⊢
      generalize system.main = main at moved connected
      cases moved <;> simp_all [MainPc.pings, Place.pinged]
  | _ => exact connected

variable {trace : Trace (guarded (step setup) guard) initial} {time : ℕ}

theorem sides_always (trace : Trace (guarded (step setup) guard) initial) (time : ℕ) :
    Sides setup (trace.state time) :=
  trace.always sides_initial (fun _ _ _ sides taken => sides.step (guarded_eq_some.mp taken).2) time

theorem step_always (trace : Trace (guarded (step setup) guard) initial) (time : ℕ) :
    step setup (trace.state time) (trace.label time) = some (trace.state (time + 1)) :=
  (guarded_eq_some.mp (trace.steps time)).2

theorem connected_lasts (connected : Connected (trace.state time)) :
    ∀ later, time ≤ later → Connected (trace.state later) :=
  Trace.lasts Connected connected fun later _ connected =>
    connected.step (step_always trace later)

/-- The receiving side of a run. -/
def receiveTrace (trace : Trace (guarded (step setup) guard) initial) :
    Trace (ClientReceive.step setup.lib setup.capacity) (ClientReceive.initial Unit) :=
  ((receiveProjection setup).guarded guard).trace receiving_initial trace

/-- The sending side of a run. -/
def sendTrace (trace : Trace (guarded (step setup) guard) initial) :
    Trace (ClientSend.step setup.bufferLib) (ClientSend.initial Buffer Caller) :=
  ((sendProjection setup).guarded guard).trace sending_initial trace

/-- Nothing keeps the logic thread. -/
theorem logicAct_acts {client : Client Buffer} {pc : LogicPc Buffer}
    (ordered : ClientReceive.Ordered client.inbox pc.place) (carries : Carries setup pc.caller)
    (unfinished : pc.place ≠ .logicDone) :
    ∃ client' pc', logicAct setup client pc = some (client', pc') := by
  rcases pc with place | ⟨place, buffer, count⟩
  · obtain ⟨inbox, place', acted⟩ : ∃ inbox place', ClientReceive.act setup.lib setup.capacity
        client.inbox place .go = some (inbox, place') := ordered.acts unfinished
    by_cases processing : ∃ buffer count, place = .processing buffer count
    · obtain ⟨buffer, count, rfl⟩ := processing
      exact ⟨_, _, rfl⟩
    · have loops : logicAct setup client (.looping place) =
          some ({ client with inbox := inbox }, .looping place') := by
        unfold logicAct
        split
        · rename_i same
          cases same
          exact absurd ⟨_, _, rfl⟩ processing
        · rename_i same
          cases same
          rw [acted]
          rfl
        · rename_i same
          cases same
        · rename_i same
          cases same
      exact ⟨_, _, loops⟩
  · have place : place = .caller ∨ place = .pushing setup.encodedPing ∨ place = .releasing :=
      carries
    rcases place with rfl | rfl | rfl
    · exact ⟨_, _, rfl⟩
    · exact ⟨_, _, rfl⟩
    · exact ⟨_, _, rfl⟩

theorem logic_enabled (free : Free guard) (sides : Sides setup system)
    (created : system.client.logicThread = true) (unfinished : system.logic.place ≠ .logicDone) :
    Enabled (guarded (step setup) guard) (· = .logic) system := by
  obtain ⟨client, pc, acted⟩ := logicAct_acts sides.receiving.logic
    sides.accounts.logic unfinished
  obtain ⟨next, taken⟩ := step_logic created acted
  exact ⟨.logic, next, rfl, guarded_eq_some.mpr ⟨free.logic _, taken⟩⟩

/-- How many steps the logic thread is in `SendPacket`. -/
def LogicPc.inSendPacket : LogicPc Buffer → ℕ
  | .looping _ => 0
  | .pinging (.pushing _) _ _ => 3
  | .pinging .releasing _ _ => 2
  | .pinging _ _ _ => 1

/-- The logic thread comes out of `SendPacket`. -/
theorem inSendPacket_step (sides : Sides setup system)
    (taken : step setup system label = some after)
    (other : (receiveLabel system label).1 ≠ .logicThread) :
    after.logic.inSendPacket ≤ system.logic.inSendPacket ∧
      (label = .logic → after.logic.inSendPacket < system.logic.inSendPacket) := by
  have carries := sides.accounts.logic
  cases step_moves taken with
  | logic client pc created moved =>
      unfold receiveLabel at other
      generalize system.logic = logic at moved other carries
      have lower : pc.inSendPacket < logic.inSendPacket := by
        cases moved with
        | processed | answers | loops => exact absurd rfl other
        | answered buffer count => exact Nat.one_pos
        | sends place place' outbox buffer count busy acted =>
            rcases Carries.step carries busy acted with ⟨rfl, rfl, -⟩ | ⟨rfl, rfl, -⟩
            · exact Nat.lt_succ_self 2
            · exact Nat.lt_succ_self 1
      exact ⟨lower.le, fun _ => lower⟩
  | _ => exact ⟨Nat.le_refl _, fun same => by cases same⟩

/-- The send thread goes on when the sending side does; `send` may fail. -/
theorem send_enabled {choice : ClientSend.Choice Buffer} {outbox : Outbox Buffer}
    {pc : ClientSend.Pc Buffer} (free : Free guard) (created : system.client.sendThread = true)
    (acted : ClientSend.act setup.bufferLib system.client.outbox system.send choice =
      some (outbox, pc)) :
    Enabled (guarded (step setup) guard) (fun label => ∃ choice, label = .send choice) system := by
  cases choice with
  | sendReturns sendSize =>
      have fails : ∃ result, ClientSend.act setup.bufferLib system.client.outbox system.send
          (.sendReturns none) = some result := by
        generalize system.send = place at acted
        cases place with
        | sending buffer restSize =>
            exact ⟨(system.client.outbox.send buffer none, .failed buffer),
              by simp [ClientSend.act]⟩
        | popLoop restSize => cases restSize <;> cases acted
        | _ => cases acted
      obtain ⟨⟨outbox, pc⟩, acted⟩ := fails
      obtain ⟨next, taken⟩ := step_send created acted
      exact ⟨.send (.sendReturns none), next, ⟨_, rfl⟩,
        guarded_eq_some.mpr ⟨free.send _ _ (fun _ same => by cases same), taken⟩⟩
  | _ =>
      obtain ⟨next, taken⟩ := step_send created acted
      exact ⟨_, next, ⟨_, rfl⟩,
        guarded_eq_some.mpr ⟨free.send _ _ (fun _ same => by cases same), taken⟩⟩

/-- The receiving side is served fairly. -/
theorem receive_fair (free : Free guard) (fair : Fair trace)
    (connected : Connected (trace.state time)) :
    ClientReceive.Fair (receiveTrace trace) where
  recv := by
    refine Projection.fair _ fair.recv (fun _ => 0) time ?_ ?_
    · rintro later order ⟨⟨thread, choice⟩, next, ⟨rfl, normal⟩, taken⟩
      obtain ⟨acted, -⟩ := threadStep_moved taken
      have created := ((connected_lasts connected later order).threads
        (sides_always trace later).threads).2.1
      obtain ⟨next, taken⟩ := step_recv created acted
      exact ⟨.recv choice, next, ⟨choice, rfl, normal⟩,
        guarded_eq_some.mpr ⟨free.recv _ _, taken⟩⟩
    · rintro later - - unkind
      refine ⟨Nat.le_refl 0, ?_⟩
      rintro ⟨choice, same, normal⟩
      rw [same] at unkind
      exact absurd ⟨rfl, normal⟩ unkind
  logic := by
    refine Projection.fair _ fair.logic (fun system => system.logic.inSendPacket) time ?_ ?_
    · rintro later order ⟨⟨thread, choice⟩, next, rfl, taken⟩
      obtain ⟨acted, -⟩ := threadStep_moved taken
      have created := ((connected_lasts connected later order).threads
        (sides_always trace later).threads).1
      refine logic_enabled free (sides_always trace later) created fun done => ?_
      have acted : ClientReceive.act _ _ _ (trace.state later).logic.place choice = _ := acted
      rw [done] at acted
      cases choice <;> cases acted
    · intro later _ _ unkind
      exact inSendPacket_step (sides_always trace later) (step_always trace later) unkind

/-- A caller that goes on in `SendPacket` is there. -/
theorem busy_of_enabled {name : Caller} {state : ClientSend.State Buffer Caller}
    (possible : Enabled (ClientSend.step setup.bufferLib) (fun label => label = (.caller name, .go))
      state) : state.pc (.caller name) ≠ .caller := by
  obtain ⟨-, next, rfl, taken⟩ := possible
  obtain ⟨acted, -⟩ := threadStep_moved taken
  intro idle
  rw [idle] at acted
  cases acted

theorem main_pings (busy : system.main.caller ≠ .caller) :
    ∃ place, system.main = .pinging place ∧ place ≠ .caller := by
  generalize system.main = main at busy ⊢
  rcases main with place | place
  · exact absurd rfl busy
  · exact ⟨place, rfl, busy⟩

theorem logic_pings (busy : system.logic.caller ≠ .caller) :
    ∃ place buffer count, system.logic = .pinging place buffer count ∧ place ≠ .caller := by
  generalize system.logic = logic at busy ⊢
  rcases logic with place | ⟨place, buffer, count⟩
  · exact absurd rfl busy
  · exact ⟨place, buffer, count, rfl, busy⟩

/-- `main` in `SendPacket` goes on. -/
theorem main_acts {place : ClientSend.Pc Buffer} (sides : Sides setup system)
    (here : system.main = .pinging place) :
    ∃ client pc, mainAct setup system .go = some (client, pc) := by
  have carries := sides.accounts.main
  rw [here] at carries
  unfold mainAct
  rw [here]
  rcases carries with same | same | same
  · obtain rfl : place = _ := same
    exact ⟨_, _, rfl⟩
  · obtain rfl : place = _ := same
    exact ⟨_, _, rfl⟩
  · obtain rfl : place = _ := same
    exact ⟨_, _, rfl⟩

/-- `main` goes on when it can. -/
theorem main_enabled {client : Client Buffer} {pc : MainPc Buffer} (free : Free guard)
    (acted : mainAct setup system .go = some (client, pc)) :
    Enabled (guarded (step setup) guard) (· = .main .go) system :=
  ⟨.main .go, _, rfl, guarded_eq_some.mpr ⟨free.main _ _, step_main acted⟩⟩

/-- The sending side is served fairly. -/
theorem send_fair (free : Free guard) (fair : Fair trace)
    (connected : Connected (trace.state time)) :
    ClientSend.Fair (sendTrace trace) where
  sender := by
    refine Projection.fair _ fair.send (fun _ => 0) time ?_ ?_
    · rintro later order ⟨⟨thread, choice⟩, next, rfl, taken⟩
      obtain ⟨acted, -⟩ := threadStep_moved taken
      have created := ((connected_lasts connected later order).threads
        (sides_always trace later).threads).2.2
      exact send_enabled free created acted
    · rintro later - - unkind
      refine ⟨Nat.le_refl 0, ?_⟩
      rintro ⟨choice, same⟩
      rw [same] at unkind
      exact absurd rfl unkind
  callers := by
    intro name
    cases name with
    | main =>
        refine Projection.fair _ fair.main (fun _ => 0) time ?_ ?_
        · intro later _ possible
          obtain ⟨place, here, -⟩ := main_pings (busy_of_enabled possible)
          obtain ⟨client, pc, acted⟩ := main_acts (sides_always trace later) here
          exact main_enabled free acted
        · intro later _ possible unkind
          obtain ⟨place, here, busy⟩ := main_pings (busy_of_enabled possible)
          refine ⟨Nat.le_refl 0, fun same => ?_⟩
          rw [same] at unkind
          refine absurd ?_ unkind
          show sendLabel setup (trace.state later) (.main .go) = _
          unfold sendLabel
          rw [here, ← callerChoice_of_ne busy]
    | logic =>
        refine Projection.fair _ fair.logic (fun _ => 0) time ?_ ?_
        · intro later order possible
          obtain ⟨place, buffer, count, here, busy⟩ := logic_pings (busy_of_enabled possible)
          have created := ((connected_lasts connected later order).threads
            (sides_always trace later).threads).1
          refine logic_enabled free (sides_always trace later) created ?_
          rw [here]
          exact fun same => by cases same
        · intro later _ possible unkind
          obtain ⟨place, buffer, count, here, busy⟩ := logic_pings (busy_of_enabled possible)
          refine ⟨Nat.le_refl 0, fun same => ?_⟩
          rw [same] at unkind
          refine absurd ?_ unkind
          show sendLabel setup (trace.state later) .logic = _
          unfold sendLabel
          rw [here, ← callerChoice_of_ne busy]
    | others =>
        refine Projection.fair _ fair.main (fun _ => 0) time ?_ ?_
        · rintro later order ⟨-, next, rfl, taken⟩
          obtain ⟨acted, -⟩ := threadStep_moved taken
          cases acted
        · rintro later order ⟨-, next, rfl, taken⟩
          obtain ⟨acted, -⟩ := threadStep_moved taken
          cases acted

/-- `main` takes its next step. -/
theorem later_main {place : MainPc Buffer} (free : Free guard) (fair : Fair trace)
    (Before : System Buffer → Prop) (here : (trace.state time).main = place)
    (before : ∀ later, time ≤ later → Before (trace.state later))
    (possible : ∀ later, time ≤ later → (trace.state later).main = place →
      ∃ client pc, mainAct setup (trace.state later) .go = some (client, pc)) :
    trace.Later time fun after => ∃ system, Before system ∧ system.main = place ∧
      MainMoves setup system place after.client after.main := by
  refine Trace.later_of_fair fair.main (fun system => system.main = place) here ?_ ?_
  · intro later order here
    obtain ⟨client, pc, acted⟩ := possible later order here
    exact main_enabled free acted
  · intro later order here
    have moves := step_moves (step_always trace later)
    have before := before later order
    generalize trace.state (later + 1) = after, trace.label later = label at moves ⊢
    cases moves with
    | main choice client pc moved => exact .inr ⟨_, before, here, here ▸ moved⟩
    | _ => exact .inl ⟨here, fun same => by cases same⟩

/-- The logic thread takes its next step. -/
theorem later_logic {place : LogicPc Buffer} (free : Free guard) (fair : Fair trace)
    (connected : Connected (trace.state time)) (Before : System Buffer → Prop)
    (here : (trace.state time).logic = place) (unfinished : place.place ≠ .logicDone)
    (before : ∀ later, time ≤ later → Before (trace.state later)) :
    trace.Later time fun after => ∃ system, Before system ∧ system.logic = place ∧
      LogicMoves setup system.client place after.client after.logic := by
  refine Trace.later_of_fair fair.logic (fun system => system.logic = place) here ?_ ?_
  · intro later order here
    have created := ((connected_lasts connected later order).threads
      (sides_always trace later).threads).1
    exact logic_enabled free (sides_always trace later) created (by rwa [here])
  · intro later order here
    have moves := step_moves (step_always trace later)
    have before := before later order
    generalize trace.state (later + 1) = after, trace.label later = label at moves ⊢
    cases moves with
    | logic client pc created moved => exact .inr ⟨_, before, here, here ▸ moved⟩
    | _ => exact .inl ⟨here, fun same => by cases same⟩

end Scheduling

end ActorModelServer.ClientMachine
