/-
**How the test client sends.**

`SimpleClient::SendPacket` pushes an encoded buffer on `sendBufferQueue` and releases the semaphore
`sendThreadEventHandle`; any number of threads call it. `RunSendThread` waits for the semaphore and
runs `DoSend`, which takes the size of the queue once and sends that many buffers. `needStop` may be
set by any thread at any time, and `WaitStopAllThreads` releases the semaphore once more.

* `sends_ordered` — what `send` got is what was pushed, in order and once; every buffer that left
  the queue is freed once; the queue is never popped when it is empty, and nothing is sent behind a
  send that failed.
* `unsent_awaited` — a queue with buffers never waits for a thread that nobody will wake.
-/

import ActorModelServer.Library.ThreadTable
import Mathlib.Algebra.Group.Nat.Defs

namespace ActorModelServer.ClientSend

open ThreadTable (threadStep_moved)
open StepRuns (Reach Unguarded exists_reach_of_run exists_reach_of_runGuarded)

universe u v

section Model

/-- What the sending code uses of a `NetBuffer`. -/
structure BufferLib (Buffer : Type u) where
  isEncoded : Buffer → Bool
  encode : Buffer → Buffer
  /-- The `GetAllUseSize` bytes from `m_pSerializeBuffer` on. -/
  bytes : Buffer → List UInt8

/-- The sending fields of a client, and what it has done. -/
structure Outbox (Buffer : Type u) where
  needStop : Bool
  sendBufferQueue : List Buffer
  /-- The count of the semaphore. -/
  sendThreadEventHandle : ℕ
  /-- Everything that entered the queue, in order. -/
  pushed : List Buffer
  /-- Every call of `send`: the buffer, and how many bytes it took; `none` is `SOCKET_ERROR`. -/
  sends : List (Buffer × Option ℕ)
  freed : List Buffer
  deriving DecidableEq

/-- `LONG_MAX`, the limit of the semaphore. -/
def longMax : ℕ := 2 ^ 31 - 1

/-- `static_cast<int>` of a size. -/
def toInt (size : ℕ) : ℤ :=
  if size % 2 ^ 32 < 2 ^ 31 then (size % 2 ^ 32 : ℕ) else (size % 2 ^ 32 : ℕ) - 2 ^ 32

variable {Buffer : Type u}

namespace Outbox

/-- A client that starts. -/
def empty : Outbox Buffer := ⟨false, [], 0, [], [], []⟩

/-- `sendBufferQueue.push` under `sendBufferDequeMutex`. -/
def push (outbox : Outbox Buffer) (buffer : Buffer) : Outbox Buffer :=
  { outbox with
    sendBufferQueue := outbox.sendBufferQueue ++ [buffer]
    pushed := outbox.pushed ++ [buffer] }

/-- `ReleaseSemaphore(sendThreadEventHandle, 1, nullptr)`; it fails at the limit. -/
def releaseSemaphore (outbox : Outbox Buffer) : Outbox Buffer :=
  { outbox with
    sendThreadEventHandle :=
      if outbox.sendThreadEventHandle < longMax then outbox.sendThreadEventHandle + 1
      else outbox.sendThreadEventHandle }

/-- `needStop = true`. -/
def stop (outbox : Outbox Buffer) : Outbox Buffer := { outbox with needStop := true }

/-- `send`. -/
def send (outbox : Outbox Buffer) (buffer : Buffer) (sendSize : Option ℕ) : Outbox Buffer :=
  { outbox with sends := outbox.sends ++ [(buffer, sendSize)] }

/-- `NetBuffer::Free`. -/
def free (outbox : Outbox Buffer) (buffer : Buffer) : Outbox Buffer :=
  { outbox with freed := outbox.freed ++ [buffer] }

/-- The buffers `send` got. -/
def sent (outbox : Outbox Buffer) : List Buffer := outbox.sends.map Prod.fst

/-- The bytes on the connection. -/
def wire (outbox : Outbox Buffer) (lib : BufferLib Buffer) : List UInt8 :=
  outbox.sends.flatMap fun call => (lib.bytes call.1).take (call.2.getD 0)

end Outbox

/-- Where a thread is. -/
inductive Pc (Buffer : Type u)
  /- a thread that may call `SendPacket`, and in `SendPacket` before the push and behind it -/
  | caller
  | pushing (buffer : Buffer)
  | releasing
  /- `RunSendThread` -/
  | loopHead
  | waiting
  /- `DoSend`: before the size is taken, at the head of the loop, before and behind `send` -/
  | takeSize
  | popLoop (restSize : ℕ)
  | sending (buffer : Buffer) (restSize : ℕ)
  | freeing (buffer : Buffer) (restSize : ℕ)
  | failed (buffer : Buffer)
  | freeingLast (buffer : Buffer)
  | done
  /- `front` of an empty queue -/
  | undefined
  deriving DecidableEq

/-- What a thread does next. -/
inductive Choice (Buffer : Type u)
  | go
  /- `SendPacket`; a null pointer is `none` -/
  | sendPacket (packetBuffer : Option Buffer)
  | setNeedStop
  /- `ReleaseSemaphore` of `WaitStopAllThreads` -/
  | wake
  /- `send` returns; none is `SOCKET_ERROR` -/
  | sendReturns (sendSize : Option ℕ)
  /- a step of a caller that is none of this -/
  | other
  deriving DecidableEq

/-- The check and the encoding at the entry of `SendPacket`. -/
def enterSendPacket (lib : BufferLib Buffer) (packetBuffer : Option Buffer) : Pc Buffer :=
  match packetBuffer with
  | none => .caller
  | some buffer => .pushing (if lib.isEncoded buffer then buffer else lib.encode buffer)

/-- One atomic step of a thread. -/
def act (lib : BufferLib Buffer) (outbox : Outbox Buffer) (pc : Pc Buffer)
    (choice : Choice Buffer) : Option (Outbox Buffer × Pc Buffer) :=
  match pc, choice with
  | .caller, .sendPacket packetBuffer => some (outbox, enterSendPacket lib packetBuffer)
  | .caller, .setNeedStop => some (outbox.stop, .caller)
  | .caller, .wake => some (outbox.releaseSemaphore, .caller)
  | .caller, .other => some (outbox, .caller)
  | .pushing buffer, .go => some (outbox.push buffer, .releasing)
  | .releasing, .go => some (outbox.releaseSemaphore, .caller)
  | .loopHead, .go => some (outbox, if outbox.needStop then .done else .waiting)
  | .waiting, .go =>
      if outbox.sendThreadEventHandle = 0 then none
      else
        some ({ outbox with sendThreadEventHandle := outbox.sendThreadEventHandle - 1 }, .takeSize)
  -- a size of zero or less ends the loop at once
  | .takeSize, .go => some (outbox, .popLoop (toInt outbox.sendBufferQueue.length).toNat)
  | .popLoop 0, .go => some (outbox, .loopHead)
  | .popLoop (restSize + 1), .go =>
      match outbox.sendBufferQueue with
      | [] => some (outbox, .undefined)
      -- `SendPacket` refuses null pointers, so the buffer is none
      | buffer :: rest => some ({ outbox with sendBufferQueue := rest }, .sending buffer restSize)
  | .sending buffer restSize, .sendReturns sendSize =>
      -- `send` takes no more than it gets
      if sendSize.getD 0 ≤ (lib.bytes buffer).length then
        some (outbox.send buffer sendSize,
          if sendSize.isSome then .freeing buffer restSize else .failed buffer)
      else none
  | .freeing buffer restSize, .go => some (outbox.free buffer, .popLoop restSize)
  | .failed buffer, .go => some (outbox.stop, .freeingLast buffer)
  | .freeingLast buffer, .go => some (outbox.free buffer, .loopHead)
  | _, _ => none

/-- The send thread, and any other threads. -/
inductive Tid (Caller : Type v)
  | sendThread
  | caller (name : Caller)
  deriving DecidableEq

/-- Where each thread starts. -/
def initialPc {Caller : Type v} : Tid Caller → Pc Buffer
  | .sendThread => .loopHead
  | .caller _ => .caller

/-- The state of the machine. -/
abbrev State (Buffer : Type u) (Caller : Type v) :=
  ThreadTable.System (Outbox Buffer) (Tid Caller) (Pc Buffer)

/-- The start: nothing was pushed. -/
def initial (Buffer : Type u) (Caller : Type v) : State Buffer Caller := ⟨.empty, initialPc⟩

/-- One step of the machine. -/
def step {Caller : Type v} [DecidableEq Caller] (lib : BufferLib Buffer) :
    State Buffer Caller → Tid Caller × Choice Buffer → Option (State Buffer Caller) :=
  ThreadTable.threadStep (act lib)

/-- The place is one of the send thread. -/
def Pc.ofSendThread : Pc Buffer → Bool
  | .caller => false
  | .pushing _ => false
  | .releasing => false
  | _ => true

/-- The buffer the send thread has in hand. -/
def Pc.held : Pc Buffer → List Buffer
  | .sending buffer _ => [buffer]
  | .freeing buffer _ => [buffer]
  | .failed buffer => [buffer]
  | .freeingLast buffer => [buffer]
  | _ => []

/-- The buffer in hand that `send` has got. -/
def Pc.handed : Pc Buffer → List Buffer
  | .sending _ _ => []
  | pc => pc.held

/-- How many buffers `DoSend` will still take from the queue. -/
def Pc.rest : Pc Buffer → ℕ
  | .popLoop restSize => restSize
  | .sending _ restSize => restSize
  | .freeing _ restSize => restSize
  | _ => 0

end Model

/-! ### What one step does -/

section Steps

variable {Buffer : Type u} {lib : BufferLib Buffer} {outbox outbox' : Outbox Buffer}
  {pc pc' : Pc Buffer} {choice : Choice Buffer}

/-- What a caller does: the queue may have grown. -/
inductive CallerMoves (lib : BufferLib Buffer) (outbox : Outbox Buffer) :
    Pc Buffer → Outbox Buffer → Pc Buffer → Prop
  | stays : CallerMoves lib outbox .caller outbox .caller
  | entered (buffer : Buffer) :
      CallerMoves lib outbox .caller outbox
        (.pushing (if lib.isEncoded buffer then buffer else lib.encode buffer))
  | stopped : CallerMoves lib outbox .caller outbox.stop .caller
  | woken : CallerMoves lib outbox .caller outbox.releaseSemaphore .caller
  | pushed (buffer : Buffer) :
      CallerMoves lib outbox (.pushing buffer) (outbox.push buffer) .releasing
  | released : CallerMoves lib outbox .releasing outbox.releaseSemaphore .caller

/-- What the send thread does. -/
inductive SenderMoves (lib : BufferLib Buffer) (outbox : Outbox Buffer) :
    Pc Buffer → Outbox Buffer → Pc Buffer → Prop
  | ended (stopped : outbox.needStop = true) : SenderMoves lib outbox .loopHead outbox .done
  | looped (running : outbox.needStop = false) : SenderMoves lib outbox .loopHead outbox .waiting
  | signaled (positive : 0 < outbox.sendThreadEventHandle) :
      SenderMoves lib outbox .waiting
        { outbox with sendThreadEventHandle := outbox.sendThreadEventHandle - 1 } .takeSize
  | sized : SenderMoves lib outbox .takeSize outbox
      (.popLoop (toInt outbox.sendBufferQueue.length).toNat)
  | drained : SenderMoves lib outbox (.popLoop 0) outbox .loopHead
  | overrun (restSize : ℕ) (none : outbox.sendBufferQueue = []) :
      SenderMoves lib outbox (.popLoop (restSize + 1)) outbox .undefined
  | popped (restSize : ℕ) (buffer : Buffer) (rest : List Buffer)
      (front : outbox.sendBufferQueue = buffer :: rest) :
      SenderMoves lib outbox (.popLoop (restSize + 1)) { outbox with sendBufferQueue := rest }
        (.sending buffer restSize)
  | sent (buffer : Buffer) (restSize sendSize : ℕ) (most : sendSize ≤ (lib.bytes buffer).length) :
      SenderMoves lib outbox (.sending buffer restSize) (outbox.send buffer (some sendSize))
        (.freeing buffer restSize)
  | refused (buffer : Buffer) (restSize : ℕ) :
      SenderMoves lib outbox (.sending buffer restSize) (outbox.send buffer none) (.failed buffer)
  | freed (buffer : Buffer) (restSize : ℕ) :
      SenderMoves lib outbox (.freeing buffer restSize) (outbox.free buffer) (.popLoop restSize)
  | gaveUp (buffer : Buffer) :
      SenderMoves lib outbox (.failed buffer) outbox.stop (.freeingLast buffer)
  | freedLast (buffer : Buffer) :
      SenderMoves lib outbox (.freeingLast buffer) (outbox.free buffer) .loopHead

/-- **Inversion of a caller's step.** -/
theorem act_caller (acted : act lib outbox pc choice = some (outbox', pc'))
    (place : pc.ofSendThread = false) : CallerMoves lib outbox pc outbox' pc' := by
  revert acted
  fun_cases act lib outbox pc choice <;> intro acted
  case case1 packetBuffer =>
    cases acted
    cases packetBuffer with
    | none => exact .stays
    | some buffer => exact .entered buffer
  case case2 | case3 | case4 | case5 | case6 =>
    cases acted
    constructor
  case case19 => cases acted
  all_goals cases place

/-- **Inversion of a step of the send thread.** -/
theorem act_sender (acted : act lib outbox pc choice = some (outbox', pc'))
    (place : pc.ofSendThread = true) : SenderMoves lib outbox pc outbox' pc' := by
  revert acted
  fun_cases act lib outbox pc choice <;> intro acted
  case case7 =>
    cases acted
    cases stopped : outbox.needStop with
    | true => exact .ended stopped
    | false => exact .looped stopped
  case case9 positive =>
    cases acted
    exact .signaled (Nat.pos_of_ne_zero positive)
  case case14 buffer restSize sendSize most =>
    cases acted
    cases sendSize with
    | none => exact .refused buffer restSize
    | some sendSize => exact .sent buffer restSize sendSize most
  case case12 restSize none =>
    cases acted
    exact .overrun restSize none
  case case13 restSize buffer rest front =>
    cases acted
    exact .popped restSize buffer rest front
  case case10 | case11 | case16 | case17 | case18 =>
    cases acted
    constructor
  case case8 | case15 | case19 => cases acted
  all_goals cases place

end Steps

/-! ### Order and ownership -/

section Order

variable {Buffer : Type u} {Caller : Type v} {lib : BufferLib Buffer}
  {outbox outbox' : Outbox Buffer} {pc pc' : Pc Buffer}

/-- Every `send` succeeded. -/
def Outbox.Intact (outbox : Outbox Buffer) : Prop := ∀ call ∈ outbox.sends, call.2 ≠ none

/-- The last `send` failed, and no other one did. -/
def Outbox.Broken (outbox : Outbox Buffer) : Prop :=
  ∃ front buffer, outbox.sends = front ++ [(buffer, none)] ∧ ∀ call ∈ front, call.2 ≠ none

/-- What the place of the send thread says of the calls of `send`. -/
def Failures (outbox : Outbox Buffer) : Pc Buffer → Prop
  | .loopHead => outbox.Intact ∨ outbox.Broken ∧ outbox.needStop = true
  | .failed _ => outbox.Broken
  | .freeingLast _ => outbox.Broken ∧ outbox.needStop = true
  | .done => (outbox.Intact ∨ outbox.Broken) ∧ outbox.needStop = true
  | _ => outbox.Intact

/-- **The accounts of the sending client.** -/
structure Ordered (outbox : Outbox Buffer) (pc : Pc Buffer) : Prop where
  place : pc.ofSendThread = true
  defined : pc ≠ .undefined
  pushed : outbox.pushed = outbox.freed ++ pc.held ++ outbox.sendBufferQueue
  sent : outbox.sent = outbox.freed ++ pc.handed
  enough : pc.rest ≤ outbox.sendBufferQueue.length
  failures : Failures outbox pc

theorem ordered_empty : Ordered (Outbox.empty : Outbox Buffer) .loopHead where
  place := rfl
  defined := fun same => by cases same
  pushed := rfl
  sent := rfl
  enough := Nat.le_refl 0
  failures := .inl fun _ member => by cases member

/-- A size never gets larger by the cast. -/
theorem toInt_le (size : ℕ) : (toInt size).toNat ≤ size := by
  unfold toInt
  split <;> omega

theorem toInt_eq {size : ℕ} (small : size < 2 ^ 31) : (toInt size).toNat = size := by
  rw [toInt, if_pos (by omega)]
  omega

/-- Behind a call of `send` that succeeds. -/
theorem Outbox.Intact.send (intact : outbox.Intact) (buffer : Buffer) (sendSize : ℕ) :
    (outbox.send buffer (some sendSize)).Intact := by
  intro call member
  rcases List.mem_append.mp member with before | new
  · exact intact call before
  · rw [List.mem_singleton.mp new]
    simp

/-- Behind the call of `send` that fails. -/
theorem Outbox.Intact.refused (intact : outbox.Intact) (buffer : Buffer) :
    (outbox.send buffer none).Broken :=
  ⟨outbox.sends, buffer, rfl, intact⟩

/-- The callers only append to the queue, and may set `needStop`. -/
structure Grows (outbox outbox' : Outbox Buffer) : Prop where
  grown : ∃ added, outbox'.sendBufferQueue = outbox.sendBufferQueue ++ added ∧
    outbox'.pushed = outbox.pushed ++ added
  sends : outbox'.sends = outbox.sends
  freed : outbox'.freed = outbox.freed
  stops : outbox.needStop = true → outbox'.needStop = true

theorem CallerMoves.grows (moved : CallerMoves lib outbox pc outbox' pc') :
    Grows outbox outbox' := by
  have unchanged : ∃ added, outbox.sendBufferQueue = outbox.sendBufferQueue ++ added ∧
      outbox.pushed = outbox.pushed ++ added := ⟨[], by simp, by simp⟩
  cases moved with
  | stays | entered buffer | woken | released => exact ⟨unchanged, rfl, rfl, id⟩
  | stopped => exact ⟨unchanged, rfl, rfl, fun _ => rfl⟩
  | pushed buffer => exact ⟨⟨[buffer], rfl, rfl⟩, rfl, rfl, id⟩

/-- What the send thread knows outlives the steps of the callers. -/
theorem Ordered.grows (ordered : Ordered outbox pc) (grows : Grows outbox outbox') :
    Ordered outbox' pc := by
  obtain ⟨added, queue, pushed⟩ := grows.grown
  refine ⟨ordered.place, ordered.defined, ?_, ?_, ?_, ?_⟩
  · rw [pushed, queue, grows.freed, ordered.pushed, List.append_assoc _ outbox.sendBufferQueue]
  · rw [Outbox.sent, grows.sends, grows.freed]
    exact ordered.sent
  · rw [queue, List.length_append]
    exact Nat.le_add_right_of_le ordered.enough
  · have failures := ordered.failures
    unfold Failures Outbox.Intact Outbox.Broken at failures ⊢
    rw [grows.sends]
    cases pc with
    | loopHead => exact failures.imp_right fun broken => ⟨broken.1, grows.stops broken.2⟩
    | freeingLast buffer => exact ⟨failures.1, grows.stops failures.2⟩
    | done => exact ⟨failures.1, grows.stops failures.2⟩
    | _ => exact failures

/-- **A step of the send thread keeps the accounts.** -/
theorem Ordered.step (ordered : Ordered outbox pc) (moved : SenderMoves lib outbox pc outbox' pc') :
    Ordered outbox' pc' := by
  obtain ⟨-, -, pushed, sent, enough, failures⟩ := ordered
  cases moved with
  | ended stopped =>
      exact ⟨rfl, by simp, pushed, sent, enough, failures.imp_right And.left, stopped⟩
  | looped running =>
      refine ⟨rfl, by simp, pushed, sent, enough, failures.resolve_right fun broken => ?_⟩
      rw [running] at broken
      cases broken.2
  | signaled positive => exact ⟨rfl, by simp, pushed, sent, enough, failures⟩
  | sized =>
      exact ⟨rfl, by simp, pushed, sent, toInt_le outbox.sendBufferQueue.length, failures⟩
  | drained => exact ⟨rfl, by simp, pushed, sent, enough, .inl failures⟩
  | overrun restSize none =>
      rw [none] at enough
      exact absurd enough (Nat.not_succ_le_zero restSize)
  | popped restSize buffer rest front =>
      refine ⟨rfl, by simp, ?_, sent, ?_, failures⟩
      · rw [front] at pushed
        simpa [Pc.held] using pushed
      · rw [front] at enough
        exact Nat.le_of_succ_le_succ enough
  | sent buffer restSize sendSize most =>
      refine ⟨rfl, by simp, pushed, ?_, enough, Outbox.Intact.send failures buffer sendSize⟩
      simpa [Outbox.sent, Outbox.send, Pc.handed, Pc.held] using sent
  | refused buffer restSize =>
      refine ⟨rfl, by simp, pushed, ?_, Nat.zero_le _, Outbox.Intact.refused failures buffer⟩
      simpa [Outbox.sent, Outbox.send, Pc.handed, Pc.held] using sent
  | freed buffer restSize =>
      refine ⟨rfl, by simp, ?_, ?_, enough, failures⟩
      · simpa [Outbox.free, Pc.held] using pushed
      · simpa [Outbox.free, Outbox.sent, Pc.handed, Pc.held] using sent
  | gaveUp buffer => exact ⟨rfl, by simp, pushed, sent, enough, failures, rfl⟩
  | freedLast buffer =>
      refine ⟨rfl, by simp, ?_, ?_, enough, .inr failures⟩
      · simpa [Outbox.free, Pc.held] using pushed
      · simpa [Outbox.free, Outbox.sent, Pc.handed, Pc.held] using sent

/-- With nothing in hand, what was pushed was given to `send` or is in the queue. -/
theorem Ordered.length_sends (ordered : Ordered outbox pc) (bare : pc.held = []) :
    outbox.pushed.length = outbox.sends.length + outbox.sendBufferQueue.length := by
  have handed : pc.handed = [] := by
    cases pc with
    | sending => rfl
    | _ => exact bare
  have sent := congrArg List.length ordered.sent
  rw [Outbox.sent, List.length_map, handed, List.append_nil] at sent
  rw [ordered.pushed, bare, List.append_nil, List.length_append, sent]

/-- What is in the queue was pushed and is not sent. -/
theorem Ordered.sends_le (ordered : Ordered outbox pc) :
    outbox.sends.length + outbox.sendBufferQueue.length ≤ outbox.pushed.length := by
  have handed : pc.handed.length ≤ pc.held.length := by cases pc <;> simp [Pc.handed, Pc.held]
  have sent := congrArg List.length ordered.sent
  rw [Outbox.sent, List.length_map, List.length_append] at sent
  rw [ordered.pushed, List.length_append, List.length_append]
  omega

end Order

/-! ### What was sent -/

section Sends

variable {Buffer : Type u} {Caller : Type v} [DecidableEq Caller] {lib : BufferLib Buffer}
  {state after : State Buffer Caller} {label : Tid Caller × Choice Buffer}

/-- The send thread has its accounts, and the other threads are callers. -/
structure Orderly (state : State Buffer Caller) : Prop where
  sender : Ordered state.shared (state.pc .sendThread)
  callers : ∀ name, (state.pc (.caller name)).ofSendThread = false

omit [DecidableEq Caller] in
theorem orderly_initial : Orderly (initial Buffer Caller) := ⟨ordered_empty, fun _ => rfl⟩

/-- The kinds of steps: of the send thread, the callers staying, or of a caller. -/
theorem step_cases (orderly : Orderly state) (taken : step lib state label = some after) :
    (label.1 = .sendThread ∧
      SenderMoves lib state.shared (state.pc .sendThread) after.shared (after.pc .sendThread) ∧
      ∀ name, after.pc (.caller name) = state.pc (.caller name)) ∨
    ∃ name, label.1 = .caller name ∧
      CallerMoves lib state.shared (state.pc (.caller name)) after.shared
        (after.pc (.caller name)) ∧
      after.pc .sendThread = state.pc .sendThread ∧
      ∀ other, other ≠ name → after.pc (.caller other) = state.pc (.caller other) := by
  obtain ⟨acted, others⟩ := threadStep_moved taken
  obtain ⟨thread, choice⟩ := label
  cases thread with
  | sendThread =>
      refine .inl ⟨rfl, act_sender acted orderly.sender.place, fun name => others _ ?_⟩
      exact fun same => by cases same
  | caller name =>
      refine .inr ⟨name, rfl, act_caller acted (orderly.callers name), others _ ?_, ?_⟩
      · exact fun same => by cases same
      · exact fun other different => others _ fun same => different (by cases same; rfl)

theorem CallerMoves.place {outbox outbox' : Outbox Buffer} {pc pc' : Pc Buffer}
    (moved : CallerMoves lib outbox pc outbox' pc') : pc'.ofSendThread = false := by
  cases moved <;> rfl

theorem Orderly.step (orderly : Orderly state) (taken : step lib state label = some after) :
    Orderly after := by
  rcases step_cases orderly taken with ⟨-, moved, callers⟩ | ⟨name, -, moved, sender, callers⟩
  · exact ⟨orderly.sender.step moved, fun name => callers name ▸ orderly.callers name⟩
  · refine ⟨sender ▸ orderly.sender.grows moved.grows, fun other => ?_⟩
    by_cases same : other = name
    · exact same ▸ moved.place
    · exact callers other same ▸ orderly.callers other

theorem orderly_of_reach {guard : State Buffer Caller → Tid Caller × Choice Buffer → Prop}
    (reached : Reach (step lib) guard (initial Buffer Caller) state) : Orderly state :=
  reached.invariant Orderly orderly_initial fun _ _ _ orderly _ taken => orderly.step taken

/-- What was pushed is encoded, and so is what a caller is about to push. -/
structure AllEncoded (lib : BufferLib Buffer) (state : State Buffer Caller) : Prop where
  pushed : ∀ buffer ∈ state.shared.pushed, lib.isEncoded buffer = true
  pushing : ∀ name buffer, state.pc (.caller name) = .pushing buffer →
    lib.isEncoded buffer = true

theorem SenderMoves.pushed {outbox outbox' : Outbox Buffer} {pc pc' : Pc Buffer}
    (moved : SenderMoves lib outbox pc outbox' pc') : outbox'.pushed = outbox.pushed := by
  cases moved <;> rfl

theorem AllEncoded.step (encodes : ∀ buffer, lib.isEncoded (lib.encode buffer) = true)
    (orderly : Orderly state) (encoded : AllEncoded lib state)
    (taken : step lib state label = some after) : AllEncoded lib after := by
  rcases step_cases orderly taken with ⟨-, moved, callers⟩ | ⟨name, -, moved, -, callers⟩
  · refine ⟨fun buffer member => ?_, fun name buffer place => ?_⟩
    · exact encoded.pushed buffer (moved.pushed ▸ member)
    · exact encoded.pushing name buffer (callers name ▸ place)
  · have others : ∀ other buffer, other ≠ name → after.pc (.caller other) = .pushing buffer →
        lib.isEncoded buffer = true := fun other buffer different place =>
      encoded.pushing other buffer (callers other different ▸ place)
    have own : (∀ buffer ∈ after.shared.pushed, lib.isEncoded buffer = true) ∧
        ∀ buffer, after.pc (.caller name) = .pushing buffer → lib.isEncoded buffer = true := by
      have pushing := encoded.pushing name
      generalize state.pc (.caller name) = before at moved pushing
      generalize after.pc (.caller name) = next, after.shared = outbox at moved
      cases moved with
      | stays | stopped | woken | released =>
          exact ⟨encoded.pushed, fun buffer place => by cases place⟩
      | entered draft =>
          refine ⟨encoded.pushed, fun buffer place => ?_⟩
          cases place
          split
          · assumption
          · exact encodes draft
      | pushed buffer =>
          refine ⟨fun other member => ?_, fun other place => by cases place⟩
          rcases List.mem_append.mp member with before | new
          · exact encoded.pushed other before
          · exact List.mem_singleton.mp new ▸ pushing buffer rfl
    refine ⟨own.1, fun other buffer place => ?_⟩
    by_cases same : other = name
    · exact own.2 buffer (same ▸ place)
    · exact others other buffer same place

omit [DecidableEq Caller] in
theorem allEncoded_initial : AllEncoded lib (initial Buffer Caller) where
  pushed := fun _ member => by cases member
  pushing := fun _ _ place => by cases place

theorem allEncoded_of_reach (encodes : ∀ buffer, lib.isEncoded (lib.encode buffer) = true)
    {guard : State Buffer Caller → Tid Caller × Choice Buffer → Prop}
    (reached : Reach (step lib) guard (initial Buffer Caller) state) : AllEncoded lib state := by
  have both : Orderly state ∧ AllEncoded lib state := by
    refine reached.invariant (fun state => Orderly state ∧ AllEncoded lib state)
      ⟨orderly_initial, allEncoded_initial⟩ ?_
    exact fun _ _ _ holds _ taken =>
      ⟨holds.1.step taken, holds.2.step encodes holds.1 taken⟩
  exact both.2

/-- **What is sent**, and who has the buffers. -/
structure InOrder (lib : BufferLib Buffer) (state : State Buffer Caller) : Prop where
  /-- `send` gets the buffers in the order in which they were pushed, each of them once. -/
  order : state.shared.sent <+: state.shared.pushed
  encoded : ∀ buffer ∈ state.shared.sent, lib.isEncoded buffer = true
  /-- Every buffer is freed, in the hand of the send thread or in the queue, once. -/
  owned : state.shared.pushed = state.shared.freed ++ (state.pc .sendThread).held ++
    state.shared.sendBufferQueue
  /-- The queue is never popped when it is empty. -/
  defined : state.pc .sendThread ≠ .undefined
  /-- Nothing is sent behind a failure. -/
  last : ∀ front call back, state.shared.sends = front ++ call :: back → call.2 = none → back = []
  /-- The stream is right when every `send` but the last takes all it gets. -/
  wire : (∀ front call back, state.shared.sends = front ++ call :: back → back ≠ [] →
      call.2 = some (lib.bytes call.1).length) →
    state.shared.wire lib <+: state.shared.pushed.flatMap lib.bytes

/-- Calls that take all they get make the stream of their buffers. -/
theorem flatMap_whole (calls : List (Buffer × Option ℕ))
    (whole : ∀ call ∈ calls, call.2 = some (lib.bytes call.1).length) :
    (calls.flatMap fun call => (lib.bytes call.1).take (call.2.getD 0)) =
      (calls.map Prod.fst).flatMap lib.bytes := by
  rw [List.flatMap_map]
  refine List.flatMap_congr fun call member => ?_
  rw [whole call member, Option.getD_some, List.take_length]

/-- The stream of calls of which all but the last take all they get. -/
theorem Outbox.wire_prefix {outbox : Outbox Buffer}
    (whole : ∀ front call back, outbox.sends = front ++ call :: back → back ≠ [] →
      call.2 = some (lib.bytes call.1).length) :
    outbox.wire lib <+: outbox.sent.flatMap lib.bytes := by
  unfold Outbox.wire Outbox.sent
  rcases List.eq_nil_or_concat outbox.sends with none | ⟨front, last, split⟩
  · rw [none]
    exact List.prefix_refl _
  · have all : ∀ call ∈ front, call.2 = some (lib.bytes call.1).length := by
      intro call member
      obtain ⟨before, behind, parts⟩ := List.append_of_mem member
      refine whole before call (behind ++ [last]) ?_ (by simp)
      rw [split, parts]
      simp
    rw [split, List.concat_eq_append, List.flatMap_append, List.map_append, List.flatMap_append,
      flatMap_whole front all, List.flatMap_singleton, List.map_singleton, List.flatMap_singleton]
    exact (List.prefix_append_right_inj _).mpr (List.take_prefix _ _)

/-- A call of `send` that failed is the last one. -/
theorem Ordered.last {outbox : Outbox Buffer} {pc : Pc Buffer} (ordered : Ordered outbox pc) :
    ∀ front call back, outbox.sends = front ++ call :: back → call.2 = none → back = [] := by
  intro front call back split failed
  have ends : outbox.Intact ∨ outbox.Broken := by
    have failures := ordered.failures
    cases pc with
    | loopHead => exact failures.imp_right And.left
    | failed buffer => exact .inr failures
    | freeingLast buffer => exact .inr failures.1
    | done => exact failures.1
    | _ => exact .inl failures
  have member : call ∈ outbox.sends := by simp [split]
  rcases ends with intact | ⟨good, buffer, parts, succeeded⟩
  · exact absurd failed (intact call member)
  · rcases List.eq_nil_or_concat back with none | ⟨middle, other, more⟩
    · exact none
    · -- the call would be among the earlier ones, which all succeeded
      have same : good ++ [(buffer, none)] = (front ++ call :: middle) ++ [other] := by
        rw [← parts, split, more]
        simp
      obtain ⟨earlier, -⟩ := List.append_inj' same rfl
      exact absurd failed (succeeded call (by simp [earlier]))

/-- **Order and ownership in every run**: `send` gets what was pushed, encoded, in order and once;
every buffer is freed once behind its `send`; the queue is never popped when it is empty, and a
failed `send` is the last. -/
theorem sends_ordered (encodes : ∀ buffer, lib.isEncoded (lib.encode buffer) = true)
    (reached : Reach (step lib) Unguarded (initial Buffer Caller) state) : InOrder lib state := by
  have ordered := (orderly_of_reach reached).sender
  have order : state.shared.sent <+: state.shared.pushed := by
    rw [ordered.sent, ordered.pushed, List.append_assoc]
    refine (List.prefix_append_right_inj _).mpr ?_
    cases state.pc .sendThread <;> simp [Pc.handed, Pc.held]
  refine ⟨order, fun buffer member => ?_, ordered.pushed, ordered.defined, ordered.last, ?_⟩
  · exact (allEncoded_of_reach encodes reached).pushed buffer (order.subset member)
  · intro whole
    obtain ⟨unsent, split⟩ := order
    rw [← split, List.flatMap_append]
    exact (Outbox.wire_prefix whole).trans (List.prefix_append _ _)

/-- Buffers that are numbers, and encoded by a number in front. -/
def numberLib : BufferLib (List ℕ) where
  isEncoded buffer := buffer.head? = some 0
  encode buffer := 0 :: buffer
  bytes buffer := buffer.map UInt8.ofNat

/-- Two threads push while the send thread sends the first buffer; the second `send` fails. -/
def failingSchedule : List (Tid Bool × Choice (List ℕ)) :=
  [(.caller true, .sendPacket (some [7])), (.caller true, .go), (.caller true, .go),
   (.sendThread, .go), (.sendThread, .go), (.sendThread, .go), (.sendThread, .go),
   (.caller false, .sendPacket (some [0, 8])), (.caller false, .go), (.caller false, .go),
   (.sendThread, .sendReturns (some 2)), (.sendThread, .go), (.sendThread, .go),
   (.sendThread, .go), (.sendThread, .go), (.sendThread, .go), (.sendThread, .go),
   (.sendThread, .sendReturns none), (.sendThread, .go), (.sendThread, .go), (.sendThread, .go)]

theorem sends_ordered_failing :
    ∃ state : State (List ℕ) Bool, InOrder numberLib state ∧
      state.shared.sends = [([0, 7], some 2), ([0, 8], none)] ∧
      state.pc .sendThread = .done := by
  obtain ⟨state, reached, last⟩ := exists_reach_of_run (step numberLib) (initial (List ℕ) Bool)
    failingSchedule (fun state => state.shared.sends = [([0, 7], some 2), ([0, 8], none)] ∧
      state.pc .sendThread = .done) (by decide)
  refine ⟨state, sends_ordered (fun _ => rfl) reached, ?_⟩
  simpa using last

end Sends

/-! ### No buffer waits for nobody -/

section Awaited

variable {Buffer : Type u} {Caller : Type v} [DecidableEq Caller] {lib : BufferLib Buffer}
  {state after : State Buffer Caller} {label : Tid Caller × Choice Buffer}

/-- `DoSend` is about to take the size of the queue, or to set `needStop`. -/
def Pc.committed : Pc Buffer → Bool
  | .takeSize => true
  | .failed _ => true
  | _ => false

/-- The cast of the size is exact. -/
def Small (state : State Buffer Caller) (_ : Tid Caller × Choice Buffer) : Prop :=
  state.shared.sendBufferQueue.length < 2 ^ 31

/-- **Every buffer is awaited**: `DoSend` will still take all there is, or something sees to it that
the send thread runs again or stops. -/
def Awaited (state : State Buffer Caller) : Prop :=
  (state.pc .sendThread).committed = true ∨
    state.shared.sendBufferQueue.length ≤ (state.pc .sendThread).rest ∨
    0 < state.shared.sendThreadEventHandle ∨ state.shared.needStop = true ∨
    ∃ name, state.pc (.caller name) = .releasing

theorem releaseSemaphore_pos (outbox : Outbox Buffer) :
    0 < outbox.releaseSemaphore.sendThreadEventHandle := by
  have positive : 0 < longMax := by decide
  unfold Outbox.releaseSemaphore
  dsimp only
  split <;> omega

/-- A caller's step: a push is followed by its release. -/
theorem CallerMoves.awaited {outbox outbox' : Outbox Buffer} {pc pc' : Pc Buffer}
    (moved : CallerMoves lib outbox pc outbox' pc') :
    pc' = .releasing ∨ 0 < outbox'.sendThreadEventHandle ∨
      pc ≠ .releasing ∧ outbox'.sendBufferQueue = outbox.sendBufferQueue ∧
        outbox'.sendThreadEventHandle = outbox.sendThreadEventHandle := by
  cases moved with
  | stays | entered buffer | stopped => exact .inr (.inr ⟨by simp, rfl, rfl⟩)
  | woken | released => exact .inr (.inl (releaseSemaphore_pos outbox))
  | pushed buffer => exact .inl rfl

/-- A step of the send thread: `takeSize` counts the whole queue, and the others take what was
counted. -/
theorem SenderMoves.awaited {outbox outbox' : Outbox Buffer} {pc pc' : Pc Buffer}
    (small : outbox.sendBufferQueue.length < 2 ^ 31)
    (moved : SenderMoves lib outbox pc outbox' pc') :
    pc'.committed = true ∨ outbox'.needStop = true ∨
      outbox'.sendBufferQueue.length ≤ pc'.rest ∨
      pc.committed = false ∧ outbox'.needStop = outbox.needStop ∧
        outbox'.sendThreadEventHandle = outbox.sendThreadEventHandle ∧
        outbox.sendBufferQueue.length - pc.rest = outbox'.sendBufferQueue.length - pc'.rest := by
  cases moved with
  | signaled positive => exact .inl rfl
  | refused buffer restSize => exact .inl rfl
  | sized => exact .inr (.inr (.inl (toInt_eq small).ge))
  | gaveUp buffer => exact .inr (.inl rfl)
  | popped restSize buffer rest front =>
      refine .inr (.inr (.inr ⟨rfl, rfl, rfl, ?_⟩))
      rw [front]
      simp [Pc.rest]
  | overrun restSize none => exact .inr (.inr (.inl (by rw [none]; exact Nat.zero_le _)))
  | ended | looped | drained | sent | freed | freedLast =>
      exact .inr (.inr (.inr ⟨rfl, rfl, rfl, rfl⟩))

theorem Awaited.step (orderly : Orderly state) (awaited : Awaited state)
    (small : Small state label) (taken : ClientSend.step lib state label = some after) :
    Awaited after := by
  rcases step_cases orderly taken with ⟨-, moved, callers⟩ | ⟨name, -, moved, sender, callers⟩
  · rcases moved.awaited small with committed | stopped | counted | ⟨uncommitted, stop, count, left⟩
    · exact .inl committed
    · exact .inr (.inr (.inr (.inl stopped)))
    · exact .inr (.inl counted)
    · rcases awaited with committed | counted | positive | stopped | ⟨name, place⟩
      · rw [committed] at uncommitted
        cases uncommitted
      · exact .inr (.inl (by omega))
      · exact .inr (.inr (.inl (count ▸ positive)))
      · exact .inr (.inr (.inr (.inl (stop ▸ stopped))))
      · exact .inr (.inr (.inr (.inr ⟨name, (callers name).trans place⟩)))
  · rcases moved.awaited with releasing | positive | ⟨elsewhere, queue, count⟩
    · exact .inr (.inr (.inr (.inr ⟨name, releasing⟩)))
    · exact .inr (.inr (.inl positive))
    · rcases awaited with committed | counted | positive | stopped | ⟨other, place⟩
      · exact .inl (sender ▸ committed)
      · exact .inr (.inl (by rw [queue, sender]; exact counted))
      · exact .inr (.inr (.inl (count ▸ positive)))
      · exact .inr (.inr (.inr (.inl (moved.grows.stops stopped))))
      · have different : other ≠ name := fun same => elsewhere (same ▸ place)
        exact .inr (.inr (.inr (.inr ⟨other, (callers other different).trans place⟩)))

theorem awaited_of_reach (reached : Reach (step lib) Small (initial Buffer Caller) state) :
    Orderly state ∧ Awaited state := by
  refine reached.invariant (fun state => Orderly state ∧ Awaited state)
    ⟨orderly_initial, .inr (.inl (Nat.le_refl 0))⟩ ?_
  exact fun _ _ _ holds small taken =>
    ⟨holds.1.step taken, holds.2.step holds.1 small taken⟩

/-- **No stranded buffer**: when the send thread waits, nothing has released the semaphore, nobody
is about to, and the client does not stop, then all that was pushed has been sent and freed. -/
theorem unsent_awaited (reached : Reach (step lib) Small (initial Buffer Caller) state)
    (waits : state.pc .sendThread = .waiting) (unreleased : state.shared.sendThreadEventHandle = 0)
    (running : state.shared.needStop = false)
    (idle : ∀ name, state.pc (.caller name) ≠ .releasing) :
    state.shared.sendBufferQueue = [] ∧ state.shared.sent = state.shared.pushed ∧
      state.shared.freed = state.shared.pushed := by
  obtain ⟨orderly, awaited⟩ := awaited_of_reach reached
  have empty : state.shared.sendBufferQueue = [] := by
    rcases awaited with committed | counted | positive | stopped | ⟨name, place⟩
    · rw [waits] at committed
      cases committed
    · rw [waits] at counted
      exact List.eq_nil_of_length_eq_zero (Nat.le_zero.mp counted)
    · omega
    · rw [running] at stopped
      cases stopped
    · exact absurd place (idle name)
  have pushed := orderly.sender.pushed
  have sent := orderly.sender.sent
  rw [waits] at pushed sent
  simp only [Pc.held, Pc.handed, List.append_nil, empty] at pushed sent
  exact ⟨empty, sent.trans pushed.symm, pushed.symm⟩

/-- A buffer is pushed and sent, and the send thread waits again. -/
def sentSchedule : List (Tid Bool × Choice (List ℕ)) :=
  [(.caller true, .sendPacket (some [7])), (.caller true, .go), (.caller true, .go),
   (.sendThread, .go), (.sendThread, .go), (.sendThread, .go), (.sendThread, .go),
   (.sendThread, .sendReturns (some 2)), (.sendThread, .go), (.sendThread, .go),
   (.sendThread, .go)]

/-- The send thread waits, and nothing is left to do. -/
def Resting (state : State (List ℕ) Bool) : Prop :=
  state.pc .sendThread = .waiting ∧ state.shared.sendThreadEventHandle = 0 ∧
    state.shared.needStop = false ∧ ∀ name, state.pc (.caller name) = .caller

instance (state : State (List ℕ) Bool) : Decidable (Resting state) := by
  unfold Resting
  infer_instance

instance (state : State (List ℕ) Bool) (label : Tid Bool × Choice (List ℕ)) :
    Decidable (Small state label) := by
  unfold Small
  infer_instance

theorem unsent_awaited_resting :
    ∃ state : State (List ℕ) Bool, Resting state ∧ state.shared.pushed = [[0, 7]] ∧
      state.shared.sendBufferQueue = [] ∧ state.shared.sent = state.shared.pushed ∧
        state.shared.freed = state.shared.pushed := by
  obtain ⟨state, reached, rests⟩ := exists_reach_of_runGuarded (step numberLib) Small
    (initial (List ℕ) Bool) sentSchedule
    (fun state => Resting state ∧ state.shared.pushed = [[0, 7]]) (by decide)
  obtain ⟨rests, pushed⟩ := of_decide_eq_true rests
  refine ⟨state, rests, pushed, unsent_awaited reached rests.1 rests.2.1 rests.2.2.1 ?_⟩
  intro name
  rw [rests.2.2.2 name]
  exact fun same => by cases same

end Awaited

end ActorModelServer.ClientSend
