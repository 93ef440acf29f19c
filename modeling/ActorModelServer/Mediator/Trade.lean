/-
**A trade is requested.**

`TradeMediator::RequestTrade` opens a transaction, looks the two players up, and sends each a
message. `FindActor<Player>(id, false)` looks in `nonNetworkActorMap` and casts what it finds to
`Player`, a final class derived from `Session`.

* `findPlayer_nonNetworkActor` — so it never finds a player.
* `requestTrade_iff` — a trade that is refused leaves the transactions and the mailboxes as they
  were exactly when the transaction it opens was open already.
* `requestTradeWith_iff` — the same for any outcome of the two lookups: the transaction stays when a
  player is missing, and the seller's message when the buyer's mailbox is stopped.
* `trade_left_open` — a request between two players who are logged in.
-/

import ActorModelServer.Actor.Mailbox
import ActorModelServer.Mediator.Model
import Mathlib.Data.Option.Basic
import Mathlib.Logic.Function.Basic

namespace ActorModelServer.Trade

open Actor (Mailbox)
open Mediator

universe u

section Model

/-- The objects of the program, told apart by their class. -/
inductive Actor (Player Session NonNetworkActor : Type u)
  | player (player : Player)
  /- of another class derived from `Session` -/
  | session (session : Session)
  | nonNetworkActor (actor : NonNetworkActor)

/-- `sessionMap` and `nonNetworkActorMap`. -/
structure Registry (Player Session NonNetworkActor : Type u) where
  sessionMap : ParticipantId → Option (Player ⊕ Session)
  nonNetworkActorMap : ParticipantId → Option NonNetworkActor

variable {Player Session NonNetworkActor : Type u}

/-- `FindActor`. -/
def Registry.findActor (registry : Registry Player Session NonNetworkActor)
    (actorId : ParticipantId) (isNetworkActor : Bool) :
    Option (Actor Player Session NonNetworkActor) :=
  if isNetworkActor then (registry.sessionMap actorId).map (Sum.elim .player .session)
  else (registry.nonNetworkActorMap actorId).map .nonNetworkActor

/-- `std::dynamic_pointer_cast<Player>`. -/
def dynamicPointerCast : Actor Player Session NonNetworkActor → Option Player
  | .player player => some player
  | .session _ => none
  | .nonNetworkActor _ => none

/-- `FindActor<Player>`. -/
def Registry.findPlayer (registry : Registry Player Session NonNetworkActor)
    (actorId : ParticipantId) (isNetworkActor : Bool) : Option Player :=
  (registry.findActor actorId isNetworkActor).bind dynamicPointerCast

/-- The messages of a trade. -/
inductive PlayerMessage
  | prepareItemForTrade (itemId : BitVec 64)
  | prepareMoneyForTrade (money : BitVec 64)
  deriving DecidableEq

/-- `TradeRequest`. -/
structure TradeRequest where
  buyerId : ParticipantId
  sellerId : ParticipantId
  money : BitVec 64
  itemId : BitVec 64

/-- The mediator and the players' mailboxes. -/
structure Market (Player : Type u) where
  mediator : MediatorBase
  mailbox : Player → Mailbox PlayerMessage

variable [DecidableEq Player]

/-- `SendMessage` to a player. -/
def Market.sendMessage (market : Market Player) (sendTarget : Player) (message : PlayerMessage) :
    Market Player × Bool :=
  if (market.mailbox sendTarget).isStop then (market, false)
  else
    ({ market with
       mailbox := Function.update market.mailbox sendTarget
         ((market.mailbox sendTarget).push (some message)) }, true)

/-- `RollbackTransaction`. -/
def Market.rollbackTransaction (traversal : Traversal) (market : Market Player)
    (transactionId : TransactionId) : Market Player :=
  { market with mediator := market.mediator.rollbackTransaction traversal transactionId }

/-- `RequestTrade`, with what the two lookups return; the timeout is 30 seconds. -/
def requestTradeWith (traversal : Traversal) (market : Market Player) (seller buyer : Option Player)
    (request : TradeRequest) (now : ℤ) : Market Player × Bool :=
  let mediator := market.mediator.startTransaction [request.buyerId, request.sellerId] 30000000 now
  let transactionId := mediator.transactionIdGenerator
  let started := { market with mediator := mediator }
  match seller with
  | none => (started, false)
  | some seller =>
      match buyer with
      | none => (started, false)
      | some buyer =>
          match started.sendMessage seller (.prepareItemForTrade request.itemId) with
          | (refused, false) => (refused.rollbackTransaction traversal transactionId, false)
          | (sent, true) =>
              match sent.sendMessage buyer (.prepareMoneyForTrade request.money) with
              | (refused, false) => (refused.rollbackTransaction traversal transactionId, false)
              | (sent, true) => (sent, true)

/-- `RequestTrade`. -/
def requestTrade (traversal : Traversal) (market : Market Player)
    (registry : Registry Player Session NonNetworkActor) (request : TradeRequest) (now : ℤ) :
    Market Player × Bool :=
  requestTradeWith traversal market (registry.findPlayer request.sellerId false)
    (registry.findPlayer request.buyerId false) request now

/-- Two transactions with the same contents. -/
structure Same (before after : Transaction) : Prop where
  id : after.id = before.id
  state : after.state = before.state
  participants : ∀ participantId,
    after.participants.lookup participantId = before.participants.lookup participantId
  startTime : after.startTime = before.startTime
  timeout : after.timeout = before.timeout

/-- `activeTransactions` is the same. -/
def SameTransactions (before after : MediatorBase) : Prop :=
  ∀ transactionId, Option.Rel Same (before.activeTransactions.lookup transactionId)
    (after.activeTransactions.lookup transactionId)

/-- Every message the call has put into a player's mailbox comes with a rollback request to the
player. -/
def NothingLeft (actorId : Player → ParticipantId) (before after : Market Player) : Prop :=
  ∀ player added, (after.mailbox player).storeQueue = (before.mailbox player).storeQueue ++ added →
    added ≠ [] → ∃ transactionId calls, after.mediator.trace = before.mediator.trace ++ calls ∧
      .sendRollbackRequest transactionId (actorId player) ∈ calls

/-- **All or nothing**: what a call that returns false leaves behind. -/
def AllOrNothing (actorId : Player → ParticipantId) (before : Market Player)
    (result : Market Player × Bool) : Prop :=
  result.2 = false → SameTransactions before.mediator result.1.mediator ∧
    NothingLeft actorId before result.1

/-- The id the call generates. -/
def nextId (market : Market Player) : TransactionId :=
  market.mediator.generateTransactionId.transactionIdGenerator

/-- The generated id is active already, with the transaction that `StartTransaction` makes. -/
def AlreadyStarted (market : Market Player) (request : TradeRequest) (now : ℤ) : Prop :=
  ∃ transaction, market.mediator.activeTransactions.lookup (nextId market) = some transaction ∧
    transaction.id = nextId market ∧ transaction.startTime = now ∧
      transaction.timeout = 30000000 ∧
        transaction.participants.lookup request.buyerId = some (.new request.buyerId) ∧
          transaction.participants.lookup request.sellerId = some (.new request.sellerId)

end Model

/-! ### The lookups -/

section Lookups

variable {Player Session NonNetworkActor : Type u}

/-- **No player is found** among the non-network actors. -/
theorem findPlayer_nonNetworkActor (registry : Registry Player Session NonNetworkActor)
    (actorId : ParticipantId) : registry.findPlayer actorId false = none := by
  unfold Registry.findPlayer Registry.findActor
  rw [if_neg (by decide)]
  cases registry.nonNetworkActorMap actorId with
  | none => rfl
  | some actor => rfl

end Lookups

/-! ### The transaction that is opened -/

section Started

variable {Player : Type u} {market : Market Player} {request : TradeRequest} {now : ℤ}

theorem same_refl (transaction : Transaction) : Same transaction transaction :=
  ⟨rfl, rfl, fun _ => rfl, rfl, rfl⟩

theorem rel_refl (transaction : Option Transaction) : Option.Rel Same transaction transaction := by
  cases transaction with
  | none => exact .none
  | some transaction => exact .some (same_refl transaction)

/-- The participants of the opened transaction. -/
theorem lookup_participants (participants : Participants) (buyerId sellerId : ParticipantId)
    (participantId : ParticipantId) :
    ([buyerId, sellerId].foldl (fun participants participantId =>
        participants.insert participantId (Participant.new participantId)) participants).lookup
        participantId =
      if participantId = buyerId ∨ participantId = sellerId then some (.new participantId)
      else participants.lookup participantId := by
  show ((participants.insert buyerId (.new buyerId)).insert sellerId (.new sellerId)).lookup _ = _
  by_cases ofSeller : participantId = sellerId
  · subst ofSeller
    rw [AList.lookup_insert, if_pos (.inr rfl)]
  · rw [AList.lookup_insert_ne ofSeller]
    by_cases ofBuyer : participantId = buyerId
    · subst ofBuyer
      rw [AList.lookup_insert, if_pos (.inl rfl)]
    · rw [AList.lookup_insert_ne ofBuyer, if_neg (not_or.mpr ⟨ofBuyer, ofSeller⟩)]

/-- The mediator after `StartTransaction`. -/
def startedMediator (market : Market Player) (request : TradeRequest) (now : ℤ) : MediatorBase :=
  market.mediator.startTransaction [request.buyerId, request.sellerId] 30000000 now

theorem lookup_started_ne {transactionId : TransactionId} (other : transactionId ≠ nextId market) :
    (startedMediator market request now).activeTransactions.lookup transactionId =
      market.mediator.activeTransactions.lookup transactionId :=
  AList.lookup_insert_ne other

/-- The opened transaction. -/
theorem lookup_started (market : Market Player) (request : TradeRequest) (now : ℤ) :
    ∃ transaction, (startedMediator market request now).activeTransactions.lookup (nextId market) =
        some transaction ∧
      transaction.id = nextId market ∧ transaction.startTime = now ∧
      transaction.timeout = 30000000 ∧
      transaction.state = (market.mediator.transactionAt (nextId market)).state ∧
      ∀ participantId, transaction.participants.lookup participantId =
        if participantId = request.buyerId ∨ participantId = request.sellerId then
          some (.new participantId)
        else (market.mediator.transactionAt (nextId market)).participants.lookup participantId :=
  ⟨_, AList.lookup_insert _, rfl, rfl, rfl, rfl, lookup_participants _ _ _⟩

/-- **Opening a transaction changes the transactions**, unless it is open already. -/
theorem sameTransactions_started_iff :
    SameTransactions market.mediator (startedMediator market request now) ↔
      AlreadyStarted market request now := by
  obtain ⟨opened, found, id, startTime, timeout, state, participants⟩ :=
    lookup_started market request now
  constructor
  · intro same
    have related := same (nextId market)
    rw [found] at related
    cases before : market.mediator.activeTransactions.lookup (nextId market) with
    | none =>
        rw [before] at related
        cases related
    | some transaction =>
        rw [before] at related
        cases related with
        | some same =>
            refine ⟨transaction, before, same.id.symm.trans id, same.startTime.symm.trans startTime,
              same.timeout.symm.trans timeout, ?_, ?_⟩
            · rw [← same.participants, participants, if_pos (.inl rfl)]
            · rw [← same.participants, participants, if_pos (.inr rfl)]
  · rintro ⟨transaction, before, sameId, sameStart, sameTimeout, buyer, seller⟩ transactionId
    by_cases other : transactionId = nextId market
    · subst other
      have read : market.mediator.transactionAt (nextId market) = transaction := by
        unfold MediatorBase.transactionAt
        rw [before, Option.getD_some]
      rw [read] at state participants
      rw [found, before]
      refine .some ⟨id.trans sameId.symm, state, fun participantId => ?_,
        startTime.trans sameStart.symm, timeout.trans sameTimeout.symm⟩
      rw [participants]
      split
      · rename_i own
        rcases own with rfl | rfl
        · exact buyer.symm
        · exact seller.symm
      · rfl
    · rw [lookup_started_ne other]
      exact rel_refl _

/-- A new transaction has no prepared participant. -/
theorem waiting_of_fresh
    (fresh : market.mediator.activeTransactions.lookup (nextId market) = none)
    (entry : Sigma fun _ : ParticipantId => Participant)
    (member : entry ∈
      ((startedMediator market request now).transactionAt (nextId market)).participants.entries) :
    entry.2.state = .waiting := by
  obtain ⟨opened, found, -, -, -, -, participants⟩ := lookup_started market request now
  have empty : market.mediator.transactionAt (nextId market) = .new := by
    unfold MediatorBase.transactionAt
    rw [fresh, Option.getD_none]
  have read : (startedMediator market request now).transactionAt (nextId market) = opened := by
    unfold MediatorBase.transactionAt
    rw [found, Option.getD_some]
  rw [read] at member
  have here := AList.mem_lookup_iff.mpr member
  rw [Option.mem_def, participants, empty] at here
  split at here
  · rw [← Option.some.inj here]
    rfl
  · cases here

/-- **Rolling a new transaction back** restores the transactions, and requests nothing. -/
theorem rollback_started (request : TradeRequest) (now : ℤ) (traversal : Traversal)
    (fresh : market.mediator.activeTransactions.lookup (nextId market) = none) :
    SameTransactions market.mediator
        ((startedMediator market request now).rollbackTransaction traversal (nextId market)) ∧
      ((startedMediator market request now).rollbackTransaction traversal (nextId market)).trace =
        market.mediator.trace ++ [.started (nextId market) [request.buyerId, request.sellerId],
          .failed (nextId market)] := by
  obtain ⟨works, gone, trace⟩ :=
    rollbackTransaction_spec (startedMediator market request now) (nextId market) traversal
  constructor
  · intro transactionId
    by_cases other : transactionId = nextId market
    · subst other
      rw [fresh, gone]
      exact .none
    · rw [works.others transactionId other, lookup_started_ne other]
      exact rel_refl _
  · have unprepared : ((traversal.order ((startedMediator market request now).transactionAt
        (nextId market)).participants.entries).filter
          fun entry => entry.2.state = .prepared) = [] := by
      refine List.filter_eq_nil_iff.mpr fun entry member => ?_
      rw [waiting_of_fresh fresh entry ((traversal.perm _).mem_iff.mp member)]
      decide
    rw [trace, unprepared, List.map_nil, List.append_nil]
    show market.mediator.trace ++ [_] ++ [_] = _
    rw [List.append_assoc]
    rfl

end Started

/-! ### A request -/

section Requests

variable {Player Session NonNetworkActor : Type u} {market : Market Player}
  {request : TradeRequest} {now : ℤ} {actorId : Player → ParticipantId}

/-- The mailboxes are as they were. -/
theorem nothingLeft_of_mailbox {after : Market Player} (same : after.mailbox = market.mailbox) :
    NothingLeft actorId market after := by
  intro player added queued some
  rw [same] at queued
  exact absurd (List.append_cancel_left ((List.append_nil _).trans queued)).symm some

/-- A call that ends at a lookup. -/
theorem allOrNothing_started_iff :
    AllOrNothing actorId market
        ({ market with mediator := startedMediator market request now }, false) ↔
      AlreadyStarted market request now := by
  rw [← sameTransactions_started_iff]
  constructor
  · exact fun allOrNothing => (allOrNothing rfl).1
  · exact fun same _ => ⟨same, nothingLeft_of_mailbox rfl⟩

/-- A rollback of the opened transaction, with mailboxes that may have changed. -/
theorem allOrNothing_rollback_iff {mailbox : Player → Mailbox PlayerMessage}
    (traversal : Traversal)
    (fresh : market.mediator.activeTransactions.lookup (nextId market) = none) :
    AllOrNothing actorId market
        ((⟨startedMediator market request now, mailbox⟩ : Market Player).rollbackTransaction
          traversal (nextId market), false) ↔
      ∀ player added,
        (mailbox player).storeQueue = (market.mailbox player).storeQueue ++ added → added = [] := by
  obtain ⟨same, trace⟩ := rollback_started request now traversal fresh
  constructor
  · intro allOrNothing player added queued
    by_contra some
    obtain ⟨transactionId, calls, split, requested⟩ :=
      (allOrNothing rfl).2 player added queued some
    rw [← List.append_cancel_left (trace.symm.trans split)] at requested
    simp at requested
  · intro unchanged _
    exact ⟨same, fun player added queued some => absurd (unchanged player added queued) some⟩

/-- A transaction that is new is not open already. -/
theorem not_alreadyStarted
    (fresh : market.mediator.activeTransactions.lookup (nextId market) = none) :
    ¬ AlreadyStarted market request now := by
  rintro ⟨transaction, found, -⟩
  rw [fresh] at found
  cases found

variable [DecidableEq Player]

/-- **A request for a trade** is refused, and leaves nothing behind exactly when the transaction it
opens was open already. -/
theorem requestTrade_iff (traversal : Traversal) (market : Market Player)
    (registry : Registry Player Session NonNetworkActor) (request : TradeRequest) (now : ℤ)
    (actorId : Player → ParticipantId) :
    AllOrNothing actorId market (requestTrade traversal market registry request now) ↔
      AlreadyStarted market request now := by
  unfold requestTrade
  rw [findPlayer_nonNetworkActor]
  exact allOrNothing_started_iff

section Sending

variable {mediator : MediatorBase} {mailbox : Player → Mailbox PlayerMessage} {player : Player}
  {message : PlayerMessage}

theorem sendMessage_stopped (stopped : (mailbox player).isStop = true) :
    (⟨mediator, mailbox⟩ : Market Player).sendMessage player message =
      (⟨mediator, mailbox⟩, false) :=
  if_pos stopped

theorem sendMessage_running (running : (mailbox player).isStop = false) :
    (⟨mediator, mailbox⟩ : Market Player).sendMessage player message =
      (⟨mediator, Function.update mailbox player ((mailbox player).push (some message))⟩, true) :=
  if_neg (Bool.eq_false_iff.mp running)

/-- A message does not stop a mailbox. -/
theorem isStop_update (other : Player) :
    (Function.update mailbox player ((mailbox player).push (some message)) other).isStop =
      (mailbox other).isStop := by
  by_cases same : other = player
  · subst same
    rw [Function.update_self]
    rfl
  · rw [Function.update_of_ne same]

end Sending

/-- Both players are found. -/
theorem requestTradeWith_found_iff (traversal : Traversal) (seller buyer : Player)
    (fresh : market.mediator.activeTransactions.lookup (nextId market) = none) :
    AllOrNothing actorId market
        (requestTradeWith traversal market (some seller) (some buyer) request now) ↔
      (market.mailbox seller).isStop = true ∨ (market.mailbox buyer).isStop = false := by
  unfold requestTradeWith
  dsimp only
  cases sellerStop : (market.mailbox seller).isStop with
  | true =>
      refine iff_of_true ?_ (.inl rfl)
      rw [sendMessage_stopped sellerStop]
      refine (allOrNothing_rollback_iff traversal fresh).mpr fun player added queued => ?_
      exact (List.append_cancel_left ((List.append_nil _).trans queued)).symm
  | false =>
      rw [sendMessage_running sellerStop]
      dsimp only
      cases buyerStop : (market.mailbox buyer).isStop with
      | true =>
          refine iff_of_false ?_ (by simp)
          rw [sendMessage_stopped ((isStop_update buyer).trans buyerStop)]
          intro left
          -- the seller has its message
          have queued := (allOrNothing_rollback_iff traversal fresh).mp left seller
            [⟨(market.mailbox seller).accepted.length,
              some (.prepareItemForTrade request.itemId)⟩] (by simp [Mailbox.push])
          cases queued
      | false =>
          refine iff_of_true ?_ (.inr rfl)
          rw [sendMessage_running ((isStop_update buyer).trans buyerStop)]
          intro refused
          cases refused

/-- **A request with any outcome of the lookups**, when the generated id is new: both players have
to be found, and the buyer has to take its message when the seller has taken one. -/
theorem requestTradeWith_iff (traversal : Traversal) (seller buyer : Option Player)
    (fresh : market.mediator.activeTransactions.lookup (nextId market) = none) :
    AllOrNothing actorId market (requestTradeWith traversal market seller buyer request now) ↔
      ∃ sellerPlayer buyerPlayer, seller = some sellerPlayer ∧ buyer = some buyerPlayer ∧
        ((market.mailbox sellerPlayer).isStop = true ∨
          (market.mailbox buyerPlayer).isStop = false) := by
  cases seller with
  | none =>
      refine iff_of_false ?_ (by simp)
      exact fun left => not_alreadyStarted fresh (allOrNothing_started_iff.mp left)
  | some seller =>
      cases buyer with
      | none =>
          refine iff_of_false ?_ (by simp)
          exact fun left => not_alreadyStarted fresh (allOrNothing_started_iff.mp left)
      | some buyer => simpa using requestTradeWith_found_iff traversal seller buyer fresh

end Requests

/-! ### Players who are logged in -/

section LoggedIn

/-- Every player is logged in under its own number, and there are no other actors. -/
def loggedIn : Registry ℕ Empty Empty := ⟨fun actorId => some (.inl actorId), fun _ => none⟩

/-- **A trade is left open**: players 5 and 6 are logged in and take messages. -/
theorem trade_left_open :
    ¬ ∀ traversal market (registry : Registry ℕ Empty Empty) request now,
      AllOrNothing id market (requestTrade traversal market registry request now) := by
  intro allOrNothing
  have left := allOrNothing .stored ⟨initial, fun _ => .empty⟩ loggedIn ⟨5, 6, 100, 1⟩ 0
  unfold requestTrade at left
  rw [findPlayer_nonNetworkActor] at left
  exact not_alreadyStarted rfl (allOrNothing_started_iff.mp left)

end LoggedIn

end ActorModelServer.Trade
