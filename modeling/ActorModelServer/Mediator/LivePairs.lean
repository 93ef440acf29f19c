/-
**Which trades are accepted.**

`RequestTrade` over the registry of actors. A player is an actor of a class derived from `Session`,
so `sessionMap` is the only map it can be in; `RequestTrade` passes false for `isNetworkActor` and
looks into `nonNetworkActorMap`.

* `AcceptsLivePairs` — a request is accepted exactly when buyer and seller are players in
  `sessionMap` that take messages; then each has got its message, and one transaction is new.
* `requestTrade_acceptsLivePairs_iff` — whatever the registry went through, a request does so
  exactly when buyer and seller are not both such players: none is ever accepted.
* `networkActors_acceptsLivePairs` — with lookups among the network actors it always does.
-/

import ActorModelServer.Mediator.Trade
import ActorModelServer.Server.Registry

namespace ActorModelServer.LivePairs

open Mediator (MediatorBase Traversal)
open Registry (Actor NumOfLogicThread Op Server getTargetThreadId initial newActor step)
open ShardedMap (Each)
open StepRuns (run reach_of_run)
open Trade (Market PlayerMessage TradeRequest isStop_update lookup_started lookup_started_ne nextId
  requestTradeWith sendMessage_running sendMessage_stopped startedMediator)

section Model

variable {numOfLogicThread : NumOfLogicThread}

variable (numOfLogicThread) in
/-- Which actors are players; `Player` is derived from `Session`. -/
structure Classes where
  isPlayer : Actor numOfLogicThread → Bool
  isSession : ∀ actor, isPlayer actor = true → actor.isSession = true

/-- `FindActor<Player>`: what is found is cast. -/
def Classes.findPlayer (classes : Classes numOfLogicThread) (server : Server numOfLogicThread)
    (actorId : ℕ) (isNetworkActor : Bool) : Option (Actor numOfLogicThread) :=
  (server.findActor actorId isNetworkActor).filter classes.isPlayer

/-- `RequestTrade`. -/
def requestTrade (classes : Classes numOfLogicThread) (traversal : Traversal)
    (server : Server numOfLogicThread) (market : Market (Actor numOfLogicThread))
    (request : TradeRequest) (now : ℤ) : Market (Actor numOfLogicThread) × Bool :=
  requestTradeWith traversal market (classes.findPlayer server request.sellerId false)
    (classes.findPlayer server request.buyerId false) request now

/-- A player of `sessionMap` that takes messages. -/
structure LivePlayer (classes : Classes numOfLogicThread) (server : Server numOfLogicThread)
    (market : Market (Actor numOfLogicThread)) (actorId : ℕ) (player : Actor numOfLogicThread) :
    Prop where
  connected : ∃ threadId, AList.lookup actorId (server.sessionMap threadId) = some player
  isPlayer : classes.isPlayer player = true
  running : (market.mailbox player).isStop = false

/-- Both ids of the request are ids of such players. -/
def BothLive (classes : Classes numOfLogicThread) (server : Server numOfLogicThread)
    (market : Market (Actor numOfLogicThread)) (request : TradeRequest) : Prop :=
  (∃ buyer, LivePlayer classes server market request.buyerId buyer) ∧
    ∃ seller, LivePlayer classes server market request.sellerId seller

/-- The messages a player gets from an accepted request. -/
def messagesOf (request : TradeRequest) (seller buyer player : Actor numOfLogicThread) :
    List PlayerMessage :=
  (if player = seller then [.prepareItemForTrade request.itemId] else []) ++
    if player = buyer then [.prepareMoneyForTrade request.money] else []

/-- The seller has got its message and the buyer its own, and nobody anything else. -/
def MessagesSent (before after : Market (Actor numOfLogicThread)) (request : TradeRequest)
    (seller buyer : Actor numOfLogicThread) : Prop :=
  ∀ player, (after.mailbox player).storeQueue.map Actor.Entry.message =
    (before.mailbox player).storeQueue.map Actor.Entry.message ++
      (messagesOf request seller buyer player).map some

/-- One transaction is new, with the two participants, and the others are as they were. -/
def OneStarted (before after : MediatorBase) (request : TradeRequest) : Prop :=
  ∃ transactionId transaction, before.activeTransactions.lookup transactionId = none ∧
    after.activeTransactions.lookup transactionId = some transaction ∧
    (∀ participantId, participantId ∈ transaction.participants ↔
      participantId = request.buyerId ∨ participantId = request.sellerId) ∧
    ∀ other, other ≠ transactionId →
      after.activeTransactions.lookup other = before.activeTransactions.lookup other

/-- **A request is accepted exactly from a live pair**, and does then what it is for. -/
structure AcceptsLivePairs (classes : Classes numOfLogicThread) (server : Server numOfLogicThread)
    (before : Market (Actor numOfLogicThread)) (request : TradeRequest)
    (result : Market (Actor numOfLogicThread) × Bool) : Prop where
  accepts : result.2 = true ↔ BothLive classes server before request
  messages : ∀ buyer seller, LivePlayer classes server before request.buyerId buyer →
    LivePlayer classes server before request.sellerId seller →
      MessagesSent before result.1 request seller buyer
  transaction : BothLive classes server before request →
    OneStarted before.mediator result.1.mediator request

end Model

/-! ### Where the registry puts the actors -/

section Reached

variable {numOfLogicThread : NumOfLogicThread} {server : Server numOfLogicThread}

/-- Sessions are in the shard of their id, and the other map has no sessions. -/
structure Sorted (server : Server numOfLogicThread) : Prop where
  actors : ∀ actor ∈ server.actors,
    actor.threadId = getTargetThreadId numOfLogicThread actor.actorId
  sessions : Each (fun threadId actorId _ => threadId = getTargetThreadId numOfLogicThread actorId)
    server.sessionMap
  nonNetworkActors : Each (fun _ _ actor => actor.isSession = false) server.nonNetworkActorMap

theorem sorted_initial : Sorted (initial numOfLogicThread) :=
  ⟨fun _ member => absurd member List.not_mem_nil, Each.empty, Each.empty⟩

/-- A registration, of an actor that is no session. -/
theorem Sorted.registered (sorted : Sorted server) {actor : Actor numOfLogicThread}
    (network : actor.isSession = false) :
    Sorted (Registry.registerNonNetworkActor server actor) := by
  unfold Registry.registerNonNetworkActor
  split
  · exact ⟨sorted.actors, sorted.sessions, sorted.nonNetworkActors.insertNew network⟩
  · exact sorted

theorem Sorted.unregistered (sorted : Sorted server) (actor : Actor numOfLogicThread) :
    Sorted (Registry.unregisterNonNetworkActor server actor) := by
  unfold Registry.unregisterNonNetworkActor
  split
  · exact ⟨sorted.actors, sorted.sessions, sorted.nonNetworkActors.erase _ _⟩
  · exact sorted

/-- **Every operation** keeps the actors sorted. -/
theorem Sorted.step {after : Server numOfLogicThread} {op : Op numOfLogicThread}
    (sorted : Sorted server) (taken : step server op = some after) : Sorted after := by
  cases op with
  | construct kind =>
      cases taken
      refine ⟨fun actor member => ?_, sorted.sessions, sorted.nonNetworkActors⟩
      rcases List.mem_append.mp member with before | last
      · exact sorted.actors actor before
      · rw [List.mem_singleton.mp last]
        rfl
  | insertSession session =>
      obtain ⟨⟨member, -⟩, taken⟩ := Option.ite_none_right_eq_some.mp taken
      cases taken
      exact ⟨sorted.actors, sorted.sessions.insertNew (sorted.actors session member),
        sorted.nonNetworkActors⟩
  | eraseSession session =>
      obtain ⟨-, taken⟩ := Option.ite_none_right_eq_some.mp taken
      cases taken
      exact ⟨sorted.actors, sorted.sessions.erase _ _, sorted.nonNetworkActors⟩
  | eraseAllSession threadId =>
      cases taken
      exact ⟨sorted.actors, sorted.sessions.clear threadId, sorted.nonNetworkActors⟩
  | registerNonNetworkActor actor =>
      obtain ⟨⟨-, network⟩, taken⟩ := Option.ite_none_right_eq_some.mp taken
      cases taken
      exact sorted.registered network
  | unregisterNonNetworkActor actor =>
      obtain ⟨-, taken⟩ := Option.ite_none_right_eq_some.mp taken
      cases taken
      exact sorted.unregistered actor

theorem sorted_of_run {history : List (Op numOfLogicThread)}
    (executed : run step (initial numOfLogicThread) history = some server) : Sorted server :=
  (reach_of_run executed).invariant Sorted sorted_initial fun _ _ _ sorted _ taken =>
    sorted.step taken

variable {classes : Classes numOfLogicThread} {actorId : ℕ} {player : Actor numOfLogicThread}

/-- **No player is found** among the non-network actors. -/
theorem Sorted.findPlayer_nonNetworkActor (sorted : Sorted server) :
    classes.findPlayer server actorId false = none := by
  refine Option.filter_eq_none_iff.mpr fun actor found player => ?_
  have network : actor.isSession = false := sorted.nonNetworkActors _ _ _ found
  rw [classes.isSession actor player] at network
  cases network

/-- Among the network actors every player is found. -/
theorem Sorted.findPlayer_networkActor_iff (sorted : Sorted server) :
    classes.findPlayer server actorId true = some player ↔
      (∃ threadId, AList.lookup actorId (server.sessionMap threadId) = some player) ∧
        classes.isPlayer player = true := by
  rw [Classes.findPlayer, Option.filter_eq_some_iff]
  refine and_congr_left fun _ => ⟨fun found => ⟨_, found⟩, ?_⟩
  rintro ⟨threadId, found⟩
  obtain rfl := sorted.sessions threadId actorId player found
  exact found

end Reached

/-! ### Requests -/

section Requests

variable {numOfLogicThread : NumOfLogicThread} {server : Server numOfLogicThread}
  {classes : Classes numOfLogicThread} {market : Market (Actor numOfLogicThread)}
  {request : TradeRequest} {actorId : ℕ} {player : Actor numOfLogicThread}

/-- A live player is found among the network actors. -/
theorem LivePlayer.found (live : LivePlayer classes server market actorId player)
    (sorted : Sorted server) : classes.findPlayer server actorId true = some player :=
  sorted.findPlayer_networkActor_iff.mpr ⟨live.connected, live.isPlayer⟩

/-- A refusal is right when no pair is live. -/
theorem acceptsLivePairs_of_not_bothLive (after : Market (Actor numOfLogicThread))
    (dead : ¬ BothLive classes server market request) :
    AcceptsLivePairs classes server market request (after, false) where
  accepts := iff_of_false Bool.false_ne_true dead
  messages buyer seller buys sells := absurd ⟨⟨buyer, buys⟩, ⟨seller, sells⟩⟩ dead
  transaction both := absurd both dead

/-- The opened transaction is the only new one. -/
theorem oneStarted (now : ℤ)
    (fresh : market.mediator.activeTransactions.lookup (nextId market) = none) :
    OneStarted market.mediator (startedMediator market request now) request := by
  obtain ⟨transaction, found, -, -, -, -, participants⟩ := lookup_started market request now
  refine ⟨nextId market, transaction, fresh, found, fun participantId => ?_, fun other different =>
    lookup_started_ne different⟩
  have empty : (market.mediator.transactionAt (nextId market)).participants = ∅ := by
    unfold MediatorBase.transactionAt
    rw [fresh]
    rfl
  rw [← AList.lookup_isSome, participants, empty]
  split
  · rename_i own
    exact iff_of_true rfl own
  · rename_i other
    exact iff_of_false Bool.false_ne_true other

/-- The two messages. -/
theorem messagesSent (mediator : MediatorBase) (seller buyer : Actor numOfLogicThread) :
    let sold := Function.update market.mailbox seller
      ((market.mailbox seller).push (some (.prepareItemForTrade request.itemId)))
    MessagesSent market ⟨mediator, Function.update sold buyer
      ((sold buyer).push (some (.prepareMoneyForTrade request.money)))⟩ request seller buyer := by
  intro sold player
  have first (player : Actor numOfLogicThread) :
      (sold player).storeQueue.map Actor.Entry.message =
        (market.mailbox player).storeQueue.map Actor.Entry.message ++
          if player = seller then [some (.prepareItemForTrade request.itemId)] else [] := by
    by_cases sells : player = seller
    · subst sells
      simp [sold, Actor.Mailbox.push]
    · simp [sold, sells]
  have second : ((Function.update sold buyer ((sold buyer).push
      (some (.prepareMoneyForTrade request.money)))) player).storeQueue.map Actor.Entry.message =
      (sold player).storeQueue.map Actor.Entry.message ++
        if player = buyer then [some (.prepareMoneyForTrade request.money)] else [] := by
    by_cases buys : player = buyer
    · subst buys
      simp [Actor.Mailbox.push]
    · simp [buys]
  rw [second, first, messagesOf, List.map_append, List.append_assoc]
  congr 2
  · split <;> rfl
  · split <;> rfl

/-- Players are found, and messages are taken, exactly where a pair is live. -/
theorem bothLive_iff (sorted : Sorted server) :
    BothLive classes server market request ↔
      ∃ seller buyer, classes.findPlayer server request.sellerId true = some seller ∧
        classes.findPlayer server request.buyerId true = some buyer ∧
          (market.mailbox seller).isStop = false ∧ (market.mailbox buyer).isStop = false := by
  constructor
  · rintro ⟨⟨buyer, buys⟩, ⟨seller, sells⟩⟩
    exact ⟨seller, buyer, sells.found sorted, buys.found sorted, sells.running, buys.running⟩
  · rintro ⟨seller, buyer, sells, buys, sellerRuns, buyerRuns⟩
    obtain ⟨sellerHere, sellerPlays⟩ := sorted.findPlayer_networkActor_iff.mp sells
    obtain ⟨buyerHere, buyerPlays⟩ := sorted.findPlayer_networkActor_iff.mp buys
    exact ⟨⟨buyer, buyerHere, buyerPlays, buyerRuns⟩, ⟨seller, sellerHere, sellerPlays, sellerRuns⟩⟩

/-- A live pair is accepted. -/
theorem acceptsLivePairs_of_found (traversal : Traversal) (now : ℤ) (sorted : Sorted server)
    (fresh : market.mediator.activeTransactions.lookup (nextId market) = none)
    {seller buyer : Actor numOfLogicThread}
    (sells : classes.findPlayer server request.sellerId true = some seller)
    (buys : classes.findPlayer server request.buyerId true = some buyer)
    (sellerRuns : (market.mailbox seller).isStop = false)
    (buyerRuns : (market.mailbox buyer).isStop = false) :
    AcceptsLivePairs classes server market request
      (requestTradeWith traversal market (some seller) (some buyer) request now) := by
  have live : BothLive classes server market request :=
    (bothLive_iff sorted).mpr ⟨seller, buyer, sells, buys, sellerRuns, buyerRuns⟩
  unfold requestTradeWith
  dsimp only
  rw [sendMessage_running sellerRuns]
  dsimp only
  rw [sendMessage_running ((isStop_update buyer).trans buyerRuns)]
  refine ⟨iff_of_true rfl live, fun other first otherBuys firstSells => ?_, fun _ =>
    oneStarted now fresh⟩
  obtain rfl := Option.some.inj (sells.symm.trans (firstSells.found sorted))
  obtain rfl := Option.some.inj (buys.symm.trans (otherBuys.found sorted))
  exact messagesSent _ seller buyer

/-- **With lookups among the network actors** a request accepts exactly the live pairs. -/
theorem networkActors_acceptsLivePairs (traversal : Traversal) (now : ℤ) (sorted : Sorted server)
    (fresh : market.mediator.activeTransactions.lookup (nextId market) = none) :
    AcceptsLivePairs classes server market request
      (requestTradeWith traversal market (classes.findPlayer server request.sellerId true)
        (classes.findPlayer server request.buyerId true) request now) := by
  have live : BothLive classes server market request ↔ _ := bothLive_iff sorted
  cases sells : classes.findPlayer server request.sellerId true with
  | none =>
      refine acceptsLivePairs_of_not_bothLive _ fun both => ?_
      obtain ⟨seller, -, found, -⟩ := live.mp both
      rw [sells] at found
      cases found
  | some seller =>
      cases buys : classes.findPlayer server request.buyerId true with
      | none =>
          refine acceptsLivePairs_of_not_bothLive _ fun both => ?_
          obtain ⟨-, buyer, -, found, -⟩ := live.mp both
          rw [buys] at found
          cases found
      | some buyer =>
          have running (both : BothLive classes server market request) :
              (market.mailbox seller).isStop = false ∧ (market.mailbox buyer).isStop = false := by
            obtain ⟨first, second, firstSells, secondBuys, runs⟩ := live.mp both
            obtain rfl := Option.some.inj (sells.symm.trans firstSells)
            obtain rfl := Option.some.inj (buys.symm.trans secondBuys)
            exact runs
          cases sellerRuns : (market.mailbox seller).isStop with
          | true =>
              unfold requestTradeWith
              dsimp only
              rw [sendMessage_stopped sellerRuns]
              refine acceptsLivePairs_of_not_bothLive _ fun both => ?_
              rw [(running both).1] at sellerRuns
              cases sellerRuns
          | false =>
              cases buyerRuns : (market.mailbox buyer).isStop with
              | true =>
                  unfold requestTradeWith
                  dsimp only
                  rw [sendMessage_running sellerRuns]
                  dsimp only
                  rw [sendMessage_stopped ((isStop_update buyer).trans buyerRuns)]
                  refine acceptsLivePairs_of_not_bothLive _ fun both => ?_
                  rw [(running both).2] at buyerRuns
                  cases buyerRuns
              | false =>
                  exact acceptsLivePairs_of_found traversal now sorted fresh sells buys sellerRuns
                    buyerRuns

/-- **Which requests accept live pairs.** Whatever inserts, erases and registrations came before, a
request is refused, which is right exactly when buyer and seller are not both live players. -/
theorem requestTrade_acceptsLivePairs_iff (classes : Classes numOfLogicThread)
    (traversal : Traversal) (history : List (Op numOfLogicThread))
    (server : Server numOfLogicThread)
    (executed : run step (initial numOfLogicThread) history = some server)
    (market : Market (Actor numOfLogicThread)) (request : TradeRequest) (now : ℤ) :
    AcceptsLivePairs classes server market request
        (requestTrade classes traversal server market request now) ↔
      ¬ BothLive classes server market request := by
  have sorted := sorted_of_run executed
  unfold requestTrade
  rw [sorted.findPlayer_nonNetworkActor, sorted.findPlayer_nonNetworkActor]
  constructor
  · intro accepts both
    exact absurd (accepts.accepts.mpr both) Bool.false_ne_true
  · exact acceptsLivePairs_of_not_bothLive _

end Requests

/-! ### Two players who are logged in -/

section LoggedIn

/-- One logic thread. -/
def oneThread : NumOfLogicThread := ⟨1, by decide, by decide⟩

/-- Every session is a player. -/
def players : Classes oneThread := ⟨Actor.isSession, fun _ player => player⟩

/-- Two players log in. -/
def logins : List (Op oneThread) :=
  [.construct .session, .construct .session, .insertSession (newActor 0 .session),
    .insertSession (newActor 1 .session)]

/-- A mediator without transactions, and open mailboxes. -/
def openMarket : Market (Actor oneThread) := ⟨Mediator.initial, fun _ => .empty⟩

/-- Player 1 asks for a trade with an id nobody has. -/
theorem requestTrade_acceptsLivePairs_nobody :
    ∃ server, run step (initial oneThread) logins = some server ∧
      AcceptsLivePairs players server openMarket ⟨1, 3, 100, 7⟩
        (requestTrade players .stored server openMarket ⟨1, 3, 100, 7⟩ 0) := by
  obtain ⟨server, executed⟩ := Option.isSome_iff_exists.mp
    (show (run step (initial oneThread) logins).isSome = true by decide)
  have missing : (run step (initial oneThread) logins).map
      (fun server => server.findActor 3 true) = some none := by decide
  rw [executed] at missing
  refine ⟨server, executed, (requestTrade_acceptsLivePairs_iff players .stored logins server
    executed openMarket ⟨1, 3, 100, 7⟩ 0).mpr ?_⟩
  rintro ⟨-, seller, sells⟩
  have absent : server.findActor 3 true = none := Option.some.inj missing
  have found : (server.findActor 3 true).filter players.isPlayer = some seller :=
    sells.found (sorted_of_run executed)
  rw [absent] at found
  cases found

/-- **A live pair is refused**: players 1 and 2 are logged in and take messages. -/
theorem live_pair_refused :
    ¬ ∀ server, run step (initial oneThread) logins = some server →
      AcceptsLivePairs players server openMarket ⟨1, 2, 100, 7⟩
        (requestTrade players .stored server openMarket ⟨1, 2, 100, 7⟩ 0) := by
  intro accepts
  obtain ⟨server, executed⟩ := Option.isSome_iff_exists.mp
    (show (run step (initial oneThread) logins).isSome = true by decide)
  have found : (run step (initial oneThread) logins).map
      (fun server => (server.findActor 1 true, server.findActor 2 true)) =
        some (some (newActor 0 .session), some (newActor 1 .session)) := by decide
  rw [executed] at found
  obtain ⟨first, second⟩ := Prod.ext_iff.mp (Option.some.inj found)
  have both : BothLive players server openMarket ⟨1, 2, 100, 7⟩ :=
    ⟨⟨_, ⟨⟨_, first⟩, rfl, rfl⟩⟩, ⟨_, ⟨⟨_, second⟩, rfl, rfl⟩⟩⟩
  have refused : (requestTrade players .stored server openMarket ⟨1, 2, 100, 7⟩ 0).2 = false := by
    unfold requestTrade
    rw [(sorted_of_run executed).findPlayer_nonNetworkActor]
    rfl
  have accepted := (accepts server executed).accepts.mpr both
  rw [refused] at accepted
  cases accepted

end LoggedIn

end ActorModelServer.LivePairs
