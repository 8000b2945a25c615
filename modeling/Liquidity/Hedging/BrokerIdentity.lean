import Liquidity.Hedging.Release

/-!
# The broker order behind an offchain order

A placement whose response was lost may have reached the broker. The position
keeps the identifier of the first failed attempt, later attempts place under it
as their key, and a duplicate key makes them adopt the order that is already
there. The adopted order fits if it is of the same side; nothing checks that it
is, and the net position may have changed its sign in between.

`orders_describe_broker` says that this is the only way for an offchain order to
point at a broker order it does not describe.
-/

namespace Liquidity.Hedging

open EventSourcing Process OffchainOrder

section Identity

variable [FloatFormat]

/-- The order under this identifier is the one the broker holds with the given
symbol and side. -/
def HoldsOnly (broker : List BrokerOrder) (id : ExecutorOrderId) (symbol : Symbol)
    (side : Direction) : Prop :=
  ∃ held ∈ broker, held.id = id ∧ held.symbol = symbol ∧ held.side = side ∧
    ∀ other ∈ broker, other.id = id → other = held

/-- What an offchain order points at is as the order says. -/
structure Described (world : World) : Prop where
  orders : ∀ id order executorOrderId,
    OffchainOrder.aggregate.lifecycle (world.orders id) = .live order →
      order.pointsAt = some executorOrderId →
        ∃ held ∈ world.broker, held.id = executorOrderId ∧ held.symbol = order.symbol ∧
          held.side = order.direction
  uncrossed : ¬ CrossedSides world
  distinct : (world.broker.map BrokerOrder.id).Nodup

/-- What the broker holds under the key of a placement, if anything, is of the
side that is to be placed. -/
def SidesAgree (_ : Task) (op : Op) (world : World) : Prop :=
  match op with
  | .postOrder request =>
      match world.held request.clientOrderId with
      | some existing => existing.side = request.side
      | none => True
  | _ => True

instance (task : Task) (op : Op) (world : World) : Decidable (SidesAgree task op world) := by
  unfold SidesAgree
  split
  · split <;> infer_instance
  · infer_instance

omit [FloatFormat] in
theorem Described.empty : Described World.empty where
  orders := by simp [World.empty]
  uncrossed := by simp [CrossedSides, World.empty]
  distinct := by simp [World.empty]

omit [FloatFormat] in
/-- An identifier determines the broker order. -/
theorem Described.holdsOnly {world : World} (h : Described world) {id : OffchainOrderId}
    {order : OffchainOrder} {executorOrderId : ExecutorOrderId}
    (live : OffchainOrder.aggregate.lifecycle (world.orders id) = .live order)
    (points : order.pointsAt = some executorOrderId) :
    HoldsOnly world.broker executorOrderId order.symbol order.direction := by
  obtain ⟨held, member, sameId, sameSymbol, sameSide⟩ :=
    h.orders id order executorOrderId live points
  refine ⟨held, member, sameId, sameSymbol, sameSide, fun other found same => ?_⟩
  exact List.inj_on_of_nodup_map h.distinct found member (same.trans sameId.symm)

omit [FloatFormat] in
/-- An order comes to point at a broker order only by its acceptance. -/
theorem send_pointsAt {services : OrderServices} {command : OffchainOrderCommand}
    {stream events : List OffchainOrderEvent} {earlier later : OffchainOrder}
    {executorOrderId : ExecutorOrderId}
    (sent : OffchainOrder.aggregate.send services command stream = .ok events)
    (live : OffchainOrder.aggregate.lifecycle stream = .live earlier)
    (live' : OffchainOrder.aggregate.lifecycle (stream ++ events) = .live later)
    (points : later.pointsAt = some executorOrderId) :
    earlier.pointsAt = some executorOrderId ∨ ∃ placedShares submittedAt marketSession limitPrice,
      command = .markAccepted executorOrderId placedShares submittedAt marketSession
        limitPrice := by
  obtain ⟨next, found, evolved⟩ := send_continues sent earlier live
  rw [live'] at found
  cases found
  by_cases left : earlier.isPending = false
  · exact .inl ((evolved.submitted left).2.2 ▸ points)
  · rcases OffchainOrder.aggregate.send_eq_ok.mp sent with ⟨absent, -⟩ | ⟨entity, present, produced⟩
    · rw [live] at absent
      cases absent
    · rw [live] at present
      cases present
      rw [Aggregate.lifecycle_append, live] at live'
      change earlier.transition services command = .ok events at produced
      cases earlier with
      | pending terms session =>
          cases command with
          | markAccepted =>
              cases produced
              cases live'
              cases points
              exact .inr ⟨_, _, _, _, rfl⟩
          | markPlacementFailed | markFailed =>
              cases produced
              cases live'
              cases points
          | place =>
              simp only [transition, validatePlaceReplay] at produced
              split at produced <;> cases produced
              cases live'
              cases points
          | _ => cases produced
      | _ => exact absurd rfl left

/-- An operation that fits and does not cross sides keeps every order described. -/
theorem Described.operation {world next : World} {choice : Choice} {task : Task} {op : Op}
    {answer : op.Ret} (fits : Fit op world) (agree : SidesAgree task op world)
    (handled : handle choice op world = some (answer, next)) (h : Described world) :
    Described next := by
  cases op with
  | sendOrder id command =>
      rcases handle_sendOrder handled with ⟨rfl, -⟩ | ⟨events, sent, -, rfl⟩
      · exact h
      · refine ⟨fun other order executorOrderId live points => ?_, h.uncrossed, h.distinct⟩
        by_cases same : other = id
        · subst same
          simp only [Streams.append_self] at live
          rcases OffchainOrder.aggregate.send_eq_ok.mp sent with
            ⟨absent, created⟩ | ⟨earlier, present, -⟩
          · -- A placement that creates the order leaves it pending.
            rw [Aggregate.lifecycle_append, absent] at live
            cases command <;> cases created
            cases live
            cases points
          · obtain ⟨later, found, evolved⟩ := send_continues sent earlier present
            rw [live] at found
            cases found
            rcases send_pointsAt sent present live points with before | ⟨_, _, _, _, rfl⟩
            · rw [evolved.symbol, evolved.direction]
              exact h.orders other earlier executorOrderId present before
            · obtain ⟨held, member, sameId, stored, isStored, sameSymbol, side⟩ := fits
              rw [present] at isStored
              cases isStored
              refine ⟨held, member, sameId, sameSymbol.trans evolved.symbol.symm, ?_⟩
              exact (side.resolve_right h.uncrossed).trans evolved.direction.symm
        · simp only [Streams.append_of_ne _ same] at live
          exact h.orders other order executorOrderId live points
  | postOrder request =>
      rcases handle_postOrder handled with ⟨held, isHeld, -, rfl⟩ | ⟨-, fresh, -, rfl⟩ | ⟨rfl, -⟩
      · refine ⟨h.orders, ?_, h.distinct⟩
        rintro ⟨entry, member, crossed⟩
        rcases List.mem_append.mp member with old | isNew
        · exact h.uncrossed ⟨entry, old, crossed⟩
        · obtain rfl := List.mem_singleton.mp isNew
          simp only [SidesAgree, isHeld] at agree
          exact crossed agree
      · refine ⟨fun id order executorOrderId live points => ?_, h.uncrossed, ?_⟩
        · obtain ⟨held, member, describes⟩ := h.orders id order executorOrderId live points
          exact ⟨held, List.mem_append_left _ member, describes⟩
        · rw [List.map_append, List.nodup_append]
          refine ⟨h.distinct, by simp, ?_⟩
          intro id member newId isNew same
          obtain ⟨order, found, rfl⟩ := List.mem_map.mp member
          simp only [BrokerOrder.ofRequest, List.map_cons, List.map_nil, List.mem_singleton] at isNew
          exact fresh order found (same.trans isNew)
      · exact h
  | sendPosition =>
      rcases handle_sendPosition handled with ⟨rfl, -⟩ | ⟨_, _, -, rfl⟩ <;>
        exact ⟨h.orders, h.uncrossed, h.distinct⟩
  | newOrderId =>
      obtain ⟨-, rfl⟩ := handle_newOrderId handled
      exact ⟨h.orders, h.uncrossed, h.distinct⟩
  | push =>
      rcases handle_push handled with rfl | rfl <;> exact ⟨h.orders, h.uncrossed, h.distinct⟩
  | loadPosition | loadPositionView | loadOrder | loadOrderView | transferActive | marketSession
  | fetchLatestTradePrice | preflightCounterTrade | getOrderByClientOrderId | getOrderStatus =>
      cases handled
      exact h

theorem Described.environment {config : HedgeConfig} {world next : World} {other : OtherCommand}
    (changed : (system config).environment other world = some next) (h : Described world) :
    Described next := by
  simp only [system] at changed
  split at changed <;> cases changed <;> exact ⟨h.orders, h.uncrossed, h.distinct⟩

/-- A fill that a position records: the command completed the claimed order. -/
theorem step_completes {world next : World} (books : Consistent world) {choice : Choice} {op : Op}
    {answer : op.Ret} (fits : Fit op world)
    (handled : handle choice op world = some (answer, next)) {symbol : Symbol}
    {id : OffchainOrderId} {shares : Positive} {direction : Direction}
    {executorOrderId : ExecutorOrderId} {price : Usd} {brokerTimestamp : Time}
    (grown : next.positions symbol = world.positions symbol ++
      [.offChainOrderFilled id shares direction executorOrderId price brokerTimestamp]) :
    ∃ order, OffchainOrder.aggregate.lifecycle (world.orders id) = .live order ∧
      order.pointsAt.isSome ∧ order.symbol = symbol ∧ order.direction = direction := by
  rcases handle_positions handled with same | ⟨target, command, basis, events, rfl, sent, same⟩
  · rw [same] at grown
    exact absurd grown (by simp)
  · by_cases here : symbol = target
    · subst here
      rw [same, Streams.append_self] at grown
      obtain rfl := List.append_cancel_left grown
      obtain ⟨entity, live, recorded⟩ :=
        Position.send_aboutOrder sent (List.mem_singleton_self _) rfl
      cases command with
      | completeOffChainOrder =>
          obtain ⟨claimed, same⟩ := recorded
          cases same
          obtain ⟨-, order, ordered, sameDirection, points⟩ := fits
          have owned := books.owned (List.prefix_refl _) live entity rfl id (.inl claimed)
          exact ⟨order, ordered, points, books.unique id _ _ (books.ordered id order ordered) owned,
            sameDirection⟩
      | placeOffChainOrder =>
          obtain ⟨-, trigger, impossible⟩ := recorded
          cases impossible
      | failOffChainOrder | cancelOffChainOrder =>
          obtain ⟨-, impossible⟩ := recorded
          cases impossible
      | _ => cases recorded
    · rw [same, Streams.append_of_ne _ here] at grown
      exact absurd grown (by simp)

/-- In every run in which no placement meets a held order of the other side, every
offchain order describes the broker order it points at, and every fill a position
records has the symbol and the side of the broker order that made it. -/
theorem orders_describe_broker (config : HedgeConfig)
    {schedule : List (Act Choice Task OtherCommand)}
    {final : Config Op Op.Ret HedgeError Unit World Task}
    (ran : (system config).run ⟨World.empty, []⟩ schedule = some final)
    (agree : (system config).MeetsAll SidesAgree ⟨World.empty, []⟩ schedule) :
    (∀ id order executorOrderId,
      OffchainOrder.aggregate.lifecycle (final.shared.orders id) = .live order →
        order.pointsAt = some executorOrderId →
          HoldsOnly final.shared.broker executorOrderId order.symbol order.direction) ∧
      ∀ action after symbol id shares direction executorOrderId price brokerTimestamp,
        (system config).act final action = some after →
          after.shared.positions symbol = final.shared.positions symbol ++
            [.offChainOrderFilled id shares direction executorOrderId price brokerTimestamp] →
          ∃ order held, OffchainOrder.aggregate.lifecycle (final.shared.orders id) = .live order ∧
            order.pointsAt = some held ∧ HoldsOnly final.shared.broker held symbol direction := by
  have initial : (system config).Fitting Consistent Moves Fit ⟨World.empty, []⟩ :=
    .initial Consistent.empty
  have fitting := initial.run (disciplined config) ran
  have described : Described final.shared :=
    initial.run_invariant (disciplined config)
      (fun _ _ _ _ _ _ _ fits agree handled => Described.operation fits agree handled)
      (fun _ _ _ _ changed => Described.environment changed) Described.empty agree ran
  refine ⟨fun id order executorOrderId => described.holdsOnly, ?_⟩
  intro action after symbol id shares direction executorOrderId price at_ acted grown
  cases action with
  | start task =>
      simp only [System.act] at acted
      split at acted <;> cases acted
      exact absurd grown (by simp)
  | step index choice =>
      obtain ⟨task, op, cont, answer, shared, found, handled, rfl⟩ :=
        (system config).advance_eq_some acted
      obtain ⟨order, live, points, rfl, rfl⟩ :=
        step_completes fitting.holds (fitting.fits found) handled grown
      obtain ⟨held, isHeld⟩ := Option.isSome_iff_exists.mp points
      exact ⟨order, held, live, isHeld, described.holdsOnly live isHeld⟩
  | crash index =>
      cases acted
      exact absurd grown (by simp)
  | env other =>
      obtain ⟨shared, changed, rfl⟩ := Option.map_eq_some_iff.mp acted
      exact absurd grown (environment_aboutOrder changed rfl)

end Identity

/-! ## Two schedules -/

/-- The sale of ten shares reaches the broker, but its response is lost: the order
is recorded as failed, and the claim is released with its identifier as anchor. -/
def responseLost : List (Act Choice Task OtherCommand) :=
  [filledOnchain 1 10 .buy] ++ scanned 1 ++
    undisturbed (sampleHedge 1 .sell ⟨10, Positive.ten_pos⟩ 10) (placement 1 .lost)

/-- The chain sells enough to turn the position around, and the next hedge buys. -/
def turnedAround : List (Act Choice Task OtherCommand) :=
  responseLost ++ [filledOnchain 2 15 .sell] ++ scanned 2 ++
    undisturbed (sampleHedge 2 .buy ⟨5, Positive.five_pos⟩ (-5))
      (List.replicate 10 ordinary)

/-- The next hedge sells again and adopts what the first one had placed. -/
def retried : List (Act Choice Task OtherCommand) :=
  responseLost ++ scanned 2 ++
    undisturbed (sampleHedge 2 .sell ⟨10, Positive.ten_pos⟩ 10) (List.replicate 10 ordinary)

/-- Without the condition an order may point at a broker order of the other side:
the purchase of five shares adopts the sale of ten. -/
theorem adopted_other_side :
    ¬ ∀ (schedule : List (Act Choice Task OtherCommand))
      (final : Config Op Op.Ret HedgeError Unit World Task),
      (@system FloatFormat.exact sampleConfig).run ⟨World.empty, []⟩ schedule = some final →
        ∀ id order executorOrderId,
          OffchainOrder.aggregate.lifecycle (final.shared.orders id) = .live order →
            order.pointsAt = some executorOrderId →
              HoldsOnly final.shared.broker executorOrderId order.symbol order.direction := by
  intro claim
  have adopted : ((@system FloatFormat.exact sampleConfig).run ⟨World.empty, []⟩
      turnedAround).map (fun final => (OffchainOrder.aggregate.lifecycle (final.shared.orders ⟨2⟩),
        final.shared.broker.map BrokerOrder.side)) =
      some (.live (.submitted ⟨"AAPL", ⟨10, Positive.ten_pos⟩, .buy, .alpacaBrokerApi, 0⟩ (brokerId 1) 0
        .regular), [.sell]) := by
    decide +kernel
  obtain ⟨final, ran, states⟩ := Option.map_eq_some_iff.mp adopted
  obtain ⟨live, sides⟩ := Prod.mk.inj states
  obtain ⟨held, member, -, -, isBuy, -⟩ := claim _ final ran ⟨2⟩ _ _ live rfl
  have isSell : held.side ∈ final.shared.broker.map BrokerOrder.side :=
    List.mem_map_of_mem member
  rw [sides, isBuy] at isSell
  cases List.mem_singleton.mp isSell

theorem orders_describe_broker_retried :
    ∃ final, (@system FloatFormat.exact sampleConfig).run ⟨World.empty, []⟩ retried = some final ∧
      ∀ id order executorOrderId,
        OffchainOrder.aggregate.lifecycle (final.shared.orders id) = .live order →
          order.pointsAt = some executorOrderId →
            HoldsOnly final.shared.broker executorOrderId order.symbol order.direction := by
  have runs : ((@system FloatFormat.exact sampleConfig).run ⟨World.empty, []⟩
      retried).isSome := by decide +kernel
  obtain ⟨final, ran⟩ := Option.isSome_iff_exists.mp runs
  exact ⟨final, ran,
    (@orders_describe_broker FloatFormat.exact sampleConfig _ final ran (by decide +kernel)).1⟩

end Liquidity.Hedging
