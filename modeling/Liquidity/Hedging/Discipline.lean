import Liquidity.Hedging.Jobs
import Liquidity.Process.Assertions

/-!
# What the hedging jobs know when they act

All hedging jobs move the world forward: logs grow, ended orders stay ended,
broker orders and drawn identifiers never go away (`Moves`). The books agree on
who an identifier belongs to (`Consistent`): it was drawn for one symbol, and
the position that claims it, the order stored under it and the broker order
keyed by it are all of that symbol.

`Fit` says what the sender of an operation knows at the moment it is performed.
A placement was computed from a scanned position. A release of a claim accounts
for the order, provided that the basis it acts on is `Sound`. An acceptance
names a broker order of the same symbol, and of the same side unless a placement
met a held order of the other side.
-/

namespace Liquidity.Hedging

open EventSourcing Process OffchainOrder

section Definitions

variable [FloatFormat]

/-- A direction and a quantity that a readiness check computed from this net. -/
def Computed (net : FractionalShares) (direction : Direction) (shares : Positive) : Prop :=
  ∃ position limit capped, Position.net position = net ∧
    position.isReadyForExecution limit = .ok (some (direction, capped)) ∧ shares.inner ≤ capped

/-- The forward order of the world. -/
structure Moves (before after : World) : Prop where
  orders : ∀ id, Continues (before.orders id) (after.orders id)
  minted : before.minted ⊆ after.minted
  broker : before.broker <+: after.broker
  duplicates : before.duplicates ⊆ after.duplicates

/-- The stores, the broker and the queue agree on the symbol of an identifier. -/
structure Consistent (world : World) : Prop where
  jobs : ∀ job, .placeHedge job ∈ world.jobs → (job.offchainOrderId, job.symbol) ∈ world.minted ∧
    Computed job.scannedNet job.direction job.shares
  unique : ∀ id first second, (id, first) ∈ world.minted → (id, second) ∈ world.minted →
    first = second
  placed : ∀ symbol, ∀ event ∈ world.positions symbol, ∀ id,
    Position.placedId? event = some id → (id, symbol) ∈ world.minted
  sane : ∀ id, OffchainOrder.aggregate.lifecycle (world.orders id) ≠ .failed
  ordered : ∀ id order, OffchainOrder.aggregate.lifecycle (world.orders id) = .live order →
    (id, order.symbol) ∈ world.minted
  keys : ∀ order ∈ world.broker, (⟨order.clientOrderId.uuid⟩, order.symbol) ∈ world.minted

/-- The command credits the position with the fill of the stored order, if it
ended with one. -/
def AccountsFor (command : PositionCommand) (id : OffchainOrderId)
    (stream : List OffchainOrderEvent) : Prop :=
  ∀ order shares, OffchainOrder.aggregate.lifecycle stream = .live order →
    order.terminalFill = some shares →
      ∃ executorOrderId price brokerTimestamp,
        command = .completeOffChainOrder id shares order.direction executorOrderId price
          brokerTimestamp

/-- The fill of the stored order, if it ended with one. -/
def storedFill (stream : List OffchainOrderEvent) : Option Positive :=
  match OffchainOrder.aggregate.lifecycle stream with
  | .live order => order.terminalFill
  | _ => none

/-- The sender's picture of the order misses no fill. Who releases the claim
because it saw the order failed, or saw none, is right only if the stored order
has no fill to account for; a rejection is right about a fill only if its
snapshot has it. -/
def Basis.Sound (basis : Basis) (stream : List OffchainOrderEvent) : Prop :=
  match basis with
  | .failedOrder | .noOrder => storedFill stream = none
  | .rejected snapshot =>
      storedFill stream = none ∨ storedFill stream = pricedFill snapshot.recordedFill
  | .unspecified | .scanned _ => True

instance (basis : Basis) (stream : List OffchainOrderEvent) : Decidable (basis.Sound stream) := by
  unfold Basis.Sound
  cases basis <;> infer_instance

/-- A placement has met an order of the other side under its key. -/
def CrossedSides (world : World) : Prop :=
  ∃ entry ∈ world.duplicates, entry.2.side ≠ entry.1.side

/-- What is known of an operation when it is performed. -/
def Fit (op : Op) (world : World) : Prop :=
  match op with
  | .sendPosition symbol (.placeOffChainOrder id shares direction _ _) basis =>
      (id, symbol) ∈ world.minted ∧ ∃ net, basis = .scanned net ∧ Computed net direction shares
  | .sendPosition _ (.completeOffChainOrder id shares direction executorOrderId price at_) basis =>
      (basis.Sound (world.orders id) →
        AccountsFor (.completeOffChainOrder id shares direction executorOrderId price at_) id
          (world.orders id)) ∧
      ∃ order, OffchainOrder.aggregate.lifecycle (world.orders id) = .live order ∧
        order.direction = direction ∧ order.pointsAt.isSome
  | .sendPosition _ (.failOffChainOrder id error) basis =>
      basis.Sound (world.orders id) →
        AccountsFor (.failOffChainOrder id error) id (world.orders id)
  | .sendPosition _ (.cancelOffChainOrder id reason at_) basis =>
      basis.Sound (world.orders id) →
        AccountsFor (.cancelOffChainOrder id reason at_) id (world.orders id)
  | .sendOrder id (.place symbol _ _ _ _ _) => (id, symbol) ∈ world.minted
  | .sendOrder id (.markAccepted executorOrderId _ _ _ _) =>
      ∃ held ∈ world.broker, held.id = executorOrderId ∧
        ∃ order, OffchainOrder.aggregate.lifecycle (world.orders id) = .live order ∧
          held.symbol = order.symbol ∧ (held.side = order.direction ∨ CrossedSides world)
  | .push (.placeHedge job) => (job.offchainOrderId, job.symbol) ∈ world.minted ∧
      Computed job.scannedNet job.direction job.shares
  | .postOrder request => (⟨request.clientOrderId.uuid⟩, request.symbol) ∈ world.minted
  | _ => True

end Definitions

theorem Moves.refl (world : World) : Moves world world :=
  ⟨fun _ => Continues.refl _, List.Subset.refl _, List.prefix_refl _, List.Subset.refl _⟩

theorem Moves.trans {first second third : World} (before : Moves first second)
    (after : Moves second third) : Moves first third where
  orders := fun id => (before.orders id).trans (after.orders id)
  minted := List.Subset.trans before.minted after.minted
  broker := before.broker.trans after.broker
  duplicates := List.Subset.trans before.duplicates after.duplicates

/-! ## Operations -/

section Operations

variable [FloatFormat] {world next : World} {choice : Choice}

/-- A command on a position is refused, changing nothing, or appends its batch. -/
theorem handle_sendPosition {symbol : Symbol} {command : PositionCommand} {basis : Basis}
    {answer : (Op.sendPosition symbol command basis).Ret}
    (h : handle choice (.sendPosition symbol command basis) world = some (answer, next)) :
    (next = world ∧ ∃ error, answer = .error error) ∨
      ∃ events, Position.aggregate.send choice.now command (world.positions symbol) = .ok events ∧
        answer = .ok () ∧
        next = { world with positions := world.positions.append symbol events } := by
  simp only [handle] at h
  split at h
  · split at h <;> cases h
    · exact .inr ⟨_, ‹_›, rfl, rfl⟩
    · exact .inl ⟨rfl, _, rfl⟩
  · cases h
    exact .inl ⟨rfl, _, rfl⟩

theorem handle_sendOrder {id : OffchainOrderId} {command : OffchainOrderCommand}
    {answer : (Op.sendOrder id command).Ret}
    (h : handle choice (.sendOrder id command) world = some (answer, next)) :
    (next = world ∧ ∃ error, answer = .error error) ∨
      ∃ events, OffchainOrder.aggregate.send choice.services command (world.orders id) =
          .ok events ∧
        answer = .ok () ∧ next = { world with orders := world.orders.append id events } := by
  simp only [handle] at h
  split at h
  · split at h <;> cases h
    · exact .inr ⟨_, ‹_›, rfl, rfl⟩
    · exact .inl ⟨rfl, _, rfl⟩
  · cases h
    exact .inl ⟨rfl, _, rfl⟩

/-- A placement is refused as a duplicate, recorded by the broker, or not made. -/
theorem handle_postOrder {request : OrderRequest} {answer : (Op.postOrder request).Ret}
    (h : handle choice (.postOrder request) world = some (answer, next)) :
    (∃ held, world.held request.clientOrderId = some held ∧
        answer = .error .duplicateClientOrderId ∧
        next = { world with duplicates := world.duplicates ++ [(request, held)] }) ∨
      (world.held request.clientOrderId = none ∧
        (∀ order ∈ world.broker, order.id ≠ brokerId choice.uuid) ∧
        (answer = .ok (brokerId choice.uuid) ∨ ∃ message, answer = .error (.api message)) ∧
        next = { world with
          broker := world.broker ++ [.ofRequest request (brokerId choice.uuid) choice.echo] }) ∨
      (next = world ∧ ∃ message, answer = .error (.api message)) := by
  simp only [handle, World.postOrder] at h
  split at h
  · cases h
    exact .inr (.inr ⟨rfl, _, rfl⟩)
  · split at h
    · cases h
      exact .inl ⟨_, ‹_›, rfl, rfl⟩
    · rename_i free
      split at h
      · cases h
      · rename_i unused
        have fresh : ∀ order ∈ world.broker, order.id ≠ brokerId choice.uuid := by
          simpa using unused
        split at h <;> cases h
        · exact .inr (.inl ⟨free, fresh, .inl rfl, rfl⟩)
        · exact .inr (.inl ⟨free, fresh, .inr ⟨_, rfl⟩, rfl⟩)
        · exact .inr (.inr ⟨rfl, _, rfl⟩)

theorem handle_newOrderId {symbol : Symbol} {answer : (Op.newOrderId symbol).Ret}
    (h : handle choice (.newOrderId symbol) world = some (answer, next)) :
    (∀ owner, (answer, owner) ∉ world.minted) ∧
      next = { world with minted := world.minted ++ [(answer, symbol)] } := by
  simp only [handle] at h
  split at h
  · cases h
  · rename_i fresh
    cases h
    exact ⟨by simpa using fresh, rfl⟩

theorem handle_push {job : Job} {answer : (Op.push job).Ret}
    (h : handle choice (.push job) world = some (answer, next)) :
    next = world ∨ next = { world with jobs := world.jobs ++ [job] } := by
  simp only [handle] at h
  split at h <;> cases h
  · exact .inr rfl
  · exact .inl rfl

theorem handle_loadPosition {symbol : Symbol} {answer : (Op.loadPosition symbol).Ret}
    (h : handle choice (.loadPosition symbol) world = some (answer, next)) :
    next = world ∧ ∀ position, answer = .ok (some position) →
      Position.aggregate.lifecycle (world.positions symbol) = .live position := by
  simp only [handle] at h
  cases h
  refine ⟨rfl, fun position found => ?_⟩
  split at found
  · exact Position.aggregate.load_eq_some.mp found
  · cases found

theorem handle_loadPositionView {symbol : Symbol} {answer : (Op.loadPositionView symbol).Ret}
    (h : handle choice (.loadPositionView symbol) world = some (answer, next)) :
    next = world ∧ ∀ position, answer = .ok (some position) →
      ∃ viewed, viewed <+: world.positions symbol ∧
        Position.aggregate.lifecycle viewed = .live position := by
  simp only [handle] at h
  cases h
  refine ⟨rfl, fun position found => ?_⟩
  split at found
  · exact ⟨_, List.take_prefix _ _, Position.aggregate.load_eq_some.mp found⟩
  · cases found

theorem handle_loadOrder {id : OffchainOrderId} {answer : (Op.loadOrder id).Ret}
    (h : handle choice (.loadOrder id) world = some (answer, next)) :
    next = world ∧ ∀ order, answer = .ok (some order) →
      OffchainOrder.aggregate.lifecycle (world.orders id) = .live order := by
  simp only [handle] at h
  cases h
  refine ⟨rfl, fun order found => ?_⟩
  split at found
  · exact OffchainOrder.aggregate.load_eq_some.mp found
  · cases found

theorem handle_loadOrderView {id : OffchainOrderId} {answer : (Op.loadOrderView id).Ret}
    (h : handle choice (.loadOrderView id) world = some (answer, next)) :
    next = world ∧ ∀ order, answer = .ok (some order) →
      ∃ viewed, viewed <+: world.orders id ∧
        OffchainOrder.aggregate.lifecycle viewed = .live order := by
  simp only [handle] at h
  cases h
  refine ⟨rfl, fun order found => ?_⟩
  split at found
  · exact ⟨_, List.take_prefix _ _, OffchainOrder.aggregate.load_eq_some.mp found⟩
  · cases found

theorem handle_getOrderByClientOrderId {key : ClientOrderId}
    {answer : (Op.getOrderByClientOrderId key).Ret}
    (h : handle choice (.getOrderByClientOrderId key) world = some (answer, next)) :
    next = world ∧ ∀ held, answer = .ok (some held) → world.held key = some held := by
  simp only [handle] at h
  cases h
  refine ⟨rfl, fun held found => ?_⟩
  split at found
  · exact Except.ok.inj found
  · cases found

/-! ## What fits keeps the books consistent -/

theorem Consistent.append_position (h : Consistent world) {symbol : Symbol}
    {events : List PositionEvent}
    (owned : ∀ event ∈ events, ∀ id, Position.placedId? event = some id →
      (id, symbol) ∈ world.minted) :
    Consistent { world with positions := world.positions.append symbol events } where
  jobs := h.jobs
  unique := h.unique
  sane := h.sane
  ordered := h.ordered
  keys := h.keys
  placed := by
    intro other event member id placed
    by_cases same : other = symbol
    · subst same
      simp only [Streams.append_self] at member
      rcases List.mem_append.mp member with old | isNew
      · exact h.placed other event old id placed
      · exact owned event isNew id placed
    · simp only [Streams.append_of_ne _ same] at member
      exact h.placed other event member id placed

omit [FloatFormat] in
theorem moves_append_position (symbol : Symbol) (events : List PositionEvent) :
    Moves world { world with positions := world.positions.append symbol events } :=
  ⟨fun _ => Continues.refl _, List.Subset.refl _, List.prefix_refl _, List.Subset.refl _⟩

/-- The orders a batch claims are those of the placement that produced it. -/
theorem placedId_of_send {now : Time} {command : PositionCommand}
    {stream events : List PositionEvent}
    (sent : Position.aggregate.send now command stream = .ok events) {event : PositionEvent}
    (member : event ∈ events) {id : OffchainOrderId} (placed : Position.placedId? event = some id) :
    ∃ shares direction executor threshold,
      command = .placeOffChainOrder id shares direction executor threshold := by
  have about : (Position.aboutOrder? event).isSome := by cases event <;> first | rfl | cases placed
  obtain ⟨entity, -, answer⟩ := Position.send_aboutOrder sent member about
  cases command with
  | placeOffChainOrder =>
      obtain ⟨-, trigger, rfl⟩ := answer
      cases placed
      exact ⟨_, _, _, _, rfl⟩
  | completeOffChainOrder | failOffChainOrder | cancelOffChainOrder =>
      obtain ⟨-, rfl⟩ := answer
      cases placed
  | _ => cases answer

omit [FloatFormat] in
/-- The order after an accepted command: created by a placement, or evolved. -/
theorem order_after_send {services : OrderServices} {command : OffchainOrderCommand}
    {stream events : List OffchainOrderEvent}
    (sent : OffchainOrder.aggregate.send services command stream = .ok events) :
    ∃ order, OffchainOrder.aggregate.lifecycle (stream ++ events) = .live order ∧
      ((∃ earlier, OffchainOrder.aggregate.lifecycle stream = .live earlier ∧
          Evolved earlier order) ∨
        ∃ symbol shares direction executor key kind,
          command = .place symbol shares direction executor key kind ∧
            order.symbol = symbol ∧ order.direction = direction) := by
  rcases OffchainOrder.aggregate.send_eq_ok.mp sent with ⟨absent, created⟩ | ⟨entity, present, -⟩
  · cases command with
    | place symbol shares direction executor key kind =>
        cases created
        exact ⟨.pending ⟨symbol, shares, direction, executor, services.now⟩
          (marketSessionFromExtended (kind.marketSession = .extended)), by
            rw [Aggregate.lifecycle_append, absent]
            rfl, .inr ⟨_, _, _, _, _, _, rfl, rfl, rfl⟩⟩
    | _ => cases created
  · obtain ⟨order, live, evolved⟩ := send_continues sent entity present
    exact ⟨order, live, .inl ⟨entity, present, evolved⟩⟩

theorem Consistent.append_order (h : Consistent world) {services : OrderServices}
    {id : OffchainOrderId} {command : OffchainOrderCommand} {events : List OffchainOrderEvent}
    (fits : ∀ symbol shares direction executor key kind,
      command = .place symbol shares direction executor key kind → (id, symbol) ∈ world.minted)
    (sent : OffchainOrder.aggregate.send services command (world.orders id) = .ok events) :
    Consistent { world with orders := world.orders.append id events } := by
  obtain ⟨order, live, origin⟩ := order_after_send sent
  have owned : (id, order.symbol) ∈ world.minted := by
    rcases origin with ⟨earlier, before, evolved⟩ | ⟨symbol, _, _, _, _, _, rfl, same, -⟩
    · rw [evolved.symbol]
      exact h.ordered id earlier before
    · rw [same]
      exact fits _ _ _ _ _ _ rfl
  refine ⟨h.jobs, h.unique, h.placed, fun other => ?_, fun other stored found => ?_, h.keys⟩
  · by_cases same : other = id
    · subst same
      simp [live]
    · simpa [same] using h.sane other
  · by_cases same : other = id
    · subst same
      simp only [Streams.append_self, live] at found
      cases found
      exact owned
    · exact h.ordered other stored (by simpa [same] using found)

omit [FloatFormat] in
theorem moves_append_order {services : OrderServices} {id : OffchainOrderId}
    {command : OffchainOrderCommand} {events : List OffchainOrderEvent}
    (sent : OffchainOrder.aggregate.send services command (world.orders id) = .ok events) :
    Moves world { world with orders := world.orders.append id events } := by
  refine ⟨fun other => ?_, List.Subset.refl _, List.prefix_refl _, List.Subset.refl _⟩
  by_cases same : other = id
  · subst same
    simpa using send_continues sent
  · simpa [same] using Continues.refl (world.orders other)

/-- A fitting operation keeps the books consistent and moves the world forward. -/
theorem Consistent.operation (h : Consistent world) {op : Op} (fits : Fit op world)
    {answer : op.Ret} (handled : handle choice op world = some (answer, next)) :
    Consistent next ∧ Moves world next := by
  cases op with
  | sendPosition symbol command basis =>
      rcases handle_sendPosition handled with ⟨rfl, -⟩ | ⟨events, sent, -, rfl⟩
      · exact ⟨h, Moves.refl _⟩
      · refine ⟨h.append_position fun event member id placed => ?_, moves_append_position _ _⟩
        obtain ⟨_, _, _, _, rfl⟩ := placedId_of_send sent member placed
        exact fits.1
  | sendOrder id command =>
      rcases handle_sendOrder handled with ⟨rfl, -⟩ | ⟨events, sent, -, rfl⟩
      · exact ⟨h, Moves.refl _⟩
      · refine ⟨h.append_order ?_ sent, moves_append_order sent⟩
        rintro _ _ _ _ _ _ rfl
        exact fits
  | newOrderId symbol =>
      obtain ⟨fresh, rfl⟩ := handle_newOrderId handled
      have grows : world.minted ⊆ world.minted ++ [(answer, symbol)] :=
        List.subset_append_left _ _
      refine ⟨⟨fun job queued => (h.jobs job queued).imp_left (grows ·), ?_,
        fun other event member id placed => grows (h.placed other event member id placed), h.sane,
        fun id order live => grows (h.ordered id order live),
        fun order held => grows (h.keys order held)⟩,
        ⟨fun _ => Continues.refl _, grows, List.prefix_refl _, List.Subset.refl _⟩⟩
      intro id first second isFirst isSecond
      simp only [List.mem_append, List.mem_singleton, Prod.mk.injEq] at isFirst isSecond
      rcases isFirst with old | ⟨rfl, rfl⟩ <;> rcases isSecond with old' | ⟨same, rfl⟩
      · exact h.unique id _ _ old old'
      · exact absurd (same ▸ old) (fresh _)
      · exact absurd old' (fresh _)
      · rfl
  | push job =>
      rcases handle_push handled with rfl | rfl
      · exact ⟨h, Moves.refl _⟩
      · refine ⟨⟨fun queued member => ?_, h.unique, h.placed, h.sane, h.ordered, h.keys⟩,
          ⟨fun _ => Continues.refl _, List.Subset.refl _, List.prefix_refl _,
            List.Subset.refl _⟩⟩
        rcases List.mem_append.mp member with old | isNew
        · exact h.jobs queued old
        · obtain rfl := List.mem_singleton.mp isNew
          exact fits
  | postOrder request =>
      rcases handle_postOrder handled with ⟨held, -, -, rfl⟩ | ⟨-, -, -, rfl⟩ | ⟨rfl, -⟩
      · exact ⟨⟨h.jobs, h.unique, h.placed, h.sane, h.ordered, h.keys⟩,
          ⟨fun _ => Continues.refl _, List.Subset.refl _, List.prefix_refl _,
            List.subset_append_left _ _⟩⟩
      · refine ⟨⟨h.jobs, h.unique, h.placed, h.sane, h.ordered, fun order member => ?_⟩,
          ⟨fun _ => Continues.refl _, List.Subset.refl _, List.prefix_append _ _,
            List.Subset.refl _⟩⟩
        rcases List.mem_append.mp member with old | isNew
        · exact h.keys order old
        · obtain rfl := List.mem_singleton.mp isNew
          exact fits
      · exact ⟨h, Moves.refl _⟩
  | loadPosition | loadPositionView | loadOrder | loadOrderView | transferActive | marketSession
  | fetchLatestTradePrice | preflightCounterTrade | getOrderByClientOrderId | getOrderStatus =>
      cases handled
      exact ⟨h, Moves.refl _⟩

/-- Commands of other subsystems claim nothing. -/
theorem Consistent.environment (h : Consistent world) {config : HedgeConfig}
    {other : OtherCommand} (changed : (system config).environment other world = some next) :
    Consistent next ∧ Moves world next := by
  simp only [system] at changed
  split at changed <;> cases changed
  · rename_i events sent
    refine ⟨h.append_position fun event member id placed => ?_, moves_append_position _ _⟩
    obtain ⟨_, _, _, _, isPlacement⟩ := placedId_of_send sent member placed
    have notHedge := other.notHedge
    rw [isPlacement] at notHedge
    cases notHedge
  · exact ⟨h, Moves.refl _⟩

theorem Consistent.empty : Consistent World.empty where
  jobs := by simp [World.empty]
  unique := by simp [World.empty]
  placed := by simp [World.empty]
  sane := by simp [World.empty]
  ordered := by simp [World.empty]
  keys := by simp [World.empty]

end Operations

end Liquidity.Hedging
