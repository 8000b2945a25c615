import Liquidity.EventSourcing.Aggregate
import Liquidity.Position.Aggregate

/-!
# The offchain order aggregate

One aggregate for each hedge order. It records the intent, the broker's
acceptance, cumulative partial fills, and one of three endings: filled, failed
or cancelled. An order that ends failed or cancelled keeps the fill it had
until then, so that its position can still be credited with it.

Only the cancel command asks the broker while it is being handled; what the
broker answers is part of the handler's context.
-/

namespace Liquidity

open EventSourcing

/-- Idempotency key sent to the broker with a placement. -/
structure ClientOrderId where
  uuid : Nat
  deriving DecidableEq, Repr

/-- A market order in regular hours, a limit order outside of them. -/
inductive CounterTradeOrderKind where
  | market
  | extendedHoursLimit (limitPrice : Positive)
  deriving DecidableEq

def CounterTradeOrderKind.marketSession : CounterTradeOrderKind → MarketSession
  | .market => .regular
  | .extendedHoursLimit _ => .extended

def marketSessionFromExtended (isExtendedHours : Bool) : MarketSession :=
  if isExtendedHours then .extended else .regular

/-- The fill an order keeps when it stops being live. -/
inductive RetainedFill where
  | priced (sharesFilled : FractionalShares) (avgPrice : Usd) (partiallyFilledAt : Time)
  | unpriced (sharesFilled : FractionalShares)
  deriving DecidableEq

def RetainedFill.sharesFilled : RetainedFill → FractionalShares
  | .priced sharesFilled _ _ => sharesFilled
  | .unpriced sharesFilled => sharesFilled

/-- What every state of an order carries. -/
structure OrderTerms where
  symbol : Symbol
  shares : Positive
  direction : Direction
  executor : SupportedExecutor
  placedAt : Time
  deriving DecidableEq

inductive OffchainOrder where
  | pending (terms : OrderTerms) (marketSession : MarketSession)
  | submitted (terms : OrderTerms) (executorOrderId : ExecutorOrderId) (submittedAt : Time)
      (marketSession : MarketSession)
  | partiallyFilled (terms : OrderTerms) (sharesFilled : FractionalShares)
      (executorOrderId : ExecutorOrderId) (avgPrice : Usd) (submittedAt partiallyFilledAt : Time)
      (marketSession : MarketSession)
  | cancelling (terms : OrderTerms) (retainedFill : Option RetainedFill)
      (executorOrderId : ExecutorOrderId) (reason : CancellationReason)
      (submittedAt cancelRequestedAt : Time) (marketSession : MarketSession)
  | filled (terms : OrderTerms) (executorOrderId : ExecutorOrderId) (price : Usd)
      (submittedAt filledAt : Time)
  | failed (terms : OrderTerms) (retainedFill : Option RetainedFill)
      (executorOrderId : Option ExecutorOrderId) (error : String) (failedAt : Time)
  | cancelled (terms : OrderTerms) (retainedFill : Option RetainedFill)
      (executorOrderId : ExecutorOrderId) (reason : CancellationReason) (cancelledAt : Time)
  deriving DecidableEq

inductive OffchainOrderEvent where
  | placed (terms : OrderTerms) (isExtendedHours : Bool) (limitPrice : Option Positive)
      (clientOrderId : Option ClientOrderId)
  | submitted (executorOrderId : ExecutorOrderId) (submittedAt : Time)
  | accepted (executorOrderId : ExecutorOrderId) (placedShares : Positive) (submittedAt : Time)
      (marketSession : MarketSession) (limitPrice : Option Positive)
  | partiallyFilled (sharesFilled : FractionalShares) (avgPrice : Usd) (partiallyFilledAt : Time)
  | filled (price : Usd) (filledAt : Time)
  | cancelRequested (reason : CancellationReason) (cancelRequestedAt : Time)
  | failed (error : String) (failedAt : Time)
  | cancelled (reason : CancellationReason) (cancelledAt : Time)
  deriving DecidableEq

inductive OffchainOrderCommand where
  | place (symbol : Symbol) (shares : Positive) (direction : Direction)
      (executor : SupportedExecutor) (clientOrderId : ClientOrderId) (kind : CounterTradeOrderKind)
  | cancelOrder (reason : CancellationReason)
  | confirmCancellation (cancelledAt : Time)
  | updatePartialFill (sharesFilled : FractionalShares) (avgPrice : Usd) (partiallyFilledAt : Time)
  | completeFill (price : Usd) (filledAt : Time)
  | markAccepted (executorOrderId : ExecutorOrderId) (placedShares : Positive) (submittedAt : Time)
      (marketSession : MarketSession) (limitPrice : Option Positive)
  | markPlacementFailed (error : String)
  | markFailed (error : String) (failedAt : Time)
  deriving DecidableEq

inductive OffchainOrderError where
  | notPlaced
  | notSubmitted
  | alreadyCompleted
  | cancellationNotRequested
  | placePayloadMismatch
  | cancelFailed (executorOrderId : ExecutorOrderId)
  | preCancelStatusFetchFailed (executorOrderId : ExecutorOrderId)
  | preCancelPartialFillMissingAvgPrice (executorOrderId : ExecutorOrderId)
      (sharesFilled : FractionalShares)
  | invalidTerminalFillQuantity (executorOrderId : ExecutorOrderId) (sharesFilled : FractionalShares)
  deriving DecidableEq

/-- The state of an order as the broker reports it. -/
inductive OrderState where
  | pending
  | submitted (orderId : ExecutorOrderId)
  | partiallyFilled (orderId : ExecutorOrderId) (sharesFilled : FractionalShares)
      (avgPrice : Option Usd) (partiallyFilledAt : Time)
  | filled (executedAt : Time) (orderId : ExecutorOrderId) (price : Usd)
  | cancelled (cancelledAt : Time) (orderId : ExecutorOrderId) (sharesFilled : FractionalShares)
      (avgPrice : Option Usd)
  | failed (failedAt : Time) (errorReason : Option String) (sharesFilled : Option FractionalShares)
      (avgPrice : Option Usd)
  deriving DecidableEq

inductive CancellationOutcome where
  | requested
  | orderNotFound
  deriving DecidableEq, Repr

/-- What the handler of an order command can learn while it runs: the clock, and
the broker's answers to a status query and to a cancel request. -/
structure OrderServices where
  now : Time
  orderStatus : Option OrderState
  cancelOrder : Option CancellationOutcome

namespace OffchainOrder

def terms : OffchainOrder → OrderTerms
  | .pending terms _ | .submitted terms _ _ _ | .partiallyFilled terms _ _ _ _ _ _
  | .cancelling terms _ _ _ _ _ _ | .filled terms _ _ _ _ | .failed terms _ _ _ _
  | .cancelled terms _ _ _ _ => terms

def symbol (order : OffchainOrder) : Symbol := order.terms.symbol
def shares (order : OffchainOrder) : Positive := order.terms.shares
def direction (order : OffchainOrder) : Direction := order.terms.direction
def executor (order : OffchainOrder) : SupportedExecutor := order.terms.executor

/-! ## Events -/

def originate : OffchainOrderEvent → Option OffchainOrder
  | .placed terms isExtendedHours _ _ =>
      some (.pending terms (marketSessionFromExtended isExtendedHours))
  | _ => none

def evolveFilled (entity : OffchainOrder) (price : Usd) (filledAt : Time) : Option OffchainOrder :=
  match entity with
  | .submitted terms executorOrderId submittedAt _
  | .partiallyFilled terms _ executorOrderId _ submittedAt _ _
  | .cancelling terms _ executorOrderId _ submittedAt _ _ =>
      some (.filled terms executorOrderId price submittedAt filledAt)
  | .pending .. | .filled .. | .failed .. | .cancelled .. => none

def evolvePartiallyFilled (entity : OffchainOrder) (sharesFilled : FractionalShares)
    (avgPrice : Usd) (partiallyFilledAt : Time) : Option OffchainOrder :=
  match entity with
  | .submitted terms executorOrderId submittedAt marketSession
  | .partiallyFilled terms _ executorOrderId _ submittedAt _ marketSession =>
      some (.partiallyFilled terms sharesFilled executorOrderId avgPrice submittedAt
        partiallyFilledAt marketSession)
  | .cancelling terms _ executorOrderId reason submittedAt cancelRequestedAt marketSession =>
      some (.cancelling terms (some (.priced sharesFilled avgPrice partiallyFilledAt))
        executorOrderId reason submittedAt cancelRequestedAt marketSession)
  | .pending .. | .filled .. | .failed .. | .cancelled .. => none

def evolveCancelRequested (entity : OffchainOrder) (reason : CancellationReason)
    (cancelRequestedAt : Time) : Option OffchainOrder :=
  match entity with
  | .submitted terms executorOrderId submittedAt marketSession =>
      some (.cancelling terms none executorOrderId reason submittedAt cancelRequestedAt
        marketSession)
  | .partiallyFilled terms sharesFilled executorOrderId avgPrice submittedAt partiallyFilledAt
      marketSession =>
      some (.cancelling terms (some (.priced sharesFilled avgPrice partiallyFilledAt))
        executorOrderId reason submittedAt cancelRequestedAt marketSession)
  | .pending .. | .cancelling .. | .filled .. | .failed .. | .cancelled .. => none

def evolveFailed (entity : OffchainOrder) (error : String) (failedAt : Time) :
    Option OffchainOrder :=
  match entity with
  | .pending terms _ => some (.failed terms none none error failedAt)
  | .submitted terms executorOrderId _ _ =>
      some (.failed terms none (some executorOrderId) error failedAt)
  | .partiallyFilled terms sharesFilled executorOrderId avgPrice _ partiallyFilledAt _ =>
      some (.failed terms (some (.priced sharesFilled avgPrice partiallyFilledAt))
        (some executorOrderId) error failedAt)
  | .cancelling terms retainedFill executorOrderId _ _ _ _ =>
      some (.failed terms retainedFill (some executorOrderId) error failedAt)
  | .filled .. | .failed .. | .cancelled .. => none

def evolveCancelled (entity : OffchainOrder) (reason : CancellationReason) (cancelledAt : Time) :
    Option OffchainOrder :=
  match entity with
  | .submitted terms executorOrderId _ _ =>
      some (.cancelled terms none executorOrderId reason cancelledAt)
  | .partiallyFilled terms sharesFilled executorOrderId avgPrice _ partiallyFilledAt _ =>
      some (.cancelled terms (some (.priced sharesFilled avgPrice partiallyFilledAt))
        executorOrderId reason cancelledAt)
  | .cancelling terms retainedFill executorOrderId requestedReason _ _ _ =>
      some (.cancelled terms retainedFill executorOrderId requestedReason cancelledAt)
  | .pending .. | .filled .. | .failed .. | .cancelled .. => none

/-- The broker accepted the order. The accepted quantity replaces the requested one. -/
def evolveAccepted (entity : OffchainOrder) (executorOrderId : ExecutorOrderId)
    (placedShares : Positive) (submittedAt : Time) (marketSession : MarketSession) :
    Option OffchainOrder :=
  match entity with
  | .pending terms _ =>
      some (.submitted { terms with shares := placedShares } executorOrderId submittedAt
        marketSession)
  | _ => none

def evolve (entity : OffchainOrder) :
    OffchainOrderEvent → Except OffchainOrderError (Option OffchainOrder)
  | .placed .. => .ok none
  | .submitted executorOrderId submittedAt =>
      .ok (match entity with
        | .pending terms marketSession =>
            some (.submitted terms executorOrderId submittedAt marketSession)
        | _ => none)
  | .accepted executorOrderId placedShares submittedAt marketSession _ =>
      .ok (entity.evolveAccepted executorOrderId placedShares submittedAt marketSession)
  | .partiallyFilled sharesFilled avgPrice partiallyFilledAt =>
      .ok (entity.evolvePartiallyFilled sharesFilled avgPrice partiallyFilledAt)
  | .filled price filledAt => .ok (entity.evolveFilled price filledAt)
  | .cancelRequested reason cancelRequestedAt =>
      .ok (entity.evolveCancelRequested reason cancelRequestedAt)
  | .failed error failedAt => .ok (entity.evolveFailed error failedAt)
  | .cancelled reason cancelledAt => .ok (entity.evolveCancelled reason cancelledAt)

/-! ## Commands -/

def placedEvent (symbol : Symbol) (shares : Positive) (direction : Direction)
    (executor : SupportedExecutor) (clientOrderId : ClientOrderId) (kind : CounterTradeOrderKind)
    (placedAt : Time) : OffchainOrderEvent :=
  .placed { symbol, shares, direction, executor, placedAt } (kind.marketSession = .extended)
    (match kind with
      | .extendedHoursLimit limitPrice => some limitPrice
      | .market => none)
    (some clientOrderId)

/-- A retry of a placement records nothing; one with another payload is refused.
The quantity may differ, because the broker's acceptance replaces it. -/
def validatePlaceReplay (existing : OffchainOrder) (symbol : Symbol) (direction : Direction)
    (executor : SupportedExecutor) : Except OffchainOrderError (List OffchainOrderEvent) :=
  if symbol ≠ existing.symbol || direction ≠ existing.direction || executor ≠ existing.executor then
    .error .placePayloadMismatch
  else .ok []

/-- Cumulative fills never regress. -/
def brokerFillExceedsLocal (brokerSharesFilled localSharesFilled : FractionalShares) : Bool :=
  localSharesFilled < brokerSharesFilled

/-- Whether a local fill already covers what the broker reports. -/
def coveredLocally (localFilled : Option FractionalShares) (brokerFilled : FractionalShares) :
    Bool :=
  match localFilled with
  | some localSharesFilled => !brokerFillExceedsLocal brokerFilled localSharesFilled
  | none => false

/-- Record the fill of an order that ended at the broker ahead of its ending. -/
def reconcileTerminalFill (executorOrderId : ExecutorOrderId)
    (localFilled sharesFilled : Option FractionalShares) (avgPrice : Option Usd)
    (brokerTimestamp : Time) (terminalEvent : OffchainOrderEvent) :
    Except OffchainOrderError (List OffchainOrderEvent) :=
  match sharesFilled, avgPrice with
  | some brokerFilled, some avgPrice =>
      if brokerFilled ≤ 0 then
        if brokerFilled = 0 then .ok [terminalEvent]
        else .error (.invalidTerminalFillQuantity executorOrderId brokerFilled)
      else if coveredLocally localFilled brokerFilled then .ok [terminalEvent]
      else .ok [.partiallyFilled brokerFilled avgPrice brokerTimestamp, terminalEvent]
  | some brokerFilled, none =>
      if brokerFilled ≤ 0 then
        if brokerFilled = 0 then .ok [terminalEvent]
        else .error (.invalidTerminalFillQuantity executorOrderId brokerFilled)
      else if coveredLocally localFilled brokerFilled then .ok [terminalEvent]
      else .error (.preCancelPartialFillMissingAvgPrice executorOrderId brokerFilled)
  | none, _ => .ok [terminalEvent]

/-- Bring the order up to date with the broker before a cancel is attempted. -/
def reconcilePreCancel (services : OrderServices) (executorOrderId : ExecutorOrderId)
    (localFilled : Option FractionalShares) (cancellationReason : CancellationReason) :
    Except OffchainOrderError (List OffchainOrderEvent) :=
  match services.orderStatus with
  | none => .error (.preCancelStatusFetchFailed executorOrderId)
  | some (.partiallyFilled _ brokerFilled avgPrice partiallyFilledAt) =>
      if brokerFilled ≤ 0 then
        if brokerFilled = 0 then .ok []
        else .error (.invalidTerminalFillQuantity executorOrderId brokerFilled)
      else if coveredLocally localFilled brokerFilled then .ok []
      else match avgPrice with
        | none => .error (.preCancelPartialFillMissingAvgPrice executorOrderId brokerFilled)
        | some price => .ok [.partiallyFilled brokerFilled price partiallyFilledAt]
  | some (.filled executedAt _ price) => .ok [.filled price executedAt]
  | some (.failed failedAt errorReason sharesFilled avgPrice) =>
      reconcileTerminalFill executorOrderId localFilled sharesFilled avgPrice failedAt
        (.failed (errorReason.getD "Broker reported Failed at cancel time") failedAt)
  | some (.cancelled cancelledAt _ sharesFilled avgPrice) =>
      reconcileTerminalFill executorOrderId localFilled (some sharesFilled) avgPrice cancelledAt
        (.cancelled cancellationReason cancelledAt)
  | some .pending | some (.submitted _) => .ok []

/-- An event after which the broker must not be asked to cancel any more. -/
def isTerminalEvent : OffchainOrderEvent → Bool
  | .filled .. | .failed .. | .cancelled .. => true
  | _ => false

/-- Cancel a live order at the broker, after reconciling its fills. -/
def cancelLiveOrderEvents (services : OrderServices) (executorOrderId : ExecutorOrderId)
    (localFilled : Option FractionalShares) (reason : CancellationReason) :
    Except OffchainOrderError (List OffchainOrderEvent) := do
  let preCancelEvents ← reconcilePreCancel services executorOrderId localFilled reason
  if preCancelEvents.any isTerminalEvent then return preCancelEvents
  match services.cancelOrder with
  | none => throw (.cancelFailed executorOrderId)
  | some .requested => return preCancelEvents ++ [.cancelRequested reason services.now]
  | some .orderNotFound => return preCancelEvents ++ [.cancelled reason services.now]

def cancelOrderEvents (entity : OffchainOrder) (services : OrderServices)
    (reason : CancellationReason) : Except OffchainOrderError (List OffchainOrderEvent) :=
  match entity with
  | .submitted _ executorOrderId _ _ => cancelLiveOrderEvents services executorOrderId none reason
  | .partiallyFilled _ sharesFilled executorOrderId _ _ _ _ =>
      cancelLiveOrderEvents services executorOrderId (some sharesFilled) reason
  | .pending .. => .error .notSubmitted
  | .cancelling .. => .ok []
  | .filled .. | .failed .. | .cancelled .. => .error .alreadyCompleted

def initialise (services : OrderServices) :
    OffchainOrderCommand → Except OffchainOrderError (List OffchainOrderEvent)
  | .place symbol shares direction executor clientOrderId kind =>
      .ok [placedEvent symbol shares direction executor clientOrderId kind services.now]
  | _ => .error .notPlaced

def transition (services : OrderServices) (entity : OffchainOrder) :
    OffchainOrderCommand → Except OffchainOrderError (List OffchainOrderEvent)
  | .place symbol _ direction executor _ _ => entity.validatePlaceReplay symbol direction executor
  | .cancelOrder reason => entity.cancelOrderEvents services reason
  | .confirmCancellation cancelledAt =>
      match entity with
      | .cancelling _ _ _ reason _ _ _ => .ok [.cancelled reason cancelledAt]
      | .pending .. | .submitted .. | .partiallyFilled .. => .error .cancellationNotRequested
      | .filled .. | .failed .. | .cancelled .. => .error .alreadyCompleted
  | .updatePartialFill sharesFilled avgPrice partiallyFilledAt =>
      match entity with
      | .submitted .. => .ok [.partiallyFilled sharesFilled avgPrice partiallyFilledAt]
      | .partiallyFilled _ localFilled _ _ _ _ _ =>
          if brokerFillExceedsLocal sharesFilled localFilled then
            .ok [.partiallyFilled sharesFilled avgPrice partiallyFilledAt]
          else .ok []
      | .cancelling _ retainedFill _ _ _ _ _ =>
          if brokerFillExceedsLocal sharesFilled
              ((retainedFill.map RetainedFill.sharesFilled).getD 0) then
            .ok [.partiallyFilled sharesFilled avgPrice partiallyFilledAt]
          else .ok []
      | .pending .. => .error .notSubmitted
      | .filled .. | .failed .. | .cancelled .. => .error .alreadyCompleted
  | .completeFill price filledAt =>
      match entity with
      | .submitted .. | .partiallyFilled .. | .cancelling .. => .ok [.filled price filledAt]
      | .pending .. => .error .notSubmitted
      | .filled .. | .failed .. | .cancelled .. => .error .alreadyCompleted
  | .markAccepted executorOrderId placedShares submittedAt marketSession limitPrice =>
      match entity with
      | .pending .. =>
          .ok [.accepted executorOrderId placedShares submittedAt marketSession limitPrice]
      | _ => .ok []
  | .markPlacementFailed error =>
      match entity with
      | .pending .. => .ok [.failed error services.now]
      | _ => .ok []
  | .markFailed error failedAt =>
      match entity with
      | .pending .. | .submitted .. | .partiallyFilled .. | .cancelling .. =>
          .ok [.failed error failedAt]
      | .failed .. => .ok []
      | .filled .. | .cancelled .. => .error .alreadyCompleted

/-- The offchain order as an event-sourced aggregate. -/
def aggregate :
    Aggregate OffchainOrder OffchainOrderEvent OffchainOrderCommand OffchainOrderError
      OrderServices where
  originate := originate
  evolve := evolve
  initialise := initialise
  transition := transition

end OffchainOrder

end Liquidity
