import Liquidity.EventSourcing.Aggregate
import Liquidity.Finance
import Mathlib.Data.Finset.Basic

/-!
# The position aggregate

One position for each symbol. It accumulates onchain fills, tracks the net
exposure, and claims at most one offchain order at a time to offset it.

Two memories guard an onchain fill against being applied twice. The slot
`lastAcknowledgedTradeId` holds the fill applied last. The set
`pendingAcknowledgedTradeIds` holds the fills applied but not yet settled; it is
fed by a dedicated event in the batch that moves the position and pruned by
`settleOnChainFill`.
-/

namespace Liquidity

open EventSourcing

/-- Why an offchain order was cancelled. -/
inductive CancellationReason where
  | marketOpenReplacement
  | unrequested
  deriving DecidableEq, Repr

/-- Which threshold an order was placed under, with the values it was compared on. -/
inductive TriggerReason where
  | sharesThreshold (netPositionShares thresholdShares : ℚ)
  | dollarThreshold (netPositionShares dollarValue priceUsdc thresholdDollars : ℚ)
  deriving DecidableEq

structure Position where
  symbol : Symbol
  net : FractionalShares
  accumulatedLong : FractionalShares
  accumulatedShort : FractionalShares
  pendingOffchainOrderId : Option OffchainOrderId
  /-- Idempotency anchor: the first failed placement not yet followed by a fill. -/
  lastFailedOffchainOrderId : Option OffchainOrderId
  lastAcknowledgedTradeId : Option TradeId
  pendingAcknowledgedTradeIds : Finset TradeId
  threshold : ExecutionThreshold
  lastPriceUsdc : Option ℚ
  lastUpdated : Option Time
  deriving DecidableEq

inductive PositionEvent where
  | initialized (symbol : Symbol) (threshold : ExecutionThreshold) (initializedAt : Time)
  | onChainOrderFilled (tradeId : TradeId) (amount : FractionalShares) (direction : Direction)
      (priceUsdc : ℚ) (blockTimestamp seenAt : Time)
  | onChainFillApplied (tradeId : TradeId) (appliedAt : Time)
  | onChainFillSettled (tradeId : TradeId) (settledAt : Time)
  | offChainOrderPlaced (offchainOrderId : OffchainOrderId) (shares : Positive)
      (direction : Direction) (executor : SupportedExecutor) (triggerReason : TriggerReason)
      (placedAt : Time)
  | offChainOrderFilled (offchainOrderId : OffchainOrderId) (sharesFilled : Positive)
      (direction : Direction) (executorOrderId : ExecutorOrderId) (price : Usd)
      (brokerTimestamp : Time)
  | offChainOrderFailed (offchainOrderId : OffchainOrderId) (error : String) (failedAt : Time)
  | offChainOrderCancelled (offchainOrderId : OffchainOrderId) (reason : CancellationReason)
      (cancelledAt : Time)
  | thresholdUpdated (oldThreshold newThreshold : ExecutionThreshold) (updatedAt : Time)
  | manualPositionAdjusted (previousNet targetNet : FractionalShares) (reason : String)
      (priceUsdc : Option ℚ) (adjustedAt : Time)
  deriving DecidableEq

inductive PositionCommand where
  | acknowledgeOnChainFill (symbol : Symbol) (threshold : ExecutionThreshold) (tradeId : TradeId)
      (amount : FractionalShares) (direction : Direction) (priceUsdc : ℚ) (blockTimestamp : Time)
  | settleOnChainFill (tradeId : TradeId)
  | placeOffChainOrder (offchainOrderId : OffchainOrderId) (shares : Positive)
      (direction : Direction) (executor : SupportedExecutor) (threshold : ExecutionThreshold)
  | completeOffChainOrder (offchainOrderId : OffchainOrderId) (sharesFilled : Positive)
      (direction : Direction) (executorOrderId : ExecutorOrderId) (price : Usd)
      (brokerTimestamp : Time)
  | failOffChainOrder (offchainOrderId : OffchainOrderId) (error : String)
  | cancelOffChainOrder (offchainOrderId : OffchainOrderId) (reason : CancellationReason)
      (cancelledAt : Time)
  | updateThreshold (threshold : ExecutionThreshold)
  | manuallyAdjustPosition (symbol : Symbol) (targetNet : FractionalShares) (reason : String)
      (threshold : ExecutionThreshold) (expectedNet : Option FractionalShares)
      (priceUsdc : Option ℚ)
  deriving DecidableEq

inductive PositionError where
  | uninitialized
  | thresholdNotMet (netPosition : FractionalShares) (threshold : ExecutionThreshold)
  | pendingExecution (offchainOrderId : OffchainOrderId)
  | duplicateTrade (tradeId : TradeId)
  | manualAdjustmentBlockedByPendingExecution (offchainOrderId : OffchainOrderId)
  | manualAdjustmentStateChanged (expected actual : FractionalShares)
  | manualAdjustmentRequiresPrice (targetNet : FractionalShares)
  | manualAdjustmentInvalidPrice (price : Usdc)
  | noPendingExecution
  | offchainOrderIdMismatch (expected actual : OffchainOrderId)
  | float (message : String)
  deriving DecidableEq

/-- A float error becomes a position error by its text. -/
def PositionError.ofFloat (error : FloatError) : PositionError := .float error.message

namespace Position

variable [FloatFormat]

def originate : PositionEvent → Option Position
  | .initialized symbol threshold initializedAt =>
      some
        { symbol, net := 0, accumulatedLong := 0, accumulatedShort := 0
          pendingOffchainOrderId := none, lastFailedOffchainOrderId := none
          lastAcknowledgedTradeId := none, pendingAcknowledgedTradeIds := ∅
          threshold, lastPriceUsdc := none, lastUpdated := some initializedAt }
  | _ => none

/-- Arithmetic inside the event side, with its errors lifted. -/
def liftFloat {α : Type} (result : Except FloatError α) : Except PositionError α :=
  result.mapError .ofFloat

/-- A broker fill moves the net position in its own direction. -/
def moveNet (net : FractionalShares) (direction : Direction) (shares : Positive) :
    Except FloatError FractionalShares :=
  match direction with
  | .buy => Decimal.add net shares.inner
  | .sell => Decimal.sub net shares.inner

def evolve (entity : Position) : PositionEvent → Except PositionError (Option Position)
  | .onChainOrderFilled tradeId amount .buy priceUsdc _ seenAt => do
      let net ← liftFloat (Decimal.add entity.net amount)
      let accumulatedLong ← liftFloat (Decimal.add entity.accumulatedLong amount)
      return some
        { entity with
          net, accumulatedLong, lastAcknowledgedTradeId := some tradeId
          lastPriceUsdc := some priceUsdc, lastUpdated := some seenAt }
  | .onChainOrderFilled tradeId amount .sell priceUsdc _ seenAt => do
      let net ← liftFloat (Decimal.sub entity.net amount)
      let accumulatedShort ← liftFloat (Decimal.add entity.accumulatedShort amount)
      return some
        { entity with
          net, accumulatedShort, lastAcknowledgedTradeId := some tradeId
          lastPriceUsdc := some priceUsdc, lastUpdated := some seenAt }
  | .onChainFillApplied tradeId _ =>
      .ok (some
        { entity with
          pendingAcknowledgedTradeIds := insert tradeId entity.pendingAcknowledgedTradeIds })
  | .onChainFillSettled tradeId _ =>
      .ok (some
        { entity with
          pendingAcknowledgedTradeIds := entity.pendingAcknowledgedTradeIds.erase tradeId })
  | .offChainOrderPlaced offchainOrderId _ _ _ _ placedAt =>
      if entity.pendingOffchainOrderId.isSome then .ok none
      else .ok (some
        { entity with
          pendingOffchainOrderId := some offchainOrderId, lastUpdated := some placedAt })
  | .offChainOrderFilled offchainOrderId sharesFilled direction _ _ brokerTimestamp =>
      if entity.pendingOffchainOrderId ≠ some offchainOrderId then .ok none
      else do
        let net ← liftFloat (moveNet entity.net direction sharesFilled)
        return some
          { entity with
            net, pendingOffchainOrderId := none, lastFailedOffchainOrderId := none
            lastUpdated := some brokerTimestamp }
  | .offChainOrderFailed offchainOrderId _ failedAt =>
      if entity.pendingOffchainOrderId ≠ some offchainOrderId then .ok none
      else .ok (some
        { entity with
          pendingOffchainOrderId := none
          -- The first failed anchor of a chain is kept: the broker recorded that key.
          lastFailedOffchainOrderId :=
            entity.lastFailedOffchainOrderId.or (some offchainOrderId)
          lastUpdated := some failedAt })
  | .offChainOrderCancelled offchainOrderId _ cancelledAt =>
      if entity.pendingOffchainOrderId ≠ some offchainOrderId then .ok none
      else .ok (some
        { entity with
          pendingOffchainOrderId := none, lastFailedOffchainOrderId := none
          lastUpdated := some cancelledAt })
  | .thresholdUpdated _ newThreshold updatedAt =>
      .ok (some { entity with threshold := newThreshold, lastUpdated := some updatedAt })
  | .manualPositionAdjusted _ targetNet _ priceUsdc adjustedAt =>
      .ok (some
        { entity with
          net := targetNet, lastPriceUsdc := priceUsdc.or entity.lastPriceUsdc
          lastUpdated := some adjustedAt, lastFailedOffchainOrderId := none })
  | .initialized _ _ _ => .ok none

def acknowledgeOnChainFillInitEvents (symbol : Symbol) (threshold : ExecutionThreshold)
    (tradeId : TradeId) (amount : FractionalShares) (direction : Direction) (priceUsdc : ℚ)
    (blockTimestamp seenAt : Time) : List PositionEvent :=
  [.initialized symbol threshold seenAt,
    .onChainOrderFilled tradeId amount direction priceUsdc blockTimestamp seenAt,
    .onChainFillApplied tradeId seenAt]

/-- Whether one of the two memories knows the fill. -/
def knowsFill (entity : Position) (tradeId : TradeId) : Bool :=
  entity.lastAcknowledgedTradeId = some tradeId || tradeId ∈ entity.pendingAcknowledgedTradeIds

def acknowledgeOnChainFillTransitionEvents (entity : Position) (tradeId : TradeId)
    (amount : FractionalShares) (direction : Direction) (priceUsdc : ℚ)
    (blockTimestamp seenAt : Time) : Except PositionError (List PositionEvent) :=
  if entity.knowsFill tradeId then .error (.duplicateTrade tradeId)
  else .ok
    [.onChainOrderFilled tradeId amount direction priceUsdc blockTimestamp seenAt,
      .onChainFillApplied tradeId seenAt]

def createTriggerReason (entity : Position) (threshold : ExecutionThreshold) :
    Except PositionError (Option TriggerReason) :=
  match threshold with
  | .shares thresholdShares => do
      let netAbs ← liftFloat (Decimal.abs entity.net)
      return if netAbs ≥ thresholdShares.inner then
        some (.sharesThreshold netAbs thresholdShares.inner) else none
  | .dollarValue thresholdDollars =>
      match entity.lastPriceUsdc with
      | none => return none
      | some price => do
          let netAbs ← liftFloat (Decimal.abs entity.net)
          let dollarValue ← liftFloat (Decimal.mul price netAbs)
          return if dollarValue ≥ thresholdDollars then
            some (.dollarThreshold entity.net dollarValue price thresholdDollars) else none

def placeOffchainOrderEvents (entity : Position) (offchainOrderId : OffchainOrderId)
    (shares : Positive) (direction : Direction) (executor : SupportedExecutor)
    (placedAt : Time) : Except PositionError (List PositionEvent) :=
  match entity.pendingOffchainOrderId with
  | some pending => .error (.pendingExecution pending)
  | none => do
      match ← entity.createTriggerReason entity.threshold with
      | none => throw (.thresholdNotMet entity.net entity.threshold)
      | some triggerReason =>
          return [.offChainOrderPlaced offchainOrderId shares direction executor triggerReason
            placedAt]

def validatePendingExecution (entity : Position) (offchainOrderId : OffchainOrderId) :
    Except PositionError Unit :=
  match entity.pendingOffchainOrderId with
  | none => .error .noPendingExecution
  | some pendingId =>
      if pendingId ≠ offchainOrderId then
        .error (.offchainOrderIdMismatch pendingId offchainOrderId)
      else .ok ()

def validateManualAdjustment (expectedNet : Option FractionalShares)
    (currentNet targetNet : FractionalShares) (threshold : ExecutionThreshold)
    (existingPrice providedPrice : Option ℚ) : Except PositionError Unit := do
  if let some expected := expectedNet then
    if expected ≠ currentNet then
      throw (.manualAdjustmentStateChanged expected currentNet)
  if let some price := providedPrice.or existingPrice then
    if ¬ price > 0 then
      throw (.manualAdjustmentInvalidPrice price)
  let needsPrice := match threshold with
    | .dollarValue _ => targetNet ≠ 0 && existingPrice.isNone && providedPrice.isNone
    | .shares _ => false
  if needsPrice then
    throw (.manualAdjustmentRequiresPrice targetNet)

/-- Handle a command when the position does not exist yet. -/
def initialise (now : Time) : PositionCommand → Except PositionError (List PositionEvent)
  | .acknowledgeOnChainFill symbol threshold tradeId amount direction priceUsdc blockTimestamp =>
      .ok (acknowledgeOnChainFillInitEvents symbol threshold tradeId amount direction priceUsdc
        blockTimestamp now)
  -- Pruning a fill the position never applied must not create the position.
  | .settleOnChainFill _ => .ok []
  | .manuallyAdjustPosition symbol targetNet reason threshold expectedNet priceUsdc => do
      validateManualAdjustment expectedNet 0 targetNet threshold none priceUsdc
      return [.initialized symbol threshold now,
        .manualPositionAdjusted 0 targetNet reason priceUsdc now]
  | _ => .error .uninitialized

def transition (now : Time) (entity : Position) :
    PositionCommand → Except PositionError (List PositionEvent)
  | .acknowledgeOnChainFill _ _ tradeId amount direction priceUsdc blockTimestamp =>
      entity.acknowledgeOnChainFillTransitionEvents tradeId amount direction priceUsdc
        blockTimestamp now
  | .settleOnChainFill tradeId =>
      if tradeId ∈ entity.pendingAcknowledgedTradeIds then
        .ok [.onChainFillSettled tradeId now]
      else .ok []
  | .placeOffChainOrder offchainOrderId shares direction executor _ =>
      entity.placeOffchainOrderEvents offchainOrderId shares direction executor now
  | .completeOffChainOrder offchainOrderId sharesFilled direction executorOrderId price
      brokerTimestamp => do
      entity.validatePendingExecution offchainOrderId
      return [.offChainOrderFilled offchainOrderId sharesFilled direction executorOrderId price
        brokerTimestamp]
  | .failOffChainOrder offchainOrderId error => do
      entity.validatePendingExecution offchainOrderId
      return [.offChainOrderFailed offchainOrderId error now]
  | .cancelOffChainOrder offchainOrderId reason cancelledAt => do
      entity.validatePendingExecution offchainOrderId
      return [.offChainOrderCancelled offchainOrderId reason cancelledAt]
  | .updateThreshold threshold => .ok [.thresholdUpdated entity.threshold threshold now]
  | .manuallyAdjustPosition _ targetNet reason _ expectedNet priceUsdc =>
      match entity.pendingOffchainOrderId with
      | some pending => .error (.manualAdjustmentBlockedByPendingExecution pending)
      | none => do
          validateManualAdjustment expectedNet entity.net targetNet entity.threshold
            entity.lastPriceUsdc priceUsdc
          return [.manualPositionAdjusted entity.net targetNet reason priceUsdc now]

/-- Whether the exposure is due for hedging, and by which order: sell a long
position, buy back a short one, in full or up to the operational limit. -/
def isReadyForExecution (entity : Position) (sharesLimit : Option Positive) :
    Except PositionError (Option (Direction × FractionalShares)) :=
  if entity.pendingOffchainOrderId.isSome then return none
  else do
    match ← entity.createTriggerReason entity.threshold with
    | none => return none
    | some _ =>
        let rawShares ← liftFloat (Decimal.abs entity.net)
        let cappedShares := match sharesLimit with
          | none => rawShares
          | some cap => if rawShares > cap.inner then cap.inner else rawShares
        if cappedShares = 0 then return none
        else
          let direction := if entity.net < 0 then Direction.buy else Direction.sell
          return some (direction, cappedShares)

/-- The position as an event-sourced aggregate. -/
def aggregate : Aggregate Position PositionEvent PositionCommand PositionError Time where
  originate := originate
  evolve := evolve
  initialise := initialise
  transition := transition

end Position

end Liquidity
