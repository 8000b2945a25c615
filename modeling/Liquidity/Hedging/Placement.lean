import Liquidity.Hedging.World

/-!
# Placing hedge orders

A placement records its intent, calls the broker while the order is still
pending, and feeds the outcome back. The hedge job and the inline path of the
trade processor share the placement itself; they differ in how they route the
outcome, and both have a path that picks up the order of an earlier attempt that
still holds the position's claim.

The submission lock that serialises placements inside the bot is left out: every
schedule the lock allows is also a schedule here.
-/

namespace Liquidity.Hedging

open EventSourcing Process

inductive HedgeError where
  | position (error : SendError PositionError)
  | order (error : SendError OffchainOrderError)
  | enqueue (message : String)
  | unexpectedPostPlaceState (offchainOrderId : OffchainOrderId) (state : OffchainOrder)
  | marketSessionCheck (symbol : Symbol) (source : String)
  | limitPriceFetch (symbol : Symbol) (source : String)
  | limitPriceUnavailable (symbol : Symbol)
  | slippage (message : String)
  | notPositive (shares : FractionalShares)
  | preflight (message : String)
  | broker (message : String)
  | database (message : String)
  deriving DecidableEq

abbrev Hedge := Prog Op Op.Ret HedgeError

/-- What the bot is configured with. -/
structure HedgeConfig where
  executor : SupportedExecutor
  executionThreshold : ExecutionThreshold
  isTradingEnabled : Symbol → Bool
  isExtendedHoursEnabled : Symbol → Bool
  operationalLimit : Symbol → Option Positive
  counterTradeSlippageBps : Nat

/-! ## Operations that leave the job on an error -/

def loadPosition (symbol : Symbol) : Hedge (Option Position) := do
  let answer : Except (SendError PositionError) (Option Position) ←
    Prog.perform (Op.loadPosition symbol)
  Prog.liftExcept (answer.mapError .position)

def trySendPosition (symbol : Symbol) (command : PositionCommand) (basis : Basis) :
    Hedge (Except (SendError PositionError) Unit) :=
  Prog.perform (Op.sendPosition symbol command basis)

def sendPosition (symbol : Symbol) (command : PositionCommand) (basis : Basis) : Hedge Unit := do
  Prog.liftExcept ((← trySendPosition symbol command basis).mapError .position)

def loadOrder (id : OffchainOrderId) : Hedge (Option OffchainOrder) := do
  let answer : Except (SendError OffchainOrderError) (Option OffchainOrder) ←
    Prog.perform (Op.loadOrder id)
  Prog.liftExcept (answer.mapError .order)

def loadOrderView (id : OffchainOrderId) : Hedge (Option OffchainOrder) := do
  let answer : Except (SendError OffchainOrderError) (Option OffchainOrder) ←
    Prog.perform (Op.loadOrderView id)
  Prog.liftExcept (answer.mapError .order)

def trySendOrder (id : OffchainOrderId) (command : OffchainOrderCommand) :
    Hedge (Except (SendError OffchainOrderError) Unit) :=
  Prog.perform (Op.sendOrder id command)

def sendOrder (id : OffchainOrderId) (command : OffchainOrderCommand) : Hedge Unit := do
  Prog.liftExcept ((← trySendOrder id command).mapError .order)

def push (job : Job) : Hedge Unit := do
  let answer : Attempt Unit ← Prog.perform (Op.push job)
  Prog.liftExcept (answer.mapError .enqueue)

/-! ## The broker's placement calls -/

/-- How many decimals the broker takes in a quantity. -/
def alpacaMaxDecimalPlaces : Nat := 9

/-- Cut a positive quantity to the given precision; nothing may be left. -/
def truncateToDecimalPlaces (value : Positive) (maxDecimals : Nat) : Option Positive :=
  Positive.new (⌊value.inner * 10 ^ maxDecimals⌋ / 10 ^ maxDecimals)

structure OrderPlacementResult where
  executorOrderId : ExecutorOrderId
  placedShares : Positive
  isExtendedHours : Bool
  limitPrice : Option Positive
  deriving DecidableEq

/-- The broker's price of an adopted order, which has to be positive. -/
def parseLimitPrice : Option Usd → Attempt (Option Positive)
  | none => .ok none
  | some price =>
      match Positive.new price with
      | some positive => .ok (some positive)
      | none => .error "limit price must be positive"

/-- Post a request. A duplicate key is not a failure: the order the broker holds
under it is adopted, with its own quantity and terms. `fallback` completes the
terms an adopted order's response leaves out. -/
def placeOrAdopt (request : OrderRequest) (fallbackExtended : Bool)
    (fallbackPrice : Option Positive) : Hedge (Attempt OrderPlacementResult) := do
  let posted : Except PostOrderError ExecutorOrderId ← Prog.perform (Op.postOrder request)
  match posted with
  | .ok id =>
      return .ok ⟨id, request.quantity, request.extendedHours, request.limitPrice⟩
  | .error .duplicateClientOrderId => do
      let found : Attempt (Option BrokerOrder) ←
        Prog.perform (Op.getOrderByClientOrderId request.clientOrderId)
      match found with
      | .error message => return .error message
      | .ok none => return .error "client_order_id is not unique, but no order was found under it"
      | .ok (some existing) =>
          match parseLimitPrice existing.limitPrice with
          | .error message => return .error message
          | .ok limitPrice =>
              return .ok ⟨existing.id, existing.quantity,
                existing.extendedHours.getD fallbackExtended, limitPrice.or fallbackPrice⟩
  | .error (.api message) => return .error message

def placeMarketOrder (symbol : Symbol) (shares : Positive) (direction : Direction)
    (clientOrderId : ClientOrderId) : Hedge (Attempt OrderPlacementResult) :=
  match truncateToDecimalPlaces shares alpacaMaxDecimalPlaces with
  | none => return .error "Order quantity is below Alpaca's 9-decimal-place precision"
  | some placedShares =>
      placeOrAdopt
        { symbol, quantity := placedShares, side := direction, extendedHours := false
          limitPrice := none, clientOrderId } false none

def placeLimitOrder (symbol : Symbol) (shares : Positive) (direction : Direction)
    (limitPrice : Positive) (extendedHours : Bool) (clientOrderId : ClientOrderId) :
    Hedge (Attempt OrderPlacementResult) :=
  match truncateToDecimalPlaces shares alpacaMaxDecimalPlaces with
  | none => return .error "Order quantity is below Alpaca's 9-decimal-place precision"
  | some placedShares =>
      placeOrAdopt
        { symbol, quantity := placedShares, side := direction, extendedHours
          limitPrice := some limitPrice, clientOrderId } extendedHours (some limitPrice)

/-! ## One placement, end to end -/

structure OffchainOrderPlacement where
  symbol : Symbol
  shares : Positive
  direction : Direction
  executor : SupportedExecutor
  clientOrderId : ClientOrderId
  kind : CounterTradeOrderKind
  deriving DecidableEq

/-- The broker's key for a placement: that of the first failed attempt, if any. -/
def clientOrderIdForPlacement (offchainOrderId : OffchainOrderId)
    (lastFailedOffchainOrderId : Option OffchainOrderId) : ClientOrderId :=
  ⟨(lastFailedOffchainOrderId.getD offchainOrderId).uuid⟩

def placeAtBroker (placement : OffchainOrderPlacement) : Hedge (Attempt OrderPlacementResult) :=
  match placement.kind with
  | .market =>
      placeMarketOrder placement.symbol placement.shares placement.direction
        placement.clientOrderId
  | .extendedHoursLimit limitPrice =>
      placeLimitOrder placement.symbol placement.shares placement.direction limitPrice true
        placement.clientOrderId

/-- Record the intent, place while the order is pending, record the outcome.
Returns the order as it then stands. The clock of the acceptance is the one of
the store that records it. -/
def placeOffchainOrderAtBroker (offchainOrderId : OffchainOrderId)
    (placement : OffchainOrderPlacement) (now : Time) : Hedge (Option OffchainOrder) := do
  sendOrder offchainOrderId (.place placement.symbol placement.shares placement.direction
    placement.executor placement.clientOrderId placement.kind)
  match ← loadOrder offchainOrderId with
  | some (.pending ..) => do
      match ← placeAtBroker placement with
      | .ok result =>
          sendOrder offchainOrderId (.markAccepted result.executorOrderId result.placedShares now
            (marketSessionFromExtended result.isExtendedHours) result.limitPrice)
      | .error error => sendOrder offchainOrderId (.markPlacementFailed error)
      loadOrder offchainOrderId
  | settled => return settled

/-- The anchor of a position, read after it has been claimed. -/
def loadAnchor (symbol : Symbol) : Hedge (Option OffchainOrderId) := do
  return (← loadPosition symbol).bind Position.lastFailedOffchainOrderId

/-- Finalize a cancelled order, or leave the position pending if it cannot be. -/
def finalizeCancelledPositionOrLogUnpriced (symbol : Symbol) (offchainOrderId : OffchainOrderId)
    (cancelled : OffchainOrder) : Hedge Unit :=
  match finalizingCommand cancelled offchainOrderId with
  | some command => sendPosition symbol command .unspecified
  | none => return ()

/-! ## The hedge job -/

section HedgeJob

variable [FloatFormat]

/-- Add the slippage buffer to a price and round it the way that fills. -/
def applySlippage (price : Usd) (direction : Direction) (slippageBps : Nat) :
    Except String Positive := do
  let lift {α : Type} (result : Except FloatError α) : Except String α :=
    result.mapError fun error => s!"float arithmetic failed: {error.message}"
  let adjusted ← match direction with
    | .buy => do
        let multiplier ← lift (do Decimal.div (← Decimal.add 10000 slippageBps) 10000)
        lift (Decimal.mul price multiplier)
    | .sell => do
        let multiplier ← lift (do Decimal.div (← Decimal.sub 10000 slippageBps) 10000)
        lift (Decimal.mul price multiplier)
  if adjusted < 0 then throw "float arithmetic failed: negative fixed decimal"
  let scale : ℚ := if adjusted < 1 then 10 ^ 4 else 10 ^ 2
  let fixed := ⌊adjusted * scale⌋
  let rounded : ℚ :=
    if fixed = adjusted * scale then adjusted
    else match direction with
      | .buy => (fixed + 1) / scale
      | .sell => fixed / scale
  match Positive.new rounded with
  | some limitPrice => return limitPrice
  | none => throw "slippage-adjusted price is non-positive (slippage_bps too large for sell)"

def selectOrderKindForCurrentSession (config : HedgeConfig) (symbol : Symbol)
    (direction : Direction) : Hedge (Option CounterTradeOrderKind) := do
  let session : Attempt MarketSession ← Prog.perform Op.marketSession
  match session with
  | .error source => throw (.marketSessionCheck symbol source)
  | .ok .regular => return some .market
  | .ok .closed => return none
  | .ok .extended =>
      if !config.isExtendedHoursEnabled symbol then return none
      else do
        let latest : Attempt (Option Positive) ← Prog.perform (Op.fetchLatestTradePrice symbol)
        match latest with
        | .error source => throw (.limitPriceFetch symbol source)
        | .ok none => throw (.limitPriceUnavailable symbol)
        | .ok (some price) =>
            match applySlippage price.inner direction config.counterTradeSlippageBps with
            | .error message => throw (.slippage message)
            | .ok limitPrice => return some (.extendedHoursLimit limitPrice)

end HedgeJob

/-- Follow up on a placement. A failed order releases the claim, a live one is
polled; a state that cannot be is surfaced without releasing anything. -/
def routePlacementOutcome (symbol : Symbol) (offchainOrderId : OffchainOrderId)
    (placed : Option OffchainOrder) : Hedge Unit :=
  match placed with
  | some (.failed _ _ _ error _) =>
      sendPosition symbol (.failOffChainOrder offchainOrderId error) .failedOrder
  | some (.submitted ..) | some (.partiallyFilled ..) | some (.cancelling ..) =>
      push (.pollOrderStatus offchainOrderId)
  | none =>
      sendPosition symbol (.failOffChainOrder offchainOrderId "Offchain order missing after Place")
        .noOrder
  | some (.pending terms marketSession) =>
      throw (.unexpectedPostPlaceState offchainOrderId (.pending terms marketSession))
  | some (.filled terms executorOrderId price submittedAt filledAt) =>
      throw (.unexpectedPostPlaceState offchainOrderId
        (.filled terms executorOrderId price submittedAt filledAt))
  | some (.cancelled terms retainedFill executorOrderId reason cancelledAt) =>
      finalizeCancelledPositionOrLogUnpriced symbol offchainOrderId
        (.cancelled terms retainedFill executorOrderId reason cancelledAt)

/-- Place under the key the live position calls for, and route the outcome. -/
def placeUnderAnchor (anchorSymbol : Symbol) (offchainOrderId : OffchainOrderId)
    (symbol : Symbol) (shares : Positive) (direction : Direction) (executor : SupportedExecutor)
    (kind : CounterTradeOrderKind) (now : Time) : Hedge (Option OffchainOrder) := do
  let anchor ← loadAnchor anchorSymbol
  placeOffchainOrderAtBroker offchainOrderId
    { symbol, shares, direction, executor, kind
      clientOrderId := clientOrderIdForPlacement offchainOrderId anchor } now

section Jobs

variable [FloatFormat]

/-- Pick up the order of an earlier attempt that still holds the claim. -/
def recoverPendingPollStatus (config : HedgeConfig) (pendingId : OffchainOrderId) (now : Time) :
    Hedge Unit := do
  match ← loadOrder pendingId with
  | some (.submitted ..) | some (.partiallyFilled ..) | some (.cancelling ..) =>
      push (.pollOrderStatus pendingId)
  | some (.pending terms _) =>
      match ← selectOrderKindForCurrentSession config terms.symbol terms.direction with
      | none => return ()
      | some kind =>
          let placed ← placeUnderAnchor terms.symbol pendingId terms.symbol terms.shares
            terms.direction terms.executor kind now
          routePlacementOutcome terms.symbol pendingId placed
  | some (.failed ..) | some (.cancelled ..) | some (.filled ..) | none => return ()

/-- The hedge job: claim the position, place the order, route the outcome. -/
def placeHedge (config : HedgeConfig) (job : PlaceHedge) (now : Time) : Hedge Unit := do
  match ← selectOrderKindForCurrentSession config job.symbol job.direction with
  | none => recoverPendingPollStatus config job.offchainOrderId now
  | some kind =>
      match ← trySendPosition job.symbol
          (.placeOffChainOrder job.offchainOrderId job.shares job.direction job.executor
            job.threshold) (.scanned job.scannedNet) with
      | .error (.rejected (.pendingExecution pendingId)) =>
          recoverPendingPollStatus config pendingId now
      | .error (.rejected (.thresholdNotMet _ _)) => return ()
      | .error error => throw (.position error)
      | .ok () =>
          let placed ← placeUnderAnchor job.symbol job.offchainOrderId job.symbol job.shares
            job.direction job.executor kind now
          routePlacementOutcome job.symbol job.offchainOrderId placed

end Jobs

/-! ## The inline path of the trade processor -/

inductive PostPlaceOutcome where
  | inFlight (offchainOrderId : OffchainOrderId)
  | failed (offchainOrderId : OffchainOrderId)
  | clearedNoOrder
  deriving DecidableEq, Repr

/-- Route an order to release or to polling, after a placement or when an earlier
order still holds the claim. -/
def dispatchPostPlaceState (loaded : Option OffchainOrder) (symbol : Symbol)
    (offchainOrderId : OffchainOrderId) : Hedge PostPlaceOutcome :=
  match loaded with
  | some (.failed _ _ _ error _) => do
      sendPosition symbol (.failOffChainOrder offchainOrderId error) .failedOrder
      return .failed offchainOrderId
  | some (.submitted ..) | some (.partiallyFilled ..) | some (.cancelling ..) => do
      push (.pollOrderStatus offchainOrderId)
      return .inFlight offchainOrderId
  | none => do
      sendPosition symbol (.failOffChainOrder offchainOrderId "Offchain order missing after Place")
        .noOrder
      return .clearedNoOrder
  | some (.pending terms marketSession) =>
      throw (.unexpectedPostPlaceState offchainOrderId (.pending terms marketSession))
  | some (.filled terms executorOrderId price submittedAt filledAt) =>
      throw (.unexpectedPostPlaceState offchainOrderId
        (.filled terms executorOrderId price submittedAt filledAt))
  | some (.cancelled terms retainedFill executorOrderId reason cancelledAt) => do
      finalizeCancelledPositionOrLogUnpriced symbol offchainOrderId
        (.cancelled terms retainedFill executorOrderId reason cancelledAt)
      return .clearedNoOrder

inductive ExistingPendingOrderOutcome where
  | noPending
  | inFlight
  | cleared
  deriving DecidableEq, Repr

/-- Before a new hedge is considered: what became of the order that is claimed. -/
def reconcileExistingPendingOrder (symbol : Symbol) : Hedge ExistingPendingOrderOutcome := do
  match ← loadPosition symbol with
  | none => return .noPending
  | some position =>
      match position.pendingOffchainOrderId with
      | none => return .noPending
      | some offchainOrderId =>
          let loaded ← loadOrder offchainOrderId
          match ← dispatchPostPlaceState loaded symbol offchainOrderId with
          | .inFlight _ => return .inFlight
          | .failed _ | .clearedNoOrder => return .cleared

/-- Propagate an ended or absent order into the position that claims it. Answers
whether the claim was resolved. -/
def resolveTerminalClaimedOrder (symbol : Symbol) (orderId : OffchainOrderId)
    (order : Option OffchainOrder) : Hedge Bool :=
  match order with
  | none => do
      sendPosition symbol (.failOffChainOrder orderId
        "pending offchain order has no offchain order aggregate") .noOrder
      return true
  | some order =>
      match finalizingCommand order orderId with
      | none => return false
      | some command => do
          sendPosition symbol command .unspecified
          return true

/-- Recover the order that claims the position when a placement finds it claimed. -/
def recoverClaimedOffchainOrder (symbol : Symbol) (now : Time) :
    Hedge (Option OffchainOrderId) := do
  match (← loadPosition symbol).bind Position.pendingOffchainOrderId with
  | none => return none
  | some pendingId =>
      let order ← loadOrder pendingId
      if ← resolveTerminalClaimedOrder symbol pendingId order then return none
      else match order with
        | some (.submitted ..) | some (.partiallyFilled ..) | some (.cancelling ..) => do
            push (.pollOrderStatus pendingId)
            return some pendingId
        | some (.pending terms _) => do
            let placed ← placeUnderAnchor terms.symbol pendingId terms.symbol terms.shares
              terms.direction terms.executor .market now
            match ← dispatchPostPlaceState placed symbol pendingId with
            | .inFlight orderId | .failed orderId => return some orderId
            | .clearedNoOrder => return none
        | some (.filled ..) | some (.failed ..) | some (.cancelled ..) | none => return none

/-- What a position is to be hedged with. -/
structure ExecutionCtx where
  symbol : Symbol
  direction : Direction
  shares : Positive
  executor : SupportedExecutor
  marketSession : MarketSession
  /-- History: the net position this was computed from. -/
  scannedNet : FractionalShares
  deriving DecidableEq

def placeOffchainOrder (config : HedgeConfig) (execution : ExecutionCtx) (now : Time) :
    Hedge (Option OffchainOrderId) := do
  let offchainOrderId : OffchainOrderId ← Prog.perform (Op.newOrderId execution.symbol)
  match ← trySendPosition execution.symbol
      (.placeOffChainOrder offchainOrderId execution.shares execution.direction execution.executor
        config.executionThreshold) (.scanned execution.scannedNet) with
  | .error (.rejected (.pendingExecution _)) | .error (.rejected (.thresholdNotMet _ _)) =>
      recoverClaimedOffchainOrder execution.symbol now
  | .error error => throw (.position error)
  | .ok () => do
      let _ ← placeUnderAnchor execution.symbol offchainOrderId execution.symbol execution.shares
        execution.direction execution.executor .market now
      let loaded ← loadOrder offchainOrderId
      match ← dispatchPostPlaceState loaded execution.symbol offchainOrderId with
      | .inFlight orderId | .failed orderId => return some orderId
      | .clearedNoOrder => return none

/-- One position of the orphan recovery sweep. -/
def recoverSingleOrphanedOrder (symbol : Symbol) (orderId : OffchainOrderId) (now : Time) :
    Hedge Unit := do
  let order ← loadOrder orderId
  if ← resolveTerminalClaimedOrder symbol orderId order then return ()
  else match order with
    | some (.pending terms _) => do
        match ← placeUnderAnchor symbol orderId terms.symbol terms.shares terms.direction
            terms.executor .market now with
        | some (.failed _ _ _ error _) =>
            sendPosition symbol (.failOffChainOrder orderId error) .failedOrder
        | _ => return ()
    | _ => return ()

end Liquidity.Hedging
