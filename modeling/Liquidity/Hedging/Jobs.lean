import Liquidity.Hedging.Placement

/-!
# Following an order to its end

The poll job asks the broker about one order and hands what it learns to the
jobs that finish it. A full fill is reconciled, a rejection is recorded, a
cancellation is confirmed. The position check finalizes whatever ended without
its position noticing, asks for the cancellation of orders that outlived their
session, recovers orphans and scans for new exposure.

Each of these may finish the same claim, and none of them writes order and
position together.
-/

namespace Liquidity.Hedging

open EventSourcing Process

/-! ## Jobs that finish an order -/

/-- The second half of a job that finishes an order: a retry finds the claim gone
and stops. -/
def sendIfClaimed (symbol : Symbol) (offchainOrderId : OffchainOrderId)
    (command : PositionCommand) (basis : Basis) : Hedge Unit := do
  let position ← loadPosition symbol
  if position.bind Position.pendingOffchainOrderId ≠ some offchainOrderId then return ()
  else sendPosition symbol command basis

/-- The fill as the job first saw the order, to be credited to the position. -/
def reconciledFill (job : ReconcileOrderFill) (order : OffchainOrder) : PositionCommand :=
  .completeOffChainOrder job.offchainOrderId order.shares order.direction job.executorOrderId
    job.price job.brokerTimestamp

def reconcileOrderFill (job : ReconcileOrderFill) : Hedge Unit := do
  match ← loadOrder job.offchainOrderId with
  | none => return ()
  | some order =>
      match order with
      | .filled .. =>
          sendIfClaimed order.symbol job.offchainOrderId (reconciledFill job order) .unspecified
      | .submitted .. | .partiallyFilled .. | .cancelling .. => do
          sendOrder job.offchainOrderId (.completeFill job.price job.brokerTimestamp)
          sendIfClaimed order.symbol job.offchainOrderId (reconciledFill job order) .unspecified
      | .pending .. | .failed .. | .cancelled .. => return ()

def positionCommandForRetainedFill (offchainOrderId : OffchainOrderId)
    (sharesFilled : FractionalShares) (direction : Direction) (executorOrderId : ExecutorOrderId)
    (avgPrice : Usd) (brokerTimestamp : Time) (fallbackError : String) : PositionCommand :=
  match Positive.new sharesFilled with
  | none => .failOffChainOrder offchainOrderId fallbackError
  | some positiveFilled =>
      .completeOffChainOrder offchainOrderId positiveFilled direction executorOrderId avgPrice
        brokerTimestamp

/-- The position command of a rejection, from the order as the job first saw it. -/
def rejectionCommand (offchainOrderId : OffchainOrderId) (error : String) :
    OffchainOrder → PositionCommand
  | .partiallyFilled terms sharesFilled executorOrderId avgPrice _ partiallyFilledAt _ =>
      positionCommandForRetainedFill offchainOrderId sharesFilled terms.direction executorOrderId
        avgPrice partiallyFilledAt error
  | .cancelling terms (some (.priced sharesFilled avgPrice partiallyFilledAt)) executorOrderId
      _ _ _ _ =>
      positionCommandForRetainedFill offchainOrderId sharesFilled terms.direction executorOrderId
        avgPrice partiallyFilledAt error
  | .failed terms (some (.priced sharesFilled avgPrice partiallyFilledAt)) (some executorOrderId)
      _ _ =>
      positionCommandForRetainedFill offchainOrderId sharesFilled terms.direction executorOrderId
        avgPrice partiallyFilledAt error
  | .cancelled terms retainedFill executorOrderId reason cancelledAt =>
      match terminalPositionFinalization
          (.cancelled terms retainedFill executorOrderId reason cancelledAt) with
      | some (.complete sharesFilled direction executorOrderId price brokerTimestamp) =>
          .completeOffChainOrder offchainOrderId sharesFilled direction executorOrderId price
            brokerTimestamp
      | some (.noFill (.cancelled reason cancelledAt)) =>
          .cancelOffChainOrder offchainOrderId reason cancelledAt
      | some (.noFill (.failed _)) | some (.unpricedFill _) | none =>
          .failOffChainOrder offchainOrderId error
  | .pending .. | .submitted .. | .cancelling .. | .failed .. | .filled .. =>
      .failOffChainOrder offchainOrderId error

def handleOrderRejection (job : HandleOrderRejection) (now : Time) : Hedge Unit := do
  match ← loadOrder job.offchainOrderId with
  | none => return ()
  | some order =>
      match order with
      | .failed .. | .cancelled .. =>
          sendIfClaimed order.symbol job.offchainOrderId
            (rejectionCommand job.offchainOrderId job.error order) (.rejected order)
      | .pending .. | .submitted .. | .partiallyFilled .. | .cancelling .. => do
          sendOrder job.offchainOrderId (.markFailed job.error (job.brokerFailedAt.getD now))
          sendIfClaimed order.symbol job.offchainOrderId
            (rejectionCommand job.offchainOrderId job.error order) (.rejected order)
      | .filled .. => return ()

/-! ## Polling -/

/-- Finalize the position of an order that has ended, as the view shows it. -/
def finalizePositionForTerminalOrder (offchainOrderId : OffchainOrderId) (symbol : Symbol) :
    Hedge Unit := do
  match ← loadOrderView offchainOrderId with
  | none => return ()
  | some order =>
      match finalizingCommand order offchainOrderId with
      | none => return ()
      | some command => sendIfClaimed symbol offchainOrderId command .unspecified

/-- The fill a live order has recorded, as the view shows it. -/
def localFilled : Option OffchainOrder → Option FractionalShares
  | some (.partiallyFilled _ sharesFilled _ _ _ _ _) => some sharesFilled
  | some (.cancelling _ retainedFill _ _ _ _ _) => retainedFill.map RetainedFill.sharesFilled
  | _ => none

def recordPartialFill (offchainOrderId : OffchainOrderId) (brokerSharesFilled : FractionalShares)
    (avgPrice : Option Usd) (partiallyFilledAt : Time) : Hedge Unit :=
  if brokerSharesFilled = 0 then return ()
  else match avgPrice with
    | none => return ()
    | some price => do
        let order ← loadOrderView offchainOrderId
        if OffchainOrder.coveredLocally (localFilled order) brokerSharesFilled then return ()
        else sendOrder offchainOrderId (.updatePartialFill brokerSharesFilled price partiallyFilledAt)

def enqueueRejection (offchainOrderId : OffchainOrderId) (errorReason : Option String)
    (brokerFailedAt : Option Time) : Hedge Unit :=
  push (.handleOrderRejection
    { offchainOrderId, brokerFailedAt
      error := errorReason.getD "Order failed with no error reason" })

/-- The broker cancelled an order nobody here asked to cancel. -/
def recoverUnrequestedCancellation (offchainOrderId : OffchainOrderId) (symbol : Symbol)
    (cancelledAt : Time) : Hedge Unit := do
  sendOrder offchainOrderId (.cancelOrder .unrequested)
  match ← loadOrder offchainOrderId with
  | none => return ()
  | some (.cancelling ..) => do
      sendOrder offchainOrderId (.confirmCancellation cancelledAt)
      finalizePositionForTerminalOrder offchainOrderId symbol
  | some _ => finalizePositionForTerminalOrder offchainOrderId symbol

def confirmCancellation (offchainOrderId : OffchainOrderId) (symbol : Symbol)
    (cancelledAt : Time) : Hedge Unit := do
  match ← loadOrderView offchainOrderId with
  | none => return ()
  | some (.cancelling ..) => do
      sendOrder offchainOrderId (.confirmCancellation cancelledAt)
      finalizePositionForTerminalOrder offchainOrderId symbol
  | some (.submitted ..) | some (.partiallyFilled ..) =>
      recoverUnrequestedCancellation offchainOrderId symbol cancelledAt
  | some (.pending ..) | some (.filled ..) | some (.failed ..) | some (.cancelled ..) =>
      enqueueRejection offchainOrderId
        (some "Broker reported Cancelled before local cancellation request") none

def dispatchForBrokerState (offchainOrderId : OffchainOrderId) (symbol : Symbol) :
    OrderState → Hedge Unit
  | .filled executedAt orderId price =>
      push (.reconcileOrderFill
        { offchainOrderId, price, executorOrderId := orderId, brokerTimestamp := executedAt })
  | .failed failedAt errorReason (some sharesFilled) (some avgPrice) => do
      recordPartialFill offchainOrderId sharesFilled (some avgPrice) failedAt
      enqueueRejection offchainOrderId errorReason (some failedAt)
  | .failed failedAt errorReason sharesFilled none =>
      -- A positive fill that was never priced: fail closed and stop polling.
      if ((sharesFilled.bind Positive.new).isSome) then return ()
      else enqueueRejection offchainOrderId errorReason (some failedAt)
  | .failed failedAt errorReason none (some _) =>
      enqueueRejection offchainOrderId errorReason (some failedAt)
  | .cancelled cancelledAt _ sharesFilled avgPrice =>
      if (Positive.new sharesFilled).isSome then
        match avgPrice with
        | some avgPrice => do
            recordPartialFill offchainOrderId sharesFilled (some avgPrice) cancelledAt
            confirmCancellation offchainOrderId symbol cancelledAt
        | none => return ()
      else confirmCancellation offchainOrderId symbol cancelledAt
  | .partiallyFilled _ sharesFilled avgPrice partiallyFilledAt => do
      recordPartialFill offchainOrderId sharesFilled avgPrice partiallyFilledAt
      push (.pollOrderStatus offchainOrderId)
  | .pending | .submitted _ => push (.pollOrderStatus offchainOrderId)

def pollOrderStatus (config : HedgeConfig) (offchainOrderId : OffchainOrderId) : Hedge Unit := do
  match ← loadOrderView offchainOrderId with
  | none => return ()
  | some order =>
      if order.executor ≠ config.executor then return ()
      else match order with
        | .filled .. | .failed .. => return ()
        | .cancelled .. => finalizePositionForTerminalOrder offchainOrderId order.symbol
        | .pending .. => push (.pollOrderStatus offchainOrderId)
        | .submitted _ executorOrderId _ _ | .partiallyFilled _ _ executorOrderId _ _ _ _
        | .cancelling _ _ executorOrderId _ _ _ _ => do
            let status : Attempt OrderState ← Prog.perform (Op.getOrderStatus executorOrderId)
            match status with
            | .error message => throw (.broker message)
            | .ok state => dispatchForBrokerState offchainOrderId order.symbol state

/-! ## The position check, one symbol at a time -/

def loadPositionView (symbol : Symbol) : Hedge (Except (SendError PositionError) (Option Position)) :=
  Prog.perform (Op.loadPositionView symbol)

/-- The order a position claims, as the view shows it. An unreadable view is skipped. -/
def viewedClaim (symbol : Symbol) : Hedge (Option OffchainOrderId) := do
  match ← loadPositionView symbol with
  | .ok position => return position.bind Position.pendingOffchainOrderId
  | .error _ => return none

def tryLoadOrder (id : OffchainOrderId) :
    Hedge (Except (SendError OffchainOrderError) (Option OffchainOrder)) :=
  Prog.perform (Op.loadOrder id)

def finalizeTerminalPendingPosition (symbol : Symbol) : Hedge Unit := do
  match ← viewedClaim symbol with
  | none => return ()
  | some offchainOrderId =>
      match ← tryLoadOrder offchainOrderId with
      | .ok (some order) =>
          match finalizingCommand order offchainOrderId with
          | none => return ()
          | some command => do
              -- A refusal is logged: another writer was faster, or the next tick retries.
              let _ ← trySendPosition symbol command .unspecified
              return ()
      | .ok none | .error _ => return ()

def requestExtendedHoursCancellation (config : HedgeConfig) (symbol : Symbol) : Hedge Unit := do
  let session : Attempt MarketSession ← Prog.perform Op.marketSession
  if session ≠ .ok .regular then return ()
  else if !config.isExtendedHoursEnabled symbol then return ()
  else match ← viewedClaim symbol with
    | none => return ()
    | some offchainOrderId =>
        match ← tryLoadOrder offchainOrderId with
        | .ok (some (.submitted terms _ _ .extended)) => do
            if terms.executor = config.executor then
              let _ ← trySendOrder offchainOrderId (.cancelOrder .marketOpenReplacement)
            return ()
        | .ok (some (.partiallyFilled terms _ _ _ _ _ .extended)) => do
            if terms.executor = config.executor then
              let _ ← trySendOrder offchainOrderId (.cancelOrder .marketOpenReplacement)
            return ()
        | .ok _ | .error _ => return ()

def recoverOrphanedPendingOffchainOrder (symbol : Symbol) (now : Time) : Hedge Unit := do
  match ← viewedClaim symbol with
  | none => return ()
  | some orderId => recoverSingleOrphanedOrder symbol orderId now

section Scan

variable [FloatFormat]

/-- Which session a hedge may be placed in. -/
def checkMarketSession (extendedHoursEnabled : Bool) : MarketSession → Option MarketSession
  | .regular => some .regular
  | .extended => if extendedHoursEnabled then some .extended else none
  | .closed => none

def checkExecutionReadiness (config : HedgeConfig) (symbol : Symbol) (assetEnabled : Bool) :
    Hedge (Except HedgeError (Option ExecutionCtx)) := do
  if !assetEnabled then return .ok none
  else match ← loadPositionView symbol with
    | .error error => return .error (.position error)
    | .ok none => return .ok none
    | .ok (some position) =>
        match position.isReadyForExecution (config.operationalLimit symbol) with
        | .error error => return .error (.position (.rejected error))
        | .ok none => return .ok none
        | .ok (some (direction, shares)) => do
            let session : Attempt MarketSession ← Prog.perform Op.marketSession
            match session with
            | .error source => return .error (.marketSessionCheck symbol source)
            | .ok session =>
                match checkMarketSession (config.isExtendedHoursEnabled symbol) session with
                | none => return .ok none
                | some marketSession =>
                    match Positive.new shares with
                    | none => return .error (.notPositive shares)
                    | some shares =>
                        return .ok (some
                          { symbol, direction, shares, executor := config.executor, marketSession
                            scannedNet := position.net })

/-- Sell what is available instead of skipping. -/
def clampSharesToReservation (execution : ExecutionCtx) (equityRequired : Option Positive) :
    ExecutionCtx :=
  match equityRequired with
  | some required =>
      if required.inner < execution.shares.inner then { execution with shares := required }
      else execution
  | none => execution

def preflight (execution : ExecutionCtx) : Hedge (Attempt CounterTradePreflight) :=
  Prog.perform
    (Op.preflightCounterTrade execution.symbol execution.shares execution.direction)

/-- Draw an identifier and enqueue the hedge. A failed push is only logged. -/
def enqueueHedge (config : HedgeConfig) (execution : ExecutionCtx) : Hedge Unit := do
  let offchainOrderId : OffchainOrderId ← Prog.perform (Op.newOrderId execution.symbol)
  let _ : Attempt Unit ← Prog.perform (Op.push (.placeHedge
    { symbol := execution.symbol, direction := execution.direction, shares := execution.shares
      executor := execution.executor, threshold := config.executionThreshold, offchainOrderId
      marketSession := execution.marketSession, scannedNet := execution.scannedNet }))
  return ()

def checkAndEnqueueSymbol (config : HedgeConfig) (symbol : Symbol) : Hedge Unit := do
  match ← checkExecutionReadiness config symbol true with
  | .ok (some ready) =>
      match ← preflight ready with
      | .ok (.allowed equityRequired) =>
          enqueueHedge config (clampSharesToReservation ready equityRequired)
      | .ok .skipped | .error _ => return ()
  | .ok none | .error _ => return ()

def scanAndEnqueue (config : HedgeConfig) (symbol : Symbol) : Hedge Unit := do
  let active : Attempt Bool ← Prog.perform (Op.transferActive symbol)
  match active with
  | .error message => throw (.database message)
  | .ok active =>
      if !config.isTradingEnabled symbol || active then return ()
      else checkAndEnqueueSymbol config symbol

/-- What the trade processor does after it has settled a fill of the symbol. -/
def hedgeAfterFill (config : HedgeConfig) (symbol : Symbol) (assetEnabled : Bool) (now : Time) :
    Hedge Unit := do
  match ← reconcileExistingPendingOrder symbol with
  | .inFlight => return ()
  | .noPending | .cleared =>
      match ← Prog.liftExcept =<< checkExecutionReadiness config symbol assetEnabled with
      | none => return ()
      | some execution =>
          match ← preflight execution with
          | .error message => throw (.preflight message)
          | .ok .skipped => return ()
          | .ok (.allowed equityRequired) =>
              let execution := clampSharesToReservation execution equityRequired
              if execution.marketSession = .extended then enqueueHedge config execution
              else
                let _ ← placeOffchainOrder config execution now
                return ()

end Scan

/-! ## The system -/

/-- What can be running. Jobs come from the queue, the rest runs periodically or
after a fill. -/
inductive Task where
  | job (job : Job) (now : Time)
  | finalizeTerminal (symbol : Symbol)
  | requestCancellation (symbol : Symbol)
  | recoverOrphan (symbol : Symbol) (now : Time)
  | scan (symbol : Symbol)
  | afterFill (symbol : Symbol) (assetEnabled : Bool) (now : Time)
  deriving DecidableEq

/-- A position command that concerns no hedge order: fills from the chain,
thresholds, manual adjustments. -/
structure OtherCommand where
  symbol : Symbol
  command : PositionCommand
  now : Time
  notHedge : (match command with
    | .placeOffChainOrder .. => false
    | other => other.finalizes.isNone) = true

section System

variable [FloatFormat]

def Task.program (config : HedgeConfig) : Task → Hedge Unit
  | .job (.placeHedge request) now => placeHedge config request now
  | .job (.pollOrderStatus id) _ => pollOrderStatus config id
  | .job (.reconcileOrderFill request) _ => reconcileOrderFill request
  | .job (.handleOrderRejection request) now => handleOrderRejection request now
  | .finalizeTerminal symbol => finalizeTerminalPendingPosition symbol
  | .requestCancellation symbol => requestExtendedHoursCancellation config symbol
  | .recoverOrphan symbol now => recoverOrphanedPendingOffchainOrder symbol now
  | .scan symbol => scanAndEnqueue config symbol
  | .afterFill symbol assetEnabled now => hedgeAfterFill config symbol assetEnabled now

/-- Any number of tasks side by side. A job runs only if it was pushed, and then
any number of times. -/
def system (config : HedgeConfig) :
    System Op Op.Ret HedgeError Unit World Choice Task OtherCommand where
  program := Task.program config
  handle := handle
  environment other world :=
    match Position.aggregate.send other.now other.command (world.positions other.symbol) with
    | .ok events => some { world with positions := world.positions.append other.symbol events }
    | .error _ => some world
  canStart task world :=
    match task with
    | .job queued _ => queued ∈ world.jobs
    | _ => true
  exclusive _ _ := false

end System

/-! ## Runs to look at -/

/-- A bot that hedges from one share on, in regular hours. -/
def sampleConfig : HedgeConfig where
  executor := .alpacaBrokerApi
  executionThreshold := .shares ⟨1, Positive.one_pos⟩
  isTradingEnabled _ := true
  isExtendedHoursEnabled _ := false
  operationalLimit _ := none
  counterTradeSlippageBps := 0

/-- Everything is reachable and nothing out of the ordinary happens. -/
def ordinary : Choice := { available := true }

/-- The chain fills an order of ours. -/
def filledOnchain (txHash : TxHash) (amount : FractionalShares) (direction : Direction) :
    Act Choice Task OtherCommand :=
  .env ⟨"AAPL", .acknowledgeOnChainFill "AAPL" (.shares ⟨1, Positive.one_pos⟩) ⟨txHash, 0⟩ amount
    direction 100 0, 0, rfl⟩

/-- A task runs on its own, answered in turn by the given choices, and is removed. -/
def undisturbed (task : Task) (choices : List Choice) : List (Act Choice Task OtherCommand) :=
  .start task :: choices.map (.step 0) ++ [.crash 0]

/-- A scan finds the position ready and enqueues a hedge under the given identifier. -/
def scanned (id : Nat) : List (Act Choice Task OtherCommand) :=
  undisturbed (.scan "AAPL") (List.replicate 4 ordinary ++ [{ uuid := id }, ordinary])

/-- The hedge that a scan at this net position enqueues. -/
def sampleHedge (id : Nat) (direction : Direction) (shares : Positive) (net : FractionalShares) :
    Task :=
  .job (.placeHedge
    { symbol := "AAPL", direction, shares, executor := .alpacaBrokerApi
      threshold := .shares ⟨1, Positive.one_pos⟩, offchainOrderId := ⟨id⟩, marketSession := .regular
      scannedNet := net }) 0

/-- How a hedge is answered whose order the broker receives as it may. -/
def placement (uuid : Nat) (post : PostOutcome) : List Choice :=
  List.replicate 5 ordinary ++ [{ uuid := uuid, post := post }] ++ List.replicate 3 ordinary

end Liquidity.Hedging
