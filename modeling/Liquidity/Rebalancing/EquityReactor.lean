import Liquidity.EquityRedemption.Aggregate
import Liquidity.Inventory.InflightPolls
import Liquidity.Rebalancing.EquityGuard
import Liquidity.TokenizedEquityMint.Aggregate

/-!
# The equity arms of the rebalancing reactor

The reactor follows every mint and every redemption through its events. It keeps
what each of them is moving and how far it has come, moves the shares in the
inventory view as they leave one venue and arrive at the other, and frees the
symbol when the transfer has ended.

An event of a transfer that was given up on by the timeout sweep is ignored, and
so is one of a transfer the reactor does not follow.
-/

namespace Liquidity

inductive MintTrackingStage where
  | requested
  | accepted
  | tokensReceived
  | wrapSubmitted
  | tokensWrapped
  | vaultDepositSubmitted
  deriving DecidableEq, Repr

structure MintTracking where
  symbol : Symbol
  quantity : FractionalShares
  tokenizationRequestId : Option TokenizationRequestId
  stage : MintTrackingStage
  lastProgressAt : Time
  deriving DecidableEq

namespace MintTracking

def fromRequestedEvent : TokenizedEquityMintEvent → Option MintTracking
  | .mintRequested symbol quantity _ requestedAt =>
      some ⟨symbol, quantity, none, .requested, requestedAt⟩
  | _ => none

def trackProgress (tracking : MintTracking) : TokenizedEquityMintEvent → MintTracking
  | .mintAccepted _ tokenizationRequestId acceptedAt =>
      { tracking with
        tokenizationRequestId := some tokenizationRequestId
        stage := .accepted
        lastProgressAt := acceptedAt }
  | .tokensReceived _ _ receivedAt =>
      { tracking with stage := .tokensReceived, lastProgressAt := receivedAt }
  | .providerCompletionRecovered _ _ tokenizationRequestId _ _ recoveredAt =>
      { tracking with
        tokenizationRequestId := some tokenizationRequestId
        stage := .tokensReceived
        lastProgressAt := recoveredAt }
  | .wrapSubmitted _ submittedAt =>
      { tracking with stage := .wrapSubmitted, lastProgressAt := submittedAt }
  | .tokensWrapped _ _ wrappedAt _ =>
      { tracking with stage := .tokensWrapped, lastProgressAt := wrappedAt }
  | .vaultDepositSubmitted _ submittedAt =>
      { tracking with stage := .vaultDepositSubmitted, lastProgressAt := submittedAt }
  | _ => tracking

end MintTracking

inductive RedemptionTrackingStage where
  | vaultWithdrawPending
  | vaultWithdrawSubmitted
  | withdrawnFromRaindex
  | unwrapPending
  | unwrapSubmitted
  | tokensUnwrapped
  | sendPending
  | tokensSent
  | detected
  deriving DecidableEq, Repr

structure RedemptionTracking where
  symbol : Symbol
  quantity : FractionalShares
  tokenizationRequestId : Option TokenizationRequestId
  redemptionTx : Option TxHash
  stage : RedemptionTrackingStage
  lastProgressAt : Time
  deriving DecidableEq

inductive EquityReactorError where
  | inventory (error : InventoryError)
  | conversion (error : FloatError)
  deriving DecidableEq

/-- What an event does to the inventory of its symbol. -/
abbrev EquityInventoryUpdate := Inventory → Except InventoryError Inventory

section Updates

variable [FloatFormat]

def startEquityTransferUpdate (venue : Venue) (quantity : FractionalShares) :
    EquityInventoryUpdate :=
  Inventory.transfer venue .start quantity

def cancelEquityTransferUpdate (venue : Venue) (quantity : FractionalShares) (now : Time) :
    EquityInventoryUpdate := fun inventory => do
  let cancelled ← inventory.transfer venue .cancel quantity
  return cancelled.withLastRebalancing now

def completeEquityTransferUpdate (venue : Venue) (quantity : FractionalShares) (now : Time) :
    EquityInventoryUpdate := fun inventory => do
  let transferred ← inventory.transfer venue .complete quantity
  return transferred.withLastRebalancing now

omit [FloatFormat] in
def lastRebalancingUpdate (now : Time) : EquityInventoryUpdate := fun inventory =>
  .ok (inventory.withLastRebalancing now)

/-- A mint that is failed before it was accepted has put nothing in flight. -/
def mintInventoryUpdate (event : TokenizedEquityMintEvent) (quantity : FractionalShares)
    (stage : MintTrackingStage) (now : Time) : Option EquityInventoryUpdate :=
  match event with
  | .mintAccepted .. => some (startEquityTransferUpdate .hedging quantity)
  | .mintAcceptanceFailed .. =>
      match stage with
      | .requested => none
      | _ => some (cancelEquityTransferUpdate .hedging quantity now)
  | .tokensReceived .. | .providerCompletionRecovered .. =>
      some (completeEquityTransferUpdate .hedging quantity now)
  | .depositedIntoRaindex .. => some (lastRebalancingUpdate now)
  | _ => none

def redemptionInventoryUpdate (event : EquityRedemptionEvent) (quantity : FractionalShares)
    (now : Time) : Option EquityInventoryUpdate :=
  match event with
  | .vaultWithdrawPending .. => some (startEquityTransferUpdate .marketMaking quantity)
  | .completed .. | .providerCompletionRecovered .. =>
      some (completeEquityTransferUpdate .marketMaking quantity now)
  | .transferFailed .. => some (cancelEquityTransferUpdate .marketMaking quantity now)
  | _ => none

/-- Token units have 18 decimals. -/
def fromU256 (amount : Nat) : Except FloatError FractionalShares :=
  FloatFormat.pack (amount / 10 ^ 18)

/-- What an unwrap yielded; events from before the quantity was recorded have
only the amount. -/
def unwrappedQuantity (quantity : Option FractionalShares) (unwrappedAmount : Nat) :
    Except FloatError FractionalShares :=
  match quantity with
  | some quantity => .ok quantity
  | none => fromU256 unwrappedAmount

def redemptionActualUnwrappedQuantity :
    EquityRedemptionEvent → Except FloatError (Option FractionalShares)
  | .tokensUnwrapped quantity _ _ unwrappedAmount _ _ => do
      let actual ← unwrappedQuantity quantity unwrappedAmount
      return some actual
  | _ => .ok none

end Updates

def isTerminalMintEvent : TokenizedEquityMintEvent → Bool
  | .depositedIntoRaindex .. => true
  | .mintRejected .. => true
  | .mintAcceptanceFailed .. => true
  | .raindexDepositFailed .. => true
  | .wrappingFailed .. => true
  | .operatorReconciled .. => true
  | .mintRequested .. => false
  | .mintAccepted .. => false
  | .tokensReceived .. => false
  | .providerCompletionRecovered .. => false
  | .wrapSubmitted .. => false
  | .tokensWrapped .. => false
  | .vaultDepositSubmitted .. => false

def isTerminalRedemptionEvent : EquityRedemptionEvent → Bool
  | .completed .. => true
  | .providerCompletionRecovered .. => true
  | .transferFailed .. => true
  | .detectionFailed .. => true
  | .redemptionRejected .. => true
  | .operatorReconciled .. => true
  | .vaultWithdrawPending .. => false
  | .vaultWithdrawSubmitted .. => false
  | .withdrawnFromRaindex .. => false
  | .unwrapPending .. => false
  | .unwrapSubmitted .. => false
  | .tokensUnwrapped .. => false
  | .sendPending .. => false
  | .tokensSent .. => false
  | .detected .. => false

namespace RedemptionTracking

def fromGenesisEvent : EquityRedemptionEvent → Option RedemptionTracking
  | .vaultWithdrawPending symbol quantity _ _ pendingAt =>
      some ⟨symbol, quantity, none, none, .vaultWithdrawPending, pendingAt⟩
  | .vaultWithdrawSubmitted symbol quantity _ _ _ submittedAt =>
      some ⟨symbol, quantity, none, none, .vaultWithdrawSubmitted, submittedAt⟩
  | .withdrawnFromRaindex symbol quantity _ _ _ _ _ withdrawnAt =>
      some ⟨symbol, quantity, none, none, .withdrawnFromRaindex, withdrawnAt⟩
  | _ => none

def trackProgress [FloatFormat] (tracking : RedemptionTracking) :
    EquityRedemptionEvent → Except FloatError RedemptionTracking
  | .vaultWithdrawSubmitted _ _ _ _ _ submittedAt =>
      .ok { tracking with stage := .vaultWithdrawSubmitted, lastProgressAt := submittedAt }
  | .withdrawnFromRaindex _ _ _ _ _ _ _ withdrawnAt =>
      .ok { tracking with stage := .withdrawnFromRaindex, lastProgressAt := withdrawnAt }
  | .unwrapPending pendingAt =>
      .ok { tracking with stage := .unwrapPending, lastProgressAt := pendingAt }
  | .unwrapSubmitted _ submittedAt =>
      .ok { tracking with stage := .unwrapSubmitted, lastProgressAt := submittedAt }
  | .tokensUnwrapped quantity _ _ unwrappedAmount _ unwrappedAt => do
      let actual ← unwrappedQuantity quantity unwrappedAmount
      return { tracking with
        quantity := actual
        stage := .tokensUnwrapped
        lastProgressAt := unwrappedAt }
  | .sendPending pendingAt =>
      .ok { tracking with stage := .sendPending, lastProgressAt := pendingAt }
  | .tokensSent _ redemptionTx sentAt =>
      .ok { tracking with
        redemptionTx := some redemptionTx
        stage := .tokensSent
        lastProgressAt := sentAt }
  | .detected tokenizationRequestId detectedAt =>
      .ok { tracking with
        tokenizationRequestId := some tokenizationRequestId
        stage := .detected
        lastProgressAt := detectedAt }
  | _ => .ok tracking

end RedemptionTracking

/-- The reactor's memory. All of it is lost when the process ends. -/
structure EquityReactor where
  view : EquityView
  mintTracking : AList fun _ : IssuerRequestId => MintTracking
  redemptionTracking : AList fun _ : RedemptionAggregateId => RedemptionTracking
  timedOutMints : IssuerRequestId → Option Time
  timedOutRedemptions : RedemptionAggregateId → Option Time
  /-- Symbols a poll may not put in flight again after a timeout. -/
  suppressedInflightSymbols : Symbol → Option Time
  activeMints : Symbol → Option IssuerRequestId
  activeRedemptions : Symbol → Option RedemptionAggregateId
  equityInProgress : Symbol → Option GuardState
  nextGeneration : Nat

namespace EquityReactor

/-- What a call left behind and what it returned. -/
abbrev Outcome := EquityReactor × Except EquityReactorError Unit

def slot (reactor : EquityReactor) (symbol : Symbol) : EquitySlot :=
  ⟨reactor.equityInProgress symbol, reactor.nextGeneration⟩

def withSlot (reactor : EquityReactor) (symbol : Symbol) (slot : EquitySlot) : EquityReactor :=
  { reactor with
    equityInProgress := Function.update reactor.equityInProgress symbol slot.state
    nextGeneration := slot.nextGeneration }

def clearEquityInProgress (reactor : EquityReactor) (symbol : Symbol) : EquityReactor :=
  reactor.withSlot symbol (reactor.slot symbol).clearEquityInProgress

def trackMintProgress (reactor : EquityReactor) (id : IssuerRequestId)
    (event : TokenizedEquityMintEvent) : EquityReactor :=
  match reactor.mintTracking.lookup id with
  | some existing =>
      { reactor with mintTracking := reactor.mintTracking.insert id (existing.trackProgress event) }
  | none =>
      match MintTracking.fromRequestedEvent event with
      | some created => { reactor with mintTracking := reactor.mintTracking.insert id created }
      | none => reactor

def applyEquityUpdate (reactor : EquityReactor) (symbol : Symbol) (update : EquityInventoryUpdate)
    (now : Time) : Except EquityReactorError EquityReactor := do
  let view ← (reactor.view.updateEquity symbol update now).mapError .inventory
  return { reactor with view }

def applyEquityUpdateIf (reactor : EquityReactor) (symbol : Symbol)
    (update : Option EquityInventoryUpdate) (now : Time) :
    Except EquityReactorError EquityReactor :=
  match update with
  | some update => reactor.applyEquityUpdate symbol update now
  | none => .ok reactor

def updateActiveMint (reactor : EquityReactor) (id : IssuerRequestId) (symbol : Symbol)
    (event : TokenizedEquityMintEvent) : EquityReactor :=
  { reactor with
    activeMints := Function.update reactor.activeMints symbol
      (if isTerminalMintEvent event then none else some id) }

def updateActiveRedemption (reactor : EquityReactor) (id : RedemptionAggregateId)
    (symbol : Symbol) (event : EquityRedemptionEvent) : EquityReactor :=
  { reactor with
    activeRedemptions := Function.update reactor.activeRedemptions symbol
      (if isTerminalRedemptionEvent event then none else some id) }

/-- A poll from before a new mint must not zero what the mint put in flight. -/
def clearMintMarkerOn (reactor : EquityReactor) (symbol : Symbol) :
    TokenizedEquityMintEvent → EquityReactor
  | .mintAccepted .. => { reactor with view := reactor.view.clearPreviousInflightMintMarker symbol }
  | _ => reactor

def clearRedemptionMarkerOn (reactor : EquityReactor) (symbol : Symbol) :
    EquityRedemptionEvent → EquityReactor
  | .vaultWithdrawPending .. =>
      { reactor with view := reactor.view.clearPreviousInflightRedemptionMarker symbol }
  | _ => reactor

/-- A mint that has ended is no longer followed, and frees its symbol. -/
def closeMint (reactor : EquityReactor) (id : IssuerRequestId) (symbol : Symbol)
    (event : TokenizedEquityMintEvent) : EquityReactor :=
  if isTerminalMintEvent event then
    { reactor with mintTracking := reactor.mintTracking.erase id }.clearEquityInProgress symbol
  else reactor

def closeRedemption (reactor : EquityReactor) (id : RedemptionAggregateId) (symbol : Symbol)
    (event : EquityRedemptionEvent) : EquityReactor :=
  if isTerminalRedemptionEvent event then
    { reactor with redemptionTracking := reactor.redemptionTracking.erase id }.clearEquityInProgress
      symbol
  else reactor

variable [FloatFormat]

def onMint (reactor : EquityReactor) (now : Time) (id : IssuerRequestId)
    (event : TokenizedEquityMintEvent) : Outcome :=
  if (reactor.timedOutMints id).isSome then (reactor, .ok ())
  else
    let tracked := reactor.trackMintProgress id event
    match tracked.mintTracking.lookup id with
    | none => (tracked, .ok ())
    | some tracking =>
        let update := mintInventoryUpdate event tracking.quantity tracking.stage now
        match tracked.applyEquityUpdateIf tracking.symbol update now with
        | .error error => (tracked, .error error)
        | .ok updated =>
            let cleared := updated.clearMintMarkerOn tracking.symbol event
            let active := cleared.updateActiveMint id tracking.symbol event
            (active.closeMint id tracking.symbol event, .ok ())

/-- What was withdrawn may unwrap to less than was asked for, or to more. -/
def settleUnwrapped (reactor : EquityReactor) (now : Time) (existing : RedemptionTracking)
    (actual : FractionalShares) : Except EquityReactorError EquityReactor := do
  if actual < existing.quantity then
    let shortfall ← (Decimal.sub existing.quantity actual).mapError .conversion
    reactor.applyEquityUpdate existing.symbol
      (cancelEquityTransferUpdate .marketMaking shortfall now) now
  else if existing.quantity < actual then
    -- The surplus is only logged.
    let _ ← (Decimal.sub actual existing.quantity).mapError .conversion
    reactor.applyEquityUpdate existing.symbol (Inventory.setInflight .marketMaking actual) now
  else return reactor

def applyUnwrapped (reactor : EquityReactor) (now : Time) (id : RedemptionAggregateId)
    (event : EquityRedemptionEvent) : Except EquityReactorError EquityReactor := do
  let actual ← (redemptionActualUnwrappedQuantity event).mapError .conversion
  match actual, reactor.redemptionTracking.lookup id with
  | some actual, some existing => reactor.settleUnwrapped now existing actual
  | _, _ => return reactor

def trackRedemptionProgress (reactor : EquityReactor) (id : RedemptionAggregateId)
    (event : EquityRedemptionEvent) : Except EquityReactorError EquityReactor :=
  match reactor.redemptionTracking.lookup id with
  | some existing => do
      let tracking ← (existing.trackProgress event).mapError .conversion
      return { reactor with redemptionTracking := reactor.redemptionTracking.insert id tracking }
  | none =>
      match RedemptionTracking.fromGenesisEvent event with
      | some created =>
          .ok { reactor with
            redemptionTracking := reactor.redemptionTracking.insert id created }
      | none => .ok reactor

def onRedemption (reactor : EquityReactor) (now : Time) (id : RedemptionAggregateId)
    (event : EquityRedemptionEvent) : Outcome :=
  if (reactor.timedOutRedemptions id).isSome then (reactor, .ok ())
  else
    match reactor.applyUnwrapped now id event with
    | .error error => (reactor, .error error)
    | .ok unwrapped =>
      match unwrapped.trackRedemptionProgress id event with
      | .error error => (unwrapped, .error error)
      | .ok tracked =>
        match tracked.redemptionTracking.lookup id with
        | none => (tracked, .ok ())
        | some tracking =>
            let update := redemptionInventoryUpdate event tracking.quantity now
            match tracked.applyEquityUpdateIf tracking.symbol update now with
            | .error error => (tracked, .error error)
            | .ok updated =>
                let cleared := updated.clearRedemptionMarkerOn tracking.symbol event
                let active := cleared.updateActiveRedemption id tracking.symbol event
                (active.closeRedemption id tracking.symbol event, .ok ())

end EquityReactor

end Liquidity
