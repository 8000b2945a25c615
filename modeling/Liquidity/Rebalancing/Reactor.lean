import Liquidity.Inventory
import Liquidity.UsdcRebalance.Aggregate

/-!
# The rebalancing service's view of USDC transfers

The service admits one USDC transfer at a time: a flag in memory is set when a
transfer is dispatched and cleared when it has ended. Beside the flag the
service tracks how far each transfer came, and keeps the inventory's inflight
amounts in step. All of this lives in memory and follows the events of the
rebalance aggregates.

Every error of the event handler is returned before its first change, so a
failed call is one that leaves the service as it was.
-/

namespace Liquidity

inductive UsdcTrackingEvent where
  | initiated
  | depositConfirmed
  | conversionConfirmed
  deriving DecidableEq, Repr

inductive UsdcRebalanceStage where
  | conversionInitiated
  | conversionConfirmed
  | initiated
  | withdrawalConfirmed
  | bridgingInitiated
  | bridgeAttestationReceived
  | bridged
  | depositInitiated
  | depositConfirmed
  deriving DecidableEq, Repr

namespace UsdcRebalanceStage

/-- The stage an event starts and the time it carries. The intents and the
recorded hash of a pending burn start none. -/
def ofEvent : UsdcRebalanceEvent → Option (UsdcRebalanceStage × Time)
  | .conversionInitiated _ _ _ initiatedAt => some (.conversionInitiated, initiatedAt)
  | .conversionConfirmed .alpacaToBase _ convertedAt => some (.conversionConfirmed, convertedAt)
  | .initiated _ _ _ initiatedAt => some (.initiated, initiatedAt)
  | .withdrawalConfirmed confirmedAt _ => some (.withdrawalConfirmed, confirmedAt)
  | .bridgingInitiated _ burnedAt => some (.bridgingInitiated, burnedAt)
  | .bridgeAttestationReceived _ _ _ _ attestedAt => some (.bridgeAttestationReceived, attestedAt)
  | .bridged _ _ _ mintedAt => some (.bridged, mintedAt)
  | .bridgingCompletionRecovered _ _ _ recoveredAt => some (.bridged, recoveredAt)
  | .depositInitiated _ depositInitiatedAt => some (.depositInitiated, depositInitiatedAt)
  | .depositConfirmed _ depositConfirmedAt => some (.depositConfirmed, depositConfirmedAt)
  | .withdrawalSubmitting .. | .bridgingSubmitting .. | .pendingBurnRecorded ..
  | .pendingBurnCleared .. | .attestationTimedOut .. | .conversionConfirmed ..
  | .conversionFailed .. | .withdrawalFailed .. | .bridgingFailed .. | .depositFailed ..
  | .operatorReconciled .. => none

end UsdcRebalanceStage

/-- The venue the USDC leaves. -/
def sourceVenue : RebalanceDirection → Venue
  | .alpacaToBase => .hedging
  | .baseToAlpaca => .marketMaking

/-- How far the service saw a transfer come. -/
structure UsdcRebalanceTracking where
  direction : RebalanceDirection
  initiatedAmount : Usdc
  bridgedAmountReceived : Option Usdc
  stage : UsdcRebalanceStage
  lastProgressAt : Time
  deriving DecidableEq

namespace UsdcRebalanceTracking

def sourceVenue (tracking : UsdcRebalanceTracking) : Venue := Liquidity.sourceVenue tracking.direction

def sourceTransferStarted (tracking : UsdcRebalanceTracking) : Bool :=
  match tracking.direction with
  | .alpacaToBase =>
      tracking.stage ≠ .conversionInitiated && tracking.stage ≠ .conversionConfirmed
  | .baseToAlpaca => true

/-- Whether the burn has committed the funds. A stage that is not known to come
before the burn counts as past it. -/
def isPostBurn (tracking : UsdcRebalanceTracking) : Bool :=
  match tracking.direction, tracking.stage with
  | .alpacaToBase, .conversionInitiated | .alpacaToBase, .conversionConfirmed
  | .alpacaToBase, .initiated | .alpacaToBase, .withdrawalConfirmed
  | .baseToAlpaca, .initiated | .baseToAlpaca, .withdrawalConfirmed => false
  | _, _ => true

def trackProgress (tracking : UsdcRebalanceTracking) (event : UsdcRebalanceEvent) :
    UsdcRebalanceTracking :=
  match UsdcRebalanceStage.ofEvent event with
  | some (stage, lastProgressAt) => { tracking with stage, lastProgressAt }
  | none => tracking

end UsdcRebalanceTracking

inductive UsdcTerminalAction where
  | notTerminal
  | clear
  | preservePostBurn
  deriving DecidableEq, Repr

/-- Whether a terminal event brought the inventory up to date, or left that to
the next snapshot. -/
inductive UsdcSettlementOutcome where
  | reconciled
  | deferredToSnapshot
  deriving DecidableEq, Repr

inductive RebalancingServiceError where
  | missingUsdcTrackingContext (id : UsdcRebalanceId) (event : UsdcTrackingEvent)
  | missingUsdcBridgedAmount (id : UsdcRebalanceId)
  | settledUsdcExceedsInitiatedAmount (id : UsdcRebalanceId) (event : UsdcTrackingEvent)
      (initiatedAmount settledAmount : Usdc)
  | inventory (error : InventoryError)
  deriving DecidableEq

/-- The part of the inventory view that transfers of USDC change. -/
structure InventoryView where
  usdc : Inventory
  activeUsdcRebalance : Option UsdcRebalanceId
  lastUpdated : Time
  deriving DecidableEq

namespace InventoryView

def updateUsdc (view : InventoryView) (update : Inventory → Except InventoryError Inventory)
    (now : Time) : Except InventoryError InventoryView := do
  let updated ← update view.usdc
  return { view with usdc := updated, lastUpdated := now }

def clearUsdcInflight (view : InventoryView) (venue : Venue) (now : Time) :
    Except InventoryError InventoryView :=
  view.updateUsdc (fun usdc => (usdc.setInflight venue 0).map (·.withLastRebalancing now)) now

def setActiveUsdcRebalance (view : InventoryView) (id : UsdcRebalanceId) : InventoryView :=
  { view with activeUsdcRebalance := some id }

def clearActiveUsdcRebalance (view : InventoryView) : InventoryView :=
  { view with activeUsdcRebalance := none }

end InventoryView

/-- What the service remembers about USDC transfers. -/
structure RebalancingService where
  usdcInProgress : Bool
  usdcTracking : UsdcRebalanceId → Option UsdcRebalanceTracking
  timedOutUsdcRebalances : UsdcRebalanceId → Option Time
  inventory : InventoryView
  /-- Whether a fresh imbalance check is enqueued. -/
  usdcCheckPending : Bool

namespace RebalancingService

variable [FloatFormat]

omit [FloatFormat] in
def isTerminalUsdcRebalanceEvent : UsdcRebalanceEvent → Bool
  | .withdrawalFailed .. | .bridgingFailed .. | .depositFailed .. | .conversionFailed ..
  | .operatorReconciled .. | .conversionConfirmed .baseToAlpaca ..
  | .depositConfirmed .alpacaToBase .. => true
  | _ => false

omit [FloatFormat] in
/-- Whether a failure came after the burn. Without a tracking entry a failed
conversion counts as one, since it may be the leg after the deposit. -/
def postBurnFailure (tracked : Option UsdcRebalanceTracking) : UsdcRebalanceEvent → Bool
  | .bridgingFailed (some _) .. | .bridgingFailed _ (some _) .. => true
  | .depositFailed .. => true
  | .conversionFailed .. => tracked.all (·.isPostBurn)
  | .withdrawalFailed .. | .bridgingFailed .. => tracked.any (·.isPostBurn)
  | _ => false

omit [FloatFormat] in
def usdcTerminalAction (tracked : Option UsdcRebalanceTracking) (event : UsdcRebalanceEvent) :
    UsdcTerminalAction :=
  if isTerminalUsdcRebalanceEvent event then
    if postBurnFailure tracked event then .preservePostBurn else .clear
  else .notTerminal

omit [FloatFormat] in
def track (service : RebalancingService) (id : UsdcRebalanceId)
    (tracking : UsdcRebalanceTracking) : RebalancingService :=
  { service with usdcTracking := Function.update service.usdcTracking id (some tracking) }

omit [FloatFormat] in
def untrack (service : RebalancingService) (id : UsdcRebalanceId) : RebalancingService :=
  { service with usdcTracking := Function.update service.usdcTracking id none }

/-- Reserve the amount at the source, if the transfer has not done so, and track
it from its withdrawal on. -/
def trackInitiatedUsdcRebalance (service : RebalancingService) (id : UsdcRebalanceId)
    (direction : RebalanceDirection) (amount : Usdc) (initiatedAt now : Time) :
    Except RebalancingServiceError RebalancingService := do
  let existing := service.usdcTracking id
  let entry : UsdcRebalanceTracking :=
    { direction, initiatedAmount := amount
      bridgedAmountReceived := existing.bind (·.bridgedAmountReceived)
      stage := .initiated, lastProgressAt := initiatedAt }
  if existing.any (·.sourceTransferStarted) then
    return service.track id entry
  let inventory ← (service.inventory.updateUsdc
    (Inventory.transfer entry.sourceVenue .start amount) now).mapError .inventory
  return { service with inventory }.track id entry

omit [FloatFormat] in
def upsertConversionTracking (service : RebalancingService) (id : UsdcRebalanceId)
    (direction : RebalanceDirection) (amount : Usdc) (initiatedAt : Time) : RebalancingService :=
  match service.usdcTracking id with
  | some existing =>
      let redirected := { existing with direction }
      service.track id
        { redirected with
          initiatedAmount :=
            if redirected.sourceTransferStarted then existing.initiatedAmount else amount
          stage := .conversionInitiated
          lastProgressAt := initiatedAt }
  | none => service.track id ⟨direction, amount, none, .conversionInitiated, initiatedAt⟩

omit [FloatFormat] in
def trackBridgedAmount (service : RebalancingService) (id : UsdcRebalanceId)
    (amountReceived : Usdc) : RebalancingService :=
  match service.usdcTracking id with
  | some existing => service.track id { existing with bridgedAmountReceived := some amountReceived }
  | none => service

omit [FloatFormat] in
def trackUsdcStageProgress (service : RebalancingService) (id : UsdcRebalanceId)
    (event : UsdcRebalanceEvent) : RebalancingService :=
  match service.usdcTracking id with
  | some existing => service.track id (existing.trackProgress event)
  | none => service

/-- Apply a terminal update of the inventory. When less is inflight than the
update releases, the rest is zeroed and the balances wait for a snapshot. -/
def settleInventory (service : RebalancingService) (source : Venue)
    (update : Inventory → Except InventoryError Inventory) (now : Time) :
    Except RebalancingServiceError (UsdcSettlementOutcome × RebalancingService) :=
  match service.inventory.updateUsdc
      (fun usdc => (update usdc).map (·.withLastRebalancing now)) now with
  | .ok inventory => .ok (.reconciled, { service with inventory })
  | .error (.insufficientInflight _ _) => do
      let inventory ← (service.inventory.clearUsdcInflight source now).mapError .inventory
      return (.deferredToSnapshot, { service with inventory })
  | .error error => .error (.inventory error)

def completeUsdcRebalance (service : RebalancingService) (id : UsdcRebalanceId)
    (event : UsdcTrackingEvent) (settledAmount : Usdc) (now : Time) :
    Except RebalancingServiceError (UsdcSettlementOutcome × RebalancingService) :=
  match service.usdcTracking id with
  | none => .ok (.deferredToSnapshot, service)
  | some tracking =>
      if tracking.initiatedAmount < settledAmount then
        .error (.settledUsdcExceedsInitiatedAmount id event tracking.initiatedAmount settledAmount)
      else
        service.settleInventory tracking.sourceVenue
          (Inventory.settleTransfer tracking.sourceVenue tracking.initiatedAmount settledAmount) now

def completeAlpacaToBaseDeposit (service : RebalancingService) (id : UsdcRebalanceId) (now : Time) :
    Except RebalancingServiceError (UsdcSettlementOutcome × RebalancingService) :=
  match service.usdcTracking id with
  | none => .ok (.deferredToSnapshot, service)
  | some tracking =>
      match tracking.bridgedAmountReceived with
      | none => .error (.missingUsdcBridgedAmount id)
      | some amountReceived =>
          service.completeUsdcRebalance id .depositConfirmed amountReceived now

def cancelTrackedUsdcRebalance (service : RebalancingService) (id : UsdcRebalanceId) (now : Time) :
    Except RebalancingServiceError (UsdcSettlementOutcome × RebalancingService) :=
  match service.usdcTracking id with
  | none => .ok (.reconciled, service)
  | some tracking =>
      if tracking.sourceTransferStarted then
        service.settleInventory tracking.sourceVenue
          (Inventory.transfer tracking.sourceVenue .cancel tracking.initiatedAmount) now
      else .ok (.reconciled, service)

omit [FloatFormat] in
/-- Funds an operator settled by hand have left the source: its inflight is
zeroed and nothing is credited. -/
def reconcileOperatorResolved (service : RebalancingService) (direction : RebalanceDirection)
    (now : Time) : Except RebalancingServiceError RebalancingService := do
  let inventory ←
    (service.inventory.clearUsdcInflight (sourceVenue direction) now).mapError .inventory
  return { service with inventory }

/-- What an event does to tracking and inventory, before guard and active
transfer are settled. -/
def applyUsdcRebalanceEvent (service : RebalancingService) (id : UsdcRebalanceId)
    (event : UsdcRebalanceEvent) (terminalAction : UsdcTerminalAction) (now : Time) :
    Except RebalancingServiceError (UsdcSettlementOutcome × RebalancingService) :=
  match event with
  | .conversionInitiated direction amount _ initiatedAt =>
      .ok (.reconciled, service.upsertConversionTracking id direction amount initiatedAt)
  | .initiated direction amount _ initiatedAt => do
      let service ← service.trackInitiatedUsdcRebalance id direction amount initiatedAt now
      return (.reconciled, service)
  | .withdrawalConfirmed .. | .bridgingInitiated .. | .bridgeAttestationReceived ..
  | .depositInitiated .. | .depositConfirmed .baseToAlpaca ..
  | .conversionConfirmed .alpacaToBase .. =>
      .ok (.reconciled, service.trackUsdcStageProgress id event)
  | .bridged _ amountReceived _ _ | .bridgingCompletionRecovered _ amountReceived _ _ =>
      .ok (.reconciled,
        (service.trackBridgedAmount id amountReceived).trackUsdcStageProgress id event)
  | .conversionConfirmed .baseToAlpaca conversion _ =>
      service.completeUsdcRebalance id .conversionConfirmed conversion.receivedAmount now
  | .depositConfirmed .alpacaToBase _ => service.completeAlpacaToBaseDeposit id now
  | .withdrawalSubmitting .. | .bridgingSubmitting .. | .pendingBurnRecorded ..
  | .pendingBurnCleared .. | .attestationTimedOut .. => .ok (.reconciled, service)
  | .withdrawalFailed .. => service.cancelTrackedUsdcRebalance id now
  | .bridgingFailed .. | .depositFailed .. | .conversionFailed .. =>
      if terminalAction = .preservePostBurn then .ok (.reconciled, service)
      else service.cancelTrackedUsdcRebalance id now
  | .operatorReconciled direction .. => do
      let service ← service.reconcileOperatorResolved direction now
      return (.deferredToSnapshot, service)

omit [FloatFormat] in
/-- The end of an event's processing: a cleared transfer gives up its tracking,
the guard and its place in the inventory, and asks for a fresh check unless the
inventory has to heal first. -/
def conclude (service : RebalancingService) (id : UsdcRebalanceId)
    (terminalAction : UsdcTerminalAction) (outcome : UsdcSettlementOutcome) : RebalancingService :=
  match terminalAction with
  | .clear =>
      { service.untrack id with
        inventory := service.inventory.clearActiveUsdcRebalance
        usdcInProgress := false
        usdcCheckPending := outcome = .reconciled }
  | .preservePostBurn =>
      { service with
        inventory := service.inventory.setActiveUsdcRebalance id
        usdcInProgress := true }
  | .notTerminal => { service with inventory := service.inventory.setActiveUsdcRebalance id }

/-- Process one event of a rebalance. Events of a transfer that was timed out
are ignored. -/
def onUsdcRebalance (service : RebalancingService) (now : Time) (id : UsdcRebalanceId)
    (event : UsdcRebalanceEvent) : Except RebalancingServiceError RebalancingService :=
  if (service.timedOutUsdcRebalances id).isSome then .ok service
  else do
    let terminalAction := usdcTerminalAction (service.usdcTracking id) event
    let (outcome, applied) ← service.applyUsdcRebalanceEvent id event terminalAction now
    return applied.conclude id terminalAction outcome

end RebalancingService

end Liquidity
