import Liquidity.Performance.Stages
import Liquidity.Performance.StageTiming
import Liquidity.UsdcRebalance.Aggregate

/-!
# Timings of rebalances

The read model of the stages of a cash rebalance: the conversion, the withdrawal, the
burn, the attestation, the mint and the deposit. An event opens or ends runs, and the
first events of the direction tell when the operation started.
-/

namespace Liquidity.Performance.Rebalance

inductive StoredStatus where
  | inProgress
  | completed
  | failed
  deriving DecidableEq, Repr

inductive StoredStageOutcome where
  | inProgress
  | succeeded
  | failed
  | unmeasured
  deriving DecidableEq, Repr

inductive StoredStageName where
  | conversion
  | withdrawal
  | burn
  | attestation
  | mint
  | deposit
  deriving DecidableEq, Repr

/-- The timings of one operation, as they are stored. -/
structure StoredOperation where
  operationId : UsdcRebalanceId
  direction : Option RebalanceDirection
  amount : Option Usdc
  firstSeenAt : Time
  startedAt : Option Time
  completedAt : Option Time
  status : StoredStatus
  operatorReconciled : Bool
  stages : Runs StoredStageName StoredStageOutcome
  deriving DecidableEq

namespace StoredOperation

def new (operationId : UsdcRebalanceId) (firstSeenAt : Time) : StoredOperation where
  operationId := operationId
  direction := none
  amount := none
  firstSeenAt := firstSeenAt
  startedAt := none
  completedAt := none
  status := .inProgress
  operatorReconciled := false
  stages := []

/-- Open the stage, unless it has a run. -/
def openOnce (operation : StoredOperation) (stage : StoredStageName) (time : Time) :
    StoredOperation :=
  { operation with stages := operation.stages.pushOnce ⟨stage, time, none, none, .inProgress⟩ }

def close (operation : StoredOperation) (stage : StoredStageName) (time : Time)
    (outcome : StoredStageOutcome) : StoredOperation :=
  { operation with stages := operation.stages.close stage time outcome }

def closeOpenStages (operation : StoredOperation) (time : Time) (outcome : StoredStageOutcome) :
    StoredOperation :=
  { operation with stages := operation.stages.closeOpenStages time outcome }

/-- A stage that was passed, though not when it was entered, unless it has a run. -/
def recordUnmeasured (operation : StoredOperation) (stage : StoredStageName) (time : Time) :
    StoredOperation :=
  { operation with
    stages := operation.stages.pushOnce ⟨stage, time, some time, none, .unmeasured⟩ }

/-- What is first said of the direction and the amount is kept. -/
def seed (operation : StoredOperation) (direction : RebalanceDirection) (amount : Usdc) :
    StoredOperation :=
  { operation with
    direction := operation.direction.or (some direction)
    amount := operation.amount.or (some amount) }

/-- The time is the start, if this is the first phase of the direction. -/
def seedStart (operation : StoredOperation) (first direction : RebalanceDirection) (time : Time) :
    StoredOperation :=
  if direction = first then { operation with startedAt := operation.startedAt.or (some time) }
  else operation

/-- The operation is over, if this is the last phase of the direction. -/
def complete (operation : StoredOperation) (last direction : RebalanceDirection) (time : Time) :
    StoredOperation :=
  if direction = last then { operation with status := .completed, completedAt := some time }
  else operation

def apply (operation : StoredOperation) : UsdcRebalanceEvent → StoredOperation
  | .conversionInitiated direction amount _ initiatedAt =>
      ((operation.seed direction amount).seedStart .alpacaToBase direction initiatedAt).openOnce
        .conversion initiatedAt
  | .conversionConfirmed direction _ convertedAt =>
      (operation.close .conversion convertedAt .succeeded).complete .baseToAlpaca direction
        convertedAt
  | .conversionFailed _ failedAt =>
      { operation.close .conversion failedAt .failed with status := .failed }
  | .withdrawalSubmitting direction amount _ submittingAt =>
      ((operation.seed direction amount).seedStart .baseToAlpaca direction submittingAt).openOnce
        .withdrawal submittingAt
  | .initiated direction amount _ initiatedAt =>
      ((operation.seed direction amount).seedStart .baseToAlpaca direction initiatedAt).openOnce
        .withdrawal initiatedAt
  | .withdrawalConfirmed confirmedAt _ => operation.close .withdrawal confirmedAt .succeeded
  | .withdrawalFailed _ failedAt =>
      { operation.close .withdrawal failedAt .failed with status := .failed }
  | .bridgingSubmitting _ submittingAt _ => operation.openOnce .burn submittingAt
  | .bridgingInitiated _ burnedAt =>
      -- without the intent there is no time at which the burn began
      let burned :=
        if (operation.stages.openRunIndex .burn).isSome then
          operation.close .burn burnedAt .succeeded
        else operation.recordUnmeasured .burn burnedAt
      burned.openOnce .attestation burnedAt
  | .bridgeAttestationReceived _ _ _ _ attestedAt =>
      (operation.close .attestation attestedAt .succeeded).openOnce .mint attestedAt
  | .pendingBurnRecorded _ _ | .pendingBurnCleared _ | .attestationTimedOut _ _ _ => operation
  | .bridged _ _ _ mintedAt => operation.close .mint mintedAt .succeeded
  | .bridgingFailed _ _ _ failedAt =>
      { operation.closeOpenStages failedAt .failed with status := .failed }
  | .bridgingCompletionRecovered _ _ _ recoveredAt =>
      { (operation.closeOpenStages recoveredAt .succeeded).recordUnmeasured .mint recoveredAt with
        status := .inProgress }
  | .depositInitiated _ depositInitiatedAt => operation.openOnce .deposit depositInitiatedAt
  | .depositConfirmed direction depositConfirmedAt =>
      (operation.close .deposit depositConfirmedAt .succeeded).complete .alpacaToBase direction
        depositConfirmedAt
  | .depositFailed _ _ failedAt =>
      { operation.close .deposit failedAt .failed with status := .failed }
  | .operatorReconciled direction amount _ _ reconciledAt =>
      { operation.seed direction amount with
        status := .completed
        completedAt := some reconciledAt
        operatorReconciled := true }

end StoredOperation

/-- The time at which the event is observed. A reconciliation counts from when it was
made, not from when the transfer began. -/
def observedAt : UsdcRebalanceEvent → Time
  | .conversionInitiated _ _ _ initiatedAt | .initiated _ _ _ initiatedAt => initiatedAt
  | .operatorReconciled _ _ _ _ reconciledAt => reconciledAt
  | .conversionConfirmed _ _ convertedAt => convertedAt
  | .conversionFailed _ failedAt | .withdrawalFailed _ failedAt | .bridgingFailed _ _ _ failedAt
  | .depositFailed _ _ failedAt => failedAt
  | .withdrawalSubmitting _ _ _ submittingAt | .bridgingSubmitting _ submittingAt _ => submittingAt
  | .withdrawalConfirmed confirmedAt _ => confirmedAt
  | .pendingBurnRecorded _ recordedAt => recordedAt
  | .pendingBurnCleared clearedAt => clearedAt
  | .bridgingInitiated _ burnedAt => burnedAt
  | .bridgeAttestationReceived _ _ _ _ attestedAt => attestedAt
  | .attestationTimedOut _ _ timedOutAt => timedOutAt
  | .bridged _ _ _ mintedAt => mintedAt
  | .bridgingCompletionRecovered _ _ _ recoveredAt => recoveredAt
  | .depositInitiated _ depositInitiatedAt => depositInitiatedAt
  | .depositConfirmed _ depositConfirmedAt => depositConfirmedAt

/-- The read model. Its fold does not look at the sequence. -/
def timingProjection (idText : UsdcRebalanceId → String) :
    TimingProjection UsdcRebalanceId UsdcRebalanceEvent StoredOperation where
  idText := idText
  new := fun operationId event => .new operationId (observedAt event)
  apply := fun operation event _ => operation.apply event
  operationId := StoredOperation.operationId
  firstSeenAt := StoredOperation.firstSeenAt

end Liquidity.Performance.Rebalance
