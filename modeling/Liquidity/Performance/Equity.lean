import Liquidity.EquityRedemption.Aggregate
import Liquidity.Performance.Stages
import Liquidity.Performance.StageTiming
import Liquidity.TokenizedEquityMint.Aggregate

/-!
# Timings of mints and redemptions

The read model of the stages of an equity transfer, one table for both directions. A
stage that ends without having begun is recorded with a placeholder, which the event
that begins it fills in when it comes after all. A failure between two stages is put
down to the one that would have been next.
-/

namespace Liquidity.Performance.Equity

inductive StoredKind where
  | mint
  | redeem
  deriving DecidableEq, Repr

inductive StoredStatus where
  | inProgress
  | completed
  | failed
  deriving DecidableEq, Repr

inductive StoredStageOutcome where
  | inProgress
  | succeeded
  | failed
  | unmeasured
  | placeholder
  deriving DecidableEq, Repr

inductive StoredStageName where
  | mintAcceptance
  | mintReceipt
  | mintWrap
  | mintDeposit
  | redemptionWithdraw
  | redemptionUnwrap
  | redemptionSend
  | redemptionDetection
  | redemptionCompletion
  deriving DecidableEq, Repr

/-! ## Runs of the stages -/

abbrev StageRun := StoredStage StoredStageName StoredStageOutcome

abbrev StageRuns := Runs StoredStageName StoredStageOutcome

/-- The run is a placeholder for the stage. -/
def StageRun.holdsPlaceOf (run : StageRun) (stage : StoredStageName) : Bool :=
  run.stage = stage && run.outcome = .placeholder

/-- The run began at this time after all. -/
def StageRun.begunAt (run : StageRun) (realStartedAt : Time) : StageRun :=
  match run.endedAt with
  | some endedAt =>
      { run with
        startedAt := realStartedAt
        durationMs := some (clampedMs realStartedAt endedAt)
        outcome := .succeeded }
  | none => { run with startedAt := realStartedAt }

/-- The run was not measured. -/
def StageRun.unmeasured (run : StageRun) : StageRun :=
  { run with outcome := .unmeasured, durationMs := none }

namespace StageRuns

def upgradePlaceholderStart (runs : StageRuns) (stage : StoredStageName) (realStartedAt : Time) :
    StageRuns :=
  runs.replaceF fun run =>
    if StageRun.holdsPlaceOf run stage then some (StageRun.begunAt run realStartedAt) else none

/-- Open the stage, unless it has a run. A placeholder is filled in. -/
def openOnce (runs : StageRuns) (stage : StoredStageName) (time : Time) : StageRuns :=
  if runs.any (StageRun.holdsPlaceOf · stage) then upgradePlaceholderStart runs stage time
  else runs.pushOnce ⟨stage, time, none, none, .inProgress⟩

/-- A run that was never open, unless the stage has a run. -/
def pushClosedStage (runs : StageRuns) (stage : StoredStageName) (time : Time)
    (outcome : StoredStageOutcome) : StageRuns :=
  runs.pushOnce ⟨stage, time, some time, none, outcome⟩

def recordUnmeasured (runs : StageRuns) (stage : StoredStageName) (time : Time) : StageRuns :=
  pushClosedStage runs stage time .placeholder

def closeOrRecordUnmeasured (runs : StageRuns) (stage : StoredStageName) (time : Time)
    (outcome : StoredStageOutcome) : StageRuns :=
  if (runs.openRunIndex stage).isSome then runs.close stage time outcome
  else recordUnmeasured runs stage time

def failUnopenedStage (runs : StageRuns) (stage : StoredStageName) (time : Time) : StageRuns :=
  pushClosedStage runs stage time .failed

/-- The stage was passed, though it is not known how long it took. -/
def recoverReceiptStage (runs : StageRuns) (stage : StoredStageName) (time : Time) : StageRuns :=
  if runs.hasRun stage then
    runs.replaceF fun run => if run.stage = stage then some (StageRun.unmeasured run) else none
  else recordUnmeasured runs stage time

/-- What failed before has succeeded after all. -/
def scrubFailed (runs : StageRuns) : StageRuns :=
  runs.map fun run => if run.outcome = .failed then StageRun.unmeasured run else run

/-- Fail what is open. Where nothing is, and the operation had not failed before, the
failure is put down to the given stage. -/
def failOpenOr (runs : StageRuns) (status : StoredStatus) (time : Time)
    (derivedStage : StageRuns → Option StoredStageName) : StageRuns :=
  let hadOpenStage := runs.any StoredStage.isOpen
  let closed := runs.closeOpenStages time .failed
  if !hadOpenStage && status ≠ .failed then
    match derivedStage closed with
    | some stage => failUnopenedStage closed stage time
    | none => closed
  else closed

def redemptionStages : List StoredStageName :=
  [.redemptionWithdraw, .redemptionUnwrap, .redemptionSend, .redemptionDetection,
    .redemptionCompletion]

/-- The first stage of a redemption that has no run. -/
def nextMissingRedemptionStage (runs : StageRuns) : Option StoredStageName :=
  redemptionStages.find? fun stage => !runs.hasRun stage

end StageRuns

/-! ## Operations -/

/-- The timings of one operation, as they are stored. -/
structure StoredOperation where
  operationId : String
  kind : StoredKind
  symbol : Option Symbol
  quantity : Option FractionalShares
  firstSeenAt : Time
  startedAt : Option Time
  completedAt : Option Time
  status : StoredStatus
  operatorReconciled : Bool
  stages : StageRuns
  deriving DecidableEq

namespace StoredOperation

open StageRuns

def new (operationId : String) (kind : StoredKind) (firstSeenAt : Time) : StoredOperation where
  operationId := operationId
  kind := kind
  symbol := none
  quantity := none
  firstSeenAt := firstSeenAt
  startedAt := none
  completedAt := none
  status := .inProgress
  operatorReconciled := false
  stages := []

/-- What is first said of the symbol and the quantity is kept. -/
def seed (operation : StoredOperation) (symbol : Symbol) (quantity : FractionalShares) :
    StoredOperation :=
  { operation with
    symbol := operation.symbol.or (some symbol)
    quantity := operation.quantity.or (some quantity) }

/-- The operation started at this time, unless its start is known. -/
def seedStart (operation : StoredOperation) (time : Time) : StoredOperation :=
  { operation with startedAt := operation.startedAt.or (some time) }

/-- The operation has failed, in what is open or in the given stage. -/
def fail (operation : StoredOperation) (time : Time)
    (derivedStage : StageRuns → Option StoredStageName) : StoredOperation :=
  { operation with
    stages := failOpenOr operation.stages operation.status time derivedStage
    status := .failed }

def complete (operation : StoredOperation) (time : Time) : StoredOperation :=
  { operation with status := .completed, completedAt := some time }

def reconcile (operation : StoredOperation) (time : Time) : StoredOperation :=
  { operation.complete time with operatorReconciled := true }

def applyMint (operation : StoredOperation) : TokenizedEquityMintEvent → StoredOperation
  | .mintRequested symbol quantity _ requestedAt =>
      { (operation.seed symbol quantity).seedStart requestedAt with
        stages := openOnce operation.stages .mintAcceptance requestedAt }
  | .mintAccepted _ _ acceptedAt =>
      let accepted :=
        closeOrRecordUnmeasured operation.stages .mintAcceptance acceptedAt .succeeded
      { operation with stages := openOnce accepted .mintReceipt acceptedAt }
  | .mintRejected _ rejectedAt => operation.fail rejectedAt fun _ => some .mintAcceptance
  | .raindexDepositFailed _ failedAt => operation.fail failedAt fun _ => some .mintDeposit
  | .mintAcceptanceFailed _ failedAt =>
      -- after the acceptance it is the receipt that failed, but the event does not tell
      operation.fail failedAt fun _ => some .mintAcceptance
  | .wrappingFailed symbol quantity _ failedAt =>
      (operation.seed symbol quantity).fail failedAt fun _ => some .mintWrap
  | .tokensReceived _ _ receivedAt =>
      let received := closeOrRecordUnmeasured operation.stages .mintReceipt receivedAt .succeeded
      { operation with stages := openOnce received .mintWrap receivedAt }
  | .wrapSubmitted _ _ | .vaultDepositSubmitted _ _ => operation
  | .tokensWrapped _ _ wrappedAt _ =>
      let wrapped := closeOrRecordUnmeasured operation.stages .mintWrap wrappedAt .succeeded
      { operation with stages := openOnce wrapped .mintDeposit wrappedAt }
  | .depositedIntoRaindex _ depositedAt =>
      { operation.complete depositedAt with
        stages := closeOrRecordUnmeasured operation.stages .mintDeposit depositedAt .succeeded }
  | .providerCompletionRecovered _ _ _ _ _ recoveredAt =>
      let received := recoverReceiptStage (scrubFailed operation.stages) .mintReceipt recoveredAt
      { operation with
        stages := openOnce received .mintWrap recoveredAt
        status := .inProgress }
  | .operatorReconciled _ reconciledAt => operation.reconcile reconciledAt

/-- A redemption from before the pending state existed starts with a later event. Only
the sequence tells that event from one whose predecessors were missed. -/
def applyRedemption (operation : StoredOperation) (event : EquityRedemptionEvent)
    (sequence : Option Nat) : StoredOperation :=
  match event with
  | .vaultWithdrawPending symbol quantity _ _ pendingAt =>
      { (operation.seed symbol quantity).seedStart pendingAt with
        stages := openOnce operation.stages .redemptionWithdraw pendingAt }
  | .vaultWithdrawSubmitted symbol quantity _ _ _ submittedAt =>
      let seeded := operation.seed symbol quantity
      if sequence = some 1 then
        { seeded.seedStart submittedAt with
          stages := openOnce operation.stages .redemptionWithdraw submittedAt }
      else seeded
  | .unwrapSubmitted _ submittedAt =>
      { operation with stages := openOnce operation.stages .redemptionUnwrap submittedAt }
  | .withdrawnFromRaindex symbol quantity _ _ _ _ _ withdrawnAt =>
      let seeded := operation.seed symbol quantity
      let started := if sequence = some 1 then seeded.seedStart withdrawnAt else seeded
      { started with
        stages :=
          closeOrRecordUnmeasured operation.stages .redemptionWithdraw withdrawnAt .succeeded }
  | .unwrapPending pendingAt =>
      { operation with stages := openOnce operation.stages .redemptionUnwrap pendingAt }
  | .tokensUnwrapped _ _ _ _ _ unwrappedAt =>
      { operation with
        stages :=
          closeOrRecordUnmeasured operation.stages .redemptionUnwrap unwrappedAt .succeeded }
  | .sendPending pendingAt =>
      { operation with stages := openOnce operation.stages .redemptionSend pendingAt }
  | .transferFailed _ _ failedAt => operation.fail failedAt nextMissingRedemptionStage
  | .detectionFailed _ failedAt => operation.fail failedAt fun _ => some .redemptionDetection
  | .redemptionRejected _ rejectedAt =>
      operation.fail rejectedAt fun _ => some .redemptionCompletion
  | .tokensSent _ _ sentAt =>
      let sent := closeOrRecordUnmeasured operation.stages .redemptionSend sentAt .succeeded
      { operation with stages := openOnce sent .redemptionDetection sentAt }
  | .detected _ detectedAt =>
      let detected :=
        closeOrRecordUnmeasured operation.stages .redemptionDetection detectedAt .succeeded
      { operation with stages := openOnce detected .redemptionCompletion detectedAt }
  | .completed completedAt =>
      { operation.complete completedAt with
        stages :=
          closeOrRecordUnmeasured operation.stages .redemptionCompletion completedAt .succeeded }
  | .providerCompletionRecovered _ recoveredAt =>
      let closed := operation.stages.closeOpenStages recoveredAt .succeeded
      { operation.complete recoveredAt with
        stages := recordUnmeasured (scrubFailed closed) .redemptionCompletion recoveredAt }
  | .operatorReconciled _ reconciledAt => operation.reconcile reconciledAt

end StoredOperation

/-! ## The read model -/

def mintObservedAt : TokenizedEquityMintEvent → Time
  | .mintRequested _ _ _ requestedAt => requestedAt
  | .mintRejected _ rejectedAt => rejectedAt
  | .mintAccepted _ _ acceptedAt => acceptedAt
  | .mintAcceptanceFailed _ failedAt | .wrappingFailed _ _ _ failedAt
  | .raindexDepositFailed _ failedAt => failedAt
  | .tokensReceived _ _ receivedAt => receivedAt
  | .wrapSubmitted _ submittedAt | .vaultDepositSubmitted _ submittedAt => submittedAt
  | .tokensWrapped _ _ wrappedAt _ => wrappedAt
  | .depositedIntoRaindex _ depositedAt => depositedAt
  | .providerCompletionRecovered _ _ _ _ _ recoveredAt => recoveredAt
  | .operatorReconciled _ reconciledAt => reconciledAt

def redemptionObservedAt : EquityRedemptionEvent → Time
  | .vaultWithdrawPending _ _ _ _ pendingAt | .unwrapPending pendingAt
  | .sendPending pendingAt => pendingAt
  | .vaultWithdrawSubmitted _ _ _ _ _ submittedAt | .unwrapSubmitted _ submittedAt => submittedAt
  | .withdrawnFromRaindex _ _ _ _ _ _ _ withdrawnAt => withdrawnAt
  | .tokensUnwrapped _ _ _ _ _ unwrappedAt => unwrappedAt
  | .transferFailed _ _ failedAt | .detectionFailed _ failedAt => failedAt
  | .tokensSent _ _ sentAt => sentAt
  | .detected _ detectedAt => detectedAt
  | .redemptionRejected _ rejectedAt => rejectedAt
  | .completed completedAt => completedAt
  | .providerCompletionRecovered _ recoveredAt => recoveredAt
  | .operatorReconciled _ reconciledAt => reconciledAt

/-- An event of either direction. -/
inductive EquityEvent where
  | mint (event : TokenizedEquityMintEvent)
  | redemption (event : EquityRedemptionEvent)
  deriving DecidableEq

def EquityEvent.kind : EquityEvent → StoredKind
  | .mint _ => .mint
  | .redemption _ => .redeem

def EquityEvent.observedAt : EquityEvent → Time
  | .mint event => mintObservedAt event
  | .redemption event => redemptionObservedAt event

def StoredOperation.apply (operation : StoredOperation) (event : EquityEvent)
    (sequence : Option Nat) : StoredOperation :=
  match event with
  | .mint event => operation.applyMint event
  | .redemption event => operation.applyRedemption event sequence

/-- The read model. Identifiers are kept as their texts. -/
def timingProjection : TimingProjection String EquityEvent StoredOperation where
  idText := id
  new := fun operationId event => .new operationId event.kind event.observedAt
  apply := StoredOperation.apply
  operationId := StoredOperation.operationId
  firstSeenAt := StoredOperation.firstSeenAt

end Liquidity.Performance.Equity
