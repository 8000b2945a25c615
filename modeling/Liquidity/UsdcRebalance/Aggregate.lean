import Liquidity.EventSourcing.Aggregate
import Liquidity.OffchainOrder.Aggregate

/-!
# The USDC rebalance aggregate

One aggregate for each transfer of cash between the broker and the market
making venue. An AlpacaToBase transfer converts, withdraws, bridges and
deposits; a BaseToAlpaca transfer withdraws, bridges, deposits and converts.
Both directions share one state machine, and a state carries exactly what its
resume path needs.

Two states are intents. `withdrawalSubmitting` and `bridgingSubmitting` are
stored before the onchain call they announce, with the chain head at that time,
so that a resume can look for a call that was made but never recorded.
-/

namespace Liquidity

open EventSourcing

inductive RebalanceDirection where
  | alpacaToBase
  | baseToAlpaca
  deriving DecidableEq, Repr

/-- Identifier of one rebalance, a UUID. -/
structure UsdcRebalanceId where
  uuid : Nat
  deriving DecidableEq, Repr

/-- What identifies a withdrawal or a deposit at the venue that executes it. -/
inductive TransferRef where
  | alpacaId (id : Nat)
  | onchainTx (tx : TxHash)
  deriving DecidableEq, Repr

/-- What a conversion sold and what it received for it. -/
structure ConversionAmounts where
  sourceAmount : Usdc
  receivedAmount : Usdc
  deriving DecidableEq

inductive ReconcileReason where
  | fundsMovedManually
  | depositCreditedOffline
  deriving DecidableEq, Repr

inductive UsdcRebalance where
  | converting (direction : RebalanceDirection) (amount : Usdc) (orderId : ClientOrderId)
      (initiatedAt : Time)
  | conversionComplete (direction : RebalanceDirection) (amount : Usdc)
      (conversion : ConversionAmounts) (initiatedAt convertedAt : Time)
  | conversionFailed (direction : RebalanceDirection) (amount : Usdc) (orderId : ClientOrderId)
      (reason : String) (initiatedAt failedAt : Time)
  | withdrawalSubmitting (direction : RebalanceDirection) (amount : Usdc) (fromBlock : Nat)
      (initiatedAt : Time)
  | withdrawing (direction : RebalanceDirection) (amount : Usdc) (withdrawalRef : TransferRef)
      (initiatedAt : Time)
  | withdrawalComplete (direction : RebalanceDirection) (amount : Usdc)
      (initiatedAt confirmedAt : Time) (withdrawalTx : Option TxHash)
  | withdrawalFailed (direction : RebalanceDirection) (amount : Usdc) (withdrawalRef : TransferRef)
      (reason : String) (initiatedAt failedAt : Time)
  | bridgingSubmitting (direction : RebalanceDirection) (amount : Usdc) (fromBlock : Nat)
      (initiatedAt : Time) (burnAmount : Option Usdc) (pendingBurnTx : Option TxHash)
  | bridging (direction : RebalanceDirection) (amount : Usdc) (burnTxHash : TxHash)
      (initiatedAt burnedAt : Time)
  | awaitingAttestation (direction : RebalanceDirection) (amount : Usdc) (burnTxHash : TxHash)
      (initiatedAt timedOutAt retryDeadlineAt : Time)
  | attested (direction : RebalanceDirection) (amount : Usdc) (burnTxHash : TxHash)
      (cctpNonce : Nat) (attestation : List UInt8) (message : Option (List UInt8))
      (mintScanFromBlock : Option Nat) (initiatedAt attestedAt : Time)
  | bridged (direction : RebalanceDirection) (amount amountReceived feeCollected : Usdc)
      (burnTxHash mintTxHash : TxHash) (initiatedAt mintedAt : Time)
  | bridgingFailed (direction : RebalanceDirection) (amount : Usdc) (burnTxHash : Option TxHash)
      (cctpNonce : Option Nat) (reason : String) (initiatedAt failedAt : Time)
  | depositInitiated (direction : RebalanceDirection) (amount : Usdc)
      (burnTxHash mintTxHash : TxHash) (depositRef : TransferRef)
      (initiatedAt depositInitiatedAt : Time)
  | depositConfirmed (direction : RebalanceDirection) (amount : Usdc)
      (burnTxHash mintTxHash : TxHash) (initiatedAt depositConfirmedAt : Time)
  | depositFailed (direction : RebalanceDirection) (amount : Usdc) (burnTxHash mintTxHash : TxHash)
      (depositRef : Option TransferRef) (reason : String) (initiatedAt failedAt : Time)
  | reconciled (direction : RebalanceDirection) (amount : Usdc) (reason : ReconcileReason)
      (failureReason : Option String) (initiatedAt reconciledAt : Time)
  deriving DecidableEq

inductive UsdcRebalanceEvent where
  | conversionInitiated (direction : RebalanceDirection) (amount : Usdc) (orderId : ClientOrderId)
      (initiatedAt : Time)
  | conversionConfirmed (direction : RebalanceDirection) (conversion : ConversionAmounts)
      (convertedAt : Time)
  | conversionFailed (reason : String) (failedAt : Time)
  | withdrawalSubmitting (direction : RebalanceDirection) (amount : Usdc) (fromBlock : Nat)
      (submittingAt : Time)
  | initiated (direction : RebalanceDirection) (amount : Usdc) (withdrawalRef : TransferRef)
      (initiatedAt : Time)
  | withdrawalConfirmed (confirmedAt : Time) (withdrawalTx : Option TxHash)
  | withdrawalFailed (reason : String) (failedAt : Time)
  | bridgingSubmitting (fromBlock : Nat) (submittingAt : Time) (burnAmount : Option Usdc)
  | bridgingInitiated (burnTxHash : TxHash) (burnedAt : Time)
  | pendingBurnRecorded (burnTx : TxHash) (recordedAt : Time)
  | pendingBurnCleared (clearedAt : Time)
  | bridgeAttestationReceived (attestation : List UInt8) (cctpNonce : Nat)
      (message : Option (List UInt8)) (mintScanFromBlock : Option Nat) (attestedAt : Time)
  | attestationTimedOut (burnTxHash : TxHash) (retryDeadlineAt timedOutAt : Time)
  | bridged (mintTxHash : TxHash) (amountReceived feeCollected : Usdc) (mintedAt : Time)
  | bridgingFailed (burnTxHash : Option TxHash) (cctpNonce : Option Nat) (reason : String)
      (failedAt : Time)
  | bridgingCompletionRecovered (mintTxHash : TxHash) (amountReceived feeCollected : Usdc)
      (recoveredAt : Time)
  | depositInitiated (depositRef : TransferRef) (depositInitiatedAt : Time)
  | depositConfirmed (direction : RebalanceDirection) (depositConfirmedAt : Time)
  | depositFailed (depositRef : Option TransferRef) (reason : String) (failedAt : Time)
  | operatorReconciled (direction : RebalanceDirection) (amount : Usdc) (reason : ReconcileReason)
      (initiatedAt reconciledAt : Time)
  deriving DecidableEq

inductive UsdcRebalanceCommand where
  | initiateConversion (direction : RebalanceDirection) (amount : Usdc) (orderId : ClientOrderId)
  | confirmConversion (conversion : ConversionAmounts)
  | failConversion (reason : String)
  | initiatePostDepositConversion (orderId : ClientOrderId) (amount : Usdc)
  | beginWithdrawal (direction : RebalanceDirection) (amount : Usdc) (fromBlock : Nat)
  | initiate (direction : RebalanceDirection) (amount : Usdc) (withdrawal : TransferRef)
  | confirmWithdrawal (withdrawalTx : Option TxHash)
  | failWithdrawal (reason : String)
  | beginBridging (fromBlock : Nat) (burnAmount : Option Usdc)
  | initiateBridging (burnTx : TxHash)
  | recordPendingBurn (burnTx : TxHash)
  | clearPendingBurn
  | receiveAttestation (attestation : List UInt8) (cctpNonce : Nat) (message : List UInt8)
      (mintScanFromBlock : Nat)
  | timeoutAttestation (retryDeadlineAt : Time)
  | confirmBridging (mintTx : TxHash) (amountReceived feeCollected : Usdc)
  | failBridging (reason : String)
  | recoverBridging (mintTx : TxHash) (amountReceived feeCollected : Usdc)
  | initiateDeposit (deposit : TransferRef)
  | confirmDeposit
  | failDeposit (reason : String)
  | reconcileStuckRebalance (reason : ReconcileReason)
  deriving DecidableEq

/-- How an error names the state it met: by a fixed text, by the two amounts
that differ, or by the debug rendering of the whole state. -/
inductive StateText where
  | text (value : String)
  | amountMismatch (value : String) (expected got : Usdc)
  | debug (state : UsdcRebalance)
  deriving DecidableEq

inductive UsdcRebalanceError where
  | alreadyInitiated
  | conversionNotInitiated
  | conversionAlreadyCompleted
  | depositNotConfirmed
  | wrongDirectionForPostDepositConversion
  | conversionAmountMismatch (expected provided : Usdc)
  | withdrawalNotInitiated
  | withdrawalAlreadyCompleted
  | withdrawalNotConfirmed
  | invalidBurnAmount (burnAmount nominal : Usdc)
  | bridgingNotInitiated
  | attestationNotReceived
  | bridgingAlreadyCompleted
  | burnAlreadyRecorded
  | bridgingAlreadyStarted
  | bridgingNotCompleted
  | depositNotInitiated
  | invalidCommand (command : String) (state : StateText)
  deriving DecidableEq

/-- The name of a state without its data. -/
inductive Phase where
  | converting
  | conversionComplete
  | conversionFailed
  | withdrawalSubmitting
  | withdrawing
  | withdrawalComplete
  | withdrawalFailed
  | bridgingSubmitting
  | bridging
  | awaitingAttestation
  | attested
  | bridged
  | bridgingFailed
  | depositInitiated
  | depositConfirmed
  | depositFailed
  | reconciled
  deriving DecidableEq, Repr

namespace UsdcRebalance

def phase : UsdcRebalance → Phase
  | .converting .. => .converting
  | .conversionComplete .. => .conversionComplete
  | .conversionFailed .. => .conversionFailed
  | .withdrawalSubmitting .. => .withdrawalSubmitting
  | .withdrawing .. => .withdrawing
  | .withdrawalComplete .. => .withdrawalComplete
  | .withdrawalFailed .. => .withdrawalFailed
  | .bridgingSubmitting .. => .bridgingSubmitting
  | .bridging .. => .bridging
  | .awaitingAttestation .. => .awaitingAttestation
  | .attested .. => .attested
  | .bridged .. => .bridged
  | .bridgingFailed .. => .bridgingFailed
  | .depositInitiated .. => .depositInitiated
  | .depositConfirmed .. => .depositConfirmed
  | .depositFailed .. => .depositFailed
  | .reconciled .. => .reconciled

def direction : UsdcRebalance → RebalanceDirection
  | .converting direction .. | .conversionComplete direction .. | .conversionFailed direction ..
  | .withdrawalSubmitting direction .. | .withdrawing direction ..
  | .withdrawalComplete direction .. | .withdrawalFailed direction ..
  | .bridgingSubmitting direction .. | .bridging direction .. | .awaitingAttestation direction ..
  | .attested direction .. | .bridged direction .. | .bridgingFailed direction ..
  | .depositInitiated direction .. | .depositConfirmed direction .. | .depositFailed direction ..
  | .reconciled direction .. => direction

/-- Whether a state keeps the single-rebalance guard when the guard is rebuilt. -/
def holdsRebalanceGuard : UsdcRebalance → Bool
  | .converting .. | .withdrawing .. | .withdrawalComplete .. | .withdrawalSubmitting ..
  | .bridgingSubmitting .. | .bridging .. | .awaitingAttestation .. | .attested .. | .bridged ..
  | .depositInitiated .. | .depositFailed .. => true
  | .conversionComplete direction .. => direction = .alpacaToBase
  | .bridgingFailed _ _ burnTxHash .. => burnTxHash.isSome
  | .depositConfirmed direction .. | .conversionFailed direction .. => direction = .baseToAlpaca
  | .withdrawalFailed .. | .reconciled .. => false

/-- A post-burn transfer that a job has to drive forward. -/
def resumablePostBurnTransfer : UsdcRebalance → Option (RebalanceDirection × Usdc)
  | .bridging direction amount .. | .awaitingAttestation direction amount ..
  | .attested direction amount .. => some (direction, amount)
  | .bridgingFailed .baseToAlpaca amount (some _) .. => some (.baseToAlpaca, amount)
  | _ => none

/-- The states whose tracking entry is rebuilt on startup: the guard-holding
failures that nothing re-arms. -/
def guardRecoveryTrackingData : UsdcRebalance → Option (RebalanceDirection × Usdc × Time)
  | .depositFailed direction amount _ _ _ _ _ failedAt => some (direction, amount, failedAt)
  | .conversionFailed .baseToAlpaca amount _ _ _ failedAt => some (.baseToAlpaca, amount, failedAt)
  | .bridgingFailed .alpacaToBase amount (some _) _ _ _ failedAt =>
      some (.alpacaToBase, amount, failedAt)
  | _ => none

/-- A transfer interrupted before its burn that startup puts back to work. -/
def isResumableMidFlightData : UsdcRebalance → Option (RebalanceDirection × Usdc)
  | .withdrawalSubmitting .baseToAlpaca amount .. => some (.baseToAlpaca, amount)
  | .withdrawing .alpacaToBase amount (.alpacaId _) .. => some (.alpacaToBase, amount)
  | .withdrawalComplete .alpacaToBase amount .. => some (.alpacaToBase, amount)
  | .bridgingSubmitting direction amount .. => some (direction, amount)
  | _ => none

/-! ## Events -/

def originate : UsdcRebalanceEvent → Option UsdcRebalance
  | .conversionInitiated direction amount orderId initiatedAt =>
      some (.converting direction amount orderId initiatedAt)
  | .withdrawalSubmitting direction amount fromBlock submittingAt =>
      some (.withdrawalSubmitting direction amount fromBlock submittingAt)
  | .initiated direction amount withdrawalRef initiatedAt =>
      some (.withdrawing direction amount withdrawalRef initiatedAt)
  | _ => none

def evolveInitiated (withdrawalRef : TransferRef) (initiatedAt : Time) :
    UsdcRebalance → Option UsdcRebalance
  | .withdrawalSubmitting direction amount _ _ =>
      some (.withdrawing direction amount withdrawalRef initiatedAt)
  | .conversionComplete direction _ conversion _ _ =>
      some (.withdrawing direction conversion.receivedAmount withdrawalRef initiatedAt)
  | _ => none

def evolveBridgingInitiated (burnTxHash : TxHash) (burnedAt : Time) :
    UsdcRebalance → Option UsdcRebalance
  | .bridgingSubmitting direction amount _ initiatedAt burnAmount _ =>
      some (.bridging direction (burnAmount.getD amount) burnTxHash initiatedAt burnedAt)
  | .withdrawalComplete direction amount initiatedAt _ _ =>
      some (.bridging direction amount burnTxHash initiatedAt burnedAt)
  | _ => none

/-- Set or clear the recorded hash of a broadcast burn. -/
def evolvePendingBurn (pendingBurnTx : Option TxHash) : UsdcRebalance → Option UsdcRebalance
  | .bridgingSubmitting direction amount fromBlock initiatedAt burnAmount _ =>
      some (.bridgingSubmitting direction amount fromBlock initiatedAt burnAmount pendingBurnTx)
  | _ => none

def evolveAttestation (attestation : List UInt8) (cctpNonce : Nat) (message : Option (List UInt8))
    (mintScanFromBlock : Option Nat) (attestedAt : Time) : UsdcRebalance → Option UsdcRebalance
  | .bridging direction amount burnTxHash initiatedAt _
  | .awaitingAttestation direction amount burnTxHash initiatedAt _ _ =>
      some (.attested direction amount burnTxHash cctpNonce attestation message mintScanFromBlock
        initiatedAt attestedAt)
  | _ => none

def evolveBridgingFailed (burnTxHash : Option TxHash) (cctpNonce : Option Nat) (reason : String)
    (failedAt : Time) : UsdcRebalance → Option UsdcRebalance
  | .withdrawalComplete direction amount initiatedAt _ _
  | .bridgingSubmitting direction amount _ initiatedAt _ _
  | .bridging direction amount _ initiatedAt _
  | .awaitingAttestation direction amount _ initiatedAt _ _
  | .attested direction amount _ _ _ _ _ initiatedAt _ =>
      some (.bridgingFailed direction amount burnTxHash cctpNonce reason initiatedAt failedAt)
  | _ => none

/-- The failure an operator can settle by hand: its message, if the state is one. -/
def reconcilable : UsdcRebalance → Option String
  | .depositFailed _ _ _ _ _ reason _ _ => some reason
  | .conversionFailed .baseToAlpaca _ _ reason _ _ => some reason
  | .bridgingFailed _ _ burnTxHash cctpNonce reason _ _ =>
      if burnTxHash.isSome || cctpNonce.isSome then some reason else none
  | _ => none

def evolveOperatorReconciled (direction : RebalanceDirection) (amount : Usdc)
    (reason : ReconcileReason) (initiatedAt reconciledAt : Time) (entity : UsdcRebalance) :
    Option UsdcRebalance :=
  entity.reconcilable.map fun failureReason =>
    .reconciled direction amount reason (some failureReason) initiatedAt reconciledAt

/-- The next state, if the event is one this state can take. -/
def next (entity : UsdcRebalance) : UsdcRebalanceEvent → Option UsdcRebalance
  | .conversionInitiated direction amount orderId _ =>
      match entity with
      | .depositConfirmed _ _ _ _ initiatedAt _ =>
          some (.converting direction amount orderId initiatedAt)
      | _ => none
  | .conversionConfirmed _ conversion convertedAt =>
      match entity with
      | .converting direction amount _ initiatedAt =>
          some (.conversionComplete direction amount conversion initiatedAt convertedAt)
      | _ => none
  | .conversionFailed reason failedAt =>
      match entity with
      | .converting direction amount orderId initiatedAt =>
          some (.conversionFailed direction amount orderId reason initiatedAt failedAt)
      | _ => none
  | .withdrawalSubmitting _ _ fromBlock _ =>
      match entity with
      | .conversionComplete direction _ conversion initiatedAt _ =>
          some (.withdrawalSubmitting direction conversion.receivedAmount fromBlock initiatedAt)
      | _ => none
  | .initiated _ _ withdrawalRef initiatedAt => evolveInitiated withdrawalRef initiatedAt entity
  | .withdrawalConfirmed confirmedAt withdrawalTx =>
      match entity with
      | .withdrawing direction amount _ initiatedAt =>
          some (.withdrawalComplete direction amount initiatedAt confirmedAt withdrawalTx)
      | _ => none
  | .withdrawalFailed reason failedAt =>
      match entity with
      | .withdrawing direction amount withdrawalRef initiatedAt =>
          some (.withdrawalFailed direction amount withdrawalRef reason initiatedAt failedAt)
      | _ => none
  | .bridgingSubmitting fromBlock _ burnAmount =>
      match entity with
      | .withdrawalComplete direction amount initiatedAt _ _ =>
          some (.bridgingSubmitting direction amount fromBlock initiatedAt burnAmount none)
      | _ => none
  | .bridgingInitiated burnTxHash burnedAt => evolveBridgingInitiated burnTxHash burnedAt entity
  | .pendingBurnRecorded burnTx _ => evolvePendingBurn (some burnTx) entity
  | .pendingBurnCleared _ => evolvePendingBurn none entity
  | .bridgeAttestationReceived attestation cctpNonce message mintScanFromBlock attestedAt =>
      evolveAttestation attestation cctpNonce message mintScanFromBlock attestedAt entity
  | .attestationTimedOut burnTxHash retryDeadlineAt timedOutAt =>
      match entity with
      | .bridging direction amount stateBurnTxHash initiatedAt _ =>
          if burnTxHash = stateBurnTxHash then
            some (.awaitingAttestation direction amount burnTxHash initiatedAt timedOutAt
              retryDeadlineAt)
          else none
      | _ => none
  | .bridged mintTxHash amountReceived feeCollected mintedAt =>
      match entity with
      | .attested direction amount burnTxHash _ _ _ _ initiatedAt _ =>
          some (.bridged direction amount amountReceived feeCollected burnTxHash mintTxHash
            initiatedAt mintedAt)
      | _ => none
  | .bridgingCompletionRecovered mintTxHash amountReceived feeCollected recoveredAt =>
      match entity with
      | .bridgingFailed direction amount (some burnTxHash) _ _ initiatedAt _ =>
          some (.bridged direction amount amountReceived feeCollected burnTxHash mintTxHash
            initiatedAt recoveredAt)
      | _ => none
  | .bridgingFailed burnTxHash cctpNonce reason failedAt =>
      evolveBridgingFailed burnTxHash cctpNonce reason failedAt entity
  | .depositInitiated depositRef depositInitiatedAt =>
      match entity with
      | .bridged direction _ amountReceived _ burnTxHash mintTxHash initiatedAt _ =>
          some (.depositInitiated direction amountReceived burnTxHash mintTxHash depositRef
            initiatedAt depositInitiatedAt)
      | _ => none
  | .depositConfirmed _ depositConfirmedAt =>
      match entity with
      | .depositInitiated direction amount burnTxHash mintTxHash _ initiatedAt _ =>
          some (.depositConfirmed direction amount burnTxHash mintTxHash initiatedAt
            depositConfirmedAt)
      | _ => none
  | .depositFailed depositRef reason failedAt =>
      match entity with
      | .depositInitiated direction amount burnTxHash mintTxHash _ initiatedAt _ =>
          some (.depositFailed direction amount burnTxHash mintTxHash depositRef reason initiatedAt
            failedAt)
      | _ => none
  | .operatorReconciled direction amount reason initiatedAt reconciledAt =>
      evolveOperatorReconciled direction amount reason initiatedAt reconciledAt entity

def evolve (entity : UsdcRebalance) (event : UsdcRebalanceEvent) :
    Except UsdcRebalanceError (Option UsdcRebalance) :=
  .ok (entity.next event)

/-! ## Commands -/

/-- Commands answer with the events they append. -/
abbrev Answer := Except UsdcRebalanceError (List UsdcRebalanceEvent)

/-- A fresh withdrawal intent is only for BaseToAlpaca: the other direction has
to convert first. -/
def beginWithdrawalInitEvents (direction : RebalanceDirection) (amount : Usdc) (fromBlock : Nat)
    (submittingAt : Time) : Answer :=
  if direction ≠ .baseToAlpaca then
    .error (.invalidCommand "BeginWithdrawal" (.text ("Uninitialized (fresh withdrawal is " ++
      "BaseToAlpaca-only; AlpacaToBase must convert before withdrawing)")))
  else .ok [.withdrawalSubmitting direction amount fromBlock submittingAt]

def initialise (now : Time) : UsdcRebalanceCommand → Answer
  | .initiateConversion direction amount orderId =>
      .ok [.conversionInitiated direction amount orderId now]
  | .beginWithdrawal direction amount fromBlock =>
      beginWithdrawalInitEvents direction amount fromBlock now
  | .initiate direction amount withdrawal => .ok [.initiated direction amount withdrawal now]
  | .confirmConversion _ | .failConversion _ => .error .conversionNotInitiated
  | .initiatePostDepositConversion _ _ => .error .depositNotConfirmed
  | .confirmWithdrawal _ | .failWithdrawal _ => .error .withdrawalNotInitiated
  | .beginBridging _ _ | .initiateBridging _ | .recordPendingBurn _ | .clearPendingBurn =>
      .error .withdrawalNotConfirmed
  | .receiveAttestation _ _ _ _ | .timeoutAttestation _ | .failBridging _
  | .recoverBridging _ _ _ => .error .bridgingNotInitiated
  | .confirmBridging _ _ _ => .error .attestationNotReceived
  | .initiateDeposit _ => .error .bridgingNotCompleted
  | .confirmDeposit | .failDeposit _ => .error .depositNotInitiated
  | .reconcileStuckRebalance _ =>
      .error (.invalidCommand "ReconcileStuckRebalance" (.text "Uninitialized"))

def conversionError (entity : UsdcRebalance) : UsdcRebalanceError :=
  match entity.phase with
  | .conversionComplete | .conversionFailed => .conversionAlreadyCompleted
  | _ => .conversionNotInitiated

def transitionConfirmConversion (entity : UsdcRebalance) (conversion : ConversionAmounts)
    (convertedAt : Time) : Answer :=
  match entity with
  | .converting direction .. => .ok [.conversionConfirmed direction conversion convertedAt]
  | other => .error other.conversionError

def transitionFailConversion (entity : UsdcRebalance) (reason : String) (now : Time) : Answer :=
  match entity with
  | .converting .. => .ok [.conversionFailed reason now]
  | other => .error other.conversionError

def transitionPostDepositConversion (entity : UsdcRebalance) (orderId : ClientOrderId)
    (commandAmount : Usdc) (initiatedAt : Time) : Answer :=
  match entity with
  | .depositConfirmed direction amount .. =>
      if direction ≠ .baseToAlpaca then .error .wrongDirectionForPostDepositConversion
      else if commandAmount ≠ amount then .error (.conversionAmountMismatch amount commandAmount)
      else .ok [.conversionInitiated direction amount orderId initiatedAt]
  | _ => .error .depositNotConfirmed

def transitionBeginWithdrawal (entity : UsdcRebalance) (direction : RebalanceDirection)
    (amount : Usdc) (fromBlock : Nat) (submittingAt : Time) : Answer :=
  match entity with
  | .conversionComplete convDirection _ conversion .. =>
      if direction ≠ convDirection then
        .error (.invalidCommand "BeginWithdrawal"
          (.text "ConversionComplete with different direction"))
      else if amount ≠ conversion.receivedAmount then
        .error (.invalidCommand "BeginWithdrawal"
          (.amountMismatch "ConversionComplete with amount mismatch" conversion.receivedAmount
            amount))
      else .ok [.withdrawalSubmitting direction conversion.receivedAmount fromBlock submittingAt]
  | _ => .error .alreadyInitiated

/-- What the withdrawal has to match in a state that admits one. -/
def withdrawalEntry : UsdcRebalance → Option (RebalanceDirection × Usdc)
  | .withdrawalSubmitting direction amount .. => some (direction, amount)
  | .conversionComplete direction _ conversion .. => some (direction, conversion.receivedAmount)
  | _ => none

def transitionInitiateWithdrawal (entity : UsdcRebalance) (direction : RebalanceDirection)
    (amount : Usdc) (withdrawal : TransferRef) (initiatedAt : Time) : Answer :=
  match entity.withdrawalEntry with
  | none => .error .alreadyInitiated
  | some (expectedDirection, expectedAmount) =>
      if direction ≠ expectedDirection then
        .error (.invalidCommand "Initiate"
          (.text "withdrawal entry state with different direction"))
      else if amount ≠ expectedAmount then
        .error (.invalidCommand "Initiate"
          (.amountMismatch "withdrawal entry state with amount mismatch" expectedAmount amount))
      else .ok [.initiated direction expectedAmount withdrawal initiatedAt]

/-- A reconciled transfer counts as one whose withdrawal never began. -/
def withdrawalError (entity : UsdcRebalance) : UsdcRebalanceError :=
  match entity.phase with
  | .withdrawalComplete | .bridgingSubmitting | .withdrawalFailed | .bridging
  | .awaitingAttestation | .attested | .bridged | .bridgingFailed | .depositInitiated
  | .depositConfirmed | .depositFailed => .withdrawalAlreadyCompleted
  | _ => .withdrawalNotInitiated

def transitionConfirmWithdrawal (entity : UsdcRebalance) (withdrawalTx : Option TxHash)
    (confirmedAt : Time) : Answer :=
  match entity with
  | .withdrawing .. => .ok [.withdrawalConfirmed confirmedAt withdrawalTx]
  | other => .error other.withdrawalError

def transitionFailWithdrawal (entity : UsdcRebalance) (reason : String) (now : Time) : Answer :=
  match entity with
  | .withdrawing .. => .ok [.withdrawalFailed reason now]
  | other => .error other.withdrawalError

/-- The states before a withdrawal is known to have completed. -/
def beforeWithdrawn (entity : UsdcRebalance) : Bool :=
  match entity.phase with
  | .converting | .conversionComplete | .conversionFailed | .withdrawalSubmitting | .withdrawing
  | .withdrawalFailed => true
  | _ => false

/-- The actual burn has to be in `(0, nominal]`. -/
def burnAmountOutOfRange (burnAmount nominal : Usdc) : Bool := burnAmount = 0 || nominal < burnAmount

def transitionBeginBridging (entity : UsdcRebalance) (fromBlock : Nat) (burnAmount : Option Usdc)
    (submittingAt : Time) : Answer :=
  match entity with
  | .withdrawalComplete _ amount .. =>
      match burnAmount with
      | some burn =>
          if burnAmountOutOfRange burn amount then .error (.invalidBurnAmount burn amount)
          else .ok [.bridgingSubmitting fromBlock submittingAt (some burn)]
      | none => .ok [.bridgingSubmitting fromBlock submittingAt none]
  | other =>
      if other.beforeWithdrawn then .error .withdrawalNotConfirmed
      else .error (.invalidCommand "BeginBridging" (.text "bridging already started"))

def transitionInitiateBridging (entity : UsdcRebalance) (burnTx : TxHash) (burnedAt : Time) :
    Answer :=
  match entity with
  | .withdrawalComplete .. | .bridgingSubmitting .. => .ok [.bridgingInitiated burnTx burnedAt]
  | other =>
      if other.beforeWithdrawn then .error .withdrawalNotConfirmed
      else .error (.invalidCommand "InitiateBridging" (.text "Bridging"))

/-- A pending burn is only kept in `bridgingSubmitting`. -/
def pendingBurnError (entity : UsdcRebalance) : UsdcRebalanceError :=
  if entity.beforeWithdrawn || entity.phase = .withdrawalComplete then .withdrawalNotConfirmed
  else .bridgingAlreadyStarted

def transitionRecordPendingBurn (entity : UsdcRebalance) (burnTx : TxHash) (now : Time) : Answer :=
  match entity with
  | .bridgingSubmitting .. => .ok [.pendingBurnRecorded burnTx now]
  | other => .error other.pendingBurnError

def transitionClearPendingBurn (entity : UsdcRebalance) (now : Time) : Answer :=
  match entity with
  | .bridgingSubmitting _ _ _ _ _ (some _) => .ok [.pendingBurnCleared now]
  | .bridgingSubmitting _ _ _ _ _ none => .ok []
  | other => .error other.pendingBurnError

/-- The states in which no burn is recorded as made. -/
def beforeBridging (entity : UsdcRebalance) : Bool :=
  entity.beforeWithdrawn || entity.phase = .withdrawalComplete || entity.phase = .bridgingSubmitting

def transitionReceiveAttestation (entity : UsdcRebalance) (attestation : List UInt8)
    (cctpNonce : Nat) (message : List UInt8) (mintScanFromBlock : Nat) (attestedAt : Time) :
    Answer :=
  match entity with
  | .bridging .. | .awaitingAttestation .. =>
      .ok [.bridgeAttestationReceived attestation cctpNonce (some message)
        (some mintScanFromBlock) attestedAt]
  | .attested .. => .error (.invalidCommand "ReceiveAttestation" (.text "Attested"))
  | other =>
      if other.beforeBridging then .error .bridgingNotInitiated
      else .error .bridgingAlreadyCompleted

def transitionTimeoutAttestation (entity : UsdcRebalance) (retryDeadlineAt now : Time) : Answer :=
  match entity with
  | .bridging _ _ burnTxHash .. => .ok [.attestationTimedOut burnTxHash retryDeadlineAt now]
  | .awaitingAttestation .. =>
      .error (.invalidCommand "TimeoutAttestation" (.text "AwaitingAttestation"))
  | .attested .. => .error (.invalidCommand "TimeoutAttestation" (.text "Attested"))
  | other =>
      if other.beforeBridging then .error .bridgingNotInitiated
      else .error .bridgingAlreadyCompleted

def transitionConfirmBridging (entity : UsdcRebalance) (mintTx : TxHash)
    (amountReceived feeCollected : Usdc) (mintedAt : Time) : Answer :=
  match entity with
  | .attested .. => .ok [.bridged mintTx amountReceived feeCollected mintedAt]
  | .bridging .. | .awaitingAttestation .. => .error .attestationNotReceived
  | other =>
      if other.beforeBridging then .error .attestationNotReceived
      else .error .bridgingAlreadyCompleted

/-- A bridge whose burn was broadcast cannot be failed as one that was not. -/
def transitionFailBridging (entity : UsdcRebalance) (reason : String) (now : Time) : Answer :=
  match entity with
  | .bridgingSubmitting _ _ _ _ _ (some _) => .error .burnAlreadyRecorded
  | .withdrawalComplete .. | .bridgingSubmitting _ _ _ _ _ none =>
      .ok [.bridgingFailed none none reason now]
  | .bridging _ _ burnTxHash .. | .awaitingAttestation _ _ burnTxHash .. =>
      .ok [.bridgingFailed (some burnTxHash) none reason now]
  | .attested _ _ burnTxHash cctpNonce .. =>
      .ok [.bridgingFailed (some burnTxHash) (some cctpNonce) reason now]
  | other =>
      if other.beforeBridging then .error .bridgingNotInitiated
      else .error .bridgingAlreadyCompleted

def transitionRecoverBridging (entity : UsdcRebalance) (mintTx : TxHash)
    (amountReceived feeCollected : Usdc) (now : Time) : Answer :=
  match entity with
  | .bridgingFailed _ _ (some _) .. =>
      .ok [.bridgingCompletionRecovered mintTx amountReceived feeCollected now]
  | .bridgingFailed _ _ none .. =>
      .error (.invalidCommand "RecoverBridging"
        (.text "BridgingFailed (pre-burn: no mint to recover)"))
  | _ =>
      .error (.invalidCommand "RecoverBridging" (.text ("non-failed (RecoverBridging is only " ++
        "valid from a post-burn BridgingFailed)")))

def transitionInitiateDeposit (entity : UsdcRebalance) (deposit : TransferRef)
    (depositInitiatedAt : Time) : Answer :=
  match entity with
  | .bridged .. => .ok [.depositInitiated deposit depositInitiatedAt]
  | other =>
      match other.phase with
      | .depositInitiated | .depositConfirmed | .depositFailed | .reconciled =>
          .error (.invalidCommand "InitiateDeposit" (.debug other))
      | _ => .error .bridgingNotCompleted

/-- Confirming and failing a deposit are refused alike. -/
def depositError (entity : UsdcRebalance) (command : String) : UsdcRebalanceError :=
  match entity.phase with
  | .depositConfirmed | .depositFailed | .reconciled => .invalidCommand command (.debug entity)
  | _ => .depositNotInitiated

def transitionConfirmDeposit (entity : UsdcRebalance) (depositConfirmedAt : Time) : Answer :=
  match entity with
  | .depositInitiated direction .. => .ok [.depositConfirmed direction depositConfirmedAt]
  | other => .error (other.depositError "ConfirmDeposit")

def transitionFailDeposit (entity : UsdcRebalance) (reason : String) (now : Time) : Answer :=
  match entity with
  | .depositInitiated _ _ _ _ depositRef .. => .ok [.depositFailed (some depositRef) reason now]
  | other => .error (other.depositError "FailDeposit")

def transitionReconcileStuckRebalance (entity : UsdcRebalance) (reason : ReconcileReason)
    (now : Time) : Answer :=
  match entity with
  | .depositFailed direction amount _ _ _ _ initiatedAt _
  | .conversionFailed direction@.baseToAlpaca amount _ _ initiatedAt _ =>
      .ok [.operatorReconciled direction amount reason initiatedAt now]
  | .bridgingFailed direction amount burnTxHash cctpNonce _ initiatedAt _ =>
      if burnTxHash.isSome || cctpNonce.isSome then
        .ok [.operatorReconciled direction amount reason initiatedAt now]
      else .error (.invalidCommand "ReconcileStuckRebalance" (.debug entity))
  | other => .error (.invalidCommand "ReconcileStuckRebalance" (.debug other))

def transition (now : Time) (entity : UsdcRebalance) : UsdcRebalanceCommand → Answer
  | .initiateConversion _ _ _ => .error .alreadyInitiated
  | .confirmConversion conversion => entity.transitionConfirmConversion conversion now
  | .failConversion reason => entity.transitionFailConversion reason now
  | .initiatePostDepositConversion orderId amount =>
      entity.transitionPostDepositConversion orderId amount now
  | .beginWithdrawal direction amount fromBlock =>
      entity.transitionBeginWithdrawal direction amount fromBlock now
  | .initiate direction amount withdrawal =>
      entity.transitionInitiateWithdrawal direction amount withdrawal now
  | .confirmWithdrawal withdrawalTx => entity.transitionConfirmWithdrawal withdrawalTx now
  | .failWithdrawal reason => entity.transitionFailWithdrawal reason now
  | .beginBridging fromBlock burnAmount => entity.transitionBeginBridging fromBlock burnAmount now
  | .initiateBridging burnTx => entity.transitionInitiateBridging burnTx now
  | .recordPendingBurn burnTx => entity.transitionRecordPendingBurn burnTx now
  | .clearPendingBurn => entity.transitionClearPendingBurn now
  | .receiveAttestation attestation cctpNonce message mintScanFromBlock =>
      entity.transitionReceiveAttestation attestation cctpNonce message mintScanFromBlock now
  | .timeoutAttestation retryDeadlineAt => entity.transitionTimeoutAttestation retryDeadlineAt now
  | .confirmBridging mintTx amountReceived feeCollected =>
      entity.transitionConfirmBridging mintTx amountReceived feeCollected now
  | .failBridging reason => entity.transitionFailBridging reason now
  | .recoverBridging mintTx amountReceived feeCollected =>
      entity.transitionRecoverBridging mintTx amountReceived feeCollected now
  | .initiateDeposit deposit => entity.transitionInitiateDeposit deposit now
  | .confirmDeposit => entity.transitionConfirmDeposit now
  | .failDeposit reason => entity.transitionFailDeposit reason now
  | .reconcileStuckRebalance reason => entity.transitionReconcileStuckRebalance reason now

/-- The aggregate. Its handlers read nothing but the clock. -/
def aggregate :
    Aggregate UsdcRebalance UsdcRebalanceEvent UsdcRebalanceCommand UsdcRebalanceError Time where
  originate := originate
  evolve := evolve
  initialise := initialise
  transition := transition

end UsdcRebalance

end Liquidity
