import Liquidity.EventSourcing.Aggregate
import Liquidity.Tokenization

/-!
# The equity redemption aggregate

One aggregate for each transfer of shares from the market making venue to the
broker. Wrapped tokens are withdrawn from the vault, unwrapped and sent to the
issuer's redemption wallet; the issuer detects the transfer and credits the
account.

Each of the three onchain calls has a pending state before it and, but for the
last, a submitted state after it. The call is made by the command handler, and
its event is stored once the handler has returned.
-/

namespace Liquidity

open EventSourcing

/-- Why a transfer to the redemption wallet was given up on. -/
inductive DetectionFailure where
  | timeout
  | apiError (statusCode : Option Nat)
  | operator (reason : String)
  deriving DecidableEq, Repr

def DetectionFailure.reason : DetectionFailure → Option String
  | .operator reason => some reason
  | .timeout => none
  | .apiError _ => none

namespace EquityRedemption

structure Withdrawing where
  symbol : Symbol
  quantity : FractionalShares
  token : EvmAddress
  wrappedAmount : Nat
  deriving DecidableEq

structure Withdrawn extends Withdrawing where
  raindexWithdrawTx : TxHash
  /-- Redemptions stored before the block was have none. -/
  raindexWithdrawBlock : Option Nat
  withdrawnAt : Time
  deriving DecidableEq

structure Unwrapped where
  symbol : Symbol
  quantity : FractionalShares
  token : EvmAddress
  underlyingToken : EvmAddress
  raindexWithdrawTx : TxHash
  unwrapTxHash : TxHash
  unwrappedAmount : Nat
  unwrapBlock : Option Nat
  withdrawnAt : Time
  unwrappedAt : Time
  deriving DecidableEq

end EquityRedemption

open EquityRedemption in
inductive EquityRedemption where
  | vaultWithdrawPending (request : Withdrawing) (pendingAt : Time)
  | vaultWithdrawSubmitted (request : Withdrawing) (txHash : TxHash) (submittedAt : Time)
  | withdrawnFromRaindex (request : Withdrawn)
  | unwrapPending (request : Withdrawn)
  | unwrapSubmitted (request : Withdrawn) (unwrapTxHash : TxHash)
  | tokensUnwrapped (request : Unwrapped)
  | sendPending (request : Unwrapped)
  | tokensSent (symbol : Symbol) (quantity : FractionalShares) (token : EvmAddress)
      (raindexWithdrawTx : TxHash) (unwrapTxHash : Option TxHash) (redemptionWallet : EvmAddress)
      (redemptionTx : TxHash) (sentAt : Time)
  | pending (symbol : Symbol) (quantity : FractionalShares) (redemptionTx : TxHash)
      (tokenizationRequestId : TokenizationRequestId) (sentAt detectedAt : Time)
  | completed (symbol : Symbol) (quantity : FractionalShares) (redemptionTx : TxHash)
      (tokenizationRequestId : TokenizationRequestId) (startedAt completedAt : Time)
  /-- What is known of the transactions depends on when it failed. -/
  | failed (symbol : Symbol) (quantity : FractionalShares)
      (raindexWithdrawTx redemptionTx : Option TxHash)
      (tokenizationRequestId : Option TokenizationRequestId) (reason : Option String)
      (startedAt failedAt : Time)
  | reconciled (symbol : Symbol) (quantity : FractionalShares)
      (raindexWithdrawTx redemptionTx : Option TxHash)
      (tokenizationRequestId : Option TokenizationRequestId) (failureReason : Option String)
      (reconcileReason : String) (startedAt reconciledAt : Time)
  deriving DecidableEq

inductive EquityRedemptionEvent where
  | vaultWithdrawPending (symbol : Symbol) (quantity : FractionalShares) (token : EvmAddress)
      (wrappedAmount : Nat) (pendingAt : Time)
  | vaultWithdrawSubmitted (symbol : Symbol) (quantity : FractionalShares) (token : EvmAddress)
      (wrappedAmount : Nat) (txHash : TxHash) (submittedAt : Time)
  | withdrawnFromRaindex (symbol : Symbol) (quantity : FractionalShares) (token : EvmAddress)
      (wrappedAmount : Nat) (actualWrappedAmount : Option Nat) (raindexWithdrawTx : TxHash)
      (raindexWithdrawBlock : Option Nat) (withdrawnAt : Time)
  | tokensUnwrapped (quantity : Option FractionalShares) (underlyingToken : EvmAddress)
      (unwrapTxHash : TxHash) (unwrappedAmount : Nat) (unwrapBlock : Option Nat)
      (unwrappedAt : Time)
  | unwrapPending (pendingAt : Time)
  | unwrapSubmitted (unwrapTxHash : TxHash) (submittedAt : Time)
  | sendPending (pendingAt : Time)
  | transferFailed (txHash : Option TxHash) (reason : Option String) (failedAt : Time)
  | tokensSent (redemptionWallet : EvmAddress) (redemptionTx : TxHash) (sentAt : Time)
  | detectionFailed (failure : DetectionFailure) (failedAt : Time)
  | detected (tokenizationRequestId : TokenizationRequestId) (detectedAt : Time)
  | redemptionRejected (reason : String) (rejectedAt : Time)
  | completed (completedAt : Time)
  | providerCompletionRecovered (tokenizationRequestId : TokenizationRequestId)
      (recoveredAt : Time)
  | operatorReconciled (reason : String) (reconciledAt : Time)
  deriving DecidableEq

inductive EquityRedemptionCommand where
  | redeem (symbol : Symbol) (quantity : FractionalShares) (token : EvmAddress) (amount : Nat)
  | submitWithdraw
  | confirmWithdraw
  | unwrapTokens
  | submitUnwrap
  | confirmUnwrap
  | prepareSend
  | sendTokens
  | detect (tokenizationRequestId : TokenizationRequestId)
  | failDetection (failure : DetectionFailure)
  | complete
  | rejectRedemption (reason : String)
  | recoverProviderCompletion (tokenizationRequestId : TokenizationRequestId)
  | failTransfer (reason : String)
  | reconcile (reason : String)
  deriving DecidableEq

inductive EquityRedemptionError where
  | raindexVaultNotFound (token : EvmAddress)
  | raindexWithdrawFailed (token : EvmAddress) (amount : Nat) (errorMessage : String)
  | raindexWithdrawTransferNotFound (txHash : TxHash) (token recipient : EvmAddress)
  | raindexWithdrawTransferOverflow (txHash : TxHash)
  | raindexWithdrawTransferDecodeFailed (txHash : TxHash) (token : EvmAddress)
  | raindexWithdrawQuantityConversionFailed (txHash : TxHash) (amount : Nat)
      (errorMessage : String)
  | unwrapFailed (token : EvmAddress) (wrappedAmount : Nat) (errorMessage : String)
  | underlyingLookupFailed (symbol : Symbol) (errorMessage : String)
  | cannotUnwrapAlreadyStarted
  | tokensNotUnwrapped
  | tokensNotSent
  | notPending
  | notPendingForRejection
  | notStarted
  | alreadyStarted
  | alreadyDetected
  | alreadyCompleted
  | alreadyFailed
  | nodeSyncFailed (requiredBlock attempts : Nat)
  | missingWithdrawBlock (txHash : TxHash)
  | notFailed
  | alreadyReconciled
  | reconcileReasonRequired
  deriving DecidableEq

namespace EquityRedemption

/-- One log of a receipt, as far as a token transfer is looked for in it. -/
structure ReceiptLog where
  address : EvmAddress
  isTransfer : Bool
  /-- The recipient and the value, if the log decodes. -/
  decoded : Option (EvmAddress × Nat)
  deriving DecidableEq, Repr

structure TransactionReceipt where
  transactionHash : TxHash
  blockNumber : Option Nat
  logs : List ReceiptLog
  deriving DecidableEq, Repr

structure UnwrapConfirmation where
  assets : Nat
  block : Nat
  deriving DecidableEq, Repr

/-- What a command handler reads: the clock and the answers of the services it
may call. -/
structure Context where
  now : Time
  /-- The wallet the wrapper works for. -/
  owner : EvmAddress
  hasVaultFor : EvmAddress → Bool
  submitWithdraw : Except String TxHash
  confirmTxReceipt : Except String TransactionReceipt
  /-- Fails with the number of polls after which the node had not caught up. -/
  waitForBlock : Nat → Except Nat Unit
  submitUnwrap : Except String TxHash
  lookupUnderlying : Symbol → Except String EvmAddress
  confirmUnwrap : Except String UnwrapConfirmation
  fromFixedDecimal : Nat → Except String ℚ
  redemptionWallet : Option EvmAddress
  sendForRedemption : Except String TxHash

def symbol : EquityRedemption → Symbol
  | .vaultWithdrawPending request _ => request.symbol
  | .vaultWithdrawSubmitted request .. => request.symbol
  | .withdrawnFromRaindex request => request.symbol
  | .unwrapPending request => request.symbol
  | .unwrapSubmitted request _ => request.symbol
  | .tokensUnwrapped request => request.symbol
  | .sendPending request => request.symbol
  | .tokensSent symbol .. => symbol
  | .pending symbol .. => symbol
  | .completed symbol .. => symbol
  | .failed symbol .. => symbol
  | .reconciled symbol .. => symbol

def quantity : EquityRedemption → FractionalShares
  | .vaultWithdrawPending request _ => request.quantity
  | .vaultWithdrawSubmitted request .. => request.quantity
  | .withdrawnFromRaindex request => request.quantity
  | .unwrapPending request => request.quantity
  | .unwrapSubmitted request _ => request.quantity
  | .tokensUnwrapped request => request.quantity
  | .sendPending request => request.quantity
  | .tokensSent _ quantity .. => quantity
  | .pending _ quantity .. => quantity
  | .completed _ quantity .. => quantity
  | .failed _ quantity .. => quantity
  | .reconciled _ quantity .. => quantity

def isTerminal : EquityRedemption → Bool
  | .completed .. => true
  | .failed .. => true
  | .reconciled .. => true
  | .vaultWithdrawPending .. => false
  | .vaultWithdrawSubmitted .. => false
  | .withdrawnFromRaindex _ => false
  | .unwrapPending _ => false
  | .unwrapSubmitted .. => false
  | .tokensUnwrapped _ => false
  | .sendPending _ => false
  | .tokensSent .. => false
  | .pending .. => false

/-! ## Events -/

/-- What was really withdrawn, if it is known. -/
def resolveWithdrawnWrappedAmount (wrappedAmount : Nat) (actualWrappedAmount : Option Nat) : Nat :=
  actualWrappedAmount.getD wrappedAmount

def withdrawnState (symbol : Symbol) (quantity : FractionalShares) (token : EvmAddress)
    (wrappedAmount : Nat) (actualWrappedAmount : Option Nat) (raindexWithdrawTx : TxHash)
    (raindexWithdrawBlock : Option Nat) (withdrawnAt : Time) : EquityRedemption :=
  .withdrawnFromRaindex
    ⟨⟨symbol, quantity, token, resolveWithdrawnWrappedAmount wrappedAmount actualWrappedAmount⟩,
      raindexWithdrawTx, raindexWithdrawBlock, withdrawnAt⟩

/-- Aggregates from before the pending state existed start later. -/
def originate : EquityRedemptionEvent → Option EquityRedemption
  | .vaultWithdrawPending symbol quantity token wrappedAmount pendingAt =>
      some (.vaultWithdrawPending ⟨symbol, quantity, token, wrappedAmount⟩ pendingAt)
  | .vaultWithdrawSubmitted symbol quantity token wrappedAmount txHash submittedAt =>
      some (.vaultWithdrawSubmitted ⟨symbol, quantity, token, wrappedAmount⟩ txHash submittedAt)
  | .withdrawnFromRaindex symbol quantity token wrappedAmount actualWrappedAmount
      raindexWithdrawTx raindexWithdrawBlock withdrawnAt =>
      some (withdrawnState symbol quantity token wrappedAmount actualWrappedAmount
        raindexWithdrawTx raindexWithdrawBlock withdrawnAt)
  | _ => none

def nextTransferFailed (entity : EquityRedemption) (txHash : Option TxHash)
    (reason : Option String) (failedAt : Time) : Option EquityRedemption :=
  let failed (symbol : Symbol) (quantity : FractionalShares) (raindexWithdrawTx : Option TxHash)
      (startedAt : Time) : EquityRedemption :=
    .failed symbol quantity raindexWithdrawTx txHash none reason startedAt failedAt
  match entity with
  | .vaultWithdrawPending request pendingAt =>
      some (failed request.symbol request.quantity none pendingAt)
  | .vaultWithdrawSubmitted request _ submittedAt =>
      some (failed request.symbol request.quantity none submittedAt)
  | .withdrawnFromRaindex request | .unwrapPending request | .unwrapSubmitted request _ =>
      some (failed request.symbol request.quantity (some request.raindexWithdrawTx)
        request.withdrawnAt)
  | .tokensUnwrapped request | .sendPending request =>
      some (failed request.symbol request.quantity (some request.raindexWithdrawTx)
        request.withdrawnAt)
  | _ => none

def nextTokensUnwrapped (entity : EquityRedemption) (actualQuantity : Option FractionalShares)
    (underlyingToken : EvmAddress) (unwrapTxHash : TxHash) (unwrappedAmount : Nat)
    (unwrapBlock : Option Nat) (unwrappedAt : Time) : Option EquityRedemption :=
  let unwrapped (request : Withdrawn) : EquityRedemption :=
    .tokensUnwrapped ⟨request.symbol, actualQuantity.getD request.quantity, request.token,
      underlyingToken, request.raindexWithdrawTx, unwrapTxHash, unwrappedAmount, unwrapBlock,
      request.withdrawnAt, unwrappedAt⟩
  match entity with
  | .withdrawnFromRaindex request => some (unwrapped request)
  | .unwrapPending request => some (unwrapped request)
  | .unwrapSubmitted request _ => some (unwrapped request)
  | _ => none

def nextTokensSent (entity : EquityRedemption) (redemptionWallet : EvmAddress)
    (redemptionTx : TxHash) (sentAt : Time) : Option EquityRedemption :=
  let sent (request : Unwrapped) : EquityRedemption :=
    .tokensSent request.symbol request.quantity request.underlyingToken request.raindexWithdrawTx
      (some request.unwrapTxHash) redemptionWallet redemptionTx sentAt
  match entity with
  | .withdrawnFromRaindex request =>
      some (.tokensSent request.symbol request.quantity request.token request.raindexWithdrawTx
        none redemptionWallet redemptionTx sentAt)
  | .tokensUnwrapped request => some (sent request)
  | .sendPending request => some (sent request)
  | _ => none

/-- The state an event leads to, if it can happen here. -/
def next (entity : EquityRedemption) (event : EquityRedemptionEvent) : Option EquityRedemption :=
  match event with
  | .vaultWithdrawPending .. => none
  | .vaultWithdrawSubmitted symbol quantity token wrappedAmount txHash submittedAt =>
      match entity with
      | .vaultWithdrawPending .. => some (.vaultWithdrawSubmitted
          ⟨symbol, quantity, token, wrappedAmount⟩ txHash submittedAt)
      | _ => none
  | .withdrawnFromRaindex symbol quantity token wrappedAmount actualWrappedAmount
      raindexWithdrawTx raindexWithdrawBlock withdrawnAt =>
      match entity with
      | .vaultWithdrawPending .. | .vaultWithdrawSubmitted .. =>
          some (withdrawnState symbol quantity token wrappedAmount actualWrappedAmount
            raindexWithdrawTx raindexWithdrawBlock withdrawnAt)
      | _ => none
  | .transferFailed txHash reason failedAt => entity.nextTransferFailed txHash reason failedAt
  | .unwrapPending _ =>
      match entity with
      | .withdrawnFromRaindex request => some (.unwrapPending request)
      | _ => none
  | .unwrapSubmitted unwrapTxHash _ =>
      match entity with
      | .withdrawnFromRaindex request => some (.unwrapSubmitted request unwrapTxHash)
      | .unwrapPending request => some (.unwrapSubmitted request unwrapTxHash)
      | _ => none
  | .tokensUnwrapped actualQuantity underlyingToken unwrapTxHash unwrappedAmount unwrapBlock
      unwrappedAt =>
      entity.nextTokensUnwrapped actualQuantity underlyingToken unwrapTxHash unwrappedAmount
        unwrapBlock unwrappedAt
  | .sendPending _ =>
      match entity with
      | .tokensUnwrapped request => some (.sendPending request)
      | _ => none
  | .tokensSent redemptionWallet redemptionTx sentAt =>
      entity.nextTokensSent redemptionWallet redemptionTx sentAt
  | .detected tokenizationRequestId detectedAt =>
      match entity with
      | .tokensSent symbol quantity _ _ _ _ redemptionTx sentAt =>
          some (.pending symbol quantity redemptionTx tokenizationRequestId sentAt detectedAt)
      | _ => none
  | .detectionFailed failure failedAt =>
      match entity with
      | .tokensSent symbol quantity _ raindexWithdrawTx _ _ redemptionTx sentAt =>
          some (.failed symbol quantity (some raindexWithdrawTx) (some redemptionTx) none
            failure.reason sentAt failedAt)
      | _ => none
  | .completed completedAt =>
      match entity with
      | .pending symbol quantity redemptionTx tokenizationRequestId sentAt _ =>
          some (.completed symbol quantity redemptionTx tokenizationRequestId sentAt completedAt)
      | _ => none
  | .redemptionRejected reason rejectedAt =>
      match entity with
      | .pending symbol quantity redemptionTx tokenizationRequestId sentAt _ =>
          some (.failed symbol quantity none (some redemptionTx) (some tokenizationRequestId)
            (some reason) sentAt rejectedAt)
      | _ => none
  | .providerCompletionRecovered tokenizationRequestId recoveredAt =>
      match entity with
      | .failed symbol quantity _ (some redemptionTx) _ _ startedAt _ =>
          some (.completed symbol quantity redemptionTx tokenizationRequestId startedAt
            recoveredAt)
      | _ => none
  | .operatorReconciled reason reconciledAt =>
      match entity with
      | .failed symbol quantity raindexWithdrawTx redemptionTx tokenizationRequestId failureReason
          startedAt _ =>
          some (.reconciled symbol quantity raindexWithdrawTx redemptionTx tokenizationRequestId
            failureReason reason startedAt reconciledAt)
      | _ => none

def evolve (entity : EquityRedemption) (event : EquityRedemptionEvent) :
    Except EquityRedemptionError (Option EquityRedemption) :=
  .ok (entity.next event)

/-! ## Commands -/

abbrev Answer := Except EquityRedemptionError (List EquityRedemptionEvent)

def initialise (context : Context) : EquityRedemptionCommand → Answer
  | .redeem symbol quantity token amount =>
      .ok [.vaultWithdrawPending symbol quantity token amount context.now]
  | _ => .error .notStarted

/-- Why a command is refused that is for an earlier state: `otherwise` while the
redemption is still under way. -/
def refusal (entity : EquityRedemption) (otherwise : EquityRedemptionError) :
    EquityRedemptionError :=
  match entity with
  | .completed .. => .alreadyCompleted
  | .failed .. => .alreadyFailed
  | .reconciled .. => .alreadyReconciled
  | _ => otherwise

def transitionSubmitWithdraw (context : Context) (entity : EquityRedemption) : Answer :=
  match entity with
  | .vaultWithdrawPending request _ =>
      if !context.hasVaultFor request.token then .error (.raindexVaultNotFound request.token)
      else
        match context.submitWithdraw with
        | .error message =>
            .error (.raindexWithdrawFailed request.token request.wrappedAmount message)
        | .ok txHash => .ok [.vaultWithdrawSubmitted request.symbol request.quantity request.token
            request.wrappedAmount txHash context.now]
  | other => .error (other.refusal .alreadyStarted)

/-- The transfers of a token to the recipient, in all. -/
def actualWithdrawnAmountFromReceipt (receipt : TransactionReceipt) (token recipient : EvmAddress) :
    Except EquityRedemptionError Nat := do
  let transfers := receipt.logs.filter fun log => log.address = token && log.isTransfer
  let add (total : Nat) (log : ReceiptLog) : Except EquityRedemptionError Nat :=
    match log.decoded with
    | none => .error (.raindexWithdrawTransferDecodeFailed receipt.transactionHash token)
    | some (receiver, value) =>
        if receiver ≠ recipient then .ok total
        else if 2 ^ 256 ≤ total + value then
          .error (.raindexWithdrawTransferOverflow receipt.transactionHash)
        else .ok (total + value)
  let amount ← transfers.foldlM add 0
  if amount = 0 then
    throw (.raindexWithdrawTransferNotFound receipt.transactionHash token recipient)
  return amount

def transitionConfirmWithdraw (context : Context) (entity : EquityRedemption) : Answer :=
  match entity with
  | .vaultWithdrawSubmitted request txHash _ =>
      match context.confirmTxReceipt with
      | .error message =>
          .error (.raindexWithdrawFailed request.token request.wrappedAmount message)
      | .ok receipt =>
          match receipt.blockNumber with
          | none => .error (.missingWithdrawBlock txHash)
          | some block => do
              let actual ← actualWithdrawnAmountFromReceipt receipt request.token context.owner
              return [.withdrawnFromRaindex request.symbol request.quantity request.token
                request.wrappedAmount (some actual) txHash (some block) context.now]
  | other => .error (other.refusal .alreadyStarted)

def transitionUnwrapTokens (now : Time) (entity : EquityRedemption) : Answer :=
  match entity with
  | .withdrawnFromRaindex _ => .ok [.unwrapPending now]
  | other => .error (other.refusal .cannotUnwrapAlreadyStarted)

/-- Wait until the node has seen a block; there may be none to wait for. -/
def waitForRecordedBlock (context : Context) :
    Option Nat → Except EquityRedemptionError Unit
  | none => .ok ()
  | some block => (context.waitForBlock block).mapError (.nodeSyncFailed block)

def transitionSubmitUnwrap (context : Context) (entity : EquityRedemption) : Answer :=
  match entity with
  | .unwrapPending request => do
      waitForRecordedBlock context request.raindexWithdrawBlock
      match context.submitUnwrap with
      | .error message => .error (.unwrapFailed request.token request.wrappedAmount message)
      | .ok unwrapTxHash => .ok [.unwrapSubmitted unwrapTxHash context.now]
  | other => .error (other.refusal .cannotUnwrapAlreadyStarted)

def transitionConfirmUnwrap (context : Context) (entity : EquityRedemption) : Answer :=
  match entity with
  | .unwrapSubmitted request unwrapTxHash => do
      let underlyingToken ← (context.lookupUnderlying request.symbol).mapError
        (.underlyingLookupFailed request.symbol)
      let confirmation ← context.confirmUnwrap.mapError
        (.unwrapFailed request.token request.wrappedAmount)
      let quantity ← (context.fromFixedDecimal confirmation.assets).mapError
        (.raindexWithdrawQuantityConversionFailed unwrapTxHash confirmation.assets)
      return [.tokensUnwrapped (some quantity) underlyingToken unwrapTxHash confirmation.assets
        (some confirmation.block) context.now]
  | other => .error (other.refusal .cannotUnwrapAlreadyStarted)

def transitionPrepareSend (now : Time) (entity : EquityRedemption) : Answer :=
  match entity with
  | .tokensUnwrapped _ => .ok [.sendPending now]
  | other => .error (other.refusal .tokensNotUnwrapped)

/-- A transfer that could not be sent fails the redemption. -/
def transitionSendTokens (context : Context) (entity : EquityRedemption) : Answer :=
  match entity with
  | .sendPending request =>
      match context.redemptionWallet with
      | none => .ok [.transferFailed none none context.now]
      | some redemptionWallet => do
          waitForRecordedBlock context request.unwrapBlock
          match context.sendForRedemption with
          | .ok redemptionTx => .ok [.tokensSent redemptionWallet redemptionTx context.now]
          | .error _ => .ok [.transferFailed none none context.now]
  | other => .error (other.refusal .tokensNotUnwrapped)

def transitionDetect (now : Time) (tokenizationRequestId : TokenizationRequestId)
    (entity : EquityRedemption) : Answer :=
  match entity with
  | .tokensSent .. => .ok [.detected tokenizationRequestId now]
  | .pending .. => .error .alreadyDetected
  | other => .error (other.refusal .tokensNotSent)

def transitionFailDetection (now : Time) (failure : DetectionFailure)
    (entity : EquityRedemption) : Answer :=
  match entity with
  | .tokensSent .. => .ok [.detectionFailed failure now]
  | .pending .. => .error .alreadyDetected
  | other => .error (other.refusal .tokensNotSent)

def transitionComplete (now : Time) (entity : EquityRedemption) : Answer :=
  match entity with
  | .pending .. => .ok [.completed now]
  | other => .error (other.refusal .notPending)

def transitionRejectRedemption (now : Time) (reason : String) (entity : EquityRedemption) :
    Answer :=
  match entity with
  | .pending .. => .ok [.redemptionRejected reason now]
  | other => .error (other.refusal .notPendingForRejection)

def transitionRecoverProviderCompletion (now : Time)
    (tokenizationRequestId : TokenizationRequestId) : EquityRedemption → Answer
  | .failed _ _ _ (some _) .. => .ok [.providerCompletionRecovered tokenizationRequestId now]
  | .completed .. => .error .alreadyCompleted
  | .reconciled .. => .error .alreadyReconciled
  | _ => .error .tokensNotSent

def transitionFailTransfer (now : Time) (reason : String) (entity : EquityRedemption) : Answer :=
  match entity with
  | .vaultWithdrawPending .. | .vaultWithdrawSubmitted .. | .withdrawnFromRaindex _
  | .unwrapPending _ | .unwrapSubmitted .. | .tokensUnwrapped _ | .sendPending _ =>
      .ok [.transferFailed none (some reason) now]
  | other => .error (other.refusal .alreadyStarted)

def transitionReconcile (now : Time) (reason : String) : EquityRedemption → Answer
  | .failed .. =>
      if Text.isBlank reason then .error .reconcileReasonRequired
      else .ok [.operatorReconciled reason now]
  | .reconciled .. => .error .alreadyReconciled
  | _ => .error .notFailed

def transition (context : Context) (entity : EquityRedemption) : EquityRedemptionCommand → Answer
  | .redeem .. => .error (entity.refusal .alreadyStarted)
  | .submitWithdraw => entity.transitionSubmitWithdraw context
  | .confirmWithdraw => entity.transitionConfirmWithdraw context
  | .unwrapTokens => entity.transitionUnwrapTokens context.now
  | .submitUnwrap => entity.transitionSubmitUnwrap context
  | .confirmUnwrap => entity.transitionConfirmUnwrap context
  | .prepareSend => entity.transitionPrepareSend context.now
  | .sendTokens => entity.transitionSendTokens context
  | .detect tokenizationRequestId => entity.transitionDetect context.now tokenizationRequestId
  | .failDetection failure => entity.transitionFailDetection context.now failure
  | .complete => entity.transitionComplete context.now
  | .rejectRedemption reason => entity.transitionRejectRedemption context.now reason
  | .recoverProviderCompletion tokenizationRequestId =>
      entity.transitionRecoverProviderCompletion context.now tokenizationRequestId
  | .failTransfer reason => entity.transitionFailTransfer context.now reason
  | .reconcile reason => entity.transitionReconcile context.now reason

def aggregate : Aggregate EquityRedemption EquityRedemptionEvent EquityRedemptionCommand
    EquityRedemptionError Context where
  originate := originate
  evolve := evolve
  initialise := initialise
  transition := transition

end EquityRedemption

end Liquidity
