import Liquidity.EquityRedemption.Aggregate
import Liquidity.EventSourcing.Runs

/-!
# What a redemption's commands do

Every command that is accepted adds one event. Which ones there are, in which states,
and where they lead is said here once.
-/

namespace Liquidity

open EventSourcing

namespace EquityRedemption

/-- Token units are converted as they are, if at all. -/
def Context.ConvertsExactly (context : Context) : Prop :=
  ∀ amount quantity, context.fromFixedDecimal amount = .ok quantity → quantity = amount / 10 ^ 18

/-- Before the transfer to the redemption wallet. -/
def isBeforeSend : EquityRedemption → Bool
  | .vaultWithdrawPending .. | .vaultWithdrawSubmitted .. | .withdrawnFromRaindex _
  | .unwrapPending _ | .unwrapSubmitted .. | .tokensUnwrapped _ | .sendPending _ => true
  | _ => false

/-- The state after an unwrap. -/
def Withdrawn.unwrapped (request : Withdrawn) (quantity : FractionalShares)
    (underlyingToken : EvmAddress) (unwrapTxHash : TxHash) (unwrappedAmount : Nat)
    (unwrapBlock : Option Nat) (unwrappedAt : Time) : Unwrapped :=
  ⟨request.symbol, quantity, request.token, underlyingToken, request.raindexWithdrawTx,
    unwrapTxHash, unwrappedAmount, unwrapBlock, request.withdrawnAt, unwrappedAt⟩

/-- An event that a command adds in a state, and the state it leads to. -/
inductive Moves : EquityRedemption → EquityRedemptionEvent → EquityRedemption → Prop where
  | withdrawSubmitted {request : Withdrawing} {pendingAt now : Time} {txHash : TxHash} :
      Moves (.vaultWithdrawPending request pendingAt)
        (.vaultWithdrawSubmitted request.symbol request.quantity request.token
          request.wrappedAmount txHash now)
        (.vaultWithdrawSubmitted request txHash now)
  | withdrawn {request : Withdrawing} {txHash : TxHash} {submittedAt now : Time}
      {actual block : Nat} :
      Moves (.vaultWithdrawSubmitted request txHash submittedAt)
        (.withdrawnFromRaindex request.symbol request.quantity request.token
          request.wrappedAmount (some actual) txHash (some block) now)
        (.withdrawnFromRaindex ⟨⟨request.symbol, request.quantity, request.token, actual⟩,
          txHash, some block, now⟩)
  | unwrapPending {request : Withdrawn} {now : Time} :
      Moves (.withdrawnFromRaindex request) (.unwrapPending now) (.unwrapPending request)
  | unwrapSubmitted {request : Withdrawn} {unwrapTxHash : TxHash} {now : Time} :
      Moves (.unwrapPending request) (.unwrapSubmitted unwrapTxHash now)
        (.unwrapSubmitted request unwrapTxHash)
  | unwrapped {request : Withdrawn} {unwrapTxHash : TxHash} {underlyingToken : EvmAddress}
      {amount block : Nat} {now : Time} :
      Moves (.unwrapSubmitted request unwrapTxHash)
        (.tokensUnwrapped (some (amount / 10 ^ 18)) underlyingToken unwrapTxHash amount
          (some block) now)
        (.tokensUnwrapped (request.unwrapped (amount / 10 ^ 18) underlyingToken unwrapTxHash
          amount (some block) now))
  | sendPending {request : Unwrapped} {now : Time} :
      Moves (.tokensUnwrapped request) (.sendPending now) (.sendPending request)
  | sent {request : Unwrapped} {redemptionWallet : EvmAddress} {redemptionTx : TxHash}
      {now : Time} :
      Moves (.sendPending request) (.tokensSent redemptionWallet redemptionTx now)
        (.tokensSent request.symbol request.quantity request.underlyingToken
          request.raindexWithdrawTx (some request.unwrapTxHash) redemptionWallet redemptionTx now)
  | transferFailed {entity next : EquityRedemption} {reason : Option String} {now : Time}
      (early : entity.isBeforeSend)
      (fails : entity.nextTransferFailed none reason now = some next) :
      Moves entity (.transferFailed none reason now) next
  | detected {symbol : Symbol} {quantity : FractionalShares} {token : EvmAddress}
      {raindexWithdrawTx : TxHash} {unwrapTxHash : Option TxHash} {redemptionWallet : EvmAddress}
      {redemptionTx : TxHash} {sentAt now : Time} {tokenizationRequestId : TokenizationRequestId} :
      Moves (.tokensSent symbol quantity token raindexWithdrawTx unwrapTxHash redemptionWallet
          redemptionTx sentAt)
        (.detected tokenizationRequestId now)
        (.pending symbol quantity redemptionTx tokenizationRequestId sentAt now)
  | detectionFailed {symbol : Symbol} {quantity : FractionalShares} {token : EvmAddress}
      {raindexWithdrawTx : TxHash} {unwrapTxHash : Option TxHash} {redemptionWallet : EvmAddress}
      {redemptionTx : TxHash} {sentAt now : Time} {failure : DetectionFailure} :
      Moves (.tokensSent symbol quantity token raindexWithdrawTx unwrapTxHash redemptionWallet
          redemptionTx sentAt)
        (.detectionFailed failure now)
        (.failed symbol quantity (some raindexWithdrawTx) (some redemptionTx) none failure.reason
          sentAt now)
  | completed {symbol : Symbol} {quantity : FractionalShares} {redemptionTx : TxHash}
      {tokenizationRequestId : TokenizationRequestId} {sentAt detectedAt now : Time} :
      Moves (.pending symbol quantity redemptionTx tokenizationRequestId sentAt detectedAt)
        (.completed now)
        (.completed symbol quantity redemptionTx tokenizationRequestId sentAt now)
  | rejected {symbol : Symbol} {quantity : FractionalShares} {redemptionTx : TxHash}
      {tokenizationRequestId : TokenizationRequestId} {sentAt detectedAt now : Time}
      {reason : String} :
      Moves (.pending symbol quantity redemptionTx tokenizationRequestId sentAt detectedAt)
        (.redemptionRejected reason now)
        (.failed symbol quantity none (some redemptionTx) (some tokenizationRequestId)
          (some reason) sentAt now)
  | recovered {symbol : Symbol} {quantity : FractionalShares} {raindexWithdrawTx : Option TxHash}
      {redemptionTx : TxHash} {known : Option TokenizationRequestId} {failureReason : Option String}
      {startedAt failedAt now : Time} {tokenizationRequestId : TokenizationRequestId} :
      Moves (.failed symbol quantity raindexWithdrawTx (some redemptionTx) known failureReason
          startedAt failedAt)
        (.providerCompletionRecovered tokenizationRequestId now)
        (.completed symbol quantity redemptionTx tokenizationRequestId startedAt now)
  | reconciled {symbol : Symbol} {quantity : FractionalShares}
      {raindexWithdrawTx redemptionTx : Option TxHash}
      {tokenizationRequestId : Option TokenizationRequestId} {failureReason : Option String}
      {startedAt failedAt now : Time} {reason : String} :
      Moves (.failed symbol quantity raindexWithdrawTx redemptionTx tokenizationRequestId
          failureReason startedAt failedAt)
        (.operatorReconciled reason now)
        (.reconciled symbol quantity raindexWithdrawTx redemptionTx tokenizationRequestId
          failureReason reason startedAt now)

/-- The entity accepts what its commands add. -/
theorem Moves.evolves {entity next : EquityRedemption} {event : EquityRedemptionEvent}
    (moves : Moves entity event next) : aggregate.evolve entity event = .ok (some next) := by
  cases moves with
  | transferFailed early fails => exact congrArg Except.ok fails
  | _ => rfl

section Transition

variable {context : Context} {entity : EquityRedemption} {events : List EquityRedemptionEvent}

theorem submitWithdraw_moves (accepted : entity.transitionSubmitWithdraw context = .ok events) :
    ∃ event next, events = [event] ∧ Moves entity event next := by
  unfold transitionSubmitWithdraw at accepted
  split at accepted
  case h_2 => cases accepted
  case h_1 request pendingAt =>
      split at accepted
      case isTrue => cases accepted
      case isFalse =>
          split at accepted
          case h_1 => cases accepted
          case h_2 txHash submitted =>
              cases accepted
              exact ⟨_, _, rfl, .withdrawSubmitted⟩

theorem confirmWithdraw_moves (accepted : entity.transitionConfirmWithdraw context = .ok events) :
    ∃ event next, events = [event] ∧ Moves entity event next := by
  unfold transitionConfirmWithdraw at accepted
  split at accepted
  case h_2 => cases accepted
  case h_1 request txHash submittedAt =>
      split at accepted
      case h_1 => cases accepted
      case h_2 receipt confirmed =>
          split at accepted
          case h_1 => cases accepted
          case h_2 block mined =>
              obtain ⟨actual, withdrawn, accepted⟩ := bind_eq_ok.mp accepted
              cases accepted
              exact ⟨_, _, rfl, .withdrawn⟩

theorem submitUnwrap_moves (accepted : entity.transitionSubmitUnwrap context = .ok events) :
    ∃ event next, events = [event] ∧ Moves entity event next := by
  unfold transitionSubmitUnwrap at accepted
  split at accepted
  case h_2 => cases accepted
  case h_1 request =>
      obtain ⟨_, waited, accepted⟩ := bind_eq_ok.mp accepted
      split at accepted
      case h_1 => cases accepted
      case h_2 unwrapTxHash submitted =>
          cases accepted
          exact ⟨_, _, rfl, .unwrapSubmitted⟩

theorem confirmUnwrap_moves (exactly : context.ConvertsExactly)
    (accepted : entity.transitionConfirmUnwrap context = .ok events) :
    ∃ event next, events = [event] ∧ Moves entity event next := by
  unfold transitionConfirmUnwrap at accepted
  split at accepted
  case h_2 => cases accepted
  case h_1 request unwrapTxHash =>
      obtain ⟨underlyingToken, looked, accepted⟩ := bind_eq_ok.mp accepted
      obtain ⟨confirmation, confirmed, accepted⟩ := bind_eq_ok.mp accepted
      obtain ⟨quantity, converted, accepted⟩ := bind_eq_ok.mp accepted
      obtain rfl := exactly _ _ (mapError_eq_ok.mp converted)
      cases accepted
      exact ⟨_, _, rfl, .unwrapped⟩

theorem sendTokens_moves (accepted : entity.transitionSendTokens context = .ok events) :
    ∃ event next, events = [event] ∧ Moves entity event next := by
  unfold transitionSendTokens at accepted
  split at accepted
  case h_2 => cases accepted
  case h_1 request =>
      split at accepted
      case h_1 =>
          cases accepted
          exact ⟨_, _, rfl, .transferFailed rfl rfl⟩
      case h_2 redemptionWallet configured =>
          obtain ⟨_, waited, accepted⟩ := bind_eq_ok.mp accepted
          split at accepted
          case h_1 redemptionTx sent =>
              cases accepted
              exact ⟨_, _, rfl, .sent⟩
          case h_2 =>
              cases accepted
              exact ⟨_, _, rfl, .transferFailed rfl rfl⟩

theorem failTransfer_moves {now : Time} {reason : String}
    (accepted : entity.transitionFailTransfer now reason = .ok events) :
    ∃ event next, events = [event] ∧ Moves entity event next := by
  cases entity <;> cases accepted <;> exact ⟨_, _, rfl, .transferFailed rfl rfl⟩

/-- An accepted command adds one event, and it is one of these. -/
theorem transition_moves (exactly : context.ConvertsExactly) {command : EquityRedemptionCommand}
    (accepted : entity.transition context command = .ok events) :
    ∃ event next, events = [event] ∧ Moves entity event next := by
  cases command with
  | redeem => cases accepted
  | submitWithdraw => exact submitWithdraw_moves accepted
  | confirmWithdraw => exact confirmWithdraw_moves accepted
  | unwrapTokens =>
      cases entity <;> cases accepted
      exact ⟨_, _, rfl, .unwrapPending⟩
  | submitUnwrap => exact submitUnwrap_moves accepted
  | confirmUnwrap => exact confirmUnwrap_moves exactly accepted
  | prepareSend =>
      cases entity <;> cases accepted
      exact ⟨_, _, rfl, .sendPending⟩
  | sendTokens => exact sendTokens_moves accepted
  | detect =>
      cases entity <;> cases accepted
      exact ⟨_, _, rfl, .detected⟩
  | failDetection =>
      cases entity <;> cases accepted
      exact ⟨_, _, rfl, .detectionFailed⟩
  | complete =>
      cases entity <;> cases accepted
      exact ⟨_, _, rfl, .completed⟩
  | rejectRedemption =>
      cases entity <;> cases accepted
      exact ⟨_, _, rfl, .rejected⟩
  | recoverProviderCompletion =>
      simp only [transition] at accepted
      unfold transitionRecoverProviderCompletion at accepted
      split at accepted
      case h_1 =>
          cases accepted
          exact ⟨_, _, rfl, .recovered⟩
      all_goals cases accepted
  | failTransfer => exact failTransfer_moves accepted
  | reconcile =>
      simp only [transition] at accepted
      unfold transitionReconcile at accepted
      split at accepted
      case h_1 =>
          split at accepted
          case isTrue => cases accepted
          case isFalse =>
              cases accepted
              exact ⟨_, _, rfl, .reconciled⟩
      all_goals cases accepted

end Transition

end EquityRedemption

end Liquidity
