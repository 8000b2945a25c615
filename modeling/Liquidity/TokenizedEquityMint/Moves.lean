import Liquidity.TokenizedEquityMint.Aggregate
import Liquidity.EventSourcing.Runs

/-!
# What a mint's commands do

A request is recorded together with the issuer's first answer to it. After that
every command that is accepted adds one event. Which ones there are, in which
states, and where they lead is said here once.
-/

namespace Liquidity

open EventSourcing

namespace TokenizedEquityMint

/-- Shares are converted to token units as they are, if at all. -/
def ConvertsExactly (convert : ℚ → Except String Nat) : Prop :=
  ∀ quantity shares, convert quantity = .ok shares → (shares : ℚ) = quantity * 10 ^ 18

/-- What is minted for a quantity. -/
structure MintedFor (convert : ℚ → Except String Nat) (quantity : FractionalShares)
    (shares : Nat) : Prop where
  nonneg : 0 ≤ quantity
  converted : convert quantity = .ok shares

/-- An event that a command adds in a state, and the state it leads to. -/
inductive Moves (convert : ℚ → Except String Nat) :
    TokenizedEquityMint → TokenizedEquityMintEvent → TokenizedEquityMint → Prop where
  | rejected {request : Requested} {reason : String} {now : Time} :
      Moves convert (.mintRequested request) (.mintRejected reason now)
        (.failed request.symbol request.quantity reason request.requestedAt now)
  | accepted {request : Requested} {issuerRequestId : IssuerRequestId}
      {tokenizationRequestId : TokenizationRequestId} {now : Time} :
      Moves convert (.mintRequested request)
        (.mintAccepted issuerRequestId tokenizationRequestId now)
        (.mintAccepted ⟨request, issuerRequestId, tokenizationRequestId, now⟩)
  | acceptanceFailed {entity next : TokenizedEquityMint} {reason : String} {now : Time}
      (fails : entity.nextMintAcceptanceFailed reason now = some next) :
      Moves convert entity (.mintAcceptanceFailed reason now) next
  | received {mint : Accepted} {txHash : TxHash} {shares : Nat} {now : Time}
      (minted : MintedFor convert mint.quantity shares) :
      Moves convert (.mintAccepted mint) (.tokensReceived txHash shares now)
        (.tokensReceived ⟨mint, txHash, shares, now⟩)
  | wrapSubmitted {mint : Received} {wrapTxHash : TxHash} {now : Time} :
      Moves convert (.tokensReceived mint) (.wrapSubmitted wrapTxHash now)
        (.wrapSubmitted mint wrapTxHash)
  | wrapped {entity next : TokenizedEquityMint} {wrapTxHash : TxHash} {wrappedShares block : Nat}
      {now : Time} (wraps : entity.nextTokensWrapped wrapTxHash wrappedShares now (some block) =
        some next) :
      Moves convert entity (.tokensWrapped wrapTxHash wrappedShares now (some block)) next
  | wrappingFailed {entity next : TokenizedEquityMint} {reason : String} {now : Time}
      (fails : entity.nextWrappingFailed entity.symbol entity.quantity (some reason) now =
        some next) :
      Moves convert entity
        (.wrappingFailed entity.symbol entity.quantity (some reason) now) next
  | depositSubmitted {mint : Wrapped} {wrapBlock : Option Nat} {vaultDepositTxHash : TxHash}
      {now : Time} :
      Moves convert (.tokensWrapped mint wrapBlock)
        (.vaultDepositSubmitted vaultDepositTxHash now)
        (.vaultDepositSubmitted mint vaultDepositTxHash)
  | deposited {entity next : TokenizedEquityMint} {vaultDepositTxHash : TxHash} {now : Time}
      (deposits : entity.nextDepositedIntoRaindex vaultDepositTxHash now = some next) :
      Moves convert entity (.depositedIntoRaindex vaultDepositTxHash now) next
  | depositFailed {entity next : TokenizedEquityMint} {reason : String} {now : Time}
      (fails : entity.nextRaindexDepositFailed reason now = some next) :
      Moves convert entity (.raindexDepositFailed reason now) next
  | recovered {symbol : Symbol} {quantity : FractionalShares} {reason : String}
      {requestedAt failedAt now : Time} {issuerRequestId : IssuerRequestId} {wallet : EvmAddress}
      {tokenizationRequestId : TokenizationRequestId} {txHash : TxHash} {shares : Nat}
      (minted : MintedFor convert quantity shares) :
      Moves convert (.failed symbol quantity reason requestedAt failedAt)
        (.providerCompletionRecovered issuerRequestId wallet tokenizationRequestId txHash shares
          now)
        (.tokensReceived ⟨⟨⟨symbol, quantity, wallet, requestedAt⟩, issuerRequestId,
          tokenizationRequestId, now⟩, txHash, shares, now⟩)
  | reconciled {symbol : Symbol} {quantity : FractionalShares} {failureReason reason : String}
      {requestedAt failedAt now : Time} :
      Moves convert (.failed symbol quantity failureReason requestedAt failedAt)
        (.operatorReconciled reason now)
        (.reconciled symbol quantity failureReason reason requestedAt now)

variable {convert : ℚ → Except String Nat}

/-- The entity accepts what its commands add. -/
theorem Moves.evolves {entity next : TokenizedEquityMint} {event : TokenizedEquityMintEvent}
    (moves : Moves convert entity event next) :
    aggregate.evolve entity event = .ok (some next) := by
  cases moves with
  | acceptanceFailed fails => exact congrArg Except.ok fails
  | wrapped wraps => exact congrArg Except.ok wraps
  | wrappingFailed fails => exact congrArg Except.ok fails
  | deposited deposits => exact congrArg Except.ok deposits
  | depositFailed fails => exact congrArg Except.ok fails
  | _ => rfl

theorem quantityToU256_eq_ok {context : Context} {value : ℚ} {shares : Nat} :
    quantityToU256 context value = .ok shares ↔ MintedFor context.toFixedDecimal value shares := by
  unfold quantityToU256
  constructor
  · intro converted
    split at converted
    case isTrue => cases converted
    case isFalse nonneg => exact ⟨not_lt.mp nonneg, mapError_eq_ok.mp converted⟩
  · intro minted
    rw [if_neg (not_lt.mpr minted.nonneg), minted.converted]
    rfl

section Transition

variable {context : Context} {entity : TokenizedEquityMint}
  {events : List TokenizedEquityMintEvent}

theorem pollAccepted_moves {mint : Accepted} (accepted : pollAccepted context mint = .ok events) :
    ∃ event next, events = [event] ∧
      Moves context.toFixedDecimal (.mintAccepted mint) event next := by
  unfold pollAccepted at accepted
  split at accepted
  case h_1 =>
      cases accepted
      exact ⟨_, _, rfl, .acceptanceFailed rfl⟩
  case h_2 completed polled =>
      split at accepted
      case h_1 =>
          split at accepted
          case h_1 => cases accepted
          case h_2 txHash delivered =>
              obtain ⟨_, expected, accepted⟩ := bind_eq_ok.mp accepted
              obtain ⟨shares, converted, accepted⟩ := bind_eq_ok.mp accepted
              cases accepted
              exact ⟨_, _, rfl, .received (quantityToU256_eq_ok.mp converted)⟩
      all_goals
        cases accepted
        exact ⟨_, _, rfl, .acceptanceFailed rfl⟩

theorem recoverProviderCompletion_moves {issuerRequestId : IssuerRequestId} {wallet : EvmAddress}
    {tokenizationRequestId : TokenizationRequestId} {txHash : TxHash}
    (accepted : entity.transitionRecoverProviderCompletion context issuerRequestId wallet
      tokenizationRequestId txHash = .ok events) :
    ∃ event next, events = [event] ∧ Moves context.toFixedDecimal entity event next := by
  unfold transitionRecoverProviderCompletion at accepted
  split at accepted
  case h_1 =>
      obtain ⟨shares, converted, accepted⟩ := bind_eq_ok.mp accepted
      cases accepted
      exact ⟨_, _, rfl, .recovered (quantityToU256_eq_ok.mp converted)⟩
  all_goals cases accepted

theorem reconcile_moves {now : Time} {reason : String}
    (accepted : entity.transitionReconcile now reason = .ok events) :
    ∃ event next, events = [event] ∧ Moves convert entity event next := by
  unfold transitionReconcile at accepted
  split at accepted
  case h_1 =>
      split at accepted
      case isTrue => cases accepted
      case isFalse =>
          cases accepted
          exact ⟨_, _, rfl, .reconciled⟩
  all_goals cases accepted

/-- An accepted command adds one event, and it is one of these. -/
theorem transition_moves {command : TokenizedEquityMintCommand}
    (accepted : entity.transition context command = .ok events) :
    ∃ event next, events = [event] ∧ Moves context.toFixedDecimal entity event next := by
  cases command with
  | requestMint => cases accepted
  | poll =>
      cases entity with
      | mintAccepted mint => exact pollAccepted_moves accepted
      | _ => cases accepted
  | submitWrap =>
      cases entity <;> cases accepted
      exact ⟨_, _, rfl, .wrapSubmitted⟩
  | submitVaultDeposit =>
      cases entity <;> cases accepted
      exact ⟨_, _, rfl, .depositSubmitted⟩
  | wrapTokens =>
      cases entity <;> cases accepted <;> exact ⟨_, _, rfl, .wrapped rfl⟩
  | depositToVault =>
      cases entity <;> cases accepted <;> exact ⟨_, _, rfl, .deposited rfl⟩
  | failAcceptance =>
      cases entity <;> cases accepted <;> exact ⟨_, _, rfl, .acceptanceFailed rfl⟩
  | failWrapping =>
      cases entity <;> cases accepted <;> exact ⟨_, _, rfl, .wrappingFailed rfl⟩
  | failRaindexDeposit =>
      cases entity <;> cases accepted <;> exact ⟨_, _, rfl, .depositFailed rfl⟩
  | recoverProviderCompletion => exact recoverProviderCompletion_moves accepted
  | reconcile => exact reconcile_moves accepted

/-- A request is recorded with the issuer's answer. -/
theorem initialise_moves {command : TokenizedEquityMintCommand}
    (begun : initialise context command = .ok events) :
    ∃ request answer next, events = [.mintRequested request.symbol request.quantity request.wallet
        request.requestedAt, answer] ∧
      Moves context.toFixedDecimal (.mintRequested request) answer next := by
  cases command with
  | requestMint issuerRequestId symbol quantity wallet =>
      simp only [initialise] at begun
      split at begun
      case isTrue => cases begun
      case isFalse =>
          split at begun
          case h_1 => cases begun
          case h_2 =>
              split at begun
              case isTrue =>
                  cases begun
                  exact ⟨⟨symbol, quantity, wallet, context.now⟩, _, _, rfl, .rejected⟩
              case isFalse =>
                  cases begun
                  exact ⟨⟨symbol, quantity, wallet, context.now⟩, _, _, rfl, .accepted⟩
  | _ => cases begun

end Transition

end TokenizedEquityMint

end Liquidity
