import Liquidity.Inventory.Imbalance
import Liquidity.Tokenization
import Mathlib.Data.Nat.Cast.Order.Field

/-!
# How much equity to rebalance

An equity outside its band is minted or redeemed: the excess, up to the operator's
limit, in whole billionths of a share. The redemption then withdraws vault tokens
from Raindex.
-/

namespace Liquidity

/-- The broker's tokenization takes quantities of so many decimals. -/
def alpacaQuantityMaxDecimalPlaces : Nat := 9

inductive EquityTriggerError where
  | imbalance (error : EquityImbalanceError)
  | float (error : FloatError)
  deriving DecidableEq

inductive TriggeredOperation where
  | mint (symbol : Symbol) (quantity : FractionalShares)
  | redemption (symbol : Symbol) (quantity : FractionalShares)
      (wrappedToken unwrappedToken : EvmAddress)
  deriving DecidableEq

def TriggeredOperation.quantity : TriggeredOperation → FractionalShares
  | .mint _ quantity => quantity
  | .redemption _ quantity _ _ => quantity

def capShares (quantity : FractionalShares) (sharesLimit : Option Positive) : FractionalShares :=
  match sharesLimit with
  | none => quantity
  | some cap => if cap.inner < quantity then cap.inner else quantity

def truncateForAlpaca [FloatFormat] (quantity : FractionalShares) :
    Except FloatError FractionalShares :=
  truncateToDecimals quantity alpacaQuantityMaxDecimalPlaces

def EquityView.checkImbalanceAndBuildOperation [FloatFormat] (view : EquityView) (symbol : Symbol)
    (threshold : ImbalanceThreshold) (wrappedToken unwrappedToken : EvmAddress)
    (vaultRatio : UnderlyingPerWrapped) (sharesLimit : Option Positive) :
    Except EquityTriggerError (Option TriggeredOperation) := do
  let imbalance ←
    (view.checkEquityImbalance symbol threshold vaultRatio).mapError EquityTriggerError.imbalance
  match imbalance with
  | none => return none
  | some (.tooMuchOffchain excess) =>
      let quantity ←
        (truncateForAlpaca (capShares excess sharesLimit)).mapError EquityTriggerError.float
      return some (.mint symbol quantity)
  | some (.tooMuchOnchain excess) =>
      let quantity ←
        (truncateForAlpaca (capShares excess sharesLimit)).mapError EquityTriggerError.float
      return some (.redemption symbol quantity wrappedToken unwrappedToken)

/-- What is taken out of the Raindex vault. -/
structure VaultWithdrawal where
  token : EvmAddress
  amount : Nat
  deriving DecidableEq

inductive RedemptionError where
  | vaultLookup (message : String)
  | sharesConversion (error : FloatError)
  deriving DecidableEq

/-- The first step of a redemption, as far as the withdrawal it submits. -/
def startRedemption (vaultTokenForSymbol : Symbol → Except String EvmAddress) (symbol : Symbol)
    (quantity : FractionalShares) : Except RedemptionError VaultWithdrawal := do
  let token ← (vaultTokenForSymbol symbol).mapError RedemptionError.vaultLookup
  let amount ← (toU256Decimals18 quantity).mapError RedemptionError.sharesConversion
  return ⟨token, amount⟩

/-! ## What vault tokens are worth -/

namespace UnderlyingPerWrapped

def worth (vaultRatio : UnderlyingPerWrapped) (wrapped : ℚ) : ℚ :=
  wrapped * (vaultRatio.ratio / ratioOne)

/-- What the conversion makes of it: rounded down twice, to token units. -/
def counted (vaultRatio : UnderlyingPerWrapped) (wrapped : ℚ) : ℚ :=
  (⌊wrapped * 10 ^ 18⌋₊ * vaultRatio.ratio / ratioOne : Nat) / 10 ^ 18

variable (vaultRatio : UnderlyingPerWrapped)

theorem perToken_pos : (0 : ℚ) < vaultRatio.ratio / ratioOne := by
  have ratio : (0 : ℚ) < vaultRatio.ratio := by exact_mod_cast vaultRatio.pos
  have one : (0 : ℚ) < ratioOne := by norm_num [ratioOne]
  exact div_pos ratio one

theorem counted_nonneg (wrapped : ℚ) : 0 ≤ vaultRatio.counted wrapped :=
  div_nonneg (Nat.cast_nonneg _) (by positivity)

theorem counted_le_worth {wrapped : ℚ} (nonneg : 0 ≤ wrapped) :
    vaultRatio.counted wrapped ≤ vaultRatio.worth wrapped := by
  have units : (⌊wrapped * 10 ^ 18⌋₊ : ℚ) ≤ wrapped * 10 ^ 18 :=
    Nat.floor_le (mul_nonneg nonneg (by positivity))
  have quotient :
      ((⌊wrapped * 10 ^ 18⌋₊ * vaultRatio.ratio / ratioOne : Nat) : ℚ) ≤
        ⌊wrapped * 10 ^ 18⌋₊ * vaultRatio.ratio / ratioOne := by
    have divided := @Nat.cast_div_le ℚ _ _ _ (⌊wrapped * 10 ^ 18⌋₊ * vaultRatio.ratio) ratioOne
    rwa [Nat.cast_mul] at divided
  have scaled := mul_le_mul_of_nonneg_right units vaultRatio.perToken_pos.le
  rw [counted, worth, div_le_iff₀ (by positivity)]
  calc ((⌊wrapped * 10 ^ 18⌋₊ * vaultRatio.ratio / ratioOne : Nat) : ℚ)
      ≤ ⌊wrapped * 10 ^ 18⌋₊ * vaultRatio.ratio / ratioOne := quotient
    _ = ⌊wrapped * 10 ^ 18⌋₊ * (vaultRatio.ratio / ratioOne) := mul_div_assoc _ _ _
    _ ≤ wrapped * 10 ^ 18 * (vaultRatio.ratio / ratioOne) := scaled
    _ = wrapped * (vaultRatio.ratio / ratioOne) * 10 ^ 18 := mul_right_comm _ _ _

end UnderlyingPerWrapped

/-! ## Conversions that succeed -/

theorem toU256Decimals18_eq_ok {shares : FractionalShares} {units : Nat} :
    toU256Decimals18 shares = .ok units ↔
      0 ≤ shares ∧ units = ⌊shares * 10 ^ 18⌋₊ ∧ units ≤ u256Max := by
  unfold toU256Decimals18
  split
  case isTrue zero =>
      subst zero
      simp only [Except.ok.injEq, le_refl, zero_mul, Nat.floor_zero, true_and]
      constructor
      · rintro rfl
        exact ⟨rfl, Nat.zero_le _⟩
      · intro same
        exact same.1.symm
  case isFalse => exact toFixedDecimalLossy_eq_ok

section Exact

variable [FloatFormat] (exact : FloatFormat.IsExact)
include exact

theorem fromU256Decimals18_exact (units : Nat) :
    fromU256Decimals18 units = .ok (units / 10 ^ 18 : ℚ) := by
  unfold fromU256Decimals18 fromFixedDecimal
  split
  case isTrue zero => simp [zero]
  case isFalse => exact exact _

/-- The holding is counted in token units, and there are no more than fit. -/
theorem UnderlyingPerWrapped.toUnderlyingFractional_eq_ok {vaultRatio : UnderlyingPerWrapped}
    {wrapped underlying : FractionalShares}
    (converted : vaultRatio.toUnderlyingFractional wrapped = .ok underlying) :
    0 ≤ wrapped ∧ underlying = vaultRatio.counted wrapped ∧
      underlying * 10 ^ 18 ≤ u256Max := by
  obtain ⟨wrappedUnits, before, converted⟩ := bind_eq_ok.mp converted
  obtain ⟨nonneg, rfl, -⟩ := toU256Decimals18_eq_ok.mp (mapError_eq_ok.mp before)
  obtain ⟨underlyingUnits, through, converted⟩ := bind_eq_ok.mp converted
  unfold toUnderlying at through
  split at through
  case isTrue => cases through
  case isFalse fits =>
      cases through
      rw [fromU256Decimals18_exact exact] at converted
      cases converted
      have units : ⌊wrapped * 10 ^ 18⌋₊ * vaultRatio.ratio / ratioOne ≤ u256Max :=
        (Nat.div_le_self _ _).trans (not_lt.mp fits)
      refine ⟨nonneg, rfl, ?_⟩
      rw [div_mul_cancel₀ _ (by positivity)]
      exact_mod_cast units

end Exact

end Liquidity
