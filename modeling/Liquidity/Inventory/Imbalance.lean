import Liquidity.FixedDecimal
import Liquidity.Inventory.View

/-!
# Imbalances

The share of an asset that is held onchain is compared with a band around a
target. Outside the band there is an excess: what has to change sides to meet the
target. Equities are held onchain as vault tokens, each of which is worth some of
the underlying; cash is compared by the gross balance of the broker.
-/

namespace Liquidity

structure ImbalanceThreshold where
  target : ℚ
  deviation : ℚ
  target_nonneg : 0 ≤ target
  target_le_one : target ≤ 1
  deviation_nonneg : 0 ≤ deviation

inductive Imbalance where
  | tooMuchOnchain (excess : ℚ)
  | tooMuchOffchain (excess : ℚ)
  deriving DecidableEq

def VenueBalance.total [FloatFormat] (balance : VenueBalance) : Except FloatError ℚ :=
  Decimal.add balance.available balance.inflight

/-- What is missing from the target, on either side of the band. -/
def imbalanceBetween [FloatFormat] (threshold : ImbalanceThreshold) (onchain offchain : ℚ) :
    Except FloatError (Option Imbalance) := do
  let total ← Decimal.add onchain offchain
  if total = 0 then return none
  let ratio ← Decimal.div onchain total
  let lower ← Decimal.sub threshold.target threshold.deviation
  let upper ← Decimal.add threshold.target threshold.deviation
  if ratio < lower then
    let target ← Decimal.mul total threshold.target
    let excess ← Decimal.sub target onchain
    return some (.tooMuchOffchain excess)
  else if upper < ratio then
    let target ← Decimal.mul total threshold.target
    let excess ← Decimal.sub onchain target
    return some (.tooMuchOnchain excess)
  else return none

/-! ## Vault tokens -/

/-- One vault token in 10^18 parts, worth this many of the underlying. -/
structure UnderlyingPerWrapped where
  ratio : Nat
  pos : 0 < ratio
  deriving DecidableEq

def ratioOne : Nat := 10 ^ 18

inductive RatioError where
  | overflow
  | sharesConversion (error : FloatError)
  deriving DecidableEq

def UnderlyingPerWrapped.toUnderlying (vaultRatio : UnderlyingPerWrapped) (wrapped : Nat) :
    Except RatioError Nat :=
  if u256Max < wrapped * vaultRatio.ratio then .error .overflow
  else .ok (wrapped * vaultRatio.ratio / ratioOne)

/-- Shares as token units, of which there are 10^18 to a share. -/
def toU256Decimals18 (shares : FractionalShares) : Except FloatError Nat :=
  if shares = 0 then .ok 0 else toFixedDecimalLossy shares 18

def fromU256Decimals18 [FloatFormat] (units : Nat) : Except FloatError FractionalShares :=
  if units = 0 then .ok 0 else fromFixedDecimal units 18

def UnderlyingPerWrapped.toUnderlyingFractional [FloatFormat] (vaultRatio : UnderlyingPerWrapped)
    (wrapped : FractionalShares) : Except RatioError FractionalShares := do
  let wrappedUnits ← (toU256Decimals18 wrapped).mapError RatioError.sharesConversion
  let underlyingUnits ← vaultRatio.toUnderlying wrappedUnits
  (fromU256Decimals18 underlyingUnits).mapError RatioError.sharesConversion

/-! ## Equities -/

inductive EquityImbalanceError where
  | symbolNotTracked (symbol : Symbol)
  | ratio (error : RatioError)
  | float (error : FloatError)
  deriving DecidableEq

def Inventory.detectImbalanceNormalized [FloatFormat] (inventory : Inventory)
    (threshold : ImbalanceThreshold) (normalizedOnchain : FractionalShares) :
    Except FloatError (Option Imbalance) :=
  if inventory.hasInflight then .ok none
  else
    match inventory.offchain with
    | none => .ok none
    | some offchainVenue => do
        let offchain ← offchainVenue.total
        imbalanceBetween threshold normalizedOnchain offchain

def Inventory.checkEquityImbalance [FloatFormat] (inventory : Inventory)
    (threshold : ImbalanceThreshold) (vaultRatio : UnderlyingPerWrapped) :
    Except EquityImbalanceError (Option Imbalance) :=
  match inventory.onchain with
  | none => .ok none
  | some onchainVenue => do
      let onchainWrapped ← onchainVenue.total.mapError EquityImbalanceError.float
      let onchainEquivalent ←
        (vaultRatio.toUnderlyingFractional onchainWrapped).mapError EquityImbalanceError.ratio
      (inventory.detectImbalanceNormalized threshold onchainEquivalent).mapError
        EquityImbalanceError.float

def EquityView.checkEquityImbalance [FloatFormat] (view : EquityView) (symbol : Symbol)
    (threshold : ImbalanceThreshold) (vaultRatio : UnderlyingPerWrapped) :
    Except EquityImbalanceError (Option Imbalance) :=
  match view.equities.lookup symbol with
  | none => .error (.symbolNotTracked symbol)
  | some inventory => inventory.checkEquityImbalance threshold vaultRatio

/-! ## Cash -/

/-- What the cash transfers read of the view. The broker reports whole cents; here
there may be parts of one, which a transfer can move. -/
structure CashView where
  usdc : Inventory
  offchainGrossUsdCents : Option ℚ
  withdrawableCashCents : Option ℚ

def usdcFromCents [FloatFormat] (cents : ℚ) : Except FloatError Usdc := Decimal.div cents 100

/-- With a reserve the broker's balance is compared gross, or not at all. -/
def CashView.offchainCash [FloatFormat] (view : CashView) (offchainVenue : VenueBalance)
    (reserved : Option Usd) : Except FloatError (Option Usdc) :=
  match view.offchainGrossUsdCents, reserved with
  | some cents, _ => (usdcFromCents cents).map some
  | none, none => offchainVenue.total.map some
  | none, some _ => .ok none

def CashView.checkUsdcImbalanceWithGrossOffchain [FloatFormat] (view : CashView)
    (threshold : ImbalanceThreshold) (reserved : Option Usd) :
    Except FloatError (Option Imbalance) :=
  match view.usdc.onchain, view.usdc.offchain with
  | some onchainVenue, some offchainVenue =>
      if onchainVenue.hasInflight || offchainVenue.hasInflight then .ok none
      else do
        let onchain ← onchainVenue.total
        match ← view.offchainCash offchainVenue reserved with
        | none => return none
        | some offchain => imbalanceBetween threshold onchain offchain
  | _, _ => .ok none

/-- What may leave the broker above the reserve. -/
def CashView.alpacaToBaseUsdcCapacity [FloatFormat] (view : CashView) (reserved : Option Usd) :
    Except FloatError (Option Usdc) :=
  match view.withdrawableCashCents with
  | none => .ok none
  | some withdrawableCents => do
      let withdrawable ← usdcFromCents withdrawableCents
      let reserved := reserved.getD 0
      if withdrawable < reserved then return some 0
      return some (← Decimal.sub withdrawable reserved)

/-! ## Exact imbalances -/

section Exact

variable [FloatFormat] (exact : FloatFormat.IsExact)
include exact

theorem VenueBalance.total_exact (balance : VenueBalance) :
    balance.total = .ok (balance.available + balance.inflight) := exact _

theorem VenueBalance.total_of_still {balance : VenueBalance} (still : balance.inflight = 0) :
    balance.total = .ok balance.available := by
  rw [balance.total_exact exact, still, add_zero]

/-- Outside the band, and by how much the target is missed. -/
theorem imbalanceBetween_exact (threshold : ImbalanceThreshold) (onchain offchain : ℚ) :
    imbalanceBetween threshold onchain offchain = .ok
      (if onchain + offchain = 0 then none
      else if onchain / (onchain + offchain) < threshold.target - threshold.deviation then
        some (.tooMuchOffchain ((onchain + offchain) * threshold.target - onchain))
      else if threshold.target + threshold.deviation < onchain / (onchain + offchain) then
        some (.tooMuchOnchain (onchain - (onchain + offchain) * threshold.target))
      else none) := by
  simp only [imbalanceBetween, Decimal.add, Decimal.sub, Decimal.mul, Decimal.div, exact _, bind,
    Except.bind]
  split
  · rfl
  · split
    · rfl
    · split <;> rfl

end Exact

/-- Too little is onchain, below the band. -/
structure ShortOnchain (threshold : ImbalanceThreshold) (onchain offchain excess : ℚ) : Prop where
  total : 0 < onchain + offchain
  outside : onchain / (onchain + offchain) < threshold.target - threshold.deviation
  excess : excess = (onchain + offchain) * threshold.target - onchain

structure LongOnchain (threshold : ImbalanceThreshold) (onchain offchain excess : ℚ) : Prop where
  total : 0 < onchain + offchain
  outside : threshold.target + threshold.deviation < onchain / (onchain + offchain)
  excess : excess = onchain - (onchain + offchain) * threshold.target

section Sides

variable {threshold : ImbalanceThreshold} {onchain offchain excess : ℚ}

theorem imbalanceBetween_offchain [FloatFormat] (exact : FloatFormat.IsExact)
    (nonneg : 0 ≤ onchain + offchain)
    (found : imbalanceBetween threshold onchain offchain =
      .ok (some (.tooMuchOffchain excess))) : ShortOnchain threshold onchain offchain excess := by
  rw [imbalanceBetween_exact exact] at found
  simp only [Except.ok.injEq] at found
  split at found
  case isTrue => cases found
  case isFalse total =>
      split at found
      case isTrue outside =>
          cases found
          exact ⟨lt_of_le_of_ne nonneg (Ne.symm total), outside, rfl⟩
      case isFalse => split at found <;> cases found

theorem imbalanceBetween_onchain [FloatFormat] (exact : FloatFormat.IsExact)
    (nonneg : 0 ≤ onchain + offchain)
    (found : imbalanceBetween threshold onchain offchain =
      .ok (some (.tooMuchOnchain excess))) : LongOnchain threshold onchain offchain excess := by
  rw [imbalanceBetween_exact exact] at found
  simp only [Except.ok.injEq] at found
  split at found
  case isTrue => cases found
  case isFalse total =>
      split at found
      case isTrue => cases found
      case isFalse =>
          split at found
          case isTrue outside =>
              cases found
              exact ⟨lt_of_le_of_ne nonneg (Ne.symm total), outside, rfl⟩
          case isFalse => cases found

/-- No more is missing than there is on the other side. -/
theorem ShortOnchain.excess_le (short : ShortOnchain threshold onchain offchain excess) :
    excess ≤ offchain := by
  have most : (onchain + offchain) * threshold.target ≤ onchain + offchain :=
    mul_le_of_le_one_right short.total.le threshold.target_le_one
  rw [short.excess]
  linarith

theorem LongOnchain.excess_le (long : LongOnchain threshold onchain offchain excess) :
    excess ≤ onchain := by
  have least : 0 ≤ (onchain + offchain) * threshold.target :=
    mul_nonneg long.total.le threshold.target_nonneg
  rw [long.excess]
  linarith

end Sides

end Liquidity
