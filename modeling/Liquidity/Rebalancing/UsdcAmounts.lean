import Liquidity.Inventory.Imbalance

/-!
# How much cash to rebalance

Cash outside its band is bridged: from the broker no more than it lets out above
the reserve, in whole millionths of a dollar, and from Base likewise. The broker
pays out no small amounts.
-/

namespace Liquidity

def alpacaMinimumWithdrawal : Usdc := 51

def usdcTransferMaxDecimalPlaces : Nat := 6

inductive UsdcRebalanceOperation where
  | alpacaToBase (amount : Usdc)
  | baseToAlpaca (amount : Usdc)
  deriving DecidableEq

/-- Why a check led to no operation. -/
inductive UsdcTriggerSkip where
  | noImbalance
  | missingWithdrawableCash
  | reserveCapacityExhausted
  | withdrawableBelowMinimum
  | belowMinimumWithdrawal (excess : Usdc)
  | arithmeticError
  deriving DecidableEq

def capUsdc (amount : Usdc) (usdcLimit : Option Usdc) : Usdc :=
  match usdcLimit with
  | none => amount
  | some cap => if cap < amount then cap else amount

def capUsdcByAlpacaCapacity (amount capacity : Usdc) : Usdc :=
  if capacity < amount then capacity else amount

def truncateForTransfer [FloatFormat] (amount : Usdc) : Except FloatError Usdc :=
  truncateToDecimals amount usdcTransferMaxDecimalPlaces

/-- Arithmetic inside a check: what went wrong is logged. -/
def arithmetic {ε α : Type} (result : Except ε α) : Except UsdcTriggerSkip α :=
  result.mapError fun _ => .arithmeticError

def buildAlpacaToBase [FloatFormat] (excess : Usdc) (capacity : Option Usdc)
    (usdcLimit : Option Usdc) (reserved : Option Usd) :
    Except UsdcTriggerSkip UsdcRebalanceOperation :=
  match capacity with
  | none => .error .missingWithdrawableCash
  | some capacity =>
      if capacity < alpacaMinimumWithdrawal then
        match reserved with
        | none => .error .withdrawableBelowMinimum
        | some _ => .error .reserveCapacityExhausted
      else do
        let amount ← arithmetic
          (truncateForTransfer (capUsdcByAlpacaCapacity (capUsdc excess usdcLimit) capacity))
        if amount < alpacaMinimumWithdrawal then throw (.belowMinimumWithdrawal amount)
        return .alpacaToBase amount

def buildBaseToAlpaca [FloatFormat] (excess : Usdc) (usdcLimit : Option Usdc) :
    Except UsdcTriggerSkip UsdcRebalanceOperation := do
  let amount ← arithmetic (truncateForTransfer (capUsdc excess usdcLimit))
  if amount = 0 then throw .noImbalance
  return .baseToAlpaca amount

def CashView.checkImbalanceAndBuildOperation [FloatFormat] (view : CashView)
    (threshold : ImbalanceThreshold) (usdcLimit : Option Usdc) (reserved : Option Usd) :
    Except UsdcTriggerSkip UsdcRebalanceOperation := do
  let imbalance ← arithmetic (view.checkUsdcImbalanceWithGrossOffchain threshold reserved)
  match imbalance with
  | none => throw .noImbalance
  | some (.tooMuchOffchain excess) =>
      let capacity ← arithmetic (view.alpacaToBaseUsdcCapacity reserved)
      buildAlpacaToBase excess capacity usdcLimit reserved
  | some (.tooMuchOnchain excess) => buildBaseToAlpaca excess usdcLimit

/-! ## Transfers that arrive -/

/-- Add to a venue that is known. -/
def credited (balance : Option VenueBalance) (amount : Usdc) : Option VenueBalance :=
  balance.map fun known => ⟨known.available + amount, known.inflight⟩

/-- Cash that came onchain from the broker, or went there if negative. -/
def CashView.bridged (view : CashView) (amount : Usdc) : CashView where
  usdc :=
    { view.usdc with
      onchain := credited view.usdc.onchain amount
      offchain := credited view.usdc.offchain (-amount) }
  offchainGrossUsdCents := view.offchainGrossUsdCents.map (· - 100 * amount)
  withdrawableCashCents := view.withdrawableCashCents.map (· - 100 * amount)

/-- What an operation brings onchain. -/
def UsdcRebalanceOperation.toOnchain : UsdcRebalanceOperation → Usdc
  | .alpacaToBase amount => amount
  | .baseToAlpaca amount => -amount

def CashView.performed (view : CashView) (operation : UsdcRebalanceOperation) : CashView :=
  view.bridged operation.toOnchain

/-- Check, transfer, check again, and nothing else changes. -/
def CashView.operations [FloatFormat] (threshold : ImbalanceThreshold) (usdcLimit : Option Usdc)
    (reserved : Option Usd) : Nat → CashView → List UsdcRebalanceOperation
  | 0, _ => []
  | rounds + 1, view =>
      match view.checkImbalanceAndBuildOperation threshold usdcLimit reserved with
      | .error _ => []
      | .ok operation =>
          operation :: operations threshold usdcLimit reserved rounds (view.performed operation)

/-- Cash at the broker as it is compared: gross if it was reported. -/
def CashView.grossOffchain (view : CashView) : Usdc :=
  match view.offchainGrossUsdCents with
  | some cents => cents / 100
  | none => view.usdc.available .hedging

def CashView.onchain (view : CashView) : Usdc := view.usdc.available .marketMaking

/-- What the target lacks onchain. -/
def CashView.missing (view : CashView) (threshold : ImbalanceThreshold) : ℚ :=
  (view.onchain + view.grossOffchain) * threshold.target - view.onchain

end Liquidity
