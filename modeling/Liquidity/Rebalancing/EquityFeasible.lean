import Liquidity.Rebalancing.EquityAmounts

/-!
# Feasible equity operations

An operation is feasible when both venues can pay for it and when it brings the
holding closer to the target without passing it. The quantity is an amount of the
underlying, and a redemption withdraws that many vault tokens; the holding is
compared after it was rounded down to token units.
-/

namespace Liquidity

/-! ## What an operation should do -/

/-- Vault tokens onchain and shares at the broker. -/
structure EquityHoldings where
  wrapped : FractionalShares
  shares : FractionalShares

namespace EquityHoldings

def ratio (holdings : EquityHoldings) (vaultRatio : UnderlyingPerWrapped) : ℚ :=
  vaultRatio.worth holdings.wrapped / (vaultRatio.worth holdings.wrapped + holdings.shares)

def minted (holdings : EquityHoldings) (vaultRatio : UnderlyingPerWrapped)
    (quantity : FractionalShares) : EquityHoldings :=
  ⟨holdings.wrapped + quantity / (vaultRatio.ratio / ratioOne), holdings.shares - quantity⟩

def redeemed (holdings : EquityHoldings) (vaultRatio : UnderlyingPerWrapped) (wrapped : ℚ) :
    EquityHoldings :=
  ⟨holdings.wrapped - wrapped, holdings.shares + vaultRatio.worth wrapped⟩

end EquityHoldings

def Inventory.holdings (inventory : Inventory) : EquityHoldings :=
  ⟨inventory.available .marketMaking, inventory.available .hedging⟩

/-- Some of it, in whole billionths, within the operator's limit. -/
structure TransferableQuantity (sharesLimit : Option Positive) (quantity : FractionalShares) :
    Prop where
  positive : 0 < quantity
  whole : Grid.On (10 ^ 9) quantity
  limited : ∀ cap, sharesLimit = some cap → quantity ≤ cap.inner

structure FeasibleMint (holdings : EquityHoldings) (threshold : ImbalanceThreshold)
    (vaultRatio : UnderlyingPerWrapped) (quantity : FractionalShares) : Prop where
  outside : holdings.ratio vaultRatio < threshold.target - threshold.deviation
  covered : quantity ≤ holdings.shares
  closer : holdings.ratio vaultRatio < (holdings.minted vaultRatio quantity).ratio vaultRatio
  within : (holdings.minted vaultRatio quantity).ratio vaultRatio ≤ threshold.target

structure FeasibleRedemption (holdings : EquityHoldings) (threshold : ImbalanceThreshold)
    (vaultRatio : UnderlyingPerWrapped) (wrapped : FractionalShares) : Prop where
  outside : threshold.target + threshold.deviation < holdings.ratio vaultRatio
  covered : wrapped ≤ holdings.wrapped
  closer : (holdings.redeemed vaultRatio wrapped).ratio vaultRatio < holdings.ratio vaultRatio
  within : threshold.target ≤ (holdings.redeemed vaultRatio wrapped).ratio vaultRatio

/-- A redemption moves what it withdraws, in token units. -/
def TriggeredOperation.Moves (operation : TriggeredOperation) (holdings : EquityHoldings)
    (threshold : ImbalanceThreshold) (vaultRatio : UnderlyingPerWrapped) : Prop :=
  match operation with
  | .mint _ quantity => FeasibleMint holdings threshold vaultRatio quantity
  | .redemption symbol quantity _ _ =>
      ∀ vaultTokenForSymbol withdrawal,
        startRedemption vaultTokenForSymbol symbol quantity = .ok withdrawal →
          FeasibleRedemption holdings threshold vaultRatio (withdrawal.amount / 10 ^ 18)

structure FeasibleEquityOperation (inventory : Inventory) (threshold : ImbalanceThreshold)
    (vaultRatio : UnderlyingPerWrapped) (sharesLimit : Option Positive)
    (operation : TriggeredOperation) : Prop where
  onchainKnown : inventory.onchain.isSome
  offchainKnown : inventory.offchain.isSome
  still : inventory.hasInflight = false
  quantity : TransferableQuantity sharesLimit operation.quantity
  moves : operation.Moves inventory.holdings threshold vaultRatio

/-! ## When it does -/

def missingOnchain (threshold : ImbalanceThreshold) (onchain offchain : ℚ) : ℚ :=
  (onchain + offchain) * threshold.target - onchain

/-- What is missing for the exact holding is enough for what is minted. -/
structure MintFits (holdings : EquityHoldings) (threshold : ImbalanceThreshold)
    (vaultRatio : UnderlyingPerWrapped) (sharesLimit : Option Positive) : Prop where
  outside : holdings.ratio vaultRatio < threshold.target - threshold.deviation
  enough : 1 / 10 ^ 9 ≤
    missingOnchain threshold (vaultRatio.counted holdings.wrapped) holdings.shares
  room : ∀ cap, sharesLimit = some cap → 1 / 10 ^ 9 ≤ cap.inner
  exactly : ∀ amount, TransferableQuantity sharesLimit amount →
    amount ≤ missingOnchain threshold (vaultRatio.counted holdings.wrapped) holdings.shares →
      amount ≤ missingOnchain threshold (vaultRatio.worth holdings.wrapped) holdings.shares

/-- What that many vault tokens are worth is there to be redeemed. -/
structure RedemptionFits (holdings : EquityHoldings) (threshold : ImbalanceThreshold)
    (vaultRatio : UnderlyingPerWrapped) (sharesLimit : Option Positive) : Prop where
  enough : 1 / 10 ^ 9 ≤
    -missingOnchain threshold (vaultRatio.counted holdings.wrapped) holdings.shares
  room : ∀ cap, sharesLimit = some cap → 1 / 10 ^ 9 ≤ cap.inner
  inTokens : ∀ amount, TransferableQuantity sharesLimit amount →
    amount ≤ -missingOnchain threshold (vaultRatio.counted holdings.wrapped) holdings.shares →
      vaultRatio.worth amount ≤
        -missingOnchain threshold (vaultRatio.worth holdings.wrapped) holdings.shares

/-- The side of the band is the one of the counted holding. -/
def AmountsFit (holdings : EquityHoldings) (threshold : ImbalanceThreshold)
    (vaultRatio : UnderlyingPerWrapped) (sharesLimit : Option Positive) : Prop :=
  let counted := vaultRatio.counted holdings.wrapped
  (counted / (counted + holdings.shares) < threshold.target - threshold.deviation →
    MintFits holdings threshold vaultRatio sharesLimit) ∧
  (threshold.target + threshold.deviation < counted / (counted + holdings.shares) →
    RedemptionFits holdings threshold vaultRatio sharesLimit)

/-! ## Sizing -/

/-- The most that may be moved of an excess. -/
structure Sized (excess : ℚ) (sharesLimit : Option Positive) (quantity : ℚ) : Prop where
  nonneg : 0 ≤ quantity
  whole : Grid.On (10 ^ 9) quantity
  within : quantity ≤ excess
  limited : ∀ cap, sharesLimit = some cap → quantity ≤ cap.inner
  most : ∀ amount, Grid.On (10 ^ 9) amount → amount ≤ excess →
    (∀ cap, sharesLimit = some cap → amount ≤ cap.inner) → amount ≤ quantity

theorem capShares_le (excess : ℚ) (sharesLimit : Option Positive) :
    capShares excess sharesLimit ≤ excess := by
  unfold capShares
  split
  · exact le_rfl
  · rw [capped_eq_min]
    exact min_le_left _ _

theorem capShares_limited {excess : ℚ} {sharesLimit : Option Positive} {cap : Positive}
    (limited : sharesLimit = some cap) : capShares excess sharesLimit ≤ cap.inner := by
  subst limited
  simp only [capShares, capped_eq_min]
  exact min_le_right _ _

theorem le_capShares {amount excess : ℚ} {sharesLimit : Option Positive} (within : amount ≤ excess)
    (limited : ∀ cap, sharesLimit = some cap → amount ≤ cap.inner) :
    amount ≤ capShares excess sharesLimit := by
  unfold capShares
  split
  · exact within
  · rw [capped_eq_min]
    exact le_min within (limited _ rfl)

theorem sized_of_truncated [FloatFormat] (exact : FloatFormat.IsExact) {excess quantity : ℚ}
    {sharesLimit : Option Positive}
    (truncated : truncateForAlpaca (capShares excess sharesLimit) = .ok quantity) :
    Sized excess sharesLimit quantity := by
  have below := truncateToDecimals_le exact truncated
  constructor
  · exact truncateToDecimals_nonneg exact truncated
  · exact truncateToDecimals_on exact truncated
  · exact below.trans (capShares_le excess sharesLimit)
  · intro cap limited
    exact below.trans (capShares_limited limited)
  · intro amount whole within limited
    exact le_truncateToDecimals exact truncated whole (le_capShares within limited)

theorem on_nano : Grid.On (10 ^ 9 : ℚ) (1 / 10 ^ 9) := ⟨1, by norm_num⟩

namespace Sized

variable {excess quantity : ℚ} {sharesLimit : Option Positive}
  (sized : Sized excess sharesLimit quantity)
include sized

/-- Something is moved if a billionth may be. -/
theorem transferable (enough : 1 / 10 ^ 9 ≤ excess)
    (room : ∀ cap, sharesLimit = some cap → 1 / 10 ^ 9 ≤ cap.inner) :
    TransferableQuantity sharesLimit quantity where
  positive := by
    have least := sized.most _ on_nano enough room
    have nano : (0 : ℚ) < 1 / 10 ^ 9 := by norm_num
    exact nano.trans_le least
  whole := sized.whole
  limited := sized.limited

theorem enough (positive : 0 < quantity) : 1 / 10 ^ 9 ≤ excess :=
  (Grid.step_le (by norm_num) sized.whole positive).trans sized.within

theorem room (positive : 0 < quantity) (cap : Positive) (limited : sharesLimit = some cap) :
    1 / 10 ^ 9 ≤ cap.inner :=
  (Grid.step_le (by norm_num) sized.whole positive).trans (sized.limited cap limited)

theorem amount_le {amount : ℚ} (transferable : TransferableQuantity sharesLimit amount)
    (within : amount ≤ excess) : amount ≤ quantity :=
  sized.most amount transferable.whole within transferable.limited

end Sized

/-! ## What was built -/

/-- Both venues are known and still, and the counted holding is outside the band. -/
structure EquityOperationBuilt [FloatFormat] (inventory : Inventory) (symbol : Symbol)
    (threshold : ImbalanceThreshold) (wrappedToken unwrappedToken : EvmAddress)
    (vaultRatio : UnderlyingPerWrapped) (sharesLimit : Option Positive)
    (operation : TriggeredOperation) : Prop where
  onchainKnown : inventory.onchain.isSome
  offchainKnown : inventory.offchain.isSome
  still : inventory.hasInflight = false
  nonneg : 0 ≤ inventory.holdings.wrapped
  fits : vaultRatio.counted inventory.holdings.wrapped * 10 ^ 18 ≤ u256Max
  due : ∃ excess quantity, Sized excess sharesLimit quantity ∧
    (imbalanceBetween threshold (vaultRatio.counted inventory.holdings.wrapped)
        inventory.holdings.shares = .ok (some (.tooMuchOffchain excess)) ∧
      operation = .mint symbol quantity ∨
    imbalanceBetween threshold (vaultRatio.counted inventory.holdings.wrapped)
        inventory.holdings.shares = .ok (some (.tooMuchOnchain excess)) ∧
      operation = .redemption symbol quantity wrappedToken unwrappedToken)

section Built

variable [FloatFormat] (exact : FloatFormat.IsExact) {inventory : Inventory} {symbol : Symbol}
  {threshold : ImbalanceThreshold} {vaultRatio : UnderlyingPerWrapped}
include exact

/-- An imbalance is found for the counted holding, with nothing in flight. -/
theorem checkEquityImbalance_some {imbalance : Imbalance}
    (found : inventory.checkEquityImbalance threshold vaultRatio = .ok (some imbalance)) :
    inventory.onchain.isSome ∧ inventory.offchain.isSome ∧ inventory.hasInflight = false ∧
      0 ≤ inventory.holdings.wrapped ∧
      vaultRatio.counted inventory.holdings.wrapped * 10 ^ 18 ≤ u256Max ∧
      imbalanceBetween threshold (vaultRatio.counted inventory.holdings.wrapped)
        inventory.holdings.shares = .ok (some imbalance) := by
  obtain ⟨onchain, offchain, lastRebalancing⟩ := inventory
  unfold Inventory.checkEquityImbalance at found
  cases onchain with
  | none => cases found
  | some onchainVenue =>
      obtain ⟨onchainWrapped, added, found⟩ := bind_eq_ok.mp found
      obtain ⟨onchainEquivalent, converted, found⟩ := bind_eq_ok.mp found
      obtain ⟨nonneg, rfl, fits⟩ := vaultRatio.toUnderlyingFractional_eq_ok exact
        (mapError_eq_ok.mp converted)
      have found := mapError_eq_ok.mp found
      unfold Inventory.detectImbalanceNormalized at found
      split at found
      case isTrue => cases found
      case isFalse still =>
          cases offchain with
          | none => cases found
          | some offchainVenue =>
              obtain ⟨shares, summed, found⟩ := bind_eq_ok.mp found
              have still : Inventory.hasInflight
                  ⟨some onchainVenue, some offchainVenue, lastRebalancing⟩ = false := by
                simpa using still
              have landed := still
              simp only [Inventory.hasInflight, Option.any_some, VenueBalance.hasInflight,
                Bool.or_eq_false_iff, decide_eq_false_iff_not, ne_eq, not_not] at landed
              rw [onchainVenue.total_of_still exact landed.1] at added
              rw [VenueBalance.total_of_still exact landed.2] at summed
              cases added
              cases summed
              exact ⟨rfl, rfl, still, nonneg, fits, found⟩

theorem checkImbalanceAndBuildOperation_some {view : EquityView} {sharesLimit : Option Positive}
    {wrappedToken unwrappedToken : EvmAddress} {operation : TriggeredOperation}
    (tracked : view.equities.lookup symbol = some inventory)
    (built : view.checkImbalanceAndBuildOperation symbol threshold wrappedToken unwrappedToken
      vaultRatio sharesLimit = .ok (some operation)) :
    EquityOperationBuilt inventory symbol threshold wrappedToken unwrappedToken vaultRatio
      sharesLimit operation := by
  obtain ⟨imbalance, checked, built⟩ := bind_eq_ok.mp built
  have found := mapError_eq_ok.mp checked
  rw [EquityView.checkEquityImbalance, tracked] at found
  cases imbalance with
  | none => cases built
  | some imbalance =>
      obtain ⟨onchainKnown, offchainKnown, still, nonneg, fits, between⟩ :=
        checkEquityImbalance_some exact found
      refine ⟨onchainKnown, offchainKnown, still, nonneg, fits, ?_⟩
      cases imbalance with
      | tooMuchOffchain excess =>
          obtain ⟨quantity, truncated, same⟩ := bind_eq_ok.mp built
          cases same
          have sized := sized_of_truncated exact (mapError_eq_ok.mp truncated)
          exact ⟨excess, quantity, sized, .inl ⟨between, rfl⟩⟩
      | tooMuchOnchain excess =>
          obtain ⟨quantity, truncated, same⟩ := bind_eq_ok.mp built
          cases same
          have sized := sized_of_truncated exact (mapError_eq_ok.mp truncated)
          exact ⟨excess, quantity, sized, .inr ⟨between, rfl⟩⟩

end Built

/-! ## What moves -/

namespace UnderlyingPerWrapped

variable (vaultRatio : UnderlyingPerWrapped)

theorem worth_add (a b : ℚ) : vaultRatio.worth (a + b) = vaultRatio.worth a + vaultRatio.worth b :=
  add_mul a b _

theorem worth_sub (a b : ℚ) : vaultRatio.worth (a - b) = vaultRatio.worth a - vaultRatio.worth b :=
  sub_mul a b _

theorem worth_div (quantity : ℚ) :
    vaultRatio.worth (quantity / (vaultRatio.ratio / ratioOne)) = quantity :=
  div_mul_cancel₀ _ vaultRatio.perToken_pos.ne'

theorem worth_le_worth {a b : ℚ} : vaultRatio.worth a ≤ vaultRatio.worth b ↔ a ≤ b :=
  mul_le_mul_iff_of_pos_right vaultRatio.perToken_pos

theorem worth_pos {a : ℚ} : 0 < vaultRatio.worth a ↔ 0 < a :=
  mul_pos_iff_of_pos_right vaultRatio.perToken_pos

end UnderlyingPerWrapped

section Moves

variable {holdings : EquityHoldings} {threshold : ImbalanceThreshold}
  {vaultRatio : UnderlyingPerWrapped}

theorem ratio_minted (quantity : ℚ) : (holdings.minted vaultRatio quantity).ratio vaultRatio =
    (vaultRatio.worth holdings.wrapped + quantity) /
      (vaultRatio.worth holdings.wrapped + holdings.shares) := by
  simp only [EquityHoldings.ratio, EquityHoldings.minted, vaultRatio.worth_add,
    vaultRatio.worth_div, add_add_sub_cancel]

theorem ratio_redeemed (wrapped : ℚ) : (holdings.redeemed vaultRatio wrapped).ratio vaultRatio =
    (vaultRatio.worth holdings.wrapped - vaultRatio.worth wrapped) /
      (vaultRatio.worth holdings.wrapped + holdings.shares) := by
  simp only [EquityHoldings.ratio, EquityHoldings.redeemed, vaultRatio.worth_sub,
    sub_add_add_cancel]

variable (total : 0 < vaultRatio.worth holdings.wrapped + holdings.shares)
include total

theorem minted_closer {quantity : ℚ} :
    holdings.ratio vaultRatio < (holdings.minted vaultRatio quantity).ratio vaultRatio ↔
      0 < quantity := by
  rw [ratio_minted, EquityHoldings.ratio, div_lt_div_iff_of_pos_right total, lt_add_iff_pos_right]

theorem minted_within {quantity : ℚ} :
    (holdings.minted vaultRatio quantity).ratio vaultRatio ≤ threshold.target ↔
      quantity ≤ missingOnchain threshold (vaultRatio.worth holdings.wrapped) holdings.shares := by
  rw [ratio_minted, div_le_iff₀ total, missingOnchain, le_sub_iff_add_le',
    mul_comm threshold.target]

theorem redeemed_closer {wrapped : ℚ} :
    (holdings.redeemed vaultRatio wrapped).ratio vaultRatio < holdings.ratio vaultRatio ↔
      0 < wrapped := by
  rw [ratio_redeemed, EquityHoldings.ratio, div_lt_div_iff_of_pos_right total, sub_lt_self_iff,
    vaultRatio.worth_pos]

theorem redeemed_within {wrapped : ℚ} :
    threshold.target ≤ (holdings.redeemed vaultRatio wrapped).ratio vaultRatio ↔
      vaultRatio.worth wrapped ≤
        -missingOnchain threshold (vaultRatio.worth holdings.wrapped) holdings.shares := by
  rw [ratio_redeemed, le_div_iff₀ total, missingOnchain, neg_sub, le_sub_comm,
    mul_comm threshold.target]

end Moves

/-- Counting less makes the share onchain no larger. -/
theorem div_add_le_div_add {less more offchain : ℚ} (within : less ≤ more)
    (rest : 0 ≤ offchain) (total : 0 < less + offchain) :
    less / (less + offchain) ≤ more / (more + offchain) := by
  have larger : 0 < more + offchain := by linarith
  rw [div_le_div_iff₀ total larger, mul_add, mul_add, mul_comm more less]
  have scaled := mul_le_mul_of_nonneg_right within rest
  linarith

/-! ## Token units -/

/-- Whole billionths of a share are whole token units. -/
theorem toU256Decimals18_of_on {quantity : ℚ} (nonneg : 0 ≤ quantity)
    (whole : Grid.On (10 ^ 9) quantity) (fits : quantity * 10 ^ 18 ≤ u256Max) :
    ∃ amount : Nat, toU256Decimals18 quantity = .ok amount ∧ (amount : ℚ) / 10 ^ 18 = quantity := by
  obtain ⟨nanos, same⟩ := whole
  have units : quantity * 10 ^ 18 = ((nanos * 10 ^ 9 : ℤ) : ℚ) := by
    push_cast
    rw [← same, mul_assoc]
    norm_num
  obtain ⟨amount, cast⟩ : ∃ amount : Nat, quantity * 10 ^ 18 = amount := by
    have counted : 0 ≤ nanos * 10 ^ 9 := by
      have scaled : (0 : ℚ) ≤ ((nanos * 10 ^ 9 : ℤ) : ℚ) := by
        rw [← units]
        positivity
      exact_mod_cast scaled
    obtain ⟨amount, same⟩ := Int.eq_ofNat_of_zero_le counted
    refine ⟨amount, ?_⟩
    rw [units, same]
    rfl
  refine ⟨amount, ?_, ?_⟩
  · rw [toU256Decimals18_eq_ok, cast, Nat.floor_natCast]
    rw [cast] at fits
    exact ⟨nonneg, rfl, by exact_mod_cast fits⟩
  · rw [← cast, mul_div_cancel_right₀ _ (by positivity)]

/-! ## Operations that are feasible -/

section Feasible

variable {holdings : EquityHoldings} {threshold : ImbalanceThreshold}
  {vaultRatio : UnderlyingPerWrapped} {sharesLimit : Option Positive} {excess quantity : ℚ}

theorem feasibleMint_iff (nonneg : 0 ≤ holdings.wrapped)
    (sized : Sized excess sharesLimit quantity)
    (short : ShortOnchain threshold (vaultRatio.counted holdings.wrapped) holdings.shares excess) :
    TransferableQuantity sharesLimit quantity ∧
        FeasibleMint holdings threshold vaultRatio quantity ↔
      MintFits holdings threshold vaultRatio sharesLimit := by
  have counted : excess =
      missingOnchain threshold (vaultRatio.counted holdings.wrapped) holdings.shares := short.excess
  have total : 0 < vaultRatio.worth holdings.wrapped + holdings.shares := by
    have less := vaultRatio.counted_le_worth nonneg
    have positive := short.total
    linarith
  constructor
  · rintro ⟨transferable, feasible⟩
    constructor
    · exact feasible.outside
    · rw [← counted]
      exact sized.enough transferable.positive
    · exact sized.room transferable.positive
    · intro amount other within
      rw [← counted] at within
      have most := sized.amount_le other within
      exact most.trans ((minted_within total).mp feasible.within)
  · intro fits
    have transferable := sized.transferable (counted ▸ fits.enough) fits.room
    have within := fits.exactly quantity transferable (counted ▸ sized.within)
    have exactly : ShortOnchain threshold (vaultRatio.worth holdings.wrapped) holdings.shares
        (missingOnchain threshold (vaultRatio.worth holdings.wrapped) holdings.shares) :=
      ⟨total, fits.outside, rfl⟩
    refine ⟨transferable, ?_⟩
    constructor
    · exact fits.outside
    · exact within.trans exactly.excess_le
    · exact (minted_closer total).mpr transferable.positive
    · exact (minted_within total).mpr within

theorem feasibleRedemption_iff (nonneg : 0 ≤ holdings.wrapped) (rest : 0 ≤ holdings.shares)
    (sized : Sized excess sharesLimit quantity)
    (long : LongOnchain threshold (vaultRatio.counted holdings.wrapped) holdings.shares excess) :
    TransferableQuantity sharesLimit quantity ∧
        FeasibleRedemption holdings threshold vaultRatio quantity ↔
      RedemptionFits holdings threshold vaultRatio sharesLimit := by
  have counted : excess =
      -missingOnchain threshold (vaultRatio.counted holdings.wrapped) holdings.shares := by
    rw [long.excess, missingOnchain, neg_sub]
  have less := vaultRatio.counted_le_worth nonneg
  have total : 0 < vaultRatio.worth holdings.wrapped + holdings.shares := by
    have positive := long.total
    linarith
  constructor
  · rintro ⟨transferable, feasible⟩
    constructor
    · rw [← counted]
      exact sized.enough transferable.positive
    · exact sized.room transferable.positive
    · intro amount other within
      rw [← counted] at within
      have most := vaultRatio.worth_le_worth.mpr (sized.amount_le other within)
      exact most.trans ((redeemed_within total).mp feasible.within)
  · intro fits
    have transferable := sized.transferable (counted ▸ fits.enough) fits.room
    have within := fits.inTokens quantity transferable (counted ▸ sized.within)
    -- rounding down only makes the share look smaller than it is
    have outside : threshold.target + threshold.deviation < holdings.ratio vaultRatio :=
      long.outside.trans_le (div_add_le_div_add less rest long.total)
    have exactly : LongOnchain threshold (vaultRatio.worth holdings.wrapped) holdings.shares
        (-missingOnchain threshold (vaultRatio.worth holdings.wrapped) holdings.shares) :=
      ⟨total, outside, neg_sub _ _⟩
    refine ⟨transferable, ?_⟩
    constructor
    · exact outside
    · exact vaultRatio.worth_le_worth.mp (within.trans exactly.excess_le)
    · exact (redeemed_closer total).mpr transferable.positive
    · exact (redeemed_within total).mpr within

end Feasible

/-- What is withdrawn for a whole number of billionths is that many vault tokens. -/
theorem startRedemption_moves {symbol : Symbol} {quantity : ℚ} (nonneg : 0 ≤ quantity)
    (whole : Grid.On (10 ^ 9) quantity) (fits : quantity * 10 ^ 18 ≤ u256Max) (moves : ℚ → Prop) :
    (∀ vaultTokenForSymbol withdrawal,
        startRedemption vaultTokenForSymbol symbol quantity = .ok withdrawal →
          moves (withdrawal.amount / 10 ^ 18)) ↔ moves quantity := by
  obtain ⟨amount, converted, back⟩ := toU256Decimals18_of_on nonneg whole fits
  constructor
  · intro always
    have started : startRedemption (fun _ => .ok 0) symbol quantity = .ok ⟨0, amount⟩ := by
      simp [startRedemption, converted, Except.mapError, bind, Except.bind, pure, Except.pure]
    have moved := always _ _ started
    rwa [back] at moved
  · intro moved vaultTokenForSymbol withdrawal started
    obtain ⟨token, -, started⟩ := bind_eq_ok.mp started
    obtain ⟨units, same, started⟩ := bind_eq_ok.mp started
    rw [mapError_eq_ok, converted] at same
    cases same
    cases started
    rwa [back]

/-- An operation is feasible exactly when the amounts fit: for a redemption, when
the vault tokens withdrawn are worth no more than the surplus. -/
theorem feasibleEquityOperation_iff [FloatFormat] (exact : FloatFormat.IsExact) {view : EquityView}
    {symbol : Symbol} {inventory : Inventory} {threshold : ImbalanceThreshold}
    {wrappedToken unwrappedToken : EvmAddress} {vaultRatio : UnderlyingPerWrapped}
    {sharesLimit : Option Positive} {operation : TriggeredOperation}
    (tracked : view.equities.lookup symbol = some inventory)
    (nonneg : ∀ venue, 0 ≤ inventory.available venue)
    (built : view.checkImbalanceAndBuildOperation symbol threshold wrappedToken unwrappedToken
      vaultRatio sharesLimit = .ok (some operation)) :
    FeasibleEquityOperation inventory threshold vaultRatio sharesLimit operation ↔
      AmountsFit inventory.holdings threshold vaultRatio sharesLimit := by
  have made := checkImbalanceAndBuildOperation_some exact tracked built
  have wrapped : 0 ≤ inventory.holdings.wrapped := nonneg .marketMaking
  have rest : 0 ≤ inventory.holdings.shares := nonneg .hedging
  have total : 0 ≤ vaultRatio.counted inventory.holdings.wrapped + inventory.holdings.shares :=
    add_nonneg (vaultRatio.counted_nonneg _) rest
  have known : FeasibleEquityOperation inventory threshold vaultRatio sharesLimit operation ↔
      TransferableQuantity sharesLimit operation.quantity ∧
        operation.Moves inventory.holdings threshold vaultRatio := by
    constructor
    · intro feasible
      exact ⟨feasible.quantity, feasible.moves⟩
    · rintro ⟨quantity, moves⟩
      exact ⟨made.onchainKnown, made.offchainKnown, made.still, quantity, moves⟩
  rw [known]
  obtain ⟨excess, quantity, sized, ⟨found, rfl⟩ | ⟨found, rfl⟩⟩ := made.due
  · have short := imbalanceBetween_offchain exact total found
    have below := short.outside
    have deviation := threshold.deviation_nonneg
    rw [AmountsFit]
    refine (feasibleMint_iff wrapped sized short).trans ⟨?_, ?_⟩
    · intro fits
      refine ⟨fun _ => fits, ?_⟩
      intro above
      linarith
    · intro fits
      exact fits.1 below
  · have long := imbalanceBetween_onchain exact total found
    have above := long.outside
    have deviation := threshold.deviation_nonneg
    have fitting : quantity * 10 ^ 18 ≤ u256Max := by
      have within : quantity ≤ vaultRatio.counted inventory.holdings.wrapped :=
        sized.within.trans long.excess_le
      exact (mul_le_mul_of_nonneg_right within (by positivity)).trans made.fits
    rw [AmountsFit, TriggeredOperation.Moves,
      startRedemption_moves sized.nonneg sized.whole fitting]
    refine (feasibleRedemption_iff wrapped rest sized long).trans ⟨?_, ?_⟩
    · intro fits
      refine ⟨?_, fun _ => fits⟩
      intro below
      linarith
    · intro fits
      exact fits.2 above

/-- Vault tokens worth no more than a share can be redeemed by number. -/
theorem worth_le_surplus {holdings : EquityHoldings} (threshold : ImbalanceThreshold)
    {vaultRatio : UnderlyingPerWrapped} (atMostOne : vaultRatio.ratio ≤ ratioOne)
    (nonneg : 0 ≤ holdings.wrapped) {amount : ℚ} (positive : 0 < amount)
    (within : amount ≤
      -missingOnchain threshold (vaultRatio.counted holdings.wrapped) holdings.shares) :
    vaultRatio.worth amount ≤
      -missingOnchain threshold (vaultRatio.worth holdings.wrapped) holdings.shares := by
  have perToken : (vaultRatio.ratio / ratioOne : ℚ) ≤ 1 := by
    have one : (0 : ℚ) < ratioOne := by norm_num [ratioOne]
    rw [div_le_one one]
    exact_mod_cast atMostOne
  have rest : 0 ≤ 1 - threshold.target := sub_nonneg.mpr threshold.target_le_one
  have less := mul_le_mul_of_nonneg_right (vaultRatio.counted_le_worth nonneg) rest
  have surplus : -missingOnchain threshold (vaultRatio.counted holdings.wrapped) holdings.shares ≤
      -missingOnchain threshold (vaultRatio.worth holdings.wrapped) holdings.shares := by
    rw [missingOnchain, missingOnchain]
    linarith
  calc vaultRatio.worth amount
      ≤ amount := mul_le_of_le_one_right positive.le perToken
    _ ≤ -missingOnchain threshold (vaultRatio.counted holdings.wrapped) holdings.shares := within
    _ ≤ -missingOnchain threshold (vaultRatio.worth holdings.wrapped) holdings.shares := surplus

/-- One equity, all of it onchain. -/
def heldOnchain (wrapped : FractionalShares) : EquityView :=
  { EquityView.empty with
    equities := AList.insert "AAPL" ⟨some ⟨wrapped, 0⟩, some ⟨0, 0⟩, none⟩ ∅ }

def oneTenth : ImbalanceThreshold :=
  ⟨1 / 10, 1 / 20, by norm_num, by norm_num, by norm_num⟩

/-- A vault token that is worth that many shares. -/
def wholeShares (shares : Nat) (pos : 0 < shares) : UnderlyingPerWrapped :=
  ⟨shares * 10 ^ 18, Nat.mul_pos pos (by norm_num)⟩

theorem feasibleEquityOperation_at_par :
    FeasibleEquityOperation ⟨some ⟨100, 0⟩, some ⟨0, 0⟩, none⟩ oneTenth
      (wholeShares 1 one_pos) none (.redemption "AAPL" 90 1 2) := by
  have built : @EquityView.checkImbalanceAndBuildOperation FloatFormat.exact (heldOnchain 100)
      "AAPL" oneTenth 1 2 (wholeShares 1 one_pos) none =
        .ok (some (.redemption "AAPL" 90 1 2)) := by decide +kernel
  have nonneg (venue : Venue) : 0 ≤ (Inventory.mk (some ⟨100, 0⟩) (some ⟨0, 0⟩) none).available
      venue := by
    cases venue <;> decide +kernel
  refine (@feasibleEquityOperation_iff FloatFormat.exact FloatFormat.exact_isExact _ _ _ _ _ _ _ _
    _ rfl nonneg built).mpr ?_
  refine ⟨?_, ?_⟩
  · intro below
    exact absurd below (by decide +kernel)
  · intro _
    constructor
    · decide +kernel
    · nofun
    · intro amount transferable within
      exact worth_le_surplus oneTenth (by decide) (by decide +kernel) transferable.positive within

/-- At two shares to the vault token, 180 tokens are to be redeemed of 100. -/
theorem redemption_above_holding :
    @EquityView.checkImbalanceAndBuildOperation FloatFormat.exact (heldOnchain 100) "AAPL" oneTenth
        1 2 (wholeShares 2 two_pos) none = .ok (some (.redemption "AAPL" 180 1 2)) ∧
      ¬ FeasibleEquityOperation ⟨some ⟨100, 0⟩, some ⟨0, 0⟩, none⟩ oneTenth
        (wholeShares 2 two_pos) none (.redemption "AAPL" 180 1 2) := by
  have started : startRedemption (fun _ => .ok 1) "AAPL" 180 = .ok ⟨1, 180 * 10 ^ 18⟩ := by
    decide +kernel
  refine ⟨by decide +kernel, ?_⟩
  intro feasible
  have covered := (feasible.moves _ _ started).covered
  exact absurd covered (by decide +kernel)

end Liquidity
