import Liquidity.Grid
import Liquidity.Hedging.Placement

/-!
# Limit prices

The limit price of an order outside of regular hours is the last trade price with
the slippage buffer, rounded to the broker's grid: cents from a dollar on, and
hundredths of a cent below. The grid is chosen by the price before it is rounded,
the broker checks it by the price after.
-/

namespace Liquidity.Hedging

/-- The whole number of units a decimal has at this many places, and whether
nothing was cut off. -/
def toFixedDecimalLossy (value : ℚ) (decimals : Nat) : ℤ × Bool :=
  (⌊value * 10 ^ decimals⌋, ⌊value * 10 ^ decimals⌋ = value * 10 ^ decimals)

inductive LimitPriceError where
  | invalidLimitPricePrecision (limitPrice : Positive) (maxDecimals : Nat)
  deriving DecidableEq

/-- How many decimals the broker takes in a price. -/
def maxPriceDecimals (price : Usd) : Nat := if price < 1 then 4 else 2

/-- The broker client's own check of a limit price. -/
def validateLimitPricePrecision (limitPrice : Positive) : Except LimitPriceError Unit :=
  let maxDecimals := maxPriceDecimals limitPrice.inner
  if (toFixedDecimalLossy limitPrice.inner maxDecimals).2 then .ok ()
  else .error (.invalidLimitPricePrecision limitPrice maxDecimals)

/-- The reference price with the slippage buffer. -/
def adjustedPrice (price : Usd) (direction : Direction) (slippageBps : Nat) : Usd :=
  match direction with
  | .buy => price * (10000 + slippageBps) / 10000
  | .sell => price * (10000 - slippageBps) / 10000

/-- The distance of two prices on the grid. -/
def tick (price : Usd) : Usd := if 1 ≤ price then 1 / 100 else 1 / 10000

/-- Points to the dollar. -/
def priceScale (price : Usd) : ℚ := if price < 1 then 10 ^ 4 else 10 ^ 2

theorem priceScale_pos (price : Usd) : 0 < priceScale price := by
  unfold priceScale
  split <;> norm_num

theorem tick_eq (price : Usd) : tick price = 1 / priceScale price := by
  unfold tick priceScale
  by_cases low : price < 1
  · rw [if_neg (not_le.mpr low), if_pos low]
    norm_num
  · rw [if_pos (not_lt.mp low), if_neg low]
    norm_num

/-- Rounded the way that fills. -/
def roundedPrice (adjusted : Usd) : Direction → Usd
  | .buy => Grid.up (priceScale adjusted) adjusted
  | .sell => Grid.down (priceScale adjusted) adjusted

/-- The next point after what is cut off is the rounded price, unless nothing is. -/
theorem cut_eq_up (adjusted : Usd) :
    (if ⌊adjusted * priceScale adjusted⌋ = adjusted * priceScale adjusted then adjusted
      else (⌊adjusted * priceScale adjusted⌋ + 1) / priceScale adjusted) =
        roundedPrice adjusted .buy := by
  have positive := priceScale_pos adjusted
  split
  case isTrue whole => exact (Grid.up_of_on positive ⟨_, whole.symm⟩).symm
  case isFalse cut =>
    refine (Grid.up_of_not_on ?_).symm
    rintro ⟨n, same⟩
    exact cut (by rw [same, Int.floor_intCast])

theorem cut_eq_down (adjusted : Usd) :
    (if ⌊adjusted * priceScale adjusted⌋ = adjusted * priceScale adjusted then adjusted
      else ⌊adjusted * priceScale adjusted⌋ / priceScale adjusted) =
        roundedPrice adjusted .sell := by
  have positive := priceScale_pos adjusted
  split
  case isTrue whole => exact (Grid.down_of_on positive ⟨_, whole.symm⟩).symm
  case isFalse cut => rfl

/-! ## The broker's check -/

theorem validateLimitPricePrecision_of_on {limitPrice : Positive}
    (point : Grid.On (priceScale limitPrice.inner) limitPrice.inner) :
    validateLimitPricePrecision limitPrice = .ok () := by
  have scale : (10 : ℚ) ^ maxPriceDecimals limitPrice.inner = priceScale limitPrice.inner := by
    unfold maxPriceDecimals priceScale
    split <;> rfl
  obtain ⟨n, same⟩ := point
  simp [validateLimitPricePrecision, toFixedDecimalLossy, scale, same]

/-- A dollar is on both grids. -/
theorem on_one (price : Usd) : Grid.On (priceScale price) 1 := by
  unfold priceScale
  split
  · exact ⟨10000, by norm_num⟩
  · exact ⟨100, by norm_num⟩

/-- Rounding does not cross the dollar, it stops there at most. -/
theorem roundedPrice_le_one {adjusted : Usd} (low : adjusted < 1) (direction : Direction) :
    roundedPrice adjusted direction ≤ 1 := by
  have positive := priceScale_pos adjusted
  cases direction with
  | buy => exact Grid.up_le positive (on_one adjusted) low.le
  | sell => exact (Grid.down_le positive adjusted).trans low.le

theorem one_le_roundedPrice {adjusted : Usd} (high : 1 ≤ adjusted) (direction : Direction) :
    1 ≤ roundedPrice adjusted direction := by
  have positive := priceScale_pos adjusted
  cases direction with
  | buy => exact high.trans (Grid.le_up positive adjusted)
  | sell => exact Grid.le_down positive (on_one adjusted) high

theorem on_roundedPrice (adjusted : Usd) (direction : Direction) :
    Grid.On (priceScale adjusted) (roundedPrice adjusted direction) := by
  have positive := priceScale_pos adjusted
  cases direction with
  | buy => exact Grid.on_up positive adjusted
  | sell => exact Grid.on_down positive adjusted

/-- A rounded price is on the grid the broker checks it by. -/
theorem on_own_grid (adjusted : Usd) (direction : Direction) :
    Grid.On (priceScale (roundedPrice adjusted direction)) (roundedPrice adjusted direction) := by
  have point := on_roundedPrice adjusted direction
  rcases lt_or_ge adjusted 1 with low | high
  · rcases (roundedPrice_le_one low direction).lt_or_eq with below | dollar
    · -- Both sides of the dollar agree on which grid it is.
      have same : priceScale (roundedPrice adjusted direction) = priceScale adjusted := by
        rw [priceScale, priceScale, if_pos below, if_pos low]
      rw [same]
      exact point
    · rw [dollar]
      exact on_one 1
  · have above := one_le_roundedPrice high direction
    have same : priceScale (roundedPrice adjusted direction) = priceScale adjusted := by
      rw [priceScale, priceScale, if_neg (not_lt.mpr above), if_neg (not_lt.mpr high)]
    rw [same]
    exact point

/-- Rounding keeps the order of prices, across the dollar too. -/
theorem roundedPrice_mono {lower upper : Usd} (less : lower ≤ upper) (direction : Direction) :
    roundedPrice lower direction ≤ roundedPrice upper direction := by
  have positive := priceScale_pos lower
  by_cases apart : lower < 1 ∧ 1 ≤ upper
  · exact (roundedPrice_le_one apart.1 direction).trans (one_le_roundedPrice apart.2 direction)
  · have same : priceScale upper = priceScale lower := by
      unfold priceScale
      rcases lt_or_ge lower 1 with low | high
      · rw [if_pos low, if_pos (not_le.mp fun above => apart ⟨low, above⟩)]
      · rw [if_neg (not_lt.mpr high), if_neg (not_lt.mpr (high.trans less))]
    cases direction with
    | buy =>
        simp only [roundedPrice, same]
        exact Grid.up_mono positive less
    | sell =>
        simp only [roundedPrice, same]
        exact Grid.down_mono positive less

/-- A higher reference price has a higher adjusted price, as long as a sale gives
something away but not everything. -/
theorem adjustedPrice_mono {price price' : Usd} {direction : Direction} {slippageBps : Nat}
    (positive : 0 < price') (less : price ≤ price')
    (left : 0 < roundedPrice (adjustedPrice price' direction slippageBps) direction) :
    adjustedPrice price direction slippageBps ≤ adjustedPrice price' direction slippageBps := by
  cases direction with
  | buy =>
      have factor : (0 : ℚ) ≤ 10000 + slippageBps := by positivity
      exact div_le_div_of_nonneg_right (mul_le_mul_of_nonneg_right less factor) (by norm_num)
  | sell =>
      have kept : 0 < adjustedPrice price' .sell slippageBps :=
        left.trans_le (Grid.down_le (priceScale_pos _) _)
      have product : 0 < price' * (10000 - slippageBps) := by
        have scaled := mul_pos kept (show (0 : ℚ) < 10000 by norm_num)
        simpa [adjustedPrice] using scaled
      have factor : (0 : ℚ) < 10000 - slippageBps := (mul_pos_iff_of_pos_left positive).mp product
      exact div_le_div_of_nonneg_right (mul_le_mul_of_nonneg_right less factor.le) (by norm_num)

/-! ## The price a placement asks for -/

section Slippage

variable [FloatFormat]

/-- The limit price is the adjusted price, rounded. -/
theorem applySlippage_eq_ok (exact : FloatFormat.IsExact) {price : Usd} {direction : Direction}
    {slippageBps : Nat} {limitPrice : Positive}
    (applied : applySlippage price direction slippageBps = .ok limitPrice) :
    limitPrice.inner = roundedPrice (adjustedPrice price direction slippageBps) direction := by
  have packed : ∀ q, FloatFormat.pack q = .ok q := exact
  cases direction with
  | buy =>
      have same : price * ((10000 + slippageBps) / 10000) =
          adjustedPrice price .buy slippageBps := by
        unfold adjustedPrice
        ring
      simp only [applySlippage, Decimal.add, Decimal.div, Decimal.mul, packed, Except.mapError,
        bind, Except.bind, pure, Except.pure, same] at applied
      split at applied
      · cases applied
      · split at applied
        case h_1 found =>
          cases applied
          exact (Positive.new_eq_some.mp found).trans (cut_eq_up _)
        case h_2 => cases applied
  | sell =>
      have same : price * ((10000 - slippageBps) / 10000) =
          adjustedPrice price .sell slippageBps := by
        unfold adjustedPrice
        ring
      simp only [applySlippage, Decimal.sub, Decimal.div, Decimal.mul, packed, Except.mapError,
        bind, Except.bind, pure, Except.pure, same] at applied
      split at applied
      · cases applied
      · split at applied
        case h_1 found =>
          cases applied
          exact (Positive.new_eq_some.mp found).trans (cut_eq_down _)
        case h_2 => cases applied

/-- Every limit price passes the broker's check, is within a tick of the adjusted
price on the side that fills, and follows the reference price. -/
theorem limit_price (exact : FloatFormat.IsExact) (direction : Direction) (slippageBps : Nat) :
    (∀ price limitPrice, 0 < price →
      applySlippage price direction slippageBps = .ok limitPrice →
        let adjusted := adjustedPrice price direction slippageBps
        0 < limitPrice.inner ∧ validateLimitPricePrecision limitPrice = .ok () ∧
          (1 ≤ limitPrice.inner → ∃ n : ℤ, limitPrice.inner = n * (1 / 100)) ∧
          (limitPrice.inner < 1 → ∃ n : ℤ, limitPrice.inner = n * (1 / 10000)) ∧
          match direction with
          | .buy => adjusted ≤ limitPrice.inner ∧ limitPrice.inner < adjusted + tick adjusted
          | .sell => adjusted - tick adjusted < limitPrice.inner ∧ limitPrice.inner ≤ adjusted) ∧
    ∀ price price' limitPrice limitPrice', 0 < price → price ≤ price' →
      applySlippage price direction slippageBps = .ok limitPrice →
      applySlippage price' direction slippageBps = .ok limitPrice' →
        limitPrice.inner ≤ limitPrice'.inner := by
  constructor
  · intro price limitPrice positive applied adjusted
    have rounded : limitPrice.inner = roundedPrice adjusted direction :=
      applySlippage_eq_ok exact applied
    have point : Grid.On (priceScale limitPrice.inner) limitPrice.inner := by
      rw [rounded]
      exact on_own_grid adjusted direction
    have scaled := priceScale_pos adjusted
    refine ⟨limitPrice.pos, validateLimitPricePrecision_of_on point, ?_, ?_, ?_⟩
    · intro high
      rw [priceScale, if_neg (not_lt.mpr high)] at point
      obtain ⟨n, same⟩ := point
      exact ⟨n, by rw [← same]; ring⟩
    · intro low
      rw [priceScale, if_pos low] at point
      obtain ⟨n, same⟩ := point
      exact ⟨n, by rw [← same]; ring⟩
    · rw [tick_eq]
      cases direction with
      | buy =>
          rw [rounded]
          exact ⟨Grid.le_up scaled adjusted, Grid.up_lt_add scaled adjusted⟩
      | sell =>
          rw [rounded]
          exact ⟨Grid.sub_lt_down scaled adjusted, Grid.down_le scaled adjusted⟩
  · intro price price' limitPrice limitPrice' positive less applied applied'
    have rounded := applySlippage_eq_ok exact applied
    have rounded' := applySlippage_eq_ok exact applied'
    have left : 0 < roundedPrice (adjustedPrice price' direction slippageBps) direction :=
      rounded' ▸ limitPrice'.pos
    rw [rounded, rounded']
    exact roundedPrice_mono (adjustedPrice_mono (positive.trans_le less) less left) direction

omit [FloatFormat] in
/-- A purchase at the dollar: 0.9999 and a basis point are rounded up to a dollar. -/
theorem limit_price_at_dollar :
    @applySlippage .exact (9999 / 10000) .buy 1 = .ok ⟨1, Positive.one_pos⟩ ∧
      validateLimitPricePrecision ⟨1, Positive.one_pos⟩ = .ok () ∧
      adjustedPrice (9999 / 10000) .buy 1 ≤ 1 := by
  have applied : @applySlippage .exact (9999 / 10000) .buy 1 = .ok ⟨1, Positive.one_pos⟩ := by
    decide +kernel
  have facts := (@limit_price .exact FloatFormat.exact_isExact .buy 1).1 _ _ (by norm_num) applied
  exact ⟨applied, facts.2.1, facts.2.2.2.2.1⟩

end Slippage

end Liquidity.Hedging
