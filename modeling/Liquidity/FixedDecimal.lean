import Liquidity.Finance
import Liquidity.Grid

/-!
# Fixed decimals

Token amounts are unsigned 256-bit integers with a number of decimals. Converting
to them cuts off what they cannot hold; there and back again a value is rounded
down to the grid of its decimals.
-/

namespace Liquidity

def u256Max : Nat := 2 ^ 256 - 1

/-- Negative values and values that are too large are refused. -/
def toFixedDecimalLossy (value : ℚ) (decimals : Nat) : Except FloatError Nat :=
  if value < 0 then .error ⟨"negative value for an unsigned fixed decimal"⟩
  else if u256Max < ⌊value * 10 ^ decimals⌋₊ then .error ⟨"fixed decimal overflow"⟩
  else .ok ⌊value * 10 ^ decimals⌋₊

def fromFixedDecimal [FloatFormat] (value decimals : Nat) : Except FloatError ℚ :=
  FloatFormat.pack (value / 10 ^ decimals)

/-- There and back again: digits beyond the decimals are dropped. -/
def truncateToDecimals [FloatFormat] (value : ℚ) (decimals : Nat) : Except FloatError ℚ := do
  let fixed ← toFixedDecimalLossy value decimals
  fromFixedDecimal fixed decimals

theorem toFixedDecimalLossy_eq_ok {value : ℚ} {decimals fixed : Nat} :
    toFixedDecimalLossy value decimals = .ok fixed ↔
      0 ≤ value ∧ fixed = ⌊value * 10 ^ decimals⌋₊ ∧ fixed ≤ u256Max := by
  unfold toFixedDecimalLossy
  constructor
  · intro converted
    split at converted
    case isTrue => cases converted
    case isFalse nonneg =>
        split at converted
        case isTrue => cases converted
        case isFalse fits =>
            cases converted
            exact ⟨not_lt.mp nonneg, rfl, not_lt.mp fits⟩
  · rintro ⟨nonneg, rfl, fits⟩
    rw [if_neg (not_lt.mpr nonneg), if_neg (not_lt.mpr fits)]

section Truncate

variable [FloatFormat] (exact : FloatFormat.IsExact) {value truncated : ℚ} {decimals : Nat}
include exact

/-- What is left is the value, rounded down to its decimals. -/
theorem truncateToDecimals_exact (ran : truncateToDecimals value decimals = .ok truncated) :
    0 ≤ value ∧ truncated = Grid.down (10 ^ decimals) value := by
  obtain ⟨fixed, converted, ran⟩ := bind_eq_ok.mp ran
  obtain ⟨nonneg, rfl, -⟩ := toFixedDecimalLossy_eq_ok.mp converted
  rw [fromFixedDecimal, exact] at ran
  cases ran
  have scaled : 0 ≤ value * 10 ^ decimals := mul_nonneg nonneg (by positivity)
  refine ⟨nonneg, ?_⟩
  rw [Grid.down, natCast_floor_eq_intCast_floor scaled]

theorem truncateToDecimals_on (ran : truncateToDecimals value decimals = .ok truncated) :
    Grid.On (10 ^ decimals) truncated := by
  obtain ⟨-, rfl⟩ := truncateToDecimals_exact exact ran
  exact Grid.on_down (by positivity) value

theorem truncateToDecimals_le (ran : truncateToDecimals value decimals = .ok truncated) :
    truncated ≤ value := by
  obtain ⟨-, rfl⟩ := truncateToDecimals_exact exact ran
  exact Grid.down_le (by positivity) value

/-- Any other whole number of units in the value is no more. -/
theorem le_truncateToDecimals (ran : truncateToDecimals value decimals = .ok truncated)
    {other : ℚ} (point : Grid.On (10 ^ decimals) other) (within : other ≤ value) :
    other ≤ truncated := by
  obtain ⟨-, rfl⟩ := truncateToDecimals_exact exact ran
  exact Grid.le_down (by positivity) point within

theorem truncateToDecimals_nonneg (ran : truncateToDecimals value decimals = .ok truncated) :
    0 ≤ truncated := by
  obtain ⟨nonneg, -⟩ := truncateToDecimals_exact exact ran
  exact le_truncateToDecimals exact ran ⟨0, by simp⟩ nonneg

end Truncate

end Liquidity
