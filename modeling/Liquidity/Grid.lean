import Mathlib.Algebra.Order.Field.Basic
import Mathlib.Algebra.Order.Floor.Ring

/-!
# Rounding to a grid

The grid of a scale has `scale` points to the unit. A number is rounded down to
the greatest grid point below it and up to the least one above it.
-/

namespace Grid

variable {K : Type*} [Field K] [LinearOrder K] [FloorRing K]

/-- A point of the grid. -/
def On (scale x : K) : Prop := ∃ n : ℤ, x * scale = n

def down (scale x : K) : K := ⌊x * scale⌋ / scale

def up (scale x : K) : K := ⌈x * scale⌉ / scale

/-- Off the grid, the point above is the next after the point below. -/
theorem up_of_not_on {scale x : K} (off : ¬ On scale x) :
    up scale x = (⌊x * scale⌋ + 1 : K) / scale := by
  have above : ⌈x * scale⌉ = ⌊x * scale⌋ + 1 := by
    apply le_antisymm (Int.ceil_le_floor_add_one _)
    rw [Int.add_one_le_iff, Int.lt_ceil]
    refine lt_of_le_of_ne (Int.floor_le _) ?_
    intro same
    exact off ⟨_, same.symm⟩
  rw [up, above]
  push_cast
  rfl

variable {scale x y : K} (positive : 0 < scale)
include positive

theorem on_down (x : K) : On scale (down scale x) :=
  ⟨⌊x * scale⌋, div_mul_cancel₀ _ positive.ne'⟩

theorem on_up (x : K) : On scale (up scale x) :=
  ⟨⌈x * scale⌉, div_mul_cancel₀ _ positive.ne'⟩

variable [IsStrictOrderedRing K]

theorem down_le (x : K) : down scale x ≤ x := by
  rw [down, div_le_iff₀ positive]
  exact Int.floor_le _

theorem le_up (x : K) : x ≤ up scale x := by
  rw [up, le_div_iff₀ positive]
  exact Int.le_ceil _

theorem sub_lt_down (x : K) : x - 1 / scale < down scale x := by
  have close : x * scale - 1 < ⌊x * scale⌋ := Int.sub_one_lt_floor _
  rw [down, lt_div_iff₀ positive, sub_mul, div_mul_cancel₀ _ positive.ne']
  exact close

theorem up_lt_add (x : K) : up scale x < x + 1 / scale := by
  have close : (⌈x * scale⌉ : K) < x * scale + 1 := Int.ceil_lt_add_one _
  rw [up, div_lt_iff₀ positive, add_mul, div_mul_cancel₀ _ positive.ne']
  exact close

/-- Nothing of the grid lies between a number and where it is rounded down to. -/
theorem le_down (point : On scale y) (below : y ≤ x) : y ≤ down scale x := by
  obtain ⟨n, same⟩ := point
  rw [down, le_div_iff₀ positive, same]
  have scaled : (n : K) ≤ x * scale := same ▸ mul_le_mul_of_nonneg_right below positive.le
  exact_mod_cast Int.le_floor.mpr scaled

/-- Nothing of the grid lies between a number and where it is rounded up to. -/
theorem up_le (point : On scale y) (above : x ≤ y) : up scale x ≤ y := by
  obtain ⟨n, same⟩ := point
  rw [up, div_le_iff₀ positive, same]
  have scaled : x * scale ≤ n := same ▸ mul_le_mul_of_nonneg_right above positive.le
  exact_mod_cast Int.ceil_le.mpr scaled

theorem down_mono (less : x ≤ y) : down scale x ≤ down scale y :=
  le_down positive (on_down positive x) ((down_le positive x).trans less)

theorem up_mono (less : x ≤ y) : up scale x ≤ up scale y :=
  up_le positive (on_up positive y) (less.trans (le_up positive y))

/-- The least positive point is the first. -/
theorem step_le (point : On scale x) (pos : 0 < x) : 1 / scale ≤ x := by
  obtain ⟨n, same⟩ := point
  have scaled : (0 : K) < n := by
    rw [← same]
    exact mul_pos pos positive
  have least : (1 : K) ≤ n := by
    have counted : 0 < n := by exact_mod_cast scaled
    exact_mod_cast counted
  rw [div_le_iff₀ positive, same]
  exact least

/-- A point of the grid stays where it is. -/
theorem down_of_on (point : On scale x) : down scale x = x :=
  le_antisymm (down_le positive x) (le_down positive point le_rfl)

theorem up_of_on (point : On scale x) : up scale x = x :=
  le_antisymm (up_le positive point le_rfl) (le_up positive x)

end Grid
