import Liquidity.Rebalancing.UsdcAmounts
import Liquidity.UsdcRebalance.Aggregate

/-!
# Limits of cash transfers

Every operation keeps to the broker's minimum, the operator's limit, the reserve and
the excess. What is missing onchain shrinks by what moves, so the checks after a
transfer never ask for it back, and there are finitely many of them.
-/

namespace Liquidity

def UsdcRebalanceOperation.direction : UsdcRebalanceOperation → RebalanceDirection
  | .alpacaToBase _ => .alpacaToBase
  | .baseToAlpaca _ => .baseToAlpaca

/-- Both venues are known and nothing is between them. -/
structure CashView.Settled (view : CashView) : Prop where
  onchainKnown : view.usdc.onchain.isSome
  offchainKnown : view.usdc.offchain.isSome
  still : view.usdc.hasInflight = false

def CashView.ratio (view : CashView) : ℚ := view.onchain / (view.onchain + view.grossOffchain)

structure AlpacaToBaseLimits (view : CashView) (threshold : ImbalanceThreshold)
    (usdcLimit : Option Usdc) (reserved : Option Usd) (amount : Usdc) : Prop where
  settled : view.Settled
  outside : view.ratio < threshold.target - threshold.deviation
  whole : Grid.On (10 ^ 6) amount
  minimum : 51 ≤ amount
  limited : ∀ cap, usdcLimit = some cap → amount ≤ cap
  withdrawable : ∃ cents, view.withdrawableCashCents = some cents ∧
    amount ≤ cents / 100 - reserved.getD 0
  excess : amount ≤ view.missing threshold

structure BaseToAlpacaLimits (view : CashView) (threshold : ImbalanceThreshold)
    (usdcLimit : Option Usdc) (amount : Usdc) : Prop where
  settled : view.Settled
  outside : threshold.target + threshold.deviation < view.ratio
  whole : Grid.On (10 ^ 6) amount
  positive : 0 < amount
  covered : amount ≤ view.onchain
  limited : ∀ cap, usdcLimit = some cap → amount ≤ cap
  excess : amount ≤ -view.missing threshold

def UsdcRebalanceOperation.WithinLimits (operation : UsdcRebalanceOperation) (view : CashView)
    (threshold : ImbalanceThreshold) (usdcLimit : Option Usdc) (reserved : Option Usd) : Prop :=
  match operation with
  | .alpacaToBase amount => AlpacaToBaseLimits view threshold usdcLimit reserved amount
  | .baseToAlpaca amount => BaseToAlpacaLimits view threshold usdcLimit amount

/-- Neither side of the comparison is in debt. -/
structure CashView.Solvent (view : CashView) : Prop where
  onchain : 0 ≤ view.onchain
  gross : 0 ≤ view.grossOffchain

/-! ## One check -/

theorem capUsdc_le (amount : Usdc) (usdcLimit : Option Usdc) :
    capUsdc amount usdcLimit ≤ amount := by
  unfold capUsdc
  split
  · exact le_rfl
  · rw [capped_eq_min]
    exact min_le_left _ _

theorem capUsdc_limited {amount cap : Usdc} {usdcLimit : Option Usdc}
    (limited : usdcLimit = some cap) : capUsdc amount usdcLimit ≤ cap := by
  subst limited
  simp only [capUsdc, capped_eq_min]
  exact min_le_right _ _

theorem capUsdcByAlpacaCapacity_eq_min (amount capacity : Usdc) :
    capUsdcByAlpacaCapacity amount capacity = min amount capacity :=
  capped_eq_min amount capacity

section Check

variable [FloatFormat] (exact : FloatFormat.IsExact) {view : CashView}
  {threshold : ImbalanceThreshold} {usdcLimit : Option Usdc} {reserved : Option Usd}
include exact

/-- An imbalance is found between settled venues, and gross. -/
theorem checkUsdcImbalance_some {imbalance : Imbalance}
    (found : view.checkUsdcImbalanceWithGrossOffchain threshold reserved = .ok (some imbalance)) :
    view.Settled ∧
      imbalanceBetween threshold view.onchain view.grossOffchain = .ok (some imbalance) := by
  obtain ⟨⟨onchainVenue, offchainVenue, lastRebalancing⟩, gross, withdrawable⟩ := view
  unfold CashView.checkUsdcImbalanceWithGrossOffchain at found
  cases onchainVenue with
  | none => cases found
  | some onchainVenue =>
    cases offchainVenue with
    | none => cases found
    | some offchainVenue =>
      simp only at found
      split at found
      case isTrue => cases found
      case isFalse still =>
          simp only [Bool.or_eq_true, not_or, Bool.not_eq_true] at still
          have landed := still
          simp only [VenueBalance.hasInflight, ne_eq, decide_eq_false_iff_not, not_not] at landed
          obtain ⟨onchain, summed, found⟩ := bind_eq_ok.mp found
          rw [onchainVenue.total_of_still exact landed.1] at summed
          cases summed
          obtain ⟨offchain, read, found⟩ := bind_eq_ok.mp found
          have settled : CashView.Settled ⟨⟨some onchainVenue, some offchainVenue,
              lastRebalancing⟩, gross, withdrawable⟩ := by
            refine ⟨rfl, rfl, ?_⟩
            simp [Inventory.hasInflight, still.1, still.2]
          cases gross with
          | some cents =>
              simp only [CashView.offchainCash, usdcFromCents, Decimal.div, exact _,
                Except.map] at read
              cases read
              exact ⟨settled, found⟩
          | none =>
              cases reserved with
              | some reserve =>
                  cases read
                  cases found
              | none =>
                  simp only [CashView.offchainCash, offchainVenue.total_of_still exact landed.2,
                    Except.map] at read
                  cases read
                  exact ⟨settled, found⟩

/-- Enough capacity is what may be withdrawn above the reserve. -/
theorem alpacaToBaseUsdcCapacity_some {capacity : Usdc}
    (read : view.alpacaToBaseUsdcCapacity reserved = .ok (some capacity))
    (positive : 0 < capacity) :
    ∃ cents, view.withdrawableCashCents = some cents ∧
      capacity = cents / 100 - reserved.getD 0 := by
  unfold CashView.alpacaToBaseUsdcCapacity at read
  split at read
  · cases read
  · rename_i cents reported
    obtain ⟨withdrawable, converted, read⟩ := bind_eq_ok.mp read
    rw [usdcFromCents, Decimal.div, exact] at converted
    cases converted
    simp only at read
    split at read
    case isTrue =>
        cases read
        exact absurd positive (lt_irrefl 0)
    case isFalse =>
        obtain ⟨above, subtracted, read⟩ := bind_eq_ok.mp read
        rw [Decimal.sub_exact exact] at subtracted
        cases subtracted
        cases read
        exact ⟨cents, reported, rfl⟩

theorem buildAlpacaToBase_ok {excess : Usdc} {capacity : Option Usdc}
    {operation : UsdcRebalanceOperation}
    (built : buildAlpacaToBase excess capacity usdcLimit reserved = .ok operation) :
    ∃ available amount, capacity = some available ∧ 51 ≤ available ∧
      operation = .alpacaToBase amount ∧ Grid.On (10 ^ 6) amount ∧ 51 ≤ amount ∧
      amount ≤ min (capUsdc excess usdcLimit) available := by
  cases capacity with
  | none => cases built
  | some available =>
      unfold buildAlpacaToBase at built
      simp only at built
      split at built
      case isTrue => cases reserved <;> cases built
      case isFalse enough =>
          obtain ⟨amount, truncated, built⟩ := bind_eq_ok.mp built
          have truncated := mapError_eq_ok.mp truncated
          rw [capUsdcByAlpacaCapacity_eq_min] at truncated
          split at built
          case isTrue => cases built
          case isFalse minimum =>
              cases built
              exact ⟨available, amount, rfl, not_lt.mp enough, rfl,
                truncateToDecimals_on exact truncated, not_lt.mp minimum,
                truncateToDecimals_le exact truncated⟩

theorem buildBaseToAlpaca_ok {excess : Usdc} {operation : UsdcRebalanceOperation}
    (built : buildBaseToAlpaca excess usdcLimit = .ok operation) :
    ∃ amount, operation = .baseToAlpaca amount ∧ Grid.On (10 ^ 6) amount ∧ 0 < amount ∧
      amount ≤ capUsdc excess usdcLimit := by
  obtain ⟨amount, truncated, built⟩ := bind_eq_ok.mp built
  have truncated := mapError_eq_ok.mp truncated
  split at built
  case isTrue => cases built
  case isFalse something =>
      cases built
      have nonneg := truncateToDecimals_nonneg exact truncated
      exact ⟨amount, rfl, truncateToDecimals_on exact truncated,
        lt_of_le_of_ne nonneg (Ne.symm something), truncateToDecimals_le exact truncated⟩

/-- One operation keeps to every limit. -/
theorem withinLimits_of_check (solvent : view.Solvent) {operation : UsdcRebalanceOperation}
    (built : view.checkImbalanceAndBuildOperation threshold usdcLimit reserved = .ok operation) :
    operation.WithinLimits view threshold usdcLimit reserved := by
  have total : 0 ≤ view.onchain + view.grossOffchain := add_nonneg solvent.onchain solvent.gross
  obtain ⟨imbalance, checked, built⟩ := bind_eq_ok.mp built
  have checked := mapError_eq_ok.mp checked
  cases imbalance with
  | none => cases built
  | some imbalance =>
      obtain ⟨settled, found⟩ := checkUsdcImbalance_some exact checked
      cases imbalance with
      | tooMuchOffchain excess =>
          have short := imbalanceBetween_offchain exact total found
          obtain ⟨capacity, read, built⟩ := bind_eq_ok.mp built
          obtain ⟨available, amount, rfl, enough, rfl, whole, minimum, within⟩ :=
            buildAlpacaToBase_ok exact built
          obtain ⟨cents, reported, rfl⟩ := alpacaToBaseUsdcCapacity_some exact
            (mapError_eq_ok.mp read) (by linarith)
          have capped := within.trans (min_le_left _ _)
          constructor
          · exact settled
          · exact short.outside
          · exact whole
          · exact minimum
          · intro cap limited
            exact capped.trans (capUsdc_limited limited)
          · exact ⟨cents, reported, within.trans (min_le_right _ _)⟩
          · exact (capped.trans (capUsdc_le _ _)).trans short.excess.le
      | tooMuchOnchain excess =>
          have long := imbalanceBetween_onchain exact total found
          obtain ⟨amount, rfl, whole, positive, capped⟩ := buildBaseToAlpaca_ok exact built
          have within := capped.trans (capUsdc_le _ _)
          constructor
          · exact settled
          · exact long.outside
          · exact whole
          · exact positive
          · exact within.trans long.excess_le
          · intro cap limited
            exact capped.trans (capUsdc_limited limited)
          · rw [CashView.missing, neg_sub]
            exact within.trans long.excess.le

end Check

/-! ## After the transfer -/

namespace CashView

variable {view : CashView} (settled : view.Settled) (amount : Usdc)
include settled

theorem onchain_bridged : (view.bridged amount).onchain = view.onchain + amount := by
  obtain ⟨venue, known⟩ := Option.isSome_iff_exists.mp settled.onchainKnown
  simp [onchain, bridged, Inventory.available, Inventory.balance, Inventory.getVenue, credited,
    known]

theorem grossOffchain_bridged :
    (view.bridged amount).grossOffchain = view.grossOffchain - amount := by
  obtain ⟨venue, known⟩ := Option.isSome_iff_exists.mp settled.offchainKnown
  cases reported : view.offchainGrossUsdCents with
  | some cents =>
      simp only [grossOffchain, bridged, reported, Option.map_some]
      rw [sub_div, mul_div_cancel_left₀ _ (by norm_num)]
  | none =>
      simp [grossOffchain, bridged, reported, Inventory.available, Inventory.balance,
        Inventory.getVenue, credited, known, sub_eq_add_neg]

/-- The total stays, so what is missing shrinks by what came. -/
theorem missing_bridged (threshold : ImbalanceThreshold) :
    (view.bridged amount).missing threshold = view.missing threshold - amount := by
  rw [missing, missing, onchain_bridged settled, grossOffchain_bridged settled]
  ring

end CashView

/-- What moves goes the way of what is missing, and no farther. -/
def Approaches (missing moved : ℚ) : Prop :=
  0 < moved ∧ moved ≤ missing ∨ moved < 0 ∧ missing ≤ moved

theorem Approaches.shrinks {missing moved : ℚ} (approaches : Approaches missing moved) :
    |missing - moved| = |missing| - |moved| := by
  rcases approaches with ⟨positive, within⟩ | ⟨negative, within⟩
  · rw [abs_of_nonneg (sub_nonneg.mpr within), abs_of_pos positive,
      abs_of_pos (positive.trans_le within)]
  · rw [abs_of_nonpos (sub_nonpos.mpr within), abs_of_neg negative,
      abs_of_neg (within.trans_lt negative)]
    ring

namespace UsdcRebalanceOperation

variable {operation : UsdcRebalanceOperation} {view : CashView} {threshold : ImbalanceThreshold}
  {usdcLimit : Option Usdc} {reserved : Option Usd}
  (within : operation.WithinLimits view threshold usdcLimit reserved)
include within

theorem WithinLimits.settled : view.Settled := by
  cases operation with
  | alpacaToBase amount => exact AlpacaToBaseLimits.settled within
  | baseToAlpaca amount => exact BaseToAlpacaLimits.settled within

theorem WithinLimits.approaches : Approaches (view.missing threshold) operation.toOnchain := by
  cases operation with
  | alpacaToBase amount =>
      obtain ⟨-, -, -, minimum, -, -, excess⟩ := within
      exact .inl ⟨by show 0 < amount; linarith, excess⟩
  | baseToAlpaca amount =>
      obtain ⟨-, -, -, positive, -, -, excess⟩ := within
      exact .inr ⟨neg_neg_of_pos positive, le_neg.mp excess⟩

/-- At least a millionth moves. -/
theorem WithinLimits.moves : 1 / 10 ^ 6 ≤ |operation.toOnchain| := by
  cases operation with
  | alpacaToBase amount =>
      obtain ⟨-, -, whole, minimum, -, -, -⟩ := within
      have positive : 0 < amount := by linarith
      rw [toOnchain, abs_of_pos positive]
      exact Grid.step_le (by norm_num) whole positive
  | baseToAlpaca amount =>
      obtain ⟨-, -, whole, positive, -, -, -⟩ := within
      rw [toOnchain, abs_neg, abs_of_pos positive]
      exact Grid.step_le (by norm_num) whole positive

/-- The side that lacks is the one that receives. -/
theorem WithinLimits.direction_eq : operation.direction =
    if 0 < view.missing threshold then .alpacaToBase else .baseToAlpaca := by
  cases operation with
  | alpacaToBase amount =>
      obtain ⟨-, -, -, minimum, -, -, excess⟩ := within
      have lacks : 0 < view.missing threshold := by linarith
      rw [if_pos lacks, direction]
  | baseToAlpaca amount =>
      obtain ⟨-, -, -, positive, -, -, excess⟩ := within
      have exceeds : ¬ 0 < view.missing threshold := by linarith
      rw [if_neg exceeds, direction]

theorem WithinLimits.missing_performed : (view.performed operation).missing threshold =
    view.missing threshold - operation.toOnchain :=
  CashView.missing_bridged within.settled _ threshold

/-- What is missing afterwards, if anything, is missing on the same side. -/
theorem WithinLimits.same_side {next : UsdcRebalanceOperation}
    (following : next.WithinLimits (view.performed operation) threshold usdcLimit reserved) :
    0 < (view.performed operation).missing threshold ↔ 0 < view.missing threshold := by
  have before := within.approaches
  have after := following.approaches
  rw [within.missing_performed] at after ⊢
  constructor
  · intro lacks
    rcases before with ⟨positive, enough⟩ | ⟨negative, enough⟩
    · linarith
    · linarith
  · intro lacks
    rcases before with ⟨positive, enough⟩ | ⟨negative, enough⟩
    · rcases after with ⟨more, remains⟩ | ⟨less, remains⟩
      · linarith
      · linarith
    · linarith

theorem WithinLimits.solvent (solvent : view.Solvent) : (view.performed operation).Solvent := by
  have settled := within.settled
  have total : 0 ≤ view.onchain + view.grossOffchain := add_nonneg solvent.onchain solvent.gross
  have most : (view.onchain + view.grossOffchain) * threshold.target ≤
      view.onchain + view.grossOffchain :=
    mul_le_of_le_one_right total threshold.target_le_one
  have onchain := solvent.onchain
  have gross := solvent.gross
  constructor
  · rw [CashView.performed, CashView.onchain_bridged settled]
    cases operation with
    | alpacaToBase amount =>
        have minimum := AlpacaToBaseLimits.minimum within
        rw [toOnchain]
        linarith
    | baseToAlpaca amount =>
        have covered := BaseToAlpacaLimits.covered within
        rw [toOnchain]
        linarith
  · rw [CashView.performed, CashView.grossOffchain_bridged settled]
    cases operation with
    | alpacaToBase amount =>
        have excess := AlpacaToBaseLimits.excess within
        rw [CashView.missing] at excess
        rw [toOnchain]
        linarith
    | baseToAlpaca amount =>
        have positive := BaseToAlpacaLimits.positive within
        rw [toOnchain]
        linarith

end UsdcRebalanceOperation

/-! ## Check after check -/

section Rounds

variable [FloatFormat] (exact : FloatFormat.IsExact) {threshold : ImbalanceThreshold}
  {usdcLimit : Option Usdc} {reserved : Option Usd}
include exact

/-- Each operation takes at least a millionth off what is missing. -/
theorem length_operations_le (rounds : Nat) {view : CashView} (solvent : view.Solvent) :
    ((view.operations threshold usdcLimit reserved rounds).length : ℚ) * (1 / 10 ^ 6) ≤
      |view.missing threshold| := by
  induction rounds generalizing view with
  | zero => simp [CashView.operations]
  | succ rounds shorter =>
      rw [CashView.operations]
      split
      · simp
      · rename_i operation built
        have within := withinLimits_of_check exact solvent built
        have rest := shorter (within.solvent solvent)
        have moves := within.moves
        rw [within.missing_performed, within.approaches.shrinks] at rest
        rw [List.length_cons]
        push_cast
        linarith

/-- Nothing is ever sent back: once a side lacks, it lacks or has enough from then on. -/
theorem direction_of_operations (rounds : Nat) {view : CashView} (solvent : view.Solvent)
    {operation : UsdcRebalanceOperation}
    (built : view.checkImbalanceAndBuildOperation threshold usdcLimit reserved = .ok operation) :
    ∀ later ∈ (view.performed operation).operations threshold usdcLimit reserved rounds,
      later.direction = operation.direction := by
  induction rounds generalizing view operation with
  | zero => simp [CashView.operations]
  | succ rounds after =>
      have within := withinLimits_of_check exact solvent built
      have kept := within.solvent solvent
      intro later among
      rw [CashView.operations] at among
      split at among
      · cases among
      · rename_i next again
        have following := withinLimits_of_check exact kept again
        have same : next.direction = operation.direction := by
          rw [following.direction_eq, within.direction_eq]
          congr 1
          exact propext (within.same_side following)
        rcases List.mem_cons.mp among with rfl | among
        · exact same
        · exact (after kept again later among).trans same

/-- Every operation keeps to its limits, none is taken back by a later one, and there
are finitely many. -/
theorem usdc_operations_settle {view : CashView} (solvent : view.Solvent) :
    (∀ operation,
      view.checkImbalanceAndBuildOperation threshold usdcLimit reserved = .ok operation →
        operation.WithinLimits view threshold usdcLimit reserved ∧
          ∀ rounds, ∀ later ∈
              (view.performed operation).operations threshold usdcLimit reserved rounds,
            later.direction = operation.direction) ∧
      ∃ most, ∀ rounds, (view.operations threshold usdcLimit reserved rounds).length ≤ most := by
  constructor
  · intro operation built
    refine ⟨withinLimits_of_check exact solvent built, ?_⟩
    intro rounds
    exact direction_of_operations exact rounds solvent built
  · refine ⟨⌊|view.missing threshold| * 10 ^ 6⌋₊, ?_⟩
    intro rounds
    have total := @length_operations_le _ exact threshold usdcLimit reserved rounds _ solvent
    apply Nat.le_floor
    rwa [mul_one_div, div_le_iff₀ (by norm_num)] at total

end Rounds

/-- A thousand dollars at the broker. -/
def allAtBroker : CashView :=
  ⟨⟨some ⟨0, 0⟩, some ⟨1000, 0⟩, none⟩, some 100000, some 100000⟩

theorem one_tenth_nonneg : (0 : ℚ) ≤ 1 / 10 := by norm_num

def evenSplit : ImbalanceThreshold :=
  ⟨1 / 2, 1 / 10, by norm_num, by norm_num, one_tenth_nonneg⟩

theorem usdc_operations_settle_all_at_broker :
    AlpacaToBaseLimits allAtBroker evenSplit (some 400) (some 100) 400 ∧
      ∃ most, ∀ rounds,
        (@CashView.operations FloatFormat.exact evenSplit (some 400) (some 100) rounds
          allAtBroker).length ≤ most := by
  have solvent : allAtBroker.Solvent := ⟨by decide +kernel, by decide +kernel⟩
  have built : @CashView.checkImbalanceAndBuildOperation FloatFormat.exact allAtBroker evenSplit
      (some 400) (some 100) = .ok (.alpacaToBase 400) := by decide +kernel
  obtain ⟨each, finite⟩ := @usdc_operations_settle FloatFormat.exact FloatFormat.exact_isExact
    evenSplit (some 400) (some 100) _ solvent
  exact ⟨(each _ built).1, finite⟩

end Liquidity
