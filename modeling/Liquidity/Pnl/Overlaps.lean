import Liquidity.Pnl.Costs
import Mathlib.Algebra.BigOperators.Group.Multiset.Basic
import Mathlib.Algebra.Order.BigOperators.Group.Multiset

/-!
# Fees that two sources report

A tokenization fee is persisted with its mint, and the broker may list it again.
Entries are matched by symbol, day and amount. All of the broker's fees with a
matching key are dropped, however many there are, so that two equal fees on one
day are one too few.
-/

namespace Liquidity.Pnl

variable (calendar : Calendar) (tokenizationEntries alpacaEntries : List CostEntryInternal)

def tokenizationFees : List OverlapKey :=
  tokenizationEntries.filterMap (tokenizationFeeOverlapKey calendar)

def brokerFees : List OverlapKey :=
  alpacaEntries.filterMap (alpacaFeeOverlapKey calendar)

/-- What is kept of the broker's entries: everything but broker fees of a symbol,
in its order, and all but one broker fee for each tokenization fee like it. -/
structure RemovesNoUnrelatedFee (kept : List CostEntryInternal) : Prop where
  others : (kept.filter fun entry => alpacaFeeOverlapKey calendar entry = none) =
    alpacaEntries.filter fun entry => alpacaFeeOverlapKey calendar entry = none
  ordered : kept.Sublist alpacaEntries
  once : ∀ key, (brokerFees calendar alpacaEntries).count key ≤
    (brokerFees calendar kept).count key + (tokenizationFees calendar tokenizationEntries).count key
  total : (summarizeCostEntries alpacaEntries).totalTrackedCostsUsd ≤
    (summarizeCostEntries (tokenizationEntries ++ kept)).totalTrackedCostsUsd

/-- No more broker fees than tokenization fees, where there is one. -/
def FeesPaired : Prop :=
  ∀ key ∈ tokenizationFees calendar tokenizationEntries,
    (brokerFees calendar alpacaEntries).count key ≤
      (tokenizationFees calendar tokenizationEntries).count key

/-- The broker's fees with the key of a tokenization fee. -/
def repeatedFees : List OverlapKey :=
  (brokerFees calendar alpacaEntries).filter fun key =>
    key ∈ tokenizationFees calendar tokenizationEntries

/-- Tokenizations cost no less than what the broker repeats. -/
def FeesCovered : Prop :=
  ((repeatedFees calendar tokenizationEntries alpacaEntries).map (·.amountUsd)).sum ≤
    amountOf .cost tokenizationEntries

variable {calendar tokenizationEntries alpacaEntries}

/-! ## What is kept -/

theorem mem_tokenizationFeeKeys {key : OverlapKey} :
    key ∈ tokenizationFeeKeys calendar tokenizationEntries ↔
      key ∈ tokenizationFees calendar tokenizationEntries := List.mem_toFinset

/-- A key is the key of a cost, with its amount. -/
theorem feeOverlapKey_eq_some {category : CostCategory} {entry : CostEntryInternal}
    {key : OverlapKey} (keyed : feeOverlapKey calendar category entry = some key) :
    entry.effect = .cost ∧ key.amountUsd = entry.amountUsd := by
  unfold feeOverlapKey at keyed
  split at keyed
  case isTrue => cases keyed
  case isFalse counted =>
      obtain ⟨symbol, -, rfl⟩ := Option.map_eq_some_iff.mp keyed
      push Not at counted
      exact ⟨counted.2, rfl⟩

theorem kept_others :
    ((removeTokenizationFeeOverlaps calendar tokenizationEntries alpacaEntries).1.filter
        fun entry => alpacaFeeOverlapKey calendar entry = none) =
      alpacaEntries.filter fun entry => alpacaFeeOverlapKey calendar entry = none := by
  unfold removeTokenizationFeeOverlaps
  rw [List.filter_filter]
  refine List.filter_congr fun entry _ => ?_
  cases alpacaFeeOverlapKey calendar entry <;> simp

theorem kept_ordered :
    (removeTokenizationFeeOverlaps calendar tokenizationEntries alpacaEntries).1.Sublist
      alpacaEntries := List.filter_sublist

theorem kept_fees :
    brokerFees calendar
        (removeTokenizationFeeOverlaps calendar tokenizationEntries alpacaEntries).1 =
      (brokerFees calendar alpacaEntries).filter fun key =>
        key ∉ tokenizationFees calendar tokenizationEntries := by
  unfold brokerFees removeTokenizationFeeOverlaps
  rw [List.filterMap_filter, List.filter_filterMap]
  refine List.filterMap_congr fun entry _ => ?_
  cases keyed : alpacaFeeOverlapKey calendar entry with
  | none => simp
  | some key =>
      by_cases listed : key ∈ tokenizationFees calendar tokenizationEntries <;>
        simp [mem_tokenizationFeeKeys, listed, Option.filter]

/-- Costs are kept, or they are fees the broker repeats. -/
theorem kept_costs :
    amountOf .cost alpacaEntries =
      amountOf .cost
          (removeTokenizationFeeOverlaps calendar tokenizationEntries alpacaEntries).1 +
        ((repeatedFees calendar tokenizationEntries alpacaEntries).map (·.amountUsd)).sum := by
  unfold repeatedFees brokerFees removeTokenizationFeeOverlaps
  induction alpacaEntries with
  | nil => simp
  | cons entry entries ih =>
      rw [amountOf_cons, ih]
      cases keyed : alpacaFeeOverlapKey calendar entry with
      | none =>
          simp only [List.filter_cons, keyed, Option.all_none, if_true, amountOf_cons,
            List.filterMap_cons]
          ring
      | some key =>
          obtain ⟨cost, amount⟩ := feeOverlapKey_eq_some keyed
          by_cases listed : key ∈ tokenizationFees calendar tokenizationEntries
          · simp [keyed, mem_tokenizationFeeKeys, listed, cost, amount]
            ring
          · simp [keyed, mem_tokenizationFeeKeys, listed, cost, amountOf_cons]
            ring

/-! ## When every fee is cancelled once -/

theorem once_iff :
    (∀ key, (brokerFees calendar alpacaEntries).count key ≤
      (brokerFees calendar
        (removeTokenizationFeeOverlaps calendar tokenizationEntries alpacaEntries).1).count key +
        (tokenizationFees calendar tokenizationEntries).count key) ↔
      FeesPaired calendar tokenizationEntries alpacaEntries := by
  rw [kept_fees]
  constructor
  · intro once key listed
    have dropped : ((brokerFees calendar alpacaEntries).filter fun key =>
        key ∉ tokenizationFees calendar tokenizationEntries).count key = 0 := by
      refine List.count_eq_zero.mpr fun kept => ?_
      simpa [listed] using (List.mem_filter.mp kept).2
    have least := once key
    rw [dropped, Nat.zero_add] at least
    exact least
  · intro paired key
    by_cases listed : key ∈ tokenizationFees calendar tokenizationEntries
    · exact (paired key listed).trans (Nat.le_add_left _ _)
    · rw [List.count_filter (by simpa using listed)]
      exact Nat.le_add_right _ _

theorem total_iff :
    (summarizeCostEntries alpacaEntries).totalTrackedCostsUsd ≤
      (summarizeCostEntries (tokenizationEntries ++
        (removeTokenizationFeeOverlaps calendar tokenizationEntries alpacaEntries).1)
        ).totalTrackedCostsUsd ↔
      FeesCovered calendar tokenizationEntries alpacaEntries := by
  have split := @kept_costs calendar tokenizationEntries alpacaEntries
  rw [summarizeCostEntries_costs, summarizeCostEntries_costs, amountOf_append, split, add_comm,
    add_le_add_iff_right]
  rfl

/-- Fees with a key are among the costs. -/
theorem fees_le_costs (charged : ∀ entry ∈ tokenizationEntries, entry.effect = .cost →
    0 ≤ entry.amountUsd) :
    ((tokenizationFees calendar tokenizationEntries).map (·.amountUsd)).sum ≤
      amountOf .cost tokenizationEntries := by
  unfold tokenizationFees
  induction tokenizationEntries with
  | nil => exact le_rfl
  | cons entry entries ih =>
      have rest := ih fun other listed => charged other (List.mem_cons_of_mem _ listed)
      rw [amountOf_cons]
      cases keyed : tokenizationFeeOverlapKey calendar entry with
      | none =>
          have here : 0 ≤ if entry.effect = .cost then entry.amountUsd else 0 := by
            split
            case isTrue cost => exact charged entry List.mem_cons_self cost
            case isFalse => exact le_rfl
          rw [List.filterMap_cons_none keyed]
          linarith
      | some key =>
          obtain ⟨cost, amount⟩ := feeOverlapKey_eq_some keyed
          rw [List.filterMap_cons_some keyed, List.map_cons, List.sum_cons, amount, if_pos cost]
          linarith

/-- What the broker repeats is a part of the fees, if each is repeated once. -/
theorem repeatedFees_le (paired : FeesPaired calendar tokenizationEntries alpacaEntries) :
    (repeatedFees calendar tokenizationEntries alpacaEntries : Multiset OverlapKey) ≤
      (tokenizationFees calendar tokenizationEntries : Multiset OverlapKey) := by
  rw [Multiset.le_iff_count]
  intro key
  rw [Multiset.coe_count, Multiset.coe_count]
  by_cases listed : key ∈ tokenizationFees calendar tokenizationEntries
  · unfold repeatedFees
    rw [List.count_filter (by simpa using listed)]
    exact paired key listed
  · have unlisted : (repeatedFees calendar tokenizationEntries alpacaEntries).count key = 0 := by
      refine List.count_eq_zero.mpr fun kept => ?_
      exact listed (by simpa using (List.mem_filter.mp kept).2)
    rw [unlisted]
    exact Nat.zero_le _

theorem fee_charged (charged : ∀ entry ∈ tokenizationEntries, entry.effect = .cost →
    0 ≤ entry.amountUsd) {key : OverlapKey}
    (listed : key ∈ tokenizationFees calendar tokenizationEntries) : 0 ≤ key.amountUsd := by
  obtain ⟨entry, among, keyed⟩ := List.mem_filterMap.mp listed
  obtain ⟨cost, amount⟩ := feeOverlapKey_eq_some keyed
  rw [amount]
  exact charged entry among cost

theorem feesCovered_of_paired (paired : FeesPaired calendar tokenizationEntries alpacaEntries)
    (charged : ∀ entry ∈ tokenizationEntries, entry.effect = .cost → 0 ≤ entry.amountUsd) :
    FeesCovered calendar tokenizationEntries alpacaEntries := by
  obtain ⟨others, split⟩ := Multiset.le_iff_exists_add.mp (repeatedFees_le paired)
  have more : 0 ≤ (others.map OverlapKey.amountUsd).sum := by
    refine Multiset.sum_nonneg fun amount listed => ?_
    obtain ⟨key, among, rfl⟩ := Multiset.mem_map.mp listed
    have listed : key ∈ tokenizationFees calendar tokenizationEntries := by
      rw [← Multiset.mem_coe, split]
      exact Multiset.mem_add.mpr (.inr among)
    exact fee_charged charged listed
  have sums := congrArg (fun keys => (keys.map OverlapKey.amountUsd).sum) split
  simp only [Multiset.map_add, Multiset.sum_add, Multiset.map_coe, Multiset.sum_coe] at sums
  have costs := @fees_le_costs calendar tokenizationEntries charged
  unfold FeesCovered
  linarith

/-- Removing overlaps drops no unrelated fee exactly if the broker lists no more
fees than there are tokenization fees like them, and tokenizations cost no less
than what it lists again; the second follows from the first where no tokenization
has a negative cost. -/
theorem overlaps_removed_once (calendar : Calendar)
    (tokenizationEntries alpacaEntries : List CostEntryInternal) :
    (RemovesNoUnrelatedFee calendar tokenizationEntries alpacaEntries
        (removeTokenizationFeeOverlaps calendar tokenizationEntries alpacaEntries).1 ↔
      FeesPaired calendar tokenizationEntries alpacaEntries ∧
        FeesCovered calendar tokenizationEntries alpacaEntries) ∧
    (FeesPaired calendar tokenizationEntries alpacaEntries →
      (∀ entry ∈ tokenizationEntries, entry.effect = .cost → 0 ≤ entry.amountUsd) →
        FeesCovered calendar tokenizationEntries alpacaEntries) := by
  constructor
  · constructor
    · intro removes
      exact ⟨once_iff.mp removes.once, total_iff.mp removes.total⟩
    · rintro ⟨paired, covered⟩
      exact ⟨kept_others, kept_ordered, once_iff.mpr paired, total_iff.mpr covered⟩
  · intro paired charged
    exact feesCovered_of_paired paired charged

/-! ## Two equal fees -/

/-- A mint that cost a quarter of a dollar. -/
def mintRows : List CostEventRow :=
  [⟨1, .tokenizedEquityMint, "mint-1", .mintRequested, .nested ⟨some "AAPL", none, .absent⟩⟩,
   ⟨2, .tokenizedEquityMint, "mint-1", .tokensReceived,
    .nested ⟨none, some "2025-01-02T15:00:00Z", .decimal (1 / 4)⟩⟩]

def feeActivity (id : String) : AccountActivity where
  id := id
  activityType := "FEE"
  date := some "2025-01-02"
  netAmount := .decimal (-1 / 4)
  symbol := some "AAPL"
  status := some "executed"

def quarterFee (category : CostCategory) (bucket : AccountingBucket) (occurredAt aggregateType
    aggregateId : String) (rowid : Int) (detail : String) : CostEntryInternal :=
  ⟨category, bucket, .cost, 1 / 4, occurredAt, aggregateType, aggregateId, rowid, some "AAPL",
    detail⟩

def mintFee : CostEntryInternal :=
  quarterFee .tokenizationFee .generic "2025-01-02T15:00:00Z" "TokenizedEquityMint" "mint-1" 2
    "Alpaca tokenization fee reported by tokenization provider"

def brokerFee (id : String) (rowid : Int) : CostEntryInternal :=
  quarterFee .brokerFee .counterTrade "2025-01-02" "AlpacaAccountActivity" id rowid
    "Alpaca account activity FEE"

theorem overlaps_removed_once_here :
    RemovesNoUnrelatedFee thatDay [mintFee] [brokerFee "fee-1" (-1)]
      (removeTokenizationFeeOverlaps thatDay [mintFee] [brokerFee "fee-1" (-1)]).1 := by
  have paired : FeesPaired thatDay [mintFee] [brokerFee "fee-1" (-1)] := by
    unfold FeesPaired
    decide +kernel
  have removal := overlaps_removed_once thatDay [mintFee] [brokerFee "fee-1" (-1)]
  refine removal.1.mpr ⟨paired, removal.2 paired ?_⟩
  decide +kernel

/-- One mint, and two fees of the same amount on that day: none of the two is left. -/
theorem equal_fees_both_dropped :
    ((buildCostEntries mintRows).toOption.map (·.entries) = some [mintFee] ∧
      buildAlpacaActivityCostEntries thatDay [feeActivity "fee-1", feeActivity "fee-2"] =
        .ok ([brokerFee "fee-1" (-1), brokerFee "fee-2" (-2)], [])) ∧
    ¬ RemovesNoUnrelatedFee thatDay [mintFee] [brokerFee "fee-1" (-1), brokerFee "fee-2" (-2)]
      (removeTokenizationFeeOverlaps thatDay [mintFee]
        [brokerFee "fee-1" (-1), brokerFee "fee-2" (-2)]).1 := by
  refine ⟨⟨by decide +kernel, by decide +kernel⟩, fun removes => ?_⟩
  exact absurd (removes.once ⟨"AAPL", "2025-01-02", 1 / 4⟩) (by decide +kernel)

end Liquidity.Pnl
