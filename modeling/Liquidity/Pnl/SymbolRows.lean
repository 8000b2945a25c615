import Liquidity.Pnl.Accumulators

/-!
# Rows of symbols

A row shows what the filtered entries of its symbol add up to. Taking what is open
from the replay, and costs from their entries, leaves that as it is; in the end
every row has the costs and the revenue that name its symbol.
-/

namespace Liquidity.Pnl

open Grouping

/-- A field of the summary as it is shown. What is open and what it cost is shown
elsewhere. -/
structure ShownWhole (field : SummaryAcc → ℚ) (whole : PnlSummary → ℚ) : Prop where
  whole_dto : ∀ summary, whole (summaryToDto summary) = field summary
  whole_exposure : ∀ filtered replay, whole (withReplayExposure filtered replay) = whole filtered
  whole_costs : ∀ summary costs, whole (withCosts summary costs) = whole summary

/-- It is shown in a symbol's row as well. -/
structure Shown (field : SummaryAcc → ℚ) (row : PnlSymbolSummary → ℚ) (whole : PnlSummary → ℚ) :
    Prop extends ShownWhole field whole where
  row_dto : ∀ symbol summary, row (symbolSummaryToDto symbol summary) = field summary
  row_exposure : ∀ filtered replay, row (withSymbolReplayExposure filtered replay) = row filtered
  row_reset : ∀ summary, row (resetRow summary) = row summary
  row_charge : ∀ cost revenue summary, row (chargeRow cost revenue summary) = row summary

theorem mem_sortedSymbols {symbols : Finset Symbol} {symbol : Symbol} :
    symbol ∈ sortedSymbols symbols ↔ symbol ∈ symbols := Finset.mem_sort _

theorem sortedSymbols_nodup (symbols : Finset Symbol) : (sortedSymbols symbols).Nodup :=
  Finset.sort_nodup _ _

/-! ## Rows of symbols -/

section Rows

variable {field : SummaryAcc → ℚ} {worth : PnlEntry → ℚ} {row : PnlSymbolSummary → ℚ}
  {whole : PnlSummary → ℚ}

theorem total_summariesBySymbol (sums : Sums field worth) (entries : List PnlEntry) :
    total field (summariesBySymbol entries) = (entries.map worth).sum :=
  total_groupBy _ _ _ sums.start sums.entry entries

theorem summaryFromEntries_summary (sums : Sums field worth) (shown : ShownWhole field whole)
    (entries : List PnlEntry) :
    whole (summaryFromEntries entries).summary = (entries.map worth).sum := by
  show whole (summaryToDto _) = _
  rw [shown.whole_dto, sums.foldl_addSummary (fun entry : Symbol × SummaryAcc => entry.2),
    sums.start, zero_add, sum_sortedEntries field, total_summariesBySymbol sums]

theorem summaryFromEntries_symbols (sums : Sums field worth) (shown : Shown field row whole)
    (entries : List PnlEntry) :
    ((summaryFromEntries entries).symbols.map row).sum = (entries.map worth).sum := by
  show (((sortedEntries (summariesBySymbol entries)).map _).map row).sum = _
  rw [List.map_map, ← total_summariesBySymbol sums, ← sum_sortedEntries field]
  exact congrArg List.sum (List.map_congr_left fun entry _ => shown.row_dto _ _)

theorem summaryFromEntries_distinct (entries : List PnlEntry) :
    ((summaryFromEntries entries).symbols.map (·.symbol)).Nodup := by
  show (((sortedEntries (summariesBySymbol entries)).map _).map _).Nodup
  rw [List.map_map]
  exact keys_sortedEntries _

/-- A row of nothing shows nothing. -/
theorem row_empty (sums : Sums field worth) (shown : Shown field row whole) (symbol : Symbol) :
    row (emptySymbolSummary symbol) = 0 := (shown.row_dto _ _).trans sums.start

theorem exposeRow_symbol (replay : PnlSymbolSummary) (old : Option PnlSymbolSummary)
    (value : PnlSymbolSummary) (own : ∀ held, old = some held → held.symbol = replay.symbol)
    (exposed : exposeRow replay old = some value) : value.symbol = replay.symbol := by
  unfold exposeRow at exposed
  split at exposed
  case isFalse => cases exposed
  case isTrue =>
      cases exposed
      cases old with
      | none => rfl
      | some held => exact own held rfl

theorem merge_distinct (rows replayRows : List PnlSymbolSummary) :
    ((mergeSymbolReplayExposure rows replayRows).map (·.symbol)).Nodup :=
  (Filed.foldl_decideFor exposeRow_symbol replayRows (fileBy_filed rows)).map_sortedValues

theorem merge_sum (sums : Sums field worth) (shown : Shown field row whole)
    {rows : List PnlSymbolSummary} (distinct : (rows.map (·.symbol)).Nodup)
    (replayRows : List PnlSymbolSummary) :
    ((mergeSymbolReplayExposure rows replayRows).map row).sum = (rows.map row).sum := by
  have keeps : ∀ replay old value, exposeRow replay old = some value →
      row value = old.elim 0 row := by
    intro replay old value exposed
    unfold exposeRow at exposed
    split at exposed
    case isFalse => cases exposed
    case isTrue =>
        cases exposed
        rw [shown.row_exposure]
        cases old with
        | none => exact row_empty sums shown _
        | some held => rfl
  rw [mergeSymbolReplayExposure, sum_sortedValues, ← total_fileBy row distinct]
  exact total_congr fun key => worthAt_foldl_decideFor _ _ keeps _ _ key

theorem reset_distinct {rows : List PnlSymbolSummary} (distinct : (rows.map (·.symbol)).Nodup) :
    ((resetSymbolCosts rows).map (·.symbol)).Nodup := by
  rw [resetSymbolCosts, List.map_map]
  exact distinct

theorem reset_sum (shown : Shown field row whole) (rows : List PnlSymbolSummary) :
    ((resetSymbolCosts rows).map row).sum = (rows.map row).sum := by
  rw [resetSymbolCosts, List.map_map]
  exact congrArg List.sum (List.map_congr_left fun summary _ => shown.row_reset summary)

theorem direct_sum (sums : Sums field worth) (shown : Shown field row whole)
    {rows : List PnlSymbolSummary} (distinct : (rows.map (·.symbol)).Nodup)
    (costEntries : List CostEntryInternal) :
    ((withDirectSymbolCosts rows costEntries).map row).sum = (rows.map row).sum := by
  unfold withDirectSymbolCosts
  dsimp only
  split
  case isTrue => rfl
  case isFalse =>
      rw [sum_sortedValues, ← total_fileBy row distinct]
      refine total_congr fun key => worthAt_foldl_decideFor _ _ ?_ _ _ key
      rintro symbol old value ⟨⟩
      rw [shown.row_charge]
      cases old with
      | none => exact row_empty sums shown _
      | some held => rfl

end Rows

/-! ## Costs of symbols -/

/-- The costs and the revenue of the entries that name a symbol. -/
def namedEntries (costEntries : List CostEntryInternal) (symbol : Symbol) :
    List CostEntryInternal :=
  costEntries.filter fun entry => entry.symbol = some symbol

theorem sum_namedAmounts (effect : AccountingEffect) (costEntries : List CostEntryInternal)
    (symbol : Symbol) :
    (((costEntries.filterMap (namedAmount effect)).filter fun amount => amount.1 = symbol).map
      Prod.snd).sum = amountOf effect (namedEntries costEntries symbol) := by
  unfold namedEntries
  induction costEntries with
  | nil => rfl
  | cons entry entries ih =>
      by_cases same : entry.effect = effect
      · cases named : entry.symbol with
        | none => simpa [namedAmount, same, named] using ih
        | some other =>
            by_cases here : other = symbol
            · simpa [namedAmount, same, named, here, amountOf_cons] using ih
            · simpa [namedAmount, same, named, here] using ih
      · by_cases here : entry.symbol = some symbol
        · simpa [namedAmount, same, here, amountOf_cons] using ih
        · simpa [namedAmount, same, here] using ih

theorem getD_amountsBySymbol (effect : AccountingEffect) (costEntries : List CostEntryInternal)
    (symbol : Symbol) :
    ((amountsBySymbol effect costEntries).lookup symbol).getD 0 =
      amountOf effect (namedEntries costEntries symbol) := by
  have held : ((amountsBySymbol effect costEntries).lookup symbol).getD 0 =
      worthAt id (amountsBySymbol effect costEntries) symbol := by
    rw [worthAt]
    cases (amountsBySymbol effect costEntries).lookup symbol <;> rfl
  have added : ∀ (amount : ℚ) (entry : Symbol × ℚ), id (amount + entry.2) = id amount + entry.2 :=
    fun _ _ => rfl
  rw [held, ← sum_namedAmounts]
  exact worthAt_groupBy Prod.fst (fun (amount : ℚ) (entry : Symbol × ℚ) => amount + entry.2) (0 : ℚ)
    rfl added _ symbol

/-- A row has the costs and the revenue that name its symbol. -/
structure RowCosts (costEntries : List CostEntryInternal) (row : PnlSymbolSummary) : Prop where
  gross : row.grossRealizedPnlUsd = row.totalPnlUsd
  costs : row.trackedCostsUsd = amountOf .cost (namedEntries costEntries row.symbol)
  revenue : row.trackedRevenueUsd = amountOf .revenue (namedEntries costEntries row.symbol)
  net : row.netRealizedPnlUsd =
    row.grossRealizedPnlUsd - row.trackedCostsUsd + row.trackedRevenueUsd

section RowCosts

variable {costEntries : List CostEntryInternal} {symbol : Symbol}

theorem amount_zero {effect : AccountingEffect}
    (unlisted : symbol ∉ (amountsBySymbol effect costEntries).keys) :
    amountOf effect (namedEntries costEntries symbol) = 0 := by
  rw [← getD_amountsBySymbol, AList.lookup_eq_none.mpr]
  · rfl
  · exact fun held => unlisted (AList.mem_keys.mp held)

/-- No entry names the symbol. -/
theorem rowCosts_reset {row : PnlSymbolSummary}
    (noCosts : row.symbol ∉ (amountsBySymbol .cost costEntries).keys)
    (noRevenue : row.symbol ∉ (amountsBySymbol .revenue costEntries).keys) :
    RowCosts costEntries (resetRow row) where
  gross := rfl
  costs := (amount_zero noCosts).symm
  revenue := (amount_zero noRevenue).symm
  net := by
    show row.totalPnlUsd = row.totalPnlUsd - 0 + 0
    ring

theorem rowCosts_charge {row : PnlSymbolSummary} (named : row.symbol = symbol) :
    RowCosts costEntries
      (chargeRow (((amountsBySymbol .cost costEntries).lookup symbol).getD 0)
        (((amountsBySymbol .revenue costEntries).lookup symbol).getD 0) row) where
  gross := rfl
  costs := by
    show _ = amountOf .cost (namedEntries costEntries row.symbol)
    rw [named, ← getD_amountsBySymbol]
    rfl
  revenue := by
    show _ = amountOf .revenue (namedEntries costEntries row.symbol)
    rw [named, ← getD_amountsBySymbol]
    rfl
  net := rfl

theorem direct_distinct {rows : List PnlSymbolSummary} (distinct : (rows.map (·.symbol)).Nodup) :
    ((withDirectSymbolCosts rows costEntries).map (·.symbol)).Nodup := by
  unfold withDirectSymbolCosts
  dsimp only
  split
  case isTrue => exact distinct
  case isFalse =>
      refine (Filed.foldl_decideFor ?_ _ (fileBy_filed rows)).map_sortedValues
      rintro symbol old value own ⟨⟩
      cases old with
      | none => rfl
      | some held => exact own held rfl

theorem direct_rows {rows : List PnlSymbolSummary} (distinct : (rows.map (·.symbol)).Nodup)
    {row : PnlSymbolSummary}
    (listed : row ∈ withDirectSymbolCosts (resetSymbolCosts rows) costEntries) :
    RowCosts costEntries row := by
  have distinct := reset_distinct distinct
  unfold withDirectSymbolCosts at listed
  dsimp only at listed
  split at listed
  case isTrue empty =>
      obtain ⟨summary, -, rfl⟩ := List.mem_map.mp listed
      exact rowCosts_reset (by simp [empty.1]) (by simp [empty.2])
  case isFalse =>
      obtain ⟨symbol, held⟩ := mem_sortedValues.mp listed
      by_cases affected : symbol ∈ (amountsBySymbol .cost costEntries).keys.toFinset ∪
          (amountsBySymbol .revenue costEntries).keys.toFinset
      · have once := @lookup_foldl_decideFor _ _ _ _ id
          (chargeSymbol (amountsBySymbol .cost costEntries) (amountsBySymbol .revenue costEntries))
          _ ((List.map_id _).symm ▸ sortedSymbols_nodup _) (rowsBySymbol (resetSymbolCosts rows))
          symbol (mem_sortedSymbols.mpr affected)
        rw [id_eq] at once
        rw [once, chargeSymbol, Option.some_or, Option.some.injEq] at held
        subst held
        refine rowCosts_charge ?_
        cases found : (rowsBySymbol (resetSymbolCosts rows)).lookup symbol with
        | none => rfl
        | some existing => exact fileBy_filed _ _ _ found
      · rw [lookup_foldl_decideFor_ne] at held
        · obtain ⟨among, named⟩ := (lookup_fileBy distinct).mp held
          obtain ⟨summary, -, rfl⟩ := List.mem_map.mp among
          have named : summary.symbol = symbol := named
          subst named
          simp only [Finset.mem_union, List.mem_toFinset, not_or] at affected
          exact rowCosts_reset affected.1 affected.2
        · rintro other among rfl
          exact affected (mem_sortedSymbols.mp among)

end RowCosts

end Liquidity.Pnl
