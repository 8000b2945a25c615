import Liquidity.Pnl.SymbolRows

/-!
# Breakdowns add up

The same money is shown in the summary, in a row for each symbol, in the windows of
the days and in the books of the replay. Each of these is a sum over the filtered
entries, so that they agree; costs and revenue are sums over their entries.
-/

namespace Liquidity.Pnl

open Grouping

/-! ## Windows -/

section Windows

variable {worth : PnlEntry → ℚ} {cell : PnlWindowSymbol → ℚ}

/-- A cell of a window adds up the entries of its symbol. -/
def Cells (worth : PnlEntry → ℚ) (cell : PnlWindowSymbol → ℚ) : Prop :=
  ∀ symbol entries, cell (windowSymbolRow symbol entries) = worthOf worth entries symbol

theorem worthOf_cons (worth : PnlEntry → ℚ) (entry : PnlEntry) (entries : List PnlEntry)
    (symbol : Symbol) : worthOf worth (entry :: entries) symbol =
      (if entry.symbol = symbol then worth entry else 0) + worthOf worth entries symbol := by
  by_cases same : entry.symbol = symbol <;> simp [worthOf, same]

theorem WindowTally.add_worth (symbol : Symbol) (tally : WindowTally) (entry : PnlEntry) :
    (tally.add symbol entry).counterTrade = tally.counterTrade +
        (if entry.symbol = symbol then bucketWorth .counterTrade entry else 0) ∧
      (tally.add symbol entry).onchainNetting = tally.onchainNetting +
        (if entry.symbol = symbol then bucketWorth .onchainNetting entry else 0) ∧
      (tally.add symbol entry).directionalExcess = tally.directionalExcess +
        (if entry.symbol = symbol then bucketWorth .directionalExposure entry else 0) := by
  unfold WindowTally.add bucketWorth
  by_cases same : entry.symbol = symbol
  · cases entry.pnlBucket <;> simp [same]
  · simp [same]

theorem foldl_windowTally (symbol : Symbol) (entries : List PnlEntry) (tally : WindowTally) :
    (entries.foldl (WindowTally.add symbol) tally).counterTrade =
        tally.counterTrade + worthOf (bucketWorth .counterTrade) entries symbol ∧
      (entries.foldl (WindowTally.add symbol) tally).onchainNetting =
        tally.onchainNetting + worthOf (bucketWorth .onchainNetting) entries symbol ∧
      (entries.foldl (WindowTally.add symbol) tally).directionalExcess =
        tally.directionalExcess + worthOf (bucketWorth .directionalExposure) entries symbol := by
  induction entries generalizing tally with
  | nil => simp [worthOf]
  | cons entry entries ih =>
      obtain ⟨trade, netting, excess⟩ := WindowTally.add_worth symbol tally entry
      obtain ⟨trades, nettings, excesses⟩ := ih (tally.add symbol entry)
      rw [List.foldl_cons, trades, nettings, excesses, trade, netting, excess]
      simp only [worthOf_cons, add_assoc, and_self]

theorem cells_counterTrade : Cells (bucketWorth .counterTrade) (·.counterTradePnlUsd) := by
  intro symbol entries
  exact (foldl_windowTally symbol entries {}).1.trans (zero_add _)

theorem cells_onchainNetting : Cells (bucketWorth .onchainNetting) (·.onchainNettingPnlUsd) := by
  intro symbol entries
  exact (foldl_windowTally symbol entries {}).2.1.trans (zero_add _)

theorem cells_excess :
    Cells (bucketWorth .directionalExposure) (·.directionalImbalanceExcessPnlUsd) := by
  intro symbol entries
  exact (foldl_windowTally symbol entries {}).2.2.trans (zero_add _)

theorem cells_baseline : Cells (fun _ => 0) (·.directionalInventoryBaselinePnlUsd) := by
  intro symbol entries
  simp [worthOf, windowSymbolRow]

theorem Cells.add {worth' : PnlEntry → ℚ} {cell' : PnlWindowSymbol → ℚ} (cells : Cells worth cell)
    (also : Cells worth' cell') :
    Cells (fun entry => worth entry + worth' entry) (fun row => cell row + cell' row) := by
  intro symbol entries
  dsimp only
  rw [cells, also]
  exact List.sum_map_add.symm

theorem foldl_collected (entries collected : List PnlEntry) :
    entries.foldl (fun collected entry => collected ++ [entry]) collected =
      collected ++ entries := by
  induction entries generalizing collected with
  | nil => simp
  | cons entry entries ih => simp [ih]

theorem getD_collectBy {κ : Type} [DecidableEq κ] (key : PnlEntry → κ) (entries : List PnlEntry)
    (k : κ) : ((collectBy key entries).lookup k).getD [] =
      entries.filter fun entry => key entry = k := by
  rw [collectBy, getD_groupBy, foldl_collected, List.nil_append]

/-- A window of all symbols of a day adds up its entries. -/
theorem buildWindow_sum (cells : Cells worth cell) (calendar : Calendar) {symbols : List Symbol}
    (distinct : symbols.Nodup) (date : String) {dayEntries : List PnlEntry}
    (covers : ∀ entry ∈ dayEntries, entry.symbol ∈ symbols) :
    ((buildWindow calendar symbols date dayEntries).symbols.map cell).sum =
      (dayEntries.map worth).sum := by
  have rows : (buildWindow calendar symbols date dayEntries).symbols.map cell =
      symbols.map fun symbol => worthOf worth dayEntries symbol := by
    show (symbols.map _).map cell = _
    rw [List.map_map]
    refine List.map_congr_left fun symbol _ => ?_
    show cell (windowSymbolRow symbol _) = _
    rw [cells, getD_collectBy, worthOf, List.filter_filter]
    simp only [Bool.and_self]
    rfl
  rw [rows, ← List.sum_toFinset _ distinct]
  exact sum_filter_key PnlEntry.symbol worth dayEntries _ fun entry listed =>
    List.mem_toFinset.mpr (covers entry listed)

/-- The windows add up all entries. -/
theorem buildWindows_sum (cells : Cells worth cell) (calendar : Calendar) {symbols : List Symbol}
    (distinct : symbols.Nodup) {entries : List PnlEntry}
    (covers : ∀ entry ∈ entries, entry.symbol ∈ symbols) :
    ((buildWindows calendar entries symbols).map fun window => (window.symbols.map cell).sum).sum =
      (entries.map worth).sum := by
  have days : (buildWindows calendar entries symbols).map
      (fun window => (window.symbols.map cell).sum) =
      (sortedEntries (collectBy (dayOf calendar) entries)).map
        fun day => (day.2.map worth).sum := by
    rw [buildWindows, List.map_map]
    refine List.map_congr_left fun day listed => ?_
    refine buildWindow_sum cells calendar distinct _ fun entry among => covers entry ?_
    have held := lookup_groupBy _ _ _ (mem_sortedEntries.mp listed)
    rw [foldl_collected, List.nil_append] at held
    rw [held] at among
    exact (List.mem_filter.mp among).1
  have added : ∀ (collected : List PnlEntry) entry,
      ((collected ++ [entry]).map worth).sum = (collected.map worth).sum + worth entry := by simp
  rw [days, sum_sortedEntries fun day : List PnlEntry => (day.map worth).sum]
  exact total_groupBy (dayOf calendar) (fun collected entry => collected ++ [entry]) [] rfl added
    entries

end Windows

/-! ## What the response shows -/

/-- The rows of the symbols add up to the summary. -/
structure SymbolsAddUp (response : PnlResponse) : Prop where
  distinct : (response.symbols.map (·.symbol)).Nodup
  counterTrade : (response.symbols.map (·.counterTradePnlUsd)).sum =
    response.summary.counterTradePnlUsd
  onchainNetting : (response.symbols.map (·.onchainNettingPnlUsd)).sum =
    response.summary.onchainNettingPnlUsd
  baseline : (response.symbols.map (·.directionalInventoryBaselinePnlUsd)).sum =
    response.summary.directionalInventoryBaselinePnlUsd
  excess : (response.symbols.map (·.directionalImbalanceExcessPnlUsd)).sum =
    response.summary.directionalImbalanceExcessPnlUsd
  directionalExposure : (response.symbols.map (·.directionalExposurePnlUsd)).sum =
    response.summary.directionalExposurePnlUsd
  total : (response.symbols.map (·.totalPnlUsd)).sum = response.summary.totalPnlUsd
  realized : (response.symbols.map (·.realizedPnlUsd)).sum = response.summary.realizedPnlUsd
  matchedShares : (response.symbols.map (·.matchedShares)).sum = response.summary.matchedShares
  matchedLots : (response.symbols.map (·.matchedLotCount)).sum = response.summary.matchedLotCount

/-- A cell, over all rows of all windows. -/
def overWindows (cell : PnlWindowSymbol → ℚ) (response : PnlResponse) : ℚ :=
  (response.windows.map fun window => (window.symbols.map cell).sum).sum

/-- The windows add up to the summary. -/
structure WindowsAddUp (response : PnlResponse) : Prop where
  counterTrade : overWindows (·.counterTradePnlUsd) response = response.summary.counterTradePnlUsd
  onchainNetting :
    overWindows (·.onchainNettingPnlUsd) response = response.summary.onchainNettingPnlUsd
  baseline : overWindows (·.directionalInventoryBaselinePnlUsd) response =
    response.summary.directionalInventoryBaselinePnlUsd
  excess : overWindows (·.directionalImbalanceExcessPnlUsd) response =
    response.summary.directionalImbalanceExcessPnlUsd
  directionalExposure :
    overWindows (·.directionalExposurePnlUsd) response = response.summary.directionalExposurePnlUsd
  total : overWindows (·.totalPnlUsd) response = response.summary.totalPnlUsd

/-- What is left after costs and revenue, which are sums over the listed entries. -/
structure CostsAddUp (response : PnlResponse) : Prop where
  gross : response.summary.grossRealizedPnlUsd = response.summary.totalPnlUsd
  costs : response.summary.trackedCostsUsd = amountOf .cost response.costEntries
  revenue : response.summary.trackedRevenueUsd = amountOf .revenue response.costEntries
  net : response.summary.netRealizedPnlUsd = response.summary.grossRealizedPnlUsd -
    response.summary.trackedCostsUsd + response.summary.trackedRevenueUsd
  rows : ∀ row ∈ response.symbols, RowCosts response.costEntries row

/-- Two summaries show the same profit, matched shares and notional. -/
structure SameMatched (first second : PnlSummary) : Prop where
  counterTrade : first.counterTradePnlUsd = second.counterTradePnlUsd
  onchainNetting : first.onchainNettingPnlUsd = second.onchainNettingPnlUsd
  baseline : first.directionalInventoryBaselinePnlUsd = second.directionalInventoryBaselinePnlUsd
  excess : first.directionalImbalanceExcessPnlUsd = second.directionalImbalanceExcessPnlUsd
  directionalExposure : first.directionalExposurePnlUsd = second.directionalExposurePnlUsd
  total : first.totalPnlUsd = second.totalPnlUsd
  realized : first.realizedPnlUsd = second.realizedPnlUsd
  matchedShares : first.matchedShares = second.matchedShares
  onchainNotional : first.onchainNotionalUsd = second.onchainNotionalUsd
  offchainNotional : first.offchainNotionalUsd = second.offchainNotionalUsd
  matchedLots : first.matchedLotCount = second.matchedLotCount

section Fields

theorem shown_counterTrade : Shown SummaryAcc.counterTradePnlUsd (·.counterTradePnlUsd)
    (·.counterTradePnlUsd) :=
  ⟨⟨fun _ => rfl, fun _ _ => rfl, fun _ _ => rfl⟩, fun _ _ => rfl, fun _ _ => rfl, fun _ => rfl,
    fun _ _ _ => rfl⟩

theorem shown_onchainNetting : Shown SummaryAcc.onchainNettingPnlUsd (·.onchainNettingPnlUsd)
    (·.onchainNettingPnlUsd) :=
  ⟨⟨fun _ => rfl, fun _ _ => rfl, fun _ _ => rfl⟩, fun _ _ => rfl, fun _ _ => rfl, fun _ => rfl,
    fun _ _ _ => rfl⟩

theorem shown_baseline : Shown SummaryAcc.directionalInventoryBaselinePnlUsd
    (·.directionalInventoryBaselinePnlUsd) (·.directionalInventoryBaselinePnlUsd) :=
  ⟨⟨fun _ => rfl, fun _ _ => rfl, fun _ _ => rfl⟩, fun _ _ => rfl, fun _ _ => rfl, fun _ => rfl,
    fun _ _ _ => rfl⟩

theorem shown_excess : Shown SummaryAcc.directionalImbalanceExcessPnlUsd
    (·.directionalImbalanceExcessPnlUsd) (·.directionalImbalanceExcessPnlUsd) :=
  ⟨⟨fun _ => rfl, fun _ _ => rfl, fun _ _ => rfl⟩, fun _ _ => rfl, fun _ _ => rfl, fun _ => rfl,
    fun _ _ _ => rfl⟩

/-- Exposure is shown as the sum of its two parts. -/
theorem shown_directionalExposure : Shown
    (fun summary => summary.directionalInventoryBaselinePnlUsd +
      summary.directionalImbalanceExcessPnlUsd)
    (·.directionalExposurePnlUsd) (·.directionalExposurePnlUsd) :=
  ⟨⟨fun _ => rfl, fun _ _ => rfl, fun _ _ => rfl⟩, fun _ _ => rfl, fun _ _ => rfl, fun _ => rfl,
    fun _ _ _ => rfl⟩

theorem shown_total : Shown totalPnl (·.totalPnlUsd) (·.totalPnlUsd) :=
  ⟨⟨fun _ => rfl, fun _ _ => rfl, fun _ _ => rfl⟩, fun _ _ => rfl, fun _ _ => rfl, fun _ => rfl,
    fun _ _ _ => rfl⟩

theorem shown_realized : Shown SummaryAcc.realizedPnlUsd (·.realizedPnlUsd) (·.realizedPnlUsd) :=
  ⟨⟨fun _ => rfl, fun _ _ => rfl, fun _ _ => rfl⟩, fun _ _ => rfl, fun _ _ => rfl, fun _ => rfl,
    fun _ _ _ => rfl⟩

theorem shown_matchedShares : Shown SummaryAcc.matchedShares (·.matchedShares) (·.matchedShares) :=
  ⟨⟨fun _ => rfl, fun _ _ => rfl, fun _ _ => rfl⟩, fun _ _ => rfl, fun _ _ => rfl, fun _ => rfl,
    fun _ _ _ => rfl⟩

theorem shown_onchainNotional : ShownWhole SummaryAcc.onchainNotionalUsd (·.onchainNotionalUsd) :=
  ⟨fun _ => rfl, fun _ _ => rfl, fun _ _ => rfl⟩

theorem shown_offchainNotional :
    ShownWhole SummaryAcc.offchainNotionalUsd (·.offchainNotionalUsd) :=
  ⟨fun _ => rfl, fun _ _ => rfl, fun _ _ => rfl⟩

theorem shown_matchedLots : Shown (fun summary => (summary.matchedLotCount : ℚ))
    (fun row => (row.matchedLotCount : ℚ)) (fun summary => (summary.matchedLotCount : ℚ)) :=
  ⟨⟨fun _ => rfl, fun _ _ => rfl, fun _ _ => rfl⟩, fun _ _ => rfl, fun _ _ => rfl, fun _ => rfl,
    fun _ _ _ => rfl⟩

/-- The two parts of exposure, of which one is always nothing. -/
def exposureWorth (entry : PnlEntry) : ℚ := 0 + bucketWorth .directionalExposure entry

def totalWorth (entry : PnlEntry) : ℚ :=
  bucketWorth .counterTrade entry + bucketWorth .onchainNetting entry + 0 +
    bucketWorth .directionalExposure entry

theorem sums_directionalExposure :
    Sums (fun summary => summary.directionalInventoryBaselinePnlUsd +
      summary.directionalImbalanceExcessPnlUsd) exposureWorth :=
  sums_baseline.add sums_excess

theorem sums_total : Sums totalPnl totalWorth :=
  ((sums_counterTrade.add sums_onchainNetting).add sums_baseline).add sums_excess

theorem cells_directionalExposure : Cells exposureWorth (·.directionalExposurePnlUsd) :=
  cells_baseline.add cells_excess

theorem cells_total : Cells totalWorth (·.totalPnlUsd) :=
  ((cells_counterTrade.add cells_onchainNetting).add cells_baseline).add cells_excess

end Fields

/-! ## Putting it together -/

section Assemble

variable (calendar : Calendar) (view : PositionView) (rows : List PositionEventRow)
  (report : Report) (query : PnlQuery) (costEntries : List CostEntryInternal)

/-- The entries the response is about. -/
def filteredEntries : List PnlEntry :=
  sortedPnlEntries calendar (report.entries.filter (matchesDateFilter calendar query))

variable {field : SummaryAcc → ℚ} {worth : PnlEntry → ℚ} {row : PnlSymbolSummary → ℚ}
  {whole : PnlSummary → ℚ} {cell : PnlWindowSymbol → ℚ}

theorem assemble_summary (sums : Sums field worth) (shown : ShownWhole field whole) :
    whole (assembleResponse calendar view rows report query costEntries).summary =
      ((filteredEntries calendar report query).map worth).sum := by
  show whole (withCosts (withReplayExposure _ _) _) = _
  rw [shown.whole_costs, shown.whole_exposure, summaryFromEntries_summary sums shown]
  rfl

theorem assemble_symbols (sums : Sums field worth) (shown : Shown field row whole) :
    ((assembleResponse calendar view rows report query costEntries).symbols.map row).sum =
      ((filteredEntries calendar report query).map worth).sum := by
  show ((withDirectSymbolCosts (resetSymbolCosts
    (mergeSymbolReplayExposure _ _)) _).map row).sum = _
  rw [direct_sum sums shown (reset_distinct (merge_distinct _ _)), reset_sum shown,
    merge_sum sums shown (summaryFromEntries_distinct _), summaryFromEntries_symbols sums shown]
  rfl

theorem assemble_rows_sum (sums : Sums field worth) (shown : Shown field row whole) :
    ((assembleResponse calendar view rows report query costEntries).symbols.map row).sum =
      whole (assembleResponse calendar view rows report query costEntries).summary :=
  (assemble_symbols calendar view rows report query costEntries sums shown).trans
    (assemble_summary calendar view rows report query costEntries sums shown.toShownWhole).symm

theorem assemble_symbols_add_up :
    SymbolsAddUp (assembleResponse calendar view rows report query costEntries) where
  distinct := direct_distinct (reset_distinct (merge_distinct _ _))
  counterTrade := assemble_rows_sum _ _ _ _ _ _ sums_counterTrade shown_counterTrade
  onchainNetting := assemble_rows_sum _ _ _ _ _ _ sums_onchainNetting shown_onchainNetting
  baseline := assemble_rows_sum _ _ _ _ _ _ sums_baseline shown_baseline
  excess := assemble_rows_sum _ _ _ _ _ _ sums_excess shown_excess
  directionalExposure :=
    assemble_rows_sum _ _ _ _ _ _ sums_directionalExposure shown_directionalExposure
  total := assemble_rows_sum _ _ _ _ _ _ sums_total shown_total
  realized := assemble_rows_sum _ _ _ _ _ _ sums_realized shown_realized
  matchedShares := assemble_rows_sum _ _ _ _ _ _ sums_matchedShares shown_matchedShares
  matchedLots := by
    have counted := assemble_rows_sum calendar view rows report query costEntries
      sums_matchedLots shown_matchedLots
    have cast : ∀ rows : List PnlSymbolSummary,
        (rows.map fun row => (row.matchedLotCount : ℚ)).sum =
          ((rows.map (·.matchedLotCount)).sum : ℕ) := by
      intro rows
      induction rows with
      | nil => simp
      | cons row rows ih => simp [ih]
    rw [cast] at counted
    exact_mod_cast counted

theorem assemble_costs_add_up :
    CostsAddUp (assembleResponse calendar view rows report query costEntries) where
  gross := rfl
  costs := summarizeCostEntries_costs costEntries
  revenue := summarizeCostEntries_revenue costEntries
  net := rfl
  rows _ listed := direct_rows (merge_distinct _ _) listed

/-- Every entry has a book, and a book has a row. -/
def Report.Covered (report : Report) (rows : List PositionEventRow) : Prop :=
  ∀ entry ∈ report.entries, entry.symbol ∈ bookSymbols report rows

variable {calendar view rows report query costEntries}

theorem mem_filteredEntries {entry : PnlEntry}
    (listed : entry ∈ filteredEntries calendar report query) : entry ∈ report.entries := by
  have among := (List.perm_insertionSort _ _).mem_iff.mp listed
  exact (List.mem_filter.mp among).1

theorem assemble_windows (sums : Sums field worth) (shown : Shown field row whole)
    (cells : Cells worth cell) (covered : report.Covered rows) :
    overWindows cell (assembleResponse calendar view rows report query costEntries) =
      whole (assembleResponse calendar view rows report query costEntries).summary := by
  rw [assemble_summary calendar view rows report query costEntries sums shown.toShownWhole]
  refine buildWindows_sum cells calendar (sortedSymbols_nodup _) fun entry listed => ?_
  refine mem_sortedSymbols.mpr (Finset.mem_union_left _ (Finset.mem_union_right _ ?_))
  exact covered entry (mem_filteredEntries listed)

theorem assemble_windows_add_up (covered : report.Covered rows) :
    WindowsAddUp (assembleResponse calendar view rows report query costEntries) where
  counterTrade := assemble_windows sums_counterTrade shown_counterTrade cells_counterTrade covered
  onchainNetting :=
    assemble_windows sums_onchainNetting shown_onchainNetting cells_onchainNetting covered
  baseline := assemble_windows sums_baseline shown_baseline cells_baseline covered
  excess := assemble_windows sums_excess shown_excess cells_excess covered
  directionalExposure := assemble_windows sums_directionalExposure shown_directionalExposure
    cells_directionalExposure covered
  total := assemble_windows sums_total shown_total cells_total covered

/-- Without a filter the entries are those of the replay. -/
theorem filteredEntries_unfiltered (unfiltered : query.Unfiltered) :
    (filteredEntries calendar report query).Perm report.entries := by
  have all : report.entries.filter (matchesDateFilter calendar query) = report.entries :=
    List.filter_eq_self.mpr fun entry _ => unfiltered.matchesDateFilter calendar entry
  refine (List.perm_insertionSort _ _).trans ?_
  rw [all]

/-- The books have accumulated what all entries are worth. -/
theorem fullTotal_worth (sums : Sums field worth) (accumulated : report.Accumulated field worth)
    (covered : report.Covered rows) :
    field (fullTotal report rows) = (report.entries.map worth).sum := by
  have books : ∀ symbol,
      field (replaySummary report symbol) = worthOf worth report.entries symbol := by
    intro symbol
    exact (sums.finalSummary _).trans (accumulated.summary symbol)
  rw [fullTotal, sums.foldl_addSummary (replaySummary report), sums.start, zero_add]
  simp only [books]
  rw [← List.sum_toFinset _ (sortedSymbols_nodup _)]
  refine sum_filter_key PnlEntry.symbol worth report.entries _ fun entry listed => ?_
  exact List.mem_toFinset.mpr (mem_sortedSymbols.mpr (covered entry listed))

theorem assemble_replay (sums : Sums field worth) (shown : ShownWhole field whole)
    (accumulated : report.Accumulated field worth) (covered : report.Covered rows)
    (unfiltered : query.Unfiltered) :
    whole (assembleResponse calendar view rows report query costEntries).summary =
      whole (summaryToDto (fullTotal report rows)) := by
  rw [assemble_summary calendar view rows report query costEntries sums shown, shown.whole_dto,
    fullTotal_worth sums accumulated covered]
  exact ((filteredEntries_unfiltered unfiltered).map worth).sum_eq

end Assemble

/-! ## Every report -/

section Report

variable {rows : List PositionEventRow} {report : Report}

/-- The rows are only put into another order. -/
theorem buildReplay_ran (built : buildReplay rows = .ok report) :
    ∃ ordered : List PositionEventRow, (∀ row ∈ ordered, row ∈ rows) ∧
      ordered.foldlM Report.applyRow {} = .ok report := by
  obtain ⟨ordered, sorted, ran⟩ := bind_eq_ok.mp built
  refine ⟨ordered, ?_, ran⟩
  obtain ⟨_, -, sorted⟩ := bind_eq_ok.mp sorted
  cases sorted
  exact fun row listed => (List.perm_insertionSort _ _).mem_iff.mp listed

theorem buildReplay_accumulated {field : SummaryAcc → ℚ} {worth : PnlEntry → ℚ}
    (sums : Sums field worth) (built : buildReplay rows = .ok report) :
    report.Accumulated field worth := by
  obtain ⟨ordered, -, ran⟩ := buildReplay_ran built
  exact (foldlM_applyRow sums (Report.accumulated_start sums) ran).1

theorem buildReplay_covered (built : buildReplay rows = .ok report) : report.Covered rows := by
  obtain ⟨ordered, among, ran⟩ := buildReplay_ran built
  obtain ⟨accumulated, books⟩ :=
    foldlM_applyRow sums_realized (Report.accumulated_start sums_realized) ran
  intro entry listed
  have booked := accumulated.booked entry listed
  refine Finset.mem_filter.mpr ⟨List.mem_toFinset.mpr (List.mem_map.mpr ?_), booked⟩
  rcases books entry.symbol booked with none | ⟨row, inOrder, named⟩
  · cases none
  · exact ⟨row, among row inOrder, named⟩

/-- A report is put together from the replay of its rows. -/
theorem buildPnlResponse_assembled {calendar : Calendar} {eventRows : List PositionEventRow}
    {positionRows : List PositionViewRow} {costRows : List CostEventRow}
    {alpacaActivities : List AccountActivity} {query : PnlQuery} {symbols : Finset String}
    {response : PnlResponse}
    (built : buildPnlResponseFromRows calendar eventRows positionRows costRows alpacaActivities
      query symbols = .ok response) :
    ∃ view report costEntries, buildReplay (selectedRows symbols eventRows) = .ok report ∧
      response = assembleResponse calendar view (selectedRows symbols eventRows) report query
        costEntries := by
  unfold buildPnlResponseFromRows at built
  obtain ⟨view, -, built⟩ := bind_eq_ok.mp built
  obtain ⟨report, replayed, built⟩ := bind_eq_ok.mp built
  obtain ⟨costEntries, -, built⟩ := bind_eq_ok.mp built
  cases built
  exact ⟨view, report, _, mapError_eq_ok.mp replayed, rfl⟩

end Report

/-- The breakdowns of every report add up: over symbols, over the windows and after
costs. Without a filter on days or sessions, the summary shows what the books of the
replay have accumulated. -/
theorem breakdowns_add_up (calendar : Calendar) (eventRows : List PositionEventRow)
    (positionRows : List PositionViewRow) (costRows : List CostEventRow)
    (alpacaActivities : List AccountActivity) (query : PnlQuery) (symbols : Finset String)
    (response : PnlResponse)
    (built : buildPnlResponseFromRows calendar eventRows positionRows costRows alpacaActivities
      query symbols = .ok response) :
    SymbolsAddUp response ∧ WindowsAddUp response ∧ CostsAddUp response ∧
      (query.Unfiltered → ∃ report, buildReplay (selectedRows symbols eventRows) = .ok report ∧
        SameMatched response.summary
          (summaryToDto (fullTotal report (selectedRows symbols eventRows)))) := by
  obtain ⟨view, report, costEntries, replayed, rfl⟩ := buildPnlResponse_assembled built
  have covered := buildReplay_covered replayed
  refine ⟨assemble_symbols_add_up _ _ _ _ _ _, assemble_windows_add_up covered,
    assemble_costs_add_up _ _ _ _ _ _, fun unfiltered => ⟨report, replayed, ?_⟩⟩
  have agrees : ∀ {field worth whole}, Sums field worth → ShownWhole field whole →
      whole (assembleResponse calendar view (selectedRows symbols eventRows) report query
        costEntries).summary =
        whole (summaryToDto (fullTotal report (selectedRows symbols eventRows))) :=
    fun sums shown => assemble_replay sums shown (buildReplay_accumulated sums replayed)
      covered unfiltered
  exact {
    counterTrade := agrees sums_counterTrade shown_counterTrade.toShownWhole
    onchainNetting := agrees sums_onchainNetting shown_onchainNetting.toShownWhole
    baseline := agrees sums_baseline shown_baseline.toShownWhole
    excess := agrees sums_excess shown_excess.toShownWhole
    directionalExposure := agrees sums_directionalExposure shown_directionalExposure.toShownWhole
    total := agrees sums_total shown_total.toShownWhole
    realized := agrees sums_realized shown_realized.toShownWhole
    matchedShares := agrees sums_matchedShares shown_matchedShares.toShownWhole
    onchainNotional := agrees sums_onchainNotional shown_onchainNotional
    offchainNotional := agrees sums_offchainNotional shown_offchainNotional
    matchedLots := by exact_mod_cast agrees sums_matchedLots shown_matchedLots.toShownWhole }

/-- Two shares are bought onchain, one of them is hedged and one sold again. -/
def dayRows : List PositionEventRow :=
  [⟨1, "AAPL", .onChainOrderFilled ⟨1, 0⟩ 2 .buy 10 morning 1⟩,
   ⟨2, "AAPL", .offChainOrderFilled ⟨1⟩ ⟨1, Positive.one_pos⟩ .sell ⟨"A"⟩ 12 morning⟩,
   ⟨3, "AAPL", .onChainOrderFilled ⟨2, 0⟩ 1 .sell 11 morning 1⟩]

/-- A fee of the hedge, and interest that names no symbol. -/
def dayActivities : List AccountActivity :=
  let executed : AccountActivity :=
    { id := "fee-1", activityType := "FEE", date := some "2025-01-02"
      netAmount := .decimal (-1 / 4), symbol := some "AAPL", status := some "executed" }
  [executed, { executed with
    id := "interest-1", activityType := "INT", netAmount := .decimal (1 / 8), symbol := none }]

theorem breakdowns_add_up_that_day :
    ∃ response, buildPnlResponseFromRows thatDay dayRows [⟨"MSFT", .decimal 0⟩] [] dayActivities {}
        ∅ = .ok response ∧ SymbolsAddUp response ∧ WindowsAddUp response ∧ CostsAddUp response ∧
      ∃ report, buildReplay (selectedRows ∅ dayRows) = .ok report ∧
        SameMatched response.summary
          (summaryToDto (fullTotal report (selectedRows ∅ dayRows))) := by
  have succeeds : (buildPnlResponseFromRows thatDay dayRows [⟨"MSFT", .decimal 0⟩] []
      dayActivities {} ∅).toOption.isSome := by decide +kernel
  cases built : buildPnlResponseFromRows thatDay dayRows [⟨"MSFT", .decimal 0⟩] [] dayActivities {}
      ∅ with
  | error error =>
      rw [built] at succeeds
      cases succeeds
  | ok response =>
      obtain ⟨symbols, windows, costs, books⟩ := breakdowns_add_up _ _ _ _ _ _ _ response built
      exact ⟨response, rfl, symbols, windows, costs, books ⟨rfl, rfl, rfl, rfl⟩⟩

end Liquidity.Pnl
