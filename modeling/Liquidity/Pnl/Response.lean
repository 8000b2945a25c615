import Liquidity.Grouping
import Liquidity.Pnl.Costs

/-!
# The report

The entries of the replay, filtered by day and session, are added up again into a
summary and a row for each symbol. What is still open is taken from the replay,
costs and revenue from their entries, and every day gets a window with a row for
each symbol.

Left out are the statistics of the sample, the available range and the warnings.
-/

namespace Liquidity.Pnl

open Grouping

structure PnlSummary where
  counterTradePnlUsd : ℚ
  onchainNettingPnlUsd : ℚ
  directionalInventoryBaselinePnlUsd : ℚ
  directionalImbalanceExcessPnlUsd : ℚ
  directionalExposurePnlUsd : ℚ
  totalPnlUsd : ℚ
  grossRealizedPnlUsd : ℚ
  trackedCostsUsd : ℚ
  trackedRevenueUsd : ℚ
  netRealizedPnlUsd : ℚ
  realizedPnlUsd : ℚ
  matchedShares : ℚ
  onchainNotionalUsd : ℚ
  offchainNotionalUsd : ℚ
  inventoryDriftShares : ℚ
  inventoryDriftUsd : ℚ
  openLongShares : ℚ
  openShortShares : ℚ
  unmatchedOffchainShares : ℚ
  unmatchedOffchainNotionalUsd : ℚ
  onchainFillCount : Nat
  offchainFillCount : Nat
  matchedLotCount : Nat
  openLotCount : Nat
  unmatchedOffchainFillCount : Nat
  deriving DecidableEq

structure PnlSymbolSummary where
  symbol : Symbol
  counterTradePnlUsd : ℚ
  onchainNettingPnlUsd : ℚ
  directionalInventoryBaselinePnlUsd : ℚ
  directionalImbalanceExcessPnlUsd : ℚ
  directionalExposurePnlUsd : ℚ
  totalPnlUsd : ℚ
  grossRealizedPnlUsd : ℚ
  trackedCostsUsd : ℚ
  trackedRevenueUsd : ℚ
  netRealizedPnlUsd : ℚ
  realizedPnlUsd : ℚ
  matchedShares : ℚ
  inventoryDriftShares : ℚ
  inventoryDriftUsd : ℚ
  openLongShares : ℚ
  openShortShares : ℚ
  unmatchedOffchainShares : ℚ
  matchedLotCount : Nat
  onchainFillCount : Nat
  offchainFillCount : Nat
  unmatchedOffchainFillCount : Nat
  deriving DecidableEq

/-! ## Adding up -/

def addSummary (target source : SummaryAcc) : SummaryAcc where
  counterTradePnlUsd := target.counterTradePnlUsd + source.counterTradePnlUsd
  onchainNettingPnlUsd := target.onchainNettingPnlUsd + source.onchainNettingPnlUsd
  directionalInventoryBaselinePnlUsd :=
    target.directionalInventoryBaselinePnlUsd + source.directionalInventoryBaselinePnlUsd
  directionalImbalanceExcessPnlUsd :=
    target.directionalImbalanceExcessPnlUsd + source.directionalImbalanceExcessPnlUsd
  directionalExposurePnlUsd := target.directionalExposurePnlUsd + source.directionalExposurePnlUsd
  realizedPnlUsd := target.realizedPnlUsd + source.realizedPnlUsd
  matchedShares := target.matchedShares + source.matchedShares
  onchainNotionalUsd := target.onchainNotionalUsd + source.onchainNotionalUsd
  offchainNotionalUsd := target.offchainNotionalUsd + source.offchainNotionalUsd
  openLongShares := target.openLongShares + source.openLongShares
  openShortShares := target.openShortShares + source.openShortShares
  openLongNotionalUsd := target.openLongNotionalUsd + source.openLongNotionalUsd
  openShortNotionalUsd := target.openShortNotionalUsd + source.openShortNotionalUsd
  unmatchedOffchainBuyShares :=
    target.unmatchedOffchainBuyShares + source.unmatchedOffchainBuyShares
  unmatchedOffchainSellShares :=
    target.unmatchedOffchainSellShares + source.unmatchedOffchainSellShares
  unmatchedOffchainBuyNotionalUsd :=
    target.unmatchedOffchainBuyNotionalUsd + source.unmatchedOffchainBuyNotionalUsd
  unmatchedOffchainSellNotionalUsd :=
    target.unmatchedOffchainSellNotionalUsd + source.unmatchedOffchainSellNotionalUsd
  onchainFillCount := target.onchainFillCount + source.onchainFillCount
  offchainFillCount := target.offchainFillCount + source.offchainFillCount
  matchedLotCount := target.matchedLotCount + source.matchedLotCount
  openLotCount := target.openLotCount + source.openLotCount
  unmatchedOffchainFillCount :=
    target.unmatchedOffchainFillCount + source.unmatchedOffchainFillCount

def totalPnl (summary : SummaryAcc) : ℚ :=
  summary.counterTradePnlUsd + summary.onchainNettingPnlUsd +
    summary.directionalInventoryBaselinePnlUsd + summary.directionalImbalanceExcessPnlUsd

def summaryToDto (summary : SummaryAcc) : PnlSummary where
  counterTradePnlUsd := summary.counterTradePnlUsd
  onchainNettingPnlUsd := summary.onchainNettingPnlUsd
  directionalInventoryBaselinePnlUsd := summary.directionalInventoryBaselinePnlUsd
  directionalImbalanceExcessPnlUsd := summary.directionalImbalanceExcessPnlUsd
  directionalExposurePnlUsd :=
    summary.directionalInventoryBaselinePnlUsd + summary.directionalImbalanceExcessPnlUsd
  totalPnlUsd := totalPnl summary
  grossRealizedPnlUsd := totalPnl summary
  trackedCostsUsd := 0
  trackedRevenueUsd := 0
  netRealizedPnlUsd := totalPnl summary
  realizedPnlUsd := summary.realizedPnlUsd
  matchedShares := summary.matchedShares
  onchainNotionalUsd := summary.onchainNotionalUsd
  offchainNotionalUsd := summary.offchainNotionalUsd
  inventoryDriftShares := summary.openLongShares - summary.openShortShares
  inventoryDriftUsd := summary.openLongNotionalUsd - summary.openShortNotionalUsd
  openLongShares := summary.openLongShares
  openShortShares := summary.openShortShares
  unmatchedOffchainShares :=
    summary.unmatchedOffchainBuyShares + summary.unmatchedOffchainSellShares
  unmatchedOffchainNotionalUsd :=
    summary.unmatchedOffchainBuyNotionalUsd + summary.unmatchedOffchainSellNotionalUsd
  onchainFillCount := summary.onchainFillCount
  offchainFillCount := summary.offchainFillCount
  matchedLotCount := summary.matchedLotCount
  openLotCount := summary.openLotCount
  unmatchedOffchainFillCount := summary.unmatchedOffchainFillCount

def symbolSummaryToDto (symbol : Symbol) (summary : SummaryAcc) : PnlSymbolSummary :=
  let dto := summaryToDto summary
  { symbol := symbol
    counterTradePnlUsd := dto.counterTradePnlUsd
    onchainNettingPnlUsd := dto.onchainNettingPnlUsd
    directionalInventoryBaselinePnlUsd := dto.directionalInventoryBaselinePnlUsd
    directionalImbalanceExcessPnlUsd := dto.directionalImbalanceExcessPnlUsd
    directionalExposurePnlUsd := dto.directionalExposurePnlUsd
    totalPnlUsd := dto.totalPnlUsd
    grossRealizedPnlUsd := dto.grossRealizedPnlUsd
    trackedCostsUsd := dto.trackedCostsUsd
    trackedRevenueUsd := dto.trackedRevenueUsd
    netRealizedPnlUsd := dto.netRealizedPnlUsd
    realizedPnlUsd := dto.realizedPnlUsd
    matchedShares := dto.matchedShares
    inventoryDriftShares := dto.inventoryDriftShares
    inventoryDriftUsd := dto.inventoryDriftUsd
    openLongShares := dto.openLongShares
    openShortShares := dto.openShortShares
    unmatchedOffchainShares := dto.unmatchedOffchainShares
    matchedLotCount := dto.matchedLotCount
    onchainFillCount := dto.onchainFillCount
    offchainFillCount := dto.offchainFillCount
    unmatchedOffchainFillCount := dto.unmatchedOffchainFillCount }

/-- An entry, added up again. -/
def addEntry (summary : SummaryAcc) (entry : PnlEntry) : SummaryAcc :=
  let openingNotional := entry.shares * entry.openingPriceUsd
  let closingNotional := entry.shares * entry.closingPriceUsd
  let matched := { summary with matchedShares := summary.matchedShares + entry.shares }
  let opening := addVenueNotional matched entry.openingVenue openingNotional
  let closing := addVenueNotional opening entry.closingVenue closingNotional
  addRealizedPnl { closing with matchedLotCount := closing.matchedLotCount + 1 } entry.pnlBucket
    entry.realizedPnlUsd

structure SummaryAndSymbols where
  summary : PnlSummary
  symbols : List PnlSymbolSummary

def summariesBySymbol (entries : List PnlEntry) : KeyMap Symbol SummaryAcc :=
  groupBy (·.symbol) addEntry {} entries

def summaryFromEntries (entries : List PnlEntry) : SummaryAndSymbols :=
  let symbols := sortedEntries (summariesBySymbol entries)
  { summary := summaryToDto (symbols.foldl (fun total row => addSummary total row.2) {})
    symbols := symbols.map fun (symbol, summary) => symbolSummaryToDto symbol summary }

/-! ## What is still open -/

/-- What is open does not depend on the filter. -/
def withReplayExposure (filtered replay : PnlSummary) : PnlSummary :=
  { filtered with
    inventoryDriftShares := replay.inventoryDriftShares
    inventoryDriftUsd := replay.inventoryDriftUsd
    openLongShares := replay.openLongShares
    openShortShares := replay.openShortShares
    unmatchedOffchainShares := replay.unmatchedOffchainShares
    unmatchedOffchainNotionalUsd := replay.unmatchedOffchainNotionalUsd
    openLotCount := replay.openLotCount
    unmatchedOffchainFillCount := replay.unmatchedOffchainFillCount }

def withSymbolReplayExposure (filtered replay : PnlSymbolSummary) : PnlSymbolSummary :=
  { filtered with
    inventoryDriftShares := replay.inventoryDriftShares
    inventoryDriftUsd := replay.inventoryDriftUsd
    openLongShares := replay.openLongShares
    openShortShares := replay.openShortShares
    unmatchedOffchainShares := replay.unmatchedOffchainShares
    unmatchedOffchainFillCount := replay.unmatchedOffchainFillCount }

def emptySymbolSummary (symbol : Symbol) : PnlSymbolSummary := symbolSummaryToDto symbol {}

def hasReplayExposure (summary : PnlSymbolSummary) : Bool :=
  summary.inventoryDriftShares ≠ 0 || summary.inventoryDriftUsd ≠ 0 ||
    summary.openLongShares ≠ 0 || summary.openShortShares ≠ 0 ||
    summary.unmatchedOffchainShares ≠ 0 || summary.unmatchedOffchainFillCount > 0

def rowsBySymbol (rows : List PnlSymbolSummary) : KeyMap Symbol PnlSymbolSummary :=
  fileBy (·.symbol) rows

/-- A symbol without entries gets a row if something is open. -/
def exposeRow (replay : PnlSymbolSummary) (existing : Option PnlSymbolSummary) :
    Option PnlSymbolSummary :=
  if existing.isSome || hasReplayExposure replay then
    some (withSymbolReplayExposure (existing.getD (emptySymbolSummary replay.symbol)) replay)
  else none

def mergeSymbolReplayExposure (filteredSymbols replaySymbols : List PnlSymbolSummary) :
    List PnlSymbolSummary :=
  sortedValues (·.symbol)
    (replaySymbols.foldl (decideFor (·.symbol) exposeRow) (rowsBySymbol filteredSymbols))

/-! ## Costs -/

def withCosts (summary : PnlSummary) (costs : PnlCostSummary) : PnlSummary :=
  let gross := summary.totalPnlUsd
  let net := gross - costs.totalTrackedCostsUsd + costs.totalTrackedRevenueUsd
  { summary with
    grossRealizedPnlUsd := gross
    trackedCostsUsd := costs.totalTrackedCostsUsd
    trackedRevenueUsd := costs.totalTrackedRevenueUsd
    netRealizedPnlUsd := net }

def resetRow (row : PnlSymbolSummary) : PnlSymbolSummary :=
  { row with
    grossRealizedPnlUsd := row.totalPnlUsd
    trackedCostsUsd := 0
    trackedRevenueUsd := 0
    netRealizedPnlUsd := row.totalPnlUsd }

def resetSymbolCosts (symbols : List PnlSymbolSummary) : List PnlSymbolSummary :=
  symbols.map resetRow

/-- The amount of an entry with an effect, with the symbol it names. -/
def namedAmount (effect : AccountingEffect) (entry : CostEntryInternal) : Option (Symbol × ℚ) :=
  if entry.effect = effect then entry.symbol.map fun symbol => (symbol, entry.amountUsd) else none

def amountsBySymbol (effect : AccountingEffect) (costEntries : List CostEntryInternal) :
    KeyMap Symbol ℚ :=
  groupBy Prod.fst (fun amount entry => amount + entry.2) 0
    (costEntries.filterMap (namedAmount effect))

def chargeRow (cost revenue : ℚ) (existing : PnlSymbolSummary) : PnlSymbolSummary :=
  let gross := existing.totalPnlUsd
  { existing with
    grossRealizedPnlUsd := gross
    trackedCostsUsd := cost
    trackedRevenueUsd := revenue
    netRealizedPnlUsd := gross - cost + revenue }

/-- A symbol without a row gets one for its costs. -/
def chargeSymbol (costsBySymbol revenueBySymbol : KeyMap Symbol ℚ) (symbol : Symbol)
    (existing : Option PnlSymbolSummary) : Option PnlSymbolSummary :=
  some (chargeRow ((costsBySymbol.lookup symbol).getD 0) ((revenueBySymbol.lookup symbol).getD 0)
    (existing.getD (emptySymbolSummary symbol)))

def sortedSymbols (symbols : Finset Symbol) : List Symbol :=
  symbols.sort fun first second => first ≤ second

def withDirectSymbolCosts (symbols : List PnlSymbolSummary)
    (costEntries : List CostEntryInternal) : List PnlSymbolSummary :=
  let costsBySymbol := amountsBySymbol .cost costEntries
  let revenueBySymbol := amountsBySymbol .revenue costEntries
  if costsBySymbol.keys = [] ∧ revenueBySymbol.keys = [] then symbols
  else
    let affectedSymbols :=
      sortedSymbols (costsBySymbol.keys.toFinset ∪ revenueBySymbol.keys.toFinset)
    sortedValues (·.symbol)
      (affectedSymbols.foldl (decideFor id (chargeSymbol costsBySymbol revenueBySymbol))
        (rowsBySymbol symbols))

/-! ## Windows -/

structure PnlWindowSymbol where
  symbol : Symbol
  counterTradePnlUsd : ℚ
  onchainNettingPnlUsd : ℚ
  directionalInventoryBaselinePnlUsd : ℚ
  directionalImbalanceExcessPnlUsd : ℚ
  directionalExposurePnlUsd : ℚ
  totalPnlUsd : ℚ
  deriving DecidableEq

/-- A day. Where its entries fall into several sessions, it has none. -/
structure PnlWindow where
  windowId : String
  startAt : String
  endAt : String
  label : String
  isWeekend : Bool
  marketSession : Option MarketSession
  counterTradingSession : Option CounterTradingSession
  symbols : List PnlWindowSymbol
  deriving DecidableEq

structure WindowTally where
  counterTrade : ℚ := 0
  onchainNetting : ℚ := 0
  directionalExcess : ℚ := 0

def WindowTally.add (symbol : Symbol) (tally : WindowTally) (entry : PnlEntry) : WindowTally :=
  if entry.symbol ≠ symbol then tally
  else
    match entry.pnlBucket with
    | .counterTrade => { tally with counterTrade := tally.counterTrade + entry.realizedPnlUsd }
    | .onchainNetting =>
        { tally with onchainNetting := tally.onchainNetting + entry.realizedPnlUsd }
    | .directionalExposure =>
        { tally with directionalExcess := tally.directionalExcess + entry.realizedPnlUsd }

def windowSymbolRow (symbol : Symbol) (entries : List PnlEntry) : PnlWindowSymbol :=
  let tally := entries.foldl (WindowTally.add symbol) {}
  let directionalBaseline := 0
  { symbol := symbol
    counterTradePnlUsd := tally.counterTrade
    onchainNettingPnlUsd := tally.onchainNetting
    directionalInventoryBaselinePnlUsd := directionalBaseline
    directionalImbalanceExcessPnlUsd := tally.directionalExcess
    directionalExposurePnlUsd := directionalBaseline + tally.directionalExcess
    totalPnlUsd := tally.counterTrade + tally.onchainNetting + directionalBaseline +
      tally.directionalExcess }

def etDayBoundary (calendar : Calendar) (date : String) (isEnd : Bool) : String :=
  (calendar.dayBoundary date isEnd).getD
    (if isEnd then date ++ "T23:59:59.999Z" else date ++ "T00:00:00.000Z")

/-- The only one there is. -/
def onlySession {α : Type} [DecidableEq α] (sessions : List α) : Option α :=
  match sessions.dedup with
  | [session] => some session
  | _ => none

/-- Entries in the order they come, by what they have in common. -/
def collectBy {κ : Type} [DecidableEq κ] (key : PnlEntry → κ) (entries : List PnlEntry) :
    KeyMap κ (List PnlEntry) :=
  groupBy key (fun collected entry => collected ++ [entry]) [] entries

def dayOf (calendar : Calendar) (entry : PnlEntry) : String :=
  (calendar.newYork entry.closedAt).date

def buildWindow (calendar : Calendar) (symbols : List Symbol) (date : String)
    (dayEntries : List PnlEntry) : PnlWindow :=
  let marketSession := onlySession
    (dayEntries.map fun entry => marketSessionAt (calendar.newYork entry.closedAt))
  let entriesBySymbol := collectBy (·.symbol) dayEntries
  { windowId := date
    startAt := etDayBoundary calendar date false
    endAt := etDayBoundary calendar date true
    label := date
    isWeekend := marketSession = some .weekend
    marketSession := marketSession
    counterTradingSession := onlySession
      (dayEntries.map fun entry => counterTradingSessionAt (calendar.newYork entry.closedAt))
    symbols := symbols.map fun symbol =>
      windowSymbolRow symbol ((entriesBySymbol.lookup symbol).getD []) }

def buildWindows (calendar : Calendar) (entries : List PnlEntry) (symbols : List Symbol) :
    List PnlWindow :=
  (sortedEntries (collectBy (dayOf calendar) entries)).map fun (date, dayEntries) =>
    buildWindow calendar symbols date dayEntries

/-! ## The whole report -/

structure PositionViewRow where
  symbol : Symbol
  netPosition : PersistedDecimal
  deriving DecidableEq

inductive ReportError where
  | replay (error : PnlError)
  | cost (error : CostError)
  deriving DecidableEq

structure PositionView where
  nets : KeyMap Symbol ℚ := ∅
  symbols : Finset Symbol := ∅

def PositionView.applyRow (view : PositionView) (row : PositionViewRow) :
    Except ReportError PositionView :=
  if !isSafeSymbol row.symbol then .ok view
  else
    let listed := { view with symbols := insert row.symbol view.symbols }
    match row.netPosition with
    | .absent => .ok listed
    | .decimal net => .ok { listed with nets := listed.nets.insert row.symbol net }
    | .unreadable => .error (.cost (.invalidFinancialField 0 "net_position"))

def parsePositionView (rows : List PositionViewRow) : Except ReportError PositionView :=
  rows.foldlM PositionView.applyRow {}

/-- The symbols that have a book: they come from rows. -/
def bookSymbols (report : Report) (rows : List PositionEventRow) : Finset Symbol :=
  (rows.map (·.symbol)).toFinset.filter fun symbol => (report.books symbol).isSome

/-- The summary of a symbol's book at the end of the replay. -/
def replaySummary (report : Report) (symbol : Symbol) : SummaryAcc :=
  (report.bookOf symbol).finalSummary

def fullTotal (report : Report) (rows : List PositionEventRow) : SummaryAcc :=
  (sortedSymbols (bookSymbols report rows)).foldl
    (fun total symbol => addSummary total (replaySummary report symbol)) {}

structure PnlResponse where
  summary : PnlSummary
  costs : PnlCostSummary
  symbols : List PnlSymbolSummary
  symbolUniverse : List Symbol
  entries : List PnlEntry
  costEntries : List CostEntryInternal
  total : Nat
  hasMore : Bool
  windows : List PnlWindow

def matchesCostSymbolFilter (symbols : Finset String) (entry : CostEntryInternal) : Bool :=
  symbols = ∅ || entry.symbol.any (· ∈ symbols)

/-- The latest first, as texts. -/
def sortedPnlEntries (calendar : Calendar) (entries : List PnlEntry) : List PnlEntry :=
  let sortKey : PnlEntry → String ×ₗ Nat := fun entry =>
    toLex (calendar.stored entry.matchedAt, entry.closingRowid)
  entries.insertionSort fun first second => sortKey second ≤ sortKey first

def sortedCostEntries (entries : List CostEntryInternal) : List CostEntryInternal :=
  let sortKey : CostEntryInternal → String ×ₗ Int := fun entry =>
    toLex (entry.occurredAt, entry.eventRowid)
  entries.insertionSort fun first second => sortKey second ≤ sortKey first

/-- Persisted fees, and what the broker lists beyond them. -/
def allCostEntries (calendar : Calendar) (costRows : List CostEventRow)
    (alpacaActivities : List AccountActivity) : Except CostError (List CostEntryInternal) := do
  let costReplay ← buildCostEntries costRows
  let (alpacaEntries, _) ← buildAlpacaActivityCostEntries calendar alpacaActivities
  return costReplay.entries ++
    (removeTokenizationFeeOverlaps calendar costReplay.entries alpacaEntries).1

def selectedRows (symbols : Finset String) (rows : List PositionEventRow) :
    List PositionEventRow :=
  if symbols = ∅ then rows else rows.filter fun row => row.symbol ∈ symbols

def filteredCostEntries (calendar : Calendar) (query : PnlQuery) (symbols : Finset String)
    (costEntries : List CostEntryInternal) : List CostEntryInternal :=
  sortedCostEntries (costEntries.filter fun entry =>
    matchesCostSymbolFilter symbols entry &&
      matchesCostDateFilter calendar query entry.occurredAt)

/-- What is put together in the end. -/
def assembleResponse (calendar : Calendar) (view : PositionView) (rows : List PositionEventRow)
    (report : Report) (query : PnlQuery) (costEntries : List CostEntryInternal) : PnlResponse :=
  let filteredEntries := sortedPnlEntries calendar
    (report.entries.filter (matchesDateFilter calendar query))
  let books := bookSymbols report rows
  let total := filteredEntries.length
  let start := min query.normalizedOffset total
  let finish := min (start + query.normalizedLimit) total
  let costSummary := summarizeCostEntries costEntries
  let filtered := summaryFromEntries filteredEntries
  let replaySymbols := (sortedSymbols books).map fun symbol =>
    symbolSummaryToDto symbol (replaySummary report symbol)
  let symbols := withDirectSymbolCosts
    (resetSymbolCosts (mergeSymbolReplayExposure filtered.symbols replaySymbols)) costEntries
  let symbolUniverse := sortedSymbols
    (view.symbols ∪ books ∪ (symbols.map (·.symbol)).toFinset)
  { summary := withCosts
      (withReplayExposure filtered.summary (summaryToDto (fullTotal report rows))) costSummary
    costs := costSummary
    symbols := symbols
    symbolUniverse := symbolUniverse
    entries := (filteredEntries.take finish).drop start
    costEntries := costEntries
    total := total
    hasMore := finish < total
    windows := buildWindows calendar filteredEntries symbolUniverse }

def buildPnlResponseFromRows (calendar : Calendar) (eventRows : List PositionEventRow)
    (positionRows : List PositionViewRow) (costRows : List CostEventRow)
    (alpacaActivities : List AccountActivity) (query : PnlQuery) (symbols : Finset String) :
    Except ReportError PnlResponse := do
  let rows := selectedRows symbols eventRows
  let view ← parsePositionView positionRows
  let report ← (buildReplay rows).mapError ReportError.replay
  let costEntries ← (allCostEntries calendar costRows alpacaActivities).mapError ReportError.cost
  return assembleResponse calendar view rows report query
    (filteredCostEntries calendar query symbols costEntries)

end Liquidity.Pnl
