import Liquidity.Pnl.Replay
import Mathlib.Data.List.Sort
import Mathlib.Data.Prod.Lex

/-!
# The replay of a report

The report reads the fills, placements and adjustments of the positions from the
event store, orders them by the time they happened, and replays them into one
book for each symbol. In the end it sums up the open lots of each book and
compares them with the net position of the position view.
-/

namespace Liquidity.Pnl

/-- An event of a position, as it is stored. -/
structure PositionEventRow where
  rowid : Nat
  symbol : Symbol
  event : PositionEvent
  deriving DecidableEq

/-- The kinds of events the report selects. -/
def isReplayed : PositionEvent → Bool
  | .onChainOrderFilled .. => true
  | .offChainOrderPlaced .. => true
  | .offChainOrderFilled .. => true
  | .manualPositionAdjusted .. => true
  | _ => false

/-- The stored events of one position. The rows of a stream are numbered upwards,
with those of other streams in between. -/
def loadPositionEvents (rowid : Nat → Nat) (symbol : Symbol) (stream : List PositionEvent) :
    List PositionEventRow :=
  (stream.zipIdx.map fun (event, index) => ⟨rowid index, symbol, event⟩).filter
    fun row => isReplayed row.event

/-! ## The order of the replay -/

/-- When an event happened, as opposed to when it was stored. -/
def positionEventReplayTimestamp : PositionEvent → Option Time
  | .onChainOrderFilled _ _ _ _ blockTimestamp _ => some blockTimestamp
  | .offChainOrderFilled _ _ _ _ _ brokerTimestamp => some brokerTimestamp
  | .offChainOrderPlaced _ _ _ _ _ placedAt => some placedAt
  | .manualPositionAdjusted _ _ _ _ adjustedAt => some adjustedAt
  | _ => none

def timestampMillis (time : Time) : Nat := time / 1000000

/-- Milliseconds, then the row. -/
def PositionEventRow.sortKey (row : PositionEventRow) : Nat ×ₗ Nat :=
  toLex (((positionEventReplayTimestamp row.event).map timestampMillis).getD 0, row.rowid)

def orderedPositionEvents (rows : List PositionEventRow) :
    Except PnlError (List PositionEventRow) := do
  for row in rows do
    if (positionEventReplayTimestamp row.event).isNone then
      throw ⟨row.rowid, "missing replay timestamp"⟩
  return rows.insertionSort fun first second => first.sortKey ≤ second.sortKey

/-! ## One row -/

def ensurePositiveFillDecimal (row : PositionEventRow) (value : ℚ) (reason : String) :
    Except PnlError Unit :=
  if value ≤ 0 then .error ⟨row.rowid, reason⟩ else .ok ()

def parseOnchainFill (row : PositionEventRow) (tradeId : TradeId) (amount : ℚ)
    (direction : Direction) (priceUsdc : ℚ) (blockTimestamp : Time) : Except PnlError Fill := do
  ensurePositiveFillDecimal row amount "non-positive OnChainOrderFilled amount"
  ensurePositiveFillDecimal row priceUsdc "non-positive OnChainOrderFilled price_usdc"
  return {
    rowid := row.rowid
    id := .trade tradeId
    symbol := row.symbol
    shares := amount
    direction := direction
    price := priceUsdc
    executedAt := blockTimestamp
    venue := .onchain }

def parseOffchainFill (row : PositionEventRow) (offchainOrderId : OffchainOrderId) (shares : ℚ)
    (direction : Direction) (price : ℚ) (brokerTimestamp : Time) : Except PnlError Fill := do
  ensurePositiveFillDecimal row shares "non-positive OffChainOrderFilled shares_filled"
  ensurePositiveFillDecimal row price "non-positive OffChainOrderFilled price"
  return {
    rowid := row.rowid
    id := .order offchainOrderId
    symbol := row.symbol
    shares := shares
    direction := direction
    price := price
    executedAt := brokerTimestamp
    venue := .offchain }

def applyRow (replay : Replay) (row : PositionEventRow) : Except PnlError Replay :=
  match row.event with
  | .onChainOrderFilled tradeId amount direction priceUsdc blockTimestamp _ => do
      let fill ← parseOnchainFill row tradeId amount direction priceUsdc blockTimestamp
      return applyOnchainFill replay fill
  | .offChainOrderPlaced offchainOrderId .. =>
      .ok (applyOffchainPlacement replay row.symbol (.order offchainOrderId))
  | .offChainOrderFilled offchainOrderId sharesFilled direction _ price brokerTimestamp => do
      let fill ← parseOffchainFill row offchainOrderId sharesFilled.inner direction price
        brokerTimestamp
      return applyOffchainFill replay fill
  | .manualPositionAdjusted _ targetNet _ priceUsdc adjustedAt =>
      applyManualPositionAdjustment replay row.rowid targetNet priceUsdc adjustedAt
  | _ => .ok replay

/-- The rows of one symbol, in the order given. -/
def replayRows (rows : List PositionEventRow) : Except PnlError Replay :=
  rows.foldlM applyRow {}

/-! ## All rows -/

def safeSymbolChars : List Char :=
  "ABCDEFGHIJKLMNOPQRSTUVWXYZabcdefghijklmnopqrstuvwxyz0123456789._-".toList

def isSafeSymbol (symbol : Symbol) : Bool :=
  !symbol.toList.isEmpty && symbol.toList.all safeSymbolChars.contains

/-- The books of all symbols, and what is collected across them. -/
structure Report where
  books : Symbol → Option SymbolBook := fun _ => none
  entries : List PnlEntry := []
  warnings : List PnlWarning := []
  unmatchedOffchainAllocations : List UnmatchedOffchainAllocation := []

def Report.bookOf (report : Report) (symbol : Symbol) : SymbolBook :=
  (report.books symbol).getD {}

def Report.applyRow (report : Report) (row : PositionEventRow) : Except PnlError Report :=
  if !isSafeSymbol row.symbol then
    .ok { report with warnings := report.warnings ++ [.unsafeSymbol row.symbol] }
  else do
    let replay ← Pnl.applyRow
      { book := report.bookOf row.symbol
        entries := report.entries
        warnings := report.warnings
        unmatchedOffchainAllocations := report.unmatchedOffchainAllocations } row
    return {
      books := Function.update report.books row.symbol (some replay.book)
      entries := replay.entries
      warnings := replay.warnings
      unmatchedOffchainAllocations := replay.unmatchedOffchainAllocations }

/-- The replay loop of the report. -/
def buildReplay (rows : List PositionEventRow) : Except PnlError Report := do
  let ordered ← orderedPositionEvents rows
  ordered.foldlM Report.applyRow {}

/-! ## The open lots -/

def finalizeLot (summary : SummaryAcc) (lot : Lot) : SummaryAcc :=
  let notional := lot.remainingShares * lot.price
  let counted : SummaryAcc := match lot.side with
    | .long =>
        let opened := { summary with
          openLongShares := summary.openLongShares + lot.remainingShares
          openLongNotionalUsd := summary.openLongNotionalUsd + notional }
        if lot.openedVenue = .offchain then
          { opened with
            unmatchedOffchainBuyShares := opened.unmatchedOffchainBuyShares + lot.remainingShares
            unmatchedOffchainBuyNotionalUsd := opened.unmatchedOffchainBuyNotionalUsd + notional
            unmatchedOffchainFillCount := opened.unmatchedOffchainFillCount + 1 }
        else opened
    | .short =>
        let opened := { summary with
          openShortShares := summary.openShortShares + lot.remainingShares
          openShortNotionalUsd := summary.openShortNotionalUsd + notional }
        if lot.openedVenue = .offchain then
          { opened with
            unmatchedOffchainSellShares := opened.unmatchedOffchainSellShares + lot.remainingShares
            unmatchedOffchainSellNotionalUsd := opened.unmatchedOffchainSellNotionalUsd + notional
            unmatchedOffchainFillCount := opened.unmatchedOffchainFillCount + 1 }
        else opened
  { counted with openLotCount := counted.openLotCount + 1 }

def finalizeLots (summary : SummaryAcc) (lots : List Lot) : SummaryAcc :=
  lots.foldl finalizeLot summary

def SymbolBook.finalSummary (book : SymbolBook) : SummaryAcc :=
  finalizeLots (finalizeLots book.summary book.longLots) book.shortLots

structure PositionReplayDelta where
  symbol : Symbol
  replayNet : ℚ
  positionNet : ℚ
  deriving DecidableEq

/-- Differences up to here are not reported. -/
def epsilon : ℚ := 1 / 1000000

/-- The summary of a book, the audit of its onchain lots, and how it differs from
the net position. -/
def finalizeBook (symbol : Symbol) (book : SymbolBook) (positionNet : Option ℚ) :
    SummaryAcc × List PnlWarning × List PositionReplayDelta :=
  let summary := book.finalSummary
  let audit := book.matchedOnchainShares.entries.filterMap fun ⟨tradeId, matchedShares⟩ =>
    match book.originalOnchainShares.lookup tradeId with
    | some originalShares =>
        if matchedShares - originalShares > epsilon then
          some (.matchedAboveOriginal tradeId symbol matchedShares originalShares)
        else none
    | none => none
  let deltas := match positionNet with
    | some positionNet =>
        let replayNet := summary.openLongShares - summary.openShortShares
        if |replayNet - positionNet| > epsilon then [⟨symbol, replayNet, positionNet⟩] else []
    | none => []
  (summary, audit, deltas)

end Liquidity.Pnl
