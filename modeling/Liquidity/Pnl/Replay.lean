import Liquidity.Position.Aggregate
import Mathlib.Data.List.AList

/-!
# Replaying fills into lots

The dashboard's profit report replays the fills of each symbol into a book of
open lots. A fill closes lots of the other side, oldest first, and opens a lot
for what remains of it. Closing a lot realizes profit, which is counted in one of
three buckets and listed as an entry. A manual adjustment discards all open lots
and opens one for its target.

Amounts are exact rationals. The payloads are read as the events they were
written from; texts are kept as the values they format, and a time counts
nanoseconds.
-/

namespace Liquidity.Pnl

inductive LotSide where
  | long
  | short
  deriving DecidableEq, Repr

inductive PnlBucket where
  | counterTrade
  | onchainNetting
  | directionalExposure
  deriving DecidableEq, Repr

inductive Venue where
  | onchain
  | offchain
  | manual
  deriving DecidableEq, Repr

/-- What a fill or a lot is known by. -/
inductive FillId where
  | trade (tradeId : TradeId)
  | order (offchainOrderId : OffchainOrderId)
  | adjustment (rowid : Nat)
  deriving DecidableEq

structure Fill where
  rowid : Nat
  id : FillId
  symbol : Symbol
  shares : ℚ
  direction : Direction
  price : ℚ
  executedAt : Time
  venue : Venue
  deriving DecidableEq

structure Lot where
  tradeId : FillId
  side : LotSide
  remainingShares : ℚ
  price : ℚ
  openedAt : Time
  openedRowid : Nat
  openedVenue : Venue
  deriving DecidableEq

structure SummaryAcc where
  counterTradePnlUsd : ℚ := 0
  onchainNettingPnlUsd : ℚ := 0
  directionalInventoryBaselinePnlUsd : ℚ := 0
  directionalImbalanceExcessPnlUsd : ℚ := 0
  directionalExposurePnlUsd : ℚ := 0
  realizedPnlUsd : ℚ := 0
  matchedShares : ℚ := 0
  onchainNotionalUsd : ℚ := 0
  offchainNotionalUsd : ℚ := 0
  openLongShares : ℚ := 0
  openShortShares : ℚ := 0
  openLongNotionalUsd : ℚ := 0
  openShortNotionalUsd : ℚ := 0
  unmatchedOffchainBuyShares : ℚ := 0
  unmatchedOffchainSellShares : ℚ := 0
  unmatchedOffchainBuyNotionalUsd : ℚ := 0
  unmatchedOffchainSellNotionalUsd : ℚ := 0
  onchainFillCount : Nat := 0
  offchainFillCount : Nat := 0
  matchedLotCount : Nat := 0
  openLotCount : Nat := 0
  unmatchedOffchainFillCount : Nat := 0
  deriving DecidableEq

/-- Shares by the fill that opened them. -/
abbrev SharesById := AList fun _ : FillId => ℚ

/-- Add to an entry, which starts from nothing. -/
def SharesById.increase (shares : SharesById) (id : FillId) (more : ℚ) : SharesById :=
  shares.insert id ((shares.lookup id).getD 0 + more)

/-- Lots are queues, the oldest first. -/
structure SymbolBook where
  longLots : List Lot := []
  shortLots : List Lot := []
  seenOnchainFillIds : Finset FillId := ∅
  seenOffchainPlacementIds : Finset FillId := ∅
  seenOffchainFillIds : Finset FillId := ∅
  originalOnchainShares : SharesById := ∅
  matchedOnchainShares : SharesById := ∅
  lastPriceUsdc : Option ℚ := none
  summary : SummaryAcc := {}

structure PnlEntry where
  symbol : Symbol
  pnlBucket : PnlBucket
  matchedAt : Time
  openedAt : Time
  closedAt : Time
  openingFillId : FillId
  closingFillId : FillId
  openingRowid : Nat
  closingRowid : Nat
  openingVenue : Venue
  closingVenue : Venue
  openingDirection : Direction
  closingDirection : Direction
  openingPriceUsd : ℚ
  closingPriceUsd : ℚ
  onchainTradeId : Option FillId
  offchainOrderId : Option FillId
  onchainDirection : Option Direction
  offchainDirection : Option Direction
  shares : ℚ
  onchainPriceUsdc : Option ℚ
  offchainPriceUsd : Option ℚ
  spreadUsd : ℚ
  realizedPnlUsd : ℚ
  elapsedSeconds : Nat
  delayedCounterTrade : Bool
  deriving DecidableEq

structure UnmatchedOffchainAllocation where
  symbol : Symbol
  fillId : FillId
  shares : ℚ
  deriving DecidableEq

inductive PnlWarning where
  | duplicateOnchainTrade (id : FillId) (symbol : Symbol)
  | duplicateOffchainPlacement (id : FillId) (symbol : Symbol)
  | duplicateOffchainFill (id : FillId) (symbol : Symbol)
  | matchedAboveOriginal (id : FillId) (symbol : Symbol) (matched original : ℚ)
  | unsafeSymbol (symbol : Symbol)
  deriving DecidableEq

/-- A row that cannot be replayed fails the whole report. -/
structure PnlError where
  rowid : Nat
  reason : String
  deriving DecidableEq, Repr

/-! ## Closing lots -/

def counterTradeThresholdSeconds : Nat := 300

def secondsBetween (start finish : Time) : Nat := (finish - start) / 1000000000

def LotSide.toDirection : LotSide → Direction
  | .long => .buy
  | .short => .sell

def addVenueNotional (summary : SummaryAcc) (venue : Venue) (notional : ℚ) : SummaryAcc :=
  match venue with
  | .onchain => { summary with onchainNotionalUsd := summary.onchainNotionalUsd + notional }
  | .offchain => { summary with offchainNotionalUsd := summary.offchainNotionalUsd + notional }
  | .manual => summary

def addRealizedPnl (summary : SummaryAcc) (bucket : PnlBucket) (value : ℚ) : SummaryAcc :=
  match bucket with
  | .counterTrade =>
      { summary with
        counterTradePnlUsd := summary.counterTradePnlUsd + value
        realizedPnlUsd := summary.realizedPnlUsd + value }
  | .onchainNetting =>
      { summary with
        onchainNettingPnlUsd := summary.onchainNettingPnlUsd + value
        realizedPnlUsd := summary.realizedPnlUsd + value }
  | .directionalExposure =>
      { summary with
        directionalImbalanceExcessPnlUsd := summary.directionalImbalanceExcessPnlUsd + value
        directionalExposurePnlUsd := summary.directionalExposurePnlUsd + value
        realizedPnlUsd := summary.realizedPnlUsd + value }

/-- The opening or the closing value, by which of the two is of this venue. -/
def textForVenue {α : Type} (venue : Venue) (frontLot : Lot) (fill : Fill)
    (openingValue closingValue : α) : Option α :=
  if frontLot.openedVenue = venue then some openingValue
  else if fill.venue = venue then some closingValue
  else none

/-- What closing lots accumulates. -/
structure Tally where
  summary : SummaryAcc
  matchedOnchainShares : SharesById
  entries : List PnlEntry

def delayedCounterTrade (fill : Fill) (bucket : PnlBucket) (lot : Lot) : Bool :=
  bucket = .counterTrade && lot.openedVenue ≠ .offchain &&
    secondsBetween lot.openedAt fill.executedAt > counterTradeThresholdSeconds

def effectiveBucket (fill : Fill) (bucket : PnlBucket) (lot : Lot) : PnlBucket :=
  if lot.openedVenue = .offchain || lot.openedVenue = .manual ||
      delayedCounterTrade fill bucket lot then .directionalExposure
  else bucket

def spread (fill : Fill) (lot : Lot) : ℚ :=
  if lot.side = .long then fill.price - lot.price else lot.price - fill.price

def matchEntry (fill : Fill) (bucket : PnlBucket) (lot : Lot) (matchedShares : ℚ) : PnlEntry where
  symbol := fill.symbol
  pnlBucket := effectiveBucket fill bucket lot
  matchedAt := fill.executedAt
  openedAt := lot.openedAt
  closedAt := fill.executedAt
  openingFillId := lot.tradeId
  closingFillId := fill.id
  openingRowid := lot.openedRowid
  closingRowid := fill.rowid
  openingVenue := lot.openedVenue
  closingVenue := fill.venue
  openingDirection := lot.side.toDirection
  closingDirection := fill.direction
  openingPriceUsd := lot.price
  closingPriceUsd := fill.price
  onchainTradeId := textForVenue .onchain lot fill lot.tradeId fill.id
  offchainOrderId := textForVenue .offchain lot fill lot.tradeId fill.id
  onchainDirection := textForVenue .onchain lot fill lot.side.toDirection fill.direction
  offchainDirection := textForVenue .offchain lot fill lot.side.toDirection fill.direction
  shares := matchedShares
  onchainPriceUsdc := textForVenue .onchain lot fill lot.price fill.price
  offchainPriceUsd := textForVenue .offchain lot fill lot.price fill.price
  spreadUsd := spread fill lot
  realizedPnlUsd := matchedShares * spread fill lot
  elapsedSeconds := secondsBetween lot.openedAt fill.executedAt
  delayedCounterTrade := delayedCounterTrade fill bucket lot

/-- Close a part of a lot, or all of it. -/
def Tally.close (fill : Fill) (bucket : PnlBucket) (tally : Tally) (lot : Lot)
    (matchedShares : ℚ) : Tally :=
  let realized := addRealizedPnl tally.summary (effectiveBucket fill bucket lot)
    (matchedShares * spread fill lot)
  let matched := { realized with matchedShares := realized.matchedShares + matchedShares }
  let opening := addVenueNotional matched lot.openedVenue (matchedShares * lot.price)
  let closing := addVenueNotional opening fill.venue (matchedShares * fill.price)
  { summary := { closing with matchedLotCount := closing.matchedLotCount + 1 }
    matchedOnchainShares :=
      if lot.openedVenue = .onchain then
        tally.matchedOnchainShares.increase lot.tradeId matchedShares
      else tally.matchedOnchainShares
    entries := tally.entries ++ [matchEntry fill bucket lot matchedShares] }

/-- Close lots from the front until the fill or the lots are used up. What is left
of the fill, the lots, and the tally. -/
def matchFillAgainstLots (fill : Fill) (bucket : PnlBucket) :
    List Lot → (remaining : ℚ) → Tally → ℚ × List Lot × Tally
  | [], remaining, tally => (remaining, [], tally)
  | frontLot :: sourceLots, remaining, tally =>
      if remaining = 0 then (remaining, frontLot :: sourceLots, tally)
      else
        let matchedShares := min remaining frontLot.remainingShares
        if matchedShares = 0 then matchFillAgainstLots fill bucket sourceLots remaining tally
        else
          let left := frontLot.remainingShares - matchedShares
          let tally := tally.close fill bucket frontLot matchedShares
          -- A lot that is not used up goes back to the front, and the fill is used up.
          if left ≠ 0 then
            (remaining - matchedShares,
              { frontLot with remainingShares := left } :: sourceLots, tally)
          else matchFillAgainstLots fill bucket sourceLots (remaining - matchedShares) tally

/-! ## Applying an event -/

/-- A book with what the whole report collects. -/
structure Replay where
  book : SymbolBook := {}
  entries : List PnlEntry := []
  warnings : List PnlWarning := []
  unmatchedOffchainAllocations : List UnmatchedOffchainAllocation := []

/-- A lot goes to the back of its side. -/
def pushLot (book : SymbolBook) (lot : Lot) : SymbolBook :=
  match lot.side with
  | .long => { book with longLots := book.longLots ++ [lot] }
  | .short => { book with shortLots := book.shortLots ++ [lot] }

/-- What remains of a fill becomes a lot. -/
def residualLot (fill : Fill) (remaining : ℚ) : Lot where
  tradeId := fill.id
  side := if fill.direction = .buy then .long else .short
  remainingShares := remaining
  price := fill.price
  openedAt := fill.executedAt
  openedRowid := fill.rowid
  openedVenue := fill.venue

def openResidualLot (book : SymbolBook) (fill : Fill) (remaining : ℚ) : SymbolBook :=
  pushLot book (residualLot fill remaining)

/-- A buy closes short lots, a sell long ones. -/
def matchAgainstBook (replay : Replay) (fill : Fill) (bucket : PnlBucket) : ℚ × Replay :=
  let book := replay.book
  let tally : Tally := ⟨book.summary, book.matchedOnchainShares, replay.entries⟩
  match fill.direction with
  | .buy =>
      let (remaining, lots, tally) :=
        matchFillAgainstLots fill bucket book.shortLots fill.shares tally
      (remaining, { replay with
        book := { book with
          shortLots := lots, summary := tally.summary
          matchedOnchainShares := tally.matchedOnchainShares }
        entries := tally.entries })
  | .sell =>
      let (remaining, lots, tally) :=
        matchFillAgainstLots fill bucket book.longLots fill.shares tally
      (remaining, { replay with
        book := { book with
          longLots := lots, summary := tally.summary
          matchedOnchainShares := tally.matchedOnchainShares }
        entries := tally.entries })

def applyOnchainFill (replay : Replay) (fill : Fill) : Replay :=
  let book := replay.book
  if fill.id ∈ book.seenOnchainFillIds then
    { replay with warnings := replay.warnings ++ [.duplicateOnchainTrade fill.id fill.symbol] }
  else
    let seen := { replay with
      book := { book with
        seenOnchainFillIds := insert fill.id book.seenOnchainFillIds
        lastPriceUsdc := some fill.price
        summary := { book.summary with onchainFillCount := book.summary.onchainFillCount + 1 } } }
    let (remaining, matched) := matchAgainstBook seen fill .onchainNetting
    if remaining = 0 then matched
    else
      let opened := { matched.book with
        originalOnchainShares := matched.book.originalOnchainShares.increase fill.id remaining }
      { matched with book := openResidualLot opened fill remaining }

def applyOffchainPlacement (replay : Replay) (symbol : Symbol) (orderId : FillId) : Replay :=
  let book := replay.book
  if orderId ∈ book.seenOffchainPlacementIds then
    { replay with warnings := replay.warnings ++ [.duplicateOffchainPlacement orderId symbol] }
  else
    { replay with book := { book with
        seenOffchainPlacementIds := insert orderId book.seenOffchainPlacementIds } }

def applyOffchainFill (replay : Replay) (fill : Fill) : Replay :=
  let book := replay.book
  if fill.id ∈ book.seenOffchainFillIds then
    { replay with warnings := replay.warnings ++ [.duplicateOffchainFill fill.id fill.symbol] }
  else
    let seen := { replay with
      book := { book with
        seenOffchainFillIds := insert fill.id book.seenOffchainFillIds
        summary := { book.summary with offchainFillCount := book.summary.offchainFillCount + 1 } } }
    let (remaining, matched) := matchAgainstBook seen fill .counterTrade
    if remaining = 0 then matched
    else
      { matched with
        unmatchedOffchainAllocations :=
          matched.unmatchedOffchainAllocations ++ [⟨fill.symbol, fill.id, remaining⟩]
        book := openResidualLot matched.book fill remaining }

/-- All lots are discarded. A target other than zero needs a price, its own or the
last one the replay has seen. -/
def applyManualPositionAdjustment (replay : Replay) (rowid : Nat) (targetNet : ℚ)
    (priceUsdc : Option ℚ) (adjustedAt : Time) : Except PnlError Replay :=
  let cleared := { replay.book with
    longLots := [], shortLots := [], originalOnchainShares := ∅, matchedOnchainShares := ∅ }
  if targetNet = 0 then .ok { replay with book := cleared }
  else
    match priceUsdc.or cleared.lastPriceUsdc with
    | none => .error ⟨rowid,
        "nonzero ManualPositionAdjusted missing price_usdc and no prior replay price"⟩
    | some price =>
        let priced := { cleared with lastPriceUsdc := priceUsdc.or cleared.lastPriceUsdc }
        .ok { replay with
          book := pushLot priced
            { tradeId := .adjustment rowid
              side := if targetNet < 0 then .short else .long
              remainingShares := |targetNet|
              price
              openedAt := adjustedAt
              openedRowid := rowid
              openedVenue := .manual } }

end Liquidity.Pnl
