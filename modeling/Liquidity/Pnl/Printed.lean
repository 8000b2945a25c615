import Liquidity.Pnl.Decimals
import Liquidity.Pnl.Response

/-!
# What the report prints is finite

The replay adds, subtracts and multiplies, and picks one of two amounts; it never
divides. Its amounts therefore stay in every ring that contains the stored ones, and in
particular in that of the finite decimals.
-/

namespace Liquidity.Pnl

open DecimalText Grouping

variable {S : Subring ℚ}

theorem abs_mem {amount : ℚ} (within : amount ∈ S) : |amount| ∈ S := by
  obtain same | opposite := abs_choice amount
  · rwa [same]
  · rw [opposite]
    exact S.neg_mem within

theorem min_mem {first second : ℚ} (within : first ∈ S) (also : second ∈ S) :
    min first second ∈ S := by
  obtain same | same := min_choice first second
  · rwa [same]
  · rwa [same]

/-! ## Books -/

section Books

variable (S)

structure SummaryAcc.Within (summary : SummaryAcc) : Prop where
  counterTradePnlUsd : summary.counterTradePnlUsd ∈ S
  onchainNettingPnlUsd : summary.onchainNettingPnlUsd ∈ S
  directionalInventoryBaselinePnlUsd : summary.directionalInventoryBaselinePnlUsd ∈ S
  directionalImbalanceExcessPnlUsd : summary.directionalImbalanceExcessPnlUsd ∈ S
  directionalExposurePnlUsd : summary.directionalExposurePnlUsd ∈ S
  realizedPnlUsd : summary.realizedPnlUsd ∈ S
  matchedShares : summary.matchedShares ∈ S
  onchainNotionalUsd : summary.onchainNotionalUsd ∈ S
  offchainNotionalUsd : summary.offchainNotionalUsd ∈ S
  openLongShares : summary.openLongShares ∈ S
  openShortShares : summary.openShortShares ∈ S
  openLongNotionalUsd : summary.openLongNotionalUsd ∈ S
  openShortNotionalUsd : summary.openShortNotionalUsd ∈ S
  unmatchedOffchainBuyShares : summary.unmatchedOffchainBuyShares ∈ S
  unmatchedOffchainSellShares : summary.unmatchedOffchainSellShares ∈ S
  unmatchedOffchainBuyNotionalUsd : summary.unmatchedOffchainBuyNotionalUsd ∈ S
  unmatchedOffchainSellNotionalUsd : summary.unmatchedOffchainSellNotionalUsd ∈ S

structure Fill.Within (fill : Fill) : Prop where
  shares : fill.shares ∈ S
  price : fill.price ∈ S

structure Lot.Within (lot : Lot) : Prop where
  remainingShares : lot.remainingShares ∈ S
  price : lot.price ∈ S

structure PnlEntry.Within (entry : PnlEntry) : Prop where
  openingPriceUsd : entry.openingPriceUsd ∈ S
  closingPriceUsd : entry.closingPriceUsd ∈ S
  shares : entry.shares ∈ S
  onchainPriceUsdc : ∀ price ∈ entry.onchainPriceUsdc, price ∈ S
  offchainPriceUsd : ∀ price ∈ entry.offchainPriceUsd, price ∈ S
  spreadUsd : entry.spreadUsd ∈ S
  realizedPnlUsd : entry.realizedPnlUsd ∈ S

def SharesById.Within (shares : SharesById) : Prop :=
  ∀ id, ∀ amount ∈ shares.lookup id, amount ∈ S

structure SymbolBook.Within (book : SymbolBook) : Prop where
  longLots : ∀ lot ∈ book.longLots, lot.Within S
  shortLots : ∀ lot ∈ book.shortLots, lot.Within S
  originalOnchainShares : book.originalOnchainShares.Within S
  matchedOnchainShares : book.matchedOnchainShares.Within S
  lastPriceUsdc : ∀ price ∈ book.lastPriceUsdc, price ∈ S
  summary : book.summary.Within S

structure Tally.Within (tally : Tally) : Prop where
  summary : tally.summary.Within S
  matchedOnchainShares : tally.matchedOnchainShares.Within S
  entries : ∀ entry ∈ tally.entries, entry.Within S

structure Replay.Within (replay : Replay) : Prop where
  book : replay.book.Within S
  entries : ∀ entry ∈ replay.entries, entry.Within S
  unmatchedOffchainAllocations :
    ∀ allocation ∈ replay.unmatchedOffchainAllocations, allocation.shares ∈ S

end Books

theorem SummaryAcc.within_empty : ({} : SummaryAcc).Within S := by
  constructor <;> exact S.zero_mem

theorem SharesById.within_empty : SharesById.Within S ∅ := by
  intro id amount held
  cases held

theorem SymbolBook.within_empty : ({} : SymbolBook).Within S where
  longLots := by simp
  shortLots := by simp
  originalOnchainShares := SharesById.within_empty
  matchedOnchainShares := SharesById.within_empty
  lastPriceUsdc := by simp
  summary := SummaryAcc.within_empty

section Closing

variable {summary : SummaryAcc} {fill : Fill} {lot : Lot} {bucket : PnlBucket} {tally : Tally}

theorem SharesById.Within.increase {shares : SharesById} (within : shares.Within S) (id : FillId)
    {more : ℚ} (also : more ∈ S) : (shares.increase id more).Within S := by
  intro other amount held
  by_cases same : other = id
  · subst same
    rw [SharesById.increase, AList.lookup_insert, Option.mem_some_iff] at held
    rw [← held]
    refine S.add_mem ?_ also
    cases before : shares.lookup other with
    | none => exact S.zero_mem
    | some value => exact within other value before
  · rw [SharesById.increase, AList.lookup_insert_ne same] at held
    exact within other amount held

theorem SummaryAcc.Within.addVenueNotional (within : summary.Within S) (venue : Venue)
    {notional : ℚ} (also : notional ∈ S) : (addVenueNotional summary venue notional).Within S := by
  cases venue with
  | onchain => exact { within with onchainNotionalUsd := S.add_mem within.onchainNotionalUsd also }
  | offchain =>
      exact { within with offchainNotionalUsd := S.add_mem within.offchainNotionalUsd also }
  | manual => exact within

theorem SummaryAcc.Within.addRealizedPnl (within : summary.Within S) (bucket : PnlBucket)
    {value : ℚ} (also : value ∈ S) : (addRealizedPnl summary bucket value).Within S := by
  have realized := S.add_mem within.realizedPnlUsd also
  cases bucket with
  | counterTrade =>
      exact { within with
        counterTradePnlUsd := S.add_mem within.counterTradePnlUsd also
        realizedPnlUsd := realized }
  | onchainNetting =>
      exact { within with
        onchainNettingPnlUsd := S.add_mem within.onchainNettingPnlUsd also
        realizedPnlUsd := realized }
  | directionalExposure =>
      exact { within with
        directionalImbalanceExcessPnlUsd :=
          S.add_mem within.directionalImbalanceExcessPnlUsd also
        directionalExposurePnlUsd := S.add_mem within.directionalExposurePnlUsd also
        realizedPnlUsd := realized }

theorem spread_mem (closing : fill.Within S) (opening : lot.Within S) : spread fill lot ∈ S := by
  rw [spread]
  split
  case isTrue => exact S.sub_mem closing.price opening.price
  case isFalse => exact S.sub_mem opening.price closing.price

theorem mem_of_textForVenue {venue : Venue} {opening closing price : ℚ}
    (within : opening ∈ S) (also : closing ∈ S)
    (named : price ∈ textForVenue venue lot fill opening closing) : price ∈ S := by
  rw [textForVenue] at named
  split at named
  case isTrue =>
      rw [Option.mem_some_iff] at named
      rwa [← named]
  case isFalse =>
      split at named
      case isTrue =>
          rw [Option.mem_some_iff] at named
          rwa [← named]
      case isFalse => cases named

theorem matchEntry_within (closing : fill.Within S) (opening : lot.Within S) {matchedShares : ℚ}
    (within : matchedShares ∈ S) : (matchEntry fill bucket lot matchedShares).Within S where
  openingPriceUsd := opening.price
  closingPriceUsd := closing.price
  shares := within
  onchainPriceUsdc := fun _ named => mem_of_textForVenue opening.price closing.price named
  offchainPriceUsd := fun _ named => mem_of_textForVenue opening.price closing.price named
  spreadUsd := spread_mem closing opening
  realizedPnlUsd := S.mul_mem within (spread_mem closing opening)

theorem Tally.Within.close (within : tally.Within S) (bucket : PnlBucket) (closing : fill.Within S)
    (opening : lot.Within S) {matchedShares : ℚ} (also : matchedShares ∈ S) :
    (tally.close fill bucket lot matchedShares).Within S where
  summary := by
    have realized := within.summary.addRealizedPnl (effectiveBucket fill bucket lot)
      (S.mul_mem also (spread_mem closing opening))
    have matched : SummaryAcc.Within S { addRealizedPnl tally.summary
        (effectiveBucket fill bucket lot) (matchedShares * spread fill lot) with
        matchedShares := (addRealizedPnl tally.summary (effectiveBucket fill bucket lot)
          (matchedShares * spread fill lot)).matchedShares + matchedShares } :=
      { realized with matchedShares := S.add_mem realized.matchedShares also }
    have both := (matched.addVenueNotional lot.openedVenue
      (S.mul_mem also opening.price)).addVenueNotional fill.venue (S.mul_mem also closing.price)
    exact { both with }
  matchedOnchainShares := by
    show SharesById.Within S (if lot.openedVenue = .onchain then _ else _)
    split
    case isTrue => exact within.matchedOnchainShares.increase lot.tradeId also
    case isFalse => exact within.matchedOnchainShares
  entries := by
    intro entry listed
    obtain listed | listed := List.mem_append.mp listed
    · exact within.entries entry listed
    · rw [List.mem_singleton.mp listed]
      exact matchEntry_within closing opening also

/-- Closing lots keeps the lots and the tally within the ring, and what is left of the
fill. -/
theorem matchFillAgainstLots_within (bucket : PnlBucket) (closing : fill.Within S)
    {lots : List Lot} {remaining : ℚ}
    (opened : ∀ lot ∈ lots, lot.Within S) (also : remaining ∈ S) (within : tally.Within S) :
    (matchFillAgainstLots fill bucket lots remaining tally).1 ∈ S ∧
      (∀ lot ∈ (matchFillAgainstLots fill bucket lots remaining tally).2.1, lot.Within S) ∧
      (matchFillAgainstLots fill bucket lots remaining tally).2.2.Within S := by
  induction lots generalizing remaining tally with
  | nil => exact ⟨also, by simp [matchFillAgainstLots], within⟩
  | cons frontLot sourceLots ih =>
      have front := opened frontLot List.mem_cons_self
      have others := fun lot listed => opened lot (List.mem_cons_of_mem _ listed)
      have matched := min_mem also front.remainingShares
      rw [matchFillAgainstLots]
      split
      case isTrue => exact ⟨also, opened, within⟩
      case isFalse =>
          dsimp only
          split
          case isTrue => exact ih others also within
          case isFalse =>
              have closed := within.close bucket closing front matched
              have rest := S.sub_mem also matched
              split
              case isTrue =>
                  refine ⟨rest, ?_, closed⟩
                  intro lot listed
                  obtain rfl | listed := List.mem_cons.mp listed
                  · exact ⟨S.sub_mem front.remainingShares matched, front.price⟩
                  · exact others lot listed
              case isFalse => exact ih others rest closed

end Closing

/-! ## Events -/

section Events

variable {replay next : Replay} {fill : Fill} {bucket : PnlBucket}

theorem SymbolBook.Within.pushLot {book : SymbolBook} (within : book.Within S) {lot : Lot}
    (also : lot.Within S) : (pushLot book lot).Within S := by
  have appended : ∀ lots : List Lot, (∀ other ∈ lots, other.Within S) →
      ∀ other ∈ lots ++ [lot], other.Within S := by
    intro lots all other listed
    obtain listed | listed := List.mem_append.mp listed
    · exact all other listed
    · rwa [List.mem_singleton.mp listed]
  rw [Pnl.pushLot]
  split
  · exact { within with longLots := appended _ within.longLots }
  · exact { within with shortLots := appended _ within.shortLots }

theorem SymbolBook.Within.withOriginal {book : SymbolBook} (within : book.Within S)
    {shares : SharesById} (also : shares.Within S) :
    SymbolBook.Within S { book with originalOnchainShares := shares } :=
  { within with originalOnchainShares := also }

theorem Replay.Within.matchAgainstBook (within : replay.Within S) (bucket : PnlBucket)
    (closing : fill.Within S) :
    (matchAgainstBook replay fill bucket).1 ∈ S ∧
      (matchAgainstBook replay fill bucket).2.Within S := by
  have tally : Tally.Within S
      ⟨replay.book.summary, replay.book.matchedOnchainShares, replay.entries⟩ :=
    ⟨within.book.summary, within.book.matchedOnchainShares, within.entries⟩
  rw [Pnl.matchAgainstBook]
  cases fill.direction with
  | buy =>
      obtain ⟨left, lots, tally⟩ := matchFillAgainstLots_within bucket closing
        within.book.shortLots closing.shares tally
      exact ⟨left, { within with
        book := { within.book with
          shortLots := lots
          summary := tally.summary
          matchedOnchainShares := tally.matchedOnchainShares }
        entries := tally.entries }⟩
  | sell =>
      obtain ⟨left, lots, tally⟩ := matchFillAgainstLots_within bucket closing
        within.book.longLots closing.shares tally
      exact ⟨left, { within with
        book := { within.book with
          longLots := lots
          summary := tally.summary
          matchedOnchainShares := tally.matchedOnchainShares }
        entries := tally.entries }⟩

theorem Replay.Within.applyOnchainFill (within : replay.Within S) (also : fill.Within S) :
    (applyOnchainFill replay fill).Within S := by
  rw [Pnl.applyOnchainFill]
  dsimp only
  split
  case isTrue => exact { within with }
  case isFalse =>
      have seen : Replay.Within S { replay with book := { replay.book with
          seenOnchainFillIds := insert fill.id replay.book.seenOnchainFillIds
          lastPriceUsdc := some fill.price
          summary := { replay.book.summary with
            onchainFillCount := replay.book.summary.onchainFillCount + 1 } } } :=
        { within with
          book := { within.book with
            lastPriceUsdc := fun price known => by
              rw [Option.mem_some_iff] at known
              rw [← known]
              exact also.price
            summary := { within.book.summary with } } }
      obtain ⟨left, matched⟩ := seen.matchAgainstBook .onchainNetting also
      split
      case isTrue => exact matched
      case isFalse =>
          have grown := matched.book.originalOnchainShares.increase fill.id left
          have residual : (residualLot fill _).Within S := ⟨left, also.price⟩
          have opened := (matched.book.withOriginal grown).pushLot residual
          exact { matched with book := opened }

theorem Replay.Within.applyOffchainPlacement (within : replay.Within S) (symbol : Symbol)
    (orderId : FillId) : (applyOffchainPlacement replay symbol orderId).Within S := by
  rw [Pnl.applyOffchainPlacement]
  split
  case isTrue => exact { within with }
  case isFalse => exact { within with book := { within.book with } }

theorem Replay.Within.applyOffchainFill (within : replay.Within S) (also : fill.Within S) :
    (applyOffchainFill replay fill).Within S := by
  rw [Pnl.applyOffchainFill]
  dsimp only
  split
  case isTrue => exact { within with }
  case isFalse =>
      have seen : Replay.Within S { replay with book := { replay.book with
          seenOffchainFillIds := insert fill.id replay.book.seenOffchainFillIds
          summary := { replay.book.summary with
            offchainFillCount := replay.book.summary.offchainFillCount + 1 } } } :=
        { within with book := { within.book with summary := { within.book.summary with } } }
      obtain ⟨left, matched⟩ := seen.matchAgainstBook .counterTrade also
      split
      case isTrue => exact matched
      case isFalse =>
          have residual : (residualLot fill _).Within S := ⟨left, also.price⟩
          have opened := matched.book.pushLot residual
          refine { matched with book := opened, unmatchedOffchainAllocations := ?_ }
          intro allocation listed
          obtain listed | listed := List.mem_append.mp listed
          · exact matched.unmatchedOffchainAllocations allocation listed
          · rw [List.mem_singleton.mp listed]
            exact left

theorem Replay.Within.applyManualPositionAdjustment (within : replay.Within S) {rowid : Nat}
    {targetNet : ℚ} {priceUsdc : Option ℚ} {adjustedAt : Time} (target : targetNet ∈ S)
    (prices : ∀ price ∈ priceUsdc, price ∈ S)
    (applied : applyManualPositionAdjustment replay rowid targetNet priceUsdc adjustedAt =
      .ok next) : next.Within S := by
  have known : ∀ price ∈ priceUsdc.or replay.book.lastPriceUsdc, price ∈ S := by
    intro price among
    cases own : priceUsdc with
    | none =>
        rw [own, Option.none_or] at among
        exact within.book.lastPriceUsdc price among
    | some value =>
        rw [own, Option.some_or, Option.mem_some_iff] at among
        exact prices price (own.trans (congrArg some among))
  have cleared : SymbolBook.Within S { replay.book with
      longLots := [], shortLots := [], originalOnchainShares := ∅, matchedOnchainShares := ∅ } :=
    { within.book with
      longLots := by simp
      shortLots := by simp
      originalOnchainShares := SharesById.within_empty
      matchedOnchainShares := SharesById.within_empty }
  rw [Pnl.applyManualPositionAdjustment] at applied
  dsimp only at applied
  split at applied
  case isTrue =>
      cases applied
      exact { within with book := cleared }
  case isFalse =>
      split at applied
      case h_1 => cases applied
      case h_2 price priced =>
          cases applied
          have asked : SymbolBook.Within S { replay.book with
              longLots := [], shortLots := [], originalOnchainShares := ∅
              matchedOnchainShares := ∅
              lastPriceUsdc := priceUsdc.or replay.book.lastPriceUsdc } :=
            { cleared with lastPriceUsdc := known }
          exact { within with book := asked.pushLot ⟨abs_mem target, known price priced⟩ }

end Events

/-! ## The replay -/

/-- The amounts of an event that the replay reads. -/
def storedAmounts : PositionEvent → List ℚ
  | .onChainOrderFilled _ amount _ priceUsdc _ _ => [amount, priceUsdc]
  | .offChainOrderFilled _ sharesFilled _ _ price _ => [sharesFilled.inner, price]
  | .manualPositionAdjusted _ targetNet _ priceUsdc _ => targetNet :: priceUsdc.toList
  | _ => []

structure Report.Within (S : Subring ℚ) (report : Report) : Prop where
  books : ∀ symbol, (report.bookOf symbol).Within S
  entries : ∀ entry ∈ report.entries, entry.Within S
  unmatchedOffchainAllocations :
    ∀ allocation ∈ report.unmatchedOffchainAllocations, allocation.shares ∈ S

theorem Report.within_empty : ({} : Report).Within S :=
  ⟨fun _ => SymbolBook.within_empty, by simp, by simp⟩

section Rows

variable {replay next : Replay} {row : PositionEventRow}

theorem Replay.Within.applyRow (within : replay.Within S)
    (stored : ∀ amount ∈ storedAmounts row.event, amount ∈ S)
    (applied : applyRow replay row = .ok next) : next.Within S := by
  obtain ⟨rowid, symbol, event⟩ := row
  cases event with
  | onChainOrderFilled tradeId amount direction priceUsdc blockTimestamp seenAt =>
      obtain ⟨fill, parsed, applied⟩ := bind_eq_ok.mp applied
      obtain ⟨_, _, parsed⟩ := bind_eq_ok.mp parsed
      obtain ⟨_, _, parsed⟩ := bind_eq_ok.mp parsed
      cases parsed
      cases applied
      exact within.applyOnchainFill ⟨stored _ (by simp [storedAmounts]),
        stored _ (by simp [storedAmounts])⟩
  | offChainOrderFilled orderId shares direction executorOrderId price brokerTimestamp =>
      obtain ⟨fill, parsed, applied⟩ := bind_eq_ok.mp applied
      obtain ⟨_, _, parsed⟩ := bind_eq_ok.mp parsed
      obtain ⟨_, _, parsed⟩ := bind_eq_ok.mp parsed
      cases parsed
      cases applied
      exact within.applyOffchainFill ⟨stored _ (by simp [storedAmounts]),
        stored _ (by simp [storedAmounts])⟩
  | manualPositionAdjusted previousNet targetNet reason priceUsdc adjustedAt =>
      refine within.applyManualPositionAdjustment (stored _ (by simp [storedAmounts])) ?_ applied
      intro price own
      exact stored price (by simp [storedAmounts, Option.mem_def.mp own])
  | offChainOrderPlaced =>
      cases applied
      exact within.applyOffchainPlacement _ _
  | _ =>
      cases applied
      exact within

theorem Report.Within.applyRow {report after : Report} (within : report.Within S)
    (stored : ∀ amount ∈ storedAmounts row.event, amount ∈ S)
    (applied : report.applyRow row = .ok after) : after.Within S := by
  rw [Report.applyRow] at applied
  split at applied
  case isTrue =>
      cases applied
      exact { within with }
  case isFalse =>
      obtain ⟨replay, ran, applied⟩ := bind_eq_ok.mp applied
      cases applied
      have started : Replay.Within S
          { book := report.bookOf row.symbol
            entries := report.entries
            warnings := report.warnings
            unmatchedOffchainAllocations := report.unmatchedOffchainAllocations } :=
        ⟨within.books row.symbol, within.entries, within.unmatchedOffchainAllocations⟩
      have went := started.applyRow stored ran
      refine ⟨?_, went.entries, went.unmatchedOffchainAllocations⟩
      intro symbol
      by_cases same : symbol = row.symbol
      · subst same
        simpa [Report.bookOf] using went.book
      · simpa [Report.bookOf, Function.update_of_ne same] using within.books symbol

theorem foldlM_applyRow_within {rows : List PositionEventRow} {report after : Report}
    (within : report.Within S)
    (stored : ∀ row ∈ rows, ∀ amount ∈ storedAmounts row.event, amount ∈ S)
    (ran : rows.foldlM Report.applyRow report = .ok after) : after.Within S :=
  foldlM_invariant within
    (fun row listed _ _ before applied => before.applyRow (stored row listed) applied) ran

theorem buildReplay_within {rows : List PositionEventRow} {report : Report}
    (stored : ∀ row ∈ rows, ∀ amount ∈ storedAmounts row.event, amount ∈ S)
    (built : buildReplay rows = .ok report) : report.Within S := by
  obtain ⟨ordered, sorted, ran⟩ := bind_eq_ok.mp built
  obtain ⟨_, _, sorted⟩ := bind_eq_ok.mp sorted
  cases sorted
  refine foldlM_applyRow_within Report.within_empty ?_ ran
  intro row listed
  exact stored row ((List.mem_insertionSort _).mp listed)

end Rows

end Liquidity.Pnl
