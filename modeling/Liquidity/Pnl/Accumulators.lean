import Liquidity.Pnl.Response

/-!
# What the replay has accumulated

A field of the summary that only closing lots adds to is the sum of what the
entries are worth to it. The books of the replay keep such sums while they close
lots; adding the listed entries up again gives the same.
-/

namespace Liquidity.Pnl

/-- A field of the summary, and what an entry adds to it. Counting fills and open
lots leaves the field alone. -/
structure Sums (field : SummaryAcc → ℚ) (worth : PnlEntry → ℚ) : Prop where
  start : field {} = 0
  sum : ∀ first second, field (addSummary first second) = field first + field second
  entry : ∀ summary entry, field (addEntry summary entry) = field summary + worth entry
  onchainFill : ∀ summary count, field { summary with onchainFillCount := count } = field summary
  offchainFill : ∀ summary count, field { summary with offchainFillCount := count } = field summary
  lot : ∀ summary lot, field (finalizeLot summary lot) = field summary

def bucketWorth (bucket : PnlBucket) (entry : PnlEntry) : ℚ :=
  if entry.pnlBucket = bucket then entry.realizedPnlUsd else 0

/-- What changed hands on a venue. -/
def venueWorth (venue : Venue) (entry : PnlEntry) : ℚ :=
  (if entry.openingVenue = venue then entry.shares * entry.openingPriceUsd else 0) +
    if entry.closingVenue = venue then entry.shares * entry.closingPriceUsd else 0

/-! ## The fields -/

section Fields

variable (summary : SummaryAcc) (entry : PnlEntry)

theorem addEntry_counterTrade : (addEntry summary entry).counterTradePnlUsd =
    summary.counterTradePnlUsd + bucketWorth .counterTrade entry := by
  unfold addEntry addVenueNotional addRealizedPnl bucketWorth
  cases entry.openingVenue <;> cases entry.closingVenue <;> cases entry.pnlBucket <;> simp

theorem addEntry_onchainNetting : (addEntry summary entry).onchainNettingPnlUsd =
    summary.onchainNettingPnlUsd + bucketWorth .onchainNetting entry := by
  unfold addEntry addVenueNotional addRealizedPnl bucketWorth
  cases entry.openingVenue <;> cases entry.closingVenue <;> cases entry.pnlBucket <;> simp

theorem addEntry_baseline : (addEntry summary entry).directionalInventoryBaselinePnlUsd =
    summary.directionalInventoryBaselinePnlUsd := by
  unfold addEntry addVenueNotional addRealizedPnl
  cases entry.openingVenue <;> cases entry.closingVenue <;> cases entry.pnlBucket <;> rfl

theorem addEntry_excess : (addEntry summary entry).directionalImbalanceExcessPnlUsd =
    summary.directionalImbalanceExcessPnlUsd + bucketWorth .directionalExposure entry := by
  unfold addEntry addVenueNotional addRealizedPnl bucketWorth
  cases entry.openingVenue <;> cases entry.closingVenue <;> cases entry.pnlBucket <;> simp

theorem addEntry_realized : (addEntry summary entry).realizedPnlUsd =
    summary.realizedPnlUsd + entry.realizedPnlUsd := by
  unfold addEntry addVenueNotional addRealizedPnl
  cases entry.openingVenue <;> cases entry.closingVenue <;> cases entry.pnlBucket <;> rfl

theorem addEntry_matchedShares : (addEntry summary entry).matchedShares =
    summary.matchedShares + entry.shares := by
  unfold addEntry addVenueNotional addRealizedPnl
  cases entry.openingVenue <;> cases entry.closingVenue <;> cases entry.pnlBucket <;> rfl

theorem addEntry_onchainNotional : (addEntry summary entry).onchainNotionalUsd =
    summary.onchainNotionalUsd + venueWorth .onchain entry := by
  unfold addEntry addVenueNotional addRealizedPnl venueWorth
  cases entry.openingVenue <;> cases entry.closingVenue <;> cases entry.pnlBucket <;>
    simp [add_assoc]

theorem addEntry_offchainNotional : (addEntry summary entry).offchainNotionalUsd =
    summary.offchainNotionalUsd + venueWorth .offchain entry := by
  unfold addEntry addVenueNotional addRealizedPnl venueWorth
  cases entry.openingVenue <;> cases entry.closingVenue <;> cases entry.pnlBucket <;>
    simp [add_assoc]

theorem addEntry_matchedLots : (addEntry summary entry).matchedLotCount =
    summary.matchedLotCount + 1 := by
  unfold addEntry addVenueNotional addRealizedPnl
  cases entry.openingVenue <;> cases entry.closingVenue <;> cases entry.pnlBucket <;> rfl

/-- Open lots only add to what is open. -/
theorem finalizeLot_keeps {α : Type} (field : SummaryAcc → α) (lot : Lot)
    (keeps : ∀ (summary : SummaryAcc) (openLongShares openLongNotionalUsd openShortShares
      openShortNotionalUsd unmatchedOffchainBuyShares unmatchedOffchainBuyNotionalUsd
      unmatchedOffchainSellShares unmatchedOffchainSellNotionalUsd : ℚ)
      (unmatchedOffchainFillCount openLotCount : Nat),
      field { summary with
        openLongShares, openLongNotionalUsd, openShortShares, openShortNotionalUsd
        unmatchedOffchainBuyShares, unmatchedOffchainBuyNotionalUsd
        unmatchedOffchainSellShares, unmatchedOffchainSellNotionalUsd
        unmatchedOffchainFillCount, openLotCount } = field summary) :
    field (finalizeLot summary lot) = field summary := by
  unfold finalizeLot
  cases lot.side <;> dsimp only <;> split <;> exact keeps summary _ _ _ _ _ _ _ _ _ _

end Fields

theorem sums_counterTrade :
    Sums SummaryAcc.counterTradePnlUsd (bucketWorth .counterTrade) where
  start := rfl
  sum _ _ := rfl
  entry := addEntry_counterTrade
  onchainFill _ _ := rfl
  offchainFill _ _ := rfl
  lot summary lot := finalizeLot_keeps summary _ lot fun _ _ _ _ _ _ _ _ _ _ _ => rfl

theorem sums_onchainNetting :
    Sums SummaryAcc.onchainNettingPnlUsd (bucketWorth .onchainNetting) where
  start := rfl
  sum _ _ := rfl
  entry := addEntry_onchainNetting
  onchainFill _ _ := rfl
  offchainFill _ _ := rfl
  lot summary lot := finalizeLot_keeps summary _ lot fun _ _ _ _ _ _ _ _ _ _ _ => rfl

theorem sums_baseline :
    Sums SummaryAcc.directionalInventoryBaselinePnlUsd (fun _ => 0) where
  start := rfl
  sum _ _ := rfl
  entry summary entry := (addEntry_baseline summary entry).trans (add_zero _).symm
  onchainFill _ _ := rfl
  offchainFill _ _ := rfl
  lot summary lot := finalizeLot_keeps summary _ lot fun _ _ _ _ _ _ _ _ _ _ _ => rfl

theorem sums_excess :
    Sums SummaryAcc.directionalImbalanceExcessPnlUsd (bucketWorth .directionalExposure) where
  start := rfl
  sum _ _ := rfl
  entry := addEntry_excess
  onchainFill _ _ := rfl
  offchainFill _ _ := rfl
  lot summary lot := finalizeLot_keeps summary _ lot fun _ _ _ _ _ _ _ _ _ _ _ => rfl

theorem sums_realized : Sums SummaryAcc.realizedPnlUsd PnlEntry.realizedPnlUsd where
  start := rfl
  sum _ _ := rfl
  entry := addEntry_realized
  onchainFill _ _ := rfl
  offchainFill _ _ := rfl
  lot summary lot := finalizeLot_keeps summary _ lot fun _ _ _ _ _ _ _ _ _ _ _ => rfl

theorem sums_matchedShares : Sums SummaryAcc.matchedShares PnlEntry.shares where
  start := rfl
  sum _ _ := rfl
  entry := addEntry_matchedShares
  onchainFill _ _ := rfl
  offchainFill _ _ := rfl
  lot summary lot := finalizeLot_keeps summary _ lot fun _ _ _ _ _ _ _ _ _ _ _ => rfl

theorem sums_onchainNotional : Sums SummaryAcc.onchainNotionalUsd (venueWorth .onchain) where
  start := rfl
  sum _ _ := rfl
  entry := addEntry_onchainNotional
  onchainFill _ _ := rfl
  offchainFill _ _ := rfl
  lot summary lot := finalizeLot_keeps summary _ lot fun _ _ _ _ _ _ _ _ _ _ _ => rfl

theorem sums_offchainNotional :
    Sums SummaryAcc.offchainNotionalUsd (venueWorth .offchain) where
  start := rfl
  sum _ _ := rfl
  entry := addEntry_offchainNotional
  onchainFill _ _ := rfl
  offchainFill _ _ := rfl
  lot summary lot := finalizeLot_keeps summary _ lot fun _ _ _ _ _ _ _ _ _ _ _ => rfl

/-- Closed lots, as a number to add up. -/
theorem sums_matchedLots :
    Sums (fun summary => (summary.matchedLotCount : ℚ)) (fun _ => 1) where
  start := Nat.cast_zero
  sum _ _ := Nat.cast_add _ _
  entry summary entry := by
    rw [addEntry_matchedLots]
    exact Nat.cast_succ _
  onchainFill _ _ := rfl
  offchainFill _ _ := rfl
  lot summary lot := finalizeLot_keeps summary
    (fun summary => (summary.matchedLotCount : ℚ)) lot fun _ _ _ _ _ _ _ _ _ _ _ => rfl

section Sums

variable {field other : SummaryAcc → ℚ} {worth worth' : PnlEntry → ℚ}

/-- Fields add up. -/
theorem Sums.add (sums : Sums field worth) (also : Sums other worth') :
    Sums (fun summary => field summary + other summary) (fun entry => worth entry + worth' entry)
    where
  start := by rw [sums.start, also.start, add_zero]
  sum first second := by
    rw [sums.sum, also.sum]
    exact add_add_add_comm _ _ _ _
  entry summary entry := by
    rw [sums.entry, also.entry]
    exact add_add_add_comm _ _ _ _
  onchainFill summary count := by rw [sums.onchainFill, also.onchainFill]
  offchainFill summary count := by rw [sums.offchainFill, also.offchainFill]
  lot summary lot := by rw [sums.lot, also.lot]

theorem Sums.lots (sums : Sums field worth) (summary : SummaryAcc) (lots : List Lot) :
    field (finalizeLots summary lots) = field summary := by
  unfold finalizeLots
  induction lots generalizing summary with
  | nil => rfl
  | cons lot lots ih => rw [List.foldl_cons, ih, sums.lot]

theorem Sums.finalSummary (sums : Sums field worth) (book : SymbolBook) :
    field book.finalSummary = field book.summary := by
  rw [SymbolBook.finalSummary, sums.lots, sums.lots]

theorem Sums.foldl_addSummary {α : Type} (sums : Sums field worth)
    (summaryOf : α → SummaryAcc) (items : List α) (total : SummaryAcc) :
    field (items.foldl (fun total item => addSummary total (summaryOf item)) total) =
      field total + (items.map fun item => field (summaryOf item)).sum := by
  induction items generalizing total with
  | nil => simp
  | cons item items ih =>
      rw [List.foldl_cons, ih, sums.sum, List.map_cons, List.sum_cons, add_assoc]

end Sums

/-! ## Closing lots -/

def addMatchedShares (summary : SummaryAcc) (shares : ℚ) : SummaryAcc :=
  { summary with matchedShares := summary.matchedShares + shares }

def addMatchedLot (summary : SummaryAcc) : SummaryAcc :=
  { summary with matchedLotCount := summary.matchedLotCount + 1 }

section Commutes

variable (summary : SummaryAcc) (bucket : PnlBucket) (value : ℚ)

theorem addRealizedPnl_matchedShares (shares : ℚ) :
    addRealizedPnl (addMatchedShares summary shares) bucket value =
      addMatchedShares (addRealizedPnl summary bucket value) shares := by
  cases bucket <;> rfl

theorem addRealizedPnl_matchedLot :
    addRealizedPnl (addMatchedLot summary) bucket value =
      addMatchedLot (addRealizedPnl summary bucket value) := by
  cases bucket <;> rfl

theorem addRealizedPnl_venueNotional (venue : Venue) (notional : ℚ) :
    addRealizedPnl (addVenueNotional summary venue notional) bucket value =
      addVenueNotional (addRealizedPnl summary bucket value) venue notional := by
  cases bucket <;> cases venue <;> rfl

end Commutes

/-- Closing a lot adds the entry it lists. -/
theorem close_summary (fill : Fill) (bucket : PnlBucket) (tally : Tally) (lot : Lot) (shares : ℚ) :
    (tally.close fill bucket lot shares).summary =
      addEntry tally.summary (matchEntry fill bucket lot shares) := by
  show addMatchedLot (addVenueNotional (addVenueNotional (addMatchedShares
    (addRealizedPnl tally.summary (effectiveBucket fill bucket lot) (shares * spread fill lot))
    shares) lot.openedVenue (shares * lot.price)) fill.venue (shares * fill.price)) =
    addRealizedPnl (addMatchedLot (addVenueNotional (addVenueNotional
      (addMatchedShares tally.summary shares) lot.openedVenue (shares * lot.price))
      fill.venue (shares * fill.price))) (effectiveBucket fill bucket lot)
      (shares * spread fill lot)
  rw [addRealizedPnl_matchedLot, addRealizedPnl_venueNotional, addRealizedPnl_venueNotional,
    addRealizedPnl_matchedShares]

/-- New entries of a symbol, and what they add to a field of its summary. -/
def Earned (field : SummaryAcc → ℚ) (worth : PnlEntry → ℚ) (symbol : Symbol)
    (entries entries' : List PnlEntry) (summary summary' : SummaryAcc) : Prop :=
  ∃ added, entries' = entries ++ added ∧ (∀ entry ∈ added, entry.symbol = symbol) ∧
    field summary' = field summary + (added.map worth).sum

section Earned

variable {field : SummaryAcc → ℚ} {worth : PnlEntry → ℚ} {symbol : Symbol}
  {entries entries' entries'' : List PnlEntry} {summary summary' summary'' : SummaryAcc}

theorem Earned.nothing (same : field summary' = field summary) :
    Earned field worth symbol entries entries summary summary' :=
  ⟨[], (List.append_nil _).symm, fun _ listed => absurd listed List.not_mem_nil, by simp [same]⟩

theorem Earned.trans (first : Earned field worth symbol entries entries' summary summary')
    (second : Earned field worth symbol entries' entries'' summary' summary'') :
    Earned field worth symbol entries entries'' summary summary'' := by
  obtain ⟨added, rfl, named, amount⟩ := first
  obtain ⟨later, rfl, alsoNamed, laterAmount⟩ := second
  refine ⟨added ++ later, by simp, ?_, ?_⟩
  · intro entry listed
    rcases List.mem_append.mp listed with listed | listed
    · exact named entry listed
    · exact alsoNamed entry listed
  · rw [laterAmount, amount, List.map_append, List.sum_append, add_assoc]

variable (sums : Sums field worth)
include sums

theorem close_earned (fill : Fill) (bucket : PnlBucket) (tally : Tally) (lot : Lot) (shares : ℚ) :
    Earned field worth fill.symbol tally.entries (tally.close fill bucket lot shares).entries
      tally.summary (tally.close fill bucket lot shares).summary := by
  refine ⟨[matchEntry fill bucket lot shares], rfl, ?_, ?_⟩
  · intro entry listed
    cases List.mem_singleton.mp listed
    rfl
  · rw [close_summary, sums.entry]
    simp

theorem matchFillAgainstLots_earned (fill : Fill) (bucket : PnlBucket) (lots : List Lot)
    (remaining : ℚ) (tally : Tally) :
    Earned field worth fill.symbol tally.entries
      (matchFillAgainstLots fill bucket lots remaining tally).2.2.entries
      tally.summary (matchFillAgainstLots fill bucket lots remaining tally).2.2.summary := by
  induction lots generalizing remaining tally with
  | nil => exact .nothing rfl
  | cons lot lots ih =>
      rw [matchFillAgainstLots]
      split
      case isTrue => exact .nothing rfl
      case isFalse =>
          dsimp only
          split
          case isTrue => exact ih remaining tally
          case isFalse =>
              split
              case isTrue => exact close_earned sums fill bucket tally lot _
              case isFalse => exact (close_earned sums fill bucket tally lot _).trans (ih _ _)

theorem matchAgainstBook_earned (replay : Replay) (fill : Fill) (bucket : PnlBucket) :
    Earned field worth fill.symbol replay.entries (matchAgainstBook replay fill bucket).2.entries
      replay.book.summary (matchAgainstBook replay fill bucket).2.book.summary := by
  unfold matchAgainstBook
  cases fill.direction <;> exact matchFillAgainstLots_earned sums fill bucket _ _ _

omit sums in
theorem openResidualLot_summary (book : SymbolBook) (fill : Fill) (remaining : ℚ) :
    (openResidualLot book fill remaining).summary = book.summary := by
  unfold openResidualLot pushLot
  cases (residualLot fill remaining).side <;> rfl

theorem applyOnchainFill_earned (replay : Replay) (fill : Fill) :
    Earned field worth fill.symbol replay.entries (applyOnchainFill replay fill).entries
      replay.book.summary (applyOnchainFill replay fill).book.summary := by
  unfold applyOnchainFill
  dsimp only
  split
  case isTrue => exact .nothing rfl
  case isFalse =>
      let seen : Replay := { replay with
        book := { replay.book with
          seenOnchainFillIds := insert fill.id replay.book.seenOnchainFillIds
          lastPriceUsdc := some fill.price
          summary := { replay.book.summary with
            onchainFillCount := replay.book.summary.onchainFillCount + 1 } } }
      have counted : Earned field worth fill.symbol replay.entries seen.entries
          replay.book.summary seen.book.summary := .nothing (sums.onchainFill _ _)
      refine (counted.trans (matchAgainstBook_earned sums seen fill .onchainNetting)).trans ?_
      split
      · exact .nothing rfl
      · exact .nothing (by rw [openResidualLot_summary])

theorem applyOffchainFill_earned (replay : Replay) (fill : Fill) :
    Earned field worth fill.symbol replay.entries (applyOffchainFill replay fill).entries
      replay.book.summary (applyOffchainFill replay fill).book.summary := by
  unfold applyOffchainFill
  dsimp only
  split
  case isTrue => exact .nothing rfl
  case isFalse =>
      let seen : Replay := { replay with
        book := { replay.book with
          seenOffchainFillIds := insert fill.id replay.book.seenOffchainFillIds
          summary := { replay.book.summary with
            offchainFillCount := replay.book.summary.offchainFillCount + 1 } } }
      have counted : Earned field worth fill.symbol replay.entries seen.entries
          replay.book.summary seen.book.summary := .nothing (sums.offchainFill _ _)
      refine (counted.trans (matchAgainstBook_earned sums seen fill .counterTrade)).trans ?_
      split
      · exact .nothing rfl
      · exact .nothing (by rw [openResidualLot_summary])

omit sums in
/-- An adjustment realizes nothing. -/
theorem applyManualPositionAdjustment_summary {replay after : Replay} {rowid : Nat}
    {targetNet : ℚ} {priceUsdc : Option ℚ} {adjustedAt : Time}
    (adjusted : applyManualPositionAdjustment replay rowid targetNet priceUsdc adjustedAt =
      .ok after) : after.entries = replay.entries ∧ after.book.summary = replay.book.summary := by
  unfold applyManualPositionAdjustment at adjusted
  dsimp only at adjusted
  split at adjusted
  · cases adjusted
    exact ⟨rfl, rfl⟩
  · split at adjusted
    · cases adjusted
    · cases adjusted
      refine ⟨rfl, ?_⟩
      unfold pushLot
      split <;> rfl

theorem applyRow_earned {replay after : Replay} {row : PositionEventRow}
    (applied : applyRow replay row = .ok after) :
    Earned field worth row.symbol replay.entries after.entries
      replay.book.summary after.book.summary := by
  unfold applyRow at applied
  split at applied
  case h_1 =>
      obtain ⟨fill, parsed, applied⟩ := bind_eq_ok.mp applied
      cases applied
      obtain ⟨_, _, parsed⟩ := bind_eq_ok.mp parsed
      obtain ⟨_, _, parsed⟩ := bind_eq_ok.mp parsed
      cases parsed
      exact applyOnchainFill_earned sums replay _
  case h_2 =>
      cases applied
      unfold applyOffchainPlacement
      dsimp only
      split <;> exact .nothing rfl
  case h_3 =>
      obtain ⟨fill, parsed, applied⟩ := bind_eq_ok.mp applied
      cases applied
      obtain ⟨_, _, parsed⟩ := bind_eq_ok.mp parsed
      obtain ⟨_, _, parsed⟩ := bind_eq_ok.mp parsed
      cases parsed
      exact applyOffchainFill_earned sums replay _
  case h_4 =>
      obtain ⟨entries, summary⟩ := applyManualPositionAdjustment_summary applied
      rw [entries, summary]
      exact .nothing rfl
  case h_5 =>
      cases applied
      exact .nothing rfl

end Earned

/-! ## All books -/

/-- What the entries of a symbol are worth. -/
def worthOf (worth : PnlEntry → ℚ) (entries : List PnlEntry) (symbol : Symbol) : ℚ :=
  ((entries.filter fun entry => entry.symbol = symbol).map worth).sum

/-- Every book has accumulated what its entries are worth, and every entry has one. -/
structure Report.Accumulated (field : SummaryAcc → ℚ) (worth : PnlEntry → ℚ)
    (report : Report) : Prop where
  summary : ∀ symbol, field (report.bookOf symbol).summary = worthOf worth report.entries symbol
  booked : ∀ entry ∈ report.entries, (report.books entry.symbol).isSome

theorem Report.accumulated_start {field : SummaryAcc → ℚ} {worth : PnlEntry → ℚ}
    (sums : Sums field worth) : Report.Accumulated field worth {} where
  summary _ := sums.start
  booked _ listed := absurd listed List.not_mem_nil

theorem Report.bookOf_update (books : Symbol → Option SymbolBook) (entries : List PnlEntry)
    (warnings : List PnlWarning) (unmatched : List UnmatchedOffchainAllocation)
    (symbol other : Symbol) (book : SymbolBook) :
    Report.bookOf ⟨Function.update books symbol (some book), entries, warnings, unmatched⟩ other =
      if other = symbol then book else (books other).getD {} := by
  unfold Report.bookOf
  by_cases same : other = symbol
  · subst same
    simp
  · simp [same]

theorem Report.Accumulated.applyRow {field : SummaryAcc → ℚ} {worth : PnlEntry → ℚ}
    (sums : Sums field worth) {report after : Report} {row : PositionEventRow}
    (accumulated : report.Accumulated field worth) (applied : report.applyRow row = .ok after) :
    after.Accumulated field worth := by
  unfold Report.applyRow at applied
  split at applied
  case isTrue =>
      cases applied
      exact ⟨accumulated.summary, accumulated.booked⟩
  case isFalse =>
      obtain ⟨replay, appliedRow, applied⟩ := bind_eq_ok.mp applied
      cases applied
      obtain ⟨added, entries, named, amount⟩ := applyRow_earned sums appliedRow
      constructor
      · intro symbol
        rw [Report.bookOf_update]
        show _ = worthOf worth replay.entries symbol
        rw [entries, worthOf, List.filter_append, List.map_append, List.sum_append]
        have before := accumulated.summary symbol
        by_cases same : symbol = row.symbol
        · subst same
          have all : added.filter (fun entry => entry.symbol = row.symbol) = added :=
            List.filter_eq_self.mpr fun entry listed => by simpa using named entry listed
          rw [if_pos rfl, amount, all]
          exact congrArg (· + _) before
        · have none : added.filter (fun entry => entry.symbol = symbol) = [] := by
            refine List.filter_eq_nil_iff.mpr fun entry listed => ?_
            simpa [named entry listed] using fun equal : row.symbol = symbol => same equal.symm
          rw [if_neg same, none, List.map_nil, List.sum_nil, add_zero]
          exact before
      · intro entry listed
        show (Function.update report.books row.symbol (some replay.book) entry.symbol).isSome
        by_cases same : entry.symbol = row.symbol
        · rw [same, Function.update_self]
          rfl
        · rw [Function.update_of_ne same]
          have listed : entry ∈ replay.entries := listed
          rw [entries] at listed
          rcases List.mem_append.mp listed with listed | listed
          · exact accumulated.booked entry listed
          · exact absurd (named entry listed) same

/-- Books are opened for rows. -/
theorem Report.applyRow_books {report after : Report} {row : PositionEventRow}
    (applied : report.applyRow row = .ok after) {symbol : Symbol}
    (booked : (after.books symbol).isSome) :
    symbol = row.symbol ∨ (report.books symbol).isSome := by
  unfold Report.applyRow at applied
  split at applied
  case isTrue =>
      cases applied
      exact .inr booked
  case isFalse =>
      obtain ⟨replay, -, applied⟩ := bind_eq_ok.mp applied
      cases applied
      by_cases same : symbol = row.symbol
      · exact .inl same
      · right
        have booked : (Function.update report.books row.symbol (some replay.book) symbol).isSome :=
          booked
        rwa [Function.update_of_ne same] at booked

theorem foldlM_applyRow {field : SummaryAcc → ℚ} {worth : PnlEntry → ℚ}
    (sums : Sums field worth) {rows : List PositionEventRow} {report after : Report}
    (accumulated : report.Accumulated field worth)
    (ran : rows.foldlM Report.applyRow report = .ok after) :
    after.Accumulated field worth ∧
      ∀ symbol, (after.books symbol).isSome →
        (report.books symbol).isSome ∨ ∃ row ∈ rows, row.symbol = symbol := by
  induction rows generalizing report with
  | nil =>
      cases ran
      exact ⟨accumulated, fun _ booked => .inl booked⟩
  | cons row rows ih =>
      rw [List.foldlM_cons] at ran
      obtain ⟨middle, applied, ran⟩ := bind_eq_ok.mp ran
      obtain ⟨accumulated, books⟩ := ih (accumulated.applyRow sums applied) ran
      refine ⟨accumulated, fun symbol booked => ?_⟩
      rcases books symbol booked with booked | ⟨later, listed, named⟩
      · rcases Report.applyRow_books applied booked with named | booked
        · exact .inr ⟨row, List.mem_cons_self, named.symm⟩
        · exact .inl booked
      · exact .inr ⟨later, List.mem_cons_of_mem _ listed, named⟩

end Liquidity.Pnl
