import Liquidity.Pnl.Lots
import Liquidity.Position.Ledger

/-!
# The replay balances

After any sequence of fills and adjustments the book of a symbol is a ledger of
them. The open lots add up to the net position, the profit is what was received
less what was paid, up to what is still open, and lots are closed in the order in
which they were opened.
-/

namespace Liquidity

namespace PositionEvent

open Pnl (FillId)

/-- What a fill is known by. -/
def fillId? : PositionEvent → Option FillId
  | .onChainOrderFilled tradeId .. => some (.trade tradeId)
  | .offChainOrderFilled offchainOrderId .. => some (.order offchainOrderId)
  | _ => none

/-- What a fill brings in: the value of a sale, less the value of a purchase. -/
def cashFlow : PositionEvent → ℚ
  | .onChainOrderFilled _ amount direction priceUsdc .. => -direction.sign * amount * priceUsdc
  | .offChainOrderFilled _ sharesFilled direction _ price _ =>
      -direction.sign * sharesFilled.inner * price
  | _ => 0

/-- A fill has a positive amount and a positive price. -/
def PositiveFill : PositionEvent → Prop
  | .onChainOrderFilled _ amount _ priceUsdc .. => 0 < amount ∧ 0 < priceUsdc
  | .offChainOrderFilled _ _ _ _ price _ => 0 < price
  | _ => True

instance : DecidablePred PositiveFill
  | .onChainOrderFilled _ amount _ priceUsdc .. =>
      inferInstanceAs (Decidable (0 < amount ∧ 0 < priceUsdc))
  | .offChainOrderFilled _ _ _ _ price _ => inferInstanceAs (Decidable (0 < price))
  | .initialized .. | .onChainFillApplied .. | .onChainFillSettled .. | .offChainOrderPlaced ..
  | .offChainOrderFailed .. | .offChainOrderCancelled .. | .thresholdUpdated ..
  | .manualPositionAdjusted .. => .isTrue trivial

/-- The replay knows a price afterwards. -/
def setsPrice : PositionEvent → Bool
  | .onChainOrderFilled .. => true
  | .manualPositionAdjusted _ targetNet _ (some _) _ => targetNet ≠ 0
  | _ => false

/-- An adjustment that has to use a price seen before. -/
def needsPrice : PositionEvent → Bool
  | .manualPositionAdjusted _ targetNet _ none _ => targetNet ≠ 0
  | _ => false

end PositionEvent

namespace Pnl

open PositionEvent

/-- The fill was seen before. -/
def Repeats (kept : List PositionEvent) (event : PositionEvent) : Prop :=
  ∃ id, event.fillId? = some id ∧ id ∈ kept.filterMap fillId?

instance (kept : List PositionEvent) (event : PositionEvent) : Decidable (Repeats kept event) :=
  match seen : event.fillId? with
  | none => .isFalse (by simp [Repeats, seen])
  | some id => decidable_of_iff (id ∈ kept.filterMap fillId?) (by simp [Repeats, seen])

def keepFirst (kept : List PositionEvent) (event : PositionEvent) : List PositionEvent :=
  if Repeats kept event then kept else kept ++ [event]

/-- The events without fills that are repeated. -/
def firstOccurrences (events : List PositionEvent) : List PositionEvent :=
  events.foldl keepFirst []

@[simp] theorem firstOccurrences_concat (events : List PositionEvent) (event : PositionEvent) :
    firstOccurrences (events ++ [event]) = keepFirst (firstOccurrences events) event := by
  simp [firstOccurrences]

/-- Every adjustment that needs a price comes after one the replay has seen. -/
def Resolvable (events : List PositionEvent) : Prop :=
  ∀ before event after, events = before ++ event :: after → event.needsPrice →
    before.any setsPrice

/-- What the open lots of a side are worth, by weight. -/
def value (weight : Lot → ℚ) (lots : List Lot) : ℚ := Fifo.worth weight (stock lots)

/-- Long less short. -/
def SymbolBook.balance (book : SymbolBook) (weight : Lot → ℚ) : ℚ :=
  value weight book.longLots - value weight book.shortLots

/-- The rows that opened the lots of a side: of those that were closed, in the order
of closing, then of those that are open. -/
def openingRows (replay : Replay) (side : LotSide) : List Nat :=
  ((replay.entries.filter fun entry => entry.openingDirection = side.toDirection).map
    PnlEntry.openingRowid) ++ (replay.book.lots side).map Lot.openedRowid

/-- The book is a ledger of the rows that were replayed. -/
structure Balances (rows : List PositionEventRow) (replay : Replay) : Prop where
  one_side : replay.book.longLots = [] ∨ replay.book.shortLots = []
  positive : ∀ lot ∈ replay.book.longLots ++ replay.book.shortLots, 0 < lot.remainingShares
  net : replay.book.finalSummary.openLongShares - replay.book.finalSummary.openShortShares =
    Position.netLedger (firstOccurrences (rows.map PositionEventRow.event))
  matched : ∀ id, replay.book.matchedOnchainShares.of id ≤ replay.book.originalOnchainShares.of id
  oldest_first : ∀ side, Fifo.Walks (rows.map PositionEventRow.rowid) (openingRows replay side)
  realized : (∀ row ∈ rows, row.event.target? = none) →
    replay.book.finalSummary.realizedPnlUsd =
      ((firstOccurrences (rows.map PositionEventRow.event)).map cashFlow).sum +
        replay.book.finalSummary.openLongNotionalUsd -
        replay.book.finalSummary.openShortNotionalUsd
  buckets : replay.book.finalSummary.realizedPnlUsd =
    replay.book.finalSummary.counterTradePnlUsd + replay.book.finalSummary.onchainNettingPnlUsd +
      replay.book.finalSummary.directionalExposurePnlUsd
  entries : replay.book.finalSummary.realizedPnlUsd =
    (replay.entries.map PnlEntry.realizedPnlUsd).sum

/-! ## What is kept from row to row -/

/-- The invariant behind it, over the lots as they are. -/
structure Kept (rows : List PositionEventRow) (replay : Replay) : Prop where
  stocked : replay.book.Stocked
  one_side : replay.book.longLots = [] ∨ replay.book.shortLots = []
  trades : ∀ id, .trade id ∈ replay.book.seenOnchainFillIds ↔
    .trade id ∈ (firstOccurrences (rows.map PositionEventRow.event)).filterMap fillId?
  orders : ∀ id, .order id ∈ replay.book.seenOffchainFillIds ↔
    .order id ∈ (firstOccurrences (rows.map PositionEventRow.event)).filterMap fillId?
  price : (rows.map PositionEventRow.event).any setsPrice → replay.book.lastPriceUsdc.isSome
  net : replay.book.balance (fun _ => 1) =
    Position.netLedger (firstOccurrences (rows.map PositionEventRow.event))
  nothingOpen : replay.book.summary.NothingOpen
  matched : ∀ id, replay.book.matchedOnchainShares.of id +
    (value (openedBy id) replay.book.longLots + value (openedBy id) replay.book.shortLots) =
      replay.book.originalOnchainShares.of id
  order : ∀ side, Fifo.Walks (rows.map PositionEventRow.rowid) (openingRows replay side)
  cash : (∀ row ∈ rows, row.event.target? = none) → replay.book.summary.realizedPnlUsd =
    ((firstOccurrences (rows.map PositionEventRow.event)).map cashFlow).sum +
      replay.book.balance Lot.price
  buckets : replay.book.summary.realizedPnlUsd = replay.book.summary.buckets
  entries : replay.book.summary.realizedPnlUsd =
    (replay.entries.map PnlEntry.realizedPnlUsd).sum

theorem kept_nil : Kept [] {} where
  stocked side lot listed := by cases side <;> cases listed
  one_side := .inl rfl
  trades id := by simp [firstOccurrences]
  orders id := by simp [firstOccurrences]
  price never := nomatch never
  net := by simp [SymbolBook.balance, firstOccurrences, Position.netLedger]
  nothingOpen := ⟨rfl, rfl, rfl, rfl⟩
  matched id := by simp [value]
  order side := by cases side <;> exact .nil
  cash _ := by simp [SymbolBook.balance, firstOccurrences]
  buckets := by simp [SummaryAcc.buckets]
  entries := rfl

/-! ## A fill -/

section Fill

variable {fill : Fill} {bucket : PnlBucket} {before after : Replay}

theorem opens_or_closes (fill : Fill) (side : LotSide) :
    side = fill.opens ∨ side = fill.closes := by
  cases side <;> cases direction : fill.direction <;> simp [Fill.opens, Fill.closes, direction]

/-- The balance, seen from a fill. -/
theorem balance_sides (book : SymbolBook) (weight : Lot → ℚ) (fill : Fill) :
    book.balance weight = fill.direction.sign *
      (value weight (book.lots fill.opens) - value weight (book.lots fill.closes)) := by
  cases direction : fill.direction <;>
    simp [SymbolBook.balance, Fill.opens, Fill.closes, direction, Direction.sign, SymbolBook.lots]

/-- What is left in the queue of a book has the tags of its lots. -/
theorem consumed_tag (positive : 0 < fill.shares) {entry : Lot × ℚ}
    (listed : entry ∈ (before.book.consumed fill).taken ∨
      entry ∈ (before.book.consumed fill).rest) :
    ∃ lot ∈ before.book.lots fill.closes, entry.1 = lot.tag := by
  obtain ⟨amount, mem⟩ := Fifo.tags_of_queue positive.le listed
  obtain ⟨lot, mem, same⟩ := List.mem_map.mp mem
  exact ⟨lot, mem, (Prod.mk.inj same).1.symm⟩

theorem stock_unstock {queue : List (Lot × ℚ)} (tagged : ∀ entry ∈ queue, entry.1.tag = entry.1) :
    stock (unstock queue) = queue := by
  induction queue with
  | nil => rfl
  | cons entry queue ih =>
      obtain ⟨tag, later⟩ := List.forall_mem_cons.mp tagged
      rw [unstock_cons, stock_cons, ih later]
      exact congrArg (fun tag => (tag, entry.2) :: queue) tag

theorem stock_rest (positive : 0 < fill.shares) :
    stock (unstock (before.book.consumed fill).rest) = (before.book.consumed fill).rest := by
  refine stock_unstock fun entry listed => ?_
  obtain ⟨lot, -, same⟩ := consumed_tag positive (.inr listed)
  rw [same]
  rfl

variable (positive : 0 < fill.shares) (fills : Fills fill bucket before after)
include positive fills

theorem value_closes (weight : Lot → ℚ) :
    value weight (after.book.lots fill.closes) = value weight (before.book.lots fill.closes) -
      Fifo.worth weight (before.book.consumed fill).taken := by
  have conserved : Fifo.worth weight (before.book.consumed fill).taken +
      Fifo.worth weight (before.book.consumed fill).rest =
        Fifo.worth weight (stock (before.book.lots fill.closes)) :=
    Fifo.worth_consume weight positive.le
  rw [fills.closed, value, stock_rest positive, value, ← conserved]
  exact (add_sub_cancel_left _ _).symm

omit positive in
theorem value_opens (weight : Lot → ℚ) :
    value weight (after.book.lots fill.opens) = value weight (before.book.lots fill.opens) +
      weight (residualLot fill 0) * (before.book.consumed fill).wanted := by
  rw [fills.opened]
  unfold residualLots
  split
  · rename_i none
    rw [none, mul_zero, add_zero, List.append_nil]
  · simp [value, stock, residualLot, Lot.tag]

/-- A fill adds to the balance what it opens and what it closes. -/
theorem balance_filled (weight : Lot → ℚ) : after.book.balance weight =
    before.book.balance weight + fill.direction.sign *
      (weight (residualLot fill 0) * (before.book.consumed fill).wanted +
        Fifo.worth weight (before.book.consumed fill).taken) := by
  rw [balance_sides _ _ fill, balance_sides _ _ fill, value_opens fills,
    value_closes positive fills]
  ring

omit fills in
/-- The spread of all parts, by their notional. -/
theorem worth_spread (stocked : before.book.Stocked) :
    Fifo.worth (spread fill) (before.book.consumed fill).taken = fill.direction.sign *
      (Fifo.worth Lot.price (before.book.consumed fill).taken -
        fill.price * (fill.shares - (before.book.consumed fill).wanted)) := by
  have total : Fifo.worth (fun _ => 1) (before.book.consumed fill).taken =
      fill.shares - (before.book.consumed fill).wanted := Fifo.total_taken positive.le
  have each : ∀ part ∈ (before.book.consumed fill).taken,
      spread fill part.1 = fill.direction.sign * (part.1.price - fill.price) := by
    intro part listed
    obtain ⟨lot, mem, same⟩ := consumed_tag positive (.inl listed)
    have side : part.1.side = fill.closes := by
      rw [same]
      exact (stocked _ lot mem).1
    cases direction : fill.direction <;>
      simp [spread, side, Fill.closes, direction, Direction.sign]
  rw [← total]
  generalize (before.book.consumed fill).taken = taken at each
  induction taken with
  | nil => simp
  | cons part taken ih =>
      obtain ⟨here, later⟩ := List.forall_mem_cons.mp each
      rw [Fifo.worth_cons, Fifo.worth_cons, Fifo.worth_cons, ih later, here]
      ring

theorem stocked_filled (stocked : before.book.Stocked) : after.book.Stocked := by
  intro side lot listed
  rcases opens_or_closes fill side with rfl | rfl
  · rw [fills.opened] at listed
    rcases List.mem_append.mp listed with old | isNew
    · exact stocked _ lot old
    · unfold residualLots at isNew
      split at isNew
      · cases isNew
      · rename_i some
        rw [List.mem_singleton.mp isNew]
        exact ⟨rfl, lt_of_le_of_ne (Fifo.wanted_nonneg positive.le) (Ne.symm some)⟩
  · rw [fills.closed] at listed
    obtain ⟨entry, mem, rfl⟩ := List.mem_map.mp listed
    obtain ⟨lot, known, same⟩ := consumed_tag positive (.inr mem)
    refine ⟨?_, ?_⟩
    · show entry.1.side = fill.closes
      rw [same]
      exact (stocked _ lot known).1
    · refine Fifo.stocked_rest ?_ positive.le entry mem
      intro stocked' inStock
      obtain ⟨lot, known, rfl⟩ := List.mem_map.mp inStock
      exact (stocked _ lot known).2

theorem one_side_filled (one_side : before.book.longLots = [] ∨ before.book.shortLots = []) :
    after.book.longLots = [] ∨ after.book.shortLots = [] := by
  have either {book : SymbolBook} : (book.lots fill.opens = [] ∨ book.lots fill.closes = []) ↔
      (book.longLots = [] ∨ book.shortLots = []) := by
    cases direction : fill.direction <;>
      simp [Fill.opens, Fill.closes, direction, SymbolBook.lots, or_comm]
  rw [← either] at one_side ⊢
  by_cases none : (before.book.consumed fill).wanted = 0
  · -- The fill is used up, so there were lots to close.
    left
    rcases one_side with opens | closes
    · rw [fills.opened, opens, residualLots, if_pos none]
      rfl
    · rw [SymbolBook.consumed, closes] at none
      exact absurd none positive.ne'
  · right
    rw [fills.closed, SymbolBook.consumed, Fifo.rest_eq_nil positive.le none]
    rfl

theorem matched_filled (id : FillId)
    (matched : before.book.matchedOnchainShares.of id +
      (value (openedBy id) before.book.longLots + value (openedBy id) before.book.shortLots) =
        before.book.originalOnchainShares.of id) :
    after.book.matchedOnchainShares.of id +
      (value (openedBy id) after.book.longLots + value (openedBy id) after.book.shortLots) =
        after.book.originalOnchainShares.of id := by
  have both (book : SymbolBook) : value (openedBy id) book.longLots +
      value (openedBy id) book.shortLots =
        value (openedBy id) (book.lots fill.opens) +
          value (openedBy id) (book.lots fill.closes) := by
    cases direction : fill.direction <;>
      simp [Fill.opens, Fill.closes, direction, SymbolBook.lots, add_comm]
  rw [both] at matched ⊢
  rw [fills.original, ← matched, fills.booked.matched, value_opens fills,
    value_closes positive fills]
  ring

/-- What is closed and what is left stays in order, and a new lot comes last. -/
theorem order_filled (stocked : before.book.Stocked) {rows : List Nat}
    (order : ∀ side, Fifo.Walks rows (openingRows before side)) (side : LotSide) :
    Fifo.Walks (rows ++ [fill.rowid]) (openingRows after side) := by
  have entries : after.entries = before.entries ++
      (before.book.consumed fill).taken.map fun part => matchEntry fill bucket part.1 part.2 :=
    fills.booked.entries
  have closing : ∀ part ∈ (before.book.consumed fill).taken, part.1.side = fill.closes := by
    intro part listed
    obtain ⟨lot, mem, same⟩ := consumed_tag positive (.inl listed)
    rw [same]
    exact (stocked _ lot mem).1
  rcases opens_or_closes fill side with rfl | rfl
  · have unclosed : ((before.book.consumed fill).taken.map fun part =>
        matchEntry fill bucket part.1 part.2).filter
          (fun entry => entry.openingDirection = fill.opens.toDirection) = [] := by
      rw [List.filter_eq_nil_iff]
      intro entry listed
      obtain ⟨part, taken, rfl⟩ := List.mem_map.mp listed
      cases direction : fill.direction <;>
        simp [matchEntry, closing part taken, Fill.closes, Fill.opens, direction,
          LotSide.toDirection]
    have rows : openingRows after fill.opens = openingRows before fill.opens ++
        (residualLots fill (before.book.consumed fill).wanted).map Lot.openedRowid := by
      rw [openingRows, entries, fills.opened, List.filter_append, unclosed, List.append_nil,
        List.map_append, ← List.append_assoc]
      rfl
    rw [rows]
    unfold residualLots
    split
    · rw [List.map_nil, List.append_nil]
      exact (order _).extend _
    · exact (order _).concat _
  · have closed : (((before.book.consumed fill).taken.map fun part =>
        matchEntry fill bucket part.1 part.2).filter
          fun entry => entry.openingDirection = fill.closes.toDirection).map
            PnlEntry.openingRowid =
        (before.book.consumed fill).taken.map fun part => part.1.openedRowid := by
      rw [List.filter_eq_self.mpr, List.map_map]
      · rfl
      · intro entry listed
        obtain ⟨part, taken, rfl⟩ := List.mem_map.mp listed
        simp [matchEntry, closing part taken]
    have left : (unstock (before.book.consumed fill).rest).map Lot.openedRowid =
        (before.book.consumed fill).rest.map fun entry => entry.1.openedRowid := by
      rw [unstock, List.map_map]
      rfl
    have queue : (before.book.lots fill.closes).map Lot.openedRowid =
        (stock (before.book.lots fill.closes)).map fun entry => entry.1.openedRowid := by
      rw [stock, List.map_map]
      rfl
    have walked := order fill.closes
    rw [openingRows, queue] at walked
    rw [openingRows, entries, fills.closed, List.filter_append, List.map_append, closed, left]
    exact (walked.consume positive.le).extend _

end Fill

/-! ## One row more -/

section Row

variable {rows : List PositionEventRow} {row : PositionEventRow} {before after : Replay}

theorem mem_of_firstOccurrences {events : List PositionEvent} {event : PositionEvent}
    (listed : event ∈ firstOccurrences events) : event ∈ events := by
  induction events using List.reverseRecOn with
  | nil => exact listed
  | append_singleton events last ih =>
      rw [firstOccurrences_concat, keepFirst] at listed
      split at listed
      · exact List.mem_append_left _ (ih listed)
      · rcases List.mem_append.mp listed with old | isNew
        · exact List.mem_append_left _ (ih old)
        · exact List.mem_append_right _ isNew

theorem map_event_concat (rows : List PositionEventRow) (row : PositionEventRow) :
    (rows ++ [row]).map PositionEventRow.event =
      rows.map PositionEventRow.event ++ [row.event] := by
  simp

/-- What a fill that is counted says of its row. -/
structure Counts (row : PositionEventRow) (fill : Fill) : Prop where
  rowid : fill.rowid = row.rowid
  id : row.event.fillId? = some fill.id
  target : row.event.target? = none
  moves : row.event.moves = fill.direction.sign * fill.shares
  cash : row.event.cashFlow = -fill.direction.sign * fill.shares * fill.price

theorem Kept.filled {fill : Fill} {bucket : PnlBucket} (kept : Kept rows before)
    (positive : 0 < fill.shares) (fills : Fills fill bucket before after) (counts : Counts row fill)
    (fresh : ¬ Repeats (firstOccurrences (rows.map PositionEventRow.event)) row.event)
    (trades : ∀ id, .trade id ∈ after.book.seenOnchainFillIds ↔
      .trade id ∈ before.book.seenOnchainFillIds ∨ .trade id = fill.id)
    (orders : ∀ id, .order id ∈ after.book.seenOffchainFillIds ↔
      .order id ∈ before.book.seenOffchainFillIds ∨ .order id = fill.id)
    (price : before.book.lastPriceUsdc.isSome ∨ row.event.setsPrice →
      after.book.lastPriceUsdc.isSome) :
    Kept (rows ++ [row]) after := by
  have events : firstOccurrences ((rows ++ [row]).map PositionEventRow.event) =
      firstOccurrences (rows.map PositionEventRow.event) ++ [row.event] := by
    rw [map_event_concat, firstOccurrences_concat, keepFirst, if_neg fresh]
  have ids : (firstOccurrences ((rows ++ [row]).map PositionEventRow.event)).filterMap fillId? =
      (firstOccurrences (rows.map PositionEventRow.event)).filterMap fillId? ++ [fill.id] := by
    rw [events, List.filterMap_append]
    simp [counts.id]
  have wanted : Fifo.worth (fun _ => 1) (before.book.consumed fill).taken =
      fill.shares - (before.book.consumed fill).wanted := Fifo.total_taken positive.le
  refine ⟨stocked_filled positive fills kept.stocked, one_side_filled positive fills kept.one_side,
    ?_, ?_, ?_, ?_, fills.booked.nothingOpen kept.nothingOpen, ?_, ?_, ?_, ?_, ?_⟩
  · intro id
    rw [trades, kept.trades, ids, List.mem_append, List.mem_singleton]
  · intro id
    rw [orders, kept.orders, ids, List.mem_append, List.mem_singleton]
  · intro known
    rw [map_event_concat, List.any_append, Bool.or_eq_true] at known
    refine price (known.imp kept.price ?_)
    simp
  · rw [balance_filled positive fills, kept.net, events, Position.netLedger_concat, counts.target,
      counts.moves, wanted]
    simp only [Option.getD_none]
    ring
  · intro id
    exact matched_filled positive fills id (kept.matched id)
  · intro side
    rw [List.map_append]
    have walked := order_filled positive fills kept.stocked kept.order side
    rw [counts.rowid] at walked
    exact walked
  · intro unadjusted
    have earlier := kept.cash fun other listed => unadjusted other (List.mem_append_left _ listed)
    have realized : after.book.summary.realizedPnlUsd = before.book.summary.realizedPnlUsd +
        Fifo.worth (spread fill) (before.book.consumed fill).taken := fills.booked.realized
    rw [realized, earlier, worth_spread positive kept.stocked, balance_filled positive fills,
      events, List.map_append, List.sum_append, List.map_singleton, List.sum_singleton, counts.cash]
    simp only [residualLot]
    ring
  · have realized : after.book.summary.realizedPnlUsd = before.book.summary.realizedPnlUsd +
        Fifo.worth (spread fill) (before.book.consumed fill).taken := fills.booked.realized
    have buckets : after.book.summary.buckets = before.book.summary.buckets +
        Fifo.worth (spread fill) (before.book.consumed fill).taken := fills.booked.buckets
    rw [realized, buckets, kept.buckets]
  · have realized : after.book.summary.realizedPnlUsd = before.book.summary.realizedPnlUsd +
        Fifo.worth (spread fill) (before.book.consumed fill).taken := fills.booked.realized
    have entries : after.entries = before.entries ++ (before.book.consumed fill).taken.map
        fun part => matchEntry fill bucket part.1 part.2 := fills.booked.entries
    rw [realized, entries, kept.entries, List.map_append, List.sum_append, List.map_map,
      Fifo.worth]
    congr 2
    refine List.map_congr_left fun part _ => ?_
    exact mul_comm (spread fill part.1) part.2

/-- A fill that was seen, or an event that is none. -/
def Silent (events : List PositionEvent) (event : PositionEvent) : Prop :=
  Repeats (firstOccurrences events) event ∨
    event.fillId? = none ∧ event.target? = none ∧ event.moves = 0 ∧ event.cashFlow = 0

theorem Silent.ledger {events : List PositionEvent} {event : PositionEvent}
    (silent : Silent events event) :
    (firstOccurrences (events ++ [event])).filterMap fillId? =
        (firstOccurrences events).filterMap fillId? ∧
      Position.netLedger (firstOccurrences (events ++ [event])) =
        Position.netLedger (firstOccurrences events) ∧
      ((firstOccurrences (events ++ [event])).map cashFlow).sum =
        ((firstOccurrences events).map cashFlow).sum := by
  rw [firstOccurrences_concat, keepFirst]
  split
  · exact ⟨rfl, rfl, rfl⟩
  · rename_i fresh
    obtain ⟨id, target, moves, cash⟩ := silent.resolve_left fresh
    refine ⟨?_, ?_, ?_⟩
    · simp [id]
    · simp [Position.netLedger_concat, target, moves]
    · simp [cash]

/-- A row that leaves the book alone. -/
theorem Kept.quiet (kept : Kept rows before)
    (silent : Silent (rows.map PositionEventRow.event) row.event)
    (price : row.event.setsPrice → before.book.lastPriceUsdc.isSome)
    {placements : Finset FillId}
    (book : after.book = { before.book with seenOffchainPlacementIds := placements })
    (entries : after.entries = before.entries) : Kept (rows ++ [row]) after := by
  obtain ⟨ids, net, cash⟩ := silent.ledger
  rw [← map_event_concat] at ids net cash
  refine ⟨?_, ?_, ?_, ?_, ?_, ?_, ?_, ?_, ?_, ?_, ?_, ?_⟩
  · rw [book]
    intro side
    cases side
    · exact kept.stocked .long
    · exact kept.stocked .short
  · rw [book]
    exact kept.one_side
  · rw [book, ids]
    exact kept.trades
  · rw [book, ids]
    exact kept.orders
  · intro known
    rw [map_event_concat, List.any_append, Bool.or_eq_true] at known
    rw [book]
    refine known.elim kept.price fun here => price ?_
    simpa using here
  · rw [book, net]
    exact kept.net
  · rw [book]
    exact kept.nothingOpen
  · rw [book]
    exact kept.matched
  · intro side
    rw [List.map_append, openingRows, entries, book]
    have walked := (kept.order side).extend row.rowid
    cases side <;> exact walked
  · intro unadjusted
    rw [book, cash]
    exact kept.cash fun other listed => unadjusted other (List.mem_append_left _ listed)
  · rw [book]
    exact kept.buckets
  · rw [book, entries]
    exact kept.entries

theorem keepFirst_adjusted {events : List PositionEvent} {event : PositionEvent} {target : ℚ}
    (adjusts : event.target? = some target) : keepFirst events event = events ++ [event] := by
  refine if_neg ?_
  rintro ⟨id, known, -⟩
  cases event <;> cases adjusts
  cases known

/-- The lots an adjustment leaves: at most one, opened by its row. -/
structure Adjusted (row : PositionEventRow) (long short : List Lot) : Prop where
  one_side : long = [] ∨ short = []
  short_list : ∀ lots, lots = long ∨ lots = short → lots = [] ∨ ∃ lot, lots = [lot]
  longs : ∀ lot ∈ long, lot.side = .long
  shorts : ∀ lot ∈ short, lot.side = .short
  lots : ∀ lot ∈ long ++ short,
    lot.openedVenue = .manual ∧ lot.openedRowid = row.rowid ∧ 0 < lot.remainingShares

/-- Lots of an adjustment are no onchain lots. -/
theorem value_manual {lots : List Lot} (id : FillId)
    (manual : ∀ lot ∈ lots, lot.openedVenue = .manual) : value (openedBy id) lots = 0 := by
  induction lots with
  | nil => rfl
  | cons lot lots ih =>
      obtain ⟨here, later⟩ := List.forall_mem_cons.mp manual
      have none : openedBy id lot.tag = 0 := if_neg fun opened => by
        rw [show lot.tag.openedVenue = .manual from here] at opened
        cases opened.1
      rw [value, stock_cons, Fifo.worth_cons, none, zero_mul, zero_add]
      exact ih later

theorem Kept.adjusted {target : ℚ} {long short : List Lot} {price : Option ℚ}
    (kept : Kept rows before) (adjusts : row.event.target? = some target)
    (notFill : row.event.fillId? = none) (adjusted : Adjusted row long short)
    (net : value (fun _ => 1) long - value (fun _ => 1) short = target)
    (book : after.book = { before.book with
      longLots := long, shortLots := short, originalOnchainShares := ∅
      matchedOnchainShares := ∅, lastPriceUsdc := price })
    (entries : after.entries = before.entries)
    (priced : before.book.lastPriceUsdc.isSome ∨ row.event.setsPrice → price.isSome) :
    Kept (rows ++ [row]) after := by
  have events : firstOccurrences ((rows ++ [row]).map PositionEventRow.event) =
      firstOccurrences (rows.map PositionEventRow.event) ++ [row.event] := by
    rw [map_event_concat, firstOccurrences_concat, keepFirst_adjusted adjusts]
  have ids : (firstOccurrences ((rows ++ [row]).map PositionEventRow.event)).filterMap fillId? =
      (firstOccurrences (rows.map PositionEventRow.event)).filterMap fillId? := by
    rw [events, List.filterMap_append]
    simp [notFill]
  refine ⟨?_, ?_, ?_, ?_, ?_, ?_, ?_, ?_, ?_, ?_, ?_, ?_⟩
  · rw [book]
    intro side lot listed
    cases side with
    | long =>
        exact ⟨adjusted.longs lot listed, (adjusted.lots lot (List.mem_append_left _ listed)).2.2⟩
    | short =>
        exact ⟨adjusted.shorts lot listed, (adjusted.lots lot (List.mem_append_right _ listed)).2.2⟩
  · rw [book]
    exact adjusted.one_side
  · rw [book, ids]
    exact kept.trades
  · rw [book, ids]
    exact kept.orders
  · intro known
    rw [map_event_concat, List.any_append, Bool.or_eq_true] at known
    rw [book]
    refine priced (known.imp kept.price ?_)
    simp
  · rw [book, events, Position.netLedger_concat, adjusts]
    exact net
  · rw [book]
    exact kept.nothingOpen
  · intro id
    rw [book]
    have longs := value_manual id fun lot listed =>
      (adjusted.lots lot (List.mem_append_left _ listed)).1
    have shorts := value_manual id fun lot listed =>
      (adjusted.lots lot (List.mem_append_right _ listed)).1
    simp [longs, shorts]
  · -- Closing has come to an end for all lots so far; the new one comes last.
    intro side
    have closed := (kept.order side).left
    have lots : ∀ lots, lots = long ∨ lots = short →
        Fifo.Walks (rows.map PositionEventRow.rowid ++ [row.rowid])
          (((before.entries.filter fun entry => entry.openingDirection = side.toDirection).map
            PnlEntry.openingRowid) ++ lots.map Lot.openedRowid) := by
      intro lots either
      rcases adjusted.short_list lots either with rfl | ⟨lot, rfl⟩
      · rw [List.map_nil, List.append_nil]
        exact closed.extend _
      · have opened : lot ∈ long ++ short := by
          rcases either with rfl | rfl <;> simp
        rw [List.map_singleton, (adjusted.lots lot opened).2.1]
        exact closed.concat _
    rw [List.map_append, openingRows, entries, book]
    cases side with
    | long => exact lots long (.inl rfl)
    | short => exact lots short (.inr rfl)
  · intro unadjusted
    have never := unadjusted row (List.mem_append_right _ List.mem_cons_self)
    rw [adjusts] at never
    cases never
  · rw [book]
    exact kept.buckets
  · rw [book, entries]
    exact kept.entries

/-- The lot for a target other than zero. -/
def adjustmentLot (rowid : Nat) (side : LotSide) (targetNet price : ℚ) (adjustedAt : Time) : Lot :=
  ⟨.adjustment rowid, side, |targetNet|, price, adjustedAt, rowid, .manual⟩

theorem adjusted_none : Adjusted row [] [] where
  one_side := .inl rfl
  short_list lots either := by rcases either with rfl | rfl <;> exact .inl rfl
  longs := nofun
  shorts := nofun
  lots := nofun

theorem adjusted_long {targetNet price : ℚ} {adjustedAt : Time} (size : 0 < |targetNet|) :
    Adjusted row [adjustmentLot row.rowid .long targetNet price adjustedAt] [] where
  one_side := .inr rfl
  short_list lots either := by
    rcases either with rfl | rfl
    · exact .inr ⟨_, rfl⟩
    · exact .inl rfl
  longs := by simp [adjustmentLot]
  shorts := nofun
  lots := by simpa [adjustmentLot] using size

theorem adjusted_short {targetNet price : ℚ} {adjustedAt : Time} (size : 0 < |targetNet|) :
    Adjusted row [] [adjustmentLot row.rowid .short targetNet price adjustedAt] where
  one_side := .inl rfl
  short_list lots either := by
    rcases either with rfl | rfl
    · exact .inl rfl
    · exact .inr ⟨_, rfl⟩
  longs := nofun
  shorts := by simp [adjustmentLot]
  lots := by simpa [adjustmentLot] using size

theorem applyManualPositionAdjustment_kept {previousNet targetNet : ℚ} {reason : String}
    {priceUsdc : Option ℚ} {adjustedAt : Time} (kept : Kept rows before)
    (event : row.event = .manualPositionAdjusted previousNet targetNet reason priceUsdc adjustedAt)
    (resolves : row.event.needsPrice → (rows.map PositionEventRow.event).any setsPrice) :
    ∃ after, applyManualPositionAdjustment before row.rowid targetNet priceUsdc adjustedAt =
      .ok after ∧ Kept (rows ++ [row]) after := by
  have adjusts : row.event.target? = some targetNet := by rw [event]; rfl
  have notFill : row.event.fillId? = none := by rw [event]; rfl
  by_cases zero : targetNet = 0
  · subst zero
    refine ⟨_, by rw [applyManualPositionAdjustment, if_pos rfl], ?_⟩
    refine kept.adjusted adjusts notFill adjusted_none (sub_self _) rfl rfl ?_
    rintro (known | never)
    · exact known
    · rw [event] at never
      cases priceUsdc <;> simp [setsPrice] at never
  · obtain ⟨price, known⟩ : ∃ price, priceUsdc.or before.book.lastPriceUsdc = some price := by
      cases priceUsdc with
      | some price => exact ⟨price, rfl⟩
      | none =>
          have needs : row.event.needsPrice := by
            rw [event]
            simp [needsPrice, zero]
          exact Option.isSome_iff_exists.mp (kept.price (resolves needs))
    have size : 0 < |targetNet| := abs_pos.mpr zero
    have priced : before.book.lastPriceUsdc.isSome ∨ row.event.setsPrice →
        (priceUsdc.or before.book.lastPriceUsdc).isSome :=
      fun _ => Option.isSome_iff_exists.mpr ⟨price, known⟩
    rcases lt_or_gt_of_ne zero with negative | positive
    · simp only [applyManualPositionAdjustment, if_neg zero, known, if_pos negative]
      refine ⟨_, rfl, ?_⟩
      refine kept.adjusted adjusts notFill (adjusted_short size) ?_ rfl rfl (known ▸ priced)
      simp [value, stock, adjustmentLot, abs_of_neg negative]
    · simp only [applyManualPositionAdjustment, if_neg zero, known, if_neg positive.not_gt]
      refine ⟨_, rfl, ?_⟩
      refine kept.adjusted adjusts notFill (adjusted_long size) ?_ rfl rfl (known ▸ priced)
      simp [value, stock, adjustmentLot, abs_of_pos positive]

/-- A fill that is repeated was counted before. -/
theorem Kept.seenTrade (kept : Kept rows before) {tradeId : TradeId}
    (seen : .trade tradeId ∈ before.book.seenOnchainFillIds) :
    before.book.lastPriceUsdc.isSome := by
  obtain ⟨event, listed, known⟩ := List.mem_filterMap.mp ((kept.trades tradeId).mp seen)
  refine kept.price (List.any_eq_true.mpr ⟨event, mem_of_firstOccurrences listed, ?_⟩)
  cases event <;> cases known
  rfl

theorem applyOnchainFill_kept {tradeId : TradeId} {amount priceUsdc : ℚ} {direction : Direction}
    {blockTimestamp seenAt : Time} (kept : Kept rows before)
    (event : row.event =
      .onChainOrderFilled tradeId amount direction priceUsdc blockTimestamp seenAt)
    (positive : 0 < amount) {fill : Fill}
    (parsed : fill = ⟨row.rowid, .trade tradeId, row.symbol, amount, direction, priceUsdc,
      blockTimestamp, .onchain⟩) :
    Kept (rows ++ [row]) (applyOnchainFill before fill) := by
  have counts : Counts row fill := by
    subst parsed
    exact ⟨rfl, by rw [event]; rfl, by rw [event]; rfl, by rw [event]; rfl, by rw [event]; rfl⟩
  have id : fill.id = .trade tradeId := by rw [parsed]
  have positive : 0 < fill.shares := by rw [parsed]; exact positive
  by_cases seen : .trade tradeId ∈ before.book.seenOnchainFillIds
  · have silent : Silent (rows.map PositionEventRow.event) row.event :=
      .inl ⟨.trade tradeId, id ▸ counts.id, (kept.trades tradeId).mp seen⟩
    rw [applyOnchainFill, if_pos (id ▸ seen)]
    exact kept.quiet silent (fun _ => kept.seenTrade seen) rfl rfl
  · have fresh : ¬ Repeats (firstOccurrences (rows.map PositionEventRow.event)) row.event := by
      rintro ⟨known, same, listed⟩
      rw [counts.id, id] at same
      cases same
      exact seen ((kept.trades tradeId).mpr listed)
    obtain ⟨fills, trades, orders, price⟩ := applyOnchainFill_new (id ▸ seen) (by rw [parsed])
      positive kept.stocked
    refine kept.filled positive fills counts fresh ?_ ?_ ?_
    · intro id
      rw [trades, Finset.mem_insert, or_comm]
    · intro orderId
      rw [orders, id]
      simp
    · intro _
      rw [price]
      rfl

theorem applyOffchainFill_kept {orderId : OffchainOrderId} {shares : Positive} {price : ℚ}
    {direction : Direction} {executorOrderId : ExecutorOrderId} {brokerTimestamp : Time}
    (kept : Kept rows before)
    (event : row.event =
      .offChainOrderFilled orderId shares direction executorOrderId price brokerTimestamp)
    {fill : Fill}
    (parsed : fill = ⟨row.rowid, .order orderId, row.symbol, shares.inner, direction, price,
      brokerTimestamp, .offchain⟩) :
    Kept (rows ++ [row]) (applyOffchainFill before fill) := by
  have counts : Counts row fill := by
    subst parsed
    exact ⟨rfl, by rw [event]; rfl, by rw [event]; rfl, by rw [event]; rfl, by rw [event]; rfl⟩
  have id : fill.id = .order orderId := by rw [parsed]
  have positive : 0 < fill.shares := by rw [parsed]; exact shares.pos
  have unpriced : ¬ row.event.setsPrice := by
    rw [event]
    exact Bool.false_ne_true
  by_cases seen : .order orderId ∈ before.book.seenOffchainFillIds
  · have silent : Silent (rows.map PositionEventRow.event) row.event :=
      .inl ⟨.order orderId, id ▸ counts.id, (kept.orders orderId).mp seen⟩
    rw [applyOffchainFill, if_pos (id ▸ seen)]
    exact kept.quiet silent (fun sets => absurd sets unpriced) rfl rfl
  · have fresh : ¬ Repeats (firstOccurrences (rows.map PositionEventRow.event)) row.event := by
      rintro ⟨known, same, listed⟩
      rw [counts.id, id] at same
      cases same
      exact seen ((kept.orders orderId).mpr listed)
    obtain ⟨fills, trades, orders, last⟩ := applyOffchainFill_new (id ▸ seen) (by rw [parsed])
      positive kept.stocked
    refine kept.filled positive fills counts fresh ?_ ?_ ?_
    · intro tradeId
      rw [trades, id]
      simp
    · intro id
      rw [orders, Finset.mem_insert, or_comm]
    · rintro (known | sets)
      · rw [last]
        exact known
      · exact absurd sets unpriced

/-- One row keeps the book balanced, and is accepted. -/
theorem applyRow_kept (kept : Kept rows before) (positive : row.event.PositiveFill)
    (resolves : row.event.needsPrice → (rows.map PositionEventRow.event).any setsPrice) :
    ∃ after, applyRow before row = .ok after ∧ Kept (rows ++ [row]) after := by
  cases event : row.event with
  | onChainOrderFilled tradeId amount direction priceUsdc blockTimestamp seenAt =>
      rw [event] at positive
      obtain ⟨amount_pos, price_pos⟩ := positive
      refine ⟨_, ?_, applyOnchainFill_kept kept event amount_pos rfl⟩
      simp only [applyRow, event, parseOnchainFill, ensurePositiveFillDecimal,
        if_neg amount_pos.not_ge, if_neg price_pos.not_ge]
      rfl
  | offChainOrderFilled orderId shares direction executorOrderId price brokerTimestamp =>
      rw [event] at positive
      refine ⟨_, ?_, applyOffchainFill_kept kept event rfl⟩
      simp only [applyRow, event, parseOffchainFill, ensurePositiveFillDecimal,
        if_neg shares.pos.not_ge, if_neg (show ¬ price ≤ 0 from positive.not_ge)]
      rfl
  | manualPositionAdjusted previousNet targetNet reason priceUsdc adjustedAt =>
      simp only [applyRow, event]
      exact applyManualPositionAdjustment_kept kept event resolves
  | offChainOrderPlaced orderId shares direction executor triggerReason placedAt =>
      have silent : Silent (rows.map PositionEventRow.event) row.event := by
        rw [event]
        exact .inr ⟨rfl, rfl, rfl, rfl⟩
      have unpriced : row.event.setsPrice → before.book.lastPriceUsdc.isSome := by
        rw [event]
        exact nofun
      simp only [applyRow, event]
      refine ⟨_, rfl, ?_⟩
      unfold applyOffchainPlacement
      dsimp only
      split
      · exact kept.quiet silent unpriced rfl rfl
      · exact kept.quiet silent unpriced rfl rfl
  | initialized | onChainFillApplied | onChainFillSettled | offChainOrderFailed
  | offChainOrderCancelled | thresholdUpdated =>
      have silent : Silent (rows.map PositionEventRow.event) row.event := by
        rw [event]
        exact .inr ⟨rfl, rfl, rfl, rfl⟩
      have unpriced : row.event.setsPrice → before.book.lastPriceUsdc.isSome := by
        rw [event]
        exact nofun
      simp only [applyRow, event]
      exact ⟨before, rfl, kept.quiet silent unpriced rfl rfl⟩

end Row

/-- Every sequence of rows keeps the book balanced, and is accepted. -/
theorem replayRows_kept (rows : List PositionEventRow)
    (positive : ∀ row ∈ rows, row.event.PositiveFill)
    (resolvable : Resolvable (rows.map PositionEventRow.event)) :
    ∃ replay, replayRows rows = .ok replay ∧ Kept rows replay := by
  induction rows using List.reverseRecOn with
  | nil => exact ⟨{}, rfl, kept_nil⟩
  | append_singleton rows row ih =>
      obtain ⟨before, ran, kept⟩ := ih
        (fun earlier listed => positive earlier (List.mem_append_left _ listed)) (by
          intro first event rest whole needs
          refine resolvable first event (rest ++ [row.event]) ?_ needs
          rw [map_event_concat, whole, List.append_assoc]
          rfl)
      obtain ⟨after, applied, kept⟩ := applyRow_kept kept
        (positive row (List.mem_append_right _ List.mem_cons_self))
        (resolvable _ _ [] (map_event_concat rows row))
      refine ⟨after, ?_, kept⟩
      rw [replayRows, List.foldlM_append]
      change (replayRows rows >>= _) = _
      rw [ran]
      simp [applied, bind, Except.bind, pure, Except.pure]

/-! ## The open lots in the summary -/

section Final

variable {lots : List Lot} {summary : SummaryAcc}

/-- Summing up the open lots leaves the profit alone. -/
structure SameProfit (before after : SummaryAcc) : Prop where
  realized : after.realizedPnlUsd = before.realizedPnlUsd
  counterTrade : after.counterTradePnlUsd = before.counterTradePnlUsd
  onchainNetting : after.onchainNettingPnlUsd = before.onchainNettingPnlUsd
  directional : after.directionalExposurePnlUsd = before.directionalExposurePnlUsd

theorem SameProfit.trans {first second third : SummaryAcc} (before : SameProfit first second)
    (after : SameProfit second third) : SameProfit first third where
  realized := after.realized.trans before.realized
  counterTrade := after.counterTrade.trans before.counterTrade
  onchainNetting := after.onchainNetting.trans before.onchainNetting
  directional := after.directional.trans before.directional

theorem finalizeLot_sameProfit (summary : SummaryAcc) (lot : Lot) :
    SameProfit summary (finalizeLot summary lot) := by
  unfold finalizeLot
  cases lot.side <;> by_cases offchain : lot.openedVenue = .offchain <;>
    simp only [offchain, if_true, if_false] <;> exact ⟨rfl, rfl, rfl, rfl⟩

theorem finalizeLots_sameProfit (summary : SummaryAcc) (lots : List Lot) :
    SameProfit summary (finalizeLots summary lots) := by
  induction lots generalizing summary with
  | nil => exact ⟨rfl, rfl, rfl, rfl⟩
  | cons lot lots ih => exact (finalizeLot_sameProfit summary lot).trans (ih _)

/-- A weight that counts lots of one side only. -/
def onSide (side : LotSide) (weight : Lot → ℚ) (lot : Lot) : ℚ :=
  if lot.side = side then weight lot else 0

/-- What lots add to the open shares and notionals of the two sides. -/
structure AddsOpen (lots : List Lot) (before after : SummaryAcc) : Prop where
  longShares : after.openLongShares =
    before.openLongShares + value (onSide .long fun _ => 1) lots
  shortShares : after.openShortShares =
    before.openShortShares + value (onSide .short fun _ => 1) lots
  longNotional : after.openLongNotionalUsd =
    before.openLongNotionalUsd + value (onSide .long Lot.price) lots
  shortNotional : after.openShortNotionalUsd =
    before.openShortNotionalUsd + value (onSide .short Lot.price) lots

@[simp] theorem value_nil (weight : Lot → ℚ) : value weight [] = 0 := rfl

theorem value_cons (weight : Lot → ℚ) (lot : Lot) (lots : List Lot) :
    value weight (lot :: lots) = weight lot.tag * lot.remainingShares + value weight lots := by
  rw [value, stock_cons, Fifo.worth_cons]
  rfl

theorem value_append (weight : Lot → ℚ) (first second : List Lot) :
    value weight (first ++ second) = value weight first + value weight second := by
  induction first with
  | nil => rw [List.nil_append, value_nil, zero_add]
  | cons lot first ih => rw [List.cons_append, value_cons, ih, value_cons, add_assoc]

theorem finalizeLot_addsOpen (summary : SummaryAcc) (lot : Lot) :
    AddsOpen [lot] summary (finalizeLot summary lot) := by
  cases side : lot.side <;> by_cases offchain : lot.openedVenue = .offchain <;>
    constructor <;>
      simp [finalizeLot, value_cons, onSide, Lot.tag, side, offchain, mul_comm]

theorem AddsOpen.trans {first second : List Lot} {start middle finish : SummaryAcc}
    (before : AddsOpen first start middle) (after : AddsOpen second middle finish) :
    AddsOpen (first ++ second) start finish where
  longShares := by rw [after.longShares, before.longShares, value_append, add_assoc]
  shortShares := by rw [after.shortShares, before.shortShares, value_append, add_assoc]
  longNotional := by rw [after.longNotional, before.longNotional, value_append, add_assoc]
  shortNotional := by rw [after.shortNotional, before.shortNotional, value_append, add_assoc]

theorem finalizeLots_addsOpen (summary : SummaryAcc) (lots : List Lot) :
    AddsOpen lots summary (finalizeLots summary lots) := by
  induction lots generalizing summary with
  | nil => constructor <;> exact (add_zero _).symm
  | cons lot lots ih => exact (finalizeLot_addsOpen summary lot).trans (ih _)

theorem value_onSide {side : LotSide} (weight : Lot → ℚ) (listed : ∀ lot ∈ lots, lot.side = side) :
    value (onSide side weight) lots = value weight lots := by
  induction lots with
  | nil => rfl
  | cons lot lots ih =>
      obtain ⟨here, later⟩ := List.forall_mem_cons.mp listed
      rw [value_cons, value_cons, ih later, onSide, if_pos (show lot.tag.side = side from here)]

theorem value_onSide_other {side : LotSide} (weight : Lot → ℚ)
    (listed : ∀ lot ∈ lots, lot.side ≠ side) : value (onSide side weight) lots = 0 := by
  induction lots with
  | nil => rfl
  | cons lot lots ih =>
      obtain ⟨here, later⟩ := List.forall_mem_cons.mp listed
      rw [value_cons, ih later, onSide, if_neg (show lot.tag.side ≠ side from here), zero_mul,
        add_zero]

variable {book : SymbolBook}

/-- The summary in the end has the shares and notionals of the open lots. -/
structure Totals (book : SymbolBook) : Prop where
  longShares : book.finalSummary.openLongShares = value (fun _ => 1) book.longLots
  shortShares : book.finalSummary.openShortShares = value (fun _ => 1) book.shortLots
  longNotional : book.finalSummary.openLongNotionalUsd = value Lot.price book.longLots
  shortNotional : book.finalSummary.openShortNotionalUsd = value Lot.price book.shortLots

theorem totals (stocked : book.Stocked) (nothing : book.summary.NothingOpen) : Totals book := by
  have adds : AddsOpen (book.longLots ++ book.shortLots) book.summary book.finalSummary :=
    (finalizeLots_addsOpen book.summary book.longLots).trans (finalizeLots_addsOpen _ _)
  have long (lot : Lot) (listed : lot ∈ book.longLots) : lot.side = .long :=
    (stocked .long lot listed).1
  have short (lot : Lot) (listed : lot ∈ book.shortLots) : lot.side = .short :=
    (stocked .short lot listed).1
  have notLong (lot : Lot) (listed : lot ∈ book.shortLots) : lot.side ≠ .long := by
    rw [short lot listed]
    exact nofun
  have notShort (lot : Lot) (listed : lot ∈ book.longLots) : lot.side ≠ .short := by
    rw [long lot listed]
    exact nofun
  have longs (weight : Lot → ℚ) : value (onSide .long weight) (book.longLots ++ book.shortLots) =
      value weight book.longLots := by
    rw [value_append, value_onSide weight long, value_onSide_other weight notLong, add_zero]
  have shorts (weight : Lot → ℚ) : value (onSide .short weight) (book.longLots ++ book.shortLots) =
      value weight book.shortLots := by
    rw [value_append, value_onSide weight short, value_onSide_other weight notShort, zero_add]
  constructor
  · rw [adds.longShares, nothing.longShares, zero_add, longs]
  · rw [adds.shortShares, nothing.shortShares, zero_add, shorts]
  · rw [adds.longNotional, nothing.longNotional, zero_add, longs]
  · rw [adds.shortNotional, nothing.shortNotional, zero_add, shorts]

theorem value_nonneg {weight : Lot → ℚ} (nonneg : ∀ lot, 0 ≤ weight lot)
    (stocked : ∀ lot ∈ lots, 0 < lot.remainingShares) : 0 ≤ value weight lots := by
  induction lots with
  | nil => exact le_rfl
  | cons lot lots ih =>
      obtain ⟨here, later⟩ := List.forall_mem_cons.mp stocked
      rw [value_cons]
      exact add_nonneg (mul_nonneg (nonneg _) here.le) (ih later)

end Final

/-- What is kept from row to row, as the report shows it. -/
theorem Kept.balances {rows : List PositionEventRow} {replay : Replay} (kept : Kept rows replay) :
    Balances rows replay := by
  have totals := totals kept.stocked kept.nothingOpen
  have profit : SameProfit replay.book.summary replay.book.finalSummary :=
    (finalizeLots_sameProfit _ _).trans (finalizeLots_sameProfit _ _)
  refine ⟨kept.one_side, ?_, ?_, ?_, kept.order, ?_, ?_, ?_⟩
  · intro lot listed
    rcases List.mem_append.mp listed with long | short
    · exact (kept.stocked .long lot long).2
    · exact (kept.stocked .short lot short).2
  · rw [totals.longShares, totals.shortShares]
    exact kept.net
  · intro id
    have nonneg : ∀ lot, 0 ≤ openedBy id lot := by
      intro lot
      unfold openedBy
      split <;> norm_num
    have long := value_nonneg nonneg fun lot listed => (kept.stocked .long lot listed).2
    have short := value_nonneg nonneg fun lot listed => (kept.stocked .short lot listed).2
    have whole := kept.matched id
    change 0 ≤ value (openedBy id) replay.book.longLots at long
    change 0 ≤ value (openedBy id) replay.book.shortLots at short
    linarith
  · intro unadjusted
    have cash : replay.book.summary.realizedPnlUsd =
        ((firstOccurrences (rows.map PositionEventRow.event)).map cashFlow).sum +
          (value Lot.price replay.book.longLots - value Lot.price replay.book.shortLots) :=
      kept.cash unadjusted
    rw [profit.realized, cash, totals.longNotional, totals.shortNotional, add_sub_assoc]
  · rw [profit.realized, profit.counterTrade, profit.onchainNetting, profit.directional]
    exact kept.buckets
  · rw [profit.realized]
    exact kept.entries

/-- Any sequence of fills and adjustments is accepted, and leaves a book that is a
ledger of it. -/
theorem replay_balances (rows : List PositionEventRow)
    (positive : ∀ row ∈ rows, row.event.PositiveFill)
    (resolvable : Resolvable (rows.map PositionEventRow.event)) :
    ∃ replay, replayRows rows = .ok replay ∧ Balances rows replay := by
  obtain ⟨replay, ran, kept⟩ := replayRows_kept rows positive resolvable
  exact ⟨replay, ran, kept.balances⟩

/-- A purchase that is reported twice, a hedge of half of it, an adjustment at the
last price, and a purchase that closes the adjusted position. -/
def hedgedRows : List PositionEventRow :=
  let bought := .onChainOrderFilled ⟨1, 0⟩ 2 .buy 10 0 1
  let hedged := .offChainOrderFilled ⟨1⟩ ⟨1, Positive.one_pos⟩ .sell ⟨"A"⟩ 12 2
  let adjusted := .manualPositionAdjusted 1 (-3) "transfer" none 4
  let closed := .onChainOrderFilled ⟨2, 0⟩ 4 .buy 9 5 6
  [⟨1, "AAPL", bought⟩, ⟨3, "AAPL", hedged⟩, ⟨4, "AAPL", bought⟩, ⟨7, "AAPL", adjusted⟩,
    ⟨8, "AAPL", closed⟩]

theorem hedgedRows_balances :
    (∀ row ∈ hedgedRows, row.event.PositiveFill) ∧
    Resolvable (hedgedRows.map PositionEventRow.event) ∧
    ∃ replay, replayRows hedgedRows = .ok replay ∧ Balances hedgedRows replay := by
  have positive : ∀ row ∈ hedgedRows, row.event.PositiveFill := by
    simp [hedgedRows, PositiveFill]
  have resolvable : Resolvable (hedgedRows.map PositionEventRow.event) := by
    intro before event after whole needs
    cases before with
    | nil =>
        rw [← (List.cons.inj whole).1] at needs
        cases needs
    | cons first before =>
        rw [← (List.cons.inj whole).1]
        rfl
  exact ⟨positive, resolvable, replay_balances hedgedRows positive resolvable⟩

end Pnl

end Liquidity
