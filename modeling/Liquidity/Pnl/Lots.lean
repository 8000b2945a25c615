import Liquidity.Fifo
import Liquidity.Pnl.Report

/-!
# Closing lots is consuming a queue

The loop that closes lots takes shares from the queue of lots, oldest first, and
books each part it takes. What a fill does to a book is stated once here: which
queue it consumes, which lot it opens, and what the parts add to the tally.
-/

namespace Liquidity.Pnl

/-! ## Lots as a queue -/

/-- A lot apart from how much of it is left. -/
def Lot.tag (lot : Lot) : Lot := { lot with remainingShares := 0 }

def stock (lots : List Lot) : List (Lot × ℚ) := lots.map fun lot => (lot.tag, lot.remainingShares)

def unstock (queue : List (Lot × ℚ)) : List Lot :=
  queue.map fun entry => { entry.1 with remainingShares := entry.2 }

@[simp] theorem stock_nil : stock [] = [] := rfl

@[simp] theorem stock_cons (lot : Lot) (lots : List Lot) :
    stock (lot :: lots) = (lot.tag, lot.remainingShares) :: stock lots := rfl

@[simp] theorem unstock_cons (entry : Lot × ℚ) (queue : List (Lot × ℚ)) :
    unstock (entry :: queue) = { entry.1 with remainingShares := entry.2 } :: unstock queue := rfl

@[simp] theorem unstock_stock (lots : List Lot) : unstock (stock lots) = lots := by
  induction lots with
  | nil => rfl
  | cons lot lots ih => exact congrArg (lot :: ·) ih

/-- Book the parts that were taken. -/
def Tally.closeAll (fill : Fill) (bucket : PnlBucket) (tally : Tally) (taken : List (Lot × ℚ)) :
    Tally :=
  taken.foldl (fun tally part => tally.close fill bucket part.1 part.2) tally

theorem matchFillAgainstLots_eq (fill : Fill) (bucket : PnlBucket) {lots : List Lot}
    (stocked : ∀ lot ∈ lots, 0 < lot.remainingShares) {remaining : ℚ} (least : 0 ≤ remaining)
    (tally : Tally) :
    matchFillAgainstLots fill bucket lots remaining tally =
      ((Fifo.consume (stock lots) remaining).wanted,
        unstock (Fifo.consume (stock lots) remaining).rest,
        tally.closeAll fill bucket (Fifo.consume (stock lots) remaining).taken) := by
  induction lots generalizing remaining tally with
  | nil => rfl
  | cons lot lots ih =>
      obtain ⟨positive, later⟩ := List.forall_mem_cons.mp stocked
      rw [stock_cons, matchFillAgainstLots]
      rcases Fifo.consume_cases lot.tag lot.remainingShares (stock lots) least with
        ⟨none, used⟩ | ⟨some, part, used⟩ | ⟨some, whole, used⟩
      · rw [used, if_pos none, none]
        exact congrArg (fun lots => (0, lots, tally)) (unstock_stock (lot :: lots)).symm
      · have least : min remaining lot.remainingShares = remaining := min_eq_left part.le
        have left : lot.remainingShares - remaining ≠ 0 := (sub_pos.mpr part).ne'
        simp only [used, least, if_neg some.ne', ne_eq, left, not_false_eq_true, if_true, sub_self]
        rw [unstock_cons, unstock_stock]
        rfl
      · have least : min remaining lot.remainingShares = lot.remainingShares := min_eq_right whole
        simp only [used, least, if_neg some.ne', if_neg positive.ne', sub_self, ne_eq,
          not_true_eq_false, if_false]
        exact ih later (sub_nonneg.mpr whole) _

/-! ## What closing adds to the tally -/

/-- The three buckets together. -/
def SummaryAcc.buckets (summary : SummaryAcc) : ℚ :=
  summary.counterTradePnlUsd + summary.onchainNettingPnlUsd + summary.directionalExposurePnlUsd

/-- What only the open lots add to. -/
structure SummaryAcc.NothingOpen (summary : SummaryAcc) : Prop where
  longShares : summary.openLongShares = 0
  shortShares : summary.openShortShares = 0
  longNotional : summary.openLongNotionalUsd = 0
  shortNotional : summary.openShortNotionalUsd = 0

/-- The weight of the lots that an onchain fill has opened. -/
def openedBy (id : FillId) (lot : Lot) : ℚ :=
  if lot.openedVenue = .onchain ∧ lot.tradeId = id then 1 else 0

/-- What is recorded for a fill. -/
def SharesById.of (shares : SharesById) (id : FillId) : ℚ := (shares.lookup id).getD 0

theorem SharesById.of_increase (shares : SharesById) (id other : FillId) (more : ℚ) :
    (shares.increase id more).of other = shares.of other + if other = id then more else 0 := by
  unfold SharesById.of SharesById.increase
  by_cases same : other = id
  · subst same
    rw [AList.lookup_insert, if_pos rfl]
    rfl
  · rw [AList.lookup_insert_ne same, if_neg same, add_zero]

variable {fill : Fill} {bucket : PnlBucket} {lot : Lot} {shares : ℚ} {tally : Tally}

theorem close_realized : (tally.close fill bucket lot shares).summary.realizedPnlUsd =
    tally.summary.realizedPnlUsd + spread fill lot * shares := by
  rw [mul_comm (spread fill lot)]
  unfold Tally.close
  cases effectiveBucket fill bucket lot <;> cases lot.openedVenue <;> cases fill.venue <;> rfl

theorem close_buckets : (tally.close fill bucket lot shares).summary.buckets =
    tally.summary.buckets + spread fill lot * shares := by
  rw [mul_comm (spread fill lot)]
  unfold Tally.close SummaryAcc.buckets
  cases effectiveBucket fill bucket lot <;> cases lot.openedVenue <;> cases fill.venue <;>
    simp only [addRealizedPnl, addVenueNotional] <;> ring

theorem close_nothingOpen (nothing : tally.summary.NothingOpen) :
    (tally.close fill bucket lot shares).summary.NothingOpen := by
  obtain ⟨longShares, shortShares, longNotional, shortNotional⟩ := nothing
  unfold Tally.close
  cases effectiveBucket fill bucket lot <;> cases lot.openedVenue <;> cases fill.venue <;>
    exact ⟨longShares, shortShares, longNotional, shortNotional⟩

theorem close_matched (id : FillId) :
    (tally.close fill bucket lot shares).matchedOnchainShares.of id =
      tally.matchedOnchainShares.of id + openedBy id lot * shares := by
  simp only [Tally.close, openedBy]
  by_cases onchain : lot.openedVenue = .onchain
  · rw [if_pos onchain, SharesById.of_increase]
    by_cases same : id = lot.tradeId
    · simp [onchain, same]
    · simp [onchain, same, Ne.symm same]
  · simp [onchain]

variable {taken : List (Lot × ℚ)}

@[simp] theorem closeAll_nil : tally.closeAll fill bucket [] = tally := rfl

@[simp] theorem closeAll_cons (part : Lot × ℚ) :
    tally.closeAll fill bucket (part :: taken) =
      (tally.close fill bucket part.1 part.2).closeAll fill bucket taken := rfl

/-- What the parts add: their spread to the profit and to the buckets, one entry
each, and their shares to the onchain fills that opened them. -/
structure Closes (fill : Fill) (bucket : PnlBucket) (taken : List (Lot × ℚ))
    (before after : Tally) : Prop where
  realized : after.summary.realizedPnlUsd =
    before.summary.realizedPnlUsd + Fifo.worth (spread fill) taken
  buckets : after.summary.buckets = before.summary.buckets + Fifo.worth (spread fill) taken
  nothingOpen : before.summary.NothingOpen → after.summary.NothingOpen
  matched : ∀ id, after.matchedOnchainShares.of id =
    before.matchedOnchainShares.of id + Fifo.worth (openedBy id) taken
  entries : after.entries =
    before.entries ++ taken.map fun part => matchEntry fill bucket part.1 part.2

theorem closeAll_closes (fill : Fill) (bucket : PnlBucket) (taken : List (Lot × ℚ))
    (tally : Tally) : Closes fill bucket taken tally (tally.closeAll fill bucket taken) := by
  induction taken generalizing tally with
  | nil => exact ⟨by simp, by simp, fun nothing => nothing, by simp, by simp⟩
  | cons part taken ih =>
      obtain ⟨realized, buckets, nothingOpen, matched, entries⟩ :=
        ih (tally.close fill bucket part.1 part.2)
      refine ⟨?_, ?_, fun nothing => nothingOpen (close_nothingOpen nothing), ?_, ?_⟩
      · rw [closeAll_cons, realized, close_realized, Fifo.worth_cons, add_assoc]
      · rw [closeAll_cons, buckets, close_buckets, Fifo.worth_cons, add_assoc]
      · intro id
        rw [closeAll_cons, matched, close_matched, Fifo.worth_cons, add_assoc]
      · rw [closeAll_cons, entries]
        simp [Tally.close]

/-! ## What a fill does to a book -/

def SymbolBook.lots (book : SymbolBook) : LotSide → List Lot
  | .long => book.longLots
  | .short => book.shortLots

/-- The side a fill opens lots on. -/
def Fill.opens (fill : Fill) : LotSide := if fill.direction = .buy then .long else .short

/-- The side a fill closes lots of. -/
def Fill.closes (fill : Fill) : LotSide := if fill.direction = .buy then .short else .long

/-- What a fill takes from the lots of a book. -/
def SymbolBook.consumed (book : SymbolBook) (fill : Fill) : Fifo.Outcome Lot ℚ :=
  Fifo.consume (stock (book.lots fill.closes)) fill.shares

/-- The lot that is opened, if something remains. -/
def residualLots (fill : Fill) (remaining : ℚ) : List Lot :=
  if remaining = 0 then [] else [residualLot fill remaining]

/-- A fill consumes one queue, opens at most one lot, and books what it takes. -/
structure Fills (fill : Fill) (bucket : PnlBucket) (before after : Replay) : Prop where
  closed : after.book.lots fill.closes = unstock (before.book.consumed fill).rest
  opened : after.book.lots fill.opens =
    before.book.lots fill.opens ++ residualLots fill (before.book.consumed fill).wanted
  booked : Closes fill bucket (before.book.consumed fill).taken
    ⟨before.book.summary, before.book.matchedOnchainShares, before.entries⟩
    ⟨after.book.summary, after.book.matchedOnchainShares, after.entries⟩
  original : ∀ id, after.book.originalOnchainShares.of id =
    before.book.originalOnchainShares.of id +
      openedBy id (residualLot fill 0) * (before.book.consumed fill).wanted

/-- The lots of every side are of that side, and something is left of each. -/
def SymbolBook.Stocked (book : SymbolBook) : Prop :=
  ∀ side, ∀ lot ∈ book.lots side, lot.side = side ∧ 0 < lot.remainingShares

/-- The replay after closing, before a lot is opened. -/
theorem matchAgainstBook_eq {replay : Replay} (bucket : PnlBucket) (positive : 0 < fill.shares)
    (stocked : replay.book.Stocked) :
    ∃ matched, matchAgainstBook replay fill bucket = ((replay.book.consumed fill).wanted, matched) ∧
      matched.book.lots fill.closes = unstock (replay.book.consumed fill).rest ∧
      matched.book.lots fill.opens = replay.book.lots fill.opens ∧
      (⟨matched.book.summary, matched.book.matchedOnchainShares, matched.entries⟩ : Tally) =
        Tally.closeAll fill bucket
          ⟨replay.book.summary, replay.book.matchedOnchainShares, replay.entries⟩
          (replay.book.consumed fill).taken ∧
      matched = { replay with
        book := { replay.book with
          longLots := matched.book.longLots, shortLots := matched.book.shortLots
          summary := matched.book.summary
          matchedOnchainShares := matched.book.matchedOnchainShares }
        entries := matched.entries } := by
  have shorts : ∀ lot ∈ replay.book.shortLots, 0 < lot.remainingShares :=
    fun lot listed => (stocked .short lot listed).2
  have longs : ∀ lot ∈ replay.book.longLots, 0 < lot.remainingShares :=
    fun lot listed => (stocked .long lot listed).2
  cases direction : fill.direction with
  | buy =>
      have consumed : replay.book.consumed fill =
          Fifo.consume (stock replay.book.shortLots) fill.shares := by
        simp [SymbolBook.consumed, Fill.closes, direction, SymbolBook.lots]
      simp only [matchAgainstBook, direction, Fill.closes, Fill.opens, if_true, consumed,
        matchFillAgainstLots_eq fill bucket shorts positive.le]
      exact ⟨_, rfl, rfl, rfl, rfl, rfl⟩
  | sell =>
      have consumed : replay.book.consumed fill =
          Fifo.consume (stock replay.book.longLots) fill.shares := by
        simp [SymbolBook.consumed, Fill.closes, direction, SymbolBook.lots]
      simp only [matchAgainstBook, direction, Fill.closes, Fill.opens, reduceCtorEq, if_false,
        consumed, matchFillAgainstLots_eq fill bucket longs positive.le]
      exact ⟨_, rfl, rfl, rfl, rfl, rfl⟩

theorem openResidualLot_opens (book : SymbolBook) (remaining : ℚ) :
    (openResidualLot book fill remaining).lots fill.opens =
      book.lots fill.opens ++ [residualLot fill remaining] := by
  cases direction : fill.direction <;>
    simp [openResidualLot, pushLot, residualLot, Fill.opens, direction, SymbolBook.lots]

theorem openResidualLot_closes (book : SymbolBook) (remaining : ℚ) :
    (openResidualLot book fill remaining).lots fill.closes = book.lots fill.closes := by
  cases direction : fill.direction <;>
    simp [openResidualLot, pushLot, residualLot, Fill.closes, direction, SymbolBook.lots]

/-- Opening a lot changes nothing but the lots. -/
structure SameButLots (before after : SymbolBook) : Prop where
  summary : after.summary = before.summary
  matched : after.matchedOnchainShares = before.matchedOnchainShares
  original : after.originalOnchainShares = before.originalOnchainShares
  onchain : after.seenOnchainFillIds = before.seenOnchainFillIds
  offchain : after.seenOffchainFillIds = before.seenOffchainFillIds
  price : after.lastPriceUsdc = before.lastPriceUsdc

theorem pushLot_same (book : SymbolBook) (lot : Lot) : SameButLots book (pushLot book lot) := by
  unfold pushLot
  split <;> exact ⟨rfl, rfl, rfl, rfl, rfl, rfl⟩

variable {replay : Replay}

/-- A replay that agrees in the lots and the money. -/
structure Agrees (before seen : Replay) : Prop where
  lots : ∀ side, seen.book.lots side = before.book.lots side
  realized : seen.book.summary.realizedPnlUsd = before.book.summary.realizedPnlUsd
  buckets : seen.book.summary.buckets = before.book.summary.buckets
  nothingOpen : before.book.summary.NothingOpen → seen.book.summary.NothingOpen
  matched : seen.book.matchedOnchainShares = before.book.matchedOnchainShares
  original : seen.book.originalOnchainShares = before.book.originalOnchainShares
  entries : seen.entries = before.entries

/-- Counting and remembering a fill leaves lots and money alone. -/
theorem Agrees.consumed {seen : Replay} (agrees : Agrees replay seen) :
    seen.book.consumed fill = replay.book.consumed fill := by
  rw [SymbolBook.consumed, agrees.lots, SymbolBook.consumed]

theorem Agrees.closes {seen : Replay} {after : Tally} (agrees : Agrees replay seen)
    (booked : Closes fill bucket taken
      ⟨seen.book.summary, seen.book.matchedOnchainShares, seen.entries⟩ after) :
    Closes fill bucket taken
      ⟨replay.book.summary, replay.book.matchedOnchainShares, replay.entries⟩ after where
  realized := booked.realized.trans (congrArg (· + _) agrees.realized)
  buckets := booked.buckets.trans (congrArg (· + _) agrees.buckets)
  nothingOpen nothing := booked.nothingOpen (agrees.nothingOpen nothing)
  matched id := (booked.matched id).trans (congrArg (·.of id + _) agrees.matched)
  entries := booked.entries.trans (congrArg (· ++ _) agrees.entries)

/-- The common part of both kinds of fills: close, then open a lot for what remains
on a book that differs in the original shares only. -/
theorem fills_of_match {seen after : Replay} (positive : 0 < fill.shares)
    (stocked : replay.book.Stocked) (agrees : Agrees replay seen)
    (increase : SharesById → SharesById)
    (increased : ∀ shares id, (increase shares).of id = shares.of id +
      openedBy id (residualLot fill 0) * (replay.book.consumed fill).wanted)
    (applied : ∀ matched, matchAgainstBook seen fill bucket =
        ((replay.book.consumed fill).wanted, matched) →
      after.entries = matched.entries ∧
      after.book = if (replay.book.consumed fill).wanted = 0 then matched.book
        else openResidualLot { matched.book with
          originalOnchainShares := increase matched.book.originalOnchainShares } fill
            (replay.book.consumed fill).wanted) :
    Fills fill bucket replay after ∧
      after.book.seenOnchainFillIds = seen.book.seenOnchainFillIds ∧
      after.book.seenOffchainFillIds = seen.book.seenOffchainFillIds ∧
      after.book.lastPriceUsdc = seen.book.lastPriceUsdc := by
  have stocked' : seen.book.Stocked := by
    intro side lot listed
    rw [agrees.lots] at listed
    exact stocked side lot listed
  obtain ⟨matched, closing, closed, opened, tally, rest⟩ :=
    matchAgainstBook_eq bucket positive stocked'
  rw [agrees.consumed] at closing closed tally
  obtain ⟨entries, book⟩ := applied matched closing
  have booked := closeAll_closes fill bucket (replay.book.consumed fill).taken
    ⟨seen.book.summary, seen.book.matchedOnchainShares, seen.entries⟩
  rw [← tally] at booked
  have booked := agrees.closes booked
  have original : matched.book.originalOnchainShares = replay.book.originalOnchainShares := by
    rw [rest, agrees.original]
  by_cases none : (replay.book.consumed fill).wanted = 0
  · rw [if_pos none] at book
    refine ⟨⟨?_, ?_, ?_, ?_⟩, ?_⟩
    · rw [book, closed]
    · rw [book, opened, agrees.lots, residualLots, if_pos none, List.append_nil]
    · rw [book, entries]
      exact booked
    · intro id
      rw [book, original, none, mul_zero, add_zero]
    · rw [book, rest]
      exact ⟨rfl, rfl, rfl⟩
  · rw [if_neg none] at book
    have same := pushLot_same { matched.book with
      originalOnchainShares := increase matched.book.originalOnchainShares }
        (residualLot fill (replay.book.consumed fill).wanted)
    change SameButLots _ (openResidualLot _ fill _) at same
    rw [← book] at same
    refine ⟨⟨?_, ?_, ?_, ?_⟩, ?_⟩
    · rw [book, openResidualLot_closes, ← closed]
      cases fill.closes <;> rfl
    · rw [book, openResidualLot_opens, residualLots, if_neg none, ← agrees.lots, ← opened]
      cases fill.opens <;> rfl
    · rw [same.summary, same.matched, entries]
      exact booked
    · intro id
      rw [same.original, increased, original]
    · rw [same.onchain, same.offchain, same.price, rest]
      exact ⟨rfl, rfl, rfl⟩

theorem applyOnchainFill_new (fresh : fill.id ∉ replay.book.seenOnchainFillIds)
    (onchain : fill.venue = .onchain) (positive : 0 < fill.shares)
    (stocked : replay.book.Stocked) :
    Fills fill .onchainNetting replay (applyOnchainFill replay fill) ∧
      (applyOnchainFill replay fill).book.seenOnchainFillIds =
        insert fill.id replay.book.seenOnchainFillIds ∧
      (applyOnchainFill replay fill).book.seenOffchainFillIds =
        replay.book.seenOffchainFillIds ∧
      (applyOnchainFill replay fill).book.lastPriceUsdc = some fill.price := by
  let seen : Replay := { replay with
    book := { replay.book with
      seenOnchainFillIds := insert fill.id replay.book.seenOnchainFillIds
      lastPriceUsdc := some fill.price
      summary := { replay.book.summary with
        onchainFillCount := replay.book.summary.onchainFillCount + 1 } } }
  have agrees : Agrees replay seen :=
    ⟨fun side => by cases side <;> rfl, rfl, rfl,
      fun nothing => ⟨nothing.1, nothing.2, nothing.3, nothing.4⟩, rfl, rfl, rfl⟩
  have increased (shares : SharesById) (id : FillId) :
      (shares.increase fill.id (replay.book.consumed fill).wanted).of id = shares.of id +
        openedBy id (residualLot fill 0) * (replay.book.consumed fill).wanted := by
    rw [SharesById.of_increase]
    by_cases same : id = fill.id
    · simp [openedBy, residualLot, onchain, same]
    · simp [openedBy, residualLot, onchain, same, Ne.symm same]
  refine fills_of_match positive stocked agrees
    (fun shares => shares.increase fill.id (replay.book.consumed fill).wanted) increased ?_
  intro matched closing
  simp only [applyOnchainFill, if_neg fresh]
  rw [show matchAgainstBook _ fill .onchainNetting = _ from closing]
  dsimp only
  split <;> exact ⟨rfl, rfl⟩

theorem applyOffchainFill_new (fresh : fill.id ∉ replay.book.seenOffchainFillIds)
    (offchain : fill.venue = .offchain) (positive : 0 < fill.shares)
    (stocked : replay.book.Stocked) :
    Fills fill .counterTrade replay (applyOffchainFill replay fill) ∧
      (applyOffchainFill replay fill).book.seenOnchainFillIds =
        replay.book.seenOnchainFillIds ∧
      (applyOffchainFill replay fill).book.seenOffchainFillIds =
        insert fill.id replay.book.seenOffchainFillIds ∧
      (applyOffchainFill replay fill).book.lastPriceUsdc = replay.book.lastPriceUsdc := by
  let seen : Replay := { replay with
    book := { replay.book with
      seenOffchainFillIds := insert fill.id replay.book.seenOffchainFillIds
      summary := { replay.book.summary with
        offchainFillCount := replay.book.summary.offchainFillCount + 1 } } }
  have agrees : Agrees replay seen :=
    ⟨fun side => by cases side <;> rfl, rfl, rfl,
      fun nothing => ⟨nothing.1, nothing.2, nothing.3, nothing.4⟩, rfl, rfl, rfl⟩
  have increased (shares : SharesById) (id : FillId) :
      shares.of id = shares.of id +
        openedBy id (residualLot fill 0) * (replay.book.consumed fill).wanted := by
    simp [openedBy, residualLot, offchain]
  refine fills_of_match positive stocked agrees (fun shares => shares) increased ?_
  intro matched closing
  simp only [applyOffchainFill, if_neg fresh]
  rw [show matchAgainstBook _ fill .counterTrade = _ from closing]
  dsimp only
  split <;> exact ⟨rfl, rfl⟩

end Liquidity.Pnl
