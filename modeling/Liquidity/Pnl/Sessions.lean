import Liquidity.Pnl.Replay

/-!
# Days and market sessions

The report groups by the day in New York, and can be filtered by days and by the
trading session. The calendar itself, that is how a timestamp is read and which
local time an instant has, comes from the time libraries.
-/

namespace Liquidity.Pnl

inductive Weekday where
  | mon | tue | wed | thu | fri | sat | sun
  deriving DecidableEq, Repr

structure NewYorkTime where
  /-- As `YYYY-MM-DD`. -/
  date : String
  weekday : Weekday
  hour : Nat
  minute : Nat
  deriving DecidableEq

/-- The time libraries. -/
structure Calendar where
  parseTimestamp : String → Option Time
  toRfc3339 : Time → String
  /-- How an event stores a time. -/
  stored : Time → String
  newYork : Time → NewYorkTime
  /-- The first or the last instant of a day, if the day can be read and resolved. -/
  dayBoundary : (date : String) → (isEnd : Bool) → Option String

inductive MarketSession where
  | pre
  | rth
  | post
  | overnight
  | weekend
  deriving DecidableEq, Repr

inductive CounterTradingSession where
  | counterTradingActive
  | counterTradingInactive
  deriving DecidableEq, Repr

/-- The characters that fill exactly this many bytes, if they end there. -/
def firstBytes : Nat → List Char → Option (List Char)
  | 0, _ => some []
  | _ + 1, [] => none
  | bytes + 1, char :: chars =>
      if char.utf8Size ≤ bytes + 1 then
        (firstBytes (bytes + 1 - char.utf8Size) chars).map (char :: ·)
      else none

/-- The day of a timestamp. A text that is no timestamp is cut off after ten bytes. -/
def dateKey (calendar : Calendar) (iso : String) : String :=
  match calendar.parseTimestamp iso with
  | some time => (calendar.newYork time).date
  | none => ((firstBytes 10 iso.toList).map String.ofList).getD iso

def marketSessionAt (now : NewYorkTime) : MarketSession :=
  if now.weekday = .sat ∨ now.weekday = .sun then .weekend
  else
    let minuteOfDay := now.hour * 60 + now.minute
    let preStart := 4 * 60
    let rthStart := 9 * 60 + 30
    let postStart := 16 * 60
    let postEnd := 20 * 60
    if preStart ≤ minuteOfDay ∧ minuteOfDay < rthStart then .pre
    else if rthStart ≤ minuteOfDay ∧ minuteOfDay < postStart then .rth
    else if postStart ≤ minuteOfDay ∧ minuteOfDay < postEnd then .post
    else .overnight

def counterTradingSessionAt (now : NewYorkTime) : CounterTradingSession :=
  if marketSessionAt now = .rth then .counterTradingActive else .counterTradingInactive

/-! ## Filters -/

inductive PnlMarketSessionFilter where
  | all
  | only (session : MarketSession)
  deriving DecidableEq, Repr

inductive PnlCounterTradingFilter where
  | all
  | only (session : CounterTradingSession)
  deriving DecidableEq, Repr

structure PnlQuery where
  limit : Option Nat := none
  offset : Option Nat := none
  fromDate : Option String := none
  toDate : Option String := none
  marketSessionFilter : Option PnlMarketSessionFilter := none
  counterTradingFilter : Option PnlCounterTradingFilter := none
  deriving DecidableEq

def PnlQuery.normalizedLimit (query : PnlQuery) : Nat := max 1 (min (query.limit.getD 100) 5000)

def PnlQuery.normalizedOffset (query : PnlQuery) : Nat := query.offset.getD 0

def matchesMarketSessionFilter (now : NewYorkTime) (filter : Option PnlMarketSessionFilter) :
    Bool :=
  match filter.getD .all with
  | .all => true
  | .only session => marketSessionAt now = session

def matchesCounterTradingFilter (now : NewYorkTime) (filter : Option PnlCounterTradingFilter) :
    Bool :=
  match filter.getD .all with
  | .all => true
  | .only session => counterTradingSessionAt now = session

def matchesTradeFilters (query : PnlQuery) (now : NewYorkTime) : Bool :=
  matchesMarketSessionFilter now query.marketSessionFilter &&
    matchesCounterTradingFilter now query.counterTradingFilter

/-- Days are compared as texts. -/
def matchesDateBounds (calendar : Calendar) (query : PnlQuery) (day : String) : Bool :=
  query.fromDate.all (fun fromDate => !decide (day < dateKey calendar fromDate)) &&
    query.toDate.all (fun toDate => !decide (dateKey calendar toDate < day))

def matchesDateFilter (calendar : Calendar) (query : PnlQuery) (entry : PnlEntry) : Bool :=
  let closedAt := calendar.newYork entry.closedAt
  matchesDateBounds calendar query closedAt.date && matchesTradeFilters query closedAt

/-- What happened on a day without a time belongs to no session. -/
def matchesCostSessionFilter (calendar : Calendar) (query : PnlQuery) (iso : String) : Bool :=
  match calendar.parseTimestamp iso with
  | some time => matchesTradeFilters query (calendar.newYork time)
  | none =>
      query.marketSessionFilter.all (· = .all) && query.counterTradingFilter.all (· = .all)

def matchesCostDateFilter (calendar : Calendar) (query : PnlQuery) (occurredAt : String) : Bool :=
  matchesDateBounds calendar query (dateKey calendar occurredAt) &&
    matchesCostSessionFilter calendar query occurredAt

/-- No day and no session is left out. -/
structure PnlQuery.Unfiltered (query : PnlQuery) : Prop where
  fromDate : query.fromDate = none
  toDate : query.toDate = none
  marketSession : query.marketSessionFilter.getD .all = .all
  counterTrading : query.counterTradingFilter.getD .all = .all

theorem PnlQuery.Unfiltered.matchesDateFilter {query : PnlQuery} (unfiltered : query.Unfiltered)
    (calendar : Calendar) (entry : PnlEntry) : matchesDateFilter calendar query entry = true := by
  simp [Pnl.matchesDateFilter, matchesDateBounds, matchesTradeFilters, matchesMarketSessionFilter,
    matchesCounterTradingFilter, unfiltered.fromDate, unfiltered.toDate, unfiltered.marketSession,
    unfiltered.counterTrading]

/-! ## One day -/

/-- Ten in the morning on the second of January 2025 in New York. -/
def morning : Time := 1735830000000000000

/-- The calendar of that day. -/
def thatDay : Calendar where
  parseTimestamp iso := if iso = "2025-01-02T15:00:00Z" then some morning else none
  toRfc3339 _ := "2025-01-02T15:00:00+00:00"
  stored _ := "2025-01-02T15:00:00Z"
  newYork _ := ⟨"2025-01-02", .thu, 10, 0⟩
  dayBoundary _ isEnd :=
    some (if isEnd then "2025-01-03T04:59:59.999Z" else "2025-01-02T05:00:00.000Z")

end Liquidity.Pnl
