import Liquidity.Process.Steps
import Liquidity.Rebalancing.PositionReactor
import Mathlib.Tactic.Ring

/-!
# One writer at a time

The broker, this bot's hedge orders at it, the position events they emit, and
the polls of the broker, for one symbol. Events wait for the reactor and polls
for their delivery as long as they like.

A reading that gets past the guards replaces the mirror. It shows the broker's
shares as of its read, so it is right only if whatever it saw of an order was,
or still is, applied by the reactor as a fill.
-/

namespace Liquidity

open Process

/-- This bot's open order at the broker. -/
structure BrokerOrder where
  id : OffchainOrderId
  direction : Direction
  shares : Positive
  accepted : Bool
  executed : ℚ
  /-- Nothing is held or executed any more. -/
  closed : Bool
  deriving DecidableEq

namespace BrokerOrder

/-- Shares the broker holds back: those of a sell that were not executed. -/
def held (order : BrokerOrder) : ℚ :=
  match order.direction with
  | .buy => 0
  | .sell => if order.accepted && !order.closed then order.shares.inner - order.executed else 0

/-- What the executions so far did to the shares. -/
def moved (order : BrokerOrder) : ℚ := order.direction.sign * order.executed

end BrokerOrder

/-- What a poll read, and how things stood then. -/
structure BrokerReading where
  balances : Balances
  /-- How many position events had been emitted. -/
  emitted : Nat
  /-- Whether shares were held for an order. -/
  held : Bool

/-- A poll: its stamp comes first, its reading later. -/
structure BrokerPoll where
  fetchedAt : Time
  reading : Option BrokerReading

/-- The symbol at the broker and in the view. -/
structure HedgingWorld where
  view : EquityView
  clock : Time
  /-- What the broker reports as available. -/
  available : FractionalShares
  order : Option BrokerOrder
  emitted : List PositionEvent
  /-- How many of them the reactor has processed. -/
  processed : Nat
  polls : List BrokerPoll

inductive HedgingStep where
  | place (id : OffchainOrderId) (shares : Positive) (direction : Direction)
      (executor : SupportedExecutor) (reason : TriggerReason)
  | accept
  | execute (quantity : Positive)
  /-- The broker is done with the order and releases what it still holds. -/
  | close
  | fill (executorOrderId : ExecutorOrderId) (price : Usd) (brokerTimestamp : Time)
  | fail (error : String)
  | cancel (reason : CancellationReason)
  /-- The reactor handles the oldest event it has not seen. -/
  | process
  | stamp
  | read (poll : Nat) (balances : Balances)
  | deliver (poll : Nat)
  | tick (passed : Nat)
  /-- The rest of the bot moves whatever else the view keeps. -/
  | elsewhere (view : EquityView)

/-- How a filled order moves the shares. -/
def PositionEvent.executed : PositionEvent → ℚ
  | .offChainOrderFilled _ sharesFilled direction _ _ _ => direction.sign * sharesFilled.inner
  | _ => 0

def PositionEvent.isPlaced : PositionEvent → Bool
  | .offChainOrderPlaced .. => true
  | _ => false

def PositionEvent.isFilled : PositionEvent → Bool
  | .offChainOrderFilled .. => true
  | _ => false

/-- The events a hedge order emits. -/
def PositionEvent.isOrderEvent : PositionEvent → Bool
  | .offChainOrderPlaced .. => true
  | .offChainOrderFilled .. => true
  | .offChainOrderFailed .. => true
  | .offChainOrderCancelled .. => true
  | _ => false

namespace HedgingWorld

variable [FloatFormat] (symbol : Symbol)

omit [FloatFormat] in
/-- The order is over and its last event is emitted. -/
def settle (w : HedgingWorld) (event : PositionEvent) : HedgingWorld :=
  { w with order := none, emitted := w.emitted ++ [event] }

/-- The order of an open order was closed without any execution. -/
def unexecuted (order : BrokerOrder) : Bool := order.closed && order.executed = 0

def act (w : HedgingWorld) : HedgingStep → Option HedgingWorld
  | .place id shares direction executor reason =>
      match w.order with
      | some _ => none
      | none => some { w with
          order := some ⟨id, direction, shares, false, 0, false⟩
          emitted := w.emitted ++
            [.offChainOrderPlaced id shares direction executor reason w.clock] }
  | .accept =>
      match w.order with
      | none => none
      | some order =>
          if order.accepted || order.closed then none
          else
            match order.direction with
            | .buy => some { w with order := some { order with accepted := true } }
            | .sell =>
                if w.available < order.shares.inner then none
                else some { w with
                  order := some { order with accepted := true }
                  available := w.available - order.shares.inner }
  | .execute quantity =>
      match w.order with
      | none => none
      | some order =>
          if !order.accepted || order.closed then none
          else
            match order.direction with
            | .buy => some { w with
                order := some { order with executed := order.executed + quantity.inner }
                available := w.available + quantity.inner }
            | .sell =>
                if order.shares.inner < order.executed + quantity.inner then none
                else some { w with
                  order := some { order with executed := order.executed + quantity.inner } }
  | .close =>
      match w.order with
      | none => none
      | some order =>
          if order.closed then none
          else some { w with
            order := some { order with closed := true }
            available := w.available + order.held }
  | .fill executorOrderId price brokerTimestamp =>
      match w.order with
      | none => none
      | some order =>
          if order.closed then
            (Positive.new order.executed).map fun sharesFilled =>
              w.settle (.offChainOrderFilled order.id sharesFilled order.direction executorOrderId
                price brokerTimestamp)
          else none
  | .fail error =>
      match w.order with
      | none => none
      | some order =>
          if unexecuted order then some (w.settle (.offChainOrderFailed order.id error w.clock))
          else none
  | .cancel reason =>
      match w.order with
      | none => none
      | some order =>
          if unexecuted order then
            some (w.settle (.offChainOrderCancelled order.id reason w.clock))
          else none
  | .process =>
      w.emitted[w.processed]?.map fun event => { w with
        view := (w.view.reactToPosition symbol w.clock event).view
        processed := w.processed + 1 }
  | .stamp => some { w with polls := w.polls ++ [⟨w.clock, none⟩] }
  | .read poll balances =>
      match w.polls[poll]? with
      | some ⟨fetchedAt, none⟩ =>
          -- A symbol the broker does not list has no shares.
          if (balances.lookup symbol).getD 0 = w.available then
            let reading := ⟨balances, w.emitted.length, w.order.any (·.held ≠ 0)⟩
            some { w with polls := w.polls.set poll ⟨fetchedAt, some reading⟩ }
          else none
      | _ => none
  | .deliver poll =>
      match w.polls[poll]? with
      | some ⟨fetchedAt, some reading⟩ =>
          match w.view.applyEquitySnapshot .hedging reading.balances fetchedAt w.clock with
          | .ok view => some { w with view := view }
          | .error _ => none
      | _ => none
  | .tick passed => some { w with clock := w.clock + passed }
  | .elsewhere view =>
      let before := w.view.slot .hedging symbol
      let after := view.slot .hedging symbol
      if after.held .hedging = before.held .hedging ∧ after.watermark = before.watermark ∧
          after.pending = before.pending ∧ after.lastFill = before.lastFill then
        some { w with view := view }
      else none

/-- The fill that is processed next is covered. A reading that the guards let
through came after every event emitted before it was processed, is not stamped
at the very instant of the last fill, and saw no shares held for an order that
then failed or was cancelled. -/
def Unambiguous (w : HedgingWorld) : HedgingStep → Prop
  | .process =>
      match w.emitted[w.processed]? with
      | some (.offChainOrderFilled _ shares direction _ price _) =>
          w.view.Covers symbol direction shares.inner (price * shares.inner)
      | _ => True
  | .deliver poll =>
      match w.polls[poll]? with
      | some ⟨fetchedAt, some reading⟩ =>
          (w.view.slot .hedging symbol).wouldApply .hedging fetchedAt →
            reading.emitted ≤ w.processed ∧
            w.view.lastOffchainFillAppliedAt symbol ≠ some fetchedAt ∧
            (reading.held → w.emitted[reading.emitted]?.all PositionEvent.isFilled)
      | _ => True
  | _ => True

omit [FloatFormat] in
instance (w : HedgingWorld) (step : HedgingStep) : Decidable (w.Unambiguous symbol step) := by
  unfold Unambiguous
  split
  · split <;> infer_instance
  · split <;> infer_instance
  · infer_instance

/-- No order is open, and the reactor has processed everything. -/
def Idle (w : HedgingWorld) : Prop := w.order = none ∧ w.processed = w.emitted.length

/-- Nothing has happened yet that concerns the symbol. -/
structure Fresh (w : HedgingWorld) : Prop where
  order : w.order = none
  emitted : w.emitted = []
  processed : w.processed = 0
  polls : w.polls = []
  pending : (w.view.slot .hedging symbol).pending = false
  watermark : (w.view.slot .hedging symbol).watermark = none

/-! ## What the reactor does with an order's events -/

/-- What executed orders did to the shares. -/
def total (events : List PositionEvent) : ℚ := (events.map PositionEvent.executed).sum

omit [FloatFormat] in
@[simp] theorem total_nil : total [] = 0 := rfl

omit [FloatFormat] in
theorem total_concat (events : List PositionEvent) (event : PositionEvent) :
    total (events ++ [event]) = total events + event.executed := by
  simp [total]

/-- The last event placed an order that nothing has ended yet. -/
def openAfter (events : List PositionEvent) : Bool := events.getLast?.any PositionEvent.isPlaced

omit [FloatFormat] in
@[simp] theorem openAfter_concat (events : List PositionEvent) (event : PositionEvent) :
    openAfter (events ++ [event]) = event.isPlaced := by
  simp [openAfter]

section Exact

variable {symbol} (exact : FloatFormat.IsExact)
include exact

/-- Placed marks, the others clear; a fill also moves the mirror and is stamped. -/
theorem react_slot (now : Time) {view : EquityView} {event : PositionEvent}
    (order : event.isOrderEvent)
    (covered : ∀ id shares direction executorOrderId price brokerTimestamp,
      event = .offChainOrderFilled id shares direction executorOrderId price brokerTimestamp →
        view.Covers symbol direction shares.inner (price * shares.inner)) :
    let after := (view.reactToPosition symbol now event).view
    after.hedgingAvailable symbol = view.hedgingAvailable symbol + event.executed ∧
      (after.slot .hedging symbol).watermark = (view.slot .hedging symbol).watermark ∧
      (after.slot .hedging symbol).pending = event.isPlaced ∧
      after.lastOffchainFillAppliedAt symbol =
        if event.isFilled then some now else view.lastOffchainFillAppliedAt symbol := by
  intro after
  cases event with
  | offChainOrderFilled id shares direction executorOrderId price brokerTimestamp =>
      have covers := covered _ _ _ _ _ _ rfl
      obtain ⟨updated, applied, moved, same⟩ :=
        EquityView.applyFill_hedging exact covers brokerTimestamp
      have reached : after = updated.clearOffchainOrderPending symbol (some now) := by
        simp only [after, EquityView.reactToPosition, Decimal.mul_exact exact,
          PositionEvent.timestamp, applied]
      rw [reached]
      refine ⟨moved, ?_, ?_, ?_⟩
      · exact congrFun same.offchain symbol
      · simp [EquityView.slot, EquityView.clearOffchainOrderPending, PositionEvent.isPlaced]
      · simp [EquityView.clearOffchainOrderPending, PositionEvent.isFilled]
  | offChainOrderPlaced =>
      refine ⟨(add_zero _).symm, rfl, ?_, rfl⟩
      simp [after, EquityView.reactToPosition, EquityView.slot, EquityView.markOffchainOrderPending,
        PositionEvent.isPlaced]
  | offChainOrderFailed =>
      refine ⟨(add_zero _).symm, rfl, ?_, rfl⟩
      simp [after, EquityView.reactToPosition, EquityView.slot,
        EquityView.clearOffchainOrderPending, PositionEvent.isPlaced]
  | offChainOrderCancelled =>
      refine ⟨(add_zero _).symm, rfl, ?_, rfl⟩
      simp [after, EquityView.reactToPosition, EquityView.slot,
        EquityView.clearOffchainOrderPending, PositionEvent.isPlaced]
  | _ => cases order

end Exact

/-! ## The invariant -/

/-- What a reading says of the symbol. -/
def reported (reading : BrokerReading) : ℚ := (reading.balances.lookup symbol).getD 0

/-- A reading shows the shares as they were, after the events emitted before it,
or it saw something of the order that was open then: shares held for it, or an
execution, after which the order can only end as filled. -/
structure Saw (start : ℚ) (w : HedgingWorld) (reading : BrokerReading) : Prop where
  past : reading.emitted ≤ w.emitted.length
  shows : reported symbol reading = start + total (w.emitted.take reading.emitted) ∨
    openAfter (w.emitted.take reading.emitted) = true ∧
      ((w.emitted.length = reading.emitted ∧ ∃ order, w.order = some order ∧
          (reading.held = true ∨ 0 < order.executed)) ∨
        ∃ event, w.emitted[reading.emitted]? = some event ∧
          (reading.held = true ∨ event.isFilled = true))

/-- A fill was processed after the reading. -/
def FilledSince (w : HedgingWorld) (reading : BrokerReading) : Prop :=
  ∃ i event, reading.emitted ≤ i ∧ i < w.processed ∧ w.emitted[i]? = some event ∧
    event.isFilled = true

structure Mirrors (start : ℚ) (w : HedgingWorld) : Prop where
  /-- The broker's shares, with what is held put back and what the open order
  executed taken out, are the start and all fills. -/
  ledger : w.available + (w.order.elim 0 BrokerOrder.held) =
    start + total w.emitted + w.order.elim 0 BrokerOrder.moved
  executed : ∀ order, w.order = some order → 0 ≤ order.executed
  unaccepted : ∀ order, w.order = some order → order.accepted = false → order.executed = 0
  order_events : ∀ event ∈ w.emitted, event.isOrderEvent = true
  opens : openAfter w.emitted = w.order.isSome
  past : w.processed ≤ w.emitted.length
  pending : (w.view.slot .hedging symbol).pending = openAfter (w.emitted.take w.processed)
  mirror : (w.view.slot .hedging symbol).watermark.isSome →
    w.view.hedgingAvailable symbol = start + total (w.emitted.take w.processed)
  stamps : ∀ poll ∈ w.polls, poll.fetchedAt ≤ w.clock
  saw : ∀ poll ∈ w.polls, ∀ reading, poll.reading = some reading → Saw symbol start w reading
  barred : ∀ poll ∈ w.polls, ∀ reading, poll.reading = some reading → w.FilledSince reading →
    ∃ time, w.view.lastOffchainFillAppliedAt symbol = some time ∧ poll.fetchedAt ≤ time

variable {symbol} {start : ℚ} {w : HedgingWorld}

omit [FloatFormat] in
theorem Fresh.mirrors (fresh : w.Fresh symbol) : Mirrors symbol w.available w where
  ledger := by simp [fresh.order, fresh.emitted]
  executed := by simp [fresh.order]
  unaccepted := by simp [fresh.order]
  order_events := by simp [fresh.emitted]
  opens := by simp [fresh.order, fresh.emitted, openAfter]
  past := by simp [fresh.processed]
  pending := by simp [fresh.pending, fresh.emitted, openAfter]
  mirror := by simp [fresh.watermark]
  stamps := by simp [fresh.polls]
  saw := by simp [fresh.polls]
  barred := by simp [fresh.polls]

omit [FloatFormat] in
/-- An idle mirror that took over a reading shows what the broker has. -/
theorem Mirrors.idle (mirrors : Mirrors symbol start w) (idle : w.Idle)
    (tracked : (w.view.slot .hedging symbol).watermark.isSome) :
    w.view.hedgingAvailable symbol = w.available := by
  have shown := mirrors.mirror tracked
  have ledger := mirrors.ledger
  rw [idle.2, List.take_length] at shown
  rw [idle.1] at ledger
  simp only [Option.elim_none, add_zero] at ledger
  rw [shown, ledger]

/-! ### The broker's steps -/

omit [FloatFormat] in
/-- A step of the broker on the open order: nothing is emitted, and what it
takes from the available shares is held or executed. -/
theorem Mirrors.broker (mirrors : Mirrors symbol start w) {before after : BrokerOrder}
    {available : ℚ} (opened : w.order = some before) (grows : before.executed ≤ after.executed)
    (quiet : after.accepted = false → after.executed = 0)
    (conserved : available + after.held - after.moved =
      w.available + before.held - before.moved) :
    Mirrors symbol start { w with order := some after, available := available } where
  ledger := by
    have ledger := mirrors.ledger
    simp only [opened, Option.elim_some] at ledger ⊢
    linarith
  executed := by
    intro order same
    cases same
    exact le_trans (mirrors.executed before opened) grows
  unaccepted := by
    intro order same
    cases same
    exact quiet
  order_events := mirrors.order_events
  opens := by simpa [opened] using mirrors.opens
  past := mirrors.past
  pending := mirrors.pending
  mirror := mirrors.mirror
  stamps := mirrors.stamps
  saw := by
    intro poll mem reading read
    obtain ⟨past, shows⟩ := mirrors.saw poll mem reading read
    refine ⟨past, shows.imp id fun ⟨open_then, seen⟩ => ⟨open_then, seen.imp ?_ id⟩⟩
    rintro ⟨same, order, is_open, saw⟩
    rw [opened] at is_open
    cases is_open
    exact ⟨same, after, rfl, saw.imp id fun some => lt_of_lt_of_le some grows⟩
  barred := mirrors.barred

/-! ### Emitting an event -/

omit [FloatFormat] in
/-- The fills processed since a reading are among the events there are. -/
theorem filledSince_emit (mirrors : Mirrors symbol start w) {reading : BrokerReading}
    {order : Option BrokerOrder} {event : PositionEvent}
    (filled : FilledSince { w with order := order, emitted := w.emitted ++ [event] } reading) :
    w.FilledSince reading := by
  obtain ⟨i, found, since, before, at_i, is_filled⟩ := filled
  refine ⟨i, found, since, before, ?_, is_filled⟩
  have inside : i < w.emitted.length := lt_of_lt_of_le before mirrors.past
  rwa [List.getElem?_append_left inside] at at_i

omit [FloatFormat] in
/-- The open order ends, or one is placed where none is open. -/
theorem Mirrors.emit (mirrors : Mirrors symbol start w) {order : Option BrokerOrder}
    {event : PositionEvent} (kind : event.isOrderEvent = true)
    (opens : event.isPlaced = order.isSome)
    (fresh : ∀ placed, order = some placed → placed.executed = 0)
    (ledger : w.available + order.elim 0 BrokerOrder.held =
      start + total (w.emitted ++ [event]) + order.elim 0 BrokerOrder.moved)
    (ends : ∀ ended, w.order = some ended → 0 < ended.executed → event.isFilled = true) :
    Mirrors symbol start { w with order := order, emitted := w.emitted ++ [event] } where
  ledger := ledger
  executed := by
    intro placed same
    exact le_of_eq (fresh placed same).symm
  unaccepted := fun placed same _ => fresh placed same
  order_events := by
    intro other mem
    rcases List.mem_append.mp mem with earlier | last
    · exact mirrors.order_events other earlier
    · rw [List.mem_singleton.mp last]
      exact kind
  opens := by simp [opens]
  past := by
    have past := mirrors.past
    simp only [List.length_append, List.length_singleton]
    omega
  pending := by
    rw [List.take_append_of_le_length mirrors.past]
    exact mirrors.pending
  mirror := by
    rw [List.take_append_of_le_length mirrors.past]
    exact mirrors.mirror
  stamps := mirrors.stamps
  saw := by
    intro poll mem reading read
    obtain ⟨past, shows⟩ := mirrors.saw poll mem reading read
    refine ⟨?_, ?_⟩
    · simp only [List.length_append, List.length_singleton]
      omega
    · simp only [List.take_append_of_le_length past]
      refine shows.imp id fun ⟨open_then, seen⟩ => ⟨open_then, .inr ?_⟩
      rcases seen with ⟨same, ended, is_open, saw⟩ | ⟨next, at_next, saw⟩
      · -- The order that the reading saw ends here.
        refine ⟨event, ?_, saw.imp id fun some => ends ended is_open some⟩
        rw [← same]
        simp
      · refine ⟨next, ?_, saw⟩
        have inside : reading.emitted < w.emitted.length := (List.getElem?_eq_some_iff.mp at_next).1
        rwa [List.getElem?_append_left inside]
  barred := by
    intro poll mem reading read filled
    exact mirrors.barred poll mem reading read (filledSince_emit mirrors filled)

/-! ### The reactor's step -/

omit [FloatFormat] in
/-- The events processed so far, with the one that comes next. -/
theorem take_processed {event : PositionEvent} (next : w.emitted[w.processed]? = some event) :
    w.emitted.take (w.processed + 1) = w.emitted.take w.processed ++ [event] := by
  rw [List.take_add_one, next]
  rfl

theorem Mirrors.process (exact : FloatFormat.IsExact) (mirrors : Mirrors symbol start w)
    {event : PositionEvent} (next : w.emitted[w.processed]? = some event)
    (covered : ∀ id shares direction executorOrderId price brokerTimestamp,
      event = .offChainOrderFilled id shares direction executorOrderId price brokerTimestamp →
        w.view.Covers symbol direction shares.inner (price * shares.inner)) :
    Mirrors symbol start { w with
      view := (w.view.reactToPosition symbol w.clock event).view
      processed := w.processed + 1 } := by
  have inside : w.processed < w.emitted.length := (List.getElem?_eq_some_iff.mp next).1
  have kind : event.isOrderEvent = true :=
    mirrors.order_events event (List.mem_of_getElem? next)
  obtain ⟨moved, kept, marked, stamped⟩ := react_slot exact w.clock kind covered
  exact {
    ledger := mirrors.ledger
    executed := mirrors.executed
    unaccepted := mirrors.unaccepted
    order_events := mirrors.order_events
    opens := mirrors.opens
    past := inside
    pending := by
      rw [take_processed next, openAfter_concat]
      exact marked
    mirror := by
      intro tracked
      rw [take_processed next, total_concat]
      have shown := mirrors.mirror (by rwa [← kept])
      rw [moved, shown]
      ring
    stamps := mirrors.stamps
    saw := by
      intro poll mem reading read
      have seen := mirrors.saw poll mem reading read
      exact ⟨seen.past, seen.shows⟩
    barred := by
      intro poll mem reading read filled
      obtain ⟨i, found, since, before, at_i, is_filled⟩ := filled
      show ∃ time, (w.view.reactToPosition symbol w.clock event).view.lastOffchainFillAppliedAt
        symbol = some time ∧ _
      rw [stamped]
      by_cases last : event.isFilled = true
      · rw [if_pos last]
        exact ⟨w.clock, rfl, mirrors.stamps poll mem⟩
      · rw [if_neg last]
        refine mirrors.barred poll mem reading read ⟨i, found, since, ?_, at_i, is_filled⟩
        have earlier : i ≠ w.processed := by
          intro same
          rw [same, next] at at_i
          cases at_i
          exact last is_filled
        have below : i < w.processed + 1 := before
        omega }

/-! ### The polls' steps -/

omit [FloatFormat] in
/-- Steps that touch neither the order nor the events nor what the view keeps of
the symbol, and leave the readings as they are. -/
theorem Mirrors.same (mirrors : Mirrors symbol start w) {view : EquityView} {clock : Time}
    {polls : List BrokerPoll} (later : w.clock ≤ clock)
    (pending : (view.slot .hedging symbol).pending = (w.view.slot .hedging symbol).pending)
    (lastFill : (view.slot .hedging symbol).lastFill = (w.view.slot .hedging symbol).lastFill)
    (mirror : (view.slot .hedging symbol).watermark.isSome →
      view.hedgingAvailable symbol = start + total (w.emitted.take w.processed))
    (fresh : ∀ poll ∈ polls, poll ∈ w.polls ∨ (poll.fetchedAt ≤ clock ∧
      ∀ reading, poll.reading = some reading → Saw symbol start w reading ∧
        ¬ w.FilledSince reading)) :
    Mirrors symbol start { w with view := view, clock := clock, polls := polls } where
  ledger := mirrors.ledger
  executed := mirrors.executed
  unaccepted := mirrors.unaccepted
  order_events := mirrors.order_events
  opens := mirrors.opens
  past := mirrors.past
  pending := pending.trans mirrors.pending
  mirror := mirror
  stamps := by
    intro poll mem
    rcases fresh poll mem with known | ⟨stamped, _⟩
    · exact le_trans (mirrors.stamps poll known) later
    · exact stamped
  saw := by
    intro poll mem reading read
    have seen : Saw symbol start w reading := by
      rcases fresh poll mem with known | ⟨_, all⟩
      · exact mirrors.saw poll known reading read
      · exact (all reading read).1
    exact ⟨seen.past, seen.shows⟩
  barred := by
    intro poll mem reading read filled
    rcases fresh poll mem with known | ⟨_, all⟩
    · obtain ⟨time, stamped, after⟩ := mirrors.barred poll known reading read filled
      exact ⟨time, lastFill.trans stamped, after⟩
    · exact absurd filled (all reading read).2

omit [FloatFormat] in
/-- What the broker answers just now is seen as it is. -/
theorem saw_now (mirrors : Mirrors symbol start w) {balances : Balances}
    (answered : (balances.lookup symbol).getD 0 = w.available) :
    Saw symbol start w ⟨balances, w.emitted.length, w.order.any (·.held ≠ 0)⟩ where
  past := Nat.le_refl _
  shows := by
    have ledger := mirrors.ledger
    rw [List.take_length, reported, answered]
    cases opened : w.order with
    | none =>
        left
        rw [opened] at ledger
        simpa using ledger
    | some order =>
        rw [opened] at ledger
        simp only [Option.elim_some] at ledger
        by_cases holds : order.held = 0
        · by_cases unmoved : order.executed = 0
          · left
            rw [holds, BrokerOrder.moved, unmoved] at ledger
            simpa using ledger
          · right
            refine ⟨by rw [mirrors.opens, opened]; rfl, .inl ⟨rfl, order, rfl, .inr ?_⟩⟩
            exact lt_of_le_of_ne (mirrors.executed order opened) (Ne.symm unmoved)
        · right
          refine ⟨by rw [mirrors.opens, opened]; rfl, .inl ⟨rfl, order, rfl, .inl ?_⟩⟩
          simpa using holds

omit [FloatFormat] in
theorem not_filledSince_now (mirrors : Mirrors symbol start w) {balances : Balances} {held : Bool} :
    ¬ w.FilledSince ⟨balances, w.emitted.length, held⟩ := by
  rintro ⟨i, event, since, before, _⟩
  have past := mirrors.past
  have since' : w.emitted.length ≤ i := since
  omega

omit [FloatFormat] in
/-- A reading the guards let through, and that is not ambiguous, shows what the
events processed so far amount to. -/
theorem Mirrors.shows (mirrors : Mirrors symbol start w) {poll : BrokerPoll}
    {reading : BrokerReading} (mem : poll ∈ w.polls) (read : poll.reading = some reading)
    (applies : (w.view.slot .hedging symbol).wouldApply .hedging poll.fetchedAt)
    (processed : reading.emitted ≤ w.processed)
    (apart : w.view.lastOffchainFillAppliedAt symbol ≠ some poll.fetchedAt)
    (ended : reading.held → w.emitted[reading.emitted]?.all PositionEvent.isFilled) :
    reported symbol reading = start + total (w.emitted.take w.processed) := by
  -- The guards: no order is open, and no fill was stamped after the reading.
  have guards : (w.view.slot .hedging symbol).pending = false ∧
      ∀ time, w.view.lastOffchainFillAppliedAt symbol = some time → time ≤ poll.fetchedAt := by
    unfold EquityView.Slot.wouldApply at applies
    split at applies
    · cases applies
    split at applies
    · cases applies
    case isFalse yields =>
      simp only [EquityView.Slot.yieldsToFills, Bool.or_eq_true, not_or, Bool.not_eq_true] at yields
      refine ⟨yields.1, fun time stamped => ?_⟩
      have late : ((w.view.lastOffchainFillAppliedAt symbol).any (poll.fetchedAt < ·)) = false :=
        yields.2
      rw [stamped] at late
      simpa using late
  obtain ⟨free, unstamped⟩ := guards
  have no_fill : ¬ w.FilledSince reading := by
    intro filled
    obtain ⟨time, stamped, after⟩ := mirrors.barred poll mem reading read filled
    have same : time = poll.fetchedAt := Nat.le_antisymm (unstamped time stamped) after
    rw [same] at stamped
    exact apart stamped
  have saw := mirrors.saw poll mem reading read
  rcases saw.shows with shown | ⟨open_then, seen⟩
  · -- Nothing processed since then moved the shares.
    rw [shown]
    congr 1
    have unmoved : ∀ i, reading.emitted ≤ i → i ≤ w.processed →
        total (w.emitted.take i) = total (w.emitted.take reading.emitted) := by
      intro i since
      induction i, since using Nat.le_induction with
      | base => exact fun _ => rfl
      | succ i since ih =>
          intro below
          have earlier := ih (by omega)
          cases at_i : w.emitted[i]? with
          | none => rw [List.take_add_one, at_i, Option.toList_none, List.append_nil, earlier]
          | some event =>
              have still : event.executed = 0 := by
                have unfilled : event.isFilled ≠ true := fun is_filled =>
                  no_fill ⟨i, event, since, by omega, at_i, is_filled⟩
                cases event <;> first | rfl | exact absurd rfl unfilled
              rw [List.take_add_one, at_i, Option.toList_some, total_concat, earlier, still,
                add_zero]
    exact (unmoved w.processed processed (Nat.le_refl _)).symm
  · -- The order was open then and is not now: its end was processed, as a fill.
    exfalso
    have closed : openAfter (w.emitted.take w.processed) = false := by
      rw [← mirrors.pending]
      exact free
    have beyond : reading.emitted < w.processed := by
      refine lt_of_le_of_ne processed fun same => ?_
      rw [← same, open_then] at closed
      cases closed
    have past := mirrors.past
    rcases seen with ⟨same, _⟩ | ⟨event, at_end, saw_it⟩
    · omega
    · refine no_fill ⟨reading.emitted, event, Nat.le_refl _, beyond, at_end, ?_⟩
      have filled (holds : reading.held = true) : event.isFilled = true := by
        have ended := ended holds
        rw [at_end] at ended
        exact ended
      exact saw_it.elim filled id

/-! ### Deliveries -/

omit [FloatFormat] in
/-- A delivery that is not ambiguous keeps the mirror right. -/
theorem Mirrors.deliver (mirrors : Mirrors symbol start w) {fetchedAt : Time}
    {reading : BrokerReading} {view : EquityView}
    (delivered : w.view.applyEquitySnapshot .hedging reading.balances fetchedAt w.clock = .ok view)
    (shows : (w.view.slot .hedging symbol).wouldApply .hedging fetchedAt →
      reported symbol reading = start + total (w.emitted.take w.processed)) :
    Mirrors symbol start { w with view := view } := by
  obtain ⟨after, applied, slots⟩ :=
    w.view.applyEquitySnapshot_slot .hedging reading.balances fetchedAt w.clock
  rw [delivered] at applied
  cases applied
  have slot := slots symbol
  have untouched : ∀ poll ∈ w.polls, poll ∈ w.polls ∨ (poll.fetchedAt ≤ w.clock ∧
      ∀ reading, poll.reading = some reading → Saw symbol start w reading ∧
        ¬ w.FilledSince reading) := fun poll known => .inl known
  have mirror_eq (view : EquityView) : view.hedgingAvailable symbol =
      ((view.slot .hedging symbol).inventory.getD .empty).available .hedging := rfl
  cases report : (w.view.slot .hedging symbol).reported .hedging
      (reading.balances.lookup symbol) with
  | none =>
      simp only [EquityView.Slot.receive, report] at slot
      refine mirrors.same (Nat.le_refl _) (by rw [slot]) (by rw [slot]) (fun tracked => ?_) untouched
      rw [mirror_eq, slot]
      exact mirrors.mirror (by rwa [← slot])
  | some amount =>
      by_cases applies : (w.view.slot .hedging symbol).wouldApply .hedging fetchedAt
      · simp only [EquityView.Slot.receive, report, applies, if_true] at slot
        refine mirrors.same (Nat.le_refl _) (by rw [slot]) (by rw [slot]) (fun _ => ?_) untouched
        have value : amount = reported symbol reading := by
          unfold EquityView.Slot.reported at report
          unfold reported
          cases listed : reading.balances.lookup symbol with
          | none =>
              rw [listed] at report
              simp only [Option.isSome_none, Bool.false_eq_true, if_false] at report
              split at report
              · cases report
                rfl
              · cases report
          | some found =>
              rw [listed] at report
              cases report
              rfl
        rw [mirror_eq, slot, ← shows applies, ← value]
        simp [Inventory.available]
      · simp only [EquityView.Slot.receive, report, applies] at slot
        refine mirrors.same (Nat.le_refl _) (by rw [slot]; rfl) (by rw [slot]; rfl)
          (fun tracked => ?_) untouched
        rw [mirror_eq, slot]
        exact mirrors.mirror (by rwa [slot] at tracked)

omit [FloatFormat] in
/-- A closed order holds nothing. -/
theorem Mirrors.ledger_closed (mirrors : Mirrors symbol start w) {order : BrokerOrder}
    (opened : w.order = some order) (closed : order.closed = true) :
    w.available = start + total w.emitted + order.moved := by
  have ledger := mirrors.ledger
  have released : order.held = 0 := by
    unfold BrokerOrder.held
    cases order.direction <;> simp [closed]
  simpa [opened, released] using ledger

omit [FloatFormat] in
/-- An order that failed or was cancelled moved nothing. -/
theorem Mirrors.unexecuted (mirrors : Mirrors symbol start w) {order : BrokerOrder}
    {event : PositionEvent} (opened : w.order = some order)
    (ended : HedgingWorld.unexecuted order = true) (kind : event.isOrderEvent = true)
    (ends : event.isPlaced = false) (unmoved : event.executed = 0) :
    Mirrors symbol start (w.settle event) := by
  simp only [HedgingWorld.unexecuted, Bool.and_eq_true, decide_eq_true_eq] at ended
  refine mirrors.emit kind ends (fun _ same => by cases same) ?_ fun other is_open some => ?_
  · rw [mirrors.ledger_closed opened ended.1, total_concat, unmoved, BrokerOrder.moved, ended.2]
    simp
  · rw [opened] at is_open
    cases is_open
    rw [ended.2] at some
    exact absurd some (lt_irrefl 0)

omit [FloatFormat] in
/-- The mirror is the balance held at the venue. -/
theorem hedgingAvailable_eq (view : EquityView) :
    view.hedgingAvailable symbol =
      (((view.slot .hedging symbol).held .hedging).getD .zero).available := by
  simp only [EquityView.hedgingAvailable, EquityView.equity, EquityView.slot, EquityView.Slot.held]
  cases view.equities.lookup symbol <;> rfl

/-! ### The order at the broker -/

section Order

variable {w' : HedgingWorld} (mirrors : Mirrors symbol start w)
include mirrors

theorem Mirrors.place {id : OffchainOrderId} {shares : Positive} {direction : Direction}
    {executor : SupportedExecutor} {reason : TriggerReason}
    (acted : w.act symbol (.place id shares direction executor reason) = some w') :
    Mirrors symbol start w' := by
  have ledger := mirrors.ledger
  simp only [act] at acted
  split at acted
  · cases acted
  case h_2 vacant =>
    cases acted
    refine mirrors.emit rfl rfl (fun placed same => by cases same; rfl) ?_ (by simp [vacant])
    rw [vacant] at ledger
    simp only [Option.elim_none] at ledger
    rw [total_concat]
    cases direction <;>
      simpa [BrokerOrder.held, BrokerOrder.moved, PositionEvent.executed] using ledger

theorem Mirrors.accept (acted : w.act symbol .accept = some w') : Mirrors symbol start w' := by
  simp only [act] at acted
  split at acted
  · cases acted
  case h_2 order opened =>
    split at acted
    · cases acted
    case isFalse fresh =>
      simp only [Bool.or_eq_true, not_or, Bool.not_eq_true] at fresh
      split at acted
      case h_1 buys =>
        cases acted
        refine mirrors.broker opened (le_refl _) (fun never => by cases never) ?_
        simp [BrokerOrder.held, BrokerOrder.moved, buys]
      case h_2 sells =>
        split at acted
        · cases acted
        cases acted
        have unmoved := mirrors.unaccepted order opened fresh.1
        refine mirrors.broker opened (le_refl _) (fun never => by cases never) ?_
        simp [BrokerOrder.held, BrokerOrder.moved, sells, fresh.1, fresh.2, unmoved]

theorem Mirrors.execute {quantity : Positive} (acted : w.act symbol (.execute quantity) = some w') :
    Mirrors symbol start w' := by
  simp only [act] at acted
  split at acted
  · cases acted
  case h_2 order opened =>
    split at acted
    · cases acted
    case isFalse working =>
      simp only [Bool.or_eq_true, Bool.not_eq_true', not_or, Bool.not_eq_false,
        Bool.not_eq_true] at working
      have grows : order.executed ≤ order.executed + quantity.inner :=
        le_add_of_nonneg_right (le_of_lt quantity.pos)
      have accepted : order.accepted = false → order.executed + quantity.inner = 0 := by
        intro never
        rw [working.1] at never
        cases never
      split at acted
      case h_1 buys =>
        cases acted
        refine mirrors.broker opened grows accepted ?_
        simp only [BrokerOrder.held, BrokerOrder.moved, buys, Direction.sign]
        ring
      case h_2 sells =>
        split at acted
        · cases acted
        cases acted
        have same : ({ w with
            order := some { order with executed := order.executed + quantity.inner } } :
              HedgingWorld) =
            { w with
              order := some { order with executed := order.executed + quantity.inner }
              available := w.available } := rfl
        rw [same]
        refine mirrors.broker opened grows accepted ?_
        simp only [BrokerOrder.held, BrokerOrder.moved, sells, working.1, working.2,
          Direction.sign, Bool.not_false, Bool.and_self, if_true]
        ring

theorem Mirrors.close (acted : w.act symbol .close = some w') : Mirrors symbol start w' := by
  simp only [act] at acted
  split at acted
  · cases acted
  case h_2 order opened =>
    split at acted
    · cases acted
    case isFalse working =>
      cases acted
      refine mirrors.broker opened (le_refl _) (mirrors.unaccepted order opened) ?_
      have released : ({ order with closed := true } : BrokerOrder).held = 0 := by
        cases order.direction <;> simp [BrokerOrder.held]
      rw [released]
      simp only [BrokerOrder.moved]
      ring

theorem Mirrors.fill {executorOrderId : ExecutorOrderId} {price : Usd} {brokerTimestamp : Time}
    (acted : w.act symbol (.fill executorOrderId price brokerTimestamp) = some w') :
    Mirrors symbol start w' := by
  simp only [act] at acted
  split at acted
  · cases acted
  case h_2 order opened =>
    split at acted
    case isFalse => cases acted
    case isTrue closed =>
      obtain ⟨sharesFilled, positive, rfl⟩ := Option.map_eq_some_iff.mp acted
      refine mirrors.emit rfl rfl (fun _ same => by cases same) ?_ fun _ _ _ => rfl
      rw [mirrors.ledger_closed opened closed, total_concat, PositionEvent.executed,
        Positive.new_eq_some.mp positive, BrokerOrder.moved]
      simp only [Option.elim_none]
      ring

/-- A poll reads what the broker has. -/
theorem Mirrors.read {i : Nat} {balances : Balances}
    (acted : w.act symbol (.read i balances) = some w') : Mirrors symbol start w' := by
  simp only [act] at acted
  split at acted
  case h_2 => cases acted
  case h_1 fetchedAt found =>
    split at acted
    case isFalse => cases acted
    case isTrue answered =>
      cases acted
      refine mirrors.same (Nat.le_refl _) rfl rfl mirrors.mirror fun poll mem => ?_
      rcases List.mem_or_eq_of_mem_set mem with known | rfl
      · exact .inl known
      · have stamped : fetchedAt ≤ w.clock := mirrors.stamps _ (List.mem_of_getElem? found)
        refine .inr ⟨stamped, fun reading read => ?_⟩
        cases read
        exact ⟨saw_now mirrors answered, not_filledSince_now mirrors⟩

end Order

/-- Every step that is not ambiguous keeps the mirror right. -/
theorem Mirrors.step (exact : FloatFormat.IsExact) {step : HedgingStep} {w' : HedgingWorld}
    (mirrors : Mirrors symbol start w) (clear : w.Unambiguous symbol step)
    (acted : w.act symbol step = some w') : Mirrors symbol start w' := by
  cases step with
  | place => exact mirrors.place acted
  | accept => exact mirrors.accept acted
  | execute => exact mirrors.execute acted
  | close => exact mirrors.close acted
  | fill => exact mirrors.fill acted
  | fail error =>
      simp only [act] at acted
      split at acted
      · cases acted
      case h_2 order opened =>
        split at acted
        case isFalse => cases acted
        case isTrue ended =>
          cases acted
          exact mirrors.unexecuted opened ended rfl rfl rfl
  | cancel reason =>
      simp only [act] at acted
      split at acted
      · cases acted
      case h_2 order opened =>
        split at acted
        case isFalse => cases acted
        case isTrue ended =>
          cases acted
          exact mirrors.unexecuted opened ended rfl rfl rfl
  | process =>
      obtain ⟨event, next, rfl⟩ := Option.map_eq_some_iff.mp acted
      refine mirrors.process exact next fun id shares direction executorOrderId price time same => ?_
      rw [same] at next
      simp only [Unambiguous, next] at clear
      exact clear
  | stamp =>
      cases acted
      refine mirrors.same (Nat.le_refl _) rfl rfl mirrors.mirror fun poll mem => ?_
      rcases List.mem_append.mp mem with known | new
      · exact .inl known
      · rw [List.mem_singleton.mp new]
        exact .inr ⟨Nat.le_refl _, fun reading read => by cases read⟩
  | read => exact mirrors.read acted
  | deliver i =>
      simp only [act] at acted
      split at acted
      case h_2 => cases acted
      case h_1 fetchedAt reading found =>
        have mem := List.mem_of_getElem? found
        split at acted
        case h_2 => cases acted
        case h_1 view delivered =>
          cases acted
          refine mirrors.deliver delivered fun applies => ?_
          simp only [Unambiguous, found] at clear
          obtain ⟨processed, apart, ended⟩ := clear applies
          exact mirrors.shows mem rfl applies processed apart ended
  | tick passed =>
      cases acted
      exact mirrors.same (Nat.le_add_right _ _) rfl rfl mirrors.mirror fun poll known => .inl known
  | elsewhere view =>
      simp only [act] at acted
      split at acted
      case isFalse => cases acted
      case isTrue same =>
        cases acted
        obtain ⟨held, watermark, pending, lastFill⟩ := same
        refine mirrors.same (Nat.le_refl _) pending lastFill (fun tracked => ?_)
          fun poll known => .inl known
        rw [hedgingAvailable_eq, held, ← hedgingAvailable_eq]
        exact mirrors.mirror (by rwa [← watermark])

/-! ## Runs -/

/-- In every run without an ambiguous step the mirror shows what the broker has,
whenever no order is open and the reactor is done. -/
theorem mirror_shows_broker (exact : FloatFormat.IsExact) {steps : List HedgingStep}
    {w' : HedgingWorld} (fresh : w.Fresh symbol)
    (clear : Throughout (act symbol) (Unambiguous symbol) w steps)
    (ran : runSteps (act symbol) w steps = some w') (idle : w'.Idle)
    (tracked : (w'.view.slot .hedging symbol).watermark.isSome) :
    w'.view.hedgingAvailable symbol = w'.available := by
  have mirrors : Mirrors symbol w.available w' :=
    runSteps_invariant (fun s step t holds meets acted => holds.step exact meets acted)
      fresh.mirrors clear ran
  exact mirrors.idle idle tracked

/-- Ten shares at the broker, none of them known to the view. -/
def tenShares : HedgingWorld := ⟨.empty, 0, 10, none, [], 0, []⟩

def fiveShares : Positive := ⟨5, Positive.five_pos⟩

/-- A first poll is delivered; then a sell of five is placed and accepted, and a
poll reads while its shares are held. -/
def readWhileHeld : List HedgingStep :=
  [.stamp, .read 0 (.singleton "AAPL" 10), .deliver 0, .tick 1,
    .place ⟨1⟩ fiveShares .sell .alpacaBrokerApi (.sharesThreshold 5 1), .process, .accept,
    .stamp, .read 1 (.singleton "AAPL" 5), .tick 1]

/-- The sell executes and its fill is processed; the poll comes after that. -/
def thenFilled : List HedgingStep :=
  [.execute fiveShares, .close, .fill ⟨"broker-1"⟩ 200 1, .process, .deliver 1]

/-- The sell is cancelled and the cancellation is processed; the poll comes after that. -/
def thenCancelled : List HedgingStep :=
  [.close, .cancel .unrequested, .process, .deliver 1]

/-- The shares in the view and at the broker, once nothing is open or waiting. -/
def compared (w : HedgingWorld) : Option (ℚ × ℚ) :=
  if w.order = none ∧ w.processed = w.emitted.length ∧
      (w.view.slot .hedging "AAPL").watermark.isSome then
    some (w.view.hedgingAvailable "AAPL", w.available)
  else none

omit [FloatFormat] in
theorem compared_eq_some {w : HedgingWorld} {mirror broker : ℚ}
    (same : w.compared = some (mirror, broker)) :
    w.Idle ∧ (w.view.slot .hedging "AAPL").watermark.isSome ∧
      w.view.hedgingAvailable "AAPL" = mirror ∧ w.available = broker := by
  unfold compared at same
  split at same
  case isTrue settled =>
    cases same
    exact ⟨⟨settled.1, settled.2.1⟩, settled.2.2, rfl, rfl⟩
  case isFalse => cases same

omit [FloatFormat] in
theorem mirror_shows_broker_filled :
    ∃ w, runSteps (@act .exact "AAPL") tenShares (readWhileHeld ++ thenFilled) = some w ∧
      w.available = 5 ∧ w.view.hedgingAvailable "AAPL" = w.available := by
  have outcome : (runSteps (@act .exact "AAPL") tenShares (readWhileHeld ++ thenFilled)).bind
      compared = some (5, 5) := by decide +kernel
  obtain ⟨w, ran, same⟩ := Option.bind_eq_some_iff.mp outcome
  obtain ⟨idle, tracked, _, broker⟩ := compared_eq_some same
  refine ⟨w, ran, broker, ?_⟩
  exact @mirror_shows_broker .exact "AAPL" tenShares FloatFormat.exact_isExact
    (readWhileHeld ++ thenFilled) w ⟨rfl, rfl, rfl, rfl, rfl, rfl⟩ (by decide +kernel) ran idle
    tracked

omit [FloatFormat] in
/-- The reading saw five shares held and passes the guards once the cancellation
released the symbol: the mirror is left short of them. -/
theorem reading_stands_after_cancellation :
    ∃ w, runSteps (@act .exact "AAPL") tenShares (readWhileHeld ++ thenCancelled) = some w ∧
      w.Idle ∧ (w.view.slot .hedging "AAPL").watermark.isSome ∧
      w.view.hedgingAvailable "AAPL" = 5 ∧ w.available = 10 := by
  have outcome : (runSteps (@act .exact "AAPL") tenShares (readWhileHeld ++ thenCancelled)).bind
      compared = some (5, 10) := by decide +kernel
  obtain ⟨w, ran, same⟩ := Option.bind_eq_some_iff.mp outcome
  exact ⟨w, ran, compared_eq_some same⟩

end HedgingWorld

end Liquidity
