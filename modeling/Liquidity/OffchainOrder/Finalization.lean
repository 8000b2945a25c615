import Liquidity.OffchainOrder.Aggregate

/-!
# How an ended order finalizes its position

The shared classifier turns an ended order into the one position command that
accounts for it: complete it with the fill it has, or release the claim when
there is none. A positive fill without a price blocks, because it can be
neither recorded nor dropped.

The second half is about orders over time. `Evolved` relates an order to any
later state of it: an order that has ended never changes again, the terms of an
order are fixed up to the quantity the broker accepts, and the quantity is fixed
from then on. Every accepted command leads to an evolved order, so a stored
order is never lost.
-/

namespace Liquidity

open EventSourcing

/-- How a terminal order without a fill ended. -/
inductive NoFillOutcome where
  | cancelled (reason : CancellationReason) (cancelledAt : Time)
  | failed (error : String)
  deriving DecidableEq

inductive TerminalPositionFinalization where
  | complete (sharesFilled : Positive) (direction : Direction) (executorOrderId : ExecutorOrderId)
      (price : Usd) (brokerTimestamp : Time)
  | noFill (outcome : NoFillOutcome)
  | unpricedFill (sharesFilled : FractionalShares)
  deriving DecidableEq

def positionCommandForFinalization (finalization : TerminalPositionFinalization)
    (offchainOrderId : OffchainOrderId) : Option PositionCommand :=
  match finalization with
  | .complete sharesFilled direction executorOrderId price brokerTimestamp =>
      some (.completeOffChainOrder offchainOrderId sharesFilled direction executorOrderId price
        brokerTimestamp)
  | .noFill (.cancelled reason cancelledAt) =>
      some (.cancelOffChainOrder offchainOrderId reason cancelledAt)
  | .noFill (.failed error) => some (.failOffChainOrder offchainOrderId error)
  | .unpricedFill _ => none

/-- A priced positive fill completes, an unpriced one blocks, none at all releases. -/
def classifyTerminalFill (retainedFill : Option RetainedFill) (direction : Direction)
    (executorOrderId : ExecutorOrderId) (noFill : NoFillOutcome) : TerminalPositionFinalization :=
  match retainedFill with
  | some (.priced sharesFilled avgPrice partiallyFilledAt) =>
      match Positive.new sharesFilled with
      | none => .noFill noFill
      | some positive => .complete positive direction executorOrderId avgPrice partiallyFilledAt
  | some (.unpriced sharesFilled) =>
      if (Positive.new sharesFilled).isSome then .unpricedFill sharesFilled else .noFill noFill
  | none => .noFill noFill

def terminalPositionFinalization : OffchainOrder → Option TerminalPositionFinalization
  | .filled terms executorOrderId price _ filledAt =>
      some (.complete terms.shares terms.direction executorOrderId price filledAt)
  | .cancelled terms retainedFill executorOrderId reason cancelledAt =>
      some (classifyTerminalFill retainedFill terms.direction executorOrderId
        (.cancelled reason cancelledAt))
  | .failed terms retainedFill (some executorOrderId) error _ =>
      some (classifyTerminalFill retainedFill terms.direction executorOrderId (.failed error))
  | .failed _ _ none error _ => some (.noFill (.failed error))
  | .pending .. | .submitted .. | .partiallyFilled .. | .cancelling .. => none

/-- The position command a terminal order calls for, if it can be finalized. -/
def finalizingCommand (order : OffchainOrder) (offchainOrderId : OffchainOrderId) :
    Option PositionCommand :=
  (terminalPositionFinalization order).bind
    (positionCommandForFinalization · offchainOrderId)

namespace OffchainOrder

def isTerminal : OffchainOrder → Bool
  | .filled .. | .failed .. | .cancelled .. => true
  | _ => false

def isPending : OffchainOrder → Bool
  | .pending .. => true
  | _ => false

/-- The broker order that stands behind an order, once one is known. -/
def pointsAt : OffchainOrder → Option ExecutorOrderId
  | .submitted _ id _ _ | .partiallyFilled _ _ id _ _ _ _ | .cancelling _ _ id _ _ _ _
  | .filled _ id _ _ _ | .cancelled _ _ id _ _ => some id
  | .failed _ _ id _ _ => id
  | .pending .. => none

/-- The fill an order has recorded so far, in whatever state it is. -/
def recordedFill : OffchainOrder → Option RetainedFill
  | .partiallyFilled _ sharesFilled _ avgPrice _ partiallyFilledAt _ =>
      some (.priced sharesFilled avgPrice partiallyFilledAt)
  | .cancelling _ retainedFill _ _ _ _ _ | .failed _ retainedFill _ _ _
  | .cancelled _ retainedFill _ _ _ => retainedFill
  | .pending .. | .submitted .. | .filled .. => none

/-- A recorded fill that has a price and is positive. -/
def pricedFill : Option RetainedFill → Option Positive
  | some (.priced sharesFilled _ _) => Positive.new sharesFilled
  | _ => none

/-- The fill of an ended order that its position has to be credited with. -/
def terminalFill : OffchainOrder → Option Positive
  | .filled terms .. => some terms.shares
  | .failed _ retainedFill _ _ _ | .cancelled _ retainedFill _ _ _ => pricedFill retainedFill
  | _ => none

/-- A failed order with a fill knows which broker order made it. -/
def Coherent : OffchainOrder → Prop
  | .failed _ retainedFill none _ _ => retainedFill = none
  | _ => True

theorem pricedFill_eq_some {retainedFill : Option RetainedFill} {shares : Positive}
    (h : pricedFill retainedFill = some shares) :
    ∃ avgPrice at_, retainedFill = some (.priced shares.inner avgPrice at_) := by
  match retainedFill with
  | some (.priced sharesFilled avgPrice at_) =>
      obtain rfl := Positive.new_eq_some.mp h
      exact ⟨avgPrice, at_, rfl⟩
  | some (.unpriced _) => cases h
  | none => cases h

/-- The classifier completes an order exactly with its fill. -/
theorem finalizingCommand_of_fill {order : OffchainOrder} (coherent : order.Coherent)
    {shares : Positive} (filled : order.terminalFill = some shares) (id : OffchainOrderId) :
    ∃ executorOrderId price brokerTimestamp,
      finalizingCommand order id = some (.completeOffChainOrder id shares order.direction
        executorOrderId price brokerTimestamp) := by
  have positive : Positive.new shares.inner = some shares := Positive.new_eq_some.mpr rfl
  cases order with
  | filled terms executorOrderId price submittedAt filledAt =>
      cases filled
      exact ⟨executorOrderId, price, filledAt, rfl⟩
  | cancelled terms retainedFill executorOrderId reason cancelledAt =>
      obtain ⟨avgPrice, at_, rfl⟩ := pricedFill_eq_some filled
      exact ⟨executorOrderId, avgPrice, at_, by
        simp [finalizingCommand, terminalPositionFinalization, classifyTerminalFill, positive,
          positionCommandForFinalization, direction, OffchainOrder.terms]⟩
  | failed terms retainedFill executorOrderId error failedAt =>
      obtain ⟨avgPrice, at_, rfl⟩ := pricedFill_eq_some filled
      cases executorOrderId with
      | none => cases coherent
      | some executorOrderId =>
          exact ⟨executorOrderId, avgPrice, at_, by
            simp [finalizingCommand, terminalPositionFinalization, classifyTerminalFill, positive,
              positionCommandForFinalization, direction, OffchainOrder.terms]⟩
  | pending | submitted | partiallyFilled | cancelling => cases filled

/-- The command finishes the order for its position: it completes it in its
direction and names the broker order behind it, or releases it without a fill. -/
def Finishes (command : PositionCommand) (id : OffchainOrderId) (order : OffchainOrder) : Prop :=
  (∃ shares executorOrderId price brokerTimestamp,
      command = .completeOffChainOrder id shares order.direction executorOrderId price
        brokerTimestamp ∧ order.pointsAt = some executorOrderId) ∨
    (∃ reason cancelledAt, command = .cancelOffChainOrder id reason cancelledAt) ∨
    ∃ error, command = .failOffChainOrder id error

/-- The classifier's command finishes the order it was computed from. -/
theorem finalizingCommand_finishes {order : OffchainOrder} {id : OffchainOrderId}
    {command : PositionCommand} (h : finalizingCommand order id = some command) :
    Finishes command id order := by
  obtain ⟨finalization, classified, mapped⟩ := Option.bind_eq_some_iff.mp h
  have inDirection : ∀ shares direction executorOrderId price brokerTimestamp,
      finalization = .complete shares direction executorOrderId price brokerTimestamp →
        direction = order.direction ∧ order.pointsAt = some executorOrderId := by
    rintro shares direction executorOrderId price brokerTimestamp rfl
    unfold terminalPositionFinalization at classified
    split at classified <;> try cases classified
    · exact ⟨rfl, rfl⟩
    all_goals
      simp only [Option.some.injEq, classifyTerminalFill] at classified
      split at classified
      · split at classified <;> cases classified
        exact ⟨rfl, rfl⟩
      · split at classified <;> cases classified
      · cases classified
  match finalization with
  | .complete shares direction executorOrderId price brokerTimestamp =>
      cases mapped
      obtain ⟨rfl, points⟩ := inDirection _ _ _ _ _ rfl
      exact .inl ⟨_, _, _, _, rfl, points⟩
  | .noFill (.cancelled reason cancelledAt) =>
      cases mapped
      exact .inr (.inl ⟨_, _, rfl⟩)
  | .noFill (.failed error) =>
      cases mapped
      exact .inr (.inr ⟨_, rfl⟩)
  | .unpricedFill _ => cases mapped

theorem finalizingCommand_isTerminal {order : OffchainOrder} {id : OffchainOrderId}
    {command : PositionCommand} (h : finalizingCommand order id = some command) :
    order.isTerminal := by
  cases order <;> first | rfl | cases h

/-! ## Orders over time -/

/-- What stays of an order in every later state of it. -/
structure Evolved (order later : OffchainOrder) : Prop where
  terminal : order.isTerminal → later = order
  symbol : later.symbol = order.symbol
  direction : later.direction = order.direction
  submitted : order.isPending = false →
    later.isPending = false ∧ later.terms = order.terms ∧ later.pointsAt = order.pointsAt

theorem Evolved.refl (order : OffchainOrder) : Evolved order order :=
  ⟨fun _ => rfl, rfl, rfl, fun left => ⟨left, rfl, rfl⟩⟩

theorem Evolved.trans {first second third : OffchainOrder} (before : Evolved first second)
    (after : Evolved second third) : Evolved first third where
  terminal := fun ended => by
    obtain rfl := before.terminal ended
    exact after.terminal ended
  symbol := after.symbol.trans before.symbol
  direction := after.direction.trans before.direction
  submitted := fun left => by
    obtain ⟨left', terms, points⟩ := before.submitted left
    obtain ⟨left'', terms', points'⟩ := after.submitted left'
    exact ⟨left'', terms'.trans terms, points'.trans points⟩

/-- One event leads to an evolved, coherent order. -/
theorem evolve_evolved {order next : OffchainOrder} {event : OffchainOrderEvent}
    (coherent : order.Coherent) (h : order.evolve event = .ok (some next)) :
    Evolved order next ∧ next.Coherent := by
  cases event <;> cases order <;>
    simp only [evolve, evolveAccepted, evolvePartiallyFilled, evolveFilled, evolveCancelRequested,
      evolveFailed, evolveCancelled, Except.ok.injEq, reduceCtorEq, Option.some.injEq] at h <;>
    subst h <;>
    exact ⟨⟨by simp [isTerminal], rfl, rfl, by simp [isPending, OffchainOrder.terms, pointsAt]⟩,
      by simp_all [Coherent]⟩

/-- The order a stored stream stands for is coherent. -/
theorem lifecycle_coherent {stream : List OffchainOrderEvent} {order : OffchainOrder}
    (h : aggregate.lifecycle stream = .live order) : order.Coherent := by
  induction stream using List.reverseRecOn generalizing order with
  | nil => cases h
  | append_singleton rest event ih =>
      rw [Aggregate.lifecycle_append] at h
      cases before : aggregate.lifecycle rest with
      | failed => simp [before] at h
      | uninitialized =>
          simp only [before, Aggregate.replay_cons, Aggregate.replay_nil, Aggregate.apply] at h
          cases event <;> simp only [aggregate, originate, reduceCtorEq] at h
          cases h
          trivial
      | live earlier =>
          simp only [before, Aggregate.replay_cons, Aggregate.replay_nil, Aggregate.apply] at h
          split at h
          case h_1 next evolved =>
            cases h
            exact (evolve_evolved (ih before) evolved).2
          case h_2 => cases h

/-- Replaying events on an order leads to an evolved order. -/
theorem replay_evolved {order next : OffchainOrder} {events : List OffchainOrderEvent}
    (coherent : order.Coherent) (h : aggregate.replay (.live order) events = .live next) :
    Evolved order next := by
  induction events generalizing order with
  | nil =>
      cases h
      exact Evolved.refl _
  | cons event rest ih =>
      rw [Aggregate.replay_cons] at h
      simp only [Aggregate.apply] at h
      split at h
      case h_1 middle evolved =>
        obtain ⟨step, kept⟩ := evolve_evolved coherent evolved
        exact step.trans (ih kept h)
      case h_2 => simp at h

/-- An order the broker may still fill and that nobody asked to cancel. -/
def isOpen : OffchainOrder → Bool
  | .submitted .. | .partiallyFilled .. => true
  | _ => false

/-- What a reconciliation with the broker may record: a fill, an ending, or both. -/
def Reconciles (events : List OffchainOrderEvent) : Prop :=
  ∃ fill ending : List OffchainOrderEvent, events = fill ++ ending ∧
    (fill = [] ∨ ∃ sharesFilled avgPrice at_, fill = [.partiallyFilled sharesFilled avgPrice at_]) ∧
    (ending = [] ∨ ∃ event, ending = [event] ∧ isTerminalEvent event)

theorem Reconciles.nil : Reconciles [] := ⟨[], [], rfl, .inl rfl, .inl rfl⟩

theorem Reconciles.fill (sharesFilled : FractionalShares) (avgPrice : Usd) (at_ : Time) :
    Reconciles [.partiallyFilled sharesFilled avgPrice at_] :=
  ⟨[_], [], rfl, .inr ⟨_, _, _, rfl⟩, .inl rfl⟩

theorem Reconciles.ending {event : OffchainOrderEvent} (terminal : isTerminalEvent event) :
    Reconciles [event] :=
  ⟨[], [event], rfl, .inl rfl, .inr ⟨event, rfl, terminal⟩⟩

theorem Reconciles.fill_ending (sharesFilled : FractionalShares) (avgPrice : Usd) (at_ : Time)
    {event : OffchainOrderEvent} (terminal : isTerminalEvent event) :
    Reconciles [.partiallyFilled sharesFilled avgPrice at_, event] :=
  ⟨[_], [event], rfl, .inr ⟨_, _, _, rfl⟩, .inr ⟨event, rfl, terminal⟩⟩

theorem reconcileTerminalFill_reconciles {executorOrderId : ExecutorOrderId}
    {localFilled sharesFilled : Option FractionalShares} {avgPrice : Option Usd}
    {brokerTimestamp : Time} {terminalEvent : OffchainOrderEvent}
    {events : List OffchainOrderEvent} (terminal : isTerminalEvent terminalEvent)
    (h : reconcileTerminalFill executorOrderId localFilled sharesFilled avgPrice brokerTimestamp
      terminalEvent = .ok events) : Reconciles events := by
  unfold reconcileTerminalFill at h
  repeat' split at h
  all_goals cases h
  all_goals first
    | exact Reconciles.ending terminal
    | exact Reconciles.fill_ending _ _ _ terminal

theorem reconcilePreCancel_reconciles {services : OrderServices}
    {executorOrderId : ExecutorOrderId} {localFilled : Option FractionalShares}
    {reason : CancellationReason} {events : List OffchainOrderEvent}
    (h : reconcilePreCancel services executorOrderId localFilled reason = .ok events) :
    Reconciles events := by
  unfold reconcilePreCancel at h
  split at h
  case h_1 => cases h
  case h_2 =>
      repeat' split at h
      all_goals cases h
      all_goals first | exact Reconciles.nil | exact Reconciles.fill _ _ _
  case h_3 =>
      cases h
      exact Reconciles.ending rfl
  case h_4 => exact reconcileTerminalFill_reconciles rfl h
  case h_5 => exact reconcileTerminalFill_reconciles rfl h
  all_goals
    cases h
    exact Reconciles.nil

/-- An open order takes a fill and stays open, and takes an ending. -/
theorem replay_fill_of_isOpen {order : OffchainOrder} (isOpen : order.isOpen)
    {fill : List OffchainOrderEvent}
    (shape : fill = [] ∨ ∃ sharesFilled avgPrice at_,
      fill = [.partiallyFilled sharesFilled avgPrice at_]) :
    ∃ next, aggregate.replay (.live order) fill = .live next ∧ next.isOpen := by
  rcases shape with rfl | ⟨sharesFilled, avgPrice, at_, rfl⟩
  · exact ⟨order, rfl, isOpen⟩
  · cases order <;> first | exact ⟨_, rfl, rfl⟩ | cases isOpen

theorem replay_event_of_isOpen {order : OffchainOrder} (isOpen : order.isOpen)
    {event : OffchainOrderEvent}
    (shape : isTerminalEvent event ∨ ∃ reason at_, event = .cancelRequested reason at_) :
    ∃ next, aggregate.replay (.live order) [event] = .live next := by
  rcases shape with terminal | ⟨reason, at_, rfl⟩
  · cases order <;> first | (cases isOpen; done) | skip
    all_goals cases event <;> first | exact ⟨_, rfl⟩ | cases terminal
  · cases order <;> first | exact ⟨_, rfl⟩ | cases isOpen

/-- Whatever cancelling an open order records can be applied to it. -/
theorem cancelLiveOrderEvents_applies {services : OrderServices}
    {executorOrderId : ExecutorOrderId} {localFilled : Option FractionalShares}
    {reason : CancellationReason} {events : List OffchainOrderEvent} {order : OffchainOrder}
    (isOpen : order.isOpen)
    (h : cancelLiveOrderEvents services executorOrderId localFilled reason = .ok events) :
    ∃ next, aggregate.replay (.live order) events = .live next := by
  obtain ⟨reconciled, pre, rest⟩ := bind_eq_ok.mp h
  obtain ⟨fill, ending, rfl, fillShape, endingShape⟩ := reconcilePreCancel_reconciles pre
  obtain ⟨middle, filled, stillOpen⟩ := replay_fill_of_isOpen isOpen fillShape
  have fillQuiet : fill.any isTerminalEvent = false := by
    rcases fillShape with rfl | ⟨_, _, _, rfl⟩ <;> rfl
  rcases endingShape with rfl | ⟨event, rfl, terminal⟩
  · simp only [List.append_nil, fillQuiet, Bool.false_eq_true, if_false] at rest
    split at rest
    · cases rest
    · cases rest
      rw [Aggregate.replay_append, filled]
      exact replay_event_of_isOpen stillOpen (.inr ⟨_, _, rfl⟩)
    · cases rest
      rw [Aggregate.replay_append, filled]
      exact replay_event_of_isOpen stillOpen (.inl rfl)
  · simp only [List.any_append, List.any_cons, terminal, Bool.true_or, Bool.or_true, if_true] at rest
    cases rest
    rw [Aggregate.replay_append, filled]
    exact replay_event_of_isOpen stillOpen (.inl terminal)

/-- The batch of an accepted command can be applied to the order it was decided on. -/
theorem transition_applies {services : OrderServices} {order : OffchainOrder}
    {command : OffchainOrderCommand} {events : List OffchainOrderEvent}
    (h : order.transition services command = .ok events) :
    ∃ next, aggregate.replay (.live order) events = .live next := by
  cases command with
  | cancelOrder reason =>
      cases order with
      | submitted | partiallyFilled => exact cancelLiveOrderEvents_applies rfl h
      | cancelling =>
          cases h
          exact ⟨_, rfl⟩
      | pending | filled | failed | cancelled => cases h
  | place symbol shares direction executor clientOrderId kind =>
      simp only [transition, validatePlaceReplay] at h
      split at h <;> cases h
      exact ⟨_, rfl⟩
  | updatePartialFill sharesFilled avgPrice at_ =>
      cases order with
      | partiallyFilled | cancelling =>
          simp only [transition] at h
          split at h <;> cases h <;> exact ⟨_, rfl⟩
      | submitted =>
          cases h
          exact ⟨_, rfl⟩
      | pending | filled | failed | cancelled => cases h
  | confirmCancellation | completeFill | markAccepted | markPlacementFailed | markFailed =>
      cases order <;> cases h <;> exact ⟨_, rfl⟩

/-- A later stream of the same order. -/
def Continues (stream later : List OffchainOrderEvent) : Prop :=
  ∀ order, aggregate.lifecycle stream = .live order →
    ∃ next, aggregate.lifecycle later = .live next ∧ Evolved order next

theorem Continues.refl (stream : List OffchainOrderEvent) : Continues stream stream :=
  fun order live => ⟨order, live, Evolved.refl order⟩

theorem Continues.trans {first second third : List OffchainOrderEvent}
    (before : Continues first second) (after : Continues second third) : Continues first third := by
  intro order live
  obtain ⟨middle, live', step⟩ := before order live
  obtain ⟨next, live'', step'⟩ := after middle live'
  exact ⟨next, live'', step.trans step'⟩

/-- Sending a command continues the order. -/
theorem send_continues {services : OrderServices} {command : OffchainOrderCommand}
    {stream events : List OffchainOrderEvent}
    (sent : aggregate.send services command stream = .ok events) :
    Continues stream (stream ++ events) := by
  intro order live
  rcases aggregate.send_eq_ok.mp sent with ⟨absent, -⟩ | ⟨entity, present, produced⟩
  · rw [absent] at live
    cases live
  · obtain rfl : entity = order := by
      rw [present] at live
      cases live
      rfl
    obtain ⟨next, applied⟩ := transition_applies produced
    refine ⟨next, ?_, replay_evolved (lifecycle_coherent present) applied⟩
    rw [Aggregate.lifecycle_append, present, applied]

/-- A completed fill ends the order with the terms it had. -/
theorem send_completeFill {services : OrderServices} {price : Usd} {filledAt : Time}
    {stream events : List OffchainOrderEvent}
    (sent : aggregate.send services (.completeFill price filledAt) stream = .ok events) :
    ∃ earlier executorOrderId submittedAt, aggregate.lifecycle stream = .live earlier ∧
      aggregate.lifecycle (stream ++ events) =
        .live (.filled earlier.terms executorOrderId price submittedAt filledAt) := by
  rcases aggregate.send_eq_ok.mp sent with ⟨-, created⟩ | ⟨entity, present, produced⟩
  · cases created
  · rw [Aggregate.lifecycle_append, present]
    cases entity <;> cases produced
    all_goals exact ⟨_, _, _, rfl, rfl⟩

/-- A placement, first or repeated, leaves an order with its symbol and direction. -/
theorem send_place {services : OrderServices} {symbol : Symbol} {shares : Positive}
    {direction : Direction} {executor : SupportedExecutor} {key : ClientOrderId}
    {kind : CounterTradeOrderKind} {stream events : List OffchainOrderEvent}
    (sent : aggregate.send services (.place symbol shares direction executor key kind) stream =
      .ok events) :
    ∃ order, aggregate.lifecycle (stream ++ events) = .live order ∧ order.symbol = symbol ∧
      order.direction = direction := by
  rcases aggregate.send_eq_ok.mp sent with ⟨absent, created⟩ | ⟨entity, present, produced⟩
  · cases created
    rw [Aggregate.lifecycle_append, absent]
    exact ⟨_, rfl, rfl, rfl⟩
  · simp only [aggregate, transition, validatePlaceReplay] at produced
    split at produced <;> cases produced
    rename_i same
    simp only [Bool.or_eq_true, decide_eq_true_eq, not_or, not_ne_iff] at same
    exact ⟨entity, by simpa using present, same.1.1.symm, same.1.2.symm⟩

end OffchainOrder

end Liquidity
