import Liquidity.Inventory.View
import Liquidity.Position.Aggregate

/-!
# The position arm of the rebalancing reactor

Fills move balances of the view by what was executed. Hedge orders also mark
their symbol while they are open.
-/

namespace Liquidity

def Operator.inverse : Operator → Operator
  | .add => .remove
  | .remove => .add

/-- Buying adds to a balance. -/
def Operator.ofDirection : Direction → Operator
  | .buy => .add
  | .sell => .remove

def Operator.sign : Operator → ℚ
  | .add => 1
  | .remove => -1

@[simp] theorem Operator.sign_ofDirection (direction : Direction) :
    (Operator.ofDirection direction).sign = direction.sign := by
  cases direction <;> rfl

/-- When the event happened, by whatever clock recorded it. -/
def PositionEvent.timestamp : PositionEvent → Time
  | .initialized _ _ initializedAt => initializedAt
  | .onChainOrderFilled _ _ _ _ _ seenAt => seenAt
  | .onChainFillApplied _ appliedAt => appliedAt
  | .onChainFillSettled _ settledAt => settledAt
  | .offChainOrderPlaced _ _ _ _ _ placedAt => placedAt
  | .offChainOrderFilled _ _ _ _ _ brokerTimestamp => brokerTimestamp
  | .offChainOrderFailed _ _ failedAt => failedAt
  | .offChainOrderCancelled _ _ cancelledAt => cancelledAt
  | .thresholdUpdated _ _ updatedAt => updatedAt
  | .manualPositionAdjusted _ _ _ _ adjustedAt => adjustedAt

namespace EquityView

/-- What the reactor left behind: the view, the checks it enqueued, its error. -/
structure Reaction where
  view : EquityView
  checksEquity : Bool
  checksUsdc : Bool
  failed : Option InventoryError

variable [FloatFormat]

/-- Both legs of a fill, or neither. -/
def applyFill (view : EquityView) (symbol : Symbol) (venue : Venue) (direction : Direction)
    (quantity usdcValue : ℚ) (timestamp : Time) : Except InventoryError EquityView := do
  let operator := Operator.ofDirection direction
  let updated ← view.updateEquity symbol (Inventory.updateAvailable venue operator quantity)
    timestamp
  updated.updateUsdc (Inventory.updateAvailable venue operator.inverse usdcValue) timestamp

/-- `RebalancingService::react` on a position event. `now` is this host's clock. -/
def reactToPosition (view : EquityView) (symbol : Symbol) (now : Time) (event : PositionEvent) :
    Reaction :=
  match event with
  | .onChainOrderFilled _ amount direction priceUsdc _ _ =>
      match Decimal.mul priceUsdc amount with
      | .error error => ⟨view, false, false, some (.arithmetic error)⟩
      | .ok usdcValue =>
        match view.applyFill symbol .marketMaking direction amount usdcValue event.timestamp with
        | .ok updated => ⟨updated, true, true, none⟩
        | .error error => ⟨view, false, false, some error⟩
  | .offChainOrderFilled _ sharesFilled direction _ price _ =>
      match Decimal.mul price sharesFilled.inner with
      | .error error => ⟨view, false, false, some (.arithmetic error)⟩
      | .ok usdcValue =>
        match view.applyFill symbol .hedging direction sharesFilled.inner usdcValue
            event.timestamp with
        | .ok updated => ⟨updated.clearOffchainOrderPending symbol (some now), true, true, none⟩
        -- The mark is cleared all the same, or the symbol would stay blocked.
        | .error _ => ⟨view.clearOffchainOrderPending symbol none, true, false, none⟩
  | .offChainOrderPlaced .. => ⟨view.markOffchainOrderPending symbol, false, false, none⟩
  | .offChainOrderFailed .. => ⟨view.clearOffchainOrderPending symbol none, true, false, none⟩
  | .offChainOrderCancelled .. => ⟨view.clearOffchainOrderPending symbol none, true, false, none⟩
  | .manualPositionAdjusted .. => ⟨view, true, false, none⟩
  | .initialized .. => ⟨view, false, false, none⟩
  | .thresholdUpdated .. => ⟨view, false, false, none⟩
  | .onChainFillApplied .. => ⟨view, false, false, none⟩
  | .onChainFillSettled .. => ⟨view, false, false, none⟩

/-- The mirror's Hedging balances cover what a fill takes from them. -/
def Covers (view : EquityView) (symbol : Symbol) (direction : Direction) (quantity cost : ℚ) :
    Prop :=
  match direction with
  | .buy => cost ≤ view.usdc.available .hedging
  | .sell => quantity ≤ (view.equity symbol).available .hedging

instance (view : EquityView) (symbol : Symbol) (direction : Direction) (quantity cost : ℚ) :
    Decidable (view.Covers symbol direction quantity cost) := by
  unfold Covers
  cases direction <;> infer_instance

omit [FloatFormat] in
/-- The mirror of the shares the broker has available. -/
def hedgingAvailable (view : EquityView) (symbol : Symbol) : FractionalShares :=
  (view.equity symbol).available .hedging

section Exact

variable (exact : FloatFormat.IsExact)
include exact

theorem updateAvailable_exact {inventory : Inventory} {venue : Venue} {op : Operator} {amount : ℚ}
    (covers : op = .remove → amount ≤ inventory.available venue) :
    Inventory.updateAvailable venue op amount inventory = .ok (inventory.setVenue venue
      (some ⟨inventory.available venue + op.sign * amount, inventory.inflight venue⟩)) := by
  unfold Inventory.updateAvailable
  cases op with
  | add =>
      simp only [Inventory.credit_exact exact, Operator.sign, one_mul]
      rfl
  | remove =>
      have enough : amount ≤ (inventory.balance venue).available := covers rfl
      have taken : inventory.available venue + (-1) * amount =
          (inventory.balance venue).available - amount := by
        rw [Inventory.available]
        ring
      simp only [VenueBalance.removeAvailable_exact exact enough, Operator.sign, taken]
      rfl

/-- A fill that the venue covers moves its two balances by what was executed. -/
theorem applyFill_exact {view : EquityView} {symbol : Symbol} {venue : Venue}
    {direction : Direction} {quantity cost : ℚ}
    (shares : direction = .sell → quantity ≤ (view.equity symbol).available venue)
    (cash : direction = .buy → cost ≤ view.usdc.available venue) (timestamp : Time) :
    view.applyFill symbol venue direction quantity cost timestamp = .ok
      { view with
        equities := view.equities.insert symbol ((view.equity symbol).setVenue venue
          (some ⟨(view.equity symbol).available venue + direction.sign * quantity,
            (view.equity symbol).inflight venue⟩))
        usdc := view.usdc.setVenue venue (some ⟨view.usdc.available venue +
            -direction.sign * cost, view.usdc.inflight venue⟩)
        lastUpdated := timestamp } := by
  have equityMoves := updateAvailable_exact exact
    (show Operator.ofDirection direction = .remove →
      quantity ≤ (view.equity symbol).available venue by
        intro removes
        cases direction with
        | buy => cases removes
        | sell => exact shares rfl)
  have usdcMoves := updateAvailable_exact exact
    (show (Operator.ofDirection direction).inverse = .remove →
      cost ≤ view.usdc.available venue by
        intro removes
        cases direction with
        | buy => exact cash rfl
        | sell => cases removes)
  have opposite : (Operator.ofDirection direction).inverse.sign = -direction.sign := by
    cases direction <;> simp [Operator.ofDirection, Operator.inverse, Operator.sign, Direction.sign]
  simp only [applyFill, updateEquity, equityMoves, updateUsdc, bind, Except.bind, pure,
    Except.pure, usdcMoves, opposite, Operator.sign_ofDirection]

/-- A fill that is covered moves the mirror by what was executed, and nothing
else that is kept about the symbol. -/
theorem applyFill_hedging {view : EquityView} {symbol : Symbol} {direction : Direction}
    {quantity cost : ℚ} (covers : view.Covers symbol direction quantity cost) (timestamp : Time) :
    ∃ updated, view.applyFill symbol .hedging direction quantity cost timestamp = .ok updated ∧
      updated.hedgingAvailable symbol =
        view.hedgingAvailable symbol + direction.sign * quantity ∧
      SameBesides view updated := by
  have shares : direction = .sell → quantity ≤ (view.equity symbol).available .hedging := by
    rintro rfl
    exact covers
  have cash : direction = .buy → cost ≤ view.usdc.available .hedging := by
    rintro rfl
    exact covers
  refine ⟨_, applyFill_exact exact shares cash timestamp, ?_, ⟨rfl, rfl, rfl, rfl⟩⟩
  simp [hedgingAvailable, equity, Inventory.available]

end Exact

end EquityView

end Liquidity
