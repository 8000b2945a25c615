import Liquidity.EventSourcing.Runs
import Liquidity.Position.Claim

/-!
# The position ledger

Whatever is sent to a position, its own events never get it stuck, and its state
is a ledger of them: the net position is what the last manual adjustment set it
to, moved by the fills since; the accumulated amounts are the sums of the onchain
fills; and hedge orders are placed and closed in turns.
-/

namespace Liquidity

open EventSourcing

namespace PositionEvent

/-- What a manual adjustment sets the net position to. -/
def target? : PositionEvent → Option FractionalShares
  | .manualPositionAdjusted _ targetNet .. => some targetNet
  | _ => none

/-- How a fill moves the net position. -/
def moves : PositionEvent → FractionalShares
  | .onChainOrderFilled _ amount direction .. => direction.sign * amount
  | .offChainOrderFilled _ sharesFilled direction .. => direction.sign * sharesFilled.inner
  | _ => 0

def boughtOnchain : PositionEvent → FractionalShares
  | .onChainOrderFilled _ amount .buy .. => amount
  | _ => 0

def soldOnchain : PositionEvent → FractionalShares
  | .onChainOrderFilled _ amount .sell .. => amount
  | _ => 0

/-- The beginning or the end of a hedge order. -/
inductive OrderMark where
  | placed (id : OffchainOrderId)
  | closed (id : OffchainOrderId)
  deriving DecidableEq, Repr

def orderMark? : PositionEvent → Option OrderMark
  | .offChainOrderPlaced id .. => some (.placed id)
  | .offChainOrderFilled id .. => some (.closed id)
  | .offChainOrderFailed id .. => some (.closed id)
  | .offChainOrderCancelled id .. => some (.closed id)
  | _ => none

/-- Every order is closed before the next one is placed; the one that is still
open comes last. -/
inductive OneAtATime : List OrderMark → Option OffchainOrderId → Prop
  | start : OneAtATime [] none
  | placed {marks : List OrderMark} (id : OffchainOrderId) (free : OneAtATime marks none) :
      OneAtATime (marks ++ [.placed id]) (some id)
  | closed {marks : List OrderMark} {id : OffchainOrderId} (placed : OneAtATime marks (some id)) :
      OneAtATime (marks ++ [.closed id]) none

end PositionEvent

open PositionEvent

namespace Position

/-- The net position by its events: what the last adjustment set it to, and the
fills since. -/
def netLedger (stream : List PositionEvent) : FractionalShares :=
  (stream.reverse.findSome? target?).getD 0 +
    ((stream.reverse.takeWhile fun event => event.target?.isNone).map moves).sum

theorem netLedger_concat (stream : List PositionEvent) (event : PositionEvent) :
    netLedger (stream ++ [event]) = event.target?.getD (netLedger stream + event.moves) := by
  unfold netLedger
  rw [List.reverse_append, List.reverse_singleton, List.singleton_append]
  cases found : event.target? with
  | some target => simp [found]
  | none =>
      simp only [List.findSome?_cons, found, List.takeWhile_cons, Option.isNone_none, if_true,
        List.map_cons, List.sum_cons, Option.getD_none]
      ring

/-- The states in which commands emit an event. -/
def Admits (entity : Position) : PositionEvent → Prop
  | .offChainOrderPlaced .. => entity.pendingOffchainOrderId = none
  | .offChainOrderFilled id .. => entity.pendingOffchainOrderId = some id
  | .offChainOrderFailed id .. => entity.pendingOffchainOrderId = some id
  | .offChainOrderCancelled id .. => entity.pendingOffchainOrderId = some id
  | .manualPositionAdjusted .. => entity.pendingOffchainOrderId = none
  | .initialized .. => False
  | _ => True

variable [FloatFormat]

theorem admitting : aggregate.Admitting Admits where
  initialise := by
    intro context command events begun part event within entity reached
    change initialise context command = .ok events at begun
    cases command with
    | acknowledgeOnChainFill symbol threshold tradeId amount direction priceUsdc blockTimestamp =>
        cases begun
        cases part with
        | nil => cases reached
        | cons first rest =>
            have later : rest ++ [event] <+:
                [.onChainOrderFilled tradeId amount direction priceUsdc blockTimestamp context,
                  .onChainFillApplied tradeId context] :=
              (List.cons_prefix_cons.mp within).2
            refine Aggregate.admits_batch entity later ?_
            simp [Admits]
    | settleOnChainFill tradeId =>
        cases begun
        simp at within
    | manuallyAdjustPosition symbol targetNet reason threshold expectedNet priceUsdc =>
        obtain ⟨_, _, done⟩ := bind_eq_ok.mp begun
        cases done
        match part with
        | [] => cases reached
        | [first] =>
            have second : first = .initialized symbol threshold context ∧
                event = .manualPositionAdjusted 0 targetNet reason priceUsdc context := by
              simpa using within
            obtain ⟨rfl, rfl⟩ := second
            cases reached
            rfl
        | first :: second :: rest =>
            have bound := within.length_le
            simp at bound
    | _ => cases begun
  transition := by
    intro context entity command events moved part event within middle reached
    change entity.transition context command = .ok events at moved
    cases command with
    | acknowledgeOnChainFill symbol threshold tradeId amount direction priceUsdc blockTimestamp =>
        simp only [transition, acknowledgeOnChainFillTransitionEvents] at moved
        split at moved <;> cases moved
        refine Aggregate.admits_batch middle within ?_
        simp [Admits]
    | settleOnChainFill tradeId =>
        simp only [transition] at moved
        split at moved <;> cases moved
        · exact Aggregate.admits_single within reached (show entity.Admits _ from trivial)
        · simp at within
    | placeOffChainOrder id shares direction executor threshold =>
        obtain ⟨free, trigger, _, rfl⟩ := placeOffchainOrderEvents_eq_ok moved
        exact Aggregate.admits_single within reached (show entity.Admits _ from free)
    | completeOffChainOrder | failOffChainOrder | cancelOffChainOrder =>
        obtain ⟨claimed, rfl⟩ := transition_finalizes moved
        exact Aggregate.admits_single within reached (show entity.Admits _ from claimed)
    | updateThreshold threshold =>
        cases moved
        exact Aggregate.admits_single within reached (show entity.Admits _ from trivial)
    | manuallyAdjustPosition symbol targetNet reason threshold expectedNet priceUsdc =>
        simp only [transition] at moved
        split at moved
        · cases moved
        · rename_i free
          obtain ⟨_, _, done⟩ := bind_eq_ok.mp moved
          cases done
          exact Aggregate.admits_single within reached (show entity.Admits _ from free)

/-! ## What an event does to the ledger -/

/-- The ledger columns move by what the event says. -/
structure Booked (entity : Position) (event : PositionEvent) (next : Position) : Prop where
  net : next.net = event.target?.getD (entity.net + event.moves)
  accumulatedLong : next.accumulatedLong = entity.accumulatedLong + event.boughtOnchain
  accumulatedShort : next.accumulatedShort = entity.accumulatedShort + event.soldOnchain

/-- An admitted event is accepted, and booked. -/
theorem evolve_admitted (exact : FloatFormat.IsExact) {entity : Position} {event : PositionEvent}
    (admitted : entity.Admits event) :
    ∃ next, entity.evolve event = .ok (some next) ∧ Booked entity event next := by
  cases event with
  | onChainOrderFilled tradeId amount direction priceUsdc blockTimestamp seenAt =>
      cases direction with
      | buy =>
          have evolved : entity.evolve (.onChainOrderFilled tradeId amount .buy priceUsdc
              blockTimestamp seenAt) = .ok (some
                { entity with
                  net := entity.net + amount
                  accumulatedLong := entity.accumulatedLong + amount
                  lastAcknowledgedTradeId := some tradeId
                  lastPriceUsdc := some priceUsdc, lastUpdated := some seenAt }) := by
            simp only [evolve, Decimal.add_exact exact]
            rfl
          exact ⟨_, evolved, by simp [target?, moves, Direction.sign], by simp [boughtOnchain],
            by simp [soldOnchain]⟩
      | sell =>
          have evolved : entity.evolve (.onChainOrderFilled tradeId amount .sell priceUsdc
              blockTimestamp seenAt) = .ok (some
                { entity with
                  net := entity.net - amount
                  accumulatedShort := entity.accumulatedShort + amount
                  lastAcknowledgedTradeId := some tradeId
                  lastPriceUsdc := some priceUsdc, lastUpdated := some seenAt }) := by
            simp only [evolve, Decimal.add_exact exact, Decimal.sub_exact exact]
            rfl
          exact ⟨_, evolved, by simp [target?, moves, Direction.sign, sub_eq_add_neg],
            by simp [boughtOnchain], by simp [soldOnchain]⟩
  | offChainOrderFilled id sharesFilled direction executorOrderId price brokerTimestamp =>
      have claimed : entity.pendingOffchainOrderId = some id := admitted
      have moved : moveNet entity.net direction sharesFilled =
          .ok (entity.net + direction.sign * sharesFilled.inner) := by
        cases direction with
        | buy => simp [moveNet, Decimal.add_exact exact, Direction.sign]
        | sell => simp [moveNet, Decimal.sub_exact exact, Direction.sign, sub_eq_add_neg]
      have evolved : entity.evolve (.offChainOrderFilled id sharesFilled direction executorOrderId
          price brokerTimestamp) = .ok (some
            { entity with
              net := entity.net + direction.sign * sharesFilled.inner
              pendingOffchainOrderId := none, lastFailedOffchainOrderId := none
              lastUpdated := some brokerTimestamp }) := by
        simp only [evolve, claimed, moved, ne_eq, not_true_eq_false, if_false]
        rfl
      exact ⟨_, evolved, by simp [target?, moves], by simp [boughtOnchain], by simp [soldOnchain]⟩
  | offChainOrderPlaced id shares direction executor triggerReason placedAt =>
      have free : entity.pendingOffchainOrderId = none := admitted
      refine ⟨_, if_neg (by simp [free]), ?_, ?_, ?_⟩ <;>
        simp [target?, moves, boughtOnchain, soldOnchain]
  | offChainOrderFailed id error failedAt =>
      have claimed : entity.pendingOffchainOrderId = some id := admitted
      refine ⟨_, if_neg (not_not_intro claimed), ?_, ?_, ?_⟩ <;>
        simp [target?, moves, boughtOnchain, soldOnchain]
  | offChainOrderCancelled id reason cancelledAt =>
      have claimed : entity.pendingOffchainOrderId = some id := admitted
      refine ⟨_, if_neg (not_not_intro claimed), ?_, ?_, ?_⟩ <;>
        simp [target?, moves, boughtOnchain, soldOnchain]
  | onChainFillApplied | onChainFillSettled | thresholdUpdated | manualPositionAdjusted =>
      refine ⟨_, rfl, ?_, ?_, ?_⟩ <;> simp [target?, moves, boughtOnchain, soldOnchain]
  | initialized => exact admitted.elim

theorem accepting (exact : FloatFormat.IsExact) : aggregate.Accepting := by
  refine admitting.accepting ?_ ?_
  · intro entity event admitted
    obtain ⟨next, evolved, _⟩ := evolve_admitted exact admitted
    exact ⟨next, evolved⟩
  · intro context command event events begun
    change initialise context command = .ok (event :: events) at begun
    cases command with
    | acknowledgeOnChainFill =>
        cases begun
        exact ⟨_, rfl⟩
    | manuallyAdjustPosition =>
        obtain ⟨_, _, done⟩ := bind_eq_ok.mp begun
        cases done
        exact ⟨_, rfl⟩
    | _ => cases begun

/-- The state is the ledger of its events. -/
structure Balanced (stream : List PositionEvent) (entity : Position) : Prop where
  net : entity.net = netLedger stream
  accumulatedLong : entity.accumulatedLong = (stream.map boughtOnchain).sum
  accumulatedShort : entity.accumulatedShort = (stream.map soldOnchain).sum
  orders : OneAtATime (stream.filterMap orderMark?) entity.pendingOffchainOrderId

/-- The claim an event leaves behind. -/
def claimAfter (entity : Position) (event : PositionEvent) : Option OffchainOrderId :=
  match event.orderMark? with
  | some (.placed id) => some id
  | some (.closed _) => none
  | none => entity.pendingOffchainOrderId

/-- The anchor an event leaves behind: the first failure of a chain sets it, what
ends the chain clears it. -/
def anchorAfter (entity : Position) : PositionEvent → Option OffchainOrderId
  | .offChainOrderFailed id .. => entity.lastFailedOffchainOrderId.or (some id)
  | .offChainOrderFilled .. => none
  | .offChainOrderCancelled .. => none
  | .manualPositionAdjusted .. => none
  | _ => entity.lastFailedOffchainOrderId

theorem evolve_claim_anchor {entity next : Position} {event : PositionEvent}
    (evolved : entity.evolve event = .ok (some next)) :
    next.pendingOffchainOrderId = entity.claimAfter event ∧
      next.lastFailedOffchainOrderId = entity.anchorAfter event := by
  cases event with
  | onChainOrderFilled => exact evolve_fill_slots evolved
  | offChainOrderFilled id shares direction executorOrderId price brokerTimestamp =>
      simp only [evolve] at evolved
      split at evolved
      · cases evolved
      · obtain ⟨net, -, done⟩ := bind_eq_ok.mp evolved
        cases done
        exact ⟨rfl, rfl⟩
  | offChainOrderPlaced | offChainOrderCancelled | offChainOrderFailed =>
      simp only [evolve] at evolved
      split at evolved <;> cases evolved
      exact ⟨rfl, rfl⟩
  | onChainFillApplied | onChainFillSettled | thresholdUpdated | manualPositionAdjusted =>
      cases evolved
      exact ⟨rfl, rfl⟩
  | initialized => cases evolved

/-- Orders are placed and closed in turns. -/
theorem OneAtATime.concat {marks : List OrderMark} {entity next : Position}
    {event : PositionEvent} (sofar : OneAtATime marks entity.pendingOffchainOrderId)
    (admitted : entity.Admits event) (evolved : entity.evolve event = .ok (some next)) :
    OneAtATime (marks ++ event.orderMark?.toList) next.pendingOffchainOrderId := by
  rw [(evolve_claim_anchor evolved).1]
  cases event with
  | offChainOrderPlaced =>
      have free : entity.pendingOffchainOrderId = none := admitted
      rw [free] at sofar
      exact .placed _ sofar
  | offChainOrderFilled | offChainOrderFailed | offChainOrderCancelled =>
      have claimed : entity.pendingOffchainOrderId = some _ := admitted
      rw [claimed] at sofar
      exact .closed sofar
  | _ => simpa [orderMark?, claimAfter] using sofar

theorem Balanced.written (exact : FloatFormat.IsExact) {stream : List PositionEvent}
    {entity : Position} (written : aggregate.Written (aggregate.Added Admits) stream entity) :
    Balanced stream entity := by
  induction written with
  | @first event entity originates =>
      change originate event = some entity at originates
      cases event with
      | initialized =>
          cases originates
          exact ⟨by simp [netLedger, target?, moves], by simp [boughtOnchain],
            by simp [soldOnchain], .start⟩
      | _ => cases originates
  | @next stream entity next event _ added ih =>
      obtain ⟨admitted, evolved⟩ := added
      obtain ⟨booked, evolved', books⟩ := evolve_admitted exact admitted
      change entity.evolve event = .ok (some next) at evolved
      rw [evolved] at evolved'
      cases evolved'
      refine ⟨?_, ?_, ?_, ?_⟩
      · rw [books.net, netLedger_concat, ih.net]
      · rw [books.accumulatedLong, ih.accumulatedLong]
        simp
      · rw [books.accumulatedShort, ih.accumulatedShort]
        simp
      · have marks : (stream ++ [event]).filterMap orderMark? =
            stream.filterMap orderMark? ++ event.orderMark?.toList := by
          cases marked : event.orderMark? <;> simp [marked]
        rw [marks]
        exact OneAtATime.concat ih.orders admitted evolved

/-- Every run of commands keeps the ledger. -/
theorem position_ledger (exact : FloatFormat.IsExact) (commands : List (Time × PositionCommand)) :
    let stream := aggregate.sends commands []
    (∀ before, before <+: stream → aggregate.lifecycle before ≠ .failed) ∧
      (∃ pending, OneAtATime (stream.filterMap orderMark?) pending) ∧
      ∀ entity, aggregate.lifecycle stream = .live entity →
        entity.net = netLedger stream ∧
          entity.accumulatedLong = (stream.map boughtOnchain).sum ∧
          entity.accumulatedShort = (stream.map soldOnchain).sum := by
  intro stream
  have accepted : aggregate.lifecycle stream ≠ .failed := (accepting exact).sends commands
  have balanced : ∀ {entity}, aggregate.lifecycle stream = .live entity →
      Balanced stream entity := fun live =>
    .written exact (admitting.written commands (List.prefix_refl _) live)
  refine ⟨fun before part => Aggregate.lifecycle_ne_failed_of_prefix part accepted, ?_, ?_⟩
  · cases found : aggregate.lifecycle stream with
    | uninitialized =>
        rw [aggregate.lifecycle_eq_uninitialized.mp found]
        exact ⟨none, .start⟩
    | live entity => exact ⟨_, (balanced found).orders⟩
    | failed => exact absurd found accepted
  · intro entity live
    have books := balanced live
    exact ⟨books.net, books.accumulatedLong, books.accumulatedShort⟩

omit [FloatFormat] in
/-- A fill, its hedge, an adjustment, and a fill again. -/
def ledgerRun : List (Time × PositionCommand) :=
  [(1, .acknowledgeOnChainFill "AAPL" (.dollarValue 1) ⟨1, 0⟩ 3 .buy 10 1),
    (2, .placeOffChainOrder ⟨1⟩ ⟨3, Positive.three_pos⟩ .sell .dryRun (.dollarValue 1)),
    (3, .manuallyAdjustPosition "AAPL" 9 "refused while an order is open" (.dollarValue 1) none none),
    (4, .completeOffChainOrder ⟨1⟩ ⟨3, Positive.three_pos⟩ .sell ⟨"b1"⟩ 10 4),
    (5, .manuallyAdjustPosition "AAPL" 5 "recount" (.dollarValue 1) none none),
    (6, .acknowledgeOnChainFill "AAPL" (.dollarValue 1) ⟨2, 0⟩ 2 .sell 10 6)]

omit [FloatFormat] in
theorem position_ledger_run : ∃ entity,
    (@aggregate .exact).lifecycle ((@aggregate .exact).sends ledgerRun []) = .live entity ∧
      entity.net = 3 ∧ entity.accumulatedLong = 3 ∧ entity.accumulatedShort = 2 := by
  have ledger := @position_ledger .exact FloatFormat.exact_isExact ledgerRun
  have lives : ((@aggregate .exact).lifecycle
      ((@aggregate .exact).sends ledgerRun [])).entity?.isSome := by decide +kernel
  have columns : netLedger ((@aggregate .exact).sends ledgerRun []) = 3 ∧
      (((@aggregate .exact).sends ledgerRun []).map boughtOnchain).sum = 3 ∧
      (((@aggregate .exact).sends ledgerRun []).map soldOnchain).sum = 2 := by decide +kernel
  cases found : (@aggregate .exact).lifecycle ((@aggregate .exact).sends ledgerRun []) with
  | live entity =>
      obtain ⟨net, long, short⟩ := ledger.2.2 entity found
      exact ⟨entity, rfl, net.trans columns.1, long.trans columns.2.1, short.trans columns.2.2⟩
  | uninitialized => simp [found, Lifecycle.entity?] at lives
  | failed => simp [found, Lifecycle.entity?] at lives

end Position

end Liquidity
