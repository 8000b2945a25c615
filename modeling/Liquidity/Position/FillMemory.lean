import Liquidity.Position.Aggregate

/-!
# What a position remembers of its onchain fills

The slot and the pending set of a live position are functions of its event
stream: the slot is the fill recorded last, the set holds the fills applied and
not settled since. Everything about duplicate fills is argued from these two
functions of the stream, not from the commands that wrote it.
-/

namespace Liquidity

open EventSourcing

namespace PositionEvent

/-- The fill an event moves the position for. -/
def filledTradeId? : PositionEvent → Option TradeId
  | .onChainOrderFilled tradeId .. => some tradeId
  | _ => none

/-- The effect of an event on a set of fills applied but not settled. -/
def updatePending (event : PositionEvent) (pending : Finset TradeId) : Finset TradeId :=
  match event with
  | .onChainFillApplied tradeId _ => insert tradeId pending
  | .onChainFillSettled tradeId _ => pending.erase tradeId
  | _ => pending

def isApplied (id : TradeId) : PositionEvent → Bool
  | .onChainFillApplied tradeId _ => tradeId = id
  | _ => false

def isSettled (id : TradeId) : PositionEvent → Bool
  | .onChainFillSettled tradeId _ => tradeId = id
  | _ => false

/-- An event that concerns no onchain fill. -/
def unrelatedToFills : PositionEvent → Bool
  | .onChainOrderFilled .. | .onChainFillApplied .. | .onChainFillSettled .. => false
  | _ => true

@[simp] theorem filledTradeId?_unrelated {event : PositionEvent} (h : event.unrelatedToFills) :
    event.filledTradeId? = none := by
  cases event <;> first | rfl | cases h

@[simp] theorem isSettled_unrelated {event : PositionEvent} (h : event.unrelatedToFills)
    (id : TradeId) : event.isSettled id = false := by
  cases event <;> first | rfl | cases h

theorem updatePending_unrelated {event : PositionEvent} (h : event.unrelatedToFills)
    (pending : Finset TradeId) : event.updatePending pending = pending := by
  cases event <;> first | rfl | cases h

theorem isApplied_iff {event : PositionEvent} {id : TradeId} :
    event.isApplied id ↔ ∃ appliedAt, event = .onChainFillApplied id appliedAt := by
  cases event <;> simp [isApplied, eq_comm]

theorem mem_updatePending {event : PositionEvent} {pending : Finset TradeId} {id : TradeId} :
    id ∈ event.updatePending pending ↔
      event.isApplied id ∨ id ∈ pending ∧ event.isSettled id = false := by
  cases event with
  | onChainFillApplied tradeId appliedAt =>
      simp [updatePending, isApplied, isSettled, eq_comm]
  | onChainFillSettled tradeId settledAt =>
      simp [updatePending, isApplied, isSettled, and_comm, eq_comm]
  | _ => simp [updatePending, isApplied, isSettled]

end PositionEvent

namespace Position

/-- The fills recorded in a stream, in order, repetitions included. -/
def filledIds (stream : List PositionEvent) : List TradeId :=
  stream.filterMap PositionEvent.filledTradeId?

/-- The fills applied and not settled since. -/
def pendingIds (stream : List PositionEvent) : Finset TradeId :=
  stream.foldl (fun pending event => event.updatePending pending) ∅

def settledIn (stream : List PositionEvent) (id : TradeId) : Bool :=
  stream.any (PositionEvent.isSettled id)

@[simp] theorem filledIds_nil : filledIds [] = [] := rfl

@[simp] theorem filledIds_append (first second : List PositionEvent) :
    filledIds (first ++ second) = filledIds first ++ filledIds second :=
  List.filterMap_append

@[simp] theorem pendingIds_nil : pendingIds [] = ∅ := rfl

theorem pendingIds_concat (stream : List PositionEvent) (event : PositionEvent) :
    pendingIds (stream ++ [event]) = event.updatePending (pendingIds stream) := by
  simp [pendingIds, List.foldl_append]

@[simp] theorem settledIn_append (first second : List PositionEvent) (id : TradeId) :
    settledIn (first ++ second) id = (settledIn first id || settledIn second id) :=
  List.any_append

/-- Events that concern no fill leave all three readings of a stream alone. -/
theorem readings_append_unrelated {events : List PositionEvent}
    (unrelated : ∀ event ∈ events, event.unrelatedToFills) (stream : List PositionEvent) :
    filledIds (stream ++ events) = filledIds stream ∧
      pendingIds (stream ++ events) = pendingIds stream ∧
      ∀ id, settledIn (stream ++ events) id = settledIn stream id := by
  induction events using List.reverseRecOn with
  | nil => simp
  | append_singleton rest event ih =>
      obtain ⟨filled, pending, settled⟩ :=
        ih fun event member => unrelated event (List.mem_append_left _ member)
      have quiet := unrelated event (by simp)
      rw [← List.append_assoc]
      refine ⟨?_, ?_, fun id => ?_⟩
      · rw [filledIds_append, filled]
        simp [filledIds, quiet]
      · rw [pendingIds_concat, pending, PositionEvent.updatePending_unrelated quiet]
      · rw [settledIn_append, settled]
        simp [settledIn, quiet]

/-- Recording and applying a fill, as the acknowledgement does in one batch. -/
theorem readings_append_fill (stream : List PositionEvent) (id : TradeId)
    (amount : FractionalShares) (direction : Direction) (priceUsdc : ℚ)
    (blockTimestamp now : Time) :
    let events : List PositionEvent :=
      [.onChainOrderFilled id amount direction priceUsdc blockTimestamp now,
        .onChainFillApplied id now]
    filledIds (stream ++ events) = filledIds stream ++ [id] ∧
      pendingIds (stream ++ events) = insert id (pendingIds stream) ∧
      ∀ other, settledIn (stream ++ events) other = settledIn stream other := by
  intro events
  refine ⟨?_, ?_, fun other => ?_⟩
  · rw [filledIds_append]
    rfl
  · simp [events, pendingIds, List.foldl_append, PositionEvent.updatePending]
  · simp [events, settledIn, PositionEvent.isSettled]

theorem readings_append_settled (stream : List PositionEvent) (id : TradeId) (now : Time) :
    filledIds (stream ++ [.onChainFillSettled id now]) = filledIds stream ∧
      pendingIds (stream ++ [.onChainFillSettled id now]) = (pendingIds stream).erase id ∧
      ∀ other, settledIn (stream ++ [.onChainFillSettled id now]) other =
        (settledIn stream other || decide (id = other)) := by
  refine ⟨?_, ?_, fun other => ?_⟩
  · rw [filledIds_append]
    exact List.append_nil _
  · rw [pendingIds_concat]
    rfl
  · simp [settledIn, PositionEvent.isSettled]

/-- A fill is pending exactly when some application of it was not settled since. -/
theorem mem_pendingIds {stream : List PositionEvent} {id : TradeId} :
    id ∈ pendingIds stream ↔
      ∃ before appliedAt after,
        stream = before ++ .onChainFillApplied id appliedAt :: after ∧
          settledIn after id = false := by
  induction stream using List.reverseRecOn with
  | nil => simp
  | append_singleton rest event ih =>
      rw [pendingIds_concat, PositionEvent.mem_updatePending]
      constructor
      · rintro (applied | ⟨member, unsettledNow⟩)
        · obtain ⟨appliedAt, rfl⟩ := PositionEvent.isApplied_iff.mp applied
          exact ⟨rest, appliedAt, [], rfl, rfl⟩
        · obtain ⟨before, appliedAt, after, rfl, unsettled⟩ := ih.mp member
          refine ⟨before, appliedAt, after ++ [event], by simp, ?_⟩
          rw [settledIn_append, unsettled]
          simpa [settledIn] using unsettledNow
      · rintro ⟨before, appliedAt, after, split, unsettled⟩
        cases after using List.reverseRecOn with
        | nil =>
            obtain ⟨-, last⟩ := List.append_inj' split rfl
            obtain rfl := List.singleton_inj.mp last
            exact .inl (PositionEvent.isApplied_iff.mpr ⟨appliedAt, rfl⟩)
        | append_singleton middle last =>
            rw [← List.cons_append, ← List.append_assoc] at split
            obtain ⟨restEq, lastEq⟩ := List.append_inj' split rfl
            obtain rfl := List.singleton_inj.mp lastEq
            simp only [settledIn_append, Bool.or_eq_false_iff] at unsettled
            exact .inr ⟨ih.mpr ⟨before, appliedAt, middle, restEq, unsettled.1⟩,
              by simpa [settledIn] using unsettled.2⟩

/-- Whether the event log holds an `onChainOrderFilled` for the fill. -/
def recordedIn (stream : List PositionEvent) (id : TradeId) : Bool :=
  stream.any fun event => event.filledTradeId? = some id

theorem recordedIn_iff {stream : List PositionEvent} {id : TradeId} :
    recordedIn stream id ↔ id ∈ filledIds stream := by
  simp [recordedIn, filledIds]

/-- The position a stream starts with remembers no fill. -/
theorem originate_memory {event : PositionEvent} {entity : Position}
    (h : originate event = some entity) :
    event.filledTradeId? = none ∧ entity.lastAcknowledgedTradeId = none ∧
      entity.pendingAcknowledgedTradeIds = event.updatePending ∅ := by
  cases event <;> simp only [originate] at h <;> cases h
  exact ⟨rfl, rfl, rfl⟩

section Live

variable [FloatFormat]

/-- The two memories after one event. -/
theorem evolve_memory {entity next : Position} {event : PositionEvent}
    (h : entity.evolve event = .ok (some next)) :
    next.lastAcknowledgedTradeId = event.filledTradeId?.or entity.lastAcknowledgedTradeId ∧
      next.pendingAcknowledgedTradeIds =
        event.updatePending entity.pendingAcknowledgedTradeIds := by
  cases event with
  | onChainOrderFilled tradeId amount direction priceUsdc blockTimestamp seenAt =>
      cases direction <;>
      · simp only [evolve, bind_eq_ok] at h
        obtain ⟨net, -, total, -, done⟩ := h
        cases done
        exact ⟨rfl, rfl⟩
  | offChainOrderFilled id shares direction executorOrderId price brokerTimestamp =>
      simp only [evolve] at h
      split at h
      · cases h
      · obtain ⟨net, -, done⟩ := bind_eq_ok.mp h
        cases done
        exact ⟨rfl, rfl⟩
  | initialized => cases h
  | onChainFillApplied | onChainFillSettled | thresholdUpdated | manualPositionAdjusted =>
      cases h
      exact ⟨rfl, rfl⟩
  | offChainOrderPlaced | offChainOrderFailed | offChainOrderCancelled =>
      simp only [evolve] at h
      split at h
      · cases h
      · cases h
        exact ⟨rfl, rfl⟩

/-- A live position remembers exactly what its stream says. -/
theorem lifecycle_memory {stream : List PositionEvent} {entity : Position}
    (h : aggregate.lifecycle stream = .live entity) :
    entity.lastAcknowledgedTradeId = (filledIds stream).getLast? ∧
      entity.pendingAcknowledgedTradeIds = pendingIds stream := by
  induction stream using List.reverseRecOn generalizing entity with
  | nil => cases h
  | append_singleton rest event ih =>
      rw [Aggregate.lifecycle_append] at h
      cases before : aggregate.lifecycle rest with
      | failed => simp [before] at h
      | uninitialized =>
          obtain rfl := aggregate.lifecycle_eq_uninitialized.mp before
          simp only [before, Aggregate.replay_cons, Aggregate.replay_nil, Aggregate.apply] at h
          split at h
          case h_1 created originated =>
            cases h
            obtain ⟨unfilled, slot, pending⟩ := originate_memory originated
            simp [slot, pending, filledIds, unfilled, pendingIds]
          case h_2 => cases h
      | live earlier =>
          obtain ⟨slot, pending⟩ := ih before
          simp only [before, Aggregate.replay_cons, Aggregate.replay_nil, Aggregate.apply] at h
          split at h
          case h_1 next evolved =>
            cases h
            obtain ⟨slot', pending'⟩ := evolve_memory evolved
            rw [slot', pending', pendingIds_concat, pending, slot]
            cases filled : event.filledTradeId? <;> simp [filledIds, filled]
          case h_2 => cases h

/-- An accepted acknowledgement: the stream knows the fill neither as its last
one nor as pending, and the batch records and applies it. -/
theorem send_acknowledge {now : Time} {symbol : Symbol} {threshold : ExecutionThreshold}
    {id : TradeId} {amount : FractionalShares} {direction : Direction} {priceUsdc : ℚ}
    {blockTimestamp : Time} {stream events : List PositionEvent}
    (h : aggregate.send now (.acknowledgeOnChainFill symbol threshold id amount direction
      priceUsdc blockTimestamp) stream = .ok events) :
    id ∉ pendingIds stream ∧ (filledIds stream).getLast? ≠ some id ∧
      ∃ opening : List PositionEvent, (∀ event ∈ opening, event.unrelatedToFills) ∧
        events = opening ++ [.onChainOrderFilled id amount direction priceUsdc blockTimestamp now,
          .onChainFillApplied id now] := by
  rcases aggregate.send_eq_ok.mp h with ⟨absent, created⟩ | ⟨entity, live, produced⟩
  · obtain rfl := aggregate.lifecycle_eq_uninitialized.mp absent
    cases created
    exact ⟨by simp, by simp, [.initialized symbol threshold now], by
      simp [PositionEvent.unrelatedToFills], rfl⟩
  · obtain ⟨slot, pending⟩ := lifecycle_memory live
    change entity.acknowledgeOnChainFillTransitionEvents id amount direction priceUsdc
      blockTimestamp now = .ok events at produced
    unfold acknowledgeOnChainFillTransitionEvents at produced
    split at produced
    · cases produced
    · rename_i unknown
      cases produced
      simp only [knowsFill, slot, pending, Bool.or_eq_true, decide_eq_true_eq, not_or] at unknown
      exact ⟨unknown.2, unknown.1, [], by simp, rfl⟩

/-- An acknowledgement refused as a duplicate finds the fill in one of the two memories. -/
theorem send_acknowledge_duplicate {now : Time} {symbol : Symbol} {threshold : ExecutionThreshold}
    {id tradeId : TradeId} {amount : FractionalShares} {direction : Direction} {priceUsdc : ℚ}
    {blockTimestamp : Time} {stream : List PositionEvent}
    (h : aggregate.send now (.acknowledgeOnChainFill symbol threshold id amount direction
      priceUsdc blockTimestamp) stream = .error (.rejected (.duplicateTrade tradeId))) :
    (filledIds stream).getLast? = some id ∨ id ∈ pendingIds stream := by
  unfold Aggregate.send at h
  cases state : aggregate.lifecycle stream with
  | uninitialized => rw [state] at h; cases h
  | failed => rw [state] at h; cases h
  | live entity =>
      obtain ⟨slot, pending⟩ := lifecycle_memory state
      by_contra unknown
      have forgotten : entity.knowsFill id = false := by
        simpa [knowsFill, slot, pending, not_or] using unknown
      rw [state] at h
      simp [Aggregate.decide, aggregate, transition, acknowledgeOnChainFillTransitionEvents,
        forgotten, Except.mapError] at h

/-- A settle removes a pending fill and does nothing otherwise; either way the
fill is not pending afterwards. -/
theorem send_settle {now : Time} {id : TradeId} {stream events : List PositionEvent}
    (h : aggregate.send now (.settleOnChainFill id) stream = .ok events) :
    (events = [] ∧ id ∉ pendingIds stream) ∨
      (events = [.onChainFillSettled id now] ∧ id ∈ pendingIds stream) := by
  rcases aggregate.send_eq_ok.mp h with ⟨absent, created⟩ | ⟨entity, live, produced⟩
  · obtain rfl := aggregate.lifecycle_eq_uninitialized.mp absent
    cases created
    exact .inl ⟨rfl, by simp⟩
  · obtain ⟨-, pending⟩ := lifecycle_memory live
    change (if id ∈ entity.pendingAcknowledgedTradeIds then _ else _) = _ at produced
    rw [pending] at produced
    split at produced
    · rename_i member
      cases produced
      exact .inr ⟨rfl, member⟩
    · rename_i absent
      cases produced
      exact .inl ⟨rfl, absent⟩

/-- A position that accepted a settle is live and does not hold the fill. -/
theorem settle_drains {now : Time} {id : TradeId} {stream events : List PositionEvent}
    (h : aggregate.send now (.settleOnChainFill id) stream = .ok events) (created : stream ≠ []) :
    ∃ entity, aggregate.lifecycle (stream ++ events) = .live entity ∧
      id ∉ entity.pendingAcknowledgedTradeIds := by
  rcases aggregate.send_eq_ok.mp h with ⟨absent, -⟩ | ⟨entity, live, -⟩
  · exact absurd (aggregate.lifecycle_eq_uninitialized.mp absent) created
  · obtain ⟨-, pending⟩ := lifecycle_memory live
    rcases send_settle h with ⟨rfl, absent⟩ | ⟨rfl, -⟩
    · exact ⟨entity, by simpa using live, by rwa [pending]⟩
    · refine ⟨{ entity with
        pendingAcknowledgedTradeIds := entity.pendingAcknowledgedTradeIds.erase id }, ?_, ?_⟩
      · rw [Aggregate.lifecycle_append, live]
        rfl
      · simp

/-- Commands that belong to fill accounting. -/
def isFillCommand : PositionCommand → Bool
  | .acknowledgeOnChainFill .. | .settleOnChainFill _ => true
  | _ => false

omit [FloatFormat] in
theorem initialise_unrelated {now : Time} {command : PositionCommand}
    {events : List PositionEvent} (other : isFillCommand command = false)
    (h : initialise now command = .ok events) : ∀ event ∈ events, event.unrelatedToFills := by
  cases command with
  | acknowledgeOnChainFill | settleOnChainFill => cases other
  | manuallyAdjustPosition symbol targetNet reason threshold expectedNet priceUsdc =>
      obtain ⟨-, -, done⟩ := bind_eq_ok.mp h
      cases done
      simp [PositionEvent.unrelatedToFills]
  | _ => cases h

theorem transition_unrelated {now : Time} {entity : Position} {command : PositionCommand}
    {events : List PositionEvent} (other : isFillCommand command = false)
    (h : entity.transition now command = .ok events) :
    ∀ event ∈ events, event.unrelatedToFills := by
  cases command with
  | acknowledgeOnChainFill | settleOnChainFill => cases other
  | placeOffChainOrder offchainOrderId shares direction executor threshold =>
      change entity.placeOffchainOrderEvents offchainOrderId shares direction executor now =
        .ok events at h
      unfold placeOffchainOrderEvents at h
      split at h
      · cases h
      · obtain ⟨trigger, -, done⟩ := bind_eq_ok.mp h
        split at done <;> cases done
        simp [PositionEvent.unrelatedToFills]
  | completeOffChainOrder | failOffChainOrder | cancelOffChainOrder =>
      obtain ⟨-, -, done⟩ := bind_eq_ok.mp h
      cases done
      simp [PositionEvent.unrelatedToFills]
  | updateThreshold threshold =>
      cases h
      simp [PositionEvent.unrelatedToFills]
  | manuallyAdjustPosition symbol targetNet reason threshold expectedNet priceUsdc =>
      simp only [transition] at h
      split at h
      · cases h
      · obtain ⟨-, -, done⟩ := bind_eq_ok.mp h
        cases done
        simp [PositionEvent.unrelatedToFills]

/-- Every other command leaves the fills of a stream alone. -/
theorem send_unrelated {now : Time} {command : PositionCommand}
    {stream events : List PositionEvent} (other : isFillCommand command = false)
    (h : aggregate.send now command stream = .ok events) :
    ∀ event ∈ events, event.unrelatedToFills := by
  rcases aggregate.send_eq_ok.mp h with ⟨-, created⟩ | ⟨entity, -, produced⟩
  · exact initialise_unrelated other created
  · exact transition_unrelated other produced

end Live

end Position

end Liquidity
