import Liquidity.Position.Aggregate

/-!
# The claim of a position on its hedge order

A position claims one offchain order at a time and releases it when the order is
completed, failed or cancelled. Next to the claim it keeps the anchor, the first
failed order of a chain of attempts, whose identifier later attempts reuse as
their key at the broker.

`transition_slots` says once what every command does to the claim, the anchor
and the net position; the rest of the development cites it instead of the
command handlers.
-/

namespace Liquidity

open EventSourcing

/-- The order a command finishes for the position. -/
def PositionCommand.finalizes : PositionCommand → Option OffchainOrderId
  | .completeOffChainOrder id .. | .failOffChainOrder id _ | .cancelOffChainOrder id _ _ => some id
  | _ => none

namespace Position

variable [FloatFormat]

omit [FloatFormat] in
theorem validatePendingExecution_eq_ok {entity : Position} {id : OffchainOrderId}
    (h : entity.validatePendingExecution id = .ok ()) : entity.pendingOffchainOrderId = some id := by
  unfold validatePendingExecution at h
  split at h
  · cases h
  · rename_i pendingId found
    split at h
    · cases h
    · rename_i same
      rw [found, not_ne_iff.mp same]

/-- An accepted placement: the slot was free, and the batch is the claim alone. -/
theorem placeOffchainOrderEvents_eq_ok {entity : Position} {id : OffchainOrderId}
    {shares : Positive} {direction : Direction} {executor : SupportedExecutor} {now : Time}
    {events : List PositionEvent}
    (h : entity.placeOffchainOrderEvents id shares direction executor now = .ok events) :
    entity.pendingOffchainOrderId = none ∧
      ∃ trigger, entity.createTriggerReason entity.threshold = .ok (some trigger) ∧
        events = [.offChainOrderPlaced id shares direction executor trigger now] := by
  unfold placeOffchainOrderEvents at h
  split at h
  · cases h
  · rename_i free
    obtain ⟨trigger, triggered, done⟩ := bind_eq_ok.mp h
    split at done <;> cases done
    exact ⟨free, _, triggered, rfl⟩

/-- The batch of a command that finishes an order is one event about that order. -/
theorem transition_finalizes {now : Time} {entity : Position} {command : PositionCommand}
    {events : List PositionEvent} (h : entity.transition now command = .ok events) :
    match command with
    | .completeOffChainOrder id shares direction executorOrderId price brokerTimestamp =>
        entity.pendingOffchainOrderId = some id ∧
          events = [.offChainOrderFilled id shares direction executorOrderId price brokerTimestamp]
    | .failOffChainOrder id error =>
        entity.pendingOffchainOrderId = some id ∧ events = [.offChainOrderFailed id error now]
    | .cancelOffChainOrder id reason cancelledAt =>
        entity.pendingOffchainOrderId = some id ∧
          events = [.offChainOrderCancelled id reason cancelledAt]
    | _ => True := by
  cases command with
  | completeOffChainOrder | failOffChainOrder | cancelOffChainOrder =>
      obtain ⟨_, valid, done⟩ := bind_eq_ok.mp h
      cases done
      exact ⟨validatePendingExecution_eq_ok valid, rfl⟩
  | _ => trivial

/-- How a command moves the claim and the anchor of a position. -/
def SlotsMoved (command : PositionCommand) (entity next : Position) : Prop :=
  match command with
  | .placeOffChainOrder id .. =>
      entity.pendingOffchainOrderId = none ∧ next.pendingOffchainOrderId = some id ∧
        next.lastFailedOffchainOrderId = entity.lastFailedOffchainOrderId
  | .completeOffChainOrder id shares direction .. =>
      entity.pendingOffchainOrderId = some id ∧ next.pendingOffchainOrderId = none ∧
        next.lastFailedOffchainOrderId = none ∧ moveNet entity.net direction shares = .ok next.net
  | .failOffChainOrder id _ =>
      entity.pendingOffchainOrderId = some id ∧ next.pendingOffchainOrderId = none ∧
        next.lastFailedOffchainOrderId = entity.lastFailedOffchainOrderId.or (some id)
  | .cancelOffChainOrder id _ _ =>
      entity.pendingOffchainOrderId = some id ∧ next.pendingOffchainOrderId = none ∧
        next.lastFailedOffchainOrderId = none
  | .manuallyAdjustPosition .. =>
      entity.pendingOffchainOrderId = none ∧ next.pendingOffchainOrderId = none ∧
        next.lastFailedOffchainOrderId = none
  | .acknowledgeOnChainFill .. | .settleOnChainFill _ | .updateThreshold _ =>
      next.pendingOffchainOrderId = entity.pendingOffchainOrderId ∧
        next.lastFailedOffchainOrderId = entity.lastFailedOffchainOrderId

omit [FloatFormat] in
theorem liftFloat_eq_ok {α : Type} {result : Except FloatError α} {value : α} :
    liftFloat result = .ok value ↔ result = .ok value := by
  cases result <;> simp [liftFloat, Except.mapError]

/-- A fill from the chain leaves claim and anchor alone. -/
theorem evolve_fill_slots {entity next : Position} {id : TradeId} {amount : FractionalShares}
    {direction : Direction} {priceUsdc : ℚ} {blockTimestamp now : Time}
    (h : entity.evolve (.onChainOrderFilled id amount direction priceUsdc blockTimestamp now) =
      .ok (some next)) :
    next.pendingOffchainOrderId = entity.pendingOffchainOrderId ∧
      next.lastFailedOffchainOrderId = entity.lastFailedOffchainOrderId := by
  cases direction <;>
  · simp only [evolve, bind_eq_ok] at h
    obtain ⟨net, -, total, -, done⟩ := h
    cases done
    exact ⟨rfl, rfl⟩

theorem replay_cons_eq_live {event : PositionEvent} {events : List PositionEvent}
    {entity next : Position}
    (h : aggregate.replay (.live entity) (event :: events) = .live next) :
    ∃ middle, entity.evolve event = .ok (some middle) ∧
      aggregate.replay (.live middle) events = .live next := by
  rw [Aggregate.replay_cons] at h
  simp only [Aggregate.apply] at h
  split at h
  · rename_i middle evolved
    exact ⟨middle, evolved, h⟩
  · simp at h

/-- What every accepted command does to the claim and the anchor. -/
theorem transition_slots {now : Time} {entity next : Position} {command : PositionCommand}
    {events : List PositionEvent} (h : entity.transition now command = .ok events)
    (after : aggregate.replay (.live entity) events = .live next) :
    SlotsMoved command entity next := by
  cases command with
  | acknowledgeOnChainFill symbol threshold id amount direction priceUsdc blockTimestamp =>
      simp only [transition, acknowledgeOnChainFillTransitionEvents] at h
      split at h <;> cases h
      obtain ⟨middle, filled, rest⟩ := replay_cons_eq_live after
      obtain ⟨last, applied, done⟩ := replay_cons_eq_live rest
      cases done
      cases applied
      obtain ⟨claim, anchor⟩ := evolve_fill_slots filled
      exact ⟨claim, anchor⟩
  | settleOnChainFill id =>
      simp only [transition] at h
      split at h <;> cases h
      · cases after
        exact ⟨rfl, rfl⟩
      · cases after
        exact ⟨rfl, rfl⟩
  | placeOffChainOrder id shares direction executor threshold =>
      obtain ⟨free, trigger, -, rfl⟩ := placeOffchainOrderEvents_eq_ok h
      obtain ⟨last, placed, done⟩ := replay_cons_eq_live after
      cases done
      simp only [evolve, free] at placed
      cases placed
      exact ⟨free, rfl, rfl⟩
  | completeOffChainOrder id shares direction executorOrderId price brokerTimestamp =>
      obtain ⟨claimed, rfl⟩ := transition_finalizes h
      obtain ⟨last, filled, done⟩ := replay_cons_eq_live after
      cases done
      simp only [evolve, claimed, ne_eq, not_true_eq_false, if_false, bind_eq_ok] at filled
      obtain ⟨net, moved, done⟩ := filled
      cases done
      exact ⟨claimed, rfl, rfl, liftFloat_eq_ok.mp moved⟩
  | failOffChainOrder id error =>
      obtain ⟨claimed, rfl⟩ := transition_finalizes h
      obtain ⟨last, failed, done⟩ := replay_cons_eq_live after
      cases done
      simp only [evolve, claimed, ne_eq, not_true_eq_false, if_false] at failed
      cases failed
      exact ⟨claimed, rfl, rfl⟩
  | cancelOffChainOrder id reason cancelledAt =>
      obtain ⟨claimed, rfl⟩ := transition_finalizes h
      obtain ⟨last, cancelled, done⟩ := replay_cons_eq_live after
      cases done
      simp only [evolve, claimed, ne_eq, not_true_eq_false, if_false] at cancelled
      cases cancelled
      exact ⟨claimed, rfl, rfl⟩
  | updateThreshold threshold =>
      cases h
      cases after
      exact ⟨rfl, rfl⟩
  | manuallyAdjustPosition symbol targetNet reason threshold expectedNet priceUsdc =>
      simp only [transition] at h
      split at h
      · cases h
      · rename_i free
        obtain ⟨-, -, done⟩ := bind_eq_ok.mp h
        cases done
        cases after
        exact ⟨free, free, rfl⟩

/-- A claim ends only by a command that finishes the claimed order. -/
theorem claim_kept {now : Time} {command : PositionCommand} {entity next : Position}
    {events : List PositionEvent} {id : OffchainOrderId}
    (h : entity.transition now command = .ok events)
    (after : aggregate.replay (.live entity) events = .live next)
    (claimed : entity.pendingOffchainOrderId = some id)
    (released : next.pendingOffchainOrderId ≠ some id) : command.finalizes = some id := by
  have moved := transition_slots h after
  cases command with
  | completeOffChainOrder | failOffChainOrder | cancelOffChainOrder =>
      have same := moved.1
      rw [claimed] at same
      exact same.symm
  | placeOffChainOrder | manuallyAdjustPosition =>
      have free := moved.1
      rw [claimed] at free
      cases free
  | acknowledgeOnChainFill | settleOnChainFill | updateThreshold =>
      exact absurd (moved.1.trans claimed) released

/-- The order an event is about. -/
def aboutOrder? : PositionEvent → Option OffchainOrderId
  | .offChainOrderPlaced id .. | .offChainOrderFilled id .. | .offChainOrderFailed id ..
  | .offChainOrderCancelled id .. => some id
  | _ => none

/-- The event records what a command about an order asked for. -/
def Records (now : Time) (command : PositionCommand) (entity : Position)
    (event : PositionEvent) : Prop :=
  match command with
  | .placeOffChainOrder id shares direction executor _ =>
      entity.pendingOffchainOrderId = none ∧
        ∃ trigger, event = .offChainOrderPlaced id shares direction executor trigger now
  | .completeOffChainOrder id shares direction executorOrderId price brokerTimestamp =>
      entity.pendingOffchainOrderId = some id ∧
        event = .offChainOrderFilled id shares direction executorOrderId price brokerTimestamp
  | .failOffChainOrder id error =>
      entity.pendingOffchainOrderId = some id ∧ event = .offChainOrderFailed id error now
  | .cancelOffChainOrder id reason cancelledAt =>
      entity.pendingOffchainOrderId = some id ∧
        event = .offChainOrderCancelled id reason cancelledAt
  | _ => False

/-- An event about an order answers a command about that order, sent to a live
position. -/
theorem send_aboutOrder {now : Time} {command : PositionCommand}
    {stream events : List PositionEvent} (sent : aggregate.send now command stream = .ok events)
    {event : PositionEvent} (member : event ∈ events) (about : (aboutOrder? event).isSome) :
    ∃ entity, aggregate.lifecycle stream = .live entity ∧ Records now command entity event := by
  rcases aggregate.send_eq_ok.mp sent with ⟨-, created⟩ | ⟨entity, live, produced⟩
  · cases command with
    | acknowledgeOnChainFill | settleOnChainFill =>
        cases created
        simp only [acknowledgeOnChainFillInitEvents, List.mem_cons, List.not_mem_nil,
          or_false] at member
        all_goals rcases member with rfl | rfl | rfl <;> cases about
    | manuallyAdjustPosition =>
        obtain ⟨-, -, done⟩ := bind_eq_ok.mp created
        cases done
        simp only [List.mem_cons, List.not_mem_nil, or_false] at member
        rcases member with rfl | rfl <;> cases about
    | _ => cases created
  · refine ⟨entity, live, ?_⟩
    change entity.transition now command = .ok events at produced
    cases command with
    | placeOffChainOrder =>
        obtain ⟨free, trigger, -, rfl⟩ := placeOffchainOrderEvents_eq_ok produced
        exact ⟨free, trigger, List.mem_singleton.mp member⟩
    | completeOffChainOrder | failOffChainOrder | cancelOffChainOrder =>
        obtain ⟨claimed, rfl⟩ := transition_finalizes produced
        exact ⟨claimed, List.mem_singleton.mp member⟩
    | acknowledgeOnChainFill =>
        simp only [transition, acknowledgeOnChainFillTransitionEvents] at produced
        split at produced <;> cases produced
        simp only [List.mem_cons, List.not_mem_nil, or_false] at member
        rcases member with rfl | rfl <;> cases about
    | settleOnChainFill =>
        simp only [transition] at produced
        split at produced <;> cases produced
        · obtain rfl := List.mem_singleton.mp member
          cases about
        · cases member
    | updateThreshold =>
        cases produced
        obtain rfl := List.mem_singleton.mp member
        cases about
    | manuallyAdjustPosition =>
        simp only [transition] at produced
        split at produced
        · cases produced
        · obtain ⟨-, -, done⟩ := bind_eq_ok.mp produced
          cases done
          obtain rfl := List.mem_singleton.mp member
          cases about

/-- The order an event claims for the position. -/
def placedId? : PositionEvent → Option OffchainOrderId
  | .offChainOrderPlaced id .. => some id
  | _ => none

/-- Claim and anchor after an event stem from before it, or from the event. -/
theorem evolve_slots {entity next : Position} {event : PositionEvent}
    (h : entity.evolve event = .ok (some next)) :
    (next.pendingOffchainOrderId = entity.pendingOffchainOrderId ∨
        next.pendingOffchainOrderId = placedId? event) ∧
      (next.lastFailedOffchainOrderId = entity.lastFailedOffchainOrderId ∨
        next.lastFailedOffchainOrderId = entity.pendingOffchainOrderId ∨
        next.lastFailedOffchainOrderId = none) := by
  cases event with
  | onChainOrderFilled =>
      obtain ⟨claim, anchor⟩ := evolve_fill_slots h
      exact ⟨.inl claim, .inl anchor⟩
  | offChainOrderFilled id shares direction executorOrderId price brokerTimestamp =>
      simp only [evolve] at h
      split at h
      · cases h
      · obtain ⟨net, -, done⟩ := bind_eq_ok.mp h
        cases done
        exact ⟨.inr rfl, .inr (.inr rfl)⟩
  | initialized => cases h
  | onChainFillApplied | onChainFillSettled | thresholdUpdated =>
      cases h
      exact ⟨.inl rfl, .inl rfl⟩
  | manualPositionAdjusted =>
      cases h
      exact ⟨.inl rfl, .inr (.inr rfl)⟩
  | offChainOrderPlaced =>
      simp only [evolve] at h
      split at h <;> cases h
      exact ⟨.inr rfl, .inl rfl⟩
  | offChainOrderCancelled =>
      simp only [evolve] at h
      split at h <;> cases h
      exact ⟨.inr rfl, .inr (.inr rfl)⟩
  | offChainOrderFailed id error failedAt =>
      simp only [evolve] at h
      split at h
      · cases h
      · rename_i claimed
        cases h
        refine ⟨.inr rfl, ?_⟩
        cases anchor : entity.lastFailedOffchainOrderId with
        | some earlier => exact .inl (by simp)
        | none => exact .inr (.inl (by simpa using (not_ne_iff.mp claimed).symm))

/-- What a position claims or is anchored to was placed at some time before. -/
theorem slot_placed {stream : List PositionEvent} {entity : Position}
    (h : aggregate.lifecycle stream = .live entity) {id : OffchainOrderId}
    (slot : entity.pendingOffchainOrderId = some id ∨
      entity.lastFailedOffchainOrderId = some id) :
    ∃ event ∈ stream, placedId? event = some id := by
  induction stream using List.reverseRecOn generalizing entity with
  | nil => cases h
  | append_singleton rest event ih =>
      rw [Aggregate.lifecycle_append] at h
      cases before : aggregate.lifecycle rest with
      | failed => simp [before] at h
      | uninitialized =>
          simp only [before, Aggregate.replay_cons, Aggregate.replay_nil, Aggregate.apply] at h
          split at h
          case h_1 created originated =>
            cases h
            cases event <;> cases originated
            rcases slot with claim | anchor
            · cases claim
            · cases anchor
          case h_2 => cases h
      | live earlier =>
          simp only [before, Aggregate.replay_cons, Aggregate.replay_nil, Aggregate.apply] at h
          split at h
          case h_2 => cases h
          case h_1 next evolved =>
            cases h
            have older : earlier.pendingOffchainOrderId = some id ∨
                earlier.lastFailedOffchainOrderId = some id →
                  ∃ event' ∈ rest ++ [event], placedId? event' = some id := by
              intro known
              obtain ⟨placed, member, isPlaced⟩ := ih before known
              exact ⟨placed, List.mem_append_left _ member, isPlaced⟩
            obtain ⟨claims, anchors⟩ := evolve_slots evolved
            rcases slot with claim | anchor
            · rcases claims with same | placed
              · exact older (.inl (same ▸ claim))
              · exact ⟨event, by simp, placed ▸ claim⟩
            · rcases anchors with same | moved | cleared
              · exact older (.inr (same ▸ anchor))
              · exact older (.inl (moved ▸ anchor))
              · rw [cleared] at anchor
                cases anchor

end Position

end Liquidity
