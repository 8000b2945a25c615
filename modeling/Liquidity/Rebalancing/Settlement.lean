import Liquidity.Rebalancing.Reactor
import Liquidity.UsdcRebalance.Lifecycle

/-!
# A settled transfer gives back what it held

The service follows one transfer from its first event on. `Mirrors` says what
tracking and inventory look like in each state of the rebalance: untouched
before the withdrawal, the initiated amount inflight from then on, and tracked
as past the burn once a burn is recorded. From this every ending can be read
off, for both directions and for every failure on the way.

The one call that fails is the settlement of more than was initiated. It is
refused before anything changes, so guard, tracking and inflight stay as they
were.
-/

namespace Liquidity

open EventSourcing UsdcRebalance

namespace RebalancingService

/-- The amount the latest withdrawal event reserved. -/
def initiatedAmount (seen : List UsdcRebalanceEvent) : Usdc :=
  seen.foldl (fun amount event =>
    match event with
    | .initiated _ initiated _ _ => initiated
    | _ => amount) 0

/-- The amount the latest mint brought to the destination chain. -/
def bridgedAmount (seen : List UsdcRebalanceEvent) : Usdc :=
  seen.foldl (fun amount event =>
    match event with
    | .bridged _ received _ _ | .bridgingCompletionRecovered _ received _ _ => received
    | _ => amount) 0

/-- What a terminal success settles at the destination. -/
def settledAmount (seen : List UsdcRebalanceEvent) :
    UsdcRebalanceEvent → Option (UsdcTrackingEvent × Usdc)
  | .conversionConfirmed .baseToAlpaca conversion _ =>
      some (.conversionConfirmed, conversion.receivedAmount)
  | .depositConfirmed .alpacaToBase _ => some (.depositConfirmed, bridgedAmount seen)
  | _ => none

/-- A failure before the burn. -/
def isPreBurnFailure : UsdcRebalance → Bool
  | .withdrawalFailed .. | .bridgingFailed _ _ none none .. | .conversionFailed .alpacaToBase .. =>
      true
  | _ => false

/-- The source covers what the transfer withdraws. -/
def Covers (start : Inventory) : UsdcRebalanceEvent → Prop
  | .initiated direction amount _ _ => amount ≤ start.available (sourceVenue direction)
  | _ => True

instance (start : Inventory) : (event : UsdcRebalanceEvent) → Decidable (Covers start event)
  | .initiated .. => inferInstanceAs (Decidable (_ ≤ _))
  | .conversionInitiated .. | .conversionConfirmed .. | .conversionFailed ..
  | .withdrawalSubmitting .. | .withdrawalConfirmed .. | .withdrawalFailed ..
  | .bridgingSubmitting .. | .bridgingInitiated .. | .pendingBurnRecorded ..
  | .pendingBurnCleared .. | .bridgeAttestationReceived .. | .attestationTimedOut ..
  | .bridged .. | .bridgingFailed .. | .bridgingCompletionRecovered .. | .depositInitiated ..
  | .depositConfirmed .. | .depositFailed .. | .operatorReconciled .. =>
      inferInstanceAs (Decidable True)

/-- Nothing of a transfer is left in the service. -/
structure Released (service : RebalancingService) (id : UsdcRebalanceId) (source : Venue) :
    Prop where
  inProgress : service.usdcInProgress = false
  tracking : service.usdcTracking id = none
  active : service.inventory.activeUsdcRebalance = none
  inflight : service.inventory.usdc.inflight source = 0

/-- What an ended transfer leaves behind: everything is released, a success has
moved the money, a failure before the burn has moved nothing. -/
structure Ended (start : Inventory) (id : UsdcRebalanceId) (seen : List UsdcRebalanceEvent)
    (event : UsdcRebalanceEvent) (entity : UsdcRebalance) (service : RebalancingService) :
    Prop where
  released : service.Released id (sourceVenue entity.direction)
  success : ∀ kind settled, settledAmount seen event = some (kind, settled) →
    service.inventory.usdc.available (sourceVenue entity.direction) =
        start.available (sourceVenue entity.direction) - initiatedAmount seen ∧
      service.inventory.usdc.available (sourceVenue entity.direction).other =
        start.available (sourceVenue entity.direction).other + settled
  failure : isPreBurnFailure entity = true →
    ∀ venue, service.inventory.usdc.available venue = start.available venue

/-! ## The inventory while a transfer runs -/

/-- The amount has left the available balance of the source and is inflight. -/
def Reserved (start : Inventory) (source : Venue) (amount : Usdc) (inventory : Inventory) : Prop :=
  inventory.balance source = ⟨start.available source - amount, amount⟩ ∧
    inventory.balance source.other = start.balance source.other

def Untouched (start inventory : Inventory) : Prop :=
  ∀ venue, inventory.balance venue = start.balance venue

theorem Untouched.available {start inventory : Inventory} (h : Untouched start inventory)
    (venue : Venue) : inventory.available venue = start.available venue := by
  simp [Inventory.available, h venue]

/-- A tracking entry whose amount is inflight at the source. -/
structure Reserves (start : Inventory) (seen : List UsdcRebalanceEvent)
    (direction : RebalanceDirection) (usdc : Inventory) (tracking : UsdcRebalanceTracking) :
    Prop where
  sided : tracking.direction = direction
  amount : tracking.initiatedAmount = initiatedAmount seen
  started : tracking.sourceTransferStarted = true
  reserved : Reserved start (sourceVenue direction) (initiatedAmount seen) usdc

/-- Tracking and inventory in each state of a rebalance. -/
def Mirrors (start : Inventory) (seen : List UsdcRebalanceEvent) (usdc : Inventory)
    (entry : Option UsdcRebalanceTracking) : Option UsdcRebalance → Prop
  | none | some (.withdrawalSubmitting .baseToAlpaca ..) => entry = none ∧ Untouched start usdc
  | some (.converting .alpacaToBase ..) | some (.conversionComplete .alpacaToBase ..)
  | some (.withdrawalSubmitting .alpacaToBase ..) =>
      (∃ tracking, entry = some tracking ∧ tracking.direction = .alpacaToBase ∧
        tracking.sourceTransferStarted = false ∧ tracking.isPostBurn = false) ∧ Untouched start usdc
  | some (.withdrawing direction ..) | some (.withdrawalComplete direction ..)
  | some (.bridgingSubmitting direction ..) =>
      ∃ tracking, entry = some tracking ∧ Reserves start seen direction usdc tracking ∧
        tracking.isPostBurn = false
  | some (.bridging direction ..) | some (.awaitingAttestation direction ..)
  | some (.attested direction ..) | some (.bridgingFailed direction _ (some _) ..)
  | some (.depositFailed direction ..) =>
      ∃ tracking, entry = some tracking ∧ Reserves start seen direction usdc tracking ∧
        tracking.isPostBurn = true
  | some (.bridged direction ..) | some (.depositInitiated direction ..) =>
      ∃ tracking, entry = some tracking ∧ Reserves start seen direction usdc tracking ∧
        tracking.isPostBurn = true ∧
        tracking.bridgedAmountReceived = some (bridgedAmount seen)
  | some (.depositConfirmed .baseToAlpaca ..) | some (.converting .baseToAlpaca ..)
  | some (.conversionFailed .baseToAlpaca ..) =>
      ∃ tracking, entry = some tracking ∧ Reserves start seen .baseToAlpaca usdc tracking ∧
        tracking.isPostBurn = true
  | some (.bridgingFailed _ _ none nonce ..) => nonce = none
  | some (.depositConfirmed .alpacaToBase ..) | some (.conversionComplete .baseToAlpaca ..)
  | some (.conversionFailed .alpacaToBase ..) | some (.withdrawalFailed ..)
  | some (.reconciled ..) => True

theorem initiatedAmount_append (seen : List UsdcRebalanceEvent) (event : UsdcRebalanceEvent)
    (h : ∀ direction amount withdrawal time, event ≠ .initiated direction amount withdrawal time) :
    initiatedAmount (seen ++ [event]) = initiatedAmount seen := by
  cases event with
  | initiated direction amount withdrawal time => exact absurd rfl (h direction amount withdrawal time)
  | _ => simp [initiatedAmount]

/-- The entry moves on, its reservation stays. -/
theorem Reserves.progress {start usdc : Inventory} {seen : List UsdcRebalanceEvent}
    {direction : RebalanceDirection} {tracking next : UsdcRebalanceTracking}
    (h : Reserves start seen direction usdc tracking) {event : UsdcRebalanceEvent}
    (other : ∀ direction amount withdrawal time,
      event ≠ .initiated direction amount withdrawal time)
    (sided : next.direction = tracking.direction)
    (amount : next.initiatedAmount = tracking.initiatedAmount)
    (started : next.sourceTransferStarted = true) :
    Reserves start (seen ++ [event]) direction usdc next := by
  have same := initiatedAmount_append seen event other
  exact ⟨sided.trans h.sided, by rw [amount, h.amount, same], started, by rw [same]; exact h.reserved⟩

theorem Reserves.kept {start usdc : Inventory} {seen : List UsdcRebalanceEvent}
    {direction : RebalanceDirection} {tracking : UsdcRebalanceTracking}
    (reserves : Reserves start seen direction usdc tracking) {event : UsdcRebalanceEvent}
    (other : ∀ direction amount withdrawal time,
      event ≠ .initiated direction amount withdrawal time) :
    Reserves start (seen ++ [event]) direction usdc tracking :=
  reserves.progress other rfl rfl reserves.started

/-! ## One event -/

section Step

variable [FloatFormat]

/-- The call succeeds, the service mirrors the next state, and if the transfer
has ended there, it has given back everything. -/
def Accepted (start : Inventory) (id : UsdcRebalanceId) (seen : List UsdcRebalanceEvent)
    (event : UsdcRebalanceEvent) (next : UsdcRebalance) (service : RebalancingService)
    (now : Time) : Prop :=
  ∃ after, service.onUsdcRebalance now id event = .ok after ∧
    after.timedOutUsdcRebalances id = none ∧
    Mirrors start (seen ++ [event]) after.inventory.usdc (after.usdcTracking id) (some next) ∧
    (next.holdsRebalanceGuard = false → Ended start id seen event next after)

variable {start : Inventory} {id : UsdcRebalanceId} {seen : List UsdcRebalanceEvent}
variable {event : UsdcRebalanceEvent} {next : UsdcRebalance} {service applied : RebalancingService}
variable {now : Time} {outcome : UsdcSettlementOutcome}

theorem onUsdcRebalance_applied {action : UsdcTerminalAction}
    (live : service.timedOutUsdcRebalances id = none)
    (acts : usdcTerminalAction (service.usdcTracking id) event = action)
    (applies : service.applyUsdcRebalanceEvent id event action now = .ok (outcome, applied)) :
    service.onUsdcRebalance now id event = .ok (applied.conclude id action outcome) := by
  simp [onUsdcRebalance, live, acts, applies, bind, Except.bind, pure, Except.pure]

/-- An event on the way. -/
theorem Accepted.underway (live : service.timedOutUsdcRebalances id = none)
    (acts : usdcTerminalAction (service.usdcTracking id) event = .notTerminal)
    (applies : service.applyUsdcRebalanceEvent id event .notTerminal now = .ok (outcome, applied))
    (kept : applied.timedOutUsdcRebalances = service.timedOutUsdcRebalances)
    (mirrors : Mirrors start (seen ++ [event]) applied.inventory.usdc (applied.usdcTracking id)
      (some next)) (holds : next.holdsRebalanceGuard = true) :
    Accepted start id seen event next service now := by
  refine ⟨_, onUsdcRebalance_applied live acts applies, ?_, mirrors, by simp [holds]⟩
  change applied.timedOutUsdcRebalances id = none
  rw [kept, live]

/-- A failure after the burn keeps everything as it is. -/
theorem Accepted.preserved (live : service.timedOutUsdcRebalances id = none)
    (acts : usdcTerminalAction (service.usdcTracking id) event = .preservePostBurn)
    (applies : service.applyUsdcRebalanceEvent id event .preservePostBurn now =
      .ok (outcome, service))
    (mirrors : Mirrors start (seen ++ [event]) service.inventory.usdc (service.usdcTracking id)
      (some next)) (holds : next.holdsRebalanceGuard = true) :
    Accepted start id seen event next service now :=
  ⟨_, onUsdcRebalance_applied live acts applies, live, mirrors, by simp [holds]⟩

/-- A terminal event that clears, with the balances it leaves. -/
theorem Accepted.cleared (live : service.timedOutUsdcRebalances id = none)
    (acts : usdcTerminalAction (service.usdcTracking id) event = .clear)
    (applies : service.applyUsdcRebalanceEvent id event .clear now = .ok (outcome, applied))
    (kept : applied.timedOutUsdcRebalances = service.timedOutUsdcRebalances)
    (mirrors : ∀ usdc entry, Mirrors start (seen ++ [event]) usdc entry (some next))
    (inflight : applied.inventory.usdc.inflight (sourceVenue next.direction) = 0)
    (success : ∀ kind settled, settledAmount seen event = some (kind, settled) →
      applied.inventory.usdc.available (sourceVenue next.direction) =
          start.available (sourceVenue next.direction) - initiatedAmount seen ∧
        applied.inventory.usdc.available (sourceVenue next.direction).other =
          start.available (sourceVenue next.direction).other + settled)
    (failure : isPreBurnFailure next = true →
      ∀ venue, applied.inventory.usdc.available venue = start.available venue) :
    Accepted start id seen event next service now := by
  refine ⟨_, onUsdcRebalance_applied live acts applies, ?_, mirrors _ _, fun _ => ?_⟩
  · change applied.timedOutUsdcRebalances id = none
    rw [kept, live]
  · exact ⟨⟨rfl, by simp [conclude, untrack], rfl, inflight⟩, success, failure⟩

omit [FloatFormat] in
theorem Reserved.balance {source : Venue} {amount : Usdc} {usdc : Inventory}
    (h : Reserved start source amount usdc) :
    usdc.available source = start.available source - amount ∧ usdc.inflight source = amount ∧
      usdc.available source.other = start.available source.other := by
  obtain ⟨atSource, elsewhere⟩ := h
  simp [Inventory.available, Inventory.inflight, atSource, elsewhere]

omit [FloatFormat] in
/-- The service with new USDC balances. -/
def withUsdc (service : RebalancingService) (usdc : Inventory) (now : Time) : RebalancingService :=
  { service with inventory := { service.inventory with usdc, lastUpdated := now } }

omit [FloatFormat] in
theorem settleInventory_ok {source : Venue} {update : Inventory → Except InventoryError Inventory}
    {updated : Inventory} (h : update service.inventory.usdc = .ok updated) :
    service.settleInventory source update now =
      .ok (.reconciled, service.withUsdc (updated.withLastRebalancing now) now) := by
  simp [settleInventory, withUsdc, InventoryView.updateUsdc, h, Except.map, bind, Except.bind, pure,
    Except.pure]

/-- Settling a reserved transfer moves the amount off the source and credits the
destination. -/
theorem settle_reserved (exact : FloatFormat.IsExact) {tracking : UsdcRebalanceTracking}
    {direction : RebalanceDirection} {settled : Usdc} {kind : UsdcTrackingEvent}
    (tracked : service.usdcTracking id = some tracking)
    (reserves : Reserves start seen direction service.inventory.usdc tracking)
    (within : settled ≤ initiatedAmount seen) :
    ∃ usdc, service.completeUsdcRebalance id kind settled now =
        .ok (.reconciled, service.withUsdc usdc now) ∧
      usdc.inflight (sourceVenue direction) = 0 ∧
      usdc.available (sourceVenue direction) =
        start.available (sourceVenue direction) - initiatedAmount seen ∧
      usdc.available (sourceVenue direction).other =
        start.available (sourceVenue direction).other + settled := by
  obtain ⟨atSource, inflight, elsewhere⟩ := reserves.reserved.balance
  have sent : tracking.initiatedAmount ≤
      service.inventory.usdc.inflight (sourceVenue direction) := by
    rw [inflight, reserves.amount]
  have bounded : ¬ tracking.initiatedAmount < settled := by
    rw [reserves.amount]
    exact not_lt.mpr within
  have settles := Inventory.settleTransfer_exact exact settled sent
  generalize updatedEq : Inventory.setVenue _ _ _ = updated at settles
  refine ⟨updated.withLastRebalancing now, ?_, ?_, ?_, ?_⟩
  · simp only [completeUsdcRebalance, tracked, bounded, if_false]
    refine settleInventory_ok ?_
    rw [UsdcRebalanceTracking.sourceVenue, reserves.sided]
    exact settles
  · simp [Inventory.inflight, ← updatedEq, reserves.amount]
    simpa [Inventory.inflight, sub_eq_zero] using inflight
  · simpa [Inventory.available, ← updatedEq] using atSource
  · simpa [Inventory.available, ← updatedEq] using elsewhere

/-- Cancelling a reserved transfer brings the amount back. -/
theorem cancel_reserved (exact : FloatFormat.IsExact) {tracking : UsdcRebalanceTracking}
    {direction : RebalanceDirection} (tracked : service.usdcTracking id = some tracking)
    (reserves : Reserves start seen direction service.inventory.usdc tracking) :
    ∃ usdc, service.cancelTrackedUsdcRebalance id now =
        .ok (.reconciled, service.withUsdc usdc now) ∧
      usdc.inflight (sourceVenue direction) = 0 ∧
      ∀ venue, usdc.available venue = start.available venue := by
  obtain ⟨atSource, inflight, elsewhere⟩ := reserves.reserved.balance
  have sent : tracking.initiatedAmount ≤
      service.inventory.usdc.inflight (sourceVenue direction) := by
    rw [inflight, reserves.amount]
  have cancels := Inventory.transfer_cancel_exact exact sent
  generalize updatedEq : Inventory.setVenue _ _ _ = updated at cancels
  refine ⟨updated.withLastRebalancing now, ?_, ?_, ?_⟩
  · simp only [cancelTrackedUsdcRebalance, tracked, reserves.started, if_true]
    refine settleInventory_ok ?_
    rw [UsdcRebalanceTracking.sourceVenue, reserves.sided]
    exact cancels
  · simp [Inventory.inflight, ← updatedEq, reserves.amount]
    simpa [Inventory.inflight, sub_eq_zero] using inflight
  · intro venue
    by_cases here : venue = sourceVenue direction
    · subst here
      simp only [Inventory.available, Inventory.balance_withLastRebalancing, ← updatedEq,
        Inventory.balance_setVenue_self] at atSource ⊢
      rw [atSource, reserves.amount, sub_add_cancel]
    · obtain rfl : venue = (sourceVenue direction).other := by
        cases venue <;> cases direction <;> simp_all [sourceVenue, Venue.other]
      simpa [Inventory.available, ← updatedEq] using elsewhere

omit [FloatFormat] in
/-- What an operator settled leaves no inflight at the source. -/
theorem reconcile_ok (service : RebalancingService) (direction : RebalanceDirection) (now : Time) :
    ∃ usdc, service.reconcileOperatorResolved direction now = .ok (service.withUsdc usdc now) ∧
      usdc.inflight (sourceVenue direction) = 0 := by
  obtain ⟨cleared, clears, atSource, -⟩ :=
    service.inventory.usdc.setInflight_zero (sourceVenue direction)
  refine ⟨cleared.withLastRebalancing now, ?_, by simp [Inventory.inflight, atSource]⟩
  simp [reconcileOperatorResolved, InventoryView.clearUsdcInflight, InventoryView.updateUsdc, clears,
    withUsdc, Except.map, Except.mapError, bind, Except.bind, pure, Except.pure]

/-- The withdrawal reserves its amount, whether or not a conversion was tracked
before it. -/
theorem start_reserves (exact : FloatFormat.IsExact) {direction : RebalanceDirection}
    {amount : Usdc} {initiatedAt : Time}
    (idle : (service.usdcTracking id).any (·.sourceTransferStarted) = false)
    (quiet : ∀ venue, start.inflight venue = 0) (untouched : Untouched start service.inventory.usdc)
    (covers : amount ≤ start.available (sourceVenue direction)) :
    ∃ usdc tracking, service.trackInitiatedUsdcRebalance id direction amount initiatedAt now =
        .ok ((service.withUsdc usdc now).track id tracking) ∧
      tracking.direction = direction ∧ tracking.initiatedAmount = amount ∧
      tracking.stage = .initiated ∧ Reserved start (sourceVenue direction) amount usdc := by
  have enough : amount ≤ service.inventory.usdc.available (sourceVenue direction) := by
    rw [untouched.available]
    exact covers
  have starts := Inventory.transfer_start_exact exact enough
  generalize updatedEq : Inventory.setVenue _ _ _ = updated at starts
  refine ⟨updated, ⟨direction, amount, (service.usdcTracking id).bind (·.bridgedAmountReceived),
    .initiated, initiatedAt⟩, ?_, rfl, rfl, rfl, ?_⟩
  · simp only [trackInitiatedUsdcRebalance, idle, Bool.false_eq_true, if_false,
      InventoryView.updateUsdc, UsdcRebalanceTracking.sourceVenue, starts]
    rfl
  · have before := untouched (sourceVenue direction)
    have still := quiet (sourceVenue direction)
    simp only [Inventory.inflight] at still
    rw [← updatedEq]
    refine ⟨?_, by simpa using untouched _⟩
    simp [Inventory.available, Inventory.inflight, before, still]

omit [FloatFormat] in
theorem trackUsdcStageProgress_eq {tracking : UsdcRebalanceTracking}
    (tracked : service.usdcTracking id = some tracking) :
    service.trackUsdcStageProgress id event = service.track id (tracking.trackProgress event) := by
  simp [trackUsdcStageProgress, tracked]

omit [FloatFormat] in
theorem trackBridged_eq {tracking : UsdcRebalanceTracking} {received : Usdc}
    (tracked : service.usdcTracking id = some tracking) :
    (service.trackBridgedAmount id received).trackUsdcStageProgress id event =
      service.track id
        ({ tracking with bridgedAmountReceived := some received }.trackProgress event) := by
  simp [trackBridgedAmount, tracked, trackUsdcStageProgress, track]

omit [FloatFormat] in
@[simp] theorem track_tracking (tracking : UsdcRebalanceTracking) :
    (service.track id tracking).usdcTracking id = some tracking := by
  simp [track]

omit [FloatFormat] in
theorem isPostBurn_eq (tracking : UsdcRebalanceTracking) :
    tracking.isPostBurn = (tracking.stage ≠ .initiated && tracking.stage ≠ .withdrawalConfirmed &&
      (tracking.direction = .baseToAlpaca ||
        tracking.stage ≠ .conversionInitiated && tracking.stage ≠ .conversionConfirmed)) := by
  obtain ⟨direction, amount, received, stage, lastProgressAt⟩ := tracking
  cases direction <;> cases stage <;> rfl

omit [FloatFormat] in
theorem started_of_stage {tracking : UsdcRebalanceTracking}
    (h : tracking.stage ≠ .conversionInitiated ∧ tracking.stage ≠ .conversionConfirmed) :
    tracking.sourceTransferStarted = true := by
  unfold UsdcRebalanceTracking.sourceTransferStarted
  cases tracking.direction <;> simp [h]

/-- The withdrawal of a transfer that was waiting for it. -/
theorem Accepted.withdrawal (exact : FloatFormat.IsExact)
    (quiet : ∀ venue, start.inflight venue = 0) (live : service.timedOutUsdcRebalances id = none)
    {direction : RebalanceDirection} {amount : Usdc} {withdrawal : TransferRef} {time time' : Time}
    (idle : (service.usdcTracking id).any (·.sourceTransferStarted) = false)
    (untouched : Untouched start service.inventory.usdc)
    (covers : amount ≤ start.available (sourceVenue direction)) :
    Accepted start id seen (.initiated direction amount withdrawal time)
      (.withdrawing direction amount withdrawal time') service now := by
  obtain ⟨usdc, tracking, starts, sided, amounts, staged, reserved⟩ :
      ∃ usdc tracking, service.trackInitiatedUsdcRebalance id direction amount time now =
          .ok ((service.withUsdc usdc now).track id tracking) ∧ _ :=
    start_reserves exact idle quiet untouched covers
  have same : initiatedAmount (seen ++ [.initiated direction amount withdrawal time]) = amount := by
    simp [initiatedAmount]
  have applies : service.applyUsdcRebalanceEvent id (.initiated direction amount withdrawal time)
      .notTerminal now = .ok (.reconciled, (service.withUsdc usdc now).track id tracking) := by
    simp [applyUsdcRebalanceEvent, starts, bind, Except.bind, pure, Except.pure]
  refine .underway live rfl applies rfl
    ⟨tracking, by simp, ⟨sided, by rw [same, amounts], ?_, by rw [same]; exact reserved⟩, ?_⟩ rfl
  · exact started_of_stage (by simp [staged])
  · simp [isPostBurn_eq, staged]

/-- An event that moves a reserved transfer to its next stage. -/
theorem Accepted.advancing {tracking : UsdcRebalanceTracking} {direction : RebalanceDirection}
    {stage : UsdcRebalanceStage} {time : Time} (live : service.timedOutUsdcRebalances id = none)
    (tracked : service.usdcTracking id = some tracking)
    (reserves : Reserves start seen direction service.inventory.usdc tracking)
    (staged : UsdcRebalanceStage.ofEvent event = some (stage, time))
    (away : stage ≠ .initiated ∧ stage ≠ .conversionInitiated ∧ stage ≠ .conversionConfirmed)
    (acts : usdcTerminalAction (service.usdcTracking id) event = .notTerminal)
    (applies : service.applyUsdcRebalanceEvent id event .notTerminal now =
      .ok (.reconciled, service.trackUsdcStageProgress id event))
    (mirrors : ∀ moved : UsdcRebalanceTracking, moved.stage = stage →
      Reserves start (seen ++ [event]) direction service.inventory.usdc moved →
      moved.bridgedAmountReceived = tracking.bridgedAmountReceived →
      Mirrors start (seen ++ [event]) service.inventory.usdc (some moved) (some next))
    (holds : next.holdsRebalanceGuard = true) : Accepted start id seen event next service now := by
  rw [trackUsdcStageProgress_eq tracked] at applies
  have moves : tracking.trackProgress event =
      { tracking with stage, lastProgressAt := time } := by
    simp [UsdcRebalanceTracking.trackProgress, staged]
  refine .underway live acts applies rfl ?_ holds
  rw [track_tracking, moves]
  refine mirrors _ rfl (reserves.progress ?_ rfl rfl (started_of_stage ⟨away.2.1, away.2.2⟩)) rfl
  rintro _ _ _ _ rfl
  exact away.1 (by cases staged; rfl)

/-- A failure before the burn: what was reserved is back at the source. -/
theorem Accepted.cancelled (exact : FloatFormat.IsExact)
    {tracking : UsdcRebalanceTracking} (live : service.timedOutUsdcRebalances id = none)
    (tracked : service.usdcTracking id = some tracking)
    (reserves : Reserves start seen next.direction service.inventory.usdc tracking)
    (acts : usdcTerminalAction (service.usdcTracking id) event = .clear)
    (applies : service.applyUsdcRebalanceEvent id event .clear now =
      service.cancelTrackedUsdcRebalance id now)
    (mirrors : ∀ usdc entry, Mirrors start (seen ++ [event]) usdc entry (some next))
    (failed : settledAmount seen event = none) : Accepted start id seen event next service now := by
  obtain ⟨usdc, cancels, inflight, available⟩ :
      ∃ usdc, service.cancelTrackedUsdcRebalance id now =
        .ok (.reconciled, service.withUsdc usdc now) ∧ _ := cancel_reserved exact tracked reserves
  refine .cleared live acts (applies.trans cancels) rfl mirrors inflight ?_ (fun _ => available)
  rintro _ _ settles
  cases failed.symm.trans settles

/-- An operator's settlement. -/
theorem Accepted.resolved {direction : RebalanceDirection} {amount : Usdc}
    {reason : ReconcileReason} {failure : Option String} {initiatedAt time : Time}
    (live : service.timedOutUsdcRebalances id = none) :
    Accepted start id seen (.operatorReconciled direction amount reason initiatedAt time)
      (.reconciled direction amount reason failure initiatedAt time) service now := by
  obtain ⟨usdc, reconciles, inflight⟩ := service.reconcile_ok direction now
  have applies : service.applyUsdcRebalanceEvent id
      (.operatorReconciled direction amount reason initiatedAt time) .clear now =
        .ok (.deferredToSnapshot, service.withUsdc usdc now) := by
    simp [applyUsdcRebalanceEvent, reconciles, bind, Except.bind, pure, Except.pure]
  exact .cleared live rfl applies rfl (fun _ _ => trivial) inflight (by rintro _ _ ⟨⟩)
    (by rintro ⟨⟩)

/-- A mint, first reported or recovered. -/
theorem Accepted.minted {tracking : UsdcRebalanceTracking} {direction : RebalanceDirection}
    {received : Usdc} {time : Time} (live : service.timedOutUsdcRebalances id = none)
    (tracked : service.usdcTracking id = some tracking)
    (reserves : Reserves start seen direction service.inventory.usdc tracking)
    (staged : UsdcRebalanceStage.ofEvent event = some (.bridged, time))
    (acts : usdcTerminalAction (service.usdcTracking id) event = .notTerminal)
    (applies : service.applyUsdcRebalanceEvent id event .notTerminal now =
      .ok (.reconciled, (service.trackBridgedAmount id received).trackUsdcStageProgress id event))
    (mirrors : ∀ moved : UsdcRebalanceTracking, moved.isPostBurn = true →
      Reserves start (seen ++ [event]) direction service.inventory.usdc moved →
      moved.bridgedAmountReceived = some received →
      Mirrors start (seen ++ [event]) service.inventory.usdc (some moved) (some next))
    (holds : next.holdsRebalanceGuard = true) : Accepted start id seen event next service now := by
  rw [trackBridged_eq tracked] at applies
  have moves : ({ tracking with bridgedAmountReceived := some received }).trackProgress event =
      { tracking with
        bridgedAmountReceived := some received, stage := .bridged, lastProgressAt := time } := by
    simp [UsdcRebalanceTracking.trackProgress, staged]
  refine .underway live acts applies rfl ?_ holds
  rw [track_tracking, moves]
  refine mirrors _ (by simp [isPostBurn_eq])
    (reserves.progress ?_ rfl rfl (started_of_stage (by simp))) rfl
  rintro _ _ _ _ rfl
  cases staged

/-- Every event of a transfer that settles within what it initiated is accepted. -/
theorem accepted (exact : FloatFormat.IsExact) (quiet : ∀ venue, start.inflight venue = 0)
    (live : service.timedOutUsdcRebalances id = none) {state : Option UsdcRebalance}
    (mirrors : Mirrors start seen service.inventory.usdc (service.usdcTracking id) state)
    (advances : Advances state event next) (covers : Covers start event)
    (within : ∀ kind settled, settledAmount seen event = some (kind, settled) →
      settled ≤ initiatedAmount seen) : Accepted start id seen event next service now := by
  cases advances with
  | convert amount orderId time =>
      obtain ⟨tracked, untouched⟩ := mirrors
      refine .underway live rfl rfl ?_ ⟨⟨⟨.alpacaToBase, amount, none, .conversionInitiated, time⟩,
        ?_, rfl, rfl, rfl⟩, ?_⟩ rfl
      all_goals simp [upsertConversionTracking, tracked, track, untouched]
  | beginWithdrawal => exact .underway live rfl rfl rfl mirrors rfl
  | withdraw =>
      obtain ⟨tracked, untouched⟩ := mirrors
      exact .withdrawal exact quiet live (by simp [tracked]) untouched covers
  | confirmConversion direction amount orderId initiatedAt conversion time =>
      cases direction with
      | alpacaToBase =>
          obtain ⟨⟨tracking, tracked, sided, waiting, preBurn⟩, untouched⟩ := mirrors
          refine .underway live rfl rfl ?_ ⟨⟨{ tracking with
            stage := .conversionConfirmed, lastProgressAt := time }, ?_, sided, ?_, ?_⟩, ?_⟩ rfl
          · rw [trackUsdcStageProgress_eq tracked]
            rfl
          · rw [trackUsdcStageProgress_eq tracked, track_tracking]
            rfl
          · simp [UsdcRebalanceTracking.sourceTransferStarted, sided]
          · simp [isPostBurn_eq, sided]
          · rw [trackUsdcStageProgress_eq tracked]
            exact untouched
      | baseToAlpaca =>
          obtain ⟨tracking, tracked, reserves, -⟩ := mirrors
          obtain ⟨usdc, settles, inflight, atSource, elsewhere⟩ :=
            settle_reserved exact tracked reserves (within _ _ rfl)
          refine .cleared live rfl settles rfl (fun _ _ => trivial) inflight ?_ (by rintro ⟨⟩)
          rintro _ _ ⟨⟩
          exact ⟨atSource, elsewhere⟩
  | failConversion direction amount orderId initiatedAt reason time =>
      cases direction with
      | alpacaToBase =>
          obtain ⟨⟨tracking, tracked, sided, waiting, preBurn⟩, untouched⟩ := mirrors
          have acts : usdcTerminalAction (service.usdcTracking id) (.conversionFailed reason time) =
              .clear := by
            simp [usdcTerminalAction, isTerminalUsdcRebalanceEvent, postBurnFailure, tracked, preBurn]
          have applies : service.applyUsdcRebalanceEvent id (.conversionFailed reason time) .clear
              now = .ok (.reconciled, service) := by
            simp [applyUsdcRebalanceEvent, cancelTrackedUsdcRebalance, tracked, waiting]
          refine .cleared live acts applies rfl (fun _ _ => trivial) ?_ (by rintro _ _ ⟨⟩)
            (fun _ => untouched.available)
          simpa [Inventory.inflight, untouched _] using quiet _
      | baseToAlpaca =>
          obtain ⟨tracking, tracked, reserves, postBurn⟩ := mirrors
          refine .preserved live ?_ rfl ⟨tracking, tracked, reserves.progress ?_ rfl rfl
            reserves.started, postBurn⟩ rfl
          · simp [usdcTerminalAction, isTerminalUsdcRebalanceEvent, postBurnFailure, tracked,
              postBurn]
          · rintro _ _ _ _ ⟨⟩
  | convertDeposit amount burnTx mintTx initiatedAt confirmedAt orderId time =>
      obtain ⟨tracking, tracked, reserves, -⟩ := mirrors
      have moves : service.upsertConversionTracking id .baseToAlpaca amount time =
          service.track id { tracking with
            stage := .conversionInitiated, lastProgressAt := time } := by
        obtain ⟨direction, initiated, received, stage, lastProgressAt⟩ := tracking
        obtain rfl : direction = .baseToAlpaca := reserves.sided
        simp [upsertConversionTracking, tracked, UsdcRebalanceTracking.sourceTransferStarted]
      refine .underway live rfl rfl (by rw [moves]; rfl) ?_ rfl
      rw [moves, track_tracking]
      refine ⟨_, rfl, reserves.progress ?_ rfl rfl ?_, ?_⟩
      · rintro _ _ _ _ ⟨⟩
      · simp [UsdcRebalanceTracking.sourceTransferStarted, reserves.sided]
      · simp [isPostBurn_eq, reserves.sided]
  | beginConverted => exact .underway live rfl rfl rfl mirrors rfl
  | withdrawConverted =>
      obtain ⟨⟨tracking, tracked, sided, waiting, preBurn⟩, untouched⟩ := mirrors
      exact .withdrawal exact quiet live (by simp [tracked, waiting]) untouched covers
  | withdrawBegun direction amount fromBlock initiatedAt withdrawal time =>
      cases direction with
      | alpacaToBase =>
          obtain ⟨⟨tracking, tracked, sided, waiting, preBurn⟩, untouched⟩ := mirrors
          exact .withdrawal exact quiet live (by simp [tracked, waiting]) untouched covers
      | baseToAlpaca =>
          obtain ⟨tracked, untouched⟩ := mirrors
          exact .withdrawal exact quiet live (by simp [tracked]) untouched covers
  | confirmWithdrawal =>
      obtain ⟨tracking, tracked, reserves, preBurn⟩ := mirrors
      exact .advancing live tracked reserves rfl (by decide) rfl rfl
        (fun moved staged moves _ => ⟨moved, rfl, moves, by simp [isPostBurn_eq, staged]⟩) rfl
  | failWithdrawal =>
      obtain ⟨tracking, tracked, reserves, preBurn⟩ := mirrors
      refine .cancelled exact live tracked reserves ?_ rfl (fun _ _ => trivial) rfl
      simp [usdcTerminalAction, isTerminalUsdcRebalanceEvent, postBurnFailure, tracked, preBurn]
  | beginBridging =>
      obtain ⟨tracking, tracked, reserves, preBurn⟩ := mirrors
      exact .underway live rfl rfl rfl ⟨tracking, tracked,
        reserves.kept (by rintro _ _ _ _ ⟨⟩), preBurn⟩ rfl
  | failWithdrawn =>
      obtain ⟨tracking, tracked, reserves, preBurn⟩ := mirrors
      refine .cancelled exact live tracked reserves ?_ rfl (fun _ _ => rfl) rfl
      simp [usdcTerminalAction, isTerminalUsdcRebalanceEvent, postBurnFailure, tracked, preBurn]
  | bridgeWithdrawn =>
      obtain ⟨tracking, tracked, reserves, preBurn⟩ := mirrors
      exact .advancing live tracked reserves rfl (by decide) rfl rfl
        (fun moved staged moves _ => ⟨moved, rfl, moves, by simp [isPostBurn_eq, staged]⟩) rfl
  | bridgeBegun =>
      obtain ⟨tracking, tracked, reserves, preBurn⟩ := mirrors
      exact .advancing live tracked reserves rfl (by decide) rfl rfl
        (fun moved staged moves _ => ⟨moved, rfl, moves, by simp [isPostBurn_eq, staged]⟩) rfl
  | recordPendingBurn =>
      obtain ⟨tracking, tracked, reserves, preBurn⟩ := mirrors
      exact .underway live rfl rfl rfl ⟨tracking, tracked,
        reserves.kept (by rintro _ _ _ _ ⟨⟩), preBurn⟩ rfl
  | clearPendingBurn =>
      obtain ⟨tracking, tracked, reserves, preBurn⟩ := mirrors
      exact .underway live rfl rfl rfl ⟨tracking, tracked,
        reserves.kept (by rintro _ _ _ _ ⟨⟩), preBurn⟩ rfl
  | failBegun =>
      obtain ⟨tracking, tracked, reserves, preBurn⟩ := mirrors
      refine .cancelled exact live tracked reserves ?_ rfl (fun _ _ => rfl) rfl
      simp [usdcTerminalAction, isTerminalUsdcRebalanceEvent, postBurnFailure, tracked, preBurn]
  | attestBridging =>
      obtain ⟨tracking, tracked, reserves, postBurn⟩ := mirrors
      exact .advancing live tracked reserves rfl (by decide) rfl rfl
        (fun moved staged moves _ => ⟨moved, rfl, moves, by simp [isPostBurn_eq, staged]⟩) rfl
  | attestAwaiting =>
      obtain ⟨tracking, tracked, reserves, postBurn⟩ := mirrors
      exact .advancing live tracked reserves rfl (by decide) rfl rfl
        (fun moved staged moves _ => ⟨moved, rfl, moves, by simp [isPostBurn_eq, staged]⟩) rfl
  | timeoutAttestation =>
      obtain ⟨tracking, tracked, reserves, postBurn⟩ := mirrors
      exact .underway live rfl rfl rfl ⟨tracking, tracked,
        reserves.kept (by rintro _ _ _ _ ⟨⟩), postBurn⟩ rfl
  | failBridging =>
      obtain ⟨tracking, tracked, reserves, postBurn⟩ := mirrors
      exact .preserved live rfl rfl ⟨tracking, tracked,
        reserves.kept (by rintro _ _ _ _ ⟨⟩), postBurn⟩ rfl
  | failAwaiting =>
      obtain ⟨tracking, tracked, reserves, postBurn⟩ := mirrors
      exact .preserved live rfl rfl ⟨tracking, tracked,
        reserves.kept (by rintro _ _ _ _ ⟨⟩), postBurn⟩ rfl
  | failAttested =>
      obtain ⟨tracking, tracked, reserves, postBurn⟩ := mirrors
      exact .preserved live rfl rfl ⟨tracking, tracked,
        reserves.kept (by rintro _ _ _ _ ⟨⟩), postBurn⟩ rfl
  | confirmBridging =>
      obtain ⟨tracking, tracked, reserves, postBurn⟩ := mirrors
      exact .minted live tracked reserves rfl rfl rfl
        (fun moved postBurn moves received =>
          ⟨moved, rfl, moves, postBurn, by simpa [bridgedAmount] using received⟩) rfl
  | recoverBridging =>
      obtain ⟨tracking, tracked, reserves, postBurn⟩ := mirrors
      exact .minted live tracked reserves rfl rfl rfl
        (fun moved postBurn moves received =>
          ⟨moved, rfl, moves, postBurn, by simpa [bridgedAmount] using received⟩) rfl
  | initiateDeposit =>
      obtain ⟨tracking, tracked, reserves, postBurn, received⟩ := mirrors
      exact .advancing live tracked reserves rfl (by decide) rfl rfl
        (fun moved staged moves kept => ⟨moved, rfl, moves, by simp [isPostBurn_eq, staged],
          by rw [kept, received]; simp [bridgedAmount]⟩) rfl
  | confirmDeposit direction amount burnTx mintTx deposit initiatedAt depositedAt time =>
      obtain ⟨tracking, tracked, reserves, postBurn, received⟩ := mirrors
      cases direction with
      | alpacaToBase =>
          obtain ⟨usdc, settles, inflight, atSource, elsewhere⟩ :=
            settle_reserved exact tracked reserves (within _ _ rfl)
          have applies : service.applyUsdcRebalanceEvent id (.depositConfirmed .alpacaToBase time)
              .clear now = .ok (.reconciled, service.withUsdc usdc now) := by
            simp only [applyUsdcRebalanceEvent, completeAlpacaToBaseDeposit, tracked, received]
            exact settles
          refine .cleared live rfl applies rfl (fun _ _ => trivial) inflight ?_ (by rintro ⟨⟩)
          rintro _ _ ⟨⟩
          exact ⟨atSource, elsewhere⟩
      | baseToAlpaca =>
          exact .advancing live tracked reserves rfl (by decide) rfl rfl
            (fun moved staged moves _ => ⟨moved, rfl, moves, by simp [isPostBurn_eq, staged]⟩) rfl
  | failDeposit =>
      obtain ⟨tracking, tracked, reserves, postBurn, -⟩ := mirrors
      exact .preserved live rfl rfl ⟨tracking, tracked,
        reserves.kept (by rintro _ _ _ _ ⟨⟩), postBurn⟩ rfl
  | reconcileDeposit => exact .resolved live
  | reconcileConversion => exact .resolved live
  | reconcileBridging => exact .resolved live

/-- A settlement of more than was initiated is refused. -/
theorem refused (live : service.timedOutUsdcRebalances id = none) {state : Option UsdcRebalance}
    (mirrors : Mirrors start seen service.inventory.usdc (service.usdcTracking id) state)
    (advances : Advances state event next) {kind : UsdcTrackingEvent} {settled : Usdc}
    (settles : settledAmount seen event = some (kind, settled))
    (exceeds : initiatedAmount seen < settled) :
    service.onUsdcRebalance now id event =
      .error (.settledUsdcExceedsInitiatedAmount id kind (initiatedAmount seen) settled) := by
  cases advances with
  | confirmConversion direction =>
      cases direction with
      | alpacaToBase => cases settles
      | baseToAlpaca =>
          cases settles
          obtain ⟨tracking, tracked, reserves, -⟩ := mirrors
          simp only [onUsdcRebalance, live, Option.isSome_none, Bool.false_eq_true, if_false,
            applyUsdcRebalanceEvent, completeUsdcRebalance, tracked, reserves.amount, exceeds,
            if_true]
          rfl
  | confirmDeposit direction =>
      cases direction with
      | alpacaToBase =>
          cases settles
          obtain ⟨tracking, tracked, reserves, -, received⟩ := mirrors
          simp only [onUsdcRebalance, live, Option.isSome_none, Bool.false_eq_true, if_false,
            applyUsdcRebalanceEvent, completeAlpacaToBaseDeposit, received, completeUsdcRebalance,
            tracked, reserves.amount, exceeds, if_true]
          rfl
      | baseToAlpaca => cases settles
  | _ => cases settles

/-! ## A whole transfer -/

/-- The service after an event, whether or not it was accepted. -/
def absorb (id : UsdcRebalanceId) (service : RebalancingService)
    (delivery : UsdcRebalanceEvent × Time) : RebalancingService :=
  match service.onUsdcRebalance delivery.2 id delivery.1 with
  | .ok after => after
  | .error _ => service

/-- The service after the events of a rebalance, delivered in order. -/
def absorbAll (id : UsdcRebalanceId) (service : RebalancingService)
    (deliveries : List (UsdcRebalanceEvent × Time)) : RebalancingService :=
  deliveries.foldl (absorb id) service

/-- What a transfer starts from: no entry for it and nothing inflight. -/
structure Fresh (service : RebalancingService) (id : UsdcRebalanceId) : Prop where
  untracked : service.usdcTracking id = none
  live : service.timedOutUsdcRebalances id = none
  quiet : ∀ venue, service.inventory.usdc.inflight venue = 0

/-- Nothing follows. -/
def Over (state : Option UsdcRebalance) : Prop :=
  ∀ event next, ¬ Advances state event next

omit [FloatFormat] in
theorem terminal_of_settled {state : Option UsdcRebalance} (advances : Advances state event next)
    (settles : settledAmount seen event ≠ none) : Over (some next) := by
  intro event' next' further
  cases advances with
  | confirmConversion direction =>
      cases direction with
      | alpacaToBase => exact settles rfl
      | baseToAlpaca => cases further
  | confirmDeposit direction =>
      cases direction with
      | alpacaToBase => cases further
      | baseToAlpaca => exact settles rfl
  | _ => exact settles rfl

/-- Along a stream the service mirrors the rebalance, until it is terminal. -/
theorem absorbAll_mirrors (exact : FloatFormat.IsExact) {deliveries : List (UsdcRebalanceEvent × Time)}
    {state : Option UsdcRebalance} (emits : Emits (deliveries.map Prod.fst) state)
    (fresh : service.Fresh id)
    (covers : ∀ event ∈ deliveries.map Prod.fst, Covers service.inventory.usdc event) :
    Over state ∨
      (absorbAll id service deliveries).timedOutUsdcRebalances id = none ∧
      Mirrors service.inventory.usdc (deliveries.map Prod.fst)
        (absorbAll id service deliveries).inventory.usdc
        ((absorbAll id service deliveries).usdcTracking id) state := by
  induction deliveries using List.reverseRecOn generalizing state with
  | nil =>
      obtain rfl : none = state := emits.state_eq
      exact .inr ⟨fresh.live, fresh.untracked, fun _ => rfl⟩
  | append_singleton earlier delivery ih =>
      obtain ⟨event, now⟩ := delivery
      rw [List.map_append] at emits covers
      obtain ⟨before, next, rfl, emitted, advances⟩ := emits.inv
      rcases ih emitted (fun event member => covers event (by simp [member])) with
        ended | ⟨live, mirrors⟩
      · exact absurd advances (ended _ _)
      by_cases within : ∀ kind settled, settledAmount (earlier.map Prod.fst) event =
          some (kind, settled) → settled ≤ initiatedAmount (earlier.map Prod.fst)
      · obtain ⟨after, calls, liveAfter, mirrorsAfter, -⟩ :
            Accepted service.inventory.usdc id (earlier.map Prod.fst) event next
              (absorbAll id service earlier) now :=
          accepted exact fresh.quiet live mirrors advances (covers event (by simp)) within
        right
        have absorbed : absorbAll id service (earlier ++ [(event, now)]) = after := by
          simp [absorbAll, absorb] at calls ⊢
          rw [calls]
        rw [absorbed, List.map_append]
        exact ⟨liveAfter, mirrorsAfter⟩
      · left
        have settles : settledAmount (earlier.map Prod.fst) event ≠ none := by
          intro unsettled
          refine within fun _ _ settles => ?_
          cases unsettled.symm.trans settles
        exact terminal_of_settled advances settles

/-- Every call for an event of a transfer returns, whatever came before it. A
settlement of more than was initiated is refused and changes nothing; any other
event is accepted, and one that ends the transfer releases everything it held. -/
theorem settled_transfers_release (exact : FloatFormat.IsExact) (id : UsdcRebalanceId)
    (service : RebalancingService) (fresh : service.Fresh id)
    (deliveries : List (UsdcRebalanceEvent × Time)) (event : UsdcRebalanceEvent) (now : Time)
    (grown : aggregate.Grown issued (deliveries.map Prod.fst ++ [event]))
    (covers : ∀ event' ∈ deliveries.map Prod.fst ++ [event],
      Covers service.inventory.usdc event') :
    (∀ kind settled, settledAmount (deliveries.map Prod.fst) event = some (kind, settled) →
      initiatedAmount (deliveries.map Prod.fst) < settled →
      (absorbAll id service deliveries).onUsdcRebalance now id event =
        .error (.settledUsdcExceedsInitiatedAmount id kind
          (initiatedAmount (deliveries.map Prod.fst)) settled)) ∧
    ((∀ kind settled, settledAmount (deliveries.map Prod.fst) event = some (kind, settled) →
        settled ≤ initiatedAmount (deliveries.map Prod.fst)) →
      ∃ after, (absorbAll id service deliveries).onUsdcRebalance now id event = .ok after ∧
        ∀ entity, aggregate.lifecycle (deliveries.map Prod.fst ++ [event]) = .live entity →
          entity.holdsRebalanceGuard = false →
          Ended service.inventory.usdc id (deliveries.map Prod.fst) event entity after) := by
  obtain ⟨state, emits⟩ := Emits.of_grown grown
  obtain ⟨before, next, rfl, emitted, advances⟩ := emits.inv
  rcases absorbAll_mirrors exact emitted fresh
    (fun event' member => covers event' (List.mem_append_left _ member)) with ended | ⟨live, mirrors⟩
  · exact absurd advances (ended _ _)
  refine ⟨fun kind settled settles exceeds => refused live mirrors advances settles exceeds,
    fun within => ?_⟩
  obtain ⟨after, calls, -, -, ended⟩ :
      Accepted service.inventory.usdc id (deliveries.map Prod.fst) event next
        (absorbAll id service deliveries) now :=
    accepted exact fresh.quiet live mirrors advances (covers event (by simp)) within
  refine ⟨after, calls, fun entity lives => ?_⟩
  obtain rfl : entity = next := by
    rw [emits.lifecycle] at lives
    cases lives
    rfl
  exact ended

end Step

/-- A service with 50000 USDC at each venue and a transfer dispatched. -/
def sampleService : RebalancingService where
  usdcInProgress := true
  usdcTracking := fun _ => none
  timedOutUsdcRebalances := fun _ => none
  inventory := ⟨⟨some ⟨50000, 0⟩, some ⟨50000, 0⟩, none⟩, none, 0⟩
  usdcCheckPending := false

theorem sampleService_fresh (id : UsdcRebalanceId) : sampleService.Fresh id :=
  ⟨rfl, rfl, fun venue => by cases venue <;> rfl⟩

/-- The commands of a BaseToAlpaca transfer of 10000 USDC, up to its conversion. -/
def sampleCommands : List (Time × UsdcRebalanceCommand) :=
  [(0, .beginWithdrawal .baseToAlpaca 10000 7), (1, .initiate .baseToAlpaca 10000 (.onchainTx 1)),
    (2, .confirmWithdrawal none), (3, .beginBridging 8 none), (4, .recordPendingBurn 2),
    (5, .initiateBridging 2), (6, .receiveAttestation [] 3 [] 9), (7, .confirmBridging 4 10000 0),
    (8, .initiateDeposit (.onchainTx 5)), (9, .confirmDeposit),
    (10, .initiatePostDepositConversion ⟨6⟩ 10000)]

/-- The events of these commands, as they are delivered. -/
def sampleDeliveries : List (UsdcRebalanceEvent × Time) :=
  ((aggregate.execute issued sampleCommands []).getD []).map (·, 0)

/-- The conversion of the minted USDC for `received` USD. -/
def sampleConversion (received : Usdc) : UsdcRebalanceEvent :=
  .conversionConfirmed .baseToAlpaca ⟨10000, received⟩ 11

theorem sample_grown (received : Usdc) :
    aggregate.Grown issued (sampleDeliveries.map Prod.fst ++ [sampleConversion received]) :=
  .send (Aggregate.Grown.execute aggregate .empty sampleCommands (by decide +kernel))
    (show issued _ (.confirmConversion ⟨10000, received⟩) = true from rfl)
    (show aggregate.send 11 _ _ = .ok _ from rfl)

theorem sample_lifecycle (received : Usdc) :
    aggregate.lifecycle (sampleDeliveries.map Prod.fst ++ [sampleConversion received]) =
      .live (.conversionComplete .baseToAlpaca 10000 ⟨10000, received⟩ 1 11) :=
  rfl

/-- The sample transfer converted for 9999 USD gives everything back. -/
theorem settled_transfers_release_of_discount :
    ∃ after, @onUsdcRebalance FloatFormat.exact
        (@absorbAll FloatFormat.exact ⟨1⟩ sampleService sampleDeliveries) 11 ⟨1⟩
        (sampleConversion 9999) = .ok after ∧
      after.Released ⟨1⟩ .marketMaking ∧
      after.inventory.usdc.available .marketMaking = 50000 - 10000 ∧
      after.inventory.usdc.available .hedging = 50000 + 9999 := by
  obtain ⟨-, settles⟩ := @settled_transfers_release FloatFormat.exact FloatFormat.exact_isExact ⟨1⟩
    sampleService (sampleService_fresh _) sampleDeliveries (sampleConversion 9999) 11
    (sample_grown _) (by decide +kernel)
  obtain ⟨after, calls, ended⟩ := settles (by
    rintro _ _ ⟨⟩
    decide +kernel)
  obtain ⟨released, success, -⟩ := ended _ (sample_lifecycle _) rfl
  have amount : initiatedAmount (sampleDeliveries.map Prod.fst) = 10000 := by decide +kernel
  obtain ⟨atSource, elsewhere⟩ := success _ _ rfl
  rw [amount] at atSource
  exact ⟨after, calls, released, atSource, elsewhere⟩

/-- A transfer to Alpaca that opens with its conversion, as nobody starts one. -/
def sampleOpening : List (Time × UsdcRebalanceCommand) :=
  [(0, .initiateConversion .baseToAlpaca 10000 ⟨6⟩), (1, .confirmConversion ⟨10000, 9999⟩)]

def sampleOpened : List UsdcRebalanceEvent :=
  (aggregate.execute (fun _ _ => true) sampleOpening []).getD []

/-- A conversion slightly above par settles more than was initiated: the call
fails and the ended transfer keeps the guard, its entry and its inflight. A
conversion that no deposit came before settles without moving the source. -/
theorem settlement_above_par_refused :
    sampleService.Fresh ⟨1⟩ ∧
    aggregate.Grown issued (sampleDeliveries.map Prod.fst ++ [sampleConversion 10002]) ∧
    (∀ event ∈ sampleDeliveries.map Prod.fst ++ [sampleConversion 10002],
      Covers sampleService.inventory.usdc event) ∧
    (∃ entity, aggregate.lifecycle (sampleDeliveries.map Prod.fst ++
        [sampleConversion 10002]) = .live entity ∧ entity.holdsRebalanceGuard = false) ∧
    (@onUsdcRebalance FloatFormat.exact
      (@absorbAll FloatFormat.exact ⟨1⟩ sampleService sampleDeliveries) 11 ⟨1⟩
      (sampleConversion 10002)).isOk = false ∧
    (@absorbAll FloatFormat.exact ⟨1⟩ sampleService
      (sampleDeliveries ++ [(sampleConversion 10002, 11)])).usdcInProgress = true ∧
    ((@absorbAll FloatFormat.exact ⟨1⟩ sampleService
      (sampleDeliveries ++ [(sampleConversion 10002, 11)])).usdcTracking ⟨1⟩).isSome ∧
    (@absorbAll FloatFormat.exact ⟨1⟩ sampleService
      (sampleDeliveries ++ [(sampleConversion 10002, 11)])).inventory.usdc.inflight
        .marketMaking = 10000 ∧
    aggregate.Grown (fun _ _ => true) sampleOpened ∧
    aggregate.lifecycle sampleOpened =
      .live (.conversionComplete .baseToAlpaca 10000 ⟨10000, 9999⟩ 0 1) ∧
    (@absorbAll FloatFormat.exact ⟨1⟩ sampleService
      (sampleOpened.map (·, 0))).inventory.usdc.available .marketMaking = 50000 := by
  exact ⟨sampleService_fresh _, sample_grown _, by decide +kernel, ⟨_, sample_lifecycle _, rfl⟩,
    by decide +kernel, by decide +kernel, by decide +kernel, by decide +kernel,
    Aggregate.Grown.execute aggregate .empty sampleOpening (by decide +kernel), rfl,
    by decide +kernel⟩

end RebalancingService

end Liquidity
