import Liquidity.Rebalancing.Settlement
import Liquidity.Rebalancing.Sweep

/-!
# When the guard is released

Four parties move here: jobs and operators send commands to the rebalance
aggregates, the service is handed the stored events one by one, job rows come
and go, and the sweep acts on what memory, store and job table say at its time.
A restart drops the service's memory and every event that was not handed over.

What the sweep believes about a transfer is its tracking entry. The invariant
is that an entry tracked as before the burn belongs to a rebalance that, as far
as the service has seen its events, records no burn.
-/

namespace Liquidity

open EventSourcing UsdcRebalance

namespace Guard

/-- The store, the job table and the memory of the service. -/
structure State where
  streams : Streams UsdcRebalanceId UsdcRebalanceEvent
  /-- How many events of each rebalance the service was handed. -/
  delivered : UsdcRebalanceId → Nat
  jobs : UsdcRebalanceId → JobRow
  service : RebalancingService

inductive Action where
  /-- The imbalance check takes the guard and enqueues a transfer. -/
  | dispatch (id : UsdcRebalanceId)
  /-- A job or an operator sends a command. -/
  | execute (id : UsdcRebalanceId) (now : Time) (command : UsdcRebalanceCommand)
  /-- The service is handed the next event of a rebalance. -/
  | deliver (id : UsdcRebalanceId) (now : Time)
  /-- A job ends: done, latched for an operator, or out of retries. -/
  | endJob (id : UsdcRebalanceId)
  /-- A redrive or an operator's resume puts a job back. -/
  | enqueueJob (id : UsdcRebalanceId)
  /-- The sweep looks at one transfer. Job table and store may be unreadable. -/
  | sweep (id : UsdcRebalanceId) (now : Time) (rowsReadable storeReadable : Bool)
  | prune (now : Time)
  /-- The process starts again and finds these interrupted rebalances. -/
  | restart (candidates : List UsdcRebalanceId) (storeReadable : UsdcRebalanceId → Bool)
      (unparseable : Bool)

namespace State

/-- The stored state of a rebalance. -/
def entity? (state : State) (id : UsdcRebalanceId) : Option UsdcRebalance :=
  (aggregate.lifecycle (state.streams id)).entity?

/-- The events of a rebalance the service has been handed. -/
def seen (state : State) (id : UsdcRebalanceId) : List UsdcRebalanceEvent :=
  (state.streams id).take (state.delivered id)

def load (state : State) (id : UsdcRebalanceId) (readable : Bool) : Loaded :=
  if readable then .ok (state.entity? id) else .error ()

/-- A service that has just started. -/
def restarted (service : RebalancingService) : RebalancingService :=
  { service with
    usdcInProgress := false
    usdcTracking := fun _ => none
    timedOutUsdcRebalances := fun _ => none
    usdcCheckPending := false }

def initial (inventory : InventoryView) : State where
  streams := fun _ => []
  delivered := fun _ => 0
  jobs := fun _ => .absent
  service := ⟨false, fun _ => none, fun _ => none, inventory, false⟩

end State

variable [FloatFormat]

/-- One action. An action that cannot happen now has no result; a call of the
service that fails leaves it as it was. -/
def step (transferTimeout : Time) (state : State) : Action → Option State
  | .dispatch id =>
      if state.service.usdcInProgress then none
      else some { state with
        service := { state.service with usdcInProgress := true }
        jobs := Function.update state.jobs id .live }
  | .execute id now command =>
      if issued (state.entity? id) command then
        match aggregate.send now command (state.streams id) with
        | .ok events => some { state with streams := state.streams.append id events }
        | .error _ => some state
      else none
  | .deliver id now =>
      (state.streams id)[state.delivered id]?.map fun event =>
        { state with
          delivered := Function.update state.delivered id (state.delivered id + 1)
          service := RebalancingService.absorb id state.service (event, now) }
  | .endJob id => some { state with jobs := Function.update state.jobs id .ended }
  | .enqueueJob id => some { state with jobs := Function.update state.jobs id .live }
  | .sweep id now rowsReadable storeReadable =>
      match state.service.expireStuckUsdcRebalance transferTimeout id
          (if rowsReadable then some (state.jobs id) else none) (state.load id storeReadable) now with
      | .ok (some (.reArmAlpacaToBaseWithdrawal ..), service) =>
          some { state with service, jobs := Function.update state.jobs id .live }
      | .ok (_, service) => some { state with service }
      | .error _ => some state
  | .prune now => some { state with service := state.service.pruneTimeoutMarkers now }
  | .restart candidates storeReadable unparseable =>
      some { state with
        delivered := fun id => (state.streams id).length
        jobs := fun id =>
          match (state.entity? id).bind RebalancingService.rearmCandidate with
          | some (_, _, policy) =>
              if decide (id ∈ candidates) && RebalancingService.rearms policy (state.jobs id) then
                .live
              else state.jobs id
          | none => state.jobs id
        service := (State.restarted state.service).recoverUsdcGuard
          (candidates.map fun id => (id, state.load id (storeReadable id))) unparseable }

/-- A whole run of the service. -/
def run (transferTimeout : Time) (state : State) : List Action → Option State
  | [] => some state
  | action :: rest => (step transferTimeout state action).bind fun next => run transferTimeout next rest

/-! ## What an event does to tracking and guard -/

section Reactor

variable {service applied : RebalancingService} {id : UsdcRebalanceId} {now : Time}
variable {outcome : UsdcSettlementOutcome} {event : UsdcRebalanceEvent}

omit [FloatFormat] in
/-- Only the inventory differs. -/
def OnlyInventory (service applied : RebalancingService) : Prop :=
  ∃ inventory, applied = { service with inventory }

omit [FloatFormat] in
theorem settleInventory_only {source : Venue} {update : Inventory → Except InventoryError Inventory}
    (h : service.settleInventory source update now = .ok (outcome, applied)) :
    OnlyInventory service applied := by
  unfold RebalancingService.settleInventory at h
  split at h
  case h_1 =>
    cases h
    exact ⟨_, rfl⟩
  case h_2 =>
    obtain ⟨inventory, -, rest⟩ := bind_eq_ok.mp h
    cases rest
    exact ⟨_, rfl⟩
  case h_3 => cases h

theorem completeUsdcRebalance_only {kind : UsdcTrackingEvent} {settled : Usdc}
    (h : service.completeUsdcRebalance id kind settled now = .ok (outcome, applied)) :
    OnlyInventory service applied := by
  unfold RebalancingService.completeUsdcRebalance at h
  split at h
  case h_1 =>
    cases h
    exact ⟨_, rfl⟩
  case h_2 =>
    split at h
    case isTrue => cases h
    case isFalse => exact settleInventory_only h

theorem completeAlpacaToBaseDeposit_only
    (h : service.completeAlpacaToBaseDeposit id now = .ok (outcome, applied)) :
    OnlyInventory service applied := by
  unfold RebalancingService.completeAlpacaToBaseDeposit at h
  split at h
  case h_1 =>
    cases h
    exact ⟨_, rfl⟩
  case h_2 =>
    split at h
    case h_1 => cases h
    case h_2 => exact completeUsdcRebalance_only h

theorem cancelTrackedUsdcRebalance_only
    (h : service.cancelTrackedUsdcRebalance id now = .ok (outcome, applied)) :
    OnlyInventory service applied := by
  unfold RebalancingService.cancelTrackedUsdcRebalance at h
  split at h
  case h_1 =>
    cases h
    exact ⟨_, rfl⟩
  case h_2 =>
    split at h
    case isTrue => exact settleInventory_only h
    case isFalse =>
      cases h
      exact ⟨_, rfl⟩

omit [FloatFormat] in
/-- Where a tracking entry puts its transfer. -/
def place (tracking : UsdcRebalanceTracking) : RebalanceDirection × UsdcRebalanceStage :=
  (tracking.direction, tracking.stage)

omit [FloatFormat] in
/-- Where an event moves it to. Terminal events leave it; the guard's release
drops it afterwards. -/
def placeAfter (placed : Option (RebalanceDirection × UsdcRebalanceStage))
    (event : UsdcRebalanceEvent) : Option (RebalanceDirection × UsdcRebalanceStage) :=
  match event with
  | .conversionInitiated direction .. => some (direction, .conversionInitiated)
  | .initiated direction .. => some (direction, .initiated)
  | _ =>
      if RebalancingService.isTerminalUsdcRebalanceEvent event then placed
      else
        match UsdcRebalanceStage.ofEvent event with
        | some (stage, _) => placed.map fun (direction, _) => (direction, stage)
        | none => placed

omit [FloatFormat] in
/-- What an event changes besides the inventory: the place of its own transfer.
The guard stays held. -/
structure Moves (id : UsdcRebalanceId) (event : UsdcRebalanceEvent)
    (service applied : RebalancingService) : Prop where
  guard : service.usdcInProgress = true → applied.usdcInProgress = true
  timedOut : applied.timedOutUsdcRebalances = service.timedOutUsdcRebalances
  others : ∀ other, other ≠ id → applied.usdcTracking other = service.usdcTracking other
  own : (applied.usdcTracking id).map place = placeAfter ((service.usdcTracking id).map place) event

omit [FloatFormat] in
theorem Moves.of_only (only : OnlyInventory service applied)
    (still : placeAfter ((service.usdcTracking id).map place) event =
      (service.usdcTracking id).map place) : Moves id event service applied := by
  obtain ⟨inventory, rfl⟩ := only
  exact ⟨fun held => held, rfl, fun _ _ => rfl, still.symm⟩

omit [FloatFormat] in
theorem Moves.of_track {tracking : UsdcRebalanceTracking}
    (moves : some (place tracking) = placeAfter ((service.usdcTracking id).map place) event)
    (only : OnlyInventory service applied) : Moves id event service (applied.track id tracking) := by
  obtain ⟨inventory, rfl⟩ := only
  refine ⟨fun held => held, rfl, fun other differs => ?_, ?_⟩
  · simp [RebalancingService.track, differs]
  · simpa using moves

omit [FloatFormat] in
theorem Moves.of_progress {stage : UsdcRebalanceStage} {time : Time}
    (staged : UsdcRebalanceStage.ofEvent event = some (stage, time))
    (moves : ∀ placed, placeAfter placed event = placed.map fun (direction, _) => (direction, stage)) :
    Moves id event service (service.trackUsdcStageProgress id event) := by
  cases tracked : service.usdcTracking id with
  | none =>
      simp only [RebalancingService.trackUsdcStageProgress, tracked]
      exact .of_only ⟨service.inventory, rfl⟩ (by simp [moves, tracked])
  | some tracking =>
      simp only [RebalancingService.trackUsdcStageProgress, tracked]
      refine .of_track ?_ ⟨service.inventory, rfl⟩
      simp [moves, tracked, place, UsdcRebalanceTracking.trackProgress, staged]

theorem applyUsdcRebalanceEvent_moves {action : UsdcTerminalAction}
    (h : service.applyUsdcRebalanceEvent id event action now = .ok (outcome, applied)) :
    Moves id event service applied := by
  cases event with
  | conversionInitiated direction amount orderId initiatedAt =>
      cases h
      unfold RebalancingService.upsertConversionTracking
      split <;> exact .of_track rfl ⟨service.inventory, rfl⟩
  | initiated direction amount withdrawal initiatedAt =>
      obtain ⟨moved, starts, rest⟩ := bind_eq_ok.mp h
      cases rest
      unfold RebalancingService.trackInitiatedUsdcRebalance at starts
      simp only at starts
      split at starts
      · cases starts
        exact .of_track rfl ⟨service.inventory, rfl⟩
      · obtain ⟨inventory, -, tracks⟩ := bind_eq_ok.mp starts
        cases tracks
        exact .of_track rfl ⟨inventory, rfl⟩
  | withdrawalConfirmed | bridgingInitiated | bridgeAttestationReceived | depositInitiated =>
      cases h
      exact .of_progress rfl fun _ => rfl
  | bridged mintTx received fee time | bridgingCompletionRecovered mintTx received fee time =>
      cases h
      cases tracked : service.usdcTracking id with
      | none =>
          simp only [RebalancingService.trackBridgedAmount, tracked]
          exact .of_progress rfl fun _ => rfl
      | some tracking =>
          rw [RebalancingService.trackBridged_eq tracked]
          refine .of_track ?_ ⟨service.inventory, rfl⟩
          rw [tracked]
          rfl
  | conversionConfirmed direction conversion time =>
      cases direction with
      | alpacaToBase =>
          cases h
          exact .of_progress rfl fun _ => rfl
      | baseToAlpaca => exact .of_only (completeUsdcRebalance_only h) rfl
  | depositConfirmed direction time =>
      cases direction with
      | alpacaToBase => exact .of_only (completeAlpacaToBaseDeposit_only h) rfl
      | baseToAlpaca =>
          cases h
          exact .of_progress rfl fun _ => rfl
  | withdrawalSubmitting | bridgingSubmitting | pendingBurnRecorded | pendingBurnCleared
  | attestationTimedOut =>
      cases h
      exact .of_only ⟨service.inventory, rfl⟩ rfl
  | withdrawalFailed => exact .of_only (cancelTrackedUsdcRebalance_only h) rfl
  | bridgingFailed | depositFailed | conversionFailed =>
      simp only [RebalancingService.applyUsdcRebalanceEvent] at h
      split at h
      · cases h
        exact .of_only ⟨service.inventory, rfl⟩ rfl
      · exact .of_only (cancelTrackedUsdcRebalance_only h) rfl
  | operatorReconciled =>
      obtain ⟨moved, resolves, rest⟩ := bind_eq_ok.mp h
      cases rest
      obtain ⟨inventory, -, resolved⟩ := bind_eq_ok.mp resolves
      cases resolved
      exact .of_only ⟨inventory, rfl⟩ rfl

omit [FloatFormat] in
/-- The events whose processing can fail. -/
def fallible (event : UsdcRebalanceEvent) : Bool :=
  match event with
  | .initiated .. => true
  | _ => RebalancingService.isTerminalUsdcRebalanceEvent event

theorem fallible_of_error {action : UsdcTerminalAction} {error : RebalancingServiceError}
    (h : service.applyUsdcRebalanceEvent id event action now = .error error) :
    fallible event = true := by
  cases event with
  | conversionConfirmed direction => cases direction <;> first | rfl | cases h
  | depositConfirmed direction => cases direction <;> first | rfl | cases h
  | _ => first | rfl | cases h

omit [FloatFormat] in
/-- Whether processing an event clears its transfer. -/
def Clears (service : RebalancingService) (id : UsdcRebalanceId) (event : UsdcRebalanceEvent) :
    Prop :=
  RebalancingService.usdcTerminalAction (service.usdcTracking id) event = .clear

/-- The service after a transfer was cleared. -/
structure Cleared (id : UsdcRebalanceId) (service after : RebalancingService) : Prop where
  timedOut : after.timedOutUsdcRebalances = service.timedOutUsdcRebalances
  tracking : after.usdcTracking = Function.update service.usdcTracking id none

/-- What one call leaves: nothing happened, the transfer was cleared, or its
entry moved and the guard was not released. -/
theorem absorb_cases (service : RebalancingService) (id : UsdcRebalanceId) (now : Time)
    (event : UsdcRebalanceEvent) {after : RebalancingService}
    (absorbed : RebalancingService.absorb id service (event, now) = after) :
    (after = service ∧ ((service.timedOutUsdcRebalances id).isSome ∨ fallible event = true)) ∨
      (Clears service id event ∧ Cleared id service after) ∨
      (service.timedOutUsdcRebalances id = none ∧ ¬ Clears service id event ∧
        Moves id event service after) := by
  unfold RebalancingService.absorb RebalancingService.onUsdcRebalance at absorbed
  by_cases timedOut : (service.timedOutUsdcRebalances id).isSome
  · simp only [timedOut, if_true] at absorbed
    exact .inl ⟨absorbed.symm, .inl timedOut⟩
  have live : service.timedOutUsdcRebalances id = none := by simpa using timedOut
  simp only [timedOut, Bool.false_eq_true, if_false] at absorbed
  cases applies : service.applyUsdcRebalanceEvent id event
      (RebalancingService.usdcTerminalAction (service.usdcTracking id) event) now with
  | error error =>
      simp only [applies, bind, Except.bind] at absorbed
      exact .inl ⟨absorbed.symm, .inr (fallible_of_error applies)⟩
  | ok result =>
      obtain ⟨outcome, applied⟩ := result
      have moves := applyUsdcRebalanceEvent_moves applies
      simp only [applies, bind, Except.bind, pure, Except.pure] at absorbed
      subst absorbed
      unfold RebalancingService.conclude
      split
      case h_1 clear =>
        refine .inr (.inl ⟨clear, moves.timedOut, funext fun other => ?_⟩)
        by_cases same : other = id
        · subst same
          simp [RebalancingService.untrack]
        · simp [RebalancingService.untrack, same, moves.others other same]
      case h_2 keeps =>
        refine .inr (.inr ⟨live, by simp [Clears, keeps], ?_⟩)
        exact ⟨fun _ => rfl, moves.timedOut, moves.others, moves.own⟩
      case h_3 keeps =>
        refine .inr (.inr ⟨live, by simp [Clears, keeps], ?_⟩)
        exact ⟨moves.guard, moves.timedOut, moves.others, moves.own⟩

end Reactor

/-! ## What tracking says -/

omit [FloatFormat] in
/-- The transfer is not past its burn. One may have been submitted, and its transaction
recorded. -/
def beforeBurn : UsdcRebalance → Bool
  | .converting direction .. | .conversionComplete direction .. | .conversionFailed direction .. =>
      direction = .alpacaToBase
  | .withdrawalSubmitting .. | .withdrawing .. | .withdrawalComplete .. | .withdrawalFailed ..
  | .bridgingSubmitting .. | .bridgingFailed _ _ none none .. => true
  | _ => false

/-- No burn of the transfer is recorded, nor the transaction of one that was submitted. -/
def unburned : UsdcRebalance → Bool
  | .bridgingSubmitting _ _ _ _ _ pendingBurnTx => pendingBurnTx.isNone
  | entity => beforeBurn entity

/-- A withdrawal or a burn has been submitted, or is about to be. -/
def isSubmitting : UsdcRebalance → Bool
  | .withdrawalSubmitting .. | .bridgingSubmitting .. => true
  | _ => false

omit [FloatFormat] in
theorem unburned_of_beforeBurn {entity : UsdcRebalance} (before : beforeBurn entity = true)
    (settled : isSubmitting entity = false) : unburned entity = true := by
  cases entity with
  | bridgingSubmitting => cases settled
  | _ => exact before

/-- Places before the burn. -/
def preBurnAt : RebalanceDirection × UsdcRebalanceStage → Bool
  | (.alpacaToBase, .conversionInitiated) | (.alpacaToBase, .conversionConfirmed)
  | (_, .initiated) | (_, .withdrawalConfirmed) => true
  | _ => false

omit [FloatFormat] in
theorem isPostBurn_place (tracking : UsdcRebalanceTracking) :
    tracking.isPostBurn = !preBurnAt (place tracking) := by
  obtain ⟨direction, amount, received, stage, lastProgressAt⟩ := tracking
  cases direction <;> cases stage <;> rfl

section Advancing

variable {state : Option UsdcRebalance} {event : UsdcRebalanceEvent} {next : UsdcRebalance}
variable {placed : Option (RebalanceDirection × UsdcRebalanceStage)}

omit [FloatFormat] in
/-- An entry that an event leaves before the burn is about a transfer that is. -/
theorem beforeBurn_of_placeAfter (advances : Advances state event next)
    (before : ∀ spot, placed = some spot → preBurnAt spot = true →
      ∃ entity, state = some entity ∧ beforeBurn entity = true)
    {after : RebalanceDirection × UsdcRebalanceStage} (moved : placeAfter placed event = some after)
    (preBurn : preBurnAt after = true) : beforeBurn next = true := by
  -- An event that leaves the entry in place met a state before the burn, one that moves it past
  -- the burn leaves no entry before it.
  have stays (same : placeAfter placed event = placed) :
      ∃ entity, state = some entity ∧ beforeBurn entity = true :=
    before after (same ▸ moved) preBurn
  have passes {stage : UsdcRebalanceStage}
      (progress : placeAfter placed event = placed.map fun (direction, _) => (direction, stage))
      (postBurn : ∀ direction, preBurnAt (direction, stage) = false) : False := by
    obtain ⟨origin, -, rfl⟩ := Option.map_eq_some_iff.mp (progress ▸ moved)
    simp [postBurn] at preBurn
  cases advances with
  | confirmConversion direction =>
      cases direction with
      | alpacaToBase => rfl
      | baseToAlpaca =>
          obtain ⟨_, ⟨⟩, ⟨⟩⟩ := stays rfl
  | failConversion direction =>
      cases direction with
      | alpacaToBase => rfl
      | baseToAlpaca =>
          obtain ⟨_, ⟨⟩, ⟨⟩⟩ := stays rfl
  | convertDeposit =>
      cases moved
      cases preBurn
  | bridgeWithdrawn | bridgeBegun | attestBridging | attestAwaiting | confirmBridging
  | recoverBridging | initiateDeposit =>
      exact (passes rfl (by rintro (_ | _) <;> rfl)).elim
  | timeoutAttestation | failBridging | failAwaiting | failAttested | failDeposit | reconcileDeposit
  | reconcileConversion =>
      obtain ⟨_, ⟨⟩, ⟨⟩⟩ := stays rfl
  | confirmDeposit direction =>
      cases direction with
      | alpacaToBase =>
          obtain ⟨_, ⟨⟩, ⟨⟩⟩ := stays rfl
      | baseToAlpaca => exact (passes rfl (by rintro (_ | _) <;> rfl)).elim
  | reconcileBridging direction amount burnTx nonce failure initiatedAt failedAt reason time postBurn =>
      obtain ⟨_, ⟨⟩, beforeBurn⟩ := stays rfl
      cases burnTx with
      | some => cases beforeBurn
      | none =>
          cases nonce with
          | some => cases beforeBurn
          | none => cases postBurn
  | _ => rfl

omit [FloatFormat] in
/-- A transfer without a burn has none after an event whose processing failed. -/
theorem beforeBurn_of_fallible {entity : UsdcRebalance} (advances : Advances (some entity) event next)
    (before : beforeBurn entity = true) (failed : fallible event = true) : beforeBurn next = true := by
  cases advances with
  | confirmConversion direction =>
      cases direction with
      | alpacaToBase => rfl
      | baseToAlpaca => cases before
  | failConversion direction =>
      cases direction with
      | alpacaToBase => rfl
      | baseToAlpaca => cases before
  | bridgeWithdrawn | bridgeBegun => cases failed
  | convertDeposit | attestBridging | attestAwaiting | timeoutAttestation | failBridging
  | failAwaiting | failAttested | confirmBridging | recoverBridging | initiateDeposit
  | confirmDeposit | failDeposit | reconcileDeposit | reconcileConversion => cases before
  | reconcileBridging direction amount burnTx nonce failure initiatedAt failedAt reason time postBurn =>
      cases burnTx with
      | some => cases before
      | none =>
          cases nonce with
          | some => cases before
          | none => cases postBurn
  | _ => rfl

omit [FloatFormat] in
/-- A rebalance that no longer holds the guard never holds it again. -/
theorem released_stays {entity : UsdcRebalance} (advances : Advances (some entity) event next)
    (before : entity.holdsRebalanceGuard = false) : next.holdsRebalanceGuard = false := by
  cases advances with
  | confirmConversion | failConversion | withdrawBegun | confirmWithdrawal | failWithdrawal
  | beginBridging | bridgeWithdrawn | failWithdrawn | bridgeBegun | recordPendingBurn
  | clearPendingBurn | failBegun | attestBridging | attestAwaiting | timeoutAttestation
  | failBridging | failAwaiting | failAttested | confirmBridging | recoverBridging
  | initiateDeposit | confirmDeposit | failDeposit | convertDeposit | beginConverted
  | withdrawConverted => cases before
  | reconcileDeposit | reconcileConversion | reconcileBridging => rfl

omit [FloatFormat] in
theorem released_later {stream : List UsdcRebalanceEvent} {final : Option UsdcRebalance}
    (emits : Emits stream final) {count : Nat} {entity : UsdcRebalance}
    (earlier : Emits (stream.take count) (some entity))
    (released : entity.holdsRebalanceGuard = false) :
    ∃ later, final = some later ∧ later.holdsRebalanceGuard = false := by
  induction emits with
  | empty =>
      rw [List.take_nil] at earlier
      cases earlier.state_eq
  | @append stream before event next emits advances ih =>
      by_cases short : count ≤ stream.length
      · rw [List.take_append_of_le_length short] at earlier
        obtain ⟨later, rfl, released⟩ := ih earlier
        exact ⟨next, rfl, released_stays advances released⟩
      · rw [List.take_of_length_le (by simp; omega)] at earlier
        obtain rfl : next = entity := by
          have same := earlier.state_eq.symm.trans (emits.append advances).state_eq
          cases same
          rfl
        exact ⟨next, rfl, released⟩

omit [FloatFormat] in
/-- An event that clears its transfer leads to a state that does not hold the
guard. -/
theorem released_of_clears {service : RebalancingService} {id : UsdcRebalanceId}
    (advances : Advances state event next) (clears : Clears service id event)
    (before : ∀ tracking, service.usdcTracking id = some tracking → tracking.isPostBurn = false →
      ∃ entity, state = some entity ∧ beforeBurn entity = true) :
    next.holdsRebalanceGuard = false := by
  unfold Clears at clears
  cases advances with
  | confirmConversion direction =>
      cases direction with
      | alpacaToBase => cases clears
      | baseToAlpaca => rfl
  | failConversion direction =>
      cases direction with
      | alpacaToBase => rfl
      | baseToAlpaca =>
          -- Only an entry before the burn clears a failed conversion, and there is none here.
          cases tracked : service.usdcTracking id with
          | none => simp [RebalancingService.usdcTerminalAction,
              RebalancingService.isTerminalUsdcRebalanceEvent, RebalancingService.postBurnFailure,
              tracked] at clears
          | some tracking =>
              cases burned : tracking.isPostBurn with
              | true => simp [RebalancingService.usdcTerminalAction,
                  RebalancingService.isTerminalUsdcRebalanceEvent,
                  RebalancingService.postBurnFailure, tracked, burned] at clears
              | false =>
                  obtain ⟨_, ⟨⟩, ⟨⟩⟩ := before tracking tracked burned
  | confirmDeposit direction =>
      cases direction with
      | alpacaToBase => rfl
      | baseToAlpaca => cases clears
  | failWithdrawal | failWithdrawn | failBegun | reconcileDeposit | reconcileConversion
  | reconcileBridging => rfl
  | _ => cases clears

end Advancing

/-- What holds of every rebalance in every state of a run. -/
structure Sound (state : State) (id : UsdcRebalanceId) : Prop where
  emits : ∃ entity, Emits (state.streams id) entity
  delivered : state.delivered id ≤ (state.streams id).length
  tombstone : (state.service.timedOutUsdcRebalances id).isSome → state.service.usdcTracking id = none
  tracked : ∀ tracking, state.service.usdcTracking id = some tracking → tracking.isPostBurn = false →
    ∃ entity, Emits (state.seen id) (some entity) ∧ beforeBurn entity = true

namespace Sound

variable {state next : State} {id : UsdcRebalanceId}

omit [FloatFormat] in
/-- Nothing about a rebalance changed but, perhaps, the end of its stream. -/
theorem grown (sound : Sound state id) {events : List UsdcRebalanceEvent}
    (streams : next.streams id = state.streams id ++ events)
    (emits : ∃ entity, Emits (state.streams id ++ events) entity)
    (delivered : next.delivered id = state.delivered id)
    (timedOut : next.service.timedOutUsdcRebalances id = state.service.timedOutUsdcRebalances id)
    (tracking : next.service.usdcTracking id = state.service.usdcTracking id) : Sound next id := by
  have seen : next.seen id = state.seen id := by
    simp only [State.seen, streams, delivered]
    exact List.take_append_of_le_length sound.delivered
  refine ⟨streams ▸ emits, ?_, ?_, ?_⟩
  · rw [streams, delivered, List.length_append]
    exact Nat.le_add_right_of_le sound.delivered
  · rw [timedOut, tracking]
    exact sound.tombstone
  · rw [tracking, seen]
    exact sound.tracked

omit [FloatFormat] in
theorem same (sound : Sound state id) (streams : next.streams id = state.streams id)
    (delivered : next.delivered id = state.delivered id)
    (timedOut : next.service.timedOutUsdcRebalances id = state.service.timedOutUsdcRebalances id)
    (tracking : next.service.usdcTracking id = state.service.usdcTracking id) : Sound next id := by
  have streams : next.streams id = state.streams id ++ [] := by simpa using streams
  exact sound.grown streams (by simpa using sound.emits) delivered timedOut tracking

omit [FloatFormat] in
/-- A rebalance without an entry is sound whatever the service forgot about it. -/
theorem untracked (sound : Sound state id) (streams : next.streams id = state.streams id)
    (delivered : next.delivered id ≤ (state.streams id).length)
    (tracking : next.service.usdcTracking id = none) : Sound next id :=
  ⟨streams ▸ sound.emits, streams ▸ delivered, fun _ => tracking, by simp [tracking]⟩

omit [FloatFormat] in
/-- The event that is handed over next, seen from the stream. -/
theorem next_event (sound : Sound state id) {event : UsdcRebalanceEvent}
    (found : (state.streams id)[state.delivered id]? = some event) :
    ∃ before after, Emits (state.seen id) before ∧ Advances before event after ∧
      Emits ((state.streams id).take (state.delivered id + 1)) (some after) := by
  obtain ⟨entity, emits⟩ := sound.emits
  obtain ⟨_, handed⟩ := emits.take (state.delivered id + 1)
  have split : (state.streams id).take (state.delivered id + 1) = state.seen id ++ [event] := by
    rw [List.take_add_one, found]
    rfl
  rw [split] at handed ⊢
  obtain ⟨before, after, rfl, seen, advances⟩ := handed.inv
  exact ⟨before, after, seen, advances, handed⟩

end Sound

/-! ## One action -/

section Deliver

variable {state next : State} {id : UsdcRebalanceId} {now : Time} {transferTimeout : Time}

theorem deliver_eq_some (stepped : step transferTimeout state (.deliver id now) = some next) :
    ∃ event, (state.streams id)[state.delivered id]? = some event ∧
      next = { state with
        delivered := Function.update state.delivered id (state.delivered id + 1)
        service := RebalancingService.absorb id state.service (event, now) } := by
  obtain ⟨event, found, rfl⟩ := Option.map_eq_some_iff.mp stepped
  exact ⟨event, found, rfl⟩

omit [FloatFormat] in
/-- What is known about an entry before the burn, in terms of the state the seen
events lead to. -/
theorem Sound.beforeBurn_before (sound : Sound state id) {before : Option UsdcRebalance}
    (seen : Emits (state.seen id) before) {tracking : UsdcRebalanceTracking}
    (tracked : state.service.usdcTracking id = some tracking) (preBurn : tracking.isPostBurn = false) :
    ∃ entity, before = some entity ∧ beforeBurn entity = true := by
  obtain ⟨entity, emits, holds⟩ := sound.tracked tracking tracked preBurn
  exact ⟨entity, seen.state_eq.symm.trans emits.state_eq, holds⟩

theorem Sound.deliver (sound : Sound state id)
    (stepped : step transferTimeout state (.deliver id now) = some next) : Sound next id := by
  obtain ⟨event, found, rfl⟩ := deliver_eq_some stepped
  obtain ⟨before, after, seen, advances, handed⟩ := sound.next_event found
  have bound : state.delivered id < (state.streams id).length :=
    (List.getElem?_eq_some_iff.mp found).1
  have outcome := absorb_cases state.service id now event rfl
  set service := RebalancingService.absorb id state.service (event, now)
  have nextSeen : ({ state with
      delivered := Function.update state.delivered id (state.delivered id + 1)
      service } : State).seen id = (state.streams id).take (state.delivered id + 1) := by
    simp [State.seen]
  refine ⟨sound.emits, by simpa using Nat.succ_le_of_lt bound, ?_, ?_⟩
  · rcases outcome with ⟨same, -⟩ | ⟨-, cleared⟩ | ⟨live, -, moves⟩
    · simpa [same] using sound.tombstone
    · simp [cleared.tracking]
    · simp [moves.timedOut, live]
  · intro tracking tracked preBurn
    refine ⟨after, nextSeen ▸ handed, ?_⟩
    change service.usdcTracking id = some tracking at tracked
    rcases outcome with ⟨same, timedOut | failed⟩ | ⟨-, cleared⟩ | ⟨-, -, moves⟩
    · rw [same, sound.tombstone timedOut] at tracked
      cases tracked
    · rw [same] at tracked
      obtain ⟨entity, rfl, holds⟩ := sound.beforeBurn_before seen tracked preBurn
      exact beforeBurn_of_fallible advances holds failed
    · simp [cleared.tracking] at tracked
    · have moved : placeAfter ((state.service.usdcTracking id).map place) event =
          some (place tracking) := by
        rw [← moves.own, tracked]
        rfl
      refine beforeBurn_of_placeAfter advances ?_ moved (by simpa [isPostBurn_place] using preBurn)
      intro spot placed preBurn
      obtain ⟨old, found, rfl⟩ := Option.map_eq_some_iff.mp placed
      exact sound.beforeBurn_before seen found (by rw [isPostBurn_place, preBurn]; rfl)

/-- A delivery that releases the guard is about a rebalance that has let go of it. -/
theorem deliver_release (sound : Sound state id)
    (stepped : step transferTimeout state (.deliver id now) = some next)
    (held : state.service.usdcInProgress = true) (freed : next.service.usdcInProgress = false) :
    ∃ entity, state.entity? id = some entity ∧ entity.holdsRebalanceGuard = false := by
  obtain ⟨event, found, rfl⟩ := deliver_eq_some stepped
  obtain ⟨before, after, seen, advances, handed⟩ := sound.next_event found
  obtain ⟨final, emits⟩ := sound.emits
  rcases absorb_cases state.service id now event rfl with ⟨same, -⟩ | ⟨clears, -⟩ | ⟨-, -, moves⟩
  · simp [same, held] at freed
  · have released := released_of_clears advances clears fun _ tracked preBurn =>
      sound.beforeBurn_before seen tracked preBurn
    obtain ⟨later, rfl, holds⟩ := released_later emits handed released
    exact ⟨later, emits.state_eq, holds⟩
  · simp [moves.guard held] at freed

end Deliver

section Sweep

variable {service after : RebalancingService} {id : UsdcRebalanceId} {now transferTimeout : Time}
variable {row : Option JobRow} {loaded : Loaded} {cleanup : Option UsdcTimeoutCleanup}

/-- The two grounds on which the sweep gives a transfer up. -/
def GivesUp (transferTimeout : Time) (tracking : UsdcRebalanceTracking) (loaded : Loaded)
    (now : Time) : Prop :=
  (tracking.isPostBurn = true ∧
      ∃ direction amount reason failure initiatedAt reconciledAt, loaded =
        .ok (some (.reconciled direction amount reason failure initiatedAt reconciledAt))) ∨
    (tracking.isPostBurn = false ∧
      (∃ elapsed, RebalancingService.elapsedSinceTimeoutStart tracking.lastProgressAt now =
        some elapsed ∧ transferTimeout ≤ elapsed) ∧
      ∃ stored, loaded = .ok stored ∧ stored.bind UsdcRebalance.alpacaWithdrawal = none)

/-- The service has forgotten the transfer and will ignore it. -/
structure Abandoned (id : UsdcRebalanceId) (now : Time) (service after : RebalancingService) :
    Prop where
  tracking : after.usdcTracking = Function.update service.usdcTracking id none
  timedOut : after.timedOutUsdcRebalances =
    Function.update service.timedOutUsdcRebalances id (some now)

omit [FloatFormat] in
theorem abandon_abandoned {source : Venue} (h : service.abandon id source now = .ok after) :
    Abandoned id now service after := by
  obtain ⟨inventory, -, rest⟩ := bind_eq_ok.mp h
  cases rest
  exact ⟨rfl, rfl⟩

omit [FloatFormat] in
theorem cleanup_cases
    (h : service.cleanupTimedOutUsdcRebalance transferTimeout id loaded now = .ok (cleanup, after)) :
    (after = service ∧ ∀ tracking elapsed, cleanup ≠ some (.cleared tracking elapsed)) ∨
      ∃ tracking elapsed, service.usdcTracking id = some tracking ∧
        cleanup = some (.cleared tracking elapsed) ∧
        GivesUp transferTimeout tracking loaded now ∧ Abandoned id now service after := by
  unfold RebalancingService.cleanupTimedOutUsdcRebalance at h
  split at h
  case h_1 =>
    cases h
    exact .inl ⟨rfl, nofun⟩
  case h_2 tracking tracked =>
    split at h
    case h_1 =>
      cases h
      exact .inl ⟨rfl, nofun⟩
    case h_2 elapsed timed =>
      split at h
      case isTrue postBurn =>
        split at h
        case h_1 =>
          obtain ⟨abandoned, gives, rest⟩ := bind_eq_ok.mp h
          cases rest
          exact .inr ⟨tracking, elapsed, tracked, rfl,
            .inl ⟨postBurn, _, _, _, _, _, _, rfl⟩, abandon_abandoned gives⟩
        case h_2 =>
          cases h
          exact .inl ⟨rfl, nofun⟩
        case h_3 =>
          split at h <;> cases h <;> exact .inl ⟨rfl, nofun⟩
      case isFalse preBurn =>
        split at h
        case isTrue =>
          cases h
          exact .inl ⟨rfl, nofun⟩
        case isFalse expired =>
          split at h
          case h_1 =>
            cases h
            exact .inl ⟨rfl, nofun⟩
          case h_2 stored =>
            split at h
            case h_1 =>
              cases h
              exact .inl ⟨rfl, nofun⟩
            case h_2 idle =>
              obtain ⟨abandoned, gives, rest⟩ := bind_eq_ok.mp h
              cases rest
              exact .inr ⟨tracking, elapsed, tracked, rfl,
                .inr ⟨by simpa using preBurn, ⟨elapsed, timed, not_lt.mp expired⟩, stored, rfl, idle⟩,
                abandon_abandoned gives⟩

omit [FloatFormat] in
/-- What the sweep leaves: the guard no freer and the memory as it was, or a
transfer without a live job given up. -/
theorem expire_cases
    (h : service.expireStuckUsdcRebalance transferTimeout id row loaded now = .ok (cleanup, after)) :
    (after.usdcTracking = service.usdcTracking ∧
        after.timedOutUsdcRebalances = service.timedOutUsdcRebalances ∧
        (service.usdcInProgress = true → after.usdcInProgress = true)) ∨
      ∃ tracking, row.any (· ≠ .live) = true ∧ service.usdcTracking id = some tracking ∧
        GivesUp transferTimeout tracking loaded now ∧ Abandoned id now service after := by
  unfold RebalancingService.expireStuckUsdcRebalance at h
  split at h
  case isFalse =>
    cases h
    exact .inl ⟨rfl, rfl, fun held => held⟩
  case isTrue selected =>
    obtain ⟨⟨cleaned, swept⟩, cleans, rest⟩ := bind_eq_ok.mp h
    rcases cleanup_cases cleans with ⟨rfl, kept⟩ | ⟨tracking, elapsed, tracked, rfl, gives, abandoned⟩
    · left
      cases cleaned with
      | none =>
          cases rest
          exact ⟨rfl, rfl, fun held => held⟩
      | some cleaned =>
          cases cleaned with
          | cleared tracking elapsed => exact absurd rfl (kept tracking elapsed)
          | preservedPostBurn | reArmAlpacaToBaseWithdrawal =>
              cases rest
              exact ⟨rfl, rfl, fun _ => rfl⟩
    · cases rest
      exact .inr ⟨tracking, (Bool.and_eq_true_iff.mp selected).2, tracked, gives,
        abandoned.tracking, abandoned.timedOut⟩

end Sweep

section Run

variable {state next final : State} {transferTimeout : Time}

/-- The sweep on one transfer, as a step: what it answered decides nothing but
the job row. -/
theorem sweep_eq_some {id : UsdcRebalanceId} {now : Time} {rowsReadable storeReadable : Bool}
    (stepped : step transferTimeout state (.sweep id now rowsReadable storeReadable) = some next) :
    next.streams = state.streams ∧ next.delivered = state.delivered ∧
      (next.service = state.service ∨ ∃ cleanup,
        state.service.expireStuckUsdcRebalance transferTimeout id
          (if rowsReadable then some (state.jobs id) else none) (state.load id storeReadable) now =
          .ok (cleanup, next.service)) := by
  simp only [step] at stepped
  split at stepped
  case h_1 answered =>
    cases stepped
    exact ⟨rfl, rfl, .inr ⟨_, answered⟩⟩
  case h_2 answered =>
    cases stepped
    exact ⟨rfl, rfl, .inr ⟨_, answered⟩⟩
  case h_3 =>
    cases stepped
    exact ⟨rfl, rfl, .inl rfl⟩

omit [FloatFormat] in
/-- A failure recovered on startup is tracked as past its burn. -/
theorem recoveredTracking_isPostBurn {entity : UsdcRebalance} {tracking : UsdcRebalanceTracking}
    (recovered : RebalancingService.recoveredTracking entity = some tracking) :
    tracking.isPostBurn = true := by
  obtain ⟨⟨direction, amount, lastProgressAt⟩, -, rfl⟩ := Option.map_eq_some_iff.mp recovered
  cases direction <;> rfl

omit [FloatFormat] in
/-- What putting entries back changes: only what is tracked past its burn. -/
structure Recovers (service recovered : RebalancingService) : Prop where
  guard : recovered.usdcInProgress = service.usdcInProgress
  timedOut : recovered.timedOutUsdcRebalances = service.timedOutUsdcRebalances
  tracking : ∀ id tracking, recovered.usdcTracking id = some tracking →
    service.usdcTracking id = some tracking ∨ tracking.isPostBurn = true

omit [FloatFormat] in
theorem recoverTracking_recovers (service : RebalancingService)
    (candidate : UsdcRebalanceId × Loaded) :
    Recovers service (RebalancingService.recoverTracking service candidate) := by
  unfold RebalancingService.recoverTracking
  split
  case h_2 => exact ⟨rfl, rfl, fun _ _ tracked => .inl tracked⟩
  case h_1 entity _ =>
    split
    case h_2 => exact ⟨rfl, rfl, fun _ _ tracked => .inl tracked⟩
    case h_1 recovered _ tracks =>
      refine ⟨rfl, rfl, fun id tracking tracked => ?_⟩
      by_cases same : id = candidate.1
      · subst same
        obtain rfl : recovered = tracking := by simpa [RebalancingService.track] using tracked
        exact .inr (recoveredTracking_isPostBurn tracks)
      · exact .inl (by simpa [RebalancingService.track, same] using tracked)

omit [FloatFormat] in
theorem foldl_recovers (candidates : List (UsdcRebalanceId × Loaded)) (service : RebalancingService) :
    Recovers service (candidates.foldl RebalancingService.recoverTracking service) := by
  induction candidates generalizing service with
  | nil => exact ⟨rfl, rfl, fun _ _ tracked => .inl tracked⟩
  | cons candidate rest ih =>
      have first := recoverTracking_recovers service candidate
      have others := ih (RebalancingService.recoverTracking service candidate)
      refine ⟨others.guard.trans first.guard, others.timedOut.trans first.timedOut, ?_⟩
      intro id tracking tracked
      rcases others.tracking id tracking tracked with earlier | postBurn
      · exact first.tracking id tracking earlier
      · exact .inr postBurn

omit [FloatFormat] in
/-- A restart tracks nothing as before its burn, and keeps the guard free only
when no rebalance it found holds it. -/
theorem restarted_cases (service : RebalancingService)
    (candidates : List (UsdcRebalanceId × Loaded)) (unparseable : Bool)
    {started : RebalancingService}
    (starts : (State.restarted service).recoverUsdcGuard candidates unparseable = started) :
    (∀ id, started.timedOutUsdcRebalances id = none) ∧
      (∀ id tracking, started.usdcTracking id = some tracking → tracking.isPostBurn = true) ∧
      (started.usdcInProgress = false → unparseable = false ∧
        ∀ candidate ∈ candidates, RebalancingService.holdsGuardOnStartup candidate.2 = false) := by
  unfold RebalancingService.recoverUsdcGuard at starts
  split at starts
  case isTrue =>
    subst starts
    have recovers := foldl_recovers candidates { State.restarted service with usdcInProgress := true }
    refine ⟨fun id => ?_, fun id tracking tracked => ?_, fun freed => ?_⟩
    · rw [recovers.timedOut]
      rfl
    · rcases recovers.tracking id tracking tracked with impossible | postBurn
      · cases impossible
      · exact postBurn
    · rw [recovers.guard] at freed
      cases freed
  case isFalse quiet =>
    subst starts
    simp only [Bool.or_eq_true, List.any_eq_true, not_or, not_exists, not_and,
      Bool.not_eq_true] at quiet
    exact ⟨fun _ => rfl, nofun, fun _ => ⟨quiet.2, quiet.1⟩⟩

theorem Sound.step {action : Action} (sound : ∀ id, Sound state id)
    (stepped : step transferTimeout state action = some next) (id : UsdcRebalanceId) :
    Sound next id := by
  cases action with
  | dispatch target =>
      simp only [Guard.step] at stepped
      split at stepped <;> cases stepped
      exact (sound id).same rfl rfl rfl rfl
  | execute target now command =>
      simp only [Guard.step] at stepped
      split at stepped
      case isFalse => cases stepped
      case isTrue allowed =>
        split at stepped
        case h_2 =>
          cases stepped
          exact sound id
        case h_1 events accepted =>
          cases stepped
          by_cases same : id = target
          · subst same
            obtain ⟨entity, emits⟩ := (sound id).emits
            rw [State.entity?, emits.state_eq] at allowed
            exact (sound id).grown (Streams.append_self ..)
              (emits.appends (emits.send allowed accepted)) rfl rfl rfl
          · exact (sound id).same (Streams.append_of_ne _ same _) rfl rfl rfl
  | deliver target now =>
      by_cases same : id = target
      · subst same
        exact (sound id).deliver stepped
      · obtain ⟨event, found, rfl⟩ := deliver_eq_some stepped
        rcases absorb_cases state.service target now event rfl with
          ⟨unchanged, -⟩ | ⟨-, cleared⟩ | ⟨-, -, moves⟩
        · exact (sound id).same rfl (by simp [same]) (by simp [unchanged]) (by simp [unchanged])
        · exact (sound id).same rfl (by simp [same]) (by simp [cleared.timedOut])
            (by simp [cleared.tracking, same])
        · exact (sound id).same rfl (by simp [same]) (by simp [moves.timedOut])
            (moves.others id same)
  | endJob target | enqueueJob target =>
      cases stepped
      exact (sound id).same rfl rfl rfl rfl
  | sweep target now rowsReadable storeReadable =>
      obtain ⟨streams, delivered, unchanged | ⟨cleanup, expires⟩⟩ := sweep_eq_some stepped
      · exact (sound id).same (by rw [streams]) (by rw [delivered]) (by rw [unchanged])
          (by rw [unchanged])
      · rcases expire_cases expires with ⟨tracking, timedOut, -⟩ | ⟨tracking, -, -, -, abandoned⟩
        · exact (sound id).same (by rw [streams]) (by rw [delivered]) (by rw [timedOut])
            (by rw [tracking])
        · by_cases same : id = target
          · subst same
            exact (sound id).untracked (by rw [streams]) (by rw [delivered]; exact (sound id).delivered)
              (by simp [abandoned.tracking])
          · exact (sound id).same (by rw [streams]) (by rw [delivered])
              (by simp [abandoned.timedOut, same]) (by simp [abandoned.tracking, same])
  | prune now =>
      cases stepped
      refine ⟨(sound id).emits, (sound id).delivered, fun marked => ?_, (sound id).tracked⟩
      refine (sound id).tombstone ?_
      cases timedOut : state.service.timedOutUsdcRebalances id with
      | none => simp [RebalancingService.pruneTimeoutMarkers, timedOut] at marked
      | some markedAt => rfl
  | restart candidates storeReadable unparseable =>
      cases stepped
      obtain ⟨timedOut, postBurn, -⟩ := restarted_cases state.service
        (candidates.map fun id => (id, state.load id (storeReadable id))) unparseable rfl
      refine ⟨(sound id).emits, le_rfl, fun marked => ?_, fun tracking tracked preBurn => ?_⟩
      · simp [timedOut id] at marked
      · simp [postBurn id tracking tracked] at preBurn

omit [FloatFormat] in
theorem Sound.initial (inventory : InventoryView) (id : UsdcRebalanceId) :
    Sound (State.initial inventory) id :=
  ⟨⟨none, .empty⟩, le_rfl, fun _ => rfl, nofun⟩

theorem Sound.run {actions : List Action} (sound : ∀ id, Sound state id)
    (ran : run transferTimeout state actions = some final) (id : UsdcRebalanceId) :
    Sound final id := by
  induction actions generalizing state with
  | nil =>
      cases ran
      exact sound id
  | cons action rest ih =>
      obtain ⟨next, stepped, ran⟩ := Option.bind_eq_some_iff.mp ran
      exact ih (Sound.step sound stepped) ran

/-- The stored rebalance has let go of the guard. -/
def LetGo (state : State) (id : UsdcRebalanceId) : Prop :=
  ∃ entity, state.entity? id = some entity ∧ entity.holdsRebalanceGuard = false

/-- The grounds of a timeout: nothing works on the transfer, the service last saw
it before its burn and too long ago, the store shows no Alpaca withdrawal to
drive on, and, unless events are still on their way, no burn is recorded. -/
structure TimedOut (transferTimeout : Time) (state : State) (id : UsdcRebalanceId) (now : Time) :
    Prop where
  jobless : state.jobs id ≠ .live
  tracking : ∃ tracking elapsed, state.service.usdcTracking id = some tracking ∧
    tracking.isPostBurn = false ∧
    RebalancingService.elapsedSinceTimeoutStart tracking.lastProgressAt now = some elapsed ∧
    transferTimeout ≤ elapsed
  idle : (state.entity? id).bind UsdcRebalance.alpacaWithdrawal = none
  noBurn : state.delivered id = (state.streams id).length →
    ∃ entity, state.entity? id = some entity ∧ unburned entity = true

/-- The store shows the transfer in a submission. -/
def Submitting (state : State) (id : UsdcRebalanceId) : Prop :=
  ∃ entity, state.entity? id = some entity ∧ isSubmitting entity = true

/-- What entitles an action to free the guard. Of sweeps over a submission nothing is said. -/
def Entitled (transferTimeout : Time) (state : State) : Action → Prop
  | .deliver id _ => LetGo state id
  | .sweep id now _ _ =>
      ¬ Submitting state id → LetGo state id ∨ TimedOut transferTimeout state id now
  | .restart candidates _ unparseable => unparseable = false ∧ ∀ id ∈ candidates, LetGo state id
  | _ => False

omit [FloatFormat] in
theorem letGo_of_startup {id : UsdcRebalanceId} {readable : Bool}
    (free : RebalancingService.holdsGuardOnStartup (state.load id readable) = false) :
    LetGo state id := by
  unfold State.load at free
  cases readable with
  | false => cases free
  | true =>
      cases stored : state.entity? id with
      | none => simp [stored, RebalancingService.holdsGuardOnStartup] at free
      | some entity =>
          exact ⟨entity, stored, by simpa [stored, RebalancingService.holdsGuardOnStartup] using free⟩

omit [FloatFormat] in
theorem load_eq_ok {id : UsdcRebalanceId} {readable : Bool} {stored : Option UsdcRebalance}
    (loaded : state.load id readable = .ok stored) : state.entity? id = stored := by
  unfold State.load at loaded
  split at loaded <;> cases loaded
  rfl

theorem sweep_release {id : UsdcRebalanceId} {now : Time} {rowsReadable storeReadable : Bool}
    (sound : Sound state id)
    (stepped : step transferTimeout state (.sweep id now rowsReadable storeReadable) = some next)
    (held : state.service.usdcInProgress = true) (freed : next.service.usdcInProgress = false)
    (settled : ¬ Submitting state id) :
    LetGo state id ∨ TimedOut transferTimeout state id now := by
  obtain ⟨-, -, unchanged | ⟨cleanup, expires⟩⟩ := sweep_eq_some stepped
  · simp [unchanged, held] at freed
  rcases expire_cases expires with ⟨-, -, guard⟩ | ⟨tracking, jobless, tracked, gives, -⟩
  · simp [guard held] at freed
  rcases gives with ⟨-, direction, amount, reason, failure, initiatedAt, reconciledAt, loaded⟩ |
    ⟨preBurn, ⟨elapsed, timed, expired⟩, stored, loaded, idle⟩
  · exact .inl ⟨_, load_eq_ok loaded, rfl⟩
  · refine .inr ⟨?_, ⟨tracking, elapsed, tracked, preBurn, timed, expired⟩, ?_, fun handed => ?_⟩
    · cases rowsReadable <;> simp_all
    · rw [load_eq_ok loaded]
      exact idle
    · obtain ⟨entity, emits, holds⟩ := sound.tracked tracking tracked preBurn
      have all : state.seen id = state.streams id := by
        rw [State.seen, handed, List.take_length]
      rw [all] at emits
      have known : state.entity? id = some entity := emits.state_eq
      have apart : isSubmitting entity = false :=
        Bool.eq_false_iff.mpr fun submitting => settled ⟨entity, known, submitting⟩
      exact ⟨entity, known, unburned_of_beforeBurn holds apart⟩

/-- However jobs, store, deliveries, sweeps and restarts interleave, the guard is
freed only by an event after which the rebalance no longer holds it, by a sweep
that found it reconciled or timed out before its burn, or by a restart that
found no rebalance holding it; sweeps over a submission apart. -/
theorem releases_are_entitled (transferTimeout : Time) (inventory : InventoryView)
    (actions : List Action) (action : Action) {state next : State}
    (ran : run transferTimeout (State.initial inventory) actions = some state)
    (stepped : step transferTimeout state action = some next)
    (held : state.service.usdcInProgress = true) (freed : next.service.usdcInProgress = false) :
    Entitled transferTimeout state action := by
  have sound := Sound.run (Sound.initial inventory) ran
  cases action with
  | dispatch id =>
      simp [step, held] at stepped
  | execute id now command =>
      simp only [step] at stepped
      split at stepped
      case isFalse => cases stepped
      case isTrue =>
        split at stepped <;> cases stepped <;> simp [held] at freed
  | deliver id now => exact deliver_release (sound id) stepped held freed
  | endJob id | enqueueJob id =>
      cases stepped
      simp [held] at freed
  | sweep id now rowsReadable storeReadable =>
      intro settled
      exact sweep_release (sound id) stepped held freed settled
  | prune now =>
      cases stepped
      simp [RebalancingService.pruneTimeoutMarkers, held] at freed
  | restart candidates storeReadable unparseable =>
      cases stepped
      obtain ⟨-, -, free⟩ := restarted_cases state.service
        (candidates.map fun id => (id, state.load id (storeReadable id))) unparseable rfl
      obtain ⟨parsed, released⟩ := free freed
      refine ⟨parsed, fun id listed => ?_⟩
      exact letGo_of_startup (released _ (List.mem_map_of_mem listed))

/-- A transfer from Base is dispatched and withdraws from the vault. -/
def sampleWithdrawal : List Action :=
  [.dispatch ⟨1⟩, .execute ⟨1⟩ 0 (.beginWithdrawal .baseToAlpaca 10000 7), .deliver ⟨1⟩ 0,
    .execute ⟨1⟩ 1 (.initiate .baseToAlpaca 10000 (.onchainTx 1)), .deliver ⟨1⟩ 1]

/-- Its withdrawal fails. -/
def sampleFailure : List Action :=
  sampleWithdrawal ++ [.execute ⟨1⟩ 2 (.failWithdrawal "reverted")]

/-- It goes on to submit its burn, and its job ends for an operator. -/
def sampleLatched : List Action :=
  sampleWithdrawal ++ [.execute ⟨1⟩ 2 (.confirmWithdrawal none), .deliver ⟨1⟩ 2,
    .execute ⟨1⟩ 3 (.beginBridging 8 none), .deliver ⟨1⟩ 3, .endJob ⟨1⟩]

def sampleInitial : State := .initial ⟨⟨some ⟨50000, 0⟩, some ⟨50000, 0⟩, none⟩, none, 0⟩

omit [FloatFormat] in
/-- The failed withdrawal frees the guard when its event arrives, and the stored
rebalance has let go of it by then. -/
theorem releases_are_entitled_of_failure :
    ∃ state next, @run FloatFormat.exact 3600 sampleInitial sampleFailure = some state ∧
      @step FloatFormat.exact 3600 state (.deliver ⟨1⟩ 2) = some next ∧
      state.service.usdcInProgress = true ∧ next.service.usdcInProgress = false ∧
      LetGo state ⟨1⟩ := by
  obtain ⟨next, ran⟩ := Option.isSome_iff_exists.mp (show Option.isSome
    ((@run FloatFormat.exact 3600 sampleInitial sampleFailure).bind fun state =>
      @step FloatFormat.exact 3600 state (.deliver ⟨1⟩ 2)) from by decide +kernel)
  obtain ⟨state, before, stepped⟩ := Option.bind_eq_some_iff.mp ran
  have held : (@run FloatFormat.exact 3600 sampleInitial sampleFailure).map
      (·.service.usdcInProgress) = some true := by decide +kernel
  have freed : ((@run FloatFormat.exact 3600 sampleInitial sampleFailure).bind fun state =>
      @step FloatFormat.exact 3600 state (.deliver ⟨1⟩ 2)).map (·.service.usdcInProgress) =
      some false := by decide +kernel
  rw [ran] at freed
  rw [before] at held
  have held : state.service.usdcInProgress = true := Option.some.inj held
  have freed : next.service.usdcInProgress = false := Option.some.inj freed
  exact ⟨state, next, before, stepped, held, freed,
    @releases_are_entitled FloatFormat.exact 3600 _ sampleFailure (.deliver ⟨1⟩ 2) state next before
      stepped held freed⟩

/-- After these actions a sweep frees the guard under a rebalance that holds it. -/
def FreedWhileHeld (actions : List Action) (phase : Phase) : Prop :=
  ∃ state next entity, @run FloatFormat.exact 3600 sampleInitial actions = some state ∧
    @step FloatFormat.exact 3600 state (.sweep ⟨1⟩ 4000 true true) = some next ∧
    state.service.usdcInProgress = true ∧ next.service.usdcInProgress = false ∧
    next.entity? ⟨1⟩ = some entity ∧ entity.phase = phase ∧ entity.holdsRebalanceGuard = true

omit [FloatFormat] in
theorem freedWhileHeld_of_eval {actions : List Action} {entity : UsdcRebalance}
    (held : (@run FloatFormat.exact 3600 sampleInitial actions).map (·.service.usdcInProgress) =
      some true)
    (swept : ((@run FloatFormat.exact 3600 sampleInitial actions).bind fun state =>
        @step FloatFormat.exact 3600 state (.sweep ⟨1⟩ 4000 true true)).map
          (fun next => (next.service.usdcInProgress, next.entity? ⟨1⟩)) = some (false, some entity))
    (holds : entity.holdsRebalanceGuard = true) : FreedWhileHeld actions entity.phase := by
  obtain ⟨next, ran, after⟩ := Option.map_eq_some_iff.mp swept
  obtain ⟨state, before, stepped⟩ := Option.bind_eq_some_iff.mp ran
  obtain ⟨freed, stored⟩ := Prod.mk.inj after
  rw [before] at held
  exact ⟨state, next, entity, before, stepped, Option.some.inj held, freed, stored, rfl, holds⟩

omit [FloatFormat] in
/-- The sweep frees the guard under a vault withdrawal that ran out of time, and
under a submitted burn: the submission has no stage of its own, so the entry
still says the transfer was withdrawn. -/
theorem timeout_frees_held_guard :
    FreedWhileHeld (sampleWithdrawal ++ [.endJob ⟨1⟩]) .withdrawing ∧
      FreedWhileHeld sampleLatched .bridgingSubmitting := by
  constructor
  · refine @freedWhileHeld_of_eval _ (.withdrawing .baseToAlpaca 10000 (.onchainTx 1) 1) ?_ ?_ rfl
    · decide +kernel
    · decide +kernel
  · refine @freedWhileHeld_of_eval _ (.bridgingSubmitting .baseToAlpaca 10000 8 1 none none) ?_ ?_ rfl
    · decide +kernel
    · decide +kernel

end Run

end Guard

end Liquidity
