import Liquidity.UsdcRebalance.Lifecycle
import Mathlib.Order.Basic

/-!
# How far a rebalance has come

The states of a rebalance in the order it passes through them. A conversion
opens an AlpacaToBase transfer and closes a BaseToAlpaca transfer, so it counts
as two stages. Every event moves a rebalance to a later stage, apart from the
two that only set or clear the hash of a pending burn.
-/

namespace Liquidity

open EventSourcing

inductive Stage where
  | fresh
  | converting
  | converted
  | withdrawalSubmitting
  | withdrawing
  | withdrawalComplete
  | bridgingSubmitting
  | bridging
  | awaitingAttestation
  | attested
  | bridgingFailed
  | bridged
  | depositInitiated
  | depositConfirmed
  /-- The conversion that closes a BaseToAlpaca transfer. -/
  | settling
  | settled
  | failed
  | reconciled
  deriving DecidableEq, Repr

instance : LinearOrder Stage :=
  LinearOrder.lift' Stage.ctorIdx fun first second => by
    cases first <;> cases second <;> simp [Stage.ctorIdx]

namespace UsdcRebalance

def stage : UsdcRebalance → Stage
  | .converting .alpacaToBase .. => .converting
  | .converting .baseToAlpaca .. => .settling
  | .conversionComplete .alpacaToBase .. => .converted
  | .conversionComplete .baseToAlpaca .. => .settled
  | .withdrawalSubmitting .. => .withdrawalSubmitting
  | .withdrawing .. => .withdrawing
  | .withdrawalComplete .. => .withdrawalComplete
  | .bridgingSubmitting .. => .bridgingSubmitting
  | .bridging .. => .bridging
  | .awaitingAttestation .. => .awaitingAttestation
  | .attested .. => .attested
  | .bridged .. => .bridged
  | .bridgingFailed .. => .bridgingFailed
  | .depositInitiated .. => .depositInitiated
  | .depositConfirmed .. => .depositConfirmed
  | .conversionFailed .. | .withdrawalFailed .. | .depositFailed .. => .failed
  | .reconciled .. => .reconciled

/-- The hash of a burn that was broadcast and is not known to have been mined. -/
def pendingBurn : UsdcRebalance → Option TxHash
  | .bridgingSubmitting _ _ _ _ _ pendingBurnTx => pendingBurnTx
  | _ => none

/-- All of a rebalance but the hash of a pending burn. -/
def core : UsdcRebalance → UsdcRebalance
  | .bridgingSubmitting direction amount fromBlock initiatedAt burnAmount _ =>
      .bridgingSubmitting direction amount fromBlock initiatedAt burnAmount none
  | entity => entity

@[simp] theorem stage_core (entity : UsdcRebalance) : entity.core.stage = entity.stage := by
  cases entity <;> rfl

theorem core_eq_self {entity : UsdcRebalance} (other : entity.stage ≠ .bridgingSubmitting) :
    entity.core = entity := by
  cases entity <;> first | rfl | exact absurd rfl other

end UsdcRebalance

/-- The stage of a rebalance that may not have begun. -/
def stageOf : Option UsdcRebalance → Stage
  | none => .fresh
  | some entity => entity.stage

@[simp] theorem stageOf_none : stageOf none = .fresh := rfl

@[simp] theorem stageOf_some (entity : UsdcRebalance) : stageOf (some entity) = entity.stage := rfl

/-- The pending burn of a rebalance that may not have begun. -/
def pendingBurnOf (state : Option UsdcRebalance) : Option TxHash :=
  state.bind UsdcRebalance.pendingBurn

@[simp] theorem pendingBurnOf_none : pendingBurnOf none = none := rfl

@[simp] theorem pendingBurnOf_some (entity : UsdcRebalance) :
    pendingBurnOf (some entity) = entity.pendingBurn := rfl

theorem stageOf_eq_of_core {first second : Option UsdcRebalance}
    (same : first.map UsdcRebalance.core = second.map UsdcRebalance.core) :
    stageOf first = stageOf second := by
  cases first <;> cases second
  case none.none => rfl
  case some.some first second =>
    have equal : first.core = second.core := by simpa using same
    rw [stageOf_some, stageOf_some, ← first.stage_core, ← second.stage_core, equal]
  all_goals simp at same

/-- Two states that differ in a pending burn at most are equal where there is none. -/
theorem eq_some_of_core {first second : Option UsdcRebalance} {entity : UsdcRebalance}
    (same : first.map UsdcRebalance.core = second.map UsdcRebalance.core)
    (stored : second = some entity) (other : entity.stage ≠ .bridgingSubmitting) :
    first = some entity := by
  rw [stored] at same
  obtain ⟨current, found, equal⟩ := Option.map_eq_some_iff.mp same
  have stages : current.stage = entity.stage := by
    rw [← current.stage_core, equal, entity.stage_core]
  rw [UsdcRebalance.core_eq_self (stages ▸ other), UsdcRebalance.core_eq_self other] at equal
  rw [found, equal]

/-- The events that only set or clear the hash of a pending burn. -/
def UsdcRebalanceEvent.aboutPendingBurn : UsdcRebalanceEvent → Bool
  | .pendingBurnRecorded .. | .pendingBurnCleared .. => true
  | _ => false

/-- The event a command appends when it is accepted. -/
def UsdcRebalanceCommand.Announces (command : UsdcRebalanceCommand) (event : UsdcRebalanceEvent) :
    Prop :=
  match command with
  | .initiateConversion direction amount orderId =>
      ∃ time, event = .conversionInitiated direction amount orderId time
  | .confirmConversion conversion =>
      ∃ direction time, event = .conversionConfirmed direction conversion time
  | .failConversion reason => ∃ time, event = .conversionFailed reason time
  | .initiatePostDepositConversion orderId amount =>
      ∃ time, event = .conversionInitiated .baseToAlpaca amount orderId time
  | .beginWithdrawal direction amount fromBlock =>
      ∃ time, event = .withdrawalSubmitting direction amount fromBlock time
  | .initiate direction amount withdrawal =>
      ∃ time, event = .initiated direction amount withdrawal time
  | .confirmWithdrawal withdrawalTx => ∃ time, event = .withdrawalConfirmed time withdrawalTx
  | .failWithdrawal reason => ∃ time, event = .withdrawalFailed reason time
  | .beginBridging fromBlock burnAmount =>
      ∃ time, event = .bridgingSubmitting fromBlock time burnAmount
  | .initiateBridging burnTx => ∃ time, event = .bridgingInitiated burnTx time
  | .recordPendingBurn burnTx => ∃ time, event = .pendingBurnRecorded burnTx time
  | .clearPendingBurn => ∃ time, event = .pendingBurnCleared time
  | .receiveAttestation attestation cctpNonce message mintScanFromBlock =>
      ∃ time, event = .bridgeAttestationReceived attestation cctpNonce (some message)
        (some mintScanFromBlock) time
  | .timeoutAttestation retryDeadlineAt =>
      ∃ burnTx time, event = .attestationTimedOut burnTx retryDeadlineAt time
  | .confirmBridging mintTx amountReceived feeCollected =>
      ∃ time, event = .bridged mintTx amountReceived feeCollected time
  | .failBridging reason => ∃ burnTx nonce time, event = .bridgingFailed burnTx nonce reason time
  | .recoverBridging mintTx amountReceived feeCollected =>
      ∃ time, event = .bridgingCompletionRecovered mintTx amountReceived feeCollected time
  | .initiateDeposit deposit => ∃ time, event = .depositInitiated deposit time
  | .confirmDeposit => ∃ direction time, event = .depositConfirmed direction time
  | .failDeposit reason => ∃ deposit time, event = .depositFailed deposit reason time
  | .reconcileStuckRebalance reason =>
      ∃ direction amount initiatedAt time,
        event = .operatorReconciled direction amount reason initiatedAt time

/-- The commands that only set or clear the hash of a pending burn. -/
def UsdcRebalanceCommand.aboutPendingBurn : UsdcRebalanceCommand → Bool
  | .recordPendingBurn _ | .clearPendingBurn => true
  | _ => false

theorem UsdcRebalanceCommand.Announces.about {command : UsdcRebalanceCommand}
    {event : UsdcRebalanceEvent} (announces : command.Announces event) :
    event.aboutPendingBurn = command.aboutPendingBurn := by
  cases command with
  | confirmConversion | timeoutAttestation | confirmDeposit | failDeposit =>
      obtain ⟨_, _, rfl⟩ := announces
      rfl
  | failBridging =>
      obtain ⟨_, _, _, rfl⟩ := announces
      rfl
  | reconcileStuckRebalance =>
      obtain ⟨_, _, _, _, rfl⟩ := announces
      rfl
  | _ =>
      obtain ⟨_, rfl⟩ := announces
      rfl

namespace UsdcRebalance

/-! ## Along an event -/

section Advances

variable {state : Option UsdcRebalance} {event : UsdcRebalanceEvent} {next : UsdcRebalance}

/-- Every event but a pending burn's leads to a later stage. -/
theorem Advances.stage_lt (advances : Advances state event next)
    (other : event.aboutPendingBurn = false) : stageOf state < next.stage := by
  cases advances with
  | recordPendingBurn => cases other
  | clearPendingBurn => cases other
  | confirmConversion direction | failConversion direction =>
      cases direction <;> exact of_decide_eq_true rfl
  | _ => exact of_decide_eq_true rfl

/-- A pending burn's event changes nothing else. -/
theorem Advances.core_eq (advances : Advances state event next)
    (pending : event.aboutPendingBurn = true) :
    (some next).map core = state.map core := by
  cases advances <;> first | rfl | cases pending

theorem Advances.stage_le (advances : Advances state event next) : stageOf state ≤ next.stage := by
  cases pending : event.aboutPendingBurn with
  | false => exact (advances.stage_lt pending).le
  | true => exact (stageOf_eq_of_core (advances.core_eq pending)).ge

/-- Only a pending burn's event leaves a pending burn. -/
theorem Advances.pendingBurn_eq (advances : Advances state event next)
    (other : event.aboutPendingBurn = false) : next.pendingBurn = none := by
  cases advances <;> first | rfl | cases other

theorem Advances.pendingBurn_recorded {burnTx : TxHash} {time : Time}
    (advances : Advances state (.pendingBurnRecorded burnTx time) next) :
    next.pendingBurn = some burnTx := by
  cases advances
  rfl

theorem Advances.pendingBurn_cleared {time : Time}
    (advances : Advances state (.pendingBurnCleared time) next) : next.pendingBurn = none := by
  cases advances
  rfl

end Advances

/-! ## Commands and their events -/

theorem initialise_announces {now : Time} {command : UsdcRebalanceCommand}
    {events : List UsdcRebalanceEvent} (answered : initialise now command = .ok events)
    {event : UsdcRebalanceEvent} (member : event ∈ events) : command.Announces event := by
  cases command with
  | initiateConversion | initiate =>
      cases answered
      exact ⟨_, List.mem_singleton.mp member⟩
  | beginWithdrawal =>
      simp only [initialise, beginWithdrawalInitEvents] at answered
      split at answered <;> cases answered
      exact ⟨_, List.mem_singleton.mp member⟩
  | _ => cases answered

/-- An accepted command announces what it appends. -/
theorem transition_announces {entity : UsdcRebalance} {now : Time} {command : UsdcRebalanceCommand}
    {events : List UsdcRebalanceEvent} (answered : transition now entity command = .ok events)
    {event : UsdcRebalanceEvent} (member : event ∈ events) : command.Announces event := by
  cases command <;>
    simp only [transition, transitionConfirmConversion, transitionFailConversion,
      transitionPostDepositConversion, transitionBeginWithdrawal, transitionInitiateWithdrawal,
      transitionConfirmWithdrawal, transitionFailWithdrawal, transitionBeginBridging,
      transitionInitiateBridging, transitionRecordPendingBurn, transitionClearPendingBurn,
      transitionReceiveAttestation, transitionTimeoutAttestation, transitionConfirmBridging,
      transitionFailBridging, transitionRecoverBridging, transitionInitiateDeposit,
      transitionConfirmDeposit, transitionFailDeposit, transitionReconcileStuckRebalance]
      at answered
  all_goals
    repeat' split at answered
    all_goals cases answered
    all_goals simp_all [UsdcRebalanceCommand.Announces]

theorem initialise_ne_nil {now : Time} {command : UsdcRebalanceCommand} :
    initialise now command ≠ .ok [] := by
  intro answered
  cases command with
  | beginWithdrawal =>
      simp only [initialise, beginWithdrawalInitEvents] at answered
      split at answered <;> cases answered
  | _ => cases answered

/-- The only command that is accepted without an event clears a burn that is not
there. -/
theorem transition_eq_nil {entity : UsdcRebalance} {now : Time} {command : UsdcRebalanceCommand}
    (answered : transition now entity command = .ok []) :
    command = .clearPendingBurn ∧ entity.pendingBurn = none := by
  cases command with
  | clearPendingBurn =>
      simp only [transition, transitionClearPendingBurn] at answered
      split at answered <;> cases answered
      exact ⟨rfl, rfl⟩
  | _ =>
      simp only [transition, transitionConfirmConversion, transitionFailConversion,
        transitionPostDepositConversion, transitionBeginWithdrawal, transitionInitiateWithdrawal,
        transitionConfirmWithdrawal, transitionFailWithdrawal, transitionBeginBridging,
        transitionInitiateBridging, transitionRecordPendingBurn, transitionReceiveAttestation,
        transitionTimeoutAttestation, transitionConfirmBridging, transitionFailBridging,
        transitionRecoverBridging, transitionInitiateDeposit, transitionConfirmDeposit,
        transitionFailDeposit, transitionReconcileStuckRebalance] at answered
      repeat' split at answered
      all_goals cases answered

/-- What an accepted command does to a stream. -/
theorem Emits.accepts {stream events : List UsdcRebalanceEvent} {state : Option UsdcRebalance}
    {now : Time} {command : UsdcRebalanceCommand} (h : Emits stream state)
    (allowed : issued state command = true)
    (accepted : aggregate.send now command stream = .ok events) :
    (events = [] ∧ command = .clearPendingBurn ∧ pendingBurnOf state = none) ∨
      ∃ event next, events = [event] ∧ Advances state event next ∧ command.Announces event := by
  rcases h.send allowed accepted with rfl | ⟨event, next, rfl, advances⟩
  · refine .inl ⟨rfl, ?_⟩
    rcases aggregate.send_eq_ok.mp accepted with ⟨-, answered⟩ | ⟨entity, live, answered⟩
    · exact absurd answered initialise_ne_nil
    · obtain ⟨cleared, nothing⟩ := transition_eq_nil answered
      refine ⟨cleared, ?_⟩
      rw [h.lifecycle] at live
      cases state with
      | none => cases live
      | some current =>
          cases live
          exact nothing
  · refine .inr ⟨event, next, rfl, advances, ?_⟩
    rcases aggregate.send_eq_ok.mp accepted with ⟨-, answered⟩ | ⟨entity, -, answered⟩
    · exact initialise_announces answered (List.mem_singleton_self event)
    · exact transition_announces answered (List.mem_singleton_self event)

end UsdcRebalance

end Liquidity
