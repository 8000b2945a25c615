import Liquidity.UsdcRebalance.Aggregate

/-!
# What a rebalance can do next

`Advances` lists, for each state of a rebalance, the events its commands can
append and where they lead. Everything else about streams of a rebalance is
read off this list.

Two commands are accepted more widely than anybody sends them. A transfer only
opens with a conversion when it leaves the broker, and nothing withdraws again
after the conversion that ends a BaseToAlpaca transfer. `issued` is what the
transfers and the operator's commands keep to.
-/

namespace Liquidity

open EventSourcing

namespace UsdcRebalance

/-- The discipline of those who send commands, beyond what the aggregate checks. -/
def issued (state : Option UsdcRebalance) : UsdcRebalanceCommand → Bool
  | .initiateConversion direction _ _ => direction = .alpacaToBase
  | .beginWithdrawal .. | .initiate .. =>
      match state with
      | some (.conversionComplete direction ..) => direction = .alpacaToBase
      | _ => true
  | _ => true

/-- The events a state can append, and the state each leads to. -/
inductive Advances : Option UsdcRebalance → UsdcRebalanceEvent → UsdcRebalance → Prop where
  | convert (amount orderId time) :
      Advances none (.conversionInitiated .alpacaToBase amount orderId time)
        (.converting .alpacaToBase amount orderId time)
  | beginWithdrawal (amount fromBlock time) :
      Advances none (.withdrawalSubmitting .baseToAlpaca amount fromBlock time)
        (.withdrawalSubmitting .baseToAlpaca amount fromBlock time)
  | withdraw (direction amount withdrawal time) :
      Advances none (.initiated direction amount withdrawal time)
        (.withdrawing direction amount withdrawal time)
  | confirmConversion (direction amount orderId initiatedAt conversion time) :
      Advances (some (.converting direction amount orderId initiatedAt))
        (.conversionConfirmed direction conversion time)
        (.conversionComplete direction amount conversion initiatedAt time)
  | failConversion (direction amount orderId initiatedAt reason time) :
      Advances (some (.converting direction amount orderId initiatedAt))
        (.conversionFailed reason time)
        (.conversionFailed direction amount orderId reason initiatedAt time)
  | convertDeposit (amount burnTx mintTx initiatedAt confirmedAt orderId time) :
      Advances (some (.depositConfirmed .baseToAlpaca amount burnTx mintTx initiatedAt confirmedAt))
        (.conversionInitiated .baseToAlpaca amount orderId time)
        (.converting .baseToAlpaca amount orderId initiatedAt)
  | beginConverted (amount conversion initiatedAt convertedAt fromBlock time) :
      Advances (some (.conversionComplete .alpacaToBase amount conversion initiatedAt convertedAt))
        (.withdrawalSubmitting .alpacaToBase conversion.receivedAmount fromBlock time)
        (.withdrawalSubmitting .alpacaToBase conversion.receivedAmount fromBlock initiatedAt)
  | withdrawConverted (amount conversion initiatedAt convertedAt withdrawal time) :
      Advances (some (.conversionComplete .alpacaToBase amount conversion initiatedAt convertedAt))
        (.initiated .alpacaToBase conversion.receivedAmount withdrawal time)
        (.withdrawing .alpacaToBase conversion.receivedAmount withdrawal time)
  | withdrawBegun (direction amount fromBlock initiatedAt withdrawal time) :
      Advances (some (.withdrawalSubmitting direction amount fromBlock initiatedAt))
        (.initiated direction amount withdrawal time)
        (.withdrawing direction amount withdrawal time)
  | confirmWithdrawal (direction amount withdrawal initiatedAt withdrawalTx time) :
      Advances (some (.withdrawing direction amount withdrawal initiatedAt))
        (.withdrawalConfirmed time withdrawalTx)
        (.withdrawalComplete direction amount initiatedAt time withdrawalTx)
  | failWithdrawal (direction amount withdrawal initiatedAt reason time) :
      Advances (some (.withdrawing direction amount withdrawal initiatedAt))
        (.withdrawalFailed reason time)
        (.withdrawalFailed direction amount withdrawal reason initiatedAt time)
  | beginBridging (direction amount initiatedAt confirmedAt withdrawalTx fromBlock burnAmount time)
      (inRange : ∀ burn, burnAmount = some burn → burnAmountOutOfRange burn amount = false) :
      Advances (some (.withdrawalComplete direction amount initiatedAt confirmedAt withdrawalTx))
        (.bridgingSubmitting fromBlock time burnAmount)
        (.bridgingSubmitting direction amount fromBlock initiatedAt burnAmount none)
  | bridgeWithdrawn (direction amount initiatedAt confirmedAt withdrawalTx burnTx time) :
      Advances (some (.withdrawalComplete direction amount initiatedAt confirmedAt withdrawalTx))
        (.bridgingInitiated burnTx time) (.bridging direction amount burnTx initiatedAt time)
  | failWithdrawn (direction amount initiatedAt confirmedAt withdrawalTx reason time) :
      Advances (some (.withdrawalComplete direction amount initiatedAt confirmedAt withdrawalTx))
        (.bridgingFailed none none reason time)
        (.bridgingFailed direction amount none none reason initiatedAt time)
  | bridgeBegun (direction amount fromBlock initiatedAt burnAmount pending burnTx time) :
      Advances (some (.bridgingSubmitting direction amount fromBlock initiatedAt burnAmount pending))
        (.bridgingInitiated burnTx time)
        (.bridging direction (burnAmount.getD amount) burnTx initiatedAt time)
  | recordPendingBurn (direction amount fromBlock initiatedAt burnAmount pending burnTx time) :
      Advances (some (.bridgingSubmitting direction amount fromBlock initiatedAt burnAmount pending))
        (.pendingBurnRecorded burnTx time)
        (.bridgingSubmitting direction amount fromBlock initiatedAt burnAmount (some burnTx))
  | clearPendingBurn (direction amount fromBlock initiatedAt burnAmount burnTx time) :
      Advances
        (some (.bridgingSubmitting direction amount fromBlock initiatedAt burnAmount (some burnTx)))
        (.pendingBurnCleared time)
        (.bridgingSubmitting direction amount fromBlock initiatedAt burnAmount none)
  | failBegun (direction amount fromBlock initiatedAt burnAmount reason time) :
      Advances (some (.bridgingSubmitting direction amount fromBlock initiatedAt burnAmount none))
        (.bridgingFailed none none reason time)
        (.bridgingFailed direction amount none none reason initiatedAt time)
  | attestBridging (direction amount burnTx initiatedAt burnedAt attestation nonce message scan time) :
      Advances (some (.bridging direction amount burnTx initiatedAt burnedAt))
        (.bridgeAttestationReceived attestation nonce message scan time)
        (.attested direction amount burnTx nonce attestation message scan initiatedAt time)
  | attestAwaiting (direction amount burnTx initiatedAt timedOutAt deadline attestation nonce message
      scan time) :
      Advances (some (.awaitingAttestation direction amount burnTx initiatedAt timedOutAt deadline))
        (.bridgeAttestationReceived attestation nonce message scan time)
        (.attested direction amount burnTx nonce attestation message scan initiatedAt time)
  | timeoutAttestation (direction amount burnTx initiatedAt burnedAt deadline time) :
      Advances (some (.bridging direction amount burnTx initiatedAt burnedAt))
        (.attestationTimedOut burnTx deadline time)
        (.awaitingAttestation direction amount burnTx initiatedAt time deadline)
  | failBridging (direction amount burnTx initiatedAt burnedAt reason time) :
      Advances (some (.bridging direction amount burnTx initiatedAt burnedAt))
        (.bridgingFailed (some burnTx) none reason time)
        (.bridgingFailed direction amount (some burnTx) none reason initiatedAt time)
  | failAwaiting (direction amount burnTx initiatedAt timedOutAt deadline reason time) :
      Advances (some (.awaitingAttestation direction amount burnTx initiatedAt timedOutAt deadline))
        (.bridgingFailed (some burnTx) none reason time)
        (.bridgingFailed direction amount (some burnTx) none reason initiatedAt time)
  | failAttested (direction amount burnTx nonce attestation message scan initiatedAt attestedAt reason
      time) :
      Advances
        (some (.attested direction amount burnTx nonce attestation message scan initiatedAt
          attestedAt))
        (.bridgingFailed (some burnTx) (some nonce) reason time)
        (.bridgingFailed direction amount (some burnTx) (some nonce) reason initiatedAt time)
  | confirmBridging (direction amount burnTx nonce attestation message scan initiatedAt attestedAt
      mintTx received fee time) :
      Advances
        (some (.attested direction amount burnTx nonce attestation message scan initiatedAt
          attestedAt))
        (.bridged mintTx received fee time)
        (.bridged direction amount received fee burnTx mintTx initiatedAt time)
  | recoverBridging (direction amount burnTx nonce reason initiatedAt failedAt mintTx received fee
      time) :
      Advances (some (.bridgingFailed direction amount (some burnTx) nonce reason initiatedAt
          failedAt))
        (.bridgingCompletionRecovered mintTx received fee time)
        (.bridged direction amount received fee burnTx mintTx initiatedAt time)
  | initiateDeposit (direction amount received fee burnTx mintTx initiatedAt mintedAt deposit time) :
      Advances (some (.bridged direction amount received fee burnTx mintTx initiatedAt mintedAt))
        (.depositInitiated deposit time)
        (.depositInitiated direction received burnTx mintTx deposit initiatedAt time)
  | confirmDeposit (direction amount burnTx mintTx deposit initiatedAt depositedAt time) :
      Advances
        (some (.depositInitiated direction amount burnTx mintTx deposit initiatedAt depositedAt))
        (.depositConfirmed direction time)
        (.depositConfirmed direction amount burnTx mintTx initiatedAt time)
  | failDeposit (direction amount burnTx mintTx deposit initiatedAt depositedAt reason time) :
      Advances
        (some (.depositInitiated direction amount burnTx mintTx deposit initiatedAt depositedAt))
        (.depositFailed (some deposit) reason time)
        (.depositFailed direction amount burnTx mintTx (some deposit) reason initiatedAt time)
  | reconcileDeposit (direction amount burnTx mintTx deposit failure initiatedAt failedAt reason time) :
      Advances (some (.depositFailed direction amount burnTx mintTx deposit failure initiatedAt
          failedAt))
        (.operatorReconciled direction amount reason initiatedAt time)
        (.reconciled direction amount reason (some failure) initiatedAt time)
  | reconcileConversion (amount orderId failure initiatedAt failedAt reason time) :
      Advances (some (.conversionFailed .baseToAlpaca amount orderId failure initiatedAt failedAt))
        (.operatorReconciled .baseToAlpaca amount reason initiatedAt time)
        (.reconciled .baseToAlpaca amount reason (some failure) initiatedAt time)
  | reconcileBridging (direction amount burnTx nonce failure initiatedAt failedAt reason time)
      (postBurn : (Option.isSome burnTx || Option.isSome nonce) = true) :
      Advances (some (.bridgingFailed direction amount burnTx nonce failure initiatedAt failedAt))
        (.operatorReconciled direction amount reason initiatedAt time)
        (.reconciled direction amount reason (some failure) initiatedAt time)

theorem Advances.originate {event : UsdcRebalanceEvent} {state : UsdcRebalance}
    (h : Advances none event state) : UsdcRebalance.originate event = some state := by
  cases h <;> rfl

theorem Advances.next {entity : UsdcRebalance} {event : UsdcRebalanceEvent} {state : UsdcRebalance}
    (h : Advances (some entity) event state) : entity.next event = some state := by
  cases h with
  | timeoutAttestation => simp [UsdcRebalance.next]
  | reconcileBridging _ _ _ _ _ _ _ _ _ postBurn =>
      simp [UsdcRebalance.next, evolveOperatorReconciled, reconcilable, postBurn]
  | _ => rfl

/-- What an accepted command appends: one event the state can take, or nothing. -/
def Appends (state : Option UsdcRebalance) (events : List UsdcRebalanceEvent) : Prop :=
  events = [] ∨ ∃ event next, events = [event] ∧ Advances state event next

theorem Appends.one {state : Option UsdcRebalance} {event : UsdcRebalanceEvent}
    {next : UsdcRebalance} (h : Advances state event next) : Appends state [event] :=
  .inr ⟨event, next, rfl, h⟩

theorem initialise_appends {now : Time} {command : UsdcRebalanceCommand}
    {events : List UsdcRebalanceEvent} (allowed : issued none command = true)
    (answered : initialise now command = .ok events) : Appends none events := by
  cases command with
  | initiateConversion direction amount orderId =>
      cases answered
      obtain rfl : direction = .alpacaToBase := by simpa [issued] using allowed
      exact .one (.convert ..)
  | beginWithdrawal direction amount fromBlock =>
      simp only [initialise, beginWithdrawalInitEvents] at answered
      split at answered
      case isTrue => cases answered
      case isFalse fresh =>
        cases answered
        obtain rfl : direction = .baseToAlpaca := by simpa using fresh
        exact .one (.beginWithdrawal ..)
  | initiate direction amount withdrawal =>
      cases answered
      exact .one (.withdraw ..)
  | _ => cases answered

section Handlers

variable {entity : UsdcRebalance} {now : Time} {events : List UsdcRebalanceEvent}

theorem confirmConversion_appends {conversion : ConversionAmounts}
    (answered : entity.transitionConfirmConversion conversion now = .ok events) :
    Appends (some entity) events := by
  unfold transitionConfirmConversion at answered
  split at answered <;> cases answered
  exact .one (.confirmConversion ..)

theorem failConversion_appends {reason : String}
    (answered : entity.transitionFailConversion reason now = .ok events) :
    Appends (some entity) events := by
  unfold transitionFailConversion at answered
  split at answered <;> cases answered
  exact .one (.failConversion ..)

theorem postDepositConversion_appends {orderId : ClientOrderId} {amount : Usdc}
    (answered : entity.transitionPostDepositConversion orderId amount now = .ok events) :
    Appends (some entity) events := by
  unfold transitionPostDepositConversion at answered
  split at answered
  case h_2 => cases answered
  case h_1 direction amount' burnTx mintTx initiatedAt confirmedAt =>
    split at answered
    case isTrue => cases answered
    case isFalse sided =>
      split at answered <;> cases answered
      obtain rfl : direction = .baseToAlpaca := by simpa using sided
      exact .one (.convertDeposit ..)

theorem beginWithdrawal_appends {direction : RebalanceDirection} {amount : Usdc} {fromBlock : Nat}
    (allowed : issued (some entity) (.beginWithdrawal direction amount fromBlock) = true)
    (answered : entity.transitionBeginWithdrawal direction amount fromBlock now = .ok events) :
    Appends (some entity) events := by
  unfold transitionBeginWithdrawal at answered
  split at answered
  case h_2 => cases answered
  case h_1 convDirection amount' conversion initiatedAt convertedAt =>
    obtain rfl : convDirection = .alpacaToBase := by simpa [issued] using allowed
    split at answered
    case isTrue => cases answered
    case isFalse sided =>
      split at answered <;> cases answered
      obtain rfl : direction = .alpacaToBase := by simpa using sided
      exact .one (.beginConverted ..)

theorem initiateWithdrawal_appends {direction : RebalanceDirection} {amount : Usdc}
    {withdrawal : TransferRef}
    (allowed : issued (some entity) (.initiate direction amount withdrawal) = true)
    (answered : entity.transitionInitiateWithdrawal direction amount withdrawal now = .ok events) :
    Appends (some entity) events := by
  unfold transitionInitiateWithdrawal at answered
  split at answered
  case h_1 => cases answered
  case h_2 expectedDirection expectedAmount entered =>
    split at answered
    case isTrue => cases answered
    case isFalse sided =>
      split at answered <;> cases answered
      obtain rfl : direction = expectedDirection := by simpa using sided
      cases entity <;> simp only [withdrawalEntry, Option.some.injEq, Prod.mk.injEq,
        reduceCtorEq] at entered
      case withdrawalSubmitting =>
        obtain ⟨rfl, rfl⟩ := entered
        exact .one (.withdrawBegun ..)
      case conversionComplete =>
        obtain ⟨rfl, rfl⟩ := entered
        obtain rfl := of_decide_eq_true allowed
        exact .one (.withdrawConverted ..)

theorem confirmWithdrawal_appends {withdrawalTx : Option TxHash}
    (answered : entity.transitionConfirmWithdrawal withdrawalTx now = .ok events) :
    Appends (some entity) events := by
  unfold transitionConfirmWithdrawal at answered
  split at answered <;> cases answered
  exact .one (.confirmWithdrawal ..)

theorem failWithdrawal_appends {reason : String}
    (answered : entity.transitionFailWithdrawal reason now = .ok events) :
    Appends (some entity) events := by
  unfold transitionFailWithdrawal at answered
  split at answered <;> cases answered
  exact .one (.failWithdrawal ..)

theorem beginBridging_appends {fromBlock : Nat} {burnAmount : Option Usdc}
    (answered : entity.transitionBeginBridging fromBlock burnAmount now = .ok events) :
    Appends (some entity) events := by
  unfold transitionBeginBridging at answered
  split at answered
  case h_1 =>
    split at answered
    case h_1 burn =>
      split at answered
      case isTrue => cases answered
      case isFalse inRange =>
        cases answered
        refine .one (.beginBridging _ _ _ _ _ _ _ _ ?_)
        rintro _ ⟨⟩
        simpa using inRange
    case h_2 =>
      cases answered
      exact .one (.beginBridging _ _ _ _ _ _ _ _ (by rintro _ ⟨⟩))
  case h_2 =>
    split at answered <;> cases answered

theorem initiateBridging_appends {burnTx : TxHash}
    (answered : entity.transitionInitiateBridging burnTx now = .ok events) :
    Appends (some entity) events := by
  unfold transitionInitiateBridging at answered
  split at answered
  case h_1 =>
    cases answered
    exact .one (.bridgeWithdrawn ..)
  case h_2 =>
    cases answered
    exact .one (.bridgeBegun ..)
  case h_3 => split at answered <;> cases answered

theorem recordPendingBurn_appends {burnTx : TxHash}
    (answered : entity.transitionRecordPendingBurn burnTx now = .ok events) :
    Appends (some entity) events := by
  unfold transitionRecordPendingBurn at answered
  split at answered <;> cases answered
  exact .one (.recordPendingBurn ..)

theorem clearPendingBurn_appends (answered : entity.transitionClearPendingBurn now = .ok events) :
    Appends (some entity) events := by
  unfold transitionClearPendingBurn at answered
  split at answered <;> cases answered
  · exact .one (.clearPendingBurn ..)
  · exact .inl rfl

theorem receiveAttestation_appends {attestation : List UInt8} {nonce : Nat} {message : List UInt8}
    {scan : Nat}
    (answered : entity.transitionReceiveAttestation attestation nonce message scan now =
      .ok events) : Appends (some entity) events := by
  unfold transitionReceiveAttestation at answered
  split at answered
  case h_1 =>
    cases answered
    exact .one (.attestBridging ..)
  case h_2 =>
    cases answered
    exact .one (.attestAwaiting ..)
  case h_3 => cases answered
  case h_4 => split at answered <;> cases answered

theorem timeoutAttestation_appends {deadline : Time}
    (answered : entity.transitionTimeoutAttestation deadline now = .ok events) :
    Appends (some entity) events := by
  unfold transitionTimeoutAttestation at answered
  split at answered
  case h_1 =>
    cases answered
    exact .one (.timeoutAttestation ..)
  case h_4 => split at answered <;> cases answered
  all_goals cases answered

theorem confirmBridging_appends {mintTx : TxHash} {received fee : Usdc}
    (answered : entity.transitionConfirmBridging mintTx received fee now = .ok events) :
    Appends (some entity) events := by
  unfold transitionConfirmBridging at answered
  split at answered
  case h_1 =>
    cases answered
    exact .one (.confirmBridging ..)
  case h_4 => split at answered <;> cases answered
  all_goals cases answered

theorem failBridging_appends {reason : String}
    (answered : entity.transitionFailBridging reason now = .ok events) :
    Appends (some entity) events := by
  unfold transitionFailBridging at answered
  split at answered
  case h_1 => cases answered
  case h_2 =>
    cases answered
    exact .one (.failWithdrawn ..)
  case h_3 =>
    cases answered
    exact .one (.failBegun ..)
  case h_4 =>
    cases answered
    exact .one (.failBridging ..)
  case h_5 =>
    cases answered
    exact .one (.failAwaiting ..)
  case h_6 =>
    cases answered
    exact .one (.failAttested ..)
  case h_7 => split at answered <;> cases answered

theorem recoverBridging_appends {mintTx : TxHash} {received fee : Usdc}
    (answered : entity.transitionRecoverBridging mintTx received fee now = .ok events) :
    Appends (some entity) events := by
  unfold transitionRecoverBridging at answered
  split at answered <;> cases answered
  exact .one (.recoverBridging ..)

theorem initiateDeposit_appends {deposit : TransferRef}
    (answered : entity.transitionInitiateDeposit deposit now = .ok events) :
    Appends (some entity) events := by
  unfold transitionInitiateDeposit at answered
  split at answered
  case h_1 =>
    cases answered
    exact .one (.initiateDeposit ..)
  case h_2 => split at answered <;> cases answered

theorem confirmDeposit_appends (answered : entity.transitionConfirmDeposit now = .ok events) :
    Appends (some entity) events := by
  unfold transitionConfirmDeposit at answered
  split at answered <;> cases answered
  exact .one (.confirmDeposit ..)

theorem failDeposit_appends {reason : String}
    (answered : entity.transitionFailDeposit reason now = .ok events) :
    Appends (some entity) events := by
  unfold transitionFailDeposit at answered
  split at answered <;> cases answered
  exact .one (.failDeposit ..)

theorem reconcile_appends {reason : ReconcileReason}
    (answered : entity.transitionReconcileStuckRebalance reason now = .ok events) :
    Appends (some entity) events := by
  unfold transitionReconcileStuckRebalance at answered
  split at answered
  case h_1 =>
    cases answered
    exact .one (.reconcileDeposit ..)
  case h_2 =>
    cases answered
    exact .one (.reconcileConversion ..)
  case h_3 =>
    split at answered
    case isTrue postBurn =>
      cases answered
      exact .one (.reconcileBridging _ _ _ _ _ _ _ _ _ postBurn)
    case isFalse => cases answered
  case h_4 => cases answered

/-- What any command appends to a live rebalance. -/
theorem transition_appends {command : UsdcRebalanceCommand}
    (allowed : issued (some entity) command = true)
    (answered : transition now entity command = .ok events) : Appends (some entity) events := by
  cases command with
  | initiateConversion => cases answered
  | confirmConversion => exact confirmConversion_appends answered
  | failConversion => exact failConversion_appends answered
  | initiatePostDepositConversion => exact postDepositConversion_appends answered
  | beginWithdrawal => exact beginWithdrawal_appends allowed answered
  | initiate => exact initiateWithdrawal_appends allowed answered
  | confirmWithdrawal => exact confirmWithdrawal_appends answered
  | failWithdrawal => exact failWithdrawal_appends answered
  | beginBridging => exact beginBridging_appends answered
  | initiateBridging => exact initiateBridging_appends answered
  | recordPendingBurn => exact recordPendingBurn_appends answered
  | clearPendingBurn => exact clearPendingBurn_appends answered
  | receiveAttestation => exact receiveAttestation_appends answered
  | timeoutAttestation => exact timeoutAttestation_appends answered
  | confirmBridging => exact confirmBridging_appends answered
  | failBridging => exact failBridging_appends answered
  | recoverBridging => exact recoverBridging_appends answered
  | initiateDeposit => exact initiateDeposit_appends answered
  | confirmDeposit => exact confirmDeposit_appends answered
  | failDeposit => exact failDeposit_appends answered
  | reconcileStuckRebalance => exact reconcile_appends answered

end Handlers

/-! ## Streams -/

/-- A stream of a rebalance and the state it leads to. -/
inductive Emits : List UsdcRebalanceEvent → Option UsdcRebalance → Prop where
  | empty : Emits [] none
  | append {stream : List UsdcRebalanceEvent} {state : Option UsdcRebalance}
      {event : UsdcRebalanceEvent} {next : UsdcRebalance} (emits : Emits stream state)
      (advances : Advances state event next) : Emits (stream ++ [event]) (some next)

/-- The lifecycle of a rebalance that never fails to replay. -/
def lifecycleOf : Option UsdcRebalance → Lifecycle UsdcRebalance
  | none => .uninitialized
  | some entity => .live entity

theorem Advances.apply {state : Option UsdcRebalance} {event : UsdcRebalanceEvent}
    {next : UsdcRebalance} (h : Advances state event next) :
    aggregate.apply (lifecycleOf state) event = .live next := by
  cases state with
  | none => simp [lifecycleOf, Aggregate.apply, aggregate, h.originate]
  | some entity => simp [lifecycleOf, Aggregate.apply, aggregate, evolve, h.next]

theorem Emits.lifecycle {stream : List UsdcRebalanceEvent} {state : Option UsdcRebalance}
    (h : Emits stream state) : aggregate.lifecycle stream = lifecycleOf state := by
  induction h with
  | empty => rfl
  | append emits advances ih =>
      rw [Aggregate.lifecycle_append, ih]
      exact advances.apply

theorem Emits.state_eq {stream : List UsdcRebalanceEvent} {state : Option UsdcRebalance}
    (h : Emits stream state) : (aggregate.lifecycle stream).entity? = state := by
  rw [h.lifecycle]
  cases state <;> rfl

theorem Emits.inv {stream : List UsdcRebalanceEvent} {event : UsdcRebalanceEvent}
    {state : Option UsdcRebalance} (h : Emits (stream ++ [event]) state) :
    ∃ before next, state = some next ∧ Emits stream before ∧ Advances before event next := by
  generalize split : stream ++ [event] = whole at h
  cases h with
  | empty => simp at split
  | append emits advances =>
      obtain ⟨rfl, same⟩ := List.append_inj' split rfl
      obtain rfl : event = _ := by simpa using same
      exact ⟨_, _, rfl, emits, advances⟩

/-- Every part of a stream up to some event is a stream itself. -/
theorem Emits.take {stream : List UsdcRebalanceEvent} {state : Option UsdcRebalance}
    (h : Emits stream state) (count : Nat) : ∃ before, Emits (stream.take count) before := by
  induction h with
  | empty => exact ⟨none, by simpa using Emits.empty⟩
  | @append stream _ event _ emits advances ih =>
      by_cases short : count ≤ stream.length
      · rw [List.take_append_of_le_length short]
        exact ih
      · rw [List.take_of_length_le (by simp; omega)]
        exact ⟨_, emits.append advances⟩

/-- A command extends a stream by one event the state can take, or not at all. -/
theorem Emits.send {stream events : List UsdcRebalanceEvent} {state : Option UsdcRebalance}
    {now : Time} {command : UsdcRebalanceCommand} (h : Emits stream state)
    (allowed : issued state command = true) (accepted : aggregate.send now command stream = .ok events) :
    Appends state events := by
  rcases aggregate.send_eq_ok.mp accepted with ⟨fresh, answered⟩ | ⟨entity, live, answered⟩
  · cases state with
    | some entity => simp [h.lifecycle, lifecycleOf] at fresh
    | none => exact initialise_appends allowed answered
  · cases state with
    | none => simp [h.lifecycle, lifecycleOf] at live
    | some current =>
        obtain rfl : current = entity := by simpa [h.lifecycle, lifecycleOf] using live
        exact transition_appends allowed answered

theorem Emits.appends {stream events : List UsdcRebalanceEvent} {state : Option UsdcRebalance}
    (h : Emits stream state) (appends : Appends state events) :
    ∃ after, Emits (stream ++ events) after := by
  rcases appends with rfl | ⟨event, next, rfl, advances⟩
  · exact ⟨state, by simpa using h⟩
  · exact ⟨some next, h.append advances⟩

/-- Streams grown by issued commands are the ones `Advances` describes. -/
theorem Emits.of_grown {stream : List UsdcRebalanceEvent} (h : aggregate.Grown issued stream) :
    ∃ state, Emits stream state := by
  induction h with
  | empty => exact ⟨none, .empty⟩
  | send grown allowed accepted ih =>
      obtain ⟨state, emits⟩ := ih
      rw [emits.state_eq] at allowed
      exact emits.appends (emits.send allowed accepted)

end UsdcRebalance

end Liquidity
