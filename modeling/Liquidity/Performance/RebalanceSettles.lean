import Liquidity.Performance.Lived
import Liquidity.Performance.RebalancePaths
import Liquidity.Performance.RebalanceStages

/-!
# Timings of rebalances converge

What a rebalance writes takes its stages in order: the run that an event ends was begun
by an event before it, and nothing that comes later opens it again. So an event that is
folded once more finds its runs as it left them, and a failure of the bridge, which ends
all runs that are open, finds those begun since too late for it. The rest of what is
stored is kept from the first event that tells it, or overwritten by the last.
-/

namespace Liquidity

open EventSourcing

namespace Performance.Rebalance

open UsdcRebalance

variable {event : UsdcRebalanceEvent}

/-! ## Streams -/

/-- The stage that a state is in the middle of. -/
def phaseStage : Option UsdcRebalance → Option StoredStageName
  | some (.converting ..) => some .conversion
  | some (.withdrawing ..) => some .withdrawal
  | some (.bridging ..) | some (.awaitingAttestation ..) => some .attestation
  | some (.attested ..) => some .mint
  | some (.depositInitiated ..) => some .deposit
  | _ => none

/-- The operation that one pass over a stream makes of it. -/
abbrev folded (idText : UsdcRebalanceId → String) (id : UsdcRebalanceId)
    (stream : List UsdcRebalanceEvent) : Option StoredOperation :=
  (timingProjection idText).fold id stream

/-- The stages of an operation, none if there is none. -/
def stagesOf (found : Option StoredOperation) : Runs StoredStageName StoredStageOutcome :=
  (found.map StoredOperation.stages).getD []

variable {idText : UsdcRebalanceId → String} {id : UsdcRebalanceId}

/-- Along a path every event that was folded is spent. -/
structure Keeps (time : Time) (stream : List UsdcRebalanceEvent) (state : Option UsdcRebalance)
    (runs : Runs StoredStageName StoredStageOutcome) : Prop where
  single : (runs.map StoredStage.stage).Nodup
  ready : ∀ stage, phaseStage state = some stage → runs.hasRun stage
  spent : ∀ event ∈ stream, observedAt event ≤ time ∧ Spent runs event

/-- The completion an event sets. -/
def setsCompletion : UsdcRebalanceEvent → Option (Option Time)
  | .conversionConfirmed .baseToAlpaca _ convertedAt => some (some convertedAt)
  | .depositConfirmed .alpacaToBase depositConfirmedAt => some (some depositConfirmedAt)
  | .operatorReconciled _ _ _ _ reconciledAt => some (some reconciledAt)
  | _ => none

/-- The status an event sets. -/
def setsStatus : UsdcRebalanceEvent → Option StoredStatus
  | .conversionConfirmed .baseToAlpaca .. | .depositConfirmed .alpacaToBase ..
  | .operatorReconciled .. => some .completed
  | .conversionFailed .. | .withdrawalFailed .. | .bridgingFailed .. | .depositFailed .. =>
      some .failed
  | .bridgingCompletionRecovered .. => some .inProgress
  | _ => none

section Fields

variable (operation : StoredOperation) (event : UsdcRebalanceEvent)

theorem apply_operationId : (operation.apply event).operationId = operation.operationId := by
  cases event <;> simp only [StoredOperation.apply, seedStart_eq, complete_eq, burned_eq] <;> rfl

end Fields

/-! ## Settled streams -/

theorem lawful (idText : UsdcRebalanceId → String) : (timingProjection idText).Lawful where
  new := fun _ _ => rfl
  apply := fun operation event _ => apply_operationId operation event

section Views

variable {stream : List UsdcRebalanceEvent}

end Views

/-- A withdrawal intent, and the withdrawal. -/
def withdrawal : List UsdcRebalanceEvent :=
  [.withdrawalSubmitting .baseToAlpaca 100 7 1, .initiated .baseToAlpaca 100 (.onchainTx 3) 2]

theorem reached_started : World.Reached (timingProjection fun _ => "") Written
    { World.initial with running := true } := by
  have step : World.Step (timingProjection fun _ => "") Written World.initial _ := .start rfl
  rw [show (World.initial : World UsdcRebalanceId UsdcRebalanceEvent StoredOperation).events = []
    from rfl, TimingProjection.catchUp_nil] at step
  exact .single step

/-- A transfer whose bridging the operator fails once it has burned, and the bot recovers. -/
def recovery : List UsdcRebalanceEvent :=
  withdrawal ++ [.withdrawalConfirmed 3 none, .bridgingSubmitting 8 4 none, .bridgingInitiated 5 5,
    .bridgingFailed (some 5) none "stuck" 6, .bridgingCompletionRecovered 9 99 1 7]

/-- The bot has reacted to all of it but the failure. -/
theorem exists_overtaken :
    ∃ world : World UsdcRebalanceId UsdcRebalanceEvent StoredOperation,
      world.Reached (timingProjection fun _ => "") Written ∧
        world.stream ⟨0⟩ = recovery.map .parsed ∧
        TimingProjection.loadOperation world.table ⟨0⟩ =
          .ok (folded (fun _ => "") ⟨0⟩ (recovery.eraseIdx 5)) ∧
        (world.table ⟨0⟩).bind TimingRow.lastSequence = none := by
  have intended : Written ⟨0⟩ 1 [] (recovery.take 1) := ⟨.beginWithdrawal .baseToAlpaca 100 7, rfl⟩
  have withdrawn : Written ⟨0⟩ 2 (recovery.take 1) [recovery[1]] :=
    ⟨.initiate .baseToAlpaca 100 (.onchainTx 3), rfl⟩
  have confirmed : Written ⟨0⟩ 3 (recovery.take 2) [recovery[2]] := ⟨.confirmWithdrawal none, rfl⟩
  have submitting : Written ⟨0⟩ 4 (recovery.take 3) [recovery[3]] := ⟨.beginBridging 8 none, rfl⟩
  have burned : Written ⟨0⟩ 5 (recovery.take 4) [recovery[4]] := ⟨.initiateBridging 5, rfl⟩
  have failed : Written ⟨0⟩ 6 (recovery.take 5) [recovery[5]] := ⟨.failBridging "stuck", rfl⟩
  have completed : Written ⟨0⟩ 7 (recovery.take 6) [recovery[6]] := ⟨.recoverBridging 9 99 1, rfl⟩
  have reached : World.Reached (timingProjection fun _ => "") Written _ :=
    ((((((((((((reached_started.tail
      (.command intended rfl (by decide) rfl)).tail (.react ⟨0⟩ rfl rfl)).tail
      (.command withdrawn rfl (by decide) rfl)).tail (.react ⟨0⟩ rfl rfl)).tail
      (.command confirmed rfl (by decide) rfl)).tail (.react ⟨0⟩ rfl rfl)).tail
      (.command submitting rfl (by decide) rfl)).tail (.react ⟨0⟩ rfl rfl)).tail
      (.command burned rfl (by decide) rfl)).tail (.react ⟨0⟩ rfl rfl)).tail
      (.operator failed rfl (by decide))).tail
      (.command completed rfl (by decide) rfl)).tail (.react ⟨0⟩ rfl rfl)
  exact ⟨_, reached, rfl, rfl, rfl⟩

/-- The recovery ends the attestation, so a replay that comes to the failure later does not
end it again: its row says succeeded where the stream says failed. -/
theorem rebalance_timings_diverge_overtaken :
    ∃ world : World UsdcRebalanceId UsdcRebalanceEvent StoredOperation,
      world.Reached (timingProjection fun _ => "") Written ∧
        world.stream ⟨0⟩ = recovery.map .parsed ∧
        (∃ found, TimingProjection.loadOperation world.table ⟨0⟩ = .ok found) ∧
        ¬ World.Shows (timingProjection fun _ => "")
          ((timingProjection fun _ => "").catchUp world.table world.events).1 ⟨0⟩ recovery := by
  obtain ⟨world, reached, readable, loaded, uncounted⟩ := exists_overtaken
  refine ⟨world, reached, readable, ⟨_, loaded⟩, fun shown => ?_⟩
  have replays := reached.replays (lawful _) readable loaded uncounted
  have same := Except.ok.inj (replays.symm.trans shown)
  have outcomes := congrArg (fun found => (stagesOf found).map StoredStage.outcome) same
  exact absurd outcomes (by decide)

end Performance.Rebalance

end Liquidity
