import Liquidity.Performance.Rebalance
import Liquidity.EventSourcing.Refolding

/-!
# What an event makes of the stages of a rebalance

An event ends the run of one stage, begins that of another, or ends all that are open.
It shows in the runs that it was folded, what comes later leaves it so, and where it
shows the event changes nothing when it is folded again.
-/

namespace Liquidity

open Performance.Rebalance

namespace Performance.Rebalance

/-! ## What an event does to the stages -/

/-- The stage whose run the event ends. -/
def ends : UsdcRebalanceEvent → Option StoredStageName
  | .conversionConfirmed .. | .conversionFailed .. => some .conversion
  | .withdrawalConfirmed .. | .withdrawalFailed .. => some .withdrawal
  | .bridgingInitiated .. => some .burn
  | .bridgeAttestationReceived .. => some .attestation
  | .bridged .. => some .mint
  | .depositConfirmed .. | .depositFailed .. => some .deposit
  | _ => none

/-- The stage that has a run after the event. -/
def begins : UsdcRebalanceEvent → Option StoredStageName
  | .conversionInitiated .. => some .conversion
  | .withdrawalSubmitting .. | .initiated .. => some .withdrawal
  | .bridgingSubmitting .. => some .burn
  | .bridgingInitiated .. => some .attestation
  | .bridgeAttestationReceived .. | .bridgingCompletionRecovered .. => some .mint
  | .depositInitiated .. => some .deposit
  | _ => none

/-- How the event ends every run that is open, if it does. -/
def sweeps : UsdcRebalanceEvent → Option StoredStageOutcome
  | .bridgingFailed .. => some .failed
  | .bridgingCompletionRecovered .. => some .succeeded
  | _ => none

variable {runs : Runs StoredStageName StoredStageOutcome} {event : UsdcRebalanceEvent}

section Shapes

variable (operation : StoredOperation)

theorem burned_eq (time : Time) :
    (if (operation.stages.openRunIndex .burn).isSome then operation.close .burn time .succeeded
      else operation.recordUnmeasured .burn time) =
      { operation with stages :=
          if (operation.stages.openRunIndex .burn).isSome then
            operation.stages.close .burn time .succeeded
          else operation.stages.pushOnce ⟨.burn, time, some time, none, .unmeasured⟩ } := by
  split <;> rfl

theorem seedStart_eq (first direction : RebalanceDirection) (time : Time) :
    operation.seedStart first direction time =
      { operation with
        startedAt := operation.startedAt.or (if direction = first then some time else none) } := by
  rw [StoredOperation.seedStart]
  split
  case isTrue => rfl
  case isFalse => rw [Option.or_none]

theorem complete_eq (last direction : RebalanceDirection) (time : Time) :
    operation.complete last direction time =
      { operation with
        status := if direction = last then .completed else operation.status
        completedAt := if direction = last then some time else operation.completedAt } := by
  rw [StoredOperation.complete]
  split <;> rfl

end Shapes

/-- Some operation with these stages. -/
def withStages (runs : Runs StoredStageName StoredStageOutcome) : StoredOperation :=
  { StoredOperation.new ⟨0⟩ 0 with stages := runs }

@[simp] theorem withStages_stages (runs : Runs StoredStageName StoredStageOutcome) :
    (withStages runs).stages = runs := rfl

theorem seeded_stages (operation : StoredOperation) (amount : Usdc)
    (first direction : RebalanceDirection) (time : Time) :
    ((operation.seed direction amount).seedStart first direction time).stages =
      operation.stages := by
  rw [StoredOperation.seedStart]
  split <;> rfl

theorem complete_stages (operation : StoredOperation) (last direction : RebalanceDirection)
    (time : Time) : (operation.complete last direction time).stages = operation.stages := by
  rw [StoredOperation.complete]
  split <;> rfl

section Grows

variable (operation : StoredOperation) (stage : StoredStageName) (time : Time)
variable (outcome : StoredStageOutcome)

variable {operation stage}

theorem openOnce_of_hasRun (has : operation.stages.hasRun stage) :
    operation.openOnce stage time = operation := by
  rw [StoredOperation.openOnce, Runs.pushOnce_of_hasRun has]

theorem recordUnmeasured_of_hasRun (has : operation.stages.hasRun stage) :
    operation.recordUnmeasured stage time = operation := by
  rw [StoredOperation.recordUnmeasured, Runs.pushOnce_of_hasRun has]

theorem close_of_closed (closed : operation.stages.hasOpen stage = false) :
    operation.close stage time outcome = operation := by
  rw [StoredOperation.close, Runs.close_of_closed closed]

theorem closeOpenStages_of_later
    (later : ∀ run ∈ operation.stages, run.isOpen → time < run.startedAt) :
    operation.closeOpenStages time outcome = operation := by
  rw [StoredOperation.closeOpenStages, Runs.closeOpenStages_of_later later]

end Grows

/-- The runs show that the event was folded: those it ends have ended, those it begins
are there, and where it ends all, only later ones are open. -/
structure Spent (runs : Runs StoredStageName StoredStageOutcome) (event : UsdcRebalanceEvent) :
    Prop where
  ended : ∀ stage, ends event = some stage → runs.hasRun stage ∧ runs.hasOpen stage = false
  begun : ∀ stage, begins event = some stage → runs.hasRun stage
  swept : (sweeps event).isSome → ∀ run ∈ runs, run.isOpen → observedAt event < run.startedAt

/-- What comes later leaves it so. -/
theorem Spent.grows {after : Runs StoredStageName StoredStageOutcome} {time : Time}
    (spent : Spent runs event) (grows : Runs.Grows time runs after)
    (later : observedAt event < time) : Spent after event where
  ended := by
    intro stage ending
    obtain ⟨has, closed⟩ := spent.ended stage ending
    exact ⟨grows.keeps stage has, grows.ended stage has closed⟩
  begun := fun stage beginning => grows.keeps stage (spent.begun stage beginning)
  swept := by
    intro sweeping run member isOpen
    rcases grows.opened run member isOpen with earlier | own
    · exact spent.swept sweeping run earlier isOpen
    · rw [own]
      exact later

/-- Folded again, it changes nothing. -/
theorem Spent.stages {operation : StoredOperation} (spent : Spent operation.stages event) :
    (operation.apply event).stages = operation.stages := by
  have ended := spent.ended
  have begun := spent.begun
  have swept := spent.swept
  cases event <;> simp only [ends, begins, Option.some.injEq, forall_eq'] at ended begun <;>
    simp only [StoredOperation.apply]
  case conversionInitiated | withdrawalSubmitting | initiated =>
    rw [openOnce_of_hasRun _ (by rwa [seeded_stages]), seeded_stages]
  case bridgingSubmitting | depositInitiated => rw [openOnce_of_hasRun _ begun]
  case bridgingInitiated =>
    rw [Runs.openRunIndex_isSome, ended.2, if_neg Bool.false_ne_true,
      recordUnmeasured_of_hasRun _ ended.1, openOnce_of_hasRun _ begun]
  case bridgeAttestationReceived => rw [close_of_closed _ _ ended.2, openOnce_of_hasRun _ begun]
  case bridgingFailed =>
    have later := swept rfl
    rw [observedAt] at later
    rw [closeOpenStages_of_later _ _ later]
  case bridgingCompletionRecovered =>
    have later := swept rfl
    rw [observedAt] at later
    rw [closeOpenStages_of_later _ _ later, recordUnmeasured_of_hasRun _ begun]
  case conversionConfirmed | depositConfirmed =>
    rw [complete_stages, close_of_closed _ _ ended.2]
  case operatorReconciled => rfl
  case conversionFailed | withdrawalConfirmed | withdrawalFailed | bridged | depositFailed =>
    rw [close_of_closed _ _ ended.2]

section Applied

variable {operation : StoredOperation} {stage : StoredStageName} {time : Time}

end Applied

end Performance.Rebalance

end Liquidity
