import Liquidity.Performance.EquitySpent
import Liquidity.Performance.Lived

/-!
# Streams of equity transfers that settle

Along a stream the stages of a transfer come in order, a failure is put down to a stage
that has begun, and a recovery follows the failure that it clears. Where no failure
follows a recovery, and a transfer that has failed is left at that, every event that was
folded stays spent, and nothing changes when a part of the stream is folded again.
-/

namespace Liquidity.Performance.Equity

open EventSourcing StageRuns

/-! ## Courses -/

/-- A stream of a transfer, with its time and the stages that a failure may be put down
to. -/
inductive Course : Time → List EquityEvent → List StoredStageName → Prop where
  | empty (time : Time) : Course time [] []
  | append {time : Time} {stream : List EquityEvent} {ready ready' : List StoredStageName}
      {event : EquityEvent} (course : Course time stream ready) (rises : time ≤ event.observedAt)
      (apart : ∀ earlier ∈ stream, sweeps earlier → earlier.observedAt < event.observedAt)
      (known : ∀ stage, failedStage event = some stage → stage ∈ ready)
      (carried : ∀ stage ∈ ready', begins event = some stage ∨ stage ∈ ready)
      (received : recoversMint event → (∃ earlier ∈ stream, begins earlier = some .mintReceipt) ∧
        ∃ before last, stream = before ++ [last] ∧ fails last) :
      Course event.observedAt (stream ++ [event]) ready'

variable {time : Time} {stream : List EquityEvent} {ready : List StoredStageName}
variable {event : EquityEvent} {id : String}

theorem Course.of_prefix {part : List EquityEvent} (course : Course time stream ready)
    (inside : part <+: stream) : ∃ time ready, Course time part ready := by
  induction course with
  | empty time =>
      obtain rfl := List.prefix_nil.mp inside
      exact ⟨time, [], .empty time⟩
  | append course rises apart known carried received ih =>
      rcases List.prefix_concat_iff.mp inside with rfl | shorter
      · exact ⟨_, _, .append course rises apart known carried received⟩
      · exact ih shorter

/-- The operation that one pass over a stream makes of it. -/
abbrev folded (id : String) (stream : List EquityEvent) : Option StoredOperation :=
  timingProjection.fold id stream

/-- The operation that an event is applied to. -/
def found (id : String) (stored : Option StoredOperation) (event : EquityEvent) : StoredOperation :=
  stored.getD (.new id event.kind event.observedAt)

/-- The stages of an operation, none if there is none. -/
def stagesOf (stored : Option StoredOperation) : StageRuns :=
  (stored.map StoredOperation.stages).getD []

@[simp] theorem found_stages (id : String) (stored : Option StoredOperation) (event : EquityEvent) :
    (found id stored event).stages = stagesOf stored := by
  cases stored <;> rfl

/-- Along a course every event that was folded is marked. -/
structure Keeps (time : Time) (stream : List EquityEvent) (ready : List StoredStageName)
    (runs : StageRuns) : Prop where
  sound : Sound runs
  bounded : ∀ run ∈ runs, run.startedAt ≤ time
  ready : ∀ stage ∈ ready, runs.hasRun stage
  marked : ∀ event ∈ stream, Marked runs event

/-- The completion an event sets. -/
def setsCompletion : EquityEvent → Option (Option Time)
  | .mint (.depositedIntoRaindex _ depositedAt) => some (some depositedAt)
  | .mint (.operatorReconciled _ reconciledAt) => some (some reconciledAt)
  | .redemption (.completed completedAt) => some (some completedAt)
  | .redemption (.providerCompletionRecovered _ recoveredAt) => some (some recoveredAt)
  | .redemption (.operatorReconciled _ reconciledAt) => some (some reconciledAt)
  | _ => none

/-- The status an event sets. -/
def setsStatus (event : EquityEvent) : Option StoredStatus :=
  if fails event then some .failed
  else if recoversMint event then some .inProgress
  else if (setsCompletion event).isSome then some .completed
  else none

section Fields

variable (operation : StoredOperation) (event : EquityEvent)

theorem apply_operationId (sequence : Option Nat) :
    (operation.apply event sequence).operationId = operation.operationId := by
  cases event with
  | mint event => cases event <;> rfl
  | redemption event =>
      cases event <;> simp only [StoredOperation.apply, StoredOperation.applyRedemption]
      case vaultWithdrawSubmitted => split <;> rfl
      case withdrawnFromRaindex => split <;> rfl
      all_goals rfl

end Fields

theorem lawful : timingProjection.Lawful where
  new := fun _ _ => rfl
  apply := apply_operationId

/-! ## Settled streams -/

section Views

end Views

end Liquidity.Performance.Equity
