import Liquidity.Performance.EquityStages

/-!
# Events of equity transfers that were folded before

An event ends the run of one stage, begins that of another, fails what is open or
clears what had failed. That it did shows in the runs, and where it shows the event
changes no run when it is folded again. Only a failed transfer asks for more: it puts
down a failure to the next stage unless the operation has failed already.
-/

namespace Liquidity.Performance.Equity

open StageRuns

/-! ## What an event does to the stages -/

/-- The stage whose run the event ends. -/
def ends : EquityEvent → Option StoredStageName
  | .mint (.mintAccepted ..) => some .mintAcceptance
  | .mint (.tokensReceived ..) => some .mintReceipt
  | .mint (.tokensWrapped ..) => some .mintWrap
  | .mint (.depositedIntoRaindex ..) => some .mintDeposit
  | .redemption (.withdrawnFromRaindex ..) => some .redemptionWithdraw
  | .redemption (.tokensUnwrapped ..) => some .redemptionUnwrap
  | .redemption (.tokensSent ..) => some .redemptionSend
  | .redemption (.detected ..) => some .redemptionDetection
  | .redemption (.completed ..) => some .redemptionCompletion
  | _ => none

/-- The stage that the event begins. -/
def begins : EquityEvent → Option StoredStageName
  | .mint (.mintRequested ..) => some .mintAcceptance
  | .mint (.mintAccepted ..) => some .mintReceipt
  | .mint (.tokensReceived ..) | .mint (.providerCompletionRecovered ..) => some .mintWrap
  | .mint (.tokensWrapped ..) => some .mintDeposit
  | .redemption (.vaultWithdrawPending ..) => some .redemptionWithdraw
  | .redemption (.unwrapPending ..) | .redemption (.unwrapSubmitted ..) => some .redemptionUnwrap
  | .redemption (.sendPending ..) => some .redemptionSend
  | .redemption (.tokensSent ..) => some .redemptionDetection
  | .redemption (.detected ..) => some .redemptionCompletion
  | _ => none

def fails : EquityEvent → Bool
  | .mint (.mintRejected ..) | .mint (.mintAcceptanceFailed ..) | .mint (.wrappingFailed ..)
  | .mint (.raindexDepositFailed ..) | .redemption (.transferFailed ..)
  | .redemption (.detectionFailed ..) | .redemption (.redemptionRejected ..) => true
  | _ => false

/-- The stage that a failure is put down to if none is open. -/
def failedStage : EquityEvent → Option StoredStageName
  | .mint (.mintRejected ..) | .mint (.mintAcceptanceFailed ..) => some .mintAcceptance
  | .mint (.wrappingFailed ..) => some .mintWrap
  | .mint (.raindexDepositFailed ..) => some .mintDeposit
  | .redemption (.detectionFailed ..) => some .redemptionDetection
  | .redemption (.redemptionRejected ..) => some .redemptionCompletion
  | _ => none

def isTransferFailed : EquityEvent → Bool
  | .redemption (.transferFailed ..) => true
  | _ => false

def recoversMint : EquityEvent → Bool
  | .mint (.providerCompletionRecovered ..) => true
  | _ => false

def recoversRedemption : EquityEvent → Bool
  | .redemption (.providerCompletionRecovered ..) => true
  | _ => false

/-- The event clears what had failed. -/
def recovers (event : EquityEvent) : Bool := recoversMint event || recoversRedemption event

/-- The event ends every run that is open. -/
def sweeps (event : EquityEvent) : Bool := fails event || recoversRedemption event

variable {event : EquityEvent} {operation : StoredOperation} {runs : StageRuns}
variable {stage : StoredStageName} {time : Time} {sequence : Option Nat}

/-- No stage has failed. -/
def Calm (runs : StageRuns) : Prop := ∀ run ∈ runs, run.outcome ≠ .failed

/-- The runs show that the event was folded. -/
structure Marked (runs : StageRuns) (event : EquityEvent) : Prop where
  ended : ∀ stage, ends event = some stage → Ended runs stage
  begun : ∀ stage, begins event = some stage → Begun runs stage
  failed : ∀ stage, failedStage event = some stage → runs.hasRun stage
  swept : sweeps event → Later runs event.observedAt
  received : recoversMint event → Passed runs .mintReceipt
  completed : recoversRedemption event → runs.hasRun .redemptionCompletion

/-- The runs show it, and what it cleared is still clear. -/
structure Spent (runs : StageRuns) (event : EquityEvent) : Prop extends Marked runs event where
  cleared : recovers event → Calm runs

/-- What comes later leaves the marks. -/
theorem Marked.evolves {after : StageRuns} {failing : Bool} (marked : Marked runs event)
    (evolves : Evolves time failing runs after) (later : sweeps event → event.observedAt < time) :
    Marked after event where
  ended := fun stage ending => evolves.ended (marked.ended stage ending)
  begun := fun stage beginning => evolves.begun (marked.begun stage beginning)
  failed := fun stage derived => evolves.hasRun (marked.failed stage derived)
  swept := fun sweeping => evolves.later (marked.swept sweeping) (later sweeping)
  received := fun recovers => evolves.passed (marked.received recovers)
  completed := fun recovers => evolves.hasRun (marked.completed recovers)

/-! ## Folding a spent event -/

theorem any_placeholder_of_begun (begun : Begun runs stage) :
    runs.any (StageRun.holdsPlaceOf · stage) = false := by
  rw [List.any_eq_false]
  intro run member holds
  rw [StageRun.holdsPlaceOf, Bool.and_eq_true, decide_eq_true_eq, decide_eq_true_eq] at holds
  exact begun.2 run member holds.1 holds.2

theorem openOnce_of_begun (begun : Begun runs stage) : openOnce runs stage time = runs := by
  rw [openOnce, any_placeholder_of_begun begun, if_neg Bool.false_ne_true]
  exact Runs.pushOnce_of_hasRun begun.1

theorem hasOpen_of_ended (ended : Ended runs stage) : runs.hasOpen stage = false := by
  rw [Runs.hasOpen, List.any_eq_false]
  intro run member both
  rw [Bool.and_eq_true, decide_eq_true_eq] at both
  exact absurd ((ended.2 run member both.1).symm.trans both.2) (by decide)

theorem closeOrRecordUnmeasured_of_ended {outcome : StoredStageOutcome} (ended : Ended runs stage) :
    closeOrRecordUnmeasured runs stage time outcome = runs := by
  rw [closeOrRecordUnmeasured, Runs.openRunIndex_isSome, hasOpen_of_ended ended,
    if_neg Bool.false_ne_true]
  exact Runs.pushOnce_of_hasRun ended.1

/-- A failure changes nothing where it can be put down to nothing new. -/
theorem failOpenOr_of_later {status : StoredStatus}
    {derivedStage : StageRuns → Option StoredStageName} (later : Later runs time)
    (known : status = .failed ∨ ∃ stage, derivedStage runs = some stage ∧ runs.hasRun stage) :
    failOpenOr runs status time derivedStage = runs := by
  have closed : runs.closeOpenStages time .failed = runs := Runs.closeOpenStages_of_later later
  simp only [failOpenOr, closed]
  rcases known with failed | ⟨stage, derived, has⟩
  · rw [failed]
    simp
  · simp only [derived]
    split
    case isTrue => exact Runs.pushOnce_of_hasRun has
    case isFalse => rfl

theorem scrubFailed_of_calm (calm : Calm runs) : scrubFailed runs = runs := by
  refine (List.map_congr_left fun run member => ?_).trans (List.map_id runs)
  rw [if_neg (calm run member)]
  rfl

theorem replaceF_of_same {Item : Type} {change : Item → Option Item} {items : List Item}
    (same : ∀ item ∈ items, ∀ item', change item = some item' → item' = item) :
    items.replaceF change = items := by
  induction items with
  | nil => rfl
  | cons item items ih =>
      obtain ⟨first, rest⟩ := List.forall_mem_cons.mp same
      cases changed : change item with
      | none => rw [List.replaceF_cons_of_none change changed, ih rest]
      | some item' => rw [List.replaceF_cons_of_some change changed, first item' changed]

theorem recoverReceiptStage_of_passed (passed : Passed runs stage) :
    recoverReceiptStage runs stage time = runs := by
  rw [recoverReceiptStage, if_pos passed.1]
  refine replaceF_of_same ?_
  intro run member run' changed
  split at changed <;> cases changed
  rename_i own
  obtain ⟨_, outcome, duration⟩ := passed.2 run member own
  cases run
  cases outcome
  cases duration
  rfl

/-- Folded again, a spent event changes no run. -/
theorem Spent.stages (spent : Spent operation.stages event)
    (known : isTransferFailed event → operation.status = .failed) :
    (operation.apply event none).stages = operation.stages := by
  have ended := spent.ended
  have begun := spent.begun
  have failed := spent.failed
  have swept := spent.swept
  have cleared := spent.cleared
  cases event with
  | mint event =>
      cases event <;> simp only [ends, begins, failedStage, Option.some.injEq,
        forall_eq'] at ended begun failed <;>
        simp only [StoredOperation.apply, StoredOperation.applyMint, StoredOperation.fail,
          StoredOperation.complete, StoredOperation.reconcile]
      case mintRequested => exact openOnce_of_begun begun
      case mintAccepted | tokensReceived | tokensWrapped =>
        rw [closeOrRecordUnmeasured_of_ended ended, openOnce_of_begun begun]
      case depositedIntoRaindex => exact closeOrRecordUnmeasured_of_ended ended
      case providerCompletionRecovered =>
        rw [scrubFailed_of_calm (cleared rfl), recoverReceiptStage_of_passed (spent.received rfl),
          openOnce_of_begun begun]
      all_goals exact failOpenOr_of_later (swept rfl) (.inr ⟨_, rfl, failed⟩)
  | redemption event =>
      cases event <;> simp only [ends, begins, failedStage, Option.some.injEq,
        forall_eq'] at ended begun failed <;>
        simp only [StoredOperation.apply, StoredOperation.applyRedemption, StoredOperation.fail,
          StoredOperation.complete, StoredOperation.reconcile]
      case vaultWithdrawPending | unwrapPending | unwrapSubmitted | sendPending =>
        exact openOnce_of_begun begun
      case vaultWithdrawSubmitted =>
        rw [if_neg (by decide)]
        rfl
      case withdrawnFromRaindex | tokensUnwrapped | completed =>
        exact closeOrRecordUnmeasured_of_ended ended
      case tokensSent | detected =>
        rw [closeOrRecordUnmeasured_of_ended ended, openOnce_of_begun begun]
      case transferFailed => exact failOpenOr_of_later (swept rfl) (.inl (known rfl))
      case providerCompletionRecovered =>
        have later := swept rfl
        rw [EquityEvent.observedAt, redemptionObservedAt] at later
        rw [Runs.closeOpenStages_of_later later, scrubFailed_of_calm (cleared rfl)]
        exact Runs.pushOnce_of_hasRun (spent.completed rfl)
      all_goals exact failOpenOr_of_later (swept rfl) (.inr ⟨_, rfl, failed⟩)

/-! ## An event that is folded is spent -/

theorem Each.imp {holds holds' : StageRun → Prop} (each : Each runs stage holds)
    (implies : ∀ run, holds run → holds' run) : Each runs stage holds' :=
  ⟨each.1, fun run member own => implies run (each.2 run member own)⟩

theorem Ended.openOnce {other : StoredStageName} (ended : Ended runs stage) :
    Ended (openOnce runs other time) stage := by
  have evolves : Evolves time false runs (StageRuns.openOnce runs other time) :=
    evolves_openOnce runs other
  exact evolves.ended ended

end Liquidity.Performance.Equity
