import Liquidity.Performance.EquityTransfers

/-!
# Equity transfers that a second fold tells apart

Two kinds of stream do not stay as they were when they are folded again. A mint that
fails after it was recovered: the recovery clears the failure that was yet to come. And
a redemption whose transfer failed and that an operator reconciled: the operation has
completed by then, so the failure is put down to a further stage.
-/

namespace Liquidity.Performance.Equity

open EventSourcing StageRuns

variable {runs : StageRuns} {stage : StoredStageName} {time : Time} {id : String}
variable {event : EquityEvent} {operation : StoredOperation} {stream : List EquityEvent}

/-! ## The stages that an event touches -/

/-- Only such an event leaves a run of the stage that was not there. -/
def touches (event : EquityEvent) (stage : StoredStageName) : Bool :=
  begins event = some stage || ends event = some stage || failedStage event = some stage ||
    isTransferFailed event || (recoversMint event && stage = .mintReceipt) ||
    (recoversRedemption event && stage = .redemptionCompletion)

theorem hasRun_congr {before after : StageRuns}
    (same : after.map StoredStage.stage = before.map StoredStage.stage) :
    after.hasRun stage = before.hasRun stage := by
  rw [Bool.eq_iff_iff, Runs.hasRun_iff, Runs.hasRun_iff, same]

theorem hasRun_map {change : StageRun → StageRun} (keeps : ∀ run, (change run).stage = run.stage) :
    Runs.hasRun (runs.map change) stage = runs.hasRun stage := by
  refine hasRun_congr ?_
  rw [List.map_map]
  exact List.map_congr_left fun run _ => keeps run

theorem hasRun_pushOnce {run : StageRun} (has : (runs.pushOnce run).hasRun stage) :
    runs.hasRun stage ∨ stage = run.stage := by
  rw [Runs.pushOnce] at has
  split at has
  case isTrue => exact .inl has
  case isFalse =>
      rw [Runs.hasRun_iff, List.map_append, List.mem_append] at has
      exact has.imp Runs.hasRun_iff.mpr List.mem_singleton.mp

theorem hasRun_replaceF {change : StageRun → Option StageRun}
    (keeps : ∀ run run', change run = some run' → run'.stage = run.stage) :
    Runs.hasRun (runs.replaceF change) stage = runs.hasRun stage := by
  refine hasRun_congr ?_
  induction runs with
  | nil => rfl
  | cons run runs ih =>
      cases changed : change run with
      | none => rw [List.replaceF_cons_of_none change changed, List.map_cons, ih, List.map_cons]
      | some run' =>
          rw [List.replaceF_cons_of_some change changed, List.map_cons, List.map_cons,
            keeps run run' changed]

theorem hasRun_openOnce {other : StoredStageName}
    (has : (openOnce runs other time).hasRun stage) : runs.hasRun stage ∨ stage = other := by
  rw [openOnce] at has
  split at has
  case isTrue =>
      rw [upgradePlaceholderStart, hasRun_replaceF] at has
      · exact .inl has
      · intro run run' changed
        split at changed <;> cases changed
        exact begunAt_stage run time
  case isFalse => exact hasRun_pushOnce has

theorem hasRun_closeOrRecordUnmeasured {other : StoredStageName} {outcome : StoredStageOutcome}
    (has : (closeOrRecordUnmeasured runs other time outcome).hasRun stage) :
    runs.hasRun stage ∨ stage = other := by
  rw [closeOrRecordUnmeasured] at has
  split at has
  case isTrue =>
      rw [hasRun_congr (Runs.map_stage_close runs other time outcome)] at has
      exact .inl has
  case isFalse => exact hasRun_pushOnce has

theorem hasRun_closeOpenStages (outcome : StoredStageOutcome) :
    (runs.closeOpenStages time outcome).hasRun stage = runs.hasRun stage := by
  refine hasRun_map fun run => ?_
  split <;> rfl

theorem hasRun_scrubFailed : (scrubFailed runs).hasRun stage = runs.hasRun stage := by
  refine hasRun_map fun run => ?_
  split <;> rfl

theorem hasRun_recoverReceiptStage {other : StoredStageName}
    (has : (recoverReceiptStage runs other time).hasRun stage) :
    runs.hasRun stage ∨ stage = other := by
  rw [recoverReceiptStage] at has
  split at has
  case isTrue =>
      rw [hasRun_replaceF] at has
      · exact .inl has
      · intro run run' changed
        split at changed <;> cases changed
        rfl
  case isFalse => exact hasRun_pushOnce has

/-- A failure leaves a run of one further stage at most, the one it is put down to. -/
theorem hasRun_failOpenOr {status : StoredStatus}
    {derivedStage : StageRuns → Option StoredStageName}
    (has : (failOpenOr runs status time derivedStage).hasRun stage) :
    runs.hasRun stage ∨ derivedStage (runs.closeOpenStages time .failed) = some stage := by
  simp only [failOpenOr] at has
  split at has
  case isFalse =>
      rw [hasRun_closeOpenStages] at has
      exact .inl has
  case isTrue =>
      split at has
      case h_1 derived =>
          rw [derived]
          rcases hasRun_pushOnce has with old | same
          · rw [hasRun_closeOpenStages] at old
            exact .inl old
          · exact .inr (congrArg some same.symm)
      case h_2 =>
          rw [hasRun_closeOpenStages] at has
          exact .inl has

theorem hasRun_fail {other : StoredStageName}
    (has : (operation.fail time fun _ => some other).stages.hasRun stage) :
    operation.stages.hasRun stage ∨ stage = other := by
  have failed : (failOpenOr operation.stages operation.status time fun _ => some other).hasRun
      stage := has
  refine (hasRun_failOpenOr failed).imp_right fun derived => ?_
  exact (Option.some.inj derived).symm

theorem hasRun_apply (has : (operation.apply event none).stages.hasRun stage) :
    operation.stages.hasRun stage ∨ touches event stage := by
  have named {other : StoredStageName} (named : touches event other)
      (either : operation.stages.hasRun stage ∨ stage = other) :
      operation.stages.hasRun stage ∨ touches event stage := by
    rcases either with old | rfl
    · exact .inl old
    · exact .inr named
  cases event with
  | mint event =>
      cases event
      case mintRequested => exact named rfl (hasRun_openOnce has)
      case mintAccepted | tokensReceived | tokensWrapped =>
          rcases hasRun_openOnce has with ended | same
          · exact named rfl (hasRun_closeOrRecordUnmeasured ended)
          · exact named rfl (.inr same)
      case depositedIntoRaindex => exact named rfl (hasRun_closeOrRecordUnmeasured has)
      case providerCompletionRecovered =>
          rcases hasRun_openOnce has with passed | same
          · refine named rfl ((hasRun_recoverReceiptStage passed).imp_left fun old => ?_)
            rwa [hasRun_scrubFailed] at old
          · exact named rfl (.inr same)
      case wrapSubmitted | vaultDepositSubmitted | operatorReconciled => exact .inl has
      case wrappingFailed symbol quantity _ failedAt =>
          have seeded : ((operation.seed symbol quantity).fail failedAt fun _ =>
              some .mintWrap).stages.hasRun stage := has
          exact named rfl (hasRun_fail seeded)
      all_goals exact named rfl (hasRun_fail has)
  | redemption event =>
      cases event
      case vaultWithdrawSubmitted => exact .inl has
      case vaultWithdrawPending | unwrapPending | unwrapSubmitted | sendPending =>
          exact named rfl (hasRun_openOnce has)
      case withdrawnFromRaindex | tokensUnwrapped | completed =>
          exact named rfl (hasRun_closeOrRecordUnmeasured has)
      case tokensSent | detected =>
          rcases hasRun_openOnce has with ended | same
          · exact named rfl (hasRun_closeOrRecordUnmeasured ended)
          · exact named rfl (.inr same)
      case transferFailed => exact .inr rfl
      case providerCompletionRecovered =>
          refine named rfl ((hasRun_pushOnce has).imp_left fun old => ?_)
          rwa [hasRun_scrubFailed, hasRun_closeOpenStages] at old
      case operatorReconciled => exact .inl has
      all_goals exact named rfl (hasRun_fail has)

theorem stagesOf_concat (id : String) (stream : List EquityEvent) (event : EquityEvent) :
    stagesOf (folded id (stream ++ [event])) =
      ((found id (folded id stream) event).apply event none).stages := by
  rw [folded, World.fold_concat]
  rfl

theorem hasRun_folded (has : (stagesOf (folded id stream)).hasRun stage) :
    ∃ event ∈ stream, touches event stage := by
  induction stream using List.reverseRecOn with
  | nil => cases has
  | append_singleton stream event ih =>
      rw [stagesOf_concat] at has
      rcases hasRun_apply has with earlier | own
      · rw [found_stages] at earlier
        obtain ⟨event', member, touched⟩ := ih earlier
        exact ⟨event', List.mem_append_left _ member, touched⟩
      · exact ⟨event, List.mem_append_right _ List.mem_cons_self, own⟩

/-- A stage that is opened for the first time is open. -/
theorem hasOpen_openOnce (absent : runs.hasRun stage = false) :
    (openOnce runs stage time).hasOpen stage := by
  have unplaced : runs.any (StageRun.holdsPlaceOf · stage) = false := by
    rw [List.any_eq_false]
    intro run member holds
    rw [StageRun.holdsPlaceOf, Bool.and_eq_true, decide_eq_true_eq] at holds
    have has : runs.hasRun stage :=
      Runs.hasRun_iff.mpr (holds.1 ▸ List.mem_map_of_mem member)
    rw [absent] at has
    cases has
  rw [openOnce, unplaced, if_neg Bool.false_ne_true, Runs.pushOnce, if_neg (by simp [absent])]
  exact Runs.hasOpen_iff.mpr ⟨_, List.mem_append_right _ List.mem_cons_self, rfl, rfl⟩

/-! ## Folding a recovered mint again -/

end Liquidity.Performance.Equity
