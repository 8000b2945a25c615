import Liquidity.EquityRedemption.Moves
import Liquidity.Performance.EquityFailures

/-!
# Equity transfers that do not converge

While a mint waits for its tokens no stage after the receipt has a run, and from then on
the stage it is in is open. So a failure after a recovery fails an open stage, and a
second fold, in which the recovery comes after that failure, clears it. A redemption
whose transfer fails has no run for what comes after the send. So a second fold, which
finds the operation completed, puts the failure down to one stage more.
-/

namespace Liquidity

open EventSourcing Performance Performance.Equity StageRuns

namespace Performance.Equity

variable {runs : StageRuns} {stage : StoredStageName} {time : Time} {id : String}
variable {event : EquityEvent} {operation : StoredOperation} {stream : List EquityEvent}
variable {ready : List StoredStageName}

/-- A stage without a run that an event begins is open. -/
theorem hasOpen_apply (beginning : begins event = some stage)
    (absent : operation.stages.hasRun stage = false) :
    (operation.apply event none).stages.hasOpen stage := by
  have closed {other : StoredStageName} {time : Time} (apart : stage ≠ other) :
      (closeOrRecordUnmeasured operation.stages other time .succeeded).hasRun stage = false := by
    rw [Bool.eq_false_iff]
    intro has
    rcases hasRun_closeOrRecordUnmeasured has with old | same
    · rw [absent] at old
      cases old
    · exact apart same
  cases event with
  | mint event =>
      cases event <;> cases beginning
      case mintRequested.refl => exact hasOpen_openOnce absent
      case providerCompletionRecovered.refl =>
          refine hasOpen_openOnce (Bool.eq_false_iff.mpr fun has => ?_)
          rcases hasRun_recoverReceiptStage has with old | same
          · rw [hasRun_scrubFailed, absent] at old
            cases old
          · cases same
      all_goals exact hasOpen_openOnce (closed (by decide))
  | redemption event =>
      cases event <;> cases beginning
      case tokensSent.refl | detected.refl => exact hasOpen_openOnce (closed (by decide))
      all_goals exact hasOpen_openOnce absent

theorem hasOpen_concat (beginning : begins event = some stage)
    (absent : (stagesOf (folded id stream)).hasRun stage = false) :
    (stagesOf (folded id (stream ++ [event]))).hasOpen stage := by
  rw [stagesOf_concat]
  refine hasOpen_apply beginning ?_
  rw [found_stages]
  exact absent

theorem absent_concat (absent : (stagesOf (folded id stream)).hasRun stage = false)
    (untouched : touches event stage = false) :
    (stagesOf (folded id (stream ++ [event]))).hasRun stage = false := by
  rw [stagesOf_concat, Bool.eq_false_iff]
  intro has
  rcases hasRun_apply has with old | touched
  · rw [found_stages, absent] at old
    cases old
  · rw [untouched] at touched
    cases touched

theorem absent_folded (untouched : ∀ event ∈ stream, touches event stage = false) :
    (stagesOf (folded id stream)).hasRun stage = false := by
  rw [Bool.eq_false_iff]
  intro has
  obtain ⟨event, member, touched⟩ := hasRun_folded has
  rw [untouched event member] at touched
  cases touched

theorem stagesOf_concat_kept (keeps : ∀ operation : StoredOperation,
    (operation.apply event none).stages = operation.stages) :
    stagesOf (folded id (stream ++ [event])) = stagesOf (folded id stream) := by
  rw [stagesOf_concat, keeps, found_stages]

end Performance.Equity

/-! ## Mints -/

namespace TokenizedEquityMint

variable {time : Time} {stream : List TokenizedEquityMintEvent} {id : String}
variable {entity next : TokenizedEquityMint} {event : TokenizedEquityMintEvent}
variable {convert : ℚ → Except String Nat} {runs : StageRuns}

/-- No stage after the receipt has a run. -/
structure Early (runs : StageRuns) : Prop where
  unwrapped : runs.hasRun .mintWrap = false
  undeposited : runs.hasRun .mintDeposit = false

/-- What the runs of a mint show, by how far it has come. -/
def Phase (received : Bool) (runs : StageRuns) : TokenizedEquityMint → Prop
  | .mintRequested _ | .mintAccepted _ => received = false ∧ Early runs
  | .tokensReceived _ | .wrapSubmitted .. =>
      received ∧ runs.hasOpen .mintWrap ∧ runs.hasRun .mintDeposit = false
  | .tokensWrapped .. | .vaultDepositSubmitted .. => received ∧ runs.hasOpen .mintDeposit
  | .failed .. => received = false → Early runs
  | _ => True

/-- The runs that the events of a mint leave. -/
abbrev runsOf (id : String) (stream : List TokenizedEquityMintEvent) : StageRuns :=
  stagesOf (folded id (stream.map .mint))

theorem runsOf_concat (id : String) (stream : List TokenizedEquityMintEvent)
    (event : TokenizedEquityMintEvent) :
    runsOf id (stream ++ [event]) = stagesOf (folded id (stream.map .mint ++ [.mint event])) := by
  rw [runsOf, List.map_append]
  rfl

theorem runsOf_kept (keeps : ∀ operation : StoredOperation,
    (operation.apply (.mint event) none).stages = operation.stages) :
    runsOf id (stream ++ [event]) = runsOf id stream := by
  rw [runsOf_concat]
  exact stagesOf_concat_kept keeps

theorem Early.concat (early : Early (runsOf id stream))
    (unwrapped : touches (.mint event) .mintWrap = false)
    (undeposited : touches (.mint event) .mintDeposit = false) :
    Early (runsOf id (stream ++ [event])) := by
  rw [runsOf_concat]
  exact ⟨absent_concat early.unwrapped unwrapped, absent_concat early.undeposited undeposited⟩

theorem Moves.phase (moves : Moves convert entity event next)
    (phase : Phase (receivedTokens stream) (runsOf id stream) entity)
    (guarded : recoversMint (.mint event) → receivedTokens stream = false) :
    Phase (receivedTokens (stream ++ [event])) (runsOf id (stream ++ [event])) next := by
  rw [receivedTokens_concat]
  cases moves with
  | rejected => exact fun _ => phase.2.concat rfl rfl
  | accepted => exact ⟨by rw [phase.1]; rfl, phase.2.concat rfl rfl⟩
  | acceptanceFailed fails =>
      cases entity <;> cases fails <;> exact fun _ => phase.2.concat rfl rfl
  | received =>
      refine ⟨Bool.or_true _, ?_, ?_⟩
      · rw [runsOf_concat]
        exact hasOpen_concat rfl phase.2.unwrapped
      · rw [runsOf_concat]
        exact absent_concat phase.2.undeposited rfl
  | @wrapSubmitted mint wrapTxHash now =>
      have kept : runsOf id (stream ++ [.wrapSubmitted wrapTxHash now]) = runsOf id stream :=
        runsOf_kept fun _ => rfl
      rw [kept]
      exact ⟨by rw [phase.1]; rfl, phase.2⟩
  | wrapped wraps =>
      rw [runsOf_concat]
      cases entity <;> cases wraps <;>
        exact ⟨by rw [phase.1]; rfl, hasOpen_concat rfl phase.2.2⟩
  | @depositSubmitted mint wrapBlock vaultDepositTxHash now =>
      have kept : runsOf id (stream ++ [.vaultDepositSubmitted vaultDepositTxHash now]) =
          runsOf id stream := runsOf_kept fun _ => rfl
      rw [kept]
      exact ⟨by rw [phase.1]; rfl, phase.2⟩
  | wrappingFailed fails =>
      cases entity <;> cases fails <;> intro none <;> rw [phase.1] at none <;> cases none
  | depositFailed fails =>
      cases entity <;> cases fails <;> intro none <;> rw [phase.1] at none <;> cases none
  | deposited deposits => cases entity <;> cases deposits <;> trivial
  | recovered =>
      have early := phase (guarded rfl)
      refine ⟨Bool.or_true _, ?_, ?_⟩
      · rw [runsOf_concat]
        exact hasOpen_concat rfl early.unwrapped
      · rw [runsOf_concat]
        exact absent_concat early.undeposited rfl
  | reconciled => trivial

theorem Path.phase (path : Path time stream entity) (id : String) :
    Phase (receivedTokens stream) (runsOf id stream) entity := by
  induction path with
  | @begun convert request event next moves =>
      have requested : Phase (receivedTokens [.mintRequested request.symbol request.quantity
          request.wallet request.requestedAt]) (runsOf id [.mintRequested request.symbol
            request.quantity request.wallet request.requestedAt]) (.mintRequested request) :=
        ⟨rfl, rfl, rfl⟩
      exact moves.phase requested fun _ => rfl
  | next path later moves guarded ih => exact moves.phase ih fun recovers => (guarded recovers).1

/-- From where a mint has ended only a recovery or an operator goes on. -/
theorem Moves.of_ended (moves : Moves convert entity event next)
    (ended : entity.isFailed ∨ entity.isSettled) :
    recoversMint (.mint event) ∨
      next.isSettled ∧ ∃ reason reconciledAt, event = .operatorReconciled reason reconciledAt := by
  cases moves with
  | recovered => exact .inl rfl
  | reconciled => exact .inr ⟨rfl, _, _, rfl⟩
  | acceptanceFailed move | wrapped move | wrappingFailed move | deposited move
  | depositFailed move =>
      cases entity <;> cases move <;> rcases ended with ended | ended <;> cases ended
  | _ => rcases ended with ended | ended <;> cases ended

end TokenizedEquityMint

/-! ## Redemptions -/

namespace Performance.Equity

end Performance.Equity

namespace EquityRedemption

variable {time now : Time} {stream : List EquityRedemptionEvent} {id : String}
variable {entity next : EquityRedemption} {event : EquityRedemptionEvent}

/-- Nothing has been said of how the redemption ends. -/
def Quiet (stream : List EquityRedemptionEvent) : Prop :=
  ∀ event ∈ stream, recovers (.redemption event) = false ∧ setsStatus (.redemption event) = none

/-- A redemption goes on from a state it goes on in. -/
theorem Adds.ongoing (adds : Adds now entity event next) (ongoing : next.isTerminal = false) :
    entity.isTerminal = false ∧ recovers (.redemption event) = false ∧
      setsStatus (.redemption event) = none := by
  have evolves := adds.evolves
  cases event
  case providerCompletionRecovered =>
      obtain ⟨-, _, _, _, _, rfl⟩ := completed_of_recovered evolves
      cases ongoing
  all_goals cases entity <;> cases evolves <;> first | exact ⟨rfl, rfl, rfl⟩ | cases ongoing

theorem Path.quiet (path : Path time stream entity) (ongoing : entity.isTerminal = false) :
    Quiet stream := by
  induction path with
  | begun =>
      intro event member
      rw [List.mem_singleton.mp member]
      exact ⟨rfl, rfl⟩
  | next path later adds ih =>
      obtain ⟨earlier, silent⟩ := adds.ongoing ongoing
      exact List.forall_mem_append.mpr ⟨ih earlier, List.forall_mem_singleton.mpr silent⟩

theorem Adds.beforeSend (adds : Adds now entity event next) (before : next.isBeforeSend) :
    entity.isBeforeSend ∧ touches (.redemption event) .redemptionDetection = false ∧
      touches (.redemption event) .redemptionCompletion = false := by
  have evolves := adds.evolves
  cases event
  case providerCompletionRecovered =>
      obtain ⟨-, _, _, _, _, rfl⟩ := completed_of_recovered evolves
      cases before
  all_goals cases entity <;> cases evolves <;> first | exact ⟨rfl, rfl, rfl⟩ | cases before

theorem Path.beforeSend (path : Path time stream entity) (before : entity.isBeforeSend) :
    ∀ event ∈ stream.map EquityEvent.redemption,
      touches event .redemptionDetection = false ∧ touches event .redemptionCompletion = false := by
  induction path with
  | begun =>
      intro event member
      rw [List.mem_singleton.mp member]
      exact ⟨rfl, rfl⟩
  | next path later adds ih =>
      obtain ⟨earlier, untouched⟩ := adds.beforeSend before
      rw [List.map_append]
      exact List.forall_mem_append.mpr ⟨ih earlier, List.forall_mem_singleton.mpr untouched⟩

theorem Path.absent (path : Path time stream entity) (before : entity.isBeforeSend) (id : String) :
    (stagesOf (folded id (stream.map .redemption))).hasRun .redemptionDetection = false ∧
      (stagesOf (folded id (stream.map .redemption))).hasRun .redemptionCompletion = false := by
  have untouched := path.beforeSend before
  constructor
  · exact absent_folded fun event member => (untouched event member).1
  · exact absent_folded fun event member => (untouched event member).2

theorem Path.head (path : Path time stream entity) :
    ∃ symbol quantity token wrappedAmount pendingAt rest, stream =
      .vaultWithdrawPending symbol quantity token wrappedAmount pendingAt :: rest := by
  induction path with
  | begun => exact ⟨_, _, _, _, _, [], rfl⟩
  | next path later adds ih =>
      obtain ⟨_, _, _, _, _, rest, rfl⟩ := ih
      exact ⟨_, _, _, _, _, rest ++ [_], rfl⟩

/-- The last event was the first, or was added to a path. -/
theorem Path.concat_inv (path : Path time (stream ++ [event]) next) :
    (stream = [] ∧ isTransferFailed (.redemption event) = false ∧ next.isTerminal = false) ∨
      ∃ earlier entity, earlier < time ∧ Path earlier stream entity ∧
        Adds time entity event next := by
  generalize whole : stream ++ [event] = full at path
  cases path with
  | begun =>
      obtain ⟨rfl, same⟩ := List.append_inj' (whole.trans (List.nil_append _).symm) rfl
      cases same
      exact .inl ⟨rfl, rfl, rfl⟩
  | next path later adds =>
      obtain ⟨rfl, same⟩ := List.append_inj' whole rfl
      cases same
      exact .inr ⟨_, _, later, path, adds⟩

/-- Failures and recoveries come at the end of a redemption. -/
def Closes (stream : List EquityRedemptionEvent) : EquityRedemption → Prop
  | .failed _ _ _ redemptionTx _ _ _ _ =>
      ∃ before failure, stream = before ++ [failure] ∧ Quiet before ∧ fails (.redemption failure) ∧
        (isTransferFailed (.redemption failure) → redemptionTx = none)
  | .completed .. =>
      ∃ before last, stream = before ++ [last] ∧
        isTransferFailed (.redemption last) = false ∧
        ∀ event ∈ before, recovers (.redemption event) = false ∧
          isTransferFailed (.redemption event) = false
  | .reconciled .. =>
      ∃ before failure reason reconciledAt,
        stream = before ++ [failure, .operatorReconciled reason reconciledAt] ∧ Quiet before ∧
          fails (.redemption failure)
  | _ => Quiet stream

theorem transfer_of_silent (silent : setsStatus (.redemption event) = none) :
    isTransferFailed (.redemption event) = false := by
  cases event <;> first | rfl | cases silent

theorem recovers_of_fails (failing : fails (.redemption event)) :
    recovers (.redemption event) = false := by
  cases event <;> first | rfl | cases failing

theorem Path.closes (path : Path time stream entity) : Closes stream entity := by
  induction path with
  | begun =>
      intro event member
      rw [List.mem_singleton.mp member]
      exact ⟨rfl, rfl⟩
  | @next time now stream entity next event path later adds ih =>
      have evolves := adds.evolves
      cases terminal : next.isTerminal with
      | false =>
          have quiet : Quiet (stream ++ [event]) := (path.next later adds).quiet terminal
          cases next <;> first | exact quiet | cases terminal
      | true =>
          cases event
          case providerCompletionRecovered =>
              obtain ⟨⟨_, _, _, _, _, _, _, _, rfl⟩, _, _, _, _, rfl⟩ :=
                completed_of_recovered evolves
              obtain ⟨before, failure, rfl, quiet, failing, bare⟩ := ih
              refine ⟨before ++ [failure], _, rfl, rfl, ?_⟩
              intro event member
              rcases List.mem_append.mp member with old | last
              · exact ⟨(quiet event old).1, transfer_of_silent (quiet event old).2⟩
              · rw [List.mem_singleton.mp last]
                refine ⟨recovers_of_fails failing, Bool.eq_false_iff.mpr fun transfer => ?_⟩
                cases bare transfer
          case operatorReconciled reason reconciledAt =>
              cases entity <;> cases evolves
              obtain ⟨before, failure, rfl, quiet, failing, -⟩ := ih
              exact ⟨before, failure, reason, reconciledAt, by simp, quiet, failing⟩
          case completed =>
              cases entity <;> cases evolves
              exact ⟨stream, _, rfl, rfl, fun event member =>
                ⟨(ih event member).1, transfer_of_silent (ih event member).2⟩⟩
          case transferFailed =>
              have bare := adds.bare _ _ _ rfl
              cases entity <;> cases evolves <;> exact ⟨stream, _, rfl, ih, rfl, fun _ => bare⟩
          case detectionFailed =>
              cases entity <;> cases evolves
              exact ⟨stream, _, rfl, ih, rfl, fun transfer => by cases transfer⟩
          case redemptionRejected =>
              cases entity <;> cases evolves
              exact ⟨stream, _, rfl, ih, rfl, fun transfer => by cases transfer⟩
          all_goals cases entity <;> cases evolves <;> cases terminal

end EquityRedemption

end Liquidity
