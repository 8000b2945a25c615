import Liquidity.EquityRecovery.Delivery

/-!
# One more attempt

What an attempt does to a recovery that an earlier one left underway, and when
the wrapped job never leaves one.
-/

namespace Liquidity.EquityRecovery

open EventSourcing Process

/-! ## The unwrapped job goes on -/

namespace UnwrappedEquityRecovery

/-- The commands each state takes. -/
def Fits : UnwrappedEquityRecovery → UnwrappedEquityRecoveryCommand → Prop
  | .detected .., .dispatchToMint _ => True
  | .detected .., .dispatchToRedemption _ => True
  | .detected .., .submitOrphanWrap => True
  | .detected .., .failRecovery _ => True
  | .orphanWrapSubmitted .., .confirmOrphanWrap => True
  | .orphanWrapped .., .submitOrphanDeposit => True
  | .orphanDepositSubmitted .., .confirmOrphanDeposit => True
  | _, _ => False

/-- The commands that may leave the recovery underway. -/
def goesOn : UnwrappedEquityRecoveryCommand → Bool
  | .submitOrphanWrap => true
  | .confirmOrphanWrap => true
  | .submitOrphanDeposit => true
  | _ => false

/-- With services that succeed, a command that fits is accepted. -/
theorem transition_fits {services : Services} (succeed : services.Succeed)
    {entity : UnwrappedEquityRecovery} {command : UnwrappedEquityRecoveryCommand}
    (fits : Fits entity command) : ∃ events, transition services entity command = .ok events := by
  match entity, command, fits with
  | .detected .., .dispatchToMint _, _ => exact ⟨_, rfl⟩
  | .detected .., .dispatchToRedemption _, _ => exact ⟨_, rfl⟩
  | .detected .., .submitOrphanWrap, _ => exact ⟨_, rfl⟩
  | .detected .., .failRecovery _, _ => exact ⟨_, rfl⟩
  | .orphanWrapSubmitted symbol _ _ hash _, .confirmOrphanWrap, _ =>
      obtain ⟨token, found⟩ := succeed.lookupDerivative symbol
      obtain ⟨confirmation, confirmed⟩ := succeed.confirmWrap token hash
      simp [transition, isTerminal, confirmOrphanWrapOrFail, found, confirmed, Except.map]
  | .orphanWrapped _ _ _ _ _ _ _ none, .submitOrphanDeposit, _ => exact ⟨_, rfl⟩
  | .orphanWrapped _ _ _ _ _ _ _ (some block), .submitOrphanDeposit, _ =>
      simp only [transition, isTerminal, awaitWrapBlock, succeed.waitForBlock block]
      exact ⟨_, rfl⟩
  | .orphanDepositSubmitted _ _ _ _ _ hash _, .confirmOrphanDeposit, _ =>
      simp [transition, isTerminal, confirmOrphanDepositOrFail, succeed.confirmTx hash, Except.map]

theorem Adds.functional {entity next next' : UnwrappedEquityRecovery}
    {event : UnwrappedEquityRecoveryEvent} (first : Adds entity event next)
    (second : Adds entity event next') : next = next' := by
  have same := first.evolve.symm.trans second.evolve
  cases same
  rfl

/-- Any other command that fits ends the recovery. -/
theorem transition_ends {services : Services} {entity next : UnwrappedEquityRecovery}
    {command : UnwrappedEquityRecoveryCommand} {event : UnwrappedEquityRecoveryEvent}
    (fits : Fits entity command) (ends : goesOn command = false)
    (decided : transition services entity command = .ok [event]) (added : Adds entity event next) :
    next.isTerminal = true := by
  match entity, command, fits with
  | .detected .., .dispatchToMint mintId, _ =>
      cases decided
      obtain ⟨next', added', terminal⟩ := resumeMintOrFail_adds services mintId _ _ _
      rwa [added.functional added']
  | .detected .., .dispatchToRedemption redemptionId, _ =>
      cases decided
      obtain ⟨next', added', terminal⟩ := resumeRedemptionOrFail_adds services redemptionId _ _ _
      rwa [added.functional added']
  | .detected .., .failRecovery reason, _ =>
      cases decided
      obtain ⟨next', added', terminal⟩ := adds_failed added.underway reason services.now
      rwa [added.functional added']
  | .orphanDepositSubmitted .., .confirmOrphanDeposit, _ =>
      exact added.onward.elim id False.elim

variable {reading : InventoryReading} {quantity : Option FractionalShares}
variable {stream : List UnwrappedEquityRecoveryEvent}

/-- A command that fits adds its event. -/
theorem leads_fits {entity : UnwrappedEquityRecovery} {command : UnwrappedEquityRecoveryCommand}
    {post : Except (JobError UnwrappedEquityRecoveryError) Unit →
      List UnwrappedEquityRecoveryEvent → Prop}
    (live : aggregate.lifecycle stream = .live entity) (fits : Fits entity command)
    (sent : ∀ next final, aggregate.lifecycle final = .live next →
      next.isTerminal = true ∨ (goesOn command = true ∧ Onward entity next) → post (.ok ()) final) :
    (send command).Leads (answering aggregate (succeeding reading quantity)) post stream := by
  refine leads_send (fun services events succeed accepted => ?_)
    (fun services error succeed rejected => ?_) (fun down => down.elim)
  · rcases aggregate.send_eq_ok.mp accepted with ⟨absent, _⟩ | ⟨entity', live', decided⟩
    · rw [live] at absent
      cases absent
    · rw [live] at live'
      cases live'
      obtain ⟨event, next, rfl, added⟩ := transition_adds decided
      refine sent next _ ?_ ?_
      · rw [aggregate.lifecycle_append, live]
        show aggregate.apply (.live entity) event = _
        simp only [Aggregate.apply, writes.evolve added]
      · cases how : goesOn command with
        | false => exact .inl (transition_ends fits how decided added)
        | true => exact added.onward.imp id fun onward => ⟨rfl, onward⟩
  · obtain ⟨events, decided⟩ := transition_fits succeed fits
    have accepted : aggregate.send services command stream = .ok events :=
      aggregate.send_eq_ok.mpr (.inr ⟨entity, live, decided⟩)
    rw [accepted] at rejected
    cases rejected

/-- The last command of an attempt, when it fits and ends the recovery. -/
theorem leads_last {entity : UnwrappedEquityRecovery} {command : UnwrappedEquityRecoveryCommand}
    (live : aggregate.lifecycle stream = .live entity) (fits : Fits entity command)
    (ends : goesOn command = false) :
    (send command).Leads (answering aggregate (succeeding reading quantity))
      (fun _ final => Ended aggregate isTerminal final) stream := by
  refine leads_fits live fits fun next final replays reached => ?_
  rcases reached with terminal | ⟨further, _⟩
  · exact ⟨next, replays, terminal⟩
  · rw [ends] at further
    cases further

/-- A command that goes on, and the check whether the recovery is over already. -/
theorem leads_onward {entity : UnwrappedEquityRecovery} {command : UnwrappedEquityRecoveryCommand}
    {rest : UnwrappedProg Unit}
    (live : aggregate.lifecycle stream = .live entity) (fits : Fits entity command)
    (goes : ∀ next final, aggregate.lifecycle final = .live next → Onward entity next →
      rest.Leads (answering aggregate (succeeding reading quantity))
        (fun _ final => Ended aggregate isTerminal final) final) :
    (do
      send command
      if ← aggregateTerminal then return
      rest : UnwrappedProg Unit).Leads (answering aggregate (succeeding reading quantity))
        (fun _ final => Ended aggregate isTerminal final) stream := by
  have sends : (send command : UnwrappedProg Unit).Leads
      (answering aggregate (succeeding reading quantity))
      (returns fun _ final => ∃ next, aggregate.lifecycle final = .live next ∧
        (next.isTerminal = true ∨ Onward entity next)) stream :=
    leads_fits live fits fun next final replays reached =>
      ⟨next, replays, reached.imp id fun further => further.2⟩
  refine sends.bind_returns fun _ final => ?_
  rintro ⟨next, replays, reached⟩
  have loads : (aggregateTerminal).Leads (answering aggregate (succeeding reading quantity))
      (returns fun ended last => last = final ∧ ended = next.isTerminal) final := by
    have found : (load : UnwrappedProg _).Leads (answering aggregate (succeeding reading quantity))
        (returns fun loaded last => last = final ∧ loaded = some next) final := by
      refine leads_load (fun loaded found => ?_) (fun error found => ?_) fun down => down.elim
      · rw [aggregate.load_eq_some.mpr replays] at found
        cases found
        exact ⟨rfl, rfl⟩
      · rw [aggregate.load_eq_some.mpr replays] at found
        cases found
    refine found.bind_returns fun loaded last => ?_
    rintro ⟨rfl, rfl⟩
    exact ⟨rfl, rfl⟩
  refine loads.bind_returns fun ended last => ?_
  rintro ⟨rfl, rfl⟩
  cases terminal : next.isTerminal with
  | true => exact ⟨next, replays, terminal⟩
  | false =>
      rcases reached with ended | onward
      · rw [terminal] at ended
        cases ended
      · exact goes next last replays onward

/-- Each state of the orphan path, from the last to the first. -/
theorem leads_confirmDeposit {entity : UnwrappedEquityRecovery}
    (live : aggregate.lifecycle stream = .live entity)
    (fits : Fits entity .confirmOrphanDeposit) :
    resumeFromConfirmDeposit.Leads (answering aggregate (succeeding reading quantity))
      (fun _ final => Ended aggregate isTerminal final) stream :=
  leads_last live fits rfl

theorem leads_submitDeposit {entity : UnwrappedEquityRecovery}
    (live : aggregate.lifecycle stream = .live entity)
    (fits : Fits entity .submitOrphanDeposit) :
    resumeFromSubmitDeposit.Leads (answering aggregate (succeeding reading quantity))
      (fun _ final => Ended aggregate isTerminal final) stream := by
  refine leads_onward live fits fun next final replays onward => leads_confirmDeposit replays ?_
  cases entity <;> cases next <;> trivial

theorem leads_confirmWrap {entity : UnwrappedEquityRecovery}
    (live : aggregate.lifecycle stream = .live entity)
    (fits : Fits entity .confirmOrphanWrap) :
    resumeFromConfirmWrap.Leads (answering aggregate (succeeding reading quantity))
      (fun _ final => Ended aggregate isTerminal final) stream := by
  refine leads_onward live fits fun next final replays onward => leads_submitDeposit replays ?_
  cases entity <;> cases next <;> trivial

theorem leads_submitWrap {entity : UnwrappedEquityRecovery}
    (live : aggregate.lifecycle stream = .live entity)
    (fits : Fits entity .submitOrphanWrap) :
    resumeFromSubmitWrap.Leads (answering aggregate (succeeding reading quantity))
      (fun _ final => Ended aggregate isTerminal final) stream := by
  refine leads_onward live fits fun next final replays onward => leads_confirmWrap replays ?_
  cases entity <;> cases next <;> trivial

theorem leads_dispatch {symbol : Symbol} {dispatch : DispatchDecision}
    {symbol' : Symbol} {shares : FractionalShares} {detectedAt : Time}
    (live : aggregate.lifecycle stream = .live (.detected symbol' shares detectedAt)) :
    (dispatchFromDetected symbol dispatch).Leads (answering aggregate (succeeding reading quantity))
      (fun _ final => Ended aggregate isTerminal final) stream := by
  cases dispatch with
  | activeMint mintId => exact leads_last live trivial rfl
  | activeRedemption redemptionId => exact leads_last live trivial rfl
  | orphan => exact leads_submitWrap live trivial
  | conflict mintId redemptionId => exact leads_last live trivial rfl

/-- A detected recovery is failed, handed over or carried on. -/
theorem leads_detected {symbol symbol' : Symbol} {shares : FractionalShares} {detectedAt : Time}
    (live : aggregate.lifecycle stream = .live (.detected symbol' shares detectedAt)) :
    (resumeFromDetected symbol shares).Leads (answering aggregate (succeeding reading quantity))
      (fun _ final => Ended aggregate isTerminal final) stream := by
  have reads : (readRecoverySnapshot : UnwrappedProg _).Leads
      (answering aggregate (succeeding reading quantity))
      (returns fun _ final => final = stream) stream := leads_snapshot fun _ => rfl
  refine reads.bind_returns fun snapshot final => ?_
  rintro rfl
  cases snapshot with
  | none => exact leads_last live trivial rfl
  | some snapshot =>
      by_cases changed : snapshot.shares ≠ shares
      · simp only [if_pos changed]
        exact leads_last live trivial rfl
      · simp only [if_neg changed]
        have validates : (validateActiveAggregateQuantity symbol snapshot : UnwrappedProg Unit).Leads
            (answering aggregate (succeeding reading quantity))
            (fun result last => last = final ∧ ∀ error, result = .error error →
              isBusinessValidationError error = true) final := by
          refine leads_validate ⟨rfl, by simp⟩ fun error invalid => ⟨rfl, fun other same => ?_⟩
          cases same
          rcases invalid with invalid | down
          · cases error <;> first | rfl | exact invalid.elim
          · exact down.elim
        have captures : ((validateActiveAggregateQuantity symbol snapshot).capture :
            UnwrappedProg (Except (JobError UnwrappedEquityRecoveryError) Unit)).Leads
            (answering aggregate (succeeding reading quantity))
            (returns fun result last => last = final ∧ ∀ error, result = .error error →
              isBusinessValidationError error = true) final := Prog.Leads.capture validates
        refine captures.bind_returns fun validated last => ?_
        rintro ⟨rfl, business⟩
        cases validated with
        | ok => exact leads_dispatch live
        | error error =>
            simp only [business error rfl, if_true]
            exact leads_last live trivial rfl

/-- From every state an attempt that meets no failure ends the recovery. -/
theorem leads_resume {symbol : Symbol} {entity : UnwrappedEquityRecovery}
    (live : aggregate.lifecycle stream = .live entity) (underway : entity.isTerminal = false) :
    (resume symbol (some entity)).Leads (answering aggregate (succeeding reading quantity))
      (fun _ final => Ended aggregate isTerminal final) stream := by
  cases entity with
  | detected symbol' shares detectedAt => exact leads_detected live
  | orphanWrapSubmitted => exact leads_confirmWrap live trivial
  | orphanWrapped => exact leads_submitDeposit live trivial
  | orphanDepositSubmitted => exact leads_confirmDeposit live trivial
  | _ => cases underway

theorem leads_perform {symbol : Symbol} (underway : Underway aggregate isTerminal stream) :
    (perform symbol).Leads (answering aggregate (succeeding reading quantity))
      (fun _ final => Ended aggregate isTerminal final) stream := by
  obtain ⟨entity, live, midway⟩ := underway
  refine leads_underClaim (fun guard => ?_) fun contended => contended.elim
  have loads : (load : UnwrappedProg _).Leads (answering aggregate (succeeding reading quantity))
      (returns fun loaded last => last = stream ∧ loaded = some entity) stream := by
    have found : aggregate.load stream = .ok (some entity) := aggregate.load_eq_some.mpr live
    refine leads_load (fun loaded same => ?_) (fun error same => ?_) fun down => down.elim
    · rw [found] at same
      cases same
      exact ⟨rfl, rfl⟩
    · rw [found] at same
      cases same
  refine loads.bind_returns fun loaded last => ?_
  rintro ⟨rfl, rfl⟩
  simp only [Option.any_some, midway, Bool.false_eq_true, if_false]
  have captures : ((resume symbol (some entity)).capture :
      UnwrappedProg (Except (JobError UnwrappedEquityRecoveryError) Unit)).Leads
      (answering aggregate (succeeding reading quantity))
      (returns fun _ final => Ended aggregate isTerminal final) last :=
    Prog.Leads.capture (leads_resume live midway)
  refine captures.bind_returns fun result final ended => ?_
  match result with
  | .ok () => exact ended
  | .error (.noBalanceSkip _) => exact leads_skip ended ended
  | .error (.aggregate _) => exact ended
  | .error (.conflictingActiveTransfers ..) => exact ended
  | .error (.activeMintQuantityMismatch ..) => exact ended
  | .error (.activeRedemptionQuantityMismatch ..) => exact ended
  | .error (.activeMintMissing ..) => exact ended
  | .error (.activeRedemptionMissing ..) => exact ended
  | .error .activeMintAggregate => exact ended
  | .error .activeRedemptionAggregate => exact ended
  | .error .reschedule => exact ended

end UnwrappedEquityRecovery

/-! ## The wrapped job starts over -/

namespace WrappedEquityRecovery

variable {allowed : Answer → List WrappedEquityRecoveryEvent → Prop}
variable {stream : List WrappedEquityRecoveryEvent} {symbol : Symbol}

/-- What an attempt does after it found the recovery not to be over. -/
theorem leads_recover {guard : RecoveryGuard}
    {post : Except (JobError WrappedEquityRecoveryError) Unit →
      List WrappedEquityRecoveryEvent → Prop}
    (skipped : ∀ result, post result stream)
    (detects : ∀ snapshot : RecoverySnapshot,
      (do
        send (.detect symbol snapshot.shares)
        dispatch symbol snapshot.dispatch : WrappedProg _).Leads (answering aggregate allowed)
          (fun result final => post (ending result) final) stream) :
    (recover symbol guard).Leads (answering aggregate allowed)
      (fun result final => post (ending result) final) stream := by
  have reads : (readRecoverySnapshot : WrappedProg _).Leads (answering aggregate allowed)
      (returns fun _ final => final = stream) stream := leads_snapshot fun _ => rfl
  refine reads.bind_returns fun snapshot final => ?_
  rintro rfl
  cases snapshot with
  | none => exact leads_skip (skipped _) (skipped _)
  | some snapshot =>
      have validates : (validateActiveAggregateQuantity symbol snapshot : WrappedProg Unit).Leads
          (answering aggregate allowed) (fun _ last => last = final) final :=
        leads_validate rfl fun _ _ => rfl
      refine validates.bind ?_ ?_
      · rintro _ last rfl
        exact detects snapshot
      · rintro error last rfl
        exact skipped _

/-- One attempt, by what it loads. -/
theorem leads_perform
    {post : Except (JobError WrappedEquityRecoveryError) Unit →
      List WrappedEquityRecoveryEvent → Prop}
    (skipped : ∀ result, post result stream)
    (detects : aggregate.lifecycle stream = .uninitialized ∨ Underway aggregate isTerminal stream →
      ∀ snapshot : RecoverySnapshot,
        (do
          send (.detect symbol snapshot.shares)
          dispatch symbol snapshot.dispatch : WrappedProg _).Leads (answering aggregate allowed)
            (fun result final => post (ending result) final) stream) :
    (perform symbol).Leads (answering aggregate allowed) post stream := by
  refine leads_underClaim (fun guard => ?_) fun _ => ⟨skipped _, skipped _⟩
  have loads : (load : WrappedProg _).Leads (answering aggregate allowed)
      (fun result last => last = stream ∧ ∀ loaded, result = .ok loaded →
        aggregate.load stream = .ok loaded) stream := by
    refine leads_load (fun loaded found => ⟨rfl, fun other same => ?_⟩)
      (fun error found => ⟨rfl, by simp⟩) fun down => ⟨rfl, by simp⟩
    cases same
    exact found
  refine loads.bind ?_ ?_
  · rintro loaded last ⟨rfl, found⟩
    have found := found loaded rfl
    cases loaded with
    | none => exact leads_recover skipped (detects (.inl (aggregate.load_eq_none.mp found)))
    | some recovery =>
        cases terminal : recovery.isTerminal with
        | true =>
            simp only [terminal, if_true]
            exact skipped _
        | false =>
            simp only [terminal, Bool.false_eq_true, if_false]
            exact leads_recover skipped
              (detects (.inr ⟨recovery, aggregate.load_eq_some.mp found, terminal⟩))
  · rintro error last ⟨rfl, _⟩
    exact skipped _

/-- A second detection is refused, in every state. -/
theorem send_detect_live {services : Services} {entity : WrappedEquityRecovery}
    {shares : FractionalShares} (live : aggregate.lifecycle stream = .live entity)
    {events : List WrappedEquityRecoveryEvent} :
    aggregate.send services (.detect symbol shares) stream ≠ .ok events := by
  intro accepted
  rcases aggregate.send_eq_ok.mp accepted with ⟨absent, _⟩ | ⟨entity', _, moved⟩
  · rw [live] at absent
    cases absent
  · cases entity' <;> cases moved

/-- An attempt on a recovery that is underway changes nothing, whatever it is told. -/
theorem leads_perform_underway (underway : Underway aggregate isTerminal stream) :
    (perform symbol).Leads (answering aggregate allowed) (fun _ final => final = stream) stream := by
  obtain ⟨entity, live, _⟩ := underway
  refine leads_perform (fun _ => rfl) fun _ snapshot => ?_
  have refuses : (send (.detect symbol snapshot.shares) : WrappedProg Unit).Leads
      (answering aggregate allowed)
      (fun result final => final = stream ∧ ∀ a, result ≠ .ok a) stream :=
    leads_send (fun services events _ accepted => absurd accepted (send_detect_live live))
      (fun _ _ _ _ => ⟨rfl, by simp⟩) fun _ => ⟨rfl, by simp⟩
  refine refuses.bind (fun a final never => absurd rfl (never.2 a)) ?_
  rintro error final ⟨rfl, _⟩
  rfl

/-! ### Attempts that are not disturbed -/

/-- While the recovery is underway, the stores are up. -/
def undisturbed (answer : Answer) (stream : List WrappedEquityRecoveryEvent) : Prop :=
  Underway aggregate isTerminal stream → answer.Served

/-- The commands that end a recovery that was just detected, and the one that does not. -/
theorem leads_send_undisturbed {entity : WrappedEquityRecovery}
    {command : WrappedEquityRecoveryCommand}
    {post : Except (JobError WrappedEquityRecoveryError) Unit →
      List WrappedEquityRecoveryEvent → Prop}
    (live : aggregate.lifecycle stream = .live entity) (midway : entity.isTerminal = false)
    (sent : ∀ services event next final, transition services entity command = .ok [event] →
      Adds entity event next → aggregate.lifecycle final = .live next → post (.ok ()) final)
    (accepted : ∀ services, ∃ events, transition services entity command = .ok events) :
    (send command).Leads (answering aggregate undisturbed) post stream := by
  refine leads_send (fun services events _ done => ?_) (fun services error _ rejected => ?_)
    fun down => (down ⟨entity, live, midway⟩).elim
  · rcases aggregate.send_eq_ok.mp done with ⟨absent, _⟩ | ⟨entity', live', decided⟩
    · rw [live] at absent
      cases absent
    · rw [live] at live'
      cases live'
      obtain ⟨event, next, rfl, added⟩ := transition_adds decided
      refine sent services event next _ decided added ?_
      rw [aggregate.lifecycle_append, live]
      show aggregate.apply (.live entity) event = _
      simp only [Aggregate.apply, writes.evolve added]
  · obtain ⟨events, decided⟩ := accepted services
    have done : aggregate.send services command stream = .ok events :=
      aggregate.send_eq_ok.mpr (.inr ⟨entity, live, decided⟩)
    rw [done] at rejected
    cases rejected

theorem Adds.functional {entity next next' : WrappedEquityRecovery}
    {event : WrappedEquityRecoveryEvent} (first : Adds entity event next)
    (second : Adds entity event next') : next = next' := by
  have same := first.evolve.symm.trans second.evolve
  cases same
  rfl

theorem not_underway_of_terminal {entity : WrappedEquityRecovery}
    (live : aggregate.lifecycle stream = .live entity) (terminal : entity.isTerminal = true) :
    ¬ Underway aggregate isTerminal stream :=
  Ended.not_underway ⟨entity, live, terminal⟩

/-- A submitted deposit is confirmed, or fails. -/
theorem leads_confirm {symbol' : Symbol} {shares : FractionalShares} {detectedAt : Time}
    {hash : TxHash} {submittedAt : Time}
    (live : aggregate.lifecycle stream =
      .live (.orphanDepositSubmitted symbol' shares detectedAt hash submittedAt)) :
    (send .confirmOrphanDeposit : WrappedProg Unit).Leads (answering aggregate undisturbed)
      (fun _ final => ¬ Underway aggregate isTerminal final) stream := by
  refine leads_send_undisturbed live rfl (fun services event next final decided added replays => ?_)
    fun services => ⟨_, rfl⟩
  cases decided
  obtain ⟨next', added', terminal⟩ :=
    confirmOrphanDepositOrFail_adds services symbol' shares detectedAt hash submittedAt
  exact not_underway_of_terminal replays (by rwa [added.functional added'])

/-- What a detection finds is handed over or deposited, or fails. -/
theorem leads_dispatch {dispatch' : DispatchDecision} {symbol' : Symbol} {shares : FractionalShares}
    {detectedAt : Time}
    (live : aggregate.lifecycle stream = .live (.detected symbol' shares detectedAt)) :
    (dispatch symbol dispatch').Leads (answering aggregate undisturbed)
      (fun _ final => ¬ Underway aggregate isTerminal final) stream := by
  -- The hand-overs and the recorded conflict are over after their one command.
  have single (command : WrappedEquityRecoveryCommand)
      (ending : GuardFate × Except (JobError WrappedEquityRecoveryError) Unit)
      (ends : ∀ services event next,
        transition services (.detected symbol' shares detectedAt) command = .ok [event] →
          Adds (.detected symbol' shares detectedAt) event next → next.isTerminal = true)
      (accepted : ∀ services, ∃ events,
        transition services (.detected symbol' shares detectedAt) command = .ok events) :
      (do
        send command
        return ending : WrappedProg _).Leads (answering aggregate undisturbed)
          (fun _ final => ¬ Underway aggregate isTerminal final) stream := by
    have sends : (send command : WrappedProg Unit).Leads (answering aggregate undisturbed)
        (fun _ final => ¬ Underway aggregate isTerminal final) stream :=
      leads_send_undisturbed live rfl (fun services event next final decided added replays =>
        not_underway_of_terminal replays (ends services event next decided added)) accepted
    exact sends.bind (fun _ _ settled => settled) fun _ _ settled => settled
  cases dispatch' with
  | activeMint mintId =>
      refine single _ _ (fun services event next decided added => ?_) fun services => ⟨_, rfl⟩
      cases decided
      obtain ⟨next', added', terminal⟩ := resumeMintOrFail_adds services mintId symbol' shares detectedAt
      rwa [added.functional added']
  | activeRedemption redemptionId =>
      refine single _ _ (fun services event next decided added => ?_) fun services => ⟨_, rfl⟩
      cases decided
      obtain ⟨next', added', terminal⟩ :=
        resumeRedemptionOrFail_adds services redemptionId symbol' shares detectedAt
      rwa [added.functional added']
  | conflict mintId redemptionId =>
      refine single _ _ (fun services event next decided added => ?_) fun services => ⟨_, rfl⟩
      cases decided
      cases added
      rfl
  | orphan =>
      have submits : (send .submitOrphanDeposit : WrappedProg Unit).Leads
          (answering aggregate undisturbed)
          (returns fun _ final => ∃ next, aggregate.lifecycle final = .live next ∧
            (next.isTerminal = true ∨ ∃ hash submittedAt,
              next = .orphanDepositSubmitted symbol' shares detectedAt hash submittedAt)) stream := by
        refine leads_send_undisturbed live rfl
          (fun services event next final decided added replays => ⟨next, replays, ?_⟩)
          fun services => ⟨_, rfl⟩
        cases added with
        | submitted => exact .inr ⟨_, _, rfl⟩
        | _ => exact .inl rfl
      refine submits.bind_returns fun _ final => ?_
      rintro ⟨next, replays, reached⟩
      have loads : (load : WrappedProg _).Leads (answering aggregate undisturbed)
          (fun result last => last = final ∧ (result = .ok (some next) ∨
            ∃ error, result = .error error ∧ next.isTerminal = true)) final := by
        have found : aggregate.load final = .ok (some next) := aggregate.load_eq_some.mpr replays
        refine leads_load (fun loaded same => ?_) (fun error same => ?_) fun down => ?_
        · rw [found] at same
          cases same
          exact ⟨rfl, .inl rfl⟩
        · rw [found] at same
          cases same
        · refine ⟨rfl, .inr ⟨_, rfl, ?_⟩⟩
          by_contra midway
          exact down ⟨next, replays, by simpa using midway⟩
      refine loads.bind ?_ ?_
      · rintro loaded last ⟨rfl, outcome⟩
        rcases outcome with same | ⟨error, never, _⟩
        · cases same
          rcases reached with terminal | ⟨hash, submittedAt, rfl⟩
          · simp only [terminal, if_true]
            exact not_underway_of_terminal replays terminal
          · exact (leads_confirm replays).bind (fun _ _ settled => settled) fun _ _ settled => settled
        · cases never
      · rintro error last ⟨rfl, outcome⟩
        rcases outcome with never | ⟨error', _, terminal⟩
        · cases never
        · exact not_underway_of_terminal replays terminal

/-- An attempt that is not disturbed leaves no recovery underway. -/
theorem leads_perform_undisturbed (settled : ¬ Underway aggregate isTerminal stream) :
    (perform symbol).Leads (answering aggregate undisturbed)
      (fun _ final => ¬ Underway aggregate isTerminal final) stream := by
  refine leads_perform (fun _ => settled) fun found snapshot => ?_
  have absent : aggregate.lifecycle stream = .uninitialized := found.resolve_right settled
  have empty : stream = [] := aggregate.lifecycle_eq_uninitialized.mp absent
  subst empty
  have detects : (send (.detect symbol snapshot.shares) : WrappedProg Unit).Leads
      (answering aggregate undisturbed)
      (fun result final => (result = .ok () ∧ ∃ detectedAt,
        aggregate.lifecycle final = .live (.detected symbol snapshot.shares detectedAt)) ∨
        (∃ error, result = .error error) ∧ final = []) [] := by
    refine leads_send (fun services events _ accepted => ?_) (fun _ error _ _ => ?_) fun _ => ?_
    · cases accepted
      exact .inl ⟨rfl, services.now, rfl⟩
    · exact .inr ⟨⟨_, rfl⟩, rfl⟩
    · exact .inr ⟨⟨_, rfl⟩, rfl⟩
  refine detects.bind ?_ ?_
  · rintro _ final outcome
    rcases outcome with ⟨_, detectedAt, live⟩ | ⟨⟨error, never⟩, _⟩
    · exact leads_dispatch live
    · cases never
  · rintro error final outcome
    rcases outcome with ⟨never, _⟩ | ⟨_, rfl⟩
    · cases never
    · exact settled

end WrappedEquityRecovery

/-! ## Both jobs -/

/-- Services that always succeed. -/
def Services.reliable : Services where
  now := 0
  resumeMint _ := .ok ()
  resumeRedemption _ := .ok ()
  lookupDerivative _ := .ok 1
  vaultIdForToken _ := .ok 1
  toU256 _ := .ok 0
  submitWrap _ _ := .ok 1
  confirmWrap _ _ := .ok ⟨0, 0⟩
  waitForBlock _ := .ok ()
  submitDeposit _ _ _ := .ok 1
  confirmTx _ := .ok ()

theorem Services.reliable_succeed : Services.reliable.Succeed where
  resumeMint _ := rfl
  resumeRedemption _ := rfl
  lookupDerivative _ := ⟨_, rfl⟩
  vaultIdForToken _ := ⟨_, rfl⟩
  toU256 _ := ⟨_, rfl⟩
  submitWrap _ _ := ⟨_, rfl⟩
  confirmWrap _ _ := ⟨_, rfl⟩
  waitForBlock _ := rfl
  submitDeposit _ _ _ := ⟨_, rfl⟩
  confirmTx _ := rfl

/-- One submission at most, and one hash. -/
def RecordedOnce {Event : Type} (submits : Event → Bool) (hash : Event → Option TxHash)
    (stream : List Event) : Prop :=
  stream.countP submits ≤ 1 ∧
    ∀ first ∈ stream.filterMap hash, ∀ second ∈ stream.filterMap hash, first = second

section Both

variable {Entity Event Command Error : Type}
variable {agg : Aggregate Entity Event Command Error Services}
variable {adds : Entity → Event → Entity → Prop}

theorem recordedOnce {stream : List Event} {rank : Entity → Nat} {submits : Event → Bool}
    {threshold : Nat} {hash : Event → Option TxHash} {known : Entity → Option TxHash}
    (built : stream = [] ∨ ∃ entity, agg.Written adds stream entity)
    (crosses : agg.Crosses adds rank submits threshold)
    (remembers : agg.Remembers adds hash known) : RecordedOnce submits hash stream := by
  rcases built with rfl | ⟨entity, written⟩
  · simp [RecordedOnce]
  · exact ⟨written.countP_le_one crosses, written.one_label remembers⟩

theorem replays_of_written {stream : List Event} (writes : agg.Writes adds)
    (built : stream = [] ∨ ∃ entity, agg.Written adds stream entity) :
    agg.lifecycle stream ≠ .failed := by
  rcases built with rfl | ⟨entity, written⟩
  · simp
  · simp [written.lifecycle writes]

end Both

namespace UnwrappedEquityRecovery

theorem resumes (symbol : Symbol) (reading : InventoryReading)
    (quantity : Option FractionalShares) (stream : List UnwrappedEquityRecoveryEvent) :
    Resumes aggregate isTerminal (perform symbol) reading quantity stream := by
  intro underway
  refine ⟨?_, fun result final ran => (leads_perform underway).completes ran⟩
  exact exists_completes (succeeding_answers Services.reliable_succeed) _ _

end UnwrappedEquityRecovery

namespace WrappedEquityRecovery

/-- The wrapped job resumes nothing. -/
theorem resumes_iff (symbol : Symbol) (reading : InventoryReading)
    (quantity : Option FractionalShares) (stream : List WrappedEquityRecoveryEvent) :
    Resumes aggregate isTerminal (perform symbol) reading quantity stream ↔
      ¬ Underway aggregate isTerminal stream := by
  constructor
  · intro resumes underway
    obtain ⟨⟨result, final, ran⟩, ends⟩ := resumes underway
    have unchanged : final = stream := (leads_perform_underway underway).completes ran
    have ended := ends result final ran
    rw [unchanged] at ended
    exact ended.not_underway underway
  · exact fun settled underway => absurd underway settled

theorem delivered_settled {symbol : Symbol} {history : List (List Answer)}
    {stream : List WrappedEquityRecoveryEvent}
    (ran : deliver (handle aggregate) (perform symbol) [] history = some stream)
    (calm : AllUndisturbed (handle aggregate) (Underway aggregate isTerminal) Answer.Served
      (perform symbol) [] history) : ¬ Underway aggregate isTerminal stream := by
  have start : ¬ Underway aggregate isTerminal ([] : List WrappedEquityRecoveryEvent) := by
    rintro ⟨entity, live, _⟩
    cases live
  exact deliver_undisturbed (fun s settled => leads_perform_undisturbed settled) start calm ran

end WrappedEquityRecovery

/-- Whatever the attempts met, both streams replay and record each transaction
once, and the unwrapped job ends what is underway. A wrapped recovery that is
underway is never ended; there is none if no attempt stops, and no store fails,
after a detection and before the end. -/
theorem recovery_jobs_resume {symbol : Symbol} {wrappedHistory unwrappedHistory : List (List Answer)}
    {wrapped : List WrappedEquityRecoveryEvent} {unwrapped : List UnwrappedEquityRecoveryEvent}
    (wrappedRan : deliver (handle WrappedEquityRecovery.aggregate)
      (WrappedEquityRecovery.perform symbol) [] wrappedHistory = some wrapped)
    (unwrappedRan : deliver (handle UnwrappedEquityRecovery.aggregate)
      (UnwrappedEquityRecovery.perform symbol) [] unwrappedHistory = some unwrapped) :
    (WrappedEquityRecovery.aggregate.lifecycle wrapped ≠ .failed ∧
      RecordedOnce WrappedEquityRecovery.submitsDeposit WrappedEquityRecovery.depositHash wrapped) ∧
    (UnwrappedEquityRecovery.aggregate.lifecycle unwrapped ≠ .failed ∧
      RecordedOnce UnwrappedEquityRecovery.submitsWrap UnwrappedEquityRecovery.wrapHash unwrapped ∧
      RecordedOnce UnwrappedEquityRecovery.submitsDeposit UnwrappedEquityRecovery.depositHash
        unwrapped) ∧
    (∀ reading quantity, Resumes UnwrappedEquityRecovery.aggregate
      UnwrappedEquityRecovery.isTerminal (UnwrappedEquityRecovery.perform symbol) reading quantity
      unwrapped) ∧
    (∀ reading quantity, Resumes WrappedEquityRecovery.aggregate WrappedEquityRecovery.isTerminal
        (WrappedEquityRecovery.perform symbol) reading quantity wrapped ↔
      ¬ Underway WrappedEquityRecovery.aggregate WrappedEquityRecovery.isTerminal wrapped) ∧
    (AllUndisturbed (handle WrappedEquityRecovery.aggregate)
        (Underway WrappedEquityRecovery.aggregate WrappedEquityRecovery.isTerminal) Answer.Served
        (WrappedEquityRecovery.perform symbol) [] wrappedHistory →
      ∀ reading quantity, Resumes WrappedEquityRecovery.aggregate WrappedEquityRecovery.isTerminal
        (WrappedEquityRecovery.perform symbol) reading quantity wrapped) := by
  have wrappedBuilt := delivered_written WrappedEquityRecovery.writes wrappedRan
  have unwrappedBuilt := delivered_written UnwrappedEquityRecovery.writes unwrappedRan
  refine ⟨⟨?_, ?_⟩, ⟨?_, ?_, ?_⟩, ?_, ?_, ?_⟩
  · exact replays_of_written WrappedEquityRecovery.writes wrappedBuilt
  · exact recordedOnce wrappedBuilt WrappedEquityRecovery.crosses_deposit
      WrappedEquityRecovery.remembers_deposit
  · exact replays_of_written UnwrappedEquityRecovery.writes unwrappedBuilt
  · exact recordedOnce unwrappedBuilt UnwrappedEquityRecovery.crosses_wrap
      UnwrappedEquityRecovery.remembers_wrap
  · exact recordedOnce unwrappedBuilt UnwrappedEquityRecovery.crosses_deposit
      UnwrappedEquityRecovery.remembers_deposit
  · exact fun reading quantity => UnwrappedEquityRecovery.resumes symbol reading quantity unwrapped
  · exact fun reading quantity => WrappedEquityRecovery.resumes_iff symbol reading quantity wrapped
  · intro calm reading quantity
    exact (WrappedEquityRecovery.resumes_iff symbol reading quantity wrapped).mpr
      (WrappedEquityRecovery.delivered_settled wrappedRan calm)

/-- Five shares in the wallet that belong to no transfer. -/
def fiveOrphaned : InventoryReading := ⟨some 5, none, none⟩

/-- An attempt that dies once the detection is recorded. -/
def crashAfterDetect : List Answer :=
  [.claimed ⟨1, .orphan⟩, .done, .reading fiveOrphaned, .served .reliable]

def crashAfterWrapSubmitted : List Answer := crashAfterDetect ++ [.served .reliable]

theorem recovery_jobs_resume_crashed :
    ∃ wrapped unwrapped,
      deliver (handle WrappedEquityRecovery.aggregate)
        (WrappedEquityRecovery.perform "AAPL") [] [crashAfterDetect] = some wrapped ∧
      deliver (handle UnwrappedEquityRecovery.aggregate)
        (UnwrappedEquityRecovery.perform "AAPL") [] [crashAfterWrapSubmitted] = some unwrapped ∧
      unwrapped.length = 2 ∧
      Resumes UnwrappedEquityRecovery.aggregate UnwrappedEquityRecovery.isTerminal
        (UnwrappedEquityRecovery.perform "AAPL") fiveOrphaned none unwrapped ∧
      ¬ Resumes WrappedEquityRecovery.aggregate WrappedEquityRecovery.isTerminal
        (WrappedEquityRecovery.perform "AAPL") fiveOrphaned none wrapped := by
  obtain ⟨_, _, unwrappedResumes, wrappedResumes, _⟩ :=
    @recovery_jobs_resume "AAPL" [crashAfterDetect] [crashAfterWrapSubmitted]
      [.detected "AAPL" 5 0] [.detected "AAPL" 5 0, .orphanWrapSubmitted 1 0] rfl rfl
  refine ⟨_, _, rfl, rfl, rfl, unwrappedResumes fiveOrphaned none, fun resumes => ?_⟩
  exact (wrappedResumes fiveOrphaned none).mp resumes ⟨.detected "AAPL" 5 0, rfl, rfl⟩

/-- After the crash the wallet still holds the five shares, every service is
up, and the next attempt fails: the detection was recorded already. -/
theorem wrapped_recovery_stuck_after_detect :
    deliver (handle WrappedEquityRecovery.aggregate)
      (WrappedEquityRecovery.perform "AAPL") [] [crashAfterDetect] =
        some [.detected "AAPL" 5 0] ∧
    (WrappedEquityRecovery.perform "AAPL").follow (handle WrappedEquityRecovery.aggregate)
      [.detected "AAPL" 5 0] (crashAfterDetect ++ [.done]) =
        some (.fail (.aggregate (.rejected .alreadyInitialized)), [.detected "AAPL" 5 0]) ∧
    ∀ result final,
      Completes (answering WrappedEquityRecovery.aggregate (succeeding fiveOrphaned none))
        (WrappedEquityRecovery.perform "AAPL") [.detected "AAPL" 5 0] result final →
      ¬ Ended WrappedEquityRecovery.aggregate WrappedEquityRecovery.isTerminal final := by
  refine ⟨rfl, rfl, fun result final ran ended => ?_⟩
  have underway : Underway WrappedEquityRecovery.aggregate WrappedEquityRecovery.isTerminal
      [.detected "AAPL" 5 0] := ⟨.detected "AAPL" 5 0, rfl, rfl⟩
  have unchanged := (WrappedEquityRecovery.leads_perform_underway underway).completes ran
  rw [unchanged] at ended
  exact ended.not_underway underway

end Liquidity.EquityRecovery
