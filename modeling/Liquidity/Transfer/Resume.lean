import Liquidity.Transfer.Conduct

/-!
# Attempts and tasks keep to their roles

Every entry of both directions, and the detached task. An attempt that has just
loaded the rebalance knows where it stands, that it has made no call yet, and
how many tasks there are.
-/

namespace Liquidity.Transfer

open EventSourcing Process UsdcRebalance

/-! ## Loading -/

/-- The attempt has loaded this state and done nothing since. -/
structure World.Loaded (state : Option UsdcRebalance) (world : World) : Prop where
  loaded : world.attempt.loaded = state
  effects : world.attempt.effects = []
  core : world.entity?.map core = state.map core
  tasks : world.tasks.length = world.attempt.tasks
  burn : ∀ hash, pendingBurnOf state = some hash → ∃ task, world.IsBurn task hash

namespace World.Loaded

variable {state : Option UsdcRebalance} {world : World}

theorem stage_eq (loaded : world.Loaded state) : world.stage = stageOf state :=
  stageOf_eq_of_core loaded.core

theorem fresh (loaded : world.Loaded state) : world.Fresh := by
  intro effect made
  simp [loaded.effects] at made

/-- The calls that are made without looking for an earlier one. -/
theorem due (loaded : world.Loaded state) {effect : Effect} (here : stageOf state = effect.stage)
    (blind : effect = .alpacaWithdrawal ∨ effect = .call .deposit) : world.Due effect := by
  refine ⟨loaded.stage_eq.trans here, loaded.fresh, ?_⟩
  rcases blind with rfl | rfl
  · exact (loaded.loaded ▸ here).le
  · exact (loaded.loaded ▸ here).le

theorem stored {entity : UsdcRebalance} (loaded : world.Loaded (some entity))
    (other : entity.stage ≠ .bridgingSubmitting) : world.entity? = some entity := by
  obtain ⟨current, found, equal⟩ := Option.map_eq_some_iff.mp loaded.core
  have stages : current.stage = entity.stage := by
    rw [← current.stage_core, equal, entity.stage_core]
  rw [core_eq_self (stages ▸ other), core_eq_self other] at equal
  rw [found, equal]

theorem intends (loaded : world.Loaded state) (here : stageOf state = .bridgingSubmitting) :
    world.Intends (pendingBurnOf state) :=
  ⟨(loaded.stage_eq.trans here).ge, by rw [loaded.loaded], loaded.tasks, loaded.burn⟩

end World.Loaded

variable {direction : RebalanceDirection}

theorem ensures_load :
    (attemptRole direction).Ensures (fun _ => True) load fun state world => world.Loaded state := by
  have asked : (attemptRole direction).Ensures (fun _ => True) (ask .load) fun answer world =>
      ∀ state, answer = .ok state → world.Loaded state := by
    refine .perform .true fun before _ sane choice answer after handled => ?_
    refine ⟨trivial, fun _ state ok => ?_⟩
    subst ok
    rcases handle_load handled with ⟨-, _, refused⟩ | ⟨answered, rfl⟩
    · cases refused
    · have same : state = before.entity? := by
        have live := sane.emits.lifecycle
        revert answered live
        generalize before.entity? = current
        intro answered live
        cases current with
        | none =>
            rw [UsdcRebalance.aggregate.load_eq_none.mpr live] at answered
            exact (Except.ok.inj answered)
        | some entity =>
            rw [UsdcRebalance.aggregate.load_eq_some.mpr live] at answered
            exact (Except.ok.inj answered)
      subst same
      exact ⟨rfl, rfl, rfl, rfl, sane.recorded⟩
  refine asked.bind fun answer => .lift fun state ok world loaded => ?_
  cases answer with
  | error error => cases ok
  | ok value =>
      cases ok
      exact loaded state rfl

/-! ## Alpaca to Base -/

section AlpacaToBase

variable [FloatFormat] (config : Config)

theorem ensures_executeUsdToUsdcConversion (amount : Usdc) :
    (attemptRole direction).Ensures (fun _ => True) (executeUsdToUsdcConversion amount)
      fun _ world => world.Due .alpacaWithdrawal := by
  refine (safe_ask rfl).bind fun correlationId => ?_
  refine (ensures_plain (.initiateConversion .alpacaToBase amount correlationId) rfl).bind fun _ => ?_
  refine ((ensures_placeConversion amount .usdToUsdc correlationId).weaken ?_
    fun _ _ ends => ends rfl).bind fun conversion => ?_
  · rintro world ⟨before, sane, records⟩
    exact ⟨records.converting, records.gained sane rfl⟩
  · exact .pure fun world ⟨here, gained⟩ => gained.due here

omit [FloatFormat] in
/-- A transfer that opened with a conversion may withdraw. -/
theorem issued_initiate {state : Option UsdcRebalance} (here : stageOf state ≠ .settled)
    (side : RebalanceDirection) (amount : Usdc) (withdrawal : TransferRef) :
    issued state (.initiate side amount withdrawal) = true := by
  cases state with
  | none => rfl
  | some entity =>
      cases entity with
      | conversionComplete converted =>
          cases converted
          · rfl
          · exact absurd rfl here
      | _ => rfl

omit [FloatFormat] in
theorem ensures_initiateAlpacaWithdrawal (amount : Usdc) :
    (attemptRole direction).Ensures (fun world => world.Due .alpacaWithdrawal)
      (initiateAlpacaWithdrawal amount) fun _ _ => True := by
  unfold initiateAlpacaWithdrawal
  split
  · exact .throw
  · rename_i positive _
    have asked : (attemptRole direction).Ensures (fun world => world.Due .alpacaWithdrawal)
        (ask (.initiateWithdrawal positive)) fun _ world => world.stage = .converted :=
      ensures_effect _ .alpacaWithdrawal rfl (stable_due _) fun _ due => due
    refine asked.bind fun answer => ?_
    split
    · exact .throw
    · refine (ensures_send (.initiate ..) (stable_stage _) fun world here _ => ?_).bind
        fun _ => .pure fun _ _ => trivial
      refine ⟨issued_initiate ?_ .., trivial⟩
      rw [show stageOf world.entity? = .converted from here]
      decide

omit [FloatFormat] in
theorem safe_requireConfirmationsOf (withdrawalTx : Option TxHash) :
    Safe direction (requireConfirmationsOf config withdrawalTx) := by
  unfold requireConfirmationsOf
  split
  · refine (safe_ask rfl).bind fun answer => ?_
    split
    · exact .throw
    · exact .throw
    · split
      · exact .throw
      · exact safe_pure _
  · exact safe_pure _

omit [FloatFormat] in
theorem safe_pollAndConfirmWithdrawal (transfer : Nat) (initiatedAt : Time) :
    Safe direction (pollAndConfirmWithdrawal config transfer initiatedAt) := by
  refine (safe_ask rfl).bind fun answer => ?_
  split
  · exact .throw
  · split
    · exact .throw
    · split
      · exact (safe_send (.failWithdrawal _) rfl).bind fun _ => .throw
      · refine (safe_send (.confirmWithdrawal _) rfl).bind fun _ => ?_
        exact (safe_requireConfirmationsOf config _).bind fun _ => safe_pure _

omit [FloatFormat] in
theorem ensures_continueAlpacaToBaseFromBridged (amountReceived : Usdc) :
    (attemptRole direction).Ensures (fun world => world.Due (.call .deposit))
      (continueAlpacaToBaseFromBridged amountReceived) fun _ _ => True := by
  have lifted : (attemptRole direction).Ensures (fun world => world.Due (.call .deposit))
      (Prog.liftExcept (usdcToU256 amountReceived) : Flow Nat)
      fun _ world => world.Due (.call .deposit) :=
    .lift fun _ _ _ due => due
  refine lifted.bind fun amount => ?_
  have deposited : (attemptRole direction).Ensures (fun world => world.Due (.call .deposit))
      (depositToVault amount) fun _ _ => True := by
    have asked : (attemptRole direction).Ensures (fun world => world.Due (.call .deposit))
        (ask (.broadcast .deposit amount)) fun _ world => world.stage = .bridged :=
      ensures_effect _ (.call .deposit) rfl (stable_due _) fun _ due => due
    refine asked.bind fun answer => ?_
    split
    · exact .throw
    · refine (safe_send (.initiateDeposit _) rfl).anywhere.bind fun _ => ?_
      exact (safe_ask rfl).bind fun _ => safe_lift _
  exact deposited.bind fun _ => safe_send .confirmDeposit rfl

omit [FloatFormat] in
theorem World.Minted.due {world : World} {received : Usdc} (minted : world.Minted received)
    {effect : Effect} (here : effect.stage = .bridged) : world.Due effect := by
  obtain ⟨gained, _, bridged⟩ := minted
  exact gained.due (bridged.stage.trans here.symm)

theorem safe_mintAndDeposit (response : AttestationResponse) (initiatedAt : Time) :
    Safe .alpacaToBase (executeCctpMint response initiatedAt >>=
      continueAlpacaToBaseFromBridged) := by
  refine (ensures_mintWith "Mint failed: " response initiatedAt).bind fun received => ?_
  exact (ensures_continueAlpacaToBaseFromBridged received).weaken
    (fun world minted => minted.due rfl) fun _ _ ends => ends

theorem safe_continueAlpacaToBaseFromBridging (burnTx : TxHash) (initiatedAt : Time) :
    Safe .alpacaToBase (continueAlpacaToBaseFromBridging config burnTx initiatedAt) :=
  (safe_awaitAttestation config burnTx).bind fun response =>
    safe_mintAndDeposit response initiatedAt

theorem safe_continueAlpacaToBaseFromAwaitingAttestation (burnTx : TxHash)
    (retryDeadlineAt initiatedAt : Time) :
    Safe .alpacaToBase
      (continueAlpacaToBaseFromAwaitingAttestation burnTx retryDeadlineAt initiatedAt) :=
  (safe_awaitAttestationAgain burnTx retryDeadlineAt).bind fun response =>
    safe_mintAndDeposit response initiatedAt

theorem safe_continueAlpacaToBaseFromAttested (burnTx : TxHash) (attestation : List UInt8)
    (cctpNonce : Nat) (message : Option (List UInt8)) (mintScanFromBlock : Option Nat)
    (initiatedAt : Time) :
    Safe .alpacaToBase (continueAlpacaToBaseFromAttested burnTx attestation cctpNonce message
      mintScanFromBlock initiatedAt) := by
  refine (ensures_findSubmittedMint mintScanFromBlock initiatedAt).bind fun found => ?_
  split
  · rename_i receipt
    refine ((ensures_confirmMint receipt).weaken (fun world mined => mined receipt rfl)
      fun _ _ ends => ends).bind fun received => ?_
    refine (ensures_continueAlpacaToBaseFromBridged received).weaken ?_ fun _ _ ends => ends
    rintro world ⟨gained, bridged⟩
    exact gained.due bridged.stage
  · exact (safe_attestedAttestationResponse ..).anywhere.bind fun response =>
      safe_mintAndDeposit response initiatedAt

theorem safe_continueAlpacaToBaseFromWithdrawalComplete (amount : Usdc)
    (withdrawalTx : Option TxHash) (initiatedAt : Time) :
    Safe .alpacaToBase
      (continueAlpacaToBaseFromWithdrawalComplete config amount withdrawalTx initiatedAt) := by
  refine (safe_requireConfirmationsOf config withdrawalTx).bind fun _ => ?_
  refine (safe_lift _).bind fun nominal => (safe_ask rfl).bind fun answer => ?_
  split
  · exact .throw
  · split
    · exact .throw
    · split
      · refine (safe_lift _).bind fun held => ?_
        exact (safe_send (.failBridging _) rfl).bind fun _ => .throw
      · have bound : Safe .alpacaToBase (burnFromBlock withdrawalTx) := by
          unfold burnFromBlock
          split
          · exact safe_pure _
          · refine (safe_ask rfl).bind fun answer => ?_
            split
            · exact .throw
            · exact safe_pure _
        have burned : ∀ balance fromBlock,
            Safe .alpacaToBase (executeCctpBurnOnEthereum balance fromBlock) := by
          intro balance fromBlock
          unfold executeCctpBurnOnEthereum
          split
          · exact ensures_executeCctpBurn _ _
          · refine (safe_ask rfl).bind fun answer => ?_
            split
            · exact ensures_executeCctpBurn _ _
            · exact .throw
        refine bound.bind fun fromBlock => (burned _ fromBlock).bind fun receipt => ?_
        exact safe_continueAlpacaToBaseFromBridging config receipt.tx initiatedAt

theorem safe_withdrawAndBridge (amount : Usdc) (transfer : Nat) (polledAt initiatedAt : Time) :
    Safe .alpacaToBase (pollAndConfirmWithdrawal config transfer polledAt >>= fun withdrawalTx =>
      continueAlpacaToBaseFromWithdrawalComplete config amount withdrawalTx initiatedAt) :=
  (safe_pollAndConfirmWithdrawal config transfer polledAt).bind fun withdrawalTx =>
    safe_continueAlpacaToBaseFromWithdrawalComplete config amount withdrawalTx initiatedAt

theorem safe_executeAlpacaToBase (amount : Usdc) :
    Safe .alpacaToBase (executeAlpacaToBase config amount) := by
  refine (ensures_executeUsdToUsdcConversion amount).bind fun usdcAmount => ?_
  refine (ensures_initiateAlpacaWithdrawal usdcAmount).bind fun transfer => ?_
  exact (safe_ask rfl).bind fun initiatedAt => safe_withdrawAndBridge config ..

omit [FloatFormat] in
theorem safe_resumeDepositInitiated (deposit : TransferRef) :
    Safe direction (resumeDepositInitiated deposit) := by
  unfold resumeDepositInitiated
  split
  · exact .throw
  · refine (safe_ask rfl).bind fun answer => ?_
    split
    · exact safe_send .confirmDeposit rfl
    · split
      · exact (safe_send (.failDeposit _) rfl).bind fun _ => .throw
      · exact .throw

/-- Every entry of an AlpacaToBase transfer. -/
theorem ensures_resumeAlpacaToBaseFrom (amount : Usdc) (state : Option UsdcRebalance) :
    (attemptRole .alpacaToBase).Ensures (World.Loaded state)
      (resumeAlpacaToBaseFrom config amount state) fun _ _ => True := by
  unfold resumeAlpacaToBaseFrom
  split
  · exact (safe_executeAlpacaToBase config amount).anywhere
  · exact (safe_send (.failConversion _) rfl).anywhere.bind fun _ => .throw
  · refine ((ensures_initiateAlpacaWithdrawal _).weaken (fun world loaded => ?_)
      fun _ _ ends => ends).bind fun transfer => ?_
    · exact loaded.due rfl (.inl rfl)
    · exact (safe_ask rfl).bind fun now => safe_withdrawAndBridge config ..
  · unfold resumeWithdrawing
    split
    · exact .throw
    · exact (safe_withdrawAndBridge config ..).anywhere
  · exact (safe_continueAlpacaToBaseFromWithdrawalComplete config ..).anywhere
  · rename_i amount' fromBlock initiatedAt burnAmount pending
    have lifted : ∀ result : Except UsdcTransferError Nat,
        (attemptRole .alpacaToBase).Ensures
          (World.Loaded (some (.bridgingSubmitting .alpacaToBase amount' fromBlock initiatedAt
            burnAmount pending)))
          (Prog.liftExcept result : Flow Nat)
          fun _ => World.Loaded (some (.bridgingSubmitting .alpacaToBase amount' fromBlock
            initiatedAt burnAmount pending)) :=
      fun _ => .lift fun _ _ _ loaded => loaded
    refine (lifted _).bind fun nominal => (lifted _).bind fun scanAmount => ?_
    refine ((ensures_resumeBurn scanAmount fromBlock pending).weaken (fun world loaded => ?_)
      fun _ _ ends => ends).bind fun receipt => ?_
    · exact loaded.intends rfl
    · exact safe_continueAlpacaToBaseFromBridging config receipt.tx initiatedAt
  · exact (safe_lift _).anywhere.bind fun _ => safe_continueAlpacaToBaseFromBridging config ..
  · exact (safe_lift _).anywhere.bind fun _ =>
      safe_continueAlpacaToBaseFromAwaitingAttestation ..
  · exact (safe_continueAlpacaToBaseFromAttested ..).anywhere
  · refine (ensures_continueAlpacaToBaseFromBridged _).weaken (fun world loaded => ?_)
      fun _ _ ends => ends
    exact loaded.due rfl (.inr rfl)
  · exact (safe_resumeDepositInitiated _).anywhere
  all_goals first | exact .pure fun _ _ => trivial | exact .throw

theorem safe_resumeAlpacaToBase (amount : Usdc) :
    Safe .alpacaToBase (resumeAlpacaToBase config amount) :=
  ensures_load.bind fun state => ensures_resumeAlpacaToBaseFrom config amount state

end AlpacaToBase

/-! ## Base to Alpaca -/

section BaseToAlpaca

variable [FloatFormat] (config : Config)

omit [FloatFormat] in
/-- The vault withdrawal is due at this stage. -/
theorem ensures_withdrawUsdc (amount : Nat) :
    (attemptRole direction).Ensures (fun world => world.Due (.call .withdraw)) (withdrawUsdc amount)
      fun _ world => world.stage = .withdrawalSubmitting := by
  have asked : (attemptRole direction).Ensures (fun world => world.Due (.call .withdraw))
      (ask (.broadcast .withdraw amount)) fun _ world => world.stage = .withdrawalSubmitting :=
    ensures_effect _ (.call .withdraw) rfl (stable_due _) fun _ due => due
  refine asked.bind fun answer => ?_
  split
  · exact .throw
  · refine (ensures_ask rfl (stable_stage _)).bind fun mined => ?_
    split
    · exact .throw
    · exact .pure fun _ here => here

omit [FloatFormat] in
theorem ensures_sendInitiate (amount : Usdc) (withdrawTx : TxHash) :
    (attemptRole direction).Ensures (fun world => world.stage = .withdrawalSubmitting)
      (send (.initiate .baseToAlpaca amount (.onchainTx withdrawTx))) fun _ _ => True := by
  refine (ensures_send (.initiate ..) (stable_stage _) fun world here _ => ?_).weaken
    (fun _ holds => holds) fun _ _ _ => trivial
  refine ⟨issued_initiate ?_ .., trivial⟩
  rw [show stageOf world.entity? = .withdrawalSubmitting from here]
  decide

omit [FloatFormat] in
theorem ensures_recordVaultWithdrawal (amount : Usdc) (withdrawTx : TxHash) :
    (attemptRole direction).Ensures (fun world => world.stage = .withdrawalSubmitting)
      (recordVaultWithdrawal amount withdrawTx) fun _ _ => True :=
  (ensures_sendInitiate amount withdrawTx).bind fun _ => safe_send (.confirmWithdrawal none) rfl

omit [FloatFormat] in
theorem entity_none_of_fresh {world : World} (here : world.stage = .fresh) :
    world.entity? = none := by
  cases stored : world.entity? with
  | none => rfl
  | some entity =>
      rw [World.stage, stored, stageOf_some] at here
      cases entity with
      | converting side | conversionComplete side => cases side <;> cases here
      | _ => cases here

omit [FloatFormat] in
/-- The intent is recorded by the attempt that began the transfer. -/
theorem ensures_withdrawFromVault (amount : Usdc) (amountU256 : Nat) :
    (attemptRole direction).Ensures (fun world => world.stage = .fresh)
      (withdrawFromVault amount amountU256) fun _ _ => True := by
  refine (ensures_read rfl (stable_stage .fresh)).bind fun answer => ?_
  split
  · exact .throw
  · rename_i fromBlock
    have headed : (attemptRole direction).Ensures
        (fun world => world.stage = .fresh ∧ fromBlock ≤ world.head .base)
        (send (.beginWithdrawal .baseToAlpaca amount fromBlock)) fun _ world =>
          world.Due (.call .withdraw) := by
      refine (ensures_send (.beginWithdrawal .baseToAlpaca amount fromBlock)
        ((stable_stage .fresh).and (stable_head .base fromBlock))
        fun world ⟨here, reached⟩ _ => ?_).weaken (fun _ holds => holds) ?_
      · refine ⟨?_, reached⟩
        rw [entity_none_of_fresh here]
        rfl
      · rintro _ world ⟨before, -, sane, records⟩
        exact (records.gained sane rfl).due records.submitting.stage
    refine (headed.weaken ?_ fun _ _ ends => ends).bind fun _ => ?_
    · rintro world ⟨here, choice, handled⟩
      refine ⟨here, ?_⟩
      have answered := reply_ok handled
      split at answered
      case isTrue reached =>
        cases answered
        exact reached
      case isFalse => cases answered
    · exact (ensures_withdrawUsdc amountU256).bind fun withdrawTx =>
        ensures_recordVaultWithdrawal amount withdrawTx

omit [FloatFormat] in
/-- A resumed attempt looks for an earlier withdrawal first. -/
theorem ensures_resumeWithdrawalSubmitting (amount : Usdc) (amountU256 fromBlock : Nat) :
    (attemptRole direction).Ensures (fun world => world.Submitting fromBlock ∧ world.Fresh)
      (resumeWithdrawalSubmitting amount amountU256 fromBlock) fun _ _ => True := by
  have stable : (attemptRole direction).Stable fun world =>
      world.Submitting fromBlock ∧ world.Fresh :=
    (stable_submitting fromBlock).and
      (stable_of fun stage attempt => ∀ effect ∈ attempt.effects, effect.stage < stage)
  have scanned : (attemptRole direction).Ensures
      (fun world => world.Submitting fromBlock ∧ world.Fresh)
      (ask (.findRecentWithdrawal fromBlock)) fun answer world =>
        world.stage = .withdrawalSubmitting ∧
          (answer = .ok none → world.Due (.call .withdraw)) := by
    refine .perform stable fun before ⟨submitting, fresh⟩ _ choice answer after handled => ?_
    refine ⟨submitting, fun _ => ?_⟩
    rcases handle_findRecentWithdrawal handled with ⟨rfl, found⟩ | ⟨rfl, -⟩
    · exact ⟨submitting.stage, fun none => absurd none found⟩
    · exact ⟨submitting.stage, fun _ => ⟨submitting.stage, fresh,
        .inr (List.mem_append_right _ (List.mem_singleton_self _))⟩⟩
  refine scanned.bind fun answer => ?_
  split
  · exact .throw
  · split
    · refine ((ensures_sendInitiate amount _).weaken (fun _ ends => ends.1)
        fun _ _ ends => ends).bind fun _ => ?_
      exact (safe_send (.failWithdrawal _) rfl).bind fun _ => .throw
    · exact (ensures_recordVaultWithdrawal amount _).weaken (fun _ ends => ends.1)
        fun _ _ ends => ends
  · refine ((ensures_withdrawUsdc amountU256).weaken (fun _ ends => ends.2 rfl)
      fun _ _ ends => ends).bind fun withdrawTx => ensures_recordVaultWithdrawal amount withdrawTx

theorem safe_executeUsdcToUsdConversion (amount : Usdc) :
    Safe direction (executeUsdcToUsdConversion amount) := by
  refine (safe_ask rfl).bind fun correlationId => ?_
  refine (ensures_plain (.initiatePostDepositConversion correlationId amount) rfl).bind fun _ => ?_
  refine ((ensures_placeConversion amount .usdcToUsd correlationId).weaken ?_
    fun _ _ _ => trivial).bind fun _ => safe_pure _
  rintro world ⟨before, sane, records⟩
  exact ⟨records.settling, records.gained sane rfl⟩

omit [FloatFormat] in
theorem safe_pollAlpacaDepositAndConfirm (sendTx : TxHash) :
    Safe direction (pollAlpacaDepositAndConfirm sendTx) := by
  refine (safe_ask rfl).bind fun answer => ?_
  split
  · exact (safe_send (.failDeposit _) rfl).bind fun _ => .throw
  · split
    · exact (safe_send (.failDeposit _) rfl).bind fun _ => .throw
    · exact safe_send .confirmDeposit rfl

theorem safe_finishDeposit (amountReceived : Usdc) (sendTx : TxHash) :
    Safe direction (finishDeposit amountReceived sendTx) := by
  refine (safe_send (.initiateDeposit _) rfl).bind fun _ => ?_
  refine (safe_pollAlpacaDepositAndConfirm sendTx).bind fun _ => ?_
  exact safe_executeUsdcToUsdConversion amountReceived

/-- The transfer to Alpaca is due, and it is of this amount. -/
def World.DueTransfer (world : World) (amount : Nat) : Prop :=
  world.Due (.call .transfer) ∧
    ∃ received mintTx, world.Bridged received mintTx ∧ usdcToU256 received = .ok amount

omit [FloatFormat] in
theorem stable_dueTransfer (amount : Nat) :
    (attemptRole direction).Stable fun world => world.DueTransfer amount := by
  rintro before after rests ⟨due, received, mintTx, bridged, same⟩
  exact ⟨stable_due _ before after rests due, received, mintTx,
    stable_bridged received mintTx before after rests bridged, same⟩

omit [FloatFormat] in
theorem ensures_sendUsdcOnEthereum (amount : Nat) :
    (attemptRole direction).Ensures (fun world => world.DueTransfer amount)
      (sendUsdcOnEthereum amount) fun _ _ => True := by
  have asked : (attemptRole direction).Ensures (fun world => world.DueTransfer amount)
      (ask (.broadcast .transfer amount)) fun _ world => world.stage = .bridged :=
    ensures_effect _ (.call .transfer) rfl (stable_dueTransfer amount) fun _ due => due
  refine asked.bind fun answer => ?_
  split
  · exact .throw
  · refine (safe_ask rfl).anywhere.bind fun mined => ?_
    split
    · exact .throw
    · exact safe_pure _

omit [FloatFormat] in
theorem ensures_fetchAlpacaDepositAddress {pre : World → Prop}
    (stable : (attemptRole direction).Stable pre) :
    (attemptRole direction).Ensures pre fetchAlpacaDepositAddress fun _ => pre :=
  (ensures_ask rfl stable).bind fun _ => .lift fun _ _ _ holds => holds

omit [FloatFormat] in
theorem stable_minted (received : Usdc) :
    (attemptRole direction).Stable fun world => world.Minted received := by
  rintro before after rests ⟨gained, mintTx, bridged⟩
  exact ⟨stable_gained before after rests gained, mintTx,
    stable_bridged received mintTx before after rests bridged⟩

theorem ensures_continueFromBridgedFresh (received : Usdc) :
    (attemptRole direction).Ensures (fun world => world.Minted received)
      (continueFromBridgedFresh received) fun _ _ => True := by
  have sent : (attemptRole direction).Ensures (fun world => world.Minted received)
      (sendAlpacaDeposit received) fun _ _ => True := by
    refine (ensures_fetchAlpacaDepositAddress (stable_minted received)).bind fun _ => ?_
    have lifted : (attemptRole direction).Ensures (fun world => world.Minted received)
        (Prog.liftExcept (usdcToU256 received) : Flow Nat)
        fun amount world => world.DueTransfer amount := by
      refine .lift fun amount same world minted => ?_
      obtain ⟨mintTx, bridged⟩ := minted.2
      exact ⟨minted.due rfl, received, mintTx, bridged, same⟩
    exact lifted.bind fun amount => ensures_sendUsdcOnEthereum amount
  exact sent.bind fun sendTx => safe_finishDeposit received sendTx

/-- A resumed attempt looks for an earlier transfer first. -/
theorem ensures_continueFromBridgedResume (received : Usdc) (mintTx : TxHash) :
    (attemptRole direction).Ensures (fun world => world.Bridged received mintTx ∧ world.Fresh)
      (continueFromBridgedResume received mintTx) fun _ _ => True := by
  have stable : (attemptRole direction).Stable fun world =>
      world.Bridged received mintTx ∧ world.Fresh :=
    (stable_bridged received mintTx).and
      (stable_of fun stage attempt => ∀ effect ∈ attempt.effects, effect.stage < stage)
  have scanned : ∀ amount fromBlock, usdcToU256 received = .ok amount →
      (attemptRole direction).Ensures
        (fun world => (world.Bridged received mintTx ∧ world.Fresh) ∧
          world.minedIn .ethereum mintTx = some fromBlock)
        (ask (.findRecentUsdcTransfer amount fromBlock)) fun answer world =>
          answer = .ok none → world.DueTransfer amount := by
    intro amount fromBlock same
    refine .perform (stable.and (stable_mined _ _ _)) ?_
    rintro before ⟨⟨bridged, fresh⟩, mined⟩ - choice answer after handled
    refine ⟨⟨received, mintTx, bridged, same, mined⟩, fun _ absent => ?_⟩
    rcases handle_findRecentUsdcTransfer handled with ⟨rfl, found⟩ | ⟨rfl, -⟩
    · exact absurd absent found
    · exact ⟨⟨bridged.stage, fresh, .inr (List.mem_append_right _ (List.mem_singleton_self _))⟩,
        received, mintTx, bridged, same⟩
  have sent : (attemptRole direction).Ensures
      (fun world => world.Bridged received mintTx ∧ world.Fresh)
      (sendOrAdoptAlpacaDeposit received mintTx) fun _ _ => True := by
    refine (ensures_fetchAlpacaDepositAddress stable).bind fun _ => ?_
    have lifted : (attemptRole direction).Ensures
        (fun world => world.Bridged received mintTx ∧ world.Fresh)
        (Prog.liftExcept (usdcToU256 received) : Flow Nat) fun amount world =>
          usdcToU256 received = .ok amount ∧ world.Bridged received mintTx ∧ world.Fresh :=
      .lift fun _ same _ holds => ⟨same, holds⟩
    refine lifted.bind fun amount => ?_
    refine (ensures_read rfl (.and (fun _ _ _ same => same) stable)).bind fun answer => ?_
    split
    · exact .throw
    · rename_i fromBlock
      by_cases same : usdcToU256 received = .ok amount
      · refine ((scanned amount fromBlock same).weaken ?_ fun _ _ ends => ends).bind
          fun found => ?_
        · rintro world ⟨⟨-, holds⟩, choice, handled⟩
          exact ⟨holds, reply_ok handled⟩
        · split
          · exact .throw
          · exact .pure fun _ _ => trivial
          · exact (ensures_sendUsdcOnEthereum amount).weaken (fun _ due => due rfl)
              fun _ _ ends => ends
      · exact ⟨fun world holds => absurd holds.1.1 same⟩
  exact sent.bind fun sendTx => safe_finishDeposit received sendTx

theorem safe_mintAndContinue (response : AttestationResponse) (initiatedAt : Time) :
    Safe .baseToAlpaca (mintAndContinue response initiatedAt) :=
  (ensures_mintWith "Mint on Ethereum failed: " response initiatedAt).bind fun received =>
    ensures_continueFromBridgedFresh received

theorem safe_continueFromBridging (amount : Usdc) (burnTx : TxHash) (initiatedAt : Time) :
    Safe .baseToAlpaca (continueFromBridging config amount burnTx initiatedAt) :=
  (safe_lift _).bind fun _ => (safe_awaitAttestation config burnTx).bind fun response =>
    safe_mintAndContinue response initiatedAt

theorem safe_continueFromAttested (burnTx : TxHash) (attestation : List UInt8) (cctpNonce : Nat)
    (message : Option (List UInt8)) (mintScanFromBlock : Option Nat) (initiatedAt : Time) :
    Safe .baseToAlpaca (continueFromAttested burnTx attestation cctpNonce message
      mintScanFromBlock initiatedAt) := by
  refine (ensures_findSubmittedMint mintScanFromBlock initiatedAt).bind fun found => ?_
  split
  · rename_i receipt
    refine ((ensures_confirmMint receipt).weaken (fun world mined => mined receipt rfl)
      fun _ _ ends => ends).bind fun received => ?_
    exact (ensures_continueFromBridgedResume received receipt.tx).weaken
      (fun world ends => ⟨ends.2, ends.1.2⟩) fun _ _ ends => ends
  · exact (safe_attestedAttestationResponse ..).anywhere.bind fun response =>
      safe_mintAndContinue response initiatedAt

theorem safe_executeCctpBurnOnBase (amount : Nat) :
    Safe .baseToAlpaca (executeCctpBurnOnBase amount) := by
  refine (safe_ask rfl).bind fun answer => ?_
  split
  · exact ensures_executeCctpBurn _ _
  · exact .throw

theorem safe_continueFromWithdrawalComplete (amount : Usdc) (initiatedAt : Time) :
    Safe .baseToAlpaca (continueFromWithdrawalComplete config amount initiatedAt) :=
  (safe_lift _).bind fun amountU256 => (safe_executeCctpBurnOnBase amountU256).bind fun receipt =>
    safe_continueFromBridging config amount receipt.tx initiatedAt

theorem ensures_executeBaseToAlpaca (amount : Usdc) :
    (attemptRole .baseToAlpaca).Ensures (fun world => world.stage = .fresh)
      (executeBaseToAlpaca config amount) fun _ _ => True := by
  have lifted : (attemptRole .baseToAlpaca).Ensures (fun world => world.stage = .fresh)
      (Prog.liftExcept (usdcToU256 amount) : Flow Nat) fun _ world => world.stage = .fresh :=
    .lift fun _ _ _ here => here
  refine lifted.bind fun amountU256 => ?_
  refine (ensures_ask rfl (stable_stage .fresh)).bind fun initiatedAt => ?_
  refine (ensures_withdrawFromVault amount amountU256).bind fun _ => ?_
  exact (safe_executeCctpBurnOnBase amountU256).bind fun receipt =>
    safe_continueFromBridging config amount receipt.tx initiatedAt

theorem safe_concludeConversion (correlationId : ClientOrderId) (order : CryptoOrderResponse) :
    Safe direction (concludeConversion correlationId order) := by
  unfold concludeConversion
  split
  · exact (safe_lift _).bind fun conversion => safe_send (.confirmConversion _) rfl
  · exact .throw
  · exact (safe_send (.failConversion _) rfl).bind fun _ => .throw

theorem safe_resumeConverting (correlationId : ClientOrderId) :
    Safe direction (resumeConverting correlationId) := by
  refine (safe_ask rfl).bind fun answer => ?_
  split
  · exact .throw
  · exact (safe_send (.failConversion _) rfl).bind fun _ => .throw
  · split
    · refine (safe_ask rfl).bind fun answer => ?_
      split
      · exact .throw
      · exact safe_concludeConversion correlationId _
    · exact safe_concludeConversion correlationId _

theorem safe_recoverFromBridgingFailed (burnTx : Option TxHash) (initiatedAt : Time) :
    Safe .baseToAlpaca (recoverFromBridgingFailed burnTx initiatedAt) := by
  unfold recoverFromBridgingFailed
  split
  · exact .throw
  · refine (safe_ask rfl).bind fun answer => ?_
    split
    · split <;> exact .throw
    · rename_i attestation
      refine (ensures_askMint attestation).bind fun minted => ?_
      split
      · split <;> exact .throw
      · rename_i receipt
        have lifted : ∀ amount, (attemptRole .baseToAlpaca).Ensures
            (fun world => world.HasMinted .baseToAlpaca receipt.tx)
            (Prog.liftExcept (u256ToUsdc amount) : Flow Usdc)
            fun _ world => world.HasMinted .baseToAlpaca receipt.tx :=
          fun amount => .lift fun _ _ _ mined => mined
        refine ((lifted receipt.amount).weaken (fun world mined => mined receipt rfl)
          fun _ _ ends => ends).bind fun received => ?_
        refine (lifted receipt.fee).bind fun fee => ?_
        refine (ensures_send (.recoverBridging receipt.tx received fee)
          (stable_hasMinted receipt.tx) fun _ mined _ => ⟨rfl, mined⟩).bind fun _ => ?_
        refine (ensures_continueFromBridgedResume received receipt.tx).weaken ?_
          fun _ _ ends => ends
        rintro world ⟨before, -, sane, records⟩
        exact ⟨records.recovered, (records.gained sane rfl).2⟩

theorem safe_resumeDepositInitiatedAtAlpaca (amount : Usdc) (deposit : TransferRef) :
    Safe direction (resumeDepositInitiatedAtAlpaca amount deposit) := by
  unfold resumeDepositInitiatedAtAlpaca
  split
  · exact .throw
  · exact (safe_pollAlpacaDepositAndConfirm _).bind fun _ => safe_executeUsdcToUsdConversion amount

omit [FloatFormat] in
theorem ensures_requireBaseToAlpaca {pre : World → Prop} {side : RebalanceDirection}
    {next : Flow Unit} (h : (attemptRole direction).Ensures pre next fun _ _ => True) :
    (attemptRole direction).Ensures pre (requireBaseToAlpaca side next) fun _ _ => True := by
  unfold requireBaseToAlpaca
  split
  · exact h
  · exact .throw

/-- Every entry of a BaseToAlpaca transfer. -/
theorem ensures_resumeBaseToAlpacaFrom (amount : Usdc) (state : Option UsdcRebalance) :
    (attemptRole .baseToAlpaca).Ensures (World.Loaded state)
      (resumeBaseToAlpacaFrom config amount state) fun _ _ => True := by
  unfold resumeBaseToAlpacaFrom
  split
  · exact (ensures_executeBaseToAlpaca config amount).weaken (fun world loaded => loaded.stage_eq)
      fun _ _ ends => ends
  · rename_i side amount' fromBlock initiatedAt
    refine ensures_requireBaseToAlpaca ?_
    have lifted : (attemptRole .baseToAlpaca).Ensures
        (World.Loaded (some (.withdrawalSubmitting side amount' fromBlock initiatedAt)))
        (Prog.liftExcept (usdcToU256 amount') : Flow Nat)
        fun _ world => world.Submitting fromBlock ∧ world.Fresh :=
      .lift fun _ _ world loaded =>
        ⟨⟨side, amount', initiatedAt, loaded.stored (by simp [UsdcRebalance.stage])⟩, loaded.fresh⟩
    refine lifted.bind fun amountU256 => ?_
    refine (ensures_resumeWithdrawalSubmitting amount' amountU256 fromBlock).bind fun _ => ?_
    exact safe_continueFromWithdrawalComplete config amount' initiatedAt
  · refine ensures_requireBaseToAlpaca ?_
    exact (safe_send (.confirmWithdrawal none) rfl).anywhere.bind fun _ =>
      safe_continueFromWithdrawalComplete config ..
  · exact ensures_requireBaseToAlpaca (safe_continueFromWithdrawalComplete config ..).anywhere
  · rename_i side amount' fromBlock initiatedAt burnAmount pending
    refine ensures_requireBaseToAlpaca ?_
    have lifted : (attemptRole .baseToAlpaca).Ensures
        (World.Loaded (some (.bridgingSubmitting side amount' fromBlock initiatedAt burnAmount
          pending)))
        (Prog.liftExcept (usdcToU256 amount') : Flow Nat) fun _ => World.Intends pending :=
      .lift fun _ _ world loaded => loaded.intends rfl
    refine lifted.bind fun amountU256 => ?_
    refine (ensures_resumeBurn amountU256 fromBlock pending).bind fun receipt => ?_
    exact safe_continueFromBridging config amount' receipt.tx initiatedAt
  · exact ensures_requireBaseToAlpaca (safe_continueFromBridging config ..).anywhere
  · refine ensures_requireBaseToAlpaca ?_
    refine (safe_lift _).anywhere.bind fun _ => ?_
    exact (safe_awaitAttestationAgain ..).bind fun response => safe_mintAndContinue response _
  · exact ensures_requireBaseToAlpaca (safe_continueFromAttested ..).anywhere
  · refine ensures_requireBaseToAlpaca ?_
    refine (ensures_continueFromBridgedResume _ _).weaken (fun world loaded => ?_)
      fun _ _ ends => ends
    exact ⟨⟨_, _, _, _, _, _, loaded.stored (by simp [UsdcRebalance.stage])⟩, loaded.fresh⟩
  · exact ensures_requireBaseToAlpaca (safe_resumeDepositInitiatedAtAlpaca ..).anywhere
  · exact (safe_executeUsdcToUsdConversion _).anywhere
  · exact .pure fun _ _ => trivial
  · exact ensures_requireBaseToAlpaca (safe_resumeConverting _).anywhere
  · exact ensures_requireBaseToAlpaca (.pure fun _ _ => trivial)
  · exact ensures_requireBaseToAlpaca (safe_recoverFromBridgingFailed ..).anywhere
  all_goals first | exact .pure fun _ _ => trivial | exact .throw

theorem safe_resumeBaseToAlpaca (amount : Usdc) :
    Safe .baseToAlpaca (resumeBaseToAlpaca config amount) :=
  ensures_load.bind fun state => ensures_resumeBaseToAlpacaFrom config amount state

end BaseToAlpaca

/-! ## The detached task -/

section Task

variable {task : Nat}

/-- The task is where it left off, unless it is gone. -/
def World.Stands (world : World) (task : Nat) (status : TaskStatus) : Prop :=
  world.status? task = some status ∨ world.status? task = some .lost

theorem stable_stands (status : TaskStatus) :
    (taskRole task).Stable fun world => world.Stands task status := by
  intro before after spares stands
  rcases stands with here | lost
  · exact spares.status status here
  · exact .inr (or_self_iff.mp (spares.status .lost lost))

theorem stable_isBurn (hash : TxHash) :
    (taskRole task).Stable fun world => world.IsBurn task hash :=
  fun _ _ spares burn => burn.extends spares.grows

/-- A task that is asked to do something stands where it left off. -/
theorem World.Alive.stands {world : World} {status : TaskStatus} (alive : world.Alive task)
    (stands : world.Stands task status) : world.status? task = some status := by
  rcases stands with here | lost
  · exact here
  · obtain ⟨current, found, going⟩ := alive
    cases found.symm.trans lost
    cases going

theorem ensures_acceptBurn :
    (taskRole task).Ensures (fun _ => True) (ask (.acceptBurn task))
      fun _ world => world.Stands task .running := by
  refine .perform .true fun before _ _ choice request after handled => ⟨rfl, fun _ => ?_⟩
  obtain ⟨queued, rfl⟩ := handle_acceptBurn handled
  exact .inl (by rw [status_setStatus]; simp [queued])

theorem ensures_clearPendingBurn :
    (taskRole task).Ensures (fun world => world.Stands task .running)
      (ask (.send (.task task) .clearPendingBurn)) fun answer world =>
        answer = .ok () → world.Stands task .cleared := by
  refine .perform (stable_stands .running) fun before stands _ choice answer after handled => ?_
  obtain ⟨alive, sent, sends, leads⟩ := handle_sendFromTask handled
  have running := alive.stands stands
  refine ⟨⟨rfl, running⟩, fun sane accepted => ?_⟩
  subst accepted
  rcases leads with ⟨rfl, refused⟩ | ⟨-, -, rfl⟩
  · obtain ⟨error, other⟩ := refused rfl
    cases other
  · refine .inl ?_
    rw [status_setStatus, if_pos rfl]
    obtain ⟨stream, rfl⟩ := send_frame sends
    exact Option.map_eq_some_iff.mpr ⟨_, running, rfl⟩

theorem ensures_submitBurn (request : BurnRequest) :
    (taskRole task).Ensures (fun world => world.Stands task .cleared)
      (ask (.submitBurn task request)) fun answer world =>
        ∀ hash, answer = .ok hash → world.IsBurn task hash := by
  refine .perform (stable_stands .cleared) fun before stands _ choice answer after handled => ?_
  obtain ⟨alive, leads⟩ := handle_submitBurn handled
  refine ⟨⟨rfl, alive.stands stands⟩, fun _ hash sent => ?_⟩
  subst sent
  rcases leads with ⟨-, _, refused⟩ | ⟨rfl, places⟩
  · cases refused
  · rw [places hash rfl]
    exact ⟨_, List.getElem?_concat_length, rfl⟩

theorem ensures_recordPendingBurn (hash : TxHash) (attempts : Nat) :
    (taskRole task).Ensures (fun world => world.IsBurn task hash)
      (recordPendingBurn task hash attempts) fun recorded world => world.IsBurn task recorded := by
  induction attempts with
  | zero => exact .throw
  | succ attempts ih =>
      have asked : (taskRole task).Ensures (fun world => world.IsBurn task hash)
          (ask (.send (.task task) (.recordPendingBurn hash)))
          fun _ world => world.IsBurn task hash := by
        refine .perform (stable_isBurn hash) fun before burn sane choice answer after handled => ?_
        refine ⟨⟨rfl, burn⟩, fun _ => ?_⟩
        have fits : TaskFits task (.send (.task task) (.recordPendingBurn hash)) before :=
          ⟨rfl, burn⟩
        obtain ⟨rests, -⟩ := task_meets sane fits handled
        exact burn.extends rests.grows
      refine asked.bind fun answer => ?_
      split
      · exact .pure fun _ burn => burn
      · exact ih

theorem ensures_burnTask :
    (taskRole task).Ensures (fun _ => True) (burnTask task) fun _ _ => True := by
  refine ensures_acceptBurn.bind fun request => ?_
  have submitted : (taskRole task).Ensures (fun world => world.Stands task .running)
      (submitAndRecord task request) fun hash world => world.IsBurn task hash := by
    refine ensures_clearPendingBurn.bind fun cleared => ?_
    have lifted : (taskRole task).Ensures
        (fun world => cleared = .ok () → world.Stands task .cleared)
        (Prog.liftExcept (cleared.mapError .aggregate) : Flow Unit)
        fun _ world => world.Stands task .cleared := by
      refine .lift fun value ok world stands => ?_
      cases cleared with
      | error error => cases ok
      | ok => exact stands rfl
    refine lifted.bind fun _ => (ensures_submitBurn request).bind fun answer => ?_
    split
    · exact (ensures_recordPendingBurn _ _).weaken (fun _ burn => burn _ rfl) fun _ _ ends => ends
    · exact .throw
    · exact .throw
  refine submitted.capture.bind fun result => ?_
  refine .perform ?_ fun before burn _ choice answer after handled => ⟨⟨rfl, burn⟩, fun _ => trivial⟩
  intro before after spares burn hash reported
  exact (burn hash reported).extends spares.grows

end Task

/-! ## All schedules -/

section Schedules

variable [FloatFormat] (config : Config)

theorem ensures_program (label : Label) :
    (role direction label).Ensures (fun world => (system config direction).canStart label world)
      ((system config direction).program label) fun _ _ => True := by
  cases label with
  | attempt amount =>
      cases direction
      · exact (safe_resumeAlpacaToBase config amount).anywhere
      · exact (safe_resumeBaseToAlpaca config amount).anywhere
  | burn task => exact ensures_burnTask.weaken (fun _ _ => trivial) fun _ _ ends => ends

/-- What runs side by side leaves each other alone. -/
theorem roles_meet {first second : Label} {op : Op} {before after : World}
    (apart : (system config direction).exclusive first second = false) (sane : Sane before)
    (performs : (role direction first).Performs op before after) :
    (role direction second).rely before after := by
  obtain ⟨fits, choice, answer, handled⟩ := performs
  cases first with
  | attempt amount =>
      cases second with
      | attempt => cases apart
      | burn task => exact attempt_spares task sane fits handled
  | burn task =>
      obtain ⟨rests, spares⟩ := task_meets sane fits handled
      cases second with
      | attempt => exact rests
      | burn other => exact spares other (Ne.symm (of_decide_eq_false apart))

theorem system_compatible :
    (system config direction).Compatible Sane (fun _ _ _ => True)
      (fun label => (role direction label).rely) (fun label => (role direction label).Performs)
      (fun _ => returning fun _ _ => True) := by
  refine System.compatible_of_roles (system config direction) (role direction) ?_
    (ensures_program config) ?_ ?_
  · intro first second
    cases first <;> cases second <;> simp [system, eq_comm]
  · intro first second op before after apart sane performs
    exact roles_meet config apart sane performs
  · intro change before after sane changed
    refine ⟨environment_keeps sane changed, fun label => ?_⟩
    obtain ⟨rests, spares⟩ := environment_meets changed
    cases label with
    | attempt => exact rests
    | burn task => exact spares task

/-- A property of worlds that fitting operations and the environment preserve
holds after every schedule whose steps meet the condition. -/
theorem run_keeps {further : World → Prop} {permits : System.Permits Op World Label}
    (initially : further World.empty)
    (operation : ∀ label op choice before answer after, Sane before → Sane after →
      permits label op before → (role direction label).fit op before →
      handle choice op before = some (answer, after) → further before → further after)
    (environment : ∀ change before after, Sane before → Sane after →
      environment change before = some after → further before → further after)
    {schedule : List (Act Choice Label Env)}
    {final : Process.Config Op Op.Ret UsdcTransferError Unit World Label}
    (meets : (system config direction).MeetsAll permits ⟨World.empty, []⟩ schedule)
    (ran : (system config direction).run ⟨World.empty, []⟩ schedule = some final) :
    further final.shared := by
  refine System.Sound.run_invariant (system_compatible config) ?_ environment
    (.initial Sane.empty) initially meets ran
  intro label op choice before answer after sane sane' allowed performs handled holds
  exact operation label op choice before answer after sane sane' allowed performs.1 handled holds

end Schedules

end Liquidity.Transfer
