import Liquidity.Transfer.Discipline

/-!
# Every operation fits

Both directions, program by program. A command that was accepted says where the
rebalance stands, so most programs need nothing of the world they start in. The
exceptions make an irreversible call at the stage they find: these ask for the
call to be due, or for no burn to be on its way.
-/

namespace Liquidity.Transfer

open EventSourcing Process UsdcRebalance

/-- The commands that an attempt may send anywhere. -/
def isPlain : UsdcRebalanceCommand → Bool
  | .initiateConversion direction _ _ => direction = .alpacaToBase
  | .beginWithdrawal .. | .initiate .. | .initiateBridging _ | .recordPendingBurn _
  | .clearPendingBurn | .confirmBridging .. | .recoverBridging .. => false
  | _ => true

/-! ## Assertions of an attempt -/

section Stable

variable {direction : RebalanceDirection}

/-- What depends on the stage and on the attempt only. -/
theorem stable_of (assertion : Stage → Attempt → Prop) :
    (attemptRole direction).Stable fun world => assertion world.stage world.attempt := by
  intro before after rests holds
  rw [rests.stage_eq, rests.attempt]
  exact holds

theorem stable_gained : (attemptRole direction).Stable World.Gained :=
  stable_of fun stage attempt =>
    stageOf attempt.loaded < stage ∧ ∀ effect ∈ attempt.effects, effect.stage < stage

theorem stable_due (effect : Effect) : (attemptRole direction).Stable fun world => world.Due effect :=
  stable_of fun stage attempt => stage = effect.stage ∧
    (∀ effect ∈ attempt.effects, effect.stage < stage) ∧ effect.Entitled attempt

theorem stable_stage (stage : Stage) : (attemptRole direction).Stable fun world => world.stage = stage :=
  stable_of fun present _ => present = stage

/-- What is stored without a pending burn stays stored. -/
theorem Rests.stored {before after : World} (rests : Rests before after) {entity : UsdcRebalance}
    (stored : before.entity? = some entity) (other : entity.stage ≠ .bridgingSubmitting) :
    after.entity? = some entity :=
  eq_some_of_core rests.core stored other

theorem stable_submitting (fromBlock : Nat) :
    (attemptRole direction).Stable fun world => world.Submitting fromBlock := by
  rintro before after rests ⟨direction, amount, initiatedAt, stored⟩
  exact ⟨direction, amount, initiatedAt, rests.stored stored (by simp [UsdcRebalance.stage])⟩

theorem stable_bridged (received : Usdc) (mintTx : TxHash) :
    (attemptRole direction).Stable fun world => world.Bridged received mintTx := by
  rintro before after rests ⟨direction, amount, fee, burnTx, initiatedAt, mintedAt, stored⟩
  exact ⟨direction, amount, fee, burnTx, initiatedAt, mintedAt,
    rests.stored stored (by simp [UsdcRebalance.stage])⟩

theorem stable_burned (hash : TxHash) :
    (attemptRole direction).Stable fun world => world.Burned hash :=
  fun _ _ rests burned => burned.extends rests.grows

theorem stable_mined (chain : Chain) (hash : TxHash) (block : Nat) :
    (attemptRole direction).Stable fun world => world.minedIn chain hash = some block :=
  fun _ _ rests mined => World.minedIn_extends mined rests.grows

theorem stable_head (chain : Chain) (block : Nat) :
    (attemptRole direction).Stable fun world => block ≤ world.head chain :=
  fun _ _ rests reached => reached.trans (rests.head chain)

end Stable

/-! ## One operation of an attempt -/

section Operations

variable {direction : RebalanceDirection} {pre : World → Prop}

theorem fits_of_reads {op : Op} (reads : op.reads = true) (world : World) :
    AttemptFits direction op world := by
  cases op with
  | load | send | broadcast | findRecentWithdrawal | findRecentUsdcTransfer | spawnBurn
  | acceptBurn | submitBurn | finishBurn | initiateWithdrawal | convertUsdcUsd => cases reads
  | _ => trivial

/-- A question leaves the world as it is, and the answer is about that world. -/
theorem ensures_read {op : Op} (reads : op.reads = true) (stable : (attemptRole direction).Stable pre) :
    (attemptRole direction).Ensures pre (ask op) fun answer world =>
      pre world ∧ ∃ choice, handle choice op world = some (answer, world) := by
  refine .perform stable fun before holds _ choice answer after handled => ?_
  obtain rfl := handle_reads reads handled
  exact ⟨fits_of_reads reads _, fun _ => ⟨holds, choice, handled⟩⟩

/-- A question whose answer does not matter. -/
theorem ensures_ask {op : Op} (reads : op.reads = true) (stable : (attemptRole direction).Stable pre) :
    (attemptRole direction).Ensures pre (ask op) fun _ world => pre world :=
  (ensures_read reads stable).weaken (fun _ holds => holds) fun _ _ ends => ends.1

/-- A command, and what it is if it was accepted. -/
theorem ensures_send (command : UsdcRebalanceCommand) (stable : (attemptRole direction).Stable pre)
    (fits : ∀ world, pre world → Sane world →
      issued world.entity? command = true ∧ CommandFits direction world command) :
    (attemptRole direction).Ensures pre (send command) fun _ after =>
      ∃ before, pre before ∧ Sane before ∧ before.Records command after := by
  have asked : (attemptRole direction).Ensures pre (ask (.send .attempt command))
      fun answer after => answer = .ok () →
        ∃ before, pre before ∧ Sane before ∧ before.Records command after := by
    refine .perform stable fun before holds sane choice answer after handled => ?_
    have fit := fits before holds sane
    refine ⟨fit, fun _ accepted => ?_⟩
    subst accepted
    rcases send_cases sane.emits fit.1 (Option.some.inj handled) with
      ⟨-, ⟨_, refused⟩ | ⟨rfl, -⟩⟩ | records
    · cases refused
    · exact fit.2.elim
    · exact ⟨before, holds, sane, records⟩
  refine asked.bind fun answer => .lift fun value ok after leads => ?_
  cases answer with
  | error error => cases ok
  | ok => exact leads rfl

theorem ensures_plain (command : UsdcRebalanceCommand) (plain : isPlain command = true) :
    (attemptRole direction).Ensures (fun _ => True) (send command) fun _ after =>
      ∃ before, Sane before ∧ before.Records command after := by
  refine (ensures_send command .true fun world _ _ => ?_).weaken (fun _ holds => holds)
    fun _ _ ⟨before, _, leads⟩ => ⟨before, leads⟩
  cases command <;> first | exact ⟨rfl, trivial⟩ | exact ⟨plain, trivial⟩ | cases plain

/-- A program that asks for nothing and says nothing about its result. -/
abbrev Safe (direction : RebalanceDirection) {α : Type} (program : Flow α) : Prop :=
  (attemptRole direction).Ensures (fun _ => True) program fun _ _ => True

theorem safe_send (command : UsdcRebalanceCommand) (plain : isPlain command = true) :
    Safe direction (send command) :=
  (ensures_plain command plain).weaken (fun _ holds => holds) fun _ _ _ => trivial

theorem safe_ask {op : Op} (reads : op.reads = true) : Safe direction (ask op) :=
  ensures_ask reads .true

theorem safe_lift {α : Type} (result : Except UsdcTransferError α) :
    Safe direction (Prog.liftExcept result) :=
  .lift fun _ _ _ _ => trivial

theorem safe_pure {α : Type} (value : α) : Safe direction (pure value) :=
  .pure fun _ _ => trivial

/-- A safe program is safe whatever holds. -/
theorem Safe.anywhere {α : Type} {program : Flow α} (safe : Safe direction program) :
    (attemptRole direction).Ensures pre program fun _ _ => True :=
  safe.weaken (fun _ _ => trivial) fun _ _ ends => ends

/-- An irreversible call that is due. -/
theorem ensures_effect (op : Op) (effect : Effect) (is : op.effect? = some effect)
    (stable : (attemptRole direction).Stable pre)
    (fits : ∀ world, pre world → AttemptFits direction op world) :
    (attemptRole direction).Ensures pre (ask op) fun _ after => after.stage = effect.stage := by
  refine .perform stable fun before holds _ choice answer after handled => ?_
  have fit := fits before holds
  refine ⟨fit, fun _ => ?_⟩
  have here := (fit.due is).1
  rcases handle_effect is handled with rfl | effected
  · exact here
  · obtain ⟨stream, -⟩ := effected.frame is
    rw [World.stage, entity_eq_of_stream stream]
    exact here

end Operations

/-! ## Where commands lead -/

section Leads

variable {before after : World}

/-- A command that is not about a pending burn brings the rebalance to a new stage. -/
theorem World.Records.gained {command : UsdcRebalanceCommand}
    (records : before.Records command after) (sane : Sane before)
    (other : command.aboutPendingBurn = false) : after.Gained := by
  have attempt := records.frame.2.2.1
  obtain ⟨event, next, advances, announces, -, leads⟩ := records
  have later : before.stage < after.stage := by
    rw [World.stage, World.stage, leads]
    exact advances.stage_lt (announces.about.trans other)
  refine ⟨?_, ?_⟩
  · rw [attempt]
    exact sane.loaded.trans_lt later
  · intro effect made
    rw [attempt] at made
    exact (sane.effects effect made).trans_lt later

theorem World.Records.submitting {direction : RebalanceDirection} {amount : Usdc} {fromBlock : Nat}
    (records : before.Records (.beginWithdrawal direction amount fromBlock) after) :
    after.Submitting fromBlock := by
  obtain ⟨event, next, advances, ⟨time, rfl⟩, -, leads⟩ := records
  generalize before.entity? = state at advances
  cases advances <;> exact ⟨_, _, _, leads⟩

theorem World.Records.bridged {mintTx : TxHash} {received fee : Usdc}
    (records : before.Records (.confirmBridging mintTx received fee) after) :
    after.Bridged received mintTx := by
  obtain ⟨event, next, advances, ⟨time, rfl⟩, -, leads⟩ := records
  generalize before.entity? = state at advances
  cases advances
  exact ⟨_, _, _, _, _, _, leads⟩

theorem World.Records.recovered {mintTx : TxHash} {received fee : Usdc}
    (records : before.Records (.recoverBridging mintTx received fee) after) :
    after.Bridged received mintTx := by
  obtain ⟨event, next, advances, ⟨time, rfl⟩, -, leads⟩ := records
  generalize before.entity? = state at advances
  cases advances
  exact ⟨_, _, _, _, _, _, leads⟩

/-- The first command of an AlpacaToBase transfer. -/
theorem World.Records.converting {amount : Usdc} {orderId : ClientOrderId}
    (records : before.Records (.initiateConversion .alpacaToBase amount orderId) after) :
    after.stage = .converting := by
  obtain ⟨event, next, advances, ⟨time, rfl⟩, -, leads⟩ := records
  rw [World.stage, leads]
  generalize before.entity? = state at advances
  cases advances
  rfl

/-- The command that begins the closing conversion. -/
theorem World.Records.settling {amount : Usdc} {orderId : ClientOrderId}
    (records : before.Records (.initiatePostDepositConversion orderId amount) after) :
    after.stage = .settling := by
  obtain ⟨event, next, advances, ⟨time, rfl⟩, -, leads⟩ := records
  rw [World.stage, leads]
  generalize before.entity? = state at advances
  cases advances
  rfl

theorem World.Records.converted {conversion : ConversionAmounts}
    (records : before.Records (.confirmConversion conversion) after)
    (opening : before.stage = .converting) : after.stage = .converted := by
  obtain ⟨event, next, advances, ⟨direction, time, rfl⟩, -, leads⟩ := records
  rw [World.stage, leads]
  rw [World.stage] at opening
  generalize before.entity? = state at advances opening
  cases advances
  cases direction
  · rfl
  · cases opening

/-- The intent to burn is recorded before the first task is spawned. -/
theorem World.Records.bridging {fromBlock : Nat} {burnAmount : Option Usdc} (sane : Sane before)
    (records : before.Records (.beginBridging fromBlock burnAmount) after) :
    Stage.bridgingSubmitting ≤ after.stage ∧ after.tasks.length = 0 := by
  have tasks := records.frame.2.1
  obtain ⟨event, next, advances, ⟨time, rfl⟩, -, leads⟩ := records
  have early : before.stage < .bridgingSubmitting ∧ next.stage = .bridgingSubmitting := by
    rw [World.stage]
    generalize before.entity? = state at advances
    cases advances
    exact ⟨of_decide_eq_true rfl, rfl⟩
  refine ⟨?_, ?_⟩
  · rw [World.stage, leads]
    exact early.2.ge
  · rw [tasks]
    exact sane.idle early.1

end Leads

/-! ## Burning -/

section Burn

variable {direction : RebalanceDirection}

/-- The last task reported this burn. -/
def World.Reported (world : World) (hash : TxHash) : Prop :=
  ∃ task, world.tasks.length = task + 1 ∧ world.status? task = some (.finished (.ok hash))

/-- A burn may be submitted. -/
def World.MayBurn (world : World) : Prop :=
  Stage.bridgingSubmitting ≤ world.stage ∧ world.Vacant

theorem stable_reported (hash : TxHash) :
    (attemptRole direction).Stable fun world => world.Reported hash := by
  rintro before after rests ⟨task, last, finished⟩
  exact ⟨task, rests.tasks.trans last, rests.finished task _ finished⟩

theorem stable_submitted (stage : Stage) :
    (attemptRole direction).Stable fun world => stage ≤ world.stage :=
  stable_of fun present _ => stage ≤ present

theorem stable_mayBurn : (attemptRole direction).Stable World.MayBurn := by
  rintro before after rests ⟨here, vacant⟩
  refine ⟨rests.stage_eq ▸ here, ?_⟩
  rcases vacant with none | ⟨task, hash, last, finished, reverted⟩ | ⟨hash, loaded, reverted, fresh⟩
  · exact .inl (rests.tasks.trans none)
  · exact .inr (.inl ⟨task, hash, rests.tasks.trans last, rests.finished task _ finished,
      reverted.extends rests.grows⟩)
  · refine .inr (.inr ⟨hash, ?_, reverted.extends rests.grows, ?_⟩)
    · rw [rests.attempt]
      exact loaded
    · rw [rests.tasks, rests.attempt]
      exact fresh

theorem ensures_submitAndRecordBurn (request : BurnRequest) :
    (attemptRole direction).Ensures World.MayBurn (submitAndRecordBurn request) fun hash world =>
      Stage.bridgingSubmitting ≤ world.stage ∧ world.Reported hash := by
  have spawn : (attemptRole direction).Ensures World.MayBurn (ask (.spawnBurn request))
      fun task world => Stage.bridgingSubmitting ≤ world.stage ∧ world.tasks.length = task + 1 := by
    refine .perform stable_mayBurn fun before may _ choice task after handled => ?_
    refine ⟨may, fun _ => ?_⟩
    cases handled
    exact ⟨may.1, by simp⟩
  refine spawn.bind fun task => ?_
  have stable : (attemptRole direction).Stable fun world =>
      Stage.bridgingSubmitting ≤ world.stage ∧ world.tasks.length = task + 1 :=
    (stable_submitted _).and fun _ _ rests last => rests.tasks.trans last
  refine (ensures_read rfl stable).bind fun answer => ?_
  split
  · refine .lift fun hash reported world ⟨⟨here, last⟩, choice, handled⟩ => ?_
    subst reported
    exact ⟨here, task, last, handle_joinBurn handled⟩
  · exact .throw

/-- What an attempt learns from waiting for a burn. -/
theorem ensures_confirmBurn {hash : TxHash} {pre : World → Prop}
    (stable : (attemptRole direction).Stable pre) :
    (attemptRole direction).Ensures pre (ask (.confirmBurn hash)) fun answer world =>
      Sane world ∧ pre world ∧ (answer = .ok () → world.Succeeded hash) ∧
        ∀ error, answer = .error error → error.isRevert = true → world.Reverted hash := by
  refine .perform stable fun before holds sane choice answer after handled => ?_
  refine ⟨trivial, fun _ => ?_⟩
  obtain rfl := handle_reads rfl handled
  refine ⟨sane, holds, ?_⟩
  simp only [handle] at handled
  split at handled
  · split at handled
    case h_1 block found =>
      cases handled
      exact ⟨fun _ => ⟨block, found⟩, by simp⟩
    case h_2 block found =>
      cases handled
      exact ⟨by simp, fun _ _ _ => ⟨block, found⟩⟩
    case h_3 => cases handled
  · split at handled
    case isTrue => cases handled
    case isFalse other =>
      cases handled
      refine ⟨by simp, fun error same reverted => ?_⟩
      cases same
      exact absurd (of_decide_eq_true reverted) other

/-- A burn that was awaited successfully is the reported one. -/
theorem World.Reported.burned {world : World} {hash : TxHash} (reported : world.Reported hash)
    (sane : Sane world) (succeeded : world.Succeeded hash) : world.Burned hash := by
  obtain ⟨task, -, finished⟩ := reported
  exact .intro (sane.reported task hash finished) succeeded

theorem ensures_burnRecordingPending (request : BurnRequest) :
    (attemptRole direction).Ensures World.MayBurn (burnRecordingPending request) fun receipt world =>
      world.Burned receipt.tx := by
  have stable : ∀ hash, (attemptRole direction).Stable fun world =>
      Stage.bridgingSubmitting ≤ world.stage ∧ world.Reported hash :=
    fun hash => (stable_submitted _).and (stable_reported hash)
  refine (ensures_submitAndRecordBurn request).bind fun first => ?_
  refine (ensures_confirmBurn (stable first)).bind fun answer => ?_
  split
  · refine .pure fun world ⟨sane, ⟨_, reported⟩, succeeded, _⟩ => ?_
    exact reported.burned sane (succeeded rfl)
  · rename_i error
    split
    case isFalse => exact .throw
    case isTrue reverts =>
      -- The reverted burn moved nothing, so the way is free for a second one.
      refine ((ensures_submitAndRecordBurn request).weaken ?_ fun _ _ ends => ends).bind
        fun second => ?_
      · rintro world ⟨-, ⟨here, task, last, finished⟩, -, reverted⟩
        exact ⟨here, .inr (.inl ⟨task, first, last, finished, reverted error rfl reverts⟩)⟩
      · refine (ensures_confirmBurn (stable second)).bind fun answer => ?_
        split
        · refine .pure fun world ⟨sane, ⟨_, reported⟩, succeeded, _⟩ => ?_
          exact reported.burned sane (succeeded rfl)
        · split <;> exact .throw

theorem ensures_recordCctpBurn (receipt : BurnReceipt) :
    (attemptRole direction).Ensures (fun world => world.Burned receipt.tx) (recordCctpBurn receipt)
      fun _ _ => True := by
  refine (ensures_send (.initiateBridging receipt.tx) (stable_burned receipt.tx)
    fun world burned _ => ?_).bind fun _ => ?_
  · exact ⟨rfl, burned⟩
  · exact .pure fun _ _ => trivial

/-- What an attempt that loaded the intent to burn starts from. -/
structure World.Intends (pending : Option TxHash) (world : World) : Prop where
  here : Stage.bridgingSubmitting ≤ world.stage
  loaded : pendingBurnOf world.attempt.loaded = pending
  tasks : world.tasks.length = world.attempt.tasks
  burn : ∀ hash, pending = some hash → ∃ task, world.IsBurn task hash

theorem stable_intends (pending : Option TxHash) :
    (attemptRole direction).Stable (World.Intends pending) := by
  intro before after rests intends
  refine ⟨rests.stage_eq ▸ intends.here, ?_, ?_, fun hash recorded => ?_⟩
  · rw [rests.attempt]
    exact intends.loaded
  · rw [rests.tasks, rests.attempt]
    exact intends.tasks
  · obtain ⟨task, burn⟩ := intends.burn hash recorded
    exact ⟨task, burn.extends rests.grows⟩

/-- The recorded burn is adopted, or it was mined reverted, or there is none. -/
theorem ensures_checkPendingBurn (amount : Nat) (pending : Option TxHash) :
    (attemptRole direction).Ensures (World.Intends pending) (checkPendingBurn amount pending)
      fun found world => (∀ receipt, found = some receipt → world.Burned receipt.tx) ∧
        (found = none → world.Intends pending ∧ ∀ hash, pending = some hash → world.Reverted hash) := by
  cases pending with
  | none => exact .pure fun world intends => ⟨by simp, fun _ => ⟨intends, by simp⟩⟩
  | some burnTx =>
      refine (ensures_read rfl (stable_intends _)).bind fun answer => ?_
      split
      · exact .throw
      · refine (ensures_confirmBurn (stable_intends (some burnTx))).weaken
          (fun _ holds => holds.1) (fun _ _ ends => ends) |>.bind fun confirmed => ?_
        split
        · refine .pure fun world ⟨_, intends, succeeded, _⟩ => ⟨?_, by simp⟩
          rintro receipt ⟨⟩
          obtain ⟨task, burn⟩ := intends.burn burnTx rfl
          exact .intro burn (succeeded rfl)
        · exact .throw
      · exact .throw
      · refine .pure fun world ⟨intends, choice, handled⟩ => ⟨by simp, fun _ => ⟨intends, ?_⟩⟩
        rintro hash ⟨⟩
        have status := reply_ok handled
        simp only [Option.some.injEq, World.burnStatus] at status
        split at status
        · cases status
        · exact ⟨_, by assumption⟩
        · split at status <;> cases status
      · exact .throw

/-- A burn that the scan finds is one that was mined successfully. -/
theorem burned_of_findRecentBurn {world : World} {chain : Chain} {amount fromBlock : Nat}
    {hash : TxHash} (found : world.findRecentBurn chain amount fromBlock = some (some hash)) :
    world.Burned hash := by
  obtain ⟨result, scans, shape⟩ := Option.map_eq_some_iff.mp found
  obtain ⟨⟨hash', tx⟩, rfl, rfl⟩ := Option.map_eq_some_iff.mp shape
  obtain ⟨listed, block, mined, wanted⟩ := scan_some scans
  cases kind : tx.kind with
  | burn task => exact ⟨tx, task, block, listed, kind, mined⟩
  | _ => simp [kind] at wanted

theorem ensures_resumeBurn (amount fromBlock : Nat) (pending : Option TxHash) :
    (attemptRole direction).Ensures (World.Intends pending)
      (resumeBurn direction amount fromBlock pending) fun _ _ => True := by
  refine (ensures_checkPendingBurn amount pending).bind fun found => ?_
  split
  · rename_i adopted
    refine (ensures_recordCctpBurn adopted).weaken (fun world ends => ?_) fun _ _ _ => trivial
    exact ends.1 adopted rfl
  · have stable : (attemptRole direction).Stable fun world => World.Intends pending world ∧
        ∀ hash, pending = some hash → world.Reverted hash :=
      (stable_intends pending).and fun before after rests reverted hash recorded =>
        (reverted hash recorded).extends rests.grows
    refine ((ensures_read rfl stable).weaken (fun world ends => ends.2 rfl)
      fun _ _ ends => ends).bind fun answer => ?_
    split
    · rename_i existing
      refine (ensures_recordCctpBurn ⟨existing, amount⟩).weaken ?_ fun _ _ _ => trivial
      rintro world ⟨-, choice, handled⟩
      exact burned_of_findRecentBurn (reply_ok handled)
    · split
      case isFalse => exact .throw
      case isTrue recorded =>
        refine ((ensures_burnRecordingPending _).weaken ?_ fun _ _ ends => ends).bind
          fun receipt => ensures_recordCctpBurn receipt
        rintro world ⟨⟨intends, reverted⟩, -⟩
        obtain ⟨hash, same⟩ := Option.isSome_iff_exists.mp recorded
        exact ⟨intends.here,
          .inr (.inr ⟨hash, intends.loaded.trans same, reverted hash same, intends.tasks⟩)⟩
    · split <;> exact .throw

theorem ensures_executeCctpBurn [FloatFormat] (amount fromBlock : Nat) :
    (attemptRole direction).Ensures (fun _ => True) (executeCctpBurn direction amount fromBlock)
      fun _ _ => True := by
  refine (safe_lift _).bind fun burnAmount => ?_
  refine (ensures_plain (.beginBridging fromBlock (some burnAmount)) rfl).bind fun _ => ?_
  refine ((ensures_burnRecordingPending _).weaken ?_ fun _ _ ends => ends).bind
    fun receipt => ensures_recordCctpBurn receipt
  rintro world ⟨before, sane, records⟩
  obtain ⟨here, none⟩ := records.bridging sane
  exact ⟨here, .inl none⟩

end Burn

/-! ## Attestation -/

section Attestation

variable {direction : RebalanceDirection}

theorem safe_pollCctpAttestation (burnTx : TxHash) : Safe direction (pollCctpAttestation burnTx) := by
  refine (safe_ask rfl).bind fun answer => ?_
  split
  · exact safe_pure _
  · split
    · exact safe_pure _
    · exact (safe_send (.failBridging _) rfl).bind fun _ => .throw

theorem safe_recordAttestation (response : AttestationResponse) :
    Safe direction (recordAttestation direction response) := by
  refine (safe_ask rfl).bind fun answer => ?_
  split
  · exact safe_send (.receiveAttestation ..) rfl
  · exact .throw

theorem safe_awaitAttestation (config : Config) (burnTx : TxHash) :
    Safe direction (awaitAttestation config direction burnTx) := by
  refine (safe_pollCctpAttestation burnTx).bind fun polled => ?_
  split
  · exact (safe_recordAttestation _).bind fun _ => safe_pure _
  · have timedOut : Safe direction (recordAttestationTimeout config) :=
      (safe_ask rfl).bind fun now => safe_send (.timeoutAttestation _) rfl
    exact timedOut.bind fun _ => .throw

theorem safe_awaitAttestationAgain (burnTx : TxHash) (retryDeadlineAt : Time) :
    Safe direction (awaitAttestationAgain direction burnTx retryDeadlineAt) := by
  have polled : Safe direction (pollCctpAttestationUntilDeadline burnTx retryDeadlineAt) := by
    refine (safe_ask rfl).bind fun now => ?_
    split
    · exact (safe_send (.failBridging _) rfl).bind fun _ => .throw
    · exact safe_pollCctpAttestation burnTx
  refine polled.bind fun response => ?_
  split
  · exact (safe_recordAttestation _).bind fun _ => safe_pure _
  · exact .throw

theorem safe_attestedAttestationResponse (burnTx : TxHash) (attestation : List UInt8)
    (cctpNonce : Nat) (message : Option (List UInt8)) :
    Safe direction (attestedAttestationResponse burnTx attestation cctpNonce message) := by
  unfold attestedAttestationResponse
  split
  · refine (safe_pollCctpAttestation burnTx).bind fun polled => ?_
    split
    · exact safe_pure _
    · exact .throw
  · split
    · exact (safe_send (.failBridging _) rfl).bind fun _ => .throw
    · split
      · exact (safe_send (.failBridging _) rfl).bind fun _ => .throw
      · exact safe_pure _

end Attestation

/-! ## Mint -/

section Mint

variable [FloatFormat] {direction : RebalanceDirection}

/-- The rebalance has just minted. -/
def World.Minted (world : World) (received : Usdc) : Prop :=
  world.Gained ∧ ∃ mintTx, world.Bridged received mintTx

/-- A transaction that was mined on the chain a transfer mints on. -/
def World.HasMinted (world : World) (direction : RebalanceDirection) (mintTx : TxHash) : Prop :=
  ∃ block, world.minedIn (mintChain direction) mintTx = some block

omit [FloatFormat] in
theorem stable_hasMinted (mintTx : TxHash) :
    (attemptRole direction).Stable fun world => world.HasMinted direction mintTx := by
  rintro before after rests ⟨block, mined⟩
  exact ⟨block, stable_mined _ _ _ before after rests mined⟩

theorem ensures_confirmMint (receipt : MintReceipt) :
    (attemptRole direction).Ensures (fun world => world.HasMinted direction receipt.tx)
      (confirmMint receipt)
      fun received world => world.Gained ∧ world.Bridged received receipt.tx := by
  have lifted : ∀ amount, (attemptRole direction).Ensures
      (fun world => world.HasMinted direction receipt.tx)
      (Prog.liftExcept (u256ToUsdc amount) : Flow Usdc)
      fun _ world => world.HasMinted direction receipt.tx :=
    fun amount => .lift fun _ _ _ mined => mined
  refine (lifted receipt.amount).bind fun received => (lifted receipt.fee).bind fun fee => ?_
  refine (ensures_send (.confirmBridging receipt.tx received fee) (stable_hasMinted receipt.tx)
    fun _ mined _ => ⟨rfl, mined⟩).bind fun _ => ?_
  refine .pure fun world ⟨before, _, sane, records⟩ => ?_
  exact ⟨records.gained sane rfl, records.bridged⟩

omit [FloatFormat] in
theorem minedIn_of_mintReceipt {world : World} {chain : Chain} {hash : TxHash}
    {receipt : MintReceipt} (found : world.mintReceipt chain hash = some receipt) :
    ∃ block, world.minedIn chain receipt.tx = some block := by
  unfold World.mintReceipt at found
  split at found
  case h_2 => cases found
  case h_1 listed =>
    split at found <;> cases found
    rename_i block same
    exact ⟨block, by simp [World.minedIn, listed, same]⟩

omit [FloatFormat] in
theorem minedIn_of_findRecentMint {world : World} {chain : Chain} {fromBlock : Nat}
    {receipt : MintReceipt} (found : world.findRecentMint chain fromBlock = some receipt) :
    ∃ block, world.minedIn chain receipt.tx = some block := by
  obtain ⟨⟨hash, tx⟩, scanned, shape⟩ := Option.bind_eq_some_iff.mp found
  obtain ⟨listed, block, mined, wanted⟩ := lastMined_some scanned
  obtain ⟨kind, chain', amount, status⟩ := tx
  cases kind with
  | mint fee =>
      cases shape
      exact ⟨block, by simp_all [World.minedIn]⟩
  | _ => cases shape

omit [FloatFormat] in
/-- What an attempt learns from minting. -/
theorem ensures_askMint (attestation : AttestationResponse) :
    (attemptRole direction).Ensures (fun _ => True) (ask (.mint (mintChain direction) attestation))
      fun answer world => ∀ receipt, answer = .ok receipt → world.HasMinted direction receipt.tx := by
  refine (ensures_read rfl .true).weaken (fun _ holds => holds) ?_
  rintro answer world ⟨-, choice, handled⟩ receipt rfl
  exact minedIn_of_mintReceipt (reply_ok handled)

theorem ensures_mintWith (failure : String) (attestation : AttestationResponse)
    (initiatedAt : Time) :
    (attemptRole direction).Ensures (fun _ => True)
      (mintWith direction failure attestation initiatedAt) fun received world =>
        world.Minted received := by
  refine (ensures_askMint attestation).bind fun answer => ?_
  split
  · rename_i receipt
    exact (ensures_confirmMint receipt).weaken (fun world mined => mined receipt rfl)
      fun _ _ ends => ⟨ends.1, receipt.tx, ends.2⟩
  · split
    · exact .throw
    · exact (safe_send (.failBridging _) rfl).anywhere.bind fun _ => .throw

omit [FloatFormat] in
theorem ensures_findSubmittedMint (mintScanFromBlock : Option Nat) (initiatedAt : Time) :
    (attemptRole direction).Ensures (fun _ => True)
      (findSubmittedMint direction mintScanFromBlock initiatedAt) fun found world =>
        ∀ receipt, found = some receipt → world.HasMinted direction receipt.tx := by
  unfold findSubmittedMint
  split
  · exact .throw
  · refine (ensures_read rfl .true).bind fun answer => ?_
    split
    · refine .pure ?_
      rintro world ⟨-, choice, handled⟩ receipt rfl
      exact minedIn_of_findRecentMint (Option.some.inj (reply_ok handled))
    · split <;> exact .throw

end Mint

/-! ## Conversion -/

section Conversion

variable [FloatFormat] {direction : RebalanceDirection}

/-- The intent to convert has just been recorded. -/
def World.AboutToConvert (world : World) (conversion : ConversionDirection) : Prop :=
  world.stage = (Effect.conversion conversion).stage ∧ world.Gained

theorem ensures_placeConversion (amount : Usdc) (conversion : ConversionDirection)
    (correlationId : ClientOrderId) :
    (attemptRole direction).Ensures (fun world => world.AboutToConvert conversion)
      (placeConversion amount conversion correlationId) fun _ world =>
        conversion = .usdToUsdc → world.stage = .converted ∧ world.Gained := by
  have place : (attemptRole direction).Ensures (fun world => world.AboutToConvert conversion)
      (ask (.convertUsdcUsd amount conversion correlationId))
      fun _ world => world.stage = (Effect.conversion conversion).stage :=
    ensures_effect _ (.conversion conversion) rfl ((stable_stage _).and stable_gained)
      fun world ⟨here, gained⟩ => gained.due here
  refine place.bind fun answer => ?_
  split
  · exact (safe_send (.failConversion _) rfl).anywhere.bind fun _ => .throw
  · rename_i order
    have recorded : (attemptRole direction).Ensures
        (fun world => world.stage = (Effect.conversion conversion).stage)
        (recordConversionOrFail correlationId order conversion)
        fun _ world => world.stage = (Effect.conversion conversion).stage := by
      unfold recordConversionOrFail
      split
      · exact .pure fun _ here => here
      · exact (safe_send (.failConversion _) rfl).anywhere.bind fun _ => .throw
    refine recorded.bind fun amounts => ?_
    refine (ensures_send (.confirmConversion amounts) (stable_stage _)
      fun _ _ _ => ⟨rfl, trivial⟩).bind fun _ => ?_
    refine .pure fun world ⟨before, here, sane, records⟩ opening => ?_
    subst opening
    exact ⟨records.converted here, records.gained sane rfl⟩

end Conversion

end Liquidity.Transfer
