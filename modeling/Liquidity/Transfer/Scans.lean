import Liquidity.Transfer.Once

/-!
# What an empty scan proves

A scan starts at a block that was recorded before the call it looks for was
made, and it finds every such call that was mined. So an empty scan leaves one
possibility: a call that is still in the mempool.
-/

namespace Liquidity.Transfer

open EventSourcing Process UsdcRebalance

/-- Where the calls of a BaseToAlpaca transfer are on their chains. -/
structure Dated (world : World) : Prop where
  blocks : ∀ tx ∈ world.ledger, ∀ block,
    tx.status = .succeeded block ∨ tx.status = .reverted block → block ≤ world.head tx.chain
  chains : ∀ tx ∈ world.ledger, ∀ call, tx.kind = .call call → tx.chain = call.chain
  /-- A vault withdrawal is mined past the recorded block. -/
  submitting : ∀ fromBlock, world.Submitting fromBlock → fromBlock ≤ world.head .base ∧
    ∀ tx ∈ world.ledger, tx.kind = .call .withdraw → ∀ block, tx.status = .succeeded block →
      fromBlock < block
  /-- A transfer to Alpaca is mined after the mint it passes on. -/
  bridged : ∀ received mintTx, world.Bridged received mintTx →
    ∃ mintBlock, world.minedIn .ethereum mintTx = some mintBlock ∧
      ∀ tx ∈ world.ledger, tx.kind = .call .transfer → usdcToU256 received = .ok tx.amount ∧
        ∀ block, tx.status = .succeeded block → mintBlock ≤ block

theorem Dated.empty : Dated World.empty where
  blocks := by simp [World.empty]
  chains := by simp [World.empty]
  submitting := by
    rintro fromBlock ⟨_, _, _, stored⟩
    simp [World.empty, World.entity?, Lifecycle.entity?] at stored
  bridged := by
    rintro received mintTx ⟨_, _, _, _, _, _, stored⟩
    simp [World.empty, World.entity?, Lifecycle.entity?] at stored

theorem World.minedIn_mem {world : World} {chain : Chain} {hash : TxHash} {block : Nat}
    (mined : world.minedIn chain hash = some block) :
    ∃ tx ∈ world.ledger, tx.chain = chain ∧
      (tx.status = .succeeded block ∨ tx.status = .reverted block) := by
  unfold World.minedIn at mined
  split at mined
  case h_3 => cases mined
  case h_1 found =>
    split at mined <;> cases mined
    exact ⟨_, List.mem_of_getElem? found, by assumption, .inl rfl⟩
  case h_2 found =>
    split at mined <;> cases mined
    exact ⟨_, List.mem_of_getElem? found, by assumption, .inr rfl⟩

section Frame

variable {before after : World}

/-- A change that leaves the stream: everything new in the ledger is dated. -/
theorem Dated.frame (dated : Dated before) (stream : after.stream = before.stream)
    (grows : before.Extends after) (head : ∀ chain, before.head chain ≤ after.head chain)
    (fresh : ∀ tx ∈ after.ledger, tx ∈ before.ledger ∨
      (∀ call, tx.kind = .call call → tx.chain = call.chain) ∧
      (∀ block, tx.status = .succeeded block ∨ tx.status = .reverted block →
        block ≤ after.head tx.chain ∧ before.head tx.chain < block) ∧
      ∀ received mintTx, before.Bridged received mintTx → tx.kind = .call .transfer →
        usdcToU256 received = .ok tx.amount) : Dated after where
  blocks := by
    intro tx listed block mined
    rcases fresh tx listed with old | ⟨-, recent, -⟩
    · exact (dated.blocks tx old block mined).trans (head tx.chain)
    · exact (recent block mined).1
  chains := by
    intro tx listed
    rcases fresh tx listed with old | ⟨chains, -, -⟩
    · exact dated.chains tx old
    · exact chains
  submitting := by
    rintro fromBlock ⟨direction, amount, initiatedAt, stored⟩
    rw [entity_eq_of_stream stream] at stored
    obtain ⟨early, past⟩ := dated.submitting fromBlock ⟨direction, amount, initiatedAt, stored⟩
    refine ⟨early.trans (head .base), fun tx listed kind block mined => ?_⟩
    rcases fresh tx listed with old | ⟨chains, recent, -⟩
    · exact past tx old kind block mined
    · have later := (recent block (.inl mined)).2
      rw [chains _ kind] at later
      exact early.trans_lt later
  bridged := by
    rintro received mintTx ⟨direction, amount, fee, burnTx, initiatedAt, mintedAt, stored⟩
    rw [entity_eq_of_stream stream] at stored
    have was : before.Bridged received mintTx :=
      ⟨direction, amount, fee, burnTx, initiatedAt, mintedAt, stored⟩
    obtain ⟨mintBlock, minted, past⟩ := dated.bridged received mintTx was
    refine ⟨mintBlock, World.minedIn_extends minted grows, fun tx listed kind => ?_⟩
    rcases fresh tx listed with old | ⟨chains, recent, amounts⟩
    · exact past tx old kind
    · refine ⟨amounts received mintTx was kind, fun block mined => ?_⟩
      obtain ⟨mint, member, onChain, mintMined⟩ := World.minedIn_mem minted
      have early := dated.blocks mint member mintBlock mintMined
      have later := (recent block (.inl mined)).2
      rw [chains _ kind] at later
      rw [onChain] at early
      exact early.trans later.le

/-- A change that leaves the ledger, and the rebalance up to a pending burn. -/
theorem Dated.same (dated : Dated before) (ledger : after.ledger = before.ledger)
    (head : after.head = before.head)
    (submitting : ∀ fromBlock, after.Submitting fromBlock → before.Submitting fromBlock)
    (bridged : ∀ received mintTx, after.Bridged received mintTx →
      before.Bridged received mintTx) : Dated after where
  blocks := by
    rw [ledger, head]
    exact dated.blocks
  chains := by
    rw [ledger]
    exact dated.chains
  submitting := by
    intro fromBlock stored
    rw [ledger, head]
    exact dated.submitting fromBlock (submitting fromBlock stored)
  bridged := by
    intro received mintTx stored
    obtain ⟨mintBlock, minted, past⟩ := dated.bridged received mintTx (bridged received mintTx stored)
    rw [ledger]
    exact ⟨mintBlock, World.minedIn_extends minted (.of_eq ledger), past⟩

theorem Dated.append (dated : Dated before) {tx : Tx} (stream : after.stream = before.stream)
    (ledger : after.ledger = before.ledger ++ [tx])
    (head : ∀ chain, before.head chain ≤ after.head chain)
    (chains : ∀ call, tx.kind = .call call → tx.chain = call.chain)
    (recent : ∀ block, tx.status = .succeeded block ∨ tx.status = .reverted block →
      block ≤ after.head tx.chain ∧ before.head tx.chain < block)
    (amounts : ∀ received mintTx, before.Bridged received mintTx → tx.kind = .call .transfer →
      usdcToU256 received = .ok tx.amount) : Dated after := by
  refine dated.frame stream (.of_append ledger) head fun listed member => ?_
  rw [ledger] at member
  rcases List.mem_append.mp member with old | isNew
  · exact .inl old
  · obtain rfl := List.mem_singleton.mp isNew
    exact .inr ⟨chains, recent, amounts⟩

theorem Dated.environment {change : Env} (dated : Dated before)
    (changed : environment change before = some after) : Dated after := by
  have grows := environment_extends changed
  have head := environment_head changed
  cases change with
  | mine hash success =>
      simp only [Transfer.environment] at changed
      split at changed
      case h_2 => cases changed
      case h_1 tx found =>
        split at changed
        case isFalse => cases changed
        case isTrue pending =>
          cases changed
          have listed := List.mem_of_getElem? found
          refine dated.frame rfl grows head fun other member => ?_
          rcases List.mem_or_eq_of_mem_set member with old | rfl
          · exact .inl old
          · refine .inr ⟨dated.chains tx listed, fun block mined => ?_, fun received mintTx stored kind =>
              ?_⟩
            · have is : block = before.head tx.chain + 1 := by
                cases success <;> simp at mined <;> exact mined.symm
              subst is
              simp
            · obtain ⟨_, -, past⟩ := dated.bridged received mintTx stored
              exact (past tx listed kind).1
  | advance | tick =>
      cases changed
      exact dated.frame rfl grows head fun tx listed => .inl listed
  | landMint chain amount fee =>
      cases changed
      refine dated.append rfl rfl head (by simp) ?_ (by simp)
      intro block mined
      obtain rfl : before.head chain + 1 = block := by simpa using mined
      simp [World.land]
  | landPayout amount =>
      cases changed
      refine dated.append rfl rfl head (by simp) ?_ (by simp)
      intro block mined
      obtain rfl : before.head .ethereum + 1 = block := by simpa using mined
      simp [World.land]
  | lose =>
      simp only [Transfer.environment] at changed
      split at changed <;> cases changed
      exact dated.frame rfl grows head fun tx listed => .inl listed

theorem Dated.ofTask {choice : Choice} {task : Nat} {op : Op} {answer : op.Ret}
    (dated : Dated before) (sane : Sane before) (fits : TaskFits task op before)
    (handled : handle choice op before = some (answer, after)) : Dated after := by
  obtain ⟨rests, -⟩ := task_meets sane fits handled
  have submitting : ∀ fromBlock, after.Submitting fromBlock → before.Submitting fromBlock := by
    rintro fromBlock ⟨direction, amount, initiatedAt, stored⟩
    exact ⟨direction, amount, initiatedAt,
      eq_some_of_core rests.core.symm stored (by simp [UsdcRebalance.stage])⟩
  have bridged : ∀ received mintTx, after.Bridged received mintTx →
      before.Bridged received mintTx := by
    rintro received mintTx ⟨direction, amount, fee, burnTx, initiatedAt, mintedAt, stored⟩
    exact ⟨direction, amount, fee, burnTx, initiatedAt, mintedAt,
      eq_some_of_core rests.core.symm stored (by simp [UsdcRebalance.stage])⟩
  cases op with
  | acceptBurn =>
      obtain ⟨-, rfl⟩ := handle_acceptBurn handled
      exact dated.same rfl rfl submitting bridged
  | submitBurn =>
      obtain ⟨-, ⟨rfl, -⟩ | ⟨rfl, -⟩⟩ := handle_submitBurn handled
      · exact dated
      · exact dated.append rfl rfl (fun _ => le_refl _) (by simp) (by simp) (by simp)
  | finishBurn =>
      obtain ⟨-, rfl⟩ := handle_finishBurn handled
      exact dated.same rfl rfl submitting bridged
  | send author command =>
      cases author with
      | attempt => exact fits.elim
      | task other =>
          obtain ⟨-, sent, sends, leads⟩ := handle_sendFromTask handled
          obtain ⟨stream, rfl⟩ := send_frame sends
          rcases leads with ⟨rfl, -⟩ | ⟨-, -, rfl⟩
          · exact dated.same rfl rfl submitting bridged
          · exact dated.same rfl rfl submitting bridged
  | _ => exact fits.elim

end Frame

/-! ## What an attempt does -/

section Attempts

variable {choice : Choice} {before after : World}

theorem Advances.submitting {state : Option UsdcRebalance} {event : UsdcRebalanceEvent}
    {direction : RebalanceDirection} {amount : Usdc} {fromBlock : Nat} {initiatedAt : Time}
    (advances : Advances state event (.withdrawalSubmitting direction amount fromBlock initiatedAt)) :
    (∃ time, event = .withdrawalSubmitting direction amount fromBlock time) ∧
      stageOf state < .withdrawalSubmitting := by
  have early := advances.stage_lt
  cases advances <;> exact ⟨⟨_, rfl⟩, early rfl⟩

theorem Advances.bridged {state : Option UsdcRebalance} {event : UsdcRebalanceEvent}
    {direction : RebalanceDirection} {amount received fee : Usdc} {burnTx mintTx : TxHash}
    {initiatedAt mintedAt : Time}
    (advances : Advances state event
      (.bridged direction amount received fee burnTx mintTx initiatedAt mintedAt)) :
    ((∃ fee time, event = .bridged mintTx received fee time) ∨
      ∃ fee time, event = .bridgingCompletionRecovered mintTx received fee time) ∧
      stageOf state < .bridged := by
  have early := advances.stage_lt
  cases advances
  · exact ⟨.inl ⟨_, _, rfl⟩, early rfl⟩
  · exact ⟨.inr ⟨_, _, rfl⟩, early rfl⟩

/-- The stage of a call is entered before the call was ever made. -/
theorem Dated.records (dated : Dated before) (withdraw : Once (.call .withdraw) before)
    (transfer : Once (.call .transfer) before) {command : UsdcRebalanceCommand}
    (records : before.Records command after)
    (fits : CommandFits .baseToAlpaca before command) : Dated after := by
  obtain ⟨ledger, -, -, head⟩ := records.frame
  obtain ⟨event, next, advances, announces, -, leads⟩ := records
  refine ⟨by rw [ledger, head]; exact dated.blocks, by rw [ledger]; exact dated.chains, ?_, ?_⟩
  · rintro fromBlock ⟨direction, amount, initiatedAt, stored⟩
    cases leads.symm.trans stored
    obtain ⟨⟨time, rfl⟩, early⟩ := Advances.submitting advances
    have untried := withdraw.untried early
    rw [ledger, head]
    refine ⟨?_, fun tx listed kind => absurd kind (untried tx listed)⟩
    cases command <;> simp only [UsdcRebalanceCommand.Announces, reduceCtorEq, exists_false,
      UsdcRebalanceEvent.withdrawalSubmitting.injEq] at announces
    obtain ⟨_, -, -, rfl, -⟩ := announces
    exact fits
  · rintro received mintTx ⟨direction, amount, fee, burnTx, initiatedAt, mintedAt, stored⟩
    cases leads.symm.trans stored
    obtain ⟨shape, early⟩ := Advances.bridged advances
    have untried := transfer.untried early
    have minted : ∃ block, before.minedIn .ethereum mintTx = some block := by
      rcases shape with ⟨_, _, rfl⟩ | ⟨_, _, rfl⟩
      · cases command <;> simp only [UsdcRebalanceCommand.Announces, reduceCtorEq, exists_false,
          UsdcRebalanceEvent.bridged.injEq] at announces
        obtain ⟨_, rfl, -⟩ := announces
        exact fits
      · cases command <;> simp only [UsdcRebalanceCommand.Announces, reduceCtorEq, exists_false,
          UsdcRebalanceEvent.bridgingCompletionRecovered.injEq] at announces
        obtain ⟨_, rfl, -⟩ := announces
        exact fits
    obtain ⟨block, mined⟩ := minted
    rw [ledger]
    exact ⟨block, World.minedIn_extends mined (.of_eq ledger),
      fun tx listed kind => absurd kind (untried tx listed)⟩

/-- The transfer an attempt sends is what was minted. -/
theorem AttemptFits.amount {amount : Nat} {received : Usdc} {mintTx : TxHash}
    (fits : AttemptFits .baseToAlpaca (.broadcast .transfer amount) before)
    (stored : before.Bridged received mintTx) : usdcToU256 received = .ok amount := by
  obtain ⟨-, received', mintTx', ⟨_, _, _, _, _, _, stored'⟩, converts⟩ := fits
  obtain ⟨_, _, _, _, _, _, stored⟩ := stored
  cases stored.symm.trans stored'
  exact converts

theorem Dated.ofAttempt {op : Op} {answer : op.Ret} (dated : Dated before) (sane : Sane before)
    (withdraw : Once (.call .withdraw) before) (transfer : Once (.call .transfer) before)
    (fits : AttemptFits .baseToAlpaca op before)
    (handled : handle choice op before = some (answer, after)) : Dated after := by
  have unchanged : after.ledger = before.ledger → after.head = before.head →
      after.stream = before.stream → Dated after := by
    intro ledger head stream
    have same := entity_eq_of_stream stream
    refine dated.same ledger head ?_ ?_
    · simp only [World.Submitting, same]
      exact fun _ stored => stored
    · simp only [World.Bridged, same]
      exact fun _ _ stored => stored
  cases reads : op.reads with
  | true => exact handle_reads reads handled ▸ dated
  | false =>
      cases op with
      | load =>
          rcases handle_load handled with ⟨rfl, -⟩ | ⟨-, rfl⟩
          · exact dated
          · exact unchanged rfl rfl rfl
      | send author command =>
          cases author with
          | task => exact fits.elim
          | attempt =>
              rcases send_cases sane.emits fits.1 (Option.some.inj handled) with ⟨rfl, -⟩ | records
              · exact dated
              · exact dated.records withdraw transfer records fits.2
      | broadcast call amount =>
          rcases handle_effect rfl handled with rfl | effected
          · exact dated
          · cases effected
            refine dated.append rfl rfl (fun _ => le_refl _) ?_ (by simp) ?_
            · intro other is
              rw [TxKind.call.inj is]
            · intro received mintTx stored is
              cases is
              exact fits.amount stored
      | initiateWithdrawal | convertUsdcUsd =>
          rcases handle_effect rfl handled with rfl | effected
          · exact dated
          · cases effected
            exact unchanged rfl rfl rfl
      | findRecentWithdrawal =>
          rcases handle_findRecentWithdrawal handled with ⟨rfl, -⟩ | ⟨rfl, -⟩
          · exact dated
          · exact unchanged rfl rfl rfl
      | findRecentUsdcTransfer =>
          rcases handle_findRecentUsdcTransfer handled with ⟨rfl, -⟩ | ⟨rfl, -⟩
          · exact dated
          · exact unchanged rfl rfl rfl
      | spawnBurn =>
          cases handled
          exact unchanged rfl rfl rfl
      | acceptBurn | submitBurn | finishBurn => exact fits.elim
      | _ => cases reads

/-- Whoever looks for an earlier call finds none of them in the mempool. -/
def ScansSettled (op : Op) (world : World) : Prop :=
  ∀ call, op.seeks = some call → ∀ tx ∈ world.ledger, tx.kind = .call call → tx.status ≠ .pending

theorem made_eq_zero {world : World} {call : Call}
    (settled : ∀ tx ∈ world.ledger, tx.kind = .call call → tx.status ≠ .pending)
    (unmined : ∀ tx ∈ world.ledger, tx.kind = .call call → ∀ block, tx.status ≠ .succeeded block)
    (reverts : ∀ block, call.counts (.reverted block) = false) : world.made (.call call) = 0 := by
  refine List.countP_eq_zero.mpr fun tx listed counts => ?_
  obtain ⟨kind, counts⟩ : tx.kind = .call call ∧ call.counts tx.status = true := by
    simpa using counts
  cases status : tx.status with
  | pending => exact settled tx listed kind status
  | succeeded block => exact unmined tx listed kind block status
  | reverted block =>
      rw [status, reverts] at counts
      cases counts

/-- An empty scan means that no such call was made, if none is on its way. -/
theorem Dated.absent {op : Op} {answer : op.Ret} {call : Call} (dated : Dated before)
    (settled : ScansSettled op before) (fits : AttemptFits .baseToAlpaca op before)
    (handled : handle choice op before = some (answer, after)) (seeks : op.seeks = some call)
    (noted : after = before.noteAbsent call) : before.made (.call call) = 0 := by
  have changed : before ≠ before.noteAbsent call := by
    intro same
    have lengths : before.attempt.absent.length = before.attempt.absent.length + 1 := by
      conv_lhs => rw [same]
      simp [World.noteAbsent]
    omega
  subst noted
  cases op with
  | findRecentWithdrawal fromBlock =>
      cases seeks
      rcases handle_findRecentWithdrawal handled with ⟨same, -⟩ | ⟨-, scanned⟩
      · exact absurd same.symm changed
      · refine made_eq_zero (settled _ rfl) (fun tx listed kind block mined => ?_) fun _ => rfl
        have missed := scan_none scanned listed mined
        have past := (dated.submitting fromBlock fits).2 tx listed kind block mined
        simp [dated.chains tx listed _ kind, Call.chain, kind] at missed
        omega
  | findRecentUsdcTransfer amount fromBlock =>
      cases seeks
      rcases handle_findRecentUsdcTransfer handled with ⟨same, -⟩ | ⟨-, scanned⟩
      · exact absurd same.symm changed
      · refine made_eq_zero (settled _ rfl) (fun tx listed kind block mined => ?_) fun _ => rfl
        have missed := scan_none scanned listed mined
        obtain ⟨received, mintTx, stored, converts, minted⟩ := fits
        obtain ⟨mintBlock, minted', past⟩ := dated.bridged received mintTx stored
        cases minted.symm.trans minted'
        obtain ⟨converts', later⟩ := past tx listed kind
        have same : tx.amount = amount := Except.ok.inj (converts'.symm.trans converts)
        have bound := later block mined
        simp [dated.chains tx listed _ kind, Call.chain, kind, same] at missed
        omega
  | _ => cases seeks

end Attempts

end Liquidity.Transfer
