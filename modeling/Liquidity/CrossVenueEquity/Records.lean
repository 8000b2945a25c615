import Liquidity.CrossVenueEquity.Stages
import Liquidity.EquityRedemption.Moves

/-!
# What the operations do

The ledger only grows, and a mined transaction stays mined. Whatever a command handler
or a program adds to a stream about a transaction is true of the ledger: what it says
was submitted was, and what it says was done has succeeded.
-/

namespace Liquidity.CrossVenueEquity

open EventSourcing Process

/-! ## The ledger -/

namespace World

/-- The ledger has gone on: nothing is forgotten, and what was mined stays so. -/
def Extends (before after : World) : Prop :=
  ∀ hash tx, before.tx? hash = some tx → ∃ later, after.tx? hash = some later ∧
    later.toSubmission = tx.toSubmission ∧ (tx.status ≠ .pending → later.status = tx.status)

/-- The hash is that of a transaction of the leg. -/
def SubmittedAs (world : World) (leg : Leg) (hash : TxHash) : Prop :=
  ∃ tx, world.tx? hash = some tx ∧ tx.leg = leg

theorem Extends.of_eq {before after : World} (same : after.ledger = before.ledger) :
    before.Extends after := by
  intro hash tx found
  refine ⟨tx, ?_, rfl, fun _ => rfl⟩
  cases hash with
  | zero => cases found
  | succ place => simpa only [tx?, same] using found

theorem Extends.trans {first second third : World} (one : first.Extends second)
    (two : second.Extends third) : first.Extends third := by
  intro hash tx found
  obtain ⟨later, found', same, kept⟩ := one hash tx found
  obtain ⟨last, found'', same', kept'⟩ := two hash later found'
  refine ⟨last, found'', same'.trans same, fun mined => ?_⟩
  have still := kept mined
  rw [kept' (by rwa [still]), still]

theorem Extends.submit (world : World) (submission : Submission) :
    world.Extends (world.submit submission) := by
  intro hash tx found
  refine ⟨tx, ?_, rfl, fun _ => rfl⟩
  cases hash with
  | zero => cases found
  | succ place =>
      exact (List.getElem?_append_left (List.getElem?_eq_some_iff.mp found).1).trans found

theorem tx?_nextHash (world : World) (submission : Submission) :
    (world.submit submission).tx? world.nextHash = some ⟨submission, .pending⟩ :=
  List.getElem?_concat_length

theorem Extends.environment {change : Env} {before after : World}
    (changed : CrossVenueEquity.environment change before = some after) : before.Extends after := by
  cases change with
  | mine mined success =>
      simp only [CrossVenueEquity.environment] at changed
      split at changed
      case h_2 => cases changed
      case h_1 submission pending =>
          cases changed
          cases mined with
          | zero => cases pending
          | succ place =>
              intro hash tx found
              cases hash with
              | zero => cases found
              | succ place' =>
                  by_cases own : place' = place
                  · subst own
                    cases pending.symm.trans found
                    have inside := (List.getElem?_eq_some_iff.mp pending).1
                    exact ⟨_, List.getElem?_set_self inside, rfl, fun not => absurd rfl not⟩
                  · refine ⟨tx, ?_, rfl, fun _ => rfl⟩
                    exact (List.getElem?_set_ne (Ne.symm own)).trans found

/-- And it has succeeded. -/
def SucceededAs (world : World) (leg : Leg) (hash : TxHash) : Prop :=
  ∃ tx, world.tx? hash = some tx ∧ tx.leg = leg ∧ tx.status = .succeeded

theorem SubmittedAs.extends {before after : World} {leg : Leg} {hash : TxHash}
    (submitted : before.SubmittedAs leg hash) (extends' : before.Extends after) :
    after.SubmittedAs leg hash := by
  obtain ⟨tx, found, own⟩ := submitted
  obtain ⟨later, found', same, -⟩ := extends' hash tx found
  exact ⟨later, found', by rw [same, own]⟩

theorem SucceededAs.extends {before after : World} {leg : Leg} {hash : TxHash}
    (succeeded : before.SucceededAs leg hash) (extends' : before.Extends after) :
    after.SucceededAs leg hash := by
  obtain ⟨tx, found, own, success⟩ := succeeded
  obtain ⟨later, found', same, kept⟩ := extends' hash tx found
  exact ⟨later, found', by rw [same, own], (kept (by rw [success]; decide)).trans success⟩

theorem SubmittedAs.succeeded {world : World} {leg : Leg} {hash : TxHash}
    (submitted : world.SubmittedAs leg hash) (succeeded : world.succeeded hash = true) :
    world.SucceededAs leg hash := by
  obtain ⟨tx, found, own⟩ := submitted
  rw [World.succeeded, found, Option.any_some, decide_eq_true_eq] at succeeded
  exact ⟨tx, found, own, succeeded⟩

end World

/-! ## Truthful streams -/

/-- The transaction that a redemption's event says has done its work. -/
def redemptionDone : EquityRedemptionEvent → Option (Leg × TxHash)
  | .withdrawnFromRaindex _ _ _ _ _ raindexWithdrawTx _ _ => some (.withdraw, raindexWithdrawTx)
  | .tokensUnwrapped _ _ unwrapTxHash _ _ _ => some (.unwrap, unwrapTxHash)
  | _ => none

/-- The same of a deposit. One that is taken for made has the zero hash. -/
def depositDone (vaultDepositTxHash : TxHash) : Option (Leg × TxHash) :=
  if vaultDepositTxHash = 0 then none else some (.deposit, vaultDepositTxHash)

def mintDone : TokenizedEquityMintEvent → Option (Leg × TxHash)
  | .tokensWrapped wrapTxHash _ _ _ => some (.wrap, wrapTxHash)
  | .depositedIntoRaindex vaultDepositTxHash _ => depositDone vaultDepositTxHash
  | _ => none

/-- A command that has a failed mint recovered. -/
def isRecovery : TokenizedEquityMintCommand → Bool
  | .recoverProviderCompletion .. => true
  | _ => false

namespace World

/-- What is said of transactions is so. -/
def Bears (world : World) (record done : Option (Leg × TxHash)) : Prop :=
  (∀ leg hash, record = some (leg, hash) → world.SubmittedAs leg hash) ∧
    ∀ leg hash, done = some (leg, hash) → world.SucceededAs leg hash

theorem Bears.none (world : World) : world.Bears none none := by
  constructor <;> intro leg hash said <;> cases said

theorem Bears.extends {before after : World} {record done : Option (Leg × TxHash)}
    (bears : before.Bears record done) (extends' : before.Extends after) :
    after.Bears record done :=
  ⟨fun leg hash said => (bears.1 leg hash said).extends extends',
    fun leg hash said => (bears.2 leg hash said).extends extends'⟩

/-- The streams are runs of commands, and what they say of transactions is so. -/
structure Truthful (world : World) : Prop where
  redemption : ∀ event ∈ world.redemption,
    world.Bears (redemptionRecord event) (redemptionDone event)
  mint : ∀ event ∈ world.mint, world.Bears (mintRecord event) (mintDone event)
  redemptionRun : ∃ commands, world.redemption = EquityRedemption.aggregate.sends commands []
  mintRun : ∃ commands, (∀ step ∈ commands, isRecovery step.2 = false) ∧
    world.mint = TokenizedEquityMint.aggregate.sends commands []

theorem Truthful.empty : empty.Truthful where
  redemption := by
    intro event member
    cases member
  mint := by
    intro event member
    cases member
  redemptionRun := ⟨[], rfl⟩
  mintRun := ⟨[], List.forall_mem_nil _, rfl⟩

/-- The ledger goes on by itself. -/
theorem Truthful.extends {before after : World} (truthful : before.Truthful)
    (extends' : before.Extends after) (redemption : after.redemption = before.redemption)
    (mint : after.mint = before.mint) : after.Truthful where
  redemption := by
    rw [redemption]
    exact fun event member => (truthful.redemption event member).extends extends'
  mint := by
    rw [mint]
    exact fun event member => (truthful.mint event member).extends extends'
  redemptionRun := by
    rw [redemption]
    exact truthful.redemptionRun
  mintRun := by
    rw [mint]
    exact truthful.mintRun

/-- The ledger goes on, and the redemption's stream grows by what is true. -/
theorem Truthful.redeemed {before after : World} (truthful : before.Truthful)
    (extends' : before.Extends after) (mint : after.mint = before.mint)
    {context : EquityRedemption.Context} {command : EquityRedemptionCommand}
    {events : List EquityRedemptionEvent}
    (sent : EquityRedemption.aggregate.send context command before.redemption = .ok events)
    (grown : after.redemption = before.redemption ++ events)
    (bears : ∀ event ∈ events, after.Bears (redemptionRecord event) (redemptionDone event)) :
    after.Truthful where
  redemption := by
    intro event member
    rw [grown] at member
    rcases List.mem_append.mp member with old | isNew
    · exact (truthful.redemption event old).extends extends'
    · exact bears event isNew
  mint := by
    rw [mint]
    exact fun event member => (truthful.mint event member).extends extends'
  redemptionRun := by
    obtain ⟨commands, ran⟩ := truthful.redemptionRun
    rw [ran] at sent
    exact ⟨_, by rw [grown, ran, EquityRedemption.aggregate.sends_concat sent]⟩
  mintRun := by
    rw [mint]
    exact truthful.mintRun

/-- A mint's stream grows by what is true. -/
theorem Truthful.minted {before after : World} (truthful : before.Truthful)
    (extends' : before.Extends after) (redemption : after.redemption = before.redemption)
    {context : TokenizedEquityMint.Context} {command : TokenizedEquityMintCommand}
    {events : List TokenizedEquityMintEvent}
    (sent : TokenizedEquityMint.aggregate.send context command before.mint = .ok events)
    (grown : after.mint = before.mint ++ events) (other : isRecovery command = false)
    (bears : ∀ event ∈ events, after.Bears (mintRecord event) (mintDone event)) :
    after.Truthful where
  redemption := by
    rw [redemption]
    exact fun event member => (truthful.redemption event member).extends extends'
  mint := by
    intro event member
    rw [grown] at member
    rcases List.mem_append.mp member with old | isNew
    · exact (truthful.mint event old).extends extends'
    · exact bears event isNew
  redemptionRun := by
    rw [redemption]
    exact truthful.redemptionRun
  mintRun := by
    obtain ⟨commands, known, ran⟩ := truthful.mintRun
    rw [ran] at sent
    refine ⟨commands ++ [(context, command)], ?_,
      by rw [grown, ran, TokenizedEquityMint.aggregate.sends_concat sent]⟩
    intro step member
    rcases List.mem_append.mp member with earlier | last
    · exact known step earlier
    · rw [List.mem_singleton.mp last]
      exact other

end World

/-! ## A redemption's handlers -/

section Handlers

variable {context : EquityRedemption.Context} {command : EquityRedemptionCommand}
variable {entity : EquityRedemption} {submission : Submission}

/-- A handler submits by a command of its leg, in the state that the leg belongs to. -/
theorem submission_cases
    (submits : CrossVenueEquity.submission context command entity = some submission) :
    (submission.leg = .withdraw ∧ command = .submitWithdraw ∨
      submission.leg = .unwrap ∧ command = .submitUnwrap ∨
        submission.leg = .send ∧ command = .sendTokens) ∧
      redemptionRank entity = submission.leg.rank := by
  cases entity <;> simp only [CrossVenueEquity.submission] at submits <;>
    first
    | cases submits
    | (split at submits
       case isFalse => cases submits
       case isTrue chosen =>
          cases submits
          simp [chosen.1, redemptionRank, Leg.rank])

variable {answer : Except String TxHash} {events : List EquityRedemptionEvent}

theorem submitWithdraw_records
    (accepted : entity.transitionSubmitWithdraw (answering context answer) = .ok events) :
    ∃ request pendingAt txHash, entity = .vaultWithdrawPending request pendingAt ∧
      context.hasVaultFor request.token = true ∧ answer = .ok txHash ∧
        events = [.vaultWithdrawSubmitted request.symbol request.quantity request.token
          request.wrappedAmount txHash context.now] := by
  unfold EquityRedemption.transitionSubmitWithdraw at accepted
  split at accepted
  case h_2 => cases accepted
  case h_1 request pendingAt =>
      split at accepted
      case isTrue => cases accepted
      case isFalse vault =>
          split at accepted
          case h_1 => cases accepted
          case h_2 txHash submitted =>
              cases accepted
              have vaulted : context.hasVaultFor request.token = true := by
                simpa [answering] using vault
              exact ⟨request, pendingAt, txHash, rfl, vaulted, submitted, rfl⟩

theorem submitUnwrap_records
    (accepted : entity.transitionSubmitUnwrap (answering context answer) = .ok events) :
    ∃ request txHash, entity = .unwrapPending request ∧
      EquityRedemption.waitForRecordedBlock context request.raindexWithdrawBlock = .ok () ∧
        answer = .ok txHash ∧ events = [.unwrapSubmitted txHash context.now] := by
  unfold EquityRedemption.transitionSubmitUnwrap at accepted
  split at accepted
  case h_2 => cases accepted
  case h_1 request =>
      obtain ⟨⟨⟩, waited, accepted⟩ := bind_eq_ok.mp accepted
      split at accepted
      case h_1 => cases accepted
      case h_2 unwrapTxHash submitted =>
          cases accepted
          exact ⟨request, unwrapTxHash, rfl, waited, submitted, rfl⟩

theorem sendTokens_records
    (accepted : entity.transitionSendTokens (answering context answer) = .ok events) :
    events = [.transferFailed none none context.now] ∨
      ∃ request redemptionWallet txHash, entity = .sendPending request ∧
        context.redemptionWallet = some redemptionWallet ∧
          EquityRedemption.waitForRecordedBlock context request.unwrapBlock = .ok () ∧
            answer = .ok txHash ∧ events = [.tokensSent redemptionWallet txHash context.now] := by
  unfold EquityRedemption.transitionSendTokens at accepted
  split at accepted
  case h_2 => cases accepted
  case h_1 request =>
      split at accepted
      case h_1 =>
          cases accepted
          exact .inl rfl
      case h_2 redemptionWallet configured =>
          obtain ⟨⟨⟩, waited, accepted⟩ := bind_eq_ok.mp accepted
          split at accepted
          case h_1 redemptionTx sent =>
              cases accepted
              exact .inr ⟨request, redemptionWallet, redemptionTx, rfl, configured, waited, sent,
                rfl⟩
          case h_2 =>
              cases accepted
              exact .inl rfl

theorem confirmWithdraw_records
    (accepted : entity.transitionConfirmWithdraw context = .ok events) :
    ∃ request txHash submittedAt actual block, entity =
        .vaultWithdrawSubmitted request txHash submittedAt ∧ context.confirmTxReceipt.isOk ∧
      events = [.withdrawnFromRaindex request.symbol request.quantity request.token
        request.wrappedAmount (some actual) txHash (some block) context.now] := by
  unfold EquityRedemption.transitionConfirmWithdraw at accepted
  split at accepted
  case h_2 => cases accepted
  case h_1 request txHash submittedAt =>
      split at accepted
      case h_1 => cases accepted
      case h_2 receipt confirmed =>
          split at accepted
          case h_1 => cases accepted
          case h_2 block mined =>
              obtain ⟨actual, withdrawn, accepted⟩ := bind_eq_ok.mp accepted
              cases accepted
              exact ⟨request, txHash, submittedAt, actual, block, rfl, by rw [confirmed]; rfl, rfl⟩

theorem confirmUnwrap_records (accepted : entity.transitionConfirmUnwrap context = .ok events) :
    ∃ request unwrapTxHash quantity underlyingToken amount block, entity =
        .unwrapSubmitted request unwrapTxHash ∧ context.confirmUnwrap.isOk ∧
      events = [.tokensUnwrapped quantity underlyingToken unwrapTxHash amount block
        context.now] := by
  unfold EquityRedemption.transitionConfirmUnwrap at accepted
  split at accepted
  case h_2 => cases accepted
  case h_1 request unwrapTxHash =>
      obtain ⟨underlyingToken, looked, accepted⟩ := bind_eq_ok.mp accepted
      obtain ⟨confirmation, confirmed, accepted⟩ := bind_eq_ok.mp accepted
      obtain ⟨quantity, converted, accepted⟩ := bind_eq_ok.mp accepted
      cases accepted
      exact ⟨request, unwrapTxHash, _, _, _, _, rfl, by rw [mapError_eq_ok.mp confirmed]; rfl, rfl⟩

/-- The same answers, with token units converted exactly. -/
def converting (context : EquityRedemption.Context) : EquityRedemption.Context :=
  { context with fromFixedDecimal := fun amount => .ok (amount / 10 ^ 18) }

theorem transition_eq (context : EquityRedemption.Context) (entity : EquityRedemption)
    (command : EquityRedemptionCommand) :
    EquityRedemption.aggregate.transition context entity command =
      entity.transition context command :=
  rfl

/-- Only an unwrap is confirmed in converted units. -/
theorem transition_converting {context : EquityRedemption.Context} {entity : EquityRedemption}
    {command : EquityRedemptionCommand} (other : command ≠ .confirmUnwrap) :
    entity.transition context command = entity.transition (converting context) command := by
  cases command <;> first
    | rfl
    | exact absurd rfl other

/-- An accepted command adds one event and leads on by it. -/
theorem transition_cases (accepted : EquityRedemption.aggregate.transition context entity command =
    .ok events) : ∃ event next, events = [event] ∧
      EquityRedemption.aggregate.evolve entity event = .ok (some next) ∧
        (entity.Moves event next ∨ ∃ request unwrapTxHash done,
          entity = .unwrapSubmitted request unwrapTxHash ∧
            redemptionDone event = some (.unwrap, unwrapTxHash) ∧
              next = .tokensUnwrapped done) := by
  rw [transition_eq] at accepted
  by_cases confirms : command = .confirmUnwrap
  · subst confirms
    obtain ⟨request, unwrapTxHash, _, _, _, _, rfl, -, rfl⟩ := confirmUnwrap_records accepted
    exact ⟨_, _, rfl, rfl, .inr ⟨request, unwrapTxHash, _, rfl, rfl, rfl⟩⟩
  · rw [transition_converting confirms] at accepted
    obtain ⟨event, next, rfl, moves⟩ := EquityRedemption.transition_moves
      (fun _ _ converted => (Except.ok.inj converted).symm) accepted
    exact ⟨event, next, rfl, moves.evolves, .inl moves⟩

/-- Each command takes a redemption that has not ended nearer to its end. -/
theorem rank_lt_of_accepted {next : EquityRedemption} (active : entity.isTerminal = false)
    (accepted : EquityRedemption.aggregate.transition context entity command = .ok events)
    (reached : EquityRedemption.aggregate.replay (.live entity) events = .live next) :
    redemptionRank entity < redemptionRank next := by
  obtain ⟨event, last, rfl, evolved, moves | unwraps⟩ := transition_cases accepted
  · simp only [Aggregate.replay_cons, Aggregate.replay_nil, Aggregate.apply, evolved] at reached
    cases reached
    cases moves with
    | transferFailed early fails =>
        cases entity <;> cases early <;> cases fails <;> simp [redemptionRank]
    | recovered => cases active
    | reconciled => cases active
    | _ => simp [redemptionRank]
  · simp only [Aggregate.replay_cons, Aggregate.replay_nil, Aggregate.apply, evolved] at reached
    cases reached
    obtain ⟨request, unwrapTxHash, done, rfl, -, rfl⟩ := unwraps
    simp [redemptionRank]

/-- No other handler has to do with a transaction. -/
theorem others_record (accepted : entity.transition context command = .ok events)
    (others : command ≠ .submitWithdraw ∧ command ≠ .submitUnwrap ∧ command ≠ .sendTokens ∧
      command ≠ .confirmWithdraw ∧ command ≠ .confirmUnwrap) :
    ∃ event, events = [event] ∧ redemptionRecord event = none ∧ redemptionDone event = none := by
  cases command with
  | redeem => cases accepted
  | submitWithdraw | submitUnwrap | sendTokens | confirmWithdraw | confirmUnwrap => simp at others
  | recoverProviderCompletion =>
      simp only [EquityRedemption.transition] at accepted
      unfold EquityRedemption.transitionRecoverProviderCompletion at accepted
      split at accepted <;> cases accepted
      exact ⟨_, rfl, rfl, rfl⟩
  | reconcile =>
      simp only [EquityRedemption.transition] at accepted
      unfold EquityRedemption.transitionReconcile at accepted
      split at accepted
      case h_1 =>
          split at accepted <;> cases accepted
          exact ⟨_, rfl, rfl, rfl⟩
      all_goals cases accepted
  | _ => cases entity <;> cases accepted <;> exact ⟨_, rfl, rfl, rfl⟩

/-- What a handler records is what it submitted, under the hash it was answered with. -/
theorem handler_records {event : EquityRedemptionEvent} {leg : Leg} {hash : TxHash}
    (accepted : entity.transition (answering context answer) command = .ok events)
    (member : event ∈ events) (record : redemptionRecord event = some (leg, hash)) :
    answer = .ok hash ∧ ∃ submission,
      CrossVenueEquity.submission context command entity = some submission ∧
        submission.leg = leg := by
  cases command with
  | submitWithdraw =>
      obtain ⟨request, pendingAt, txHash, rfl, vault, answered, rfl⟩ :=
        submitWithdraw_records accepted
      obtain rfl := List.mem_singleton.mp member
      cases record
      exact ⟨answered, _, if_pos ⟨rfl, vault⟩, rfl⟩
  | submitUnwrap =>
      obtain ⟨request, txHash, rfl, waited, answered, rfl⟩ := submitUnwrap_records accepted
      obtain rfl := List.mem_singleton.mp member
      cases record
      exact ⟨answered, _, if_pos ⟨rfl, by rw [waited]; rfl⟩, rfl⟩
  | sendTokens =>
      rcases sendTokens_records accepted with rfl | ⟨request, wallet, txHash, rfl, configured,
        waited, answered, rfl⟩
      · obtain rfl := List.mem_singleton.mp member
        cases record
      · obtain rfl := List.mem_singleton.mp member
        cases record
        exact ⟨answered, _, if_pos ⟨rfl, by rw [configured]; rfl, by rw [waited]; rfl⟩, rfl⟩
  | confirmWithdraw =>
      obtain ⟨_, _, _, _, _, -, -, rfl⟩ := confirmWithdraw_records accepted
      obtain rfl := List.mem_singleton.mp member
      cases record
  | confirmUnwrap =>
      obtain ⟨_, _, _, _, _, _, -, -, rfl⟩ := confirmUnwrap_records accepted
      obtain rfl := List.mem_singleton.mp member
      cases record
  | _ =>
      obtain ⟨_, rfl, none, -⟩ := others_record accepted (by simp)
      obtain rfl := List.mem_singleton.mp member
      cases none.symm.trans record

/-- What a handler says was done it was waiting for, and was told of. -/
theorem handler_done {event : EquityRedemptionEvent} {leg : Leg} {hash : TxHash}
    (accepted : entity.transition (answering context answer) command = .ok events)
    (member : event ∈ events) (done : redemptionDone event = some (leg, hash)) :
    redemptionAwaits entity = some (leg, hash) ∧
      confirms context command entity = some hash := by
  cases command with
  | submitWithdraw =>
      obtain ⟨_, _, _, -, -, -, rfl⟩ := submitWithdraw_records accepted
      obtain rfl := List.mem_singleton.mp member
      cases done
  | submitUnwrap =>
      obtain ⟨_, _, -, -, -, rfl⟩ := submitUnwrap_records accepted
      obtain rfl := List.mem_singleton.mp member
      cases done
  | sendTokens =>
      rcases sendTokens_records accepted with rfl | ⟨_, _, _, -, -, -, -, rfl⟩ <;>
        (obtain rfl := List.mem_singleton.mp member; cases done)
  | confirmWithdraw =>
      obtain ⟨request, txHash, submittedAt, _, _, rfl, told, rfl⟩ :=
        confirmWithdraw_records accepted
      obtain rfl := List.mem_singleton.mp member
      cases done
      exact ⟨rfl, if_pos ⟨rfl, told⟩⟩
  | confirmUnwrap =>
      obtain ⟨request, unwrapTxHash, _, _, _, _, rfl, told, rfl⟩ := confirmUnwrap_records accepted
      obtain rfl := List.mem_singleton.mp member
      cases done
      exact ⟨rfl, if_pos ⟨rfl, told⟩⟩
  | _ =>
      obtain ⟨_, rfl, -, none⟩ := others_record accepted (by simp)
      obtain rfl := List.mem_singleton.mp member
      cases none.symm.trans done

end Handlers

end Liquidity.CrossVenueEquity
