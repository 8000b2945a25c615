import Liquidity.CrossVenueEquity.Records

/-!
# What the attempts live by

A redemption's transactions are submitted by its command handlers. A mint's are
submitted by the program, which records their hashes itself. So it takes the program to
see that a mint wraps only what was received, deposits only what was wrapped, and
records nothing but what it submitted and saw mined. While an attempt runs nobody else
touches its stream, and the ledger only goes on.
-/

namespace Liquidity.CrossVenueEquity

open EventSourcing Process

/-! ## Operations -/

/-- The operations of a redemption. -/
def Op.OfRedemption : Op → Prop
  | .loadRedemption | .redemption _ | .vaultTokenForSymbol _ | .pollForRedemption _
  | .pollRedemptionUntilComplete _ => True
  | _ => False

/-- The operations of a mint that leave everything as it is. -/
def Op.Quiet : Op → Prop
  | .loadMint | .lookupUnderlying _ | .lookupDerivative _ | .verifyMintTx .. | .confirmWrap _ _
  | .waitForBlock _ | .vaultIdForToken _ | .confirmTx _ => True
  | _ => False

def commandRecord : TokenizedEquityMintCommand → Option (Leg × TxHash)
  | .submitWrap wrapTxHash => some (.wrap, wrapTxHash)
  | .submitVaultDeposit vaultDepositTxHash => some (.deposit, vaultDepositTxHash)
  | _ => none

def commandDone : TokenizedEquityMintCommand → Option (Leg × TxHash)
  | .wrapTokens wrapTxHash _ _ => some (.wrap, wrapTxHash)
  | .depositToVault vaultDepositTxHash => depositDone vaultDepositTxHash
  | _ => none

/-- What a command says of transactions is so. -/
structure CommandDue (command : TokenizedEquityMintCommand) (world : World) : Prop where
  bears : world.Bears (commandRecord command) (commandDone command)
  other : isRecovery command = false

/-- The operations of a mint, each in its place. -/
def Op.Due (op : Op) (world : World) : Prop :=
  match op with
  | .submitWrap .. => world.ready .wrap
  | .submitDeposit .. => world.ready .deposit
  | .mint command => CommandDue command world
  | other => other.Quiet

section Handle

variable {choice : Choice} {op : Op} {before after : World} {answer : op.Ret}

theorem confirm_told {ε α : Type} {hash : TxHash} {given result : Except ε α}
    (confirmed : confirm before hash given = some (result, after)) :
    after = before ∧ (∀ value, result = .ok value → before.succeeded hash = true) := by
  unfold confirm at confirmed
  split at confirmed
  case isTrue => cases confirmed
  case isFalse told =>
      cases confirmed
      refine ⟨rfl, ?_⟩
      rintro value rfl
      simpa [Except.isOk, Except.toBool] using told

theorem handle_quiet (quiet : op.Quiet) (handled : handle choice op before = some (answer, after)) :
    after = before := by
  cases op with
  | confirmWrap => exact (confirm_told handled).1
  | confirmTx => exact (confirm_told handled).1
  | loadMint | lookupUnderlying | lookupDerivative | verifyMintTx | waitForBlock
  | vaultIdForToken =>
      cases handled
      rfl
  | _ => exact quiet.elim

theorem broadcast_cases (before : World) (choice : Choice) (submission : Submission) :
    (before.broadcast choice submission).2 = before ∨
      (before.broadcast choice submission).2 = before.submit submission := by
  by_cases refused : choice.broadcast = .refused
  · exact .inl (if_pos refused)
  · exact .inr (if_neg refused)

theorem handle_broadcast {submission : Submission} {result : Except ChainError TxHash}
    (sent : some (before.broadcast choice submission) = some (result, after)) :
    after = before ∨ after = before.submit submission := by
  cases sent
  exact broadcast_cases before choice submission

/-- Whoever is given a hash has submitted. -/
theorem broadcast_acknowledged {submission : Submission} {hash : TxHash}
    (sent : some (before.broadcast choice submission) = some (.ok hash, after)) :
    after = before.submit submission ∧ hash = before.nextHash := by
  simp only [World.broadcast, Broadcast.answer, Option.some.injEq, Prod.mk.injEq] at sent
  obtain ⟨answered, rfl⟩ := sent
  split at answered
  case isTrue acknowledged =>
      cases answered
      exact ⟨if_neg (by rw [acknowledged]; decide), rfl⟩
  case isFalse => cases answered

theorem handled_eq (before : World) (choice : Choice) (command : EquityRedemptionCommand) :
    before.handled choice command = before ∨
      ∃ entity submission, before.redemption? = some entity ∧
        CrossVenueEquity.submission choice.redemption command entity = some submission ∧
        before.handled choice command = before.submit submission := by
  unfold World.handled
  split
  case h_1 => exact .inl rfl
  case h_2 => exact .inl rfl
  case h_3 submission found _ =>
      obtain ⟨entity, live, submits⟩ := Option.bind_eq_some_iff.mp found
      refine (broadcast_cases before choice submission).imp id fun sent => ?_
      exact ⟨entity, submission, live, submits, sent⟩

theorem handled_extends (before : World) (choice : Choice) (command : EquityRedemptionCommand) :
    before.Extends (before.handled choice command) ∧
      (before.handled choice command).mint = before.mint := by
  rcases handled_eq before choice command with same | ⟨_, submission, -, -, sent⟩
  · rw [same]
    exact ⟨.of_eq rfl, rfl⟩
  · rw [sent]
    exact ⟨.submit before submission, rfl⟩

theorem execute_cases {Entity Event Command Error Context : Type}
    (aggregate : Aggregate Entity Event Command Error Context) (commit : Commit)
    (context : Context) (command : Command) (stream : List Event) :
    (∃ error, execute aggregate commit context command stream = (.error error, stream)) ∨
      ∃ answer events, commit ≠ .unavailable ∧
        aggregate.send context command stream = .ok events ∧
          execute aggregate commit context command stream = (answer, stream ++ events) := by
  cases sent : aggregate.send context command stream with
  | error error =>
      left
      cases commit <;> simp [execute, sent]
  | ok events =>
      cases commit with
      | unavailable | dropped => exact .inl ⟨.infrastructure, by simp [execute, sent]⟩
      | stored | unacknowledged =>
          exact .inr ⟨_, events, by decide, rfl, by simp [execute, sent]; rfl⟩

/-! ## A redemption's operations -/

theorem redemption_live {entity : EquityRedemption}
    (live : EquityRedemption.aggregate.lifecycle before.redemption = .live entity) :
    before.redemption? = some entity := by
  rw [World.redemption?, live]
  rfl

/-- A handler that gets to its transaction and is answered has submitted it. -/
theorem handled_of_answer {command : EquityRedemptionCommand} {entity : EquityRedemption}
    {submission : Submission} {hash : TxHash} (available : choice.commit ≠ .unavailable)
    (live : before.redemption? = some entity)
    (submits : CrossVenueEquity.submission choice.redemption command entity = some submission)
    (answered : choice.broadcast.answer choice.error.message before.nextHash = .ok hash) :
    before.handled choice command = before.submit submission ∧ hash = before.nextHash := by
  unfold Broadcast.answer at answered
  split at answered
  case isFalse => cases answered
  case isTrue acknowledged =>
      cases answered
      refine ⟨?_, rfl⟩
      unfold World.handled
      rw [live, Option.bind_some, submits]
      split
      case h_1 unavailable => exact absurd unavailable available
      case h_2 => simp_all
      case h_3 found _ =>
          cases found
          exact if_neg (by rw [acknowledged]; decide)

/-- What a redemption's command adds is true, once its handler has run. -/
theorem redeem_truthful {command : EquityRedemptionCommand}
    (told : (before.redemption?.bind (confirms choice.redemption command)).all before.succeeded)
    (truthful : before.Truthful) : (before.redeem choice command).2.Truthful := by
  obtain ⟨extends', mint⟩ := handled_extends before choice command
  have extended : before.Extends (before.redeem choice command).2 := extends'.trans (.of_eq rfl)
  rcases execute_cases EquityRedemption.aggregate choice.commit
    (answering choice.redemption (choice.broadcast.answer choice.error.message before.nextHash))
    command before.redemption with ⟨_, refused⟩ | ⟨_, events, available, sent, grown⟩
  · refine truthful.extends extended ?_ mint
    simp only [World.redeem, refused]
  · refine truthful.redeemed extended mint sent (by simp only [World.redeem, grown]) ?_
    intro event member
    rcases EquityRedemption.aggregate.send_eq_ok.mp sent with ⟨-, begun⟩ | ⟨entity, live, moved⟩
    · cases command <;> cases begun
      obtain rfl := List.mem_singleton.mp member
      exact .none _
    · refine ⟨fun leg hash record => ?_, fun leg hash done => ?_⟩
      · obtain ⟨answered, submission, submits, rfl⟩ := handler_records moved member record
        obtain ⟨submitted, rfl⟩ :=
          handled_of_answer available (redemption_live live) submits answered
        have found : (before.handled choice command).tx? before.nextHash =
            some ⟨submission, .pending⟩ := by
          rw [submitted]
          exact before.tx?_nextHash submission
        exact ⟨_, found, rfl⟩
      · obtain ⟨awaited, confirmed⟩ := handler_done moved member done
        rw [redemption_live live, Option.bind_some, confirmed] at told
        obtain ⟨earlier, inside, recorded⟩ := redemption_recalls.said live awaited
        have submitted := (truthful.redemption earlier inside).1 leg hash recorded
        exact (submitted.succeeded told).extends extended

theorem handle_ofRedemption (redeems : op.OfRedemption)
    (handled : handle choice op before = some (answer, after)) :
    after.mint = before.mint ∧ before.Extends after := by
  cases op with
  | redemption command =>
      simp only [handle] at handled
      split at handled
      case isFalse => cases handled
      case isTrue =>
          cases handled
          obtain ⟨extends', mint⟩ := handled_extends before choice command
          exact ⟨mint, extends'.trans (.of_eq rfl)⟩
  | loadRedemption | vaultTokenForSymbol | pollForRedemption | pollRedemptionUntilComplete =>
      cases handled
      exact ⟨rfl, .of_eq rfl⟩
  | _ => exact redeems.elim

theorem truthful_of_redemption (truthful : before.Truthful) (redeems : op.OfRedemption)
    (handled : handle choice op before = some (answer, after)) : after.Truthful := by
  cases op with
  | redemption command =>
      simp only [handle] at handled
      split at handled
      case isFalse => cases handled
      case isTrue told =>
          cases handled
          exact redeem_truthful told truthful
  | loadRedemption | vaultTokenForSymbol | pollForRedemption | pollRedemptionUntilComplete =>
      cases handled
      exact truthful
  | _ => exact redeems.elim

/-! ## A mint's operations -/

section MintCommands

variable {context : TokenizedEquityMint.Context} {command : TokenizedEquityMintCommand}
variable {stream events : List TokenizedEquityMintEvent}

/-- An event says no more than its command. -/
structure Tells (command : TokenizedEquityMintCommand) (event : TokenizedEquityMintEvent) :
    Prop where
  record : mintRecord event = none ∨ mintRecord event = commandRecord command
  done : mintDone event = none ∨ mintDone event = commandDone command
  unrecovered : isRecovery command = false → Unrecovered event

/-- An event that has nothing to do with transactions. -/
theorem Tells.nothing {event : TokenizedEquityMintEvent} (record : mintRecord event = none)
    (done : mintDone event = none) (unrecovered : Unrecovered event) : Tells command event :=
  ⟨.inl record, .inl done, fun _ => unrecovered⟩

theorem Tells.bears {event : TokenizedEquityMintEvent} {world : World} (tells : Tells command event)
    (bears : world.Bears (commandRecord command) (commandDone command)) :
    world.Bears (mintRecord event) (mintDone event) := by
  refine ⟨fun leg hash record => ?_, fun leg hash done => ?_⟩
  · rcases tells.record with none | same
    · cases none.symm.trans record
    · exact bears.1 leg hash (same.symm.trans record)
  · rcases tells.done with none | same
    · cases none.symm.trans done
    · exact bears.2 leg hash (same.symm.trans done)

theorem pollAccepted_tells {mint : TokenizedEquityMint.Accepted}
    (polled : TokenizedEquityMint.pollAccepted context mint = .ok events) :
    ∀ event ∈ events, Tells command event := by
  have one : ∃ event, events = [event] ∧ Tells command event := by
    unfold TokenizedEquityMint.pollAccepted at polled
    split at polled
    case h_1 =>
        cases polled
        exact ⟨_, rfl, .nothing rfl rfl trivial⟩
    case h_2 completed _ =>
        split at polled
        case h_1 =>
            split at polled
            case h_1 => cases polled
            case h_2 =>
                obtain ⟨_, checked, polled⟩ := bind_eq_ok.mp polled
                obtain ⟨sharesMinted, converted, polled⟩ := bind_eq_ok.mp polled
                cases polled
                exact ⟨_, rfl, .nothing rfl rfl trivial⟩
        case h_2 | h_3 =>
            cases polled
            exact ⟨_, rfl, .nothing rfl rfl trivial⟩
  obtain ⟨event, rfl, tells⟩ := one
  intro event member
  obtain rfl := List.mem_singleton.mp member
  exact tells

theorem initialise_tells (begun : TokenizedEquityMint.initialise context command = .ok events) :
    ∀ event ∈ events, Tells command event := by
  cases command with
  | requestMint =>
      simp only [TokenizedEquityMint.initialise] at begun
      split at begun
      case isTrue => cases begun
      case isFalse =>
          split at begun
          case h_1 => cases begun
          case h_2 =>
              intro event member
              split at begun <;> cases begun <;>
                (rcases List.mem_pair.mp member with rfl | rfl <;> exact .nothing rfl rfl trivial)
  | _ => cases begun

theorem transition_tells {entity : TokenizedEquityMint}
    (moved : entity.transition context command = .ok events) :
    ∀ event ∈ events, Tells command event := by
  cases command with
  | poll =>
      cases entity with
      | mintAccepted mint => exact pollAccepted_tells moved
      | _ => cases moved
  | recoverProviderCompletion =>
      cases entity with
      | failed =>
          simp only [TokenizedEquityMint.transition,
            TokenizedEquityMint.transitionRecoverProviderCompletion] at moved
          obtain ⟨sharesMinted, converted, moved⟩ := bind_eq_ok.mp moved
          cases moved
          intro event member
          obtain rfl := List.mem_singleton.mp member
          exact ⟨.inl rfl, .inl rfl, nofun⟩
      | _ => cases moved
  | reconcile =>
      cases entity with
      | failed =>
          simp only [TokenizedEquityMint.transition,
            TokenizedEquityMint.transitionReconcile] at moved
          split at moved <;> cases moved
          intro event member
          obtain rfl := List.mem_singleton.mp member
          exact .nothing rfl rfl trivial
      | _ => cases moved
  | _ =>
      intro event member
      cases entity <;> cases moved <;>
        (obtain rfl := List.mem_singleton.mp member
         exact ⟨.inr rfl, .inr rfl, fun _ => trivial⟩)

theorem sent_tells (sent : TokenizedEquityMint.aggregate.send context command stream = .ok events) :
    ∀ event ∈ events, Tells command event := by
  rcases TokenizedEquityMint.aggregate.send_eq_ok.mp sent with ⟨-, begun⟩ | ⟨entity, -, moved⟩
  · exact initialise_tells begun
  · exact transition_tells moved

/-- A run without recoveries has no event of one. -/
theorem unrecovered_of_sends
    {commands : List (TokenizedEquityMint.Context × TokenizedEquityMintCommand)}
    (known : ∀ step ∈ commands, isRecovery step.2 = false) :
    ∀ event ∈ TokenizedEquityMint.aggregate.sends commands [], Unrecovered event := by
  refine TokenizedEquityMint.aggregate.sends_invariant_of
    (fun stream => ∀ event ∈ stream, Unrecovered event) (fun step => isRecovery step.2 = false)
    ?_ known (List.forall_mem_nil _)
  intro context command stream events other sofar sent event member
  rcases List.mem_append.mp member with old | isNew
  · exact sofar event old
  · exact (sent_tells sent event isNew).unrecovered other

theorem World.Truthful.unrecovered {world : World} (truthful : world.Truthful) :
    world.Unrecovered := by
  obtain ⟨commands, known, ran⟩ := truthful.mintRun
  intro event member
  rw [ran] at member
  exact unrecovered_of_sends known event member

/-- What was wrapped can be deposited. -/
theorem wrapped_of_sent {wrapTxHash : TxHash} {wrappedShares wrapBlock : Nat}
    (sent : TokenizedEquityMint.aggregate.send context
      (.wrapTokens wrapTxHash wrappedShares wrapBlock) stream = .ok events) :
    ∃ mint, TokenizedEquityMint.aggregate.lifecycle (stream ++ events) =
      .live (.tokensWrapped mint (some wrapBlock)) := by
  rcases TokenizedEquityMint.aggregate.send_eq_ok.mp sent with ⟨-, begun⟩ | ⟨entity, live, moved⟩
  · cases begun
  · rw [Aggregate.lifecycle_append, live]
    cases entity <;> cases moved <;> exact ⟨_, rfl⟩

end MintCommands

theorem handle_due (due : op.Due before)
    (handled : handle choice op before = some (answer, after)) :
    after.redemption = before.redemption ∧ before.Extends after := by
  cases op with
  | mint command =>
      cases handled
      exact ⟨rfl, .of_eq rfl⟩
  | submitWrap | submitDeposit =>
      rcases handle_broadcast handled with rfl | rfl
      · exact ⟨rfl, .of_eq rfl⟩
      · exact ⟨rfl, .submit before _⟩
  | redemption | loadRedemption | vaultTokenForSymbol | pollForRedemption
  | pollRedemptionUntilComplete => exact due.elim
  | _ =>
      obtain rfl := handle_quiet (by exact due) handled
      exact ⟨rfl, .of_eq rfl⟩

theorem truthful_of_due (truthful : before.Truthful) (due : op.Due before)
    (handled : handle choice op before = some (answer, after)) : after.Truthful := by
  cases op with
  | mint command =>
      have unchanged : before.Extends { before with mint := after.mint } := .of_eq rfl
      have due : CommandDue command before := due
      cases handled
      rcases execute_cases TokenizedEquityMint.aggregate choice.commit choice.mint command
        before.mint with ⟨_, same⟩ | ⟨_, events, -, sent, grown⟩
      · refine truthful.extends unchanged rfl ?_
        simp only [same]
      · refine truthful.minted unchanged rfl sent (by simp only [grown]) due.other ?_
        intro event member
        exact (sent_tells sent event member).bears (due.bears.extends unchanged)
  | submitWrap | submitDeposit =>
      rcases handle_broadcast handled with rfl | rfl
      · exact truthful
      · exact truthful.extends (.submit before _) rfl rfl
  | redemption | loadRedemption | vaultTokenForSymbol | pollForRedemption
  | pollRedemptionUntilComplete => exact due.elim
  | _ =>
      obtain rfl := handle_quiet (by exact due) handled
      exact truthful

end Handle

end Liquidity.CrossVenueEquity
