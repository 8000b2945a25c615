import Liquidity.CrossVenueEquity.Attempts

/-!
# Equity transfers move tokens once

A transaction that the stream records is never submitted again, by any attempt. One
that was broadcast and not recorded may be: the call may have failed after it took
effect, or the process died before the event was stored. Where that is not so, every
leg of a transfer moves its tokens at most once.
-/

namespace Liquidity.CrossVenueEquity

open EventSourcing Process

/-- The transaction an operation may submit. -/
def Op.leg? : Op → Option Leg
  | .redemption .submitWithdraw => some .withdraw
  | .redemption .submitUnwrap => some .unwrap
  | .redemption .sendTokens => some .send
  | .submitWrap .. => some .wrap
  | .submitDeposit .. => some .deposit
  | _ => none

namespace World

/-- The transactions of a leg that have moved tokens or still may. -/
def outstanding (world : World) (leg : Leg) : Nat :=
  world.ledger.countP fun tx => tx.leg = leg && tx.live

def mined (world : World) (leg : Leg) : Nat :=
  world.ledger.countP fun tx => tx.leg = leg && tx.status = .succeeded

/-- At most one of them. -/
def Once (leg : Leg) (world : World) : Prop := world.outstanding leg ≤ 1

theorem mined_le_outstanding (world : World) (leg : Leg) :
    world.mined leg ≤ world.outstanding leg := by
  refine List.countP_mono_left fun tx _ mined => ?_
  simp only [Bool.and_eq_true, decide_eq_true_eq] at mined ⊢
  exact ⟨mined.1, by simp [Tx.live, mined.2]⟩

end World

/-- Before a transaction is submitted, every earlier one of its leg is recorded, or
reverted. -/
def Unlost (leg : Leg) (op : Op) (world : World) : Prop :=
  op.leg? = some leg → ∀ entry ∈ world.ledger.zipIdx, entry.1.leg = leg → entry.1.live = true →
    world.records leg (entry.2 + 1) = true

instance (leg : Leg) (op : Op) (world : World) : Decidable (Unlost leg op world) :=
  inferInstanceAs (Decidable (_ → _))

section Steps

variable {choice : Choice} {op : Op} {before after : World} {answer : op.Ret} {leg : Leg}

theorem submission_leg {context : EquityRedemption.Context} {command : EquityRedemptionCommand}
    {entity : EquityRedemption} {submission : Submission}
    (submits : CrossVenueEquity.submission context command entity = some submission) :
    (Op.redemption command).leg? = some submission.leg ∧
      submission.leg.direction = .redemption := by
  obtain ⟨legs, -⟩ := submission_cases submits
  rcases legs with ⟨leg, rfl⟩ | ⟨leg, rfl⟩ | ⟨leg, rfl⟩ <;> simp [leg, Op.leg?, Leg.direction]

/-- A transaction is submitted by an operation of its leg, in the state it belongs to. -/
theorem handle_ledger (fits : op.OfRedemption ∨ op.Due before)
    (handled : handle choice op before = some (answer, after)) :
    after.ledger = before.ledger ∨ ∃ submission, op.leg? = some submission.leg ∧
      before.ready submission.leg = true ∧
        after.ledger = before.ledger ++ [⟨submission, .pending⟩] := by
  cases op with
  | redemption command =>
      simp only [handle] at handled
      split at handled
      case isFalse => cases handled
      case isTrue =>
          cases handled
          rcases handled_eq before choice command with
            same | ⟨entity, submission, live, submits, sent⟩
          · exact .inl (by simp only [same])
          · obtain ⟨-, rank⟩ := submission_cases submits
            obtain ⟨own, redeems⟩ := submission_leg submits
            refine .inr ⟨submission, own, ?_, ?_⟩
            · simp [World.ready, redeems, live, rank]
            · simp only [sent, World.submit]
  | submitWrap =>
      have due := fits.resolve_left id
      rcases handle_broadcast handled with rfl | rfl
      · exact .inl rfl
      · exact .inr ⟨⟨.wrap, _, _⟩, rfl, due, rfl⟩
  | submitDeposit =>
      have due := fits.resolve_left id
      rcases handle_broadcast handled with rfl | rfl
      · exact .inl rfl
      · exact .inr ⟨⟨.deposit, _, _⟩, rfl, due, rfl⟩
  | mint | loadRedemption | vaultTokenForSymbol | pollForRedemption
  | pollRedemptionUntilComplete =>
      cases handled
      exact .inl rfl
  | _ =>
      have quiet := fits.resolve_left id
      obtain rfl := handle_quiet (by exact quiet) handled
      exact .inl rfl

/-- A leg that is ready and has lost nothing has nothing outstanding. -/
theorem outstanding_of_ready (unrecovered : before.Unrecovered) (ready : before.ready leg = true)
    (unlost : Unlost leg op before) (submits : op.leg? = some leg) :
    before.outstanding leg = 0 := by
  refine List.countP_eq_zero.mpr fun tx member counts => ?_
  simp only [Bool.and_eq_true, decide_eq_true_eq] at counts
  obtain ⟨place, inside, rfl⟩ := List.mem_iff_getElem.mp member
  have entry : (before.ledger[place], place) ∈ before.ledger.zipIdx :=
    List.mem_zipIdx_iff_getElem?.mpr (List.getElem?_eq_getElem inside)
  have recorded := unlost submits _ entry counts.1 counts.2
  rw [before.unrecorded_of_ready unrecovered ready] at recorded
  cases recorded

/-- One operation keeps a leg from being submitted twice. -/
theorem outstanding_step (unrecovered : before.Unrecovered) (fits : op.OfRedemption ∨ op.Due before)
    (unlost : Unlost leg op before) (handled : handle choice op before = some (answer, after))
    (once : before.outstanding leg ≤ 1) : after.outstanding leg ≤ 1 := by
  rcases handle_ledger fits handled with same | ⟨submission, submits, ready, grown⟩
  · rwa [World.outstanding, same]
  · rw [World.outstanding, grown, List.countP_append, List.countP_singleton]
    by_cases own : submission.leg = leg
    · subst own
      have none := outstanding_of_ready unrecovered ready unlost submits
      rw [World.outstanding] at none
      rw [none]
      split <;> omega
    · simpa [own, World.outstanding] using once

theorem outstanding_environment {change : Env} (changed : environment change before = some after) :
    after.outstanding leg ≤ before.outstanding leg := by
  cases change with
  | mine hash success =>
      simp only [environment] at changed
      split at changed
      case h_2 => cases changed
      case h_1 submission found =>
          cases changed
          cases hash with
          | zero => cases found
          | succ place =>
              obtain ⟨inside, there⟩ := List.getElem?_eq_some_iff.mp found
              simp only [World.outstanding, Nat.succ_sub_one]
              rw [List.countP_set inside, there]
              by_cases own : submission.leg = leg
              · have counted : 0 < before.ledger.countP fun tx => tx.leg = leg && tx.live :=
                  List.countP_pos_iff.mpr ⟨_, List.mem_of_getElem? found, by simp [own, Tx.live]⟩
                have was : (decide (submission.leg = leg) &&
                    Tx.live ⟨submission, .pending⟩) = true := by simp [own, Tx.live]
                have step : ∀ (total : Nat) (counts : Bool), 0 < total →
                    total - 1 + (if counts = true then 1 else 0) ≤ total := by
                  intro total counts positive
                  cases counts
                  · simp
                  · simp only [if_true]
                    omega
                rw [if_pos was]
                exact step _ _ counted
              · simp [own]

end Steps

/-- Where no transaction of a leg is submitted while an earlier one that went unrecorded
has moved tokens or still may, there is never a second one. -/
theorem outstanding_run {config : Config} {leg : Leg} {schedule : List (Act Choice Label Env)}
    {final : Process.Config Op Op.Ret AttemptError (Option Unit) World Label}
    (unlost : (system config).MeetsAll (fun _ => Unlost leg) ⟨World.empty, []⟩ schedule)
    (ran : (system config).run ⟨World.empty, []⟩ schedule = some final) :
    World.Once leg final.shared := by
  refine (sound_empty config).run_invariant (compatible config) ?_ ?_ (Nat.zero_le 1) unlost ran
  · intro label op choice before answer after truthful _ allowed performed handled holds
    refine outstanding_step truthful.unrecovered ?_ allowed handled holds
    obtain ⟨fits, -⟩ := performed
    cases directed : label.direction with
    | redemption =>
        rw [directed] at fits
        exact .inl fits
    | mint =>
        rw [directed] at fits
        exact .inr fits
  · intro change before after _ _ changed holds
    exact (outstanding_environment changed).trans holds

/-! ## Transfers that are done -/

/-- The rank from which on the tokens have gone through the leg. -/
def Leg.passed : Leg → Nat
  | .withdraw => 2
  | .unwrap => 5
  | .send => 7
  | .wrap => 4
  | .deposit => 6

/-- A redemption whose tokens have gone through the leg. Of one that failed this is known
once it was sent. -/
def redemptionMoved (leg : Leg) : EquityRedemption → Bool
  | .failed _ _ _ redemptionTx .. => redemptionTx.isSome
  | .reconciled .. => false
  | entity => leg.passed ≤ redemptionRank entity

/-- What lets a redemption pass a leg. -/
def redemptionPasses : EquityRedemptionEvent → Option (Leg × TxHash)
  | .tokensSent _ redemptionTx _ => some (.send, redemptionTx)
  | event => redemptionDone event

/-- What a mint knows to have been done. -/
def mintWrapped : TokenizedEquityMint → Option (Leg × TxHash)
  | .tokensWrapped mint _ => some (.wrap, mint.wrapTxHash)
  | .vaultDepositSubmitted mint _ => some (.wrap, mint.wrapTxHash)
  | .depositedIntoRaindex _ _ _ _ _ wrapTxHash _ _ _ => some (.wrap, wrapTxHash)
  | _ => none

def mintDeposited : TokenizedEquityMint → Option (Leg × TxHash)
  | .depositedIntoRaindex _ _ _ _ _ _ vaultDepositTxHash _ _ => depositDone vaultDepositTxHash
  | _ => none

theorem wrapped_recalls : TokenizedEquityMint.aggregate.Recalls mintWrapped mintDone where
  first := by
    intro event entity fact originates known
    cases event <;> cases originates
    cases known
  later := by
    intro entity event next fact evolved known
    have moved : entity.next event = some next := Except.ok.inj evolved
    cases event <;> cases entity <;> cases moved <;> first
      | exact .inr known
      | exact .inl known

theorem deposited_recalls : TokenizedEquityMint.aggregate.Recalls mintDeposited mintDone where
  first := by
    intro event entity fact originates known
    cases event <;> cases originates
    cases known
  later := by
    intro entity event next fact evolved known
    have moved : entity.next event = some next := Except.ok.inj evolved
    cases event <;> cases entity <;> cases moved <;> first
      | exact .inr known
      | cases known

theorem moved_of_moves {entity next : EquityRedemption} {event : EquityRedemptionEvent} {leg : Leg}
    (moves : entity.Moves event next) (redeems : leg.direction = .redemption)
    (moved : redemptionMoved leg next) :
    redemptionMoved leg entity ∨ ∃ hash, redemptionPasses event = some (leg, hash) := by
  cases moves with
  | transferFailed early fails => cases entity <;> cases early <;> cases fails <;> cases moved
  | _ =>
      cases leg <;> cases redeems <;>
        simp_all [redemptionMoved, redemptionPasses, redemptionDone, redemptionRank, Leg.passed]

theorem passes_of_done {event : EquityRedemptionEvent} {leg : Leg} {hash : TxHash}
    (done : redemptionDone event = some (leg, hash)) :
    redemptionPasses event = some (leg, hash) := by
  cases event <;> cases done <;> rfl

theorem moved_of_unwrap {leg : Leg} {request : EquityRedemption.Withdrawn} {unwrapTxHash : TxHash}
    {done : EquityRedemption.Unwrapped} (redeems : leg.direction = .redemption)
    (moved : redemptionMoved leg (.tokensUnwrapped done) = true) :
    redemptionMoved leg (.unwrapSubmitted request unwrapTxHash) = true ∨ leg = .unwrap := by
  cases leg <;> cases redeems <;> simp_all [redemptionMoved, redemptionRank, Leg.passed]

theorem redemption_traces {leg : Leg} (redeems : leg.direction = .redemption) :
    EquityRedemption.aggregate.Traces (fun entity => redemptionMoved leg entity = true)
      fun event => ∃ hash, redemptionPasses event = some (leg, hash) where
  initialise := by
    intro context command events entity begun live moved
    cases command <;> cases begun
    cases live
    cases leg <;> cases redeems <;> simp [redemptionMoved, redemptionRank, Leg.passed] at moved
  transition := by
    intro context entity command events next accepted live moved
    obtain ⟨event, reached, rfl, evolved, moves | unwraps⟩ := transition_cases accepted
    · simp only [Aggregate.replay_cons, Aggregate.replay_nil, Aggregate.apply, evolved] at live
      cases live
      exact (moved_of_moves moves redeems moved).imp id fun passes => ⟨event, by simp, passes⟩
    · simp only [Aggregate.replay_cons, Aggregate.replay_nil, Aggregate.apply, evolved] at live
      cases live
      obtain ⟨request, unwrapTxHash, done, rfl, unwrapped, rfl⟩ := unwraps
      refine (moved_of_unwrap redeems moved).imp id ?_
      rintro rfl
      exact ⟨event, by simp, unwrapTxHash, passes_of_done unwrapped⟩

/-! ## Every run -/

namespace World

/-- By what is stored, the tokens have gone through the leg. A deposit that was taken for
made does not count. -/
def passed (world : World) (leg : Leg) : Bool :=
  match leg.direction with
  | .redemption => world.redemption?.any (redemptionMoved leg)
  | .mint => world.mint?.any fun entity =>
      (mintWrapped entity).any (·.1 = leg) || (mintDeposited entity).any (·.1 = leg)

/-- The stream says that the transaction has done its work. -/
def finishes (world : World) (leg : Leg) (hash : TxHash) : Bool :=
  match leg.direction with
  | .redemption => world.redemption.any fun event => redemptionDone event = some (leg, hash)
  | .mint => world.mint.any fun event => mintDone event = some (leg, hash)

theorem mined_of_succeeded {world : World} {leg : Leg} {hash : TxHash}
    (succeeded : world.SucceededAs leg hash) : 1 ≤ world.mined leg := by
  obtain ⟨tx, found, own, success⟩ := succeeded
  cases hash with
  | zero => cases found
  | succ place =>
      exact List.countP_pos_iff.mpr ⟨tx, List.mem_of_getElem? found, by simp [own, success]⟩

/-- What the streams say was passed has succeeded. The transfer to the issuer is not
waited for. -/
theorem Truthful.succeeded_of_passed {world : World} (truthful : world.Truthful) {leg : Leg}
    (other : leg ≠ .send) (passed : world.passed leg = true) :
    ∃ hash, world.SucceededAs leg hash := by
  cases directed : leg.direction with
  | redemption =>
      simp only [World.passed, directed, Option.any_eq_true] at passed
      obtain ⟨entity, live, moved⟩ := passed
      obtain ⟨commands, ran⟩ := truthful.redemptionRun
      have stored := live_of_entity live
      rw [ran] at stored
      obtain ⟨event, member, hash, passes⟩ :=
        (redemption_traces directed).sends commands stored moved
      have done : redemptionDone event = some (leg, hash) := by
        cases event <;> cases passes <;> first
          | rfl
          | exact absurd rfl other
      exact ⟨hash, (truthful.redemption event (ran ▸ member)).2 leg hash done⟩
  | mint =>
      simp only [World.passed, directed, Option.any_eq_true, Bool.or_eq_true,
        decide_eq_true_eq] at passed
      obtain ⟨entity, live, ⟨⟨_, hash⟩, wrapped, rfl⟩ | ⟨⟨_, hash⟩, deposited, rfl⟩⟩ := passed
      · obtain ⟨event, member, done⟩ := wrapped_recalls.said (live_of_entity live) wrapped
        exact ⟨hash, (truthful.mint event member).2 _ hash done⟩
      · obtain ⟨event, member, done⟩ := deposited_recalls.said (live_of_entity live) deposited
        exact ⟨hash, (truthful.mint event member).2 _ hash done⟩

theorem Truthful.submitted_of_records {world : World} (truthful : world.Truthful) {leg : Leg}
    {hash : TxHash} (records : world.records leg hash = true) : world.SubmittedAs leg hash := by
  cases directed : leg.direction with
  | redemption =>
      simp only [World.records, directed, List.any_eq_true, decide_eq_true_eq] at records
      obtain ⟨event, member, recorded⟩ := records
      exact (truthful.redemption event member).1 leg hash recorded
  | mint =>
      simp only [World.records, directed, List.any_eq_true, decide_eq_true_eq] at records
      obtain ⟨event, member, recorded⟩ := records
      exact (truthful.mint event member).1 leg hash recorded

theorem Truthful.succeeded_of_finishes {world : World} (truthful : world.Truthful) {leg : Leg}
    {hash : TxHash} (finishes : world.finishes leg hash = true) : world.SucceededAs leg hash := by
  cases directed : leg.direction with
  | redemption =>
      simp only [World.finishes, directed, List.any_eq_true, decide_eq_true_eq] at finishes
      obtain ⟨event, member, done⟩ := finishes
      exact (truthful.redemption event member).2 leg hash done
  | mint =>
      simp only [World.finishes, directed, List.any_eq_true, decide_eq_true_eq] at finishes
      obtain ⟨event, member, done⟩ := finishes
      exact (truthful.mint event member).2 leg hash done

end World

/-- However the attempts of a redemption and of a mint, crashes, lost answers and mining
interleave: if no transaction of a leg is submitted while an earlier one that went
unrecorded has moved tokens or still may, the leg moves tokens at most once, and exactly
once by the time the transfer is stored as past it. -/
theorem moves_once (config : Config) (leg : Leg) (schedule : List (Act Choice Label Env))
    (final : Process.Config Op Op.Ret AttemptError (Option Unit) World Label)
    (unlost : (system config).MeetsAll (fun _ => Unlost leg) ⟨World.empty, []⟩ schedule)
    (ran : (system config).run ⟨World.empty, []⟩ schedule = some final) :
    final.shared.mined leg ≤ 1 ∧
      (leg ≠ .send → final.shared.passed leg = true → final.shared.mined leg = 1) := by
  have atMost : final.shared.mined leg ≤ 1 :=
    (final.shared.mined_le_outstanding leg).trans (outstanding_run unlost ran)
  refine ⟨atMost, fun other passed => ?_⟩
  obtain ⟨hash, succeeded⟩ := (truthful_run ran).succeeded_of_passed other passed
  exact Nat.le_antisymm atMost (World.mined_of_succeeded succeeded)

/-! ## Runs -/

/-- Every call succeeds, for one share of a token with a vault. -/
def forward : Choice where
  broadcast := .acknowledged
  commit := .stored
  redemption :=
    { now := 0
      owner := 9
      hasVaultFor := fun _ => true
      submitWithdraw := .error ""
      confirmTxReceipt := .ok ⟨1, some 1, [⟨7, true, some (9, 10 ^ 18)⟩]⟩
      waitForBlock := fun _ => .ok ()
      submitUnwrap := .error ""
      lookupUnderlying := fun _ => .ok 8
      confirmUnwrap := .ok ⟨10 ^ 18, 2⟩
      fromFixedDecimal := fun amount => .ok (amount / 10 ^ 18)
      redemptionWallet := some 10
      sendForRedemption := .error "" }
  mint := ⟨0, .ok ⟨⟨"request"⟩, .completed, some "tAAPL", some 5⟩, fun _ => .ok (10 ^ 18)⟩
  error := ⟨false, "timeout"⟩
  vaultToken := .ok 7
  request := .ok ⟨⟨"request"⟩, .completed, none, none⟩
  lookup := .ok 8
  verification := .ok ()
  confirmWrap := .ok ⟨10 ^ 18, 3⟩
  waitForBlock := .ok ()
  vaultId := .ok 1
  confirmTx := .ok ()

/-- The broadcast is not acknowledged. -/
def unanswered : Choice := { forward with broadcast := .lost }

/-- The process dies before the event is stored. -/
def unstored : Choice := { forward with commit := .dropped }

def advance (index count : Nat) : List (Act Choice Label Env) :=
  List.replicate count (.step index forward)

/-- A redemption whose withdrawal and unwrap are mined while it waits for them. -/
def redemptionSent : List (Act Choice Label Env) :=
  [.start (.resumeEquityToHedging "AAPL" 1 20)] ++ advance 0 4 ++ [.env (.mine 1 true)] ++
    advance 0 3 ++ [.env (.mine 2 true)] ++ advance 0 2

/-- An attempt is refused by the store, and the next one ends the redemption. -/
def redemptionCompleted : List (Act Choice Label Env) :=
  redemptionSent ++ [.step 0 { forward with commit := .unavailable }, .crash 0,
    .start (.resumeRedemption 20)] ++ advance 0 2 ++ [.env (.mine 3 true)] ++ advance 0 6

/-- Of each leg, a transaction that its attempt does not record and the next one repeats. -/
def repeated : Leg → List (Act Choice Label Env)
  | .withdraw =>
      [.start (.resumeEquityToHedging "AAPL" 1 20)] ++ advance 0 3 ++
        [.step 0 unanswered, .crash 0, .start (.resumeRedemption 20)] ++ advance 0 2 ++
        [.env (.mine 1 true), .env (.mine 2 true)]
  | .unwrap =>
      [.start (.resumeEquityToHedging "AAPL" 1 20)] ++ advance 0 4 ++ [.env (.mine 1 true)] ++
        advance 0 2 ++ [.step 0 unanswered, .crash 0, .start (.resumeRedemption 20)] ++
        advance 0 2 ++ [.env (.mine 2 true), .env (.mine 3 true)]
  | .send =>
      redemptionSent ++ [.step 0 unstored, .crash 0, .start (.resumeRedemption 20)] ++
        advance 0 2 ++ [.env (.mine 3 true), .env (.mine 4 true)]
  | .wrap =>
      [.start (.resumeEquityToMarketMaking "AAPL" 1 20)] ++ advance 0 7 ++
        [.step 0 unanswered, .crash 0, .start (.resumeMint 20)] ++ advance 0 6 ++
        [.env (.mine 1 true), .env (.mine 2 true)]
  | .deposit =>
      [.start (.resumeEquityToMarketMaking "AAPL" 1 20)] ++ advance 0 9 ++
        [.env (.mine 1 true)] ++ advance 0 4 ++
        [.step 0 unanswered, .crash 0, .start (.resumeMint 20)] ++ advance 0 5 ++
        [.env (.mine 2 true), .env (.mine 3 true)]

/-- The mint and the wallet of the runs. -/
def sampleConfig : Config := ⟨⟨"mint"⟩, 9⟩

theorem moves_once_completed :
    ∃ final, (system sampleConfig).run ⟨World.empty, []⟩ redemptionCompleted = some final ∧
      final.shared.redemption?.map redemptionRank = some 9 ∧
        final.shared.mined .withdraw = 1 := by
  have meets : (system sampleConfig).MeetsAll (fun _ => Unlost .withdraw) ⟨World.empty, []⟩
      redemptionCompleted := by
    decide +kernel
  have runs : ((system sampleConfig).run ⟨World.empty, []⟩ redemptionCompleted).map (fun final =>
      (final.shared.redemption?.map redemptionRank, final.shared.passed .withdraw)) =
        some (some 9, true) := by
    decide +kernel
  obtain ⟨final, ran, result⟩ := Option.map_eq_some_iff.mp runs
  obtain ⟨ended, passed⟩ := Prod.mk.injEq .. ▸ result
  exact ⟨final, ran, ended, (moves_once sampleConfig .withdraw redemptionCompleted final meets
    ran).2 (by decide) passed⟩

/-- However the attempts, crashes, lost answers and mining interleave: a hash that a stream
records is that of a transaction of the leg that was submitted, one that it says is done
has succeeded, and a transfer that is stored as past a leg has a successful transaction
of it. -/
theorem records_hold (config : Config) (schedule : List (Act Choice Label Env))
    (final : Process.Config Op Op.Ret AttemptError (Option Unit) World Label)
    (ran : (system config).run ⟨World.empty, []⟩ schedule = some final) (leg : Leg) :
    (∀ hash, final.shared.records leg hash = true → final.shared.SubmittedAs leg hash) ∧
      (∀ hash, final.shared.finishes leg hash = true → final.shared.SucceededAs leg hash) ∧
        (leg ≠ .send → final.shared.passed leg = true →
          ∃ hash, final.shared.SucceededAs leg hash) := by
  have truthful := truthful_run ran
  exact ⟨fun _ => truthful.submitted_of_records, fun _ => truthful.succeeded_of_finishes,
    truthful.succeeded_of_passed⟩

/-- A mint whose wrap is recorded by one attempt and awaited by the next. -/
def mintWrappedLater : List (Act Choice Label Env) :=
  [.start (.resumeEquityToMarketMaking "AAPL" 1 20)] ++ advance 0 9 ++
    [.crash 0, .env (.mine 1 true), .start (.resumeMint 20)] ++ advance 0 4

theorem records_hold_wrapped :
    ∃ final, (system sampleConfig).run ⟨World.empty, []⟩ mintWrappedLater = some final ∧
      final.shared.finishes .wrap 1 = true ∧ final.shared.SucceededAs .wrap 1 := by
  have runs : ((system sampleConfig).run ⟨World.empty, []⟩ mintWrappedLater).map (fun final =>
      final.shared.finishes .wrap 1) = some true := by
    decide +kernel
  obtain ⟨final, ran, finishes⟩ := Option.map_eq_some_iff.mp runs
  exact ⟨final, ran, finishes,
    (records_hold sampleConfig mintWrappedLater final ran .wrap).2.1 1 finishes⟩

/-- However the attempts, crashes, lost answers and mining interleave, no attempt that is
given ten turns is left with a loop that has not ended. -/
theorem loops_end (config : Config) (schedule : List (Act Choice Label Env))
    (final : Process.Config Op Op.Ret AttemptError (Option Unit) World Label)
    (ran : (system config).run ⟨World.empty, []⟩ schedule = some final)
    (thread : Thread Op Op.Ret AttemptError (Option Unit) Label) (alive : thread ∈ final.threads)
    (enough : 10 ≤ thread.label.turns) : thread.rest.result? ≠ some (.ok none) := by
  intro spent
  have sound := (sound_empty config).run (compatible config)
    ((system config).meetsAll_true _ _) ran
  obtain ⟨world, ends⟩ := sound.returned alive spent
  exact ends enough rfl

theorem loops_end_completed :
    ∃ final, (system sampleConfig).run ⟨World.empty, []⟩ redemptionCompleted = some final ∧
      ∃ thread ∈ final.threads, thread.rest.result?.isSome ∧
        thread.rest.result? ≠ some (.ok none) := by
  have runs : ((system sampleConfig).run ⟨World.empty, []⟩ redemptionCompleted).map (fun final =>
      final.threads.map fun thread => (thread.label.turns, thread.rest.result?.isSome)) =
        some [(20, true)] := by
    decide +kernel
  obtain ⟨final, ran, ended⟩ := Option.map_eq_some_iff.mp runs
  obtain ⟨thread, only, result⟩ := List.map_eq_singleton_iff.mp ended
  have alive : thread ∈ final.threads := by simp [only]
  obtain ⟨turns, returned⟩ := Prod.mk.injEq .. ▸ result
  exact ⟨final, ran, thread, alive, returned,
    loops_end sampleConfig redemptionCompleted final ran thread alive (by omega)⟩

/-- Each leg can move tokens twice where a transaction went unrecorded. -/
theorem moves_twice (leg : Leg) :
    ∃ final, (system sampleConfig).run ⟨World.empty, []⟩ (repeated leg) = some final ∧
      final.shared.mined leg = 2 := by
  have twice : ((system sampleConfig).run ⟨World.empty, []⟩ (repeated leg)).map
      (fun final => final.shared.mined leg) = some 2 := by
    cases leg <;> decide +kernel
  exact Option.map_eq_some_iff.mp twice

/-! ## Redemptions and mints as wholes -/

/-- A redemption has withdrawn and sent at most once, and a mint has wrapped and deposited
at most once. -/
structure World.MovedOnce (world : World) : Prop where
  withdraw : world.mined .withdraw ≤ 1
  send : world.mined .send ≤ 1
  wrap : world.mined .wrap ≤ 1
  deposit : world.mined .deposit ≤ 1

/-- No withdrawal, send, wrap or deposit is submitted while an earlier one that went
unrecorded has moved tokens or still may. -/
def NothingLost (op : Op) (world : World) : Prop :=
  ∀ leg ∈ [Leg.withdraw, .send, .wrap, .deposit], Unlost leg op world

instance (op : Op) (world : World) : Decidable (NothingLost op world) :=
  inferInstanceAs (Decidable (∀ leg ∈ _, Unlost leg op world))

/-- However the attempts of a redemption and of a mint, crashes, lost answers and mining
interleave, tokens move once where nothing is lost. -/
theorem transfers_move_once (config : Config) (schedule : List (Act Choice Label Env))
    (final : Process.Config Op Op.Ret AttemptError (Option Unit) World Label)
    (kept : (system config).MeetsAll (fun _ => NothingLost) ⟨World.empty, []⟩ schedule)
    (ran : (system config).run ⟨World.empty, []⟩ schedule = some final) :
    final.shared.MovedOnce := by
  have once (leg : Leg) (counts : leg ∈ [Leg.withdraw, .send, .wrap, .deposit]) :
      final.shared.mined leg ≤ 1 := by
    have unlost : (system config).MeetsAll (fun _ => Unlost leg) ⟨World.empty, []⟩ schedule :=
      kept.imp _ fun _ _ _ nothing => nothing leg counts
    exact (final.shared.mined_le_outstanding leg).trans (outstanding_run unlost ran)
  exact ⟨once _ (by simp), once _ (by simp), once _ (by simp), once _ (by simp)⟩

/-- The first withdrawal of a redemption is mined reverted without its attempt hearing of
it, so the next attempt withdraws again, unwraps and sends. -/
def withdrawnAgain : List (Act Choice Label Env) :=
  [.start (.resumeEquityToHedging "AAPL" 1 20)] ++ advance 0 3 ++
    [.step 0 unanswered, .env (.mine 1 false), .crash 0, .start (.resumeRedemption 20)] ++
    advance 0 2 ++ [.env (.mine 2 true)] ++ advance 0 6 ++ [.env (.mine 3 true)] ++
    advance 0 6 ++ [.env (.mine 4 true), .crash 0]

/-- A mint wraps, its attempt dies, and the next one deposits. -/
def depositedLater : List (Act Choice Label Env) :=
  [.start (.resumeEquityToMarketMaking "AAPL" 1 20)] ++ advance 0 9 ++
    [.crash 0, .env (.mine 5 true), .start (.resumeMint 20)] ++ advance 0 8 ++
    [.env (.mine 6 true)] ++ advance 0 2

theorem transfers_move_once_resumed :
    ∃ final, (system sampleConfig).run ⟨World.empty, []⟩ (withdrawnAgain ++ depositedLater) =
        some final ∧
      (final.shared.ledger.length, final.shared.mined .withdraw, final.shared.mined .send,
        final.shared.mined .wrap, final.shared.mined .deposit) = (6, 1, 1, 1, 1) ∧
      final.shared.MovedOnce := by
  have meets : (system sampleConfig).MeetsAll (fun _ => NothingLost) ⟨World.empty, []⟩
      (withdrawnAgain ++ depositedLater) := by
    decide +kernel
  have runs : ((system sampleConfig).run ⟨World.empty, []⟩
      (withdrawnAgain ++ depositedLater)).map (fun final =>
        (final.shared.ledger.length, final.shared.mined .withdraw, final.shared.mined .send,
          final.shared.mined .wrap, final.shared.mined .deposit)) = some (6, 1, 1, 1, 1) := by
    decide +kernel
  obtain ⟨final, ran, counts⟩ := Option.map_eq_some_iff.mp runs
  exact ⟨final, ran, counts, transfers_move_once sampleConfig _ final meets ran⟩

/-- The answer to a withdrawal is lost, the next attempt withdraws again, and both are
mined. -/
theorem transfers_move_twice :
    ∃ final, (system sampleConfig).run ⟨World.empty, []⟩ (repeated .withdraw) = some final ∧
      ¬ final.shared.MovedOnce := by
  obtain ⟨final, ran, twice⟩ := moves_twice .withdraw
  refine ⟨final, ran, fun once => ?_⟩
  have atMost := once.withdraw
  omega

end Liquidity.CrossVenueEquity
