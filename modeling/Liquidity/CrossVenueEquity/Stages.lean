import Liquidity.CrossVenueEquity.Manager
import Liquidity.EventSourcing.Traces
import Liquidity.TokenizedEquityMint.Moves

/-!
# Recorded transactions

Every event takes a transfer forward, but for the one by which an operator has a
failed mint recovered. So a state before a transaction is one whose stream has no
record of it: that is all that is needed to know that a recorded transaction is not
submitted again.
-/

namespace Liquidity.CrossVenueEquity

open EventSourcing Process

/-! ## How far a transfer is -/

def redemptionRank : EquityRedemption → Nat
  | .vaultWithdrawPending .. => 0
  | .vaultWithdrawSubmitted .. => 1
  | .withdrawnFromRaindex _ => 2
  | .unwrapPending _ => 3
  | .unwrapSubmitted .. => 4
  | .tokensUnwrapped _ => 5
  | .sendPending _ => 6
  | .tokensSent .. => 7
  | .pending .. => 8
  | .completed .. | .failed .. | .reconciled .. => 9

theorem redemptionRank_le (entity : EquityRedemption) : redemptionRank entity ≤ 9 := by
  cases entity <;> simp [redemptionRank]

theorem redemptionRank_of_terminal {entity : EquityRedemption} (ended : entity.isTerminal = true) :
    redemptionRank entity = 9 := by
  cases entity <;> cases ended <;> rfl

def mintRank : TokenizedEquityMint → Nat
  | .mintRequested _ => 0
  | .mintAccepted _ => 1
  | .tokensReceived _ => 2
  | .wrapSubmitted .. => 3
  | .tokensWrapped .. => 4
  | .vaultDepositSubmitted .. => 5
  | .depositedIntoRaindex .. | .failed .. | .reconciled .. => 6

/-- Polling leads past the wait for the issuer. -/
theorem rank_of_polled {convert : ℚ → Except String Nat} {mint : TokenizedEquityMint.Accepted}
    {event : TokenizedEquityMintEvent} {next : TokenizedEquityMint}
    (moves : TokenizedEquityMint.Moves convert (.mintAccepted mint) event next) :
    2 ≤ mintRank next := by
  cases moves with
  | acceptanceFailed fails =>
      cases fails
      exact Nat.le_of_ble_eq_true rfl
  | received => exact le_rfl
  | wrapped moved | wrappingFailed moved | deposited moved | depositFailed moved => cases moved

/-- The rank of the state that a transaction is submitted in. -/
def Leg.rank : Leg → Nat
  | .withdraw => 0
  | .unwrap => 3
  | .send => 6
  | .wrap => 2
  | .deposit => 4

def Leg.direction : Leg → Direction
  | .withdraw | .unwrap | .send => .redemption
  | .wrap | .deposit => .mint

/-! ## What the streams record -/

def redemptionRecord : EquityRedemptionEvent → Option (Leg × TxHash)
  | .vaultWithdrawSubmitted _ _ _ _ txHash _ => some (.withdraw, txHash)
  | .unwrapSubmitted unwrapTxHash _ => some (.unwrap, unwrapTxHash)
  | .tokensSent _ redemptionTx _ => some (.send, redemptionTx)
  | _ => none

def mintRecord : TokenizedEquityMintEvent → Option (Leg × TxHash)
  | .wrapSubmitted wrapTxHash _ => some (.wrap, wrapTxHash)
  | .vaultDepositSubmitted vaultDepositTxHash _ => some (.deposit, vaultDepositTxHash)
  | _ => none

/-- The transaction that a transfer waits for. -/
def redemptionAwaits : EquityRedemption → Option (Leg × TxHash)
  | .vaultWithdrawSubmitted _ txHash _ => some (.withdraw, txHash)
  | .unwrapSubmitted _ unwrapTxHash => some (.unwrap, unwrapTxHash)
  | _ => none

def mintAwaits : TokenizedEquityMint → Option (Leg × TxHash)
  | .wrapSubmitted _ wrapTxHash => some (.wrap, wrapTxHash)
  | .vaultDepositSubmitted _ vaultDepositTxHash => some (.deposit, vaultDepositTxHash)
  | _ => none

/-- The stream says which transaction was submitted. -/
def World.records (world : World) (leg : Leg) (hash : TxHash) : Bool :=
  match leg.direction with
  | .redemption => world.redemption.any fun event => redemptionRecord event = some (leg, hash)
  | .mint => world.mint.any fun event => mintRecord event = some (leg, hash)

/-- The transfer is in the state that the transaction is submitted in. -/
def World.ready (world : World) (leg : Leg) : Bool :=
  match leg.direction with
  | .redemption => world.redemption?.any fun entity => redemptionRank entity = leg.rank
  | .mint => world.mint?.any fun entity => mintRank entity = leg.rank

/-- The attempts never have a failed mint recovered. -/
def Unrecovered : TokenizedEquityMintEvent → Prop
  | .providerCompletionRecovered .. => False
  | _ => True

def World.Unrecovered (world : World) : Prop :=
  ∀ event ∈ world.mint, CrossVenueEquity.Unrecovered event

theorem redemption_ascends : EquityRedemption.aggregate.Ascends redemptionRank
    (fun event => (redemptionRecord event).map (·.1.rank)) (fun _ => True) where
  first := by
    intro event entity level originates marked
    cases event <;> cases marked <;> cases originates
    exact Nat.zero_lt_one
  rises := by
    intro entity event next _ evolved
    have moved : entity.next event = some next := Except.ok.inj evolved
    cases event with
    | providerCompletionRecovered =>
        cases entity with
        | failed _ _ _ redemptionTx =>
            cases redemptionTx <;> cases moved
            exact le_rfl
        | _ => cases moved
    | _ =>
        cases entity <;> cases moved <;>
          simp [redemptionRank, EquityRedemption.withdrawnState]
  passes := by
    intro entity event next level evolved marked
    have moved : entity.next event = some next := Except.ok.inj evolved
    cases event <;> cases marked <;> cases entity <;> cases moved <;>
      exact Nat.le_of_ble_eq_true rfl

theorem mint_ascends : TokenizedEquityMint.aggregate.Ascends mintRank
    (fun event => (mintRecord event).map (·.1.rank)) Unrecovered where
  first := by
    intro event entity level originates marked
    cases event <;> cases originates
    cases marked
  rises := by
    intro entity event next known evolved
    have moved : entity.next event = some next := Except.ok.inj evolved
    cases event with
    | providerCompletionRecovered => exact known.elim
    | _ => cases entity <;> cases moved <;> simp [mintRank]
  passes := by
    intro entity event next level evolved marked
    have moved : entity.next event = some next := Except.ok.inj evolved
    cases event <;> cases marked <;> cases entity <;> cases moved <;>
      exact Nat.le_of_ble_eq_true rfl

theorem redemption_recalls :
    EquityRedemption.aggregate.Recalls redemptionAwaits redemptionRecord where
  first := by
    intro event entity fact originates known
    cases event <;> cases originates
    all_goals cases known
    rfl
  later := by
    intro entity event next fact evolved known
    have moved : entity.next event = some next := Except.ok.inj evolved
    cases event with
    | providerCompletionRecovered =>
        cases entity with
        | failed _ _ _ redemptionTx =>
            cases redemptionTx <;> cases moved
            cases known
        | _ => cases moved
    | tokensSent =>
        cases entity <;> cases moved <;> cases known
    | _ => cases entity <;> cases moved <;> exact .inr known

theorem mint_recalls : TokenizedEquityMint.aggregate.Recalls mintAwaits mintRecord where
  first := by
    intro event entity fact originates known
    cases event <;> cases originates
    cases known
  later := by
    intro entity event next fact evolved known
    have moved : entity.next event = some next := Except.ok.inj evolved
    cases event <;> cases entity <;> cases moved <;> exact .inr known

theorem live_of_entity {Entity : Type} {state : Lifecycle Entity} {entity : Entity}
    (live : state.entity? = some entity) : state = .live entity := by
  cases state <;> cases live
  rfl

/-- A transfer that is ready for a transaction has no record of one. -/
theorem World.unrecorded_of_ready {world : World} {leg : Leg} (unrecovered : world.Unrecovered)
    (ready : world.ready leg = true) (hash : TxHash) : world.records leg hash = false := by
  cases redeems : leg.direction with
  | redemption =>
      simp only [World.ready, redeems, World.redemption?, Option.any_eq_true,
        decide_eq_true_eq] at ready
      obtain ⟨entity, live, rank⟩ := ready
      simp only [World.records, redeems, List.any_eq_false, decide_eq_true_eq]
      intro event member recorded
      have behind := redemption_ascends.behind (fun _ _ => trivial) (live_of_entity live) member
        (congrArg (Option.map fun record => record.1.rank) recorded)
      exact behind.ne rank.symm
  | mint =>
      simp only [World.ready, redeems, World.mint?, Option.any_eq_true,
        decide_eq_true_eq] at ready
      obtain ⟨entity, live, rank⟩ := ready
      simp only [World.records, redeems, List.any_eq_false, decide_eq_true_eq]
      intro event member recorded
      have behind := mint_ascends.behind unrecovered (live_of_entity live) member
        (congrArg (Option.map fun record => record.1.rank) recorded)
      exact behind.ne rank.symm

end Liquidity.CrossVenueEquity
