import Liquidity.Transfer.Scans
import Liquidity.Transfer.Burn

/-!
# A transfer moves the money once

Both directions guard each irreversible call against being repeated, and both
leave a gap. An AlpacaToBase attempt that loads `conversionComplete` or `bridged`
withdraws or deposits without asking whether an earlier attempt did. A
BaseToAlpaca attempt asks the chain, which does not show the mempool. Wherever
the gap is not hit, every call is made at most once.
-/

namespace Liquidity.Transfer

open EventSourcing Process UsdcRebalance

/-- The calls of one kind that were submitted. -/
def World.submitted (world : World) (call : Call) : Nat :=
  world.ledger.countP fun tx => tx.kind = .call call

/-- The calls of one kind that were mined successfully. -/
def World.mined (world : World) (call : Call) : Nat :=
  world.ledger.countP fun tx =>
    tx.kind = .call call && match tx.status with
      | .succeeded _ => true
      | _ => false

theorem World.mined_le_made (world : World) (call : Call) :
    world.mined call ≤ world.made (.call call) := by
  refine List.countP_mono_left fun tx _ mined => ?_
  simp only [Bool.and_eq_true, decide_eq_true_eq] at mined ⊢
  obtain ⟨kind, mined⟩ := mined
  refine ⟨kind, ?_⟩
  split at mined
  case h_1 block succeeded =>
    rw [succeeded]
    cases call <;> rfl
  case h_2 => cases mined

theorem World.submitted_deposit (world : World) :
    world.submitted .deposit = world.made (.call .deposit) := by
  simp [World.submitted, World.made, Call.counts]

/-! ## From Alpaca to Base -/

/-- An attempt that loads a converted rebalance finds no withdrawal initiated, and
one that loads a bridged rebalance finds no deposit submitted. -/
def LoadsUnspent (op : Op) (world : World) : Prop :=
  op.loads = true →
    (world.stage = .converted → world.withdrawals.length = 0) ∧
      (world.stage = .bridged → world.submitted .deposit = 0)

instance (op : Op) (world : World) : Decidable (LoadsUnspent op world) :=
  inferInstanceAs (Decidable (_ → _ ∧ _))

theorem LoadsUnspent.withdrawal {op : Op} {world : World} (unspent : LoadsUnspent op world) :
    LoadsUnmade .alpacaWithdrawal op world :=
  fun loads _ here => (unspent loads).1 here

theorem LoadsUnspent.deposit {op : Op} {world : World} (unspent : LoadsUnspent op world) :
    LoadsUnmade (.call .deposit) op world := by
  intro loads _ here
  rw [← world.submitted_deposit]
  exact (unspent loads).2 here

section Results

variable [FloatFormat]

/-- However attempts, tasks, crashes, lost answers and mining interleave: if no
attempt loads a rebalance whose next call has been made already, one withdrawal
is initiated and one deposit submitted, at most. -/
theorem alpacaToBase_moves_once (config : Config) (schedule : List (Act Choice Label Env))
    (final : Process.Config Op Op.Ret UsdcTransferError Unit World Label)
    (unspent : (system config .alpacaToBase).MeetsAll (fun _ => LoadsUnspent)
      ⟨World.empty, []⟩ schedule)
    (ran : (system config .alpacaToBase).run ⟨World.empty, []⟩ schedule = some final) :
    final.shared.withdrawals.length ≤ 1 ∧ final.shared.submitted .deposit ≤ 1 := by
  let both := fun world => Once .alpacaWithdrawal world ∧ Once (.call .deposit) world
  have once : both final.shared := by
    refine run_keeps config (And.intro (Once.empty _) (Once.empty _)) ?_ ?_ unspent ran
    · rintro label op choice before answer after sane - allowed fits handled ⟨withdrawal, deposit⟩
      cases label with
      | burn task =>
          exact ⟨withdrawal.ofTask sane fits handled, deposit.ofTask sane fits handled⟩
      | attempt =>
          refine ⟨withdrawal.ofAttempt sane allowed.withdrawal (by simp) fits handled,
            deposit.ofAttempt sane allowed.deposit ?_ fits handled⟩
          intro call seeks is
          cases is
          cases op <;> cases seeks
    · rintro change before after - - changed ⟨withdrawal, deposit⟩
      exact ⟨withdrawal.environment changed, deposit.environment changed⟩
  refine ⟨once.1.most, ?_⟩
  rw [final.shared.submitted_deposit]
  exact once.2.most

end Results

/-- An answer that brings a transfer forward: the order is filled, the payout has
arrived, and `number` is the block, the balance or the mint that is reported. -/
def forward (number : Nat) : Choice :=
  { number, order := ⟨0, .filled, some 10000, some 1⟩, transfer := ⟨.complete, some 0⟩ }

/-- The thread at `index` performs operations with such answers. -/
def advance (index count number : Nat) : List (Act Choice Label Env) :=
  List.replicate count (.step index (forward number))

/-- Cash is converted. -/
def converted : List (Act Choice Label Env) :=
  [.start (.attempt 10000)] ++ advance 0 5 1

/-- Alpaca accepts the withdrawal, which is not recorded yet. -/
def withdrawalAccepted : List (Act Choice Label Env) :=
  converted ++ advance 0 1 1

/-- An accepted withdrawal is recorded, and its payout burned and minted. -/
def payoutBridged : List (Act Choice Label Env) :=
  advance 0 2 1 ++ [.env (.landPayout 5)] ++ advance 0 8 1 ++
    [.start (.burn 0)] ++ advance 1 5 1 ++ advance 0 1 1 ++ [.env (.mine 1 true)] ++ advance 0 2 1 ++
    [.env (.landMint .base 7000000 1)] ++ advance 0 3 1 ++ advance 0 2 2

/-- The deposit is submitted but not recorded. -/
def depositSubmitted : List (Act Choice Label Env) :=
  withdrawalAccepted ++ payoutBridged ++ advance 0 1 2

/-- One attempt converts, the next one loads what it recorded, withdraws and bridges, and
the last one loads that, deposits and confirms. -/
def depositConfirmed : List (Act Choice Label Env) :=
  converted ++ [.crash 0, .start (.attempt 10000)] ++ advance 0 2 1 ++ payoutBridged ++
    [.crash 0, .start (.attempt 10000)] ++ advance 1 3 2 ++ [.env (.mine 3 true)] ++ advance 1 2 2

/-- An attempt crashes before it records the withdrawal. -/
def withdrawalRepeated : List (Act Choice Label Env) :=
  withdrawalAccepted ++ [.crash 0, .start (.attempt 10000)] ++ advance 0 2 1

/-- An attempt crashes before it records the deposit. -/
def depositRepeated : List (Act Choice Label Env) :=
  depositSubmitted ++ [.crash 0, .start (.attempt 10000)] ++ advance 1 2 2 ++
    [.env (.mine 3 true), .env (.mine 4 true)]

theorem alpacaToBase_moves_once_confirmed :
    ∃ final, (@system FloatFormat.exact ⟨100, 1⟩ .alpacaToBase).run ⟨World.empty, []⟩
        depositConfirmed = some final ∧
      final.shared.stage = .depositConfirmed ∧
      final.shared.withdrawals.length = 1 ∧ final.shared.withdrawals.length ≤ 1 ∧
      final.shared.submitted .deposit = 1 ∧ final.shared.submitted .deposit ≤ 1 := by
  have meets : (@system FloatFormat.exact ⟨100, 1⟩ .alpacaToBase).MeetsAll
      (fun _ => LoadsUnspent) ⟨World.empty, []⟩ depositConfirmed := by
    decide +kernel
  have runs : ((@system FloatFormat.exact ⟨100, 1⟩ .alpacaToBase).run ⟨World.empty, []⟩
      depositConfirmed).map (fun final => (final.shared.stage, final.shared.withdrawals.length,
        final.shared.submitted .deposit)) = some (.depositConfirmed, 1, 1) := by
    decide +kernel
  obtain ⟨final, ran, result⟩ := Option.map_eq_some_iff.mp runs
  simp only [Prod.mk.injEq] at result
  obtain ⟨atMost, atMost'⟩ :=
    @alpacaToBase_moves_once FloatFormat.exact ⟨100, 1⟩ depositConfirmed final meets ran
  exact ⟨final, ran, result.1, result.2.1, atMost, result.2.2, atMost'⟩

theorem alpacaToBase_moves_twice :
    (∃ final, (@system FloatFormat.exact ⟨100, 1⟩ .alpacaToBase).run ⟨World.empty, []⟩
        withdrawalRepeated = some final ∧ final.shared.withdrawals.length = 2) ∧
      ∃ final, (@system FloatFormat.exact ⟨100, 1⟩ .alpacaToBase).run ⟨World.empty, []⟩
        depositRepeated = some final ∧ final.shared.mined .deposit = 2 := by
  have withdraws : ((@system FloatFormat.exact ⟨100, 1⟩ .alpacaToBase).run ⟨World.empty, []⟩
      withdrawalRepeated).map (fun final => final.shared.withdrawals.length) = some 2 := by
    decide +kernel
  have deposits : ((@system FloatFormat.exact ⟨100, 1⟩ .alpacaToBase).run ⟨World.empty, []⟩
      depositRepeated).map (fun final => final.shared.mined .deposit) = some 2 := by
    decide +kernel
  exact ⟨Option.map_eq_some_iff.mp withdraws, Option.map_eq_some_iff.mp deposits⟩

/-! ## From Base to Alpaca -/

section Results

variable [FloatFormat]

/-- What holds along a BaseToAlpaca transfer whose scans are settled. -/
structure Unrepeated (world : World) : Prop where
  withdraw : Once (.call .withdraw) world
  transfer : Once (.call .transfer) world
  conversion : Once (.conversion .usdcToUsd) world
  dated : Dated world

omit [FloatFormat] in
theorem Unrepeated.ofAttempt {choice : Choice} {before after : World} {op : Op} {answer : op.Ret}
    (holds : Unrepeated before) (sane : Sane before) (settled : ScansSettled op before)
    (fits : AttemptFits .baseToAlpaca op before)
    (handled : handle choice op before = some (answer, after)) : Unrepeated after where
  withdraw := by
    refine holds.withdraw.ofAttempt sane (fun _ blind => by cases blind) ?_ fits handled
    intro call seeks is noted
    cases is
    exact holds.dated.absent settled fits handled seeks noted
  transfer := by
    refine holds.transfer.ofAttempt sane (fun _ blind => by cases blind) ?_ fits handled
    intro call seeks is noted
    cases is
    exact holds.dated.absent settled fits handled seeks noted
  conversion :=
    holds.conversion.ofAttempt sane (fun _ blind => by cases blind) (by simp) fits handled
  dated := holds.dated.ofAttempt sane holds.withdraw holds.transfer fits handled

/-- However attempts, tasks, crashes, lost answers and mining interleave: if no
attempt looks for an earlier call while one is in the mempool, then one vault
withdrawal and one transfer to Alpaca are mined, and one conversion order
placed, at most. -/
theorem baseToAlpaca_moves_once (config : Config) (schedule : List (Act Choice Label Env))
    (final : Process.Config Op Op.Ret UsdcTransferError Unit World Label)
    (settled : (system config .baseToAlpaca).MeetsAll (fun _ => ScansSettled)
      ⟨World.empty, []⟩ schedule)
    (ran : (system config .baseToAlpaca).run ⟨World.empty, []⟩ schedule = some final) :
    final.shared.mined .withdraw ≤ 1 ∧ final.shared.mined .transfer ≤ 1 ∧
      (final.shared.orders.filter fun order => order.direction = .usdcToUsd).length ≤ 1 := by
  have holds : Unrepeated final.shared := by
    refine run_keeps config ⟨Once.empty _, Once.empty _, Once.empty _, Dated.empty⟩ ?_ ?_ settled ran
    · intro label op choice before answer after sane _ allowed fits handled holds
      cases label with
      | attempt => exact holds.ofAttempt sane allowed fits handled
      | burn task =>
          exact ⟨holds.withdraw.ofTask sane fits handled, holds.transfer.ofTask sane fits handled,
            holds.conversion.ofTask sane fits handled, holds.dated.ofTask sane fits handled⟩
    · intro change before after _ _ changed holds
      exact ⟨holds.withdraw.environment changed, holds.transfer.environment changed,
        holds.conversion.environment changed, holds.dated.environment changed⟩
  refine ⟨(World.mined_le_made _ _).trans holds.withdraw.most,
    (World.mined_le_made _ _).trans holds.transfer.most, ?_⟩
  rw [← List.countP_eq_length_filter]
  exact holds.conversion.most

end Results

instance (op : Op) (world : World) : Decidable (ScansSettled op world) :=
  match seeks : op.seeks with
  | none => .isTrue fun _ is => by cases seeks.symm.trans is
  | some wanted =>
      decidable_of_iff (∀ tx ∈ world.ledger, tx.kind = .call wanted → tx.status ≠ .pending)
        ⟨fun settled call is => by cases seeks.symm.trans is; exact settled,
          fun settled => settled wanted seeks⟩

/-- The vault withdrawal is in the mempool. -/
def withdrawalBroadcast : List (Act Choice Label Env) :=
  [.start (.attempt 10000)] ++ proceed 0 5

/-- What was withdrawn is burned and minted, and its transfer is in the mempool. -/
def transferBroadcast : List (Act Choice Label Env) :=
  burnAdopted ++ [.env (.landMint .ethereum 7000000 1)] ++ advance 0 3 0 ++ advance 0 4 2

/-- An attempt is cancelled, the transfer is mined, and the next attempt finds it
and converts what arrived. -/
def transferAdopted : List (Act Choice Label Env) :=
  transferBroadcast ++ [.crash 0, .env (.mine 3 true), .start (.attempt 10000)] ++ advance 1 11 2

/-- An attempt is cancelled while its withdrawal is in the mempool. The next one
finds nothing mined and withdraws again. -/
def vaultWithdrawalRepeated : List (Act Choice Label Env) :=
  withdrawalBroadcast ++ [.crash 0, .env (.advance .base), .env (.advance .base),
    .start (.attempt 10000)] ++ proceed 0 3 ++ [.env (.mine 0 true), .env (.mine 1 true)]

/-- The same with the transfer. -/
def transferRepeated : List (Act Choice Label Env) :=
  transferBroadcast ++ [.crash 0, .env (.advance .ethereum), .env (.advance .ethereum),
    .start (.attempt 10000)] ++ advance 1 5 2 ++ [.env (.mine 3 true), .env (.mine 4 true)]

theorem baseToAlpaca_moves_once_settled :
    ∃ final, (@system FloatFormat.exact ⟨100, 1⟩ .baseToAlpaca).run ⟨World.empty, []⟩
        transferAdopted = some final ∧
      final.shared.stage = .settled ∧
      final.shared.mined .withdraw = 1 ∧ final.shared.mined .withdraw ≤ 1 ∧
      final.shared.mined .transfer = 1 ∧ final.shared.mined .transfer ≤ 1 := by
  have meets : (@system FloatFormat.exact ⟨100, 1⟩ .baseToAlpaca).MeetsAll
      (fun _ => ScansSettled) ⟨World.empty, []⟩ transferAdopted := by
    decide +kernel
  have runs : ((@system FloatFormat.exact ⟨100, 1⟩ .baseToAlpaca).run ⟨World.empty, []⟩
      transferAdopted).map (fun final => (final.shared.stage, final.shared.mined .withdraw,
        final.shared.mined .transfer)) = some (.settled, 1, 1) := by
    decide +kernel
  obtain ⟨final, ran, result⟩ := Option.map_eq_some_iff.mp runs
  simp only [Prod.mk.injEq] at result
  obtain ⟨atMost, atMost', -⟩ :=
    @baseToAlpaca_moves_once FloatFormat.exact ⟨100, 1⟩ transferAdopted final meets ran
  exact ⟨final, ran, result.1, result.2.1, atMost, result.2.2, atMost'⟩

theorem baseToAlpaca_moves_twice :
    (∃ final, (@system FloatFormat.exact ⟨100, 1⟩ .baseToAlpaca).run ⟨World.empty, []⟩
        vaultWithdrawalRepeated = some final ∧ final.shared.mined .withdraw = 2) ∧
      ∃ final, (@system FloatFormat.exact ⟨100, 1⟩ .baseToAlpaca).run ⟨World.empty, []⟩
        transferRepeated = some final ∧ final.shared.mined .transfer = 2 := by
  have withdraws : ((@system FloatFormat.exact ⟨100, 1⟩ .baseToAlpaca).run ⟨World.empty, []⟩
      vaultWithdrawalRepeated).map (fun final => final.shared.mined .withdraw) = some 2 := by
    decide +kernel
  have transfers : ((@system FloatFormat.exact ⟨100, 1⟩ .baseToAlpaca).run ⟨World.empty, []⟩
      transferRepeated).map (fun final => final.shared.mined .transfer) = some 2 := by
    decide +kernel
  exact ⟨Option.map_eq_some_iff.mp withdraws, Option.map_eq_some_iff.mp transfers⟩

end Liquidity.Transfer
