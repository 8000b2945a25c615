import Liquidity.Cctp.Message
import Liquidity.Transfer.World

/-!
# What became of a burn

A burn that was broadcast is polled for until it is mined, is seen waiting, or has
been absent often enough to be called dropped. Any sighting and any failed call end
the loop, so that it only goes on from absence to absence.
-/

namespace Liquidity.Cctp

open Receipts (EvmError TransportError TransactionReceipt)
open Transfer (BurnTxStatus)

structure BurnDropConfig where
  grace : Time
  consecutiveMisses : Nat
  deriving DecidableEq, Repr

def BurnDropConfig.defaults : BurnDropConfig where
  grace := 30 * 1000000000
  consecutiveMisses := 3

/-- One round of the loop. What is asked only sometimes counts only then. -/
structure BurnPoll (Log : Type) where
  receipt : Except TransportError (Option (TransactionReceipt Log))
  /-- The receipt of a revert, once it is deep enough. -/
  confirmed : Except EvmError (TransactionReceipt Log)
  mempool : Except TransportError (Option TxHash)
  /-- When the grace period is checked. -/
  elapsed : Time

/-- The rounds of a call. Time does not run backwards. -/
structure BurnPolls (Log : Type) where
  rounds : List (BurnPoll Log)
  clock : rounds.Pairwise fun first second => first.elapsed ≤ second.elapsed

variable {Log : Type}

/-- How the loop ends. -/
abbrev BurnVerdict := Except CctpError BurnTxStatus

/-- A revert is trusted only once it is deep enough. -/
def minedStatus (receipt : TransactionReceipt Log)
    (confirmed : Except EvmError (TransactionReceipt Log)) : BurnVerdict :=
  if receipt.status then .ok .minedSuccess
  else
    match confirmed with
    | .error error => .error (.evm error)
    | .ok confirmed => .ok (if confirmed.status then .minedSuccess else .minedReverted)

/-- One round. An error of the round is the end of the loop. -/
def pollBurn (config : BurnDropConfig) (consecutiveMisses : Nat) (poll : BurnPoll Log) :
    Except BurnVerdict Nat :=
  match poll.receipt with
  | .error error => .error (.error (.rpcTransport error))
  | .ok (some receipt) => .error (minedStatus receipt poll.confirmed)
  | .ok none =>
      match poll.mempool with
      | .error error => .error (.error (.rpcTransport error))
      | .ok (some _) => .error (.ok .pending)
      | .ok none =>
          if config.grace ≤ poll.elapsed then
            if config.consecutiveMisses ≤ consecutiveMisses + 1 then .error (.ok .dropped)
            else .ok (consecutiveMisses + 1)
          else .ok consecutiveMisses

/-- Nothing as long as the loop goes on. -/
def burnStatusWithConfig (config : BurnDropConfig) (polls : BurnPolls Log) : Option BurnVerdict :=
  match polls.rounds.foldlM (pollBurn config) 0 with
  | .error verdict => some verdict
  | .ok _ => none

/-- The rounds the loop goes through. -/
def burnRounds (config : BurnDropConfig) (polls : BurnPolls Log) : List (BurnPoll Log) :=
  Polling.polled (pollBurn config) 0 polls.rounds

/-! ## Drops -/

/-- Both lookups succeed after the grace period, and neither knows the burn. -/
structure BurnPoll.IsAbsence (config : BurnDropConfig) (poll : BurnPoll Log) : Prop where
  late : config.grace ≤ poll.elapsed
  noReceipt : poll.receipt = .ok none
  noMempool : poll.mempool = .ok none

/-- An absence after the grace period is counted. Before it, it is not; then nothing has
been counted yet. -/
def burnEffect (config : BurnDropConfig) (poll : BurnPoll Log) : Polling.Effect :=
  if config.grace ≤ poll.elapsed then .adds else .resets

/-- A round that goes on has seen the burn nowhere. -/
theorem pollBurn_eq_ok {config : BurnDropConfig} {misses next : Nat} {poll : BurnPoll Log} :
    pollBurn config misses poll = .ok next ↔
      poll.receipt = .ok none ∧ poll.mempool = .ok none ∧
        (config.grace ≤ poll.elapsed → misses + 1 < config.consecutiveMisses) ∧
        next = if config.grace ≤ poll.elapsed then misses + 1 else misses := by
  rw [pollBurn]
  rcases poll.receipt with error | _ | receipt
  · simp
  · rcases poll.mempool with error | _ | seen
    · simp
    · by_cases late : config.grace ≤ poll.elapsed
      · by_cases many : config.consecutiveMisses ≤ misses + 1
        · simp [late, many, Nat.not_lt.mpr many]
        · simp [late, many, Nat.not_le.mp many, eq_comm]
      · simp [late, eq_comm]
    · simp
  · simp

theorem pollBurn_eq_dropped {config : BurnDropConfig} {misses : Nat} {poll : BurnPoll Log} :
    pollBurn config misses poll = .error (.ok .dropped) ↔
      poll.IsAbsence config ∧ config.consecutiveMisses ≤ misses + 1 := by
  rw [pollBurn]
  constructor
  · intro dropped
    cases receipt : poll.receipt with
    | error error => simp [receipt] at dropped
    | ok found =>
        cases found with
        | some mined =>
            simp only [receipt, minedStatus, Except.error.injEq] at dropped
            split at dropped
            case isTrue => cases dropped
            case isFalse =>
                split at dropped
                case h_1 => cases dropped
                case h_2 => split at dropped <;> cases dropped
        | none =>
            cases mempool : poll.mempool with
            | error error => simp [receipt, mempool] at dropped
            | ok seen =>
                cases seen with
                | some hash => simp [receipt, mempool] at dropped
                | none =>
                    by_cases late : config.grace ≤ poll.elapsed
                    · by_cases many : config.consecutiveMisses ≤ misses + 1
                      · exact ⟨⟨late, receipt, mempool⟩, many⟩
                      · simp [receipt, mempool, late, many] at dropped
                    · simp [receipt, mempool, late] at dropped
  · intro ⟨absent, many⟩
    simp [absent.noReceipt, absent.noMempool, absent.late, many]

/-- Rounds that go on count their last ones, all of them absences. -/
theorem foldlM_pollBurn {config : BurnDropConfig} {rounds : List (BurnPoll Log)} {misses : Nat}
    (clock : rounds.Pairwise fun first second => first.elapsed ≤ second.elapsed)
    (ran : rounds.foldlM (pollBurn config) 0 = .ok misses) :
    misses = Polling.counted (burnEffect config) rounds ∧
      ∀ poll ∈ rounds, poll.receipt = .ok none ∧ poll.mempool = .ok none := by
  induction rounds using List.reverseRecOn generalizing misses with
  | nil =>
      cases ran
      exact ⟨rfl, by simp⟩
  | append_singleton rounds last ih =>
      rw [List.foldlM_append] at ran
      obtain ⟨before, went, stepped⟩ := bind_eq_ok.mp ran
      rw [List.foldlM_cons] at stepped
      obtain ⟨after, polled, ended⟩ := bind_eq_ok.mp stepped
      cases ended
      obtain ⟨earlier, _, ordered⟩ := List.pairwise_append.mp clock
      obtain ⟨same, absent⟩ := ih earlier went
      obtain ⟨noReceipt, noMempool, _, next⟩ := pollBurn_eq_ok.mp polled
      refine ⟨?_, ?_⟩
      · rw [next, Polling.counted_concat, Polling.count, burnEffect]
        split
        case isTrue => rw [same]
        case isFalse early =>
            -- All earlier rounds were in the grace period, too.
            have zero : Polling.counted (burnEffect config) rounds = 0 := by
              by_contra positive
              obtain ⟨first, rest, suffix, begins, _⟩ :=
                Polling.exists_run Nat.one_pos (Nat.one_le_iff_ne_zero.mpr positive)
              have among := suffix.mem List.mem_cons_self
              have before := ordered first among last List.mem_cons_self
              rw [burnEffect] at begins
              split at begins
              case isTrue late => exact early (late.trans before)
              case isFalse => cases begins
            rw [same, zero]
      · intro poll listed
        obtain listed | listed := List.mem_append.mp listed
        · exact absent poll listed
        · obtain rfl := List.mem_singleton.mp listed
          exact ⟨noReceipt, noMempool⟩

/-- A burn is dropped after as many absences in a row. -/
theorem burnStatus_dropped {config : BurnDropConfig} {polls : BurnPolls Log}
    (dropped : burnStatusWithConfig config polls = some (.ok .dropped)) :
    Polling.LastAll config.consecutiveMisses (BurnPoll.IsAbsence config)
      (burnRounds config polls) := by
  rw [burnStatusWithConfig] at dropped
  split at dropped
  case h_2 => cases dropped
  case h_1 verdict ended =>
      cases dropped
      obtain ⟨before, last, after, misses, rounds, ran, stepped⟩ := Polling.exists_of_error ended
      have clock := polls.clock
      rw [rounds] at clock
      have split := List.append_cons before last after ▸ clock
      obtain ⟨same, absent⟩ := foldlM_pollBurn (List.pairwise_append.mp clock).1 ran
      obtain ⟨lastAbsent, many⟩ := pollBurn_eq_dropped.mp stepped
      rw [burnRounds, rounds, Polling.polled_of_ended ran stepped]
      have adds : burnEffect config last = .adds := if_pos lastAbsent.late
      have counted : config.consecutiveMisses ≤
          Polling.counted (burnEffect config) (before ++ [last]) := by
        rw [Polling.counted_concat, Polling.count, adds, ← same]
        exact many
      have sharp : ∀ poll ∈ before ++ [last], burnEffect config poll ≠ .keeps := by
        intro poll _
        rw [burnEffect]
        split <;> decide
      obtain ⟨long, all⟩ := (Polling.le_counted_iff sharp).mp counted
      refine ⟨long, fun poll listed => ?_⟩
      have late : config.grace ≤ poll.elapsed := by
        have added : burnEffect config poll = .adds := all poll listed
        rw [burnEffect] at added
        split at added
        case isTrue late => exact late
        case isFalse => cases added
      obtain listed | listed := List.mem_append.mp (List.mem_of_mem_drop listed)
      · obtain ⟨noReceipt, noMempool⟩ := absent poll listed
        exact ⟨late, noReceipt, noMempool⟩
      · obtain rfl := List.mem_singleton.mp listed
        exact lastAbsent

end Liquidity.Cctp
