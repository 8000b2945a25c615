import Liquidity.EventSourcing.Aggregate
import Liquidity.Finance

/-!
# The onchain trade aggregate

One aggregate for each onchain fill, keyed by transaction hash and log index. It
is witnessed once, may be enriched with gas and oracle data, and is marked
acknowledged after the position has applied the fill.
-/

namespace Liquidity

open EventSourcing

structure PythPrice where
  value : String
  expo : Int
  conf : String
  publishTime : Time
  deriving DecidableEq, Repr

structure Enrichment where
  gasUsed : Nat
  effectiveGasPrice : Nat
  pythPrice : PythPrice
  enrichedAt : Time
  deriving DecidableEq, Repr

structure OnChainTrade where
  symbol : Symbol
  amount : ℚ
  direction : Direction
  priceUsdc : ℚ
  blockNumber : Option Nat
  blockTimestamp : Time
  filledAt : Time
  enrichment : Option Enrichment
  acknowledgedAt : Option Time
  deriving DecidableEq

inductive OnChainTradeEvent where
  | filled (symbol : Symbol) (amount : ℚ) (direction : Direction) (priceUsdc : ℚ)
      (blockNumber : Nat) (blockTimestamp filledAt : Time)
  | enriched (gasUsed effectiveGasPrice : Nat) (pythPrice : PythPrice) (enrichedAt : Time)
  | acknowledged (acknowledgedAt : Time)
  deriving DecidableEq

inductive OnChainTradeCommand where
  | witness (symbol : Symbol) (amount : ℚ) (direction : Direction) (priceUsdc : ℚ)
      (blockNumber : Nat) (blockTimestamp : Time)
  | enrich (gasUsed effectiveGasPrice : Nat) (pythPrice : PythPrice)
  | acknowledge
  deriving DecidableEq

inductive OnChainTradeError where
  | notFilled
  | alreadyEnriched
  | alreadyFilled
  | alreadyAcknowledged
  | gasPriceOutOfRange (effectiveGasPrice : Nat)
  deriving DecidableEq, Repr

namespace OnChainTrade

def isEnriched (trade : OnChainTrade) : Bool := trade.enrichment.isSome

def isAcknowledged (trade : OnChainTrade) : Bool := trade.acknowledgedAt.isSome

def originate : OnChainTradeEvent → Option OnChainTrade
  | .filled symbol amount direction priceUsdc blockNumber blockTimestamp filledAt =>
      some
        { symbol, amount, direction, priceUsdc, blockNumber := some blockNumber, blockTimestamp
          filledAt, enrichment := none, acknowledgedAt := none }
  | .enriched .. | .acknowledged _ => none

def evolve (entity : OnChainTrade) :
    OnChainTradeEvent → Except OnChainTradeError (Option OnChainTrade)
  | .enriched gasUsed effectiveGasPrice pythPrice enrichedAt =>
      .ok (some
        { entity with
          enrichment := some { gasUsed, effectiveGasPrice, pythPrice, enrichedAt } })
  | .acknowledged acknowledgedAt =>
      .ok (some { entity with acknowledgedAt := some acknowledgedAt })
  | .filled .. => .ok none

def initialise (now : Time) :
    OnChainTradeCommand → Except OnChainTradeError (List OnChainTradeEvent)
  | .witness symbol amount direction priceUsdc blockNumber blockTimestamp =>
      .ok [.filled symbol amount direction priceUsdc blockNumber blockTimestamp now]
  | .enrich .. | .acknowledge => .error .notFilled

/-- The largest gas price the database column can hold. -/
def maxGasPrice : Nat := 2 ^ 63 - 1

def transition (now : Time) (entity : OnChainTrade) :
    OnChainTradeCommand → Except OnChainTradeError (List OnChainTradeEvent)
  | .witness .. => .error .alreadyFilled
  | .enrich gasUsed effectiveGasPrice pythPrice =>
      if entity.isEnriched then .error .alreadyEnriched
      else if effectiveGasPrice > maxGasPrice then .error (.gasPriceOutOfRange effectiveGasPrice)
      else .ok [.enriched gasUsed effectiveGasPrice pythPrice now]
  | .acknowledge =>
      if entity.isAcknowledged then .error .alreadyAcknowledged else .ok [.acknowledged now]

/-- The onchain trade as an event-sourced aggregate. -/
def aggregate :
    Aggregate OnChainTrade OnChainTradeEvent OnChainTradeCommand OnChainTradeError Time where
  originate := originate
  evolve := evolve
  initialise := initialise
  transition := transition

/-- A stored trade that carries the acknowledgement marker. -/
def Acknowledged (stream : List OnChainTradeEvent) : Prop :=
  ∃ trade, aggregate.lifecycle stream = .live trade ∧ trade.isAcknowledged

theorem not_acknowledged_nil : ¬ Acknowledged [] := by
  rintro ⟨trade, live, -⟩
  cases live

/-- Only the acknowledgement sets the marker. -/
theorem acknowledged_of_send {now : Time} {command : OnChainTradeCommand}
    {stream events : List OnChainTradeEvent} (other : command ≠ .acknowledge)
    (sent : aggregate.send now command stream = .ok events)
    (after : Acknowledged (stream ++ events)) : Acknowledged stream := by
  obtain ⟨trade, live, marker⟩ := after
  rw [Aggregate.lifecycle_append] at live
  rcases aggregate.send_eq_ok.mp sent with ⟨absent, created⟩ | ⟨entity, present, produced⟩
  · cases command <;> cases created
    rw [absent] at live
    cases live
    cases marker
  · refine ⟨entity, present, ?_⟩
    rw [present] at live
    cases command with
    | witness => cases produced
    | acknowledge => exact absurd rfl other
    | enrich gasUsed effectiveGasPrice pythPrice =>
        simp only [aggregate, transition] at produced
        split at produced
        · cases produced
        · split at produced <;> cases produced
          cases live
          exact marker

/-- An accepted acknowledgement leaves the trade acknowledged. -/
theorem send_acknowledge_ok {now : Time} {stream events : List OnChainTradeEvent}
    (sent : aggregate.send now .acknowledge stream = .ok events) :
    Acknowledged (stream ++ events) := by
  rcases aggregate.send_eq_ok.mp sent with ⟨-, created⟩ | ⟨entity, present, produced⟩
  · cases created
  · simp only [aggregate, transition] at produced
    split at produced <;> cases produced
    exact ⟨{ entity with acknowledgedAt := some now }, by
      rw [Aggregate.lifecycle_append, present]
      rfl, rfl⟩

/-- One that is refused as a repetition finds the trade acknowledged. -/
theorem send_acknowledge_repeated {now : Time} {stream : List OnChainTradeEvent}
    (sent : aggregate.send now .acknowledge stream = .error (.rejected .alreadyAcknowledged)) :
    Acknowledged stream := by
  unfold Aggregate.send at sent
  cases state : aggregate.lifecycle stream with
  | uninitialized => rw [state] at sent; cases sent
  | failed => rw [state] at sent; cases sent
  | live entity =>
      refine ⟨entity, state, ?_⟩
      rw [state] at sent
      by_contra unmarked
      simp [Aggregate.decide, aggregate, transition, unmarked, Except.mapError] at sent

end OnChainTrade

end Liquidity
