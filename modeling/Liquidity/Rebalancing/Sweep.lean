import Liquidity.Rebalancing.Reactor

/-!
# Stuck transfers and restarts

A sweep looks at transfers that have made no progress for a while. One that is
tracked as past its burn is given up only when the store says an operator
reconciled it. One tracked as before its burn is given up when its time is
over, unless the store shows an Alpaca withdrawal that can be driven on.

Memory is lost on a restart. The guard is then set again if any stored rebalance
still holds it, and the failures that nothing drives on get a tracking entry
back, so that the sweep can see them.
-/

namespace Liquidity

/-- The rows of a transfer's job: none, one the queue still runs or retries, or
only ones that have ended. -/
inductive JobRow where
  | absent
  | live
  | ended
  deriving DecidableEq, Repr

inductive UsdcTimeoutCleanup where
  | cleared (tracking : UsdcRebalanceTracking) (elapsed : Time)
  | preservedPostBurn (tracking : UsdcRebalanceTracking) (elapsed : Time)
  | reArmAlpacaToBaseWithdrawal (tracking : UsdcRebalanceTracking) (elapsed : Time) (amount : Usdc)
  deriving DecidableEq

inductive RearmPolicy where
  | recoverableFailure
  | postBurnResumable
  | midFlightPreBurn
  | alpacaToBaseIdempotentRedrive
  deriving DecidableEq, Repr

/-- A rebalance as the store answers for it; the store may fail to load it. -/
abbrev Loaded := Except Unit (Option UsdcRebalance)

/-- Withdrawals from Alpaca that a redrive continues instead of repeating. -/
def UsdcRebalance.alpacaWithdrawal : UsdcRebalance → Option Usdc
  | .withdrawing .alpacaToBase amount .. | .withdrawalComplete .alpacaToBase amount .. => some amount
  | _ => none

namespace RebalancingService

/-- Time since the last progress, unless the clock has gone backwards. -/
def elapsedSinceTimeoutStart (lastProgressAt now : Time) : Option Time :=
  if lastProgressAt ≤ now then some (now - lastProgressAt) else none

/-- How long a timed out transfer is remembered. -/
def timeoutTombstoneRetention : Time := 24 * 60 * 60

def pruneTimeoutMarkers (service : RebalancingService) (now : Time) : RebalancingService :=
  { service with
    timedOutUsdcRebalances := fun id => (service.timedOutUsdcRebalances id).filter fun markedAt =>
      !(elapsedSinceTimeoutStart markedAt now).any (timeoutTombstoneRetention < ·) }

/-- Give a transfer up: its inflight and its place in the inventory are cleared,
its entry is dropped, and its later events will be ignored. -/
def abandon (service : RebalancingService) (id : UsdcRebalanceId) (source : Venue) (now : Time) :
    Except RebalancingServiceError RebalancingService := do
  let inventory ← (service.inventory.clearUsdcInflight source now).mapError .inventory
  return { service.untrack id with
    inventory := inventory.clearActiveUsdcRebalance
    timedOutUsdcRebalances := Function.update service.timedOutUsdcRebalances id (some now) }

def cleanupTimedOutUsdcRebalance (service : RebalancingService) (transferTimeout : Time)
    (id : UsdcRebalanceId) (loaded : Loaded) (now : Time) :
    Except RebalancingServiceError (Option UsdcTimeoutCleanup × RebalancingService) :=
  match service.usdcTracking id with
  | none => .ok (none, service)
  | some tracking =>
      match elapsedSinceTimeoutStart tracking.lastProgressAt now with
      | none => .ok (none, service)
      | some elapsed =>
          if tracking.isPostBurn then
            match loaded with
            | .ok (some (.reconciled ..)) => do
                let service ← service.abandon id tracking.sourceVenue now
                return (some (.cleared tracking elapsed), service)
            | .error _ => .ok (some (.preservedPostBurn tracking elapsed), service)
            | .ok _ =>
                if elapsed < transferTimeout then .ok (none, service)
                else .ok (some (.preservedPostBurn tracking elapsed), service)
          else if elapsed < transferTimeout then .ok (none, service)
          else
            match loaded with
            | .error _ => .ok (none, service)
            | .ok stored =>
                match stored.bind UsdcRebalance.alpacaWithdrawal with
                | some amount =>
                    .ok (some (.reArmAlpacaToBaseWithdrawal tracking elapsed amount), service)
                | none => do
                    let service ← service.abandon id tracking.sourceVenue now
                    return (some (.cleared tracking elapsed), service)

/-- Whether the sweep selects a transfer at all. -/
def isStuck (service : RebalancingService) (transferTimeout : Time) (id : UsdcRebalanceId)
    (now : Time) : Bool :=
  (service.usdcTracking id).any fun tracking =>
    (elapsedSinceTimeoutStart tracking.lastProgressAt now).any fun elapsed =>
      tracking.isPostBurn || transferTimeout ≤ elapsed

/-- The sweep's work on one transfer. One whose job is live is left to it, and
an unreadable job table counts as a live job. -/
def expireStuckUsdcRebalance (service : RebalancingService) (transferTimeout : Time)
    (id : UsdcRebalanceId) (row : Option JobRow) (loaded : Loaded) (now : Time) :
    Except RebalancingServiceError (Option UsdcTimeoutCleanup × RebalancingService) :=
  if service.isStuck transferTimeout id now && row.any (· ≠ .live) then do
    let (cleanup, service) ← service.cleanupTimedOutUsdcRebalance transferTimeout id loaded now
    match cleanup with
    | none => return (none, service)
    | some (.cleared tracking elapsed) =>
        return (some (.cleared tracking elapsed), { service with usdcInProgress := false })
    | some other => return (some other, { service with usdcInProgress := true })
  else .ok (none, service)

/-! ## Restart -/

/-- The tracking entry of a failure that only an operator can resolve. It is put
past the burn, where the sweep asks the store. -/
def recoveredTracking (entity : UsdcRebalance) : Option UsdcRebalanceTracking :=
  entity.guardRecoveryTrackingData.map fun (direction, amount, lastProgressAt) =>
    ⟨direction, amount, none, .bridgingInitiated, lastProgressAt⟩

/-- Whether a stored rebalance sets the guard on startup. One that cannot be
read does. -/
def holdsGuardOnStartup : Loaded → Bool
  | .ok (some entity) => entity.holdsRebalanceGuard
  | .ok none | .error _ => true

/-- Track an interrupted rebalance again, if it is such a failure. -/
def recoverTracking (service : RebalancingService) (candidate : UsdcRebalanceId × Loaded) :
    RebalancingService :=
  match candidate.2 with
  | .ok (some entity) =>
      match entity.holdsRebalanceGuard, recoveredTracking entity with
      | true, some tracking => service.track candidate.1 tracking
      | _, _ => service
  | _ => service

/-- Rebuild the guard from the rebalances that were interrupted. -/
def recoverUsdcGuard (service : RebalancingService) (candidates : List (UsdcRebalanceId × Loaded))
    (unparseable : Bool) : RebalancingService :=
  if candidates.any (holdsGuardOnStartup ·.2) || unparseable then
    candidates.foldl recoverTracking { service with usdcInProgress := true }
  else service

/-- The transfer to put back to work on startup, and under which condition. -/
def rearmCandidate (entity : UsdcRebalance) : Option (RebalanceDirection × Usdc × RearmPolicy) :=
  match entity.resumablePostBurnTransfer with
  | some (direction, amount) =>
      some (direction, amount,
        if entity.phase = .bridgingFailed then .recoverableFailure else .postBurnResumable)
  | none =>
      entity.isResumableMidFlightData.map fun (direction, amount) =>
        (direction, amount,
          if entity.alpacaWithdrawal.isSome then .alpacaToBaseIdempotentRedrive
          else .midFlightPreBurn)

/-- Whether a transfer with these job rows gets a new one. -/
def rearms : RearmPolicy → JobRow → Bool
  | .recoverableFailure, row | .alpacaToBaseIdempotentRedrive, row => row ≠ .live
  | .postBurnResumable, row | .midFlightPreBurn, row => row = .absent

end RebalancingService

end Liquidity
