import Liquidity.Rebalancing.EquityReactor

/-!
# Claims of a failed transfer's recovery

Before a failed mint or redemption is recovered, the reactor is made to follow it
again, with its quantity in flight as it was when it failed. Should the recovery
then not be recorded, a small descriptor of what the claim did is used to undo it.
-/

namespace Liquidity

namespace EquityView

def equityInflight (view : EquityView) (symbol : Symbol) (venue : Venue) :
    Option FractionalShares :=
  (view.equities.lookup symbol).bind fun inventory =>
    (inventory.getVenue venue).map VenueBalance.inflight

def clearEquityInflight (view : EquityView) (symbol : Symbol) (venue : Venue) (now : Time) :
    Except InventoryError EquityView :=
  match view.equities.lookup symbol with
  | none => .ok view
  | some inventory => do
      let cleared ← Inventory.setInflight venue 0 inventory
      return { view with
        equities := view.equities.insert symbol (cleared.withLastRebalancing now)
        lastUpdated := now }

end EquityView

/-- What a claim did to the inventory and the tombstones. -/
inductive RecoveryRollback where
  | trackingOnly
  /-- Available was moved in flight. -/
  | cancelInflight
  /-- The transfer had timed out. -/
  | restoreTombstone (timedOutAt : Time) (suppressedAt : Option Time)
  deriving DecidableEq

inductive RecoveryClaim where
  | claimed (rollback : RecoveryRollback)
  /-- Another transfer of the symbol is under way. -/
  | conflict
  deriving DecidableEq

namespace EquityReactor

def markEquityActiveTransfer (reactor : EquityReactor) (symbol : Symbol) : EquityReactor :=
  reactor.withSlot symbol (reactor.slot symbol).markEquityActiveTransfer

/-- Put a marker back, if there was one. -/
def restoreSuppressed (reactor : EquityReactor) (symbol : Symbol) :
    Option Time → EquityReactor
  | some suppressedAt =>
      { reactor with
        suppressedInflightSymbols :=
          Function.update reactor.suppressedInflightSymbols symbol (some suppressedAt) }
  | none => reactor

/-! ## Mints -/

/-- The timeout markers of a mint are consumed. -/
def consumeMintTimeout (reactor : EquityReactor) (id : IssuerRequestId) (symbol : Symbol) :
    EquityReactor :=
  if (reactor.timedOutMints id).isSome then
    { reactor with
      timedOutMints := Function.update reactor.timedOutMints id none
      suppressedInflightSymbols :=
        Function.update reactor.suppressedInflightSymbols symbol none }
  else reactor

/-- No longer follow a mint; what another mint holds of the symbol stays. -/
def abandonMintRecoveryGuard (reactor : EquityReactor) (id : IssuerRequestId)
    (symbol : Symbol) : EquityReactor :=
  let dropped := { reactor with
    mintTracking := reactor.mintTracking.erase id }.clearEquityInProgress symbol
  if dropped.activeMints symbol = some id then
    { dropped with activeMints := Function.update dropped.activeMints symbol none }
  else dropped

/-- The reactor stops following a redemption, likewise. -/
def abandonRedemptionRecoveryGuard (reactor : EquityReactor) (id : RedemptionAggregateId)
    (symbol : Symbol) : EquityReactor :=
  let dropped := { reactor with
    redemptionTracking := reactor.redemptionTracking.erase id }.clearEquityInProgress symbol
  if dropped.activeRedemptions symbol = some id then
    { dropped with activeRedemptions := Function.update dropped.activeRedemptions symbol none }
  else dropped

variable [FloatFormat]

/-- How the quantity comes to be in flight again: a timeout has zeroed it, a
failure that was not heard has left it there, and one that was heard has given it
back. -/
def mintRecoveryUpdate (reactor : EquityReactor) (id : IssuerRequestId) (symbol : Symbol)
    (quantity : FractionalShares) : EquityInventoryUpdate × RecoveryRollback :=
  match reactor.timedOutMints id with
  | some timedOutAt =>
      (Inventory.setInflight .hedging quantity,
        .restoreTombstone timedOutAt (reactor.suppressedInflightSymbols symbol))
  | none =>
      if (reactor.view.equityInflight symbol .hedging).any (· ≠ 0) then
        (Inventory.setInflight .hedging quantity, .trackingOnly)
      else (startEquityTransferUpdate .hedging quantity, .cancelInflight)

def rebuildMintTrackingForRecovery (reactor : EquityReactor) (now : Time) (id : IssuerRequestId)
    (entity : TokenizedEquityMint) (tokenizationRequestId : TokenizationRequestId) :
    EquityReactor × Except EquityReactorError RecoveryClaim :=
  match entity with
  | .failed symbol quantity .. =>
      let (update, rollback) := reactor.mintRecoveryUpdate id symbol quantity
      if (reactor.activeMints symbol).any (· ≠ id) then (reactor, .ok .conflict)
      else
        match reactor.applyEquityUpdate symbol update now with
        | .error error => (reactor, .error error)
        | .ok updated =>
            let consumed := updated.consumeMintTimeout id symbol
            let tracked := { consumed with
              mintTracking := consumed.mintTracking.insert id
                ⟨symbol, quantity, some tokenizationRequestId, .accepted, now⟩ }
            (tracked.markEquityActiveTransfer symbol, .ok (.claimed rollback))
  | _ => (reactor, .ok (.claimed .trackingOnly))

def rollbackMintTrackingForRecovery (reactor : EquityReactor) (now : Time) (id : IssuerRequestId)
    (symbol : Symbol) (quantity : FractionalShares) (rollback : RecoveryRollback) : Outcome :=
  match rollback with
  | .trackingOnly => (reactor.abandonMintRecoveryGuard id symbol, .ok ())
  | .cancelInflight =>
      match reactor.applyEquityUpdate symbol
          (cancelEquityTransferUpdate .hedging quantity now) now with
      | .error error => (reactor, .error error)
      | .ok cancelled => (cancelled.abandonMintRecoveryGuard id symbol, .ok ())
  | .restoreTombstone timedOutAt suppressedAt =>
      match reactor.view.clearEquityInflight symbol .hedging now with
      | .error error => (reactor, .error (.inventory error))
      | .ok view =>
          let restored := { reactor with
            view
            timedOutMints := Function.update reactor.timedOutMints id (some timedOutAt) }
          ((restored.restoreSuppressed symbol suppressedAt).abandonMintRecoveryGuard id symbol,
            .ok ())

/-! ## Redemptions -/

omit [FloatFormat] in
/-- A redemption's quantity was zeroed by a timeout, or is still in flight. -/
def restoreRedemptionInflight (reactor : EquityReactor) (now : Time) (id : RedemptionAggregateId)
    (symbol : Symbol) (quantity : FractionalShares) : Except EquityReactorError EquityReactor :=
  if (reactor.timedOutRedemptions id).isSome then
    reactor.applyEquityUpdate symbol (Inventory.setInflight .marketMaking quantity) now
  else .ok reactor

omit [FloatFormat] in
def consumeRedemptionTimeout (reactor : EquityReactor) (id : RedemptionAggregateId)
    (symbol : Symbol) : EquityReactor × RecoveryRollback :=
  match reactor.timedOutRedemptions id with
  | some timedOutAt =>
      ({ reactor with
        timedOutRedemptions := Function.update reactor.timedOutRedemptions id none
        suppressedInflightSymbols :=
          Function.update reactor.suppressedInflightSymbols symbol none },
        .restoreTombstone timedOutAt (reactor.suppressedInflightSymbols symbol))
  | none => (reactor, .trackingOnly)

omit [FloatFormat] in
def rebuildRedemptionTrackingForRecovery (reactor : EquityReactor) (now : Time)
    (id : RedemptionAggregateId) (entity : EquityRedemption) :
    EquityReactor × Except EquityReactorError RecoveryClaim :=
  match entity with
  | .failed symbol quantity _ redemptionTx tokenizationRequestId .. =>
      if (reactor.activeRedemptions symbol).any (· ≠ id) then (reactor, .ok .conflict)
      else
        match reactor.restoreRedemptionInflight now id symbol quantity with
        | .error error => (reactor, .error error)
        | .ok updated =>
            let (consumed, rollback) := updated.consumeRedemptionTimeout id symbol
            let tracked := { consumed with
              redemptionTracking := consumed.redemptionTracking.insert id
                ⟨symbol, quantity, tokenizationRequestId, redemptionTx, .tokensSent, now⟩ }
            (tracked.markEquityActiveTransfer symbol, .ok (.claimed rollback))
  | _ => (reactor, .ok (.claimed .trackingOnly))

omit [FloatFormat] in
def rollbackRedemptionTrackingForRecovery (reactor : EquityReactor) (now : Time)
    (id : RedemptionAggregateId) (symbol : Symbol) (rollback : RecoveryRollback) : Outcome :=
  match rollback with
  | .trackingOnly | .cancelInflight =>
      (reactor.abandonRedemptionRecoveryGuard id symbol, .ok ())
  | .restoreTombstone timedOutAt suppressedAt =>
      match reactor.view.clearEquityInflight symbol .marketMaking now with
      | .error error => (reactor, .error (.inventory error))
      | .ok view =>
          let restored := { reactor with
            view
            timedOutRedemptions :=
              Function.update reactor.timedOutRedemptions id (some timedOutAt) }
          ((restored.restoreSuppressed symbol suppressedAt).abandonRedemptionRecoveryGuard id
            symbol, .ok ())

end EquityReactor

end Liquidity
