import Liquidity.EquityRecovery.Wrapped

/-!
# The unwrapped-equity recovery aggregate

Unwrapped tokens in the wallet that belong to no transfer are wrapped and then
deposited, and each of the four steps is recorded on its own. A step whose
confirmation is merely late is refused, so that it can be asked again.
-/

namespace Liquidity.EquityRecovery

open EventSourcing

inductive UnwrappedEquityRecovery where
  | detected (symbol : Symbol) (shares : FractionalShares) (detectedAt : Time)
  | dispatchedToMint (symbol : Symbol) (shares : FractionalShares) (detectedAt : Time)
      (mintId : IssuerRequestId) (dispatchedAt : Time)
  | dispatchedToRedemption (symbol : Symbol) (shares : FractionalShares) (detectedAt : Time)
      (redemptionId : RedemptionAggregateId) (dispatchedAt : Time)
  | orphanWrapSubmitted (symbol : Symbol) (shares : FractionalShares) (detectedAt : Time)
      (wrapTxHash : TxHash) (submittedAt : Time)
  | orphanWrapped (symbol : Symbol) (shares : FractionalShares) (detectedAt : Time)
      (wrapTxHash : TxHash) (wrapSubmittedAt : Time) (wrappedAmount : Nat) (wrapConfirmedAt : Time)
      (wrapBlock : Option Nat)
  | orphanDepositSubmitted (symbol : Symbol) (shares : FractionalShares) (detectedAt : Time)
      (wrapTxHash : TxHash) (wrappedAmount : Nat) (vaultDepositTxHash : TxHash)
      (depositSubmittedAt : Time)
  | orphanDeposited (symbol : Symbol) (shares : FractionalShares) (detectedAt : Time)
      (wrapTxHash : TxHash) (wrappedAmount : Nat) (vaultDepositTxHash : TxHash) (depositedAt : Time)
  | failed (symbol : Symbol) (shares : FractionalShares) (reason : String) (failedAt : Time)
  deriving DecidableEq

inductive UnwrappedEquityRecoveryEvent where
  | detected (symbol : Symbol) (shares : FractionalShares) (detectedAt : Time)
  | dispatchedToMint (mintId : IssuerRequestId) (dispatchedAt : Time)
  | dispatchedToRedemption (redemptionId : RedemptionAggregateId) (dispatchedAt : Time)
  | orphanWrapSubmitted (wrapTxHash : TxHash) (submittedAt : Time)
  /-- Events from before the wrap's block was recorded have none. -/
  | orphanWrapped (wrapTxHash : TxHash) (wrappedAmount : Nat) (confirmedAt : Time)
      (wrapBlock : Option Nat)
  | orphanDepositSubmitted (vaultDepositTxHash : TxHash) (submittedAt : Time)
  | orphanDeposited (vaultDepositTxHash : TxHash) (depositedAt : Time)
  | recoveryFailed (reason : String) (failedAt : Time)
  deriving DecidableEq

inductive UnwrappedEquityRecoveryCommand where
  | detect (symbol : Symbol) (shares : FractionalShares)
  | dispatchToMint (mintId : IssuerRequestId)
  | dispatchToRedemption (redemptionId : RedemptionAggregateId)
  | submitOrphanWrap
  | confirmOrphanWrap
  | submitOrphanDeposit
  | confirmOrphanDeposit
  | failRecovery (reason : String)
  deriving DecidableEq

inductive UnwrappedEquityRecoveryError where
  | alreadyInitialized
  | uninitialized
  | invalidTransition (state : UnwrappedEquityRecovery)
  | terminal
  | retryableWrapConfirmation (wrapTxHash : TxHash)
  | retryableDepositConfirmation (vaultDepositTxHash : TxHash)
  | nodeSyncFailed (requiredBlock attempts : Nat)
  deriving DecidableEq

namespace UnwrappedEquityRecovery

def isTerminal : UnwrappedEquityRecovery → Bool
  | .dispatchedToMint .. => true
  | .dispatchedToRedemption .. => true
  | .orphanDeposited .. => true
  | .failed .. => true
  | .detected .. => false
  | .orphanWrapSubmitted .. => false
  | .orphanWrapped .. => false
  | .orphanDepositSubmitted .. => false

def originate : UnwrappedEquityRecoveryEvent → Option UnwrappedEquityRecovery
  | .detected symbol shares detectedAt => some (.detected symbol shares detectedAt)
  | _ => none

def evolve (entity : UnwrappedEquityRecovery) (event : UnwrappedEquityRecoveryEvent) :
    Except UnwrappedEquityRecoveryError (Option UnwrappedEquityRecovery) :=
  match entity, event with
  | .detected symbol shares detectedAt, .dispatchedToMint mintId dispatchedAt =>
      .ok (some (.dispatchedToMint symbol shares detectedAt mintId dispatchedAt))
  | .detected symbol shares detectedAt, .dispatchedToRedemption redemptionId dispatchedAt =>
      .ok (some (.dispatchedToRedemption symbol shares detectedAt redemptionId dispatchedAt))
  | .detected symbol shares detectedAt, .orphanWrapSubmitted wrapTxHash submittedAt =>
      .ok (some (.orphanWrapSubmitted symbol shares detectedAt wrapTxHash submittedAt))
  | .orphanWrapSubmitted symbol shares detectedAt wrapTxHash wrapSubmittedAt,
    .orphanWrapped confirmWrapTxHash wrappedAmount confirmedAt wrapBlock =>
      if wrapTxHash = confirmWrapTxHash then
        .ok (some (.orphanWrapped symbol shares detectedAt wrapTxHash wrapSubmittedAt wrappedAmount
          confirmedAt wrapBlock))
      else .error (.invalidTransition entity)
  | .orphanWrapped symbol shares detectedAt wrapTxHash _ wrappedAmount _ _,
    .orphanDepositSubmitted vaultDepositTxHash submittedAt =>
      .ok (some (.orphanDepositSubmitted symbol shares detectedAt wrapTxHash wrappedAmount
        vaultDepositTxHash submittedAt))
  | .orphanDepositSubmitted symbol shares detectedAt wrapTxHash wrappedAmount vaultDepositTxHash _,
    .orphanDeposited confirmDepositTxHash depositedAt =>
      if vaultDepositTxHash = confirmDepositTxHash then
        .ok (some (.orphanDeposited symbol shares detectedAt wrapTxHash wrappedAmount
          vaultDepositTxHash depositedAt))
      else .error (.invalidTransition entity)
  | .detected symbol shares _, .recoveryFailed reason failedAt =>
      .ok (some (.failed symbol shares reason failedAt))
  | .orphanWrapSubmitted symbol shares _ _ _, .recoveryFailed reason failedAt =>
      .ok (some (.failed symbol shares reason failedAt))
  | .orphanWrapped symbol shares _ _ _ _ _ _, .recoveryFailed reason failedAt =>
      .ok (some (.failed symbol shares reason failedAt))
  | .orphanDepositSubmitted symbol shares _ _ _ _ _, .recoveryFailed reason failedAt =>
      .ok (some (.failed symbol shares reason failedAt))
  | state, _ => .error (.invalidTransition state)

def initialise (services : Services) :
    UnwrappedEquityRecoveryCommand →
      Except UnwrappedEquityRecoveryError (List UnwrappedEquityRecoveryEvent)
  | .detect symbol shares => .ok [.detected symbol shares services.now]
  | _ => .error .uninitialized

/-- A service call that failed for good, as an event. -/
def callFailed (services : Services) (call error : String) : UnwrappedEquityRecoveryEvent :=
  .recoveryFailed s!"{call} failed: {error}" services.now

def resumeMintOrFail (services : Services) (mintId : IssuerRequestId) :
    UnwrappedEquityRecoveryEvent :=
  match services.resumeMint mintId with
  | .ok () => .dispatchedToMint mintId services.now
  | .error error => callFailed services "resume_mint" error

def resumeRedemptionOrFail (services : Services) (redemptionId : RedemptionAggregateId) :
    UnwrappedEquityRecoveryEvent :=
  match services.resumeRedemption redemptionId with
  | .ok () => .dispatchedToRedemption redemptionId services.now
  | .error error => callFailed services "resume_redemption" error

def submitOrphanWrapOrFail (services : Services) (symbol : Symbol) (shares : FractionalShares) :
    UnwrappedEquityRecoveryEvent :=
  match services.lookupDerivative symbol with
  | .error error => callFailed services "wrapper.lookup_derivative" error
  | .ok wrappedToken =>
    match services.toU256 shares with
    | .error error => callFailed services "shares conversion" error
    | .ok underlyingAmount =>
      match services.submitWrap wrappedToken underlyingAmount with
      | .ok wrapTxHash => .orphanWrapSubmitted wrapTxHash services.now
      | .error error => callFailed services "wrapper.submit_wrap" error

/-- Only a wrap that can never be confirmed fails the recovery. -/
def confirmOrphanWrapOrFail (services : Services) (symbol : Symbol) (wrapTxHash : TxHash) :
    Except UnwrappedEquityRecoveryError UnwrappedEquityRecoveryEvent :=
  match services.lookupDerivative symbol with
  | .error error => .ok (callFailed services "wrapper.lookup_derivative" error)
  | .ok wrappedToken =>
    match services.confirmWrap wrappedToken wrapTxHash with
    | .ok confirmation =>
        .ok (.orphanWrapped wrapTxHash confirmation.shares services.now (some confirmation.block))
    | .error .missingDepositEvent =>
        .ok (callFailed services "wrapper.confirm_wrap" WrapperError.missingDepositEvent.message)
    | .error .transactionDropped =>
        .ok (callFailed services "wrapper.confirm_wrap" WrapperError.transactionDropped.message)
    | .error (.other _) => .error (.retryableWrapConfirmation wrapTxHash)

def submitOrphanDepositOrFail (services : Services) (symbol : Symbol) (wrappedAmount : Nat) :
    UnwrappedEquityRecoveryEvent :=
  match services.lookupDerivative symbol with
  | .error error => callFailed services "wrapper.lookup_derivative" error
  | .ok wrappedToken =>
    match services.vaultIdForToken wrappedToken with
    | .error error => callFailed services "vault_lookup.vault_id_for_token" error
    | .ok vaultId =>
      match services.submitDeposit wrappedToken vaultId wrappedAmount with
      | .ok vaultDepositTxHash => .orphanDepositSubmitted vaultDepositTxHash services.now
      | .error error => callFailed services "raindex.submit_deposit" error

def confirmOrphanDepositOrFail (services : Services) (vaultDepositTxHash : TxHash) :
    Except UnwrappedEquityRecoveryError UnwrappedEquityRecoveryEvent :=
  match services.confirmTx vaultDepositTxHash with
  | .ok () => .ok (.orphanDeposited vaultDepositTxHash services.now)
  | .error error =>
      if error.isTransactionDropped then
        .ok (callFailed services "raindex.confirm_tx" error.message)
      else .error (.retryableDepositConfirmation vaultDepositTxHash)

/-- Wait for the node to reach the wrap's block; older records have none. -/
def awaitWrapBlock (services : Services) : Option Nat → Except UnwrappedEquityRecoveryError Unit
  | none => .ok ()
  | some block => (services.waitForBlock block).mapError (.nodeSyncFailed block)

def transition (services : Services) (entity : UnwrappedEquityRecovery)
    (command : UnwrappedEquityRecoveryCommand) :
    Except UnwrappedEquityRecoveryError (List UnwrappedEquityRecoveryEvent) :=
  if entity.isTerminal then .error .terminal
  else
    match entity, command with
    | _, .detect _ _ => .error .alreadyInitialized
    | .detected .., .dispatchToMint mintId => .ok [resumeMintOrFail services mintId]
    | .detected .., .dispatchToRedemption redemptionId =>
        .ok [resumeRedemptionOrFail services redemptionId]
    | .detected symbol shares _, .submitOrphanWrap =>
        .ok [submitOrphanWrapOrFail services symbol shares]
    | .orphanWrapSubmitted symbol _ _ wrapTxHash _, .confirmOrphanWrap =>
        (confirmOrphanWrapOrFail services symbol wrapTxHash).map ([·])
    | .orphanWrapped symbol _ _ _ _ wrappedAmount _ wrapBlock, .submitOrphanDeposit => do
        awaitWrapBlock services wrapBlock
        return [submitOrphanDepositOrFail services symbol wrappedAmount]
    | .orphanDepositSubmitted _ _ _ _ _ vaultDepositTxHash _, .confirmOrphanDeposit =>
        (confirmOrphanDepositOrFail services vaultDepositTxHash).map ([·])
    | .detected .., .failRecovery reason => .ok [.recoveryFailed reason services.now]
    | .orphanWrapSubmitted .., .failRecovery reason => .ok [.recoveryFailed reason services.now]
    | .orphanWrapped .., .failRecovery reason => .ok [.recoveryFailed reason services.now]
    | .orphanDepositSubmitted .., .failRecovery reason => .ok [.recoveryFailed reason services.now]
    | state, _ => .error (.invalidTransition state)

def aggregate :
    Aggregate UnwrappedEquityRecovery UnwrappedEquityRecoveryEvent UnwrappedEquityRecoveryCommand
      UnwrappedEquityRecoveryError Services where
  originate := originate
  evolve := evolve
  initialise := initialise
  transition := transition

/-- What one command can add to a recovery. -/
inductive Adds :
    UnwrappedEquityRecovery → UnwrappedEquityRecoveryEvent → UnwrappedEquityRecovery → Prop
  | mint {symbol shares detectedAt mintId dispatchedAt} :
      Adds (.detected symbol shares detectedAt) (.dispatchedToMint mintId dispatchedAt)
        (.dispatchedToMint symbol shares detectedAt mintId dispatchedAt)
  | redemption {symbol shares detectedAt redemptionId dispatchedAt} :
      Adds (.detected symbol shares detectedAt) (.dispatchedToRedemption redemptionId dispatchedAt)
        (.dispatchedToRedemption symbol shares detectedAt redemptionId dispatchedAt)
  | wrapSubmitted {symbol shares detectedAt wrapTx submittedAt} :
      Adds (.detected symbol shares detectedAt) (.orphanWrapSubmitted wrapTx submittedAt)
        (.orphanWrapSubmitted symbol shares detectedAt wrapTx submittedAt)
  | wrapped {symbol shares detectedAt wrapTx submittedAt amount confirmedAt wrapBlock} :
      Adds (.orphanWrapSubmitted symbol shares detectedAt wrapTx submittedAt)
        (.orphanWrapped wrapTx amount confirmedAt wrapBlock)
        (.orphanWrapped symbol shares detectedAt wrapTx submittedAt amount confirmedAt wrapBlock)
  | depositSubmitted {symbol shares detectedAt wrapTx wrapSubmittedAt amount wrapConfirmedAt
      wrapBlock depositTx submittedAt} :
      Adds (.orphanWrapped symbol shares detectedAt wrapTx wrapSubmittedAt amount wrapConfirmedAt
          wrapBlock)
        (.orphanDepositSubmitted depositTx submittedAt)
        (.orphanDepositSubmitted symbol shares detectedAt wrapTx amount depositTx submittedAt)
  | deposited {symbol shares detectedAt wrapTx amount depositTx submittedAt depositedAt} :
      Adds (.orphanDepositSubmitted symbol shares detectedAt wrapTx amount depositTx submittedAt)
        (.orphanDeposited depositTx depositedAt)
        (.orphanDeposited symbol shares detectedAt wrapTx amount depositTx depositedAt)
  | failed {entity symbol shares reason failedAt} (underway : entity.isTerminal = false)
      (about : evolve entity (.recoveryFailed reason failedAt) =
        .ok (some (.failed symbol shares reason failedAt))) :
      Adds entity (.recoveryFailed reason failedAt) (.failed symbol shares reason failedAt)

theorem Adds.evolve {entity next : UnwrappedEquityRecovery} {event : UnwrappedEquityRecoveryEvent}
    (adds : Adds entity event next) : evolve entity event = .ok (some next) := by
  cases adds with
  | wrapped => simp [UnwrappedEquityRecovery.evolve]
  | deposited => simp [UnwrappedEquityRecovery.evolve]
  | failed underway about => exact about
  | _ => rfl

/-- The step of the orphan path that comes after a state. -/
def Onward : UnwrappedEquityRecovery → UnwrappedEquityRecovery → Prop
  | .detected .., .orphanWrapSubmitted .. => True
  | .orphanWrapSubmitted .., .orphanWrapped .. => True
  | .orphanWrapped .., .orphanDepositSubmitted .. => True
  | _, _ => False

/-- A recovery ends or goes on with the next step; it never stays or goes back. -/
theorem Adds.onward {entity next : UnwrappedEquityRecovery} {event : UnwrappedEquityRecoveryEvent}
    (adds : Adds entity event next) : next.isTerminal ∨ Onward entity next := by
  cases adds with
  | wrapSubmitted => exact .inr trivial
  | wrapped => exact .inr trivial
  | depositSubmitted => exact .inr trivial
  | _ => exact .inl rfl

/-- A recovery that is underway can fail. -/
theorem adds_failed {entity : UnwrappedEquityRecovery} (underway : entity.isTerminal = false)
    (reason : String) (failedAt : Time) :
    ∃ next, Adds entity (.recoveryFailed reason failedAt) next ∧ next.isTerminal := by
  cases entity <;> first | exact ⟨_, .failed rfl rfl, rfl⟩ | cases underway

theorem adds_callFailed (services : Services) (call error : String)
    {entity : UnwrappedEquityRecovery} (underway : entity.isTerminal = false) :
    ∃ next, Adds entity (callFailed services call error) next := by
  obtain ⟨next, adds, _⟩ := adds_failed underway s!"{call} failed: {error}" services.now
  exact ⟨next, adds⟩

theorem resumeMintOrFail_adds (services : Services) (mintId : IssuerRequestId) (symbol : Symbol)
    (shares : FractionalShares) (detectedAt : Time) :
    ∃ next, Adds (.detected symbol shares detectedAt) (resumeMintOrFail services mintId) next ∧
      next.isTerminal := by
  unfold resumeMintOrFail
  split
  · exact ⟨_, .mint, rfl⟩
  · exact adds_failed rfl _ _

theorem resumeRedemptionOrFail_adds (services : Services) (redemptionId : RedemptionAggregateId)
    (symbol : Symbol) (shares : FractionalShares) (detectedAt : Time) :
    ∃ next, Adds (.detected symbol shares detectedAt)
      (resumeRedemptionOrFail services redemptionId) next ∧ next.isTerminal := by
  unfold resumeRedemptionOrFail
  split
  · exact ⟨_, .redemption, rfl⟩
  · exact adds_failed rfl _ _

theorem submitOrphanWrapOrFail_adds (services : Services) (symbol : Symbol)
    (shares : FractionalShares) (detectedAt : Time) :
    ∃ next, Adds (.detected symbol shares detectedAt)
      (submitOrphanWrapOrFail services symbol shares) next := by
  unfold submitOrphanWrapOrFail
  split
  · exact adds_callFailed services _ _ rfl
  split
  · exact adds_callFailed services _ _ rfl
  split
  · exact ⟨_, .wrapSubmitted⟩
  · exact adds_callFailed services _ _ rfl

theorem confirmOrphanWrapOrFail_adds {services : Services} {symbol : Symbol} {wrapTx : TxHash}
    {event : UnwrappedEquityRecoveryEvent}
    (confirmed : confirmOrphanWrapOrFail services symbol wrapTx = .ok event)
    (shares : FractionalShares) (detectedAt submittedAt : Time) :
    ∃ next, Adds (.orphanWrapSubmitted symbol shares detectedAt wrapTx submittedAt) event next := by
  unfold confirmOrphanWrapOrFail at confirmed
  split at confirmed
  · cases confirmed
    exact adds_callFailed services _ _ rfl
  split at confirmed <;> cases confirmed
  · exact ⟨_, .wrapped⟩
  · exact adds_callFailed services _ _ rfl
  · exact adds_callFailed services _ _ rfl

theorem submitOrphanDepositOrFail_adds (services : Services) {symbol : Symbol}
    {shares : FractionalShares} {detectedAt : Time} {wrapTx : TxHash} {wrapSubmittedAt : Time}
    {amount : Nat} {wrapConfirmedAt : Time} {wrapBlock : Option Nat} :
    ∃ next, Adds (.orphanWrapped symbol shares detectedAt wrapTx wrapSubmittedAt amount
        wrapConfirmedAt wrapBlock)
      (submitOrphanDepositOrFail services symbol amount) next := by
  unfold submitOrphanDepositOrFail
  split
  · exact adds_callFailed services _ _ rfl
  split
  · exact adds_callFailed services _ _ rfl
  split
  · exact ⟨_, .depositSubmitted⟩
  · exact adds_callFailed services _ _ rfl

theorem confirmOrphanDepositOrFail_adds {services : Services} {depositTx : TxHash}
    {event : UnwrappedEquityRecoveryEvent}
    (confirmed : confirmOrphanDepositOrFail services depositTx = .ok event) {symbol : Symbol}
    {shares : FractionalShares} {detectedAt : Time} {wrapTx : TxHash} {amount : Nat}
    {submittedAt : Time} :
    ∃ next, Adds (.orphanDepositSubmitted symbol shares detectedAt wrapTx amount depositTx
      submittedAt) event next := by
  unfold confirmOrphanDepositOrFail at confirmed
  split at confirmed
  · cases confirmed
    exact ⟨_, .deposited⟩
  split at confirmed <;> cases confirmed
  exact adds_callFailed services _ _ rfl

/-- An accepted command adds one event. -/
theorem transition_adds {services : Services} {entity : UnwrappedEquityRecovery}
    {command : UnwrappedEquityRecoveryCommand} {events : List UnwrappedEquityRecoveryEvent}
    (decided : transition services entity command = .ok events) :
    ∃ event next, events = [event] ∧ Adds entity event next := by
  have single (event : UnwrappedEquityRecoveryEvent) (adds : ∃ next, Adds entity event next) :
      ∃ event' next, [event] = [event'] ∧ Adds entity event' next := by
    obtain ⟨next, adds⟩ := adds
    exact ⟨event, next, rfl, adds⟩
  have fails (reason : String) (underway : entity.isTerminal = false) :
      ∃ event next, [UnwrappedEquityRecoveryEvent.recoveryFailed reason services.now] = [event] ∧
        Adds entity event next := by
    obtain ⟨next, adds, _⟩ := adds_failed underway reason services.now
    exact ⟨_, next, rfl, adds⟩
  unfold transition at decided
  split at decided
  · cases decided
  split at decided
  · cases decided
  · cases decided
    obtain ⟨next, adds, _⟩ := resumeMintOrFail_adds services _ _ _ _
    exact ⟨_, next, rfl, adds⟩
  · cases decided
    obtain ⟨next, adds, _⟩ := resumeRedemptionOrFail_adds services _ _ _ _
    exact ⟨_, next, rfl, adds⟩
  · cases decided
    exact single _ (submitOrphanWrapOrFail_adds services _ _ _)
  · rename_i symbol _ _ wrapTx _ _
    cases confirmed : confirmOrphanWrapOrFail services symbol wrapTx with
    | error => simp [confirmed, Except.map] at decided
    | ok event =>
        simp only [confirmed, Except.map, Except.ok.injEq] at decided
        subst decided
        exact single event (confirmOrphanWrapOrFail_adds confirmed _ _ _)
  · obtain ⟨_, _, decided⟩ := bind_eq_ok.mp decided
    cases decided
    exact single _ (submitOrphanDepositOrFail_adds services)
  · rename_i depositTx _ _
    cases confirmed : confirmOrphanDepositOrFail services depositTx with
    | error => simp [confirmed, Except.map] at decided
    | ok event =>
        simp only [confirmed, Except.map, Except.ok.injEq] at decided
        subst decided
        exact single event (confirmOrphanDepositOrFail_adds confirmed)
  · cases decided
    exact fails _ rfl
  · cases decided
    exact fails _ rfl
  · cases decided
    exact fails _ rfl
  · cases decided
    exact fails _ rfl
  · cases decided

end UnwrappedEquityRecovery

end Liquidity.EquityRecovery
