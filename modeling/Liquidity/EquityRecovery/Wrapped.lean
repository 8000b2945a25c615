import Liquidity.EventSourcing.Aggregate
import Liquidity.Finance

/-!
# The wrapped-equity recovery aggregate

Wrapped tokens found in the wallet belong to a mint or a redemption that got
stuck, or to nobody. A recovery hands them to the transfer, or deposits them
itself. Its command handlers call the services; a call that fails is recorded
as the failure of the recovery.

What the services answer while one command is handled is the handler's context.
-/

namespace Liquidity.EquityRecovery

open EventSourcing

abbrev Address := Nat
abbrev RaindexVaultId := Nat

/-- Shares a wrap minted, and the block it was mined in. -/
structure WrapConfirmation where
  shares : Nat
  block : Nat
  deriving DecidableEq

/-- Why a wrap was not confirmed. Only the first two are final. -/
inductive WrapperError where
  | missingDepositEvent
  | transactionDropped
  | other (message : String)
  deriving DecidableEq

def WrapperError.message : WrapperError → String
  | .missingDepositEvent => "missing deposit event"
  | .transactionDropped => "transaction dropped"
  | .other message => message

structure ConfirmTxError where
  message : String
  isTransactionDropped : Bool
  deriving DecidableEq

/-- What the clock and the outside services answer. -/
structure Services where
  now : Time
  resumeMint : IssuerRequestId → Except String Unit
  resumeRedemption : RedemptionAggregateId → Except String Unit
  lookupDerivative : Symbol → Except String Address
  vaultIdForToken : Address → Except String RaindexVaultId
  /-- Shares in 18-decimal token units. -/
  toU256 : FractionalShares → Except String Nat
  submitWrap : Address → Nat → Except String TxHash
  confirmWrap : Address → TxHash → Except WrapperError WrapConfirmation
  /-- Fails with the number of polls after which the node had not caught up. -/
  waitForBlock : Nat → Except Nat Unit
  submitDeposit : Address → RaindexVaultId → Nat → Except String TxHash
  confirmTx : TxHash → Except ConfirmTxError Unit

inductive WrappedEquityRecovery where
  | detected (symbol : Symbol) (shares : FractionalShares) (detectedAt : Time)
  | dispatchedToMint (symbol : Symbol) (shares : FractionalShares) (detectedAt : Time)
      (mintId : IssuerRequestId) (dispatchedAt : Time)
  | dispatchedToRedemption (symbol : Symbol) (shares : FractionalShares) (detectedAt : Time)
      (redemptionId : RedemptionAggregateId) (dispatchedAt : Time)
  | orphanDepositSubmitted (symbol : Symbol) (shares : FractionalShares) (detectedAt : Time)
      (vaultDepositTxHash : TxHash) (submittedAt : Time)
  | orphanDeposited (symbol : Symbol) (shares : FractionalShares) (detectedAt : Time)
      (vaultDepositTxHash : TxHash) (submittedAt depositedAt : Time)
  | failed (symbol : Symbol) (shares : FractionalShares) (reason : String) (failedAt : Time)
  deriving DecidableEq

inductive WrappedEquityRecoveryEvent where
  | detected (symbol : Symbol) (shares : FractionalShares) (detectedAt : Time)
  | dispatchedToMint (mintId : IssuerRequestId) (dispatchedAt : Time)
  | dispatchedToRedemption (redemptionId : RedemptionAggregateId) (dispatchedAt : Time)
  | orphanDepositSubmitted (vaultDepositTxHash : TxHash) (submittedAt : Time)
  | orphanDeposited (vaultDepositTxHash : TxHash) (depositedAt : Time)
  | recoveryFailed (reason : String) (failedAt : Time)
  deriving DecidableEq

inductive WrappedEquityRecoveryCommand where
  | detect (symbol : Symbol) (shares : FractionalShares)
  | dispatchToMint (mintId : IssuerRequestId)
  | dispatchToRedemption (redemptionId : RedemptionAggregateId)
  | submitOrphanDeposit
  | confirmOrphanDeposit
  | failRecovery (reason : String)
  deriving DecidableEq

inductive WrappedEquityRecoveryError where
  | alreadyInitialized
  | uninitialized
  | invalidTransition (state : WrappedEquityRecovery)
  | terminal
  deriving DecidableEq

namespace WrappedEquityRecovery

def isTerminal : WrappedEquityRecovery → Bool
  | .dispatchedToMint .. => true
  | .dispatchedToRedemption .. => true
  | .orphanDeposited .. => true
  | .failed .. => true
  | _ => false

def originate : WrappedEquityRecoveryEvent → Option WrappedEquityRecovery
  | .detected symbol shares detectedAt => some (.detected symbol shares detectedAt)
  | _ => none

def evolve (entity : WrappedEquityRecovery) (event : WrappedEquityRecoveryEvent) :
    Except WrappedEquityRecoveryError (Option WrappedEquityRecovery) :=
  .ok <| match entity, event with
  | .detected symbol shares detectedAt, .dispatchedToMint mintId dispatchedAt =>
      some (.dispatchedToMint symbol shares detectedAt mintId dispatchedAt)
  | .detected symbol shares detectedAt, .dispatchedToRedemption redemptionId dispatchedAt =>
      some (.dispatchedToRedemption symbol shares detectedAt redemptionId dispatchedAt)
  | .detected symbol shares detectedAt, .orphanDepositSubmitted vaultDepositTxHash submittedAt =>
      some (.orphanDepositSubmitted symbol shares detectedAt vaultDepositTxHash submittedAt)
  | .orphanDepositSubmitted symbol shares detectedAt _ submittedAt,
    .orphanDeposited vaultDepositTxHash depositedAt =>
      some (.orphanDeposited symbol shares detectedAt vaultDepositTxHash submittedAt depositedAt)
  | .detected symbol shares _, .recoveryFailed reason failedAt =>
      some (.failed symbol shares reason failedAt)
  | .orphanDepositSubmitted symbol shares _ _ _, .recoveryFailed reason failedAt =>
      some (.failed symbol shares reason failedAt)
  | _, _ => none

def initialise (services : Services) :
    WrappedEquityRecoveryCommand →
      Except WrappedEquityRecoveryError (List WrappedEquityRecoveryEvent)
  | .detect symbol shares => .ok [.detected symbol shares services.now]
  | _ => .error .uninitialized

/-- A service call that failed, as an event. -/
def callFailed (services : Services) (call error : String) : WrappedEquityRecoveryEvent :=
  .recoveryFailed s!"{call} failed: {error}" services.now

def resumeMintOrFail (services : Services) (mintId : IssuerRequestId) :
    WrappedEquityRecoveryEvent :=
  match services.resumeMint mintId with
  | .ok () => .dispatchedToMint mintId services.now
  | .error error => callFailed services "resume_mint" error

def resumeRedemptionOrFail (services : Services) (redemptionId : RedemptionAggregateId) :
    WrappedEquityRecoveryEvent :=
  match services.resumeRedemption redemptionId with
  | .ok () => .dispatchedToRedemption redemptionId services.now
  | .error error => callFailed services "resume_redemption" error

def submitOrphanDepositOrFail (services : Services) (symbol : Symbol)
    (shares : FractionalShares) : WrappedEquityRecoveryEvent :=
  match services.lookupDerivative symbol with
  | .error error => callFailed services "wrapper.lookup_derivative" error
  | .ok wrappedToken =>
    match services.vaultIdForToken wrappedToken with
    | .error error => callFailed services "vault_lookup.vault_id_for_token" error
    | .ok vaultId =>
      match services.toU256 shares with
      | .error error => callFailed services "shares conversion" error
      | .ok raw =>
        match services.submitDeposit wrappedToken vaultId raw with
        | .ok vaultDepositTxHash => .orphanDepositSubmitted vaultDepositTxHash services.now
        | .error error => callFailed services "raindex.submit_deposit" error

def confirmOrphanDepositOrFail (services : Services) (vaultDepositTxHash : TxHash) :
    WrappedEquityRecoveryEvent :=
  match services.confirmTx vaultDepositTxHash with
  | .ok () => .orphanDeposited vaultDepositTxHash services.now
  | .error error => callFailed services "raindex.confirm_tx" error.message

def transition (services : Services) (entity : WrappedEquityRecovery)
    (command : WrappedEquityRecoveryCommand) :
    Except WrappedEquityRecoveryError (List WrappedEquityRecoveryEvent) :=
  if entity.isTerminal then .error .terminal
  else
    match entity, command with
    | _, .detect _ _ => .error .alreadyInitialized
    | .detected .., .dispatchToMint mintId => .ok [resumeMintOrFail services mintId]
    | .detected .., .dispatchToRedemption redemptionId =>
        .ok [resumeRedemptionOrFail services redemptionId]
    | .detected symbol shares _, .submitOrphanDeposit =>
        .ok [submitOrphanDepositOrFail services symbol shares]
    | .orphanDepositSubmitted _ _ _ vaultDepositTxHash _, .confirmOrphanDeposit =>
        .ok [confirmOrphanDepositOrFail services vaultDepositTxHash]
    | .detected .., .failRecovery reason => .ok [.recoveryFailed reason services.now]
    | .orphanDepositSubmitted .., .failRecovery reason => .ok [.recoveryFailed reason services.now]
    | state, _ => .error (.invalidTransition state)

def aggregate :
    Aggregate WrappedEquityRecovery WrappedEquityRecoveryEvent WrappedEquityRecoveryCommand
      WrappedEquityRecoveryError Services where
  originate := originate
  evolve := evolve
  initialise := initialise
  transition := transition

/-- What one command can add to a recovery. -/
inductive Adds : WrappedEquityRecovery → WrappedEquityRecoveryEvent → WrappedEquityRecovery → Prop
  | mint {symbol shares detectedAt mintId dispatchedAt} :
      Adds (.detected symbol shares detectedAt) (.dispatchedToMint mintId dispatchedAt)
        (.dispatchedToMint symbol shares detectedAt mintId dispatchedAt)
  | redemption {symbol shares detectedAt redemptionId dispatchedAt} :
      Adds (.detected symbol shares detectedAt) (.dispatchedToRedemption redemptionId dispatchedAt)
        (.dispatchedToRedemption symbol shares detectedAt redemptionId dispatchedAt)
  | submitted {symbol shares detectedAt hash submittedAt} :
      Adds (.detected symbol shares detectedAt) (.orphanDepositSubmitted hash submittedAt)
        (.orphanDepositSubmitted symbol shares detectedAt hash submittedAt)
  | deposited {symbol shares detectedAt hash submittedAt depositedAt} :
      Adds (.orphanDepositSubmitted symbol shares detectedAt hash submittedAt)
        (.orphanDeposited hash depositedAt)
        (.orphanDeposited symbol shares detectedAt hash submittedAt depositedAt)
  | failedDetected {symbol shares detectedAt reason failedAt} :
      Adds (.detected symbol shares detectedAt) (.recoveryFailed reason failedAt)
        (.failed symbol shares reason failedAt)
  | failedSubmitted {symbol shares detectedAt hash submittedAt reason failedAt} :
      Adds (.orphanDepositSubmitted symbol shares detectedAt hash submittedAt)
        (.recoveryFailed reason failedAt) (.failed symbol shares reason failedAt)

theorem Adds.evolve {entity next : WrappedEquityRecovery} {event : WrappedEquityRecoveryEvent}
    (adds : Adds entity event next) : evolve entity event = .ok (some next) := by
  cases adds <;> rfl

theorem resumeMintOrFail_adds (services : Services) (mintId : IssuerRequestId) (symbol : Symbol)
    (shares : FractionalShares) (detectedAt : Time) :
    ∃ next, Adds (.detected symbol shares detectedAt) (resumeMintOrFail services mintId) next ∧
      next.isTerminal := by
  unfold resumeMintOrFail
  split
  · exact ⟨_, .mint, rfl⟩
  · exact ⟨_, .failedDetected, rfl⟩

theorem resumeRedemptionOrFail_adds (services : Services) (redemptionId : RedemptionAggregateId)
    (symbol : Symbol) (shares : FractionalShares) (detectedAt : Time) :
    ∃ next, Adds (.detected symbol shares detectedAt)
      (resumeRedemptionOrFail services redemptionId) next ∧ next.isTerminal := by
  unfold resumeRedemptionOrFail
  split
  · exact ⟨_, .redemption, rfl⟩
  · exact ⟨_, .failedDetected, rfl⟩

theorem submitOrphanDepositOrFail_adds (services : Services) (symbol : Symbol)
    (shares : FractionalShares) (detectedAt : Time) :
    ∃ next, Adds (.detected symbol shares detectedAt)
      (submitOrphanDepositOrFail services symbol shares) next := by
  unfold submitOrphanDepositOrFail
  repeat' split
  all_goals first | exact ⟨_, .submitted⟩ | exact ⟨_, .failedDetected⟩

theorem confirmOrphanDepositOrFail_adds (services : Services) (symbol : Symbol)
    (shares : FractionalShares) (detectedAt : Time) (hash : TxHash) (submittedAt : Time) :
    ∃ next, Adds (.orphanDepositSubmitted symbol shares detectedAt hash submittedAt)
      (confirmOrphanDepositOrFail services hash) next ∧ next.isTerminal := by
  unfold confirmOrphanDepositOrFail
  split
  · exact ⟨_, .deposited, rfl⟩
  · exact ⟨_, .failedSubmitted, rfl⟩

/-- An accepted command adds one event. -/
theorem transition_adds {services : Services} {entity : WrappedEquityRecovery}
    {command : WrappedEquityRecoveryCommand} {events : List WrappedEquityRecoveryEvent}
    (decided : transition services entity command = .ok events) :
    ∃ event next, events = [event] ∧ Adds entity event next := by
  unfold transition at decided
  split at decided
  · cases decided
  split at decided <;> cases decided
  · obtain ⟨next, adds, _⟩ := resumeMintOrFail_adds services _ _ _ _
    exact ⟨_, next, rfl, adds⟩
  · obtain ⟨next, adds, _⟩ := resumeRedemptionOrFail_adds services _ _ _ _
    exact ⟨_, next, rfl, adds⟩
  · obtain ⟨next, adds⟩ := submitOrphanDepositOrFail_adds services _ _ _
    exact ⟨_, next, rfl, adds⟩
  · obtain ⟨next, adds, _⟩ := confirmOrphanDepositOrFail_adds services _ _ _ _ _
    exact ⟨_, next, rfl, adds⟩
  · exact ⟨_, _, rfl, .failedDetected⟩
  · exact ⟨_, _, rfl, .failedSubmitted⟩

end WrappedEquityRecovery

end Liquidity.EquityRecovery
