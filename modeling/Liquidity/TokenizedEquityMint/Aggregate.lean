import Liquidity.EventSourcing.Aggregate
import Liquidity.Tokenization

/-!
# The tokenized equity mint aggregate

One aggregate for each transfer of shares from the broker to the market making
venue. The issuer accepts a request and delivers tokens to the bot's wallet;
they are wrapped and deposited into the vault.

A state carries what its resume path reads. The states after acceptance share
their first fields, so these are records of their own here.
-/

namespace Liquidity

open EventSourcing

namespace TokenizedEquityMint

structure Requested where
  symbol : Symbol
  quantity : FractionalShares
  wallet : EvmAddress
  requestedAt : Time
  deriving DecidableEq

structure Accepted extends Requested where
  issuerRequestId : IssuerRequestId
  tokenizationRequestId : TokenizationRequestId
  acceptedAt : Time
  deriving DecidableEq

structure Received extends Accepted where
  txHash : TxHash
  sharesMinted : Nat
  receivedAt : Time
  deriving DecidableEq

structure Wrapped extends Received where
  wrapTxHash : TxHash
  wrappedShares : Nat
  wrappedAt : Time
  deriving DecidableEq

end TokenizedEquityMint

open TokenizedEquityMint in
inductive TokenizedEquityMint where
  | mintRequested (request : Requested)
  | mintAccepted (request : Accepted)
  | tokensReceived (request : Received)
  | wrapSubmitted (request : Received) (wrapTxHash : TxHash)
  /-- A mint stored before the block was has none. -/
  | tokensWrapped (request : Wrapped) (wrapBlock : Option Nat)
  | vaultDepositSubmitted (request : Wrapped) (vaultDepositTxHash : TxHash)
  | depositedIntoRaindex (symbol : Symbol) (quantity : FractionalShares)
      (issuerRequestId : IssuerRequestId) (tokenizationRequestId : TokenizationRequestId)
      (tokenTxHash wrapTxHash vaultDepositTxHash : TxHash) (requestedAt depositedAt : Time)
  | failed (symbol : Symbol) (quantity : FractionalShares) (reason : String)
      (requestedAt failedAt : Time)
  | reconciled (symbol : Symbol) (quantity : FractionalShares)
      (failureReason reconcileReason : String) (requestedAt reconciledAt : Time)
  deriving DecidableEq

inductive TokenizedEquityMintEvent where
  | mintRequested (symbol : Symbol) (quantity : FractionalShares) (wallet : EvmAddress)
      (requestedAt : Time)
  | mintRejected (reason : String) (rejectedAt : Time)
  | mintAccepted (issuerRequestId : IssuerRequestId)
      (tokenizationRequestId : TokenizationRequestId) (acceptedAt : Time)
  | mintAcceptanceFailed (reason : String) (failedAt : Time)
  | tokensReceived (txHash : TxHash) (sharesMinted : Nat) (receivedAt : Time)
  | wrapSubmitted (wrapTxHash : TxHash) (submittedAt : Time)
  | tokensWrapped (wrapTxHash : TxHash) (wrappedShares : Nat) (wrappedAt : Time)
      (wrapBlock : Option Nat)
  | wrappingFailed (symbol : Symbol) (quantity : FractionalShares) (reason : Option String)
      (failedAt : Time)
  | vaultDepositSubmitted (vaultDepositTxHash : TxHash) (submittedAt : Time)
  | depositedIntoRaindex (vaultDepositTxHash : TxHash) (depositedAt : Time)
  | raindexDepositFailed (reason : String) (failedAt : Time)
  | providerCompletionRecovered (issuerRequestId : IssuerRequestId) (wallet : EvmAddress)
      (tokenizationRequestId : TokenizationRequestId) (txHash : TxHash) (sharesMinted : Nat)
      (recoveredAt : Time)
  | operatorReconciled (reason : String) (reconciledAt : Time)
  deriving DecidableEq

inductive TokenizedEquityMintCommand where
  | requestMint (issuerRequestId : IssuerRequestId) (symbol : Symbol)
      (quantity : FractionalShares) (wallet : EvmAddress)
  | poll
  | submitWrap (wrapTxHash : TxHash)
  | submitVaultDeposit (vaultDepositTxHash : TxHash)
  | wrapTokens (wrapTxHash : TxHash) (wrappedShares wrapBlock : Nat)
  | depositToVault (vaultDepositTxHash : TxHash)
  | failAcceptance (reason : String)
  | failWrapping (reason : String)
  | failRaindexDeposit (reason : String)
  | recoverProviderCompletion (issuerRequestId : IssuerRequestId) (wallet : EvmAddress)
      (tokenizationRequestId : TokenizationRequestId) (txHash : TxHash)
  | reconcile (reason : String)
  deriving DecidableEq

inductive TokenizedEquityMintError where
  | notInitialized
  | alreadyInProgress
  | tokensNotWrapped
  | notAccepted
  | tokensNotReceivedForWrap
  | alreadyCompleted
  | alreadyFailed
  | notFailed
  | alreadyReconciled
  | reconcileReasonRequired
  | missingTxHash
  | requestFailed (errorMessage : String)
  | missingTokenSymbol (expectedSymbol : Symbol)
  | tokenSymbolMismatch (expectedSymbol : Symbol) (actualTokenSymbol : String)
  | negativeQuantity (value : ℚ)
  | float (message : String)
  deriving DecidableEq

namespace TokenizedEquityMint

/-- What a command handler reads: the clock, the issuer's answer to the call it
makes, and the float library's fixed-point conversion. -/
structure Context where
  now : Time
  tokenizer : Except String TokenizationRequest
  toFixedDecimal : ℚ → Except String Nat

def symbol : TokenizedEquityMint → Symbol
  | .mintRequested request => request.symbol
  | .mintAccepted request => request.symbol
  | .tokensReceived request => request.symbol
  | .wrapSubmitted request _ => request.symbol
  | .tokensWrapped request _ => request.symbol
  | .vaultDepositSubmitted request _ => request.symbol
  | .depositedIntoRaindex symbol .. => symbol
  | .failed symbol .. => symbol
  | .reconciled symbol .. => symbol

def quantity : TokenizedEquityMint → FractionalShares
  | .mintRequested request => request.quantity
  | .mintAccepted request => request.quantity
  | .tokensReceived request => request.quantity
  | .wrapSubmitted request _ => request.quantity
  | .tokensWrapped request _ => request.quantity
  | .vaultDepositSubmitted request _ => request.quantity
  | .depositedIntoRaindex _ quantity .. => quantity
  | .failed _ quantity .. => quantity
  | .reconciled _ quantity .. => quantity

def isTerminal : TokenizedEquityMint → Bool
  | .depositedIntoRaindex .. => true
  | .failed .. => true
  | .reconciled .. => true
  | .mintRequested _ => false
  | .mintAccepted _ => false
  | .tokensReceived _ => false
  | .wrapSubmitted .. => false
  | .tokensWrapped .. => false
  | .vaultDepositSubmitted .. => false

/-! ## Events -/

def originate : TokenizedEquityMintEvent → Option TokenizedEquityMint
  | .mintRequested symbol quantity wallet requestedAt =>
      some (.mintRequested ⟨symbol, quantity, wallet, requestedAt⟩)
  | _ => none

def nextWrappingFailed (entity : TokenizedEquityMint) (symbol : Symbol)
    (quantity : FractionalShares) (reason : Option String) (failedAt : Time) :
    Option TokenizedEquityMint :=
  let failed (requestedAt : Time) : TokenizedEquityMint :=
    .failed symbol quantity (reason.getD "ERC-4626 wrapping failed") requestedAt failedAt
  match entity with
  | .tokensReceived request => some (failed request.requestedAt)
  | .wrapSubmitted request _ => some (failed request.requestedAt)
  | _ => none

def nextMintAcceptanceFailed (entity : TokenizedEquityMint) (reason : String) (failedAt : Time) :
    Option TokenizedEquityMint :=
  let failed (request : Requested) : TokenizedEquityMint :=
    .failed request.symbol request.quantity reason request.requestedAt failedAt
  match entity with
  | .mintAccepted request => some (failed request.toRequested)
  | .mintRequested request => some (failed request)
  | _ => none

def nextTokensWrapped (entity : TokenizedEquityMint) (wrapTxHash : TxHash) (wrappedShares : Nat)
    (wrappedAt : Time) (wrapBlock : Option Nat) : Option TokenizedEquityMint :=
  let wrapped (request : Received) : TokenizedEquityMint :=
    .tokensWrapped ⟨request, wrapTxHash, wrappedShares, wrappedAt⟩ wrapBlock
  match entity with
  | .tokensReceived request => some (wrapped request)
  | .wrapSubmitted request _ => some (wrapped request)
  | _ => none

def nextDepositedIntoRaindex (entity : TokenizedEquityMint) (vaultDepositTxHash : TxHash)
    (depositedAt : Time) : Option TokenizedEquityMint :=
  let deposited (request : Wrapped) : TokenizedEquityMint :=
    .depositedIntoRaindex request.symbol request.quantity request.issuerRequestId
      request.tokenizationRequestId request.txHash request.wrapTxHash vaultDepositTxHash
      request.requestedAt depositedAt
  match entity with
  | .tokensWrapped request _ => some (deposited request)
  | .vaultDepositSubmitted request _ => some (deposited request)
  | _ => none

def nextRaindexDepositFailed (entity : TokenizedEquityMint) (reason : String) (failedAt : Time) :
    Option TokenizedEquityMint :=
  let failed (request : Wrapped) : TokenizedEquityMint :=
    .failed request.symbol request.quantity reason request.requestedAt failedAt
  match entity with
  | .tokensWrapped request _ => some (failed request)
  | .vaultDepositSubmitted request _ => some (failed request)
  | _ => none

/-- The state an event leads to, if it can happen here. -/
def next (entity : TokenizedEquityMint) (event : TokenizedEquityMintEvent) :
    Option TokenizedEquityMint :=
  match event with
  | .mintRequested .. => none
  | .wrappingFailed symbol quantity reason failedAt =>
      entity.nextWrappingFailed symbol quantity reason failedAt
  | .mintRejected reason rejectedAt =>
      match entity with
      | .mintRequested request =>
          some (.failed request.symbol request.quantity reason request.requestedAt rejectedAt)
      | _ => none
  | .mintAccepted issuerRequestId tokenizationRequestId acceptedAt =>
      match entity with
      | .mintRequested request =>
          some (.mintAccepted ⟨request, issuerRequestId, tokenizationRequestId, acceptedAt⟩)
      | _ => none
  | .mintAcceptanceFailed reason failedAt => entity.nextMintAcceptanceFailed reason failedAt
  | .tokensReceived txHash sharesMinted receivedAt =>
      match entity with
      | .mintAccepted request => some (.tokensReceived ⟨request, txHash, sharesMinted, receivedAt⟩)
      | _ => none
  | .providerCompletionRecovered issuerRequestId wallet tokenizationRequestId txHash sharesMinted
      recoveredAt =>
      match entity with
      | .failed symbol quantity _ requestedAt _ =>
          some (.tokensReceived ⟨⟨⟨symbol, quantity, wallet, requestedAt⟩, issuerRequestId,
            tokenizationRequestId, recoveredAt⟩, txHash, sharesMinted, recoveredAt⟩)
      | _ => none
  | .wrapSubmitted wrapTxHash _ =>
      match entity with
      | .tokensReceived request => some (.wrapSubmitted request wrapTxHash)
      | _ => none
  | .tokensWrapped wrapTxHash wrappedShares wrappedAt wrapBlock =>
      entity.nextTokensWrapped wrapTxHash wrappedShares wrappedAt wrapBlock
  | .vaultDepositSubmitted vaultDepositTxHash _ =>
      match entity with
      | .tokensWrapped request _ => some (.vaultDepositSubmitted request vaultDepositTxHash)
      | _ => none
  | .depositedIntoRaindex vaultDepositTxHash depositedAt =>
      entity.nextDepositedIntoRaindex vaultDepositTxHash depositedAt
  | .raindexDepositFailed reason failedAt => entity.nextRaindexDepositFailed reason failedAt
  | .operatorReconciled reason reconciledAt =>
      match entity with
      | .failed symbol quantity failureReason requestedAt _ =>
          some (.reconciled symbol quantity failureReason reason requestedAt reconciledAt)
      | _ => none

def evolve (entity : TokenizedEquityMint) (event : TokenizedEquityMintEvent) :
    Except TokenizedEquityMintError (Option TokenizedEquityMint) :=
  .ok (entity.next event)

/-! ## Commands -/

abbrev Answer := Except TokenizedEquityMintError (List TokenizedEquityMintEvent)

def quantityToU256 (context : Context) (value : ℚ) : Except TokenizedEquityMintError Nat :=
  if value < 0 then .error (.negativeQuantity value)
  else (context.toFixedDecimal value).mapError .float

/-- A request the issuer could not be asked leaves no trace. -/
def initialise (context : Context) : TokenizedEquityMintCommand → Answer
  | .requestMint issuerRequestId symbol quantity wallet =>
      if quantity < 0 then .error (.negativeQuantity quantity)
      else
        let mintRequested := .mintRequested symbol quantity wallet context.now
        match context.tokenizer with
        | .error message => .error (.requestFailed message)
        | .ok request =>
            if request.status = .rejected then
              .ok [mintRequested, .mintRejected "Rejected by Alpaca" context.now]
            else
              .ok [mintRequested, .mintAccepted issuerRequestId request.id context.now]
  | _ => .error .notInitialized

def checkTokenSymbol (symbol : Symbol) : Option String → Except TokenizedEquityMintError Unit
  | some actual =>
      if actual = "t" ++ symbol then .ok () else .error (.tokenSymbolMismatch symbol actual)
  | none => .error (.missingTokenSymbol symbol)

/-- Wait for the issuer. Whatever it answers but completion fails the mint, and
so does not reaching it. -/
def pollAccepted (context : Context) (mint : Accepted) : Answer :=
  match context.tokenizer with
  | .error error => .ok [.mintAcceptanceFailed ("Polling failed: " ++ error) context.now]
  | .ok completed =>
      match completed.status with
      | .completed =>
          match completed.txHash with
          | none => .error .missingTxHash
          | some txHash => do
              checkTokenSymbol mint.symbol completed.tokenSymbol
              let sharesMinted ← quantityToU256 context mint.quantity
              return [.tokensReceived txHash sharesMinted context.now]
      | .rejected =>
          .ok [.mintAcceptanceFailed "Rejected by Alpaca after acceptance" context.now]
      | .pending =>
          .ok [.mintAcceptanceFailed "Unexpected Pending status after polling" context.now]

def transitionPoll (context : Context) : TokenizedEquityMint → Answer
  | .mintAccepted mint => pollAccepted context mint
  | .mintRequested _ => .error .notAccepted
  | .failed .. => .error .alreadyFailed
  | .reconciled .. => .error .alreadyReconciled
  | _ => .error .alreadyCompleted

def transitionSubmitWrap (now : Time) (wrapTxHash : TxHash) : TokenizedEquityMint → Answer
  | .tokensReceived _ => .ok [.wrapSubmitted wrapTxHash now]
  | .mintRequested _ | .mintAccepted _ => .error .tokensNotReceivedForWrap
  | .failed .. => .error .alreadyFailed
  | .reconciled .. => .error .alreadyReconciled
  | _ => .error .alreadyCompleted

def transitionSubmitVaultDeposit (now : Time) (vaultDepositTxHash : TxHash) :
    TokenizedEquityMint → Answer
  | .tokensWrapped .. => .ok [.vaultDepositSubmitted vaultDepositTxHash now]
  | .vaultDepositSubmitted .. | .depositedIntoRaindex .. => .error .alreadyCompleted
  | .failed .. => .error .alreadyFailed
  | .reconciled .. => .error .alreadyReconciled
  | _ => .error .tokensNotWrapped

def transitionWrapTokens (now : Time) (wrapTxHash : TxHash) (wrappedShares wrapBlock : Nat) :
    TokenizedEquityMint → Answer
  | .tokensReceived _ | .wrapSubmitted .. =>
      .ok [.tokensWrapped wrapTxHash wrappedShares now (some wrapBlock)]
  | .mintRequested _ | .mintAccepted _ => .error .tokensNotReceivedForWrap
  | .failed .. => .error .alreadyFailed
  | .reconciled .. => .error .alreadyReconciled
  | _ => .error .alreadyCompleted

def transitionDepositToVault (now : Time) (vaultDepositTxHash : TxHash) :
    TokenizedEquityMint → Answer
  | .tokensWrapped .. | .vaultDepositSubmitted .. =>
      .ok [.depositedIntoRaindex vaultDepositTxHash now]
  | .depositedIntoRaindex .. => .error .alreadyCompleted
  | .failed .. => .error .alreadyFailed
  | .reconciled .. => .error .alreadyReconciled
  | _ => .error .tokensNotWrapped

/-- Why a mint that cannot be failed here is not. -/
def failureError : TokenizedEquityMint → TokenizedEquityMintError
  | .depositedIntoRaindex .. => .alreadyCompleted
  | .failed .. => .alreadyFailed
  | .reconciled .. => .alreadyReconciled
  | _ => .alreadyInProgress

def transitionFailAcceptance (now : Time) (reason : String) (entity : TokenizedEquityMint) :
    Answer :=
  match entity with
  | .mintRequested _ | .mintAccepted _ => .ok [.mintAcceptanceFailed reason now]
  | other => .error other.failureError

def transitionFailWrapping (now : Time) (reason : String) (entity : TokenizedEquityMint) :
    Answer :=
  match entity with
  | .tokensReceived mint => .ok [.wrappingFailed mint.symbol mint.quantity (some reason) now]
  | .wrapSubmitted mint _ => .ok [.wrappingFailed mint.symbol mint.quantity (some reason) now]
  | other => .error other.failureError

def transitionFailRaindexDeposit (now : Time) (reason : String) (entity : TokenizedEquityMint) :
    Answer :=
  match entity with
  | .tokensWrapped .. | .vaultDepositSubmitted .. => .ok [.raindexDepositFailed reason now]
  | other => .error other.failureError

def transitionRecoverProviderCompletion (context : Context) (issuerRequestId : IssuerRequestId)
    (wallet : EvmAddress) (tokenizationRequestId : TokenizationRequestId) (txHash : TxHash) :
    TokenizedEquityMint → Answer
  | .failed _ quantity .. => do
      let sharesMinted ← quantityToU256 context quantity
      return [.providerCompletionRecovered issuerRequestId wallet tokenizationRequestId txHash
        sharesMinted context.now]
  | .reconciled .. => .error .alreadyReconciled
  | .depositedIntoRaindex .. => .error .alreadyCompleted
  | _ => .error .alreadyInProgress

def transitionReconcile (now : Time) (reason : String) : TokenizedEquityMint → Answer
  | .failed .. =>
      if Text.isBlank reason then .error .reconcileReasonRequired
      else .ok [.operatorReconciled reason now]
  | .reconciled .. => .error .alreadyReconciled
  | _ => .error .notFailed

def transition (context : Context) (entity : TokenizedEquityMint) :
    TokenizedEquityMintCommand → Answer
  | .requestMint .. => .error .alreadyInProgress
  | .poll => entity.transitionPoll context
  | .submitWrap wrapTxHash => entity.transitionSubmitWrap context.now wrapTxHash
  | .submitVaultDeposit vaultDepositTxHash =>
      entity.transitionSubmitVaultDeposit context.now vaultDepositTxHash
  | .wrapTokens wrapTxHash wrappedShares wrapBlock =>
      entity.transitionWrapTokens context.now wrapTxHash wrappedShares wrapBlock
  | .depositToVault vaultDepositTxHash =>
      entity.transitionDepositToVault context.now vaultDepositTxHash
  | .failAcceptance reason => entity.transitionFailAcceptance context.now reason
  | .failWrapping reason => entity.transitionFailWrapping context.now reason
  | .failRaindexDeposit reason => entity.transitionFailRaindexDeposit context.now reason
  | .recoverProviderCompletion issuerRequestId wallet tokenizationRequestId txHash =>
      entity.transitionRecoverProviderCompletion context issuerRequestId wallet
        tokenizationRequestId txHash
  | .reconcile reason => entity.transitionReconcile context.now reason

def aggregate : Aggregate TokenizedEquityMint TokenizedEquityMintEvent TokenizedEquityMintCommand
    TokenizedEquityMintError Context where
  originate := originate
  evolve := evolve
  initialise := initialise
  transition := transition

end TokenizedEquityMint

end Liquidity
