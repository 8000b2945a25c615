import Liquidity.CrossVenueEquity.World
import Liquidity.Inventory.Imbalance
import Liquidity.Process.Loops

/-!
# Driving an equity transfer

An attempt loads the transfer and goes on from whatever state it is stored in. An
absent transfer is started, a terminal one is left alone. The loops of the source
load the transfer anew at each turn; an attempt is given as many turns as it takes,
or fewer if it is killed.
-/

namespace Liquidity.CrossVenueEquity

open EventSourcing Process

/-- What an attempt runs. -/
abbrev Flow (ε α : Type) := Prog Op Op.Ret ε α

def ask {ε : Type} (op : Op) : Flow ε op.Ret := Prog.perform op

/-! ## From the market making venue to the broker -/

inductive RedemptionError where
  | send (error : SendError EquityRedemptionError)
  | vaultLookup (message : String)
  | tokenizer (error : TokenizerError)
  | sharesConversion (error : FloatError)
  | entityNotFound
  | sendFailed (entity : EquityRedemption)
  | unexpectedEntity (entity : EquityRedemption)
  | unexpectedPendingStatus
  | rejected
  deriving DecidableEq

section Redemption

def redeem (command : EquityRedemptionCommand) : Flow RedemptionError Unit := do
  Prog.liftExcept ((← ask (.redemption command)).mapError .send)

def loadRedemption : Flow RedemptionError (Option EquityRedemption) := do
  Prog.liftExcept ((← ask .loadRedemption).mapError .send)

def loadRedemptionEntity : Flow RedemptionError EquityRedemption := do
  match ← loadRedemption with
  | some entity => pure entity
  | none => throw .entityNotFound

def withdrawFromRaindex (symbol : Symbol) (quantity : FractionalShares) (token : EvmAddress)
    (amount : Nat) : Flow RedemptionError Unit := do
  redeem (.redeem symbol quantity token amount)
  redeem .submitWithdraw
  redeem .confirmWithdraw

/-- Unwrap the tokens and send them to the issuer. -/
def unwrapAndSend : Flow RedemptionError TxHash := do
  redeem .unwrapTokens
  redeem .submitUnwrap
  redeem .confirmUnwrap
  redeem .prepareSend
  redeem .sendTokens
  match ← loadRedemptionEntity with
  | .tokensSent _ _ _ _ _ _ redemptionTx _ => pure redemptionTx
  | .failed symbol quantity withdrawTx redemptionTx requestId reason startedAt failedAt =>
      throw (.sendFailed (.failed symbol quantity withdrawTx redemptionTx requestId reason
        startedAt failedAt))
  | entity => throw (.unexpectedEntity entity)

def TokenizerError.detectionFailure : TokenizerError → DetectionFailure
  | .pollTimeout _ => .timeout
  | .api statusCode _ => .apiError statusCode
  | .mintVerification _ => .apiError none

/-- Poll until the issuer has detected the transfer, and record it. -/
def pollDetection (tx : TxHash) : Flow RedemptionError TokenizationRequestId := do
  match ← ask (.pollForRedemption tx) with
  | .error error => do
      redeem (.failDetection error.detectionFailure)
      throw (.tokenizer error)
  | .ok detected => do
      redeem (.detect detected.id)
      pure detected.id

/-- Poll until the issuer is done. -/
def pollCompletion (requestId : TokenizationRequestId) : Flow RedemptionError Unit := do
  match ← ask (.pollRedemptionUntilComplete requestId) with
  | .error error => do
      redeem (.rejectRedemption error.toString)
      throw (.tokenizer error)
  | .ok completed =>
      match completed.status with
      | .completed => redeem .complete
      | .rejected => do
          redeem (.rejectRedemption "Alpaca rejected the redemption request")
          throw .rejected
      | .pending => throw .unexpectedPendingStatus

def redemptionIsTerminal : Flow RedemptionError Bool := do
  let entity ← loadRedemptionEntity
  pure entity.isTerminal

/-- An error that has ended the redemption is not the attempt's. -/
def ignoreRedemptionErrorIfTerminal : Except RedemptionError Unit → Flow RedemptionError Unit
  | .ok () => pure ()
  | .error error => do
      if ← redemptionIsTerminal then pure () else throw error

def resumeSentRedemption (redemptionTx : TxHash) : Flow RedemptionError Unit := do
  let result ← (pollDetection redemptionTx).capture
  ignoreRedemptionErrorIfTerminal (result.map fun _ => ())

def resumePendingRedemption (requestId : TokenizationRequestId) : Flow RedemptionError Unit := do
  let result ← (pollCompletion requestId).capture
  ignoreRedemptionErrorIfTerminal result

/-- Go on with a command. -/
def redeemAndGoOn (command : EquityRedemptionCommand) : Flow RedemptionError (Option Unit) := do
  redeem command
  pure none

/-- One turn of the loop: what is left with, or nothing to go on. -/
def resumeRedemptionFrom : EquityRedemption → Flow RedemptionError (Option Unit)
  | .vaultWithdrawPending .. => redeemAndGoOn .submitWithdraw
  | .vaultWithdrawSubmitted .. => redeemAndGoOn .confirmWithdraw
  | .withdrawnFromRaindex _ => redeemAndGoOn .unwrapTokens
  | .unwrapPending _ => redeemAndGoOn .submitUnwrap
  | .unwrapSubmitted .. => redeemAndGoOn .confirmUnwrap
  | .tokensUnwrapped _ => redeemAndGoOn .prepareSend
  | .sendPending _ => redeemAndGoOn .sendTokens
  | .tokensSent _ _ _ _ _ _ redemptionTx _ => do
      resumeSentRedemption redemptionTx
      pure none
  | .pending _ _ _ requestId _ _ => do
      resumePendingRedemption requestId
      pure (some ())
  | .completed .. | .failed .. | .reconciled .. => pure (some ())

def resumeRedemption : Nat → Flow RedemptionError (Option Unit) :=
  Prog.loop do
    let entity ← loadRedemptionEntity
    resumeRedemptionFrom entity

def startRedemption (symbol : Symbol) (quantity : FractionalShares) :
    Flow RedemptionError Unit := do
  let token ← Prog.liftExcept
    ((← ask (.vaultTokenForSymbol symbol)).mapError RedemptionError.vaultLookup)
  let amount ← Prog.liftExcept
    ((toU256Decimals18 quantity).mapError RedemptionError.sharesConversion)
  withdrawFromRaindex symbol quantity token amount
  let redemptionTx ← unwrapAndSend
  let requestId ← pollDetection redemptionTx
  pollCompletion requestId

def resumeEquityToHedging (symbol : Symbol) (quantity : FractionalShares) (turns : Nat) :
    Flow RedemptionError (Option Unit) := do
  match ← loadRedemption with
  | none => do
      startRedemption symbol quantity
      pure (some ())
  | some _ => resumeRedemption turns

end Redemption

/-! ## From the broker to the market making venue -/

inductive MintError where
  | aggregate (error : SendError TokenizedEquityMintError)
  | wrapper (error : ChainError)
  | raindex (error : ChainError)
  | vaultLookup (message : String)
  | verification (message : String)
  | entityNotFound (expectedState : String)
  | unexpectedState (expectedState : String) (entity : TokenizedEquityMint)
  deriving DecidableEq

def MintError.isInsufficientBalanceRevert : MintError → Bool
  | .raindex error | .wrapper error => error.insufficientBalance
  | _ => false

/-- Whether tokens were in the wallet when an attempt failed. -/
inductive MintTransferError where
  | preReceipt (error : MintError)
  | postReceipt (error : MintError)
  deriving DecidableEq

/-- The mint that an attempt is about. -/
structure Config where
  issuerRequestId : IssuerRequestId
  wallet : EvmAddress

section Mint

variable (config : Config)

def sendMint (command : TokenizedEquityMintCommand) : Flow MintError Unit := do
  Prog.liftExcept ((← ask (.mint command)).mapError .aggregate)

def loadMint : Flow MintError (Option TokenizedEquityMint) := do
  Prog.liftExcept ((← ask .loadMint).mapError .aggregate)

def loadMintEntity : Flow MintError TokenizedEquityMint := do
  match ← loadMint with
  | some entity => pure entity
  | none => throw (.entityNotFound "active mint state")

/-- What verifying and wrapping takes of a received mint. -/
structure TokensReceivedData where
  sharesMinted : Nat
  txHash : TxHash
  symbol : Symbol
  wallet : EvmAddress

def loadTokensReceived : Flow MintError TokensReceivedData := do
  match ← loadMint with
  | none => throw (.entityNotFound "TokensReceived")
  | some (.tokensReceived mint) =>
      pure ⟨mint.sharesMinted, mint.txHash, mint.symbol, mint.wallet⟩
  | some other => throw (.unexpectedState "TokensReceived" other)

/-- The wrapper's answer. -/
def wrapper {α : Type} (answer : Except ChainError α) : Flow MintError α :=
  Prog.liftExcept (answer.mapError .wrapper)

/-- The vault's answer. -/
def raindex {α : Type} (answer : Except ChainError α) : Flow MintError α :=
  Prog.liftExcept (answer.mapError .raindex)

def verifyReceivedMint (tokensReceived : TokensReceivedData) : Flow MintError Unit := do
  let unwrappedToken ← wrapper (← ask (.lookupUnderlying tokensReceived.symbol))
  Prog.liftExcept ((← ask (.verifyMintTx tokensReceived.txHash unwrappedToken
    tokensReceived.wallet tokensReceived.sharesMinted)).mapError .verification)

structure WrappedMintResult where
  token : EvmAddress
  shares : Nat
  block : Nat

/-- Submit the wrap, record it, wait for it, and record what it made. -/
def wrapReceivedMint (tokensReceived : TokensReceivedData) : Flow MintError WrappedMintResult := do
  let token ← wrapper (← ask (.lookupDerivative tokensReceived.symbol))
  let wrapTxHash ← wrapper (← ask (.submitWrap token tokensReceived.sharesMinted config.wallet))
  sendMint (.submitWrap wrapTxHash)
  let confirmation ← wrapper (← ask (.confirmWrap token wrapTxHash))
  sendMint (.wrapTokens wrapTxHash confirmation.shares confirmation.block)
  pure ⟨token, confirmation.shares, confirmation.block⟩

/-- Submit the deposit, record it, wait for it, and record that it is done. -/
def depositWrappedMint (wrappedToken : EvmAddress) (wrappedShares : Nat) :
    Flow MintError Unit := do
  let vaultId ← Prog.liftExcept ((← ask (.vaultIdForToken wrappedToken)).mapError .vaultLookup)
  let vaultDepositTxHash ← raindex (← ask (.submitDeposit wrappedToken vaultId wrappedShares))
  sendMint (.submitVaultDeposit vaultDepositTxHash)
  raindex (← ask (.confirmTx vaultDepositTxHash))
  sendMint (.depositToVault vaultDepositTxHash)

/-- A deposit that finds the wallet empty is taken for one that was made before. -/
def tryDepositOrRecover (wrappedToken : EvmAddress) (wrappedShares : Nat) :
    Flow MintError Unit := do
  match ← (depositWrappedMint wrappedToken wrappedShares).capture with
  | .ok () => pure ()
  | .error error =>
      if error.isInsufficientBalanceRevert then sendMint (.depositToVault 0) else throw error

def finalizeReceivedMint (tokensReceived : TokensReceivedData) : Flow MintError Unit := do
  verifyReceivedMint tokensReceived
  let wrapped ← wrapReceivedMint config tokensReceived
  wrapper (← ask (.waitForBlock wrapped.block))
  depositWrappedMint wrapped.token wrapped.shares

/-- Wait for a block, if it is known. -/
def waitForWrapBlock : Option Nat → Flow MintError Unit
  | some block => do wrapper (← ask (.waitForBlock block))
  | none => pure ()

/-- One turn of the loop. -/
def resumeMintFrom : TokenizedEquityMint → Flow MintError (Option Unit)
  | .mintAccepted _ => do
      sendMint .poll
      pure none
  | .tokensReceived _ => do
      let tokensReceived ← loadTokensReceived
      finalizeReceivedMint config tokensReceived
      pure (some ())
  | .wrapSubmitted mint wrapTxHash => do
      let wrappedToken ← wrapper (← ask (.lookupDerivative mint.symbol))
      let confirmation ← wrapper (← ask (.confirmWrap wrappedToken wrapTxHash))
      sendMint (.wrapTokens wrapTxHash confirmation.shares confirmation.block)
      wrapper (← ask (.waitForBlock confirmation.block))
      tryDepositOrRecover wrappedToken confirmation.shares
      pure (some ())
  | .tokensWrapped mint wrapBlock => do
      let wrappedToken ← wrapper (← ask (.lookupDerivative mint.symbol))
      waitForWrapBlock wrapBlock
      tryDepositOrRecover wrappedToken mint.wrappedShares
      pure (some ())
  | .vaultDepositSubmitted _ vaultDepositTxHash => do
      raindex (← ask (.confirmTx vaultDepositTxHash))
      sendMint (.depositToVault vaultDepositTxHash)
      pure (some ())
  | .depositedIntoRaindex .. | .failed .. | .reconciled .. => pure (some ())
  | .mintRequested request =>
      throw (.unexpectedState "MintAccepted, TokensReceived, or TokensWrapped"
        (.mintRequested request))

def resumeMint : Nat → Flow MintError (Option Unit) :=
  Prog.loop do
    let entity ← loadMintEntity
    resumeMintFrom config entity

def startMint (symbol : Symbol) (quantity : FractionalShares) : Flow MintTransferError Unit := do
  (sendMint (.requestMint config.issuerRequestId symbol quantity config.wallet)).mapError
    .preReceipt
  (sendMint .poll).mapError .preReceipt
  let tokensReceived ← loadTokensReceived.mapError .postReceipt
  (finalizeReceivedMint config tokensReceived).mapError .postReceipt

def mintReachedPostReceipt : TokenizedEquityMint → Bool
  | .tokensReceived _ | .wrapSubmitted .. | .tokensWrapped .. | .vaultDepositSubmitted ..
  | .depositedIntoRaindex .. => true
  | _ => false

def classifyMintResumeError (reached : Except MintError TokenizedEquityMint) (error : MintError) :
    MintTransferError :=
  match reached with
  | .ok entity => if mintReachedPostReceipt entity then .postReceipt error else .preReceipt error
  | .error _ => .preReceipt error

/-- Resume a mint whose tokens had not arrived. -/
def resumeUnreceivedMint (turns : Nat) : Flow MintTransferError (Option Unit) := do
  match ← (resumeMint config turns).capture with
  | .ok done => pure done
  | .error error => do
      let reached ← loadMintEntity.capture
      throw (classifyMintResumeError reached error)

def resumeEquityToMarketMaking (symbol : Symbol) (quantity : FractionalShares) (turns : Nat) :
    Flow MintTransferError (Option Unit) := do
  match ← loadMint.mapError .preReceipt with
  | none => do
      startMint config symbol quantity
      pure (some ())
  | some (.mintRequested _) => resumeUnreceivedMint config turns
  | some (.mintAccepted _) => resumeUnreceivedMint config turns
  | some _ => (resumeMint config turns).mapError .postReceipt

end Mint

/-! ## The attempts -/

inductive Direction where
  | redemption
  | mint
  deriving DecidableEq, Repr

/-- What an attempt is called with, and how many turns it is given. -/
inductive Label where
  | resumeEquityToHedging (symbol : Symbol) (quantity : FractionalShares) (turns : Nat)
  | resumeRedemption (turns : Nat)
  | resumeEquityToMarketMaking (symbol : Symbol) (quantity : FractionalShares) (turns : Nat)
  | resumeMint (turns : Nat)
  deriving DecidableEq

def Label.direction : Label → Direction
  | .resumeEquityToHedging .. | .resumeRedemption _ => .redemption
  | .resumeEquityToMarketMaking .. | .resumeMint _ => .mint

inductive AttemptError where
  | redemption (error : RedemptionError)
  | transfer (error : MintTransferError)
  | mint (error : MintError)
  deriving DecidableEq

def attempt (config : Config) : Label → Flow AttemptError (Option Unit)
  | .resumeEquityToHedging symbol quantity turns =>
      (CrossVenueEquity.resumeEquityToHedging symbol quantity turns).mapError .redemption
  | .resumeRedemption turns => (CrossVenueEquity.resumeRedemption turns).mapError .redemption
  | .resumeEquityToMarketMaking symbol quantity turns =>
      (CrossVenueEquity.resumeEquityToMarketMaking config symbol quantity turns).mapError .transfer
  | .resumeMint turns => (CrossVenueEquity.resumeMint config turns).mapError .mint

/-- A mint and a redemption may overlap. That attempts of one transfer do not is assumed:
an operator who resumes a transfer whose job is running breaks it. -/
def system (config : Config) :
    System Op Op.Ret AttemptError (Option Unit) World Choice Label Env where
  program := attempt config
  handle := handle
  environment := environment
  canStart := fun _ _ => true
  exclusive := fun a b => a.direction = b.direction

end Liquidity.CrossVenueEquity
