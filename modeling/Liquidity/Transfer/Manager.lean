import Liquidity.Transfer.Bridging

/-!
# Resuming a transfer

An attempt loads the rebalance and goes on from whatever state it is stored in,
to the end of the transfer if nothing fails. Every state has its own entry; what
comes after an entry is shared with the attempts that got there by themselves.

A transfer is one rebalance in one direction. Its attempts never overlap, since
one worker runs them, but the burn tasks they spawned go on without them.
-/

namespace Liquidity.Transfer

open EventSourcing Process

variable [FloatFormat] (config : Config)

/-! ## Alpaca to Base -/

section AlpacaToBase

omit [FloatFormat] in
def TransferStatus.debug : TransferStatus → String
  | .pending => "Pending"
  | .processing => "Processing"
  | .complete => "Complete"
  | .failed => "Failed"

/-- Convert USD to USDC at the start of the transfer. The answer is what was
bought. -/
def executeUsdToUsdcConversion (amount : Usdc) : Flow Usdc := do
  let correlationId ← ask .newClientOrderId
  send (.initiateConversion .alpacaToBase amount correlationId)
  let conversion ← placeConversion amount .usdToUsdc correlationId
  pure conversion.receivedAmount

omit [FloatFormat] in
/-- Ask Alpaca for a withdrawal, then record the transfer it answered with. -/
def initiateAlpacaWithdrawal (amount : Usdc) : Flow Nat :=
  match Positive.new amount with
  | none => throw .notPositive
  | some positiveAmount => do
      match ← ask (.initiateWithdrawal positiveAmount) with
      | .error error => throw (.alpacaWallet error)
      | .ok transfer => do
          send (.initiate .alpacaToBase amount (.alpacaId transfer))
          pure transfer

omit [FloatFormat] in
/-- The payout has to be deep enough before its amount is trusted. -/
def requireConfirmations (tx : TxHash) : Flow Unit := do
  match ← ask (.ethereumTxConfirmations tx) with
  | .error error => throw (.settlementCheckTransient error)
  | .ok none => throw (.withdrawalTxUnderconfirmed tx config.requiredConfirmations 0)
  | .ok (some confirmations) =>
      if confirmations < config.requiredConfirmations then
        throw (.withdrawalTxUnderconfirmed tx config.requiredConfirmations confirmations)
      else pure ()

omit [FloatFormat] in
def requireConfirmationsOf : Option TxHash → Flow Unit
  | some tx => requireConfirmations config tx
  | none => pure ()

omit [FloatFormat] in
/-- Poll the withdrawal to its end. Only a failure without a payout is final;
anything unclear is polled again by the next attempt. -/
def pollAndConfirmWithdrawal (transfer : Nat) (initiatedAt : Time) : Flow (Option TxHash) := do
  match ← ask (.pollTransferUntilComplete transfer) with
  | .error _ => throw (.withdrawalPollInconclusive initiatedAt)
  | .ok polled =>
      if polled.status = .failed ∧ polled.tx.isSome then
        throw (.withdrawalPollInconclusive initiatedAt)
      else if polled.status ≠ .complete then do
        send (.failWithdrawal ("Transfer ended in status: " ++ polled.status.debug))
        throw (.withdrawalFailed polled.status)
      else do
        send (.confirmWithdrawal polled.tx)
        requireConfirmationsOf config polled.tx
        pure polled.tx

omit [FloatFormat] in
def confirmDeposit : Flow Unit := send .confirmDeposit

omit [FloatFormat] in
/-- Submit the deposit and record its hash before it is confirmed. -/
def depositToVault (amount : Nat) : Flow Unit := do
  match ← ask (.broadcast .deposit amount) with
  | .error error => throw (.vault error)
  | .ok depositTx => do
      send (.initiateDeposit (.onchainTx depositTx))
      Prog.liftExcept ((← ask (.awaitReceipt depositTx)).mapError .vault)

omit [FloatFormat] in
def continueAlpacaToBaseFromBridged (amountReceived : Usdc) : Flow Unit := do
  let amount ← Prog.liftExcept (usdcToU256 amountReceived)
  depositToVault amount
  confirmDeposit

def continueAlpacaToBaseFromBridging (burnTx : TxHash) (initiatedAt : Time) : Flow Unit := do
  let response ← awaitAttestation config .alpacaToBase burnTx
  let amountReceived ← executeCctpMint response initiatedAt
  continueAlpacaToBaseFromBridged amountReceived

def continueAlpacaToBaseFromAwaitingAttestation (burnTx : TxHash)
    (retryDeadlineAt initiatedAt : Time) : Flow Unit := do
  let response ← awaitAttestationAgain .alpacaToBase burnTx retryDeadlineAt
  let amountReceived ← executeCctpMint response initiatedAt
  continueAlpacaToBaseFromBridged amountReceived

def continueAlpacaToBaseFromAttested (burnTx : TxHash) (attestation : List UInt8) (cctpNonce : Nat)
    (message : Option (List UInt8)) (mintScanFromBlock : Option Nat) (initiatedAt : Time) :
    Flow Unit := do
  match ← findSubmittedMint .alpacaToBase mintScanFromBlock initiatedAt with
  | some receipt => do
      let amountReceived ← confirmMint receipt
      continueAlpacaToBaseFromBridged amountReceived
  | none => do
      let response ← attestedAttestationResponse burnTx attestation cctpNonce message
      let amountReceived ← executeCctpMint response initiatedAt
      continueAlpacaToBaseFromBridged amountReceived

omit [FloatFormat] in
/-- The lower bound of the burn's scan: the block of the payout, if it is known. -/
def burnFromBlock : Option TxHash → Flow (Option Nat)
  | none => pure none
  | some tx => do
      match ← ask (.ethereumTxBlock tx) with
      | .error error => throw (.settlementCheckTransient error)
      | .ok block => pure (some block)

/-- Burn what arrived in the wallet, which is empty between transfers. -/
def continueAlpacaToBaseFromWithdrawalComplete (amount : Usdc) (withdrawalTx : Option TxHash)
    (initiatedAt : Time) : Flow Unit := do
  requireConfirmationsOf config withdrawalTx
  let nominal ← Prog.liftExcept (usdcToU256 amount)
  match ← ask .ethereumUsdcBalance with
  | .error error => throw (.settlementCheckTransient error)
  | .ok balance =>
      if balance = 0 then throw (.walletUsdcInsufficient amount)
      else if nominal < balance then do
        let held ← Prog.liftExcept (u256ToUsdc balance)
        send (.failBridging ("wallet holds " ++ toString held ++ " USDC > nominal " ++
          toString amount ++ "; wallet-empty invariant broken; operator reconciliation required"))
        throw (.walletUsdcAmbientBalance held amount)
      else do
        let fromBlock ← burnFromBlock withdrawalTx
        let receipt ← executeCctpBurnOnEthereum balance fromBlock
        continueAlpacaToBaseFromBridging config receipt.tx initiatedAt

def continueAlpacaToBaseFromConversionComplete (filledAmount : Usdc) (initiatedAt : Time) :
    Flow Unit := do
  let transfer ← initiateAlpacaWithdrawal filledAmount
  let now ← ask .now
  let withdrawalTx ← pollAndConfirmWithdrawal config transfer now
  continueAlpacaToBaseFromWithdrawalComplete config filledAmount withdrawalTx initiatedAt

def executeAlpacaToBase (amount : Usdc) : Flow Unit := do
  let usdcAmount ← executeUsdToUsdcConversion amount
  let transfer ← initiateAlpacaWithdrawal usdcAmount
  let initiatedAt ← ask .now
  let withdrawalTx ← pollAndConfirmWithdrawal config transfer initiatedAt
  continueAlpacaToBaseFromWithdrawalComplete config usdcAmount withdrawalTx initiatedAt

omit [FloatFormat] in
/-- A recorded deposit is confirmed, or failed if it will never be mined. -/
def resumeDepositInitiated : TransferRef → Flow Unit
  | .alpacaId _ => throw .depositRefMustBeOnchain
  | .onchainTx depositTx => do
      match ← ask (.awaitReceipt depositTx) with
      | .ok () => confirmDeposit
      | .error error =>
          if error = .transactionDropped then do
            send (.failDeposit ("Deposit tx " ++ toString depositTx ++
              " dropped from the mempool and will not mine"))
            throw (.vault error)
          else throw (.vault error)

def resumeWithdrawing (amount : Usdc) (withdrawalRef : TransferRef) (initiatedAt : Time) :
    Flow Unit :=
  match withdrawalRef with
  | .onchainTx _ => throw .withdrawalRefMustBeAlpacaId
  | .alpacaId transfer => do
      let withdrawalTx ← pollAndConfirmWithdrawal config transfer initiatedAt
      continueAlpacaToBaseFromWithdrawalComplete config amount withdrawalTx initiatedAt

/-- The intent to burn scans for what was actually burned, if that was stored. -/
def resumeAlpacaToBaseBurn (amount : Usdc) (burnAmount : Option Usdc) (fromBlock : Nat)
    (pendingBurnTx : Option TxHash) (initiatedAt : Time) : Flow Unit := do
  let nominal ← Prog.liftExcept (usdcToU256 amount)
  let scanAmount ← Prog.liftExcept (match burnAmount with
    | some burn => usdcToU256 burn
    | none => .ok nominal)
  let receipt ← resumeBridgingSubmittingEthereum scanAmount fromBlock pendingBurnTx
  continueAlpacaToBaseFromBridging config receipt.tx initiatedAt

/-- Where an attempt goes on from each state. -/
def resumeAlpacaToBaseFrom (amount : Usdc) : Option UsdcRebalance → Flow Unit
  | none => executeAlpacaToBase config amount
  | some (.converting .alpacaToBase ..) => do
      send (.failConversion ("resume from Converting state requires manual reconciliation: " ++
        "broker order ID not persisted"))
      throw .resumeIndeterminateConversion
  | some (.conversionComplete .alpacaToBase _ conversion initiatedAt _) =>
      continueAlpacaToBaseFromConversionComplete config conversion.receivedAmount initiatedAt
  | some (.withdrawing .alpacaToBase amount withdrawalRef initiatedAt) =>
      resumeWithdrawing config amount withdrawalRef initiatedAt
  | some (.withdrawalComplete .alpacaToBase amount initiatedAt _ withdrawalTx) =>
      continueAlpacaToBaseFromWithdrawalComplete config amount withdrawalTx initiatedAt
  | some (.bridgingSubmitting .alpacaToBase amount fromBlock initiatedAt burnAmount pendingBurnTx) =>
      resumeAlpacaToBaseBurn config amount burnAmount fromBlock pendingBurnTx initiatedAt
  | some (.bridging .alpacaToBase amount burnTx initiatedAt _) => do
      let _ ← Prog.liftExcept (usdcToU256 amount)
      continueAlpacaToBaseFromBridging config burnTx initiatedAt
  | some (.awaitingAttestation .alpacaToBase amount burnTx initiatedAt _ retryDeadlineAt) => do
      let _ ← Prog.liftExcept (usdcToU256 amount)
      continueAlpacaToBaseFromAwaitingAttestation burnTx retryDeadlineAt initiatedAt
  | some (.attested .alpacaToBase _ burnTx cctpNonce attestation message mintScanFromBlock
      initiatedAt _) =>
      continueAlpacaToBaseFromAttested burnTx attestation cctpNonce message mintScanFromBlock
        initiatedAt
  | some (.bridged .alpacaToBase _ amountReceived ..) =>
      continueAlpacaToBaseFromBridged amountReceived
  | some (.depositInitiated .alpacaToBase _ _ _ depositRef ..) => resumeDepositInitiated depositRef
  | some (.depositConfirmed .alpacaToBase ..) | some (.reconciled ..) => pure ()
  | some (.withdrawalSubmitting direction ..) => throw (.resumeDirectionMismatch direction)
  | some (.converting .baseToAlpaca ..) | some (.conversionComplete .baseToAlpaca ..)
  | some (.withdrawing .baseToAlpaca ..) | some (.withdrawalComplete .baseToAlpaca ..)
  | some (.bridgingSubmitting .baseToAlpaca ..) | some (.bridging .baseToAlpaca ..)
  | some (.awaitingAttestation .baseToAlpaca ..) | some (.attested .baseToAlpaca ..)
  | some (.bridged .baseToAlpaca ..) | some (.depositInitiated .baseToAlpaca ..)
  | some (.depositConfirmed .baseToAlpaca ..) => throw (.resumeDirectionMismatch .baseToAlpaca)
  | some (.withdrawalFailed ..) | some (.bridgingFailed ..) | some (.depositFailed ..)
  | some (.conversionFailed ..) => throw .previouslyFailedAggregate

def resumeAlpacaToBase (amount : Usdc) : Flow Unit := do
  let state ← load
  resumeAlpacaToBaseFrom config amount state

end AlpacaToBase

/-! ## Base to Alpaca -/

section BaseToAlpaca

omit [FloatFormat] in
/-- An under-funded vault withdraws nothing until it is refunded. -/
def classifyVaultWithdrawalError : EvmError → UsdcTransferError
  | .insufficientVaultLiquidity => .insufficientVaultLiquidity
  | error => .vault error

omit [FloatFormat] in
/-- Broadcast a withdrawal and wait until it is in a block. -/
def withdrawUsdc (amount : Nat) : Flow TxHash := do
  match ← ask (.broadcast .withdraw amount) with
  | .error error => throw (classifyVaultWithdrawalError error)
  | .ok withdrawTx => do
      match ← ask (.awaitReceipt withdrawTx) with
      | .error error => throw (classifyVaultWithdrawalError error)
      | .ok () => pure withdrawTx

omit [FloatFormat] in
def recordVaultWithdrawal (amount : Usdc) (withdrawTx : TxHash) : Flow Unit := do
  send (.initiate .baseToAlpaca amount (.onchainTx withdrawTx))
  send (.confirmWithdrawal none)

omit [FloatFormat] in
/-- Record the intent and the chain head, then withdraw. -/
def withdrawFromVault (amount : Usdc) (amountU256 : Nat) : Flow Unit := do
  match ← ask (.currentBlock .base) with
  | .error error => throw (.vault (.other error.message))
  | .ok fromBlock => do
      send (.beginWithdrawal .baseToAlpaca amount fromBlock)
      let withdrawTx ← withdrawUsdc amountU256
      recordVaultWithdrawal amount withdrawTx

omit [FloatFormat] in
/-- Resume from the intent: adopt a withdrawal that was mined, and otherwise
withdraw. -/
def resumeWithdrawalSubmitting (amount : Usdc) (amountU256 fromBlock : Nat) : Flow Unit := do
  match ← ask (.findRecentWithdrawal fromBlock) with
  | .error error => throw (.vault error)
  | .ok (some (existingTx, withdrawn)) =>
      if withdrawn ≠ amountU256 then do
        send (.initiate .baseToAlpaca amount (.onchainTx existingTx))
        send (.failWithdrawal ("adopted withdrawal " ++ toString existingTx ++ " realized " ++
          toString withdrawn ++ ", requested " ++ toString amountU256))
        throw (.adoptedWithdrawalAmountMismatch withdrawn amountU256)
      else recordVaultWithdrawal amount existingTx
  | .ok none => do
      let withdrawTx ← withdrawUsdc amountU256
      recordVaultWithdrawal amount withdrawTx

/-- Convert USDC to USD at the end of the transfer. -/
def executeUsdcToUsdConversion (amount : Usdc) : Flow Unit := do
  let correlationId ← ask .newClientOrderId
  send (.initiatePostDepositConversion correlationId amount)
  let _ ← placeConversion amount .usdcToUsd correlationId
  pure ()

omit [FloatFormat] in
def pollAlpacaDepositAndConfirm (sendTx : TxHash) : Flow Unit := do
  match ← ask (.pollDepositByTxHash sendTx) with
  | .error error => do
      send (.failDeposit ("Deposit polling failed: " ++ error))
      throw (.alpacaWallet error)
  | .ok status =>
      if status ≠ .complete then do
        send (.failDeposit ("Deposit ended in status: " ++ status.debug))
        throw (.depositFailed status)
      else send .confirmDeposit

def finishDeposit (amountReceived : Usdc) (sendTx : TxHash) : Flow Unit := do
  send (.initiateDeposit (.onchainTx sendTx))
  pollAlpacaDepositAndConfirm sendTx
  executeUsdcToUsdConversion amountReceived

omit [FloatFormat] in
def fetchAlpacaDepositAddress : Flow Unit := do
  Prog.liftExcept ((← ask .getWalletAddress).mapError .alpacaWallet)

omit [FloatFormat] in
def EvmError.toCctp : EvmError → CctpError
  | .other message => ⟨.other, message⟩
  | _ => ⟨.other, ""⟩

omit [FloatFormat] in
/-- Broadcast a transfer to Alpaca's deposit address and wait for it. -/
def sendUsdcOnEthereum (amount : Nat) : Flow TxHash := do
  match ← ask (.broadcast .transfer amount) with
  | .error error => throw (.cctp error.toCctp)
  | .ok sendTx => do
      match ← ask (.awaitReceipt sendTx) with
      | .error error => throw (.cctp error.toCctp)
      | .ok () => pure sendTx

omit [FloatFormat] in
def sendAlpacaDeposit (amountReceived : Usdc) : Flow TxHash := do
  fetchAlpacaDepositAddress
  let amount ← Prog.liftExcept (usdcToU256 amountReceived)
  sendUsdcOnEthereum amount

omit [FloatFormat] in
/-- Adopt a transfer that was mined since the mint, and otherwise send one. -/
def sendOrAdoptAlpacaDeposit (amountReceived : Usdc) (mintTx : TxHash) : Flow TxHash := do
  fetchAlpacaDepositAddress
  let amount ← Prog.liftExcept (usdcToU256 amountReceived)
  match ← ask (.ethereumTxBlock mintTx) with
  | .error error => throw (.cctp error)
  | .ok fromBlock => do
      match ← ask (.findRecentUsdcTransfer amount fromBlock) with
      | .error error => throw (.cctp error)
      | .ok (some existingTx) => pure existingTx
      | .ok none => sendUsdcOnEthereum amount

def continueFromBridgedFresh (amountReceived : Usdc) : Flow Unit := do
  let sendTx ← sendAlpacaDeposit amountReceived
  finishDeposit amountReceived sendTx

def continueFromBridgedResume (amountReceived : Usdc) (mintTx : TxHash) : Flow Unit := do
  let sendTx ← sendOrAdoptAlpacaDeposit amountReceived mintTx
  finishDeposit amountReceived sendTx

def mintAndContinue (response : AttestationResponse) (initiatedAt : Time) : Flow Unit := do
  let amountReceived ← executeCctpMintOnEthereum response initiatedAt
  continueFromBridgedFresh amountReceived

def continueFromBridging (amount : Usdc) (burnTx : TxHash) (initiatedAt : Time) : Flow Unit := do
  let _ ← Prog.liftExcept (usdcToU256 amount)
  let response ← awaitAttestation config .baseToAlpaca burnTx
  mintAndContinue response initiatedAt

def continueFromAwaitingAttestation (amount : Usdc) (burnTx : TxHash)
    (retryDeadlineAt initiatedAt : Time) : Flow Unit := do
  let _ ← Prog.liftExcept (usdcToU256 amount)
  let response ← awaitAttestationAgain .baseToAlpaca burnTx retryDeadlineAt
  mintAndContinue response initiatedAt

def continueFromAttested (burnTx : TxHash) (attestation : List UInt8) (cctpNonce : Nat)
    (message : Option (List UInt8)) (mintScanFromBlock : Option Nat) (initiatedAt : Time) :
    Flow Unit := do
  match ← findSubmittedMint .baseToAlpaca mintScanFromBlock initiatedAt with
  | some receipt => do
      let amountReceived ← confirmMint receipt
      continueFromBridgedResume amountReceived receipt.tx
  | none => do
      let response ← attestedAttestationResponse burnTx attestation cctpNonce message
      mintAndContinue response initiatedAt

def continueFromWithdrawalComplete (amount : Usdc) (initiatedAt : Time) : Flow Unit := do
  let amountU256 ← Prog.liftExcept (usdcToU256 amount)
  let receipt ← executeCctpBurnOnBase amountU256
  continueFromBridging config amount receipt.tx initiatedAt

def executeBaseToAlpaca (amount : Usdc) : Flow Unit := do
  let amountU256 ← Prog.liftExcept (usdcToU256 amount)
  let initiatedAt ← ask .now
  withdrawFromVault amount amountU256
  let receipt ← executeCctpBurnOnBase amountU256
  continueFromBridging config amount receipt.tx initiatedAt

omit [FloatFormat] in
def CryptoOrderFailureReason.debug : CryptoOrderFailureReason → String
  | .canceled => "Canceled"
  | .expired => "Expired"
  | .rejected => "Rejected"
  | .doneForDay => "DoneForDay"
  | .replaced => "Replaced"
  | .suspended => "Suspended"
  | .calculated => "Calculated"

omit [FloatFormat] in
/-- What a failed order had already converted. -/
def partialFillText (order : CryptoOrderResponse) : String :=
  match order.filledQuantity with
  | some filled =>
      if filled = 0 then ""
      else " (partial fill " ++ toString filled ++ " needs reconciliation)"
  | none => ""

/-- How a conversion order that has ended is recorded. -/
def concludeConversion (correlationId : ClientOrderId) (order : CryptoOrderResponse) :
    Flow Unit :=
  match order.outcome with
  | .filled => do
      let conversion ←
        Prog.liftExcept (conversionAmountsFromOrder order correlationId .usdcToUsd)
      send (.confirmConversion conversion)
  | .pending => throw .resumeIndeterminateConversion
  | .failed reason => do
      send (.failConversion ("conversion order failed: " ++ reason.debug ++ partialFillText order))
      throw .resumeIndeterminateConversion

/-- Look the order up by the identifier recorded before it was placed. It is
never placed again. -/
def resumeConverting (correlationId : ClientOrderId) : Flow Unit := do
  match ← ask (.findConversionOrder correlationId) with
  | .error error => throw (.alpacaBrokerApi error)
  | .ok none => do
      send (.failConversion ("conversion order " ++ toString correlationId.uuid ++
        " never reached Alpaca"))
      throw .resumeIndeterminateConversion
  | .ok (some order) =>
      if order.outcome = .pending then do
        match ← ask (.pollConversionToTerminal order.id) with
        | .error error => throw (.alpacaBrokerApi error)
        | .ok order => concludeConversion correlationId order
      else concludeConversion correlationId order

/-- A bridge that failed after its burn may have minted after all. -/
def recoverFromBridgingFailed (burnTx : Option TxHash) (initiatedAt : Time) : Flow Unit :=
  match burnTx with
  | none => throw .previouslyFailedAggregate
  | some burnTx => do
      match ← ask (.pollAttestation burnTx) with
      | .error error =>
          if error.kind = .attestationTimeout then throw .attestationTimedOut
          else throw (.cctp error)
      | .ok attestation => do
          match ← ask (.mint .ethereum attestation) with
          | .error error =>
              if error.kind = .mintRecoveryInconclusive then
                throw (.mintRecoveryInconclusive initiatedAt error)
              else throw (.cctp error)
          | .ok receipt => do
              let amountReceived ← Prog.liftExcept (u256ToUsdc receipt.amount)
              let feeCollected ← Prog.liftExcept (u256ToUsdc receipt.fee)
              send (.recoverBridging receipt.tx amountReceived feeCollected)
              continueFromBridgedResume amountReceived receipt.tx

def resumeDepositInitiatedAtAlpaca (amount : Usdc) : TransferRef → Flow Unit
  | .alpacaId _ => throw .depositRefMustBeOnchain
  | .onchainTx sendTx => do
      pollAlpacaDepositAndConfirm sendTx
      executeUsdcToUsdConversion amount

omit [FloatFormat] in
def requireBaseToAlpaca (direction : RebalanceDirection) (next : Flow Unit) : Flow Unit :=
  if direction = .baseToAlpaca then next else throw (.resumeDirectionMismatch direction)

/-- Where an attempt goes on from each state. -/
def resumeBaseToAlpacaFrom (amount : Usdc) : Option UsdcRebalance → Flow Unit
  | none => executeBaseToAlpaca config amount
  | some (.withdrawalSubmitting direction amount fromBlock initiatedAt) =>
      requireBaseToAlpaca direction do
        let amountU256 ← Prog.liftExcept (usdcToU256 amount)
        resumeWithdrawalSubmitting amount amountU256 fromBlock
        continueFromWithdrawalComplete config amount initiatedAt
  | some (.withdrawing direction amount _ initiatedAt) =>
      requireBaseToAlpaca direction do
        send (.confirmWithdrawal none)
        continueFromWithdrawalComplete config amount initiatedAt
  | some (.withdrawalComplete direction amount initiatedAt _ _) =>
      requireBaseToAlpaca direction (continueFromWithdrawalComplete config amount initiatedAt)
  | some (.bridgingSubmitting direction amount fromBlock initiatedAt _ pendingBurnTx) =>
      requireBaseToAlpaca direction do
        let amountU256 ← Prog.liftExcept (usdcToU256 amount)
        let receipt ← resumeBridgingSubmitting amountU256 fromBlock pendingBurnTx
        continueFromBridging config amount receipt.tx initiatedAt
  | some (.bridging direction amount burnTx initiatedAt _) =>
      requireBaseToAlpaca direction (continueFromBridging config amount burnTx initiatedAt)
  | some (.awaitingAttestation direction amount burnTx initiatedAt _ retryDeadlineAt) =>
      requireBaseToAlpaca direction
        (continueFromAwaitingAttestation amount burnTx retryDeadlineAt initiatedAt)
  | some (.attested direction _ burnTx cctpNonce attestation message mintScanFromBlock
      initiatedAt _) =>
      requireBaseToAlpaca direction
        (continueFromAttested burnTx attestation cctpNonce message mintScanFromBlock initiatedAt)
  | some (.bridged direction _ amountReceived _ _ mintTx ..) =>
      requireBaseToAlpaca direction (continueFromBridgedResume amountReceived mintTx)
  | some (.depositInitiated direction amount _ _ depositRef ..) =>
      requireBaseToAlpaca direction (resumeDepositInitiatedAtAlpaca amount depositRef)
  | some (.depositConfirmed .baseToAlpaca amount ..) => executeUsdcToUsdConversion amount
  | some (.depositConfirmed .alpacaToBase ..) => pure ()
  | some (.converting direction _ orderId _) =>
      requireBaseToAlpaca direction (resumeConverting orderId)
  | some (.conversionComplete direction ..) => requireBaseToAlpaca direction (pure ())
  | some (.bridgingFailed direction _ burnTx _ _ initiatedAt _) =>
      requireBaseToAlpaca direction (recoverFromBridgingFailed burnTx initiatedAt)
  | some (.withdrawalFailed ..) | some (.depositFailed ..) | some (.conversionFailed ..) =>
      throw .previouslyFailedAggregate
  | some (.reconciled ..) => pure ()

def resumeBaseToAlpaca (amount : Usdc) : Flow Unit := do
  let state ← load
  resumeBaseToAlpacaFrom config amount state

end BaseToAlpaca

/-! ## The system -/

/-- The threads of one transfer. -/
inductive Label where
  /-- An attempt of the job, which carries the amount to start with. -/
  | attempt (amount : Usdc)
  | burn (task : Nat)
  deriving DecidableEq

/-- All schedules of the attempts of one transfer and the tasks they spawn. -/
def system (direction : RebalanceDirection) :
    System Op Op.Ret UsdcTransferError Unit World Choice Label Env where
  program
    | .attempt amount =>
        match direction with
        | .alpacaToBase => resumeAlpacaToBase config amount
        | .baseToAlpaca => resumeBaseToAlpaca config amount
    | .burn task => burnTask task
  handle := handle
  environment := environment
  canStart := fun _ _ => true
  exclusive
    | .attempt _, .attempt _ => true
    | .burn first, .burn second => first = second
    | _, _ => false

end Liquidity.Transfer
