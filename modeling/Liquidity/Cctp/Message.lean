import Liquidity.Receipts.Wait

/-!
# Attested messages

A message starts with a header of fixed layout: version, source domain, destination
domain, nonce, and what the receiving contract checks. The body follows. Numbers are
big-endian.
-/

namespace Liquidity.Cctp

open Receipts (EvmError TransportError)

inductive BridgeDirection where
  | ethereumToBase
  | baseToEthereum
  deriving DecidableEq, Repr

inductive CctpError where
  | evm (error : EvmError)
  | rpcTransport (error : TransportError)
  | messageTooShortForRecovery (length : Nat)
  | placeholderNonce
  | messageDestinationDomainMismatch (expected actual : Nat)
  | alreadyMintedMessageNotFound (nonce : Nat)
  | recoveredMintMessageMismatch (nonce : Nat)
  | recoveredMintLogMissingTxHash (nonce : Nat)
  | recoveredMintReceiptReverted (txHash : TxHash)
  | recoveredMintAndWithdrawEventNotFound (txHash : TxHash)
  deriving DecidableEq, Repr

def ethereumDomain : Nat := 0

def baseDomain : Nat := 6

namespace BridgeDirection

def destDomain : BridgeDirection → Nat
  | ethereumToBase => baseDomain
  | baseToEthereum => ethereumDomain

end BridgeDirection

/-! ## Reading a message -/

def nonceIndex : Nat := 12
def nonceSize : Nat := 32
def sourceDomainIndex : Nat := 4
def destinationDomainIndex : Nat := 8
def domainSize : Nat := 4
def messageBodyIndex : Nat := 148

def fromBeBytes (bytes : List UInt8) : Nat :=
  bytes.foldl (fun value byte => value * 256 + byte.toNat) 0

/-- The bytes from an index on. -/
def slice (message : List UInt8) (index size : Nat) : List UInt8 := (message.drop index).take size

structure CctpReceivedMessage where
  sourceDomain : Nat
  destinationDomain : Nat
  nonce : Nat
  messageBody : List UInt8
  deriving DecidableEq, Repr

def extractDomain (message : List UInt8) (index : Nat) : Except CctpError Nat :=
  if message.length < index + domainSize then
    .error (.messageTooShortForRecovery message.length)
  else .ok (fromBeBytes (slice message index domainSize))

def parseReceivedMessage (message : List UInt8) : Except CctpError CctpReceivedMessage :=
  if message.length < messageBodyIndex then
    .error (.messageTooShortForRecovery message.length)
  else do
    let sourceDomain ← extractDomain message sourceDomainIndex
    let destinationDomain ← extractDomain message destinationDomainIndex
    return {
      sourceDomain := sourceDomain
      destinationDomain := destinationDomain
      nonce := fromBeBytes (slice message nonceIndex nonceSize)
      messageBody := message.drop messageBodyIndex }

/-- A message that can be minted in this direction. -/
def validateMessageShape (message : List UInt8) (direction : BridgeDirection) :
    Except CctpError CctpReceivedMessage := do
  let receivedMessage ← parseReceivedMessage message
  if receivedMessage.nonce = 0 then .error .placeholderNonce
  else if receivedMessage.destinationDomain ≠ direction.destDomain then
    .error (.messageDestinationDomainMismatch direction.destDomain
      receivedMessage.destinationDomain)
  else .ok receivedMessage

/-- What a message says, if it is long enough to say it. -/
def readMessage (message : List UInt8) : CctpReceivedMessage where
  sourceDomain := fromBeBytes (slice message sourceDomainIndex domainSize)
  destinationDomain := fromBeBytes (slice message destinationDomainIndex domainSize)
  nonce := fromBeBytes (slice message nonceIndex nonceSize)
  messageBody := message.drop messageBodyIndex

theorem parseReceivedMessage_eq_ok {message : List UInt8} {received : CctpReceivedMessage} :
    parseReceivedMessage message = .ok received ↔
      messageBodyIndex ≤ message.length ∧ received = readMessage message := by
  rw [parseReceivedMessage]
  split
  case isTrue short =>
      constructor
      · intro parsed
        cases parsed
      · intro ⟨long, _⟩
        omega
  case isFalse long =>
      have long := Nat.not_lt.mp long
      have reads : ∀ index, index + domainSize ≤ messageBodyIndex →
          extractDomain message index = .ok (fromBeBytes (slice message index domainSize)) := by
        intro index within
        rw [extractDomain, if_neg (Nat.not_lt.mpr (within.trans long))]
      rw [reads _ (by decide), reads _ (by decide)]
      constructor
      · intro parsed
        cases parsed
        exact ⟨long, rfl⟩
      · intro ⟨_, same⟩
        rw [same]
        rfl

theorem validateMessageShape_eq_ok {message : List UInt8} {direction : BridgeDirection}
    {received : CctpReceivedMessage} :
    validateMessageShape message direction = .ok received ↔
      messageBodyIndex ≤ message.length ∧ received = readMessage message ∧
        received.nonce ≠ 0 ∧ received.destinationDomain = direction.destDomain := by
  rw [validateMessageShape, bind_eq_ok]
  constructor
  · intro ⟨parsed, read, checked⟩
    obtain ⟨long, rfl⟩ := parseReceivedMessage_eq_ok.mp read
    split at checked
    case isTrue => cases checked
    case isFalse attested =>
        split at checked
        case isTrue => cases checked
        case isFalse here =>
            cases checked
            exact ⟨long, rfl, attested, not_not.mp here⟩
  · intro ⟨long, same, attested, here⟩
    refine ⟨received, parseReceivedMessage_eq_ok.mpr ⟨long, same⟩, ?_⟩
    rw [if_neg attested, if_neg (not_not.mpr here)]

end Liquidity.Cctp
