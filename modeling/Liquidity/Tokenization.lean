import Liquidity.Finance

/-!
# The issuer of tokenized equities

The issuer turns shares at the broker into tokens and back. Every mint and every
redemption is a request to it, which stays pending until the issuer completes or
rejects it.
-/

namespace Liquidity

/-- The issuer's identifier of a mint or a redemption. -/
structure TokenizationRequestId where
  id : String
  deriving DecidableEq, Repr

/-- A wallet or a token contract. -/
abbrev EvmAddress := Nat

inductive TokenizationRequestStatus where
  | pending
  | completed
  | rejected
  deriving DecidableEq, Repr

/-- What the issuer says about a request. -/
structure TokenizationRequest where
  id : TokenizationRequestId
  status : TokenizationRequestStatus
  tokenSymbol : Option String
  txHash : Option TxHash
  deriving DecidableEq, Repr

namespace Text

/-- The characters with the Unicode property `White_Space`. -/
def isWhiteSpace (c : Char) : Bool :=
  (0x9 ≤ c.toNat && c.toNat ≤ 0xd) || c.toNat = 0x20 || c.toNat = 0x85 || c.toNat = 0xa0 ||
    c.toNat = 0x1680 || (0x2000 ≤ c.toNat && c.toNat ≤ 0x200a) || c.toNat = 0x2028 ||
    c.toNat = 0x2029 || c.toNat = 0x202f || c.toNat = 0x205f || c.toNat = 0x3000

/-- Nothing is left after trimming. -/
def isBlank (text : String) : Bool := text.toList.all isWhiteSpace

end Text

end Liquidity
