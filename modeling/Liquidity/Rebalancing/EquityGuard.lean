import Liquidity.Finance

/-!
# The equity in-progress slot

One slot for each symbol says who may move its tokens: nobody, a transfer, or a
recovery that is still to come. A claim is numbered, so that whoever made it can
tell later whether the slot is still its own. The numbers come from a counter
that starts again with the process.
-/

namespace Liquidity

inductive GuardState where
  | activeTransfer (generation : Nat)
  | heldForRecovery
  deriving DecidableEq, Repr

/-- The slot of one symbol, with the counter that numbers the next claim. -/
structure EquitySlot where
  state : Option GuardState
  nextGeneration : Nat
  deriving DecidableEq, Repr

/-- The state a recovery claimed the slot from. -/
inductive RecoveryClaimOrigin where
  | heldForRecovery
  | orphan
  deriving DecidableEq, Repr

/-- What a recovery job holds while it runs. -/
structure RecoveryGuard where
  generation : Nat
  claimOrigin : RecoveryClaimOrigin
  deriving DecidableEq, Repr

namespace EquitySlot

/-- Whoever holds it. -/
def clearEquityInProgress (slot : EquitySlot) : EquitySlot :=
  { slot with state := none }

def markEquityActiveTransfer (slot : EquitySlot) : EquitySlot :=
  ⟨some (.activeTransfer slot.nextGeneration), slot.nextGeneration + 1⟩

end EquitySlot

end Liquidity
