import Liquidity.Finance

/-!
# Venue balances and transfers between them

Each of the two venues has an available balance and an inflight one: what has
left the venue and has not arrived at the other. A transfer starts by moving
available to inflight. It ends by confirming the inflight and crediting the
other venue, by cancelling it back, or by having it zeroed.

A venue that was never polled has no balance, and operations read it as zero.
-/

namespace Liquidity

inductive InventoryError where
  | insufficientAvailable (requested available : Usdc)
  | insufficientInflight (requested inflight : Usdc)
  | negativeInflight (value : Usdc)
  | arithmetic (error : FloatError)
  deriving DecidableEq

inductive Venue where
  | marketMaking
  | hedging
  deriving DecidableEq, Repr

def Venue.other : Venue → Venue
  | .marketMaking => .hedging
  | .hedging => .marketMaking

@[simp] theorem Venue.other_ne (venue : Venue) : venue.other ≠ venue := by
  cases venue <;> decide

@[simp] theorem Venue.ne_other (venue : Venue) : venue ≠ venue.other := by
  cases venue <;> decide

structure VenueBalance where
  available : Usdc
  inflight : Usdc
  deriving DecidableEq

namespace VenueBalance

def zero : VenueBalance := ⟨0, 0⟩

variable [FloatFormat]

/-- Arithmetic inside a balance operation. -/
def checked (result : Except FloatError ℚ) : Except InventoryError ℚ :=
  result.mapError .arithmetic

def moveToInflight (balance : VenueBalance) (amount : Usdc) : Except InventoryError VenueBalance := do
  let newAvailable ← checked (Decimal.sub balance.available amount)
  if newAvailable < 0 then
    throw (.insufficientAvailable amount balance.available)
  let newInflight ← checked (Decimal.add balance.inflight amount)
  return ⟨newAvailable, newInflight⟩

def confirmInflight (balance : VenueBalance) (amount : Usdc) : Except InventoryError VenueBalance := do
  let newInflight ← checked (Decimal.sub balance.inflight amount)
  if newInflight < 0 then
    throw (.insufficientInflight amount balance.inflight)
  return ⟨balance.available, newInflight⟩

def cancelInflight (balance : VenueBalance) (amount : Usdc) : Except InventoryError VenueBalance := do
  let newInflight ← checked (Decimal.sub balance.inflight amount)
  if newInflight < 0 then
    throw (.insufficientInflight amount balance.inflight)
  let newAvailable ← checked (Decimal.add balance.available amount)
  return ⟨newAvailable, newInflight⟩

def addAvailable (balance : VenueBalance) (amount : Usdc) : Except InventoryError VenueBalance := do
  let newAvailable ← checked (Decimal.add balance.available amount)
  return ⟨newAvailable, balance.inflight⟩

def removeAvailable (balance : VenueBalance) (amount : Usdc) :
    Except InventoryError VenueBalance := do
  let newAvailable ← checked (Decimal.sub balance.available amount)
  if newAvailable < 0 then
    throw (.insufficientAvailable amount balance.available)
  return ⟨newAvailable, balance.inflight⟩

omit [FloatFormat] in
def hasInflight (balance : VenueBalance) : Bool := balance.inflight ≠ 0

omit [FloatFormat] in
/-- Take over a fetched balance, unless something is inflight. -/
def applySnapshot (balance : VenueBalance) (snapshotBalance : Usdc) : VenueBalance :=
  if balance.inflight ≠ 0 then balance else ⟨snapshotBalance, balance.inflight⟩

omit [FloatFormat] in
/-- Replace the inflight balance and leave the available one alone. -/
def setInflight (balance : VenueBalance) (inflight : Usdc) : Except InventoryError VenueBalance :=
  if inflight < 0 then .error (.negativeInflight inflight)
  else .ok ⟨balance.available, inflight⟩

section Exact

variable (exact : FloatFormat.IsExact)
include exact

theorem moveToInflight_exact {balance : VenueBalance} {amount : Usdc}
    (covers : amount ≤ balance.available) :
    balance.moveToInflight amount =
      .ok ⟨balance.available - amount, balance.inflight + amount⟩ := by
  have enough : ¬ balance.available - amount < 0 := by linarith
  simp [moveToInflight, checked, Decimal.sub_exact exact, Decimal.add_exact exact, Except.mapError,
    enough, bind, Except.bind, pure, Except.pure]

theorem confirmInflight_exact {balance : VenueBalance} {amount : Usdc}
    (reserved : amount ≤ balance.inflight) :
    balance.confirmInflight amount = .ok ⟨balance.available, balance.inflight - amount⟩ := by
  have enough : ¬ balance.inflight - amount < 0 := by linarith
  simp [confirmInflight, checked, Decimal.sub_exact exact, Except.mapError, enough, bind,
    Except.bind, pure, Except.pure]

theorem cancelInflight_exact {balance : VenueBalance} {amount : Usdc}
    (reserved : amount ≤ balance.inflight) :
    balance.cancelInflight amount =
      .ok ⟨balance.available + amount, balance.inflight - amount⟩ := by
  have enough : ¬ balance.inflight - amount < 0 := by linarith
  simp [cancelInflight, checked, Decimal.sub_exact exact, Decimal.add_exact exact, Except.mapError,
    enough, bind, Except.bind, pure, Except.pure]

theorem removeAvailable_exact {balance : VenueBalance} {amount : Usdc}
    (covers : amount ≤ balance.available) :
    balance.removeAvailable amount = .ok ⟨balance.available - amount, balance.inflight⟩ := by
  have enough : ¬ balance.available - amount < 0 := by linarith
  simp [removeAvailable, checked, Decimal.sub_exact exact, Except.mapError, enough, bind,
    Except.bind, pure, Except.pure]

theorem addAvailable_exact (balance : VenueBalance) (amount : Usdc) :
    balance.addAvailable amount = .ok ⟨balance.available + amount, balance.inflight⟩ := by
  simp [addAvailable, checked, Decimal.add_exact exact, Except.mapError, bind, Except.bind, pure,
    Except.pure]

end Exact

end VenueBalance

/-- The balances of one asset, cash or an equity, at both venues. -/
structure Inventory where
  onchain : Option VenueBalance
  offchain : Option VenueBalance
  lastRebalancing : Option Time
  deriving DecidableEq

inductive Operator where
  | add
  | remove
  deriving DecidableEq, Repr

inductive TransferOp where
  | start
  | complete
  | cancel
  deriving DecidableEq, Repr

namespace Inventory

/-- An asset neither venue was ever polled for. -/
def empty : Inventory := ⟨none, none, none⟩

def getVenue (inventory : Inventory) : Venue → Option VenueBalance
  | .marketMaking => inventory.onchain
  | .hedging => inventory.offchain

def setVenue (inventory : Inventory) (venue : Venue) (balance : Option VenueBalance) : Inventory :=
  match venue with
  | .marketMaking => { inventory with onchain := balance }
  | .hedging => { inventory with offchain := balance }

/-- A venue's balance, zero if it was never polled. -/
def balance (inventory : Inventory) (venue : Venue) : VenueBalance :=
  (inventory.getVenue venue).getD .zero

def available (inventory : Inventory) (venue : Venue) : Usdc := (inventory.balance venue).available
def inflight (inventory : Inventory) (venue : Venue) : Usdc := (inventory.balance venue).inflight

@[simp] theorem balance_setVenue_self (inventory : Inventory) (venue : Venue)
    (value : VenueBalance) : (inventory.setVenue venue (some value)).balance venue = value := by
  cases venue <;> rfl

@[simp] theorem balance_setVenue_other (inventory : Inventory) (venue : Venue)
    (value : Option VenueBalance) :
    (inventory.setVenue venue value).balance venue.other = inventory.balance venue.other := by
  cases venue <;> rfl

@[simp] theorem balance_setVenue_of_other (inventory : Inventory) (venue : Venue)
    (value : Option VenueBalance) :
    (inventory.setVenue venue.other value).balance venue = inventory.balance venue := by
  cases venue <;> rfl

variable [FloatFormat]

/-- What arrives at a venue; one that was never polled starts from the arrival. -/
def credit (inventory : Inventory) (venue : Venue) (amount : Usdc) :
    Except InventoryError VenueBalance :=
  match inventory.getVenue venue with
  | some balance => balance.addAvailable amount
  | none => .ok ⟨amount, 0⟩

/-- Confirm an inflight transfer and credit the other venue, which may receive
less than was sent. -/
def settleTransfer (source : Venue) (sentAmount receivedAmount : Usdc) (inventory : Inventory) :
    Except InventoryError Inventory := do
  let confirmed ← (inventory.balance source).confirmInflight sentAmount
  let destination ← inventory.credit source.other receivedAmount
  return (inventory.setVenue source (some confirmed)).setVenue source.other (some destination)

def transfer (source : Venue) (op : TransferOp) (amount : Usdc) (inventory : Inventory) :
    Except InventoryError Inventory :=
  match op with
  | .start => do
      let moved ← (inventory.balance source).moveToInflight amount
      return inventory.setVenue source (some moved)
  | .complete => settleTransfer source amount amount inventory
  | .cancel => do
      let cancelled ← (inventory.balance source).cancelInflight amount
      return inventory.setVenue source (some cancelled)

/-- Add to a venue's available balance or remove from it: the source's
`Inventory::available`. -/
def updateAvailable (venue : Venue) (op : Operator) (amount : Usdc) (inventory : Inventory) :
    Except InventoryError Inventory := do
  let balance ←
    match op with
    | .add => inventory.credit venue amount
    | .remove => (inventory.balance venue).removeAvailable amount
  return inventory.setVenue venue (some balance)

omit [FloatFormat] in
def hasInflight (inventory : Inventory) : Bool :=
  inventory.onchain.any VenueBalance.hasInflight || inventory.offchain.any VenueBalance.hasInflight

omit [FloatFormat] in
/-- A fetched balance is not taken over while anything is inflight at either
venue, nor when it was read before the last rebalancing. -/
def onSnapshot (venue : Venue) (snapshotBalance : Usdc) (fetchedAt : Time)
    (inventory : Inventory) : Except InventoryError Inventory :=
  if inventory.hasInflight then .ok inventory
  else if inventory.lastRebalancing.any (fetchedAt < ·) then .ok inventory
  else
    let balance := (inventory.balance venue).applySnapshot snapshotBalance
    .ok (inventory.setVenue venue (some balance))

omit [FloatFormat] in
def withLastRebalancing (timestamp : Time) (inventory : Inventory) : Inventory :=
  { inventory with lastRebalancing := some timestamp }

omit [FloatFormat] in
/-- Zero inflight does not bring a venue into being that was never polled. -/
def setInflight (venue : Venue) (amount : Usdc) (inventory : Inventory) :
    Except InventoryError Inventory :=
  if inventory.getVenue venue = none && amount = 0 then .ok inventory
  else do
    let balance ← (inventory.balance venue).setInflight amount
    return inventory.setVenue venue (some balance)

omit [FloatFormat] in
@[simp] theorem balance_withLastRebalancing (inventory : Inventory) (timestamp : Time)
    (venue : Venue) :
    (inventory.withLastRebalancing timestamp).balance venue = inventory.balance venue := by
  cases venue <;> rfl

omit [FloatFormat] in
/-- Zeroing inflight always succeeds, and moves nothing else. -/
theorem setInflight_zero (inventory : Inventory) (venue : Venue) :
    ∃ cleared, inventory.setInflight venue 0 = .ok cleared ∧
      cleared.balance venue = ⟨inventory.available venue, 0⟩ ∧
      cleared.balance venue.other = inventory.balance venue.other := by
  unfold setInflight
  by_cases polled : inventory.getVenue venue = none
  · refine ⟨inventory, by simp [polled], ?_, rfl⟩
    simp [available, balance, polled, VenueBalance.zero]
  · refine ⟨inventory.setVenue venue (some ⟨inventory.available venue, 0⟩), ?_, by simp, by simp⟩
    simp [polled, VenueBalance.setInflight, available, bind, Except.bind, pure, Except.pure]

section Exact

variable (exact : FloatFormat.IsExact)
include exact

theorem credit_exact (inventory : Inventory) (venue : Venue) (amount : Usdc) :
    inventory.credit venue amount =
      .ok ⟨inventory.available venue + amount, inventory.inflight venue⟩ := by
  unfold credit available inflight balance
  cases inventory.getVenue venue with
  | some balance => exact VenueBalance.addAvailable_exact exact balance amount
  | none => simp [VenueBalance.zero]

/-- Starting a transfer the source covers. -/
theorem transfer_start_exact {inventory : Inventory} {source : Venue} {amount : Usdc}
    (covers : amount ≤ inventory.available source) :
    inventory.transfer source .start amount = .ok (inventory.setVenue source
      (some ⟨inventory.available source - amount, inventory.inflight source + amount⟩)) := by
  simp [transfer, VenueBalance.moveToInflight_exact exact covers, available, inflight, bind,
    Except.bind, pure, Except.pure]

/-- Cancelling what is inflight. -/
theorem transfer_cancel_exact {inventory : Inventory} {source : Venue} {amount : Usdc}
    (reserved : amount ≤ inventory.inflight source) :
    inventory.transfer source .cancel amount = .ok (inventory.setVenue source
      (some ⟨inventory.available source + amount, inventory.inflight source - amount⟩)) := by
  simp [transfer, VenueBalance.cancelInflight_exact exact reserved, available, inflight, bind,
    Except.bind, pure, Except.pure]

/-- Settling what is inflight. -/
theorem settleTransfer_exact {inventory : Inventory} {source : Venue} {sent : Usdc}
    (received : Usdc) (reserved : sent ≤ inventory.inflight source) :
    inventory.settleTransfer source sent received = .ok
      ((inventory.setVenue source
        (some ⟨inventory.available source, inventory.inflight source - sent⟩)).setVenue source.other
        (some ⟨inventory.available source.other + received, inventory.inflight source.other⟩)) := by
  simp [settleTransfer, VenueBalance.confirmInflight_exact exact reserved, credit_exact exact,
    available, inflight, bind, Except.bind, pure, Except.pure]

end Exact

end Inventory

end Liquidity
