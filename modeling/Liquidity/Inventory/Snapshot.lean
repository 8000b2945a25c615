import Liquidity.EventSourcing.Aggregate
import Liquidity.Inventory.View
import Mathlib.Data.List.Perm.Basic

/-!
# The snapshot aggregate

Every poll is recorded here, and what is recorded is delivered to the inventory
view. A poll that found what was found before is not recorded again.

Most readings are stamped when they are recorded. The broker's positions and the
requests under way carry a stamp from before they were read.
-/

namespace Liquidity

open EventSourcing

/-- Balances are maps: the order of entries does not count. -/
def Balances.Same (first second : Balances) : Prop := first.entries.Perm second.entries

instance (first second : Balances) : Decidable (first.Same second) :=
  inferInstanceAs (Decidable (first.entries.Perm second.entries))

/-- The latest readings. -/
structure InventorySnapshot where
  onchainEquity : Balances := ∅
  onchainEquityFetchedAt : Option Time := none
  onchainUsdc : Option Usdc := none
  onchainUsdcFetchedAt : Option Time := none
  offchainEquity : Balances := ∅
  offchainEquityFetchedAt : Option Time := none
  offchainUsdCents : Option Int := none
  offchainUsdFetchedAt : Option Time := none
  offchainGrossUsdCents : Option Int := none
  offchainCashBuyingPowerCents : Option Int := none
  offchainCashWithdrawableCents : Option Int := none
  alpacaUsdc : Option Usdc := none
  ethereumUsdc : Option Usdc := none
  baseWalletUsdc : Option Usdc := none
  baseWalletUnwrappedEquity : Balances := ∅
  baseWalletWrappedEquity : Balances := ∅
  inflightMints : Balances := ∅
  inflightRedemptions : Balances := ∅
  inflightEquityFetchedAt : Option Time := none
  lastUpdated : Time

inductive InventorySnapshotCommand where
  | onchainEquity (balances : Balances)
  | onchainUsdc (usdcBalance : Usdc)
  /-- Stamped by the poller before it asks the broker. -/
  | offchainEquity (positions : Balances) (fetchedAt : Time)
  | offchainUsd (usdBalanceCents : Int) (grossUsdCents : Option Int)
  | offchainCashBuyingPower (cashBuyingPowerCents : Option Int)
  | offchainCashWithdrawable (cashWithdrawableCents : Option Int)
  | alpacaUsdc (usdcBalance : Usdc)
  | ethereumUsdc (usdcBalance : Usdc)
  | baseWalletUsdc (usdcBalance : Usdc)
  | baseWalletUnwrappedEquity (balances : Balances)
  | baseWalletWrappedEquity (balances : Balances)
  | inflightEquity (mints redemptions : Balances) (fetchedAt : Time)
  deriving DecidableEq

inductive InventorySnapshotEvent where
  | onchainEquity (balances : Balances) (fetchedAt : Time)
  | onchainUsdc (usdcBalance : Usdc) (fetchedAt : Time)
  | offchainEquity (positions : Balances) (fetchedAt : Time)
  | offchainUsd (usdBalanceCents : Int) (grossUsdCents : Option Int) (fetchedAt : Time)
  | offchainCashBuyingPower (cashBuyingPowerCents : Option Int) (fetchedAt : Time)
  | offchainCashWithdrawable (cashWithdrawableCents : Option Int) (fetchedAt : Time)
  | alpacaUsdc (usdcBalance : Usdc) (fetchedAt : Time)
  | ethereumUsdc (usdcBalance : Usdc) (fetchedAt : Time)
  | baseWalletUsdc (usdcBalance : Usdc) (fetchedAt : Time)
  | baseWalletUnwrappedEquity (balances : Balances) (fetchedAt : Time)
  | baseWalletWrappedEquity (balances : Balances) (fetchedAt : Time)
  | inflightEquity (mints redemptions : Balances) (fetchedAt : Time)
  deriving DecidableEq

def InventorySnapshotEvent.timestamp : InventorySnapshotEvent → Time
  | .onchainEquity _ fetchedAt => fetchedAt
  | .onchainUsdc _ fetchedAt => fetchedAt
  | .offchainEquity _ fetchedAt => fetchedAt
  | .offchainUsd _ _ fetchedAt => fetchedAt
  | .offchainCashBuyingPower _ fetchedAt => fetchedAt
  | .offchainCashWithdrawable _ fetchedAt => fetchedAt
  | .alpacaUsdc _ fetchedAt => fetchedAt
  | .ethereumUsdc _ fetchedAt => fetchedAt
  | .baseWalletUsdc _ fetchedAt => fetchedAt
  | .baseWalletUnwrappedEquity _ fetchedAt => fetchedAt
  | .baseWalletWrappedEquity _ fetchedAt => fetchedAt
  | .inflightEquity _ _ fetchedAt => fetchedAt

/-- The event a command is recorded as. -/
def InventorySnapshotCommand.recorded (now : Time) :
    InventorySnapshotCommand → InventorySnapshotEvent
  | .onchainEquity balances => .onchainEquity balances now
  | .onchainUsdc usdcBalance => .onchainUsdc usdcBalance now
  | .offchainEquity positions fetchedAt => .offchainEquity positions fetchedAt
  | .offchainUsd usdBalanceCents grossUsdCents => .offchainUsd usdBalanceCents grossUsdCents now
  | .offchainCashBuyingPower cashBuyingPowerCents =>
      .offchainCashBuyingPower cashBuyingPowerCents now
  | .offchainCashWithdrawable cashWithdrawableCents =>
      .offchainCashWithdrawable cashWithdrawableCents now
  | .alpacaUsdc usdcBalance => .alpacaUsdc usdcBalance now
  | .ethereumUsdc usdcBalance => .ethereumUsdc usdcBalance now
  | .baseWalletUsdc usdcBalance => .baseWalletUsdc usdcBalance now
  | .baseWalletUnwrappedEquity balances => .baseWalletUnwrappedEquity balances now
  | .baseWalletWrappedEquity balances => .baseWalletWrappedEquity balances now
  | .inflightEquity mints redemptions fetchedAt => .inflightEquity mints redemptions fetchedAt

namespace InventorySnapshot

/-- Not older than what is kept. -/
def isCurrent (kept : Option Time) (fetchedAt : Time) : Bool := kept.all (· ≤ fetchedAt)

def applyEvent (snapshot : InventorySnapshot) (event : InventorySnapshotEvent) :
    InventorySnapshot :=
  let snapshot := { snapshot with lastUpdated := snapshot.lastUpdated.max event.timestamp }
  match event with
  | .onchainEquity balances fetchedAt =>
      if isCurrent snapshot.onchainEquityFetchedAt fetchedAt then
        { snapshot with
          onchainEquity := balances, onchainEquityFetchedAt := some fetchedAt }
      else snapshot
  | .onchainUsdc usdcBalance fetchedAt =>
      if isCurrent snapshot.onchainUsdcFetchedAt fetchedAt then
        { snapshot with
          onchainUsdc := some usdcBalance, onchainUsdcFetchedAt := some fetchedAt }
      else snapshot
  | .offchainEquity positions fetchedAt =>
      if isCurrent snapshot.offchainEquityFetchedAt fetchedAt then
        { snapshot with
          offchainEquity := positions, offchainEquityFetchedAt := some fetchedAt }
      else snapshot
  | .offchainUsd usdBalanceCents grossUsdCents fetchedAt =>
      if isCurrent snapshot.offchainUsdFetchedAt fetchedAt then
        { snapshot with
          offchainUsdCents := some usdBalanceCents, offchainGrossUsdCents := grossUsdCents
          offchainUsdFetchedAt := some fetchedAt }
      else snapshot
  | .offchainCashBuyingPower cashBuyingPowerCents _ =>
      { snapshot with offchainCashBuyingPowerCents := cashBuyingPowerCents }
  | .offchainCashWithdrawable cashWithdrawableCents _ =>
      { snapshot with offchainCashWithdrawableCents := cashWithdrawableCents }
  | .alpacaUsdc usdcBalance _ => { snapshot with alpacaUsdc := some usdcBalance }
  | .ethereumUsdc usdcBalance _ => { snapshot with ethereumUsdc := some usdcBalance }
  | .baseWalletUsdc usdcBalance _ => { snapshot with baseWalletUsdc := some usdcBalance }
  | .inflightEquity mints redemptions fetchedAt =>
      { snapshot with
        inflightMints := mints, inflightRedemptions := redemptions
        inflightEquityFetchedAt := some fetchedAt }
  | .baseWalletUnwrappedEquity balances _ =>
      { snapshot with baseWalletUnwrappedEquity := balances }
  | .baseWalletWrappedEquity balances _ => { snapshot with baseWalletWrappedEquity := balances }

def originate (event : InventorySnapshotEvent) : Option InventorySnapshot :=
  let start : InventorySnapshot := { lastUpdated := event.timestamp }
  some (start.applyEvent event)

def evolve (entity : InventorySnapshot) (event : InventorySnapshotEvent) :
    Except Empty (Option InventorySnapshot) :=
  .ok (some (entity.applyEvent event))

/-- The first reading is always recorded. -/
def initialise (now : Time) (command : InventorySnapshotCommand) :
    Except Empty (List InventorySnapshotEvent) :=
  .ok [command.recorded now]

/-- A poll found what was found before. Requests under way are confirmed by every
later poll. -/
def unchanged (snapshot : InventorySnapshot) : InventorySnapshotCommand → Bool
  | .onchainEquity balances => snapshot.onchainEquity.Same balances
  | .onchainUsdc usdcBalance => snapshot.onchainUsdc = some usdcBalance
  | .offchainEquity positions _ => snapshot.offchainEquity.Same positions
  | .offchainUsd usdBalanceCents grossUsdCents =>
      snapshot.offchainUsdCents = some usdBalanceCents &&
        snapshot.offchainGrossUsdCents = grossUsdCents
  | .offchainCashBuyingPower cashBuyingPowerCents =>
      snapshot.offchainCashBuyingPowerCents = cashBuyingPowerCents
  | .offchainCashWithdrawable cashWithdrawableCents =>
      snapshot.offchainCashWithdrawableCents = cashWithdrawableCents
  | .alpacaUsdc usdcBalance => snapshot.alpacaUsdc = some usdcBalance
  | .ethereumUsdc usdcBalance => snapshot.ethereumUsdc = some usdcBalance
  | .baseWalletUsdc usdcBalance => snapshot.baseWalletUsdc = some usdcBalance
  | .inflightEquity mints redemptions fetchedAt =>
      let mapsUnchanged := snapshot.inflightMints.Same mints &&
        snapshot.inflightRedemptions.Same redemptions
      let nothingInflight := mints.entries.isEmpty && redemptions.entries.isEmpty
      let fetchNotNewer := snapshot.inflightEquityFetchedAt.any (fetchedAt ≤ ·)
      mapsUnchanged && (nothingInflight || fetchNotNewer)
  | .baseWalletUnwrappedEquity balances => snapshot.baseWalletUnwrappedEquity.Same balances
  | .baseWalletWrappedEquity balances => snapshot.baseWalletWrappedEquity.Same balances

def transition (now : Time) (entity : InventorySnapshot) (command : InventorySnapshotCommand) :
    Except Empty (List InventorySnapshotEvent) :=
  if entity.unchanged command then .ok [] else .ok [command.recorded now]

def aggregate :
    Aggregate InventorySnapshot InventorySnapshotEvent InventorySnapshotCommand Empty Time where
  originate := originate
  evolve := evolve
  initialise := initialise
  transition := transition

/-! ## What is recorded -/

theorem lifecycle_ne_failed (stream : List InventorySnapshotEvent) :
    aggregate.lifecycle stream ≠ .failed := by
  induction stream using List.reverseRecOn with
  | nil => exact nofun
  | append_singleton stream event ih =>
      rw [Aggregate.lifecycle_append]
      cases found : aggregate.lifecycle stream with
      | uninitialized => exact nofun
      | live entity => exact nofun
      | failed => exact absurd found ih

/-- A poll is recorded, or it found what was found before. -/
theorem send_cases (now : Time) (command : InventorySnapshotCommand)
    (stream : List InventorySnapshotEvent) :
    aggregate.send now command stream = .ok [command.recorded now] ∨
      aggregate.send now command stream = .ok [] ∧
        ∃ entity, aggregate.lifecycle stream = .live entity ∧ entity.unchanged command := by
  unfold Aggregate.send
  cases found : aggregate.lifecycle stream with
  | uninitialized => exact .inl rfl
  | failed => exact absurd found (lifecycle_ne_failed stream)
  | live entity =>
      change (entity.transition now command).mapError _ = _ ∨
        (entity.transition now command).mapError _ = _ ∧ _
      unfold transition
      split
      · rename_i same
        exact .inr ⟨rfl, entity, rfl, same⟩
      · exact .inl rfl

/-- A reading of the vaults that lists the symbol was recorded. -/
def KnowsEquity (stream : List InventorySnapshotEvent) (symbol : Symbol) : Prop :=
  ∃ entity, aggregate.lifecycle stream = .live entity ∧ symbol ∈ entity.onchainEquity

/-- A reading of the cash in the vaults was recorded. -/
def KnowsUsdc (stream : List InventorySnapshotEvent) : Prop :=
  ∃ entity, aggregate.lifecycle stream = .live entity ∧ entity.onchainUsdc.isSome

/-- The state after one more event. -/
theorem lifecycle_concat {stream : List InventorySnapshotEvent} {event : InventorySnapshotEvent}
    {entity : InventorySnapshot} (live : aggregate.lifecycle (stream ++ [event]) = .live entity) :
    ∃ before : InventorySnapshot, entity = before.applyEvent event ∧
      (aggregate.lifecycle stream = .live before ∨
        before.onchainEquity = ∅ ∧ before.onchainUsdc = none) := by
  rw [Aggregate.lifecycle_append, Aggregate.replay_cons, Aggregate.replay_nil] at live
  cases found : aggregate.lifecycle stream with
  | failed => exact absurd found (lifecycle_ne_failed stream)
  | uninitialized =>
      rw [found] at live
      cases live
      exact ⟨_, rfl, .inr ⟨rfl, rfl⟩⟩
  | live before =>
      rw [found] at live
      cases live
      exact ⟨before, rfl, .inl rfl⟩

theorem applyEvent_onchainEquity {snapshot : InventorySnapshot} {event : InventorySnapshotEvent}
    (other : ∀ balances fetchedAt, event ≠ .onchainEquity balances fetchedAt) :
    (snapshot.applyEvent event).onchainEquity = snapshot.onchainEquity := by
  cases event with
  | onchainEquity balances fetchedAt => exact absurd rfl (other balances fetchedAt)
  | onchainUsdc | offchainEquity | offchainUsd =>
      simp only [applyEvent]
      split <;> rfl
  | _ => rfl

theorem applyEvent_onchainUsdc {snapshot : InventorySnapshot} {event : InventorySnapshotEvent}
    (other : ∀ usdcBalance fetchedAt, event ≠ .onchainUsdc usdcBalance fetchedAt) :
    (snapshot.applyEvent event).onchainUsdc = snapshot.onchainUsdc := by
  cases event with
  | onchainUsdc usdcBalance fetchedAt => exact absurd rfl (other usdcBalance fetchedAt)
  | onchainEquity | offchainEquity | offchainUsd =>
      simp only [applyEvent]
      split <;> rfl
  | _ => rfl

theorem KnowsEquity.of_concat {stream : List InventorySnapshotEvent}
    {event : InventorySnapshotEvent} {symbol : Symbol}
    (knows : KnowsEquity (stream ++ [event]) symbol)
    (other : ∀ balances fetchedAt, event ≠ .onchainEquity balances fetchedAt) :
    KnowsEquity stream symbol := by
  obtain ⟨entity, live, listed⟩ := knows
  obtain ⟨before, rfl, known | ⟨empty, -⟩⟩ := lifecycle_concat live
  · rw [applyEvent_onchainEquity other] at listed
    exact ⟨before, known, listed⟩
  · rw [applyEvent_onchainEquity other, empty] at listed
    exact absurd listed (AList.notMem_empty symbol)

theorem KnowsUsdc.of_concat {stream : List InventorySnapshotEvent}
    {event : InventorySnapshotEvent} (knows : KnowsUsdc (stream ++ [event]))
    (other : ∀ usdcBalance fetchedAt, event ≠ .onchainUsdc usdcBalance fetchedAt) :
    KnowsUsdc stream := by
  obtain ⟨entity, live, present⟩ := knows
  obtain ⟨before, rfl, known | ⟨-, none⟩⟩ := lifecycle_concat live
  · rw [applyEvent_onchainUsdc other] at present
    exact ⟨before, known, present⟩
  · rw [applyEvent_onchainUsdc other, none] at present
    cases present

/-- A reading that is not recorded again was recorded before. -/
theorem KnowsEquity.of_unchanged {stream : List InventorySnapshotEvent}
    {entity : InventorySnapshot} {balances : Balances} {symbol : Symbol}
    (live : aggregate.lifecycle stream = .live entity)
    (same : entity.unchanged (.onchainEquity balances)) (listed : symbol ∈ balances) :
    KnowsEquity stream symbol := by
  refine ⟨entity, live, ?_⟩
  have perm : entity.onchainEquity.entries.Perm balances.entries := of_decide_eq_true same
  rw [AList.mem_keys] at listed ⊢
  exact (perm.map Sigma.fst).mem_iff.mpr listed

theorem KnowsUsdc.of_unchanged {stream : List InventorySnapshotEvent}
    {entity : InventorySnapshot} {usdcBalance : Usdc}
    (live : aggregate.lifecycle stream = .live entity)
    (same : entity.unchanged (.onchainUsdc usdcBalance)) : KnowsUsdc stream := by
  have kept : entity.onchainUsdc = some usdcBalance := of_decide_eq_true same
  exact ⟨entity, live, by rw [kept]; rfl⟩

end InventorySnapshot

end Liquidity
