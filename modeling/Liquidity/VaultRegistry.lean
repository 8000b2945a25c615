import Liquidity.EventSourcing.Runs
import Liquidity.Finance
import Liquidity.Grouping

/-!
# The vault registry

One registry for each orderbook and owner. Vaults are discovered on chain or seeded from
the configuration, and are never removed. A token may have several vaults, and each token
has a primary one.
-/

namespace Liquidity

open EventSourcing Grouping

abbrev VaultId := Nat

/-- How a vault was added. -/
inductive VaultProvenance where
  | discovered (txHash : TxHash) (discoveredAt : Time)
  | seeded (seededAt : Time)
  deriving DecidableEq, Repr

structure EquityVault where
  token : Nat
  vaultId : VaultId
  symbol : Symbol
  provenance : VaultProvenance
  deriving DecidableEq, Repr

structure UsdcVault where
  vaultId : VaultId
  provenance : VaultProvenance
  deriving DecidableEq, Repr

/-- Equity vaults are grouped by token, then by their id. -/
structure VaultRegistry where
  equityVaults : KeyMap Nat (KeyMap VaultId EquityVault) := ∅
  usdcVaults : KeyMap VaultId UsdcVault := ∅
  primaryEquityVault : KeyMap Nat VaultId := ∅
  primaryUsdcVault : Option VaultId := none
  lastUpdated : Time

inductive VaultRegistryCommand where
  | discoverEquityVault (token : Nat) (vaultId : VaultId) (discoveredIn : TxHash)
      (symbol : Symbol)
  | discoverUsdcVault (vaultId : VaultId) (discoveredIn : TxHash)
  | seedEquityVaultFromConfig (token : Nat) (vaultId : VaultId) (symbol : Symbol)
  | seedUsdcVaultFromConfig (vaultId : VaultId)
  | setPrimaryEquityVaultFromConfig (token : Nat) (vaultId : VaultId) (symbol : Symbol)
  | setPrimaryUsdcVaultFromConfig (vaultId : VaultId)
  deriving DecidableEq, Repr

inductive VaultRegistryEvent where
  | equityVaultDiscovered (token : Nat) (vaultId : VaultId) (discoveredIn : TxHash)
      (discoveredAt : Time) (symbol : Symbol)
  | usdcVaultDiscovered (vaultId : VaultId) (discoveredIn : TxHash) (discoveredAt : Time)
  | equityVaultSeededFromConfig (token : Nat) (vaultId : VaultId) (seededAt : Time)
      (symbol : Symbol)
  | usdcVaultSeededFromConfig (vaultId : VaultId) (seededAt : Time)
  | primaryEquityVaultSetFromConfig (token : Nat) (vaultId : VaultId) (configuredAt : Time)
      (symbol : Symbol)
  | primaryUsdcVaultSetFromConfig (vaultId : VaultId) (configuredAt : Time)
  deriving DecidableEq, Repr

def VaultRegistryEvent.timestamp : VaultRegistryEvent → Time
  | equityVaultDiscovered _ _ _ discoveredAt _ => discoveredAt
  | usdcVaultDiscovered _ _ discoveredAt => discoveredAt
  | equityVaultSeededFromConfig _ _ seededAt _ => seededAt
  | usdcVaultSeededFromConfig _ seededAt => seededAt
  | primaryEquityVaultSetFromConfig _ _ configuredAt _ => configuredAt
  | primaryUsdcVaultSetFromConfig _ configuredAt => configuredAt

namespace VaultRegistry

def insertEquityVault (registry : VaultRegistry) (token : Nat) (vaultId : VaultId)
    (vault : EquityVault) : VaultRegistry :=
  { registry with
    equityVaults := registry.equityVaults.insert token
      (((registry.equityVaults.lookup token).getD ∅).insert vaultId vault) }

/-- The first vault of a token is its primary one until another is set. -/
def keepPrimary (registry : VaultRegistry) (token : Nat) (vaultId : VaultId) : VaultRegistry :=
  match registry.primaryEquityVault.lookup token with
  | some _ => registry
  | none =>
      { registry with
        primaryEquityVault := registry.primaryEquityVault.insert token vaultId }

def applyEvent (registry : VaultRegistry) (event : VaultRegistryEvent) : VaultRegistry :=
  let registry := { registry with lastUpdated := event.timestamp }
  match event with
  | .equityVaultDiscovered token vaultId discoveredIn discoveredAt symbol =>
      (registry.keepPrimary token vaultId).insertEquityVault token vaultId
        { token, vaultId, symbol, provenance := .discovered discoveredIn discoveredAt }
  | .usdcVaultDiscovered vaultId discoveredIn discoveredAt =>
      { registry with
        primaryUsdcVault := registry.primaryUsdcVault.or (some vaultId)
        usdcVaults := registry.usdcVaults.insert vaultId
          { vaultId, provenance := .discovered discoveredIn discoveredAt } }
  | .equityVaultSeededFromConfig token vaultId seededAt symbol =>
      (registry.keepPrimary token vaultId).insertEquityVault token vaultId
        { token, vaultId, symbol, provenance := .seeded seededAt }
  | .usdcVaultSeededFromConfig vaultId seededAt =>
      { registry with
        primaryUsdcVault := registry.primaryUsdcVault.or (some vaultId)
        usdcVaults := registry.usdcVaults.insert vaultId
          { vaultId, provenance := .seeded seededAt } }
  | .primaryEquityVaultSetFromConfig token vaultId _ _ =>
      { registry with
        primaryEquityVault := registry.primaryEquityVault.insert token vaultId }
  | .primaryUsdcVaultSetFromConfig vaultId _ =>
      { registry with primaryUsdcVault := some vaultId }

def commandToEvent (now : Time) : VaultRegistryCommand → VaultRegistryEvent
  | .discoverEquityVault token vaultId discoveredIn symbol =>
      .equityVaultDiscovered token vaultId discoveredIn now symbol
  | .discoverUsdcVault vaultId discoveredIn => .usdcVaultDiscovered vaultId discoveredIn now
  | .seedEquityVaultFromConfig token vaultId symbol =>
      .equityVaultSeededFromConfig token vaultId now symbol
  | .seedUsdcVaultFromConfig vaultId => .usdcVaultSeededFromConfig vaultId now
  | .setPrimaryEquityVaultFromConfig token vaultId symbol =>
      .primaryEquityVaultSetFromConfig token vaultId now symbol
  | .setPrimaryUsdcVaultFromConfig vaultId => .primaryUsdcVaultSetFromConfig vaultId now

def originate (event : VaultRegistryEvent) : Option VaultRegistry :=
  some (applyEvent { lastUpdated := event.timestamp } event)

def evolve (registry : VaultRegistry) (event : VaultRegistryEvent) :
    Except Empty (Option VaultRegistry) :=
  .ok (some (registry.applyEvent event))

def initialise (now : Time) (command : VaultRegistryCommand) :
    Except Empty (List VaultRegistryEvent) :=
  .ok [commandToEvent now command]

/-- The configuration does not touch a vault that is registered. -/
def alreadyApplied (registry : VaultRegistry) : VaultRegistryCommand → Bool
  | .seedEquityVaultFromConfig token vaultId _ =>
      (registry.equityVaults.lookup token).any fun vaults => vaultId ∈ vaults
  | .seedUsdcVaultFromConfig vaultId => vaultId ∈ registry.usdcVaults
  | .setPrimaryEquityVaultFromConfig token vaultId _ =>
      registry.primaryEquityVault.lookup token = some vaultId
  | .setPrimaryUsdcVaultFromConfig vaultId => registry.primaryUsdcVault = some vaultId
  | .discoverEquityVault .. | .discoverUsdcVault .. => false

def transition (now : Time) (registry : VaultRegistry) (command : VaultRegistryCommand) :
    Except Empty (List VaultRegistryEvent) :=
  if registry.alreadyApplied command then .ok [] else .ok [commandToEvent now command]

def aggregate :
    Aggregate VaultRegistry VaultRegistryEvent VaultRegistryCommand Empty Time where
  originate := originate
  evolve := evolve
  initialise := initialise
  transition := transition

/-- A registry that commands lead to. -/
def Reachable (registry : VaultRegistry) : Prop :=
  ∃ commands, aggregate.lifecycle (aggregate.sends commands []) = .live registry

/-! ## What a registry keeps -/

/-- A token is there because it has a vault, vaults are under what they name, and a token
with vaults has a primary one. -/
structure Kept (registry : VaultRegistry) : Prop where
  nonempty : ∀ token vaults, registry.equityVaults.lookup token = some vaults →
    vaults.entries ≠ []
  filed : ∀ token vaults, registry.equityVaults.lookup token = some vaults →
    ∀ vaultId vault, vaults.lookup vaultId = some vault →
      vault.token = token ∧ vault.vaultId = vaultId
  led : ∀ token ∈ registry.equityVaults, token ∈ registry.primaryEquityVault

theorem kept_empty (lastUpdated : Time) : Kept { lastUpdated := lastUpdated } := by
  constructor
  · intro token vaults held
    cases held
  · intro token vaults held
    cases held
  · intro token held
    exact absurd held (AList.notMem_empty token)

theorem mem_keepPrimary (registry : VaultRegistry) (token : Nat) (vaultId : VaultId) (other : Nat) :
    other ∈ (registry.keepPrimary token vaultId).primaryEquityVault ↔
      other = token ∨ other ∈ registry.primaryEquityVault := by
  rw [VaultRegistry.keepPrimary]
  cases held : registry.primaryEquityVault.lookup token with
  | some primary =>
      have led : token ∈ registry.primaryEquityVault := by
        rw [← AList.lookup_isSome, held]
        rfl
      constructor
      · exact .inr
      · intro named
        cases named with
        | inl same =>
            rw [same]
            exact led
        | inr before => exact before
  | none => exact AList.mem_insert _

theorem Kept.keepPrimary {registry : VaultRegistry} (kept : registry.Kept) (token : Nat)
    (vaultId : VaultId) : (registry.keepPrimary token vaultId).Kept := by
  have same : (registry.keepPrimary token vaultId).equityVaults = registry.equityVaults := by
    rw [VaultRegistry.keepPrimary]
    split <;> rfl
  constructor
  · rw [same]
    exact kept.nonempty
  · rw [same]
    exact kept.filed
  · intro other held
    rw [same] at held
    exact (mem_keepPrimary registry token vaultId other).mpr (.inr (kept.led other held))

theorem Kept.insertEquityVault {registry : VaultRegistry} (kept : registry.Kept)
    (vault : EquityVault) (led : vault.token ∈ registry.primaryEquityVault) :
    (registry.insertEquityVault vault.token vault.vaultId vault).Kept := by
  constructor
  · intro token vaults held
    by_cases same : token = vault.token
    · subst same
      rw [VaultRegistry.insertEquityVault, AList.lookup_insert, Option.some.injEq] at held
      rw [← held, AList.entries_insert]
      exact List.cons_ne_nil _ _
    · rw [VaultRegistry.insertEquityVault, AList.lookup_insert_ne same] at held
      exact kept.nonempty token vaults held
  · intro token vaults held vaultId other found
    by_cases same : token = vault.token
    · subst same
      rw [VaultRegistry.insertEquityVault, AList.lookup_insert, Option.some.injEq] at held
      subst held
      by_cases own : vaultId = vault.vaultId
      · subst own
        rw [AList.lookup_insert, Option.some.injEq] at found
        rw [← found]
        exact ⟨rfl, rfl⟩
      · rw [AList.lookup_insert_ne own] at found
        cases before : registry.equityVaults.lookup vault.token with
        | none =>
            rw [before] at found
            cases found
        | some vaults =>
            rw [before] at found
            exact kept.filed vault.token vaults before vaultId other found
    · rw [VaultRegistry.insertEquityVault, AList.lookup_insert_ne same] at held
      exact kept.filed token vaults held vaultId other found
  · intro token held
    cases (AList.mem_insert _).mp held with
    | inl same =>
        rw [same]
        exact led
    | inr before => exact kept.led token before

theorem Kept.applyEvent {registry : VaultRegistry} (kept : registry.Kept)
    (event : VaultRegistryEvent) : (registry.applyEvent event).Kept := by
  have stamped : VaultRegistry.Kept { registry with lastUpdated := event.timestamp } :=
    ⟨kept.nonempty, kept.filed, kept.led⟩
  cases event with
  | equityVaultDiscovered token vaultId discoveredIn discoveredAt symbol =>
      exact (stamped.keepPrimary token vaultId).insertEquityVault
        ⟨token, vaultId, symbol, .discovered discoveredIn discoveredAt⟩
        ((mem_keepPrimary _ token vaultId token).mpr (.inl rfl))
  | equityVaultSeededFromConfig token vaultId seededAt symbol =>
      exact (stamped.keepPrimary token vaultId).insertEquityVault
        ⟨token, vaultId, symbol, .seeded seededAt⟩
        ((mem_keepPrimary _ token vaultId token).mpr (.inl rfl))
  | primaryEquityVaultSetFromConfig token vaultId configuredAt symbol =>
      exact ⟨kept.nonempty, kept.filed, fun other held =>
        (AList.mem_insert _).mpr (.inr (kept.led other held))⟩
  | _ => exact ⟨kept.nonempty, kept.filed, kept.led⟩

/-- The lifecycle of a stream is never stuck, and keeps its registry. -/
theorem kept_of_lifecycle {stream : List VaultRegistryEvent} {registry : VaultRegistry}
    (live : aggregate.lifecycle stream = .live registry) : registry.Kept := by
  induction stream using List.reverseRecOn generalizing registry with
  | nil => cases live
  | append_singleton stream event ih =>
      rw [Aggregate.lifecycle_concat] at live
      cases before : aggregate.lifecycle stream with
      | uninitialized =>
          rw [before] at live
          cases live
          exact (kept_empty _).applyEvent event
      | live earlier =>
          rw [before] at live
          cases live
          exact (ih before).applyEvent event
      | failed =>
          rw [before] at live
          cases live

theorem Reachable.kept {registry : VaultRegistry} (reachable : registry.Reachable) :
    registry.Kept := by
  obtain ⟨commands, live⟩ := reachable
  exact kept_of_lifecycle live

/-! ## The vaults of a registry -/

/-- The vaults of a token, by their ids. -/
def vaultsOf (vaults : KeyMap VaultId EquityVault) : List EquityVault :=
  (sortedEntries vaults).map (·.2)

/-- All equity vaults, by their tokens and ids. -/
def registered (registry : VaultRegistry) : List EquityVault :=
  (sortedEntries registry.equityVaults).flatMap fun (_, vaults) => vaultsOf vaults

theorem mem_vaultsOf {vaults : KeyMap VaultId EquityVault} {vault : EquityVault} :
    vault ∈ vaultsOf vaults ↔ ∃ vaultId, vaults.lookup vaultId = some vault := by
  rw [vaultsOf, List.mem_map]
  constructor
  · intro ⟨⟨vaultId, own⟩, listed, same⟩
    rw [← same]
    exact ⟨vaultId, mem_sortedEntries.mp listed⟩
  · intro ⟨vaultId, held⟩
    exact ⟨(vaultId, vault), mem_sortedEntries.mpr held, rfl⟩

theorem mem_registered {registry : VaultRegistry} {vault : EquityVault} :
    vault ∈ registry.registered ↔
      ∃ token vaults, registry.equityVaults.lookup token = some vaults ∧
        vault ∈ vaultsOf vaults := by
  rw [registered, List.mem_flatMap]
  constructor
  · intro ⟨⟨token, vaults⟩, listed, own⟩
    exact ⟨token, vaults, mem_sortedEntries.mp listed, own⟩
  · intro ⟨token, vaults, held, own⟩
    exact ⟨(token, vaults), mem_sortedEntries.mpr held, own⟩

namespace Kept

variable {registry : VaultRegistry} {token : Nat} {vaults : KeyMap VaultId EquityVault}

theorem token_eq (kept : registry.Kept) (held : registry.equityVaults.lookup token = some vaults)
    {vault : EquityVault} (listed : vault ∈ vaultsOf vaults) : vault.token = token := by
  obtain ⟨vaultId, found⟩ := mem_vaultsOf.mp listed
  exact (kept.filed token vaults held vaultId vault found).1

theorem vaultsOf_ne_nil (kept : registry.Kept)
    (held : registry.equityVaults.lookup token = some vaults) : vaultsOf vaults ≠ [] := by
  intro none
  rw [vaultsOf, List.map_eq_nil_iff, sortedEntries_eq_nil] at none
  exact kept.nonempty token vaults held none

/-- The vaults of a token are those registered under it. -/
theorem filter_registered (kept : registry.Kept)
    (held : registry.equityVaults.lookup token = some vaults) :
    registry.registered.filter (fun vault => vault.token = token) = vaultsOf vaults := by
  have listed : (token, vaults) ∈ sortedEntries registry.equityVaults :=
    mem_sortedEntries.mpr held
  refine filter_flatMap_key (keys_sortedEntries _) ?_ listed
  intro entry among vault own
  exact kept.token_eq (mem_sortedEntries.mp among) own

end Kept

end VaultRegistry

end Liquidity
