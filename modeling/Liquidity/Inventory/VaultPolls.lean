import Liquidity.Inventory.Snapshot
import Liquidity.VaultRegistry

/-!
# Polling the vaults

The balances of all registered vaults are read. Those of the equity vaults are summed for
each token and sent under the symbol of the token's first vault, those of the cash vaults
are summed together.

Left out are the warnings about vaults that are no longer configured.
-/

namespace Liquidity

open Grouping

namespace VaultPolls

structure RaindexError where
  message : String
  deriving DecidableEq, Repr

inductive InventoryPollingError where
  | raindex (error : RaindexError)
  | float (error : FloatError)
  | vaultBalanceMismatch (expected actual : List Nat)
  /-- An index was out of bounds, and the task panicked. -/
  | outOfBounds
  deriving DecidableEq, Repr

/-- The balance of a vault of the owner, by token and id. -/
abbrev EquityBalances := Nat → VaultId → Except RaindexError FractionalShares

abbrev UsdcBalances := VaultId → Except RaindexError Usdc

/-- A token with vaults, and the symbol of the first. -/
structure TokenVaults where
  token : Nat
  symbol : Symbol
  vaults : KeyMap VaultId EquityVault

section Source

variable [FloatFormat]

/-- The first balance, and the others added to it. -/
def sumBalances : List ℚ → Except InventoryPollingError ℚ
  | [] => .error .outOfBounds
  | first :: rest => (rest.foldlM Decimal.add first).mapError .float

/-- A token without vaults is left out. -/
def withSymbol (entry : Nat × KeyMap VaultId EquityVault) : Option TokenVaults :=
  (VaultRegistry.vaultsOf entry.2).head?.map fun first => ⟨entry.1, first.symbol, entry.2⟩

def tokenVaults (registry : VaultRegistry) : List TokenVaults :=
  (sortedEntries registry.equityVaults).filterMap withSymbol

def pollToken (getEquityBalance : EquityBalances) (entry : TokenVaults) :
    Except InventoryPollingError (Nat × Symbol × FractionalShares) := do
  let vaultBalances ← (VaultRegistry.vaultsOf entry.vaults).mapM fun vault =>
    (getEquityBalance vault.token vault.vaultId).mapError .raindex
  let total ← sumBalances vaultBalances
  return (entry.token, entry.symbol, total)

/-- Nothing is sent where there are no equity vaults. -/
def pollOnchainEquity (getEquityBalance : EquityBalances) (registry : VaultRegistry) :
    Except InventoryPollingError (Option InventorySnapshotCommand) := do
  if registry.equityVaults.entries.isEmpty then return none
  let expectedTokens : List Nat := (sortedEntries registry.equityVaults).map (·.1)
  let results ← (tokenVaults registry).mapM (pollToken getEquityBalance)
  let balances := collect (results.map (·.2))
  let fetchedTokens : List Nat := results.map (·.1)
  if expectedTokens ≠ fetchedTokens then
    throw (.vaultBalanceMismatch expectedTokens fetchedTokens)
  return some (.onchainEquity balances)

def pollOnchainUsdc (getUsdcBalance : UsdcBalances) (registry : VaultRegistry) :
    Except InventoryPollingError (Option InventorySnapshotCommand) := do
  if registry.usdcVaults.entries.isEmpty then return none
  let vaultBalances ← ((sortedEntries registry.usdcVaults).map (·.2)).mapM fun vault =>
    (getUsdcBalance vault.vaultId).mapError .raindex
  let usdcBalance ← sumBalances vaultBalances
  return some (.onchainUsdc usdcBalance)

end Source

/-! ## Reading balances -/

/-- What vaults hold together. -/
def worth (balance : Nat → VaultId → ℚ) (vaults : List EquityVault) : ℚ :=
  (vaults.map fun vault => balance vault.token vault.vaultId).sum

/-- The vaults are read with these balances. -/
def Reads (registry : VaultRegistry) (getEquityBalance : EquityBalances)
    (balance : Nat → VaultId → ℚ) : Prop :=
  ∀ vault ∈ registry.registered,
    getEquityBalance vault.token vault.vaultId = .ok (balance vault.token vault.vaultId)

section Sums

variable [FloatFormat]

theorem sumBalances_ne_outOfBounds {balances : List ℚ} (some : balances ≠ []) :
    sumBalances balances ≠ .error .outOfBounds := by
  cases balances with
  | nil => exact absurd rfl some
  | cons first rest =>
      rw [sumBalances]
      intro panicked
      cases ran : rest.foldlM Decimal.add first with
      | ok total =>
          rw [ran] at panicked
          cases panicked
      | error error =>
          rw [ran] at panicked
          cases panicked

theorem sumBalances_exact (exact : FloatFormat.IsExact) {balances : List ℚ}
    (some : balances ≠ []) : sumBalances balances = .ok balances.sum := by
  cases balances with
  | nil => exact absurd rfl some
  | cons first rest =>
      have added : rest.foldlM Decimal.add first = .ok (first + rest.sum) := by
        clear some
        induction rest generalizing first with
        | nil => rw [List.sum_nil, add_zero]; rfl
        | cons next rest ih =>
            rw [List.foldlM_cons, Decimal.add, exact]
            show rest.foldlM Decimal.add (first + next) = _
            rw [ih, List.sum_cons, add_assoc]
      rw [sumBalances, added, List.sum_cons]
      rfl

end Sums

section Registry

variable {registry : VaultRegistry}

theorem mem_tokenVaults {entry : TokenVaults} (listed : entry ∈ tokenVaults registry) :
    registry.equityVaults.lookup entry.token = some entry.vaults ∧
      ∃ first ∈ VaultRegistry.vaultsOf entry.vaults, first.symbol = entry.symbol := by
  obtain ⟨⟨token, vaults⟩, among, headed⟩ := List.mem_filterMap.mp listed
  obtain ⟨first, head, rfl⟩ := Option.map_eq_some_iff.mp headed
  exact ⟨mem_sortedEntries.mp among, first, List.mem_of_mem_head? head, rfl⟩

theorem withSymbol_isSome (kept : registry.Kept) {entry : Nat × KeyMap VaultId EquityVault}
    (listed : entry ∈ sortedEntries registry.equityVaults) :
    ∃ first, withSymbol entry = some ⟨entry.1, first, entry.2⟩ := by
  have held := mem_sortedEntries.mp listed
  obtain ⟨first, rest, split⟩ := List.exists_cons_of_ne_nil (kept.vaultsOf_ne_nil held)
  refine ⟨first.symbol, ?_⟩
  rw [withSymbol, split]
  rfl

/-- No token is left out. -/
theorem tokens_tokenVaults (kept : registry.Kept) :
    (tokenVaults registry).map (·.token) = (sortedEntries registry.equityVaults).map (·.1) := by
  have each : ∀ entries : List (Nat × KeyMap VaultId EquityVault),
      (∀ entry ∈ entries, ∃ first, withSymbol entry = some ⟨entry.1, first, entry.2⟩) →
      (entries.filterMap withSymbol).map (·.token) = entries.map (·.1) := by
    intro entries
    induction entries with
    | nil => exact fun _ => rfl
    | cons entry entries ih =>
        intro all
        obtain ⟨first, headed⟩ := all entry List.mem_cons_self
        rw [List.filterMap_cons_some headed, List.map_cons, List.map_cons,
          ih fun other listed => all other (List.mem_cons_of_mem _ listed)]
  exact each _ fun entry listed => withSymbol_isSome kept listed

/-- Every vault is among those of an entry. -/
theorem exists_tokenVaults (kept : registry.Kept) {vault : EquityVault}
    (listed : vault ∈ registry.registered) : ∃ entry ∈ tokenVaults registry,
      entry.token = vault.token ∧ vault ∈ VaultRegistry.vaultsOf entry.vaults := by
  obtain ⟨token, vaults, held, own⟩ := VaultRegistry.mem_registered.mp listed
  have among : (token, vaults) ∈ sortedEntries registry.equityVaults :=
    mem_sortedEntries.mpr held
  obtain ⟨first, headed⟩ := withSymbol_isSome kept among
  exact ⟨_, List.mem_filterMap.mpr ⟨_, among, headed⟩, (kept.token_eq held own).symm, own⟩

theorem vaultsOf_subset {entry : TokenVaults} (listed : entry ∈ tokenVaults registry) :
    VaultRegistry.vaultsOf entry.vaults ⊆ registry.registered := fun _ own =>
  VaultRegistry.mem_registered.mpr ⟨entry.token, entry.vaults, (mem_tokenVaults listed).1, own⟩

end Registry

section Reading

variable [FloatFormat] {registry : VaultRegistry} {getEquityBalance : EquityBalances}
variable {balance : Nat → VaultId → ℚ}

/-- A poll that succeeds has read every vault. -/
theorem reads_of_polled (kept : registry.Kept) {results : List (Nat × Symbol × FractionalShares)}
    (ran : (tokenVaults registry).mapM (pollToken getEquityBalance) = .ok results) :
    Reads registry getEquityBalance fun token vaultId =>
      ((getEquityBalance token vaultId).toOption.getD 0) := by
  intro vault listed
  obtain ⟨entry, among, _, own⟩ := exists_tokenVaults kept listed
  obtain ⟨result, _, polled⟩ := exists_result_of_mapM ran among
  obtain ⟨vaultBalances, read, _⟩ := bind_eq_ok.mp polled
  obtain ⟨amount, _, own⟩ := exists_result_of_mapM read own
  have found := mapError_eq_ok.mp own
  show getEquityBalance vault.token vault.vaultId =
    .ok ((getEquityBalance vault.token vault.vaultId).toOption.getD 0)
  rw [found]
  rfl

theorem pollToken_eq (exact : FloatFormat.IsExact) (kept : registry.Kept)
    (reads : Reads registry getEquityBalance balance) {entry : TokenVaults}
    (listed : entry ∈ tokenVaults registry) :
    pollToken getEquityBalance entry =
      .ok (entry.token, entry.symbol, worth balance (VaultRegistry.vaultsOf entry.vaults)) := by
  have read : (VaultRegistry.vaultsOf entry.vaults).mapM (fun vault =>
      (getEquityBalance vault.token vault.vaultId).mapError InventoryPollingError.raindex) =
      .ok ((VaultRegistry.vaultsOf entry.vaults).map fun vault =>
        balance vault.token vault.vaultId) := by
    refine mapM_eq_ok_map fun vault own => ?_
    rw [reads vault (vaultsOf_subset listed own)]
    rfl
  have some : (VaultRegistry.vaultsOf entry.vaults).map (fun vault =>
      balance vault.token vault.vaultId) ≠ [] := by
    intro none
    exact kept.vaultsOf_ne_nil (mem_tokenVaults listed).1 (List.map_eq_nil_iff.mp none)
  rw [pollToken, read]
  show (sumBalances _ >>= _) = _
  rw [sumBalances_exact exact some]
  rfl

/-- What is sent where the balances are read. -/
def sentBalances (registry : VaultRegistry) (balance : Nat → VaultId → ℚ) : Balances :=
  collect ((tokenVaults registry).map fun entry =>
    (entry.symbol, worth balance (VaultRegistry.vaultsOf entry.vaults)))

theorem pollOnchainEquity_eq (exact : FloatFormat.IsExact) (kept : registry.Kept)
    (reads : Reads registry getEquityBalance balance) :
    pollOnchainEquity getEquityBalance registry =
      .ok (if registry.equityVaults.entries.isEmpty then none
        else some (.onchainEquity (sentBalances registry balance))) := by
  have polled : (tokenVaults registry).mapM (pollToken getEquityBalance) =
      .ok ((tokenVaults registry).map fun entry =>
        (entry.token, entry.symbol, worth balance (VaultRegistry.vaultsOf entry.vaults))) :=
    mapM_eq_ok_map fun entry listed => pollToken_eq exact kept reads listed
  rw [pollOnchainEquity]
  split
  case isTrue vacant => rfl
  case isFalse occupied =>
    rw [polled]
    show (if _ then _ else _) = _
    rw [if_neg]
    · rw [sentBalances, List.map_map]
      rfl
    · rw [List.map_map, not_ne_iff]
      exact (tokens_tokenVaults kept).symm

end Reading

/-! ## Indices stay in bounds -/

section Bounds

variable [FloatFormat] {registry : VaultRegistry}

/-- Reading the balances of vaults, and adding them up. -/
theorem summed_ne_outOfBounds {α : Type} {vaults : List α} (some : vaults ≠ [])
    (read : α → Except RaindexError ℚ) :
    (vaults.mapM (fun vault => (read vault).mapError InventoryPollingError.raindex) >>=
      sumBalances) ≠ .error .outOfBounds := by
  intro panicked
  obtain failed | ⟨vaultBalances, ran, failed⟩ := bind_eq_error.mp panicked
  · obtain ⟨vault, _, fails⟩ := exists_error_of_mapM failed
    cases outcome : read vault with
    | ok amount =>
        rw [outcome] at fails
        cases fails
    | error error =>
        rw [outcome] at fails
        cases fails
  · refine sumBalances_ne_outOfBounds ?_ failed
    intro none
    have long := length_of_mapM ran
    rw [none, List.length_nil] at long
    exact some (List.eq_nil_of_length_eq_zero long.symm)

theorem pollOnchainEquity_ne_outOfBounds (kept : registry.Kept)
    (getEquityBalance : EquityBalances) :
    pollOnchainEquity getEquityBalance registry ≠ .error .outOfBounds := by
  rw [pollOnchainEquity]
  split
  case isTrue vacant =>
    intro panicked
    cases panicked
  case isFalse occupied =>
    intro panicked
    obtain failed | ⟨results, _, failed⟩ := bind_eq_error.mp panicked
    · obtain ⟨entry, listed, fails⟩ := exists_error_of_mapM failed
      rw [pollToken] at fails
      have some := kept.vaultsOf_ne_nil (mem_tokenVaults listed).1
      have never := summed_ne_outOfBounds some fun vault =>
        getEquityBalance vault.token vault.vaultId
      obtain unread | ⟨vaultBalances, read, fails⟩ := bind_eq_error.mp fails
      · exact never (bind_eq_error.mpr (.inl unread))
      · obtain unsummed | ⟨total, _, returned⟩ := bind_eq_error.mp fails
        · exact never (bind_eq_error.mpr (.inr ⟨vaultBalances, read, unsummed⟩))
        · cases returned
    · dsimp only at failed
      split at failed
      case isTrue differ => cases failed
      case isFalse same => cases failed

theorem pollOnchainUsdc_ne_outOfBounds (getUsdcBalance : UsdcBalances)
    (registry : VaultRegistry) :
    pollOnchainUsdc getUsdcBalance registry ≠ .error .outOfBounds := by
  rw [pollOnchainUsdc]
  split
  case isTrue vacant =>
    intro panicked
    cases panicked
  case isFalse occupied =>
    intro panicked
    have some : (sortedEntries registry.usdcVaults).map (·.2) ≠ [] := by
      intro none
      rw [List.map_eq_nil_iff, sortedEntries_eq_nil] at none
      exact occupied (List.isEmpty_iff.mpr none)
    have never := summed_ne_outOfBounds some fun vault => getUsdcBalance vault.vaultId
    obtain unread | ⟨vaultBalances, read, fails⟩ := bind_eq_error.mp panicked
    · exact never (bind_eq_error.mpr (.inl unread))
    · obtain unsummed | ⟨total, _, returned⟩ := bind_eq_error.mp fails
      · exact never (bind_eq_error.mpr (.inr ⟨vaultBalances, read, unsummed⟩))
      · cases returned

end Bounds

end VaultPolls

end Liquidity
