import Liquidity.Inventory.VaultPolls
import Mathlib.Algebra.Order.BigOperators.Group.List

/-!
# Counting every vault once

The poll sums the vaults of each token and files the sum under one symbol, that of the
first vault. Sums of two tokens under one symbol do not add up: the later one stays. So
every vault counts once, under its own symbol, exactly when what is filed under a symbol
by mistake is worth what is missing there. For whatever balances, that needs each token
to have one symbol and each symbol one token.
-/

namespace Liquidity

open Grouping

namespace VaultPolls

/-! ## What should be sent -/

def labelled (registry : VaultRegistry) (symbol : Symbol) : List EquityVault :=
  registry.registered.filter fun vault => vault.symbol = symbol

/-- Every registered equity vault is counted once, under its symbol. -/
structure CountsOnce (registry : VaultRegistry) (balance : Nat → VaultId → ℚ)
    (sent : Balances) : Prop where
  sums : ∀ symbol amount, sent.lookup symbol = some amount →
    amount = worth balance (labelled registry symbol)
  present : ∀ vault ∈ registry.registered, vault.symbol ∈ sent

/-- What a successful poll comes to. -/
def Counted (registry : VaultRegistry) (balance : Nat → VaultId → ℚ) :
    Option InventorySnapshotCommand → Prop
  | some (.onchainEquity sent) => CountsOnce registry balance sent
  | some _ => False
  | none => registry.registered = []

/-- Each token has one symbol and each symbol one token. -/
def OneToOne (registry : VaultRegistry) : Prop :=
  ∀ first ∈ registry.registered, ∀ second ∈ registry.registered,
    first.token = second.token ↔ first.symbol = second.symbol

/-- The last token, by address, whose first vault has the symbol. -/
def tokenOf (registry : VaultRegistry) (symbol : Symbol) : Option Nat :=
  ((tokenVaults registry).filter fun entry => entry.symbol = symbol).getLast?.map (·.token)

/-- The last token whose first vault has a symbol holds under other symbols what other
tokens hold under this one. -/
def Offset (registry : VaultRegistry) (balance : Nat → VaultId → ℚ) : Prop :=
  ∀ vault ∈ registry.registered, ∃ token, tokenOf registry vault.symbol = some token ∧
    worth balance (registry.registered.filter fun other =>
        other.token = token ∧ other.symbol ≠ vault.symbol) =
      worth balance (registry.registered.filter fun other =>
        other.token ≠ token ∧ other.symbol = vault.symbol)

/-! ## What is sent -/

section Sent

variable {registry : VaultRegistry} {balance : Nat → VaultId → ℚ}

/-- A token is listed with the symbol of one of its vaults. -/
theorem exists_first (kept : registry.Kept) {entry : TokenVaults}
    (listed : entry ∈ tokenVaults registry) :
    ∃ first ∈ registry.registered, first.token = entry.token ∧ first.symbol = entry.symbol := by
  obtain ⟨held, first, own, named⟩ := mem_tokenVaults listed
  exact ⟨first, vaultsOf_subset listed own, kept.token_eq held own, named⟩

/-- The token of a symbol is listed with it. -/
theorem entry_of_tokenOf {symbol : Symbol} {token : Nat}
    (last : tokenOf registry symbol = some token) : ∃ entry ∈ tokenVaults registry,
      entry.token = token ∧ entry.symbol = symbol := by
  obtain ⟨entry, listed, same⟩ := Option.map_eq_some_iff.mp last
  obtain ⟨among, own⟩ := List.mem_filter.mp (List.mem_of_getLast? listed)
  exact ⟨entry, among, same, of_decide_eq_true own⟩

theorem exists_tokenOf {entry : TokenVaults} (listed : entry ∈ tokenVaults registry) :
    ∃ token, tokenOf registry entry.symbol = some token := by
  have among : entry ∈ (tokenVaults registry).filter fun other => other.symbol = entry.symbol :=
    List.mem_filter.mpr ⟨listed, decide_eq_true rfl⟩
  rw [tokenOf, List.getLast?_eq_some_getLast (List.ne_nil_of_mem among)]
  exact ⟨_, rfl⟩

/-- Under a symbol is what one token holds. -/
theorem lookup_sentBalances (kept : registry.Kept) (symbol : Symbol) :
    (sentBalances registry balance).lookup symbol = (tokenOf registry symbol).map fun token =>
      worth balance (registry.registered.filter fun vault => vault.token = token) := by
  have own : ((tokenVaults registry).map fun entry =>
      (entry.symbol, worth balance (VaultRegistry.vaultsOf entry.vaults))).filter
        (fun pair => pair.1 = symbol) =
      ((tokenVaults registry).filter fun entry => entry.symbol = symbol).map fun entry =>
        (entry.symbol, worth balance (VaultRegistry.vaultsOf entry.vaults)) := List.filter_map
  rw [sentBalances, lookup_collect, own, List.getLast?_map, tokenOf, Option.map_map,
    Option.map_map]
  refine Option.map_congr fun entry last => ?_
  have among := (List.mem_filter.mp (List.mem_of_getLast? last)).1
  show worth balance (VaultRegistry.vaultsOf entry.vaults) =
    worth balance (registry.registered.filter fun vault => vault.token = entry.token)
  rw [kept.filter_registered (mem_tokenVaults among).1]

/-- What the vaults with one property hold, by whether they have another. -/
theorem worth_split (vaults : List EquityVault) (p q : EquityVault → Prop) [DecidablePred p]
    [DecidablePred q] : worth balance (vaults.filter fun vault => p vault) =
      worth balance (vaults.filter fun vault => p vault ∧ q vault) +
        worth balance (vaults.filter fun vault => p vault ∧ ¬ q vault) := by
  have both : (vaults.filter fun vault => p vault).filter (fun vault => q vault) =
      vaults.filter fun vault => p vault ∧ q vault := by
    rw [List.filter_filter]
    exact List.filter_congr fun vault _ => by rw [Bool.decide_and, Bool.and_comm]
  have others : (vaults.filter fun vault => p vault).filter (fun vault => ¬ q vault) =
      vaults.filter fun vault => p vault ∧ ¬ q vault := by
    rw [List.filter_filter]
    exact List.filter_congr fun vault _ => by rw [Bool.decide_and, Bool.and_comm]
  rw [← both, ← others]
  exact (List.sum_map_filter_add_sum_map_filter_not q _ _).symm

/-- A token's worth is that of a symbol if what it holds elsewhere offsets what others hold
there. -/
theorem worth_eq_iff (token : Nat) (symbol : Symbol) :
    worth balance (registry.registered.filter fun vault => vault.token = token) =
        worth balance (labelled registry symbol) ↔
      worth balance (registry.registered.filter fun vault =>
          vault.token = token ∧ vault.symbol ≠ symbol) =
        worth balance (registry.registered.filter fun vault =>
          vault.token ≠ token ∧ vault.symbol = symbol) := by
  have shared : registry.registered.filter (fun vault =>
      vault.symbol = symbol ∧ vault.token = token) =
      registry.registered.filter fun vault => vault.token = token ∧ vault.symbol = symbol :=
    List.filter_congr fun vault _ => decide_eq_decide.mpr and_comm
  have foreign : registry.registered.filter (fun vault =>
      vault.symbol = symbol ∧ ¬ vault.token = token) =
      registry.registered.filter fun vault => vault.token ≠ token ∧ vault.symbol = symbol :=
    List.filter_congr fun vault _ => decide_eq_decide.mpr and_comm
  rw [labelled,
    worth_split registry.registered (fun vault => vault.token = token)
      (fun vault => vault.symbol = symbol),
    worth_split registry.registered (fun vault => vault.symbol = symbol)
      (fun vault => vault.token = token), shared, foreign]
  exact add_right_inj _

theorem countsOnce_iff_offset (kept : registry.Kept) :
    CountsOnce registry balance (sentBalances registry balance) ↔ Offset registry balance := by
  constructor
  · intro counts vault listed
    obtain ⟨amount, held⟩ := AList.lookup_isSome.mpr (counts.present vault listed) |>
      Option.isSome_iff_exists.mp
    have sum := counts.sums vault.symbol amount held
    rw [lookup_sentBalances kept] at held
    obtain ⟨token, last, same⟩ := Option.map_eq_some_iff.mp held
    exact ⟨token, last, (worth_eq_iff token vault.symbol).mp (same.trans sum)⟩
  · intro offset
    constructor
    · intro symbol amount held
      rw [lookup_sentBalances kept] at held
      obtain ⟨token, last, same⟩ := Option.map_eq_some_iff.mp held
      obtain ⟨entry, among, _, labels⟩ := entry_of_tokenOf last
      obtain ⟨first, listed, _, named⟩ := exists_first kept among
      obtain ⟨token', last', equal⟩ := offset first listed
      rw [named, labels] at last' equal
      rw [last, Option.some.injEq] at last'
      subst last'
      rw [← same]
      exact (worth_eq_iff token symbol).mpr equal
    · intro vault listed
      obtain ⟨token, last, _⟩ := offset vault listed
      rw [← AList.lookup_isSome, lookup_sentBalances kept, last]
      rfl

/-! ## Whatever the vaults hold -/

theorem worth_eq_zero {vaults : List EquityVault}
    (each : ∀ vault ∈ vaults, balance vault.token vault.vaultId = 0) :
    worth balance vaults = 0 := by
  refine List.sum_eq_zero fun amount listed => ?_
  obtain ⟨vault, among, rfl⟩ := List.mem_map.mp listed
  exact each vault among

/-- Only this vault holds anything. -/
def unitAt (vault : EquityVault) (token : Nat) (vaultId : VaultId) : ℚ :=
  if token = vault.token ∧ vaultId = vault.vaultId then 1 else 0

theorem unitAt_ne {vault other : EquityVault} (differ : other.token ≠ vault.token) :
    unitAt vault other.token other.vaultId = 0 :=
  if_neg fun same => differ same.1

theorem worth_unitAt_pos {vault : EquityVault} {vaults : List EquityVault}
    (listed : vault ∈ vaults) : 0 < worth (unitAt vault) vaults := by
  have nonneg : ∀ amount ∈ vaults.map fun other => unitAt vault other.token other.vaultId,
      0 ≤ amount := by
    intro amount among
    obtain ⟨other, _, rfl⟩ := List.mem_map.mp among
    rw [unitAt]
    split <;> norm_num
  have own : (1 : ℚ) ∈ vaults.map fun other => unitAt vault other.token other.vaultId :=
    List.mem_map.mpr ⟨vault, listed, if_pos ⟨rfl, rfl⟩⟩
  exact lt_of_lt_of_le one_pos (List.single_le_sum nonneg 1 own)

/-- Were only this vault to hold something, it would be missed. -/
theorem tokenOf_of_offset {vault : EquityVault} (listed : vault ∈ registry.registered)
    (offset : Offset registry (unitAt vault)) :
    tokenOf registry vault.symbol = some vault.token := by
  obtain ⟨token, last, equal⟩ := offset vault listed
  by_cases own : vault.token = token
  · rw [last, own]
  · have elsewhere : worth (unitAt vault) (registry.registered.filter fun other =>
        other.token = token ∧ other.symbol ≠ vault.symbol) = 0 := by
      refine worth_eq_zero fun other among => unitAt_ne ?_
      rw [(of_decide_eq_true (List.mem_filter.mp among).2).1]
      exact Ne.symm own
    have missed : vault ∈ registry.registered.filter fun other =>
        other.token ≠ token ∧ other.symbol = vault.symbol :=
      List.mem_filter.mpr ⟨listed, decide_eq_true ⟨own, rfl⟩⟩
    rw [elsewhere] at equal
    exact absurd equal (worth_unitAt_pos missed).ne

/-- A token is listed once. -/
theorem entry_eq {entry other : TokenVaults} (listed : entry ∈ tokenVaults registry)
    (also : other ∈ tokenVaults registry) (same : entry.token = other.token) :
    entry.symbol = other.symbol := by
  obtain ⟨⟨token, vaults⟩, among, headed⟩ := List.mem_filterMap.mp listed
  obtain ⟨⟨token', vaults'⟩, among', headed'⟩ := List.mem_filterMap.mp also
  obtain ⟨first, head, rfl⟩ := Option.map_eq_some_iff.mp headed
  obtain ⟨first', head', rfl⟩ := Option.map_eq_some_iff.mp headed'
  have held := mem_sortedEntries.mp among
  have held' := mem_sortedEntries.mp among'
  dsimp only at same head head' ⊢
  rw [same, held', Option.some.injEq] at held
  rw [← held, head', Option.some.injEq] at head
  rw [head]

theorem oneToOne_iff (kept : registry.Kept) :
    (∀ balance, Offset registry balance) ↔ OneToOne registry := by
  constructor
  · intro offsets first listed second also
    have named := tokenOf_of_offset listed (offsets (unitAt first))
    have named' := tokenOf_of_offset also (offsets (unitAt second))
    constructor
    · intro sameToken
      obtain ⟨entry, among, token, symbol⟩ := entry_of_tokenOf named
      obtain ⟨entry', among', token', symbol'⟩ := entry_of_tokenOf named'
      rw [← symbol, ← symbol']
      exact entry_eq among among' (token.trans (sameToken.trans token'.symm))
    · intro sameSymbol
      rw [sameSymbol, named', Option.some.injEq] at named
      exact named.symm
  · intro oneToOne balance vault listed
    obtain ⟨entry, among, ofToken, _⟩ := exists_tokenVaults kept listed
    obtain ⟨first, headed, firstToken, firstSymbol⟩ := exists_first kept among
    have named : entry.symbol = vault.symbol :=
      firstSymbol.symm.trans ((oneToOne first headed vault listed).mp (firstToken.trans ofToken))
    obtain ⟨token, last⟩ := exists_tokenOf among
    rw [named] at last
    obtain ⟨entry', among', token', symbol'⟩ := entry_of_tokenOf last
    obtain ⟨first', headed', firstToken', firstSymbol'⟩ := exists_first kept among'
    have own : token = vault.token := by
      rw [← token', ← firstToken']
      exact (oneToOne first' headed' vault listed).mpr (firstSymbol'.trans symbol')
    refine ⟨token, last, ?_⟩
    rw [own]
    have none : worth balance (registry.registered.filter fun other =>
        other.token = vault.token ∧ other.symbol ≠ vault.symbol) = 0 := by
      refine worth_eq_zero fun other kept => ?_
      obtain ⟨there, sameToken, otherSymbol⟩ := List.mem_filter.mp kept |>.imp_right
        of_decide_eq_true
      exact absurd ((oneToOne other there vault listed).mp sameToken) otherSymbol
    have neither : worth balance (registry.registered.filter fun other =>
        other.token ≠ vault.token ∧ other.symbol = vault.symbol) = 0 := by
      refine worth_eq_zero fun other kept => ?_
      obtain ⟨there, otherToken, sameSymbol⟩ := List.mem_filter.mp kept |>.imp_right
        of_decide_eq_true
      exact absurd ((oneToOne other there vault listed).mpr sameSymbol) otherToken
    rw [none, neither]

end Sent

/-! ## The poll -/

section Poll

variable {registry : VaultRegistry}

theorem registered_eq_nil (vacant : registry.equityVaults.entries.isEmpty) :
    registry.registered = [] := by
  have none : sortedEntries registry.equityVaults = [] :=
    sortedEntries_eq_nil.mpr (List.isEmpty_iff.mp vacant)
  rw [VaultRegistry.registered, none]
  rfl

variable [FloatFormat] {getEquityBalance : EquityBalances} {balance : Nat → VaultId → ℚ}

theorem reads_of_pollOnchainEquity (kept : registry.Kept)
    {outcome : Option InventorySnapshotCommand}
    (ran : pollOnchainEquity getEquityBalance registry = .ok outcome) :
    Reads registry getEquityBalance fun token vaultId =>
      ((getEquityBalance token vaultId).toOption.getD 0) := by
  rw [pollOnchainEquity] at ran
  split at ran
  case isTrue vacant =>
    intro vault listed
    rw [registered_eq_nil vacant] at listed
    cases listed
  case isFalse occupied =>
    obtain ⟨results, polled, _⟩ := bind_eq_ok.mp ran
    exact reads_of_polled kept polled

theorem counted_iff_offset (exact : FloatFormat.IsExact) (kept : registry.Kept)
    (reads : Reads registry getEquityBalance balance)
    {outcome : Option InventorySnapshotCommand}
    (ran : pollOnchainEquity getEquityBalance registry = .ok outcome) :
    Counted registry balance outcome ↔ Offset registry balance := by
  rw [pollOnchainEquity_eq exact kept reads, Except.ok.injEq] at ran
  rw [← ran]
  by_cases vacant : registry.equityVaults.entries.isEmpty
  · rw [if_pos vacant]
    constructor
    · intro none vault listed
      rw [registered_eq_nil vacant] at listed
      cases listed
    · intro _
      exact registered_eq_nil vacant
  · rw [if_neg vacant]
    exact countsOnce_iff_offset kept

/-- No index is out of bounds, and a poll that succeeds has read every vault. It counts
every vault once if what one token holds under other symbols offsets what others hold under
its own, and whatever the vaults hold if tokens and symbols are one to one. -/
theorem counted_iff (exact : FloatFormat.IsExact) (registry : VaultRegistry)
    (reachable : registry.Reachable) :
    (∀ getEquityBalance, pollOnchainEquity getEquityBalance registry ≠ .error .outOfBounds) ∧
    (∀ getUsdcBalance, pollOnchainUsdc getUsdcBalance registry ≠ .error .outOfBounds) ∧
    (∀ getEquityBalance outcome, pollOnchainEquity getEquityBalance registry = .ok outcome →
      ∃ balance, Reads registry getEquityBalance balance) ∧
    (∀ getEquityBalance balance outcome, Reads registry getEquityBalance balance →
      pollOnchainEquity getEquityBalance registry = .ok outcome →
      (Counted registry balance outcome ↔ Offset registry balance)) ∧
    ((∀ getEquityBalance balance outcome, Reads registry getEquityBalance balance →
      pollOnchainEquity getEquityBalance registry = .ok outcome →
      Counted registry balance outcome) ↔ OneToOne registry) := by
  have kept := reachable.kept
  refine ⟨pollOnchainEquity_ne_outOfBounds kept,
    fun getUsdcBalance => pollOnchainUsdc_ne_outOfBounds getUsdcBalance registry,
    fun getEquityBalance outcome ran => ⟨_, reads_of_pollOnchainEquity kept ran⟩,
    fun getEquityBalance balance outcome reads ran => counted_iff_offset exact kept reads ran,
    ?_⟩
  rw [← oneToOne_iff kept]
  constructor
  · intro counted balance
    have reads : Reads registry (fun token vaultId => .ok (balance token vaultId)) balance :=
      fun _ _ => rfl
    have ran := pollOnchainEquity_eq exact kept reads
    exact (counted_iff_offset exact kept reads ran).mp (counted _ balance _ reads ran)
  · intro offsets getEquityBalance balance outcome reads ran
    exact (counted_iff_offset exact kept reads ran).mpr (offsets balance)

end Poll

/-! ## A token that was deployed again

The vaults of the former token stay registered next to those of the latter. -/

def redeployed : VaultRegistry :=
  (VaultRegistry.applyEvent { lastUpdated := 1 }
    (.equityVaultSeededFromConfig 1 5 1 "AAPL")).applyEvent
    (.equityVaultSeededFromConfig 2 5 2 "AAPL")

theorem redeployed_reachable : redeployed.Reachable :=
  ⟨[(1, .seedEquityVaultFromConfig 1 5 "AAPL"), (2, .seedEquityVaultFromConfig 2 5 "AAPL")], rfl⟩

def holdings (former latter : ℚ) (token : Nat) (_ : VaultId) : ℚ :=
  if token = 1 then former else latter

theorem pollOnchainEquity_redeployed (former latter : ℚ) :
    @pollOnchainEquity FloatFormat.exact
      (fun token vaultId => .ok (holdings former latter token vaultId)) redeployed =
      .ok (some (.onchainEquity (sentBalances redeployed (holdings former latter)))) :=
  @pollOnchainEquity_eq FloatFormat.exact _ _ _ FloatFormat.exact_isExact
    redeployed_reachable.kept fun _ _ => rfl

/-- With nothing left in the vault of the former token, the sum is right. -/
theorem counted_drained : CountsOnce redeployed (holdings 0 30)
    (sentBalances redeployed (holdings 0 30)) := by
  have named : ∀ vault ∈ redeployed.registered, vault.symbol = "AAPL" := by decide +kernel
  have offset : Offset redeployed (holdings 0 30) := by
    intro vault listed
    rw [named vault listed]
    exact ⟨2, by decide +kernel, by decide +kernel⟩
  exact ((@counted_iff FloatFormat.exact FloatFormat.exact_isExact redeployed
    redeployed_reachable).2.2.2.1 _ _ _ (fun _ _ => rfl)
    (pollOnchainEquity_redeployed 0 30)).mpr offset

/-- What the vault of the former token still holds is not counted. -/
theorem redeployed_overwritten :
    ¬ ∀ registry : VaultRegistry, registry.Reachable → ∀ getEquityBalance balance outcome,
      Reads registry getEquityBalance balance →
      @pollOnchainEquity FloatFormat.exact getEquityBalance registry = .ok outcome →
      Counted registry balance outcome := by
  intro counted
  have counts : CountsOnce redeployed (holdings 70 30)
      (sentBalances redeployed (holdings 70 30)) :=
    counted redeployed redeployed_reachable _ _ _ (fun _ _ => rfl)
      (pollOnchainEquity_redeployed 70 30)
  have sum : (30 : ℚ) = worth (holdings 70 30) (labelled redeployed "AAPL") :=
    counts.sums "AAPL" 30 (by decide +kernel)
  exact absurd sum (by decide +kernel)

end VaultPolls

end Liquidity
