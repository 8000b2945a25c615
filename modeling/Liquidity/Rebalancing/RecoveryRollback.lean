import Liquidity.Rebalancing.RecoveryClaim

/-!
# Rolling back a recovery's claim

A claim that is refused or fails leaves everything as it was. One that succeeds
and is rolled back does not always: giving the quantity back stamps the symbol as
rebalanced, so that readings from before are refused that would have been taken
over; an amount in flight that is not the quantity is replaced by it; and the slot
and the tracking are dropped, whoever had set them.
-/

namespace Liquidity

/-! ## One venue of an inventory -/

namespace Inventory

/-- The inventories differ in one venue's balance at most. -/
structure SetsVenue (venue : Venue) (value : Option VenueBalance) (before after : Inventory) :
    Prop where
  here : after.getVenue venue = value
  there : after.getVenue venue.other = before.getVenue venue.other
  lastRebalancing : after.lastRebalancing = before.lastRebalancing

theorem setVenue_sets (inventory : Inventory) (venue : Venue) (value : Option VenueBalance) :
    SetsVenue venue value inventory (inventory.setVenue venue value) := by
  cases venue <;> exact ⟨rfl, rfl, rfl⟩

variable {venue : Venue} {value later : Option VenueBalance} {before between after : Inventory}

theorem SetsVenue.trans (first : SetsVenue venue value before between)
    (second : SetsVenue venue later between after) : SetsVenue venue later before after :=
  ⟨second.here, second.there.trans first.there,
    second.lastRebalancing.trans first.lastRebalancing⟩

theorem SetsVenue.same_iff (sets : SetsVenue venue value before after) :
    (∀ venue, after.getVenue venue = before.getVenue venue) ↔ before.getVenue venue = value := by
  constructor
  · intro same
    rw [← same, sets.here]
  · intro held other
    by_cases here : other = venue
    · rw [here, sets.here, held]
    · have there : other = venue.other := by
        cases other <;> cases venue <;> first | rfl | exact absurd rfl here
      rw [there, sets.there]

/-- Replacing what is in flight. -/
def putInflight (amount : Usdc) : Option VenueBalance → Option VenueBalance
  | some balance => some ⟨balance.available, amount⟩
  | none => if amount = 0 then none else some ⟨0, amount⟩

theorem setInflight_sets {amount : Usdc} (sets : before.setInflight venue amount = .ok after) :
    SetsVenue venue (putInflight amount (before.getVenue venue)) before after := by
  unfold setInflight at sets
  split at sets
  case isTrue untouched =>
      cases sets
      obtain ⟨absent, zero⟩ : before.getVenue venue = none ∧ amount = 0 := by simpa using untouched
      refine ⟨?_, rfl, rfl⟩
      rw [absent, zero]
      rfl
  case isFalse touched =>
      obtain ⟨balance, put, sets⟩ := bind_eq_ok.mp sets
      cases sets
      unfold VenueBalance.setInflight at put
      split at put
      case isTrue => cases put
      case isFalse =>
          cases put
          have replaced : putInflight amount (before.getVenue venue) =
              some ⟨(before.balance venue).available, amount⟩ := by
            unfold Inventory.balance
            cases held : before.getVenue venue with
            | some balance => rfl
            | none =>
                have positive : amount ≠ 0 := by simpa [held] using touched
                simp [putInflight, positive, VenueBalance.zero]
          rw [replaced]
          exact setVenue_sets _ _ _

/-- Nothing is in flight, and nothing has to come into being. -/
def Clears (quantity : FractionalShares) : Option VenueBalance → Prop
  | some balance => balance.inflight = 0
  | none => quantity = 0

theorem putInflight_zero_eq_iff {quantity : FractionalShares} {held : Option VenueBalance} :
    held = putInflight 0 (putInflight quantity held) ↔ Clears quantity held := by
  cases held with
  | some balance =>
      obtain ⟨available, inflight⟩ := balance
      simp [putInflight, Clears]
  | none =>
      unfold putInflight Clears
      by_cases zero : quantity = 0 <;> simp [zero]

theorem putInflight_eq_iff {quantity : FractionalShares} {balance : VenueBalance} :
    some balance = putInflight quantity (some balance) ↔ balance.inflight = quantity := by
  obtain ⟨available, inflight⟩ := balance
  simp [putInflight]

section Transfers

variable [FloatFormat]

/-- A quantity can be taken and given back without rounding. -/
def NothingLost (quantity : FractionalShares) (balance : VenueBalance) : Prop :=
  (Decimal.sub balance.available quantity >>= fun taken => Decimal.add taken quantity) =
      .ok balance.available ∧
    (Decimal.add balance.inflight quantity >>= fun put => Decimal.sub put quantity) =
      .ok balance.inflight

theorem nothingLost_of_exact (exact : FloatFormat.IsExact) (quantity : FractionalShares)
    (balance : VenueBalance) : NothingLost quantity balance := by
  simp [NothingLost, Decimal.sub_exact exact, Decimal.add_exact exact, bind, Except.bind]

theorem start_sets {quantity : FractionalShares}
    (started : before.transfer venue .start quantity = .ok after) :
    ∃ moved, (before.balance venue).moveToInflight quantity = .ok moved ∧
      SetsVenue venue (some moved) before after := by
  obtain ⟨moved, moves, started⟩ := bind_eq_ok.mp started
  cases started
  exact ⟨moved, moves, setVenue_sets _ _ _⟩

theorem cancel_sets {quantity : FractionalShares}
    (cancels : before.transfer venue .cancel quantity = .ok after) :
    ∃ cancelled, (before.balance venue).cancelInflight quantity = .ok cancelled ∧
      SetsVenue venue (some cancelled) before after := by
  obtain ⟨cancelled, moves, cancels⟩ := bind_eq_ok.mp cancels
  cases cancels
  exact ⟨cancelled, moves, setVenue_sets _ _ _⟩

theorem moveToInflight_eq_ok {quantity : FractionalShares} {balance moved : VenueBalance}
    (moves : balance.moveToInflight quantity = .ok moved) :
    Decimal.sub balance.available quantity = .ok moved.available ∧
      Decimal.add balance.inflight quantity = .ok moved.inflight := by
  obtain ⟨available, taken, moves⟩ := bind_eq_ok.mp moves
  split at moves
  · cases moves
  · obtain ⟨inflight, put, moves⟩ := bind_eq_ok.mp moves
    cases moves
    exact ⟨mapError_eq_ok.mp taken, mapError_eq_ok.mp put⟩

theorem cancelInflight_eq_ok {quantity : FractionalShares} {balance cancelled : VenueBalance}
    (cancels : balance.cancelInflight quantity = .ok cancelled) :
    Decimal.add balance.available quantity = .ok cancelled.available ∧
      Decimal.sub balance.inflight quantity = .ok cancelled.inflight := by
  obtain ⟨inflight, taken, cancels⟩ := bind_eq_ok.mp cancels
  split at cancels
  · cases cancels
  · obtain ⟨available, put, cancels⟩ := bind_eq_ok.mp cancels
    cases cancels
    exact ⟨mapError_eq_ok.mp put, mapError_eq_ok.mp taken⟩

/-- Started and cancelled, the balance is what it was if nothing was lost. -/
theorem cancelled_eq_iff {quantity : FractionalShares} {held : Option VenueBalance}
    {moved cancelled : VenueBalance}
    (moves : (held.getD .zero).moveToInflight quantity = .ok moved)
    (cancels : moved.cancelInflight quantity = .ok cancelled) :
    held = some cancelled ↔ ∃ balance, held = some balance ∧ NothingLost quantity balance := by
  obtain ⟨taken, put⟩ := moveToInflight_eq_ok moves
  obtain ⟨returned, removed⟩ := cancelInflight_eq_ok cancels
  have lost (balance : VenueBalance) (same : held = some balance) :
      NothingLost quantity balance ↔ balance = cancelled := by
    rw [same, Option.getD_some] at taken put
    unfold NothingLost
    rw [taken, put]
    obtain ⟨available, inflight⟩ := balance
    obtain ⟨available', inflight'⟩ := cancelled
    show Decimal.add moved.available quantity = .ok available ∧
      Decimal.sub moved.inflight quantity = .ok inflight ↔ _
    simp only [returned, removed, Except.ok.injEq, VenueBalance.mk.injEq]
    exact and_congr eq_comm eq_comm
  constructor
  · intro same
    exact ⟨cancelled, same, (lost cancelled same).mpr rfl⟩
  · rintro ⟨balance, same, nothing⟩
    rw [same, (lost balance same).mp nothing]

end Transfers

end Inventory

/-! ## One symbol of the view -/

namespace EquityView

/-- The views differ in one symbol's inventory at most, and in when they changed. -/
structure Rewrites (symbol : Symbol) (inventory : Inventory) (before after : EquityView) :
    Prop where
  here : after.equities.lookup symbol = some inventory
  elsewhere : ∀ other, other ≠ symbol →
    after.equities.lookup other = before.equities.lookup other
  usdc : after.usdc = before.usdc
  inflightCash : after.inflightCash = before.inflightCash
  inflightEquity : after.inflightEquity = before.inflightEquity
  besides : SameBesides before after

variable {symbol : Symbol} {inventory later : Inventory} {before between after : EquityView}

theorem Rewrites.trans (first : Rewrites symbol inventory before between)
    (second : Rewrites symbol later between after) : Rewrites symbol later before after where
  here := second.here
  elsewhere other differs := (second.elsewhere other differs).trans (first.elsewhere other differs)
  usdc := second.usdc.trans first.usdc
  inflightCash := second.inflightCash.trans first.inflightCash
  inflightEquity := second.inflightEquity.trans first.inflightEquity
  besides := ⟨second.besides.onchain.trans first.besides.onchain,
    second.besides.offchain.trans first.besides.offchain,
    second.besides.pending.trans first.besides.pending,
    second.besides.lastFill.trans first.besides.lastFill⟩

theorem Rewrites.equity_eq (rewrites : Rewrites symbol inventory before after) :
    after.equity symbol = inventory := by
  rw [equity, rewrites.here]
  rfl

theorem insert_rewrites (view : EquityView) (symbol : Symbol) (inventory : Inventory)
    (now : Time) : Rewrites symbol inventory view
      { view with equities := view.equities.insert symbol inventory, lastUpdated := now } where
  here := AList.lookup_insert _
  elsewhere _ differs := AList.lookup_insert_ne differs
  usdc := rfl
  inflightCash := rfl
  inflightEquity := rfl
  besides := ⟨rfl, rfl, rfl, rfl⟩

theorem updateEquity_rewrites {update : Inventory → Except InventoryError Inventory} {now : Time}
    (updated : before.updateEquity symbol update now = .ok after) :
    ∃ inventory, update (before.equity symbol) = .ok inventory ∧
      Rewrites symbol inventory before after := by
  obtain ⟨inventory, updates, updated⟩ := bind_eq_ok.mp updated
  cases updated
  exact ⟨inventory, updates, insert_rewrites _ _ _ _⟩

theorem clearEquityInflight_rewrites {venue : Venue} {now : Time}
    (held : before.equities.lookup symbol = some inventory)
    (clears : before.clearEquityInflight symbol venue now = .ok after) :
    ∃ cleared, inventory.setInflight venue 0 = .ok cleared ∧
      Rewrites symbol (cleared.withLastRebalancing now) before after := by
  unfold clearEquityInflight at clears
  rw [held] at clears
  obtain ⟨cleared, sets, clears⟩ := bind_eq_ok.mp clears
  cases clears
  exact ⟨cleared, sets, insert_rewrites _ _ _ _⟩

/-- Every balance is the same, and what would have been taken over still is: a
reading of a venue, and a poll of what is in flight. -/
structure Restores (before after : EquityView) : Prop where
  balances : ∀ symbol venue,
    (after.equity symbol).getVenue venue = (before.equity symbol).getVenue venue
  usdc : after.usdc = before.usdc
  inflightCash : after.inflightCash = before.inflightCash
  inflightEquity : after.inflightEquity = before.inflightEquity
  readings : ∀ symbol venue fetchedAt, before.equitySnapshotWouldApply symbol venue fetchedAt →
    after.equitySnapshotWouldApply symbol venue fetchedAt
  polls : ∀ symbol fetchedAt, after.isStaleForSymbol symbol fetchedAt →
    before.isStaleForSymbol symbol fetchedAt

theorem Restores.refl (view : EquityView) : Restores view view :=
  ⟨fun _ _ => rfl, rfl, rfl, rfl, fun _ _ _ => id, fun _ _ => id⟩

theorem hasInflight_congr (same : ∀ venue, later.getVenue venue = inventory.getVenue venue) :
    later.hasInflight = inventory.hasInflight := by
  have onchain : later.onchain = inventory.onchain := same .marketMaking
  have offchain : later.offchain = inventory.offchain := same .hedging
  rw [Inventory.hasInflight, Inventory.hasInflight, onchain, offchain]

/-- A reading that was taken over before still is, where the balances are the same
and the last rebalancing is no later. -/
theorem Rewrites.would_apply (rewrites : Rewrites symbol inventory before after)
    (same : ∀ venue, inventory.getVenue venue = (before.equity symbol).getVenue venue)
    (noLater : ∀ stamp, inventory.lastRebalancing = some stamp →
      stamp ≤ (before.equity symbol).lastRebalancing.getD 0)
    {venue : Venue} {fetchedAt : Time}
    (applies : before.equitySnapshotWouldApply symbol venue fetchedAt) :
    after.equitySnapshotWouldApply symbol venue fetchedAt := by
  have slot_eq : after.slot venue symbol =
      { before.slot venue symbol with inventory := some inventory } := by
    have besides := rewrites.besides
    cases venue <;> simp [slot, equitySnapshotWatermark, rewrites.here, besides.onchain,
      besides.offchain, besides.pending, besides.lastFill]
  rw [equitySnapshotWouldApply_eq] at applies ⊢
  rw [slot_eq]
  unfold Slot.wouldApply at applies ⊢
  split at applies
  case isTrue => cases applies
  case isFalse fresh =>
      split at applies
      case isTrue => cases applies
      case isFalse unyielding =>
          rw [if_neg fresh]
          have yields : ¬ ({ before.slot venue symbol with
              inventory := some inventory } : Slot).yieldsToFills fetchedAt venue := by
            cases venue <;> exact unyielding
          rw [if_neg yields]
          -- what the reading is compared with in the inventory itself
          have quiet : (before.equity symbol).hasInflight = false ∧
              (before.equity symbol).lastRebalancing.any (fetchedAt < ·) = false := by
            unfold equity
            have held : (before.slot venue symbol).inventory = before.equities.lookup symbol := rfl
            rw [held] at applies
            cases found : before.equities.lookup symbol with
            | none => exact ⟨rfl, rfl⟩
            | some inventory =>
                rw [found] at applies
                simpa using applies
          have settled : inventory.lastRebalancing.any (fetchedAt < ·) = false := by
            cases stamped : inventory.lastRebalancing with
            | none => rfl
            | some stamp =>
                have bound := noLater stamp stamped
                have passed := quiet.2
                cases known : (before.equity symbol).lastRebalancing with
                | none =>
                    rw [known] at bound
                    have zero : stamp = 0 := Nat.le_zero.mp bound
                    simp [zero]
                | some last =>
                    rw [known] at bound passed
                    have reached : last ≤ fetchedAt := by simpa using passed
                    simpa using Nat.le_trans bound reached
          show (!inventory.hasInflight && !inventory.lastRebalancing.any (fetchedAt < ·)) = true
          rw [hasInflight_congr same, quiet.1, settled]
          rfl

/-- Rewriting a symbol restores the view if it keeps the balances and does not
stamp the symbol as rebalanced later than it was. -/
theorem Rewrites.restores_iff (rewrites : Rewrites symbol inventory before after) :
    Restores before after ↔
      (∀ venue, inventory.getVenue venue = (before.equity symbol).getVenue venue) ∧
        ∀ stamp, inventory.lastRebalancing = some stamp →
          stamp ≤ (before.equity symbol).lastRebalancing.getD 0 := by
  have elsewhere {other : Symbol} (differs : other ≠ symbol) :
      after.equity other = before.equity other := by
    rw [equity, equity, rewrites.elsewhere other differs]
  constructor
  · intro restores
    refine ⟨?_, ?_⟩
    · intro venue
      rw [← rewrites.equity_eq]
      exact restores.balances symbol venue
    · intro stamp stamped
      by_contra past
      rw [Nat.not_le] at past
      have stale : after.isStaleForSymbol symbol
          ((before.equity symbol).lastRebalancing.getD 0) := by
        rw [isStaleForSymbol, rewrites.equity_eq, stamped]
        simpa using past
      have before_stale := restores.polls symbol _ stale
      unfold isStaleForSymbol at before_stale
      cases known : (before.equity symbol).lastRebalancing with
      | none => simp [known] at before_stale
      | some last => simp [known] at before_stale
  · rintro ⟨same, noLater⟩
    refine ⟨?_, rewrites.usdc, rewrites.inflightCash, rewrites.inflightEquity, ?_, ?_⟩
    · intro other venue
      by_cases here : other = symbol
      · rw [here, rewrites.equity_eq, same]
      · rw [elsewhere here]
    · intro other venue fetchedAt applies
      by_cases here : other = symbol
      · subst here
        exact rewrites.would_apply same noLater applies
      · rw [equitySnapshotWouldApply_eq] at applies ⊢
        rw [rewrites.besides.slot_eq (rewrites.elsewhere other here)]
        exact applies
    · intro other fetchedAt stale
      by_cases here : other = symbol
      · subst here
        rw [isStaleForSymbol, rewrites.equity_eq] at stale
        obtain ⟨stamp, stamped, past⟩ := (Option.any_eq_true _ _).mp stale
        have bound := noLater stamp stamped
        have later : fetchedAt < (before.equity other).lastRebalancing.getD 0 :=
          Nat.lt_of_lt_of_le (by simpa using past) bound
        unfold isStaleForSymbol
        cases known : (before.equity other).lastRebalancing with
        | none => simp [known] at later
        | some last => simpa [known] using later
      · rw [isStaleForSymbol, ← elsewhere here]
        exact stale

/-- A symbol stamped as rebalanced is restored if it was not rebalanced earlier. -/
theorem Rewrites.stamped_restores_iff {stamp : Time}
    (rewrites : Rewrites symbol (inventory.withLastRebalancing stamp) before after) :
    Restores before after ↔
      (∀ venue, inventory.getVenue venue = (before.equity symbol).getVenue venue) ∧
        stamp ≤ (before.equity symbol).lastRebalancing.getD 0 := by
  rw [rewrites.restores_iff]
  have kept : ∀ venue, (inventory.withLastRebalancing stamp).getVenue venue =
      inventory.getVenue venue := by
    intro venue
    cases venue <;> rfl
  refine and_congr ?_ ?_
  · simp only [kept]
  · constructor
    · intro noLater
      exact noLater stamp rfl
    · rintro bound _ ⟨⟩
      exact bound

variable {venue : Venue} {quantity : FractionalShares} {now stamp : Time}

/-- Put in flight by one update and cleared again. -/
theorem cleared_restores_iff
    (claimed : before.updateEquity symbol (Inventory.setInflight venue quantity) now = .ok between)
    (rolled : between.clearEquityInflight symbol venue stamp = .ok after) :
    Restores before after ↔
      Inventory.Clears quantity ((before.equity symbol).getVenue venue) ∧
        stamp ≤ (before.equity symbol).lastRebalancing.getD 0 := by
  obtain ⟨put, puts, first⟩ := updateEquity_rewrites claimed
  obtain ⟨cleared, clears, second⟩ := clearEquityInflight_rewrites first.here rolled
  have sets := Inventory.setInflight_sets puts
  have clearing := Inventory.setInflight_sets clears
  rw [(first.trans second).stamped_restores_iff, (sets.trans clearing).same_iff, sets.here,
    Inventory.putInflight_zero_eq_iff]

/-- Put in flight by one update, and left there. -/
theorem replaced_restores_iff
    (claimed : before.updateEquity symbol (Inventory.setInflight venue quantity) now = .ok after)
    {balance : VenueBalance} (held : (before.equity symbol).getVenue venue = some balance) :
    Restores before after ↔ balance.inflight = quantity := by
  obtain ⟨put, puts, rewrites⟩ := updateEquity_rewrites claimed
  have sets := Inventory.setInflight_sets puts
  rw [rewrites.restores_iff, sets.same_iff, held, Inventory.putInflight_eq_iff]
  refine and_iff_left ?_
  intro stamp stamped
  rw [← sets.lastRebalancing, stamped]
  exact Nat.le_refl _

/-- Started by one update and cancelled by another. -/
theorem cancelled_restores_iff [FloatFormat]
    (claimed : before.updateEquity symbol (startEquityTransferUpdate venue quantity) now =
      .ok between)
    (rolled : between.updateEquity symbol (cancelEquityTransferUpdate venue quantity stamp) stamp =
      .ok after) :
    Restores before after ↔
      (∃ balance, (before.equity symbol).getVenue venue = some balance ∧
        Inventory.NothingLost quantity balance) ∧
        stamp ≤ (before.equity symbol).lastRebalancing.getD 0 := by
  obtain ⟨started, starts, first⟩ := updateEquity_rewrites claimed
  obtain ⟨stamped, updates, second⟩ := updateEquity_rewrites rolled
  rw [first.equity_eq] at updates
  obtain ⟨cancelled, cancels, stamping⟩ := bind_eq_ok.mp updates
  cases stamping
  obtain ⟨moved, moves, sets⟩ := Inventory.start_sets starts
  obtain ⟨returned, returns, cancelling⟩ := Inventory.cancel_sets cancels
  have balance_eq : started.balance venue = moved := by
    rw [Inventory.balance, sets.here]
    rfl
  rw [balance_eq] at returns
  rw [(first.trans second).stamped_restores_iff, (sets.trans cancelling).same_iff,
    Inventory.cancelled_eq_iff moves returns]

end EquityView

/-! ## The reactor -/

namespace EquityReactor

/-- Everything the claim touched has the value it had. -/
structure Undone (before after : EquityReactor) : Prop where
  view : before.view.Restores after.view
  timedOutMints : after.timedOutMints = before.timedOutMints
  timedOutRedemptions : after.timedOutRedemptions = before.timedOutRedemptions
  suppressed : after.suppressedInflightSymbols = before.suppressedInflightSymbols
  mintTracking : ∀ id, after.mintTracking.lookup id = before.mintTracking.lookup id
  redemptionTracking : ∀ id,
    after.redemptionTracking.lookup id = before.redemptionTracking.lookup id
  inProgress : after.equityInProgress = before.equityInProgress

/-- Everything stands but the view, the symbol's slot, and what is known of one
mint or one redemption. -/
structure Touches (symbol : Symbol) (mint : Option IssuerRequestId)
    (redemption : Option RedemptionAggregateId) (before after : EquityReactor) : Prop where
  timedOutMints : after.timedOutMints = before.timedOutMints
  timedOutRedemptions : after.timedOutRedemptions = before.timedOutRedemptions
  suppressed : after.suppressedInflightSymbols = before.suppressedInflightSymbols
  mintTracking : ∀ id, mint ≠ some id →
    after.mintTracking.lookup id = before.mintTracking.lookup id
  redemptionTracking : ∀ id, redemption ≠ some id →
    after.redemptionTracking.lookup id = before.redemptionTracking.lookup id
  inProgress : ∀ other, other ≠ symbol →
    after.equityInProgress other = before.equityInProgress other

/-- The slot and the tracking are dropped. -/
structure Dropped (symbol : Symbol) (mint : Option IssuerRequestId)
    (redemption : Option RedemptionAggregateId) (reactor : EquityReactor) : Prop where
  free : reactor.equityInProgress symbol = none
  mint : ∀ id, mint = some id → reactor.mintTracking.lookup id = none
  redemption : ∀ id, redemption = some id → reactor.redemptionTracking.lookup id = none

variable {symbol : Symbol} {mint : Option IssuerRequestId}
  {redemption : Option RedemptionAggregateId} {before between after : EquityReactor}

theorem Touches.trans (first : Touches symbol mint redemption before between)
    (second : Touches symbol mint redemption between after) :
    Touches symbol mint redemption before after where
  timedOutMints := second.timedOutMints.trans first.timedOutMints
  timedOutRedemptions := second.timedOutRedemptions.trans first.timedOutRedemptions
  suppressed := second.suppressed.trans first.suppressed
  mintTracking id other := (second.mintTracking id other).trans (first.mintTracking id other)
  redemptionTracking id other :=
    (second.redemptionTracking id other).trans (first.redemptionTracking id other)
  inProgress other differs :=
    (second.inProgress other differs).trans (first.inProgress other differs)

/-- What was dropped is as it was before only if there was nothing. -/
theorem Touches.undone_iff (touches : Touches symbol mint redemption before after)
    (dropped : Dropped symbol mint redemption after) :
    Undone before after ↔
      before.view.Restores after.view ∧ Dropped symbol mint redemption before := by
  constructor
  · intro undone
    refine ⟨undone.view, ?_, ?_, ?_⟩
    · rw [← undone.inProgress]
      exact dropped.free
    · intro id same
      rw [← undone.mintTracking]
      exact dropped.mint id same
    · intro id same
      rw [← undone.redemptionTracking]
      exact dropped.redemption id same
  · rintro ⟨view, was⟩
    refine ⟨view, touches.timedOutMints, touches.timedOutRedemptions, touches.suppressed,
      ?_, ?_, ?_⟩
    · intro id
      by_cases same : mint = some id
      · rw [dropped.mint id same, was.mint id same]
      · exact touches.mintTracking id same
    · intro id
      by_cases same : redemption = some id
      · rw [dropped.redemption id same, was.redemption id same]
      · exact touches.redemptionTracking id same
    · funext other
      by_cases same : other = symbol
      · rw [same, dropped.free, was.free]
      · exact touches.inProgress other same

/-! ## Mints -/

section Mints

variable {id : IssuerRequestId} {quantity : FractionalShares}

theorem abandonMint_view (reactor : EquityReactor) (id : IssuerRequestId) (symbol : Symbol) :
    (reactor.abandonMintRecoveryGuard id symbol).view = reactor.view := by
  simp only [abandonMintRecoveryGuard]
  split <;> rfl

theorem abandonMint_touches (reactor : EquityReactor) (id : IssuerRequestId) (symbol : Symbol) :
    Touches symbol (some id) none reactor (reactor.abandonMintRecoveryGuard id symbol) := by
  have erased : ∀ other, some id ≠ some other →
      (reactor.mintTracking.erase id).lookup other = reactor.mintTracking.lookup other :=
    fun other differs => AList.lookup_erase_ne fun same => differs (by rw [same])
  have slots : ∀ other, other ≠ symbol →
      Function.update reactor.equityInProgress symbol none other =
        reactor.equityInProgress other := fun other differs => Function.update_of_ne differs _ _
  simp only [abandonMintRecoveryGuard]
  split <;> exact ⟨rfl, rfl, rfl, erased, fun _ _ => rfl, slots⟩

theorem abandonMint_dropped (reactor : EquityReactor) (id : IssuerRequestId) (symbol : Symbol) :
    Dropped symbol (some id) none (reactor.abandonMintRecoveryGuard id symbol) := by
  have erased : ∀ other, some id = some other →
      (reactor.mintTracking.erase id).lookup other = none := by
    rintro other ⟨⟩
    exact AList.lookup_erase _ _
  have free : Function.update reactor.equityInProgress symbol none symbol = none :=
    Function.update_self _ _ _
  simp only [abandonMintRecoveryGuard]
  split <;> exact ⟨free, erased, nofun⟩

/-- A claim follows the mint and takes the slot. -/
def followMint (reactor : EquityReactor) (now : Time) (id : IssuerRequestId) (symbol : Symbol)
    (quantity : FractionalShares) (tokenizationRequestId : TokenizationRequestId) :
    EquityReactor :=
  { reactor with
    mintTracking := reactor.mintTracking.insert id
      ⟨symbol, quantity, some tokenizationRequestId, .accepted, now⟩ }.markEquityActiveTransfer
        symbol

theorem followMint_touches (reactor : EquityReactor) (now : Time) (id : IssuerRequestId)
    (symbol : Symbol) (quantity : FractionalShares)
    (tokenizationRequestId : TokenizationRequestId) :
    Touches symbol (some id) none reactor
      (reactor.followMint now id symbol quantity tokenizationRequestId) where
  timedOutMints := rfl
  timedOutRedemptions := rfl
  suppressed := rfl
  mintTracking _ differs := AList.lookup_insert_ne fun same => differs (by rw [same])
  redemptionTracking _ _ := rfl
  inProgress _ differs := Function.update_of_ne differs _ _

variable [FloatFormat]

/-- What a claim of a failed mint does, if it succeeds. -/
theorem rebuildMint_claimed {reactor claimed : EquityReactor} {now : Time} {reason : String}
    {requestedAt failedAt : Time} {tokenizationRequestId : TokenizationRequestId}
    {rollback : RecoveryRollback}
    (claims : reactor.rebuildMintTrackingForRecovery now id
      (.failed symbol quantity reason requestedAt failedAt) tokenizationRequestId =
        (claimed, .ok (.claimed rollback))) :
    ∃ view, reactor.view.updateEquity symbol (reactor.mintRecoveryUpdate id symbol quantity).1 now =
        .ok view ∧
      rollback = (reactor.mintRecoveryUpdate id symbol quantity).2 ∧
      claimed = ({ reactor with view }.consumeMintTimeout id symbol).followMint now id symbol
        quantity tokenizationRequestId := by
  simp only [rebuildMintTrackingForRecovery] at claims
  split at claims
  case isTrue => cases claims
  case isFalse =>
      split at claims
      case h_1 => cases claims
      case h_2 updated applied =>
          obtain ⟨view, updates, applied⟩ := bind_eq_ok.mp applied
          cases applied
          cases claims
          exact ⟨view, mapError_eq_ok.mp updates, rfl, rfl⟩

/-- A claim that is refused or fails leaves everything as it was. -/
theorem rebuildMint_unchanged {reactor after : EquityReactor} {now : Time} {reason : String}
    {requestedAt failedAt : Time} {tokenizationRequestId : TokenizationRequestId}
    {answer : Except EquityReactorError RecoveryClaim}
    (claims : reactor.rebuildMintTrackingForRecovery now id
      (.failed symbol quantity reason requestedAt failedAt) tokenizationRequestId =
        (after, answer))
    (refused : ∀ rollback, answer ≠ .ok (.claimed rollback)) : after = reactor := by
  simp only [rebuildMintTrackingForRecovery] at claims
  split at claims
  case isTrue =>
      cases claims
      rfl
  case isFalse =>
      split at claims
      case h_1 =>
          cases claims
          rfl
      case h_2 =>
          cases claims
          exact absurd rfl (refused _)

/-- Where a mint's claim is undone: nobody followed the mint or held the slot, and
what the claim puts in flight is there already, or is given back as it was and the
symbol was rebalanced no earlier. -/
structure MintReverts (reactor : EquityReactor) (id : IssuerRequestId) (symbol : Symbol)
    (quantity : FractionalShares) (later : Time) : Prop where
  free : reactor.equityInProgress symbol = none
  untracked : reactor.mintTracking.lookup id = none
  timedOut : reactor.timedOutMints id ≠ none →
    Inventory.Clears quantity ((reactor.view.equity symbol).getVenue .hedging) ∧
      later ≤ (reactor.view.equity symbol).lastRebalancing.getD 0
  unheard : reactor.timedOutMints id = none → ∀ balance,
    (reactor.view.equity symbol).getVenue .hedging = some balance → balance.inflight ≠ 0 →
      balance.inflight = quantity
  givenBack : reactor.timedOutMints id = none →
    (∀ balance, (reactor.view.equity symbol).getVenue .hedging = some balance →
      balance.inflight = 0) →
    (∃ balance, (reactor.view.equity symbol).getVenue .hedging = some balance ∧
      Inventory.NothingLost quantity balance) ∧
      later ≤ (reactor.view.equity symbol).lastRebalancing.getD 0

omit [FloatFormat] in
/-- A marker that is taken away and put back is as it was. -/
theorem update_back {Key Value : Type} [DecidableEq Key] {marker : Key → Option Value} {key : Key}
    {value : Option Value} (held : marker key = value) :
    Function.update (Function.update marker key none) key value = marker := by
  rw [Function.update_idem, ← held, Function.update_eq_self]

omit [FloatFormat] in
theorem restoreSuppressed_eq {reactor : EquityReactor} (marker : Option Time)
    (taken : reactor.suppressedInflightSymbols symbol = none) :
    reactor.restoreSuppressed symbol marker =
      { reactor with
        suppressedInflightSymbols :=
          Function.update reactor.suppressedInflightSymbols symbol marker } := by
  cases marker with
  | some suppressedAt => rfl
  | none =>
      have same : Function.update reactor.suppressedInflightSymbols symbol none =
          reactor.suppressedInflightSymbols := by
        rw [← taken, Function.update_eq_self]
      rw [same]
      rfl

omit [FloatFormat] in
theorem equityInflight_any (view : EquityView) (symbol : Symbol) (venue : Venue) :
    (view.equityInflight symbol venue).any (· ≠ 0) ↔ ∃ balance,
      (view.equity symbol).getVenue venue = some balance ∧ balance.inflight ≠ 0 := by
  unfold EquityView.equityInflight EquityView.equity
  cases view.equities.lookup symbol with
  | none => cases venue <;> simp [Inventory.getVenue, Inventory.empty]
  | some inventory =>
      simp only [Option.bind_some, Option.getD_some]
      cases inventory.getVenue venue <;> simp

section RolledBack

variable {reactor claimed final : EquityReactor} {now later : Time} {reason : String}
  {requestedAt failedAt : Time} {tokenizationRequestId : TokenizationRequestId}
  {rollback : RecoveryRollback}

/-- After a timeout, the quantity is put in flight and zeroed again. -/
theorem timedOutMint_rolledBack {timedOutAt : Time}
    (timedOut : reactor.timedOutMints id = some timedOutAt)
    (claims : reactor.rebuildMintTrackingForRecovery now id
      (.failed symbol quantity reason requestedAt failedAt) tokenizationRequestId =
        (claimed, .ok (.claimed rollback)))
    (rolls : claimed.rollbackMintTrackingForRecovery later id symbol quantity rollback =
      (final, .ok ())) :
    Touches symbol (some id) none reactor final ∧ Dropped symbol (some id) none final ∧
      ∃ between, reactor.view.updateEquity symbol (Inventory.setInflight .hedging quantity) now =
          .ok between ∧
        between.clearEquityInflight symbol .hedging later = .ok final.view := by
  obtain ⟨between, updates, rfl, rfl⟩ := rebuildMint_claimed claims
  have shape : reactor.mintRecoveryUpdate id symbol quantity =
      (Inventory.setInflight .hedging quantity,
        .restoreTombstone timedOutAt (reactor.suppressedInflightSymbols symbol)) := by
    simp only [mintRecoveryUpdate, timedOut]
  have consumed : { reactor with view := between }.consumeMintTimeout id symbol =
      { reactor with
        view := between
        timedOutMints := Function.update reactor.timedOutMints id none
        suppressedInflightSymbols :=
          Function.update reactor.suppressedInflightSymbols symbol none } := by
    simp only [consumeMintTimeout, timedOut]
    rfl
  rw [shape] at updates rolls
  rw [consumed] at rolls
  simp only [rollbackMintTrackingForRecovery] at rolls
  split at rolls
  case h_1 => cases rolls
  case h_2 view clears =>
      cases rolls
      refine ⟨?_, abandonMint_dropped _ _ _, between, updates, ?_⟩
      · have tracked := followMint_touches reactor now id symbol quantity tokenizationRequestId
        refine Touches.trans ?_ (abandonMint_touches _ _ _)
        rw [restoreSuppressed_eq _ (Function.update_self _ _ _)]
        exact ⟨update_back timedOut, rfl, update_back rfl, tracked.mintTracking, fun _ _ => rfl,
          tracked.inProgress⟩
      · rw [abandonMint_view, restoreSuppressed_eq _ (Function.update_self _ _ _)]
        exact clears

omit [FloatFormat] in
/-- Without a timeout no marker is consumed. -/
theorem consumeMint_of_none {view : EquityView} (inTime : reactor.timedOutMints id = none) :
    { reactor with view }.consumeMintTimeout id symbol = { reactor with view } := by
  simp only [consumeMintTimeout, inTime]
  rfl

/-- After a failure that was not heard, the quantity replaces what is in flight. -/
theorem unheardMint_rolledBack (inTime : reactor.timedOutMints id = none)
    {balance : VenueBalance}
    (held : (reactor.view.equity symbol).getVenue .hedging = some balance)
    (inFlight : balance.inflight ≠ 0)
    (claims : reactor.rebuildMintTrackingForRecovery now id
      (.failed symbol quantity reason requestedAt failedAt) tokenizationRequestId =
        (claimed, .ok (.claimed rollback)))
    (rolls : claimed.rollbackMintTrackingForRecovery later id symbol quantity rollback =
      (final, .ok ())) :
    Touches symbol (some id) none reactor final ∧ Dropped symbol (some id) none final ∧
      reactor.view.updateEquity symbol (Inventory.setInflight .hedging quantity) now =
        .ok final.view := by
  obtain ⟨view, updates, rfl, rfl⟩ := rebuildMint_claimed claims
  have shape : reactor.mintRecoveryUpdate id symbol quantity =
      (Inventory.setInflight .hedging quantity, .trackingOnly) := by
    simp only [mintRecoveryUpdate, inTime]
    exact if_pos ((equityInflight_any _ _ _).mpr ⟨balance, held, inFlight⟩)
  rw [shape] at updates rolls
  rw [consumeMint_of_none inTime] at rolls
  cases rolls
  have tracked := followMint_touches { reactor with view } now id symbol quantity
    tokenizationRequestId
  refine ⟨?_, abandonMint_dropped _ _ _, ?_⟩
  · refine Touches.trans ?_ (abandonMint_touches _ _ _)
    exact ⟨rfl, rfl, rfl, tracked.mintTracking, fun _ _ => rfl, tracked.inProgress⟩
  · rw [abandonMint_view]
    exact updates

/-- After a failure that was heard, a transfer is started and cancelled again. -/
theorem givenBackMint_rolledBack (inTime : reactor.timedOutMints id = none)
    (atRest : ∀ balance, (reactor.view.equity symbol).getVenue .hedging = some balance →
      balance.inflight = 0)
    (claims : reactor.rebuildMintTrackingForRecovery now id
      (.failed symbol quantity reason requestedAt failedAt) tokenizationRequestId =
        (claimed, .ok (.claimed rollback)))
    (rolls : claimed.rollbackMintTrackingForRecovery later id symbol quantity rollback =
      (final, .ok ())) :
    Touches symbol (some id) none reactor final ∧ Dropped symbol (some id) none final ∧
      ∃ between, reactor.view.updateEquity symbol
          (startEquityTransferUpdate .hedging quantity) now = .ok between ∧
        between.updateEquity symbol (cancelEquityTransferUpdate .hedging quantity later) later =
          .ok final.view := by
  obtain ⟨between, updates, rfl, rfl⟩ := rebuildMint_claimed claims
  have shape : reactor.mintRecoveryUpdate id symbol quantity =
      (startEquityTransferUpdate .hedging quantity, .cancelInflight) := by
    simp only [mintRecoveryUpdate, inTime]
    refine if_neg ?_
    rw [equityInflight_any]
    rintro ⟨balance, held, inFlight⟩
    exact inFlight (atRest balance held)
  rw [shape] at updates rolls
  rw [consumeMint_of_none inTime] at rolls
  simp only [rollbackMintTrackingForRecovery] at rolls
  split at rolls
  case h_1 => cases rolls
  case h_2 cancelled applied =>
      obtain ⟨view, cancels, applied⟩ := bind_eq_ok.mp applied
      cases applied
      cases rolls
      have tracked := followMint_touches { reactor with view := between } now id symbol quantity
        tokenizationRequestId
      refine ⟨?_, abandonMint_dropped _ _ _, between, updates, ?_⟩
      · refine Touches.trans ?_ (abandonMint_touches _ _ _)
        exact ⟨rfl, rfl, rfl, tracked.mintTracking, fun _ _ => rfl, tracked.inProgress⟩
      · rw [abandonMint_view]
        exact mapError_eq_ok.mp cancels

omit [FloatFormat] in
theorem dropped_mint_iff : Dropped symbol (some id) none reactor ↔
    reactor.equityInProgress symbol = none ∧ reactor.mintTracking.lookup id = none := by
  constructor
  · intro dropped
    exact ⟨dropped.free, dropped.mint id rfl⟩
  · rintro ⟨free, untracked⟩
    refine ⟨free, ?_, nofun⟩
    rintro _ ⟨⟩
    exact untracked

/-- A mint's claim that is rolled back is undone exactly where it reverts. -/
theorem undone_mint_iff
    (claims : reactor.rebuildMintTrackingForRecovery now id
      (.failed symbol quantity reason requestedAt failedAt) tokenizationRequestId =
        (claimed, .ok (.claimed rollback)))
    (rolls : claimed.rollbackMintTrackingForRecovery later id symbol quantity rollback =
      (final, .ok ())) :
    Undone reactor final ↔ MintReverts reactor id symbol quantity later := by
  cases timeout : reactor.timedOutMints id with
  | some timedOutAt =>
      obtain ⟨touches, dropped, between, updates, clears⟩ :=
        timedOutMint_rolledBack timeout claims rolls
      rw [touches.undone_iff dropped, dropped_mint_iff,
        EquityView.cleared_restores_iff updates clears]
      constructor
      · rintro ⟨reverts, free, untracked⟩
        exact ⟨free, untracked, fun _ => reverts, by simp [timeout], by simp [timeout]⟩
      · intro reverts
        exact ⟨reverts.timedOut (by simp [timeout]), reverts.free, reverts.untracked⟩
  | none =>
      by_cases inFlight : ∃ balance, (reactor.view.equity symbol).getVenue .hedging = some balance ∧
          balance.inflight ≠ 0
      · obtain ⟨balance, held, nonzero⟩ := inFlight
        obtain ⟨touches, dropped, updates⟩ :=
          unheardMint_rolledBack timeout held nonzero claims rolls
        rw [touches.undone_iff dropped, dropped_mint_iff,
          EquityView.replaced_restores_iff updates held]
        constructor
        · rintro ⟨same, free, untracked⟩
          refine ⟨free, untracked, by simp [timeout], ?_, ?_⟩
          · intro _ other also _
            rw [held] at also
            cases also
            exact same
          · intro _ atRest
            exact absurd (atRest balance held) nonzero
        · intro reverts
          exact ⟨reverts.unheard timeout balance held nonzero, reverts.free, reverts.untracked⟩
      · have atRest : ∀ balance, (reactor.view.equity symbol).getVenue .hedging = some balance →
            balance.inflight = 0 := by
          intro balance held
          by_contra nonzero
          exact inFlight ⟨balance, held, nonzero⟩
        obtain ⟨touches, dropped, between, starts, cancels⟩ :=
          givenBackMint_rolledBack timeout atRest claims rolls
        rw [touches.undone_iff dropped, dropped_mint_iff,
          EquityView.cancelled_restores_iff starts cancels]
        constructor
        · rintro ⟨reverts, free, untracked⟩
          refine ⟨free, untracked, by simp [timeout], ?_, fun _ _ => reverts⟩
          intro _ balance held nonzero
          exact absurd (atRest balance held) nonzero
        · intro reverts
          exact ⟨reverts.givenBack timeout atRest, reverts.free, reverts.untracked⟩

end RolledBack

end Mints

/-! ## Redemptions -/

section Redemptions

variable {id : RedemptionAggregateId} {quantity : FractionalShares}

theorem abandonRedemption_view (reactor : EquityReactor) (id : RedemptionAggregateId)
    (symbol : Symbol) : (reactor.abandonRedemptionRecoveryGuard id symbol).view = reactor.view := by
  simp only [abandonRedemptionRecoveryGuard]
  split <;> rfl

theorem abandonRedemption_touches (reactor : EquityReactor) (id : RedemptionAggregateId)
    (symbol : Symbol) :
    Touches symbol none (some id) reactor (reactor.abandonRedemptionRecoveryGuard id symbol) := by
  have erased : ∀ other, some id ≠ some other →
      (reactor.redemptionTracking.erase id).lookup other =
        reactor.redemptionTracking.lookup other :=
    fun other differs => AList.lookup_erase_ne fun same => differs (by rw [same])
  have slots : ∀ other, other ≠ symbol →
      Function.update reactor.equityInProgress symbol none other =
        reactor.equityInProgress other := fun other differs => Function.update_of_ne differs _ _
  simp only [abandonRedemptionRecoveryGuard]
  split <;> exact ⟨rfl, rfl, rfl, fun _ _ => rfl, erased, slots⟩

theorem abandonRedemption_dropped (reactor : EquityReactor) (id : RedemptionAggregateId)
    (symbol : Symbol) :
    Dropped symbol none (some id) (reactor.abandonRedemptionRecoveryGuard id symbol) := by
  have erased : ∀ other, some id = some other →
      (reactor.redemptionTracking.erase id).lookup other = none := by
    rintro other ⟨⟩
    exact AList.lookup_erase _ _
  have free : Function.update reactor.equityInProgress symbol none symbol = none :=
    Function.update_self _ _ _
  simp only [abandonRedemptionRecoveryGuard]
  split <;> exact ⟨free, nofun, erased⟩

/-- A claim follows the redemption and takes the slot. -/
def followRedemption (reactor : EquityReactor) (now : Time) (id : RedemptionAggregateId)
    (symbol : Symbol) (quantity : FractionalShares)
    (tokenizationRequestId : Option TokenizationRequestId) (redemptionTx : Option TxHash) :
    EquityReactor :=
  { reactor with
    redemptionTracking := reactor.redemptionTracking.insert id
      ⟨symbol, quantity, tokenizationRequestId, redemptionTx, .tokensSent, now⟩
        }.markEquityActiveTransfer symbol

theorem followRedemption_touches (reactor : EquityReactor) (now : Time)
    (id : RedemptionAggregateId) (symbol : Symbol) (quantity : FractionalShares)
    (tokenizationRequestId : Option TokenizationRequestId) (redemptionTx : Option TxHash) :
    Touches symbol none (some id) reactor
      (reactor.followRedemption now id symbol quantity tokenizationRequestId redemptionTx) where
  timedOutMints := rfl
  timedOutRedemptions := rfl
  suppressed := rfl
  mintTracking _ _ := rfl
  redemptionTracking _ differs := AList.lookup_insert_ne fun same => differs (by rw [same])
  inProgress _ differs := Function.update_of_ne differs _ _

variable {reactor claimed final : EquityReactor} {now later : Time}
  {raindexWithdrawTx redemptionTx : Option TxHash}
  {tokenizationRequestId : Option TokenizationRequestId} {failureReason : Option String}
  {startedAt failedAt : Time} {rollback : RecoveryRollback}

/-- What a claim of a failed redemption does, if it succeeds. -/
theorem rebuildRedemption_claimed
    (claims : reactor.rebuildRedemptionTrackingForRecovery now id
      (.failed symbol quantity raindexWithdrawTx redemptionTx tokenizationRequestId failureReason
        startedAt failedAt) = (claimed, .ok (.claimed rollback))) :
    ∃ updated, reactor.restoreRedemptionInflight now id symbol quantity = .ok updated ∧
      rollback = (updated.consumeRedemptionTimeout id symbol).2 ∧
      claimed = (updated.consumeRedemptionTimeout id symbol).1.followRedemption now id symbol
        quantity tokenizationRequestId redemptionTx := by
  simp only [rebuildRedemptionTrackingForRecovery] at claims
  split at claims
  case isTrue => cases claims
  case isFalse =>
      split at claims
      case h_1 => cases claims
      case h_2 updated applied =>
          cases claims
          exact ⟨updated, applied, rfl, rfl⟩

/-- A claim that is refused or fails leaves everything as it was. -/
theorem rebuildRedemption_unchanged {after : EquityReactor}
    {answer : Except EquityReactorError RecoveryClaim}
    (claims : reactor.rebuildRedemptionTrackingForRecovery now id
      (.failed symbol quantity raindexWithdrawTx redemptionTx tokenizationRequestId failureReason
        startedAt failedAt) = (after, answer))
    (refused : ∀ rollback, answer ≠ .ok (.claimed rollback)) : after = reactor := by
  simp only [rebuildRedemptionTrackingForRecovery] at claims
  split at claims
  case isTrue =>
      cases claims
      rfl
  case isFalse =>
      split at claims
      case h_1 =>
          cases claims
          rfl
      case h_2 =>
          cases claims
          exact absurd rfl (refused _)

/-- Where a redemption's claim is undone: nobody followed the redemption or held the
slot, and what a timeout had zeroed was zero and stays so, the symbol having been
rebalanced no earlier. -/
structure RedemptionReverts (reactor : EquityReactor) (id : RedemptionAggregateId)
    (symbol : Symbol) (quantity : FractionalShares) (later : Time) : Prop where
  free : reactor.equityInProgress symbol = none
  untracked : reactor.redemptionTracking.lookup id = none
  timedOut : reactor.timedOutRedemptions id ≠ none →
    Inventory.Clears quantity ((reactor.view.equity symbol).getVenue .marketMaking) ∧
      later ≤ (reactor.view.equity symbol).lastRebalancing.getD 0

/-- After a timeout, the quantity is put in flight and zeroed again. -/
theorem timedOutRedemption_rolledBack {timedOutAt : Time}
    (timedOut : reactor.timedOutRedemptions id = some timedOutAt)
    (claims : reactor.rebuildRedemptionTrackingForRecovery now id
      (.failed symbol quantity raindexWithdrawTx redemptionTx tokenizationRequestId failureReason
        startedAt failedAt) = (claimed, .ok (.claimed rollback)))
    (rolls : claimed.rollbackRedemptionTrackingForRecovery later id symbol rollback =
      (final, .ok ())) :
    Touches symbol none (some id) reactor final ∧ Dropped symbol none (some id) final ∧
      ∃ between,
        reactor.view.updateEquity symbol (Inventory.setInflight .marketMaking quantity) now =
          .ok between ∧
        between.clearEquityInflight symbol .marketMaking later = .ok final.view := by
  obtain ⟨updated, restored, rfl, rfl⟩ := rebuildRedemption_claimed claims
  simp only [restoreRedemptionInflight, timedOut, Option.isSome_some, if_true] at restored
  obtain ⟨between, updates, restored⟩ := bind_eq_ok.mp restored
  cases restored
  simp only [consumeRedemptionTimeout, timedOut, rollbackRedemptionTrackingForRecovery] at rolls
  split at rolls
  case h_1 => cases rolls
  case h_2 view clears =>
      cases rolls
      refine ⟨?_, abandonRedemption_dropped _ _ _, between, mapError_eq_ok.mp updates, ?_⟩
      · have tracked := followRedemption_touches reactor now id symbol quantity
          tokenizationRequestId redemptionTx
        refine Touches.trans ?_ (abandonRedemption_touches _ _ _)
        rw [restoreSuppressed_eq _ (Function.update_self _ _ _)]
        exact ⟨rfl, update_back timedOut, update_back rfl, fun _ _ => rfl,
          tracked.redemptionTracking, tracked.inProgress⟩
      · rw [abandonRedemption_view, restoreSuppressed_eq _ (Function.update_self _ _ _)]
        exact clears

/-- Without one, the inventory is left alone. -/
theorem inTimeRedemption_rolledBack (inTime : reactor.timedOutRedemptions id = none)
    (claims : reactor.rebuildRedemptionTrackingForRecovery now id
      (.failed symbol quantity raindexWithdrawTx redemptionTx tokenizationRequestId failureReason
        startedAt failedAt) = (claimed, .ok (.claimed rollback)))
    (rolls : claimed.rollbackRedemptionTrackingForRecovery later id symbol rollback =
      (final, .ok ())) :
    Touches symbol none (some id) reactor final ∧ Dropped symbol none (some id) final ∧
      final.view = reactor.view := by
  obtain ⟨updated, restored, rfl, rfl⟩ := rebuildRedemption_claimed claims
  simp only [restoreRedemptionInflight, inTime] at restored
  cases restored
  simp only [consumeRedemptionTimeout, inTime, rollbackRedemptionTrackingForRecovery] at rolls
  cases rolls
  refine ⟨?_, abandonRedemption_dropped _ _ _, abandonRedemption_view _ _ _⟩
  exact (followRedemption_touches _ _ _ _ _ _ _).trans (abandonRedemption_touches _ _ _)

theorem dropped_redemption_iff : Dropped symbol none (some id) reactor ↔
    reactor.equityInProgress symbol = none ∧ reactor.redemptionTracking.lookup id = none := by
  constructor
  · intro dropped
    exact ⟨dropped.free, dropped.redemption id rfl⟩
  · rintro ⟨free, untracked⟩
    refine ⟨free, nofun, ?_⟩
    rintro _ ⟨⟩
    exact untracked

theorem undone_redemption_iff
    (claims : reactor.rebuildRedemptionTrackingForRecovery now id
      (.failed symbol quantity raindexWithdrawTx redemptionTx tokenizationRequestId failureReason
        startedAt failedAt) = (claimed, .ok (.claimed rollback)))
    (rolls : claimed.rollbackRedemptionTrackingForRecovery later id symbol rollback =
      (final, .ok ())) :
    Undone reactor final ↔ RedemptionReverts reactor id symbol quantity later := by
  cases timeout : reactor.timedOutRedemptions id with
  | some timedOutAt =>
      obtain ⟨touches, dropped, between, updates, clears⟩ :=
        timedOutRedemption_rolledBack timeout claims rolls
      rw [touches.undone_iff dropped, dropped_redemption_iff,
        EquityView.cleared_restores_iff updates clears]
      constructor
      · rintro ⟨reverts, free, untracked⟩
        exact ⟨free, untracked, fun _ => reverts⟩
      · intro reverts
        exact ⟨reverts.timedOut (by simp [timeout]), reverts.free, reverts.untracked⟩
  | none =>
      obtain ⟨touches, dropped, same⟩ := inTimeRedemption_rolledBack timeout claims rolls
      rw [touches.undone_iff dropped, dropped_redemption_iff, same]
      constructor
      · rintro ⟨_, free, untracked⟩
        exact ⟨free, untracked, by simp [timeout]⟩
      · intro reverts
        exact ⟨EquityView.Restores.refl _, reverts.free, reverts.untracked⟩

end Redemptions

/-! ## Every claim -/

/-- Claims that are rolled back are undone exactly where they revert, and claims
that are refused or fail leave everything as it was. -/
theorem rolled_back_claim_undone_iff [FloatFormat] (reactor : EquityReactor) (symbol : Symbol)
    (quantity : FractionalShares) (now later : Time) :
    (∀ id reason requestedAt failedAt tokenizationRequestId,
      (∀ claimed rollback final,
        reactor.rebuildMintTrackingForRecovery now id
          (.failed symbol quantity reason requestedAt failedAt) tokenizationRequestId =
            (claimed, .ok (.claimed rollback)) →
        claimed.rollbackMintTrackingForRecovery later id symbol quantity rollback =
          (final, .ok ()) →
        (Undone reactor final ↔ MintReverts reactor id symbol quantity later)) ∧
      ∀ after answer,
        reactor.rebuildMintTrackingForRecovery now id
          (.failed symbol quantity reason requestedAt failedAt) tokenizationRequestId =
            (after, answer) →
        (∀ rollback, answer ≠ .ok (.claimed rollback)) → after = reactor) ∧
    (∀ id raindexWithdrawTx redemptionTx tokenizationRequestId failureReason startedAt failedAt,
      (∀ claimed rollback final,
        reactor.rebuildRedemptionTrackingForRecovery now id
          (.failed symbol quantity raindexWithdrawTx redemptionTx tokenizationRequestId
            failureReason startedAt failedAt) = (claimed, .ok (.claimed rollback)) →
        claimed.rollbackRedemptionTrackingForRecovery later id symbol rollback =
          (final, .ok ()) →
        (Undone reactor final ↔ RedemptionReverts reactor id symbol quantity later)) ∧
      ∀ after answer,
        reactor.rebuildRedemptionTrackingForRecovery now id
          (.failed symbol quantity raindexWithdrawTx redemptionTx tokenizationRequestId
            failureReason startedAt failedAt) = (after, answer) →
        (∀ rollback, answer ≠ .ok (.claimed rollback)) → after = reactor) := by
  refine ⟨?_, ?_⟩
  · intro id reason requestedAt failedAt tokenizationRequestId
    refine ⟨?_, ?_⟩
    · intro claimed rollback final claims rolls
      exact undone_mint_iff claims rolls
    · intro after answer claims refused
      exact rebuildMint_unchanged claims refused
  · intro id raindexWithdrawTx redemptionTx tokenizationRequestId failureReason startedAt failedAt
    refine ⟨?_, ?_⟩
    · intro claimed rollback final claims rolls
      exact undone_redemption_iff claims rolls
    · intro after answer claims refused
      exact rebuildRedemption_unchanged claims refused

/-- A mint of ten shares may have failed, with this much still in flight. -/
def failedMintReactor (inFlight : FractionalShares) : EquityReactor where
  view := { EquityView.empty with
    equities := AList.insert "AAPL" ⟨some ⟨100, 0⟩, some ⟨100, inFlight⟩, none⟩ ∅ }
  mintTracking := ∅
  redemptionTracking := ∅
  timedOutMints := fun _ => none
  timedOutRedemptions := fun _ => none
  suppressedInflightSymbols := fun _ => none
  activeMints := fun _ => none
  activeRedemptions := fun _ => none
  equityInProgress := fun _ => none
  nextGeneration := 1

/-- The mint is claimed at 5. -/
def claimedReactor (reactor : EquityReactor) :
    EquityReactor × Except EquityReactorError RecoveryClaim :=
  @rebuildMintTrackingForRecovery FloatFormat.exact reactor 5 ⟨"mint"⟩
    (.failed "AAPL" 10 "stuck" 0 0) ⟨"request"⟩

/-- And rolled back at 6. -/
def rolledBackReactor (reactor : EquityReactor) (rollback : RecoveryRollback) : Outcome :=
  @rollbackMintTrackingForRecovery FloatFormat.exact (claimedReactor reactor).1 6 ⟨"mint"⟩ "AAPL"
    10 rollback

theorem rolled_back_claim_undone_iff_unheard :
    Undone (failedMintReactor 10) (rolledBackReactor (failedMintReactor 10) .trackingOnly).1 := by
  have claims : claimedReactor (failedMintReactor 10) =
      ((claimedReactor (failedMintReactor 10)).1, .ok (.claimed .trackingOnly)) :=
    Prod.ext rfl (by decide +kernel)
  have rolls : rolledBackReactor (failedMintReactor 10) .trackingOnly =
      ((rolledBackReactor (failedMintReactor 10) .trackingOnly).1, .ok ()) :=
    Prod.ext rfl (by decide +kernel)
  have every := (@rolled_back_claim_undone_iff FloatFormat.exact (failedMintReactor 10) "AAPL" 10 5
    6).1 ⟨"mint"⟩ "stuck" 0 0 ⟨"request"⟩
  refine (every.1 _ _ _ claims rolls).mpr ?_
  have held : ((failedMintReactor 10).view.equity "AAPL").getVenue .hedging = some ⟨100, 10⟩ := by
    decide +kernel
  refine @MintReverts.mk FloatFormat.exact _ _ _ _ _ rfl rfl (fun timeout => absurd rfl timeout) ?_
    ?_
  · intro _ balance same _
    rw [held] at same
    cases same
    rfl
  · intro _ atRest
    exact absurd (atRest _ held) (by decide +kernel)

/-- What a heard failure gave back is given back again, and a reading from before
that is refused which would have been taken over. -/
theorem rolled_back_claim_refuses_reading :
    (claimedReactor (failedMintReactor 0)).2 = .ok (.claimed .cancelInflight) ∧
      (rolledBackReactor (failedMintReactor 0) .cancelInflight).2 = .ok () ∧
      ¬ Undone (failedMintReactor 0)
        (rolledBackReactor (failedMintReactor 0) .cancelInflight).1 := by
  refine ⟨by decide +kernel, by decide +kernel, ?_⟩
  intro undone
  have taken : (failedMintReactor 0).view.equitySnapshotWouldApply "AAPL" .marketMaking 4 := by
    decide +kernel
  have still := undone.view.readings _ _ _ taken
  exact absurd still (by decide +kernel)

end EquityReactor

end Liquidity
