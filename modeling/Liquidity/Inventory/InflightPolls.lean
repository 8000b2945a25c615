import Liquidity.Inventory.View

/-!
# Polls of the issuer's pending requests

Transfers of equities put their shares in flight through events. The issuer is
polled as well, and a poll replaces what is in flight: a symbol it lists is set
to what it lists, and one the poll before listed and it does not is zeroed.
-/

namespace Liquidity

namespace EquityView

/-- A poll that was fetched before the symbol was last rebalanced. -/
def isStaleForSymbol (view : EquityView) (symbol : Symbol) (fetchedAt : Time) : Bool :=
  (view.equity symbol).lastRebalancing.any (fetchedAt < ·)

/-- Take over one amount of a poll. -/
def setPolled (venue : Venue) (fetchedAt now : Time) (view : EquityView)
    (reading : Symbol × FractionalShares) : Except InventoryError EquityView :=
  if view.isStaleForSymbol reading.1 fetchedAt then .ok view
  else view.updateEquity reading.1 (Inventory.setInflight venue reading.2) now

def listing (balances : Balances) : List (Symbol × FractionalShares) :=
  balances.entries.map fun entry => (entry.1, entry.2)

/-- The symbols the poll before listed and this one does not. A listed symbol is
tracked from then on, so they are among those that are. -/
def disappeared (view : EquityView) (previous : Finset Symbol) (balances : Balances) :
    List (Symbol × FractionalShares) :=
  (view.equities.keys.filter fun symbol => symbol ∈ previous && symbol ∉ balances).map
    fun symbol => (symbol, 0)

/-- Mints are in flight at Hedging, redemptions at MarketMaking. -/
def applyInflightSnapshot (view : EquityView) (mints redemptions : Balances)
    (fetchedAt now : Time) : Except InventoryError EquityView := do
  let previousMints := view.previousInflightMintSymbols
  let previousRedemptions := view.previousInflightRedemptionSymbols
  let listed ← (listing mints).foldlM (setPolled .hedging fetchedAt now) view
  let listed ← (listing redemptions).foldlM (setPolled .marketMaking fetchedAt now) listed
  let zeroed ← (listed.disappeared previousMints mints).foldlM
    (setPolled .hedging fetchedAt now) listed
  let zeroed ← (zeroed.disappeared previousRedemptions redemptions).foldlM
    (setPolled .marketMaking fetchedAt now) zeroed
  return { zeroed with
    previousInflightMintSymbols := mints.keys.toFinset
    previousInflightRedemptionSymbols := redemptions.keys.toFinset }

def clearPreviousInflightMintMarker (view : EquityView) (symbol : Symbol) : EquityView :=
  { view with previousInflightMintSymbols := view.previousInflightMintSymbols.erase symbol }

def clearPreviousInflightRedemptionMarker (view : EquityView) (symbol : Symbol) : EquityView :=
  { view with
    previousInflightRedemptionSymbols := view.previousInflightRedemptionSymbols.erase symbol }

/-! ## What a poll does to one symbol -/

/-- Replace what is in flight at a venue, or leave it. -/
def replaced (amount : Option FractionalShares) (balance : VenueBalance) : VenueBalance :=
  match amount with
  | some inflight => ⟨balance.available, inflight⟩
  | none => balance

/-- The symbol's inventory differs by what one poll says about one venue. -/
structure Replaces (venue : Venue) (amount : Option FractionalShares)
    (before after : Inventory) : Prop where
  balance : after.balance venue = replaced amount (before.balance venue)
  other : after.balance venue.other = before.balance venue.other
  lastRebalancing : after.lastRebalancing = before.lastRebalancing

theorem Replaces.refl (venue : Venue) (inventory : Inventory) :
    Replaces venue none inventory inventory := ⟨rfl, rfl, rfl⟩

theorem setInflight_replaces (inventory : Inventory) {amount : FractionalShares}
    (venue : Venue) (nonneg : 0 ≤ amount) :
    ∃ after, inventory.setInflight venue amount = .ok after ∧
      Replaces venue (some amount) inventory after := by
  unfold Inventory.setInflight
  by_cases untouched : inventory.getVenue venue = none ∧ amount = 0
  · refine ⟨inventory, by simp [untouched], ?_, rfl, rfl⟩
    simp [replaced, Inventory.balance, untouched, VenueBalance.zero]
  · have real : (inventory.getVenue venue = none && decide (amount = 0)) = false := by
      simpa using untouched
    have notNegative : ¬ amount < 0 := not_lt.mpr nonneg
    refine ⟨inventory.setVenue venue
      (some ⟨(inventory.balance venue).available, amount⟩), ?_, ?_, ?_, ?_⟩
    · simp [real, VenueBalance.setInflight, notNegative, bind, Except.bind, pure, Except.pure]
    · simp [replaced]
    · simp
    · cases venue <;> rfl

/-- What a list of readings says about a symbol, unless it is stale. -/
def saidOf (view : EquityView) (fetchedAt : Time) (said : List (Symbol × FractionalShares))
    (symbol : Symbol) : Option FractionalShares :=
  if view.isStaleForSymbol symbol fetchedAt then none else said.lookup symbol

theorem lookup_eq_none_of_not_mem {said : List (Symbol × FractionalShares)} {symbol : Symbol}
    (absent : symbol ∉ said.map Prod.fst) : said.lookup symbol = none := by
  rw [List.lookup_eq_none_iff]
  intro reading listed
  have other : symbol ≠ reading.1 := by
    rintro rfl
    exact absent (List.mem_map.mpr ⟨reading, listed, rfl⟩)
  simpa using other

/-- The markers and everything but the inventories stand. -/
structure KeepsMarkers (before after : EquityView) : Prop where
  mints : after.previousInflightMintSymbols = before.previousInflightMintSymbols
  redemptions : after.previousInflightRedemptionSymbols = before.previousInflightRedemptionSymbols

/-- One pass over a poll: each symbol takes over what is said of it. -/
theorem setPolled_pass (venue : Venue) (fetchedAt now : Time)
    {said : List (Symbol × FractionalShares)} (distinct : (said.map Prod.fst).Nodup)
    (nonneg : ∀ reading ∈ said, 0 ≤ reading.2) (view : EquityView) :
    ∃ after, said.foldlM (setPolled venue fetchedAt now) view = .ok after ∧
      KeepsMarkers view after ∧
      ∀ symbol, Replaces venue (view.saidOf fetchedAt said symbol) (view.equity symbol)
        (after.equity symbol) := by
  induction said generalizing view with
  | nil =>
      refine ⟨view, rfl, ⟨rfl, rfl⟩, fun symbol => ?_⟩
      simpa [saidOf] using Replaces.refl venue (view.equity symbol)
  | cons head rest ih =>
      obtain ⟨symbol₀, amount₀⟩ := head
      simp only [List.map_cons, List.nodup_cons] at distinct
      have later := fun view =>
        ih distinct.2 (fun reading mem => nonneg reading (List.mem_cons_of_mem _ mem)) view
      by_cases stale : view.isStaleForSymbol symbol₀ fetchedAt
      · obtain ⟨after, ran, kept, took⟩ := later view
        refine ⟨after, ?_, kept, fun symbol => ?_⟩
        · rw [List.foldlM_cons, setPolled, if_pos stale]
          exact ran
        · by_cases same : symbol = symbol₀
          · subst same
            simpa [saidOf, stale] using took symbol
          · have differs : (symbol == symbol₀) = false := by simpa using same
            simpa [saidOf, List.lookup_cons, differs] using took symbol
      · obtain ⟨updated, sets, replaces⟩ := setInflight_replaces (view.equity symbol₀)
          venue (nonneg _ List.mem_cons_self)
        let next : EquityView :=
          { view with equities := view.equities.insert symbol₀ updated, lastUpdated := now }
        have step : setPolled venue fetchedAt now view (symbol₀, amount₀) = .ok next := by
          simp [setPolled, stale, updateEquity, sets, bind, Except.bind, pure, Except.pure, next]
        have own : next.equity symbol₀ = updated := by simp [next, equity]
        have others : ∀ symbol, symbol ≠ symbol₀ → next.equity symbol = view.equity symbol := by
          intro symbol other
          simp [next, equity, AList.lookup_insert_ne other]
        obtain ⟨after, ran, kept, took⟩ := later next
        refine ⟨after, ?_, ⟨kept.mints, kept.redemptions⟩, fun symbol => ?_⟩
        · rw [List.foldlM_cons, step]
          exact ran
        · by_cases same : symbol = symbol₀
          · subst same
            -- Later readings are about other symbols.
            have silent : next.saidOf fetchedAt rest symbol = none := by
              simp [saidOf, lookup_eq_none_of_not_mem distinct.1]
            have rests := took symbol
            rw [silent, own] at rests
            have now₀ : view.saidOf fetchedAt ((symbol, amount₀) :: rest) symbol = some amount₀ := by
              simp [saidOf, stale]
            rw [now₀]
            exact ⟨rests.balance.trans replaces.balance, rests.other.trans replaces.other,
              rests.lastRebalancing.trans replaces.lastRebalancing⟩
          · have differs : (symbol == symbol₀) = false := by simpa using same
            have rests := took symbol
            have silent : next.saidOf fetchedAt rest symbol =
                view.saidOf fetchedAt ((symbol₀, amount₀) :: rest) symbol := by
              simp [saidOf, isStaleForSymbol, others symbol same, List.lookup_cons, differs]
            rw [silent, others symbol same] at rests
            exact rests

/-- What a poll says of a symbol at one venue: the amount it lists, or that the
request is gone which the poll before listed. -/
def polled (view : EquityView) (previous : Finset Symbol) (balances : Balances) (fetchedAt : Time)
    (symbol : Symbol) : Option FractionalShares :=
  if view.isStaleForSymbol symbol fetchedAt then none
  else
    match balances.lookup symbol with
    | some amount => some amount
    | none => if symbol ∈ previous then some 0 else none

theorem lookup_listing (balances : Balances) (symbol : Symbol) :
    (listing balances).lookup symbol = balances.lookup symbol := by
  have general : ∀ entries : List (Sigma fun _ : Symbol => FractionalShares),
      (entries.map fun entry => (entry.1, entry.2)).lookup symbol = entries.dlookup symbol := by
    intro entries
    induction entries with
    | nil => rfl
    | cons head rest ih =>
        obtain ⟨key, amount⟩ := head
        by_cases same : symbol = key
        · subst same
          simp
        · have differs : (symbol == key) = false := by simpa using same
          simp only [List.map_cons, List.lookup_cons, differs, ih]
          exact (List.dlookup_cons_ne rest ⟨key, amount⟩ (Ne.symm same ∘ Eq.symm)).symm
  exact general balances.entries

theorem nodup_listing (balances : Balances) : ((listing balances).map Prod.fst).Nodup := by
  have keys : (listing balances).map Prod.fst = balances.keys := by
    simp [listing, AList.keys, List.keys]
  rw [keys]
  exact balances.nodupKeys

theorem disappeared_distinct (view : EquityView) (previous : Finset Symbol)
    (balances : Balances) : ((view.disappeared previous balances).map Prod.fst).Nodup := by
  have keys : (view.disappeared previous balances).map Prod.fst =
      view.equities.keys.filter fun symbol => symbol ∈ previous && symbol ∉ balances := by
    simp [disappeared, List.map_map, Function.comp_def]
  rw [keys]
  exact (view.equities.nodupKeys : view.equities.keys.Nodup).filter _

theorem lookup_disappeared (view : EquityView) (previous : Finset Symbol) (balances : Balances)
    (symbol : Symbol) :
    (view.disappeared previous balances).lookup symbol =
      if symbol ∈ view.equities ∧ symbol ∈ previous ∧ symbol ∉ balances then some 0 else none := by
  have general : ∀ symbols : List Symbol,
      (symbols.map fun symbol => (symbol, (0 : FractionalShares))).lookup symbol =
        if symbol ∈ symbols then some 0 else none := by
    intro symbols
    induction symbols with
    | nil => rfl
    | cons head rest ih =>
        by_cases same : symbol = head
        · subst same
          simp
        · have differs : (symbol == head) = false := by simpa using same
          simp [List.lookup_cons, differs, ih, same]
  rw [disappeared, general]
  simp [List.mem_filter, AList.mem_keys]

/-- A listed amount and a disappearance are said of different symbols, so two
passes over one venue amount to what the poll says of it. -/
theorem polled_of_passes {first second : EquityView} (previous : Finset Symbol)
    {balances : Balances} {fetchedAt : Time} {symbol : Symbol} {balance balance' : VenueBalance}
    (stood : (second.equity symbol).lastRebalancing = (first.equity symbol).lastRebalancing)
    (listed : balance' = replaced (first.saidOf fetchedAt (listing balances) symbol) balance)
    (untracked : symbol ∉ second.equities → balance' = .zero) :
    replaced (second.saidOf fetchedAt (second.disappeared previous balances) symbol) balance' =
      replaced (first.polled previous balances fetchedAt symbol) balance := by
  have staleness : second.isStaleForSymbol symbol fetchedAt =
      first.isStaleForSymbol symbol fetchedAt := by
    simp only [isStaleForSymbol, stood]
  unfold saidOf polled
  rw [staleness]
  unfold saidOf at listed
  by_cases stale : first.isStaleForSymbol symbol fetchedAt
  · simpa [stale, replaced] using listed
  · simp only [stale, lookup_listing] at listed ⊢
    simp only [Bool.false_eq_true, if_false] at listed ⊢
    rw [lookup_disappeared]
    cases found : balances.lookup symbol with
    | some amount =>
        have present : symbol ∈ balances := AList.lookup_isSome.mp (by simp [found])
        simpa [present, replaced, found] using listed
    | none =>
        have absent : symbol ∉ balances := AList.lookup_eq_none.mp found
        have same : balance' = balance := by simpa [found, replaced] using listed
        by_cases marked : symbol ∈ previous
        · by_cases tracked : symbol ∈ second.equities
          · simp [tracked, marked, absent, replaced, same]
          · have nothing := untracked tracked
            simp [tracked, marked, replaced, ← same, nothing, VenueBalance.zero]
        · simp [marked, replaced, same]

theorem polled_congr {view other : EquityView} {symbol : Symbol}
    (stood : (view.equity symbol).lastRebalancing = (other.equity symbol).lastRebalancing)
    {previous : Finset Symbol} {balances : Balances} {fetchedAt : Time} :
    view.polled previous balances fetchedAt symbol =
      other.polled previous balances fetchedAt symbol := by
  unfold polled isStaleForSymbol
  rw [stood]

/-- What a poll leaves behind. -/
structure HearsPoll (mints redemptions : Balances) (fetchedAt : Time)
    (before after : EquityView) : Prop where
  mintMarkers : after.previousInflightMintSymbols = mints.keys.toFinset
  redemptionMarkers : after.previousInflightRedemptionSymbols = redemptions.keys.toFinset
  hedging : ∀ symbol, (after.equity symbol).balance .hedging =
    replaced (before.polled before.previousInflightMintSymbols mints fetchedAt symbol)
      ((before.equity symbol).balance .hedging)
  marketMaking : ∀ symbol, (after.equity symbol).balance .marketMaking =
    replaced (before.polled before.previousInflightRedemptionSymbols redemptions fetchedAt symbol)
      ((before.equity symbol).balance .marketMaking)
  lastRebalancing : ∀ symbol,
    (after.equity symbol).lastRebalancing = (before.equity symbol).lastRebalancing

theorem equity_of_untracked {view : EquityView} {symbol : Symbol}
    (untracked : symbol ∉ view.equities) (venue : Venue) :
    (view.equity symbol).balance venue = .zero := by
  have absent : view.equities.lookup symbol = none := AList.lookup_eq_none.mpr untracked
  cases venue <;> simp [equity, absent, Inventory.empty, Inventory.balance, Inventory.getVenue]

/-- A poll of amounts that are not negative is always taken over. -/
theorem applyInflightSnapshot_ok (view : EquityView) {mints redemptions : Balances}
    (fetchedAt now : Time) (minted : ∀ reading ∈ listing mints, 0 ≤ reading.2)
    (redeemed : ∀ reading ∈ listing redemptions, 0 ≤ reading.2) :
    ∃ after, view.applyInflightSnapshot mints redemptions fetchedAt now = .ok after ∧
      HearsPoll mints redemptions fetchedAt view after := by
  have zeroes : ∀ (view : EquityView) previous balances,
      ∀ reading ∈ view.disappeared previous balances, 0 ≤ reading.2 := by
    intro view previous balances reading listed
    obtain ⟨symbol, _, rfl⟩ := List.mem_map.mp listed
    exact le_refl _
  obtain ⟨first, ran₁, kept₁, took₁⟩ := setPolled_pass .hedging fetchedAt now
    (nodup_listing mints) minted view
  obtain ⟨second, ran₂, kept₂, took₂⟩ := setPolled_pass .marketMaking fetchedAt now
    (nodup_listing redemptions) redeemed first
  obtain ⟨third, ran₃, kept₃, took₃⟩ := setPolled_pass .hedging fetchedAt now
    (second.disappeared_distinct view.previousInflightMintSymbols mints) (zeroes _ _ _) second
  obtain ⟨fourth, ran₄, kept₄, took₄⟩ := setPolled_pass .marketMaking fetchedAt now
    (third.disappeared_distinct view.previousInflightRedemptionSymbols redemptions) (zeroes _ _ _)
    third
  have stood₁ := fun symbol => (took₁ symbol).lastRebalancing
  have stood₂ := fun symbol => (took₂ symbol).lastRebalancing.trans (stood₁ symbol)
  have stood₃ := fun symbol => (took₃ symbol).lastRebalancing.trans (stood₂ symbol)
  have listed₁ : ∀ symbol, (second.equity symbol).balance .hedging =
      replaced (view.saidOf fetchedAt (listing mints) symbol)
        ((view.equity symbol).balance .hedging) :=
    fun symbol => (took₂ symbol).other.trans (took₁ symbol).balance
  have listed₂ : ∀ symbol, (third.equity symbol).balance .marketMaking =
      replaced (first.saidOf fetchedAt (listing redemptions) symbol)
        ((view.equity symbol).balance .marketMaking) := by
    intro symbol
    have before : (first.equity symbol).balance .marketMaking =
        (view.equity symbol).balance .marketMaking := (took₁ symbol).other
    rw [← before]
    exact (took₃ symbol).other.trans (took₂ symbol).balance
  let after : EquityView :=
    { fourth with
      previousInflightMintSymbols := mints.keys.toFinset
      previousInflightRedemptionSymbols := redemptions.keys.toFinset }
  have ran : view.applyInflightSnapshot mints redemptions fetchedAt now = .ok after := by
    simp only [applyInflightSnapshot, ran₁, ran₂, ran₃, ran₄, bind, Except.bind, pure,
      Except.pure, after]
  refine ⟨after, ran, rfl, rfl, fun symbol => ?_, fun symbol => ?_, fun symbol => ?_⟩
  · have last : (fourth.equity symbol).balance .hedging = _ :=
      (took₄ symbol).other.trans (took₃ symbol).balance
    exact last.trans (polled_of_passes _ (stood₂ symbol) (listed₁ symbol)
      fun untracked => equity_of_untracked untracked .hedging)
  · have last : (fourth.equity symbol).balance .marketMaking = _ := (took₄ symbol).balance
    have passes := polled_of_passes view.previousInflightRedemptionSymbols
      ((stood₃ symbol).trans (stood₁ symbol).symm) (listed₂ symbol)
      fun untracked => equity_of_untracked untracked .marketMaking
    rw [polled_congr (stood₁ symbol)] at passes
    exact last.trans passes
  · exact (took₄ symbol).lastRebalancing.trans (stood₃ symbol)

end EquityView

end Liquidity
