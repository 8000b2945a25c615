import Liquidity.Inventory
import Mathlib.Data.List.AList
import Mathlib.Data.Finset.Basic

/-!
# The inventory view

The bot's mirror of what it holds: the balances of every equity at both venues,
and what the wallets between them were last seen to hold. Polls arrive late and
out of order, so a reading carries the time it was fetched at, and the view
remembers per symbol how fresh the reading was that it last took over.

This is the source's `InventoryView` as the equity side reads and writes it. What
only the transfers of cash use is with their reactor.

The Hedging venue has a second writer. While a hedge order is open the symbol is
pending there and readings are skipped; a reading fetched before the last fill
was applied is skipped as well.
-/

namespace Liquidity

/-- Amounts by symbol: a complete reading of one venue or wallet. -/
abbrev Balances := AList fun _ : Symbol => FractionalShares

inductive InFlightCashLocation where
  | ethereumWallet
  | baseWallet
  deriving DecidableEq, Repr

inductive InFlightEquityLocation where
  | baseWalletUnwrapped
  | baseWalletWrapped
  deriving DecidableEq, Repr

/-- A wallet reading and when it was fetched. -/
structure InFlightEntry where
  amount : ℚ
  fetchedAt : Time
  deriving DecidableEq

/-- The part of the source's `InventoryView` that equities go through. -/
structure EquityView where
  equities : AList fun _ : Symbol => Inventory
  usdc : Inventory
  lastUpdated : Time
  inflightCash : InFlightCashLocation → Option InFlightEntry
  inflightEquity : AList fun _ : Symbol × InFlightEquityLocation => InFlightEntry
  /-- Symbols the most recent poll of pending mints listed. -/
  previousInflightMintSymbols : Finset Symbol
  previousInflightRedemptionSymbols : Finset Symbol
  onchainEquitySnapshotWatermarks : Symbol → Option Time
  offchainEquitySnapshotWatermarks : Symbol → Option Time
  pendingOffchainOrderSymbols : Finset Symbol
  /-- When the view last took over a fill, on the clock that stamps readings. -/
  lastOffchainFillAppliedAt : Symbol → Option Time

namespace EquityView

def empty : EquityView where
  equities := ∅
  usdc := .empty
  lastUpdated := 0
  inflightCash := fun _ => none
  inflightEquity := ∅
  previousInflightMintSymbols := ∅
  previousInflightRedemptionSymbols := ∅
  onchainEquitySnapshotWatermarks := fun _ => none
  offchainEquitySnapshotWatermarks := fun _ => none
  pendingOffchainOrderSymbols := ∅
  lastOffchainFillAppliedAt := fun _ => none

/-- A symbol's inventory, empty if it is not tracked. -/
def equity (view : EquityView) (symbol : Symbol) : Inventory :=
  (view.equities.lookup symbol).getD .empty

def updateEquity (view : EquityView) (symbol : Symbol)
    (update : Inventory → Except InventoryError Inventory) (now : Time) :
    Except InventoryError EquityView := do
  let updated ← update (view.equity symbol)
  return { view with equities := view.equities.insert symbol updated, lastUpdated := now }

def updateUsdc (view : EquityView) (update : Inventory → Except InventoryError Inventory)
    (now : Time) : Except InventoryError EquityView := do
  let updated ← update view.usdc
  return { view with usdc := updated, lastUpdated := now }

/-! ## Readings of a venue -/

def equitySnapshotWatermark (view : EquityView) (symbol : Symbol) : Venue → Option Time
  | .marketMaking => view.onchainEquitySnapshotWatermarks symbol
  | .hedging => view.offchainEquitySnapshotWatermarks symbol

/-- Watermarks never go back. -/
def raised (watermarks : Symbol → Option Time) (symbols : List Symbol) (fetchedAt : Time) :
    Symbol → Option Time := fun symbol =>
  if symbol ∈ symbols then some (((watermarks symbol).getD fetchedAt).max fetchedAt)
  else watermarks symbol

def recordEquitySnapshotWatermarks (view : EquityView) (venue : Venue) (symbols : List Symbol)
    (fetchedAt : Time) : EquityView :=
  match venue with
  | .marketMaking =>
      { view with
        onchainEquitySnapshotWatermarks :=
          raised view.onchainEquitySnapshotWatermarks symbols fetchedAt }
  | .hedging =>
      { view with
        offchainEquitySnapshotWatermarks :=
          raised view.offchainEquitySnapshotWatermarks symbols fetchedAt }

/-- Only the Hedging venue has a second writer to yield to. -/
def yieldsToFills (view : EquityView) (symbol : Symbol) (venue : Venue) (fetchedAt : Time) :
    Bool :=
  match venue with
  | .marketMaking => false
  | .hedging =>
      symbol ∈ view.pendingOffchainOrderSymbols ||
        (view.lastOffchainFillAppliedAt symbol).any (fetchedAt < ·)

def equitySnapshotWouldApply (view : EquityView) (symbol : Symbol) (venue : Venue)
    (fetchedAt : Time) : Bool :=
  if (view.equitySnapshotWatermark symbol venue).any (fetchedAt ≤ ·) then false
  else if view.yieldsToFills symbol venue fetchedAt then false
  else
    match view.equities.lookup symbol with
    | none => true
    | some inventory =>
        !inventory.hasInflight && !inventory.lastRebalancing.any (fetchedAt < ·)

/-- Symbols tracked at the venue that a reading omits: they have gone to zero. -/
def absentZeroes (view : EquityView) (venue : Venue) (balances : Balances) :
    List (Symbol × FractionalShares) :=
  (view.equities.entries.filter fun entry =>
    (entry.2.getVenue venue).isSome && entry.1 ∉ balances).map fun entry => (entry.1, 0)

/-- One balance of a reading, with the symbols that took theirs over so far. -/
def applyBalance (venue : Venue) (fetchedAt now : Time) (sofar : EquityView × List Symbol)
    (reading : Symbol × FractionalShares) : Except InventoryError (EquityView × List Symbol) :=
  if sofar.1.equitySnapshotWouldApply reading.1 venue fetchedAt then do
    let view ← sofar.1.updateEquity reading.1 (Inventory.onSnapshot venue reading.2 fetchedAt) now
    return (view, sofar.2 ++ [reading.1])
  else return sofar

def applyEquitySnapshot (view : EquityView) (venue : Venue) (balances : Balances)
    (fetchedAt now : Time) : Except InventoryError EquityView := do
  let snapshot := balances.entries.map fun entry => (entry.1, entry.2)
  let (applied, appliedSymbols) ← (snapshot ++ view.absentZeroes venue balances).foldlM
    (applyBalance venue fetchedAt now) (view, [])
  return applied.recordEquitySnapshotWatermarks venue appliedSymbols fetchedAt

/-! ## The second writer -/

def markOffchainOrderPending (view : EquityView) (symbol : Symbol) : EquityView :=
  { view with pendingOffchainOrderSymbols := insert symbol view.pendingOffchainOrderSymbols }

/-- `appliedFillAt` is when a fill was applied; nothing was for a failed or
cancelled order. -/
def clearOffchainOrderPending (view : EquityView) (symbol : Symbol)
    (appliedFillAt : Option Time) : EquityView :=
  { view with
    pendingOffchainOrderSymbols := view.pendingOffchainOrderSymbols.erase symbol
    lastOffchainFillAppliedAt :=
      match appliedFillAt with
      | some time => Function.update view.lastOffchainFillAppliedAt symbol (some time)
      | none => view.lastOffchainFillAppliedAt }

/-! ## Readings of the wallets -/

/-- An older reading than the one kept is dropped. -/
def setInflightCash (view : EquityView) (location : InFlightCashLocation) (amount : Usdc)
    (fetchedAt now : Time) : EquityView :=
  if (view.inflightCash location).any (fetchedAt < ·.fetchedAt) then view
  else
    { view with
      inflightCash := Function.update view.inflightCash location (some ⟨amount, fetchedAt⟩)
      lastUpdated := now }

/-- Drop every entry at a location. -/
def clearedAt (entries : AList fun _ : Symbol × InFlightEquityLocation => InFlightEntry)
    (location : InFlightEquityLocation) :
    AList fun _ : Symbol × InFlightEquityLocation => InFlightEntry where
  entries := entries.entries.filter (·.1.2 ≠ location)
  nodupKeys := entries.nodupKeys.sublist List.filter_sublist

/-- A reading is dropped when any entry at its location is fresher; otherwise it
replaces all of them. -/
def setInflightEquityAtLocation (view : EquityView) (location : InFlightEquityLocation)
    (balances : Balances) (fetchedAt now : Time) : EquityView :=
  let isStale := view.inflightEquity.entries.any fun entry =>
    entry.1.2 = location && fetchedAt < entry.2.fetchedAt
  if isStale then view
  else
    { view with
      inflightEquity := balances.entries.foldl
        (fun kept entry => kept.insert (entry.1, location) ⟨entry.2, fetchedAt⟩)
        (clearedAt view.inflightEquity location)
      lastUpdated := now }

/-! ## What a reading does to one symbol -/

/-- What the view keeps about one symbol at one venue. -/
structure Slot where
  inventory : Option Inventory
  watermark : Option Time
  pending : Bool
  lastFill : Option Time
  deriving DecidableEq

def slot (view : EquityView) (venue : Venue) (symbol : Symbol) : Slot where
  inventory := view.equities.lookup symbol
  watermark := view.equitySnapshotWatermark symbol venue
  pending := symbol ∈ view.pendingOffchainOrderSymbols
  lastFill := view.lastOffchainFillAppliedAt symbol

namespace Slot

/-- Nothing was ever recorded about the symbol. -/
def fresh : Slot := ⟨none, none, false, none⟩

/-- The symbol's balance at the venue, if it is tracked there. -/
def held (slot : Slot) (venue : Venue) : Option VenueBalance :=
  slot.inventory.bind (·.getVenue venue)

def yieldsToFills (slot : Slot) (fetchedAt : Time) : Venue → Bool
  | .marketMaking => false
  | .hedging => slot.pending || slot.lastFill.any (fetchedAt < ·)

def wouldApply (slot : Slot) (venue : Venue) (fetchedAt : Time) : Bool :=
  if slot.watermark.any (fetchedAt ≤ ·) then false
  else if slot.yieldsToFills fetchedAt venue then false
  else
    match slot.inventory with
    | none => true
    | some inventory =>
        !inventory.hasInflight && !inventory.lastRebalancing.any (fetchedAt < ·)

/-- What a reading says about the symbol: it lists every balance there is, so
one it omits is zero where the symbol is tracked. -/
def reported (slot : Slot) (venue : Venue) (listed : Option FractionalShares) :
    Option FractionalShares :=
  if listed.isSome then listed else if (slot.held venue).isSome then some 0 else none

/-- The slot after a reading that lists this balance for the symbol, or none. -/
def receive (slot : Slot) (venue : Venue) (fetchedAt : Time) (listed : Option FractionalShares) :
    Slot :=
  match slot.reported venue listed with
  | none => slot
  | some amount =>
      if slot.wouldApply venue fetchedAt then
        { slot with
          inventory := some ((slot.inventory.getD .empty).setVenue venue (some ⟨amount, 0⟩))
          watermark := some fetchedAt }
      else slot

end Slot

theorem equitySnapshotWouldApply_eq (view : EquityView) (symbol : Symbol) (venue : Venue)
    (fetchedAt : Time) :
    view.equitySnapshotWouldApply symbol venue fetchedAt =
      (view.slot venue symbol).wouldApply venue fetchedAt := by
  cases venue <;> rfl

/-- A reading that would apply is taken over as it is: nothing is inflight. -/
theorem onSnapshot_of_wouldApply {slot : Slot} {venue : Venue} {fetchedAt : Time}
    (applies : slot.wouldApply venue fetchedAt) (amount : FractionalShares) :
    (slot.inventory.getD .empty).onSnapshot venue amount fetchedAt =
      .ok ((slot.inventory.getD .empty).setVenue venue (some ⟨amount, 0⟩)) := by
  have quiet : (slot.inventory.getD .empty).hasInflight = false ∧
      (slot.inventory.getD .empty).lastRebalancing.any (fetchedAt < ·) = false := by
    unfold Slot.wouldApply at applies
    cases found : slot.inventory with
    | none => exact ⟨rfl, rfl⟩
    | some inventory =>
        simp only [found] at applies
        split at applies
        · cases applies
        · split at applies
          · cases applies
          · simpa using applies
  have still : ((slot.inventory.getD .empty).balance venue).inflight = 0 := by
    have none_inflight := quiet.1
    simp only [Inventory.hasInflight, Bool.or_eq_false_iff] at none_inflight
    unfold Inventory.balance
    cases venue with
    | marketMaking =>
        cases held : (slot.inventory.getD .empty).onchain with
        | none => simp [Inventory.getVenue, held, VenueBalance.zero]
        | some balance =>
            simpa [Inventory.getVenue, held, VenueBalance.hasInflight] using none_inflight.1
    | hedging =>
        cases held : (slot.inventory.getD .empty).offchain with
        | none => simp [Inventory.getVenue, held, VenueBalance.zero]
        | some balance =>
            simpa [Inventory.getVenue, held, VenueBalance.hasInflight] using none_inflight.2
  simp [Inventory.onSnapshot, quiet.1, quiet.2, VenueBalance.applySnapshot, still]

/-- Two views agree on everything but the inventories. -/
structure SameBesides (before after : EquityView) : Prop where
  onchain : after.onchainEquitySnapshotWatermarks = before.onchainEquitySnapshotWatermarks
  offchain : after.offchainEquitySnapshotWatermarks = before.offchainEquitySnapshotWatermarks
  pending : after.pendingOffchainOrderSymbols = before.pendingOffchainOrderSymbols
  lastFill : after.lastOffchainFillAppliedAt = before.lastOffchainFillAppliedAt

theorem SameBesides.refl (view : EquityView) : SameBesides view view := ⟨rfl, rfl, rfl, rfl⟩

theorem SameBesides.slot_eq {before after : EquityView} (same : SameBesides before after)
    {symbol : Symbol} (untouched : after.equities.lookup symbol = before.equities.lookup symbol)
    (venue : Venue) : after.slot venue symbol = before.slot venue symbol := by
  cases venue <;>
    simp [slot, equitySnapshotWatermark, same.onchain, same.offchain, same.pending, same.lastFill,
      untouched]

/-- The balances of one reading are taken over symbol by symbol: each reads only
its own slot, so the order among distinct symbols does not matter. -/
theorem applyBalances (venue : Venue) (fetchedAt now : Time)
    {readings : List (Symbol × FractionalShares)} (distinct : (readings.map Prod.fst).Nodup)
    (view : EquityView) (sofar : List Symbol) :
    ∃ after applied,
      readings.foldlM (applyBalance venue fetchedAt now) (view, sofar) =
        .ok (after, sofar ++ applied) ∧
      SameBesides view after ∧
      (∀ symbol amount, (symbol, amount) ∈ readings →
        (view.slot venue symbol).wouldApply venue fetchedAt →
        symbol ∈ applied ∧ after.equities.lookup symbol =
          some ((view.equity symbol).setVenue venue (some ⟨amount, 0⟩))) ∧
      ∀ symbol, (symbol ∉ readings.map Prod.fst ∨
        ¬ (view.slot venue symbol).wouldApply venue fetchedAt) →
        symbol ∉ applied ∧ after.equities.lookup symbol = view.equities.lookup symbol := by
  induction readings generalizing view sofar with
  | nil => exact ⟨view, [], by simp [pure, Except.pure], .refl view, by simp, by simp⟩
  | cons head rest ih =>
      obtain ⟨symbol₀, amount₀⟩ := head
      simp only [List.map_cons, List.nodup_cons] at distinct
      by_cases applies : (view.slot venue symbol₀).wouldApply venue fetchedAt
      · let taken := (view.equity symbol₀).setVenue venue (some ⟨amount₀, 0⟩)
        let next : EquityView :=
          { view with equities := view.equities.insert symbol₀ taken, lastUpdated := now }
        have step : applyBalance venue fetchedAt now (view, sofar) (symbol₀, amount₀) =
            .ok (next, sofar ++ [symbol₀]) := by
          have takes := onSnapshot_of_wouldApply applies amount₀
          simp only [applyBalance, equitySnapshotWouldApply_eq, applies, if_true, updateEquity,
            equity]
          simp only [slot] at takes
          rw [takes]
          rfl
        have same : SameBesides view next := ⟨rfl, rfl, rfl, rfl⟩
        have others : ∀ symbol, symbol ≠ symbol₀ →
            next.equities.lookup symbol = view.equities.lookup symbol :=
          fun symbol other => AList.lookup_insert_ne other
        obtain ⟨after, applied, runs, kept, took, left⟩ := ih distinct.2 next (sofar ++ [symbol₀])
        refine ⟨after, symbol₀ :: applied, ?_, ?_, ?_, ?_⟩
        · rw [List.foldlM_cons, step]
          simpa [bind, Except.bind] using runs
        · exact ⟨kept.onchain, kept.offchain, kept.pending, kept.lastFill⟩
        · intro symbol amount listed would
          rcases List.mem_cons.mp listed with first | later
          · cases first
            refine ⟨List.mem_cons_self, ?_⟩
            rw [(left symbol₀ (.inl distinct.1)).2]
            exact AList.lookup_insert _
          · have other : symbol ≠ symbol₀ := by
              rintro rfl
              exact distinct.1 (List.mem_map.mpr ⟨_, later, rfl⟩)
            rw [← same.slot_eq (others symbol other)] at would
            obtain ⟨mem, took⟩ := took symbol amount later would
            refine ⟨List.mem_cons_of_mem _ mem, ?_⟩
            rw [took, equity, others symbol other]
            rfl
        · intro symbol skipped
          have other : symbol ≠ symbol₀ := by
            rintro rfl
            rcases skipped with absent | stale
            · exact absent (by simp)
            · exact stale applies
          have stillSkipped : symbol ∉ rest.map Prod.fst ∨
              ¬ (next.slot venue symbol).wouldApply venue fetchedAt := by
            rw [same.slot_eq (others symbol other)]
            exact skipped.imp (fun absent listed => absent (List.mem_cons_of_mem _ listed)) id
          obtain ⟨absent, untouched⟩ := left symbol stillSkipped
          exact ⟨by simp [other, absent], untouched.trans (others symbol other)⟩
      · obtain ⟨after, applied, runs, kept, took, left⟩ := ih distinct.2 view sofar
        refine ⟨after, applied, ?_, kept, ?_, ?_⟩
        · rw [List.foldlM_cons, applyBalance]
          simp only [equitySnapshotWouldApply_eq, applies]
          exact runs
        · intro symbol amount listed would
          rcases List.mem_cons.mp listed with first | later
          · cases first
            exact absurd would applies
          · exact took symbol amount later would
        · intro symbol skipped
          refine left symbol ?_
          exact skipped.imp (fun absent listed => absent (List.mem_cons_of_mem _ listed)) id

theorem mem_absentZeroes {view : EquityView} {venue : Venue} {balances : Balances}
    {symbol : Symbol} {amount : FractionalShares} :
    (symbol, amount) ∈ view.absentZeroes venue balances ↔
      ((view.slot venue symbol).held venue).isSome ∧ symbol ∉ balances ∧ amount = 0 := by
  have tracked : ((view.slot venue symbol).held venue).isSome ↔
      ∃ inventory : Inventory, ⟨symbol, inventory⟩ ∈ view.equities.entries ∧
        (inventory.getVenue venue).isSome := by
    simp only [slot, Slot.held]
    cases found : view.equities.lookup symbol with
    | none =>
        simp only [Option.bind_none, Option.isSome_none, Bool.false_eq_true, false_iff]
        rintro ⟨inventory, mem, _⟩
        have := AList.mem_lookup_iff.mpr mem
        simp [found] at this
    | some inventory =>
        have mem : (⟨symbol, inventory⟩ : Sigma fun _ : Symbol => Inventory) ∈
            view.equities.entries := AList.mem_lookup_iff.mp found
        simp only [Option.bind_some]
        constructor
        · intro some
          exact ⟨inventory, mem, some⟩
        · rintro ⟨other, mem', some⟩
          have := AList.mem_lookup_iff.mpr mem'
          rw [found] at this
          cases this
          exact some
  rw [tracked]
  simp only [absentZeroes, List.mem_map, List.mem_filter, Bool.and_eq_true, decide_eq_true_eq,
    Prod.mk.injEq]
  constructor
  · rintro ⟨⟨_, inventory⟩, ⟨mem, polled, absent⟩, rfl, rfl⟩
    exact ⟨⟨inventory, mem, polled⟩, absent, rfl⟩
  · rintro ⟨⟨inventory, mem, polled⟩, absent, rfl⟩
    exact ⟨⟨symbol, inventory⟩, ⟨mem, polled, absent⟩, rfl, rfl⟩

theorem absentZeroes_nodup (view : EquityView) (venue : Venue) (balances : Balances) :
    ((view.absentZeroes venue balances).map Prod.fst).Nodup := by
  have keys : (view.absentZeroes venue balances).map Prod.fst =
      (view.equities.entries.filter fun entry =>
        (entry.2.getVenue venue).isSome && entry.1 ∉ balances).map Sigma.fst := by
    simp [absentZeroes, Function.comp_def]
  rw [keys]
  exact view.equities.keys_nodup.sublist (List.filter_sublist.map _)

/-- The balances a reading amounts to: the listed ones and the absent zeroes. -/
def readings (view : EquityView) (venue : Venue) (balances : Balances) :
    List (Symbol × FractionalShares) :=
  (balances.entries.map fun entry => (entry.1, entry.2)) ++ view.absentZeroes venue balances

theorem mem_readings {view : EquityView} {venue : Venue} {balances : Balances} {symbol : Symbol}
    {amount : FractionalShares} :
    (symbol, amount) ∈ view.readings venue balances ↔
      (view.slot venue symbol).reported venue (balances.lookup symbol) = some amount := by
  have listed : (symbol, amount) ∈ (balances.entries.map fun entry => (entry.1, entry.2)) ↔
      balances.lookup symbol = some amount := by
    rw [← Option.mem_def, AList.mem_lookup_iff]
    simp only [List.mem_map, Prod.mk.injEq]
    constructor
    · rintro ⟨⟨_, _⟩, mem, rfl, rfl⟩
      exact mem
    · intro mem
      exact ⟨_, mem, rfl, rfl⟩
  rw [readings, List.mem_append, listed, mem_absentZeroes, Slot.reported, ← AList.lookup_eq_none]
  cases balances.lookup symbol with
  | some _ => simp
  | none =>
      by_cases polled : ((view.slot venue symbol).held venue).isSome
      · simp [polled, @eq_comm _ amount]
      · simp [polled]

theorem readings_nodup (view : EquityView) (venue : Venue) (balances : Balances) :
    ((view.readings venue balances).map Prod.fst).Nodup := by
  have keys : (balances.entries.map fun entry => (entry.1, entry.2)).map Prod.fst =
      balances.keys := by
    rw [List.map_map]
    rfl
  rw [readings, List.map_append, List.nodup_append', keys]
  refine ⟨balances.keys_nodup, absentZeroes_nodup view venue balances, ?_⟩
  intro symbol listed absent
  obtain ⟨⟨_, amount⟩, mem, rfl⟩ := List.mem_map.mp absent
  exact (mem_absentZeroes.mp mem).2.1 (AList.mem_keys.mpr listed)

/-- A reading is never refused, and every symbol's slot takes its own part of it. -/
theorem applyEquitySnapshot_slot (view : EquityView) (venue : Venue) (balances : Balances)
    (fetchedAt now : Time) :
    ∃ after, view.applyEquitySnapshot venue balances fetchedAt now = .ok after ∧
      ∀ symbol, after.slot venue symbol =
        (view.slot venue symbol).receive venue fetchedAt (balances.lookup symbol) := by
  obtain ⟨after, applied, runs, same, took, left⟩ :=
    applyBalances venue fetchedAt now (readings_nodup view venue balances) view []
  refine ⟨after.recordEquitySnapshotWatermarks venue applied fetchedAt, ?_, ?_⟩
  · simp only [applyEquitySnapshot]
    rw [readings] at runs
    rw [runs]
    rfl
  intro symbol
  have marked : (after.recordEquitySnapshotWatermarks venue applied fetchedAt).slot venue symbol =
      { after.slot venue symbol with
        watermark :=
          if symbol ∈ applied then
            some (((view.slot venue symbol).watermark.getD fetchedAt).max fetchedAt)
          else (view.slot venue symbol).watermark } := by
    cases venue <;>
      simp [slot, equitySnapshotWatermark, recordEquitySnapshotWatermarks, raised, same.onchain,
        same.offchain]
  have skipped (kept : symbol ∉ applied ∧
      after.equities.lookup symbol = view.equities.lookup symbol) :
      (after.recordEquitySnapshotWatermarks venue applied fetchedAt).slot venue symbol =
        view.slot venue symbol := by
    rw [marked, if_neg kept.1, same.slot_eq kept.2]
  by_cases applies : (view.slot venue symbol).wouldApply venue fetchedAt
  · cases report : (view.slot venue symbol).reported venue (balances.lookup symbol) with
    | none =>
        simp only [Slot.receive, report]
        refine skipped (left symbol (.inl ?_))
        intro listed
        obtain ⟨⟨_, amount⟩, mem, rfl⟩ := List.mem_map.mp listed
        have := mem_readings.mp mem
        rw [report] at this
        cases this
    | some amount =>
        obtain ⟨mem, taken⟩ := took symbol amount (mem_readings.mpr report) applies
        simp only [Slot.receive, report, applies, if_true]
        rw [marked, if_pos mem]
        have fresher : ((view.slot venue symbol).watermark.getD fetchedAt).max fetchedAt =
            fetchedAt := by
          unfold Slot.wouldApply at applies
          split at applies
          · cases applies
          case isFalse stale =>
            cases below : (view.slot venue symbol).watermark with
            | none => simp
            | some watermark =>
                simp only [below, Option.any_some, decide_eq_true_eq, not_le] at stale
                exact max_eq_right stale.le
        rw [fresher]
        simp only [slot, taken, same.pending, same.lastFill, equity]
  · have unchanged : (view.slot venue symbol).receive venue fetchedAt (balances.lookup symbol) =
        view.slot venue symbol := by
      unfold Slot.receive
      split <;> simp [applies]
    rw [unchanged]
    exact skipped (left symbol (.inr applies))

/-! ## What a reading does to one wallet -/

/-- What a wallet was last seen to hold of a symbol. -/
def wallet (view : EquityView) (location : InFlightEquityLocation) (symbol : Symbol) :
    Option InFlightEntry :=
  view.inflightEquity.lookup (symbol, location)

/-- Some entry at the location is fresher than a reading fetched then. -/
def Fresher (view : EquityView) (location : InFlightEquityLocation) (fetchedAt : Time) : Prop :=
  ∃ symbol entry, view.wallet location symbol = some entry ∧ fetchedAt < entry.fetchedAt

theorem lookup_clearedAt
    (entries : AList fun _ : Symbol × InFlightEquityLocation => InFlightEntry)
    (location : InFlightEquityLocation) (symbol : Symbol) :
    (clearedAt entries location).lookup (symbol, location) = none := by
  rw [AList.lookup_eq_none, AList.mem_keys]
  intro kept
  obtain ⟨⟨⟨_, _⟩, _⟩, mem, at_location⟩ := List.mem_map.mp kept
  cases at_location
  simp [clearedAt] at mem

theorem lookup_foldl_insert (location : InFlightEquityLocation) (fetchedAt : Time)
    (entries : List (Sigma fun _ : Symbol => FractionalShares)) (distinct : entries.NodupKeys)
    (base : AList fun _ : Symbol × InFlightEquityLocation => InFlightEntry) (symbol : Symbol) :
    (entries.foldl (fun kept entry => kept.insert (entry.1, location) ⟨entry.2, fetchedAt⟩)
      base).lookup (symbol, location) =
      if (entries.dlookup symbol).isSome then
        (entries.dlookup symbol).map fun amount => ⟨amount, fetchedAt⟩
      else base.lookup (symbol, location) := by
  induction entries generalizing base with
  | nil => rfl
  | cons head rest ih =>
      obtain ⟨symbol₀, amount⟩ := head
      rw [List.nodupKeys_cons] at distinct
      rw [List.foldl_cons, ih distinct.2]
      by_cases same : symbol = symbol₀
      · subst same
        have absent : rest.dlookup symbol = none := List.dlookup_eq_none.mpr distinct.1
        simp [absent, List.dlookup_cons_eq, AList.lookup_insert]
      · have other : (symbol, location) ≠ (symbol₀, location) := fun both => same (by cases both; rfl)
        rw [List.dlookup_cons_ne rest ⟨symbol₀, amount⟩ same, AList.lookup_insert_ne other]

/-- A reading replaces what its wallet held, unless some entry there is fresher. -/
theorem wallet_setInflightEquityAtLocation (view : EquityView) (location : InFlightEquityLocation)
    (balances : Balances) (fetchedAt now : Time) :
    (view.Fresher location fetchedAt →
      view.setInflightEquityAtLocation location balances fetchedAt now = view) ∧
    (¬ view.Fresher location fetchedAt → ∀ symbol,
      (view.setInflightEquityAtLocation location balances fetchedAt now).wallet location symbol =
        (balances.lookup symbol).map fun amount => ⟨amount, fetchedAt⟩) := by
  have stale_iff : (view.inflightEquity.entries.any fun entry =>
      entry.1.2 = location && fetchedAt < entry.2.fetchedAt) = true ↔
        view.Fresher location fetchedAt := by
    simp only [List.any_eq_true, Bool.and_eq_true, decide_eq_true_eq, Fresher, wallet]
    constructor
    · rintro ⟨⟨⟨symbol, _⟩, entry⟩, mem, rfl, fresher⟩
      exact ⟨symbol, entry, AList.mem_lookup_iff.mpr mem, fresher⟩
    · rintro ⟨symbol, entry, found, fresher⟩
      exact ⟨⟨(symbol, location), entry⟩, AList.mem_lookup_iff.mp found, rfl, fresher⟩
  constructor
  · intro fresher
    rw [setInflightEquityAtLocation, if_pos (stale_iff.mpr fresher)]
  · intro fresh symbol
    rw [setInflightEquityAtLocation, if_neg (fun stale => fresh (stale_iff.mp stale))]
    simp only [wallet]
    rw [lookup_foldl_insert location fetchedAt _ balances.nodupKeys, lookup_clearedAt]
    unfold AList.lookup
    cases balances.entries.dlookup symbol <;> rfl

end EquityView

end Liquidity
