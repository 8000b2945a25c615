import Liquidity.Inventory.Snapshot
import Liquidity.Process.Steps
import Liquidity.Rebalancing.PositionReactor
import Mathlib.Tactic.Ring

/-!
# The mirror of the vaults

The vaults of one symbol and of cash, the fills that move them, the polls that
read them, and the view. A fill moves the vaults at once and the view when the
reactor processes it. A poll reads the equity vault, records what it read, then
does the same for cash; what is recorded is delivered to the view some time
later.

A delivered reading replaces the balance. No guard tells whether the fills it
shows are those the reactor has processed. A fill that happened before the read
and is processed after the delivery is counted twice, and one that is processed
between them is lost; and later polls that find the same are not recorded, so
nothing corrects the view.
-/

namespace Liquidity

open Process EventSourcing

/-- A fill of an order in the vaults. -/
structure VaultFill where
  tradeId : TradeId
  amount : Positive
  direction : Direction
  priceUsdc : Positive
  blockTimestamp : Time
  seenAt : Time
  deriving DecidableEq

namespace VaultFill

def event (fill : VaultFill) : PositionEvent :=
  .onChainOrderFilled fill.tradeId fill.amount.inner fill.direction fill.priceUsdc.inner
    fill.blockTimestamp fill.seenAt

def cost (fill : VaultFill) : ℚ := fill.priceUsdc.inner * fill.amount.inner

/-- What it does to the shares, and to the cash. -/
def equityMove (fill : VaultFill) : ℚ := fill.direction.sign * fill.amount.inner
def usdcMove (fill : VaultFill) : ℚ := -fill.direction.sign * fill.cost

end VaultFill

/-- A poll of the vaults. What it has read comes with the number of fills there
were then. -/
inductive VaultPoll where
  | idle
  | equityRead (balances : Balances) (seen : Nat)
  | equitySent (seen : Nat)
  | usdcRead (usdcBalance : Usdc) (equitySeen seen : Nat)
  deriving DecidableEq

/-- A recorded reading on its way to the view. -/
structure VaultReading where
  event : InventorySnapshotEvent
  /-- How many fills there were when it was read. -/
  seen : Nat
  deriving DecidableEq

structure MarketWorld where
  view : EquityView
  clock : Time
  vaultEquity : FractionalShares
  vaultUsdc : Usdc
  /-- The fills so far, and whether the reactor has processed them. -/
  fills : List (VaultFill × Bool)
  snapshots : List InventorySnapshotEvent
  poll : VaultPoll
  transit : List VaultReading
  /-- A reading of the cash was delivered. -/
  usdcDelivered : Bool
  /-- How many fills there were when the last poll that is done began. -/
  polled : Option Nat

inductive MarketStep where
  | fill (fill : VaultFill)
  /-- The reactor processes a fill it has not seen. -/
  | process (index : Nat)
  | readEquity (balances : Balances)
  | sendEquity
  | readUsdc
  | sendUsdc
  /-- A poll that failed. -/
  | abandon
  | deliver (index : Nat)
  /-- Other polls are recorded. -/
  | record (command : InventorySnapshotCommand)
  | tick (passed : Nat)
  /-- The rest of the bot moves whatever else the view keeps. -/
  | elsewhere (view : EquityView)

/-- Readings of the vaults. -/
def InventorySnapshotCommand.isVaults : InventorySnapshotCommand → Bool
  | .onchainEquity .. => true
  | .onchainUsdc .. => true
  | _ => false

namespace EquityView

/-- The mirror of the shares in the vaults. -/
def vaultAvailable (view : EquityView) (symbol : Symbol) : FractionalShares :=
  (view.equity symbol).available .marketMaking

/-- Nothing of the asset is inflight, and nothing was transferred. -/
def Untransferred (inventory : Inventory) : Prop :=
  inventory.hasInflight = false ∧ inventory.lastRebalancing = none

instance (inventory : Inventory) : Decidable (Untransferred inventory) :=
  inferInstanceAs (Decidable (_ ∧ _))

/-- `on_snapshot` for readings of the vaults. -/
def onVaultSnapshot (view : EquityView) (now : Time) :
    InventorySnapshotEvent → Except InventoryError EquityView
  | .onchainEquity balances fetchedAt =>
      view.applyEquitySnapshot .marketMaking balances fetchedAt now
  | .onchainUsdc usdcBalance fetchedAt =>
      view.updateUsdc (Inventory.onSnapshot .marketMaking usdcBalance fetchedAt) now
  | _ => .ok view

end EquityView

namespace MarketWorld

variable [FloatFormat] (symbol : Symbol)

omit [FloatFormat] in
/-- A poll sends what it has read to the aggregate. -/
def send (w : MarketWorld) (command : InventorySnapshotCommand) (seen : Nat) :
    Option MarketWorld :=
  match InventorySnapshot.aggregate.send w.clock command w.snapshots with
  | .ok events => some { w with
      snapshots := w.snapshots ++ events
      transit := w.transit ++ events.map fun event => ⟨event, seen⟩ }
  | .error _ => none

def act (w : MarketWorld) : MarketStep → Option MarketWorld
  | .fill fill =>
      -- The vaults pay for it.
      if 0 ≤ w.vaultEquity + fill.equityMove ∧ 0 ≤ w.vaultUsdc + fill.usdcMove then
        some { w with
          vaultEquity := w.vaultEquity + fill.equityMove
          vaultUsdc := w.vaultUsdc + fill.usdcMove
          fills := w.fills ++ [(fill, false)] }
      else none
  | .process index =>
      match w.fills[index]? with
      | some (fill, false) => some { w with
          view := (w.view.reactToPosition symbol w.clock fill.event).view
          fills := w.fills.set index (fill, true) }
      | _ => none
  | .readEquity balances =>
      match w.poll with
      | .idle =>
          if balances.lookup symbol = some w.vaultEquity then
            some { w with poll := .equityRead balances w.fills.length }
          else none
      | _ => none
  | .sendEquity =>
      match w.poll with
      | .equityRead balances seen =>
          (w.send (.onchainEquity balances) seen).map fun w => { w with poll := .equitySent seen }
      | _ => none
  | .readUsdc =>
      match w.poll with
      | .equitySent seen => some { w with poll := .usdcRead w.vaultUsdc seen w.fills.length }
      | _ => none
  | .sendUsdc =>
      match w.poll with
      | .usdcRead usdcBalance equitySeen seen =>
          (w.send (.onchainUsdc usdcBalance) seen).map fun w =>
            { w with poll := .idle, polled := some equitySeen }
      | _ => none
  | .abandon => some { w with poll := .idle }
  | .deliver index =>
      match w.transit[index]? with
      | some reading =>
          match w.view.onVaultSnapshot w.clock reading.event with
          | .ok view => some { w with
              view := view
              transit := w.transit.eraseIdx index
              usdcDelivered := w.usdcDelivered || reading.event matches .onchainUsdc .. }
          | .error _ => none
      | none => none
  | .record command =>
      if command.isVaults then none
      else
        match InventorySnapshot.aggregate.send w.clock command w.snapshots with
        | .ok events => some { w with snapshots := w.snapshots ++ events }
        | .error _ => none
  | .tick passed => some { w with clock := w.clock + passed }
  | .elsewhere view =>
      if (view.equity symbol).onchain = (w.view.equity symbol).onchain ∧
          view.usdc.onchain = w.view.usdc.onchain ∧
          view.onchainEquitySnapshotWatermarks symbol =
            w.view.onchainEquitySnapshotWatermarks symbol ∧
          EquityView.Untransferred (view.equity symbol) ∧ EquityView.Untransferred view.usdc then
        some { w with view := view }
      else none

omit [FloatFormat] in
/-- The fills the reactor has processed are those there were when it was read. -/
def Shows (w : MarketWorld) (seen : Nat) : Prop :=
  (∀ entry ∈ w.fills.take seen, entry.2 = true) ∧ ∀ entry ∈ w.fills.drop seen, entry.2 = false

omit [FloatFormat] in
instance (w : MarketWorld) (seen : Nat) : Decidable (w.Shows seen) :=
  inferInstanceAs (Decidable (_ ∧ _))

omit [FloatFormat] in
/-- The mirror covers what the fill takes. -/
def Covers (w : MarketWorld) (fill : VaultFill) : Prop :=
  match fill.direction with
  | .buy => fill.cost ≤ w.view.usdc.available .marketMaking
  | .sell => fill.amount.inner ≤ w.view.vaultAvailable symbol

omit [FloatFormat] in
instance (w : MarketWorld) (fill : VaultFill) : Decidable (w.Covers symbol fill) :=
  match covers : fill.direction with
  | .buy => decidable_of_iff (fill.cost ≤ w.view.usdc.available .marketMaking)
      (by simp [Covers, covers])
  | .sell => decidable_of_iff (fill.amount.inner ≤ w.view.vaultAvailable symbol)
      (by simp [Covers, covers])

omit [FloatFormat] in
/-- A reading of the shares was taken over, or one of the cash delivered. -/
def Tracked (w : MarketWorld) : Prop :=
  (w.view.onchainEquitySnapshotWatermarks symbol).isSome ∨ w.usdcDelivered = true

omit [FloatFormat] in
instance (w : MarketWorld) : Decidable (w.Tracked symbol) := inferInstanceAs (Decidable (_ ∨ _))

omit [FloatFormat] in
/-- If the reading is taken over, it shows the fills that were processed. -/
def ShowsProcessed (w : MarketWorld) (reading : VaultReading) : Prop :=
  match reading.event with
  | .onchainEquity _ fetchedAt =>
      (w.view.slot .marketMaking symbol).wouldApply .marketMaking fetchedAt → w.Shows reading.seen
  | _ => w.Shows reading.seen

omit [FloatFormat] in
instance (w : MarketWorld) (reading : VaultReading) :
    Decidable (w.ShowsProcessed symbol reading) := by
  unfold ShowsProcessed
  split <;> infer_instance

omit [FloatFormat] in
/-- A reading that is taken over shows the fills that were processed, and a fill is
processed while the mirror, once there is one, covers it. -/
def CountedOnce (w : MarketWorld) : MarketStep → Prop
  | .process index => w.Tracked symbol → ∀ entry ∈ w.fills[index]?, w.Covers symbol entry.1
  | .deliver index => ∀ reading ∈ w.transit[index]?, w.ShowsProcessed symbol reading
  | _ => True

omit [FloatFormat] in
instance (w : MarketWorld) (step : MarketStep) : Decidable (w.CountedOnce symbol step) := by
  unfold CountedOnce
  split <;> infer_instance

omit [FloatFormat] in
/-- Nothing has happened yet, and the view knows neither the symbol nor the cash. -/
structure Fresh (w : MarketWorld) : Prop where
  fills : w.fills = []
  snapshots : w.snapshots = []
  poll : w.poll = .idle
  transit : w.transit = []
  usdcDelivered : w.usdcDelivered = false
  polled : w.polled = none
  watermark : w.view.onchainEquitySnapshotWatermarks symbol = none
  equity : EquityView.Untransferred (w.view.equity symbol)
  usdc : EquityView.Untransferred w.view.usdc

omit [FloatFormat] in
/-- Every fill was processed, and a poll that began after the last of them was handled. -/
structure Settled (w : MarketWorld) : Prop where
  processed : ∀ entry ∈ w.fills, entry.2 = true
  transit : w.transit = []
  polled : w.polled = some w.fills.length

omit [FloatFormat] in
/-- The view shows what the vaults hold. -/
def Right (w : MarketWorld) : Prop :=
  w.view.vaultAvailable symbol = w.vaultEquity ∧
    w.view.usdc.available .marketMaking = w.vaultUsdc

end MarketWorld

/-! ## What fills and readings do to the view -/

namespace EquityView

theorem inflight_of_any {balance : Option VenueBalance}
    (none : balance.any VenueBalance.hasInflight = false) : (balance.getD .zero).inflight = 0 := by
  cases balance with
  | none => rfl
  | some balance => simpa [VenueBalance.hasInflight] using none

/-- Nothing is inflight at either venue. -/
theorem Untransferred.inflight {inventory : Inventory} (quiet : Untransferred inventory)
    (venue : Venue) : (inventory.balance venue).inflight = 0 := by
  obtain ⟨onchain, offchain⟩ := Bool.or_eq_false_iff.mp quiet.1
  cases venue with
  | marketMaking => exact inflight_of_any onchain
  | hedging => exact inflight_of_any offchain

theorem Untransferred.setVenue {inventory : Inventory} (quiet : Untransferred inventory)
    (venue : Venue) {balance : VenueBalance} (landed : balance.inflight = 0) :
    Untransferred (inventory.setVenue venue (some balance)) := by
  obtain ⟨onchain, offchain⟩ := Bool.or_eq_false_iff.mp quiet.1
  cases venue with
  | marketMaking =>
      refine ⟨?_, quiet.2⟩
      simp [Inventory.hasInflight, Inventory.setVenue, VenueBalance.hasInflight, landed, offchain]
  | hedging =>
      refine ⟨?_, quiet.2⟩
      simp [Inventory.hasInflight, Inventory.setVenue, VenueBalance.hasInflight, landed, onchain]

variable {view : EquityView} {symbol : Symbol}

/-- A symbol no reading was taken over for takes over the first. -/
theorem wouldApply_first (first : view.onchainEquitySnapshotWatermarks symbol = none)
    (quiet : Untransferred (view.equity symbol)) (fetchedAt : Time) :
    (view.slot .marketMaking symbol).wouldApply .marketMaking fetchedAt = true := by
  have watermark : (view.slot .marketMaking symbol).watermark = none := first
  unfold Slot.wouldApply
  rw [watermark]
  cases found : (view.slot .marketMaking symbol).inventory with
  | none => simp [Slot.yieldsToFills]
  | some inventory =>
      have same : view.equity symbol = inventory := by
        change (view.slot .marketMaking symbol).inventory.getD .empty = inventory
        rw [found]
        rfl
      rw [same] at quiet
      simp [Slot.yieldsToFills, quiet.1, quiet.2]

theorem applyBalance_usdc {venue : Venue} {fetchedAt now : Time}
    {sofar after : EquityView × List Symbol} {reading : Symbol × FractionalShares}
    (applied : applyBalance venue fetchedAt now sofar reading = .ok after) :
    after.1.usdc = sofar.1.usdc := by
  unfold applyBalance at applied
  split at applied
  · obtain ⟨view, updated, done⟩ := bind_eq_ok.mp applied
    obtain ⟨inventory, _, built⟩ := bind_eq_ok.mp updated
    cases done
    cases built
    rfl
  · cases applied
    rfl

theorem applyEquitySnapshot_usdc {view after : EquityView} {venue : Venue} {balances : Balances}
    {fetchedAt now : Time}
    (applied : view.applyEquitySnapshot venue balances fetchedAt now = .ok after) :
    after.usdc = view.usdc := by
  have folded {readings : List (Symbol × FractionalShares)} {sofar last : EquityView × List Symbol}
      (ran : readings.foldlM (applyBalance venue fetchedAt now) sofar = .ok last) :
      last.1.usdc = sofar.1.usdc := by
    induction readings generalizing sofar with
    | nil =>
        cases ran
        rfl
    | cons reading readings ih =>
        rw [List.foldlM_cons] at ran
        obtain ⟨next, applied, rest⟩ := bind_eq_ok.mp ran
        rw [ih rest, applyBalance_usdc applied]
  obtain ⟨⟨last, symbols⟩, ran, done⟩ := bind_eq_ok.mp applied
  cases done
  have same := folded ran
  cases venue <;> exact same

/-- A reading of the shares is taken over, or leaves the symbol as it is. -/
theorem onVaultSnapshot_equity {after : EquityView} {balances : Balances} {fetchedAt now : Time}
    {amount : FractionalShares} (listed : balances.lookup symbol = some amount)
    (delivered : view.onVaultSnapshot now (.onchainEquity balances fetchedAt) = .ok after)
    (quiet : Untransferred (view.equity symbol)) :
    after.usdc = view.usdc ∧ Untransferred (after.equity symbol) ∧
      (after.onchainEquitySnapshotWatermarks symbol).isSome ∧
      (((view.slot .marketMaking symbol).wouldApply .marketMaking fetchedAt ∧
          after.vaultAvailable symbol = amount) ∨
        (view.onchainEquitySnapshotWatermarks symbol).isSome ∧
          after.vaultAvailable symbol = view.vaultAvailable symbol) := by
  change view.applyEquitySnapshot .marketMaking balances fetchedAt now = .ok after at delivered
  obtain ⟨reached, applied, slots⟩ :=
    view.applyEquitySnapshot_slot .marketMaking balances fetchedAt now
  rw [delivered] at applied
  cases applied
  have slot := slots symbol
  have usdc := applyEquitySnapshot_usdc delivered
  have equity (view : EquityView) :
      view.equity symbol = (view.slot .marketMaking symbol).inventory.getD .empty := rfl
  have watermark (view : EquityView) : view.onchainEquitySnapshotWatermarks symbol =
      (view.slot .marketMaking symbol).watermark := rfl
  have reported : (view.slot .marketMaking symbol).reported .marketMaking
      (balances.lookup symbol) = some amount := by
    simp [Slot.reported, listed]
  by_cases applies : (view.slot .marketMaking symbol).wouldApply .marketMaking fetchedAt
  · simp only [Slot.receive, reported, applies, if_true] at slot
    refine ⟨usdc, ?_, ?_, .inl ⟨applies, ?_⟩⟩
    · rw [equity, slot]
      exact quiet.setVenue .marketMaking rfl
    · rw [watermark, slot]
      rfl
    · rw [vaultAvailable, equity, slot]
      simp [Inventory.available]
  · simp only [Slot.receive, reported, applies] at slot
    have tracked : (view.onchainEquitySnapshotWatermarks symbol).isSome := by
      by_contra untracked
      exact applies (wouldApply_first (Option.not_isSome_iff_eq_none.mp untracked) quiet fetchedAt)
    refine ⟨usdc, ?_, ?_, .inr ⟨tracked, ?_⟩⟩
    · rw [equity, slot]
      exact quiet
    · rw [watermark, slot]
      exact tracked
    · rw [vaultAvailable, equity, slot]
      rfl

/-- A reading of the cash is taken over. -/
theorem onVaultSnapshot_usdc {after : EquityView} {usdcBalance : Usdc} {fetchedAt now : Time}
    (delivered : view.onVaultSnapshot now (.onchainUsdc usdcBalance fetchedAt) = .ok after)
    (quiet : Untransferred view.usdc) :
    after = { view with
      usdc := view.usdc.setVenue .marketMaking (some ⟨usdcBalance, 0⟩), lastUpdated := now } := by
  have taken : Inventory.onSnapshot .marketMaking usdcBalance fetchedAt view.usdc =
      .ok (view.usdc.setVenue .marketMaking (some ⟨usdcBalance, 0⟩)) := by
    simp [Inventory.onSnapshot, quiet.1, quiet.2, VenueBalance.applySnapshot,
      quiet.inflight .marketMaking]
  change view.updateUsdc (Inventory.onSnapshot .marketMaking usdcBalance fetchedAt) now =
    .ok after at delivered
  rw [updateUsdc, taken] at delivered
  cases delivered
  rfl

variable [FloatFormat]

theorem Untransferred.updateAvailable {inventory updated : Inventory} {venue : Venue}
    {op : Operator} {amount : ℚ} (quiet : Untransferred inventory)
    (moved : Inventory.updateAvailable venue op amount inventory = .ok updated) :
    Untransferred updated := by
  unfold Inventory.updateAvailable at moved
  cases op with
  | add =>
      obtain ⟨balance, found, done⟩ := bind_eq_ok.mp moved
      cases done
      refine quiet.setVenue venue ?_
      unfold Inventory.credit at found
      split at found
      · rename_i held known
        obtain ⟨available, _, built⟩ := bind_eq_ok.mp found
        cases built
        have landed := quiet.inflight venue
        rw [Inventory.balance, known] at landed
        exact landed
      · cases found
        rfl
  | remove =>
      obtain ⟨balance, found, done⟩ := bind_eq_ok.mp moved
      cases done
      refine quiet.setVenue venue ?_
      obtain ⟨available, _, built⟩ := bind_eq_ok.mp found
      dsimp only at built
      split at built
      · cases built
      · cases built
        exact quiet.inflight venue

/-- A fill touches neither watermarks nor what is inflight. -/
theorem react_fill_quiet (fill : VaultFill) (now : Time)
    (equity : Untransferred (view.equity symbol)) (usdc : Untransferred view.usdc) :
    let after := (view.reactToPosition symbol now fill.event).view
    after.onchainEquitySnapshotWatermarks = view.onchainEquitySnapshotWatermarks ∧
      Untransferred (after.equity symbol) ∧ Untransferred after.usdc := by
  simp only [VaultFill.event, reactToPosition]
  split
  · exact ⟨rfl, equity, usdc⟩
  · split
    · rename_i cost _ updated applied
      obtain ⟨between, equityMoved, usdcMoved⟩ := bind_eq_ok.mp applied
      obtain ⟨shares, sharesMoved, built⟩ := bind_eq_ok.mp equityMoved
      cases built
      obtain ⟨cash, cashMoved, built⟩ := bind_eq_ok.mp usdcMoved
      cases built
      refine ⟨rfl, ?_, usdc.updateAvailable cashMoved⟩
      have listed := equity.updateAvailable sharesMoved
      simpa [EquityView.equity] using listed
    · exact ⟨rfl, equity, usdc⟩

/-- A fill that is covered moves both balances. -/
theorem react_fill_moves (exact : FloatFormat.IsExact) {fill : VaultFill} (now : Time)
    (shares : fill.direction = .sell → fill.amount.inner ≤ view.vaultAvailable symbol)
    (cash : fill.direction = .buy → fill.cost ≤ view.usdc.available .marketMaking) :
    let after := (view.reactToPosition symbol now fill.event).view
    after.vaultAvailable symbol = view.vaultAvailable symbol + fill.equityMove ∧
      after.usdc.available .marketMaking = view.usdc.available .marketMaking + fill.usdcMove := by
  have applied := applyFill_exact exact shares cash fill.event.timestamp
  have reached : (view.reactToPosition symbol now fill.event).view =
      { view with
        equities := view.equities.insert symbol ((view.equity symbol).setVenue .marketMaking
          (some ⟨(view.equity symbol).available .marketMaking + fill.equityMove,
            (view.equity symbol).inflight .marketMaking⟩))
        usdc := view.usdc.setVenue .marketMaking (some
          ⟨view.usdc.available .marketMaking + fill.usdcMove, view.usdc.inflight .marketMaking⟩)
        lastUpdated := fill.event.timestamp } := by
    simp only [VaultFill.event, reactToPosition, Decimal.mul_exact exact]
    rw [VaultFill.event, VaultFill.cost] at applied
    rw [applied]
    rfl
  rw [reached]
  simp [vaultAvailable, equity, Inventory.available]

end EquityView

/-! ## Fills by what they move -/

section Moves

variable {move : VaultFill → ℚ} {fills : List (VaultFill × Bool)} {fill : VaultFill} {seen : Nat}

/-- What the fills that wait for the reactor move. -/
def waiting (move : VaultFill → ℚ) (fills : List (VaultFill × Bool)) : ℚ :=
  (fills.map fun entry => if entry.2 then 0 else move entry.1).sum

/-- What the fills since a reading move. -/
def since (move : VaultFill → ℚ) (fills : List (VaultFill × Bool)) (seen : Nat) : ℚ :=
  (((fills.map Prod.fst).drop seen).map move).sum

theorem waiting_append (first second : List (VaultFill × Bool)) :
    waiting move (first ++ second) = waiting move first + waiting move second := by
  simp [waiting]

theorem waiting_processed (processed : ∀ entry ∈ fills, entry.2 = true) :
    waiting move fills = 0 := by
  refine List.sum_eq_zero fun amount listed => ?_
  obtain ⟨entry, mem, rfl⟩ := List.mem_map.mp listed
  rw [if_pos (processed entry mem)]

theorem waiting_unprocessed (unprocessed : ∀ entry ∈ fills, entry.2 = false) :
    waiting move fills = ((fills.map Prod.fst).map move).sum := by
  rw [waiting, List.map_map]
  refine congrArg List.sum (List.map_congr_left fun entry mem => ?_)
  rw [if_neg (by simp [unprocessed entry mem])]
  rfl

/-- A fill that is processed no longer waits. -/
theorem waiting_set {index : Nat} (found : fills[index]? = some (fill, false)) :
    waiting move fills = waiting move (fills.set index (fill, true)) + move fill := by
  induction fills generalizing index with
  | nil => cases found
  | cons entry fills ih =>
      cases index with
      | zero =>
          cases found
          simp [waiting, add_comm]
      | succ index =>
          have later := ih found
          simp only [waiting, List.set_cons_succ, List.map_cons, List.sum_cons] at later ⊢
          rw [later, add_assoc]

theorem map_fst_set {index : Nat} {flag : Bool} (found : fills[index]? = some (fill, flag)) :
    (fills.set index (fill, true)).map Prod.fst = fills.map Prod.fst := by
  obtain ⟨inside, same⟩ := List.getElem?_eq_some_iff.mp found
  have kept : (fills.set index fills[index]).map Prod.fst = fills.map Prod.fst := by
    rw [List.set_getElem_self inside]
  rw [List.map_set, same] at kept
  rw [List.map_set]
  exact kept

theorem since_concat (past : seen ≤ fills.length) :
    since move (fills ++ [(fill, false)]) seen = since move fills seen + move fill := by
  have short : seen ≤ (fills.map Prod.fst).length := by simpa using past
  simp [since, List.drop_append_of_le_length short]

theorem since_now : since move fills fills.length = 0 := by
  rw [since, List.drop_eq_nil_of_le (by simp)]
  rfl

/-- Where a reading shows what was processed, what waits has happened since. -/
theorem waiting_eq_since (w : MarketWorld) (shows : w.Shows seen) :
    waiting move w.fills = since move w.fills seen := by
  obtain ⟨processed, unprocessed⟩ := shows
  have split : waiting move w.fills =
      waiting move (w.fills.take seen) + waiting move (w.fills.drop seen) := by
    rw [← waiting_append, List.take_append_drop]
  rw [split, waiting_processed processed, waiting_unprocessed unprocessed, zero_add, since,
    List.map_drop]

end Moves

/-! ## The invariant -/

namespace MarketWorld

variable [FloatFormat] {symbol : Symbol} {w w' : MarketWorld}

omit [FloatFormat] in
/-- A reading shows the vault as it was: what it lacks has happened since. -/
structure ReadEquity (symbol : Symbol) (w : MarketWorld) (balances : Balances) (seen : Nat) :
    Prop where
  past : seen ≤ w.fills.length
  shows : ∃ amount, balances.lookup symbol = some amount ∧
    amount + since VaultFill.equityMove w.fills seen = w.vaultEquity

omit [FloatFormat] in
structure ReadUsdc (w : MarketWorld) (usdcBalance : Usdc) (seen : Nat) : Prop where
  past : seen ≤ w.fills.length
  shows : usdcBalance + since VaultFill.usdcMove w.fills seen = w.vaultUsdc

/-- A reading of the shares was taken over, or is on its way. -/
def EquityComing (symbol : Symbol) (w : MarketWorld) : Prop :=
  (w.view.onchainEquitySnapshotWatermarks symbol).isSome ∨
    ∃ reading ∈ w.transit, ∃ balances fetchedAt, reading.event = .onchainEquity balances fetchedAt

def UsdcComing (w : MarketWorld) : Prop :=
  w.usdcDelivered = true ∨
    ∃ reading ∈ w.transit, ∃ usdcBalance fetchedAt,
      reading.event = .onchainUsdc usdcBalance fetchedAt

/-- What a poll under way has read and sent. -/
def Polls (symbol : Symbol) (w : MarketWorld) : VaultPoll → Prop
  | .idle => True
  | .equityRead balances seen => w.ReadEquity symbol balances seen
  | .equitySent _ => w.EquityComing symbol
  | .usdcRead usdcBalance _ seen => w.ReadUsdc usdcBalance seen ∧ w.EquityComing symbol

/-- What was recorded is a reading of the vaults. -/
def Carries (symbol : Symbol) (w : MarketWorld) (reading : VaultReading) : Prop :=
  match reading.event with
  | .onchainEquity balances _ => w.ReadEquity symbol balances reading.seen
  | .onchainUsdc usdcBalance _ => w.ReadUsdc usdcBalance reading.seen
  | _ => False

/-- Once there is a mirror, it lacks what waits for the reactor and nothing else. -/
structure Mirrors (symbol : Symbol) (w : MarketWorld) : Prop where
  equityQuiet : EquityView.Untransferred (w.view.equity symbol)
  usdcQuiet : EquityView.Untransferred w.view.usdc
  equity : (w.view.onchainEquitySnapshotWatermarks symbol).isSome →
    w.view.vaultAvailable symbol + waiting VaultFill.equityMove w.fills = w.vaultEquity
  usdc : w.usdcDelivered = true →
    w.view.usdc.available .marketMaking + waiting VaultFill.usdcMove w.fills = w.vaultUsdc
  poll : w.Polls symbol w.poll
  transit : ∀ reading ∈ w.transit, w.Carries symbol reading
  knowsEquity : InventorySnapshot.KnowsEquity w.snapshots symbol → w.EquityComing symbol
  knowsUsdc : InventorySnapshot.KnowsUsdc w.snapshots → w.UsdcComing
  polled : w.polled.isSome → w.EquityComing symbol ∧ w.UsdcComing

omit [FloatFormat] in
theorem Fresh.mirrors (fresh : w.Fresh symbol) : w.Mirrors symbol where
  equityQuiet := fresh.equity
  usdcQuiet := fresh.usdc
  equity := by simp [fresh.watermark]
  usdc := by simp [fresh.usdcDelivered]
  poll := by
    rw [fresh.poll]
    trivial
  transit := by simp [fresh.transit]
  knowsEquity := by
    rintro ⟨entity, live, -⟩
    rw [fresh.snapshots] at live
    cases live
  knowsUsdc := by
    rintro ⟨entity, live, -⟩
    rw [fresh.snapshots] at live
    cases live
  polled := by simp [fresh.polled]

omit [FloatFormat] in
/-- In the end, nothing waits and nothing is on its way. -/
theorem Mirrors.right (mirrors : w.Mirrors symbol) (settled : w.Settled) : w.Right symbol := by
  obtain ⟨equity, usdc⟩ := mirrors.polled (by simp [settled.polled])
  have tracked : (w.view.onchainEquitySnapshotWatermarks symbol).isSome := by
    refine equity.resolve_right ?_
    rintro ⟨reading, listed, -⟩
    rw [settled.transit] at listed
    cases listed
  have delivered : w.usdcDelivered = true := by
    refine usdc.resolve_right ?_
    rintro ⟨reading, listed, -⟩
    rw [settled.transit] at listed
    cases listed
  have shares := mirrors.equity tracked
  have cash := mirrors.usdc delivered
  rw [waiting_processed settled.processed, add_zero] at shares cash
  exact ⟨shares, cash⟩

/-! ### What a step keeps of the readings -/

/-- Readings still show the vaults, and what was on its way is or has arrived. -/
structure Keeps (symbol : Symbol) (w w' : MarketWorld) : Prop where
  equity : ∀ balances seen, w.ReadEquity symbol balances seen → w'.ReadEquity symbol balances seen
  usdc : ∀ usdcBalance seen, w.ReadUsdc usdcBalance seen → w'.ReadUsdc usdcBalance seen
  equityComing : w.EquityComing symbol → w'.EquityComing symbol
  usdcComing : w.UsdcComing → w'.UsdcComing

omit [FloatFormat] in
theorem Keeps.polls (keeps : Keeps symbol w w') {poll : VaultPoll} (polls : w.Polls symbol poll) :
    w'.Polls symbol poll := by
  cases poll with
  | idle => trivial
  | equityRead balances seen => exact keeps.equity balances seen polls
  | equitySent seen => exact keeps.equityComing polls
  | usdcRead usdcBalance equitySeen seen =>
      exact ⟨keeps.usdc usdcBalance seen polls.1, keeps.equityComing polls.2⟩

omit [FloatFormat] in
theorem Keeps.carries (keeps : Keeps symbol w w') {reading : VaultReading}
    (carries : w.Carries symbol reading) : w'.Carries symbol reading := by
  unfold Carries at carries ⊢
  split at carries
  · exact keeps.equity _ _ carries
  · exact keeps.usdc _ _ carries
  · exact carries.elim

omit [FloatFormat] in
/-- Steps that leave the vaults and the fills alone. -/
theorem keeps_of_same (fills : w'.fills.map Prod.fst = w.fills.map Prod.fst)
    (vaultEquity : w'.vaultEquity = w.vaultEquity) (vaultUsdc : w'.vaultUsdc = w.vaultUsdc)
    (equityComing : w.EquityComing symbol → w'.EquityComing symbol)
    (usdcComing : w.UsdcComing → w'.UsdcComing) : Keeps symbol w w' := by
  have length : w'.fills.length = w.fills.length := by
    simpa using congrArg List.length fills
  refine ⟨?_, ?_, equityComing, usdcComing⟩
  · rintro balances seen ⟨past, amount, listed, shows⟩
    refine ⟨length ▸ past, amount, listed, ?_⟩
    rw [since, fills, vaultEquity]
    exact shows
  · rintro usdcBalance seen ⟨past, shows⟩
    refine ⟨length ▸ past, ?_⟩
    rw [since, fills, vaultUsdc]
    exact shows

omit [FloatFormat] in
/-- Steps that record nothing and put nothing on its way. -/
theorem Mirrors.of_keeps (mirrors : w.Mirrors symbol) (keeps : Keeps symbol w w')
    (equityQuiet : EquityView.Untransferred (w'.view.equity symbol))
    (usdcQuiet : EquityView.Untransferred w'.view.usdc)
    (equity : (w'.view.onchainEquitySnapshotWatermarks symbol).isSome →
      w'.view.vaultAvailable symbol + waiting VaultFill.equityMove w'.fills = w'.vaultEquity)
    (usdc : w'.usdcDelivered = true →
      w'.view.usdc.available .marketMaking + waiting VaultFill.usdcMove w'.fills = w'.vaultUsdc)
    (transit : ∀ reading ∈ w'.transit, reading ∈ w.transit)
    (poll : w'.poll = w.poll) (snapshots : w'.snapshots = w.snapshots)
    (polled : w'.polled = w.polled) : w'.Mirrors symbol where
  equityQuiet := equityQuiet
  usdcQuiet := usdcQuiet
  equity := equity
  usdc := usdc
  poll := by
    rw [poll]
    exact keeps.polls mirrors.poll
  transit reading listed := keeps.carries (mirrors.transit reading (transit reading listed))
  knowsEquity := by
    rw [snapshots]
    exact fun knows => keeps.equityComing (mirrors.knowsEquity knows)
  knowsUsdc := by
    rw [snapshots]
    exact fun knows => keeps.usdcComing (mirrors.knowsUsdc knows)
  polled := by
    rw [polled]
    intro done
    obtain ⟨equity, usdc⟩ := mirrors.polled done
    exact ⟨keeps.equityComing equity, keeps.usdcComing usdc⟩

omit [FloatFormat] in
theorem Mirrors.fill (mirrors : w.Mirrors symbol) (fill : VaultFill) :
    Mirrors symbol { w with
      vaultEquity := w.vaultEquity + fill.equityMove
      vaultUsdc := w.vaultUsdc + fill.usdcMove
      fills := w.fills ++ [(fill, false)] } := by
  have keeps : Keeps symbol w { w with
      vaultEquity := w.vaultEquity + fill.equityMove
      vaultUsdc := w.vaultUsdc + fill.usdcMove
      fills := w.fills ++ [(fill, false)] } := by
    refine ⟨?_, ?_, id, id⟩
    · rintro balances seen ⟨past, amount, listed, shows⟩
      refine ⟨by simp; omega, amount, listed, ?_⟩
      simp only [since_concat past, ← shows]
      ring
    · rintro usdcBalance seen ⟨past, shows⟩
      refine ⟨by simp; omega, ?_⟩
      simp only [since_concat past, ← shows]
      ring
  have waits (move : VaultFill → ℚ) :
      waiting move (w.fills ++ [(fill, false)]) = waiting move w.fills + move fill := by
    rw [waiting_append]
    simp [waiting]
  refine mirrors.of_keeps keeps mirrors.equityQuiet mirrors.usdcQuiet ?_ ?_ (fun _ => id) rfl rfl
    rfl
  · intro tracked
    simp only [waits, ← mirrors.equity tracked]
    ring
  · intro delivered
    simp only [waits, ← mirrors.usdc delivered]
    ring

theorem Mirrors.process (exact : FloatFormat.IsExact) (mirrors : w.Mirrors symbol) {index : Nat}
    {fill : VaultFill} (found : w.fills[index]? = some (fill, false))
    (covers : w.Tracked symbol → w.Covers symbol fill) :
    Mirrors symbol { w with
      view := (w.view.reactToPosition symbol w.clock fill.event).view
      fills := w.fills.set index (fill, true) } := by
  obtain ⟨watermarks, equityQuiet, usdcQuiet⟩ :=
    EquityView.react_fill_quiet fill w.clock mirrors.equityQuiet mirrors.usdcQuiet
  have moves (tracked : w.Tracked symbol) :
      (w.view.reactToPosition symbol w.clock fill.event).view.vaultAvailable symbol =
          w.view.vaultAvailable symbol + fill.equityMove ∧
        (w.view.reactToPosition symbol w.clock fill.event).view.usdc.available .marketMaking =
          w.view.usdc.available .marketMaking + fill.usdcMove := by
    have covered := covers tracked
    unfold Covers at covered
    refine EquityView.react_fill_moves exact w.clock ?_ ?_
    · intro sells
      rw [sells] at covered
      exact covered
    · intro buys
      rw [buys] at covered
      exact covered
  have keeps : Keeps symbol w { w with
      view := (w.view.reactToPosition symbol w.clock fill.event).view
      fills := w.fills.set index (fill, true) } := by
    refine keeps_of_same (map_fst_set found) rfl rfl ?_ id
    unfold EquityComing
    rw [watermarks]
    exact id
  refine mirrors.of_keeps keeps equityQuiet usdcQuiet ?_ ?_ (fun _ => id) rfl rfl rfl
  · intro tracked
    dsimp only at tracked ⊢
    rw [watermarks] at tracked
    rw [(moves (.inl tracked)).1, ← mirrors.equity tracked, waiting_set found]
    ring
  · intro delivered
    dsimp only at delivered ⊢
    rw [(moves (.inr delivered)).2, ← mirrors.usdc delivered, waiting_set found]
    ring

omit [FloatFormat] in
/-- A poll goes on. -/
theorem Mirrors.polling (mirrors : w.Mirrors symbol) {poll : VaultPoll}
    (polls : w.Polls symbol poll) : Mirrors symbol { w with poll := poll } := by
  have keeps : Keeps symbol w { w with poll := poll } := keeps_of_same rfl rfl rfl id id
  exact ⟨mirrors.equityQuiet, mirrors.usdcQuiet, mirrors.equity, mirrors.usdc, keeps.polls polls,
    fun reading listed => keeps.carries (mirrors.transit reading listed), mirrors.knowsEquity,
    mirrors.knowsUsdc, mirrors.polled⟩

omit [FloatFormat] in
theorem readEquity_now {balances : Balances}
    (listed : balances.lookup symbol = some w.vaultEquity) :
    w.ReadEquity symbol balances w.fills.length :=
  ⟨le_rfl, w.vaultEquity, listed, by rw [since_now, add_zero]⟩

omit [FloatFormat] in
theorem readUsdc_now : w.ReadUsdc w.vaultUsdc w.fills.length :=
  ⟨le_rfl, by rw [since_now, add_zero]⟩

omit [FloatFormat] in
/-- What is sent is put on its way, or was recorded before. -/
theorem send_cases {command : InventorySnapshotCommand} {seen : Nat}
    (sent : w.send command seen = some w') :
    w' = { w with
        snapshots := w.snapshots ++ [command.recorded w.clock]
        transit := w.transit ++ [⟨command.recorded w.clock, seen⟩] } ∨
      w' = w ∧ ∃ entity, InventorySnapshot.aggregate.lifecycle w.snapshots = .live entity ∧
        entity.unchanged command := by
  unfold send at sent
  rcases InventorySnapshot.send_cases w.clock command w.snapshots with new | ⟨same, known⟩
  · rw [new] at sent
    cases sent
    exact .inl rfl
  · rw [same] at sent
    refine .inr ⟨?_, known⟩
    simpa using sent.symm

omit [FloatFormat] in
/-- A reading that is recorded is on its way. -/
theorem Mirrors.recorded (mirrors : w.Mirrors symbol) {reading : VaultReading}
    (carries : w.Carries symbol reading) :
    Mirrors symbol { w with
      snapshots := w.snapshots ++ [reading.event], transit := w.transit ++ [reading] } := by
  have keeps : Keeps symbol w { w with
      snapshots := w.snapshots ++ [reading.event], transit := w.transit ++ [reading] } := by
    refine keeps_of_same rfl rfl rfl (.imp id ?_) (.imp id ?_)
    · rintro ⟨earlier, listed, event⟩
      exact ⟨earlier, List.mem_append_left _ listed, event⟩
    · rintro ⟨earlier, listed, event⟩
      exact ⟨earlier, List.mem_append_left _ listed, event⟩
  refine ⟨mirrors.equityQuiet, mirrors.usdcQuiet, mirrors.equity, mirrors.usdc,
    keeps.polls mirrors.poll, ?_, fun knows => ?_, fun knows => ?_, fun polled => ?_⟩
  · intro other listed
    rcases List.mem_append.mp listed with old | new
    · exact keeps.carries (mirrors.transit other old)
    · rw [List.mem_singleton.mp new]
      exact keeps.carries carries
  · by_cases shares : ∃ balances fetchedAt, reading.event = .onchainEquity balances fetchedAt
    · exact .inr ⟨reading, List.mem_append_right _ List.mem_cons_self, shares⟩
    · refine keeps.equityComing (mirrors.knowsEquity (knows.of_concat ?_))
      intro balances fetchedAt same
      exact shares ⟨balances, fetchedAt, same⟩
  · by_cases cash : ∃ usdcBalance fetchedAt, reading.event = .onchainUsdc usdcBalance fetchedAt
    · exact .inr ⟨reading, List.mem_append_right _ List.mem_cons_self, cash⟩
    · refine keeps.usdcComing (mirrors.knowsUsdc (knows.of_concat ?_))
      intro usdcBalance fetchedAt same
      exact cash ⟨usdcBalance, fetchedAt, same⟩
  · obtain ⟨equity, usdc⟩ := mirrors.polled polled
    exact ⟨keeps.equityComing equity, keeps.usdcComing usdc⟩

omit [FloatFormat] in
theorem Mirrors.sendEquity (mirrors : w.Mirrors symbol) {balances : Balances} {seen : Nat}
    (read : w.ReadEquity symbol balances seen)
    (sent : w.send (.onchainEquity balances) seen = some w') :
    w'.Mirrors symbol ∧ w'.EquityComing symbol := by
  have carries : w.Carries symbol ⟨.onchainEquity balances w.clock, seen⟩ := read
  rcases send_cases sent with rfl | ⟨rfl, entity, live, same⟩
  · refine ⟨mirrors.recorded carries, .inr ⟨_, List.mem_append_right _ List.mem_cons_self, ?_⟩⟩
    exact ⟨balances, w.clock, rfl⟩
  · obtain ⟨amount, listed, -⟩ := read.shows
    have known := InventorySnapshot.KnowsEquity.of_unchanged live same
      (AList.lookup_isSome.mp (by rw [listed]; rfl))
    exact ⟨mirrors, mirrors.knowsEquity known⟩

omit [FloatFormat] in
theorem Mirrors.sendUsdc (mirrors : w.Mirrors symbol) {usdcBalance : Usdc} {seen : Nat}
    (read : w.ReadUsdc usdcBalance seen)
    (sent : w.send (.onchainUsdc usdcBalance) seen = some w') :
    w'.Mirrors symbol ∧ w'.UsdcComing := by
  have carries : w.Carries symbol ⟨.onchainUsdc usdcBalance w.clock, seen⟩ := read
  rcases send_cases sent with rfl | ⟨rfl, entity, live, same⟩
  · refine ⟨mirrors.recorded carries, .inr ⟨_, List.mem_append_right _ List.mem_cons_self, ?_⟩⟩
    exact ⟨usdcBalance, w.clock, rfl⟩
  · exact ⟨mirrors, mirrors.knowsUsdc (InventorySnapshot.KnowsUsdc.of_unchanged live same)⟩

omit [FloatFormat] in
/-- A poll is done once both readings are sent. -/
theorem Mirrors.done (mirrors : w.Mirrors symbol) (equity : w.EquityComing symbol)
    (usdc : w.UsdcComing) (seen : Nat) :
    Mirrors symbol { w with poll := .idle, polled := some seen } := by
  have keeps : Keeps symbol w { w with poll := .idle, polled := some seen } :=
    keeps_of_same rfl rfl rfl id id
  exact ⟨mirrors.equityQuiet, mirrors.usdcQuiet, mirrors.equity, mirrors.usdc, trivial,
    fun reading listed => keeps.carries (mirrors.transit reading listed), mirrors.knowsEquity,
    mirrors.knowsUsdc, fun _ => ⟨equity, usdc⟩⟩

omit [FloatFormat] in
/-- The others stay on their way. -/
theorem mem_transit_of_ne {index : Nat} {reading other : VaultReading}
    (found : w.transit[index]? = some reading) (listed : other ∈ w.transit)
    (apart : other ≠ reading) : other ∈ w.transit.eraseIdx index := by
  obtain ⟨position, at_position⟩ := List.mem_iff_getElem?.mp listed
  refine List.mem_eraseIdx_iff_getElem?.mpr ⟨position, ?_, at_position⟩
  rintro rfl
  rw [found] at at_position
  cases at_position
  exact apart rfl

omit [FloatFormat] in
theorem Mirrors.deliverEquity (mirrors : w.Mirrors symbol) {index : Nat} {balances : Balances}
    {fetchedAt : Time} {seen : Nat} {view : EquityView}
    (found : w.transit[index]? = some ⟨.onchainEquity balances fetchedAt, seen⟩)
    (shows : (w.view.slot .marketMaking symbol).wouldApply .marketMaking fetchedAt → w.Shows seen)
    (delivered : w.view.onVaultSnapshot w.clock (.onchainEquity balances fetchedAt) = .ok view) :
    Mirrors symbol { w with view := view, transit := w.transit.eraseIdx index } := by
  have read : w.ReadEquity symbol balances seen := mirrors.transit _ (List.mem_of_getElem? found)
  obtain ⟨amount, listed, wasRead⟩ := read.shows
  obtain ⟨usdc, equityQuiet, tracked, taken⟩ :=
    EquityView.onVaultSnapshot_equity listed delivered mirrors.equityQuiet
  have keeps : Keeps symbol w { w with view := view, transit := w.transit.eraseIdx index } := by
    refine keeps_of_same rfl rfl rfl (fun _ => .inl tracked) (.imp id ?_)
    rintro ⟨other, listed, usdcBalance, fetchedAt, event⟩
    refine ⟨other, mem_transit_of_ne found listed ?_, usdcBalance, fetchedAt, event⟩
    rintro rfl
    cases event
  refine mirrors.of_keeps keeps equityQuiet (usdc ▸ mirrors.usdcQuiet) (fun _ => ?_) ?_
    (fun _ => List.mem_of_mem_eraseIdx) rfl rfl rfl
  · dsimp only
    rcases taken with ⟨applies, same⟩ | ⟨known, same⟩
    · rw [same, waiting_eq_since w (shows applies)]
      exact wasRead
    · rw [same]
      exact mirrors.equity known
  · dsimp only
    rw [usdc]
    exact mirrors.usdc

omit [FloatFormat] in
theorem Mirrors.deliverUsdc (mirrors : w.Mirrors symbol) {index : Nat} {usdcBalance : Usdc}
    {fetchedAt : Time} {seen : Nat} {view : EquityView}
    (found : w.transit[index]? = some ⟨.onchainUsdc usdcBalance fetchedAt, seen⟩)
    (shows : w.Shows seen)
    (delivered : w.view.onVaultSnapshot w.clock (.onchainUsdc usdcBalance fetchedAt) = .ok view) :
    Mirrors symbol { w with
      view := view, transit := w.transit.eraseIdx index, usdcDelivered := true } := by
  have read : w.ReadUsdc usdcBalance seen := mirrors.transit _ (List.mem_of_getElem? found)
  obtain rfl := EquityView.onVaultSnapshot_usdc delivered mirrors.usdcQuiet
  have keeps : Keeps symbol w { w with
      view := { w.view with
        usdc := w.view.usdc.setVenue .marketMaking (some ⟨usdcBalance, 0⟩), lastUpdated := w.clock }
      transit := w.transit.eraseIdx index, usdcDelivered := true } := by
    refine keeps_of_same rfl rfl rfl (.imp id ?_) (fun _ => .inl rfl)
    rintro ⟨other, listed, balances, fetchedAt, event⟩
    refine ⟨other, mem_transit_of_ne found listed ?_, balances, fetchedAt, event⟩
    rintro rfl
    cases event
  refine mirrors.of_keeps keeps mirrors.equityQuiet (mirrors.usdcQuiet.setVenue .marketMaking rfl)
    mirrors.equity (fun _ => ?_) (fun _ => List.mem_of_mem_eraseIdx) rfl rfl rfl
  rw [waiting_eq_since w shows, ← read.shows]
  simp [Inventory.available]

omit [FloatFormat] in
/-- Other readings are no readings of the vaults. -/
theorem Mirrors.recordOther (mirrors : w.Mirrors symbol) {command : InventorySnapshotCommand}
    (other : command.isVaults = false) {events : List InventorySnapshotEvent}
    (sent : InventorySnapshot.aggregate.send w.clock command w.snapshots = .ok events) :
    Mirrors symbol { w with snapshots := w.snapshots ++ events } := by
  have keeps : Keeps symbol w { w with snapshots := w.snapshots ++ events } :=
    keeps_of_same rfl rfl rfl id id
  have notEquity (balances : Balances) (fetchedAt : Time) :
      command.recorded w.clock ≠ .onchainEquity balances fetchedAt := by
    intro same
    cases command <;> cases same
    cases other
  have notUsdc (usdcBalance : Usdc) (fetchedAt : Time) :
      command.recorded w.clock ≠ .onchainUsdc usdcBalance fetchedAt := by
    intro same
    cases command <;> cases same
    cases other
  refine ⟨mirrors.equityQuiet, mirrors.usdcQuiet, mirrors.equity, mirrors.usdc,
    keeps.polls mirrors.poll, fun reading listed => keeps.carries (mirrors.transit reading listed),
    fun knows => ?_, fun knows => ?_, mirrors.polled⟩
  · rcases InventorySnapshot.send_cases w.clock command w.snapshots with new | ⟨same, -⟩
    · rw [new] at sent
      cases sent
      exact mirrors.knowsEquity (knows.of_concat notEquity)
    · rw [same] at sent
      cases sent
      exact mirrors.knowsEquity (by simpa using knows)
  · rcases InventorySnapshot.send_cases w.clock command w.snapshots with new | ⟨same, -⟩
    · rw [new] at sent
      cases sent
      exact mirrors.knowsUsdc (knows.of_concat notUsdc)
    · rw [same] at sent
      cases sent
      exact mirrors.knowsUsdc (by simpa using knows)

omit [FloatFormat] in
/-- The rest of the bot leaves the mirror of the vaults alone. -/
theorem Mirrors.elsewhere (mirrors : w.Mirrors symbol) {view : EquityView}
    (onchain : (view.equity symbol).onchain = (w.view.equity symbol).onchain)
    (usdc : view.usdc.onchain = w.view.usdc.onchain)
    (watermark : view.onchainEquitySnapshotWatermarks symbol =
      w.view.onchainEquitySnapshotWatermarks symbol)
    (equityQuiet : EquityView.Untransferred (view.equity symbol))
    (usdcQuiet : EquityView.Untransferred view.usdc) :
    Mirrors symbol { w with view := view } := by
  have keeps : Keeps symbol w { w with view := view } := by
    refine keeps_of_same rfl rfl rfl ?_ id
    unfold EquityComing
    rw [watermark]
    exact id
  have shares : view.vaultAvailable symbol = w.view.vaultAvailable symbol := by
    simp only [EquityView.vaultAvailable, Inventory.available, Inventory.balance,
      Inventory.getVenue, onchain]
  have cash : view.usdc.available .marketMaking = w.view.usdc.available .marketMaking := by
    simp only [Inventory.available, Inventory.balance, Inventory.getVenue, usdc]
  refine mirrors.of_keeps keeps equityQuiet usdcQuiet ?_ ?_ (fun _ => id) rfl rfl rfl
  · dsimp only
    rw [watermark, shares]
    exact mirrors.equity
  · dsimp only
    rw [cash]
    exact mirrors.usdc

/-- Every step that counts fills once keeps the mirror. -/
theorem Mirrors.step (exact : FloatFormat.IsExact) {step : MarketStep} (mirrors : w.Mirrors symbol)
    (counted : w.CountedOnce symbol step) (acted : w.act symbol step = some w') :
    w'.Mirrors symbol := by
  have poll := mirrors.poll
  cases step with
  | fill fill =>
      simp only [act] at acted
      split at acted <;> cases acted
      exact mirrors.fill fill
  | process index =>
      simp only [act] at acted
      split at acted
      · rename_i fill found
        cases acted
        refine mirrors.process exact found fun tracked => ?_
        exact counted tracked (fill, false) found
      · cases acted
  | readEquity balances =>
      simp only [act] at acted
      split at acted
      · split at acted
        · rename_i listed
          cases acted
          exact mirrors.polling (readEquity_now listed)
        · cases acted
      · cases acted
  | sendEquity =>
      simp only [act] at acted
      split at acted
      · rename_i balances seen underWay
        rw [underWay] at poll
        obtain ⟨sent, done, rfl⟩ := Option.map_eq_some_iff.mp acted
        obtain ⟨mirrors, coming⟩ := mirrors.sendEquity poll done
        exact mirrors.polling coming
      · cases acted
  | readUsdc =>
      simp only [act] at acted
      split at acted
      · rename_i seen underWay
        rw [underWay] at poll
        cases acted
        exact mirrors.polling ⟨readUsdc_now, poll⟩
      · cases acted
  | sendUsdc =>
      simp only [act] at acted
      split at acted
      · rename_i usdcBalance equitySeen seen underWay
        rw [underWay] at poll
        obtain ⟨sent, done, rfl⟩ := Option.map_eq_some_iff.mp acted
        have still : sent.poll = w.poll := by
          rcases send_cases done with rfl | ⟨rfl, -⟩ <;> rfl
        obtain ⟨mirrors, coming⟩ := mirrors.sendUsdc poll.1 done
        have later := mirrors.poll
        rw [still, underWay] at later
        exact mirrors.done later.2 coming equitySeen
      · cases acted
  | abandon =>
      cases acted
      exact mirrors.polling trivial
  | deliver index =>
      simp only [act] at acted
      split at acted
      · rename_i reading found
        split at acted
        · rename_i view delivered
          cases acted
          have counted := counted reading found
          have carries := mirrors.transit reading (List.mem_of_getElem? found)
          obtain ⟨event, seen⟩ := reading
          cases event with
          | onchainEquity balances fetchedAt =>
              have taken := mirrors.deliverEquity found counted delivered
              simpa using taken
          | onchainUsdc usdcBalance fetchedAt =>
              have taken := mirrors.deliverUsdc found counted delivered
              simpa using taken
          | _ => exact carries.elim
        · cases acted
      · cases acted
  | record command =>
      simp only [act] at acted
      split at acted
      · cases acted
      · rename_i other
        split at acted
        · rename_i events sent
          cases acted
          exact mirrors.recordOther (Bool.not_eq_true _ ▸ other) sent
        · cases acted
  | tick passed =>
      cases acted
      exact mirrors.of_keeps (keeps_of_same rfl rfl rfl id id) mirrors.equityQuiet
        mirrors.usdcQuiet mirrors.equity mirrors.usdc (fun _ => id) rfl rfl rfl
  | elsewhere view =>
      simp only [act] at acted
      split at acted
      · rename_i same
        obtain ⟨onchain, usdc, watermark, equityQuiet, usdcQuiet⟩ := same
        cases acted
        exact mirrors.elsewhere onchain usdc watermark equityQuiet usdcQuiet
      · cases acted

/-- Where every reading that is taken over shows the fills that were processed, and
every fill is covered, the view shows what the vaults hold whenever all fills were
processed and a later poll was handled. -/
theorem vaults_mirrored (exact : FloatFormat.IsExact) {start : MarketWorld}
    (fresh : start.Fresh symbol) {steps : List MarketStep}
    (counted : Throughout (act symbol) (CountedOnce symbol) start steps)
    (ran : runSteps (act symbol) start steps = some w) (settled : w.Settled) : w.Right symbol :=
  (runSteps_invariant (fun _ _ _ mirrors counted acted => mirrors.step exact counted acted)
    fresh.mirrors counted ran).right settled

section Runs

omit [FloatFormat]

/-- A poll from its first reading to its last command. -/
def polling (balances : Balances) : List MarketStep :=
  [.tick 1, .readEquity balances, .sendEquity, .readUsdc, .sendUsdc]

/-- The equity and cash readings of a poll are delivered. -/
def delivering : List MarketStep := [.deliver 0, .deliver 0]

/-- Whether a state is settled. -/
def ended (w : MarketWorld) : Bool :=
  w.fills.all Prod.snd && w.transit.isEmpty && w.polled = some w.fills.length

theorem settled_of_ended {run : Option MarketWorld} (ends : run.any ended) :
    ∃ w, run = some w ∧ w.Settled := by
  obtain ⟨w, rfl, ends⟩ := (Option.any_eq_true ended run).mp ends
  have ends :
      (w.fills.all Prod.snd && w.transit.isEmpty && w.polled = some w.fills.length) = true := ends
  simp only [Bool.and_eq_true, List.all_eq_true, List.isEmpty_iff, decide_eq_true_eq] at ends
  exact ⟨w, rfl, ends.1.1, ends.1.2, ends.2⟩

def tenShares : MarketWorld :=
  ⟨.empty, 0, 10, 100, [], [], .idle, [], false, none⟩

def saleOfTwo : VaultFill := ⟨⟨1, 0⟩, ⟨2, Positive.two_pos⟩, .sell, ⟨10, Positive.ten_pos⟩, 1, 1⟩

theorem tenShares_fresh : tenShares.Fresh "AAPL" where
  fills := rfl
  snapshots := rfl
  poll := rfl
  transit := rfl
  usdcDelivered := rfl
  polled := rfl
  watermark := rfl
  equity := by decide
  usdc := by decide

/-- A poll, a sale that the reactor processes, and a poll again. -/
def orderlySale : List MarketStep :=
  polling (.singleton "AAPL" 10) ++ delivering ++ [.fill saleOfTwo, .process 0] ++
    polling (.singleton "AAPL" 8) ++ delivering

theorem orderlySale_mirrored :
    ∃ w, runSteps (@act .exact "AAPL") tenShares orderlySale = some w ∧ w.Settled ∧
      w.Right "AAPL" := by
  obtain ⟨w, ran, settled⟩ := settled_of_ended
    (show (runSteps (@act .exact "AAPL") tenShares orderlySale).any ended by decide +kernel)
  exact ⟨w, ran, settled, @vaults_mirrored .exact "AAPL" w FloatFormat.exact_isExact tenShares
    tenShares_fresh orderlySale (by decide +kernel) ran settled⟩

/-- The poll after the sale comes before the reactor, and the one after the reactor
finds nothing new. -/
def saleCountedTwice : List MarketStep :=
  polling (.singleton "AAPL" 10) ++ delivering ++ [.fill saleOfTwo] ++
    polling (.singleton "AAPL" 8) ++ delivering ++ [.process 0] ++
    polling (.singleton "AAPL" 8)

theorem sale_counted_twice :
    ∃ w, runSteps (@act .exact "AAPL") tenShares saleCountedTwice = some w ∧ w.Settled ∧
      w.vaultEquity = 8 ∧ w.view.vaultAvailable "AAPL" = 6 ∧
      w.vaultUsdc = 120 ∧ w.view.usdc.available .marketMaking = 140 := by
  obtain ⟨w, ran, settled⟩ := settled_of_ended
    (show (runSteps (@act .exact "AAPL") tenShares saleCountedTwice).any ended by decide +kernel)
  have balances : (runSteps (@act .exact "AAPL") tenShares saleCountedTwice).all (fun w =>
      w.vaultEquity = 8 ∧ w.view.vaultAvailable "AAPL" = 6 ∧ w.vaultUsdc = 120 ∧
        w.view.usdc.available .marketMaking = 140) := by decide +kernel
  rw [ran] at balances
  exact ⟨w, ran, settled, of_decide_eq_true balances⟩

end Runs

end MarketWorld

end Liquidity
