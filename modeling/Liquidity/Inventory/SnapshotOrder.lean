import Liquidity.Inventory.View
import Mathlib.Data.List.Perm.Basic
import Mathlib.Data.List.Nodup

/-!
# The order readings are delivered in

Readings are fetched one after another and delivered in any order. What the view
ends up with should be the newest one. The watermark that keeps older readings
out is kept per symbol, and only for symbols that were listed or tracked; at the
wallets it is kept in the entries themselves. A newest reading that omits a
symbol may leave nothing behind that would keep an older one out.
-/

namespace Liquidity

/-- A complete reading of one venue or wallet. -/
structure Snapshot where
  balances : Balances
  fetchedAt : Time
  deriving DecidableEq

def Snapshot.listed (snapshot : Snapshot) (symbol : Symbol) : Option FractionalShares :=
  snapshot.balances.lookup symbol

/-- A reading of the cash in one wallet. -/
structure CashSnapshot where
  amount : Usdc
  fetchedAt : Time
  deriving DecidableEq

/-- Readings fetched at distinct times, and the newest of them. -/
structure IsNewest {α : Type} (fetchedAt : α → Time) (newest : α) (snapshots : List α) : Prop where
  mem : newest ∈ snapshots
  distinct : (snapshots.map fetchedAt).Nodup
  latest : ∀ snapshot ∈ snapshots, fetchedAt snapshot ≤ fetchedAt newest

theorem IsNewest.eq_of_le {α : Type} {fetchedAt : α → Time} {newest : α} {snapshots : List α}
    (isNewest : IsNewest fetchedAt newest snapshots) {snapshot : α} (mem : snapshot ∈ snapshots)
    (fresh : fetchedAt newest ≤ fetchedAt snapshot) : snapshot = newest := by
  have same : fetchedAt snapshot = fetchedAt newest :=
    Nat.le_antisymm (isNewest.latest snapshot mem) fresh
  exact List.inj_on_of_nodup_map isNewest.distinct mem isNewest.mem same

/-- What is found for a symbol is what the newest reading lists; a symbol it
omits is at zero or untracked. -/
def Shown {α : Type} (zero : α) (found listed : Option α) : Prop :=
  found = listed ∨ listed = none ∧ found = some zero

/-- The last reading to list a symbol that the newest one omits listed it at zero. -/
def ListsOut (newest : Snapshot) (snapshots : List Snapshot) : Prop :=
  ∀ symbol, newest.listed symbol = none → ∀ snapshot ∈ snapshots, ∀ amount,
    snapshot.listed symbol = some amount → amount ≠ 0 →
      ∃ later ∈ snapshots, snapshot.fetchedAt < later.fetchedAt ∧ (later.listed symbol).isSome

/-- The newest reading lists something, or none ever listed anything but zeroes. -/
def LeavesEntries (newest : Snapshot) (snapshots : List Snapshot) : Prop :=
  newest.balances ≠ ∅ ∨ ∀ snapshot ∈ snapshots, ∀ symbol amount,
    snapshot.listed symbol = some amount → amount = 0

namespace EquityView

/-- Deliver readings of a venue, each processed at some time. -/
def deliverVenue (venue : Venue) (view : EquityView) (deliveries : List (Snapshot × Time)) :
    Except InventoryError EquityView :=
  deliveries.foldlM (fun view delivery => view.applyEquitySnapshot venue
    delivery.1.balances delivery.1.fetchedAt delivery.2) view

def deliverWallet (location : InFlightEquityLocation) (view : EquityView)
    (deliveries : List (Snapshot × Time)) : EquityView :=
  deliveries.foldl (fun view delivery => view.setInflightEquityAtLocation location
    delivery.1.balances delivery.1.fetchedAt delivery.2) view

@[simp] theorem deliverWallet_nil (location : InFlightEquityLocation) (view : EquityView) :
    view.deliverWallet location [] = view := rfl

@[simp] theorem deliverWallet_cons (location : InFlightEquityLocation) (view : EquityView)
    (first : Snapshot × Time) (rest : List (Snapshot × Time)) :
    view.deliverWallet location (first :: rest) = (view.setInflightEquityAtLocation location
      first.1.balances first.1.fetchedAt first.2).deliverWallet location rest := rfl

theorem deliverWallet_append (location : InFlightEquityLocation) (view : EquityView)
    (first second : List (Snapshot × Time)) :
    view.deliverWallet location (first ++ second) =
      (view.deliverWallet location first).deliverWallet location second := by
  simp [deliverWallet]

def deliverCash (location : InFlightCashLocation) (view : EquityView)
    (deliveries : List (CashSnapshot × Time)) : EquityView :=
  deliveries.foldl (fun view delivery => view.setInflightCash location
    delivery.1.amount delivery.1.fetchedAt delivery.2) view

/-! ## A venue, symbol by symbol -/

namespace Slot

/-- A symbol tracked at the venue since a reading fetched then. -/
def holding (venue : Venue) (amount : FractionalShares) (fetchedAt : Time) : Slot :=
  ⟨some (Inventory.empty.setVenue venue (some ⟨amount, 0⟩)), some fetchedAt, false, none⟩

@[simp] theorem held_fresh (venue : Venue) : Slot.fresh.held venue = none := rfl

@[simp] theorem held_holding (venue : Venue) (amount : FractionalShares) (fetchedAt : Time) :
    (holding venue amount fetchedAt).held venue = some ⟨amount, 0⟩ := by
  cases venue <;> rfl

theorem fresh_receive_none (venue : Venue) (fetchedAt : Time) :
    Slot.fresh.receive venue fetchedAt none = .fresh := by
  simp [receive, reported]

theorem fresh_receive_some (venue : Venue) (fetchedAt : Time) (amount : FractionalShares) :
    Slot.fresh.receive venue fetchedAt (some amount) = holding venue amount fetchedAt := by
  cases venue <;>
    simp [receive, reported, wouldApply, yieldsToFills, fresh, holding]

theorem holding_receive_stale {venue : Venue} {amount : FractionalShares} {kept fetchedAt : Time}
    (stale : fetchedAt ≤ kept) (listed : Option FractionalShares) :
    (holding venue amount kept).receive venue fetchedAt listed = holding venue amount kept := by
  have rejected : (holding venue amount kept).wouldApply venue fetchedAt = false := by
    simp [wouldApply, holding, stale]
  unfold receive
  split <;> simp [rejected]

theorem holding_receive_fresher {venue : Venue} {amount : FractionalShares}
    {kept fetchedAt : Time} (fresher : kept < fetchedAt) (listed : Option FractionalShares) :
    (holding venue amount kept).receive venue fetchedAt listed =
      holding venue (listed.getD 0) fetchedAt := by
  have accepted : (holding venue amount kept).wouldApply venue fetchedAt = true := by
    have not_stale : ¬ fetchedAt ≤ kept := Nat.not_le.mpr fresher
    cases venue <;>
      simp [wouldApply, yieldsToFills, holding, not_stale, Inventory.hasInflight,
        Inventory.setVenue, Inventory.empty, VenueBalance.hasInflight]
  have reports : (holding venue amount kept).reported venue listed = some (listed.getD 0) := by
    cases listed <;> simp [reported]
  simp only [receive, reports, accepted, if_true]
  cases venue <;> rfl

/-- The slot after several readings. -/
def receiveAll (venue : Venue) (symbol : Symbol) (slot : Slot) (snapshots : List Snapshot) : Slot :=
  snapshots.foldl (fun slot snapshot =>
    slot.receive venue snapshot.fetchedAt (snapshot.listed symbol)) slot

end Slot

theorem deliverVenue_slot (venue : Venue) (view : EquityView)
    (deliveries : List (Snapshot × Time)) :
    ∃ after, view.deliverVenue venue deliveries = .ok after ∧ ∀ symbol,
      after.slot venue symbol =
        (view.slot venue symbol).receiveAll venue symbol (deliveries.map Prod.fst) := by
  induction deliveries generalizing view with
  | nil => exact ⟨view, rfl, fun _ => rfl⟩
  | cons delivery rest ih =>
      obtain ⟨next, applies, slots⟩ := view.applyEquitySnapshot_slot venue delivery.1.balances
        delivery.1.fetchedAt delivery.2
      obtain ⟨after, runs, later⟩ := ih next
      refine ⟨after, ?_, fun symbol => ?_⟩
      · rw [deliverVenue, List.foldlM_cons, applies]
        exact runs
      · rw [later symbol, slots symbol]
        rfl

/-- What the readings delivered so far made of a symbol. Once one lists it, the
slot follows the freshest that came since. -/
inductive Follows (venue : Venue) (symbol : Symbol) (delivered : List Snapshot) : Slot → Prop
  | unlisted (omitted : ∀ snapshot ∈ delivered, snapshot.listed symbol = none) :
      Follows venue symbol delivered .fresh
  | follows {last first : Snapshot} (mem : last ∈ delivered) (lists : first ∈ delivered)
      (listed : (first.listed symbol).isSome)
      (freshest : ∀ snapshot ∈ delivered, (snapshot.listed symbol).isSome →
        snapshot.fetchedAt ≤ last.fetchedAt) :
      Follows venue symbol delivered
        (.holding venue ((last.listed symbol).getD 0) last.fetchedAt)

theorem Follows.receive {venue : Venue} {symbol : Symbol} {delivered : List Snapshot} {slot : Slot}
    (follows : Follows venue symbol delivered slot) (snapshot : Snapshot) :
    Follows venue symbol (delivered ++ [snapshot])
      (slot.receive venue snapshot.fetchedAt (snapshot.listed symbol)) := by
  cases follows with
  | unlisted omitted =>
      cases lists : snapshot.listed symbol with
      | none =>
          rw [Slot.fresh_receive_none]
          refine .unlisted fun other mem => ?_
          rcases List.mem_append.mp mem with mem | mem
          · exact omitted other mem
          · rw [List.mem_singleton.mp mem, lists]
      | some amount =>
          rw [Slot.fresh_receive_some]
          have value : amount = (snapshot.listed symbol).getD 0 := by rw [lists]; rfl
          rw [value]
          have here : snapshot ∈ delivered ++ [snapshot] := by simp
          refine .follows here here (by simp [lists]) ?_
          intro other mem listed
          rcases List.mem_append.mp mem with mem | mem
          · simp [omitted other mem] at listed
          · rw [List.mem_singleton.mp mem]
  | @follows last first mem lists listed freshest =>
      by_cases stale : snapshot.fetchedAt ≤ last.fetchedAt
      · rw [Slot.holding_receive_stale stale]
        refine .follows (List.mem_append_left _ mem) (List.mem_append_left _ lists) listed ?_
        intro other mem listed
        rcases List.mem_append.mp mem with mem | mem
        · exact freshest other mem listed
        · rw [List.mem_singleton.mp mem]
          exact stale
      · have fresher : last.fetchedAt < snapshot.fetchedAt := Nat.lt_of_not_le stale
        rw [Slot.holding_receive_fresher fresher]
        refine .follows (by simp) (List.mem_append_left _ lists) listed ?_
        intro other mem listed
        rcases List.mem_append.mp mem with mem | mem
        · exact Nat.le_trans (freshest other mem listed) fresher.le
        · rw [List.mem_singleton.mp mem]

theorem follows_receiveAll (venue : Venue) (symbol : Symbol) (snapshots : List Snapshot) :
    Follows venue symbol snapshots (Slot.fresh.receiveAll venue symbol snapshots) := by
  induction snapshots using List.reverseRecOn with
  | nil => exact .unlisted (by simp)
  | append_singleton rest snapshot ih =>
      rw [Slot.receiveAll, List.foldl_append]
      exact ih.receive snapshot

/-! ## Every order -/

/-- The view shows a reading's balances at a venue. -/
def ShowsVenue (view : EquityView) (venue : Venue) (snapshot : Snapshot) : Prop :=
  ∀ symbol, Shown .zero ((view.slot venue symbol).held venue)
    ((snapshot.listed symbol).map fun amount => ⟨amount, 0⟩)

def ShowsWallet (view : EquityView) (location : InFlightEquityLocation) (snapshot : Snapshot) :
    Prop :=
  ∀ symbol, Shown 0 ((view.wallet location symbol).map (·.amount)) (snapshot.listed symbol)

def ShowsCash (view : EquityView) (location : InFlightCashLocation) (snapshot : CashSnapshot) :
    Prop :=
  (view.inflightCash location).map (·.amount) = some snapshot.amount

section Orders

variable {newest : Snapshot} {snapshots : List Snapshot}

theorem deliverVenue_empty (venue : Venue) (deliveries : List (Snapshot × Time)) :
    ∃ after, empty.deliverVenue venue deliveries = .ok after ∧
      ∀ symbol, Follows venue symbol (deliveries.map Prod.fst) (after.slot venue symbol) := by
  obtain ⟨after, runs, slots⟩ := empty.deliverVenue_slot venue deliveries
  refine ⟨after, runs, fun symbol => ?_⟩
  have untouched : empty.slot venue symbol = Slot.fresh := by
    cases venue <;> simp [slot, empty, equitySnapshotWatermark, Slot.fresh]
  rw [slots symbol, untouched]
  exact follows_receiveAll venue symbol _

theorem Follows.shown {venue : Venue} {symbol : Symbol} {slot : Slot} {delivered : List Snapshot}
    (isNewest : IsNewest Snapshot.fetchedAt newest snapshots) (listsOut : ListsOut newest snapshots)
    (all : delivered.Perm snapshots) (follows : Follows venue symbol delivered slot) :
    Shown .zero (slot.held venue) ((newest.listed symbol).map fun amount => ⟨amount, 0⟩) := by
  cases follows with
  | unlisted omitted =>
      have : newest.listed symbol = none := omitted newest (all.mem_iff.mpr isNewest.mem)
      exact .inl (by simp [this])
  | @follows last first mem lists listed freshest =>
      rw [Slot.held_holding]
      cases reads : newest.listed symbol with
      | some amount =>
          have fresh := freshest newest (all.mem_iff.mpr isNewest.mem) (by simp [reads])
          have same : last = newest := isNewest.eq_of_le (all.mem_iff.mp mem) fresh
          exact .inl (by simp [same, reads])
      | none =>
          refine .inr ⟨rfl, ?_⟩
          have zero : (last.listed symbol).getD 0 = 0 := by
            cases value : last.listed symbol with
            | none => rfl
            | some amount =>
                by_contra nonzero
                obtain ⟨later, inAll, after, relists⟩ := listsOut symbol reads last
                  (all.mem_iff.mp mem) amount value nonzero
                exact absurd (freshest later (all.mem_iff.mpr inAll) relists) (Nat.not_le.mpr after)
          rw [zero]
          rfl

/-- Deliver what is later than a reading first, and what is earlier last: if the
later ones omit the symbol, the reading stands. -/
theorem stands_when_late {venue : Venue} {symbol : Symbol} {snapshot : Snapshot}
    {amount : FractionalShares} (listed : snapshot.listed symbol = some amount)
    {later earlier : List Snapshot} (omitted : ∀ other ∈ later, other.listed symbol = none)
    (older : ∀ other ∈ earlier, other.fetchedAt ≤ snapshot.fetchedAt) :
    Slot.fresh.receiveAll venue symbol (later ++ snapshot :: earlier) =
      .holding venue amount snapshot.fetchedAt := by
  have skipped : Slot.fresh.receiveAll venue symbol later = .fresh := by
    induction later with
    | nil => rfl
    | cons first rest ih =>
        rw [Slot.receiveAll, List.foldl_cons, omitted first (by simp), Slot.fresh_receive_none]
        exact ih fun other mem => omitted other (by simp [mem])
  have rejected : (Slot.holding venue amount snapshot.fetchedAt).receiveAll venue symbol earlier =
      .holding venue amount snapshot.fetchedAt := by
    induction earlier with
    | nil => rfl
    | cons first rest ih =>
        rw [Slot.receiveAll, List.foldl_cons, Slot.holding_receive_stale (older first (by simp))]
        exact ih fun other mem => older other (by simp [mem])
  have taken : Slot.fresh.receiveAll venue symbol (later ++ snapshot :: earlier) =
      ((Slot.fresh.receiveAll venue symbol later).receive venue snapshot.fetchedAt
        (snapshot.listed symbol)).receiveAll venue symbol earlier := by
    simp only [Slot.receiveAll, List.foldl_append, List.foldl_cons]
  rw [taken, skipped, listed, Slot.fresh_receive_some, rejected]

theorem venue_shows_iff (venue : Venue)
    (isNewest : IsNewest Snapshot.fetchedAt newest snapshots) :
    (∀ deliveries : List (Snapshot × Time), (deliveries.map Prod.fst).Perm snapshots →
      ∃ view, empty.deliverVenue venue deliveries = .ok view ∧ view.ShowsVenue venue newest) ↔
      ListsOut newest snapshots := by
  constructor
  · intro always symbol omitted snapshot mem amount listed nonzero
    by_contra never
    push Not at never
    let isLater : Snapshot → Bool := fun other => snapshot.fetchedAt < other.fetchedAt
    let later := snapshots.filter isLater
    let earlier := (snapshots.erase snapshot).filter fun other => !isLater other
    have order : (later ++ snapshot :: earlier).Perm snapshots := by
      have withSnapshot : (snapshot :: earlier).Perm
          (snapshots.filter fun other => !isLater other) := by
        have here : (fun other => !isLater other) snapshot = true := by simp [isLater]
        have := (List.perm_cons_erase mem).symm.filter fun other => !isLater other
        rwa [List.filter_cons_of_pos (p := fun other => !isLater other) here] at this
      exact (withSnapshot.append_left later).trans (List.filter_append_perm isLater snapshots)
    obtain ⟨view, runs, shows⟩ := always ((later ++ snapshot :: earlier).map fun s => (s, 0))
      (by rw [List.map_map]; simpa [Function.comp_def] using order)
    obtain ⟨after, runs', slots⟩ := empty.deliverVenue_slot venue
      ((later ++ snapshot :: earlier).map fun s => (s, (0 : Time)))
    rw [runs] at runs'
    cases runs'
    have untouched : empty.slot venue symbol = Slot.fresh := by
      cases venue <;> simp [slot, empty, equitySnapshotWatermark, Slot.fresh]
    have stands : view.slot venue symbol = .holding venue amount snapshot.fetchedAt := by
      rw [slots symbol, untouched, List.map_map]
      simp only [Function.comp_def, List.map_id']
      refine stands_when_late listed ?_ ?_
      · intro other inLater
        obtain ⟨inAll, isLater⟩ := List.mem_filter.mp inLater
        have := never other inAll (of_decide_eq_true isLater)
        simpa using this
      · intro other inEarlier
        have notLater := (List.mem_filter.mp inEarlier).2
        simpa [isLater] using notLater
    have shown := shows symbol
    rw [stands, Slot.held_holding, omitted] at shown
    rcases shown with found | ⟨_, found⟩
    · cases found
    · cases found
      exact nonzero rfl
  · intro listsOut deliveries all
    obtain ⟨view, runs, follows⟩ := deliverVenue_empty venue deliveries
    exact ⟨view, runs, fun symbol => (follows symbol).shown isNewest listsOut all⟩

/-! ### Wallets -/

/-- A wallet shows exactly one reading, entry by entry. -/
def Keeps (view : EquityView) (location : InFlightEquityLocation) (last : Snapshot) : Prop :=
  ∀ symbol, view.wallet location symbol =
    (last.listed symbol).map fun amount => ⟨amount, last.fetchedAt⟩

theorem Keeps.fresher_iff {view : EquityView} {location : InFlightEquityLocation} {last : Snapshot}
    (keeps : view.Keeps location last) (fetchedAt : Time) :
    view.Fresher location fetchedAt ↔ last.balances ≠ ∅ ∧ fetchedAt < last.fetchedAt := by
  have lists : last.balances ≠ ∅ ↔ ∃ symbol amount, last.listed symbol = some amount := by
    constructor
    · intro nonempty
      by_contra none
      push Not at none
      refine nonempty (AList.ext ?_)
      refine List.eq_nil_iff_forall_not_mem.mpr fun entry mem => ?_
      exact none entry.1 entry.2 (AList.mem_lookup_iff.mpr mem)
    · rintro ⟨symbol, amount, listed⟩ isEmpty
      simp [Snapshot.listed, isEmpty] at listed
  rw [lists]
  constructor
  · rintro ⟨symbol, entry, found, fresher⟩
    rw [keeps symbol] at found
    cases listed : last.listed symbol with
    | none => simp [listed] at found
    | some amount =>
        rw [listed] at found
        cases found
        exact ⟨⟨symbol, amount, listed⟩, fresher⟩
  · rintro ⟨⟨symbol, amount, listed⟩, fresher⟩
    exact ⟨symbol, _, (keeps symbol).trans (by rw [listed]; rfl), fresher⟩

/-- What a delivery does to a wallet that shows one reading. -/
theorem Keeps.deliver {view : EquityView} {location : InFlightEquityLocation} {last : Snapshot}
    (keeps : view.Keeps location last) (snapshot : Snapshot) (now : Time) :
    (last.balances ≠ ∅ ∧ snapshot.fetchedAt < last.fetchedAt →
      (view.setInflightEquityAtLocation location snapshot.balances snapshot.fetchedAt now).Keeps
        location last) ∧
    (¬ (last.balances ≠ ∅ ∧ snapshot.fetchedAt < last.fetchedAt) →
      (view.setInflightEquityAtLocation location snapshot.balances snapshot.fetchedAt now).Keeps
        location snapshot) := by
  obtain ⟨rejects, replaces⟩ := view.wallet_setInflightEquityAtLocation location
    snapshot.balances snapshot.fetchedAt now
  rw [keeps.fresher_iff] at rejects replaces
  constructor
  · intro stale
    rw [rejects stale]
    exact keeps
  · intro fresh
    exact replaces fresh

/-- A wallet nothing was delivered to shows an empty reading. -/
theorem keeps_empty (location : InFlightEquityLocation) : empty.Keeps location ⟨∅, 0⟩ :=
  fun _ => rfl

/-- After some readings a wallet shows one of them, the newest if it was among
them and lists anything. -/
theorem deliverWallet_keeps (location : InFlightEquityLocation)
    (isNewest : IsNewest Snapshot.fetchedAt newest snapshots)
    (deliveries : List (Snapshot × Time)) (among : ∀ delivery ∈ deliveries, delivery.1 ∈ snapshots) :
    ∃ last, (empty.deliverWallet location deliveries).Keeps location last ∧
      (last ∈ deliveries.map Prod.fst ∨ deliveries = [] ∧ last = ⟨∅, 0⟩) ∧
      (newest ∈ deliveries.map Prod.fst → newest.balances ≠ ∅ → last = newest) := by
  induction deliveries using List.reverseRecOn with
  | nil => exact ⟨⟨∅, 0⟩, keeps_empty location, .inr ⟨rfl, rfl⟩, by simp⟩
  | append_singleton rest delivery ih =>
      obtain ⟨last, keeps, shown, latest⟩ := ih fun other mem => among other (by simp [mem])
      obtain ⟨rejects, replaces⟩ := keeps.deliver delivery.1 delivery.2
      rw [deliverWallet_append, deliverWallet_cons, deliverWallet_nil, List.map_append]
      have delivered : delivery.1 ∈ snapshots := among delivery (by simp)
      by_cases stale : last.balances ≠ ∅ ∧ delivery.1.fetchedAt < last.fetchedAt
      · refine ⟨last, rejects stale, .inl ?_, ?_⟩
        · rcases shown with mem | ⟨_, rfl⟩
          · exact List.mem_append_left _ mem
          · exact absurd rfl stale.1
        · intro mem nonempty
          rcases List.mem_append.mp mem with mem | mem
          · exact latest mem nonempty
          · have same : newest = delivery.1 := by simpa using mem
            rcases shown with mem | ⟨_, rfl⟩
            · obtain ⟨other, inRest, rfl⟩ := List.mem_map.mp mem
              have := isNewest.latest other.1 (among other (by simp [inRest]))
              exact absurd stale.2 (Nat.not_lt.mpr (same ▸ this))
            · exact absurd rfl stale.1
      · refine ⟨delivery.1, replaces stale, .inl (by simp), ?_⟩
        intro mem nonempty
        rcases List.mem_append.mp mem with mem | mem
        · have same := latest mem nonempty
          subst same
          have fresh : last.fetchedAt ≤ delivery.1.fetchedAt :=
            Nat.not_lt.mp fun older => stale ⟨nonempty, older⟩
          exact isNewest.eq_of_le delivered fresh
        · exact (show newest = delivery.1 by simpa using mem).symm

theorem wallet_shows_iff (location : InFlightEquityLocation)
    (isNewest : IsNewest Snapshot.fetchedAt newest snapshots) :
    (∀ deliveries : List (Snapshot × Time), (deliveries.map Prod.fst).Perm snapshots →
      (empty.deliverWallet location deliveries).ShowsWallet location newest) ↔
      LeavesEntries newest snapshots := by
  constructor
  · intro always
    by_contra never
    simp only [LeavesEntries, not_or, not_not, not_forall] at never
    obtain ⟨isEmpty, snapshot, mem, symbol, amount, listed, nonzero⟩ := never
    have omitted : newest.listed symbol = none := by simp [Snapshot.listed, isEmpty]
    have other : snapshot ≠ newest := by
      rintro rfl
      rw [omitted] at listed
      cases listed
    let rest := (snapshots.erase newest).erase snapshot
    have order : (rest ++ [newest, snapshot]).Perm snapshots := by
      have first := List.perm_cons_erase isNewest.mem
      have second := List.perm_cons_erase ((List.mem_erase_of_ne other).mpr mem)
      exact List.perm_append_comm.trans ((first.trans (second.cons newest)).symm)
    have shows := always ((rest ++ [newest, snapshot]).map fun s => (s, 0))
      (by rw [List.map_map]; simpa [Function.comp_def] using order) symbol
    have inSnapshots : ∀ s ∈ rest, s ∈ snapshots := fun s inRest =>
      List.mem_of_mem_erase (List.mem_of_mem_erase inRest)
    obtain ⟨last, keeps, shown, -⟩ := deliverWallet_keeps location isNewest
      (rest.map fun s => (s, (0 : Time))) (by simpa using inSnapshots)
    have older : ¬ (last.balances ≠ ∅ ∧ newest.fetchedAt < last.fetchedAt) := by
      rintro ⟨nonempty, later⟩
      rcases shown with inRest | ⟨_, rfl⟩
      · have inRest : last ∈ rest := by simpa [Function.comp_def] using inRest
        exact absurd (isNewest.latest last (inSnapshots last inRest)) (Nat.not_le.mpr later)
      · exact nonempty rfl
    have cleared := (keeps.deliver newest 0).2 older
    have stands := (cleared.deliver snapshot 0).2 (by simp [isEmpty])
    simp only [List.map_append, deliverWallet_append, List.map_cons, List.map_nil,
      deliverWallet_cons, deliverWallet_nil] at shows
    rw [stands symbol, listed, omitted] at shows
    rcases shows with found | ⟨_, found⟩
    · cases found
    · cases found
      exact nonzero rfl
  · intro leaves deliveries all symbol
    obtain ⟨last, keeps, shown, latest⟩ := deliverWallet_keeps location isNewest deliveries
      fun delivery mem => all.mem_iff.mp (List.mem_map_of_mem mem)
    have inAll := all.mem_iff.mpr isNewest.mem
    rw [keeps symbol]
    by_cases nonempty : newest.balances ≠ ∅
    · have same := latest inAll nonempty
      exact .inl (by rw [same, Option.map_map]; simp [Function.comp_def])
    · have isEmpty : newest.balances = ∅ := not_not.mp nonempty
      have omitted : newest.listed symbol = none := by simp [Snapshot.listed, isEmpty]
      have zeroes := leaves.resolve_left nonempty
      cases listed : last.listed symbol with
      | none => exact .inl (by rw [omitted]; rfl)
      | some amount =>
          have zero : amount = 0 := by
            rcases shown with mem | ⟨_, rfl⟩
            · exact zeroes last (all.mem_iff.mp mem) symbol amount listed
            · simp [Snapshot.listed] at listed
          exact .inr ⟨omitted, by rw [zero]; rfl⟩

end Orders

/-! ### Cash -/

/-- A cash location follows the freshest reading delivered to it. -/
theorem deliverCash_follows (location : InFlightCashLocation)
    (deliveries : List (CashSnapshot × Time)) :
    deliveries = [] ∧ (empty.deliverCash location deliveries).inflightCash location = none ∨
    ∃ last ∈ deliveries.map Prod.fst,
      (empty.deliverCash location deliveries).inflightCash location =
        some ⟨last.amount, last.fetchedAt⟩ ∧
      ∀ other ∈ deliveries.map Prod.fst, other.fetchedAt ≤ last.fetchedAt := by
  induction deliveries using List.reverseRecOn with
  | nil => exact .inl ⟨rfl, rfl⟩
  | append_singleton rest delivery ih =>
      have last_step : empty.deliverCash location (rest ++ [delivery]) =
          (empty.deliverCash location rest).setInflightCash location delivery.1.amount
            delivery.1.fetchedAt delivery.2 := by
        simp [deliverCash]
      refine .inr ?_
      rw [last_step, setInflightCash]
      rcases ih with ⟨rfl, none⟩ | ⟨last, mem, kept, freshest⟩
      · exact ⟨delivery.1, by simp, by simp [none], by simp⟩
      by_cases stale : delivery.1.fetchedAt < last.fetchedAt
      · refine ⟨last, ?_, by simp [kept, stale], fun other mem => ?_⟩
        · rw [List.map_append]
          exact List.mem_append_left _ mem
        rw [List.map_append] at mem
        rcases List.mem_append.mp mem with mem | mem
        · exact freshest other mem
        · have : other = delivery.1 := by simpa using mem
          exact this ▸ stale.le
      · refine ⟨delivery.1, by simp, by simp [kept, stale], fun other mem => ?_⟩
        rw [List.map_append] at mem
        rcases List.mem_append.mp mem with mem | mem
        · exact Nat.le_trans (freshest other mem) (Nat.not_lt.mp stale)
        · have : other = delivery.1 := by simpa using mem
          exact this ▸ Nat.le_refl _

theorem deliverCash_shows (location : InFlightCashLocation) {newest : CashSnapshot}
    {snapshots : List CashSnapshot} (isNewest : IsNewest CashSnapshot.fetchedAt newest snapshots)
    (deliveries : List (CashSnapshot × Time)) (all : (deliveries.map Prod.fst).Perm snapshots) :
    (empty.deliverCash location deliveries).ShowsCash location newest := by
  have delivered := all.mem_iff.mpr isNewest.mem
  rcases deliverCash_follows location deliveries with ⟨rfl, _⟩ | ⟨last, mem, kept, freshest⟩
  · exact absurd delivered (by simp)
  · have same : last = newest := isNewest.eq_of_le (all.mem_iff.mp mem) (freshest newest delivered)
    simp [ShowsCash, kept, same]

/-- Whatever the order, the cash in a wallet is the newest reading's. A venue and
an equity wallet show the newest reading in every order exactly when nothing it
omits can come back: a venue when the last reading to list such a symbol listed
it at zero, a wallet when the newest reading lists anything at all. -/
theorem newest_reading_stands (venue : Venue) (location : InFlightEquityLocation)
    (cashLocation : InFlightCashLocation) {newest : Snapshot} {snapshots : List Snapshot}
    (isNewest : IsNewest Snapshot.fetchedAt newest snapshots) {newestCash : CashSnapshot}
    {cashSnapshots : List CashSnapshot}
    (isNewestCash : IsNewest CashSnapshot.fetchedAt newestCash cashSnapshots) :
    ((∀ deliveries : List (Snapshot × Time), (deliveries.map Prod.fst).Perm snapshots →
        ∃ view, empty.deliverVenue venue deliveries = .ok view ∧ view.ShowsVenue venue newest) ↔
      ListsOut newest snapshots) ∧
    ((∀ deliveries : List (Snapshot × Time), (deliveries.map Prod.fst).Perm snapshots →
        (empty.deliverWallet location deliveries).ShowsWallet location newest) ↔
      LeavesEntries newest snapshots) ∧
    ∀ deliveries : List (CashSnapshot × Time), (deliveries.map Prod.fst).Perm cashSnapshots →
      (empty.deliverCash cashLocation deliveries).ShowsCash cashLocation newestCash :=
  ⟨venue_shows_iff venue isNewest, wallet_shows_iff location isNewest,
    deliverCash_shows cashLocation isNewestCash⟩

/-- A holding of five shares, then none of them, then none listed. -/
def soldOut : List Snapshot :=
  [⟨.singleton "AAPL" 5, 1⟩, ⟨.singleton "AAPL" 0, 2⟩, ⟨∅, 3⟩]

/-- A venue never shows the five shares in the end; a wallet may. -/
theorem newest_reading_stands_sold_out :
    (∀ deliveries : List (Snapshot × Time), (deliveries.map Prod.fst).Perm soldOut →
      ∃ view, empty.deliverVenue .hedging deliveries = .ok view ∧
        view.ShowsVenue .hedging ⟨∅, 3⟩) ∧
    ¬ (∀ deliveries : List (Snapshot × Time), (deliveries.map Prod.fst).Perm soldOut →
      (empty.deliverWallet .baseWalletWrapped deliveries).ShowsWallet .baseWalletWrapped
        ⟨∅, 3⟩) := by
  have isNewest : IsNewest Snapshot.fetchedAt ⟨∅, 3⟩ soldOut :=
    ⟨by simp [soldOut], by decide, by simp [soldOut]⟩
  have isNewestCash : IsNewest CashSnapshot.fetchedAt ⟨0, 1⟩ [⟨0, 1⟩] :=
    ⟨by simp, by decide, by simp⟩
  have stands := newest_reading_stands .hedging .baseWalletWrapped .baseWallet isNewest isNewestCash
  constructor
  · refine stands.1.mpr fun symbol _ snapshot mem amount listed nonzero => ?_
    simp only [soldOut, List.mem_cons, List.not_mem_nil, or_false] at mem
    rcases mem with rfl | rfl | rfl
    · refine ⟨⟨.singleton "AAPL" 0, 2⟩, by simp [soldOut], by decide, ?_⟩
      have here : symbol ∈ AList.singleton (β := fun _ => FractionalShares) "AAPL" 5 :=
        AList.lookup_isSome.mp (by rw [Snapshot.listed] at listed; rw [listed]; rfl)
      exact AList.lookup_isSome.mpr (by simpa [AList.mem_keys] using here)
    · have := List.mem_singleton.mp (AList.mem_lookup_iff.mp listed)
      cases this
      exact absurd rfl nonzero
    · cases listed
  · intro always
    rcases stands.2.1.mp always with nonempty | zeroes
    · exact nonempty rfl
    · have := zeroes ⟨.singleton "AAPL" 5, 1⟩ (by simp [soldOut]) "AAPL" 5 rfl
      simp at this

/-- The newest reading is delivered first and omits the symbol; an older one that
lists it is then taken over, at the venue and at the wallet. -/
theorem omitted_symbol_comes_back :
    let older : Snapshot := ⟨.singleton "AAPL" 5, 1⟩
    let newest : Snapshot := ⟨∅, 2⟩
    IsNewest Snapshot.fetchedAt newest [older, newest] ∧
    (∃ view, empty.deliverVenue .hedging [(newest, 2), (older, 3)] = .ok view ∧
      (view.slot .hedging "AAPL").held .hedging = some ⟨5, 0⟩ ∧
      ¬ view.ShowsVenue .hedging newest) ∧
    ¬ (empty.deliverWallet .baseWalletUnwrapped [(newest, 2), (older, 3)]).ShowsWallet
      .baseWalletUnwrapped newest := by
  refine ⟨⟨by simp, by decide, by simp⟩, ⟨_, rfl, rfl, fun shows => ?_⟩, fun shows => ?_⟩
  · rcases shows "AAPL" with found | ⟨_, found⟩ <;> exact absurd found (by decide)
  · rcases shows "AAPL" with found | ⟨_, found⟩ <;> exact absurd found (by decide)

end EquityView

end Liquidity
