import Liquidity.Process.Steps
import Liquidity.Rebalancing.EquityCourse

/-!
# Equity transfers and the polls of the issuer

Two writers keep what is in flight: the events of a transfer, each adding or
taking its quantity, and the polls of the issuer's pending requests, which
replace it. A poll shows the issuer as it was at some instant, and is heard later.

A poll that is heard before the event that puts the shares in flight has them
counted twice. One that no longer lists a request, because the issuer has
completed it, zeroes what the completing event is about to take.
-/

namespace Liquidity

open Process

/-- What a poll of the issuer lists, and the stamp it was given. -/
structure InflightPoll where
  mints : Balances
  redemptions : Balances
  fetchedAt : Time

namespace InflightPoll

/-- The requests whose shares leave from a venue. -/
def listed (poll : InflightPoll) : Venue → Balances
  | .hedging => poll.mints
  | .marketMaking => poll.redemptions

end InflightPoll

/-- The request of the transfer, at the issuer. -/
inductive IssuerRequest where
  | unasked
  | pending
  | completed
  | rejected
  deriving DecidableEq, Repr

namespace EquityView

/-- The symbols the last poll listed. -/
def previousInflight (view : EquityView) : Venue → Finset Symbol
  | .hedging => view.previousInflightMintSymbols
  | .marketMaking => view.previousInflightRedemptionSymbols

end EquityView

/-- One transfer, its issuer, and the polls. -/
structure SettlementWorld (Event : Type) where
  reactor : EquityReactor
  clock : Time
  issuer : IssuerRequest
  /-- Polls that were taken and are not heard yet. -/
  waiting : List InflightPoll
  /-- The stamp of the last poll that was heard. -/
  heardAt : Time
  delivered : List Event
  answers : List (Except EquityReactorError Unit)
  /-- A poll has listed the request before its shares were put in flight, and none
  was heard since that corrects it. -/
  countedAhead : Bool

/-- Before the first event of the transfer and the first poll. -/
def SettlementWorld.start {Event : Type} (reactor : EquityReactor) (clock : Time) :
    SettlementWorld Event where
  reactor := reactor
  clock := clock
  issuer := .unasked
  waiting := []
  heardAt := 0
  delivered := []
  answers := []
  countedAhead := false

inductive SettlementStep (Event : Type) where
  | tick (passed : Nat)
  /-- The issuer has taken up the request. -/
  | ask
  | answer (completed : Bool)
  | take (poll : InflightPoll)
  | hear (index : Nat)
  | deliver (event : Event)

namespace EquityTransfer

variable {Event : Type} (transfer : EquityTransfer Event)

/-- The poll lists the transfer's request. -/
def IsListedBy (poll : InflightPoll) : Bool :=
  ((poll.listed transfer.source).lookup transfer.symbol).isSome

/-- The poll lists exactly what is pending: of this symbol, the request of the
transfer. -/
def Shows (issuer : IssuerRequest) (poll : InflightPoll) : Prop :=
  (∀ reading ∈ EquityView.listing poll.mints, 0 ≤ reading.2) ∧
  (∀ reading ∈ EquityView.listing poll.redemptions, 0 ≤ reading.2) ∧
  (poll.listed transfer.source).lookup transfer.symbol =
    (if issuer = .pending then some transfer.quantity else none) ∧
  (poll.listed transfer.source.other).lookup transfer.symbol = none

instance (issuer : IssuerRequest) (poll : InflightPoll) : Decidable (transfer.Shows issuer poll) :=
  inferInstanceAs (Decidable (_ ∧ _ ∧ _ ∧ _))

/-- A poll is not passed over for the symbol. -/
def IsTakenOver (world : SettlementWorld Event) (poll : InflightPoll) : Bool :=
  !world.reactor.view.isStaleForSymbol transfer.symbol poll.fetchedAt

/-- The poll before listed the symbol. -/
def WasListed (world : SettlementWorld Event) : Bool :=
  transfer.symbol ∈ world.reactor.view.previousInflight transfer.source

/-- How a poll bears on a request that was counted ahead. -/
def countedAheadAfter (world : SettlementWorld Event) (poll : InflightPoll) : Bool :=
  if transfer.IsTakenOver world poll then
    match transfer.course world.delivered with
    | .before =>
        transfer.IsListedBy poll || (world.countedAhead && !transfer.WasListed world)
    | .moving => world.countedAhead && !transfer.IsListedBy poll
    | _ => world.countedAhead
  else world.countedAhead

def hear (world : SettlementWorld Event) (index : Nat) (poll : InflightPoll) :
    Option (SettlementWorld Event) :=
  match world.reactor.view.applyInflightSnapshot poll.mints poll.redemptions poll.fetchedAt
      world.clock with
  | .ok view => some { world with
      reactor := { world.reactor with view }
      waiting := world.waiting.eraseIdx index
      heardAt := poll.fetchedAt
      countedAhead := transfer.countedAheadAfter world poll }
  | .error _ => none

def deliver (world : SettlementWorld Event) (event : Event) : SettlementWorld Event :=
  let outcome := transfer.react world.reactor world.clock event
  { world with
    reactor := outcome.1
    delivered := world.delivered ++ [event]
    answers := world.answers ++ [outcome.2] }

/-- One step of the world. The issuer has completed the request before the
completing event, and polls are heard in the order of their stamps. -/
def act (world : SettlementWorld Event) : SettlementStep Event → Option (SettlementWorld Event)
  | .tick passed => some { world with clock := world.clock + passed }
  | .ask => if world.issuer = .unasked then some { world with issuer := .pending } else none
  | .answer completed =>
      if world.issuer = .pending then
        some { world with issuer := if completed then .completed else .rejected }
      else none
  | .take poll =>
      if transfer.Shows world.issuer poll ∧ world.heardAt ≤ poll.fetchedAt ∧
          poll.fetchedAt ≤ world.clock then
        some { world with waiting := world.waiting ++ [poll] }
      else none
  | .hear index =>
      match world.waiting[index]? with
      | some poll =>
          if world.waiting.all (poll.fetchedAt ≤ ·.fetchedAt) then transfer.hear world index poll
          else none
      | none => none
  | .deliver event =>
      if transfer.admits world.delivered event &&
          (!transfer.completes event || world.issuer = .completed) then
        some (transfer.deliver world event)
      else none

/-- While the shares are in flight, no poll is taken over that has ceased to list
the request. Once they have arrived, none that still lists it bears the very stamp
of the last rebalancing. The completing event does not meet a request that was
counted ahead. -/
def InTime (world : SettlementWorld Event) : SettlementStep Event → Prop
  | .hear index =>
      match world.waiting[index]? with
      | some poll =>
          match transfer.course world.delivered with
          | .moving => transfer.IsTakenOver world poll → transfer.WasListed world →
              transfer.IsListedBy poll
          | .landed | .settled => transfer.IsListedBy poll →
              (world.reactor.view.equity transfer.symbol).lastRebalancing ≠ some poll.fetchedAt
          | _ => True
      | none => True
  | .deliver event => transfer.completes event → world.countedAhead = false
  | _ => True

instance (world : SettlementWorld Event) (step : SettlementStep Event) :
    Decidable (transfer.InTime world step) := by
  unfold InTime
  split
  · split
    · split <;> infer_instance
    · infer_instance
  · infer_instance
  · infer_instance

/-! ## What is where -/

/-- The balances of a transfer that began with these, and nothing in flight. -/
def Balanced (start inventory : Inventory) (countedAhead : Bool) : EquityCourse → Prop
  | .before =>
      inventory.balance transfer.source =
        ⟨start.available transfer.source, if countedAhead then transfer.quantity else 0⟩ ∧
      inventory.balance transfer.source.other = ⟨start.available transfer.source.other, 0⟩
  | .moving =>
      inventory.balance transfer.source =
        ⟨start.available transfer.source - transfer.quantity,
          (if countedAhead then transfer.quantity else 0) + transfer.quantity⟩ ∧
      inventory.balance transfer.source.other = ⟨start.available transfer.source.other, 0⟩
  | .landed | .settled =>
      inventory.balance transfer.source =
        ⟨start.available transfer.source - transfer.quantity, 0⟩ ∧
      inventory.balance transfer.source.other =
        ⟨start.available transfer.source.other + transfer.quantity, 0⟩
  | .returned =>
      inventory.available transfer.source = start.available transfer.source ∧
      inventory.available transfer.source.other = start.available transfer.source.other
  | .lost => True

variable {transfer} in
theorem Balanced.arrived {start inventory : Inventory} {countedAhead : Bool}
    {course : EquityCourse} (balanced : transfer.Balanced start inventory countedAhead course)
    (arrived : course.Arrived) :
    inventory.balance transfer.source =
        ⟨start.available transfer.source - transfer.quantity, 0⟩ ∧
      inventory.balance transfer.source.other =
        ⟨start.available transfer.source.other + transfer.quantity, 0⟩ := by
  rcases arrived with rfl | rfl
  · exact balanced
  · exact balanced

section Effect

variable {transfer} [FloatFormat] (exact : FloatFormat.IsExact)
variable {start inventory : Inventory} {countedAhead : Bool} {event : Event}

omit [FloatFormat] in
theorem parts_of_balance {venue : Venue} {available inflight : FractionalShares}
    (whole : inventory.balance venue = ⟨available, inflight⟩) :
    inventory.available venue = available ∧ inventory.inflight venue = inflight := by
  simp [Inventory.available, Inventory.inflight, whole]

include exact in
/-- The event that puts the shares in flight. -/
theorem starts_balanced (covers : transfer.quantity ≤ start.available transfer.source)
    (balanced : transfer.Balanced start inventory countedAhead .before) :
    ∃ after, startEquityTransferUpdate transfer.source transfer.quantity inventory = .ok after ∧
      transfer.Balanced start after countedAhead .moving := by
  obtain ⟨atSource, elsewhere⟩ := balanced
  obtain ⟨available, inflight⟩ := parts_of_balance atSource
  refine ⟨_, Inventory.transfer_start_exact exact (available ▸ covers), ?_, ?_⟩
  · rw [Inventory.balance_setVenue_self, available, inflight]
  · rw [Inventory.balance_setVenue_other]
    exact elsewhere

include exact in
/-- The event that lands them, where they were not counted ahead. -/
theorem completes_balanced (now : Time)
    (balanced : transfer.Balanced start inventory false .moving) :
    ∃ after, completeEquityTransferUpdate transfer.source transfer.quantity now inventory =
        .ok after ∧
      transfer.Balanced start after false .landed ∧ after.lastRebalancing = some now := by
  obtain ⟨atSource, elsewhere⟩ := balanced
  obtain ⟨available, reserved⟩ := parts_of_balance atSource
  have inflight : inventory.inflight transfer.source = transfer.quantity := by
    simpa using reserved
  obtain ⟨otherAvailable, otherInflight⟩ := parts_of_balance elsewhere
  obtain ⟨landed, settles, atSource', elsewhere'⟩ :
      ∃ landed, inventory.transfer transfer.source .complete transfer.quantity = .ok landed ∧
        landed.balance transfer.source =
          ⟨start.available transfer.source - transfer.quantity, 0⟩ ∧
        landed.balance transfer.source.other =
          ⟨start.available transfer.source.other + transfer.quantity, 0⟩ := by
    refine ⟨_, Inventory.settleTransfer_exact exact _ (le_of_eq inflight.symm), ?_, ?_⟩
    · rw [Inventory.balance_setVenue_of_other, Inventory.balance_setVenue_self, available, inflight,
        sub_self]
    · rw [Inventory.balance_setVenue_self, otherAvailable, otherInflight]
  refine ⟨landed.withLastRebalancing now, ?_, ⟨?_, ?_⟩, rfl⟩
  · simp only [completeEquityTransferUpdate, settles, bind, Except.bind, pure, Except.pure]
  · rw [Inventory.balance_withLastRebalancing, atSource']
  · rw [Inventory.balance_withLastRebalancing, elsewhere']

include exact in
/-- The event that gives them back, counted ahead or not. -/
theorem fails_balanced (now : Time) (nonneg : 0 ≤ transfer.quantity)
    (balanced : transfer.Balanced start inventory countedAhead .moving) :
    ∃ after, cancelEquityTransferUpdate transfer.source transfer.quantity now inventory =
        .ok after ∧
      transfer.Balanced start after countedAhead .returned := by
  obtain ⟨atSource, elsewhere⟩ := balanced
  obtain ⟨available, inflight⟩ := parts_of_balance atSource
  have reserved : transfer.quantity ≤ inventory.inflight transfer.source := by
    rw [inflight]
    cases countedAhead
    · simp
    · simpa using nonneg
  obtain ⟨cancelled, cancels, atSource', elsewhere'⟩ :
      ∃ cancelled, inventory.transfer transfer.source .cancel transfer.quantity = .ok cancelled ∧
        cancelled.available transfer.source = start.available transfer.source ∧
        cancelled.available transfer.source.other = start.available transfer.source.other := by
    refine ⟨_, Inventory.transfer_cancel_exact exact reserved, ?_, ?_⟩
    · rw [Inventory.available, Inventory.balance_setVenue_self, available]
      exact sub_add_cancel _ _
    · rw [Inventory.available, Inventory.balance_setVenue_other, elsewhere]
  refine ⟨cancelled.withLastRebalancing now, ?_, ?_, ?_⟩
  · simp only [cancelEquityTransferUpdate, cancels, bind, Except.bind, pure, Except.pure]
  · rw [Inventory.available, Inventory.balance_withLastRebalancing]
    exact atSource'
  · rw [Inventory.available, Inventory.balance_withLastRebalancing]
    exact elsewhere'

/-- Where the last rebalancing was dated, if the shares have arrived. -/
def Dated (now : Time) (course : EquityCourse) (inventory after : Inventory) : Prop :=
  after.lastRebalancing = some now ∨
    course.Arrived ∧ after.lastRebalancing = inventory.lastRebalancing

include exact in
/-- Every event of the transfer keeps the balances its course asks for. -/
theorem effect_balanced (now : Time) (nonneg : 0 ≤ transfer.quantity)
    (covers : transfer.quantity ≤ start.available transfer.source) {course : EquityCourse}
    (balanced : transfer.Balanced start inventory countedAhead course)
    (single : transfer.completes event → countedAhead = false) :
    ∃ after, transfer.effect course event now inventory = .ok after ∧
      transfer.Balanced start after countedAhead (transfer.after course event) ∧
      ((transfer.after course event).Arrived → Dated now course inventory after) := by
  cases course with
  | before =>
      by_cases starts : transfer.starts event
      · obtain ⟨after, moves, balanced'⟩ := starts_balanced exact covers balanced
        simp only [effect, EquityTransfer.after, starts, if_true]
        exact ⟨after, moves, balanced', fun arrived => absurd arrived (by decide)⟩
      · by_cases ends : transfer.ends event
        · simp only [effect, EquityTransfer.after, starts, ends, Bool.false_eq_true, if_false, if_true]
          refine ⟨inventory, rfl, ?_, fun arrived => absurd arrived (by decide)⟩
          exact ⟨(parts_of_balance balanced.1).1, (parts_of_balance balanced.2).1⟩
        · simp only [effect, EquityTransfer.after, starts, ends, Bool.false_eq_true, if_false]
          exact ⟨inventory, rfl, balanced, fun arrived => absurd arrived (by decide)⟩
  | moving =>
      by_cases completes : transfer.completes event
      · obtain rfl := single completes
        obtain ⟨after, moves, balanced', dated⟩ := completes_balanced exact now balanced
        simp only [effect, EquityTransfer.after, completes, if_true]
        refine ⟨after, moves, ?_, fun _ => .inl dated⟩
        split
        · exact balanced'
        · exact balanced'
      · by_cases fails : transfer.fails event
        · obtain ⟨after, moves, balanced'⟩ := fails_balanced exact now nonneg balanced
          simp only [effect, EquityTransfer.after, completes, fails, Bool.false_eq_true, if_false,
            if_true]
          exact ⟨after, moves, balanced', fun arrived => absurd arrived (by decide)⟩
        · by_cases ends : transfer.ends event
          · simp only [effect, EquityTransfer.after, completes, fails, ends, Bool.false_eq_true,
              if_false, if_true]
            exact ⟨inventory, rfl, trivial, fun arrived => absurd arrived (by decide)⟩
          · simp only [effect, EquityTransfer.after, completes, fails, ends, Bool.false_eq_true,
              if_false]
            exact ⟨inventory, rfl, balanced, fun arrived => absurd arrived (by decide)⟩
  | landed =>
      have stays : ∀ after, after.balance transfer.source = inventory.balance transfer.source →
          after.balance transfer.source.other = inventory.balance transfer.source.other →
          transfer.Balanced start after countedAhead (transfer.after .landed event) := by
        intro after atSource elsewhere
        have both := balanced.arrived (.inl rfl)
        simp only [EquityTransfer.after]
        split
        · exact ⟨atSource.trans both.1, elsewhere.trans both.2⟩
        · exact ⟨atSource.trans both.1, elsewhere.trans both.2⟩
      by_cases dates : transfer.dates event
      · refine ⟨inventory.withLastRebalancing now, ?_, stays _ ?_ ?_, fun _ => .inl rfl⟩
        · simp only [effect, dates, if_true]
          rfl
        · exact Inventory.balance_withLastRebalancing inventory now transfer.source
        · exact Inventory.balance_withLastRebalancing inventory now transfer.source.other
      · refine ⟨inventory, ?_, stays _ rfl rfl, fun _ => .inr ⟨.inl rfl, rfl⟩⟩
        simp only [effect, dates, Bool.false_eq_true, if_false]
  | settled => exact ⟨inventory, rfl, balanced, fun _ => .inr ⟨.inr rfl, rfl⟩⟩
  | returned => exact ⟨inventory, rfl, balanced, by rintro (arrived | arrived) <;> cases arrived⟩
  | lost => exact ⟨inventory, rfl, trivial, by rintro (arrived | arrived) <;> cases arrived⟩

end Effect

section Hearing

variable {transfer} {start : Inventory} {world : SettlementWorld Event} {poll : InflightPoll}
variable {after : EquityView}

theorem heard_balance (hears : EquityView.HearsPoll poll.mints poll.redemptions poll.fetchedAt
      world.reactor.view after) (venue : Venue) (symbol : Symbol) :
    (after.equity symbol).balance venue = EquityView.replaced
      (world.reactor.view.polled (world.reactor.view.previousInflight venue) (poll.listed venue)
        poll.fetchedAt symbol)
      ((world.reactor.view.equity symbol).balance venue) := by
  cases venue with
  | marketMaking => exact hears.marketMaking symbol
  | hedging => exact hears.hedging symbol

/-- A poll moves nothing that is available. -/
theorem heard_available (hears : EquityView.HearsPoll poll.mints poll.redemptions poll.fetchedAt
      world.reactor.view after) (venue : Venue) (symbol : Symbol) :
    (after.equity symbol).available venue =
      (world.reactor.view.equity symbol).available venue := by
  rw [Inventory.available, heard_balance hears]
  unfold EquityView.replaced
  split <;> rfl

/-- Where nothing is in flight, a poll that does not list the symbol changes nothing. -/
theorem heard_elsewhere (hears : EquityView.HearsPoll poll.mints poll.redemptions poll.fetchedAt
      world.reactor.view after) {venue : Venue} {symbol : Symbol} {available : FractionalShares}
    (unlisted : (poll.listed venue).lookup symbol = none)
    (still : (world.reactor.view.equity symbol).balance venue = ⟨available, 0⟩) :
    (after.equity symbol).balance venue = ⟨available, 0⟩ := by
  rw [heard_balance hears, still]
  simp only [EquityView.polled, unlisted]
  split
  · rfl
  · split <;> rfl

/-- What a poll leaves in flight at the source. -/
theorem heard_at_source (hears : EquityView.HearsPoll poll.mints poll.redemptions poll.fetchedAt
      world.reactor.view after)
    (exactly : ∀ amount, (poll.listed transfer.source).lookup transfer.symbol = some amount →
      amount = transfer.quantity) {available inflight : FractionalShares}
    (still : (world.reactor.view.equity transfer.symbol).balance transfer.source =
      ⟨available, inflight⟩) :
    (after.equity transfer.symbol).balance transfer.source =
      ⟨available,
        if transfer.IsTakenOver world poll then
          if transfer.IsListedBy poll then transfer.quantity
          else if transfer.WasListed world then 0
          else inflight
        else inflight⟩ := by
  rw [heard_balance hears, still]
  simp only [EquityView.polled, IsTakenOver, IsListedBy, WasListed]
  by_cases stale : world.reactor.view.isStaleForSymbol transfer.symbol poll.fetchedAt
  · simp [stale, EquityView.replaced]
  · obtain found | ⟨amount, found⟩ :=
      ((poll.listed transfer.source).lookup transfer.symbol).eq_none_or_eq_some
    · by_cases listed : transfer.symbol ∈ world.reactor.view.previousInflight transfer.source
      · simp [stale, found, listed, EquityView.replaced]
      · simp [stale, found, listed, EquityView.replaced]
    · obtain rfl := exactly amount found
      simp [stale, found, EquityView.replaced]

/-- A poll that is heard in time keeps the balances the course asks for. -/
theorem heard_balanced (hears : EquityView.HearsPoll poll.mints poll.redemptions poll.fetchedAt
      world.reactor.view after)
    (exactly : ∀ amount, (poll.listed transfer.source).lookup transfer.symbol = some amount →
      amount = transfer.quantity)
    (unlisted : (poll.listed transfer.source.other).lookup transfer.symbol = none)
    (balanced : transfer.Balanced start (world.reactor.view.equity transfer.symbol)
      world.countedAhead (transfer.course world.delivered))
    (keeps : transfer.course world.delivered = .moving → transfer.IsTakenOver world poll →
      transfer.WasListed world → transfer.IsListedBy poll)
    (ceases : (transfer.course world.delivered).Arrived → transfer.IsTakenOver world poll →
      ¬ transfer.IsListedBy poll) :
    transfer.Balanced start (after.equity transfer.symbol) (transfer.countedAheadAfter world poll)
      (transfer.course world.delivered) := by
  simp only [countedAheadAfter]
  cases come : transfer.course world.delivered with
  | before =>
      rw [come] at balanced
      refine ⟨(heard_at_source hears exactly balanced.1).trans ?_,
        heard_elsewhere hears unlisted balanced.2⟩
      by_cases taken : transfer.IsTakenOver world poll <;>
        by_cases lists : transfer.IsListedBy poll <;>
          by_cases listed : transfer.WasListed world <;> simp [taken, lists, listed]
  | moving =>
      rw [come] at balanced
      refine ⟨(heard_at_source hears exactly balanced.1).trans ?_,
        heard_elsewhere hears unlisted balanced.2⟩
      by_cases taken : transfer.IsTakenOver world poll
      · by_cases lists : transfer.IsListedBy poll
        · simp [taken, lists]
        · have unlisted : ¬ transfer.WasListed world := fun listed =>
            lists (keeps come taken listed)
          simp [taken, lists, unlisted]
      · simp [taken]
  | landed =>
      have arrived : (transfer.course world.delivered).Arrived := .inl come
      rw [come] at balanced
      refine ⟨(heard_at_source hears exactly balanced.1).trans ?_,
        heard_elsewhere hears unlisted balanced.2⟩
      by_cases taken : transfer.IsTakenOver world poll
      · simp [taken, ceases arrived taken]
      · simp [taken]
  | settled =>
      have arrived : (transfer.course world.delivered).Arrived := .inr come
      rw [come] at balanced
      refine ⟨(heard_at_source hears exactly balanced.1).trans ?_,
        heard_elsewhere hears unlisted balanced.2⟩
      by_cases taken : transfer.IsTakenOver world poll
      · simp [taken, ceases arrived taken]
      · simp [taken]
  | returned =>
      rw [come] at balanced
      exact ⟨(heard_available hears _ _).trans balanced.1,
        (heard_available hears _ _).trans balanced.2⟩
  | lost => trivial

end Hearing

/-! ## A run -/

/-- A poll of the transfer's issuer: it lists at most the transfer's request. -/
structure Lists (poll : InflightPoll) : Prop where
  minted : ∀ reading ∈ EquityView.listing poll.mints, 0 ≤ reading.2
  redeemed : ∀ reading ∈ EquityView.listing poll.redemptions, 0 ≤ reading.2
  exactly : ∀ amount, (poll.listed transfer.source).lookup transfer.symbol = some amount →
    amount = transfer.quantity
  unlisted : (poll.listed transfer.source.other).lookup transfer.symbol = none

theorem Shows.lists {transfer : EquityTransfer Event} {issuer : IssuerRequest} {poll : InflightPoll}
    (shows : transfer.Shows issuer poll) : transfer.Lists poll where
  minted := shows.1
  redeemed := shows.2.1
  exactly := by
    intro amount found
    obtain ⟨-, -, request, -⟩ := shows
    rw [found] at request
    split at request
    · exact Option.some.inj request
    · cases request
  unlisted := shows.2.2.2

/-- What holds throughout a run that begins with this inventory of the symbol. -/
structure Settling (followed : EquityReactor → List Event → Prop) (start : Inventory)
    (world : SettlementWorld Event) : Prop where
  followed : followed world.reactor world.delivered
  answered : ∀ answer ∈ world.answers, answer = .ok ()
  lists : ∀ poll ∈ world.waiting, transfer.Lists poll
  stamped : ∀ poll ∈ world.waiting, poll.fetchedAt ≤ world.clock
  balanced : transfer.Balanced start (world.reactor.view.equity transfer.symbol) world.countedAhead
    (transfer.course world.delivered)
  arrived : (transfer.course world.delivered).Arrived → world.issuer = .completed ∧
    ∃ settledAt,
      (world.reactor.view.equity transfer.symbol).lastRebalancing = some settledAt ∧
      ∀ poll ∈ world.waiting, transfer.IsListedBy poll → poll.fetchedAt ≤ settledAt
  completed : (∃ event ∈ world.delivered, transfer.completes event) →
    (transfer.course world.delivered).Arrived
  failed : (∃ event ∈ world.delivered, transfer.fails event) →
    transfer.course world.delivered = .returned

section Run

variable {transfer} [FloatFormat]
variable {followed : EquityReactor → List Event → Prop} {start : Inventory}
variable {world next : SettlementWorld Event}

omit [FloatFormat] in
theorem Settling.take (settling : transfer.Settling followed start world) {poll : InflightPoll}
    (shows : transfer.Shows world.issuer poll) (stamped : poll.fetchedAt ≤ world.clock) :
    transfer.Settling followed start { world with waiting := world.waiting ++ [poll] } where
  followed := settling.followed
  answered := settling.answered
  lists := by
    intro poll' member
    rcases List.mem_append.mp member with earlier | last
    · exact settling.lists poll' earlier
    · obtain rfl := List.mem_singleton.mp last
      exact shows.lists
  stamped := by
    intro poll' member
    rcases List.mem_append.mp member with earlier | last
    · exact settling.stamped poll' earlier
    · obtain rfl := List.mem_singleton.mp last
      exact stamped
  balanced := settling.balanced
  arrived := by
    intro arrived
    obtain ⟨completed, settledAt, dated, before⟩ := settling.arrived arrived
    refine ⟨completed, settledAt, dated, fun poll' member lists => ?_⟩
    rcases List.mem_append.mp member with earlier | last
    · exact before poll' earlier lists
    · obtain rfl := List.mem_singleton.mp last
      -- The issuer no longer lists what it has completed.
      obtain ⟨-, -, request, -⟩ := shows
      rw [completed, if_neg (by decide)] at request
      simp [IsListedBy, request] at lists
  completed := settling.completed
  failed := settling.failed

omit [FloatFormat] in
theorem Settling.hear (settling : transfer.Settling followed start world)
    (withView : ∀ {reactor stream}, followed reactor stream → ∀ view,
      followed { reactor with view } stream)
    {index : Nat} {poll : InflightPoll} (waits : world.waiting[index]? = some poll)
    (inTime : transfer.InTime world (.hear index))
    (hears : transfer.hear world index poll = some next) :
    transfer.Settling followed start next := by
  have member := List.mem_of_getElem? waits
  obtain ⟨minted, redeemed, exactly, unlisted⟩ := settling.lists poll member
  obtain ⟨view, ran, heard⟩ := world.reactor.view.applyInflightSnapshot_ok poll.fetchedAt
    world.clock minted redeemed
  simp only [EquityTransfer.hear, ran] at hears
  cases hears
  simp only [InTime, waits] at inTime
  have remains : ∀ {poll'}, poll' ∈ world.waiting.eraseIdx index → poll' ∈ world.waiting :=
    fun member' => List.mem_of_mem_eraseIdx member'
  refine ⟨withView settling.followed view, settling.answered,
    fun poll' member' => settling.lists poll' (remains member'),
    fun poll' member' => settling.stamped poll' (remains member'), ?_, ?_, settling.completed,
    settling.failed⟩
  · refine heard_balanced heard exactly unlisted settling.balanced ?_ ?_
    · intro moving
      rw [moving] at inTime
      exact inTime
    · intro arrived taken lists
      obtain ⟨-, settledAt, dated, before⟩ := settling.arrived arrived
      have stamp : poll.fetchedAt ≠ settledAt := by
        rintro rfl
        rcases arrived with come | come
        · rw [come] at inTime
          exact inTime lists dated
        · rw [come] at inTime
          exact inTime lists dated
      have stale : poll.fetchedAt < settledAt := lt_of_le_of_ne (before poll member lists) stamp
      simp [IsTakenOver, EquityView.isStaleForSymbol, dated, stale] at taken
  · intro arrived
    obtain ⟨completed, settledAt, dated, before⟩ := settling.arrived arrived
    exact ⟨completed, settledAt, (heard.lastRebalancing _).trans dated,
      fun poll' member' => before poll' (remains member')⟩

theorem Settling.deliver (exact : FloatFormat.IsExact) (follows : transfer.Followed followed)
    (nonneg : 0 ≤ transfer.quantity) (covers : transfer.quantity ≤ start.available transfer.source)
    (settling : transfer.Settling followed start world) {event : Event}
    (admitted : transfer.admits world.delivered event)
    (issued : transfer.completes event → world.issuer = .completed)
    (single : transfer.completes event → world.countedAhead = false) :
    transfer.Settling followed start (transfer.deliver world event) := by
  obtain ⟨after, moves, balanced, dated⟩ :=
    effect_balanced exact world.clock nonneg covers settling.balanced single
  obtain ⟨next, calls, followed', shown⟩ := follows.reacts settling.followed admitted moves
  have delivers : transfer.deliver world event = { world with
      reactor := next
      delivered := world.delivered ++ [event]
      answers := world.answers ++ [.ok ()] } := by
    simp only [EquityTransfer.deliver, calls]
  rw [delivers]
  refine ⟨followed', ?_, settling.lists, settling.stamped, ?_, ?_, ?_, ?_⟩
  · intro answer member
    rcases List.mem_append.mp member with earlier | last
    · exact settling.answered answer earlier
    · exact List.mem_singleton.mp last
  · simp only [shown, course_concat]
    exact balanced
  · simp only [shown, course_concat]
    intro arrived
    have completed : world.issuer = .completed := by
      rcases transfer.arrived_after arrived with before | completes
      · exact (settling.arrived before).1
      · exact issued completes
    refine ⟨completed, ?_⟩
    rcases dated arrived with now | ⟨before, kept⟩
    · exact ⟨world.clock, now, fun poll member _ => settling.stamped poll member⟩
    · obtain ⟨-, settledAt, stamp, earlier⟩ := settling.arrived before
      exact ⟨settledAt, kept.trans stamp, earlier⟩
  · rintro ⟨event', member, completes⟩
    simp only [course_concat]
    rcases List.mem_append.mp member with earlier | last
    · exact transfer.after_arrived (settling.completed ⟨event', earlier, completes⟩) event
    · obtain rfl := List.mem_singleton.mp last
      rw [follows.completes settling.followed admitted completes]
      exact transfer.after_moving completes
  · rintro ⟨event', member, fails⟩
    simp only [course_concat]
    rcases List.mem_append.mp member with earlier | last
    · rw [settling.failed ⟨event', earlier, fails⟩]
      rfl
    · obtain rfl := List.mem_singleton.mp last
      exact follows.fails settling.followed admitted fails

/-- Every step in time keeps it. -/
theorem Settling.step (exact : FloatFormat.IsExact) (follows : transfer.Followed followed)
    (nonneg : 0 ≤ transfer.quantity) (covers : transfer.quantity ≤ start.available transfer.source)
    (settling : transfer.Settling followed start world) {step : SettlementStep Event}
    (inTime : transfer.InTime world step) (acted : transfer.act world step = some next) :
    transfer.Settling followed start next := by
  cases step with
  | tick passed =>
      cases acted
      exact { settling with
        stamped := fun poll member =>
          (settling.stamped poll member).trans (Nat.le_add_right world.clock passed) }
  | ask =>
      simp only [act] at acted
      split at acted
      case isTrue unasked =>
        cases acted
        refine { settling with arrived := fun arrived => ?_ }
        cases unasked.symm.trans (settling.arrived arrived).1
      case isFalse => cases acted
  | answer completed =>
      simp only [act] at acted
      split at acted
      case isTrue pending =>
        cases acted
        refine { settling with arrived := fun arrived => ?_ }
        cases pending.symm.trans (settling.arrived arrived).1
      case isFalse => cases acted
  | take poll =>
      simp only [act] at acted
      split at acted
      case isTrue taken =>
        cases acted
        exact settling.take taken.1 taken.2.2
      case isFalse => cases acted
  | hear index =>
      simp only [act] at acted
      split at acted
      case h_1 poll waits =>
        split at acted
        · exact settling.hear follows.withView waits inTime acted
        · cases acted
      case h_2 => cases acted
  | deliver event =>
      simp only [act] at acted
      split at acted
      case isTrue possible =>
        cases acted
        obtain ⟨admitted, issued⟩ := Bool.and_eq_true_iff.mp possible
        refine settling.deliver exact follows nonneg covers admitted (fun completes => ?_) inTime
        simpa [completes] using issued
      case isFalse => cases acted

/-- What a transfer that began with this inventory of its symbol comes to. -/
structure SettlesFrom (transfer : EquityTransfer Event) (start : Inventory)
    (world : SettlementWorld Event) : Prop where
  answered : ∀ answer ∈ world.answers, answer = .ok ()
  completed : (∃ event ∈ world.delivered, transfer.completes event) →
    let inventory := world.reactor.view.equity transfer.symbol
    inventory.available transfer.source =
        start.available transfer.source - transfer.quantity ∧
      inventory.available transfer.source.other =
        start.available transfer.source.other + transfer.quantity ∧
      inventory.inflight transfer.source = 0
  failed : (∃ event ∈ world.delivered, transfer.fails event) →
    let inventory := world.reactor.view.equity transfer.symbol
    ∀ venue, inventory.available venue = start.available venue

omit [FloatFormat] in
theorem Settling.settles (settling : transfer.Settling followed start world) :
    transfer.SettlesFrom start world where
  answered := settling.answered
  completed := by
    intro completed
    have balanced := settling.balanced.arrived (settling.completed completed)
    obtain ⟨available, inflight⟩ := parts_of_balance balanced.1
    exact ⟨available, (parts_of_balance balanced.2).1, inflight⟩
  failed := by
    intro failed inventory venue
    have balanced := settling.balanced
    rw [settling.failed failed] at balanced
    by_cases own : venue = transfer.source
    · rw [own]
      exact balanced.1
    · have other : venue = transfer.source.other := by
        revert own
        cases venue <;> cases transfer.source <;> decide
      rw [other]
      exact balanced.2

/-- A run that begins with nothing in flight, in time all along, settles. -/
theorem settles_of_inTime (exact : FloatFormat.IsExact) (follows : transfer.Followed followed)
    (nonneg : 0 ≤ transfer.quantity) {reactor : EquityReactor} {clock : Time}
    (new : followed reactor [])
    (still : ∀ venue, (reactor.view.equity transfer.symbol).inflight venue = 0)
    (covers : transfer.quantity ≤
      (reactor.view.equity transfer.symbol).available transfer.source)
    {steps : List (SettlementStep Event)}
    (inTime : Throughout transfer.act transfer.InTime (SettlementWorld.start reactor clock) steps)
    (ran : runSteps transfer.act (SettlementWorld.start reactor clock) steps = some world) :
    transfer.SettlesFrom (reactor.view.equity transfer.symbol) world := by
  have begins : transfer.Settling followed (reactor.view.equity transfer.symbol)
      (SettlementWorld.start reactor clock) := by
    refine ⟨new, by simp [SettlementWorld.start], by simp [SettlementWorld.start],
      by simp [SettlementWorld.start], ⟨?_, ?_⟩, ?_, by simp [SettlementWorld.start],
      by simp [SettlementWorld.start]⟩
    · exact congrArg (VenueBalance.mk _) (still transfer.source)
    · exact congrArg (VenueBalance.mk _) (still transfer.source.other)
    · rintro (arrived | arrived) <;> cases arrived
  exact (runSteps_invariant (fun _ _ _ settling inTime acted =>
    settling.step exact follows nonneg covers inTime acted) begins inTime ran).settles

end Run

end EquityTransfer

/-- Mints and redemptions settle exactly once in every run that is in time. -/
theorem equity_transfers_settle [FloatFormat] (exact : FloatFormat.IsExact) (symbol : Symbol)
    (quantity : FractionalShares) (nonneg : 0 ≤ quantity) (reactor : EquityReactor) (clock : Time)
    (still : ∀ venue, (reactor.view.equity symbol).inflight venue = 0) :
    (∀ id, reactor.timedOutMints id = none → reactor.mintTracking.lookup id = none →
      quantity ≤ (reactor.view.equity symbol).available .hedging →
      ∀ steps world, Throughout (TokenizedEquityMint.transfer id symbol quantity).act
          (TokenizedEquityMint.transfer id symbol quantity).InTime (.start reactor clock) steps →
        runSteps (TokenizedEquityMint.transfer id symbol quantity).act (.start reactor clock)
          steps = some world →
        (TokenizedEquityMint.transfer id symbol quantity).SettlesFrom
          (reactor.view.equity symbol) world) ∧
    (∀ id, reactor.timedOutRedemptions id = none → reactor.redemptionTracking.lookup id = none →
      quantity ≤ (reactor.view.equity symbol).available .marketMaking →
      ∀ steps world, Throughout (EquityRedemption.transfer id symbol quantity).act
          (EquityRedemption.transfer id symbol quantity).InTime (.start reactor clock) steps →
        runSteps (EquityRedemption.transfer id symbol quantity).act (.start reactor clock)
          steps = some world →
        (EquityRedemption.transfer id symbol quantity).SettlesFrom
          (reactor.view.equity symbol) world) := by
  constructor
  · intro id live new covers steps world inTime ran
    have unknown : TokenizedEquityMint.IsFollowed id symbol quantity reactor [] := by
      refine ⟨live, ?_⟩
      rw [new]
      exact .unknown
    exact EquityTransfer.settles_of_inTime exact (TokenizedEquityMint.followed id symbol quantity)
      nonneg unknown still covers inTime ran
  · intro id live new covers steps world inTime ran
    have unknown : EquityRedemption.IsFollowed id symbol quantity reactor [] := by
      refine ⟨live, ?_⟩
      rw [new]
      exact .unknown
    exact EquityTransfer.settles_of_inTime exact (EquityRedemption.followed id symbol quantity)
      nonneg unknown still covers inTime ran

/-! ## Three runs -/

namespace EquityTransfer

/-- A reactor that knows of 100 shares at each venue, and of no transfer. -/
def sampleReactor : EquityReactor where
  view := { EquityView.empty with
    equities := AList.insert "AAPL" ⟨some ⟨100, 0⟩, some ⟨100, 0⟩, none⟩ ∅ }
  mintTracking := ∅
  redemptionTracking := ∅
  timedOutMints := fun _ => none
  timedOutRedemptions := fun _ => none
  suppressedInflightSymbols := fun _ => none
  activeMints := fun _ => none
  activeRedemptions := fun _ => none
  equityInProgress := fun _ => none
  nextGeneration := 1

def sampleMint : EquityTransfer TokenizedEquityMintEvent :=
  @TokenizedEquityMint.transfer FloatFormat.exact ⟨"m-1"⟩ "AAPL" 10

def sampleRedemption : EquityTransfer EquityRedemptionEvent :=
  @EquityRedemption.transfer FloatFormat.exact ⟨"m-1"⟩ "AAPL" 10

def samplePoll (mints redemptions : List (Sigma fun _ : Symbol => FractionalShares))
    (fetchedAt : Time) : InflightPoll :=
  ⟨mints.toAList, redemptions.toAList, fetchedAt⟩

/-- A poll that lists the mint is heard, the issuer completes it, and the next poll
is heard before the tokens are received. -/
def overtakenMint : List (SettlementStep TokenizedEquityMintEvent) :=
  [.deliver (.mintRequested "AAPL" 10 7 0), .tick 1, .ask,
    .deliver (.mintAccepted ⟨"m-1"⟩ ⟨"t-1"⟩ 1), .take (samplePoll [⟨"AAPL", 10⟩] [] 1), .hear 0,
    .tick 1, .answer true, .take (samplePoll [] [] 2), .hear 0,
    .deliver (.tokensReceived 8 10 2)]

/-- A poll that lists the mint is heard before its acceptance is. -/
def mintAhead : List (SettlementStep TokenizedEquityMintEvent) :=
  [.deliver (.mintRequested "AAPL" 10 7 0), .tick 1, .ask,
    .take (samplePoll [⟨"AAPL", 10⟩] [] 1), .hear 0, .deliver (.mintAccepted ⟨"m-1"⟩ ⟨"t-1"⟩ 1),
    .tick 1, .answer true, .deliver (.tokensReceived 8 10 2), .tick 1]

/-- A redemption with the polls that `hearings` takes and hears before its end. -/
def sampleRedemptionRun (hearings : List (SettlementStep EquityRedemptionEvent)) :
    List (SettlementStep EquityRedemptionEvent) :=
  [.deliver (.vaultWithdrawPending "AAPL" 10 3 10 0),
    .deliver (.vaultWithdrawSubmitted "AAPL" 10 3 10 4 0),
    .deliver (.withdrawnFromRaindex "AAPL" 10 3 10 none 4 none 0), .deliver (.unwrapPending 0),
    .deliver (.unwrapSubmitted 5 0), .deliver (.tokensUnwrapped (some 10) 6 5 10 none 0),
    .deliver (.sendPending 0), .deliver (.tokensSent 9 11 0), .tick 1, .ask,
    .take (samplePoll [] [⟨"AAPL", 10⟩] 1), .hear 0, .deliver (.detected ⟨"t-2"⟩ 1), .tick 1,
    .answer true] ++ hearings ++ [.deliver (.completed 2)]

def overtakenRedemption : List (SettlementStep EquityRedemptionEvent) :=
  sampleRedemptionRun [.take (samplePoll [] [] 2), .hear 0]

theorem not_settles_of_refused {Event : Type} {transfer : EquityTransfer Event}
    {start : Inventory} {world : SettlementWorld Event}
    (refused : ¬ ∀ answer ∈ world.answers, answer = .ok ()) :
    ¬ transfer.SettlesFrom start world := fun settles => refused settles.answered

/-- The completing event of a mint finds nothing in flight any more, and is refused;
that of a mint counted ahead leaves its shares in flight with no poll outstanding;
and a redemption is refused as the first mint is. -/
theorem polls_unsettle :
    (∃ world, runSteps sampleMint.act (.start sampleReactor 0) overtakenMint = some world ∧
      ¬ sampleMint.SettlesFrom (sampleReactor.view.equity "AAPL") world) ∧
    (∃ world, runSteps sampleMint.act (.start sampleReactor 0) mintAhead = some world ∧
      world.waiting = [] ∧
      ¬ sampleMint.SettlesFrom (sampleReactor.view.equity "AAPL") world) ∧
    ∃ world, runSteps sampleRedemption.act (.start sampleReactor 0) overtakenRedemption =
        some world ∧
      ¬ sampleRedemption.SettlesFrom (sampleReactor.view.equity "AAPL") world := by
  refine ⟨⟨(runSteps sampleMint.act (.start sampleReactor 0) overtakenMint).get
      (by decide +kernel), by simp, not_settles_of_refused (by decide +kernel)⟩,
    ⟨(runSteps sampleMint.act (.start sampleReactor 0) mintAhead).get (by decide +kernel),
      by simp, ?_, fun settles => ?_⟩,
    ⟨(runSteps sampleRedemption.act (.start sampleReactor 0) overtakenRedemption).get
      (by decide +kernel), by simp, not_settles_of_refused (by decide +kernel)⟩⟩
  · exact List.length_eq_zero_iff.mp (by decide +kernel)
  · obtain ⟨-, -, nothing⟩ := settles.completed (by decide +kernel)
    revert nothing
    decide +kernel

/-- The tokens are received before the poll is heard that no longer lists the mint. -/
def timelyMint : List (SettlementStep TokenizedEquityMintEvent) :=
  [.deliver (.mintRequested "AAPL" 10 7 0), .tick 1, .ask,
    .deliver (.mintAccepted ⟨"m-1"⟩ ⟨"t-1"⟩ 1), .take (samplePoll [⟨"AAPL", 10⟩] [] 1), .hear 0,
    .tick 1, .answer true, .take (samplePoll [] [] 2), .deliver (.tokensReceived 8 10 2), .hear 0]

def timelyRedemption : List (SettlementStep EquityRedemptionEvent) := sampleRedemptionRun []

theorem sampleReactor_still (venue : Venue) :
    (sampleReactor.view.equity "AAPL").inflight venue = 0 := by
  cases venue <;> decide +kernel

/-- Both samples settle: ten shares have moved. -/
theorem timely_transfers_settle :
    (∃ world, runSteps sampleMint.act (.start sampleReactor 0) timelyMint = some world ∧
      (world.reactor.view.equity "AAPL").available .hedging = 100 - 10 ∧
      (world.reactor.view.equity "AAPL").available .marketMaking = 100 + 10) ∧
    ∃ world, runSteps sampleRedemption.act (.start sampleReactor 0) timelyRedemption =
        some world ∧
      (world.reactor.view.equity "AAPL").available .marketMaking = 100 - 10 ∧
      (world.reactor.view.equity "AAPL").available .hedging = 100 + 10 := by
  obtain ⟨mints, redemptions⟩ := @equity_transfers_settle FloatFormat.exact
    FloatFormat.exact_isExact "AAPL" 10 (by decide) sampleReactor 0 sampleReactor_still
  constructor
  · refine ⟨(runSteps sampleMint.act (.start sampleReactor 0) timelyMint).get
      (by decide +kernel), by simp, ?_⟩
    have settles := mints ⟨"m-1"⟩ rfl rfl (by decide +kernel) timelyMint _
      (show Throughout sampleMint.act sampleMint.InTime _ timelyMint by decide +kernel)
      (Option.some_get (x := runSteps sampleMint.act (.start sampleReactor 0) timelyMint)
        (by decide +kernel)).symm
    obtain ⟨source, destination, -⟩ := settles.completed (by decide +kernel)
    exact ⟨source, destination⟩
  · refine ⟨(runSteps sampleRedemption.act (.start sampleReactor 0) timelyRedemption).get
      (by decide +kernel), by simp, ?_⟩
    have settles := redemptions ⟨"m-1"⟩ rfl rfl (by decide +kernel) timelyRedemption _
      (show Throughout sampleRedemption.act sampleRedemption.InTime _ timelyRedemption by
        decide +kernel)
      (Option.some_get (x := runSteps sampleRedemption.act (.start sampleReactor 0)
        timelyRedemption) (by decide +kernel)).symm
    obtain ⟨source, destination, -⟩ := settles.completed (by decide +kernel)
    exact ⟨source, destination⟩

end EquityTransfer

end Liquidity
