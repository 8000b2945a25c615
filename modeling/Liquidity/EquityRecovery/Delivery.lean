import Liquidity.EquityRecovery.Resumption
import Liquidity.EventSourcing.Written

/-!
# What repeated delivery makes of a recovery

In every run of either job the stream replays, and records one wrap and one
deposit at most. The unwrapped job finishes whatever an earlier attempt left
underway. The wrapped job does not: it starts with a detection again, and the
aggregate refuses a second one. Its recoveries finish if no attempt stops
between the detection and the end.
-/

namespace Liquidity.EquityRecovery

open EventSourcing Process

/-- No service call fails. -/
structure Services.Succeed (services : Services) : Prop where
  resumeMint : ∀ mintId, services.resumeMint mintId = .ok ()
  resumeRedemption : ∀ redemptionId, services.resumeRedemption redemptionId = .ok ()
  lookupDerivative : ∀ symbol, ∃ token, services.lookupDerivative symbol = .ok token
  vaultIdForToken : ∀ token, ∃ vaultId, services.vaultIdForToken token = .ok vaultId
  toU256 : ∀ shares, ∃ amount, services.toU256 shares = .ok amount
  submitWrap : ∀ token amount, ∃ hash, services.submitWrap token amount = .ok hash
  confirmWrap : ∀ token hash, ∃ confirmation, services.confirmWrap token hash = .ok confirmation
  waitForBlock : ∀ block, services.waitForBlock block = .ok ()
  submitDeposit : ∀ token vaultId amount, ∃ hash,
    services.submitDeposit token vaultId amount = .ok hash
  confirmTx : ∀ hash, services.confirmTx hash = .ok ()

/-- The slot is free, the stores are up, every service call succeeds, and the
inventory and the transfer stores say this. -/
def succeeding (reading : InventoryReading) (quantity : Option FractionalShares) :
    Answer → List Event → Prop
  | .claimed _, _ => True
  | .contended, _ => False
  | .done, _ => True
  | .reading found, _ => found = reading
  | .quantity found, _ => found = quantity
  | .served services, _ => services.Succeed
  | .unavailable, _ => False

section Generic

variable {Entity Event Command Error : Type}
variable (agg : Aggregate Entity Event Command Error Services) (isTerminal : Entity → Bool)

/-- The recovery has begun and is not over. -/
def Underway (stream : List Event) : Prop :=
  ∃ entity, agg.lifecycle stream = .live entity ∧ isTerminal entity = false

/-- The recovery is over. -/
def Ended (stream : List Event) : Prop :=
  ∃ entity, agg.lifecycle stream = .live entity ∧ isTerminal entity = true

/-- If the recovery is underway, a further attempt that meets no failure can be
made, and every such attempt ends it. -/
def Resumes (program : JobProg Entity Command Error Unit) (reading : InventoryReading)
    (quantity : Option FractionalShares) (stream : List Event) : Prop :=
  Underway agg isTerminal stream →
    (∃ result final,
      Completes (answering agg (succeeding reading quantity)) program stream result final) ∧
    ∀ result final,
      Completes (answering agg (succeeding reading quantity)) program stream result final →
        Ended agg isTerminal final

/-- A store outage is no such answer; anything else is. -/
def Answer.Served : Answer → Prop
  | .unavailable => False
  | _ => True

variable {agg isTerminal}

theorem Ended.not_underway {stream : List Event} (ended : Ended agg isTerminal stream) :
    ¬ Underway agg isTerminal stream := by
  rintro ⟨entity, live, underway⟩
  obtain ⟨entity', live', terminal⟩ := ended
  rw [live] at live'
  cases live'
  rw [underway] at terminal
  cases terminal

/-- Only an accepted command changes the stream. -/
theorem handle_appends {answer : Answer} {op : Op Command} {s t : List Event}
    {result : Ret Entity Command Error op} (handled : handle agg answer op s = some (result, t)) :
    t = s ∨ ∃ services command events, agg.send services command s = .ok events ∧ t = s ++ events := by
  unfold handle at handled
  split at handled
  case h_12 services command =>
    split at handled
    · rename_i events accepted
      cases handled
      exact .inr ⟨services, command, events, accepted, rfl⟩
    · cases handled
      exact .inl rfl
  all_goals cases handled <;> exact .inl rfl

/-- Every stream that a job leaves behind is written by its aggregate's commands. -/
theorem delivered_written {adds : Entity → Event → Entity → Prop} (writes : agg.Writes adds)
    {program : JobProg Entity Command Error Unit} {history : List (List Answer)}
    {stream : List Event} (ran : deliver (handle agg) program [] history = some stream) :
    stream = [] ∨ ∃ entity, agg.Written adds stream entity := by
  have keeps (answer : Answer) (op : Op Command) (s : List Event)
      (result : Ret Entity Command Error op) (t : List Event)
      (before : s = [] ∨ ∃ entity, agg.Written adds s entity)
      (handled : handle agg answer op s = some (result, t)) :
      t = [] ∨ ∃ entity, agg.Written adds t entity := by
    rcases handle_appends handled with rfl | ⟨services, command, events, accepted, rfl⟩
    · exact before
    · exact .inr (writes.send before accepted)
  exact deliver_invariant keeps (.inl rfl) ran

/-- An operation that meets no failure has an answer. -/
theorem succeeding_answers {reading : InventoryReading} {quantity : Option FractionalShares}
    {services : Services} (succeed : services.Succeed) (op : Op Command) (s : List Event) :
    ∃ result t, answering agg (succeeding reading quantity) op s result t := by
  cases op with
  | claimGuardForRecoveryOrOrphan =>
      exact ⟨some ⟨0, .orphan⟩, s, .claimed ⟨0, .orphan⟩, trivial, rfl⟩
  | releaseGuard guard => exact ⟨(), s, .done, trivial, rfl⟩
  | dropGuard guard => exact ⟨(), s, .done, trivial, rfl⟩
  | load => exact ⟨agg.load s, s, .done, trivial, rfl⟩
  | readInventory => exact ⟨reading, s, .reading reading, rfl, rfl⟩
  | loadMint mintId => exact ⟨.ok quantity, s, .quantity quantity, rfl, rfl⟩
  | loadRedemption redemptionId => exact ⟨.ok quantity, s, .quantity quantity, rfl, rfl⟩
  | send command =>
      cases decided : agg.send services command s with
      | ok events =>
          exact ⟨.ok (), s ++ events, .served services, succeed, by simp [handle, decided]⟩
      | error error => exact ⟨.error error, s, .served services, succeed, by simp [handle, decided]⟩
  | pushWithDelay => exact ⟨.ok (), s, .done, trivial, rfl⟩

end Generic

/-! ## What the streams record -/

namespace WrappedEquityRecovery

theorem writes : aggregate.Writes Adds where
  initialise begun := by
    rename_i services command events
    cases command <;> cases begun
    exact ⟨_, _, rfl, rfl⟩
  transition := transition_adds
  evolve := Adds.evolve

/-- How far a recovery is. -/
def stage : WrappedEquityRecovery → Nat
  | .detected .. => 0
  | .orphanDepositSubmitted .. => 1
  | _ => 2

def submitsDeposit : WrappedEquityRecoveryEvent → Bool
  | .orphanDepositSubmitted .. => true
  | _ => false

/-- The deposit an event records. -/
def depositHash : WrappedEquityRecoveryEvent → Option TxHash
  | .orphanDepositSubmitted hash _ => some hash
  | .orphanDeposited hash _ => some hash
  | _ => none

def knownDeposit : WrappedEquityRecovery → Option TxHash
  | .orphanDepositSubmitted _ _ _ hash _ => some hash
  | _ => none

theorem crosses_deposit : aggregate.Crosses Adds stage submitsDeposit 1 where
  first {event entity} originated := by cases event <;> first | rfl | cases originated
  rises added := by cases added <;> simp [stage]
  crosses added submits := by
    cases added with
    | submitted => simp [stage]
    | _ => cases submits

/-- A recovery that is over adds nothing. -/
theorem Adds.underway {entity next : WrappedEquityRecovery} {event : WrappedEquityRecoveryEvent}
    (added : Adds entity event next) : entity.isTerminal = false := by
  cases added <;> rfl

theorem over_of_terminal {entity : WrappedEquityRecovery} (terminal : entity.isTerminal = true) :
    ∀ event next, ¬ Adds entity event next := by
  intro event next added
  rw [added.underway] at terminal
  cases terminal

theorem remembers_deposit : aggregate.Remembers Adds depositHash knownDeposit where
  first {event entity} originated := by cases event <;> first | rfl | cases originated
  agrees added labelled := by
    cases added with
    | submitted => exact .inl rfl
    | deposited =>
        cases labelled
        exact .inr rfl
    | _ => cases labelled
  keeps added := by
    cases added
    case submitted => exact .inr rfl
    all_goals exact .inl (over_of_terminal rfl)

end WrappedEquityRecovery

namespace UnwrappedEquityRecovery

theorem writes : aggregate.Writes Adds where
  initialise begun := by
    rename_i services command events
    cases command <;> cases begun
    exact ⟨_, _, rfl, rfl⟩
  transition := transition_adds
  evolve := Adds.evolve

/-- How far a recovery is. -/
def stage : UnwrappedEquityRecovery → Nat
  | .detected .. => 0
  | .orphanWrapSubmitted .. => 1
  | .orphanWrapped .. => 2
  | .orphanDepositSubmitted .. => 3
  | _ => 4

def submitsWrap : UnwrappedEquityRecoveryEvent → Bool
  | .orphanWrapSubmitted .. => true
  | _ => false

def submitsDeposit : UnwrappedEquityRecoveryEvent → Bool
  | .orphanDepositSubmitted .. => true
  | _ => false

/-- The wrap an event records. -/
def wrapHash : UnwrappedEquityRecoveryEvent → Option TxHash
  | .orphanWrapSubmitted hash _ => some hash
  | .orphanWrapped hash _ _ _ => some hash
  | _ => none

/-- The deposit an event records. -/
def depositHash : UnwrappedEquityRecoveryEvent → Option TxHash
  | .orphanDepositSubmitted hash _ => some hash
  | .orphanDeposited hash _ => some hash
  | _ => none

def knownWrap : UnwrappedEquityRecovery → Option TxHash
  | .orphanWrapSubmitted _ _ _ hash _ => some hash
  | .orphanWrapped _ _ _ hash _ _ _ _ => some hash
  | .orphanDepositSubmitted _ _ _ hash _ _ _ => some hash
  | _ => none

def knownDeposit : UnwrappedEquityRecovery → Option TxHash
  | .orphanDepositSubmitted _ _ _ _ _ hash _ => some hash
  | _ => none

theorem Adds.underway {entity next : UnwrappedEquityRecovery} {event : UnwrappedEquityRecoveryEvent}
    (added : Adds entity event next) : entity.isTerminal = false := by
  cases added with
  | failed underway about => exact underway
  | _ => rfl

theorem over_of_terminal {entity : UnwrappedEquityRecovery} (terminal : entity.isTerminal = true) :
    ∀ event next, ¬ Adds entity event next := by
  intro event next added
  rw [added.underway] at terminal
  cases terminal

theorem stage_lt_of_underway {entity : UnwrappedEquityRecovery}
    (underway : entity.isTerminal = false) : entity.stage < 4 := by
  revert underway
  cases entity <;> simp [isTerminal, stage]

theorem Adds.stage_lt {entity next : UnwrappedEquityRecovery} {event : UnwrappedEquityRecoveryEvent}
    (added : Adds entity event next) : entity.stage < next.stage := by
  cases added with
  | failed underway about => exact stage_lt_of_underway underway
  | _ => simp [stage]

theorem crosses_wrap : aggregate.Crosses Adds stage submitsWrap 1 where
  first {event entity} originated := by cases event <;> first | rfl | cases originated
  rises added := Nat.le_of_lt added.stage_lt
  crosses added submits := by
    cases added with
    | wrapSubmitted => simp [stage]
    | _ => cases submits

theorem crosses_deposit : aggregate.Crosses Adds stage submitsDeposit 3 where
  first {event entity} originated := by cases event <;> first | rfl | cases originated
  rises added := Nat.le_of_lt added.stage_lt
  crosses added submits := by
    cases added with
    | depositSubmitted => simp [stage]
    | _ => cases submits

theorem remembers_wrap : aggregate.Remembers Adds wrapHash knownWrap where
  first {event entity} originated := by cases event <;> first | rfl | cases originated
  agrees added labelled := by
    cases added with
    | wrapSubmitted => exact .inl rfl
    | wrapped =>
        cases labelled
        exact .inr rfl
    | _ => cases labelled
  keeps added := by
    cases added
    case wrapSubmitted => exact .inr rfl
    case wrapped => exact .inr rfl
    case depositSubmitted => exact .inr rfl
    all_goals exact .inl (over_of_terminal rfl)

theorem remembers_deposit : aggregate.Remembers Adds depositHash knownDeposit where
  first {event entity} originated := by cases event <;> first | rfl | cases originated
  agrees added labelled := by
    cases added with
    | depositSubmitted => exact .inl rfl
    | deposited =>
        cases labelled
        exact .inr rfl
    | _ => cases labelled
  keeps added := by
    cases added
    case wrapSubmitted => exact .inr rfl
    case wrapped => exact .inr rfl
    case depositSubmitted => exact .inr rfl
    all_goals exact .inl (over_of_terminal rfl)

end UnwrappedEquityRecovery

end Liquidity.EquityRecovery
