import Liquidity.Performance.Rebalance
import Liquidity.Performance.Runs
import Liquidity.UsdcRebalance.Lifecycle

/-!
# The streams of rebalances in time

A command answers with nothing, or with one event that the state can take and that is
stamped with the time of the command. So a stream that was written as the clock rose is
a path through the states of a rebalance along which the time of the events rises.
-/

namespace Liquidity

open EventSourcing Performance Performance.Rebalance

namespace UsdcRebalance

/-- One event, which leads from one state to the next. -/
def Moves : Option UsdcRebalance → UsdcRebalanceEvent → UsdcRebalance → Prop
  | none, event, next => originate event = some next
  | some entity, event, next => entity.next event = some next

/-- What a command answers at a time: nothing, or an event of that time. -/
def Answers (now : Time) (state : Option UsdcRebalance) (events : List UsdcRebalanceEvent) : Prop :=
  events = [] ∨ ∃ event next, events = [event] ∧ Moves state event next ∧ observedAt event = now

theorem Answers.one {now : Time} {state : Option UsdcRebalance} {event : UsdcRebalanceEvent}
    {next : UsdcRebalance} (moves : Moves state event next) (stamped : observedAt event = now) :
    Answers now state [event] := .inr ⟨event, next, rfl, moves, stamped⟩

/-- A stream that time rose along, with what it leads to. -/
inductive Path : Time → List UsdcRebalanceEvent → Option UsdcRebalance → Prop where
  | empty (time : Time) : Path time [] none
  | append {time : Time} {stream : List UsdcRebalanceEvent} {state : Option UsdcRebalance}
      {event : UsdcRebalanceEvent} {next : UsdcRebalance} (path : Path time stream state)
      (later : time < observedAt event) (moves : Moves state event next) :
      Path (observedAt event) (stream ++ [event]) (some next)

theorem Moves.apply {state : Option UsdcRebalance} {event : UsdcRebalanceEvent}
    {next : UsdcRebalance} (moves : Moves state event next) :
    aggregate.apply (lifecycleOf state) event = .live next := by
  cases state with
  | none =>
      have begins : aggregate.originate event = some next := moves
      simp only [lifecycleOf, Aggregate.apply, begins]
  | some entity =>
      have evolves : aggregate.evolve entity event = .ok (some next) := congrArg Except.ok moves
      simp only [lifecycleOf, Aggregate.apply, evolves]

theorem Path.lifecycle {time : Time} {stream : List UsdcRebalanceEvent}
    {state : Option UsdcRebalance} (path : Path time stream state) :
    aggregate.lifecycle stream = lifecycleOf state := by
  induction path with
  | empty => rfl
  | append _ _ moves ih =>
      rw [Aggregate.lifecycle_concat, ih]
      exact moves.apply

theorem Path.of_prefix {time : Time} {stream part : List UsdcRebalanceEvent}
    {state : Option UsdcRebalance} (path : Path time stream state) (inside : part <+: stream) :
    ∃ time state, Path time part state := by
  induction path with
  | empty time =>
      obtain rfl := List.prefix_nil.mp inside
      exact ⟨time, none, .empty time⟩
  | append path later moves ih =>
      rcases List.prefix_concat_iff.mp inside with rfl | shorter
      · exact ⟨_, _, .append path later moves⟩
      · exact ih shorter

/-- The commands that a stream of rebalances can be written by. -/
def Written (_ : UsdcRebalanceId) (now : Time) (stream batch : List UsdcRebalanceEvent) : Prop :=
  ∃ command, aggregate.send now command stream = .ok batch

end UsdcRebalance

end Liquidity
