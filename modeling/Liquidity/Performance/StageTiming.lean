import Liquidity.Finance
import Mathlib.Data.List.Sort
import Mathlib.Data.String.Basic
import Mathlib.Logic.Function.Basic

/-!
# Tables of stage timings

Two read models keep one row for each operation: the timings folded from its events,
and the sequence of the last event a replay has folded in. While the bot runs, each
event is applied to its row as it comes, and the sequence, which that path does not
know, stays as it is. A replay folds whatever lies past the sequence of its row.

What the database holds as text may not parse. An event whose operation or payload
does not, or whose row does not, is passed over, and so is the rest of its stream.
Failures of the database itself are left out: they roll the transaction back.
-/

namespace Liquidity.Performance

/-- A text in the database: what it parses to, if it does. -/
inductive Stored (α : Type) where
  | parsed (value : α)
  | corrupt (text : String)
  deriving DecidableEq, Repr

/-- A row of the events table. -/
structure EventRow (Id Event : Type) where
  aggregateId : Stored Id
  sequence : Nat
  payload : Stored Event
  deriving DecidableEq, Repr

/-- A row of a timing table. -/
structure TimingRow (Operation : Type) where
  startedAt : Time
  timing : Stored Operation
  lastSequence : Option Nat
  deriving DecidableEq, Repr

inductive ProjectionError where
  | state (text : String)
  deriving DecidableEq, Repr

/-- What one of the read models folds, and how. A replay tells the fold the sequence
of an event, and the reaction to a live event does not. -/
structure TimingProjection (Id Event Operation : Type) where
  idText : Id → String
  new : Id → Event → Operation
  apply : Operation → Event → Option Nat → Operation
  operationId : Operation → Id
  firstSeenAt : Operation → Time

/-- The rows by operation. -/
abbrev Table (Id Operation : Type) := Id → Option (TimingRow Operation)

variable {Id Event Operation : Type}

/-- The operation that a row holds. -/
def TimingRow.load : Option (TimingRow Operation) → Except ProjectionError (Option Operation)
  | none => .ok none
  | some row =>
      match row.timing with
      | .parsed operation => .ok (some operation)
      | .corrupt text => .error (.state text)

/-- The sequence a replay of a stream starts after. -/
def TimingRow.checkpoint (row : Option (TimingRow Operation)) : Nat :=
  (row.bind TimingRow.lastSequence).getD 0

/-- What the replay query joins to an event of the stream. -/
def Table.joined (table : Table Id Operation) : Stored Id → Option (TimingRow Operation)
  | .parsed id => table id
  | .corrupt _ => none

/-- The text the query sorts by. -/
def Stored.text (idText : Id → String) : Stored Id → String
  | .parsed id => idText id
  | .corrupt text => text

/-- How far a replay has come. -/
structure Replay (Id Operation : Type) where
  table : Table Id Operation
  poisoned : List (Stored Id)
  replayed : Nat

namespace TimingProjection

variable [DecidableEq Id] (projection : TimingProjection Id Event Operation)

def loadOperation (table : Table Id Operation) (operationId : Id) :
    Except ProjectionError (Option Operation) :=
  TimingRow.load (table operationId)

/-- The row keeps its sequence where it is given none. -/
def saveOperation (table : Table Id Operation) (operation : Operation) (checkpoint : Option Nat) :
    Table Id Operation :=
  Function.update table (projection.operationId operation) (some {
    startedAt := projection.firstSeenAt operation
    timing := .parsed operation
    lastSequence := checkpoint.or
      ((table (projection.operationId operation)).bind TimingRow.lastSequence) })

/-- The event applied to what is stored, or to a new operation. -/
def applied (operationId : Id) (event : Event) (sequence : Option Nat) (found : Option Operation) :
    Operation :=
  projection.apply (found.getD (projection.new operationId event)) event sequence

/-- The reaction to a live event. -/
def onEvent (table : Table Id Operation) (operationId : Id) (event : Event) :
    Except ProjectionError (Table Id Operation) := do
  let found ← loadOperation table operationId
  return projection.saveOperation table (projection.applied operationId event none found) none

/-- By stream, and by sequence within a stream. -/
def replayOrder (first second : EventRow Id Event) : Bool :=
  first.aggregateId.text projection.idText < second.aggregateId.text projection.idText ||
    (first.aggregateId.text projection.idText = second.aggregateId.text projection.idText &&
      first.sequence ≤ second.sequence)

/-- The events past the sequence of their row. -/
def pending (table : Table Id Operation) (events : List (EventRow Id Event)) :
    List (EventRow Id Event) :=
  (events.filter fun row => TimingRow.checkpoint (table.joined row.aggregateId) < row.sequence)
    |>.mergeSort projection.replayOrder

/-- Replay one event, unless its stream has been given up. -/
def replayRow (replay : Replay Id Operation) (row : EventRow Id Event) : Replay Id Operation :=
  if row.aggregateId ∈ replay.poisoned then replay
  else
    match row.aggregateId, row.payload with
    | .parsed operationId, .parsed event =>
        match loadOperation replay.table operationId with
        | .ok found =>
            { replay with
              table := projection.saveOperation replay.table
                (projection.applied operationId event (some row.sequence) found) (some row.sequence)
              replayed := replay.replayed + 1 }
        | .error _ => { replay with poisoned := row.aggregateId :: replay.poisoned }
    | _, _ => { replay with poisoned := row.aggregateId :: replay.poisoned }

def replayPending (table : Table Id Operation) (events : List (EventRow Id Event)) :
    Replay Id Operation :=
  (projection.pending table events).foldl projection.replayRow ⟨table, [], 0⟩

/-- The table and the number of events replayed. -/
def catchUp (table : Table Id Operation) (events : List (EventRow Id Event)) :
    Table Id Operation × Nat :=
  let replay := projection.replayPending table events
  (replay.table, replay.replayed)

/-- Start from an empty table. -/
def rebuildAll (events : List (EventRow Id Event)) : Table Id Operation × Nat :=
  let replay := projection.replayPending (fun _ => none) events
  (replay.table, replay.replayed)

end TimingProjection

end Liquidity.Performance
