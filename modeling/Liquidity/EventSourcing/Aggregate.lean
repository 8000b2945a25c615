import Mathlib.Data.List.Induction
import Mathlib.Logic.Function.Basic

/-!
# Event-sourced aggregates

An aggregate is given by four functions. `originate` and `evolve` rebuild the
entity from its events, `initialise` and `transition` answer a command with new
events. The stream of events is the only durable state: an entity is the fold
of its stream, and a command that is accepted appends its whole batch at once.

A stream whose fold gets stuck is `failed`, and from then on the aggregate
answers every command with an error. A store is one stream for each
identifier; `send` is one atomic operation on it.
-/

namespace EventSourcing

/-- The event side and the command side of one aggregate. Command handlers read
a clock and may ask an outside service; what they are told is their context. -/
structure Aggregate (Entity Event Command Error Context : Type) where
  originate : Event → Option Entity
  evolve : Entity → Event → Except Error (Option Entity)
  initialise : Context → Command → Except Error (List Event)
  transition : Context → Entity → Command → Except Error (List Event)

/-- What the fold of a stream amounts to. -/
inductive Lifecycle (Entity : Type) where
  | uninitialized
  | live (entity : Entity)
  | failed
  deriving DecidableEq, Repr

/-- Why a command was not executed: the aggregate rejected it, its lifecycle has
failed, or the store could not be reached. -/
inductive SendError (Error : Type) where
  | rejected (error : Error)
  | alreadyFailed
  | infrastructure
  deriving DecidableEq, Repr

/-- The entity behind a lifecycle, if there is one. -/
def Lifecycle.entity? {Entity : Type} : Lifecycle Entity → Option Entity
  | .live entity => some entity
  | _ => none

namespace Aggregate

variable {Entity Event Command Error Context Id : Type}
variable (agg : Aggregate Entity Event Command Error Context)

/-- The effect of one event on the lifecycle. -/
def apply : Lifecycle Entity → Event → Lifecycle Entity
  | .uninitialized, event =>
      match agg.originate event with
      | some entity => .live entity
      | none => .failed
  | .live entity, event =>
      match agg.evolve entity event with
      | .ok (some next) => .live next
      | _ => .failed
  | .failed, _ => .failed

/-- Replay a batch of events from a given lifecycle. -/
def replay (state : Lifecycle Entity) (events : List Event) : Lifecycle Entity :=
  events.foldl agg.apply state

/-- The lifecycle a stored stream stands for. -/
def lifecycle (stream : List Event) : Lifecycle Entity :=
  agg.replay .uninitialized stream

/-- The batch a command produces against a lifecycle. -/
def decide (context : Context) (command : Command) :
    Lifecycle Entity → Except (SendError Error) (List Event)
  | .uninitialized => (agg.initialise context command).mapError .rejected
  | .live entity => (agg.transition context entity command).mapError .rejected
  | .failed => .error .alreadyFailed

/-- Execute a command against a stream: the batch it appends, or why it is refused. -/
def send (context : Context) (command : Command) (stream : List Event) :
    Except (SendError Error) (List Event) :=
  agg.decide context command (agg.lifecycle stream)

/-- Load the entity behind a stream. An absent aggregate loads as nothing, a
failed one does not load. -/
def load (stream : List Event) : Except (SendError Error) (Option Entity) :=
  match agg.lifecycle stream with
  | .uninitialized => .ok none
  | .live entity => .ok (some entity)
  | .failed => .error .alreadyFailed

/-- A stream that grew by accepted commands, each one issued in the state it met. -/
inductive Grown (issued : Option Entity → Command → Bool) : List Event → Prop where
  | empty : Grown issued []
  | send {stream events : List Event} {context : Context} {command : Command}
      (grown : Grown issued stream) (allowed : issued (agg.lifecycle stream).entity? command = true)
      (accepted : agg.send context command stream = .ok events) : Grown issued (stream ++ events)

/-- Execute commands one after another, if each one is issued and accepted. -/
def execute (issued : Option Entity → Command → Bool) :
    List (Context × Command) → List Event → Option (List Event)
  | [], stream => some stream
  | (context, command) :: rest, stream =>
      if issued (agg.lifecycle stream).entity? command then
        match agg.send context command stream with
        | .ok events => execute issued rest (stream ++ events)
        | .error _ => none
      else none

theorem Grown.execute {issued : Option Entity → Command → Bool} {stream final : List Event}
    (grown : agg.Grown issued stream) (commands : List (Context × Command))
    (h : agg.execute issued commands stream = some final) : agg.Grown issued final := by
  induction commands generalizing stream with
  | nil =>
      cases h
      exact grown
  | cons step rest ih =>
      simp only [Aggregate.execute] at h
      split at h
      case isFalse => cases h
      case isTrue allowed =>
        split at h
        case h_1 events accepted => exact ih (grown.send allowed accepted) h
        case h_2 => cases h

@[simp] theorem replay_nil (state : Lifecycle Entity) : agg.replay state [] = state := rfl

@[simp] theorem replay_cons (state : Lifecycle Entity) (event : Event) (events : List Event) :
    agg.replay state (event :: events) = agg.replay (agg.apply state event) events := rfl

theorem replay_append (state : Lifecycle Entity) (first second : List Event) :
    agg.replay state (first ++ second) = agg.replay (agg.replay state first) second :=
  List.foldl_append ..

@[simp] theorem lifecycle_nil : agg.lifecycle [] = .uninitialized := rfl

theorem lifecycle_append (stream events : List Event) :
    agg.lifecycle (stream ++ events) = agg.replay (agg.lifecycle stream) events :=
  agg.replay_append ..

theorem lifecycle_concat (stream : List Event) (event : Event) :
    agg.lifecycle (stream ++ [event]) = agg.apply (agg.lifecycle stream) event := by
  rw [lifecycle_append, replay_cons, replay_nil]

@[simp] theorem apply_failed (event : Event) : agg.apply .failed event = .failed := rfl

/-- An event that does not get a live entity stuck leads it to its next state. -/
theorem apply_live {entity : Entity} {event : Event}
    (accepted : agg.apply (.live entity) event ≠ .failed) :
    ∃ next, agg.evolve entity event = .ok (some next) ∧
      agg.apply (.live entity) event = .live next := by
  simp only [apply] at accepted ⊢
  split at accepted
  case h_1 next evolved => exact ⟨next, evolved, rfl⟩
  case h_2 => exact absurd rfl accepted

@[simp] theorem replay_failed (events : List Event) :
    agg.replay .failed events = .failed := by
  induction events with
  | nil => rfl
  | cons event events ih => exact ih

/-- A batch is accepted by a live entity exactly when the handler returns it. -/
theorem decide_eq_ok {context : Context} {command : Command} {state : Lifecycle Entity}
    {events : List Event} :
    agg.decide context command state = .ok events ↔
      (state = .uninitialized ∧ agg.initialise context command = .ok events) ∨
      ∃ entity, state = .live entity ∧ agg.transition context entity command = .ok events := by
  cases state with
  | uninitialized => cases h : agg.initialise context command <;> simp [decide, Except.mapError, h]
  | live entity => cases h : agg.transition context entity command <;> simp [decide, Except.mapError, h]
  | failed => simp [decide]

theorem send_eq_ok {context : Context} {command : Command} {stream events : List Event} :
    agg.send context command stream = .ok events ↔
      (agg.lifecycle stream = .uninitialized ∧ agg.initialise context command = .ok events) ∨
      ∃ entity, agg.lifecycle stream = .live entity ∧
        agg.transition context entity command = .ok events :=
  agg.decide_eq_ok

/-- A live entity is asked by its own transition. -/
theorem send_of_live {context : Context} {command : Command} {stream : List Event}
    {entity : Entity} (live : agg.lifecycle stream = .live entity) :
    agg.send context command stream =
      (agg.transition context entity command).mapError .rejected := by
  rw [send, live, decide]

theorem load_eq_some {stream : List Event} {entity : Entity} :
    agg.load stream = .ok (some entity) ↔ agg.lifecycle stream = .live entity := by
  cases h : agg.lifecycle stream <;> simp [load, h]

theorem load_eq_none {stream : List Event} :
    agg.load stream = .ok none ↔ agg.lifecycle stream = .uninitialized := by
  cases h : agg.lifecycle stream <;> simp [load, h]

/-- A first event that originates the aggregate leaves it live or failed forever
after, so only the empty stream is uninitialized. -/
theorem lifecycle_eq_uninitialized {stream : List Event} :
    agg.lifecycle stream = .uninitialized ↔ stream = [] := by
  constructor
  · intro h
    cases stream using List.reverseRecOn with
    | nil => rfl
    | append_singleton rest event =>
        rw [lifecycle_append] at h
        cases before : agg.lifecycle rest with
        | uninitialized =>
            simp only [before, replay_cons, replay_nil, apply] at h
            split at h <;> cases h
        | live entity =>
            simp only [before, replay_cons, replay_nil, apply] at h
            split at h <;> cases h
        | failed => simp [before] at h
  · rintro rfl
    rfl

end Aggregate

/-- One stream for each identifier. -/
abbrev Streams (Id Event : Type) := Id → List Event

namespace Streams

variable {Id Event : Type} [DecidableEq Id]

/-- Append a batch to the stream of `id`. -/
def append (streams : Streams Id Event) (id : Id) (events : List Event) : Streams Id Event :=
  Function.update streams id (streams id ++ events)

@[simp] theorem append_self (streams : Streams Id Event) (id : Id) (events : List Event) :
    streams.append id events id = streams id ++ events := by
  simp [append]

@[simp] theorem append_of_ne (streams : Streams Id Event) {id other : Id} (h : other ≠ id)
    (events : List Event) : streams.append id events other = streams other := by
  simp [append, h]

@[simp] theorem append_nil (streams : Streams Id Event) (id : Id) : streams.append id [] = streams := by
  funext other
  by_cases h : other = id
  · subst h
    simp
  · simp [h]

end Streams

end EventSourcing
