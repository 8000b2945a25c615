import Liquidity.EventSourcing.Written

/-!
# Runs of commands

Commands are sent one after another. One that is refused leaves no trace, one
that is accepted appends its batch. Where the entity accepts the batches its own
commands produce, the stream never gets stuck; where a command emits an event
only in states that admit it, the stream is a path through such states.
-/

namespace EventSourcing

namespace Aggregate

variable {Entity Event Command Error Context : Type}

/-- Send commands one after another. -/
def sends (agg : Aggregate Entity Event Command Error Context) :
    List (Context × Command) → List Event → List Event
  | [], stream => stream
  | (context, command) :: rest, stream =>
      match agg.send context command stream with
      | .ok events => agg.sends rest (stream ++ events)
      | .error _ => agg.sends rest stream

@[simp] theorem sends_append (agg : Aggregate Entity Event Command Error Context)
    (first second : List (Context × Command)) (stream : List Event) :
    agg.sends (first ++ second) stream = agg.sends second (agg.sends first stream) := by
  induction first generalizing stream with
  | nil => rfl
  | cons step rest ih =>
      obtain ⟨context, command⟩ := step
      rw [List.cons_append]
      simp only [sends]
      cases agg.send context command stream with
      | ok events => exact ih _
      | error error => exact ih _

/-- What holds at first and is kept by every accepted command of a kind holds in
the end. -/
theorem sends_invariant_of (agg : Aggregate Entity Event Command Error Context)
    (inv : List Event → Prop) (kind : Context × Command → Prop)
    (keeps : ∀ {context command stream events}, kind (context, command) → inv stream →
      agg.send context command stream = .ok events → inv (stream ++ events))
    {commands : List (Context × Command)} (all : ∀ step ∈ commands, kind step)
    {stream : List Event} (start : inv stream) : inv (agg.sends commands stream) := by
  induction commands generalizing stream with
  | nil => exact start
  | cons step rest ih =>
      obtain ⟨context, command⟩ := step
      obtain ⟨first, later⟩ := List.forall_mem_cons.mp all
      simp only [sends]
      cases sent : agg.send context command stream with
      | ok events => exact ih later (keeps first start sent)
      | error error => exact ih later start

/-- What holds at first and is kept by every accepted command holds in the end. -/
theorem sends_invariant (agg : Aggregate Entity Event Command Error Context)
    (inv : List Event → Prop)
    (keeps : ∀ {context command stream events}, inv stream →
      agg.send context command stream = .ok events → inv (stream ++ events))
    (commands : List (Context × Command)) {stream : List Event} (start : inv stream) :
    inv (agg.sends commands stream) :=
  agg.sends_invariant_of inv (fun _ => True) (fun _ => keeps) (fun _ _ => trivial) start

theorem prefix_sends (agg : Aggregate Entity Event Command Error Context)
    (commands : List (Context × Command)) (stream : List Event) :
    stream <+: agg.sends commands stream :=
  agg.sends_invariant (fun later => stream <+: later)
    (fun sofar _ => sofar.trans (List.prefix_append _ _)) commands (List.prefix_refl _)

/-- Every command of a run, with the state it meets. -/
def Each (agg : Aggregate Entity Event Command Error Context)
    (allowed : Lifecycle Entity → Command → Prop) (commands : List (Context × Command)) : Prop :=
  ∀ first context command rest, commands = first ++ (context, command) :: rest →
    allowed (agg.lifecycle (agg.sends first [])) command

theorem Each.of_prefix {agg : Aggregate Entity Event Command Error Context}
    {allowed : Lifecycle Entity → Command → Prop} {first commands : List (Context × Command)}
    (each : agg.Each allowed commands) (part : first <+: commands) : agg.Each allowed first := by
  obtain ⟨later, rfl⟩ := part
  intro before context command rest whole
  exact each before context command (rest ++ later) (by simp [whole])

/-- What is kept by every accepted command that is allowed in the state it meets
holds in the end. -/
theorem sends_invariant_each (agg : Aggregate Entity Event Command Error Context)
    {allowed : Lifecycle Entity → Command → Prop} (inv : List Event → Prop)
    (keeps : ∀ {context command stream events}, allowed (agg.lifecycle stream) command →
      inv stream → agg.send context command stream = .ok events → inv (stream ++ events))
    {commands : List (Context × Command)} (each : agg.Each allowed commands) (start : inv []) :
    inv (agg.sends commands []) := by
  induction commands using List.reverseRecOn with
  | nil => exact start
  | append_singleton earlier step ih =>
      obtain ⟨context, command⟩ := step
      have before : inv (agg.sends earlier []) := ih (each.of_prefix (List.prefix_append _ _))
      rw [sends_append]
      simp only [sends]
      cases sent : agg.send context command (agg.sends earlier []) with
      | ok events => exact keeps (each earlier context command [] rfl) before sent
      | error error => exact before

/-! ## Batches that are accepted -/

/-- The entity accepts every batch its own commands produce. -/
structure Accepting (agg : Aggregate Entity Event Command Error Context) : Prop where
  initialise : ∀ {context command events}, agg.initialise context command = .ok events →
    agg.replay .uninitialized events ≠ .failed
  transition : ∀ {context entity command events},
    agg.transition context entity command = .ok events → agg.replay (.live entity) events ≠ .failed

variable {agg : Aggregate Entity Event Command Error Context}

/-- A stream that did not get stuck did not get stuck on the way. -/
theorem lifecycle_ne_failed_of_prefix {before stream : List Event} (part : before <+: stream)
    (accepted : agg.lifecycle stream ≠ .failed) : agg.lifecycle before ≠ .failed := by
  intro stuck
  obtain ⟨rest, rfl⟩ := part
  apply accepted
  rw [lifecycle_append, stuck, replay_failed]

/-- No event got stuck of a stream that stands for an entity. -/
theorem apply_ne_failed_of_live {before stream : List Event} {event : Event} {entity : Entity}
    (live : agg.lifecycle stream = .live entity) (part : before ++ [event] <+: stream) :
    agg.apply (agg.lifecycle before) event ≠ .failed := by
  rw [← lifecycle_concat]
  refine lifecycle_ne_failed_of_prefix part ?_
  rw [live]
  nofun

/-- No event of a run gets the fold stuck. -/
theorem Accepting.sends (accepting : Accepting agg) (commands : List (Context × Command)) :
    agg.lifecycle (agg.sends commands []) ≠ .failed := by
  refine agg.sends_invariant (fun stream => agg.lifecycle stream ≠ .failed) ?_ commands (by simp)
  intro context command stream events before sent
  rw [lifecycle_append]
  rcases agg.send_eq_ok.mp sent with ⟨absent, begun⟩ | ⟨entity, live, moved⟩
  · rw [absent]
    exact accepting.initialise begun
  · rw [live]
    exact accepting.transition moved

/-! ## Events that are admitted -/

/-- Commands emit an event only in a state that admits it. -/
structure Admitting (agg : Aggregate Entity Event Command Error Context)
    (admits : Entity → Event → Prop) : Prop where
  initialise : ∀ {context command events}, agg.initialise context command = .ok events →
    ∀ {part event}, part ++ [event] <+: events → ∀ {entity},
      agg.replay .uninitialized part = .live entity → admits entity event
  transition : ∀ {context entity command events},
    agg.transition context entity command = .ok events →
    ∀ {part event}, part ++ [event] <+: events → ∀ {middle},
      agg.replay (.live entity) part = .live middle → admits middle event

variable {admits : Entity → Event → Prop}

/-- An event of a run, in the state it met. -/
def Added (agg : Aggregate Entity Event Command Error Context) (admits : Entity → Event → Prop)
    (entity : Entity) (event : Event) (next : Entity) : Prop :=
  admits entity event ∧ agg.evolve entity event = .ok (some next)

/-- A prefix of two lists put together ends in the first or in the second. -/
theorem concat_prefix_append {before first second : List Event} {event : Event}
    (part : before ++ [event] <+: first ++ second) :
    before ++ [event] <+: first ∨ ∃ rest, before = first ++ rest ∧ rest ++ [event] <+: second := by
  rcases Nat.lt_or_ge before.length first.length with short | long
  · left
    refine List.prefix_of_prefix_length_le part (List.prefix_append first second) ?_
    rw [List.length_append, List.length_singleton]
    exact short
  · right
    have whole : first <+: before := by
      refine List.prefix_of_prefix_length_le (List.prefix_append first second) ?_ long
      exact (List.prefix_append before [event]).trans part
    obtain ⟨rest, rfl⟩ := whole
    refine ⟨rest, rfl, ?_⟩
    rw [List.append_assoc] at part
    exact (List.prefix_append_right_inj first).mp part

/-- The first event of a batch meets the state the command met. -/
theorem admits_head {entity middle : Entity} {event : Event} {events part : List Event}
    (within : part ++ [event] <+: events)
    (reached : agg.replay (.live entity) part = .live middle)
    (head : ∀ event ∈ events.head?, admits entity event)
    (tail : ∀ event ∈ events.tail, ∀ entity, admits entity event) : admits middle event := by
  cases part with
  | nil =>
      obtain ⟨rest, rfl⟩ := within
      cases reached
      exact head event rfl
  | cons first rest =>
      obtain ⟨later, rfl⟩ := within
      exact tail event (by simp) middle

/-- The only event of a batch meets the state the command met. -/
theorem admits_single {entity middle : Entity} {event event' : Event} {part : List Event}
    (within : part ++ [event'] <+: [event])
    (reached : agg.replay (.live entity) part = .live middle) (admitted : admits entity event) :
    admits middle event' := by
  refine admits_head within reached ?_ (by simp)
  rintro _ ⟨⟩
  exact admitted

/-- A batch of events that every state admits. -/
theorem admits_batch {events part : List Event} {event : Event} (entity : Entity)
    (within : part ++ [event] <+: events) (free : ∀ event ∈ events, ∀ entity, admits entity event) :
    admits entity event :=
  free event (within.subset (by simp)) entity

theorem Admitting.sends (admitting : Admitting agg admits) (commands : List (Context × Command))
    {before : List Event} {event : Event} (part : before ++ [event] <+: agg.sends commands [])
    {entity : Entity} (live : agg.lifecycle before = .live entity) : admits entity event := by
  revert before event entity
  refine agg.sends_invariant (fun stream => ∀ {before event}, before ++ [event] <+: stream →
    ∀ {entity}, agg.lifecycle before = .live entity → admits entity event) ?_ commands ?_
  · intro context command stream events sofar sent before event part entity live
    rcases concat_prefix_append part with earlier | ⟨rest, rfl, within⟩
    · exact sofar earlier live
    · rw [lifecycle_append] at live
      rcases agg.send_eq_ok.mp sent with ⟨absent, begun⟩ | ⟨entity', live', moved⟩
      · rw [absent] at live
        exact admitting.initialise begun within live
      · rw [live'] at live
        exact admitting.transition moved within live
  · intro before event part
    simp at part

/-- From a live state, events that are admitted one after another are accepted. -/
theorem replay_live_of_admits
    (evolves : ∀ {entity event}, admits entity event →
      ∃ next, agg.evolve entity event = .ok (some next))
    {start : Entity} {events : List Event}
    (admitted : ∀ {part event}, part ++ [event] <+: events → ∀ {middle},
      agg.replay (.live start) part = .live middle → admits middle event) :
    ∃ last, agg.replay (.live start) events = .live last := by
  induction events using List.reverseRecOn with
  | nil => exact ⟨start, rfl⟩
  | append_singleton earlier event ih =>
      obtain ⟨middle, reached⟩ :=
        ih fun part => admitted (part.trans (List.prefix_append earlier [event]))
      obtain ⟨next, evolved⟩ := evolves (admitted (List.prefix_refl _) reached)
      refine ⟨next, ?_⟩
      rw [replay_append, reached, replay_cons, replay_nil]
      simp only [apply, evolved]

/-- Where admitted events are accepted and a first event originates the entity,
batches are accepted. -/
theorem Admitting.accepting (admitting : Admitting agg admits)
    (evolves : ∀ {entity event}, admits entity event →
      ∃ next, agg.evolve entity event = .ok (some next))
    (starts : ∀ {context command event events},
      agg.initialise context command = .ok (event :: events) →
        ∃ entity, agg.originate event = some entity) : Accepting agg where
  initialise := by
    intro context command events begun stuck
    cases events with
    | nil => cases stuck
    | cons event rest =>
        obtain ⟨entity, originates⟩ := starts begun
        have first : agg.apply .uninitialized event = .live entity := by
          simp only [apply, originates]
        rw [replay_cons, first] at stuck
        have admitted : ∀ {part event'}, part ++ [event'] <+: rest → ∀ {middle},
            agg.replay (.live entity) part = .live middle → admits middle event' := by
          intro part event' within middle reached
          have whole : (event :: part) ++ [event'] <+: event :: rest := by simpa using within
          have arrived : agg.replay .uninitialized (event :: part) = .live middle := by
            rw [replay_cons, first]
            exact reached
          exact admitting.initialise begun whole arrived
        obtain ⟨last, live⟩ := replay_live_of_admits evolves admitted
        rw [live] at stuck
        cases stuck
  transition := by
    intro context entity command events moved stuck
    obtain ⟨last, live⟩ := replay_live_of_admits evolves (admitting.transition moved)
    rw [live] at stuck
    cases stuck

/-- A run is a path through states that admit its events. -/
theorem Admitting.written (admitting : Admitting agg admits)
    (commands : List (Context × Command)) {before : List Event}
    (part : before <+: agg.sends commands []) {entity : Entity}
    (live : agg.lifecycle before = .live entity) :
    Written agg (Added agg admits) before entity := by
  induction before using List.reverseRecOn generalizing entity with
  | nil => cases live
  | append_singleton earlier event ih =>
      have shorter : earlier <+: agg.sends commands [] :=
        (List.prefix_append earlier [event]).trans part
      rw [lifecycle_append, replay_cons, replay_nil] at live
      cases found : agg.lifecycle earlier with
      | failed =>
          rw [found] at live
          cases live
      | uninitialized =>
          have empty : earlier = [] := agg.lifecycle_eq_uninitialized.mp found
          subst empty
          simp only [found, apply] at live
          split at live
          · rename_i started originates
            cases live
            exact .first originates
          · cases live
      | live reached =>
          simp only [found, apply] at live
          split at live
          · rename_i next evolved
            cases live
            exact (ih shorter found).next ⟨admitting.sends commands part found, evolved⟩
          · cases live

/-- Between two states of a run, what every event in between keeps is kept. -/
theorem Admitting.between (admitting : Admitting agg admits) (commands : List (Context × Command))
    {start during : List Event} (part : start ++ during <+: agg.sends commands [])
    {first last : Entity} (starts : agg.lifecycle start = .live first)
    (ends : agg.lifecycle (start ++ during) = .live last) (inv : Entity → Prop) (holds : inv first)
    (keeps : ∀ {entity event next}, event ∈ during → inv entity →
      Added agg admits entity event next → inv next) : inv last :=
  (admitting.written commands part ends).between (fun added => added.2) starts inv holds keeps

end Aggregate

end EventSourcing
