import Liquidity.EventSourcing.Aggregate

/-!
# Streams written one event at a time

Where every command that is accepted adds one event, and the entity accepts
it, a stream is a path through the entity's states. What happens when the path
crosses a threshold happens once, and a label that the entity remembers from
its first appearance never changes.
-/

namespace EventSourcing

namespace Aggregate

variable {Entity Event Command Error Context Label : Type}

/-- Every accepted command writes one event, and that event is accepted. -/
structure Writes (agg : Aggregate Entity Event Command Error Context)
    (adds : Entity → Event → Entity → Prop) : Prop where
  initialise : ∀ {context command events}, agg.initialise context command = .ok events →
    ∃ event entity, events = [event] ∧ agg.originate event = some entity
  transition : ∀ {context entity command events},
    agg.transition context entity command = .ok events →
      ∃ event next, events = [event] ∧ adds entity event next
  evolve : ∀ {entity event next}, adds entity event next →
    agg.evolve entity event = .ok (some next)

/-- A stream that was written this way, and the entity it stands for. -/
inductive Written (agg : Aggregate Entity Event Command Error Context)
    (adds : Entity → Event → Entity → Prop) : List Event → Entity → Prop
  | first {event : Event} {entity : Entity} (originates : agg.originate event = some entity) :
      Written agg adds [event] entity
  | next {stream : List Event} {entity next : Entity} {event : Event}
      (written : Written agg adds stream entity) (added : adds entity event next) :
      Written agg adds (stream ++ [event]) next

variable {agg : Aggregate Entity Event Command Error Context}
variable {adds : Entity → Event → Entity → Prop}

theorem Written.lifecycle_of {stream : List Event} {entity : Entity}
    (evolves : ∀ {entity event next}, adds entity event next →
      agg.evolve entity event = .ok (some next))
    (written : Written agg adds stream entity) : agg.lifecycle stream = .live entity := by
  induction written with
  | first originates =>
      show agg.apply .uninitialized _ = _
      simp only [apply, originates]
  | next written added ih =>
      rw [lifecycle_append, ih]
      show agg.apply (.live _) _ = _
      simp only [apply, evolves added]

theorem Written.lifecycle {stream : List Event} {entity : Entity} (writes : Writes agg adds)
    (written : Written agg adds stream entity) : agg.lifecycle stream = .live entity :=
  written.lifecycle_of writes.evolve

/-- The last event of a stream is its first, or was added to what came before. -/
theorem Written.concat_inv {stream : List Event} {event : Event} {last : Entity}
    (written : Written agg adds (stream ++ [event]) last) :
    (stream = [] ∧ agg.originate event = some last) ∨
      ∃ entity, Written agg adds stream entity ∧ adds entity event last := by
  generalize whole : stream ++ [event] = events at written
  cases written with
  | first originates =>
      obtain ⟨rfl, same⟩ := List.append_inj' (whole.trans (List.nil_append _).symm) rfl
      cases same
      exact .inl ⟨rfl, originates⟩
  | next written added =>
      obtain ⟨rfl, same⟩ := List.append_inj' whole rfl
      cases same
      exact .inr ⟨_, written, added⟩

/-- Between two moments, what every event in between keeps is kept. -/
theorem Written.between {start during : List Event} {first last : Entity}
    (evolves : ∀ {entity event next}, adds entity event next →
      agg.evolve entity event = .ok (some next))
    (written : Written agg adds (start ++ during) last)
    (starts : agg.lifecycle start = .live first) (inv : Entity → Prop) (holds : inv first)
    (keeps : ∀ {entity event next}, event ∈ during → inv entity → adds entity event next →
      inv next) : inv last := by
  induction during using List.reverseRecOn generalizing last with
  | nil =>
      have ends := written.lifecycle_of evolves
      rw [List.append_nil, starts] at ends
      cases ends
      exact holds
  | append_singleton earlier event ih =>
      rw [← List.append_assoc] at written
      rcases written.concat_inv with ⟨empty, _⟩ | ⟨entity, before, added⟩
      · rw [(List.append_eq_nil_iff.mp empty).1] at starts
        cases starts
      · have kept : inv entity := by
          refine ih before ?_
          exact fun member => keeps (List.mem_append_left _ member)
        exact keeps (by simp) kept added

theorem Writes.send (writes : Writes agg adds) {context : Context} {command : Command}
    {stream events : List Event} (before : stream = [] ∨ ∃ entity, Written agg adds stream entity)
    (sent : agg.send context command stream = .ok events) :
    ∃ entity, Written agg adds (stream ++ events) entity := by
  rcases before with rfl | ⟨entity, written⟩
  · rcases agg.send_eq_ok.mp sent with ⟨_, begun⟩ | ⟨entity, live, _⟩
    · obtain ⟨event, entity, rfl, originates⟩ := writes.initialise begun
      exact ⟨entity, .first originates⟩
    · cases live
  · have live : agg.lifecycle stream = .live entity := written.lifecycle writes
    rcases agg.send_eq_ok.mp sent with ⟨absent, _⟩ | ⟨entity', live', moved⟩
    · rw [live] at absent
      cases absent
    · rw [live] at live'
      cases live'
      obtain ⟨event, next, rfl, added⟩ := writes.transition moved
      exact ⟨next, written.next added⟩

/-- Events of one kind are those that lift the rank past the threshold. -/
structure Crosses (agg : Aggregate Entity Event Command Error Context)
    (adds : Entity → Event → Entity → Prop) (rank : Entity → Nat) (kind : Event → Bool)
    (threshold : Nat) : Prop where
  first : ∀ {event entity}, agg.originate event = some entity → kind event = false
  rises : ∀ {entity event next}, adds entity event next → rank entity ≤ rank next
  crosses : ∀ {entity event next}, adds entity event next → kind event = true →
    rank entity < threshold ∧ threshold ≤ rank next

/-- Below the threshold no such event has happened; above it, at most one. -/
theorem Written.countP {rank : Entity → Nat} {kind : Event → Bool} {threshold : Nat}
    {stream : List Event} {entity : Entity} (written : Written agg adds stream entity)
    (crosses : Crosses agg adds rank kind threshold) :
    stream.countP kind ≤ if threshold ≤ rank entity then 1 else 0 := by
  induction written with
  | first originates => simp [crosses.first originates]
  | @next stream entity next event written added ih =>
      have risen : rank entity ≤ rank next := crosses.rises added
      rw [List.countP_append, List.countP_singleton]
      cases happened : kind event with
      | false =>
          have grows : (if threshold ≤ rank entity then 1 else 0) ≤
              if threshold ≤ rank next then 1 else 0 := by
            split <;> split <;> omega
          simpa using Nat.le_trans ih grows
      | true =>
          obtain ⟨below, reached⟩ := crosses.crosses added happened
          rw [if_neg (by omega)] at ih
          rw [if_pos reached, if_pos rfl]
          omega

theorem Written.countP_le_one {rank : Entity → Nat} {kind : Event → Bool} {threshold : Nat}
    {stream : List Event} {entity : Entity} (written : Written agg adds stream entity)
    (crosses : Crosses agg adds rank kind threshold) : stream.countP kind ≤ 1 := by
  have bound := written.countP crosses
  split at bound <;> omega

/-- The entity remembers the label of its events until it is over. -/
structure Remembers (agg : Aggregate Entity Event Command Error Context)
    (adds : Entity → Event → Entity → Prop) (label : Event → Option Label)
    (known : Entity → Option Label) : Prop where
  first : ∀ {event entity}, agg.originate event = some entity → label event = none
  /-- A label is the one remembered, or the first. -/
  agrees : ∀ {entity event next found}, adds entity event next → label event = some found →
    known entity = none ∨ known entity = some found
  /-- What follows is over, or remembers it all. -/
  keeps : ∀ {entity event next}, adds entity event next →
    (∀ event' last, ¬ adds next event' last) ∨ known next = (label event).or (known entity)

/-- All labels in a stream are one and the same. -/
theorem Written.one_label {label : Event → Option Label} {known : Entity → Option Label}
    {stream : List Event} {entity : Entity} (written : Written agg adds stream entity)
    (remembers : Remembers agg adds label known) :
    ∀ first ∈ stream.filterMap label, ∀ second ∈ stream.filterMap label, first = second := by
  -- While it can go on, the entity knows every label the stream has.
  have invariant : (∀ first ∈ stream.filterMap label, ∀ second ∈ stream.filterMap label,
      first = second) ∧ ((∀ event last, ¬ adds entity event last) ∨
        ∀ found ∈ stream.filterMap label, known entity = some found) := by
    induction written with
    | first originates => simp [remembers.first originates]
    | @next stream entity next event written added ih =>
        obtain ⟨same, ended | knows⟩ := ih
        · exact absurd added (ended _ _)
        cases labelled : label event with
        | none =>
            have unchanged : (stream ++ [event]).filterMap label = stream.filterMap label := by
              simp [labelled]
            rw [unchanged]
            refine ⟨same, (remembers.keeps added).imp id fun kept found member => ?_⟩
            rw [kept, labelled]
            exact knows found member
        | some found =>
            have all : ∀ other ∈ (stream ++ [event]).filterMap label, other = found := by
              intro other member
              simp only [List.filterMap_append, List.filterMap_cons, labelled, List.filterMap_nil,
                List.mem_append, List.mem_singleton] at member
              rcases member with earlier | rfl
              · have known_other := knows other earlier
                rcases remembers.agrees added labelled with unknown | known_found
                · rw [unknown] at known_other
                  cases known_other
                · rw [known_found] at known_other
                  cases known_other
                  rfl
              · rfl
            refine ⟨fun first member second member' => ?_,
              (remembers.keeps added).imp id fun kept other member => ?_⟩
            · rw [all first member, all second member']
            · rw [kept, labelled, all other member]
              rfl
  exact invariant.1

end Aggregate

end EventSourcing
