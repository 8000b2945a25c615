import Liquidity.EventSourcing.Runs

/-!
# What a stream tells of its entity

Where events never take an entity back, a mark that they left is behind it. What an
entity knows it was told by an event; and where only some commands lead into a state,
their events are in the stream.
-/

namespace EventSourcing

namespace Aggregate

variable {Entity Event Command Error Context Fact : Type}

/-- How a stream came to stand for an entity. -/
theorem lifecycle_concat_live {agg : Aggregate Entity Event Command Error Context}
    {earlier : List Event} {last : Event} {entity : Entity}
    (live : agg.lifecycle (earlier ++ [last]) = .live entity) :
    (earlier = [] ∧ agg.originate last = some entity) ∨ ∃ before,
      agg.lifecycle earlier = .live before ∧ agg.evolve before last = .ok (some entity) := by
  rw [lifecycle_concat] at live
  cases found : agg.lifecycle earlier with
  | failed =>
      rw [found, apply_failed] at live
      cases live
  | uninitialized =>
      cases originates : agg.originate last with
      | none =>
          simp only [found, apply, originates] at live
          cases live
      | some first =>
          simp only [found, apply, originates] at live
          cases live
          exact .inl ⟨agg.lifecycle_eq_uninitialized.mp found, rfl⟩
  | live before =>
      rw [found] at live
      have moved : agg.apply (.live before) last ≠ .failed := by
        rw [live]
        intro failed
        cases failed
      obtain ⟨next, evolved, reached⟩ := agg.apply_live moved
      cases reached.symm.trans live
      exact .inr ⟨before, rfl, evolved⟩

/-- Events of a kind never lower the rank, and those with a mark lift it above the mark. -/
structure Ascends (agg : Aggregate Entity Event Command Error Context) (rank : Entity → Nat)
    (mark : Event → Option Nat) (kind : Event → Prop) : Prop where
  first : ∀ {event entity level}, agg.originate event = some entity → mark event = some level →
    level < rank entity
  rises : ∀ {entity event next}, kind event → agg.evolve entity event = .ok (some next) →
    rank entity ≤ rank next
  passes : ∀ {entity event next level}, agg.evolve entity event = .ok (some next) →
    mark event = some level → level < rank next

/-- What a stream has marked is behind the entity. -/
theorem Ascends.behind {agg : Aggregate Entity Event Command Error Context} {rank : Entity → Nat}
    {mark : Event → Option Nat} {kind : Event → Prop} (ascends : agg.Ascends rank mark kind)
    {stream : List Event} (kinds : ∀ event ∈ stream, kind event) {entity : Entity}
    (live : agg.lifecycle stream = .live entity) {event : Event} (member : event ∈ stream)
    {level : Nat} (marked : mark event = some level) : level < rank entity := by
  induction stream using List.reverseRecOn generalizing entity with
  | nil => cases member
  | append_singleton earlier last ih =>
      rcases lifecycle_concat_live live with ⟨rfl, originates⟩ | ⟨before, found, evolved⟩
      · obtain rfl := List.mem_singleton.mp member
        exact ascends.first originates marked
      · rcases List.mem_append.mp member with old | isLast
        · have kept := ih (fun event inside => kinds event (List.mem_append_left _ inside))
            found old
          exact Nat.lt_of_lt_of_le kept (ascends.rises (kinds last (by simp)) evolved)
        · obtain rfl := List.mem_singleton.mp isLast
          exact ascends.passes evolved marked

/-- What an entity knows, an event of its stream has said. -/
structure Recalls (agg : Aggregate Entity Event Command Error Context)
    (knows : Entity → Option Fact) (told : Event → Option Fact) : Prop where
  first : ∀ {event entity fact}, agg.originate event = some entity → knows entity = some fact →
    told event = some fact
  later : ∀ {entity event next fact}, agg.evolve entity event = .ok (some next) →
    knows next = some fact → knows entity = some fact ∨ told event = some fact

theorem Recalls.said {agg : Aggregate Entity Event Command Error Context}
    {knows : Entity → Option Fact} {told : Event → Option Fact} (recalls : agg.Recalls knows told)
    {stream : List Event} {entity : Entity} (live : agg.lifecycle stream = .live entity)
    {fact : Fact} (known : knows entity = some fact) :
    ∃ event ∈ stream, told event = some fact := by
  induction stream using List.reverseRecOn generalizing entity with
  | nil => cases live
  | append_singleton earlier last ih =>
      rcases lifecycle_concat_live live with ⟨rfl, originates⟩ | ⟨before, found, evolved⟩
      · exact ⟨last, by simp, recalls.first originates known⟩
      · rcases recalls.later evolved known with old | isNew
        · obtain ⟨event, member, said⟩ := ih found old
          exact ⟨event, List.mem_append_left _ member, said⟩
        · exact ⟨last, by simp, isNew⟩

theorem sends_concat (agg : Aggregate Entity Event Command Error Context)
    {commands : List (Context × Command)} {context : Context} {command : Command}
    {events : List Event} (sent : agg.send context command (agg.sends commands []) = .ok events) :
    agg.sends (commands ++ [(context, command)]) [] = agg.sends commands [] ++ events := by
  rw [sends_append]
  simp only [sends, sent]

/-- Commands lead into states of this kind by events of that kind only. -/
structure Traces (agg : Aggregate Entity Event Command Error Context) (kind : Entity → Prop)
    (marks : Event → Prop) : Prop where
  initialise : ∀ {context command events entity}, agg.initialise context command = .ok events →
    agg.replay .uninitialized events = .live entity → kind entity → ∃ event ∈ events, marks event
  transition : ∀ {context entity command events next},
    agg.transition context entity command = .ok events →
    agg.replay (.live entity) events = .live next → kind next →
      kind entity ∨ ∃ event ∈ events, marks event

theorem Traces.sends {agg : Aggregate Entity Event Command Error Context} {kind : Entity → Prop}
    {marks : Event → Prop} (traces : agg.Traces kind marks) (commands : List (Context × Command))
    {entity : Entity} (live : agg.lifecycle (agg.sends commands []) = .live entity)
    (reached : kind entity) : ∃ event ∈ agg.sends commands [], marks event := by
  revert entity
  refine agg.sends_invariant (fun stream => ∀ {entity}, agg.lifecycle stream = .live entity →
    kind entity → ∃ event ∈ stream, marks event) ?_ commands ?_
  · intro context command stream events sofar sent entity live reached
    rw [lifecycle_append] at live
    rcases agg.send_eq_ok.mp sent with ⟨absent, begun⟩ | ⟨before, was, moved⟩
    · rw [absent] at live
      obtain ⟨event, member, marked⟩ := traces.initialise begun live reached
      exact ⟨event, List.mem_append_right _ member, marked⟩
    · rw [was] at live
      rcases traces.transition moved live reached with earlier | ⟨event, member, marked⟩
      · obtain ⟨event, member, marked⟩ := sofar was earlier
        exact ⟨event, List.mem_append_left _ member, marked⟩
      · exact ⟨event, List.mem_append_right _ member, marked⟩
  · intro entity live
    cases live

end Aggregate

end EventSourcing

