import Liquidity.EventSourcing.Refolding
import Liquidity.Performance.CatchUp
import Mathlib.Logic.Relation

/-!
# A timing table over the life of the bot

Commands append to the streams of operations, and while the bot runs each event is
applied to its row some time later, those of one stream in their order. A stop loses the
reactions that are outstanding. What an operator appends from another process the bot
never sees. If it goes on with the stream, its own events overtake those. Before it
starts again, a replay catches the table up. A rebuild may come at any time, and may
overtake reactions that are outstanding. Rows and events may become unreadable.

Where the events of a stream change nothing when they are folded again, none of this
shows, unless events were overtaken: once caught up, a row that is readable is the fold
of its stream.
-/

namespace Liquidity.Performance

open EventSourcing TimingProjection

variable {Id Event Operation : Type}

structure World (Id Event Operation : Type) where
  events : List (EventRow Id Event)
  table : Table Id Operation
  running : Bool
  waiting : Id → List Event
  unseen : Id → Bool
  /-- Since the last rebuild the bot has written after events it had not seen, or at that
  rebuild it had yet to react to some. -/
  overtaken : Id → Bool
  clock : Time

/-- What reacting to the events of a stream one by one makes of them. -/
def TimingProjection.live (projection : TimingProjection Id Event Operation) (id : Id)
    (found : Option Operation) (event : Event) : Option Operation :=
  some (projection.applied id event none found)

/-- The operation that one pass over the stream makes. -/
def TimingProjection.fold (projection : TimingProjection Id Event Operation) (id : Id)
    (stream : List Event) : Option Operation :=
  stream.foldl (projection.live id) none

/-- The sequence of an event does not matter for what is made of it. -/
def Sequenced (projection : TimingProjection Id Event Operation) (id : Id)
    (stream : List Event) : Prop :=
  ∀ before event, before ++ [event] <+: stream → ∀ found,
    projection.applied id event (some (before.length + 1)) found =
      projection.applied id event none found

/-- A replay of such a stream folds as the reaction does. -/
theorem Sequenced.replayed {projection : TimingProjection Id Event Operation} {id : Id}
    {before events : List Event} (sequenced : Sequenced projection id (before ++ events))
    (found : Option Operation) :
    projection.replayed id before.length found events =
      events.foldl (projection.live id) found := by
  induction events generalizing before found with
  | nil => rfl
  | cons event events ih =>
      have split : before ++ event :: events = (before ++ [event]) ++ events := by simp
      have first := sequenced before event (by rw [split]; exact List.prefix_append _ _) found
      rw [split] at sequenced
      have rest := ih sequenced (projection.live id found event)
      rw [List.length_append, List.length_singleton] at rest
      rw [TimingProjection.replayed, first, List.foldl_cons, ← rest]
      rfl

/-- What has been folded of this stream changes nothing when it is folded again, and a
replay folds as the reaction does. -/
structure Settled (projection : TimingProjection Id Event Operation) (id : Id)
    (stream : List Event) : Prop where
  refolds : Refolds (projection.live id) none stream
  sequenced : Sequenced projection id stream

theorem Settled.of_prefix {projection : TimingProjection Id Event Operation} {id : Id}
    {stream part : List Event} (settled : Settled projection id stream) (inside : part <+: stream) :
    Settled projection id part where
  refolds := settled.refolds.of_prefix inside
  sequenced := fun before event within => settled.sequenced before event (within.trans inside)

/-- Streams of an operation that batches were appended to as the clock rose. -/
inductive Streams (writes : Id → Time → List Event → List Event → Prop) (id : Id) :
    Time → List Event → Prop where
  | empty (time : Time) : Streams writes id time []
  | append {time now : Time} {stream batch : List Event} (streams : Streams writes id time stream)
      (later : time < now) (written : writes id now stream batch) :
      Streams writes id now (stream ++ batch)

/-! ## Steps -/

section Steps

variable [DecidableEq Id]

/-- A batch is stored after what its stream holds. -/
def store (events : List (EventRow Id Event)) (id : Id) (batch : List Event) :
    List (EventRow Id Event) :=
  events ++ eventRows id (rowsOf events id).length (batch.map .parsed)

namespace World

variable (projection : TimingProjection Id Event Operation)
variable (writes : Id → Time → List Event → List Event → Prop)

/-- What a stream holds. -/
def stream (world : World Id Event Operation) (id : Id) : List (Stored Event) :=
  (rowsOf world.events id).map EventRow.payload

/-- The reaction to an event. An error is logged and the event is lost. -/
def react (world : World Id Event Operation) (id : Id) (event : Event) (rest : List Event) :
    World Id Event Operation :=
  let waiting := Function.update world.waiting id rest
  match projection.onEvent world.table id event with
  | .ok table => { world with table := table, waiting := waiting }
  | .error _ => { world with waiting := waiting }

inductive Step : World Id Event Operation → World Id Event Operation → Prop where
  | command {world : World Id Event Operation} {id : Id} {now : Time} {events batch : List Event}
      (written : writes id now events batch) (readable : world.stream id = events.map .parsed)
      (later : world.clock < now) (running : world.running = true) :
      Step world { world with
        events := store world.events id batch
        waiting := Function.update world.waiting id (world.waiting id ++ batch)
        overtaken := Function.update world.overtaken id (world.overtaken id || world.unseen id)
        clock := now }
  | operator {world : World Id Event Operation} {id : Id} {now : Time} {events batch : List Event}
      (written : writes id now events batch) (readable : world.stream id = events.map .parsed)
      (later : world.clock < now) :
      Step world { world with
        events := store world.events id batch
        unseen := Function.update world.unseen id true
        clock := now }
  | react {world : World Id Event Operation} (id : Id) {event : Event} {rest : List Event}
      (running : world.running = true) (queued : world.waiting id = event :: rest) :
      Step world (world.react projection id event rest)
  | stop (world : World Id Event Operation) :
      Step world { world with running := false, waiting := fun _ => [] }
  | start {world : World Id Event Operation} (stopped : world.running = false) :
      Step world { world with
        table := (projection.catchUp world.table world.events).1
        running := true
        unseen := fun _ => false }
  | rebuild (world : World Id Event Operation) :
      Step world { world with
        table := (projection.rebuildAll world.events).1
        unseen := fun _ => false
        overtaken := fun id => !(world.waiting id).isEmpty }
  | damageRow {world : World Id Event Operation} {id : Id} {row : TimingRow Operation}
      (held : world.table id = some row) (text : String) :
      Step world { world with
        table := Function.update world.table id (some { row with timing := .corrupt text }) }
  | damageEvent {world : World Id Event Operation} {before after : List (EventRow Id Event)}
      {row : EventRow Id Event} (held : world.events = before ++ row :: after) (text : String) :
      Step world { world with events := before ++ { row with payload := .corrupt text } :: after }
  | stray (world : World Id Event Operation) (text : String) (sequence : Nat)
      (payload : Stored Event) :
      Step world { world with events := world.events ++ [⟨.corrupt text, sequence, payload⟩] }

/-- An empty database. -/
def initial : World Id Event Operation where
  events := []
  table := fun _ => none
  running := false
  waiting := fun _ => []
  unseen := fun _ => false
  overtaken := fun _ => false
  clock := 0

/-- What the life of the bot leads to. -/
def Reached (world : World Id Event Operation) : Prop :=
  Relation.ReflTransGen (Step projection writes) initial world

/-! ## What every world keeps -/

/-- What is known of a row that is readable, if its stream is settled and nothing of it was
overtaken: it has folded the stream up to some event, and what it has not is waiting or
unseen. -/
structure Tracks (world : World Id Event Operation) (id : Id) (events : List Event)
    (found : Option Operation) (seen missed : List Event) : Prop where
  whole : world.running = true → events = seen ++ world.waiting id ++ missed
  part : seen <+: events
  folded : found = projection.fold id seen
  behind : TimingRow.checkpoint (world.table id) ≤ seen.length
  caughtUp : world.unseen id = false → missed = []

/-- What holds of one stream. -/
structure ConsistentAt (world : World Id Event Operation) (id : Id) : Prop where
  written : ∀ events, world.stream id = events.map .parsed →
    ∃ time, time ≤ world.clock ∧ Streams writes id time events
  stopped : world.running = false → world.waiting id = []
  tracks : world.overtaken id = false →
    ∀ events, world.stream id = events.map .parsed → Settled projection id events →
    ∀ found, loadOperation world.table id = .ok found →
      ∃ seen missed, world.Tracks projection id events found seen missed

structure Consistent (world : World Id Event Operation) : Prop where
  keyed : projection.Keyed world.table
  numbered : ∀ id, (rowsOf world.events id).map EventRow.sequence =
    List.range' 1 (rowsOf world.events id).length
  each : ∀ id, world.ConsistentAt projection writes id

end World

/-! ## The rows of a stream -/

variable {events : List (EventRow Id Event)} {id id' : Id}

omit [DecidableEq Id] in
theorem map_payload_eventRows (id : Id) (before : Nat) (payloads : List (Stored Event)) :
    (eventRows id before payloads).map EventRow.payload = payloads := by
  induction payloads generalizing before with
  | nil => rfl
  | cons payload payloads ih => exact congrArg (payload :: ·) (ih (before + 1))

omit [DecidableEq Id] in
theorem map_sequence_eventRows (id : Id) (before : Nat) (payloads : List (Stored Event)) :
    (eventRows id before payloads).map EventRow.sequence =
      List.range' (before + 1) payloads.length := by
  induction payloads generalizing before with
  | nil => rfl
  | cons payload payloads ih =>
      rw [eventRows, List.map_cons, ih, List.length_cons, List.range'_succ]

omit [DecidableEq Id] in
theorem length_eventRows (id : Id) (before : Nat) (payloads : List (Stored Event)) :
    (eventRows id before payloads).length = payloads.length := by
  rw [← List.length_map (f := EventRow.payload), map_payload_eventRows]

theorem rowsOf_eventRows_self (before : Nat) (payloads : List (Stored Event)) :
    rowsOf (eventRows id before payloads) id = eventRows id before payloads := by
  induction payloads generalizing before with
  | nil => rfl
  | cons payload payloads ih =>
      have later := ih (before + 1)
      rw [rowsOf] at later ⊢
      rw [eventRows, List.filter_cons_of_pos (by simp), later]

theorem rowsOf_eventRows_other (other : id' ≠ id) (before : Nat) (payloads : List (Stored Event)) :
    rowsOf (eventRows id before payloads) id' = [] := by
  induction payloads generalizing before with
  | nil => rfl
  | cons payload payloads ih =>
      have apart : id ≠ id' := fun back => other back.symm
      rw [eventRows, rowsOf, List.filter_cons_of_neg (by simpa using apart)]
      exact ih (before + 1)

theorem rowsOf_append (first second : List (EventRow Id Event)) (id : Id) :
    rowsOf (first ++ second) id = rowsOf first id ++ rowsOf second id :=
  List.filter_append ..

theorem rowsOf_store_self (events : List (EventRow Id Event)) (id : Id) (batch : List Event) :
    rowsOf (store events id batch) id =
      rowsOf events id ++ eventRows id (rowsOf events id).length (batch.map .parsed) := by
  rw [store, rowsOf_append, rowsOf_eventRows_self]

theorem rowsOf_store_other (events : List (EventRow Id Event)) (other : id' ≠ id)
    (batch : List Event) : rowsOf (store events id batch) id' = rowsOf events id' := by
  rw [store, rowsOf_append, rowsOf_eventRows_other other, List.append_nil]

omit [DecidableEq Id] in
/-- The rows of a stream that is numbered from one are told by what they hold. -/
theorem rowsOf_eq_eventRows {before : Nat} {rows : List (EventRow Id Event)}
    (own : ∀ row ∈ rows, row.aggregateId = .parsed id)
    (numbered : rows.map EventRow.sequence = List.range' (before + 1) rows.length) :
    rows = eventRows id before (rows.map EventRow.payload) := by
  induction rows generalizing before with
  | nil => rfl
  | cons row rows ih =>
      rw [List.map_cons, List.length_cons, List.range'_succ, List.cons.injEq] at numbered
      obtain ⟨first, later⟩ := numbered
      have ours := own row List.mem_cons_self
      have rest := ih (fun row member => own row (List.mem_cons_of_mem _ member)) later
      rw [List.map_cons, eventRows, List.cons.injEq]
      refine ⟨?_, rest⟩
      cases row
      cases ours
      cases first
      rfl

theorem World.rowsOf_eq {world : World Id Event Operation}
    (numbered : (rowsOf world.events id).map EventRow.sequence =
      List.range' 1 (rowsOf world.events id).length) :
    rowsOf world.events id = eventRows id 0 (world.stream id) := by
  refine rowsOf_eq_eventRows (fun row member => ?_) numbered
  simpa using (List.mem_filter.mp member).2

theorem numbered_store (numbered : ∀ id, (rowsOf events id).map EventRow.sequence =
    List.range' 1 (rowsOf events id).length) (id : Id) (batch : List Event) (id' : Id) :
    (rowsOf (store events id batch) id').map EventRow.sequence =
      List.range' 1 (rowsOf (store events id batch) id').length := by
  by_cases same : id' = id
  · subst same
    rw [rowsOf_store_self, List.map_append, numbered, map_sequence_eventRows, List.length_append,
      length_eventRows, Nat.add_comm _ 1, List.range'_append_1]
  · rw [rowsOf_store_other events same]
    exact numbered id'

/-! ## Each step keeps the world consistent -/

namespace World

variable {projection : TimingProjection Id Event Operation}
variable {writes : Id → Time → List Event → List Event → Prop}
variable {world : World Id Event Operation}

theorem map_parsed_injective {first second : List Event}
    (same : first.map Stored.parsed = second.map .parsed) : first = second := by
  refine List.map_injective_iff.mpr ?_ same
  rintro event event' ⟨⟩
  rfl

theorem stream_store_self (world : World Id Event Operation) (batch : List Event) :
    (rowsOf (store world.events id batch) id).map EventRow.payload =
      world.stream id ++ batch.map .parsed := by
  rw [rowsOf_store_self, List.map_append, map_payload_eventRows, stream]

/-- A step that does not touch the stream. -/
theorem ConsistentAt.frame {after : World Id Event Operation}
    (consistent : world.ConsistentAt projection writes id)
    (stream : after.stream id = world.stream id) (table : after.table id = world.table id)
    (running : after.running = world.running) (waiting : after.waiting id = world.waiting id)
    (unseen : after.unseen id = world.unseen id)
    (overtaken : after.overtaken id = world.overtaken id) (clock : world.clock ≤ after.clock) :
    after.ConsistentAt projection writes id where
  written := by
    intro events readable
    obtain ⟨time, before, streams⟩ := consistent.written events (stream ▸ readable)
    exact ⟨time, before.trans clock, streams⟩
  stopped := by
    intro stopped
    rw [waiting]
    exact consistent.stopped (running ▸ stopped)
  tracks := by
    intro inOrder events readable settled found loaded
    rw [loadOperation, table] at loaded
    obtain ⟨seen, missed, tracks⟩ :=
      consistent.tracks (overtaken ▸ inOrder) events (stream ▸ readable) settled found loaded
    refine ⟨seen, missed, ?_, tracks.part, tracks.folded, table ▸ tracks.behind,
      fun caught => tracks.caughtUp (unseen ▸ caught)⟩
    intro runs
    rw [waiting]
    exact tracks.whole (running ▸ runs)

/-- A batch is appended to a stream that is readable. -/
theorem ConsistentAt.appended {now : Time} {events batch : List Event}
    (consistent : world.ConsistentAt projection writes id) (later : world.clock < now)
    (readable : world.stream id = events.map .parsed) (written : writes id now events batch)
    {after : World Id Event Operation} (events' : after.events = store world.events id batch)
    (clock : after.clock = now) {all : List Event} (readable' : after.stream id = all.map .parsed) :
    all = events ++ batch ∧ ∃ time, time ≤ after.clock ∧ Streams writes id time all := by
  have whole : all = events ++ batch := by
    apply map_parsed_injective
    rw [← readable', stream, events', stream_store_self, readable, List.map_append]
  obtain ⟨time, before, streams⟩ := consistent.written events readable
  rw [whole, clock]
  exact ⟨rfl, now, le_refl now, streams.append (before.trans_lt later) written⟩

theorem initial_consistent : (initial : World Id Event Operation).Consistent projection writes where
  keyed := by
    intro id operation loaded
    cases loaded
  numbered := fun _ => rfl
  each := by
    intro id
    refine ⟨?_, fun _ => rfl, ?_⟩
    · intro events readable
      obtain rfl : events = [] := map_parsed_injective readable.symm
      exact ⟨0, le_refl 0, .empty 0⟩
    · intro _ events readable settled found loaded
      cases loaded
      obtain rfl : events = [] := map_parsed_injective readable.symm
      exact ⟨[], [], fun _ => rfl, List.prefix_refl [], rfl, Nat.zero_le 0, fun _ => rfl⟩

/-- A command of the bot: its events wait to be reacted to. -/
theorem Consistent.command (consistent : world.Consistent projection writes) {now : Time}
    {events batch : List Event} (running : world.running = true) (later : world.clock < now)
    (readable : world.stream id = events.map .parsed) (written : writes id now events batch) :
    Consistent projection writes { world with
      events := store world.events id batch
      waiting := Function.update world.waiting id (world.waiting id ++ batch)
      overtaken := Function.update world.overtaken id (world.overtaken id || world.unseen id)
      clock := now } where
  keyed := consistent.keyed
  numbered := numbered_store consistent.numbered id batch
  each := by
    intro id'
    by_cases same : id' = id
    · subst same
      have sofar := consistent.each id'
      refine ⟨?_, ?_, ?_⟩
      · intro all readable'
        exact (sofar.appended later readable written rfl rfl readable').2
      · intro stopped
        exact absurd (running.symm.trans stopped) (by decide)
      · intro inOrder all readable' settled found loaded
        obtain ⟨before, seen⟩ : world.overtaken id' = false ∧ world.unseen id' = false := by
          simpa using inOrder
        obtain ⟨rfl, -⟩ := sofar.appended later readable written rfl rfl readable'
        obtain ⟨folded, missed, tracks⟩ := sofar.tracks before events readable
          (settled.of_prefix (List.prefix_append events batch)) found loaded
        have caught : missed = [] := tracks.caughtUp seen
        have whole : events = folded ++ world.waiting id' := by
          have split := tracks.whole running
          rwa [caught, List.append_nil] at split
        refine ⟨folded, [], ?_, ?_, tracks.folded, tracks.behind, fun _ => rfl⟩
        · intro _
          simp [whole]
        · exact tracks.part.trans (List.prefix_append events batch)
    · refine (consistent.each id').frame ?_ rfl rfl ?_ rfl ?_ later.le
      · simp only [stream]
        rw [rowsOf_store_other world.events same]
      · exact Function.update_of_ne same _ _
      · exact Function.update_of_ne same _ _

/-- A command of the operator: the bot does not see its events. -/
theorem Consistent.operator (consistent : world.Consistent projection writes) {now : Time}
    {events batch : List Event} (later : world.clock < now)
    (readable : world.stream id = events.map .parsed) (written : writes id now events batch) :
    Consistent projection writes { world with
      events := store world.events id batch
      unseen := Function.update world.unseen id true
      clock := now } where
  keyed := consistent.keyed
  numbered := numbered_store consistent.numbered id batch
  each := by
    intro id'
    by_cases same : id' = id
    · subst same
      have sofar := consistent.each id'
      refine ⟨?_, sofar.stopped, ?_⟩
      · intro all readable'
        exact (sofar.appended later readable written rfl rfl readable').2
      · intro inOrder all readable' settled found loaded
        obtain ⟨rfl, -⟩ := sofar.appended later readable written rfl rfl readable'
        obtain ⟨folded, missed, tracks⟩ := sofar.tracks inOrder events readable
          (settled.of_prefix (List.prefix_append events batch)) found loaded
        refine ⟨folded, missed ++ batch, ?_, ?_, tracks.folded, tracks.behind, ?_⟩
        · intro runs
          rw [← List.append_assoc, ← tracks.whole runs]
        · exact tracks.part.trans (List.prefix_append events batch)
        · intro caught
          simp at caught
    · refine (consistent.each id').frame ?_ rfl rfl rfl ?_ rfl later.le
      · simp only [stream]
        rw [rowsOf_store_other world.events same]
      · exact Function.update_of_ne same _ _

omit [DecidableEq Id] in
theorem fold_concat (projection : TimingProjection Id Event Operation) (id : Id)
    (seen : List Event) (event : Event) :
    projection.fold id (seen ++ [event]) =
      some (projection.applied id event none (projection.fold id seen)) := by
  rw [fold, List.foldl_append]
  rfl

/-- The reaction to the event that has waited longest. -/
theorem Consistent.react (lawful : projection.Lawful)
    (consistent : world.Consistent projection writes) {event : Event} {rest : List Event}
    (running : world.running = true) (queued : world.waiting id = event :: rest) :
    (world.react projection id event rest).Consistent projection writes := by
  have others : ∀ {id'}, id' ≠ id → Function.update world.waiting id rest id' = world.waiting id' :=
    fun other => Function.update_of_ne other _ _
  cases loaded : loadOperation world.table id with
  | error error =>
      have lost : world.react projection id event rest =
          { world with waiting := Function.update world.waiting id rest } := by
        simp only [World.react, onEvent, loaded]
        rfl
      rw [lost]
      refine ⟨consistent.keyed, consistent.numbered, fun id' => ?_⟩
      by_cases same : id' = id
      · subst same
        refine ⟨(consistent.each id').written, ?_, ?_⟩
        · intro stopped
          exact absurd (running.symm.trans stopped) (by decide)
        · intro _ events readable settled found loaded'
          rw [loaded] at loaded'
          cases loaded'
      · exact (consistent.each id').frame rfl rfl rfl (others same) rfl rfl (le_refl _)
  | ok found =>
      have own := lawful.applied consistent.keyed loaded event none
      have reacted : world.react projection id event rest = { world with
          table := Function.update world.table id (some (projection.row
            (projection.applied id event none found)
            ((world.table id).bind TimingRow.lastSequence)))
          waiting := Function.update world.waiting id rest } := by
        have saved : projection.onEvent world.table id event = .ok (projection.saveOperation
            world.table (projection.applied id event none found) none) := by
          simp only [onEvent, loaded]
          rfl
        simp only [World.react, saved, saveOperation_eq own, Option.none_or]
      rw [reacted]
      refine ⟨keyed_update consistent.keyed own _, consistent.numbered, fun id' => ?_⟩
      by_cases same : id' = id
      · subst same
        refine ⟨(consistent.each id').written, ?_, ?_⟩
        · intro stopped
          exact absurd (running.symm.trans stopped) (by decide)
        · intro inOrder events readable settled found' loaded'
          obtain ⟨seen, missed, tracks⟩ :=
            (consistent.each id').tracks inOrder events readable settled found loaded
          have split : events = (seen ++ [event]) ++ rest ++ missed := by
            rw [tracks.whole running, queued]
            simp
          simp only [loadOperation, Function.update_self, load_row] at loaded'
          cases loaded'
          refine ⟨seen ++ [event], missed, ?_, ?_, ?_, ?_, tracks.caughtUp⟩
          · intro _
            simpa using split
          · rw [split, List.append_assoc]
            exact List.prefix_append _ _
          · rw [fold_concat, tracks.folded]
          · have sofar := tracks.behind
            simp only [Function.update_self, checkpoint_row, List.length_append]
            exact Nat.le_add_right_of_le sofar
      · refine (consistent.each id').frame rfl ?_ rfl (others same) rfl rfl (le_refl _)
        exact Function.update_of_ne same _ _

theorem Consistent.stop (consistent : world.Consistent projection writes) :
    Consistent projection writes { world with running := false, waiting := fun _ => [] } where
  keyed := consistent.keyed
  numbered := consistent.numbered
  each := by
    intro id
    refine ⟨(consistent.each id).written, fun _ => rfl, ?_⟩
    intro inOrder events readable settled found loaded
    obtain ⟨seen, missed, tracks⟩ :=
      (consistent.each id).tracks inOrder events readable settled found loaded
    exact ⟨seen, [], nofun, tracks.part, tracks.folded, tracks.behind, fun _ => rfl⟩

/-- A replay leaves a settled stream as one pass over it would. -/
theorem Consistent.caughtUp (lawful : projection.Lawful)
    (consistent : world.Consistent projection writes) {events : List Event}
    (readable : world.stream id = events.map .parsed) (settled : Settled projection id events)
    (inOrder : world.overtaken id = false) {found : Option Operation}
    (loaded : loadOperation world.table id = .ok found) :
    loadOperation (projection.catchUp world.table world.events).1 id =
        .ok (projection.fold id events) ∧
      TimingRow.checkpoint ((projection.catchUp world.table world.events).1 id) =
        events.length := by
  obtain ⟨seen, missed, tracks⟩ :=
    (consistent.each id).tracks inOrder events readable settled found loaded
  have stored : rowsOf world.events id = eventRows id 0 (events.map .parsed ++ []) := by
    rw [World.rowsOf_eq (consistent.numbered id), readable, List.append_nil]
  have behind : TimingRow.checkpoint (world.table id) ≤ events.length :=
    tracks.behind.trans tracks.part.length_le
  obtain ⟨replays, count⟩ :=
    replayPending_stream lawful consistent.keyed blocked_nil stored behind loaded
  refine ⟨replays.trans (congrArg Except.ok ?_), count⟩
  obtain ⟨rest, split⟩ := tracks.part
  have cut := settled
  rw [← List.take_append_drop (TimingRow.checkpoint (world.table id)) events] at cut
  have replayed := cut.sequenced.replayed found
  rw [List.length_take, Nat.min_eq_left behind] at replayed
  rw [replayed, tracks.folded, fold, fold]
  exact settled.refolds.catch_up split.symm tracks.behind

/-- A row that is readable after a replay was readable before. -/
theorem Consistent.readable_before (lawful : projection.Lawful)
    (consistent : world.Consistent projection writes) {found : Option Operation}
    (loaded : loadOperation (projection.catchUp world.table world.events).1 id = .ok found) :
    ∃ before, loadOperation world.table id = .ok before := by
  cases sofar : loadOperation world.table id with
  | ok before => exact ⟨before, rfl⟩
  | error error =>
      have kept := replayPending_corrupt lawful consistent.keyed world.events sofar
      have same : loadOperation (projection.catchUp world.table world.events).1 id =
          loadOperation world.table id := congrArg TimingRow.load kept
      cases sofar.symm.trans (same.symm.trans loaded)

theorem Consistent.start (lawful : projection.Lawful)
    (consistent : world.Consistent projection writes) (stopped : world.running = false) :
    Consistent projection writes { world with
      table := (projection.catchUp world.table world.events).1
      running := true
      unseen := fun _ => false } where
  keyed := replayPending_keyed lawful consistent.keyed world.events
  numbered := consistent.numbered
  each := by
    intro id
    refine ⟨(consistent.each id).written, nofun, ?_⟩
    intro inOrder events readable settled found loaded
    obtain ⟨before, loaded'⟩ := consistent.readable_before lawful loaded
    obtain ⟨folds, count⟩ := consistent.caughtUp lawful readable settled inOrder loaded'
    cases folds.symm.trans loaded
    refine ⟨events, [], ?_, List.prefix_refl events, rfl, le_of_eq count, fun _ => rfl⟩
    intro _
    simp [(consistent.each id).stopped stopped]

/-- A rebuild leaves a settled stream as one pass over it would, whatever its row was. -/
theorem Consistent.rebuilt (lawful : projection.Lawful)
    (consistent : world.Consistent projection writes) {events : List Event}
    (readable : world.stream id = events.map .parsed) (settled : Settled projection id events) :
    loadOperation (projection.rebuildAll world.events).1 id = .ok (projection.fold id events) ∧
      TimingRow.checkpoint ((projection.rebuildAll world.events).1 id) = events.length := by
  have stored : rowsOf world.events id = eventRows id 0 (events.map .parsed ++ []) := by
    rw [World.rowsOf_eq (consistent.numbered id), readable, List.append_nil]
  have empty : projection.Keyed (fun _ => none) := by
    intro id' operation loaded
    cases loaded
  have behind : TimingRow.checkpoint (none : Option (TimingRow Operation)) ≤ events.length :=
    Nat.zero_le _
  have loaded : loadOperation (fun _ => none : Table Id Operation) id = .ok none := rfl
  obtain ⟨replays, count⟩ := replayPending_stream lawful empty blocked_nil stored behind loaded
  refine ⟨replays.trans (congrArg Except.ok ?_), count⟩
  have cut : Settled projection id ([] ++ events) := settled
  exact cut.sequenced.replayed none

theorem Consistent.rebuild (lawful : projection.Lawful)
    (consistent : world.Consistent projection writes) :
    Consistent projection writes { world with
      table := (projection.rebuildAll world.events).1
      unseen := fun _ => false
      overtaken := fun id => !(world.waiting id).isEmpty } where
  keyed := by
    refine replayPending_keyed lawful ?_ world.events
    intro id operation loaded
    cases loaded
  numbered := consistent.numbered
  each := by
    intro id
    refine ⟨(consistent.each id).written, (consistent.each id).stopped, ?_⟩
    intro inOrder events readable settled found loaded
    have idle : world.waiting id = [] := by simpa using inOrder
    obtain ⟨folds, count⟩ := consistent.rebuilt lawful readable settled
    cases folds.symm.trans loaded
    refine ⟨events, [], ?_, List.prefix_refl events, rfl, le_of_eq count, fun _ => rfl⟩
    intro _
    simp [idle]

theorem Consistent.damageRow (consistent : world.Consistent projection writes)
    (row : TimingRow Operation) (text : String) :
    Consistent projection writes { world with
      table := Function.update world.table id (some { row with timing := .corrupt text }) } := by
  have corrupt : loadOperation (Function.update world.table id
      (some { row with timing := .corrupt text })) id = .error (.state text) := by
    simp only [loadOperation, Function.update_self]
    rfl
  have others : ∀ {id'}, id' ≠ id → Function.update world.table id
      (some { row with timing := .corrupt text }) id' = world.table id' :=
    fun other => Function.update_of_ne other _ _
  refine ⟨?_, consistent.numbered, fun id' => ?_⟩
  · intro id' operation loaded
    by_cases same : id' = id
    · subst same
      cases corrupt.symm.trans loaded
    · simp only [loadOperation, others same] at loaded
      exact consistent.keyed id' operation loaded
  · by_cases same : id' = id
    · subst same
      refine ⟨(consistent.each id').written, (consistent.each id').stopped, ?_⟩
      intro _ events readable settled found loaded
      cases corrupt.symm.trans loaded
    · exact (consistent.each id').frame rfl (others same) rfl rfl rfl rfl (le_refl _)

/-- An event that becomes unreadable takes its stream with it, and no other. -/
theorem Consistent.damageEvent (consistent : world.Consistent projection writes)
    {before after : List (EventRow Id Event)} {row : EventRow Id Event}
    (held : world.events = before ++ row :: after) (text : String) :
    Consistent projection writes
      { world with events := before ++ { row with payload := .corrupt text } :: after } := by
  have others : ∀ {id}, row.aggregateId ≠ .parsed id →
      rowsOf (before ++ { row with payload := .corrupt text } :: after) id =
        rowsOf world.events id := by
    intro id other
    rw [held, rowsOf_append, rowsOf_append, rowsOf, rowsOf, rowsOf,
      List.filter_cons_of_neg (by simpa using other),
      List.filter_cons_of_neg (by simpa using other)]
  have ours : ∀ {id}, row.aggregateId = .parsed id →
      rowsOf (before ++ { row with payload := .corrupt text } :: after) id =
        rowsOf before id ++ { row with payload := .corrupt text } :: rowsOf after id := by
    intro id own
    rw [rowsOf_append, rowsOf, rowsOf, List.filter_cons_of_pos (by simpa using own)]
    rfl
  refine ⟨consistent.keyed, fun id => ?_, fun id => ?_⟩
  · by_cases own : row.aggregateId = .parsed id
    · have numbered := consistent.numbered id
      rw [held, rowsOf_append, rowsOf, rowsOf, List.filter_cons_of_pos (by simpa using own)]
        at numbered
      rw [ours own]
      simpa [rowsOf] using numbered
    · rw [others own]
      exact consistent.numbered id
  · by_cases own : row.aggregateId = .parsed id
    · have unreadable : ∀ events : List Event, (World.stream { world with
          events := before ++ { row with payload := .corrupt text } :: after } id) ≠
            events.map .parsed := by
        intro events readable
        have member : Stored.corrupt text ∈ events.map (Stored.parsed (α := Event)) := by
          rw [← readable, stream, ours own]
          simp
        simp at member
      exact ⟨fun events readable => absurd readable (unreadable events),
        (consistent.each id).stopped, fun _ events readable => absurd readable (unreadable events)⟩
    · refine (consistent.each id).frame ?_ rfl rfl rfl rfl rfl (le_refl _)
      simp only [stream, others own]

/-- An event of no operation concerns none. -/
theorem Consistent.stray (consistent : world.Consistent projection writes) (text : String)
    (sequence : Nat) (payload : Stored Event) :
    Consistent projection writes
      { world with events := world.events ++ [⟨.corrupt text, sequence, payload⟩] } := by
  have kept : ∀ id, rowsOf (world.events ++ [⟨.corrupt text, sequence, payload⟩]) id =
      rowsOf world.events id := by
    intro id
    rw [rowsOf_append, rowsOf, rowsOf, List.filter_cons_of_neg (by simp), List.filter_nil,
      List.append_nil]
  refine ⟨consistent.keyed, fun id => ?_, fun id => ?_⟩
  · rw [kept]
    exact consistent.numbered id
  · refine (consistent.each id).frame ?_ rfl rfl rfl rfl rfl (le_refl _)
    simp only [stream, kept]

theorem Step.consistent (lawful : projection.Lawful) {after : World Id Event Operation}
    (step : Step projection writes world after) (consistent : world.Consistent projection writes) :
    after.Consistent projection writes := by
  cases step with
  | command written readable later running =>
      exact consistent.command running later readable written
  | operator written readable later => exact consistent.operator later readable written
  | react id running queued => exact consistent.react lawful running queued
  | stop => exact consistent.stop
  | start stopped => exact consistent.start lawful stopped
  | rebuild => exact consistent.rebuild lawful
  | damageRow held text => exact consistent.damageRow _ text
  | damageEvent held text => exact consistent.damageEvent held text
  | stray text sequence payload => exact consistent.stray text sequence payload

theorem Reached.consistent (lawful : projection.Lawful)
    (reached : world.Reached projection writes) : world.Consistent projection writes := by
  induction reached with
  | refl => exact initial_consistent
  | tail _ step ih => exact step.consistent lawful ih

/-! ## Convergence -/

/-- The table shows the stream. -/
def Shows (projection : TimingProjection Id Event Operation) (table : Table Id Operation) (id : Id)
    (events : List Event) : Prop :=
  loadOperation table id = .ok (projection.fold id events)

/-- A settled stream that is readable is shown by its row after a rebuild. If nothing of it
was overtaken and the row is readable, then also after a replay, and while the bot runs
as soon as nothing is waiting or unseen. -/
theorem Reached.converges (lawful : projection.Lawful) (reached : world.Reached projection writes)
    {events : List Event} (readable : world.stream id = events.map .parsed)
    (settled : Settled projection id events) :
    Shows projection (projection.rebuildAll world.events).1 id events ∧
      (world.overtaken id = false → ∀ found, loadOperation world.table id = .ok found →
        Shows projection (projection.catchUp world.table world.events).1 id events ∧
        (world.running = true → world.waiting id = [] → world.unseen id = false →
          Shows projection world.table id events)) := by
  have consistent := reached.consistent lawful
  refine ⟨(consistent.rebuilt lawful readable settled).1, fun inOrder found loaded => ?_⟩
  refine ⟨(consistent.caughtUp lawful readable settled inOrder loaded).1,
    fun running idle seen => ?_⟩
  obtain ⟨folded, missed, tracks⟩ :=
    (consistent.each id).tracks inOrder events readable settled found loaded
  have whole := tracks.whole running
  rw [idle, tracks.caughtUp seen, List.append_nil, List.append_nil] at whole
  rw [Shows, loaded, tracks.folded, whole]

/-- What is readable was written by commands as the clock rose. -/
theorem Reached.streams (lawful : projection.Lawful) (reached : world.Reached projection writes)
    {events : List Event} (readable : world.stream id = events.map .parsed) :
    ∃ time, Streams writes id time events := by
  obtain ⟨time, -, streams⟩ := ((reached.consistent lawful).each id).written events readable
  exact ⟨time, streams⟩

end World

end Steps

end Liquidity.Performance
