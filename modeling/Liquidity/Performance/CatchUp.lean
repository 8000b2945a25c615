import Liquidity.Performance.StageTiming

/-!
# What a replay makes of a stream

Streams do not disturb one another: what a replay leaves in the row of an operation is
decided by that row and by the events of its stream, in their order. Where both are
readable, the row holds what the events past its sequence make of the operation it
held, and the sequence of the last of them.
-/

namespace Liquidity.Performance

variable {Id Event Operation : Type}

/-- What a replay has made of one stream: its row, and whether it was given up. -/
def Replay.stream [DecidableEq Id] (replay : Replay Id Operation) (id : Id) :
    Option (TimingRow Operation) × Bool :=
  (replay.table id, replay.poisoned.contains (.parsed id))

/-- A stream is given up. -/
theorem Replay.stream_poison [DecidableEq Id] (replay : Replay Id Operation)
    (aggregateId : Stored Id) (id : Id) :
    Replay.stream { replay with poisoned := aggregateId :: replay.poisoned } id =
      if aggregateId = .parsed id then (replay.table id, true) else replay.stream id := by
  by_cases same : aggregateId = .parsed id
  · simp [stream, same]
  · have other : Stored.parsed id ≠ aggregateId := fun back => same back.symm
    simp [stream, same, other]

/-- Operations are kept under their own identifier. -/
structure TimingProjection.Lawful (projection : TimingProjection Id Event Operation) : Prop where
  new : ∀ id event, projection.operationId (projection.new id event) = id
  apply : ∀ operation event sequence,
    projection.operationId (projection.apply operation event sequence) =
      projection.operationId operation

namespace TimingProjection

variable (projection : TimingProjection Id Event Operation)

/-- Every operation in the table is in its own row. -/
def Keyed (table : Table Id Operation) : Prop :=
  ∀ id operation, loadOperation table id = .ok (some operation) →
    projection.operationId operation = id

/-- The row that holds an operation. -/
def row (operation : Operation) (lastSequence : Option Nat) : TimingRow Operation where
  startedAt := projection.firstSeenAt operation
  timing := .parsed operation
  lastSequence := lastSequence

@[simp] theorem load_row (operation : Operation) (lastSequence : Option Nat) :
    TimingRow.load (some (projection.row operation lastSequence)) = .ok (some operation) := rfl

@[simp] theorem checkpoint_row (operation : Operation) (lastSequence : Option Nat) :
    TimingRow.checkpoint (some (projection.row operation lastSequence)) =
      lastSequence.getD 0 := rfl

variable {projection}

theorem Lawful.applied (lawful : projection.Lawful) {table : Table Id Operation}
    (keyed : projection.Keyed table) {id : Id} {found : Option Operation}
    (loaded : loadOperation table id = .ok found) (event : Event) (sequence : Option Nat) :
    projection.operationId (projection.applied id event sequence found) = id := by
  rw [TimingProjection.applied, lawful.apply]
  cases found with
  | none => exact lawful.new id event
  | some operation => exact keyed id operation loaded

variable [DecidableEq Id]

theorem saveOperation_eq {table : Table Id Operation} {operation : Operation} {id : Id}
    (own : projection.operationId operation = id) (checkpoint : Option Nat) :
    projection.saveOperation table operation checkpoint =
      Function.update table id (some (projection.row operation
        (checkpoint.or ((table id).bind TimingRow.lastSequence)))) := by
  subst own
  rfl

theorem keyed_update {table : Table Id Operation} (keyed : projection.Keyed table) {id : Id}
    {operation : Operation} (own : projection.operationId operation = id)
    (lastSequence : Option Nat) :
    projection.Keyed (Function.update table id (some (projection.row operation lastSequence))) := by
  intro id' operation' loaded
  rw [loadOperation] at loaded
  by_cases same : id' = id
  · subst same
    rw [Function.update_self, load_row] at loaded
    cases loaded
    exact own
  · rw [Function.update_of_ne same] at loaded
    exact keyed id' operation' loaded

/-! ## One stream -/

/-- Replay one event of a stream whose row this is, unless it has been given up. -/
def streamRow (projection : TimingProjection Id Event Operation) (id : Id)
    (row : Option (TimingRow Operation) × Bool) (event : EventRow Id Event) :
    Option (TimingRow Operation) × Bool :=
  if row.2 then row
  else
    match event.payload, TimingRow.load row.1 with
    | .parsed payload, .ok found =>
        (some (projection.row (projection.applied id payload (some event.sequence) found)
          (some event.sequence)), false)
    | _, _ => (row.1, true)

/-- An event concerns its own stream and no other. -/
theorem replayRow_spec (lawful : projection.Lawful) {replay : Replay Id Operation}
    (keyed : projection.Keyed replay.table) (event : EventRow Id Event) :
    projection.Keyed (projection.replayRow replay event).table ∧
      ∀ id, (projection.replayRow replay event).stream id =
        if event.aggregateId = .parsed id then projection.streamRow id (replay.stream id) event
        else replay.stream id := by
  by_cases given : event.aggregateId ∈ replay.poisoned
  · simp only [replayRow, given, if_true]
    refine ⟨keyed, fun id => ?_⟩
    split
    case isTrue own =>
        rw [own] at given
        simp [streamRow, Replay.stream, given]
    case isFalse => rfl
  · simp only [replayRow, given, if_false]
    split
    case h_1 operationId payload ours readable =>
        have kept : (replay.stream operationId).2 = false := by
          simpa [Replay.stream, ours] using given
        cases loaded : loadOperation replay.table operationId with
        | ok found =>
            have own := lawful.applied keyed loaded payload (some event.sequence)
            dsimp only
            rw [saveOperation_eq own]
            refine ⟨keyed_update keyed own _, fun id => ?_⟩
            by_cases same : operationId = id
            · subst same
              have loaded' : TimingRow.load (replay.stream operationId).1 = .ok found := loaded
              simp only [ours, if_true, streamRow, kept, readable, loaded']
              simpa [Replay.stream, ours] using given
            · have other : id ≠ operationId := fun back => same back.symm
              simp [ours, same, Replay.stream, other]
        | error error =>
            dsimp only
            refine ⟨keyed, fun id => ?_⟩
            simp only [Replay.stream_poison, ours]
            split
            case isTrue own =>
                cases own
                have loaded' : TimingRow.load (replay.stream operationId).1 = .error error := loaded
                simp only [streamRow, kept, readable, loaded']
                rfl
            case isFalse => rfl
    case h_2 unreadable =>
        refine ⟨keyed, fun id => ?_⟩
        simp only [Replay.stream_poison]
        split
        case isTrue own =>
            have kept : (replay.stream id).2 = false := by simpa [Replay.stream, own] using given
            simp only [streamRow, kept]
            split
            case isTrue back => cases back
            case isFalse =>
                split
                case h_1 payload found readable loaded => exact absurd readable (unreadable id payload own)
                case h_2 => rfl
        case isFalse => rfl

/-- The events of one stream. -/
def rowsOf (events : List (EventRow Id Event)) (id : Id) : List (EventRow Id Event) :=
  events.filter fun event => event.aggregateId = .parsed id

/-- A replay of many streams is a replay of each. -/
theorem foldl_replayRow (lawful : projection.Lawful) (events : List (EventRow Id Event))
    {replay : Replay Id Operation} (keyed : projection.Keyed replay.table) :
    projection.Keyed (events.foldl projection.replayRow replay).table ∧
      ∀ id, (events.foldl projection.replayRow replay).stream id =
        (rowsOf events id).foldl (projection.streamRow id) (replay.stream id) := by
  induction events generalizing replay with
  | nil => exact ⟨keyed, fun id => rfl⟩
  | cons event events ih =>
      obtain ⟨keyed', spec⟩ := replayRow_spec lawful keyed event
      obtain ⟨keyed'', later⟩ := ih keyed'
      refine ⟨keyed'', fun id => ?_⟩
      rw [List.foldl_cons, later, spec, rowsOf]
      by_cases own : event.aggregateId = .parsed id
      · rw [if_pos own, rowsOf, List.filter_cons_of_pos (by simpa using own), List.foldl_cons]
      · rw [if_neg own, rowsOf, List.filter_cons_of_neg (by simpa using own)]

/-! ## The order of a stream -/

omit [DecidableEq Id] in
theorem replayOrder_trans (first second third : EventRow Id Event)
    (left : projection.replayOrder first second) (right : projection.replayOrder second third) :
    projection.replayOrder first third := by
  simp only [replayOrder, Bool.or_eq_true, Bool.and_eq_true, decide_eq_true_eq] at left right ⊢
  rcases left with left | ⟨same, left⟩
  · rcases right with right | ⟨same', right⟩
    · exact .inl (String.lt_trans left right)
    · exact .inl (same' ▸ left)
  · rcases right with right | ⟨same', right⟩
    · exact .inl (same ▸ right)
    · exact .inr ⟨same.trans same', left.trans right⟩

omit [DecidableEq Id] in
theorem replayOrder_total (first second : EventRow Id Event) :
    (projection.replayOrder first second || projection.replayOrder second first) = true := by
  simp only [replayOrder, Bool.or_eq_true, Bool.and_eq_true, decide_eq_true_eq]
  rcases lt_trichotomy (first.aggregateId.text projection.idText)
    (second.aggregateId.text projection.idText) with less | same | more
  · exact .inl (.inl less)
  · rcases Nat.le_total first.sequence second.sequence with before | after
    · exact .inl (.inr ⟨same, before⟩)
    · exact .inr (.inr ⟨same.symm, after⟩)
  · exact .inr (.inl more)

/-- A stream that is stored in order is replayed in order. -/
theorem rowsOf_pending {table : Table Id Operation} {events : List (EventRow Id Event)} {id : Id}
    (ordered : (rowsOf events id).Pairwise fun first second => first.sequence ≤ second.sequence) :
    rowsOf (projection.pending table events) id =
      (rowsOf events id).filter fun event => TimingRow.checkpoint (table id) < event.sequence := by
  have kept : (rowsOf events id).filter
      (fun event => TimingRow.checkpoint (table id) < event.sequence) =
      rowsOf (events.filter fun event =>
        TimingRow.checkpoint (table.joined event.aggregateId) < event.sequence) id := by
    rw [rowsOf, rowsOf, List.filter_filter, List.filter_filter]
    refine List.filter_congr fun event _ => ?_
    by_cases own : event.aggregateId = .parsed id
    · simp [own, Table.joined]
    · simp [own]
  rw [kept, pending]
  set late := events.filter fun event =>
    TimingRow.checkpoint (table.joined event.aggregateId) < event.sequence
  have sorted : (rowsOf late id).Pairwise fun first second =>
      projection.replayOrder first second := by
    rw [← kept]
    have inside : ((rowsOf events id).filter fun event =>
        TimingRow.checkpoint (table id) < event.sequence).Sublist (rowsOf events id) :=
      List.filter_sublist
    refine (ordered.sublist inside).imp_of_mem ?_
    intro first second member member' before
    have own := (List.mem_filter.mp (inside.subset member)).2
    have own' := (List.mem_filter.mp (inside.subset member')).2
    simp only [decide_eq_true_eq] at own own'
    simp [replayOrder, own, own', before]
  have inside : (rowsOf late id).Sublist (late.mergeSort projection.replayOrder) :=
    List.sublist_mergeSort replayOrder_trans replayOrder_total sorted List.filter_sublist
  have inside' : (rowsOf late id).Sublist
      (rowsOf (late.mergeSort projection.replayOrder) id) := by
    have both := inside.filter fun event => decide (event.aggregateId = .parsed id)
    simp only [rowsOf, List.filter_filter, Bool.and_self] at both
    exact both
  refine (inside'.eq_of_length ?_).symm
  exact ((List.mergeSort_perm late projection.replayOrder).symm.filter _).length_eq

/-! ## A stream as it is stored -/

/-- The rows of a stream from some sequence on. -/
def eventRows (id : Id) : Nat → List (Stored Event) → List (EventRow Id Event)
  | _, [] => []
  | before, payload :: payloads =>
      ⟨.parsed id, before + 1, payload⟩ :: eventRows id (before + 1) payloads

/-- What a replay makes of events from some sequence on. -/
def replayed (projection : TimingProjection Id Event Operation) (id : Id) :
    Nat → Option Operation → List Event → Option Operation
  | _, found, [] => found
  | before, found, event :: events =>
      projection.replayed id (before + 1)
        (some (projection.applied id event (some (before + 1)) found)) events

omit [DecidableEq Id] in
theorem eventRows_sequence_lt (id : Id) (before : Nat) (payloads : List (Stored Event)) :
    ∀ event ∈ eventRows id before payloads, before < event.sequence := by
  induction payloads generalizing before with
  | nil =>
      intro event member
      cases member
  | cons payload payloads ih =>
      intro event member
      rcases List.mem_cons.mp member with rfl | later
      · exact Nat.lt_succ_self before
      · exact Nat.lt_of_succ_lt (ih (before + 1) event later)

omit [DecidableEq Id] in
theorem eventRows_pairwise (id : Id) (before : Nat) (payloads : List (Stored Event)) :
    (eventRows id before payloads).Pairwise fun first second =>
      first.sequence ≤ second.sequence := by
  induction payloads generalizing before with
  | nil => exact .nil
  | cons payload payloads ih =>
      refine .cons ?_ (ih (before + 1))
      intro event later
      exact Nat.le_of_lt (eventRows_sequence_lt id (before + 1) payloads event later)

omit [DecidableEq Id] in
/-- The rows past a sequence are those of the rest of the stream. -/
theorem eventRows_filter (id : Id) (before count : Nat) (payloads : List (Stored Event)) :
    (eventRows id before payloads).filter (fun event => before + count < event.sequence) =
      eventRows id (before + count) (payloads.drop count) := by
  induction count generalizing before payloads with
  | zero =>
      refine List.filter_eq_self.mpr ?_
      intro event member
      simpa using eventRows_sequence_lt id before payloads event member
  | succ count ih =>
      cases payloads with
      | nil => rfl
      | cons payload payloads =>
          rw [eventRows, List.filter_cons_of_neg (by simp)]
          have later := ih (before + 1) payloads
          rw [show before + 1 + count = before + (count + 1) by omega] at later
          exact later

/-- Nothing readable comes first. -/
def Blocked (payloads : List (Stored Event)) : Prop :=
  ∀ event, payloads.head? ≠ some (.parsed event)

omit [DecidableEq Id] in
theorem blocked_nil : Blocked ([] : List (Stored Event)) := by
  intro event readable
  cases readable

omit [DecidableEq Id] in
/-- A row that is unreadable stays as it is. -/
theorem foldl_streamRow_corrupt (projection : TimingProjection Id Event Operation) (id : Id) (rows : List (EventRow Id Event))
    {row : Option (TimingRow Operation)} {error : ProjectionError}
    (corrupt : TimingRow.load row = .error error) (stopped : Bool) :
    (rows.foldl (projection.streamRow id) (row, stopped)).1 = row := by
  induction rows generalizing stopped with
  | nil => rfl
  | cons event rows ih =>
      have kept : projection.streamRow id (row, stopped) event = (row, true) := by
        cases stopped with
        | true => rfl
        | false =>
            simp only [streamRow, corrupt]
            cases event.payload <;> rfl
      rw [List.foldl_cons, kept]
      exact ih true

omit [DecidableEq Id] in
theorem foldl_streamRow_given_up (id : Id) (rows : List (EventRow Id Event))
    (row : Option (TimingRow Operation)) :
    rows.foldl (projection.streamRow id) (row, true) = (row, true) := by
  induction rows with
  | nil => rfl
  | cons event rows ih => exact ih

omit [DecidableEq Id] in
/-- A replay folds what is readable, up to the first event that is not. -/
theorem foldl_streamRow (projection : TimingProjection Id Event Operation) (id : Id) (before : Nat) (events : List Event)
    {rest : List (Stored Event)} (blocked : Blocked rest) {row : Option (TimingRow Operation)}
    {found : Option Operation} (loaded : TimingRow.load row = .ok found) :
    ∃ final stopped,
      (eventRows id before (events.map .parsed ++ rest)).foldl (projection.streamRow id)
        (row, false) = (final, stopped) ∧
      TimingRow.load final = .ok (projection.replayed id before found events) ∧
      ((events = [] ∧ final = row) ∨ TimingRow.checkpoint final = before + events.length) := by
  induction events generalizing before row found with
  | nil =>
      cases rest with
      | nil => exact ⟨row, false, rfl, loaded, .inl ⟨rfl, rfl⟩⟩
      | cons payload rest =>
          refine ⟨row, true, ?_, loaded, .inl ⟨rfl, rfl⟩⟩
          cases payload with
          | parsed event => exact absurd rfl (blocked event)
          | corrupt text => exact foldl_streamRow_given_up id _ row
  | cons event events ih =>
      have first : projection.streamRow id (row, false) ⟨.parsed id, before + 1, .parsed event⟩ =
          (some (projection.row (projection.applied id event (some (before + 1)) found)
            (some (before + 1))), false) := by
        simp only [streamRow, loaded]
        rfl
      obtain ⟨final, stopped, folds, loads, count⟩ := ih (before + 1) (load_row projection
        (projection.applied id event (some (before + 1)) found) (some (before + 1)))
      refine ⟨final, stopped, ?_, loads, .inr ?_⟩
      · rw [← folds, List.map_cons, List.cons_append, eventRows, List.foldl_cons, first]
      · rcases count with ⟨rfl, rfl⟩ | count
        · rfl
        · rw [count, List.length_cons]
          omega

/-- What a replay leaves of a stream that is readable up to some event, in a row that
is readable: what the events past its sequence make of it. -/
theorem replayPending_stream (lawful : projection.Lawful) {table : Table Id Operation}
    (keyed : projection.Keyed table) {rows : List (EventRow Id Event)} {id : Id}
    {events : List Event} {rest : List (Stored Event)} (blocked : Blocked rest)
    (stored : rowsOf rows id = eventRows id 0 (events.map .parsed ++ rest))
    (behind : TimingRow.checkpoint (table id) ≤ events.length)
    {found : Option Operation} (loaded : loadOperation table id = .ok found) :
    loadOperation (projection.replayPending table rows).table id =
        .ok (projection.replayed id (TimingRow.checkpoint (table id)) found
          (events.drop (TimingRow.checkpoint (table id)))) ∧
      TimingRow.checkpoint ((projection.replayPending table rows).table id) = events.length := by
  set count := TimingRow.checkpoint (table id) with counted
  have ordered : (rowsOf rows id).Pairwise fun first second =>
      first.sequence ≤ second.sequence := by
    rw [stored]
    exact eventRows_pairwise id 0 _
  have start : projection.Keyed (Replay.table ⟨table, [], 0⟩) := keyed
  have late : rowsOf (projection.pending table rows) id =
      eventRows id count ((events.drop count).map .parsed ++ rest) := by
    have past := eventRows_filter id 0 count (events.map .parsed ++ rest)
    rw [Nat.zero_add] at past
    rw [rowsOf_pending ordered, stored, ← counted, past,
      List.drop_append_of_le_length (by simpa using behind), List.map_drop]
  have spec := (foldl_replayRow lawful (projection.pending table rows) start).2 id
  obtain ⟨final, stopped, folds, loads, reached⟩ := foldl_streamRow projection id count
    (events.drop count) blocked loaded
  have initial : Replay.stream (⟨table, [], 0⟩ : Replay Id Operation) id = (table id, false) := rfl
  rw [initial, late, folds] at spec
  have row : (projection.replayPending table rows).table id = final := congrArg Prod.fst spec
  rw [loadOperation, row]
  refine ⟨loads, ?_⟩
  rcases reached with ⟨none, rfl⟩ | reached
  · have whole : events.length ≤ count := List.drop_eq_nil_iff.mp none
    omega
  · rw [reached, List.length_drop]
    omega

/-- Where there are no events there is nothing to replay. -/
theorem catchUp_nil (projection : TimingProjection Id Event Operation)
    (table : Table Id Operation) : projection.catchUp table [] = (table, 0) := by
  simp [catchUp, replayPending, pending]

theorem replayPending_corrupt (lawful : projection.Lawful) {table : Table Id Operation}
    (keyed : projection.Keyed table) (rows : List (EventRow Id Event)) {id : Id}
    {error : ProjectionError} (corrupt : loadOperation table id = .error error) :
    (projection.replayPending table rows).table id = table id := by
  have start : projection.Keyed (Replay.table ⟨table, [], 0⟩) := keyed
  have spec := (foldl_replayRow lawful (projection.pending table rows) start).2 id
  have kept := foldl_streamRow_corrupt projection id
    (rowsOf (projection.pending table rows) id) corrupt false
  exact (congrArg Prod.fst spec).trans kept

theorem replayPending_keyed (lawful : projection.Lawful) {table : Table Id Operation}
    (keyed : projection.Keyed table) (rows : List (EventRow Id Event)) :
    projection.Keyed (projection.replayPending table rows).table := by
  have start : projection.Keyed (Replay.table ⟨table, [], 0⟩) := keyed
  exact (foldl_replayRow lawful (projection.pending table rows) start).1

end TimingProjection

end Liquidity.Performance
