import Liquidity.Performance.Runs

/-!
# When a table does not converge

A bot that reacts to all it writes has rows without a sequence, and the replay of its
next start folds each stream once more from the beginning. So where folding a stream
twice does not come to the same as folding it once, a replay leaves its row wrong.
-/

namespace Liquidity.Performance

open EventSourcing TimingProjection

variable {Id Event Operation : Type} [DecidableEq Id]
variable {projection : TimingProjection Id Event Operation}
variable {writes : Id → Time → List Event → List Event → Prop} {id : Id}

namespace World

/-- Whatever happens, a replay leaves the row of the stream showing it, if it can read
the row and nothing of the stream was overtaken. -/
def Converges (projection : TimingProjection Id Event Operation)
    (writes : Id → Time → List Event → List Event → Prop) (id : Id) (events : List Event) : Prop :=
  ∀ world : World Id Event Operation, world.Reached projection writes →
    world.stream id = events.map .parsed → world.overtaken id = false →
    ∀ found, loadOperation world.table id = .ok found →
      Shows projection (projection.catchUp world.table world.events).1 id events

/-- The bot has reacted to all events of the stream, and has not been started again since
it wrote the first. -/
structure Lived (projection : TimingProjection Id Event Operation)
    (writes : Id → Time → List Event → List Event → Prop) (id : Id)
    (world : World Id Event Operation) (events rest : List Event) : Prop where
  reached : world.Reached projection writes
  running : world.running = true
  readable : world.stream id = (events ++ rest).map .parsed
  waiting : world.waiting id = rest
  seen : world.unseen id = false
  inOrder : world.overtaken id = false
  folded : loadOperation world.table id = .ok (projection.fold id events)
  uncounted : ((world.table id).bind TimingRow.lastSequence) = none

variable {world : World Id Event Operation} {events rest batch : List Event} {event : Event}

theorem Lived.react (lawful : projection.Lawful)
    (lived : Lived projection writes id world events (event :: rest)) :
    Lived projection writes id (world.react projection id event rest) (events ++ [event]) rest := by
  have keyed := (lived.reached.consistent lawful).keyed
  have own := lawful.applied keyed lived.folded event none
  have saved : projection.onEvent world.table id event = .ok (Function.update world.table id
      (some (projection.row (projection.applied id event none (projection.fold id events))
        none))) := by
    simp only [onEvent, lived.folded]
    show Except.ok (projection.saveOperation world.table _ none) = _
    rw [saveOperation_eq own, lived.uncounted]
    rfl
  refine ⟨lived.reached.tail (.react id lived.running lived.waiting), ?_, ?_, ?_, ?_, ?_, ?_, ?_⟩
  all_goals simp only [World.react, saved]
  · exact lived.running
  · rw [List.append_assoc]
    exact lived.readable
  · exact Function.update_self _ _ _
  · exact lived.seen
  · exact lived.inOrder
  · simp only [loadOperation, Function.update_self, load_row, fold_concat]
  · simp only [Function.update_self, Option.bind_some]
    rfl

theorem Lived.reacted (lawful : projection.Lawful)
    (lived : Lived projection writes id world events rest) :
    ∃ after, Lived projection writes id after (events ++ rest) [] ∧ after.clock = world.clock := by
  induction rest generalizing world events with
  | nil => exact ⟨world, by rwa [List.append_nil], rfl⟩
  | cons event rest ih =>
      obtain ⟨after, whole, clock⟩ := ih (lived.react lawful)
      refine ⟨after, by simpa using whole, clock.trans ?_⟩
      simp only [World.react]
      split <;> rfl

/-- Whatever commands may write, a bot can have written and reacted to. -/
theorem exists_lived (lawful : projection.Lawful) {time : Time}
    (streams : Streams writes id time events) :
    ∃ world, Lived projection writes id world events [] ∧ world.clock ≤ time := by
  induction streams with
  | empty time =>
      have started : Step projection writes (initial : World Id Event Operation) _ := .start rfl
      have table : (projection.catchUp (initial : World Id Event Operation).table
          (initial : World Id Event Operation).events).1 = fun _ => none := by
        rw [show (initial : World Id Event Operation).events = [] from rfl, catchUp_nil]
        rfl
      rw [table] at started
      exact ⟨_, ⟨.single started, rfl, rfl, rfl, rfl, rfl, rfl, rfl⟩, Nat.zero_le time⟩
  | @append time now events batch _ later written ih =>
      obtain ⟨world, lived, before⟩ := ih
      have readable : world.stream id = events.map .parsed := by
        rw [lived.readable, List.append_nil]
      have step : Step projection writes world _ :=
        .command written readable (before.trans_lt later) lived.running
      have sent : Lived projection writes id { world with
          events := store world.events id batch
          waiting := Function.update world.waiting id (world.waiting id ++ batch)
          overtaken := Function.update world.overtaken id (world.overtaken id || world.unseen id)
          clock := now } events batch := by
        refine ⟨lived.reached.tail step, lived.running, ?_, ?_, lived.seen, ?_, lived.folded,
          lived.uncounted⟩
        · rw [stream, stream_store_self, readable, List.map_append]
        · simp [lived.waiting]
        · simp [lived.inOrder, lived.seen]
      obtain ⟨after, whole, clock⟩ := sent.reacted lawful
      exact ⟨after, whole, clock.le⟩

/-- A replay folds the whole stream into a row without a sequence. -/
theorem Reached.replays (lawful : projection.Lawful) (reached : world.Reached projection writes)
    (readable : world.stream id = events.map .parsed) {found : Option Operation}
    (loaded : loadOperation world.table id = .ok found)
    (uncounted : ((world.table id).bind TimingRow.lastSequence) = none) :
    loadOperation (projection.catchUp world.table world.events).1 id =
      .ok (projection.replayed id 0 found events) := by
  have consistent := reached.consistent lawful
  have stored : rowsOf world.events id = eventRows id 0 (events.map .parsed ++ []) := by
    rw [rowsOf_eq (consistent.numbered id), readable, List.append_nil]
  have start : TimingRow.checkpoint (world.table id) = 0 := by
    rw [TimingRow.checkpoint, uncounted]
    rfl
  have behind : TimingRow.checkpoint (world.table id) ≤ events.length :=
    start.le.trans (Nat.zero_le _)
  obtain ⟨replays, -⟩ :=
    replayPending_stream lawful consistent.keyed blocked_nil stored behind loaded
  rwa [start, List.drop_zero] at replays

/-- A stream that converges comes to the same when it is folded twice. -/
theorem Converges.twice (lawful : projection.Lawful) {time : Time}
    (converges : Converges projection writes id events) (streams : Streams writes id time events)
    (sequenced : Sequenced projection id events) :
    events.foldl (projection.live id) (projection.fold id events) = projection.fold id events := by
  obtain ⟨world, lived, -⟩ := exists_lived lawful streams
  have readable : world.stream id = events.map .parsed := by
    rw [lived.readable, List.append_nil]
  have replays := lived.reached.replays lawful readable lived.folded lived.uncounted
  have shown := converges world lived.reached readable lived.inOrder _ lived.folded
  have same := Except.ok.inj (replays.symm.trans shown)
  have whole : Sequenced projection id ([] ++ events) := sequenced
  rw [← whole.replayed (projection.fold id events)]
  exact same

end World

end Liquidity.Performance
