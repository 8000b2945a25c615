import Liquidity.Pnl.Balance

/-!
# The replay and the position

The position folds its events in the order in which they were stored, the replay
in the order in which they happened. Fills may change places: they add up to the
same. An adjustment overwrites what came before it, so the two agree as long as
the last adjustment stands between the same fills in both orders.
-/

namespace Liquidity.Pnl

open PositionEvent EventSourcing

/-! ## The rows of a position -/

section Rows

variable {rowid : Nat → Nat} {symbol : Symbol} {stream : List PositionEvent}

theorem loadPositionEvents_events :
    (loadPositionEvents rowid symbol stream).map PositionEventRow.event =
      stream.filter isReplayed := by
  have events : (stream.zipIdx.map fun entry =>
      (⟨rowid entry.2, symbol, entry.1⟩ : PositionEventRow)).map PositionEventRow.event = stream := by
    rw [List.map_map]
    exact List.zipIdx_map_fst 0 stream
  rw [loadPositionEvents]
  conv_rhs => rw [← events, List.filter_map]
  rfl

theorem symbol_of_loaded {row : PositionEventRow}
    (loaded : row ∈ loadPositionEvents rowid symbol stream) : row.symbol = symbol := by
  obtain ⟨indexed, -, rfl⟩ := List.mem_map.mp (List.mem_filter.mp loaded).1
  rfl

theorem replayed_of_loaded {row : PositionEventRow}
    (loaded : row ∈ loadPositionEvents rowid symbol stream) : isReplayed row.event :=
  (List.mem_filter.mp loaded).2

theorem event_of_loaded {row : PositionEventRow}
    (loaded : row ∈ loadPositionEvents rowid symbol stream) : row.event ∈ stream := by
  have listed : row.event ∈ stream.filter isReplayed := by
    rw [← @loadPositionEvents_events rowid symbol stream]
    exact List.mem_map_of_mem loaded
  exact (List.mem_filter.mp listed).1

theorem loadPositionEvents_rowids (increasing : StrictMono rowid) :
    (loadPositionEvents rowid symbol stream).Pairwise fun first second =>
      first.rowid < second.rowid := by
  refine List.Pairwise.filter _ (List.pairwise_map.mpr ?_)
  have indices : (stream.zipIdx.map Prod.snd).Pairwise (· < ·) := by
    rw [List.zipIdx_map_snd]
    exact List.pairwise_lt_range'
  exact (List.pairwise_map.mp indices).imp fun later => increasing later

/-- What is not replayed does not move the net position. -/
theorem netLedger_replayed (stream : List PositionEvent) :
    Position.netLedger (stream.filter isReplayed) = Position.netLedger stream := by
  induction stream using List.reverseRecOn with
  | nil => rfl
  | append_singleton stream event ih =>
      rw [List.filter_append, Position.netLedger_concat, ← ih]
      cases replayed : isReplayed event with
      | true =>
          rw [List.filter_singleton, replayed]
          exact Position.netLedger_concat _ _
      | false =>
          rw [List.filter_singleton, replayed]
          cases event <;> cases replayed <;> simp [target?, moves]

theorem fillIds_replayed (stream : List PositionEvent) :
    (stream.filter isReplayed).filterMap fillId? = stream.filterMap fillId? := by
  induction stream with
  | nil => rfl
  | cons event stream ih =>
      cases replayed : isReplayed event with
      | true => rw [List.filter_cons_of_pos replayed, List.filterMap_cons, ih, List.filterMap_cons]
      | false =>
          have none : event.fillId? = none := by
            cases event <;> cases replayed <;> rfl
          rw [List.filter_cons_of_neg (by simp [replayed]), ih, List.filterMap_cons_none none]

end Rows

/-! ## In the order of the replay -/

/-- The same rows in the order of their keys. -/
structure Reorders (rows sorted : List PositionEventRow) : Prop where
  perm : sorted.Perm rows
  increasing : sorted.Pairwise fun first second => first.sortKey < second.sortKey

/-- A loop that only checks passes when every check does. -/
theorem forIn_passes {rows : List PositionEventRow}
    {check : PositionEventRow → PUnit → Except PnlError (ForInStep PUnit)}
    (passes : ∀ row ∈ rows, check row .unit = .ok (.yield .unit)) :
    forIn rows PUnit.unit check = .ok .unit := by
  induction rows with
  | nil => rfl
  | cons row rows ih =>
      obtain ⟨here, later⟩ := List.forall_mem_cons.mp passes
      rw [List.forIn_cons, here]
      exact ih later

theorem orderedPositionEvents_ok {rows : List PositionEventRow}
    (timed : ∀ row ∈ rows, (positionEventReplayTimestamp row.event).isSome) :
    orderedPositionEvents rows =
      .ok (rows.insertionSort fun first second => first.sortKey ≤ second.sortKey) := by
  unfold orderedPositionEvents
  rw [forIn_passes]
  · rfl
  · intro row listed
    have present : ¬ (positionEventReplayTimestamp row.event).isNone := by
      rw [Option.isNone_iff_eq_none]
      exact Option.isSome_iff_ne_none.mp (timed row listed)
    rw [if_neg present]
    rfl

theorem replayed_timed {event : PositionEvent} (replayed : isReplayed event) :
    (positionEventReplayTimestamp event).isSome := by
  cases event <;> cases replayed <;> rfl

theorem sortKey_ne {first second : PositionEventRow} (apart : first.rowid ≠ second.rowid) :
    first.sortKey ≠ second.sortKey :=
  fun same => apart (congrArg (fun key => (ofLex key).2) same)

theorem reorders_insertionSort {rows : List PositionEventRow}
    (rowids : rows.Pairwise fun first second => first.rowid < second.rowid) :
    Reorders rows (rows.insertionSort fun first second => first.sortKey ≤ second.sortKey) := by
  have perm := List.perm_insertionSort (fun first second : PositionEventRow =>
    first.sortKey ≤ second.sortKey) rows
  refine ⟨perm, ?_⟩
  have apart : (rows.insertionSort fun first second => first.sortKey ≤ second.sortKey).Pairwise
      fun first second => first.sortKey ≠ second.sortKey := by
    refine (perm.pairwise_iff Ne.symm).mpr (rowids.imp fun {first second} lt same => ?_)
    exact sortKey_ne lt.ne same
  have sorted : (rows.insertionSort fun first second => first.sortKey ≤ second.sortKey).Pairwise
      fun first second => first.sortKey ≤ second.sortKey := by
    have : Std.Total fun first second : PositionEventRow => first.sortKey ≤ second.sortKey :=
      ⟨fun _ _ => le_total _ _⟩
    have : IsTrans PositionEventRow fun first second => first.sortKey ≤ second.sortKey :=
      ⟨fun _ _ _ => le_trans⟩
    exact List.pairwise_insertionSort _ rows
  exact sorted.imp₂ (fun _ _ => lt_of_le_of_ne) apart

/-! ## The net position in another order -/

/-- A fill or an adjustment. -/
def Moving (row : PositionEventRow) : Prop :=
  row.event.fillId?.isSome ∨ row.event.target?.isSome

instance : DecidablePred Moving := fun row =>
  inferInstanceAs (Decidable (row.event.fillId?.isSome ∨ row.event.target?.isSome))

/-- The adjustment that was stored last. -/
def IsLastAdjustment (rows : List PositionEventRow) (adjustment : PositionEventRow) : Prop :=
  adjustment.event.target?.isSome ∧
    ∀ row ∈ rows, row.event.target?.isSome → row.rowid ≤ adjustment.rowid

instance (rows : List PositionEventRow) : DecidablePred (IsLastAdjustment rows) :=
  fun adjustment => inferInstanceAs (Decidable (adjustment.event.target?.isSome ∧
    ∀ row ∈ rows, row.event.target?.isSome → row.rowid ≤ adjustment.rowid))

/-- The last adjustment happened after the fills and adjustments that were stored
before it, and before the fills that were stored after it. -/
def LastAdjustmentInTime (rows : List PositionEventRow) : Prop :=
  ∀ adjustment ∈ rows, IsLastAdjustment rows adjustment → ∀ row ∈ rows, Moving row →
    (row.rowid < adjustment.rowid ↔ row.sortKey < adjustment.sortKey)

instance (rows : List PositionEventRow) : Decidable (LastAdjustmentInTime rows) :=
  inferInstanceAs (Decidable (∀ adjustment ∈ rows, IsLastAdjustment rows adjustment →
    ∀ row ∈ rows, Moving row → (row.rowid < adjustment.rowid ↔ row.sortKey < adjustment.sortKey)))

/-- Every adjustment that has no price of its own finds one that happened before. -/
def Priced (rows : List PositionEventRow) : Prop :=
  ∀ row ∈ rows, row.event.needsPrice →
    ∃ earlier ∈ rows, earlier.event.setsPrice ∧ earlier.sortKey < row.sortKey

instance (rows : List PositionEventRow) : Decidable (Priced rows) :=
  inferInstanceAs (Decidable (∀ row ∈ rows, row.event.needsPrice →
    ∃ earlier ∈ rows, earlier.event.setsPrice ∧ earlier.sortKey < row.sortKey))

section Net

variable {rows sorted : List PositionEventRow}

/-- What the rows move the net position by. -/
def moved (rows : List PositionEventRow) : ℚ := (rows.map fun row => row.event.moves).sum

theorem netLedger_unadjusted (unadjusted : ∀ row ∈ rows, row.event.target? = none) :
    Position.netLedger (rows.map PositionEventRow.event) = moved rows := by
  induction rows using List.reverseRecOn with
  | nil => simp [Position.netLedger, moved]
  | append_singleton rows row ih =>
      have earlier := ih fun row listed => unadjusted row (List.mem_append_left _ listed)
      have last := unadjusted row (List.mem_append_right _ List.mem_cons_self)
      rw [map_event_concat, Position.netLedger_concat, last, earlier]
      simp [moved]

theorem netLedger_adjusted {before after : List PositionEventRow} {adjustment : PositionEventRow}
    {target : ℚ} (adjusts : adjustment.event.target? = some target)
    (since : ∀ row ∈ after, row.event.target? = none) :
    Position.netLedger ((before ++ adjustment :: after).map PositionEventRow.event) =
      target + moved after := by
  induction after using List.reverseRecOn with
  | nil =>
      rw [map_event_concat, Position.netLedger_concat, adjusts]
      exact (add_zero _).symm
  | append_singleton after row ih =>
      have earlier := ih fun row listed => since row (List.mem_append_left _ listed)
      have last := since row (List.mem_append_right _ List.mem_cons_self)
      have whole : before ++ adjustment :: (after ++ [row]) =
          (before ++ adjustment :: after) ++ [row] := by simp
      rw [whole, map_event_concat, Position.netLedger_concat, last, earlier]
      simp [moved, add_assoc]

/-- Rows are free of adjustments, or end in some that are after the last one. -/
theorem last_adjustment (rows : List PositionEventRow) :
    (∀ row ∈ rows, row.event.target? = none) ∨
      ∃ before adjustment after target, rows = before ++ adjustment :: after ∧
        adjustment.event.target? = some target ∧ ∀ row ∈ after, row.event.target? = none := by
  induction rows using List.reverseRecOn with
  | nil => exact .inl nofun
  | append_singleton rows row ih =>
      cases adjusts : row.event.target? with
      | some target => exact .inr ⟨rows, row, [], target, rfl, adjusts, nofun⟩
      | none =>
          rcases ih with unadjusted | ⟨before, adjustment, after, target, rfl, known, since⟩
          · left
            intro other listed
            rcases List.mem_append.mp listed with old | last
            · exact unadjusted other old
            · rw [List.mem_singleton.mp last]
              exact adjusts
          · refine .inr ⟨before, adjustment, after ++ [row], target, by simp, known, ?_⟩
            intro other listed
            rcases List.mem_append.mp listed with old | last
            · exact since other old
            · rw [List.mem_singleton.mp last]
              exact adjusts

theorem moves_of_not_moving {row : PositionEventRow} (still : ¬ Moving row) :
    row.event.moves = 0 := by
  unfold Moving at still
  cases event : row.event <;> simp [event, fillId?, target?] at still <;> rfl

/-- What is moved by the rows with keys above a bound. -/
def movedAbove (bound : Nat ×ₗ Nat) (rows : List PositionEventRow) : ℚ :=
  (rows.map fun row => if bound < row.sortKey then row.event.moves else 0).sum

theorem movedAbove_append (bound : Nat ×ₗ Nat) (first second : List PositionEventRow) :
    movedAbove bound (first ++ second) = movedAbove bound first + movedAbove bound second := by
  simp [movedAbove]

theorem movedAbove_below {bound : Nat ×ₗ Nat}
    (below : ∀ row ∈ rows, Moving row → row.sortKey ≤ bound) : movedAbove bound rows = 0 := by
  refine List.sum_eq_zero fun amount listed => ?_
  obtain ⟨row, mem, rfl⟩ := List.mem_map.mp listed
  split
  · rename_i above
    exact moves_of_not_moving fun moving => absurd above (below row mem moving).not_gt
  · rfl

theorem movedAbove_above {bound : Nat ×ₗ Nat}
    (above : ∀ row ∈ rows, Moving row → bound < row.sortKey) :
    movedAbove bound rows = moved rows := by
  refine congrArg List.sum (List.map_congr_left fun row listed => ?_)
  split
  · rfl
  · rename_i below
    exact (moves_of_not_moving fun moving => below (above row listed moving)).symm

/-- In a list that is split at a row, the rows above it are those that move after it. -/
theorem movedAbove_split {before after : List PositionEventRow} {adjustment : PositionEventRow}
    (earlier : ∀ row ∈ before, Moving row → row.sortKey < adjustment.sortKey)
    (later : ∀ row ∈ after, Moving row → adjustment.sortKey < row.sortKey) :
    movedAbove adjustment.sortKey (before ++ adjustment :: after) = moved after := by
  have upTo : movedAbove adjustment.sortKey (before ++ [adjustment]) = 0 := by
    refine movedAbove_below fun row listed moving => ?_
    rcases List.mem_append.mp listed with old | last
    · exact (earlier row old moving).le
    · rw [List.mem_singleton.mp last]
  have whole : before ++ adjustment :: after = (before ++ [adjustment]) ++ after := by simp
  rw [whole, movedAbove_append, upTo, zero_add, movedAbove_above later]

/-- What was stored before the last adjustment happened before it, what was stored
after it happened after it. -/
theorem LastAdjustmentInTime.sides (inTime : LastAdjustmentInTime rows)
    (rowids : rows.Pairwise fun first second => first.rowid < second.rowid)
    {before after : List PositionEventRow} {adjustment : PositionEventRow}
    (whole : rows = before ++ adjustment :: after) (adjusts : adjustment.event.target?.isSome)
    (since : ∀ row ∈ after, row.event.target? = none) :
    (∀ row ∈ before, Moving row → row.sortKey < adjustment.sortKey) ∧
      ∀ row ∈ after, Moving row → adjustment.sortKey < row.sortKey := by
  rw [whole] at rowids
  obtain ⟨-, above, below⟩ := List.pairwise_append.mp rowids
  have storedBefore : ∀ row ∈ before, row.rowid < adjustment.rowid :=
    fun row listed => below row listed adjustment List.mem_cons_self
  have storedAfter : ∀ row ∈ after, adjustment.rowid < row.rowid :=
    (List.pairwise_cons.mp above).1
  have isLast : IsLastAdjustment rows adjustment := by
    refine ⟨adjusts, fun row listed adjusts => ?_⟩
    rw [whole] at listed
    rcases List.mem_append.mp listed with old | new
    · exact (storedBefore row old).le
    · rcases List.mem_cons.mp new with rfl | new
      · exact le_rfl
      · rw [since row new] at adjusts
        cases adjusts
  have sides := inTime adjustment (by simp [whole]) isLast
  refine ⟨fun row listed moving => ?_, fun row listed moving => ?_⟩
  · exact (sides row (by simp [whole, listed]) moving).mp (storedBefore row listed)
  · have notBefore : ¬ row.sortKey < adjustment.sortKey := fun earlier =>
      absurd ((sides row (by simp [whole, listed]) moving).mpr earlier)
        (storedAfter row listed).not_gt
    exact lt_of_le_of_ne (not_lt.mp notBefore) (sortKey_ne (storedAfter row listed).ne)

/-- The order of the replay leaves the net position as it is. -/
theorem netLedger_reordered (reorders : Reorders rows sorted)
    (rowids : rows.Pairwise fun first second => first.rowid < second.rowid)
    (inTime : LastAdjustmentInTime rows) :
    Position.netLedger (sorted.map PositionEventRow.event) =
      Position.netLedger (rows.map PositionEventRow.event) := by
  rcases last_adjustment rows with
    unadjusted | ⟨before, adjustment, after, target, whole, known, since⟩
  · rw [netLedger_unadjusted unadjusted, netLedger_unadjusted fun row listed =>
      unadjusted row (reorders.perm.mem_iff.mp listed)]
    exact (reorders.perm.map _).sum_eq
  · obtain ⟨earlier, later⟩ := inTime.sides rowids whole (by simp [known]) since
    have listed : adjustment ∈ sorted := reorders.perm.mem_iff.mpr (by simp [whole])
    obtain ⟨first, rest, split⟩ := List.append_of_mem listed
    have increasing := reorders.increasing
    rw [split] at increasing
    obtain ⟨-, restAbove, firstBelow⟩ := List.pairwise_append.mp increasing
    have above : ∀ row ∈ rest, adjustment.sortKey < row.sortKey :=
      (List.pairwise_cons.mp restAbove).1
    -- No adjustment that was stored earlier is replayed later.
    have still : ∀ row ∈ rest, row.event.target? = none := by
      intro row mem
      have stored : row ∈ before ++ adjustment :: after := by
        rw [← whole]
        exact reorders.perm.mem_iff.mp (by simp [split, mem])
      rcases List.mem_append.mp stored with old | new
      · by_contra adjusts
        have moving : Moving row := .inr (Option.isSome_iff_ne_none.mpr adjusts)
        exact absurd (above row mem) (earlier row old moving).not_gt
      · rcases List.mem_cons.mp new with rfl | new
        · exact absurd (above row mem) (lt_irrefl _)
        · exact since row new
    have replayed : movedAbove adjustment.sortKey sorted = moved rest := by
      rw [split]
      exact movedAbove_split (fun row mem _ => firstBelow row mem adjustment List.mem_cons_self)
        fun row mem _ => above row mem
    have stored : movedAbove adjustment.sortKey rows = moved after := by
      rw [whole]
      exact movedAbove_split earlier later
    have sums : movedAbove adjustment.sortKey sorted = movedAbove adjustment.sortKey rows :=
      (reorders.perm.map _).sum_eq
    rw [split, whole, netLedger_adjusted known still, netLedger_adjusted known since, ← replayed,
      ← stored, sums]

theorem firstOccurrences_of_nodup {events : List PositionEvent}
    (once : (events.filterMap fillId?).Nodup) : firstOccurrences events = events := by
  induction events using List.reverseRecOn with
  | nil => rfl
  | append_singleton events event ih =>
      rw [List.filterMap_append] at once
      obtain ⟨earlier, -, apart⟩ := List.nodup_append.mp once
      rw [firstOccurrences_concat, ih earlier, keepFirst, if_neg]
      rintro ⟨id, known, listed⟩
      exact apart id listed id (by simp [known]) rfl

theorem resolvable_of_priced (reorders : Reorders rows sorted) (priced : Priced rows) :
    Resolvable (sorted.map PositionEventRow.event) := by
  intro before event after whole needs
  obtain ⟨first, rest, split, rfl, tail⟩ := List.map_eq_append_iff.mp whole
  obtain ⟨row, later, rfl, rfl, rfl⟩ := List.map_eq_cons_iff.mp tail
  have mem : row ∈ rows := reorders.perm.mem_iff.mp (by simp [split])
  obtain ⟨earlier, listed, sets, lt⟩ := priced row mem needs
  have placed : earlier ∈ first ++ row :: later := by
    rw [← split]
    exact reorders.perm.mem_iff.mpr listed
  have increasing := reorders.increasing
  rw [split] at increasing
  obtain ⟨-, above, -⟩ := List.pairwise_append.mp increasing
  rcases List.mem_append.mp placed with inFirst | inRest
  · exact List.any_eq_true.mpr ⟨earlier.event, List.mem_map_of_mem inFirst, sets⟩
  · rcases List.mem_cons.mp inRest with rfl | inLater
    · exact absurd lt (lt_irrefl _)
    · exact absurd lt ((List.pairwise_cons.mp above).1 earlier inLater).not_gt

end Net

/-! ## The report -/

section Report

variable {symbol : Symbol} {rows : List PositionEventRow} {report : Report} {replay : Replay}

/-- The report as the replay of one symbol. -/
def Report.replayOf (report : Report) (symbol : Symbol) : Replay where
  book := report.bookOf symbol
  entries := report.entries
  warnings := report.warnings
  unmatchedOffchainAllocations := report.unmatchedOffchainAllocations

theorem Report.applyRow_replayOf (safe : isSafeSymbol symbol) {row : PositionEventRow}
    (ofSymbol : row.symbol = symbol)
    (applied : Pnl.applyRow (report.replayOf symbol) row = .ok replay) :
    ∃ report', report.applyRow row = .ok report' ∧ report'.replayOf symbol = replay := by
  subst ofSymbol
  have known : ¬ (!isSafeSymbol row.symbol) = true := by simp [safe]
  refine ⟨⟨Function.update report.books row.symbol (some replay.book), replay.entries,
    replay.warnings, replay.unmatchedOffchainAllocations⟩, ?_, ?_⟩
  · change (if (!isSafeSymbol row.symbol) = true then _
      else Pnl.applyRow (report.replayOf row.symbol) row >>= _) = _
    rw [if_neg known, applied]
    rfl
  · simp [Report.replayOf, Report.bookOf]

/-- The rows of one symbol are replayed as on their own. -/
theorem foldlM_replayOf (safe : isSafeSymbol symbol) (ofSymbol : ∀ row ∈ rows, row.symbol = symbol)
    (replayed : rows.foldlM applyRow (report.replayOf symbol) = .ok replay) :
    ∃ report', rows.foldlM Report.applyRow report = .ok report' ∧
      report'.replayOf symbol = replay := by
  induction rows generalizing report with
  | nil =>
      cases replayed
      exact ⟨report, rfl, rfl⟩
  | cons row rows ih =>
      obtain ⟨here, later⟩ := List.forall_mem_cons.mp ofSymbol
      rw [List.foldlM_cons] at replayed
      obtain ⟨middle, applied, rest⟩ := bind_eq_ok.mp replayed
      obtain ⟨reached, appliedRow, shown⟩ := Report.applyRow_replayOf safe here applied
      subst shown
      obtain ⟨last, ran, shown⟩ := ih later rest
      refine ⟨last, ?_, shown⟩
      rw [List.foldlM_cons, appliedRow]
      exact ran

end Report

/-- A position and its replay agree: whatever was sent to the position, the replay
of its events is accepted and arrives at its net position, if no fill was recorded
twice, the last adjustment stands in time where it stands in the stream, and
adjustments find a price. -/
theorem replay_reconciles [FloatFormat] (exact : FloatFormat.IsExact) {symbol : Symbol}
    (safe : isSafeSymbol symbol) {rowid : Nat → Nat} (increasing : StrictMono rowid)
    (commands : List (Time × PositionCommand))
    (positive : ∀ event ∈ Position.aggregate.sends commands [], event.PositiveFill)
    (once : ((Position.aggregate.sends commands []).filterMap fillId?).Nodup)
    (inTime : LastAdjustmentInTime
      (loadPositionEvents rowid symbol (Position.aggregate.sends commands [])))
    (priced : Priced (loadPositionEvents rowid symbol (Position.aggregate.sends commands []))) :
    ∃ report,
      buildReplay (loadPositionEvents rowid symbol (Position.aggregate.sends commands [])) =
        .ok report ∧
      ∀ entity, Position.aggregate.lifecycle (Position.aggregate.sends commands []) =
          .live entity →
        (report.bookOf symbol).finalSummary.openLongShares -
            (report.bookOf symbol).finalSummary.openShortShares = entity.net ∧
          (finalizeBook symbol (report.bookOf symbol) (some entity.net)).2.2 = [] := by
  generalize streamed : Position.aggregate.sends commands [] = stream at *
  generalize loaded : loadPositionEvents rowid symbol stream = rows at *
  have rowids : rows.Pairwise fun first second => first.rowid < second.rowid := by
    rw [← loaded]
    exact loadPositionEvents_rowids increasing
  have events : rows.map PositionEventRow.event = stream.filter isReplayed := by
    rw [← loaded]
    exact loadPositionEvents_events
  have reorders := reorders_insertionSort rowids
  have timed : ∀ row ∈ rows, (positionEventReplayTimestamp row.event).isSome :=
    fun row listed => replayed_timed (replayed_of_loaded (loaded ▸ listed))
  have ordered := orderedPositionEvents_ok timed
  generalize rows.insertionSort (fun first second => first.sortKey ≤ second.sortKey) = sorted
    at reorders ordered
  have fromRows {row : PositionEventRow} (listed : row ∈ sorted) : row ∈ rows :=
    reorders.perm.mem_iff.mp listed
  obtain ⟨replay, ran, kept⟩ := replayRows_kept sorted
    (fun row listed => positive _ (event_of_loaded (loaded ▸ fromRows listed)))
    (resolvable_of_priced reorders priced)
  obtain ⟨report, built, shown⟩ : ∃ report, sorted.foldlM Report.applyRow {} = .ok report ∧
      report.replayOf symbol = replay :=
    foldlM_replayOf safe (fun row listed => symbol_of_loaded (loaded ▸ fromRows listed)) ran
  have ids : (sorted.map PositionEventRow.event).filterMap fillId? |>.Nodup := by
    have perm := (reorders.perm.map PositionEventRow.event).filterMap fillId?
    rw [perm.nodup_iff, events, fillIds_replayed]
    exact once
  have net : (report.bookOf symbol).finalSummary.openLongShares -
      (report.bookOf symbol).finalSummary.openShortShares = Position.netLedger stream := by
    have book : report.bookOf symbol = replay.book := congrArg Replay.book shown
    rw [book, kept.balances.net, firstOccurrences_of_nodup ids, netLedger_reordered reorders rowids
      inTime, events, netLedger_replayed]
  refine ⟨report, ?_, ?_⟩
  · rw [buildReplay, ordered]
    exact built
  · intro entity live
    have balanced : Position.Balanced stream entity := .written exact
      (Position.admitting.written commands (by rw [streamed]) live)
    have same := net.trans balanced.net.symm
    refine ⟨same, ?_⟩
    simp [finalizeBook, same, epsilon]

section Runs

/-- The net position as the replay and as the position has it; nothing where the
replay is refused. -/
def netPositions [FloatFormat] (symbol : Symbol) (commands : List (Time × PositionCommand)) :
    Option ℚ × Option ℚ :=
  let stream := Position.aggregate.sends commands []
  ((buildReplay (loadPositionEvents id symbol stream)).toOption.map fun report =>
      (report.bookOf symbol).finalSummary.openLongShares -
        (report.bookOf symbol).finalSummary.openShortShares,
    (Position.aggregate.lifecycle stream).entity?.map Position.net)

/-- A fill that happened before an adjustment and is stored after it. -/
def lateRun : List (Time × PositionCommand) :=
  [(10000000, .acknowledgeOnChainFill "AAPL" (.dollarValue 1) ⟨1, 0⟩ 1 .buy 10 1000000),
    (20000000, .manuallyAdjustPosition "AAPL" 0 "recount" (.dollarValue 1) none none),
    (30000000, .acknowledgeOnChainFill "AAPL" (.dollarValue 1) ⟨2, 0⟩ 2 .buy 10 5000000)]

/-- An adjustment that needs no price under a threshold in shares. -/
def unpricedRun : List (Time × PositionCommand) :=
  [(10000000, .manuallyAdjustPosition "AAPL" 3 "seed" (.shares ⟨1, Positive.one_pos⟩) none none)]

/-- A fill that is sent again once the position has forgotten it. -/
def forgottenRun : List (Time × PositionCommand) :=
  [(10000000, .acknowledgeOnChainFill "AAPL" (.dollarValue 1) ⟨1, 0⟩ 1 .buy 10 1000000),
    (11000000, .settleOnChainFill ⟨1, 0⟩),
    (12000000, .acknowledgeOnChainFill "AAPL" (.dollarValue 1) ⟨2, 0⟩ 1 .buy 10 2000000),
    (13000000, .acknowledgeOnChainFill "AAPL" (.dollarValue 1) ⟨1, 0⟩ 1 .buy 10 1000000)]

/-- Neither late fills around an adjustment, nor adjustments without a price, nor
fills that are recorded twice are reconciled. -/
theorem not_reconciled :
    (∀ run ∈ [lateRun, unpricedRun, forgottenRun],
      ∀ event ∈ (@Position.aggregate .exact).sends run [], event.PositiveFill) ∧
    @netPositions .exact "AAPL" lateRun = (some 0, some 2) ∧
      @netPositions .exact "AAPL" unpricedRun = (none, some 3) ∧
      @netPositions .exact "AAPL" forgottenRun = (some 2, some 3) := by
  decide +kernel

/-- Fills that are stored late, on either side of an adjustment. -/
def orderlyRun : List (Time × PositionCommand) :=
  [(10000000, .acknowledgeOnChainFill "AAPL" (.dollarValue 1) ⟨1, 0⟩ 1 .buy 10 8000000),
    (11000000, .acknowledgeOnChainFill "AAPL" (.dollarValue 1) ⟨2, 0⟩ 2 .buy 10 3000000),
    (20000000, .manuallyAdjustPosition "AAPL" 5 "recount" (.dollarValue 1) none none),
    (30000000, .acknowledgeOnChainFill "AAPL" (.dollarValue 1) ⟨3, 0⟩ 2 .sell 10 25000000),
    (31000000, .acknowledgeOnChainFill "AAPL" (.dollarValue 1) ⟨4, 0⟩ 1 .sell 10 22000000)]

theorem orderlyRun_reconciles :
    ∃ report, buildReplay (loadPositionEvents id "AAPL"
        ((@Position.aggregate .exact).sends orderlyRun [])) = .ok report ∧
      ∀ entity, (@Position.aggregate .exact).lifecycle
          ((@Position.aggregate .exact).sends orderlyRun []) = .live entity →
        (report.bookOf "AAPL").finalSummary.openLongShares -
            (report.bookOf "AAPL").finalSummary.openShortShares = entity.net ∧
          (finalizeBook "AAPL" (report.bookOf "AAPL") (some entity.net)).2.2 = [] :=
  @replay_reconciles .exact FloatFormat.exact_isExact "AAPL" (by decide +kernel) id strictMono_id
    orderlyRun (by decide +kernel) (by decide +kernel) (by decide +kernel) (by decide +kernel)

end Runs

end Liquidity.Pnl
