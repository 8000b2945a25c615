import Liquidity.Pnl.Amounts

/-!
# Amounts as texts

A finite decimal is printed as its one canonical text, so texts are equal where amounts
are. The amounts of a replay, of its diagnostics and of the report are finite when the
stored ones are, and the assertion of the printer never fails on them.
-/

namespace Liquidity.Pnl

open DecimalText Grouping

/-! ## Diagnostics -/

/-- The shares that a note on allocations names for each symbol. -/
def allocatedShares (allocations : List UnmatchedOffchainAllocation) : KeyMap Symbol ℚ :=
  groupBy (·.symbol) (fun shares allocation => shares + allocation.shares) 0 allocations

def PnlWarning.amounts : PnlWarning → List ℚ
  | .matchedAboveOriginal _ _ matchedShares originalShares => [matchedShares, originalShares]
  | _ => []

def PositionReplayDelta.amounts (delta : PositionReplayDelta) : List ℚ :=
  [delta.replayNet, delta.positionNet]

/-- What the warnings on a book print. -/
def bookAmounts (symbol : Symbol) (book : SymbolBook) (positionNet : Option ℚ) : List ℚ :=
  let (_, audit, deltas) := finalizeBook symbol book positionNet
  audit.flatMap PnlWarning.amounts ++ deltas.flatMap PositionReplayDelta.amounts

/-- What the warnings on a replay print. -/
def diagnosedAmounts (view : PositionView) (report : Report) (symbols : List Symbol) : List ℚ :=
  ((allocatedShares report.unmatchedOffchainAllocations).entries.map fun entry => entry.2) ++
    symbols.flatMap fun symbol =>
      bookAmounts symbol (report.bookOf symbol) (view.nets.lookup symbol)

/-- The amounts of a report that is still replayed: those of its entries, of the open
lots and of the books. -/
def Report.amounts (report : Report) (symbols : List Symbol) : List ℚ :=
  report.entries.flatMap PnlEntry.amounts ++
    symbols.flatMap fun symbol =>
      ((report.bookOf symbol).longLots ++ (report.bookOf symbol).shortLots).flatMap
          (fun lot => [lot.remainingShares, lot.price]) ++
        (summaryToDto (replaySummary report symbol)).amounts

section Within

variable {S : Subring ℚ} {report : Report}

theorem bookAmounts_within {book : SymbolBook} (within : book.Within S) (symbol : Symbol)
    {positionNet : Option ℚ} (also : ∀ net ∈ positionNet, net ∈ S) :
    ∀ amount ∈ bookAmounts symbol book positionNet, amount ∈ S := by
  have summary := within.finalSummary
  have replayNet := S.sub_mem summary.openLongShares summary.openShortShares
  simp only [bookAmounts, finalizeBook, List.forall_mem_append]
  constructor
  · intro amount listed
    obtain ⟨warning, audited, own⟩ := List.mem_flatMap.mp listed
    obtain ⟨⟨tradeId, matchedShares⟩, entered, warned⟩ := List.mem_filterMap.mp audited
    have matched := within.matchedOnchainShares tradeId matchedShares
      (AList.mem_lookup_iff.mpr entered)
    cases known : book.originalOnchainShares.lookup tradeId with
    | none =>
        rw [known] at warned
        cases warned
    | some originalShares =>
        have original := within.originalOnchainShares tradeId originalShares known
        rw [known] at warned
        simp only at warned
        split at warned
        case isTrue =>
            cases warned
            simp only [PnlWarning.amounts, List.mem_cons, List.not_mem_nil, or_false] at own
            obtain rfl | rfl := own
            · exact matched
            · exact original
        case isFalse => cases warned
  · intro amount listed
    obtain ⟨delta, noted, own⟩ := List.mem_flatMap.mp listed
    cases positionNet with
    | none => cases noted
    | some net =>
        simp only at noted
        split at noted
        case isTrue =>
            rw [List.mem_singleton.mp noted] at own
            simp only [PositionReplayDelta.amounts, List.mem_cons, List.not_mem_nil,
              or_false] at own
            obtain rfl | rfl := own
            · exact replayNet
            · exact also _ rfl
        case isFalse => cases noted

theorem PositionView.applyRow_within {view next : PositionView} {row : PositionViewRow}
    (within : Every (· ∈ S) view.nets)
    (stored : ∀ amount ∈ row.netPosition.amounts, amount ∈ S)
    (applied : view.applyRow row = .ok next) : Every (· ∈ S) next.nets := by
  rw [PositionView.applyRow] at applied
  split at applied
  case isTrue =>
      cases applied
      exact within
  case isFalse =>
      dsimp only at applied
      cases own : row.netPosition with
      | absent =>
          rw [own] at applied
          cases applied
          exact within
      | decimal net =>
          rw [own] at applied stored
          cases applied
          exact within.insert _ (stored net (List.mem_singleton_self _))
      | unreadable =>
          rw [own] at applied
          cases applied

theorem parsePositionView_within {rows : List PositionViewRow} {view : PositionView}
    (stored : ∀ row ∈ rows, ∀ amount ∈ row.netPosition.amounts, amount ∈ S)
    (parsed : parsePositionView rows = .ok view) : Every (· ∈ S) view.nets :=
  foldlM_invariant (P := fun view => Every (· ∈ S) view.nets) every_empty
    (fun row listed _ _ before applied =>
      PositionView.applyRow_within before (stored row listed) applied) parsed

theorem diagnosedAmounts_within {view : PositionView} (within : report.Within S)
    (also : Every (· ∈ S) view.nets) (symbols : List Symbol) :
    ∀ amount ∈ diagnosedAmounts view report symbols, amount ∈ S := by
  have shares : Every (· ∈ S) (allocatedShares report.unmatchedOffchainAllocations) :=
    every_groupBy S.zero_mem fun _ before allocation listed =>
      S.add_mem before (within.unmatchedOffchainAllocations allocation listed)
  rw [diagnosedAmounts, List.forall_mem_append]
  constructor
  · intro amount listed
    obtain ⟨⟨symbol, amount⟩, entered, rfl⟩ := List.mem_map.mp listed
    exact shares symbol amount (AList.mem_lookup_iff.mpr entered)
  · intro amount listed
    obtain ⟨symbol, _, own⟩ := List.mem_flatMap.mp listed
    exact bookAmounts_within (within.books symbol) symbol
      (fun net held => also symbol net held) amount own

theorem Report.Within.amounts (within : report.Within S) (symbols : List Symbol) :
    ∀ amount ∈ report.amounts symbols, amount ∈ S := by
  rw [Report.amounts, List.forall_mem_append]
  constructor
  · intro amount listed
    obtain ⟨entry, listed, own⟩ := List.mem_flatMap.mp listed
    exact (within.entries entry listed).amounts amount own
  · intro amount listed
    obtain ⟨symbol, _, own⟩ := List.mem_flatMap.mp listed
    have book := within.books symbol
    obtain opened | summed := List.mem_append.mp own
    · obtain ⟨lot, among, own⟩ := List.mem_flatMap.mp opened
      have lots : lot.Within S :=
        (List.mem_append.mp among).elim (book.longLots lot) (book.shortLots lot)
      simp only [List.mem_cons, List.not_mem_nil, or_false] at own
      obtain rfl | rfl := own
      · exact lots.remainingShares
      · exact lots.price
    · exact summaryToDto_within book.finalSummary amount summed

end Within

/-! ## Printing -/

/-- The text is printed: the printer ends, and its assertion holds. -/
def Prints (amount : ℚ) : Prop := ∃ text, fmtDecimal amount = some (.ok text)

theorem prints_of_isFinite {amount : ℚ} (finite : IsFinite amount) : Prints amount := by
  obtain ⟨text, _, _, printed⟩ := fmtDecimal_eq finite
  exact ⟨_, printed⟩

/-- A fee is matched by its own amount. -/
theorem feeOverlapKey_finite {calendar : Calendar} {category : CostCategory}
    {entry : CostEntryInternal} (finite : IsFinite entry.amountUsd) :
    ∀ key ∈ feeOverlapKey calendar category entry, IsFinite key.amountUsd := by
  intro key keyed
  rw [feeOverlapKey] at keyed
  split at keyed
  case isTrue => cases keyed
  case isFalse =>
      obtain ⟨symbol, _, rfl⟩ := Option.map_eq_some_iff.mp keyed
      exact finite

/-- Decimals print exactly, whatever reads plain decimal texts as what they say. -/
theorem fmtDecimal_exact (fromStr : String → Option ℚ)
    (reads : ∀ chars value, read chars = some value →
      fromStr (String.ofList chars) = some value) :
    (∀ amount, IsFinite amount → ∃ text : Text, text.Canonical ∧ text.value = amount ∧
      fmtDecimal amount = some (.ok (String.ofList text.chars)) ∧
      fromStr (String.ofList text.chars) = some amount ∧
      ∀ other : Text, other.Canonical → other.value = amount → other = text) ∧
    (∀ first second, IsFinite first → IsFinite second →
      (fmtDecimal first = fmtDecimal second ↔ first = second)) ∧
    (∀ calendar persisted listed, IsFinite persisted.amountUsd → IsFinite listed.amountUsd →
      (tokenizationFeeOverlapKeyText calendar persisted = alpacaFeeOverlapKeyText calendar listed ↔
        tokenizationFeeOverlapKey calendar persisted = alpacaFeeOverlapKey calendar listed)) ∧
    (∀ first second, IsFinite first → IsFinite second →
      IsFinite (first + second) ∧ IsFinite (first - second) ∧ IsFinite (first * second)) ∧
    (∀ (rows : List PositionEventRow) (report : Report) (symbols : List Symbol),
      (∀ row ∈ rows, ∀ amount ∈ storedAmounts row.event, IsFinite amount) →
      rows.foldlM Report.applyRow {} = .ok report →
      ∀ amount ∈ report.amounts symbols, Prints amount) ∧
    ∀ calendar eventRows positionRows costRows alpacaActivities query symbols,
      StoredWithin finiteDecimals eventRows positionRows costRows alpacaActivities →
      (∀ view report, parsePositionView positionRows = .ok view →
        buildReplay (selectedRows symbols eventRows) = .ok report →
        ∀ books, ∀ amount ∈ diagnosedAmounts view report books, Prints amount) ∧
      (∀ replay, buildCostEntries costRows = .ok replay →
        ∀ entry ∈ replay.entries, Prints entry.amountUsd) ∧
      (∀ entries warnings,
        buildAlpacaActivityCostEntries calendar alpacaActivities = .ok (entries, warnings) →
        ∀ entry ∈ entries, Prints entry.amountUsd) ∧
      ∀ response, buildPnlResponseFromRows calendar eventRows positionRows costRows
        alpacaActivities query symbols = .ok response →
        ∀ amount ∈ response.amounts, Prints amount := by
  refine ⟨?_, fun _ _ => fmtDecimal_inj, ?_, ?_, ?_, ?_⟩
  · intro amount finite
    obtain ⟨text, canonical, worth, printed⟩ := fmtDecimal_eq finite
    have readBack := read_chars canonical.whole.all canonical.whole.nonempty canonical.fraction
    rw [worth] at readBack
    refine ⟨text, canonical, worth, printed, reads _ _ readBack, ?_⟩
    intro other also same
    exact Text.Canonical.eq also canonical (same.trans worth.symm)
  · intro calendar persisted listed finite also
    exact keyText_inj (feeOverlapKey_finite finite) (feeOverlapKey_finite also)
  · intro first second finite also
    exact ⟨finite.add also, finite.sub also, finite.mul also⟩
  · intro rows report symbols stored ran amount listed
    have within : report.Within finiteDecimals :=
      foldlM_applyRow_within Report.within_empty stored ran
    exact prints_of_isFinite (within.amounts symbols amount listed)
  · intro calendar eventRows positionRows costRows alpacaActivities query symbols stored
    refine ⟨?_, ?_, ?_, ?_⟩
    · intro view report parsed built books amount listed
      have within := buildReplay_within (stored.selected symbols) built
      have nets := parsePositionView_within stored.positions parsed
      exact prints_of_isFinite (diagnosedAmounts_within within nets books amount listed)
    · intro replay built entry listed
      exact prints_of_isFinite (buildCostEntries_within stored.costs built entry listed)
    · intro entries warnings built entry listed
      exact prints_of_isFinite (buildAlpacaActivityCostEntries_mem stored.activities built entry listed)
    · intro response built amount listed
      exact prints_of_isFinite (buildPnlResponseFromRows_within stored built amount listed)

/-- The reader of plain texts reads what is printed. -/
theorem fmtDecimal_exact_read : ∃ text : Text, text.Canonical ∧ text.value = -1 / 8 ∧
    fmtDecimal (-1 / 8) = some (.ok (String.ofList text.chars)) ∧
    read (String.ofList text.chars).toList = some (-1 / 8) ∧
    ∀ other : Text, other.Canonical → other.value = -1 / 8 → other = text :=
  (fmtDecimal_exact (fun text => read text.toList) (fun chars value is => by
    rw [String.toList_ofList, is])).1 (-1 / 8) ⟨3, 0, by decide +kernel⟩

end Liquidity.Pnl
