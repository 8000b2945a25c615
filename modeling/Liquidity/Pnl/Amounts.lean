import Liquidity.Pnl.Printed

/-!
# The amounts of a report

The summaries, rows, windows and costs of a report are sums and differences of the
amounts of the replay and of the costs. What holds of a ring with the stored amounts
holds of all that the report prints.
-/

namespace Liquidity.Pnl

open Grouping

variable {S : Subring ℚ}

/-! ## What is printed -/

def PnlSummary.amounts (summary : PnlSummary) : List ℚ :=
  [summary.counterTradePnlUsd, summary.onchainNettingPnlUsd,
    summary.directionalInventoryBaselinePnlUsd, summary.directionalImbalanceExcessPnlUsd,
    summary.directionalExposurePnlUsd, summary.totalPnlUsd, summary.grossRealizedPnlUsd,
    summary.trackedCostsUsd, summary.trackedRevenueUsd, summary.netRealizedPnlUsd,
    summary.realizedPnlUsd, summary.matchedShares, summary.onchainNotionalUsd,
    summary.offchainNotionalUsd, summary.inventoryDriftShares, summary.inventoryDriftUsd,
    summary.openLongShares, summary.openShortShares, summary.unmatchedOffchainShares,
    summary.unmatchedOffchainNotionalUsd]

def PnlSymbolSummary.amounts (row : PnlSymbolSummary) : List ℚ :=
  [row.counterTradePnlUsd, row.onchainNettingPnlUsd, row.directionalInventoryBaselinePnlUsd,
    row.directionalImbalanceExcessPnlUsd, row.directionalExposurePnlUsd, row.totalPnlUsd,
    row.grossRealizedPnlUsd, row.trackedCostsUsd, row.trackedRevenueUsd, row.netRealizedPnlUsd,
    row.realizedPnlUsd, row.matchedShares, row.inventoryDriftShares, row.inventoryDriftUsd,
    row.openLongShares, row.openShortShares, row.unmatchedOffchainShares]

def PnlEntry.amounts (entry : PnlEntry) : List ℚ :=
  [entry.openingPriceUsd, entry.closingPriceUsd, entry.shares, entry.spreadUsd,
    entry.realizedPnlUsd] ++ entry.onchainPriceUsdc.toList ++ entry.offchainPriceUsd.toList

def PnlCostSummary.amounts (costs : PnlCostSummary) : List ℚ :=
  [costs.totalTrackedCostsUsd, costs.totalTrackedRevenueUsd, costs.counterTradeCostsUsd,
    costs.onchainNettingCostsUsd, costs.directionalExposureCostsUsd, costs.genericCostsUsd,
    costs.dividendRevenueUsd, costs.tokenizationFeesUsd, costs.cctpFeesUsd, costs.brokerFeesUsd,
    costs.marginInterestUsd]

def PnlWindowSymbol.amounts (row : PnlWindowSymbol) : List ℚ :=
  [row.counterTradePnlUsd, row.onchainNettingPnlUsd, row.directionalInventoryBaselinePnlUsd,
    row.directionalImbalanceExcessPnlUsd, row.directionalExposurePnlUsd, row.totalPnlUsd]

def PnlResponse.amounts (response : PnlResponse) : List ℚ :=
  response.summary.amounts ++ response.costs.amounts ++
    response.symbols.flatMap PnlSymbolSummary.amounts ++
    response.entries.flatMap PnlEntry.amounts ++
    response.costEntries.map (·.amountUsd) ++
    response.windows.flatMap fun window => window.symbols.flatMap PnlWindowSymbol.amounts

/-! ## What is stored -/

def PersistedDecimal.amounts : PersistedDecimal → List ℚ
  | decimal value => [value]
  | _ => []

def CostEventRow.storedAmounts (row : CostEventRow) : List ℚ :=
  match row.payload with
  | .nested record => record.fee.amounts
  | _ => []

/-- The amounts that a report reads are within a ring. -/
structure StoredWithin (S : Subring ℚ) (eventRows : List PositionEventRow)
    (positionRows : List PositionViewRow) (costRows : List CostEventRow)
    (alpacaActivities : List AccountActivity) : Prop where
  events : ∀ row ∈ eventRows, ∀ amount ∈ storedAmounts row.event, amount ∈ S
  positions : ∀ row ∈ positionRows, ∀ amount ∈ row.netPosition.amounts, amount ∈ S
  costs : ∀ row ∈ costRows, ∀ amount ∈ row.storedAmounts, amount ∈ S
  activities : ∀ activity ∈ alpacaActivities, ∀ amount ∈ activity.netAmount.amounts, amount ∈ S

/-! ## Summaries -/

section Summaries

variable {summary : SummaryAcc} {book : SymbolBook}

theorem SummaryAcc.Within.finalizeLot (within : summary.Within S) {lot : Lot}
    (also : lot.Within S) : (finalizeLot summary lot).Within S := by
  have shares := also.remainingShares
  have notional := S.mul_mem also.remainingShares also.price
  obtain ⟨_, side, _, _, _, _, venue⟩ := lot
  cases side with
  | long =>
      by_cases offchain : venue = .offchain
      · simp only [Pnl.finalizeLot, offchain, if_true]
        exact { within with
          openLongShares := S.add_mem within.openLongShares shares
          openLongNotionalUsd := S.add_mem within.openLongNotionalUsd notional
          unmatchedOffchainBuyShares := S.add_mem within.unmatchedOffchainBuyShares shares
          unmatchedOffchainBuyNotionalUsd :=
            S.add_mem within.unmatchedOffchainBuyNotionalUsd notional }
      · simp only [Pnl.finalizeLot, offchain, if_false]
        exact { within with
          openLongShares := S.add_mem within.openLongShares shares
          openLongNotionalUsd := S.add_mem within.openLongNotionalUsd notional }
  | short =>
      by_cases offchain : venue = .offchain
      · simp only [Pnl.finalizeLot, offchain, if_true]
        exact { within with
          openShortShares := S.add_mem within.openShortShares shares
          openShortNotionalUsd := S.add_mem within.openShortNotionalUsd notional
          unmatchedOffchainSellShares := S.add_mem within.unmatchedOffchainSellShares shares
          unmatchedOffchainSellNotionalUsd :=
            S.add_mem within.unmatchedOffchainSellNotionalUsd notional }
      · simp only [Pnl.finalizeLot, offchain, if_false]
        exact { within with
          openShortShares := S.add_mem within.openShortShares shares
          openShortNotionalUsd := S.add_mem within.openShortNotionalUsd notional }

theorem SummaryAcc.Within.finalizeLots (within : summary.Within S) {lots : List Lot}
    (opened : ∀ lot ∈ lots, lot.Within S) : (finalizeLots summary lots).Within S :=
  List.foldlRecOn lots Pnl.finalizeLot within fun _ before lot listed =>
    before.finalizeLot (opened lot listed)

theorem SymbolBook.Within.finalSummary (within : book.Within S) : book.finalSummary.Within S :=
  (within.summary.finalizeLots within.longLots).finalizeLots within.shortLots

theorem addSummary_within {target source : SummaryAcc} (within : target.Within S)
    (also : source.Within S) : (addSummary target source).Within S where
  counterTradePnlUsd := S.add_mem within.counterTradePnlUsd also.counterTradePnlUsd
  onchainNettingPnlUsd := S.add_mem within.onchainNettingPnlUsd also.onchainNettingPnlUsd
  directionalInventoryBaselinePnlUsd :=
    S.add_mem within.directionalInventoryBaselinePnlUsd also.directionalInventoryBaselinePnlUsd
  directionalImbalanceExcessPnlUsd :=
    S.add_mem within.directionalImbalanceExcessPnlUsd also.directionalImbalanceExcessPnlUsd
  directionalExposurePnlUsd :=
    S.add_mem within.directionalExposurePnlUsd also.directionalExposurePnlUsd
  realizedPnlUsd := S.add_mem within.realizedPnlUsd also.realizedPnlUsd
  matchedShares := S.add_mem within.matchedShares also.matchedShares
  onchainNotionalUsd := S.add_mem within.onchainNotionalUsd also.onchainNotionalUsd
  offchainNotionalUsd := S.add_mem within.offchainNotionalUsd also.offchainNotionalUsd
  openLongShares := S.add_mem within.openLongShares also.openLongShares
  openShortShares := S.add_mem within.openShortShares also.openShortShares
  openLongNotionalUsd := S.add_mem within.openLongNotionalUsd also.openLongNotionalUsd
  openShortNotionalUsd := S.add_mem within.openShortNotionalUsd also.openShortNotionalUsd
  unmatchedOffchainBuyShares :=
    S.add_mem within.unmatchedOffchainBuyShares also.unmatchedOffchainBuyShares
  unmatchedOffchainSellShares :=
    S.add_mem within.unmatchedOffchainSellShares also.unmatchedOffchainSellShares
  unmatchedOffchainBuyNotionalUsd :=
    S.add_mem within.unmatchedOffchainBuyNotionalUsd also.unmatchedOffchainBuyNotionalUsd
  unmatchedOffchainSellNotionalUsd :=
    S.add_mem within.unmatchedOffchainSellNotionalUsd also.unmatchedOffchainSellNotionalUsd

theorem totalPnl_mem (within : summary.Within S) : totalPnl summary ∈ S :=
  S.add_mem (S.add_mem (S.add_mem within.counterTradePnlUsd within.onchainNettingPnlUsd)
    within.directionalInventoryBaselinePnlUsd) within.directionalImbalanceExcessPnlUsd

theorem summaryToDto_within (within : summary.Within S) :
    ∀ amount ∈ (summaryToDto summary).amounts, amount ∈ S := by
  have total := totalPnl_mem within
  have exposure := S.add_mem within.directionalInventoryBaselinePnlUsd
    within.directionalImbalanceExcessPnlUsd
  simp only [PnlSummary.amounts, summaryToDto, List.forall_mem_cons]
  refine ⟨within.counterTradePnlUsd, within.onchainNettingPnlUsd,
    within.directionalInventoryBaselinePnlUsd, within.directionalImbalanceExcessPnlUsd, exposure,
    total, total, S.zero_mem, S.zero_mem, total, within.realizedPnlUsd, within.matchedShares,
    within.onchainNotionalUsd, within.offchainNotionalUsd, ?_, ?_, within.openLongShares,
    within.openShortShares, ?_, ?_, by simp⟩
  · exact S.sub_mem within.openLongShares within.openShortShares
  · exact S.sub_mem within.openLongNotionalUsd within.openShortNotionalUsd
  · exact S.add_mem within.unmatchedOffchainBuyShares within.unmatchedOffchainSellShares
  · exact S.add_mem within.unmatchedOffchainBuyNotionalUsd
      within.unmatchedOffchainSellNotionalUsd

/-- A row of a symbol has amounts of the summary only. -/
theorem symbolSummaryToDto_within (symbol : Symbol) (within : summary.Within S) :
    ∀ amount ∈ (symbolSummaryToDto symbol summary).amounts, amount ∈ S := by
  intro amount listed
  refine summaryToDto_within within amount ?_
  simp only [PnlSymbolSummary.amounts, symbolSummaryToDto, PnlSummary.amounts, List.mem_cons]
    at listed ⊢
  tauto

theorem SummaryAcc.Within.withMatchedLotCount (within : summary.Within S) (count : Nat) :
    SummaryAcc.Within S { summary with matchedLotCount := count } :=
  { within with }

theorem SummaryAcc.Within.addEntry (within : summary.Within S) {entry : PnlEntry}
    (also : entry.Within S) : (addEntry summary entry).Within S := by
  have matched : SummaryAcc.Within S
      { summary with matchedShares := summary.matchedShares + entry.shares } :=
    { within with matchedShares := S.add_mem within.matchedShares also.shares }
  have opening := matched.addVenueNotional entry.openingVenue
    (S.mul_mem also.shares also.openingPriceUsd)
  have closing := opening.addVenueNotional entry.closingVenue
    (S.mul_mem also.shares also.closingPriceUsd)
  exact (closing.withMatchedLotCount _).addRealizedPnl entry.pnlBucket also.realizedPnlUsd

theorem summariesBySymbol_within {entries : List PnlEntry}
    (within : ∀ entry ∈ entries, entry.Within S) :
    Every (SummaryAcc.Within S) (summariesBySymbol entries) :=
  every_groupBy SummaryAcc.within_empty fun _ before entry listed =>
    before.addEntry (within entry listed)

theorem summaryFromEntries_within {entries : List PnlEntry}
    (within : ∀ entry ∈ entries, entry.Within S) :
    (∀ amount ∈ (summaryFromEntries entries).summary.amounts, amount ∈ S) ∧
      ∀ row ∈ (summaryFromEntries entries).symbols, ∀ amount ∈ row.amounts, amount ∈ S := by
  have each := summariesBySymbol_within within
  constructor
  · refine summaryToDto_within (List.foldlRecOn _ _ SummaryAcc.within_empty ?_)
    intro total before row listed
    exact addSummary_within before (each _ _ (mem_sortedEntries.mp listed))
  · intro row listed
    obtain ⟨⟨symbol, summary⟩, among, rfl⟩ := List.mem_map.mp listed
    exact symbolSummaryToDto_within symbol (each _ _ (mem_sortedEntries.mp among))

end Summaries

/-! ## Rows of symbols -/

section Rows

/-- All amounts of a row. -/
def PnlSymbolSummary.Within (S : Subring ℚ) (row : PnlSymbolSummary) : Prop :=
  ∀ amount ∈ row.amounts, amount ∈ S

theorem emptySymbolSummary_within (symbol : Symbol) : (emptySymbolSummary symbol).Within S :=
  symbolSummaryToDto_within symbol SummaryAcc.within_empty

theorem PnlSymbolSummary.Within.getD {existing : Option PnlSymbolSummary}
    (within : ∀ row ∈ existing, row.Within S) (symbol : Symbol) :
    (existing.getD (emptySymbolSummary symbol)).Within S := by
  cases existing with
  | none => exact emptySymbolSummary_within symbol
  | some row => exact within row rfl

theorem withSymbolReplayExposure_within {filtered replay : PnlSymbolSummary}
    (within : filtered.Within S) (also : replay.Within S) :
    (withSymbolReplayExposure filtered replay).Within S := by
  intro amount listed
  have either : amount ∈ filtered.amounts ∨ amount ∈ replay.amounts := by
    simp only [PnlSymbolSummary.amounts, withSymbolReplayExposure, List.mem_cons] at listed ⊢
    tauto
  exact either.elim (within amount) (also amount)

theorem mergeSymbolReplayExposure_within {filteredSymbols replaySymbols : List PnlSymbolSummary}
    (within : ∀ row ∈ filteredSymbols, row.Within S) (also : ∀ row ∈ replaySymbols, row.Within S) :
    ∀ row ∈ mergeSymbolReplayExposure filteredSymbols replaySymbols, row.Within S := by
  have merged : Every (PnlSymbolSummary.Within S)
      (replaySymbols.foldl (decideFor (·.symbol) exposeRow) (rowsBySymbol filteredSymbols)) := by
    refine (every_fileBy within).foldl_decideFor ?_
    intro replay listed existing row held exposed
    rw [exposeRow] at exposed
    split at exposed
    case isTrue =>
        cases exposed
        exact withSymbolReplayExposure_within (PnlSymbolSummary.Within.getD held _)
          (also replay listed)
    case isFalse => cases exposed
  intro row listed
  obtain ⟨symbol, held⟩ := mem_sortedValues.mp listed
  exact merged symbol row held

theorem resetRow_within {row : PnlSymbolSummary} (within : row.Within S) :
    (resetRow row).Within S := by
  intro amount listed
  have either : amount ∈ row.amounts ∨ amount = 0 := by
    simp only [PnlSymbolSummary.amounts, resetRow, List.mem_cons] at listed ⊢
    tauto
  obtain own | rfl := either
  · exact within amount own
  · exact S.zero_mem

theorem chargeRow_within {cost revenue : ℚ} {existing : PnlSymbolSummary} (costs : cost ∈ S)
    (revenues : revenue ∈ S) (within : existing.Within S) :
    (chargeRow cost revenue existing).Within S := by
  intro amount listed
  have total : existing.totalPnlUsd ∈ S := within _ (by simp [PnlSymbolSummary.amounts])
  have either : amount ∈ existing.amounts ∨ amount = cost ∨ amount = revenue ∨
      amount = existing.totalPnlUsd - cost + revenue := by
    simp only [PnlSymbolSummary.amounts, chargeRow, List.mem_cons] at listed ⊢
    tauto
  obtain own | rfl | rfl | rfl := either
  · exact within amount own
  · exact costs
  · exact revenues
  · exact S.add_mem (S.sub_mem total costs) revenues

theorem amountsBySymbol_within {costEntries : List CostEntryInternal} (effect : AccountingEffect)
    (within : ∀ entry ∈ costEntries, entry.amountUsd ∈ S) (symbol : Symbol) :
    ((amountsBySymbol effect costEntries).lookup symbol).getD 0 ∈ S := by
  have each : Every (· ∈ S) (amountsBySymbol effect costEntries) := by
    refine every_groupBy S.zero_mem ?_
    intro amount before named listed
    obtain ⟨entry, among, named⟩ := List.mem_filterMap.mp listed
    rw [namedAmount] at named
    split at named
    case isTrue =>
        obtain ⟨symbol, _, rfl⟩ := Option.map_eq_some_iff.mp named
        exact S.add_mem before (within entry among)
    case isFalse => cases named
  cases held : (amountsBySymbol effect costEntries).lookup symbol with
  | none => exact S.zero_mem
  | some amount => exact each symbol amount held

theorem withDirectSymbolCosts_within {symbols : List PnlSymbolSummary}
    {costEntries : List CostEntryInternal} (within : ∀ row ∈ symbols, row.Within S)
    (also : ∀ entry ∈ costEntries, entry.amountUsd ∈ S) :
    ∀ row ∈ withDirectSymbolCosts symbols costEntries, row.Within S := by
  rw [withDirectSymbolCosts]
  dsimp only
  split
  case isTrue => exact within
  case isFalse =>
      intro row listed
      obtain ⟨symbol, held⟩ := mem_sortedValues.mp listed
      refine (every_fileBy within).foldl_decideFor ?_ symbol row held
      intro symbol _ existing row known charged
      cases charged
      exact chargeRow_within (amountsBySymbol_within _ also _) (amountsBySymbol_within _ also _)
        (PnlSymbolSummary.Within.getD known symbol)

end Rows

/-! ## Windows -/

section Windows

structure WindowTally.Within (S : Subring ℚ) (tally : WindowTally) : Prop where
  counterTrade : tally.counterTrade ∈ S
  onchainNetting : tally.onchainNetting ∈ S
  directionalExcess : tally.directionalExcess ∈ S

theorem WindowTally.Within.add {tally : WindowTally} (within : tally.Within S) {entry : PnlEntry}
    (also : entry.Within S) (symbol : Symbol) : (WindowTally.add symbol tally entry).Within S := by
  have realized := also.realizedPnlUsd
  rw [WindowTally.add]
  split
  case isTrue => exact within
  case isFalse =>
      cases entry.pnlBucket with
      | counterTrade =>
          exact { within with counterTrade := S.add_mem within.counterTrade realized }
      | onchainNetting =>
          exact { within with onchainNetting := S.add_mem within.onchainNetting realized }
      | directionalExposure =>
          exact { within with directionalExcess := S.add_mem within.directionalExcess realized }

theorem windowSymbolRow_within (symbol : Symbol) {entries : List PnlEntry}
    (within : ∀ entry ∈ entries, entry.Within S) :
    ∀ amount ∈ (windowSymbolRow symbol entries).amounts, amount ∈ S := by
  have tally : (entries.foldl (WindowTally.add symbol) {}).Within S :=
    List.foldlRecOn entries _ ⟨S.zero_mem, S.zero_mem, S.zero_mem⟩ fun _ before entry listed =>
      before.add (within entry listed) symbol
  simp only [PnlWindowSymbol.amounts, windowSymbolRow, List.forall_mem_cons]
  refine ⟨tally.counterTrade, tally.onchainNetting, S.zero_mem, tally.directionalExcess, ?_, ?_,
    by simp⟩
  · exact S.add_mem S.zero_mem tally.directionalExcess
  · exact S.add_mem (S.add_mem (S.add_mem tally.counterTrade tally.onchainNetting) S.zero_mem)
      tally.directionalExcess

theorem collectBy_subset {κ : Type} [DecidableEq κ] (key : PnlEntry → κ)
    (entries : List PnlEntry) : Every (· ⊆ entries) (collectBy key entries) := by
  refine every_groupBy (List.nil_subset _) ?_
  intro collected before entry listed other among
  obtain among | among := List.mem_append.mp among
  · exact before among
  · rwa [List.mem_singleton.mp among]

theorem buildWindows_within (calendar : Calendar) {entries : List PnlEntry} (symbols : List Symbol)
    (within : ∀ entry ∈ entries, entry.Within S) :
    ∀ window ∈ buildWindows calendar entries symbols, ∀ row ∈ window.symbols,
      ∀ amount ∈ row.amounts, amount ∈ S := by
  intro window listed row among
  obtain ⟨⟨date, dayEntries⟩, day, rfl⟩ := List.mem_map.mp listed
  obtain ⟨symbol, _, rfl⟩ := List.mem_map.mp among
  have ofDay := collectBy_subset (dayOf calendar) entries date dayEntries
    (mem_sortedEntries.mp day)
  apply windowSymbolRow_within
  intro entry counted
  cases held : (collectBy (·.symbol) dayEntries).lookup symbol with
  | none =>
      rw [held] at counted
      cases counted
  | some collected =>
      rw [held] at counted
      exact within entry (ofDay (collectBy_subset _ dayEntries symbol collected held counted))

end Windows

/-! ## Costs -/

section Costs

theorem PersistedDecimal.read_mem {field : PersistedDecimal} {rowid : Int} {name : String}
    {value : ℚ} (within : ∀ amount ∈ field.amounts, amount ∈ S)
    (taken : field.read rowid name = .ok (some value)) : value ∈ S := by
  cases field with
  | decimal own =>
      cases taken
      exact within value (List.mem_singleton_self _)
  | _ => cases taken

/-- The entries of a replay of costs. -/
def CostReplay.Within (S : Subring ℚ) (replay : CostReplay) : Prop :=
  ∀ entry ∈ replay.entries, entry.amountUsd ∈ S

variable {replay next : CostReplay} {row : CostEventRow} {entry : CostEntryInternal}

theorem CostReplay.Within.append (within : replay.Within S) (also : entry.amountUsd ∈ S) :
    CostReplay.Within S { replay with entries := replay.entries ++ [entry] } := by
  intro other listed
  obtain listed | listed := List.mem_append.mp listed
  · exact within other listed
  · rwa [List.mem_singleton.mp listed]

theorem CostReplay.Within.countTokenizationFee (within : replay.Within S)
    (also : entry.amountUsd ∈ S) : (replay.countTokenizationFee row entry).Within S := by
  rw [CostReplay.countTokenizationFee]
  split
  case isTrue => exact within
  case isFalse => exact within.append also

theorem parseTokenizationTerminal_mem {symbol : Option Symbol}
    (stored : ∀ amount ∈ row.storedAmounts, amount ∈ S)
    (parsed : parseTokenizationTerminal row symbol = .ok (some entry)) : entry.amountUsd ∈ S := by
  rw [parseTokenizationTerminal] at parsed
  cases payload : row.payload with
  | nested terminal =>
      rw [payload] at parsed
      obtain ⟨fees, taken, parsed⟩ := bind_eq_ok.mp parsed
      have within : ∀ amount ∈ terminal.fee.amounts, amount ∈ S := by
        simpa [CostEventRow.storedAmounts, payload] using stored
      cases occurred : terminal.occurredAt with
      | none =>
          rw [occurred] at parsed
          cases parsed
      | some occurredAt =>
          rw [occurred] at parsed
          cases fees with
          | none => cases parsed
          | some fees =>
              simp only at parsed
              split at parsed
              case isTrue => cases parsed
              case isFalse =>
                  cases parsed
                  exact PersistedDecimal.read_mem within taken
  | _ =>
      rw [payload] at parsed
      cases parsed

theorem parseTokenizedEquityMintCostEvent_within {read : Option CostEntryInternal}
    (within : replay.Within S) (stored : ∀ amount ∈ row.storedAmounts, amount ∈ S)
    (parsed : parseTokenizedEquityMintCostEvent replay row = .ok (read, next)) :
    next.Within S ∧ ∀ entry ∈ read, entry.amountUsd ∈ S := by
  have terminal : ∀ {symbol}, (parseTokenizationTerminal row symbol >>= fun entry =>
      (Except.ok (entry, replay) : Except CostError _)) = .ok (read, next) →
      next.Within S ∧ ∀ entry ∈ read, entry.amountUsd ∈ S := by
    intro symbol parsed
    obtain ⟨_, ended, same⟩ := bind_eq_ok.mp parsed
    cases same
    refine ⟨within, fun entry listed => ?_⟩
    rw [Option.mem_def.mp listed] at ended
    exact parseTokenizationTerminal_mem stored ended
  rw [parseTokenizedEquityMintCostEvent] at parsed
  cases eventType : row.eventType with
  | mintRequested =>
      rw [eventType] at parsed
      cases parsed
      refine ⟨?_, by simp⟩
      rw [CostReplay.mintRequested]
      split
      · split
        case isTrue => exact within
        case isFalse => exact within
      · exact within
  | tokensReceived =>
      rw [eventType] at parsed
      exact terminal parsed
  | providerCompletionRecovered =>
      rw [eventType] at parsed
      exact terminal parsed
  | _ =>
      rw [eventType] at parsed
      cases parsed
      exact ⟨within, by simp⟩

theorem parseUsdcRebalanceCostEvent_mem (stored : ∀ amount ∈ row.storedAmounts, amount ∈ S)
    (parsed : parseUsdcRebalanceCostEvent row = .ok (some entry)) : entry.amountUsd ∈ S := by
  rw [parseUsdcRebalanceCostEvent] at parsed
  cases eventType : row.eventType <;> rw [eventType] at parsed <;> try cases parsed
  -- The two bridging events carry the same record.
  all_goals
    cases payload : row.payload with
    | nested record =>
        rw [payload] at parsed
        obtain ⟨fee, taken, parsed⟩ := bind_eq_ok.mp parsed
        have within : ∀ amount ∈ record.fee.amounts, amount ∈ S := by
          simpa [CostEventRow.storedAmounts, payload] using stored
        split at parsed
        case h_1 feeCollected occurredAt =>
          split at parsed
          case isTrue => cases parsed
          case isFalse =>
            cases parsed
            exact PersistedDecimal.read_mem within taken
        case h_2 => cases parsed
    | _ =>
        rw [payload] at parsed
        cases parsed

theorem CostReplay.Within.applyRow (within : replay.Within S)
    (stored : ∀ amount ∈ row.storedAmounts, amount ∈ S)
    (applied : replay.applyRow row = .ok next) : next.Within S := by
  rw [CostReplay.applyRow] at applied
  split at applied
  case isTrue =>
      cases applied
      exact within
  case isFalse =>
      cases aggregateType : row.aggregateType with
      | tokenizedEquityMint =>
          rw [aggregateType] at applied
          obtain ⟨⟨entry, read⟩, parsed, applied⟩ := bind_eq_ok.mp applied
          obtain ⟨after, mem⟩ := parseTokenizedEquityMintCostEvent_within within stored parsed
          cases entry with
          | none =>
              cases applied
              exact after
          | some entry =>
              cases applied
              exact after.countTokenizationFee (mem entry rfl)
      | usdcRebalance =>
          rw [aggregateType] at applied
          obtain ⟨entry, parsed, applied⟩ := bind_eq_ok.mp applied
          cases entry with
          | none =>
              cases applied
              exact within
          | some entry =>
              cases applied
              exact within.append (parseUsdcRebalanceCostEvent_mem stored parsed)
      | other aggregate =>
          rw [aggregateType] at applied
          cases applied
          exact within

theorem buildCostEntries_within {rows : List CostEventRow}
    (stored : ∀ row ∈ rows, ∀ amount ∈ row.storedAmounts, amount ∈ S)
    (built : buildCostEntries rows = .ok replay) : replay.Within S := by
  refine foldlM_invariant (by simp [CostReplay.Within]) ?_ built
  intro row listed before after within applied
  exact within.applyRow (stored row ((List.mem_insertionSort _).mp listed)) applied

theorem parseAlpacaNetAmount_mem {activity : AccountActivity} {rowid : Int} {value : ℚ}
    (stored : ∀ amount ∈ activity.netAmount.amounts, amount ∈ S)
    (read : parseAlpacaNetAmount activity rowid = .ok value) : value ∈ S := by
  obtain ⟨own, taken, read⟩ := bind_eq_ok.mp read
  cases own with
  | none => cases read
  | some own =>
      cases read
      exact PersistedDecimal.read_mem stored taken

theorem activityEntry_mem {calendar : Calendar} {activity : AccountActivity} {index : Nat}
    {entries : List CostEntryInternal} {warnings : List CostWarning}
    (stored : ∀ amount ∈ activity.netAmount.amounts, amount ∈ S)
    (built : activityEntry calendar activity index = .ok (entries, warnings)) :
    ∀ entry ∈ entries, entry.amountUsd ∈ S := by
  obtain ⟨rowid, _, built⟩ := bind_eq_ok.mp built
  cases timed : activityTimestamp calendar activity with
  | none =>
      rw [timed] at built
      cases built
  | some occurredAt =>
      rw [timed] at built
      obtain ⟨signedAmount, read, built⟩ := bind_eq_ok.mp built
      have signed := parseAlpacaNetAmount_mem stored read
      split at built
      case isTrue =>
          cases built
          simp
      case isFalse =>
          dsimp only at built
          split at built
          case isTrue => cases built
          case isFalse =>
              obtain ⟨counts, _, built⟩ := bind_eq_ok.mp built
              split at built
              case isTrue =>
                  cases built
                  simp
              case isFalse =>
                  split at built
                  case h_1 =>
                      obtain ⟨symbol, _, built⟩ := bind_eq_ok.mp built
                      cases built
                      intro entry listed
                      rw [List.mem_singleton.mp listed]
                      exact abs_mem signed
                  case h_2 => cases built

theorem buildAlpacaActivityCostEntries_mem {calendar : Calendar}
    {activities : List AccountActivity} {entries : List CostEntryInternal}
    {warnings : List CostWarning}
    (stored : ∀ activity ∈ activities, ∀ amount ∈ activity.netAmount.amounts, amount ∈ S)
    (built : buildAlpacaActivityCostEntries calendar activities = .ok (entries, warnings)) :
    ∀ entry ∈ entries, entry.amountUsd ∈ S := by
  obtain ⟨each, ran, built⟩ := bind_eq_ok.mp built
  cases built
  intro entry listed
  obtain ⟨⟨own, noted⟩, among, listed⟩ := List.mem_flatMap.mp listed
  obtain ⟨⟨activity, index⟩, numbered, gives⟩ := exists_item_of_mapM ran among
  have activityListed := (List.mem_insertionSort _).mp (List.fst_mem_of_mem_zipIdx numbered)
  exact activityEntry_mem (stored activity activityListed) gives entry listed

theorem allCostEntries_mem {calendar : Calendar} {costRows : List CostEventRow}
    {alpacaActivities : List AccountActivity} {entries : List CostEntryInternal}
    (rows : ∀ row ∈ costRows, ∀ amount ∈ row.storedAmounts, amount ∈ S)
    (activities : ∀ activity ∈ alpacaActivities, ∀ amount ∈ activity.netAmount.amounts,
      amount ∈ S)
    (built : allCostEntries calendar costRows alpacaActivities = .ok entries) :
    ∀ entry ∈ entries, entry.amountUsd ∈ S := by
  obtain ⟨replay, replayed, built⟩ := bind_eq_ok.mp built
  obtain ⟨⟨alpacaEntries, warnings⟩, read, built⟩ := bind_eq_ok.mp built
  cases built
  intro entry listed
  obtain listed | listed := List.mem_append.mp listed
  · exact buildCostEntries_within rows replayed entry listed
  · exact buildAlpacaActivityCostEntries_mem activities read entry (List.mem_filter.mp listed).1

structure CostSummaryAcc.Within (S : Subring ℚ) (summary : CostSummaryAcc) : Prop where
  counterTradeCostsUsd : summary.counterTradeCostsUsd ∈ S
  onchainNettingCostsUsd : summary.onchainNettingCostsUsd ∈ S
  directionalExposureCostsUsd : summary.directionalExposureCostsUsd ∈ S
  genericCostsUsd : summary.genericCostsUsd ∈ S
  genericRevenueUsd : summary.genericRevenueUsd ∈ S
  dividendRevenueUsd : summary.dividendRevenueUsd ∈ S
  tokenizationFeesUsd : summary.tokenizationFeesUsd ∈ S
  cctpFeesUsd : summary.cctpFeesUsd ∈ S
  brokerFeesUsd : summary.brokerFeesUsd ∈ S
  marginInterestUsd : summary.marginInterestUsd ∈ S

variable {costs : CostSummaryAcc}

theorem CostSummaryAcc.Within.addBucket (within : costs.Within S) (also : entry.amountUsd ∈ S) :
    (addBucket costs entry).Within S := by
  rw [Pnl.addBucket]
  split
  · exact { within with
      counterTradeCostsUsd := S.add_mem within.counterTradeCostsUsd also }
  · exact { within with
      onchainNettingCostsUsd := S.add_mem within.onchainNettingCostsUsd also }
  · exact { within with
      directionalExposureCostsUsd := S.add_mem within.directionalExposureCostsUsd also }
  · exact { within with genericCostsUsd := S.add_mem within.genericCostsUsd also }
  · exact { within with dividendRevenueUsd := S.add_mem within.dividendRevenueUsd also }
  · exact { within with genericRevenueUsd := S.add_mem within.genericRevenueUsd also }
  · exact within

theorem signedCategoryAmount_mem (effect : AccountingEffect) {amount : ℚ} (within : amount ∈ S) :
    signedCategoryAmount effect amount ∈ S := by
  cases effect with
  | cost => exact S.neg_mem within
  | revenue => exact within
  | none => exact S.zero_mem

theorem CostSummaryAcc.Within.addCategory (within : costs.Within S) (also : entry.amountUsd ∈ S) :
    (addCategory costs entry).Within S := by
  have signed := signedCategoryAmount_mem entry.effect also
  rw [Pnl.addCategory]
  split
  · exact { within with tokenizationFeesUsd := S.add_mem within.tokenizationFeesUsd signed }
  · exact { within with cctpFeesUsd := S.add_mem within.cctpFeesUsd signed }
  · exact { within with brokerFeesUsd := S.add_mem within.brokerFeesUsd signed }
  · exact { within with marginInterestUsd := S.add_mem within.marginInterestUsd signed }
  · exact { within with }
  · exact within

theorem summarizeCostEntries_within {entries : List CostEntryInternal}
    (within : ∀ entry ∈ entries, entry.amountUsd ∈ S) :
    ∀ amount ∈ (summarizeCostEntries entries).amounts, amount ∈ S := by
  have start : ({} : CostSummaryAcc).Within S := by
    constructor <;> exact S.zero_mem
  have sums : (entries.foldl addCost {}).Within S :=
    List.foldlRecOn entries addCost start fun _ before entry listed =>
      (before.addBucket (within entry listed)).addCategory (within entry listed)
  simp only [PnlCostSummary.amounts, summarizeCostEntries, costSummaryToDto, totalTrackedCosts,
    totalTrackedRevenue, List.forall_mem_cons]
  refine ⟨?_, ?_, sums.counterTradeCostsUsd, sums.onchainNettingCostsUsd,
    sums.directionalExposureCostsUsd, sums.genericCostsUsd, sums.dividendRevenueUsd,
    abs_mem sums.tokenizationFeesUsd, abs_mem sums.cctpFeesUsd, abs_mem sums.brokerFeesUsd,
    abs_mem sums.marginInterestUsd, by simp⟩
  · exact S.add_mem (S.add_mem (S.add_mem sums.counterTradeCostsUsd sums.onchainNettingCostsUsd)
      sums.directionalExposureCostsUsd) sums.genericCostsUsd
  · exact S.add_mem sums.dividendRevenueUsd sums.genericRevenueUsd

end Costs

/-! ## The whole report -/

section Report

variable {report : Report}

theorem PnlEntry.Within.amounts {entry : PnlEntry} (within : entry.Within S) :
    ∀ amount ∈ entry.amounts, amount ∈ S := by
  simp only [PnlEntry.amounts, List.forall_mem_append, List.forall_mem_cons, Option.mem_toList]
  exact ⟨⟨⟨within.openingPriceUsd, within.closingPriceUsd, within.shares, within.spreadUsd,
    within.realizedPnlUsd, by simp⟩, within.onchainPriceUsdc⟩, within.offchainPriceUsd⟩

theorem withReplayExposure_within {filtered replay : PnlSummary}
    (within : ∀ amount ∈ filtered.amounts, amount ∈ S)
    (also : ∀ amount ∈ replay.amounts, amount ∈ S) :
    ∀ amount ∈ (withReplayExposure filtered replay).amounts, amount ∈ S := by
  intro amount listed
  have either : amount ∈ filtered.amounts ∨ amount ∈ replay.amounts := by
    simp only [PnlSummary.amounts, withReplayExposure, List.mem_cons] at listed ⊢
    tauto
  exact either.elim (within amount) (also amount)

theorem withCosts_within {summary : PnlSummary} {costs : PnlCostSummary}
    (within : ∀ amount ∈ summary.amounts, amount ∈ S)
    (also : ∀ amount ∈ costs.amounts, amount ∈ S) :
    ∀ amount ∈ (withCosts summary costs).amounts, amount ∈ S := by
  intro amount listed
  have total : summary.totalPnlUsd ∈ S := within _ (by simp [PnlSummary.amounts])
  have tracked : costs.totalTrackedCostsUsd ∈ S := also _ (by simp [PnlCostSummary.amounts])
  have revenue : costs.totalTrackedRevenueUsd ∈ S := also _ (by simp [PnlCostSummary.amounts])
  have either : amount ∈ summary.amounts ∨ amount ∈ costs.amounts ∨
      amount = summary.totalPnlUsd - costs.totalTrackedCostsUsd + costs.totalTrackedRevenueUsd := by
    simp only [PnlSummary.amounts, PnlCostSummary.amounts, withCosts, List.mem_cons] at listed ⊢
    tauto
  obtain own | cost | rfl := either
  · exact within amount own
  · exact also amount cost
  · exact S.add_mem (S.sub_mem total tracked) revenue

theorem fullTotal_within (within : report.Within S) (rows : List PositionEventRow) :
    (fullTotal report rows).Within S :=
  List.foldlRecOn _ _ SummaryAcc.within_empty fun _ before symbol _ =>
    addSummary_within before (within.books symbol).finalSummary

theorem assembleResponse_within {calendar : Calendar} {view : PositionView}
    {rows : List PositionEventRow} {query : PnlQuery} {costEntries : List CostEntryInternal}
    (within : report.Within S) (also : ∀ entry ∈ costEntries, entry.amountUsd ∈ S) :
    ∀ amount ∈ (assembleResponse calendar view rows report query costEntries).amounts,
      amount ∈ S := by
  have filtered : ∀ entry ∈ sortedPnlEntries calendar
      (report.entries.filter (matchesDateFilter calendar query)), entry.Within S := by
    intro entry listed
    exact within.entries entry (List.mem_filter.mp ((List.mem_insertionSort _).mp listed)).1
  obtain ⟨summary, symbols⟩ := summaryFromEntries_within filtered
  have costs := summarizeCostEntries_within also
  simp only [PnlResponse.amounts, List.forall_mem_append]
  refine ⟨⟨⟨⟨⟨?_, costs⟩, ?_⟩, ?_⟩, ?_⟩, ?_⟩
  · exact withCosts_within (withReplayExposure_within summary
      (summaryToDto_within (fullTotal_within within rows))) costs
  · intro amount listed
    obtain ⟨row, listed, own⟩ := List.mem_flatMap.mp listed
    refine withDirectSymbolCosts_within ?_ also row listed amount own
    intro row listed
    obtain ⟨before, merged, rfl⟩ := List.mem_map.mp listed
    refine resetRow_within (mergeSymbolReplayExposure_within symbols ?_ before merged)
    intro replay listed
    obtain ⟨symbol, _, rfl⟩ := List.mem_map.mp listed
    exact symbolSummaryToDto_within symbol (within.books symbol).finalSummary
  · intro amount listed
    obtain ⟨entry, listed, own⟩ := List.mem_flatMap.mp listed
    exact (filtered entry (List.mem_of_mem_take (List.mem_of_mem_drop listed))).amounts amount own
  · intro amount listed
    obtain ⟨entry, among, rfl⟩ := List.mem_map.mp listed
    exact also entry among
  · intro amount listed
    obtain ⟨window, listed, own⟩ := List.mem_flatMap.mp listed
    obtain ⟨row, among, own⟩ := List.mem_flatMap.mp own
    exact buildWindows_within calendar _ filtered window listed row among amount own

theorem StoredWithin.selected {eventRows : List PositionEventRow}
    {positionRows : List PositionViewRow} {costRows : List CostEventRow}
    {alpacaActivities : List AccountActivity}
    (stored : StoredWithin S eventRows positionRows costRows alpacaActivities)
    (symbols : Finset String) :
    ∀ row ∈ selectedRows symbols eventRows, ∀ amount ∈ storedAmounts row.event, amount ∈ S := by
  intro row listed
  rw [selectedRows] at listed
  split at listed
  case isTrue => exact stored.events row listed
  case isFalse => exact stored.events row (List.mem_filter.mp listed).1

theorem buildPnlResponseFromRows_within {calendar : Calendar} {eventRows : List PositionEventRow}
    {positionRows : List PositionViewRow} {costRows : List CostEventRow}
    {alpacaActivities : List AccountActivity} {query : PnlQuery} {symbols : Finset String}
    {response : PnlResponse}
    (stored : StoredWithin S eventRows positionRows costRows alpacaActivities)
    (built : buildPnlResponseFromRows calendar eventRows positionRows costRows alpacaActivities
      query symbols = .ok response) :
    ∀ amount ∈ response.amounts, amount ∈ S := by
  obtain ⟨view, _, built⟩ := bind_eq_ok.mp built
  obtain ⟨report, replayed, built⟩ := bind_eq_ok.mp built
  obtain ⟨costEntries, costed, built⟩ := bind_eq_ok.mp built
  cases built
  have within := buildReplay_within (stored.selected symbols) (mapError_eq_ok.mp replayed)
  refine assembleResponse_within within ?_
  intro entry listed
  have among := (List.mem_insertionSort _).mp listed
  exact allCostEntries_mem stored.costs stored.activities (mapError_eq_ok.mp costed) entry
    (List.mem_filter.mp among).1

end Report

end Liquidity.Pnl
