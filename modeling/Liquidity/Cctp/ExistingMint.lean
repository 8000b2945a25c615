import Liquidity.Cctp.DestinationChain

/-!
# Existing mints are found

Wherever on the chain a message was received, the scan reaches its block, and the mint
that is read from the receipt is that of the call that received it.
-/

namespace Liquidity.Cctp

open Receipts (TransactionReceipt)

/-- One block of a range has something. -/
theorem flatMap_range'_single {α : Type} (first count number : Nat) (item : α) :
    ((List.range' first count).flatMap fun n => if n = number then [item] else []) =
      if first ≤ number ∧ number < first + count then [item] else [] := by
  induction count generalizing first with
  | zero =>
      rw [if_neg (by omega)]
      rfl
  | succ count ih =>
      rw [List.range'_succ, List.flatMap_cons, ih]
      by_cases here : first = number
      · rw [if_pos here, if_neg (by omega), if_pos (by omega), List.append_nil]
      · rw [if_neg here, List.nil_append]
        by_cases later : first + 1 ≤ number ∧ number < first + 1 + count
        · rw [if_pos later, if_pos (by omega)]
        · rw [if_neg later, if_neg (by omega)]

section Found

variable {transmitter : Address} {history : History transmitter} {call : ReceiveCall transmitter}
variable {endpoint : CctpEndpoint} {blocks : Nat}

/-- A query finds the message if its range has the block. -/
theorem answer_receivedFilter (location : Location history call)
    (own : endpoint.messageTransmitterAddress = transmitter) (fromBlock toBlock : Nat) :
    history.answer (receivedFilter endpoint call.nonce fromBlock toBlock) =
      if fromBlock ≤ location.number ∧ location.number ≤ toBlock then [location.receivedLog]
      else [] := by
  subst own
  have each : ∀ number, (history.logs number).filter
      (receivedFilter endpoint call.nonce fromBlock toBlock).accepts =
        if number = location.number then [location.receivedLog] else [] := fun number =>
    location.receivedLogs_history number
  rw [History.answer]
  simp only [each]
  rw [flatMap_range'_single, receivedFilter]
  by_cases within : fromBlock ≤ location.number ∧ location.number ≤ toBlock
  · rw [if_pos within, if_pos (by dsimp only; omega)]
  · rw [if_neg within, if_neg (by dsimp only; omega)]

theorem inspectLog_receivedLog (location : Location history call) (sawNonce : Bool) :
    inspectLog (readMessage call.message) sawNonce location.receivedLog =
      .error (.ok (location.transaction.hash, location.logIndex)) := by
  simp [inspectLog, Location.receivedLog, ReceiveCall.messageReceived,
    Emission.decodeMessageReceived]

/-- The scan finds the message in its block, whatever the size of the chunks. -/
theorem scanFrom_finds (location : Location history call)
    (own : endpoint.messageTransmitterAddress = transmitter)
    (truthful : Truthful history blocks endpoint.node) (chunk : Nat) {floor toBlock : Nat}
    (low : floor ≤ location.number) (high : location.number ≤ toBlock)
    (mined : toBlock ≤ history.latest) (sawNonce : Bool) :
    (scanFrom chunk endpoint (readMessage call.message) floor toBlock sawNonce).outcome =
      some (.ok (location.transaction.hash, location.logIndex)) := by
  induction toBlock using Nat.strong_induction_on with
  | _ toBlock ih =>
      have proper : Chunks.start chunk floor toBlock ≤ toBlock := Chunks.start_le (low.trans high)
      have answered := truthful.getLogs
        (receivedFilter endpoint call.nonce (Chunks.start chunk floor toBlock) toBlock)
        proper mined
      rw [answer_receivedFilter location own] at answered
      have nonce : (readMessage call.message).nonce = call.nonce := rfl
      rw [scanFrom_eq]
      simp only [nonce, answered]
      by_cases here : Chunks.start chunk floor toBlock ≤ location.number
      · rw [if_pos ⟨here, high⟩]
        simp [inspectLog_receivedLog]
      · have above : ¬ Chunks.start chunk floor toBlock ≤ floor := by omega
        rw [if_neg fun within => here within.1]
        simp only [above, List.foldlM_nil, if_false]
        exact ih _ (Chunks.pred_start_lt above) (by omega) (by omega)

section Mints

variable {hash : TxHash} {emissions : List Emission} {offset limit : Nat}

theorem mintsBefore_of_no_mint
    (none : ∀ emission ∈ emissions, emission.decodeMintAndWithdraw = none) :
    (logsOf hash emissions offset).filterMap (mintBefore limit) = [] := by
  rw [List.filterMap_eq_nil_iff]
  intro log listed
  rw [Option.eq_none_iff_forall_ne_some]
  intro ⟨index, mint⟩ found
  have decoded := (mintBefore_eq_some.mp found).2.2
  rw [none log.toEmission (mem_logsOf listed).1] at decoded
  cases decoded

theorem mintsBefore_of_late (late : limit ≤ offset) :
    (logsOf hash emissions offset).filterMap (mintBefore limit) = [] := by
  rw [List.filterMap_eq_nil_iff]
  intro log listed
  rw [Option.eq_none_iff_forall_ne_some]
  intro ⟨index, mint⟩ found
  obtain ⟨is, early, _⟩ := mintBefore_eq_some.mp found
  obtain ⟨own, numbered, low, _⟩ := (mem_logsOf listed).2
  rw [numbered, Option.some.injEq] at is
  omega

theorem lt_of_mem_mintsBefore {found : Nat × MintAndWithdraw}
    (listed : found ∈ (logsOf hash emissions offset).filterMap (mintBefore limit)) :
    found.1 < offset + emissions.length := by
  obtain ⟨log, listed, is⟩ := List.mem_filterMap.mp listed
  obtain ⟨own, numbered, _, high⟩ := (mem_logsOf listed).2
  have same := (mintBefore_eq_some.mp is).1
  rw [numbered, Option.some.injEq] at same
  omega

end Mints

/-- The mints logged before the message was received: some ahead of the call, and its own. -/
theorem mintsBefore_transaction (location : Location history call) :
    (location.transaction.logs location.before.emissionCount).filterMap
        (mintBefore location.logIndex) =
      (logsOf location.transaction.hash location.ahead location.before.emissionCount).filterMap
          (mintBefore location.logIndex) ++
        [(location.before.emissionCount + location.ahead.length,
          ⟨call.mintRecipient, call.amount, call.mintToken, call.feeCollected⟩)] := by
  have own : mintBefore location.logIndex
      { call.mintAndWithdraw with
        transactionHash := some location.transaction.hash
        logIndex := some (location.before.emissionCount + location.ahead.length) } =
      some (location.before.emissionCount + location.ahead.length,
        ⟨call.mintRecipient, call.amount, call.mintToken, call.feeCollected⟩) := by
    refine mintBefore_eq_some.mpr ⟨rfl, ?_, rfl⟩
    rw [Location.logIndex]
    omega
  have behind : location.logIndex ≤ location.before.emissionCount +
      (location.ahead ++ call.mintAndWithdraw :: call.between).length := by
    rw [Location.logIndex, List.length_append, List.length_cons]
    omega
  rw [Transaction.logs, location.emissions, logsOf_append, logsOf_append, List.filterMap_append,
    List.filterMap_append, mintsBefore_of_late behind, logsOf_cons,
    List.filterMap_cons_some own, mintsBefore_of_no_mint call.oneMint, List.append_nil]

/-- The mint that is logged last before the message was received is that of its call. -/
theorem parseMintReceiptForMessage_eq (location : Location history call) :
    parseMintReceiptForMessage
        (location.transaction.receipt location.number location.before.emissionCount)
        location.logIndex =
      some ⟨location.transaction.hash, call.amount, call.feeCollected⟩ := by
  have greatest : maxByKey Prod.fst
      ((logsOf location.transaction.hash location.ahead
          location.before.emissionCount).filterMap (mintBefore location.logIndex) ++
        [(location.before.emissionCount + location.ahead.length,
          ⟨call.mintRecipient, call.amount, call.mintToken, call.feeCollected⟩)]) =
      some (location.before.emissionCount + location.ahead.length,
        ⟨call.mintRecipient, call.amount, call.mintToken, call.feeCollected⟩) :=
    maxByKey_eq (fun found listed => (lt_of_mem_mintsBefore listed).le) (by simp)
  rw [parseMintReceiptForMessage, Transaction.receipt]
  dsimp only
  rw [mintsBefore_transaction, greatest]
  rfl

/-- A used nonce leads to the mint of the call that used it. -/
theorem locateMintReceipt_eq (location : Location history call)
    (own : endpoint.messageTransmitterAddress = transmitter)
    (truthful : Truthful history blocks endpoint.node) :
    locateMintReceipt endpoint (readMessage call.message) none =
      some (.ok ⟨location.transaction.hash, call.amount, call.feeCollected⟩) := by
  have found := scanFrom_finds location own truthful cctpRecoveryLogBlockChunk
    (Nat.zero_le _) location.number_le_latest le_rfl false
  have receipt := truthful.awaitReceipt _ location.receipt_mem
  rw [locateMintReceipt, findReceivedMessageTx, truthful.getBlockNumber]
  dsimp only
  rw [Option.getD_none, Nat.zero_min, found, Option.map_some]
  have hash : (location.transaction.receipt location.number
      location.before.emissionCount).transactionHash = location.transaction.hash := rfl
  have status : (location.transaction.receipt location.number
      location.before.emissionCount).status = true := location.status
  rw [hash] at receipt
  simp only [bind, Except.bind, readMintReceipt, receipt, Except.mapError, status,
    parseMintReceiptForMessage_eq]
  rfl

theorem isNonceUsed_eq (truthful : Truthful history blocks endpoint.node) (nonce : Nat) :
    isNonceUsed endpoint nonce = .ok (decide (history.Used blocks nonce)) := by
  obtain ⟨value, answered, used⟩ := truthful.usedNonces nonce
  rw [isNonceUsed, answered]
  show Except.ok (decide (value ≠ 0)) = Except.ok (decide (history.Used blocks nonce))
  rw [decide_eq_decide.mpr used]

theorem calls_of_used {nonce : Nat} (used : history.Used blocks nonce) :
    ∃ call ∈ callsOf history.blocks, call.nonce = nonce := by
  obtain ⟨call, listed, same⟩ := used
  refine ⟨call, ?_, same⟩
  obtain ⟨transaction, among, listed⟩ := List.mem_flatMap.mp listed
  obtain ⟨block, mined, among⟩ := List.mem_flatten.mp among
  exact List.mem_flatMap.mpr ⟨transaction,
    List.mem_flatten.mpr ⟨block, List.mem_of_mem_take mined, among⟩, listed⟩

end Found

/-- The mint of a message is found if and only if its nonce is used, and it is that of the
call that received the message. The scan tiles the blocks from the floor to the latest,
queries no inverted range and never underflows. -/
theorem findExistingMint_eq {transmitter : Address} (history : History transmitter)
    (blocks : Nat) (endpoint : CctpEndpoint)
    (own : endpoint.messageTransmitterAddress = transmitter)
    (truthful : Truthful history blocks endpoint.node) (direction : BridgeDirection)
    (message : List UInt8) (attested : history.attested message)
    (nonzero : (readMessage message).nonce ≠ 0)
    (here : (readMessage message).destinationDomain = direction.destDomain) :
    (findExistingMint endpoint direction message = some (.ok none) ↔
      ¬ history.Used blocks (readMessage message).nonce) ∧
    (history.Used blocks (readMessage message).nonce →
      ∃ transaction ∈ history.blocks.flatten, ∃ call ∈ transaction.calls,
        call.message = message ∧
        findExistingMint endpoint direction message =
          some (.ok (some ⟨transaction.hash, call.amount, call.feeCollected⟩))) ∧
    ∀ (scanned : CctpEndpoint) (received : CctpReceivedMessage) (minBlock : Option Nat)
      (latest : Nat), scanned.node.getBlockNumber = .ok latest →
      let floor := min (minBlock.getD 0) latest
      let chunks := Chunks.backwards cctpRecoveryLogBlockChunk floor latest
      let queries := chunks.map (chunkFilter scanned received.nonce)
      let scan := findReceivedMessageTx scanned received minBlock
      chunks.reverse.flatMap Chunks.Chunk.members = List.range' floor (latest + 1 - floor) ∧
      (∀ filter ∈ scan.queried, floor ≤ filter.fromBlock ∧ filter.fromBlock ≤ filter.toBlock ∧
        filter.toBlock ≤ latest ∧ filter.toBlock + 1 - filter.fromBlock ≤ 20000) ∧
      scan.queried <+: queries ∧
      ((∀ filter, scanned.node.getLogs filter = .ok []) → scan.queried = queries) ∧
      scan.outcome.isSome := by
  have shape : validateMessageShape message direction = .ok (readMessage message) :=
    validateMessageShape_eq_ok.mpr ⟨history.wellFormed message attested, rfl, nonzero, here⟩
  have located : history.Used blocks (readMessage message).nonce →
      ∃ transaction ∈ history.blocks.flatten, ∃ call ∈ transaction.calls,
        call.message = message ∧
        findExistingMint endpoint direction message =
          some (.ok (some ⟨transaction.hash, call.amount, call.feeCollected⟩)) := by
    intro used
    obtain ⟨call, listed, same⟩ := calls_of_used used
    have ours := history.distinct _ _ (history.received call listed) attested same
    obtain ⟨location⟩ := exists_location listed
    obtain ⟨first, last, split, _⟩ := location.blocks
    refine ⟨location.transaction, ?_, call, ?_, ours, ?_⟩
    · rw [split]
      simp
    · rw [location.calls]
      simp
    · have found := locateMintReceipt_eq location own truthful
      rw [ours] at found
      rw [findExistingMint, shape]
      simp only [isNonceUsed_eq truthful, used, decide_true, found]
      rfl
  refine ⟨?_, located, ?_⟩
  · constructor
    · intro absent used
      obtain ⟨_, _, _, _, _, found⟩ := located used
      rw [found] at absent
      cases absent
    · intro unused
      rw [findExistingMint, shape]
      simp only [isNonceUsed_eq truthful, unused, decide_false]
  · intro scanned received minBlock latest head
    have tiles := Chunks.tiles_backwards cctpRecoveryLogBlockChunk
      (Nat.min_le_right (minBlock.getD 0) latest)
    have scan : findReceivedMessageTx scanned received minBlock =
        scanFrom cctpRecoveryLogBlockChunk scanned received (min (minBlock.getD 0) latest) latest
          false := by
      rw [findReceivedMessageTx, head]
    obtain ⟨queried, ends⟩ := scanFrom_queried cctpRecoveryLogBlockChunk scanned received
      (min (minBlock.getD 0) latest) latest false
    dsimp only
    rw [scan]
    refine ⟨tiles.members_eq, ?_, queried, scanFrom_queried_all _ _ _ _ _ _, ends⟩
    intro filter listed
    obtain ⟨chunk, among, rfl⟩ := List.mem_map.mp (queried.subset listed)
    obtain ⟨low, proper, high⟩ := tiles.within chunk among
    exact ⟨low, proper, high, Chunks.size_backwards among⟩

/-! ## Two calls in one transaction -/

/-- From Ethereum to Base. -/
def sampleMessage (nonce : UInt8) : List UInt8 :=
  [0, 0, 0, 1] ++ [0, 0, 0, 0] ++ [0, 0, 0, 6] ++ List.replicate 31 0 ++ [nonce] ++
    List.replicate 104 0 ++ [nonce, nonce]

def sampleCall (nonce : UInt8) (amount : Nat) : ReceiveCall 1 where
  message := sampleMessage nonce
  caller := 10
  sender := 11
  finalityThresholdExecuted := 2000
  tokenMessenger := 2
  mintRecipient := 12
  amount := amount
  mintToken := 13
  feeCollected := 5
  between := []
  oneMint := by simp
  oneReceived := by simp

/-- A block without transactions, and one with a batch of two. -/
def sampleHistory : History 1 where
  blocks := [[], [⟨7, true, [.receive (sampleCall 3 400), .receive (sampleCall 4 900)]⟩]]
  genesis := by simp
  hashes := by simp
  attested message := message ∈ [sampleMessage 3, sampleMessage 4]
  wellFormed := by decide +kernel
  distinct := by
    have all : ∀ first ∈ [sampleMessage 3, sampleMessage 4],
        ∀ second ∈ [sampleMessage 3, sampleMessage 4],
        (readMessage first).nonce = (readMessage second).nonce → first = second := by
      decide +kernel
    exact fun first second listed also => all first listed second also
  received := by
    intro call listed
    have calls : callsOf [[], [⟨7, true, [.receive (sampleCall 3 400),
        .receive (sampleCall 4 900)]⟩]] = [sampleCall 3 400, sampleCall 4 900] := rfl
    rw [calls] at listed
    exact List.mem_map_of_mem (f := ReceiveCall.message) listed
  once := by
    have nonces : (callsOf [[], [⟨7, true, [.receive (sampleCall 3 400),
        .receive (sampleCall 4 900)]⟩]]).map (·.nonce) =
        [(sampleCall 3 400).nonce, (sampleCall 4 900).nonce] := rfl
    rw [nonces]
    decide +kernel

theorem findExistingMint_sample :
    ∃ transaction ∈ sampleHistory.blocks.flatten, ∃ call ∈ transaction.calls,
      call.message = sampleMessage 4 ∧
      findExistingMint ⟨sampleHistory.node 2, 1⟩ .ethereumToBase (sampleMessage 4) =
        some (.ok (some ⟨transaction.hash, call.amount, call.feeCollected⟩)) :=
  (findExistingMint_eq sampleHistory 2 ⟨sampleHistory.node 2, 1⟩ rfl
    (sampleHistory.node_truthful 2) .ethereumToBase (sampleMessage 4)
    (List.mem_cons_of_mem _ List.mem_cons_self) (by decide +kernel) (by decide +kernel)).2.1
    (by decide +kernel)

end Liquidity.Cctp
