import Liquidity.Cctp.BurnStatus

/-!
# When a transaction is declared dropped

A transaction is to be declared dropped only after several rounds in a row in which both
lookups succeed and neither knows it. A failed mempool lookup starts the count again; a
failed receipt lookup does not, and neither does a receipt without a block, which is a
sighting. Such a blind round may therefore stand between the absences that are counted.
-/

namespace Liquidity.Receipts

open Polling (Effect LastAll counted additions)

variable {Log : Type}

namespace Poll

variable (config : ReceiptWaitConfig) (poll : Poll Log)

/-- The grace period is over. -/
def isLate : Bool := config.droppedGrace ≤ poll.elapsed

def isMined : Bool :=
  match poll.receipt with
  | .ok (some receipt) => receipt.blockNumber.isSome
  | _ => false

/-- After the grace period both lookups succeed, and neither knows the transaction. -/
def isAbsence : Bool :=
  match poll.receipt, poll.mempool with
  | .ok none, .ok none => poll.isLate config
  | _, _ => false

/-- The receipt lookup fails, or its receipt has no block: the mempool is not asked. -/
def isBlind : Bool :=
  match poll.receipt with
  | .error _ => true
  | .ok none => false
  | .ok (some receipt) => receipt.blockNumber.isNone

/-- A call does not get through. -/
def isFailed : Bool :=
  match poll.receipt, poll.mempool with
  | .error _, _ => true
  | .ok none, .error _ => poll.isLate config
  | _, _ => false

/-- What the round does to the count of absences. -/
def missEffect : Effect :=
  if poll.isAbsence config then .adds
  else if poll.isBlind || !poll.isLate config then .keeps
  else .resets

/-- What the round does to the count of failures. -/
def errorEffect : Effect := if poll.isFailed config then .adds else .resets

end Poll

/-! ## The claim and its condition -/

/-- Drops and failures are declared only after enough rounds in a row, and a mined
transaction in the first round that sees it. -/
structure DeclaredInARow (txHash : TxHash) (config : ReceiptWaitConfig) (polls : Polls Log)
    (burnConfig : Cctp.BurnDropConfig) (burnPolls : Cctp.BurnPolls Log) : Prop where
  dropped : ∀ secs,
    waitForInclusion txHash config polls = .error (.transactionDropped txHash secs) →
      LastAll config.droppedConsecutiveMisses (fun poll => poll.isAbsence config)
        (inclusionRounds txHash config polls)
  transport : ∀ error, waitForInclusion txHash config polls = .error (.transport error) →
    LastAll maxConsecutiveTransportErrors (fun poll => poll.isFailed config)
      (inclusionRounds txHash config polls)
  mined : ∀ poll ∈ inclusionRounds txHash config polls, ∀ receipt block,
    poll.receipt = .ok (some receipt) → receipt.blockNumber = some block →
      waitForInclusion txHash config polls = .ok (receipt, block) ∧
        (inclusionRounds txHash config polls).getLast? = some poll
  burn : Cctp.burnStatusWithConfig burnConfig burnPolls = some (.ok .dropped) →
    LastAll burnConfig.consecutiveMisses (Cctp.BurnPoll.IsAbsence burnConfig)
      (Cctp.burnRounds burnConfig burnPolls)

/-- From an absence to an absence, as many as it takes, with at most blind rounds in
between. -/
structure Gathers (config : ReceiptWaitConfig) (stretch : List (Poll Log)) : Prop where
  begins : ∃ first ∈ stretch.head?, first.isAbsence config
  ends : ∃ last ∈ stretch.getLast?, last.isAbsence config
  between : ∀ poll ∈ stretch, poll.isAbsence config ∨ poll.isBlind
  enough : stretch.countP (·.isAbsence config) = max 1 config.droppedConsecutiveMisses

/-- These rounds have ended the wait: one saw the transaction in a block, too many in a
row failed, or absences were gathered. -/
def Over (config : ReceiptWaitConfig) (rounds : List (Poll Log)) : Prop :=
  (∃ poll ∈ rounds, poll.isMined) ∨
    (∃ run, run <:+: rounds ∧ run.length = maxConsecutiveTransportErrors ∧
      ∀ poll ∈ run, poll.isFailed config) ∨
    ∃ stretch, stretch <:+: rounds ∧ Gathers config stretch

/-- Where absences are gathered across a blind round, the wait was over before. -/
def Uninterrupted (config : ReceiptWaitConfig) (polls : Polls Log) : Prop :=
  ∀ rounds stretch, rounds <+: polls.rounds → stretch <:+ rounds → Gathers config stretch →
    (∃ poll ∈ stretch, poll.isBlind) → Over config rounds.dropLast

/-! ## One round -/

section Round

variable (txHash : TxHash) (config : ReceiptWaitConfig)

def Counters.after (counters : Counters) (poll : Poll Log) : Counters where
  consecutiveMisses :=
    Polling.count (Poll.missEffect config) counters.consecutiveMisses poll
  consecutiveTransportErrors :=
    Polling.count (Poll.errorEffect config) counters.consecutiveTransportErrors poll

/-- What a round can do. -/
inductive RoundCase (counters : Counters) (poll : Poll Log) : Prop where
  | mined (receipt : TransactionReceipt Log) (block : Nat)
      (found : poll.receipt = .ok (some receipt)) (included : receipt.blockNumber = some block)
      (result : pollInclusion txHash config counters poll = .error (.ok (receipt, block)))
  | gaveUp (error : TransportError) (failed : poll.isFailed config)
      (many : maxConsecutiveTransportErrors ≤
        (counters.after config poll).consecutiveTransportErrors)
      (result : pollInclusion txHash config counters poll = .error (.error (.transport error)))
  | dropped (absent : poll.isAbsence config)
      (many : config.droppedConsecutiveMisses ≤ (counters.after config poll).consecutiveMisses)
      (result : pollInclusion txHash config counters poll =
        .error (.error (.transactionDropped txHash (asSecs poll.reportedAt))))
  | waits (notMined : poll.isMined = false)
      (fewErrors : poll.isFailed config →
        (counters.after config poll).consecutiveTransportErrors < maxConsecutiveTransportErrors)
      (fewMisses : poll.isAbsence config →
        (counters.after config poll).consecutiveMisses < config.droppedConsecutiveMisses)
      (result : pollInclusion txHash config counters poll = .ok (counters.after config poll))

variable {config} {counters : Counters} {poll : Poll Log}

/-- After a round that neither failed nor was an absence. -/
theorem Counters.after_quiet (notFailed : poll.isFailed config = false)
    (notAbsent : poll.isAbsence config = false) : counters.after config poll =
      ⟨if poll.isBlind || !poll.isLate config then counters.consecutiveMisses else 0, 0⟩ := by
  rw [Counters.after, Polling.count, Polling.count, Poll.missEffect, Poll.errorEffect, notFailed,
    notAbsent]
  simp only [Bool.false_eq_true, if_false]
  by_cases keeps : poll.isBlind || !poll.isLate config
  · rw [if_pos keeps, if_pos keeps]
  · rw [if_neg keeps, if_neg keeps]

variable {txHash}

/-- A round that neither failed nor was an absence is not counted. -/
theorem RoundCase.quiet (notMined : poll.isMined = false)
    (notFailed : poll.isFailed config = false) (notAbsent : poll.isAbsence config = false)
    (result : pollInclusion txHash config counters poll = .ok
      ⟨if poll.isBlind || !poll.isLate config then counters.consecutiveMisses else 0, 0⟩) :
    RoundCase txHash config counters poll := by
  apply RoundCase.waits notMined
  · intro failed
    exact absurd failed (ne_true_of_eq_false notFailed)
  · intro absent
    exact absurd absent (ne_true_of_eq_false notAbsent)
  · rw [result, Counters.after_quiet notFailed notAbsent]

variable {elapsed reportedAt : Time}

theorem roundCase_receiptFailed (error : TransportError)
    (mempool : Except TransportError (Option TxHash)) :
    RoundCase txHash config counters
      (⟨.error error, elapsed, mempool, reportedAt⟩ : Poll Log) := by
  by_cases many : maxConsecutiveTransportErrors ≤ counters.consecutiveTransportErrors + 1
  · apply RoundCase.gaveUp error
    · rfl
    · exact many
    · simp [pollInclusion, noteReceiptPollTransportError, many]
  · apply RoundCase.waits
    · rfl
    · intro _
      exact Nat.not_le.mp many
    · intro absent
      exact absurd absent Bool.false_ne_true
    · simp [pollInclusion, noteReceiptPollTransportError, many, Counters.after, Polling.count,
        Poll.missEffect, Poll.errorEffect, Poll.isAbsence, Poll.isBlind, Poll.isFailed]

theorem roundCase_receipt (receipt : TransactionReceipt Log)
    (mempool : Except TransportError (Option TxHash)) :
    RoundCase txHash config counters ⟨.ok (some receipt), elapsed, mempool, reportedAt⟩ := by
  cases included : receipt.blockNumber with
  | some block =>
      apply RoundCase.mined receipt block rfl included
      simp [pollInclusion, included]
  | none =>
      apply RoundCase.quiet
      · simp [Poll.isMined, included]
      · rfl
      · rfl
      · simp [pollInclusion, included, Poll.isBlind]

/-- Within the grace period nothing is counted. -/
theorem roundCase_early (early : elapsed < config.droppedGrace)
    (mempool : Except TransportError (Option TxHash)) :
    RoundCase txHash config counters (⟨.ok none, elapsed, mempool, reportedAt⟩ : Poll Log) := by
  have notLate :
      Poll.isLate config (⟨.ok none, elapsed, mempool, reportedAt⟩ : Poll Log) = false :=
    decide_eq_false (Nat.not_le.mpr early)
  apply RoundCase.quiet
  · rfl
  · cases mempool with
    | error error => exact notLate
    | ok seen => rfl
  · cases mempool with
    | error error => rfl
    | ok seen =>
        cases seen with
        | some hash => rfl
        | none => exact notLate
  · rw [notLate]
    simp [pollInclusion, classifyPendingReceipt, early]

theorem roundCase_late (late : config.droppedGrace ≤ elapsed)
    (mempool : Except TransportError (Option TxHash)) :
    RoundCase txHash config counters (⟨.ok none, elapsed, mempool, reportedAt⟩ : Poll Log) := by
  have notEarly : ¬ elapsed < config.droppedGrace := Nat.not_lt.mpr late
  have isLate : ∀ mempool,
      Poll.isLate config (⟨.ok none, elapsed, mempool, reportedAt⟩ : Poll Log) = true :=
    fun _ => decide_eq_true late
  cases mempool with
  | error error =>
      have failed : Poll.isFailed config
          (⟨.ok none, elapsed, .error error, reportedAt⟩ : Poll Log) = true := isLate _
      by_cases many : maxConsecutiveTransportErrors ≤ counters.consecutiveTransportErrors + 1
      · apply RoundCase.gaveUp error failed
        · rw [Counters.after, Polling.count, Polling.count, Poll.errorEffect, failed]
          exact many
        · simp [pollInclusion, classifyPendingReceipt, notEarly, noteReceiptPollTransportError,
            many, bind, Except.bind]
      · apply RoundCase.waits
        · rfl
        · intro _
          rw [Counters.after, Polling.count, Polling.count, Poll.errorEffect, failed]
          exact Nat.not_le.mp many
        · intro absent
          exact absurd absent Bool.false_ne_true
        · rw [Counters.after, Polling.count, Polling.count, Poll.missEffect, Poll.errorEffect,
            failed, isLate]
          simp [pollInclusion, classifyPendingReceipt, notEarly, noteReceiptPollTransportError,
            many, bind, Except.bind, pure, Except.pure, Poll.isAbsence, Poll.isBlind]
  | ok seen =>
      cases seen with
      | some hash =>
          apply RoundCase.quiet
          · rfl
          · rfl
          · rfl
          · rw [isLate]
            simp [pollInclusion, classifyPendingReceipt, notEarly, Poll.isBlind]
      | none =>
          have absent : Poll.isAbsence config
              (⟨.ok none, elapsed, .ok none, reportedAt⟩ : Poll Log) = true := isLate _
          by_cases many : config.droppedConsecutiveMisses ≤ counters.consecutiveMisses + 1
          · apply RoundCase.dropped absent
            · rw [Counters.after, Polling.count, Polling.count, Poll.missEffect, absent]
              exact many
            · simp [pollInclusion, classifyPendingReceipt, notEarly, many]
          · apply RoundCase.waits
            · rfl
            · intro failed
              exact absurd failed Bool.false_ne_true
            · intro _
              rw [Counters.after, Polling.count, Polling.count, Poll.missEffect, absent]
              exact Nat.not_le.mp many
            · rw [Counters.after, Polling.count, Polling.count, Poll.missEffect, absent]
              simp [pollInclusion, classifyPendingReceipt, notEarly, many, Poll.errorEffect,
                Poll.isFailed]

theorem roundCase (txHash : TxHash) (config : ReceiptWaitConfig) (counters : Counters)
    (poll : Poll Log) : RoundCase txHash config counters poll := by
  obtain ⟨receipt, elapsed, mempool, reportedAt⟩ := poll
  cases receipt with
  | error error => exact roundCase_receiptFailed error mempool
  | ok found =>
      cases found with
      | some receipt => exact roundCase_receipt receipt mempool
      | none =>
          cases Nat.lt_or_ge elapsed config.droppedGrace with
          | inl early => exact roundCase_early early mempool
          | inr late => exact roundCase_late late mempool

end Round

/-! ## The rounds of a wait -/

section Rounds

variable {txHash : TxHash} {config : ReceiptWaitConfig} {rounds : List (Poll Log)} {poll : Poll Log}

/-- What is counted over these rounds. -/
def countedOver (config : ReceiptWaitConfig) (rounds : List (Poll Log)) : Counters where
  consecutiveMisses := counted (Poll.missEffect config) rounds
  consecutiveTransportErrors := counted (Poll.errorEffect config) rounds

theorem countedOver_concat : countedOver config (rounds ++ [poll]) =
    (countedOver config rounds).after config poll := by
  simp [countedOver, Counters.after]

theorem missEffect_eq_adds : poll.missEffect config = .adds ↔ poll.isAbsence config := by
  rw [Poll.missEffect]
  split
  case isTrue absent => simp [absent]
  case isFalse present =>
      split <;> simp [present]

theorem errorEffect_eq_adds : poll.errorEffect config = .adds ↔ poll.isFailed config := by
  rw [Poll.errorEffect]
  split
  case isTrue failed => simp [failed]
  case isFalse fine => simp [fine]

theorem additions_missEffect (stretch : List (Poll Log)) :
    additions (Poll.missEffect config) stretch = stretch.countP (·.isAbsence config) := by
  refine List.countP_congr fun poll _ => ?_
  simp [missEffect_eq_adds]

theorem isLate_of_isAbsence (absent : poll.isAbsence config) : poll.isLate config := by
  rw [Poll.isAbsence] at absent
  split at absent
  case h_1 => exact absent
  case h_2 => cases absent

/-- After an absence, a round that does not start the count again is another one or
blind. -/
theorem absence_or_blind {first : Poll Log} (absent : first.isAbsence config)
    (ordered : first.elapsed ≤ poll.elapsed) (kept : poll.missEffect config ≠ .resets) :
    poll.isAbsence config ∨ poll.isBlind := by
  have late : poll.isLate config := by
    have before := isLate_of_isAbsence absent
    simp only [Poll.isLate, decide_eq_true_eq] at before ⊢
    exact before.trans ordered
  by_cases other : poll.isAbsence config
  · exact .inl other
  · right
    by_contra sharp
    simp [Poll.missEffect, other, sharp, late] at kept

theorem not_isBlind_of_isAbsence (absent : poll.isAbsence config) : poll.isBlind = false := by
  rw [Poll.isAbsence] at absent
  split at absent
  case h_1 noReceipt _ => rw [Poll.isBlind, noReceipt]
  case h_2 => cases absent

/-- The counters of rounds that end in an absence come from a gathered stretch. -/
theorem exists_gathers
    (clock : (rounds ++ [poll]).Pairwise fun first second => first.elapsed ≤ second.elapsed)
    (absent : poll.isAbsence config)
    (many : max 1 config.droppedConsecutiveMisses ≤
      (countedOver config (rounds ++ [poll])).consecutiveMisses) :
    ∃ stretch, stretch <:+ rounds ++ [poll] ∧ Gathers config stretch := by
  obtain ⟨first, rest, suffix, begins, never, exactly⟩ :=
    Polling.exists_run (Nat.lt_of_lt_of_le Nat.one_pos (Nat.le_max_left _ _)) many
  have begins := missEffect_eq_adds.mp begins
  refine ⟨first :: rest, suffix, ⟨first, rfl, begins⟩, ⟨poll, ?_, absent⟩, ?_, ?_⟩
  · obtain ⟨before, same⟩ := suffix
    have last : (before ++ first :: rest).getLast? = some poll := by
      rw [same, List.getLast?_concat]
    rwa [List.getLast?_append_of_ne_nil _ (List.cons_ne_nil _ _)] at last
  · intro other listed
    obtain rfl | listed := List.mem_cons.mp listed
    · exact .inl begins
    · have ordered := List.rel_of_pairwise_cons (clock.sublist suffix.sublist) listed
      exact absence_or_blind begins ordered (never other listed)
  · rw [← additions_missEffect]
    exact exactly

theorem Gathers.counted_le {stretch : List (Poll Log)} (gathers : Gathers config stretch)
    (suffix : stretch <:+ rounds) :
    max 1 config.droppedConsecutiveMisses ≤ (countedOver config rounds).consecutiveMisses := by
  rw [← gathers.enough, ← additions_missEffect]
  apply Polling.additions_le_counted suffix
  intro poll listed
  rw [Poll.missEffect]
  obtain absent | blind := gathers.between poll listed
  · simp [absent]
  · simp only [blind, Bool.true_or, if_true]
    split <;> decide

/-- The last round of a gathered stretch is an absence. -/
theorem Gathers.last {stretch : List (Poll Log)} (gathers : Gathers config stretch)
    (suffix : stretch <:+ rounds ++ [poll]) : poll.isAbsence config := by
  obtain ⟨last, among, absent⟩ := gathers.ends
  obtain ⟨before, same⟩ := suffix
  have nonempty : stretch ≠ [] := by
    intro empty
    rw [empty] at among
    cases among
  have ends : (before ++ stretch).getLast? = some poll := by
    rw [same, List.getLast?_concat]
  rw [List.getLast?_append_of_ne_nil _ nonempty] at ends
  rw [Option.mem_def, ends] at among
  cases among
  exact absent

theorem failures_iff (n : Nat) :
    n ≤ (countedOver config rounds).consecutiveTransportErrors ↔
      LastAll n (fun poll => poll.isFailed config) rounds := by
  have sharp : ∀ poll ∈ rounds, poll.errorEffect config ≠ .keeps := by
    intro poll _
    rw [Poll.errorEffect]
    split <;> decide
  have failed : (fun poll : Poll Log => poll.errorEffect config = .adds) =
      fun poll => (poll.isFailed config : Prop) := by
    funext poll
    exact propext errorEffect_eq_adds
  rw [countedOver, Polling.le_counted_iff sharp, failed]

theorem not_over_nil : ¬ Over config ([] : List (Poll Log)) := by
  rintro (⟨seen, listed, _⟩ | ⟨run, within, long, _⟩ | ⟨stretch, within, gathers⟩)
  · cases listed
  · rw [List.infix_nil.mp within] at long
    cases long
  · obtain ⟨first, among, _⟩ := gathers.begins
    rw [List.infix_nil.mp within] at among
    cases among

/-- Which round ends the wait. -/
theorem over_concat_iff
    (clock : (rounds ++ [poll]).Pairwise fun first second => first.elapsed ≤ second.elapsed) :
    Over config (rounds ++ [poll]) ↔
      Over config rounds ∨ poll.isMined ∨
        (poll.isFailed config ∧ maxConsecutiveTransportErrors ≤
          (countedOver config (rounds ++ [poll])).consecutiveTransportErrors) ∨
        poll.isAbsence config ∧ max 1 config.droppedConsecutiveMisses ≤
          (countedOver config (rounds ++ [poll])).consecutiveMisses := by
  constructor
  · rintro (⟨seen, listed, mined⟩ | ⟨run, within, long, failed⟩ | ⟨stretch, within, gathers⟩)
    · obtain listed | listed := List.mem_append.mp listed
      · exact .inl (.inl ⟨seen, listed, mined⟩)
      · obtain rfl := List.mem_singleton.mp listed
        exact .inr (.inl mined)
    · obtain suffix | within := List.infix_concat_iff.mp within
      · have all := Polling.lastAll_of_suffix suffix failed
        rw [long] at all
        have positive : 0 < maxConsecutiveTransportErrors := by decide
        have failing := all.last positive
        exact .inr (.inr (.inl ⟨failing, (failures_iff _).mpr all⟩))
      · exact .inl (.inr (.inl ⟨run, within, long, failed⟩))
    · obtain suffix | within := List.infix_concat_iff.mp within
      · exact .inr (.inr (.inr ⟨gathers.last suffix, gathers.counted_le suffix⟩))
      · exact .inl (.inr (.inr ⟨stretch, within, gathers⟩))
  · have longer : rounds <:+: rounds ++ [poll] := (List.prefix_append _ _).isInfix
    rintro ((⟨seen, listed, mined⟩ | ⟨run, within, long, failed⟩ | ⟨stretch, within, gathers⟩) |
      mined | ⟨_, many⟩ | ⟨absent, many⟩)
    · exact .inl ⟨seen, List.mem_append_left _ listed, mined⟩
    · exact .inr (.inl ⟨run, within.trans longer, long, failed⟩)
    · exact .inr (.inr ⟨stretch, within.trans longer, gathers⟩)
    · exact .inl ⟨poll, List.mem_append_right _ List.mem_cons_self, mined⟩
    · obtain ⟨long, all⟩ := (failures_iff _).mp many
      refine .inr (.inl ⟨_, (List.drop_suffix _ _).isInfix, ?_, all⟩)
      rw [List.length_drop]
      omega
    · obtain ⟨stretch, suffix, gathers⟩ := exists_gathers clock absent many
      exact .inr (.inr ⟨stretch, suffix.isInfix, gathers⟩)

theorem foldlM_concat_eq_ok {counters : Counters} :
    (rounds ++ [poll]).foldlM (pollInclusion txHash config) {} = .ok counters ↔
      ∃ middle, rounds.foldlM (pollInclusion txHash config) {} = .ok middle ∧
        pollInclusion txHash config middle poll = .ok counters := by
  rw [List.foldlM_append, bind_eq_ok]
  refine exists_congr fun middle => and_congr_right fun _ => ?_
  rw [List.foldlM_cons, bind_eq_ok]
  constructor
  · intro ⟨next, stepped, ended⟩
    cases ended
    exact stepped
  · intro stepped
    exact ⟨counters, stepped, rfl⟩

/-- A round that does not end the wait. -/
theorem pollInclusion_eq_ok {counters next : Counters} :
    pollInclusion txHash config counters poll = .ok next ↔
      poll.isMined = false ∧
        (poll.isFailed config → (counters.after config poll).consecutiveTransportErrors <
          maxConsecutiveTransportErrors) ∧
        (poll.isAbsence config → (counters.after config poll).consecutiveMisses <
          max 1 config.droppedConsecutiveMisses) ∧
        next = counters.after config poll := by
  have counts : poll.isAbsence config → 1 ≤ (counters.after config poll).consecutiveMisses := by
    intro absent
    rw [Counters.after, Polling.count, missEffect_eq_adds.mpr absent]
    exact Nat.le_add_left _ _
  cases roundCase txHash config counters poll with
  | mined receipt block found included result =>
      have mined : poll.isMined = true := by simp [Poll.isMined, found, included]
      rw [result, mined]
      simp
  | gaveUp error failed many result =>
      rw [result]
      constructor
      · intro stepped
        cases stepped
      · rintro ⟨_, few, _⟩
        exact absurd many (Nat.not_le.mpr (few failed))
  | dropped absent many result =>
      rw [result]
      constructor
      · intro stepped
        cases stepped
      · rintro ⟨_, _, few, _⟩
        have few := few absent
        have positive := counts absent
        omega
  | waits notMined fewErrors fewMisses result =>
      rw [result]
      constructor
      · intro stepped
        cases stepped
        exact ⟨notMined, fewErrors, fun absent => lt_max_of_lt_right (fewMisses absent), rfl⟩
      · rintro ⟨_, _, _, same⟩
        rw [same]

/-- A wait goes on as long as it is not over, with what it has counted. -/
theorem foldlM_eq_ok_iff (txHash : TxHash)
    (clock : rounds.Pairwise fun first second => first.elapsed ≤ second.elapsed)
    {counters : Counters} :
    rounds.foldlM (pollInclusion txHash config) {} = .ok counters ↔
      ¬ Over config rounds ∧ counters = countedOver config rounds := by
  induction rounds using List.reverseRecOn generalizing counters with
  | nil =>
      constructor
      · intro ran
        cases ran
        exact ⟨not_over_nil, rfl⟩
      · intro ⟨_, same⟩
        rw [same]
        rfl
  | append_singleton rounds poll ih =>
      have earlier := (List.pairwise_append.mp clock).1
      rw [foldlM_concat_eq_ok, over_concat_iff clock, countedOver_concat]
      constructor
      · intro ⟨middle, ran, stepped⟩
        obtain ⟨going, rfl⟩ := (ih earlier).mp ran
        obtain ⟨notMined, fewErrors, fewMisses, same⟩ := pollInclusion_eq_ok.mp stepped
        refine ⟨?_, same⟩
        rintro (ended | mined | ⟨failed, many⟩ | ⟨absent, many⟩)
        · exact going ended
        · rw [notMined] at mined
          cases mined
        · exact absurd many (Nat.not_le.mpr (fewErrors failed))
        · exact absurd many (Nat.not_le.mpr (fewMisses absent))
      · intro ⟨going, same⟩
        simp only [not_or, not_and, Nat.not_le, Bool.not_eq_true] at going
        obtain ⟨goes, notMined, fewErrors, fewMisses⟩ := going
        refine ⟨_, (ih earlier).mpr ⟨goes, rfl⟩, ?_⟩
        exact pollInclusion_eq_ok.mpr ⟨notMined, fewErrors, fewMisses, same⟩

end Rounds

/-! ## The end of a wait -/

section End

variable {txHash : TxHash} {config : ReceiptWaitConfig} {polls : Polls Log}

/-- A wait that did not time out was ended by the last of its rounds. -/
theorem exists_round {outcome : Inclusion Log}
    (ended : polls.rounds.foldlM (pollInclusion txHash config) {} = .error outcome) :
    ∃ before poll after, polls.rounds = before ++ poll :: after ∧
      inclusionRounds txHash config polls = before ++ [poll] ∧ ¬ Over config before ∧
      pollInclusion txHash config (countedOver config before) poll = .error outcome := by
  obtain ⟨before, poll, after, middle, rounds, ran, last⟩ := Polling.exists_of_error ended
  have clock := polls.clock
  rw [rounds] at clock
  obtain ⟨going, rfl⟩ := (foldlM_eq_ok_iff txHash (List.pairwise_append.mp clock).1).mp ran
  refine ⟨before, poll, after, rounds, ?_, going, last⟩
  rw [inclusionRounds, rounds]
  exact Polling.polled_of_ended ran last

theorem clock_of_split {before after : List (Poll Log)} {poll : Poll Log}
    (rounds : polls.rounds = before ++ poll :: after) :
    (before ++ [poll]).Pairwise fun first second => first.elapsed ≤ second.elapsed := by
  have clock := polls.clock
  rw [rounds, List.append_cons] at clock
  exact (List.pairwise_append.mp clock).1

/-- An error other than the timeout is the verdict of a round. -/
theorem ended_of_error {error : EvmError}
    (failed : waitForInclusion txHash config polls = .error error)
    (early : ∀ secs, error ≠ .receiptTimeout txHash secs) :
    polls.rounds.foldlM (pollInclusion txHash config) {} = .error (.error error) := by
  rw [waitForInclusion] at failed
  split at failed
  case h_1 outcome ended => rw [ended, failed]
  case h_2 =>
      cases failed
      exact absurd rfl (early _)

theorem waitForInclusion_of_ended {outcome : Inclusion Log}
    (ended : polls.rounds.foldlM (pollInclusion txHash config) {} = .error outcome) :
    waitForInclusion txHash config polls = outcome := by
  rw [waitForInclusion, ended]

theorem transport_in_a_row {error : TransportError}
    (gaveUp : waitForInclusion txHash config polls = .error (.transport error)) :
    LastAll maxConsecutiveTransportErrors (fun poll => poll.isFailed config)
      (inclusionRounds txHash config polls) := by
  have ended := ended_of_error gaveUp (fun _ same => nomatch same)
  obtain ⟨before, poll, after, rounds, looked, _, last⟩ := exists_round ended
  rw [looked]
  cases roundCase txHash config (countedOver config before) poll with
  | gaveUp error failed many result =>
      rw [← countedOver_concat] at many
      exact (failures_iff _).mp many
  | mined receipt block found included result =>
      rw [result] at last
      cases last
  | dropped absent many result =>
      rw [result] at last
      cases last
  | waits notMined fewErrors fewMisses result =>
      rw [result] at last
      cases last

/-- The round that drops a transaction has counted enough. -/
theorem counted_of_dropped {before : List (Poll Log)} {poll : Poll Log} {secs : Nat}
    (last : pollInclusion txHash config (countedOver config before) poll =
      .error (.error (.transactionDropped txHash secs))) :
    poll.isAbsence config ∧ config.droppedConsecutiveMisses ≤
      (countedOver config (before ++ [poll])).consecutiveMisses := by
  cases roundCase txHash config (countedOver config before) poll with
  | dropped absent many result =>
      rw [countedOver_concat]
      exact ⟨absent, many⟩
  | gaveUp error failed many result =>
      rw [result] at last
      cases last
  | mined receipt block found included result =>
      rw [result] at last
      cases last
  | waits notMined fewErrors fewMisses result =>
      rw [result] at last
      cases last

theorem dropped_of_counted (txHash : TxHash) {before : List (Poll Log)} {poll : Poll Log}
    (absent : poll.isAbsence config)
    (many : config.droppedConsecutiveMisses ≤
      (countedOver config (before ++ [poll])).consecutiveMisses) :
    pollInclusion txHash config (countedOver config before) poll =
      .error (.error (.transactionDropped txHash (asSecs poll.reportedAt))) := by
  rw [countedOver_concat, Counters.after, Polling.count, missEffect_eq_adds.mpr absent] at many
  have late := isLate_of_isAbsence absent
  rw [Poll.isAbsence] at absent
  split at absent
  case h_2 => cases absent
  case h_1 noReceipt noMempool =>
      have early : ¬ poll.elapsed < config.droppedGrace := by
        simpa [Poll.isLate] using late
      rw [pollInclusion, noReceipt]
      dsimp only
      rw [classifyPendingReceipt, if_neg early, noMempool]
      dsimp only
      rw [if_pos many]

theorem mined_at_once {poll : Poll Log} (looked : poll ∈ inclusionRounds txHash config polls)
    {receipt : TransactionReceipt Log} {block : Nat}
    (found : poll.receipt = .ok (some receipt)) (included : receipt.blockNumber = some block) :
    waitForInclusion txHash config polls = .ok (receipt, block) ∧
      (inclusionRounds txHash config polls).getLast? = some poll := by
  obtain ⟨before, after, middle, rounds, ran⟩ := Polling.exists_of_mem_polled looked
  have result : pollInclusion txHash config middle poll = .error (.ok (receipt, block)) := by
    simp [pollInclusion, found, included]
  constructor
  · apply waitForInclusion_of_ended
    rw [rounds]
    exact Polling.foldlM_of_ended ran result
  · rw [inclusionRounds, rounds, Polling.polled_of_ended ran result]
    exact List.getLast?_concat

/-- Absences with no blind round among them are in a row. -/
theorem Gathers.lastAll {stretch rounds : List (Poll Log)} (gathers : Gathers config stretch)
    (positive : 0 < config.droppedConsecutiveMisses) (suffix : stretch <:+ rounds)
    (sharp : ¬ ∃ poll ∈ stretch, poll.isBlind) :
    LastAll config.droppedConsecutiveMisses (fun poll => poll.isAbsence config) rounds := by
  have all : ∀ poll ∈ stretch, poll.isAbsence config := by
    intro poll listed
    obtain absent | blind := gathers.between poll listed
    · exact absent
    · exact absurd ⟨poll, listed, blind⟩ sharp
  have long : stretch.length = config.droppedConsecutiveMisses := by
    have enough := gathers.enough
    rw [List.countP_eq_length.mpr all] at enough
    omega
  have last := Polling.lastAll_of_suffix suffix all
  rwa [long] at last

/-- A blind round makes a stretch longer than its absences. -/
theorem Gathers.not_lastAll {stretch rounds : List (Poll Log)} (gathers : Gathers config stretch)
    (suffix : stretch <:+ rounds) (blind : ∃ poll ∈ stretch, poll.isBlind) :
    ¬ LastAll config.droppedConsecutiveMisses (fun poll => poll.isAbsence config) rounds := by
  rintro ⟨long, all⟩
  obtain ⟨first, begins, absent⟩ := gathers.begins
  obtain ⟨rest, rfl⟩ : ∃ rest, stretch = first :: rest := List.head?_eq_some_iff.mp begins
  obtain ⟨poll, listed, blind⟩ := blind
  have sharp : ∀ poll : Poll Log, poll.isBlind → ¬ poll.isAbsence config := fun poll blind present =>
    absurd blind (by simp [not_isBlind_of_isAbsence present])
  have among : poll ∈ rest := by
    obtain rfl | among := List.mem_cons.mp listed
    · exact absurd absent (sharp poll blind)
    · exact among
  -- The last round is an absence, and not the first one.
  have two : 0 < rest.countP (·.isAbsence config) := by
    obtain ⟨last, ends, absent⟩ := gathers.ends
    rw [List.getLast?_cons_of_ne_nil (List.ne_nil_of_mem among)] at ends
    exact List.countP_pos_iff.mpr ⟨last, List.mem_of_getLast? ends, absent⟩
  have counts : rest.countP (·.isAbsence config) + 1 = max 1 config.droppedConsecutiveMisses := by
    rw [← gathers.enough, List.countP_cons_of_pos absent]
  have blinds : 0 < rest.countP (fun poll => ¬ (poll.isAbsence config : Prop)) :=
    List.countP_pos_iff.mpr ⟨poll, among, by simpa using sharp poll blind⟩
  have lengths := List.length_eq_countP_add_countP (l := rest) (p := (·.isAbsence config))
  have short : (rounds.rtake config.droppedConsecutiveMisses).length =
      config.droppedConsecutiveMisses := by
    rw [List.rtake, List.length_drop]
    omega
  have within : rounds.rtake config.droppedConsecutiveMisses <:+ rest := by
    apply List.suffix_of_suffix_length_le (List.drop_suffix _ _) ((List.suffix_cons _ _).trans suffix)
    show (rounds.rtake config.droppedConsecutiveMisses).length ≤ _
    omega
  have few := within.sublist.countP_le (p := (·.isAbsence config))
  rw [List.countP_eq_length.mpr all] at few
  omega

end End

/-! ## The claim -/

section Claim

variable {txHash : TxHash} {config : ReceiptWaitConfig} {polls : Polls Log}

theorem dropped_iff :
    (∀ secs, waitForInclusion txHash config polls = .error (.transactionDropped txHash secs) →
      LastAll config.droppedConsecutiveMisses (fun poll => poll.isAbsence config)
        (inclusionRounds txHash config polls)) ↔
      Uninterrupted config polls := by
  constructor
  · intro inARow rounds stretch shorter suffix gathers blind
    by_contra going
    obtain ⟨last, ends, _⟩ := gathers.ends
    obtain ⟨before, rfl⟩ : ∃ before, rounds = before ++ [last] := by
      obtain ⟨earlier, rfl⟩ := suffix
      obtain ⟨front, rfl⟩ := List.getLast?_eq_some_iff.mp ends
      exact ⟨earlier ++ front, (List.append_assoc _ _ _).symm⟩
    obtain ⟨after, same⟩ := shorter
    have split : polls.rounds = before ++ last :: after := by
      rw [← same, List.append_assoc]
      rfl
    have clock := clock_of_split split
    rw [List.dropLast_concat] at going
    have ran := (foldlM_eq_ok_iff txHash (List.pairwise_append.mp clock).1).mpr
      ⟨going, rfl⟩
    have many := gathers.counted_le suffix
    have result := dropped_of_counted txHash (gathers.last suffix)
      ((Nat.le_max_right _ _).trans many)
    have looked : inclusionRounds txHash config polls = before ++ [last] := by
      rw [inclusionRounds, split]
      exact Polling.polled_of_ended ran result
    refine gathers.not_lastAll suffix blind ?_
    rw [← looked]
    apply inARow
    apply waitForInclusion_of_ended
    rw [split]
    exact Polling.foldlM_of_ended ran result
  · intro uninterrupted secs dropped
    have ended := ended_of_error dropped (fun _ same => nomatch same)
    obtain ⟨before, poll, after, rounds, looked, going, last⟩ := exists_round ended
    obtain ⟨absent, many⟩ := counted_of_dropped last
    rw [looked]
    obtain zero | positive := Nat.eq_zero_or_pos config.droppedConsecutiveMisses
    · rw [zero]
      exact ⟨Nat.zero_le _, by simp [List.rtake]⟩
    · obtain ⟨stretch, suffix, gathers⟩ :=
        exists_gathers (clock_of_split rounds) absent (by omega)
      apply gathers.lastAll positive suffix
      intro blind
      refine going ?_
      have ended := uninterrupted (before ++ [poll]) stretch
        ⟨after, by rw [rounds, ← List.append_cons]⟩ suffix gathers blind
      rwa [List.dropLast_concat] at ended

/-- Blind rounds are the only thing that comes between the absences of a drop. -/
theorem declaredInARow_iff (txHash : TxHash) (config : ReceiptWaitConfig) (polls : Polls Log)
    (burnConfig : Cctp.BurnDropConfig) (burnPolls : Cctp.BurnPolls Log) :
    DeclaredInARow txHash config polls burnConfig burnPolls ↔ Uninterrupted config polls := by
  constructor
  · intro declared
    exact dropped_iff.mp declared.dropped
  · intro uninterrupted
    exact {
      dropped := dropped_iff.mpr uninterrupted
      transport := fun _ gaveUp => transport_in_a_row gaveUp
      mined := fun _ looked _ _ found included => mined_at_once looked found included
      burn := Cctp.burnStatus_dropped }

/-- The receipt lookup fails between the first absence and the second. -/
def blindPolls : Polls Unit where
  rounds := [⟨.ok none, 30 * 1000000000, .ok none, 30 * 1000000000⟩,
    ⟨.error ⟨"timeout"⟩, 32 * 1000000000, .ok none, 32 * 1000000000⟩,
    ⟨.ok none, 34 * 1000000000, .ok none, 34 * 1000000000⟩,
    ⟨.ok none, 36 * 1000000000, .ok none, 36 * 1000000000⟩]
  clock := by decide

/-- The transaction is declared dropped although only two absences are in a row. -/
theorem dropped_across_failure :
    ¬ DeclaredInARow 7 .mainnetDefaults blindPolls .defaults ⟨[], .nil⟩ := by
  intro declared
  have dropped : waitForInclusion 7 .mainnetDefaults blindPolls =
      .error (.transactionDropped 7 36) := by decide +kernel
  exact absurd (declared.dropped 36 dropped) (by decide +kernel)

end Claim

end Liquidity.Receipts
