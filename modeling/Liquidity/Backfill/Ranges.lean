import Mathlib.Data.List.Basic
import Mathlib.Algebra.Order.Group.Nat

/-!
# Block ranges

Where a scan resumes and how its range is cut into batches. Block numbers are
64-bit words, so the sums are checked: a sum that does not fit has no result.
-/

namespace Liquidity.Backfill

/-- The largest block number the checkpoint table can hold. -/
def i64Max : Nat := 2 ^ 63 - 1

/-- The sum of two 64-bit words, if it is one. -/
def checkedAdd (a b : Nat) : Option Nat := if a + b < 2 ^ 64 then some (a + b) else none

/-- The difference of two 64-bit words, if it is one. -/
def checkedSub (a b : Nat) : Option Nat := if b ≤ a then some (a - b) else none

/-- The block after the checkpoint, but never one before the deployment. -/
def backfillStartFromCheckpoint (checkpoint : Option Nat) (deploymentBlock : Nat) :
    Option Nat :=
  match checkpoint with
  | none => some deploymentBlock
  | some lastProcessedBlock => (checkedAdd lastProcessedBlock 1).map (max · deploymentBlock)

def backfillBatchSize : Nat := 1000

/-- Every `step`-th number from `first` up to and including `last`. -/
def stepBy (first last step : Nat) : List Nat :=
  if first ≤ last then List.range' first ((last - first) / step + 1) step else []

/-- The batch that starts at a block. -/
def batchFrom (endBlock batchStart : Nat) : Option (Nat × Nat) := do
  let past ← checkedAdd batchStart backfillBatchSize
  let last ← checkedSub past 1
  pure (batchStart, min last endBlock)

def generateBatchRanges (startBlock endBlock : Nat) : Option (List (Nat × Nat)) :=
  (stepBy startBlock endBlock backfillBatchSize).mapM (batchFrom endBlock)

/-! ## What a checkpoint leads to -/

theorem checkedAdd_eq_some {a b : Nat} (fits : a + b < 2 ^ 64) : checkedAdd a b = some (a + b) :=
  if_pos fits

/-- A scan resumes past the deployment and right after the checkpoint. -/
theorem backfillStart_spec {checkpoint : Option Nat} {deploymentBlock start : Nat}
    (resumes : backfillStartFromCheckpoint checkpoint deploymentBlock = some start) :
    deploymentBlock ≤ start ∧ ∀ block, deploymentBlock ≤ block → block < start →
      ∃ last, checkpoint = some last ∧ block ≤ last := by
  cases checkpoint with
  | none =>
      cases resumes
      exact ⟨le_refl _, fun block later before => absurd later (by omega)⟩
  | some last =>
      simp only [backfillStartFromCheckpoint, checkedAdd] at resumes
      split at resumes
      case isFalse => cases resumes
      case isTrue =>
        cases resumes
        refine ⟨le_max_right _ _, fun block later before => ⟨last, rfl, ?_⟩⟩
        rcases lt_max_iff.mp before with soon | early
        · omega
        · omega

theorem backfillStart_isSome {checkpoint : Option Nat}
    (small : ∀ last, checkpoint = some last → last ≤ i64Max) (deploymentBlock : Nat) :
    (backfillStartFromCheckpoint checkpoint deploymentBlock).isSome = true := by
  cases checkpoint with
  | none => rfl
  | some last =>
      have bound := small last rfl
      have fits : last + 1 < 2 ^ 64 := by
        simp only [i64Max] at bound
        omega
      simp [backfillStartFromCheckpoint, checkedAdd_eq_some fits]

/-! ## What the batches cover -/

theorem mem_stepBy {first last step n : Nat} :
    n ∈ stepBy first last step ↔
      first ≤ last ∧ ∃ i, i ≤ (last - first) / step ∧ n = first + step * i := by
  unfold stepBy
  split
  case isTrue ordered =>
    simp only [List.mem_range', ordered, true_and]
    constructor
    · rintro ⟨i, below, rfl⟩
      exact ⟨i, by omega, rfl⟩
    · rintro ⟨i, below, rfl⟩
      exact ⟨i, by omega, rfl⟩
  case isFalse disordered => simp [disordered]

theorem stepBy_bounds {first last step n : Nat} (listed : n ∈ stepBy first last step) :
    first ≤ n ∧ n ≤ last := by
  obtain ⟨ordered, i, below, rfl⟩ := mem_stepBy.mp listed
  have : step * i ≤ last - first :=
    (Nat.mul_le_mul_left step below).trans (Nat.mul_div_le _ _)
  omega

theorem batchFrom_isSome {endBlock batchStart : Nat} (small : batchStart ≤ i64Max) :
    (batchFrom endBlock batchStart).isSome = true := by
  have fits : batchStart + backfillBatchSize < 2 ^ 64 := by
    simp only [i64Max] at small
    simp only [backfillBatchSize]
    omega
  have past : 1 ≤ batchStart + backfillBatchSize := by
    simp only [backfillBatchSize]
    omega
  simp [batchFrom, checkedAdd_eq_some fits, checkedSub, past]

theorem batchFrom_spec {endBlock batchStart : Nat} {batch : Nat × Nat}
    (is : batchFrom endBlock batchStart = some batch) :
    batch = (batchStart, min (batchStart + backfillBatchSize - 1) endBlock) := by
  simp only [batchFrom, Option.bind_eq_bind, Option.bind_eq_some_iff] at is
  obtain ⟨past, added, last, subtracted, done⟩ := is
  simp only [checkedAdd, Option.ite_none_right_eq_some, Option.some.injEq] at added
  simp only [checkedSub, Option.ite_none_right_eq_some, Option.some.injEq] at subtracted
  obtain ⟨-, rfl⟩ := added
  obtain ⟨-, rfl⟩ := subtracted
  exact (Option.some.inj done).symm

/-- No sum overflows as long as the range can be recorded at all. -/
theorem generateBatchRanges_isSome {startBlock endBlock : Nat} (small : endBlock ≤ i64Max) :
    (generateBatchRanges startBlock endBlock).isSome = true := by
  have batches : ∀ starts : List Nat, (∀ start ∈ starts, start ≤ endBlock) →
      (starts.mapM (batchFrom endBlock)).isSome = true := by
    intro starts
    induction starts with
    | nil => intro; rfl
    | cons start rest ih =>
        intro bounded
        obtain ⟨batch, here⟩ := Option.isSome_iff_exists.mp
          (@batchFrom_isSome endBlock start ((bounded start (by simp)).trans small))
        obtain ⟨others, there⟩ := Option.isSome_iff_exists.mp
          (ih fun later member => bounded later (by simp [member]))
        simp [List.mapM_cons, here, there]
  exact batches _ fun start listed => (stepBy_bounds listed).2

/-- Each element contributes to a list that was computed element by element. -/
theorem mapM_mem {α β : Type} {f : α → Option β} {input : List α} {output : List β}
    (is : input.mapM f = some output) {a : α} (listed : a ∈ input) : ∃ b ∈ output, f a = some b := by
  induction input generalizing output with
  | nil => cases listed
  | cons head tail ih =>
      simp only [List.mapM_cons, Option.bind_eq_bind, Option.bind_eq_some_iff] at is
      obtain ⟨first, here, rest, there, done⟩ := is
      cases done
      rcases List.mem_cons.mp listed with rfl | member
      · exact ⟨first, by simp, here⟩
      · obtain ⟨b, found, fits⟩ := ih there member
        exact ⟨b, by simp [found], fits⟩

/-- Every block of the range is in a batch. -/
theorem generateBatchRanges_covers {startBlock endBlock : Nat} {batches : List (Nat × Nat)}
    (is : generateBatchRanges startBlock endBlock = some batches) {block : Nat}
    (after : startBlock ≤ block) (upTo : block ≤ endBlock) :
    ∃ batch ∈ batches, batch.1 ≤ block ∧ block ≤ batch.2 := by
  let i := (block - startBlock) / backfillBatchSize
  have positive : 0 < backfillBatchSize := by decide
  have lower : backfillBatchSize * i ≤ block - startBlock := Nat.mul_div_le _ _
  have upper : block - startBlock < backfillBatchSize * i + backfillBatchSize :=
    Nat.lt_mul_div_succ _ positive
  have listed : startBlock + backfillBatchSize * i ∈
      stepBy startBlock endBlock backfillBatchSize := by
    refine mem_stepBy.mpr ⟨after.trans upTo, i, ?_, rfl⟩
    have shorter : block - startBlock ≤ endBlock - startBlock := by omega
    exact Nat.div_le_div_right shorter
  obtain ⟨batch, member, begins⟩ := mapM_mem is listed
  refine ⟨batch, member, ?_⟩
  rw [batchFrom_spec begins]
  exact ⟨by omega, le_min (by omega) upTo⟩

end Liquidity.Backfill
