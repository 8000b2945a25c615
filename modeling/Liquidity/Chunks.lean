import Mathlib.Data.List.Range

/-!
# Walking a range backwards

A range is covered from its end to its floor in chunks of a bounded size, the last of
them cut at the floor. The chunks tile the range: put in order, they are the range.
-/

namespace Chunks

/-- All numbers from the first to the last. -/
structure Chunk where
  first : Nat
  last : Nat
  deriving DecidableEq, Repr

def Chunk.members (chunk : Chunk) : List Nat :=
  List.range' chunk.first (chunk.last + 1 - chunk.first)

@[simp] theorem Chunk.mem_members {chunk : Chunk} {n : Nat} :
    n ∈ chunk.members ↔ chunk.first ≤ n ∧ n ≤ chunk.last := by
  rw [members, List.mem_range'_1]
  omega

/-- Where the chunk with a given end starts. -/
def start (size floor last : Nat) : Nat := max (last - (size - 1)) floor

theorem start_le {size floor last : Nat} (above : floor ≤ last) : start size floor last ≤ last := by
  rw [start]
  omega

theorem floor_le_start (size floor last : Nat) : floor ≤ start size floor last :=
  le_max_right _ _

/-- A chunk that starts above the floor leaves a shorter range. -/
theorem pred_start_lt {size floor last : Nat} (above : ¬ start size floor last ≤ floor) :
    start size floor last - 1 < last := by
  rw [start] at above ⊢
  omega

def backwards (size floor last : Nat) : List Chunk :=
  if start size floor last ≤ floor then [⟨start size floor last, last⟩]
  else ⟨start size floor last, last⟩ :: backwards size floor (start size floor last - 1)
termination_by last
decreasing_by exact pred_start_lt ‹_›

/-- The chunks cover a range from its end down: each ends right before the one ahead of
it starts, and the last starts at the floor. -/
inductive Tiles (floor : Nat) : Nat → List Chunk → Prop where
  | last {last : Nat} : floor ≤ last → Tiles floor last [⟨floor, last⟩]
  | cons {first last : Nat} {chunks : List Chunk} : floor < first → first ≤ last →
      Tiles floor (first - 1) chunks → Tiles floor last (⟨first, last⟩ :: chunks)

theorem tiles_backwards (size : Nat) {floor last : Nat} (above : floor ≤ last) :
    Tiles floor last (backwards size floor last) := by
  induction last using Nat.strong_induction_on with
  | _ last ih =>
      rw [backwards]
      split
      case isTrue reached =>
          rw [le_antisymm reached (floor_le_start size floor last)]
          exact .last above
      case isFalse higher =>
          have starts : start size floor last ≤ last := start_le above
          refine .cons (not_le.mp higher) starts (ih _ (pred_start_lt higher) ?_)
          omega

theorem size_backwards {size floor last : Nat} {chunk : Chunk}
    (listed : chunk ∈ backwards size floor last) : chunk.last + 1 - chunk.first ≤ max size 1 := by
  have short : ∀ last, last + 1 - start size floor last ≤ max size 1 := by
    intro last
    rw [start]
    omega
  induction last using Nat.strong_induction_on with
  | _ last ih =>
      rw [backwards] at listed
      split at listed
      case isTrue =>
          rw [List.mem_singleton.mp listed]
          exact short last
      case isFalse higher =>
          cases listed with
          | head => exact short last
          | tail _ listed => exact ih _ (pred_start_lt higher) listed

namespace Tiles

variable {floor last : Nat} {chunks : List Chunk}

/-- No chunk is inverted, and none leaves the range. -/
theorem within (tiles : Tiles floor last chunks) :
    ∀ chunk ∈ chunks, floor ≤ chunk.first ∧ chunk.first ≤ chunk.last ∧ chunk.last ≤ last := by
  induction tiles with
  | last above =>
      intro chunk listed
      rw [List.mem_singleton.mp listed]
      exact ⟨le_rfl, above, le_rfl⟩
  | cons higher starts _ ih =>
      intro chunk listed
      cases listed with
      | head => exact ⟨higher.le, starts, le_rfl⟩
      | tail _ listed =>
          obtain ⟨low, proper, high⟩ := ih chunk listed
          exact ⟨low, proper, by omega⟩

/-- Without gap or overlap: in order, the chunks are the range. -/
theorem members_eq (tiles : Tiles floor last chunks) :
    chunks.reverse.flatMap Chunk.members = List.range' floor (last + 1 - floor) := by
  induction tiles with
  | last above => simp [Chunk.members]
  | @cons first last chunks higher starts _ ih =>
      rw [List.reverse_cons, List.flatMap_append, ih, List.flatMap_singleton, Chunk.members]
      have joins : floor + (first - 1 + 1 - floor) = first := by omega
      have counts : last + 1 - floor = (first - 1 + 1 - floor) + (last + 1 - first) := by omega
      rw [counts, ← List.range'_append_1, joins]

end Tiles

end Chunks
