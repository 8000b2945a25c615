import Mathlib.Algebra.Order.Field.Basic
import Mathlib.Algebra.BigOperators.Group.List.Basic
import Mathlib.Tactic.Ring

/-!
# Consuming a queue from its front

A queue of amounts, each with a tag. Something is taken from the queue, oldest
first: whole entries as long as they are used up, then a part of the next one.
What is taken and what is left is conserved under every weighting of the tags,
so that counts, values and the share of a single tag are all instances of one
statement.

`Walks` says that something is visited in order: what is taken from a queue, and
then what is left of it, walks along everything that was ever put in.
-/

namespace Fifo

variable {α K : Type} [Field K] [LinearOrder K] [IsStrictOrderedRing K]

/-- What a queue is worth when each tag has a weight. -/
def worth (weight : α → K) (queue : List (α × K)) : K :=
  (queue.map fun entry => weight entry.1 * entry.2).sum

def Stocked (queue : List (α × K)) : Prop := ∀ entry ∈ queue, 0 < entry.2

omit [LinearOrder K] [IsStrictOrderedRing K] in
@[simp] theorem worth_nil (weight : α → K) : worth weight ([] : List (α × K)) = 0 := rfl

omit [LinearOrder K] [IsStrictOrderedRing K] in
@[simp] theorem worth_cons (weight : α → K) (entry : α × K) (queue : List (α × K)) :
    worth weight (entry :: queue) = weight entry.1 * entry.2 + worth weight queue := by
  simp [worth]

omit [LinearOrder K] [IsStrictOrderedRing K] in
@[simp] theorem worth_append (weight : α → K) (first second : List (α × K)) :
    worth weight (first ++ second) = worth weight first + worth weight second := by
  simp [worth]

/-- What was taken, what is left in the queue, and what is still wanted. -/
structure Outcome (α K : Type) where
  taken : List (α × K)
  rest : List (α × K)
  wanted : K

def consume : List (α × K) → K → Outcome α K
  | [], wanted => ⟨[], [], wanted⟩
  | (tag, amount) :: rest, wanted =>
      if wanted = 0 then ⟨[], (tag, amount) :: rest, wanted⟩
      else if min wanted amount < amount then
        ⟨[(tag, min wanted amount)], (tag, amount - min wanted amount) :: rest,
          wanted - min wanted amount⟩
      else
        let later := consume rest (wanted - min wanted amount)
        { later with taken := (tag, min wanted amount) :: later.taken }

omit [IsStrictOrderedRing K] in
/-- The three ways to meet the front of a queue. -/
theorem consume_cases (tag : α) (amount : K) (rest : List (α × K)) {wanted : K}
    (least : 0 ≤ wanted) :
    (wanted = 0 ∧ consume ((tag, amount) :: rest) wanted = ⟨[], (tag, amount) :: rest, 0⟩) ∨
    (0 < wanted ∧ wanted < amount ∧ consume ((tag, amount) :: rest) wanted =
      ⟨[(tag, wanted)], (tag, amount - wanted) :: rest, 0⟩) ∨
    (0 < wanted ∧ amount ≤ wanted ∧ consume ((tag, amount) :: rest) wanted =
      { consume rest (wanted - amount) with
        taken := (tag, amount) :: (consume rest (wanted - amount)).taken }) := by
  rcases least.eq_or_lt with none | some
  · left
    refine ⟨none.symm, ?_⟩
    rw [consume, if_pos none.symm, ← none]
  · right
    rcases lt_or_ge wanted amount with part | whole
    · left
      refine ⟨some, part, ?_⟩
      simp [consume, some.ne', min_eq_left part.le, part]
    · right
      refine ⟨some, whole, ?_⟩
      simp [consume, some.ne', min_eq_right whole]

/-! ## What is conserved -/

variable {queue : List (α × K)} {wanted : K}

theorem worth_consume (weight : α → K) (least : 0 ≤ wanted) :
    worth weight (consume queue wanted).taken + worth weight (consume queue wanted).rest =
      worth weight queue := by
  induction queue generalizing wanted with
  | nil => simp [consume]
  | cons entry rest ih =>
      obtain ⟨tag, amount⟩ := entry
      rcases consume_cases tag amount rest least with
        ⟨_, used⟩ | ⟨_, _, used⟩ | ⟨_, whole, used⟩
      · simp [used]
      · simp only [used, worth_cons, worth_nil]
        ring
      · have later := ih (sub_nonneg.mpr whole)
        simp only [used, worth_cons, ← later]
        ring

/-- What is taken is what was wanted, up to what is still wanted. -/
theorem total_taken (least : 0 ≤ wanted) :
    worth (fun _ => 1) (consume queue wanted).taken = wanted - (consume queue wanted).wanted := by
  induction queue generalizing wanted with
  | nil => simp [consume]
  | cons entry rest ih =>
      obtain ⟨tag, amount⟩ := entry
      rcases consume_cases tag amount rest least with
        ⟨none, used⟩ | ⟨_, _, used⟩ | ⟨_, whole, used⟩
      · rw [used, none]
        simp
      · simp [used]
      · have later := ih (sub_nonneg.mpr whole)
        simp only [used, worth_cons, later]
        ring

/-! ## What is left -/

/-- No tag is made up. -/
theorem tags_of_queue (least : 0 ≤ wanted) {entry : α × K}
    (listed : entry ∈ (consume queue wanted).taken ∨ entry ∈ (consume queue wanted).rest) :
    ∃ amount, (entry.1, amount) ∈ queue := by
  induction queue generalizing wanted with
  | nil => simp [consume] at listed
  | cons front rest ih =>
      obtain ⟨tag, amount⟩ := front
      rcases consume_cases tag amount rest least with ⟨_, used⟩ | ⟨_, _, used⟩ | ⟨_, whole, used⟩
      · rw [used] at listed
        rcases listed with never | left
        · cases never
        · exact ⟨entry.2, left⟩
      · rw [used] at listed
        rcases listed with now | left
        · rw [List.mem_singleton.mp now]
          exact ⟨amount, List.mem_cons_self⟩
        · rcases List.mem_cons.mp left with rfl | later
          · exact ⟨amount, List.mem_cons_self⟩
          · exact ⟨entry.2, List.mem_cons_of_mem _ later⟩
      · rw [used] at listed
        have later : entry.1 = tag ∨ ∃ amount, (entry.1, amount) ∈ rest := by
          rcases listed with now | left
          · rcases List.mem_cons.mp now with rfl | more
            · exact .inl rfl
            · exact .inr (ih (sub_nonneg.mpr whole) (.inl more))
          · exact .inr (ih (sub_nonneg.mpr whole) (.inr left))
        rcases later with rfl | ⟨amount, known⟩
        · exact ⟨amount, List.mem_cons_self⟩
        · exact ⟨amount, List.mem_cons_of_mem _ known⟩

/-- As long as something is wanted, nothing is left. -/
theorem rest_eq_nil (least : 0 ≤ wanted) (more : (consume queue wanted).wanted ≠ 0) :
    (consume queue wanted).rest = [] := by
  induction queue generalizing wanted with
  | nil => rfl
  | cons entry rest ih =>
      obtain ⟨tag, amount⟩ := entry
      rcases consume_cases tag amount rest least with
        ⟨_, used⟩ | ⟨_, _, used⟩ | ⟨_, whole, used⟩
      · rw [used] at more
        exact absurd rfl more
      · rw [used] at more
        exact absurd rfl more
      · rw [used] at more ⊢
        exact ih (sub_nonneg.mpr whole) more

theorem wanted_nonneg (least : 0 ≤ wanted) : 0 ≤ (consume queue wanted).wanted := by
  induction queue generalizing wanted with
  | nil => exact least
  | cons entry rest ih =>
      obtain ⟨tag, amount⟩ := entry
      rcases consume_cases tag amount rest least with
        ⟨_, used⟩ | ⟨_, _, used⟩ | ⟨_, whole, used⟩
      · exact used ▸ le_refl 0
      · exact used ▸ le_refl 0
      · rw [used]
        exact ih (sub_nonneg.mpr whole)

theorem stocked_rest (stocked : Stocked queue) (least : 0 ≤ wanted) :
    Stocked (consume queue wanted).rest := by
  induction queue generalizing wanted with
  | nil => exact stocked
  | cons entry rest ih =>
      obtain ⟨tag, amount⟩ := entry
      rcases consume_cases tag amount rest least with
        ⟨_, used⟩ | ⟨_, part, used⟩ | ⟨_, whole, used⟩
      · rw [used]
        exact stocked
      · rw [used]
        intro left listed
        rcases List.mem_cons.mp listed with rfl | later
        · exact sub_pos.mpr part
        · exact stocked left (List.mem_cons_of_mem _ later)
      · rw [used]
        exact ih (fun left listed => stocked left (List.mem_cons_of_mem _ listed))
          (sub_nonneg.mpr whole)

/-! ## Oldest first -/

/-- Visits to the members of a list in their order, any number to each. -/
inductive Walks {β : Type} : List β → List β → Prop
  | nil : Walks [] []
  | skip {order visits : List β} (member : β) (walks : Walks order visits) :
      Walks (member :: order) visits
  | visit {order visits : List β} {member : β} (walks : Walks (member :: order) visits) :
      Walks (member :: order) (member :: visits)

namespace Walks

variable {β : Type} {order visits first second : List β}

/-- A new member is not visited yet. -/
theorem extend (walks : Walks order visits) (member : β) : Walks (order ++ [member]) visits := by
  induction walks with
  | nil => exact .skip member .nil
  | skip other _ ih => exact .skip other ih
  | visit _ ih => exact .visit ih

/-- A new member is visited last. -/
theorem concat (walks : Walks order visits) (member : β) :
    Walks (order ++ [member]) (visits ++ [member]) := by
  induction walks with
  | nil => exact .visit (.skip member .nil)
  | skip other _ ih => exact .skip other ih
  | visit _ ih => exact .visit ih

theorem none (order : List β) : Walks order [] := by
  induction order with
  | nil => exact .nil
  | cons member order ih => exact .skip member ih

/-- Later visits may be left out. -/
theorem left (walks : Walks order (first ++ second)) : Walks order first := by
  generalize whole : first ++ second = visits at walks
  induction walks generalizing first with
  | nil =>
      rw [(List.append_eq_nil_iff.mp whole).1]
      exact .nil
  | skip other _ ih => exact .skip other (ih whole)
  | @visit order visits member _ ih =>
      cases first with
      | nil => exact none _
      | cons head first =>
          obtain ⟨rfl, rest⟩ := List.cons_eq_cons.mp whole
          exact .visit (ih rest)

/-- A visit may be repeated at once. -/
theorem again {member : β} (walks : Walks order (first ++ member :: second)) :
    Walks order (first ++ member :: member :: second) := by
  generalize whole : first ++ member :: second = visits at walks
  induction walks generalizing first with
  | nil => simp at whole
  | skip other _ ih => exact .skip other (ih whole)
  | @visit order visits head walks ih =>
      cases first with
      | nil =>
          obtain ⟨rfl, rfl⟩ := List.cons_eq_cons.mp whole
          exact .visit (.visit walks)
      | cons other first =>
          obtain ⟨rfl, rest⟩ := List.cons_eq_cons.mp whole
          exact .visit (ih rest)

/-- What is taken from a queue, and then what is left of it, is visited in the
order of the queue. -/
theorem consume {mark : α → β} (least : 0 ≤ wanted)
    (walks : Walks order (first ++ queue.map fun entry => mark entry.1)) :
    Walks order ((first ++ (consume queue wanted).taken.map fun entry => mark entry.1) ++
      (Fifo.consume queue wanted).rest.map fun entry => mark entry.1) := by
  induction queue generalizing wanted first with
  | nil => simpa [Fifo.consume] using walks
  | cons entry rest ih =>
      obtain ⟨tag, amount⟩ := entry
      rcases consume_cases tag amount rest least with ⟨_, used⟩ | ⟨_, _, used⟩ | ⟨_, whole, used⟩
      · simpa [used] using walks
      · simpa [used] using walks.again
      · have past : Walks order ((first ++ [mark tag]) ++ rest.map fun entry => mark entry.1) := by
          simpa using walks
        simpa [used] using ih (sub_nonneg.mpr whole) past

end Walks

end Fifo
