import Mathlib.Data.List.DropRight
import Mathlib.Data.List.Infix

/-!
# Loops that poll, and counters that start again

A loop looks at one answer after the other until one of them ends it. What it
has looked at by then is a prefix of the answers.

Such loops count things that have to happen several times in a row. An answer
adds to a counter, leaves it alone or sets it back; the counter is then the
number of additions since it was last set back.
-/

namespace Polling

/-! ## What a loop has looked at -/

section Loop

variable {σ α ε : Type} (step : σ → α → Except ε σ)

/-- The items a loop looks at. The last of them may have ended it. -/
def polled (state : σ) : List α → List α
  | [] => []
  | item :: items =>
      match step state item with
      | .ok next => item :: polled next items
      | .error _ => [item]

variable {step} {state : σ}

/-- A loop that was ended was ended by the last item it looked at. -/
theorem exists_of_error {items : List α} {e : ε} (ended : items.foldlM step state = .error e) :
    ∃ before item after middle, items = before ++ item :: after ∧
      before.foldlM step state = .ok middle ∧ step middle item = .error e := by
  induction items generalizing state with
  | nil => cases ended
  | cons first items ih =>
      rw [List.foldlM_cons] at ended
      cases stepped : step state first with
      | error e' =>
          rw [stepped] at ended
          cases ended
          exact ⟨[], first, items, state, rfl, rfl, stepped⟩
      | ok next =>
          rw [stepped] at ended
          obtain ⟨before, item, after, middle, rfl, ran, last⟩ := ih ended
          refine ⟨first :: before, item, after, middle, rfl, ?_, last⟩
          rw [List.foldlM_cons, stepped]
          exact ran

section Ended

variable {before after : List α} {item : α} {middle : σ} {e : ε}
  (ran : before.foldlM step state = .ok middle) (last : step middle item = .error e)
include ran last

theorem foldlM_of_ended : (before ++ item :: after).foldlM step state = .error e := by
  rw [List.foldlM_append, ran]
  show (item :: after).foldlM step middle = _
  rw [List.foldlM_cons, last]
  rfl

theorem polled_of_ended : polled step state (before ++ item :: after) = before ++ [item] := by
  induction before generalizing state with
  | nil =>
      cases ran
      rw [List.nil_append, polled, last]
      rfl
  | cons first before ih =>
      rw [List.foldlM_cons] at ran
      cases stepped : step state first with
      | error e' =>
          rw [stepped] at ran
          cases ran
      | ok next =>
          rw [stepped] at ran
          rw [List.cons_append, polled, stepped]
          exact congrArg (first :: ·) (ih ran)

end Ended

/-- The loop came to an item, and looked at it. -/
theorem exists_of_mem_polled {items : List α} {item : α}
    (looked : item ∈ polled step state items) :
    ∃ before after middle, items = before ++ item :: after ∧
      before.foldlM step state = .ok middle := by
  induction items generalizing state with
  | nil => cases looked
  | cons first items ih =>
      rw [polled] at looked
      cases stepped : step state first with
      | error e =>
          rw [stepped] at looked
          obtain rfl := List.mem_singleton.mp looked
          exact ⟨[], items, state, rfl, rfl⟩
      | ok next =>
          rw [stepped] at looked
          obtain rfl | looked := List.mem_cons.mp looked
          · exact ⟨[], items, state, rfl, rfl⟩
          · obtain ⟨before, after, middle, rfl, ran⟩ := ih looked
            refine ⟨first :: before, after, middle, rfl, ?_⟩
            rw [List.foldlM_cons, stepped]
            exact ran

end Loop

/-! ## The last items -/

section LastAll

variable {α : Type}

/-- There are this many items, and the last of them all have the property. -/
def LastAll (n : Nat) (p : α → Prop) (items : List α) : Prop :=
  n ≤ items.length ∧ ∀ item ∈ items.rtake n, p item

instance (n : Nat) (p : α → Prop) [DecidablePred p] (items : List α) :
    Decidable (LastAll n p items) :=
  inferInstanceAs (Decidable (n ≤ items.length ∧ ∀ item ∈ items.rtake n, p item))

theorem rtake_of_suffix {last items : List α} (suffix : last <:+ items) :
    items.rtake last.length = last := by
  obtain ⟨before, rfl⟩ := suffix
  rw [List.rtake, List.length_append, Nat.add_sub_cancel, List.drop_left]

theorem lastAll_of_suffix {p : α → Prop} {last items : List α} (suffix : last <:+ items)
    (all : ∀ item ∈ last, p item) : LastAll last.length p items := by
  refine ⟨suffix.length_le, ?_⟩
  rw [rtake_of_suffix suffix]
  exact all

theorem LastAll.last {n : Nat} {p : α → Prop} {items : List α} {item : α} (positive : 0 < n)
    (all : LastAll n p (items ++ [item])) : p item := by
  obtain ⟨k, rfl⟩ := Nat.exists_eq_succ_of_ne_zero positive.ne'
  apply all.2
  rw [List.rtake_concat_succ]
  exact List.mem_append_right _ List.mem_cons_self

end LastAll

/-! ## Counters -/

/-- What an item does to a counter. -/
inductive Effect where
  | adds
  | keeps
  | resets
  deriving DecidableEq, Repr

section Counter

variable {α : Type} (effect : α → Effect)

def count (before : Nat) (item : α) : Nat :=
  match effect item with
  | .adds => before + 1
  | .keeps => before
  | .resets => 0

/-- A counter that starts at zero. -/
def counted (items : List α) : Nat := items.foldl (count effect) 0

/-- How many items of a stretch add. -/
def additions (items : List α) : Nat := items.countP fun item => effect item = .adds

variable {effect}

@[simp] theorem counted_concat (items : List α) (item : α) :
    counted effect (items ++ [item]) = count effect (counted effect items) item := by
  simp [counted]

@[simp] theorem additions_cons (item : α) (items : List α) :
    additions effect (item :: items) =
      additions effect items + if effect item = .adds then 1 else 0 := by
  simp [additions, List.countP_cons]

theorem additions_concat (items : List α) (item : α) :
    additions effect (items ++ [item]) =
      additions effect items + if effect item = .adds then 1 else 0 := by
  simp [additions, List.countP_append, List.countP_cons]

/-- What was added at the end, with no reset in between, is counted. -/
theorem additions_le_counted {run items : List α} (suffix : run <:+ items)
    (never : ∀ item ∈ run, effect item ≠ .resets) :
    additions effect run ≤ counted effect items := by
  obtain ⟨before, rfl⟩ := suffix
  induction run using List.reverseRecOn with
  | nil => exact Nat.zero_le _
  | append_singleton run item ih =>
      have counted_before := ih fun other listed =>
        never other (List.mem_append_left _ listed)
      rw [← List.append_assoc, counted_concat, additions_concat, count]
      cases kind : effect item with
      | adds => simpa using counted_before
      | keeps => simpa using counted_before
      | resets => exact absurd kind (never item (by simp))

/-- A counter counts the additions of a stretch that begins with one of them and
has no reset. -/
theorem exists_run {n : Nat} {items : List α} (positive : 0 < n)
    (enough : n ≤ counted effect items) :
    ∃ first rest, (first :: rest) <:+ items ∧ effect first = .adds ∧
      (∀ item ∈ rest, effect item ≠ .resets) ∧ additions effect (first :: rest) = n := by
  induction items using List.reverseRecOn generalizing n with
  | nil =>
      have none_counted : counted effect ([] : List α) = 0 := rfl
      omega
  | append_singleton items item ih =>
      rw [counted_concat, count] at enough
      cases kind : effect item with
      | resets =>
          rw [kind] at enough
          dsimp only at enough
          omega
      | keeps =>
          rw [kind] at enough
          obtain ⟨first, rest, suffix, begins, never, exactly⟩ := ih positive enough
          obtain ⟨before, rfl⟩ := suffix
          refine ⟨first, rest ++ [item], ⟨before, by simp⟩, begins, ?_, ?_⟩
          · intro other listed
            obtain listed | last := List.mem_append.mp listed
            · exact never other listed
            · obtain rfl := List.mem_singleton.mp last
              rw [kind]
              decide
          · rw [← List.cons_append, additions_concat, exactly, kind]
            rfl
      | adds =>
          rw [kind] at enough
          dsimp only at enough
          by_cases alone : n = 1
          · refine ⟨item, [], List.suffix_append items [item], kind, by simp, ?_⟩
            rw [alone, additions_cons, kind]
            rfl
          · obtain ⟨first, rest, suffix, begins, never, exactly⟩ :=
              ih (n := n - 1) (by omega) (by omega)
            obtain ⟨before, rfl⟩ := suffix
            refine ⟨first, rest ++ [item], ⟨before, by simp⟩, begins, ?_, ?_⟩
            · intro other listed
              obtain listed | last := List.mem_append.mp listed
              · exact never other listed
              · obtain rfl := List.mem_singleton.mp last
                rw [kind]
                decide
            · rw [← List.cons_append, additions_concat, exactly, kind, if_pos rfl]
              omega

/-- Where every item of a stretch adds, its length is counted. -/
theorem additions_eq_length {run : List α} (all : ∀ item ∈ run, effect item = .adds) :
    additions effect run = run.length := by
  rw [additions, List.countP_eq_length]
  intro item listed
  simpa using all item listed

/-- A counter that is never kept counts the last items. -/
theorem le_counted_iff {n : Nat} {items : List α} (sharp : ∀ item ∈ items, effect item ≠ .keeps) :
    n ≤ counted effect items ↔ LastAll n (fun item => effect item = .adds) items := by
  constructor
  · intro enough
    by_cases positive : 0 < n
    · obtain ⟨first, rest, suffix, begins, never, exactly⟩ := exists_run positive enough
      have all : ∀ item ∈ first :: rest, effect item = .adds := by
        intro item listed
        obtain rfl | listed := List.mem_cons.mp listed
        · exact begins
        · have kept := sharp item (suffix.mem (List.mem_cons_of_mem _ listed))
          have reset := never item listed
          cases kind : effect item with
          | adds => rfl
          | keeps => exact absurd kind kept
          | resets => exact absurd kind reset
      rw [additions_eq_length all] at exactly
      rw [← exactly]
      exact lastAll_of_suffix suffix all
    · obtain rfl : n = 0 := by omega
      exact ⟨Nat.zero_le _, by simp [List.rtake]⟩
  · rintro ⟨long, all⟩
    have suffix : items.rtake n <:+ items := List.drop_suffix _ _
    have length : (items.rtake n).length = n := by
      rw [List.rtake, List.length_drop]
      omega
    rw [← length, ← additions_eq_length all]
    apply additions_le_counted suffix
    intro item listed
    rw [all item listed]
    decide

end Counter

end Polling
