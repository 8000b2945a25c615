import Mathlib.Algebra.BigOperators.Group.Finset.Piecewise
import Mathlib.Data.Finset.Sort
import Mathlib.Data.List.AList

/-!
# Maps that collect, and what they add up to

A map from keys to values is filled by going through a list once: each item is
added to the value of its key, or decides with it what the value becomes. What a
map holds under a key is all that matters for what its values add up to, so that
two maps with the same worth under every key have the same total, and the total
of grouped items is the sum over the items.
-/

namespace Grouping

variable {κ α β M : Type} [DecidableEq κ]

abbrev KeyMap (κ β : Type) := AList fun _ : κ => β

/-! ## Totals -/

section Total

variable [AddCommMonoid M]

def total (worth : β → M) (values : KeyMap κ β) : M :=
  (values.entries.map fun entry => worth entry.2).sum

/-- What is held under a key; a missing key is worth nothing. -/
def worthAt (worth : β → M) (values : KeyMap κ β) (key : κ) : M :=
  (values.lookup key).elim 0 worth

theorem worthAt_of_mem {worth : β → M} {values : KeyMap κ β} {entry : Sigma fun _ : κ => β}
    (listed : entry ∈ values.entries) : worthAt worth values entry.1 = worth entry.2 := by
  have held : values.lookup entry.1 = some entry.2 := AList.mem_lookup_iff.mpr listed
  rw [worthAt, held]
  rfl

theorem total_eq_sum_keys (worth : β → M) (values : KeyMap κ β) :
    total worth values = ∑ key ∈ values.keys.toFinset, worthAt worth values key := by
  rw [List.sum_toFinset _ values.keys_nodup, AList.keys, List.keys, List.map_map]
  refine congrArg List.sum (List.map_congr_left fun entry listed => ?_)
  exact (worthAt_of_mem listed).symm

/-- Any keys that cover the map give its total. -/
theorem total_eq_sum (worth : β → M) (values : KeyMap κ β) (keys : Finset κ)
    (covers : ∀ key ∈ values, key ∈ keys) :
    total worth values = ∑ key ∈ keys, worthAt worth values key := by
  rw [total_eq_sum_keys]
  refine Finset.sum_subset ?_ ?_
  · intro key listed
    exact covers key (AList.mem_keys.mpr (List.mem_toFinset.mp listed))
  · intro key _ missing
    have absent : key ∉ values := fun held =>
      missing (List.mem_toFinset.mpr (AList.mem_keys.mp held))
    rw [worthAt, AList.lookup_eq_none.mpr absent]
    rfl

theorem total_congr {β' : Type} {worth : β → M} {worth' : β' → M} {values : KeyMap κ β}
    {values' : KeyMap κ β'} (same : ∀ key, worthAt worth values key = worthAt worth' values' key) :
    total worth values = total worth' values' := by
  let keys := values.keys.toFinset ∪ values'.keys.toFinset
  rw [total_eq_sum worth values keys, total_eq_sum worth' values' keys]
  · exact Finset.sum_congr rfl fun key _ => same key
  · intro key held
    exact Finset.mem_union_right _ (List.mem_toFinset.mpr (AList.mem_keys.mp held))
  · intro key held
    exact Finset.mem_union_left _ (List.mem_toFinset.mpr (AList.mem_keys.mp held))

/-- Items are split up by their keys. -/
theorem sum_filter_key (key : α → κ) (worth : α → M) (items : List α) (keys : Finset κ)
    (covers : ∀ item ∈ items, key item ∈ keys) :
    ∑ k ∈ keys, ((items.filter fun item => key item = k).map worth).sum =
      (items.map worth).sum := by
  induction items with
  | nil => simp
  | cons item items ih =>
      have rest := ih fun other listed => covers other (List.mem_cons_of_mem _ listed)
      have here : ∀ k, (((item :: items).filter fun item => key item = k).map worth).sum =
          (if key item = k then worth item else 0) +
            ((items.filter fun item => key item = k).map worth).sum := by
        intro k
        by_cases same : key item = k <;> simp [same]
      simp only [here, Finset.sum_add_distrib, rest, List.map_cons, List.sum_cons]
      rw [Finset.sum_ite_eq, if_pos (covers item List.mem_cons_self)]

end Total

/-! ## Adding to the value of a key -/

/-- Every key starts from the same value. -/
def addTo (key : α → κ) (add : β → α → β) (start : β) (values : KeyMap κ β) (item : α) :
    KeyMap κ β :=
  values.insert (key item) (add ((values.lookup (key item)).getD start) item)

def groupBy (key : α → κ) (add : β → α → β) (start : β) (items : List α) : KeyMap κ β :=
  items.foldl (addTo key add start) ∅

section GroupBy

variable (key : α → κ) (add : β → α → β) (start : β)

theorem getD_foldl_addTo (items : List α) (values : KeyMap κ β) (k : κ) :
    ((items.foldl (addTo key add start) values).lookup k).getD start =
      (items.filter fun item => key item = k).foldl add ((values.lookup k).getD start) := by
  induction items generalizing values with
  | nil => rfl
  | cons item items ih =>
      rw [List.foldl_cons, ih]
      by_cases same : key item = k
      · subst same
        simp [addTo]
      · have other : k ≠ key item := fun equal => same equal.symm
        simp [addTo, same, AList.lookup_insert_ne other]

theorem mem_foldl_addTo (items : List α) (values : KeyMap κ β) (k : κ) :
    k ∈ items.foldl (addTo key add start) values ↔ k ∈ values ∨ ∃ item ∈ items, key item = k := by
  induction items generalizing values with
  | nil => simp
  | cons item items ih =>
      rw [List.foldl_cons, ih]
      simp only [addTo, AList.mem_insert, List.mem_cons, exists_eq_or_imp, eq_comm (a := k)]
      tauto

theorem mem_groupBy (items : List α) (k : κ) :
    k ∈ groupBy key add start items ↔ ∃ item ∈ items, key item = k := by
  simp [groupBy, mem_foldl_addTo]

/-- Under a key is what its items add up to, if there are any. -/
theorem getD_groupBy (items : List α) (k : κ) :
    ((groupBy key add start items).lookup k).getD start =
      (items.filter fun item => key item = k).foldl add start := by
  simp [groupBy, getD_foldl_addTo]

theorem lookup_groupBy {items : List α} {k : κ} {value : β}
    (held : (groupBy key add start items).lookup k = some value) :
    value = (items.filter fun item => key item = k).foldl add start := by
  rw [← getD_groupBy, held]
  rfl

/-- A value that counts its items is worth what they are. -/
theorem worthAt_groupBy [AddCommMonoid M] {worth : β → M} {itemWorth : α → M}
    (empty : worth start = 0)
    (added : ∀ value item, worth (add value item) = worth value + itemWorth item)
    (items : List α) (k : κ) :
    worthAt worth (groupBy key add start items) k =
      ((items.filter fun item => key item = k).map itemWorth).sum := by
  have counts : ∀ (items : List α) (value : β),
      worth (items.foldl add value) = worth value + (items.map itemWorth).sum := by
    intro items
    induction items with
    | nil => simp
    | cons item items ih =>
        intro value
        rw [List.foldl_cons, ih, added, List.map_cons, List.sum_cons, add_assoc]
  have held := getD_groupBy key add start items k
  rw [worthAt, ← zero_add (List.sum _), ← empty, ← counts, ← held]
  cases (groupBy key add start items).lookup k <;> rfl

/-- Grouping neither drops nor doubles an item. -/
theorem total_groupBy [AddCommMonoid M] {worth : β → M} {itemWorth : α → M}
    (empty : worth start = 0)
    (added : ∀ value item, worth (add value item) = worth value + itemWorth item)
    (items : List α) :
    total worth (groupBy key add start items) = (items.map itemWorth).sum := by
  have covers : ∀ item ∈ items, key item ∈ (items.map key).toFinset := fun item listed =>
    List.mem_toFinset.mpr (List.mem_map_of_mem listed)
  rw [total_eq_sum worth _ (items.map key).toFinset, ← sum_filter_key key itemWorth items _ covers]
  · exact Finset.sum_congr rfl fun k _ => worthAt_groupBy key add start empty added items k
  · intro k held
    obtain ⟨item, listed, rfl⟩ := (mem_groupBy key add start items k).mp held
    exact covers item listed

end GroupBy

/-! ## Letting each item decide -/

/-- An item gives its key a new value, or leaves the map as it is. -/
def decideFor (key : α → κ) (decision : α → Option β → Option β) (values : KeyMap κ β) (item : α) :
    KeyMap κ β :=
  match decision item (values.lookup (key item)) with
  | some value => values.insert (key item) value
  | none => values

section Decide

variable (key : α → κ) (decision : α → Option β → Option β)

theorem lookup_decideFor (values : KeyMap κ β) (item : α) :
    (decideFor key decision values item).lookup (key item) =
      (decision item (values.lookup (key item))).or (values.lookup (key item)) := by
  unfold decideFor
  cases decision item (values.lookup (key item)) <;> simp

theorem lookup_decideFor_ne {values : KeyMap κ β} {item : α} {k : κ} (other : k ≠ key item) :
    (decideFor key decision values item).lookup k = values.lookup k := by
  unfold decideFor
  cases decision item (values.lookup (key item)) <;> simp [AList.lookup_insert_ne other]

/-- A key that no item has keeps its value. -/
theorem lookup_foldl_decideFor_ne {items : List α} {values : KeyMap κ β} {k : κ}
    (other : ∀ item ∈ items, k ≠ key item) :
    (items.foldl (decideFor key decision) values).lookup k = values.lookup k := by
  induction items generalizing values with
  | nil => rfl
  | cons item items ih =>
      rw [List.foldl_cons, ih fun later listed => other later (List.mem_cons_of_mem _ listed)]
      exact lookup_decideFor_ne key decision (other item List.mem_cons_self)

/-- Where keys are distinct, an item decides on the value its key had before. -/
theorem lookup_foldl_decideFor {items : List α} (distinct : (items.map key).Nodup)
    {values : KeyMap κ β} {item : α} (listed : item ∈ items) :
    (items.foldl (decideFor key decision) values).lookup (key item) =
      (decision item (values.lookup (key item))).or (values.lookup (key item)) := by
  induction items generalizing values with
  | nil => cases listed
  | cons first items ih =>
      obtain ⟨fresh, distinct⟩ := List.nodup_cons.mp distinct
      rw [List.foldl_cons]
      cases listed with
      | head =>
          rw [lookup_foldl_decideFor_ne, lookup_decideFor]
          intro later listed same
          exact fresh (same ▸ List.mem_map_of_mem listed)
      | tail _ listed =>
          have other : key item ≠ key first := fun same =>
            fresh (same ▸ List.mem_map_of_mem listed)
          rw [ih distinct listed, lookup_decideFor_ne key decision other]

/-- A decision that keeps what a value is worth keeps the worth of every key. -/
theorem worthAt_foldl_decideFor [AddCommMonoid M] {worth : β → M}
    (keeps : ∀ item old value, decision item old = some value → worth value = old.elim 0 worth)
    (items : List α) (values : KeyMap κ β) (k : κ) :
    worthAt worth (items.foldl (decideFor key decision) values) k = worthAt worth values k := by
  induction items generalizing values with
  | nil => rfl
  | cons item items ih =>
      rw [List.foldl_cons, ih]
      by_cases same : k = key item
      · subst same
        rw [worthAt, lookup_decideFor, worthAt]
        cases decided : decision item (values.lookup (key item)) with
        | none => rfl
        | some value => exact keeps _ _ _ decided
      · rw [worthAt, lookup_decideFor_ne key decision same, worthAt]

end Decide

/-! ## Items filed under their own keys -/

/-- The last of several items with one key stays. -/
def fileBy (key : β → κ) (items : List β) : KeyMap κ β :=
  items.foldl (fun values item => values.insert (key item) item) ∅

/-- Every value is filed under its own key. -/
def Filed (key : β → κ) (values : KeyMap κ β) : Prop :=
  ∀ k value, values.lookup k = some value → key value = k

section Filed

variable (key : β → κ)

theorem filed_empty : Filed key (∅ : KeyMap κ β) := by
  intro k value held
  simp at held

variable {key}

theorem Filed.insert {values : KeyMap κ β} (filed : Filed key values) {k : κ} {value : β}
    (own : key value = k) : Filed key (values.insert k value) := by
  intro other held lookedUp
  by_cases same : other = k
  · subst same
    rw [AList.lookup_insert] at lookedUp
    cases lookedUp
    exact own
  · rw [AList.lookup_insert_ne same] at lookedUp
    exact filed other held lookedUp

theorem fileBy_filed (items : List β) : Filed key (fileBy key items) := by
  suffices every : ∀ values : KeyMap κ β, Filed key values →
      Filed key (items.foldl (fun values item => values.insert (key item) item) values) from
    every ∅ (filed_empty key)
  induction items with
  | nil => exact fun _ filed => filed
  | cons item items ih => exact fun values filed => ih _ (filed.insert rfl)

theorem Filed.foldl_decideFor {itemKey : α → κ} {decision : α → Option β → Option β}
    (own : ∀ item old value, (∀ held, old = some held → key held = itemKey item) →
      decision item old = some value → key value = itemKey item)
    (items : List α) {values : KeyMap κ β} (filed : Filed key values) :
    Filed key (items.foldl (decideFor itemKey decision) values) := by
  induction items generalizing values with
  | nil => exact filed
  | cons item items ih =>
      refine ih ?_
      unfold decideFor
      cases decided : decision item (values.lookup (itemKey item)) with
      | none => exact filed
      | some value =>
          exact filed.insert (own item _ value (fun held lookedUp => filed _ held lookedUp) decided)

/-- Items with distinct keys are all there, under their keys. -/
theorem lookup_fileBy {items : List β} (distinct : (items.map key).Nodup) {k : κ} {value : β} :
    (fileBy key items).lookup k = some value ↔ value ∈ items ∧ key value = k := by
  suffices every : ∀ values : KeyMap κ β, (∀ item ∈ items, key item ∉ values) →
      ((items.foldl (fun values item => values.insert (key item) item) values).lookup k =
          some value ↔
        (value ∈ items ∧ key value = k) ∨ values.lookup k = some value) by
    simpa [fileBy] using every ∅ (fun _ _ => AList.notMem_empty _)
  induction items with
  | nil => simp
  | cons item items ih =>
      intro values fresh
      obtain ⟨new, distinct⟩ := List.nodup_cons.mp distinct
      rw [List.foldl_cons, ih distinct]
      · by_cases same : k = key item
        · subst same
          have absent : values.lookup (key item) = none :=
            AList.lookup_eq_none.mpr (fresh item List.mem_cons_self)
          have other : ¬ (value ∈ items ∧ key value = key item) := fun ⟨listed, equal⟩ =>
            new (equal ▸ List.mem_map_of_mem listed)
          simp only [other, false_or, AList.lookup_insert, absent, reduceCtorEq, or_false,
            Option.some.injEq, List.mem_cons, or_and_right]
          exact ⟨fun equal => equal ▸ ⟨rfl, rfl⟩, fun ⟨equal, _⟩ => equal.symm⟩
        · rw [AList.lookup_insert_ne same]
          have other : ∀ value, key value = k → value ≠ item := fun value filed equal =>
            same (filed.symm.trans (congrArg key equal))
          simp only [List.mem_cons, or_and_right]
          have unrelated : ¬ (value = item ∧ key value = k) := fun ⟨equal, filed⟩ =>
            other value filed equal
          simp [unrelated]
      · intro later listed held
        rcases (AList.mem_insert _).mp held with same | held
        · exact new (same ▸ List.mem_map_of_mem listed)
        · exact fresh later (List.mem_cons_of_mem _ listed) held

theorem total_fileBy [AddCommMonoid M] (worth : β → M) {items : List β}
    (distinct : (items.map key).Nodup) :
    total worth (fileBy key items) = (items.map worth).sum := by
  suffices every : ∀ values : KeyMap κ β, (∀ item ∈ items, key item ∉ values) →
      total worth (items.foldl (fun values item => values.insert (key item) item) values) =
        total worth values + (items.map worth).sum by
    simpa [fileBy, total] using every ∅ (fun _ _ => AList.notMem_empty _)
  induction items with
  | nil => simp
  | cons item items ih =>
      intro values fresh
      obtain ⟨new, distinct⟩ := List.nodup_cons.mp distinct
      rw [List.foldl_cons, ih distinct]
      · rw [total, AList.entries_insert_of_notMem (fresh item List.mem_cons_self), List.map_cons,
          List.sum_cons, List.map_cons, List.sum_cons, ← add_assoc, add_comm (worth item)]
        rfl
      · intro later listed held
        rcases (AList.mem_insert _).mp held with same | held
        · exact new (same ▸ List.mem_map_of_mem listed)
        · exact fresh later (List.mem_cons_of_mem _ listed) held

end Filed

/-! ## Pairs collected into a map -/

/-- Of two pairs with one key, the later counts. -/
def collect (pairs : List (κ × β)) : KeyMap κ β :=
  pairs.foldl (fun values pair => values.insert pair.1 pair.2) ∅

theorem lookup_collect (pairs : List (κ × β)) (k : κ) :
    (collect pairs).lookup k =
      (pairs.filter fun pair => pair.1 = k).getLast?.map Prod.snd := by
  induction pairs using List.reverseRecOn with
  | nil => rfl
  | append_singleton pairs pair ih =>
      have last : collect (pairs ++ [pair]) = (collect pairs).insert pair.1 pair.2 := by
        rw [collect, List.foldl_concat]
        rfl
      rw [last, List.filter_append]
      by_cases own : pair.1 = k
      · subst own
        rw [AList.lookup_insert, List.filter_cons_of_pos (by simp), List.filter_nil,
          List.getLast?_concat]
        rfl
      · rw [AList.lookup_insert_ne (Ne.symm own), ih, List.filter_cons_of_neg (by simpa using own),
          List.filter_nil, List.append_nil]

/-- Of items listed under distinct keys, those of one key. -/
theorem filter_flatMap_key {entries : List (κ × β)} (distinct : (entries.map (·.1)).Nodup)
    {items : κ × β → List α} {key : α → κ}
    (filed : ∀ entry ∈ entries, ∀ item ∈ items entry, key item = entry.1) {entry : κ × β}
    (listed : entry ∈ entries) :
    (entries.flatMap items).filter (fun item => key item = entry.1) = items entry := by
  induction entries with
  | nil => cases listed
  | cons first entries ih =>
      obtain ⟨fresh, distinct⟩ := List.nodup_cons.mp distinct
      have others := fun other among => filed other (List.mem_cons_of_mem _ among)
      rw [List.flatMap_cons, List.filter_append]
      cases listed with
      | head =>
          have kept : (items entry).filter (fun item => key item = entry.1) = items entry :=
            List.filter_eq_self.mpr fun item among =>
              decide_eq_true (filed entry List.mem_cons_self item among)
          have none : (entries.flatMap items).filter (fun item => key item = entry.1) = [] := by
            rw [List.filter_eq_nil_iff]
            intro item among same
            obtain ⟨other, later, own⟩ := List.mem_flatMap.mp among
            have filedHere := (others other later item own).symm.trans (of_decide_eq_true same)
            exact fresh (List.mem_map.mpr ⟨other, later, filedHere⟩)
          rw [kept, none, List.append_nil]
      | tail _ listed =>
          have none : (items first).filter (fun item => key item = entry.1) = [] := by
            rw [List.filter_eq_nil_iff]
            intro item among same
            have filedHere := (filed first List.mem_cons_self item among).symm.trans
              (of_decide_eq_true same)
            exact fresh (List.mem_map.mpr ⟨entry, listed, filedHere.symm⟩)
          rw [none, List.nil_append]
          exact ih distinct others listed

/-! ## What holds of every value -/

section Every

def Every (P : β → Prop) (values : KeyMap κ β) : Prop :=
  ∀ k value, values.lookup k = some value → P value

variable {P : β → Prop} {key : α → κ}

theorem every_empty : Every P (∅ : KeyMap κ β) := by
  intro k value held
  cases held

theorem Every.insert {values : KeyMap κ β} (every : Every P values) (k : κ) {value : β}
    (also : P value) : Every P (values.insert k value) := by
  intro other held lookedUp
  by_cases same : other = k
  · subst same
    rw [AList.lookup_insert, Option.some.injEq] at lookedUp
    rwa [← lookedUp]
  · rw [AList.lookup_insert_ne same] at lookedUp
    exact every other held lookedUp

/-- What holds of the start and survives adding holds of all that is grouped. -/
theorem every_groupBy {add : β → α → β} {start : β} {items : List α} (empty : P start)
    (added : ∀ value, P value → ∀ item ∈ items, P (add value item)) :
    Every P (groupBy key add start items) := by
  intro k value held
  rw [lookup_groupBy key add start held]
  refine List.foldlRecOn _ add empty ?_
  intro value holds item listed
  exact added value holds item (List.mem_filter.mp listed).1

theorem Every.foldl_decideFor {decision : α → Option β → Option β} {items : List α}
    {values : KeyMap κ β} (every : Every P values)
    (decided : ∀ item ∈ items, ∀ old value, (∀ held ∈ old, P held) →
      decision item old = some value → P value) :
    Every P (items.foldl (decideFor key decision) values) := by
  refine List.foldlRecOn _ _ every ?_
  intro values every item listed
  unfold decideFor
  cases chosen : decision item (values.lookup (key item)) with
  | none => exact every
  | some value =>
      exact every.insert _ (decided item listed _ value (fun held => every _ held) chosen)

theorem every_fileBy {key : β → κ} {items : List β} (all : ∀ item ∈ items, P item) :
    Every P (fileBy key items) := by
  refine List.foldlRecOn items (fun values item => values.insert (key item) item) every_empty ?_
  intro values every item listed
  exact every.insert _ (all item listed)

end Every

/-! ## Values in the order of their keys -/

section Sorted

variable [LinearOrder κ]

/-- The values of a map, in the order of what they are filed under. -/
def sortedValues (key : β → κ) (values : KeyMap κ β) : List β :=
  (values.entries.map (·.2)).insertionSort fun first second => key first ≤ key second

theorem mem_sortedValues {key : β → κ} {values : KeyMap κ β} {value : β} :
    value ∈ sortedValues key values ↔ ∃ k, values.lookup k = some value := by
  rw [sortedValues, (List.perm_insertionSort _ _).mem_iff, List.mem_map]
  constructor
  · rintro ⟨⟨k, value⟩, listed, rfl⟩
    exact ⟨k, AList.mem_lookup_iff.mpr listed⟩
  · rintro ⟨k, held⟩
    exact ⟨⟨k, value⟩, AList.mem_lookup_iff.mp held, rfl⟩

omit [DecidableEq κ] in
theorem sum_sortedValues [AddCommMonoid M] (worth : β → M) (key : β → κ) (values : KeyMap κ β) :
    ((sortedValues key values).map worth).sum = total worth values := by
  rw [sortedValues, ((List.perm_insertionSort _ _).map worth).sum_eq, List.map_map]
  rfl

theorem Filed.map_sortedValues {key : β → κ} {values : KeyMap κ β} (filed : Filed key values) :
    ((sortedValues key values).map key).Nodup := by
  have keys : values.entries.map (fun entry => key entry.2) = values.keys := by
    refine List.map_congr_left fun entry listed => ?_
    exact filed _ _ (AList.mem_lookup_iff.mpr listed)
  rw [sortedValues, ((List.perm_insertionSort _ _).map key).nodup_iff, List.map_map]
  show (values.entries.map fun entry => key entry.2).Nodup
  rw [keys]
  exact values.keys_nodup

/-- The map itself, in the order of its keys. -/
def sortedEntries (values : KeyMap κ β) : List (κ × β) :=
  (values.entries.map fun entry => (entry.1, entry.2)).insertionSort
    fun first second => first.1 ≤ second.1

theorem mem_sortedEntries {values : KeyMap κ β} {k : κ} {value : β} :
    (k, value) ∈ sortedEntries values ↔ values.lookup k = some value := by
  rw [sortedEntries, (List.perm_insertionSort _ _).mem_iff, List.mem_map]
  constructor
  · rintro ⟨⟨k, value⟩, listed, ⟨⟩⟩
    exact AList.mem_lookup_iff.mpr listed
  · intro held
    exact ⟨⟨k, value⟩, AList.mem_lookup_iff.mp held, rfl⟩

omit [DecidableEq κ] in
theorem sum_sortedEntries [AddCommMonoid M] (worth : β → M) (values : KeyMap κ β) :
    ((sortedEntries values).map fun entry => worth entry.2).sum = total worth values := by
  rw [sortedEntries, ((List.perm_insertionSort _ _).map _).sum_eq, List.map_map]
  rfl

omit [DecidableEq κ] in
theorem keys_sortedEntries (values : KeyMap κ β) : ((sortedEntries values).map (·.1)).Nodup := by
  rw [sortedEntries, ((List.perm_insertionSort _ _).map _).nodup_iff, List.map_map]
  exact values.keys_nodup

omit [DecidableEq κ] in
theorem sortedEntries_eq_nil {values : KeyMap κ β} :
    sortedEntries values = [] ↔ values.entries = [] := by
  rw [← List.length_eq_zero_iff, sortedEntries, List.length_insertionSort, List.length_map,
    List.length_eq_zero_iff]

end Sorted

end Grouping
