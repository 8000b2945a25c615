import Mathlib.Algebra.Order.Ring.Rat
import Mathlib.Data.Rat.Floor

/-!
# Financial primitives

Amounts are decimal floats with checked arithmetic. The float library packs the
exact result of an operation into its format and may refuse to; that step is
the only thing left open here. A format in which every operation is exact and
total is `FloatFormat.exact`.

Quantities of shares and amounts of cash are newtypes around the same float in
the source, so they are one type here. Positive quantities carry their proof.
-/

namespace Liquidity

/-- Peel one step off a fallible computation that succeeded. -/
theorem bind_eq_ok {ε α β : Type} {x : Except ε α} {f : α → Except ε β} {b : β} :
    (x >>= f) = .ok b ↔ ∃ a, x = .ok a ∧ f a = .ok b := by
  cases x <;> simp [bind, Except.bind]

theorem bind_eq_error {ε α β : Type} {x : Except ε α} {f : α → Except ε β} {error : ε} :
    (x >>= f) = .error error ↔ x = .error error ∨ ∃ a, x = .ok a ∧ f a = .error error := by
  cases x <;> simp [bind, Except.bind]

theorem mapError_eq_ok {ε ε' α : Type} {x : Except ε α} {f : ε → ε'} {a : α} :
    x.mapError f = .ok a ↔ x = .ok a := by
  cases x <;> simp [Except.mapError]

/-- A list goes through if each of its items does. -/
theorem mapM_eq_ok {ε α β : Type} {f : α → Except ε β} {items : List α} {results : List β} :
    items.mapM f = .ok results ↔ List.Forall₂ (fun item result => f item = .ok result) items
      results := by
  induction items generalizing results with
  | nil =>
      rw [List.mapM_nil, List.forall₂_nil_left_iff]
      constructor
      · intro ran
        cases ran
        rfl
      · intro none
        rw [none]
        rfl
  | cons item items ih =>
      rw [List.mapM_cons, List.forall₂_cons_left_iff]
      constructor
      · intro ran
        obtain ⟨result, here, ran⟩ := bind_eq_ok.mp ran
        obtain ⟨others, there, ran⟩ := bind_eq_ok.mp ran
        cases ran
        exact ⟨result, others, here, ih.mp there, rfl⟩
      · intro ⟨result, others, here, there, same⟩
        rw [here, ih.mpr there, same]
        rfl

theorem mapM_eq_ok_map {ε α β : Type} {f : α → Except ε β} {g : α → β} {items : List α}
    (each : ∀ item ∈ items, f item = .ok (g item)) : items.mapM f = .ok (items.map g) := by
  rw [mapM_eq_ok, List.forall₂_map_right_iff, List.forall₂_same]
  exact each

theorem exists_item_of_mapM {ε α β : Type} {f : α → Except ε β} {items : List α}
    {results : List β} (ran : items.mapM f = .ok results) {result : β}
    (listed : result ∈ results) : ∃ item ∈ items, f item = .ok result := by
  have each := mapM_eq_ok.mp ran
  induction each with
  | nil => cases listed
  | cons here there ih =>
      cases listed with
      | head => exact ⟨_, List.mem_cons_self, here⟩
      | tail _ listed =>
          obtain ⟨item, among, gives⟩ := ih (mapM_eq_ok.mpr there) listed
          exact ⟨item, List.mem_cons_of_mem _ among, gives⟩

theorem exists_result_of_mapM {ε α β : Type} {f : α → Except ε β} {items : List α}
    {results : List β} (ran : items.mapM f = .ok results) {item : α} (listed : item ∈ items) :
    ∃ result ∈ results, f item = .ok result := by
  have each := mapM_eq_ok.mp ran
  induction each with
  | nil => cases listed
  | cons here there ih =>
      cases listed with
      | head => exact ⟨_, List.mem_cons_self, here⟩
      | tail _ listed =>
          obtain ⟨result, among, gives⟩ := ih (mapM_eq_ok.mpr there) listed
          exact ⟨result, List.mem_cons_of_mem _ among, gives⟩

/-- A list fails at an item that fails. -/
theorem exists_error_of_mapM {ε α β : Type} {f : α → Except ε β} {items : List α} {error : ε}
    (failed : items.mapM f = .error error) : ∃ item ∈ items, f item = .error error := by
  induction items with
  | nil => cases failed
  | cons item items ih =>
      rw [List.mapM_cons] at failed
      obtain here | ⟨result, _, failed⟩ := bind_eq_error.mp failed
      · exact ⟨item, List.mem_cons_self, here⟩
      · obtain there | ⟨results, _, failed⟩ := bind_eq_error.mp failed
        · obtain ⟨other, listed, fails⟩ := ih there
          exact ⟨other, List.mem_cons_of_mem _ listed, fails⟩
        · cases failed

theorem length_of_mapM {ε α β : Type} {f : α → Except ε β} {items : List α}
    {results : List β} (ran : items.mapM f = .ok results) : results.length = items.length :=
  (mapM_eq_ok.mp ran).length_eq.symm

/-- What every step of a fallible loop keeps holds where it ends. -/
theorem foldlM_invariant {ε α σ : Type} {P : σ → Prop} {step : σ → α → Except ε σ}
    {items : List α} {state final : σ} (start : P state)
    (keeps : ∀ item ∈ items, ∀ before after, P before → step before item = .ok after → P after)
    (ran : items.foldlM step state = .ok final) : P final := by
  induction items generalizing state with
  | nil =>
      cases ran
      exact start
  | cons item items ih =>
      rw [List.foldlM_cons] at ran
      obtain ⟨next, stepped, ran⟩ := bind_eq_ok.mp ran
      exact ih (keeps item List.mem_cons_self state next start stepped)
        (fun later listed => keeps later (List.mem_cons_of_mem _ listed)) ran

/-- The error text of a failed float operation. -/
structure FloatError where
  message : String
  deriving DecidableEq, Repr

/-- How an exact result is packed into the float format, if it can be. -/
class FloatFormat where
  pack : ℚ → Except FloatError ℚ

namespace FloatFormat

/-- Lossless arithmetic that never fails. -/
abbrev exact : FloatFormat := ⟨.ok⟩

/-- Every result is representable as it is. -/
def IsExact [FloatFormat] : Prop := ∀ q : ℚ, pack q = .ok q

theorem exact_isExact : @IsExact exact := fun _ => rfl

end FloatFormat

abbrev FractionalShares := ℚ
abbrev Usdc := ℚ
abbrev Usd := ℚ

namespace Decimal

variable [FloatFormat]

def add (a b : ℚ) : Except FloatError ℚ := FloatFormat.pack (a + b)
def sub (a b : ℚ) : Except FloatError ℚ := FloatFormat.pack (a - b)
def mul (a b : ℚ) : Except FloatError ℚ := FloatFormat.pack (a * b)
def div (a b : ℚ) : Except FloatError ℚ := FloatFormat.pack (a / b)
def abs (a : ℚ) : Except FloatError ℚ := FloatFormat.pack |a|

section Exact

variable (exact : FloatFormat.IsExact)
include exact

theorem add_exact (a b : ℚ) : add a b = .ok (a + b) := exact _
theorem sub_exact (a b : ℚ) : sub a b = .ok (a - b) := exact _
theorem mul_exact (a b : ℚ) : mul a b = .ok (a * b) := exact _

end Exact

end Decimal

/-- An amount that is brought down to a cap where it exceeds it. -/
theorem capped_eq_min (amount cap : ℚ) :
    (if cap < amount then cap else amount) = min amount cap := by
  split
  case isTrue more => exact (min_eq_right more.le).symm
  case isFalse within => exact (min_eq_left (not_lt.mp within)).symm

/-- A strictly positive quantity. -/
structure Positive where
  inner : ℚ
  pos : 0 < inner
  deriving DecidableEq

namespace Positive

/-- The checked constructor: zero and negative values are refused. -/
def new (value : ℚ) : Option Positive :=
  if h : 0 < value then some ⟨value, h⟩ else none

theorem new_eq_some {value : ℚ} {p : Positive} : new value = some p ↔ p.inner = value := by
  obtain ⟨inner, pos⟩ := p
  unfold new
  split
  case isTrue h => simp [eq_comm]
  case isFalse h =>
    simp only [reduceCtorEq, false_iff]
    rintro rfl
    exact h pos

theorem one_pos : (0 : ℚ) < 1 := by norm_num
theorem two_pos : (0 : ℚ) < 2 := by norm_num
theorem three_pos : (0 : ℚ) < 3 := by norm_num
theorem five_pos : (0 : ℚ) < 5 := by norm_num
theorem ten_pos : (0 : ℚ) < 10 := by norm_num

end Positive

inductive Direction where
  | buy
  | sell
  deriving DecidableEq, Repr

namespace Direction

/-- The sign with which an executed quantity moves a net position. -/
def sign : Direction → ℚ
  | .buy => 1
  | .sell => -1

end Direction

inductive SupportedExecutor where
  | alpacaBrokerApi
  | dryRun
  deriving DecidableEq, Repr

inductive MarketSession where
  | regular
  | extended
  | closed
  deriving DecidableEq, Repr

abbrev Symbol := String
abbrev Time := Nat
abbrev TxHash := Nat

/-- Identifier of an offchain order, a UUID. -/
structure OffchainOrderId where
  uuid : Nat
  deriving DecidableEq, Repr

/-- Identifier of one equity mint, sent to the issuer as its idempotency key. -/
structure IssuerRequestId where
  id : String
  deriving DecidableEq, Repr

/-- Identifier of one equity redemption. -/
structure RedemptionAggregateId where
  id : String
  deriving DecidableEq, Repr

/-- Identifier the broker assigned to an order. -/
structure ExecutorOrderId where
  id : String
  deriving DecidableEq, Repr

/-- An onchain fill, by the transaction and log that emitted it. -/
structure TradeId where
  txHash : TxHash
  logIndex : Nat
  deriving DecidableEq, Repr

/-- When accumulated exposure is large enough to hedge. -/
inductive ExecutionThreshold where
  | shares (threshold : Positive)
  | dollarValue (threshold : Usdc)
  deriving DecidableEq

end Liquidity
