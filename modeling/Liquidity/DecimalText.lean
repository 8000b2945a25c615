import Mathlib.Algebra.Field.Rat
import Mathlib.Algebra.Order.Ring.Rat
import Mathlib.Algebra.Ring.Subring.Basic
import Mathlib.Data.List.DropRight
import Mathlib.Data.Nat.Prime.Basic
import Mathlib.Tactic.Linarith
import Mathlib.Tactic.NormNum
import Mathlib.Tactic.Positivity
import Mathlib.Tactic.Ring

/-!
# Decimal texts

A number has a finite decimal text if a power of ten clears its denominator; sums,
differences and products of such numbers are such numbers. A text is a sign, a whole
part and a fraction. It is canonical if it has no digit to spare, and then it is the only
canonical text of its value.
-/

namespace DecimalText

/-! ## Finite decimals -/

/-- Two and five are the only primes of the denominator. -/
def IsFinite (x : ℚ) : Prop := ∃ twos fives, x.den = 2 ^ twos * 5 ^ fives

theorem isFinite_iff {x : ℚ} : IsFinite x ↔ ∃ k, x.den ∣ 10 ^ k := by
  constructor
  · intro ⟨twos, fives, factors⟩
    refine ⟨max twos fives, ?_⟩
    have ten : (10 : Nat) ^ max twos fives = 2 ^ max twos fives * 5 ^ max twos fives := by
      rw [← Nat.mul_pow]
    rw [factors, ten]
    exact Nat.mul_dvd_mul (pow_dvd_pow _ (le_max_left _ _)) (pow_dvd_pow _ (le_max_right _ _))
  · intro ⟨k, divides⟩
    have ten : (10 : Nat) ^ k = 2 ^ k * 5 ^ k := by
      rw [← Nat.mul_pow]
    rw [ten] at divides
    obtain ⟨first, second, two, five, factors⟩ := Nat.dvd_mul.mp divides
    obtain ⟨twos, _, rfl⟩ := (Nat.dvd_prime_pow Nat.prime_two).mp two
    obtain ⟨fives, _, rfl⟩ := (Nat.dvd_prime_pow Nat.prime_five).mp five
    exact ⟨twos, fives, factors.symm⟩

theorem isFinite_intCast (n : ℤ) : IsFinite n := ⟨0, 0, by simp⟩

/-- A denominator that divides a product of two finite ones is finite. -/
theorem isFinite_of_den_dvd {x y z : ℚ} (finite : IsFinite x) (also : IsFinite y)
    (divides : z.den ∣ x.den * y.den) : IsFinite z := by
  obtain ⟨k, first⟩ := isFinite_iff.mp finite
  obtain ⟨l, second⟩ := isFinite_iff.mp also
  refine isFinite_iff.mpr ⟨k + l, divides.trans ?_⟩
  rw [pow_add]
  exact Nat.mul_dvd_mul first second

theorem IsFinite.add {x y : ℚ} (finite : IsFinite x) (also : IsFinite y) : IsFinite (x + y) :=
  isFinite_of_den_dvd finite also (Rat.add_den_dvd x y)

theorem IsFinite.mul {x y : ℚ} (finite : IsFinite x) (also : IsFinite y) : IsFinite (x * y) :=
  isFinite_of_den_dvd finite also (Rat.mul_den_dvd x y)

theorem IsFinite.neg {x : ℚ} (finite : IsFinite x) : IsFinite (-x) := by
  obtain ⟨twos, fives, factors⟩ := finite
  exact ⟨twos, fives, by rw [Rat.neg_den, factors]⟩

theorem IsFinite.sub {x y : ℚ} (finite : IsFinite x) (also : IsFinite y) : IsFinite (x - y) := by
  rw [sub_eq_add_neg]
  exact finite.add also.neg

/-- The ring of all of them. -/
def finiteDecimals : Subring ℚ where
  carrier := {x | IsFinite x}
  zero_mem' := by exact_mod_cast isFinite_intCast 0
  one_mem' := by exact_mod_cast isFinite_intCast 1
  add_mem' := IsFinite.add
  mul_mem' := IsFinite.mul
  neg_mem' := IsFinite.neg

@[simp] theorem mem_finiteDecimals {x : ℚ} : x ∈ finiteDecimals ↔ IsFinite x := Iff.rfl

/-! ## Digits -/

def number (digits : List Char) : Nat := Nat.ofDigitChars 10 digits 0

def AllDigits (digits : List Char) : Prop := ∀ digit ∈ digits, digit.isDigit

@[simp] theorem number_nil : number [] = 0 := rfl

@[simp] theorem number_toDigits (n : Nat) : number (Nat.toDigits 10 n) = n :=
  Nat.ofDigitChars_ten_toDigits

theorem number_append (first second : List Char) :
    number (first ++ second) = 10 ^ second.length * number first + number second := by
  rw [number, Nat.ofDigitChars_append, Nat.ofDigitChars_eq_ofDigitChars_zero]
  rfl

@[simp] theorem number_replicate_zero (n : Nat) : number (List.replicate n '0') = 0 := by
  simp [number]

theorem allDigits_toDigits (n : Nat) : AllDigits (Nat.toDigits 10 n) := fun _ listed =>
  Nat.isDigit_of_mem_toDigits (by decide) (by decide) listed

/-- What a digit is worth, and that it is the digit of its worth. -/
theorem digit_cases {digit : Char} (isDigit : digit.isDigit) :
    number [digit] < 10 ∧ digit = (number [digit]).digitChar := by
  have bounds : 48 ≤ digit.toNat ∧ digit.toNat ≤ 57 := by
    rw [Char.isDigit, Bool.and_eq_true, decide_eq_true_eq, decide_eq_true_eq] at isDigit
    exact ⟨UInt32.le_iff_toNat_le.mp isDigit.1, UInt32.le_iff_toNat_le.mp isDigit.2⟩
  have worth : number [digit] = digit.toNat - 48 := by
    simp [number, Nat.ofDigitChars_cons]
  have small : number [digit] < 10 := by omega
  refine ⟨small, ?_⟩
  apply Char.toNat_inj.mp
  rw [Nat.toNat_digitChar_of_lt_ten small]
  omega

theorem number_concat (digits : List Char) (last : Char) :
    number (digits ++ [last]) = 10 * number digits + number [last] := by
  rw [number_append]
  simp

theorem number_lt {digits : List Char} (all : AllDigits digits) :
    number digits < 10 ^ digits.length := by
  induction digits using List.reverseRecOn with
  | nil => simp
  | append_singleton digits last ih =>
      have before := ih fun digit listed => all digit (List.mem_append_left _ listed)
      have small := (digit_cases (all last (by simp))).1
      rw [number_concat, List.length_append, List.length_singleton, pow_succ]
      omega

/-- As many digits with the same number are the same digits. -/
theorem eq_of_number_eq {first second : List Char} (digits : AllDigits first)
    (also : AllDigits second) (long : first.length = second.length)
    (same : number first = number second) : first = second := by
  induction first using List.reverseRecOn generalizing second with
  | nil => exact (List.eq_nil_of_length_eq_zero long.symm).symm
  | append_singleton first last ih =>
      obtain ⟨second, other, rfl⟩ : ∃ start other, second = start ++ [other] := by
        have nonempty : second ≠ [] := by
          rintro rfl
          simp at long
        exact ⟨second.dropLast, second.getLast nonempty, (List.dropLast_append_getLast _).symm⟩
      obtain ⟨small, isLast⟩ := digit_cases (digits last (by simp))
      obtain ⟨less, isOther⟩ := digit_cases (also other (by simp))
      rw [number_concat, number_concat] at same
      have front : first = second := ih
        (fun digit listed => digits digit (List.mem_append_left _ listed))
        (fun digit listed => also digit (List.mem_append_left _ listed))
        (by simpa using long) (by omega)
      have back : number [last] = number [other] := by omega
      rw [front, isLast, isOther, back]

/-- Digits with none to spare at the front. -/
structure Whole (digits : List Char) : Prop where
  all : AllDigits digits
  nonempty : digits ≠ []
  noLeadingZero : digits = ['0'] ∨ digits.head? ≠ some '0'

theorem Whole.eq_toDigits {digits : List Char} (whole : Whole digits) :
    digits = Nat.toDigits 10 (number digits) := by
  induction digits using List.reverseRecOn with
  | nil => exact absurd rfl whole.nonempty
  | append_singleton digits last ih =>
      obtain ⟨small, isLast⟩ := digit_cases (whole.all last (by simp))
      by_cases single : digits = []
      · subst single
        rw [List.nil_append, Nat.toDigits_of_lt_base small, ← isLast]
      · have front : Whole digits := by
          refine ⟨fun digit listed => whole.all digit (List.mem_append_left _ listed), single,
            .inr ?_⟩
          obtain zero | leads := whole.noLeadingZero
          · have long := congrArg List.length zero
            exact absurd (by simpa using long) single
          · rwa [List.head?_append_of_ne_nil _ single] at leads
        have positive : 0 < number digits := by
          by_contra zero
          have same := ih front
          rw [Nat.eq_zero_of_not_pos zero, Nat.toDigits_zero] at same
          obtain zeros | leads := whole.noLeadingZero
          · rw [same] at zeros
            cases zeros
          · rw [same] at leads
            exact leads rfl
        rw [number_concat, ← Nat.toDigits_append_toDigits (by decide) positive small, ← ih front,
          Nat.toDigits_of_lt_base small, ← isLast]

theorem whole_toDigits (n : Nat) : Whole (Nat.toDigits 10 n) := by
  refine ⟨allDigits_toDigits n, Nat.toDigits_ne_nil, ?_⟩
  induction n using Nat.strong_induction_on with
  | _ n ih =>
      by_cases small : n < 10
      · rw [Nat.toDigits_of_lt_base small]
        by_cases zero : n = 0
        · subst zero
          exact .inl rfl
        · right
          simpa using zero
      · right
        rw [Nat.toDigits_of_base_le (by decide) (not_lt.mp small),
          List.head?_append_of_ne_nil _ Nat.toDigits_ne_nil]
        obtain single | leads := ih (n / 10) (by omega)
        · have zero := congrArg number single
          rw [number_toDigits] at zero
          have none : number ['0'] = 0 := rfl
          omega
        · exact leads

/-! ## Texts -/

structure Text where
  negative : Bool
  whole : List Char
  fraction : List Char
  deriving DecidableEq

namespace Text

/-- The characters. A text without a fraction has no dot. -/
def chars (text : Text) : List Char :=
  (if text.negative then ['-'] else []) ++ text.whole ++
    if text.fraction = [] then [] else '.' :: text.fraction

def magnitude (text : Text) : ℚ :=
  number (text.whole ++ text.fraction) / 10 ^ text.fraction.length

def value (text : Text) : ℚ := if text.negative then -text.magnitude else text.magnitude

/-- No digit to spare at either end, and no sign on zero. -/
structure Canonical (text : Text) : Prop where
  whole : Whole text.whole
  fraction : AllDigits text.fraction
  noTrailingZero : text.fraction.getLast? ≠ some '0'
  unsignedZero : text.value = 0 → text.negative = false

end Text

namespace Text

theorem magnitude_nonneg (text : Text) : 0 ≤ text.magnitude := by
  rw [magnitude]
  exact div_nonneg (Nat.cast_nonneg _) (pow_nonneg (by norm_num) _)

/-- A shorter fraction of the same size leaves a zero at the end of the longer one. -/
theorem fraction_length_le {first second : Text}
    (same : number (first.whole ++ first.fraction) * 10 ^ second.fraction.length =
      number (second.whole ++ second.fraction) * 10 ^ first.fraction.length)
    (digits : AllDigits second.fraction) (noTrailingZero : second.fraction.getLast? ≠ some '0') :
    second.fraction.length ≤ first.fraction.length := by
  by_contra longer
  obtain ⟨more, extra⟩ := Nat.exists_eq_add_of_lt (not_le.mp longer)
  have shifted : number (second.whole ++ second.fraction) =
      10 * (10 ^ more * number (first.whole ++ first.fraction)) := by
    have positive : 0 < 10 ^ first.fraction.length := Nat.pow_pos (by decide)
    apply Nat.eq_of_mul_eq_mul_right positive
    rw [← same, extra, pow_add, pow_add]
    ring
  obtain ⟨front, last, ends⟩ : ∃ front last, second.fraction = front ++ [last] := by
    have nonempty : second.fraction ≠ [] := by
      intro empty
      rw [empty] at extra
      simp at extra
    exact ⟨_, _, (List.dropLast_append_getLast nonempty).symm⟩
  rw [ends] at digits noTrailingZero
  obtain ⟨small, isLast⟩ := digit_cases (digits last (by simp))
  rw [ends, ← List.append_assoc, number_concat] at shifted
  have zero : number [last] = 0 := by omega
  rw [List.getLast?_concat, isLast, zero] at noTrailingZero
  exact noTrailingZero rfl

/-- A number has only one canonical text. -/
theorem Canonical.eq {first second : Text} (canonical : first.Canonical)
    (also : second.Canonical) (same : first.value = second.value) : first = second := by
  have sizes : first.negative = second.negative ∧ first.magnitude = second.magnitude := by
    have positive := first.magnitude_nonneg
    have positive' := second.magnitude_nonneg
    have zero := canonical.unsignedZero
    have zero' := also.unsignedZero
    rw [value, value] at same
    rw [value] at zero zero'
    cases signed : first.negative <;>
      cases signed' : second.negative <;>
      simp only [signed, signed', Bool.false_eq_true, if_true, if_false] at same zero zero'
    · exact ⟨rfl, same⟩
    · have none : -second.magnitude = 0 := by linarith
      exact absurd (zero' none) (by decide)
    · have none : -first.magnitude = 0 := by linarith
      exact absurd (zero none) (by decide)
    · exact ⟨rfl, neg_injective same⟩
  obtain ⟨sign, size⟩ := sizes
  have cleared : number (first.whole ++ first.fraction) * 10 ^ second.fraction.length =
      number (second.whole ++ second.fraction) * 10 ^ first.fraction.length := by
    rw [magnitude, magnitude, div_eq_div_iff (by positivity) (by positivity)] at size
    exact_mod_cast size
  have long : first.fraction.length = second.fraction.length :=
    le_antisymm
      (fraction_length_le cleared.symm canonical.fraction canonical.noTrailingZero)
      (fraction_length_le cleared also.fraction also.noTrailingZero)
  rw [long] at cleared
  have numbers := Nat.eq_of_mul_eq_mul_right (Nat.pow_pos Nat.ofNat_pos) cleared
  rw [number_append, number_append, long] at numbers
  have small := number_lt canonical.fraction
  have small' := number_lt also.fraction
  rw [long] at small
  have fractions : number first.fraction = number second.fraction := by
    have modulo := congrArg (· % 10 ^ second.fraction.length) numbers
    simpa [Nat.mul_add_mod, Nat.mod_eq_of_lt small, Nat.mod_eq_of_lt small'] using modulo
  have wholes : number first.whole = number second.whole := by
    rw [fractions] at numbers
    exact Nat.eq_of_mul_eq_mul_left (Nat.pow_pos Nat.ofNat_pos) (Nat.add_right_cancel numbers)
  have sameFraction := eq_of_number_eq canonical.fraction also.fraction long fractions
  have sameWhole : first.whole = second.whole := by
    rw [canonical.whole.eq_toDigits, wholes, ← also.whole.eq_toDigits]
  cases first
  cases second
  exact (Text.mk.injEq ..).mpr ⟨sign, sameWhole, sameFraction⟩

end Text

/-- Digits, all of them, and at least one. -/
def isNumber (digits : List Char) : Bool := !digits.isEmpty && digits.all Char.isDigit

/-- What a text says: an optional sign, digits, and optionally a dot and more digits. -/
def read (chars : List Char) : Option ℚ :=
  let negative := chars.head? = some '-'
  let unsigned := if negative then chars.tail else chars
  let whole := unsigned.takeWhile (· ≠ '.')
  let rest := unsigned.dropWhile (· ≠ '.')
  let fraction := rest.tail
  if isNumber whole && (rest.isEmpty || isNumber fraction) then
    some (Text.value ⟨negative, whole, fraction⟩)
  else none

theorem ne_dot_of_isDigit {digit : Char} (isDigit : digit.isDigit) : digit ≠ '.' := by
  rintro rfl
  revert isDigit
  decide

theorem ne_minus_of_isDigit {digit : Char} (isDigit : digit.isDigit) : digit ≠ '-' := by
  rintro rfl
  revert isDigit
  decide

theorem isNumber_of_allDigits {digits : List Char} (all : AllDigits digits)
    (nonempty : digits ≠ []) : isNumber digits = true := by
  simp only [isNumber, Bool.and_eq_true, Bool.not_eq_true', List.isEmpty_eq_false_iff,
    List.all_eq_true]
  exact ⟨nonempty, all⟩

/-- A text is read as what it is worth. -/
theorem read_chars {text : Text} (digits : AllDigits text.whole) (nonempty : text.whole ≠ [])
    (also : AllDigits text.fraction) : read text.chars = some text.value := by
  obtain ⟨negative, whole, fraction⟩ := text
  dsimp only at digits nonempty also
  have dotless : ∀ digit ∈ whole, (decide (digit ≠ '.')) = true := fun digit listed =>
    decide_eq_true (ne_dot_of_isDigit (digits digit listed))
  have unsigned : ∀ rest : List Char, (whole ++ rest).head? ≠ some '-' := by
    intro rest
    obtain ⟨first, others, rfl⟩ := List.exists_cons_of_ne_nil nonempty
    simpa using ne_minus_of_isDigit (digits first List.mem_cons_self)
  have front := isNumber_of_allDigits digits nonempty
  have signed : ∀ rest, (((if negative then ['-'] else []) ++ whole ++ rest).head? = some '-') ↔
      negative = true := by
    intro rest
    cases negative with
    | true => simp
    | false => simpa using unsigned rest
  have stripped : ∀ rest, (if negative then
      ((if negative then ['-'] else []) ++ whole ++ rest).tail
      else (if negative then ['-'] else []) ++ whole ++ rest) = whole ++ rest := by
    intro rest
    cases negative <;> rfl
  rw [read, Text.chars]
  simp only [signed, Bool.decide_eq_true, stripped]
  by_cases empty : fraction = []
  · subst empty
    simp only [if_true, List.append_nil, List.takeWhile_eq_self_iff.mpr dotless,
      List.dropWhile_eq_nil_iff.mpr dotless, front]
    simp
  · have back := isNumber_of_allDigits also empty
    rw [if_neg empty, List.takeWhile_append_of_pos dotless, List.dropWhile_append_of_pos dotless]
    simp [front, back]

end DecimalText
