import Liquidity.DecimalText
import Liquidity.Pnl.Costs
import Mathlib.Data.Nat.Factorization.Basic

/-!
# Printing decimals

Amounts leave the report as texts. A text is built from the digits of the scaled
numerator: zeros are put in front until there is a digit before the dot, the dot is
inserted, and zeros at the end are taken off again. A number without a finite text fails
an assertion.

Fees that two sources report are matched by these texts.
-/

namespace Liquidity.Pnl

open DecimalText

/-! ## The source -/

/-- Divide by a factor as often as it goes, and count. Nothing if there is no end. -/
def factorCount (value factor count : Nat) : Option (Nat × Nat) :=
  if value % factor = 0 then
    -- Zero stays as it is, and so does the loop.
    if value / factor < value then factorCount (value / factor) factor (count + 1) else none
  else some (count, value)
termination_by value

def multiplyFactor (value factor : Nat) : Nat → Nat
  | 0 => value
  | count + 1 => multiplyFactor (value * factor) factor count

/-- At least one more digit than go behind the dot. -/
def padDigits (digits : List Char) (scale : Nat) : List Char :=
  if digits.length ≤ scale then List.replicate (scale + 1 - digits.length) '0' ++ digits
  else digits

/-- Put in the dot, and take off zeros and the dot where they end the text. -/
def placeDot (digits : List Char) (scale : Nat) : List Char :=
  let dotIndex := digits.length - scale
  let trimmed := (digits.insertIdx dotIndex '.').rdropWhile (· = '0')
  if trimmed.getLast? = some '.' then trimmed.dropLast else trimmed

/-- The assertion that a printed decimal is finite. -/
structure NotFinite where
  value : ℚ
  deriving DecidableEq

/-- Nothing if it does not terminate. -/
def fmtDecimal (value : ℚ) : Option (Except NotFinite String) :=
  if value.num = 0 then some (.ok "0")
  else do
    let negative := value.num < 0
    let numerator := value.num.natAbs
    let (twos, denominator) ← factorCount value.den 2 0
    let (fives, denominator) ← factorCount denominator 5 0
    if denominator = 1 then
      let scale := max twos fives
      let scaled := multiplyFactor (multiplyFactor numerator 2 (scale - twos)) 5 (scale - fives)
      let digits := Nat.toDigits 10 scaled
      let digits := if 0 < scale then placeDot (padDigits digits scale) scale else digits
      some (.ok (String.ofList (if negative then '-' :: digits else digits)))
    else some (.error ⟨value⟩)

/-- The key of a fee, with its amount as a text. -/
def keyText (key : Option OverlapKey) :
    Option (Except NotFinite (Option (Symbol × String × String))) :=
  match key with
  | none => some (.ok none)
  | some key => (fmtDecimal key.amountUsd).map fun printed =>
      printed.map fun text => some (key.symbol, key.date, text)

def tokenizationFeeOverlapKeyText (calendar : Calendar) (entry : CostEntryInternal) :
    Option (Except NotFinite (Option (Symbol × String × String))) :=
  keyText (tokenizationFeeOverlapKey calendar entry)

def alpacaFeeOverlapKeyText (calendar : Calendar) (entry : CostEntryInternal) :
    Option (Except NotFinite (Option (Symbol × String × String))) :=
  keyText (alpacaFeeOverlapKey calendar entry)

/-! ## Factors -/

@[simp] theorem multiplyFactor_eq (value factor count : Nat) :
    multiplyFactor value factor count = value * factor ^ count := by
  induction count generalizing value with
  | zero => rw [multiplyFactor, pow_zero, mul_one]
  | succ count ih => rw [multiplyFactor, ih, pow_succ', mul_assoc]

/-- Counting the factors of a positive number ends. -/
theorem factorCount_eq {factor : Nat} (many : 1 < factor) (power count : Nat) {rest : Nat}
    (free : ¬ factor ∣ rest) :
    factorCount (factor ^ power * rest) factor count = some (count + power, rest) := by
  induction power generalizing count with
  | zero =>
      rw [pow_zero, one_mul, factorCount, if_neg]
      · rfl
      · exact fun divides => free (Nat.dvd_of_mod_eq_zero divides)
  | succ power ih =>
      have positive : 0 < factor := Nat.zero_lt_of_lt many
      have nonzero : rest ≠ 0 := fun none => free (none ▸ dvd_zero factor)
      have less : factor ^ power * rest < factor * (factor ^ power * rest) :=
        lt_mul_of_one_lt_left (Nat.mul_pos (Nat.pow_pos positive) (Nat.pos_of_ne_zero nonzero)) many
      rw [pow_succ', mul_assoc, factorCount, if_pos (Nat.mul_mod_right _ _),
        Nat.mul_div_cancel_left _ positive, if_pos less, ih]
      congr 2
      omega

/-- A denominator of twos and fives is counted down to one. -/
theorem factorCount_den {value : ℚ} {twos fives : Nat} (factors : value.den = 2 ^ twos * 5 ^ fives) :
    factorCount value.den 2 0 = some (twos, 5 ^ fives) ∧
      factorCount (5 ^ fives) 5 0 = some (fives, 1) := by
  constructor
  · rw [factors, factorCount_eq (by decide), Nat.zero_add]
    intro divides
    have two := (Nat.prime_dvd_prime_iff_eq Nat.prime_two Nat.prime_five).mp
      (Nat.prime_two.dvd_of_dvd_pow divides)
    exact absurd two (by decide)
  · have counted : factorCount (5 ^ fives * 1) 5 0 = some (0 + fives, 1) :=
      factorCount_eq (by decide) fives 0 (by decide)
    rwa [mul_one, Nat.zero_add] at counted

/-! ## Surgery on the digits -/

theorem rdropWhile_append_cons {α : Type} {p : α → Bool} {stop : α} (keeps : p stop = false)
    (front back : List α) :
    (front ++ stop :: back).rdropWhile p = front ++ stop :: back.rdropWhile p := by
  induction back using List.reverseRecOn with
  | nil =>
      rw [List.rdropWhile_nil, List.rdropWhile_concat_neg]
      rw [keeps]
      decide
  | append_singleton back last ih =>
      rw [← List.cons_append, ← List.append_assoc]
      by_cases drops : p last
      · rw [List.rdropWhile_concat_pos _ _ _ drops, List.rdropWhile_concat_pos _ _ _ drops, ih]
      · rw [List.rdropWhile_concat_neg _ _ _ drops, List.rdropWhile_concat_neg _ _ _ drops]
        simp

theorem insertIdx_append {α : Type} (front back : List α) (item : α) :
    (front ++ back).insertIdx front.length item = front ++ item :: back := by
  induction front with
  | nil => simp
  | cons first front ih => simp [ih]

/-- What is in front of the dot and what is behind it, without zeros at the end. -/
theorem placeDot_eq (whole : List Char) {fraction : List Char} (digits : AllDigits fraction) :
    placeDot (whole ++ fraction) fraction.length =
      Text.chars ⟨false, whole, fraction.rdropWhile fun digit => digit = '0'⟩ := by
  rw [placeDot, List.length_append, Nat.add_sub_cancel, insertIdx_append]
  have stops : (fun digit : Char => decide (digit = '0')) '.' = false := by decide
  rw [rdropWhile_append_cons (p := fun digit => decide (digit = '0')) stops]
  have shorter := List.rdropWhile_prefix (fun digit : Char => decide (digit = '0')) (l := fraction)
  dsimp only [Text.chars]
  generalize (fraction.rdropWhile fun digit => decide (digit = '0')) = kept at shorter
  by_cases empty : kept = []
  · subst empty
    rw [List.getLast?_concat, if_pos rfl, List.dropLast_concat]
    simp
  · have last : (whole ++ '.' :: kept).getLast? ≠ some '.' := by
      rw [List.getLast?_append_of_ne_nil _ (List.cons_ne_nil _ _),
        List.getLast?_cons_of_ne_nil empty]
      intro dot
      have isDigit := digits '.' (shorter.mem (List.mem_of_getLast? dot))
      exact ne_dot_of_isDigit isDigit rfl
    rw [if_neg last, if_neg empty]
    simp

/-- Padded digits are a whole part and a fraction of the given length. -/
theorem padDigits_split {n : Nat} (positive : 0 < n) (scale : Nat) :
    ∃ whole fraction, padDigits (Nat.toDigits 10 n) scale = whole ++ fraction ∧
      fraction.length = scale ∧ Whole whole ∧ AllDigits fraction ∧
      number (whole ++ fraction) = n := by
  have digits := whole_toDigits n
  have worth := number_toDigits n
  generalize Nat.toDigits 10 n = chars at digits worth
  rw [padDigits]
  split
  case isTrue short =>
      refine ⟨['0'], List.replicate (scale - chars.length) '0' ++ chars, ?_, ?_, ?_, ?_, ?_⟩
      · rw [Nat.succ_sub short, List.replicate_succ]
        rfl
      · rw [List.length_append, List.length_replicate]
        omega
      · exact ⟨by simp [AllDigits], List.cons_ne_nil _ _, .inl rfl⟩
      · intro digit listed
        obtain listed | listed := List.mem_append.mp listed
        · rw [List.eq_of_mem_replicate listed]
          decide
        · exact digits.all digit listed
      · have zeros : number ['0'] = 0 := rfl
        rw [number_append, number_append, zeros, number_replicate_zero, worth]
        simp
  case isFalse long =>
      refine ⟨chars.take (chars.length - scale), chars.drop (chars.length - scale),
        (List.take_append_drop _ _).symm, ?_, ?_, ?_, ?_⟩
      · rw [List.length_drop]
        omega
      · have nonempty : chars.take (chars.length - scale) ≠ [] := by
          apply List.ne_nil_of_length_pos
          rw [List.length_take]
          omega
        refine ⟨fun digit listed => digits.all digit (List.mem_of_mem_take listed), nonempty,
          .inr ?_⟩
        obtain zero | leads := digits.noLeadingZero
        · rw [zero] at worth
          have none : number ['0'] = 0 := rfl
          omega
        · rwa [← List.take_append_drop (chars.length - scale) chars,
            List.head?_append_of_ne_nil _ nonempty] at leads
      · intro digit listed
        exact digits.all digit (List.mem_of_mem_drop listed)
      · rw [List.take_append_drop, worth]

/-- Zeros at the end of a fraction are worth nothing. -/
theorem worth_rdropWhile (whole fraction : List Char) :
    (number (whole ++ fraction.rdropWhile fun digit => digit = '0') : ℚ) /
        10 ^ (fraction.rdropWhile fun digit => digit = '0').length =
      number (whole ++ fraction) / 10 ^ fraction.length := by
  have split : fraction.rdropWhile (fun digit => decide (digit = '0')) ++
      fraction.rtakeWhile (fun digit => decide (digit = '0')) = fraction :=
    List.rdropWhile_append_rtakeWhile
  have zeros : fraction.rtakeWhile (fun digit => decide (digit = '0')) =
      List.replicate (fraction.rtakeWhile fun digit => decide (digit = '0')).length '0' :=
    List.eq_replicate_of_mem fun digit listed => by
      have dropped := List.mem_rtakeWhile_imp (p := fun digit => decide (digit = '0')) listed
      exact of_decide_eq_true dropped
  generalize (fraction.rdropWhile fun digit => decide (digit = '0')) = kept at split
  generalize (fraction.rtakeWhile fun digit => decide (digit = '0')).length = count at zeros
  have shifted : number (whole ++ (kept ++ List.replicate count '0')) =
      10 ^ count * number (whole ++ kept) := by
    rw [← List.append_assoc, number_append, number_replicate_zero, List.length_replicate, add_zero]
  rw [← split, zeros, shifted, List.length_append, List.length_replicate, pow_add]
  push_cast
  rw [mul_comm (10 ^ kept.length : ℚ), mul_div_mul_left _ _ (by positivity)]

/-- The digits of a positive number, with the dot put in. -/
theorem digits_eq {n : Nat} (positive : 0 < n) (scale : Nat) :
    ∃ whole fraction,
      (if 0 < scale then placeDot (padDigits (Nat.toDigits 10 n) scale) scale
        else Nat.toDigits 10 n) = Text.chars ⟨false, whole, fraction⟩ ∧
      Whole whole ∧ AllDigits fraction ∧ fraction.getLast? ≠ some '0' ∧
      Text.magnitude ⟨false, whole, fraction⟩ = n / 10 ^ scale := by
  by_cases behind : 0 < scale
  · obtain ⟨whole, fraction, padded, long, front, back, worth⟩ := padDigits_split positive scale
    rw [if_pos behind, padded, ← long, placeDot_eq whole back]
    refine ⟨whole, _, rfl, front, ?_, ?_, ?_⟩
    · intro digit listed
      exact back digit ((List.rdropWhile_prefix _ _).mem listed)
    · intro zero
      obtain ⟨front, split⟩ := List.getLast?_eq_some_iff.mp zero
      have nonempty : fraction.rdropWhile (fun digit => decide (digit = '0')) ≠ [] := by
        rw [split]
        exact List.append_ne_nil_of_right_ne_nil _ (List.cons_ne_nil _ _)
      have last := List.rdropWhile_last_not _ _ nonempty
      rw [List.getLast?_eq_some_getLast nonempty, Option.some.injEq] at zero
      rw [zero] at last
      exact last (by decide)
    · rw [Text.magnitude, worth_rdropWhile, worth]
  · obtain rfl : scale = 0 := by omega
    refine ⟨Nat.toDigits 10 n, [], ?_, whole_toDigits n, by simp [AllDigits], by simp, ?_⟩
    · simp [Text.chars]
    · simp [Text.magnitude]

/-! ## The text of a decimal -/

/-- The scaled numerator, scaled back. -/
theorem scaled_eq {value : ℚ} {twos fives : Nat} (factors : value.den = 2 ^ twos * 5 ^ fives) :
    ((multiplyFactor (multiplyFactor value.num.natAbs 2 (max twos fives - twos)) 5
      (max twos fives - fives) : ℕ) : ℚ) / 10 ^ max twos fives = |value| := by
  have two : (2 : ℚ) ^ max twos fives = 2 ^ twos * 2 ^ (max twos fives - twos) := by
    rw [← pow_add, Nat.add_sub_cancel' (le_max_left _ _)]
  have five : (5 : ℚ) ^ max twos fives = 5 ^ fives * 5 ^ (max twos fives - fives) := by
    rw [← pow_add, Nat.add_sub_cancel' (le_max_right _ _)]
  have ten : (10 : ℚ) ^ max twos fives = 2 ^ max twos fives * 5 ^ max twos fives := by
    rw [← mul_pow]
    norm_num
  have denominator : (value.den : ℚ) = 2 ^ twos * 5 ^ fives := by
    rw [factors]
    push_cast
    rfl
  have split : |value| = value.num.natAbs / value.den := by
    rw [Nat.cast_natAbs, Int.cast_abs, ← Nat.abs_cast value.den, ← abs_div, Rat.num_div_den]
  rw [multiplyFactor_eq, multiplyFactor_eq, split, denominator, ten, two, five]
  push_cast
  rw [div_eq_div_iff (by positivity) (by positivity)]
  ring

/-- A finite decimal is printed as its canonical text. -/
theorem fmtDecimal_eq {value : ℚ} (finite : IsFinite value) :
    ∃ text : Text, text.Canonical ∧ text.value = value ∧
      fmtDecimal value = some (.ok (String.ofList text.chars)) := by
  by_cases zero : value.num = 0
  · refine ⟨⟨false, ['0'], []⟩, ⟨⟨by simp [AllDigits], by simp, .inl rfl⟩, by simp [AllDigits],
      by simp, fun _ => rfl⟩, ?_, ?_⟩
    · rw [Rat.num_eq_zero.mp zero]
      have none : number ['0'] = 0 := rfl
      simp [Text.value, Text.magnitude, none]
    · rw [fmtDecimal, if_pos zero]
      rfl
  · obtain ⟨twos, fives, factors⟩ := finite
    obtain ⟨countTwos, countFives⟩ := factorCount_den factors
    have positive : 0 < multiplyFactor
        (multiplyFactor value.num.natAbs 2 (max twos fives - twos)) 5 (max twos fives - fives) := by
      rw [multiplyFactor_eq, multiplyFactor_eq]
      have numerator := Int.natAbs_pos.mpr zero
      positivity
    obtain ⟨whole, fraction, printed, front, back, last, worth⟩ :=
      digits_eq positive (max twos fives)
    rw [scaled_eq factors] at worth
    have size : Text.magnitude ⟨decide (value.num < 0), whole, fraction⟩ = |value| := worth
    have same : Text.value ⟨decide (value.num < 0), whole, fraction⟩ = value := by
      rw [Text.value, size]
      by_cases negative : value.num < 0
      · simp only [negative, decide_true, if_true]
        rw [abs_of_neg (Rat.num_neg.mp negative), neg_neg]
      · simp only [negative, decide_false, Bool.false_eq_true, if_false]
        exact abs_of_nonneg (Rat.num_nonneg.mp (not_lt.mp negative))
    refine ⟨⟨decide (value.num < 0), whole, fraction⟩, ⟨front, back, last, ?_⟩, same, ?_⟩
    · intro none
      rw [same] at none
      exact absurd (Rat.num_eq_zero.mpr none) zero
    · rw [fmtDecimal, if_neg zero, countTwos]
      dsimp only [Option.bind_eq_bind, Option.bind_some]
      rw [countFives]
      dsimp only [Option.bind_some]
      rw [if_pos rfl, printed]
      by_cases negative : value.num < 0
      · simp [negative, Text.chars]
      · simp [negative, Text.chars]

/-! ## Texts of amounts -/

theorem fmtDecimal_inj {first second : ℚ} (finite : IsFinite first) (also : IsFinite second) :
    fmtDecimal first = fmtDecimal second ↔ first = second := by
  constructor
  · intro same
    obtain ⟨text, canonical, worth, printed⟩ := fmtDecimal_eq finite
    obtain ⟨text', canonical', worth', printed'⟩ := fmtDecimal_eq also
    rw [printed, printed', Option.some.injEq, Except.ok.injEq, String.ofList_inj] at same
    have read := read_chars canonical.whole.all canonical.whole.nonempty canonical.fraction
    rw [same, read_chars canonical'.whole.all canonical'.whole.nonempty canonical'.fraction,
      worth, worth', Option.some.injEq] at read
    exact read.symm
  · exact congrArg fmtDecimal

theorem keyText_some {key : OverlapKey} (finite : IsFinite key.amountUsd) :
    ∃ text, fmtDecimal key.amountUsd = some (.ok text) ∧
      keyText (some key) = some (.ok (some (key.symbol, key.date, text))) := by
  obtain ⟨text, _, _, printed⟩ := fmtDecimal_eq finite
  refine ⟨_, printed, ?_⟩
  rw [keyText, printed]
  rfl

/-- Keys match by their texts where they match by their amounts. -/
theorem keyText_inj {first second : Option OverlapKey}
    (finite : ∀ key ∈ first, IsFinite key.amountUsd)
    (also : ∀ key ∈ second, IsFinite key.amountUsd) :
    keyText first = keyText second ↔ first = second := by
  constructor
  · intro same
    cases first with
    | none =>
        cases second with
        | none => rfl
        | some other =>
            obtain ⟨text, _, keyed⟩ := keyText_some (also other rfl)
            rw [keyed] at same
            cases same
    | some key =>
        obtain ⟨text, printed, keyed⟩ := keyText_some (finite key rfl)
        cases second with
        | none =>
            rw [keyed] at same
            cases same
        | some other =>
            obtain ⟨text', printed', keyed'⟩ := keyText_some (also other rfl)
            rw [keyed, keyed', Option.some.injEq, Except.ok.injEq, Option.some.injEq, Prod.mk.injEq,
              Prod.mk.injEq] at same
            obtain ⟨symbol, date, rfl⟩ := same
            have amount := (fmtDecimal_inj (finite key rfl) (also other rfl)).mp
              (printed.trans printed'.symm)
            cases key
            cases other
            exact congrArg some ((OverlapKey.mk.injEq ..).mpr ⟨symbol, date, amount⟩)
  · exact congrArg keyText

end Liquidity.Pnl
