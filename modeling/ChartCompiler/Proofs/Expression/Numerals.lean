import ChartCompiler.Expression.Basic
import ChartCompiler.Proofs.Json.Numbers
import Mathlib.Algebra.Order.Field.Power
import Mathlib.Data.Rat.Cast.Order
import Mathlib.Tactic.FieldSimp

/-!
# Numerals in expressions

An expression writes a number with six significant digits. The numeral stands for a rational number,
which is that of the decimal with these digits (`Numeral.read?_toGeneralText`). It has the sign of
the number and is zero only if the number is.
-/

namespace ChartCompiler

namespace Decimal

/-- The rational number that a decimal stands for. -/
def value (decimal : Decimal) : ℚ := decimal.significand * 10 ^ decimal.exponent

theorem value_stripZeros (decimal : Decimal) (count : Nat) :
    (decimal.stripZeros count).value = decimal.value := by
  induction count generalizing decimal with
  | zero => rfl
  | succ count induction =>
      unfold stripZeros
      split
      · next zero =>
          obtain ⟨tenth, split⟩ := Nat.dvd_of_mod_eq_zero zero.2
          rw [induction]
          unfold value
          rw [split, Nat.mul_div_cancel_left _ (by decide), zpow_add_one₀ (by decide)]
          push_cast
          ring
      · rfl

/-- Zeros that a significand gets instead of its exponent. -/
theorem value_padded (significand zeros : Nat) (exponent : Int) :
    value ⟨significand * 10 ^ zeros, exponent⟩ = value ⟨significand, exponent + zeros⟩ := by
  unfold value
  rw [zpow_add₀ (by decide), zpow_natCast]
  push_cast
  ring

theorem value_normalize (decimal : Decimal) : decimal.normalize.value = decimal.value :=
  decimal.value_stripZeros _

theorem value_pos {decimal : Decimal} (filled : decimal.significand ≠ 0) : 0 < decimal.value := by
  have digits := Nat.pos_of_ne_zero filled
  unfold value
  positivity

end Decimal

namespace Numeral

open Json

/-! ## Reading numerals -/

/-- The rational number that a numeral without a sign stands for. -/
def readUnsigned? (characters : List Char) : Option ℚ :=
  let (whole, afterWhole) := characters.span Char.isDigit
  if whole.isEmpty then none
  else do
    let (fraction, afterFraction) ← readFraction? afterWhole
    let (exponent, rest) ← readExponent? afterFraction
    if rest.isEmpty then
      some (Decimal.value
        ⟨decimalValue (whole ++ fraction), exponent.getD 0 - (fraction.length : Int)⟩)
    else none

/-- The rational number that a numeral stands for. -/
def read? : List Char → Option ℚ
  | '-' :: rest => (readUnsigned? rest).map fun value => -value
  | characters => readUnsigned? characters

example : read? "-1.5e-05".toList = some (-3 / 200000) := by decide +kernel

/-- What follows the digits of a numeral: an exponent or nothing. -/
inductive Ending : List Char → Int → Prop where
  | plain : Ending [] 0
  | exponent (power : Int) (count : List Char) (all : Digits count) (nonempty : count ≠ [])
      (value : decimalValue count = power.natAbs) : Ending (exponentText power count) power

theorem Ending.noDigit {ending : List Char} {power : Int} (ends : Ending ending power) :
    NoDigit ending := by
  cases ends with
  | plain => exact nofun
  | exponent => exact noDigit_cons rfl _

theorem Ending.read {ending : List Char} {power : Int} (ends : Ending ending power) :
    ∃ exponent, readExponent? ending = some (exponent, []) ∧ exponent.getD 0 = power := by
  cases ends with
  | plain => exact ⟨none, rfl, rfl⟩
  | exponent _ count all nonempty value =>
      have taken : readExponent? _ = some (some power, []) :=
        readExponent?_exponentText all nonempty value nofun
      rw [List.append_nil] at taken
      exact ⟨some power, taken, rfl⟩

/-- Reading digits, a fraction and an exponent. -/
theorem readUnsigned?_parts {whole fraction ending : List Char} {power : Int}
    (all : Digits whole) (nonempty : whole ≠ []) (broken : Digits fraction)
    (ends : Ending ending power) :
    readUnsigned? (whole ++ (fractionText fraction ++ ending)) =
      some (Decimal.value ⟨decimalValue (whole ++ fraction), power - fraction.length⟩) := by
  have filled : whole.isEmpty = false := by simpa using nonempty
  have pointless : ending.head? ≠ some '.' := by
    cases ends <;> simp [exponentText]
  have taken := readFraction?_fractionText broken ends.noDigit pointless
  obtain ⟨exponent, read, rfl⟩ := ends.read
  unfold readUnsigned?
  rw [all.span_eq (noDigit_fractionText ends.noDigit fraction)]
  simp only [filled, taken, Option.bind_eq_bind, Option.bind_some, read]
  rfl

/-! ## Written numerals -/

variable {decimal : Decimal}

/-- Digits before the point and behind it, if there are any. -/
theorem readUnsigned?_split {whole fraction : List Char} (all : Digits whole)
    (nonempty : whole ≠ []) (broken : Digits fraction) :
    readUnsigned? (whole ++ fractionText fraction) =
      some (Decimal.value ⟨decimalValue (whole ++ fraction), -fraction.length⟩) := by
  have read := readUnsigned?_parts all nonempty broken .plain
  rwa [List.append_nil, Int.zero_sub] at read

theorem readUnsigned?_positional (precision : Nat) {leading : Int}
    (place : leading = decimal.exponent + decimal.digits.length - 1) :
    readUnsigned? ((DecimalLayout.general precision).positional decimal.digits leading).toList =
      some decimal.value := by
  have all : Digits decimal.digits := digits_toDigits _
  have long := length_digits_pos decimal
  unfold DecimalLayout.positional
  cases leading with
  | ofNat exponent =>
      simp only [Int.ofNat_eq_natCast] at place
      dsimp only
      split
      · next ended =>
          have short : decimal.digits.length ≤ exponent + 1 := by simpa using ended
          have suffix : (DecimalLayout.general precision).wholeSuffix.toList = [] := rfl
          have zeros : (0 : Int) + (exponent + 1 - decimal.digits.length : Nat) =
              decimal.exponent := by omega
          have read := readUnsigned?_parts
            (all.append (digits_zeros (exponent + 1 - decimal.digits.length)))
            (List.append_ne_nil_of_left_ne_nil (List.ne_nil_of_length_pos long) _)
            (List.forall_mem_nil _) .plain
          rw [List.take_of_length_le short, String.toList_append, String.toList_ofList, suffix]
          refine read.trans (congrArg some ?_)
          rw [List.append_nil, decimalValue_append_zeros, decimalValue_digits, List.length_nil,
            Int.natCast_zero, Int.sub_zero, Decimal.value_padded, zeros]
      · next broken =>
          have cut : exponent + 1 < decimal.digits.length := by simpa using broken
          have unpadded : exponent + 1 - decimal.digits.length = 0 := by omega
          have places : -((decimal.digits.drop (exponent + 1)).length : Int) =
              decimal.exponent := by
            rw [List.length_drop]
            omega
          have read := readUnsigned?_split (all.sublist (List.take_sublist (exponent + 1) _))
            (List.ne_nil_of_length_pos (by rw [List.length_take]; omega))
            (all.sublist (List.drop_sublist (exponent + 1) _))
          rw [List.take_append_drop, decimalValue_digits, places, fractionText, if_neg broken]
            at read
          rw [String.toList_ofList, unpadded, List.replicate_zero, List.append_nil]
          exact read
  | negSucc zeros =>
      have places : -((List.replicate zeros '0' ++ decimal.digits).length : Int) =
          decimal.exponent := by
        rw [List.length_append, List.length_replicate]
        omega
      have filled : ¬ (List.replicate zeros '0' ++ decimal.digits).isEmpty = true := by
        simp [List.ne_nil_of_length_pos long]
      have read := readUnsigned?_split (digits_zeros 1) (List.cons_ne_nil _ _)
        ((digits_zeros zeros).append all)
      rw [decimalValue_zeros_append, decimalValue_zeros_append, decimalValue_digits, places,
        fractionText, if_neg filled] at read
      rw [String.toList_ofList]
      exact read

theorem readUnsigned?_exponential {leading : Int}
    (place : leading = decimal.exponent + decimal.digits.length - 1) :
    readUnsigned? (DecimalLayout.exponential decimal.digits leading).toList =
      some decimal.value := by
  have all : Digits decimal.digits := digits_toDigits _
  have long := length_digits_pos decimal
  have fraction : (if decimal.digits.length ≤ 1 then [] else '.' :: decimal.digits.drop 1) =
      fractionText (decimal.digits.drop 1) := by
    unfold fractionText
    simp only [List.isEmpty_iff, List.drop_eq_nil_iff]
  have places : leading - ((decimal.digits.drop 1).length : Int) = decimal.exponent := by
    rw [List.length_drop]
    omega
  have read := readUnsigned?_parts (all.sublist (List.take_sublist 1 _))
    (List.ne_nil_of_length_pos (by rw [List.length_take]; omega))
    (all.sublist (List.drop_sublist 1 _))
    (.exponent leading
      (List.replicate (2 - (Nat.toDigits 10 leading.natAbs).length) '0' ++
        Nat.toDigits 10 leading.natAbs)
      ((digits_zeros _).append (digits_toDigits _))
      (List.append_ne_nil_of_right_ne_nil _ Nat.toDigits_ne_nil)
      (by rw [decimalValue_zeros_append, decimalValue_toDigits]))
  rw [List.take_append_drop, decimalValue_digits, places] at read
  rw [← read]
  unfold DecimalLayout.exponential exponentText
  rw [String.toList_ofList, fraction]
  simp only [List.append_assoc, List.cons_append]

/-- A decimal in the layout of expressions is read as its rational number. -/
theorem readUnsigned?_write {precision : Nat} (digits : 0 < precision) :
    readUnsigned? ((DecimalLayout.general precision).write decimal).toList =
      some decimal.value := by
  rw [← decimal.value_normalize]
  unfold DecimalLayout.write
  dsimp only
  by_cases zero : decimal.normalize.significand = 0
  · have written :
        (DecimalLayout.general precision).positional decimal.normalize.digits 0 = "0" := by
      rw [Decimal.digits, zero]
      rfl
    have value : decimal.normalize.value = 0 := by simp [Decimal.value, zero]
    have positional : (DecimalLayout.general precision).leastPositional ≤ 0 ∧
        (0 : Int) < (DecimalLayout.general precision).firstExponential :=
      ⟨show (-4 : Int) ≤ 0 by decide, Int.natCast_pos.mpr digits⟩
    have none : decimalValue (List.replicate 1 '0' ++ []) = 0 := rfl
    have read := readUnsigned?_split (digits_zeros 1) (List.cons_ne_nil _ _) (List.forall_mem_nil _)
    rw [none, Decimal.value, Nat.cast_zero, zero_mul] at read
    rw [if_pos zero, if_pos positional, written, value]
    exact read
  · rw [if_neg zero]
    split
    · exact readUnsigned?_positional precision rfl
    · exact readUnsigned?_exponential rfl

/-! ## Numbers in expressions -/

theorem readUnsigned?_minus (rest : List Char) : readUnsigned? ('-' :: rest) = none := rfl

theorem read?_of_unsigned {characters : List Char} {value : ℚ}
    (unsigned : readUnsigned? characters = some value) : read? characters = some value := by
  cases characters with
  | nil => exact unsigned
  | cons first rest =>
      by_cases minus : first = '-'
      · rw [minus, readUnsigned?_minus] at unsigned
        cases unsigned
      · unfold read?
        split
        · next same => exact absurd (List.cons.inj same).1 minus
        · exact unsigned

/-- The rational number that the digits of a number in an expression stand for. -/
def significant (units : Nat) : ℚ := (Decimal.toPrecision 6 units).value

/-- The number that a number stands for in an expression. -/
def written : Binary64 → ℚ
  | .finite negative magnitude =>
      if negative then -significant magnitude.units else significant magnitude.units
  | _ => 0

/-- A number in an expression is read as the rational number of its digits. -/
theorem read?_toGeneralText {number : Binary64} (finite : number.isFinite = true) :
    read? (number.toGeneralText 6).toList = some (written number) := by
  cases number with
  | nan | infinite => cases finite
  | finite negative magnitude =>
      have unsigned : readUnsigned? ((DecimalLayout.general 6).write
          (Decimal.toPrecision 6 magnitude.units)).toList = some (significant magnitude.units) :=
        readUnsigned?_write (by decide)
      unfold Binary64.toGeneralText Binary64.writeWith
      dsimp only
      rw [String.toList_append]
      cases negative with
      | false => exact read?_of_unsigned unsigned
      | true => exact congrArg (Option.map fun value => -value) unsigned

/-! ## The sign of a numeral -/

/-- Whether a quotient times a power of ten is no less than one. -/
theorem scaleByPowerOfTen_reaches {numerator denominator : Nat} (power : Int) :
    (scaleByPowerOfTen numerator denominator power).2 ≤
        (scaleByPowerOfTen numerator denominator power).1 ↔
      (denominator : ℚ) ≤ numerator * 10 ^ power := by
  cases power with
  | ofNat power =>
      simp only [scaleByPowerOfTen, Int.ofNat_eq_natCast, zpow_natCast]
      exact_mod_cast Iff.rfl
  | negSucc power =>
      have positive : (0 : ℚ) < 10 ^ (power + 1) := by positivity
      simp only [scaleByPowerOfTen, zpow_negSucc]
      rw [← div_eq_mul_inv, le_div_iff₀ positive]
      exact_mod_cast Iff.rfl

/-- As `10 ^ short` is little more than `2 ^ long`, a power of two is no less than half the power of
ten that `short / long` estimates it by. -/
theorem ten_zpow_le {short long : Nat} (filled : long ≠ 0) (least : 2 ^ long ≤ 10 ^ short)
    (most : 10 ^ short ≤ 2 * 2 ^ long) {estimate power : Int}
    (below : estimate * long ≤ power * short) (bounded : power ≤ long) :
    (10 : ℚ) ^ estimate ≤ 2 * 2 ^ power := by
  have least : (2 : ℚ) ^ long ≤ 10 ^ short := by exact_mod_cast least
  have most : (10 : ℚ) ^ short ≤ 2 * 2 ^ long := by exact_mod_cast most
  have raised : ((10 : ℚ) ^ estimate) ^ long ≤ (10 ^ short) ^ power := by
    rw [← zpow_natCast, ← zpow_mul, ← zpow_natCast, ← zpow_mul, mul_comm (short : Int)]
    exact zpow_le_zpow_right₀ (by norm_num) below
  rw [← pow_le_pow_iff_left₀ (by positivity) (by positivity) filled]
  apply raised.trans
  cases power with
  | ofNat power =>
      simp only [Int.ofNat_eq_natCast, zpow_natCast]
      calc ((10 : ℚ) ^ short) ^ power
        _ ≤ (2 * 2 ^ long) ^ power := by gcongr
        _ = 2 ^ power * (2 ^ power) ^ long := by ring
        _ ≤ 2 ^ long * (2 ^ power) ^ long := by
          gcongr
          · norm_num
          · exact Int.ofNat_le.mp bounded
        _ = (2 * 2 ^ power) ^ long := (mul_pow ..).symm
  | negSucc power =>
      have positive : (0 : ℚ) ≤ (2 ^ (power + 1))⁻¹ := inv_nonneg.mpr (by positivity)
      simp only [zpow_negSucc]
      calc (((10 : ℚ) ^ short) ^ (power + 1))⁻¹
        _ ≤ ((2 ^ long) ^ (power + 1))⁻¹ := by gcongr
        _ = (2 ^ (power + 1))⁻¹ ^ long := by rw [inv_pow, pow_right_comm]
        _ ≤ (2 * (2 ^ (power + 1))⁻¹) ^ long := by
          gcongr
          exact le_mul_of_one_le_left positive (by norm_num)

/-- A power of two is no less than the power of ten that its leading digit is estimated from, but
for a digit. -/
theorem estimate_reached {length : Nat} (ranged : length < 2098) :
    (2 : ℚ) ^ 1074 ≤ 2 ^ length * 10 ^ (6 - (((length : Int) - 1074) * 30103).fdiv 100000) := by
  generalize rounded : (((length : Int) - 1074) * 30103).fdiv 100000 = estimate
  have least : 2 ^ 100000 ≤ 10 ^ 30103 := by decide +kernel
  have most : 10 ^ 30103 ≤ 2 * 2 ^ 100000 := by decide +kernel
  have below : estimate * (100000 : Nat) ≤ ((length : Int) - 1074) * (30103 : Nat) := by
    rw [← rounded, Int.fdiv_eq_ediv_of_nonneg _ (by decide)]
    exact Int.ediv_mul_le _ (by decide)
  have near := @ten_zpow_le 30103 100000 (by decide) least most _ _ below (by omega)
  have split : (2 : ℚ) ^ length = 2 ^ 1074 * 2 ^ ((length : Int) - 1074) := by
    rw [← zpow_natCast, ← zpow_natCast _ 1074, ← zpow_add₀ (by norm_num)]
    congr 1
    omega
  have digit : (2 : ℚ) ≤ 10 ^ (6 : Int) := by norm_num
  rw [zpow_sub₀ (by norm_num), split, mul_assoc, le_mul_iff_one_le_right (by positivity),
    ← mul_div_assoc, le_div_iff₀ (by positivity), one_mul, mul_comm]
  exact near.trans (by gcongr)

/-- The leading digit is found where a quotient reaches it, or one below the estimate. -/
theorem leadingExponent_reached (numerator denominator : Nat) :
    (denominator : ℚ) ≤ numerator * 10 ^ (-leadingExponent numerator denominator) ∨
      leadingExponent numerator denominator =
        (((numerator.log2 : Int) - denominator.log2) * 30103).fdiv 100000 - 1 := by
  unfold leadingExponent
  dsimp only
  generalize (((numerator.log2 : Int) - denominator.log2) * 30103).fdiv 100000 = estimate
  split
  · next above =>
      exact .inl ((scaleByPowerOfTen_reaches _).mp (of_decide_eq_true above))
  · split
    · next reached =>
        exact .inl ((scaleByPowerOfTen_reaches _).mp (of_decide_eq_true reached))
    · exact .inr rfl

theorem scaleByPowerOfTen_pos {numerator denominator : Nat} (positive : 0 < denominator)
    (power : Int) : 0 < (scaleByPowerOfTen numerator denominator power).2 := by
  cases power with
  | ofNat power => exact positive
  | negSucc power => exact Nat.mul_pos positive (Nat.pow_pos (by decide))

/-- A magnitude that is not zero keeps a digit. -/
theorem toPrecision_filled {units : Nat} (filled : units ≠ 0)
    (ranged : units < Binary64.unitsLimit) : (Decimal.toPrecision 6 units).significand ≠ 0 := by
  have reached : (Binary64.unitsPerOne : ℚ) ≤
      units * 10 ^ ((6 : Nat) - 1 - leadingExponent units Binary64.unitsPerOne) := by
    rcases leadingExponent_reached units Binary64.unitsPerOne with found | below
    · apply found.trans
      gcongr
      · norm_num
      · omega
    · have short := (Nat.log2_lt filled).mpr ranged
      have one : Binary64.unitsPerOne.log2 = 1074 := by
        unfold Binary64.unitsPerOne
        generalize 1074 = exponent
        exact Nat.log2_two_pow
      have unit : (Binary64.unitsPerOne : ℚ) = 2 ^ 1074 := by
        unfold Binary64.unitsPerOne
        generalize 1074 = exponent
        exact Nat.cast_pow 2 exponent
      have length : (2 : ℚ) ^ units.log2 ≤ units := by
        exact_mod_cast Nat.log2_self_le filled
      have power : (6 : Nat) - 1 - leadingExponent units Binary64.unitsPerOne =
          6 - (((units.log2 : Int) - 1074) * 30103).fdiv 100000 := by
        rw [below, one]
        push_cast
        ring
      rw [power, unit]
      exact (estimate_reached short).trans (by gcongr)
  have whole := (scaleByPowerOfTen_reaches _).mpr reached
  have positive : 0 < (scaleByPowerOfTen units Binary64.unitsPerOne
      ((6 : Nat) - 1 - leadingExponent units Binary64.unitsPerOne)).2 :=
    scaleByPowerOfTen_pos Binary64.unitsPerOne_pos _
  unfold Decimal.toPrecision
  rw [if_neg filled]
  dsimp only
  generalize scaleByPowerOfTen units Binary64.unitsPerOne
    ((6 : Nat) - 1 - leadingExponent units Binary64.unitsPerOne) = scaled at whole positive ⊢
  have least := le_roundHalfEven scaled.1 scaled.2
  have some := Nat.div_pos whole positive
  omega

theorem significant_zero : significant 0 = 0 := by
  simp [significant, Decimal.toPrecision, Decimal.value]

theorem significant_pos (magnitude : Binary64.Magnitude) (filled : magnitude.units ≠ 0) :
    0 < significant magnitude.units :=
  Decimal.value_pos (toPrecision_filled filled magnitude.representable.2)

/-- A number in an expression has the sign of the number. -/
theorem written_nonneg_iff {number : Binary64} (finite : number.isFinite = true) :
    0 ≤ written number ↔ number.lessThan .zero = false := by
  cases number with
  | nan | infinite => cases finite
  | finite negative magnitude =>
      have below : (Binary64.finite negative magnitude).lessThan .zero = false ↔
          ¬ Binary64.signedUnits negative magnitude < 0 := decide_eq_false_iff_not
      rw [below]
      unfold written Binary64.signedUnits
      dsimp only
      rcases eq_or_ne magnitude.units 0 with zero | filled
      · rw [zero, significant_zero]
        cases negative <;> simp
      · have positive := significant_pos magnitude filled
        cases negative with
        | false => exact iff_of_true positive.le (by simp)
        | true =>
            refine iff_of_false (not_le.mpr (neg_neg_of_pos positive)) (not_not_intro ?_)
            rw [if_pos rfl]
            omega

end Numeral

end ChartCompiler
