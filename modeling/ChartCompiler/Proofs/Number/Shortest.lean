import ChartCompiler.Number.Decimal
import ChartCompiler.Proofs.Number.Finite

/-!
# Decimals that are read back

A decimal is nearest to one magnitude of the format, whether or not zeros are moved from its
significand into its exponent. The shortest decimal of a magnitude is nearest to just this one, so
reading it gives the number back.
-/

namespace ChartCompiler

open scoped CorePower

theorem roundHalfEven_mul_right (numerator denominator : Nat) {factor : Nat}
    (positive : 0 < factor) :
    roundHalfEven (numerator * factor) (denominator * factor) =
      roundHalfEven numerator denominator := by
  simp only [roundHalfEven, Nat.mul_div_mul_right _ _ positive, Nat.mul_mod_mul_right,
    ← Nat.mul_assoc, Nat.mul_lt_mul_right positive]

/-- What is nearest to a quotient depends on the quotient only. -/
theorem Binary64.nearestUnits_mul_right (numerator denominator : Nat) {factor : Nat}
    (positive : 0 < factor) :
    nearestUnits (numerator * factor) (denominator * factor) =
      nearestUnits numerator denominator := by
  unfold nearestUnits
  dsimp only
  rw [Nat.mul_div_mul_right _ _ positive, Nat.mul_right_comm, roundHalfEven_mul_right _ _ positive]

namespace Decimal

/-! ## Zeros at the end of a significand -/

theorem nearestUnits_shift (significand : Nat) (exponent : Int) :
    nearestUnits ⟨significand * 10, exponent - 1⟩ = nearestUnits ⟨significand, exponent⟩ := by
  have ten : 0 < 10 := by decide
  have commute : significand * 10 * Binary64.unitsPerOne =
      significand * Binary64.unitsPerOne * 10 := Nat.mul_right_comm ..
  unfold nearestUnits
  dsimp only
  rw [commute]
  cases exponent with
  | ofNat power =>
      cases power with
      | zero =>
          change Binary64.nearestUnits _ (1 * 10 ^ 1) = Binary64.nearestUnits (_ * 10 ^ 0) 1
          rw [Nat.pow_zero, Nat.mul_one]
          exact Binary64.nearestUnits_mul_right _ 1 ten
      | succ power =>
          have earlier : Int.ofNat (power + 1) - 1 = Int.ofNat power := by
            simp only [Int.ofNat_eq_natCast]
            omega
          rw [earlier]
          change Binary64.nearestUnits (_ * 10 * 10 ^ power) 1 =
            Binary64.nearestUnits (_ * 10 ^ (power + 1)) 1
          rw [Nat.mul_assoc, ← Nat.pow_succ']
  | negSucc power =>
      change Binary64.nearestUnits _ (1 * 10 ^ (power + 1 + 1)) =
        Binary64.nearestUnits _ (1 * 10 ^ (power + 1))
      rw [Nat.pow_succ, ← Nat.mul_assoc]
      exact Binary64.nearestUnits_mul_right _ _ ten

/-- Zeros that a significand gets and its exponent accounts for. -/
theorem nearestUnits_padded (significand : Nat) (exponent : Int) (zeros : Nat) :
    nearestUnits ⟨significand * 10 ^ zeros, exponent - zeros⟩ =
      nearestUnits ⟨significand, exponent⟩ := by
  induction zeros with
  | zero => rw [Nat.pow_zero, Nat.mul_one, Int.natCast_zero, Int.sub_zero]
  | succ zeros induction =>
      rw [Nat.pow_succ, ← Nat.mul_assoc, Int.natCast_succ, ← Int.sub_sub, nearestUnits_shift,
        induction]

theorem nearestUnits_stripZeros (decimal : Decimal) (count : Nat) :
    (decimal.stripZeros count).nearestUnits = decimal.nearestUnits := by
  induction count generalizing decimal with
  | zero => rfl
  | succ count induction =>
      unfold stripZeros
      split
      · next zero =>
          rw [induction, ← nearestUnits_shift,
            Nat.div_mul_cancel (Nat.dvd_of_mod_eq_zero zero.2), Int.add_sub_cancel]
      · rfl

theorem nearestUnits_normalize (decimal : Decimal) :
    decimal.normalize.nearestUnits = decimal.nearestUnits := decimal.nearestUnits_stripZeros _

theorem nearestUnits_zero {decimal : Decimal} (zero : decimal.significand = 0) :
    decimal.nearestUnits = 0 := by
  unfold nearestUnits
  rw [zero, Nat.zero_mul]
  have rounded (denominator : Nat) : Binary64.nearestUnits 0 denominator = 0 := by
    rcases Nat.eq_zero_or_pos denominator with rfl | positive
    · rfl
    · exact Nat.le_zero.mp (Binary64.nearestUnits_le positive (Nat.dvd_zero _) (Nat.zero_le _))
  cases decimal.exponent with
  | ofNat power =>
      change Binary64.nearestUnits (0 * 10 ^ power) 1 = 0
      rw [Nat.zero_mul, rounded]
  | negSucc power => exact rounded _

/-! ## Shortest decimals -/

theorem nearestUnits_of_fives {count : Nat} (scale : Binary64.unitsPerOne = 2 ^ count) {units : Nat}
    (divides : Binary64.spacing units ∣ units) :
    nearestUnits ⟨units * 5 ^ count, -count⟩ = units := by
  have scaled : Binary64.nearestUnits (units * 5 ^ count * 2 ^ count) (1 * 10 ^ count) = units := by
    rw [show 10 = 5 * 2 from rfl, Nat.mul_pow, Nat.mul_assoc,
      Binary64.nearestUnits_mul_right _ _ (Nat.mul_pos (Nat.pow_pos (by decide))
        (Nat.two_pow_pos count)), Binary64.nearestUnits_eq_self divides]
  rw [← scale] at scaled
  cases count with
  | zero => simpa [nearestUnits, scaleByPowerOfTen] using scaled
  | succ count => exact scaled

theorem nearestUnits_exact {units : Nat} (divides : Binary64.spacing units ∣ units) :
    (exact units).nearestUnits = units := by
  have scale : Binary64.unitsPerOne = 2 ^ (1074 : Nat) := rfl
  exact nearestUnits_of_fives scale divides

/-- The shortest decimal of a magnitude is nearest to this one. -/
theorem nearestUnits_shortest {units : Nat} (positive : units ≠ 0)
    (divides : Binary64.spacing units ∣ units) : (shortest units).nearestUnits = units := by
  unfold shortest
  rw [if_neg positive]
  dsimp only
  rw [nearestUnits_normalize]
  cases search : List.find? (fun candidate => decide (candidate.nearestUnits = units))
      ((List.range 17).flatMap fun count => neighbours units (count + 1)) with
  | none =>
      rw [Option.getD_none]
      exact nearestUnits_exact divides
  | some candidate =>
      rw [Option.getD_some]
      simpa only [decide_eq_true_eq] using List.find?_some search

/-! ## Decimals far out of the range -/

theorem significand_lt (decimal : Decimal) :
    decimal.significand < 10 ^ decimal.digits.length :=
  (Nat.length_toDigits_le_iff (by decide) Nat.length_toDigits_pos).mp (Nat.le_refl _)

theorem pow_le_significand {decimal : Decimal} (filled : decimal.significand ≠ 0) :
    10 ^ (decimal.digits.length - 1) ≤ decimal.significand := by
  rcases Nat.eq_zero_or_pos (decimal.digits.length - 1) with single | more
  · rw [single]
    omega
  · rcases Nat.lt_or_ge decimal.significand (10 ^ (decimal.digits.length - 1)) with less | enough
    · have shorter := (Nat.length_toDigits_le_iff (by decide) more).mpr less
      unfold digits at shorter more
      omega
    · exact enough

/-- A decimal below all numbers of the format but zero. -/
theorem nearestUnits_of_small {decimal : Decimal}
    (small : decimal.digits.length + decimal.exponent < -330) : decimal.nearestUnits = 0 := by
  rcases decimal with ⟨significand, exponent⟩
  have upper := significand_lt ⟨significand, exponent⟩
  generalize (Decimal.digits ⟨significand, exponent⟩).length = count at small upper
  dsimp only at small upper
  cases exponent with
  | ofNat power =>
      simp only [Int.ofNat_eq_natCast] at small
      omega
  | negSucc power =>
      have split : 10 ^ (power + 1) = 10 ^ (power + 1 - count - 330) * 10 ^ 330 * 10 ^ count := by
        rw [← Nat.pow_add, ← Nat.pow_add]
        congr 1
        omega
      have unit : 2 * Binary64.unitsPerOne < 10 ^ 330 := by decide +kernel
      have shift : 1 ≤ 10 ^ (power + 1 - count - 330) := Nat.pow_pos (by decide)
      have near : 2 * (significand * Binary64.unitsPerOne) < 10 ^ (power + 1) := by
        rw [split]
        calc 2 * (significand * Binary64.unitsPerOne)
            = 2 * Binary64.unitsPerOne * significand := by ring
          _ < 10 ^ 330 * 10 ^ count := Nat.mul_lt_mul'' unit upper
          _ ≤ 10 ^ (power + 1 - count - 330) * 10 ^ 330 * 10 ^ count :=
              Nat.mul_le_mul_right _ (Nat.le_mul_of_pos_left _ shift)
      apply Nat.le_zero.mp
      refine Binary64.nearestUnits_le_of_near (Nat.dvd_zero _) ?_
      change 2 * (significand * Binary64.unitsPerOne) < (2 * 0 + _) * (1 * 10 ^ (power + 1))
      rw [Nat.mul_zero, Nat.zero_add, Nat.one_mul]
      exact near.trans_le (Nat.le_mul_of_pos_left _ (Binary64.spacing_pos _))

/-- A decimal above all numbers of the format. -/
theorem unitsLimit_le_nearestUnits {decimal : Decimal} (filled : decimal.significand ≠ 0)
    (large : 310 < decimal.digits.length + decimal.exponent) :
    Binary64.unitsLimit ≤ decimal.nearestUnits := by
  rcases decimal with ⟨significand, exponent⟩
  have lower := pow_le_significand filled
  generalize (Decimal.digits ⟨significand, exponent⟩).length = count at large lower
  dsimp only at large lower
  have limit : Binary64.unitsLimit ≤ 10 ^ 310 * Binary64.unitsPerOne := by decide +kernel
  unfold nearestUnits
  cases exponent with
  | ofNat power =>
      refine Binary64.two_pow_le_nearestUnits Nat.one_pos ?_
      change Binary64.unitsLimit * 1 ≤ significand * Binary64.unitsPerOne * 10 ^ power
      rw [Nat.mul_one, Nat.mul_right_comm]
      refine limit.trans (Nat.mul_le_mul_right _ ?_)
      have exponents : 310 ≤ count - 1 + power := by
        simp only [Int.ofNat_eq_natCast] at large
        omega
      calc 10 ^ 310 ≤ 10 ^ (count - 1 + power) := Nat.pow_le_pow_right (by decide) exponents
        _ = 10 ^ (count - 1) * 10 ^ power := Nat.pow_add ..
        _ ≤ significand * 10 ^ power := Nat.mul_le_mul_right _ lower
  | negSucc power =>
      refine Binary64.two_pow_le_nearestUnits (Nat.mul_pos Nat.one_pos (Nat.pow_pos (by decide))) ?_
      change Binary64.unitsLimit * (1 * 10 ^ (power + 1)) ≤ significand * Binary64.unitsPerOne
      rw [Nat.one_mul]
      have exponents : 310 + (power + 1) ≤ count - 1 := by omega
      calc Binary64.unitsLimit * 10 ^ (power + 1)
          ≤ 10 ^ 310 * Binary64.unitsPerOne * 10 ^ (power + 1) := Nat.mul_le_mul_right _ limit
        _ = 10 ^ (310 + (power + 1)) * Binary64.unitsPerOne := by
            rw [Nat.pow_add 10 310, Nat.mul_right_comm]
        _ ≤ 10 ^ (count - 1) * Binary64.unitsPerOne :=
            Nat.mul_le_mul_right _ (Nat.pow_le_pow_right (by decide) exponents)
        _ ≤ significand * Binary64.unitsPerOne := Nat.mul_le_mul_right _ lower

end Decimal

/-- Reading a decimal that is nearest to a magnitude. -/
theorem Binary64.ofDecimal_eq {decimal : Decimal} {magnitude : Magnitude}
    (near : decimal.nearestUnits = magnitude.units) (filled : magnitude.units ≠ 0)
    (negative : Bool) :
    ofDecimal negative decimal.significand decimal.exponent = .finite negative magnitude := by
  have significant : decimal.significand ≠ 0 := fun zero =>
    filled (near ▸ Decimal.nearestUnits_zero zero)
  have notSmall : ¬ decimal.digits.length + decimal.exponent < -330 := fun small =>
    filled (near ▸ Decimal.nearestUnits_of_small small)
  have notLarge : ¬ 310 < decimal.digits.length + decimal.exponent := fun large =>
    absurd (near ▸ Decimal.unitsLimit_le_nearestUnits significant large)
      (Nat.not_le_of_lt magnitude.representable.2)
  unfold Decimal.digits at notSmall notLarge
  unfold ofDecimal
  simp only [significant, notSmall, notLarge, decide_false, Bool.or_self, Bool.false_eq_true,
    if_false]
  change ofUnits negative decimal.nearestUnits = _
  rw [near, ofUnits_eq negative magnitude.representable]

end ChartCompiler
