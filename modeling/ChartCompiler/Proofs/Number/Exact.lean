import ChartCompiler.Proofs.Number.Order
import ChartCompiler.Proofs.Number.Shortest
import Mathlib.Algebra.Order.Field.Basic
import Mathlib.Data.Rat.Lemmas
import Mathlib.Tactic.FieldSimp

/-!
# Exact values of results

A difference that the format can hold is exact. The product of finite numbers is the number nearest to
the product of their exact values, and it is not further from zero than a product of numbers that are
no less.
-/

namespace ChartCompiler

namespace Binary64

/-! ## Exact values -/

/-- The exact value of a finite number. -/
def toRat : Binary64 → ℚ
  | .finite negative magnitude => signedUnits negative magnitude / unitsPerOne
  | .nan | .infinite _ => 0

/-- The number nearest to a rational one, a tie going to the even significand. -/
def ofRat (value : ℚ) : Binary64 :=
  ofRatio (value < 0) (value.num.natAbs * unitsPerOne) value.den

theorem equals_self {value : Binary64} (defined : value ≠ .nan) : value.equals value = true :=
  (equals_iff defined defined).mpr rfl

/-- Equal quotients are rounded alike. -/
theorem nearestUnits_congr {first second : Nat} {leftDenominator rightDenominator : Nat}
    (leftPositive : 0 < leftDenominator) (rightPositive : 0 < rightDenominator)
    (cross : first * rightDenominator = second * leftDenominator) :
    nearestUnits first leftDenominator = nearestUnits second rightDenominator := by
  calc nearestUnits first leftDenominator
    _ = nearestUnits (first * rightDenominator) (leftDenominator * rightDenominator) :=
      (nearestUnits_mul_right _ _ rightPositive).symm
    _ = nearestUnits (second * leftDenominator) (rightDenominator * leftDenominator) := by
      rw [cross, Nat.mul_comm leftDenominator]
    _ = nearestUnits second rightDenominator := nearestUnits_mul_right _ _ leftPositive

theorem ofRatio_zero (negative : Bool) (denominator : Nat) :
    ofRatio negative 0 denominator = .finite negative .zero := by
  have none : nearestUnits 0 denominator = 0 := by
    simp [nearestUnits, roundHalfEven]
  unfold ofRatio
  rw [none]
  exact ofUnits_eq negative Magnitude.zero.representable

/-- The sign and the size of a number that is not zero. -/
theorem sign_and_size {size : ℚ} (positive : 0 < size) (negative : Bool) :
    decide ((if negative then -1 else 1) * size < 0) = negative ∧
      |(if negative then -1 else 1) * size| = size := by
  cases negative with
  | false => simp [positive.le, abs_of_pos positive]
  | true => simp [positive, abs_of_pos positive]

/-- A quotient of units is rounded to the number nearest to its exact value. A zero may have either
sign. -/
theorem ofRatio_equals_ofRat {negative : Bool} {numerator denominator : Nat} {value : ℚ}
    (positive : 0 < denominator)
    (exact : value = (if negative then -1 else 1) * (numerator / (denominator * unitsPerOne))) :
    (ofRatio negative numerator denominator).equals (ofRat value) = true := by
  have one : (0 : ℚ) < unitsPerOne := by exact_mod_cast unitsPerOne_pos
  have below : (0 : ℚ) < denominator := by exact_mod_cast positive
  rcases Nat.eq_zero_or_pos numerator with rfl | filled
  · have none : value = 0 := by rw [exact, Nat.cast_zero, zero_div, mul_zero]
    rw [none, ofRat, Rat.num_zero, Int.natAbs_zero, Nat.zero_mul, ofRatio_zero, ofRatio_zero]
    cases negative <;> rfl
  · have above : (0 : ℚ) < numerator := by exact_mod_cast filled
    have size : (0 : ℚ) < numerator / (denominator * unitsPerOne) := div_pos above (mul_pos below one)
    rcases exact ▸ sign_and_size size negative with ⟨sign, distance⟩
    have cross : numerator * value.den = value.num.natAbs * unitsPerOne * denominator := by
      have parts : (value.num.natAbs : ℚ) / value.den = |value| := by
        rw [Nat.cast_natAbs, Int.cast_abs, ← Nat.abs_cast value.den, ← abs_div, Rat.num_div_den]
      have filledDen : (value.den : ℚ) ≠ 0 := by exact_mod_cast value.den_ne_zero
      rw [distance] at parts
      field_simp at parts
      have crossed : (numerator : ℚ) * value.den = value.num.natAbs * unitsPerOne * denominator := by
        linarith
      exact_mod_cast crossed
    have near : nearestUnits numerator denominator
        = nearestUnits (value.num.natAbs * unitsPerOne) value.den :=
      nearestUnits_congr positive value.den_pos cross
    unfold ofRat ofRatio
    rw [sign, near]
    exact equals_self (ofRatio_ne_nan negative _ _)

theorem signedUnits_cast (negative : Bool) (magnitude : Magnitude) :
    (signedUnits negative magnitude : ℚ) = (if negative then -1 else 1) * magnitude.units := by
  cases negative <;> simp [signedUnits]

/-! ## Whole values -/

section

variable {negative : Bool} {magnitude : Magnitude}

end

/-! ## Results -/

/-- A difference that the format can hold is not rounded. -/
theorem subtract_exact {left right : Magnitude} (difference : Magnitude)
    (exact : difference.units = ((left.units : Int) - right.units).natAbs) :
    Binary64.finite false left - .finite false right
      = .finite (decide (left.units < right.units)) difference := by
  rcases difference with ⟨units, representable⟩
  have sum : signedUnits false left + signedUnits true right = left.units - right.units := rfl
  change (if signedUnits false left + signedUnits true right = 0 then _ else ofRatio
    (decide (signedUnits false left + signedUnits true right < 0))
    (signedUnits false left + signedUnits true right).natAbs 1) = _
  rw [sum]
  split
  · next equal =>
      have none : units = 0 := exact.trans (Int.natAbs_eq_zero.mpr equal)
      subst none
      rw [decide_eq_false (by omega)]
      rfl
  · have sign : decide ((left.units : Int) - right.units < 0) = decide (left.units < right.units) :=
      decide_eq_decide.mpr (by omega)
    rw [sign, ← exact]
    exact ofRatio_units _ ⟨units, representable⟩

/-- A product is rounded once. -/
theorem multiply_equals_ofRat {left right : Binary64} (leftFinite : left.isFinite = true)
    (rightFinite : right.isFinite = true) :
    (left * right).equals (ofRat (left.toRat * right.toRat)) = true := by
  cases left with
  | nan | infinite => cases leftFinite
  | finite leftNegative left =>
      cases right with
      | nan | infinite => cases rightFinite
      | finite rightNegative right =>
          refine ofRatio_equals_ofRat unitsPerOne_pos ?_
          have one : (unitsPerOne : ℚ) ≠ 0 := by exact_mod_cast unitsPerOne_pos.ne'
          simp only [toRat, signedUnits_cast, Nat.cast_mul]
          generalize (unitsPerOne : ℚ) = unit at one ⊢
          cases leftNegative <;> cases rightNegative <;> simp <;> field_simp

/-! ## Distances from zero -/

def absolute : Binary64 → Binary64
  | .nan => .nan
  | .infinite _ => .infinite false
  | .finite _ magnitude => .finite false magnitude

theorem absolute_ofRatio (negative : Bool) (numerator denominator : Nat) :
    (ofRatio negative numerator denominator).absolute = ofRatio false numerator denominator := by
  unfold ofRatio ofUnits
  split <;> rfl

theorem ofRatio_atMost {first second leftDenominator rightDenominator : Nat}
    (order : nearestUnits first leftDenominator ≤ nearestUnits second rightDenominator) :
    (ofRatio false first leftDenominator).atMost (ofRatio false second rightDenominator) = true := by
  have exact := spacing_dvd_nearestUnits first leftDenominator
  refine (atMost_iff (ofRatio_ne_nan false _ _) (ofRatio_ne_nan false _ _)).mpr ?_
  unfold ofRatio ofUnits
  generalize nearestUnits first leftDenominator = lesser at *
  generalize nearestUnits second rightDenominator = greater at *
  split
  · next inside =>
      split
      · exact WithBot.coe_le_coe.mpr (WithTop.coe_le_coe.mpr (Int.ofNat_le.mpr order))
      · exact WithBot.coe_le_coe.mpr le_top
  · next beyond =>
      rw [dif_neg fun inside : Representable greater =>
        beyond ⟨exact, order.trans_lt inside.2⟩]

/-- A product with a number within a limit is not beyond the product with the limit. -/
theorem multiply_atMost {share : Binary64} (limit : Magnitude) (within : share.Within limit.units)
    {spread : Binary64} (finite : spread.isFinite = true) :
    (share * spread).absolute.atMost (spread.absolute * .finite false limit) = true := by
  cases within with
  | finite shareNegative magnitude bounded =>
      cases spread with
      | nan | infinite => cases finite
      | finite negative other =>
          change (ofRatio _ _ _).absolute.atMost (ofRatio (false != false) _ _) = true
          rw [absolute_ofRatio]
          refine ofRatio_atMost (nearestUnits_mono unitsPerOne_pos ?_)
          rw [Nat.mul_comm other.units]
          exact Nat.mul_le_mul_right _ bounded

/-- Nothing is beyond half of an infinite number. -/
theorem not_lessThan_of_infinite (value : Binary64) :
    (Binary64.infinite false * 0.5).lessThan value = false := by
  rw [half_eq]
  generalize (⟨halfUnits, halfUnits_representable⟩ : Magnitude) = half
  change Binary64.lessThan (if half.units = 0 then _ else _) value = false
  split
  · rfl
  · cases value <;> rfl

end Binary64

end ChartCompiler
