import ChartCompiler.Proofs.Number.Finite
import Mathlib.Data.Int.ConditionallyCompleteOrder

/-!
# Order of numbers

Apart from the undefined number, numbers have a place in a linear order, by which they are compared.
Rounding keeps the order of what is rounded, though it may make different numbers equal.
-/

namespace ChartCompiler

open scoped CorePower

/-- A rounded quotient is at most half away. -/
theorem le_roundHalfEven_add_half (numerator : Nat) {denominator : Nat}
    (positive : 0 < denominator) :
    2 * numerator ≤ (2 * roundHalfEven numerator denominator + 1) * denominator := by
  have parts := Nat.div_add_mod numerator denominator
  have small := Nat.mod_lt numerator positive
  have up : 2 * numerator ≤ (2 * (numerator / denominator + 1) + 1) * denominator := by nlinarith
  have down (near : 2 * (numerator % denominator) ≤ denominator) :
      2 * numerator ≤ (2 * (numerator / denominator) + 1) * denominator := by nlinarith
  simp only [roundHalfEven]
  split
  · exact down (by omega)
  · split
    · exact up
    · split
      · exact down (by omega)
      · exact up

namespace Binary64

/-! ## Rounding keeps the order -/

/-- A quotient that is rounded down has the spacing of what it is rounded to. -/
theorem spacing_of_rounded_down {numerator denominator : Nat} (positive : 0 < denominator)
    {units : Nat} (above : nearestUnits numerator denominator ≤ units)
    (below : units ≤ numerator / denominator) :
    spacing units = spacing (numerator / denominator) := by
  rcases Nat.eq_zero_or_pos (numerator / denominator) with zero | filled
  · rw [zero] at below ⊢
    rw [Nat.le_zero.mp below]
  · have least := Nat.log2_self_le (n := numerator / denominator) (by omega)
    have power := two_pow_le_nearestUnits positive ((Nat.le_div_iff_mul_le positive).mp least)
    have positiveUnits : units ≠ 0 := by
      have := Nat.two_pow_pos (numerator / denominator).log2
      omega
    have same : units.log2 = (numerator / denominator).log2 := by
      apply Nat.le_antisymm
      · exact (Nat.le_log2 (by omega)).mpr ((Nat.log2_self_le positiveUnits).trans below)
      · exact (Nat.le_log2 positiveUnits).mpr (power.trans above)
    unfold spacing
    rw [same]

theorem nearestUnits_mono {first second denominator : Nat} (positive : 0 < denominator)
    (order : first ≤ second) :
    nearestUnits first denominator ≤ nearestUnits second denominator := by
  rcases Nat.eq_or_lt_of_le order with rfl | less
  · exact Nat.le_refl _
  · rcases Nat.le_total first (nearestUnits second denominator * denominator) with within | beyond
    · exact nearestUnits_le positive (spacing_dvd_nearestUnits _ _) within
    · -- The greater one is rounded down past the lesser one, which is no further away.
      have same : spacing (first / denominator) = spacing (second / denominator) :=
        spacing_of_rounded_down positive ((Nat.le_div_iff_mul_le positive).mpr beyond)
          (Nat.div_le_div_right order)
      have step : 0 < denominator * spacing (second / denominator) :=
        Nat.mul_pos positive (spacing_pos _)
      have near := le_roundHalfEven_add_half second step
      apply nearestUnits_le_of_near
      · rw [same]
        exact Nat.dvd_mul_left _ _
      · rw [same]
        calc 2 * first < 2 * second := by omega
          _ ≤ _ := near
          _ = _ := by
            unfold nearestUnits
            ring

/-- The whole number nearest to which a number is, in units. -/
theorem ofInt?_eq_some {value : Int} {real : Binary64} (taken : ofInt? value = some real) :
    ∃ magnitude : Magnitude, real = .finite (decide (value < 0)) magnitude ∧
      magnitude.units = nearestUnits (value.natAbs * unitsPerOne) 1 := by
  rw [ofInt?_eq] at taken
  cases rounded : ofRatio (decide (value < 0)) (value.natAbs * unitsPerOne) 1 with
  | finite negative magnitude =>
      rw [rounded] at taken
      obtain ⟨sign, units⟩ := units_of_ofRatio rounded
      refine ⟨magnitude, ?_, units⟩
      cases taken
      rw [sign]
  | nan =>
      rw [rounded] at taken
      cases taken
  | infinite =>
      rw [rounded] at taken
      cases taken

theorem ne_nan_of_ofInt? {value : Int} {real : Binary64} (taken : ofInt? value = some real) :
    real ≠ .nan := by
  obtain ⟨magnitude, rfl, _⟩ := ofInt?_eq_some taken
  exact nofun

/-! ## Numbers that are defined -/

theorem ofRatio_ne_nan (negative : Bool) (numerator denominator : Nat) :
    ofRatio negative numerator denominator ≠ .nan := by
  intro same
  unfold ofRatio ofUnits at same
  split at same <;> cases same

theorem ne_nan_of_isFinite {value : Binary64} (finite : value.isFinite = true) : value ≠ .nan := by
  rintro rfl
  cases finite

theorem subtract_ne_nan {left right : Binary64} (leftFinite : left.isFinite = true)
    (rightFinite : right.isFinite = true) : left - right ≠ .nan := by
  cases left with
  | nan | infinite => cases leftFinite
  | finite leftNegative left =>
      cases right with
      | nan | infinite => cases rightFinite
      | finite rightNegative right =>
          change (if _ then _ else ofRatio _ _ _) ≠ _
          split
          · exact nofun
          · exact ofRatio_ne_nan _ _ _

/-! ## The order -/

/-- The place of a number in the order, with the undefined number at the end. -/
def rank : Binary64 → WithBot (WithTop Int)
  | .nan => ((⊤ : WithTop Int) : WithBot (WithTop Int))
  | .infinite true => ⊥
  | .infinite false => ((⊤ : WithTop Int) : WithBot (WithTop Int))
  | .finite negative magnitude => ((signedUnits negative magnitude : WithTop Int) : WithBot _)

theorem lessThan_iff {left right : Binary64} (leftDefined : left ≠ .nan)
    (rightDefined : right ≠ .nan) : left.lessThan right = true ↔ left.rank < right.rank := by
  cases left with
  | nan => exact absurd rfl leftDefined
  | infinite negative =>
      cases right with
      | nan => exact absurd rfl rightDefined
      | infinite other => cases negative <;> cases other <;> simp [lessThan, rank]
      | finite => cases negative <;> simp [lessThan, rank]
  | finite sign magnitude =>
      cases right with
      | nan => exact absurd rfl rightDefined
      | infinite other =>
          have least := WithBot.coe_lt_coe.mpr (WithTop.coe_lt_top (signedUnits sign magnitude))
          cases other
          · exact iff_of_true rfl least
          · simp [lessThan, rank]
      | finite => simp [lessThan, rank]

theorem equals_iff {left right : Binary64} (leftDefined : left ≠ .nan)
    (rightDefined : right ≠ .nan) : left.equals right = true ↔ left.rank = right.rank := by
  cases left with
  | nan => exact absurd rfl leftDefined
  | infinite negative =>
      cases right with
      | nan => exact absurd rfl rightDefined
      | infinite other => cases negative <;> cases other <;> simp [equals, rank]
      | finite => cases negative <;> simp [equals, rank]
  | finite =>
      cases right with
      | nan => exact absurd rfl rightDefined
      | infinite other => cases other <;> simp [equals, rank]
      | finite => simp [equals, rank]

/-- Numerical order or equality; false as soon as one side is undefined. -/
def atMost (left right : Binary64) : Bool := left.lessThan right || left.equals right

theorem atMost_iff {left right : Binary64} (leftDefined : left ≠ .nan)
    (rightDefined : right ≠ .nan) : left.atMost right = true ↔ left.rank ≤ right.rank := by
  rw [atMost, Bool.or_eq_true, lessThan_iff leftDefined rightDefined,
    equals_iff leftDefined rightDefined, le_iff_lt_or_eq]

theorem not_lessThan_of_atMost {left right : Binary64} (most : left.atMost right = true) :
    right.lessThan left = false := by
  by_cases leftDefined : left = .nan
  · rw [leftDefined] at most
    cases most
  · by_cases rightDefined : right = .nan
    · rw [rightDefined]
      rfl
    · rw [Bool.eq_false_iff, Ne, lessThan_iff rightDefined leftDefined, not_lt]
      exact (atMost_iff leftDefined rightDefined).mp most

/-- Whole numbers keep their order when they are taken as real ones. -/
theorem rank_mono {first second : Int} (order : first ≤ second) {left right : Binary64}
    (leftTaken : ofInt? first = some left) (rightTaken : ofInt? second = some right) :
    left.rank ≤ right.rank := by
  obtain ⟨lesser, rfl, lesserUnits⟩ := ofInt?_eq_some leftTaken
  obtain ⟨greater, rfl, greaterUnits⟩ := ofInt?_eq_some rightTaken
  change ((_ : WithTop Int) : WithBot (WithTop Int)) ≤ ((_ : WithTop Int) : WithBot (WithTop Int))
  rw [WithBot.coe_le_coe, WithTop.coe_le_coe]
  have mono (near : first.natAbs ≤ second.natAbs) : lesser.units ≤ greater.units := by
    rw [lesserUnits, greaterUnits]
    exact nearestUnits_mono Nat.one_pos (Nat.mul_le_mul_right _ near)
  have anti (near : second.natAbs ≤ first.natAbs) : greater.units ≤ lesser.units := by
    rw [lesserUnits, greaterUnits]
    exact nearestUnits_mono Nat.one_pos (Nat.mul_le_mul_right _ near)
  rcases Int.lt_or_le first 0 with negative | positive
  · rcases Int.lt_or_le second 0 with other | _
    · have units := anti (by omega)
      simp only [signedUnits, negative, other, decide_true, if_true]
      omega
    · have other : decide (second < 0) = false := decide_eq_false (by omega)
      simp only [signedUnits, negative, other, decide_true, if_true, Bool.false_eq_true, if_false]
      omega
  · have units := mono (by omega)
    have sign : decide (first < 0) = false := decide_eq_false (by omega)
    have other : decide (second < 0) = false := decide_eq_false (by omega)
    simp only [signedUnits, sign, other, Bool.false_eq_true, if_false]
    omega

/-- The sign of a whole number is that of the real number nearest to it. -/
theorem signedUnits_neg_iff {value : Int} {magnitude : Magnitude}
    (units : magnitude.units = nearestUnits (value.natAbs * unitsPerOne) 1) :
    signedUnits (decide (value < 0)) magnitude < 0 ↔ value < 0 := by
  unfold signedUnits
  by_cases negative : value < 0
  · have filled := unitsPerOne_le_nearestUnits
      (Nat.le_mul_of_pos_left unitsPerOne (Int.natAbs_pos.mpr (Int.ne_of_lt negative)))
    have one := unitsPerOne_pos
    rw [if_pos (decide_eq_true negative)]
    exact iff_of_true (by omega) negative
  · rw [if_neg (by simpa using negative)]
    exact iff_of_false (by omega) negative

/-- Real numbers nearest to whole ones are the same if they have one place in the order. -/
theorem eq_of_rank_eq {first second : Int} {left right : Binary64}
    (leftTaken : ofInt? first = some left) (rightTaken : ofInt? second = some right)
    (same : left.rank = right.rank) : left = right := by
  obtain ⟨lesser, rfl, lesserUnits⟩ := ofInt?_eq_some leftTaken
  obtain ⟨greater, rfl, greaterUnits⟩ := ofInt?_eq_some rightTaken
  have signed : signedUnits (decide (first < 0)) lesser =
      signedUnits (decide (second < 0)) greater :=
    WithTop.coe_inj.mp (WithBot.coe_inj.mp same)
  have signs : first < 0 ↔ second < 0 := by
    rw [← signedUnits_neg_iff lesserUnits, signed, signedUnits_neg_iff greaterUnits]
  have units : lesser.units = greater.units := by
    rw [← natAbs_signedUnits (decide (first < 0)), signed, natAbs_signedUnits]
  have magnitudes : lesser = greater := by
    cases lesser
    cases greater
    cases units
    rfl
  rw [magnitudes, decide_eq_decide.mpr signs]

/-- Whole numbers of 53 bits are real numbers themselves. -/
theorem ofInt?_inj_of_short {first second : Int} (firstShort : first.natAbs ≤ 2 ^ (53 : Nat))
    (secondShort : second.natAbs ≤ 2 ^ (53 : Nat)) {real : Binary64}
    (firstTaken : ofInt? first = some real) (secondTaken : ofInt? second = some real) :
    first = second := by
  have exact {value : Int} (short : value.natAbs ≤ 2 ^ (53 : Nat)) :
      nearestUnits (value.natAbs * unitsPerOne) 1 = value.natAbs * unitsPerOne := by
    unfold unitsPerOne
    generalize 1074 = exponent
    exact nearestUnits_eq_self (spacing_dvd_of_significand short exponent)
  obtain ⟨lesser, rfl, lesserUnits⟩ := ofInt?_eq_some firstTaken
  obtain ⟨greater, same, greaterUnits⟩ := ofInt?_eq_some secondTaken
  obtain ⟨signs, rfl⟩ := finite.inj same
  rw [exact firstShort] at lesserUnits
  rw [exact secondShort] at greaterUnits
  have magnitudes :=
    Nat.eq_of_mul_eq_mul_right unitsPerOne_pos (lesserUnits.symm.trans greaterUnits)
  have sign := decide_eq_decide.mp signs
  omega

end Binary64

end ChartCompiler
