import ChartCompiler.Number.Arithmetic
import Mathlib.Tactic.Linarith
import Mathlib.Tactic.Ring

/-!
# Results within the range

Rounding is monotone at the magnitudes of the format, so a result is finite if its exact value is
not beyond a magnitude of the format (`Binary64.Within`). Beyond the greatest one rounding leaves
half a step more.
-/

namespace ChartCompiler

theorem roundHalfEven_le_of_near {numerator denominator limit : Nat}
    (near : 2 * numerator < (2 * limit + 1) * denominator) :
    roundHalfEven numerator denominator ≤ limit := by
  have positive : 0 < denominator := by
    rcases Nat.eq_zero_or_pos denominator with zero | positive
    · simp [zero] at near
    · exact positive
  have parts := Nat.div_add_mod numerator denominator
  have bounded : numerator / denominator ≤ limit := by
    apply Nat.le_of_lt_succ
    rw [Nat.div_lt_iff_lt_mul positive]
    nlinarith
  rcases Nat.lt_or_eq_of_le bounded with below | equal
  · exact (roundHalfEven_le _ _).trans below
  · rw [equal] at parts
    have close : 2 * (numerator % denominator) < denominator := by nlinarith
    simp only [roundHalfEven]
    rw [if_pos close, equal]

theorem two_pow_of_add {sum first second : Nat} (total : first + second = sum) :
    2 ^ sum = 2 ^ first * 2 ^ second := total ▸ Nat.pow_add 2 first second

theorem two_pow_of_succ {more less : Nat} (following : more = less + 1) :
    2 ^ more = 2 * 2 ^ less := by
  rw [following, Nat.pow_succ']

namespace Binary64

/-! ## Rounding to a magnitude of the format -/

theorem spacing_dvd_spacing {fewer more : Nat} (order : fewer ≤ more) :
    spacing fewer ∣ spacing more := by
  apply Nat.pow_dvd_pow
  have lengths : fewer.log2 ≤ more.log2 := by
    rcases Nat.eq_zero_or_pos fewer with rfl | positive
    · simp
    · have filled : fewer ≠ 0 := by omega
      exact (Nat.le_log2 (by omega)).mpr ((Nat.log2_self_le filled).trans order)
  omega

/-- What 53 significant bits can write is a multiple of its spacing. -/
theorem spacing_dvd_of_significand {significand : Nat} (short : significand ≤ 2 ^ 53)
    (exponent : Nat) :
    spacing (significand * 2 ^ exponent) ∣ significand * 2 ^ exponent := by
  rcases Nat.lt_or_eq_of_le short with below | rfl
  · rcases Nat.eq_zero_or_pos significand with rfl | positive
    · simp
    · have filled : significand * 2 ^ exponent ≠ 0 :=
        Nat.mul_ne_zero (by omega) (Nat.two_pow_pos exponent).ne'
      have length : (significand * 2 ^ exponent).log2 < 53 + exponent := by
        rw [Nat.log2_lt filled, Nat.pow_add]
        exact Nat.mul_lt_mul_of_pos_right below (Nat.two_pow_pos exponent)
      exact (Nat.pow_dvd_pow 2 (show _ - 52 ≤ exponent by omega)).trans (Nat.dvd_mul_left ..)
  · rw [← Nat.pow_add]
    unfold spacing
    rw [Nat.log2_two_pow]
    exact Nat.pow_dvd_pow 2 (by omega)

theorem two_pow_representable {exponent : Nat} (ranged : exponent < 2098) :
    Representable (2 ^ exponent) := by
  constructor
  · have divides := spacing_dvd_of_significand (show 1 ≤ 2 ^ 53 by decide) exponent
    rwa [Nat.one_mul] at divides
  · unfold unitsLimit
    exact Nat.pow_lt_pow_right (by decide) ranged

theorem spacing_le {units : Nat} (positive : 0 < units) : spacing units ≤ units :=
  (Nat.pow_le_pow_right (by decide) (Nat.sub_le _ 52)).trans (Nat.log2_self_le (by omega))

theorem div_spacing_lt (units : Nat) : units / spacing units < 2 ^ 53 := by
  rw [Nat.div_lt_iff_lt_mul (spacing_pos units)]
  unfold spacing
  rw [← Nat.pow_add]
  rcases Nat.eq_zero_or_pos units with rfl | positive
  · exact Nat.two_pow_pos _
  · exact (Nat.log2_lt (by omega)).mp (by omega)

/-- A rounded magnitude has no more than 53 significant bits. -/
theorem spacing_dvd_nearestUnits (numerator denominator : Nat) :
    spacing (nearestUnits numerator denominator) ∣ nearestUnits numerator denominator := by
  apply spacing_dvd_of_significand
  apply (roundHalfEven_le _ _).trans
  rw [← Nat.div_div_eq_div_mul]
  exact div_spacing_lt _

theorem nearestUnits_le_of_near {numerator denominator limit : Nat}
    (divides : spacing (numerator / denominator) ∣ limit)
    (near : 2 * numerator < (2 * limit + spacing (numerator / denominator)) * denominator) :
    nearestUnits numerator denominator ≤ limit := by
  rcases divides with ⟨count, rfl⟩
  unfold nearestUnits
  dsimp only
  generalize spacing (numerator / denominator) = step at near ⊢
  rw [Nat.mul_comm]
  apply Nat.mul_le_mul_left
  apply roundHalfEven_le_of_near
  calc 2 * numerator < (2 * (step * count) + step) * denominator := near
    _ = (2 * count + 1) * (denominator * step) := by ring

/-- A quotient that is not beyond a magnitude of the format is not rounded beyond it. -/
theorem nearestUnits_le {numerator denominator limit : Nat} (positive : 0 < denominator)
    (divides : spacing limit ∣ limit) (bounded : numerator ≤ limit * denominator) :
    nearestUnits numerator denominator ≤ limit := by
  have order : numerator / denominator ≤ limit := Nat.div_le_of_le_mul (by rwa [Nat.mul_comm])
  refine nearestUnits_le_of_near ((spacing_dvd_spacing order).trans divides) ?_
  have step := Nat.mul_pos (spacing_pos (numerator / denominator)) positive
  nlinarith

/-- A quotient that is not below a power of two is not rounded below it. -/
theorem two_pow_le_nearestUnits {numerator denominator exponent : Nat} (positive : 0 < denominator)
    (bounded : 2 ^ exponent * denominator ≤ numerator) :
    2 ^ exponent ≤ nearestUnits numerator denominator := by
  have order : 2 ^ exponent ≤ numerator / denominator :=
    (Nat.le_div_iff_mul_le positive).mpr bounded
  have filled := (Nat.two_pow_pos exponent).trans_le order
  have kept : ∀ count, count * spacing (numerator / denominator) ≤ numerator / denominator →
      count * spacing (numerator / denominator) ≤ nearestUnits numerator denominator := by
    intro count within
    apply Nat.mul_le_mul_right
    apply le_trans _ (le_roundHalfEven _ _)
    rw [← Nat.div_div_eq_div_mul]
    exact (Nat.le_div_iff_mul_le (spacing_pos _)).mpr within
  rcases Nat.le_total exponent ((numerator / denominator).log2 - 52) with coarse | fine
  · have one := kept 1 (by simpa using spacing_le filled)
    rw [Nat.one_mul] at one
    exact (Nat.pow_le_pow_right (by decide) coarse).trans one
  · rcases Nat.pow_dvd_pow 2 fine with ⟨count, split⟩
    have whole : 2 ^ exponent = count * spacing (numerator / denominator) := by
      rw [split, Nat.mul_comm]
      rfl
    rw [whole]
    exact kept count (whole ▸ order)

/-! ## Bounded numbers -/

/-- Whether a number is finite and no further from zero than a number of units. -/
inductive Within (limit : Nat) : Binary64 → Prop where
  | finite (negative : Bool) (magnitude : Magnitude) (bounded : magnitude.units ≤ limit) :
      Within limit (.finite negative magnitude)

instance (limit : Nat) : DecidablePred (Within limit)
  | .finite negative magnitude =>
      decidable_of_iff (magnitude.units ≤ limit)
        ⟨.finite negative magnitude, fun | .finite _ _ bounded => bounded⟩
  | .nan => isFalse nofun
  | .infinite _ => isFalse nofun

theorem Within.isFinite {limit : Nat} {value : Binary64} (within : value.Within limit) :
    value.isFinite = true := by
  cases within
  rfl

theorem Within.mono {less limit : Nat} {value : Binary64} (within : value.Within less)
    (order : less ≤ limit) : value.Within limit := by
  cases within with
  | finite negative magnitude bounded => exact .finite negative magnitude (bounded.trans order)

theorem ofUnits_eq {units : Nat} (negative : Bool) (representable : Representable units) :
    ofUnits negative units = .finite negative ⟨units, representable⟩ := dif_pos representable

theorem ofUnits_within {units limit : Nat} (negative : Bool) (representable : Representable units)
    (bounded : units ≤ limit) : (ofUnits negative units).Within limit := by
  rw [ofUnits_eq negative representable]
  exact .finite negative _ bounded

/-- A quotient within the range is the magnitude that it is rounded to. -/
theorem units_of_ofRatio {numerator denominator : Nat} {negative sign : Bool}
    {magnitude : Magnitude} (found : ofRatio negative numerator denominator = .finite sign magnitude) :
    sign = negative ∧ magnitude.units = nearestUnits numerator denominator := by
  unfold ofRatio ofUnits at found
  split at found
  · cases found
    exact ⟨rfl, rfl⟩
  · cases found

theorem ofRatio_within_of_le {numerator denominator limit : Nat} (negative : Bool)
    (ranged : limit < unitsLimit) (bounded : nearestUnits numerator denominator ≤ limit) :
    (ofRatio negative numerator denominator).Within limit :=
  ofUnits_within negative
    ⟨spacing_dvd_nearestUnits numerator denominator, bounded.trans_lt ranged⟩ bounded

theorem ofRatio_within {numerator denominator limit : Nat} (negative : Bool)
    (positive : 0 < denominator) (representable : Representable limit)
    (bounded : numerator ≤ limit * denominator) :
    (ofRatio negative numerator denominator).Within limit :=
  ofRatio_within_of_le negative representable.2 (nearestUnits_le positive representable.1 bounded)

theorem unitsPerOne_pos : 0 < unitsPerOne := by
  unfold unitsPerOne
  generalize 1074 = exponent
  exact Nat.two_pow_pos exponent

theorem unitsPerOne_le_nearestUnits {numerator : Nat} (bounded : unitsPerOne ≤ numerator) :
    unitsPerOne ≤ nearestUnits numerator 1 := by
  unfold unitsPerOne at bounded ⊢
  exact two_pow_le_nearestUnits Nat.one_pos (by rwa [Nat.mul_one])

theorem natAbs_signedUnits (negative : Bool) (magnitude : Magnitude) :
    (signedUnits negative magnitude).natAbs = magnitude.units := by
  cases negative <;> simp [signedUnits]

/-- A sum of units that is rounded within a limit. -/
theorem add_within_of_near {left right : Binary64} {first second limit : Nat}
    (leftWithin : left.Within first) (rightWithin : right.Within second)
    (ranged : limit < unitsLimit)
    (near : ∀ sum ≤ first + second, nearestUnits sum 1 ≤ limit) :
    (left + right).Within limit := by
  cases leftWithin with
  | finite leftNegative left leftBounded =>
      cases rightWithin with
      | finite rightNegative right rightBounded =>
          change (Binary64.add _ _).Within limit
          unfold Binary64.add
          dsimp only
          split
          · exact .finite _ .zero (Nat.zero_le limit)
          · refine ofRatio_within_of_le _ ranged (near _ ?_)
            apply (Int.natAbs_add_le _ _).trans
            rw [natAbs_signedUnits, natAbs_signedUnits]
            exact Nat.add_le_add leftBounded rightBounded

theorem add_within {left right : Binary64} {first second limit : Nat}
    (leftWithin : left.Within first) (rightWithin : right.Within second)
    (representable : Representable limit) (bounded : first + second ≤ limit) :
    (left + right).Within limit :=
  add_within_of_near leftWithin rightWithin representable.2 fun sum order =>
    nearestUnits_le Nat.one_pos representable.1 (by omega)

theorem Within.negate {value : Binary64} {limit : Nat} (within : value.Within limit) :
    value.negate.Within limit := by
  cases within with
  | finite negative magnitude bounded => exact .finite (!negative) magnitude bounded

theorem subtract_within {left right : Binary64} {first second limit : Nat}
    (leftWithin : left.Within first) (rightWithin : right.Within second)
    (representable : Representable limit) (bounded : first + second ≤ limit) :
    (left - right).Within limit :=
  add_within leftWithin rightWithin.negate representable bounded

theorem multiply_within {left right : Binary64} {first second limit : Nat}
    (leftWithin : left.Within first) (rightWithin : right.Within second)
    (representable : Representable limit) (bounded : first * second ≤ limit * unitsPerOne) :
    (left * right).Within limit := by
  cases leftWithin with
  | finite leftNegative left leftBounded =>
      cases rightWithin with
      | finite rightNegative right rightBounded =>
          exact ofRatio_within _ unitsPerOne_pos representable
            ((Nat.mul_le_mul leftBounded rightBounded).trans bounded)

/-- A divisor that is not below one leaves a number within its limit. -/
theorem divide_within {left : Binary64} {limit : Nat} (within : left.Within limit)
    (representable : Representable limit) {negative : Bool} {divisor : Magnitude}
    (large : unitsPerOne ≤ divisor.units) :
    (left / .finite negative divisor).Within limit := by
  have positive := unitsPerOne_pos.trans_le large
  cases within with
  | finite leftNegative left bounded =>
      change (Binary64.divide _ _).Within limit
      unfold Binary64.divide
      dsimp only
      rw [if_neg positive.ne']
      exact ofRatio_within _ positive representable (Nat.mul_le_mul bounded large)

/-! ## The greatest number -/

/-- The distance between the greatest magnitudes of the format. -/
def greatestSpacing : Nat := 2 ^ 2045

/-- The greatest magnitude of the format. -/
def greatestUnits : Nat := (2 ^ 53 - 1) * greatestSpacing

theorem greatestUnits_add_spacing : greatestUnits + greatestSpacing = unitsLimit := by
  have split : unitsLimit = 2 ^ 53 * greatestSpacing := by
    unfold unitsLimit greatestSpacing
    exact two_pow_of_add (by decide)
  rw [split]
  unfold greatestUnits
  omega

theorem greatestSpacing_pos : 0 < greatestSpacing := by
  unfold greatestSpacing
  generalize 2045 = exponent
  exact Nat.two_pow_pos exponent

theorem greatestUnits_representable : Representable greatestUnits := by
  constructor
  · unfold greatestUnits greatestSpacing
    exact spacing_dvd_of_significand (Nat.sub_le _ 1) _
  rw [← greatestUnits_add_spacing]
  exact Nat.lt_add_of_pos_right greatestSpacing_pos

theorem spacing_le_greatestSpacing {units : Nat} (ranged : units < unitsLimit) :
    spacing units ≤ greatestSpacing := by
  have short : units.log2 - 52 ≤ 2045 := by
    rcases Nat.eq_zero_or_pos units with rfl | positive
    · simp
    · have length := (Nat.log2_lt (by omega)).mpr ranged
      omega
  unfold spacing greatestSpacing
  exact Nat.pow_le_pow_right (by decide) short

theorem Representable.le_greatestUnits {units : Nat} (representable : Representable units) :
    units ≤ greatestUnits := by
  rw [← Nat.div_mul_cancel representable.1]
  exact Nat.mul_le_mul (Nat.le_sub_one_of_lt (div_spacing_lt units))
    (spacing_le_greatestSpacing representable.2)

theorem within_greatestUnits {value : Binary64} :
    value.Within greatestUnits ↔ value.isFinite = true := by
  constructor
  · exact Within.isFinite
  · cases value with
    | finite negative magnitude =>
        exact fun _ => .finite negative magnitude magnitude.representable.le_greatestUnits
    | nan => exact nofun
    | infinite => exact nofun

theorem spacing_of_greater {units : Nat} (beyond : greatestUnits < units)
    (ranged : units < unitsLimit) : spacing units = greatestSpacing := by
  have filled : units ≠ 0 := by omega
  have upper : 2 ^ 52 * greatestSpacing ≤ units :=
    (Nat.mul_le_mul_right _ (by decide)).trans beyond.le
  unfold greatestSpacing at upper ⊢
  unfold unitsLimit at ranged
  rw [← two_pow_of_add (rfl : 52 + 2045 = 2097)] at upper
  unfold spacing
  rw [(Nat.log2_eq_iff filled).mpr ⟨upper, ranged⟩]

/-- Less than half a step beyond the greatest magnitude is rounded back to it. -/
theorem nearestUnits_le_greatestUnits {units excess : Nat} (small : 2 * excess < greatestSpacing)
    (bounded : units ≤ greatestUnits + excess) : nearestUnits units 1 ≤ greatestUnits := by
  rcases Nat.lt_or_ge greatestUnits units with beyond | within
  · have limit := greatestUnits_add_spacing
    have step := spacing_of_greater beyond (by omega)
    apply nearestUnits_le_of_near
    · rw [Nat.div_one, step]
      exact Nat.dvd_mul_left ..
    · rw [Nat.div_one, step]
      omega
  · exact nearestUnits_le Nat.one_pos greatestUnits_representable.1 (by omega)

/-! ## Steps of one half -/

/-- The number of units in one half. -/
def halfUnits : Nat := 2 ^ 1073

theorem two_mul_halfUnits : 2 * halfUnits = unitsPerOne := by
  unfold halfUnits unitsPerOne
  exact (two_pow_of_succ rfl).symm

theorem halfUnits_representable : Representable halfUnits := by decide +kernel

theorem half_eq : (0.5 : Binary64) = .finite false ⟨halfUnits, halfUnits_representable⟩ := by
  have half : (0.5 : Binary64) = ofUnits false halfUnits := by decide +kernel
  exact half.trans (ofUnits_eq false halfUnits_representable)

theorem half_within : (0.5 : Binary64).Within halfUnits := by
  rw [half_eq]
  exact .finite false _ (Nat.le_refl _)

/-- Steps of one half do not leave the range. -/
theorem isFinite_add_of_half {value half : Binary64} (finite : value.isFinite = true)
    (within : half.Within halfUnits) : (value + half).isFinite = true := by
  have small : 2 * halfUnits < greatestSpacing := by
    rw [two_mul_halfUnits]
    unfold unitsPerOne greatestSpacing
    exact Nat.pow_lt_pow_right (by decide) (by decide)
  exact (add_within_of_near (within_greatestUnits.mpr finite) within greatestUnits_representable.2
    fun _ bounded => nearestUnits_le_greatestUnits small bounded).isFinite

theorem isFinite_add {left right : Binary64} (finite : (left + right).isFinite = true) :
    left.isFinite = true ∧ right.isFinite = true := by
  cases left with
  | finite => cases right <;> first | exact ⟨rfl, rfl⟩ | cases finite
  | nan => cases right <;> cases finite
  | infinite =>
      cases right with
      | infinite =>
          change Binary64.isFinite (if _ then _ else _) = true at finite
          split at finite <;> cases finite
      | finite => cases finite
      | nan => cases finite

/-! ## Whole numbers as real ones -/

/-- A number if it is finite. -/
def finite? (value : Binary64) : Option Binary64 := if value.isFinite then some value else none

-- The rounded number is kept closed: nothing may look into it to decide whether it is finite.
theorem ofInt?_eq (value : Int) :
    ofInt? value = (ofRatio (value < 0) (value.natAbs * unitsPerOne) 1).finite? := by
  have rounded : ofInt? =
      fun value : Int => (ofRatio (value < 0) (value.natAbs * unitsPerOne) 1).finite? := by
    delta ofInt?
    funext value
    generalize ofRatio (value < 0) (value.natAbs * unitsPerOne) 1 = nearest
    cases nearest <;> rfl
  exact congrFun rounded value

/-- Whole numbers up to a power of two within the range have a real number near to them. -/
theorem ofInt?_ne_none {value : Int} {exponent : Nat} (bounded : value.natAbs ≤ 2 ^ exponent)
    (ranged : exponent + 1074 < 2098) : ofInt? value ≠ none := by
  have near : value.natAbs * unitsPerOne ≤ 2 ^ (exponent + 1074) * 1 := by
    unfold unitsPerOne
    rw [Nat.mul_one, Nat.pow_add]
    exact Nat.mul_le_mul_right _ bounded
  have within := ofRatio_within (decide (value < 0)) Nat.one_pos (two_pow_representable ranged) near
  rw [ofInt?_eq, finite?, if_pos within.isFinite]
  exact Option.some_ne_none _

end Binary64

theorem realOfWhole_eq (value : Int) :
    realOfWhole value = (Binary64.ofInt? value).elim (.error .numberTooLarge) .ok := by
  have taken : realOfWhole =
      fun value => (Binary64.ofInt? value).elim (.error .numberTooLarge) .ok := by
    delta realOfWhole
    funext value
    generalize Binary64.ofInt? value = nearest
    cases nearest <;> rfl
  exact congrFun taken value

theorem realOfWhole_eq_ok_iff {value : Int} {real : Binary64} : realOfWhole value = .ok real ↔
    Binary64.ofRatio (value < 0) (value.natAbs * Binary64.unitsPerOne) 1 = real ∧
      real.isFinite = true := by
  rw [realOfWhole_eq, Binary64.ofInt?_eq]
  generalize Binary64.ofRatio (value < 0) (value.natAbs * Binary64.unitsPerOne) 1 = nearest
  unfold Binary64.finite?
  split
  · next finite =>
      rw [Option.elim_some, Except.ok.injEq]
      exact ⟨fun same => ⟨same, same ▸ finite⟩, fun same => same.1⟩
  · next infinite =>
      refine ⟨nofun, fun same => absurd (same.1 ▸ same.2) infinite⟩

/-- A whole number from one on is no less as a real number. -/
theorem realOfWhole_large {value : Int} (positive : 1 ≤ value) {real : Binary64}
    (taken : realOfWhole value = .ok real) :
    ∃ magnitude : Binary64.Magnitude, real = .finite false magnitude ∧
      Binary64.unitsPerOne ≤ magnitude.units := by
  have least := Binary64.unitsPerOne_le_nearestUnits
    (Nat.le_mul_of_pos_left Binary64.unitsPerOne (show 0 < value.natAbs by omega))
  rcases realOfWhole_eq_ok_iff.mp taken with ⟨rounded, finite⟩
  cases real with
  | finite sign magnitude =>
      rcases Binary64.units_of_ofRatio rounded with ⟨same, units⟩
      refine ⟨magnitude, ?_, units ▸ least⟩
      rw [same, decide_eq_false (show ¬ value < 0 by omega)]
  | nan => cases finite
  | infinite => cases finite

/-! ## Quotients by whole numbers -/

theorem Binary64.equals_zero {negative : Bool} {magnitude : Magnitude}
    (filled : 0 < magnitude.units) : (finite negative magnitude).equals zero = false := by
  have other : magnitude.units ≠ 0 := by omega
  cases negative <;> simp [equals, zero, signedUnits, Magnitude.zero, other]

namespace Number

theorem subtract_real (left right : Binary64) :
    subtract (.real left) (.real right) = .ok (.real (left - right)) := rfl

/-- A quotient by a positive whole number fails only if the divisor is beyond the range. -/
theorem divide_positive (dividend : Binary64) {count : Int} (positive : 1 ≤ count) :
    divide (.real dividend) (.whole count) =
      (realOfWhole count).map fun divisor => dividend / divisor := by
  have large := @realOfWhole_large count positive
  unfold divide toReal
  revert large
  dsimp only
  generalize realOfWhole count = taken
  intro large
  cases taken with
  | error failure => rfl
  | ok divisor =>
      rcases large rfl with ⟨magnitude, rfl, above⟩
      change (if (Binary64.finite false magnitude).equals .zero = true then _ else _) = _
      rw [if_neg (by simp [Binary64.equals_zero (Binary64.unitsPerOne_pos.trans_le above)])]
      rfl

theorem divide_isFinite {dividend quotient : Binary64} {count : Int}
    (finite : dividend.isFinite = true) (positive : 1 ≤ count)
    (divided : divide (.real dividend) (.whole count) = .ok quotient) :
    quotient.isFinite = true := by
  rw [divide_positive dividend positive] at divided
  have large := @realOfWhole_large count positive
  revert divided large
  generalize realOfWhole count = taken
  intro divided large
  cases taken with
  | error failure => cases divided
  | ok divisor =>
      cases divided
      rcases large rfl with ⟨magnitude, rfl, above⟩
      exact (Binary64.divide_within (Binary64.within_greatestUnits.mpr finite)
        Binary64.greatestUnits_representable above).isFinite

end Number

end ChartCompiler
