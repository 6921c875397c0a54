import ChartCompiler.Proofs.Number.Order

/-!
# Steps of one half

One half below and one half above a number are different numbers, unless the number is so large that
it absorbs a half: then the format has no numbers between it and its neighbours, which are at least
one away, and a half is rounded off (`Binary64.AbsorbsHalf`).
-/

namespace ChartCompiler

open scoped CorePower

/-- A quotient that is at most half away from a whole number is rounded to it, if a tie is. -/
theorem roundHalfEven_eq_of_near {numerator step whole : Nat} (positive : 0 < step)
    (below : 2 * (whole * step) ≤ 2 * numerator + step)
    (above : 2 * numerator ≤ 2 * (whole * step) + step)
    (tie : whole % 2 = 0 ∨
      2 * (whole * step) < 2 * numerator + step ∧ 2 * numerator < 2 * (whole * step) + step) :
    roundHalfEven numerator step = whole := by
  have parts := Nat.div_add_mod numerator step
  have small := Nat.mod_lt numerator positive
  rw [Nat.mul_comm] at parts
  have upper : numerator / step ≤ whole := by
    apply Nat.le_of_lt_succ
    apply Nat.lt_of_mul_lt_mul_right (a := step)
    rw [Nat.succ_mul]
    omega
  have lower : whole ≤ numerator / step + 1 := by
    apply Nat.le_of_lt_succ
    apply Nat.lt_of_mul_lt_mul_right (a := step)
    rw [Nat.succ_mul, Nat.succ_mul]
    omega
  simp only [roundHalfEven]
  obtain same | next : numerator / step = whole ∨ numerator / step + 1 = whole := by omega
  · rw [same] at parts ⊢
    split
    · rfl
    · rw [if_neg (by omega), if_pos (by omega)]
  · rw [← next, Nat.add_one_mul _ step] at below above tie
    rw [if_neg (by omega), ← next]
    split
    · rfl
    · rw [if_neg (by omega)]

namespace Binary64

/-! ## Rounding near a magnitude of the format -/

/-- What is at most half a step away from a magnitude of the format is rounded to it, if a tie
is. -/
theorem nearestUnits_eq_of_near {count units distance : Nat} (divides : spacing count ∣ units)
    (near : count ≤ units + distance ∧ units ≤ count + distance)
    (small : 2 * distance ≤ spacing count)
    (even : 2 * distance = spacing count → 2 * spacing count ∣ units) :
    nearestUnits count 1 = units := by
  have positive := spacing_pos count
  obtain ⟨whole, rfl⟩ := divides
  unfold nearestUnits
  simp only [Nat.div_one, Nat.one_mul]
  generalize spacing count = step at *
  rw [Nat.mul_comm step] at near even ⊢
  congr 1
  apply roundHalfEven_eq_of_near positive
  · omega
  · omega
  · rcases Nat.lt_or_eq_of_le small with less | same
    · exact .inr ⟨by omega, by omega⟩
    · obtain ⟨half, split⟩ := even same
      have double : whole = 2 * half :=
        Nat.eq_of_mul_eq_mul_right positive (by rw [split]; ring)
      exact .inl (by omega)

theorem two_pow_dvd_spacing {units exponent : Nat} (large : 2 ^ (52 + exponent) ≤ units) :
    2 ^ exponent ∣ spacing units := by
  have filled : units ≠ 0 := by
    have positive := Nat.two_pow_pos (52 + exponent)
    omega
  have length := (Nat.le_log2 filled).mpr large
  exact Nat.pow_dvd_pow 2 (by omega)

/-- Less than one step above a magnitude of the format numbers are as far apart as there. -/
theorem spacing_add {units excess exponent : Nat} (filled : units ≠ 0)
    (divides : 2 ^ exponent ∣ units) (small : excess < 2 ^ exponent) :
    spacing (units + excess) = spacing units := by
  have least := Nat.log2_self_le filled
  have limit := Nat.lt_log2_self (n := units)
  have same : (units + excess).log2 = units.log2 := by
    rw [Nat.log2_eq_iff (by omega)]
    refine ⟨by omega, ?_⟩
    have order : exponent ≤ units.log2 + 1 := by
      have bounded := (Nat.le_log2 filled).mpr (Nat.le_of_dvd (by omega) divides)
      omega
    obtain ⟨count, rfl⟩ := divides
    obtain ⟨total, split⟩ := Nat.pow_dvd_pow 2 order
    rw [split] at limit ⊢
    have inside : count + 1 ≤ total := Nat.lt_of_mul_lt_mul_left limit
    calc 2 ^ exponent * count + excess < 2 ^ exponent * (count + 1) := by
          rw [Nat.mul_succ]
          omega
      _ ≤ 2 ^ exponent * total := Nat.mul_le_mul_left _ inside
  unfold spacing
  rw [same]

/-! ## Rounded sums -/

/-- The units that a sum of units is rounded to, with their sign. -/
def roundedUnits (sum : Int) : Int :=
  if sum < 0 then -(nearestUnits sum.natAbs 1 : Int) else nearestUnits sum.natAbs 1

theorem roundedUnits_natCast (units : Nat) : roundedUnits units = nearestUnits units 1 := by
  unfold roundedUnits
  rw [if_neg (by omega), Int.natAbs_natCast]

theorem roundedUnits_neg (sum : Int) : roundedUnits (-sum) = -roundedUnits sum := by
  unfold roundedUnits
  rw [Int.natAbs_neg]
  rcases Int.lt_trichotomy sum 0 with negative | rfl | positive
  · rw [if_neg (by omega), if_pos negative, Int.neg_neg]
  · simp [nearestUnits_eq_self (Nat.dvd_zero _)]
  · rw [if_pos (by omega), if_neg (by omega)]

theorem roundedUnits_mono {lesser greater : Int} (order : lesser ≤ greater) :
    roundedUnits lesser ≤ roundedUnits greater := by
  have mono {first second : Int} (near : first.natAbs ≤ second.natAbs) :
      nearestUnits first.natAbs 1 ≤ nearestUnits second.natAbs 1 :=
    nearestUnits_mono Nat.one_pos near
  unfold roundedUnits
  split
  · split
    · have units := @mono greater lesser (by omega)
      omega
    · omega
  · have units := @mono lesser greater (by omega)
    rw [if_neg (by omega)]
    omega

/-- A sum within the range has the place of the units that it is rounded to. -/
theorem rank_add {leftNegative rightNegative : Bool} {left right : Magnitude}
    (ranged : (finite leftNegative left + finite rightNegative right).isFinite = true) :
    (finite leftNegative left + finite rightNegative right).rank =
      ((roundedUnits (signedUnits leftNegative left + signedUnits rightNegative right) :
        WithTop Int) : WithBot (WithTop Int)) := by
  change (Binary64.add _ _).isFinite = true at ranged
  change (Binary64.add _ _).rank = _
  unfold Binary64.add at ranged ⊢
  dsimp only at ranged ⊢
  generalize signedUnits leftNegative left + signedUnits rightNegative right = sum at ranged ⊢
  split
  · next none =>
      rw [none, ← Int.natCast_zero, roundedUnits_natCast, nearestUnits_eq_self (Nat.dvd_zero _)]
      cases leftNegative && rightNegative <;> rfl
  · next some =>
      rw [if_neg some] at ranged
      cases rounded : ofRatio (decide (sum < 0)) sum.natAbs 1 with
      | nan | infinite =>
          rw [rounded] at ranged
          cases ranged
      | finite sign magnitude =>
          obtain ⟨rfl, units⟩ := units_of_ofRatio rounded
          simp only [rank, signedUnits, units, roundedUnits, decide_eq_true_eq]

/-! ## Numbers that absorb a half -/

section Absorption

variable {units exponent : Nat}

/-- From `2 ^ 53` halves on, what is a half away from an even number of ones is rounded to it. -/
theorem nearestUnits_eq_of_half {count : Nat} (divides : spacing count ∣ units)
    (near : count ≤ units + 2 ^ exponent ∧ units ≤ count + 2 ^ exponent)
    (large : 2 ^ (53 + exponent) ≤ count) (even : 2 ^ (exponent + 2) ∣ units) :
    nearestUnits count 1 = units := by
  have coarse : 2 ^ (exponent + 1) ∣ spacing count := by
    apply two_pow_dvd_spacing
    rwa [show 52 + (exponent + 1) = 53 + exponent by omega]
  apply nearestUnits_eq_of_near divides near
  · rw [← Nat.pow_succ']
    exact Nat.le_of_dvd (spacing_pos _) coarse
  · intro tie
    rwa [← tie, ← Nat.pow_succ', ← Nat.pow_succ']

/-- An even number of ones past `2 ^ 53` halves is what a half more and a half less are rounded
to. -/
theorem nearestUnits_of_absorbed (divides : spacing units ∣ units)
    (large : 2 ^ (53 + exponent) < units) (even : 2 ^ (exponent + 2) ∣ units) :
    nearestUnits (units + 2 ^ exponent) 1 = units ∧
      nearestUnits (units - 2 ^ exponent) 1 = units := by
  have half := Nat.two_pow_pos exponent
  have less : 2 ^ exponent < 2 ^ (exponent + 2) := Nat.pow_lt_pow_right (by decide) (by omega)
  have beyond : 2 ^ (53 + exponent) + 2 ^ (exponent + 2) ≤ units := by
    have divided : 2 ^ (exponent + 2) ∣ 2 ^ (53 + exponent) := Nat.pow_dvd_pow 2 (by omega)
    have room := Nat.le_of_dvd (Nat.sub_pos_of_lt large) (Nat.dvd_sub even divided)
    omega
  have filled : units ≠ 0 := Nat.ne_zero_of_lt large
  constructor
  · apply nearestUnits_eq_of_half _ ⟨by omega, by omega⟩ (by omega) even
    rwa [spacing_add filled even less]
  · apply nearestUnits_eq_of_half _ ⟨by omega, by omega⟩ (by omega) even
    exact (spacing_dvd_spacing (Nat.sub_le _ _)).trans divides

/-- Up to `2 ^ 53` halves the multiples of a half are magnitudes of the format. -/
theorem nearestUnits_mul_half {count : Nat} (short : count ≤ 2 ^ 53) (exponent : Nat) :
    nearestUnits (count * 2 ^ exponent) 1 = count * 2 ^ exponent :=
  nearestUnits_eq_self (spacing_dvd_of_significand short exponent)

/-- An odd number of ones past `2 ^ 53` halves has no more than 53 bits, and with a half more it is
rounded to the next number of ones. -/
theorem nearestUnits_of_odd (divides : spacing units ∣ units)
    (large : 2 ^ (53 + exponent) < units) (odd : ¬ 2 ^ (exponent + 2) ∣ units) :
    nearestUnits (units + 2 ^ exponent) 1 = units + 2 ^ (exponent + 1) := by
  have ones : 2 ^ (exponent + 1) ∣ units := by
    apply (two_pow_dvd_spacing _).trans divides
    rw [show 52 + (exponent + 1) = 53 + exponent by omega]
    exact large.le
  have short : units < 2 ^ (53 + (exponent + 1)) := by
    by_contra long
    apply odd
    apply (two_pow_dvd_spacing _).trans divides
    rw [show 52 + (exponent + 2) = 53 + (exponent + 1) by omega]
    exact Nat.le_of_not_lt long
  obtain ⟨count, rfl⟩ := ones
  rw [Nat.pow_succ 2 (exponent + 1), Nat.mul_dvd_mul_iff_left (Nat.two_pow_pos _)] at odd
  have bounded : count + 1 ≤ 2 ^ 53 := by
    apply Nat.lt_of_mul_lt_mul_left (a := 2 ^ (exponent + 1))
    rwa [← Nat.pow_add, Nat.add_comm (exponent + 1)]
  have next : 2 ^ (exponent + 1) * count + 2 ^ (exponent + 1) =
      (count + 1) * 2 ^ (exponent + 1) := by ring
  have two : 2 ^ (exponent + 1) = 2 * 2 ^ exponent := Nat.pow_succ'
  have half := Nat.two_pow_pos exponent
  have near : 2 ^ (exponent + 1) * count + 2 ^ exponent ≤
        (count + 1) * 2 ^ (exponent + 1) + 2 ^ exponent ∧
      (count + 1) * 2 ^ (exponent + 1) ≤
        2 ^ (exponent + 1) * count + 2 ^ exponent + 2 ^ exponent := by omega
  rw [next]
  apply nearestUnits_eq_of_half _ near (by omega)
  · rw [Nat.pow_succ', Nat.mul_dvd_mul_iff_right (Nat.two_pow_pos _)]
    omega
  · apply (spacing_dvd_spacing _).trans (spacing_dvd_of_significand bounded _)
    omega

/-- Between a half less and a half more there are two magnitudes of the format, unless a half is
absorbed. -/
theorem roundedUnits_lt_of_not_absorbed (divides : spacing units ∣ units)
    (kept : ¬ (2 ^ (53 + exponent) < units ∧ 2 ^ (exponent + 2) ∣ units)) :
    roundedUnits (units - (2 ^ exponent : Nat)) < roundedUnits (units + (2 ^ exponent : Nat)) := by
  have half := Nat.two_pow_pos exponent
  suffices between : ∃ lower upper : Nat, lower < upper ∧
      units ≤ lower + 2 ^ exponent ∧ nearestUnits lower 1 = lower ∧
      upper ≤ nearestUnits (units + 2 ^ exponent) 1 by
    obtain ⟨lower, upper, less, above, exact, below⟩ := between
    calc roundedUnits (units - (2 ^ exponent : Nat))
      _ ≤ roundedUnits lower := roundedUnits_mono (by omega)
      _ = lower := by rw [roundedUnits_natCast, exact]
      _ < upper := Int.ofNat_lt.mpr less
      _ ≤ nearestUnits (units + 2 ^ exponent) 1 := Int.ofNat_le.mpr below
      _ = roundedUnits (units + (2 ^ exponent : Nat)) := by
        rw [← roundedUnits_natCast, Int.natCast_add]
  rcases Nat.lt_or_ge (2 ^ (53 + exponent)) units with large | small
  · have more := nearestUnits_of_odd divides large fun even => kept ⟨large, even⟩
    have one := Nat.two_pow_pos (exponent + 1)
    exact ⟨units, units + 2 ^ (exponent + 1), by omega, by omega, nearestUnits_eq_self divides,
      more.ge⟩
  · have parts := Nat.div_add_mod (units - 1) (2 ^ exponent)
    have rest := Nat.mod_lt (units - 1) half
    have short : (units - 1) / 2 ^ exponent + 1 ≤ 2 ^ 53 := by
      rw [Nat.pow_add] at small
      apply Nat.div_lt_of_lt_mul
      rw [Nat.mul_comm]
      have full : 0 < 2 ^ 53 * 2 ^ exponent := Nat.mul_pos (by decide) half
      omega
    rw [Nat.mul_comm] at parts
    refine ⟨_, _, ?_, ?_, nearestUnits_mul_half ((Nat.le_succ _).trans short) exponent,
      (nearestUnits_mul_half short exponent).symm.le.trans (nearestUnits_mono Nat.one_pos ?_)⟩
    · exact Nat.mul_lt_mul_of_pos_right (Nat.lt_succ_self _) half
    · omega
    · rw [Nat.add_one_mul _ (2 ^ exponent)]
      omega

end Absorption

/-- Whether a half more and a half less are rounded off: an even whole number beyond `2 ^ 52`, or an
infinite one. -/
def AbsorbsHalf : Binary64 → Prop
  | .nan => False
  | .infinite _ => True
  | .finite _ magnitude =>
      2 ^ 52 * unitsPerOne < magnitude.units ∧ 2 * unitsPerOne ∣ magnitude.units

instance : DecidablePred AbsorbsHalf
  | .nan => isFalse id
  | .infinite _ => isTrue trivial
  | .finite _ magnitude => inferInstanceAs (Decidable
      (2 ^ 52 * unitsPerOne < magnitude.units ∧ 2 * unitsPerOne ∣ magnitude.units))

/-- A half less and a half more differ after rounding exactly if they are not absorbed. -/
theorem roundedUnits_halves {units : Nat} (divides : spacing units ∣ units) :
    roundedUnits (units - (halfUnits : Int)) < roundedUnits (units + (halfUnits : Int)) ↔
      ¬ (2 ^ 52 * unitsPerOne < units ∧ 2 * unitsPerOne ∣ units) := by
  have large : ∀ exponent, 2 ^ 52 * (2 * 2 ^ exponent) = 2 ^ (53 + exponent) := by
    intro exponent
    rw [← Nat.pow_succ', ← Nat.pow_add]
    congr 1
    omega
  have even : ∀ exponent, 2 * (2 * 2 ^ exponent) = 2 ^ (exponent + 2) := by
    intro exponent
    rw [← Nat.pow_succ', ← Nat.pow_succ']
  rw [← two_mul_halfUnits]
  unfold halfUnits
  generalize 1073 = exponent
  rw [large, even]
  constructor
  · rintro less ⟨beyond, ones⟩
    obtain ⟨more, fewer⟩ := nearestUnits_of_absorbed divides beyond ones
    have order : 2 ^ exponent ≤ units :=
      (Nat.pow_le_pow_right (by decide) (by omega)).trans beyond.le
    rw [← Int.natCast_add, ← Int.natCast_sub order, roundedUnits_natCast, roundedUnits_natCast,
      more, fewer] at less
    exact Int.lt_irrefl _ less
  · exact roundedUnits_lt_of_not_absorbed divides

theorem rank_sub_half {negative : Bool} {magnitude : Magnitude} :
    (finite negative magnitude - 0.5).rank =
      ((roundedUnits (signedUnits negative magnitude - (halfUnits : Int)) : WithTop Int) :
        WithBot (WithTop Int)) := by
  rw [half_eq]
  exact rank_add (isFinite_add_of_half rfl (.finite true _ (Nat.le_refl _)))

theorem rank_add_half {negative : Bool} {magnitude : Magnitude} :
    (finite negative magnitude + 0.5).rank =
      ((roundedUnits (signedUnits negative magnitude + (halfUnits : Int)) : WithTop Int) :
        WithBot (WithTop Int)) := by
  rw [half_eq]
  exact rank_add (isFinite_add_of_half rfl (.finite false _ (Nat.le_refl _)))

/-- The units of a number of the format are rounded to themselves. -/
theorem roundedUnits_signedUnits (negative : Bool) (magnitude : Magnitude) :
    roundedUnits (signedUnits negative magnitude) = signedUnits negative magnitude := by
  have exact : roundedUnits magnitude.units = magnitude.units := by
    rw [roundedUnits_natCast, nearestUnits_eq_self magnitude.representable.1]
  cases negative with
  | false => exact exact
  | true => exact (roundedUnits_neg _).trans (congrArg Int.neg exact)

theorem halves_defined {value : Binary64} (defined : value ≠ .nan) :
    value - 0.5 ≠ .nan ∧ value + 0.5 ≠ .nan := by
  cases value with
  | nan => exact absurd rfl defined
  | infinite negative =>
      rw [half_eq]
      exact ⟨nofun, nofun⟩
  | finite negative magnitude =>
      exact ⟨ne_nan_of_isFinite (isFinite_add_of_half rfl half_within.negate),
        ne_nan_of_isFinite (isFinite_add_of_half rfl half_within)⟩

/-- Every number is between a half less and a half more. -/
theorem rank_between_halves (value : Binary64) :
    (value - 0.5).rank ≤ value.rank ∧ value.rank ≤ (value + 0.5).rank := by
  cases value with
  | nan => exact ⟨le_refl _, le_refl _⟩
  | infinite negative =>
      rw [half_eq]
      exact ⟨le_refl _, le_refl _⟩
  | finite negative magnitude =>
      have own := roundedUnits_signedUnits negative magnitude
      rw [rank_sub_half, rank_add_half, rank]
      simp only [WithBot.coe_le_coe, WithTop.coe_le_coe]
      generalize signedUnits negative magnitude = units at own ⊢
      generalize halfUnits = half
      constructor
      · calc roundedUnits (units - half)
          _ ≤ roundedUnits units := roundedUnits_mono (by omega)
          _ = units := own
      · calc units
          _ = roundedUnits units := own.symm
          _ ≤ roundedUnits (units + half) := roundedUnits_mono (by omega)

/-- A half below a number and a half above an equal one differ exactly if they are not absorbed. -/
theorem rank_halves {left right : Binary64} (defined : left ≠ .nan)
    (same : left.equals right = true) :
    (left - 0.5).rank < (right + 0.5).rank ↔ ¬ left.AbsorbsHalf := by
  cases left with
  | nan => exact absurd rfl defined
  | infinite negative =>
      cases right with
      | infinite other =>
          obtain rfl := of_decide_eq_true same
          rw [half_eq]
          exact iff_of_false (lt_irrefl _) (not_not_intro trivial)
      | nan | finite => cases same
  | finite negative magnitude =>
      cases right with
      | nan | infinite => cases same
      | finite sign other =>
          have place := of_decide_eq_true same
          rw [rank_sub_half, rank_add_half, WithBot.coe_lt_coe, WithTop.coe_lt_coe, ← place]
          apply Iff.trans _ (roundedUnits_halves magnitude.representable.1)
          cases negative with
          | false => rfl
          | true =>
              have less : -(magnitude.units : Int) - halfUnits =
                  -(magnitude.units + halfUnits) := by omega
              have more : -(magnitude.units : Int) + halfUnits =
                  -(magnitude.units - halfUnits) := by omega
              change roundedUnits (-magnitude.units - halfUnits) <
                roundedUnits (-magnitude.units + halfUnits) ↔ _
              rw [less, more, roundedUnits_neg, roundedUnits_neg]
              exact Int.neg_lt_neg_iff

end Binary64

end ChartCompiler
