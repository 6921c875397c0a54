/-!
# Rounding quotients

Whole-number quotients rounded to the nearest whole number, a tie going to the even neighbour.
-/

namespace ChartCompiler

namespace CorePower

/-- In modules that open this namespace a power is that of the core library, also where algebra is
imported beside them. -/
scoped instance (priority := 2000) natPower [NatPow α] : Pow α Nat := instPowNat

end CorePower

open scoped CorePower

/-- The whole number nearest to `numerator / denominator`; of two equally near ones the even
one. -/
def roundHalfEven (numerator denominator : Nat) : Nat :=
  let quotient := numerator / denominator
  let remainder := numerator % denominator
  if 2 * remainder < denominator then quotient
  else if denominator < 2 * remainder then quotient + 1
  else if quotient % 2 = 0 then quotient
  else quotient + 1

example : [1, 2, 3, 5, 6, 7].map (roundHalfEven · 2) = [0, 1, 2, 2, 3, 4] := by decide

theorem roundHalfEven_of_dvd {numerator denominator : Nat} (positive : 0 < denominator)
    (divides : denominator ∣ numerator) :
    roundHalfEven numerator denominator = numerator / denominator := by
  have exact : numerator % denominator = 0 := Nat.mod_eq_zero_of_dvd divides
  simp [roundHalfEven, exact, positive]

theorem roundHalfEven_le (numerator denominator : Nat) :
    roundHalfEven numerator denominator ≤ numerator / denominator + 1 := by
  simp only [roundHalfEven]
  split
  · omega
  · split
    · omega
    · split <;> omega

theorem le_roundHalfEven (numerator denominator : Nat) :
    numerator / denominator ≤ roundHalfEven numerator denominator := by
  simp only [roundHalfEven]
  split
  · omega
  · split
    · omega
    · split <;> omega

/-- The numerator and denominator of `numerator / denominator * 10 ^ power`. -/
def scaleByPowerOfTen (numerator denominator : Nat) : Int → Nat × Nat
  | .ofNat power => (numerator * 10 ^ power, denominator)
  | .negSucc power => (numerator, denominator * 10 ^ (power + 1))

/-- The exponent of the leading decimal digit of a positive quotient: the greatest `exponent` for
which `10 ^ exponent` does not exceed it.

The binary logarithms of the two parts fix it up to one, and the comparison decides. -/
def leadingExponent (numerator denominator : Nat) : Int :=
  let binary : Int := (numerator.log2 : Int) - (denominator.log2 : Int)
  let estimate : Int := (binary * 30103).fdiv 100000
  let reaches (exponent : Int) : Bool :=
    let scaled := scaleByPowerOfTen numerator denominator (-exponent)
    scaled.2 ≤ scaled.1
  if reaches (estimate + 1) then estimate + 1
  else if reaches estimate then estimate
  else estimate - 1

end ChartCompiler
