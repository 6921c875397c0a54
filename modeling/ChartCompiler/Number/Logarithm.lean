import ChartCompiler.Number.Binary64

/-!
# Logarithms

The logarithm of a complement, `log (1 - x)`, by exact arithmetic on fixed-point numbers: whole
numbers of `2 ^ -256`. The argument is halved until it lies near one, where the series of the area
tangent converges quickly.
-/

namespace ChartCompiler

open scoped CorePower

namespace FixedPoint

/-- The number of binary places. -/
def places : Nat := 256

/-- The fixed-point number for one. -/
def one : Nat := 2 ^ places

/-- The sum of `z ^ (2 * k + 1) / (2 * k + 1)` over `terms` values of `k`, from `index` on;
`power` is `z ^ (2 * index + 1)` and `square` is `z ^ 2`. -/
def tangentSum (square : Int) : Nat → Nat → Int → Int
  | 0, _, _ => 0
  | terms + 1, index, power =>
      power / (2 * index + 1 : Int) + tangentSum square terms (index + 1) (power * square / one)

/-- The logarithm of `numerator / denominator`, for a quotient between one half and two. -/
def logarithmNearOne (numerator denominator : Nat) : Int :=
  let z : Int := ((numerator : Int) - denominator) * one / (numerator + denominator : Nat)
  2 * tangentSum (z * z / one) 100 0 z

/-- The logarithm of two. -/
def logarithmOfTwo : Int := logarithmNearOne 2 1

/-- The negative logarithm of a quotient below one. -/
def negativeLogarithm (numerator denominator : Nat) : Nat :=
  let halvings := denominator.log2 - numerator.log2
  (halvings * logarithmOfTwo - logarithmNearOne (numerator * 2 ^ halvings) denominator).toNat

end FixedPoint

namespace Binary64

/-- The units of one as a magnitude below which the logarithm of the complement is the argument
itself, to the last place. -/
def tinyUnits : Nat := 2 ^ (1010 : Nat)

/-- The number `-log (1 - x)`, for an `x` between zero and one: zero for zero, infinite for one,
undefined elsewhere. -/
def negativeLogComplement : Binary64 → Binary64
  | .finite negative magnitude =>
      if magnitude.units = 0 then .finite negative magnitude
      else if negative || unitsPerOne < magnitude.units then .nan
      else if magnitude.units = unitsPerOne then .infinite false
      else if magnitude.units < tinyUnits then .finite false magnitude
      else
        ofRatio false
          (FixedPoint.negativeLogarithm (unitsPerOne - magnitude.units) unitsPerOne * unitsPerOne)
          FixedPoint.one
  | _ => .nan

end Binary64

end ChartCompiler
