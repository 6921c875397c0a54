import ChartCompiler.Number.Rounding

/-!
# Binary64 numbers

The binary floating-point format with 53 significant bits, as exact values. A finite number is a
sign and a whole number of units, the unit being the smallest positive number of the format,
`2 ^ -1074`. The multiples of the unit that the format can hold are the `Representable` ones, so
two numbers are equal as terms exactly if they are the same member of the format.

Arithmetic is exact on units, followed by one rounding (`ofRatio`): to nearest, ties to even,
infinite beyond the range.
-/

namespace ChartCompiler

open scoped CorePower

namespace Binary64

/-- The number of units in one. -/
def unitsPerOne : Nat := 2 ^ (1074 : Nat)

/-- The least number of units that is too large for the format. -/
def unitsLimit : Nat := 2 ^ (2098 : Nat)

/-- The distance from `units` to the next larger magnitude of the format. -/
def spacing (units : Nat) : Nat := 2 ^ (units.log2 - 52)

/-- The magnitudes that the format can hold: 53 significant bits, within the range. -/
def Representable (units : Nat) : Prop :=
  spacing units ∣ units ∧ units < unitsLimit

instance : DecidablePred Representable :=
  fun units => inferInstanceAs (Decidable (spacing units ∣ units ∧ units < unitsLimit))

/-- The absolute value of a finite number, counted in units. -/
structure Magnitude where
  units : Nat
  representable : Representable units
  deriving DecidableEq

theorem unitsLimit_pos : 0 < unitsLimit := by
  unfold unitsLimit
  generalize 2098 = exponent
  exact Nat.two_pow_pos exponent

def Magnitude.zero : Magnitude := ⟨0, Nat.dvd_zero _, unitsLimit_pos⟩

end Binary64

/-- A binary64 number. Zero and infinity carry a sign; all undefined results are one `nan`. -/
inductive Binary64 where
  | nan
  | infinite (negative : Bool)
  | finite (negative : Bool) (magnitude : Binary64.Magnitude)
  deriving DecidableEq

namespace Binary64

/-- Positive zero. -/
def zero : Binary64 := .finite false .zero

instance : Inhabited Binary64 := ⟨zero⟩

/-- Places a magnitude with a sign, infinite if the format cannot hold it. -/
def ofUnits (negative : Bool) (units : Nat) : Binary64 :=
  if representable : Representable units then .finite negative ⟨units, representable⟩
  else .infinite negative

/-- The magnitude nearest to a quotient of units, a tie going to the even significand. -/
def nearestUnits (numerator denominator : Nat) : Nat :=
  let step := spacing (numerator / denominator)
  roundHalfEven numerator (denominator * step) * step

/-- The number nearest to `numerator / denominator` units. -/
def ofRatio (negative : Bool) (numerator denominator : Nat) : Binary64 :=
  ofUnits negative (nearestUnits numerator denominator)

theorem spacing_pos (units : Nat) : 0 < spacing units := Nat.two_pow_pos _

/-- A magnitude of the format is nearest to itself. -/
theorem nearestUnits_eq_self {units : Nat} (divides : spacing units ∣ units) :
    nearestUnits units 1 = units := by
  have step : 0 < 1 * spacing units := by simpa using spacing_pos units
  simp only [nearestUnits, Nat.div_one]
  rw [roundHalfEven_of_dvd step (by simpa using divides), Nat.one_mul, Nat.div_mul_cancel divides]

/-- Taking a magnitude apart and placing it again changes nothing. -/
theorem ofRatio_units (negative : Bool) (magnitude : Magnitude) :
    ofRatio negative magnitude.units 1 = .finite negative magnitude := by
  have divides := magnitude.representable.1
  simp [ofRatio, ofUnits, nearestUnits_eq_self divides, magnitude.representable]

/-- The units of a finite number, with its sign. -/
def signedUnits (negative : Bool) (magnitude : Magnitude) : Int :=
  if negative then -(magnitude.units : Int) else magnitude.units

def isFinite : Binary64 → Bool
  | .finite _ _ => true
  | _ => false

def isNaN : Binary64 → Bool
  | .nan => true
  | _ => false

/-- The number nearest to a whole number; nothing beyond the range. -/
def ofInt? (value : Int) : Option Binary64 :=
  match ofRatio (value < 0) (value.natAbs * unitsPerOne) 1 with
  | .finite negative magnitude => some (.finite negative magnitude)
  | _ => none

/-- The number nearest to `significand * 10 ^ exponent`. Exponents far outside the range are
decided by the number of digits alone, so that reading never builds a large power. -/
def ofDecimal (negative : Bool) (significand : Nat) (exponent : Int) : Binary64 :=
  let digits : Int := (Nat.toDigits 10 significand).length
  if significand = 0 || digits + exponent < -330 then .finite negative .zero
  else if 310 < digits + exponent then .infinite negative
  else
    let scaled := scaleByPowerOfTen (significand * unitsPerOne) 1 exponent
    ofRatio negative scaled.1 scaled.2

/-- A decimal literal such as `0.05` stands for the nearest number. -/
instance : OfScientific Binary64 where
  ofScientific significand divides exponent :=
    .ofDecimal false significand (if divides then -(exponent : Int) else exponent)

/-- The whole part of a finite number. -/
def truncate? : Binary64 → Option Int
  | .finite negative magnitude =>
      let whole : Int := (magnitude.units / unitsPerOne : Nat)
      some (if negative then -whole else whole)
  | _ => none

/-- The value of a finite number without a fraction. -/
def toInt? : Binary64 → Option Int
  | .finite negative magnitude =>
      if magnitude.units % unitsPerOne = 0 then (Binary64.finite negative magnitude).truncate?
      else none
  | _ => none

def negate : Binary64 → Binary64
  | .nan => .nan
  | .infinite negative => .infinite (!negative)
  | .finite negative magnitude => .finite (!negative) magnitude

def add : Binary64 → Binary64 → Binary64
  | .nan, _ => .nan
  | _, .nan => .nan
  | .infinite left, .infinite right => if left = right then .infinite left else .nan
  | .infinite left, .finite _ _ => .infinite left
  | .finite _ _, .infinite right => .infinite right
  | .finite leftNegative left, .finite rightNegative right =>
      let sum := signedUnits leftNegative left + signedUnits rightNegative right
      if sum = 0 then .finite (leftNegative && rightNegative) .zero
      else ofRatio (sum < 0) sum.natAbs 1

def subtract (left right : Binary64) : Binary64 := left.add right.negate

def multiply : Binary64 → Binary64 → Binary64
  | .nan, _ => .nan
  | _, .nan => .nan
  | .infinite left, .infinite right => .infinite (left != right)
  | .infinite left, .finite right magnitude =>
      if magnitude.units = 0 then .nan else .infinite (left != right)
  | .finite left magnitude, .infinite right =>
      if magnitude.units = 0 then .nan else .infinite (left != right)
  | .finite leftNegative left, .finite rightNegative right =>
      ofRatio (leftNegative != rightNegative) (left.units * right.units) unitsPerOne

/-- The quotient, infinite or undefined for a zero divisor. -/
def divide : Binary64 → Binary64 → Binary64
  | .nan, _ => .nan
  | _, .nan => .nan
  | .infinite _, .infinite _ => .nan
  | .infinite left, .finite right _ => .infinite (left != right)
  | .finite left _, .infinite right => .finite (left != right) .zero
  | .finite leftNegative left, .finite rightNegative right =>
      if right.units = 0 then
        if left.units = 0 then .nan else .infinite (leftNegative != rightNegative)
      else ofRatio (leftNegative != rightNegative) (left.units * unitsPerOne) right.units

instance : Neg Binary64 := ⟨negate⟩
instance : Add Binary64 := ⟨add⟩
instance : Sub Binary64 := ⟨subtract⟩
instance : Mul Binary64 := ⟨multiply⟩
instance : Div Binary64 := ⟨divide⟩

/-- Numerical order; false as soon as one side is undefined. -/
def lessThan : Binary64 → Binary64 → Bool
  | .nan, _ => false
  | _, .nan => false
  | .infinite left, .infinite right => left && !right
  | .infinite left, .finite _ _ => left
  | .finite _ _, .infinite right => !right
  | .finite leftNegative left, .finite rightNegative right =>
      signedUnits leftNegative left < signedUnits rightNegative right

/-- Numerical equality: the two zeros are equal, `nan` equals nothing. -/
def equals : Binary64 → Binary64 → Bool
  | .infinite left, .infinite right => left = right
  | .finite leftNegative left, .finite rightNegative right =>
      signedUnits leftNegative left = signedUnits rightNegative right
  | _, _ => false

/-- Numerical equality with a whole number of any size. -/
def equalsInt (number : Binary64) (value : Int) : Bool :=
  match number with
  | .finite negative magnitude => signedUnits negative magnitude = value * unitsPerOne
  | _ => false

/-- Numerical order between a whole number of any size and a number. -/
def lessThanInt (number : Binary64) (value : Int) : Bool :=
  match number with
  | .nan => false
  | .infinite negative => negative
  | .finite negative magnitude => signedUnits negative magnitude < value * unitsPerOne

/-- The converse comparison of `lessThanInt`. -/
def intLessThan (value : Int) (number : Binary64) : Bool :=
  match number with
  | .nan => false
  | .infinite negative => !negative
  | .finite negative magnitude => value * unitsPerOne < signedUnits negative magnitude

/-- The nearest number of the format with 24 significant bits and units of `2 ^ -149`. -/
def toSinglePrecision : Binary64 → Binary64
  | .finite negative magnitude =>
      let step := max (2 ^ (925 : Nat)) (2 ^ (magnitude.units.log2 - 23))
      let rounded := roundHalfEven magnitude.units step * step
      if rounded < 2 ^ (1202 : Nat) then ofUnits negative rounded else .infinite negative
  | other => other

/-- The square root, nearest to the exact one; undefined below zero. -/
def squareRoot : Binary64 → Binary64
  | .nan => .nan
  | .infinite negative => if negative then .nan else .infinite false
  | .finite negative magnitude =>
      if magnitude.units = 0 then .finite negative magnitude
      else if negative then .nan
      else
        -- Sixty-four extra bits and a marker below them decide the rounding.
        let square := magnitude.units * unitsPerOne * 2 ^ (128 : Nat)
        let root := Nat.sqrt square
        let marker := if root * root = square then 0 else 1
        ofRatio false (2 * root + marker) (2 ^ (65 : Nat))

end Binary64

/-- A number as descriptors and documents hold it: whole, or binary64. -/
inductive Number where
  | whole (value : Int)
  | real (value : Binary64)
  deriving DecidableEq

end ChartCompiler
