import ChartCompiler.Number.Decimal

/-!
# Numbers between their neighbours

The decimals between which a number of a binary format can be told apart from the other numbers of
the format. `Neighbourhood.digitsFrom` takes digits from the exact value, place by place, until
what they leave out is too small to matter for the format or the last allowed place is reached, and
rounds there.
-/

namespace ChartCompiler

open scoped CorePower

/-- A binary format: how many significant bits its numbers have, and their least distance in
units. -/
structure BinaryFormat where
  bits : Nat
  leastSpacing : Nat

namespace BinaryFormat

def binary64 : BinaryFormat := ⟨53, 1⟩

def binary32 : BinaryFormat := ⟨24, 2 ^ (925 : Nat)⟩

/-- The distance from a magnitude to the next larger one of the format. -/
def spacing (format : BinaryFormat) (units : Nat) : Nat :=
  max format.leastSpacing (2 ^ (units.log2 + 1 - format.bits))

/-- The magnitude of the format nearest to a quotient of units, a tie going to the even
significand. -/
def nearestUnits (format : BinaryFormat) (numerator denominator : Nat) : Nat :=
  let step := format.spacing (numerator / denominator)
  roundHalfEven numerator (denominator * step) * step

/-- How many decimal digits of a number the format keeps. -/
def decimalDigits (format : BinaryFormat) : Nat := (format.bits - 1) * 30103 / 100000

end BinaryFormat

/-- A magnitude of a format and how far the decimals reach that are nearest to it, all in halves of a
unit. -/
structure Neighbourhood where
  value : Nat
  below : Nat
  above : Nat
  /-- Whether the decimals at either end belong to it. -/
  closed : Bool

namespace Neighbourhood

/-- The neighbourhood of a magnitude. Below a power of two the numbers lie twice as close. -/
def of (format : BinaryFormat) (units : Nat) : Neighbourhood :=
  let spacing := format.spacing units
  let closer := format.leastSpacing < spacing && units = 2 ^ units.log2
  { value := 2 * units
    below := if closer then spacing / 2 else spacing
    above := spacing
    closed := units / spacing % 2 = 0 }

/-- What is left of a value when its digits down to a place are taken off: the digits, the rest, and
what one unit of the place is worth, on the scale of the place. -/
structure Cut where
  digits : Nat
  rest : Nat
  scale : Nat
  worth : Nat

/-- Cuts a value off at the place of a power of ten. -/
def cut (around : Neighbourhood) (place : Int) : Cut :=
  let scale := 10 ^ (-place).toNat
  let worth := 2 * Binary64.unitsPerOne * 10 ^ place.toNat
  ⟨around.value * scale / worth, around.value * scale % worth, scale, worth⟩

/-- Whether the digits before a cut are near enough from below. -/
def reachesDown (around : Neighbourhood) (cut : Cut) : Bool :=
  cut.rest < around.below * cut.scale || (around.closed && cut.rest = around.below * cut.scale)

/-- Whether the next larger digits are near enough from above. -/
def reachesUp (around : Neighbourhood) (cut : Cut) : Bool :=
  cut.worth < cut.rest + around.above * cut.scale
    || (around.closed && cut.worth = cut.rest + around.above * cut.scale)

/-- The digits of a cut, rounded to a decimal that is near enough or, if both or none are, to the
nearest one; a tie goes to the even digit. -/
def rounded (around : Neighbourhood) (cut : Cut) : Nat :=
  let down := around.reachesDown cut
  let up := around.reachesUp cut
  if down != up then if down then cut.digits else cut.digits + 1
  else if 2 * cut.rest < cut.worth then cut.digits
  else if cut.worth < 2 * cut.rest then cut.digits + 1
  else cut.digits + cut.digits % 2

/-- Takes digits from a place on. They go on at least to the place `least`, and at most to the place
`last?`; `count` bounds the places. -/
def digitsFrom (around : Neighbourhood) (least : Int) (last? : Option Int) (place : Int) :
    Nat → Decimal
  | 0 => ⟨around.rounded (around.cut place), place⟩
  | count + 1 =>
      let cut := around.cut place
      let near := around.reachesDown cut || around.reachesUp cut
      if (near && place ≤ least) || last? = some place then ⟨around.rounded cut, place⟩
      else around.digitsFrom least last? (place - 1) count

end Neighbourhood

namespace BinaryFormat

/-- The place below which no number of a format has digits. -/
def lastPlace : Int := -1080

/-- The decimal that tells a magnitude apart from its neighbours with digits at least down to the
place `least` and at most down to the place `last?`. -/
def decimal (format : BinaryFormat) (units : Nat) (least : Int) (last? : Option Int) : Decimal :=
  if units = 0 then ⟨0, 0⟩
  else
    let first := leadingExponent units Binary64.unitsPerOne
    (Neighbourhood.of format units).digitsFrom least last? first (first - lastPlace).toNat

end BinaryFormat

end ChartCompiler
