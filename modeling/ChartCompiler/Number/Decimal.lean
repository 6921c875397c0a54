import ChartCompiler.Number.Binary64

/-!
# Decimal forms of binary64 numbers

A `Decimal` is a significand with a power of ten. A positive number has two decimals here: the
shortest one that reads back as the same number (`shortest`), and the one with a given count of
significant digits (`toPrecision`). A `DecimalLayout` says how a decimal is written out.
-/

namespace ChartCompiler

open scoped CorePower

/-- The number `significand * 10 ^ exponent`. -/
structure Decimal where
  significand : Nat
  exponent : Int
  deriving DecidableEq

namespace Decimal

def digits (decimal : Decimal) : List Char := Nat.toDigits 10 decimal.significand

/-- Moves the trailing zeros of the significand into the exponent; `count` bounds the moves. -/
def stripZeros (decimal : Decimal) : Nat → Decimal
  | 0 => decimal
  | count + 1 =>
      if decimal.significand ≠ 0 ∧ decimal.significand % 10 = 0 then
        stripZeros ⟨decimal.significand / 10, decimal.exponent + 1⟩ count
      else decimal

/-- The same number without trailing zeros in the significand. -/
def normalize (decimal : Decimal) : Decimal := decimal.stripZeros decimal.digits.length

/-- The magnitude, in units, of the binary64 number nearest to a decimal. -/
def nearestUnits (decimal : Decimal) : Nat :=
  let scaled :=
    scaleByPowerOfTen (decimal.significand * Binary64.unitsPerOne) 1 decimal.exponent
  Binary64.nearestUnits scaled.1 scaled.2

/-- The decimals with `count` significant digits on either side of a positive number of units,
and their order by distance: the nearer one first, of two equally near ones the even one. -/
def neighbours (units count : Nat) : List Decimal :=
  let power : Int := (count : Int) - 1 - leadingExponent units Binary64.unitsPerOne
  let scaled := scaleByPowerOfTen units Binary64.unitsPerOne power
  let below := scaled.1 / scaled.2
  let nearest := roundHalfEven scaled.1 scaled.2
  if nearest = below then [⟨below, -power⟩, ⟨below + 1, -power⟩]
  else [⟨below + 1, -power⟩, ⟨below, -power⟩]

/-- All decimal digits of a number of units: a unit is `5 ^ 1074 * 10 ^ -1074`. -/
def exact (units : Nat) : Decimal := ⟨units * 5 ^ (1074 : Nat), -1074⟩

/-- The decimal with the fewest significant digits that reads back as `units`, and of these the
nearest one. -/
def shortest (units : Nat) : Decimal :=
  if units = 0 then ⟨0, 0⟩
  else
    let candidates := (List.range 17).flatMap fun count => neighbours units (count + 1)
    let found := candidates.find? fun candidate => candidate.nearestUnits = units
    (found.getD (exact units)).normalize

/-- The decimal with `precision` significant digits nearest to a number of units. -/
def toPrecision (precision units : Nat) : Decimal :=
  if units = 0 then ⟨0, 0⟩
  else
    let power : Int := (precision : Int) - 1 - leadingExponent units Binary64.unitsPerOne
    let scaled := scaleByPowerOfTen units Binary64.unitsPerOne power
    ⟨roundHalfEven scaled.1 scaled.2, -power⟩

end Decimal

/-- How a decimal is written out: the leading digit's exponents that are written positionally, and
what follows a positional number without a fraction. Other exponents are written after `e` with a
sign and at least two digits. -/
structure DecimalLayout where
  leastPositional : Int
  firstExponential : Int
  wholeSuffix : String

namespace DecimalLayout

/-- The layout of a number as data: `1.0`, `0.0001`, `1e-05`, `1e+16`. -/
def plain : DecimalLayout := ⟨-4, 16, ".0"⟩

/-- The layout of a number in an expression, for a count of significant digits: `1`, `1e+06`. -/
def general (precision : Nat) : DecimalLayout := ⟨-4, precision, ""⟩

/-- Digits with a point after the first `whole` ones, padded with zeros on either side. -/
def positional (layout : DecimalLayout) (digits : List Char) (leading : Int) : String :=
  match leading with
  | .ofNat exponent =>
      let whole := exponent + 1
      let fraction := digits.drop whole
      let integer := digits.take whole ++ List.replicate (whole - digits.length) '0'
      if fraction.isEmpty then String.ofList integer ++ layout.wholeSuffix
      else String.ofList (integer ++ '.' :: fraction)
  | .negSucc zeros => String.ofList ('0' :: '.' :: List.replicate zeros '0' ++ digits)

/-- Digits after a decimal point that follows the first one, if there are more, and the exponent. -/
def exponential (digits : List Char) (leading : Int) : String :=
  let mantissa := digits.take 1 ++ (if digits.length ≤ 1 then [] else '.' :: digits.drop 1)
  let sign := if leading < 0 then '-' else '+'
  let exponent := Nat.toDigits 10 leading.natAbs
  let padding := List.replicate (2 - exponent.length) '0'
  String.ofList (mantissa ++ 'e' :: sign :: padding ++ exponent)

/-- Writes a decimal out; zeros at the end of its significand are not significant. -/
def write (layout : DecimalLayout) (decimal : Decimal) : String :=
  let normal := decimal.normalize
  let digits := normal.digits
  let leading : Int := if normal.significand = 0 then 0 else normal.exponent + digits.length - 1
  if layout.leastPositional ≤ leading ∧ leading < layout.firstExponential then
    layout.positional digits leading
  else exponential digits leading

end DecimalLayout

namespace Binary64

/-- Writes a number with a chosen decimal form for its magnitude. -/
def writeWith (magnitudeText : Nat → String) : Binary64 → String
  | .nan => "nan"
  | .infinite negative => if negative then "-inf" else "inf"
  | .finite negative magnitude =>
      (if negative then "-" else "") ++ magnitudeText magnitude.units

/-- The text of a number as data: the fewest digits that read back as the number. -/
def toText : Binary64 → String :=
  writeWith fun units => DecimalLayout.plain.write (Decimal.shortest units)

/-- The text of a number with at most `precision` significant digits, without trailing zeros. -/
def toGeneralText (precision : Nat) : Binary64 → String :=
  writeWith fun units =>
    (DecimalLayout.general precision).write (Decimal.toPrecision precision units)

end Binary64

end ChartCompiler
