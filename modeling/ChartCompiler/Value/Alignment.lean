import ChartCompiler.Number.Neighbours
import ChartCompiler.Text.Quoted
import ChartCompiler.Value.Basic

/-!
# Aligned items of arrays

The items of an array are written to one width. Real numbers have their points below each other,
with at most eight digits behind them, and no more digits than tell a number apart from its
neighbours in the format of the array. Numbers that are large, small or far apart are all written
with exponents.
-/

namespace ChartCompiler

open scoped CorePower

/-- A decimal around its point. -/
structure PointForm where
  whole : List Char
  fraction : List Char
  deriving DecidableEq

/-- The digits before and after the point, without zeros at the end. -/
def Decimal.pointForm (decimal : Decimal) : PointForm :=
  let normal := decimal.normalize
  let places := (-normal.exponent).toNat
  let digits := List.replicate (places + 1 - normal.digits.length) '0' ++ normal.digits
    ++ List.replicate normal.exponent.toNat '0'
  ⟨digits.take (digits.length - places), digits.drop (digits.length - places)⟩

example : Decimal.pointForm ⟨250, -4⟩ = ⟨['0'], ['0', '2', '5']⟩ := by decide

/-- A decimal with its point behind the first digit. -/
structure ExponentForm where
  whole : List Char
  fraction : List Char
  exponent : Int
  deriving DecidableEq

/-- The first digit, the other ones without zeros at the end, and the exponent. -/
def Decimal.exponentForm (decimal : Decimal) : ExponentForm :=
  let normal := decimal.normalize
  ⟨normal.digits.take 1, normal.digits.drop 1, normal.exponent + normal.digits.length - 1⟩

example : Decimal.exponentForm ⟨250, -4⟩ = ⟨['2'], ['5'], -2⟩ := by decide

/-- Digits with zeros before them up to a length. -/
def zerosBefore (length : Nat) (digits : List Char) : List Char :=
  List.replicate (length - digits.length) '0' ++ digits

/-- Digits with zeros behind them up to a length. -/
def zerosBehind (length : Nat) (digits : List Char) : List Char :=
  digits ++ List.replicate (length - digits.length) '0'

/-- Text with blanks before it up to a length. -/
def blanksBefore (length : Nat) (text : List Char) : List Char :=
  List.replicate (length - text.length) ' ' ++ text

/-- The length of the longest of some texts. -/
def greatestLength (texts : List (List Char)) : Nat :=
  texts.foldl (fun greatest text => max greatest text.length) 0

/-- How many digits at most are written behind the point of an item. -/
def fractionLimit : Nat := 8

/-- How the real numbers of an array are written. With `exponents` they have a number of digits
behind the point and in the exponent; `left` and `right` are the widths on either side of the
point. -/
structure RealAlignment where
  format : BinaryFormat
  exponents : Option (Nat × Nat)
  left : Nat
  right : Nat

/-- A finite real number: its sign and its magnitude in units. -/
structure SignedMagnitude where
  negative : Bool
  units : Nat

def Binary64.signedMagnitude? : Binary64 → Option SignedMagnitude
  | .finite negative magnitude => some ⟨negative, magnitude.units⟩
  | _ => none

namespace SignedMagnitude

def signed (number : SignedMagnitude) (digits : List Char) : List Char :=
  if number.negative then '-' :: digits else digits

/-- The number in positional notation. -/
def pointForm (format : BinaryFormat) (number : SignedMagnitude) : PointForm :=
  let form := (format.decimal number.units 0 (some (-(fractionLimit : Int)))).pointForm
  { form with whole := number.signed form.whole }

/-- The number with an exponent and at most `limit` digits behind the point. From `least` on, digits
may be left out that do not tell it apart. -/
def exponentForm (format : BinaryFormat) (least limit : Nat) (number : SignedMagnitude) :
    ExponentForm :=
  let first := leadingExponent number.units Binary64.unitsPerOne
  let form := (format.decimal number.units (first - least) (some (first - limit))).exponentForm
  { form with whole := number.signed form.whole }

end SignedMagnitude

/-- An exponent with its sign and at least two digits. -/
def exponentDigits (width : Nat) (exponent : Int) : List Char :=
  (if exponent < 0 then '-' else '+')
    :: zerosBefore (max width 2) (Nat.toDigits 10 exponent.natAbs)

/-- Whether magnitudes are written with exponents: one of them has more digits than are kept or is
below a ten-thousandth, or the greatest is more than a thousand times the least. The quotient counts
as the format rounds it. -/
def BinaryFormat.needsExponents (format : BinaryFormat) (magnitudes : List Nat) : Bool :=
  let nonzero := magnitudes.filter (· ≠ 0)
  let greatest := nonzero.foldl max 0
  let least := nonzero.foldl min greatest
  let half := 2 ^ (format.bits - 9)
  !nonzero.isEmpty
    && (10 ^ min fractionLimit format.decimalDigits * Binary64.unitsPerOne ≤ greatest
      || least < format.nearestUnits Binary64.unitsPerOne 10000
      || least * (1000 * half + 1) < greatest * half)

namespace RealAlignment

/-- The alignment of finite numbers. -/
def ofFinite (format : BinaryFormat) (numbers : List SignedMagnitude) : RealAlignment :=
  if format.needsExponents (numbers.map (·.units)) then
    let forms := numbers.map (·.exponentForm format 0 fractionLimit)
    let fraction := greatestLength (forms.map (·.fraction))
    let exponent := greatestLength (forms.map (exponentDigits 2 ·.exponent)) - 1
    { format, exponents := some (fraction, exponent)
      left := greatestLength (forms.map (·.whole)), right := exponent + 2 + fraction }
  else
    let forms := numbers.map (·.pointForm format)
    { format, exponents := none
      left := greatestLength (forms.map (·.whole))
      right := greatestLength (forms.map (·.fraction)) }

/-- The alignment of numbers, wide enough for the texts of those that are not finite. -/
def of (format : BinaryFormat) (numbers : List Binary64) : RealAlignment :=
  let alignment := ofFinite format (numbers.filterMap (·.signedMagnitude?))
  let others := numbers.filter (!·.isFinite)
  let width := if others.contains (.infinite true) then 4 else 3
  if others.isEmpty then alignment
  else { alignment with left := max alignment.left (width - (alignment.right + 1)) }

/-- A number to the width of an alignment. -/
def write (alignment : RealAlignment) (number : Binary64) : String :=
  String.ofList <| match number.signedMagnitude?, alignment.exponents with
    | none, _ => blanksBefore (alignment.left + alignment.right + 1) number.toText.toList
    | some number, none =>
        let form := number.pointForm alignment.format
        blanksBefore alignment.left form.whole ++ '.' :: form.fraction
          ++ List.replicate (alignment.right - form.fraction.length) ' '
    | some number, some (fraction, exponent) =>
        let form := number.exponentForm alignment.format fraction fraction
        blanksBefore alignment.left form.whole ++ '.' :: zerosBehind fraction form.fraction
          ++ 'e' :: exponentDigits exponent form.exponent

end RealAlignment

/-- The binary format of an array's real numbers. -/
def ElementType.format : ElementType → BinaryFormat
  | .binary32 => .binary32
  | _ => .binary64

namespace Value

def real? : Value → Option Binary64
  | .number (.real value) => some value
  | _ => none

/-- An item of an array, not aligned. -/
def itemText : Value → String
  | .bool value => if value then "True" else "False"
  | .number (.whole value) => toString value
  | .number (.real value) => value.toText
  | .text content => Text.quoted content
  | _ => ""

end Value

/-- How the items of an array are written, aligned for those that are shown. -/
def ElementType.writer (elements : ElementType) (shown : List Value) : Value → String :=
  match elements with
  | .binary64 | .binary32 =>
      let alignment := RealAlignment.of elements.format (shown.filterMap Value.real?)
      fun item => ((item.real?).map alignment.write).getD ""
  | .signed64 | .unsigned8 =>
      let width := greatestLength (shown.map (·.itemText.toList))
      fun item => String.ofList (blanksBefore width item.itemText.toList)
  | .truth => fun item => String.ofList (blanksBefore 5 item.itemText.toList)
  | .text _ => Value.itemText

end ChartCompiler
