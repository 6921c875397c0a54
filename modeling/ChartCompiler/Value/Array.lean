import ChartCompiler.Value.Access
import ChartCompiler.Value.Extents

/-!
# Nested lists as arrays

Rectangular nested lists brought into an array, with every entry in the type of its elements.
-/

namespace ChartCompiler

open scoped CorePower

/-- A value as a whole number within a range. -/
def wholeWithin (least greatest : Int) (value : Value) : Except Failure Value := do
  let integer ← value.toWhole
  if least ≤ integer && integer ≤ greatest then return .whole integer
  else .error .numberTooLarge

/-- A missing entry is an undefined number. -/
def realEntry : Value → Except Failure Binary64
  | .null => .ok .nan
  | value => value.toReal

/-- The text of an entry. Of bytes only ASCII ones are text. -/
def textEntry : Value → Except Failure String
  | .bytes codes =>
      if codes.all (· < 0x80) then .ok (String.ofList (Text.byteCharacters codes))
      else .error .malformedText
  | value => .ok value.plainText

/-- A text as an array holds it: it cannot end in null characters. -/
def heldText (content : String) : String :=
  String.ofList (content.toList.reverse.dropWhile (·.toNat = 0)).reverse

/-- A single entry as an element of an array. -/
def ElementType.convert (elements : ElementType) (value : Value) : Except Failure Value :=
  match elements with
  | .binary64 => return .real (← realEntry value)
  | .binary32 => return .real (← realEntry value).toSinglePrecision
  | .signed64 => wholeWithin (-(2 ^ (63 : Nat))) (2 ^ (63 : Nat) - 1) value
  | .unsigned8 => wholeWithin 0 255 value
  | .truth => return .bool value.isTruthy
  | .text _ => return .text (heldText (← textEntry value))

/-- How long the texts of the elements of an array may be. -/
def ElementType.textLength : ElementType → Nat
  | .binary64 | .binary32 => 32
  | .signed64 => 21
  | .unsigned8 => 3
  | .truth => 5
  | .text length => length

namespace Value

/-- The least length that is enough for the texts of all entries, and for those of the element types
of arrays among them. -/
def textLength (value : Value) (texts : List String) : Nat :=
  (texts.map Text.length ++ value.elementTypes.map ElementType.textLength).foldl max 1

/-- An element type with texts of the length that a value needs. -/
def sizedFor (value : Value) : ElementType → Except Failure ElementType
  | .text _ => do return ElementType.text (value.textLength (← value.entries.mapM textEntry))
  | elements => .ok elements

/-- A value as an array with elements of a type. Texts get the length that they need. -/
def toArray (elements : ElementType) (value : Value) : Except Failure Value :=
  match value.extents? with
  | none => .error .unusableValue
  | some extents => do
      let items ← value.entries.mapM elements.convert
      return .array (← value.sizedFor elements) extents items

end Value

end ChartCompiler
