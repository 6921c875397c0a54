import ChartCompiler.Failure
import ChartCompiler.Text.Numeral

/-!
# Access to values

How a document of any shape is taken apart, how a value of any kind is taken as a real or a whole
number, and the reasons why it cannot be.
-/

namespace ChartCompiler

/-! ## Parts -/

namespace Value

/-- The items of a value that can be gone through. -/
def itemsOf (value : Value) : Except Failure (List Value) :=
  match value.elements? with
  | some items => .ok items
  | none => .error .unsupportedKind

/-- Whether a value counts as true. An array does so by its item, if it has exactly one. -/
def truth : Value → Except Failure Bool
  | .array _ _ [item] => .ok (itemIsTruthy item)
  | .array _ _ _ => .error .unusableValue
  | value => .ok value.isTruthy

/-- A member that must be there. -/
def memberOf (value : Value) (name : String) : Except Failure Value :=
  match value with
  | .map members => match Members.get? members name with
      | some item => .ok item
      | none => .error .absentMember
  | _ => .error .unsupportedKind

/-- The members of a value that must be a map. -/
def membersOf (value : Value) : Except Failure Members :=
  match value with
  | .map members => .ok members
  | _ => .error .absentOperation

mutual

/-- Whether a value can be a key: everything but what consists of parts that may change. -/
def isKey : Value → Bool
  | .null | .bool _ | .number _ | .text _ | .bytes _ => true
  | .tuple items => areKeys items
  | .list _ | .set _ | .map _ | .array _ _ _ => false

def areKeys : List Value → Bool
  | [] => true
  | item :: rest => item.isKey && areKeys rest

end

end Value

/-! ## Numbers -/

/-- The real number nearest to a whole number, if it is within the range. -/
def realOfWhole (value : Int) : Except Failure Binary64 :=
  match Binary64.ofInt? value with
  | some real => .ok real
  | none => .error .numberTooLarge

def Number.toReal : Number → Except Failure Binary64
  | .whole value => realOfWhole value
  | .real value => .ok value

namespace Value

/-- A value as a real number: truth values are one and zero, texts are read as numerals. -/
def toReal : Value → Except Failure Binary64
  | .bool value => realOfWhole (if value then 1 else 0)
  | .number value => value.toReal
  | .text content => match Text.real? content with
      | some value => .ok value
      | none => .error .unusableValue
  | .bytes codes => match Text.readReal? (Text.byteCharacters codes) with
      | some value => .ok value
      | none => .error .unusableValue
  | .null | .list _ | .tuple _ | .set _ | .map _ | .array _ _ _ => .error .unsupportedKind

/-- A value as a whole number: real numbers lose their fraction, texts are read as numerals. -/
def toWhole : Value → Except Failure Int
  | .bool value => .ok (if value then 1 else 0)
  | .number (.whole value) => .ok value
  | .number (.real value) => match value.truncate? with
      | some integer => .ok integer
      | none => .error (if value.isNaN then .unusableValue else .numberTooLarge)
  | .text content => match Text.whole? content with
      | some value => .ok value
      | none => .error .unusableValue
  | .bytes codes => match Text.readWhole? (Text.byteCharacters codes) with
      | some value => .ok value
      | none => .error .unusableValue
  | .null | .list _ | .tuple _ | .set _ | .map _ | .array _ _ _ => .error .unsupportedKind

end Value

end ChartCompiler
