import ChartCompiler.Field.Kind
import ChartCompiler.Text.Utf8
import ChartCompiler.Value.Access

/-!
# Labels of categories

How an entry of a categorical field is written on band scales and in legends, and which entries
are missing.
-/

namespace ChartCompiler

/-- A number without a fraction is written with whole digits, whichever way it is held. -/
def Number.label : Number → String
  | .whole value => toString value
  | .real value => match value.toInt? with
      | some integer => toString integer
      | none => value.toText

namespace Value

/-- The label of a category. -/
def label : Value → String
  | .bool value => if value then "true" else "false"
  | .number value => value.label
  | .bytes codes => Text.ofCharacters (Text.decodeUtf8Lossy codes)
  | value => value.plainText

/-- Whether an entry is missing: null, or an undefined number. -/
def isMissing : Value → Except Failure Bool
  | .null => .ok true
  | .number value => do
      let real ← value.toReal
      return real.isNaN
  | _ => .ok false

end Value

/-- The label of a missing color. -/
def missingLabel : String := "missing"

/-- The label of a color entry. -/
def colorLabel (entry : Value) : Except Failure String := do
  if ← entry.isMissing then return missingLabel
  return entry.label

end ChartCompiler
