import ChartCompiler.Failure
import ChartCompiler.Json.Text

/-!
# Writing JSON

The text of a document: every list item and every map member on a line of its own, indented by two
spaces for each level; empty lists and maps on one line. Numbers are written as in `Number.display`,
with the words `NaN`, `Infinity` and `-Infinity` for the numbers that JSON has not. A whole number
with too many digits to be read again is refused.
-/

namespace ChartCompiler.Json

/-- The text of a number in a document. -/
def writeNumber : Number → Except Failure (List Char)
  | .whole value =>
      if Text.wholeDigitLimit < (Nat.toDigits 10 value.natAbs).length then .error .unusableValue
      else .ok (toString value).toList
  | .real .nan => .ok "NaN".toList
  | .real (.infinite negative) => .ok (if negative then "-Infinity" else "Infinity").toList
  | .real value => .ok value.toText.toList

/-- The start of a line at a nesting depth. -/
def lineStart (depth : Nat) : List Char := '\n' :: List.replicate (2 * depth) ' '

mutual

/-- The text of a value at a nesting depth. Byte strings, sets and arrays have none. -/
def write (depth : Nat) : Value → Except Failure (List Char)
  | .null => .ok "null".toList
  | .bool value => .ok (if value then "true" else "false").toList
  | .number value => writeNumber value
  | .text content => .ok (writeString content)
  | .list items | .tuple items => do
      if items.isEmpty then return "[]".toList
      return '[' :: (← writeItems (depth + 1) items) ++ lineStart depth ++ [']']
  | .map members => do
      if members.isEmpty then return ['\x7b', '\x7d']
      return '\x7b' :: (← writeMembers (depth + 1) members) ++ lineStart depth ++ ['\x7d']
  | .bytes _ | .set _ | .array _ _ _ => .error .unsupportedKind

/-- Items on lines of their own, a comma after each but the last. -/
def writeItems (depth : Nat) : List Value → Except Failure (List Char)
  | [] => .ok []
  | item :: rest => do
      let text ← write depth item
      let following ← writeItems depth rest
      return lineStart depth ++ text ++ (if rest.isEmpty then [] else [',']) ++ following

def writeMembers (depth : Nat) : List (String × Value) → Except Failure (List Char)
  | [] => .ok []
  | (name, item) :: rest => do
      let text ← write depth item
      let following ← writeMembers depth rest
      return lineStart depth ++ writeString name ++ ':' :: ' ' :: text
        ++ (if rest.isEmpty then [] else [',']) ++ following

end

/-- The text of a document. -/
def toText (value : Value) : Except Failure String := do
  return String.ofList (← write 0 value)

end ChartCompiler.Json
