import ChartCompiler.Json.Writer
import ChartCompiler.Value.Access
import ChartCompiler.Value.Equality

/-!
# Documents given as values

A document is a map, or anything that consists of pairs of a key and a value. Keys are written as
texts: numbers, truth values and null as in JSON.
-/

namespace ChartCompiler

namespace Value

/-- The key and the value that an item of a document consists of. -/
def pairOf (item : Value) : Except Failure (Value × Value) := do
  match ← item.itemsOf with
  | [key, value] => if key.isKey then return (key, value) else .error .unsupportedKind
  | _ => .error .unusableValue

/-- Gives a key a value: in the place of an equal key, or else at the end. -/
def setKeyed (key value : Value) : List (Value × Value) → List (Value × Value)
  | [] => [(key, value)]
  | pair :: rest =>
      if pair.1.equals key then (pair.1, value) :: rest else pair :: setKeyed key value rest

/-- The text of a key in a document. -/
def keyText : Value → Except Failure String
  | .text name => .ok name
  | .null => .ok "null"
  | .bool value => .ok (if value then "true" else "false")
  | .number value => return String.ofList (← Json.writeNumber value)
  | _ => .error .unsupportedKind

/-- The members of a document. -/
def documentMembers : Value → Except Failure Members
  | .map members => .ok members
  | value => do
      let pairs ← (← value.itemsOf).mapM pairOf
      let kept := pairs.foldl (fun pairs pair => setKeyed pair.1 pair.2 pairs) []
      kept.mapM fun pair => return (← keyText pair.1, pair.2)

end Value

end ChartCompiler
