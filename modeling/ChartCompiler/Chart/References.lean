import ChartCompiler.Text.CharacterClass
import ChartCompiler.Text.Order
import ChartCompiler.Value.Access
import ChartCompiler.Value.Equality

/-!
# References to scales

A chart document refers to scales by the `scale` members of its maps and by calls inside its texts,
such as `scale('xscale', datum.x)`. Scales that a group declares are its own: references to them
are not counted in the group. Every reference that is left must be declared by the chart, once.
-/

namespace ChartCompiler

/-! ## Calls in texts -/

namespace QuotedCall

/-- The quoted name at the front of a text, and the number of characters it takes. -/
def quotedName? : List Char → Option (List Char × Nat)
  | '\'' :: body =>
      let name := body.takeWhile (· ≠ '\'')
      if name.isEmpty || name.length = body.length then none else some (name, name.length + 2)
  | _ => none

/-- The name after an opening parenthesis and blanks, and the number of characters up to it. -/
def argument? : List Char → Option (List Char × Nat)
  | '(' :: rest =>
      let blanks := (rest.takeWhile Text.isBlank).length
      (quotedName? (rest.dropWhile Text.isBlank)).map fun (name, length) =>
        (name, length + blanks + 1)
  | _ => none

/-- The name in a call of one of some functions at the front of a text, and the number of characters
up to it. -/
def at? (functions : List (List Char)) (characters : List Char) : Option (List Char × Nat) :=
  functions.findSome? fun function =>
    if function.isPrefixOf characters then
      (argument? (characters.drop function.length)).map fun (name, length) =>
        (name, length + function.length)
    else none

/-- The names in the calls of a text, from left to right. `skipped` counts the characters that
belong to a call found before; `inWord` says that a word goes on here, so that none can begin. -/
def names (functions : List (List Char)) (skipped : Nat) (inWord : Bool) :
    List Char → List String
  | [] => []
  | character :: rest =>
      let goesOn := Text.isWordCharacter character
      match skipped with
      | left + 1 => names functions left goesOn rest
      | 0 =>
          match if inWord then none else at? functions (character :: rest) with
          | some (name, length) => String.ofList name :: names functions (length - 1) goesOn rest
          | none => names functions 0 goesOn rest

end QuotedCall

/-- The names that a text gives to some functions as their first argument. -/
def quotedCalls (functions : List (List Char)) (text : String) : List String :=
  QuotedCall.names functions 0 false text.toList

/-- The functions whose first argument is the name of a scale. -/
def scaleFunctions : List (List Char) :=
  ["scale".toList, "bandwidth".toList, "range".toList, "domain".toList]

/-- The scales that a text refers to. -/
def scaleCalls (text : String) : List String := quotedCalls scaleFunctions text

example : scaleCalls "bandwidth('b') / 2 + rescale('c') + scale( 'a', datum.x)" = ["b", "a"] := by
  decide +kernel

/-! ## References in documents -/

namespace References

/-- The name that a scale is declared by; it must be one that can be looked up. -/
def declaredName (scale : Value) : Except Failure Value := do
  let name ← scale.memberOf "name"
  if name.isKey then return name else .error .unsupportedKind

/-- The texts among some values. -/
def textsOf (values : List Value) : List String :=
  values.filterMap fun value => match value with
    | .text content => some content
    | _ => none

/-- Whether a map is a group that may declare scales. -/
def isGroup (members : Members) : Bool :=
  match members.get? "type" with
  | some (.text type) => type = "group"
  | _ => false

/-- The scales that a map declares for itself. -/
def ownScales (members : Members) : Except Failure (List String) :=
  match members.get? "scales" with
  | some scales =>
      if isGroup members && scales.isTruthy then do
        return textsOf (← (← scales.itemsOf).mapM declaredName)
      else .ok []
  | none => .ok []

/-- The scale that a map refers to by its own member. -/
def direct (members : Members) : List String :=
  match members.get? "scale" with
  | some (.text name) => [name]
  | _ => []

mutual

/-- The scales that a document refers to, except for the `hidden` ones, which are declared
around it. -/
def within (hidden : List String) : Value → Except Failure (List String)
  | .text content => .ok ((scaleCalls content).filter (· ∉ hidden))
  | .list items | .tuple items => withinItems hidden items
  | .map members => do
      let hidden := hidden ++ (← ownScales members)
      return (direct members).filter (· ∉ hidden) ++ (← withinMembers hidden members)
  | .null | .bool _ | .number _ | .bytes _ | .set _ | .array _ _ _ => .ok []

def withinItems (hidden : List String) : List Value → Except Failure (List String)
  | [] => .ok []
  | item :: rest => do return (← within hidden item) ++ (← withinItems hidden rest)

/-- The references in the members of a map; what a `scale` member holds is a name. -/
def withinMembers (hidden : List String) : List (String × Value) → Except Failure (List String)
  | [] => .ok []
  | (name, item) :: rest => do
      let found ← if name = "scale" then .ok [] else within hidden item
      return found ++ (← withinMembers hidden rest)

end

/-- The channels that a legend may show a scale for. -/
def legendScaleMembers : List String := ["fill", "stroke", "size", "shape", "opacity", "strokeDash"]

/-- The references of a legend: the scales it shows, and those of its own encoding. -/
def ofLegend (legend : Value) : Except Failure (List String) := do
  let members ← legend.membersOf
  let shown := textsOf (legendScaleMembers.filterMap members.get?)
  return shown ++ (← within [] ((members.get? "encode").getD (.map [])))

/-- The references of a scale to other scales; its name is none. -/
def ofScale (scale : Value) : Except Failure (List String) := do
  let members ← scale.membersOf
  within [] (.map (members.filter fun member => member.1 ≠ "name"))

/-- The references in each of some values. -/
def ofEach (references : Value → Except Failure (List String)) (values : Value) :
    Except Failure (List String) := do
  return (← (← values.itemsOf).mapM references).flatten

/-- The parts of a document that refer to scales. -/
structure Parts where
  marks : Value := .list []
  axes : Value := .list []
  scales : Value := .list []
  legends : Value := .list []

/-- All scales that the parts of a document refer to. -/
def ofParts (parts : Parts) : Except Failure (List String) := do
  let marks ← ofEach (within []) parts.marks
  let axes ← ofEach (within []) parts.axes
  let scales ← ofEach ofScale parts.scales
  let legends ← ofEach ofLegend parts.legends
  return marks ++ axes ++ scales ++ legends

/-- The names that occur more than once, each once. -/
def repeated (names : List Value) : List Value :=
  names.filter fun name => 1 < (names.filter name.equals).length

/-- The parts of a document that is checked. -/
def partsOf (document : Members) : Parts :=
  let part (name : String) : Value := (document.get? name).getD (.list [])
  { marks := part "marks", axes := part "axes", scales := part "scales"
    legends := part "legends" }

/-- Checks that a document declares the scales it refers to, each of them once. -/
def check (document : Members) : Except Failure Unit := do
  let parts := partsOf document
  let declared ← (← parts.scales.itemsOf).mapM (·.memberOf "name")
  let duplicates := repeated declared
  if !duplicates.isEmpty then
    let names := textsOf duplicates
    if names.length = duplicates.length then
      .error (.brokenReferences (.declaredTwice (sortedTexts names)))
    else .error .unsupportedKind
  else
    let used ← ofParts parts
    if !Value.areKeys declared then .error .unsupportedKind
    else
      let missing := used.filter (· ∉ textsOf declared)
      if missing.isEmpty then .ok ()
      else .error (.brokenReferences (.undeclared (sortedTexts missing)))

end References

end ChartCompiler
