import ChartCompiler.Field.Label
import ChartCompiler.Log.Basic
import ChartCompiler.Table.Basic
import ChartCompiler.Text.Order

/-!
# Projection of bound fields into a table

The entries of the bound fields are cut to their common length, rows without a usable x or y are
dropped, and the rest become the rows of a `Table`. Whatever is left out is reported in a
diagnostic and in the log. The distinct color labels of the kept rows are in the order of the legend:
by code points, or for a numeric color field first the labels that read as numbers, by their value.
-/

namespace ChartCompiler

/-- Order of two labels of a numeric color field. -/
def numericLabelAtMost (left right : String) : Bool :=
  match Text.real? left, Text.real? right with
  | some leftValue, some rightValue =>
      if leftValue.equals rightValue then textAtMost left right
      else leftValue.lessThan rightValue
  | some _, none => true
  | none, some _ => false
  | none, none => textAtMost left right

/-- The color domain of labels; `numeric` tells whether the color field holds numbers. -/
def colorDomain (labels : List String) (numeric : Bool) : List String :=
  (distinct labels).mergeSort (if numeric then numericLabelAtMost else textAtMost)

/-- The fields bound to a plot. -/
structure Bindings where
  x : Value
  y : Value
  color : Option Value := none
  ymin : Option Value := none
  ymax : Option Value := none

namespace Projection

/-- The entries of a bound field. -/
def entriesOf (field : Value) : Except Failure (List Value) :=
  match field.elements? with
  | some entries => .ok entries
  | none => .error .unsupportedKind

/-- Entries as real numbers, with the undefined number for missing ones. -/
def realEntries (entries : List Value) : Except Failure (List Binary64) :=
  entries.mapM fun entry => if entry.isNull then .ok .nan else entry.toReal

/-- The cells of a field, and which of them are usable: the finite numbers of a continuous field,
all but the missing entries of a categorical one. -/
def usableCells (entries : List Value) (numeric : Bool) : Except Failure (List (Option Cell)) :=
  if numeric then do
    let values ← realEntries entries
    return values.map fun value => if value.isFinite then some (.number value) else none
  else
    entries.mapM fun entry => do
      return if ← entry.isMissing then none else some (.label entry.label)

/-- The bounds of an interval, one for each of `count` rows; undefined where the binding is
missing, short or not finite. Nothing if the binding is not numeric. -/
def boundEntries (binding : Option Value) (count : Nat) :
    Except Failure (Option (List Binary64)) :=
  match binding with
  | none => .ok none
  | some field => do
      if ← field.holdsNumbers then
        let entries ← entriesOf field
        let values ← realEntries (entries.take count)
        return some (values ++ List.replicate (count - values.length) .nan)
      else return none

/-- The elements whose place is marked as kept. -/
def keep (marks : List Bool) (items : List α) : List α :=
  (items.zip marks).filterMap fun (item, kept) => if kept then some item else none

/-- A number if it is finite. -/
def finite? (value : Binary64) : Option Binary64 := if value.isFinite then some value else none

/-- Writes a warning to the log and gives it as a diagnostic. -/
def warnOf (kind message : String) (count : Nat) : Run Diagnostic := do
  Run.warn .projection message
  return { kind, message, count := some (count : Int) }

/-- The diagnostic for fields of different lengths. -/
def lengthDiagnostics (lengths : List Nat) (count : Nat) : Run (List Diagnostic) := do
  if lengths.all (· = count) then return []
  let shown := ", ".intercalate (lengths.map toString)
  let longest := lengths.foldl max 0
  return [← warnOf "length-mismatch"
    s!"Field bindings differ in length [{shown}]; truncated to {count} rows" (longest - count)]

/-- The diagnostic for an interval bound that is shorter than the table. -/
def boundDiagnostics (name : String) (binding : Option Value) (count : Nat) :
    Run (List Diagnostic) :=
  match binding with
  | none => return []
  | some field => do
      let length := (← entriesOf field).length
      if length < count then
        return [← warnOf "length-mismatch"
          s!"Binding '{name}' has {length} of {count} values; missing bounds left unset"
          (count - length)]
      else return []

/-- The diagnostic for rows without usable values. -/
def droppedDiagnostics (dropped kept : Nat) (numeric : Bool) : Run (List Diagnostic) := do
  if dropped = 0 then return []
  let reason := if numeric then "NaN or infinite values" else "missing or non-finite values"
  return [← warnOf "dropped-rows"
    s!"Removed {dropped} data points containing {reason} ({kept} remaining)" dropped]

/-- The color labels of the kept rows and their domain. -/
def colorGroups (entries : List Value) (kept : List Bool) :
    Except Failure (List String × List String) := do
  let labels ← (keep kept entries).mapM colorLabel
  let numeric ← (Value.list entries).holdsNumbers
  return (labels, colorDomain labels numeric)

/-- The bounds of the kept rows, finite or left out; nothing if a bound is not numeric. -/
def keptBounds (kept : List Bool) (low high : Option (List Binary64)) :
    Option (List (Option Binary64 × Option Binary64)) := do
  return (keep kept ((← low).zip (← high))).map fun (least, greatest) =>
    (finite? least, finite? greatest)

/-- The rows with the given cells, colors and bounds, place by place. -/
def rowsOf (cells : List (Cell × Cell)) (colors : List (Option String))
    (bounds : List (Option Binary64 × Option Binary64)) : List Row :=
  (cells.zip (colors.zip bounds)).map fun ((x, y), color, ymin, ymax) =>
    { x, y, color, ymin, ymax }

end Projection

open Projection in
/-- Cleans the bound fields into a table. -/
def Table.project (bindings : Bindings) : Run Table := do
  let allX ← entriesOf bindings.x
  let allY ← entriesOf bindings.y
  let allColor ← bindings.color.mapM fun field => (entriesOf field : Except Failure _)
  let lengths := [allX.length, allY.length] ++ (allColor.map List.length).toList
  let count := lengths.foldl min allX.length
  let lengthNotes ← lengthDiagnostics lengths count
  let yminNotes ← boundDiagnostics "ymin" bindings.ymin count
  let ymaxNotes ← boundDiagnostics "ymax" bindings.ymax count
  let xEntries := allX.take count
  let yEntries := allY.take count
  let xNumeric ← (Value.list xEntries).holdsNumbers
  let yNumeric ← (Value.list yEntries).holdsNumbers
  let xCells ← usableCells xEntries xNumeric
  let yCells ← usableCells yEntries yNumeric
  let pairs := xCells.zip yCells
  let kept := pairs.map fun (x, y) => x.isSome && y.isSome
  let cells := pairs.filterMap fun (x, y) => return (← x, ← y)
  let dropped := count - cells.length
  let droppedNotes ← droppedDiagnostics dropped cells.length (xNumeric && yNumeric)
  let (labels, domain) ← match allColor with
    | some entries => (colorGroups (entries.take count) kept : Except Failure _)
    | none => pure ([], [])
  let hasColorGroup := 1 < domain.length
  let low ← boundEntries bindings.ymin count
  let high ← boundEntries bindings.ymax count
  let bounds := if yNumeric then keptBounds kept low high else none
  let colors := if hasColorGroup then labels.map some else List.replicate cells.length none
  let table : Table :=
    { rows := rowsOf cells colors (bounds.getD (List.replicate cells.length (none, none)))
      xKind := .ofNumeric xNumeric
      yKind := .ofNumeric yNumeric
      hasColorGroup
      colorDomain := if hasColorGroup then domain else []
      hasInterval := bounds.isSome
      givenCount := count
      droppedCount := dropped
      diagnostics := lengthNotes ++ yminNotes ++ ymaxNotes ++ droppedNotes }
  Run.debug .projection
    (s!"Projected {cells.length} of {count} rows (x={table.xKind.name}, "
      ++ s!"y={table.yKind.name}, color groups={domain.length})")
  return table

end ChartCompiler
