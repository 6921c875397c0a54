import ChartCompiler.Field.Kind
import ChartCompiler.Number.Binary64
import ChartCompiler.Value.Basic

/-!
# The table of cleaned rows

The rows that every layer of a chart draws from, with what is known about their fields.
-/

namespace ChartCompiler

/-- A notice about the data or the layers of a plot, with the number of entries concerned. -/
structure Diagnostic where
  kind : String
  message : String
  count : Option Int := none
  deriving DecidableEq

/-- An entry of a cleaned row: a number of a continuous field or a label of a categorical one. -/
inductive Cell where
  | number (value : Binary64)
  | label (value : String)
  deriving DecidableEq

namespace Cell

def toValue : Cell → Value
  | .number value => .real value
  | .label value => .text value

def number? : Cell → Option Binary64
  | .number value => some value
  | .label _ => none

end Cell

/-- One cleaned row. -/
structure Row where
  x : Cell
  y : Cell
  color : Option String := none
  ymin : Option Binary64 := none
  ymax : Option Binary64 := none
  deriving DecidableEq

/-- A row as a member of the chart document. -/
def Row.toMembers (row : Row) : Members :=
  [("x", row.x.toValue), ("y", row.y.toValue)]
    ++ Members.optional "color" (row.color.map .text)
    ++ Members.optional "ymin" (row.ymin.map .real)
    ++ Members.optional "ymax" (row.ymax.map .real)

/-- The least and the greatest of some numbers. -/
structure Extent where
  least : Binary64
  greatest : Binary64
  deriving DecidableEq

/-- The lesser of two numbers; of equal ones the left. -/
def lesser (left right : Binary64) : Binary64 := if right.lessThan left then right else left

/-- The greater of two numbers; of equal ones the left. -/
def greater (left right : Binary64) : Binary64 := if left.lessThan right then right else left

/-- The extent of numbers, if there are any; of equal ones the first is kept. -/
def Extent.of? : List Binary64 → Option Extent
  | [] => none
  | first :: rest =>
      some { least := rest.foldl lesser first, greatest := rest.foldl greater first }

/-- The cleaned rows of a plot. -/
structure Table where
  rows : List Row
  xKind : FieldKind
  yKind : FieldKind
  hasColorGroup : Bool := false
  colorDomain : List String := []
  hasInterval : Bool := false
  givenCount : Nat := 0
  droppedCount : Nat := 0
  diagnostics : List Diagnostic := []

namespace Table

def isEmpty (table : Table) : Bool := table.rows.isEmpty

def xIsNumeric (table : Table) : Bool := table.xKind = .continuous

def yIsNumeric (table : Table) : Bool := table.yKind = .continuous

/-- The rows as members of the chart document. -/
def records (table : Table) : List Members := table.rows.map Row.toMembers

/-- The extent of a continuous x field. -/
def xExtent (table : Table) : Option Extent :=
  if table.xIsNumeric then Extent.of? (table.rows.filterMap (·.x.number?)) else none

/-- The extent of a continuous y field. -/
def yExtent (table : Table) : Option Extent :=
  if table.yIsNumeric then Extent.of? (table.rows.filterMap (·.y.number?)) else none

/-- The difference `y - x` of a row of two numbers. -/
def difference? (row : Row) : Option Binary64 :=
  match row.x, row.y with
  | .number x, .number y => some (y - x)
  | _, _ => none

/-- The extent of `y - x` over two continuous fields. -/
def differenceExtent (table : Table) : Option Extent :=
  if table.xIsNumeric && table.yIsNumeric then Extent.of? (table.rows.filterMap difference?)
  else none

end Table

end ChartCompiler
