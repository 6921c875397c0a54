import ChartCompiler.Layer.Context

/-!
# Categories side by side

The scales and places of layers that summarize each category of x. Color groups stand side by side
inside the band of their category, each in a slot of its own.
-/

namespace ChartCompiler

/-- A number as part of an expression. -/
def Expr.ofNumber : Number → Expr
  | .whole value => .whole value
  | .real value => .number value

namespace Table

/-- The scale whose bands the categories or color groups are drawn in. -/
def slotScale (table : Table) : ScaleName := if table.hasColorGroup then .colorOffset else .x

/-- The start of the slot of a row. -/
def slotStart : Expr := .scaled .x (.datum "x") + .scaled .colorOffset (.datum "color")

/-- The place at a share of the slot of a row. -/
def slotPlace (table : Table) (share : Number) : Encoding :=
  if table.hasColorGroup then
    .signal (slotStart + .bandwidth .colorOffset * .ofNumber share)
  else .inBand .x "x" share

/-- A share of the width of a slot. -/
def slotWidth (table : Table) (share : Number) : Encoding :=
  if table.hasColorGroup then .signal (.bandwidth .colorOffset * .ofNumber share)
  else .bandShare .x share

/-- The scales of a layer with one slot for each category and color group. -/
def categoryScales (table : Table) (colors : List Scale) (padding : Value) : List Scale :=
  let offsets := if table.hasColorGroup then [table.colorSlotScale] else []
  table.xScale tableSource "x" .scatter true (some padding) :: table.yScale :: colors ++ offsets

end Table

end ChartCompiler
