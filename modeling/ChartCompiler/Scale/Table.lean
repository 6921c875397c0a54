import ChartCompiler.Failure
import ChartCompiler.Scale.Basic
import ChartCompiler.Style
import ChartCompiler.Table.Basic

/-!
# Scales over a table

The scales that most layers declare: x and y by the kind of their field, one color for each color
group. A continuous y scale includes zero and ends at round numbers.
-/

namespace ChartCompiler

/-- The data source that holds the rows of the table. -/
def tableSource : String := "table"

/-- How a layer uses a continuous x axis: scattered points keep a distance from the axis. -/
inductive AxisRole where
  | scatter
  | reference
  deriving DecidableEq

def AxisRole.ofText? : String → Option AxisRole
  | "scatter" => some .scatter
  | "reference" => some .reference
  | _ => none

/-- The share of the extent by which scattered points keep away from the axis. -/
def scatterPadding : Binary64 := 0.05

namespace Extent

/-- The start of an x axis that keeps a distance from the least value. -/
def paddedStart? (extent : Extent) : Option Binary64 :=
  if extent.least.lessThan extent.greatest then
    some (extent.least - scatterPadding * (extent.greatest - extent.least))
  else none

end Extent

namespace Table

/-- The x scale of a layer: banded for a categorical field, or if the layer needs bands. -/
def xScale (table : Table) (source : String := tableSource) (field : String := "x")
    (role : AxisRole := .scatter) (forceBand : Bool := false)
    (bandPadding : Option Value := some Scale.tightPadding) : Scale :=
  if forceBand || !table.xIsNumeric then .banded ScaleName.x.text source field bandPadding
  else
    { name := ScaleName.x.text
      kind := .continuous
      domain := .field source field false
      range := .extent .width
      domainMin :=
        if role = .scatter then (table.xExtent.bind Extent.paddedStart?).map .real else none }

/-- A y scale over a field of a data source. -/
def yScaleOf (source field : String) (continuous : Bool)
    (bandPadding : Option Value := some Scale.tightPadding) : Scale :=
  if continuous then
    { name := ScaleName.y.text
      kind := .continuous
      domain := .field source field false
      range := .extent .height
      zero := some (.bool true)
      nice := some (.bool true) }
  else .banded ScaleName.y.text source field bandPadding (.extent .height)

/-- The y scale of a layer, by the kind of the y field. -/
def yScale (table : Table) (source : String := tableSource) (field : String := "y") : Scale :=
  yScaleOf source field table.yIsNumeric

/-- The first colors of the palette, which starts again at its end. -/
def paletteColors (palette : List Value) (count : Nat) : Except Failure (List Value) :=
  if palette.isEmpty && 0 < count then .error .zeroDivisor
  else .ok ((List.range count).map fun place => palette.getD (place % palette.length) .null)

/-- The color scale, one color for each color group. -/
def colorScale (table : Table) (style : Style) : Except Failure Scale := do
  let colors ← paletteColors style.palette table.colorDomain.length
  return {
    name := ScaleName.color.text
    kind := .ordinal
    domain := .labels table.colorDomain
    range := .colors colors }

/-- The color scale of a table with color groups; no scale without groups. -/
def groupColorScale (table : Table) (style : Style) : Except Failure (List Scale) :=
  if table.hasColorGroup then do return [← table.colorScale style] else .ok []

/-- The scale that puts color groups side by side inside one x band. -/
def colorSlotScale (table : Table) : Scale :=
  { name := ScaleName.colorOffset.text
    kind := .banded
    domain := .labels table.colorDomain
    range := .signal (.pair (.whole 0) (.bandwidth .x))
    padding := some Scale.tightPadding }

/-- The scales of a layer that places its marks by x and y, before those of its colors. -/
def placeScales (table : Table) (colors : List Scale) (role : AxisRole := .scatter)
    (forceBand : Bool := false) (source : String := tableSource) : List Scale :=
  table.xScale source "x" role forceBand :: table.yScale source :: colors

/-- The scales of a layer that places its marks by x and y. -/
def layerScales (table : Table) (style : Style) (source : String := tableSource)
    (role : AxisRole := .scatter) (forceBand : Bool := false) : Except Failure (List Scale) := do
  return table.placeScales (← table.groupColorScale style) role forceBand source

end Table

end ChartCompiler
