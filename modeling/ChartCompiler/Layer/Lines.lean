import ChartCompiler.Layer.Context
import ChartCompiler.Layer.Parameter

/-!
# Lines and reference lines

Lines through the rows, ticks and rules at single values, and straight lines and shapes whose
numbers are parameters of the layer.
-/

namespace ChartCompiler.Layer

/-- The line through some rows in the order of x. -/
def lineMark (table : Table) (style : Style) : Mark :=
  { type := .line
    sort := some (.datum "x")
    enter := [(.x, table.xPosition), (.y, table.yPosition),
      (.strokeWidth, .constant style.lineWidth), (.stroke, table.fillColor style)] }

/-- The lines through the rows. -/
def lineDrawing (table : Table) (style : Style) (colors : List Scale) : Drawing :=
  { graphics := [table.linePerGroup tableSource (lineMark table style) "lines" "series"]
    scales := table.placeScales colors .reference
    axes := standardAxes }

/-- A line through the rows in the order of x, one for each color group. -/
def line (table : Table) (context : LayerContext) : Run Drawing := do
  if table.isEmpty then return .empty "line layer has no rows to draw"
  return lineDrawing table context.style (← table.groupColorScale context.style)

/-- The ticks at the x values of the rows. -/
def rasterDrawing (table : Table) (style : Style) (colors : List Scale) : Drawing :=
  { graphics := [.mark
      { name := some "ticks"
        type := .rect
        source := some tableSource
        enter := [(.x, table.xPosition), (.width, .number (.whole 2)), (.y, .number (.whole 0)),
          (.height, .signal (.extent .height)), (.fill, table.fillColor style)] }]
    scales := table.xScale tableSource "x" .reference :: colors
    axes := [{ side := .bottom, scale := .x }] }

/-- A tick of full height at each x value; the layer needs no y scale. -/
def raster (table : Table) (context : LayerContext) : Run Drawing := do
  if table.isEmpty then return .empty "raster layer has no rows to draw"
  return rasterDrawing table context.style (← table.groupColorScale context.style)

/-- The y scale of intervals, which covers their bounds, too. -/
def intervalScale (table : Table) : Scale :=
  { table.yScale with domain := .fields tableSource ["y", "ymin", "ymax"] }

/-- The bars between the bounds of the rows. -/
def intervalDrawing (table : Table) (style : Style) (colors : List Scale) : Drawing :=
  { graphics := [.mark
      { name := some "errorbars"
        type := .rule
        source := some tableSource
        enter := [(.x, table.xPosition), (.y, .field .y "ymin"), (.y2, .field .y "ymax"),
          (.strokeWidth, .constant style.lineWidth), (.stroke, table.fillColor style)] }]
    scales := table.xScale :: intervalScale table :: colors
    axes := standardAxes }

/-- The bars of an interval at each x value. -/
def interval (table : Table) (context : LayerContext) : Run Drawing := do
  if table.isEmpty then return .empty "interval layer has no rows to draw"
  if !table.hasInterval then
    return .empty "interval layer needs numeric ymin and ymax bindings"
  return intervalDrawing table context.style (← table.groupColorScale context.style)

/-- The dashed stroke of reference lines. -/
def referenceChannels (style : Style) (width : Value) (dash : Int) : Channels :=
  [(.stroke, .constant style.referenceStroke), (.strokeWidth, .constant width),
    (.strokeDash, .constant (.list [.whole dash, .whole dash]))]

/-- The data source of the two ends of a line. -/
def ablineSource : String := "abline_points"

/-- The ends of the line `y = intercept + slope * x` over an extent of x. -/
def ablineRows (extent : Extent) (slope intercept : Binary64) : List Members :=
  [extent.least, extent.greatest].map fun x =>
    [("x", .real x), ("y", .real (intercept + slope * x))]

/-- The line between two ends. -/
def ablineDrawing (table : Table) (style : Style) (colors : List Scale) (rows : List Members) :
    Drawing :=
  { graphics := [.mark
      { name := some "abline"
        type := .line
        source := some ablineSource
        clipped := true
        enter := (.x, .field .x "x") :: (.y, .field .y "y")
          :: referenceChannels style style.lineWidth 5 }]
    scales := table.placeScales colors .reference
    inline := [⟨ablineSource, rows⟩]
    axes := standardAxes }

/-- The line `y = intercept + slope * x` across the extent of x. -/
def abline (table : Table) (context : LayerContext) (parameters : Members) : Run Drawing := do
  match table.xExtent with
  | none => return .empty "abline layer needs a numeric x field"
  | some extent => do
      let slope ← parameters.realParameter "slope" 1.0
      let intercept ← parameters.realParameter "intercept" 0.0
      let colors ← table.groupColorScale context.style
      return ablineDrawing table context.style colors (ablineRows extent slope intercept)

/-- A layer of rules across the drawing area, at given values or at those of the rows. -/
structure RuleLayer where
  field : String
  parameter : String
  markName : String
  /-- The data source for given values. -/
  valueSource : String
  numeric : Bool
  /-- The place of the rules, banded or not. -/
  channels : Bool → Channels

namespace RuleLayer

/-- Rules at the rows of a source. -/
def drawing (layer : RuleLayer) (style : Style) (source : String) (banded : Bool)
    (scales : List Scale) (inline : List InlineRows) : Drawing :=
  { graphics := [.mark
      { name := some layer.markName
        type := .rule
        source := some source
        enter := layer.channels banded ++ referenceChannels style (.whole 1) 3 }]
    scales
    inline
    axes := standardAxes }

/-- Rules at the places of the rows. -/
def rowRules (layer : RuleLayer) (table : Table) (style : Style) (colors : List Scale) : Drawing :=
  layer.drawing style tableSource (!layer.numeric) (table.placeScales colors .reference) []

/-- Rules at given places. -/
def valueRules (layer : RuleLayer) (table : Table) (style : Style) (colors : List Scale)
    (values : List Binary64) : Drawing :=
  layer.drawing style layer.valueSource false (table.placeScales colors .reference)
    [⟨layer.valueSource, values.map fun value => [(layer.field, .real value)]⟩]

def draw (layer : RuleLayer) (table : Table) (context : LayerContext) (parameters : Members) :
    Run Drawing := do
  let values ← parameters.numberListParameter layer.parameter
  let name := layer.markName
  if values.isEmpty then
    if table.isEmpty then return .empty s!"{name} layer has neither intercepts nor rows"
    let colors ← table.groupColorScale context.style
    return layer.rowRules table context.style colors
  else if !layer.numeric then
    let field := layer.field
    return .empty s!"{name} intercepts need a numeric {field} field"
  else
    let colors ← table.groupColorScale context.style
    return layer.valueRules table context.style colors values

end RuleLayer

/-- Rules across the drawing area at places on the x axis. -/
def verticalRules (table : Table) : RuleLayer :=
  { field := "x"
    parameter := "xintercept"
    markName := "vlines"
    valueSource := "vline_values"
    numeric := table.xIsNumeric
    channels := fun banded => [(.x, .position .x "x" banded), (.y, .number (.whole 0)),
      (.y2, .signal (.extent .height))] }

/-- Vertical rules. -/
def vline (table : Table) (context : LayerContext) (parameters : Members) : Run Drawing :=
  (verticalRules table).draw table context parameters

/-- Rules across the drawing area at places on the y axis. -/
def horizontalRules (table : Table) : RuleLayer :=
  { field := "y"
    parameter := "yintercept"
    markName := "hlines"
    valueSource := "hline_values"
    numeric := table.yIsNumeric
    channels := fun banded => [(.x, .number (.whole 0)), (.x2, .signal (.extent .width)),
      (.y, .position .y "y" banded)] }

/-- Horizontal rules. -/
def hline (table : Table) (context : LayerContext) (parameters : Members) : Run Drawing :=
  (horizontalRules table).draw table context parameters

/-! ## Polygons -/

/-- The data source of the vertices of a polygon. -/
def vertexSource : String := "polygon_vertices"

/-- Scales over the vertices, for a table that has no numeric rows. -/
def vertexScales : List Scale :=
  [{ name := ScaleName.x.text
     kind := .continuous
     domain := .field vertexSource "x" false
     range := .extent .width },
    { name := ScaleName.y.text
      kind := .continuous
      domain := .field vertexSource "y" false
      range := .extent .height
      zero := some (.bool true)
      nice := some (.bool true) }]

/-- The pale fill of polygons. -/
def polygonFill : Channels :=
  [(.fill, .text "#cccccc"), (.fillOpacity, .number (.real 0.3))]

/-- A closed shape over given vertices. -/
def vertexPolygon (style : Style) (scales : List Scale) (xs ys : List Binary64) : Drawing :=
  { graphics := [.mark
      { name := some "polygons"
        type := .line
        source := some vertexSource
        enter := [(.x, .field .x "x"), (.y, .field .y "y"),
          (.interpolate, .text "linear-closed"), (.stroke, .constant style.referenceStroke),
          (.strokeWidth, .number (.whole 1))] ++ polygonFill }]
    scales
    inline := [⟨vertexSource, (xs.zip ys).map fun (x, y) => [("x", .real x), ("y", .real y)]⟩]
    axes := standardAxes }

/-- The area under the rows. -/
def rowPolygon (scales : List Scale) : Drawing :=
  { graphics := [.mark
      { name := some "polygons"
        type := .area
        source := some tableSource
        sort := some (.datum "x")
        enter := [(.x, .field .x "x"), (.y, .field .y "y"), (.y2, .place .y 0)]
          ++ polygonFill }]
    scales
    axes := standardAxes }

/-- A closed shape over given vertices, or the area under the rows. -/
def polygon (table : Table) (context : LayerContext) (parameters : Members) : Run Drawing := do
  let numericRows := !table.isEmpty && table.xIsNumeric && table.yIsNumeric
  let xs ← parameters.numberListParameter "x"
  let ys ← parameters.numberListParameter "y"
  if !xs.isEmpty && !ys.isEmpty then
    if numericRows then
      let colors ← table.groupColorScale context.style
      return vertexPolygon context.style (table.placeScales colors .reference) xs ys
    else return vertexPolygon context.style vertexScales xs ys
  else if !numericRows then
    return .empty "polygon layer needs vertices or numeric x and y fields"
  else
    let colors ← table.groupColorScale context.style
    return rowPolygon (table.placeScales colors .reference)

end ChartCompiler.Layer
