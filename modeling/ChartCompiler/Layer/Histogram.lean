import ChartCompiler.Layer.Context
import ChartCompiler.Layer.Parameter

/-!
# Histograms

Counts of rows in bins of x, of x and y together, and of the difference `y - x`.
-/

namespace ChartCompiler.Layer

/-- Counts the rows of each group. -/
def countBy (groupby : List String) : Transform :=
  .aggregate groupby [⟨none, .count, "count"⟩]

/-- The bins of an extent; the rows of a drawn table have one. -/
def binsOf (extent : Option Extent) (count : Int) : Except Failure Bins :=
  match extent with
  | some extent => extent.bins count
  | none => .error .unusableValue

/-- The bars over the bins of x; color groups are stacked inside each bin. -/
def histogramDrawing (table : Table) (style : Style) (colors : List Scale) (bins : Bins) :
    Drawing :=
  let grouped := table.hasColorGroup
  let height := if grouped then "y1" else "count"
  let base : Encoding := if grouped then .field .y "y0" else .place .y 0
  { graphics := [.mark
      { name := some "histogram"
        type := .rect
        source := some "binned"
        enter := [(.x, .field .x "x0"), (.x2, .field .x "x1"),
          (.fill, table.fillColor style), (.y, .field .y height), (.y2, base)] }]
    scales := table.xScale tableSource "x" .reference
      :: Table.yScaleOf "binned" height true :: colors
    pipelines := [⟨"binned", tableSource,
      [.bin "x" bins ["x0", "x1"], countBy (table.groupedBy ["x0", "x1"])]
        ++ if grouped then [.stack ["x0"] "count" "color" "y0" "y1"] else []⟩]
    axes := standardAxes }

/-- A histogram of x. -/
def histogram (table : Table) (context : LayerContext) (parameters : Members) : Run Drawing := do
  match table.numericObstacle? "histogram" true false with
  | some obstacle => return .empty obstacle
  | none => do
      let bins ← binsOf table.xExtent (← parameters.wholeParameter "nbins" 30)
      return histogramDrawing table context.style (← table.groupColorScale context.style) bins

/-- The scale that colors cells by their count. -/
def heatScale (style : Style) : Scale :=
  { name := ScaleName.heat.text
    kind := .continuous
    domain := .field "binned2d" "count" false
    range := .colors [style.heatLow, style.defaultFill]
    zero := some (.bool true) }

/-- The cells over the bins of x and y. -/
def heatmapDrawing (table : Table) (style : Style) (xBins yBins : Bins) : Drawing :=
  { graphics := [.mark
      { name := some "heatmap"
        type := .rect
        source := some "binned2d"
        enter := [(.x, .field .x "x0"), (.x2, .field .x "x1"), (.y, .field .y "y1"),
          (.y2, .field .y "y0"), (.fill, .field .heat "count")] }]
    scales := [table.xScale tableSource "x" .reference, table.yScale, heatScale style]
    pipelines := [⟨"binned2d", tableSource,
      [.bin "x" xBins ["x0", "x1"], .bin "y" yBins ["y0", "y1"],
        countBy ["x0", "x1", "y0", "y1"]]⟩]
    axes := standardAxes }

/-- The counts of cells of x and y, by the color of the cell. -/
def heatmap (table : Table) (context : LayerContext) (parameters : Members) : Run Drawing := do
  match table.numericObstacle? "2d histogram" with
  | some obstacle => return .empty obstacle
  | none => do
      let count ← parameters.wholeParameter "nbins" 20
      let xBins ← binsOf table.xExtent count
      let yBins ← binsOf table.yExtent count
      return heatmapDrawing table context.style xBins yBins

/-! ## Corner histograms -/

/-- The share of the drawing area that a corner histogram takes in each direction. -/
def cornerShare : Binary64 := 0.35

/-- The extent of a corner histogram. -/
def cornerExtent (dimension : Dimension) : Expr := .extent dimension * .number cornerShare

/-- The scales of a corner histogram: the difference from left to right, counts upwards. -/
def cornerScales : List GroupScale :=
  [{ scale :=
      { name := ScaleName.cornerX.text
        kind := .continuous
        domain := .fields "cornerhist" ["d0", "d1"]
        range := .upTo (cornerExtent .width)
        zero := some (.bool true) } },
    { scale :=
      { name := ScaleName.cornerY.text
        kind := .continuous
        domain := .field "cornerhist" "count" false
        range := .downFrom (cornerExtent .height)
        zero := some (.bool true)
        nice := some (.bool true) } }]

/-- The bars of a corner histogram. -/
def cornerBars (style : Style) : Mark :=
  { name := some "corner_bars"
    type := .rect
    source := some "cornerhist"
    enter := [(.x, .field .cornerX "d0"), (.x2, .field .cornerX "d1"),
      (.y, .field .cornerY "count"), (.y2, .place .cornerY 0), (.fill, .constant style.defaultFill),
      (.fillOpacity, .number (.real 0.7))] }

/-- The rule at the difference zero. -/
def cornerZero (style : Style) : Mark :=
  { type := .rule
    enter := [(.x, .place .cornerX 0), (.y, .number (.whole 0)),
      (.y2, .signal (cornerExtent .height)), (.stroke, .constant style.referenceStroke),
      (.strokeDash, .constant (.list [.whole 3, .whole 3]))] }

/-- The frame of a corner histogram, with what it shows. -/
def cornerInset (style : Style) : Group :=
  { name := "corner_hist"
    enter := [(.x, .signal (.extent .width - cornerExtent .width)), (.y, .number (.whole 0)),
      (.width, .signal (cornerExtent .width)), (.height, .signal (cornerExtent .height)),
      (.fill, .text "white"), (.stroke, .text "#ddd")]
    scales := cornerScales
    axes := [
      { side := .bottom
        scale := .cornerX
        title := some "y - x"
        styling := [("labelFontSize", .whole 8), ("tickCount", .whole 3)] }]
    marks := [cornerBars style, cornerZero style] }

/-- The corner histogram over the bins of the difference. -/
def cornerDrawing (table : Table) (style : Style) (colors : List Scale) (bins : Bins) : Drawing :=
  { graphics := [.group (cornerInset style)]
    scales := table.placeScales colors
    pipelines := [⟨"cornerhist", tableSource,
      [.formula (.datum "y" - .datum "x") "diff", .bin "diff" bins ["d0", "d1"],
        countBy ["d0", "d1"]]⟩]
    axes := standardAxes }

/-- A histogram of `y - x` in the upper right corner. -/
def cornerHistogram (table : Table) (context : LayerContext) (parameters : Members) :
    Run Drawing := do
  match table.numericObstacle? "corner histogram" with
  | some obstacle => return .empty obstacle
  | none => do
      let bins ← binsOf table.differenceExtent (← parameters.wholeParameter "nbins" 20)
      return cornerDrawing table context.style (← table.groupColorScale context.style) bins

end ChartCompiler.Layer
