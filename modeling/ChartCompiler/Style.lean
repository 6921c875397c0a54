import ChartCompiler.Value.Basic

/-!
# Style

The colors, sizes and distances that layers, scales and legends use. They are written into the chart
document as they are, so whoever sets a style may use any value that the renderer knows; what is
computed with is checked where it is used.
-/

namespace ChartCompiler

/-- The colors that color groups take, one after the other. -/
def standardPalette : List Value :=
  ["#fc4464", "#08bc4d", "#04b0fc", "#ff9500", "#9b59b6", "#e74c3c", "#2ecc71", "#3498db"].map .text

/-- The identifier of the chart document format. -/
def defaultSchema : String := "https://vega.github.io/schema/vega/v5.json"

/-- The distances of the drawing area from the sides of the chart. -/
def standardPadding : Members :=
  [("left", .whole 60), ("right", .whole 20), ("top", .whole 20), ("bottom", .whole 60)]

/-- The styling and layout constants of a chart. -/
structure Style where
  palette : List Value := standardPalette
  defaultFill : Value := .text "#ff4565"
  referenceStroke : Value := .text "#808080"
  neutralColor : Value := .text "#ccc"
  fitStroke : Value := .text "firebrick"
  outlineStroke : Value := .text "black"
  heatLow : Value := .text "#f7f7f7"
  selectedOpacity : Value := .real 0.7
  unselectedOpacity : Value := .real 0.15
  symbolSize : Value := .whole 60
  swarmSymbolSize : Value := .whole 80
  lineWidth : Value := .whole 2
  smoothLineWidth : Value := .whole 3
  jitterPixels : Value := .real 12.0
  schema : Value := .text defaultSchema
  /-- A map, or pairs of a side and a distance. -/
  padding : Value := .map standardPadding
  legendPaddingRight : Value := .whole 120

end ChartCompiler
