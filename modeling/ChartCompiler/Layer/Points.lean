import ChartCompiler.Layer.Context
import ChartCompiler.Layer.Parameter
import ChartCompiler.Random.Uniform

/-!
# Points

Layers of symbols, one for each row: at its place, or displaced sideways by a random offset.
-/

namespace ChartCompiler.Layer

/-- The symbols of the rows. -/
def pointMark (table : Table) (style : Style) (name : String) : Mark :=
  { name := some name
    type := .symbol
    source := some tableSource
    enter := (.x, table.xPosition) :: table.symbolChannels style style.symbolSize }

/-- The symbols of the rows as a drawing of their own. -/
def pointsDrawing (table : Table) (style : Style) (colors : List Scale) (name : String)
    (note : Option String := none) : Drawing :=
  { graphics := [.mark (pointMark table style name)]
    scales := table.placeScales colors
    axes := standardAxes
    note }

/-- A symbol for each row. -/
def points (table : Table) (context : LayerContext) : Run Drawing := do
  if table.isEmpty then return .empty "point layer has no rows to draw"
  return pointsDrawing table context.style (← table.groupColorScale context.style) "points"

/-- How a layer displaces its symbols. -/
structure Displacement where
  markName : String
  /-- The data source for offsets that are drawn in advance. -/
  seededSource : String
  /-- Whether offsets are shares of the band of the x scale. -/
  banded : Bool
  size : Value
  axisStyling : Members := []

namespace Displacement

/-- The share of a band over which symbols spread. -/
def defaultWidth : Binary64 := 0.8

/-- The place that symbols are displaced from. -/
def base (displacement : Displacement) : Expr :=
  let place := Expr.scaled .x (.datum "x")
  if displacement.banded then place + .bandwidth .x / .whole 2 else place

/-- An offset that the renderer draws. -/
def renderedOffset (displacement : Displacement) (width : Binary64) (pixels : Value) :
    Except Failure Expr := do
  let centered := Expr.random - .number 0.5
  if displacement.banded then return centered * .bandwidth .x * .number width
  else return centered * .number (← pixels.toReal)

/-- An offset that the rows carry. -/
def carriedOffset (displacement : Displacement) : Expr :=
  if displacement.banded then .datum "jitter" * .bandwidth .x else .datum "jitter"

/-- The rows with the offsets that a seed gives. -/
def seededRows (displacement : Displacement) (table : Table) (seed spread : Value) :
    Except Failure InlineRows := do
  let offsets ← Random.offsets seed table.rows.length spread
  return {
    name := displacement.seededSource
    rows := (table.records.zip offsets).map fun (record, offset) =>
      record ++ [("jitter", .real offset)] }

/-- The source of the symbols, the rows it holds and the offset of a row. -/
def offsetOf (displacement : Displacement) (table : Table) (context : LayerContext)
    (width : Binary64) : Except Failure (String × List InlineRows × Expr) := do
  match context.jitterSeed with
  | none =>
      return (tableSource, [], ← displacement.renderedOffset width context.style.jitterPixels)
  | some seed => do
      let spread := if displacement.banded then .real width else context.style.jitterPixels
      let rows ← displacement.seededRows table seed spread
      return (rows.name, [rows], displacement.carriedOffset)

/-- Symbols of a data source, displaced by an offset. -/
def drawing (displacement : Displacement) (table : Table) (style : Style) (colors : List Scale)
    (source : String) (inline : List InlineRows) (offset : Expr) : Drawing :=
  { graphics := [.mark
      { name := some displacement.markName
        type := .symbol
        source := some source
        enter := table.symbolChannels style displacement.size
        update := [(.x, .signal (displacement.base + offset))] }]
    scales := table.placeScales colors .scatter displacement.banded
    inline
    axes := standardAxes displacement.axisStyling }

/-- Symbols displaced by random offsets. -/
def draw (displacement : Displacement) (table : Table) (context : LayerContext)
    (parameters : Members) : Run Drawing := do
  let width ← parameters.realParameter "width" defaultWidth
  let (source, inline, offset) ← displacement.offsetOf table context width
  let colors ← table.groupColorScale context.style
  return displacement.drawing table context.style colors source inline offset

end Displacement

/-- Displacement over the band of a category, or by some pixels on a continuous axis. -/
def jitterDisplacement (table : Table) (style : Style) : Displacement :=
  { markName := "jitteredPoints"
    seededSource := "jittered"
    banded := !table.xIsNumeric
    size := style.symbolSize }

/-- Symbols spread over the band of their category, or by some pixels on a continuous axis. -/
def jitter (table : Table) (context : LayerContext) (parameters : Members) : Run Drawing :=
  if table.isEmpty then return .empty "jitter layer has no rows to draw"
  else (jitterDisplacement table context.style).draw table context parameters

/-- Displacement over the band of a category, whatever the kind of x. -/
def swarmDisplacement (style : Style) : Displacement :=
  { markName := "swarmPoints"
    seededSource := "swarmed"
    banded := true
    size := style.swarmSymbolSize
    axisStyling := [("labelAngle", .whole 0), ("labelFontSize", .whole 12)] }

/-- Symbols spread over the band of their category. -/
def swarm (table : Table) (context : LayerContext) (parameters : Members) : Run Drawing :=
  if table.isEmpty then return .empty "swarm layer has no rows to draw"
  else (swarmDisplacement context.style).draw table context parameters

end ChartCompiler.Layer
