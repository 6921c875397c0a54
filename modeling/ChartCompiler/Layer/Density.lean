import ChartCompiler.Layer.Categories
import ChartCompiler.Layer.Parameter

/-!
# Densities

Smooth estimates of how x is distributed, and of how y is distributed in each category.
-/

namespace ChartCompiler.Layer

/-- The extent of some data, of positive width; the rows of a drawn table have one. -/
def densityExtent (extent : Option Extent) : Except Failure Extent :=
  match extent with
  | some extent => .ok extent.withWidth
  | none => .error .unusableValue

/-- The curves of an estimate of the density of x. -/
def densityDrawing (table : Table) (style : Style) (colors : List Scale) (bandwidth : Binary64)
    (steps : Int) (extent : Extent) : Drawing :=
  { graphics := [table.curve "density" "density_curves" (table.fillColor style)
      style.lineWidth "value" "density"]
    scales := table.xScale tableSource "x" .reference
      :: Table.yScaleOf "density" "density" true :: colors
    pipelines := [⟨"density", tableSource,
      [.density "x" bandwidth steps extent (table.groupedBy [])]⟩]
    axes := standardAxes }

/-- The density of x, one curve for each color group. -/
def density (table : Table) (context : LayerContext) (parameters : Members) : Run Drawing := do
  match table.numericObstacle? "density" true false with
  | some obstacle => return .empty obstacle
  | none => do
      let extent ← densityExtent table.xExtent
      let bandwidth ← parameters.realParameter "bandwidth" 0.4
      let steps ← parameters.wholeParameter "steps" 100 2
      let colors ← table.groupColorScale context.style
      return densityDrawing table context.style colors bandwidth steps extent

/-! ## Violins -/

/-- The data source of the densities of all violins. -/
def violinSource : String := "violin_density"

/-- The data source of one violin. -/
def violinFacet : String := "violin"

/-- The scale that gives the density of a violin half of the width of its slot, less a margin. -/
def violinScale (slot : ScaleName) : Scale :=
  { name := ScaleName.violinWidth.text
    kind := .continuous
    domain := .field violinSource "density" false
    range := .upTo (.bandwidth slot * .number 0.4) }

/-- One half of a violin, to the left or right of the middle of its slot. -/
def violinSide (slot : ScaleName) (fill : Encoding) (side : Operator) : Mark :=
  let middle : Expr := .bandwidth slot / .whole 2
  { type := .area
    source := some violinFacet
    enter := [(.orient, .text "horizontal"), (.fill, fill), (.fillOpacity, .number (.real 0.7))]
    update := [(.y, .field .y "value"), (.x, .signal middle),
      (.x2, .signal (.binary side middle (.scaled .violinWidth (.datum "density"))))] }

/-- The violins, one for each category and color group. -/
def violinGroup (table : Table) (style : Style) : Group :=
  let slot := table.slotScale
  let fill := table.fillColor style
  { name := "violins"
    facet := some
      { name := violinFacet, source := violinSource, groupby := table.groupedBy ["x"] }
    update := [(.x,
      if table.hasColorGroup then .signal Table.slotStart else .field .x "x")]
    marks := [violinSide slot fill .plus, violinSide slot fill .minus] }

/-- The violins over estimates of the density of y. -/
def violinDrawing (table : Table) (style : Style) (colors : List Scale) (bandwidth : Binary64)
    (steps : Int) (extent : Extent) : Drawing :=
  { graphics := [.group (violinGroup table style)]
    scales := table.categoryScales colors Scale.tightPadding ++ [violinScale table.slotScale]
    pipelines := [⟨violinSource, tableSource,
      [.groupDensity (table.groupedBy ["x"]) "y" bandwidth steps extent]⟩]
    axes := [
      { side := .bottom, scale := .x },
      { side := .left, scale := .y, styling := [("grid", .bool true)] }] }

/-- The density of y in each category, drawn to both sides of the middle of the band. -/
def violin (table : Table) (context : LayerContext) (parameters : Members) : Run Drawing := do
  match table.numericObstacle? "violin" false true with
  | some obstacle => return .empty obstacle
  | none => do
      let extent ← densityExtent table.yExtent
      let bandwidth ← parameters.realParameter "bandwidth" 0.7
      let steps ← parameters.wholeParameter "steps" 100 2
      let colors ← table.groupColorScale context.style
      return violinDrawing table context.style colors bandwidth steps extent

end ChartCompiler.Layer
