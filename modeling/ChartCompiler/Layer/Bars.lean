import ChartCompiler.Layer.Context

/-!
# Bars

A bar for each row, from zero to its y value. Bars of several color groups stand side by side
inside the band of their category.
-/

namespace ChartCompiler.Layer

/-- The data source of the bars inside one band. -/
def barFacet : String := "facet"

/-- The height and color of a bar. -/
def barChannels (table : Table) (style : Style) : Channels :=
  [(.y, .field .y "y"), (.y2, .place .y 0), (.fill, table.fillColor style)]

/-- One bar for each row. -/
def plainBars (table : Table) (style : Style) : Graphic :=
  .mark
    { name := some "bars"
      type := .rect
      source := some tableSource
      enter := barChannels table style
        ++ [(.x, .field .x "x"), (.width, .bandShare .x (.whole 1))] }

/-- The bars of each band side by side, one for each color. -/
def groupedBars (table : Table) (style : Style) : Graphic :=
  .group
    { name := "barGroups"
      facet := some
        { name := barFacet, source := tableSource, groupby := ["x"], sourceFirst := true }
      enter := [(.x, .field .x "x")]
      signals := [(Dimension.width.name, .bandwidth .x)]
      scales := [
        { scale :=
            { name := ScaleName.barPosition.text
              kind := .banded
              domain := .field barFacet "color" false
              range := .extent .width }
          rangeFirst := true }]
      marks := [
        { name := some "bars"
          type := .rect
          source := some barFacet
          enter := barChannels table style
            ++ [(.x, .field .barPosition "color"),
              (.width, .bandShare .barPosition (.whole 1))] }] }

/-- The scales of bars. -/
def barScales (table : Table) (colors : List Scale) : List Scale :=
  table.xScale tableSource "x" .scatter true (some Scale.widePadding)
    :: { table.yScale with rounded := some (.bool true) } :: colors

/-- The bars with their scales and axes. -/
def barsDrawing (table : Table) (style : Style) (colors : List Scale) : Drawing :=
  { graphics := [
      if table.hasColorGroup then groupedBars table style else plainBars table style]
    scales := barScales table colors
    axes := [
      { side := .bottom
        scale := .x
        styling := [("tickSize", .whole 0), ("labelPadding", .whole 4), ("zindex", .whole 1)] },
      { side := .left, scale := .y }] }

/-- The bars of the rows. -/
def bars (table : Table) (context : LayerContext) : Run Drawing := do
  if table.isEmpty then return .empty "bar layer has no rows to draw"
  if !table.yIsNumeric then return .empty "bar layer needs a numeric y field"
  return barsDrawing table context.style (← table.groupColorScale context.style)

end ChartCompiler.Layer
