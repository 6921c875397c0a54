import ChartCompiler.Drawing.Basic
import ChartCompiler.Log.Basic
import ChartCompiler.Scale.Table

/-!
# What layers have in common

The circumstances in which a layer is drawn, and the encodings and conditions that many layers
share.
-/

namespace ChartCompiler

/-- What a layer is drawn with, besides the table and its own parameters. -/
structure LayerContext where
  style : Style
  jitterSeed : Option Value := none

namespace Table

/-- A color by color group, or one color for a table without groups. -/
def groupColor (table : Table) (fallback : Value) : Encoding :=
  if table.hasColorGroup then .field .color "color" else .constant fallback

/-- The color of the areas and symbols of a layer. -/
def fillColor (table : Table) (style : Style) : Encoding := table.groupColor style.defaultFill

/-- Grouping fields, with the color group if there is one. -/
def groupedBy (table : Table) (fields : List String) : List String :=
  if table.hasColorGroup then fields ++ ["color"] else fields

/-- The place of a row on the x axis. -/
def xPosition (table : Table) : Encoding := .position .x "x" (!table.xIsNumeric)

/-- The place of a row on the y axis. -/
def yPosition (table : Table) : Encoding := .position .y "y" (!table.yIsNumeric)

/-- The channels of a symbol except for its place on the x axis. -/
def symbolChannels (table : Table) (style : Style) (size : Value) : Channels :=
  [(.y, table.yPosition), (.size, .constant size), (.stroke, .text "white"),
    (.strokeWidth, .number (.whole 1)), (.fill, table.fillColor style)]

/-- Why a statistic of numbers cannot be drawn, if it cannot. -/
def numericObstacle? (table : Table) (layer : String) (needsX needsY : Bool := true) :
    Option String :=
  if table.isEmpty then some s!"{layer} layer has no rows to summarize"
  else
    let missing := (if needsX && !table.xIsNumeric then ["x"] else [])
      ++ (if needsY && !table.yIsNumeric then ["y"] else [])
    if missing.isEmpty then none
    else
      let fields := " and ".intercalate missing
      some s!"{layer} layer needs numeric {fields}"

/-- A line for each color group, or a single one without groups. -/
def linePerGroup (table : Table) (source : String) (line : Mark) (name facet : String) : Graphic :=
  if table.hasColorGroup then
    .group
      { name
        facet := some { name := facet, source, groupby := ["color"] }
        marks := [{ line with source := some facet }] }
  else .mark { line with name := some name, source := some source }

/-- A curve through the points of a data source, in the order of its x field. -/
def curve (table : Table) (source name : String) (stroke : Encoding) (width : Value)
    (xField : String := "x") (yField : String := "y") : Graphic :=
  let line : Mark :=
    { type := .line
      sort := some (.datum xField)
      enter := [(.x, .field .x xField), (.y, .field .y yField), (.stroke, stroke),
        (.strokeWidth, .constant width)] }
  table.linePerGroup source line name (source ++ "_series")

end Table

end ChartCompiler
