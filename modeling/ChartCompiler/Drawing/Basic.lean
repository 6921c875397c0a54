import ChartCompiler.Drawing.Fragment
import ChartCompiler.Drawing.Mark
import ChartCompiler.Drawing.Transform

/-!
# Drawings

The drawing of one layer: its marks, the scales and axes they need, and the data sources they read
besides the table. `Drawing.toFragment` brings it into the form of the chart document.
-/

namespace ChartCompiler

/-- A data source computed from another one, step by step. -/
structure Pipeline where
  name : String
  source : String
  steps : List Transform

def Pipeline.toSource (pipeline : Pipeline) : DataSource :=
  .derived pipeline.name pipeline.source (pipeline.steps.map Transform.toMembers)

/-- A data source with rows of its own. -/
structure InlineRows where
  name : String
  rows : List Members

def InlineRows.toSource (inline : InlineRows) : DataSource := .inline inline.name inline.rows

/-- What a layer draws, and what it needs for that. -/
structure Drawing where
  graphics : List Graphic
  scales : List Scale := []
  pipelines : List Pipeline := []
  inline : List InlineRows := []
  axes : List Axis := []
  note : Option String := none

namespace Drawing

/-- The drawing of a layer that cannot be drawn. -/
def empty (note : String) : Drawing := { graphics := [], note := some note }

def isEmpty (drawing : Drawing) : Bool := drawing.graphics.isEmpty

/-- The drawing as part of a chart document. -/
def toFragment (drawing : Drawing) : Fragment :=
  { marks := drawing.graphics.map fun graphic => .map graphic.toMembers
    scales := drawing.scales
    derived := drawing.pipelines.map Pipeline.toSource
    inline := drawing.inline.map InlineRows.toSource
    axes := drawing.axes.map fun axis => .map axis.toMembers
    note := drawing.note }

end Drawing

end ChartCompiler
