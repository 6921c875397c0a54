import ChartCompiler.Scale.Basic

/-!
# Axes

An axis shows a scale at one side of the drawing area. Its title, if it has none of its own, is
given by the chart.
-/

namespace ChartCompiler

/-- The sides at which layers ask for axes. -/
inductive Side where
  | bottom
  | left
  deriving DecidableEq

def Side.name : Side → String
  | .bottom => "bottom"
  | .left => "left"

/-- An axis as a member of a chart document. -/
def axisMembers (side scale : Value) (title : Option Value) (styling : Members) : Members :=
  Members.update ([("orient", side), ("scale", scale)] ++ Members.optional "title" title) styling

structure Axis where
  side : Side
  scale : ScaleName
  title : Option String := none
  styling : Members := []

def Axis.toMembers (axis : Axis) : Members :=
  axisMembers (.text axis.side.name) (.text axis.scale.text) (axis.title.map .text) axis.styling

/-- The two axes of most layers. -/
def standardAxes (xStyling yStyling : Members := []) : List Axis :=
  [{ side := .bottom, scale := .x, styling := xStyling },
    { side := .left, scale := .y, styling := yStyling }]

end ChartCompiler
