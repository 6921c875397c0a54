import ChartCompiler.Value.Access

/-!
# Chart options

What the caller asks of the chart as a whole.
-/

namespace ChartCompiler

/-- The title that stands for no title. -/
def untitled : String := "Untitled"

/-- Options of a chart. Titles and sizes are written into the chart document as they are. The seed
of the jitter is any value that a random generator can be seeded with; it is looked at when offsets
are drawn. -/
structure ChartOptions where
  title : Value := .text untitled
  xLabel : Value := .text "x-axis"
  yLabel : Value := .text "y-axis"
  width : Value := .whole 500
  height : Value := .whole 500
  interactive : Value := .bool false
  jitterSeed : Option Value := none

namespace ChartOptions

/-- Whether a title is the one that stands for no title. -/
def isUntitled : Value → Bool
  | .text title | .array _ _ [.text title] => title = untitled
  | _ => false

/-- Whether there is a title to be shown. -/
def hasTitle (options : ChartOptions) : Except Failure Bool := do
  return (← options.title.truth) && !isUntitled options.title

/-- The title to be shown, if there is one. -/
def shownTitle? (options : ChartOptions) : Except Failure (Option Value) := do
  return if ← options.hasTitle then some options.title else none

end ChartOptions

end ChartCompiler
