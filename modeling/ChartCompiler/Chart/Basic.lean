import ChartCompiler.Drawing.Fragment

/-!
# Charts

A chart as a whole: its frame, the data sources, scales, axes and marks of all layers, and the
legend with its signals. `Chart.toMembers` is the document that is written to a file.
-/

namespace ChartCompiler

structure Chart where
  schema : Value := .text ""
  width : Value := .whole 500
  height : Value := .whole 500
  padding : Members := []
  title : Option Value := none
  signals : List Value := []
  data : List Value := []
  scales : List Scale := []
  axes : List Value := []
  marks : List Value := []
  legends : List Value := []
  /-- The color groups of the rows; they are no part of the document. -/
  colorDomain : List String := []

namespace Chart

/-- The first scale with a name. -/
def scale? (chart : Chart) (name : String) : Option Scale :=
  chart.scales.find? fun scale => scale.name = name

def hasColorScale (chart : Chart) : Bool := (chart.scale? ScaleName.color.text).isSome

/-- The title as a member, unless it counts as false. -/
def titleMember (chart : Chart) : Members :=
  match chart.title with
  | some title => if title.isTruthy then [("title", title)] else []
  | none => []

/-- A member with a list, if the list has items. -/
def listMember (name : String) (items : List Value) : Members :=
  if items.isEmpty then [] else [(name, .list items)]

/-- The document of a chart. -/
def toMembers (chart : Chart) : Members :=
  [("$schema", chart.schema), ("width", chart.width), ("height", chart.height),
    ("padding", .map chart.padding),
    ("autosize", .text "none")]
    ++ chart.titleMember
    ++ listMember "signals" chart.signals
    ++ [("data", .list chart.data),
      ("scales", .list (chart.scales.map fun scale => .map scale.toMembers)),
      ("axes", .list chart.axes), ("marks", .list chart.marks)]
    ++ listMember "legends" chart.legends

end Chart

end ChartCompiler
