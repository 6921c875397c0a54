import ChartCompiler.Axis
import ChartCompiler.Chart.Basic
import ChartCompiler.Chart.Document
import ChartCompiler.Chart.References
import ChartCompiler.Log.Basic
import ChartCompiler.Options
import ChartCompiler.Scale.Table

/-!
# Assembly of a chart

The fragments of the layers become one chart. Marks follow each other in the order of the layers.
Of several declarations of a scale, a data source or an axis the first one counts; a later one that
differs in a way that matters is reported.
-/

namespace ChartCompiler

namespace Assembly

/-! ## Scales -/

/-- What is told about a scale that was declared as another kind before. -/
def scaleConflict (kept scale : Scale) : Diagnostic :=
  let name := scale.name
  let asked := scale.kind.text
  let declared := kept.kind.text
  { kind := "scale-conflict"
    message := s!"Scale '{name}' requested as {asked} but already declared as {declared}; "
      ++ "keeping the first declaration" }

/-- Adds a declaration to those that are kept. -/
def addScale (state : List Scale × List Diagnostic) (scale : Scale) :
    List Scale × List Diagnostic :=
  let (kept, notes) := state
  match kept.find? fun other => other.name = scale.name with
  | none => (kept ++ [scale], notes)
  | some first =>
      if first.agreesWith scale then (kept, notes)
      else (kept, notes ++ [scaleConflict first scale])

/-- The first declaration of each scale, and the conflicts with it. -/
def firstScales (scales : List Scale) : List Scale × List Diagnostic :=
  scales.foldl addScale ([], [])

/-! ## Data sources -/

/-- What is told about a data source that was declared with other rows before. -/
def sourceConflict (source : DataSource) : Diagnostic :=
  let name := source.name
  { kind := "source-conflict"
    message := s!"Data source '{name}' declared twice with different content; keeping the first" }

/-- Whether two declarations of a data source have the same content. -/
def sameContent (left right : DataSource) : Bool :=
  (Value.map left.toMembers).equals (.map right.toMembers)

/-- Adds a declaration to those that are kept. The name of the table is taken. -/
def addSource (state : List DataSource × List Diagnostic) (source : DataSource) :
    List DataSource × List Diagnostic :=
  let (kept, notes) := state
  if source.name = tableSource then (kept, notes ++ [sourceConflict source])
  else
    match kept.find? fun other => other.name = source.name with
    | none => (kept ++ [source], notes)
    | some first =>
        if sameContent first source then (kept, notes)
        else (kept, notes ++ [sourceConflict source])

/-- The first declaration of each data source, and the conflicts with it. -/
def firstSources (sources : List DataSource) : List DataSource × List Diagnostic :=
  sources.foldl addSource ([], [])

/-- The data sources of a fragment: its own rows first. -/
def sourcesOf (fragment : Fragment) : List DataSource := fragment.inline ++ fragment.derived

/-! ## Axes -/

/-- The side of an axis; it must be stated. -/
def sideOf (axis : Value) : Except Failure Value := do
  let side ← axis.memberOf "orient"
  if side.isKey then return side else .error .unsupportedKind

/-- Adds an axis to those that are kept, unless its side has one. -/
def addAxis (kept : List (Value × Members)) (axis : Value) :
    Except Failure (List (Value × Members)) := do
  let side ← sideOf axis
  let members ← axis.membersOf
  return if kept.any fun other => other.1.equals side then kept else kept ++ [(side, members)]

/-- An axis with the title that the chart gives to its side. -/
def withTitle (options : ChartOptions) (axis : Value × Members) : Value :=
  match axis.1 with
  | .text side =>
      if side = Side.bottom.name then .map (axis.2.set "title" options.xLabel)
      else if side = Side.left.name then .map (axis.2.set "title" options.yLabel)
      else .map axis.2
  | _ => .map axis.2

/-- The first axis of each side, with the titles of the chart. -/
def firstAxes (axes : List Value) (options : ChartOptions) : Except Failure (List Value) := do
  return (← axes.foldlM addAxis []).map (withTitle options)

/-- Writes the messages of diagnostics to the log. -/
def report : List Diagnostic → Run Unit
  | [] => return ()
  | note :: rest => do
      Run.warn .assembly note.message
      report rest

/-- The rows of the table as a data source. -/
def tableRows (table : Table) : DataSource := .inline tableSource table.records

/-- Tells the log what a chart consists of. -/
def reportChart (chart : Chart) (layers : Nat) : Run Unit := do
  let marks := chart.marks.length
  let scales := chart.scales.length
  let sources := chart.data.length
  Run.info .assembly (s!"Assembled {marks} mark(s), {scales} scale(s), {sources} data source(s) "
    ++ s!"from {layers} layer(s)")

end Assembly

open Assembly in
/-- Joins fragments into a chart and checks its references to scales. -/
def Chart.assemble (fragments : List Fragment) (table : Table) (options : ChartOptions)
    (style : Style) : Run (Chart × List Diagnostic) := do
  let drawn := fragments.filter fun fragment => !fragment.isEmpty
  let padding ← style.padding.documentMembers
  let (sources, sourceNotes) := firstSources (drawn.flatMap sourcesOf)
  report sourceNotes
  let (scales, scaleNotes) := firstScales (drawn.flatMap (·.scales))
  report scaleNotes
  let axes ← firstAxes (drawn.flatMap (·.axes)) options
  let title ← options.shownTitle?
  let chart : Chart :=
    { schema := style.schema
      width := options.width
      height := options.height
      padding
      title
      data := (tableRows table :: sources).map fun source => .map source.toMembers
      scales
      axes
      marks := drawn.flatMap (·.marks)
      colorDomain := table.colorDomain }
  References.check chart.toMembers
  reportChart chart fragments.length
  return (chart, sourceNotes ++ scaleNotes)

end ChartCompiler
