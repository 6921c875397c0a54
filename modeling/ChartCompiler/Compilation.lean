import ChartCompiler.Chart.Assembly
import ChartCompiler.Chart.Legend
import ChartCompiler.Descriptor
import ChartCompiler.Layer.Drawing
import ChartCompiler.Log.Trace

/-!
# Compilation

From a plot descriptor to a chart: the bound fields become a table, the markers become layers, the
layers are drawn, and the drawings are assembled and given a legend. What was left out or replaced
on the way is told in diagnostics.
-/

namespace ChartCompiler

/-! ## Outlines of what the steps are given -/

/-- A binding that may be missing. -/
def optionalOutline (binding : Option Value) : Outline := .value (binding.getD .null)

def PlotDescriptor.outline (descriptor : PlotDescriptor) : Outline :=
  .record "PlotDescriptor"
    [("x", .value descriptor.bindings.x), ("y", .value descriptor.bindings.y),
      ("color", optionalOutline descriptor.bindings.color),
      ("ymin", optionalOutline descriptor.bindings.ymin),
      ("ymax", optionalOutline descriptor.bindings.ymax),
      ("results", .value (.map descriptor.layers))]

/-- A text that may be missing. -/
def optionalTextOutline (content : Option String) : Outline :=
  optionalOutline (content.map .text)

/-- A number that may be missing. -/
def optionalRealOutline (number : Option Binary64) : Outline :=
  optionalOutline (number.map .real)

def Row.outline (row : Row) : Outline :=
  .record "DataRow"
    [("x", .value row.x.toValue), ("y", .value row.y.toValue),
      ("color", optionalTextOutline row.color), ("ymin", optionalRealOutline row.ymin),
      ("ymax", optionalRealOutline row.ymax)]

def Diagnostic.outline (note : Diagnostic) : Outline :=
  .record "Diagnostic"
    [("kind", .value (.text note.kind)), ("message", .value (.text note.message)),
      ("count", optionalOutline (note.count.map .whole))]

/-- Requests, which are always inside a list and shown by their name alone. -/
def requestOutlines (requests : List LayerRequest) : Outline :=
  .sequence (requests.map fun _ => .record "LayerRequest" [])

def Table.outline (table : Table) : Outline :=
  .record "ProjectedData"
    [("rows", .sequence (table.rows.map (·.outline))), ("x_kind", table.xKind.outline),
      ("y_kind", table.yKind.outline),
      ("has_color_group", .value (.bool table.hasColorGroup)),
      ("color_domain", .value (.tuple (table.colorDomain.map .text))),
      ("has_interval", .value (.bool table.hasInterval)),
      ("original_count", .value (.whole table.givenCount)),
      ("dropped_count", .value (.whole table.droppedCount)),
      ("diagnostics", .sequence (table.diagnostics.map (·.outline)))]

def LayerAnalysis.outline (analysis : LayerAnalysis) : Outline :=
  .record "LayerAnalysis"
    [("requests", requestOutlines analysis.requests),
      ("diagnostics", .sequence (analysis.diagnostics.map (·.outline)))]

def LayerContext.outline (context : LayerContext) : Outline :=
  .record "BuildContext"
    [("config", .record "CompilerConfig" []),
      ("jitter_seed", optionalOutline context.jitterSeed)]

/-! ## The steps -/

/-- A compiled plot. -/
structure Compilation where
  chart : Chart
  diagnostics : List Diagnostic
  requests : List LayerRequest
  table : Table

namespace Compilation

/-- The table of a plot. -/
def project (descriptor : PlotDescriptor) : Run Table :=
  Run.traced .compilation "compiler.project" (argumentText [descriptor.outline])
    (fun table => some table.outline) (Table.project descriptor.bindings)

/-- The layers of a plot. -/
def analyze (descriptor : PlotDescriptor) : Run LayerAnalysis :=
  Run.traced .compilation "compiler.analyze" (argumentText [descriptor.outline])
    (fun analysis => some analysis.outline) (LayerAnalysis.ofMarkers descriptor.layers)

/-- What is told about a layer that is not drawn as requested. -/
def layerDiagnostics (kind : LayerKind) (drawing : Drawing) : List Diagnostic :=
  match drawing.note with
  | none => if drawing.isEmpty then [⟨"empty-layer", kind.name ++ ": no marks", none⟩] else []
  | some note =>
      let message := kind.name ++ ": " ++ note
      [⟨if drawing.isEmpty then "empty-layer" else "partial-layer", message, none⟩]

/-- Draws the layers one after the other. -/
def drawAll (table : Table) (context : LayerContext) :
    List LayerRequest → Run (List Fragment × List Diagnostic)
  | [] => return ([], [])
  | request :: rest => do
      let drawing ← request.draw table context
      let (fragments, notes) ← drawAll table context rest
      return (drawing.toFragment :: fragments, layerDiagnostics request.kind drawing ++ notes)

/-- The drawings of all layers. -/
def draw (requests : List LayerRequest) (table : Table) (context : LayerContext) :
    Run (List Fragment × List Diagnostic) :=
  Run.traced .compilation "compiler.build"
    (argumentText [requestOutlines requests, table.outline, context.outline])
    (fun _ => none) (drawAll table context requests)

/-- Tells the log what was compiled. -/
def report (compilation : Compilation) : Run Unit := do
  let layers := compilation.requests.length
  let rows := compilation.table.rows.length
  let notes := compilation.diagnostics.length
  Run.info .compilation
    s!"Compiled {layers} layer(s) over {rows} row(s) with {notes} diagnostic(s)"

end Compilation

/-- Compiles a plot into a chart. -/
def PlotDescriptor.compile (descriptor : PlotDescriptor) (options : ChartOptions := {})
    (style : Style := {}) : Run Compilation := do
  let table ← Compilation.project descriptor
  let analysis ← Compilation.analyze descriptor
  let context : LayerContext := { style, jitterSeed := options.jitterSeed }
  let (fragments, drawNotes) ← Compilation.draw analysis.requests table context
  let (chart, mergeNotes) ← Chart.assemble fragments table options style
  let chart ← chart.withLegend style options.interactive
  let compilation : Compilation :=
    { chart
      diagnostics := table.diagnostics ++ analysis.diagnostics ++ drawNotes ++ mergeNotes
      requests := analysis.requests
      table }
  compilation.report
  return compilation

end ChartCompiler
