import ChartCompiler.Layer.Analysis
import ChartCompiler.Layer.Bars
import ChartCompiler.Layer.Density
import ChartCompiler.Layer.Fit
import ChartCompiler.Layer.Histogram
import ChartCompiler.Layer.Lines
import ChartCompiler.Layer.Normal
import ChartCompiler.Layer.Summaries

/-!
# Drawing a layer

Each kind of layer is drawn in its own way. The log tells what came of it.
-/

namespace ChartCompiler

/-- The drawing of a kind of layer. -/
def LayerKind.draw (kind : LayerKind) (table : Table) (context : LayerContext)
    (parameters : Members) : Run Drawing :=
  match kind with
  | .point => Layer.points table context
  | .line => Layer.line table context
  | .bar => Layer.bars table context
  | .jitter => Layer.jitter table context parameters
  | .swarm => Layer.swarm table context parameters
  | .raster => Layer.raster table context
  | .interval => Layer.interval table context
  | .abline => Layer.abline table context parameters
  | .vline => Layer.vline table context parameters
  | .hline => Layer.hline table context parameters
  | .polygon => Layer.polygon table context parameters
  | .regressionPlot => Layer.regressionPlot table context parameters
  | .glm => Layer.glm table context parameters
  | .fit => Layer.fit table context parameters
  | .smooth => Layer.smooth table context parameters
  | .bin => Layer.histogram table context parameters
  | .density => Layer.density table context parameters
  | .violin => Layer.violin table context parameters
  | .boxplot => Layer.boxplot table context parameters
  | .summary => Layer.means table context parameters
  | .qq => Layer.quantiles table context
  | .bin2d => Layer.heatmap table context parameters
  | .ellipse => Layer.ellipse table context parameters
  | .cornerHistogram => Layer.cornerHistogram table context parameters

/-- Tells the log what came of a layer. -/
def Drawing.report (drawing : Drawing) (kind : LayerKind) : Run Unit := do
  let layer := kind.name
  if drawing.isEmpty then
    let reason := drawing.note.getD "None"
    Run.info .drawing s!"Layer {layer} produced no marks: {reason}"
  else
    let marks := drawing.graphics.length
    let scales := drawing.scales.length
    let sources := drawing.pipelines.length
    Run.debug .drawing
      s!"Layer {layer} produced {marks} mark(s), {scales} scale(s), {sources} derived source(s)"

/-- Draws a requested layer. -/
def LayerRequest.draw (request : LayerRequest) (table : Table) (context : LayerContext) :
    Run Drawing := do
  let drawing ← request.kind.draw table context request.parameters
  drawing.report request.kind
  return drawing

end ChartCompiler
