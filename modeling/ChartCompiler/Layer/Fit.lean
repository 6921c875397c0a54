import ChartCompiler.Layer.Points

/-!
# Fitted curves

Regression lines and local regression, one for each color group, and the regression plot, which
shows the points as well.
-/

namespace ChartCompiler.Layer

/-- The order of a polynomial unless another one is given. -/
def defaultOrder : Int := 3

/-- The regression method with a name, if there is one. -/
def methodOfName? (name : String) (order : Int) : Option RegressionMethod :=
  [.linear, .logarithm, .exponential, .power, .quadratic, .polynomial order].find? fun method =>
    RegressionMethod.name method = name

/-- The regression of the rows by a named method; an unknown one is replaced by a straight line. -/
def regression (table : Table) (name : String) (order : Int) : Run Transform := do
  let groupby := table.groupedBy []
  match methodOfName? name order with
  | some method => return .regression method groupby
  | none => do
      Run.warn .statisticLayers s!"Unknown regression method '{name}'; using linear"
      return .regression .linear groupby

/-- The name of the method that a parameter asks for. -/
def methodName (parameters : Members) (default : String) : String :=
  match parameters.get? "method" with
  | some value => value.plainText
  | none => default

/-- The regression that the parameters ask for; without an order its default is not looked at. -/
def requestedRegression (table : Table) (parameters : Members) : Run Transform := do
  let order ←
    if parameters.contains "order" then parameters.wholeParameter "order" defaultOrder
    else pure defaultOrder
  regression table (methodName parameters "linear") order

/-- The marks of a fitted curve and the source of its points. -/
structure FittedCurve where
  graphic : Graphic
  pipeline : Pipeline

/-- The regression line over a source of its own. -/
def fittedLine (table : Table) (style : Style) (source name : String) (step : Transform) :
    FittedCurve :=
  { graphic := table.curve source name (table.groupColor style.fitStroke) style.lineWidth
    pipeline := ⟨source, tableSource, [step]⟩ }

/-- A layer that shows a fitted curve, beside other marks. -/
def curveDrawing (table : Table) (colors : List Scale) (others : List Graphic)
    (fitted : FittedCurve) (role : AxisRole := .reference) : Drawing :=
  { graphics := others ++ [fitted.graphic]
    scales := table.placeScales colors role
    pipelines := [fitted.pipeline]
    axes := standardAxes }

/-- The points of a regression plot together with their regression line. -/
def regressionDrawing (table : Table) (style : Style) (colors : List Scale) (step : Transform) :
    Drawing :=
  curveDrawing table colors [.mark (pointMark table style "data_points")]
    (fittedLine table style "regression" "regression_line" step) .scatter

/-- The points with their regression line. Fields that are not numeric cannot be fitted; then the
points are drawn alone. -/
def regressionPlot (table : Table) (context : LayerContext) (parameters : Members) :
    Run Drawing := do
  if table.isEmpty then return .empty "regression plot layer has no rows to summarize"
  match table.numericObstacle? "regression plot" with
  | some obstacle => do
      let colors ← table.groupColorScale context.style
      return pointsDrawing table context.style colors "data_points"
        (some (obstacle ++ "; fitted line dropped"))
  | none => do
      let step ← requestedRegression table parameters
      return regressionDrawing table context.style (← table.groupColorScale context.style) step

/-- The regression line of the rows. -/
def glm (table : Table) (context : LayerContext) (parameters : Members) : Run Drawing := do
  match table.numericObstacle? "glm" with
  | some obstacle => return .empty obstacle
  | none => do
      let step ← requestedRegression table parameters
      let colors ← table.groupColorScale context.style
      return curveDrawing table colors [] (fittedLine table context.style "glm_fit" "glm_line" step)

/-- A fitted curve, a polynomial unless another method is given. -/
def fit (table : Table) (context : LayerContext) (parameters : Members) : Run Drawing := do
  match table.numericObstacle? "fit" with
  | some obstacle => return .empty obstacle
  | none => do
      let order ← parameters.wholeParameter "order" defaultOrder
      let step ← regression table (methodName parameters "poly") order
      let colors ← table.groupColorScale context.style
      return curveDrawing table colors []
        (fittedLine table context.style "fit_curve" "fit_line" step)

/-- The curve of a local regression over a source of its own. -/
def smoothCurve (table : Table) (style : Style) (bandwidth : Binary64) : FittedCurve :=
  { graphic := table.curve "smoothed" "smooth_line" (table.fillColor style)
      style.smoothLineWidth "smooth_x" "smooth_y"
    pipeline := ⟨"smoothed", tableSource,
      [.loess bandwidth "smooth_x" "smooth_y" (table.groupedBy [])]⟩ }

/-- A local regression. -/
def smooth (table : Table) (context : LayerContext) (parameters : Members) : Run Drawing := do
  match table.numericObstacle? "smooth" with
  | some obstacle => return .empty obstacle
  | none => do
      let bandwidth ← parameters.realParameter "bandwidth" 0.3
      let colors ← table.groupColorScale context.style
      return curveDrawing table colors [] (smoothCurve table context.style bandwidth)

end ChartCompiler.Layer
