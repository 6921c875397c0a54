import ChartCompiler.Layer.Context
import ChartCompiler.Layer.Parameter
import ChartCompiler.Number.Arithmetic
import ChartCompiler.Number.Logarithm

/-!
# Comparison with the normal distribution

Quantiles of y against those of the normal distribution, and ellipses that hold a given share of a
normal distribution of points.
-/

namespace ChartCompiler.Layer

/-! ## Quantiles -/

/-- The data source of the quantiles. -/
def quantileSource : String := "qq"

/-- The normal quantile of the rank of each row among the rows of its color group. -/
def quantilePipeline (table : Table) : Pipeline :=
  ⟨quantileSource, tableSource,
    [.rank "y" "rank" (table.groupedBy []),
      .joinAggregate [⟨none, .count, "n"⟩] (table.groupedBy []),
      .formula (.apply .normalQuantile ((.datum "rank" - .number 0.5) / .datum "n"))
        "theoretical"]⟩

/-- The scale of the normal quantiles. -/
def quantileScale : Scale :=
  { name := ScaleName.x.text
    kind := .continuous
    domain := .field quantileSource "theoretical" false
    range := .extent .width
    nice := some (.bool true) }

/-- A symbol for each row at its quantiles. -/
def quantilesDrawing (table : Table) (style : Style) (colors : List Scale) : Drawing :=
  { graphics := [.mark
      { name := some "qq_points"
        type := .symbol
        source := some quantileSource
        enter := (.x, .field .x "theoretical") :: table.symbolChannels style style.symbolSize }]
    scales := quantileScale :: table.yScale :: colors
    pipelines := [quantilePipeline table]
    axes := standardAxes }

/-- The quantiles of y against normal quantiles. -/
def quantiles (table : Table) (context : LayerContext) : Run Drawing := do
  match table.numericObstacle? "qq" false true with
  | some obstacle => return .empty obstacle
  | none => return quantilesDrawing table context.style (← table.groupColorScale context.style)

/-! ## Ellipses -/

/-- The data source of the points of the ellipses. -/
def ellipseSource : String := "ellipse"

/-- The share of the points that an ellipse holds unless another one is given. -/
def defaultLevel : Binary64 := 0.95

/-- The radius, in standard deviations, of the circle that holds a share of a normal distribution
in the plane. -/
def ellipseRadius (level : Binary64) : Binary64 :=
  (2.0 * level.negativeLogComplement).squareRoot

/-- The radius for a share that is given as a value. A whole number is taken by its opposite, which
must fit into 64 bits, so that a whole zero counts as the negative one. -/
def givenEllipseRadius (share : Value) : Except Failure Binary64 := do
  if let .array (.text _) _ _ := share then .error .unsupportedElements
  match ← share.operand with
  | .whole integer =>
      if Value.fits64 (-integer) then return ellipseRadius (-(← realOfWhole (-integer)))
      else .error .unsupportedKind
  | .real level => return ellipseRadius level

/-- The circumference of the unit circle. -/
def fullTurn : Binary64 := 6.283185307179586

/-- The share of the points that an ellipse is to hold: between zero and one. -/
def usableLevel (level : Binary64) : Run Binary64 := do
  if Binary64.zero.lessThan level && level.lessThan 1.0 then return level
  let shown := level.toText
  Run.warn .statisticLayers s!"Ellipse level {shown} outside (0, 1); using 0.95"
  return defaultLevel

/-- The half sum of the variances. -/
def meanVariance : Expr := (.datum "vx" + .datum "vy") / .whole 2

/-- The means of x, y and their products in each color group. -/
def momentSteps (table : Table) : List Transform :=
  [.formula (.datum "x" * .datum "x") "xx",
    .formula (.datum "y" * .datum "y") "yy",
    .formula (.datum "x" * .datum "y") "xy",
    .aggregate (table.groupedBy [])
      [⟨some "x", .mean, "mx"⟩, ⟨some "y", .mean, "my"⟩, ⟨some "xx", .mean, "mxx"⟩,
        ⟨some "yy", .mean, "myy"⟩, ⟨some "xy", .mean, "mxy"⟩]]

/-- The variances along the axes of the ellipse and the angle between the ellipse and the chart. -/
def axisSteps : List Transform :=
  [.formula (.combine .maximum (.datum "mxx" - .datum "mx" * .datum "mx") (.whole 0)) "vx",
    .formula (.combine .maximum (.datum "myy" - .datum "my" * .datum "my") (.whole 0)) "vy",
    .formula (.datum "mxy" - .datum "mx" * .datum "my") "cxy",
    .formula
      (.apply .squareRoot
        (.combine .power ((.datum "vx" - .datum "vy") / .whole 2) (.whole 2)
          + .datum "cxy" * .datum "cxy"))
      "spread",
    .formula (meanVariance + .datum "spread") "l1",
    .formula (.combine .maximum (meanVariance - .datum "spread") (.whole 0)) "l2",
    .formula
      (.combine .angle (.whole 2 * .datum "cxy") (.datum "vx" - .datum "vy") / .whole 2)
      "theta"]

/-- The long and the short axis of the ellipse at the angle of a point, seen along x or y. -/
def axisPart (length : String) (turn tilt : UnaryFunction) : Expr :=
  .apply .squareRoot (.datum length) * .apply turn (.datum "t") * .apply tilt (.datum "theta")

/-- The points of the ellipse, from their angles. -/
def outlineSteps (points : Int) (angle radius : Binary64) : List Transform :=
  [.formula (.combine .sequence (.whole 0) (.whole points)) "steps",
    .flatten "steps" "step",
    .formula (.datum "step" * .number angle) "t",
    .formula
      (.datum "mx" + .number radius
        * (axisPart "l1" .cosine .cosine - axisPart "l2" .sine .sine))
      "ex",
    .formula
      (.datum "my" + .number radius
        * (axisPart "l1" .cosine .sine + axisPart "l2" .sine .cosine))
      "ey"]

/-- The outline of the ellipses. -/
def ellipseMark (table : Table) (style : Style) : Mark :=
  { type := .line
    sort := some (.datum "step")
    enter := [(.x, .field .x "ex"), (.y, .field .y "ey"), (.interpolate, .text "linear-closed"),
      (.stroke, table.fillColor style), (.strokeWidth, .constant style.lineWidth),
      (.fill, table.fillColor style), (.fillOpacity, .number (.real 0.15))] }

/-- The steps from the rows to the points of the ellipses. -/
def ellipseSteps (table : Table) (points : Int) (angle radius : Binary64) : List Transform :=
  momentSteps table ++ axisSteps ++ outlineSteps points angle radius

/-- The outlines of the ellipses. -/
def ellipseDrawing (table : Table) (style : Style) (colors : List Scale) (points : Int)
    (angle radius : Binary64) : Drawing :=
  { graphics := [table.linePerGroup ellipseSource (ellipseMark table style) "ellipses"
      "ellipse_series"]
    scales := table.placeScales colors
    pipelines := [⟨ellipseSource, tableSource, ellipseSteps table points angle radius⟩]
    axes := standardAxes }

/-- An ellipse around the points of each color group. -/
def ellipse (table : Table) (context : LayerContext) (parameters : Members) : Run Drawing := do
  match table.numericObstacle? "ellipse" with
  | some obstacle => return .empty obstacle
  | none => do
      if table.rows.length < 2 then return .empty "ellipse layer needs at least two rows"
      let level ← usableLevel (← parameters.realParameter "level" defaultLevel)
      let points ← parameters.wholeParameter "points" 48 8
      let angle ← Number.divide (.real fullTurn) (.whole points)
      let colors ← table.groupColorScale context.style
      return ellipseDrawing table context.style colors points angle (ellipseRadius level)

end ChartCompiler.Layer
