import ChartCompiler.Layer.Categories
import ChartCompiler.Layer.Parameter

/-!
# Summaries of categories

Boxplots, with whiskers that end at the last row inside a multiple of the box, and means with
confidence intervals.
-/

namespace ChartCompiler.Layer

/-! ## Boxplots -/

/-- The data source of the summaries that boxes are drawn from. -/
def boxSource : String := "boxplot"

/-- The data source of the rows beyond the whiskers. -/
def outlierSource : String := "outliers"

/-- The text that identifies the category and color group of a row. -/
def groupKey (table : Table) : Expr :=
  let category := Expr.text "" + .datum "x"
  if table.hasColorGroup then category + .text "|" + .datum "color" else category

/-- The end of the lower whisker: no lower than the least value. -/
def lowerWhisker (factor : Binary64) : Expr :=
  .combine .maximum (.datum "min") (.datum "q1" - .number factor * .datum "iqr")

/-- The end of the upper whisker: no higher than the greatest value. -/
def upperWhisker (factor : Binary64) : Expr :=
  .combine .minimum (.datum "max") (.datum "q3" + .number factor * .datum "iqr")

/-- A summary of y named like its statistic. -/
def ySummary (statistic : Statistic) : Summary := ⟨some "y", statistic, statistic.name⟩

/-- The quartiles and whiskers of each category and color group. -/
def boxPipeline (table : Table) (factor : Binary64) : Pipeline :=
  ⟨boxSource, tableSource,
    [.aggregate (table.groupedBy ["x"])
        ([.lowerQuartile, .median, .upperQuartile, .least, .greatest].map ySummary),
      .formula (.datum "q3" - .datum "q1") "iqr",
      .formula (lowerWhisker factor) "lower_whisker",
      .formula (upperWhisker factor) "upper_whisker",
      .formula (groupKey table) "group_key"]⟩

/-- The rows beyond the whiskers of their group. -/
def outlierPipeline (table : Table) : Pipeline :=
  ⟨outlierSource, tableSource,
    [.formula (groupKey table) "group_key",
      .lookup boxSource "group_key" ["lower_whisker", "upper_whisker"],
      .filter (.binary .or
        (.binary .less (.datum "y") (.datum "lower_whisker"))
        (.binary .greater (.datum "y") (.datum "upper_whisker")))]⟩

/-- A rule of a boxplot. -/
def boxRule (style : Style) (name : String) (channels : Channels) (width : Int := 1) : Graphic :=
  .mark
    { name := some name
      type := .rule
      source := some boxSource
      enter := channels ++ [(.stroke, .constant style.outlineStroke),
        (.strokeWidth, .number (.whole width))] }

/-- The boxes between the quartiles. -/
def boxes (table : Table) (style : Style) : Graphic :=
  .mark
    { name := some "boxes"
      type := .rect
      source := some boxSource
      enter := [(.x, table.slotPlace (.real 0.25)), (.width, table.slotWidth (.real 0.5)),
        (.y, .field .y "q1"), (.y2, .field .y "q3"), (.fill, table.fillColor style),
        (.fillOpacity, .number (.real 0.6)), (.stroke, .constant style.outlineStroke),
        (.strokeWidth, .number (.whole 1))] }

/-- The rows beyond the whiskers. -/
def outlierPoints (table : Table) (style : Style) : Graphic :=
  .mark
    { name := some "outlier_points"
      type := .symbol
      source := some outlierSource
      enter := [(.x, table.slotPlace (.real 0.5)), (.y, .field .y "y"),
        (.size, .number (.whole 40)), (.shape, .text "circle"),
        (.fill, .constant style.outlineStroke), (.fillOpacity, .number (.real 0.5))] }

/-- The parts of a boxplot. -/
def boxplotGraphics (table : Table) (style : Style) : List Graphic :=
  let across (left right : Binary64) (field : String) : Channels :=
    [(.x, table.slotPlace (.real left)), (.x2, table.slotPlace (.real right)),
      (.y, .field .y field)]
  let along (box whisker : String) : Channels :=
    [(.x, table.slotPlace (.real 0.5)), (.y, .field .y box), (.y2, .field .y whisker)]
  [boxes table style,
    boxRule style "median" (across 0.25 0.75 "median") 2,
    boxRule style "lower_whisker_cap" (across 0.35 0.65 "lower_whisker"),
    boxRule style "upper_whisker_cap" (across 0.35 0.65 "upper_whisker"),
    boxRule style "lower_whisker_line" (along "q1" "lower_whisker"),
    boxRule style "upper_whisker_line" (along "q3" "upper_whisker"),
    outlierPoints table style]

/-- The boxplots with their sources, scales and axes. -/
def boxplotDrawing (table : Table) (style : Style) (colors : List Scale) (factor : Binary64) :
    Drawing :=
  { graphics := boxplotGraphics table style
    scales := table.categoryScales colors Scale.tightPadding
    pipelines := [boxPipeline table factor, outlierPipeline table]
    axes := [
      { side := .bottom
        scale := .x
        styling := [("labelAngle", .whole 0), ("labelAlign", .text "center"),
          ("labelBaseline", .text "top")] },
      { side := .left, scale := .y, styling := [("grid", .bool true)] }] }

/-- A boxplot of y for each category and color group. -/
def boxplot (table : Table) (context : LayerContext) (parameters : Members) : Run Drawing := do
  match table.numericObstacle? "boxplot" false true with
  | some obstacle => return .empty obstacle
  | none => do
      let factor ← parameters.realParameter "whisker" 1.5
      return boxplotDrawing table context.style (← table.groupColorScale context.style) factor

/-! ## Means -/

/-- The data source of the means. -/
def meanSource : String := "summary"

/-- The distance from the mean to the ends of its confidence interval. -/
def confidenceWidth (z : Binary64) : Expr :=
  .number z * .datum "stdev_y" / .apply .squareRoot (.datum "count_y")

/-- The mean of y and its confidence interval for each category and color group. -/
def meanPipeline (table : Table) (z : Binary64) : Pipeline :=
  ⟨meanSource, tableSource,
    [.aggregate (table.groupedBy ["x"])
        [⟨some "y", .mean, "mean_y"⟩, ⟨some "y", .deviation, "stdev_y"⟩,
          ⟨some "y", .count, "count_y"⟩],
      .formula (.datum "mean_y" - confidenceWidth z) "ci_lower",
      .formula (.datum "mean_y" + confidenceWidth z) "ci_upper"]⟩

/-- Bars for the means, with rules for their confidence intervals. -/
def meanGraphics (table : Table) (style : Style) : List Graphic :=
  [.mark
      { name := some "summary_bars"
        type := .rect
        source := some meanSource
        enter := [(.x, table.slotPlace (.whole 0)), (.width, table.slotWidth (.whole 1)),
          (.y, .field .y "mean_y"), (.y2, .place .y 0), (.fill, table.fillColor style)] },
    .mark
      { name := some "summary_errorbars"
        type := .rule
        source := some meanSource
        enter := [(.x, table.slotPlace (.real 0.5)), (.y, .field .y "ci_lower"),
          (.y2, .field .y "ci_upper"), (.strokeWidth, .constant style.lineWidth),
          (.stroke, .constant style.outlineStroke)] }]

/-- The means with their source, scales and axes. -/
def meansDrawing (table : Table) (style : Style) (colors : List Scale) (z : Binary64) : Drawing :=
  { graphics := meanGraphics table style
    scales := table.categoryScales colors Scale.widePadding
    pipelines := [meanPipeline table z]
    axes := standardAxes }

/-- The mean of y for each category and color group, with its confidence interval. -/
def means (table : Table) (context : LayerContext) (parameters : Members) : Run Drawing := do
  match table.numericObstacle? "summary" false true with
  | some obstacle => return .empty obstacle
  | none => do
      let z ← parameters.realParameter "z" 1.96
      return meansDrawing table context.style (← table.groupColorScale context.style) z

end ChartCompiler.Layer
