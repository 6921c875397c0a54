import ChartCompiler.Proofs.Layer.Markers
import ChartCompiler.Proofs.Layer.Settled
import ChartCompiler.Proofs.Scale.Table

/-!
# Regression plots and their parts

A regression plot shows what a layer of points and a layer with a regression line show, under other
names, and a fit shows what a regression line with another default method shows. Layers are compared
as computations, so also in what they write to the log and in how they fail.
-/

namespace ChartCompiler

open Layer

/-! ## New names for marks and data sources -/

/-- New names; a name that has none is kept. -/
abbrev Renaming := List (String × String)

def Renaming.apply (names : Renaming) (name : String) : String := (names.lookup name).getD name

variable (names : Renaming)

def ScaleDomain.renamed : ScaleDomain → ScaleDomain
  | .field source name sorted => .field (names.apply source) name sorted
  | .fields source listed => .fields (names.apply source) listed
  | .labels items => .labels items
  | .given value => .given value

def Scale.renamed (scale : Scale) : Scale := { scale with domain := scale.domain.renamed names }

def Mark.renamed (mark : Mark) : Mark :=
  { mark with name := mark.name.map names.apply, source := mark.source.map names.apply }

def Facet.renamed (facet : Facet) : Facet :=
  { facet with name := names.apply facet.name, source := names.apply facet.source }

def GroupScale.renamed (declaration : GroupScale) : GroupScale :=
  { declaration with scale := declaration.scale.renamed names }

def Group.renamed (group : Group) : Group :=
  { group with
    name := names.apply group.name
    facet := group.facet.map (Facet.renamed names)
    scales := group.scales.map (GroupScale.renamed names)
    marks := group.marks.map (Mark.renamed names) }

def Graphic.renamed : Graphic → Graphic
  | .mark content => .mark (content.renamed names)
  | .group content => .group (content.renamed names)

def Transform.renamed : Transform → Transform
  | .lookup source key fields => .lookup (names.apply source) key fields
  | step => step

def Pipeline.renamed (pipeline : Pipeline) : Pipeline :=
  { name := names.apply pipeline.name
    source := names.apply pipeline.source
    steps := pipeline.steps.map (Transform.renamed names) }

def InlineRows.renamed (inline : InlineRows) : InlineRows :=
  { inline with name := names.apply inline.name }

/-- A drawing whose marks and data sources have new names, wherever they are named. -/
def Drawing.renamed (drawing : Drawing) : Drawing :=
  { drawing with
    graphics := drawing.graphics.map (Graphic.renamed names)
    scales := drawing.scales.map (Scale.renamed names)
    pipelines := drawing.pipelines.map (Pipeline.renamed names)
    inline := drawing.inline.map (InlineRows.renamed names) }

/-- The names that points and regression lines have in a regression plot. -/
def Renaming.ofRegressionPlot : Renaming :=
  [("points", "data_points"), ("glm_line", "regression_line"), ("glm_fit", "regression"),
    ("glm_fit_series", "regression_series")]

/-- The names that regression lines have in a fit. -/
def Renaming.ofFit : Renaming :=
  [("glm_line", "fit_line"), ("glm_fit", "fit_curve"), ("glm_fit_series", "fit_curve_series")]

/-- The points and the regression line of a regression plot, from the drawings of a layer of points
and of one with a regression line. -/
def Drawing.withRegression (points line : Drawing) : Drawing :=
  { graphics := (points.renamed .ofRegressionPlot).graphics
      ++ (line.renamed .ofRegressionPlot).graphics
    scales := points.scales
    pipelines := (line.renamed .ofRegressionPlot).pipelines
    axes := points.axes }

/-! ## What new names change -/

section Renamed

variable {names} (table : Table) (style : Style)

theorem pointMark_renamed (kept : names.apply tableSource = tableSource) (name : String) :
    (pointMark table style name).renamed names = pointMark table style (names.apply name) := by
  simp only [Mark.renamed, pointMark, Option.map_some, kept]

/-- A curve takes the new names of its mark and of its source; the parts of the source are named
after it. -/
theorem Table.curve_renamed {source name : String}
    (series : names.apply (source ++ "_series") = names.apply source ++ "_series")
    (stroke : Encoding) (width : Value) :
    (table.curve source name stroke width).renamed names
      = table.curve (names.apply source) (names.apply name) stroke width := by
  simp only [Table.curve, Table.linePerGroup]
  split
  · simp only [Graphic.renamed, Group.renamed, Facet.renamed, Mark.renamed, Option.map_some,
      Option.map_none, List.map_cons, List.map_nil, series]
  · rfl

theorem Table.xScale_renamed (kept : names.apply tableSource = tableSource) (role : AxisRole) :
    (table.xScale tableSource "x" role).renamed names = table.xScale tableSource "x" role := by
  unfold Table.xScale
  split <;> simp only [Scale.renamed, Scale.banded, ScaleDomain.renamed, kept]

theorem Table.yScale_renamed (kept : names.apply tableSource = tableSource) :
    table.yScale.renamed names = table.yScale := by
  unfold Table.yScale Table.yScaleOf
  split <;> simp only [Scale.renamed, Scale.banded, ScaleDomain.renamed, kept]

variable {table style} {colors : List Scale}

/-- The color scale lists its domain, so it names no source. -/
theorem groupColorScale_renamed (colored : table.groupColorScale style = .ok colors) :
    colors.map (Scale.renamed names) = colors := by
  rcases Table.groupColorScale_cases colored with ⟨_, rfl⟩ | ⟨_, items, _, rfl⟩
  · rfl
  · rfl

theorem placeScales_renamed (kept : names.apply tableSource = tableSource)
    (colored : table.groupColorScale style = .ok colors) (role : AxisRole) :
    (table.placeScales colors role).map (Scale.renamed names) = table.placeScales colors role := by
  simp only [Table.placeScales, List.map_cons, table.xScale_renamed kept,
    table.yScale_renamed kept, groupColorScale_renamed colored]

theorem pointsDrawing_renamed (kept : names.apply tableSource = tableSource)
    (colored : table.groupColorScale style = .ok colors) (name : String) (note : Option String) :
    (pointsDrawing table style colors name note).renamed names
      = pointsDrawing table style colors (names.apply name) note := by
  simp only [Drawing.renamed, pointsDrawing, List.map_cons, List.map_nil, Graphic.renamed,
    pointMark_renamed table style kept, placeScales_renamed kept colored]

/-- A drawing of a regression line takes the new names of the line and of its source. -/
theorem curveDrawing_renamed {source name : String} {step : Transform}
    (kept : names.apply tableSource = tableSource)
    (series : names.apply (source ++ "_series") = names.apply source ++ "_series")
    (unchanged : step.renamed names = step)
    (colored : table.groupColorScale style = .ok colors) :
    (curveDrawing table colors [] (fittedLine table style source name step)).renamed names
      = curveDrawing table colors []
          (fittedLine table style (names.apply source) (names.apply name) step) := by
  simp only [Drawing.renamed, curveDrawing, fittedLine, List.nil_append, List.map_cons,
    List.map_nil, Pipeline.renamed, table.curve_renamed series, placeScales_renamed kept colored,
    kept, unchanged]

end Renamed

/-! ## The regression that is asked for -/

variable (table : Table) (context : LayerContext) (parameters : Members)

/-- A whole number is read from its own member only. -/
theorem Members.wholeParameter_congr {parameters others : Members} {name : String}
    (same : parameters.get? name = others.get? name) (default minimum : Int) :
    parameters.wholeParameter name default minimum
      = others.wholeParameter name default minimum := by
  unfold Members.wholeParameter
  rw [same]

/-- A default order is used as it is, and without a word in the log. -/
theorem Members.wholeParameter_absent {parameters : Members}
    (absent : parameters.contains "order" = false) :
    parameters.wholeParameter "order" defaultOrder = pure defaultOrder := by
  have missing : parameters.get? "order" = none := by
    simpa [Members.contains, Members.get?] using absent
  unfold Members.wholeParameter
  rw [missing]
  rfl

theorem requestedRegression_eq :
    requestedRegression table parameters
      = (do
          let order ← parameters.wholeParameter "order" defaultOrder
          regression table (methodName parameters "linear") order) := by
  unfold requestedRegression
  split
  · rfl
  · next absent => rw [Members.wholeParameter_absent (by simpa using absent)]

/-- A method that is filled in is the one that is used by default. -/
theorem methodName_setIfAbsent (method default : String) :
    methodName (parameters.setIfAbsent "method" (.text method)) default
      = methodName parameters method := by
  unfold methodName
  rw [Members.get?_setIfAbsent]
  cases parameters.get? "method" with
  | none => rfl
  | some value => rfl

/-- The regression of a fit is the requested one, with a method filled in. -/
theorem requestedRegression_setIfAbsent (method : String) :
    requestedRegression table (parameters.setIfAbsent "method" (.text method))
      = (do
          let order ← parameters.wholeParameter "order" defaultOrder
          regression table (methodName parameters method) order) := by
  have order : (parameters.setIfAbsent "method" (.text method)).get? "order"
      = parameters.get? "order" := by
    rw [Members.get?_setIfAbsent]
    exact Option.or_none
  rw [requestedRegression_eq, methodName_setIfAbsent, Members.wholeParameter_congr order]

/-! ## The layers -/

variable {table}

theorem glm_of_fed (fed : table.feeds true true = true) :
    glm table context parameters
      = (do
          let step ← requestedRegression table parameters
          let colors ← table.groupColorScale context.style
          return curveDrawing table colors []
            (fittedLine table context.style "glm_fit" "glm_line" step)) := by
  unfold glm
  rw [Table.numericObstacle?_eq_none_iff.mpr fed]

theorem points_of_rows (rows : table.isEmpty = false) :
    points table context
      = (do
          let colors ← table.groupColorScale context.style
          return pointsDrawing table context.style colors "points") := by
  unfold points
  rw [rows]
  rfl

/-- Where numbers can be fitted, a regression plot draws the points and the regression line. -/
theorem regressionPlot_of_fed (fed : table.feeds true true = true) :
    regressionPlot table context parameters
      = (do
          let line ← glm table context parameters
          let points ← points table context
          return points.withRegression line) := by
  have settled : table.numericObstacle? "glm" = none := Table.numericObstacle?_eq_none_iff.mpr fed
  have rows : table.isEmpty = false := (Table.numericObstacle?_eq_none settled).1
  rw [glm_of_fed _ _ fed, points_of_rows _ rows]
  unfold regressionPlot
  rw [rows, Table.numericObstacle?_eq_none_iff.mpr fed]
  simp only [Run.bind_assoc, Run.pure_bind]
  refine Run.bind_congr fun step returned => Run.bind_congr fun colors colored => ?_
  rcases requestedRegression_returns returned with ⟨method, rfl⟩
  -- Both parts compute the color scale, so that of the points is known from that of the line.
  have given : table.groupColorScale context.style = .ok colors := colored
  rw [Run.lift_bind_of_eq given]
  unfold Drawing.withRegression
  rw [pointsDrawing_renamed rfl given, curveDrawing_renamed rfl rfl rfl given]
  rfl

/-- Where numbers cannot be fitted, a regression plot draws the points alone and says why. -/
theorem regressionPlot_of_unfed (rows : table.isEmpty = false)
    (unfed : table.feeds true true = false) :
    ∃ note, regressionPlot table context parameters
      = (do
          let points ← points table context
          return { points.renamed .ofRegressionPlot with note := some note }) := by
  rcases Table.numericObstacle?_of_unfed "regression plot" unfed with ⟨obstacle, hindered⟩
  refine ⟨obstacle ++ "; fitted line dropped", ?_⟩
  rw [points_of_rows _ rows]
  unfold regressionPlot
  rw [rows, hindered]
  simp only [Run.bind_assoc, Run.pure_bind]
  refine Run.bind_congr fun colors colored => ?_
  rw [pointsDrawing_renamed rfl colored]
  rfl

theorem glm_of_unfed (unfed : table.feeds true true = false) :
    ∃ reason, glm table context parameters = return .empty reason := by
  rcases Table.numericObstacle?_of_unfed "glm" unfed with ⟨obstacle, hindered⟩
  refine ⟨obstacle, ?_⟩
  unfold glm
  rw [hindered]

/-- A fit draws the regression line with a polynomial as its default. -/
theorem fit_eq :
    fit table context parameters
      = (do
          let line ← glm table context (parameters.setIfAbsent "method" (.text "poly"))
          return { line.renamed .ofFit with note := table.numericObstacle? "fit" }) := by
  cases fed : table.feeds true true with
  | true =>
      rw [glm_of_fed _ _ fed, requestedRegression_setIfAbsent]
      unfold fit
      rw [Table.numericObstacle?_eq_none_iff.mpr fed]
      simp only [Run.bind_assoc, Run.pure_bind]
      refine Run.bind_congr fun order _ => Run.bind_congr fun step returned =>
        Run.bind_congr fun colors colored => ?_
      rcases regression_returns returned with ⟨method, rfl⟩
      rw [curveDrawing_renamed rfl rfl rfl colored]
      rfl
  | false =>
      rcases glm_of_unfed context (parameters.setIfAbsent "method" (.text "poly")) fed with
        ⟨reason, drawn⟩
      rcases Table.numericObstacle?_of_unfed "fit" fed with ⟨obstacle, hindered⟩
      rw [drawn, Run.pure_bind]
      unfold fit
      rw [hindered]
      rfl

/-- Over rows of numbers, a regression plot draws the points and the regression line, and over other
rows it draws the points alone, with a note, where a regression line is not drawn. A fit draws the
regression line with a polynomial as its default. -/
theorem LayerKind.draw_regressionPlot (rows : table.isEmpty = false) :
    (table.xIsNumeric = true ∧ table.yIsNumeric = true →
      LayerKind.regressionPlot.draw table context parameters
        = (do
            let line ← LayerKind.glm.draw table context parameters
            let points ← LayerKind.point.draw table context parameters
            return points.withRegression line)) ∧
    (¬ (table.xIsNumeric = true ∧ table.yIsNumeric = true) →
      ∃ note reason,
        LayerKind.regressionPlot.draw table context parameters
          = (do
              let points ← LayerKind.point.draw table context parameters
              return { points.renamed .ofRegressionPlot with note := some note }) ∧
        LayerKind.glm.draw table context parameters = return .empty reason) ∧
    LayerKind.fit.draw table context parameters
      = (do
          let line ← LayerKind.glm.draw table context
            (parameters.setIfAbsent "method" (.text "poly"))
          return { line.renamed .ofFit with note := table.numericObstacle? "fit" }) := by
  have fed : table.feeds true true = true ↔
      table.xIsNumeric = true ∧ table.yIsNumeric = true := by
    simp [Table.feeds, rows]
  refine ⟨fun numeric => regressionPlot_of_fed context parameters (fed.mpr numeric), ?_,
    fit_eq context parameters⟩
  intro labelled
  have unfed : table.feeds true true = false := by
    simpa only [Bool.not_eq_true] using mt fed.mp labelled
  rcases regressionPlot_of_unfed context parameters rows unfed with ⟨note, plot⟩
  rcases glm_of_unfed context parameters unfed with ⟨reason, line⟩
  exact ⟨note, reason, plot, line⟩

/-- A point in each of two color groups. -/
def scatteredTable : Table :=
  { groupedTable with
    rows := [{ x := .number 1.0, y := .number 1.0, color := some "g" },
      { x := .number 2.0, y := .number 2.0, color := some "h" }]
    xKind := .continuous }

/-- The parameters may ask for a method, and for an order that is no number. -/
def unorderedFit : Members := [("method", .text "poly"), ("order", .text "cubic")]

theorem LayerKind.draw_scattered :
    scatteredTable.isEmpty = false ∧
    (scatteredTable.xIsNumeric = true ∧ scatteredTable.yIsNumeric = true) ∧
    (∃ drawing,
      (LayerKind.regressionPlot.draw scatteredTable { style := {} } unorderedFit).Returns drawing ∧
        drawing.graphics.length = 2) ∧
    LayerKind.regressionPlot.draw scatteredTable { style := {} } unorderedFit
      = (do
          let line ← LayerKind.glm.draw scatteredTable { style := {} } unorderedFit
          let points ← LayerKind.point.draw scatteredTable { style := {} } unorderedFit
          return points.withRegression line) :=
  ⟨rfl, ⟨rfl, rfl⟩, by decide +kernel,
    (LayerKind.draw_regressionPlot { style := {} } unorderedFit rfl).1 ⟨rfl, rfl⟩⟩

end ChartCompiler
