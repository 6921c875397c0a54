import ChartCompiler.Layer.Drawing
import ChartCompiler.Proofs.Log.Outcome

/-!
# What layers draw

`Drawn` lists the drawings that a layer of each kind may return, with the conditions under which
it does. `LayerRequest.draw_drawn` says that there are no others, so a property of all drawings is
proved by cases on `Drawn`, without a look at how the layers come to them.
-/

namespace ChartCompiler

open Layer

/-! ## What the layers check -/

/-- A statistic is drawn only over rows, and over numbers where it needs them. -/
theorem Table.numericObstacle?_eq_none {table : Table} {layer : String} {needsX needsY : Bool}
    (none : table.numericObstacle? layer needsX needsY = none) :
    table.isEmpty = false ∧ (needsX = true → table.xIsNumeric = true) ∧
      (needsY = true → table.yIsNumeric = true) := by
  unfold Table.numericObstacle? at none
  cases empty : table.isEmpty <;> cases needsX <;> cases needsY <;>
    cases x : table.xIsNumeric <;> cases y : table.yIsNumeric <;> simp_all

/-- Where the symbols of a displaced layer are read from, and how far a row is displaced. -/
inductive Displacement.Offsets (displacement : Layer.Displacement) (table : Table)
    (context : LayerContext) : String → List InlineRows → Expr → Prop where
  | rendered (width : Binary64) (offset : Expr)
      (drawn : displacement.renderedOffset width context.style.jitterPixels = .ok offset) :
      Offsets displacement table context tableSource [] offset
  | seeded (seed spread : Value) (rows : InlineRows)
      (drawn : displacement.seededRows table seed spread = .ok rows) :
      Offsets displacement table context rows.name [rows] displacement.carriedOffset

theorem Displacement.offsetOf_offsets {displacement : Layer.Displacement} {table : Table}
    {context : LayerContext} {width : Binary64} {source : String} {inline : List InlineRows}
    {offset : Expr}
    (drawn : displacement.offsetOf table context width = .ok (source, inline, offset)) :
    Displacement.Offsets displacement table context source inline offset := by
  unfold Layer.Displacement.offsetOf at drawn
  split at drawn
  · simp only [bind_pure_comp, Functor.map, Except.map] at drawn
    split at drawn
    · cases drawn
    · cases drawn
      exact .rendered width offset (by assumption)
  · simp only [bind_pure_comp, Functor.map, Except.map] at drawn
    split at drawn
    · cases drawn
    · cases drawn
      exact .seeded _ _ _ (by assumption)

/-! ## The drawings -/

/-- The drawings that a layer may return. -/
inductive Drawn (table : Table) (context : LayerContext) : LayerKind → Drawing → Prop where
  | empty (kind : LayerKind) (note : String) : Drawn table context kind (.empty note)
  | points (colors : List Scale) (rows : table.isEmpty = false)
      (colored : table.groupColorScale context.style = .ok colors) :
      Drawn table context .point (pointsDrawing table context.style colors "points")
  | jitter (colors : List Scale) (source : String) (inline : List InlineRows) (offset : Expr)
      (rows : table.isEmpty = false)
      (colored : table.groupColorScale context.style = .ok colors)
      (offsets : Displacement.Offsets (jitterDisplacement table context.style) table context
        source inline offset) :
      Drawn table context .jitter
        ((jitterDisplacement table context.style).drawing table context.style colors source
          inline offset)
  | swarm (colors : List Scale) (source : String) (inline : List InlineRows) (offset : Expr)
      (rows : table.isEmpty = false)
      (colored : table.groupColorScale context.style = .ok colors)
      (offsets : Displacement.Offsets (swarmDisplacement context.style) table context
        source inline offset) :
      Drawn table context .swarm
        ((swarmDisplacement context.style).drawing table context.style colors source inline
          offset)
  | line (colors : List Scale) (rows : table.isEmpty = false)
      (colored : table.groupColorScale context.style = .ok colors) :
      Drawn table context .line (lineDrawing table context.style colors)
  | raster (colors : List Scale) (rows : table.isEmpty = false)
      (colored : table.groupColorScale context.style = .ok colors) :
      Drawn table context .raster (rasterDrawing table context.style colors)
  | interval (colors : List Scale) (rows : table.isEmpty = false)
      (bounded : table.hasInterval = true)
      (colored : table.groupColorScale context.style = .ok colors) :
      Drawn table context .interval (intervalDrawing table context.style colors)
  | abline (colors : List Scale) (extent : Extent) (slope intercept : Binary64)
      (spanned : table.xExtent = some extent)
      (colored : table.groupColorScale context.style = .ok colors) :
      Drawn table context .abline
        (ablineDrawing table context.style colors (ablineRows extent slope intercept))
  | rowVlines (colors : List Scale) (rows : table.isEmpty = false)
      (colored : table.groupColorScale context.style = .ok colors) :
      Drawn table context .vline ((verticalRules table).rowRules table context.style colors)
  | valueVlines (colors : List Scale) (values : List Binary64) (given : values ≠ [])
      (numeric : table.xIsNumeric = true)
      (colored : table.groupColorScale context.style = .ok colors) :
      Drawn table context .vline
        ((verticalRules table).valueRules table context.style colors values)
  | rowHlines (colors : List Scale) (rows : table.isEmpty = false)
      (colored : table.groupColorScale context.style = .ok colors) :
      Drawn table context .hline ((horizontalRules table).rowRules table context.style colors)
  | valueHlines (colors : List Scale) (values : List Binary64) (given : values ≠ [])
      (numeric : table.yIsNumeric = true)
      (colored : table.groupColorScale context.style = .ok colors) :
      Drawn table context .hline
        ((horizontalRules table).valueRules table context.style colors values)
  | placedPolygon (colors : List Scale) (xs ys : List Binary64) (given : xs ≠ [] ∧ ys ≠ [])
      (rows : table.isEmpty = false)
      (numeric : table.xIsNumeric = true ∧ table.yIsNumeric = true)
      (colored : table.groupColorScale context.style = .ok colors) :
      Drawn table context .polygon
        (vertexPolygon context.style (table.placeScales colors .reference) xs ys)
  | freePolygon (xs ys : List Binary64) (given : xs ≠ [] ∧ ys ≠ [])
      (unplaced : (!table.isEmpty && table.xIsNumeric && table.yIsNumeric) = false) :
      Drawn table context .polygon (vertexPolygon context.style vertexScales xs ys)
  | rowPolygon (colors : List Scale) (rows : table.isEmpty = false)
      (numeric : table.xIsNumeric = true ∧ table.yIsNumeric = true)
      (colored : table.groupColorScale context.style = .ok colors) :
      Drawn table context .polygon (Layer.rowPolygon (table.placeScales colors .reference))
  | bars (colors : List Scale) (rows : table.isEmpty = false)
      (numeric : table.yIsNumeric = true)
      (colored : table.groupColorScale context.style = .ok colors) :
      Drawn table context .bar (barsDrawing table context.style colors)
  | unfitted (colors : List Scale) (note : String) (rows : table.isEmpty = false)
      (colored : table.groupColorScale context.style = .ok colors) :
      Drawn table context .regressionPlot
        (pointsDrawing table context.style colors "data_points" (some note))
  | regression (colors : List Scale) (method : RegressionMethod) (rows : table.isEmpty = false)
      (numeric : table.xIsNumeric = true ∧ table.yIsNumeric = true)
      (colored : table.groupColorScale context.style = .ok colors) :
      Drawn table context .regressionPlot
        (regressionDrawing table context.style colors
          (.regression method (table.groupedBy [])))
  | glm (colors : List Scale) (method : RegressionMethod) (rows : table.isEmpty = false)
      (numeric : table.xIsNumeric = true ∧ table.yIsNumeric = true)
      (colored : table.groupColorScale context.style = .ok colors) :
      Drawn table context .glm
        (curveDrawing table colors [] (fittedLine table context.style "glm_fit" "glm_line"
          (.regression method (table.groupedBy []))))
  | fit (colors : List Scale) (method : RegressionMethod) (rows : table.isEmpty = false)
      (numeric : table.xIsNumeric = true ∧ table.yIsNumeric = true)
      (colored : table.groupColorScale context.style = .ok colors) :
      Drawn table context .fit
        (curveDrawing table colors [] (fittedLine table context.style "fit_curve" "fit_line"
          (.regression method (table.groupedBy []))))
  | smooth (colors : List Scale) (bandwidth : Binary64) (rows : table.isEmpty = false)
      (numeric : table.xIsNumeric = true ∧ table.yIsNumeric = true)
      (colored : table.groupColorScale context.style = .ok colors) :
      Drawn table context .smooth
        (curveDrawing table colors [] (smoothCurve table context.style bandwidth))
  | histogram (colors : List Scale) (bins : Bins) (rows : table.isEmpty = false)
      (numeric : table.xIsNumeric = true)
      (colored : table.groupColorScale context.style = .ok colors) :
      Drawn table context .bin (histogramDrawing table context.style colors bins)
  | heatmap (xBins yBins : Bins) (rows : table.isEmpty = false)
      (numeric : table.xIsNumeric = true ∧ table.yIsNumeric = true) :
      Drawn table context .bin2d (heatmapDrawing table context.style xBins yBins)
  | corner (colors : List Scale) (bins : Bins) (rows : table.isEmpty = false)
      (numeric : table.xIsNumeric = true ∧ table.yIsNumeric = true)
      (colored : table.groupColorScale context.style = .ok colors) :
      Drawn table context .cornerHistogram (cornerDrawing table context.style colors bins)
  | density (colors : List Scale) (bandwidth : Binary64) (steps : Int) (extent : Extent)
      (rows : table.isEmpty = false) (numeric : table.xIsNumeric = true)
      (colored : table.groupColorScale context.style = .ok colors) :
      Drawn table context .density
        (densityDrawing table context.style colors bandwidth steps extent)
  | violin (colors : List Scale) (bandwidth : Binary64) (steps : Int) (extent : Extent)
      (rows : table.isEmpty = false) (numeric : table.yIsNumeric = true)
      (colored : table.groupColorScale context.style = .ok colors) :
      Drawn table context .violin
        (violinDrawing table context.style colors bandwidth steps extent)
  | boxplot (colors : List Scale) (factor : Binary64) (rows : table.isEmpty = false)
      (numeric : table.yIsNumeric = true)
      (colored : table.groupColorScale context.style = .ok colors) :
      Drawn table context .boxplot (boxplotDrawing table context.style colors factor)
  | means (colors : List Scale) (z : Binary64) (rows : table.isEmpty = false)
      (numeric : table.yIsNumeric = true)
      (colored : table.groupColorScale context.style = .ok colors) :
      Drawn table context .summary (meansDrawing table context.style colors z)
  | quantiles (colors : List Scale) (rows : table.isEmpty = false)
      (numeric : table.yIsNumeric = true)
      (colored : table.groupColorScale context.style = .ok colors) :
      Drawn table context .qq (quantilesDrawing table context.style colors)
  | ellipse (colors : List Scale) (points : Int) (angle radius : Binary64)
      (rows : table.isEmpty = false)
      (numeric : table.xIsNumeric = true ∧ table.yIsNumeric = true)
      (colored : table.groupColorScale context.style = .ok colors) :
      Drawn table context .ellipse
        (ellipseDrawing table context.style colors points angle radius)

namespace Layer

variable {table : Table} {context : LayerContext} {parameters : Members} {drawing : Drawing}

/-! ## Layers of the rows and of given numbers -/

theorem points_drawn (returned : (points table context).Returns drawing) :
    Drawn table context .point drawing := by
  unfold points at returned
  split at returned
  · cases returned
    exact .empty _ _
  · next rows =>
      simp only [Run.returns_bind, Run.returns_lift, Run.returns_pure] at returned
      rcases returned with ⟨colors, colored, rfl⟩
      exact .points colors (by simpa using rows) colored

theorem displacement_drawn {displacement : Displacement}
    (returned : (displacement.draw table context parameters).Returns drawing) :
    ∃ colors source inline offset, table.groupColorScale context.style = .ok colors ∧
      Displacement.Offsets displacement table context source inline offset ∧
      drawing = displacement.drawing table context.style colors source inline offset := by
  unfold Displacement.draw at returned
  simp only [Run.returns_bind, Run.returns_lift, Run.returns_pure] at returned
  rcases returned with ⟨width, _, ⟨source, inline, offset⟩, drawn, colors, colored, rfl⟩
  exact ⟨colors, source, inline, offset, colored, Displacement.offsetOf_offsets drawn, rfl⟩

theorem jitter_drawn (returned : (jitter table context parameters).Returns drawing) :
    Drawn table context .jitter drawing := by
  unfold jitter at returned
  split at returned
  · cases returned
    exact .empty _ _
  · next rows =>
      rcases displacement_drawn returned with
          ⟨colors, source, inline, offset, colored, offsets, rfl⟩
      exact .jitter colors source inline offset (by simpa using rows) colored offsets

theorem swarm_drawn (returned : (swarm table context parameters).Returns drawing) :
    Drawn table context .swarm drawing := by
  unfold swarm at returned
  split at returned
  · cases returned
    exact .empty _ _
  · next rows =>
      rcases displacement_drawn returned with
          ⟨colors, source, inline, offset, colored, offsets, rfl⟩
      exact .swarm colors source inline offset (by simpa using rows) colored offsets

theorem line_drawn (returned : (line table context).Returns drawing) :
    Drawn table context .line drawing := by
  unfold line at returned
  split at returned
  · cases returned
    exact .empty _ _
  · next rows =>
      simp only [Run.returns_bind, Run.returns_lift, Run.returns_pure] at returned
      rcases returned with ⟨colors, colored, rfl⟩
      exact .line colors (by simpa using rows) colored

theorem raster_drawn (returned : (raster table context).Returns drawing) :
    Drawn table context .raster drawing := by
  unfold raster at returned
  split at returned
  · cases returned
    exact .empty _ _
  · next rows =>
      simp only [Run.returns_bind, Run.returns_lift, Run.returns_pure] at returned
      rcases returned with ⟨colors, colored, rfl⟩
      exact .raster colors (by simpa using rows) colored

theorem interval_drawn (returned : (interval table context).Returns drawing) :
    Drawn table context .interval drawing := by
  unfold interval at returned
  split at returned
  · cases returned
    exact .empty _ _
  · next rows =>
      split at returned
      · cases returned
        exact .empty _ _
      · next bounded =>
          simp only [Run.returns_bind, Run.returns_lift, Run.returns_pure] at returned
          rcases returned with ⟨colors, colored, rfl⟩
          exact .interval colors (by simpa using rows) (by simpa using bounded) colored

theorem abline_drawn (returned : (abline table context parameters).Returns drawing) :
    Drawn table context .abline drawing := by
  unfold abline at returned
  split at returned
  · cases returned
    exact .empty _ _
  · next extent spanned =>
      simp only [Run.returns_bind, Run.returns_lift, Run.returns_pure] at returned
      rcases returned with ⟨slope, _, intercept, _, colors, colored, rfl⟩
      exact .abline colors extent slope intercept spanned colored

/-- Rules stand at the places of the rows, or at given places on a numeric field. -/
theorem ruleLayer_drawn {layer : RuleLayer}
    (returned : (layer.draw table context parameters).Returns drawing) :
    (∃ note, drawing = .empty note) ∨
      ∃ colors, table.groupColorScale context.style = .ok colors ∧
        ((table.isEmpty = false ∧ drawing = layer.rowRules table context.style colors) ∨
          ∃ values, values ≠ [] ∧ layer.numeric = true ∧
            drawing = layer.valueRules table context.style colors values) := by
  unfold RuleLayer.draw at returned
  simp only [Run.returns_bind] at returned
  rcases returned with ⟨values, _, returned⟩
  split at returned
  · split at returned
    · cases returned
      exact .inl ⟨_, rfl⟩
    · next rows =>
        simp only [Run.returns_bind, Run.returns_lift, Run.returns_pure] at returned
        rcases returned with ⟨colors, colored, rfl⟩
        exact .inr ⟨colors, colored, .inl ⟨by simpa using rows, rfl⟩⟩
  · next given =>
      split at returned
      · cases returned
        exact .inl ⟨_, rfl⟩
      · next numeric =>
          simp only [Run.returns_bind, Run.returns_lift, Run.returns_pure] at returned
          rcases returned with ⟨colors, colored, rfl⟩
          exact .inr ⟨colors, colored,
            .inr ⟨values, by simpa using given, by simpa using numeric, rfl⟩⟩

theorem vline_drawn (returned : (vline table context parameters).Returns drawing) :
    Drawn table context .vline drawing := by
  rcases ruleLayer_drawn returned with ⟨note, rfl⟩ | ⟨colors, colored, drawn⟩
  · exact .empty _ _
  · rcases drawn with ⟨rows, rfl⟩ | ⟨values, given, numeric, rfl⟩
    · exact .rowVlines colors rows colored
    · exact .valueVlines colors values given numeric colored

theorem hline_drawn (returned : (hline table context parameters).Returns drawing) :
    Drawn table context .hline drawing := by
  rcases ruleLayer_drawn returned with ⟨note, rfl⟩ | ⟨colors, colored, drawn⟩
  · exact .empty _ _
  · rcases drawn with ⟨rows, rfl⟩ | ⟨values, given, numeric, rfl⟩
    · exact .rowHlines colors rows colored
    · exact .valueHlines colors values given numeric colored

theorem polygon_drawn (returned : (polygon table context parameters).Returns drawing) :
    Drawn table context .polygon drawing := by
  unfold polygon at returned
  simp only [Run.returns_bind] at returned
  rcases returned with ⟨xs, _, ys, _, returned⟩
  split at returned
  · next given =>
      have vertices : xs ≠ [] ∧ ys ≠ [] := by simpa using given
      split at returned
      · next numeric =>
          simp only [Run.returns_bind, Run.returns_lift, Run.returns_pure] at returned
          rcases returned with ⟨colors, colored, rfl⟩
          simp only [Bool.and_eq_true, Bool.not_eq_true'] at numeric
          exact .placedPolygon colors xs ys vertices numeric.1.1 ⟨numeric.1.2, numeric.2⟩ colored
      · next unplaced =>
          cases returned
          exact .freePolygon xs ys vertices (by simpa using unplaced)
  · split at returned
    · cases returned
      exact .empty _ _
    · next numeric =>
        simp only [Run.returns_bind, Run.returns_lift, Run.returns_pure] at returned
        rcases returned with ⟨colors, colored, rfl⟩
        simp only [Bool.not_eq_true', Bool.not_eq_false, Bool.and_eq_true] at numeric
        exact .rowPolygon colors numeric.1.1 ⟨numeric.1.2, numeric.2⟩ colored

theorem bars_drawn (returned : (bars table context).Returns drawing) :
    Drawn table context .bar drawing := by
  unfold bars at returned
  split at returned
  · cases returned
    exact .empty _ _
  · next rows =>
      split at returned
      · cases returned
        exact .empty _ _
      · next numeric =>
          simp only [Run.returns_bind, Run.returns_lift, Run.returns_pure] at returned
          rcases returned with ⟨colors, colored, rfl⟩
          exact .bars colors (by simpa using rows) (by simpa using numeric) colored

/-! ## Fitted curves -/

theorem regression_returns {name : String} {order : Int} {step : Transform}
    (returned : (regression table name order).Returns step) :
    ∃ method, step = .regression method (table.groupedBy []) := by
  unfold regression at returned
  split at returned
  · next method _ =>
      cases returned
      exact ⟨method, rfl⟩
  · simp only [Run.returns_bind, Run.returns_pure] at returned
    rcases returned with ⟨_, _, rfl⟩
    exact ⟨.linear, rfl⟩

theorem requestedRegression_returns {step : Transform}
    (returned : (requestedRegression table parameters).Returns step) :
    ∃ method, step = .regression method (table.groupedBy []) := by
  unfold requestedRegression at returned
  split at returned
  · rw [Run.returns_bind] at returned
    rcases returned with ⟨order, _, returned⟩
    exact regression_returns returned
  · exact regression_returns returned

theorem regressionPlot_drawn
    (returned : (regressionPlot table context parameters).Returns drawing) :
    Drawn table context .regressionPlot drawing := by
  unfold regressionPlot at returned
  split at returned
  · cases returned
    exact .empty _ _
  · next rows =>
      split at returned
      · next obstacle _ =>
          simp only [Run.returns_bind, Run.returns_lift, Run.returns_pure] at returned
          rcases returned with ⟨colors, colored, rfl⟩
          exact .unfitted colors _ (by simpa using rows) colored
      · next unhindered =>
          have checked := Table.numericObstacle?_eq_none unhindered
          simp only [Run.returns_bind, Run.returns_lift, Run.returns_pure] at returned
          rcases returned with ⟨step, requested, colors, colored, rfl⟩
          rcases requestedRegression_returns requested with ⟨method, rfl⟩
          exact .regression colors method checked.1 ⟨checked.2.1 rfl, checked.2.2 rfl⟩ colored

theorem glm_drawn (returned : (glm table context parameters).Returns drawing) :
    Drawn table context .glm drawing := by
  unfold glm at returned
  split at returned
  · cases returned
    exact .empty _ _
  · next unhindered =>
      have checked := Table.numericObstacle?_eq_none unhindered
      simp only [Run.returns_bind, Run.returns_lift, Run.returns_pure] at returned
      rcases returned with ⟨step, requested, colors, colored, rfl⟩
      rcases requestedRegression_returns requested with ⟨method, rfl⟩
      exact .glm colors method checked.1 ⟨checked.2.1 rfl, checked.2.2 rfl⟩ colored

theorem fit_drawn (returned : (fit table context parameters).Returns drawing) :
    Drawn table context .fit drawing := by
  unfold fit at returned
  split at returned
  · cases returned
    exact .empty _ _
  · next unhindered =>
      have checked := Table.numericObstacle?_eq_none unhindered
      simp only [Run.returns_bind, Run.returns_lift, Run.returns_pure] at returned
      rcases returned with ⟨order, _, step, requested, colors, colored, rfl⟩
      rcases regression_returns requested with ⟨method, rfl⟩
      exact .fit colors method checked.1 ⟨checked.2.1 rfl, checked.2.2 rfl⟩ colored

theorem smooth_drawn (returned : (smooth table context parameters).Returns drawing) :
    Drawn table context .smooth drawing := by
  unfold smooth at returned
  split at returned
  · cases returned
    exact .empty _ _
  · next unhindered =>
      have checked := Table.numericObstacle?_eq_none unhindered
      simp only [Run.returns_bind, Run.returns_lift, Run.returns_pure] at returned
      rcases returned with ⟨bandwidth, _, colors, colored, rfl⟩
      exact .smooth colors bandwidth checked.1 ⟨checked.2.1 rfl, checked.2.2 rfl⟩ colored

/-! ## Counts, densities and summaries -/

theorem histogram_drawn (returned : (histogram table context parameters).Returns drawing) :
    Drawn table context .bin drawing := by
  unfold histogram at returned
  split at returned
  · cases returned
    exact .empty _ _
  · next unhindered =>
      have checked := Table.numericObstacle?_eq_none unhindered
      simp only [Run.returns_bind, Run.returns_lift, Run.returns_pure] at returned
      rcases returned with ⟨_, _, bins, _, colors, colored, rfl⟩
      exact .histogram colors bins checked.1 (checked.2.1 rfl) colored

theorem heatmap_drawn (returned : (heatmap table context parameters).Returns drawing) :
    Drawn table context .bin2d drawing := by
  unfold heatmap at returned
  split at returned
  · cases returned
    exact .empty _ _
  · next unhindered =>
      have checked := Table.numericObstacle?_eq_none unhindered
      simp only [Run.returns_bind, Run.returns_lift, Run.returns_pure] at returned
      rcases returned with ⟨_, _, xBins, _, yBins, _, rfl⟩
      exact .heatmap xBins yBins checked.1 ⟨checked.2.1 rfl, checked.2.2 rfl⟩

theorem cornerHistogram_drawn
    (returned : (cornerHistogram table context parameters).Returns drawing) :
    Drawn table context .cornerHistogram drawing := by
  unfold cornerHistogram at returned
  split at returned
  · cases returned
    exact .empty _ _
  · next unhindered =>
      have checked := Table.numericObstacle?_eq_none unhindered
      simp only [Run.returns_bind, Run.returns_lift, Run.returns_pure] at returned
      rcases returned with ⟨_, _, bins, _, colors, colored, rfl⟩
      exact .corner colors bins checked.1 ⟨checked.2.1 rfl, checked.2.2 rfl⟩ colored

theorem density_drawn (returned : (density table context parameters).Returns drawing) :
    Drawn table context .density drawing := by
  unfold density at returned
  split at returned
  · cases returned
    exact .empty _ _
  · next unhindered =>
      have checked := Table.numericObstacle?_eq_none unhindered
      simp only [Run.returns_bind, Run.returns_lift, Run.returns_pure] at returned
      rcases returned with ⟨extent, _, bandwidth, _, steps, _, colors, colored, rfl⟩
      exact .density colors bandwidth steps extent checked.1 (checked.2.1 rfl) colored

theorem violin_drawn (returned : (violin table context parameters).Returns drawing) :
    Drawn table context .violin drawing := by
  unfold violin at returned
  split at returned
  · cases returned
    exact .empty _ _
  · next unhindered =>
      have checked := Table.numericObstacle?_eq_none unhindered
      simp only [Run.returns_bind, Run.returns_lift, Run.returns_pure] at returned
      rcases returned with ⟨extent, _, bandwidth, _, steps, _, colors, colored, rfl⟩
      exact .violin colors bandwidth steps extent checked.1 (checked.2.2 rfl) colored

theorem boxplot_drawn (returned : (boxplot table context parameters).Returns drawing) :
    Drawn table context .boxplot drawing := by
  unfold boxplot at returned
  split at returned
  · cases returned
    exact .empty _ _
  · next unhindered =>
      have checked := Table.numericObstacle?_eq_none unhindered
      simp only [Run.returns_bind, Run.returns_lift, Run.returns_pure] at returned
      rcases returned with ⟨factor, _, colors, colored, rfl⟩
      exact .boxplot colors factor checked.1 (checked.2.2 rfl) colored

theorem means_drawn (returned : (means table context parameters).Returns drawing) :
    Drawn table context .summary drawing := by
  unfold means at returned
  split at returned
  · cases returned
    exact .empty _ _
  · next unhindered =>
      have checked := Table.numericObstacle?_eq_none unhindered
      simp only [Run.returns_bind, Run.returns_lift, Run.returns_pure] at returned
      rcases returned with ⟨z, _, colors, colored, rfl⟩
      exact .means colors z checked.1 (checked.2.2 rfl) colored

theorem quantiles_drawn (returned : (quantiles table context).Returns drawing) :
    Drawn table context .qq drawing := by
  unfold quantiles at returned
  split at returned
  · cases returned
    exact .empty _ _
  · next unhindered =>
      have checked := Table.numericObstacle?_eq_none unhindered
      simp only [Run.returns_bind, Run.returns_lift, Run.returns_pure] at returned
      rcases returned with ⟨colors, colored, rfl⟩
      exact .quantiles colors checked.1 (checked.2.2 rfl) colored

theorem ellipse_drawn (returned : (ellipse table context parameters).Returns drawing) :
    Drawn table context .ellipse drawing := by
  unfold ellipse at returned
  split at returned
  · cases returned
    exact .empty _ _
  · next unhindered =>
      have checked := Table.numericObstacle?_eq_none unhindered
      split at returned
      · cases returned
        exact .empty _ _
      · simp only [Run.returns_bind, Run.returns_lift, Run.returns_pure] at returned
        rcases returned with ⟨_, _, level, _, points, _, angle, _, colors, colored, rfl⟩
        exact .ellipse colors points angle _ checked.1 ⟨checked.2.1 rfl, checked.2.2 rfl⟩ colored

end Layer

/-! ## All layers -/

theorem LayerKind.draw_drawn {kind : LayerKind} {table : Table} {context : LayerContext}
    {parameters : Members} {drawing : Drawing}
    (returned : (kind.draw table context parameters).Returns drawing) :
    Drawn table context kind drawing := by
  cases kind with
  | point => exact points_drawn returned
  | line => exact line_drawn returned
  | bar => exact bars_drawn returned
  | jitter => exact jitter_drawn returned
  | swarm => exact swarm_drawn returned
  | raster => exact raster_drawn returned
  | interval => exact interval_drawn returned
  | abline => exact abline_drawn returned
  | vline => exact vline_drawn returned
  | hline => exact hline_drawn returned
  | polygon => exact polygon_drawn returned
  | glm => exact glm_drawn returned
  | smooth => exact smooth_drawn returned
  | fit => exact fit_drawn returned
  | bin => exact histogram_drawn returned
  | density => exact density_drawn returned
  | violin => exact violin_drawn returned
  | boxplot => exact boxplot_drawn returned
  | summary => exact means_drawn returned
  | bin2d => exact heatmap_drawn returned
  | ellipse => exact ellipse_drawn returned
  | qq => exact quantiles_drawn returned
  | cornerHistogram => exact cornerHistogram_drawn returned
  | regressionPlot => exact regressionPlot_drawn returned

/-- A requested layer draws what its kind draws from its parameters. -/
theorem LayerRequest.draw_returns_iff {request : LayerRequest} {table : Table}
    {context : LayerContext} {drawing : Drawing} :
    (request.draw table context).Returns drawing ↔
      (request.kind.draw table context request.parameters).Returns drawing := by
  have told : ∀ other : Drawing, (other.report request.kind).Returns () := by
    intro other
    unfold Drawing.report
    split <;> rfl
  unfold LayerRequest.draw
  simp only [Run.returns_bind, Run.returns_pure]
  constructor
  · rintro ⟨_, drawn, _, _, rfl⟩
    exact drawn
  · exact fun drawn => ⟨drawing, drawn, (), told drawing, rfl⟩

/-- A requested layer draws one of the drawings of its kind. -/
theorem LayerRequest.draw_drawn {request : LayerRequest} {table : Table} {context : LayerContext}
    {drawing : Drawing} (returned : (request.draw table context).Returns drawing) :
    Drawn table context request.kind drawing :=
  LayerKind.draw_drawn (LayerRequest.draw_returns_iff.mp returned)

end ChartCompiler
