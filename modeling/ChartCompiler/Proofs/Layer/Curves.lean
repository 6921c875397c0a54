import ChartCompiler.Proofs.Layer.Points

/-!
# Curves fit

Curves through the points of a computed source, one for each color group: regression lines, local
regressions, densities and the outlines of ellipses, and the points of quantiles.
-/

namespace ChartCompiler

variable {table : Table} {style : Style} {colors : List Scale}

/-! ## Grouping by color -/

namespace Table

theorem groupedBy_subset {fields known : List String} (inside : fields ⊆ known)
    (color : table.hasColorGroup = true → "color" ∈ known) : table.groupedBy fields ⊆ known := by
  unfold groupedBy
  split
  · next grouped =>
      exact List.append_subset.mpr ⟨inside, List.cons_subset.mpr ⟨color grouped,
        List.nil_subset _⟩⟩
  · exact inside

theorem color_mem_groupedBy (fields : List String) (grouped : table.hasColorGroup = true) :
    "color" ∈ table.groupedBy fields := by
  simp [groupedBy, grouped]

theorem subset_groupedBy (fields : List String) : fields ⊆ table.groupedBy fields := by
  unfold groupedBy
  split
  · exact List.subset_append_left _ _
  · exact List.Subset.refl _

/-- The rows of the table can be grouped by their color. -/
theorem groups_subset_fields : table.groupedBy [] ⊆ table.fields :=
  groupedBy_subset (List.nil_subset _) color_mem_fields

end Table

/-! ## Drawing a curve -/

section

variable {environment : Environment} {columns : Columns}

/-- A curve fits if its points can be placed. -/
theorem Table.curve_fits {source name xField yField : String} {stroke : Encoding} {width : Value}
    (words : Expr.isField source = true ∧ Expr.isField name = true ∧
      Expr.isField (source ++ "_series") = true)
    (read : environment.sources.lookup source = some columns)
    (grouped : table.hasColorGroup = true → "color" ∈ columns.fields)
    (fresh : source ++ "_series" ∉ environment.sources.map (·.1))
    (x : environment.Places columns .x xField) (y : environment.Places columns .y yField)
    (shown : stroke.Fits environment columns) (known : environment.style.Knows width) :
    (table.curve source name stroke width xField yField).Fits environment := by
  refine LineFits.linePerGroup ⟨rfl, words, read, grouped, fresh, ?_, ?_⟩
  · simp only [Mark.encodings, Channels.encodings, List.map_cons, List.map_nil, List.append_nil,
      List.forall_mem_cons]
    exact ⟨⟨x, by simp⟩, ⟨y, by simp⟩, shown, known, List.forall_mem_nil _⟩
  · intro order inside
    cases inside
    exact ⟨x.word, x.held⟩

end

namespace Layer

/-! ## Fitted curves -/

/-- A layer with a fitted curve fits if the curve and the other marks do. -/
theorem curveDrawing_fits {others : List Graphic} {fitted : FittedCurve} {role : AxisRole}
    (colored : table.groupColorScale style = .ok colors)
    (computed : fitted.pipeline.Fits [(tableSource, table.columns)])
    (graphics : ∀ graphic ∈ others ++ [fitted.graphic], graphic.Fits
      ((curveDrawing table colors others fitted role).environment table [] style)) :
    (curveDrawing table colors others fitted role).Fits table [] style :=
  Drawing.placed_fits rfl rfl colored rfl ⟨computed, trivial⟩ graphics

/-- The points of a regression line. -/
def regressionColumns (table : Table) : Columns :=
  ⟨["x", "y"] ++ table.groupedBy [], table.labelFields⟩

/-- What is needed to draw a regression line over a source of its own. -/
structure RegressionFits (environment : Environment) (table : Table) (source : String) : Prop where
  x : environment.SuitsX table
  y : environment.SuitsY table
  color : environment.SuitsColor (regressionColumns table) table
  read : environment.sources = [(tableSource, table.columns), (source, regressionColumns table)]

theorem regressionLine_fits {environment : Environment} {source name : String} {step : Transform}
    (fits : RegressionFits environment table source)
    (words : Expr.isField source = true ∧ Expr.isField name = true ∧
      Expr.isField (source ++ "_series") = true)
    (other : source ≠ tableSource)
    (fresh : source ++ "_series" ∉ [tableSource, source]) :
    (fittedLine table environment.style source name step).graphic.Fits environment := by
  have other : (source == tableSource) = false := beq_false_of_ne other
  refine Table.curve_fits words ?_ fits.color.held ?_
    (Encoding.places_x fits.x (List.mem_append_left _ (by simp)) (List.Subset.refl _))
    (Encoding.places_y fits.y (List.mem_append_left _ (by simp)) (List.Subset.refl _))
    (Encoding.groupColor_fits fits.color (.inl (Style.fitStroke_shown _)))
    (.inl (Style.lineWidth_shown _))
  · simp [fits.read, List.lookup_cons, other]
  · simpa [fits.read] using fresh

/-- A drawing with a regression line has what the line needs. -/
theorem regressionFits {source name : String} {method : RegressionMethod} {role : AxisRole}
    (colored : table.groupColorScale style = .ok colors) (others : List Graphic) :
    RegressionFits ((curveDrawing table colors others (fittedLine table style source name
      (.regression method (table.groupedBy []))) role).environment table [] style) table source :=
  ⟨Drawing.placed_suitsX rfl, Drawing.placed_suitsY rfl,
    Drawing.placed_suitsColor rfl colored (fun grouped =>
      List.mem_append_right _ (Table.color_mem_groupedBy [] grouped)) (List.Subset.refl _), rfl⟩

theorem fittedLine_computed {source name : String} {method : RegressionMethod} :
    (fittedLine table style source name (.regression method (table.groupedBy []))).pipeline.Fits
      [(tableSource, table.columns)] :=
  ⟨table.columns, rfl, ⟨Table.x_mem_fields, Table.y_mem_fields, Table.groups_subset_fields⟩,
    trivial⟩

theorem regressionDrawing_fits (colored : table.groupColorScale style = .ok colors)
    (method : RegressionMethod) :
    (regressionDrawing table style colors (.regression method (table.groupedBy []))).Fits table []
      style := by
  refine curveDrawing_fits colored fittedLine_computed (List.forall_mem_cons.mpr ⟨?_,
    List.forall_mem_singleton.mpr ?_⟩)
  · exact pointMark_fits (by simp) rfl (Drawing.placed_suitsX rfl) (Drawing.placed_suitsY rfl)
      (Drawing.placed_suitsColor rfl colored Table.color_mem_fields (List.Subset.refl _))
  · exact regressionLine_fits (regressionFits colored _) (by simp) (by decide) (by decide)

theorem glmDrawing_fits (colored : table.groupColorScale style = .ok colors)
    (method : RegressionMethod) :
    (curveDrawing table colors [] (fittedLine table style "glm_fit" "glm_line"
      (.regression method (table.groupedBy [])))).Fits table [] style :=
  curveDrawing_fits colored fittedLine_computed (List.forall_mem_singleton.mpr
    (regressionLine_fits (regressionFits colored _) (by simp) (by decide) (by decide)))

theorem fitDrawing_fits (colored : table.groupColorScale style = .ok colors)
    (method : RegressionMethod) :
    (curveDrawing table colors [] (fittedLine table style "fit_curve" "fit_line"
      (.regression method (table.groupedBy [])))).Fits table [] style :=
  curveDrawing_fits colored fittedLine_computed (List.forall_mem_singleton.mpr
    (regressionLine_fits (regressionFits colored _) (by simp) (by decide) (by decide)))

/-- The points of a local regression. -/
def smoothColumns (table : Table) : Columns :=
  ⟨["smooth_x", "smooth_y"] ++ table.groupedBy [], table.labelFields⟩

theorem smoothDrawing_fits (colored : table.groupColorScale style = .ok colors)
    (bandwidth : Binary64) :
    (curveDrawing table colors [] (smoothCurve table style bandwidth)).Fits table [] style := by
  have color : ((curveDrawing table colors [] (smoothCurve table style bandwidth)).environment table
      [] style).SuitsColor (smoothColumns table) table :=
    Drawing.placed_suitsColor rfl colored (fun grouped =>
      List.mem_append_right _ (Table.color_mem_groupedBy [] grouped)) (List.Subset.refl _)
  have x : ((curveDrawing table colors [] (smoothCurve table style bandwidth)).environment table
      [] style).SuitsX table := Drawing.placed_suitsX rfl
  have y : ((curveDrawing table colors [] (smoothCurve table style bandwidth)).environment table
      [] style).SuitsY table := Drawing.placed_suitsY rfl
  refine curveDrawing_fits colored ⟨table.columns, rfl, ⟨Table.x_mem_fields, Table.y_mem_fields,
    Table.groups_subset_fields⟩, trivial⟩ (List.forall_mem_singleton.mpr ?_)
  refine @Table.curve_fits table _ (smoothColumns table) _ _ _ _ _ _ (by simp) rfl color.held ?_
    ?_ ?_ (Encoding.fillColor_fits color) (.inl style.smoothLineWidth_shown)
  · simp [Drawing.environment, Drawing.sources, Drawing.givenSources, curveDrawing, smoothCurve,
      Pipeline.extend, tableSource]
  · exact .unlabelled (by simp) (by simp [smoothColumns]) x.declared
      (Table.notMem_labelFields (by decide) (by decide))
  · exact .unlabelled (by simp) (by simp [smoothColumns]) y.declared
      (Table.notMem_labelFields (by decide) (by decide))

/-! ## Densities -/

/-- The points of a density. -/
def densityColumns (table : Table) : Columns :=
  ⟨["value", "density"] ++ table.groupedBy [], table.labelFields⟩

theorem densityDrawing_fits (colored : table.groupColorScale style = .ok colors)
    (bandwidth : Binary64) (steps : Int) (extent : Extent) :
    (densityDrawing table style colors bandwidth steps extent).Fits table [] style := by
  have x : ((densityDrawing table style colors bandwidth steps extent).environment table []
      style).SuitsX table :=
    Drawing.suitsX _ (List.mem_cons_self ..) (by simp) (by simp +contextual [Table.xScale_kind])
  have y : "yscale" ∈ ((densityDrawing table style colors bandwidth steps extent).environment
      table [] style).scales :=
    Drawing.mem_scales (Table.yScaleOf "density" "density" true)
      (List.mem_cons_of_mem _ (List.mem_cons_self ..))
  have color : ((densityDrawing table style colors bandwidth steps extent).environment table
      [] style).SuitsColor (densityColumns table) table :=
    ⟨Table.color_declared colored fun _ inside => List.mem_cons_of_mem _
      (List.mem_cons_of_mem _ inside), fun grouped =>
      List.mem_append_right _ (Table.color_mem_groupedBy [] grouped), List.Subset.refl _⟩
  refine ⟨List.forall_mem_singleton.mpr ?_, List.forall_mem_cons.mpr ⟨?_, List.forall_mem_cons.mpr
    ⟨?_, Table.colors_fit colored⟩⟩, standardAxes_fit x.declared y (by decide) (by decide),
    ⟨⟨table.columns, rfl, ⟨Table.x_mem_fields, Table.groups_subset_fields⟩, trivial⟩, trivial⟩, ?_⟩
  · refine @Table.curve_fits table _ (densityColumns table) _ _ _ _ _ _ (by simp) rfl color.held
      ?_ ?_ ?_ (Encoding.fillColor_fits color) (.inl style.lineWidth_shown)
    · simp [Drawing.environment, Drawing.sources, Drawing.givenSources, densityDrawing,
        Pipeline.extend, tableSource]
    · exact .unlabelled (by simp) (by simp [densityColumns]) x.declared
        (Table.notMem_labelFields (by decide) (by decide))
    · exact .unlabelled (by simp) (by simp [densityColumns]) y
        (Table.notMem_labelFields (by decide) (by decide))
  · exact Table.xScale_fits _ _ _ (by simp [tableSource]) (by simp) rfl Table.x_mem_fields
  · exact @Table.yScaleOf_fits _ (densityColumns table) _ _ _ _ (by simp) (by simp) rfl
      (by simp [densityColumns])
  · exact Drawing.names_of_colored colored (show _ = ["xscale", "yscale"] ++ _ by
      simp [Drawing.scaleNames, densityDrawing]) (by decide) (by decide)

/-! ## Quantiles -/

/-- The rows with their quantiles. -/
def quantileColumns (table : Table) : Columns :=
  ⟨table.fields ++ ["rank"] ++ ["n"] ++ ["theoretical"], table.labelFields⟩

theorem quantilePipeline_fits : (quantilePipeline table).Fits [(tableSource, table.columns)] := by
  refine ⟨table.columns, rfl, ⟨Table.y_mem_fields, Table.groups_subset_fields⟩,
    ⟨fun _ inside => List.mem_append_left _ (Table.groups_subset_fields inside), by simp⟩, ?_,
    trivial⟩
  simp [Transform.fieldsAfter]

theorem quantilesDrawing_fits (colored : table.groupColorScale style = .ok colors) :
    (quantilesDrawing table style colors).Fits table [] style := by
  have x : "xscale" ∈ ((quantilesDrawing table style colors).environment table [] style).scales :=
    Drawing.mem_scales quantileScale (List.mem_cons_self ..)
  have y : ((quantilesDrawing table style colors).environment table [] style).SuitsY table :=
    Drawing.suitsY table.yScale (List.mem_cons_of_mem _ (List.mem_cons_self ..)) (by simp)
      (by simp +contextual [Table.yScale, Table.yScaleOf_kind])
  have held : table.fields ⊆ (quantileColumns table).fields := fun _ inside =>
    List.mem_append_left _ (List.mem_append_left _ (List.mem_append_left _ inside))
  have color : ((quantilesDrawing table style colors).environment table [] style).SuitsColor
      (quantileColumns table) table :=
    ⟨Table.color_declared colored fun _ inside => List.mem_cons_of_mem _
      (List.mem_cons_of_mem _ inside), fun grouped => held (Table.color_mem_fields grouped),
      List.Subset.refl _⟩
  refine ⟨List.forall_mem_singleton.mpr ?_, List.forall_mem_cons.mpr ⟨?_, List.forall_mem_cons.mpr
    ⟨?_, Table.colors_fit colored⟩⟩, standardAxes_fit x y.declared (by decide) (by decide),
    ⟨quantilePipeline_fits, trivial⟩, ?_⟩
  · refine .of_read (quantileColumns table) rfl (by simp) (by simp [quantileSource]) rfl ?_ (by simp)
    refine List.forall_mem_append.mpr ⟨List.forall_mem_cons.mpr ⟨?_, ?_⟩, List.forall_mem_nil _⟩
    · exact Encoding.fits_field (by simp) (by simp [quantileColumns]) x
        (Table.notMem_labelFields (by decide) (by decide)) (by decide)
    · exact Encoding.symbolChannels_fit color y (held Table.y_mem_fields)
        (.inl style.symbolSize_shown)
  · exact ⟨⟨by simp [quantileSource], by simp, quantileColumns table, rfl,
      by simp [quantileColumns]⟩, trivial⟩
  · exact Table.yScaleOf_fits _ _ (by simp [tableSource]) (by simp) rfl Table.y_mem_fields
  · exact Drawing.names_of_colored colored (show _ = ["xscale", "yscale"] ++ _ by
      simp [Drawing.scaleNames, quantilesDrawing, quantileScale, ScaleName.text]) (by decide) (by decide)

/-! ## Ellipses -/

theorem momentSteps_fit {sources : List (String × Columns)} :
    stepsFit sources table.fields (momentSteps table) := by
  have groups : table.groupedBy [] ⊆ table.fields ++ ["xx"] ++ ["yy"] ++ ["xy"] := fun _ inside =>
    List.mem_append_left _ (List.mem_append_left _ (List.mem_append_left _
      (Table.groups_subset_fields inside)))
  refine ⟨?_, ?_, ?_, ⟨groups, ?_⟩, trivial⟩
  all_goals simp [Transform.fieldsAfter]

/-- The fields of the moments. -/
def momentFields (table : Table) : List String :=
  table.groupedBy [] ++ ["mx", "my", "mxx", "myy", "mxy"]

theorem axisSteps_fit {sources : List (String × Columns)} :
    stepsFit sources (momentFields table) axisSteps := by
  refine ⟨?_, ?_, ?_, ?_, ?_, ?_, ?_, trivial⟩
  all_goals simp [Transform.fieldsAfter, momentFields, meanVariance]

/-- The fields of the moments and of the axes that are computed from them. -/
def axisFields (table : Table) : List String :=
  momentFields table ++ ["vx"] ++ ["vy"] ++ ["cxy"] ++ ["spread"] ++ ["l1"] ++ ["l2"] ++ ["theta"]

theorem outlineSteps_fit {sources : List (String × Columns)} (points : Int)
    (angle radius : Binary64) :
    stepsFit sources (axisFields table) (outlineSteps points angle radius) := by
  refine ⟨?_, ?_, ?_, ?_, ?_, trivial⟩
  all_goals simp [Transform.Fits, Transform.fieldsAfter, axisFields,
    momentFields, axisPart]

theorem ellipseSteps_fit {sources : List (String × Columns)} (points : Int)
    (angle radius : Binary64) :
    stepsFit sources table.fields (ellipseSteps table points angle radius) := by
  unfold ellipseSteps
  rw [stepsFit_append, stepsFit_append]
  exact ⟨⟨momentSteps_fit, axisSteps_fit⟩, outlineSteps_fit points angle radius⟩

/-- The points of the ellipses. -/
def ellipseColumns (table : Table) : Columns :=
  ⟨axisFields table ++ ["steps"] ++ ["step"] ++ ["t"] ++ ["ex"] ++ ["ey"], table.labelFields⟩

theorem ellipseMark_fits {environment : Environment} (x : environment.SuitsX table)
    (y : environment.SuitsY table) (color : environment.SuitsColor (ellipseColumns table) table) :
    ∀ encoding ∈ (ellipseMark table environment.style).encodings,
      encoding.Fits environment (ellipseColumns table) := by
  simp only [ellipseMark, Mark.encodings, Channels.encodings, List.map_cons, List.map_nil,
    List.append_nil, List.forall_mem_cons]
  exact ⟨Encoding.fits_field (by simp) (by simp [ellipseColumns]) x.declared
      (Table.notMem_labelFields (by decide) (by decide)) (by decide),
    Encoding.fits_field (by simp) (by simp [ellipseColumns]) y.declared
      (Table.notMem_labelFields (by decide) (by decide)) (by decide),
    Encoding.text_fits (by decide), Encoding.fillColor_fits color,
    Encoding.shown_fits (Style.lineWidth_shown _), Encoding.fillColor_fits color,
    Encoding.number_fits _, List.forall_mem_nil _⟩

theorem ellipseDrawing_fits (colored : table.groupColorScale style = .ok colors) (points : Int)
    (angle radius : Binary64) :
    (ellipseDrawing table style colors points angle radius).Fits table [] style := by
  have held : table.hasColorGroup = true → "color" ∈ (ellipseColumns table).fields :=
    fun grouped => by simp [ellipseColumns, axisFields, momentFields,
      Table.color_mem_groupedBy [] grouped]
  refine Drawing.placed_fits rfl rfl colored rfl
    ⟨⟨table.columns, rfl, ellipseSteps_fit points angle radius⟩, trivial⟩
    (List.forall_mem_singleton.mpr ?_)
  refine @LineFits.linePerGroup table _ (ellipseColumns table) _ _ _ _
    ⟨rfl, by simp [ellipseSource], rfl, held, ?_, ?_, ?_⟩
  · simp [Drawing.environment, Drawing.sources, Drawing.givenSources, ellipseDrawing,
      Pipeline.extend, tableSource, ellipseSource]
  · exact ellipseMark_fits (Drawing.placed_suitsX rfl) (Drawing.placed_suitsY rfl)
      (Drawing.placed_suitsColor rfl colored held (List.Subset.refl _))
  · intro order inside
    cases inside
    exact ⟨by simp, by simp [ellipseColumns]⟩

end Layer

end ChartCompiler
