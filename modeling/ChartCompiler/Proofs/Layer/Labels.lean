import ChartCompiler.Proofs.Layer.Scales
import ChartCompiler.Proofs.Layer.Drawn

/-!
# Labels in what layers draw

The names of the color groups are all that the scales and axes of a layer take over from the data.
Two scales list them; every other scale reads its domain from fields.
-/

namespace ChartCompiler

open Layer

variable {table : Table} {style : Style} {context : LayerContext}

/-- The scales whose domains list the color groups. -/
def ScaleName.listing : List String := [ScaleName.color, .colorOffset].map ScaleName.text

/-- Whether the color groups of a table are all that a scale takes over from the data. -/
structure Scale.Quiet (table : Table) (scale : Scale) : Prop where
  settings : ∀ setting ∈ scale.settings, setting.2.isPlain = true
  domain : (scale.name ∈ ScaleName.listing ∧ scale.domain = .labels table.colorDomain) ∨
    (scale.name ∉ ScaleName.listing ∧ scale.domain.isClear = true)

/-- Whether the scales and axes of a drawing take over nothing else, and axes are where they ask to
be. -/
structure Drawing.Quiet (table : Table) (drawing : Drawing) : Prop where
  scales : ∀ scale ∈ drawing.scales, scale.Quiet table
  axes : ∀ axis ∈ drawing.axes, ∀ setting ∈ axis.styling, setting.1 ≠ "orient"

/-! ## Settings and domains -/

/-- A setting that may be missing. -/
theorem Members.optional_plain {name : String} {value : Option Value}
    (plain : ∀ content ∈ value, content.isPlain = true) :
    ∀ setting ∈ Members.optional name value, setting.2.isPlain = true := by
  cases value with
  | none => exact List.forall_mem_nil _
  | some content => exact List.forall_mem_singleton.mpr (plain content rfl)

namespace Scale

theorem settings_plain {scale : Scale} (padding : ∀ value ∈ scale.padding, value.isPlain = true)
    (rounded : ∀ value ∈ scale.rounded, value.isPlain = true)
    (zero : ∀ value ∈ scale.zero, value.isPlain = true)
    (nice : ∀ value ∈ scale.nice, value.isPlain = true)
    (domainMin : ∀ value ∈ scale.domainMin, value.isPlain = true) :
    ∀ setting ∈ scale.settings, setting.2.isPlain = true := by
  have each := @Members.optional_plain
  simp only [settings, List.forall_mem_append]
  exact ⟨⟨⟨⟨each padding, each rounded⟩, each zero⟩, each nice⟩, each domainMin⟩

/-- A scale over a field of a data source. -/
theorem Quiet.field {scale : Scale} {source field : String} {sorted : Bool}
    (settings : ∀ setting ∈ scale.settings, setting.2.isPlain = true)
    (other : scale.name ∉ ScaleName.listing) (domain : scale.domain = .field source field sorted)
    (sourceWord : Expr.isField source = true) (fieldWord : Expr.isField field = true) :
    scale.Quiet table :=
  ⟨settings, .inr ⟨other, by rw [domain, ScaleDomain.isClear, sourceWord, fieldWord]; rfl⟩⟩

end Scale

/-! ## The scales that layers share -/

namespace Table

variable {source field : String} {colors : List Scale}

theorem xScale_quiet (role : AxisRole) (forceBand : Bool) {padding : Option Value}
    (plain : ∀ value ∈ padding, value.isPlain = true) (sourceWord : Expr.isField source = true)
    (fieldWord : Expr.isField field = true) :
    (table.xScale source field role forceBand padding).Quiet table := by
  have other : ScaleName.x.text ∉ ScaleName.listing := by decide
  unfold xScale
  split
  · exact .field (Scale.settings_plain plain nofun nofun nofun nofun) other rfl sourceWord fieldWord
  · refine .field (Scale.settings_plain nofun nofun nofun nofun ?_) other rfl sourceWord fieldWord
    intro value shown
    dsimp only at shown
    split at shown
    · rcases Option.map_eq_some_iff.mp shown with ⟨start, _, rfl⟩
      rfl
    · cases shown

theorem yScaleOf_quiet (continuous : Bool) (sourceWord : Expr.isField source = true)
    (fieldWord : Expr.isField field = true) : (yScaleOf source field continuous).Quiet table := by
  have other : ScaleName.y.text ∉ ScaleName.listing := by decide
  unfold yScaleOf
  split
  · refine .field ?_ other rfl sourceWord fieldWord
    exact List.forall_mem_cons.mpr ⟨rfl, List.forall_mem_singleton.mpr rfl⟩
  · exact .field (List.forall_mem_singleton.mpr rfl) other rfl sourceWord fieldWord

theorem groupColorScale_quiet (colored : table.groupColorScale style = .ok colors) :
    ∀ scale ∈ colors, scale.Quiet table := by
  have listed : ScaleName.color.text ∈ ScaleName.listing := List.mem_cons_self ..
  rcases groupColorScale_cases colored with ⟨_, rfl⟩ | ⟨_, items, _, rfl⟩
  · exact List.forall_mem_nil _
  · exact List.forall_mem_singleton.mpr ⟨List.forall_mem_nil _, .inl ⟨listed, rfl⟩⟩

theorem colorSlotScale_quiet : table.colorSlotScale.Quiet table := by
  have listed : ScaleName.colorOffset.text ∈ ScaleName.listing := by decide
  exact ⟨List.forall_mem_singleton.mpr rfl, .inl ⟨listed, rfl⟩⟩

theorem placeScales_quiet (role : AxisRole) (forceBand : Bool)
    (colored : table.groupColorScale style = .ok colors)
    (sourceWord : Expr.isField source = true) :
    ∀ scale ∈ table.placeScales colors role forceBand source, scale.Quiet table := by
  have plain : ∀ value ∈ some Scale.tightPadding, value.isPlain = true := by rintro _ ⟨⟩; rfl
  exact List.forall_mem_cons.mpr ⟨xScale_quiet role forceBand plain sourceWord (by simp),
    List.forall_mem_cons.mpr ⟨yScaleOf_quiet _ sourceWord (by simp), groupColorScale_quiet colored⟩⟩

theorem categoryScales_quiet {padding : Value} (plain : padding.isPlain = true)
    (colored : table.groupColorScale style = .ok colors) :
    ∀ scale ∈ table.categoryScales colors padding, scale.Quiet table := by
  have source : Expr.isField tableSource = true := by simp [tableSource]
  refine List.forall_mem_cons.mpr ⟨xScale_quiet _ _ (by rintro _ ⟨⟩; exact plain) source (by simp),
    List.forall_mem_cons.mpr ⟨yScaleOf_quiet _ source (by simp), ?_⟩⟩
  refine List.forall_mem_append.mpr ⟨groupColorScale_quiet colored, ?_⟩
  split
  · exact List.forall_mem_singleton.mpr colorSlotScale_quiet
  · exact List.forall_mem_nil _

end Table

/-! ## The scales of single layers -/

namespace Layer

variable {colors : List Scale}

theorem barScales_quiet (colored : table.groupColorScale style = .ok colors) :
    ∀ scale ∈ barScales table colors, scale.Quiet table := by
  have source : Expr.isField tableSource = true := by simp [tableSource]
  refine List.forall_mem_cons.mpr ⟨Table.xScale_quiet _ _ (by rintro _ ⟨⟩; rfl) source (by simp),
    List.forall_mem_cons.mpr ⟨?_, Table.groupColorScale_quiet colored⟩⟩
  have other : ScaleName.y.text ∉ ScaleName.listing := by decide
  unfold Table.yScale Table.yScaleOf
  split
  · refine .field (Scale.settings_plain (by rintro _ ⟨⟩) ?_ ?_ ?_ (by rintro _ ⟨⟩)) other rfl source (by simp)
    all_goals rintro _ ⟨⟩; rfl
  · refine .field (Scale.settings_plain ?_ ?_ (by rintro _ ⟨⟩) (by rintro _ ⟨⟩)
      (by rintro _ ⟨⟩)) other rfl source (by simp)
    all_goals rintro _ ⟨⟩; rfl

/-- The domain of the bounds of the rows reads other fields. -/
theorem intervalScale_quiet : (intervalScale table).Quiet table := by
  have other : ScaleName.y.text ∉ ScaleName.listing := by decide
  have place : (table.yScale).Quiet table :=
    Table.yScaleOf_quiet _ (by simp [tableSource]) (by simp)
  refine ⟨place.settings, .inr ⟨?_, ?_⟩⟩
  · change table.yScale.name ∉ _
    rwa [Table.yScale_name]
  · simp [intervalScale, ScaleDomain.isClear, tableSource]

theorem violinScale_quiet (slot : ScaleName) : (violinScale slot).Quiet table := by
  have other : ScaleName.violinWidth.text ∉ ScaleName.listing := by decide
  exact .field (List.forall_mem_nil _) other rfl (by simp [violinSource]) (by simp)

theorem heatScale_quiet : (heatScale style).Quiet table := by
  have other : ScaleName.heat.text ∉ ScaleName.listing := by decide
  exact .field (List.forall_mem_singleton.mpr rfl) other rfl (by simp) (by simp)

theorem quantileScale_quiet : quantileScale.Quiet table := by
  have other : ScaleName.x.text ∉ ScaleName.listing := by decide
  exact .field (List.forall_mem_singleton.mpr rfl) other rfl (by simp [quantileSource]) (by simp)

theorem vertexScales_quiet : ∀ scale ∈ vertexScales, scale.Quiet table := by
  have other : ScaleName.x.text ∉ ScaleName.listing ∧ ScaleName.y.text ∉ ScaleName.listing := by
    decide
  have source : Expr.isField vertexSource = true := by simp [vertexSource]
  exact List.forall_mem_cons.mpr
    ⟨.field (List.forall_mem_nil _) other.1 rfl source (by simp), List.forall_mem_singleton.mpr
      (.field (List.forall_mem_cons.mpr ⟨rfl, List.forall_mem_singleton.mpr rfl⟩) other.2 rfl source
        (by simp))⟩

end Layer

/-! ## All drawings -/

theorem standardAxes_unstyled {xStyling : Members}
    (plain : ∀ setting ∈ xStyling, setting.1 ≠ "orient") :
    ∀ axis ∈ standardAxes xStyling, ∀ setting ∈ axis.styling, setting.1 ≠ "orient" :=
  List.forall_mem_cons.mpr ⟨plain, List.forall_mem_singleton.mpr (List.forall_mem_nil _)⟩

/-- A drawing that places its marks by x and y, with standard axes. -/
theorem Drawing.Quiet.placed {drawing : Drawing} {colors : List Scale} {role : AxisRole}
    {forceBand : Bool} (colored : table.groupColorScale style = .ok colors)
    (scales : drawing.scales = table.placeScales colors role forceBand)
    (axes : drawing.axes = standardAxes) : drawing.Quiet table := by
  constructor
  · rw [scales]
    exact Table.placeScales_quiet role forceBand colored (by simp [tableSource])
  · rw [axes]
    exact standardAxes_unstyled (List.forall_mem_nil _)

/-- Whatever a layer draws takes over no more than the color groups. -/
theorem Drawn.quiet {kind : LayerKind} {drawing : Drawing}
    (drawn : Drawn table context kind drawing) : drawing.Quiet table := by
  have standard : ∀ axis ∈ standardAxes, ∀ setting ∈ axis.styling, setting.1 ≠ "orient" :=
    standardAxes_unstyled (List.forall_mem_nil _)
  have source : Expr.isField tableSource = true := by simp [tableSource]
  have place : ∀ role, (table.xScale tableSource "x" role).Quiet table := fun role =>
    Table.xScale_quiet role false (by rintro _ ⟨⟩; rfl) source (by simp)
  have height : table.yScale.Quiet table := Table.yScaleOf_quiet _ source (by simp)
  cases drawn with
  | empty note => exact ⟨List.forall_mem_nil _, List.forall_mem_nil _⟩
  | points _ _ colored | line _ _ colored | abline _ _ _ _ _ colored | rowVlines _ _ colored
  | valueVlines _ _ _ _ colored | rowHlines _ _ colored | valueHlines _ _ _ _ colored
  | placedPolygon _ _ _ _ _ _ colored | rowPolygon _ _ _ colored | unfitted _ _ _ colored
  | regression _ _ _ _ colored | glm _ _ _ _ colored | fit _ _ _ _ colored
  | smooth _ _ _ _ colored | corner _ _ _ _ colored | ellipse _ _ _ _ _ _ colored =>
      exact .placed colored rfl rfl
  | jitter _ _ _ _ _ colored _ =>
      exact ⟨Table.placeScales_quiet _ _ colored source, standard⟩
  | swarm _ _ _ _ _ colored _ =>
      exact ⟨Table.placeScales_quiet _ _ colored source, standardAxes_unstyled
        (List.forall_mem_cons.mpr ⟨by decide, List.forall_mem_singleton.mpr (by decide)⟩)⟩
  | raster _ _ colored =>
      exact ⟨List.forall_mem_cons.mpr ⟨place _, Table.groupColorScale_quiet colored⟩,
        List.forall_mem_singleton.mpr (List.forall_mem_nil _)⟩
  | interval _ _ _ colored =>
      exact ⟨List.forall_mem_cons.mpr ⟨place _, List.forall_mem_cons.mpr
        ⟨intervalScale_quiet, Table.groupColorScale_quiet colored⟩⟩, standard⟩
  | freePolygon _ _ _ _ => exact ⟨vertexScales_quiet, standard⟩
  | bars _ _ _ colored =>
      exact ⟨barScales_quiet colored,
        List.forall_mem_cons.mpr ⟨by decide, List.forall_mem_singleton.mpr (by decide)⟩⟩
  | histogram _ _ _ _ colored =>
      refine ⟨List.forall_mem_cons.mpr ⟨place _, List.forall_mem_cons.mpr
        ⟨Table.yScaleOf_quiet _ (by simp) ?_, Table.groupColorScale_quiet colored⟩⟩, standard⟩
      split <;> simp
  | heatmap _ _ _ _ =>
      exact ⟨List.forall_mem_cons.mpr ⟨place _, List.forall_mem_cons.mpr
        ⟨height, List.forall_mem_singleton.mpr heatScale_quiet⟩⟩, standard⟩
  | density _ _ _ _ _ _ colored =>
      exact ⟨List.forall_mem_cons.mpr ⟨place _, List.forall_mem_cons.mpr
        ⟨Table.yScaleOf_quiet _ (by simp) (by simp), Table.groupColorScale_quiet colored⟩⟩,
        standard⟩
  | violin _ _ _ _ _ _ colored =>
      exact ⟨List.forall_mem_append.mpr ⟨Table.categoryScales_quiet rfl colored,
        List.forall_mem_singleton.mpr (violinScale_quiet _)⟩,
        List.forall_mem_cons.mpr ⟨by decide, List.forall_mem_singleton.mpr (by decide)⟩⟩
  | boxplot _ _ _ _ colored =>
      exact ⟨Table.categoryScales_quiet rfl colored,
        List.forall_mem_cons.mpr ⟨by decide, List.forall_mem_singleton.mpr (by decide)⟩⟩
  | means _ _ _ _ colored => exact ⟨Table.categoryScales_quiet rfl colored, standard⟩
  | quantiles _ _ _ colored =>
      exact ⟨List.forall_mem_cons.mpr ⟨quantileScale_quiet, List.forall_mem_cons.mpr
        ⟨height, Table.groupColorScale_quiet colored⟩⟩, standard⟩

end ChartCompiler
