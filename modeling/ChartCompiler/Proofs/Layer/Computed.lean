import ChartCompiler.Proofs.Layer.Finite
import ChartCompiler.Proofs.Layer.Parameters
import ChartCompiler.Proofs.Random.Offsets
import ChartCompiler.Proofs.Table.Finite

/-!
# Numbers that layers compute

Layers compute numbers from the extents of the fields and from their parameters: the start of an
axis, the steps of bins, the ends of a line. A drawing holds only finite numbers if these are
finite (`LayerKind.InRange`).
-/

namespace ChartCompiler

open Layer

variable {table : Table} {context : LayerContext} {parameters : Members} {drawing : Drawing}

/-- Whether the range that the bins of an extent cut up has a finite width. -/
def Extent.WidthInRange (extent : Extent) : Prop :=
  (extent.withWidth.greatest - extent.withWidth.least).isFinite = true

/-- Whether a line has finite heights at both ends of an extent. -/
def Extent.HeightsInRange (extent : Extent) (slope intercept : Binary64) : Prop :=
  ∀ place ∈ [extent.least, extent.greatest], (intercept + slope * place).isFinite = true

/-- Whether what a layer computes from the extents of a table and from its parameters is finite. -/
def LayerKind.InRange (kind : LayerKind) (table : Table) (parameters : Members) : Prop :=
  match kind with
  | .point | .jitter | .interval | .regressionPlot | .ellipse => table.StartInRange
  | .abline => ∀ extent ∈ table.xExtent,
      extent.HeightsInRange (parameters.realOr "slope" 1.0) (parameters.realOr "intercept" 0.0)
  | .bin => ∀ extent ∈ table.xExtent, extent.WidthInRange
  | .bin2d => (∀ extent ∈ table.xExtent, extent.WidthInRange) ∧
      ∀ extent ∈ table.yExtent, extent.WidthInRange
  | .cornerHistogram => table.StartInRange ∧
      ∀ extent ∈ table.differenceExtent, extent.WidthInRange
  | .line | .bar | .swarm | .raster | .vline | .hline | .polygon | .glm | .smooth | .fit | .density
  | .violin | .boxplot | .summary | .qq => True

instance (extent : Extent) : Decidable extent.WidthInRange :=
  inferInstanceAs (Decidable (_ = true))

instance (extent : Extent) (slope intercept : Binary64) :
    Decidable (extent.HeightsInRange slope intercept) :=
  inferInstanceAs (Decidable (∀ place ∈ [extent.least, extent.greatest], _ = true))

instance (kind : LayerKind) (table : Table) (parameters : Members) :
    Decidable (kind.InRange table parameters) := by
  cases kind <;> unfold LayerKind.InRange <;> infer_instance

/-- Whether the data sources of a drawing compute with finite numbers and hold only such rows. -/
structure Drawing.SourcesFinite (drawing : Drawing) : Prop where
  pipelines : ∀ pipeline ∈ drawing.pipelines, ∀ step ∈ pipeline.steps, ∀ number ∈ step.numbers,
    number.isFinite = true
  inline : ∀ inline ∈ drawing.inline, ∀ row ∈ inline.rows, row.OnlyFinite

/-- Whether all that a drawing puts into a document holds only finite numbers. -/
structure Drawing.OnlyFinite (drawing : Drawing) : Prop where
  graphics : ∀ graphic ∈ drawing.graphics, graphic.toMembers.OnlyFinite
  scales : ∀ scale ∈ drawing.scales, scale.toMembers.OnlyFinite
  axes : ∀ axis ∈ drawing.axes, axis.toMembers.OnlyFinite
  sources : drawing.SourcesFinite

/-! ## Bins -/

namespace Extent

/-- A range of finite width has finite ends. -/
theorem WidthInRange.ends {extent : Extent} (inRange : extent.WidthInRange) :
    extent.withWidth.OnlyFinite := by
  rcases Binary64.isFinite_add inRange with ⟨greatest, least⟩
  refine ⟨?_, greatest⟩
  generalize extent.withWidth.least = lower at least
  cases lower <;> first | rfl | cases least

/-- An extent is widened as its ends are. -/
theorem withWidth_ends (extent : Extent) :
    ChartCompiler.withWidth (.real extent.least) (.real extent.greatest) =
      .ok (.real extent.withWidth.least, .real extent.withWidth.greatest) := by
  unfold ChartCompiler.withWidth Extent.withWidth
  generalize (0.5 : Binary64) = half
  change (if extent.least.lessThan extent.greatest = true then _ else _) = _
  cases extent.least.lessThan extent.greatest <;> rfl

/-- Bins cut up the widened range of an extent. -/
theorem bins_eq (extent : Extent) (count : Int) :
    extent.bins count = do
      let step ← Number.divide (.real (extent.withWidth.greatest - extent.withWidth.least))
        (.whole count)
      return ⟨.real extent.withWidth.least, .real extent.withWidth.greatest, .real step⟩ := by
  unfold Extent.bins Bins.of
  generalize Number.divide = divide
  rw [withWidth_ends, ok_bind]
  dsimp only
  rw [Number.subtract_real, ok_bind]

theorem bins_isFinite {extent : Extent} {count : Int} {bins : Bins} (inRange : extent.WidthInRange)
    (positive : 1 ≤ count) (made : extent.bins count = .ok bins) :
    ∀ number ∈ [bins.low, bins.high, bins.step], number.isFinite = true := by
  rcases inRange.ends with ⟨least, greatest⟩
  rw [bins_eq] at made
  rcases (bind_eq_ok_iff _ _ _).mp made with ⟨step, divided, equal⟩
  cases equal
  have steps := Number.divide_isFinite inRange positive divided
  simp [Number.isFinite, least, greatest, steps]

end Extent

/-! ## Sources of single kinds -/

theorem Layer.binsOf_isFinite {found : Option Extent} {count : Int} {bins : Bins}
    (inRange : ∀ extent ∈ found, extent.WidthInRange) (positive : 1 ≤ count)
    (made : binsOf found count = .ok bins) :
    ∀ number ∈ [bins.low, bins.high, bins.step], number.isFinite = true := by
  cases found with
  | none => cases made
  | some extent => exact Extent.bins_isFinite (inRange extent rfl) positive made

theorem Layer.densityExtent_onlyFinite {found : Option Extent} {extent : Extent}
    (finite : ∀ given ∈ found, given.OnlyFinite) (taken : densityExtent found = .ok extent) :
    extent.OnlyFinite := by
  cases found with
  | none => cases taken
  | some given =>
      cases taken
      exact (finite given rfl).withWidth

/-- Rows that carry offsets within a finite spread. -/
theorem Layer.Displacement.inline_onlyFinite {displacement : Displacement} {width : Binary64}
    {source : String} {inline : List InlineRows} {offset : Expr} (holds : table.Holds)
    (finite : context.style.OnlyFinite) (wide : width.isFinite = true)
    (drawn : displacement.offsetOf table context width = .ok (source, inline, offset)) :
    ∀ rows ∈ inline, ∀ row ∈ rows.rows, row.OnlyFinite := by
  unfold offsetOf at drawn
  split at drawn
  · rcases (bind_eq_ok_iff _ _ _).mp drawn with ⟨_, _, equal⟩
    cases equal
    exact List.forall_mem_nil _
  · rcases (bind_eq_ok_iff _ _ _).mp drawn with ⟨rows, carried, equal⟩
    cases equal
    rcases (bind_eq_ok_iff _ _ _).mp carried with ⟨offsets, spread, equal⟩
    cases equal
    have distances := Random.offsets_isFinite spread <| by
      intro factors taken
      split at taken
      · rw [Random.factors_real] at taken
        cases taken
        intro factor inside
        exact List.eq_of_mem_replicate inside ▸ wide
      · exact finite.jitterPixels _ factors taken
    refine List.forall_mem_singleton.mpr (List.forall_mem_map.mpr fun ⟨record, offset⟩ inside => ?_)
    rcases List.of_mem_zip inside with ⟨listed, given⟩
    simpa [Number.isFinite] using ⟨holds.records record listed, distances offset given⟩

namespace Drawing.SourcesFinite

/-- A drawing that computes without numbers and has no rows of its own. -/
theorem of_plain (inline : drawing.inline = [])
    (plain : (drawing.pipelines.flatMap (·.steps)).flatMap Transform.numbers = []) :
    drawing.SourcesFinite where
  pipelines pipeline inside step listed number taken := by
    have among := List.mem_flatMap_of_mem (List.mem_flatMap_of_mem inside listed) taken
    rw [plain] at among
    cases among
  inline := by
    rw [inline]
    exact List.forall_mem_nil _

theorem empty (note : String) : (Drawing.empty note).SourcesFinite :=
  of_plain rfl rfl

/-- A drawing with one source that it computes. -/
theorem of_steps {name source : String} {steps : List Transform}
    (computed : drawing.pipelines = [⟨name, source, steps⟩]) (inline : drawing.inline = [])
    (finite : ∀ step ∈ steps, ∀ number ∈ step.numbers, number.isFinite = true) :
    drawing.SourcesFinite where
  pipelines := by
    rw [computed]
    exact List.forall_mem_singleton.mpr finite
  inline := by
    rw [inline]
    exact List.forall_mem_nil _

/-- A drawing with rows of its own. -/
theorem of_rows {rows : List InlineRows} (computed : drawing.pipelines = [])
    (inline : drawing.inline = rows) (finite : ∀ given ∈ rows, ∀ row ∈ given.rows, row.OnlyFinite) :
    drawing.SourcesFinite where
  pipelines := by
    rw [computed]
    exact List.forall_mem_nil _
  inline := inline ▸ finite

end Drawing.SourcesFinite

namespace Layer

open Drawing

variable (holds : table.Holds) (finite : context.style.OnlyFinite)

include holds finite in
theorem Displacement.draw_sources {displacement : Displacement}
    (returned : (displacement.draw table context parameters).Returns drawing) :
    drawing.SourcesFinite := by
  unfold Displacement.draw at returned
  simp only [Run.returns_bind, Run.returns_lift, Run.returns_pure] at returned
  rcases returned with ⟨width, read, ⟨source, inline, offset⟩, drawn, colors, _, rfl⟩
  have wide : width.isFinite = true := by
    rw [Members.realParameter_eq read]
    exact Members.realOr_finite (by decide +kernel)
  exact .of_rows rfl rfl (Displacement.inline_onlyFinite holds finite wide drawn)

theorem abline_sources (inRange : LayerKind.abline.InRange table parameters)
    (holds : table.Holds) (returned : (abline table context parameters).Returns drawing) :
    drawing.SourcesFinite := by
  unfold abline at returned
  split at returned
  · cases returned
    exact .empty _
  · next extent spanned =>
      simp only [Run.returns_bind, Run.returns_lift, Run.returns_pure] at returned
      rcases returned with ⟨slope, slopeRead, intercept, interceptRead, colors, _, rfl⟩
      rcases holds.xExtent extent spanned with ⟨least, greatest⟩
      have heights := inRange extent spanned
      rw [← Members.realParameter_eq slopeRead, ← Members.realParameter_eq interceptRead] at heights
      refine .of_rows rfl rfl (List.forall_mem_singleton.mpr (List.forall_mem_map.mpr ?_))
      intro place listed
      have across : place.isFinite = true := by
        rcases List.mem_pair.mp listed with rfl | rfl
        · exact least
        · exact greatest
      simpa [Number.isFinite] using ⟨across, heights place listed⟩

theorem RuleLayer.draw_sources {layer : RuleLayer}
    (returned : (layer.draw table context parameters).Returns drawing) :
    drawing.SourcesFinite := by
  unfold RuleLayer.draw at returned
  simp only [Run.returns_bind] at returned
  rcases returned with ⟨values, read, returned⟩
  split at returned
  · split at returned
    · cases returned
      exact .empty _
    · simp only [Run.returns_bind, Run.returns_lift, Run.returns_pure] at returned
      rcases returned with ⟨colors, _, rfl⟩
      exact .of_plain rfl rfl
  · split at returned
    · cases returned
      exact .empty _
    · simp only [Run.returns_bind, Run.returns_lift, Run.returns_pure] at returned
      rcases returned with ⟨colors, _, rfl⟩
      refine .of_rows rfl rfl (List.forall_mem_singleton.mpr (List.forall_mem_map.mpr ?_))
      rw [Members.numberListParameter_eq read]
      intro place listed
      simpa [Number.isFinite] using Members.numbersOf_finite place listed

theorem polygon_sources (returned : (polygon table context parameters).Returns drawing) :
    drawing.SourcesFinite := by
  unfold polygon at returned
  simp only [Run.returns_bind] at returned
  rcases returned with ⟨xs, xsRead, ys, ysRead, returned⟩
  have vertices : ∀ vertex ∈ xs.zip ys,
      Members.OnlyFinite [("x", .real vertex.1), ("y", .real vertex.2)] := by
    rw [Members.numberListParameter_eq xsRead, Members.numberListParameter_eq ysRead]
    rintro ⟨x, y⟩ inside
    rcases List.of_mem_zip inside with ⟨across, up⟩
    simpa [Number.isFinite] using
      ⟨Members.numbersOf_finite x across, Members.numbersOf_finite y up⟩
  split at returned
  · split at returned
    · simp only [Run.returns_bind, Run.returns_lift, Run.returns_pure] at returned
      rcases returned with ⟨colors, _, rfl⟩
      exact .of_rows rfl rfl (List.forall_mem_singleton.mpr (List.forall_mem_map.mpr vertices))
    · cases returned
      exact .of_rows rfl rfl (List.forall_mem_singleton.mpr (List.forall_mem_map.mpr vertices))
  · split at returned
    · cases returned
      exact .empty _
    · simp only [Run.returns_bind, Run.returns_lift, Run.returns_pure] at returned
      rcases returned with ⟨colors, _, rfl⟩
      exact .of_plain rfl rfl

theorem smooth_sources (returned : (smooth table context parameters).Returns drawing) :
    drawing.SourcesFinite := by
  unfold smooth at returned
  split at returned
  · cases returned
    exact .empty _
  · simp only [Run.returns_bind, Run.returns_lift, Run.returns_pure] at returned
    rcases returned with ⟨bandwidth, read, colors, _, rfl⟩
    refine .of_steps rfl rfl (List.forall_mem_singleton.mpr (List.forall_mem_singleton.mpr ?_))
    rw [Members.realParameter_eq read]
    exact Members.realOr_finite (by decide +kernel)

theorem histogram_sources (inRange : LayerKind.bin.InRange table parameters)
    (returned : (histogram table context parameters).Returns drawing) : drawing.SourcesFinite := by
  unfold histogram at returned
  split at returned
  · cases returned
    exact .empty _
  · simp only [Run.returns_bind, Run.returns_lift, Run.returns_pure] at returned
    rcases returned with ⟨count, read, bins, made, colors, _, rfl⟩
    rw [Members.wholeParameter_eq (by decide) read] at made
    have parts := binsOf_isFinite inRange (Members.wholeOr_minimum (by decide)) made
    refine .of_steps rfl rfl (List.forall_mem_cons.mpr ⟨parts, List.forall_mem_cons.mpr
      ⟨List.forall_mem_nil _, ?_⟩⟩)
    split
    · exact List.forall_mem_singleton.mpr (List.forall_mem_nil _)
    · exact List.forall_mem_nil _

theorem heatmap_sources (inRange : LayerKind.bin2d.InRange table parameters)
    (returned : (heatmap table context parameters).Returns drawing) : drawing.SourcesFinite := by
  unfold heatmap at returned
  split at returned
  · cases returned
    exact .empty _
  · simp only [Run.returns_bind, Run.returns_lift, Run.returns_pure] at returned
    rcases returned with ⟨count, read, xBins, xMade, yBins, yMade, rfl⟩
    rw [Members.wholeParameter_eq (by decide) read] at xMade yMade
    exact .of_steps rfl rfl (List.forall_mem_cons.mpr
      ⟨binsOf_isFinite inRange.1 (Members.wholeOr_minimum (by decide)) xMade,
        List.forall_mem_cons.mpr
          ⟨binsOf_isFinite inRange.2 (Members.wholeOr_minimum (by decide)) yMade,
            List.forall_mem_singleton.mpr (List.forall_mem_nil _)⟩⟩)

theorem cornerHistogram_sources (inRange : LayerKind.cornerHistogram.InRange table parameters)
    (returned : (cornerHistogram table context parameters).Returns drawing) :
    drawing.SourcesFinite := by
  unfold cornerHistogram at returned
  split at returned
  · cases returned
    exact .empty _
  · simp only [Run.returns_bind, Run.returns_lift, Run.returns_pure] at returned
    rcases returned with ⟨count, read, bins, made, colors, _, rfl⟩
    rw [Members.wholeParameter_eq (by decide) read] at made
    exact .of_steps rfl rfl (List.forall_mem_cons.mpr
      ⟨List.forall_mem_nil _, List.forall_mem_cons.mpr
        ⟨binsOf_isFinite inRange.2 (Members.wholeOr_minimum (by decide)) made,
          List.forall_mem_singleton.mpr (List.forall_mem_nil _)⟩⟩)

/-- The numbers of a density estimate. -/
theorem densityNumbers_isFinite {found : Option Extent} {extent : Extent} {bandwidth : Binary64}
    {default : Binary64} (spans : ∀ given ∈ found, given.OnlyFinite)
    (taken : densityExtent found = .ok extent) (usual : default.isFinite = true)
    (read : (parameters.realParameter "bandwidth" default).Returns bandwidth) :
    ∀ number ∈ [Number.real bandwidth, .real extent.least, .real extent.greatest],
      number.isFinite = true := by
  rcases densityExtent_onlyFinite spans taken with ⟨least, greatest⟩
  have wide := @Members.realOr_finite parameters "bandwidth" default usual
  rw [Members.realParameter_eq read]
  simp [Number.isFinite, least, greatest, wide]

theorem density_sources (holds : table.Holds)
    (returned : (density table context parameters).Returns drawing) : drawing.SourcesFinite := by
  unfold density at returned
  split at returned
  · cases returned
    exact .empty _
  · simp only [Run.returns_bind, Run.returns_lift, Run.returns_pure] at returned
    rcases returned with ⟨extent, taken, bandwidth, read, steps, _, colors, _, rfl⟩
    exact .of_steps rfl rfl (List.forall_mem_singleton.mpr
      (densityNumbers_isFinite holds.xExtent taken (by decide +kernel) read))

theorem violin_sources (holds : table.Holds)
    (returned : (violin table context parameters).Returns drawing) : drawing.SourcesFinite := by
  unfold violin at returned
  split at returned
  · cases returned
    exact .empty _
  · simp only [Run.returns_bind, Run.returns_lift, Run.returns_pure] at returned
    rcases returned with ⟨extent, taken, bandwidth, read, steps, _, colors, _, rfl⟩
    exact .of_steps rfl rfl (List.forall_mem_singleton.mpr
      (densityNumbers_isFinite holds.yExtent taken (by decide +kernel) read))

end Layer

/-! ## All layers -/

theorem LayerKind.InRange.start {kind : LayerKind} (inRange : kind.InRange table parameters)
    (padded : kind.padsStart = true) : table.StartInRange := by
  cases kind
  case point | jitter | interval | regressionPlot | ellipse => exact inRange
  case cornerHistogram => exact inRange.1
  all_goals cases padded

theorem LayerKind.draw_sources {kind : LayerKind} (holds : table.Holds)
    (finite : context.style.OnlyFinite) (inRange : kind.InRange table parameters)
    (returned : (kind.draw table context parameters).Returns drawing) :
    drawing.SourcesFinite := by
  have drawn := LayerKind.draw_drawn returned
  cases kind
  case jitter =>
      change (Layer.jitter table context parameters).Returns drawing at returned
      unfold Layer.jitter at returned
      split at returned
      · cases returned
        exact .empty _
      · exact Displacement.draw_sources holds finite returned
  case swarm =>
      change (Layer.swarm table context parameters).Returns drawing at returned
      unfold Layer.swarm at returned
      split at returned
      · cases returned
        exact .empty _
      · exact Displacement.draw_sources holds finite returned
  case abline => exact abline_sources inRange holds returned
  case vline | hline => exact RuleLayer.draw_sources returned
  case polygon => exact polygon_sources returned
  case smooth => exact smooth_sources returned
  case bin => exact histogram_sources inRange returned
  case bin2d => exact heatmap_sources inRange returned
  case cornerHistogram => exact cornerHistogram_sources inRange returned
  case density => exact density_sources holds returned
  case violin => exact violin_sources holds returned
  all_goals
    -- The other kinds compute with fields and expressions only.
    cases drawn <;> exact .of_plain rfl rfl

/-- A layer draws only finite numbers if those that it computes are in the range. -/
theorem LayerKind.draw_onlyFinite {kind : LayerKind} (holds : table.Holds)
    (finite : context.style.OnlyFinite) (inRange : kind.InRange table parameters)
    (returned : (kind.draw table context parameters).Returns drawing) : drawing.OnlyFinite where
  graphics := (LayerKind.draw_drawn returned).graphics_onlyFinite finite
  scales := (LayerKind.draw_drawn returned).scales_onlyFinite finite inRange.start
  axes := (LayerKind.draw_drawn returned).axes_onlyFinite
  sources := LayerKind.draw_sources holds finite inRange returned

theorem LayerRequest.draw_onlyFinite {request : LayerRequest} (holds : table.Holds)
    (finite : context.style.OnlyFinite) (inRange : request.kind.InRange table request.parameters)
    (returned : (request.draw table context).Returns drawing) : drawing.OnlyFinite := by
  unfold LayerRequest.draw at returned
  simp only [Run.returns_bind, Run.returns_pure] at returned
  rcases returned with ⟨_, drawn, _, _, rfl⟩
  exact LayerKind.draw_onlyFinite holds finite inRange drawn

end ChartCompiler
