import ChartCompiler.Proofs.Drawing.Bins
import ChartCompiler.Proofs.Layer.Computed

/-!
# Ranges that layers compute over

Histograms cut the range of a field into bins, and densities are estimated over such a range. The
range covers the numbers of the field. It has a width, and its bins have one, except for numbers
that rounding does not tell apart (`FieldRange.Spans`).
-/

namespace ChartCompiler

open Layer

variable {table : Table} {context : LayerContext} {parameters : Members} {drawing : Drawing}

/-! ## The ranges of a drawing -/

/-- The range of a field that a step computes over, and the width of its bins if it has bins. -/
structure FieldRange where
  field : String
  low : Number
  high : Number
  step : Option Number

/-- The range that a step computes over. -/
def Transform.range? : Transform → Option FieldRange
  | .bin field bins _ => some ⟨field, bins.low, bins.high, some bins.step⟩
  | .density field _ _ extent _ | .groupDensity _ field _ _ extent =>
      some ⟨field, .real extent.least, .real extent.greatest, none⟩
  | _ => none

/-- The ranges that the data sources of a drawing compute over. -/
def Drawing.ranges (drawing : Drawing) : List FieldRange :=
  (drawing.pipelines.flatMap (·.steps)).filterMap Transform.range?

/-- The numbers of a field of a table, or of the difference that the source `cornerhist` adds. -/
def Table.numbersOf (table : Table) (field : String) : List Binary64 :=
  if field = "x" then table.rows.filterMap (·.x.number?)
  else if field = "y" then table.rows.filterMap (·.y.number?)
  else if field = "diff" then table.rows.filterMap Table.difference?
  else []

namespace LayerKind

/-- The fields over whose ranges layers of a kind compute. -/
def rangeFields : LayerKind → List String
  | .bin | .density => ["x"]
  | .violin => ["y"]
  | .bin2d => ["x", "y"]
  | .cornerHistogram => ["diff"]
  | _ => []

/-- The number of bins of a layer. -/
def binCount (kind : LayerKind) (parameters : Members) : Int :=
  parameters.wholeOr "nbins" (if kind = .bin then 30 else 20)

end LayerKind

/-- What holds of a range over some numbers with a number of bins, if it has bins. -/
structure FieldRange.Spans (range : FieldRange) (extent : Extent) (values : List Binary64)
    (count : Int) : Prop where
  low : range.low = .real extent.least
  high : range.high = .real extent.greatest
  covers : extent.Covers values
  wide : extent.least.lessThan extent.greatest = true ↔ ¬ Binary64.HalvesAbsorbed values
  cut : ∀ step ∈ range.step, Number.lessThan (.real .zero) step = true ∧ step.isFinite = true ↔
    ∃ divisor, realOfWhole count = .ok divisor ∧
      (extent.greatest - extent.least).CutsInto divisor

/-- Whether a drawing computes over the ranges of the fields of its kind. -/
structure Drawing.Ranged (drawing : Drawing) (kind : LayerKind) (table : Table)
    (parameters : Members) : Prop where
  fields : drawing.ranges.map (·.field) = kind.rangeFields
  spans : ∀ range ∈ drawing.ranges, ∃ extent,
    range.Spans extent (table.numbersOf range.field) (kind.binCount parameters)

/-! ## Ranges of extents -/

section Extents

variable {values : List Binary64} {extent : Extent} (found : Extent.of? values = some extent)
  (defined : ∀ value ∈ values, value ≠ .nan)

include found defined

theorem Extent.density_spans (field : String) (count : Int) :
    FieldRange.Spans ⟨field, .real extent.withWidth.least, .real extent.withWidth.greatest, none⟩
      extent.withWidth values count where
  low := rfl
  high := rfl
  covers := withWidth_covers found defined
  wide := withWidth_lessThan_iff found defined
  cut _ inside := by cases inside

theorem Extent.bins_spans {count : Int} {bins : Bins} (positive : 1 ≤ count)
    (made : extent.bins count = .ok bins) (field : String) :
    FieldRange.Spans ⟨field, bins.low, bins.high, some bins.step⟩ extent.withWidth values
      count := by
  rw [Extent.bins_eq, Number.divide_positive _ positive] at made
  obtain ⟨step, divided, equal⟩ := (bind_eq_ok_iff _ _ _).mp made
  cases equal
  cases taken : realOfWhole count with
  | error failure =>
      rw [taken] at divided
      cases divided
  | ok divisor =>
      rw [taken] at divided
      cases divided
      obtain ⟨magnitude, rfl, large⟩ := realOfWhole_large positive taken
      refine { density_spans found defined field count with cut := ?_ }
      rintro _ ⟨⟩
      have parts := Binary64.quotient_positive_iff
        (extent.withWidth.greatest - extent.withWidth.least) large
      rw [taken]
      simpa [Number.lessThan, Number.isFinite] using parts

end Extents

/-- Whether an extent, if there is one, is that of the numbers of a field. -/
def Table.Measures (table : Table) (field : String) (found : Option Extent) : Prop :=
  ∀ extent ∈ found, Extent.of? (table.numbersOf field) = some extent ∧
    ∀ value ∈ table.numbersOf field, value ≠ .nan

namespace Table.Holds

variable (holds : table.Holds)

include holds

theorem measures_x : table.Measures "x" table.xExtent := by
  intro extent found
  unfold Table.xExtent at found
  split at found
  · next numeric =>
      exact ⟨found, fun value inside => Binary64.ne_nan_of_isFinite
        (Extent.isFinite_of_cells (holds.xNumber numeric) value inside)⟩
  · cases found

theorem measures_y : table.Measures "y" table.yExtent := by
  intro extent found
  unfold Table.yExtent at found
  split at found
  · next numeric =>
      exact ⟨found, fun value inside => Binary64.ne_nan_of_isFinite
        (Extent.isFinite_of_cells (holds.yNumber numeric) value inside)⟩
  · cases found

theorem measures_difference : table.Measures "diff" table.differenceExtent := by
  intro extent found
  unfold differenceExtent at found
  split at found
  · next numeric =>
      obtain ⟨xNumeric, yNumeric⟩ := Bool.and_eq_true_iff.mp numeric
      exact ⟨found, holds.difference_defined xNumeric yNumeric⟩
  · cases found

end Table.Holds

theorem Layer.binsOf_spans {field : String} {found : Option Extent} {count : Int} {bins : Bins}
    (measured : table.Measures field found) (positive : 1 ≤ count)
    (made : binsOf found count = .ok bins) : ∃ extent,
      FieldRange.Spans ⟨field, bins.low, bins.high, some bins.step⟩ extent (table.numbersOf field)
        count := by
  cases found with
  | none => cases made
  | some extent =>
      obtain ⟨same, defined⟩ := measured extent rfl
      exact ⟨_, Extent.bins_spans same defined positive made field⟩

theorem Layer.densityExtent_spans {field : String} {found : Option Extent} {extent : Extent}
    (measured : table.Measures field found) (taken : densityExtent found = .ok extent)
    (count : Int) : ∃ spanned,
      FieldRange.Spans ⟨field, .real extent.least, .real extent.greatest, none⟩ spanned
        (table.numbersOf field) count := by
  cases found with
  | none => cases taken
  | some given =>
      cases taken
      obtain ⟨same, defined⟩ := measured given rfl
      exact ⟨_, Extent.density_spans same defined field count⟩

/-! ## Layers -/

/-- A drawing that computes over ranges which are spanned. -/
theorem Drawing.Ranged.of_ranges {kind : LayerKind} {ranges : List FieldRange}
    (listed : drawing.ranges = ranges) (fields : ranges.map (·.field) = kind.rangeFields)
    (spans : ∀ range ∈ ranges, ∃ extent,
      range.Spans extent (table.numbersOf range.field) (kind.binCount parameters)) :
    drawing.Ranged kind table parameters := ⟨listed ▸ fields, listed ▸ spans⟩

namespace Layer

variable (holds : table.Holds) (shown : drawing.graphics ≠ [])

include holds shown

theorem histogram_ranged (returned : (histogram table context parameters).Returns drawing) :
    drawing.Ranged .bin table parameters := by
  unfold histogram at returned
  split at returned
  · cases returned
    exact absurd rfl shown
  · simp only [Run.returns_bind, Run.returns_lift, Run.returns_pure] at returned
    obtain ⟨count, read, bins, made, colors, _, rfl⟩ := returned
    rw [Members.wholeParameter_eq (by decide) read] at made
    have ranges : (histogramDrawing table context.style colors bins).ranges =
        [⟨"x", bins.low, bins.high, some bins.step⟩] := by
      unfold Drawing.ranges histogramDrawing
      cases table.hasColorGroup <;> rfl
    exact .of_ranges ranges rfl (List.forall_mem_singleton.mpr
      (binsOf_spans holds.measures_x (Members.wholeOr_minimum (by decide)) made))

theorem heatmap_ranged (returned : (heatmap table context parameters).Returns drawing) :
    drawing.Ranged .bin2d table parameters := by
  unfold heatmap at returned
  split at returned
  · cases returned
    exact absurd rfl shown
  · simp only [Run.returns_bind, Run.returns_lift, Run.returns_pure] at returned
    obtain ⟨count, read, xBins, xMade, yBins, yMade, rfl⟩ := returned
    rw [Members.wholeParameter_eq (by decide) read] at xMade yMade
    have positive : 1 ≤ parameters.wholeOr "nbins" 20 := Members.wholeOr_minimum (by decide)
    exact .of_ranges rfl rfl (List.forall_mem_cons.mpr
      ⟨binsOf_spans holds.measures_x positive xMade, List.forall_mem_singleton.mpr
        (binsOf_spans holds.measures_y positive yMade)⟩)

theorem cornerHistogram_ranged
    (returned : (cornerHistogram table context parameters).Returns drawing) :
    drawing.Ranged .cornerHistogram table parameters := by
  unfold cornerHistogram at returned
  split at returned
  · cases returned
    exact absurd rfl shown
  · simp only [Run.returns_bind, Run.returns_lift, Run.returns_pure] at returned
    obtain ⟨count, read, bins, made, colors, _, rfl⟩ := returned
    rw [Members.wholeParameter_eq (by decide) read] at made
    exact .of_ranges rfl rfl (List.forall_mem_singleton.mpr
      (binsOf_spans holds.measures_difference (Members.wholeOr_minimum (by decide)) made))

theorem density_ranged (returned : (density table context parameters).Returns drawing) :
    drawing.Ranged .density table parameters := by
  unfold density at returned
  split at returned
  · cases returned
    exact absurd rfl shown
  · simp only [Run.returns_bind, Run.returns_lift, Run.returns_pure] at returned
    obtain ⟨extent, taken, bandwidth, _, steps, _, colors, _, rfl⟩ := returned
    exact .of_ranges rfl rfl
      (List.forall_mem_singleton.mpr (densityExtent_spans holds.measures_x taken _))

theorem violin_ranged (returned : (violin table context parameters).Returns drawing) :
    drawing.Ranged .violin table parameters := by
  unfold violin at returned
  split at returned
  · cases returned
    exact absurd rfl shown
  · simp only [Run.returns_bind, Run.returns_lift, Run.returns_pure] at returned
    obtain ⟨extent, taken, bandwidth, _, steps, _, colors, _, rfl⟩ := returned
    exact .of_ranges rfl rfl
      (List.forall_mem_singleton.mpr (densityExtent_spans holds.measures_y taken _))

end Layer

theorem LayerKind.draw_ranged {kind : LayerKind} (holds : table.Holds)
    (shown : drawing.graphics ≠ [])
    (returned : (kind.draw table context parameters).Returns drawing) :
    drawing.Ranged kind table parameters := by
  have drawn := LayerKind.draw_drawn returned
  cases kind
  case bin => exact histogram_ranged holds shown returned
  case bin2d => exact heatmap_ranged holds shown returned
  case cornerHistogram => exact cornerHistogram_ranged holds shown returned
  case density => exact density_ranged holds shown returned
  case violin => exact violin_ranged holds shown returned
  all_goals
    -- The other kinds neither count in bins nor estimate densities.
    cases drawn <;> exact .of_ranges rfl rfl (List.forall_mem_nil _)

theorem LayerRequest.draw_ranged {request : LayerRequest} (holds : table.Holds)
    (shown : drawing.graphics ≠ []) (returned : (request.draw table context).Returns drawing) :
    drawing.Ranged request.kind table request.parameters := by
  unfold LayerRequest.draw at returned
  simp only [Run.returns_bind, Run.returns_pure] at returned
  obtain ⟨_, drawn, _, _, rfl⟩ := returned
  exact LayerKind.draw_ranged holds shown drawn

/-- The range over which a layer counts or estimates the density of a field covers its numbers. It
has a width unless the numbers are all equal and absorb a half, and bins that have a positive and
finite width if it is wide enough for their number. -/
theorem LayerRequest.draw_ranges {request : LayerRequest} {bindings : Bindings}
    (projected : (Table.project bindings).Returns table)
    (returned : (request.draw table context).Returns drawing) (shown : drawing.graphics ≠ []) :
    drawing.ranges.map (·.field) = request.kind.rangeFields ∧
      ∀ range ∈ drawing.ranges, ∃ extent, range.Spans extent (table.numbersOf range.field)
        (request.kind.binCount request.parameters) := by
  obtain ⟨fields, spans⟩ :=
    LayerRequest.draw_ranged (Table.project_holds projected) shown returned
  exact ⟨fields, spans⟩

/-! ## Two equal numbers -/

/-- Two points with one x. -/
def equalBindings (x : Binary64) : Bindings :=
  { x := .list [.real x, .real x], y := .list [.real 1.0, .real 2.0] }

/-- The table of the points. -/
def equalTable (x : Binary64) : Table :=
  { rows := [{ x := .number x, y := .number 1.0 }, { x := .number x, y := .number 2.0 }]
    xKind := .continuous
    yKind := .continuous
    givenCount := 2 }

theorem equalBindings_projected {x : Binary64} (finite : x.isFinite = true) :
    (Table.project (equalBindings x)).Returns (equalTable x) := by
  have xCells : Projection.usableCells [.real x, .real x] true =
      .ok [some (.number x), some (.number x)] :=
    (Projection.usableCells_reals [x, x]).trans (by simp [Projection.finite?, finite])
  have yCells : Projection.usableCells [.real 1.0, .real 2.0] true =
      .ok [some (.number 1.0), some (.number 2.0)] :=
    (Projection.usableCells_reals [1.0, 2.0]).trans (by simp [Projection.finite?_literals])
  unfold Table.project
  simp only [Run.returns_bind, Run.returns_lift]
  refine ⟨_, rfl, _, rfl, _, rfl, _, rfl, _, rfl, _, rfl, true, rfl, true, rfl, _, xCells, _,
    yCells, _, rfl, ?_⟩
  simp only [Run.returns_bind, Run.returns_lift]
  exact ⟨_, rfl, none, rfl, none, rfl, (), rfl, rfl⟩

theorem Layer.exists_binsOf (extent : Extent) {count : Int} (positive : 1 ≤ count)
    (ranged : Binary64.ofInt? count ≠ none) : ∃ bins, binsOf (some extent) count = .ok bins := by
  obtain ⟨divisor, taken⟩ := Option.ne_none_iff_exists'.mp ranged
  unfold binsOf
  dsimp only
  rw [Extent.bins_eq, Number.divide_positive _ positive, realOfWhole_eq, taken]
  exact ⟨_, rfl⟩

/-- The histogram of the points. -/
theorem equalTable_drawn (x : Binary64) : ∃ bins,
    ((⟨.bin, []⟩ : LayerRequest).draw (equalTable x) { style := {} }).Returns
      (histogramDrawing (equalTable x) {} [] bins) := by
  have ranged : Binary64.ofInt? 30 ≠ none :=
    Binary64.ofInt?_ne_none (show (30 : Int).natAbs ≤ 2 ^ 5 by decide) (by decide)
  obtain ⟨bins, made⟩ := exists_binsOf ⟨lesser x x, greater x x⟩ (by decide) ranged
  refine ⟨bins, ?_⟩
  have drawn : (histogram (equalTable x) { style := {} } []).Returns
      (histogramDrawing (equalTable x) {} [] bins) := by
    change (do
      let bins ← liftM (binsOf (some ⟨lesser x x, greater x x⟩) 30)
      return histogramDrawing (equalTable x) {} [] bins : Run Drawing).Returns _
    rw [made]
    rfl
  exact (Run.returns_bind _ _ _).mpr ⟨_, drawn, (Run.returns_bind _ _ _).mpr ⟨(), by rfl, rfl⟩⟩

theorem equalTable_absorbed {x : Binary64} :
    Binary64.HalvesAbsorbed ((equalTable x).numbersOf "x") ↔ x.AbsorbsHalf := by
  have numbers : (equalTable x).numbersOf "x" = [x, x] := rfl
  rw [numbers]
  constructor
  · rintro ⟨common, absorbs, same⟩
    exact absorbs.of_equals (same x (List.mem_cons_self ..))
  · intro absorbs
    have defined : x ≠ .nan := by
      rintro rfl
      exact absorbs
    have same : x.equals x = true := (Binary64.equals_iff defined defined).mpr rfl
    exact ⟨x, absorbs, List.forall_mem_cons.mpr ⟨same, List.forall_mem_singleton.mpr same⟩⟩

theorem FieldRange.Spans.lessThan_iff {range : FieldRange} {extent : Extent}
    {values : List Binary64} {count : Int} (spans : range.Spans extent values count) :
    range.low.lessThan range.high = true ↔ ¬ Binary64.HalvesAbsorbed values := by
  rw [spans.low, spans.high]
  exact spans.wide

/-- The histogram of a small number is cut out of a range with a width. -/
theorem LayerRequest.draw_ranges_small : ∃ drawing range,
    (Table.project (equalBindings 2.0)).Returns (equalTable 2.0) ∧
      ((⟨.bin, []⟩ : LayerRequest).draw (equalTable 2.0) { style := {} }).Returns drawing ∧
      drawing.graphics ≠ [] ∧ drawing.ranges = [range] ∧ range.low.lessThan range.high = true := by
  have kept : ¬ (2.0 : Binary64).AbsorbsHalf := by decide +kernel
  have finite : (2.0 : Binary64).isFinite = true := by decide +kernel
  generalize (2.0 : Binary64) = x at kept finite ⊢
  have projected := equalBindings_projected finite
  obtain ⟨bins, returned⟩ := equalTable_drawn x
  have shown : (histogramDrawing (equalTable x) {} [] bins).graphics ≠ [] := List.cons_ne_nil _ _
  obtain ⟨_, spans⟩ := LayerRequest.draw_ranges projected returned shown
  obtain ⟨extent, spanned⟩ := spans _ (List.mem_singleton_self _)
  exact ⟨_, _, projected, returned, shown, rfl,
    spanned.lessThan_iff.mpr (mt equalTable_absorbed.mp kept)⟩

/-- Two equal numbers that absorb a half have a range without a width. -/
theorem equalTable_narrow {x : Binary64} (finite : x.isFinite = true) (absorbs : x.AbsorbsHalf) :
    ∃ drawing range, (Table.project (equalBindings x)).Returns (equalTable x) ∧
      ((⟨.bin, []⟩ : LayerRequest).draw (equalTable x) { style := {} }).Returns drawing ∧
      drawing.graphics ≠ [] ∧ drawing.ranges = [range] ∧
      range.low.lessThan range.high = false := by
  have projected := equalBindings_projected finite
  obtain ⟨bins, returned⟩ := equalTable_drawn x
  have shown : (histogramDrawing (equalTable x) {} [] bins).graphics ≠ [] := List.cons_ne_nil _ _
  obtain ⟨_, spans⟩ := LayerRequest.draw_ranged (Table.project_holds projected) shown returned
  obtain ⟨extent, spanned⟩ := spans _ (List.mem_singleton_self _)
  refine ⟨_, _, projected, returned, shown, rfl, Bool.eq_false_iff.mpr fun less => ?_⟩
  exact spanned.lessThan_iff.mp less (equalTable_absorbed.mpr absorbs)

/-- The histogram of a large number is cut out of a range without a width. -/
theorem LayerRequest.draw_ranges_large : ∃ drawing range,
    (Table.project (equalBindings 1e17)).Returns (equalTable 1e17) ∧
      ((⟨.bin, []⟩ : LayerRequest).draw (equalTable 1e17) { style := {} }).Returns drawing ∧
      drawing.graphics ≠ [] ∧ drawing.ranges = [range] ∧ range.low.lessThan range.high = false :=
  equalTable_narrow (by decide +kernel) (by decide +kernel)

end ChartCompiler
