import ChartCompiler.Proofs.Chart.Legend
import ChartCompiler.Proofs.Layer.Moderate

/-!
# Finite numbers in documents

What the layers draw goes into the document as it is, beside the rows of the table and the settings
of the chart. So the document holds only finite numbers if those that the layers compute are finite.
-/

namespace ChartCompiler

open Assembly

/-! ## Fragments -/

/-- Whether a fragment holds only finite numbers. -/
structure Fragment.OnlyFinite (fragment : Fragment) : Prop where
  marks : ∀ mark ∈ fragment.marks, mark.OnlyFinite
  scales : ∀ scale ∈ fragment.scales, scale.toMembers.OnlyFinite
  sources : ∀ source ∈ sourcesOf fragment, source.toMembers.OnlyFinite
  axes : ∀ axis ∈ fragment.axes, axis.OnlyFinite

theorem Drawing.OnlyFinite.toFragment {drawing : Drawing} (finite : drawing.OnlyFinite) :
    drawing.toFragment.OnlyFinite where
  marks := List.forall_mem_map.mpr fun graphic inside =>
    (Value.onlyFinite_map _).mpr (finite.graphics graphic inside)
  scales := finite.scales
  sources := by
    refine List.forall_mem_append.mpr ⟨List.forall_mem_map.mpr fun inline inside => ?_,
      List.forall_mem_map.mpr fun pipeline inside => ?_⟩
    · exact DataSource.onlyFinite_inline _ (finite.sources.inline inline inside)
    · refine DataSource.onlyFinite_derived _ _ (List.forall_mem_map.mpr fun step listed => ?_)
      exact step.onlyFinite_toMembers.mpr (finite.sources.pipelines pipeline inside step listed)
  axes := List.forall_mem_map.mpr fun axis inside =>
    (Value.onlyFinite_map _).mpr (finite.axes axis inside)

/-- Layers that compute finite numbers give fragments of finite numbers. -/
theorem Compilation.drawAll_onlyFinite {table : Table} {context : LayerContext}
    {requests : List LayerRequest} {fragments : List Fragment} {notes : List Diagnostic}
    (holds : table.Holds) (finite : context.style.OnlyFinite)
    (inRange : ∀ request ∈ requests, request.kind.InRange table request.parameters)
    (returned : (drawAll table context requests).Returns (fragments, notes)) :
    ∀ fragment ∈ fragments, fragment.OnlyFinite := by
  induction requests generalizing fragments notes with
  | nil =>
      cases returned
      exact List.forall_mem_nil _
  | cons request rest induction =>
      rcases List.forall_mem_cons.mp inRange with ⟨first, others⟩
      unfold drawAll at returned
      simp only [Run.returns_bind, Run.returns_pure, Prod.mk.injEq] at returned
      rcases returned with ⟨drawing, drawn, ⟨following, _⟩, remaining, rfl, _⟩
      exact List.forall_mem_cons.mpr
        ⟨(LayerRequest.draw_onlyFinite holds finite first drawn).toFragment,
          induction others remaining⟩

/-! ## Charts -/

/-- Whether the options that go into the document hold only finite numbers. -/
structure ChartOptions.OnlyFinite (options : ChartOptions) : Prop where
  title : options.title.OnlyFinite
  xLabel : options.xLabel.OnlyFinite
  yLabel : options.yLabel.OnlyFinite
  width : options.width.OnlyFinite
  height : options.height.OnlyFinite

/-- Whether what a chart puts into the document holds only finite numbers. -/
structure Chart.OnlyFinite (chart : Chart) : Prop where
  schema : chart.schema.OnlyFinite
  width : chart.width.OnlyFinite
  height : chart.height.OnlyFinite
  padding : chart.padding.OnlyFinite
  title : ∀ title ∈ chart.title, title.OnlyFinite
  signals : ∀ signal ∈ chart.signals, signal.OnlyFinite
  data : ∀ source ∈ chart.data, source.OnlyFinite
  scales : ∀ scale ∈ chart.scales, scale.toMembers.OnlyFinite
  axes : ∀ axis ∈ chart.axes, axis.OnlyFinite
  marks : ∀ mark ∈ chart.marks, mark.OnlyFinite
  legends : ∀ legend ∈ chart.legends, legend.OnlyFinite

namespace Chart

variable {fragments : List Fragment} {table : Table} {options : ChartOptions} {style : Style}
  {chart result : Chart} {notes : List Diagnostic} {interactive : Value}

theorem onlyFinite_listMember {name : String} {items : List Value}
    (finite : ∀ item ∈ items, item.OnlyFinite) : (listMember name items).OnlyFinite := by
  unfold listMember
  split
  · exact List.forall_mem_nil _
  · simpa using finite

/-- The document of a chart consists of its parts. -/
theorem OnlyFinite.toMembers (finite : chart.OnlyFinite) : chart.toMembers.OnlyFinite := by
  have title : chart.titleMember.OnlyFinite := by
    unfold titleMember
    split
    · next title stated =>
        split
        · simpa using finite.title title stated
        · exact List.forall_mem_nil _
    · exact List.forall_mem_nil _
  have lists := And.intro finite.data (And.intro finite.scales (And.intro finite.axes finite.marks))
  simpa [Chart.toMembers, finite.schema, finite.width, finite.height, finite.padding, title,
    onlyFinite_listMember finite.signals, onlyFinite_listMember finite.legends] using lists

theorem withTitle_onlyFinite (given : options.OnlyFinite) {axis : Value × Members}
    (finite : axis.2.OnlyFinite) : (withTitle options axis).OnlyFinite := by
  have labels : ∀ label ∈ [options.xLabel, options.yLabel], label.OnlyFinite :=
    List.forall_mem_cons.mpr ⟨given.xLabel, List.forall_mem_singleton.mpr given.yLabel⟩
  rcases withTitle_eq options axis with kept | ⟨label, either, titled⟩
  · exact kept ▸ (Value.onlyFinite_map _).mpr finite
  · exact titled ▸ (Value.onlyFinite_map _).mpr (finite.set "title" (labels label either))

/-- Fragments, a table and options of finite numbers are joined into a chart of finite numbers. -/
theorem assemble_onlyFinite (rows : table.Holds) (given : options.OnlyFinite)
    (constants : style.OnlyFinite) (finite : ∀ fragment ∈ fragments, fragment.OnlyFinite)
    (returned : (assemble fragments table options style).Returns (chart, notes)) :
    chart.OnlyFinite := by
  rcases assemble_returns_iff.mp returned with
    ⟨padding, axes, title, padded, placed, shown, rfl, _, _⟩
  have each : ∀ fragment ∈ drawn fragments, fragment.OnlyFinite := fun fragment inside =>
    finite fragment (List.mem_filter.mp inside).1
  refine ⟨constants.schema, given.width, given.height, constants.padding _ padded,
    fun value stated => eq_of_shownTitle? shown value stated ▸ given.title, List.forall_mem_nil _, ?_, ?_, ?_, ?_,
    List.forall_mem_nil _⟩
  · refine List.forall_mem_map.mpr fun source inside => (Value.onlyFinite_map _).mpr ?_
    rcases List.mem_cons.mp inside with rfl | merged
    · exact DataSource.onlyFinite_inline _ rows.records
    · rcases exists_of_mergedSources merged with ⟨fragment, listed, own⟩
      exact (each fragment listed).sources source own
  · intro scale merged
    rcases exists_of_mergedScales merged with ⟨fragment, listed, own⟩
    exact (each fragment listed).scales scale own
  · intro axis inside
    rcases firstAxes_mem placed inside with ⟨side, members, among, rfl⟩
    rcases List.mem_flatMap.mp among with ⟨fragment, listed, own⟩
    exact withTitle_onlyFinite given ((Value.onlyFinite_map _).mp ((each fragment listed).axes _ own))
  · intro mark inside
    rcases List.mem_flatMap.mp inside with ⟨fragment, listed, own⟩
    exact (each fragment listed).marks mark own

/-- A legend adds constants only. -/
theorem withLegend_onlyFinite (constants : style.OnlyFinite) (finite : chart.OnlyFinite)
    (returned : (chart.withLegend style interactive).Returns result) : result.OnlyFinite := by
  have padding := finite.padding.set "right" constants.legendPaddingRight
  rcases withLegend_returns_iff.mp returned with
    ⟨_, rfl⟩ | ⟨_, _, rfl⟩ | ⟨_, _, marks, count, made, rfl⟩
  · exact finite
  · refine { finite with padding, legends := List.forall_mem_singleton.mpr ?_ }
    simp [Legend.plainLegend]
  · have test : Legend.entryTest.OnlyFinite := Value.onlyFinite_text _
    have entry := Legend.onlyFinite_selectionOpacity constants test
    refine { finite with
      padding
      signals := List.forall_mem_append.mpr ⟨finite.signals, by decide⟩
      data := List.forall_mem_append.mpr ⟨finite.data, by decide⟩
      marks := Legend.onlyFinite_selectableMarks constants made finite.marks
      legends := List.forall_mem_singleton.mpr ?_ }
    simp [Legend.selectionLegend, Legend.legendPart, Legend.constant, Legend.choice, test, entry]

end Chart

/-! ## Compilations -/

/-- A chart holds only finite numbers if its layers compute only such. -/
theorem PlotDescriptor.compile_onlyFinite {descriptor : PlotDescriptor} {options : ChartOptions}
    {style : Style} {compilation : Compilation} (given : options.OnlyFinite)
    (constants : style.OnlyFinite)
    (returned : (descriptor.compile options style).Returns compilation)
    (inRange : ∀ request ∈ compilation.requests,
      request.kind.InRange compilation.table request.parameters) :
    compilation.chart.OnlyFinite := by
  unfold compile Compilation.project Compilation.analyze Compilation.draw at returned
  simp only [Run.returns_bind, Run.returns_traced, Run.returns_pure] at returned
  rcases returned with ⟨table, projected, analysis, _, ⟨fragments, drawNotes⟩, drawn,
    ⟨chart, mergeNotes⟩, assembled, result, legend, _, _, rfl⟩
  have holds := Table.project_holds projected
  have fragments := Compilation.drawAll_onlyFinite holds constants inRange drawn
  have joined := Chart.assemble_onlyFinite holds given constants fragments assembled
  exact Chart.withLegend_onlyFinite constants joined legend

/-- The document of a plot holds only finite numbers, at any depth, if those that its layers compute
from the extents of the fields are finite. -/
theorem PlotDescriptor.document_finite {descriptor : PlotDescriptor} {options : ChartOptions}
    {style : Style} {compilation : Compilation} (given : options.OnlyFinite)
    (constants : style.OnlyFinite)
    (returned : (descriptor.compile options style).Returns compilation)
    (inRange : ∀ request ∈ compilation.requests,
      request.kind.InRange compilation.table request.parameters) :
    (Value.map compilation.chart.toMembers).OnlyFinite :=
  (Value.onlyFinite_map _).mpr (compile_onlyFinite given constants returned inRange).toMembers

/-- A plot of numbers. -/
def numericDescriptor (xs ys : List Binary64) (layers : Members := []) : PlotDescriptor :=
  ⟨{ x := .list (xs.map .real), y := .list (ys.map .real) }, layers⟩

/-- Points, a line and a histogram of small numbers. -/
theorem PlotDescriptor.document_finite_small : ∃ compilation,
    (numericDescriptor [1.0, 2.0] [2.0, 3.0] [("geom_point", .map []),
      ("geom_abline", .map [("slope", .real 0.5)]), ("stat_bin", .map [])]).compile.Returns
        compilation ∧
      (Value.map compilation.chart.toMembers).OnlyFinite := by
  have compiled : ∃ compilation,
      (numericDescriptor [1.0, 2.0] [2.0, 3.0] [("geom_point", .map []),
        ("geom_abline", .map [("slope", .real 0.5)]), ("stat_bin", .map [])]).compile.Returns
          compilation ∧
        ∀ request ∈ compilation.requests,
          request.kind.InRange compilation.table request.parameters := by
    decide +kernel
  rcases compiled with ⟨compilation, returned, inRange⟩
  have options : ({} : ChartOptions).OnlyFinite := ⟨by simp, by simp, by simp, by simp, by simp⟩
  exact ⟨compilation, returned, document_finite options Style.standard_onlyFinite returned inRange⟩

/-- The width of a range of finite numbers may be too large for a number, so that the document of
the plot says that the x axis starts at minus infinity. -/
theorem PlotDescriptor.document_infinite : ∃ compilation,
    (numericDescriptor [-1e308, 1e308] [1.0, 2.0]).compile.Returns compilation ∧
      ¬ (Value.map compilation.chart.toMembers).OnlyFinite := by
  decide +kernel

/-- The document of a plot of moderate numbers holds only finite numbers. -/
theorem PlotDescriptor.document_finite_of_moderate {descriptor : PlotDescriptor}
    {options : ChartOptions} {style : Style} {compilation : Compilation}
    (given : options.OnlyFinite) (constants : style.OnlyFinite)
    (returned : (descriptor.compile options style).Returns compilation)
    (moderate : compilation.table.Moderate)
    (lines : ∀ request ∈ compilation.requests,
      (request.parameters.realOr "slope" 1.0).Moderate ∧
        (request.parameters.realOr "intercept" 0.0).Moderate) :
    (Value.map compilation.chart.toMembers).OnlyFinite := by
  have inRange := fun request listed => LayerKind.inRange_of_moderate (LayerRequest.kind request)
    moderate (lines request listed).1 (lines request listed).2
  exact (Value.onlyFinite_map _).mpr (compile_onlyFinite given constants returned inRange).toMembers

end ChartCompiler
