import ChartCompiler.Proofs.Chart.Merging
import ChartCompiler.Proofs.Document.Drawings
import ChartCompiler.Proofs.Layer.Plain
import ChartCompiler.Proofs.Table.Alignment

/-!
# Charts with and without a legend

A compiled chart has a legend exactly if it has the color scale, and a selection exactly if it is
interactive, too. Interactive and other charts of one plot differ in nothing but the legend and the
selection.
-/

namespace ChartCompiler

open Legend

/-- The name by which a part of a document is declared. -/
def Value.name? (value : Value) : Option String := value.map?.bind (·.text? "name")

theorem Table.project_colorDomain {bindings : Bindings} {table : Table}
    (returned : (Table.project bindings).Returns table) (grouped : table.hasColorGroup = true) :
    1 < table.colorDomain.length := by
  obtain ⟨_, _, ⟨steps⟩⟩ := Table.project_steps returned
  rw [steps.colorGroup, decide_eq_true_eq] at grouped
  rwa [steps.colors, if_pos grouped]

namespace Chart

variable {chart result : Chart} {style : Style} {interactive : Value}

/-- A chart with a legend that is only looked at. -/
def withPlainLegend (chart : Chart) (style : Style) : Chart :=
  { chart with
    legends := [plainLegend]
    padding := chart.padding.set "right" style.legendPaddingRight }

/-- A chart with a legend that groups are selected by, and marks that follow the selection. -/
def withSelection (chart : Chart) (style : Style) (marks : List Value) : Chart :=
  { chart with
    padding := chart.padding.set "right" style.legendPaddingRight
    signals := chart.signals ++ selectionSignals
    data := chart.data ++ [selectionSource]
    legends := [selectionLegend style]
    marks }

theorem withLegend_returns_iff : (chart.withLegend style interactive).Returns result ↔
    (chart.needsLegend = false ∧ result = chart) ∨
    (chart.needsLegend = true ∧ interactive.truth = .ok false ∧
      result = chart.withPlainLegend style) ∨
    (chart.needsLegend = true ∧ interactive.truth = .ok true ∧ ∃ marks count,
      selectableMarks style chart.marks = .ok (marks, count) ∧
        result = chart.withSelection style marks) := by
  unfold withLegend
  cases needed : chart.needsLegend with
  | false => simp [eq_comm]
  | true =>
      simp only [Bool.not_true, Bool.false_eq_true, if_false, Run.returns_bind, Run.returns_lift]
      constructor
      · rintro ⟨truth, stated, returned⟩
        cases truth with
        | false =>
            simp only [Bool.not_false, if_true, Run.returns_bind, Run.returns_pure] at returned
            rcases returned with ⟨_, _, rfl⟩
            exact .inr (.inl ⟨trivial, stated, rfl⟩)
        | true =>
            simp only [Bool.not_true, Bool.false_eq_true, if_false, Run.returns_bind,
              Run.returns_lift, Run.returns_pure] at returned
            rcases returned with ⟨⟨marks, count⟩, made, _, _, rfl⟩
            exact .inr (.inr ⟨trivial, stated, marks, count, made, rfl⟩)
      · rintro (⟨other, _⟩ | ⟨_, stated, rfl⟩ | ⟨_, stated, marks, count, made, rfl⟩)
        · cases other
        · exact ⟨false, stated, by simp [withPlainLegend]⟩
        · refine ⟨true, stated, ?_⟩
          simp only [Bool.not_true, Bool.false_eq_true, if_false, Run.returns_bind,
            Run.returns_lift, Run.returns_pure]
          exact ⟨(marks, count), made, (), rfl, rfl⟩

theorem withLegend_needless (needless : chart.needsLegend = false)
    (returned : (chart.withLegend style interactive).Returns result) : result = chart := by
  rcases withLegend_returns_iff.mp returned with ⟨_, same⟩ | ⟨needed, _⟩ | ⟨needed, _⟩
  · exact same
  all_goals
    rw [needless] at needed
    cases needed

/-! ## Charts before they are given a legend -/

/-- Whether a chart knows of no legend and no selection, and needs a legend as soon as it has the
color scale. -/
structure Unlabelled (chart : Chart) : Prop where
  legends : chart.legends = []
  signals : chart.signals = []
  sources : ∀ source ∈ chart.data, source.name? ≠ some selectedSource
  marks : chart.marks.map plainMark = chart.marks
  selectable : ∀ style, ∃ changed, selectableMarks style chart.marks = .ok changed
  needed : chart.needsLegend = true ↔ ScaleName.color.text ∈ chart.scaleNames

theorem hasColorScale_iff :
    chart.hasColorScale = true ↔ ScaleName.color.text ∈ chart.scaleNames := by
  unfold hasColorScale scale? scaleNames
  rw [List.find?_isSome, List.mem_map]
  simp only [decide_eq_true_eq]

/-- What layers draw over a table is assembled into such a chart. -/
theorem assemble_unlabelled {table : Table} {context : LayerContext} {options : ChartOptions}
    {drawings : List (LayerKind × Drawing)} {notes : List Diagnostic}
    (groups : table.hasColorGroup = true → 1 < table.colorDomain.length)
    (each : ∀ entry ∈ drawings, Drawn table context entry.1 entry.2)
    (returned : (assemble (drawings.map (·.2.toFragment)) table options style).Returns
      (chart, notes)) : chart.Unlabelled := by
  rcases assemble_returns_iff.mp returned with ⟨padding, axes, title, _, _, _, rfl, _, _⟩
  have shown : ∀ fragment ∈ drawn (drawings.map (·.2.toFragment)),
      ∃ entry ∈ drawings, fragment = entry.2.toFragment := by
    intro fragment inside
    rcases List.mem_map.mp (List.mem_filter.mp inside).1 with ⟨entry, listed, rfl⟩
    exact ⟨entry, listed, rfl⟩
  have marks : ∀ mark ∈ (drawn (drawings.map (·.2.toFragment))).flatMap (·.marks),
      ∃ entry ∈ drawings, ∃ graphic ∈ entry.2.graphics, mark = .map graphic.toMembers := by
    intro mark inside
    rcases List.mem_flatMap.mp inside with ⟨fragment, listed, member⟩
    rcases shown fragment listed with ⟨entry, drew, rfl⟩
    rcases List.mem_map.mp member with ⟨graphic, given, rfl⟩
    exact ⟨entry, drew, graphic, given, rfl⟩
  refine ⟨rfl, rfl, ?_, ?_, ?_, ?_⟩
  · intro value inside
    rcases List.mem_map.mp inside with ⟨source, listed, rfl⟩
    have named : (Value.map source.toMembers).name? = some source.name := rfl
    rw [named]
    intro selected
    rcases List.mem_cons.mp listed with rfl | merged
    · simp [Assembly.tableRows, DataSource.inline, tableSource, selectedSource] at selected
    · rcases exists_of_mergedSources merged with ⟨fragment, member, own⟩
      rcases shown fragment member with ⟨entry, drew, rfl⟩
      have among : source.name ∈ entry.2.ownSources :=
        entry.2.names_sourcesOf ▸ List.mem_map_of_mem own
      refine LayerKind.sourceNames_not_reserved entry.1 (LayerKind.mem_all _) source.name
        ((each entry drew).names.1.subset among) ?_
      rw [Option.some.inj selected]
      exact List.mem_cons_of_mem _ (List.mem_cons_self ..)
  · conv => rhs; rw [← List.map_id (joined _ _ _ _ _ _ _).marks]
    apply List.map_congr_left
    intro mark inside
    rcases marks mark inside with ⟨entry, drew, graphic, given, rfl⟩
    exact Graphic.plainMark_toMembers ((each entry drew).keepsColors graphic given)
  · intro style
    apply selectableMarks_ok
    intro mark inside
    rcases marks mark inside with ⟨_, _, graphic, _, rfl⟩
    exact graphic.selectable style
  · unfold needsLegend
    rw [Bool.and_eq_true, hasColorScale_iff, and_iff_left_iff_imp]
    intro declared
    rw [scaleNames_joined, mem_distinct] at declared
    rcases List.mem_flatMap.mp declared with ⟨fragment, listed, named⟩
    rcases shown fragment listed with ⟨entry, drew, rfl⟩
    exact decide_eq_true (groups ((each entry drew).color_grouped named))

/-! ## What a legend changes -/

/-- Whether a chart has the legend and the selection that it should have. -/
structure Wired (chart : Chart) (style : Style) (interactive : Prop) : Prop where
  legend : ScaleName.color.text ∈ chart.scaleNames → ∃ legend : Members,
    chart.legends = [.map legend] ∧
    legend.text? "fill" = some ScaleName.color.text ∧
    chart.padding.get? "right" = some style.legendPaddingRight
  noLegend : ScaleName.color.text ∉ chart.scaleNames → chart.legends = []
  selection : ScaleName.color.text ∈ chart.scaleNames ∧ interactive →
    chart.signals.map Value.name? = [some "clear", some "shift", some "clicked"] ∧
    some selectedSource ∈ chart.data.map Value.name?
  noSelection : ¬ (ScaleName.color.text ∈ chart.scaleNames ∧ interactive) →
    chart.signals = [] ∧ some selectedSource ∉ chart.data.map Value.name?

/-- The data sources of a chart other than the selection. -/
def plainData (chart : Chart) : List Value :=
  chart.data.filter fun source => source.name? ≠ some selectedSource

/-- Whether two charts are the same apart from legends and the selection. -/
structure SameDrawing (left right : Chart) : Prop where
  schema : left.schema = right.schema
  width : left.width = right.width
  height : left.height = right.height
  padding : left.padding = right.padding
  title : left.title = right.title
  scales : left.scales = right.scales
  axes : left.axes = right.axes
  data : left.plainData = right.plainData
  marks : left.marks.map plainMark = right.marks.map plainMark

theorem plainMarks_eq_map (marks : List Value) : plainMarks marks = marks.map plainMark := by
  induction marks with
  | nil => rfl
  | cons mark rest induction => rw [plainMarks, induction, List.map_cons]

namespace Unlabelled

variable (unlabelled : chart.Unlabelled)

include unlabelled

theorem wired (returned : (chart.withLegend style interactive).Returns result) :
    result.Wired style (interactive.truth = .ok true) := by
  have none : some selectedSource ∉ chart.data.map Value.name? := by
    intro inside
    rcases List.mem_map.mp inside with ⟨source, listed, named⟩
    exact unlabelled.sources source listed named
  have labelled := fun needed => unlabelled.needed.mp needed
  rcases withLegend_returns_iff.mp returned with
    ⟨needless, rfl⟩ | ⟨needed, stated, rfl⟩ | ⟨needed, stated, marks, count, _, rfl⟩
  · have colorless : ScaleName.color.text ∉ result.scaleNames := by
      rw [← unlabelled.needed, needless]
      decide
    exact ⟨fun colored => absurd colored colorless, fun _ => unlabelled.legends,
      fun both => absurd both.1 colorless, fun _ => ⟨unlabelled.signals, none⟩⟩
  · have quiet : ¬ interactive.truth = .ok true := by
      rw [stated]
      exact nofun
    exact ⟨fun _ => ⟨_, rfl, rfl, Members.get?_set_self ..⟩,
      fun colorless => absurd (labelled needed) colorless, fun both => absurd both.2 quiet,
      fun _ => ⟨unlabelled.signals, none⟩⟩
  · refine ⟨fun _ => ⟨_, rfl, rfl, Members.get?_set_self ..⟩,
      fun colorless => absurd (labelled needed) colorless, fun _ => ⟨?_, ?_⟩,
      fun neither => absurd ⟨labelled needed, stated⟩ neither⟩
    · unfold withSelection
      rw [unlabelled.signals]
      rfl
    · unfold withSelection
      rw [List.map_append]
      exact List.mem_append_right _ (List.mem_singleton.mpr rfl)

/-- Whatever legend a chart is given, its drawing stays. -/
theorem keepsDrawing (returned : (chart.withLegend style interactive).Returns result) :
    result.SameDrawing (if chart.needsLegend then chart.withPlainLegend style else chart) := by
  rcases withLegend_returns_iff.mp returned with
    ⟨needless, rfl⟩ | ⟨needed, _, rfl⟩ | ⟨needed, _, marks, count, made, rfl⟩
  · rw [needless]
    exact ⟨rfl, rfl, rfl, rfl, rfl, rfl, rfl, rfl, rfl⟩
  · rw [needed]
    exact ⟨rfl, rfl, rfl, rfl, rfl, rfl, rfl, rfl, rfl⟩
  · rw [needed]
    refine ⟨rfl, rfl, rfl, rfl, rfl, rfl, rfl, ?_, ?_⟩
    · unfold plainData withSelection
      rw [List.filter_append]
      exact List.append_nil _
    · have plain := plainMarks_of_selectable made
      rw [plainMarks_eq_map, plainMarks_eq_map] at plain
      exact plain

/-- A chart takes any legend that it is clear which one it should be. -/
theorem takesLegend {shown : Bool} (stated : interactive.truth = .ok shown) :
    ∃ result, (chart.withLegend style interactive).Returns result := by
  cases needed : chart.needsLegend with
  | false => exact ⟨chart, withLegend_returns_iff.mpr (.inl ⟨needed, rfl⟩)⟩
  | true =>
      cases shown with
      | false => exact ⟨_, withLegend_returns_iff.mpr (.inr (.inl ⟨needed, stated, rfl⟩))⟩
      | true =>
          rcases unlabelled.selectable style with ⟨⟨marks, count⟩, made⟩
          exact ⟨_, withLegend_returns_iff.mpr
            (.inr (.inr ⟨needed, stated, marks, count, made, rfl⟩))⟩

end Unlabelled

end Chart

/-! ## Compilations -/

open Compilation in
/-- A chart is drawn before it is given its legend, whether that is interactive or not. -/
theorem PlotDescriptor.compile_unlabelled {descriptor : PlotDescriptor} {options : ChartOptions}
    {style : Style} {compilation : Compilation}
    (returned : (descriptor.compile options style).Returns compilation) :
    ∃ chart : Chart, chart.Unlabelled ∧
      (chart.withLegend style options.interactive).Returns compilation.chart ∧
      ∀ flag result, (chart.withLegend style flag).Returns result →
        (descriptor.compile { options with interactive := flag } style).Returns
          { compilation with chart := result } := by
  unfold compile Compilation.project Compilation.analyze Compilation.draw at returned
  simp only [Run.returns_bind, Run.returns_traced, Run.returns_pure] at returned
  rcases returned with ⟨table, projected, analysis, analyzed, ⟨fragments, drawNotes⟩, drawn,
    ⟨chart, mergeNotes⟩, assembled, result, legend, _, _, rfl⟩
  rcases drawAll_drawn drawn with ⟨⟨drawings, _, each, rfl⟩, _⟩
  refine ⟨chart, Chart.assemble_unlabelled (Table.project_colorDomain projected) each assembled,
    legend, ?_⟩
  intro flag other given
  exact compile_returns projected analyzed drawn assembled given

namespace Chart.SameDrawing

variable {first second third : Chart}

theorem symm (same : first.SameDrawing second) : second.SameDrawing first :=
  ⟨same.schema.symm, same.width.symm, same.height.symm, same.padding.symm, same.title.symm,
    same.scales.symm, same.axes.symm, same.data.symm, same.marks.symm⟩

theorem trans (same : first.SameDrawing second) (alike : second.SameDrawing third) :
    first.SameDrawing third :=
  ⟨same.schema.trans alike.schema, same.width.trans alike.width, same.height.trans alike.height,
    same.padding.trans alike.padding, same.title.trans alike.title, same.scales.trans alike.scales,
    same.axes.trans alike.axes, same.data.trans alike.data, same.marks.trans alike.marks⟩

end Chart.SameDrawing

/-- A compiled chart has the legend and the selection it should have. Compiled with any other wish
for interaction it is the same apart from them; without interaction its marks are plain, and
without the color scale nothing differs at all. -/
theorem PlotDescriptor.legend_complete {descriptor : PlotDescriptor} {options : ChartOptions}
    {style : Style} {compilation : Compilation}
    (returned : (descriptor.compile options style).Returns compilation) :
    compilation.chart.Wired style (options.interactive.truth = .ok true) ∧
    ∀ flag shown, flag.truth = .ok shown → ∃ other,
      (descriptor.compile { options with interactive := flag } style).Returns other ∧
      other.chart.SameDrawing compilation.chart ∧
      (shown = false → other.chart.marks.map plainMark = other.chart.marks) ∧
      (ScaleName.color.text ∉ compilation.chart.scaleNames → other.chart = compilation.chart) := by
  rcases compile_unlabelled returned with ⟨chart, unlabelled, given, compiles⟩
  refine ⟨unlabelled.wired given, ?_⟩
  intro flag shown stated
  obtain ⟨result, taken⟩ : ∃ result, (chart.withLegend style flag).Returns result :=
    unlabelled.takesLegend stated
  refine ⟨_, compiles flag result taken, ?_, ?_, ?_⟩
  · exact (unlabelled.keepsDrawing taken).trans (unlabelled.keepsDrawing given).symm
  · rintro rfl
    rcases Chart.withLegend_returns_iff.mp taken with
      ⟨_, rfl⟩ | ⟨_, _, rfl⟩ | ⟨_, interactive, _⟩
    · exact unlabelled.marks
    · exact unlabelled.marks
    · rw [stated] at interactive
      cases interactive
  · intro colorless
    have names : compilation.chart.scaleNames = chart.scaleNames :=
      congrArg (List.map Scale.name) (Chart.withLegend_eq given).1
    have needless : chart.needsLegend = false := by
      rw [names, ← unlabelled.needed] at colorless
      simpa using colorless
    exact (Chart.withLegend_needless needless taken).trans
      (Chart.withLegend_needless needless given).symm

theorem PlotDescriptor.legend_complete_grouped : ∃ on off : Compilation,
    (groupedDescriptor.compile { interactive := .bool true }).Returns on ∧
      on.chart.Wired {} ((Value.bool true).truth = .ok true) ∧
      (groupedDescriptor.compile { interactive := .bool false }).Returns off ∧
      off.chart.SameDrawing on.chart ∧ off.chart.marks.map plainMark = off.chart.marks := by
  rcases groupedDescriptor_compiled with ⟨on, returned, _⟩
  rcases legend_complete returned with ⟨wired, others⟩
  rcases others (.bool false) false rfl with ⟨off, compiled, same, plain, _⟩
  exact ⟨on, off, returned, wired, compiled, same, plain rfl⟩

end ChartCompiler
