import ChartCompiler.Compilation
import ChartCompiler.Proofs.Document.Reading
import ChartCompiler.Proofs.Layer.Markers
import ChartCompiler.Proofs.Layer.Sources
import ChartCompiler.Proofs.Table.Projection

/-!
# What a compilation consists of

A compiled chart is put together from the drawings of different kinds of layers: their sources,
scales and marks, which may have been made to follow the selection.
-/

namespace ChartCompiler

/-! ## Drawings of the layers -/

namespace Compilation

theorem layerDiagnostics_kind {kind : LayerKind} {drawing : Drawing} :
    ∀ note ∈ layerDiagnostics kind drawing, note.kind ∈ ["empty-layer", "partial-layer"] := by
  intro note inside
  unfold layerDiagnostics at inside
  split at inside
  · split at inside
    · simp [List.mem_singleton.mp inside]
    · cases inside
  · simp only [List.mem_singleton] at inside
    rw [inside]
    split <;> simp

theorem drawAll_drawn {table : Table} {context : LayerContext} {requests : List LayerRequest}
    {fragments : List Fragment} {notes : List Diagnostic}
    (returned : (drawAll table context requests).Returns (fragments, notes)) :
    (∃ drawings : List (LayerKind × Drawing),
      drawings.map (·.1) = requests.map (·.kind) ∧
      (∀ entry ∈ drawings, Drawn table context entry.1 entry.2) ∧
      fragments = drawings.map (·.2.toFragment)) ∧
    ∀ note ∈ notes, note.kind ∈ ["empty-layer", "partial-layer"] := by
  induction requests generalizing fragments notes with
  | nil =>
      cases returned
      exact ⟨⟨[], rfl, List.forall_mem_nil _, rfl⟩, List.forall_mem_nil _⟩
  | cons request rest induction =>
      unfold drawAll at returned
      simp only [Run.returns_bind, Run.returns_pure, Prod.mk.injEq] at returned
      rcases returned with ⟨drawing, first, ⟨others, otherNotes⟩, following, rfl, rfl⟩
      rcases induction following with ⟨⟨drawings, kinds, drawn, rfl⟩, told⟩
      refine ⟨⟨(request.kind, drawing) :: drawings, ?_, ?_, rfl⟩, ?_⟩
      · rw [List.map_cons, List.map_cons, kinds]
      · exact List.forall_mem_cons.mpr ⟨LayerRequest.draw_drawn first, drawn⟩
      · exact List.forall_mem_append.mpr ⟨layerDiagnostics_kind, told⟩

end Compilation

/-! ## Assembly and legend -/

theorem Legend.selectionSource_eq : ∃ source : DataSource,
    selectionSource = .map source.toMembers ∧ source.name = selectedSource ∧
      source.origin? = none ∧ source.steps = [] :=
  ⟨⟨selectedSource, _⟩, rfl, rfl, rfl, rfl⟩

namespace Chart

/-- The sources of fragments, with the conflicts between them. -/
def mergedSources (fragments : List Fragment) : List DataSource × List Diagnostic :=
  Assembly.firstSources (fragments.flatMap Assembly.sourcesOf)

/-- The scales of fragments, with the conflicts between them. -/
def mergedScales (fragments : List Fragment) : List Scale × List Diagnostic :=
  Assembly.firstScales (fragments.flatMap (·.scales))

theorem report_returns (notes : List Diagnostic) : (Assembly.report notes).Returns () := by
  induction notes with
  | nil => rfl
  | cons note rest induction =>
      unfold Assembly.report
      simp only [Run.returns_bind]
      exact ⟨(), rfl, induction⟩

/-- An assembled chart has the table, and the sources, scales and marks of the fragments that show
something. -/
theorem assemble_eq {fragments : List Fragment} {table : Table} {options : ChartOptions}
    {style : Style} {chart : Chart} {notes : List Diagnostic}
    (returned : (assemble fragments table options style).Returns (chart, notes)) :
    ∃ shown, shown = fragments.filter (fun fragment => !fragment.isEmpty) ∧
      chart.data = (Assembly.tableRows table :: (mergedSources shown).1).map
        (fun source => .map source.toMembers) ∧
      chart.scales = (mergedScales shown).1 ∧ chart.marks = shown.flatMap (·.marks) ∧
      notes = (mergedSources shown).2 ++ (mergedScales shown).2 := by
  unfold assemble at returned
  simp only [Run.returns_bind, Run.returns_lift, Run.returns_pure, Prod.mk.injEq] at returned
  rcases returned with ⟨_, _, _, _, _, _, _, _, _, _, _, _, _, _, rfl, rfl⟩
  exact ⟨_, rfl, rfl, rfl, rfl, rfl⟩

/-- A legend changes no scales. Marks may be made to follow a selection, which is a source. -/
theorem withLegend_eq {chart result : Chart} {style : Style} {interactive : Value}
    (returned : (chart.withLegend style interactive).Returns result) :
    result.scales = chart.scales ∧
      ((result.marks = chart.marks ∧ result.data = chart.data) ∨
        ∃ count, Legend.selectableMarks style chart.marks = .ok (result.marks, count) ∧
          result.data = chart.data ++ [Legend.selectionSource]) := by
  unfold withLegend at returned
  split at returned
  · cases returned
    exact ⟨rfl, .inl ⟨rfl, rfl⟩⟩
  · simp only [Run.returns_bind, Run.returns_lift] at returned
    rcases returned with ⟨choice, _, returned⟩
    split at returned
    · simp only [Run.returns_bind, Run.returns_pure] at returned
      rcases returned with ⟨_, _, rfl⟩
      exact ⟨rfl, .inl ⟨rfl, rfl⟩⟩
    · simp only [Run.returns_bind, Run.returns_lift, Run.returns_pure] at returned
      rcases returned with ⟨⟨marks, count⟩, followed, _, _, rfl⟩
      exact ⟨rfl, .inr ⟨count, followed, rfl⟩⟩

end Chart

/-! ## Compilations -/

namespace Compilation

/-- The kinds of what is told about a compilation, apart from conflicts. -/
def plainNotes : List String :=
  ["length-mismatch", "dropped-rows", "default-layer", "empty-layer", "partial-layer"]

/-- What a compilation is put together from: the drawings that show something, each of another kind
of layer. -/
structure Parts (compilation : Compilation) (context : LayerContext) where
  drawings : List (LayerKind × Drawing)
  /-- The source that holds the selection, if there is one. -/
  selection : List DataSource
  once : (drawings.map (·.1)).Nodup
  drawn : ∀ entry ∈ drawings, Drawn compilation.table context entry.1 entry.2
  sound : compilation.table.Sound
  data : compilation.chart.data =
    (Assembly.tableRows compilation.table
        :: (Chart.mergedSources (drawings.map (·.2.toFragment))).1 ++ selection).map
      fun source => .map source.toMembers
  given : ∀ source ∈ selection, source.origin? = none ∧ source.steps = []
  scales : compilation.chart.scales = (Chart.mergedScales (drawings.map (·.2.toFragment))).1
  marks : (compilation.chart.marks = drawings.flatMap (·.2.toFragment.marks) ∧ selection = []) ∨
    ∃ count, Legend.selectableMarks context.style (drawings.flatMap (·.2.toFragment.marks))
        = .ok (compilation.chart.marks, count) ∧
      selection.map (·.name) = [Legend.selectedSource]
  notes : ∃ others, compilation.diagnostics = others ++
      ((Chart.mergedSources (drawings.map (·.2.toFragment))).2
        ++ (Chart.mergedScales (drawings.map (·.2.toFragment))).2) ∧
    ∀ note ∈ others, note.kind ∈ plainNotes

theorem filter_toFragment (drawings : List (LayerKind × Drawing)) :
    (drawings.map (·.2.toFragment)).filter (fun fragment => !fragment.isEmpty) =
      (drawings.filter fun entry => !entry.2.isEmpty).map (·.2.toFragment) := by
  rw [List.filter_map]
  congr 2
  funext entry
  simp [Fragment.isEmpty, Drawing.isEmpty, Drawing.toFragment]

end Compilation

open Compilation in
/-- Whatever is compiled has such parts. -/
theorem PlotDescriptor.compile_parts {descriptor : PlotDescriptor} {options : ChartOptions}
    {style : Style} {compilation : Compilation}
    (returned : (descriptor.compile options style).Returns compilation) :
    Nonempty (Parts compilation { style, jitterSeed := options.jitterSeed }) := by
  unfold compile Compilation.project Compilation.analyze Compilation.draw at returned
  simp only [Run.returns_bind, Run.returns_traced, Run.returns_pure] at returned
  rcases returned with ⟨table, projected, analysis, analyzed, ⟨fragments, drawNotes⟩, drawn,
    ⟨chart, mergeNotes⟩, assembled, result, legend, _, _, rfl⟩
  rcases drawAll_drawn drawn with ⟨⟨drawings, kinds, each, rfl⟩, drawTold⟩
  rcases Chart.assemble_eq assembled with ⟨shown, equal, data, scales, marks, rfl⟩
  rw [filter_toFragment] at equal
  rcases Chart.withLegend_eq legend with ⟨sameScales, changes⟩
  rcases LayerAnalysis.ofMarkers_once analyzed with ⟨once, defaultTold⟩
  rcases Table.project_parts projected with ⟨parts⟩
  have told : ∀ note ∈ table.diagnostics ++ analysis.diagnostics ++ drawNotes,
      note.kind ∈ plainNotes := by
    intro note inside
    rcases List.mem_append.mp inside with inside | inside
    · rcases List.mem_append.mp inside with inside | inside
      · exact List.mem_append_left _ (parts.notes note inside)
      · simp [plainNotes, defaultTold note inside]
    · have kind := drawTold note inside
      simp only [List.mem_cons, List.not_mem_nil, or_false] at kind
      simp [plainNotes, kind]
  have shownMarks : shown.flatMap (·.marks)
      = (drawings.filter fun entry => !entry.2.isEmpty).flatMap (·.2.toFragment.marks) := by
    rw [equal, List.flatMap_map]
  rw [equal] at data scales
  rw [shownMarks] at marks
  have selection : ∃ selection : List DataSource,
      result.data = chart.data ++ selection.map (fun source => .map source.toMembers) ∧
      (∀ source ∈ selection, source.origin? = none ∧ source.steps = []) ∧
      ((result.marks = chart.marks ∧ selection = []) ∨
        ∃ count, Legend.selectableMarks style chart.marks = .ok (result.marks, count) ∧
          selection.map (·.name) = [Legend.selectedSource]) := by
    rcases changes with ⟨sameMarks, sameData⟩ | ⟨count, followed, added⟩
    · refine ⟨[], ?_, List.forall_mem_nil _, .inl ⟨sameMarks, rfl⟩⟩
      rw [sameData, List.map_nil, List.append_nil]
    · rcases Legend.selectionSource_eq with ⟨source, written, named, plain⟩
      refine ⟨[source], ?_, List.forall_mem_singleton.mpr plain, .inr ⟨count, followed, ?_⟩⟩
      · rw [added, written]
        rfl
      · rw [List.map_singleton, named]
  rcases selection with ⟨selection, added, plain, followed⟩
  rw [marks] at followed
  rw [data, ← List.map_append] at added
  refine ⟨⟨drawings.filter fun entry => !entry.2.isEmpty, selection, ?_, ?_,
    Table.project_sound projected, added, plain, sameScales.trans scales, followed, _, ?_, told⟩⟩
  · exact (kinds ▸ once).sublist (List.filter_sublist.map _)
  · exact fun entry inside => each entry (List.mem_filter.mp inside).1
  · rw [← equal]

/-- A plot compiles if each of the steps returns. -/
theorem PlotDescriptor.compile_returns {descriptor : PlotDescriptor} {options : ChartOptions}
    {style : Style} {table : Table} {analysis : LayerAnalysis}
    {drawn : List Fragment × List Diagnostic} {assembled : Chart × List Diagnostic} {chart : Chart}
    (projected : (Table.project descriptor.bindings).Returns table)
    (analyzed : (LayerAnalysis.ofMarkers descriptor.layers).Returns analysis)
    (drew : (Compilation.drawAll table { style, jitterSeed := options.jitterSeed }
      analysis.requests).Returns drawn)
    (joined : (Chart.assemble drawn.1 table options style).Returns assembled)
    (legend : (assembled.1.withLegend style options.interactive).Returns chart) :
    (descriptor.compile options style).Returns
      { chart
        diagnostics := table.diagnostics ++ analysis.diagnostics ++ drawn.2 ++ assembled.2
        requests := analysis.requests
        table } := by
  unfold compile Compilation.project Compilation.analyze Compilation.draw
  simp only [Run.returns_bind, Run.returns_traced, Run.returns_pure]
  exact ⟨table, projected, analysis, analyzed, drawn, drew, assembled, joined, chart, legend, (), rfl,
    rfl⟩

/-- A plot with layers that are drawn fails to compile if its chart cannot be assembled, or cannot
be given its legend. -/
theorem PlotDescriptor.compile_fails_iff {descriptor : PlotDescriptor} {options : ChartOptions}
    {style : Style} {table : Table} {analysis : LayerAnalysis}
    {drawn : List Fragment × List Diagnostic} {failure : Failure}
    (projected : (Table.project descriptor.bindings).Returns table)
    (analyzed : (LayerAnalysis.ofMarkers descriptor.layers).Returns analysis)
    (drew : (Compilation.drawAll table { style, jitterSeed := options.jitterSeed }
      analysis.requests).Returns drawn) :
    (descriptor.compile options style).Fails failure ↔
      (Chart.assemble drawn.1 table options style).Fails failure ∨
      ∃ assembled, (Chart.assemble drawn.1 table options style).Returns assembled ∧
        (assembled.1.withLegend style options.interactive).Fails failure := by
  have reported : ∀ compilation : Compilation, ¬ compilation.report.Fails failure := by
    intro compilation
    simp only [Compilation.report, Run.fails_info, not_false_eq_true]
  unfold compile Compilation.project Compilation.analyze Compilation.draw
  simp only [Run.fails_bind, Run.fails_traced, Run.returns_traced, Run.fails_pure,
    projected.not_fails, analyzed.not_fails, drew.not_fails, projected.exists_iff,
    analyzed.exists_iff, drew.exists_iff, reported, false_or, or_false, and_false, exists_false]

/-- A plot fails to compile if its layers are drawn and its chart cannot be assembled. -/
theorem PlotDescriptor.compile_fails {descriptor : PlotDescriptor} {options : ChartOptions}
    {style : Style} {table : Table} {analysis : LayerAnalysis}
    {drawn : List Fragment × List Diagnostic} {failure : Failure}
    (projected : (Table.project descriptor.bindings).Returns table)
    (analyzed : (LayerAnalysis.ofMarkers descriptor.layers).Returns analysis)
    (drew : (Compilation.drawAll table { style, jitterSeed := options.jitterSeed }
      analysis.requests).Returns drawn)
    (failed : (Chart.assemble drawn.1 table options style).Fails failure) :
    (descriptor.compile options style).Fails failure :=
  (compile_fails_iff projected analyzed drew).mpr (.inl failed)

/-- Bars and lines over the categories of two color groups. -/
def groupedDescriptor : PlotDescriptor :=
  ⟨groupedBindings, [("geom_bar", .map []), ("geom_line", .map [])]⟩

theorem groupedDescriptor_compiled : ∃ compilation,
    (groupedDescriptor.compile { interactive := .bool true }).Returns compilation ∧
      compilation.requests.map (·.kind) = [.bar, .line] ∧ compilation.diagnostics = [] :=
  ⟨_, PlotDescriptor.compile_returns groupedBindings_projected rfl rfl rfl rfl, rfl, rfl⟩

end ChartCompiler
