import ChartCompiler.Compilation
import ChartCompiler.Proofs.Chart.Legend
import ChartCompiler.Proofs.Document.Json
import ChartCompiler.Proofs.Layer.Fits
import ChartCompiler.Proofs.Layer.Labels
import ChartCompiler.Proofs.References.Fitting

/-!
# Documents as JSON

A drawing that fits shows known constants only, and whatever else it consists of is written as JSON.
So the document of a chart consists of maps that have each name once, of lists and of single values,
nested no deeper than the constants of its style and its options allow.
-/

namespace ChartCompiler

section

open Layer

variable {table : Table} {context : LayerContext} {kind : LayerKind} {drawing : Drawing}
  {depth : Nat}

/-! ## Channels -/

/-- Whether no mark of a graphic sets a channel twice in a block. -/
def Graphic.setsOnce : Graphic → Bool
  | .mark content => content.setsOnce
  | .group content => content.setsOnce

theorem Table.linePerGroup_setsOnce (source : String) {line : Mark} (name facet : String)
    (once : line.setsOnce = true) :
    (table.linePerGroup source line name facet).setsOnce = true := by
  unfold linePerGroup
  split
  · simpa [Graphic.setsOnce, Group.setsOnce, Channels.setsOnce, Mark.setsOnce] using once
  · exact once

theorem Drawn.setsOnce (drawn : Drawn table context kind drawing) :
    ∀ graphic ∈ drawing.graphics, graphic.setsOnce = true := by
  cases drawn
  case empty => exact List.forall_mem_nil _
  case line | glm | fit | smooth | density | ellipse =>
      exact List.forall_mem_singleton.mpr (Table.linePerGroup_setsOnce _ _ _ rfl)
  case regression =>
      exact List.forall_mem_cons.mpr ⟨rfl,
        List.forall_mem_singleton.mpr (Table.linePerGroup_setsOnce _ _ _ rfl)⟩
  case bars =>
      refine List.forall_mem_singleton.mpr ?_
      split <;> rfl
  case boxplot =>
      intro graphic inside
      simp only [boxplotDrawing, boxplotGraphics, List.mem_cons, List.not_mem_nil, or_false]
        at inside
      rcases inside with rfl | rfl | rfl | rfl | rfl | rfl | rfl <;> rfl
  case means => exact List.forall_mem_cons.mpr ⟨rfl, List.forall_mem_singleton.mpr rfl⟩
  all_goals exact List.forall_mem_singleton.mpr rfl

/-! ## Rows -/

/-- The rows of the table with offsets are maps of single values. -/
theorem Displacement.Offsets.rows_isJson {displacement : Displacement} {source : String}
    {inline : List InlineRows} {offset : Expr}
    (offsets : Displacement.Offsets displacement table context source inline offset) :
    ∀ given ∈ inline, ∀ row ∈ given.rows, (Value.map row).IsJson (depth + 1) := by
  cases offsets with
  | rendered width offset drawn => exact List.forall_mem_nil _
  | seeded seed spread rows drawn =>
      unfold Displacement.seededRows at drawn
      rcases (bind_eq_ok_iff _ _ _).mp drawn with ⟨offsets, _, equal⟩
      cases equal
      refine List.forall_mem_singleton.mpr (List.forall_mem_map.mpr ?_)
      rintro ⟨record, offset⟩ zipped
      rcases List.mem_map.mp (List.of_mem_zip zipped).1 with ⟨row, _, rfl⟩
      refine .of_sublist (Row.fieldNames ++ ["jitter"]) ?_ (by decide) ?_
      · rw [Members.names_append]
        exact row.names_toMembers_sublist.append (.refl _)
      · exact List.forall_mem_append.mpr
          ⟨row.each_toMembers, List.forall_mem_singleton.mpr (.number _)⟩

theorem Layer.givenRows_isJson {rowOf : α → Members}
    (each : ∀ value, (Value.map (rowOf value)).IsJson depth) (name : String) (values : List α) :
    ∀ inline ∈ [InlineRows.mk name (values.map rowOf)], ∀ row ∈ inline.rows,
      (Value.map row).IsJson depth :=
  List.forall_mem_singleton.mpr (List.forall_mem_map.mpr fun value _ => each value)

/-- Whatever rows a drawing brings along, they are maps of single values. -/
theorem Drawn.rows_isJson (drawn : Drawn table context kind drawing) :
    ∀ inline ∈ drawing.inline, ∀ row ∈ inline.rows, (Value.map row).IsJson (depth + 1) := by
  cases drawn
  case jitter offsets | swarm offsets => exact offsets.rows_isJson
  case abline | valueVlines | valueHlines | placedPolygon | freePolygon =>
      exact givenRows_isJson (fun value => by simp [Value.real]) _ _
  all_goals exact List.forall_mem_nil _

/-! ## Drawings -/

/-- A graphic that fits shows known constants. -/
theorem Graphic.Fits.isJson {environment : Environment} {graphic : Graphic}
    (fits : graphic.Fits environment) (once : graphic.setsOnce = true)
    (constants : environment.style.IsJson depth) :
    (Value.map graphic.toMembers).IsJson (depth + 7) := by
  cases graphic with
  | mark mark =>
      have json := Mark.isJson_toMembers once fun value shown =>
        constants.known (Mark.Fits.constants fits value shown)
      exact json.mono (by omega)
  | group group =>
      rcases fits with ⟨columns, fits⟩
      exact Group.isJson_toMembers fits.isClear once fun value shown =>
        constants.known (fits.constants value shown)

/-- A quiet scale states its own domain. -/
theorem Scale.Quiet.isJson {environment : Environment} {scale : Scale} (quiet : scale.Quiet table)
    (fits : scale.Fits environment) (constants : environment.style.IsJson depth) :
    (Value.map scale.toMembers).IsJson (depth + 4) := by
  refine Scale.isJson_toMembers ?_ fits.range.isClear
    (fun value shown => constants.known (fits.range.constants value shown)) quiet.settings
  intro value stated
  rcases quiet.domain with ⟨_, listed⟩ | ⟨_, clear⟩
  · cases stated.symm.trans listed
  · rw [stated] at clear
    cases clear

/-- Whether all that a drawing puts into a document is JSON of some depth. -/
structure Drawing.IsJson (depth : Nat) (drawing : Drawing) : Prop where
  graphics : ∀ graphic ∈ drawing.graphics, (Value.map graphic.toMembers).IsJson depth
  scales : ∀ scale ∈ drawing.scales, (Value.map scale.toMembers).IsJson depth
  axes : ∀ axis ∈ drawing.axes, (Value.map axis.toMembers).IsJson depth
  rows : ∀ inline ∈ drawing.inline, ∀ row ∈ inline.rows, (Value.map row).IsJson 1

theorem Drawn.isJson (drawn : Drawn table context kind drawing)
    (constants : context.style.IsJson depth) : drawing.IsJson (depth + 7) := by
  rcases drawn.fits with ⟨held, fits, _⟩
  have quiet := drawn.quiet
  refine ⟨fun graphic inside => ?_, fun scale inside => ?_, fun axis inside => ?_,
    drawn.rows_isJson⟩
  · exact (fits.graphics graphic inside).isJson (drawn.setsOnce graphic inside) constants
  · have json := (quiet.scales scale inside).isJson (fits.scales scale inside) constants
    exact json.mono (by omega)
  · have json : (Value.map axis.toMembers).IsJson (depth + 2) :=
      Axis.isJson_toMembers (fits.axes axis inside).clear
    exact json.mono (by omega)

end

open Assembly

variable {depth level : Nat}

/-! ## Fragments -/

/-- Whether all parts of a fragment are JSON of some depth. -/
structure Fragment.IsJson (depth : Nat) (fragment : Fragment) : Prop where
  marks : ∀ mark ∈ fragment.marks, mark.IsJson depth
  scales : ∀ scale ∈ fragment.scales, (Value.map scale.toMembers).IsJson depth
  sources : ∀ source ∈ sourcesOf fragment, (Value.map source.toMembers).IsJson depth
  axes : ∀ axis ∈ fragment.axes, axis.IsJson depth

theorem Drawing.IsJson.toFragment {drawing : Drawing} (json : drawing.IsJson (depth + 7)) :
    drawing.toFragment.IsJson (depth + 7) where
  marks := List.forall_mem_map.mpr json.graphics
  scales := json.scales
  sources := by
    refine List.forall_mem_append.mpr ⟨List.forall_mem_map.mpr fun inline inside => ?_,
      List.forall_mem_map.mpr fun pipeline inside => ?_⟩
    · exact (DataSource.isJson_inline _ (json.rows inline inside)).mono (by omega)
    · have steps : ∀ step ∈ pipeline.steps, (Value.map step.toMembers).IsJson (depth + 2) :=
        fun step _ => step.isJson_toMembers
      have source := DataSource.isJson_derived pipeline.name pipeline.source
        (List.forall_mem_map.mpr steps)
      exact source.mono (by omega)
  axes := List.forall_mem_map.mpr json.axes

theorem Compilation.drawAll_isJson {table : Table} {context : LayerContext}
    {requests : List LayerRequest} {fragments : List Fragment} {notes : List Diagnostic}
    (constants : context.style.IsJson depth)
    (returned : (drawAll table context requests).Returns (fragments, notes)) :
    ∀ fragment ∈ fragments, fragment.IsJson (depth + 7) := by
  rcases (drawAll_drawn returned).1 with ⟨drawings, _, drawn, rfl⟩
  exact List.forall_mem_map.mpr fun entry listed =>
    ((drawn entry listed).isJson constants).toFragment

/-! ## Charts -/

/-- Whether the options that go into the document are JSON of some depth. -/
structure ChartOptions.IsJson (depth : Nat) (options : ChartOptions) : Prop where
  title : options.title.IsJson depth
  xLabel : options.xLabel.IsJson depth
  yLabel : options.yLabel.IsJson depth
  width : options.width.IsJson depth
  height : options.height.IsJson depth

theorem ChartOptions.IsJson.mono {options : ChartOptions} (json : options.IsJson depth)
    (order : depth ≤ level) : options.IsJson level :=
  ⟨json.title.mono order, json.xLabel.mono order, json.yLabel.mono order, json.width.mono order,
    json.height.mono order⟩

/-- Whether what a chart puts into the document is JSON of some depth. -/
structure Chart.IsJson (depth : Nat) (chart : Chart) : Prop where
  schema : chart.schema.IsJson depth
  width : chart.width.IsJson depth
  height : chart.height.IsJson depth
  padding : (Value.map chart.padding).IsJson (depth + 1)
  title : ∀ title ∈ chart.title, title.IsJson depth
  signals : ∀ signal ∈ chart.signals, signal.IsJson depth
  data : ∀ source ∈ chart.data, source.IsJson depth
  scales : ∀ scale ∈ chart.scales, (Value.map scale.toMembers).IsJson depth
  axes : ∀ axis ∈ chart.axes, axis.IsJson depth
  marks : ∀ mark ∈ chart.marks, mark.IsJson depth
  legends : ∀ legend ∈ chart.legends, legend.IsJson depth

namespace Chart

variable {fragments : List Fragment} {table : Table} {options : ChartOptions} {style : Style}
  {chart result : Chart} {notes : List Diagnostic} {interactive : Value}

theorem IsJson.mono (json : chart.IsJson depth) (order : depth ≤ level) : chart.IsJson level where
  schema := json.schema.mono order
  width := json.width.mono order
  height := json.height.mono order
  padding := json.padding.mono (Nat.succ_le_succ order)
  title := fun title shown => (json.title title shown).mono order
  signals := fun signal inside => (json.signals signal inside).mono order
  data := fun source inside => (json.data source inside).mono order
  scales := fun scale inside => (json.scales scale inside).mono order
  axes := fun axis inside => (json.axes axis inside).mono order
  marks := fun mark inside => (json.marks mark inside).mono order
  legends := fun legend inside => (json.legends legend inside).mono order

theorem names_listMember_sublist (name : String) (items : List Value) :
    (listMember name items).names.Sublist [name] := by
  unfold listMember
  split
  · exact List.nil_sublist _
  · exact List.Sublist.refl _

theorem each_listMember {name : String} {items : List Value}
    (json : ∀ item ∈ items, item.IsJson depth) :
    ∀ member ∈ listMember name items, member.2.IsJson (depth + 1) := by
  unfold listMember
  split
  · exact List.forall_mem_nil _
  · exact List.forall_mem_singleton.mpr (.list json)

theorem names_titleMember_sublist (chart : Chart) : chart.titleMember.names.Sublist ["title"] := by
  unfold titleMember
  split
  · split
    · exact List.Sublist.refl _
    · exact List.nil_sublist _
  · exact List.nil_sublist _

/-- The document of a chart consists of its parts, each under a name of its own. -/
theorem IsJson.toMembers (json : chart.IsJson depth) :
    (Value.map chart.toMembers).IsJson (depth + 2) := by
  have title : ∀ member ∈ chart.titleMember, member.2.IsJson (depth + 1) := by
    unfold titleMember
    split
    · next title stated =>
        split
        · exact List.forall_mem_singleton.mpr ((json.title title stated).mono (Nat.le_succ depth))
        · exact List.forall_mem_nil _
    · exact List.forall_mem_nil _
  have frame := And.intro (json.schema.mono (Nat.le_succ depth))
    (And.intro (json.width.mono (Nat.le_succ depth)) (json.height.mono (Nat.le_succ depth)))
  have lists := And.intro json.data (And.intro json.scales (And.intro json.axes json.marks))
  have padding := (Value.isJson_map _).mp json.padding
  refine .of_sublist (["$schema", "width", "height", "padding", "autosize"] ++ ["title"]
    ++ ["signals"] ++ ["data", "scales", "axes", "marks"] ++ ["legends"]) ?_ (by decide) ?_
  · simp only [Chart.toMembers, Members.names_append]
    exact ((((List.Sublist.refl _).append chart.names_titleMember_sublist).append
      (names_listMember_sublist _ _)).append (.refl _)).append (names_listMember_sublist _ _)
  · simp only [Chart.toMembers, List.forall_mem_append]
    refine ⟨⟨⟨⟨?_, title⟩, each_listMember json.signals⟩, ?_⟩, each_listMember json.legends⟩
    · simpa [frame] using padding
    · simpa using lists

theorem withTitle_isJson (given : options.IsJson depth) {axis : Value × Members}
    (json : (Value.map axis.2).IsJson (depth + 1)) :
    (withTitle options axis).IsJson (depth + 1) := by
  have labels : ∀ label ∈ [options.xLabel, options.yLabel], label.IsJson depth :=
    List.forall_mem_cons.mpr ⟨given.xLabel, List.forall_mem_singleton.mpr given.yLabel⟩
  rcases withTitle_eq options axis with kept | ⟨label, either, titled⟩
  · exact kept ▸ json
  · exact titled ▸ json.set "title" (labels label either)

/-- Fragments, a table and options are joined into a chart as deep as the fragments. -/
theorem assemble_isJson (given : options.IsJson depth) (constants : style.IsJson depth)
    (json : ∀ fragment ∈ fragments, fragment.IsJson (depth + 7))
    (returned : (assemble fragments table options style).Returns (chart, notes)) :
    chart.IsJson (depth + 7) := by
  rcases assemble_returns_iff.mp returned with
    ⟨padding, axes, title, padded, placed, shown, rfl, _, _⟩
  have each : ∀ fragment ∈ drawn fragments, fragment.IsJson (depth + 7) := fun fragment inside =>
    json fragment (List.mem_filter.mp inside).1
  have more := Nat.le_add_right depth 7
  refine ⟨constants.schema.mono more, given.width.mono more, given.height.mono more,
    (constants.padding _ padded).mono (by omega),
    fun value stated => eq_of_shownTitle? shown value stated ▸ given.title.mono more,
    List.forall_mem_nil _, ?_, ?_, ?_, ?_, List.forall_mem_nil _⟩
  · refine List.forall_mem_map.mpr fun source inside => ?_
    rcases List.mem_cons.mp inside with rfl | merged
    · have rows : ∀ row ∈ table.records, (Value.map row).IsJson (depth + 5) :=
        List.forall_mem_map.mpr fun row _ => row.isJson_toMembers
      exact DataSource.isJson_inline _ rows
    · rcases exists_of_mergedSources merged with ⟨fragment, listed, own⟩
      exact (each fragment listed).sources source own
  · intro scale merged
    rcases exists_of_mergedScales merged with ⟨fragment, listed, own⟩
    exact (each fragment listed).scales scale own
  · intro axis inside
    rcases firstAxes_mem placed inside with ⟨side, members, among, rfl⟩
    rcases List.mem_flatMap.mp among with ⟨fragment, listed, own⟩
    have titles := given.mono (Nat.le_add_right depth 6)
    exact withTitle_isJson titles ((each fragment listed).axes _ own)
  · intro mark inside
    rcases List.mem_flatMap.mp inside with ⟨fragment, listed, own⟩
    exact (each fragment listed).marks mark own

/-- A legend makes a chart deeper by the constants that it chooses from. -/
theorem withLegend_isJson (constants : style.IsJson depth) (json : chart.IsJson (depth + 7))
    (returned : (chart.withLegend style interactive).Returns result) :
    result.IsJson (depth + 4 + (depth + 7)) := by
  have deeper := json.mono (Nat.le_add_left (depth + 7) (depth + 4))
  have padding := deeper.padding.set "right" (constants.legendPaddingRight.mono (by omega))
  rcases withLegend_returns_iff.mp returned with
    ⟨_, rfl⟩ | ⟨_, _, rfl⟩ | ⟨_, _, marks, count, made, rfl⟩
  · exact deeper
  · refine { deeper with padding, legends := List.forall_mem_singleton.mpr ?_ }
    have legend : Legend.plainLegend.IsJson 1 := by simp [Legend.plainLegend, Value.whole]
    exact legend.mono (by omega)
  · have signals : ∀ signal ∈ Legend.selectionSignals, signal.IsJson 3 := by
      simp [Legend.selectionSignals, Legend.signal, Legend.legendClicks]
    have source : Legend.selectionSource.IsJson 3 := by simp [Legend.selectionSource]
    have entry : (Legend.selectionOpacity Legend.entryTest style).IsJson (depth + 2) :=
      Legend.isJson_selectionOpacity constants _
    have test : Legend.entryTest.IsJson depth := .text _
    have legend : (Legend.selectionLegend style).IsJson (depth + 6) := by
      simp [Legend.selectionLegend, Legend.legendPart, Legend.constant, Legend.choice, entry, test,
        Value.whole, Value.real]
    refine { deeper with
      padding
      signals := List.forall_mem_append.mpr ⟨deeper.signals, fun signal inside => ?_⟩
      data := List.forall_mem_append.mpr ⟨deeper.data, List.forall_mem_singleton.mpr ?_⟩
      marks := Legend.isJson_selectableMarks constants made json.marks
      legends := List.forall_mem_singleton.mpr ?_ }
    · exact (signals signal inside).mono (by omega)
    · exact source.mono (by omega)
    · exact legend.mono (by omega)

end Chart

/-- The document of a plot is JSON, whatever its layers draw. -/
theorem PlotDescriptor.document_isJson {descriptor : PlotDescriptor} {options : ChartOptions}
    {style : Style} {compilation : Compilation} (given : options.IsJson depth)
    (constants : style.IsJson depth)
    (returned : (descriptor.compile options style).Returns compilation) :
    (Value.map compilation.chart.toMembers).IsJson (2 * depth + 13) := by
  unfold compile Compilation.project Compilation.analyze Compilation.draw at returned
  simp only [Run.returns_bind, Run.returns_traced, Run.returns_pure] at returned
  rcases returned with ⟨table, _, analysis, _, ⟨fragments, drawNotes⟩, drawn,
    ⟨chart, mergeNotes⟩, assembled, result, legend, _, _, rfl⟩
  have fragments := Compilation.drawAll_isJson constants drawn
  have joined := Chart.assemble_isJson given constants fragments assembled
  exact (Chart.withLegend_isJson constants joined legend).toMembers.mono (by omega)

end ChartCompiler
