import ChartCompiler.Proofs.Chart.Sources
import ChartCompiler.Proofs.Document.Banded
import ChartCompiler.Proofs.Document.Descent
import ChartCompiler.Proofs.References.Fitting

/-!
# Bands of compiled charts

Layers decide for themselves whether they need bands, and of the scales that several layers declare
only the first counts. If no layer was in conflict with it, whatever asks for bands gets them: from
the scales of the chart, or from those of the group around it.
-/

namespace ChartCompiler

/-! ## First declarations -/

namespace Assembly

/-- Whether a declaration of the same name and kind is kept. -/
def Keeps (kept : List Scale) (scale : Scale) : Prop :=
  ∃ first, kept.find? (fun other => other.name = scale.name) = some first ∧
    first.kind = scale.kind

variable {state : List Scale × List Diagnostic}

/-- What is kept stays kept when a declaration is added. -/
theorem Keeps.addScale {scale : Scale} (keeps : Keeps state.1 scale) (added : Scale) :
    Keeps (addScale state added).1 scale := by
  rcases keeps with ⟨first, found, same⟩
  unfold Assembly.addScale
  dsimp only
  split
  · refine ⟨first, ?_, same⟩
    rw [List.find?_append, found]
    rfl
  · split <;> exact ⟨first, found, same⟩

/-- A declaration is kept, itself or as one that agrees, unless a conflict is told. -/
theorem addScale_keeps {added : Scale} (quiet : (addScale state added).2 = []) :
    state.2 = [] ∧ Keeps (addScale state added).1 added := by
  unfold addScale at quiet ⊢
  dsimp only at quiet ⊢
  split at quiet
  · next missing =>
      refine ⟨quiet, added, ?_, rfl⟩
      rw [List.find?_append, missing]
      simp
  · next first found =>
      split at quiet
      · next agrees =>
          simp only [Scale.agreesWith, Bool.and_eq_true, decide_eq_true_eq] at agrees
          rw [if_pos (by simp [Scale.agreesWith, agrees])]
          exact ⟨quiet, first, found, agrees.2⟩
      · simp at quiet

theorem foldl_addScale_keeps {scales : List Scale}
    (quiet : (scales.foldl addScale state).2 = []) :
    state.2 = [] ∧ ∀ scale, Keeps state.1 scale ∨ scale ∈ scales →
      Keeps (scales.foldl addScale state).1 scale := by
  induction scales generalizing state with
  | nil => exact ⟨quiet, fun scale known => known.resolve_right List.not_mem_nil⟩
  | cons added rest induction =>
      rcases induction quiet with ⟨silent, kept⟩
      rcases addScale_keeps silent with ⟨before, itself⟩
      refine ⟨before, fun scale known => kept scale ?_⟩
      rcases known with earlier | listed
      · exact .inl (earlier.addScale added)
      · rcases List.mem_cons.mp listed with rfl | later
        · exact .inl itself
        · exact .inr later

/-- Without conflicts every declaration is kept, itself or as one that agrees. -/
theorem firstScales_keeps {scales : List Scale} (quiet : (firstScales scales).2 = []) :
    ∀ scale ∈ scales, Keeps (firstScales scales).1 scale :=
  fun scale listed => (foldl_addScale_keeps quiet).2 scale (.inr listed)

end Assembly

/-! ## Types of scales -/

namespace Chart

/-- The type of the scale that a name stands for: that of the innermost group that declares it, or
that of the chart. -/
def scaleType? (chart : Chart) : List Members → String → Option String
  | [], name => (chart.scale? name).map (·.kind.text)
  | group :: outer, name =>
      match (group.maps "scales").find? fun scale => scale.text? "name" = some name with
      | some scale => scale.text? "type"
      | none => scaleType? chart outer name

/-- Whether a scale has bands. -/
def IsBand (chart : Chart) (around : List Members) (name : String) : Prop :=
  chart.scaleType? around name = some ScaleKind.banded.text

theorem scaleType?_of_follows (chart : Chart) {style : Style} {outer around : List Members}
    (same : List.Forall₂ (Legend.Follows style) outer around) (name : String) :
    chart.scaleType? around name = chart.scaleType? outer name := by
  induction same with
  | nil => rfl
  | cons follows others induction =>
      unfold scaleType?
      rw [follows.maps "scales" (by decide) (by decide), induction]

end Chart

namespace Group

variable {group : Group} {environment : Environment} {columns : Columns} {chart : Chart}

theorem find?_scales (group : Group) (name : String) :
    (group.toMembers.maps "scales").find? (fun scale => scale.text? "name" = some name) =
      (group.scales.find? fun declaration => declaration.scale.name = name).map
        GroupScale.toMembers := by
  rw [maps_scales, List.find?_map]
  congr 2
  funext declaration
  simp

/-- A group has the bands that it declares. -/
theorem FitsOver.scaleType?_own (fits : group.FitsOver environment columns)
    {declaration : GroupScale} (declared : declaration ∈ group.scales) (around : List Members) :
    chart.scaleType? (group.toMembers :: around) declaration.scale.name
      = some declaration.scale.kind.text := by
  have found : group.scales.find? (fun other => other.scale.name = declaration.scale.name)
      = some declaration := by
    cases search : group.scales.find? fun other => other.scale.name = declaration.scale.name with
    | none => simpa using List.find?_eq_none.mp search declaration declared
    | some other =>
        have named : other.scale.name = declaration.scale.name := by
          simpa using List.find?_some search
        rw [List.inj_on_of_nodup_map fits.once (List.mem_of_find?_eq_some search) declared named]
  rw [Chart.scaleType?, find?_scales, found]
  exact declaration.text?_type

/-- Other names stand for what they stand for outside of a group. -/
theorem scaleType?_outer {name : String} (other : name ∉ group.declared)
    (around : List Members) :
    chart.scaleType? (group.toMembers :: around) name = chart.scaleType? around name := by
  have missing : group.scales.find? (fun declaration => declaration.scale.name = name) = none := by
    apply List.find?_eq_none.mpr
    intro declaration declared same
    exact other (List.mem_map.mpr ⟨declaration, declared, of_decide_eq_true same⟩)
  rw [Chart.scaleType?, find?_scales, missing]
  rfl

end Group

/-- If a chart has the bands of a drawing, they are there for its marks, and so are those of its
groups. -/
theorem Environment.Reaches.isBand {environment inner : Environment} {graphics : List Graphic}
    {around : List Members} (reaches : environment.Reaches graphics around inner) {chart : Chart}
    (closed : environment.Closed)
    (known : ∀ scale ∈ environment.bands, chart.IsBand [] scale) :
    ∀ scale ∈ inner.bands, chart.IsBand around scale := by
  intro scale band
  cases reaches with
  | top => exact known scale band
  | inside group drawn columns fits =>
      rcases List.mem_append.mp band with own | outer
      · rcases List.mem_map.mp own with ⟨declaration, listed, rfl⟩
        rcases List.mem_filter.mp listed with ⟨listed, kind⟩
        unfold Chart.IsBand
        rw [fits.scaleType?_own listed, of_decide_eq_true kind]
      · have other : scale ∉ group.declared := fun own => fits.own scale own (closed outer)
        unfold Chart.IsBand
        rw [Group.scaleType?_outer other]
        exact known scale outer

/-! ## Compiled charts -/

/-- Whether a chart has bands wherever they are asked for, in its marks and in the ranges of its
scales. -/
structure Chart.Banded (chart : Chart) (table : Table) (sources : List DataSource) : Prop where
  data : chart.data = sources.map fun source => .map source.toMembers
  marks : MarksBanded chart.IsBand (DescendsFrom table sources) table.labelFields chart.marks
  ranges : ∀ scale ∈ chart.scales, ∀ formula ∈ scale.toMembers.rangeFormulas,
    ∀ name ∈ quotedCalls bandwidthFunction formula, chart.IsBand [] name

/-- Whether no setting that a style brings into charts is computed. -/
def Style.IsPlain (style : Style) : Prop := ∀ value ∈ style.shown, value.map? = none

theorem ScaleRange.Fits.plain {range : ScaleRange} {environment : Environment}
    (fits : range.Fits environment) (plain : environment.style.IsPlain) :
    ∀ color ∈ range.constants, color.map? = none := by
  intro color inside
  rcases fits.constants color inside with shown | setting
  · exact plain color shown
  · cases color with
    | map members => cases setting
    | _ => rfl

namespace Compilation.Parts

variable {compilation : Compilation} {context : LayerContext} (parts : Parts compilation context)
  (quiet : ∀ note ∈ compilation.diagnostics, note.kind ≠ "scale-conflict")

include quiet

theorem mergedScales_quiet : (Chart.mergedScales (parts.drawings.map (·.2.toFragment))).2 = [] := by
  apply List.eq_nil_iff_forall_not_mem.mpr
  intro note told
  rcases parts.notes with ⟨others, notes, _⟩
  apply quiet note
  · rw [notes]
    exact List.mem_append_right _ (List.mem_append_right _ told)
  · exact Assembly.firstScales_kind _ note told

/-- The chart has the bands that its layers declare. -/
theorem isBand {entry : LayerKind × Drawing} (inside : entry ∈ parts.drawings) :
    ∀ scale ∈ entry.2.bandNames, compilation.chart.IsBand [] scale := by
  intro name band
  rcases List.mem_map.mp band with ⟨scale, listed, rfl⟩
  rcases List.mem_filter.mp listed with ⟨declared, kind⟩
  have listed : scale ∈ (parts.drawings.map (·.2.toFragment)).flatMap (·.scales) :=
    List.mem_flatMap.mpr ⟨_, List.mem_map_of_mem inside, declared⟩
  rcases Assembly.firstScales_keeps (parts.mergedScales_quiet quiet) scale listed with
    ⟨first, found, same⟩
  unfold Chart.IsBand Chart.scaleType? Chart.scale?
  rw [parts.scales, Chart.mergedScales, found, Option.map_some, same, of_decide_eq_true kind]

theorem marksBanded : MarksBanded compilation.chart.IsBand
    (DescendsFrom compilation.table parts.sources) compilation.table.labelFields
    compilation.chart.marks := by
  have drawn : MarksBanded compilation.chart.IsBand
      (DescendsFrom compilation.table parts.sources) compilation.table.labelFields
      (parts.drawings.flatMap (·.2.toFragment.marks)) := by
    apply MarksBanded.flatMap
    intro entry inside
    rcases (parts.drawn entry inside).fits with ⟨held, fits, holds⟩
    apply MarksBanded.of_fits fits.graphics
    · intro around inner reaches
      apply reaches.isBand
      · exact fun scale band => (List.filter_sublist.map _).subset band
      · exact parts.isBand quiet inside
    · intro source columns found descends
      apply fits.labels_of_descends (holds parts.sound) parts.sources_nodup ?_ descends _ found
      intro own listed
      apply List.mem_cons_of_mem
      apply List.mem_append_left
      exact List.mem_flatMap.mpr ⟨_, List.mem_map_of_mem inside, listed⟩
  rcases parts.marks with ⟨same, _⟩ | ⟨count, followed, _⟩
  · rw [same]
    exact drawn
  · apply drawn.follow _ (Table.notMem_labelFields (by decide) (by decide)) followed
    intro outer around same scale band
    unfold Chart.IsBand
    rw [compilation.chart.scaleType?_of_follows same]
    exact band

include parts in
theorem rangesBanded (plain : context.style.IsPlain) :
    ∀ scale ∈ compilation.chart.scales, ∀ formula ∈ scale.toMembers.rangeFormulas,
      ∀ name ∈ quotedCalls bandwidthFunction formula, compilation.chart.IsBand [] name := by
  intro scale kept formula computed name called
  rw [parts.scales, Chart.mergedScales, List.flatMap_map] at kept
  rcases List.mem_flatMap.mp (Assembly.mem_of_mem_firstScales kept) with ⟨entry, inside, declared⟩
  rcases (parts.drawn entry inside).fits with ⟨held, fits, _⟩
  have range := (fits.scales scale declared).range
  have written : formula ∈ (scale.range.expression?.map Expr.toText).toList := by
    rw [← ScaleRange.rangeFormulas_toValue range (ScaleRange.Fits.plain range plain)]
    exact computed
  rcases List.mem_map.mp (Option.toList_map.symm ▸ written) with ⟨expression, listed, rfl⟩
  have fitting := ScaleRange.Fits.expression range expression (Option.mem_toList.mp listed)
  exact parts.isBand quiet inside name (fitting.bandwidths called)

end Compilation.Parts

/-- In a compiled chart, all scales that are asked for bands have them, and labels are placed in
bands, unless layers are in conflict about a scale. -/
theorem PlotDescriptor.compile_banded {descriptor : PlotDescriptor} {options : ChartOptions}
    {style : Style} {compilation : Compilation} (plain : style.IsPlain)
    (returned : (descriptor.compile options style).Returns compilation)
    (quiet : ∀ note ∈ compilation.diagnostics, note.kind ≠ "scale-conflict") :
    ∃ sources, compilation.chart.Banded compilation.table sources := by
  rcases PlotDescriptor.compile_parts returned with ⟨parts⟩
  exact ⟨parts.sources, parts.data_eq, parts.marksBanded quiet, parts.rangesBanded quiet plain⟩

theorem PlotDescriptor.compile_banded_bars : ∃ compilation sources,
    (groupedDescriptor.compile { interactive := .bool true }).Returns compilation ∧
      compilation.chart.Banded compilation.table sources := by
  have plain : ({} : Style).IsPlain := by
    unfold Style.IsPlain
    decide +kernel
  rcases groupedDescriptor_compiled with ⟨compilation, returned, _, silent⟩
  have quiet : ∀ note ∈ compilation.diagnostics, note.kind ≠ "scale-conflict" := by
    rw [silent]
    exact List.forall_mem_nil _
  rcases PlotDescriptor.compile_banded plain returned quiet with ⟨sources, banded⟩
  exact ⟨compilation, sources, returned, banded⟩

end ChartCompiler
