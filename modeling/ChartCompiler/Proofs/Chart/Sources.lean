import ChartCompiler.Proofs.Chart.Compiled
import ChartCompiler.Proofs.Document.Listed
import ChartCompiler.Proofs.Layer.Fits

/-!
# Data sources of compiled charts

A compiled chart lists each data source once, the table first and every other one after those that
it is computed from. Whatever its marks and scales read is listed. No two layers bring along sources
of one name, so there are no conflicts between sources.
-/

namespace ChartCompiler

/-! ## Merged sources -/

namespace Assembly

theorem foldl_addSource {sources : List DataSource} :
    ∀ {kept : List DataSource} {notes : List Diagnostic},
      ((kept ++ sources).map (·.name)).Nodup → tableSource ∉ sources.map (·.name) →
      sources.foldl addSource (kept, notes) = (kept ++ sources, notes) := by
  induction sources with
  | nil => simp
  | cons source rest induction =>
      intro kept notes once others
      rw [List.map_cons, List.mem_cons, not_or] at others
      have fresh : kept.find? (fun other => other.name = source.name) = none := by
        refine List.find?_eq_none.mpr fun other inside same => ?_
        rw [List.map_append, List.nodup_append] at once
        exact once.2.2 other.name (List.mem_map_of_mem inside) source.name (List.mem_cons_self ..)
          (of_decide_eq_true same)
      have added : addSource (kept, notes) source = (kept ++ [source], notes) := by
        unfold addSource
        dsimp only
        rw [if_neg (Ne.symm others.1), fresh]
      rw [List.foldl_cons, added, induction _ others.2, List.append_assoc]
      · rfl
      · rw [List.append_assoc]
        exact once

/-- Sources of different names are all kept. -/
theorem firstSources_of_nodup {sources : List DataSource} (once : (sources.map (·.name)).Nodup)
    (others : tableSource ∉ sources.map (·.name)) : firstSources sources = (sources, []) :=
  foldl_addSource once others

theorem mem_of_mem_addScale {state : List Scale × List Diagnostic} {added scale : Scale}
    (inside : scale ∈ (addScale state added).1) : scale ∈ state.1 ∨ scale = added := by
  unfold addScale at inside
  dsimp only at inside
  split at inside
  · exact (List.mem_append.mp inside).imp_right List.mem_singleton.mp
  · split at inside <;> exact .inl inside

/-- The scales that are kept are declared by layers. -/
theorem mem_of_mem_firstScales {scales : List Scale} {scale : Scale}
    (inside : scale ∈ (firstScales scales).1) : scale ∈ scales := by
  have kept : ∀ {scales : List Scale} {state : List Scale × List Diagnostic},
      scale ∈ (scales.foldl addScale state).1 → scale ∈ state.1 ∨ scale ∈ scales := by
    intro scales
    induction scales with
    | nil => exact fun inside => .inl inside
    | cons added rest induction =>
        intro state inside
        rcases induction inside with inside | inside
        · rcases mem_of_mem_addScale inside with inside | rfl
          · exact .inl inside
          · exact .inr (List.mem_cons_self ..)
        · exact .inr (List.mem_cons_of_mem _ inside)
  exact (kept inside).resolve_left List.not_mem_nil

end Assembly

/-! ## Compiled charts -/

/-- Whether a chart lists its data sources in order, each of them once, and reads no others. -/
structure Chart.Sourced (chart : Chart) (sources : List DataSource) : Prop where
  data : chart.data = sources.map fun source => .map source.toMembers
  once : (sources.map (·.name)).Nodup
  first : (sources.map (·.name)).head? = some tableSource
  order : DataSource.InOrder [] sources
  domains : ∀ scale ∈ chart.scales, ∀ domain, scale.toMembers.map? "domain" = some domain →
    ∀ source, domain.text? "data" = some source → source ∈ sources.map (·.name)
  marks : MarksListed (sources.map (·.name)) chart.marks

namespace Compilation.Parts

variable {compilation : Compilation} {context : LayerContext} (parts : Parts compilation context)

/-- The sources that the layers bring along. -/
def ownSources : List DataSource :=
  (parts.drawings.map (·.2.toFragment)).flatMap Assembly.sourcesOf

theorem names_ownSources :
    parts.ownSources.map (·.name) = parts.drawings.flatMap (·.2.ownSources) := by
  unfold ownSources
  rw [List.flatMap_map, List.map_flatMap]
  exact List.flatMap_congr fun entry _ => entry.2.names_sourcesOf

theorem sublist_sourceNames : (parts.ownSources.map (·.name)).Sublist
    ((parts.drawings.map (·.1)).flatMap LayerKind.sourceNames) := by
  have sublist : ∀ {drawings : List (LayerKind × Drawing)},
      (∀ entry ∈ drawings, Drawn compilation.table context entry.1 entry.2) →
      (drawings.flatMap (·.2.ownSources)).Sublist
        ((drawings.map (·.1)).flatMap LayerKind.sourceNames) := by
    intro drawings drawn
    induction drawings with
    | nil => exact List.Sublist.refl _
    | cons entry rest induction =>
        rcases List.forall_mem_cons.mp drawn with ⟨first, others⟩
        exact first.names.1.append (induction others)
  rw [names_ownSources]
  exact sublist parts.drawn

theorem ownSources_nodup : (parts.ownSources.map (·.name)).Nodup :=
  (LayerKind.nodup_flatMap_sourceNames parts.once).sublist parts.sublist_sourceNames

/-- The sources of the layers are not those of the chart. -/
theorem ownSources_not_reserved :
    ∀ name ∈ parts.ownSources.map (·.name), name ∉ LayerKind.reservedNames := by
  intro name inside
  rcases List.mem_flatMap.mp (parts.sublist_sourceNames.subset inside) with ⟨kind, _, own⟩
  exact LayerKind.sourceNames_not_reserved kind kind.mem_all name own

theorem mergedSources_eq :
    Chart.mergedSources (parts.drawings.map (·.2.toFragment)) = (parts.ownSources, []) :=
  Assembly.firstSources_of_nodup parts.ownSources_nodup fun inside =>
    parts.ownSources_not_reserved _ inside (List.mem_cons_self ..)

/-- Facets have other names than all sources. -/
theorem facetNames_fresh {entry : LayerKind × Drawing} (inside : entry ∈ parts.drawings) :
    ∀ facet ∈ entry.2.facetNames,
      facet ∉ LayerKind.reservedNames ∧ facet ∉ parts.ownSources.map (·.name) := by
  intro facet own
  have named := (parts.drawn entry inside).names.2 own
  rcases LayerKind.facetNames_fresh entry.1 entry.1.mem_all facet named with ⟨reserved, sources⟩
  refine ⟨reserved, fun listed => ?_⟩
  rcases List.mem_flatMap.mp (parts.sublist_sourceNames.subset listed) with ⟨kind, _, other⟩
  exact sources kind kind.mem_all other

theorem subset_ownSources {entry : LayerKind × Drawing} (inside : entry ∈ parts.drawings) :
    entry.2.ownSources ⊆ parts.ownSources.map (·.name) := by
  rw [names_ownSources]
  exact fun name own => List.mem_flatMap.mpr ⟨entry, inside, own⟩

theorem inOrder : DataSource.InOrder [tableSource] parts.ownSources := by
  have order : ∀ {drawings : List (LayerKind × Drawing)},
      (∀ entry ∈ drawings, Drawn compilation.table context entry.1 entry.2) →
      DataSource.InOrder [tableSource]
        ((drawings.map (·.2.toFragment)).flatMap Assembly.sourcesOf) := by
    intro drawings drawn
    induction drawings with
    | nil => exact .nil
    | cons entry rest induction =>
        rcases List.forall_mem_cons.mp drawn with ⟨first, others⟩
        rcases first.fits with ⟨held, fits, _⟩
        exact fits.inOrder.append ((induction others).mono (List.subset_append_left _ _))
  exact order parts.drawn

/-- All sources of the chart: the table, those of the layers, and the selection. -/
def sources : List DataSource :=
  Assembly.tableRows compilation.table :: parts.ownSources ++ parts.selection

theorem names_sources : parts.sources.map (·.name)
    = tableSource :: (parts.ownSources.map (·.name) ++ parts.selection.map (·.name)) := by
  unfold sources
  rw [List.cons_append, List.map_cons, List.map_append]
  rfl

theorem selection_names : parts.selection.map (·.name) ⊆ [Legend.selectedSource] ∧
    (parts.selection.map (·.name)).Nodup := by
  rcases parts.marks with ⟨_, none⟩ | ⟨_, _, some⟩
  · rw [none]
    exact ⟨List.nil_subset _, List.nodup_nil⟩
  · rw [some]
    exact ⟨List.Subset.refl _, List.nodup_singleton _⟩

theorem sources_nodup : (parts.sources.map (·.name)).Nodup := by
  rcases parts.selection_names with ⟨selected, once⟩
  rw [names_sources]
  refine List.nodup_cons.mpr ⟨fun inside => ?_, List.nodup_append.mpr
    ⟨parts.ownSources_nodup, once, fun name own other chosen same => ?_⟩⟩
  · rcases List.mem_append.mp inside with own | chosen
    · exact parts.ownSources_not_reserved _ own (List.mem_cons_self ..)
    · exact absurd (List.mem_singleton.mp (selected chosen)) (by decide)
  · refine parts.ownSources_not_reserved name own ?_
    rw [same, List.mem_singleton.mp (selected chosen)]
    exact List.mem_cons_of_mem _ (List.mem_cons_self ..)

theorem sources_inOrder : DataSource.InOrder [] parts.sources := by
  have selection : ∀ {selection : List DataSource} {earlier : List String},
      (∀ source ∈ selection, source.origin? = none ∧ source.steps = []) →
      DataSource.InOrder earlier selection := by
    intro selection
    induction selection with
    | nil => exact fun _ => .nil
    | cons source rest induction =>
        intro earlier plain
        rcases List.forall_mem_cons.mp plain with ⟨⟨origin, steps⟩, others⟩
        exact .cons ⟨by simp [origin], by simp [steps]⟩ (induction others)
  exact .cons ⟨nofun, List.forall_mem_nil _⟩ (parts.inOrder.append (selection parts.given))

/-- Every layer reads the table and its own sources, which are sources of the chart. -/
theorem subset_sources {entry : LayerKind × Drawing} (inside : entry ∈ parts.drawings) :
    tableSource :: entry.2.ownSources ⊆ parts.sources.map (·.name) := by
  rw [names_sources]
  exact List.cons_subset_cons _ (List.subset_append_of_subset_left _ (parts.subset_ownSources inside))

theorem marksListed : MarksListed (parts.sources.map (·.name)) compilation.chart.marks := by
  have drawn : MarksListed (parts.sources.map (·.name))
      (parts.drawings.flatMap (·.2.toFragment.marks)) := by
    refine .flatMap fun entry inside => ?_
    rcases (parts.drawn entry inside).fits with ⟨held, fits, _⟩
    refine fits.marksListed (parts.subset_sources inside) fun facet own listed => ?_
    rcases parts.facetNames_fresh inside facet own with ⟨reserved, sources⟩
    rw [names_sources, List.mem_cons, List.mem_append] at listed
    rcases listed with rfl | layer | chosen
    · exact reserved (List.mem_cons_self ..)
    · exact sources layer
    · exact reserved (List.mem_cons_of_mem _ (parts.selection_names.1 chosen))
  rcases parts.marks with ⟨same, _⟩ | ⟨count, followed, chosen⟩
  · rw [same]
    exact drawn
  · refine drawn.follow ?_ followed
    rw [names_sources, chosen]
    simp

theorem data_eq :
    compilation.chart.data = parts.sources.map fun source => .map source.toMembers := by
  have data := parts.data
  rw [mergedSources_eq] at data
  exact data

theorem sourced : compilation.chart.Sourced parts.sources := by
  refine ⟨parts.data_eq, parts.sources_nodup, ?_, parts.sources_inOrder, ?_, parts.marksListed⟩
  · rw [names_sources]
    rfl
  · intro scale kept domain written
    rw [parts.scales, Chart.mergedScales, List.flatMap_map] at kept
    rcases List.mem_flatMap.mp (Assembly.mem_of_mem_firstScales kept) with ⟨entry, inside, declared⟩
    rcases (parts.drawn entry inside).fits with ⟨held, fits, _⟩
    exact fits.domainListed (parts.subset_sources inside) declared written

end Compilation.Parts

/-- Whatever is told about the scales of layers is told of conflicts between scales. -/
theorem Assembly.firstScales_kind (scales : List Scale) :
    ∀ note ∈ (firstScales scales).2, note.kind = "scale-conflict" := by
  have told : ∀ {scales : List Scale} {state : List Scale × List Diagnostic},
      (∀ note ∈ state.2, note.kind = "scale-conflict") →
      ∀ note ∈ (scales.foldl addScale state).2, note.kind = "scale-conflict" := by
    intro scales
    induction scales with
    | nil => exact fun known => known
    | cons added rest induction =>
        intro state known
        refine induction ?_
        unfold addScale
        dsimp only
        split
        · exact known
        · split
          · exact known
          · exact List.forall_mem_append.mpr ⟨known, by simp [scaleConflict]⟩
  exact told (List.forall_mem_nil _)

/-- A compiled chart reads the data sources that it lists, in their order, and sources never
conflict. -/
theorem PlotDescriptor.compile_sourced {descriptor : PlotDescriptor} {options : ChartOptions}
    {style : Style} {compilation : Compilation}
    (returned : (descriptor.compile options style).Returns compilation) :
    (∃ sources, compilation.chart.Sourced sources) ∧
      ∀ note ∈ compilation.diagnostics, note.kind ≠ "source-conflict" := by
  rcases PlotDescriptor.compile_parts returned with ⟨parts⟩
  refine ⟨⟨parts.sources, parts.sourced⟩, fun note inside => ?_⟩
  rcases parts.notes with ⟨others, notes, plain⟩
  rw [notes, Compilation.Parts.mergedSources_eq, List.nil_append] at inside
  rcases List.mem_append.mp inside with other | conflict
  · intro same
    have kind := plain note other
    rw [same] at kind
    exact absurd kind (by decide)
  · rw [Assembly.firstScales_kind _ note conflict]
    decide

/-- Bars and lines that follow a selection read the sources of their chart. -/
theorem PlotDescriptor.compile_sourced_bars : ∃ compilation sources,
    (groupedDescriptor.compile { interactive := .bool true }).Returns compilation ∧
      compilation.chart.Sourced sources := by
  rcases groupedDescriptor_compiled with ⟨compilation, returned, _⟩
  rcases (PlotDescriptor.compile_sourced returned).1 with ⟨sources, sourced⟩
  exact ⟨compilation, sources, returned, sourced⟩

end ChartCompiler
