import ChartCompiler.Chart.Assembly
import ChartCompiler.Chart.Legend
import ChartCompiler.Proofs.Drawing.Content
import ChartCompiler.Proofs.Layer.Drawn
import Mathlib.Data.List.Nodup

/-!
# Names of data sources and facets

Each kind of layer has its own names for the data sources that it brings along and for the parts of
them that its groups stand for. No two kinds share a source, and no part is named like a source.
-/

namespace ChartCompiler

open Layer

namespace LayerKind

/-- The data sources that a kind of layer may bring along. -/
def sourceNames : LayerKind → List String
  | .jitter => ["jittered"]
  | .swarm => ["swarmed"]
  | .abline => ["abline_points"]
  | .vline => ["vline_values"]
  | .hline => ["hline_values"]
  | .polygon => ["polygon_vertices"]
  | .regressionPlot => ["regression"]
  | .glm => ["glm_fit"]
  | .smooth => ["smoothed"]
  | .fit => ["fit_curve"]
  | .bin => ["binned"]
  | .density => ["density"]
  | .violin => ["violin_density"]
  | .boxplot => ["boxplot", "outliers"]
  | .summary => ["summary"]
  | .bin2d => ["binned2d"]
  | .ellipse => ["ellipse"]
  | .qq => ["qq"]
  | .cornerHistogram => ["cornerhist"]
  | .point | .line | .bar | .raster | .interval => []

/-- The parts of data sources that the groups of a kind of layer may stand for. -/
def facetNames : LayerKind → List String
  | .line => ["series"]
  | .bar => ["facet"]
  | .regressionPlot => ["regression_series"]
  | .glm => ["glm_fit_series"]
  | .smooth => ["smoothed_series"]
  | .fit => ["fit_curve_series"]
  | .density => ["density_series"]
  | .violin => ["violin"]
  | .ellipse => ["ellipse_series"]
  | _ => []

/-- The names that a chart uses for its own sources. -/
def reservedNames : List String := [tableSource, Legend.selectedSource]

theorem sourceNames_disjoint : ∀ first ∈ all, ∀ second ∈ all, first ≠ second →
    ∀ name ∈ first.sourceNames, name ∉ second.sourceNames := by
  decide +kernel

theorem sourceNames_not_reserved : ∀ kind ∈ all, ∀ name ∈ kind.sourceNames,
    name ∉ reservedNames := by
  decide +kernel

theorem facetNames_fresh : ∀ first ∈ all, ∀ name ∈ first.facetNames,
    name ∉ reservedNames ∧ ∀ second ∈ all, name ∉ second.sourceNames := by
  decide +kernel

theorem sourceNames_nodup (kind : LayerKind) : kind.sourceNames.Nodup := by
  cases kind <;> decide

/-- Different kinds have different sources. -/
theorem nodup_flatMap_sourceNames {kinds : List LayerKind} (once : kinds.Nodup) :
    (kinds.flatMap sourceNames).Nodup := by
  refine List.nodup_flatMap.mpr ⟨fun kind _ => kind.sourceNames_nodup, once.imp ?_⟩
  intro first second different name inside other
  exact sourceNames_disjoint first first.mem_all second second.mem_all different name inside other

end LayerKind

/-! ## Drawings -/

theorem Table.facets_linePerGroup (table : Table) (source : String) (line : Mark)
    (name facet : String) :
    [table.linePerGroup source line name facet].filterMap Graphic.facetName? ⊆ [facet] := by
  unfold Table.linePerGroup
  split
  · exact List.Subset.refl _
  · exact List.nil_subset _

theorem Displacement.Offsets.names {displacement : Layer.Displacement} {table : Table}
    {context : LayerContext} {source : String} {inline : List InlineRows} {offset : Expr}
    (offsets : Displacement.Offsets displacement table context source inline offset) :
    (inline.map (·.name)).Sublist [displacement.seededSource] := by
  cases offsets with
  | rendered => exact List.nil_sublist _
  | seeded seed spread rows drawn =>
      unfold Layer.Displacement.seededRows at drawn
      rcases (bind_eq_ok_iff _ _ _).mp drawn with ⟨_, _, equal⟩
      cases equal
      exact List.Sublist.refl _

/-- A layer brings along sources and stands for parts under the names of its kind. -/
theorem Drawn.names {table : Table} {context : LayerContext} {kind : LayerKind} {drawing : Drawing}
    (drawn : Drawn table context kind drawing) :
    drawing.ownSources.Sublist kind.sourceNames ∧ drawing.facetNames ⊆ kind.facetNames := by
  cases drawn with
  | empty note => exact ⟨List.nil_sublist _, List.nil_subset _⟩
  | jitter colors source inline offset rows colored offsets
  | swarm colors source inline offset rows colored offsets =>
      refine ⟨?_, List.nil_subset _⟩
      unfold Drawing.ownSources
      exact (List.append_nil _).symm ▸ offsets.names
  | points | raster | interval | rowVlines | rowHlines | rowPolygon | unfitted =>
      exact ⟨List.nil_sublist _, List.nil_subset _⟩
  | abline | valueVlines | valueHlines | placedPolygon | freePolygon | histogram | heatmap | corner
  | boxplot | means | quantiles => exact ⟨List.Sublist.refl _, List.nil_subset _⟩
  | bars colors rows numeric colored =>
      refine ⟨List.nil_sublist _, ?_⟩
      unfold barsDrawing
      split <;> simp [Drawing.facetNames, groupedBars, plainBars, Graphic.facetName?, barFacet,
        LayerKind.facetNames]
  | violin => exact ⟨List.Sublist.refl _, List.Subset.refl _⟩
  | line => exact ⟨List.nil_sublist _, Table.facets_linePerGroup table _ _ _ _⟩
  | regression | glm | fit | smooth | density | ellipse =>
      exact ⟨List.Sublist.refl _, Table.facets_linePerGroup table _ _ _ _⟩

end ChartCompiler
