import ChartCompiler.Proofs.Document.Domains
import ChartCompiler.Proofs.Layer.Fits
import ChartCompiler.Proofs.Layer.Sources
import ChartCompiler.Proofs.Layer.Vertices

/-!
# Domains of layers

What the domains of the scales of a layer are read from. A layer that is drawn over a table without
rows reads its domains from rows of its own, if it is a polygon. Rules at given places read theirs
from the table nevertheless, and their scales have nothing to cover.
-/

namespace ChartCompiler

open Layer

/-- Whether a data source is the table, or computed from it by listed sources. -/
inductive ComputedFromTable (sources : List DataSource) : String → Prop where
  | table : ComputedFromTable sources tableSource
  | step {source : DataSource} {origin : String} (listed : source ∈ sources)
      (starts : source.origin? = some origin) (computed : ComputedFromTable sources origin) :
      ComputedFromTable sources source.name

/-- Whether the domain of some scale of a drawing is read from the table, or from a source that is
computed from it. -/
def Drawing.CoversTable (drawing : Drawing) : Prop :=
  ∃ scale ∈ drawing.scales, ∃ source ∈ scale.source?,
    ComputedFromTable (Assembly.sourcesOf drawing.toFragment) source

section

variable {table : Table} {context : LayerContext} {kind : LayerKind} {drawing : Drawing}

theorem Table.xExtent_of_isEmpty (empty : table.isEmpty = true) : table.xExtent = none := by
  have rows : table.rows = [] := List.isEmpty_iff.mp empty
  unfold xExtent
  rw [rows]
  split <;> rfl

/-- Without rows, only rules at given places and polygons over given vertices are drawn. -/
theorem Drawn.without_rows (drawn : Drawn table context kind drawing)
    (empty : table.isEmpty = true) (shown : drawing.graphics ≠ []) :
    (∃ layer colors values, (kind = .vline ∨ kind = .hline) ∧
        drawing = RuleLayer.valueRules layer table context.style colors values) ∨
      ∃ xs ys, kind = .polygon ∧ drawing = vertexPolygon context.style vertexScales xs ys := by
  cases drawn with
  | empty note => exact absurd rfl shown
  | abline colors extent slope intercept spanned colored =>
      rw [Table.xExtent_of_isEmpty empty] at spanned
      cases spanned
  | valueVlines colors values given numeric colored =>
      exact .inl ⟨_, colors, values, .inl rfl, rfl⟩
  | valueHlines colors values given numeric colored =>
      exact .inl ⟨_, colors, values, .inr rfl, rfl⟩
  | freePolygon xs ys given unplaced => exact .inr ⟨xs, ys, rfl, rfl⟩
  | points _ rows | jitter _ _ _ _ rows | swarm _ _ _ _ rows | line _ rows | raster _ rows
  | interval _ rows | rowVlines _ rows | rowHlines _ rows | placedPolygon _ _ _ _ rows
  | rowPolygon _ rows | bars _ rows | unfitted _ _ rows | regression _ _ rows | glm _ _ rows
  | fit _ _ rows | smooth _ _ rows | histogram _ _ rows | heatmap _ _ rows | corner _ _ rows
  | density _ _ _ _ rows | violin _ _ _ _ rows | boxplot _ _ rows | means _ _ rows
  | quantiles _ rows | ellipse _ _ _ _ rows => exact absurd empty (Bool.eq_false_iff.mp rows)

/-- Where no source is computed, only the table is computed from the table. -/
theorem ComputedFromTable.eq_table {sources : List DataSource} {name : String}
    (computed : ComputedFromTable sources name)
    (given : ∀ source ∈ sources, source.origin? = none) : name = tableSource := by
  cases computed with
  | table => rfl
  | step listed starts origin => cases (given _ listed).symm.trans starts

theorem Layer.valueRules_coversTable (layer : RuleLayer) (table : Table) (style : Style)
    (colors : List Scale) (values : List Binary64) :
    (layer.valueRules table style colors values).CoversTable :=
  ⟨table.xScale tableSource "x" .reference, List.mem_cons_self .., tableSource,
    (table.xScale_reads tableSource "x" _ _ _).source, .table⟩

theorem Layer.vertexScales_source :
    ∀ scale ∈ vertexScales, ∀ source ∈ scale.source?, source = vertexSource := by
  refine List.forall_mem_cons.mpr ⟨?_, List.forall_mem_singleton.mpr ?_⟩
  · rw [(Scale.reads_field rfl : Scale.Reads _ vertexSource ["x"]).source]
    exact fun source read => (Option.some.inj read).symm
  · rw [(Scale.reads_field rfl : Scale.Reads _ vertexSource ["y"]).source]
    exact fun source read => (Option.some.inj read).symm

theorem Layer.freePolygon_not_coversTable (style : Style) (xs ys : List Binary64) :
    ¬ (vertexPolygon style vertexScales xs ys).CoversTable := by
  rintro ⟨scale, declared, source, read, computed⟩
  have given : ∀ source ∈ Assembly.sourcesOf (vertexPolygon style vertexScales xs ys).toFragment,
      source.origin? = none := List.forall_mem_singleton.mpr rfl
  have other : vertexSource ≠ tableSource := by decide
  exact other ((vertexScales_source scale declared source read).symm.trans
    (computed.eq_table given))

/-- The rows that a layer brings along are not called like the table. -/
theorem Drawn.inline_name (drawn : Drawn table context kind drawing) {inline : InlineRows}
    (brought : inline ∈ drawing.inline) : inline.name ≠ tableSource := by
  have own : inline.name ∈ kind.sourceNames :=
    drawn.names.1.subset (List.mem_append_left _ (List.mem_map_of_mem brought))
  have free := LayerKind.sourceNames_not_reserved kind kind.mem_all inline.name own
  exact fun same => free (same ▸ List.mem_cons_self ..)

/-- Rows that a layer brings along are there if a domain is read from them. -/
theorem Drawn.inline_rows (drawn : Drawn table context kind drawing) {scale : Scale}
    {inline : InlineRows} (declared : scale ∈ drawing.scales)
    (read : scale.source? = some inline.name) (brought : inline ∈ drawing.inline) :
    inline.rows ≠ [] := by
  have other := drawn.inline_name brought
  cases drawn with
  | jitter _ _ _ _ _ colored | swarm _ _ _ _ _ colored | abline _ _ _ _ _ colored
  | valueVlines _ _ _ _ colored | valueHlines _ _ _ _ colored
  | placedPolygon _ _ _ _ _ _ colored =>
      exact absurd (Table.placeScales_source colored _ _ scale declared _ read) other
  | freePolygon xs ys given =>
      rw [List.mem_singleton.mp brought]
      simpa only [ne_eq, List.map_eq_nil_iff, List.zip_eq_nil_iff, not_or] using given
  | _ => cases brought

end

/-- Where the scales of a layer have their domains from. Rows of its own that a domain is read from
are there. If the table has no rows, no domain is read from it or from what is computed from it,
but for rules at given places, whose scales always read the table. -/
theorem LayerRequest.draw_domains {request : LayerRequest} {table : Table} {context : LayerContext}
    {drawing : Drawing} (returned : (request.draw table context).Returns drawing)
    (shown : drawing.graphics ≠ []) :
    (table.isEmpty = true →
      (drawing.CoversTable ↔ request.kind = .vline ∨ request.kind = .hline)) ∧
      ∀ scale ∈ drawing.scales, ∀ inline ∈ drawing.inline,
        scale.source? = some inline.name → inline.rows ≠ [] := by
  have drawn := LayerRequest.draw_drawn returned
  refine ⟨fun empty => ?_, fun scale declared inline brought read =>
    drawn.inline_rows declared read brought⟩
  rcases drawn.without_rows empty shown with
    ⟨layer, colors, values, ruled, rfl⟩ | ⟨xs, ys, polygon, rfl⟩
  · exact iff_of_true (valueRules_coversTable layer table _ colors values) ruled
  · refine iff_of_false (freePolygon_not_coversTable _ xs ys) ?_
    rw [polygon]
    decide

/-! ## Two drawings without rows -/

/-- A polygon over a table without rows reads its own rows. -/
theorem LayerRequest.draw_domains_polygon : ∃ drawing inline,
    (Table.project noPoints).Returns emptyTable ∧
      ((⟨.polygon, coordinates [some 1.0] [some 2.0]⟩ : LayerRequest).draw emptyTable
        { style := {} }).Returns drawing ∧
      drawing.graphics ≠ [] ∧ ¬ drawing.CoversTable ∧ drawing.inline = [inline] ∧
      inline.rows ≠ [] := by
  have finite : (1.0 : Binary64).isFinite = true ∧ (2.0 : Binary64).isFinite = true := by
    decide +kernel
  have returned := @coordinates_drawn [some 1.0] [some 2.0] (by simp [finite]) (by simp [finite])
    ⟨List.cons_ne_nil _ _, List.cons_ne_nil _ _⟩
  have shown : (vertexPolygon {} vertexScales [1.0] [2.0]).graphics ≠ [] := List.cons_ne_nil _ _
  obtain ⟨covers, rows⟩ := LayerRequest.draw_domains returned shown
  refine ⟨_, _, noPoints_projected, returned, shown, (covers rfl).not.mpr (by decide), rfl, ?_⟩
  exact rows _ (List.mem_cons_self ..) _ (List.mem_singleton_self _)
    (Scale.reads_field rfl : Scale.Reads _ vertexSource ["x"]).source

/-- Rules at one place. -/
theorem Layer.vline_returns {table : Table} {value : Binary64} (finite : value.isFinite = true)
    (numeric : table.xIsNumeric = true) (plain : table.hasColorGroup = false) :
    ((⟨.vline, [("xintercept", .list [.real value])]⟩ : LayerRequest).draw table
      { style := {} }).Returns ((verticalRules table).valueRules table {} [] [value]) := by
  have taken : (Members.numberListParameter [("xintercept", .list [.real value])]
      "xintercept").Returns [value] :=
    @coordinates_taken _ _ [some value] rfl (by simp [finite])
  refine LayerRequest.draw_returns_iff.mpr ?_
  unfold LayerKind.draw vline RuleLayer.draw
  simp only [Run.returns_bind]
  refine ⟨_, taken, ?_⟩
  rw [if_neg (by simp), if_neg (by simp [verticalRules, numeric])]
  exact (Run.returns_bind _ _ _).mpr ⟨[], Table.groupColorScale_plain _ plain, rfl⟩

/-- A rule at a given place is drawn over a table without rows, whose x values its scale covers. -/
theorem LayerRequest.draw_domains_vline : ∃ drawing,
    (Table.project noPoints).Returns emptyTable ∧
      ((⟨.vline, [("xintercept", .list [.real 1.5])]⟩ : LayerRequest).draw emptyTable
        { style := {} }).Returns drawing ∧
      drawing.graphics ≠ [] ∧ emptyTable.rows = [] ∧
      ∃ scale ∈ drawing.scales, scale.source? = some tableSource := by
  have finite : (1.5 : Binary64).isFinite = true := by decide +kernel
  exact ⟨_, noPoints_projected, vline_returns finite rfl rfl, List.cons_ne_nil _ _, rfl,
    _, List.mem_cons_self .., (emptyTable.xScale_reads tableSource "x" _ _ _).source⟩

end ChartCompiler
