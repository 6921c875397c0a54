import ChartCompiler.Proofs.Layer.Drawn
import ChartCompiler.Proofs.Layer.Scales

/-!
# Points fit

The symbols of the rows fit, at their places and displaced.
-/

namespace ChartCompiler.Layer

variable {table : Table} {style : Style} {colors : List Scale}

theorem pointMark_fits {environment : Environment} {name : String}
    (word : Expr.isField name = true)
    (read : environment.sources.lookup tableSource = some table.columns)
    (x : environment.SuitsX table) (y : environment.SuitsY table)
    (color : environment.SuitsColor table.columns table) :
    (pointMark table environment.style name).Fits environment := by
  refine ⟨by simp [pointMark, word], by simp [pointMark, tableSource], table.columns, read, ?_,
    by simp [pointMark]⟩
  simp only [pointMark, Mark.encodings, Channels.encodings, List.map_cons, List.map_nil,
    List.append_nil, List.forall_mem_cons]
  refine ⟨Encoding.xPosition_fits x Table.x_mem_fields (List.Subset.refl _), ?_⟩
  exact Encoding.symbolChannels_fit color y Table.y_mem_fields
    (.inl (Style.symbolSize_shown _))

theorem pointsDrawing_fits {name : String} {note : Option String}
    (word : Expr.isField name = true)
    (colored : table.groupColorScale style = .ok colors) :
    (pointsDrawing table style colors name note).Fits table [] style := by
  exact Drawing.placed_fits rfl rfl colored rfl trivial (List.forall_mem_singleton.mpr
    (pointMark_fits word rfl (Drawing.placed_suitsX rfl) (Drawing.placed_suitsY rfl)
      (Drawing.placed_suitsColor rfl colored Table.color_mem_fields (List.Subset.refl _))))

/-! ## Displaced points -/

namespace Displacement

variable {displacement : Displacement} {context : LayerContext}

/-- Whether a displacement can be drawn over a table: shares of bands are taken where x has labels,
and its words are words. -/
structure Usable (displacement : Displacement) (table : Table) (style : Style) : Prop where
  banded : displacement.banded = false → table.xIsNumeric = true
  mark : Expr.isField displacement.markName = true
  source : Expr.isField displacement.seededSource = true
  other : displacement.seededSource ≠ tableSource
  size : style.Knows displacement.size
  styling : ({ side := .bottom, scale := .x, styling := displacement.axisStyling } : Axis).isClear
    = true

/-- The rows with seeded offsets. -/
def seededColumns (table : Table) : Columns :=
  ⟨["x", "y"] ++ (if table.hasColorGroup then ["color"] else []) ++ ["jitter"],
    table.labelFields⟩

theorem base_fits {environment : Environment} {columns : Columns} (x : environment.SuitsX table)
    (banded : displacement.banded = true → "xscale" ∈ environment.bands)
    (held : "x" ∈ columns.fields) : displacement.base.Fits environment columns := by
  have place : (Expr.scaled .x (.datum "x")).Fits environment columns :=
    ⟨⟨by simp, held⟩, x.declared⟩
  unfold Displacement.base
  split
  · next inBands => exact ⟨place, banded inBands, trivial⟩
  · exact place

theorem base_reads :
    displacement.base.calls ["scale".toList] = ["xscale"] ∧
      displacement.base.fieldsRead = ["x"] := by
  unfold Displacement.base
  split <;> exact ⟨rfl, rfl⟩

/-- What an offset is computed from. -/
structure IsOffset (offset : Expr) : Prop where
  uncalled : offset.calls ["scale".toList] = []
  read : offset.fieldsRead ⊆ ["jitter"]

theorem renderedOffset_isOffset {width : Binary64} {pixels : Value} {offset : Expr}
    (drawn : displacement.renderedOffset width pixels = .ok offset) : IsOffset offset := by
  unfold Displacement.renderedOffset at drawn
  split at drawn
  · cases drawn
    exact ⟨rfl, List.nil_subset _⟩
  · rcases (bind_eq_ok_iff _ _ _).mp drawn with ⟨amount, _, equal⟩
    cases equal
    exact ⟨rfl, List.nil_subset _⟩

theorem carriedOffset_isOffset : IsOffset displacement.carriedOffset := by
  unfold Displacement.carriedOffset
  split <;> exact ⟨rfl, List.Subset.refl _⟩

/-- A displaced place fits if the offset does. -/
theorem displaced_fits {environment : Environment} {columns : Columns} {offset : Expr}
    (x : environment.SuitsX table)
    (banded : displacement.banded = true → "xscale" ∈ environment.bands)
    (held : "x" ∈ columns.fields) (labels : columns.labels ⊆ table.labelFields)
    (fits : offset.Fits environment columns) (isOffset : IsOffset offset) :
    (Encoding.signal (displacement.base + offset)).Fits environment columns := by
  have calls : (displacement.base + offset).calls ["scale".toList] = ["xscale"] := by
    change displacement.base.calls _ ++ offset.calls _ = _
    rw [base_reads.1, isOffset.uncalled]
    rfl
  refine ⟨⟨base_fits x banded held, fits⟩, fun field read labelled => ?_⟩
  rw [calls]
  rcases List.mem_append.mp (show field ∈ displacement.base.fieldsRead ++ offset.fieldsRead from read)
    with read | read
  · rw [base_reads.2, List.mem_singleton] at read
    rw [read] at labelled
    exact List.cons_subset.mpr ⟨x.banded (Table.x_mem_labelFields.mp (labels labelled)),
      List.nil_subset _⟩
  · rw [List.mem_singleton.mp (isOffset.read read)] at labelled
    exact absurd (labels labelled) (Table.notMem_labelFields (by decide) (by decide))

theorem renderedOffset_fits {environment : Environment} {columns : Columns} {width : Binary64}
    {pixels : Value} {offset : Expr}
    (drawn : displacement.renderedOffset width pixels = .ok offset)
    (banded : displacement.banded = true → "xscale" ∈ environment.bands) :
    offset.Fits environment columns := by
  unfold Displacement.renderedOffset at drawn
  split at drawn
  · next inBands =>
      cases drawn
      exact ⟨⟨⟨trivial, trivial⟩, banded inBands⟩, trivial⟩
  · rcases (bind_eq_ok_iff _ _ _).mp drawn with ⟨amount, _, equal⟩
    cases equal
    exact ⟨⟨trivial, trivial⟩, trivial⟩

theorem carriedOffset_fits {environment : Environment} {columns : Columns}
    (banded : displacement.banded = true → "xscale" ∈ environment.bands)
    (held : "jitter" ∈ columns.fields) :
    displacement.carriedOffset.Fits environment columns := by
  unfold Displacement.carriedOffset
  split
  · next inBands => exact ⟨⟨by simp, held⟩, banded inBands⟩
  · exact ⟨by simp, held⟩

theorem drawing_banded {source : String} {inline : List InlineRows} {offset : Expr}
    {held : List Columns} (banded : displacement.banded = true) :
    "xscale" ∈ ((displacement.drawing table style colors source inline offset).environment table
      held style).bands := by
  refine Drawing.mem_bands (table.xScale tableSource "x" .scatter displacement.banded)
    (List.mem_cons_self ..) ?_ |> (Table.xScale_name table _ _ _ _ _ ▸ ·)
  simp [Table.xScale_kind, banded]

/-- A displaced layer fits if its symbols and their offsets do. -/
theorem drawing_fits {source : String} {inline : List InlineRows} {offset : Expr}
    {held : List Columns} {columns : Columns} (usable : displacement.Usable table style)
    (colored : table.groupColorScale style = .ok colors)
    (word : Expr.isField source = true)
    (read : ((tableSource, table.columns) :: (inline.map (·.name)).zip held).lookup source
      = some columns)
    (heldX : "x" ∈ columns.fields) (heldY : "y" ∈ columns.fields)
    (heldColor : table.hasColorGroup = true → "color" ∈ columns.fields)
    (labels : columns.labels ⊆ table.labelFields) (isOffset : IsOffset offset)
    (offsets : offset.Fits ((displacement.drawing table style colors source inline
      offset).environment table held style) columns) :
    (displacement.drawing table style colors source inline offset).Fits table held style := by
  have x : ((displacement.drawing table style colors source inline offset).environment table held
      style).SuitsX table := Drawing.placed_suitsX rfl
  have y : ((displacement.drawing table style colors source inline offset).environment table held
      style).SuitsY table := Drawing.placed_suitsY rfl
  refine ⟨?_, ?_, ?_, trivial, Drawing.placed_names rfl colored⟩
  · refine List.forall_mem_singleton.mpr ⟨by simpa using usable.mark, by simpa using word,
      columns, read, ?_, by simp⟩
    refine List.forall_mem_append.mpr
      ⟨Encoding.symbolChannels_fit (Drawing.placed_suitsColor rfl colored heldColor labels) y
        heldY usable.size, List.forall_mem_singleton.mpr ?_⟩
    exact displaced_fits x drawing_banded heldX labels offsets isOffset
  · exact Table.placeScales_fit _ _ colored (by simp [tableSource]) rfl Table.x_mem_fields
      Table.y_mem_fields
  · exact standardAxes_fit x.declared y.declared usable.styling (by decide)

theorem offsets_fit {source : String} {inline : List InlineRows} {offset : Expr}
    (usable : displacement.Usable table context.style)
    (colored : table.groupColorScale context.style = .ok colors)
    (offsets : ChartCompiler.Displacement.Offsets displacement table context source inline
      offset) :
    (displacement.drawing table context.style colors source inline offset).Fits table
      (inline.map fun _ => seededColumns table) context.style := by
  cases offsets with
  | rendered width offset drawn =>
      exact drawing_fits usable colored (by simp [tableSource]) rfl Table.x_mem_fields
        Table.y_mem_fields Table.color_mem_fields (List.Subset.refl _)
        (renderedOffset_isOffset drawn) (renderedOffset_fits drawn drawing_banded)
  | seeded seed spread rows drawn =>
      have named : rows.name = displacement.seededSource := by
        unfold Displacement.seededRows at drawn
        rcases (bind_eq_ok_iff _ _ _).mp drawn with ⟨amounts, _, equal⟩
        cases equal
        rfl
      have other : (rows.name == tableSource) = false := by simpa [named] using usable.other
      have read : ((tableSource, table.columns) ::
          ([rows].map (·.name)).zip ([rows].map fun _ => seededColumns table)).lookup rows.name
            = some (seededColumns table) := by
        simp [List.lookup_cons, other]
      exact drawing_fits usable colored (named ▸ usable.source) read (by simp [seededColumns])
        (by simp [seededColumns]) (fun grouped => by simp [seededColumns, grouped])
        (List.Subset.refl _) carriedOffset_isOffset (carriedOffset_fits drawing_banded (by simp [seededColumns]))

end Displacement

theorem jitterDisplacement_usable : (jitterDisplacement table style).Usable table style :=
  ⟨by simp [jitterDisplacement], by simp [jitterDisplacement], by simp [jitterDisplacement],
    by simp [jitterDisplacement, tableSource], .inl style.symbolSize_shown,
    rfl⟩

theorem swarmDisplacement_usable : (swarmDisplacement style).Usable table style :=
  ⟨by simp [swarmDisplacement], by simp [swarmDisplacement], by simp [swarmDisplacement],
    by simp [swarmDisplacement, tableSource], .inl style.swarmSymbolSize_shown,
    rfl⟩

end ChartCompiler.Layer
