import ChartCompiler.Layer.Histogram
import ChartCompiler.Proofs.Layer.Curves

/-!
# Histograms fit

The bars over the bins of x, the cells over the bins of x and y, and the inset with the bins of their
difference, which is placed by scales of its own.
-/

namespace ChartCompiler.Layer

variable {table : Table} {style : Style} {colors : List Scale}

/-! ## Bins of x -/

/-- The bins of x with their counts, stacked by color group. -/
def binnedColumns (table : Table) : Columns :=
  ⟨table.groupedBy ["x0", "x1"] ++ ["count"]
    ++ (if table.hasColorGroup then ["y0", "y1"] else []), table.labelFields⟩

theorem histogramDrawing_sources (bins : Bins) :
    ((histogramDrawing table style colors bins).environment table [] style).sources
      = [(tableSource, table.columns), ("binned", binnedColumns table)] := by
  cases grouped : table.hasColorGroup <;>
    simp [Drawing.environment, Drawing.sources, Drawing.givenSources, histogramDrawing,
      Pipeline.extend, Pipeline.columnsAfter, Transform.fieldsAfter, binnedColumns, countBy,
      grouped, Table.columns]

/-- The field with the upper ends of the bars. -/
theorem height_mem_binnedColumns :
    Expr.isField (if table.hasColorGroup then "y1" else "count") = true ∧
      (if table.hasColorGroup then "y1" else "count") ∈ (binnedColumns table).fields ∧
      (if table.hasColorGroup then "y1" else "count") ∉ table.labelFields := by
  split
  · next grouped =>
      exact ⟨by simp, by simp [binnedColumns, grouped],
        Table.notMem_labelFields (by decide) (by decide)⟩
  · exact ⟨by simp, by simp [binnedColumns],
      Table.notMem_labelFields (by decide) (by decide)⟩

theorem countBy_fits {fields groupby : List String} {sources : List (String × Columns)}
    (held : groupby ⊆ fields) : (countBy groupby).Fits fields sources :=
  ⟨held, List.forall_mem_singleton.mpr (by simp)⟩

theorem histogramPipeline_fits (bins : Bins) :
    pipelinesFit [(tableSource, table.columns)]
      (histogramDrawing table style colors bins).pipelines := by
  have groups : table.groupedBy ["x0", "x1"] ⊆ table.fields ++ ["x0", "x1"] :=
    Table.groupedBy_subset (List.subset_append_right _ _) fun grouped =>
      List.mem_append_left _ (Table.color_mem_fields grouped)
  refine ⟨⟨table.columns, rfl, stepsFit_append.mpr ⟨⟨Table.x_mem_fields, countBy_fits groups,
    trivial⟩, ?_⟩⟩, trivial⟩
  split
  · next grouped =>
      refine ⟨⟨?_, ?_, ?_⟩, trivial⟩
      all_goals simp [Transform.fieldsAfter, countBy, Table.groupedBy, grouped]
  · trivial

theorem histogramDrawing_fits (colored : table.groupColorScale style = .ok colors) (bins : Bins) :
    (histogramDrawing table style colors bins).Fits table [] style := by
  have sources := @histogramDrawing_sources table style colors bins
  have x : ((histogramDrawing table style colors bins).environment table [] style).SuitsX table :=
    Drawing.suitsX _ (List.mem_cons_self ..) (by simp) (by simp +contextual [Table.xScale_kind])
  have y : "yscale" ∈ ((histogramDrawing table style colors bins).environment table []
      style).scales :=
    Drawing.mem_scales (Table.yScaleOf "binned" _ true)
      (List.mem_cons_of_mem _ (List.mem_cons_self ..))
  have color : ((histogramDrawing table style colors bins).environment table
      [] style).SuitsColor (binnedColumns table) table :=
    ⟨Table.color_declared colored fun _ inside => List.mem_cons_of_mem _
      (List.mem_cons_of_mem _ inside), fun grouped =>
      List.mem_append_left _ (List.mem_append_left _ (Table.color_mem_groupedBy _ grouped)),
      List.Subset.refl _⟩
  have starts : "x0" ∈ (binnedColumns table).fields ∧ "x1" ∈ (binnedColumns table).fields := by
    simp [binnedColumns, Table.subset_groupedBy ["x0", "x1"] (List.mem_cons_self ..),
      Table.subset_groupedBy ["x0", "x1"] (List.mem_cons_of_mem _ (List.mem_cons_self ..))]
  refine ⟨List.forall_mem_singleton.mpr ?_, List.forall_mem_cons.mpr ⟨?_, List.forall_mem_cons.mpr
    ⟨?_, Table.colors_fit colored⟩⟩, standardAxes_fit x.declared y (by decide) (by decide),
    histogramPipeline_fits bins, ?_⟩
  · refine .of_read (binnedColumns table) rfl (by simp) (by simp) (by rw [sources]; rfl) ?_ (by simp)
    simp only [Mark.encodings, Channels.encodings, List.map_cons, List.map_nil, List.append_nil,
      List.forall_mem_cons]
    refine ⟨Encoding.fits_field (by simp) starts.1 x.declared
        (Table.notMem_labelFields (by decide) (by decide)) (by decide),
      Encoding.fits_field (by simp) starts.2 x.declared
        (Table.notMem_labelFields (by decide) (by decide)) (by decide),
      Encoding.fillColor_fits color, ?_, ?_, List.forall_mem_nil _⟩
    · exact Encoding.fits_field height_mem_binnedColumns.1 height_mem_binnedColumns.2.1 y
        height_mem_binnedColumns.2.2 (by decide)
    · split
      · next grouped =>
          exact Encoding.fits_field (by simp) (by simp [binnedColumns, grouped]) y
            (Table.notMem_labelFields (by decide) (by decide)) (by decide)
      · exact ⟨y, by decide⟩
  · exact Table.xScale_fits _ _ _ (by simp [tableSource]) (by simp) (by rw [sources]; rfl)
      Table.x_mem_fields
  · exact Table.yScaleOf_fits _ _ (by simp) height_mem_binnedColumns.1 (by rw [sources]; rfl)
      height_mem_binnedColumns.2.1
  · exact Drawing.names_of_colored colored (show _ = ["xscale", "yscale"] ++ _ by
      simp [Drawing.scaleNames, histogramDrawing]) (by decide) (by decide)

/-! ## Bins of x and y -/

/-- The cells with their counts. -/
def cellColumns (table : Table) : Columns := ⟨["x0", "x1", "y0", "y1"] ++ ["count"], table.labelFields⟩

theorem heatmapDrawing_fits (xBins yBins : Bins)
    (numeric : table.xIsNumeric = true ∧ table.yIsNumeric = true) :
    (heatmapDrawing table style xBins yBins).Fits table [] style := by
  have scales : ((heatmapDrawing table style xBins yBins).environment table [] style).scales
      = ["xscale", "yscale", "heatcolor"] := by
    simp [Drawing.environment, Drawing.scaleNames, heatmapDrawing, heatScale, ScaleName.text]
  have unlabelled : ∀ name ∈ (cellColumns table).fields, name ∉ (cellColumns table).labels := by
    simp [cellColumns, Table.labelFields, numeric.1, numeric.2]
  have placed (scale : ScaleName) (name : String) (word : Expr.isField name = true)
      (inside : name ∈ (cellColumns table).fields)
      (declared : scale.text ∈ ["xscale", "yscale", "heatcolor"]) (uncolored : scale ≠ .color) :
      (Encoding.field scale name).Fits
        ((heatmapDrawing table style xBins yBins).environment table [] style)
        (cellColumns table) :=
    Encoding.fits_field word inside (scales ▸ declared) (unlabelled name inside) uncolored
  refine ⟨List.forall_mem_singleton.mpr ?_, ?_, standardAxes_fit (by simp [scales])
    (by simp [scales]) (by decide) (by decide),
    ⟨⟨table.columns, rfl, Table.x_mem_fields, ?_, countBy_fits ?_, trivial⟩, trivial⟩, ?_⟩
  · refine .of_read (cellColumns table) rfl (by simp) (by simp) rfl ?_ (by simp)
    simp only [Mark.encodings, Channels.encodings, List.map_cons, List.map_nil, List.append_nil,
      List.forall_mem_cons]
    refine ⟨placed _ _ ?_ ?_ ?_ ?_, placed _ _ ?_ ?_ ?_ ?_, placed _ _ ?_ ?_ ?_ ?_,
      placed _ _ ?_ ?_ ?_ ?_, placed _ _ ?_ ?_ ?_ ?_, List.forall_mem_nil _⟩
    all_goals simp [cellColumns, ScaleName.text]
  · refine List.forall_mem_cons.mpr ⟨?_, List.forall_mem_cons.mpr ⟨?_,
      List.forall_mem_singleton.mpr ⟨?_, ?_⟩⟩⟩
    · exact Table.xScale_fits _ _ _ (by simp [tableSource]) (by simp) rfl Table.x_mem_fields
    · exact Table.yScaleOf_fits _ _ (by simp [tableSource]) (by simp) rfl Table.y_mem_fields
    · exact ⟨by simp, by simp, cellColumns table, rfl, by simp [cellColumns]⟩
    · exact List.forall_mem_cons.mpr ⟨.inl style.heatLow_shown,
        List.forall_mem_singleton.mpr (.inl style.defaultFill_shown)⟩
  · exact List.mem_append_left _ Table.y_mem_fields
  · simp [Transform.fieldsAfter]
  · have names : (heatmapDrawing table style xBins yBins).scaleNames = _ := scales
    rw [names]
    decide

/-! ## Bins of the difference -/

/-- The bins of the difference with their counts. -/
def cornerColumns (table : Table) : Columns := ⟨["d0", "d1"] ++ ["count"], table.labelFields⟩

theorem cornerExtent_fits {environment : Environment} {columns : Columns} (dimension : Dimension) :
    (cornerExtent dimension).Fits environment columns := ⟨trivial, trivial⟩

theorem cornerBars_fit {environment : Environment}
    (read : environment.sources.lookup "cornerhist" = some (cornerColumns table))
    (x : "cornerx" ∈ environment.scales) (y : "cornery" ∈ environment.scales) :
    (cornerBars environment.style).Fits environment := by
  refine .of_read (cornerColumns table) rfl (by simp [cornerBars]) (by simp) read ?_
    (by simp [cornerBars])
  simp only [cornerBars, Mark.encodings, Channels.encodings, List.map_cons, List.map_nil,
    List.append_nil, List.forall_mem_cons]
  exact ⟨Encoding.fits_field (by simp) (by simp [cornerColumns]) x
      (Table.notMem_labelFields (by decide) (by decide)) (by decide),
    Encoding.fits_field (by simp) (by simp [cornerColumns]) x
      (Table.notMem_labelFields (by decide) (by decide)) (by decide),
    Encoding.fits_field (by simp) (by simp [cornerColumns]) y
      (Table.notMem_labelFields (by decide) (by decide)) (by decide),
    ⟨y, by decide⟩, Encoding.shown_fits (Style.defaultFill_shown _), Encoding.number_fits _,
    List.forall_mem_nil _⟩

theorem cornerZero_fits {environment : Environment} (x : "cornerx" ∈ environment.scales) :
    (cornerZero environment.style).Fits environment := by
  refine ⟨by simp [cornerZero], by simp [cornerZero], .none, rfl, ?_, by simp [cornerZero]⟩
  simp only [cornerZero, Mark.encodings, Channels.encodings, List.map_cons, List.map_nil,
    List.append_nil, List.forall_mem_cons]
  exact ⟨⟨x, by decide⟩, Encoding.number_fits _, Encoding.signal_fits (cornerExtent_fits _) rfl,
    Encoding.shown_fits (Style.referenceStroke_shown _), Encoding.plain_fits rfl,
    List.forall_mem_nil _⟩

/-- The frame of a corner histogram fits where its counts are, if its scales are its own. -/
theorem cornerInset_fits {environment : Environment}
    (read : environment.sources.lookup "cornerhist" = some (cornerColumns table))
    (own : "cornerx" ∉ environment.scales ∧ "cornery" ∉ environment.scales) :
    (cornerInset environment.style).FitsOver environment .none := by
  have inner : ((cornerInset environment.style).inside environment .none).sources.lookup
      "cornerhist" = some (cornerColumns table) := by
    simpa [Group.inside, cornerInset] using read
  have declared : ["cornerx", "cornery"]
      ⊆ ((cornerInset environment.style).inside environment .none).scales :=
    List.subset_append_left _ _
  refine ⟨by simp [cornerInset], by simp [cornerInset], ?_,
    show ["cornerx", "cornery"].Nodup by decide, ?_, ?_, List.forall_mem_nil _, ?_, ?_, ?_⟩
  · exact List.forall_mem_cons.mpr ⟨own.1, List.forall_mem_singleton.mpr own.2⟩
  · exact List.forall_mem_cons.mpr ⟨by decide +kernel,
      List.forall_mem_singleton.mpr (by decide +kernel)⟩
  · simp only [cornerInset, Group.encodings, Channels.encodings, List.map_cons, List.map_nil,
      List.append_nil, List.forall_mem_cons]
    exact ⟨Encoding.signal_fits ⟨trivial, cornerExtent_fits _⟩ rfl, Encoding.number_fits _,
      Encoding.signal_fits (cornerExtent_fits _) rfl,
      Encoding.signal_fits (cornerExtent_fits _) rfl, Encoding.text_fits (by decide), Encoding.text_fits (by decide),
      List.forall_mem_nil _⟩
  · refine List.forall_mem_cons.mpr ⟨⟨⟨by simp, by simp, _, inner, ?_⟩, cornerExtent_fits _⟩,
      List.forall_mem_singleton.mpr ⟨⟨by simp, by simp, _, inner, ?_⟩, cornerExtent_fits _⟩⟩
    all_goals simp [cornerColumns]
  · exact List.forall_mem_singleton.mpr ⟨by decide, declared (List.mem_cons_self ..)⟩
  · have x := declared (List.mem_cons_self ..)
    have y := declared (List.mem_cons_of_mem _ (List.mem_cons_self ..))
    exact List.forall_mem_cons.mpr ⟨cornerBars_fit inner x y,
      List.forall_mem_singleton.mpr (cornerZero_fits x)⟩

theorem cornerDrawing_fits (colored : table.groupColorScale style = .ok colors) (bins : Bins) :
    (cornerDrawing table style colors bins).Fits table [] style := by
  refine Drawing.placed_fits rfl rfl colored rfl ⟨⟨table.columns, rfl, ?_⟩, trivial⟩
    (List.forall_mem_singleton.mpr ⟨.none, cornerInset_fits rfl ?_⟩)
  · refine ⟨?_, ?_, countBy_fits ?_, trivial⟩
    · simp [Table.columns]
    · simp [Transform.Fits, Transform.fieldsAfter]
    · simp [Transform.fieldsAfter]
  · change _ ∉ (cornerDrawing table style colors bins).scaleNames ∧
      _ ∉ (cornerDrawing table style colors bins).scaleNames
    rw [Drawing.placed_scaleNames rfl, Table.colors_names colored]
    split <;> simp

end ChartCompiler.Layer
