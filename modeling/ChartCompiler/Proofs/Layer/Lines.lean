import ChartCompiler.Proofs.Layer.Drawn
import ChartCompiler.Proofs.Layer.Scales

/-!
# Lines and reference lines fit

Lines and ticks over the rows of the table, and rules and shapes over rows of their own.
-/

namespace ChartCompiler.Layer

variable {table : Table} {style : Style} {colors : List Scale}

/-! ## Over the rows of the table -/

theorem lineDrawing_fits (colored : table.groupColorScale style = .ok colors) :
    (lineDrawing table style colors).Fits table [] style := by
  refine Drawing.placed_fits rfl rfl colored rfl trivial (List.forall_mem_singleton.mpr ?_)
  refine LineFits.linePerGroup ⟨rfl, by simp [tableSource], rfl, Table.color_mem_fields, ?_, ?_, ?_⟩
  · simp [Drawing.environment, Drawing.sources, Drawing.givenSources, lineDrawing, tableSource]
  · simp only [lineMark, Mark.encodings, Channels.encodings, List.map_cons, List.map_nil,
      List.append_nil, List.forall_mem_cons]
    exact ⟨Encoding.xPosition_fits (Drawing.placed_suitsX rfl) Table.x_mem_fields
        (List.Subset.refl _),
      Encoding.yPosition_fits (Drawing.placed_suitsY rfl) Table.y_mem_fields
        (List.Subset.refl _),
      Encoding.shown_fits style.lineWidth_shown,
      Encoding.fillColor_fits (Drawing.placed_suitsColor rfl colored Table.color_mem_fields
        (List.Subset.refl _)),
      List.forall_mem_nil _⟩
  · simp [lineMark, Expr.Fits, Table.columns]

theorem rasterDrawing_fits (colored : table.groupColorScale style = .ok colors) :
    (rasterDrawing table style colors).Fits table [] style := by
  have x : ((rasterDrawing table style colors).environment table [] style).SuitsX table :=
    Drawing.suitsX _ (List.mem_cons_self ..) (by simp) (by simp +contextual [Table.xScale_kind])
  have color : ((rasterDrawing table style colors).environment table [] style).SuitsColor
      table.columns table :=
    ⟨Table.color_declared colored (List.subset_cons_self _ _), Table.color_mem_fields,
      List.Subset.refl _⟩
  refine ⟨List.forall_mem_singleton.mpr ?_, List.forall_mem_cons.mpr ⟨?_, Table.colors_fit colored⟩,
    List.forall_mem_singleton.mpr ⟨by decide, x.declared⟩, trivial, ?_⟩
  · refine .of_read table.columns rfl (by simp) (by simp [tableSource]) rfl ?_ (by simp)
    simp only [Mark.encodings, Channels.encodings, List.map_cons, List.map_nil, List.append_nil,
      List.forall_mem_cons]
    exact ⟨Encoding.xPosition_fits x Table.x_mem_fields (List.Subset.refl _),
      Encoding.number_fits _, Encoding.number_fits _, Encoding.extent_fits _,
      Encoding.fillColor_fits color,
      List.forall_mem_nil _⟩
  · exact Table.xScale_fits _ _ _ (by simp [tableSource]) (by simp) rfl Table.x_mem_fields
  · exact Drawing.names_of_colored colored (show _ = ["xscale"] ++ _ by
      simp [Drawing.scaleNames, rasterDrawing]) (by decide) (by decide)

theorem intervalDrawing_fits (bounded : table.hasInterval = true)
    (colored : table.groupColorScale style = .ok colors) :
    (intervalDrawing table style colors).Fits table [] style := by
  have x : ((intervalDrawing table style colors).environment table [] style).SuitsX table :=
    Drawing.suitsX _ (List.mem_cons_self ..) (by simp) (by simp +contextual [Table.xScale_kind])
  have y : ((intervalDrawing table style colors).environment table [] style).SuitsY table :=
    Drawing.suitsY (intervalScale table)
      (List.mem_cons_of_mem _ (List.mem_cons_self ..)) (by simp [intervalScale])
      (by simp +contextual [intervalScale, Table.yScale, Table.yScaleOf_kind])
  have color : ((intervalDrawing table style colors).environment table [] style).SuitsColor
      table.columns table :=
    ⟨Table.color_declared colored fun scale inside =>
      List.mem_cons_of_mem _ (List.mem_cons_of_mem _ inside), Table.color_mem_fields,
      List.Subset.refl _⟩
  rcases Table.bounds_mem_fields bounded with ⟨low, high⟩
  refine ⟨List.forall_mem_singleton.mpr ?_, List.forall_mem_cons.mpr ⟨?_, List.forall_mem_cons.mpr
    ⟨?_, Table.colors_fit colored⟩⟩, ?_, trivial, ?_⟩
  · refine .of_read table.columns rfl (by simp) (by simp [tableSource]) rfl ?_ (by simp)
    simp only [Mark.encodings, Channels.encodings, List.map_cons, List.map_nil, List.append_nil,
      List.forall_mem_cons]
    exact ⟨Encoding.xPosition_fits x Table.x_mem_fields (List.Subset.refl _),
      Encoding.fits_field (by simp) low y.declared
        (Table.notMem_labelFields (by decide) (by decide)) (by decide),
      Encoding.fits_field (by simp) high y.declared
        (Table.notMem_labelFields (by decide) (by decide)) (by decide),
      Encoding.shown_fits style.lineWidth_shown, Encoding.fillColor_fits color,
      List.forall_mem_nil _⟩
  · exact Table.xScale_fits _ _ _ (by simp [tableSource]) (by simp) rfl Table.x_mem_fields
  · refine ⟨⟨by simp [tableSource], by simp, table.columns, rfl, ?_⟩, ?_⟩
    · simp [Table.columns, Table.fields, bounded]
    · simp [intervalScale, ScaleRange.Fits]
  · exact standardAxes_fit x.declared y.declared (by decide) (by decide)
  · exact Drawing.names_of_colored colored (show _ = ["xscale", "yscale"] ++ _ by
      simp [Drawing.scaleNames, intervalDrawing, intervalScale]) (by decide) (by decide)

/-! ## Reference lines -/

theorem referenceChannels_fit (style : Style) {environment : Environment} {columns : Columns} {width : Value}
    (same : environment.style = style) (known : style.Knows width) (dash : Int) :
    ∀ encoding ∈ (referenceChannels style width dash).encodings,
      encoding.Fits environment columns := by
  subst same
  simp only [referenceChannels, Channels.encodings, List.map_cons, List.map_nil,
    List.forall_mem_cons]
  exact ⟨Encoding.shown_fits (Style.referenceStroke_shown _), known, Encoding.plain_fits rfl,
    List.forall_mem_nil _⟩

/-- Given rows with places of their own. -/
def givenColumns (table : Table) (fields : List String) : Columns := ⟨fields, table.labelFields⟩

theorem ablineDrawing_fits (colored : table.groupColorScale style = .ok colors)
    (rows : List Members) :
    (ablineDrawing table style colors rows).Fits table [givenColumns table ["x", "y"]] style := by
  refine Drawing.placed_fits rfl rfl colored rfl trivial (List.forall_mem_singleton.mpr ?_)
  refine .of_read (givenColumns table ["x", "y"]) rfl (by simp) (by simp [ablineSource]) rfl ?_
    (by simp)
  simp only [Mark.encodings, Channels.encodings, List.map_cons, List.map_nil, List.append_nil,
    List.forall_mem_cons]
  exact ⟨Encoding.xField_fits (Drawing.placed_suitsX rfl) (by simp [givenColumns])
      (List.Subset.refl _),
    Encoding.yField_fits (Drawing.placed_suitsY rfl) (by simp [givenColumns])
      (List.Subset.refl _),
    referenceChannels_fit style rfl (.inl style.lineWidth_shown) _⟩

namespace RuleLayer

variable {layer : RuleLayer}

/-- What a layer of rules needs to be drawn. -/
structure Usable (layer : RuleLayer) : Prop where
  mark : Expr.isField layer.markName = true
  source : Expr.isField layer.valueSource = true
  other : layer.valueSource ≠ tableSource

theorem drawing_fits {source : String} {banded : Bool} {inline : List InlineRows}
    {held : List Columns} {columns : Columns} (usable : layer.Usable)
    (colored : table.groupColorScale style = .ok colors) (word : Expr.isField source = true)
    (read : ((tableSource, table.columns) :: (inline.map (·.name)).zip held).lookup source
      = some columns)
    (channels : ∀ encoding ∈ (layer.channels banded).encodings,
      encoding.Fits ((layer.drawing style source banded (table.placeScales colors .reference)
        inline).environment table held style) columns) :
    (layer.drawing style source banded (table.placeScales colors .reference) inline).Fits table
      held style := by
  refine Drawing.placed_fits rfl rfl colored rfl trivial (List.forall_mem_singleton.mpr ?_)
  refine .of_read columns rfl (by simpa using usable.mark) word read ?_ (by simp)
  simp only [Mark.encodings, Channels.encodings, List.map_append, List.map_nil, List.append_nil]
  exact List.forall_mem_append.mpr ⟨channels, referenceChannels_fit style rfl (.inr rfl) _⟩

theorem rowRules_fits (usable : layer.Usable)
    (colored : table.groupColorScale style = .ok colors)
    (channels : ∀ encoding ∈ (layer.channels (!layer.numeric)).encodings,
      encoding.Fits ((layer.rowRules table style colors).environment table [] style)
        table.columns) :
    (layer.rowRules table style colors).Fits table [] style :=
  drawing_fits usable colored (by simp [tableSource]) rfl channels

theorem valueRules_fits {values : List Binary64} {columns : Columns} (usable : layer.Usable)
    (colored : table.groupColorScale style = .ok colors)
    (channels : ∀ encoding ∈ (layer.channels false).encodings,
      encoding.Fits ((layer.valueRules table style colors values).environment table [columns]
        style) columns) :
    (layer.valueRules table style colors values).Fits table [columns] style := by
  have other : (layer.valueSource == tableSource) = false := beq_false_of_ne usable.other
  exact drawing_fits usable colored usable.source (by simp [List.lookup_cons, other]) channels

end RuleLayer

theorem verticalRules_usable : (verticalRules table).Usable :=
  ⟨by simp [verticalRules], by simp [verticalRules], by simp [verticalRules, tableSource]⟩

theorem horizontalRules_usable : (horizontalRules table).Usable :=
  ⟨by simp [horizontalRules], by simp [horizontalRules], by simp [horizontalRules, tableSource]⟩

theorem verticalRowRules_fits (colored : table.groupColorScale style = .ok colors) :
    ((verticalRules table).rowRules table style colors).Fits table [] style := by
  refine RuleLayer.rowRules_fits verticalRules_usable colored ?_
  simp only [verticalRules, Channels.encodings, List.map_cons, List.map_nil, List.forall_mem_cons]
  exact ⟨Encoding.xPosition_fits (Drawing.placed_suitsX rfl) Table.x_mem_fields
    (List.Subset.refl _), Encoding.number_fits _, Encoding.extent_fits _, List.forall_mem_nil _⟩

theorem verticalValueRules_fits (colored : table.groupColorScale style = .ok colors)
    (values : List Binary64) : ((verticalRules table).valueRules table style colors values).Fits
      table [givenColumns table ["x"]] style := by
  refine RuleLayer.valueRules_fits verticalRules_usable colored ?_
  simp only [verticalRules, Channels.encodings, List.map_cons, List.map_nil, List.forall_mem_cons]
  exact ⟨Encoding.xField_fits (Drawing.placed_suitsX rfl) (by simp [givenColumns])
    (List.Subset.refl _), Encoding.number_fits _, Encoding.extent_fits _, List.forall_mem_nil _⟩

theorem horizontalRowRules_fits (colored : table.groupColorScale style = .ok colors) :
    ((horizontalRules table).rowRules table style colors).Fits table [] style := by
  refine RuleLayer.rowRules_fits horizontalRules_usable colored ?_
  simp only [horizontalRules, Channels.encodings, List.map_cons, List.map_nil,
    List.forall_mem_cons]
  exact ⟨Encoding.number_fits _, Encoding.extent_fits _, Encoding.yPosition_fits (Drawing.placed_suitsY rfl)
    Table.y_mem_fields (List.Subset.refl _), List.forall_mem_nil _⟩

theorem horizontalValueRules_fits (colored : table.groupColorScale style = .ok colors)
    (values : List Binary64) : ((horizontalRules table).valueRules table style colors values).Fits
      table [givenColumns table ["y"]] style := by
  refine RuleLayer.valueRules_fits horizontalRules_usable colored ?_
  simp only [horizontalRules, Channels.encodings, List.map_cons, List.map_nil,
    List.forall_mem_cons]
  exact ⟨Encoding.number_fits _, Encoding.extent_fits _, Encoding.yField_fits (Drawing.placed_suitsY rfl)
    (by simp [givenColumns]) (List.Subset.refl _), List.forall_mem_nil _⟩

/-! ## Polygons -/

theorem polygonFill_fit {environment : Environment} {columns : Columns} :
    ∀ encoding ∈ polygonFill.encodings, encoding.Fits environment columns := by
  simp only [polygonFill, Channels.encodings, List.map_cons, List.map_nil, List.forall_mem_cons]
  exact ⟨Encoding.text_fits (by decide), Encoding.number_fits _, List.forall_mem_nil _⟩

/-- The shape over given vertices fits wherever its places do. -/
theorem vertexPolygon_mark_fits {scales : List Scale} {xs ys : List Binary64}
    {held : Columns}
    (x : (Encoding.field .x "x").Fits
      ((vertexPolygon style scales xs ys).environment table [held] style) held)
    (y : (Encoding.field .y "y").Fits
      ((vertexPolygon style scales xs ys).environment table [held] style) held) :
    ∀ graphic ∈ (vertexPolygon style scales xs ys).graphics,
      graphic.Fits ((vertexPolygon style scales xs ys).environment table [held] style) := by
  refine List.forall_mem_singleton.mpr (.of_read held rfl (by simp)
    (by simp [vertexSource]) rfl ?_ (by simp))
  simp only [Mark.encodings, Channels.encodings, List.map_cons, List.map_nil, List.append_nil,
    List.cons_append, List.nil_append, List.forall_mem_cons]
  exact ⟨x, y, Encoding.text_fits (by decide), Encoding.shown_fits style.referenceStroke_shown,
    Encoding.number_fits _, polygonFill_fit⟩

theorem placedPolygon_fits (colored : table.groupColorScale style = .ok colors)
    (xs ys : List Binary64) :
    (vertexPolygon style (table.placeScales colors .reference) xs ys).Fits table
      [givenColumns table ["x", "y"]] style :=
  Drawing.placed_fits rfl rfl colored rfl trivial (vertexPolygon_mark_fits
    (Encoding.xField_fits (Drawing.placed_suitsX rfl) (by simp [givenColumns])
      (List.Subset.refl _))
    (Encoding.yField_fits (Drawing.placed_suitsY rfl) (by simp [givenColumns])
      (List.Subset.refl _)))

/-- Vertices are no labels, whatever the rows of the table hold. -/
theorem freePolygon_fits (xs ys : List Binary64) :
    (vertexPolygon style vertexScales xs ys).Fits table [⟨["x", "y"], []⟩] style := by
  have scales : ((vertexPolygon style vertexScales xs ys).environment table [⟨["x", "y"], []⟩]
      style).scales = ["xscale", "yscale"] := rfl
  refine ⟨vertexPolygon_mark_fits ?_ ?_, ?_, ?_, trivial,
    show ["xscale", "yscale"].Nodup ∧ ["xscale", "yscale"] ⊆ ScaleName.shared by decide⟩
  · exact Encoding.fits_field (by simp) (by simp) (by simp [scales, ScaleName.text]) (by simp)
      (by decide)
  · exact Encoding.fits_field (by simp) (by simp) (by simp [scales, ScaleName.text]) (by simp)
      (by decide)
  · refine List.forall_mem_cons.mpr ⟨⟨?_, trivial⟩, List.forall_mem_singleton.mpr ⟨?_, trivial⟩⟩
    · exact ⟨by simp [vertexSource], by simp, _, rfl, by simp⟩
    · exact ⟨by simp [vertexSource], by simp, _, rfl, by simp⟩
  · exact standardAxes_fit (by simp [scales]) (by simp [scales]) (by decide) (by decide)

theorem rowPolygon_fits (colored : table.groupColorScale style = .ok colors) :
    (rowPolygon (table.placeScales colors .reference)).Fits table [] style := by
  have y : ((rowPolygon (table.placeScales colors .reference)).environment table [] style).SuitsY
      table := Drawing.placed_suitsY rfl
  refine Drawing.placed_fits rfl rfl colored rfl trivial (List.forall_mem_singleton.mpr
    (.of_read table.columns rfl (by simp) (by simp [tableSource]) rfl ?_ (by simp [Expr.Fits, Table.columns])))
  simp only [Mark.encodings, Channels.encodings, List.map_cons, List.map_nil, List.append_nil,
    List.cons_append, List.nil_append, List.forall_mem_cons]
  exact ⟨Encoding.xField_fits (Drawing.placed_suitsX rfl) Table.x_mem_fields (List.Subset.refl _),
    Encoding.yField_fits y Table.y_mem_fields (List.Subset.refl _),
    ⟨y.declared, by decide⟩, polygonFill_fit⟩

end ChartCompiler.Layer
