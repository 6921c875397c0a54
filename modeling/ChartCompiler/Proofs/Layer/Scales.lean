import ChartCompiler.Proofs.Layer.Encodings

/-!
# The scales and axes that layers share

The scales of a drawing suit the table, and they fit if the fields of their domains are there.
-/

namespace ChartCompiler

variable {table : Table} {style : Style}

/-! ## Names and kinds -/

namespace Drawing

variable {drawing : Drawing} {held : List Columns}

@[simp] theorem environment_style : (drawing.environment table held style).style = style := rfl

theorem mem_scales (scale : Scale) (inside : scale ∈ drawing.scales) :
    scale.name ∈ (drawing.environment table held style).scales :=
  List.mem_map_of_mem inside

theorem mem_bands (scale : Scale) (inside : scale ∈ drawing.scales)
    (banded : scale.kind = .banded) :
    scale.name ∈ (drawing.environment table held style).bands :=
  List.mem_map_of_mem (List.mem_filter.mpr ⟨inside, by simpa using banded⟩)

theorem suitsX (scale : Scale) (inside : scale ∈ drawing.scales) (named : scale.name = "xscale")
    (banded : table.xIsNumeric = false → scale.kind = .banded) :
    (drawing.environment table held style).SuitsX table :=
  ⟨named ▸ mem_scales scale inside,
    fun labelled => named ▸ mem_bands scale inside (banded labelled)⟩

theorem suitsY (scale : Scale) (inside : scale ∈ drawing.scales) (named : scale.name = "yscale")
    (banded : table.yIsNumeric = false → scale.kind = .banded) :
    (drawing.environment table held style).SuitsY table :=
  ⟨named ▸ mem_scales scale inside,
    fun labelled => named ▸ mem_bands scale inside (banded labelled)⟩

end Drawing

namespace Table

theorem xScale_kind (source field : String) (role : AxisRole) (forceBand : Bool)
    (padding : Option Value) :
    (table.xScale source field role forceBand padding).kind =
      if forceBand || !table.xIsNumeric then .banded else .continuous := by
  unfold xScale
  split <;> rfl

theorem yScaleOf_kind (source field : String) (continuous : Bool) (padding : Option Value) :
    (yScaleOf source field continuous padding).kind =
      if continuous then .continuous else .banded := by
  unfold yScaleOf
  split <;> rfl

theorem xScale_domain (table : Table) (source field : String) (role : AxisRole) (forceBand : Bool)
    (padding : Option Value) : ∃ sorted,
    (table.xScale source field role forceBand padding).domain = .field source field sorted := by
  unfold xScale
  split
  · exact ⟨true, rfl⟩
  · exact ⟨false, rfl⟩

theorem yScaleOf_domain (source field : String) (continuous : Bool) (padding : Option Value) :
    ∃ sorted, (yScaleOf source field continuous padding).domain = .field source field sorted := by
  unfold yScaleOf
  split
  · exact ⟨false, rfl⟩
  · exact ⟨true, rfl⟩

end Table

/-! ## Fitting scales -/

section

variable {environment : Environment} {columns : Columns} {source field : String}

theorem Table.xScale_fits (role : AxisRole) (forceBand : Bool) (padding : Option Value)
    (sourceWord : Expr.isField source = true) (fieldWord : Expr.isField field = true)
    (read : environment.sources.lookup source = some columns) (held : field ∈ columns.fields) :
    (table.xScale source field role forceBand padding).Fits environment := by
  constructor
  · rcases table.xScale_domain source field role forceBand padding with ⟨sorted, domain⟩
    rw [domain]
    exact ⟨sourceWord, fieldWord, columns, read, held⟩
  · rw [Table.xScale_range]
    trivial

theorem Table.yScaleOf_fits (continuous : Bool) (padding : Option Value)
    (sourceWord : Expr.isField source = true) (fieldWord : Expr.isField field = true)
    (read : environment.sources.lookup source = some columns) (held : field ∈ columns.fields) :
    (yScaleOf source field continuous padding).Fits environment := by
  constructor
  · rcases yScaleOf_domain source field continuous padding with ⟨sorted, domain⟩
    rw [domain]
    exact ⟨sourceWord, fieldWord, columns, read, held⟩
  · rw [Table.yScaleOf_range]
    trivial

theorem Table.colors_fit {colors : List Scale}
    (colored : table.groupColorScale environment.style = .ok colors) :
    ∀ scale ∈ colors, scale.Fits environment := by
  intro scale inside
  rcases groupColorScale_cases colored with ⟨_, rfl⟩ | ⟨_, items, palette, rfl⟩
  · cases inside
  · rw [List.mem_singleton.mp inside]
    exact ⟨trivial, fun item member => .inl (List.mem_append_right _ (palette item member))⟩

theorem Table.colors_names {colors : List Scale}
    (colored : table.groupColorScale style = .ok colors) :
    colors.map (·.name) = if table.hasColorGroup then ["color"] else [] := by
  rcases groupColorScale_cases colored with ⟨grouped, rfl⟩ | ⟨grouped, items, _, rfl⟩ <;>
    simp [grouped]

theorem Table.color_declared {colors : List Scale}
    (colored : table.groupColorScale style = .ok colors) {drawing : Drawing}
    {held : List Columns} (declares : colors ⊆ drawing.scales)
    (grouped : table.hasColorGroup = true) :
    "color" ∈ (drawing.environment table held style).scales := by
  have named : "color" ∈ colors.map (·.name) := by simp [colors_names colored, grouped]
  rcases List.mem_map.mp named with ⟨scale, inside, name⟩
  exact name ▸ Drawing.mem_scales scale (declares inside)

theorem Table.placeScales_fit {colors : List Scale} (role : AxisRole) (forceBand : Bool)
    (colored : table.groupColorScale environment.style = .ok colors)
    (sourceWord : Expr.isField source = true)
    (read : environment.sources.lookup source = some columns)
    (heldX : "x" ∈ columns.fields) (heldY : "y" ∈ columns.fields) :
    ∀ scale ∈ table.placeScales colors role forceBand source, scale.Fits environment :=
  List.forall_mem_cons.mpr ⟨xScale_fits _ _ _ sourceWord (by simp) read heldX,
    List.forall_mem_cons.mpr ⟨yScaleOf_fits _ _ sourceWord (by simp) read heldY,
      colors_fit colored⟩⟩

/-! ## Axes -/

theorem standardAxes_fit {xStyling yStyling : Members} (x : "xscale" ∈ environment.scales)
    (y : "yscale" ∈ environment.scales)
    (xClear : ({ side := .bottom, scale := .x, styling := xStyling } : Axis).isClear = true)
    (yClear : ({ side := .left, scale := .y, styling := yStyling } : Axis).isClear = true) :
    ∀ axis ∈ standardAxes xStyling yStyling, axis.Fits environment :=
  List.forall_mem_cons.mpr ⟨⟨xClear, x⟩, List.forall_mem_cons.mpr ⟨⟨yClear, y⟩,
    List.forall_mem_nil _⟩⟩

end

/-! ## Layers that place their marks by x and y -/

section

variable {colors : List Scale} {drawing : Drawing} {held : List Columns} {role : AxisRole}
  {forceBand : Bool} {source : String}

theorem Drawing.placed_suitsX (scales : drawing.scales = table.placeScales colors role forceBand source) :
    (drawing.environment table held style).SuitsX table := by
  refine suitsX (table.xScale source "x" role forceBand) ?_ (by simp) fun labelled => ?_
  · rw [scales]
    exact List.mem_cons_self ..
  · simp [Table.xScale_kind, labelled]

theorem Drawing.placed_suitsY (scales : drawing.scales = table.placeScales colors role forceBand source) :
    (drawing.environment table held style).SuitsY table := by
  refine suitsY (table.yScale source) ?_ (by simp) fun labelled => ?_
  · rw [scales]
    exact List.mem_cons_of_mem _ (List.mem_cons_self ..)
  · simp [Table.yScale, Table.yScaleOf_kind, labelled]

theorem Drawing.placed_suitsColor
    (scales : drawing.scales = table.placeScales colors role forceBand source)
    (colored : table.groupColorScale style = .ok colors) {columns : Columns}
    (kept : table.hasColorGroup = true → "color" ∈ columns.fields)
    (labels : columns.labels ⊆ table.labelFields) :
    (drawing.environment table held style).SuitsColor columns table := by
  refine ⟨Table.color_declared colored ?_, kept, labels⟩
  rw [scales]
  exact fun scale inside => List.mem_cons_of_mem _ (List.mem_cons_of_mem _ inside)

/-- Scales beside those of the color groups have names of their own. -/
theorem Drawing.names_of_colored {names : List String}
    (colored : table.groupColorScale style = .ok colors)
    (equal : drawing.scaleNames = names ++ colors.map (·.name))
    (distinct : (names ++ ["color"]).Nodup) (shared : names ++ ["color"] ⊆ ScaleName.shared) :
    drawing.scaleNames.Nodup ∧ drawing.scaleNames ⊆ ScaleName.shared := by
  rw [equal, Table.colors_names colored]
  split
  · exact ⟨distinct, shared⟩
  · rw [List.append_nil]
    exact ⟨(List.nodup_append.mp distinct).1, (List.append_subset.mp shared).1⟩

theorem Drawing.placed_scaleNames
    (scales : drawing.scales = table.placeScales colors role forceBand source) :
    drawing.scaleNames = ["xscale", "yscale"] ++ colors.map (·.name) := by
  simp [scaleNames, scales, Table.placeScales]

theorem Drawing.placed_names
    (scales : drawing.scales = table.placeScales colors role forceBand source)
    (colored : table.groupColorScale style = .ok colors) :
    drawing.scaleNames.Nodup ∧ drawing.scaleNames ⊆ ScaleName.shared :=
  names_of_colored colored (placed_scaleNames scales) (by decide) (by decide)

/-- A drawing that places its marks by x and y, with standard axes, fits if its marks and pipelines
do. -/
theorem Drawing.placed_fits
    (scales : drawing.scales = table.placeScales colors role forceBand tableSource)
    (axes : drawing.axes = standardAxes)
    (colored : table.groupColorScale style = .ok colors)
    (read : (drawing.environment table held style).sources.lookup tableSource
      = some table.columns)
    (pipelines : pipelinesFit (drawing.givenSources table held) drawing.pipelines)
    (graphics : ∀ graphic ∈ drawing.graphics,
      graphic.Fits (drawing.environment table held style)) :
    drawing.Fits table held style := by
  refine ⟨graphics, ?_, ?_, pipelines, placed_names scales colored⟩
  · rw [scales]
    exact Table.placeScales_fit _ _ colored (by simp [tableSource]) read Table.x_mem_fields
      Table.y_mem_fields
  · rw [axes]
    exact standardAxes_fit (placed_suitsX scales).declared (placed_suitsY scales).declared
      (by decide) (by decide)

end

/-! ## Lines by color group -/

/-- A mark that is drawn over rows fits if its channels do. -/
theorem Mark.Fits.of_read {environment : Environment} (columns : Columns) {mark : Mark}
    {source : String} (reads : mark.source = some source)
    (name : ∀ word ∈ mark.name, Expr.isField word = true)
    (word : Expr.isField source = true)
    (read : environment.sources.lookup source = some columns)
    (encodings : ∀ encoding ∈ mark.encodings, encoding.Fits environment columns)
    (sort : ∀ order ∈ mark.sort, order.Fits environment columns) : mark.Fits environment := by
  refine ⟨name, by simpa [reads] using word, columns, ?_, encodings, sort⟩
  rw [reads]
  exact read

/-- What a line needs to be drawn over some rows, one for each color group. -/
structure LineFits (environment : Environment) (columns : Columns) (table : Table)
    (source : String) (line : Mark) (name facet : String) : Prop where
  unnamed : line.name = none
  words : Expr.isField source = true ∧ Expr.isField name = true ∧ Expr.isField facet = true
  read : environment.sources.lookup source = some columns
  grouped : table.hasColorGroup = true → "color" ∈ columns.fields
  fresh : facet ∉ environment.sources.map (·.1)
  encodings : ∀ encoding ∈ line.encodings, encoding.Fits environment columns
  sort : ∀ order ∈ line.sort, order.Fits environment columns

theorem LineFits.linePerGroup {environment : Environment} {columns : Columns} {source : String}
    {line : Mark} {name facet : String}
    (fits : LineFits environment columns table source line name facet) :
    (table.linePerGroup source line name facet).Fits environment := by
  rcases fits.words with ⟨sourceWord, nameWord, facetWord⟩
  unfold Table.linePerGroup
  split
  · next grouped =>
      refine ⟨columns, nameWord, ?_, by simp [Group.declared], List.nodup_nil, by simp,
        by simp [Group.encodings, Channels.encodings], by simp, by simp, by simp, ?_⟩
      · intro given inside
        rw [← Option.some.inj inside]
        exact ⟨facetWord, sourceWord, by simp, fits.read, by simpa using fits.grouped grouped,
          fits.fresh⟩
      · refine List.forall_mem_singleton.mpr (.of_read columns rfl ?_ facetWord
          (List.lookup_append_of_notMem fits.fresh) ?_ ?_)
        · simp [fits.unnamed]
        · exact fun encoding inside =>
            (fits.encodings encoding inside).mono (Group.within_inside _ _ _)
        · exact fun order inside => (fits.sort order inside).mono (Group.within_inside _ _ _)
  · exact .of_read columns rfl (by simpa using nameWord) sourceWord fits.read fits.encodings fits.sort

end ChartCompiler
