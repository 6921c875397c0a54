import ChartCompiler.Layer.Bars
import ChartCompiler.Proofs.Layer.Scales

/-!
# Bars and categories side by side fit

The bars of the rows, and the slots in which layers summarize each category and color group.
-/

namespace ChartCompiler

variable {table : Table} {style : Style} {colors : List Scale}

/-! ## Slots -/

/-- Whether an environment has the bands in which categories and color groups stand. -/
structure Environment.SuitsSlots (environment : Environment) (columns : Columns)
    (table : Table) : Prop where
  x : "xscale" ∈ environment.scales ∧ "xscale" ∈ environment.bands
  offset : table.hasColorGroup = true →
    "colorpos" ∈ environment.scales ∧ "colorpos" ∈ environment.bands
  heldX : "x" ∈ columns.fields
  heldColor : table.hasColorGroup = true → "color" ∈ columns.fields

namespace Table

variable {environment : Environment} {columns : Columns}

theorem slotStart_fits (slots : environment.SuitsSlots columns table)
    (grouped : table.hasColorGroup = true) : Expr.Fits environment columns slotStart :=
  ⟨⟨⟨by simp, slots.heldX⟩, slots.x.1⟩,
    ⟨by simp, slots.heldColor grouped⟩, (slots.offset grouped).1⟩

/-- The scales by which a slot is found have bands. -/
theorem slotStart_banded (slots : environment.SuitsSlots columns table)
    (grouped : table.hasColorGroup = true) :
    slotStart.calls ["scale".toList] ⊆ environment.bands :=
  List.cons_subset.mpr ⟨slots.x.2, List.cons_subset.mpr ⟨(slots.offset grouped).2,
    List.nil_subset _⟩⟩

theorem ofNumber_fits (share : Number) : (Expr.ofNumber share).Fits environment columns := by
  cases share <;> trivial

theorem ofNumber_calls (share : Number) (functions : List (List Char)) :
    (Expr.ofNumber share).calls functions = [] := by
  cases share <;> rfl

theorem slotPlace_fits (slots : environment.SuitsSlots columns table) (share : Number) :
    (table.slotPlace share).Fits environment columns := by
  unfold slotPlace
  split
  · next grouped =>
      refine Encoding.signal_fits_bands ⟨slotStart_fits slots grouped, (slots.offset grouped).2,
        ofNumber_fits share⟩ (List.append_subset.mpr ⟨slotStart_banded slots grouped, ?_⟩)
      exact List.append_subset.mpr ⟨List.nil_subset _, by
        rw [ofNumber_calls]
        exact List.nil_subset _⟩
  · exact ⟨⟨by simp, slots.heldX, slots.x.1, fun _ => slots.x.2⟩, slots.x.2, by decide⟩

theorem slotWidth_fits (slots : environment.SuitsSlots columns table) (share : Number) :
    (table.slotWidth share).Fits environment columns := by
  unfold slotWidth
  split
  · next grouped =>
      exact Encoding.signal_fits ⟨(slots.offset grouped).2, ofNumber_fits share⟩
        (ofNumber_calls share _)
  · exact ⟨slots.x.2, by decide⟩

end Table

/-! ## Scales of categories -/

section

variable {drawing : Drawing} {held : List Columns} {columns : Columns} {padding : Value}
  {others : List Scale}

theorem Table.xScale_mem_categories :
    table.xScale tableSource "x" .scatter true (some padding)
      ∈ table.categoryScales colors padding ++ others := List.mem_cons_self ..

theorem Table.colors_subset_categories :
    colors ⊆ table.categoryScales colors padding ++ others := fun _ inside =>
  List.mem_append_left _ (List.mem_append_left _ (List.mem_cons_of_mem _
    (List.mem_cons_of_mem _ inside)))

/-- The slots of a layer that declares the scales of categories, perhaps among others. -/
theorem Drawing.suitsSlots (scales : drawing.scales = table.categoryScales colors padding ++ others)
    (heldX : "x" ∈ columns.fields)
    (heldColor : table.hasColorGroup = true → "color" ∈ columns.fields) :
    (drawing.environment table held style).SuitsSlots columns table := by
  have x : table.xScale tableSource "x" .scatter true (some padding) ∈ drawing.scales :=
    scales ▸ Table.xScale_mem_categories
  have named := table.xScale_name tableSource "x" .scatter true (some padding)
  refine ⟨⟨named ▸ mem_scales _ x, named ▸ mem_bands _ x (by simp [Table.xScale_kind])⟩,
    fun grouped => ?_, heldX, heldColor⟩
  have offset : table.colorSlotScale ∈ drawing.scales := by
    simp [scales, Table.categoryScales, grouped]
  exact ⟨mem_scales _ offset, mem_bands _ offset rfl⟩

theorem Drawing.categories_suitsY
    (scales : drawing.scales = table.categoryScales colors padding ++ others) :
    (drawing.environment table held style).SuitsY table := by
  refine suitsY table.yScale ?_ (by simp) fun labelled => ?_
  · rw [scales]
    exact List.mem_cons_of_mem _ (List.mem_cons_self ..)
  · simp [Table.yScale, Table.yScaleOf_kind, labelled]

theorem Drawing.categories_suitsColor
    (scales : drawing.scales = table.categoryScales colors padding ++ others)
    (colored : table.groupColorScale style = .ok colors)
    (kept : table.hasColorGroup = true → "color" ∈ columns.fields)
    (labels : columns.labels ⊆ table.labelFields) :
    (drawing.environment table held style).SuitsColor columns table :=
  ⟨Table.color_declared colored (scales ▸ Table.colors_subset_categories), kept, labels⟩

theorem Table.categoryScales_fit {environment : Environment}
    (colored : table.groupColorScale environment.style = .ok colors)
    (read : environment.sources.lookup tableSource = some table.columns)
    (bands : "xscale" ∈ environment.bands) :
    ∀ scale ∈ table.categoryScales colors padding, scale.Fits environment := by
  refine List.forall_mem_cons.mpr ⟨xScale_fits _ _ _ (by simp [tableSource]) (by simp) read
    x_mem_fields, List.forall_mem_cons.mpr ⟨yScaleOf_fits _ _ (by simp [tableSource]) (by simp)
    read y_mem_fields, List.forall_mem_append.mpr ⟨colors_fit colored, ?_⟩⟩⟩
  split
  · exact List.forall_mem_singleton.mpr ⟨trivial, trivial, bands⟩
  · exact List.forall_mem_nil _

theorem Table.categoryScales_names (colored : table.groupColorScale style = .ok colors) :
    (table.categoryScales colors padding).map (·.name) =
      if table.hasColorGroup then ["xscale", "yscale", "color", "colorpos"]
      else ["xscale", "yscale"] := by
  have names := colors_names colored
  cases grouped : table.hasColorGroup with
  | false =>
      rw [grouped, if_neg (by decide)] at names
      simp [categoryScales, grouped, List.map_eq_nil_iff.mp names]
  | true =>
      rw [grouped, if_pos rfl] at names
      simp only [categoryScales, grouped, if_true, List.map_cons, List.map_append, List.map_nil,
        names, xScale_name, yScale_name]
      rfl

end

namespace Layer

/-! ## Bars -/

section

variable {held : List Columns}

theorem bars_suitsX :
    "xscale" ∈ ((barsDrawing table style colors).environment table held style).scales ∧
      "xscale" ∈ ((barsDrawing table style colors).environment table held style).bands := by
  have inside : table.xScale tableSource "x" .scatter true (some Scale.widePadding)
      ∈ (barsDrawing table style colors).scales := List.mem_cons_self ..
  have named := table.xScale_name tableSource "x" .scatter true (some Scale.widePadding)
  exact ⟨named ▸ Drawing.mem_scales _ inside,
    named ▸ Drawing.mem_bands _ inside (by simp [Table.xScale_kind])⟩

theorem bars_suitsY :
    ((barsDrawing table style colors).environment table held style).SuitsY table := by
  refine Drawing.suitsY { table.yScale with rounded := some (.bool true) }
    (List.mem_cons_of_mem _ (List.mem_cons_self ..)) ?_ fun labelled => ?_
  · exact table.yScale_name tableSource "y"
  · simp [Table.yScale, Table.yScaleOf_kind, labelled]

theorem bars_suitsColor (colored : table.groupColorScale style = .ok colors) :
    ((barsDrawing table style colors).environment table held style).SuitsColor table.columns
      table :=
  ⟨Table.color_declared colored fun _ inside =>
    List.mem_cons_of_mem _ (List.mem_cons_of_mem _ inside), Table.color_mem_fields,
    List.Subset.refl _⟩

theorem barsDrawing_scaleNames (colored : table.groupColorScale style = .ok colors) :
    (barsDrawing table style colors).scaleNames =
      if table.hasColorGroup then ["xscale", "yscale", "color"] else ["xscale", "yscale"] := by
  change (barScales table colors).map (·.name) = _
  rw [barScales, List.map_cons, List.map_cons, Table.colors_names colored, Table.xScale_name]
  split <;> simp [Table.yScale]

theorem plainBars_fit (colored : table.groupColorScale style = .ok colors) :
    (plainBars table style).Fits
      ((barsDrawing table style colors).environment table held style) := by
  refine .of_read table.columns rfl (by simp) (by simp [tableSource]) rfl ?_ (by simp)
  simp only [barChannels, Mark.encodings, Channels.encodings, List.map_cons, List.map_nil,
    List.append_nil, List.cons_append, List.nil_append, List.forall_mem_cons]
  exact ⟨Encoding.yField_fits bars_suitsY Table.y_mem_fields (List.Subset.refl _),
    ⟨bars_suitsY.declared, by decide⟩, Encoding.fillColor_fits (bars_suitsColor colored),
    Encoding.fits_bandField (by simp) Table.x_mem_fields bars_suitsX.1 bars_suitsX.2 (by decide),
    ⟨bars_suitsX.2, by decide⟩, List.forall_mem_nil _⟩

theorem groupedBars_fit (colored : table.groupColorScale style = .ok colors)
    (grouped : table.hasColorGroup = true) :
    (groupedBars table style).Fits
      ((barsDrawing table style colors).environment table held style) := by
  refine ⟨table.columns, by simp, ?_, ?_, by simp [Group.declared], ?_, ?_, ?_, ?_,
    List.forall_mem_nil _, ?_⟩
  · intro facet inside
    cases inside
    exact ⟨by simp [barFacet], by simp [tableSource], by simp, rfl, by simp [Table.columns],
      by simp [barFacet, Drawing.environment, Drawing.sources, Drawing.givenSources, barsDrawing,
        tableSource]⟩
  · refine List.forall_mem_singleton.mpr fun inside => ?_
    change _ ∈ (barsDrawing table style colors).scaleNames at inside
    rw [barsDrawing_scaleNames colored, grouped] at inside
    simp [ScaleName.text] at inside
  · exact List.forall_mem_singleton.mpr (by decide +kernel)
  · refine List.forall_mem_singleton.mpr ?_
    exact Encoding.fits_bandField (by simp) (by simp [Group.ownColumns]) bars_suitsX.1
      bars_suitsX.2 (by decide)
  · exact List.forall_mem_singleton.mpr ⟨by simp [Dimension.name], List.mem_append_right _ bars_suitsX.2⟩
  · refine List.forall_mem_singleton.mpr ⟨⟨by simp [barFacet], by simp, table.columns, ?_,
      Table.color_mem_fields grouped⟩, trivial⟩
    rfl
  · refine List.forall_mem_singleton.mpr (.of_read table.columns rfl (by simp)
      (by simp [barFacet]) rfl ?_ (by simp))
    simp only [barChannels, Mark.encodings, Channels.encodings, List.map_cons, List.map_nil,
      List.append_nil, List.cons_append, List.nil_append, List.forall_mem_cons]
    exact ⟨Encoding.yField_fits (bars_suitsY.mono (Group.within_inside _ _ _))
        Table.y_mem_fields (List.Subset.refl _),
      ⟨List.mem_append_right _ bars_suitsY.declared, by decide⟩,
      Encoding.fillColor_fits ((bars_suitsColor colored).mono (Group.within_inside _ _ _)),
      Encoding.fits_bandField (by simp) (Table.color_mem_fields grouped) (List.mem_cons_self ..)
        (List.mem_cons_self ..) (by decide),
      ⟨List.mem_cons_self .., by decide⟩, List.forall_mem_nil _⟩

theorem barsDrawing_fits (colored : table.groupColorScale style = .ok colors) :
    (barsDrawing table style colors).Fits table [] style := by
  refine ⟨List.forall_mem_singleton.mpr ?_, ?_, ?_, trivial, ?_⟩
  · split
    · next grouped => exact groupedBars_fit colored grouped
    · exact plainBars_fit colored
  · refine List.forall_mem_cons.mpr ⟨?_, List.forall_mem_cons.mpr ⟨?_, Table.colors_fit colored⟩⟩
    · exact Table.xScale_fits _ _ _ (by simp [tableSource]) (by simp) rfl Table.x_mem_fields
    · have plain : table.yScale.Fits ((barsDrawing table style colors).environment table [] style) :=
        Table.yScaleOf_fits _ _ (by simp [tableSource]) (by simp) rfl Table.y_mem_fields
      exact ⟨plain.domain, plain.range⟩
  · exact List.forall_mem_cons.mpr ⟨⟨by decide, bars_suitsX.1⟩,
      List.forall_mem_singleton.mpr ⟨by decide, bars_suitsY.declared⟩⟩
  · rw [barsDrawing_scaleNames colored]
    split <;> decide

end

end Layer

end ChartCompiler
