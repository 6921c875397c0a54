import ChartCompiler.Proofs.Layer.Categories
import ChartCompiler.Proofs.Layer.Curves

/-!
# Summaries of categories fit

Boxplots, means and violins, which stand in the slots of their category and color group.
-/

namespace ChartCompiler

variable {table : Table} {style : Style} {colors : List Scale}

/-! ## Layers of slots -/

/-- A drawing in the slots of categories fits if its marks, axes and pipelines do. -/
theorem Drawing.categories_fits {drawing : Drawing} {held : List Columns} {padding : Value}
    (scales : drawing.scales = table.categoryScales colors padding)
    (colored : table.groupColorScale style = .ok colors)
    (read : (drawing.environment table held style).sources.lookup tableSource
      = some table.columns)
    (axes : ∀ axis ∈ drawing.axes, axis.Fits (drawing.environment table held style))
    (pipelines : pipelinesFit (drawing.givenSources table held) drawing.pipelines)
    (graphics : ∀ graphic ∈ drawing.graphics,
      graphic.Fits (drawing.environment table held style)) :
    drawing.Fits table held style := by
  have scales' : drawing.scales = table.categoryScales colors padding ++ [] := by simp [scales]
  have slots : (drawing.environment table held style).SuitsSlots table.columns table :=
    suitsSlots scales' Table.x_mem_fields Table.color_mem_fields
  refine ⟨graphics, ?_, axes, pipelines, ?_⟩
  · rw [scales]
    exact Table.categoryScales_fit colored read slots.x.2
  · rw [scaleNames, scales, Table.categoryScales_names colored]
    split <;> decide

namespace Layer

/-- The fields of a category and of its summaries. -/
def summaryFields (table : Table) (names : List String) : List String :=
  table.groupedBy ["x"] ++ names

theorem x_mem_summaryFields (names : List String) : "x" ∈ summaryFields table names :=
  List.mem_append_left _ (Table.subset_groupedBy _ (List.mem_cons_self ..))

theorem color_mem_summaryFields (names : List String) (grouped : table.hasColorGroup = true) :
    "color" ∈ summaryFields table names :=
  List.mem_append_left _ (Table.color_mem_groupedBy _ grouped)

theorem mem_summaryFields {names : List String} {name : String} (inside : name ∈ names) :
    name ∈ summaryFields table names := List.mem_append_right _ inside

theorem categories_subset_fields : table.groupedBy ["x"] ⊆ table.fields :=
  Table.groupedBy_subset (by simp) Table.color_mem_fields

/-! ## Boxplots -/

/-- The boxes with their whiskers. -/
def boxColumns (table : Table) : Columns :=
  ⟨summaryFields table ["q1", "median", "q3", "min", "max"] ++ ["iqr"] ++ ["lower_whisker"]
    ++ ["upper_whisker"] ++ ["group_key"], table.labelFields⟩

/-- The rows with the whiskers of their group. -/
def outlierColumns (table : Table) : Columns :=
  ⟨table.fields ++ ["group_key"] ++ ["lower_whisker", "upper_whisker"], table.labelFields⟩

theorem groupKey_readsOnly {fields : List String} (x : "x" ∈ fields)
    (color : table.hasColorGroup = true → "color" ∈ fields) : (groupKey table).ReadsOnly fields := by
  have blank : (Expr.text "").isClear = true := by decide
  have bar : (Expr.text "|").isClear = true := by decide
  unfold groupKey
  split
  · next grouped => simp [blank, bar, x, color grouped]
  · simp [blank, x]

theorem boxPipeline_fits (factor : Binary64) :
    (boxPipeline table factor).Fits [(tableSource, table.columns)] := by
  refine ⟨table.columns, rfl, ⟨categories_subset_fields, ?_⟩, ?_, ?_, ?_, ?_, trivial⟩
  · simp [ySummary, Table.columns]
  · simp [Transform.fieldsAfter, ySummary, Statistic.name]
  · simp [Transform.fieldsAfter, ySummary, Statistic.name, lowerWhisker]
  · simp [Transform.fieldsAfter, ySummary, Statistic.name, upperWhisker]
  · refine groupKey_readsOnly ?_ fun grouped => ?_
    · simp [Transform.fieldsAfter, Table.subset_groupedBy ["x"] (List.mem_cons_self ..)]
    · simp [Transform.fieldsAfter, Table.color_mem_groupedBy _ grouped]

theorem outlierPipeline_fits :
    (outlierPipeline table).Fits
      [(tableSource, table.columns), (boxSource, boxColumns table)] := by
  refine ⟨table.columns, rfl, groupKey_readsOnly Table.x_mem_fields Table.color_mem_fields,
    ⟨?_, boxColumns table, rfl, ?_, ?_⟩, ?_, trivial⟩
  · simp [Transform.fieldsAfter]
  · simp [boxColumns]
  · simp [boxColumns]
  · change Expr.ReadsOnly _ _
    simp [Transform.fieldsAfter, Table.columns]

/-- What the marks of a boxplot need. -/
structure BoxplotSuits (environment : Environment) (table : Table) : Prop where
  boxes : environment.sources.lookup boxSource = some (boxColumns table)
  outliers : environment.sources.lookup outlierSource = some (outlierColumns table)
  boxSlots : environment.SuitsSlots (boxColumns table) table
  outlierSlots : environment.SuitsSlots (outlierColumns table) table
  y : environment.SuitsY table
  color : environment.SuitsColor (boxColumns table) table

section

variable {environment : Environment} (suits : BoxplotSuits environment table)

include suits

theorem boxField_fits {name : String} (inside : name ∈ (boxColumns table).fields)
    (word : Expr.isField name = true) (notX : name ≠ "x") (notY : name ≠ "y") :
    (Encoding.field .y name).Fits environment (boxColumns table) :=
  Encoding.fits_field word inside suits.y.declared (Table.notMem_labelFields notX notY) (by decide)

theorem boxRule_fits {name : String} {channels : Channels} {width : Int}
    (word : Expr.isField name = true)
    (placed : ∀ encoding ∈ channels.encodings, encoding.Fits environment (boxColumns table)) :
    (boxRule environment.style name channels width).Fits environment := by
  refine .of_read (boxColumns table) rfl (by simpa using word) (by simp [boxSource]) suits.boxes ?_
    (by simp)
  simp only [Mark.encodings, Channels.encodings, List.map_append, List.map_cons, List.map_nil,
    List.append_nil]
  exact List.forall_mem_append.mpr ⟨placed, List.forall_mem_cons.mpr
    ⟨Encoding.shown_fits (Style.outlineStroke_shown _),
      List.forall_mem_singleton.mpr (Encoding.number_fits _)⟩⟩

theorem boxes_fit : (boxes table environment.style).Fits environment := by
  refine .of_read (boxColumns table) rfl (by simp) (by simp [boxSource]) suits.boxes ?_ (by simp)
  simp only [Mark.encodings, Channels.encodings, List.map_cons, List.map_nil, List.append_nil,
    List.forall_mem_cons]
  exact ⟨Table.slotPlace_fits suits.boxSlots _, Table.slotWidth_fits suits.boxSlots _,
    boxField_fits suits (by simp [boxColumns, mem_summaryFields]) (by simp) (by decide) (by decide),
    boxField_fits suits (by simp [boxColumns, mem_summaryFields]) (by simp) (by decide) (by decide),
    Encoding.fillColor_fits suits.color, Encoding.number_fits _,
    Encoding.shown_fits (Style.outlineStroke_shown _), Encoding.number_fits _,
    List.forall_mem_nil _⟩

theorem outlierPoints_fit : (outlierPoints table environment.style).Fits environment := by
  refine .of_read (outlierColumns table) rfl (by simp) (by simp [outlierSource]) suits.outliers ?_
    (by simp)
  simp only [Mark.encodings, Channels.encodings, List.map_cons, List.map_nil, List.append_nil,
    List.forall_mem_cons]
  exact ⟨Table.slotPlace_fits suits.outlierSlots _,
    Encoding.yField_fits suits.y (by simp [outlierColumns]) (List.Subset.refl _),
    Encoding.number_fits _, Encoding.text_fits (by decide),
    Encoding.shown_fits (Style.outlineStroke_shown _), Encoding.number_fits _,
    List.forall_mem_nil _⟩

theorem boxAcross_fit (left right : Number) {name : String}
    (inside : name ∈ (boxColumns table).fields) (word : Expr.isField name = true)
    (notX : name ≠ "x") (notY : name ≠ "y") :
    ∀ encoding ∈ Channels.encodings [(.x, table.slotPlace left), (.x2, table.slotPlace right),
        (.y, .field .y name)], encoding.Fits environment (boxColumns table) :=
  List.forall_mem_cons.mpr ⟨Table.slotPlace_fits suits.boxSlots _, List.forall_mem_cons.mpr
    ⟨Table.slotPlace_fits suits.boxSlots _, List.forall_mem_singleton.mpr
      (boxField_fits suits inside word notX notY)⟩⟩

theorem boxAlong_fit {box whisker : String}
    (inside : box ∈ (boxColumns table).fields ∧ whisker ∈ (boxColumns table).fields)
    (words : Expr.isField box = true ∧ Expr.isField whisker = true)
    (notX : box ≠ "x" ∧ whisker ≠ "x") (notY : box ≠ "y" ∧ whisker ≠ "y") :
    ∀ encoding ∈ Channels.encodings [(.x, table.slotPlace (.real 0.5)), (.y, .field .y box),
        (.y2, .field .y whisker)], encoding.Fits environment (boxColumns table) :=
  List.forall_mem_cons.mpr ⟨Table.slotPlace_fits suits.boxSlots _, List.forall_mem_cons.mpr
    ⟨boxField_fits suits inside.1 words.1 notX.1 notY.1, List.forall_mem_singleton.mpr
      (boxField_fits suits inside.2 words.2 notX.2 notY.2)⟩⟩

theorem boxplotGraphics_fit :
    ∀ graphic ∈ boxplotGraphics table environment.style, graphic.Fits environment := by
  have median : "median" ∈ (boxColumns table).fields := by simp [boxColumns, mem_summaryFields]
  have quartiles : "q1" ∈ (boxColumns table).fields ∧ "q3" ∈ (boxColumns table).fields := by
    simp [boxColumns, mem_summaryFields]
  have whiskers : "lower_whisker" ∈ (boxColumns table).fields ∧
      "upper_whisker" ∈ (boxColumns table).fields := by simp [boxColumns]
  simp only [boxplotGraphics, List.forall_mem_cons]
  exact ⟨boxes_fit suits,
    boxRule_fits suits (by simp) (boxAcross_fit suits _ _ median (by simp) (by decide) (by decide)),
    boxRule_fits suits (by simp)
      (boxAcross_fit suits _ _ whiskers.1 (by simp) (by decide) (by decide)),
    boxRule_fits suits (by simp)
      (boxAcross_fit suits _ _ whiskers.2 (by simp) (by decide) (by decide)),
    boxRule_fits suits (by simp)
      (boxAlong_fit suits ⟨quartiles.1, whiskers.1⟩ (by simp) (by decide) (by decide)),
    boxRule_fits suits (by simp)
      (boxAlong_fit suits ⟨quartiles.2, whiskers.2⟩ (by simp) (by decide) (by decide)),
    outlierPoints_fit suits, List.forall_mem_nil _⟩

end

theorem boxplot_suits (colored : table.groupColorScale style = .ok colors) (factor : Binary64) :
    BoxplotSuits ((boxplotDrawing table style colors factor).environment table [] style) table := by
  have scales : (boxplotDrawing table style colors factor).scales
      = table.categoryScales colors Scale.tightPadding ++ [] := (List.append_nil _).symm
  have boxX : "x" ∈ (boxColumns table).fields := by simp [boxColumns, x_mem_summaryFields]
  have boxColor : table.hasColorGroup = true → "color" ∈ (boxColumns table).fields :=
    fun grouped => by simp [boxColumns, color_mem_summaryFields _ grouped]
  refine ⟨rfl, rfl, Drawing.suitsSlots scales boxX boxColor, Drawing.suitsSlots scales ?_
    fun grouped => ?_, Drawing.categories_suitsY scales,
    Drawing.categories_suitsColor scales colored boxColor (List.Subset.refl _)⟩
  · simp [outlierColumns]
  · simp [outlierColumns, Table.color_mem_fields grouped]

theorem boxplotDrawing_fits (colored : table.groupColorScale style = .ok colors)
    (factor : Binary64) : (boxplotDrawing table style colors factor).Fits table [] style := by
  have suits := boxplot_suits colored factor
  refine Drawing.categories_fits rfl colored rfl ?_
    ⟨boxPipeline_fits factor, outlierPipeline_fits, trivial⟩ (boxplotGraphics_fit suits)
  exact List.forall_mem_cons.mpr ⟨⟨by decide, suits.boxSlots.x.1⟩,
    List.forall_mem_singleton.mpr ⟨by decide, suits.y.declared⟩⟩

/-! ## Means -/

/-- The means with their confidence intervals. -/
def meanColumns (table : Table) : Columns :=
  ⟨summaryFields table ["mean_y", "stdev_y", "count_y"] ++ ["ci_lower"] ++ ["ci_upper"],
    table.labelFields⟩

theorem meanPipeline_fits (z : Binary64) :
    (meanPipeline table z).Fits [(tableSource, table.columns)] := by
  refine ⟨table.columns, rfl, ⟨categories_subset_fields, ?_⟩, ?_, ?_, trivial⟩
  · simp [Table.columns]
  · simp [Transform.fieldsAfter, confidenceWidth]
  · simp [Transform.fieldsAfter, confidenceWidth]

theorem meanGraphics_fit {environment : Environment}
    (read : environment.sources.lookup meanSource = some (meanColumns table))
    (slots : environment.SuitsSlots (meanColumns table) table)
    (y : "yscale" ∈ environment.scales)
    (color : environment.SuitsColor (meanColumns table) table) :
    ∀ graphic ∈ meanGraphics table environment.style, graphic.Fits environment := by
  refine List.forall_mem_cons.mpr ⟨?_, List.forall_mem_singleton.mpr ?_⟩
  · refine .of_read (meanColumns table) rfl (by simp) (by simp [meanSource]) read ?_ (by simp)
    simp only [Mark.encodings, Channels.encodings, List.map_cons, List.map_nil, List.append_nil,
      List.forall_mem_cons]
    exact ⟨Table.slotPlace_fits slots _, Table.slotWidth_fits slots _,
      Encoding.fits_field (by simp) (by simp [meanColumns, mem_summaryFields]) y
        (Table.notMem_labelFields (by decide) (by decide)) (by decide), ⟨y, by decide⟩,
      Encoding.fillColor_fits color, List.forall_mem_nil _⟩
  · refine .of_read (meanColumns table) rfl (by simp) (by simp [meanSource]) read ?_ (by simp)
    simp only [Mark.encodings, Channels.encodings, List.map_cons, List.map_nil, List.append_nil,
      List.forall_mem_cons]
    exact ⟨Table.slotPlace_fits slots _,
      Encoding.fits_field (by simp) (by simp [meanColumns]) y
        (Table.notMem_labelFields (by decide) (by decide)) (by decide),
      Encoding.fits_field (by simp) (by simp [meanColumns]) y
        (Table.notMem_labelFields (by decide) (by decide)) (by decide),
      Encoding.shown_fits (Style.lineWidth_shown _), Encoding.shown_fits (Style.outlineStroke_shown _),
      List.forall_mem_nil _⟩

theorem meansDrawing_fits (colored : table.groupColorScale style = .ok colors) (z : Binary64) :
    (meansDrawing table style colors z).Fits table [] style := by
  have scales : (meansDrawing table style colors z).scales
      = table.categoryScales colors Scale.widePadding ++ [] := (List.append_nil _).symm
  have heldX : "x" ∈ (meanColumns table).fields := by simp [meanColumns, x_mem_summaryFields]
  have heldColor : table.hasColorGroup = true → "color" ∈ (meanColumns table).fields :=
    fun grouped => by simp [meanColumns, color_mem_summaryFields _ grouped]
  have slots : ((meansDrawing table style colors z).environment table [] style).SuitsSlots
      (meanColumns table) table := Drawing.suitsSlots scales heldX heldColor
  have y : ((meansDrawing table style colors z).environment table [] style).SuitsY table :=
    Drawing.categories_suitsY scales
  exact Drawing.categories_fits rfl colored rfl
    (standardAxes_fit slots.x.1 y.declared (by decide) (by decide)) ⟨meanPipeline_fits z, trivial⟩
    (meanGraphics_fit rfl slots y.declared
      (Drawing.categories_suitsColor scales colored heldColor (List.Subset.refl _)))

/-! ## Violins -/

/-- The points of the violins. -/
def violinColumns (table : Table) : Columns :=
  ⟨["value", "density"] ++ table.groupedBy ["x"], table.labelFields⟩

theorem slotScale_banded {environment : Environment} {columns : Columns}
    (slots : environment.SuitsSlots columns table) :
    table.slotScale.text ∈ environment.bands := by
  unfold Table.slotScale
  split
  · next grouped => exact (slots.offset grouped).2
  · exact slots.x.2

/-- What violins need. -/
structure ViolinSuits (environment : Environment) (table : Table) : Prop where
  slots : environment.SuitsSlots (violinColumns table) table
  y : "yscale" ∈ environment.scales
  width : "widthscale" ∈ environment.scales
  color : environment.SuitsColor (violinColumns table) table

theorem ViolinSuits.mono {fewer more : Environment} (within : fewer.Within more)
    (suits : ViolinSuits fewer table) : ViolinSuits more table :=
  ⟨⟨⟨within.scales suits.slots.x.1, within.bands suits.slots.x.2⟩, fun grouped =>
      ⟨within.scales (suits.slots.offset grouped).1, within.bands (suits.slots.offset grouped).2⟩,
      suits.slots.heldX, suits.slots.heldColor⟩,
    within.scales suits.y, within.scales suits.width, suits.color.mono within⟩

theorem violinSide_fits {environment : Environment} (suits : ViolinSuits environment table)
    (read : environment.sources.lookup violinFacet = some (violinColumns table))
    (side : Operator) :
    (violinSide table.slotScale (table.fillColor environment.style) side).Fits environment := by
  have middle : (Expr.bandwidth table.slotScale / .whole 2).Fits environment
      (violinColumns table) := ⟨slotScale_banded suits.slots, trivial⟩
  refine .of_read (violinColumns table) rfl (by simp [violinSide]) (by simp [violinFacet]) read ?_
    (by simp [violinSide])
  simp only [violinSide, Mark.encodings, Channels.encodings, List.map_cons, List.map_nil,
    List.cons_append, List.nil_append, List.forall_mem_cons]
  refine ⟨Encoding.text_fits (by decide), Encoding.fillColor_fits suits.color,
    Encoding.number_fits _,
    Encoding.fits_field (by simp) (by simp [violinColumns]) suits.y
      (Table.notMem_labelFields (by decide) (by decide)) (by decide),
    Encoding.signal_fits middle rfl,
    ⟨⟨middle, ⟨by simp, by simp [violinColumns]⟩, suits.width⟩, fun name read labelled => ?_⟩,
    List.forall_mem_nil _⟩
  rw [List.mem_singleton.mp read] at labelled
  exact absurd labelled (Table.notMem_labelFields (by decide) (by decide))

theorem violinGroup_fits {environment : Environment} (suits : ViolinSuits environment table)
    (read : environment.sources.lookup violinSource = some (violinColumns table))
    (fresh : violinFacet ∉ environment.sources.map (·.1)) :
    (violinGroup table environment.style).FitsOver environment (violinColumns table) := by
  have within : environment.Within
      ((violinGroup table environment.style).inside environment (violinColumns table)) :=
    Group.within_inside _ _ _
  have inner : ((violinGroup table environment.style).inside environment
      (violinColumns table)).sources.lookup violinFacet = some (violinColumns table) :=
    List.lookup_append_of_notMem fresh
  refine ⟨by simp [violinGroup], ?_, by simp [violinGroup, Group.declared], List.nodup_nil,
    by simp [violinGroup], ?_, by simp [violinGroup], by simp [violinGroup],
    by simp [violinGroup], ?_⟩
  · intro facet inside
    cases inside
    refine ⟨by simp [violinFacet], by simp [violinSource], ?_, read,
      List.subset_append_right _ _, fresh⟩
    unfold Table.groupedBy
    split <;> simp
  · have own : environment.SuitsSlots ⟨table.groupedBy ["x"], table.labelFields⟩ table :=
      ⟨suits.slots.x, suits.slots.offset, Table.subset_groupedBy _ (List.mem_cons_self ..),
        Table.color_mem_groupedBy _⟩
    refine List.forall_mem_singleton.mpr ?_
    split
    · next grouped =>
        exact Encoding.signal_fits_bands (Table.slotStart_fits own grouped)
          (Table.slotStart_banded own grouped)
    · exact Encoding.fits_bandField (by simp) own.heldX own.x.1 own.x.2 (by decide)
  · exact List.forall_mem_cons.mpr ⟨violinSide_fits (suits.mono within) inner _,
      List.forall_mem_singleton.mpr (violinSide_fits (suits.mono within) inner _)⟩

theorem violinDrawing_fits (colored : table.groupColorScale style = .ok colors)
    (bandwidth : Binary64) (steps : Int) (extent : Extent) :
    (violinDrawing table style colors bandwidth steps extent).Fits table [] style := by
  have heldX : "x" ∈ (violinColumns table).fields :=
    List.mem_append_right _ (Table.subset_groupedBy _ (List.mem_cons_self ..))
  have heldColor : table.hasColorGroup = true → "color" ∈ (violinColumns table).fields :=
    fun grouped => List.mem_append_right _ (Table.color_mem_groupedBy _ grouped)
  have y : ((violinDrawing table style colors bandwidth steps extent).environment table []
      style).SuitsY table := Drawing.categories_suitsY rfl
  have suits : ViolinSuits
      ((violinDrawing table style colors bandwidth steps extent).environment table [] style)
      table :=
    ⟨Drawing.suitsSlots rfl heldX heldColor, y.declared,
      Drawing.mem_scales (violinScale table.slotScale) (List.mem_append_right _
        (List.mem_cons_self ..)),
      Drawing.categories_suitsColor rfl colored heldColor (List.Subset.refl _)⟩
  refine ⟨List.forall_mem_singleton.mpr ⟨_, violinGroup_fits suits rfl ?_⟩,
    List.forall_mem_append.mpr ⟨Table.categoryScales_fit colored rfl suits.slots.x.2,
      List.forall_mem_singleton.mpr ⟨?_, slotScale_banded suits.slots, trivial⟩⟩,
    List.forall_mem_cons.mpr ⟨⟨by decide, suits.slots.x.1⟩,
      List.forall_mem_singleton.mpr ⟨by decide, y.declared⟩⟩,
    ⟨⟨table.columns, rfl, ⟨Table.y_mem_fields, categories_subset_fields⟩, trivial⟩, trivial⟩, ?_⟩
  · simp [Drawing.environment, Drawing.sources, Drawing.givenSources, violinDrawing,
      Pipeline.extend, tableSource, violinSource, violinFacet]
  · exact ⟨by simp [violinSource], by simp, violinColumns table, rfl, by simp [violinColumns]⟩
  · simp only [Drawing.scaleNames, violinDrawing, List.map_append,
      Table.categoryScales_names colored]
    split <;> simp [violinScale, ScaleName.text, ScaleName.shared]

end Layer

end ChartCompiler
