import ChartCompiler.Layer.Categories
import ChartCompiler.Proofs.Drawing.Fitting
import ChartCompiler.Proofs.Scale.Table

/-!
# The encodings that layers share

When the places, colors and slots of rows fit. The scales of a layer that places its marks by x and
y suit the table (`Environment.Suits`), whatever the kinds of its fields.
-/

namespace ChartCompiler

/-! ## Words -/

@[simp] theorem Expr.isField_fields :
    isField "x" ∧ isField "y" ∧ isField "color" ∧ isField "ymin" ∧ isField "ymax" ∧
    isField "jitter" ∧ isField "smooth_x" ∧ isField "smooth_y" ∧ isField "x0" ∧ isField "x1" ∧
    isField "y0" ∧ isField "y1" ∧ isField "count" ∧ isField "diff" ∧ isField "d0" ∧
    isField "d1" ∧ isField "value" ∧ isField "density" ∧ isField "q1" ∧ isField "q3" ∧
    isField "median" ∧ isField "min" ∧ isField "max" ∧ isField "iqr" ∧ isField "group_key" ∧
    isField "lower_whisker" ∧ isField "upper_whisker" ∧ isField "mean_y" ∧ isField "stdev_y" ∧
    isField "count_y" ∧ isField "ci_lower" ∧ isField "ci_upper" ∧ isField "rank" ∧ isField "n" ∧
    isField "theoretical" ∧ isField "xx" ∧ isField "yy" ∧ isField "xy" ∧ isField "mx" ∧
    isField "my" ∧ isField "mxx" ∧ isField "myy" ∧ isField "mxy" ∧ isField "vx" ∧
    isField "vy" ∧ isField "cxy" ∧ isField "spread" ∧ isField "l1" ∧ isField "l2" ∧
    isField "theta" ∧ isField "steps" ∧ isField "step" ∧ isField "t" ∧ isField "ex" ∧
    isField "ey" := by decide +kernel

@[simp] theorem Expr.isField_sources :
    isField "table" ∧ isField "jittered" ∧ isField "swarmed" ∧ isField "abline_points" ∧
    isField "vline_values" ∧ isField "hline_values" ∧ isField "polygon_vertices" ∧
    isField "regression" ∧ isField "glm_fit" ∧ isField "fit_curve" ∧ isField "smoothed" ∧
    isField "binned" ∧ isField "binned2d" ∧ isField "cornerhist" ∧ isField "violin_density" ∧
    isField "boxplot" ∧ isField "outliers" ∧ isField "summary" ∧ isField "qq" ∧
    isField "ellipse" ∧ isField "series" ∧ isField "facet" ∧ isField "violin" ∧
    isField "regression_series" ∧ isField "glm_fit_series" ∧ isField "fit_curve_series" ∧
    isField "smoothed_series" ∧ isField "density_series" ∧ isField "ellipse_series" := by decide +kernel

@[simp] theorem Expr.isField_marks :
    isField "points" ∧ isField "data_points" ∧ isField "jitteredPoints" ∧
    isField "swarmPoints" ∧ isField "lines" ∧ isField "ticks" ∧ isField "errorbars" ∧
    isField "abline" ∧ isField "vlines" ∧ isField "hlines" ∧ isField "polygons" ∧
    isField "bars" ∧ isField "barGroups" ∧ isField "width" ∧ isField "regression_line" ∧
    isField "glm_line" ∧ isField "fit_line" ∧ isField "smooth_line" ∧ isField "histogram" ∧
    isField "heatmap" ∧ isField "corner_hist" ∧ isField "corner_bars" ∧
    isField "density_curves" ∧ isField "violins" ∧ isField "boxes" ∧
    isField "lower_whisker_cap" ∧ isField "upper_whisker_cap" ∧ isField "lower_whisker_line" ∧
    isField "upper_whisker_line" ∧ isField "outlier_points" ∧ isField "summary_bars" ∧
    isField "summary_errorbars" ∧ isField "qq_points" ∧ isField "ellipses" ∧ isField "pos" ∧
    isField "cornerx" ∧ isField "cornery" := by decide +kernel

/-! ## Labels and fields of a table -/

namespace Table

variable {table : Table}

@[simp] theorem x_mem_labelFields : "x" ∈ table.labelFields ↔ table.xIsNumeric = false := by
  cases x : table.xIsNumeric <;> cases y : table.yIsNumeric <;> simp [labelFields, x, y]

@[simp] theorem y_mem_labelFields : "y" ∈ table.labelFields ↔ table.yIsNumeric = false := by
  cases x : table.xIsNumeric <;> cases y : table.yIsNumeric <;> simp [labelFields, x, y]

theorem notMem_labelFields {name : String} (notX : name ≠ "x") (notY : name ≠ "y") :
    name ∉ table.labelFields := by
  cases x : table.xIsNumeric <;> cases y : table.yIsNumeric <;>
    simp [labelFields, x, y, notX, notY]

@[simp] theorem x_mem_fields : "x" ∈ table.fields := by simp [fields]

@[simp] theorem y_mem_fields : "y" ∈ table.fields := by simp [fields]

theorem color_mem_fields (grouped : table.hasColorGroup = true) : "color" ∈ table.fields := by
  simp [fields, grouped]

theorem bounds_mem_fields (bounded : table.hasInterval = true) :
    "ymin" ∈ table.fields ∧ "ymax" ∈ table.fields := by
  simp [fields, bounded]

end Table

/-! ## Constants of a style -/

namespace Style

variable (style : Style)

theorem defaultFill_shown : style.defaultFill ∈ style.shown := by simp [shown]

theorem referenceStroke_shown : style.referenceStroke ∈ style.shown := by simp [shown]

theorem fitStroke_shown : style.fitStroke ∈ style.shown := by simp [shown]

theorem outlineStroke_shown : style.outlineStroke ∈ style.shown := by simp [shown]

theorem heatLow_shown : style.heatLow ∈ style.shown := by simp [shown]

theorem symbolSize_shown : style.symbolSize ∈ style.shown := by simp [shown]

theorem swarmSymbolSize_shown : style.swarmSymbolSize ∈ style.shown := by simp [shown]

theorem lineWidth_shown : style.lineWidth ∈ style.shown := by simp [shown]

theorem smoothLineWidth_shown : style.smoothLineWidth ∈ style.shown := by simp [shown]

end Style

/-! ## Places and colors -/

/-- Whether the x scale of an environment is right for the x field of a table. -/
structure Environment.SuitsX (environment : Environment) (table : Table) : Prop where
  declared : "xscale" ∈ environment.scales
  banded : table.xIsNumeric = false → "xscale" ∈ environment.bands

structure Environment.SuitsY (environment : Environment) (table : Table) : Prop where
  declared : "yscale" ∈ environment.scales
  banded : table.yIsNumeric = false → "yscale" ∈ environment.bands

/-- Whether the color groups of a table are there to be shown. -/
structure Environment.SuitsColor (environment : Environment) (columns : Columns)
    (table : Table) : Prop where
  declared : table.hasColorGroup = true → "color" ∈ environment.scales
  held : table.hasColorGroup = true → "color" ∈ columns.fields
  labels : columns.labels ⊆ table.labelFields

namespace Environment

variable {environment fewer more : Environment} {columns : Columns} {table : Table}

theorem Places.unlabelled {scale : ScaleName} {name : String} (word : Expr.isField name = true)
    (held : name ∈ columns.fields) (declared : scale.text ∈ environment.scales)
    (unlabelled : name ∉ columns.labels) : environment.Places columns scale name :=
  ⟨word, held, declared, fun labelled => absurd labelled unlabelled⟩

theorem SuitsY.mono (within : fewer.Within more) (suits : fewer.SuitsY table) :
    more.SuitsY table :=
  ⟨within.scales suits.declared, fun labelled => within.bands (suits.banded labelled)⟩

theorem SuitsColor.mono (within : fewer.Within more) (suits : fewer.SuitsColor columns table) :
    more.SuitsColor columns table :=
  ⟨fun grouped => within.scales (suits.declared grouped), suits.held, suits.labels⟩

end Environment

namespace Encoding

variable {environment : Environment} {columns : Columns} {table : Table}

theorem shown_fits {value : Value} (shown : value ∈ environment.style.shown) :
    (Encoding.constant value).Fits environment columns := .inl shown

theorem plain_fits {value : Value} (plain : value.isPlain = true) :
    (Encoding.constant value).Fits environment columns := .inr plain

theorem number_fits (value : Number) : (Encoding.number value).Fits environment columns :=
  plain_fits rfl

theorem text_fits {content : String} (plain : (Value.text content).isPlain = true) :
    (Encoding.text content).Fits environment columns := plain_fits plain

/-- A computed place that calls no scales can be computed from any fields. -/
theorem signal_fits {expression : Expr} (fits : expression.Fits environment columns)
    (uncalled : expression.calls ["scale".toList] = []) :
    (Encoding.signal expression).Fits environment columns :=
  ⟨fits, fun _ _ _ => uncalled ▸ List.nil_subset _⟩

/-- A place that is computed with bands only can be computed from any fields. -/
theorem signal_fits_bands {expression : Expr} (fits : expression.Fits environment columns)
    (banded : expression.calls ["scale".toList] ⊆ environment.bands) :
    (Encoding.signal expression).Fits environment columns :=
  ⟨fits, fun _ _ _ => banded⟩

theorem extent_fits (dimension : Dimension) :
    (Encoding.signal (.extent dimension)).Fits environment columns := signal_fits trivial rfl

/-- A field without labels can be placed by any scale. -/
theorem fits_field {scale : ScaleName} {name : String} (word : Expr.isField name = true)
    (held : name ∈ columns.fields) (declared : scale.text ∈ environment.scales)
    (unlabelled : name ∉ columns.labels) (uncolored : scale ≠ .color) :
    (Encoding.field scale name).Fits environment columns :=
  ⟨.unlabelled word held declared unlabelled, fun colored => absurd colored uncolored⟩

/-- Any field can be placed in bands. -/
theorem fits_bandField {scale : ScaleName} {name : String} (word : Expr.isField name = true)
    (held : name ∈ columns.fields) (declared : scale.text ∈ environment.scales)
    (banded : scale.text ∈ environment.bands) (uncolored : scale ≠ .color) :
    (Encoding.field scale name).Fits environment columns :=
  ⟨⟨word, held, declared, fun _ => banded⟩, fun colored => absurd colored uncolored⟩

theorem places_x (suits : environment.SuitsX table) (held : "x" ∈ columns.fields)
    (labels : columns.labels ⊆ table.labelFields) : environment.Places columns .x "x" :=
  ⟨by simp, held, suits.declared, fun labelled =>
    suits.banded (Table.x_mem_labelFields.mp (labels labelled))⟩

theorem places_y (suits : environment.SuitsY table) (held : "y" ∈ columns.fields)
    (labels : columns.labels ⊆ table.labelFields) : environment.Places columns .y "y" :=
  ⟨by simp, held, suits.declared, fun labelled =>
    suits.banded (Table.y_mem_labelFields.mp (labels labelled))⟩

theorem xField_fits (suits : environment.SuitsX table) (held : "x" ∈ columns.fields)
    (labels : columns.labels ⊆ table.labelFields) :
    (Encoding.field .x "x").Fits environment columns := ⟨places_x suits held labels, by decide⟩

theorem yField_fits (suits : environment.SuitsY table) (held : "y" ∈ columns.fields)
    (labels : columns.labels ⊆ table.labelFields) :
    (Encoding.field .y "y").Fits environment columns := ⟨places_y suits held labels, by decide⟩

theorem xPosition_fits (suits : environment.SuitsX table) (held : "x" ∈ columns.fields)
    (labels : columns.labels ⊆ table.labelFields) :
    table.xPosition.Fits environment columns := by
  unfold Table.xPosition Encoding.position
  cases numeric : table.xIsNumeric with
  | false => exact ⟨places_x suits held labels, suits.banded numeric, by decide⟩
  | true => exact xField_fits suits held labels

theorem yPosition_fits (suits : environment.SuitsY table) (held : "y" ∈ columns.fields)
    (labels : columns.labels ⊆ table.labelFields) :
    table.yPosition.Fits environment columns := by
  unfold Table.yPosition Encoding.position
  cases numeric : table.yIsNumeric with
  | false => exact ⟨places_y suits held labels, suits.banded numeric, by decide⟩
  | true => exact yField_fits suits held labels

theorem groupColor_fits (suits : environment.SuitsColor columns table) {fallback : Value}
    (known : environment.style.Knows fallback) :
    (table.groupColor fallback).Fits environment columns := by
  unfold Table.groupColor
  split
  · next grouped =>
      refine ⟨⟨by simp, suits.held grouped, suits.declared grouped, fun labelled => ?_⟩,
        fun _ => rfl⟩
      exact absurd (suits.labels labelled) (Table.notMem_labelFields (by decide) (by decide))
  · exact known

theorem fillColor_fits (suits : environment.SuitsColor columns table) :
    (table.fillColor environment.style).Fits environment columns :=
  groupColor_fits suits (.inl (Style.defaultFill_shown _))

theorem symbolChannels_fit (suits : environment.SuitsColor columns table)
    (places : environment.SuitsY table) (held : "y" ∈ columns.fields) {size : Value}
    (known : environment.style.Knows size) :
    ∀ encoding ∈ (table.symbolChannels environment.style size).encodings,
      encoding.Fits environment columns := by
  simp only [Table.symbolChannels, Channels.encodings, List.map_cons, List.map_nil,
    List.forall_mem_cons]
  exact ⟨yPosition_fits places held suits.labels, known, text_fits (by decide),
    number_fits _, fillColor_fits suits, List.forall_mem_nil _⟩

end Encoding

end ChartCompiler
