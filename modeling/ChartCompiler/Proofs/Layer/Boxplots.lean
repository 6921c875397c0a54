import ChartCompiler.Proofs.Expression.Meaning
import ChartCompiler.Proofs.Layer.Settled

/-!
# What boxplots compute

The formulas of a boxplot give every row the key of its group and every group its whiskers. Rows
have one key exactly if they are in one group, unless the mark between the two parts of a key stands
in a label. The whiskers enclose the box unless they are a negative multiple of it.
-/

namespace ChartCompiler

open Layer

variable {table : Table} {context : LayerContext} {parameters : Members} {drawing : Drawing}

namespace Layer

/-- A boxplot that draws something has whiskers of the length that is asked for. -/
theorem boxplot_eq (returned : (boxplot table context parameters).Returns drawing)
    (shown : drawing.graphics ≠ []) : ∃ colors,
      drawing = boxplotDrawing table context.style colors (parameters.realOr "whisker" 1.5) := by
  unfold boxplot at returned
  split at returned
  · cases returned
    exact absurd rfl shown
  · simp only [Run.returns_bind, Run.returns_lift, Run.returns_pure] at returned
    obtain ⟨factor, read, colors, _, rfl⟩ := returned
    exact ⟨colors, by rw [Members.realParameter_eq read]⟩

/-- A boxplot of numbers is drawn unless the length of its whiskers is too large to be read. -/
theorem boxplot_returns (fed : table.feeds false true = true)
    (small : ¬ ∃ given ∈ parameters.get? "whisker", given.IsHuge) : ∃ colors,
      ((⟨.boxplot, parameters⟩ : LayerRequest).draw table { style := {} }).Returns
        (boxplotDrawing table {} colors (parameters.realOr "whisker" 1.5)) := by
  obtain ⟨colors, colored⟩ := Style.standard_drawable.groupColorScale table
  have read := ((Members.realParameter_settles parameters "whisker" 1.5).resolve_left
    fun large => small large.1).2
  have drawn : (boxplot table { style := {} } parameters).Returns
      (boxplotDrawing table {} colors (parameters.realOr "whisker" 1.5)) := by
    unfold boxplot
    rw [Table.numericObstacle?_eq_none_iff.mpr fed]
    simp only [Run.returns_bind, Run.returns_lift, Run.returns_pure]
    exact ⟨_, read, colors, colored, rfl⟩
  exact ⟨colors, (Run.returns_bind _ _ _).mpr
    ⟨_, drawn, (Run.returns_bind _ _ _).mpr ⟨(), by rfl, rfl⟩⟩⟩

end Layer

theorem LayerRequest.draw_boxplot
    (returned : ((⟨.boxplot, parameters⟩ : LayerRequest).draw table context).Returns drawing)
    (shown : drawing.graphics ≠ []) : ∃ colors,
      drawing = boxplotDrawing table context.style colors (parameters.realOr "whisker" 1.5) := by
  unfold LayerRequest.draw at returned
  simp only [Run.returns_bind, Run.returns_pure] at returned
  obtain ⟨_, drawn, _, _, rfl⟩ := returned
  exact boxplot_eq drawn shown

/-! ## Keys of groups -/

theorem toList_marked (front back : String) :
    (front ++ "|" ++ back).toList = front.toList ++ '|' :: back.toList := by
  rw [String.append_assoc, String.toList_append, String.toList_append]
  rfl

/-- Whether fields have the category and the color of a row. -/
structure Fields.GroupedAs (fields : Fields) (row : Row) : Prop where
  category : fields "x" = row.x.quantity?
  color : fields "color" = row.color.map .text

/-- Whether a mark in the category of a row takes the place of the one behind the category of
another row. -/
def Row.Shifts (row other : Row) : Prop :=
  ∃ category between color, row.x = .label (category ++ "|" ++ between) ∧ row.color = some color ∧
    other.x = .label category ∧ other.color = some (between ++ "|" ++ color)

/-- A category that takes the place of another mark has a mark itself. -/
theorem Row.Shifts.marked {row other : Row} (shifts : row.Shifts other) {label : String}
    (labelled : row.x = .label label) : '|' ∈ label.toList := by
  obtain ⟨category, between, color, marked, _⟩ := shifts
  rw [labelled] at marked
  cases marked
  rw [toList_marked]
  exact List.mem_append_right _ (List.mem_cons_self ..)

/-- The category and the color of a row, with a mark between them. -/
def Row.groupKey (row : Row) : String :=
  match row.x, row.color with
  | .label category, some color => category ++ "|" ++ color
  | _, _ => ""

/-- A front that goes on after another one ends goes on with the mark. -/
theorem marked_of_longer {front back before after : String} {more : List Char}
    (longer : before.toList = front.toList ++ more)
    (rest : '|' :: back.toList = more ++ '|' :: after.toList) :
    front = before ∧ back = after ∨
      ∃ between, before = front ++ "|" ++ between ∧ back = between ++ "|" ++ after := by
  rcases List.cons_eq_append_iff.mp rest with ⟨rfl, ended⟩ | ⟨between, rfl, ended⟩
  · rw [List.append_nil, String.toList_inj] at longer
    rw [List.cons.injEq, String.toList_inj] at ended
    exact .inl ⟨longer.symm, ended.2.symm⟩
  · refine .inr ⟨String.ofList between, ?_, ?_⟩
    · rw [← String.toList_inj, toList_marked, String.toList_ofList, longer]
    · rw [← String.toList_inj, toList_marked, String.toList_ofList, ended]

/-- Texts with a mark between their parts. -/
theorem marked_eq_iff {front back before after : String} :
    front ++ "|" ++ back = before ++ "|" ++ after ↔
      front = before ∧ back = after ∨
        (∃ between, front = before ++ "|" ++ between ∧ after = between ++ "|" ++ back) ∨
          ∃ between, before = front ++ "|" ++ between ∧ back = between ++ "|" ++ after := by
  constructor
  · intro same
    rw [← String.toList_inj, toList_marked, toList_marked] at same
    rcases List.append_eq_append_iff.mp same with ⟨more, longer, rest⟩ | ⟨more, longer, rest⟩
    · exact (marked_of_longer longer rest).imp_right .inr
    · exact (marked_of_longer longer rest).imp (fun equal => ⟨equal.1.symm, equal.2.symm⟩) .inl
  · rintro (⟨rfl, rfl⟩ | ⟨between, rfl, rfl⟩ | ⟨between, rfl, rfl⟩)
    · rfl
    · simp only [String.append_assoc]
    · simp only [String.append_assoc]

/-- The keys of rows with labels and colors. -/
theorem Row.groupKey_eq_iff {row other : Row} {category otherCategory color otherColor : String}
    (labelled : row.x = .label category) (colored : row.color = some color)
    (otherLabelled : other.x = .label otherCategory)
    (otherColored : other.color = some otherColor) :
    row.groupKey = other.groupKey ↔
      row.x = other.x ∧ row.color = other.color ∨ row.Shifts other ∨ other.Shifts row := by
  unfold Row.groupKey Row.Shifts
  rw [labelled, colored, otherLabelled, otherColored]
  simp [marked_eq_iff]

/-! ## Formulas of groups -/

namespace Layer

/-- The formula of a key on a row with a label and a color. -/
theorem groupKey_value {fields : Fields} {category color : String}
    (grouped : table.hasColorGroup = true)
    (first : (Expr.datum "x").value? fields = some (.text category))
    (second : (Expr.datum "color").value? fields = some (.text color)) :
    (groupKey table).value? fields = some (.text (category ++ "|" ++ color)) := by
  have blank : (Expr.text "").value? fields = some (.text "") := rfl
  have mark : (Expr.text "|").value? fields = some (.text "|") := rfl
  have front : (Expr.text "" + .datum "x").value? fields = some (.text category) :=
    Expr.value?_binary blank first (congrArg (some ∘ Quantity.text) String.empty_append)
  unfold groupKey
  rw [if_pos grouped]
  exact Expr.value?_binary (Expr.value?_binary front mark rfl) second rfl

/-- Both sources of a boxplot compute one key for the rows of a group. -/
theorem boxplot_keys {fields : Fields} {style : Style} {colors : List Scale} {factor : Binary64}
    {category color : String} (grouped : table.hasColorGroup = true)
    (first : fields "x" = some (.text category)) (second : fields "color" = some (.text color)) :
    ∀ pipeline ∈ (boxplotDrawing table style colors factor).pipelines,
      fields.compute pipeline.steps "group_key" = some (.text (category ++ "|" ++ color)) := by
  have summaries : fields.compute (boxPipeline table factor).steps "group_key" =
      some (.text (category ++ "|" ++ color)) := by
    unfold boxPipeline
    simp only [Fields.compute, Fields.set_same]
    apply groupKey_value grouped
    · simpa (disch := decide) only [Expr.value?_datum, Fields.set_other] using first
    · simpa (disch := decide) only [Expr.value?_datum, Fields.set_other] using second
  have outliers : fields.compute (outlierPipeline table).steps "group_key" =
      some (.text (category ++ "|" ++ color)) := by
    unfold outlierPipeline
    simp only [Fields.compute, Fields.set_same]
    exact groupKey_value grouped first second
  exact List.forall_mem_cons.mpr ⟨summaries, List.forall_mem_singleton.mpr outliers⟩

end Layer

/-- Rows of a boxplot with color groups have one key, in the source of the boxes as in that of the
outliers, exactly if they have one category and one color, or if a mark in the category of the one
takes the place of that behind the category of the other. -/
theorem LayerRequest.draw_groupKeys {bindings : Bindings}
    (projected : (Table.project bindings).Returns table) (grouped : table.hasColorGroup = true)
    (categories : table.xKind = .categorical)
    (returned : ((⟨.boxplot, parameters⟩ : LayerRequest).draw table context).Returns drawing)
    (shown : drawing.graphics ≠ []) :
    drawing.pipelines.map (·.name) = [boxSource, outlierSource] ∧
      (∀ row ∈ table.rows, ∀ fields : Fields, fields.GroupedAs row →
        ∀ pipeline ∈ drawing.pipelines,
          fields.compute pipeline.steps "group_key" = some (.text row.groupKey)) ∧
      ∀ row ∈ table.rows, ∀ other ∈ table.rows, row.groupKey = other.groupKey ↔
        row.x = other.x ∧ row.color = other.color ∨ row.Shifts other ∨ other.Shifts row := by
  obtain ⟨colors, rfl⟩ := LayerRequest.draw_boxplot returned shown
  have sound := Table.project_sound projected
  have labelled : ∀ row ∈ table.rows, ∃ category color,
      row.x = .label category ∧ row.color = some color := by
    intro row inside
    obtain ⟨category, label⟩ := sound.x (by simp [Table.xIsNumeric, categories]) row inside
    obtain ⟨color, colored⟩ := sound.color grouped row inside
    exact ⟨category, color, label, colored⟩
  refine ⟨rfl, fun row inside fields same => ?_, fun row inside other listed => ?_⟩
  · obtain ⟨category, color, label, colored⟩ := labelled row inside
    have key : row.groupKey = category ++ "|" ++ color := by rw [Row.groupKey, label, colored]
    rw [key]
    exact boxplot_keys grouped (by rw [same.category, label]; rfl)
      (by rw [same.color, colored]; rfl)
  · obtain ⟨category, color, label, colored⟩ := labelled row inside
    obtain ⟨otherCategory, otherColor, otherLabel, otherColored⟩ := labelled other listed
    exact Row.groupKey_eq_iff label colored otherLabel otherColored

/-- A boxplot of two color groups gives their rows keys of their own. -/
theorem LayerRequest.draw_groupKeys_plain : ∃ drawing,
    (Table.project groupedBindings).Returns groupedTable ∧ groupedTable.hasColorGroup = true ∧
      groupedTable.xKind = .categorical ∧
      ((⟨.boxplot, []⟩ : LayerRequest).draw groupedTable { style := {} }).Returns drawing ∧
      drawing.graphics ≠ [] ∧ ∀ row ∈ groupedTable.rows, ∀ other ∈ groupedTable.rows,
        row.groupKey = other.groupKey → row.color = other.color := by
  obtain ⟨colors, returned⟩ := @boxplot_returns groupedTable [] rfl nofun
  have shown : (boxplotDrawing groupedTable {} colors
      (Members.realOr [] "whisker" 1.5)).graphics ≠ [] := List.cons_ne_nil _ _
  obtain ⟨_, _, keys⟩ :=
    LayerRequest.draw_groupKeys groupedBindings_projected rfl rfl returned shown
  have labels : ∀ row ∈ groupedTable.rows, row.x = .label "a" := by decide
  have plain : '|' ∉ "a".toList := by decide
  refine ⟨_, groupedBindings_projected, rfl, rfl, returned, shown, ?_⟩
  intro row inside other listed same
  rcases (keys row inside other listed).mp same with ⟨_, equal⟩ | shifts | shifts
  · exact equal
  · exact absurd (shifts.marked (labels row inside)) plain
  · exact absurd (shifts.marked (labels other listed)) plain

/-- Two rows of which the first has the mark in its color and the second in its category. -/
def markedBindings : Bindings :=
  { x := .list [.text "a", .text "a|b"]
    y := .list [.real 1.0, .real 2.0]
    color := some (.list [.text "b|c", .text "c"]) }

/-- The table of the rows. -/
def markedTable : Table :=
  { rows := [{ x := .label "a", y := .number 1.0, color := some "b|c" },
      { x := .label "a|b", y := .number 2.0, color := some "c" }]
    xKind := .categorical
    yKind := .continuous
    hasColorGroup := true
    colorDomain := ["b|c", "c"]
    givenCount := 2 }

theorem markedBindings_projected : (Table.project markedBindings).Returns markedTable := by
  have cells : Projection.usableCells [.real 1.0, .real 2.0] true =
      .ok [some (.number 1.0), some (.number 2.0)] :=
    (Projection.usableCells_reals [1.0, 2.0]).trans (by simp [Projection.finite?_literals])
  have sorted : colorDomain ["b|c", "c"] false = ["b|c", "c"] :=
    List.mergeSort_of_pairwise (by decide +kernel)
  have groups : Projection.colorGroups [.text "b|c", .text "c"] [true, true] =
      .ok (["b|c", "c"], ["b|c", "c"]) :=
    Projection.colorGroups_eq_ok_iff.mpr ⟨rfl, false, rfl, sorted.symm⟩
  unfold Table.project
  simp only [Run.returns_bind, Run.returns_lift]
  refine ⟨_, rfl, _, rfl, _, rfl, _, rfl, _, rfl, _, rfl, false, rfl, true, rfl, _, rfl, _, cells,
    _, rfl, ?_⟩
  simp only [Run.returns_bind, Run.returns_lift]
  exact ⟨_, groups, none, rfl, none, rfl, (), rfl, rfl⟩

/-- A mark in the labels gives two groups one key. -/
theorem LayerRequest.draw_groupKeys_marked : ∃ drawing first second,
    (Table.project markedBindings).Returns markedTable ∧
      ((⟨.boxplot, []⟩ : LayerRequest).draw markedTable { style := {} }).Returns drawing ∧
      drawing.graphics ≠ [] ∧ markedTable.rows = [first, second] ∧ first.x ≠ second.x ∧
      ∀ fields others : Fields, fields.GroupedAs first → others.GroupedAs second →
        ∀ pipeline ∈ drawing.pipelines, fields.compute pipeline.steps "group_key" =
          others.compute pipeline.steps "group_key" := by
  obtain ⟨colors, returned⟩ := @boxplot_returns markedTable [] rfl nofun
  refine ⟨_, _, _, markedBindings_projected, returned, List.cons_ne_nil _ _, rfl, by decide, ?_⟩
  intro fields others same equal pipeline inside
  rw [boxplot_keys rfl same.category same.color pipeline inside,
    boxplot_keys rfl equal.category equal.color pipeline inside]
  rfl

/-! ## Whiskers -/

/-- The statistics of y in a group. -/
structure BoxStatistics where
  least : ℚ
  lowerQuartile : ℚ
  median : ℚ
  upperQuartile : ℚ
  greatest : ℚ
  least_le : least ≤ lowerQuartile
  lowerQuartile_le : lowerQuartile ≤ median
  median_le : median ≤ upperQuartile
  upperQuartile_le : upperQuartile ≤ greatest

namespace BoxStatistics

/-- The height of the box. -/
def height (statistics : BoxStatistics) : ℚ := statistics.upperQuartile - statistics.lowerQuartile

/-- The end of the lower whisker, a multiple of the height below the box. -/
def lowerWhisker (statistics : BoxStatistics) (factor : ℚ) : ℚ :=
  max statistics.least (statistics.lowerQuartile - factor * statistics.height)

/-- The end of the upper whisker, a multiple of the height above the box. -/
def upperWhisker (statistics : BoxStatistics) (factor : ℚ) : ℚ :=
  min statistics.greatest (statistics.upperQuartile + factor * statistics.height)

/-- Whiskers enclose the box if they are no negative multiple of its height. -/
theorem encloses_iff (statistics : BoxStatistics) (factor : ℚ) :
    statistics.lowerWhisker factor ≤ statistics.lowerQuartile ∧
        statistics.upperQuartile ≤ statistics.upperWhisker factor ↔
      statistics.lowerQuartile = statistics.upperQuartile ∨ 0 ≤ factor := by
  have ordered := statistics.lowerQuartile_le.trans statistics.median_le
  unfold lowerWhisker upperWhisker
  rw [max_le_iff, le_min_iff, and_iff_right statistics.least_le,
    and_iff_right statistics.upperQuartile_le, sub_le_self_iff, le_add_iff_nonneg_right, and_self]
  rcases ordered.eq_or_lt with same | less
  · have flat : statistics.height = 0 := sub_eq_zero.mpr same.symm
    rw [flat, mul_zero]
    exact iff_of_true le_rfl (.inl same)
  · have high : 0 < statistics.height := sub_pos.mpr less
    rw [mul_nonneg_iff_of_pos_right high, or_iff_right less.ne]

end BoxStatistics

/-- Whether the fields of a row are statistics of y. -/
structure Fields.Summarizes (fields : Fields) (statistics : BoxStatistics) : Prop where
  least : fields Statistic.least.name = some (.number statistics.least)
  lowerQuartile : fields Statistic.lowerQuartile.name = some (.number statistics.lowerQuartile)
  median : fields Statistic.median.name = some (.number statistics.median)
  upperQuartile : fields Statistic.upperQuartile.name = some (.number statistics.upperQuartile)
  greatest : fields Statistic.greatest.name = some (.number statistics.greatest)

/-- Other fields can be set beside the statistics. -/
theorem Fields.Summarizes.set {fields : Fields} {statistics : BoxStatistics}
    (summary : fields.Summarizes statistics) {name : String} (value : Option Quantity)
    (other : name ∉ ["min", "q1", "median", "q3", "max"]) :
    (fields.set name value).Summarizes statistics := by
  have kept : ∀ field ∈ ["min", "q1", "median", "q3", "max"],
      fields.set name value field = fields field := fun field inside =>
    fields.set_other value fun same => other (same ▸ inside)
  exact ⟨(kept "min" (by decide)).trans summary.least,
    (kept "q1" (by decide)).trans summary.lowerQuartile,
    (kept "median" (by decide)).trans summary.median,
    (kept "q3" (by decide)).trans summary.upperQuartile,
    (kept "max" (by decide)).trans summary.greatest⟩

namespace Layer

variable {fields : Fields} {statistics : BoxStatistics} {factor : Binary64}

/-- The whiskers of a row that has the statistics and the height of the box. -/
theorem whiskers_value (finite : factor.isFinite = true) (summary : fields.Summarizes statistics)
    (height : fields "iqr" = some (.number statistics.height)) :
    (lowerWhisker factor).value? fields =
        some (.number (statistics.lowerWhisker (Numeral.written factor))) ∧
      (upperWhisker factor).value? fields =
        some (.number (statistics.upperWhisker (Numeral.written factor))) := by
  have least : (Expr.datum "min").value? fields = _ := summary.least
  have lower : (Expr.datum "q1").value? fields = _ := summary.lowerQuartile
  have upper : (Expr.datum "q3").value? fields = _ := summary.upperQuartile
  have greatest : (Expr.datum "max").value? fields = _ := summary.greatest
  have range : (Expr.datum "iqr").value? fields = _ := height
  have length : (Expr.number factor * Expr.datum "iqr").value? fields =
      some (.number (Numeral.written factor * statistics.height)) :=
    Expr.value?_binary (Expr.value?_number finite) range rfl
  exact ⟨Expr.value?_combine least (Expr.value?_binary lower length rfl) rfl,
    Expr.value?_combine greatest (Expr.value?_binary upper length rfl) rfl⟩

/-- The whiskers that the formulas of a boxplot compute. -/
theorem boxPipeline_whiskers (finite : factor.isFinite = true)
    (summary : fields.Summarizes statistics) :
    fields.compute (boxPipeline table factor).steps "lower_whisker" =
        some (.number (statistics.lowerWhisker (Numeral.written factor))) ∧
      fields.compute (boxPipeline table factor).steps "upper_whisker" =
        some (.number (statistics.upperWhisker (Numeral.written factor))) := by
  have lower : (Expr.datum "q1").value? fields = _ := summary.lowerQuartile
  have upper : (Expr.datum "q3").value? fields = _ := summary.upperQuartile
  have height : (Expr.datum "q3" - Expr.datum "q1").value? fields =
      some (.number statistics.height) := Expr.value?_binary upper lower rfl
  have measured := summary.set (some (.number statistics.height)) (show "iqr" ∉ _ by decide)
  have first := (whiskers_value finite measured (Fields.set_same ..)).1
  have second := (whiskers_value finite
    (measured.set (some (.number (statistics.lowerWhisker (Numeral.written factor))))
      (show "lower_whisker" ∉ _ by decide))
    ((Fields.set_other _ _ (by decide)).trans (Fields.set_same ..))).2
  unfold boxPipeline
  simp only [Fields.compute, height, first, second]
  constructor
  · simp (disch := decide) only [Fields.set_other, Fields.set_same]
  · simp (disch := decide) only [Fields.set_other, Fields.set_same]

/-- The whiskers of a boxplot are within the values, and enclose the box exactly if it has no height
or their length is not below zero. -/
theorem boxPipeline_encloses (finite : factor.isFinite = true)
    (summary : fields.Summarizes statistics) : ∃ lower upper : ℚ,
      fields.compute (boxPipeline table factor).steps "lower_whisker" = some (.number lower) ∧
      fields.compute (boxPipeline table factor).steps "upper_whisker" = some (.number upper) ∧
      statistics.least ≤ lower ∧ upper ≤ statistics.greatest ∧
      (lower ≤ statistics.lowerQuartile ∧ statistics.upperQuartile ≤ upper ↔
        statistics.lowerQuartile = statistics.upperQuartile ∨ factor.lessThan .zero = false) := by
  obtain ⟨lower, upper⟩ := boxPipeline_whiskers finite summary
  refine ⟨_, _, lower, upper, le_max_left _ _, min_le_left _ _, ?_⟩
  rw [← Numeral.written_nonneg_iff finite]
  exact statistics.encloses_iff _

end Layer

/-- The formulas of a boxplot compute whiskers within the values of a group. They enclose the box
unless it has a height and their length is below zero. -/
theorem LayerRequest.draw_whiskers
    (returned : ((⟨.boxplot, parameters⟩ : LayerRequest).draw table context).Returns drawing)
    (shown : drawing.graphics ≠ []) : ∃ pipeline ∈ drawing.pipelines, pipeline.name = boxSource ∧
      ∀ (statistics : BoxStatistics) (fields : Fields), fields.Summarizes statistics →
        ∃ lower upper : ℚ,
          fields.compute pipeline.steps "lower_whisker" = some (.number lower) ∧
          fields.compute pipeline.steps "upper_whisker" = some (.number upper) ∧
          statistics.least ≤ lower ∧ upper ≤ statistics.greatest ∧
          (lower ≤ statistics.lowerQuartile ∧ statistics.upperQuartile ≤ upper ↔
            statistics.lowerQuartile = statistics.upperQuartile ∨
              (parameters.realOr "whisker" 1.5).lessThan .zero = false) := by
  obtain ⟨colors, rfl⟩ := LayerRequest.draw_boxplot returned shown
  have usual : (1.5 : Binary64).isFinite = true := by decide +kernel
  exact ⟨_, List.mem_cons_self .., rfl, fun statistics fields summary =>
    boxPipeline_encloses (Members.realOr_finite usual) summary⟩

/-- A row of statistics. -/
def BoxStatistics.fields (statistics : BoxStatistics) : Fields
  | "min" => some (.number statistics.least)
  | "q1" => some (.number statistics.lowerQuartile)
  | "median" => some (.number statistics.median)
  | "q3" => some (.number statistics.upperQuartile)
  | "max" => some (.number statistics.greatest)
  | _ => none

theorem BoxStatistics.summarizes (statistics : BoxStatistics) :
    statistics.fields.Summarizes statistics := ⟨rfl, rfl, rfl, rfl, rfl⟩

/-- The statistics of the numbers from zero to four. -/
def fiveNumbers : BoxStatistics :=
  ⟨0, 1, 2, 3, 4, by decide, by decide, by decide, by decide⟩

/-- Whiskers of the usual length enclose the box. -/
theorem LayerRequest.draw_whiskers_usual : ∃ drawing,
    ((⟨.boxplot, []⟩ : LayerRequest).draw groupedTable { style := {} }).Returns drawing ∧
      drawing.graphics ≠ [] ∧ ∃ pipeline ∈ drawing.pipelines, ∃ lower upper : ℚ,
        fiveNumbers.fields.compute pipeline.steps "lower_whisker" = some (.number lower) ∧
        fiveNumbers.fields.compute pipeline.steps "upper_whisker" = some (.number upper) ∧
        lower ≤ fiveNumbers.lowerQuartile ∧ fiveNumbers.upperQuartile ≤ upper := by
  have usual : (1.5 : Binary64).lessThan .zero = false := by decide +kernel
  obtain ⟨colors, returned⟩ := @boxplot_returns groupedTable [] rfl nofun
  have shown : (boxplotDrawing groupedTable {} colors
      (Members.realOr [] "whisker" 1.5)).graphics ≠ [] := List.cons_ne_nil _ _
  obtain ⟨pipeline, inside, _, computes⟩ := LayerRequest.draw_whiskers returned shown
  obtain ⟨lower, upper, first, second, _, _, encloses⟩ :=
    computes fiveNumbers fiveNumbers.fields fiveNumbers.summarizes
  exact ⟨_, returned, shown, pipeline, inside, lower, upper, first, second,
    encloses.mpr (.inr usual)⟩

/-- Whiskers of a length below zero end inside the box. -/
theorem LayerRequest.draw_whiskers_negative : ∃ drawing,
    ((⟨.boxplot, [("whisker", .real (-1.0))]⟩ : LayerRequest).draw groupedTable
        { style := {} }).Returns drawing ∧
      drawing.graphics ≠ [] ∧ ∃ pipeline ∈ drawing.pipelines, ∃ lower upper : ℚ,
        fiveNumbers.fields.compute pipeline.steps "lower_whisker" = some (.number lower) ∧
        fiveNumbers.fields.compute pipeline.steps "upper_whisker" = some (.number upper) ∧
        ¬ (lower ≤ fiveNumbers.lowerQuartile ∧ fiveNumbers.upperQuartile ≤ upper) := by
  have finite : (-1.0 : Binary64).isFinite = true := by decide +kernel
  have negative : (-1.0 : Binary64).lessThan .zero = true := by decide +kernel
  generalize (-1.0 : Binary64) = factor at finite negative ⊢
  have taken : Members.realOr [("whisker", .real factor)] "whisker" 1.5 = factor :=
    Members.realOr_of_real rfl finite
  have small : ¬ ∃ given ∈ Members.get? [("whisker", .real factor)] "whisker", given.IsHuge := by
    rintro ⟨_, ⟨⟩, huge⟩
    cases huge
  obtain ⟨colors, returned⟩ := @boxplot_returns groupedTable _ rfl small
  rw [taken] at returned
  obtain ⟨lower, upper, first, second, _, _, encloses⟩ :=
    @boxPipeline_encloses groupedTable _ _ _ finite fiveNumbers.summarizes
  refine ⟨_, returned, List.cons_ne_nil _ _, _, List.mem_cons_self .., lower, upper, first, second,
    fun enclosed => ?_⟩
  rcases encloses.mp enclosed with flat | kept
  · exact absurd flat (by decide)
  · rw [negative] at kept
    cases kept

end ChartCompiler
