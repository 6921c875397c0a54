import ChartCompiler.Proofs.Field.Missing
import ChartCompiler.Proofs.Table.Colors

/-!
# Missing colors

Rows without a color share a group. It has a label like all other groups, and so rows whose color is
the text of that label are in it, too.
-/

namespace ChartCompiler

namespace Value

/-- Whether an entry is missing or a text. -/
def IsOptionalText (entry : Value) : Prop :=
  entry.isMissing = .ok true ∨ ∃ content, entry = .text content

/-- Whether two colors belong together: both are missing, or they are one text. -/
def SameColor (left right : Value) : Prop :=
  (left.isMissing = .ok true ∧ right.isMissing = .ok true) ∨
    ∃ content, left = .text content ∧ right = .text content

/-- Whether a color is missing and another one is the text that missing colors are shown as. -/
def ShownAs (missing color : Value) : Prop :=
  missing.isMissing = .ok true ∧ color = .text missingLabel

@[simp] theorem color?_null : Value.null.color? = some missingLabel := rfl

@[simp] theorem color?_undefined : (Value.real .nan).color? = some missingLabel := rfl

@[simp] theorem color?_text (content : String) : (Value.text content).color? = some content := rfl

theorem color?_eq_iff {left right : Value} (first : left.IsOptionalText)
    (second : right.IsOptionalText) : left.color? = right.color? ↔
      left.SameColor right ∨ left.ShownAs right ∨ right.ShownAs left := by
  unfold SameColor ShownAs
  unfold IsOptionalText at first second
  simp only [isMissing_iff] at first second ⊢
  rcases first with (rfl | rfl) | ⟨content, rfl⟩ <;>
    rcases second with (rfl | rfl) | ⟨other, rfl⟩ <;> simp <;> exact eq_comm

end Value

/-- The color that is bound to the row at an index. -/
def BoundColumns.rowColor? (columns : BoundColumns) (table : Table) (index : Nat) : Option Value :=
  (columns.keptPlaces table)[index]?.bind (entryAt? columns.color)

namespace Projection

variable {bindings : Bindings} {columns : BoundColumns} {table : Table} {entries : List Value}
  (steps : Steps bindings columns table)

include steps

/-- Each row of a table with groups has the label of the color that is bound to it. -/
theorem Steps.rowColor (of : columns.Of bindings) (bound : columns.color = some entries)
    (grouped : table.hasColorGroup = true) {index : Nat} {row : Row}
    (found : table.rows[index]? = some row) : ∃ entry ∈ entries,
      columns.rowColor? table index = some entry ∧ entry.color? = row.color := by
  have colors := congrArg (·[index]?) (steps.colors_rows of)
  rw [List.getElem?_map, List.getElem?_map, found, Option.map_some] at colors
  obtain ⟨place, kept, color⟩ := Option.map_eq_some_iff.mp colors.symm
  unfold BoundColumns.colorAt at color
  rw [if_pos grouped] at color
  obtain ⟨label, _, labelled⟩ := steps.labelled bound place (List.mem_of_getElem? kept)
  obtain ⟨entry, there, _⟩ := Option.bind_eq_some_iff.mp labelled
  refine ⟨entry, ?_, ?_, ?_⟩
  · rw [bound] at there
    exact List.mem_of_getElem? there
  · rw [BoundColumns.rowColor?, kept]
    exact there
  · rw [there] at color
    exact color

end Projection

/-- Rows of one group have the same text as their color, or none has a color, or one of them has no
color and the other one the text that stands for it. -/
theorem Table.project_missingColors {bindings : Bindings} {columns : BoundColumns} {table : Table}
    {entries : List Value} (returned : (Table.project bindings).Returns table)
    (of : columns.Of bindings) (bound : columns.color = some entries)
    (optional : ∀ entry ∈ entries, entry.IsOptionalText) (grouped : table.hasColorGroup = true)
    {first second : Nat} {row other : Row} (here : table.rows[first]? = some row)
    (there : table.rows[second]? = some other) :
    ∃ left right, columns.rowColor? table first = some left ∧
      columns.rowColor? table second = some right ∧
      (row.color = other.color ↔ left.SameColor right ∨ left.ShownAs right ∨ right.ShownAs left) := by
  obtain ⟨steps⟩ := Table.project_stepsOf returned of
  obtain ⟨left, leftInside, leftBound, leftColor⟩ := steps.rowColor of bound grouped here
  obtain ⟨right, rightInside, rightBound, rightColor⟩ := steps.rowColor of bound grouped there
  refine ⟨left, right, leftBound, rightBound, ?_⟩
  rw [← leftColor, ← rightColor]
  exact Value.color?_eq_iff (optional left leftInside) (optional right rightInside)

/-- Three points with colors. -/
def threeBindings (entries : List Value) : Bindings :=
  { x := .list [.real 1.0, .real 2.0, .real 3.0]
    y := .list [.real 1.0, .real 2.0, .real 3.0]
    color := some (.list entries) }

/-- The columns of the three points. -/
def threeColumns (entries : List Value) : BoundColumns :=
  { x := [.real 1.0, .real 2.0, .real 3.0]
    y := [.real 1.0, .real 2.0, .real 3.0]
    color := some entries
    ymin := none
    ymax := none }

/-- The table of the three points, with their labels. -/
def threeTable (first second third : String) (colorDomain : List String) : Table :=
  { rows := [{ x := .number 1.0, y := .number 1.0, color := some first },
      { x := .number 2.0, y := .number 2.0, color := some second },
      { x := .number 3.0, y := .number 3.0, color := some third }]
    xKind := .continuous
    yKind := .continuous
    hasColorGroup := true
    colorDomain
    givenCount := 3 }

theorem threeColumns_of (entries : List Value) :
    (threeColumns entries).Of (threeBindings entries) := ⟨rfl, rfl, rfl, rfl, rfl⟩

theorem threeBindings_projected {one two three : Value} {first second third : String}
    {numeric : Bool} {least greatest : String}
    (labels : [one, two, three].mapM colorLabel = .ok [first, second, third])
    (told : (Value.list [one, two, three]).holdsNumbers = .ok numeric)
    (sorted : colorDomain [first, second, third] numeric = [least, greatest]) :
    (Table.project (threeBindings [one, two, three])).Returns
      (threeTable first second third [least, greatest]) := by
  have cells : Projection.usableCells [.real 1.0, .real 2.0, .real 3.0] true =
      .ok [some (.number 1.0), some (.number 2.0), some (.number 3.0)] :=
    (Projection.usableCells_reals [1.0, 2.0, 3.0]).trans (by simp [Projection.finite?_literals])
  have groups : Projection.colorGroups [one, two, three] [true, true, true] =
      .ok ([first, second, third], [least, greatest]) :=
    Projection.colorGroups_eq_ok_iff.mpr ⟨labels, numeric, told, sorted.symm⟩
  unfold Table.project
  simp only [Run.returns_bind, Run.returns_lift]
  refine ⟨_, rfl, _, rfl, _, rfl, _, rfl, _, rfl, _, rfl, true, rfl, true, rfl, _, cells, _,
    cells, _, rfl, ?_⟩
  simp only [Run.returns_bind, Run.returns_lift]
  exact ⟨([first, second, third], [least, greatest]), groups, none, rfl, none, rfl, (), rfl, rfl⟩

/-- Colors of which two are missing. -/
def absentColors : List Value := [.null, .text "a", .real .nan]

/-- The table with these colors. -/
def absentTable : Table := threeTable "missing" "a" "missing" ["a", "missing"]

theorem absentColors_projected :
    (Table.project (threeBindings absentColors)).Returns absentTable := by
  have sorted : colorDomain ["missing", "a", "missing"] false = ["a", "missing"] :=
    colorDomain_pair (by decide) (by decide)
  exact threeBindings_projected (eq_ok_of_toOption (by decide)) rfl sorted

/-- The first and the last row have no color, and so they are in one group. -/
theorem Table.project_missingColors_absent :
    (Table.project (threeBindings absentColors)).Returns absentTable ∧
    ∃ row other, absentTable.rows[0]? = some row ∧ absentTable.rows[2]? = some other ∧
    ∃ left right, (threeColumns absentColors).rowColor? absentTable 0 = some left ∧
      (threeColumns absentColors).rowColor? absentTable 2 = some right ∧
      (row.color = other.color ↔
        left.SameColor right ∨ left.ShownAs right ∨ right.ShownAs left) := by
  have optional : ∀ entry ∈ absentColors, entry.IsOptionalText := by
    simp [absentColors, Value.IsOptionalText, Value.isMissing_iff]
  exact ⟨absentColors_projected, _, _, rfl, rfl, Table.project_missingColors absentColors_projected
    (threeColumns_of _) rfl optional rfl rfl rfl⟩

/-- Colors of which one is missing and one is the text that stands for it. -/
def sentinelColors : List Value := [.null, .text "missing", .text "b"]

/-- The table with these colors. -/
def sentinelTable : Table := threeTable "missing" "missing" "b" ["b", "missing"]

theorem sentinelColors_projected :
    (Table.project (threeBindings sentinelColors)).Returns sentinelTable := by
  have sorted : colorDomain ["missing", "missing", "b"] false = ["b", "missing"] :=
    colorDomain_pair (by decide) (by decide)
  exact threeBindings_projected (eq_ok_of_toOption (by decide)) rfl sorted

/-- A row without a color and a row with a text as its color are in one group. -/
theorem Table.project_missingColors_sentinel :
    (Table.project (threeBindings sentinelColors)).Returns sentinelTable ∧
      (threeColumns sentinelColors).Of (threeBindings sentinelColors) ∧
      (∀ entry ∈ sentinelColors, entry.IsOptionalText) ∧ sentinelTable.hasColorGroup = true ∧
      (threeColumns sentinelColors).rowColor? sentinelTable 0 = some .null ∧
      (threeColumns sentinelColors).rowColor? sentinelTable 1 = some (.text "missing") ∧
      sentinelTable.rows.map (·.color) = [some "missing", some "missing", some "b"] ∧
      ¬ Value.null.SameColor (.text "missing") := by
  have kept : (threeColumns sentinelColors).keptPlaces sentinelTable = [0, 1, 2] := by
    change (List.range 3).filter _ = _
    simp [BoundColumns.cellsAt, threeColumns, sentinelTable, threeTable, FieldKind.cell?_real,
      Projection.finite?_literals, List.range_succ]
  refine ⟨sentinelColors_projected, threeColumns_of _, ?_, rfl, ?_, ?_, rfl, ?_⟩
  · simp [sentinelColors, Value.IsOptionalText, Value.isMissing_iff]
  · rw [BoundColumns.rowColor?, kept]
    rfl
  · rw [BoundColumns.rowColor?, kept]
    rfl
  · simp [Value.SameColor, Value.isMissing_iff]

end ChartCompiler
