import ChartCompiler.Proofs.Table.Agreement

/-!
# Colors of dropped rows

Two tables of the same fields, with colors that differ in dropped rows only, have the same rows and
groups. The labels of their color domains are the same, too, but the order of the labels depends on
whether all colors are numbers, those of the dropped rows included.
-/

namespace ChartCompiler

namespace BoundColumns

variable {bindings : Bindings} {first second : Value} {columns : BoundColumns}
  {colors entries : List Value}

/-- Columns with other colors. -/
def recolor (columns : BoundColumns) (entries : List Value) : BoundColumns :=
  { columns with color := some entries }

theorem Of.recolor (of : columns.Of { bindings with color := some first })
    (elements : second.elements? = some entries) :
    (columns.recolor entries).Of { bindings with color := some second } :=
  { x := of.x
    y := of.y
    color := congrArg some elements
    ymin := of.ymin
    ymax := of.ymax }

theorem recolor_count (bound : columns.color = some colors)
    (long : entries.length = colors.length) :
    (columns.recolor entries).count = columns.count := by
  unfold count recolor
  rw [bound]
  dsimp only
  rw [long]

theorem recolor_samePoints (bound : columns.color = some colors)
    (long : entries.length = colors.length) : columns.SamePoints (columns.recolor entries) :=
  ⟨recolor_count bound long, rfl, rfl⟩

end BoundColumns

namespace Projection

theorem Steps.recolor_bounds {bindings : Bindings} {first second : Value} {columns : BoundColumns}
    {entries : List Value} {left right : Table}
    (steps : Steps { bindings with color := some first } columns left)
    (others : Steps { bindings with color := some second } (columns.recolor entries) right)
    (same : columns.SamePoints (columns.recolor entries)) : others.bounds = steps.bounds := by
  have lows := others.lows
  have highs := others.highs
  rw [same.count] at lows highs
  have low := Except.ok.inj (lows.symm.trans steps.lows)
  have high := Except.ok.inj (highs.symm.trans steps.highs)
  obtain ⟨xCells, yCells⟩ := steps.same_cells others same
  rw [others.bounded, steps.bounded, low, high, xCells, yCells, (steps.same_numeric others same).2]

end Projection

open Projection

/-- The colors of dropped rows have no influence on the rows and groups of a table, and on the color
domain none but on its order. -/
theorem Table.project_recolor {bindings : Bindings} {first second : Value} {left right : Table}
    {columns : BoundColumns} {colors entries : List Value}
    (returned : (Table.project { bindings with color := some first }).Returns left)
    (other : (Table.project { bindings with color := some second }).Returns right)
    (of : columns.Of { bindings with color := some first }) (bound : columns.color = some colors)
    (elements : second.elements? = some entries) (long : entries.length = colors.length)
    (agree : ∀ place ∈ columns.keptPlaces left, entries[place]? = colors[place]?) :
    right.rows = left.rows ∧ right.hasColorGroup = left.hasColorGroup ∧
      right.colorDomain.Perm left.colorDomain ∧
      ((Value.list (entries.take columns.count)).holdsNumbers =
          (Value.list (colors.take columns.count)).holdsNumbers →
        right.colorDomain = left.colorDomain) := by
  obtain ⟨steps⟩ := Table.project_stepsOf returned of
  obtain ⟨others⟩ := Table.project_stepsOf other (of.recolor elements)
  have same := BoundColumns.recolor_samePoints bound long
  have labels := steps.same_labels others same bound rfl agree
  obtain ⟨xCells, yCells⟩ := steps.same_cells others same
  obtain ⟨numeric, told, domain⟩ := steps.domain_eq bound
  obtain ⟨otherNumeric, otherTold, otherDomain⟩ := others.domain_eq rfl
  rw [labels] at otherDomain
  rw [same.count] at otherTold
  have perm : others.domain.Perm steps.domain := by
    rw [domain, otherDomain]
    exact colorDomain_perm _ _ _
  have several : 1 < others.domain.length ↔ 1 < steps.domain.length := by rw [perm.length_eq]
  refine ⟨?_, ?_, ?_, fun alike => ?_⟩
  · rw [others.rows, steps.rows, xCells, yCells, labels, steps.recolor_bounds others same]
    simp only [several]
  · rw [others.colorGroup, steps.colorGroup]
    exact decide_eq_decide.mpr several
  · rw [others.colors, steps.colors]
    simp only [several]
    split
    · exact perm
    · exact .refl _
  · rw [told, otherTold] at alike
    rw [others.colors, steps.colors, domain, otherDomain, Except.ok.inj alike]

/-- Numbers, of which the third has no row. -/
def undefinedBindings : Bindings :=
  { x := .list [.real 1.0, .real 2.0, .real .nan]
    y := .list [.real 1.0, .real 2.0, .real 3.0] }

/-- The bindings with colors. -/
def coloredBindings (entries : List Value) : Bindings :=
  { undefinedBindings with color := some (.list entries) }

/-- The columns of the bindings. -/
def coloredColumns (entries : List Value) : BoundColumns :=
  { x := [.real 1.0, .real 2.0, .real .nan]
    y := [.real 1.0, .real 2.0, .real 3.0]
    color := some entries
    ymin := none
    ymax := none }

/-- The table of the bindings, with the labels of the two rows. -/
def coloredTable (first second : String) (colorDomain : List String) : Table :=
  { rows := [{ x := .number 1.0, y := .number 1.0, color := some first },
      { x := .number 2.0, y := .number 2.0, color := some second }]
    xKind := .continuous
    yKind := .continuous
    hasColorGroup := true
    colorDomain
    givenCount := 3
    droppedCount := 1
    diagnostics := [⟨"dropped-rows",
      "Removed 1 data points containing NaN or infinite values (2 remaining)", some 1⟩] }

theorem coloredColumns_of (entries : List Value) :
    (coloredColumns entries).Of (coloredBindings entries) := ⟨rfl, rfl, rfl, rfl, rfl⟩

theorem coloredBindings_projected {left right other : Value} {first second : String}
    {numeric : Bool} {least greatest : String}
    (labels : [left, right].mapM colorLabel = .ok [first, second])
    (told : (Value.list [left, right, other]).holdsNumbers = .ok numeric)
    (sorted : colorDomain [first, second] numeric = [least, greatest]) :
    (Table.project (coloredBindings [left, right, other])).Returns
      (coloredTable first second [least, greatest]) := by
  have undefined : finite? .nan = none := rfl
  have xCells : usableCells [.real 1.0, .real 2.0, .real .nan] true =
      .ok [some (.number 1.0), some (.number 2.0), none] :=
    (usableCells_reals [1.0, 2.0, .nan]).trans (by simp [finite?_literals, undefined])
  have yCells : usableCells [.real 1.0, .real 2.0, .real 3.0] true =
      .ok [some (.number 1.0), some (.number 2.0), some (.number 3.0)] :=
    (usableCells_reals [1.0, 2.0, 3.0]).trans (by simp [finite?_literals])
  have groups : colorGroups [left, right, other] [true, true, false] =
      .ok ([first, second], [least, greatest]) :=
    colorGroups_eq_ok_iff.mpr ⟨labels, numeric, told, sorted.symm⟩
  have notes : (droppedDiagnostics 1 2 true).Returns [⟨"dropped-rows",
      "Removed 1 data points containing NaN or infinite values (2 remaining)", some 1⟩] :=
    eq_ok_of_toOption (by decide)
  unfold Table.project
  simp only [Run.returns_bind, Run.returns_lift]
  refine ⟨_, rfl, _, rfl, _, rfl, _, rfl, _, rfl, _, rfl, true, rfl, true, rfl, _, xCells, _,
    yCells, _, notes, ?_⟩
  simp only [Run.returns_bind, Run.returns_lift]
  exact ⟨([first, second], [least, greatest]), groups, none, rfl, none, rfl, (), rfl, rfl⟩

/-- Colors of which the last one is a text. -/
def mixedColors : List Value := [.whole 2, .whole 10, .text "z"]

/-- The table with these colors. -/
def mixedTable : Table := coloredTable "2" "10" ["10", "2"]

/-- Colors of which only the last one differs. -/
def wholeColors : List Value := [.whole 2, .whole 10, .whole 5]

/-- The table with these colors. -/
def wholeTable : Table := coloredTable "2" "10" ["2", "10"]

/-- The first two places have a row, whatever their colors are. -/
theorem coloredColumns_keptPlaces (left right other : Value) (first second : String)
    (colorDomain : List String) : (coloredColumns [left, right, other]).keptPlaces
      (coloredTable first second colorDomain) = [0, 1] := by
  have undefined : finite? .nan = none := rfl
  change (List.range 3).filter _ = _
  simp [BoundColumns.cellsAt, coloredColumns, coloredTable, FieldKind.cell?_real, undefined,
    finite?_literals, List.range_succ]

theorem labels_two_ten : [Value.whole 2, .whole 10].mapM colorLabel = .ok ["2", "10"] := by
  have short : ∀ value ∈ ([2, 10] : List Int), value.natAbs ≤ 2 ^ 4 := by decide
  have texts : ([2, 10] : List Int).map toString = ["2", "10"] := by decide
  rw [← texts]
  exact @Value.mapM_colorLabel_wholes [2, 10] fun value inside =>
    Binary64.ofInt?_ne_none (short value inside) (by decide)

theorem mixedColors_projected :
    (Table.project (coloredBindings mixedColors)).Returns mixedTable := by
  have sorted : colorDomain ["2", "10"] false = ["10", "2"] :=
    colorDomain_pair (by decide) (by decide)
  exact coloredBindings_projected labels_two_ten rfl sorted

theorem wholeColors_projected :
    (Table.project (coloredBindings wholeColors)).Returns wholeTable := by
  have sorted : colorDomain ["2", "10"] true = ["2", "10"] :=
    List.mergeSort_of_pairwise (by decide +kernel)
  exact coloredBindings_projected labels_two_ten rfl sorted

/-- The colors agree wherever there is a row. -/
theorem wholeColors_agree : ∀ place ∈ (coloredColumns mixedColors).keptPlaces mixedTable,
    wholeColors[place]? = mixedColors[place]? := by
  rw [mixedColors, mixedTable, coloredColumns_keptPlaces]
  exact List.forall_mem_cons.mpr ⟨rfl, List.forall_mem_singleton.mpr rfl⟩

theorem Table.project_recolor_mixed : wholeTable.rows = mixedTable.rows ∧
    wholeTable.hasColorGroup = mixedTable.hasColorGroup ∧
    wholeTable.colorDomain.Perm mixedTable.colorDomain ∧
    ((Value.list wholeColors).holdsNumbers = (Value.list mixedColors).holdsNumbers →
      wholeTable.colorDomain = mixedTable.colorDomain) :=
  Table.project_recolor mixedColors_projected wholeColors_projected (coloredColumns_of mixedColors)
    rfl rfl rfl wholeColors_agree

/-- The color of a dropped row may change the order of the color domain. -/
theorem Table.project_recolor_order :
    (Table.project (coloredBindings mixedColors)).Returns mixedTable ∧
      (Table.project (coloredBindings wholeColors)).Returns wholeTable ∧
      (coloredColumns mixedColors).Of (coloredBindings mixedColors) ∧
      (∀ place ∈ (coloredColumns mixedColors).keptPlaces mixedTable,
        wholeColors[place]? = mixedColors[place]?) ∧
      wholeTable.colorDomain ≠ mixedTable.colorDomain :=
  ⟨mixedColors_projected, wholeColors_projected, coloredColumns_of mixedColors, wholeColors_agree,
    by decide⟩

end ChartCompiler
