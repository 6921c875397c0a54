import ChartCompiler.Proofs.Table.Agreement
import ChartCompiler.Proofs.Table.Completion

/-!
# Entries beyond the last row

The fields of a table are cut to their common length. Entries of x, y and the color beyond it change
nothing but the note about them. Those of a bound may change whether the bound is taken for numbers,
which is decided by all its entries.
-/

namespace ChartCompiler

/-- A row without its bounds. -/
def Row.point (row : Row) : Row := { row with ymin := none, ymax := none }

namespace BoundColumns

/-- Columns of which each is cut to the number of places that count. -/
def cut (columns : BoundColumns) : BoundColumns :=
  { x := columns.x.take columns.count
    y := columns.y.take columns.count
    color := columns.color.map (·.take columns.count)
    ymin := columns.ymin.map (·.take columns.count)
    ymax := columns.ymax.map (·.take columns.count) }

theorem length_cut_x (columns : BoundColumns) : columns.cut.x.length = columns.count :=
  List.length_take_of_le columns.count_le_x

theorem length_cut_y (columns : BoundColumns) : columns.cut.y.length = columns.count :=
  List.length_take_of_le columns.count_le_y

theorem length_cut_color {columns : BoundColumns} {entries : List Value}
    (bound : columns.cut.color = some entries) : entries.length = columns.count := by
  obtain ⟨all, found, rfl⟩ := Option.map_eq_some_iff.mp bound
  exact List.length_take_of_le (count_le_color found)

theorem cut_count (columns : BoundColumns) : columns.cut.count = columns.count := by
  conv_lhs => unfold count
  rw [columns.length_cut_x, columns.length_cut_y, Nat.min_self]
  cases bound : columns.cut.color with
  | none => rfl
  | some entries =>
      dsimp only
      rw [length_cut_color bound, Nat.min_self]

theorem cut_lengths (columns : BoundColumns) :
    ∀ length ∈ columns.cut.lengths, length = columns.cut.count := by
  unfold lengths
  rw [columns.length_cut_x, columns.length_cut_y, columns.cut_count]
  cases bound : columns.cut.color with
  | none => simp
  | some entries => simp [length_cut_color bound]

theorem cut_samePoints (columns : BoundColumns) : columns.SamePoints columns.cut :=
  ⟨columns.cut_count, List.take_take.trans (by rw [Nat.min_self]),
    List.take_take.trans (by rw [Nat.min_self])⟩

theorem entryAt?_take (column : Option (List Value)) {count place : Nat} (near : place < count) :
    entryAt? (column.map (·.take count)) place = entryAt? column place := by
  cases column with
  | none => rfl
  | some entries => exact List.getElem?_take_of_lt near

/-- Whether a bound is taken for numbers with or without the entries from a place on. -/
def KeepsKind (bound : Option (List Value)) (count : Nat) : Prop :=
  ∀ entries ∈ bound, Value.areNumbers (entries.take count) = Value.areNumbers entries

/-- Whether the bounds are of one kind with or without the entries that do not count. -/
structure KeepsBounds (columns : BoundColumns) : Prop where
  ymin : KeepsKind columns.ymin columns.count
  ymax : KeepsKind columns.ymax columns.count

theorem Scalar.cut {columns : BoundColumns} (scalar : columns.Scalar) : columns.cut.Scalar := by
  have optional {column : Option (List Value)}
      (single : ∀ entries ∈ column, ∀ entry ∈ entries, entry.IsScalar) :
      ∀ entries ∈ column.map (·.take columns.count), ∀ entry ∈ entries, entry.IsScalar := by
    intro entries found entry inside
    obtain ⟨all, bound, rfl⟩ := Option.map_eq_some_iff.mp found
    exact single all bound entry (List.mem_of_mem_take inside)
  exact ⟨fun entry inside => scalar.x entry (List.mem_of_mem_take inside),
    fun entry inside => scalar.y entry (List.mem_of_mem_take inside), optional scalar.color,
    optional scalar.ymin, optional scalar.ymax⟩

theorem isUsableAt_cut (columns : BoundColumns) {place : Nat} (near : place < columns.count) :
    columns.cut.isUsableAt place = columns.isUsableAt place := by
  have same := columns.cut_samePoints
  unfold isUsableAt xKind yKind
  rw [same.count, same.x, same.y, Projection.getElem?_of_take_eq same.x near,
    Projection.getElem?_of_take_eq same.y near]

theorem usedColors_cut (columns : BoundColumns) : columns.cut.usedColors = columns.usedColors := by
  have usable : (List.range columns.cut.count).map columns.cut.isUsableAt =
      (List.range columns.count).map columns.isUsableAt := by
    rw [columns.cut_count]
    exact List.map_congr_left fun place inside =>
      columns.isUsableAt_cut (List.mem_range.mp inside)
  unfold usedColors
  rw [usable, columns.cut_count]
  unfold cut
  cases columns.color with
  | none => rfl
  | some entries =>
      dsimp only [Option.map_some]
      rw [List.take_take, Nat.min_self]

theorem usedBounds_take {bound : Option (List Value)} {count : Nat} (kept : KeepsKind bound count) :
    usedBounds (bound.map (·.take count)) count = usedBounds bound count := by
  cases bound with
  | none => rfl
  | some entries =>
      unfold usedBounds
      dsimp only [Option.map_some]
      rw [kept entries rfl, List.take_take, Nat.min_self]

/-- No other entries are read if the bounds keep their kinds. -/
theorem KeepsBounds.read_cut {columns : BoundColumns} (kept : columns.KeepsBounds) :
    columns.cut.read = columns.read := by
  have same := columns.cut_samePoints
  have low := usedBounds_take kept.ymin
  have high := usedBounds_take kept.ymax
  unfold read
  rw [columns.usedColors_cut, same.count, same.x, same.y]
  unfold cut
  rw [low, high]

end BoundColumns

namespace Projection

/-! ## Bounds -/

theorem boundDiagnostics_take (name : String) (bound : Option (List Value)) (count : Nat) :
    boundDiagnostics name ((bound.map (·.take count)).map .list) count =
      boundDiagnostics name (bound.map .list) count := by
  cases bound with
  | none => rfl
  | some entries =>
      rcases Nat.lt_or_ge entries.length count with short | long
      · rw [Option.map_some, List.take_of_length_le (Nat.le_of_lt short)]
      · change (if (entries.take count).length < count then _ else _ : Run (List Diagnostic)) =
          (if entries.length < count then _ else _ : Run (List Diagnostic))
        rw [if_neg (by rw [List.length_take]; omega), if_neg (by omega)]

/-! ## Cut columns -/

section

variable {columns : BoundColumns} {table shown : Table}
  (steps : Steps columns.bindings columns table)
  (others : Steps columns.cut.bindings columns.cut shown)

include steps others

theorem Steps.cut_groups :
    shown.hasColorGroup = table.hasColorGroup ∧ shown.colorDomain = table.colorDomain := by
  have same := columns.cut_samePoints
  apply steps.groups_of_domain others
  cases bound : columns.color with
  | none =>
      have otherBound : columns.cut.color = none := by rw [BoundColumns.cut, bound]; rfl
      rw [others.ungrouped otherBound, steps.ungrouped bound]
  | some entries =>
      have otherBound : columns.cut.color = some (entries.take columns.count) := by
        rw [BoundColumns.cut, bound]
        rfl
      have labels := steps.same_labels others same bound otherBound fun place inside =>
        List.getElem?_take_of_lt (List.mem_range.mp (List.mem_filter.mp inside).1)
      obtain ⟨numeric, told, domain⟩ := steps.domain_eq bound
      obtain ⟨otherNumeric, otherTold, otherDomain⟩ := others.domain_eq otherBound
      rw [same.count, List.take_take, Nat.min_self, told] at otherTold
      rw [domain, otherDomain, labels, Except.ok.inj otherTold]

theorem Steps.cut_summary : shown.SameSummary table := by
  have same := columns.cut_samePoints
  obtain ⟨xKind, yKind⟩ := steps.same_kinds others same
  obtain ⟨hasColorGroup, colorDomain⟩ := steps.cut_groups others
  obtain ⟨given, dropped⟩ := steps.same_dropped others same
  exact ⟨xKind, yKind, hasColorGroup, colorDomain, given, dropped⟩

theorem Steps.cut_colorAt {place : Nat} (near : place < columns.count) :
    columns.cut.colorAt shown place = columns.colorAt table place := by
  unfold BoundColumns.colorAt
  rw [(steps.cut_groups others).1]
  change (if _ then (BoundColumns.entryAt? (columns.color.map (List.take columns.count)) place).bind _
    else none) = _
  rw [BoundColumns.entryAt?_take columns.color near]

theorem Steps.cut_points : shown.rows.map Row.point = table.rows.map Row.point := by
  rw [others.rows_eq columns.cut.of_bindings, steps.rows_eq columns.of_bindings,
    columns.cut_count, List.map_filterMap, List.map_filterMap]
  refine List.filterMap_congr fun place inside => ?_
  have near := List.mem_range.mp inside
  unfold BoundColumns.row?
  rw [steps.same_cellsAt others columns.cut_samePoints near, steps.cut_colorAt others near,
    Option.map_map, Option.map_map]
  rfl

/-- The rows are the same with their bounds, if both tables have intervals or none has. -/
theorem Steps.cut_rows (interval : shown.hasInterval = table.hasInterval) :
    shown.rows = table.rows := by
  rw [others.rows_eq columns.cut.of_bindings, steps.rows_eq columns.of_bindings, columns.cut_count]
  refine List.filterMap_congr fun place inside => ?_
  have near := List.mem_range.mp inside
  have bounds (column : Option (List Value)) :
      BoundColumns.boundAt shown (column.map (·.take columns.count)) place =
        BoundColumns.boundAt table column place := by
    unfold BoundColumns.boundAt
    rw [interval, BoundColumns.entryAt?_take column near]
  have low := bounds columns.ymin
  have high := bounds columns.ymax
  unfold BoundColumns.row?
  rw [steps.same_cellsAt others columns.cut_samePoints near, steps.cut_colorAt others near]
  unfold BoundColumns.cut
  rw [low, high]

theorem Steps.cut_diagnostics : table.diagnostics = steps.lengthNotes ++ shown.diagnostics := by
  have lows := others.lowShort
  have highs := others.highShort
  rw [columns.cut_count] at lows highs
  have low := boundDiagnostics_take "ymin" columns.ymin columns.count
  have high := boundDiagnostics_take "ymax" columns.ymax columns.count
  have lowNotes : others.lowNotes = steps.lowNotes := (low ▸ lows).unique steps.lowShort
  have highNotes : others.highNotes = steps.highNotes := (high ▸ highs).unique steps.highShort
  have lengthNotes : others.lengthNotes = [] :=
    lengthDiagnostics_even columns.cut_lengths others.differing
  rw [steps.diagnostics, others.diagnostics, lengthNotes, lowNotes, highNotes,
    steps.same_droppedNotes others columns.cut_samePoints, List.nil_append, List.append_assoc,
    List.append_assoc, List.append_assoc]

theorem Steps.cut_hasInterval (kept : columns.KeepsBounds) :
    shown.hasInterval = table.hasInterval := by
  have any {bound : Option (List Value)} (same : BoundColumns.KeepsKind bound columns.count) :
      (bound.map (·.take columns.count)).any Value.areNumbers = bound.any Value.areNumbers := by
    cases bound with
    | none => rfl
    | some entries => exact same entries rfl
  rw [others.hasInterval_eq, steps.hasInterval_eq,
    (steps.same_numeric others columns.cut_samePoints).2, ← any kept.ymin, ← any kept.ymax]
  rfl

end

end Projection

open Projection

/-- Entries beyond the last place that counts have no influence on a table but for the note about
them and for what bounds are taken for. -/
theorem Table.project_cut {columns : BoundColumns} {table : Table} (scalar : columns.Scalar)
    (returned : (Table.project columns.bindings).Returns table) :
    (columns.KeepsBounds → ∃ shown, (Table.project columns.cut.bindings).Returns shown) ∧
      ∀ shown, (Table.project columns.cut.bindings).Returns shown →
        shown.SameSummary table ∧ shown.rows.map Row.point = table.rows.map Row.point ∧
        (∃ notes, table.diagnostics = notes ++ shown.diagnostics ∧
          ∀ note ∈ notes, note.kind = "length-mismatch") ∧
        (columns.KeepsBounds → shown.hasInterval = table.hasInterval) ∧
        (shown.hasInterval = table.hasInterval → shown.rows = table.rows) := by
  constructor
  · intro kept
    rcases Table.project_completes scalar.cut with ⟨large, _⟩ | ⟨_, completed⟩
    · have tooLarge : columns.TooLarge := by
        unfold BoundColumns.TooLarge at large ⊢
        rwa [kept.read_cut] at large
      rcases Table.project_completes scalar with ⟨_, failed⟩ | ⟨small, _⟩
      · exact absurd failed (returned.not_fails _)
      · exact absurd tooLarge small
    · exact completed
  · intro shown other
    obtain ⟨steps⟩ := Table.project_stepsOf returned columns.of_bindings
    obtain ⟨others⟩ := Table.project_stepsOf other columns.cut.of_bindings
    refine ⟨steps.cut_summary others, steps.cut_points others,
      ⟨steps.lengthNotes, steps.cut_diagnostics others, fun note inside => ?_⟩,
      steps.cut_hasInterval others, steps.cut_rows others⟩
    exact lengthDiagnostics_kind steps.differing note inside

/-- The last y does not count, and the bounds are short. -/
theorem Table.project_cut_ragged : raggedColumns.Scalar ∧ raggedColumns.KeepsBounds ∧
    (Table.project raggedColumns.bindings).Returns raggedTable ∧
    (raggedColumns.KeepsBounds →
      ∃ shown, (Table.project raggedColumns.cut.bindings).Returns shown) ∧
    ∀ shown, (Table.project raggedColumns.cut.bindings).Returns shown →
      shown.SameSummary raggedTable ∧ shown.rows.map Row.point = raggedTable.rows.map Row.point ∧
      (∃ notes, raggedTable.diagnostics = notes ++ shown.diagnostics ∧
        ∀ note ∈ notes, note.kind = "length-mismatch") ∧
      (raggedColumns.KeepsBounds → shown.hasInterval = raggedTable.hasInterval) ∧
      (shown.hasInterval = raggedTable.hasInterval → shown.rows = raggedTable.rows) :=
  ⟨raggedColumns_scalar, ⟨fun _ same => by cases same; rfl, fun _ same => by cases same; rfl⟩,
    raggedBindings_projected, Table.project_cut raggedColumns_scalar raggedBindings_projected⟩

/-- Two points with bounds. -/
def boundedColumns (low : List Value) : BoundColumns :=
  { x := [.real 1.0, .real 2.0]
    y := [.real 1.0, .real 2.0]
    color := none
    ymin := some low
    ymax := some [.real 2.0, .real 3.0] }

/-- Lower bounds with a text that belongs to no point. -/
def spoiledColumns : BoundColumns := boundedColumns [.real 0.5, .real 1.0, .text "a"]

/-- The table of the points without their bounds. -/
def unboundedTable : Table :=
  { rows := [{ x := .number 1.0, y := .number 1.0 }, { x := .number 2.0, y := .number 2.0 }]
    xKind := .continuous
    yKind := .continuous
    givenCount := 2 }

/-- The table of the points with their bounds. -/
def boundedTable : Table :=
  { unboundedTable with
    rows := [{ x := .number 1.0, y := .number 1.0, ymin := some 0.5, ymax := some 2.0 },
      { x := .number 2.0, y := .number 2.0, ymin := some 1.0, ymax := some 3.0 }]
    hasInterval := true }

theorem boundedColumns_projected {low : List Value} {values : Option (List Binary64)} {table : Table}
    (long : ¬ low.length < 2) (read : boundEntries (some (.list low)) 2 = .ok values)
    (rows : { unboundedTable with
      rows := rowsOf [(.number 1.0, .number 1.0), (.number 2.0, .number 2.0)] [none, none]
        ((keptBounds [true, true] values (some [2.0, 3.0])).getD [(none, none), (none, none)])
      hasInterval := (keptBounds [true, true] values (some [2.0, 3.0])).isSome } = table) :
    (Table.project (boundedColumns low).bindings).Returns table := by
  have cells : usableCells [.real 1.0, .real 2.0] true =
      .ok [some (.number 1.0), some (.number 2.0)] :=
    (usableCells_reals [1.0, 2.0]).trans (by simp [finite?_literals])
  have notes : (boundDiagnostics "ymin" (some (.list low)) 2).Returns [] := by
    change (if low.length < 2 then _ else _ : Run (List Diagnostic)).Returns []
    rw [if_neg long]
    rfl
  unfold Table.project
  simp only [Run.returns_bind, Run.returns_lift]
  refine ⟨_, rfl, _, rfl, _, rfl, _, rfl, _, notes, _, rfl, true, rfl, true, rfl, _, cells, _,
    cells, _, rfl, ?_⟩
  simp only [Run.returns_bind, Run.returns_lift]
  exact ⟨_, rfl, _, read, some [2.0, 3.0], rfl, (), rfl, congrArg Except.ok rows⟩

/-- A text that belongs to no row costs all rows their bounds. -/
theorem Table.project_cut_spoiled :
    (Table.project spoiledColumns.bindings).Returns unboundedTable ∧
      (Table.project spoiledColumns.cut.bindings).Returns boundedTable ∧
      spoiledColumns.Scalar ∧ unboundedTable.hasInterval ≠ boundedTable.hasInterval ∧
      unboundedTable.rows ≠ boundedTable.rows := by
  refine ⟨boundedColumns_projected (by decide) rfl rfl, ?_, ?_, ?_, ?_⟩
  · refine boundedColumns_projected (by decide) rfl ?_
    unfold boundedTable unboundedTable
    simp [keptBounds, keep, finite?_literals]
    rfl
  · refine ⟨?_, ?_, ?_, ?_, ?_⟩ <;> simp [spoiledColumns, boundedColumns, Value.IsScalar]
  · decide
  · simp [unboundedTable, boundedTable]

end ChartCompiler
