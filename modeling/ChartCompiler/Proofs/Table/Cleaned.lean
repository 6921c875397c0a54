import ChartCompiler.Proofs.Table.MissingColors
import ChartCompiler.Proofs.Table.Reordering

/-!
# Cleaned rows

The columns of a projected table can be bound again. Nothing is left to be cleaned in them: numbers
are finite, labels are texts that label themselves, and a missing color has become the text of its
label. So they have the same table, but for the order of the color domain, as labels of numbers are
texts now.
-/

namespace ChartCompiler

/-! ## Columns of a table -/

/-- The color of a row as an entry of a column. -/
def Row.colorEntry (row : Row) : Value := (row.color.map .text).getD .null

/-- The columns of a table: x, y and, if there are color groups, the colors. -/
def Table.cleanedColumns (table : Table) : BoundColumns :=
  { x := table.rows.map (·.x.toValue)
    y := table.rows.map (·.y.toValue)
    color := if table.hasColorGroup then some (table.rows.map Row.colorEntry) else none
    ymin := none
    ymax := none }

theorem Cell.isSized_toValue (cell : Cell) : cell.toValue.IsSized := by
  cases cell <;> exact ⟨trivial, nofun⟩

theorem Row.eq_of_unbounded {row : Row} (low : row.ymin = none) (high : row.ymax = none) :
    row = { x := row.x, y := row.y, color := row.color } := by
  cases row
  cases low
  cases high
  rfl

theorem Row.isSized_colorEntry (row : Row) : row.colorEntry.IsSized := by
  unfold colorEntry
  cases row.color <;> exact ⟨trivial, nofun⟩

namespace FieldKind

/-- A cell of a field of a kind becomes itself again in a field of this kind. -/
theorem Holds.cell?_toValue {kind : FieldKind} {cell : Cell} (holds : kind.Holds cell) :
    kind.cell? cell.toValue = some cell := by
  cases kind with
  | continuous =>
      obtain ⟨value, rfl, finite⟩ := holds
      have kept : Projection.finite? value = some value := if_pos finite
      exact (cell?_real value).trans (congrArg (Option.map Cell.number) kept)
  | categorical =>
      obtain ⟨label, rfl⟩ := holds
      rfl

/-- Cells of a field of a kind are entries of a field of this kind again, if there are any. -/
theorem told_of_holds {kind : FieldKind} {cells : List Cell} (filled : cells ≠ [])
    (holds : ∀ cell ∈ cells, kind.Holds cell) {numeric : Bool}
    (told : (Value.list (cells.map Cell.toValue)).holdsNumbers = .ok numeric) :
    FieldKind.ofNumeric numeric = kind := by
  have sized : ∀ entry ∈ cells.map Cell.toValue, entry.IsSized :=
    List.forall_mem_map.mpr fun cell _ => cell.isSized_toValue
  obtain ⟨first, inside⟩ := List.exists_mem_of_ne_nil cells filled
  have listed : first.toValue ∈ cells.map Cell.toValue := List.mem_map_of_mem inside
  cases kind with
  | continuous =>
      have number : ∀ entry ∈ cells.map Cell.toValue,
          entry.isText = false ∧ entry.isBool = false := by
        refine List.forall_mem_map.mpr fun cell member => ?_
        obtain ⟨value, rfl, _⟩ := holds cell member
        exact ⟨rfl, rfl⟩
      have present : ∃ entry ∈ cells.map Cell.toValue, entry.isMissing ≠ .ok true := by
        obtain ⟨value, rfl, finite⟩ := holds first inside
        refine ⟨_, listed, fun missing => ?_⟩
        rcases Value.isMissing_iff.mp missing with same | same <;> cases same
        cases finite
      have known := Value.areNumbers_of_present sized present
      have texts : (cells.map Cell.toValue).any Value.isText = false :=
        List.any_eq_false.mpr fun entry member => by simp [(number entry member).1]
      have truths : (cells.map Cell.toValue).any Value.isBool = false :=
        List.any_eq_false.mpr fun entry member => by simp [(number entry member).2]
      rw [texts, truths, Value.areNumbers, told] at known
      rw [show numeric = true from known]
      rfl
  | categorical =>
      obtain ⟨label, rfl⟩ := holds first inside
      cases numeric with
      | false => rfl
      | true => exact absurd trivial (Value.not_isNamed_of_holdsNumbers told _ listed)

end FieldKind

namespace Table

variable {table : Table}

theorem cleanedColumns_even : table.cleanedColumns.IsEven table.rows.length := by
  unfold BoundColumns.IsEven BoundColumns.fields cleanedColumns
  cases table.hasColorGroup <;> simp

theorem cleanedColumns_sized : table.cleanedColumns.IsSized := by
  have cell (part : Row → Cell) : ∀ row ∈ table.rows, (part row).toValue.IsSized :=
    fun row _ => (part row).isSized_toValue
  have color : ∀ row ∈ table.rows, row.colorEntry.IsSized := fun row _ => row.isSized_colorEntry
  unfold BoundColumns.IsSized BoundColumns.fields cleanedColumns
  cases table.hasColorGroup with
  | false => simpa using ⟨cell Row.x, cell Row.y⟩
  | true => simpa using ⟨cell Row.x, cell Row.y, color⟩

/-- The color of a row labels itself. -/
theorem Aligned.labelAt_cleaned {columns : BoundColumns} (aligned : table.Aligned columns)
    (grouped : table.hasColorGroup = true) {place : Nat} {row : Row}
    (found : table.rows[place]? = some row) : table.cleanedColumns.labelAt place = row.color := by
  have colored := aligned.colors row (List.mem_of_getElem? found)
  rw [grouped] at colored
  obtain ⟨label, same⟩ := Option.isSome_iff_exists.mp colored
  have entry : BoundColumns.entryAt? table.cleanedColumns.color place = some (.text label) := by
    rw [cleanedColumns, if_pos grouped]
    change (table.rows.map Row.colorEntry)[place]? = _
    rw [List.getElem?_map, found, Option.map_some, Row.colorEntry, same]
    rfl
  rw [BoundColumns.labelAt, entry, same]
  rfl

end Table

namespace Projection

/-- Without one of the bounds there are no intervals. -/
theorem Steps.hasInterval_of_unbound {bindings : Bindings} {columns : BoundColumns} {table : Table}
    (steps : Steps bindings columns table)
    (unbound : bindings.ymin = none ∨ bindings.ymax = none) : table.hasInterval = false := by
  have missing : steps.low = none ∨ steps.high = none := by
    rcases unbound with low | high
    · have read := steps.lows
      rw [low] at read
      exact .inl (Except.ok.inj read).symm
    · have read := steps.highs
      rw [high] at read
      exact .inr (Except.ok.inj read).symm
  rw [steps.interval, steps.bounded]
  split
  · rw [isSome_keptBounds]
    rcases missing with low | high
    · rw [low, Option.isSome_none, Bool.false_and]
    · rw [high, Option.isSome_none, Bool.and_false]
  · rfl

section

variable {bindings : Bindings} {columns : BoundColumns} {table again : Table}
  (steps : Steps bindings columns table) (of : columns.Of bindings)
  (others : Steps table.cleanedColumns.bindings table.cleanedColumns again)
  (aligned : table.Aligned columns) (filled : table.rows ≠ [])

include others aligned filled

/-! ## Kinds and cells -/

theorem Steps.again_kinds : again.xKind = table.xKind ∧ again.yKind = table.yKind := by
  have even := @Table.cleanedColumns_even table
  have kind {part : Row → Cell} {kind : FieldKind} {numeric : Bool}
      (holds : ∀ row ∈ table.rows, kind.Holds (part row))
      (told : (Value.list (table.rows.map fun row => (part row).toValue)).holdsNumbers =
        .ok numeric) : FieldKind.ofNumeric numeric = kind := by
    have cells : table.rows.map part ≠ [] := by simpa using filled
    refine FieldKind.told_of_holds cells (List.forall_mem_map.mpr holds) ?_
    rwa [List.map_map]
  have xTold := others.xTold
  have yTold := others.yTold
  rw [even.take_eq BoundColumns.x_mem_fields] at xTold
  rw [even.take_eq BoundColumns.y_mem_fields] at yTold
  rw [others.xKind, others.yKind]
  exact ⟨kind aligned.xs xTold, kind aligned.ys yTold⟩

/-- Each place of the columns of a table has the cells of its row again. -/
theorem Steps.again_cellsAt {place : Nat} {row : Row} (found : table.rows[place]? = some row) :
    table.cleanedColumns.cellsAt again place = some (row.x, row.y) := by
  have inside := List.mem_of_getElem? found
  obtain ⟨xKind, yKind⟩ := others.again_kinds aligned filled
  rw [BoundColumns.cellsAt_eq_some_iff, xKind, yKind]
  unfold Table.cleanedColumns
  rw [List.getElem?_map, List.getElem?_map, found]
  exact ⟨(aligned.xs row inside).cell?_toValue, (aligned.ys row inside).cell?_toValue⟩

theorem Steps.again_keptPlaces :
    table.cleanedColumns.keptPlaces again = List.range table.rows.length := by
  unfold BoundColumns.keptPlaces
  rw [Table.cleanedColumns_even.count_eq]
  refine List.filter_eq_self.mpr fun place near => ?_
  have found := List.getElem?_eq_getElem (List.mem_range.mp near)
  rw [others.again_cellsAt aligned filled found]
  rfl

/-! ## Groups -/

theorem Steps.again_labels (grouped : table.hasColorGroup = true) :
    others.labels = table.rows.filterMap (·.color) := by
  have listed := congrArg (List.filterMap id) (others.labels_eq (if_pos grouped))
  rw [others.again_keptPlaces aligned filled, List.filterMap_map, List.filterMap_map] at listed
  rw [← filterMap_range fun _ _ => aligned.labelAt_cleaned grouped]
  exact List.filterMap_some.symm.trans listed

include steps of

/-- The labels of the colors are the same, and so is whether there are several. -/
theorem Steps.again_groups : again.hasColorGroup = table.hasColorGroup ∧
    again.colorDomain.Perm table.colorDomain := by
  cases grouped : table.hasColorGroup with
  | false =>
      have uncolored := others.ungrouped (if_neg (by simp [grouped]))
      have single := steps.colorGroup
      rw [grouped] at single
      rw [others.colorGroup, others.colors, steps.colors, uncolored,
        if_neg (of_decide_eq_false single.symm)]
      exact ⟨rfl, .refl _⟩
  | true =>
      have several : 1 < steps.domain.length :=
        of_decide_eq_true (steps.colorGroup.symm.trans grouped)
      obtain ⟨entries, bound⟩ : ∃ entries, columns.color = some entries := by
        rw [← Option.ne_none_iff_exists']
        intro unbound
        rw [steps.ungrouped unbound] at several
        cases several
      obtain ⟨numeric, _, domain⟩ := others.domain_eq (if_pos grouped)
      have same : others.domain.Perm table.colorDomain := by
        rw [domain, List.perm_ext_iff_of_nodup (nodup_colorDomain _ _) (steps.once bound)]
        intro label
        rw [mem_colorDomain, others.again_labels aligned filled grouped, List.mem_filterMap,
          steps.mem_domain_iff_row of bound]
      have longer : 1 < others.domain.length := by
        rwa [same.length_eq, steps.colors, if_pos several]
      rw [others.colorGroup, others.colors, if_pos longer]
      exact ⟨decide_eq_true longer, same⟩

/-! ## Rows -/

theorem Steps.again_row? (plain : table.hasInterval = false) {place : Nat} {row : Row}
    (found : table.rows[place]? = some row) :
    table.cleanedColumns.row? again place = some row := by
  have inside := List.mem_of_getElem? found
  have color : table.cleanedColumns.colorAt again place = row.color := by
    rw [BoundColumns.colorAt, (steps.again_groups of others aligned filled).1]
    cases grouped : table.hasColorGroup with
    | false =>
        have known := aligned.colors row inside
        rw [grouped] at known
        exact (Option.not_isSome_iff_eq_none.mp (by simp [known])).symm
    | true => exact aligned.labelAt_cleaned grouped found
  have unbounded : row.ymin = none ∧ row.ymax = none := by
    rw [aligned.rows] at inside
    obtain ⟨origin, _, here⟩ := List.mem_filterMap.mp inside
    obtain ⟨_, _, rfl⟩ := Option.map_eq_some_iff.mp here
    unfold BoundColumns.boundAt
    rw [plain]
    exact ⟨rfl, rfl⟩
  have bound : BoundColumns.boundAt again none place = none := by
    unfold BoundColumns.boundAt
    split <;> rfl
  rw [BoundColumns.row?, others.again_cellsAt aligned filled found, Option.map_some, color]
  change some (Row.mk row.x row.y row.color (BoundColumns.boundAt again none place)
    (BoundColumns.boundAt again none place)) = _
  rw [bound]
  exact congrArg some (Row.eq_of_unbounded unbounded.1 unbounded.2).symm

theorem Steps.again_rows (plain : table.hasInterval = false) : again.rows = table.rows := by
  rw [others.rows_eq (BoundColumns.of_bindings _), Table.cleanedColumns_even.count_eq]
  exact (filterMap_range fun _ _ => steps.again_row? of others aligned filled plain).trans
    List.filterMap_some

/-- No row is dropped, and nothing is told. -/
theorem Steps.again_notes (plain : table.hasInterval = false) :
    again.droppedCount = 0 ∧ again.diagnostics = [] := by
  have even := @Table.cleanedColumns_even table
  have dropped : again.droppedCount = 0 := by
    rw [others.missing, ← others.length_rows (BoundColumns.of_bindings _),
      steps.again_rows of others aligned filled plain, even.count_eq, Nat.sub_self]
  have told := others.dropped
  rw [dropped] at told
  obtain ⟨lengths, lows, highs⟩ := others.bounded_notes even
  rw [others.diagnostics, lengths, lows, highs]
  exact ⟨dropped, (Except.ok.inj told).symm⟩

end

end Projection

open Projection

/-- The columns of a table without intervals have a table again. It has the same rows, of which none
is dropped and nothing is told, and the same kinds of fields and groups. -/
theorem Table.project_cleaned {bindings : Bindings} {table : Table}
    (returned : (Table.project bindings).Returns table)
    (unbound : bindings.ymin = none ∨ bindings.ymax = none) (filled : table.rows ≠ []) :
    ∃ again, (Table.project table.cleanedColumns.bindings).Returns again ∧
      again.rows = table.rows ∧ again.droppedCount = 0 ∧ again.diagnostics = [] ∧
      again.xKind = table.xKind ∧ again.yKind = table.yKind ∧
      again.hasColorGroup = table.hasColorGroup ∧ again.colorDomain.Perm table.colorDomain := by
  obtain ⟨columns, of, aligned⟩ := Table.project_aligned returned
  obtain ⟨steps⟩ := Table.project_stepsOf returned of
  obtain ⟨again, projected⟩ := (@Table.cleanedColumns_sized table).projected
  obtain ⟨others⟩ := Table.project_stepsOf projected (BoundColumns.of_bindings _)
  have plain := steps.hasInterval_of_unbound unbound
  obtain ⟨dropped, notes⟩ := steps.again_notes of others aligned filled plain
  obtain ⟨xKind, yKind⟩ := others.again_kinds aligned filled
  obtain ⟨groups, domain⟩ := steps.again_groups of others aligned filled
  exact ⟨again, projected, steps.again_rows of others aligned filled plain, dropped, notes, xKind,
    yKind, groups, domain⟩

/-- Missing colors have become texts. -/
theorem Table.project_cleaned_absent :
    (threeBindings absentColors).ymin = none ∧ absentTable.rows.length = 3 ∧
      ∃ again, (Table.project absentTable.cleanedColumns.bindings).Returns again ∧
        again.rows = absentTable.rows ∧ again.droppedCount = 0 ∧ again.diagnostics = [] ∧
        again.xKind = .continuous ∧ again.yKind = .continuous ∧ again.hasColorGroup = true ∧
        again.colorDomain.Perm ["a", "missing"] :=
  ⟨rfl, rfl, Table.project_cleaned absentColors_projected (.inl rfl) (List.cons_ne_nil _ _)⟩

end ChartCompiler
