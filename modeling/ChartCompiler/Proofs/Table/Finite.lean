import ChartCompiler.Drawing.Bins
import ChartCompiler.Proofs.Table.Alignment
import ChartCompiler.Proofs.Value.Finite

/-!
# Finite numbers in tables

The rows of a projected table hold finite numbers only, and so do the extents of its fields, but not
always the differences of its fields.
-/

namespace ChartCompiler

/-- Whether the rows of a table hold labels and finite numbers, as the kinds of its fields say. -/
structure Table.Holds (table : Table) : Prop where
  x : ∀ row ∈ table.rows, table.xKind.Holds row.x
  y : ∀ row ∈ table.rows, table.yKind.Holds row.y
  ymin : ∀ row ∈ table.rows, ∀ bound ∈ row.ymin, bound.isFinite = true
  ymax : ∀ row ∈ table.rows, ∀ bound ∈ row.ymax, bound.isFinite = true

theorem Projection.isFinite_of_finite? {value bound : Binary64}
    (found : Projection.finite? value = some bound) : bound.isFinite = true := by
  unfold Projection.finite? at found
  split at found
  · next finite => exact Option.some.inj found ▸ finite
  · cases found

theorem BoundColumns.boundAt_isFinite {table : Table} {column : Option (List Value)} {place : Nat} :
    ∀ bound ∈ BoundColumns.boundAt table column place, bound.isFinite = true := by
  intro bound found
  unfold BoundColumns.boundAt at found
  split at found
  · rcases Option.bind_eq_some_iff.mp found with ⟨entry, _, taken⟩
    rcases Option.bind_eq_some_iff.mp taken with ⟨value, _, finite⟩
    exact Projection.isFinite_of_finite? finite
  · cases found

theorem Table.project_holds {bindings : Bindings} {table : Table}
    (returned : (Table.project bindings).Returns table) : table.Holds := by
  rcases Table.project_steps returned with ⟨columns, of, ⟨steps⟩⟩
  have made : ∀ row ∈ table.rows, ∃ place, columns.row? table place = some row := by
    intro row inside
    rw [steps.rows_eq of] at inside
    rcases List.mem_filterMap.mp inside with ⟨place, _, here⟩
    exact ⟨place, here⟩
  have cells : ∀ row ∈ table.rows, table.xKind.Holds row.x ∧ table.yKind.Holds row.y := by
    intro row inside
    rcases made row inside with ⟨place, here⟩
    rcases Option.map_eq_some_iff.mp here with ⟨⟨x, y⟩, found, rfl⟩
    rcases BoundColumns.cellsAt_eq_some_iff.mp found with ⟨atX, atY⟩
    rcases Option.bind_eq_some_iff.mp atX with ⟨_, _, validX⟩
    rcases Option.bind_eq_some_iff.mp atY with ⟨_, _, validY⟩
    exact ⟨FieldKind.holds_of_cell? validX, FieldKind.holds_of_cell? validY⟩
  refine ⟨fun row inside => (cells row inside).1, fun row inside => (cells row inside).2, ?_, ?_⟩
  all_goals
    intro row inside
    rcases made row inside with ⟨place, here⟩
    rcases Option.map_eq_some_iff.mp here with ⟨_, _, rfl⟩
    exact BoundColumns.boundAt_isFinite

/-! ## Rows -/

theorem FieldKind.Holds.onlyFinite {kind : FieldKind} {cell : Cell} (holds : kind.Holds cell) :
    cell.toValue.OnlyFinite := by
  cases kind with
  | continuous =>
      rcases holds with ⟨value, rfl, finite⟩
      simpa [Cell.toValue] using finite
  | categorical =>
      rcases holds with ⟨label, rfl⟩
      simp [Cell.toValue]

/-- The rows of a document hold only finite numbers. -/
theorem Table.Holds.records {table : Table} (holds : table.Holds) :
    ∀ row ∈ table.records, row.OnlyFinite := by
  refine List.forall_mem_map.mpr fun row inside => ?_
  have x := (holds.x row inside).onlyFinite
  have y := (holds.y row inside).onlyFinite
  have low := holds.ymin row inside
  have high := holds.ymax row inside
  simp only [Option.mem_def] at low high
  simp [Row.toMembers, x, y]
  exact ⟨low, high⟩

/-! ## Extents -/

namespace Extent

theorem foldl_mem {choose : Binary64 → Binary64 → Binary64}
    (chosen : ∀ left right, choose left right = left ∨ choose left right = right)
    (first : Binary64) (rest : List Binary64) : rest.foldl choose first ∈ first :: rest := by
  induction rest generalizing first with
  | nil => exact List.mem_singleton_self _
  | cons next others induction =>
      rw [List.foldl_cons]
      rcases List.mem_cons.mp (induction (choose first next)) with same | later
      · rcases chosen first next with left | right
        · rw [same, left]
          exact List.mem_cons_self ..
        · rw [same, right]
          exact List.mem_cons_of_mem _ (List.mem_cons_self ..)
      · simp [later]

theorem lesser_chosen (left right : Binary64) :
    lesser left right = left ∨ lesser left right = right := by
  unfold lesser
  split <;> simp

theorem greater_chosen (left right : Binary64) :
    greater left right = left ∨ greater left right = right := by
  unfold greater
  split <;> simp

/-- The least and the greatest of numbers are among them. -/
theorem of?_mem {values : List Binary64} {extent : Extent} (found : of? values = some extent) :
    extent.least ∈ values ∧ extent.greatest ∈ values := by
  cases values with
  | nil => cases found
  | cons first rest =>
      cases found
      exact ⟨foldl_mem lesser_chosen first rest, foldl_mem greater_chosen first rest⟩

theorem of?_isSome {values : List Binary64} (filled : values ≠ []) :
    ∃ extent, of? values = some extent := by
  cases values with
  | nil => exact absurd rfl filled
  | cons first rest => exact ⟨_, rfl⟩

/-- Whether both ends of an extent are finite. -/
def OnlyFinite (extent : Extent) : Prop :=
  extent.least.isFinite = true ∧ extent.greatest.isFinite = true

theorem isFinite_of_cells {rows : List Row} {cell : Row → Cell}
    (numbers : ∀ row ∈ rows, ∃ value, cell row = .number value ∧ value.isFinite = true) :
    ∀ value ∈ rows.filterMap (fun row => (cell row).number?), value.isFinite = true := by
  intro value inside
  rcases List.mem_filterMap.mp inside with ⟨row, listed, taken⟩
  rcases numbers row listed with ⟨number, same, finite⟩
  rw [same] at taken
  cases taken
  exact finite

/-- The extent of a field of finite numbers. -/
theorem onlyFinite_of_cells {rows : List Row} {cell : Row → Cell}
    (numbers : ∀ row ∈ rows, ∃ value, cell row = .number value ∧ value.isFinite = true)
    {extent : Extent} (found : of? (rows.filterMap fun row => (cell row).number?) = some extent) :
    extent.OnlyFinite := by
  rcases of?_mem found with ⟨least, greatest⟩
  exact ⟨isFinite_of_cells numbers _ least, isFinite_of_cells numbers _ greatest⟩

/-- Widening does not leave the range. -/
theorem OnlyFinite.withWidth {extent : Extent} (finite : extent.OnlyFinite) :
    extent.withWidth.OnlyFinite := by
  unfold Extent.withWidth
  split
  · exact finite
  · exact ⟨Binary64.isFinite_add_of_half finite.1 Binary64.half_within.negate,
      Binary64.isFinite_add_of_half finite.2 Binary64.half_within⟩

end Extent

namespace Table.Holds

variable {table : Table} (holds : table.Holds)

include holds

theorem xNumber (numeric : table.xIsNumeric = true) :
    ∀ row ∈ table.rows, ∃ value, row.x = .number value ∧ value.isFinite = true := by
  intro row inside
  have kind := holds.x row inside
  rwa [of_decide_eq_true numeric] at kind

theorem yNumber (numeric : table.yIsNumeric = true) :
    ∀ row ∈ table.rows, ∃ value, row.y = .number value ∧ value.isFinite = true := by
  intro row inside
  have kind := holds.y row inside
  rwa [of_decide_eq_true numeric] at kind

theorem xExtent : ∀ extent ∈ table.xExtent, extent.OnlyFinite := by
  intro extent found
  unfold Table.xExtent at found
  split at found
  · next numeric => exact Extent.onlyFinite_of_cells (holds.xNumber numeric) found
  · cases found

theorem yExtent : ∀ extent ∈ table.yExtent, extent.OnlyFinite := by
  intro extent found
  unfold Table.yExtent at found
  split at found
  · next numeric => exact Extent.onlyFinite_of_cells (holds.yNumber numeric) found
  · cases found

end Table.Holds

end ChartCompiler
