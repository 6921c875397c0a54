import ChartCompiler.Proofs.Table.Places

/-!
# Rows and the entries that they are made of

Each row of a projected table takes all that it holds from one place of the bound fields. The rows
are those of the places with usable entries, in order, and all other places are counted as dropped.
-/

namespace ChartCompiler

/-- Whether the rows of a table are those of the places of columns, and the counts are right. -/
structure Table.Aligned (table : Table) (columns : BoundColumns) : Prop where
  rows : table.rows = (List.range columns.count).filterMap (columns.row? table)
  xs : ∀ row ∈ table.rows, table.xKind.Holds row.x
  ys : ∀ row ∈ table.rows, table.yKind.Holds row.y
  colors : ∀ row ∈ table.rows, row.color.isSome = table.hasColorGroup
  given : table.givenCount = columns.count
  dropped : table.rows.length + table.droppedCount = columns.count
  notes : (table.diagnostics.filter (·.kind = "dropped-rows")).map (·.count) =
    if table.droppedCount = 0 then [] else [some (table.droppedCount : Int)]

namespace Projection

/-! ## Steps -/

/-- What is found on the way from columns to a table. -/
structure Steps (bindings : Bindings) (columns : BoundColumns) (table : Table) where
  xNumeric : Bool
  yNumeric : Bool
  xCells : List (Option Cell)
  yCells : List (Option Cell)
  labels : List String
  domain : List String
  low : Option (List Binary64)
  high : Option (List Binary64)
  bounds : Option (List (Option Binary64 × Option Binary64))
  lengthNotes : List Diagnostic
  lowNotes : List Diagnostic
  highNotes : List Diagnostic
  droppedNotes : List Diagnostic
  xTold : (Value.list (columns.x.take columns.count)).holdsNumbers = .ok xNumeric
  yTold : (Value.list (columns.y.take columns.count)).holdsNumbers = .ok yNumeric
  xUsable : usableCells (columns.x.take columns.count) xNumeric = .ok xCells
  yUsable : usableCells (columns.y.take columns.count) yNumeric = .ok yCells
  grouped : ∀ entries, columns.color = some entries →
    colorGroups (entries.take columns.count) (marksOf xCells yCells) = .ok (labels, domain)
  ungrouped : columns.color = none → domain = []
  lows : boundEntries bindings.ymin columns.count = .ok low
  highs : boundEntries bindings.ymax columns.count = .ok high
  differing : (lengthDiagnostics columns.lengths columns.count).Returns lengthNotes
  lowShort : (boundDiagnostics "ymin" bindings.ymin columns.count).Returns lowNotes
  highShort : (boundDiagnostics "ymax" bindings.ymax columns.count).Returns highNotes
  dropped : (droppedDiagnostics table.droppedCount (pairsOf xCells yCells).length
    (xNumeric && yNumeric)).Returns droppedNotes
  diagnostics : table.diagnostics = lengthNotes ++ lowNotes ++ highNotes ++ droppedNotes
  xKind : table.xKind = .ofNumeric xNumeric
  yKind : table.yKind = .ofNumeric yNumeric
  colorGroup : table.hasColorGroup = decide (1 < domain.length)
  colors : table.colorDomain = if 1 < domain.length then domain else []
  bounded : bounds = if yNumeric then keptBounds (marksOf xCells yCells) low high else none
  interval : table.hasInterval = bounds.isSome
  given : table.givenCount = columns.count
  missing : table.droppedCount = columns.count - (pairsOf xCells yCells).length
  rows : table.rows = rowsOf (pairsOf xCells yCells)
    (if 1 < domain.length then labels.map some
      else List.replicate (pairsOf xCells yCells).length none)
    (bounds.getD (List.replicate (pairsOf xCells yCells).length (none, none)))

/-- The entries of a field that need not be bound. -/
theorem mapM_entriesOf {field : Option Value} {entries : Option (List Value)}
    (found : (field.mapM fun field => (liftM (entriesOf field) : Run _)).Returns entries) :
    field.map Value.elements? = entries.map some := by
  cases field with
  | none =>
      cases found
      rfl
  | some field =>
      change ((liftM (entriesOf field) : Run _) >>= fun listed => pure (some listed)).Returns
        entries at found
      simp only [Run.returns_bind, Run.returns_lift, Run.returns_pure] at found
      rcases found with ⟨listed, found, rfl⟩
      exact congrArg some (entriesOf_eq_ok_iff.mp found)

theorem boundDiagnostics_entries {name : String} {binding : Option Value} {count : Nat}
    {notes : List Diagnostic} (returned : (boundDiagnostics name binding count).Returns notes) :
    ∃ entries : Option (List Value), binding.map Value.elements? = entries.map some := by
  cases binding with
  | none => exact ⟨none, rfl⟩
  | some field =>
      simp only [boundDiagnostics, Run.returns_bind, Run.returns_lift] at returned
      rcases returned with ⟨entries, found, _⟩
      exact ⟨some entries, congrArg some (entriesOf_eq_ok_iff.mp found)⟩

theorem count_eq (columns : BoundColumns) :
    ([columns.x.length, columns.y.length] ++ (columns.color.map List.length).toList).foldl min
      columns.x.length = columns.count := by
  unfold BoundColumns.count
  cases columns.color with
  | none => simp
  | some color => simp

end Projection

open Projection

/-- The steps from bound fields to a table. -/
theorem Table.project_steps {bindings : Bindings} {table : Table}
    (returned : (Table.project bindings).Returns table) :
    ∃ columns : BoundColumns, columns.Of bindings ∧ Nonempty (Steps bindings columns table) := by
  unfold Table.project at returned
  simp only [Run.returns_bind, Run.returns_lift] at returned
  rcases returned with ⟨allX, foundX, allY, foundY, allColor, foundColor, lengthNotes, lengths,
    yminNotes, ymin, ymaxNotes, ymax, xNumeric, xTold, yNumeric, yTold, xCells, xUsable, yCells,
    yUsable, droppedNotes, dropped, returned⟩
  rcases boundDiagnostics_entries ymin with ⟨allLow, lowest⟩
  rcases boundDiagnostics_entries ymax with ⟨allHigh, highest⟩
  have counted := count_eq ⟨allX, allY, allColor, allLow, allHigh⟩
  dsimp only at counted
  rw [counted] at lengths ymin ymax xTold yTold xUsable yUsable dropped returned
  refine ⟨⟨allX, allY, allColor, allLow, allHigh⟩, ⟨entriesOf_eq_ok_iff.mp foundX,
    entriesOf_eq_ok_iff.mp foundY, mapM_entriesOf foundColor, lowest, highest⟩, ?_⟩
  cases allColor with
  | none =>
      simp only [Run.returns_bind, Run.returns_lift, Run.returns_pure] at returned
      rcases returned with ⟨_, rfl, low, lows, high, highs, _, _, rfl⟩
      exact ⟨⟨xNumeric, yNumeric, xCells, yCells, [], [], low, high, _, lengthNotes, yminNotes,
        ymaxNotes, droppedNotes, xTold, yTold, xUsable, yUsable, (by rintro _ ⟨⟩), fun _ => rfl, lows,
        highs, lengths, ymin, ymax, dropped, rfl, rfl, rfl, rfl, rfl, rfl, rfl, rfl, rfl, rfl⟩⟩
  | some allColor =>
      simp only [Run.returns_bind, Run.returns_lift, Run.returns_pure] at returned
      rcases returned with ⟨⟨labels, domain⟩, grouped, low, lows, high, highs, _, _, rfl⟩
      refine ⟨⟨xNumeric, yNumeric, xCells, yCells, labels, domain, low, high, _, lengthNotes,
        yminNotes, ymaxNotes, droppedNotes, xTold, yTold, xUsable, yUsable, ?_, (by rintro ⟨⟩), lows,
        highs, lengths, ymin, ymax, dropped, rfl, rfl, rfl, rfl, rfl, rfl, rfl, rfl, rfl, rfl⟩⟩
      rintro _ ⟨⟩
      exact grouped

/-- There are steps to a table from the only columns that fields hold. -/
theorem Table.project_stepsOf {bindings : Bindings} {columns : BoundColumns} {table : Table}
    (returned : (Table.project bindings).Returns table) (of : columns.Of bindings) :
    Nonempty (Projection.Steps bindings columns table) := by
  obtain ⟨found, ofFound, steps⟩ := Table.project_steps returned
  rwa [ofFound.unique of] at steps

namespace Projection

section

variable {bindings : Bindings} {columns : BoundColumns} {table : Table}
  (steps : Steps bindings columns table)

include steps

theorem Steps.kept {found : List (Option Binary64 × Option Binary64)}
    (given : steps.bounds = some found) :
    keptBounds (marksOf steps.xCells steps.yCells) steps.low steps.high = some found := by
  rw [steps.bounded] at given
  split at given
  · exact given
  · cases given

theorem Steps.xCells_eq : steps.xCells =
    (List.range columns.count).map fun place => columns.x[place]?.bind table.xKind.cell? := by
  rw [usableCells_eq steps.xUsable, ← steps.xKind, map_take _ columns.count_le_x]

theorem Steps.yCells_eq : steps.yCells =
    (List.range columns.count).map fun place => columns.y[place]?.bind table.yKind.cell? := by
  rw [usableCells_eq steps.yUsable, ← steps.yKind, map_take _ columns.count_le_y]

theorem Steps.pairs_eq : pairsOf steps.xCells steps.yCells =
    (List.range columns.count).filterMap (columns.cellsAt table) := by
  rw [steps.xCells_eq, steps.yCells_eq, pairsOf_places]
  rfl

theorem Steps.marks_eq : marksOf steps.xCells steps.yCells =
    (List.range columns.count).map fun place => (columns.cellsAt table place).isSome := by
  rw [steps.xCells_eq, steps.yCells_eq, marksOf_places]
  rfl

/-- There are as many usable pairs of cells as there are kept places. -/
theorem Steps.length_pairs :
    (pairsOf steps.xCells steps.yCells).length = (columns.keptPlaces table).length := by
  rw [steps.pairs_eq, List.length_filterMap_eq_countP, List.countP_eq_length_filter]
  rfl

/-- The labels of the kept places. -/
theorem Steps.labels_eq {entries : List Value} (bound : columns.color = some entries) :
    steps.labels.map some = (columns.keptPlaces table).map columns.labelAt := by
  have labelled := (colorGroups_eq_ok_iff.mp (steps.grouped entries bound)).1
  rw [steps.marks_eq] at labelled
  unfold BoundColumns.labelAt
  rw [bound]
  exact labels_places (BoundColumns.count_le_color bound) labelled

theorem Steps.colors_eq :
    (if 1 < steps.domain.length then steps.labels.map some
      else List.replicate (pairsOf steps.xCells steps.yCells).length none) =
      (columns.keptPlaces table).map (columns.colorAt table) := by
  have colored : columns.colorAt table = fun place =>
      if 1 < steps.domain.length then columns.labelAt place else none := by
    funext place
    unfold BoundColumns.colorAt
    simp only [steps.colorGroup, decide_eq_true_eq]
    rfl
  rw [colored, steps.length_pairs]
  split
  · next several =>
      cases bound : columns.color with
      | none =>
          rw [steps.ungrouped bound] at several
          cases several
      | some entries => exact steps.labels_eq bound
  · exact (List.map_const' ..).symm

theorem Steps.bounds_eq (of : columns.Of bindings) :
    steps.bounds.getD (List.replicate (pairsOf steps.xCells steps.yCells).length (none, none)) =
      (columns.keptPlaces table).map fun place =>
        (BoundColumns.boundAt table columns.ymin place,
          BoundColumns.boundAt table columns.ymax place) := by
  unfold BoundColumns.boundAt
  rw [steps.interval, steps.length_pairs]
  cases given : steps.bounds with
  | none => exact (List.map_const' ..).symm
  | some bounds =>
      have found := steps.kept given
      rw [steps.marks_eq] at found
      refine keptBounds_places found (fun values same => ?_) fun values same => ?_
      · exact boundEntries_finite of.ymin (same ▸ steps.lows)
      · exact boundEntries_finite of.ymax (same ▸ steps.highs)

theorem Steps.rows_eq (of : columns.Of bindings) :
    table.rows = (List.range columns.count).filterMap (columns.row? table) := by
  rw [steps.rows, steps.colors_eq, steps.bounds_eq of, steps.pairs_eq]
  exact rowsOf_filterMap _ _ _ _

theorem Steps.length_rows (of : columns.Of bindings) :
    table.rows.length = (pairsOf steps.xCells steps.yCells).length := by
  rw [steps.rows, steps.colors_eq, steps.bounds_eq of]
  refine length_rowsOf ?_ ?_ <;> rw [List.length_map, steps.length_pairs]

theorem Steps.lengthNotes_kind : ∀ note ∈ steps.lengthNotes ++ steps.lowNotes ++ steps.highNotes,
    note.kind = "length-mismatch" := by
  intro note inside
  rcases List.mem_append.mp inside with inside | inside
  · rcases List.mem_append.mp inside with inside | inside
    · exact lengthDiagnostics_kind steps.differing note inside
    · exact boundDiagnostics_kind steps.lowShort note inside
  · exact boundDiagnostics_kind steps.highShort note inside

/-- Rows that are dropped are told once, and nothing else is told so. -/
theorem Steps.notes_eq : (table.diagnostics.filter (·.kind = "dropped-rows")).map (·.count) =
    if table.droppedCount = 0 then [] else [some (table.droppedCount : Int)] := by
  have others : (steps.lengthNotes ++ steps.lowNotes ++ steps.highNotes).filter
      (·.kind = "dropped-rows") = [] := by
    refine List.filter_eq_nil_iff.mpr fun note inside same => ?_
    rw [steps.lengthNotes_kind note inside] at same
    exact absurd same (by decide)
  have own : steps.droppedNotes.filter (·.kind = "dropped-rows") = steps.droppedNotes :=
    List.filter_eq_self.mpr fun note inside =>
      decide_eq_true (droppedDiagnostics_kind steps.dropped note inside)
  rw [steps.diagnostics, List.filter_append, others, own, List.nil_append]
  exact droppedDiagnostics_counts steps.dropped

end

end Projection

/-- A table that is projected has a row for each place of the bound fields with usable entries. -/
theorem Table.project_aligned {bindings : Bindings} {table : Table}
    (returned : (Table.project bindings).Returns table) :
    ∃ columns : BoundColumns, columns.Of bindings ∧ table.Aligned columns := by
  rcases Table.project_steps returned with ⟨columns, of, ⟨steps⟩⟩
  have rows := steps.rows_eq of
  have placed : ∀ row ∈ table.rows, table.xKind.Holds row.x ∧ table.yKind.Holds row.y := by
    intro row inside
    rw [rows] at inside
    rcases List.mem_filterMap.mp inside with ⟨place, _, here⟩
    rcases Option.map_eq_some_iff.mp here with ⟨⟨x, y⟩, cells, rfl⟩
    rcases BoundColumns.cellsAt_eq_some_iff.mp cells with ⟨x_found, y_found⟩
    rcases Option.bind_eq_some_iff.mp x_found with ⟨_, _, x_valid⟩
    rcases Option.bind_eq_some_iff.mp y_found with ⟨_, _, y_valid⟩
    exact ⟨FieldKind.holds_of_cell? x_valid, FieldKind.holds_of_cell? y_valid⟩
  have colored : ∀ row ∈ table.rows, row.color.isSome = table.hasColorGroup := by
    intro row inside
    cases grouped : table.hasColorGroup with
    | true =>
        rcases (Table.project_sound returned).color grouped row inside with ⟨label, same⟩
        rw [same]
        rfl
    | false =>
        rw [rows] at inside
        rcases List.mem_filterMap.mp inside with ⟨place, _, here⟩
        rcases Option.map_eq_some_iff.mp here with ⟨cells, _, rfl⟩
        dsimp only
        rw [BoundColumns.colorAt, grouped]
        rfl
  have few : table.rows.length ≤ columns.count := by
    have := List.length_filterMap_le (columns.row? table) (List.range columns.count)
    rwa [← rows, List.length_range] at this
  refine ⟨columns, of, rows, fun row inside => (placed row inside).1,
    fun row inside => (placed row inside).2, colored, steps.given, ?_, steps.notes_eq⟩
  rw [steps.missing, ← steps.length_rows of, Nat.add_sub_cancel' few]

/-- The numbers of the tables that are computed are finite. -/
theorem Projection.finite?_literals : finite? 0.5 = some 0.5 ∧ finite? 1.0 = some 1.0 ∧
    finite? 2.0 = some 2.0 ∧ finite? 3.0 = some 3.0 ∧ finite? 4.0 = some 4.0 := by
  decide +kernel

/-- Categories of which one is missing, with a value too many and with bounds too few. -/
def raggedBindings : Bindings :=
  { x := .list [.text "a", .null, .text "b"]
    y := .list [.real 1.0, .real 2.0, .real 4.0, .real 8.0]
    color := some (.list [.text "g", .text "i", .text "h"])
    ymin := some (.list [.real 0.5, .real 1.0])
    ymax := some (.list [.real 2.0]) }

/-- The table of the bindings. -/
def raggedTable : Table :=
  { rows := [
      { x := .label "a", y := .number 1.0, color := some "g", ymin := some 0.5, ymax := some 2.0 },
      { x := .label "b", y := .number 4.0, color := some "h" }]
    xKind := .categorical
    yKind := .continuous
    hasColorGroup := true
    colorDomain := ["g", "h"]
    hasInterval := true
    givenCount := 3
    droppedCount := 1
    diagnostics := [
      ⟨"length-mismatch", "Field bindings differ in length [3, 4, 3]; truncated to 3 rows", some 1⟩,
      ⟨"length-mismatch", "Binding 'ymin' has 2 of 3 values; missing bounds left unset", some 1⟩,
      ⟨"length-mismatch", "Binding 'ymax' has 1 of 3 values; missing bounds left unset", some 2⟩,
      ⟨"dropped-rows",
        "Removed 1 data points containing missing or non-finite values (2 remaining)", some 1⟩] }

open Projection in
theorem raggedBindings_projected : (Table.project raggedBindings).Returns raggedTable := by
  have domain : colorDomain ["g", "h"] false = ["g", "h"] := by
    unfold colorDomain
    exact List.mergeSort_of_pairwise (by decide +kernel)
  have cells : usableCells [.real 1.0, .real 2.0, .real 4.0] true =
      .ok [some (.number 1.0), some (.number 2.0), some (.number 4.0)] :=
    (usableCells_reals [1.0, 2.0, 4.0]).trans (by simp [finite?_literals])
  have groups : Projection.colorGroups [.text "g", .text "i", .text "h"] [true, false, true]
      = .ok (["g", "h"], ["g", "h"]) := by
    change Except.ok (["g", "h"], colorDomain ["g", "h"] false) = _
    rw [domain]
  unfold Table.project
  simp only [Run.returns_bind, Run.returns_lift]
  refine ⟨_, rfl, _, rfl, _, rfl, _, rfl, _, rfl, _, rfl, false, rfl, true, rfl, _, rfl, _, cells,
    _, rfl, ?_⟩
  simp only [Run.returns_bind, Run.returns_lift]
  refine ⟨(["g", "h"], ["g", "h"]), groups, _, rfl, _, rfl, (), rfl, ?_⟩
  unfold raggedTable
  rw [Run.returns_pure, Table.mk.injEq]
  decide +kernel

/-- The second place has no row, and the third one no bounds. -/
theorem project_aligned_ragged : (Table.project raggedBindings).Returns raggedTable ∧
    ∃ columns : BoundColumns, columns.Of raggedBindings ∧ raggedTable.Aligned columns :=
  ⟨raggedBindings_projected, Table.project_aligned raggedBindings_projected⟩

end ChartCompiler
