import ChartCompiler.Proofs.Log.Outcome
import ChartCompiler.Table.Projection

/-!
# Tables that are projected

A projected table is sound: a field that is not numeric has labels in every row, and every row has a
color if the table has color groups.
-/

namespace ChartCompiler

/-- Whether the rows of a table are what the table says about them. -/
structure Table.Sound (table : Table) : Prop where
  x : table.xIsNumeric = false → ∀ row ∈ table.rows, ∃ label, row.x = .label label
  y : table.yIsNumeric = false → ∀ row ∈ table.rows, ∃ label, row.y = .label label
  color : table.hasColorGroup = true → ∀ row ∈ table.rows, ∃ label, row.color = some label

namespace Projection

/-- The usable cells of a field that is not numeric are labels. -/
theorem usableCells_labels {entries : List Value} {cells : List (Option Cell)}
    (usable : usableCells entries false = .ok cells) :
    ∀ cell ∈ cells, ∀ content, cell = some content → ∃ label, content = .label label := by
  unfold usableCells at usable
  rw [if_neg (by decide)] at usable
  induction entries generalizing cells with
  | nil =>
      cases usable
      exact List.forall_mem_nil _
  | cons entry rest induction =>
      rw [List.mapM_cons] at usable
      rcases (bind_eq_ok_iff _ _ _).mp usable with ⟨cell, first, usable⟩
      rcases (bind_eq_ok_iff _ _ _).mp usable with ⟨others, following, equal⟩
      cases equal
      refine List.forall_mem_cons.mpr ⟨fun content found => ?_, induction following⟩
      rcases (bind_eq_ok_iff _ _ _).mp first with ⟨missing, _, equal⟩
      cases missing with
      | true =>
          cases equal
          cases found
      | false =>
          cases equal
          exact ⟨entry.label, (Option.some.inj found).symm⟩

/-- The rows with usable cells. -/
def pairsOf (xCells yCells : List (Option Cell)) : List (Cell × Cell) :=
  (xCells.zip yCells).filterMap fun (x, y) => return (← x, ← y)

theorem mem_pairsOf {xCells yCells : List (Option Cell)} {x y : Cell}
    (inside : (x, y) ∈ pairsOf xCells yCells) : some x ∈ xCells ∧ some y ∈ yCells := by
  rcases List.mem_filterMap.mp inside with ⟨⟨first, second⟩, zipped, equal⟩
  rcases List.of_mem_zip zipped with ⟨left, right⟩
  cases first with
  | none => cases equal
  | some first =>
      cases second with
      | none => cases equal
      | some second =>
          cases equal
          exact ⟨left, right⟩

theorem mem_rowsOf {cells : List (Cell × Cell)} {colors : List (Option String)}
    {bounds : List (Option Binary64 × Option Binary64)} {row : Row}
    (inside : row ∈ rowsOf cells colors bounds) : (row.x, row.y) ∈ cells ∧ row.color ∈ colors := by
  rcases List.mem_map.mp inside with ⟨⟨⟨x, y⟩, color, low, high⟩, zipped, rfl⟩
  rcases List.of_mem_zip zipped with ⟨cell, others⟩
  exact ⟨cell, (List.of_mem_zip others).1⟩

/-! ## Notes -/

theorem warnOf_returns {kind message : String} {count : Nat} {note : Diagnostic}
    (returned : (warnOf kind message count).Returns note) : note.kind = kind := by
  simp only [warnOf, Run.returns_bind, Run.returns_pure] at returned
  rcases returned with ⟨_, _, rfl⟩
  rfl

theorem warned_kind {kind message : String} {count : Nat} {notes : List Diagnostic}
    (returned : (do return [← warnOf kind message count] : Run _).Returns notes) :
    ∀ note ∈ notes, note.kind = kind := by
  simp only [Run.returns_bind, Run.returns_pure] at returned
  rcases returned with ⟨note, warned, rfl⟩
  exact List.forall_mem_singleton.mpr (warnOf_returns warned)

theorem lengthDiagnostics_kind {lengths : List Nat} {count : Nat} {notes : List Diagnostic}
    (returned : (lengthDiagnostics lengths count).Returns notes) :
    ∀ note ∈ notes, note.kind = "length-mismatch" := by
  unfold lengthDiagnostics at returned
  split at returned
  · cases returned
    exact List.forall_mem_nil _
  · exact warned_kind returned

theorem boundDiagnostics_kind {name : String} {binding : Option Value} {count : Nat}
    {notes : List Diagnostic} (returned : (boundDiagnostics name binding count).Returns notes) :
    ∀ note ∈ notes, note.kind = "length-mismatch" := by
  unfold boundDiagnostics at returned
  split at returned
  · cases returned
    exact List.forall_mem_nil _
  · simp only [Run.returns_bind] at returned
    rcases returned with ⟨entries, _, returned⟩
    split at returned
    · exact warned_kind returned
    · cases returned
      exact List.forall_mem_nil _

theorem droppedDiagnostics_kind {dropped kept : Nat} {numeric : Bool} {notes : List Diagnostic}
    (returned : (droppedDiagnostics dropped kept numeric).Returns notes) :
    ∀ note ∈ notes, note.kind = "dropped-rows" := by
  unfold droppedDiagnostics at returned
  split at returned
  · cases returned
    exact List.forall_mem_nil _
  · exact warned_kind returned

/-- The parts that a table is put together from. -/
structure Parts (table : Table) where
  xEntries : List Value
  yEntries : List Value
  xNumeric : Bool
  yNumeric : Bool
  xCells : List (Option Cell)
  yCells : List (Option Cell)
  colors : List (Option String)
  bounds : List (Option Binary64 × Option Binary64)
  xUsable : usableCells xEntries xNumeric = .ok xCells
  yUsable : usableCells yEntries yNumeric = .ok yCells
  xKind : table.xKind = .ofNumeric xNumeric
  yKind : table.yKind = .ofNumeric yNumeric
  rows : table.rows = rowsOf (pairsOf xCells yCells) colors bounds
  notes : ∀ note ∈ table.diagnostics, note.kind ∈ ["length-mismatch", "dropped-rows"]
  colored : table.hasColorGroup = true → ∃ labels : List String, colors = labels.map some

end Projection

open Projection

theorem Table.project_parts {bindings : Bindings} {table : Table}
    (returned : (Table.project bindings).Returns table) : Nonempty (Parts table) := by
  unfold Table.project at returned
  simp only [Run.returns_bind, Run.returns_lift] at returned
  rcases returned with ⟨allX, _, allY, _, allColor, _, lengthNotes, lengths, yminNotes, ymin,
    ymaxNotes, ymax, xNumeric, _, yNumeric, _, xCells, xUsable, yCells, yUsable, droppedNotes,
    dropped, returned⟩
  have notes : ∀ note ∈ lengthNotes ++ yminNotes ++ ymaxNotes ++ droppedNotes,
      note.kind ∈ ["length-mismatch", "dropped-rows"] := by
    intro note inside
    rcases List.mem_append.mp inside with inside | inside
    · rcases List.mem_append.mp inside with inside | inside
      · rcases List.mem_append.mp inside with inside | inside
        · simp [lengthDiagnostics_kind lengths note inside]
        · simp [boundDiagnostics_kind ymin note inside]
      · simp [boundDiagnostics_kind ymax note inside]
    · simp [droppedDiagnostics_kind dropped note inside]
  cases allColor with
  | none =>
      simp only [Run.returns_bind, Run.returns_lift, Run.returns_pure] at returned
      rcases returned with ⟨_, rfl, low, _, high, _, _, _, rfl⟩
      exact ⟨⟨_, _, xNumeric, yNumeric, xCells, yCells, _, _, xUsable, yUsable, rfl, rfl, rfl,
        notes, fun grouped => absurd grouped (by simp)⟩⟩
  | some allColor =>
      simp only [Run.returns_bind, Run.returns_lift, Run.returns_pure] at returned
      rcases returned with ⟨⟨labels, domain⟩, _, low, _, high, _, _, _, rfl⟩
      exact ⟨⟨_, _, xNumeric, yNumeric, xCells, yCells, _, _, xUsable, yUsable, rfl, rfl, rfl,
        notes, fun grouped => ⟨labels, if_pos (of_decide_eq_true grouped)⟩⟩⟩

theorem Table.project_sound {bindings : Bindings} {table : Table}
    (returned : (Table.project bindings).Returns table) : table.Sound := by
  rcases Table.project_parts returned with ⟨parts⟩
  have placed {row : Row} (inside : row ∈ table.rows) :
      some row.x ∈ parts.xCells ∧ some row.y ∈ parts.yCells := by
    rw [parts.rows] at inside
    exact mem_pairsOf (mem_rowsOf inside).1
  refine ⟨fun labelled row inside => ?_, fun labelled row inside => ?_, fun grouped row inside => ?_⟩
  · have kind : parts.xNumeric = false := by
      simpa [xIsNumeric, parts.xKind, FieldKind.ofNumeric] using labelled
    exact usableCells_labels (kind ▸ parts.xUsable) _ (placed inside).1 _ rfl
  · have kind : parts.yNumeric = false := by
      simpa [yIsNumeric, parts.yKind, FieldKind.ofNumeric] using labelled
    exact usableCells_labels (kind ▸ parts.yUsable) _ (placed inside).2 _ rfl
  · rcases parts.colored grouped with ⟨labels, colors⟩
    rw [parts.rows, colors] at inside
    rcases List.mem_map.mp (mem_rowsOf inside).2 with ⟨label, _, equal⟩
    exact ⟨label, equal.symm⟩

/-- A category with a value in each of two color groups. -/
def groupedBindings : Bindings :=
  { x := .list [.text "a", .text "a"]
    y := .list [.real 1.0, .real 2.0]
    color := some (.list [.text "g", .text "h"]) }

/-- The table of the bindings. -/
def groupedTable : Table :=
  { rows := [{ x := .label "a", y := .number 1.0, color := some "g" },
      { x := .label "a", y := .number 2.0, color := some "h" }]
    xKind := .categorical
    yKind := .continuous
    hasColorGroup := true
    colorDomain := ["g", "h"]
    givenCount := 2 }

/-- The bindings with another name for the second color group. -/
def renamedBindings (name : String) : Bindings :=
  { groupedBindings with color := some (.list [.text "g", .text name]) }

/-- The table of the renamed bindings. -/
def renamedTable (name : String) : Table :=
  { groupedTable with
    rows := [{ x := .label "a", y := .number 1.0, color := some "g" },
      { x := .label "a", y := .number 2.0, color := some name }]
    colorDomain := ["g", name] }

theorem renamedBindings_projected {name : String}
    (sorted : colorDomain ["g", name] false = ["g", name]) :
    (Table.project (renamedBindings name)).Returns (renamedTable name) := by
  have cells : Projection.usableCells [.real 1.0, .real 2.0] true
      = .ok [some (.number 1.0), some (.number 2.0)] := by
    have finite : (1.0 : Binary64).isFinite = true ∧ (2.0 : Binary64).isFinite = true := by
      decide +kernel
    change Except.ok [if (1.0 : Binary64).isFinite = true then some (Cell.number 1.0) else none,
      if (2.0 : Binary64).isFinite = true then some (Cell.number 2.0) else none] = _
    rw [finite.1, finite.2]
    rfl
  have groups : Projection.colorGroups [.text "g", .text name] [true, true]
      = .ok (["g", name], ["g", name]) := by
    change Except.ok (["g", name], colorDomain ["g", name] false) = _
    rw [sorted]
  unfold Table.project
  simp only [Run.returns_bind, Run.returns_lift]
  refine ⟨_, rfl, _, rfl, _, rfl, _, rfl, _, rfl, _, rfl, false, rfl, true, rfl, _, rfl, _, cells, _,
    rfl, ?_⟩
  simp only [Run.returns_bind, Run.returns_lift]
  exact ⟨(["g", name], ["g", name]), groups, none, rfl, none, rfl, (), rfl, rfl⟩

theorem groupedBindings_projected : (Table.project groupedBindings).Returns groupedTable :=
  @renamedBindings_projected "h" (List.mergeSort_of_pairwise (by decide +kernel))

end ChartCompiler
