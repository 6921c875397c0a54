import ChartCompiler.Proofs.Field.Labels
import ChartCompiler.Proofs.Table.Alignment
import ChartCompiler.Proofs.Value.Finite

/-!
# Fields that are projected without failing

Fields may hold single entries of all kinds in any mixture. Entries that cannot be used are left
out of the table, and only one thing makes the projection fail: a number that is looked at and that
no real number is near to.
-/

namespace ChartCompiler

namespace Value

/-- Whether a value is missing, a truth value, a number or a text. -/
def IsScalar : Value → Prop
  | .null | .bool _ | .number _ | .text _ => True
  | _ => False

/-! ## The kind of single entries -/

theorem IsScalar.measure_eq {entry : Value} (scalar : entry.IsScalar) (depth : Nat)
    (known : Extents.Known) : entry.measure depth known = known.withPart depth [] := by
  cases entry with
  | null | bool _ | number _ | text _ => rfl
  | _ => exact absurd scalar id

theorem IsScalar.entries_eq {entry : Value} (scalar : entry.IsScalar) :
    entry.entries = [entry] ∧ entry.elementTypes = [] := by
  cases entry with
  | null | bool _ | number _ | text _ => exact ⟨rfl, rfl⟩
  | _ => exact absurd scalar id

theorem IsScalar.not_isForeignBytes {entry : Value} (scalar : entry.IsScalar) :
    entry.isForeignBytes = false := by
  cases entry with
  | bytes _ => exact absurd scalar id
  | _ => rfl

/-- Behind a single entry the dimensions are settled, and further ones agree. -/
theorem measureAll_scalars {items : List Value} (scalars : ∀ item ∈ items, item.IsScalar)
    (length : Nat) : measureAll 1 ⟨[length], 1, true⟩ items = some ⟨[length], 1, true⟩ := by
  induction items with
  | nil => rfl
  | cons item rest induction =>
      have here := (scalars item List.mem_cons_self).measure_eq 1 ⟨[length], 1, true⟩
      change item.measure 1 _ >>= _ = _
      rw [here]
      exact induction fun other inside => scalars other (List.mem_cons_of_mem _ inside)

theorem extents?_scalars {items : List Value} (scalars : ∀ item ∈ items, item.IsScalar) :
    (Value.list items).extents? = some [items.length] := by
  cases items with
  | nil => rfl
  | cons item rest =>
      have first := (scalars item List.mem_cons_self).measure_eq 1 ⟨[rest.length + 1], 64, false⟩
      have others := measureAll_scalars
        (fun other inside => scalars other (List.mem_cons_of_mem _ inside)) (rest.length + 1)
      change ((item.measure 1 ⟨[rest.length + 1], 64, false⟩ >>= fun known =>
        measureAll 1 known rest).map (·.extents)) = _
      rw [first]
      change (measureAll 1 ⟨[rest.length + 1], 1, true⟩ rest).map (·.extents) = _
      rw [others]
      rfl

theorem allEntries_scalars {items : List Value} (scalars : ∀ item ∈ items, item.IsScalar) :
    allEntries items = items ∧ allElementTypes items = [] := by
  induction items with
  | nil => exact ⟨rfl, rfl⟩
  | cons item rest induction =>
      rcases (scalars item List.mem_cons_self).entries_eq with ⟨single, untyped⟩
      rcases induction fun other inside => scalars other (List.mem_cons_of_mem _ inside) with
        ⟨others, types⟩
      unfold allEntries allElementTypes
      rw [single, untyped, others, types]
      exact ⟨rfl, rfl⟩

/-- Whether entries are found to be numbers. -/
def areNumbers (entries : List Value) : Bool :=
  match (Value.list entries).holdsNumbers with
  | .ok numeric => numeric
  | .error _ => false

theorem holdsNumbers_scalars_eq {items : List Value} (scalars : ∀ item ∈ items, item.IsScalar) :
    (Value.list items).holdsNumbers = entriesAreNumeric [] items := by
  unfold holdsNumbers
  rw [extents?_scalars scalars]
  change entriesAreNumeric (allElementTypes items) (allEntries items) = _
  rw [(allEntries_scalars scalars).1, (allEntries_scalars scalars).2]

/-- It can be told of all single entries whether they are numbers. -/
theorem holdsNumbers_scalars {items : List Value} (scalars : ∀ item ∈ items, item.IsScalar) :
    (Value.list items).holdsNumbers = .ok (areNumbers items) := by
  have native : items.any isForeignBytes = false := by
    refine List.any_eq_false.mpr fun item inside => ?_
    rw [(scalars item inside).not_isForeignBytes]
    exact Bool.false_ne_true
  have told : ∃ numeric, (Value.list items).holdsNumbers = .ok numeric := by
    rw [holdsNumbers_scalars_eq scalars]
    unfold entriesAreNumeric
    simp only [native, Bool.and_false, Bool.false_eq_true, if_false]
    split
    · exact ⟨_, rfl⟩
    · exact ⟨_, rfl⟩
  rcases told with ⟨numeric, found⟩
  unfold areNumbers
  rw [found]

/-- The entries of numbers are missing, truth values or numbers. -/
theorem number_of_areNumbers {items : List Value} (scalars : ∀ item ∈ items, item.IsScalar)
    (numeric : areNumbers items = true) :
    ∀ item ∈ items, item.isNull = true ∨ item.isBool = true ∨ item.isNumber = true := by
  have found := holdsNumbers_scalars scalars
  rw [holdsNumbers_scalars_eq scalars, numeric] at found
  exact number_of_entriesAreNumeric found

/-! ## Single entries as numbers -/

theorem not_isHuge_null : ¬ Value.null.IsHuge := by
  intro huge
  cases huge

theorem not_isHuge_text (content : String) : ¬ (Value.text content).IsHuge := by
  intro huge
  simp only [IsHuge, toReal] at huge
  split at huge <;> cases huge

theorem not_isHuge_bool (value : Bool) : ¬ (Value.bool value).IsHuge := by
  have small : ∀ whole : Int, Binary64.ofInt? whole ≠ none → ¬ (Value.whole whole).IsHuge :=
    fun whole near huge => near (isHuge_whole_iff.mp huge)
  cases value with
  | false => exact small 0 (by decide +kernel)
  | true => exact small 1 (by decide +kernel)

/-- A truth value or a number has a real number near to it, or it is too large. -/
theorem toReal_completes {entry : Value} (number : entry.isBool = true ∨ entry.isNumber = true) :
    (liftM entry.toReal : Run Binary64).CompletesUnless entry.IsHuge := by
  have known : entry.toReal = .error .numberTooLarge ∨ ∃ real, entry.toReal = .ok real := by
    cases entry with
    | bool value => exact realOfWhole_cases _
    | number value => cases value with
      | whole value => exact realOfWhole_cases value
      | real value => exact .inr ⟨value, rfl⟩
    | _ => simp [isBool, isNumber] at number
  rcases known with huge | ⟨real, found⟩
  · exact .inl ⟨huge, huge⟩
  · refine .inr ⟨fun huge => ?_, real, found⟩
    cases found.symm.trans huge

theorem isMissing_completes {entry : Value} (scalar : entry.IsScalar) :
    (liftM entry.isMissing : Run Bool).CompletesUnless entry.IsHuge := by
  cases entry with
  | null => exact .inr ⟨not_isHuge_null, true, rfl⟩
  | bool value => exact .inr ⟨not_isHuge_bool value, false, rfl⟩
  | text content => exact .inr ⟨not_isHuge_text content, false, rfl⟩
  | number value =>
      have converted := @toReal_completes (.number value) (.inr rfl)
      have steps := converted.lift_bind fun real _ => Run.CompletesUnless.of_returns
        (show (liftM (.ok real.isNaN : Except Failure Bool) : Run Bool).Returns real.isNaN from rfl)
      exact steps.congr (iff_of_eq (or_false _))
  | _ => exact absurd scalar id

end Value

namespace Projection

variable {entries : List Value}

theorem realEntries_completes (numbers : ∀ entry ∈ entries,
      entry.isNull = true ∨ entry.isBool = true ∨ entry.isNumber = true) :
    (liftM (realEntries entries) : Run _).CompletesUnless (∃ entry ∈ entries, entry.IsHuge) := by
  refine .lift_mapM fun entry inside => ?_
  split
  · next missing =>
      cases entry with
      | null => exact .inr ⟨Value.not_isHuge_null, .nan, rfl⟩
      | _ => cases missing
  · next present => exact Value.toReal_completes ((numbers entry inside).resolve_left present)

theorem usableCells_completes (scalars : ∀ entry ∈ entries, entry.IsScalar) :
    (liftM (usableCells entries (Value.areNumbers entries)) : Run _).CompletesUnless
      (∃ entry ∈ entries, entry.IsHuge) := by
  unfold usableCells
  split
  · next numeric =>
      have read := realEntries_completes (Value.number_of_areNumbers scalars numeric)
      exact (read.lift_bind fun _ _ => .of_returns rfl).congr (iff_of_eq (or_false _))
  · refine .lift_mapM fun entry inside => ?_
    have known := Value.isMissing_completes (scalars entry inside)
    exact (known.lift_bind fun _ _ => .of_returns rfl).congr (iff_of_eq (or_false _))

end Projection

/-! ## Columns of single entries -/

namespace BoundColumns

/-- The fields that hold columns as lists. -/
def bindings (columns : BoundColumns) : Bindings :=
  { x := .list columns.x
    y := .list columns.y
    color := columns.color.map .list
    ymin := columns.ymin.map .list
    ymax := columns.ymax.map .list }

theorem of_bindings (columns : BoundColumns) : columns.Of columns.bindings :=
  ⟨rfl, rfl, Option.map_map .., Option.map_map .., Option.map_map ..⟩

/-- Whether all entries of columns are single. -/
structure Scalar (columns : BoundColumns) : Prop where
  x : ∀ entry ∈ columns.x, entry.IsScalar
  y : ∀ entry ∈ columns.y, entry.IsScalar
  color : ∀ entries ∈ columns.color, ∀ entry ∈ entries, entry.IsScalar
  ymin : ∀ entries ∈ columns.ymin, ∀ entry ∈ entries, entry.IsScalar
  ymax : ∀ entries ∈ columns.ymax, ∀ entry ∈ entries, entry.IsScalar

/-- The kind of the x that rows may have. -/
def xKind (columns : BoundColumns) : FieldKind :=
  .ofNumeric (Value.areNumbers (columns.x.take columns.count))

/-- The kind of the y that rows may have. -/
def yKind (columns : BoundColumns) : FieldKind :=
  .ofNumeric (Value.areNumbers (columns.y.take columns.count))

/-- Whether the x and the y at a place can be used. -/
def isUsableAt (columns : BoundColumns) (place : Nat) : Bool :=
  (columns.x[place]?.bind columns.xKind.cell?).isSome &&
    (columns.y[place]?.bind columns.yKind.cell?).isSome

/-- The colors at the places that can be used. -/
def usedColors (columns : BoundColumns) : List Value :=
  match columns.color with
  | none => []
  | some entries =>
      Projection.keep ((List.range columns.count).map columns.isUsableAt) (entries.take columns.count)

/-- The entries of a bound that are read, if it holds numbers. -/
def usedBounds (bound : Option (List Value)) (count : Nat) : List Value :=
  match bound with
  | none => []
  | some entries => if Value.areNumbers entries then entries.take count else []

/-- The entries of which the projection takes the numbers among them as real ones. -/
def read (columns : BoundColumns) : List Value :=
  columns.x.take columns.count ++ (columns.y.take columns.count ++ (columns.usedColors ++
    (usedBounds columns.ymin columns.count ++ usedBounds columns.ymax columns.count)))

/-- Whether an entry that is read stands for a number that no real number is near to. -/
def TooLarge (columns : BoundColumns) : Prop := ∃ entry ∈ columns.read, entry.IsHuge

theorem tooLarge_iff (columns : BoundColumns) : columns.TooLarge ↔
    (∃ entry ∈ columns.x.take columns.count, entry.IsHuge) ∨
    (∃ entry ∈ columns.y.take columns.count, entry.IsHuge) ∨
    (∃ entry ∈ columns.usedColors, entry.IsHuge) ∨
    (∃ entry ∈ usedBounds columns.ymin columns.count, entry.IsHuge) ∨
    (∃ entry ∈ usedBounds columns.ymax columns.count, entry.IsHuge) := by
  unfold TooLarge read
  simp only [List.mem_append, or_and_right, exists_or]

end BoundColumns

namespace Projection

theorem lengthDiagnostics_returns (lengths : List Nat) (count : Nat) :
    ∃ notes, (lengthDiagnostics lengths count).Returns notes := by
  unfold lengthDiagnostics
  split
  · exact ⟨[], rfl⟩
  · exact ⟨_, rfl⟩

theorem boundDiagnostics_returns (name : String) (bound : Option (List Value)) (count : Nat) :
    ∃ notes, (boundDiagnostics name (bound.map .list) count).Returns notes := by
  cases bound with
  | none => exact ⟨[], rfl⟩
  | some entries =>
      change ∃ notes, (if entries.length < count then _ else _ : Run (List Diagnostic)).Returns notes
      split
      · exact ⟨_, rfl⟩
      · exact ⟨[], rfl⟩

theorem droppedDiagnostics_returns (dropped kept : Nat) (numeric : Bool) :
    ∃ notes, (droppedDiagnostics dropped kept numeric).Returns notes := by
  unfold droppedDiagnostics
  split
  · exact ⟨[], rfl⟩
  · exact ⟨_, rfl⟩

theorem keep_subset {marks : List Bool} {items : List α} {item : α}
    (inside : item ∈ keep marks items) : item ∈ items := by
  rcases List.mem_filterMap.mp inside with ⟨⟨listed, kept⟩, together, found⟩
  cases kept with
  | false => cases found
  | true =>
      cases found
      exact (List.of_mem_zip together).1

theorem colorGroups_completes {entries : List Value} (marks : List Bool)
    (scalars : ∀ entry ∈ entries, entry.IsScalar) :
    (liftM (colorGroups entries marks) : Run _).CompletesUnless
      (∃ entry ∈ keep marks entries, entry.IsHuge) := by
  have labelled : ∀ entry ∈ keep marks entries,
      (liftM (colorLabel entry) : Run String).CompletesUnless entry.IsHuge := by
    intro entry inside
    have known := Value.isMissing_completes (scalars entry (keep_subset inside))
    refine (known.lift_bind fun missing _ => ?_).congr (iff_of_eq (or_false _))
    cases missing <;> exact .of_returns rfl
  have numeric : (liftM (Value.list entries).holdsNumbers : Run Bool).CompletesUnless False :=
    .of_returns (Value.holdsNumbers_scalars scalars)
  refine ((Run.CompletesUnless.lift_mapM labelled).lift_bind fun labels _ =>
    numeric.lift_bind fun _ _ => .of_returns rfl).congr ?_
  rw [or_false, or_false]

theorem boundEntries_completes {bound : Option (List Value)} (count : Nat)
    (scalars : ∀ entries ∈ bound, ∀ entry ∈ entries, entry.IsScalar) :
    (liftM (boundEntries (bound.map .list) count) : Run _).CompletesUnless
      (∃ entry ∈ BoundColumns.usedBounds bound count, entry.IsHuge) := by
  cases bound with
  | none => exact .inr ⟨by simp [BoundColumns.usedBounds], none, rfl⟩
  | some entries =>
      have single := scalars entries rfl
      have told := Value.holdsNumbers_scalars single
      unfold BoundColumns.usedBounds boundEntries
      dsimp only [Option.map_some]
      rw [told]
      cases numeric : Value.areNumbers entries with
      | false => exact .inr ⟨by simp, none, rfl⟩
      | true =>
          have read := @realEntries_completes (entries.take count)
            fun entry inside => Value.number_of_areNumbers single numeric entry
              (List.mem_of_mem_take inside)
          exact (read.lift_bind fun _ _ => .of_returns rfl).congr (iff_of_eq (or_false _))

/-- Both bounds are read, and nothing can fail then. -/
theorem bounds_complete {columns : BoundColumns} (scalar : columns.Scalar)
    {last : Option (List Binary64) → Option (List Binary64) → Run α}
    (returns : ∀ low high, ∃ result, (last low high).Returns result) :
    ((liftM (boundEntries columns.bindings.ymin columns.count) : Run _) >>= fun low =>
      (liftM (boundEntries columns.bindings.ymax columns.count) : Run _) >>= fun high =>
        last low high).CompletesUnless
      ((∃ entry ∈ BoundColumns.usedBounds columns.ymin columns.count, entry.IsHuge) ∨
        ∃ entry ∈ BoundColumns.usedBounds columns.ymax columns.count, entry.IsHuge) := by
  refine .bind (boundEntries_completes _ scalar.ymin) fun low _ => ?_
  refine .congr (.bind (boundEntries_completes _ scalar.ymax) fun high _ => ?_)
    (iff_of_eq (or_false _))
  rcases returns low high with ⟨result, returned⟩
  exact .of_returns returned

/-- The marks of usable cells are those of the places that can be used. -/
theorem marksOf_usable {columns : BoundColumns} {xCells yCells : List (Option Cell)}
    (xUsable : usableCells (columns.x.take columns.count)
      (Value.areNumbers (columns.x.take columns.count)) = .ok xCells)
    (yUsable : usableCells (columns.y.take columns.count)
      (Value.areNumbers (columns.y.take columns.count)) = .ok yCells) :
    marksOf xCells yCells = (List.range columns.count).map columns.isUsableAt := by
  rw [usableCells_eq xUsable, usableCells_eq yUsable, map_take _ columns.count_le_x,
    map_take _ columns.count_le_y]
  unfold marksOf
  rw [List.zip_map', List.map_map]
  rfl

end Projection

open Projection Run in
/-- The projection fails exactly if an entry that it reads is too large. -/
theorem Table.project_completes {columns : BoundColumns} (scalar : columns.Scalar) :
    (Table.project columns.bindings).CompletesUnless columns.TooLarge := by
  have colors : (columns.bindings.color.mapM fun field =>
      (liftM (entriesOf field) : Run _)).Returns columns.color := by
    unfold BoundColumns.bindings
    cases columns.color <;> rfl
  have xs : ∀ entry ∈ columns.x.take columns.count, entry.IsScalar :=
    fun entry inside => scalar.x entry (List.mem_of_mem_take inside)
  have ys : ∀ entry ∈ columns.y.take columns.count, entry.IsScalar :=
    fun entry inside => scalar.y entry (List.mem_of_mem_take inside)
  rcases lengthDiagnostics_returns columns.lengths columns.count with ⟨lengthNotes, lengths⟩
  rcases boundDiagnostics_returns "ymin" columns.ymin columns.count with ⟨lowNotes, lows⟩
  rcases boundDiagnostics_returns "ymax" columns.ymax columns.count with ⟨highNotes, highs⟩
  refine CompletesUnless.congr ?_ columns.tooLarge_iff.symm
  unfold Table.project
  refine .of_returns_bind (entriesOf_eq_ok_iff.mpr columns.of_bindings.x) ?_
  refine .of_returns_bind (entriesOf_eq_ok_iff.mpr columns.of_bindings.y) ?_
  refine .of_returns_bind colors ?_
  dsimp only
  rw [count_eq columns]
  refine .of_returns_bind lengths ?_
  refine .of_returns_bind lows ?_
  refine .of_returns_bind highs ?_
  refine .of_returns_bind (Value.holdsNumbers_scalars xs) ?_
  refine .of_returns_bind (Value.holdsNumbers_scalars ys) ?_
  refine .bind (usableCells_completes xs) fun xCells xUsable => ?_
  refine .bind (usableCells_completes ys) fun yCells yUsable => ?_
  have marks := marksOf_usable xUsable yUsable
  rcases droppedDiagnostics_returns (columns.count - (pairsOf xCells yCells).length)
    (pairsOf xCells yCells).length (Value.areNumbers (columns.x.take columns.count) &&
      Value.areNumbers (columns.y.take columns.count)) with ⟨droppedNotes, dropped⟩
  refine .of_returns_bind dropped ?_
  unfold BoundColumns.usedColors
  cases bound : columns.color with
  | none =>
      refine .of_returns_bind (show (Pure.pure ([], []) : Run _).Returns ([], []) from rfl) ?_
      refine CompletesUnless.congr (bounds_complete scalar ?_) (by simp)
      intro low high
      exact ⟨_, rfl⟩
  | some entries =>
      have single : ∀ entry ∈ entries.take columns.count, entry.IsScalar :=
        fun entry inside => scalar.color entries bound entry (List.mem_of_mem_take inside)
      rw [← marks]
      refine .bind (colorGroups_completes _ single) fun groups _ => bounds_complete scalar ?_
      intro low high
      exact ⟨_, rfl⟩

namespace Projection

/-! ## Intervals -/

/-- A bound is read if it is taken for numbers. -/
theorem boundEntries_isSome {bound : Option (List Value)} {count : Nat}
    {values : Option (List Binary64)} (read : boundEntries (bound.map .list) count = .ok values) :
    values.isSome = bound.any Value.areNumbers := by
  cases bound with
  | none =>
      cases read
      rfl
  | some entries =>
      obtain ⟨numeric, told, read⟩ := (bind_eq_ok_iff _ _ _).mp read
      have known : Value.areNumbers entries = numeric := by rw [Value.areNumbers, told]
      rw [Option.any_some, known]
      cases numeric with
      | false =>
          cases read
          rfl
      | true =>
          obtain ⟨listed, _, read⟩ := (bind_eq_ok_iff _ _ _).mp read
          obtain ⟨numbers, _, read⟩ := (bind_eq_ok_iff _ _ _).mp read
          cases read
          rfl

theorem isSome_keptBounds (kept : List Bool) (low high : Option (List Binary64)) :
    (keptBounds kept low high).isSome = (low.isSome && high.isSome) := by
  cases low with
  | none => rfl
  | some => cases high <;> rfl

/-- There are intervals if y and both bounds are taken for numbers. -/
theorem Steps.hasInterval_eq {columns : BoundColumns} {table : Table}
    (steps : Steps columns.bindings columns table) : table.hasInterval =
      (steps.yNumeric && (columns.ymin.any Value.areNumbers && columns.ymax.any Value.areNumbers)) := by
  rw [steps.interval, steps.bounded, ← boundEntries_isSome steps.lows,
    ← boundEntries_isSome steps.highs]
  cases steps.yNumeric with
  | false => rfl
  | true => exact isSome_keptBounds _ _ _

end Projection

/-! ## Tables -/

/-- What a table shows of columns: a row for each place with an x and a y that can be used, and how
many places were left out. -/
structure Table.Shows (table : Table) (columns : BoundColumns) : Prop where
  xKind : table.xKind = columns.xKind
  yKind : table.yKind = columns.yKind
  rows : table.rows = (List.range columns.count).filterMap (columns.row? table)
  given : table.givenCount = columns.count
  dropped : table.droppedCount = columns.count - table.rows.length
  notes : (table.diagnostics.filter (·.kind = "dropped-rows")).map (·.count) =
    if table.droppedCount = 0 then [] else [some (table.droppedCount : Int)]

theorem Table.shows_of_project {columns : BoundColumns} {table : Table}
    (returned : (Table.project columns.bindings).Returns table) : table.Shows columns := by
  have of := columns.of_bindings
  obtain ⟨steps⟩ := Table.project_stepsOf returned of
  have numeric : ∀ {entries : List Value} {told : Bool},
      (Value.list entries).holdsNumbers = .ok told → Value.areNumbers entries = told := by
    intro entries told same
    rw [Value.areNumbers, same]
  refine ⟨?_, ?_, steps.rows_eq of, steps.given, ?_, steps.notes_eq⟩
  · rw [steps.xKind, BoundColumns.xKind, numeric steps.xTold]
  · rw [steps.yKind, BoundColumns.yKind, numeric steps.yTold]
  · rw [steps.missing, steps.length_rows of]

/-- Columns of single entries in any mixture and of any lengths have a table, unless a number that is
read is too large for a real one. Entries that cannot be used cost rows, colors and bounds only. -/
theorem Table.project_total {columns : BoundColumns} (scalar : columns.Scalar) :
    (columns.TooLarge ∧ (Table.project columns.bindings).Fails .numberTooLarge) ∨
      (¬ columns.TooLarge ∧ ∃ table, (Table.project columns.bindings).Returns table ∧
        table.Shows columns) := by
  rcases Table.project_completes scalar with failed | ⟨small, table, returned⟩
  · exact .inl failed
  · exact .inr ⟨small, table, returned, Table.shows_of_project returned⟩

/-- The entries of the categories of which one is missing. -/
def raggedColumns : BoundColumns :=
  { x := [.text "a", .null, .text "b"]
    y := [.real 1.0, .real 2.0, .real 4.0, .real 8.0]
    color := some [.text "g", .text "i", .text "h"]
    ymin := some [.real 0.5, .real 1.0]
    ymax := some [.real 2.0] }

theorem raggedColumns_scalar : raggedColumns.Scalar := by
  refine ⟨?_, ?_, ?_, ?_, ?_⟩ <;> simp [raggedColumns, Value.IsScalar]

theorem Table.project_total_ragged : raggedColumns.Scalar ∧ ¬ raggedColumns.TooLarge ∧
    ∃ table, (Table.project raggedColumns.bindings).Returns table ∧ table.Shows raggedColumns := by
  have returned : (Table.project raggedColumns.bindings).Returns raggedTable :=
    raggedBindings_projected
  rcases Table.project_total raggedColumns_scalar with ⟨_, failed⟩ | completed
  · exact absurd failed (returned.not_fails _)
  · exact ⟨raggedColumns_scalar, completed⟩

/-- A whole number that is too large for a real one does not cost its row, but the table. -/
theorem Table.project_too_large : (Table.project
    { x := .list [.whole (10 ^ 400), .real 1.0], y := .list [.real 1.0, .real 2.0] }).Fails
      .numberTooLarge := by
  let columns : BoundColumns :=
    ⟨[.whole (10 ^ 400), .real 1.0], [.real 1.0, .real 2.0], none, none, none⟩
  have scalar : columns.Scalar :=
    ⟨List.forall_mem_cons.mpr ⟨trivial, List.forall_mem_singleton.mpr trivial⟩,
      List.forall_mem_cons.mpr ⟨trivial, List.forall_mem_singleton.mpr trivial⟩, nofun, nofun, nofun⟩
  have huge : (Value.whole (10 ^ 400)).IsHuge := Value.isHuge_whole_iff.mpr (by decide +kernel)
  have tooLarge : columns.TooLarge :=
    columns.tooLarge_iff.mpr (.inl ⟨_, List.mem_cons_self, huge⟩)
  exact ((Table.project_completes scalar).resolve_right fun small => small.1 tooLarge).2

end ChartCompiler
