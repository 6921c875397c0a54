import ChartCompiler.Proofs.Table.Projection
import Mathlib.Data.Option.Basic

/-!
# Places of bound fields

What the entries at one place of the bound fields become: cells, a color and bounds. Whatever the
projection makes of whole fields is what it makes of their places, one by one.
-/

namespace ChartCompiler

/-- The number that an entry holds, if it is finite. -/
def Value.finite? (entry : Value) : Option Binary64 := entry.toReal.toOption.bind Projection.finite?

/-- The label of an entry, if it is not missing. -/
def Value.label? (entry : Value) : Option String :=
  match entry.isMissing with
  | .ok false => some entry.label
  | _ => none

/-- The label of an entry as a color. -/
def Value.color? (entry : Value) : Option String := (colorLabel entry).toOption

namespace FieldKind

/-- What an entry of a field becomes in a row: in a continuous field its number, if it is finite; in
a categorical one its label, if it is not missing. -/
def cell? : FieldKind → Value → Option Cell
  | .continuous, entry => entry.finite?.map .number
  | .categorical, entry => entry.label?.map .label

theorem cell?_real (value : Binary64) :
    continuous.cell? (.real value) = (Projection.finite? value).map .number := rfl

/-- Whether a cell is one of a field of a kind. -/
def Holds : FieldKind → Cell → Prop
  | .continuous, cell => ∃ value, cell = .number value ∧ value.isFinite = true
  | .categorical, cell => ∃ label, cell = .label label

theorem holds_of_cell? {kind : FieldKind} {entry : Value} {cell : Cell}
    (found : kind.cell? entry = some cell) : kind.Holds cell := by
  cases kind with
  | continuous =>
      rcases Option.map_eq_some_iff.mp found with ⟨value, finite, rfl⟩
      rcases Option.bind_eq_some_iff.mp finite with ⟨number, _, finite⟩
      unfold Projection.finite? at finite
      split at finite
      · next here => exact ⟨value, rfl, Option.some.inj finite ▸ here⟩
      · cases finite
  | categorical =>
      rcases Option.map_eq_some_iff.mp found with ⟨label, _, rfl⟩
      exact ⟨label, rfl⟩

end FieldKind

/-- The entries of bound fields. -/
structure BoundColumns where
  x : List Value
  y : List Value
  color : Option (List Value)
  ymin : Option (List Value)
  ymax : Option (List Value)

namespace BoundColumns

/-- The columns that fields hold. -/
structure Of (bindings : Bindings) (columns : BoundColumns) : Prop where
  x : bindings.x.elements? = some columns.x
  y : bindings.y.elements? = some columns.y
  color : bindings.color.map Value.elements? = columns.color.map some
  ymin : bindings.ymin.map Value.elements? = columns.ymin.map some
  ymax : bindings.ymax.map Value.elements? = columns.ymax.map some

theorem Of.unique {bindings : Bindings} {columns others : BoundColumns}
    (of : columns.Of bindings) (ofOthers : others.Of bindings) : columns = others := by
  have optional {left right : Option (List Value)} (same : left.map some = right.map some) :
      left = right := Option.map_injective (Option.some_injective _) same
  cases columns
  cases others
  rw [mk.injEq]
  exact ⟨Option.some.inj (of.x.symm.trans ofOthers.x), Option.some.inj (of.y.symm.trans ofOthers.y),
    optional (of.color.symm.trans ofOthers.color), optional (of.ymin.symm.trans ofOthers.ymin),
    optional (of.ymax.symm.trans ofOthers.ymax)⟩

/-- The least length of x, y and the color. -/
def count (columns : BoundColumns) : Nat :=
  let positions := min columns.x.length columns.y.length
  match columns.color with
  | none => positions
  | some color => min positions color.length

/-- The lengths of x, y and the color. -/
def lengths (columns : BoundColumns) : List Nat :=
  [columns.x.length, columns.y.length] ++ (columns.color.map List.length).toList

theorem count_le_x (columns : BoundColumns) : columns.count ≤ columns.x.length := by
  unfold count
  cases columns.color with
  | none => exact Nat.min_le_left _ _
  | some color => exact Nat.le_trans (Nat.min_le_left _ _) (Nat.min_le_left _ _)

theorem count_le_y (columns : BoundColumns) : columns.count ≤ columns.y.length := by
  unfold count
  cases columns.color with
  | none => exact Nat.min_le_right _ _
  | some color => exact Nat.le_trans (Nat.min_le_left _ _) (Nat.min_le_right _ _)

theorem count_le_color {columns : BoundColumns} {color : List Value}
    (bound : columns.color = some color) : columns.count ≤ color.length := by
  unfold count
  rw [bound]
  exact Nat.min_le_right _ _

/-- The entry at a place of a column that need not be there or reach that far. -/
def entryAt? (column : Option (List Value)) (place : Nat) : Option Value := column.bind (·[place]?)

/-- What the x and the y at a place become in a table, if both are valid there. -/
def cellsAt (columns : BoundColumns) (table : Table) (place : Nat) : Option (Cell × Cell) :=
  return (← columns.x[place]?.bind table.xKind.cell?, ← columns.y[place]?.bind table.yKind.cell?)

theorem cellsAt_eq_some_iff {columns : BoundColumns} {table : Table} {place : Nat} {x y : Cell} :
    columns.cellsAt table place = some (x, y) ↔
      columns.x[place]?.bind table.xKind.cell? = some x ∧
        columns.y[place]?.bind table.yKind.cell? = some y := by
  unfold cellsAt
  cases columns.x[place]?.bind table.xKind.cell? with
  | none => exact ⟨nofun, nofun⟩
  | some first => cases columns.y[place]?.bind table.yKind.cell? with
      | none => exact ⟨nofun, nofun⟩
      | some second => simp

/-- The places that have a row. -/
def keptPlaces (columns : BoundColumns) (table : Table) : List Nat :=
  (List.range columns.count).filter fun place => (columns.cellsAt table place).isSome

theorem map_keptPlaces (columns : BoundColumns) (table : Table) (view : Nat → α) :
    (columns.keptPlaces table).map view = (List.range columns.count).filterMap fun place =>
      if (columns.cellsAt table place).isSome then some (view place) else none := by
  unfold keptPlaces
  rw [← List.filterMap_eq_map, List.filterMap_filter]
  rfl

/-- The label of the color of a place. -/
def labelAt (columns : BoundColumns) (place : Nat) : Option String :=
  (entryAt? columns.color place).bind Value.color?

/-- The color of a place, in a table with color groups. -/
def colorAt (columns : BoundColumns) (table : Table) (place : Nat) : Option String :=
  if table.hasColorGroup then (entryAt? columns.color place).bind Value.color? else none

/-- What a bound is at a place, in a table with intervals. -/
def boundAt (table : Table) (bound : Option (List Value)) (place : Nat) : Option Binary64 :=
  if table.hasInterval then (entryAt? bound place).bind Value.finite? else none

/-- The row that a place has in a table. -/
def row? (columns : BoundColumns) (table : Table) (place : Nat) : Option Row :=
  (columns.cellsAt table place).map fun (x, y) =>
    { x, y, color := columns.colorAt table place, ymin := boundAt table columns.ymin place,
      ymax := boundAt table columns.ymax place }

end BoundColumns

namespace Projection

/-! ## Entries one by one -/

/-- What is seen of results is seen of the items that they come from. -/
theorem map_of_mapM {step : α → Except Failure β} {view : β → γ} {source : α → γ}
    (agree : ∀ item result, step item = .ok result → view result = source item) {items : List α}
    {results : List β} (stepped : items.mapM step = .ok results) :
    results.map view = items.map source := by
  induction items generalizing results with
  | nil =>
      cases stepped
      rfl
  | cons item rest induction =>
      rw [List.mapM_cons] at stepped
      rcases (bind_eq_ok_iff _ _ _).mp stepped with ⟨first, here, stepped⟩
      rcases (bind_eq_ok_iff _ _ _).mp stepped with ⟨others, following, equal⟩
      cases equal
      rw [List.map_cons, List.map_cons, agree item first here, induction following]

theorem realEntries_finite {entries : List Value} {values : List Binary64}
    (read : realEntries entries = .ok values) :
    values.map finite? = entries.map Value.finite? := by
  refine map_of_mapM (fun entry value found => ?_) read
  split at found
  · next missing =>
      cases found
      cases entry with
      | null => rfl
      | _ => cases missing
  · rw [Value.finite?, found]
    rfl

/-- The usable cells of entries are those that they become in a row. -/
theorem usableCells_eq {entries : List Value} {numeric : Bool} {cells : List (Option Cell)}
    (usable : usableCells entries numeric = .ok cells) :
    cells = entries.map (FieldKind.ofNumeric numeric).cell? := by
  unfold usableCells at usable
  cases numeric with
  | true =>
      rcases (bind_eq_ok_iff _ _ _).mp usable with ⟨values, read, equal⟩
      cases equal
      have finite := congrArg (List.map (Option.map Cell.number)) (realEntries_finite read)
      rw [List.map_map, List.map_map] at finite
      refine Eq.trans (List.map_congr_left fun value _ => ?_) finite
      rw [Function.comp_apply, finite?]
      split <;> rfl
  | false =>
      rw [← List.map_id cells]
      refine map_of_mapM (fun entry cell found => ?_) usable
      rcases (bind_eq_ok_iff _ _ _).mp found with ⟨missing, known, equal⟩
      cases equal
      change _ = entry.label?.map Cell.label
      rw [Value.label?, known]
      cases missing <;> rfl

/-- The cells of real numbers. -/
theorem usableCells_reals (values : List Binary64) : usableCells (values.map .real) true =
    .ok (values.map fun value => (finite? value).map .number) := by
  have read : realEntries (values.map .real) = .ok values := by
    induction values with
    | nil => rfl
    | cons value rest induction =>
        unfold realEntries at induction ⊢
        rw [List.map_cons, List.mapM_cons, induction]
        rfl
  unfold usableCells
  rw [if_pos rfl, read]
  refine congrArg Except.ok (List.map_congr_left fun value _ => ?_)
  unfold finite?
  split <;> rfl

/-! ## Places -/

/-- The first places of a list and what is there, with nothing beyond its end. -/
theorem padded_map_take (view : α → Option β) (items : List α) (count : Nat) :
    (items.take count).map view ++ List.replicate (count - items.length) none =
      (List.range count).map fun place => items[place]?.bind view := by
  induction items generalizing count with
  | nil =>
      rw [List.take_nil, List.map_nil, List.nil_append, List.length_nil, Nat.sub_zero]
      refine (List.eq_replicate_iff.mpr ⟨?_, fun seen inside => ?_⟩).symm
      · rw [List.length_map, List.length_range]
      · rcases List.mem_map.mp inside with ⟨place, _, rfl⟩
        rfl
  | cons item rest induction =>
      cases count with
      | zero => rw [Nat.zero_sub]; rfl
      | succ count =>
          rw [List.range_succ_eq_map, List.map_cons, List.map_map, List.take_succ_cons,
            List.map_cons, List.cons_append, List.length_cons, Nat.add_sub_add_right, induction]
          rfl

theorem map_take (view : α → Option β) {items : List α} {count : Nat}
    (long : count ≤ items.length) :
    (items.take count).map view = (List.range count).map fun place => items[place]?.bind view := by
  rw [← padded_map_take, Nat.sub_eq_zero_of_le long, List.replicate_zero, List.append_nil]

theorem keep_map (marked : ι → Bool) (item : ι → α) (places : List ι) :
    keep (places.map marked) (places.map item) = (places.filter marked).map item := by
  unfold keep
  induction places with
  | nil => rfl
  | cons place rest induction =>
      rw [List.map_cons, List.map_cons, List.zip_cons_cons, List.filterMap_cons, induction]
      cases here : marked place <;> simp [here]

theorem map_keep (view : α → β) (marks : List Bool) (items : List α) :
    (keep marks items).map view = keep marks (items.map view) := by
  unfold keep
  rw [List.map_filterMap, List.zip_map_left, List.filterMap_map]
  congr 1
  funext ⟨item, kept⟩
  cases kept <;> rfl

/-- Rows that are put together from the cells, the colors and the bounds of the same places. -/
theorem rowsOf_filterMap (cells : ι → Option (Cell × Cell)) (color : ι → Option String)
    (bounds : ι → Option Binary64 × Option Binary64) (places : List ι) :
    rowsOf (places.filterMap cells)
      ((places.filter fun place => (cells place).isSome).map color)
      ((places.filter fun place => (cells place).isSome).map bounds) =
      places.filterMap fun place => (cells place).map fun (x, y) =>
        { x, y, color := color place, ymin := (bounds place).1, ymax := (bounds place).2 } := by
  induction places with
  | nil => rfl
  | cons place rest induction =>
      unfold rowsOf at induction ⊢
      cases here : cells place with
      | none => simpa [here] using induction
      | some pair => simpa [here] using induction

theorem entriesOf_eq_ok_iff {field : Value} {entries : List Value} :
    entriesOf field = .ok entries ↔ field.elements? = some entries := by
  unfold entriesOf
  cases field.elements? with
  | none => exact ⟨nofun, nofun⟩
  | some listed => exact ⟨fun same => congrArg some (Except.ok.inj same),
      fun same => congrArg Except.ok (Option.some.inj same)⟩

/-- The bounds that a binding gives for each place. -/
theorem boundEntries_finite {binding : Option Value} {entries : Option (List Value)} {count : Nat}
    {bounds : List Binary64} (bound : binding.map Value.elements? = entries.map some)
    (read : boundEntries binding count = .ok (some bounds)) :
    bounds.map finite? = (List.range count).map fun place =>
      (BoundColumns.entryAt? entries place).bind Value.finite? := by
  unfold boundEntries at read
  cases binding with
  | none => cases read
  | some field =>
      rcases (bind_eq_ok_iff _ _ _).mp read with ⟨numeric, _, read⟩
      cases numeric with
      | false => cases read
      | true =>
          rcases (bind_eq_ok_iff _ _ _).mp read with ⟨listed, found, read⟩
          rcases (bind_eq_ok_iff _ _ _).mp read with ⟨values, converted, equal⟩
          cases equal
          have same : entries = some listed := by
            rw [Option.map_some, entriesOf_eq_ok_iff.mp found] at bound
            cases entries with
            | none => cases bound
            | some entries => rw [Option.some.inj (Option.some.inj bound)]
          have finite := realEntries_finite converted
          -- There are as many values as entries were taken, and the rest is not there.
          have short : count - values.length = count - listed.length := by
            have length := congrArg List.length finite
            rw [List.length_map, List.length_map, List.length_take] at length
            omega
          rw [List.map_append, List.map_replicate, finite, short, same]
          exact padded_map_take _ _ _

/-! ## Cells, colors and bounds by their places -/

theorem pairsOf_places (xs ys : Nat → Option Cell) (places : List Nat) :
    pairsOf (places.map xs) (places.map ys) =
      places.filterMap fun place => return (← xs place, ← ys place) := by
  unfold pairsOf
  rw [List.zip_map', List.filterMap_map]
  rfl

/-- Which places have usable cells. -/
def marksOf (xCells yCells : List (Option Cell)) : List Bool :=
  (xCells.zip yCells).map fun (x, y) => x.isSome && y.isSome

theorem marksOf_places (xs ys : Nat → Option Cell) (places : List Nat) :
    marksOf (places.map xs) (places.map ys) =
      places.map fun place => ((return (← xs place, ← ys place) : Option _)).isSome := by
  unfold marksOf
  rw [List.zip_map', List.map_map]
  refine List.map_congr_left fun place _ => ?_
  dsimp only [Function.comp_apply]
  cases xs place with
  | none => rfl
  | some x => cases ys place <;> rfl

theorem colorGroups_eq_ok_iff {entries : List Value} {kept : List Bool}
    {labels domain : List String} : colorGroups entries kept = .ok (labels, domain) ↔
      (keep kept entries).mapM colorLabel = .ok labels ∧ ∃ numeric,
        (Value.list entries).holdsNumbers = .ok numeric ∧ domain = colorDomain labels numeric := by
  unfold colorGroups
  constructor
  · intro grouped
    obtain ⟨written, labelled, grouped⟩ := (bind_eq_ok_iff _ _ _).mp grouped
    obtain ⟨numeric, told, equal⟩ := (bind_eq_ok_iff _ _ _).mp grouped
    cases equal
    exact ⟨labelled, numeric, told, rfl⟩
  · rintro ⟨labelled, numeric, told, rfl⟩
    rw [labelled, told]
    rfl

/-- The colors of the kept places. -/
theorem labels_places {entries : List Value} {count : Nat} (long : count ≤ entries.length)
    {kept : Nat → Bool} {labels : List String}
    (labelled : (keep ((List.range count).map kept) (entries.take count)).mapM colorLabel =
      .ok labels) :
    labels.map some = ((List.range count).filter kept).map fun place =>
      entries[place]?.bind Value.color? := by
  have agree : ∀ entry label, colorLabel entry = .ok label → some label = entry.color? := by
    intro entry label found
    rw [Value.color?, found]
    rfl
  rw [map_of_mapM agree labelled, map_keep, map_take _ long, keep_map]

/-- The bounds of the kept places. -/
theorem keptBounds_places {low high : Option (List Binary64)} {count : Nat} {kept : Nat → Bool}
    {bounds : List (Option Binary64 × Option Binary64)}
    (found : keptBounds ((List.range count).map kept) low high = some bounds)
    {least greatest : Nat → Option Binary64}
    (lows : ∀ values, low = some values → values.map finite? = (List.range count).map least)
    (highs : ∀ values, high = some values → values.map finite? = (List.range count).map greatest) :
    bounds = ((List.range count).filter kept).map fun place => (least place, greatest place) := by
  cases low with
  | none => cases found
  | some lowest =>
      cases high with
      | none => cases found
      | some highest =>
          cases found
          have together : (lowest.zip highest).map (Prod.map finite? finite?) =
              (List.range count).map fun place => (least place, greatest place) := by
            rw [← List.zip_map' (f := least) (g := greatest), ← lows lowest rfl,
              ← highs highest rfl, List.zip_map]
          refine (map_keep (Prod.map finite? finite?) _ _).trans ?_
          rw [together, keep_map]

theorem length_rowsOf {cells : List (Cell × Cell)} {colors : List (Option String)}
    {bounds : List (Option Binary64 × Option Binary64)} (colored : colors.length = cells.length)
    (bounded : bounds.length = cells.length) :
    (rowsOf cells colors bounds).length = cells.length := by
  unfold rowsOf
  rw [List.length_map, List.length_zip, List.length_zip, colored, bounded, Nat.min_self,
    Nat.min_self]

/-- Fields of one length are not told about. -/
theorem lengthDiagnostics_even {lengths : List Nat} {count : Nat}
    (even : ∀ length ∈ lengths, length = count) {notes : List Diagnostic}
    (returned : (lengthDiagnostics lengths count).Returns notes) : notes = [] := by
  have all : lengths.all (fun length => decide (length = count)) = true :=
    List.all_eq_true.mpr fun length inside => decide_eq_true (even length inside)
  unfold lengthDiagnostics at returned
  rw [if_pos all] at returned
  exact (Except.ok.inj returned).symm

/-- Nor is a bound that is not short. -/
theorem boundDiagnostics_long {name : String} {entries : List Value} {count : Nat}
    (long : count ≤ entries.length) {notes : List Diagnostic}
    (returned : (boundDiagnostics name (some (.list entries)) count).Returns notes) :
    notes = [] := by
  change (if entries.length < count then _ else _ : Run (List Diagnostic)).Returns notes at returned
  rw [if_neg (Nat.not_lt.mpr long)] at returned
  exact (Except.ok.inj returned).symm

/-- Dropped rows are told once, with their number. -/
theorem droppedDiagnostics_counts {dropped kept : Nat} {numeric : Bool} {notes : List Diagnostic}
    (returned : (droppedDiagnostics dropped kept numeric).Returns notes) :
    notes.map (·.count) = if dropped = 0 then [] else [some (dropped : Int)] := by
  unfold droppedDiagnostics at returned
  split at returned
  · next none =>
      cases returned
      rw [if_pos none]
      rfl
  · next some =>
      simp only [warnOf, Run.returns_bind, Run.returns_pure] at returned
      rcases returned with ⟨_, ⟨_, _, rfl⟩, rfl⟩
      rw [if_neg some]
      rfl

end Projection

end ChartCompiler
