import ChartCompiler.Proofs.Field.Missing
import ChartCompiler.Proofs.Table.Agreement
import ChartCompiler.Proofs.Table.Extents

/-!
# Rows in another order

Where all columns are equally long, their places may be taken in any order: the rows are taken in
this order, and nothing else changes. Kinds of fields ask for all entries alike, and the color domain
is sorted by what no two labels share. Only of equal numbers another one may stand for an extent.
-/

namespace ChartCompiler

/-! ## Items at places -/

/-- The items of a list at some places. -/
def atPlaces (places : List Nat) (items : List α) : List α := places.filterMap (items[·]?)

/-- What is seen by the places of items is seen of the items themselves. -/
theorem filterMap_range {items : List β} {view : β → Option α} {shown : Nat → Option α}
    (agree : ∀ index item, items[index]? = some item → shown index = view item) :
    (List.range items.length).filterMap shown = items.filterMap view := by
  have byPlace : (List.range items.length).map shown = items.map view := by
    rw [← items.take_length, Projection.map_take view (Nat.le_refl _), List.take_length]
    refine List.map_congr_left fun index inside => ?_
    have found := List.getElem?_eq_getElem (List.mem_range.mp inside)
    rw [agree index _ found, found]
    rfl
  have listed := congrArg (List.filterMap id) byPlace
  rwa [List.filterMap_map, List.filterMap_map] at listed

/-- What is seen in an order by the new places is seen of the old ones in that order. -/
theorem filterMap_order {places : List Nat} {count : Nat} (order : places.Perm (List.range count))
    {view shown : Nat → Option α}
    (agree : ∀ index place, places[index]? = some place → shown index = view place) :
    (List.range count).filterMap shown = places.filterMap view := by
  have length : places.length = count := by rw [order.length_eq, List.length_range]
  rw [← length, filterMap_range agree]

theorem atPlaces_perm {places : List Nat} {items : List α}
    (order : places.Perm (List.range items.length)) : (atPlaces places items).Perm items := by
  have listed : (List.range items.length).filterMap (items[·]?) = items :=
    (filterMap_range fun _ _ found => found).trans List.filterMap_some
  have permuted := order.filterMap (items[·]?)
  rwa [listed] at permuted

theorem getElem?_atPlaces {places : List Nat} {items : List α}
    (bounded : ∀ place ∈ places, place < items.length) (index : Nat) :
    (atPlaces places items)[index]? = places[index]?.bind (items[·]?) := by
  unfold atPlaces
  induction places generalizing index with
  | nil => rfl
  | cons place rest induction =>
      rw [List.forall_mem_cons] at bounded
      rw [List.filterMap_cons_some (List.getElem?_eq_getElem bounded.1)]
      cases index with
      | zero => exact (List.getElem?_eq_getElem bounded.1).symm
      | succ index => exact induction bounded.2 index

namespace Value

variable {entry : Value}

theorem IsScalar.not_isPoint (scalar : entry.IsScalar) : ¬ entry.IsPoint := by
  cases entry with
  | array => exact absurd scalar id
  | _ => exact id

/-- The label of a color is a text, as are the labels of what is no text. -/
theorem IsScalar.isWritten_colorLabel (scalar : entry.IsScalar)
    (written : ∀ content, entry = .text content → Text.IsWritten content) {label : String}
    (labelled : colorLabel entry = .ok label) : Text.IsWritten label := by
  cases entry with
  | null =>
      cases labelled
      exact Text.isWritten_of_unmarked (by decide)
  | bool value =>
      cases labelled
      cases value <;> exact Text.isWritten_of_unmarked (by decide)
  | text content =>
      cases labelled
      exact written content rfl
  | number number =>
      obtain ⟨missing, _, labelled⟩ := (bind_eq_ok_iff _ _ _).mp labelled
      cases missing with
      | true =>
          cases labelled
          exact Text.isWritten_of_unmarked (by decide)
      | false =>
          cases labelled
          exact number.isWritten_label
  | _ => exact absurd scalar id

/-- Whether entries are numbers does not depend on their order. -/
theorem holdsNumbers_perm {entries others : List Value} (order : others.Perm entries)
    (scalars : ∀ entry ∈ entries, entry.IsScalar) :
    (Value.list others).holdsNumbers = (Value.list entries).holdsNumbers := by
  rw [holdsNumbers_scalars_eq scalars,
    holdsNumbers_scalars_eq fun entry inside => scalars entry (order.mem_iff.mp inside)]
  unfold entriesAreNumeric
  simp only [order.any_eq, order.all_eq, order.isEmpty_eq]

end Value

/-! ## Columns of one length -/

namespace BoundColumns

/-- The columns that are there. -/
def fields (columns : BoundColumns) : List (List Value) :=
  [columns.x, columns.y] ++ columns.color.toList ++ columns.ymin.toList ++ columns.ymax.toList

/-- Columns of which the places are taken in an order. -/
def reorder (columns : BoundColumns) (places : List Nat) : BoundColumns :=
  { x := atPlaces places columns.x
    y := atPlaces places columns.y
    color := columns.color.map (atPlaces places)
    ymin := columns.ymin.map (atPlaces places)
    ymax := columns.ymax.map (atPlaces places) }

theorem fields_reorder (columns : BoundColumns) (places : List Nat) :
    (columns.reorder places).fields = columns.fields.map (atPlaces places) := by
  unfold fields reorder
  simp only [List.map_append, List.map_cons, List.map_nil, Option.toList_map]

section

variable {columns : BoundColumns}

theorem x_mem_fields : columns.x ∈ columns.fields := by simp [fields]

theorem y_mem_fields : columns.y ∈ columns.fields := by simp [fields]

theorem color_mem_fields : ∀ entries ∈ columns.color, entries ∈ columns.fields := by simp_all [fields]

theorem ymin_mem_fields : ∀ entries ∈ columns.ymin, entries ∈ columns.fields := by simp_all [fields]

theorem ymax_mem_fields : ∀ entries ∈ columns.ymax, entries ∈ columns.fields := by simp_all [fields]

/-- Whether all columns have one length. -/
def IsEven (columns : BoundColumns) (length : Nat) : Prop :=
  ∀ entries ∈ columns.fields, entries.length = length

/-- Whether all entries of columns are sized. -/
def IsSized (columns : BoundColumns) : Prop :=
  ∀ entries ∈ columns.fields, ∀ entry ∈ entries, entry.IsSized

theorem IsSized.scalar (sized : columns.IsSized) : columns.Scalar where
  x entry inside := (sized _ x_mem_fields entry inside).1
  y entry inside := (sized _ y_mem_fields entry inside).1
  color _ bound entry inside := (sized _ (color_mem_fields _ bound) entry inside).1
  ymin _ bound entry inside := (sized _ (ymin_mem_fields _ bound) entry inside).1
  ymax _ bound entry inside := (sized _ (ymax_mem_fields _ bound) entry inside).1

theorem exists_field_of_read {entry : Value} (inside : entry ∈ columns.read) :
    ∃ entries ∈ columns.fields, entry ∈ entries := by
  have bounds {bound : Option (List Value)} {count : Nat}
      (listed : ∀ entries ∈ bound, entries ∈ columns.fields)
      (inside : entry ∈ usedBounds bound count) : ∃ entries ∈ columns.fields, entry ∈ entries := by
    unfold usedBounds at inside
    split at inside
    · cases inside
    · next entries =>
        split at inside
        · exact ⟨entries, listed entries rfl, List.mem_of_mem_take inside⟩
        · cases inside
  unfold read at inside
  simp only [List.mem_append] at inside
  rcases inside with x | y | color | low | high
  · exact ⟨_, x_mem_fields, List.mem_of_mem_take x⟩
  · exact ⟨_, y_mem_fields, List.mem_of_mem_take y⟩
  · unfold usedColors at color
    split at color
    · cases color
    · next entries bound =>
        exact ⟨entries, color_mem_fields _ bound, List.mem_of_mem_take (Projection.keep_subset color)⟩
  · exact bounds ymin_mem_fields low
  · exact bounds ymax_mem_fields high

/-- Sized columns have a table. -/
theorem IsSized.projected (sized : columns.IsSized) :
    ∃ table, (Table.project columns.bindings).Returns table := by
  rcases Table.project_completes sized.scalar with ⟨⟨entry, inside, huge⟩, _⟩ | ⟨_, completed⟩
  · obtain ⟨entries, listed, member⟩ := exists_field_of_read inside
    exact absurd huge (sized entries listed entry member).not_isHuge
  · exact completed

end

section

variable {columns : BoundColumns} {count : Nat} (even : columns.IsEven count)

include even

theorem IsEven.count_eq : columns.count = count := by
  unfold BoundColumns.count
  rw [even _ x_mem_fields, even _ y_mem_fields, Nat.min_self]
  cases bound : columns.color with
  | none => rfl
  | some entries =>
      dsimp only
      rw [even _ (color_mem_fields _ bound), Nat.min_self]

theorem IsEven.take_eq {entries : List Value} (inside : entries ∈ columns.fields) :
    entries.take columns.count = entries := by
  rw [even.count_eq, ← even _ inside, List.take_length]

theorem IsEven.lengths_eq : ∀ length ∈ columns.lengths, length = columns.count := by
  rw [even.count_eq]
  unfold lengths
  rw [even _ x_mem_fields, even _ y_mem_fields]
  cases bound : columns.color with
  | none => simp
  | some entries => simp [even _ (color_mem_fields _ bound)]

section

variable {places : List Nat} (order : places.Perm (List.range count))

include order

theorem IsEven.atPlaces_perm {entries : List Value} (inside : entries ∈ columns.fields) :
    (atPlaces places entries).Perm entries := by
  apply ChartCompiler.atPlaces_perm
  rwa [even _ inside]

theorem IsEven.reorder : (columns.reorder places).IsEven count := by
  unfold IsEven
  rw [fields_reorder, List.forall_mem_map]
  intro entries inside
  rw [(even.atPlaces_perm order inside).length_eq, even _ inside]

theorem IsEven.sized_reorder (sized : columns.IsSized) : (columns.reorder places).IsSized := by
  unfold IsSized
  rw [fields_reorder, List.forall_mem_map]
  intro entries inside entry member
  exact sized entries inside entry ((even.atPlaces_perm order inside).mem_iff.mp member)

theorem IsEven.getElem?_reorder {entries : List Value} (inside : entries ∈ columns.fields)
    {index place : Nat} (found : places[index]? = some place) :
    (atPlaces places entries)[index]? = entries[place]? := by
  rw [getElem?_atPlaces, found]
  · rfl
  · intro place member
    rw [even _ inside]
    exact List.mem_range.mp (order.mem_iff.mp member)

theorem IsEven.entryAt?_reorder {column : Option (List Value)}
    (listed : ∀ entries ∈ column, entries ∈ columns.fields) {index place : Nat}
    (found : places[index]? = some place) :
    entryAt? (column.map (atPlaces places)) index = entryAt? column place := by
  cases column with
  | none => rfl
  | some entries => exact even.getElem?_reorder order (listed entries rfl) found

/-- Bounds that are taken for numbers are so in any order. -/
theorem IsEven.any_areNumbers_reorder (sized : columns.IsSized) {column : Option (List Value)}
    (listed : ∀ entries ∈ column, entries ∈ columns.fields) :
    (column.map (atPlaces places)).any Value.areNumbers = column.any Value.areNumbers := by
  cases column with
  | none => rfl
  | some entries =>
      have inside := listed entries rfl
      have same := Value.holdsNumbers_perm (even.atPlaces_perm order inside)
        fun entry member => (sized entries inside entry member).1
      rw [Option.map_some, Option.any_some, Option.any_some, Value.areNumbers, same, Value.areNumbers]

end

end

end BoundColumns

namespace Projection

section

variable {columns : BoundColumns} {count : Nat} {places : List Nat} {table shown : Table}
  (steps : Steps columns.bindings columns table)
  (others : Steps (columns.reorder places).bindings (columns.reorder places) shown)
  (even : columns.IsEven count) (sized : columns.IsSized)
  (order : places.Perm (List.range count))

include even in
theorem Steps.bounded_notes : steps.lengthNotes = [] ∧ steps.lowNotes = [] ∧ steps.highNotes = [] := by
  have bound {name : String} {column : Option (List Value)} {notes : List Diagnostic}
      (listed : ∀ entries ∈ column, entries ∈ columns.fields)
      (returned : (boundDiagnostics name (column.map .list) columns.count).Returns notes) :
      notes = [] := by
    cases column with
    | none => exact (Except.ok.inj returned).symm
    | some entries =>
        refine boundDiagnostics_long ?_ returned
        rw [even.count_eq, even _ (listed entries rfl)]
  exact ⟨lengthDiagnostics_even even.lengths_eq steps.differing,
    bound BoundColumns.ymin_mem_fields steps.lowShort,
    bound BoundColumns.ymax_mem_fields steps.highShort⟩

include steps others even sized order

theorem Steps.reorder_numeric :
    others.xNumeric = steps.xNumeric ∧ others.yNumeric = steps.yNumeric := by
  have evenOthers := even.reorder order
  have told {entries : List Value} (inside : entries ∈ columns.fields) :=
    Value.holdsNumbers_perm (even.atPlaces_perm order inside)
      fun entry member => (sized entries inside entry member).1
  have xTold := others.xTold
  have yTold := others.yTold
  rw [evenOthers.take_eq BoundColumns.x_mem_fields] at xTold
  rw [evenOthers.take_eq BoundColumns.y_mem_fields] at yTold
  have xSame := steps.xTold
  have ySame := steps.yTold
  rw [even.take_eq BoundColumns.x_mem_fields, ← told BoundColumns.x_mem_fields] at xSame
  rw [even.take_eq BoundColumns.y_mem_fields, ← told BoundColumns.y_mem_fields] at ySame
  exact ⟨Except.ok.inj (xTold.symm.trans xSame), Except.ok.inj (yTold.symm.trans ySame)⟩

theorem Steps.reorder_kinds : shown.xKind = table.xKind ∧ shown.yKind = table.yKind :=
  let ⟨xNumeric, yNumeric⟩ := steps.reorder_numeric others even sized order
  steps.kinds_of_numeric others xNumeric yNumeric

theorem Steps.reorder_hasInterval : shown.hasInterval = table.hasInterval := by
  rw [others.hasInterval_eq, steps.hasInterval_eq,
    (steps.reorder_numeric others even sized order).2,
    ← even.any_areNumbers_reorder order sized BoundColumns.ymin_mem_fields,
    ← even.any_areNumbers_reorder order sized BoundColumns.ymax_mem_fields]
  rfl

/-! ## Places -/

theorem Steps.reorder_cellsAt {index place : Nat} (found : places[index]? = some place) :
    (columns.reorder places).cellsAt shown index = columns.cellsAt table place := by
  obtain ⟨xKind, yKind⟩ := steps.reorder_kinds others even sized order
  have x := even.getElem?_reorder order BoundColumns.x_mem_fields found
  have y := even.getElem?_reorder order BoundColumns.y_mem_fields found
  unfold BoundColumns.cellsAt BoundColumns.reorder
  rw [xKind, yKind, x, y]

/-- The labels of the kept places are the same in another order. -/
theorem Steps.reorder_labels {entries : List Value} (bound : columns.color = some entries) :
    others.labels.Perm steps.labels := by
  have otherBound : (columns.reorder places).color = some (atPlaces places entries) := by
    rw [BoundColumns.reorder, bound]
    rfl
  have labelled (index place : Nat) (found : places[index]? = some place) :
      (columns.reorder places).labelAt index = columns.labelAt place := by
    have color := even.entryAt?_reorder order BoundColumns.color_mem_fields found
    unfold BoundColumns.labelAt BoundColumns.reorder
    rw [color]
  apply (List.map_perm_map_iff (Option.some_injective String)).mp
  rw [others.labels_eq otherBound, steps.labels_eq bound, BoundColumns.map_keptPlaces,
    BoundColumns.map_keptPlaces, (even.reorder order).count_eq, even.count_eq]
  rw [filterMap_order order fun index place found => by
    rw [steps.reorder_cellsAt others even sized order found, labelled index place found]]
  exact order.filterMap _

/-! ## Groups -/

variable (written : ∀ entries ∈ columns.color, ∀ content, Value.text content ∈ entries →
  Text.IsWritten content)

include written

theorem Steps.reorder_domain : others.domain = steps.domain := by
  cases bound : columns.color with
  | none =>
      have otherBound : (columns.reorder places).color = none := by
        rw [BoundColumns.reorder, bound]
        rfl
      rw [others.ungrouped otherBound, steps.ungrouped bound]
  | some entries =>
      have otherBound : (columns.reorder places).color = some (atPlaces places entries) := by
        rw [BoundColumns.reorder, bound]
        rfl
      have inside := BoundColumns.color_mem_fields entries bound
      have scalars : ∀ entry ∈ entries, entry.IsScalar :=
        fun entry member => (sized entries inside entry member).1
      have labels := steps.reorder_labels others even sized order bound
      obtain ⟨numeric, told, domain⟩ := steps.domain_eq bound
      obtain ⟨otherNumeric, otherTold, otherDomain⟩ := others.domain_eq otherBound
      have same : otherNumeric = numeric := by
        rw [(even.reorder order).take_eq (BoundColumns.color_mem_fields _ otherBound),
          Value.holdsNumbers_perm (even.atPlaces_perm order inside) scalars] at otherTold
        rw [even.take_eq inside] at told
        exact Except.ok.inj (otherTold.symm.trans told)
      rw [domain, otherDomain, same]
      apply colorDomain_congr (fun _ => labels.mem_iff)
      · intro label listed
        obtain ⟨entry, member, labelled⟩ := steps.exists_entry bound listed
        have taken := List.mem_of_mem_take member
        exact (scalars entry taken).isWritten_colorLabel
          (fun content same => written entries bound content (same ▸ taken)) labelled
      · rintro rfl
        exact steps.labels_ordered bound told
          fun entry member => (scalars entry (List.mem_of_mem_take member)).not_isPoint

theorem Steps.reorder_groups :
    shown.hasColorGroup = table.hasColorGroup ∧ shown.colorDomain = table.colorDomain :=
  steps.groups_of_domain others (steps.reorder_domain others even sized order written)

/-! ## Rows -/

theorem Steps.reorder_row? {index place : Nat} (found : places[index]? = some place) :
    (columns.reorder places).row? shown index = columns.row? table place := by
  have cells := steps.reorder_cellsAt others even sized order found
  have color := even.entryAt?_reorder order BoundColumns.color_mem_fields found
  have low := even.entryAt?_reorder order BoundColumns.ymin_mem_fields found
  have high := even.entryAt?_reorder order BoundColumns.ymax_mem_fields found
  have groups := (steps.reorder_groups others even sized order written).1
  have interval := steps.reorder_hasInterval others even sized order
  unfold BoundColumns.row? BoundColumns.colorAt BoundColumns.boundAt
  rw [cells, groups, interval]
  unfold BoundColumns.reorder
  rw [color, low, high]

theorem Steps.reorder_rows : shown.rows = places.filterMap (columns.row? table) := by
  rw [others.rows_eq (BoundColumns.of_bindings _), (even.reorder order).count_eq]
  exact filterMap_order order fun index place found =>
    steps.reorder_row? others even sized order written found

theorem Steps.reorder_rows_perm : shown.rows.Perm table.rows := by
  rw [steps.reorder_rows others even sized order written, steps.rows_eq columns.of_bindings,
    even.count_eq]
  exact order.filterMap _

theorem Steps.reorder_counts : shown.givenCount = table.givenCount ∧
    (pairsOf others.xCells others.yCells).length = (pairsOf steps.xCells steps.yCells).length ∧
      shown.droppedCount = table.droppedCount := by
  have rows := (steps.reorder_rows_perm others even sized order written).length_eq
  rw [others.length_rows (BoundColumns.of_bindings _), steps.length_rows columns.of_bindings] at rows
  rw [others.given, others.missing, steps.given, steps.missing, rows, even.count_eq,
    (even.reorder order).count_eq]
  exact ⟨rfl, rfl, rfl⟩

theorem Steps.reorder_diagnostics : shown.diagnostics = table.diagnostics := by
  obtain ⟨_, kept, droppedCount⟩ := steps.reorder_counts others even sized order written
  obtain ⟨xNumeric, yNumeric⟩ := steps.reorder_numeric others even sized order
  have dropped := others.dropped
  rw [droppedCount, kept, xNumeric, yNumeric] at dropped
  obtain ⟨lengths, lows, highs⟩ := steps.bounded_notes even
  obtain ⟨otherLengths, otherLows, otherHighs⟩ := others.bounded_notes (even.reorder order)
  rw [others.diagnostics, steps.diagnostics, lengths, lows, highs, otherLengths, otherLows,
    otherHighs, dropped.unique steps.dropped]

end

end Projection

open Projection

/-- Columns of one length have the same table in any order of their places, but its rows are in that
order. Colors that are texts are written ones, as all texts of values are. -/
theorem Table.project_reordered {columns : BoundColumns} {count : Nat} {places : List Nat}
    (even : columns.IsEven count) (sized : columns.IsSized)
    (written : ∀ entries ∈ columns.color, ∀ content, Value.text content ∈ entries →
      Text.IsWritten content)
    (order : places.Perm (List.range count)) :
    ∃ table shown, (Table.project columns.bindings).Returns table ∧
      (Table.project (columns.reorder places).bindings).Returns shown ∧
      table.rows = (List.range count).filterMap (columns.row? table) ∧
      shown.rows = places.filterMap (columns.row? table) ∧
      shown.SameSummary table ∧ shown.hasInterval = table.hasInterval ∧
      shown.diagnostics = table.diagnostics ∧ shown.SameExtents table := by
  obtain ⟨table, returned⟩ := sized.projected
  obtain ⟨shown, otherReturned⟩ := (even.sized_reorder order sized).projected
  obtain ⟨steps⟩ := Table.project_stepsOf returned columns.of_bindings
  obtain ⟨others⟩ := Table.project_stepsOf otherReturned (BoundColumns.of_bindings _)
  have rows := steps.rows_eq columns.of_bindings
  rw [even.count_eq] at rows
  obtain ⟨xKind, yKind⟩ := steps.reorder_kinds others even sized order
  obtain ⟨hasColorGroup, colorDomain⟩ := steps.reorder_groups others even sized order written
  obtain ⟨given, _, dropped⟩ := steps.reorder_counts others even sized order written
  have permuted := steps.reorder_rows_perm others even sized order written
  exact ⟨table, shown, returned, otherReturned, rows,
    steps.reorder_rows others even sized order written,
    ⟨xKind, yKind, hasColorGroup, colorDomain, given, dropped⟩,
    steps.reorder_hasInterval others even sized order,
    steps.reorder_diagnostics others even sized order written,
    (Table.project_holds returned).sameExtents permuted xKind yKind⟩

/-- Columns of one length, with a missing x and with numbers and a text for colors. -/
def evenColumns : BoundColumns :=
  { x := [.text "a", .null, .text "b"]
    y := [.real 1.0, .real 2.0, .real 4.0]
    color := some [.whole 2, .null, .text "h"]
    ymin := some [.real 0.5, .real 1.0, .real .nan]
    ymax := some [.whole 2, .whole 3, .whole 5] }

/-- The last place comes first. -/
theorem Table.project_reordered_last : ∃ table shown,
    (Table.project evenColumns.bindings).Returns table ∧
      (Table.project (evenColumns.reorder [2, 0, 1]).bindings).Returns shown ∧
      table.rows = (List.range 3).filterMap (evenColumns.row? table) ∧
      shown.rows = [2, 0, 1].filterMap (evenColumns.row? table) ∧
      shown.SameSummary table ∧ shown.hasInterval = table.hasInterval ∧
      shown.diagnostics = table.diagnostics ∧ shown.SameExtents table := by
  have even : evenColumns.IsEven 3 := by simp [evenColumns, BoundColumns.IsEven, BoundColumns.fields]
  have sized : evenColumns.IsSized := by
    simp [evenColumns, BoundColumns.IsSized, BoundColumns.fields, Value.IsSized, Value.IsScalar,
      Value.fits64]
  refine Table.project_reordered even sized ?_ (by decide)
  rintro entries ⟨⟩ content inside
  have same : content = "h" := by simpa using inside
  rw [same]
  exact Text.isWritten_of_unmarked (by decide)

end ChartCompiler
