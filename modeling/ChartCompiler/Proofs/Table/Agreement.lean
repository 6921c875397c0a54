import ChartCompiler.Proofs.Table.Colors

/-!
# Columns with the same points

Columns that have the same x and the same y at all places that count are cleaned alike: the same
places are kept, with the same cells.
-/

namespace ChartCompiler

/-- Whether two tables say the same of their fields, their groups and how many rows they have. -/
structure Table.SameSummary (left right : Table) : Prop where
  xKind : left.xKind = right.xKind
  yKind : left.yKind = right.yKind
  hasColorGroup : left.hasColorGroup = right.hasColorGroup
  colorDomain : left.colorDomain = right.colorDomain
  givenCount : left.givenCount = right.givenCount
  droppedCount : left.droppedCount = right.droppedCount

namespace BoundColumns

/-- Whether columns have the same x and y at the places that count. -/
structure SamePoints (columns others : BoundColumns) : Prop where
  count : others.count = columns.count
  x : others.x.take columns.count = columns.x.take columns.count
  y : others.y.take columns.count = columns.y.take columns.count

end BoundColumns

namespace Projection

theorem getElem?_of_take_eq {left right : List α} {count place : Nat}
    (same : left.take count = right.take count) (near : place < count) :
    left[place]? = right[place]? := by
  rw [← List.getElem?_take_of_lt near, same, List.getElem?_take_of_lt near]

section

variable {bindings otherBindings : Bindings} {columns otherColumns : BoundColumns}
  {left right : Table} (steps : Steps bindings columns left)
  (others : Steps otherBindings otherColumns right)

theorem Steps.kinds_of_numeric (xNumeric : others.xNumeric = steps.xNumeric)
    (yNumeric : others.yNumeric = steps.yNumeric) :
    right.xKind = left.xKind ∧ right.yKind = left.yKind := by
  rw [others.xKind, others.yKind, steps.xKind, steps.yKind, xNumeric, yNumeric]
  exact ⟨rfl, rfl⟩

theorem Steps.groups_of_domain (domains : others.domain = steps.domain) :
    right.hasColorGroup = left.hasColorGroup ∧ right.colorDomain = left.colorDomain := by
  rw [others.colorGroup, others.colors, steps.colorGroup, steps.colors, domains]
  exact ⟨rfl, rfl⟩

variable (same : columns.SamePoints otherColumns)

include steps others same

theorem Steps.same_numeric :
    others.xNumeric = steps.xNumeric ∧ others.yNumeric = steps.yNumeric := by
  have xTold := others.xTold
  have yTold := others.yTold
  rw [same.count, same.x] at xTold
  rw [same.count, same.y] at yTold
  exact ⟨Except.ok.inj (xTold.symm.trans steps.xTold), Except.ok.inj (yTold.symm.trans steps.yTold)⟩

theorem Steps.same_kinds : right.xKind = left.xKind ∧ right.yKind = left.yKind :=
  let ⟨xNumeric, yNumeric⟩ := steps.same_numeric others same
  steps.kinds_of_numeric others xNumeric yNumeric

theorem Steps.same_cells : others.xCells = steps.xCells ∧ others.yCells = steps.yCells := by
  have xUsable := others.xUsable
  have yUsable := others.yUsable
  obtain ⟨xNumeric, yNumeric⟩ := steps.same_numeric others same
  rw [same.count, same.x, xNumeric] at xUsable
  rw [same.count, same.y, yNumeric] at yUsable
  exact ⟨Except.ok.inj (xUsable.symm.trans steps.xUsable),
    Except.ok.inj (yUsable.symm.trans steps.yUsable)⟩

theorem Steps.same_cellsAt {place : Nat} (near : place < columns.count) :
    otherColumns.cellsAt right place = columns.cellsAt left place := by
  obtain ⟨xKind, yKind⟩ := steps.same_kinds others same
  unfold BoundColumns.cellsAt
  rw [xKind, yKind, getElem?_of_take_eq same.x near, getElem?_of_take_eq same.y near]

theorem Steps.same_keptPlaces : otherColumns.keptPlaces right = columns.keptPlaces left := by
  unfold BoundColumns.keptPlaces
  rw [same.count]
  refine List.filter_congr fun place inside => ?_
  rw [steps.same_cellsAt others same (List.mem_range.mp inside)]

theorem Steps.same_dropped :
    right.givenCount = left.givenCount ∧ right.droppedCount = left.droppedCount := by
  obtain ⟨xCells, yCells⟩ := steps.same_cells others same
  rw [others.given, others.missing, steps.given, steps.missing, xCells, yCells, same.count]
  exact ⟨rfl, rfl⟩

theorem Steps.same_droppedNotes : others.droppedNotes = steps.droppedNotes := by
  have dropped := others.dropped
  obtain ⟨xCells, yCells⟩ := steps.same_cells others same
  obtain ⟨xNumeric, yNumeric⟩ := steps.same_numeric others same
  rw [(steps.same_dropped others same).2, xCells, yCells, xNumeric, yNumeric] at dropped
  exact dropped.unique steps.dropped

/-- The labels of the kept places, if these have the same colors. -/
theorem Steps.same_labels {entries otherEntries : List Value} (bound : columns.color = some entries)
    (otherBound : otherColumns.color = some otherEntries)
    (agree : ∀ place ∈ columns.keptPlaces left, otherEntries[place]? = entries[place]?) :
    others.labels = steps.labels := by
  apply List.map_injective_iff.mpr (Option.some_injective String)
  rw [others.labels_eq otherBound, steps.labels_eq bound, steps.same_keptPlaces others same]
  apply List.map_congr_left
  intro place inside
  unfold BoundColumns.labelAt
  rw [bound, otherBound]
  exact congrArg (Option.bind · Value.color?) (agree place inside)

end

end Projection

end ChartCompiler
