import ChartCompiler.Proofs.Field.Labels
import ChartCompiler.Proofs.Scale.Table
import ChartCompiler.Proofs.Table.Alignment
import ChartCompiler.Proofs.Table.ColorDomain

/-!
# Colors of projected tables

A projected table has color groups exactly if its kept places have different labels. Then the color
domain has the labels of all rows, each once and in order, and a color scale gives each of them one
color.
-/

namespace ChartCompiler

/-- Whether colors give each label of the color domain, at the one place that it has there, one
color of a palette. -/
def Table.PaintedBy (table : Table) (palette colors : List Value) : Prop :=
  colors.length = table.colorDomain.length ∧ ∀ label ∈ table.colorDomain, ∃ place color,
    (∀ other, table.colorDomain[other]? = some label ↔ other = place) ∧
      colors[place]? = some color ∧ palette[place % palette.length]? = some color

/-- What a table says of the colors of columns, of which `entries` are the colors. -/
structure Table.Colored (table : Table) (columns : BoundColumns) (entries : List Value) : Prop where
  rows : table.rows.map (·.color) = (columns.keptPlaces table).map fun place =>
    if table.hasColorGroup then columns.labelAt place else none
  labelled : ∀ place ∈ columns.keptPlaces table, ∃ label, columns.labelAt place = some label
  grouped : table.hasColorGroup = true ↔ ∃ first ∈ columns.keptPlaces table,
    ∃ second ∈ columns.keptPlaces table, columns.labelAt first ≠ columns.labelAt second
  colors : ∀ row ∈ table.rows, row.color.isSome = table.hasColorGroup
  ungrouped : table.hasColorGroup = false → table.colorDomain = []
  labels : ∀ label, label ∈ table.colorDomain ↔ ∃ row ∈ table.rows, row.color = some label
  once : table.colorDomain.Nodup
  -- The undefined number has no place in an order. Only arrays without dimensions are written so.
  order : ∃ numeric, (Value.list (entries.take columns.count)).holdsNumbers = .ok numeric ∧
    if numeric then
      (∀ label ∈ table.colorDomain, IsOrdered label) → table.colorDomain.Pairwise NumericOrder
    else table.colorDomain.Pairwise fun left right => codePoints left ≤ codePoints right
  ordered : (Value.list (entries.take columns.count)).holdsNumbers = .ok true →
    (∀ entry ∈ entries.take columns.count, ¬ entry.IsPoint) →
      ∀ label ∈ table.colorDomain, IsOrdered label
  scale : ∀ style : Style, style.palette ≠ [] → ∃ colors,
    table.colorScale style = .ok (table.coloredBy colors) ∧ table.PaintedBy style.palette colors

namespace Projection

section

variable {bindings : Bindings} {columns : BoundColumns} {table : Table} {entries : List Value}
  (steps : Steps bindings columns table)

include steps

theorem Steps.mem_labels (bound : columns.color = some entries) {label : String} :
    label ∈ steps.labels ↔ ∃ place ∈ columns.keptPlaces table,
      columns.labelAt place = some label := by
  rw [← List.mem_map, ← steps.labels_eq bound]
  simp

theorem Steps.labelled (bound : columns.color = some entries) :
    ∀ place ∈ columns.keptPlaces table, ∃ label ∈ steps.labels,
      columns.labelAt place = some label := by
  intro place inside
  have listed : columns.labelAt place ∈ steps.labels.map some := by
    rw [steps.labels_eq bound]
    exact List.mem_map_of_mem inside
  obtain ⟨label, member, same⟩ := List.mem_map.mp listed
  exact ⟨label, member, same.symm⟩

theorem Steps.domain_eq (bound : columns.color = some entries) : ∃ numeric,
    (Value.list (entries.take columns.count)).holdsNumbers = .ok numeric ∧
      steps.domain = colorDomain steps.labels numeric :=
  (colorGroups_eq_ok_iff.mp (steps.grouped entries bound)).2

theorem Steps.colors_eq_ite (bound : columns.color = some entries) : ∃ numeric,
    (Value.list (entries.take columns.count)).holdsNumbers = .ok numeric ∧
      table.colorDomain =
        if table.hasColorGroup then colorDomain steps.labels numeric else [] := by
  obtain ⟨numeric, told, domain⟩ := steps.domain_eq bound
  refine ⟨numeric, told, ?_⟩
  rw [steps.colors, steps.colorGroup, domain]
  simp only [decide_eq_true_eq]

/-! ## Groups -/

theorem Steps.hasColorGroup_iff (bound : columns.color = some entries) :
    table.hasColorGroup = true ↔ ∃ first ∈ columns.keptPlaces table,
      ∃ second ∈ columns.keptPlaces table, columns.labelAt first ≠ columns.labelAt second := by
  obtain ⟨numeric, _, domain⟩ := steps.domain_eq bound
  rw [steps.colorGroup, decide_eq_true_iff, domain, one_lt_length_colorDomain]
  constructor
  · rintro ⟨first, left, second, right, different⟩
    rw [steps.mem_labels bound] at left right
    obtain ⟨place, inside, here⟩ := left
    obtain ⟨other, within, there⟩ := right
    refine ⟨place, inside, other, within, ?_⟩
    rw [here, there]
    exact fun same => different (Option.some.inj same)
  · rintro ⟨place, inside, other, within, different⟩
    obtain ⟨first, left, here⟩ := steps.labelled bound place inside
    obtain ⟨second, right, there⟩ := steps.labelled bound other within
    refine ⟨first, left, second, right, ?_⟩
    rintro rfl
    exact different (here.trans there.symm)

theorem Steps.colors_rows (of : columns.Of bindings) :
    table.rows.map (·.color) = (columns.keptPlaces table).map (columns.colorAt table) := by
  rw [steps.rows_eq of, List.map_filterMap, columns.map_keptPlaces]
  congr 1
  funext place
  unfold BoundColumns.row?
  cases columns.cellsAt table place <;> rfl

theorem Steps.isSome_color (of : columns.Of bindings) (bound : columns.color = some entries) :
    ∀ row ∈ table.rows, row.color.isSome = table.hasColorGroup := by
  intro row inside
  have listed : row.color ∈ table.rows.map (·.color) := List.mem_map_of_mem inside
  rw [steps.colors_rows of] at listed
  obtain ⟨place, kept, same⟩ := List.mem_map.mp listed
  obtain ⟨label, _, here⟩ := steps.labelled bound place kept
  rw [← same]
  unfold BoundColumns.colorAt
  split
  · next grouped =>
      rw [grouped]
      exact Option.isSome_iff_exists.mpr ⟨label, here⟩
  · next single => exact (Bool.eq_false_iff.mpr single).symm

/-! ## The domain -/

theorem Steps.domain_nil (bound : columns.color = some entries)
    (single : table.hasColorGroup = false) : table.colorDomain = [] := by
  obtain ⟨_, _, listed⟩ := steps.colors_eq_ite bound
  rwa [single] at listed

theorem Steps.mem_domain (bound : columns.color = some entries)
    (grouped : table.hasColorGroup = true) {label : String} : label ∈ table.colorDomain ↔
      ∃ place ∈ columns.keptPlaces table, columns.labelAt place = some label := by
  obtain ⟨_, _, listed⟩ := steps.colors_eq_ite bound
  rw [listed, if_pos grouped, mem_colorDomain, steps.mem_labels bound]

theorem Steps.mem_domain_iff_row (of : columns.Of bindings) (bound : columns.color = some entries)
    (label : String) : label ∈ table.colorDomain ↔ ∃ row ∈ table.rows, row.color = some label := by
  rw [← List.mem_map (f := Row.color), steps.colors_rows of, List.mem_map]
  unfold BoundColumns.colorAt
  cases grouped : table.hasColorGroup with
  | true => exact steps.mem_domain bound grouped
  | false => simp [steps.domain_nil bound grouped]

theorem Steps.once (bound : columns.color = some entries) :
    table.colorDomain.Nodup := by
  obtain ⟨_, _, listed⟩ := steps.colors_eq_ite bound
  rw [listed]
  split
  · exact nodup_colorDomain _ _
  · exact List.nodup_nil

theorem Steps.order (bound : columns.color = some entries) : ∃ numeric,
    (Value.list (entries.take columns.count)).holdsNumbers = .ok numeric ∧
      if numeric then
        (∀ label ∈ table.colorDomain, IsOrdered label) → table.colorDomain.Pairwise NumericOrder
      else table.colorDomain.Pairwise fun left right => codePoints left ≤ codePoints right := by
  obtain ⟨numeric, told, listed⟩ := steps.colors_eq_ite bound
  refine ⟨numeric, told, ?_⟩
  rw [listed]
  cases numeric with
  | true =>
      rw [if_pos rfl]
      split
      · intro ordered
        apply colorDomain_numeric_pairwise
        intro label inside
        exact ordered label (mem_colorDomain.mpr inside)
      · exact fun _ => .nil
  | false =>
      rw [if_neg Bool.false_ne_true]
      split
      · exact colorDomain_pairwise steps.labels
      · exact .nil

theorem Steps.exists_entry (bound : columns.color = some entries) {label : String}
    (inside : label ∈ steps.labels) :
    ∃ entry ∈ entries.take columns.count, colorLabel entry = .ok label := by
  obtain ⟨place, kept, here⟩ := (steps.mem_labels bound).mp inside
  have near := List.mem_range.mp (List.mem_filter.mp kept).1
  obtain ⟨entry, found, labelled⟩ := Option.bind_eq_some_iff.mp here
  rw [bound] at found
  refine ⟨entry, ?_, eq_ok_of_toOption labelled⟩
  apply List.mem_of_getElem? (i := place)
  rw [List.getElem?_take_of_lt near]
  exact found

theorem Steps.labels_ordered (bound : columns.color = some entries)
    (numeric : (Value.list (entries.take columns.count)).holdsNumbers = .ok true)
    (extended : ∀ entry ∈ entries.take columns.count, ¬ entry.IsPoint) :
    ∀ label ∈ steps.labels, IsOrdered label := by
  intro label inside
  obtain ⟨entry, member, written⟩ := steps.exists_entry bound inside
  have other := Value.not_isNamed_of_holdsNumbers numeric entry member
  exact (Value.opens_colorLabel other (extended entry member) written).real?_ne_nan

theorem Steps.ordered (bound : columns.color = some entries)
    (numeric : (Value.list (entries.take columns.count)).holdsNumbers = .ok true)
    (extended : ∀ entry ∈ entries.take columns.count, ¬ entry.IsPoint) :
    ∀ label ∈ table.colorDomain, IsOrdered label := by
  intro label inside
  obtain ⟨_, _, listed⟩ := steps.colors_eq_ite bound
  rw [listed] at inside
  split at inside
  · exact steps.labels_ordered bound numeric extended label (mem_colorDomain.mp inside)
  · cases inside

end

end Projection

open Projection

/-- A color scale needs a palette and a label in one place only. -/
theorem Table.colorScale_ok {table : Table} {style : Style} (palette : style.palette ≠ [])
    (once : table.colorDomain.Nodup) : ∃ colors,
      table.colorScale style = .ok (table.coloredBy colors) ∧
        table.PaintedBy style.palette colors := by
  have filled := List.length_pos_iff.mpr palette
  have usable : (style.palette.isEmpty && decide (0 < table.colorDomain.length)) = false := by
    rw [List.isEmpty_eq_false_iff.mpr palette, Bool.false_and]
  refine ⟨(List.range table.colorDomain.length).map fun place =>
    style.palette.getD (place % style.palette.length) .null, ?_, ?_, fun label inside => ?_⟩
  · unfold colorScale paletteColors
    rw [usable]
    rfl
  · rw [List.length_map, List.length_range]
  · obtain ⟨place, within, here⟩ := List.mem_iff_getElem.mp inside
    have found := List.getElem?_eq_some_iff.mpr ⟨within, here⟩
    have bounded := Nat.mod_lt place filled
    refine ⟨place, style.palette[place % style.palette.length], fun other => ⟨fun there => ?_, ?_⟩,
      ?_, List.getElem?_eq_getElem bounded⟩
    · exact ((List.getElem?_inj within once).mp (found.trans there.symm)).symm
    · rintro rfl
      exact found
    · rw [List.getElem?_map, List.getElem?_range within, Option.map_some,
        List.getD_eq_getElem?_getD, List.getElem?_eq_getElem bounded, Option.getD_some]

theorem BoundColumns.Of.exists_color {bindings : Bindings} {columns : BoundColumns} {field : Value}
    (of : columns.Of bindings) (bound : bindings.color = some field) :
    ∃ entries, columns.color = some entries := by
  have same := of.color
  rw [bound] at same
  cases found : columns.color with
  | none =>
      rw [found] at same
      cases same
  | some entries => exact ⟨entries, rfl⟩

/-- The color domain of a projected table covers its rows. -/
theorem Table.project_colored {bindings : Bindings} {field : Value} {table : Table}
    (returned : (Table.project bindings).Returns table) (bound : bindings.color = some field) :
    ∃ (columns : BoundColumns) (entries : List Value), columns.Of bindings ∧
      columns.color = some entries ∧ table.Colored columns entries := by
  obtain ⟨columns, of, ⟨steps⟩⟩ := Table.project_steps returned
  obtain ⟨entries, listed⟩ := of.exists_color bound
  have once := steps.once listed
  exact ⟨columns, entries, of, listed,
    { rows := steps.colors_rows of
      labelled := fun place inside =>
        let ⟨label, _, here⟩ := steps.labelled listed place inside
        ⟨label, here⟩
      grouped := steps.hasColorGroup_iff listed
      colors := steps.isSome_color of listed
      ungrouped := steps.domain_nil listed
      labels := steps.mem_domain_iff_row of listed
      once
      order := steps.order listed
      ordered := steps.ordered listed
      scale := fun style palette => Table.colorScale_ok palette once }⟩

/-- Two of three categories are left, and their colors differ. -/
theorem project_colored_ragged : (Table.project raggedBindings).Returns raggedTable ∧
    raggedBindings.color = some (.list [.text "g", .text "i", .text "h"]) ∧
    ∃ (columns : BoundColumns) (entries : List Value), columns.Of raggedBindings ∧
      columns.color = some entries ∧ raggedTable.Colored columns entries :=
  ⟨raggedBindings_projected, rfl, Table.project_colored raggedBindings_projected rfl⟩

end ChartCompiler
