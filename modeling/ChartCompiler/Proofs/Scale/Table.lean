import ChartCompiler.Layer.Categories
import ChartCompiler.Proofs.Log.Outcome

/-!
# The scales that layers declare

Names and kinds of the scales over a table, whatever the kinds of its fields.
-/

namespace ChartCompiler

variable (table : Table) (source field : String)

@[simp] theorem Scale.banded_name (name : String) (padding : Option Value) (range : ScaleRange) :
    (Scale.banded name source field padding range).name = name := rfl

@[simp] theorem Scale.banded_kind (name : String) (padding : Option Value) (range : ScaleRange) :
    (Scale.banded name source field padding range).kind = .banded := rfl

namespace Table

@[simp] theorem xScale_name (role : AxisRole) (forceBand : Bool) (padding : Option Value) :
    (table.xScale source field role forceBand padding).name = "xscale" := by
  unfold xScale
  split <;> rfl

@[simp] theorem yScaleOf_name (continuous : Bool) (padding : Option Value) :
    (yScaleOf source field continuous padding).name = "yscale" := by
  unfold yScaleOf
  split <;> rfl

@[simp] theorem yScale_name : (table.yScale source field).name = "yscale" :=
  yScaleOf_name source field _ _

@[simp] theorem colorSlotScale_name : table.colorSlotScale.name = "colorpos" := rfl

@[simp] theorem xScale_range (role : AxisRole) (forceBand : Bool) (padding : Option Value) :
    (table.xScale source field role forceBand padding).range = .extent .width := by
  unfold xScale
  split <;> rfl

@[simp] theorem yScaleOf_range (continuous : Bool) (padding : Option Value) :
    (yScaleOf source field continuous padding).range = .extent .height := by
  unfold yScaleOf
  split <;> rfl

@[simp] theorem yScale_range : (table.yScale source field).range = .extent .height :=
  yScaleOf_range source field _ _

/-! ## The color scale -/

/-- The color scale with given colors. -/
def coloredBy (items : List Value) : Scale :=
  { name := ScaleName.color.text
    kind := .ordinal
    domain := .labels table.colorDomain
    range := .colors items }

@[simp] theorem coloredBy_name (items : List Value) : (table.coloredBy items).name = "color" := rfl

theorem groupColorScale_plain {table : Table} (style : Style) (plain : table.hasColorGroup = false) :
    table.groupColorScale style = .ok [] := by
  rw [groupColorScale, plain]
  rfl

/-- Without color groups there is no color scale; with them there is one, in colors of the
palette. -/
theorem groupColorScale_cases {table : Table} {style : Style} {colors : List Scale}
    (colored : table.groupColorScale style = .ok colors) :
    (table.hasColorGroup = false ∧ colors = []) ∨
      (table.hasColorGroup = true ∧ ∃ items, (∀ item ∈ items, item ∈ style.palette) ∧
        colors = [table.coloredBy items]) := by
  unfold groupColorScale at colored
  split at colored
  · next grouped =>
      simp only [colorScale, paletteColors, bind_eq_ok_iff, pure, Except.pure,
        Except.ok.injEq] at colored
      rcases colored with ⟨scale, ⟨items, chosen, rfl⟩, rfl⟩
      refine .inr ⟨grouped, items, fun item member => ?_, rfl⟩
      split at chosen
      · cases chosen
      · next usable =>
          cases chosen
          rcases List.mem_map.mp member with ⟨place, inside, rfl⟩
          have counted : 0 < table.colorDomain.length :=
            Nat.lt_of_le_of_lt (Nat.zero_le place) (List.mem_range.mp inside)
          have filled : 0 < style.palette.length := by
            rw [List.length_pos_iff]
            intro empty
            simp [empty, counted] at usable
          have bound := Nat.mod_lt place filled
          rw [List.getD_eq_getElem?_getD, List.getElem?_eq_getElem bound, Option.getD_some]
          exact List.getElem_mem bound
  · next ungrouped =>
      cases colored
      exact .inl ⟨by simpa using ungrouped, rfl⟩

end Table

end ChartCompiler
