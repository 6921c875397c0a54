import ChartCompiler.Proofs.Number.Order
import ChartCompiler.Proofs.Table.Finite
import Mathlib.Data.List.Perm.Basic

/-!
# Extents of rows in another order

The ends of an extent have the least and the greatest place among its numbers. The order in which
the numbers are met decides only which of the equal ones stands at an end.
-/

namespace ChartCompiler

namespace Extent

/-- Whether two extents have equal numbers at their ends. -/
structure Equals (left right : Extent) : Prop where
  least : left.least.equals right.least = true
  greatest : left.greatest.equals right.greatest = true

theorem rank_lesser {left right : Binary64} (leftDefined : left ≠ .nan)
    (rightDefined : right ≠ .nan) : (lesser left right).rank = min left.rank right.rank := by
  have less := Binary64.lessThan_iff rightDefined leftDefined
  unfold lesser
  split
  · next lower => exact (min_eq_right (le_of_lt (less.mp lower))).symm
  · next other => exact (min_eq_left (not_lt.mp (mt less.mpr other))).symm

theorem rank_greater {left right : Binary64} (leftDefined : left ≠ .nan)
    (rightDefined : right ≠ .nan) : (greater left right).rank = max left.rank right.rank := by
  have less := Binary64.lessThan_iff leftDefined rightDefined
  unfold greater
  split
  · next upper => exact (max_eq_right (le_of_lt (less.mp upper))).symm
  · next other => exact (max_eq_left (not_lt.mp (mt less.mpr other))).symm

/-- Choosing among numbers chooses among their places. -/
theorem rank_foldl {choose : Binary64 → Binary64 → Binary64}
    {combine : WithBot (WithTop Int) → WithBot (WithTop Int) → WithBot (WithTop Int)}
    (chosen : ∀ left right, choose left right = left ∨ choose left right = right)
    (ranked : ∀ left right, left ≠ .nan → right ≠ .nan →
      (choose left right).rank = combine left.rank right.rank)
    {first : Binary64} {rest : List Binary64} (defined : ∀ value ∈ first :: rest, value ≠ .nan) :
    (rest.foldl choose first).rank = (rest.map Binary64.rank).foldl combine first.rank := by
  induction rest generalizing first with
  | nil => rfl
  | cons next others induction =>
      rw [List.forall_mem_cons, List.forall_mem_cons] at defined
      obtain ⟨firstDefined, nextDefined, others⟩ := defined
      rw [List.foldl_cons, List.map_cons, List.foldl_cons, ← ranked _ _ firstDefined nextDefined]
      refine induction (List.forall_mem_cons.mpr ⟨?_, others⟩)
      rcases chosen first next with same | same
      · rwa [same]
      · rwa [same]

/-- The ends of an extent by the places of all its numbers. -/
theorem of?_rank {values : List Binary64} {extent : Extent} (found : of? values = some extent)
    (defined : ∀ value ∈ values, value ≠ .nan) :
    extent.least.rank = (values.map Binary64.rank).foldl min ⊤ ∧
      extent.greatest.rank = (values.map Binary64.rank).foldl max ⊥ := by
  cases values with
  | nil => cases found
  | cons first rest =>
      cases found
      rw [List.map_cons, List.foldl_cons, List.foldl_cons, min_eq_right le_top, max_eq_right bot_le]
      exact ⟨rank_foldl lesser_chosen (fun _ _ => rank_lesser) defined,
        rank_foldl greater_chosen (fun _ _ => rank_greater) defined⟩

/-- Numbers in another order have the same extent. -/
theorem of?_perm {values others : List Binary64} (order : others.Perm values)
    (defined : ∀ value ∈ values, value ≠ .nan) : Option.Rel Equals (of? others) (of? values) := by
  have otherDefined : ∀ value ∈ others, value ≠ .nan :=
    fun value inside => defined value (order.mem_iff.mp inside)
  rcases eq_or_ne values [] with rfl | filled
  · rw [List.perm_nil.mp order]
    exact .none
  · obtain ⟨extent, found⟩ := of?_isSome filled
    obtain ⟨other, otherFound⟩ :=
      of?_isSome fun empty => filled (List.nil_perm.mp (empty ▸ order))
    obtain ⟨least, greatest⟩ := of?_rank found defined
    obtain ⟨otherLeast, otherGreatest⟩ := of?_rank otherFound otherDefined
    obtain ⟨leastInside, greatestInside⟩ := of?_mem found
    obtain ⟨otherLeastInside, otherGreatestInside⟩ := of?_mem otherFound
    have ranks := order.map Binary64.rank
    rw [found, otherFound]
    refine .some ⟨?_, ?_⟩
    · rw [Binary64.equals_iff (otherDefined _ otherLeastInside) (defined _ leastInside),
        otherLeast, least]
      exact ranks.foldl_eq ⊤
    · rw [Binary64.equals_iff (otherDefined _ otherGreatestInside) (defined _ greatestInside),
        otherGreatest, greatest]
      exact ranks.foldl_eq ⊥

/-- The numbers of a field of finite numbers have the same extent in another order of the rows. -/
theorem of?_cells_perm {rows others : List Row} (order : others.Perm rows) {cell : Row → Cell}
    (numbers : ∀ row ∈ rows, ∃ value, cell row = .number value ∧ value.isFinite = true) :
    Option.Rel Equals (of? (others.filterMap fun row => (cell row).number?))
      (of? (rows.filterMap fun row => (cell row).number?)) :=
  of?_perm (order.filterMap _)
    fun value inside => Binary64.ne_nan_of_isFinite (isFinite_of_cells numbers value inside)

end Extent

namespace Table

variable {table other : Table}

theorem Holds.difference_defined (holds : table.Holds)
    (xNumeric : table.xIsNumeric = true) (yNumeric : table.yIsNumeric = true) :
    ∀ value ∈ table.rows.filterMap difference?, value ≠ .nan := by
  intro value inside
  obtain ⟨row, listed, taken⟩ := List.mem_filterMap.mp inside
  obtain ⟨x, xSame, xFinite⟩ := holds.xNumber xNumeric row listed
  obtain ⟨y, ySame, yFinite⟩ := holds.yNumber yNumeric row listed
  unfold difference? at taken
  rw [xSame, ySame] at taken
  cases taken
  exact Binary64.subtract_ne_nan yFinite xFinite

/-- Whether two tables have equal extents. -/
structure SameExtents (left right : Table) : Prop where
  x : Option.Rel Extent.Equals left.xExtent right.xExtent
  y : Option.Rel Extent.Equals left.yExtent right.yExtent
  difference : Option.Rel Extent.Equals left.differenceExtent right.differenceExtent

/-- The same rows in another order have the same extents. -/
theorem Holds.sameExtents (holds : table.Holds) (rows : other.rows.Perm table.rows)
    (xKind : other.xKind = table.xKind) (yKind : other.yKind = table.yKind) :
    other.SameExtents table := by
  have xSame : other.xIsNumeric = table.xIsNumeric := by rw [xIsNumeric, xKind, xIsNumeric]
  have ySame : other.yIsNumeric = table.yIsNumeric := by rw [yIsNumeric, yKind, yIsNumeric]
  refine ⟨?_, ?_, ?_⟩
  · unfold Table.xExtent
    rw [xSame]
    split
    · next numeric => exact Extent.of?_cells_perm rows (holds.xNumber numeric)
    · exact .none
  · unfold Table.yExtent
    rw [ySame]
    split
    · next numeric => exact Extent.of?_cells_perm rows (holds.yNumber numeric)
    · exact .none
  · unfold differenceExtent
    rw [xSame, ySame]
    split
    · next numeric =>
        obtain ⟨xNumeric, yNumeric⟩ := Bool.and_eq_true_iff.mp numeric
        exact Extent.of?_perm (rows.filterMap _) (holds.difference_defined xNumeric yNumeric)
    · exact .none

end Table

end ChartCompiler
