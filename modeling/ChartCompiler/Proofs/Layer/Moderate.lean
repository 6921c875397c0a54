import ChartCompiler.Proofs.Layer.Computed

/-!
# Moderate numbers

Layers stay in the range if they are drawn from numbers that are far from its ends: the sums and
products of a few such numbers are finite.
-/

namespace ChartCompiler

open Layer Binary64

/-! ## Sums and products within powers of two -/

namespace Binary64

variable {left right : Binary64} {exponent : Nat}

theorem subtract_within_double (leftWithin : left.Within (2 ^ exponent))
    (rightWithin : right.Within (2 ^ exponent)) (ranged : exponent + 1 < 2098) :
    (left - right).Within (2 ^ (exponent + 1)) := by
  refine subtract_within leftWithin rightWithin (two_pow_representable ranged) ?_
  rw [Nat.pow_succ]
  omega

theorem add_within_double (leftWithin : left.Within (2 ^ exponent))
    (rightWithin : right.Within (2 ^ exponent)) (ranged : exponent + 1 < 2098) :
    (left + right).Within (2 ^ (exponent + 1)) := by
  refine add_within leftWithin rightWithin (two_pow_representable ranged) ?_
  rw [Nat.pow_succ]
  omega

theorem multiply_within_sum {other product : Nat} (leftWithin : left.Within (2 ^ exponent))
    (rightWithin : right.Within (2 ^ other)) (total : exponent + other = product + 1074)
    (ranged : product < 2098) : (left * right).Within (2 ^ product) := by
  refine multiply_within leftWithin rightWithin (two_pow_representable ranged) ?_
  unfold unitsPerOne
  rw [← Nat.pow_add, ← Nat.pow_add, total]

theorem Within.mono_pow {value : Binary64} {less more : Nat} (within : value.Within (2 ^ less))
    (order : less ≤ more) : value.Within (2 ^ more) :=
  within.mono (Nat.pow_le_pow_right (by decide) order)

end Binary64

/-! ## Extents -/

namespace Extent

variable {extent : Extent} {exponent : Nat}

/-- Whether the ends of an extent are within a power of two of the least unit. -/
structure Within (extent : Extent) (exponent : Nat) : Prop where
  least : extent.least.Within (2 ^ exponent)
  greatest : extent.greatest.Within (2 ^ exponent)

theorem of?_within {values : List Binary64} (each : ∀ value ∈ values, value.Within (2 ^ exponent))
    (found : of? values = some extent) : extent.Within exponent := by
  rcases of?_mem found with ⟨least, greatest⟩
  exact ⟨each _ least, each _ greatest⟩

theorem Within.withWidth (within : extent.Within exponent) (large : 1073 ≤ exponent)
    (ranged : exponent + 1 < 2098) : extent.withWidth.Within (exponent + 1) := by
  have half : (0.5 : Binary64).Within (2 ^ exponent) := half_within.mono_pow large
  unfold Extent.withWidth
  split
  · exact ⟨within.least.mono_pow (Nat.le_succ _), within.greatest.mono_pow (Nat.le_succ _)⟩
  · exact ⟨subtract_within_double within.least half ranged,
      add_within_double within.greatest half ranged⟩

theorem Within.widthInRange (within : extent.Within exponent) (large : 1073 ≤ exponent)
    (ranged : exponent + 2 < 2098) : extent.WidthInRange := by
  have wide := within.withWidth large (by omega)
  exact (subtract_within_double wide.greatest wide.least ranged).isFinite

theorem Within.paddedStart (within : extent.Within exponent) (ranged : exponent + 2 < 2098) :
    ∀ start ∈ extent.paddedStart?, start.isFinite = true := by
  intro start padded
  have share : scatterPadding.Within (2 ^ 1074) := by decide +kernel
  unfold paddedStart? at padded
  split at padded
  · cases padded
    have width := subtract_within_double within.greatest within.least (by omega)
    have padding := multiply_within_sum share width (Nat.add_comm _ _) (by omega)
    exact (subtract_within_double (within.least.mono_pow (Nat.le_succ _)) padding ranged).isFinite
  · cases padded

end Extent

/-! ## Tables and parameters -/

/-- How large moderate numbers may be, as a power of two of the least unit: up to 2 ^ 500. -/
def moderateExponent : Nat := 1574

/-- Whether a number is far from the ends of the range. -/
def Binary64.Moderate (value : Binary64) : Prop := value.Within (2 ^ moderateExponent)

/-- Whether the numbers of a table are far from the ends of the range. -/
structure Table.Moderate (table : Table) : Prop where
  x : ∀ row ∈ table.rows, ∀ value ∈ row.x.number?, value.Moderate
  y : ∀ row ∈ table.rows, ∀ value ∈ row.y.number?, value.Moderate

namespace Table.Moderate

variable {table : Table} (moderate : table.Moderate)

include moderate

theorem xExtent : ∀ extent ∈ table.xExtent, extent.Within moderateExponent := by
  intro extent found
  unfold Table.xExtent at found
  split at found
  · refine Extent.of?_within (fun value inside => ?_) found
    rcases List.mem_filterMap.mp inside with ⟨row, listed, taken⟩
    exact moderate.x row listed value taken
  · cases found

theorem yExtent : ∀ extent ∈ table.yExtent, extent.Within moderateExponent := by
  intro extent found
  unfold Table.yExtent at found
  split at found
  · refine Extent.of?_within (fun value inside => ?_) found
    rcases List.mem_filterMap.mp inside with ⟨row, listed, taken⟩
    exact moderate.y row listed value taken
  · cases found

theorem differenceExtent : ∀ extent ∈ table.differenceExtent,
    extent.Within (moderateExponent + 1) := by
  intro extent found
  unfold Table.differenceExtent at found
  split at found
  · refine Extent.of?_within (fun value inside => ?_) found
    rcases List.mem_filterMap.mp inside with ⟨row, listed, taken⟩
    unfold difference? at taken
    split at taken
    · next x y atX atY =>
        cases taken
        exact subtract_within_double (moderate.y row listed y (by simp [atY, Cell.number?]))
          (moderate.x row listed x (by simp [atX, Cell.number?])) (by decide)
    · cases taken
  · cases found

theorem startInRange : table.StartInRange := fun extent found =>
  (moderate.xExtent extent found).paddedStart (by decide)

end Table.Moderate

/-- What layers compute from moderate numbers is finite. -/
theorem LayerKind.inRange_of_moderate {table : Table} {parameters : Members} (kind : LayerKind)
    (moderate : table.Moderate) (slope : (parameters.realOr "slope" 1.0).Moderate)
    (intercept : (parameters.realOr "intercept" 0.0).Moderate) : kind.InRange table parameters := by
  have widths : ∀ {found : Option Extent} {exponent : Nat},
      (∀ extent ∈ found, extent.Within exponent) → 1073 ≤ exponent → exponent + 2 < 2098 →
        ∀ extent ∈ found, extent.WidthInRange :=
    fun each large ranged extent inside => (each extent inside).widthInRange large ranged
  cases kind
  case point | jitter | interval | regressionPlot | ellipse => exact moderate.startInRange
  case bin => exact widths moderate.xExtent (by decide) (by decide)
  case bin2d =>
      exact ⟨widths moderate.xExtent (by decide) (by decide),
        widths moderate.yExtent (by decide) (by decide)⟩
  case cornerHistogram =>
      exact ⟨moderate.startInRange, widths moderate.differenceExtent (by decide) (by decide)⟩
  case abline =>
      intro extent found place listed
      have within : place.Moderate := by
        rcases List.mem_pair.mp listed with rfl | rfl
        · exact (moderate.xExtent extent found).least
        · exact (moderate.xExtent extent found).greatest
      have product : (parameters.realOr "slope" 1.0 * place).Within (2 ^ 2074) :=
        multiply_within_sum slope within (by decide) (by decide)
      exact (add_within_double (intercept.mono_pow (by decide)) product (by decide)).isFinite
  all_goals trivial

end ChartCompiler
