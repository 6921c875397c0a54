import ChartCompiler.Drawing.Bins
import ChartCompiler.Proofs.Number.Halves
import ChartCompiler.Proofs.Table.Extents

/-!
# Ranges that are cut into bins

The range of an extent holds all of its numbers. It has a width unless the numbers are all equal and
absorb a half, since widening changes nothing then. Its bins have a width unless that is rounded to
nothing, or the width of the range is beyond the numbers.
-/

namespace ChartCompiler

namespace Binary64

/-- Equal numbers absorb a half alike. -/
theorem AbsorbsHalf.of_equals {value other : Binary64} (same : value.equals other = true)
    (absorbs : other.AbsorbsHalf) : value.AbsorbsHalf := by
  cases value with
  | nan => cases same
  | infinite => trivial
  | finite negative magnitude =>
      cases other with
      | nan | infinite => cases same
      | finite sign another =>
          have units : magnitude.units = another.units := by
            rw [← natAbs_signedUnits negative, of_decide_eq_true same, natAbs_signedUnits]
          change 2 ^ 52 * unitsPerOne < magnitude.units ∧ 2 * unitsPerOne ∣ magnitude.units
          rw [units]
          exact absorbs

/-- Whether numbers are all equal to one that absorbs a half. -/
def HalvesAbsorbed (values : List Binary64) : Prop :=
  ∃ common : Binary64, common.AbsorbsHalf ∧ ∀ value ∈ values, value.equals common = true

/-! ## Positive quotients -/

/-- A quotient is rounded to nothing if it is no more than half a unit. -/
theorem nearestUnits_pos_iff {numerator denominator : Nat} (positive : 0 < denominator) :
    0 < nearestUnits numerator denominator ↔ denominator < 2 * numerator := by
  rcases Nat.lt_or_ge numerator denominator with less | enough
  · have none : numerator / denominator = 0 := Nat.div_eq_of_lt less
    have one : spacing 0 = 1 := rfl
    simp only [nearestUnits, none, one, Nat.mul_one, roundHalfEven, Nat.mod_eq_of_lt less]
    split
    · omega
    · split
      · omega
      · simp only [if_true]
        omega
  · have one : 2 ^ 0 ≤ nearestUnits numerator denominator :=
      two_pow_le_nearestUnits positive (by rwa [Nat.pow_zero, Nat.one_mul])
    rw [Nat.pow_zero] at one
    exact iff_of_true one (by omega)

/-- Whether a width has a number of parts whose width is positive and finite: it is itself, and each
part gets more than half of the least positive number. -/
def CutsInto : Binary64 → Binary64 → Prop
  | .finite false width, .finite false count => count.units < 2 * (width.units * unitsPerOne)
  | _, _ => False

/-- The parts of a width, if their number is no less than one. -/
theorem quotient_positive_iff (width : Binary64) {count : Magnitude}
    (large : unitsPerOne ≤ count.units) :
    (zero.lessThan (width / finite false count) = true ∧
      (width / finite false count).isFinite = true) ↔ width.CutsInto (finite false count) := by
  have positive := unitsPerOne_pos.trans_le large
  cases width with
  | nan => exact iff_of_false nofun nofun
  | infinite negative => exact iff_of_false nofun nofun
  | finite negative width =>
      have within : (finite negative width / finite false count).isFinite = true :=
        (divide_within (within_greatestUnits.mpr rfl) greatestUnits_representable large).isFinite
      rw [and_iff_left within]
      have quotient : finite negative width / finite false count =
          ofRatio negative (width.units * unitsPerOne) count.units := by
        change Binary64.divide _ _ = _
        unfold Binary64.divide
        dsimp only
        rw [if_neg positive.ne', Bool.bne_false]
      rw [quotient] at within ⊢
      cases rounded : ofRatio negative (width.units * unitsPerOne) count.units with
      | nan | infinite =>
          rw [rounded] at within
          cases within
      | finite sign part =>
          obtain ⟨rfl, units⟩ := units_of_ofRatio rounded
          cases sign with
          | true =>
              refine iff_of_false ?_ nofun
              simp [lessThan, zero, signedUnits, Magnitude.zero]
          | false =>
              have filled : 0 < part.units ↔ count.units < 2 * (width.units * unitsPerOne) := by
                rw [units]
                exact nearestUnits_pos_iff positive
              refine Iff.trans ?_ filled
              simp [lessThan, zero, signedUnits, Magnitude.zero]

end Binary64

/-! ## Widened extents -/

namespace Extent

variable {values : List Binary64} {extent : Extent}

/-- Whether numbers are all within an extent. -/
def Covers (extent : Extent) (values : List Binary64) : Prop :=
  ∀ value ∈ values, extent.least.atMost value = true ∧ value.atMost extent.greatest = true

theorem foldl_min_le {α : Type} [LinearOrder α] (first : α) (places : List α) :
    places.foldl min first ≤ first ∧ ∀ place ∈ places, places.foldl min first ≤ place := by
  induction places generalizing first with
  | nil => exact ⟨le_refl _, List.forall_mem_nil _⟩
  | cons next rest induction =>
      obtain ⟨start, others⟩ := induction (min first next)
      rw [List.foldl_cons, List.forall_mem_cons]
      exact ⟨start.trans (min_le_left _ _), start.trans (min_le_right _ _), others⟩

theorem le_foldl_max {α : Type} [LinearOrder α] (first : α) (places : List α) :
    ∀ place ∈ places, place ≤ places.foldl max first :=
  (foldl_min_le (α := αᵒᵈ) first places).2

variable (found : of? values = some extent) (defined : ∀ value ∈ values, value ≠ .nan)

include found defined

theorem of?_ranks : ∀ value ∈ values,
    extent.least.rank ≤ value.rank ∧ value.rank ≤ extent.greatest.rank := by
  intro value inside
  obtain ⟨least, greatest⟩ := of?_rank found defined
  have place : value.rank ∈ values.map Binary64.rank := List.mem_map_of_mem inside
  rw [least, greatest]
  exact ⟨(foldl_min_le _ _).2 _ place, le_foldl_max _ _ _ place⟩

theorem ends_defined : extent.least ≠ .nan ∧ extent.greatest ≠ .nan := by
  obtain ⟨least, greatest⟩ := of?_mem found
  exact ⟨defined _ least, defined _ greatest⟩

theorem withWidth_defined :
    extent.withWidth.least ≠ .nan ∧ extent.withWidth.greatest ≠ .nan := by
  obtain ⟨least, greatest⟩ := ends_defined found defined
  unfold withWidth
  split
  · exact ⟨least, greatest⟩
  · exact ⟨(Binary64.halves_defined least).1, (Binary64.halves_defined greatest).2⟩

/-- A widened extent covers the numbers of the extent. -/
theorem withWidth_covers : extent.withWidth.Covers values := by
  have wider : extent.withWidth.least.rank ≤ extent.least.rank ∧
      extent.greatest.rank ≤ extent.withWidth.greatest.rank := by
    unfold withWidth
    split
    · exact ⟨le_refl _, le_refl _⟩
    · exact ⟨(Binary64.rank_between_halves _).1, (Binary64.rank_between_halves _).2⟩
  obtain ⟨leastDefined, greatestDefined⟩ := withWidth_defined found defined
  intro value inside
  obtain ⟨above, below⟩ := of?_ranks found defined value inside
  rw [Binary64.atMost_iff leastDefined (defined value inside),
    Binary64.atMost_iff (defined value inside) greatestDefined]
  exact ⟨wider.1.trans above, below.trans wider.2⟩

/-- Numbers that are all equal absorb a half if the least of them does. -/
theorem halvesAbsorbed_iff : Binary64.HalvesAbsorbed values ↔
    extent.least.equals extent.greatest = true ∧ extent.least.AbsorbsHalf := by
  obtain ⟨leastInside, greatestInside⟩ := of?_mem found
  have equals_iff {left right : Binary64} (first : left ∈ values) (second : right ∈ values) :=
    Binary64.equals_iff (defined left first) (defined right second)
  constructor
  · rintro ⟨common, absorbs, same⟩
    have least := same _ leastInside
    have greatest := same _ greatestInside
    have commonDefined : common ≠ .nan := by
      rintro rfl
      exact absorbs
    refine ⟨?_, absorbs.of_equals least⟩
    rw [Binary64.equals_iff (defined _ leastInside) commonDefined] at least
    rw [Binary64.equals_iff (defined _ greatestInside) commonDefined] at greatest
    rw [equals_iff leastInside greatestInside]
    exact least.trans greatest.symm
  · rintro ⟨same, absorbs⟩
    refine ⟨extent.least, absorbs, fun value inside => ?_⟩
    obtain ⟨above, below⟩ := of?_ranks found defined value inside
    rw [equals_iff leastInside greatestInside] at same
    rw [equals_iff inside leastInside]
    exact le_antisymm (same ▸ below) above

/-- A widened extent has a width unless its numbers are all equal and absorb a half. -/
theorem withWidth_lessThan_iff :
    extent.withWidth.least.lessThan extent.withWidth.greatest = true ↔
      ¬ Binary64.HalvesAbsorbed values := by
  obtain ⟨leastInside, greatestInside⟩ := of?_mem found
  obtain ⟨leastDefined, greatestDefined⟩ := ends_defined found defined
  rw [halvesAbsorbed_iff found defined]
  unfold withWidth
  split
  · next less =>
      have places := (Binary64.lessThan_iff leastDefined greatestDefined).mp less
      rw [Binary64.equals_iff leastDefined greatestDefined]
      exact iff_of_true less fun absorbed => places.ne absorbed.1
  · next other =>
      have same : extent.least.equals extent.greatest = true := by
        rw [Binary64.lessThan_iff leastDefined greatestDefined] at other
        rw [Binary64.equals_iff leastDefined greatestDefined]
        exact le_antisymm (of?_ranks found defined _ leastInside).2 (not_lt.mp other)
      rw [Binary64.lessThan_iff (Binary64.halves_defined leastDefined).1
        (Binary64.halves_defined greatestDefined).2, Binary64.rank_halves leastDefined same,
        and_iff_right same]

end Extent

end ChartCompiler
