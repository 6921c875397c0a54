import ChartCompiler.Proofs.Log.Outcome
import ChartCompiler.Proofs.Number.Exact
import ChartCompiler.Random.Uniform
import Mathlib.Data.List.Basic

/-!
# Offsets within a spread

An outcome of 53 bits is a share of a spread, from minus to plus one half. An offset is the product of
the share and the spread, rounded once, so it is no further from zero than half of the spread, and
finite if the spread is. More offsets begin with fewer ones.
-/

namespace ChartCompiler

namespace Random

open Binary64

/-! ## Outcomes -/

theorem Generator.draw_lt {generator : Generator} {count : Nat} :
    ∀ outcome ∈ generator.draw count, outcome < 2 ^ 53 := by
  induction count generalizing generator with
  | zero => exact List.forall_mem_nil _
  | succ count induction =>
      refine List.forall_mem_cons.mpr ⟨?_, induction⟩
      have bits : generator.advance.bits < 2 ^ 64 := Nat.mod_lt _ (by decide)
      omega

theorem Generator.draw_length (generator : Generator) (count : Nat) :
    (generator.draw count).length = count := by
  induction count generalizing generator with
  | zero => rfl
  | succ count induction => exact congrArg (· + 1) (induction _)

/-- Fewer outcomes are the first ones of more. -/
theorem Generator.draw_fewer {fewer more : Nat} (order : fewer ≤ more) (generator : Generator) :
    generator.draw fewer <+: generator.draw more := by
  induction fewer generalizing generator more with
  | zero => exact List.nil_prefix
  | succ fewer induction =>
      cases more with
      | zero => omega
      | succ more =>
          exact List.cons_prefix_cons.mpr ⟨rfl, induction (Nat.le_of_succ_le_succ order) _⟩

/-! ## Shares -/

/-- The number of units in `2 ^ -53`, the distance between outcomes. -/
def outcomeUnits : Nat := 2 ^ 1021

theorem halfUnits_eq : halfUnits = 2 ^ 52 * outcomeUnits := by
  unfold halfUnits outcomeUnits
  exact two_pow_of_add (by decide)

theorem unitsPerOne_eq : unitsPerOne = 2 ^ 53 * outcomeUnits := by
  rw [← two_mul_halfUnits, halfUnits_eq, ← Nat.mul_assoc]
  norm_num

theorem outcomeUnits_pos : 0 < outcomeUnits := by
  unfold outcomeUnits
  generalize 1021 = exponent
  exact Nat.two_pow_pos exponent

theorem outcome_representable {outcome : Nat} (short : outcome ≤ 2 ^ 53) :
    Representable (outcome * outcomeUnits) := by
  have ranged : unitsPerOne < unitsLimit := by decide +kernel
  refine ⟨?_, lt_of_le_of_lt ?_ ranged⟩
  · unfold outcomeUnits
    generalize 1021 = exponent
    exact spacing_dvd_of_significand short exponent
  · rw [unitsPerOne_eq]
    exact Nat.mul_le_mul_right _ short

/-- How far an outcome of 53 bits is from the middle. -/
def distance (outcome : Nat) : Int := (outcome : Int) - 2 ^ 52

/-- The distance from the middle is a number of the format. -/
theorem share_eq {outcome : Nat} (short : outcome < 2 ^ 53) :
    ∃ magnitude : Magnitude, magnitude.units = (distance outcome).natAbs * outcomeUnits ∧
      unitInterval outcome - 0.5 = .finite (decide (distance outcome < 0)) magnitude := by
  have drawn : unitInterval outcome = .ofUnits false (outcome * outcomeUnits) := by
    unfold unitInterval outcomeUnits
    generalize 1021 = exponent
    rfl
  have near : (distance outcome).natAbs ≤ 2 ^ 53 := by
    unfold distance
    omega
  have gap : ((outcome * outcomeUnits : Nat) : Int) - halfUnits
      = distance outcome * outcomeUnits := by
    rw [halfUnits_eq]
    unfold distance
    push_cast
    ring
  have sign : outcome * outcomeUnits < halfUnits ↔ distance outcome < 0 := by
    rw [halfUnits_eq, Nat.mul_lt_mul_right outcomeUnits_pos]
    unfold distance
    omega
  refine ⟨⟨_, outcome_representable near⟩, rfl, ?_⟩
  rw [drawn, ofUnits_eq false (outcome_representable short.le), half_eq,
    ← decide_eq_decide.mpr sign]
  refine subtract_exact ⟨_, outcome_representable near⟩ ?_
  dsimp only
  rw [gap, Int.natAbs_mul, Int.natAbs_natCast]

/-- The exact value of a share. -/
theorem share_toRat {outcome : Nat} (short : outcome < 2 ^ 53) :
    (unitInterval outcome - 0.5).toRat = outcome / 2 ^ 53 - 1 / 2 := by
  rcases share_eq short with ⟨magnitude, units, share⟩
  have signed : signedUnits (decide (distance outcome < 0)) magnitude
      = distance outcome * outcomeUnits := by
    unfold signedUnits
    rw [units]
    push_cast
    by_cases negative : distance outcome < 0
    · rw [if_pos (decide_eq_true negative), abs_of_neg negative]
      ring
    · rw [if_neg (by simpa using negative), abs_of_nonneg (by omega)]
  have one : (outcomeUnits : ℚ) ≠ 0 := by exact_mod_cast outcomeUnits_pos.ne'
  rw [share, toRat, signed, unitsPerOne_eq]
  unfold distance
  push_cast
  field_simp
  ring

theorem share_within {outcome : Nat} (short : outcome < 2 ^ 53) :
    (unitInterval outcome - 0.5).Within halfUnits := by
  rcases share_eq short with ⟨magnitude, units, share⟩
  rw [share]
  refine .finite _ magnitude ?_
  rw [units, halfUnits_eq]
  refine Nat.mul_le_mul_right _ ?_
  unfold distance
  omega

/-! ## Offsets -/

/-- Whether an offset is what an outcome gives for a spread: the product of the exact share and the
spread, rounded once, and not beyond half of the spread. -/
structure IsOffset (outcome : Nat) (spread offset : Binary64) : Prop where
  product : ∃ share : Binary64, share.isFinite = true ∧ share.toRat = outcome / 2 ^ 53 - 1 / 2 ∧
    offset = share * spread
  rounded : spread.isFinite = true →
    offset.equals (.ofRat ((outcome / 2 ^ 53 - 1 / 2) * spread.toRat)) = true
  atMost : spread.isFinite = true → offset.absolute.atMost (spread.absolute * 0.5) = true
  notBeyond : (spread.absolute * 0.5).lessThan offset.absolute = false

theorem isOffset {outcome : Nat} (short : outcome < 2 ^ 53) (spread : Binary64) :
    IsOffset outcome spread ((unitInterval outcome - 0.5) * spread) := by
  have within := share_within short
  have most (finite : spread.isFinite = true) :
      ((unitInterval outcome - 0.5) * spread).absolute.atMost (spread.absolute * 0.5) = true := by
    have bounded := multiply_atMost ⟨halfUnits, halfUnits_representable⟩ within finite
    rwa [← half_eq] at bounded
  refine ⟨⟨_, within.isFinite, share_toRat short, rfl⟩, fun finite => ?_, most, ?_⟩
  · have rounded := multiply_equals_ofRat within.isFinite finite
    rwa [share_toRat short] at rounded
  · cases spread with
    | finite => exact not_lessThan_of_atMost (most rfl)
    | nan => rfl
    | infinite negative => exact not_lessThan_of_infinite _

/-- The distance from the middle is no more than one half, so the offset is within the spread. -/
theorem offset_isFinite {outcome : Nat} (short : outcome < 2 ^ 53) {factor : Binary64}
    (finite : factor.isFinite = true) : ((unitInterval outcome - 0.5) * factor).isFinite = true := by
  refine (multiply_within (share_within short) (within_greatestUnits.mpr finite)
    greatestUnits_representable ?_).isFinite
  rw [Nat.mul_comm, ← two_mul_halfUnits]
  exact Nat.mul_le_mul_left _ (by omega)

theorem factors_real (value : Binary64) (count : Nat) :
    factors (.real value) count = .ok (List.replicate count value) := rfl

/-- A spread that is one number counts for all offsets. -/
theorem factors_of_number {spread : Value} {factor : Binary64}
    (number : factorOf spread = .ok factor) (count : Nat) :
    factors spread count = .ok (List.replicate count factor) := by
  have entries : [spread].mapM factorOf = Except.ok (ε := Failure) [factor] := by
    rw [List.mapM_cons, number]
    rfl
  have scalar : factors spread count = (do
      let _ ← spreadOver count 1 []
      let shares ← [spread].mapM factorOf
      spreadOver count 1 shares) := by
    cases spread with
    | bool => rfl
    | number value => cases value <;> rfl
    | _ => cases number
  rw [scalar, entries]
  rfl

/-- The offsets that a generator gives for a spread that is one number. -/
def Generator.spread (generator : Generator) (count : Nat) (factor : Binary64) : List Binary64 :=
  (generator.draw count).map fun outcome => (unitInterval outcome - 0.5) * factor

theorem offsets_of_number {spread : Value} {factor : Binary64}
    (number : factorOf spread = .ok factor) (seed : Value) (count : Nat) :
    offsets seed count spread
      = (Generator.ofSeed seed).map fun generator => generator.spread count factor := by
  unfold offsets
  rw [factors_of_number number]
  cases Generator.ofSeed seed with
  | error failure => rfl
  | ok generator =>
      have paired : (generator.draw count).zip (List.replicate count factor)
          = (generator.draw count).map fun outcome => (outcome, factor) := by
        rw [List.map_prod_left_eq_zip, List.map_const', generator.draw_length]
      change Except.ok (List.map _ ((generator.draw count).zip (List.replicate count factor))) = _
      rw [paired, List.map_map]
      rfl

namespace Generator

variable (generator : Generator) (factor : Binary64)

theorem spread_length (count : Nat) : (generator.spread count factor).length = count := by
  rw [spread, List.length_map, draw_length]

theorem spread_fewer {fewer more : Nat} (order : fewer ≤ more) :
    generator.spread fewer factor <+: generator.spread more factor :=
  (draw_fewer order generator).map _

theorem spread_isOffset (count : Nat) :
    ∀ offset ∈ generator.spread count factor, ∃ outcome < 2 ^ 53, IsOffset outcome factor offset :=
  List.forall_mem_map.mpr fun outcome drawn =>
    ⟨outcome, draw_lt outcome drawn, isOffset (draw_lt outcome drawn) factor⟩

end Generator

theorem offsets_isFinite {seed spread : Value} {count : Nat} {values : List Binary64}
    (returned : offsets seed count spread = .ok values)
    (finite : ∀ shares, factors spread count = .ok shares → ∀ share ∈ shares, share.isFinite = true) :
    ∀ value ∈ values, value.isFinite = true := by
  rcases (bind_eq_ok_iff _ _ _).mp returned with ⟨generator, _, returned⟩
  rcases (bind_eq_ok_iff _ _ _).mp returned with ⟨shares, spreads, equal⟩
  cases equal
  refine List.forall_mem_map.mpr fun entry inside => ?_
  rcases List.of_mem_zip inside with ⟨outcome, share⟩
  exact offset_isFinite (Generator.draw_lt _ outcome) (finite shares spreads _ share)

end Random

end ChartCompiler
