import ChartCompiler.Layer.Parameter
import ChartCompiler.Proofs.Log.Outcome
import ChartCompiler.Proofs.Value.Finite
import ChartCompiler.Proofs.Value.Members

/-!
# What parameters are taken as

A parameter is a usable number, or else the default of the layer. A layer fails to read one exactly
if it stands for a number beyond the range.
-/

namespace ChartCompiler

namespace Value

/-- The finite real number that a value stands for. -/
def usableReal? (value : Value) : Option Binary64 :=
  match value.toReal with
  | .ok taken => if taken.isFinite then some taken else none
  | .error _ => none

/-- The whole number, not below a minimum, that a value stands for. -/
def usableWhole? (minimum : Int) (value : Value) : Option Int :=
  match value.toWhole with
  | .ok taken => if taken < minimum then none else some taken
  | .error _ => none

theorem usableReal?_finite {value : Value} {taken : Binary64}
    (usable : value.usableReal? = some taken) : taken.isFinite = true := by
  unfold usableReal? at usable
  split at usable
  · split at usable
    · next finite => exact Option.some.inj usable ▸ finite
    · cases usable
  · cases usable

theorem usableWhole?_minimum {value : Value} {minimum taken : Int}
    (usable : value.usableWhole? minimum = some taken) : minimum ≤ taken := by
  unfold usableWhole? at usable
  split at usable
  · split at usable
    · cases usable
    · next enough =>
        rw [← Option.some.inj usable]
        omega
  · cases usable

end Value

namespace Members

variable {parameters : Members} {name : String}

/-- A parameter as a real number, or the default. -/
def realOr (parameters : Members) (name : String) (default : Binary64) : Binary64 :=
  ((parameters.get? name).bind Value.usableReal?).getD default

/-- A parameter as a whole number that is not below a minimum, or the default. -/
def wholeOr (parameters : Members) (name : String) (default : Int) (minimum : Int := 1) : Int :=
  ((parameters.get? name).bind (Value.usableWhole? minimum)).getD default

/-- The items of a parameter that is a list, or the parameter itself. -/
def itemsOf (parameters : Members) (name : String) : List Value :=
  match parameters.get? name with
  | none | some .null => []
  | some (.list items) | some (.tuple items) | some (.array _ [_] items) => items
  | some (.array elements extents items) => (Value.rowsOf elements extents items).getD []
  | some value => [value]

/-- A parameter as a list of finite numbers. -/
def numbersOf (parameters : Members) (name : String) : List Binary64 :=
  (parameters.itemsOf name).filterMap Value.usableReal?

/-! ## Single numbers -/

theorem realOr_finite {default : Binary64} (finite : default.isFinite = true) :
    (parameters.realOr name default).isFinite = true := by
  unfold realOr
  cases usable : (parameters.get? name).bind Value.usableReal? with
  | none => exact finite
  | some number =>
      rcases Option.bind_eq_some_iff.mp usable with ⟨value, _, usable⟩
      exact Value.usableReal?_finite usable

theorem wholeOr_minimum {default minimum : Int} (enough : minimum ≤ default) :
    minimum ≤ parameters.wholeOr name default minimum := by
  unfold wholeOr
  cases usable : (parameters.get? name).bind (Value.usableWhole? minimum) with
  | none => exact enough
  | some number =>
      rcases Option.bind_eq_some_iff.mp usable with ⟨value, _, usable⟩
      exact Value.usableWhole?_minimum usable

theorem realParameter_settles (parameters : Members) (name : String) (default : Binary64) :
    (parameters.realParameter name default).Settles (∃ given ∈ parameters.get? name, given.IsHuge)
      (parameters.realOr name default) := by
  unfold realParameter realOr
  cases found : parameters.get? name with
  | none => exact .inr ⟨nofun, rfl⟩
  | some given =>
      unfold Run.Settles
      simp only [Option.mem_some, exists_eq_left', Option.bind_some]
      unfold Value.IsHuge Value.usableReal?
      split
      · next number read =>
          refine .inr ⟨by simp [read], ?_⟩
          rw [read]
          dsimp only
          split <;> rfl
      · next read => exact .inl ⟨read, rfl⟩
      · next failure other read =>
          refine .inr ⟨fun huge => ?_, ?_⟩
          · rw [read] at huge
            exact other (Except.error.inj huge)
          · rw [read]
            rfl

theorem wholeParameter_settles (parameters : Members) (name : String) {default minimum : Int}
    (enough : minimum ≤ default) :
    (parameters.wholeParameter name default minimum).Settles
      (∃ given ∈ parameters.get? name, given.IsInfinite)
      (parameters.wholeOr name default minimum) := by
  unfold wholeParameter wholeOr
  cases found : parameters.get? name with
  | none =>
      refine .inr ⟨nofun, ?_⟩
      simp only [Option.getD_none, Option.bind_none, Value.toWhole]
      rw [if_neg (by omega)]
      rfl
  | some given =>
      unfold Run.Settles
      simp only [Option.mem_some, exists_eq_left', Option.bind_some, Option.getD_some]
      unfold Value.IsInfinite Value.usableWhole?
      split
      · next number read =>
          refine .inr ⟨by simp [read], ?_⟩
          rw [read]
          dsimp only
          split <;> rfl
      · next read => exact .inl ⟨read, rfl⟩
      · next failure other read =>
          refine .inr ⟨fun huge => ?_, ?_⟩
          · rw [read] at huge
            exact other (Except.error.inj huge)
          · rw [read]
            rfl

theorem realParameter_eq {default taken : Binary64}
    (returned : (parameters.realParameter name default).Returns taken) :
    taken = parameters.realOr name default :=
  (realParameter_settles parameters name default).eq_of_returns returned

theorem wholeParameter_eq {default minimum taken : Int} (enough : minimum ≤ default)
    (returned : (parameters.wholeParameter name default minimum).Returns taken) :
    taken = parameters.wholeOr name default minimum :=
  (wholeParameter_settles parameters name enough).eq_of_returns returned

/-! ## Lists of numbers -/

theorem finiteNumbers_settles (shown : Value → String) (items : List Value) :
    (finiteNumbers shown items).Settles (∃ item ∈ items, item.IsHuge)
      (items.filterMap Value.usableReal?) := by
  induction items with
  | nil => exact .inr ⟨nofun, rfl⟩
  | cons item rest induction =>
      rw [List.filterMap_cons]
      simp only [List.mem_cons, exists_eq_or_imp]
      unfold finiteNumbers
      split
      · next taken read =>
          have small : ¬ item.IsHuge := by simp [Value.IsHuge, read]
          have usable : item.usableReal? = if taken.isFinite then some taken else none := by
            rw [Value.usableReal?, read]
          rw [or_iff_right small, usable]
          refine induction.then_returns ?_
          split <;> rfl
      · next read => exact .inl ⟨.inl read, rfl⟩
      · next failure other read =>
          have small : ¬ item.IsHuge := by
            intro huge
            rw [Value.IsHuge, read] at huge
            exact other (Except.error.inj huge)
          have unusable : item.usableReal? = none := by rw [Value.usableReal?, read]
          rw [or_iff_right small, unusable]
          exact .of_returns_bind rfl induction

theorem numberListParameter_settles (parameters : Members) (name : String) :
    (parameters.numberListParameter name).Settles
      (∃ item ∈ parameters.itemsOf name, item.IsHuge) (parameters.numbersOf name) := by
  unfold numberListParameter numbersOf itemsOf
  cases parameters.get? name with
  | none => exact .inr ⟨nofun, rfl⟩
  | some value =>
      cases value with
      | null => exact .inr ⟨nofun, rfl⟩
      | array elements extents items =>
          rcases extents with _ | ⟨length, _ | ⟨next, inner⟩⟩ <;> exact finiteNumbers_settles _ _
      | _ => exact finiteNumbers_settles _ _

theorem numberListParameter_eq {taken : List Binary64}
    (returned : (parameters.numberListParameter name).Returns taken) :
    taken = parameters.numbersOf name :=
  (numberListParameter_settles parameters name).eq_of_returns returned

theorem numberListParameter_returns (small : ∀ item ∈ parameters.itemsOf name, ¬ item.IsHuge) :
    (parameters.numberListParameter name).Returns (parameters.numbersOf name) := by
  rcases numberListParameter_settles parameters name with ⟨⟨item, inside, huge⟩, _⟩ | ⟨_, returned⟩
  · exact absurd huge (small item inside)
  · exact returned

theorem numbersOf_finite : ∀ taken ∈ parameters.numbersOf name, taken.isFinite = true := by
  intro taken inside
  rcases List.mem_filterMap.mp inside with ⟨value, _, usable⟩
  exact Value.usableReal?_finite usable

end Members

end ChartCompiler
