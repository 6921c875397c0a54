import ChartCompiler.Layer.Fit
import ChartCompiler.Layer.Kind
import ChartCompiler.Layer.Normal
import ChartCompiler.Proofs.Layer.Parameters
import Mathlib.Data.List.Basic

/-!
# Defaults of layer parameters

Which parameters the layers of each kind read, and what is used in the place of those that cannot be
used. What is used of some parameters can itself be given as parameters, and is then used as it is.
-/

namespace ChartCompiler

open Layer

/-! ## Shares and methods -/

/-- Whether a number is between zero and one. -/
def Layer.isShare (level : Binary64) : Bool :=
  Binary64.zero.lessThan level && level.lessThan 1.0

/-- A parameter as a number between zero and one, or the default. -/
def Members.shareOr (parameters : Members) (name : String) (default : Binary64) : Binary64 :=
  if isShare (parameters.realOr name default) then parameters.realOr name default else default

/-- Whether a regression method has a name. -/
def Layer.isMethodName (name : String) : Bool := (methodOfName? name defaultOrder).isSome

/-- The name of the regression method that is used: an unknown one is replaced by the straight
line. -/
def Layer.usedMethodName (parameters : Members) (default : String) : String :=
  if isMethodName (methodName parameters default) then methodName parameters default else "linear"

/-! ## Uses of parameters -/

/-- How a layer uses a parameter, with what it uses in the place of one that it cannot use. -/
inductive ParameterUse where
  /-- A finite number. -/
  | real (name : String) (default : Binary64)
  /-- A number between zero and one. -/
  | share (name : String) (default : Binary64)
  /-- A whole number from a minimum on, by which another number may be divided. -/
  | whole (name : String) (default minimum : Int) (divides : Bool)
  /-- The finite numbers of a list. -/
  | numbers (name : String)
  /-- A regression method. -/
  | method (default : String)

namespace ParameterUse

def name : ParameterUse → String
  | real name _ | share name _ | whole name _ _ _ | numbers name => name
  | method _ => "method"

/-- What is used of a parameter, as a parameter again. -/
def used (parameters : Members) : ParameterUse → Value
  | real name default => .real (parameters.realOr name default)
  | share name default => .real (parameters.shareOr name default)
  | whole name default minimum _ => .whole (parameters.wholeOr name default minimum)
  | numbers name => .list ((parameters.numbersOf name).map .real)
  | method default => .text (usedMethodName parameters default)

/-- Whether a parameter stands for a number that is too large for its use. -/
def Overflows (parameters : Members) : ParameterUse → Prop
  | real name _ | share name _ => ∃ given ∈ parameters.get? name, given.IsHuge
  | whole name default minimum divides =>
      (∃ given ∈ parameters.get? name, given.IsInfinite) ∨
        divides = true ∧
          realOfWhole (parameters.wholeOr name default minimum) = .error .numberTooLarge
  | numbers name => ∃ item ∈ parameters.itemsOf name, item.IsHuge
  | method _ => False

/-- Whether the default of a use can be used itself. -/
def Sound : ParameterUse → Prop
  | real _ default => default.isFinite = true
  | share _ default => default.isFinite = true ∧ isShare default = true
  | whole _ default minimum _ => minimum ≤ default
  | numbers _ => True
  | method default => isMethodName default = true

instance : DecidablePred Sound := fun use => by
  cases use <;> unfold Sound <;> infer_instance

end ParameterUse

namespace LayerKind

/-- The parameters that layers of a kind use. -/
def parameterUses : LayerKind → List ParameterUse
  | .jitter | .swarm => [.real "width" Displacement.defaultWidth]
  | .abline => [.real "slope" 1.0, .real "intercept" 0.0]
  | .vline => [.numbers "xintercept"]
  | .hline => [.numbers "yintercept"]
  | .polygon => [.numbers "x", .numbers "y"]
  | .regressionPlot | .glm => [.method "linear", .whole "order" defaultOrder 1 false]
  | .fit => [.method "poly", .whole "order" defaultOrder 1 false]
  | .smooth => [.real "bandwidth" 0.3]
  | .bin => [.whole "nbins" 30 1 true]
  | .bin2d | .cornerHistogram => [.whole "nbins" 20 1 true]
  | .density => [.real "bandwidth" 0.4, .whole "steps" 100 2 false]
  | .violin => [.real "bandwidth" 0.7, .whole "steps" 100 2 false]
  | .boxplot => [.real "whisker" 1.5]
  | .summary => [.real "z" 1.96]
  | .ellipse => [.share "level" defaultLevel, .whole "points" 48 8 true]
  | .point | .line | .bar | .raster | .interval | .qq => []

/-- What a layer uses of some parameters, as parameters again. -/
def used (kind : LayerKind) (parameters : Members) : Members :=
  kind.parameterUses.map fun use => (use.name, use.used parameters)

theorem parameterUses_distinct (kind : LayerKind) :
    (kind.parameterUses.map (·.name)).Nodup := by
  cases kind <;> decide

/-- Every default passes its own check. -/
theorem parameterUses_sound (kind : LayerKind) : ∀ use ∈ kind.parameterUses, use.Sound := by
  cases kind <;> decide +kernel

end LayerKind

/-! ## What is used again -/

namespace Members

theorem get?_of_mem {members : Members} {name : String} {value : Value}
    (distinct : (members.map (·.1)).Nodup) (inside : (name, value) ∈ members) :
    members.get? name = some value := by
  induction members with
  | nil => cases inside
  | cons head rest induction =>
      rw [List.map_cons, List.nodup_cons] at distinct
      rcases List.mem_cons.mp inside with rfl | later
      · exact get?_cons_self ..
      · have other : name ≠ head.1 := fun same =>
          distinct.1 (same ▸ List.mem_map_of_mem later)
        rw [get?_cons, if_neg other]
        exact induction distinct.2 later

variable {parameters again : Members} {name : String}

theorem usableReal?_real {value : Binary64} (finite : value.isFinite = true) :
    (Value.real value).usableReal? = some value := by
  unfold Value.usableReal?
  simp [Value.toReal, Number.toReal, finite]

theorem realOr_of_real {value default : Binary64} (stated : again.get? name = some (.real value))
    (finite : value.isFinite = true) : again.realOr name default = value := by
  rw [realOr, stated, Option.bind_some, usableReal?_real finite, Option.getD_some]

theorem numbersOf_of_reals {values : List Binary64}
    (stated : again.get? name = some (.list (values.map .real)))
    (finite : ∀ value ∈ values, value.isFinite = true) : again.numbersOf name = values := by
  have items : again.itemsOf name = values.map .real := by
    rw [itemsOf, stated]
  rw [numbersOf, items, List.filterMap_map]
  refine Eq.trans ?_ List.filterMap_some
  exact List.filterMap_congr fun value inside => usableReal?_real (finite value inside)

theorem wholeOr_of_whole {value default minimum : Int}
    (stated : again.get? name = some (.whole value)) (enough : minimum ≤ value) :
    again.wholeOr name default minimum = value := by
  have usable : (Value.whole value).usableWhole? minimum = some value := by
    unfold Value.usableWhole?
    simp [Value.toWhole, enough]
  rw [wholeOr, stated, Option.bind_some, usable, Option.getD_some]

theorem shareOr_isShare {default : Binary64} (sound : isShare default = true) :
    isShare (parameters.shareOr name default) = true := by
  unfold shareOr
  split
  · next share => exact share
  · exact sound

theorem shareOr_finite {default : Binary64} (finite : default.isFinite = true) :
    (parameters.shareOr name default).isFinite = true := by
  unfold shareOr
  split
  · exact realOr_finite finite
  · exact finite

end Members

theorem Layer.usedMethodName_known (parameters : Members) {default : String} :
    isMethodName (usedMethodName parameters default) = true := by
  unfold usedMethodName
  split
  · next known => exact known
  · decide

namespace ParameterUse

variable {parameters again : Members} {use : ParameterUse}

/-- What is used of a parameter is used as it is. -/
theorem used_again (sound : use.Sound) (stated : again.get? use.name = some (use.used parameters)) :
    use.used again = use.used parameters := by
  cases use with
  | real name default =>
      exact congrArg Value.real (Members.realOr_of_real stated (Members.realOr_finite sound))
  | share name default =>
      refine congrArg Value.real ?_
      have same : again.realOr name default = parameters.shareOr name default :=
        Members.realOr_of_real stated (Members.shareOr_finite sound.1)
      rw [Members.shareOr, same, if_pos (Members.shareOr_isShare sound.2)]
  | whole name default minimum divides =>
      exact congrArg Value.whole
        (Members.wholeOr_of_whole stated (Members.wholeOr_minimum sound))
  | numbers name =>
      exact congrArg (fun values => Value.list (values.map .real))
        (Members.numbersOf_of_reals stated Members.numbersOf_finite)
  | method default =>
      refine congrArg Value.text ?_
      have same : methodName again default = usedMethodName parameters default := by
        rw [methodName, show again.get? "method" = _ from stated]
        rfl
      rw [usedMethodName, same, if_pos (usedMethodName_known parameters)]

/-- What is used of a parameter is not too large for its use. -/
theorem not_overflows_used (sound : use.Sound)
    (stated : again.get? use.name = some (use.used parameters))
    (small : ¬ use.Overflows parameters) : ¬ use.Overflows again := by
  have same := used_again sound stated
  cases use with
  | real name default | share name default =>
      rintro ⟨given, found, huge⟩
      cases stated.symm.trans found
      cases huge
  | whole name default minimum divides =>
      rintro (⟨given, found, infinite⟩ | ⟨divided, large⟩)
      · cases stated.symm.trans found
        cases infinite
      · refine small (.inr ⟨divided, ?_⟩)
        rwa [show again.wholeOr name default minimum = _ from
          Members.wholeOr_of_whole stated (Members.wholeOr_minimum sound)] at large
  | numbers name =>
      rintro ⟨item, inside, huge⟩
      rw [Members.itemsOf, show again.get? name = _ from stated] at inside
      rcases List.mem_map.mp inside with ⟨value, _, rfl⟩
      cases huge
  | method default => exact id

/-! What two parameters are used as is the same if the same is used of them. -/

section Same

variable {first second : Members} {name : String}

theorem realOr_eq {default : Binary64}
    (same : (real name default).used first = (real name default).used second) :
    first.realOr name default = second.realOr name default := by
  simpa [used] using same

theorem shareOr_eq {default : Binary64}
    (same : (share name default).used first = (share name default).used second) :
    first.shareOr name default = second.shareOr name default := by
  simpa [used] using same

theorem wholeOr_eq {default minimum : Int} {divides : Bool}
    (same : (whole name default minimum divides).used first =
      (whole name default minimum divides).used second) :
    first.wholeOr name default minimum = second.wholeOr name default minimum := by
  simpa [used] using same

theorem numbersOf_eq (same : (numbers name).used first = (numbers name).used second) :
    first.numbersOf name = second.numbersOf name := by
  have injective : Function.Injective Value.real := fun _ _ equal => by simpa using equal
  exact List.map_injective_iff.mpr injective (by simpa [used] using same)

theorem usedMethodName_eq {default : String}
    (same : (method default).used first = (method default).used second) :
    usedMethodName first default = usedMethodName second default := by
  simpa [used] using same

end Same

end ParameterUse

namespace LayerKind

variable {kind : LayerKind} {parameters : Members}

theorem get?_used {use : ParameterUse} (inside : use ∈ kind.parameterUses) :
    (kind.used parameters).get? use.name = some (use.used parameters) := by
  refine Members.get?_of_mem ?_ (List.mem_map_of_mem inside)
  rw [used, List.map_map]
  exact kind.parameterUses_distinct

theorem not_use_overflows_used {use : ParameterUse} (inside : use ∈ kind.parameterUses)
    (small : ¬ use.Overflows parameters) : ¬ use.Overflows (kind.used parameters) :=
  ParameterUse.not_overflows_used (kind.parameterUses_sound use inside) (get?_used inside) small

end LayerKind

end ChartCompiler
