import ChartCompiler.Log.Outline
import ChartCompiler.Value.Access
import ChartCompiler.Value.Equality

/-!
# Limits given as values

Whoever asks for an outline may give its limits as values. A limit that is no number is an error as
soon as something is compared with it.
-/

namespace ChartCompiler

open scoped CorePower

/-- Limits of an outline, as far as they are given. -/
structure GivenLimits where
  items : Option Value := none
  length : Option Value := none
  depth : Option Value := none

/-- A limit that nothing reaches. -/
def unreached : Int := 2 ^ (64 : Nat)

/-- A number as a limit. Without a fraction it stays as it is; infinite numbers are never reached. -/
def Number.limit (undefined : Int) (round : Binary64 → Int → Int) : Number → Int
  | .whole value => value
  | .real value => match value.truncate? with
      | some part => round value part
      | none =>
          if value.isNaN then undefined
          else if value.lessThan .zero then -unreached
          else unreached

/-- The greatest whole number that is not above a number with a whole part. -/
def roundedDown (value : Binary64) (part : Int) : Int :=
  if value.lessThanInt part then part - 1 else part

/-- The least whole number that is not below a number with a whole part. -/
def roundedUp (value : Binary64) (part : Int) : Int :=
  if Binary64.intLessThan part value then part + 1 else part

namespace Value

/-- Whether items of a value are counted in its outline. -/
def countsItems : Value → Bool
  | .list items | .tuple items | .set items => !items.isEmpty
  | .map members => !members.isEmpty
  | _ => false

/-- Whether the outline of a value is measured. -/
def isMeasured : Value → Bool
  | .list _ | .tuple _ | .set _ | .map _ | .array _ _ _ => false
  | _ => true

end Value

namespace Outline

/-- Whether the limit for items counts in an outline at a depth. -/
def countsItems (depth : Int) : Outline → Bool
  | .value shown => shown.countsItems
  | .constant _ => false
  | .sequence items => !items.isEmpty
  | .record _ fields => depth < 1 && fields.any fun field => match field.2 with
      | .value shown => shown.countsItems
      | .sequence items => !items.isEmpty
      | .constant _ | .record _ _ => false

/-- Whether the limit for the depth counts in an outline with a limit for items. -/
def looksAtDepth (limit : Int) : Outline → Bool
  | .value shown => shown.countsItems && 0 < limit
  | .constant _ => false
  | .sequence items => !items.isEmpty && 0 < limit
  | .record _ _ => true

/-- Whether the limit for the length counts in an outline. -/
def isMeasured : Outline → Bool
  | .value shown => shown.isMeasured
  | .constant _ => true
  | .sequence _ | .record _ _ => false

end Outline

namespace GivenLimits

/-- A limit that is given, brought to a whole number; one that is no number is an error if it is
looked at. -/
def settle (given : Option Value) (default : Int) (limit : Number → Int) (counts : Bool) :
    Except Failure Int :=
  match given with
  | none => .ok default
  | some value => match value.number? with
      | some number => .ok (limit number)
      | none => if counts then .error .unsupportedKind else .ok default

/-- Whether the limit for the length is a number that no text can be cut at. -/
def isUncuttable (given : GivenLimits) : Bool :=
  match given.length with
  | some (.number (.real _)) => true
  | _ => false

/-- An outline within given limits. A text can be cut at whole numbers only. -/
def outline (given : GivenLimits) (shown : Outline) : Except Failure String := do
  let usual : OutlineLimits := {}
  let settleDepth := settle given.depth usual.depth (Number.limit (-unreached) roundedDown)
  let items ← settle given.items usual.items (Number.limit unreached roundedUp)
    (shown.countsItems (← settleDepth false))
  let depth ← settleDepth (shown.looksAtDepth items)
  let length ← settle given.length usual.length (Number.limit unreached roundedDown)
    shown.isMeasured
  let limits : OutlineLimits := { items := items.toNat, length, depth }
  let whole := shown.text { limits with length := unreached }
  if given.isUncuttable && shown.isMeasured && length < whole.length then .error .unsupportedKind
  return shown.text limits

end GivenLimits

end ChartCompiler
