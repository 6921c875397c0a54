import ChartCompiler.Value.Basic

/-!
# Equality of values

Two values are equal if they stand for the same data: numbers by their numerical value, with the
truth values as one and zero, and maps by their members whatever their order.
-/

namespace ChartCompiler

/-- Numerical equality, exact also between a whole number and a real one. -/
def Number.equals : Number → Number → Bool
  | .whole left, .whole right => left = right
  | .whole left, .real right => right.equalsInt left
  | .real left, .whole right => left.equalsInt right
  | .real left, .real right => left.equals right

namespace Value

/-- The number a value counts as in a comparison: truth values count as one and zero. -/
def number? : Value → Option Number
  | .number value => some value
  | .bool value => some (.whole (if value then 1 else 0))
  | _ => none

mutual

/-- Whether two values stand for the same data. -/
def equals : Value → Value → Bool
  | .null, other => match other with
      | .null => true
      | _ => false
  | .bool left, other => match other.number? with
      | some right => Number.equals (.whole (if left then 1 else 0)) right
      | none => false
  | .number left, other => match other.number? with
      | some right => left.equals right
      | none => false
  | .text left, other => match other with
      | .text right => left = right
      | _ => false
  | .bytes left, other => match other with
      | .bytes right => left = right
      | _ => false
  | .list left, other => match other with
      | .list right => equalItems left right
      | _ => false
  | .tuple left, other => match other with
      | .tuple right => equalItems left right
      | _ => false
  | .set left, other => match other with
      | .set right => equalItems left right
      | _ => false
  | .map left, other => match other with
      | .map right => left.length = right.length && equalMembers left right
      | _ => false
  | .array _ extents left, other => match other with
      | .array _ otherExtents right => extents = otherExtents && equalItems left right
      | _ => false

def equalItems : List Value → List Value → Bool
  | [], right => right.isEmpty
  | item :: rest, right => match right with
      | other :: others => item.equals other && equalItems rest others
      | [] => false

/-- Whether each member on the left has an equal one of the same name on the right. -/
def equalMembers : List (String × Value) → List (String × Value) → Bool
  | [], _ => true
  | (name, item) :: rest, right =>
      (match right.lookup name with
        | some other => item.equals other
        | none => false) && equalMembers rest right

end

end Value

end ChartCompiler
