import ChartCompiler.Value.Basic

/-!
# Extents of nested lists

Lists of lists, as deep as they go, form a rectangular array if all parts at one depth have the same
length. `Value.extents?` walks through the parts in order; the first single entry or empty list that
it meets settles how many dimensions there are, and all that follows has to agree.
-/

namespace ChartCompiler

namespace Extents

/-- The greatest number of dimensions. -/
def dimensionLimit : Nat := 64

/-- What is known about the extents of an array: the extents of the first parts, how many dimensions
there may be at most, and whether there are so many. -/
structure Known where
  extents : List Nat
  dimensions : Nat
  settled : Bool

def Known.nothing : Known := ⟨[], dimensionLimit, false⟩

/-- A part that has extents of its own, all of them, below a depth. -/
def Known.withPart (known : Known) (depth : Nat) (extents : List Nat) : Option Known :=
  if known.settled then
    if known.dimensions = depth + extents.length && known.extents.drop depth = extents then
      some known
    else none
  else if known.dimensions < depth + extents.length then none
  else some ⟨known.extents.take depth ++ extents, depth + extents.length, true⟩

/-- A list of a length at a depth. An empty one is the last dimension. -/
def Known.withList (known : Known) (depth length : Nat) : Option Known :=
  if known.dimensions = depth || (known.settled && known.extents[depth]? ≠ some length) then none
  else
    let extents :=
      if known.settled then known.extents else known.extents.take depth ++ [length]
    some <|
      if length = 0 then ⟨extents.take (depth + 1), depth + 1, true⟩ else { known with extents }

end Extents

namespace Value

open Extents in
mutual

/-- Goes through a value at a depth. -/
def measure (depth : Nat) (known : Known) : Value → Option Known
  | .list items | .tuple items => do
      measureAll (depth + 1) (← known.withList depth items.length) items
  | .array _ extents _ => known.withPart depth extents
  | .null | .bool _ | .number _ | .text _ | .bytes _ | .set _ | .map _ =>
      known.withPart depth []

def measureAll (depth : Nat) (known : Known) : List Value → Option Known
  | [] => some known
  | item :: rest => do measureAll depth (← item.measure depth known) rest

end

/-- The extents of a rectangular array, outermost first; nothing for ragged nesting and for too many
dimensions. Everything but lists, tuples and arrays is a single entry. -/
def extents? (value : Value) : Option (List Nat) :=
  (value.measure 0 .nothing).map (·.extents)

mutual

/-- The single entries of an array, in order. -/
def entries : Value → List Value
  | .list items | .tuple items => allEntries items
  | .array _ _ items => items
  | value => [value]

def allEntries : List Value → List Value
  | [] => []
  | item :: rest => item.entries ++ allEntries rest

end

mutual

/-- The element types of the arrays among the parts of a value. -/
def elementTypes : Value → List ElementType
  | .list items | .tuple items => allElementTypes items
  | .array elements _ _ => [elements]
  | _ => []

def allElementTypes : List Value → List ElementType
  | [] => []
  | item :: rest => item.elementTypes ++ allElementTypes rest

end

example : (Value.list [.list [.null, .null], .tuple [.null, .null]]).extents? = some [2, 2] := by
  decide

example : (Value.list [.list [], .list [.null]]).extents? = none := by decide

end Value

end ChartCompiler
