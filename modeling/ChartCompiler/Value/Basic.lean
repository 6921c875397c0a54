import ChartCompiler.Number.Binary64
import ChartCompiler.Text.Surrogate

/-!
# Values

The values that descriptors, layer parameters and chart documents are made of. Descriptors come
from a host plotting library and may hold anything; chart documents are built from the same
values, in the order in which their members are written.
-/

namespace ChartCompiler

/-- What the elements of an array are. -/
inductive ElementType where
  | binary64
  | binary32
  | signed64
  | unsigned8
  | truth
  /-- Texts of a limited length. -/
  | text (length : Nat)
  deriving DecidableEq

namespace ElementType

/-- Whether the elements of an array are numbers. -/
def isNumeric : ElementType → Bool
  | .binary64 | .binary32 | .signed64 | .unsigned8 => true
  | .truth | .text _ => false

def isText : ElementType → Bool
  | .text _ => true
  | _ => false

def name : ElementType → String
  | .binary64 => "float64"
  | .binary32 => "float32"
  | .signed64 => "int64"
  | .unsigned8 => "uint8"
  | .truth => "bool"
  | .text length => "<U" ++ toString length

end ElementType

/-- A value of a descriptor or document. A `map` keeps the order of its members and has each key
once. An `array` is rectangular: it has an extent for each dimension, the outermost first, and its
single items row by row. -/
inductive Value where
  | null
  | bool (value : Bool)
  | number (value : Number)
  | text (value : String)
  | bytes (value : List UInt8)
  | list (items : List Value)
  | tuple (items : List Value)
  | set (items : List Value)
  | map (members : List (String × Value))
  | array (elements : ElementType) (extents : List Nat) (items : List Value)

/-- Named values in order, each name once. -/
abbrev Members := List (String × Value)

def Number.isNonzero : Number → Bool
  | .whole value => value ≠ 0
  | .real value => !value.equals .zero

namespace Value

instance : Inhabited Value := ⟨.null⟩

/-- A whole number as a value. -/
@[match_pattern] abbrev whole (value : Int) : Value := .number (.whole value)

/-- A binary64 number as a value. -/
@[match_pattern] abbrev real (value : Binary64) : Value := .number (.real value)

/-- Cuts a list into `count` pieces of `size` items. -/
def pieces (size : Nat) (items : List α) : Nat → List (List α)
  | 0 => []
  | count + 1 => items.take size :: pieces size (items.drop size) count

/-- How many single items an array with some extents has. -/
def itemCount (extents : List Nat) : Nat := extents.foldr (· * ·) 1

/-- The elements of an array: its single items, or arrays with one dimension less. An array without
dimensions has none. -/
def rowsOf (elements : ElementType) (extents : List Nat) (items : List Value) :
    Option (List Value) :=
  match extents with
  | [] => none
  | [_] => some items
  | count :: inner => some ((pieces (itemCount inner) items count).map (.array elements inner))

/-- The elements of a value that has a length and can be taken element by element. The elements of
a text are its characters, those of a map its keys, those of a byte string its codes. -/
def elements? : Value → Option (List Value)
  | .text content => some ((Text.units content).map fun unit => .text (Text.ofUnits [unit]))
  | .bytes codes => some (codes.map fun byte => .whole byte.toNat)
  | .list items => some items
  | .tuple items => some items
  | .set items => some items
  | .map members => some (members.map fun member => .text member.1)
  | .array elements extents items => rowsOf elements extents items
  | .null | .bool _ | .number _ => none

/-- Whether an item of an array counts as true. -/
def itemIsTruthy : Value → Bool
  | .bool value => value
  | .number value => value.isNonzero
  | .text content => !content.isEmpty
  | _ => false

/-- Whether a value counts as present in a condition; see `Value.truth` for arrays of several
items. -/
def isTruthy : Value → Bool
  | .null => false
  | .bool value => value
  | .number value => value.isNonzero
  | .text content => !content.isEmpty
  | .bytes codes => !codes.isEmpty
  | .list items | .tuple items | .set items => !items.isEmpty
  | .map members => !members.isEmpty
  | .array _ _ items => items.any itemIsTruthy

end Value

namespace Members

/-- The value of a member. -/
def get? (members : Members) (name : String) : Option Value := members.lookup name

def contains (members : Members) (name : String) : Bool := (members.lookup name).isSome

/-- Gives a member a value, in its place if it is there and at the end if not. -/
def set (name : String) (value : Value) : Members → Members
  | [] => [(name, value)]
  | member :: rest =>
      if member.1 = name then (name, value) :: rest else member :: set name value rest

/-- Gives a member a value unless it has one. -/
def setIfAbsent (members : Members) (name : String) (value : Value) : Members :=
  if members.contains name then members else members ++ [(name, value)]

/-- Gives members their values one after the other. -/
def update (members : Members) (changes : Members) : Members :=
  changes.foldl (fun result change => result.set change.1 change.2) members

/-- Keeps, for each name, its first place and its last value. -/
def ofPairs (pairs : List (String × Value)) : Members := update [] pairs

/-- A member that is there only if it has a value. -/
def optional (name : String) : Option Value → Members
  | none => []
  | some value => [(name, value)]

end Members

end ChartCompiler
