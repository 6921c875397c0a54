import ChartCompiler.Failure
import ChartCompiler.Value.Extents

/-!
# Kinds of fields

A field bound to a plot is continuous if its entries are numbers, and categorical otherwise.

The entries decide together. A field whose entries are lists is judged by the entries of the
lists, which must then form a rectangular array. Missing entries and whole numbers beyond 64 bits
make a field *mixed*: there a truth value counts as a category, while among plain numbers it
counts as one or zero.
-/

namespace ChartCompiler

open scoped CorePower

/-- Whether the values of a field are measured or named. -/
inductive FieldKind where
  | continuous
  | categorical
  deriving DecidableEq

namespace FieldKind

def name : FieldKind → String
  | .continuous => "continuous"
  | .categorical => "categorical"

def ofNumeric (numeric : Bool) : FieldKind := if numeric then .continuous else .categorical

end FieldKind

namespace Value

/-- Whole numbers that fit into 64 bits, signed or unsigned. -/
def fits64 (value : Int) : Bool := -(2 ^ (63 : Nat)) ≤ value && value < 2 ^ (64 : Nat)

/-- Entries beside which no common machine type is looked for. -/
def isMixing : Value → Bool
  | .null | .map _ | .set _ => true
  | .number (.whole value) => !fits64 value
  | _ => false

def isNumber : Value → Bool
  | .number _ => true
  | _ => false

def isText : Value → Bool
  | .text _ => true
  | _ => false

def isNull : Value → Bool
  | .null => true
  | _ => false

def isBool : Value → Bool
  | .bool _ => true
  | _ => false

/-- Byte strings that are not ASCII; beside a text they cannot be taken as texts. -/
def isForeignBytes : Value → Bool
  | .bytes codes => codes.any (0x80 ≤ ·)
  | _ => false

/-- Whether entries are numbers, all of them single. The element types of arrays count even if the
arrays have no entries. -/
def entriesAreNumeric (types : List ElementType) (entries : List Value) : Except Failure Bool :=
  let anyText := types.any (·.isText) || entries.any isText
  if entries.any isMixing then
    .ok (entries.all (fun entry => entry.isNull || entry.isNumber) && entries.any isNumber)
  else if anyText && entries.any isForeignBytes then .error .malformedText
  else
    .ok (!anyText && entries.all (fun entry => entry.isBool || entry.isNumber)
      && ((types.isEmpty && entries.isEmpty) || types.any (·.isNumeric) || entries.any isNumber))

/-- Whether a bound field holds numbers: every entry is a real number or missing. -/
def holdsNumbers (field : Value) : Except Failure Bool :=
  match field.extents? with
  | none => .error .unusableValue
  | some _ => entriesAreNumeric field.elementTypes field.entries

end Value

end ChartCompiler
