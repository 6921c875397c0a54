import ChartCompiler.Drawing.Transform
import ChartCompiler.Proofs.Expression.Numerals
import ChartCompiler.Table.Basic
import Mathlib.Logic.Function.Basic

/-!
# What expressions mean

The renderer evaluates an expression on the fields of a row. Numbers are rational ones here and
arithmetic is exact. A number that is written into an expression stands for what its numeral says,
and texts are joined by addition.
-/

namespace ChartCompiler

/-- What the renderer computes with. -/
inductive Quantity where
  | number (value : ℚ)
  | text (content : String)
  | truth (value : Bool)
  deriving DecidableEq

/-- The value of an operation on two operands, if it has one. -/
def Operator.value? : Operator → Quantity → Quantity → Option Quantity
  | .plus, .number left, .number right => some (.number (left + right))
  | .plus, .text left, .text right => some (.text (left ++ right))
  | .minus, .number left, .number right => some (.number (left - right))
  | .times, .number left, .number right => some (.number (left * right))
  | .over, .number left, .number right =>
      if right = 0 then none else some (.number (left / right))
  | .less, .number left, .number right => some (.truth (left < right))
  | .greater, .number left, .number right => some (.truth (right < left))
  | .or, .truth left, .truth right => some (.truth (left || right))
  | _, _, _ => none

/-- The value of a function of two numbers, if it is rational. -/
def BinaryFunction.value? : BinaryFunction → Quantity → Quantity → Option Quantity
  | .minimum, .number first, .number second => some (.number (min first second))
  | .maximum, .number first, .number second => some (.number (max first second))
  | _, _, _ => none

/-- The fields of a row. -/
def Fields := String → Option Quantity

/-- The value of an expression on a row, if it depends on nothing but the row and is rational. -/
def Expr.value? (fields : Fields) : Expr → Option Quantity
  | .number value => (Numeral.read? (value.toGeneralText 6).toList).map .number
  | .whole value => some (.number value)
  | .text content => some (.text content)
  | .datum field => fields field
  | .combine function first second => do
      function.value? (← first.value? fields) (← second.value? fields)
  | .binary operator left right => do
      operator.value? (← left.value? fields) (← right.value? fields)
  | .extent _ | .random | .scaled _ _ | .bandwidth _ | .apply _ _ | .pair _ _ => none

namespace Fields

/-- A row with another value of a field. -/
def set (fields : Fields) (name : String) (value : Option Quantity) : Fields :=
  Function.update fields name value

@[simp] theorem set_same (fields : Fields) (name : String) (value : Option Quantity) :
    fields.set name value name = value := Function.update_self ..

theorem set_other (fields : Fields) {name other : String} (value : Option Quantity)
    (different : other ≠ name) : fields.set name value other = fields other :=
  Function.update_of_ne different ..

/-- A row after the formulas among some steps. -/
def compute (fields : Fields) : List Transform → Fields
  | [] => fields
  | .formula expression name :: rest =>
      (fields.set name (expression.value? fields)).compute rest
  | _ :: rest => fields.compute rest

end Fields

/-- What a cell holds for an expression. -/
def Cell.quantity? : Cell → Option Quantity
  | .number (.finite negative magnitude) =>
      some (.number (Binary64.signedUnits negative magnitude / Binary64.unitsPerOne))
  | .number _ => none
  | .label content => some (.text content)

namespace Expr

variable {fields : Fields}

@[simp] theorem value?_datum (field : String) : (datum field).value? fields = fields field := rfl

section Operands

variable {first second : Expr} {left right result : Quantity}
  (firstValue : first.value? fields = some left) (secondValue : second.value? fields = some right)

include firstValue secondValue

theorem value?_binary {operator : Operator} (operated : operator.value? left right = some result) :
    (binary operator first second).value? fields = some result := by
  unfold value?
  rw [firstValue, secondValue]
  exact operated

theorem value?_combine {function : BinaryFunction}
    (combined : function.value? left right = some result) :
    (combine function first second).value? fields = some result := by
  unfold value?
  rw [firstValue, secondValue]
  exact combined

end Operands

/-- A number is what its numeral stands for. -/
theorem value?_number {number : Binary64} (finite : number.isFinite = true) :
    (Expr.number number).value? fields = some (.number (Numeral.written number)) := by
  unfold value?
  rw [Numeral.read?_toGeneralText finite]
  rfl

end Expr

end ChartCompiler
