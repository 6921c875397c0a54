import ChartCompiler.Number.Decimal
import ChartCompiler.Scale.Name

/-!
# Expressions

The formulas that the renderer evaluates: over the fields of a row (`datum`), the scales and the
extents of the drawing area. `Expr.render` writes an expression with parentheses exactly where the
operators need them.
-/

namespace ChartCompiler

inductive Operator where
  | or
  | less
  | greater
  | plus
  | minus
  | times
  | over
  deriving DecidableEq

namespace Operator

def symbol : Operator → List Char
  | .or => ['|', '|']
  | .less => ['<']
  | .greater => ['>']
  | .plus => ['+']
  | .minus => ['-']
  | .times => ['*']
  | .over => ['/']

/-- How strongly an operator binds its operands. -/
def strength : Operator → Nat
  | .or => 0
  | .less | .greater => 1
  | .plus | .minus => 2
  | .times | .over => 3

end Operator

inductive UnaryFunction where
  | squareRoot
  | cosine
  | sine
  | normalQuantile
  deriving DecidableEq

def UnaryFunction.name : UnaryFunction → String
  | .squareRoot => "sqrt"
  | .cosine => "cos"
  | .sine => "sin"
  | .normalQuantile => "quantileNormal"

inductive BinaryFunction where
  | minimum
  | maximum
  | power
  | angle
  | sequence
  deriving DecidableEq

def BinaryFunction.name : BinaryFunction → String
  | .minimum => "min"
  | .maximum => "max"
  | .power => "pow"
  | .angle => "atan2"
  | .sequence => "sequence"

/-- A formula of the renderer. -/
inductive Expr where
  /-- A number, written with six significant digits. -/
  | number (value : Binary64)
  | whole (value : Int)
  | text (content : String)
  | extent (dimension : Dimension)
  /-- A field of the row at hand. -/
  | datum (field : String)
  /-- A random number between zero and one. -/
  | random
  /-- The value of a scale at an argument. -/
  | scaled (scale : ScaleName) (argument : Expr)
  /-- The width of the bands of a scale. -/
  | bandwidth (scale : ScaleName)
  | apply (function : UnaryFunction) (argument : Expr)
  | combine (function : BinaryFunction) (first second : Expr)
  | binary (operator : Operator) (left right : Expr)
  | pair (first second : Expr)

namespace Expr

instance : Add Expr := ⟨.binary .plus⟩
instance : Sub Expr := ⟨.binary .minus⟩
instance : Mul Expr := ⟨.binary .times⟩
instance : Div Expr := ⟨.binary .over⟩

/-- How strongly an expression holds together; everything but an operation is unbreakable. -/
def strength : Expr → Nat
  | .binary operator _ _ => operator.strength
  | _ => 4

/-- An operand, in parentheses if it does not hold together strongly enough. -/
def enclose (needed strength : Nat) (operand : List Char) : List Char :=
  if strength < needed then '(' :: operand ++ [')'] else operand

/-- A text constant. -/
def renderText (content : String) : List Char := '\'' :: content.toList ++ ['\'']

/-- The call of a function. -/
def renderCall (name : String) (arguments : List Char) : List Char :=
  name.toList ++ '(' :: arguments ++ [')']

/-- The written form of an expression. Operations of equal strength group to the left. -/
def render : Expr → List Char
  | .number value => (value.toGeneralText 6).toList
  | .whole value => (toString value).toList
  | .text content => renderText content
  | .extent dimension => dimension.name.toList
  | .datum field => "datum.".toList ++ field.toList
  | .random => renderCall "random" []
  | .scaled scale argument =>
      renderCall "scale" (renderText scale.text ++ ',' :: ' ' :: argument.render)
  | .bandwidth scale => renderCall "bandwidth" (renderText scale.text)
  | .apply function argument => renderCall function.name argument.render
  | .combine function first second =>
      renderCall function.name (first.render ++ ',' :: ' ' :: second.render)
  | .binary operator left right =>
      enclose operator.strength left.strength left.render
        ++ ' ' :: operator.symbol
        ++ ' ' :: enclose (operator.strength + 1) right.strength right.render
  | .pair first second => '[' :: first.render ++ ',' :: ' ' :: second.render ++ [']']

/-- The text of an expression in a chart document. -/
def toText (expression : Expr) : String := String.ofList expression.render

example : ((random - whole 2) * bandwidth .x - (whole 3 - whole 1)).toText
    = "(random() - 2) * bandwidth('xscale') - (3 - 1)" := by decide +kernel

end Expr

end ChartCompiler
