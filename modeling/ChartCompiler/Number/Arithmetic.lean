import ChartCompiler.Value.Access
import ChartCompiler.Value.Equality

/-!
# Arithmetic between whole and real numbers

Whole numbers are compared and subtracted exactly. As soon as one side is real the other one is
converted first, which fails for a whole number beyond the range.
-/

namespace ChartCompiler

namespace Number

/-- Numerical order, exact also between a whole number and a real one. -/
def lessThan : Number → Number → Bool
  | .whole left, .whole right => left < right
  | .whole left, .real right => Binary64.intLessThan left right
  | .real left, .whole right => left.lessThanInt right
  | .real left, .real right => left.lessThan right

def subtract : Number → Number → Except Failure Number
  | .whole left, .whole right => .ok (.whole (left - right))
  | left, right => do return .real ((← left.toReal) - (← right.toReal))

def add : Number → Number → Except Failure Number
  | .whole left, .whole right => .ok (.whole (left + right))
  | left, right => do return .real ((← left.toReal) + (← right.toReal))

/-- The quotient of two whole numbers, rounded once. -/
def wholeQuotient (dividend divisor : Int) : Except Failure Binary64 :=
  if divisor = 0 then .error .zeroDivisor
  else
    match Binary64.ofRatio (decide (dividend < 0) != decide (divisor < 0))
      (dividend.natAbs * Binary64.unitsPerOne) divisor.natAbs with
    | .finite negative magnitude => .ok (.finite negative magnitude)
    | _ => .error .numberTooLarge

/-- The quotient as a real number; there is none for a zero divisor. -/
def divide : Number → Number → Except Failure Binary64
  | .whole dividend, .whole divisor => wholeQuotient dividend divisor
  | dividend, divisor => do
      let dividend ← dividend.toReal
      let divisor ← divisor.toReal
      if divisor.equals .zero then .error .zeroDivisor else return dividend / divisor

end Number

/-- A value as an operand: truth values count as one and zero. -/
def Value.operand (value : Value) : Except Failure Number :=
  match value.number? with
  | some operand => .ok operand
  | none => .error .unsupportedKind

end ChartCompiler
