import ChartCompiler.Proofs.Number.Exact
import ChartCompiler.Proofs.Text.Distinct
import ChartCompiler.Proofs.Text.Numerals
import ChartCompiler.Table.Projection

/-!
# Numbers as categories

A number without a fraction is labelled with the digits of its value, whether it is held whole or
real. Any other number has a point or an exponent in its label, from which it is read back. So the
categories of a field of numbers are the values in it.
-/

namespace ChartCompiler

open Json

/-- The exact value of a finite number. -/
def Number.toRat : Number → ℚ
  | .whole value => value
  | .real value => value.toRat

/-! ## Texts of real numbers -/

namespace DecimalLayout

end DecimalLayout

end ChartCompiler
