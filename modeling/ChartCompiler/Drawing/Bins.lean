import ChartCompiler.Number.Arithmetic
import ChartCompiler.Table.Basic

/-!
# Bins

A range of numbers cut into equal steps. A range without width is widened by a half to either side
first.
-/

namespace ChartCompiler

/-- A range with the width of its bins. -/
structure Bins where
  low : Number
  high : Number
  step : Number

/-- A range, widened if it has no width. -/
def withWidth (low high : Number) : Except Failure (Number × Number) :=
  if low.lessThan high then .ok (low, high)
  else do return (← low.subtract (.real 0.5), ← high.add (.real 0.5))

/-- Cuts a range into a number of bins. -/
def Bins.of (low high count : Number) : Except Failure Bins := do
  let (low, high) ← withWidth low high
  let step ← (← high.subtract low).divide count
  return { low, high, step := .real step }

namespace Extent

/-- The extent as a range of positive width. -/
def withWidth (extent : Extent) : Extent :=
  if extent.least.lessThan extent.greatest then extent
  else ⟨extent.least - 0.5, extent.greatest + 0.5⟩

/-- Cuts an extent of data into bins. -/
def bins (extent : Extent) (count : Int) : Except Failure Bins :=
  Bins.of (.real extent.least) (.real extent.greatest) (.whole count)

end Extent

end ChartCompiler
