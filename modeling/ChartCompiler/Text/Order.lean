import ChartCompiler.Text.Surrogate

/-!
# Order of texts

Texts are ordered by the code points of their characters.
-/

namespace ChartCompiler

/-- The distinct elements of a list in the order of their first places. -/
def distinct [DecidableEq α] (items : List α) : List α :=
  items.foldl (fun seen item => if item ∈ seen then seen else seen ++ [item]) []

/-- The code points of a text. -/
def codePoints (text : String) : List Nat := (Text.units text).map TextUnit.codePoint

/-- Order of two texts by code points. -/
def textAtMost (left right : String) : Bool := !decide (codePoints right < codePoints left)

/-- The distinct texts of a list in ascending order. -/
def sortedTexts (texts : List String) : List String := (distinct texts).mergeSort textAtMost

end ChartCompiler
