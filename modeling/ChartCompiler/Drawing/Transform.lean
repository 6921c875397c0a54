import ChartCompiler.Drawing.Bins
import ChartCompiler.Expression.Basic
import ChartCompiler.Value.Access

/-!
# Transforms

The steps by which the renderer computes one data source from another.
-/

namespace ChartCompiler

/-- A figure that summarizes rows. -/
inductive Statistic where
  | count
  | mean
  | deviation
  | least
  | lowerQuartile
  | median
  | upperQuartile
  | greatest
  /-- The place of a row among the rows. -/
  | rowNumber
  deriving DecidableEq

def Statistic.name : Statistic → String
  | .count => "count"
  | .mean => "mean"
  | .deviation => "stdev"
  | .least => "min"
  | .lowerQuartile => "q1"
  | .median => "median"
  | .upperQuartile => "q3"
  | .greatest => "max"
  | .rowNumber => "row_number"

/-- A summary of a field, or of the rows themselves, in a new field. -/
structure Summary where
  field : Option String
  statistic : Statistic
  name : String

/-- The curves that can be fitted to points. -/
inductive RegressionMethod where
  | linear
  | logarithm
  | exponential
  | power
  | quadratic
  /-- A polynomial of a given order. -/
  | polynomial (order : Int)
  deriving DecidableEq

def RegressionMethod.name : RegressionMethod → String
  | .linear => "linear"
  | .logarithm => "log"
  | .exponential => "exp"
  | .power => "pow"
  | .quadratic => "quad"
  | .polynomial _ => "poly"

inductive Transform where
  | formula (expression : Expr) (name : String)
  | filter (condition : Expr)
  | bin (field : String) (bins : Bins) (names : List String)
  | aggregate (groupby : List String) (summaries : List Summary)
  | joinAggregate (summaries : List Summary) (groupby : List String)
  /-- Numbers the rows of each group in the order of a field. -/
  | rank (order name : String) (groupby : List String)
  /-- Stacks the values of a field in each group, from `low` to `high`. -/
  | stack (groupby : List String) (field order low high : String)
  | regression (method : RegressionMethod) (groupby : List String)
  | loess (bandwidth : Binary64) (x y : String) (groupby : List String)
  /-- The density of a field at `steps` places of an extent. -/
  | density (field : String) (bandwidth : Binary64) (steps : Int) (extent : Extent)
      (groupby : List String)
  /-- The densities of a field inside each of several groups. -/
  | groupDensity (groupby : List String) (field : String) (bandwidth : Binary64) (steps : Int)
      (extent : Extent)
  /-- Takes fields of the row with the same key from another source. -/
  | lookup (source key : String) (fields : List String)
  | flatten (field name : String)

namespace Transform

def textList (items : List String) : Value := .list (items.map .text)

/-- The member that names the grouping fields, if there are any. -/
def groupbyMember (groupby : List String) : Members :=
  if groupby.isEmpty then [] else [("groupby", textList groupby)]

/-- The members that name fields, statistics and results of summaries. -/
def summaryMembers (summaries : List Summary) : Members :=
  [("fields", .list (summaries.map fun summary => (summary.field.map .text).getD .null)),
    ("ops", textList (summaries.map (·.statistic.name))),
    ("as", textList (summaries.map (·.name)))]

/-- How a density is estimated. -/
def densityMembers (bandwidth : Binary64) (steps : Int) (extent : Extent) : Members :=
  [("bandwidth", .real bandwidth), ("steps", .whole steps),
    ("extent", .list [.real extent.least, .real extent.greatest]),
    ("as", textList ["value", "density"])]

def orderMembers : RegressionMethod → Members
  | .polynomial order => [("order", .whole order)]
  | _ => []

/-- The members of a step that puts numbers into bins. -/
def binMembers (field low high step names : Value) : Members :=
  [("type", .text "bin"), ("field", field), ("extent", .list [low, high]), ("step", step),
    ("nice", .bool false), ("as", names)]

/-- A step that puts numbers into bins, with all of its parts given as values. The ends of a range
with a width are written as they are given. -/
def givenBinMembers (field low high count names : Value) : Except Failure Members := do
  let least ← low.operand
  let greatest ← high.operand
  let bins ← Bins.of least greatest (← count.operand)
  let names := Value.list (← names.itemsOf)
  if least.lessThan greatest then return binMembers field low high (.number bins.step) names
  else return binMembers field (.number bins.low) (.number bins.high) (.number bins.step) names

/-- A step as a member of a chart document. -/
def toMembers : Transform → Members
  | .formula expression name =>
      [("type", .text "formula"), ("expr", .text expression.toText), ("as", .text name)]
  | .filter condition => [("type", .text "filter"), ("expr", .text condition.toText)]
  | .bin field bins names =>
      binMembers (.text field) (.number bins.low) (.number bins.high) (.number bins.step)
        (textList names)
  | .aggregate groupby summaries =>
      [("type", .text "aggregate"), ("groupby", textList groupby)] ++ summaryMembers summaries
  | .joinAggregate summaries groupby =>
      ("type", .text "joinaggregate") :: summaryMembers summaries ++ groupbyMember groupby
  | .rank order name groupby =>
      [("type", .text "window"), ("sort", .map [("field", .text order)]),
        ("ops", textList [Statistic.rowNumber.name]), ("as", textList [name])]
        ++ groupbyMember groupby
  | .stack groupby field order low high =>
      [("type", .text "stack"), ("groupby", textList groupby), ("field", .text field),
        ("sort", .map [("field", .text order)]), ("as", textList [low, high])]
  | .regression method groupby =>
      [("type", .text "regression"), ("x", .text "x"), ("y", .text "y"),
        ("method", .text method.name)] ++ orderMembers method ++ groupbyMember groupby
  | .loess bandwidth x y groupby =>
      [("type", .text "loess"), ("x", .text "x"), ("y", .text "y"),
        ("bandwidth", .real bandwidth), ("as", textList [x, y])] ++ groupbyMember groupby
  | .density field bandwidth steps extent groupby =>
      [("type", .text "kde"), ("field", .text field)] ++ densityMembers bandwidth steps extent
        ++ groupbyMember groupby
  | .groupDensity groupby field bandwidth steps extent =>
      [("type", .text "kde"), ("field", .text field), ("groupby", textList groupby)]
        ++ densityMembers bandwidth steps extent
  | .lookup source key fields =>
      [("type", .text "lookup"), ("from", .text source), ("key", .text key),
        ("fields", textList [key]), ("values", textList fields)]
  | .flatten field name =>
      [("type", .text "flatten"), ("fields", textList [field]), ("as", textList [name])]

end Transform

end ChartCompiler
