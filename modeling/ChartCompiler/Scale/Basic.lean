import ChartCompiler.Expression.Basic
import ChartCompiler.Value.Basic

/-!
# Scales

A scale maps data to places or colors. Its domain is read from a data source or listed, its range
is an extent of the drawing area, a list of colors or a computed length.
-/

namespace ChartCompiler

/-- An expression as a member of a chart document. -/
def Expr.toSignal (expression : Expr) : Value := .map [("signal", .text expression.toText)]

inductive ScaleKind where
  | continuous
  | banded
  | ordinal
  deriving DecidableEq

namespace ScaleKind

def text : ScaleKind → String
  | .continuous => "linear"
  | .banded => "band"
  | .ordinal => "ordinal"

def ofText? : String → Option ScaleKind
  | "linear" => some .continuous
  | "band" => some .banded
  | "ordinal" => some .ordinal
  | _ => none

end ScaleKind

/-- Where a scale takes its data from. -/
inductive ScaleDomain where
  | field (source field : String) (sorted : Bool)
  | fields (source : String) (fields : List String)
  | labels (items : List String)
  /-- A domain that a document states in its own way. -/
  | given (value : Value)

/-- A domain that is read from a field of a data source. -/
def domainMembers (source field : Value) (sorted : Bool) : Members :=
  [("data", source), ("field", field)] ++ if sorted then [("sort", .bool true)] else []

def ScaleDomain.toValue : ScaleDomain → Value
  | .field source name sorted => .map (domainMembers (.text source) (.text name) sorted)
  | .fields source names =>
      .map [("data", .text source), ("fields", .list (names.map .text))]
  | .labels items => .list (items.map .text)
  | .given value => value

/-- What a scale maps to. -/
inductive ScaleRange where
  | extent (dimension : Dimension)
  | colors (colors : List Value)
  | signal (expression : Expr)
  /-- From zero to a computed limit. -/
  | upTo (limit : Expr)
  /-- From a computed limit down to zero. -/
  | downFrom (limit : Expr)
  /-- A range that a document states in its own way. -/
  | given (value : Value)

def ScaleRange.toValue : ScaleRange → Value
  | .extent dimension => .text dimension.name
  | .colors items => .list items
  | .signal expression => expression.toSignal
  | .upTo limit => .list [.whole 0, limit.toSignal]
  | .downFrom limit => .list [limit.toSignal, .whole 0]
  | .given value => value

structure Scale where
  name : String
  kind : ScaleKind
  domain : ScaleDomain
  range : ScaleRange
  padding : Option Value := none
  /-- Whether places are rounded to whole pixels. -/
  rounded : Option Value := none
  /-- Whether the domain is extended to zero. -/
  zero : Option Value := none
  /-- Whether the domain is extended to round numbers. -/
  nice : Option Value := none
  domainMin : Option Value := none

namespace Scale

/-- Whether two scales can be one. -/
def agreesWith (scale other : Scale) : Bool :=
  scale.name = other.name && scale.kind = other.kind

/-- The settings of a scale besides its domain and range. -/
def settings (scale : Scale) : Members :=
  Members.optional "padding" scale.padding ++ Members.optional "round" scale.rounded
    ++ Members.optional "zero" scale.zero ++ Members.optional "nice" scale.nice
    ++ Members.optional "domainMin" scale.domainMin

/-- A scale as a member of a chart document. -/
def toMembers (scale : Scale) : Members :=
  [("name", .text scale.name), ("type", .text scale.kind.text),
    ("domain", scale.domain.toValue), ("range", scale.range.toValue)] ++ scale.settings

/-- The padding of bands beside each other. -/
def tightPadding : Value := .real 0.1

/-- The padding of bands that stand apart. -/
def widePadding : Value := .real 0.2

/-- A band scale over a field of a data source. -/
def banded (name source field : String) (padding : Option Value := some tightPadding)
    (range : ScaleRange := .extent .width) : Scale :=
  { name, kind := .banded, domain := .field source field true, range, padding }

/-- A scale whose domain is read from a data source and a field that are given as values. -/
def readFrom (scale : Scale) (source field : Value) : Scale :=
  match scale.domain with
  | .field _ _ sorted => { scale with domain := .given (.map (domainMembers source field sorted)) }
  | .fields _ _ | .labels _ | .given _ => scale

end Scale

end ChartCompiler
