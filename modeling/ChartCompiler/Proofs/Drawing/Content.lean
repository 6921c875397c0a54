import ChartCompiler.Drawing.Basic
import ChartCompiler.Field.Kind
import ChartCompiler.Proofs.Expression.Calls
import ChartCompiler.Style

/-!
# Contents of drawings

What stands in a drawing: the scales that its marks, axes and ranges refer to, the expressions they
compute and the constants they show. A drawing is clear if every text in it, apart from constants,
is a word or a clear expression.
-/

namespace ChartCompiler

/-! ## Values written by layers -/

/-- Whether a value is a plain setting: a number, a truth value, numbers, or a text without calls. -/
def Value.isPlain : Value → Bool
  | .number _ | .bool _ => true
  | .text content => !content.toList.contains '('
  | .list items => items.all isNumber
  | _ => false

namespace Style

/-- The values of a style that layers write into their marks and scales. -/
def shown (style : Style) : List Value :=
  [style.defaultFill, style.referenceStroke, style.fitStroke, style.outlineStroke, style.heatLow,
    style.symbolSize, style.swarmSymbolSize, style.lineWidth, style.smoothLineWidth]
    ++ style.palette

/-- Whether a constant is a plain setting or comes from a style. -/
def Knows (style : Style) (value : Value) : Prop := value ∈ style.shown ∨ value.isPlain = true

end Style

/-! ## Encodings -/

namespace Encoding

/-- The scale that a value is placed by. -/
def scale? : Encoding → Option ScaleName
  | .field scale _ | .inBand scale _ _ | .place scale _ | .bandShare scale _ => some scale
  | .constant _ | .signal _ => none

/-- The field that is placed by a scale. -/
def field? : Encoding → Option String
  | .field _ name | .inBand _ name _ => some name
  | .constant _ | .signal _ | .place _ _ | .bandShare _ _ => none

def expression? : Encoding → Option Expr
  | .signal expression => some expression
  | .constant _ | .field _ _ | .inBand _ _ _ | .place _ _ | .bandShare _ _ => none

def constant? : Encoding → Option Value
  | .constant value => some value
  | .signal _ | .field _ _ | .inBand _ _ _ | .place _ _ | .bandShare _ _ => none

def isClear (encoding : Encoding) : Bool :=
  encoding.field?.all Expr.isField && encoding.expression?.all Expr.isClear

/-- The scales that an encoding refers to. -/
def references (encoding : Encoding) : List String :=
  encoding.scale?.toList.map ScaleName.text
    ++ encoding.expression?.toList.flatMap (Expr.calls scaleFunctions)

end Encoding

def Channels.encodings (channels : Channels) : List Encoding := channels.map (·.2)

/-! ## Marks -/

namespace Mark

def encodings (mark : Mark) : List Encoding := mark.enter.encodings ++ mark.update.encodings

def constants (mark : Mark) : List Value := mark.encodings.filterMap Encoding.constant?

def isClear (mark : Mark) : Bool :=
  mark.name.all Expr.isField && mark.source.all Expr.isField && mark.sort.all Expr.isClear
    && mark.encodings.all Encoding.isClear

def references (mark : Mark) : List String :=
  mark.encodings.flatMap Encoding.references
    ++ mark.sort.toList.flatMap (Expr.calls scaleFunctions)

end Mark

/-! ## Scales and axes -/

def ScaleDomain.isClear : ScaleDomain → Bool
  | .field source name _ => Expr.isField source && Expr.isField name
  | .fields source names => Expr.isField source && names.all Expr.isField
  | .labels _ | .given _ => false

namespace ScaleRange

/-- The expression that a range is computed by. -/
def expression? : ScaleRange → Option Expr
  | .signal expression | .upTo expression | .downFrom expression => some expression
  | .extent _ | .colors _ | .given _ => none

def isClear : ScaleRange → Bool
  | .signal expression | .upTo expression | .downFrom expression => expression.isClear
  | .extent _ | .colors _ => true
  | .given _ => false

def constants : ScaleRange → List Value
  | .colors items => items
  | .extent _ | .signal _ | .upTo _ | .downFrom _ | .given _ => []

def references (range : ScaleRange) : List String :=
  range.expression?.toList.flatMap (Expr.calls scaleFunctions)

end ScaleRange

/-- Whether a scale that is a part of a group is clear. -/
def Scale.isClear (scale : Scale) : Bool :=
  Expr.isField scale.name && scale.domain.isClear && scale.range.isClear
    && scale.range.constants.isEmpty && scale.settings.all fun setting => setting.2.isPlain

def Axis.isClear (axis : Axis) : Bool :=
  axis.title.all (fun title => (Value.text title).isPlain)
    && axis.styling.all fun setting =>
      setting.1 ≠ "scale" && setting.1 ≠ "scales" && setting.2.isPlain

/-! ## Groups -/

def Facet.isClear (facet : Facet) : Bool :=
  Expr.isField facet.name && Expr.isField facet.source && facet.groupby.all Expr.isField

namespace Group

def encodings (group : Group) : List Encoding := group.enter.encodings ++ group.update.encodings

/-- The constants of a group and of its marks. -/
def constants (group : Group) : List Value :=
  group.encodings.filterMap Encoding.constant? ++ group.marks.flatMap Mark.constants

/-- The scales that a group declares for itself. -/
def declared (group : Group) : List String := group.scales.map (·.scale.name)

def isClear (group : Group) : Bool :=
  Expr.isField group.name && group.facet.all Facet.isClear
    && group.encodings.all Encoding.isClear
    && group.signals.all (fun signal => Expr.isField signal.1 && signal.2.isClear)
    && group.scales.all (·.scale.isClear) && group.axes.all Axis.isClear
    && group.marks.all Mark.isClear

/-- The scales that something inside a group refers to, its own among them. -/
def innerReferences (group : Group) : List String :=
  group.encodings.flatMap Encoding.references
    ++ group.signals.flatMap (fun signal => signal.2.calls scaleFunctions)
    ++ group.scales.flatMap (·.scale.range.references)
    ++ group.axes.map (·.scale.text)
    ++ group.marks.flatMap Mark.references

/-- The scales that a group refers to, apart from its own. -/
def references (group : Group) : List String :=
  group.innerReferences.filter (· ∉ group.declared)

end Group

/-! ## Drawings -/

/-- The name of the parts of a source that a group stands for. -/
def Graphic.facetName? : Graphic → Option String
  | .mark _ => none
  | .group content => content.facet.map (·.name)

namespace Drawing

variable (drawing : Drawing)

/-- The sources that a drawing brings along, in the order of the document. -/
def ownSources : List String := drawing.inline.map (·.name) ++ drawing.pipelines.map (·.name)

def facetNames : List String := drawing.graphics.filterMap Graphic.facetName?

end Drawing

end ChartCompiler
