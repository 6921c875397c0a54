import ChartCompiler.Axis
import ChartCompiler.Drawing.Encoding

/-!
# Marks

What a layer draws: simple marks, one for each row of a data source, and groups of them. A group
may repeat its marks for each part of a data source (a `Facet`) and may have scales of its own.
-/

namespace ChartCompiler

inductive MarkType where
  | symbol
  | line
  | rect
  | rule
  | area
  deriving DecidableEq

def MarkType.name : MarkType → String
  | .symbol => "symbol"
  | .line => "line"
  | .rect => "rect"
  | .rule => "rule"
  | .area => "area"

/-- A simple mark. Without a source it is drawn once. -/
structure Mark where
  name : Option String := none
  type : MarkType
  source : Option String := none
  /-- The order in which a line or area visits the rows. -/
  sort : Option Expr := none
  /-- Whether the mark is cut off at the border of the drawing area. -/
  clipped : Bool := false
  enter : Channels
  update : Channels := []

/-- A member with the channels of a mark, if it sets any. -/
def Channels.member (name : String) (channels : Channels) : Members :=
  if channels.isEmpty then [] else [(name, channels.toValue)]

def Mark.toMembers (mark : Mark) : Members :=
  Members.optional "name" (mark.name.map .text)
    ++ [("type", .text mark.type.name)]
    ++ Members.optional "from" (mark.source.map fun source => .map [("data", .text source)])
    ++ Members.optional "sort" (mark.sort.map fun order => .map [("field", .text order.toText)])
    ++ (if mark.clipped then [("clip", .bool true)] else [])
    ++ [("encode", .map (("enter", mark.enter.toValue) :: mark.update.member "update"))]

/-- The parts of a data source, one for each combination of values of some fields. -/
structure Facet where
  name : String
  source : String
  groupby : List String
  /-- Whether the source is written before the name. -/
  sourceFirst : Bool := false

def Facet.toValue (facet : Facet) : Value :=
  let name := ("name", .text facet.name)
  let source := ("data", .text facet.source)
  let fields := match facet.groupby with
    | [field] => .text field
    | fields => .list (fields.map .text)
  .map ((if facet.sourceFirst then [source, name] else [name, source]) ++ [("groupby", fields)])

/-- A scale that belongs to a group. -/
structure GroupScale where
  scale : Scale
  /-- Whether the range is written before the domain. -/
  rangeFirst : Bool := false

def GroupScale.toMembers (declaration : GroupScale) : Members :=
  let scale := declaration.scale
  if declaration.rangeFirst then
    [("name", .text scale.name), ("type", .text scale.kind.text),
      ("range", scale.range.toValue), ("domain", scale.domain.toValue)] ++ scale.settings
  else scale.toMembers

/-- A group of simple marks. -/
structure Group where
  name : String
  facet : Option Facet := none
  enter : Channels := []
  update : Channels := []
  signals : List (String × Expr) := []
  scales : List GroupScale := []
  axes : List Axis := []
  marks : List Mark

namespace Group

/-- A member with a list, if the list has items. -/
def listMember (name : String) (items : List Members) : Members :=
  if items.isEmpty then [] else [(name, .list (items.map .map))]

def encodeMember (group : Group) : Members :=
  let channels := group.enter.member "enter" ++ group.update.member "update"
  if channels.isEmpty then [] else [("encode", .map channels)]

def toMembers (group : Group) : Members :=
  [("name", .text group.name), ("type", .text "group")]
    ++ Members.optional "from" (group.facet.map fun facet => .map [("facet", facet.toValue)])
    ++ group.encodeMember
    ++ listMember "signals" (group.signals.map fun (name, expression) =>
        [("name", .text name), ("update", .text expression.toText)])
    ++ listMember "scales" (group.scales.map GroupScale.toMembers)
    ++ listMember "axes" (group.axes.map Axis.toMembers)
    ++ [("marks", .list (group.marks.map fun mark => .map mark.toMembers))]

end Group

/-- Something that a layer draws. -/
inductive Graphic where
  | mark (mark : Mark)
  | group (group : Group)

def Graphic.toMembers : Graphic → Members
  | .mark content => content.toMembers
  | .group content => content.toMembers

end ChartCompiler
