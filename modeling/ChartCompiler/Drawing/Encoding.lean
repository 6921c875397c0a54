import ChartCompiler.Scale.Basic

/-!
# Encodings

What the channels of a mark are set to: constants, computed values, or fields placed by a scale.
-/

namespace ChartCompiler

/-- A property of a mark. -/
inductive Channel where
  | x
  | x2
  | y
  | y2
  | width
  | height
  | fill
  | fillOpacity
  | stroke
  | strokeWidth
  | strokeDash
  | size
  | shape
  | interpolate
  | orient
  deriving DecidableEq

def Channel.name : Channel → String
  | .x => "x"
  | .x2 => "x2"
  | .y => "y"
  | .y2 => "y2"
  | .width => "width"
  | .height => "height"
  | .fill => "fill"
  | .fillOpacity => "fillOpacity"
  | .stroke => "stroke"
  | .strokeWidth => "strokeWidth"
  | .strokeDash => "strokeDash"
  | .size => "size"
  | .shape => "shape"
  | .interpolate => "interpolate"
  | .orient => "orient"

/-- What a channel is set to. -/
inductive Encoding where
  | constant (value : Value)
  | signal (expression : Expr)
  /-- The place of a field's value on a scale. -/
  | field (scale : ScaleName) (field : String)
  /-- The place inside the band of a field's value, as a share of the band. -/
  | inBand (scale : ScaleName) (field : String) (share : Number)
  /-- The place of a fixed value on a scale. -/
  | place (scale : ScaleName) (value : Int)
  /-- A share of the width of a scale's bands. -/
  | bandShare (scale : ScaleName) (share : Number)

namespace Encoding

def toValue : Encoding → Value
  | .constant value => .map [("value", value)]
  | .signal expression => expression.toSignal
  | .field scale name => .map [("scale", .text scale.text), ("field", .text name)]
  | .inBand scale name share =>
      .map [("scale", .text scale.text), ("field", .text name), ("band", .number share)]
  | .place scale value => .map [("scale", .text scale.text), ("value", .whole value)]
  | .bandShare scale share => .map [("scale", .text scale.text), ("band", .number share)]

def text (content : String) : Encoding := .constant (.text content)

def number (value : Number) : Encoding := .constant (.number value)

/-- A field on its scale, in the middle of the band if the scale is banded. -/
def position (scale : ScaleName) (field : String) (banded : Bool) : Encoding :=
  if banded then .inBand scale field (.real 0.5) else .field scale field

end Encoding

/-- The channels that a mark sets, in the order in which they are written. -/
abbrev Channels := List (Channel × Encoding)

def Channels.toValue (channels : Channels) : Value :=
  .map (channels.map fun (channel, encoding) => (channel.name, encoding.toValue))

end ChartCompiler
