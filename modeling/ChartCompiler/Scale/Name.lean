/-!
# Names of scales

The scales that layers declare and refer to. Three of them belong to a group of marks and are
declared there; the others are shared by the whole chart.
-/

namespace ChartCompiler

inductive ScaleName where
  | x
  | y
  | color
  /-- The place of a color group inside the band of its category. -/
  | colorOffset
  /-- The color of a cell by its count. -/
  | heat
  /-- The width of a violin by its density. -/
  | violinWidth
  /-- The place of a bar inside its group. -/
  | barPosition
  | cornerX
  | cornerY
  deriving DecidableEq

def ScaleName.text : ScaleName → String
  | .x => "xscale"
  | .y => "yscale"
  | .color => "color"
  | .colorOffset => "colorpos"
  | .heat => "heatcolor"
  | .violinWidth => "widthscale"
  | .barPosition => "pos"
  | .cornerX => "cornerx"
  | .cornerY => "cornery"

/-- The two extents of a drawing area, as the renderer knows them. -/
inductive Dimension where
  | width
  | height
  deriving DecidableEq

def Dimension.name : Dimension → String
  | .width => "width"
  | .height => "height"

end ChartCompiler
