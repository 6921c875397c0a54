/-!
# Kinds of layers

The layers that can be drawn. A host library marks a layer by its name, or by its name with a
suffix for a layer that it has already built. The regression plot has no marker of its own: it
stands for points together with their fitted line.
-/

namespace ChartCompiler

inductive LayerKind where
  | point
  | line
  | bar
  | jitter
  | swarm
  | raster
  | interval
  | abline
  | vline
  | hline
  | polygon
  | glm
  | smooth
  | fit
  | bin
  | density
  | violin
  | boxplot
  | summary
  | bin2d
  | ellipse
  | qq
  | cornerHistogram
  | regressionPlot
  deriving DecidableEq

namespace LayerKind

def all : List LayerKind :=
  [.point, .line, .bar, .jitter, .swarm, .raster, .interval, .abline, .vline, .hline, .polygon,
    .glm, .smooth, .fit, .bin, .density, .violin, .boxplot, .summary, .bin2d, .ellipse, .qq,
    .cornerHistogram, .regressionPlot]

theorem mem_all (kind : LayerKind) : kind ∈ all := by cases kind <;> decide

def name : LayerKind → String
  | .point => "geom_point"
  | .line => "geom_line"
  | .bar => "geom_bar"
  | .jitter => "geom_jitter"
  | .swarm => "geom_swarm"
  | .raster => "geom_raster"
  | .interval => "geom_interval"
  | .abline => "geom_abline"
  | .vline => "geom_vline"
  | .hline => "geom_hline"
  | .polygon => "geom_polygon"
  | .glm => "stat_glm"
  | .smooth => "stat_smooth"
  | .fit => "stat_fit"
  | .bin => "stat_bin"
  | .density => "stat_density"
  | .violin => "stat_violin"
  | .boxplot => "stat_boxplot"
  | .summary => "stat_summary"
  | .bin2d => "stat_bin2d"
  | .ellipse => "stat_ellipse"
  | .qq => "stat_qq"
  | .cornerHistogram => "stat_cornerhist"
  | .regressionPlot => "regression_plot"

/-- The kind with a name. -/
def ofName? (name : String) : Option LayerKind := all.find? fun kind => kind.name = name

/-- Whether a layer draws a statistic of the rows; their names start alike. -/
def isStatistical (kind : LayerKind) : Bool := "stat_".toList.isPrefixOf kind.name.toList

/-- The end of a marker that stands for a layer already built. -/
def handleEnding : List Char := "_handle".toList

/-- Whether a marker stands for a layer already built. -/
def isHandle (marker : String) : Bool := handleEnding.isSuffixOf marker.toList

/-- A marker without the ending for built layers; one such ending is removed. -/
def markedName (marker : String) : String :=
  if isHandle marker then
    String.ofList (marker.toList.take (marker.toList.length - handleEnding.length))
  else marker

/-- The kind that a marker asks for. -/
def ofMarker? (marker : String) : Option LayerKind :=
  match ofName? (markedName marker) with
  | some .regressionPlot => none
  | other => other

end LayerKind

end ChartCompiler
