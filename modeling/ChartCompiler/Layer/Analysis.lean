import ChartCompiler.Layer.Kind
import ChartCompiler.Log.Basic
import ChartCompiler.Table.Basic

/-!
# Analysis of layer markers

A plot names its layers by markers with parameters. Markers of one kind are one request, which
keeps the place of the first of them; of several values for a parameter the first counts. Points
and a fitted line together are requested as one regression plot.
-/

namespace ChartCompiler

/-- A layer to be drawn. -/
structure LayerRequest where
  kind : LayerKind
  parameters : Members := []

/-- The layers of a plot. -/
structure LayerAnalysis where
  requests : List LayerRequest
  diagnostics : List Diagnostic := []

/-- Adds the members that are not there yet. -/
def Members.fillFrom (members additions : Members) : Members :=
  additions.foldl (fun result addition => result.setIfAbsent addition.1 addition.2) members

namespace LayerAnalysis

/-- Whether the value under a marker asks for the layer. Parameters always do, and so does whatever
has elements. -/
def isPresent (marker : String) (value : Value) : Bool :=
  LayerKind.isHandle marker
    || match value with
      | .map _ => true
      | value => match value.elements? with
          | some elements => !elements.isEmpty
          | none => value.isTruthy

/-- The parameters that a marker carries. -/
def parametersOf : Value → Members
  | .map members => members
  | _ => []

/-- Adds the parameters of a kind, at its place or at the end. -/
def gather (kind : LayerKind) (parameters : Members) :
    List (LayerKind × Members) → List (LayerKind × Members)
  | [] => [(kind, parameters)]
  | (other, gathered) :: rest =>
      if other = kind then (other, gathered.fillFrom parameters) :: rest
      else (other, gathered) :: gather kind parameters rest

/-- The kinds that markers ask for, with their parameters. -/
def gatherAll (found : List (LayerKind × Members)) :
    List (String × Value) → Run (List (LayerKind × Members))
  | [] => return found
  | (marker, value) :: rest =>
      match LayerKind.ofMarker? marker with
      | none => do
          Run.debug .analysis s!"Ignoring unrecognized layer marker '{marker}'"
          gatherAll found rest
      | some kind =>
          if isPresent marker value then gatherAll (gather kind (parametersOf value) found) rest
          else gatherAll found rest

/-- Whether a kind is a part of a regression plot. -/
def isFused (kind : LayerKind) : Bool := kind = .point || kind = .glm

def request (entry : LayerKind × Members) : LayerRequest := ⟨entry.1, entry.2⟩

/-- Puts a request in the place of the first part of a regression plot, and drops the other. -/
def fuse (fused : LayerRequest) : List (LayerKind × Members) → List LayerRequest
  | [] => []
  | entry :: rest =>
      if isFused entry.1 then fused :: (rest.filter fun other => !isFused other.1).map request
      else request entry :: fuse fused rest

/-- The requests for the kinds that were found. -/
def requestsOf (found : List (LayerKind × Members)) : List LayerRequest :=
  match found.lookup .point, found.lookup .glm with
  | some points, some line => fuse ⟨.regressionPlot, line.fillFrom points⟩ found
  | _, _ => found.map request

/-- What is told about a plot without layers. -/
def defaultMessage : String := "No geom or stat type detected, defaulting to point chart"

/-- The requests of a plot; without any layer the points are drawn. -/
def completed (requests : List LayerRequest) : Run LayerAnalysis :=
  if requests.isEmpty then do
    Run.info .analysis defaultMessage
    return ⟨[⟨.point, []⟩], [⟨"default-layer", defaultMessage, none⟩]⟩
  else return ⟨requests, []⟩

/-- The layers that markers ask for. -/
def ofMarkers (markers : List (String × Value)) : Run LayerAnalysis := do
  let analysis ← completed (requestsOf (← gatherAll [] markers))
  let count := analysis.requests.length
  let names := ", ".intercalate (analysis.requests.map (·.kind.name))
  Run.info .analysis s!"Detected {count} layer(s): {names}"
  return analysis

end LayerAnalysis

end ChartCompiler
