import ChartCompiler.Table.Projection

/-!
# Plot descriptors

What a host library tells about a plot: the fields bound to it and the markers of its layers. A
descriptor arrives as a value of any shape; a malformed one is refused with a reason.
-/

namespace ChartCompiler

/-- A plot as a host library describes it. The markers are in order, each of them once. -/
structure PlotDescriptor where
  bindings : Bindings
  layers : Members := []

namespace PlotDescriptor

/-- Whether a value can be bound to a plot: it has a length and is indexed, and is no text. -/
def isSequence : Value → Bool
  | .list _ | .tuple _ | .map _ | .array _ _ _ => true
  | .null | .bool _ | .number _ | .text _ | .bytes _ | .set _ => false

def refuse (problem : DescriptorProblem) : Except Failure α :=
  .error (.malformedDescriptor problem)

/-- A binding that must be there. -/
def requiredBinding (fields : Members) (name : String) : Except Failure Value :=
  match fields.get? name with
  | none => refuse (.missingBinding name)
  | some value => if isSequence value then .ok value else refuse (.bindingNotASequence name)

/-- A binding that may be missing or null. -/
def optionalBinding (fields : Members) (name : String) : Except Failure (Option Value) :=
  match fields.get? name with
  | none | some .null => .ok none
  | some value => if isSequence value then .ok (some value) else refuse (.bindingNotASequence name)

/-- The members that hold the bindings: those under `aes`, or the descriptor itself. -/
def fieldsOf (payload : Members) : Except Failure Members :=
  match payload.get? "aes" with
  | none => .ok payload
  | some (.map fields) => .ok fields
  | some _ => refuse .aestheticsNotAMapping

/-- Markers without parameters, each of them once. -/
def namedMarkers (names : List Value) : Members :=
  Members.ofPairs (names.map fun name => (name.plainText, .map []))

/-- The layer markers: a map, or a list of names. -/
def markersOf : Value → Except Failure Members
  | .map markers => .ok markers
  | .list names | .tuple names => .ok (namedMarkers names)
  | .bytes codes => .ok (namedMarkers (codes.map fun code => .whole code.toNat))
  | .null | .bool _ | .number _ | .text _ | .set _ | .array _ _ _ => refuse .layersNotAMapping

/-- The value that holds the layer markers. -/
def markerMember (payload : Members) : Value :=
  ((payload.get? "results").orElse fun _ => payload.get? "layers").getD (.map [])

/-- Reads a descriptor. -/
def ofValue : Value → Except Failure PlotDescriptor
  | .map payload => do
      let fields ← fieldsOf payload
      let x ← requiredBinding fields "x"
      let y ← requiredBinding fields "y"
      let color ← optionalBinding fields "color"
      let ymin ← optionalBinding fields "ymin"
      let ymax ← optionalBinding fields "ymax"
      let layers ← markersOf (markerMember payload)
      return { bindings := { x, y, color, ymin, ymax }, layers }
  | _ => refuse .notAMapping

end PlotDescriptor

end ChartCompiler
