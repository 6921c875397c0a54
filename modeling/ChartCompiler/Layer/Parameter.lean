import ChartCompiler.Log.Basic
import ChartCompiler.Value.Access

/-!
# Layer parameters

The parameters of a layer come from the host library and may be anything. A value that is no
usable number is replaced by the default of the layer, with a warning.
-/

namespace ChartCompiler

namespace Members

/-- A parameter as a finite real number. -/
def realParameter (parameters : Members) (name : String) (default : Binary64) : Run Binary64 :=
  match parameters.get? name with
  | none => return default
  | some given =>
      let shown := given.display
      let used := default.toText
      match given.toReal with
      | .ok value =>
          if value.isFinite then return value
          else do
            Run.warn .parameters s!"Ignoring non-finite parameter {name}={shown}; using {used}"
            return default
      | .error .numberTooLarge => Run.fail .numberTooLarge
      | .error _ => do
          Run.warn .parameters s!"Ignoring non-numeric parameter {name}={shown}; using {used}"
          return default

/-- A parameter as a whole number that is not below a minimum. The default is checked like any
other value. -/
def wholeParameter (parameters : Members) (name : String) (default : Int)
    (minimum : Int := 1) : Run Int := do
  let given := (parameters.get? name).getD (.whole default)
  match given.toWhole with
  | .ok value =>
      if value < minimum then do
        Run.warn .parameters
          s!"Parameter {name}={value} below minimum {minimum}; using {default}"
        return default
      else return value
  | .error .numberTooLarge => Run.fail .numberTooLarge
  | .error _ => do
      let shown := given.display
      Run.warn .parameters s!"Ignoring non-integer parameter {name}={shown}; using {default}"
      return default

/-- The finite numbers among some values; `shown` is how the others are told. -/
def finiteNumbers (shown : Value → String) : List Value → Run (List Binary64)
  | [] => return []
  | item :: rest =>
      match item.toReal with
      | .ok value => do
          let others ← finiteNumbers shown rest
          return if value.isFinite then value :: others else others
      | .error .numberTooLarge => Run.fail .numberTooLarge
      | .error _ => do
          Run.warn .plainLayers ("Ignoring non-numeric intercept " ++ shown item)
          finiteNumbers shown rest

/-- A parameter as a list of finite numbers: of its items, or of the value itself. -/
def numberListParameter (parameters : Members) (name : String) : Run (List Binary64) :=
  match parameters.get? name with
  | none | some .null => return []
  | some (.list items) | some (.tuple items) => finiteNumbers Value.display items
  | some (.array elements [_] items) => finiteNumbers elements.typedText items
  | some (.array elements extents items) =>
      finiteNumbers Value.display ((Value.rowsOf elements extents items).getD [])
  | some value => finiteNumbers Value.display [value]

end Members

end ChartCompiler
