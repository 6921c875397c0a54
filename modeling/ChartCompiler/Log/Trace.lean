import ChartCompiler.Log.Basic
import ChartCompiler.Log.Outline
import ChartCompiler.Value.Access

/-!
# Traced steps

A traced step tells the log when it starts, with what it is given, and when it ends, with the time
it took and what it returns, or that it failed. Traces are shown only where debug records are.
-/

namespace ChartCompiler

/-- What is shown of the elements of a value, if it has any. -/
def elementOutlines (arguments : Value) : Except Failure (List Outline) :=
  match Outline.ofElements? arguments with
  | some outlines => .ok outlines
  | none => .error .unsupportedKind

/-- What is shown of the members of a map. -/
def memberOutlines (members : Members) : List (String × Outline) :=
  members.map fun (name, value) => (name, .value value)

/-- The arguments of a step: outlines in order, and outlines by name. -/
def argumentText (arguments : List Outline) (named : List (String × Outline) := []) : String :=
  let ordered :=
    if arguments.isEmpty then []
    else ["args=[" ++ ", ".intercalate (arguments.map Outline.toText) ++ "]"]
  let byName :=
    if named.isEmpty then []
    else ["kwargs=\x7b"
      ++ ", ".intercalate (named.map fun (name, value) => name ++ "=" ++ value.toText) ++ "\x7d"]
  let parts := ordered ++ byName
  if parts.isEmpty then "no-args" else ", ".intercalate parts

/-- The arguments of a step, given as the value of all in order and the value of all by name. What
counts as false stands for none. -/
def argumentTextOf (arguments named : Value) : Except Failure String := do
  let ordered ← if ← arguments.truth then elementOutlines arguments else pure []
  let byName ← if ← named.truth then named.membersOf else pure []
  return argumentText ordered (memberOutlines byName)

namespace Run

/-- The record that a step starts. -/
def entering (source : LogSource) (name arguments : String) : LogRecord :=
  ⟨.debug, source, .plain s!"Entering {name} ({arguments})", false⟩

/-- The record that a step has failed; like all traces it is shown with debug records only. -/
def failed (source : LogSource) (name : String) : LogRecord :=
  ⟨.error, source, .plain s!"Exception in {name}", true⟩

/-- The record that a step has ended. -/
def exiting (source : LogSource) (name : String) (result? : Option Outline) : LogRecord :=
  let shown := match result? with
    | some result => " -> " ++ result.toText
    | none => ""
  ⟨.debug, source, .timed s!"Exiting {name} after " (" ms" ++ shown), false⟩

/-- A step with its trace. The result is shown if it has an outline. -/
def traced (source : LogSource) (name arguments : String) (outline? : α → Option Outline)
    (step : Run α) : Run α :=
  let start := entering source name arguments
  match step.outcome with
  | .ok result =>
      ⟨start :: step.records ++ [exiting source name (outline? result)], .ok result⟩
  | .error failure => ⟨start :: step.records ++ [failed source name], .error failure⟩

end Run

end ChartCompiler
