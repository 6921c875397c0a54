import ChartCompiler.CommandLine.Arguments
import ChartCompiler.Compilation
import ChartCompiler.Files.Export
import ChartCompiler.Json.Reader
import ChartCompiler.Log.Level

/-!
# Running the command

The command reads a plot descriptor from a file, compiles it, writes the files of the chart and
tells what it has done.
-/

namespace ChartCompiler.CommandLine

/-- How a command ends that does not fail: with lines to print, or with an exit code. -/
inductive Ending where
  | completed (lines : List String)
  | exited (code : Nat)
  deriving DecidableEq

/-- The value in a file of JSON text. -/
def readValue [Host m] (path : FilePath) : m Value := do
  match Text.decodeUtf8? (← Host.readFile path) with
  | none => Host.settle (.error .malformedText)
  | some text => Host.settle (Json.read text)

/-- Logs what was left out or replaced in a chart. -/
def tell : List Diagnostic → Run Unit
  | [] => return ()
  | note :: rest => do
      Run.warn .commandLine (note.kind ++ ": " ++ note.message)
      tell rest

/-- Logs an error and gives the exit code for it. -/
def exitWith [Host m] (message : String) : m Ending := do
  Host.perform (.log .error .commandLine message)
  return .exited 1

/-- The reason that is logged when the files of a chart cannot be written because of what their
paths are; other failures are not the command's to explain. -/
def exportProblem? : Failure → Option String
  | .unwritableText halves => some halves.message
  | .unsafeFileName given => (Failure.unsafeFileName given).message?
  | .path .holdsNull => some "embedded null byte"
  | _ => none

/-- What the command tells about a compiled plot and its files. -/
def summary (compilation : Compilation) (files : ChartFiles) : List String :=
  ["Layers: " ++ ", ".intercalate (compilation.requests.map fun request => request.kind.name),
    s!"Rows: {compilation.table.rows.length} of {compilation.table.givenCount}",
    "Vega specification written to " ++ files.document.toText,
    "HTML page written to " ++ files.page.toText]

namespace Arguments

/-- The name of the chart: the one that is set, or the file name of the descriptor. -/
def chartName (arguments : Arguments) : Value :=
  let stem := Value.text (FilePath.ofText arguments.path).stem
  match arguments.settings.fileName with
  | some name => if name.isTruthy then name else stem
  | none => stem

/-- Compiles a plot, writes its files and sums up. -/
def publish [Host m] (arguments : Arguments) (descriptor : PlotDescriptor) : m Ending := do
  let compilation ← Host.perform (descriptor.compile arguments.settings.options)
  Host.perform (tell compilation.diagnostics)
  let writing := ChartFiles.write (.map compilation.chart.toMembers) arguments.chartName
    arguments.settings.exportPath
  match ← Host.attempt writing with
  | .ok files => return .completed (summary compilation files)
  | .error failure => match exportProblem? failure with
    | some problem => exitWith ("Cannot write chart files: " ++ problem)
    | none => Host.settle (.error failure)

/-- Carries the command out. -/
def execute [Host m] (arguments : Arguments) : m Ending := do
  let path := FilePath.ofText arguments.path
  Host.perform (.info .commandLine ("Reading plot descriptor from " ++ path.toText))
  match PlotDescriptor.ofValue (← readValue path) with
  | .ok descriptor => arguments.publish descriptor
  | .error (.malformedDescriptor problem) =>
      exitWith ("Invalid descriptor " ++ path.toText ++ ": " ++ problem.message)
  | .error failure => Host.settle (.error failure)

end Arguments

/-- What a command leaves. -/
structure CommandResult where
  outcome : Except Failure Ending
  /-- The log records that are shown. -/
  records : List LogRecord := []
  files : FileTree

/-- Runs a command, given as its words, over a file tree. -/
def run (texts : List String) (files : FileTree) : CommandResult :=
  match Arguments.ofWords texts with
  | .error .helpAsked => { outcome := .ok (.exited 0), files }
  | .error .misused => { outcome := .ok (.exited 2), files }
  | .ok arguments => match rankOf arguments.settings.logLevel with
    | .error failure => { outcome := .error failure, files }
    | .ok rank =>
        let (run, left) := (arguments.execute : FileRun Ending) files
        { outcome := run.outcome
          records := run.records.filter fun record => record.shownFrom rank
          files := left }

end ChartCompiler.CommandLine
