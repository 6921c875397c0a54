import ChartCompiler.CommandLine.Execution

/-!
# The command

Runs the command on the files of the machine. Log records go to the error output, the summary to
the standard output.
-/

namespace ChartCompiler

/-- Computations on the machine, with the rank from which log records are shown. -/
abbrev Machine := ReaderT Int (ExceptT Failure IO)

namespace Machine

/-- The reason for a failed operation on a file. -/
def problemOf : IO.Error → PathProblem
  | .noFileOrDirectory .. => .notFound
  | .alreadyExists .. => .alreadyExists
  | .inappropriateType .. => .isADirectory
  | _ => .denied

/-- An operation on files, with the failure of the operation for its error. -/
def onFiles (operation : IO α) : Machine α := fun _ => do
  match ← operation.toBaseIO with
  | .ok value => return value
  | .error problem => throw (.path (problemOf problem))

def perform (run : Run α) : Machine α := fun rank => do
  for record in run.records do
    if record.shownFrom rank then
      IO.eprintln (Text.shown (record.severity.name ++ ":" ++ record.source.name ++ ":"
        ++ record.message.render "0.00"))
  match run.outcome with
  | .ok value => return value
  | .error failure => throw failure

/-- The path as the machine knows it. -/
def nativePath (path : FilePath) : String := Text.shown path.toText

instance : Host Machine where
  perform := Machine.perform
  attempt step := fun rank => ExceptT.mk (Except.ok <$> (step rank).run)
  readFile path := onFiles do return (← IO.FS.readBinFile (nativePath path)).toList
  makeDirectories path := onFiles (IO.FS.createDirAll (nativePath path))
  writeFile path content := match Text.encodeUtf8OrHalves content with
    | .ok bytes => onFiles (IO.FS.writeBinFile (nativePath path) ⟨bytes.toArray⟩)
    | .error halves => do
        onFiles (IO.FS.writeFile (nativePath path) "")
        throw (.unwritableText halves)

end Machine

/-- The words that can follow the name of the command. -/
def usage : String :=
  "[-h] [--file-name NAME] [--export-path DIRECTORY] [--x-label TEXT] [--y-label TEXT] "
    ++ "[--title TEXT] [--width NUMBER] [--height NUMBER] [--interactive] "
    ++ "[--jitter-seed NUMBER] [--log-level LEVEL] DESCRIPTOR"

/-- Tells how a command has ended, and gives its exit code. -/
def report (outcome : Except Failure CommandLine.Ending) : IO UInt32 := do
  match outcome with
  | .ok (.completed lines) =>
      for line in lines do IO.println (Text.shown line)
      return 0
  | .ok (.exited code) => return code.toUInt32
  | .error failure =>
      IO.eprintln (Text.shown (failure.message?.getD "The descriptor cannot be compiled."))
      return 1

end ChartCompiler

open ChartCompiler in
def main (words : List String) : IO UInt32 := do
  match CommandLine.Arguments.ofWords (words.map Text.ofCharacters) with
  | .error .helpAsked => IO.println usage; return 0
  | .error .misused => IO.eprintln usage; return 2
  | .ok arguments => match CommandLine.rankOf arguments.settings.logLevel with
    | .error failure => report (.error failure)
    | .ok rank => report (← (arguments.execute : Machine CommandLine.Ending) rank)
