import ChartCompiler.Files.Tree
import ChartCompiler.Log.Basic
import ChartCompiler.Text.Utf8

/-!
# Hosts

A host is what a program that reads and writes files runs on. One host is the value world: a
`FileRun` takes a file tree and gives the tree that is left, both when it returns and when it fails.
-/

namespace ChartCompiler

/-- The operations of a host. Each of them may fail; `attempt` tells the failure of a computation
and goes on. -/
class Host (m : Type → Type) extends Monad m where
  /-- Writes the records of a run to the log and ends as the run does. -/
  perform : Run α → m α
  attempt : m α → m (Except Failure α)
  readFile : FilePath → m (List UInt8)
  /-- Makes a directory unless it is there, and first the ones on the way to it. -/
  makeDirectories : FilePath → m Unit
  /-- Writes a text to a file, a new one or in the place of the one that is there. -/
  writeFile : FilePath → String → m Unit

/-- Returns a result or fails, without a log record. -/
def Host.settle [Host m] (outcome : Except Failure α) : m α := Host.perform ⟨[], outcome⟩

/-- A logged computation over files. -/
def FileRun (α : Type) : Type := FileTree → Run α × FileTree

namespace FileRun

def pure (value : α) : FileRun α := fun tree => (.pure value, tree)

def bind (first : FileRun α) (next : α → FileRun β) : FileRun β := fun tree =>
  let (start, reached) := first tree
  match start.outcome with
  | .error failure => (⟨start.records, .error failure⟩, reached)
  | .ok value =>
      let (rest, left) := next value reached
      (⟨start.records ++ rest.records, rest.outcome⟩, left)

def attempt (step : FileRun α) : FileRun (Except Failure α) := fun tree =>
  let (run, left) := step tree
  (⟨run.records, .ok run.outcome⟩, left)

/-- Writes a text to a file. The file is empty if the text has no bytes. -/
def writeFile (path : FilePath) (content : String) : FileRun Unit := fun tree =>
  let (bytes, ending) := match Text.encodeUtf8OrHalves content with
    | .ok bytes => (bytes, Run.pure ())
    | .error halves => ([], Run.fail (.unwritableText halves))
  match tree.write path bytes with
  | .ok written => (ending, written)
  | .error failure => (.fail failure, tree)

instance : Host FileRun where
  pure := FileRun.pure
  bind := FileRun.bind
  perform run := fun tree => (run, tree)
  attempt := FileRun.attempt
  readFile path := fun tree => (⟨[], tree.read path⟩, tree)
  makeDirectories path := fun tree =>
    let (outcome, left) := tree.makeDirectories path
    (⟨[], outcome⟩, left)
  writeFile := FileRun.writeFile

end FileRun

end ChartCompiler
