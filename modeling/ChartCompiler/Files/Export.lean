import ChartCompiler.Chart.Document
import ChartCompiler.Files.Host
import ChartCompiler.Files.Page

/-!
# Chart files

A chart is written as two files of one directory: its document and the page that shows it.
-/

namespace ChartCompiler

/-- The paths of the two files of a chart. -/
structure ChartFiles where
  document : FilePath
  page : FilePath

namespace ChartFiles

/-- The name of a chart that is given none. -/
def standardName : String := "untitled"

/-- The files of a chart in a directory. -/
def inDirectory (directory : FilePath) (name : String) : ChartFiles :=
  { document := directory.child (name ++ ".json")
    page := directory.child (name ++ ".html") }

/-- The title of the page of a document: its own title, or the standard one if that is absent or
counts as false. -/
def pageTitle (document : Members) : Except Failure String :=
  match document.get? "title" with
  | none => .ok Page.standardTitle
  | some title => if title.isTruthy then Page.titleOf title else .ok Page.standardTitle

/-- The directory that a value names. -/
def directoryOf : Value → Except Failure FilePath
  | .text directory => .ok (.ofText directory)
  | _ => .error .unsupportedKind

/-- Writes the document of a chart, then its page. -/
def write [Host m] (document name directory : Value) : m ChartFiles := do
  let name ← Host.settle (Page.nameOf name)
  let directory ← Host.settle (directoryOf directory)
  Host.makeDirectories directory
  let members ← Host.settle document.documentMembers
  let files := inDirectory directory name
  Host.perform (.info .files ("Writing Vega specification to " ++ files.document.toText))
  let text ← Host.settle (Json.toText (.map members))
  Host.writeFile files.document (text ++ "\n")
  Host.perform (.info .files ("Writing HTML loader to " ++ files.page.toText))
  let title ← Host.settle (pageTitle members)
  Host.writeFile files.page (Page.render name title)
  return files

end ChartFiles

end ChartCompiler
