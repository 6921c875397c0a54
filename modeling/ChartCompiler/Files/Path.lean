/-!
# Paths

A path names a file or directory by the names on the way to it, from the working directory or from
the root. Empty parts and the part `.` say nothing and are left out; the part `..` is kept, because
where it leads depends on the files.
-/

namespace ChartCompiler

structure FilePath where
  /-- The slashes in front: none on a path from the working directory. -/
  root : String := ""
  names : List String
  deriving DecidableEq

namespace FilePath

/-- The parts of a text between slashes. -/
def segments : List Char → List (List Char)
  | [] => [[]]
  | character :: rest =>
      if character = '/' then [] :: segments rest
      else match segments rest with
        | [] => [[character]]
        | first :: others => (character :: first) :: others

/-- The slashes in front of a path. Exactly two are kept, any other number counts as one. -/
def rootOf (characters : List Char) : String :=
  match (characters.takeWhile (· = '/')).length with
  | 0 => ""
  | 2 => "//"
  | _ => "/"

/-- The path that a text stands for. -/
def ofText (text : String) : FilePath :=
  { root := rootOf text.toList
    names := ((segments text.toList).map String.ofList).filter fun name =>
      name ≠ "" && name ≠ "." }

def toText (path : FilePath) : String :=
  if path.root = "" && path.names.isEmpty then "."
  else path.root ++ "/".intercalate path.names

/-- The path of an entry of the directory at a path. -/
def child (path : FilePath) (name : String) : FilePath :=
  { path with names := path.names ++ [name] }

/-- The path without its last name. -/
def parent (path : FilePath) : FilePath := { path with names := path.names.dropLast }

/-- The last name on a path. -/
def name (path : FilePath) : String := path.names.getLast?.getD ""

/-- A name without its extension: what stands before the last point, unless that is nothing or
nothing follows the point. -/
def withoutExtension (name : List Char) : List Char :=
  match name.reverse.span (· ≠ '.') with
  | (extension, _ :: base) => if extension.isEmpty || base.isEmpty then name else base.reverse
  | (_, []) => name

/-- The last name on a path without its extension. -/
def stem (path : FilePath) : String := String.ofList (withoutExtension path.name.toList)

example : (ofText "./a//../b/").toText = "a/../b" := by decide +kernel

example : ["a.b.json", ".json", "plain", "end."].map (fun text => (ofText text).stem) =
    ["a.b", ".json", "plain", "end."] := by decide +kernel

end FilePath

end ChartCompiler
