import ChartCompiler.Failure
import ChartCompiler.Files.Path

/-!
# File trees

The files and directories that a program sees, as a value. Every operation either gives the tree
after it or fails and leaves the tree as it is.
-/

namespace ChartCompiler

/-- Where something lies: the names on the way to it from the root. -/
abbrev Location := List String

/-- What lies at a location. -/
inductive Entry where
  | directory
  | file (content : List UInt8)
  deriving DecidableEq

/-- Files and directories. The first entry given for a location counts; the root itself is always a
directory. -/
structure FileTree where
  workingDirectory : Location := []
  entries : List (Location × Entry) := []
  deriving DecidableEq

namespace FileTree

def entryAt? (tree : FileTree) (location : Location) : Option Entry :=
  if location = [] then some .directory else tree.entries.lookup location

/-- Lays an entry at a location, in the place of what was there. -/
def put (tree : FileTree) (location : Location) (entry : Entry) : FileTree :=
  { tree with
    entries := (location, entry) :: tree.entries.filter fun other => other.1 ≠ location }

/-- Finding an entry where one was laid. -/
theorem entryAt?_put_self (tree : FileTree) (location : Location) (entry : Entry)
    (nonempty : location ≠ []) : (tree.put location entry).entryAt? location = some entry := by
  simp [entryAt?, put, nonempty]

/-- Laying an entry changes nothing at other locations. -/
theorem entryAt?_put_of_ne (tree : FileTree) (entry : Entry) {location other : Location}
    (different : other ≠ location) :
    (tree.put location entry).entryAt? other = tree.entryAt? other := by
  unfold entryAt? put
  split
  · rfl
  · have reversed : (other == location) = false := by simpa using different
    simp only [List.lookup_cons, reversed]
    induction tree.entries with
    | nil => rfl
    | cons head tail induction =>
        obtain ⟨place, kept⟩ := head
        by_cases same : place = location
        · have skipped : (other == place) = false := by simpa [same] using different
          simpa [List.lookup_cons, same, skipped, reversed] using induction
        · by_cases found : other = place
          · simp [same, found]
          · have missed : (other == place) = false := by simpa using found
            simpa [List.lookup_cons, same, missed] using induction

/-! ## Following paths -/

/-- The number of bytes that a name may have. -/
def nameLimit : Nat := 255

/-- The number of bytes that a path may have. -/
def pathLimit : Nat := 4095

def refuse (problem : PathProblem) : Except Failure α := .error (.path problem)

/-- The location that a name leads to from a directory. -/
def step (here : Location) (name : String) : Except Failure Location :=
  if name = ".." then .ok here.dropLast
  else if nameLimit < Text.byteLength name then refuse .nameTooLong
  else .ok (here ++ [name])

/-- Goes along names, all of which must lead to directories. -/
def walk (tree : FileTree) (here : Location) : List String → Except Failure Location
  | [] => .ok here
  | name :: rest => do
      let next ← step here name
      match tree.entryAt? next with
      | none => refuse .notFound
      | some (.file _) => refuse .notADirectory
      | some .directory => tree.walk next rest

/-- Whether half a surrogate pair, given by its code point, stands for a single byte in the names of
files. -/
def isByteName (code : Nat) : Bool := 0xdc80 ≤ code && code < 0xdd00

/-- The location of what a path names. All names but the last must lead to directories; there need
not be anything at the last. -/
def locate (tree : FileTree) (path : FilePath) : Except Failure Location := do
  if let some halves := Text.firstHalves? isByteName 0 (Text.units path.toText) then
    .error (.unwritableText halves)
  if path.toText.toList.contains '\x00' then refuse .holdsNull
  if pathLimit < Text.byteLength path.toText then refuse .nameTooLong
  let start := if path.root = "" then tree.workingDirectory else []
  let directory ← tree.walk start path.names.dropLast
  match path.names.getLast? with
  | none => return directory
  | some name => step directory name

/-- Whether a path names a directory. -/
def isDirectory (tree : FileTree) (path : FilePath) : Bool :=
  match tree.locate path with
  | .ok location => tree.entryAt? location == some .directory
  | .error _ => false

/-! ## Reading and writing -/

/-- The content of the file at a path. -/
def read (tree : FileTree) (path : FilePath) : Except Failure (List UInt8) := do
  match tree.entryAt? (← tree.locate path) with
  | none => refuse .notFound
  | some .directory => refuse .isADirectory
  | some (.file content) => return content

/-- Writes a file, a new one or in the place of the one at the path. -/
def write (tree : FileTree) (path : FilePath) (content : List UInt8) :
    Except Failure FileTree := do
  let location ← tree.locate path
  match tree.entryAt? location with
  | some .directory => refuse .isADirectory
  | _ => return tree.put location (.file content)

/-- Makes a directory in a directory that is there. -/
def makeOneDirectory (tree : FileTree) (path : FilePath) : Except Failure FileTree := do
  let location ← tree.locate path
  match tree.entryAt? location with
  | some _ => refuse .alreadyExists
  | none => return tree.put location .directory

/-- Makes a directory unless it is there. -/
def ensureDirectory (tree : FileTree) (path : FilePath) : Except Failure Unit × FileTree :=
  match tree.makeOneDirectory path with
  | .ok extended => (.ok (), extended)
  | .error failure => (if tree.isDirectory path then .ok () else .error failure, tree)

/-- Makes a directory unless it is there, and first the ones on the way to it. Directories made
before one that cannot be made stay. -/
def makeDirectories (tree : FileTree) (path : FilePath) : Except Failure Unit × FileTree :=
  match tree.ensureDirectory path with
  | (.error (.path .notFound), unchanged) =>
      if path.names.isEmpty then (refuse .notFound, unchanged)
      else match tree.makeDirectories path.parent with
        | (.error failure, reached) => (.error failure, reached)
        | (.ok (), reached) => reached.ensureDirectory path
  | ended => ended
termination_by path.names.length
decreasing_by
  have nonempty : path.names ≠ [] := by simpa using ‹¬path.names.isEmpty = true›
  have positive := List.length_pos_iff.mpr nonempty
  simp [FilePath.parent]
  omega

end FileTree

end ChartCompiler
