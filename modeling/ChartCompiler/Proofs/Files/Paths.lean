import ChartCompiler.Proofs.Files.Document

/-!
# Entries of directories

The text of a path is read as the path again. So an entry of a directory is named by one part of
its path, and it lies where the directory lies.
-/

namespace ChartCompiler

namespace FilePath

/-! ## Parts of a path -/

/-- Whether a name is a part of a path that says something: it is neither empty nor a point, and no
slash divides it. -/
structure IsPart (name : String) : Prop where
  filled : name ≠ ""
  moves : name ≠ "."
  whole : '/' ∉ name.toList

/-- Whether a path consists of parts behind the slashes of its root. -/
structure IsNormal (path : FilePath) : Prop where
  root : path.root = "" ∨ path.root = "/" ∨ path.root = "//"
  names : ∀ name ∈ path.names, IsPart name

theorem segments_eq_splitOn (characters : List Char) :
    segments characters = characters.splitOn '/' := by
  induction characters with
  | nil => rfl
  | cons first rest induction =>
      simp only [segments, induction, List.splitOn, List.splitOnP_cons_eq_if_modifyHead, beq_iff_eq]
      split
      · rfl
      · split
        · next empty => exact absurd empty (List.splitOnP_ne_nil _ _)
        · next head others divided => rw [divided, List.modifyHead_cons]

theorem slash_notMem_segments {characters part : List Char} (inside : part ∈ segments characters) :
    '/' ∉ part := by
  induction characters generalizing part with
  | nil =>
      rw [segments, List.mem_singleton] at inside
      rw [inside]
      exact List.not_mem_nil
  | cons first rest induction =>
      simp only [segments] at inside
      split at inside
      · rcases List.mem_cons.mp inside with rfl | later
        · exact List.not_mem_nil
        · exact induction later
      · next other =>
          split at inside
          · rw [List.mem_singleton] at inside
            rw [inside, List.mem_singleton]
            exact Ne.symm other
          · next head others divided =>
              rcases List.mem_cons.mp inside with rfl | later
              · have plain : '/' ∉ head := induction (divided ▸ List.mem_cons_self)
                simp [plain, Ne.symm other]
              · exact induction (divided ▸ List.mem_cons_of_mem _ later)

/-- A path that is read consists of parts. -/
theorem isNormal_ofText (text : String) : (ofText text).IsNormal := by
  constructor
  · simp only [ofText, rootOf]
    split <;> simp
  · intro name inside
    simp only [ofText, List.mem_filter, List.mem_map] at inside
    rcases inside with ⟨⟨part, divided, rfl⟩, said⟩
    simp only [ne_eq, decide_not, Bool.and_eq_true, Bool.not_eq_true', decide_eq_false_iff_not] at said
    constructor
    · exact said.1
    · exact said.2
    · rw [String.toList_ofList]
      exact slash_notMem_segments divided

theorem IsNormal.child {path : FilePath} (normal : path.IsNormal) {name : String}
    (part : IsPart name) : (path.child name).IsNormal := by
  constructor
  · exact normal.root
  · intro other inside
    rcases List.mem_append.mp inside with above | last
    · exact normal.names other above
    · rw [List.mem_singleton.mp last]
      exact part

/-! ## Reading a path -/

theorem segments_slash (rest : List Char) : segments ('/' :: rest) = [] :: segments rest := rfl

/-- The names of a path are read as they are between slashes. -/
theorem segments_intercalate {names : List String} (filled : names ≠ [])
    (parts : ∀ name ∈ names, IsPart name) :
    (segments ("/".intercalate names).toList).map String.ofList = names := by
  have divided : ∀ part ∈ names.map String.toList, '/' ∉ part :=
    List.forall_mem_map.mpr fun name inside => (parts name inside).whole
  rw [segments_eq_splitOn, String.toList_intercalate]
  change ((['/'].intercalate (names.map String.toList)).splitOn '/').map String.ofList = names
  rw [List.splitOn_intercalate '/' divided (by simpa using filled), List.map_map]
  simp

/-- No part starts with a slash. -/
theorem head?_intercalate {names : List String} (parts : ∀ name ∈ names, IsPart name) :
    ("/".intercalate names).toList.head? ≠ Option.some '/' := by
  cases names with
  | nil => simp
  | cons name rest =>
      have part := parts name List.mem_cons_self
      have filled : name.toList ≠ [] := by simpa using part.filled
      rcases List.exists_cons_of_ne_nil filled with ⟨first, others, spelled⟩
      have other : first ≠ '/' := by
        rintro rfl
        exact part.whole (spelled ▸ List.mem_cons_self)
      cases rest with
      | nil => simp [spelled, other]
      | cons second more => simp [spelled, other]

theorem takeWhile_slash {characters : List Char} (other : characters.head? ≠ some '/') :
    characters.takeWhile (· = '/') = [] := by
  cases characters with
  | nil => rfl
  | cons first rest =>
      rw [List.takeWhile_cons_of_neg]
      simpa using other

/-- The text of a path stands for the path. -/
theorem ofText_toText {path : FilePath} (normal : path.IsNormal) : ofText path.toText = path := by
  rcases path with ⟨root, names⟩
  have roots := normal.root
  have parts := normal.names
  dsimp only at roots parts
  have said : names.filter (fun name => !decide (name = "") && !decide (name = ".")) = names := by
    apply List.filter_eq_self.mpr
    intro name inside
    simp [(parts name inside).filled, (parts name inside).moves]
  have behind := takeWhile_slash (head?_intercalate parts)
  by_cases top : names = []
  · subst top
    rcases roots with rfl | rfl | rfl <;> decide +kernel
  · have read := segments_intercalate top parts
    rcases roots with rfl | rfl | rfl
    all_goals
      simp [toText, ofText, rootOf, top, behind, read, segments_slash, said,
        -String.toList_intercalate]

end FilePath

namespace Page

/-! ## Names of charts -/

theorem isBareName_of_nameOf {given : Value} {name : String} (accepted : nameOf given = .ok name) :
    isBareName name = true := by
  simp only [nameOf] at accepted
  split at accepted
  · split at accepted
    · next bare =>
        cases accepted
        exact bare
    · cases accepted
  · rcases (bind_eq_ok_iff _ _ _).mp accepted with ⟨truth, _, refused⟩
    split at refused <;> cases refused

/-- What no character of a name is does not occur in the name. -/
theorem notMem_of_isBareName {name : String} (bare : isBareName name = true) {character : Char}
    (other : isNameCharacter character = false) : character ∉ name.toList := by
  intro inside
  simp only [isBareName, Bool.and_eq_true] at bare
  have allowed := List.all_eq_true.mp bare.1.2 character inside
  rw [other] at allowed
  cases allowed

/-- A name with an ending is one part of a path. -/
theorem isPart_append {name ending : String} (bare : isBareName name = true)
    (long : 1 < ending.toList.length) (whole : '/' ∉ ending.toList) :
    FilePath.IsPart (name ++ ending) := by
  have longer : 1 < (name ++ ending).toList.length := by
    rw [String.toList_append, List.length_append]
    omega
  constructor
  · intro empty
    rw [empty] at longer
    exact absurd longer (by decide)
  · intro point
    rw [point] at longer
    exact absurd longer (by decide)
  · rw [String.toList_append]
    apply List.not_mem_append
    · exact notMem_of_isBareName bare (by decide)
    · exact whole

end Page

/-! ## Entries of a directory -/

namespace FilePath

/-- Whether a path is that of an entry of a directory: it has one name more, also when it is read
from its text. -/
structure IsEntryOf (path directory : FilePath) (name : String) : Prop where
  parent : path.parent = directory
  last : path.name = name
  read : ofText path.toText = path

theorem isEntryOf_child {directory : FilePath} (normal : directory.IsNormal) {name : String}
    (part : IsPart name) : (directory.child name).IsEntryOf directory name := by
  constructor
  · simp [FilePath.parent, FilePath.child]
  · simp [FilePath.name, FilePath.child]
  · exact ofText_toText (normal.child part)

end FilePath

namespace FileTree

/-- Whether the names of a path lead from directory to directory, and the last one to this place. -/
def LeadsTo (tree : FileTree) (path : FilePath) (here : Location) : Prop :=
  tree.walk (if path.root = "" then tree.workingDirectory else []) path.names = .ok here

theorem LeadsTo.unique {tree : FileTree} {path : FilePath} {here there : Location}
    (first : tree.LeadsTo path here) (second : tree.LeadsTo path there) : here = there :=
  Except.ok.inj (first.symm.trans second)

/-- An entry of a directory lies in the directory, unless its name leads out of it. -/
theorem location_of_child {tree : FileTree} {directory : FilePath} {name : String}
    {location : Location} (located : tree.locate (directory.child name) = .ok location)
    (inside : name ≠ "..") : ∃ here, tree.LeadsTo directory here ∧ location = here ++ [name] := by
  rcases locate_child located with ⟨here, walked, stepped⟩
  rw [step, if_neg inside] at stepped
  split at stepped
  · cases stepped
  · exact ⟨here, walked, (Except.ok.inj stepped).symm⟩

end FileTree

namespace ChartFiles

/-- Whether the files of a chart are the entries of a directory that have its name with their
endings, and lie where the directory does. -/
structure LieIn (files : ChartFiles) (directory : FilePath) (name : String) (tree : FileTree) :
    Prop where
  document : files.document.IsEntryOf directory (name ++ ".json")
  page : files.page.IsEntryOf directory (name ++ ".html")
  place : ∃ here, tree.LeadsTo directory here ∧
    tree.locate files.document = .ok (here ++ [name ++ ".json"]) ∧
    tree.locate files.page = .ok (here ++ [name ++ ".html"])

/-- The files that a write returns have been reached. -/
theorem located_of_returns {document name directory : Value} {before after : FileTree}
    {files : ChartFiles}
    (returned : FileRun.Returns (write document name directory) before files after) :
    ∃ (laid : Laid document name directory before) (first second : Location),
      files = laid.files ∧ after.locate files.document = .ok first ∧
        after.locate files.page = .ok second := by
  rcases write_returns_iff.mp returned with ⟨laid, _, _, _, _, beside, rfl⟩
  rcases FileTree.locate_of_write laid.laid with ⟨first, located⟩
  rcases FileTree.locate_of_write beside with ⟨second, reached⟩
  exact ⟨laid, first, second, rfl, (FileTree.kept_write beside).toGrown.locate_eq located, reached⟩

/-- A directory that is given is a path that is read. -/
theorem isNormal_of_directoryOf {directory : Value} {place : FilePath}
    (directed : directoryOf directory = .ok place) : place.IsNormal := by
  cases directory with
  | text text =>
      cases directed
      exact FilePath.isNormal_ofText text
  | null | bool | number | bytes | list | tuple | set | map | array => cases directed

/-- The name of a chart keeps its files in their directory. -/
theorem lieIn_of_returns {document name directory : Value} {before after : FileTree}
    {files : ChartFiles} {bareName : String} (named : Page.nameOf name = .ok bareName)
    (returned : FileRun.Returns (write document name directory) before files after) :
    ∃ place, directoryOf directory = .ok place ∧ files.LieIn place bareName after := by
  rcases located_of_returns returned with ⟨laid, first, second, rfl, located, reached⟩
  cases laid.named.symm.trans named
  have bare := Page.isBareName_of_nameOf named
  have normal := isNormal_of_directoryOf laid.directed
  rcases FileTree.location_of_child located (name_ne_parent _ (by decide)) with
    ⟨here, leads, rfl⟩
  rcases FileTree.location_of_child reached (name_ne_parent _ (by decide)) with
    ⟨there, leadsAgain, rfl⟩
  cases leads.unique leadsAgain
  exists laid.place
  apply And.intro laid.directed
  constructor
  · exact FilePath.isEntryOf_child normal (Page.isPart_append bare (by decide) (by decide))
  · exact FilePath.isEntryOf_child normal (Page.isPart_append bare (by decide) (by decide))
  · exact ⟨here, leads, located, reached⟩

end ChartFiles

end ChartCompiler
