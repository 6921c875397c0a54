import ChartCompiler.Files.Host
import ChartCompiler.Proofs.Log.Outcome

/-!
# What writing leaves alone

Directories stay where they are, so that a path which leads to a location leads there ever after.
Writing to some paths changes no file but those that the paths lead to, whether it succeeds or
fails on the way, and it makes no other files.
-/

namespace ChartCompiler

namespace FileTree

/-- Whether a tree has grown out of another one: directories are where they were. -/
structure Grown (before after : FileTree) : Prop where
  workingDirectory : after.workingDirectory = before.workingDirectory
  directories : ∀ location, before.entryAt? location = some .directory →
    after.entryAt? location = some .directory

/-- What may become of a tree by writing to some paths: it grows, and of the files only those change
that one of the paths leads to. -/
structure Wrote (paths : List FilePath) (before after : FileTree) : Prop
    extends Grown before after where
  files : ∀ location content, before.entryAt? location = some (.file content) →
    after.entryAt? location = some (.file content) ∨
      ∃ path ∈ paths, after.locate path = .ok location

/-- What may become of a tree by laying files at some paths: it grows, and everywhere else the files
are the same as before, with none missing and none new. -/
structure Kept (paths : List FilePath) (before after : FileTree) : Prop
    extends Grown before after where
  files : ∀ location, (∀ path ∈ paths, after.locate path ≠ .ok location) → ∀ content,
    after.entryAt? location = some (.file content) ↔ before.entryAt? location = some (.file content)

/-! ## Paths through grown trees -/

end FileTree

/-- Whether the text of a path is one that can be followed. -/
structure FilePath.Followable (path : FilePath) : Prop where
  halves : Text.firstHalves? FileTree.isByteName 0 (Text.units path.toText) = none
  noNull : path.toText.toList.contains '\x00' = false
  short : ¬ FileTree.pathLimit < Text.byteLength path.toText

namespace FileTree

/-- A path leads to the location that its names lead to. -/
theorem locate_eq_ok_iff {tree : FileTree} {path : FilePath} {location : Location} :
    tree.locate path = .ok location ↔ path.Followable ∧ ∃ directory,
      tree.walk (if path.root = "" then tree.workingDirectory else []) path.names.dropLast =
        .ok directory ∧
      (match path.names.getLast? with
        | none => Except.ok directory
        | some name => step directory name) = .ok location := by
  unfold locate
  dsimp only
  constructor
  · intro located
    split at located
    · cases located
    · next halves =>
        split at located
        · cases located
        · next noNull =>
            split at located
            · cases located
            · next short =>
                exact ⟨⟨Option.eq_none_iff_forall_ne_some.mpr halves,
                  Bool.eq_false_iff.mpr noNull, short⟩, (bind_eq_ok_iff _ _ _).mp located⟩
  · rintro ⟨followable, directory, walked, last⟩
    rw [followable.halves, followable.noNull]
    dsimp only
    rw [if_neg Bool.false_ne_true, if_neg followable.short]
    exact (bind_eq_ok_iff _ _ _).mpr ⟨directory, walked, last⟩

section

variable {paths : List FilePath} {before after : FileTree}

theorem Grown.walk_eq (grown : Grown before after) {names : List String}
    {here location : Location} (reached : before.walk here names = .ok location) :
    after.walk here names = .ok location := by
  induction names generalizing here with
  | nil => exact reached
  | cons name rest induction =>
      unfold walk at reached ⊢
      rcases (bind_eq_ok_iff _ _ _).mp reached with ⟨next, stepped, reached⟩
      refine (bind_eq_ok_iff _ _ _).mpr ⟨next, stepped, ?_⟩
      split at reached
      · cases reached
      · cases reached
      · next directory =>
          rw [grown.directories next directory]
          exact induction reached

/-- A path that leads to a location leads there afterwards. -/
theorem Grown.locate_eq (grown : Grown before after) {path : FilePath} {location : Location}
    (located : before.locate path = .ok location) : after.locate path = .ok location := by
  rcases locate_eq_ok_iff.mp located with ⟨followable, directory, walked, last⟩
  refine locate_eq_ok_iff.mpr ⟨followable, directory, ?_, last⟩
  rw [grown.workingDirectory]
  exact grown.walk_eq walked

/-! ## Composition -/

theorem Wrote.refl (paths : List FilePath) (tree : FileTree) : Wrote paths tree tree :=
  ⟨⟨rfl, fun _ there => there⟩, fun _ _ there => .inl there⟩

theorem Wrote.trans {middle : FileTree} (first : Wrote paths before middle)
    (second : Wrote paths middle after) : Wrote paths before after := by
  refine ⟨⟨second.workingDirectory.trans first.workingDirectory,
    fun location there => second.directories location (first.directories location there)⟩, ?_⟩
  intro location content there
  rcases first.files location content there with kept | ⟨path, listed, located⟩
  · exact second.files location content kept
  · exact .inr ⟨path, listed, second.locate_eq located⟩

theorem Wrote.mono {more : List FilePath} (wrote : Wrote paths before after)
    (within : ∀ path ∈ paths, path ∈ more) : Wrote more before after := by
  refine ⟨wrote.toGrown, fun location content there => ?_⟩
  rcases wrote.files location content there with kept | ⟨path, listed, located⟩
  · exact .inl kept
  · exact .inr ⟨path, within path listed, located⟩

/-- A file that is read has the same content afterwards, unless one of the paths leads to it. -/
theorem Wrote.read_eq (wrote : Wrote paths before after) {path : FilePath} {content : List UInt8}
    (found : before.read path = .ok content) :
    after.read path = .ok content ∨ ∃ other ∈ paths, after.locate other = after.locate path := by
  unfold read at found
  rcases (bind_eq_ok_iff _ _ _).mp found with ⟨location, located, found⟩
  have again := wrote.locate_eq located
  split at found
  · cases found
  · cases found
  · next there =>
      cases found
      rcases wrote.files location content there with kept | ⟨other, listed, reached⟩
      · refine .inl ((bind_eq_ok_iff _ _ _).mpr ⟨location, again, ?_⟩)
        rw [kept]
        rfl
      · exact .inr ⟨other, listed, reached.trans again.symm⟩

theorem Kept.refl (paths : List FilePath) (tree : FileTree) : Kept paths tree tree :=
  ⟨⟨rfl, fun _ there => there⟩, fun _ _ _ => Iff.rfl⟩

theorem Kept.trans {middle : FileTree} (first : Kept paths before middle)
    (second : Kept paths middle after) : Kept paths before after := by
  refine ⟨⟨second.workingDirectory.trans first.workingDirectory,
    fun location there => second.directories location (first.directories location there)⟩, ?_⟩
  intro location apart content
  have earlier : ∀ path ∈ paths, middle.locate path ≠ .ok location :=
    fun path listed located => apart path listed (second.locate_eq located)
  exact (second.files location apart content).trans (first.files location earlier content)

theorem Kept.mono {more : List FilePath} (kept : Kept paths before after)
    (within : ∀ path ∈ paths, path ∈ more) : Kept more before after :=
  ⟨kept.toGrown, fun location apart => kept.files location fun path listed =>
    apart path (within path listed)⟩

theorem Kept.wrote (kept : Kept paths before after) : Wrote paths before after := by
  refine ⟨kept.toGrown, fun location content there => ?_⟩
  by_cases reached : ∃ path ∈ paths, after.locate path = .ok location
  · exact .inr reached
  · have apart : ∀ path ∈ paths, after.locate path ≠ .ok location :=
      fun path listed located => reached ⟨path, listed, located⟩
    exact .inl ((kept.files location apart content).mpr there)

/-! ## Single operations -/

/-- An entry that is laid where no directory is. -/
theorem grown_put {location : Location} {entry : Entry}
    (vacant : before.entryAt? location ≠ some .directory) :
    Grown before (before.put location entry) := by
  refine ⟨rfl, fun other there => ?_⟩
  have different : other ≠ location := fun same => vacant (same ▸ there)
  rw [entryAt?_put_of_ne _ _ different, there]

theorem kept_write {path : FilePath} {content : List UInt8}
    (written : before.write path content = .ok after) : Kept [path] before after := by
  unfold write at written
  rcases (bind_eq_ok_iff _ _ _).mp written with ⟨location, located, written⟩
  split at written
  · cases written
  · next vacant =>
      cases written
      have grown : Grown before (before.put location (.file content)) := grown_put vacant
      refine ⟨grown, fun other apart _ => ?_⟩
      have different : other ≠ location := by
        rintro rfl
        exact apart path (List.mem_singleton_self _) (grown.locate_eq located)
      rw [entryAt?_put_of_ne _ _ different]

theorem kept_makeOneDirectory {path : FilePath}
    (made : before.makeOneDirectory path = .ok after) : Kept [] before after := by
  unfold makeOneDirectory at made
  rcases (bind_eq_ok_iff _ _ _).mp made with ⟨location, _, made⟩
  split at made
  · cases made
  · next vacant =>
      cases made
      refine ⟨grown_put (vacant ▸ nofun), fun other _ content => ?_⟩
      by_cases same : other = location
      · -- a directory now, nothing before
        subst same
        have nonempty : other ≠ [] := by
          rintro rfl
          cases vacant
        rw [entryAt?_put_self _ _ _ nonempty, vacant]
        exact ⟨nofun, nofun⟩
      · rw [entryAt?_put_of_ne _ _ same]

theorem kept_ensureDirectory (tree : FileTree) (path : FilePath) :
    Kept [] tree (tree.ensureDirectory path).2 := by
  unfold ensureDirectory
  split
  · next made => exact kept_makeOneDirectory made
  · exact .refl _ _

/-- The directories that are made on the way to one are laid where nothing was. -/
theorem kept_makeDirectories (tree : FileTree) (path : FilePath) :
    Kept [] tree (tree.makeDirectories path).2 := by
  have here := kept_ensureDirectory tree
  fun_induction makeDirectories tree path with
  | case1 path unchanged missing empty =>
      have unchanged_kept := here path
      rw [missing] at unchanged_kept
      exact unchanged_kept
  | case2 path unchanged missing nonempty failure reached stopped inner =>
      rw [stopped] at inner
      exact inner
  | case3 path unchanged missing nonempty reached made inner =>
      rw [made] at inner
      exact inner.trans (kept_ensureDirectory reached path)
  | case4 path settled => exact here path

end

end FileTree

namespace FileRun

/-! ## Computations over files -/

/-- Whether a computation, however it ends, writes to some paths only. -/
def Writes (step : FileRun α) (paths : List FilePath) : Prop :=
  ∀ tree, FileTree.Wrote paths tree (step tree).2

section

variable {paths : List FilePath} {step : FileRun α} {next : α → FileRun β}

theorem Writes.bind (first : step.Writes paths) (following : ∀ value, (next value).Writes paths) :
    FileRun.Writes (step >>= next) paths := by
  intro tree
  change FileTree.Wrote paths tree (FileRun.bind step next tree).2
  unfold FileRun.bind
  dsimp only
  split
  · exact first tree
  · exact (first tree).trans (following _ _)

/-- Computations that follow on a result of a step that touches no files. -/
theorem Writes.perform_bind (run : Run α)
    (following : ∀ value, run.Returns value → (next value).Writes paths) :
    FileRun.Writes (Host.perform run >>= next) paths := by
  intro tree
  change FileTree.Wrote paths tree (FileRun.bind (Host.perform run) next tree).2
  unfold FileRun.bind
  dsimp only
  split
  · exact .refl _ _
  · next returned => exact following _ returned _

theorem Writes.attempt (writes : step.Writes paths) :
    FileRun.Writes (Host.attempt step) paths := writes

theorem writes_perform (run : Run α) : FileRun.Writes (Host.perform run) paths :=
  fun _ => .refl _ _

theorem writes_pure (value : α) : FileRun.Writes (Pure.pure value) paths := fun _ => .refl _ _

theorem writes_readFile (path : FilePath) : FileRun.Writes (Host.readFile path) paths :=
  fun _ => .refl _ _

theorem writes_makeDirectories (path : FilePath) :
    FileRun.Writes (Host.makeDirectories path) paths :=
  fun tree => (tree.kept_makeDirectories path).wrote.mono nofun

/-- A text that cannot be written leaves an empty file. -/
theorem writes_writeFile {path : FilePath} (listed : path ∈ paths) (content : String) :
    FileRun.Writes (Host.writeFile path content) paths := by
  intro tree
  change FileTree.Wrote paths tree (FileRun.writeFile path content tree).2
  unfold FileRun.writeFile
  have within : ∀ other ∈ [path], other ∈ paths := List.forall_mem_singleton.mpr listed
  dsimp only
  split
  · next written => exact (FileTree.kept_write written).wrote.mono within
  · exact .refl _ _

end

end FileRun

end ChartCompiler
