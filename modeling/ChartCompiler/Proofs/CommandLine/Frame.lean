import ChartCompiler.CommandLine.Execution
import ChartCompiler.Proofs.Files.Frame

/-!
# What the command leaves alone

The command writes the two files of a chart and no others. What it reads is safe as long as it does
not lie where one of these files goes.
-/

namespace ChartCompiler

open FileRun

namespace ChartFiles

/-- The paths of the files of a chart, if its name and its directory can be used. -/
def pathsOf (name directory : Value) : List FilePath :=
  match Page.nameOf name, directoryOf directory with
  | .ok name, .ok directory =>
      [(inDirectory directory name).document, (inDirectory directory name).page]
  | _, _ => []

theorem write_writes (document name directory : Value) :
    FileRun.Writes (write document name directory) (pathsOf name directory) := by
  unfold write
  refine .perform_bind _ fun bareName named => ?_
  refine .perform_bind _ fun place directed => ?_
  have paths : pathsOf name directory =
      [(inDirectory place bareName).document, (inDirectory place bareName).page] := by
    unfold pathsOf
    rw [show Page.nameOf name = .ok bareName from named,
      show directoryOf directory = .ok place from directed]
  rw [paths]
  refine .bind (writes_makeDirectories _) fun _ => ?_
  refine .perform_bind _ fun members _ => ?_
  refine .perform_bind _ fun _ _ => ?_
  refine .perform_bind _ fun text _ => ?_
  refine .bind (writes_writeFile List.mem_cons_self _) fun _ => ?_
  refine .perform_bind _ fun _ _ => ?_
  refine .perform_bind _ fun title _ => ?_
  refine .bind (writes_writeFile (List.mem_cons_of_mem _ List.mem_cons_self) _) fun _ => ?_
  exact writes_pure _

end ChartFiles

namespace CommandLine

theorem readValue_writes (path : FilePath) (paths : List FilePath) :
    FileRun.Writes (readValue path) paths := by
  unfold readValue
  refine .bind (writes_readFile path) fun content => ?_
  split
  · exact writes_perform _
  · exact writes_perform _

theorem exitWith_writes (message : String) (paths : List FilePath) :
    FileRun.Writes (exitWith message) paths :=
  .bind (writes_perform _) fun _ => writes_pure _

namespace Arguments

/-- The paths that a command with some arguments may write to. -/
def outputs (arguments : Arguments) : List FilePath :=
  ChartFiles.pathsOf arguments.chartName arguments.settings.exportPath

theorem publish_writes (arguments : Arguments) (descriptor : PlotDescriptor) :
    FileRun.Writes (arguments.publish descriptor) arguments.outputs := by
  unfold publish
  refine .bind (writes_perform _) fun compilation => ?_
  refine .bind (writes_perform _) fun _ => ?_
  refine .bind (ChartFiles.write_writes _ _ _).attempt fun outcome => ?_
  split
  · exact writes_pure _
  · split
    · exact exitWith_writes _ _
    · exact writes_perform _

theorem execute_writes (arguments : Arguments) :
    FileRun.Writes arguments.execute arguments.outputs := by
  unfold execute
  refine .bind (writes_perform _) fun _ => ?_
  refine .bind (readValue_writes _ _) fun value => ?_
  split
  · exact arguments.publish_writes _
  · exact exitWith_writes _ _
  · exact writes_perform _

end Arguments

/-- The paths that a command, given as its words, may write to. -/
def outputsOf (words : List String) : List FilePath :=
  match Arguments.ofWords words with
  | .ok arguments => arguments.outputs
  | .error _ => []

theorem run_wrote (words : List String) (tree : FileTree) :
    FileTree.Wrote (outputsOf words) tree (run words tree).files := by
  unfold run outputsOf
  cases Arguments.ofWords words with
  | error refusal => cases refusal <;> exact .refl _ _
  | ok arguments =>
      have executed := arguments.execute_writes tree
      dsimp only
      split
      · exact .refl _ _
      · revert executed
        generalize (arguments.execute : FileRun Ending) tree = ended
        exact id

/-- However a command ends, all directories are left and all files but the two of the chart. So is
the descriptor, unless one of the two goes where it lies. -/
theorem run_keeps_files (words : List String) (tree : FileTree) :
    FileTree.Wrote (outputsOf words) tree (run words tree).files ∧
      ∀ arguments content, Arguments.ofWords words = .ok arguments →
        tree.read (.ofText arguments.path) = .ok content →
          (run words tree).files.read (.ofText arguments.path) = .ok content ∨
            ∃ output ∈ arguments.outputs, (run words tree).files.locate output =
              (run words tree).files.locate (.ofText arguments.path) := by
  have wrote := run_wrote words tree
  refine ⟨wrote, fun arguments content given found => ?_⟩
  have outputs : outputsOf words = arguments.outputs := by
    unfold outputsOf
    rw [given]
  exact outputs ▸ wrote.read_eq found

end CommandLine

end ChartCompiler
