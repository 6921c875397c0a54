import ChartCompiler.Proofs.Document.Listed
import Mathlib.Data.List.Nodup

/-!
# Data sources that descend from the table

A data source descends from the table if its rows are those of the table, perhaps with further
members, or if it is computed from such a source. What holds labels in the table holds labels there.
-/

namespace ChartCompiler

/-- Whether a data source descends from the table. -/
inductive DescendsFrom (table : Table) (sources : List DataSource) : String → Prop where
  | table : DescendsFrom table sources tableSource
  | copy {source : DataSource} (listed : source ∈ sources) (given : source.origin? = none)
      (rows : List.Forall₂ Members.Extends source.rows table.records) :
      DescendsFrom table sources source.name
  | computed {source : DataSource} {origin : String} (listed : source ∈ sources)
      (starts : source.origin? = some origin) (descends : DescendsFrom table sources origin) :
      DescendsFrom table sources source.name

/-! ## Known sources -/

section

variable {expected : List (String × Columns)} {pipelines : List Pipeline} {name : String}
  {columns : Columns}

theorem Pipeline.lookup_extend (pipeline : Pipeline) (expected : List (String × Columns))
    (name : String) :
    (pipeline.extend expected).lookup name = (expected.lookup name).or
      (if name = pipeline.name then
        some (pipeline.columnsAfter ((expected.lookup pipeline.source).getD .none)) else none) := by
  unfold Pipeline.extend
  rw [List.lookup_append, List.lookup_cons, List.lookup_nil]
  by_cases same : name = pipeline.name
  · rw [if_pos same, beq_iff_eq.mpr same]
  · rw [if_neg same, beq_false_of_ne same]

/-- Sources that are known stay known when others are computed. -/
theorem foldl_extend_lookup (found : expected.lookup name = some columns) :
    (pipelines.foldl (fun sources pipeline => pipeline.extend sources) expected).lookup name
      = some columns := by
  induction pipelines generalizing expected with
  | nil => exact found
  | cons pipeline rest induction =>
      apply induction
      rw [Pipeline.lookup_extend, found, Option.some_or]

/-- A source that is known after some pipelines was known before, or one of them computes it from a
source that is known, whose labels it has. -/
theorem pipelinesFit.lookup (fits : pipelinesFit expected pipelines)
    (found : (pipelines.foldl (fun sources pipeline => pipeline.extend sources) expected).lookup name
      = some columns) :
    expected.lookup name = some columns ∨ ∃ pipeline ∈ pipelines, pipeline.name = name ∧
      ∃ origin, (pipelines.foldl (fun sources pipeline => pipeline.extend sources) expected).lookup
        pipeline.source = some origin ∧ columns.labels = origin.labels := by
  induction pipelines generalizing expected with
  | nil => exact .inl found
  | cons pipeline rest induction =>
      rcases fits with ⟨⟨origin, start, _⟩, others⟩
      rcases induction others found with known | ⟨later, listed, named, source⟩
      · rw [Pipeline.lookup_extend, start, Option.getD_some] at known
        rcases Option.or_eq_some_iff.mp known with before | ⟨_, own⟩
        · exact .inl before
        · split at own
          · next same =>
              cases own
              refine .inr ⟨pipeline, List.mem_cons_self .., same.symm, origin, ?_, rfl⟩
              apply @foldl_extend_lookup _ rest
              rw [Pipeline.lookup_extend, start, Option.some_or]
          · cases own
      · exact .inr ⟨later, List.mem_cons_of_mem _ listed, named, source⟩

end

theorem InlineRows.lookup_zip {table : Table} {inline : List InlineRows} {held : List Columns}
    (holds : List.Forall₂ (InlineRows.Holds table) inline held) {name : String} {columns : Columns}
    (found : ((inline.map (·.name)).zip held).lookup name = some columns) :
    ∃ rows ∈ inline, rows.name = name ∧ rows.Holds table columns := by
  induction holds with
  | nil => cases found
  | cons first others induction =>
      rw [List.map_cons, List.zip_cons_cons, List.lookup_cons] at found
      split at found
      · next same =>
          cases found
          exact ⟨_, List.mem_cons_self .., (eq_of_beq same).symm, first⟩
      · rcases induction found with ⟨rows, listed, known⟩
        exact ⟨rows, List.mem_cons_of_mem _ listed, known⟩

/-! ## Labels -/

namespace Drawing.Fits

variable {drawing : Drawing} {table : Table} {held : List Columns} {style : Style}

/-- A drawing knows the table, its own rows, and what it computes. -/
theorem lookup_sources (fits : drawing.Fits table held style)
    (holds : List.Forall₂ (InlineRows.Holds table) drawing.inline held) {name : String}
    {columns : Columns} (found : (drawing.sources table held).lookup name = some columns) :
    columns = table.columns ∨
      (∃ rows ∈ drawing.inline, rows.name = name ∧ rows.Holds table columns) ∨
      ∃ pipeline ∈ drawing.pipelines, pipeline.name = name ∧
        ∃ origin, (drawing.sources table held).lookup pipeline.source = some origin ∧
          columns.labels = origin.labels := by
  rcases fits.pipelines.lookup found with given | computed
  · unfold givenSources at given
    rw [List.lookup_cons] at given
    split at given
    · exact .inl (Option.some.inj given).symm
    · exact .inr (.inl (InlineRows.lookup_zip holds given))
  · exact .inr (.inr computed)

/-- A source that descends from the table has its labels. Sources of distinct names cannot descend
in another way than the drawing knows. -/
theorem labels_of_descends (fits : drawing.Fits table held style)
    (holds : List.Forall₂ (InlineRows.Holds table) drawing.inline held)
    {sources : List DataSource} (once : (sources.map (·.name)).Nodup)
    (listed : Assembly.sourcesOf drawing.toFragment ⊆ sources) {name : String}
    (descends : DescendsFrom table sources name) :
    ∀ columns, (drawing.sources table held).lookup name = some columns →
      columns.labels = table.labelFields := by
  have inline : ∀ rows ∈ drawing.inline, rows.toSource ∈ sources := fun rows inside =>
    listed (List.mem_append_left _ (List.mem_map_of_mem inside))
  have computed : ∀ pipeline ∈ drawing.pipelines, pipeline.toSource ∈ sources :=
    fun pipeline inside => listed (List.mem_append_right _ (List.mem_map_of_mem inside))
  have same : ∀ {first second : DataSource}, first ∈ sources → second ∈ sources →
      first.name = second.name → first = second := fun left right =>
    List.inj_on_of_nodup_map once left right
  induction descends with
  | table =>
      intro columns found
      have first : (drawing.givenSources table held).lookup tableSource = some table.columns :=
        List.lookup_cons_self
      unfold Drawing.sources at found
      rw [foldl_extend_lookup first] at found
      cases found
      rfl
  | copy inside given copied =>
      intro columns found
      rcases fits.lookup_sources holds found with rfl | ⟨rows, own, named, kept⟩
        | ⟨pipeline, own, named, _⟩
      · rfl
      · have equal := same inside (inline rows own) named.symm
        rw [equal, InlineRows.rows_toSource] at copied
        exact kept.labels copied
      · have equal := same inside (computed pipeline own) named.symm
        rw [equal, Pipeline.origin?_toSource] at given
        cases given
  | computed inside starts _ induction =>
      intro columns found
      rcases fits.lookup_sources holds found with rfl | ⟨rows, own, named, _⟩
        | ⟨pipeline, own, named, origin, known, kept⟩
      · rfl
      · have equal := same inside (inline rows own) named.symm
        rw [equal, InlineRows.origin?_toSource] at starts
        cases starts
      · have equal := same inside (computed pipeline own) named.symm
        rw [equal, Pipeline.origin?_toSource] at starts
        cases starts
        rw [kept, induction origin known]

end Drawing.Fits

end ChartCompiler
