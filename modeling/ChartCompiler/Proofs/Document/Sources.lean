import ChartCompiler.Proofs.Document.Rendered
import ChartCompiler.Proofs.Drawing.Fitting

/-!
# Data sources of rendered drawings

A rendered step reads the fields that the step reads, and leaves the fields that it leaves. So the
sources of a rendered drawing have the fields that the drawing expects of them, and each step of a
computed source finds the fields that it reads.
-/

namespace ChartCompiler

/-! ## Texts of members -/

namespace Members

@[simp] theorem texts_nil (name : String) : Members.texts [] name = [] := rfl

@[simp] theorem text?_nil (name : String) : Members.text? [] name = none := rfl

@[simp] theorem map?_nil (name : String) : Members.map? [] name = none := rfl

theorem texts_cons (head : String) (value : Value) (rest : Members) (name : String) :
    Members.texts ((head, value) :: rest) name =
      if name = head then value.texts else Members.texts rest name := by
  unfold Members.texts
  rw [get?_cons]
  split <;> rfl

theorem text?_cons (head : String) (value : Value) (rest : Members) (name : String) :
    Members.text? ((head, value) :: rest) name =
      if name = head then value.text? else Members.text? rest name := by
  unfold Members.text?
  rw [get?_cons]
  split <;> rfl

theorem map?_cons (head : String) (value : Value) (rest : Members) (name : String) :
    Members.map? ((head, value) :: rest) name =
      if name = head then value.map? else Members.map? rest name := by
  unfold Members.map?
  rw [get?_cons]
  split <;> rfl

end Members

@[simp] theorem Value.texts_text (content : String) : (Value.text content).texts = [content] := rfl

namespace Transform

open Members (texts_cons text?_cons map?_cons)

@[simp] theorem texts_textList (items : List String) : (textList items).texts = items :=
  Facet.texts_list items

theorem texts_groupbyMember (groupby : List String) (name : String) :
    Members.texts (groupbyMember groupby) name = if name = "groupby" then groupby else [] := by
  cases groupby with
  | nil => simp [groupbyMember]
  | cons head rest => simp [groupbyMember, texts_cons]

theorem map?_groupbyMember (groupby : List String) (name : String) :
    Members.map? (groupbyMember groupby) name = none := by
  cases groupby with
  | nil => rfl
  | cons head rest =>
      rw [groupbyMember, if_neg (by simp), map?_cons]
      split <;> rfl

theorem text?_groupbyMember (groupby : List String) {name : String} (other : name ≠ "groupby") :
    Members.text? (groupbyMember groupby) name = none := by
  cases groupby with
  | nil => rfl
  | cons head rest => simp [groupbyMember, text?_cons, other]

/-- Only lookups look into other sources. -/
theorem text?_from {step : Transform} {source : String}
    (looks : step.toMembers.text? "from" = some source) :
    ∃ key taken, step = .lookup source key taken := by
  cases step with
  | lookup name key taken =>
      cases looks
      exact ⟨key, taken, rfl⟩
  | joinAggregate _ groupby | rank _ _ groupby | loess _ _ _ groupby | density _ _ _ _ groupby =>
      simp [toMembers, summaryMembers, densityMembers, text?_groupbyMember, text?_cons] at looks
  | regression method groupby =>
      cases method <;> simp [toMembers, orderMembers, text?_groupbyMember, text?_cons] at looks
  | _ => cases looks

/-- The fields that are summarized; rows are counted without a field. -/
theorem texts_summaries (summaries : List Summary) :
    (Value.list (summaries.map fun summary => (summary.field.map .text).getD .null)).texts
      = summaries.filterMap (·.field) := by
  change (summaries.map _).filterMap Value.text? = _
  rw [List.filterMap_map]
  refine List.filterMap_congr fun summary _ => ?_
  cases field : summary.field <;> simp [field, Value.text?]

variable {fields : List String} {sources : List (String × Columns)}

/-! ## Fields that are read -/

theorem summaries_subset {summaries : List Summary}
    (held : ∀ summary ∈ summaries, ∀ field ∈ summary.field, field ∈ fields) :
    summaries.filterMap (·.field) ⊆ fields := by
  intro field inside
  rcases List.mem_filterMap.mp inside with ⟨summary, listed, read⟩
  exact held summary listed field read

/-- A step that fits finds the fields that it reads. -/
theorem stepFields_subset (step : Transform) (fits : step.Fits fields sources) :
    step.toMembers.stepFields ⊆ fields := by
  cases step with
  | formula expression name =>
      have reads : datumFields expression.toText ⊆ fields := Expr.Fits.datumFields fits
      simpa [Members.stepFields, toMembers, texts_cons, map?_cons] using reads
  | filter condition =>
      have reads : datumFields condition.toText ⊆ fields := Expr.Fits.datumFields fits
      simpa [Members.stepFields, toMembers, texts_cons, map?_cons] using reads
  | bin field bins names =>
      have held : field ∈ fields := fits
      simpa [Members.stepFields, toMembers, binMembers, texts_cons, map?_cons] using held
  | aggregate groupby summaries =>
      simp [Members.stepFields, toMembers, summaryMembers, texts_cons, map?_cons, texts_summaries,
        fits.1, summaries_subset fits.2]
  | joinAggregate summaries groupby =>
      simp [Members.stepFields, toMembers, summaryMembers, texts_cons, map?_cons, texts_summaries,
        texts_groupbyMember, map?_groupbyMember, fits.1, summaries_subset fits.2]
  | rank order name groupby =>
      simp [Members.stepFields, toMembers, texts_cons, map?_cons, texts_groupbyMember,
        Value.map?, fits.1, fits.2]
  | stack groupby field order low high =>
      simp [Members.stepFields, toMembers, texts_cons, map?_cons, Value.map?, fits.1, fits.2.1,
        fits.2.2]
  | regression method groupby =>
      cases method <;>
        simp [Members.stepFields, toMembers, orderMembers, texts_cons, map?_cons,
          texts_groupbyMember, map?_groupbyMember, fits.1, fits.2.1, fits.2.2]
  | loess bandwidth x y groupby =>
      simp [Members.stepFields, toMembers, texts_cons, map?_cons, texts_groupbyMember,
        map?_groupbyMember, fits.1, fits.2.1, fits.2.2]
  | density field bandwidth steps extent groupby =>
      simp [Members.stepFields, toMembers, densityMembers, texts_cons, map?_cons,
        texts_groupbyMember, map?_groupbyMember, fits.1, fits.2]
  | groupDensity groupby field bandwidth steps extent =>
      simp [Members.stepFields, toMembers, densityMembers, texts_cons, map?_cons, fits.1, fits.2]
  | lookup source key taken =>
      simp [Members.stepFields, toMembers, texts_cons, map?_cons, fits.1]
  | flatten field name =>
      have held : field ∈ fields := fits
      simpa [Members.stepFields, toMembers, texts_cons, map?_cons] using held

/-- A step leaves the fields that it leaves in the drawing. -/
theorem fieldsAfter_toMembers (step : Transform) {rows : String → Prop}
    (held : ∀ field ∈ fields, rows field) :
    ∀ field ∈ step.fieldsAfter fields, step.toMembers.fieldsAfter rows field := by
  intro field inside
  cases step with
  | formula expression name | flatten source name | bin source bins names =>
      simp only [Transform.fieldsAfter, List.mem_append, List.mem_singleton] at inside
      simpa [Members.fieldsAfter, toMembers, binMembers, text?_cons, texts_cons, Value.text?]
        using inside.imp_left (held field)
  | filter condition =>
      simpa [Members.fieldsAfter, toMembers, text?_cons, texts_cons, Value.text?]
        using held field inside
  | aggregate groupby summaries =>
      simp only [Transform.fieldsAfter, List.mem_append] at inside
      simpa [Members.fieldsAfter, toMembers, summaryMembers, text?_cons, texts_cons, Value.text?]
        using inside.symm
  | joinAggregate summaries groupby =>
      simp only [Transform.fieldsAfter, List.mem_append] at inside
      simpa [Members.fieldsAfter, toMembers, summaryMembers, text?_cons, texts_cons, Value.text?]
        using inside.imp_left (held field)
  | rank order name groupby =>
      simp only [Transform.fieldsAfter, List.mem_append, List.mem_singleton] at inside
      simpa [Members.fieldsAfter, toMembers, text?_cons, texts_cons, Value.text?]
        using inside.imp_left (held field)
  | stack groupby source order low high =>
      simp only [Transform.fieldsAfter, List.mem_append] at inside
      simpa [Members.fieldsAfter, toMembers, text?_cons, texts_cons, Value.text?]
        using inside.imp_left (held field)
  | regression method groupby =>
      simp only [Transform.fieldsAfter, List.mem_append, List.mem_cons, List.not_mem_nil, or_false,
        or_assoc] at inside
      cases method <;>
        simpa [Members.fieldsAfter, toMembers, orderMembers, text?_cons, texts_cons, Value.text?,
          texts_groupbyMember] using inside
  | loess bandwidth x y groupby =>
      simp only [Transform.fieldsAfter, List.mem_append] at inside
      simpa [Members.fieldsAfter, toMembers, text?_cons, texts_cons, Value.text?,
        texts_groupbyMember] using inside
  | density source bandwidth steps extent groupby =>
      simp only [Transform.fieldsAfter, List.mem_append] at inside
      simpa [Members.fieldsAfter, toMembers, densityMembers, text?_cons, texts_cons, Value.text?,
        texts_groupbyMember] using inside
  | groupDensity groupby source bandwidth steps extent =>
      simp only [Transform.fieldsAfter, List.mem_append] at inside
      simpa [Members.fieldsAfter, toMembers, densityMembers, text?_cons, texts_cons, Value.text?]
        using inside
  | lookup source key taken =>
      simp only [Transform.fieldsAfter, List.mem_append] at inside
      simpa [Members.fieldsAfter, toMembers, text?_cons, texts_cons, Value.text?]
        using inside.imp_left (held field)

end Transform

/-! ## Rendered sources -/

namespace Pipeline

variable (pipeline : Pipeline)

@[simp] theorem name_toSource : pipeline.toSource.name = pipeline.name := rfl

@[simp] theorem origin?_toSource : pipeline.toSource.origin? = some pipeline.source := rfl

@[simp] theorem steps_toSource :
    pipeline.toSource.steps = pipeline.steps.map Transform.toMembers :=
  Group.filterMap_maps _

end Pipeline

namespace InlineRows

variable (inline : InlineRows)

@[simp] theorem name_toSource : inline.toSource.name = inline.name := rfl

@[simp] theorem origin?_toSource : inline.toSource.origin? = none := rfl

@[simp] theorem rows_toSource : inline.toSource.rows = inline.rows := Group.filterMap_maps _

end InlineRows

/-! ## Expected fields -/

namespace SourceFields

/-- Whether sources have the fields that are expected of them. -/
def Cover (sources : SourceFields) (expected : List (String × Columns)) : Prop :=
  List.Forall₂ (fun source columns => source.1 = columns.1 ∧
    ∀ field ∈ columns.2.fields, source.2 field) sources expected

variable {sources : SourceFields} {expected : List (String × Columns)}

theorem Cover.lookup (cover : sources.Cover expected) {name : String} {columns : Columns}
    (found : expected.lookup name = some columns) :
    ∃ fields, sources.lookup name = some fields ∧ ∀ field ∈ columns.fields, fields field := by
  induction cover with
  | nil => cases found
  | cons first others induction =>
      rename_i source other _ _
      rw [List.lookup_cons] at found ⊢
      rw [first.1]
      cases same : name == other.1 with
      | true =>
          rw [same] at found
          cases found
          exact ⟨source.2, rfl, first.2⟩
      | false =>
          rw [same] at found
          exact induction found

theorem Cover.has (cover : sources.Cover expected) {name : String} {columns : Columns}
    (found : expected.lookup name = some columns) :
    ∀ field ∈ columns.fields, sources.Has [] name field := by
  intro field held
  rcases cover.lookup found with ⟨fields, listed, all⟩
  exact ⟨name, fields, rfl, listed, all field held⟩

theorem Cover.append (cover : sources.Cover expected) {name : String} {fields : String → Prop}
    {columns : Columns} (held : ∀ field ∈ columns.fields, fields field) :
    SourceFields.Cover (sources ++ [(name, fields)]) (expected ++ [(name, columns)]) :=
  List.rel_append cover (.cons ⟨rfl, held⟩ .nil)

/-! ## Computed sources -/

theorem fold_fieldsAfter (steps : List Transform) {fields : List String} {rows : String → Prop}
    (held : ∀ field ∈ fields, rows field) :
    ∀ field ∈ steps.foldl (fun fields step => step.fieldsAfter fields) fields,
      (steps.map Transform.toMembers).foldl (fun fields step => step.fieldsAfter fields) rows
        field := by
  induction steps generalizing fields rows with
  | nil => exact held
  | cons step rest induction => exact induction (step.fieldsAfter_toMembers held)

/-- A lookup finds its fields in the source that it looks into. -/
theorem lookup_has (cover : sources.Cover expected) {fields : List String} {step : Transform}
    (fits : step.Fits fields expected) :
    ∀ source, step.toMembers.text? "from" = some source →
      ∀ field ∈ step.toMembers.texts "key" ++ step.toMembers.texts "values",
        sources.Has [] source field := by
  intro source looks field read
  rcases Transform.text?_from looks with ⟨key, taken, rfl⟩
  rcases fits.2 with ⟨other, found, keyed, present⟩
  simp only [Transform.toMembers, Members.texts_cons, Transform.texts_textList, Value.texts_text,
    reduceIte, String.reduceEq, List.singleton_append, List.mem_cons] at read
  rcases read with rfl | read
  · exact cover.has found field keyed
  · exact cover.has found field (present read)

theorem stepsHave (cover : sources.Cover expected) :
    ∀ {steps : List Transform} {fields : List String} {rows : String → Prop},
      stepsFit expected fields steps → (∀ field ∈ fields, rows field) →
      sources.StepsHave rows (steps.map Transform.toMembers)
  | [], _, _, _, _ => trivial
  | step :: _, _, _, fits, held =>
      ⟨fun field read => held field (step.stepFields_subset fits.1 read), lookup_has cover fits.1,
        stepsHave cover fits.2 (step.fieldsAfter_toMembers held)⟩

theorem Cover.extend (cover : sources.Cover expected) {pipeline : Pipeline}
    (fits : pipeline.Fits expected) :
    SourceFields.Cover (sources.listed [pipeline.toSource]) (pipeline.extend expected) := by
  rcases fits with ⟨columns, found, _⟩
  refine cover.append fun field held => ?_
  rw [found] at held
  unfold DataSource.fields
  rw [Pipeline.origin?_toSource, Pipeline.steps_toSource]
  exact fold_fieldsAfter pipeline.steps (cover.has found) field held

theorem Cover.pipelines : ∀ {pipelines : List Pipeline} {sources : SourceFields}
    {expected : List (String × Columns)}, sources.Cover expected → pipelinesFit expected pipelines →
    sources.ListHas (pipelines.map Pipeline.toSource) ∧
      (sources.listed (pipelines.map Pipeline.toSource)).Cover
        (pipelines.foldl (fun sources pipeline => pipeline.extend sources) expected)
  | [], _, _, cover, _ => ⟨trivial, cover⟩
  | pipeline :: rest, sources, expected, cover, fits => by
      rcases Cover.pipelines (cover.extend fits.1) fits.2 with ⟨others, whole⟩
      rcases fits.1 with ⟨columns, found, steps⟩
      refine ⟨⟨fun origin starts => ?_, others⟩, whole⟩
      cases starts
      rw [Pipeline.steps_toSource]
      exact stepsHave cover steps (cover.has found)

end SourceFields

end ChartCompiler
