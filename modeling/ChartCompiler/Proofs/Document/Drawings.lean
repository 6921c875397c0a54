import ChartCompiler.Chart.Assembly
import ChartCompiler.Proofs.Document.Fields
import ChartCompiler.Proofs.Document.Selection

/-!
# Drawings in a chart document

The fragment of a drawing that fits: its sources and marks find the fields that they read, before
and after the marks are made to follow the selection.
-/

namespace ChartCompiler

/-! ## Marks that follow the selection -/

theorem Mark.selectable (mark : Mark) (style : Style) :
    ∃ changed, Legend.selectableMark style (.map mark.toMembers) = .ok changed := by
  have updated : ∃ update, (mark.blocks.get? "update").getD (.map []) = .map update := by
    rw [get?_blocks, if_neg (by decide)]
    split <;> exact ⟨_, rfl⟩
  rcases updated with ⟨update, updated⟩
  have entered : (mark.blocks.get? "enter").getD (.map []) = mark.enter.toValue := by
    rw [get?_blocks, if_pos rfl]
    rfl
  have followed : ∃ after, Legend.following? style mark.toMembers = .ok after := by
    unfold Legend.following?
    rw [get?_encode]
    exact ⟨_, Legend.followingEncoding?_eq entered updated⟩
  rcases followed with ⟨after, followed⟩
  refine Legend.selectableMark_ok followed ?_
  · refine Legend.selectableNested_ok fun member inside named => ?_
    have absent := mark.get?_absent (show "marks" ∉ memberNames by decide)
    exact absurd named ((Members.get?_eq_none_iff _ _).mp absent member inside)

namespace Group

variable (group : Group)

/-- The members of a group besides its marks. -/
def frame : Members :=
  [("name", .text group.name), ("type", .text "group")]
    ++ Members.optional "from" (group.facet.map fun facet => .map [("facet", facet.toValue)])
    ++ group.encodeMember
    ++ listMember "signals" group.signalMembers
    ++ listMember "scales" (group.scales.map GroupScale.toMembers)
    ++ listMember "axes" (group.axes.map Axis.toMembers)

theorem get?_frame : group.frame.get? "marks" = none := by
  simp [frame, get?_encodeMember, Members.get?_append, Members.get?_optional,
    Members.get?_listMember, Members.get?_cons]

theorem get?_blocks {name : String} (named : name = "enter" ∨ name = "update") :
    ∃ block : Members, (group.blocks.get? name).getD (.map []) = .map block := by
  unfold blocks
  rcases named with rfl | rfl
  · cases group.enter with
    | nil => cases group.update <;> exact ⟨_, rfl⟩
    | cons head rest => exact ⟨_, rfl⟩
  · cases group.enter <;> cases group.update <;> exact ⟨_, rfl⟩

theorem selectable (style : Style) :
    ∃ changed, Legend.selectableMark style (.map group.toMembers) = .ok changed := by
  have followed : ∃ after, Legend.following? style group.toMembers = .ok after := by
    unfold Legend.following?
    rw [get?_encode]
    by_cases empty : group.blocks = []
    · rw [if_pos empty]
      exact ⟨_, rfl⟩
    · rw [if_neg empty]
      rcases group.get?_blocks (.inl rfl) with ⟨enter, entered⟩
      rcases group.get?_blocks (.inr rfl) with ⟨update, updated⟩
      exact ⟨_, Legend.followingEncoding?_eq entered updated⟩
  rcases followed with ⟨after, followed⟩
  refine Legend.selectableMark_ok followed (Legend.selectableNested_ok fun member inside named => ?_)
  rcases List.mem_append.mp inside with outer | marks
  · exact absurd named ((Members.get?_eq_none_iff _ _).mp group.get?_frame member outer)
  · rw [List.mem_singleton.mp marks]
    refine ⟨_, rfl, Legend.selectableMarks_ok fun mark listed => ?_⟩
    rcases List.mem_map.mp listed with ⟨content, _, rfl⟩
    exact content.selectable style

end Group

theorem Graphic.selectable (graphic : Graphic) (style : Style) :
    ∃ changed, Legend.selectableMark style (.map graphic.toMembers) = .ok changed := by
  cases graphic with
  | mark content => exact content.selectable style
  | group content => exact content.selectable style

/-! ## Sources -/

namespace SourceFields

variable {sources : SourceFields} {expected : List (String × Columns)} {table : Table}

theorem listed_append (first second : List DataSource) :
    sources.listed (first ++ second) = (sources.listed first).listed second :=
  List.foldl_append

theorem listHas_append {first second : List DataSource} : sources.ListHas (first ++ second) ↔
    sources.ListHas first ∧ (sources.listed first).ListHas second := by
  induction first generalizing sources with
  | nil => simp [ListHas, listed]
  | cons source rest induction =>
      simp only [List.cons_append, ListHas, induction, and_assoc]
      rfl

/-- Rows that a drawing brings along are computed from nothing. -/
theorem Cover.inline {inline : List InlineRows} {held : List Columns}
    (cover : sources.Cover expected) (holds : List.Forall₂ (InlineRows.Holds table) inline held) :
    sources.ListHas (inline.map InlineRows.toSource) ∧
      (sources.listed (inline.map InlineRows.toSource)).Cover
        (expected ++ (inline.map (·.name)).zip held) := by
  induction holds generalizing sources expected with
  | nil =>
      rw [List.map_nil, List.map_nil, List.zip_nil_right, List.append_nil]
      exact ⟨trivial, cover⟩
  | cons first others induction =>
      rename_i rows columns _ _
      have kept : ∀ field ∈ columns.fields, rows.toSource.fields sources field := by
        intro field held
        unfold DataSource.fields
        rw [InlineRows.origin?_toSource, InlineRows.rows_toSource]
        exact fun row inside => first.fields row inside field held
      rcases induction (cover.append kept) with ⟨has, whole⟩
      refine ⟨⟨nofun, has⟩, ?_⟩
      rw [List.append_assoc] at whole
      exact whole

end SourceFields

/-! ## Fragments -/

/-- The fields of the table as a data source. -/
def Table.sourceFields (table : Table) : SourceFields := [(tableSource, (· ∈ table.fields))]

/-- The fields of the data sources of a fragment over a table. -/
def Fragment.sourceFields (fragment : Fragment) (table : Table) : SourceFields :=
  table.sourceFields.listed (Assembly.sourcesOf fragment)

namespace Drawing.Fits

variable {drawing : Drawing} {table : Table} {held : List Columns} {style : Style}

theorem cover (fits : drawing.Fits table held style)
    (holds : List.Forall₂ (InlineRows.Holds table) drawing.inline held) :
    table.sourceFields.ListHas (Assembly.sourcesOf drawing.toFragment) ∧
      (drawing.toFragment.sourceFields table).Cover (drawing.sources table held) := by
  have given : table.sourceFields.Cover [(tableSource, table.columns)] :=
    .cons ⟨rfl, fun _ inside => inside⟩ .nil
  rcases given.inline holds with ⟨inline, cover⟩
  rcases cover.pipelines fits.pipelines with ⟨derived, whole⟩
  refine ⟨SourceFields.listHas_append.mpr ⟨inline, derived⟩, ?_⟩
  unfold Fragment.sourceFields Assembly.sourcesOf
  rw [SourceFields.listed_append]
  exact whole

/-- The marks of a drawing find what they read, also when they follow the selection. -/
theorem marksHave (fits : drawing.Fits table held style)
    (holds : List.Forall₂ (InlineRows.Holds table) drawing.inline held) (shown : Style) :
    (drawing.toFragment.sourceFields table).MarksHave drawing.toFragment.marks ∧
      ∃ marks count, Legend.selectableMarks shown drawing.toFragment.marks = .ok (marks, count) ∧
        (drawing.toFragment.sourceFields table).MarksHave marks := by
  have found := SourceFields.Cover.marksHave fits.graphics (fits.cover holds).2
  have selectable : ∀ mark ∈ drawing.toFragment.marks,
      ∃ changed, Legend.selectableMark shown mark = .ok changed := by
    intro mark inside
    rcases List.mem_map.mp inside with ⟨graphic, _, rfl⟩
    exact graphic.selectable shown
  rcases Legend.selectableMarks_ok selectable with ⟨⟨marks, count⟩, made⟩
  refine ⟨found, marks, count, made, found.follow ?_ made⟩
  exact fun stands => (Graphic.stands stands).color fits.graphics

theorem scalesHave (fits : drawing.Fits table held style)
    (holds : List.Forall₂ (InlineRows.Holds table) drawing.inline held) :
    ∀ scale ∈ drawing.toFragment.scales,
      (drawing.toFragment.sourceFields table).ScaleHas [] scale.toMembers ∧
        ∀ expression ∈ scale.range.expression?, datumFields expression.toText = [] := by
  intro scale declared
  have fitting := fits.scales scale declared
  exact ⟨(fits.cover holds).2.serve.scaleHas fitting rfl, fun expression computed =>
    (fitting.range.expression expression computed).reads_nothing⟩

end Drawing.Fits

end ChartCompiler
