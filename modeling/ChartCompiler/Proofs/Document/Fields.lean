import ChartCompiler.Proofs.Document.Sources

/-!
# Fields of rendered drawings

The marks and scales of a rendered drawing that fits find the fields that they read.
-/

namespace ChartCompiler

/-! ## Places of marks -/

/-- Where a mark of a rendered drawing stands. -/
inductive Graphic.Stands (graphics : List Graphic) : List Members → Members → Prop where
  | mark (mark : Mark) (drawn : .mark mark ∈ graphics) : Stands graphics [] mark.toMembers
  | group (group : Group) (drawn : .group group ∈ graphics) : Stands graphics [] group.toMembers
  | nested (group : Group) (mark : Mark) (drawn : .group group ∈ graphics)
      (inside : mark ∈ group.marks) : Stands graphics [group.toMembers] mark.toMembers

theorem Mark.maps_marks (mark : Mark) : mark.toMembers.maps "marks" = [] :=
  mark.maps_absent (by simp [memberNames])

theorem Mark.innerFormulas_toMembers (mark : Mark) :
    mark.toMembers.signalFormulas
      ++ (mark.toMembers.maps "scales").flatMap Members.rangeFormulas = [] := by
  rw [Members.signalFormulas, mark.maps_absent (by simp [memberNames]),
    mark.maps_absent (by simp [memberNames])]
  rfl

theorem Graphic.stands {graphics : List Graphic} {around : List Members} {mark : Members}
    (stands : ChartCompiler.Stands (graphics.map fun graphic => .map graphic.toMembers) around
      mark) : Stands graphics around mark := by
  induction stands with
  | top listed =>
      rcases List.mem_map.mp listed with ⟨graphic, drawn, equal⟩
      cases equal
      cases graphic with
      | mark content => exact .mark content drawn
      | group content => exact .group content drawn
  | nested outer inside induction =>
      cases induction with
      | mark content drawn | nested group content drawn listed =>
          rw [Mark.maps_marks] at inside
          cases inside
      | group group drawn =>
          rw [Group.maps_marks] at inside
          rcases List.mem_map.mp inside with ⟨content, listed, rfl⟩
          exact .nested group content drawn listed

/-! ## Encodings -/

section

variable {environment : Environment} {columns : Columns}

/-- The maps that set some channels place fields of the rows. -/
theorem fields_subset {encodings : List Encoding}
    (fits : ∀ encoding ∈ encodings, encoding.Fits environment columns) :
    (encodings.map Encoding.rule).filterMap (·.text? "field") ⊆ columns.fields := by
  intro field inside
  rw [List.filterMap_map] at inside
  rcases List.mem_filterMap.mp inside with ⟨encoding, listed, named⟩
  have fitting := fits encoding listed
  change encoding.rule.text? "field" = some field at named
  rw [Encoding.text?_field] at named
  cases encoding with
  | constant _ | signal _ | place _ _ | bandShare _ _ => cases named
  | field _ _ | inBand _ _ _ =>
      cases named
      exact fitting.1.held

theorem formulas_subset {expressions : List Expr}
    (fits : ∀ expression ∈ expressions, expression.Fits environment columns) :
    (expressions.map Expr.toText).flatMap datumFields ⊆ columns.fields := by
  intro field inside
  rcases List.mem_flatMap.mp inside with ⟨_, listed, read⟩
  rcases List.mem_map.mp listed with ⟨expression, computed, rfl⟩
  exact (fits expression computed).datumFields read

theorem expressions_fit {encodings : List Encoding}
    (fits : ∀ encoding ∈ encodings, encoding.Fits environment columns) :
    ∀ expression ∈ encodings.filterMap Encoding.expression?,
      expression.Fits environment columns := by
  intro expression inside
  rcases List.mem_filterMap.mp inside with ⟨encoding, listed, computed⟩
  have fitting := fits encoding listed
  cases encoding with
  | constant _ | field _ _ | inBand _ _ _ | place _ _ | bandShare _ _ => cases computed
  | signal _ =>
      cases computed
      exact fitting.1

theorem ScaleName.text_injective {first second : ScaleName} (same : first.text = second.text) :
    first = second := by
  cases first <;> cases second <;> first | rfl | (revert same; decide)

/-- The color scale shows the color group. -/
theorem Encoding.Fits.color {encoding : Encoding} (fits : encoding.Fits environment columns)
    (colored : encoding.rule.text? "scale" = some ScaleName.color.text) :
    encoding.rule.text? "field" = some "color" := by
  rw [Encoding.text?_scale] at colored
  rw [Encoding.text?_field]
  cases encoding with
  | constant _ | signal _ => cases colored
  | field scale name =>
      have same := ScaleName.text_injective (Option.some.inj colored)
      rw [fits.2 same]
      rfl
  | inBand scale _ _ => exact absurd (ScaleName.text_injective (Option.some.inj colored)) fits.2.2
  | place scale _ | bandShare scale _ =>
      exact absurd (ScaleName.text_injective (Option.some.inj colored)) fits.2

/-! ## Marks -/

theorem Mark.FitsOver.expressions {mark : Mark} (fits : mark.FitsOver environment columns) :
    ∀ expression ∈ mark.expressions, expression.Fits environment columns :=
  List.forall_mem_append.mpr ⟨expressions_fit fits.encodings, fun order sorted =>
    fits.sort order (Option.mem_toList.mp sorted)⟩

theorem Mark.FitsOver.fieldsRead {mark : Mark} (fits : mark.FitsOver environment columns) :
    mark.toMembers.fieldsRead ⊆ columns.fields := by
  unfold Members.fieldsRead
  rw [Mark.markFormulas_toMembers, Mark.rules_toMembers]
  exact List.append_subset.mpr ⟨fields_subset fits.encodings, formulas_subset fits.expressions⟩

theorem Group.FitsOver.expressions {group : Group} (fits : group.FitsOver environment columns) :
    ∀ expression ∈ group.expressions, expression.Fits environment (group.ownColumns columns) :=
  expressions_fit fits.encodings

/-- A group reads the fields that its parts are told apart by. -/
theorem Group.FitsOver.fieldsRead {group : Group} (fits : group.FitsOver environment columns) :
    group.toMembers.fieldsRead ⊆ (group.ownColumns columns).fields := by
  unfold Members.fieldsRead
  rw [Group.markFormulas_toMembers, Group.rules_toMembers]
  exact List.append_subset.mpr ⟨fields_subset fits.encodings, formulas_subset fits.expressions⟩

end

/-! ## Scales -/

namespace GroupScale

variable (declaration : GroupScale)

@[simp] theorem get?_domain :
    declaration.toMembers.get? "domain" = some declaration.scale.domain.toValue := by
  cases first : declaration.rangeFirst <;>
    simp [toMembers, Scale.toMembers, first, Members.get?_cons]

@[simp] theorem get?_range :
    declaration.toMembers.get? "range" = some declaration.scale.range.toValue := by
  cases first : declaration.rangeFirst <;>
    simp [toMembers, Scale.toMembers, first, Members.get?_cons]

@[simp] theorem text?_name :
    declaration.toMembers.text? "name" = some declaration.scale.name := by
  cases first : declaration.rangeFirst <;>
    simp [toMembers, Scale.toMembers, first, Members.text?, Members.get?_cons, Value.text?]

@[simp] theorem text?_type :
    declaration.toMembers.text? "type" = some declaration.scale.kind.text := by
  cases first : declaration.rangeFirst <;>
    simp [toMembers, Scale.toMembers, first, Members.text?, Members.get?_cons, Value.text?]

end GroupScale

/-- A range whose colors are no maps has the expression that it is computed by. -/
theorem ScaleRange.rangeFormulas_toValue {range : ScaleRange} {environment : Environment}
    (fits : range.Fits environment) (plain : ∀ color ∈ range.constants, color.map? = none) :
    range.toValue.rangeFormulas = (range.expression?.map Expr.toText).toList := by
  cases range with
  | extent _ | signal _ | upTo _ | downFrom _ => rfl
  | colors items =>
      have none : items.filterMap Value.map? = [] := List.filterMap_eq_nil_iff.mpr plain
      change (items.filterMap Value.map?).filterMap (·.text? "signal") = []
      rw [none]
      rfl
  | given _ => cases fits

/-- A range is computed without rows. -/
theorem ScaleRange.Fits.expression {range : ScaleRange} {environment : Environment}
    (fits : range.Fits environment) :
    ∀ expression ∈ range.expression?, expression.Fits environment .none := by
  intro expression inside
  cases range with
  | extent _ | colors _ | given _ => cases inside
  | signal _ | upTo _ | downFrom _ =>
      cases inside
      exact fits

/-- The signals and ranges of a group are computed without rows, too. -/
theorem Group.FitsOver.innerFormulas {group : Group} {environment : Environment}
    {columns : Columns} (fits : group.FitsOver environment columns) :
    ∀ formula ∈ group.toMembers.signalFormulas
        ++ (group.toMembers.maps "scales").flatMap Members.rangeFormulas,
      ∃ expression : Expr, expression.toText = formula ∧
        expression.Fits (group.inside environment columns) .none := by
  rw [Group.signalFormulas_toMembers, Group.maps_scales]
  intro formula inside
  rcases List.mem_append.mp inside with signals | ranges
  · rcases List.mem_map.mp signals with ⟨signal, listed, rfl⟩
    exact ⟨signal.2, rfl, (fits.signals signal listed).2⟩
  · rcases List.mem_flatMap.mp ranges with ⟨_, listed, ranged⟩
    rcases List.mem_map.mp listed with ⟨declaration, declared, rfl⟩
    have range := (fits.scales declaration declared).range
    have clear := fits.clear declaration declared
    simp only [Scale.isClear, Bool.and_eq_true, List.isEmpty_iff] at clear
    rw [Members.rangeFormulas, GroupScale.get?_range, Option.elim_some,
      ScaleRange.rangeFormulas_toValue range (clear.1.2 ▸ List.forall_mem_nil _)] at ranged
    rcases List.mem_map.mp (Option.toList_map.symm ▸ ranged) with ⟨expression, computed, written⟩
    exact ⟨expression, written, range.expression expression (Option.mem_toList.mp computed)⟩

theorem Expr.Fits.reads_nothing {expression : Expr} {environment : Environment}
    (fits : expression.Fits environment .none) : ChartCompiler.datumFields expression.toText = [] :=
  List.subset_nil.mp (Expr.Fits.datumFields fits)

/-- What a name stands for inside a group is there outside, under that name or as the source of the
facet. -/
theorem Group.FitsOver.behind {group : Group} {environment : Environment} {columns : Columns}
    (fits : group.FitsOver environment columns) (around : List Members) {name : String}
    {found : Columns}
    (looked : (group.inside environment columns).sources.lookup name = some found) :
    ∃ outer, sourceBehind? (group.toMembers :: around) name = sourceBehind? around outer ∧
      environment.sources.lookup outer = some found := by
  rw [sourceBehind?, Group.facet?_toMembers]
  cases facet : group.facet with
  | none =>
      simp only [Group.inside, facet, Option.toList_none, List.map_nil, List.append_nil] at looked
      exact ⟨name, rfl, looked⟩
  | some parts =>
      have fitting := fits.facet parts facet
      simp only [Group.inside, facet, Option.toList_some, List.map_cons, List.map_nil] at looked
      simp only [Option.map_some, Facet.text?_name, Option.some.injEq, Facet.text?_data,
        Option.bind_some]
      by_cases same : parts.name = name
      · rw [← same, List.lookup_append_of_notMem fitting.fresh] at looked
        rw [if_pos same, ← Option.some.inj looked]
        exact ⟨parts.source, rfl, fitting.read⟩
      · have other : (name == parts.name) = false := beq_false_of_ne (Ne.symm same)
        rw [List.lookup_append, List.lookup_cons, other, List.lookup_nil, Option.or_none] at looked
        rw [if_neg same]
        exact ⟨name, rfl, looked⟩

namespace SourceFields

/-- Whether the rows with a name have the fields that are expected under it. -/
def Serve (sources : SourceFields) (around : List Members)
    (expected : List (String × Columns)) : Prop :=
  ∀ name columns, expected.lookup name = some columns →
    ∀ field ∈ columns.fields, sources.Has around name field

variable {sources : SourceFields} {around : List Members} {environment : Environment}
  {columns : Columns}

theorem Cover.serve {expected : List (String × Columns)} (cover : sources.Cover expected) :
    sources.Serve [] expected := fun _ _ found => cover.has found

/-- The fields of a fitting domain are there. -/
theorem Serve.domainHas (serve : sources.Serve around environment.sources) {domain : ScaleDomain}
    (fits : domain.Fits environment) {members : Members}
    (written : domain.toValue.map? = some members) : sources.DomainHas around members := by
  intro source named field read
  cases domain with
  | field origin name sorted =>
      rcases fits with ⟨_, _, columns, found, held⟩
      cases written
      have parts : origin = source ∧ field = name := by
        cases sorted <;> exact ⟨Option.some.inj named, List.mem_singleton.mp read⟩
      rw [← parts.1, parts.2]
      exact serve origin columns found name held
  | fields origin names =>
      rcases fits with ⟨_, _, columns, found, held⟩
      cases written
      have same : origin = source := Option.some.inj named
      have listed : field ∈ (Value.list (names.map .text)).texts := read
      rw [Facet.texts_list] at listed
      rw [← same]
      exact serve origin columns found field (held listed)
  | labels _ => cases written
  | given _ => cases fits

theorem Serve.scaleHas (serve : sources.Serve around environment.sources) {scale : Scale}
    (fits : scale.Fits environment) {members : Members}
    (written : members.get? "domain" = some scale.domain.toValue) :
    sources.ScaleHas around members := by
  intro domain found
  unfold Members.map? at found
  rw [written] at found
  exact serve.domainHas fits.domain found

/-! ## Marks of drawings -/

theorem Serve.drawnOver (serve : sources.Serve around environment.sources) {mark : Mark}
    (fits : mark.FitsOver environment columns) :
    ∀ field ∈ mark.toMembers.fieldsRead, sources.DrawnOver around mark.toMembers field := by
  intro field read
  have held := fits.fieldsRead read
  have rows := fits.read
  cases source : mark.source with
  | none =>
      rw [source] at rows
      cases rows
      cases held
  | some name =>
      rw [source] at rows
      exact .inl ⟨name, (Mark.data?_toMembers mark).trans source, serve name columns rows field held⟩

theorem Serve.groupDrawnOver {group : Group} (fits : group.FitsOver environment columns) :
    ∀ field ∈ group.toMembers.fieldsRead, sources.DrawnOver around group.toMembers field := by
  intro field read
  have held := fits.fieldsRead read
  unfold Group.ownColumns at held
  cases facet : group.facet with
  | none =>
      rw [facet] at held
      cases held
  | some parts =>
      rw [facet] at held
      exact .inr ⟨parts.members, by simp [facet], by simpa using held⟩

/-- The marks of a group find what they read in the facet of the group, too. -/
theorem Serve.inside (serve : sources.Serve around environment.sources) {group : Group}
    (fits : group.FitsOver environment columns) :
    sources.Serve (group.toMembers :: around) (group.inside environment columns).sources := by
  intro name found looked field held
  rcases fits.behind around looked with ⟨outer, same, listed⟩
  unfold Has
  rw [same]
  exact serve outer found listed field held

/-- The scales of a group find their fields. -/
theorem Serve.groupScales (serve : sources.Serve around environment.sources) {group : Group}
    (fits : group.FitsOver environment columns) :
    ∀ scale ∈ group.toMembers.maps "scales",
      sources.ScaleHas (group.toMembers :: around) scale := by
  rw [Group.maps_scales]
  intro scale listed
  rcases List.mem_map.mp listed with ⟨declaration, declared, rfl⟩
  exact (serve.inside fits).scaleHas (fits.scales declaration declared) declaration.get?_domain

/-- The marks of a drawing find the fields that they read. -/
theorem Cover.marksHave {graphics : List Graphic}
    (fits : ∀ graphic ∈ graphics, graphic.Fits environment)
    (cover : sources.Cover environment.sources) :
    sources.MarksHave (graphics.map fun graphic => .map graphic.toMembers) := by
  refine ⟨fun stands => ?_, fun stands => ?_, fun stands => ?_, fun stands => ?_⟩
  · cases Graphic.stands stands with
    | mark content drawn =>
        rcases (fits _ drawn).onRows with ⟨columns, onRows⟩
        exact cover.serve.drawnOver onRows
    | group content drawn =>
        rcases fits _ drawn with ⟨columns, onRows⟩
        exact Serve.groupDrawnOver onRows
    | nested group content drawn inside =>
        rcases fits _ drawn with ⟨columns, outer⟩
        rcases (outer.marks content inside).onRows with ⟨parts, onRows⟩
        exact (cover.serve.inside outer).drawnOver onRows
  · cases Graphic.stands stands with
    | mark content drawn | nested group content drawn inside => simp
    | group content drawn =>
        rcases fits _ drawn with ⟨columns, onRows⟩
        intro facet found
        rw [Group.facet?_toMembers] at found
        rcases Option.map_eq_some_iff.mp found with ⟨parts, faceted, rfl⟩
        have fitting := onRows.facet parts faceted
        refine ⟨parts.source, parts.text?_data, fun field inside => ?_⟩
        rw [Facet.texts_groupby] at inside
        exact cover.has fitting.read field (fitting.groupby inside)
  · cases Graphic.stands stands with
    | mark content drawn | nested group content drawn inside =>
        rw [Mark.maps_absent _ (by simp [Mark.memberNames])]
        exact List.forall_mem_nil _
    | group content drawn =>
        rcases fits _ drawn with ⟨columns, onRows⟩
        exact cover.serve.groupScales onRows
  · cases Graphic.stands stands with
    | mark content drawn | nested group content drawn inside =>
        rw [Mark.innerFormulas_toMembers]
        exact List.forall_mem_nil _
    | group content drawn =>
        rcases fits _ drawn with ⟨columns, onRows⟩
        intro formula inside
        rcases onRows.innerFormulas formula inside with ⟨expression, rfl, fitting⟩
        exact fitting.reads_nothing

end SourceFields

/-! ## What marks of drawings write -/

/-- Whether the channels and expressions of a mark, as they are written, fit some rows. -/
structure Members.FitsOver (mark : Members) (environment : Environment) (columns : Columns) :
    Prop where
  rules : ∃ encodings : List Encoding, mark.rules = encodings.map Encoding.rule ∧
    ∀ encoding ∈ encodings, encoding.Fits environment columns
  formulas : ∃ expressions : List Expr, mark.markFormulas = expressions.map Expr.toText ∧
    ∀ expression ∈ expressions, expression.Fits environment columns

/-- The data source behind the rows that a mark is drawn over, or that a group divides. -/
def Members.rowsBehind? (around : List Members) (mark : Members) : Option String :=
  match mark.facet? with
  | some facet => (facet.text? "data").bind (sourceBehind? around)
  | none => mark.data?.bind (sourceBehind? around)

/-- The surroundings of marks in a drawing: those of the drawing, or those inside of a group. -/
inductive Environment.Reaches (environment : Environment) (graphics : List Graphic) :
    List Members → Environment → Prop where
  | top : Reaches environment graphics [] environment
  | inside (group : Group) (drawn : .group group ∈ graphics) (columns : Columns)
      (fits : group.FitsOver environment columns) :
      Reaches environment graphics [group.toMembers] (group.inside environment columns)

section

variable {environment : Environment} {columns : Columns} {graphics : List Graphic}
  {around : List Members} {mark : Members}

theorem Mark.FitsOver.written {mark : Mark} (fits : mark.FitsOver environment columns) :
    mark.toMembers.FitsOver environment columns :=
  ⟨⟨_, mark.rules_toMembers, fits.encodings⟩, _, mark.markFormulas_toMembers, fits.expressions⟩

theorem Group.FitsOver.written {group : Group} (fits : group.FitsOver environment columns) :
    group.toMembers.FitsOver environment (group.ownColumns columns) :=
  ⟨⟨_, group.rules_toMembers, fits.encodings⟩, _, group.markFormulas_toMembers, fits.expressions⟩

/-- A mark of a drawing fits its surroundings and the rows that it is drawn over, whose labels are
those of the source behind them. -/
theorem Graphic.Stands.fits (fits : ∀ graphic ∈ graphics, graphic.Fits environment)
    (stands : Stands graphics around mark) :
    ∃ inner columns, environment.Reaches graphics around inner ∧ mark.FitsOver inner columns ∧
      ∀ source, mark.rowsBehind? around = some source →
        ∃ whole, environment.sources.lookup source = some whole ∧
          columns.labels = whole.labels := by
  cases stands with
  | mark content drawn =>
      rcases (fits _ drawn).onRows with ⟨columns, onRows⟩
      refine ⟨environment, columns, .top, onRows.written, fun source behind => ?_⟩
      rw [Members.rowsBehind?, Mark.facet?_toMembers, Mark.data?_toMembers] at behind
      rcases Option.bind_eq_some_iff.mp behind with ⟨name, read, equal⟩
      cases equal
      have rows := onRows.read
      rw [read] at rows
      exact ⟨columns, rows, rfl⟩
  | group content drawn =>
      rcases fits _ drawn with ⟨columns, onRows⟩
      refine ⟨environment, _, .top, onRows.written, fun source behind => ?_⟩
      rw [Members.rowsBehind?, Group.facet?_toMembers, Group.data?_toMembers] at behind
      unfold Group.ownColumns
      cases facet : content.facet with
      | none =>
          rw [facet] at behind
          cases behind
      | some parts =>
          rw [facet] at behind
          simp only [Option.map_some, Facet.text?_data, Option.bind_some, sourceBehind?,
            Option.some.injEq] at behind
          rw [← behind]
          exact ⟨columns, (onRows.facet parts facet).read, rfl⟩
  | nested group content drawn inside =>
      rcases fits _ drawn with ⟨parts, outer⟩
      rcases (outer.marks content inside).onRows with ⟨columns, onRows⟩
      refine ⟨_, columns, .inside group drawn parts outer, onRows.written, fun source behind => ?_⟩
      rw [Members.rowsBehind?, Mark.facet?_toMembers, Mark.data?_toMembers] at behind
      rcases Option.bind_eq_some_iff.mp behind with ⟨name, read, behind⟩
      have rows := onRows.read
      rw [read] at rows
      rcases outer.behind [] rows with ⟨name, same, found⟩
      rw [same] at behind
      cases behind
      exact ⟨columns, found, rfl⟩

/-- In the marks of a drawing, the color scale shows the color group. -/
theorem Graphic.Stands.color (fits : ∀ graphic ∈ graphics, graphic.Fits environment)
    (stands : Stands graphics around mark) :
    ∀ rule ∈ mark.rules, rule.text? "scale" = some ScaleName.color.text →
      rule.text? "field" = some "color" := by
  rcases stands.fits fits with ⟨inner, columns, _, written, _⟩
  rcases written.rules with ⟨encodings, rules, fitting⟩
  rw [rules]
  intro rule inside colored
  rcases List.mem_map.mp inside with ⟨encoding, listed, rfl⟩
  exact (fitting encoding listed).color colored

end

end ChartCompiler
