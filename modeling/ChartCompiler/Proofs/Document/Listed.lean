import ChartCompiler.Chart.Assembly
import ChartCompiler.Proofs.Document.Fields
import ChartCompiler.Proofs.Document.Selection

/-!
# Data sources that are listed

Whether the data sources that a document reads are listed in it: those that computed sources start
from or look into, earlier in the list, and those of marks, facets and domains. A mark inside a
group may also read the facet that the group stands for.
-/

namespace ChartCompiler

/-! ## Order of sources -/

/-- Whether a source reads only sources with some names. -/
structure DataSource.ReadsOnly (source : DataSource) (names : List String) : Prop where
  origin : ∀ origin, source.origin? = some origin → origin ∈ names
  looked : ∀ step ∈ source.steps, ∀ other, step.text? "from" = some other → other ∈ names

/-- Whether sources read only what comes before them. -/
inductive DataSource.InOrder : List String → List DataSource → Prop where
  | nil {earlier : List String} : InOrder earlier []
  | cons {earlier : List String} {source : DataSource} {rest : List DataSource}
      (reads : source.ReadsOnly earlier) (others : InOrder (earlier ++ [source.name]) rest) :
      InOrder earlier (source :: rest)

namespace DataSource.InOrder

variable {earlier : List String} {first second : List DataSource}

theorem mono (order : InOrder earlier first) {more : List String} (subset : earlier ⊆ more) :
    InOrder more first := by
  induction order generalizing more with
  | nil => exact .nil
  | cons reads others induction =>
      refine .cons ⟨fun origin starts => subset (reads.origin origin starts),
        fun step inside other looks => subset (reads.looked step inside other looks)⟩ ?_
      exact induction (List.append_subset.mpr ⟨List.subset_append_of_subset_left _ subset,
        List.subset_append_right _ _⟩)

theorem append (order : InOrder earlier first)
    (following : InOrder (earlier ++ first.map (·.name)) second) :
    InOrder earlier (first ++ second) := by
  induction order with
  | nil => simpa using following
  | cons reads others induction =>
      refine .cons reads (induction ?_)
      rw [List.append_assoc]
      exact following

end DataSource.InOrder

theorem stepsFit_lookup {expected : List (String × Columns)} {steps : List Transform}
    {fields : List String} (fits : stepsFit expected fields steps) {source key : String}
    {taken : List String} (inside : .lookup source key taken ∈ steps) :
    ∃ columns, expected.lookup source = some columns := by
  induction steps generalizing fields with
  | nil => cases inside
  | cons step rest induction =>
      rcases List.mem_cons.mp inside with rfl | inside
      · rcases fits.1.2 with ⟨columns, found, _⟩
        exact ⟨columns, found⟩
      · exact induction fits.2 inside

theorem mem_of_lookup {expected : List (String × Columns)} {name : String} {columns : Columns}
    (found : expected.lookup name = some columns) : name ∈ expected.map (·.1) := by
  rcases List.lookup_eq_some_iff.mp found with ⟨before, after, rfl, _⟩
  simp

/-- A pipeline that fits reads sources that are there. -/
theorem Pipeline.Fits.readsOnly {pipeline : Pipeline} {expected : List (String × Columns)}
    (fits : pipeline.Fits expected) : pipeline.toSource.ReadsOnly (expected.map (·.1)) := by
  rcases fits with ⟨columns, found, steps⟩
  refine ⟨fun origin starts => ?_, fun step inside other looks => ?_⟩
  · cases starts
    exact mem_of_lookup found
  · rw [Pipeline.steps_toSource] at inside
    rcases List.mem_map.mp inside with ⟨transform, listed, rfl⟩
    rcases Transform.text?_from looks with ⟨key, taken, rfl⟩
    rcases stepsFit_lookup steps listed with ⟨columns, found⟩
    exact mem_of_lookup found

theorem pipelinesFit.inOrder {expected : List (String × Columns)} {pipelines : List Pipeline}
    (fits : pipelinesFit expected pipelines) :
    DataSource.InOrder (expected.map (·.1)) (pipelines.map Pipeline.toSource) := by
  induction pipelines generalizing expected with
  | nil => exact .nil
  | cons pipeline rest induction =>
      refine .cons fits.1.readsOnly ?_
      have others := induction fits.2
      rw [Pipeline.extend, List.map_append] at others
      exact others

/-! ## Marks -/

/-- The names of the facets that groups stand for. -/
def facetNames (around : List Members) : List String :=
  around.filterMap fun group => group.facet?.bind (·.text? "name")

/-- Whether marks read listed sources, or facets of the groups around them; facets stand for parts
of listed sources, under names of their own. -/
structure MarksListed (names : List String) (marks : List Value) : Prop where
  data : ∀ {around mark}, Stands marks around mark → ∀ source, mark.data? = some source →
    source ∈ names ∨ source ∈ facetNames around
  facets : ∀ {around group}, Stands marks around group → ∀ facet, group.facet? = some facet →
    (∃ source, facet.text? "data" = some source ∧ source ∈ names) ∧
      ∃ name, facet.text? "name" = some name ∧ name ∉ names
  scales : ∀ {around group}, Stands marks around group → ∀ scale ∈ group.maps "scales",
    ∀ domain, scale.map? "domain" = some domain → ∀ source, domain.text? "data" = some source →
      source ∈ names ∨ source ∈ facetNames (group :: around)
  tests : ∀ {around mark}, Stands marks around mark → ∀ formula ∈ mark.markFormulas,
    quotedCalls dataFunctions formula ⊆ names

theorem Stands.of_flatMap {items : List α} {marksOf : α → List Value} {around : List Members}
    {mark : Members} (stands : Stands (items.flatMap marksOf) around mark) :
    ∃ item ∈ items, Stands (marksOf item) around mark := by
  induction stands with
  | top listed =>
      rcases List.mem_flatMap.mp listed with ⟨item, inside, listed⟩
      exact ⟨item, inside, .top listed⟩
  | nested _ inside induction =>
      rcases induction with ⟨item, listed, outer⟩
      exact ⟨item, listed, .nested outer inside⟩

theorem facetNames_of_follows {style : Style} {before after : List Members}
    (same : List.Forall₂ (Legend.Follows style) before after) :
    facetNames after = facetNames before := by
  induction same with
  | nil => rfl
  | cons first others induction =>
      unfold facetNames at induction ⊢
      rw [List.filterMap_cons, List.filterMap_cons, first.facet?, induction]

namespace MarksListed

variable {names : List String}

theorem flatMap {items : List α} {marksOf : α → List Value}
    (each : ∀ item ∈ items, MarksListed names (marksOf item)) :
    MarksListed names (items.flatMap marksOf) := by
  refine ⟨fun stands => ?_, fun stands => ?_, fun stands => ?_, fun stands => ?_⟩
  all_goals rcases stands.of_flatMap with ⟨item, inside, stands⟩
  · exact (each item inside).data stands
  · exact (each item inside).facets stands
  · exact (each item inside).scales stands
  · exact (each item inside).tests stands

/-- Marks that follow the selection read listed sources if the marks before did and the selection
is listed. -/
theorem follow {style : Style} {marks changed : List Value} {count : Nat}
    (found : MarksListed names marks) (selected : Legend.selectedSource ∈ names)
    (made : Legend.selectableMarks style marks = .ok (changed, count)) :
    MarksListed names changed := by
  refine ⟨fun stands => ?_, fun stands => ?_, fun stands => ?_, fun stands => ?_⟩
  all_goals
    rcases Legend.madeFrom_of_stands made stands with ⟨outer, before, place, same, from_⟩
    have follows := from_.follows.1
  · rw [follows.data?, facetNames_of_follows same]
    exact found.data place
  · rw [follows.facet?]
    exact found.facets place
  · rw [follows.maps "scales" (by decide) (by decide),
      facetNames_of_follows (.cons follows same)]
    exact found.scales place
  · intro formula inside
    rcases follows.markFormulas formula inside with old | new
    · exact found.tests place formula old
    · rw [(Legend.markTest_reads new).2]
      exact List.cons_subset.mpr ⟨selected, List.cons_subset.mpr ⟨selected, List.nil_subset _⟩⟩

end MarksListed

/-! ## Rendered drawings -/

theorem dataFunctions_quoting : QuotedCall.AreQuoting dataFunctions :=
  ⟨by decide, by decide⟩

/-- Drawings test no data sources. -/
theorem Expr.calls_data (expression : Expr) :
    expression.calls dataFunctions = [] := by
  induction expression with
  | number _ | whole _ | text _ | extent _ | datum _ | random => rfl
  | bandwidth _ => rfl
  | scaled _ _ induction => exact induction
  | apply _ _ induction => exact induction
  | combine _ _ _ first second | binary _ _ _ first second | pair _ _ first second =>
      unfold calls
      rw [first, second]
      rfl

theorem Expr.Fits.tests_nothing {expression : Expr} {environment : Environment} {columns : Columns}
    (fits : expression.Fits environment columns) :
    quotedCalls dataFunctions expression.toText = [] := by
  rw [Expr.quotedCalls_toText dataFunctions_quoting expression fits.isClear, Expr.calls_data]

theorem tests_nothing {expressions : List Expr} {environment : Environment} {columns : Columns}
    (fits : ∀ expression ∈ expressions, expression.Fits environment columns) :
    ∀ formula ∈ expressions.map Expr.toText,
      quotedCalls dataFunctions formula = [] := by
  intro formula inside
  rcases List.mem_map.mp inside with ⟨expression, listed, rfl⟩
  exact (fits expression listed).tests_nothing

section

variable {environment : Environment} {columns : Columns} {names : List String}

theorem Mark.FitsOver.listed {mark : Mark} (fits : mark.FitsOver environment columns) :
    ∀ source, mark.toMembers.data? = some source → source ∈ environment.sources.map (·.1) := by
  intro source read
  rw [Mark.data?_toMembers] at read
  have rows := fits.read
  rw [read] at rows
  exact mem_of_lookup rows

theorem ScaleDomain.Fits.listed {domain : ScaleDomain} (fits : domain.Fits environment)
    {members : Members} (written : domain.toValue.map? = some members) :
    ∀ source, members.text? "data" = some source → source ∈ environment.sources.map (·.1) := by
  intro source read
  cases domain with
  | field origin name sorted =>
      rcases fits with ⟨_, _, columns, found, _⟩
      cases written
      cases sorted <;> cases read <;> exact mem_of_lookup found
  | fields origin fields =>
      rcases fits with ⟨_, _, columns, found, _⟩
      cases written
      cases read
      exact mem_of_lookup found
  | labels _ => cases written
  | given _ => cases fits

theorem facetNames_group (group : Group) (around : List Members) :
    facetNames (group.toMembers :: around)
      = (group.facet.map (·.name)).toList ++ facetNames around := by
  unfold facetNames
  rw [List.filterMap_cons, Group.facet?_toMembers]
  cases group.facet <;> simp

/-- Inside a group the sources are those outside and the facet. -/
theorem Group.mem_inside {group : Group} {around : List Members}
    (listed : environment.sources.map (·.1) ⊆ names) :
    ∀ source ∈ (group.inside environment columns).sources.map (·.1),
      source ∈ names ∨ source ∈ facetNames (group.toMembers :: around) := by
  intro source inside
  rw [facetNames_group]
  simp only [Group.inside, List.map_append, List.mem_append] at inside
  refine inside.imp (fun outer => listed outer) fun own => List.mem_append_left _ ?_
  cases facet : group.facet with
  | none => simp [facet] at own
  | some parts => simpa [facet] using own

/-- The marks of a drawing that fits read listed sources, if its facets have names of their own. -/
theorem MarksListed.of_fits {graphics : List Graphic}
    (fits : ∀ graphic ∈ graphics, graphic.Fits environment)
    (listed : environment.sources.map (·.1) ⊆ names)
    (fresh : ∀ facet ∈ graphics.filterMap Graphic.facetName?, facet ∉ names) :
    MarksListed names (graphics.map fun graphic => .map graphic.toMembers) := by
  refine ⟨fun stands => ?_, fun stands => ?_, fun stands => ?_, fun stands => ?_⟩
  · cases Graphic.stands stands with
    | mark content drawn =>
        rcases (fits _ drawn).onRows with ⟨columns, onRows⟩
        exact fun source read => .inl (listed (onRows.listed source read))
    | group content drawn => simp
    | nested group content drawn inside =>
        rcases fits _ drawn with ⟨columns, outer⟩
        rcases (outer.marks content inside).onRows with ⟨parts, onRows⟩
        exact fun source read => Group.mem_inside listed source (onRows.listed source read)
  · cases Graphic.stands stands with
    | mark content drawn | nested group content drawn inside => simp
    | group content drawn =>
        rcases fits _ drawn with ⟨columns, onRows⟩
        intro facet found
        rw [Group.facet?_toMembers] at found
        rcases Option.map_eq_some_iff.mp found with ⟨parts, faceted, rfl⟩
        refine ⟨⟨_, parts.text?_data, listed (mem_of_lookup (onRows.facet parts faceted).read)⟩,
          _, parts.text?_name, fresh parts.name (List.mem_filterMap.mpr ⟨_, drawn, ?_⟩)⟩
        simp [Graphic.facetName?, faceted]
  · cases Graphic.stands stands with
    | mark content drawn | nested group content drawn inside =>
        rw [Mark.maps_absent _ (by simp [Mark.memberNames])]
        exact List.forall_mem_nil _
    | group content drawn =>
        rcases fits _ drawn with ⟨columns, onRows⟩
        rw [Group.maps_scales]
        intro scale inside domain found source read
        rcases List.mem_map.mp inside with ⟨declaration, declared, rfl⟩
        rw [Members.map?, declaration.get?_domain] at found
        have fitting := (onRows.scales declaration declared).domain
        exact Group.mem_inside listed source (ScaleDomain.Fits.listed fitting found source read)
  · intro formula inside
    rcases (Graphic.stands stands).fits fits with ⟨inner, columns, _, written, _⟩
    rcases written.formulas with ⟨expressions, formulas, fitting⟩
    rw [formulas] at inside
    have nothing := tests_nothing fitting formula inside
    rw [nothing]
    exact List.nil_subset _

end

/-! ## Sources of drawings -/

theorem InlineRows.inOrder (earlier : List String) (inline : List InlineRows) :
    DataSource.InOrder earlier (inline.map InlineRows.toSource) := by
  induction inline generalizing earlier with
  | nil => exact .nil
  | cons rows rest induction =>
      exact .cons ⟨nofun, List.forall_mem_nil _⟩ (induction _)

namespace Drawing

variable (drawing : Drawing) {table : Table} {held : List Columns} {style : Style}

theorem names_sourcesOf :
    (Assembly.sourcesOf drawing.toFragment).map (·.name) = drawing.ownSources := by
  simp [Assembly.sourcesOf, toFragment, ownSources, Function.comp_def]

theorem foldl_extend_names (pipelines : List Pipeline) (expected : List (String × Columns)) :
    (pipelines.foldl (fun sources pipeline => pipeline.extend sources) expected).map (·.1)
      = expected.map (·.1) ++ pipelines.map (·.name) := by
  induction pipelines generalizing expected with
  | nil => simp
  | cons pipeline rest induction =>
      rw [List.foldl_cons, induction, Pipeline.extend, List.map_append, List.append_assoc]
      rfl

theorem givenSources_names (table : Table) (held : List Columns) :
    (drawing.givenSources table held).map (·.1) ⊆ tableSource :: drawing.inline.map (·.name) := by
  refine List.cons_subset_cons _ fun name inside => ?_
  rcases List.mem_map.mp inside with ⟨entry, zipped, rfl⟩
  exact (List.of_mem_zip zipped).1

/-- A drawing knows of the table and of its own sources. -/
theorem sources_names (table : Table) (held : List Columns) :
    (drawing.sources table held).map (·.1) ⊆ tableSource :: drawing.ownSources := by
  unfold sources ownSources
  rw [foldl_extend_names]
  exact List.append_subset.mpr
    ⟨List.Subset.trans (drawing.givenSources_names table held) (List.subset_append_left _ _),
      List.subset_cons_of_subset _ (List.subset_append_right _ _)⟩

variable {drawing}

/-- The sources of a drawing are computed from the table and from each other, in their order. -/
theorem Fits.inOrder (fits : drawing.Fits table held style) :
    DataSource.InOrder [tableSource] (Assembly.sourcesOf drawing.toFragment) := by
  have inline : (drawing.inline.map InlineRows.toSource).map (·.name)
      = drawing.inline.map (·.name) := by
    rw [List.map_map]
    rfl
  refine (InlineRows.inOrder _ _).append ((pipelinesFit.inOrder fits.pipelines).mono ?_)
  rw [inline]
  exact drawing.givenSources_names table held

/-- The marks of a drawing read the table and its own sources. -/
theorem Fits.marksListed (fits : drawing.Fits table held style) {names : List String}
    (listed : tableSource :: drawing.ownSources ⊆ names)
    (fresh : ∀ facet ∈ drawing.facetNames, facet ∉ names) :
    MarksListed names drawing.toFragment.marks :=
  .of_fits fits.graphics (List.Subset.trans (drawing.sources_names table held) listed) fresh

theorem Fits.domainListed (fits : drawing.Fits table held style) {names : List String}
    (listed : tableSource :: drawing.ownSources ⊆ names) {scale : Scale}
    (declared : scale ∈ drawing.scales) {domain : Members}
    (written : scale.toMembers.map? "domain" = some domain) :
    ∀ source, domain.text? "data" = some source → source ∈ names := by
  intro source read
  exact listed (drawing.sources_names table held
    (ScaleDomain.Fits.listed (fits.scales scale declared).domain written source read))

end Drawing

end ChartCompiler
