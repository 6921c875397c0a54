import ChartCompiler.Proofs.Document.Drawings
import ChartCompiler.Proofs.Layer.Fits
import ChartCompiler.Proofs.References.Fitting

/-!
# Layers bring what they refer to

The scales that are found in what a layer draws are those that it declares for the whole chart. The
scales of a group stay inside the group. Every field that is read in what a layer draws is there where
it is read: in the steps of the computed sources, in the marks and their groups, and in the domains of
the scales. The reads that make the marks follow the selection find theirs, too.
-/

namespace ChartCompiler

/-! ## The search through parts of a document -/

namespace References

variable {allowed : String → Prop}

theorem ofEach_only {search : Value → Except Failure (List String)} {items : List Value}
    (each : ∀ item ∈ items, ∃ names, search item = .ok names ∧ ∀ name ∈ names, allowed name) :
    ∃ names, ofEach search (.list items) = .ok names ∧ ∀ name ∈ names, allowed name := by
  have searched : ∃ found, items.mapM search = .ok found ∧
      ∀ names ∈ found, ∀ name ∈ names, allowed name := by
    induction items with
    | nil => exact ⟨[], rfl, List.forall_mem_nil _⟩
    | cons head rest induction =>
        rcases List.forall_mem_cons.mp each with ⟨⟨names, first, good⟩, others⟩
        rcases induction others with ⟨found, following, goods⟩
        refine ⟨names :: found, ?_, List.forall_mem_cons.mpr ⟨good, goods⟩⟩
        rw [List.mapM_cons, first, following]
        rfl
  rcases searched with ⟨found, searched, good⟩
  refine ⟨found.flatten, ?_, fun name inside => ?_⟩
  · simp [ofEach, Value.itemsOf, Value.elements?, searched, bind, Except.bind, pure, Except.pure]
  · rcases List.mem_flatten.mp inside with ⟨names, listed, member⟩
    exact good names listed name member

/-- A document of marks, axes and scales, and no legends. -/
theorem ofParts_only {marks axes scales : List Value}
    (marksOnly : ∀ mark ∈ marks, mark.RefersOnly [] allowed)
    (axesOnly : ∀ axis ∈ axes, axis.RefersOnly [] allowed)
    (scalesOnly : ∀ scale ∈ scales, ∃ names, ofScale scale = .ok names ∧
      ∀ name ∈ names, allowed name) :
    ∃ names, ofParts { marks := .list marks, axes := .list axes, scales := .list scales }
      = .ok names ∧ ∀ name ∈ names, allowed name := by
  rcases ofEach_only marksOnly with ⟨marked, marksFound, marksGood⟩
  rcases ofEach_only axesOnly with ⟨shown, axesFound, axesGood⟩
  rcases ofEach_only scalesOnly with ⟨ranged, scalesFound, scalesGood⟩
  refine ⟨marked ++ shown ++ ranged, ?_, List.forall_mem_append.mpr
    ⟨List.forall_mem_append.mpr ⟨marksGood, axesGood⟩, scalesGood⟩⟩
  have legends : ofEach ofLegend (.list []) = .ok [] := rfl
  simp [ofParts, marksFound, axesFound, scalesFound, legends, bind, Except.bind, pure, Except.pure]

end References

/-! ## Fragments -/

/-- The parts of a fragment that may refer to scales: its marks, its axes and the ranges of its
scales. -/
def Fragment.referringParts (fragment : Fragment) : References.Parts :=
  { marks := .list fragment.marks
    axes := .list fragment.axes
    scales := .list (fragment.scales.map fun scale => .map [("range", scale.range.toValue)]) }

def Fragment.scaleNames (fragment : Fragment) : List String := fragment.scales.map (·.name)

theorem Drawing.environment_closed (drawing : Drawing) (table : Table) (held : List Columns)
    (style : Style) : (drawing.environment table held style).Closed := by
  intro name banded
  rcases List.mem_map.mp banded with ⟨scale, inside, rfl⟩
  exact List.mem_map_of_mem (List.mem_filter.mp inside).1

theorem ScaleRange.ofScale_only {range : ScaleRange} {allowed : String → Prop}
    (only : range.toValue.RefersOnly [] allowed) :
    ∃ names, References.ofScale (.map [("range", range.toValue)]) = .ok names ∧
      ∀ name ∈ names, allowed name := by
  have inside : (Value.map [("range", range.toValue)]).RefersOnly [] allowed :=
    .map rfl nofun (.cons (fun _ => only) .nil)
  rcases inside with ⟨names, found, good⟩
  exact ⟨names, found, good⟩

section

variable {drawing : Drawing} {table : Table} {held : List Columns} {style : Style}

theorem Drawing.Fits.graphic_refersOnly (fits : drawing.Fits table held style)
    (silent : style.Silent) : ∀ graphic ∈ drawing.graphics,
      (Value.map graphic.toMembers).RefersOnly [] (· ∈ drawing.scaleNames) :=
  fun graphic listed => (fits.graphics graphic listed).refersOnly
    (drawing.environment_closed table held style) silent

theorem Drawing.Fits.range_refersOnly (fits : drawing.Fits table held style)
    (silent : style.Silent) : ∀ scale ∈ drawing.scales,
      scale.range.toValue.RefersOnly [] (· ∈ drawing.scaleNames) := by
  intro scale listed
  have range := (fits.scales scale listed).range
  exact ScaleRange.refersOnly range.isClear
    (fun value shown => silent.refersOnly (range.constants value shown))
    (fun name called _ => range.references (drawing.environment_closed table held style) called)

/-- A drawing that fits refers to its own scales only. -/
theorem Drawing.Fits.closed (fits : drawing.Fits table held style) (silent : style.Silent) :
    ∃ names, References.ofParts drawing.toFragment.referringParts = .ok names ∧
      ∀ name ∈ names, name ∈ drawing.toFragment.scaleNames := by
  refine References.ofParts_only ?_ ?_ ?_
  · intro mark inside
    rcases List.mem_map.mp inside with ⟨graphic, listed, rfl⟩
    exact fits.graphic_refersOnly silent graphic listed
  · intro axis inside
    rcases List.mem_map.mp inside with ⟨content, listed, rfl⟩
    have fitting := fits.axes content listed
    exact Axis.refersOnly fitting.clear fun _ => fitting.declared
  · intro scale inside
    rcases List.mem_map.mp inside with ⟨content, listed, rfl⟩
    exact ScaleRange.ofScale_only (fits.range_refersOnly silent content listed)

end

/-! ## Silent styles -/

theorem Value.refersToNothing_text (content : String) :
    (Value.text content).RefersToNothing ↔ scaleCalls content = [] := by
  simp [Value.RefersToNothing, References.within]

theorem Value.RefersToNothing.of_isPlain {value : Value} (plain : value.isPlain = true) :
    value.RefersToNothing := by
  have only : value.RefersOnly [] (fun _ => False) := .of_isPlain plain
  rcases only with ⟨names, found, none⟩
  rw [Value.RefersToNothing, found, List.eq_nil_iff_forall_not_mem.mpr none]

theorem Style.standard_silent : ({} : Style).Silent := fun value shown =>
  .of_isPlain (List.all_eq_true.mp (show ({} : Style).shown.all Value.isPlain = true by decide +kernel)
    value shown)

/-! ## Scales -/

/-- The scales that groups declare for themselves. -/
def ScaleName.ofGroups : List ScaleName := [.barPosition, .cornerX, .cornerY]

theorem ScaleName.ofGroups_not_shared :
    ∀ scale ∈ ScaleName.ofGroups, scale.text ∉ ScaleName.shared := by decide

/-- A layer refers to no other scales than those that it declares for the chart, each of them once;
the scales of its groups are not among them. -/
theorem LayerRequest.draw_closed {request : LayerRequest} {table : Table} {context : LayerContext}
    {drawing : Drawing} (silent : context.style.Silent)
    (returned : (request.draw table context).Returns drawing) :
    ∃ names, References.ofParts drawing.toFragment.referringParts = .ok names ∧
      (∀ name ∈ names, name ∈ drawing.toFragment.scaleNames) ∧
      drawing.toFragment.scaleNames.Nodup ∧
      (∀ group, Graphic.group group ∈ drawing.graphics → ∀ name ∈ group.declared, name ∉ names) ∧
      ∀ scale ∈ ScaleName.ofGroups, scale.text ∉ names := by
  rcases (LayerRequest.draw_drawn returned).fits with ⟨held, fits, _⟩
  rcases fits.closed silent with ⟨names, found, declared⟩
  refine ⟨names, found, declared, fits.names.1, fun group drawn name own called => ?_,
    fun scale inside called => ?_⟩
  · rcases fits.graphics _ drawn with ⟨columns, fitting⟩
    exact fitting.own name own (declared name called)
  · exact ScaleName.ofGroups_not_shared scale inside (fits.names.2 (declared _ called))

/-- The bars of two color groups are drawn, by a group with a scale of its own. -/
theorem LayerRequest.draw_closed_bars : ∃ drawing names,
    ((⟨.bar, []⟩ : LayerRequest).draw groupedTable { style := {} }).Returns drawing ∧
      (∃ group, Graphic.group group ∈ drawing.graphics ∧ "pos" ∈ group.declared) ∧
      References.ofParts drawing.toFragment.referringParts = .ok names ∧
      (∀ name ∈ names, name ∈ drawing.toFragment.scaleNames) ∧ "pos" ∉ names := by
  have returned : ((⟨.bar, []⟩ : LayerRequest).draw groupedTable { style := {} }).Returns
    (Layer.barsDrawing groupedTable {} _) := rfl
  rcases LayerRequest.draw_closed Style.standard_silent returned with
    ⟨names, found, declared, _, _, hidden⟩
  exact ⟨_, names, returned, ⟨_, List.mem_cons_self .., List.mem_cons_self ..⟩, found, declared,
    hidden .barPosition (List.mem_cons_self ..)⟩

/-! ## Fields -/

/-- The layers of a projected table read fields that are there. -/
theorem LayerRequest.draw_finds_fields {request : LayerRequest} {bindings : Bindings}
    {table : Table} {context : LayerContext} {drawing : Drawing}
    (projected : (Table.project bindings).Returns table)
    (returned : (request.draw table context).Returns drawing) :
    table.sourceFields.ListHas (Assembly.sourcesOf drawing.toFragment) ∧
      (drawing.toFragment.sourceFields table).MarksHave drawing.toFragment.marks ∧
      (∀ scale ∈ drawing.toFragment.scales,
        (drawing.toFragment.sourceFields table).ScaleHas [] scale.toMembers ∧
          ∀ expression ∈ scale.range.expression?, datumFields expression.toText = []) ∧
      ∀ style, ∃ marks count,
        Legend.selectableMarks style drawing.toFragment.marks = .ok (marks, count) ∧
          (drawing.toFragment.sourceFields table).MarksHave marks := by
  rcases (LayerRequest.draw_drawn returned).fits with ⟨held, fits, holds⟩
  have brought := holds (Table.project_sound projected)
  exact ⟨(fits.cover brought).1, (fits.marksHave brought {}).1, fits.scalesHave brought,
    fun style => (fits.marksHave brought style).2⟩

/-- The boxes of two color groups are computed and drawn, and find their fields. -/
theorem LayerRequest.draw_finds_fields_boxplot : ∃ drawing,
    (Table.project groupedBindings).Returns groupedTable ∧
      ((⟨.boxplot, []⟩ : LayerRequest).draw groupedTable { style := {} }).Returns drawing ∧
      (drawing.graphics.length, drawing.pipelines.length) = (7, 2) ∧
      (drawing.toFragment.sourceFields groupedTable).MarksHave drawing.toFragment.marks := by
  have returned : ((⟨.boxplot, []⟩ : LayerRequest).draw groupedTable { style := {} }).Returns
    (Layer.boxplotDrawing groupedTable {} _ _) := rfl
  rcases LayerRequest.draw_finds_fields groupedBindings_projected returned with ⟨_, found, _⟩
  exact ⟨_, groupedBindings_projected, returned, rfl, found⟩

end ChartCompiler
