import ChartCompiler.Proofs.Chart.Contract
import ChartCompiler.Proofs.Layer.Closed
import ChartCompiler.Proofs.Layer.Labels

/-!
# Texts of users in charts

The titles of axes and the names of color groups are written into a chart as they are, and the check
searches them as if they were expressions. A chart of layers is refused if and only if one of these
texts calls a scale that no layer declares.
-/

namespace ChartCompiler

open References (Finds)

variable {allowed : String → Prop} {table : Table} {style : Style} {options : ChartOptions}

/-- The title that a chart gives to the axis at a side. -/
def ChartOptions.labelAt (options : ChartOptions) : Side → Value
  | .bottom => options.xLabel
  | .left => options.yLabel

/-! ## The first axis of each side -/

theorem Axis.get?_scales {axis : Axis} (clear : axis.isClear = true) :
    axis.toMembers.get? "scales" = none := by
  simp only [Axis.isClear, Bool.and_eq_true, List.all_eq_true, decide_eq_true_eq] at clear
  unfold Axis.toMembers axisMembers
  rw [Members.get?_update_of_notMem fun setting inside => (clear.2 setting inside).1.2]
  cases axis.title <;> rfl

namespace Assembly

/-- An axis with its side, as it is kept. -/
def keptAxis (axis : Axis) : Value × Members := (.text axis.side.name, axis.toMembers)

/-- Adds an axis to others, unless one of them has its side. -/
def addSide (kept : List Axis) (axis : Axis) : List Axis :=
  if kept.any fun other => other.side = axis.side then kept else kept ++ [axis]

theorem Side.name_inj {first second : Side} : first.name = second.name ↔ first = second := by
  cases first <;> cases second <;> decide

theorem sideOf_toMembers {axis : Axis} (unstyled : ∀ setting ∈ axis.styling, setting.1 ≠ "orient") :
    sideOf (.map axis.toMembers) = .ok (.text axis.side.name) := by
  have found : axis.toMembers.get? "orient" = some (.text axis.side.name) := by
    unfold Axis.toMembers axisMembers
    rw [Members.get?_update_of_notMem unstyled]
    rfl
  unfold sideOf Value.memberOf
  dsimp only
  rw [found]
  rfl

theorem addAxis_keptAxis {kept : List Axis} {axis : Axis}
    (unstyled : ∀ setting ∈ axis.styling, setting.1 ≠ "orient") :
    addAxis (kept.map keptAxis) (.map axis.toMembers) =
      .ok ((addSide kept axis).map keptAxis) := by
  have known : (kept.map keptAxis).any (fun other => other.1.equals (.text axis.side.name)) =
      kept.any fun other => other.side = axis.side := by
    rw [List.any_map]
    congr 1
    funext other
    exact decide_eq_decide.mpr Side.name_inj
  unfold addAxis
  rw [sideOf_toMembers unstyled]
  dsimp only [bind, Except.bind, pure, Except.pure, Value.membersOf]
  rw [known]
  unfold addSide
  split
  · rfl
  · rw [List.map_append, List.map_singleton]
    rfl

theorem foldlM_addAxis {axes kept : List Axis}
    (unstyled : ∀ axis ∈ axes, ∀ setting ∈ axis.styling, setting.1 ≠ "orient") :
    (axes.map fun axis => Value.map axis.toMembers).foldlM addAxis (kept.map keptAxis) =
      .ok ((axes.foldl addSide kept).map keptAxis) := by
  induction axes generalizing kept with
  | nil => rfl
  | cons axis rest induction =>
      rcases List.forall_mem_cons.mp unstyled with ⟨first, others⟩
      rw [List.map_cons, List.foldlM_cons, addAxis_keptAxis first]
      exact induction others

theorem mem_foldl_addSide {axes kept : List Axis} {axis : Axis}
    (inside : axis ∈ axes.foldl addSide kept) : axis ∈ kept ∨ axis ∈ axes := by
  induction axes generalizing kept with
  | nil => exact .inl inside
  | cons head rest induction =>
      rcases induction inside with earlier | later
      · unfold addSide at earlier
        split at earlier
        · exact .inl earlier
        · refine (List.mem_append.mp earlier).imp_right fun new => ?_
          exact List.mem_singleton.mp new ▸ List.mem_cons_self ..
      · exact .inr (List.mem_cons_of_mem _ later)

/-- No side is lost. -/
theorem side_foldl_addSide {axes kept : List Axis} {axis : Axis}
    (inside : axis ∈ kept ∨ axis ∈ axes) :
    ∃ first ∈ axes.foldl addSide kept, first.side = axis.side := by
  induction axes generalizing kept axis with
  | nil => exact ⟨axis, inside.resolve_right List.not_mem_nil, rfl⟩
  | cons head rest induction =>
      have grows : kept ⊆ addSide kept head := by
        unfold addSide
        split
        · exact List.Subset.refl _
        · exact List.subset_append_left _ _
      have covers : ∃ first ∈ addSide kept head, first.side = head.side := by
        unfold addSide
        split
        · next known => simpa using known
        · exact ⟨head, List.mem_append_right _ (List.mem_singleton_self _), rfl⟩
      rcases inside with earlier | listed
      · exact induction (.inl (grows earlier))
      · rcases List.mem_cons.mp listed with rfl | later
        · rcases covers with ⟨first, known, same⟩
          rcases induction (.inl known) with ⟨kept, member, equal⟩
          exact ⟨kept, member, equal.trans same⟩
        · exact induction (.inr later)

theorem withTitle_keptAxis (axis : Axis) : withTitle options (keptAxis axis) =
    .map (axis.toMembers.set "title" (options.labelAt axis.side)) := by
  rcases axis with ⟨side, scale, title, styling⟩
  cases side <;> rfl

/-- The axes of layers are titled, the first one of each side. -/
theorem firstAxes_drawn {axes : List Axis}
    (unstyled : ∀ axis ∈ axes, ∀ setting ∈ axis.styling, setting.1 ≠ "orient") :
    firstAxes (axes.map fun axis => .map axis.toMembers) options =
      .ok ((axes.foldl addSide []).map fun axis =>
        .map (axis.toMembers.set "title" (options.labelAt axis.side))) := by
  have folded := @foldlM_addAxis axes [] unstyled
  rw [List.map_nil] at folded
  unfold firstAxes
  rw [folded]
  dsimp only [bind, Except.bind, pure, Except.pure]
  rw [List.map_map]
  exact congrArg Except.ok (List.map_congr_left fun axis _ => withTitle_keptAxis axis)

end Assembly

/-! ## References of scales -/

namespace Scale

/-- A scale of a layer refers to what its range refers to, and to what is called in the labels that
it lists. -/
theorem Quiet.finds_iff {scale : Scale} (quiet : scale.Quiet table)
    (range : scale.range.toValue.RefersOnly [] allowed) :
    Finds References.ofScale allowed (.map scale.toMembers) ↔
      ∀ labels, scale.domain = .labels labels →
        ∀ label ∈ labels, ∀ name ∈ scaleCalls label, allowed name := by
  have unnamed : ∀ name, name ≠ "name" →
      Members.get? (scale.toMembers.filter fun member => member.1 ≠ "name") name =
        scale.toMembers.get? name := fun name other => Members.get?_filter other _
  have absent : ∀ name ∈ ["scale", "scales"], scale.toMembers.get? name = none := by
    simp [toMembers, Scale.settings, Members.get?_append, Members.get?_cons, Members.get?_optional]
  have undeclared := (unnamed "scales" (by decide)).trans (absent "scales" (by decide))
  have direct := (unnamed "scale" (by decide)).trans (absent "scale" (by decide))
  constructor
  · intro refers labels listed label inside
    have domain : scale.domain.toValue.RefersOnly [] allowed :=
      Value.RefersOnly.member refers ((unnamed "domain" (by decide)).trans rfl) (by decide)
        (References.ownScales_eq_nil undeclared)
    rw [listed] at domain
    have text := Value.RefersOnly.list_iff.mp domain _ (List.mem_map_of_mem inside)
    exact fun name called => Value.RefersOnly.text_iff.mp text name called List.not_mem_nil
  · intro called
    have kind : (Value.text scale.kind.text).RefersOnly [] allowed :=
      .word (by cases scale.kind <;> rfl)
    have domain : scale.domain.toValue.RefersOnly [] allowed := by
      rcases quiet.domain with ⟨_, listed⟩ | ⟨_, clear⟩
      · rw [listed]
        refine .list fun item inside => ?_
        rcases List.mem_map.mp inside with ⟨label, member, rfl⟩
        exact .text fun name call _ => called _ listed label member name call
      · exact ScaleDomain.refersOnly clear
    have others : Members.ReferOnly [] allowed ([("type", .text scale.kind.text),
        ("domain", scale.domain.toValue), ("range", scale.range.toValue)] ++ scale.settings) :=
      .append (.cons (fun _ => kind) (.cons (fun _ => domain) (.cons (fun _ => range) .nil)))
        fun setting inside _ => .of_isPlain (quiet.settings setting inside)
    refine Value.RefersOnly.map undeclared ?_ fun member inside named => ?_
    · unfold References.direct
      rw [direct]
      exact List.forall_mem_nil _
    · rcases List.mem_filter.mp inside with ⟨inside, other⟩
      rcases List.mem_cons.mp inside with rfl | inside
      · exact absurd rfl (of_decide_eq_true other)
      · exact others member inside named

end Scale

/-! ## Texts that a chart shows -/

/-- The texts of a user that a chart of some fragments shows: the titles of axes, and the names of
color groups. -/
inductive Chart.Shows (fragments : List Fragment) (options : ChartOptions) : String → Prop where
  | title {fragment : Fragment} {axis : Value} {side : Side} {text : String}
      (inside : fragment ∈ fragments) (drawn : axis ∈ fragment.axes)
      (placed : Assembly.sideOf axis = .ok (.text side.name))
      (titled : options.labelAt side = .text text) : Shows fragments options text
  | label {fragment : Fragment} {scale : Scale} {labels : List String} {label : String}
      (inside : fragment ∈ fragments) (declared : scale ∈ fragment.scales)
      (listed : scale.domain = .labels labels) (member : label ∈ labels) :
      Shows fragments options label

namespace Chart

variable {shown : List Drawing} {padding : Members} {axes : List Value} {title : Option Value}

/-- Of each side the first axis is shown, with the title of the chart. -/
theorem firstAxes_shown (quiet : ∀ drawing ∈ shown, drawing.Quiet table) :
    Assembly.firstAxes ((shown.map Drawing.toFragment).flatMap (·.axes)) options =
      .ok (((shown.flatMap (·.axes)).foldl Assembly.addSide []).map fun axis =>
        .map (axis.toMembers.set "title" (options.labelAt axis.side))) := by
  have rendered : (shown.map Drawing.toFragment).flatMap (·.axes) =
      (shown.flatMap (·.axes)).map fun axis => .map axis.toMembers := by
    rw [List.flatMap_map, List.map_flatMap]
    rfl
  rw [rendered]
  refine Assembly.firstAxes_drawn fun axis inside => ?_
  rcases List.mem_flatMap.mp inside with ⟨drawing, listed, member⟩
  exact (quiet drawing listed).axes axis member

/-- The titles of the axes are searched like everything else in them. -/
theorem axes_finds_iff (quiet : ∀ drawing ∈ shown, drawing.Quiet table)
    (fit : ∀ drawing ∈ shown, ∀ axis ∈ drawing.axes, axis.isClear = true ∧ allowed axis.scale.text)
    (placed : Assembly.firstAxes ((shown.map Drawing.toFragment).flatMap (·.axes)) options =
      .ok axes) :
    Finds (References.ofEach (References.within [])) allowed (.list axes) ↔
      ∀ drawing ∈ shown, ∀ axis ∈ drawing.axes,
        (options.labelAt axis.side).RefersOnly [] allowed := by
  rw [firstAxes_shown quiet, Except.ok.injEq] at placed
  subst placed
  constructor
  · intro finds drawing listed axis member
    obtain ⟨first, kept, same⟩ : ∃ first ∈ (shown.flatMap (·.axes)).foldl Assembly.addSide [],
        first.side = axis.side :=
      Assembly.side_foldl_addSide (.inr (List.mem_flatMap.mpr ⟨drawing, listed, member⟩))
    have inside := (Assembly.mem_foldl_addSide kept).resolve_left List.not_mem_nil
    rcases List.mem_flatMap.mp inside with ⟨other, known, brought⟩
    have titled := References.finds_ofEach.mp finds _ (List.mem_map_of_mem kept)
    have undeclared : (first.toMembers.set "title" (options.labelAt first.side)).get? "scales" =
        none := by
      rw [Members.get?_set_of_ne _ _ (by decide)]
      exact Axis.get?_scales (fit other known first brought).1
    rw [← same]
    exact Value.RefersOnly.member titled (Members.get?_set_self _ _ _) (by decide)
      (References.ownScales_eq_nil undeclared)
  · intro labels
    refine References.finds_ofEach.mpr fun value inside => ?_
    rcases List.mem_map.mp inside with ⟨axis, kept, rfl⟩
    have inside := (Assembly.mem_foldl_addSide kept).resolve_left List.not_mem_nil
    rcases List.mem_flatMap.mp inside with ⟨drawing, listed, member⟩
    rcases fit drawing listed axis member with ⟨clear, declared⟩
    refine (Axis.refersOnly clear fun _ => declared).set (by decide) fun own declares => ?_
    rw [References.ownScales_eq_nil (Axis.get?_scales clear)] at declares
    cases declares
    exact labels drawing listed axis member

theorem exists_firstScales {scales : List Scale} {scale : Scale} (inside : scale ∈ scales) :
    ∃ first ∈ (Assembly.firstScales scales).1, first.name = scale.name := by
  have named : scale.name ∈ (Assembly.firstScales scales).1.map (·.name) := by
    rw [Assembly.firstScales_names, mem_distinct]
    exact List.mem_map_of_mem inside
  exact List.mem_map.mp named

/-- The labels of the color groups are searched, whichever of the scales that list them is kept. -/
theorem scales_finds_iff (quiet : ∀ drawing ∈ shown, drawing.Quiet table)
    (range : ∀ drawing ∈ shown, ∀ scale ∈ drawing.scales,
      scale.range.toValue.RefersOnly [] allowed) :
    Finds (References.ofEach References.ofScale) allowed (.list
        ((Assembly.firstScales ((shown.map Drawing.toFragment).flatMap (·.scales))).1.map
          fun scale => .map scale.toMembers)) ↔
      ∀ drawing ∈ shown, ∀ scale ∈ drawing.scales, ∀ labels, scale.domain = .labels labels →
        ∀ label ∈ labels, ∀ name ∈ scaleCalls label, allowed name := by
  have brought : ∀ first ∈ (Assembly.firstScales
      ((shown.map Drawing.toFragment).flatMap (·.scales))).1,
        ∃ drawing ∈ shown, first ∈ drawing.scales := by
    intro first kept
    rcases List.mem_flatMap.mp (Assembly.mem_of_mem_firstScales kept) with ⟨_, listed, member⟩
    rcases List.mem_map.mp listed with ⟨drawing, inside, rfl⟩
    exact ⟨drawing, inside, member⟩
  rw [References.finds_ofEach, List.forall_mem_map]
  constructor
  · intro finds drawing listed scale member labels domain
    have inside : scale ∈ (shown.map Drawing.toFragment).flatMap (·.scales) :=
      List.mem_flatMap.mpr ⟨_, List.mem_map_of_mem listed, member⟩
    rcases exists_firstScales inside with ⟨first, kept, same⟩
    rcases brought first kept with ⟨other, known, firstMember⟩
    have firstQuiet := (quiet other known).scales first firstMember
    refine (firstQuiet.finds_iff (range other known first firstMember)).mp (finds first kept)
      labels ?_
    -- Another scale may be kept in its place. By its name it lists the color groups, too.
    rcases ((quiet drawing listed).scales scale member).domain with ⟨named, groups⟩ | ⟨_, clear⟩
    · rw [← domain, groups]
      exact (firstQuiet.domain.resolve_right fun other => other.1 (same ▸ named)).2
    · rw [domain] at clear
      cases clear
  · intro called first kept
    rcases brought first kept with ⟨drawing, listed, member⟩
    exact (((quiet drawing listed).scales first member).finds_iff
      (range drawing listed first member)).mpr (called drawing listed first member)

/-- What is drawn refers to what is allowed if and only if the texts of users do that. -/
theorem joined_refers_iff (silent : style.Silent)
    (each : ∀ drawing ∈ shown, drawing.Quiet table ∧ ∃ held, drawing.Fits table held style)
    (texts : ∀ side, ∃ text, options.labelAt side = .text text)
    (placed : Assembly.firstAxes ((shown.map Drawing.toFragment).flatMap (·.axes)) options =
      .ok axes)
    (declared : ∀ drawing ∈ shown, ∀ name ∈ drawing.scaleNames, allowed name) :
    (joined (shown.map Drawing.toFragment) table options style padding axes title).parts.ReferOnly
        allowed ↔
      ∀ text, Shows (shown.map Drawing.toFragment) options text →
        ∀ name ∈ scaleCalls text, allowed name := by
  have quiet := fun drawing listed => (each drawing listed).1
  have marks : Finds (References.ofEach (References.within [])) allowed
      (.list ((shown.map Drawing.toFragment).flatMap (·.marks))) := by
    refine References.finds_ofEach.mpr fun mark inside => ?_
    rcases List.mem_flatMap.mp inside with ⟨_, known, member⟩
    rcases List.mem_map.mp known with ⟨drawing, listed, rfl⟩
    rcases List.mem_map.mp member with ⟨graphic, drawn, rfl⟩
    rcases (each drawing listed).2 with ⟨held, fits⟩
    exact References.Finds.imp (fits.graphic_refersOnly silent graphic drawn)
      (declared drawing listed)
  have axes : ∀ drawing ∈ shown, ∀ axis ∈ drawing.axes,
      axis.isClear = true ∧ allowed axis.scale.text := by
    intro drawing listed axis member
    rcases (each drawing listed).2 with ⟨held, fits⟩
    have fitting := fits.axes axis member
    exact ⟨fitting.clear, declared drawing listed _ fitting.declared⟩
  have ranges : ∀ drawing ∈ shown, ∀ scale ∈ drawing.scales,
      scale.range.toValue.RefersOnly [] allowed := by
    intro drawing listed scale member
    rcases (each drawing listed).2 with ⟨held, fits⟩
    exact References.Finds.imp (fits.range_refersOnly silent scale member)
      (declared drawing listed)
  have legends : Finds (References.ofEach References.ofLegend) allowed (.list []) :=
    References.finds_ofEach.mpr (List.forall_mem_nil _)
  -- Marks and ranges refer to declared scales only, so that titles and labels are left.
  refine References.Parts.referOnly_iff.trans ((and_iff_right marks).trans ?_)
  rw [← and_assoc]
  refine (and_iff_left legends).trans
    ((and_congr (axes_finds_iff quiet axes placed) (scales_finds_iff quiet ranges)).trans ?_)
  constructor
  · rintro ⟨titles, labels⟩ text (⟨inside, drawn, atSide, titled⟩ | ⟨inside, member, listed, label⟩)
    · rcases List.mem_map.mp inside with ⟨drawing, listed, rfl⟩
      rcases List.mem_map.mp drawn with ⟨axis, member, rfl⟩
      have only := titles drawing listed axis member
      rw [Assembly.sideOf_toMembers ((quiet drawing listed).axes axis member), Except.ok.injEq,
        Value.text.injEq, Assembly.Side.name_inj] at atSide
      rw [atSide, titled] at only
      exact fun name called => Value.RefersOnly.text_iff.mp only name called List.not_mem_nil
    · rcases List.mem_map.mp inside with ⟨drawing, known, rfl⟩
      exact labels drawing known _ member _ listed _ label
  · intro called
    refine ⟨fun drawing listed axis member => ?_, fun drawing listed scale member labels domain
      label inside => ?_⟩
    · rcases texts axis.side with ⟨text, titled⟩
      have shows := called text (.title (List.mem_map_of_mem listed) (List.mem_map_of_mem member)
        (Assembly.sideOf_toMembers ((quiet drawing listed).axes axis member)) titled)
      rw [titled]
      exact .text fun name call _ => shows name call
    · exact called label (.label (List.mem_map_of_mem listed) member domain inside)

theorem joined_refused_iff (padding : Members) (title : Option Value) (silent : style.Silent)
    (each : ∀ drawing ∈ shown, drawing.Quiet table ∧ ∃ held, drawing.Fits table held style)
    (texts : ∀ side, ∃ text, options.labelAt side = .text text)
    (placed : Assembly.firstAxes ((shown.map Drawing.toFragment).flatMap (·.axes)) options =
      .ok axes) :
    (∃ problem, References.check (joined (shown.map Drawing.toFragment) table options style padding
        axes title).toMembers = .error (.brokenReferences problem)) ↔
      ∃ text, Shows (shown.map Drawing.toFragment) options text ∧ ∃ name ∈ scaleCalls text,
        name ∉ (shown.map Drawing.toFragment).flatMap (·.scaleNames) := by
  have names : ∀ name, name ∈ (joined (shown.map Drawing.toFragment) table options style padding
      axes title).scaleNames ↔ name ∈ (shown.map Drawing.toFragment).flatMap (·.scaleNames) := by
    intro name
    rw [scaleNames_joined, mem_distinct]
  have declared : ∀ drawing ∈ shown, ∀ name ∈ drawing.scaleNames,
      name ∈ (shown.map Drawing.toFragment).flatMap (·.scaleNames) :=
    fun drawing listed name inside =>
      List.mem_flatMap.mpr ⟨_, List.mem_map_of_mem listed, inside⟩
  have once : (joined (shown.map Drawing.toFragment) table options style padding axes
      title).scaleNames.Nodup := by
    rw [scaleNames_joined]
    exact nodup_distinct _
  have searched : (joined (shown.map Drawing.toFragment) table options style padding axes
      title).parts.ReferOnly fun _ => True :=
    (joined_refers_iff silent each texts placed fun _ _ _ _ => trivial).mpr
      fun _ _ _ _ => trivial
  rw [check_refused_iff once searched]
  simp only [names]
  rw [joined_refers_iff silent each texts placed declared]
  simp only [not_forall, exists_prop]

end Chart

/-- A plot whose layers are drawn is refused because of its references if and only if the title of
an axis or the name of a color group calls a scale that no layer declares. -/
theorem PlotDescriptor.refused_iff {descriptor : PlotDescriptor} {table : Table}
    {analysis : LayerAnalysis} {fragments : List Fragment} {notes : List Diagnostic}
    {padding : Members} {title : Option Value} (silent : style.Silent)
    (projected : (Table.project descriptor.bindings).Returns table)
    (analyzed : (LayerAnalysis.ofMarkers descriptor.layers).Returns analysis)
    (drew : (Compilation.drawAll table { style, jitterSeed := options.jitterSeed }
      analysis.requests).Returns (fragments, notes))
    (padded : style.padding.documentMembers = .ok padding)
    (titled : options.shownTitle? = .ok title)
    (texts : ∀ side, ∃ text, options.labelAt side = .text text) :
    (∃ problem, (descriptor.compile options style).Fails (.brokenReferences problem)) ↔
      ∃ text, Chart.Shows (Chart.drawn fragments) options text ∧ ∃ name ∈ scaleCalls text,
        name ∉ (Chart.drawn fragments).flatMap (·.scaleNames) := by
  rcases (Compilation.drawAll_drawn drew).1 with ⟨drawings, _, drawn, rfl⟩
  -- What is shown is joined from drawings again: those that are not empty.
  obtain ⟨shown, each, shows⟩ : ∃ shown : List Drawing,
      (∀ drawing ∈ shown, drawing.Quiet table ∧ ∃ held, drawing.Fits table held style) ∧
        Chart.drawn (drawings.map (·.2.toFragment)) = shown.map Drawing.toFragment := by
    refine ⟨(drawings.filter fun entry => !entry.2.isEmpty).map (·.2), ?_, ?_⟩
    · rintro drawing inside
      rcases List.mem_map.mp inside with ⟨entry, kept, rfl⟩
      have drawn := drawn entry (List.mem_filter.mp kept).1
      rcases drawn.fits with ⟨held, fits, _⟩
      exact ⟨drawn.quiet, held, fits⟩
    · rw [List.map_map]
      exact Compilation.filter_toFragment drawings
  have placed := @Chart.firstAxes_shown table options shown fun drawing listed =>
    (each drawing listed).1
  rw [shows, ← Chart.joined_refused_iff padding title silent each texts placed]
  refine exists_congr fun problem => ?_
  rw [compile_fails_iff projected analyzed drew, Chart.assemble_fails_iff, shows]
  have unrefused : ∀ chart : Chart,
      ¬ (chart.withLegend style options.interactive).Fails (.brokenReferences problem) :=
    fun chart => chart.withLegend_intact style options.interactive problem
  simp only [padded, placed, titled, unrefused, Except.ok.injEq, reduceCtorEq, false_or, or_false,
    and_false, exists_false, exists_eq_left']

/-- A title of the x axis that calls a scale. -/
def speedOptions : ChartOptions := { xLabel := .text "scale('speed')" }

/-- The bars have an axis at the bottom that is given the title. -/
theorem PlotDescriptor.refused_iff_title :
    ∃ problem, (groupedDescriptor.compile speedOptions).Fails (.brokenReferences problem) := by
  have texts : ∀ side, ∃ text, speedOptions.labelAt side = .text text := by
    rintro (_ | _)
    · exact ⟨_, rfl⟩
    · exact ⟨_, rfl⟩
  have decided : (∃ problem, (groupedDescriptor.compile speedOptions).Fails
      (.brokenReferences problem)) ↔ _ :=
    refused_iff Style.standard_silent groupedBindings_projected rfl rfl rfl rfl texts
  refine decided.mpr ⟨"scale('speed')", ?_, "speed", by decide +kernel, by decide⟩
  exact @Chart.Shows.title _ _ _ _ .bottom _ (List.mem_cons_self ..) (List.mem_cons_self ..) rfl rfl

/-- The plot with another name for its second color group. -/
def renamedDescriptor (name : String) : PlotDescriptor :=
  ⟨renamedBindings name, groupedDescriptor.layers⟩

/-- A plot that compiles is refused with another title of an axis, and with another name of a color
group. -/
theorem PlotDescriptor.refused_for_texts :
    ((∃ compilation, groupedDescriptor.compile.Returns compilation) ∧
        (groupedDescriptor.compile speedOptions).Fails
          (.brokenReferences (.undeclared ["speed"]))) ∧
      (∃ compilation, (renamedDescriptor "h").compile.Returns compilation) ∧
        (renamedDescriptor "scale('speed')").compile.Fails
          (.brokenReferences (.undeclared ["speed"])) := by
  have told : sortedTexts ["speed"] = ["speed"] := List.mergeSort_singleton _
  have sorted : ∀ name ∈ ["h", "scale('speed')"], colorDomain ["g", name] false = ["g", name] := by
    have plain : ∀ name ∈ ["h", "scale('speed')"], ["g", name].Nodup ∧
        ["g", name].Pairwise fun first second => textAtMost first second = true := by
      decide +kernel
    intro name listed
    unfold colorDomain
    rw [distinct_of_nodup (plain name listed).1]
    exact List.mergeSort_of_pairwise (plain name listed).2
  rw [← told]
  refine ⟨⟨⟨_, compile_returns groupedBindings_projected rfl rfl rfl rfl⟩,
    compile_fails groupedBindings_projected rfl rfl rfl⟩,
    ⟨_, compile_returns (renamedBindings_projected (sorted "h" (by decide))) rfl rfl rfl rfl⟩, ?_⟩
  exact compile_fails (renamedBindings_projected (sorted "scale('speed')" (by decide))) rfl rfl rfl

end ChartCompiler
