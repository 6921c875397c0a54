import ChartCompiler.Proofs.Chart.Checked
import ChartCompiler.Proofs.Chart.Compiled
import ChartCompiler.Proofs.Chart.Sources
import ChartCompiler.Proofs.References.Intact
import ChartCompiler.Proofs.References.Selection
import ChartCompiler.Proofs.Text.Distinct

/-!
# Closed fragments assemble

Fragments that refer to their own scales only are joined into a chart that does so, whatever is left
out because another fragment brought it before. A legend keeps it that way.
-/

namespace ChartCompiler

open References (Finds)

variable {allowed : String → Prop}

theorem References.Finds.imp {search : Value → Except Failure (List String)} {value : Value}
    {fewer more : String → Prop} (finds : Finds search fewer value)
    (each : ∀ name, fewer name → more name) : Finds search more value := by
  rcases finds with ⟨names, found, good⟩
  exact ⟨names, found, fun name inside => each name (good name inside)⟩

/-! ## Closed fragments -/

namespace Fragment

/-- The parts of a fragment that may refer to scales. -/
def parts (fragment : Fragment) : References.Parts :=
  { marks := .list fragment.marks
    axes := .list fragment.axes
    scales := .list (fragment.scales.map fun scale => .map scale.toMembers) }

/-- Whether a fragment refers to no other scales than those that it declares. -/
def Closed (fragment : Fragment) : Prop := fragment.parts.ReferOnly (· ∈ fragment.scaleNames)

end Fragment

/-! ## Merged scales and axes -/

namespace Assembly

theorem find?_name_eq_none_iff {scales : List Scale} {name : String} :
    scales.find? (fun scale => scale.name = name) = none ↔ name ∉ scales.map (·.name) := by
  simp only [List.find?_eq_none, decide_eq_true_eq, List.mem_map, not_exists, not_and]

theorem addScale_names (state : List Scale × List Diagnostic) (scale : Scale) :
    (addScale state scale).1.map (·.name) = if scale.name ∈ state.1.map (·.name) then
      state.1.map (·.name) else state.1.map (·.name) ++ [scale.name] := by
  unfold addScale
  dsimp only
  split
  · next fresh => rw [if_neg (find?_name_eq_none_iff.mp fresh), List.map_append, List.map_singleton]
  · next first known =>
      have inside : scale.name ∈ state.1.map (·.name) := by
        by_contra fresh
        rw [find?_name_eq_none_iff.mpr fresh] at known
        cases known
      rw [if_pos inside]
      split <;> rfl

/-- Of each name the first scale is kept. -/
theorem firstScales_names (scales : List Scale) :
    (firstScales scales).1.map (·.name) = distinct (scales.map (·.name)) := by
  induction scales using List.reverseRecOn with
  | nil => rfl
  | append_singleton before last induction =>
      rw [List.map_append, List.map_singleton, distinct_append_singleton, ← induction,
        ← addScale_names]
      unfold firstScales
      rw [List.foldl_append]
      rfl

theorem addAxis_mem {kept result : List (Value × Members)} {axis : Value}
    (added : addAxis kept axis = .ok result) {entry : Value × Members} (inside : entry ∈ result) :
    entry ∈ kept ∨ axis = .map entry.2 := by
  rcases (bind_eq_ok_iff _ _ _).mp added with ⟨side, _, added⟩
  rcases (bind_eq_ok_iff _ _ _).mp added with ⟨members, whole, equal⟩
  cases equal
  split at inside
  · exact .inl inside
  · refine (List.mem_append.mp inside).imp_right fun new => ?_
    rw [List.mem_singleton.mp new]
    cases axis with
    | map content => rw [Except.ok.inj whole]
    | _ => cases whole

/-- Each axis of a chart is one that a layer brought, which may have been given a title. -/
theorem firstAxes_mem {axes shown : List Value} {options : ChartOptions}
    (returned : firstAxes axes options = .ok shown) {axis : Value} (inside : axis ∈ shown) :
    ∃ side members, .map members ∈ axes ∧ axis = withTitle options (side, members) := by
  rcases (bind_eq_ok_iff _ _ _).mp returned with ⟨kept, folded, equal⟩
  cases equal
  rcases List.mem_map.mp inside with ⟨entry, listed, rfl⟩
  have known : ∀ {axes : List Value} {state : List (Value × Members)},
      axes.foldlM addAxis state = .ok kept → entry ∈ state ∨ .map entry.2 ∈ axes := by
    intro axes
    induction axes with
    | nil =>
        intro state folded
        cases folded
        exact .inl listed
    | cons axis rest induction =>
        intro state folded
        rw [List.foldlM_cons] at folded
        rcases (bind_eq_ok_iff _ _ _).mp folded with ⟨middle, added, folded⟩
        rcases induction folded with earlier | later
        · rcases addAxis_mem added earlier with known | rfl
          · exact .inl known
          · exact .inr (List.mem_cons_self ..)
        · exact .inr (List.mem_cons_of_mem _ later)
  exact ⟨entry.1, entry.2, (known folded).resolve_left List.not_mem_nil, rfl⟩

/-- An axis stays as it is, or gets a title of the chart. -/
theorem withTitle_eq (options : ChartOptions) (axis : Value × Members) :
    withTitle options axis = .map axis.2 ∨ ∃ label ∈ [options.xLabel, options.yLabel],
      withTitle options axis = .map (axis.2.set "title" label) := by
  unfold withTitle
  split
  · split
    · exact .inr ⟨_, List.mem_cons_self, rfl⟩
    · split
      · exact .inr ⟨_, List.mem_cons_of_mem _ List.mem_cons_self, rfl⟩
      · exact .inl rfl
  · exact .inl rfl

/-- A title that refers to nothing adds nothing to an axis. -/
theorem withTitle_refersOnly {options : ChartOptions} (xSilent : options.xLabel.RefersToNothing)
    (ySilent : options.yLabel.RefersToNothing) {hidden : List String} {side : Value}
    {members : Members} (refers : (Value.map members).RefersOnly hidden allowed) :
    (withTitle options (side, members)).RefersOnly hidden allowed := by
  have silent : ∀ label ∈ [options.xLabel, options.yLabel], label.RefersToNothing :=
    List.forall_mem_cons.mpr ⟨xSilent, List.forall_mem_singleton.mpr ySilent⟩
  rcases withTitle_eq options (side, members) with kept | ⟨label, either, titled⟩
  · exact kept ▸ refers
  · exact titled ▸ refers.set (by decide) fun _ _ => (silent label either).refersOnly

end Assembly

/-! ## Assembly -/

namespace Chart

/-- The chart that fragments with marks are joined into. -/
def joined (shown : List Fragment) (table : Table) (options : ChartOptions) (style : Style)
    (padding : Members) (axes : List Value) (title : Option Value) : Chart :=
  { schema := style.schema
    width := options.width
    height := options.height
    padding
    title
    data := (Assembly.tableRows table :: (mergedSources shown).1).map
      fun source => .map source.toMembers
    scales := (mergedScales shown).1
    axes
    marks := shown.flatMap (·.marks)
    colorDomain := table.colorDomain }

variable {fragments : List Fragment} {table : Table} {options : ChartOptions} {style : Style}

/-- The fragments that have marks. -/
def drawn (fragments : List Fragment) : List Fragment :=
  fragments.filter fun fragment => !fragment.isEmpty

/-- The reasons for which an assembly may fail: its padding, its axes and its title must be
readable, and its references must be in order. -/
theorem assemble_fails_iff {failure : Failure} :
    (assemble fragments table options style).Fails failure ↔
      style.padding.documentMembers = .error failure ∨
      ∃ padding, style.padding.documentMembers = .ok padding ∧
        (Assembly.firstAxes ((drawn fragments).flatMap (·.axes)) options = .error failure ∨
        ∃ axes, Assembly.firstAxes ((drawn fragments).flatMap (·.axes)) options = .ok axes ∧
          (options.shownTitle? = .error failure ∨
          ∃ title, options.shownTitle? = .ok title ∧
            References.check (joined (drawn fragments) table options style padding axes
              title).toMembers = .error failure)) := by
  have reported : ∀ notes, ¬ (Assembly.report notes).Fails failure :=
    fun notes => (report_returns notes).not_fails failure
  have told : ∀ notes done, (Assembly.report notes).Returns done :=
    fun notes _ => report_returns notes
  have counted : ∀ chart layers, ¬ (Assembly.reportChart chart layers).Fails failure := by
    intro chart layers
    simp only [Assembly.reportChart, Run.fails_info, not_false_eq_true]
  unfold assemble
  simp only [Run.fails_bind, Run.fails_lift, Run.fails_pure, Run.returns_lift, reported, told,
    counted, false_or, exists_const, true_and, and_false, or_false]
  exact Iff.rfl

variable {shown : List Fragment} {padding : Members} {axes : List Value} {title : Option Value}

/-- A chart declares what its fragments declare, each name once. -/
theorem scaleNames_joined : (joined shown table options style padding axes title).scaleNames =
    distinct (shown.flatMap (·.scaleNames)) := by
  refine (Assembly.firstScales_names _).trans (congrArg distinct ?_)
  rw [List.map_flatMap]
  rfl

/-- What closed fragments are joined into passes the check. -/
theorem joined_checked (closed : ∀ fragment ∈ shown, fragment.Closed)
    (xSilent : options.xLabel.RefersToNothing) (ySilent : options.yLabel.RefersToNothing)
    (placed : Assembly.firstAxes (shown.flatMap (·.axes)) options = .ok axes) :
    References.check (joined shown table options style padding axes title).toMembers = .ok () := by
  have declared : ∀ fragment ∈ shown, ∀ name, name ∈ fragment.scaleNames →
      name ∈ (joined shown table options style padding axes title).scaleNames := by
    intro fragment listed name inside
    rw [scaleNames_joined, mem_distinct]
    exact List.mem_flatMap.mpr ⟨fragment, listed, inside⟩
  have parts := fun fragment listed => References.Parts.referOnly_iff.mp (closed fragment listed)
  refine (check_eq_ok_iff _).mpr ⟨?_, References.Parts.referOnly_iff.mpr ⟨?_, ?_, ?_, ?_⟩⟩
  · rw [scaleNames_joined]
    exact nodup_distinct _
  · refine References.finds_ofEach.mpr fun mark inside => ?_
    rcases List.mem_flatMap.mp inside with ⟨fragment, listed, member⟩
    exact (References.finds_ofEach.mp (parts fragment listed).1 mark member).imp
      (declared fragment listed)
  · refine References.finds_ofEach.mpr fun axis inside => ?_
    rcases Assembly.firstAxes_mem placed inside with ⟨side, members, given, rfl⟩
    rcases List.mem_flatMap.mp given with ⟨fragment, listed, member⟩
    exact Assembly.withTitle_refersOnly xSilent ySilent
      ((References.finds_ofEach.mp (parts fragment listed).2.1 _ member).imp
        (declared fragment listed))
  · refine References.finds_ofEach.mpr fun value inside => ?_
    rcases List.mem_map.mp inside with ⟨scale, kept, rfl⟩
    rcases List.mem_flatMap.mp (Assembly.mem_of_mem_firstScales kept) with
      ⟨fragment, listed, member⟩
    have finds := References.finds_ofEach.mp (parts fragment listed).2.2.1
    exact (finds _ (List.mem_map_of_mem member)).imp (declared fragment listed)
  · exact References.finds_ofEach.mpr (List.forall_mem_nil _)

/-- Closed fragments assemble, if the padding, the axes and the title of the chart can be read. -/
theorem assemble_fails_of_closed (closed : ∀ fragment ∈ fragments, fragment.Closed)
    (xSilent : options.xLabel.RefersToNothing) (ySilent : options.yLabel.RefersToNothing)
    {failure : Failure} (failed : (assemble fragments table options style).Fails failure) :
    style.padding.documentMembers = .error failure ∨
      Assembly.firstAxes ((drawn fragments).flatMap (·.axes)) options = .error failure ∨
      options.shownTitle? = .error failure := by
  rcases assemble_fails_iff.mp failed with
    padding | ⟨padding, _, axes | ⟨axes, placed, title | ⟨title, _, broken⟩⟩⟩
  · exact .inl padding
  · exact .inr (.inl axes)
  · exact .inr (.inr title)
  · have checked : References.check (joined (drawn fragments) table options style padding axes
        title).toMembers = .ok () :=
      joined_checked (fun fragment inside => closed fragment (List.mem_filter.mp inside).1)
        xSilent ySilent placed
    cases checked.symm.trans broken

/-! ## Legends -/

/-- A legend that shows the color scale, with an encoding of its own. -/
theorem finds_ofLegend {members : Members} (colored : allowed ScaleName.color.text)
    (shown : References.textsOf (References.legendScaleMembers.filterMap members.get?) =
      [ScaleName.color.text])
    (encode : ((members.get? "encode").getD (.map [])).RefersOnly [] allowed) :
    Finds References.ofLegend allowed (.map members) := by
  rcases encode with ⟨names, found, good⟩
  refine ⟨ScaleName.color.text :: names, ?_, List.forall_mem_cons.mpr ⟨colored, good⟩⟩
  unfold References.ofLegend
  rw [show (Value.map members).membersOf = .ok members from rfl]
  dsimp only [bind, Except.bind]
  rw [shown, found]
  rfl

theorem plainLegend_finds (colored : allowed ScaleName.color.text) :
    Finds References.ofLegend allowed Legend.plainLegend :=
  finds_ofLegend colored rfl (.map rfl (List.forall_mem_nil _) .nil)

theorem legendPart_refersOnly {hidden : List String} {name : String} {update : Members}
    (word : Expr.isField name = true) (updated : (Value.map update).RefersOnly hidden allowed) :
    (Legend.legendPart name update).RefersOnly hidden allowed :=
  .map rfl (List.forall_mem_nil _) (.cons (fun _ => .word word) (.cons (fun _ => .bool true)
    (.cons (fun _ => updated) .nil)))

theorem selectionLegend_finds (quiet : style.QuietSelection)
    (colored : allowed ScaleName.color.text) :
    Finds References.ofLegend allowed (Legend.selectionLegend style) := by
  have number : ∀ value, (Value.number value).RefersToNothing := fun _ => rfl
  have word : (Value.text "transparent").RefersToNothing :=
    (Value.refersToNothing_text _).mpr (by decide +kernel)
  have opacity : (Legend.selectionOpacity Legend.entryTest style).RefersOnly [] allowed :=
    Legend.selectionOpacity_refersOnly quiet Legend.entryTest_refersToNothing
  refine finds_ofLegend colored rfl (.map rfl (List.forall_mem_nil _) (.cons (fun _ => ?_)
    (.cons (fun _ => ?_) .nil)))
  · refine legendPart_refersOnly (by decide +kernel) (.map rfl (List.forall_mem_nil _) ?_)
    exact .cons (fun _ => Legend.constant_refersOnly word)
      (.cons (fun _ => Legend.constant_refersOnly (number _))
        (.cons (fun _ => opacity) (.cons (fun _ => Legend.constant_refersOnly (number _)) .nil)))
  · refine legendPart_refersOnly (by decide +kernel) (.map rfl (List.forall_mem_nil _) ?_)
    exact .cons (fun _ => Legend.constants_refersOnly Legend.entryTest_refersToNothing (number _)
      (number _)) .nil

theorem color_declared {chart : Chart} (needed : chart.needsLegend = true) :
    ScaleName.color.text ∈ chart.scaleNames := by
  unfold needsLegend hasColorScale scale? at needed
  rcases Option.isSome_iff_exists.mp (Bool.and_eq_true_iff.mp needed).1 with ⟨scale, found⟩
  have named : scale.name = ScaleName.color.text := by simpa using List.find?_some found
  exact List.mem_map.mpr ⟨scale, List.mem_of_find?_eq_some found, named⟩

/-- A chart with another legend and other marks passes the check if these refer to its scales. -/
theorem checked_of_marks {chart result : Chart}
    (checked : References.check chart.toMembers = .ok ()) (scales : result.scales = chart.scales)
    (axes : result.axes = chart.axes)
    (marks : (∀ mark ∈ chart.marks, mark.RefersOnly [] (· ∈ chart.scaleNames)) →
      ∀ mark ∈ result.marks, mark.RefersOnly [] (· ∈ chart.scaleNames))
    (legends : ∀ legend ∈ result.legends,
      Finds References.ofLegend (· ∈ chart.scaleNames) legend) :
    References.check result.toMembers = .ok () := by
  have names : result.scaleNames = chart.scaleNames := congrArg (List.map _) scales
  rcases (check_eq_ok_iff chart).mp checked with ⟨once, refer⟩
  rcases References.Parts.referOnly_iff.mp refer with ⟨inMarks, inAxes, inScales, _⟩
  refine (check_eq_ok_iff result).mpr ⟨names ▸ once, ?_⟩
  rw [names]
  refine References.Parts.referOnly_iff.mpr ⟨?_, ?_, ?_, References.finds_ofEach.mpr legends⟩
  · exact References.finds_ofEach.mpr (marks (References.finds_ofEach.mp inMarks))
  · rw [show result.parts.axes = chart.parts.axes from congrArg Value.list axes]
    exact inAxes
  · unfold parts
    rw [scales]
    exact inScales

/-- A legend keeps the references of a chart in order. -/
theorem withLegend_checked {chart result : Chart} {interactive : Value}
    (quiet : style.QuietSelection) (checked : References.check chart.toMembers = .ok ())
    (returned : (chart.withLegend style interactive).Returns result) :
    References.check result.toMembers = .ok () := by
  unfold withLegend at returned
  split at returned
  · cases returned
    exact checked
  · next needless =>
      have colored : ScaleName.color.text ∈ chart.scaleNames :=
        color_declared (by simpa using needless)
      simp only [Run.returns_bind, Run.returns_lift] at returned
      rcases returned with ⟨choice, _, returned⟩
      split at returned
      · simp only [Run.returns_bind, Run.returns_pure] at returned
        rcases returned with ⟨_, _, rfl⟩
        exact checked_of_marks checked rfl rfl id
          (List.forall_mem_singleton.mpr (plainLegend_finds colored))
      · simp only [Run.returns_bind, Run.returns_lift, Run.returns_pure] at returned
        rcases returned with ⟨⟨marks, count⟩, followed, _, _, rfl⟩
        exact checked_of_marks checked rfl rfl
          (Legend.selectableMarks_refersOnly quiet colored followed)
          (List.forall_mem_singleton.mpr (selectionLegend_finds quiet colored))

/-- Closed fragments assemble, unless the padding, the axes or the title of the chart cannot be
read, and references are never the reason. Whatever chart is in order stays so with its legend. -/
theorem references_kept (quiet : style.QuietSelection) :
    (∀ (fragments : List Fragment) (table : Table) (options : ChartOptions),
      (∀ fragment ∈ fragments, fragment.Closed) → options.xLabel.RefersToNothing →
      options.yLabel.RefersToNothing →
      ∀ failure, (assemble fragments table options style).Fails failure →
        (style.padding.documentMembers = .error failure ∨
          Assembly.firstAxes ((drawn fragments).flatMap (·.axes)) options = .error failure ∨
          options.shownTitle? = .error failure) ∧
        ∀ problem, failure ≠ .brokenReferences problem) ∧
    ∀ (chart result : Chart) (interactive : Value), References.check chart.toMembers = .ok () →
      (chart.withLegend style interactive).Returns result →
      References.check result.toMembers = .ok () := by
  refine ⟨fun fragments table options closed xSilent ySilent failure failed => ?_,
    fun chart result interactive checked returned => withLegend_checked quiet checked returned⟩
  have reasons := assemble_fails_of_closed closed xSilent ySilent failed
  refine ⟨reasons, ?_⟩
  rintro problem rfl
  rcases reasons with padding | axes | title
  · exact style.padding.documentMembers_intact problem padding
  · exact Assembly.firstAxes_intact _ _ problem axes
  · exact options.shownTitle?_intact problem title

/-! ## Two layers that disagree -/

/-- Points in the color of their group. -/
def pointsFragment : Fragment :=
  { marks := [.map [("type", .text "symbol"), ("encode", .map [("enter", .map [
      ("x", .map [("scale", .text "xscale"), ("field", .text "x")]),
      ("fill", .map [("scale", .text "color"), ("field", .text "color")])])])]]
    scales := [
      { name := "xscale", kind := .continuous, domain := .field "table" "x" false,
        range := .extent .width },
      { name := "color", kind := .ordinal, domain := .labels ["g", "h"],
        range := .colors [.text "red", .text "blue"] }]
    axes := [.map [("orient", .text "bottom"), ("scale", .text "xscale")]] }

/-- Bars that are placed by the scale of the chart and by that of their group. -/
def bandsMark : Value :=
  let place : Value := .text "scale('xscale', datum.x) + bandwidth('inner')"
  .map [("type", .text "rect"),
    ("encode", .map [("update", .map [("x", .map [("signal", place)])])])]

/-- A group over the same places, which are bands for it. -/
def bandsFragment : Fragment :=
  { marks := [.map [("type", .text "group"), ("scales", .list [.map [("name", .text "inner")]]),
      ("marks", .list [bandsMark])]]
    scales := [
      { name := "xscale", kind := .banded, domain := .field "table" "x" true,
        range := .extent .width }]
    axes := [.map [("orient", .text "bottom"), ("scale", .text "xscale"),
      ("title", .text "range('xscale')")]] }

theorem pointsFragment_closed : pointsFragment.Closed :=
  ⟨["xscale", "color", "xscale"], by rfl, by decide⟩

theorem bandsFragment_closed : bandsFragment.Closed :=
  ⟨["xscale", "xscale", "xscale"], by rfl, by decide⟩

/-- Layers that disagree assemble with a conflict, and their chart stays in order when a legend is
added. A padding that is no document is what fails the assembly, if anything does. -/
theorem references_kept_bands :
    (∃ chart notes result,
      (assemble [pointsFragment, bandsFragment] groupedTable {} {}).Returns (chart, notes) ∧
        notes.map (·.kind) = ["scale-conflict"] ∧
        (chart.withLegend {} (.bool true)).Returns result ∧
        References.check result.toMembers = .ok ()) ∧
    (assemble [pointsFragment, bandsFragment] groupedTable {} { padding := .null }).Fails
        .unsupportedKind ∧
      ∀ problem, Failure.unsupportedKind ≠ .brokenReferences problem := by
  have closed : ∀ fragment ∈ [pointsFragment, bandsFragment], fragment.Closed :=
    List.forall_mem_cons.mpr
      ⟨pointsFragment_closed, List.forall_mem_singleton.mpr bandsFragment_closed⟩
  have silent : ∀ label ∈ ["x-axis", "y-axis"], (Value.text label).RefersToNothing := by
    simp only [Value.refersToNothing_text]
    decide +kernel
  have xSilent := silent "x-axis" (by decide)
  have ySilent := silent "y-axis" (by decide)
  have checked : References.check (joined [pointsFragment, bandsFragment] groupedTable {} {}
      standardPadding _ none).toMembers = .ok () :=
    joined_checked closed xSilent ySilent rfl
  refine ⟨⟨_, _, _, rfl, rfl, rfl,
    (references_kept Style.standard_quiet).2 _ _ (.bool true) checked rfl⟩, rfl, ?_⟩
  have quiet : ({ padding := .null } : Style).QuietSelection :=
    ⟨Style.standard_quiet.neutral, Style.standard_quiet.selected, Style.standard_quiet.unselected⟩
  exact ((references_kept quiet).1 _ groupedTable {} closed xSilent ySilent _ rfl).2

end Chart

end ChartCompiler
