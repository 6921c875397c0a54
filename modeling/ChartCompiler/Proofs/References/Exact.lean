import ChartCompiler.Proofs.Chart.Checked
import ChartCompiler.Proofs.References.Occurrence
import ChartCompiler.Proofs.Text.Distinct

/-!
# The check of references

A document refers to the names that occur in its marks, its axes, the settings of its scales and the
encodings of its legends, and to those that its legends show. The check passes exactly if each scale
is declared once and all names that are referred to are declared; otherwise it tells which are not.
-/

namespace ChartCompiler

namespace References

/-- The parts of a document as lists. -/
structure Content where
  marks : List Value := []
  axes : List Value := []
  scales : List Members := []
  legends : List Members := []

namespace Content

def parts (content : Content) : Parts :=
  { marks := .list content.marks
    axes := .list content.axes
    scales := .list (content.scales.map .map)
    legends := .list (content.legends.map .map) }

/-- The names of the scales that a document declares. -/
def declared (content : Content) : List String := textsOf (content.scales.filterMap (·.get? "name"))

/-- A scale without its name. -/
def settingsOf (scale : Members) : Value := .map (scale.filter fun member => member.1 ≠ "name")

/-- Whether all lists of scales in a document name their scales. -/
structure Named (content : Content) : Prop where
  marks : ∀ mark ∈ content.marks, NamesScales mark
  axes : ∀ axis ∈ content.axes, NamesScales axis
  scales : ∀ scale ∈ content.scales, NamesScales (settingsOf scale)
  names : ∀ scale ∈ content.scales, ∃ name, scale.get? "name" = some (.text name)
  legends : ∀ legend ∈ content.legends, ∀ encode ∈ legend.get? "encode", NamesScales encode

/-- Whether a legend shows the scale of a name, or its encoding refers to it. -/
def LegendRefers (legend : Members) (name : String) : Prop :=
  (∃ channel ∈ legendScaleMembers, legend.get? channel = some (.text name)) ∨
    ∃ encode, legend.get? "encode" = some encode ∧ OccursFree name encode

/-- Whether a document refers to a name. -/
inductive Refers (content : Content) (name : String) : Prop
  | mark {mark : Value} : mark ∈ content.marks → OccursFree name mark → Refers content name
  | axis {axis : Value} : axis ∈ content.axes → OccursFree name axis → Refers content name
  | scale {scale : Members} :
      scale ∈ content.scales → OccursFree name (settingsOf scale) → Refers content name
  | legend {legend : Members} :
      legend ∈ content.legends → LegendRefers legend name → Refers content name

end Content

/-! ## The names in the parts of a document -/

variable {content : Content}

theorem finds_ofEach_exactly {search : Value → Except Failure (List String)} {view : α → Value}
    {items : List α} {holds : α → String → Prop}
    (each : ∀ item ∈ items, FindsExactly (search (view item)) [] (holds item)) :
    FindsExactly (ofEach search (.list (items.map view))) [] fun name =>
      ∃ item ∈ items, holds item name := by
  change FindsExactly ((items.map view).mapM search >>= fun found => .ok found.flatten) [] _
  induction items with
  | nil => exact ⟨[], rfl, by simp⟩
  | cons item rest induction =>
      rcases List.forall_mem_cons.mp each with ⟨⟨own, first, ownExact⟩, others⟩
      rcases induction others with ⟨names, searched, exact⟩
      rcases (bind_eq_ok_iff _ _ _).mp searched with ⟨listed, following, equal⟩
      cases equal
      refine ⟨own ++ listed.flatten, ?_, fun name => ?_⟩
      · rw [List.map_cons, List.mapM_cons, first, following]
        rfl
      · rw [List.mem_append, ownExact, exact, ← and_or_left]
        simp

theorem finds_ofLegend_exactly {legend : Members}
    (named : ∀ encode ∈ legend.get? "encode", NamesScales encode) :
    FindsExactly (ofLegend (.map legend)) [] (Content.LegendRefers legend) := by
  have encoded : FindsExactly (within [] ((legend.get? "encode").getD (.map []))) []
      fun name => ∃ encode, legend.get? "encode" = some encode ∧ OccursFree name encode := by
    cases found : legend.get? "encode" with
    | none =>
        refine ⟨[], rfl, fun name => ⟨fun no => (by cases no), ?_⟩⟩
        rintro ⟨_, _, ⟨⟩, _⟩
    | some encode =>
        refine (within_exact (named encode found) []).congr fun name => ?_
        simp
  rcases encoded with ⟨names, found, exact⟩
  refine ⟨textsOf (legendScaleMembers.filterMap legend.get?) ++ names, ?_, fun name => ?_⟩
  · unfold ofLegend
    change (within [] ((legend.get? "encode").getD (.map [])) >>= fun inner =>
      .ok (textsOf (legendScaleMembers.filterMap legend.get?) ++ inner)) = _
    rw [found]
    rfl
  · rw [List.mem_append, mem_textsOf, List.mem_filterMap, exact, and_iff_right List.not_mem_nil,
      and_iff_right List.not_mem_nil]
    rfl

/-- The search through a document finds exactly what it refers to. -/
theorem ofParts_exact (named : content.Named) :
    ∃ names, ofParts content.parts = .ok names ∧ ∀ name, name ∈ names ↔ content.Refers name := by
  have marks : FindsExactly (ofEach (within []) (.list (content.marks.map id))) [] _ :=
    finds_ofEach_exactly fun mark inside => within_exact (named.marks mark inside) []
  have axes : FindsExactly (ofEach (within []) (.list (content.axes.map id))) [] _ :=
    finds_ofEach_exactly fun axis inside => within_exact (named.axes axis inside) []
  have scales : FindsExactly (ofEach ofScale (.list (content.scales.map .map))) [] _ :=
    finds_ofEach_exactly fun scale inside => within_exact (named.scales scale inside) []
  have legends : FindsExactly (ofEach ofLegend (.list (content.legends.map .map))) [] _ :=
    finds_ofEach_exactly fun legend inside =>
      finds_ofLegend_exactly (named.legends legend inside)
  rw [List.map_id] at marks axes
  rcases marks with ⟨marks, inMarks, marksExact⟩
  rcases axes with ⟨axes, inAxes, axesExact⟩
  rcases scales with ⟨scales, inScales, scalesExact⟩
  rcases legends with ⟨legends, inLegends, legendsExact⟩
  refine ⟨marks ++ axes ++ scales ++ legends, ?_, fun name => ?_⟩
  · unfold ofParts Content.parts
    dsimp only
    rw [inMarks, inAxes, inScales, inLegends]
    rfl
  · simp only [List.mem_append, marksExact, axesExact, scalesExact, legendsExact,
      List.not_mem_nil, not_false_iff, true_and]
    constructor
    · rintro (((⟨_, inside, occurs⟩ | ⟨_, inside, occurs⟩) | ⟨_, inside, occurs⟩) |
        ⟨_, inside, refers⟩)
      · exact .mark inside occurs
      · exact .axis inside occurs
      · exact .scale inside occurs
      · exact .legend inside refers
    · intro refers
      cases refers with
      | mark inside occurs => exact .inl (.inl (.inl ⟨_, inside, occurs⟩))
      | axis inside occurs => exact .inl (.inl (.inr ⟨_, inside, occurs⟩))
      | scale inside occurs => exact .inl (.inr ⟨_, inside, occurs⟩)
      | legend inside refers => exact .inr ⟨_, inside, refers⟩

/-! ## The check -/

theorem mapM_declared (named : content.Named) :
    (content.scales.map Value.map).mapM (·.memberOf "name") =
      .ok (content.declared.map .text) := by
  have names := named.names
  unfold Content.declared
  generalize content.scales = scales at names ⊢
  induction scales with
  | nil => rfl
  | cons scale rest induction =>
      rcases List.forall_mem_cons.mp names with ⟨⟨name, found⟩, others⟩
      have first : (Value.map scale).memberOf "name" = .ok (.text name) := by
        simp only [Value.memberOf, found]
      have listed : (scale :: rest).filterMap (·.get? "name") =
          .text name :: rest.filterMap (·.get? "name") := List.filterMap_cons_some found
      rw [List.map_cons, List.mapM_cons, first, induction others, listed]
      rfl

/-- Whether a list tells the names with a property, in order and each once. -/
structure Tells (names : List String) (holds : String → Prop) : Prop where
  exact : ∀ name, name ∈ names ↔ holds name
  once : names.Nodup
  sorted : names.Pairwise fun left right => codePoints left ≤ codePoints right

theorem tells_sortedTexts {names : List String} {holds : String → Prop}
    (exact : ∀ name, name ∈ names ↔ holds name) : Tells (sortedTexts names) holds :=
  ⟨fun name => mem_sortedTexts.trans (exact name), nodup_sortedTexts names,
    sortedTexts_pairwise names⟩

/-- The check of a document whose lists of scales have names. -/
theorem check_exact {document : Members} (divided : partsOf document = content.parts)
    (named : content.Named) :
    (∃ names, ofParts (partsOf document) = .ok names ∧
      ∀ name, name ∈ names ↔ content.Refers name) ∧
    (check document = .ok () ↔
      content.declared.Nodup ∧ ∀ name, content.Refers name → name ∈ content.declared) ∧
    (¬ content.declared.Nodup → ∃ names,
      check document = .error (.brokenReferences (.declaredTwice names)) ∧
        Tells names fun name => 1 < content.declared.count name) ∧
    (content.declared.Nodup → (¬ ∀ name, content.Refers name → name ∈ content.declared) →
      ∃ names, check document = .error (.brokenReferences (.undeclared names)) ∧
        Tells names fun name => content.Refers name ∧ name ∉ content.declared) := by
  rcases ofParts_exact named with ⟨used, found, exact⟩
  have checked := check_eq_of_declared divided rfl (mapM_declared named)
  rw [found, ok_bind] at checked
  have missing : ∀ name, name ∈ used.filter (· ∉ content.declared) ↔
      content.Refers name ∧ name ∉ content.declared := by
    intro name
    rw [List.mem_filter, exact, decide_eq_true_eq]
  have none_missing : (used.filter (· ∉ content.declared)).isEmpty = true ↔
      ∀ name, content.Refers name → name ∈ content.declared := by
    rw [List.isEmpty_iff, filter_eq_nil_iff]
    exact forall_congr' fun name => imp_congr_left (exact name)
  refine ⟨⟨used, divided ▸ found, exact⟩, ?_, fun twice => ?_, fun once some => ?_⟩
  · rw [checked, ← none_missing]
    by_cases once : content.declared.Nodup
    · rw [if_pos once, and_iff_right once]
      dsimp only
      split
      · next none => exact ⟨fun _ => none, fun _ => rfl⟩
      · next some => exact ⟨nofun, fun none => absurd none some⟩
    · rw [if_neg once]
      exact ⟨nofun, fun both => absurd both.1 once⟩
  · rw [checked, if_neg twice]
    refine ⟨_, rfl, tells_sortedTexts fun name => ?_⟩
    rw [List.mem_filter, decide_eq_true_eq, and_iff_right_iff_imp]
    exact fun more => List.count_pos_iff.mp (by omega)
  · rw [checked, if_pos once]
    dsimp only
    rw [if_neg fun none => some (none_missing.mp none)]
    exact ⟨_, rfl, tells_sortedTexts missing⟩

/-- A group that declares a scale for itself, and places its symbols on it and on another one. -/
def groupContent : Content :=
  { marks := [.map [("type", .text "group"),
      ("scales", .list [.map [("name", .text "xscale")]]),
      ("marks", .list [.map [("x", .map [("scale", .text "xscale")]),
        ("y", .map [("signal", .text "scale('yscale', 0)")])]])]]
    scales := [[("name", .text "yscale")]] }

/-- The document of the group. -/
def groupDocument : Members :=
  [("marks", .list groupContent.marks), ("scales", .list (groupContent.scales.map .map))]

theorem check_exact_group : partsOf groupDocument = groupContent.parts ∧ groupContent.Named ∧
    (check groupDocument = .ok () ↔ groupContent.declared.Nodup ∧
      ∀ name, groupContent.Refers name → name ∈ groupContent.declared) := by
  have plain : ∀ {members : Members}, members.get? "type" = none → NamesOwn members :=
    fun untyped _ group => absurd (untyped.symm.trans group) nofun
  have symbols : NamesScales (.map [("x", .map [("scale", .text "xscale")]),
      ("y", .map [("signal", .text "scale('yscale', 0)")])]) := by
    refine .map (plain rfl) (List.forall_mem_cons.mpr ⟨fun _ => ?_,
      List.forall_mem_singleton.mpr fun _ => ?_⟩)
    · exact .map (plain rfl) (List.forall_mem_singleton.mpr fun _ => .text _)
    · exact .map (plain rfl) (List.forall_mem_singleton.mpr fun _ => .text _)
  have declared : NamesScales (.list [.map [("name", .text "xscale")]]) := by
    refine .list (List.forall_mem_singleton.mpr ?_)
    exact .map (plain rfl) (List.forall_mem_singleton.mpr fun _ => .text _)
  have group : ∀ mark ∈ groupContent.marks, NamesScales mark := by
    refine List.forall_mem_singleton.mpr (.map ?_ ?_)
    · rintro _ _ ⟨⟩ _
      exact ⟨_, rfl, List.forall_mem_singleton.mpr ⟨_, "xscale", rfl, rfl⟩⟩
    · exact List.forall_mem_cons.mpr ⟨fun _ => .text _, List.forall_mem_cons.mpr ⟨fun _ => declared,
        List.forall_mem_singleton.mpr fun _ => .list (List.forall_mem_singleton.mpr symbols)⟩⟩
  have named : groupContent.Named := by
    refine ⟨group, List.forall_mem_nil _, List.forall_mem_singleton.mpr ?_,
      List.forall_mem_singleton.mpr ⟨"yscale", rfl⟩, List.forall_mem_nil _⟩
    exact .map (plain rfl) (List.forall_mem_nil _)
  exact ⟨rfl, named, (check_exact rfl named).2.1⟩

end References

end ChartCompiler
