import ChartCompiler.Chart.Assembly
import ChartCompiler.Proofs.Layer.Closed
import Mathlib.Data.List.Nodup

/-!
# Charts whose references are checked

The check of a chart succeeds if and only if no two scales have the same name and all references
that are found in its parts are to these scales.
-/

namespace ChartCompiler

namespace References

variable {allowed : String → Prop}

/-- Whether a search succeeds and finds nothing but what is allowed. -/
def Finds (search : Value → Except Failure (List String)) (allowed : String → Prop)
    (value : Value) : Prop :=
  ∃ names, search value = .ok names ∧ ∀ name ∈ names, allowed name

theorem finds_ofEach {search : Value → Except Failure (List String)} {items : List Value} :
    Finds (ofEach search) allowed (.list items) ↔ ∀ item ∈ items, Finds search allowed item := by
  refine ⟨?_, ofEach_only⟩
  rintro ⟨names, found, good⟩
  obtain ⟨each, searched, rfl⟩ : ∃ each, items.mapM search = .ok each ∧ names = each.flatten := by
    rcases (bind_eq_ok_iff _ _ _).mp found with ⟨listed, equal, found⟩
    cases equal
    rcases (bind_eq_ok_iff _ _ _).mp found with ⟨each, searched, equal⟩
    exact ⟨each, searched, (Except.ok.inj equal).symm⟩
  clear found
  induction items generalizing each with
  | nil => exact List.forall_mem_nil _
  | cons head rest induction =>
      rw [List.mapM_cons] at searched
      rcases (bind_eq_ok_iff _ _ _).mp searched with ⟨own, first, searched⟩
      rcases (bind_eq_ok_iff _ _ _).mp searched with ⟨others, following, equal⟩
      cases equal
      rw [List.flatten_cons] at good
      rcases List.forall_mem_append.mp good with ⟨ownGood, othersGood⟩
      exact List.forall_mem_cons.mpr ⟨⟨own, first, ownGood⟩, induction _ following othersGood⟩

/-- Whether all that is found in the parts of a document is allowed. -/
def Parts.ReferOnly (allowed : String → Prop) (parts : Parts) : Prop :=
  ∃ names, ofParts parts = .ok names ∧ ∀ name ∈ names, allowed name

theorem Parts.referOnly_iff {parts : Parts} : parts.ReferOnly allowed ↔
    Finds (ofEach (within [])) allowed parts.marks ∧ Finds (ofEach (within [])) allowed parts.axes ∧
      Finds (ofEach ofScale) allowed parts.scales ∧
        Finds (ofEach ofLegend) allowed parts.legends := by
  constructor
  · rintro ⟨names, found, good⟩
    unfold ofParts at found
    rcases (bind_eq_ok_iff _ _ _).mp found with ⟨marks, inMarks, found⟩
    rcases (bind_eq_ok_iff _ _ _).mp found with ⟨axes, inAxes, found⟩
    rcases (bind_eq_ok_iff _ _ _).mp found with ⟨scales, inScales, found⟩
    rcases (bind_eq_ok_iff _ _ _).mp found with ⟨legends, inLegends, equal⟩
    cases equal
    simp only [List.forall_mem_append, and_assoc] at good
    exact ⟨⟨marks, inMarks, good.1⟩, ⟨axes, inAxes, good.2.1⟩, ⟨scales, inScales, good.2.2.1⟩,
      ⟨legends, inLegends, good.2.2.2⟩⟩
  · rintro ⟨⟨marks, inMarks, marksGood⟩, ⟨axes, inAxes, axesGood⟩, ⟨scales, inScales, scalesGood⟩,
      ⟨legends, inLegends, legendsGood⟩⟩
    refine ⟨marks ++ axes ++ scales ++ legends, ?_, ?_⟩
    · unfold ofParts
      rw [inMarks, inAxes, inScales, inLegends]
      rfl
    · simp only [List.forall_mem_append, and_assoc]
      exact ⟨marksGood, axesGood, scalesGood, legendsGood⟩

/-! ## Names -/

theorem textsOf_texts (names : List String) : textsOf (names.map .text) = names := by
  unfold textsOf
  rw [List.filterMap_map]
  exact List.filterMap_some

theorem areKeys_texts (names : List String) : Value.areKeys (names.map .text) = true := by
  induction names with
  | nil => rfl
  | cons name rest induction => exact induction

theorem repeated_texts (names : List String) :
    repeated (names.map .text) = (names.filter fun name => 1 < names.count name).map .text := by
  have counted : ∀ name, ((names.map Value.text).filter (Value.equals (.text name))).length =
      names.count name := by
    intro name
    rw [List.filter_map, List.length_map, List.count, List.countP_eq_length_filter]
    congr 2
    funext other
    exact decide_eq_decide.mpr eq_comm
  unfold repeated
  rw [List.filter_map]
  congr 2
  funext name
  exact congrArg (fun count => decide (1 < count)) (counted name)

/-- No name is repeated if each is there once. -/
theorem filter_repeated_eq_nil_iff {names : List String} :
    names.filter (fun name => 1 < names.count name) = [] ↔ names.Nodup := by
  rw [List.filter_eq_nil_iff, List.nodup_iff_count_eq_one]
  refine forall₂_congr fun name inside => ?_
  have positive := List.count_pos_iff.mpr inside
  rw [decide_eq_true_eq]
  omega

/-- The check of a document whose scales have texts for their names: repeated names are told first,
and then references to others. -/
theorem check_eq_of_declared {document : Members} {parts : Parts} {scales : List Value}
    {declared : List String} (divided : partsOf document = parts)
    (listed : parts.scales = .list scales)
    (named : scales.mapM (·.memberOf "name") = .ok (declared.map .text)) :
    check document =
      if declared.Nodup then do
        let missing := (← ofParts parts).filter (· ∉ declared)
        if missing.isEmpty then .ok ()
        else .error (.brokenReferences (.undeclared (sortedTexts missing)))
      else
        .error (.brokenReferences (.declaredTwice
          (sortedTexts (declared.filter fun name => 1 < declared.count name)))) := by
  have items : parts.scales.itemsOf = .ok scales := by
    rw [listed]
    rfl
  unfold check
  rw [divided]
  dsimp only
  rw [items]
  dsimp only [bind, Except.bind]
  rw [named]
  dsimp only
  rw [textsOf_texts, areKeys_texts, repeated_texts, textsOf_texts, List.length_map,
    List.isEmpty_map]
  by_cases once : declared.Nodup
  · rw [filter_repeated_eq_nil_iff.mpr once, if_pos once]
    rfl
  · rw [if_neg once, if_pos rfl, if_pos]
    rw [← filter_repeated_eq_nil_iff, ← List.isEmpty_iff] at once
    simpa using once

end References

/-! ## Charts -/

namespace Chart

def scaleNames (chart : Chart) : List String := chart.scales.map (·.name)

/-- The parts of a chart that may refer to scales. -/
def parts (chart : Chart) : References.Parts :=
  { marks := .list chart.marks
    axes := .list chart.axes
    scales := .list (chart.scales.map fun scale => .map scale.toMembers)
    legends := .list chart.legends }

theorem get?_titleMember (chart : Chart) {name : String} (other : name ≠ "title") :
    chart.titleMember.get? name = none := by
  unfold titleMember
  split
  · split
    · rw [Members.get?_cons_of_ne other, Members.get?_nil]
    · rfl
  · rfl

theorem get?_listMember_of_ne {name other : String} (different : other ≠ name)
    (items : List Value) : (listMember name items).get? other = none := by
  unfold listMember
  split
  · rfl
  · rw [Members.get?_cons_of_ne different, Members.get?_nil]

theorem get?_listMember (name : String) (items : List Value) :
    ((listMember name items).get? name).getD (.list []) = .list items := by
  unfold listMember
  split
  · next none => rw [List.isEmpty_iff.mp none, Members.get?_nil, Option.getD_none]
  · rw [Members.get?_cons_self, Option.getD_some]

theorem partsOf_toMembers (chart : Chart) : References.partsOf chart.toMembers = chart.parts := by
  have frame : ∀ name ∈ ["marks", "axes", "scales", "legends"], chart.toMembers.get? name =
      (Members.get? [("data", .list chart.data),
        ("scales", .list (chart.scales.map fun scale => .map scale.toMembers)),
        ("axes", .list chart.axes), ("marks", .list chart.marks)] name).or
        ((listMember "legends" chart.legends).get? name) := by
    intro name inside
    have others : name ≠ "title" ∧ name ≠ "signals" ∧
        name ∉ ["$schema", "width", "height", "padding", "autosize"] := by
      revert name
      decide
    simp only [List.mem_cons, not_or] at others
    unfold toMembers
    rw [Members.get?_append, Members.get?_append, Members.get?_append, Members.get?_append,
      get?_titleMember chart others.1, get?_listMember_of_ne others.2.1]
    simp [Members.get?_cons, others]
  have legends : (chart.toMembers.get? "legends").getD (.list []) = .list chart.legends := by
    rw [frame "legends" (by decide)]
    exact get?_listMember "legends" chart.legends
  unfold References.partsOf parts
  dsimp only
  rw [legends, frame "marks" (by decide), frame "axes" (by decide), frame "scales" (by decide)]
  rfl

theorem declared_eq (chart : Chart) :
    (chart.scales.map fun scale => Value.map scale.toMembers).mapM (·.memberOf "name") =
      .ok (chart.scaleNames.map .text) := by
  unfold scaleNames
  induction chart.scales with
  | nil => rfl
  | cons scale rest induction =>
      rw [List.map_cons, List.mapM_cons, induction]
      rfl

/-- The check of a chart: repeated names are told first, and then references to others. -/
theorem check_eq (chart : Chart) : References.check chart.toMembers =
    if chart.scaleNames.Nodup then do
      let missing := (← References.ofParts chart.parts).filter (· ∉ chart.scaleNames)
      if missing.isEmpty then .ok ()
      else .error (.brokenReferences (.undeclared (sortedTexts missing)))
    else
      .error (.brokenReferences (.declaredTwice
        (sortedTexts (chart.scaleNames.filter fun name => 1 < chart.scaleNames.count name)))) :=
  References.check_eq_of_declared chart.partsOf_toMembers rfl chart.declared_eq

/-- The check succeeds if each scale is declared once and nothing else is referred to. -/
theorem check_eq_ok_iff (chart : Chart) : References.check chart.toMembers = .ok () ↔
    chart.scaleNames.Nodup ∧ chart.parts.ReferOnly (· ∈ chart.scaleNames) := by
  rw [check_eq]
  by_cases once : chart.scaleNames.Nodup
  · rw [if_pos once, and_iff_right once]
    refine (bind_eq_ok_iff _ _ _).trans (exists_congr fun used => and_congr_right fun _ => ?_)
    have known : (used.filter (· ∉ chart.scaleNames)).isEmpty = true ↔
        ∀ name ∈ used, name ∈ chart.scaleNames := by
      rw [List.isEmpty_iff, References.filter_eq_nil_iff]
      exact Iff.rfl
    dsimp only
    rw [← known]
    split
    · next none => exact ⟨fun _ => none, fun _ => rfl⟩
    · next some => exact ⟨nofun, fun none => absurd none some⟩
  · rw [if_neg once]
    exact ⟨nofun, fun both => absurd both.1 once⟩

/-- A chart that can be searched is refused if it refers to what is not declared. -/
theorem check_refused_iff {chart : Chart} (once : chart.scaleNames.Nodup)
    (searched : chart.parts.ReferOnly fun _ => True) :
    (∃ problem, References.check chart.toMembers = .error (.brokenReferences problem)) ↔
      ¬ chart.parts.ReferOnly (· ∈ chart.scaleNames) := by
  rcases searched with ⟨names, found, _⟩
  have outcome : References.check chart.toMembers = .ok () ∨
      ∃ problem, References.check chart.toMembers = .error (.brokenReferences problem) := by
    rw [check_eq, if_pos once, found]
    dsimp only [bind, Except.bind]
    split
    · exact .inl rfl
    · exact .inr ⟨_, rfl⟩
  rw [← and_iff_right (b := chart.parts.ReferOnly (· ∈ chart.scaleNames)) once, ← check_eq_ok_iff]
  constructor
  · rintro ⟨problem, refused⟩ passed
    cases passed.symm.trans refused
  · exact outcome.resolve_left

end Chart

end ChartCompiler
