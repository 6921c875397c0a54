import ChartCompiler.Proofs.Document.Changes
import ChartCompiler.Proofs.References.Within

/-!
# References of marks that follow the selection

What a value refers to is what its parts refer to, so that a part can be replaced by another one.
Marks that are made to follow the selection refer to the color scale and to what they referred to.
-/

namespace ChartCompiler

variable {hidden : List String} {allowed : String → Prop}

/-! ## Parts of values -/

/-- The members that tell what a map refers to by itself, and what it hides. -/
def References.telling : List String := ["scale", "scales", "type"]

theorem References.ownScales_congr {members others : Members}
    (same : ∀ name ∈ telling, members.get? name = others.get? name) :
    ownScales members = ownScales others := by
  unfold ownScales isGroup
  rw [same "scales" (by decide), same "type" (by decide)]

theorem References.direct_congr {members others : Members}
    (same : ∀ name ∈ telling, members.get? name = others.get? name) :
    direct members = direct others := by
  unfold direct
  rw [same "scale" (by decide)]

theorem Members.ReferOnly.of_found {members : Members} {names : List String}
    (searched : References.withinMembers hidden members = .ok names)
    (good : ∀ name ∈ names, allowed name) : members.ReferOnly hidden allowed := by
  induction members generalizing names with
  | nil => exact .nil
  | cons head rest induction =>
      unfold References.withinMembers at searched
      by_cases named : head.1 = "scale"
      · rw [if_pos named] at searched
        rcases (bind_eq_ok_iff _ _ _).mp searched with ⟨own, _, searched⟩
        rcases (bind_eq_ok_iff _ _ _).mp searched with ⟨others, following, equal⟩
        cases equal
        exact .cons (absurd named) (induction following (List.forall_mem_append.mp good).2)
      · rw [if_neg named] at searched
        rcases (bind_eq_ok_iff _ _ _).mp searched with ⟨own, first, searched⟩
        rcases (bind_eq_ok_iff _ _ _).mp searched with ⟨others, following, equal⟩
        cases equal
        rcases List.forall_mem_append.mp good with ⟨ownGood, othersGood⟩
        exact .cons (fun _ => ⟨own, first, ownGood⟩) (induction following othersGood)

namespace Value.RefersOnly

/-- What a map refers to is what it refers to by itself and what its members refer to. -/
theorem map_iff {members : Members} : (Value.map members).RefersOnly hidden allowed ↔
    ∃ own, References.ownScales members = .ok own ∧
      (∀ name ∈ References.direct members, name ∉ hidden ++ own → allowed name) ∧
      members.ReferOnly (hidden ++ own) allowed := by
  constructor
  · rintro ⟨names, found, good⟩
    unfold References.within at found
    rcases (bind_eq_ok_iff _ _ _).mp found with ⟨own, declares, found⟩
    rcases (bind_eq_ok_iff _ _ _).mp found with ⟨inner, searched, equal⟩
    cases equal
    rcases List.forall_mem_append.mp good with ⟨directGood, innerGood⟩
    refine ⟨own, declares, fun name called foreign => directGood name ?_,
      .of_found searched innerGood⟩
    exact List.mem_filter.mpr ⟨called, decide_eq_true foreign⟩
  · rintro ⟨own, declares, direct, inner⟩
    exact .declaring declares direct inner

theorem list_iff {items : List Value} :
    (Value.list items).RefersOnly hidden allowed ↔
      ∀ item ∈ items, item.RefersOnly hidden allowed := by
  refine ⟨?_, .list⟩
  rintro ⟨names, found, good⟩
  rw [References.within] at found
  induction items generalizing names with
  | nil => exact List.forall_mem_nil _
  | cons head rest induction =>
      unfold References.withinItems at found
      rcases (bind_eq_ok_iff _ _ _).mp found with ⟨own, first, found⟩
      rcases (bind_eq_ok_iff _ _ _).mp found with ⟨others, following, equal⟩
      cases equal
      rcases List.forall_mem_append.mp good with ⟨ownGood, othersGood⟩
      exact List.forall_mem_cons.mpr ⟨⟨own, first, ownGood⟩, induction _ following othersGood⟩

theorem text_iff {content : String} : (Value.text content).RefersOnly hidden allowed ↔
    ∀ name ∈ scaleCalls content, name ∉ hidden → allowed name := by
  refine ⟨?_, .text⟩
  rintro ⟨names, found, good⟩ name called foreign
  cases found
  exact good name (List.mem_filter.mpr ⟨called, decide_eq_true foreign⟩)

theorem tuple_iff {items : List Value} : (Value.tuple items).RefersOnly hidden allowed ↔
    ∀ item ∈ items, item.RefersOnly hidden allowed :=
  list_iff

/-- Another value in the place of a member, which tells nothing about the map itself. -/
theorem set {members : Members} {name : String} {item : Value}
    (refers : (Value.map members).RefersOnly hidden allowed) (silent : name ∉ References.telling)
    (only : ∀ own, References.ownScales members = .ok own →
      item.RefersOnly (hidden ++ own) allowed) :
    (Value.map (members.set name item)).RefersOnly hidden allowed := by
  rcases map_iff.mp refers with ⟨own, declares, direct, inner⟩
  have same : ∀ other ∈ References.telling,
      (members.set name item).get? other = members.get? other :=
    fun other told => Members.get?_set_of_ne _ _ fun equal => silent (equal ▸ told)
  refine map_iff.mpr ⟨own, (References.ownScales_congr same).trans declares, ?_, ?_⟩
  · rw [References.direct_congr same]
    exact direct
  · exact Members.forall_mem_set (fun _ => only own declares) inner

/-- A member of a map is searched with what the map hides. -/
theorem member {members : Members} {name : String} {item : Value}
    (refers : (Value.map members).RefersOnly hidden allowed) (found : members.get? name = some item)
    (named : name ≠ "scale") {own : List String}
    (declares : References.ownScales members = .ok own) :
    item.RefersOnly (hidden ++ own) allowed := by
  rcases map_iff.mp refers with ⟨others, declared, _, inner⟩
  cases declares.symm.trans declared
  exact inner _ (Members.mem_of_get? found) named

/-- A block of an encoding; none is like an empty one. -/
theorem block {members block : Members} {name : String}
    (refers : (Value.map members).RefersOnly hidden allowed)
    (found : (members.get? name).getD (.map []) = .map block) (named : name ≠ "scale")
    {own : List String} (declares : References.ownScales members = .ok own) :
    (Value.map block).RefersOnly (hidden ++ own) allowed := by
  cases looked : members.get? name with
  | none =>
      rw [looked] at found
      cases found
      exact .map rfl (List.forall_mem_nil _) .nil
  | some item =>
      rw [looked, Option.getD_some] at found
      exact found ▸ refers.member looked named declares

end Value.RefersOnly

/-! ## Rules of the selection -/

/-- Whether the values of a style that only what follows the selection shows refer to no scales. -/
structure Style.QuietSelection (style : Style) : Prop where
  neutral : style.neutralColor.RefersToNothing
  selected : style.selectedOpacity.RefersToNothing
  unselected : style.unselectedOpacity.RefersToNothing

theorem Style.standard_quiet : ({} : Style).QuietSelection :=
  ⟨congrArg Except.ok (show (scaleCalls _).filter _ = [] by decide +kernel), rfl, rfl⟩

namespace Legend

variable {style : Style}

theorem constant_refersOnly {value : Value} (nothing : value.RefersToNothing) :
    (Value.map (constant value)).RefersOnly hidden allowed :=
  .map rfl (List.forall_mem_nil _) (.cons (fun _ => nothing.refersOnly) .nil)

theorem markTest_refersToNothing : markTest.RefersToNothing :=
  congrArg Except.ok (show (scaleCalls _).filter _ = [] by decide +kernel)

theorem entryTest_refersToNothing : entryTest.RefersToNothing :=
  congrArg Except.ok (show (scaleCalls _).filter _ = [] by decide +kernel)

theorem choice_refersOnly {test : Value} {selected other : Members}
    (first : (Value.map (("test", test) :: selected)).RefersOnly hidden allowed)
    (second : (Value.map other).RefersOnly hidden allowed) :
    (choice test selected other).RefersOnly hidden allowed :=
  .list (List.forall_mem_cons.mpr ⟨first, List.forall_mem_singleton.mpr second⟩)

/-- A choice between constants. -/
theorem constants_refersOnly {test selected other : Value} (silent : test.RefersToNothing)
    (first : selected.RefersToNothing) (second : other.RefersToNothing) :
    (choice test (constant selected) (constant other)).RefersOnly hidden allowed := by
  refine choice_refersOnly ?_ (constant_refersOnly second)
  exact .map rfl (List.forall_mem_nil _) (.cons (fun _ => silent.refersOnly)
    (.cons (fun _ => first.refersOnly) .nil))

theorem selectionOpacity_refersOnly (quiet : style.QuietSelection) {test : Value}
    (silent : test.RefersToNothing) : (selectionOpacity test style).RefersOnly hidden allowed :=
  constants_refersOnly silent quiet.selected quiet.unselected

/-- The rule of a channel refers to the color scale. -/
theorem channelRule_refersOnly (quiet : style.QuietSelection)
    (colored : allowed ScaleName.color.text) : (channelRule style).RefersOnly hidden allowed := by
  refine choice_refersOnly ?_ (constant_refersOnly quiet.neutral)
  refine .map rfl (fun name called _ => ?_) (.cons (fun _ => markTest_refersToNothing.refersOnly)
    (.cons (absurd rfl) (.cons (fun _ => .word rfl) .nil)))
  rw [List.mem_singleton.mp (show name ∈ ["color"] from called)]
  exact colored

/-- An update block that is given rules. -/
theorem withRules_refersOnly (quiet : style.QuietSelection) (colored : allowed ScaleName.color.text)
    {channels : List String} (plain : ∀ channel ∈ channels, channel ∉ References.telling)
    {update : Members} (refers : (Value.map update).RefersOnly hidden allowed) :
    (Value.map (withRules style channels update)).RefersOnly hidden allowed := by
  have start : (Value.map (update.set "opacity" (selectionOpacity markTest style))).RefersOnly
      hidden allowed :=
    refers.set (by decide) fun _ _ => selectionOpacity_refersOnly quiet markTest_refersToNothing
  unfold withRules
  generalize update.set "opacity" (selectionOpacity markTest style) = members at start
  induction channels generalizing members with
  | nil => exact start
  | cons channel rest induction =>
      rcases List.forall_mem_cons.mp plain with ⟨first, others⟩
      exact induction others _ (start.set first fun _ _ => channelRule_refersOnly quiet colored)

/-- The new encoding of a mark. -/
theorem following?_refersOnly (quiet : style.QuietSelection)
    (colored : allowed ScaleName.color.text) {members after : Members}
    (followed : following? style members = .ok (some after))
    (refers : (Value.map members).RefersOnly hidden allowed) {own : List String}
    (declares : References.ownScales members = .ok own) :
    (Value.map after).RefersOnly (hidden ++ own) allowed := by
  rcases following?_eq_some followed with ⟨encode, found, followed⟩
  have encoding := refers.member found (by decide) declares
  rcases followingEncoding?_eq_some followed with ⟨enter, update, _, _, updated, rfl⟩
  have plain : ∀ channel ∈ boundChannels enter, channel ∉ References.telling := by
    intro channel bound
    have each : ∀ channel ∈ ["fill", "stroke"], channel ∉ References.telling := by decide
    exact each channel (List.mem_filter.mp bound).1
  exact encoding.set (by decide) fun inner declared =>
    withRules_refersOnly quiet colored plain (encoding.block updated (by decide) declared)

/-- Whether a value refers to what is allowed if the one before does, wherever it stands. -/
def KeepsReferring (allowed : String → Prop) (before after : Value) : Prop :=
  ∀ ⦃hidden : List String⦄, before.RefersOnly hidden allowed → after.RefersOnly hidden allowed

theorem MemberChange.keepsReferring {member changed : String × Value}
    (change : MemberChange (KeepsReferring allowed) member changed) :
    changed.1 = member.1 ∧ KeepsReferring allowed member.2 changed.2 := by
  cases change with
  | kept _ => exact ⟨rfl, fun _ refers => refers⟩
  | list each =>
      refine ⟨rfl, fun hidden refers => .list ?_⟩
      exact forall_mem_of_changes (each.imp fun _ _ keeps mark => keeps mark)
        (Value.RefersOnly.list_iff.mp refers)
  | tuple each =>
      refine ⟨rfl, fun hidden refers => Value.RefersOnly.tuple_iff.mpr ?_⟩
      exact forall_mem_of_changes (each.imp fun _ _ keeps mark => keeps mark)
        (Value.RefersOnly.tuple_iff.mp refers)

theorem NestedChange.referOnly {members nested : Members}
    (changes : NestedChange (KeepsReferring allowed) members nested)
    (refers : members.ReferOnly hidden allowed) : nested.ReferOnly hidden allowed := by
  refine forall_mem_of_changes (changes.imp fun _ _ change held other => ?_) refers
  obtain ⟨same, keeps⟩ := change.keepsReferring
  exact keeps (held (same ▸ other))

/-- A mark with a new encoding, whose nested marks refer to what is allowed. -/
theorem withEncoding_refersOnly (quiet : style.QuietSelection)
    (colored : allowed ScaleName.color.text) {members nested : Members} {encode : Option Members}
    (followed : following? style members = .ok encode)
    (changes : NestedChange (KeepsReferring allowed) members nested)
    (refers : (Value.map members).RefersOnly hidden allowed) :
    (Value.map (withEncoding nested encode)).RefersOnly hidden allowed := by
  have same : ∀ name ∈ References.telling, nested.get? name = members.get? name := by
    intro name told
    refine changes.get?_eq ?_
    rintro rfl
    exact absurd told (by decide)
  rcases Value.RefersOnly.map_iff.mp refers with ⟨own, declares, direct, only⟩
  have whole : (Value.map nested).RefersOnly hidden allowed := by
    refine .declaring ((References.ownScales_congr same).trans declares) ?_ (changes.referOnly only)
    rwa [References.direct_congr same]
  cases encode with
  | none => exact whole
  | some encode =>
      refine whole.set (by decide) fun others declared => ?_
      rw [References.ownScales_congr same] at declared
      exact following?_refersOnly quiet colored followed refers declared

/-- Marks that are made to follow the selection refer to what is allowed, too. -/
theorem selectableMarks_refersOnly (quiet : style.QuietSelection)
    (colored : allowed ScaleName.color.text) {marks changed : List Value} {count : Nat}
    (made : selectableMarks style marks = .ok (changed, count))
    (each : ∀ mark ∈ marks, mark.RefersOnly hidden allowed) :
    ∀ mark ∈ changed, mark.RefersOnly hidden allowed := by
  have step : ChangesWithNested style (KeepsReferring allowed) :=
    fun _ _ _ followed changes _ refers =>
      withEncoding_refersOnly quiet colored followed changes refers
  have changes := selectableMarks_change step made
  exact forall_mem_of_changes (changes.imp fun _ _ keeps mark => keeps mark) each

end Legend

end ChartCompiler
