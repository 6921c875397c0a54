import ChartCompiler.Chart.Legend
import ChartCompiler.Proofs.Document.Reading
import ChartCompiler.Proofs.Log.Outcome
import ChartCompiler.Proofs.Value.Members
import Mathlib.Data.List.Forall2

/-!
# Marks that follow the selection

What changes in marks that are made to follow the selection: channels get further rules, and only
in marks that show their color group. All else stays as it is.
-/

namespace ChartCompiler

namespace Legend

variable {style : Style}

/-- The maps that let a mark follow the selection. -/
def selectionRules (style : Style) : List Members :=
  (channelRule style).rules ++ (selectionOpacity markTest style).rules

/-- How a mark differs from the one before, which may have been made to follow the selection. -/
structure Follows (style : Style) (before after : Members) : Prop where
  same : ∀ {name}, name ≠ "encode" → name ≠ "marks" → after.get? name = before.get? name
  rules : ∀ rule ∈ after.rules, rule ∈ before.rules ∨ (rule ∈ selectionRules style ∧
    ∃ shown ∈ before.rules, shown.text? "scale" = some ScaleName.color.text)

/-! ## Encodings -/

theorem withRules_rules {channels : List String} {update : Members} :
    ∀ rule ∈ (withRules style channels update).flatMap (·.2.rules),
      rule ∈ update.flatMap (·.2.rules) ∨ rule ∈ selectionRules style := by
  have first : ∀ member ∈ update.set "opacity" (selectionOpacity markTest style),
      member ∈ update ∨ ∀ rule ∈ member.2.rules, rule ∈ selectionRules style :=
    Members.forall_mem_set (.inr fun rule written => List.mem_append_right _ written)
      fun member old => .inl old
  have all : ∀ {members : Members},
      (∀ member ∈ members, member ∈ update ∨ ∀ rule ∈ member.2.rules, rule ∈ selectionRules style) →
      ∀ member ∈ channels.foldl (fun result channel => result.set channel (channelRule style))
          members,
        member ∈ update ∨ ∀ rule ∈ member.2.rules, rule ∈ selectionRules style := by
    induction channels with
    | nil => exact fun known => known
    | cons channel rest induction =>
        intro members known
        exact induction (Members.forall_mem_set
          (.inr fun rule written => List.mem_append_left _ written) known)
  intro rule inside
  rcases List.mem_flatMap.mp inside with ⟨member, listed, written⟩
  rcases all first member listed with old | new
  · exact .inl (List.mem_flatMap.mpr ⟨member, old, written⟩)
  · exact .inr (new rule written)

/-- A channel that shows the color group has a map that reads the color scale. -/
theorem rule_of_showsColorGroup {value : Option Value} (shows : showsColorGroup value = true) :
    ∃ rule : Members, value = some (.map rule) ∧
      rule.text? "scale" = some ScaleName.color.text := by
  unfold showsColorGroup at shows
  split at shows
  · next members =>
      refine ⟨members, rfl, ?_⟩
      split at shows
      · next name found =>
          rw [Members.text?, found, ← of_decide_eq_true shows]
          rfl
      · cases shows
  · cases shows

theorem rule_of_boundChannels {enter : Members} (bound : boundChannels enter ≠ []) :
    ∃ rule ∈ enter.flatMap (·.2.rules), rule.text? "scale" = some ScaleName.color.text := by
  rcases List.exists_mem_of_ne_nil _ bound with ⟨channel, listed⟩
  rcases rule_of_showsColorGroup (List.mem_filter.mp listed).2 with ⟨rule, found, colored⟩
  exact ⟨rule, List.mem_flatMap.mpr ⟨_, Members.mem_of_get? found, List.mem_singleton_self _⟩,
    colored⟩

/-- A block of an encoding; none is like an empty one. -/
theorem block_rules {encode block : Members} {name : String}
    (found : (encode.get? name).getD (.map []) = .map block) :
    ∀ rule ∈ block.flatMap (·.2.rules), rule ∈ encode.flatMap (·.2.blockRules) := by
  intro rule inside
  cases looked : encode.get? name with
  | none =>
      rw [looked] at found
      cases found
      cases inside
  | some value =>
      rw [looked] at found
      have written : value = .map block := found
      refine List.mem_flatMap.mpr ⟨_, Members.mem_of_get? looked, ?_⟩
      rw [written]
      exact inside

theorem followingEncoding?_eq_some {encode after : Members}
    (followed : followingEncoding? style encode = .ok (some after)) :
    ∃ enter update, (encode.get? "enter").getD (.map []) = .map enter ∧ boundChannels enter ≠ [] ∧
      (encode.get? "update").getD (.map []) = .map update ∧
      after = encode.set "update" (.map (withRules style (boundChannels enter) update)) := by
  unfold followingEncoding? at followed
  rcases (bind_eq_ok_iff _ _ _).mp followed with ⟨enter, entered, followed⟩
  have written : (encode.get? "enter").getD (.map []) = .map enter := by
    cases block : (encode.get? "enter").getD (.map []) with
    | map members =>
        rw [block] at entered
        cases entered
        rfl
    | _ =>
        rw [block] at entered
        cases entered
  dsimp only at followed
  split at followed
  · cases followed
  · next bound =>
      split at followed
      · next update found =>
          cases followed
          exact ⟨enter, update, written, by simpa using bound, found, rfl⟩
      · cases followed

/-- Only a mark with an encoding is given a new one. -/
theorem following?_eq_some {members after : Members}
    (followed : following? style members = .ok (some after)) :
    ∃ encode, members.get? "encode" = some (.map encode) ∧
      followingEncoding? style encode = .ok (some after) := by
  unfold following? at followed
  split at followed
  · next encode found => exact ⟨encode, found, followed⟩
  · cases followed

theorem following?_rules {members after : Members}
    (followed : following? style members = .ok (some after)) :
    (∃ rule ∈ members.rules, rule.text? "scale" = some ScaleName.color.text) ∧
      ∀ rule ∈ after.flatMap (·.2.blockRules),
        rule ∈ members.rules ∨ rule ∈ selectionRules style := by
  rcases following?_eq_some followed with ⟨encode, found, followed⟩
  have rules : members.rules = encode.flatMap (·.2.blockRules) := by
    rw [Members.rules, Members.map?, found]
    rfl
  rw [rules]
  rcases followingEncoding?_eq_some followed with ⟨enter, update, entered, bound, updated, rfl⟩
  refine ⟨?_, fun rule inside => ?_⟩
  · rcases rule_of_boundChannels bound with ⟨rule, listed, colored⟩
    exact ⟨rule, block_rules entered rule listed, colored⟩
  · rcases List.mem_flatMap.mp inside with ⟨block, listed, written⟩
    rcases Members.mem_set listed with rfl | old
    · exact (withRules_rules rule written).imp_left (block_rules updated rule)
    · exact .inl (List.mem_flatMap.mpr ⟨block, old, written⟩)

/-! ## Marks -/

/-- Whether a mark is made from another one, so that it follows the selection. -/
def MadeFrom (style : Style) (before after : Members) : Prop :=
  ∃ count, selectableMark style (.map before) = .ok (.map after, count)

/-- What is made of a mark: its nested marks change, and it may have a new encoding. -/
theorem selectableMark_eq_ok {members : Members} {changed : Value} {count : Nat}
    (made : selectableMark style (.map members) = .ok (changed, count)) :
    ∃ encode nested more, following? style members = .ok encode ∧
      selectableNested style members = .ok (nested, more) ∧
      changed = .map (withEncoding nested encode) := by
  unfold selectableMark at made
  rcases (bind_eq_ok_iff _ _ _).mp made with ⟨encode, followed, made⟩
  rcases (bind_eq_ok_iff _ _ _).mp made with ⟨⟨nested, more⟩, within, equal⟩
  cases equal
  exact ⟨encode, nested, more, followed, within, rfl⟩

theorem selectableMarks_eq_ok {mark : Value} {rest changed : List Value} {count : Nat}
    (made : selectableMarks style (mark :: rest) = .ok (changed, count)) :
    ∃ first own others more, selectableMark style mark = .ok (first, own) ∧
      selectableMarks style rest = .ok (others, more) ∧ changed = first :: others := by
  unfold selectableMarks at made
  rcases (bind_eq_ok_iff _ _ _).mp made with ⟨⟨first, own⟩, head, made⟩
  rcases (bind_eq_ok_iff _ _ _).mp made with ⟨⟨others, more⟩, tail, equal⟩
  cases equal
  exact ⟨first, own, others, more, head, tail, rfl⟩

theorem selectableMark_map {value changed : Value} {count : Nat}
    (made : selectableMark style value = .ok (changed, count)) :
    ∃ before after, value = .map before ∧ changed = .map after ∧ MadeFrom style before after := by
  cases value with
  | map members =>
      rcases selectableMark_eq_ok made with ⟨encode, nested, _, _, _, rfl⟩
      exact ⟨members, _, rfl, rfl, count, made⟩
  | _ =>
      unfold selectableMark at made
      cases made

/-- Each mark is made from one that was there. -/
theorem madeFrom_of_mem {marks changed : List Value} {count : Nat}
    (made : selectableMarks style marks = .ok (changed, count)) :
    ∀ {after}, .map after ∈ changed → ∃ before, .map before ∈ marks ∧ MadeFrom style before after := by
  induction marks generalizing changed count with
  | nil =>
      cases made
      exact nofun
  | cons mark rest induction =>
      rcases selectableMarks_eq_ok made with ⟨first, _, others, _, head, tail, rfl⟩
      intro after inside
      rcases List.mem_cons.mp inside with rfl | inside
      · rcases selectableMark_map head with ⟨before, _, rfl, equal, from_⟩
        cases equal
        exact ⟨before, List.mem_cons_self .., from_⟩
      · rcases induction tail inside with ⟨before, listed, from_⟩
        exact ⟨before, List.mem_cons_of_mem _ listed, from_⟩

theorem maps_mem {marks : List Value} {mark : Members} :
    mark ∈ (Value.list marks).maps ↔ .map mark ∈ marks := by
  refine List.mem_filterMap.trans ⟨fun ⟨value, listed, found⟩ => ?_, fun listed => ⟨_, listed, rfl⟩⟩
  cases value <;> cases found
  exact listed

/-- A member with the nested marks changed. -/
def selectableMember (style : Style) (name : String) (item : Value) : Except Failure (Value × Nat) :=
  if name = "marks" then
    match item with
    | .list marks => do return ((← selectableMarks style marks).map .list id)
    | .tuple marks => do return ((← selectableMarks style marks).map .tuple id)
    | _ => unusableMarks item
  else .ok (item, 0)

theorem selectableNested_cons (name : String) (item : Value) (rest : Members) :
    selectableNested style ((name, item) :: rest) = do
      let changed ← selectableMember style name item
      let others ← selectableNested style rest
      return ((name, changed.1) :: others.1, changed.2 + others.2) := by
  rw [selectableNested.eq_def]
  unfold selectableMember
  dsimp only
  by_cases marks : name = "marks"
  · rw [if_pos marks, if_pos marks]
    cases item with
    | list items | tuple items =>
        dsimp only
        cases selectableMarks style items <;> rfl
    | _ => rfl
  · rw [if_neg marks, if_neg marks]

theorem selectableNested_eq_ok {name : String} {item : Value} {rest after : Members} {count : Nat}
    (made : selectableNested style ((name, item) :: rest) = .ok (after, count)) :
    ∃ changed others, selectableMember style name item = .ok changed ∧
      selectableNested style rest = .ok others ∧ after = (name, changed.1) :: others.1 := by
  rw [selectableNested_cons] at made
  rcases (bind_eq_ok_iff _ _ _).mp made with ⟨changed, first, made⟩
  rcases (bind_eq_ok_iff _ _ _).mp made with ⟨others, tail, equal⟩
  cases equal
  exact ⟨changed, others, first, tail, rfl⟩

/-- Members other than the nested marks stay. -/
theorem selectableNested_get? {members after : Members} {count : Nat}
    (made : selectableNested style members = .ok (after, count)) {name : String}
    (other : name ≠ "marks") : after.get? name = members.get? name := by
  induction members generalizing after count with
  | nil =>
      cases made
      rfl
  | cons head rest induction =>
      rcases selectableNested_eq_ok made with ⟨changed, others, first, tail, rfl⟩
      rw [Members.get?_cons, Members.get?_cons, induction tail]
      split
      · next same =>
          have differs : head.1 ≠ "marks" := same ▸ other
          unfold selectableMember at first
          rw [if_neg differs] at first
          cases first
          rfl
      · rfl

/-- Nested marks are made from nested marks. -/
theorem selectableMember_maps {item : Value} {changed : Value × Nat}
    (made : selectableMember style "marks" item = .ok changed) :
    ∀ mark ∈ changed.1.maps, ∃ before ∈ item.maps, MadeFrom style before mark := by
  unfold selectableMember at made
  rw [if_pos rfl] at made
  cases item with
  | list marks =>
      rcases (bind_eq_ok_iff _ _ _).mp made with ⟨marked, nested, equal⟩
      cases equal
      intro mark inside
      rcases madeFrom_of_mem nested (maps_mem.mp inside) with ⟨before, listed, from_⟩
      exact ⟨before, maps_mem.mpr listed, from_⟩
  | tuple marks =>
      rcases (bind_eq_ok_iff _ _ _).mp made with ⟨marked, _, equal⟩
      cases equal
      exact List.forall_mem_nil _
  | _ =>
      rcases (bind_eq_ok_iff _ _ _).mp made with ⟨items, _, made⟩
      split at made
      · cases made
        exact List.forall_mem_nil _
      · cases made

theorem selectableNested_maps {members after : Members} {count : Nat}
    (made : selectableNested style members = .ok (after, count)) :
    ∀ mark ∈ after.maps "marks", ∃ before ∈ members.maps "marks", MadeFrom style before mark := by
  induction members generalizing after count with
  | nil =>
      cases made
      exact List.forall_mem_nil _
  | cons head rest induction =>
      rcases selectableNested_eq_ok made with ⟨changed, others, first, tail, rfl⟩
      unfold Members.maps at induction ⊢
      rw [Members.get?_cons, Members.get?_cons]
      split
      · next same =>
          rw [← same] at first
          exact selectableMember_maps first
      · exact induction tail

/-- What a mark is made from, and what its nested marks are made from. -/
theorem MadeFrom.follows {before after : Members} (made : MadeFrom style before after) :
    Follows style before after ∧
      ∀ mark ∈ after.maps "marks", ∃ nested ∈ before.maps "marks", MadeFrom style nested mark := by
  rcases made with ⟨count, made⟩
  rcases selectableMark_eq_ok made with ⟨encode, nested, _, followed, within, equal⟩
  cases equal
  have marks := selectableNested_maps within
  cases encode with
  | none =>
      refine ⟨⟨fun _ other => selectableNested_get? within other, fun rule inside => .inl ?_⟩, marks⟩
      unfold Members.rules Members.map? at inside ⊢
      rw [withEncoding, selectableNested_get? within (by decide)] at inside
      exact inside
  | some encode =>
      rcases following?_rules followed with ⟨shown, rules⟩
      refine ⟨⟨fun {name} own other => ?_, fun rule inside => ?_⟩, ?_⟩
      · rw [withEncoding, Members.get?_set_of_ne _ _ own, selectableNested_get? within other]
      · unfold Members.rules Members.map? at inside
        rw [withEncoding, Members.get?_set_self] at inside
        exact (rules rule inside).imp_right fun new => ⟨new, shown⟩
      · unfold Members.maps
        rw [withEncoding, Members.get?_set_of_ne _ _ (by decide)]
        exact marks

/-- Marks that are made to follow the selection stand where the marks before stood. -/
theorem madeFrom_of_stands {marks changed : List Value} {count : Nat}
    (made : selectableMarks style marks = .ok (changed, count)) {around : List Members}
    {mark : Members} (stands : Stands changed around mark) :
    ∃ outer before, Stands marks outer before ∧ List.Forall₂ (Follows style) outer around ∧
      MadeFrom style before mark := by
  induction stands with
  | top listed =>
      rcases madeFrom_of_mem made listed with ⟨before, inside, from_⟩
      exact ⟨[], before, .top inside, .nil, from_⟩
  | nested _ inside induction =>
      rcases induction with ⟨outer, group, stands, same, grouped⟩
      rcases grouped.follows with ⟨follows, nested⟩
      rcases nested _ inside with ⟨before, listed, from_⟩
      exact ⟨group :: outer, before, .nested stands listed, .cons follows same, from_⟩

/-! ## Marks that can follow -/

theorem followingEncoding?_eq {encode enter update : Members}
    (entered : (encode.get? "enter").getD (.map []) = .map enter)
    (updated : (encode.get? "update").getD (.map []) = .map update) :
    followingEncoding? style encode = .ok (if (boundChannels enter).isEmpty then none
      else some (encode.set "update" (.map (withRules style (boundChannels enter) update)))) := by
  unfold followingEncoding?
  rw [entered, updated]
  change (if (boundChannels enter).isEmpty = true then _ else _) = _
  split <;> rfl

theorem selectableMarks_ok {marks : List Value}
    (each : ∀ mark ∈ marks, ∃ changed, selectableMark style mark = .ok changed) :
    ∃ changed, selectableMarks style marks = .ok changed := by
  induction marks with
  | nil => exact ⟨_, rfl⟩
  | cons mark rest induction =>
      rcases List.forall_mem_cons.mp each with ⟨⟨first, head⟩, others⟩
      rcases induction others with ⟨more, tail⟩
      refine ⟨(first.1 :: more.1, first.2 + more.2), ?_⟩
      unfold selectableMarks
      exact (bind_eq_ok_iff _ _ _).mpr ⟨first, head, (bind_eq_ok_iff _ _ _).mpr ⟨more, tail, rfl⟩⟩

theorem selectableNested_ok {members : Members}
    (each : ∀ member ∈ members, member.1 = "marks" → ∃ marks, member.2 = .list marks ∧
      ∃ changed, selectableMarks style marks = .ok changed) :
    ∃ changed, selectableNested style members = .ok changed := by
  induction members with
  | nil => exact ⟨_, rfl⟩
  | cons head rest induction =>
      rcases List.forall_mem_cons.mp each with ⟨first, others⟩
      rcases induction others with ⟨more, tail⟩
      have changed : ∃ changed, selectableMember style head.1 head.2 = .ok changed := by
        unfold selectableMember
        split
        · next named =>
            rcases first named with ⟨marks, listed, changed, made⟩
            rw [listed]
            dsimp only
            rw [made]
            exact ⟨_, rfl⟩
        · exact ⟨_, rfl⟩
      rcases changed with ⟨changed, made⟩
      refine ⟨((head.1, changed.1) :: more.1, changed.2 + more.2), ?_⟩
      rw [selectableNested_cons]
      exact (bind_eq_ok_iff _ _ _).mpr ⟨changed, made, (bind_eq_ok_iff _ _ _).mpr ⟨more, tail, rfl⟩⟩

theorem selectableMark_ok {members : Members} {encode : Option Members}
    (followed : following? style members = .ok encode)
    (nested : ∃ changed, selectableNested style members = .ok changed) :
    ∃ changed, selectableMark style (.map members) = .ok changed := by
  rcases nested with ⟨changed, nested⟩
  refine ⟨(.map (withEncoding changed.1 encode), (if encode.isSome then 1 else 0) + changed.2), ?_⟩
  unfold selectableMark
  exact (bind_eq_ok_iff _ _ _).mpr ⟨encode, followed, (bind_eq_ok_iff _ _ _).mpr ⟨changed, nested, rfl⟩⟩

/-! ## Fields -/

/-- The maps for the selection share no bands, show the color group, and test for the selection. -/
theorem selectionRules_read : ∀ rule ∈ selectionRules style, rule.contains "band" = false ∧
    (∀ field, rule.text? "field" = some field → field = "color") ∧
      ∀ formula ∈ rule.formulas, .text formula = markTest := by
  have rules : selectionRules style =
      [[("test", markTest), ("scale", .text ScaleName.color.text), ("field", .text "color")],
        [("value", style.neutralColor)], [("test", markTest), ("value", style.selectedOpacity)],
        [("value", style.unselectedOpacity)]] := rfl
  rw [rules]
  intro rule inside
  simp only [List.mem_cons, List.not_mem_nil, or_false] at inside
  constructor
  · rcases inside with rfl | rfl | rfl | rfl <;> rfl
  · rcases inside with rfl | rfl | rfl | rfl <;>
      simp [Members.text?, Members.formulas, Members.get?_cons, markTest, Value.text?]

/-- What is tested for the selection are the color group and the selected ones. -/
theorem markTest_reads {formula : String} (written : .text formula = markTest) :
    datumFields formula = ["color"] ∧
      quotedCalls dataFunctions formula = [selectedSource, selectedSource] := by
  cases written
  decide +kernel

namespace Follows

variable {before after : Members} (follows : Follows style before after)

include follows

theorem maps (name : String) (own : name ≠ "encode") (nested : name ≠ "marks") :
    after.maps name = before.maps name := by
  unfold Members.maps
  rw [follows.same own nested]

theorem map? (name : String) (own : name ≠ "encode") (nested : name ≠ "marks") :
    after.map? name = before.map? name := by
  unfold Members.map?
  rw [follows.same own nested]

theorem facet? : after.facet? = before.facet? := by
  unfold Members.facet?
  rw [follows.map? "from" (by decide) (by decide)]

theorem data? : after.data? = before.data? := by
  unfold Members.data?
  rw [follows.map? "from" (by decide) (by decide)]

theorem order : after.order = before.order := by
  unfold Members.order
  rw [follows.map? "sort" (by decide) (by decide)]

/-- A mark that follows the selection computes what it computed before, and tests for the
selection. -/
theorem markFormulas : ∀ formula ∈ after.markFormulas, formula ∈ before.markFormulas ∨
    .text formula = markTest := by
  intro formula inside
  unfold Members.markFormulas at inside ⊢
  rw [follows.order] at inside
  rcases List.mem_append.mp inside with inside | ordering
  · rcases List.mem_flatMap.mp inside with ⟨rule, listed, written⟩
    rcases follows.rules rule listed with old | ⟨new, _⟩
    · exact .inl (List.mem_append_left _ (List.mem_flatMap.mpr ⟨rule, old, written⟩))
    · exact .inr ((selectionRules_read rule new).2.2 formula written)
  · exact .inl (List.mem_append_right _ ordering)

theorem signalFormulas : after.signalFormulas = before.signalFormulas := by
  unfold Members.signalFormulas
  rw [follows.maps "signals" (by decide) (by decide)]

/-- A mark that follows the selection reads what it read before, and its color group if it shows
that. -/
theorem fieldsRead : ∀ field ∈ after.fieldsRead, field ∈ before.fieldsRead ∨ (field = "color" ∧
    ∃ shown ∈ before.rules, shown.text? "scale" = some ScaleName.color.text) := by
  intro field read
  unfold Members.fieldsRead Members.markFormulas at read ⊢
  rw [follows.order] at read
  rcases List.mem_append.mp read with named | computed
  · rcases List.mem_filterMap.mp named with ⟨rule, inside, found⟩
    rcases follows.rules rule inside with old | ⟨new, shown⟩
    · exact .inl (List.mem_append_left _ (List.mem_filterMap.mpr ⟨rule, old, found⟩))
    · exact .inr ⟨(selectionRules_read rule new).2.1 field found, shown⟩
  · rcases List.mem_flatMap.mp computed with ⟨formula, written, reads⟩
    rcases List.mem_append.mp written with written | ordering
    · rcases List.mem_flatMap.mp written with ⟨rule, inside, written⟩
      rcases follows.rules rule inside with old | ⟨new, shown⟩
      · refine .inl (List.mem_append_right _ (List.mem_flatMap.mpr ⟨formula, ?_, reads⟩))
        exact List.mem_append_left _ (List.mem_flatMap.mpr ⟨rule, old, written⟩)
      · rw [(markTest_reads ((selectionRules_read rule new).2.2 formula written)).1] at reads
        exact .inr ⟨List.mem_singleton.mp reads, shown⟩
    · refine .inl (List.mem_append_right _ (List.mem_flatMap.mpr ⟨formula, ?_, reads⟩))
      exact List.mem_append_right _ ordering

end Follows

theorem sourceBehind?_of_follows {before after : List Members}
    (same : List.Forall₂ (Follows style) before after) (name : String) :
    sourceBehind? after name = sourceBehind? before name := by
  induction same generalizing name with
  | nil => rfl
  | cons first others induction =>
      unfold sourceBehind?
      rw [first.facet?, funext induction]

end Legend

namespace SourceFields

open Legend

variable {style : Style} {sources : SourceFields}

theorem has_iff_of_follows {before after : List Members}
    (same : List.Forall₂ (Follows style) before after) {name field : String} :
    sources.Has after name field ↔ sources.Has before name field := by
  unfold Has
  rw [sourceBehind?_of_follows same]

theorem scaleHas_iff_of_follows {before after : List Members}
    (same : List.Forall₂ (Follows style) before after) {scale : Members} :
    sources.ScaleHas after scale ↔ sources.ScaleHas before scale := by
  simp only [ScaleHas, DomainHas, has_iff_of_follows same]

/-- Marks that follow the selection find what they read if the marks before did, provided that the
color scale shows the color group. -/
theorem MarksHave.follow {marks changed : List Value} {count : Nat} (found : sources.MarksHave marks)
    (colored : ∀ {around mark}, Stands marks around mark → ∀ rule ∈ mark.rules,
      rule.text? "scale" = some ScaleName.color.text → rule.text? "field" = some "color")
    (made : selectableMarks style marks = .ok (changed, count)) : sources.MarksHave changed := by
  refine ⟨fun stands => ?_, fun stands => ?_, fun stands => ?_, fun stands => ?_⟩
  all_goals
    rcases madeFrom_of_stands made stands with ⟨outer, before, place, same, from_⟩
    have follows := from_.follows.1
  · intro field read
    have drawn : sources.DrawnOver outer before field := by
      rcases follows.fieldsRead field read with old | ⟨rfl, shown, listed, scale⟩
      · exact found.read place field old
      · refine found.read place "color" (List.mem_append_left _ (List.mem_filterMap.mpr ?_))
        exact ⟨shown, listed, colored place shown listed scale⟩
    unfold DrawnOver at drawn ⊢
    simpa only [follows.data?, follows.facet?, has_iff_of_follows same] using drawn
  · rw [follows.facet?]
    simpa only [has_iff_of_follows same] using found.facets place
  · rw [follows.maps "scales" (by decide) (by decide)]
    simpa only [scaleHas_iff_of_follows (.cons follows same)] using found.scales place
  · rw [follows.maps "scales" (by decide) (by decide), follows.signalFormulas]
    exact found.signals place

end SourceFields

end ChartCompiler
