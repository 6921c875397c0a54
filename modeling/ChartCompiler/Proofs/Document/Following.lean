import ChartCompiler.Proofs.Document.MarkTree
import ChartCompiler.Proofs.Document.Selection

/-!
# Marks that follow the selection at any depth

In a tree of marks exactly those follow the selection whose fill or stroke shows the color group, at
any depth. They get rules for their opacity and for the channels that show the group. All else stays
as it is, and marks that follow the selection already do not change any more.
-/

namespace ChartCompiler

namespace Legend

variable {style : Style}

/-! ## What follows the selection -/

/-- What the update block of a mark is like if the mark follows the selection. -/
structure UpdateFollows (style : Style) (mark before after : Members) : Prop where
  names : before.names <+: after.names
  opacity : after.get? "opacity" = some (.list
    [.map [("test", markTest), ("value", style.selectedOpacity)],
      .map [("value", style.unselectedOpacity)]])
  shown : ∀ channel, mark.Shows channel → after.get? channel = some (.list
    [.map [("test", markTest), ("scale", .text "color"), ("field", .text "color")],
      .map [("value", style.neutralColor)]])
  kept : ∀ name, name ≠ "opacity" → ¬ mark.Shows name → after.get? name = before.get? name

/-- Whether two members list the same number of marks in the same way, or neither is there. -/
inductive SameListing : Option Value → Option Value → Prop where
  | none : SameListing none none
  | marks {wrap : List Value → Value} (listing : Value.IsListing wrap) {before after : List Value}
      (length : after.length = before.length) : SameListing (some (wrap before)) (some (wrap after))

/-- How a mark differs from the one before, apart from the marks nested in it. -/
structure TurnedFrom (style : Style) (before after : Members) : Prop where
  names : after.names = before.names
  kept : ∀ name, name ≠ "encode" → name ≠ "marks" → after.get? name = before.get? name
  marks : SameListing (before.get? "marks") (after.get? "marks")
  plain : (∀ channel, ¬ before.Shows channel) → after.get? "encode" = before.get? "encode"
  showing : ∀ channel, before.Shows channel → ∃ encode changed update : Members,
    before.get? "encode" = some (.map encode) ∧ after.get? "encode" = some (.map changed) ∧
    encode.names <+: changed.names ∧
    (∀ name, name ≠ "update" → changed.get? name = encode.get? name) ∧
    changed.get? "update" = some (.map update) ∧
    UpdateFollows style before ((encode.map? "update").getD []) update

/-- What is made of a tree of marks, and how many of its marks follow the selection then. -/
structure Followed (style : Style) (before after : Value) (count : Nat) : Prop where
  made : selectableMark style before = .ok (after, count)
  turned : ∀ path, Option.Rel (TurnedFrom style) (before.markAt? path) (after.markAt? path)
  counted : before.showingPaths.encard = count
  again : selectableMark style after = .ok (after, count)

/-! ## Channels -/

theorem showsColorGroup_iff {value : Option Value} : showsColorGroup value = true ↔
    (value.bind Value.map?).bind (·.text? "scale") = some ScaleName.color.text := by
  constructor
  · intro shows
    obtain ⟨rule, rfl, colored⟩ := rule_of_showsColorGroup shows
    exact colored
  · intro colored
    obtain ⟨rule, found, read⟩ := Option.bind_eq_some_iff.mp colored
    obtain ⟨entered, rfl, same⟩ := Option.bind_eq_some_iff.mp found
    obtain ⟨scale, written, named⟩ := Option.bind_eq_some_iff.mp read
    cases entered <;> cases same
    cases scale <;> cases named
    simp [showsColorGroup, written]

theorem map?_getD {blocks block : Members} {name : String}
    (found : (blocks.get? name).getD (.map []) = .map block) :
    (blocks.map? name).getD [] = block := by
  unfold Members.map?
  cases looked : blocks.get? name with
  | none =>
      rw [looked] at found
      cases found
      rfl
  | some value =>
      rw [looked, Option.getD_some] at found
      rw [found]
      rfl

theorem mem_boundChannels {mark encode enter : Members} {channel : String}
    (found : mark.get? "encode" = some (.map encode))
    (entered : (encode.get? "enter").getD (.map []) = .map enter) :
    channel ∈ boundChannels enter ↔ mark.Shows channel := by
  have block := map?_getD entered
  have looked : ((mark.map? "encode").bind (·.map? "enter")).bind (·.map? channel) =
      enter.map? channel := by
    rw [Members.map?, found]
    change (encode.map? "enter").bind (·.map? channel) = _
    rw [← block]
    cases encode.map? "enter" <;> rfl
  unfold Members.Shows boundChannels
  rw [looked, List.mem_filter, showsColorGroup_iff]
  simp [Members.map?]

theorem boundChannels_ne_opacity {enter : Members} {channel : String}
    (bound : channel ∈ boundChannels enter) : channel ≠ "opacity" := by
  have listed := List.mem_of_mem_filter bound
  rintro rfl
  revert listed
  decide

/-! ## Rules -/

theorem get?_withRules (style : Style) (channels : List String) (update : Members)
    (name : String) : (withRules style channels update).get? name =
      if name ∈ channels then some (channelRule style)
      else if name = "opacity" then some (selectionOpacity markTest style)
      else update.get? name := by
  unfold withRules
  rw [Members.get?_foldl_set]
  split
  · rfl
  · split
    · next same => rw [same, Members.get?_set_self]
    · next other => rw [Members.get?_set_of_ne _ _ other]

/-- Rules that are there already do not change when they are set again. -/
theorem withRules_withRules (style : Style) {channels : List String} (update : Members)
    (others : ∀ channel ∈ channels, channel ≠ "opacity") :
    withRules style channels (withRules style channels update) =
      withRules style channels update := by
  have opacity : (withRules style channels update).get? "opacity" =
      some (selectionOpacity markTest style) := by
    have free : "opacity" ∉ channels := fun listed => others _ listed rfl
    rw [get?_withRules, if_neg free, if_pos rfl]
  have rules : ∀ channel ∈ channels,
      (withRules style channels update).get? channel = some (channelRule style) := by
    intro channel listed
    rw [get?_withRules, if_pos listed]
  change channels.foldl _ ((withRules style channels update).set "opacity" _) = _
  rw [Members.set_of_get? opacity, Members.foldl_set_of_get? rules]

theorem updateFollows {mark update : Members} {channels : List String}
    (bound : ∀ channel, channel ∈ channels ↔ mark.Shows channel) :
    UpdateFollows style mark update (withRules style channels update) where
  names := (Members.names_prefix_set update _ _).trans (Members.names_prefix_foldl_set channels _ _)
  opacity := by
    have free : "opacity" ∉ channels := by
      intro listed
      have own := ((bound _).mp listed).1
      revert own
      decide
    rw [get?_withRules, if_neg free, if_pos rfl]
    rfl
  shown := by
    intro channel shows
    rw [get?_withRules, if_pos ((bound channel).mpr shows)]
    rfl
  kept := by
    intro name other hidden
    rw [get?_withRules, if_neg fun listed => hidden ((bound name).mp listed), if_neg other]

/-! ## Encodings -/

/-- A mark without a channel that shows the color group keeps its encoding; with one its update
block follows the selection. -/
inductive FollowingEncoding (style : Style) (mark : Members) : Option Members → Prop where
  | plain (hidden : ∀ channel, ¬ mark.Shows channel) : FollowingEncoding style mark none
  | showing {encode enter update : Members} (found : mark.get? "encode" = some (.map encode))
      (entered : (encode.get? "enter").getD (.map []) = .map enter)
      (updated : (encode.get? "update").getD (.map []) = .map update)
      (bound : boundChannels enter ≠ []) : FollowingEncoding style mark
        (some (encode.set "update" (.map (withRules style (boundChannels enter) update))))

theorem block_getD {members : Members} {name : String} (block : members.IsBlock name) :
    ∃ found : Members, (members.get? name).getD (.map []) = .map found := by
  cases looked : members.get? name with
  | none => exact ⟨[], rfl⟩
  | some value => exact block value looked

theorem following?_eq {mark : Members}
    (encode : ∀ value, mark.get? "encode" = some value → ∃ blocks : Members,
      value = .map blocks ∧ blocks.IsBlock "enter" ∧ blocks.IsBlock "update") :
    ∃ following, following? style mark = .ok following ∧
      FollowingEncoding style mark following := by
  unfold following?
  cases found : mark.get? "encode" with
  | none =>
      refine ⟨none, rfl, .plain fun channel shows => ?_⟩
      have read := shows.2
      rw [Members.map?, found] at read
      cases read
  | some value =>
      obtain ⟨blocks, rfl, enterBlock, updateBlock⟩ := encode value found
      obtain ⟨enter, entered⟩ := block_getD enterBlock
      obtain ⟨update, updated⟩ := block_getD updateBlock
      refine ⟨_, followingEncoding?_eq entered updated, ?_⟩
      by_cases bound : boundChannels enter = []
      · rw [bound]
        apply FollowingEncoding.plain
        intro channel shows
        have listed := (mem_boundChannels found entered).mpr shows
        rw [bound] at listed
        cases listed
      · rw [if_neg (by simpa using bound)]
        exact .showing found entered updated bound

/-- A mark with the encoding of one that follows the selection is given the same encoding again. -/
theorem FollowingEncoding.again {mark after : Members} {following : Option Members}
    (follows : FollowingEncoding style mark following)
    (followed : following? style mark = .ok following)
    (encoded : after.get? "encode" = (following.map .map).or (mark.get? "encode")) :
    following? style after = .ok following := by
  cases follows with
  | plain hidden =>
      unfold following? at followed ⊢
      rw [encoded]
      exact followed
  | @showing encode enter update found entered updated bound =>
      unfold following?
      rw [encoded]
      change followingEncoding? style (encode.set "update" _) = _
      have same : ((encode.set "update" (.map (withRules style (boundChannels enter) update))).get?
          "enter").getD (.map []) = .map enter := by
        rw [Members.get?_set_of_ne _ _ (by decide), entered]
      rw [followingEncoding?_eq same (by rw [Members.get?_set_self, Option.getD_some]),
        if_neg (by simpa using bound),
        withRules_withRules style update fun _ => boundChannels_ne_opacity, Members.set_set]

/-! ## Nested marks -/

theorem selectableNested_of_notMem {members : Members} (absent : "marks" ∉ members.names) :
    selectableNested style members = .ok (members, 0) := by
  induction members with
  | nil => rfl
  | cons head rest induction =>
      rw [Members.names_cons, List.mem_cons, not_or] at absent
      have kept : selectableMember style head.1 head.2 = .ok (head.2, 0) :=
        if_neg (Ne.symm absent.1)
      rw [selectableNested_cons, kept, induction absent.2]
      rfl

theorem selectableNested_of_get? {members : Members} (once : members.names.Nodup) {item : Value}
    (found : members.get? "marks" = some item) {changed : Value} {count : Nat}
    (made : selectableMember style "marks" item = .ok (changed, count)) :
    selectableNested style members = .ok (members.set "marks" changed, count) := by
  induction members with
  | nil => cases found
  | cons head rest induction =>
      obtain ⟨absent, once⟩ := List.nodup_cons.mp once
      rw [selectableNested_cons, Members.set_cons]
      rw [Members.get?_cons] at found
      by_cases same : head.1 = "marks"
      · rw [if_pos same.symm] at found
        cases found
        rw [same, made, selectableNested_of_notMem (same ▸ absent), if_pos rfl]
        rfl
      · have kept : selectableMember style head.1 head.2 = .ok (head.2, 0) := if_neg same
        rw [if_neg (Ne.symm same)] at found
        rw [kept, induction once found, if_neg same]
        change Except.ok (_, 0 + count) = _
        rw [Nat.zero_add]

/-! ## Marks that are made to follow -/

/-- What is made of marks that stand beside each other. -/
structure AllFollowed (style : Style) (before after : List Value) (count : Nat) : Prop where
  made : selectableMarks style before = .ok (after, count)
  length : after.length = before.length
  turned : ∀ path,
    Option.Rel (TurnedFrom style) (Value.markAmong? before path) (Value.markAmong? after path)
  counted : (Value.showingAmong before).encard = count
  again : selectableMarks style after = .ok (after, count)

theorem selectableMarks_cons {mark changed : Value} {rest others : List Value} {count more : Nat}
    (first : selectableMark style mark = .ok (changed, count))
    (tail : selectableMarks style rest = .ok (others, more)) :
    selectableMarks style (mark :: rest) = .ok (changed :: others, count + more) := by
  unfold selectableMarks
  rw [first, tail]
  rfl

theorem allFollowed {marks : List Value}
    (each : ∀ mark ∈ marks, ∃ after count, Followed style mark after count) :
    ∃ after count, AllFollowed style marks after count := by
  induction marks with
  | nil =>
      refine ⟨[], 0, rfl, rfl, fun path => ?_, ?_, rfl⟩
      · cases path <;> exact .none
      · rw [Value.showingAmong_nil, Set.encard_empty]
        rfl
  | cons mark rest induction =>
      obtain ⟨⟨changed, count, first⟩, others⟩ := List.forall_mem_cons.mp each
      obtain ⟨after, more, tail⟩ := induction others
      refine ⟨changed :: after, count + more, selectableMarks_cons first.made tail.made, ?_, ?_, ?_,
        selectableMarks_cons first.again tail.again⟩
      · rw [List.length_cons, List.length_cons, tail.length]
      · intro path
        match path with
        | [] => exact .none
        | 0 :: path => exact first.turned path
        | (place + 1) :: path => exact tail.turned (place :: path)
      · rw [Value.encard_showingAmong_cons, first.counted, tail.counted]
        norm_cast

/-- The members of a mark with the marks nested in it changed. -/
structure NestedFollowed (style : Style) (before after : Members) (count : Nat) : Prop where
  made : selectableNested style before = .ok (after, count)
  names : after.names = before.names
  kept : ∀ name, name ≠ "marks" → after.get? name = before.get? name
  marks : SameListing (before.get? "marks") (after.get? "marks")
  all : AllFollowed style (Value.map before).nestedMarks (Value.map after).nestedMarks count
  again : ∀ other : Members, other.names.Nodup → other.get? "marks" = after.get? "marks" →
    selectableNested style other = .ok (other, count)

theorem selectableMember_listing {wrap : List Value → Value} (listing : Value.IsListing wrap)
    {marks changed : List Value} {count : Nat}
    (made : selectableMarks style marks = .ok (changed, count)) :
    selectableMember style "marks" (wrap marks) = .ok (wrap changed, count) := by
  unfold selectableMember
  rw [if_pos rfl]
  obtain rfl | rfl := listing
  · dsimp only
    rw [made]
    rfl
  · dsimp only
    rw [made]
    rfl

theorem nestedFollowed {mark : Members} (once : mark.names.Nodup)
    (listed : ∀ value, mark.get? "marks" = some value →
      ∃ wrap marks, Value.IsListing wrap ∧ value = wrap marks)
    (each : ∀ nested ∈ (Value.map mark).nestedMarks, ∃ after count,
      Followed style nested after count) :
    ∃ after count, NestedFollowed style mark after count := by
  cases found : mark.get? "marks" with
  | none =>
      have absent : ∀ other : Members, other.get? "marks" = none →
          selectableNested style other = .ok (other, 0) := by
        intro other none
        apply selectableNested_of_notMem
        intro inside
        obtain ⟨value, member⟩ := Members.mem_names.mp inside
        exact (Members.get?_eq_none_iff other "marks").mp none _ member rfl
      refine ⟨mark, 0, absent mark found, rfl, fun _ _ => rfl, found ▸ .none, ?_, ?_⟩
      · rw [Value.nestedMarks_of_none found] at each ⊢
        obtain ⟨after, count, all⟩ := allFollowed each
        cases all.made
        exact all
      · intro other _ same
        exact absent other (same.trans found)
  | some value =>
      obtain ⟨wrap, marks, listing, rfl⟩ := listed value found
      rw [Value.nestedMarks_of_listing listing found] at each
      obtain ⟨after, count, all⟩ := allFollowed each
      have placed : (mark.set "marks" (wrap after)).get? "marks" = some (wrap after) :=
        Members.get?_set_self ..
      refine ⟨mark.set "marks" (wrap after), count,
        selectableNested_of_get? once found (selectableMember_listing listing all.made), ?_,
        fun name other => Members.get?_set_of_ne _ _ other, ?_, ?_, ?_⟩
      · rw [Members.names_set, if_pos (Members.mem_names.mpr ⟨_, Members.mem_of_get? found⟩)]
      · rw [found, placed]
        exact .marks listing all.length
      · rw [Value.nestedMarks_of_listing listing found, Value.nestedMarks_of_listing listing placed]
        exact all
      · intro other once same
        rw [placed] at same
        have made := selectableNested_of_get? once same (selectableMember_listing listing all.again)
        rwa [Members.set_of_get? same] at made

theorem FollowingEncoding.isSome_iff {mark : Members} {following : Option Members}
    (follows : FollowingEncoding style mark following) :
    following.isSome = true ↔ ∃ channel, mark.Shows channel := by
  cases follows with
  | plain hidden => simp [hidden]
  | showing found entered updated bound =>
      obtain ⟨channel, listed⟩ := List.exists_mem_of_ne_nil _ bound
      exact ⟨fun _ => ⟨channel, (mem_boundChannels found entered).mp listed⟩, fun _ => rfl⟩

section

variable {mark nested : Members} {following : Option Members} {count : Nat}

theorem get?_withEncoding (following : Option Members)
    (kept : nested.get? "encode" = mark.get? "encode") :
    (withEncoding nested following).get? "encode" =
      (following.map .map).or (mark.get? "encode") := by
  cases following with
  | none => exact kept
  | some encode => exact Members.get?_set_self ..

theorem get?_withEncoding_of_ne (following : Option Members) {name : String}
    (other : name ≠ "encode") : (withEncoding nested following).get? name = nested.get? name := by
  cases following with
  | none => rfl
  | some encode => exact Members.get?_set_of_ne _ _ other

theorem names_withEncoding (names : nested.names = mark.names)
    (follows : FollowingEncoding style mark following) :
    (withEncoding nested following).names = mark.names := by
  cases follows with
  | plain hidden => exact names
  | showing found entered updated bound =>
      have listed := Members.mem_names.mpr ⟨_, Members.mem_of_get? found⟩
      unfold withEncoding
      rw [Members.names_set, names, if_pos listed]

theorem withEncoding_again {other : Members}
    (encoded : other.get? "encode" = (following.map .map).or (mark.get? "encode")) :
    withEncoding other following = other := by
  cases following with
  | none => rfl
  | some encode => exact Members.set_of_get? encoded

theorem turnedFrom (follows : FollowingEncoding style mark following)
    (inside : NestedFollowed style mark nested count) :
    TurnedFrom style mark (withEncoding nested following) where
  names := names_withEncoding inside.names follows
  kept := by
    intro name encode marks
    rw [get?_withEncoding_of_ne following encode, inside.kept name marks]
  marks := by
    rw [get?_withEncoding_of_ne following (by decide)]
    exact inside.marks
  plain := by
    intro hidden
    have none : following.isSome ≠ true := by
      rw [Ne, follows.isSome_iff]
      exact fun ⟨channel, shows⟩ => hidden channel shows
    rw [get?_withEncoding following (inside.kept _ (by decide)),
      Option.not_isSome_iff_eq_none.mp none]
    rfl
  showing := by
    intro channel shows
    cases follows with
    | plain hidden => exact absurd shows (hidden channel)
    | @showing encode enter update found entered updated bound =>
        refine ⟨encode, _, _, found, Members.get?_set_self .., Members.names_prefix_set ..,
          fun name other => Members.get?_set_of_ne _ _ other, Members.get?_set_self .., ?_⟩
        rw [map?_getD updated]
        exact updateFollows fun channel => mem_boundChannels found entered

end

/-- Every tree of marks can be made to follow the selection. -/
theorem selectableMark_follows {mark : Value} (tree : mark.IsMarkTree) :
    ∃ after count, Followed style mark after count := by
  classical
  induction tree with
  | @mark members once encode listed _ induction =>
      obtain ⟨following, followed, follows⟩ : ∃ following,
          following? style members = .ok following ∧ FollowingEncoding style members following :=
        following?_eq encode
      obtain ⟨nested, count, inside⟩ := nestedFollowed once listed induction
      have encoded := get?_withEncoding following (inside.kept "encode" (by decide))
      have marks : (withEncoding nested following).get? "marks" = nested.get? "marks" :=
        get?_withEncoding_of_ne following (by decide)
      have names := names_withEncoding inside.names follows
      refine ⟨.map (withEncoding nested following), (if following.isSome then 1 else 0) + count,
        ?_, ?_, ?_, ?_⟩
      · unfold selectableMark
        rw [followed, inside.made]
        rfl
      · intro path
        cases path with
        | nil => exact .some (turnedFrom follows inside)
        | cons place path =>
            have same : (Value.map (withEncoding nested following)).nestedMarks =
                (Value.map nested).nestedMarks := by
              unfold Value.nestedMarks
              rw [Value.map?, Option.bind_some, marks]
              rfl
            rw [Value.markAt?_cons, Value.markAt?_cons, same]
            exact inside.all.turned (place :: path)
      · rw [Value.encard_showingPaths, inside.all.counted]
        simp only [← follows.isSome_iff]
        norm_cast
      · unfold selectableMark
        rw [follows.again followed encoded, inside.again _ (names ▸ once) marks]
        change Except.ok (Value.map (withEncoding (withEncoding nested following) following), _) = _
        rw [withEncoding_again encoded]

/-- Bars that are filled by the color group. -/
def filledBars : Members :=
  [("type", .text "rect"),
    ("encode", .map [
      ("enter", .map [("fill", .map [("scale", .text "color")])]),
      ("update", .map [("fill", .map [("value", .text "red")]),
        ("size", .map [("value", .whole 1)])])])]

/-- A line that does not show the color group. -/
def blackLine : Members :=
  [("type", .text "rule"),
    ("encode", .map [("enter", .map [("stroke", .map [("value", .text "black")])])])]

/-- A group around both, with an outline that shows the color group. -/
def outlinedGroup : Value :=
  .map [("type", .text "group"),
    ("encode", .map [("enter", .map [("stroke", .map [("scale", .text "color")])])]),
    ("marks", .list [.map filledBars, .map blackLine])]

theorem selectableMark_follows_nested : outlinedGroup.IsMarkTree ∧
    ∃ after, Followed {} outlinedGroup after 2 := by
  have bars : (Value.map filledBars).IsMarkTree := by
    refine .mark (by decide) ?_ nofun nofun
    rintro _ ⟨⟩
    exact ⟨_, rfl, fun _ found => ⟨_, (Option.some.inj found).symm⟩,
      fun _ found => ⟨_, (Option.some.inj found).symm⟩⟩
  have line : (Value.map blackLine).IsMarkTree := by
    refine .mark (by decide) ?_ nofun nofun
    rintro _ ⟨⟩
    exact ⟨_, rfl, fun _ found => ⟨_, (Option.some.inj found).symm⟩, nofun⟩
  have tree : outlinedGroup.IsMarkTree := by
    have inside := List.forall_mem_cons.mpr ⟨bars, List.forall_mem_singleton.mpr line⟩
    refine .mark (by decide) ?_ ?_ inside
    · rintro _ ⟨⟩
      exact ⟨_, rfl, fun _ found => ⟨_, (Option.some.inj found).symm⟩, nofun⟩
    · rintro _ ⟨⟩
      exact ⟨_, _, .inl rfl, rfl⟩
  obtain ⟨after, count, followed⟩ : ∃ after count, Followed {} outlinedGroup after count :=
    selectableMark_follows tree
  have two : count = 2 := by
    have made := followed.made
    cases made
    rfl
  exact ⟨tree, after, two ▸ followed⟩

end Legend

end ChartCompiler
