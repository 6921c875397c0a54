import ChartCompiler.Chart.Assembly
import ChartCompiler.Drawing.Basic
import ChartCompiler.Proofs.Document.Changes
import ChartCompiler.Proofs.Drawing.Content
import ChartCompiler.Proofs.Value.Json

/-!
# The parts of a document as JSON

Marks, scales, axes and data sources are written as maps that have each name once, and as lists.
They stay so when marks are made to follow the selection. How deep they are nested depends on the
constants that they show.
-/

namespace ChartCompiler

variable {depth : Nat}

/-! ## Members -/

namespace Value.IsJson

variable {members changes : Members} {name : String} {value : Value}

/-- Members among given names, in their order. -/
theorem of_sublist (names : List String) (within : members.names.Sublist names)
    (once : names.Nodup) (each : ∀ member ∈ members, member.2.IsJson depth) :
    (Value.map members).IsJson (depth + 1) :=
  .map (once.sublist within) each

theorem set (json : (Value.map members).IsJson (depth + 1)) (name : String)
    (given : value.IsJson depth) : (Value.map (members.set name value)).IsJson (depth + 1) := by
  rw [isJson_map] at json ⊢
  exact ⟨Members.nodup_names_set json.1 name value, Members.forall_mem_set given json.2⟩

theorem update (json : (Value.map members).IsJson (depth + 1))
    (given : ∀ member ∈ changes, member.2.IsJson depth) :
    (Value.map (members.update changes)).IsJson (depth + 1) := by
  rw [isJson_map] at json ⊢
  exact ⟨Members.nodup_names_update json.1 changes, Members.forall_mem_update given json.2⟩

/-- The order of the members does not matter. -/
theorem perm {others : Members} (json : (Value.map members).IsJson (depth + 1))
    (same : others.Perm members) : (Value.map others).IsJson (depth + 1) := by
  rw [isJson_map] at json ⊢
  exact ⟨(same.map _).nodup_iff.mpr json.1, fun member inside => json.2 member (same.subset inside)⟩

theorem get? (json : (Value.map members).IsJson (depth + 1))
    (found : members.get? name = some value) : value.IsJson depth :=
  ((isJson_map members).mp json).2 _ (Members.mem_of_get? found)

end Value.IsJson

theorem Members.each_optional {name : String} {value : Option Value}
    (given : ∀ content ∈ value, content.IsJson depth) :
    ∀ member ∈ Members.optional name value, member.2.IsJson depth := by
  cases value with
  | none => exact List.forall_mem_nil _
  | some content => exact List.forall_mem_singleton.mpr (given content rfl)

/-- A plain setting is a single value or a list of numbers. -/
theorem Value.isJson_of_isPlain {value : Value} (plain : value.isPlain = true) :
    value.IsJson (depth + 1) := by
  cases value with
  | number _ | bool _ | text _ => simp
  | list items =>
      simp only [Value.isPlain, List.all_eq_true] at plain
      refine .list fun item inside => ?_
      cases item with
      | number value => exact .number value
      | _ => cases plain _ inside
  | _ => cases plain

/-! ## Marks -/

theorem Encoding.isJson_toValue {encoding : Encoding}
    (constant : ∀ value ∈ encoding.constant?, value.IsJson depth) :
    encoding.toValue.IsJson (depth + 1) := by
  cases encoding with
  | constant value => simpa [toValue] using constant value rfl
  | _ => simp [toValue, Expr.toSignal, Value.whole]

namespace Channels

/-- Whether no channel is set twice. -/
def setsOnce (channels : Channels) : Bool := decide (channels.map (·.1)).Nodup

variable {channels : Channels}

theorem isJson_toValue (once : channels.setsOnce = true)
    (constants : ∀ value ∈ channels.encodings.filterMap Encoding.constant?, value.IsJson depth) :
    channels.toValue.IsJson (depth + 2) := by
  have injective : Function.Injective Channel.name := by
    intro first second same
    cases first <;> cases second <;> first | rfl | exact absurd same (by decide)
  refine .map ?_ (List.forall_mem_map.mpr fun entry inside => Encoding.isJson_toValue ?_)
  · have distinct := (of_decide_eq_true once).map injective
    rw [List.map_map] at distinct
    unfold Members.names
    rw [List.map_map]
    exact distinct
  · exact fun value shown => constants value (List.mem_filterMap.mpr
      ⟨entry.2, List.mem_map_of_mem inside, shown⟩)

theorem names_member_sublist (name : String) (channels : Channels) :
    (channels.member name).names.Sublist [name] := by
  unfold member
  split
  · exact List.nil_sublist _
  · exact List.Sublist.refl _

theorem each_member {name : String} (json : channels.toValue.IsJson depth) :
    ∀ member ∈ channels.member name, member.2.IsJson depth := by
  unfold member
  split
  · exact List.forall_mem_nil _
  · exact List.forall_mem_singleton.mpr json

end Channels

namespace Mark

/-- Whether a mark sets no channel twice in a block. -/
def setsOnce (mark : Mark) : Bool := mark.enter.setsOnce && mark.update.setsOnce

theorem isJson_toMembers {mark : Mark} (once : mark.setsOnce = true)
    (constants : ∀ value ∈ mark.constants, value.IsJson depth) :
    (Value.map mark.toMembers).IsJson (depth + 4) := by
  rcases Bool.and_eq_true_iff.mp once with ⟨enterOnce, updateOnce⟩
  unfold Mark.constants Mark.encodings at constants
  rw [List.filterMap_append, List.forall_mem_append] at constants
  have enter := Channels.isJson_toValue enterOnce constants.1
  have update := Channels.isJson_toValue updateOnce constants.2
  have blocks : (Value.map (("enter", mark.enter.toValue) :: mark.update.member "update")).IsJson
      (depth + 3) :=
    .of_sublist _ (.cons_cons "enter" (Channels.names_member_sublist "update" mark.update))
      (by decide) (List.forall_mem_cons.mpr ⟨enter, Channels.each_member update⟩)
  have clipped : (Members.names (if mark.clipped then [("clip", .bool true)] else [])).Sublist
      ["clip"] := by split <;> simp
  refine .of_sublist (["name"] ++ ["type"] ++ ["from"] ++ ["sort"] ++ ["clip"] ++ ["encode"]) ?_
    (by decide) ?_
  · simp only [Mark.toMembers, Members.names_append]
    exact (((((Members.names_optional_sublist _ _).append (.refl _)).append
      (Members.names_optional_sublist _ _)).append (Members.names_optional_sublist _ _)).append
        clipped).append (.refl _)
  · simp only [Mark.toMembers, List.forall_mem_append, List.forall_mem_singleton]
    refine ⟨⟨⟨⟨⟨Members.each_optional ?_, .text _⟩, Members.each_optional ?_⟩,
      Members.each_optional ?_⟩, ?_⟩, blocks⟩
    · simp
    · simp
    · simp
    · split <;> simp

end Mark

/-! ## Scales and axes -/

theorem ScaleDomain.isJson_toValue {domain : ScaleDomain}
    (stated : ∀ value, domain ≠ .given value) : domain.toValue.IsJson (depth + 2) := by
  cases domain with
  | field source name sorted => cases sorted <;> simp [toValue, domainMembers]
  | fields source names => simp [toValue]
  | labels items => simp [toValue]
  | given value => exact absurd rfl (stated value)

theorem ScaleRange.isJson_toValue {range : ScaleRange} (clear : range.isClear = true)
    (constants : ∀ value ∈ range.constants, value.IsJson depth) :
    range.toValue.IsJson (depth + 2) := by
  cases range with
  | colors items => exact .list fun item inside => (constants item inside).mono (Nat.le_succ depth)
  | given value => cases clear
  | _ => simp [toValue, Expr.toSignal, Value.whole]

namespace Scale

/-- The names of settings. -/
def settingNames : List String := ["padding"] ++ ["round"] ++ ["zero"] ++ ["nice"] ++ ["domainMin"]

theorem names_settings_sublist (scale : Scale) : scale.settings.names.Sublist settingNames := by
  simp only [Scale.settings, Members.names_append]
  exact ((((Members.names_optional_sublist _ _).append (Members.names_optional_sublist _ _)).append
    (Members.names_optional_sublist _ _)).append (Members.names_optional_sublist _ _)).append
      (Members.names_optional_sublist _ _)

/-- A scale that states its domain and range itself. -/
theorem isJson_toMembers {scale : Scale} (stated : ∀ value, scale.domain ≠ .given value)
    (clear : scale.range.isClear = true)
    (constants : ∀ value ∈ scale.range.constants, value.IsJson depth)
    (settings : ∀ setting ∈ scale.settings, setting.2.isPlain = true) :
    (Value.map scale.toMembers).IsJson (depth + 3) := by
  have domain : scale.domain.toValue.IsJson (depth + 2) := ScaleDomain.isJson_toValue stated
  have range := ScaleRange.isJson_toValue clear constants
  refine .of_sublist (["name", "type", "domain", "range"] ++ settingNames) ?_ (by decide) ?_
  · rw [Scale.toMembers, Members.names_append]
    exact (List.Sublist.refl _).append scale.names_settings_sublist
  · rw [Scale.toMembers, List.forall_mem_append]
    exact ⟨by simp [domain, range], fun setting inside =>
      Value.isJson_of_isPlain (settings setting inside)⟩

end Scale

theorem GroupScale.isJson_toMembers {declaration : GroupScale}
    (json : (Value.map declaration.scale.toMembers).IsJson (depth + 3)) :
    (Value.map declaration.toMembers).IsJson (depth + 3) := by
  unfold GroupScale.toMembers
  dsimp only
  split
  · -- The same members in another order.
    refine json.perm ?_
    rw [Scale.toMembers]
    refine List.Perm.append_right _ (.cons _ (.cons _ ?_))
    exact .swap ..
  · exact json

theorem Axis.isJson_toMembers {axis : Axis} (clear : axis.isClear = true) :
    (Value.map axis.toMembers).IsJson (depth + 2) := by
  simp only [Axis.isClear, Bool.and_eq_true, List.all_eq_true] at clear
  refine .update (.of_sublist (["orient", "scale"] ++ ["title"]) ?_ (by decide) ?_)
    fun setting inside => Value.isJson_of_isPlain (clear.2 setting inside).2
  · rw [Members.names_append]
    exact (List.Sublist.refl _).append (Members.names_optional_sublist _ _)
  · rw [List.forall_mem_append]
    exact ⟨by simp, Members.each_optional (by simp)⟩

/-! ## Groups -/

theorem Facet.isJson_toValue (facet : Facet) : facet.toValue.IsJson (depth + 2) := by
  unfold Facet.toValue
  dsimp only
  split <;> split <;> simp

namespace Group

theorem names_listMember_sublist (name : String) (items : List Members) :
    (listMember name items).names.Sublist [name] := by
  unfold listMember
  split
  · exact List.nil_sublist _
  · exact List.Sublist.refl _

theorem each_listMember {name : String} {items : List Members}
    (json : ∀ item ∈ items, (Value.map item).IsJson depth) :
    ∀ member ∈ listMember name items, member.2.IsJson (depth + 1) := by
  unfold listMember
  split
  · exact List.forall_mem_nil _
  · exact List.forall_mem_singleton.mpr (.list (List.forall_mem_map.mpr json))

/-- Whether a group and its marks set no channel twice in a block. -/
def setsOnce (group : Group) : Bool :=
  group.enter.setsOnce && group.update.setsOnce && group.marks.all Mark.setsOnce

theorem names_encodeMember_sublist (group : Group) :
    group.encodeMember.names.Sublist ["encode"] := by
  unfold encodeMember
  dsimp only
  split
  · exact List.nil_sublist _
  · exact List.Sublist.refl _

theorem each_encodeMember {group : Group} (enter : group.enter.toValue.IsJson depth)
    (update : group.update.toValue.IsJson depth) :
    ∀ member ∈ group.encodeMember, member.2.IsJson (depth + 1) := by
  unfold encodeMember
  dsimp only
  split
  · exact List.forall_mem_nil _
  · refine List.forall_mem_singleton.mpr (.of_sublist (["enter"] ++ ["update"]) ?_ (by decide) ?_)
    · rw [Members.names_append]
      exact (Channels.names_member_sublist _ _).append (Channels.names_member_sublist _ _)
    · exact List.forall_mem_append.mpr ⟨Channels.each_member enter, Channels.each_member update⟩

/-- A clear group shows constants in its own blocks and in those of its marks only. -/
theorem isJson_toMembers {group : Group} (clear : group.isClear = true)
    (once : group.setsOnce = true) (constants : ∀ value ∈ group.constants, value.IsJson depth) :
    (Value.map group.toMembers).IsJson (depth + 6) := by
  simp only [Group.isClear, Bool.and_eq_true, List.all_eq_true] at clear
  simp only [Group.setsOnce, Bool.and_eq_true, List.all_eq_true] at once
  unfold Group.constants Group.encodings at constants
  rw [List.filterMap_append, List.forall_mem_append, List.forall_mem_append,
    List.forall_mem_flatMap] at constants
  have enter := Channels.isJson_toValue once.1.1 constants.1.1
  have update := Channels.isJson_toValue once.1.2 constants.1.2
  have marks : ∀ mark ∈ group.marks, (Value.map mark.toMembers).IsJson (depth + 4) :=
    fun mark inside => Mark.isJson_toMembers (once.2 mark inside) (constants.2 mark inside)
  have signals : ∀ signal ∈ group.signals, (Value.map [("name", .text signal.1),
      ("update", .text signal.2.toText)]).IsJson (depth + 4) := by simp
  have scales : ∀ declaration ∈ group.scales,
      (Value.map declaration.toMembers).IsJson (depth + 4) := by
    intro declaration inside
    have scale := clear.1.1.2 declaration inside
    simp only [Scale.isClear, Bool.and_eq_true, List.all_eq_true, List.isEmpty_iff] at scale
    refine GroupScale.isJson_toMembers (Scale.isJson_toMembers ?_ scale.1.1.2 ?_ scale.2)
    · intro value stated
      have domain := scale.1.1.1.2
      rw [stated] at domain
      cases domain
    · rw [scale.1.2]
      exact List.forall_mem_nil _
  have axes : ∀ axis ∈ group.axes, (Value.map axis.toMembers).IsJson (depth + 4) :=
    fun axis inside => Axis.isJson_toMembers (clear.1.2 axis inside)
  refine .of_sublist (["name", "type"] ++ ["from"] ++ ["encode"] ++ ["signals"] ++ ["scales"]
    ++ ["axes"] ++ ["marks"]) ?_ (by decide) ?_
  · simp only [Group.toMembers, Members.names_append]
    exact ((((((List.Sublist.refl _).append (Members.names_optional_sublist _ _)).append
      group.names_encodeMember_sublist).append (names_listMember_sublist _ _)).append
        (names_listMember_sublist _ _)).append (names_listMember_sublist _ _)).append (.refl _)
  · simp only [Group.toMembers, List.forall_mem_append]
    refine ⟨⟨⟨⟨⟨⟨by simp, Members.each_optional ?_⟩, ?_⟩, ?_⟩, ?_⟩, ?_⟩, ?_⟩
    · simp [Facet.isJson_toValue]
    · exact fun member inside => (each_encodeMember enter update member inside).mono (by omega)
    · exact each_listMember (List.forall_mem_map.mpr signals)
    · exact each_listMember (List.forall_mem_map.mpr scales)
    · exact each_listMember (List.forall_mem_map.mpr axes)
    · exact List.forall_mem_singleton.mpr (.list (List.forall_mem_map.mpr marks))

end Group

/-! ## Data sources -/

namespace Transform

theorem isJson_toMembers (step : Transform) : (Value.map step.toMembers).IsJson (depth + 2) := by
  have summarized (summary : Summary) :
      ((summary.field.map Value.text).getD .null).IsJson depth := by
    cases summary.field <;> simp
  cases step with
  | joinAggregate _ groupby | rank _ _ groupby | loess _ _ _ groupby | density _ _ _ _ groupby =>
      cases groupby <;> simp [Transform.toMembers, textList, groupbyMember, summaryMembers,
        densityMembers, Value.real, Value.whole, summarized]
  | regression method groupby =>
      cases method <;> cases groupby <;> simp [Transform.toMembers, textList, groupbyMember,
        orderMembers, Value.whole]
  | _ =>
      simp [Transform.toMembers, textList, summaryMembers, densityMembers, binMembers, Value.real,
        Value.whole, summarized]

end Transform

namespace DataSource

theorem isJson_derived (name source : String) {steps : List Members}
    (json : ∀ step ∈ steps, (Value.map step).IsJson depth) :
    (Value.map (derived name source steps).toMembers).IsJson (depth + 2) := by
  simpa [toMembers, derived] using json

theorem isJson_inline (name : String) {rows : List Members}
    (json : ∀ row ∈ rows, (Value.map row).IsJson depth) :
    (Value.map (inline name rows).toMembers).IsJson (depth + 2) := by
  simpa [toMembers, inline] using json

end DataSource

/-! ## Rows -/

namespace Row

/-- The names of the fields of rows. -/
def fieldNames : List String := ["x", "y"] ++ ["color"] ++ ["ymin"] ++ ["ymax"]

theorem names_toMembers_sublist (row : Row) : row.toMembers.names.Sublist fieldNames := by
  simp only [Row.toMembers, Members.names_append]
  exact (((List.Sublist.refl _).append (Members.names_optional_sublist _ _)).append
    (Members.names_optional_sublist _ _)).append (Members.names_optional_sublist _ _)

theorem each_toMembers (row : Row) : ∀ member ∈ row.toMembers, member.2.IsJson depth := by
  have cell : ∀ content : Cell, content.toValue.IsJson depth := by
    intro content
    cases content <;> simp [Cell.toValue, Value.real]
  simp only [Row.toMembers, List.forall_mem_append]
  refine ⟨⟨⟨by simp [cell], Members.each_optional ?_⟩, Members.each_optional ?_⟩,
    Members.each_optional ?_⟩ <;> simp [Value.real]

theorem isJson_toMembers (row : Row) : (Value.map row.toMembers).IsJson (depth + 1) :=
  .of_sublist _ row.names_toMembers_sublist (by decide) row.each_toMembers

end Row

/-! ## Constants of a style -/

/-- Whether whatever a style puts into a document is JSON of some depth. -/
structure Style.IsJson (depth : Nat) (style : Style) : Prop where
  shown : ∀ value ∈ style.shown, value.IsJson depth
  selectedOpacity : style.selectedOpacity.IsJson depth
  unselectedOpacity : style.unselectedOpacity.IsJson depth
  neutralColor : style.neutralColor.IsJson depth
  schema : style.schema.IsJson depth
  padding : ∀ members, style.padding.documentMembers = .ok members →
    (Value.map members).IsJson (depth + 1)
  legendPaddingRight : style.legendPaddingRight.IsJson depth

/-- The constants of the standard style are single values. -/
theorem Style.standard_isJson : ({} : Style).IsJson depth where
  shown := by simp [shown, standardPalette, Value.whole]
  selectedOpacity := .number _
  unselectedOpacity := .number _
  neutralColor := .text _
  schema := .text _
  padding := by
    rintro members ⟨⟩
    simp [standardPadding, Value.whole]
  legendPaddingRight := .number _

theorem Style.IsJson.known {style : Style} (json : style.IsJson depth) {value : Value}
    (known : style.Knows value) : value.IsJson (depth + 1) := by
  rcases known with shown | plain
  · exact (json.shown value shown).mono (Nat.le_succ depth)
  · exact Value.isJson_of_isPlain plain

/-! ## Marks that follow the selection -/

namespace Legend

variable {style : Style} {level : Nat}

theorem isJson_selectionOpacity (constants : style.IsJson depth) (test : String) :
    (selectionOpacity (.text test) style).IsJson (depth + 2) := by
  simp [selectionOpacity, choice, constant, constants.selectedOpacity, constants.unselectedOpacity]

theorem isJson_channelRule (constants : style.IsJson depth) :
    (channelRule style).IsJson (depth + 2) := by
  simp [channelRule, choice, constant, markTest, constants.neutralColor]

/-- An update block that follows the selection has room for the constants that it chooses from. -/
theorem isJson_withRules (constants : style.IsJson depth) {update : Members}
    (json : (Value.map update).IsJson (level + 1)) (room : depth + 2 ≤ level)
    (channels : List String) :
    (Value.map (withRules style channels update)).IsJson (level + 1) := by
  have rule := (isJson_channelRule constants).mono room
  have all {members : Members} (before : (Value.map members).IsJson (level + 1)) :
      (Value.map (channels.foldl (fun (result : Members) channel =>
        result.set channel (channelRule style)) members)).IsJson (level + 1) := by
    induction channels generalizing members with
    | nil => exact before
    | cons channel rest induction => exact induction (before.set channel rule)
  have opacity : (selectionOpacity markTest style).IsJson level :=
    (isJson_selectionOpacity constants _).mono room
  exact all (json.set "opacity" opacity)

theorem isJson_followingEncoding? (constants : style.IsJson depth) {encode after : Members}
    (followed : followingEncoding? style encode = .ok (some after))
    (json : (Value.map encode).IsJson (level + 1)) :
    (Value.map after).IsJson (depth + 4 + (level + 1)) := by
  rcases followingEncoding?_eq_some followed with ⟨enter, update, _, _, updated, rfl⟩
  have given : (Value.map update).IsJson (depth + 3 + level + 1) := by
    rw [← updated]
    cases found : encode.get? "update" with
    | none => exact (Value.isJson_map []).mpr ⟨List.nodup_nil, List.forall_mem_nil _⟩
    | some value => exact (json.get? found).mono (by omega)
  have rules := isJson_withRules constants given (by omega) (boundChannels enter)
  have block := rules.mono (show depth + 3 + level + 1 ≤ depth + 4 + level by omega)
  exact (json.mono (show level + 1 ≤ depth + 4 + level + 1 by omega)).set "update" block

theorem isJson_withEncoding (constants : style.IsJson depth) {members nested : Members}
    {encode : Option Members} (followed : following? style members = .ok encode)
    (before : (Value.map members).IsJson (level + 1))
    (inner : (Value.map nested).IsJson (depth + 4 + (level + 1))) :
    (Value.map (withEncoding nested encode)).IsJson (depth + 4 + (level + 1)) := by
  cases encode with
  | none => exact inner
  | some after =>
      rcases following?_eq_some followed with ⟨given, found, followed⟩
      have known := before.get? found
      refine Value.IsJson.set inner "encode" ?_
      cases known with
      | map once each => exact isJson_followingEncoding? constants followed (.map once each)

/-- Whether a value becomes at most as much deeper as the rules for the selection are deep. -/
def Deepens (depth : Nat) (before after : Value) : Prop :=
  ∀ ⦃level : Nat⦄, before.IsJson level → after.IsJson (depth + 4 + level)

theorem MemberChange.deepens {member changed : String × Value}
    (change : MemberChange (Deepens depth) member changed) : Deepens depth member.2 changed.2 := by
  intro level before
  cases change with
  | kept _ => exact before.mono (Nat.le_add_left level (depth + 4))
  | list each =>
      cases before with
      | list held =>
          exact .list (forall_mem_of_changes (each.imp fun _ _ deepens mark => deepens mark) held)
  | tuple each => cases before

theorem isJson_selectableMarks (constants : style.IsJson depth) {marks changed : List Value}
    {count : Nat} (made : selectableMarks style marks = .ok (changed, count)) {level : Nat}
    (before : ∀ mark ∈ marks, mark.IsJson level) :
    ∀ mark ∈ changed, mark.IsJson (depth + 4 + level) := by
  have step : ChangesWithNested style (Deepens depth) := by
    intro members nested encode followed changes level json
    cases json with
    | map once each =>
        refine isJson_withEncoding constants followed (.map once each) (.map ?_ ?_)
        · exact changes.names_eq ▸ once
        · exact forall_mem_of_changes (changes.imp fun _ _ change held => change.deepens held) each
  have changes := selectableMarks_change step made
  exact forall_mem_of_changes (changes.imp fun _ _ deepens held => deepens held) before

end Legend

end ChartCompiler
