import ChartCompiler.Proofs.Drawing.Content
import ChartCompiler.Proofs.Drawing.Rendered
import ChartCompiler.Proofs.References.Within

/-!
# References of rendered drawings

The references that are found in a rendered mark, group, axis or range are those that the drawing
makes, apart from what its constants refer to.
-/

namespace ChartCompiler

open Value (RefersOnly)
open Members (ReferOnly)

variable {hidden : List String} {allowed : String → Prop}

/-! ## Expressions and encodings -/

theorem Expr.refersOnly_toText {expression : Expr} (clear : expression.isClear = true)
    (calls : ∀ name ∈ expression.calls scaleFunctions, name ∉ hidden → allowed name) :
    (Value.text expression.toText).RefersOnly hidden allowed := by
  apply RefersOnly.text
  unfold scaleCalls
  rw [Expr.quotedCalls_toText scaleFunctions_quoting expression clear]
  exact calls

theorem Expr.refersOnly_toSignal {expression : Expr} (clear : expression.isClear = true)
    (calls : ∀ name ∈ expression.calls scaleFunctions, name ∉ hidden → allowed name) :
    expression.toSignal.RefersOnly hidden allowed :=
  .map rfl nofun (.cons (fun _ => refersOnly_toText clear calls) .nil)

/-- A map that is placed by a scale. -/
theorem Value.RefersOnly.placed {name : String} {rest : Members}
    (undeclared : rest.get? "scales" = none) (scale : name ∉ hidden → allowed name)
    (others : rest.ReferOnly hidden allowed) :
    (Value.map (("scale", .text name) :: rest)).RefersOnly hidden allowed := by
  apply RefersOnly.map
  · rw [Members.get?_cons_of_ne (by decide)]
    exact undeclared
  · intro other member
    have same : other = name := List.mem_singleton.mp (by
      simpa [References.direct] using member)
    rw [same]
    exact scale
  · exact .cons (fun named => absurd rfl named) others

theorem Encoding.refersOnly {encoding : Encoding} (clear : encoding.isClear = true)
    (constant : ∀ value, encoding.constant? = some value → value.RefersOnly hidden allowed)
    (references : ∀ name ∈ encoding.references, name ∉ hidden → allowed name) :
    encoding.toValue.RefersOnly hidden allowed := by
  cases encoding with
  | constant value => exact .map rfl nofun (.cons (fun _ => constant value rfl) .nil)
  | signal expression =>
      refine Expr.refersOnly_toSignal clear fun name member => references name ?_
      simpa [Encoding.references, Encoding.scale?, Encoding.expression?] using member
  | field scale field =>
      have isWord : Expr.isField field = true := by
        simpa [Encoding.isClear, Encoding.field?, Encoding.expression?] using clear
      exact .placed rfl (references scale.text (List.mem_cons_self ..))
        (.cons (fun _ => .word isWord) .nil)
  | inBand scale field share =>
      have isWord : Expr.isField field = true := by
        simpa [Encoding.isClear, Encoding.field?, Encoding.expression?] using clear
      exact .placed rfl (references scale.text (List.mem_cons_self ..))
        (.cons (fun _ => .word isWord) (.cons (fun _ => .number share) .nil))
  | place scale value =>
      exact .placed rfl (references scale.text (List.mem_cons_self ..))
        (.cons (fun _ => .number _) .nil)
  | bandShare scale share =>
      exact .placed rfl (references scale.text (List.mem_cons_self ..))
        (.cons (fun _ => .number share) .nil)

theorem Channel.name_ne_scale (channel : Channel) :
    channel.name ≠ "scale" ∧ channel.name ≠ "scales" := by
  cases channel <;> decide

theorem Channels.get?_eq_none {channels : Channels} {name : String}
    (different : ∀ channel : Channel, channel.name ≠ name) :
    Members.get? (channels.map fun (channel, encoding) => (channel.name, encoding.toValue)) name
      = none := by
  rw [Members.get?_eq_none_iff]
  intro member inside
  rcases List.mem_map.mp inside with ⟨⟨channel, encoding⟩, _, rfl⟩
  exact different channel

theorem Channels.refersOnly {channels : Channels}
    (each : ∀ encoding ∈ channels.encodings, encoding.toValue.RefersOnly hidden allowed) :
    channels.toValue.RefersOnly hidden allowed := by
  apply RefersOnly.map
  · exact get?_eq_none fun channel => channel.name_ne_scale.2
  · unfold References.direct
    rw [get?_eq_none fun channel => channel.name_ne_scale.1]
    nofun
  · intro member inside _
    rcases List.mem_map.mp inside with ⟨⟨channel, encoding⟩, listed, rfl⟩
    exact each encoding (List.mem_map_of_mem listed)

/-- The members of a mark that hold its channels. -/
theorem Channels.referOnly_member {channels : Channels} (name : String)
    (each : ∀ encoding ∈ channels.encodings, encoding.toValue.RefersOnly hidden allowed) :
    (channels.member name).ReferOnly hidden allowed := by
  unfold Channels.member
  split
  · exact .nil
  · exact .cons (fun _ => Channels.refersOnly each) .nil

/-! ## Marks -/

theorem Mark.encoding_refersOnly {mark : Mark} (clear : mark.isClear = true)
    (constants : ∀ value ∈ mark.constants, value.RefersOnly hidden allowed)
    (references : ∀ name ∈ mark.references, name ∉ hidden → allowed name) :
    ∀ encoding ∈ mark.encodings, encoding.toValue.RefersOnly hidden allowed := by
  intro encoding inside
  simp only [Mark.isClear, Bool.and_eq_true, List.all_eq_true] at clear
  refine Encoding.refersOnly (clear.2 encoding inside) (fun value shown => ?_)
    (fun name member => ?_)
  · exact constants value (List.mem_filterMap.mpr ⟨encoding, inside, shown⟩)
  · exact references name (List.mem_append_left _ (List.mem_flatMap.mpr
      ⟨encoding, inside, member⟩))

theorem Mark.referOnly {mark : Mark} (clear : mark.isClear = true)
    (constants : ∀ value ∈ mark.constants, value.RefersOnly hidden allowed)
    (references : ∀ name ∈ mark.references, name ∉ hidden → allowed name) :
    mark.toMembers.ReferOnly hidden allowed := by
  have encodings := Mark.encoding_refersOnly clear constants references
  simp only [Mark.isClear, Bool.and_eq_true] at clear
  rcases clear with ⟨⟨⟨nameClear, sourceClear⟩, sortClear⟩, _⟩
  have name : (Members.optional "name" (mark.name.map Value.text)).ReferOnly hidden allowed := by
    refine .optional fun value named => ?_
    rcases Option.map_eq_some_iff.mp named with ⟨content, present, rfl⟩
    exact .word (by simpa [present] using nameClear)
  have type : (Value.text mark.type.name).RefersOnly hidden allowed :=
    .word (by cases mark.type <;> decide)
  have source : (Members.optional "from" (mark.source.map fun source =>
      Value.map [("data", .text source)])).ReferOnly hidden allowed := by
    refine .optional fun value read => ?_
    rcases Option.map_eq_some_iff.mp read with ⟨content, present, rfl⟩
    exact .map rfl nofun (.cons (fun _ => .word (by simpa [present] using sourceClear)) .nil)
  have sort : (Members.optional "sort" (mark.sort.map fun order =>
      Value.map [("field", .text order.toText)])).ReferOnly hidden allowed := by
    refine .optional fun value sorted => ?_
    rcases Option.map_eq_some_iff.mp sorted with ⟨order, present, rfl⟩
    refine .map rfl nofun (.cons (fun _ => Expr.refersOnly_toText
      (by simpa [present] using sortClear) fun name member => ?_) .nil)
    exact references name (List.mem_append_right _ (by simpa [present] using member))
  have clip : Members.ReferOnly hidden allowed
      (if mark.clipped then [("clip", .bool true)] else []) := by
    split
    · exact .cons (fun _ => .bool true) .nil
    · exact .nil
  have encode : (Value.map mark.blocks).RefersOnly hidden allowed := by
    have entered := List.forall_mem_append.mp encodings
    refine .map ?_ ?_ (.cons (fun _ => Channels.refersOnly entered.1)
      (Channels.referOnly_member "update" entered.2))
    · simp [Mark.get?_blocks]
    · simp [References.direct, Mark.get?_blocks]
  unfold Mark.toMembers
  exact ((((name.append (.cons (fun _ => type) .nil)).append source).append sort).append
    clip).append (.cons (fun _ => encode) .nil)

theorem Mark.refersOnly {mark : Mark} (clear : mark.isClear = true)
    (constants : ∀ value ∈ mark.constants, value.RefersOnly hidden allowed)
    (references : ∀ name ∈ mark.references, name ∉ hidden → allowed name) :
    (Value.map mark.toMembers).RefersOnly hidden allowed := by
  apply RefersOnly.map
  · exact mark.get?_absent (by decide)
  · unfold References.direct
    rw [mark.get?_absent (by decide)]
    nofun
  · exact Mark.referOnly clear constants references

/-! ## Plain settings, axes and scales -/

theorem Value.RefersOnly.of_isPlain {value : Value} (plain : value.isPlain = true) :
    value.RefersOnly hidden allowed := by
  cases value with
  | number value => exact .number value
  | bool value => exact .bool value
  | text content =>
      apply RefersOnly.text
      have none : scaleCalls content = [] :=
        quotedCalls_eq_nil scaleFunctions_quoting.words (by simpa [Value.isPlain] using plain)
      rw [none]
      nofun
  | list items =>
      refine .list fun item inside => ?_
      simp only [Value.isPlain, List.all_eq_true] at plain
      cases item with
      | number value => exact .number value
      | _ => cases plain _ inside
  | _ => cases plain

theorem Axis.refersOnly {axis : Axis} (clear : axis.isClear = true)
    (scale : axis.scale.text ∉ hidden → allowed axis.scale.text) :
    (Value.map axis.toMembers).RefersOnly hidden allowed := by
  simp only [Axis.isClear, Bool.and_eq_true, List.all_eq_true, decide_eq_true_eq] at clear
  rcases clear with ⟨titleClear, stylingClear⟩
  have title : (Members.optional "title" (axis.title.map Value.text)).ReferOnly hidden
      allowed := by
    refine .optional fun value named => ?_
    rcases Option.map_eq_some_iff.mp named with ⟨content, present, rfl⟩
    exact .of_isPlain (by simpa [present] using titleClear)
  have side : (Value.text axis.side.name).RefersOnly hidden allowed :=
    .word (by cases axis.side <;> rfl)
  have base : Members.ReferOnly hidden allowed ([("orient", .text axis.side.name),
      ("scale", .text axis.scale.text)] ++ Members.optional "title" (axis.title.map .text)) :=
    .append (.cons (fun _ => side) (.cons (fun named => absurd rfl named) .nil)) title
  unfold Axis.toMembers axisMembers
  refine .map ?_ ?_ (Members.forall_mem_update (fun change inside _ => ?_) base)
  · rw [Members.get?_update_of_notMem fun member inside => (stylingClear member inside).1.2]
    simp [Members.get?_cons, Members.get?_optional]
  · unfold References.direct
    rw [Members.get?_update_of_notMem fun member inside => (stylingClear member inside).1.1]
    simpa [Members.get?_cons] using scale
  · exact .of_isPlain (stylingClear change inside).2

theorem ScaleDomain.refersOnly {domain : ScaleDomain} (clear : domain.isClear = true) :
    domain.toValue.RefersOnly hidden allowed := by
  cases domain with
  | field source name sorted =>
      simp only [ScaleDomain.isClear, Bool.and_eq_true] at clear
      have order : Members.ReferOnly hidden allowed
          (if sorted then [("sort", .bool true)] else []) := by
        split
        · exact .cons (fun _ => .bool true) .nil
        · exact .nil
      refine .map ?_ ?_ (.append (.cons (fun _ => .word clear.1) (.cons (fun _ => .word clear.2)
        .nil)) order)
      · cases sorted <;> rfl
      · cases sorted <;> nofun
  | fields source names =>
      simp only [ScaleDomain.isClear, Bool.and_eq_true, List.all_eq_true] at clear
      refine .map rfl nofun (.cons (fun _ => .word clear.1) (.cons (fun _ => .list fun item inside =>
        ?_) .nil))
      rcases List.mem_map.mp inside with ⟨name, listed, rfl⟩
      exact .word (clear.2 name listed)
  | labels items => cases clear
  | given value => cases clear

theorem ScaleRange.refersOnly {range : ScaleRange} (clear : range.isClear = true)
    (constants : ∀ value ∈ range.constants, value.RefersOnly hidden allowed)
    (references : ∀ name ∈ range.references, name ∉ hidden → allowed name) :
    range.toValue.RefersOnly hidden allowed := by
  have calls : ∀ expression, range.expression? = some expression →
      ∀ name ∈ expression.calls scaleFunctions, name ∉ hidden → allowed name := by
    intro expression computed name member
    exact references name (by simpa [ScaleRange.references, computed] using member)
  cases range with
  | extent dimension => exact .word (by cases dimension <;> rfl)
  | colors items => exact .list constants
  | signal expression => exact Expr.refersOnly_toSignal clear (calls expression rfl)
  | upTo limit =>
      have signal := Expr.refersOnly_toSignal clear (calls limit rfl)
      exact .list (List.forall_mem_cons.mpr ⟨.number _, List.forall_mem_singleton.mpr signal⟩)
  | downFrom limit =>
      have signal := Expr.refersOnly_toSignal clear (calls limit rfl)
      exact .list (List.forall_mem_cons.mpr ⟨signal, List.forall_mem_singleton.mpr (.number _)⟩)
  | given value => cases clear

theorem GroupScale.refersOnly {declaration : GroupScale}
    (clear : declaration.scale.isClear = true)
    (references : ∀ name ∈ declaration.scale.range.references, name ∉ hidden → allowed name) :
    (Value.map declaration.toMembers).RefersOnly hidden allowed := by
  simp only [Scale.isClear, Bool.and_eq_true, List.all_eq_true] at clear
  rcases clear with ⟨⟨⟨⟨nameClear, domainClear⟩, rangeClear⟩, uncolored⟩, settingsClear⟩
  have name : (Value.text declaration.scale.name).RefersOnly hidden allowed := .word nameClear
  have kind : (Value.text declaration.scale.kind.text).RefersOnly hidden allowed :=
    .word (by cases declaration.scale.kind <;> rfl)
  have domain : declaration.scale.domain.toValue.RefersOnly hidden allowed :=
    ScaleDomain.refersOnly domainClear
  have range := ScaleRange.refersOnly rangeClear (fun value inside => by
    rw [List.isEmpty_iff.mp uncolored] at inside
    cases inside) references
  have settings : declaration.scale.settings.ReferOnly hidden allowed :=
    fun member inside _ => .of_isPlain (settingsClear member inside)
  have plain : ∀ name ∈ ["scale", "scales"], declaration.scale.settings.get? name = none := by
    simp [Scale.settings, Members.get?_append, Members.get?_optional]
  unfold GroupScale.toMembers Scale.toMembers
  dsimp only
  split
  · refine .map ?_ ?_ (.append (.cons (fun _ => name) (.cons (fun _ => kind)
      (.cons (fun _ => range) (.cons (fun _ => domain) .nil)))) settings)
    · simpa [Members.get?_cons] using plain "scales" (by decide)
    · simp [References.direct, Members.get?_cons, plain "scale" (by decide)]
  · refine .map ?_ ?_ (.append (.cons (fun _ => name) (.cons (fun _ => kind)
      (.cons (fun _ => domain) (.cons (fun _ => range) .nil)))) settings)
    · simpa [Members.get?_cons] using plain "scales" (by decide)
    · simp [References.direct, Members.get?_cons, plain "scale" (by decide)]

/-! ## Groups -/

theorem GroupScale.get?_name (declaration : GroupScale) :
    declaration.toMembers.get? "name" = some (.text declaration.scale.name) := by
  unfold GroupScale.toMembers
  split <;> rfl

theorem GroupScale.mapM_declaredName (declarations : List GroupScale) :
    ((declarations.map GroupScale.toMembers).map Value.map).mapM References.declaredName
      = .ok (declarations.map fun declaration => .text declaration.scale.name) := by
  have named : ∀ declaration : GroupScale,
      References.declaredName (.map declaration.toMembers) = .ok (.text declaration.scale.name) := by
    intro declaration
    simp [References.declaredName, Value.memberOf, GroupScale.get?_name, Value.isKey, bind,
      Except.bind, pure, Except.pure]
  induction declarations with
  | nil => rfl
  | cons head rest induction =>
      rw [List.map_cons, List.map_cons, List.mapM_cons, named, induction]
      rfl

theorem GroupScale.textsOf_names (declarations : List GroupScale) :
    References.textsOf (declarations.map fun declaration => .text declaration.scale.name)
      = declarations.map (·.scale.name) := by
  induction declarations with
  | nil => rfl
  | cons head rest induction => exact congrArg (_ :: ·) induction

theorem Group.ownScales_toMembers (group : Group) :
    References.ownScales group.toMembers = .ok group.declared := by
  have isGroup : References.isGroup group.toMembers = true := by simp [References.isGroup]
  unfold References.ownScales Group.declared
  rw [group.get?_scales, isGroup]
  cases group.scales with
  | nil => rfl
  | cons head rest =>
      have declares := GroupScale.mapM_declaredName (head :: rest)
      have names := GroupScale.textsOf_names (head :: rest)
      simp only [List.cons_ne_nil, if_false, Value.isTruthy, List.map_cons, List.isEmpty_cons,
        Bool.not_false, Bool.and_self, if_true, Value.itemsOf, Value.elements?, bind,
        Except.bind] at declares names ⊢
      rw [declares]
      exact congrArg Except.ok names

theorem Facet.refersOnly {facet : Facet} (clear : facet.isClear = true) :
    facet.toValue.RefersOnly hidden allowed := by
  simp only [Facet.isClear, Bool.and_eq_true, List.all_eq_true] at clear
  rcases clear with ⟨⟨nameClear, sourceClear⟩, groupbyClear⟩
  have name : (Value.text facet.name).RefersOnly hidden allowed := .word nameClear
  have source : (Value.text facet.source).RefersOnly hidden allowed := .word sourceClear
  have written : ∃ fields, fields.RefersOnly hidden allowed ∧ facet.toValue = .map
      ((if facet.sourceFirst then [("data", .text facet.source), ("name", .text facet.name)]
        else [("name", .text facet.name), ("data", .text facet.source)])
        ++ [("groupby", fields)]) := by
    refine ⟨_, ?_, rfl⟩
    split
    · next field single => exact .word (groupbyClear field (by simp [single]))
    · refine .list fun item member => ?_
      rcases List.mem_map.mp member with ⟨field, inside, rfl⟩
      exact .word (groupbyClear field inside)
  rcases written with ⟨fields, groupby, equal⟩
  rw [equal]
  have last : ReferOnly hidden allowed [("groupby", fields)] := .cons (fun _ => groupby) .nil
  cases facet.sourceFirst with
  | false =>
      exact .map rfl (List.forall_mem_nil _)
        (.append (.cons (fun _ => name) (.cons (fun _ => source) .nil)) last)
  | true =>
      exact .map rfl (List.forall_mem_nil _)
        (.append (.cons (fun _ => source) (.cons (fun _ => name) .nil)) last)

theorem Group.listMember_referOnly (name : String) {items : List Members}
    (each : ∀ item ∈ items, (Value.map item).RefersOnly hidden allowed) :
    (Group.listMember name items).ReferOnly hidden allowed := by
  unfold Group.listMember
  split
  · exact .nil
  · refine .cons (fun _ => .list fun item member => ?_) .nil
    rcases List.mem_map.mp member with ⟨members, inside, rfl⟩
    exact each members inside

namespace Group

variable {group : Group}

theorem mem_references {name : String} (inside : name ∈ group.innerReferences)
    (foreign : name ∉ group.declared) : name ∈ group.references :=
  List.mem_filter.mpr ⟨inside, by simpa using foreign⟩

theorem encoding_refersOnly (clear : group.encodings.all Encoding.isClear = true)
    (constants : ∀ value ∈ group.constants, value.RefersOnly group.declared allowed)
    (references : ∀ name ∈ group.references, allowed name) :
    ∀ encoding ∈ group.encodings, encoding.toValue.RefersOnly group.declared allowed := by
  intro encoding inside
  refine Encoding.refersOnly (List.all_eq_true.mp clear encoding inside) (fun value shown => ?_)
    (fun name member foreign => references name (mem_references ?_ foreign))
  · exact constants value (List.mem_append_left _ (List.mem_filterMap.mpr
      ⟨encoding, inside, shown⟩))
  · simp only [innerReferences, List.mem_append, List.mem_flatMap]
    exact .inl (.inl (.inl (.inl ⟨encoding, inside, member⟩)))

theorem encodeMember_referOnly
    (encodings : ∀ encoding ∈ group.encodings, encoding.toValue.RefersOnly hidden allowed) :
    group.encodeMember.ReferOnly hidden allowed := by
  rcases List.forall_mem_append.mp encodings with ⟨entered, updated⟩
  unfold encodeMember
  dsimp only
  split
  · exact .nil
  · refine .cons (fun _ => .map ?_ ?_ (.append (Channels.referOnly_member "enter" entered)
      (Channels.referOnly_member "update" updated))) .nil
    · simp [Members.get?_append, Members.get?_channels]
    · simp [References.direct, Members.get?_append, Members.get?_channels]

theorem signalMembers_refersOnly
    (clear : group.signals.all (fun signal => Expr.isField signal.1 && signal.2.isClear) = true)
    (references : ∀ name ∈ group.references, allowed name) :
    ∀ members ∈ group.signalMembers, (Value.map members).RefersOnly group.declared allowed := by
  intro members listed
  rcases List.mem_map.mp listed with ⟨⟨signal, expression⟩, inside, rfl⟩
  rcases Bool.and_eq_true_iff.mp (List.all_eq_true.mp clear _ inside) with
    ⟨signalClear, expressionClear⟩
  have update : (Value.text expression.toText).RefersOnly group.declared allowed := by
    refine Expr.refersOnly_toText expressionClear fun name called foreign =>
      references name (mem_references ?_ foreign)
    simp only [innerReferences, List.mem_append, List.mem_flatMap]
    exact .inl (.inl (.inl (.inr ⟨(signal, expression), inside, called⟩)))
  exact .map rfl nofun (.cons (fun _ => .word signalClear) (.cons (fun _ => update) .nil))

theorem scale_refersOnly (clear : group.scales.all (·.scale.isClear) = true)
    (references : ∀ name ∈ group.references, allowed name) :
    ∀ scale ∈ group.scales, (Value.map scale.toMembers).RefersOnly group.declared allowed := by
  intro scale inside
  refine GroupScale.refersOnly (List.all_eq_true.mp clear scale inside)
    fun name member foreign => references name (mem_references ?_ foreign)
  simp only [innerReferences, List.mem_append, List.mem_flatMap]
  exact .inl (.inl (.inr ⟨scale, inside, member⟩))

theorem axis_refersOnly (clear : group.axes.all Axis.isClear = true)
    (references : ∀ name ∈ group.references, allowed name) :
    ∀ axis ∈ group.axes, (Value.map axis.toMembers).RefersOnly group.declared allowed := by
  intro axis inside
  refine Axis.refersOnly (List.all_eq_true.mp clear axis inside)
    fun foreign => references _ (mem_references ?_ foreign)
  simp only [innerReferences, List.mem_append, List.mem_map]
  exact .inl (.inr ⟨axis, inside, rfl⟩)

theorem mark_refersOnly (clear : group.marks.all Mark.isClear = true)
    (constants : ∀ value ∈ group.constants, value.RefersOnly group.declared allowed)
    (references : ∀ name ∈ group.references, allowed name) :
    ∀ mark ∈ group.marks, (Value.map mark.toMembers).RefersOnly group.declared allowed := by
  intro mark inside
  refine Mark.refersOnly (List.all_eq_true.mp clear mark inside) (fun value shown => ?_)
    (fun name member foreign => references name (mem_references ?_ foreign))
  · exact constants value (List.mem_append_right _ (List.mem_flatMap.mpr ⟨mark, inside, shown⟩))
  · simp only [innerReferences, List.mem_append, List.mem_flatMap]
    exact .inr ⟨mark, inside, member⟩

/-- A group hides the scales that it declares from the search. -/
theorem refersOnly (clear : group.isClear = true)
    (constants : ∀ value ∈ group.constants, value.RefersOnly group.declared allowed)
    (references : ∀ name ∈ group.references, allowed name) :
    (Value.map group.toMembers).RefersOnly [] allowed := by
  simp only [isClear, Bool.and_eq_true] at clear
  rcases clear with ⟨⟨⟨⟨⟨⟨nameClear, facetClear⟩, encodingClear⟩, signalClear⟩, scaleClear⟩,
    axisClear⟩, markClear⟩
  have encode := encodeMember_referOnly (encoding_refersOnly encodingClear constants references)
  have signals := listMember_referOnly "signals"
    (signalMembers_refersOnly signalClear references)
  have facet : (Members.optional "from" (group.facet.map fun facet =>
      Value.map [("facet", facet.toValue)])).ReferOnly group.declared allowed := by
    refine .optional fun value repeated => ?_
    rcases Option.map_eq_some_iff.mp repeated with ⟨facet, present, rfl⟩
    have clear : facet.isClear = true := by simpa [present] using facetClear
    exact .map rfl nofun (.cons (fun _ => Facet.refersOnly clear) .nil)
  refine .declaring group.ownScales_toMembers (by simp [References.direct]) ?_
  rw [List.nil_append]
  unfold toMembers
  refine .append (.append (.append (.append (.append (.append ?_ facet) encode) signals) ?_) ?_) ?_
  · exact .cons (fun _ => .word nameClear) (.cons (fun _ => .word rfl) .nil)
  · refine listMember_referOnly _ fun item member => ?_
    rcases List.mem_map.mp member with ⟨scale, inside, rfl⟩
    exact scale_refersOnly scaleClear references scale inside
  · refine listMember_referOnly _ fun item member => ?_
    rcases List.mem_map.mp member with ⟨axis, inside, rfl⟩
    exact axis_refersOnly axisClear references axis inside
  · refine .cons (fun _ => .list fun item member => ?_) .nil
    rcases List.mem_map.mp member with ⟨mark, inside, rfl⟩
    exact mark_refersOnly markClear constants references mark inside

end Group

end ChartCompiler
