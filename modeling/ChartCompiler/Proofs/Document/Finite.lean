import ChartCompiler.Chart.Assembly
import ChartCompiler.Drawing.Basic
import ChartCompiler.Proofs.Document.Changes
import ChartCompiler.Proofs.Drawing.Content
import ChartCompiler.Proofs.Random.Offsets
import ChartCompiler.Proofs.Value.Finite

/-!
# Finite numbers in the parts of a document

Which numbers the members of marks, scales, axes and data sources hold, and that marks hold only
finite ones also after they were made to follow the selection.
-/

namespace ChartCompiler

/-! ## Marks -/

namespace Encoding

/-- Whether an encoding holds only finite numbers. -/
def OnlyFinite (encoding : Encoding) : Prop := encoding.toValue.OnlyFinite

@[simp] theorem onlyFinite_constant (value : Value) :
    (constant value).OnlyFinite ↔ value.OnlyFinite := by simp [OnlyFinite, toValue]

@[simp] theorem onlyFinite_signal (expression : Expr) : (signal expression).OnlyFinite := by
  simp [OnlyFinite, toValue, Expr.toSignal]

@[simp] theorem onlyFinite_field (scale : ScaleName) (name : String) :
    (field scale name).OnlyFinite := by simp [OnlyFinite, toValue]

@[simp] theorem onlyFinite_inBand (scale : ScaleName) (name : String) (share : Number) :
    (inBand scale name share).OnlyFinite ↔ share.isFinite = true := by
  simp [OnlyFinite, toValue]

@[simp] theorem onlyFinite_place (scale : ScaleName) (value : Int) :
    (place scale value).OnlyFinite := by simp [OnlyFinite, toValue]

@[simp] theorem onlyFinite_bandShare (scale : ScaleName) (share : Number) :
    (bandShare scale share).OnlyFinite ↔ share.isFinite = true := by simp [OnlyFinite, toValue]

@[simp] theorem onlyFinite_textConstant (content : String) : (text content).OnlyFinite := by
  simp [text]

@[simp] theorem onlyFinite_numberConstant (value : Number) :
    (number value).OnlyFinite ↔ value.isFinite = true := by simp [number]

end Encoding

namespace Channels

/-- Whether all encodings of some channels hold only finite numbers. -/
def OnlyFinite (channels : Channels) : Prop := ∀ entry ∈ channels, entry.2.OnlyFinite

@[simp] theorem onlyFinite_nil : Channels.OnlyFinite [] := List.forall_mem_nil _

@[simp] theorem onlyFinite_cons (channel : Channel) (encoding : Encoding) (rest : Channels) :
    Channels.OnlyFinite ((channel, encoding) :: rest) ↔ encoding.OnlyFinite ∧ rest.OnlyFinite :=
  List.forall_mem_cons

@[simp] theorem onlyFinite_append (left right : Channels) :
    Channels.OnlyFinite (left ++ right) ↔ left.OnlyFinite ∧ right.OnlyFinite :=
  List.forall_mem_append

variable {channels : Channels}

theorem OnlyFinite.toValue (finite : channels.OnlyFinite) : channels.toValue.OnlyFinite := by
  unfold Channels.toValue
  rw [Value.onlyFinite_map]
  exact List.forall_mem_map.mpr finite

theorem OnlyFinite.member (finite : channels.OnlyFinite) (name : String) :
    (channels.member name).OnlyFinite := by
  unfold Channels.member
  split
  · exact List.forall_mem_nil _
  · exact List.forall_mem_singleton.mpr finite.toValue

end Channels

theorem Mark.onlyFinite_toMembers {mark : Mark} (enter : mark.enter.OnlyFinite)
    (update : mark.update.OnlyFinite) : mark.toMembers.OnlyFinite := by
  have clipped : Members.OnlyFinite (if mark.clipped then [("clip", .bool true)] else []) := by
    split <;> simp
  simp [Mark.toMembers, enter.toValue, update.member "update", clipped]

/-! ## Scales and axes -/

@[simp] theorem Expr.onlyFinite_toSignal (expression : Expr) : expression.toSignal.OnlyFinite := by
  simp [Expr.toSignal]

namespace Scale

/-- The settings of a scale and the values of its domain and range. -/
theorem onlyFinite_toMembers {scale : Scale} :
    scale.toMembers.OnlyFinite ↔
      scale.domain.toValue.OnlyFinite ∧ scale.range.toValue.OnlyFinite ∧
        scale.settings.OnlyFinite := by
  simp [Scale.toMembers]

theorem onlyFinite_settings {scale : Scale} :
    scale.settings.OnlyFinite ↔
      (∀ value ∈ scale.padding, value.OnlyFinite) ∧ (∀ value ∈ scale.rounded, value.OnlyFinite) ∧
        (∀ value ∈ scale.zero, value.OnlyFinite) ∧ (∀ value ∈ scale.nice, value.OnlyFinite) ∧
        ∀ value ∈ scale.domainMin, value.OnlyFinite := by
  simp [Scale.settings]

end Scale

@[simp] theorem ScaleDomain.onlyFinite_field (source name : String) (sorted : Bool) :
    (ScaleDomain.field source name sorted).toValue.OnlyFinite := by
  cases sorted <;> simp [ScaleDomain.toValue, domainMembers]

@[simp] theorem ScaleDomain.onlyFinite_fields (source : String) (names : List String) :
    (ScaleDomain.fields source names).toValue.OnlyFinite := by
  simp [ScaleDomain.toValue]

@[simp] theorem ScaleDomain.onlyFinite_labels (items : List String) :
    (ScaleDomain.labels items).toValue.OnlyFinite := by
  simp [ScaleDomain.toValue]

@[simp] theorem ScaleRange.onlyFinite_extent (dimension : Dimension) :
    (ScaleRange.extent dimension).toValue.OnlyFinite := by simp [ScaleRange.toValue]

@[simp] theorem ScaleRange.onlyFinite_signal (expression : Expr) :
    (ScaleRange.signal expression).toValue.OnlyFinite := by simp [ScaleRange.toValue]

@[simp] theorem ScaleRange.onlyFinite_upTo (limit : Expr) :
    (ScaleRange.upTo limit).toValue.OnlyFinite := by simp [ScaleRange.toValue]

@[simp] theorem ScaleRange.onlyFinite_downFrom (limit : Expr) :
    (ScaleRange.downFrom limit).toValue.OnlyFinite := by simp [ScaleRange.toValue]

theorem GroupScale.onlyFinite_toMembers {declaration : GroupScale}
    (finite : declaration.scale.toMembers.OnlyFinite) : declaration.toMembers.OnlyFinite := by
  rcases Scale.onlyFinite_toMembers.mp finite with ⟨domain, range, settings⟩
  unfold GroupScale.toMembers
  split
  · simp [domain, range, settings]
  · exact finite

theorem Axis.onlyFinite_toMembers {axis : Axis} (styling : axis.styling.OnlyFinite) :
    axis.toMembers.OnlyFinite := by
  apply Members.OnlyFinite.update _ styling
  simp

/-! ## Groups -/

theorem Group.onlyFinite_listMember {name : String} {items : List Members}
    (finite : ∀ item ∈ items, item.OnlyFinite) : (listMember name items).OnlyFinite := by
  unfold listMember
  split
  · exact List.forall_mem_nil _
  · simpa using finite

theorem Facet.onlyFinite_toValue (facet : Facet) : facet.toValue.OnlyFinite := by
  unfold Facet.toValue
  dsimp only
  split <;> split <;> simp

theorem Group.onlyFinite_toMembers {group : Group} (enter : group.enter.OnlyFinite)
    (update : group.update.OnlyFinite)
    (scales : ∀ declaration ∈ group.scales, declaration.scale.toMembers.OnlyFinite)
    (axes : ∀ axis ∈ group.axes, axis.styling.OnlyFinite)
    (marks : ∀ mark ∈ group.marks, mark.enter.OnlyFinite ∧ mark.update.OnlyFinite) :
    group.toMembers.OnlyFinite := by
  have encode : group.encodeMember.OnlyFinite := by
    unfold Group.encodeMember
    dsimp only
    split
    · exact List.forall_mem_nil _
    · simp [enter.member "enter", update.member "update"]
  have signals : (listMember "signals" (group.signals.map fun signal =>
      [("name", .text signal.1), ("update", .text signal.2.toText)])).OnlyFinite := by
    apply onlyFinite_listMember
    refine List.forall_mem_map.mpr fun signal _ => ?_
    simp
  have declared : (listMember "scales" (group.scales.map GroupScale.toMembers)).OnlyFinite :=
    onlyFinite_listMember (List.forall_mem_map.mpr fun declaration inside =>
      GroupScale.onlyFinite_toMembers (scales declaration inside))
  have shown : (listMember "axes" (group.axes.map Axis.toMembers)).OnlyFinite :=
    onlyFinite_listMember (List.forall_mem_map.mpr fun axis inside =>
      Axis.onlyFinite_toMembers (axes axis inside))
  have nested : ∀ mark ∈ group.marks, mark.toMembers.OnlyFinite := fun mark inside =>
    Mark.onlyFinite_toMembers (marks mark inside).1 (marks mark inside).2
  have faceted : ∀ facet : Facet, facet.toValue.OnlyFinite := Facet.onlyFinite_toValue
  simpa [Group.toMembers, encode, signals, declared, shown, faceted] using nested

/-! ## Data sources -/

namespace Transform

/-- The numbers that a step computes with, apart from whole ones. -/
def numbers : Transform → List Number
  | .bin _ bins _ => [bins.low, bins.high, bins.step]
  | .loess bandwidth _ _ _ => [.real bandwidth]
  | .density _ bandwidth _ extent _ | .groupDensity _ _ bandwidth _ extent =>
      [.real bandwidth, .real extent.least, .real extent.greatest]
  | .formula _ _ | .filter _ | .aggregate _ _ | .joinAggregate _ _ | .rank _ _ _
  | .stack _ _ _ _ _ | .regression _ _ | .lookup _ _ _ | .flatten _ _ => []

@[simp] theorem onlyFinite_textList (items : List String) : (textList items).OnlyFinite := by
  simp [textList]

@[simp] theorem onlyFinite_groupbyMember (groupby : List String) :
    (groupbyMember groupby).OnlyFinite := by
  unfold groupbyMember
  split <;> simp

@[simp] theorem onlyFinite_summaryMembers (summaries : List Summary) :
    (summaryMembers summaries).OnlyFinite := by
  have fields : ∀ summary : Summary, ((summary.field.map Value.text).getD .null).OnlyFinite := by
    intro summary
    cases summary.field <;> simp
  simp [summaryMembers, fields]

@[simp] theorem onlyFinite_orderMembers (method : RegressionMethod) :
    (orderMembers method).OnlyFinite := by
  cases method <;> simp [orderMembers]

theorem onlyFinite_toMembers (step : Transform) :
    step.toMembers.OnlyFinite ↔ ∀ number ∈ step.numbers, number.isFinite = true := by
  cases step <;> simp [Transform.toMembers, numbers, binMembers, densityMembers, and_assoc]

end Transform

theorem DataSource.onlyFinite_derived (name source : String) {steps : List Members}
    (finite : ∀ step ∈ steps, step.OnlyFinite) :
    (DataSource.derived name source steps).toMembers.OnlyFinite := by
  simpa [DataSource.toMembers, DataSource.derived] using finite

theorem DataSource.onlyFinite_inline (name : String) {rows : List Members}
    (finite : ∀ row ∈ rows, row.OnlyFinite) :
    (DataSource.inline name rows).toMembers.OnlyFinite := by
  simpa [DataSource.toMembers, DataSource.inline] using finite

/-! ## Constants of a style -/

/-- Whether whatever a style puts into a document holds only finite numbers. -/
structure Style.OnlyFinite (style : Style) : Prop where
  shown : ∀ value ∈ style.shown, value.OnlyFinite
  selectedOpacity : style.selectedOpacity.OnlyFinite
  unselectedOpacity : style.unselectedOpacity.OnlyFinite
  neutralColor : style.neutralColor.OnlyFinite
  schema : style.schema.OnlyFinite
  padding : ∀ members, style.padding.documentMembers = .ok members → members.OnlyFinite
  legendPaddingRight : style.legendPaddingRight.OnlyFinite
  jitterPixels : ∀ count factors, Random.factors style.jitterPixels count = .ok factors →
    ∀ factor ∈ factors, factor.isFinite = true

/-- The constants of the standard style are finite. -/
theorem Style.standard_onlyFinite : ({} : Style).OnlyFinite where
  shown := by decide +kernel
  selectedOpacity := by decide +kernel
  unselectedOpacity := by decide +kernel
  neutralColor := Value.onlyFinite_text _
  schema := Value.onlyFinite_text _
  padding := by
    rintro members ⟨⟩
    simp [standardPadding]
  legendPaddingRight := by simp
  jitterPixels := by
    intro count factors drawn
    rw [Random.factors_real] at drawn
    cases drawn
    intro factor inside
    rw [List.eq_of_mem_replicate inside]
    decide +kernel

/-! ## Marks that follow the selection -/

namespace Legend

variable {style : Style}

theorem onlyFinite_choice {test : Value} {selected other : Members} (tested : test.OnlyFinite)
    (first : selected.OnlyFinite) (second : other.OnlyFinite) :
    (choice test selected other).OnlyFinite := by
  simp [choice, tested, first, second]

theorem onlyFinite_selectionOpacity (finite : style.OnlyFinite) {test : Value}
    (tested : test.OnlyFinite) : (selectionOpacity test style).OnlyFinite :=
  onlyFinite_choice tested (List.forall_mem_singleton.mpr finite.selectedOpacity)
    (List.forall_mem_singleton.mpr finite.unselectedOpacity)

theorem onlyFinite_withRules (finite : style.OnlyFinite) {update : Members}
    (given : update.OnlyFinite) (channels : List String) :
    (withRules style channels update).OnlyFinite := by
  have test : markTest.OnlyFinite := Value.onlyFinite_text _
  have rule : (channelRule style).OnlyFinite :=
    onlyFinite_choice test (by simp) (List.forall_mem_singleton.mpr finite.neutralColor)
  have all : ∀ {members : Members}, members.OnlyFinite → Members.OnlyFinite
      (channels.foldl (fun result channel => result.set channel (channelRule style)) members) := by
    induction channels with
    | nil => exact id
    | cons channel rest induction => exact fun before => induction (before.set channel rule)
  exact all (given.set "opacity" (onlyFinite_selectionOpacity finite test))

theorem onlyFinite_followingEncoding? (finite : style.OnlyFinite) {encode after : Members}
    (followed : followingEncoding? style encode = .ok (some after)) (before : encode.OnlyFinite) :
    after.OnlyFinite := by
  rcases followingEncoding?_eq_some followed with ⟨enter, update, _, _, updated, rfl⟩
  have given : Members.OnlyFinite update := by
    rw [← Value.onlyFinite_map, ← updated]
    cases found : encode.get? "update" with
    | none => simp
    | some value => exact before.get? found
  exact before.set "update" (by simpa using onlyFinite_withRules finite given _)

theorem onlyFinite_withEncoding (finite : style.OnlyFinite) {members nested : Members}
    {encode : Option Members} (followed : following? style members = .ok encode)
    (before : members.OnlyFinite) (inner : nested.OnlyFinite) :
    (withEncoding nested encode).OnlyFinite := by
  cases encode with
  | none => exact inner
  | some after =>
      rcases following?_eq_some followed with ⟨given, found, followed⟩
      have known : Members.OnlyFinite given := by simpa using before.get? found
      refine inner.set "encode" ?_
      simpa using onlyFinite_followingEncoding? finite followed known

/-- A member stays finite if the marks in it do. -/
theorem MemberChange.onlyFinite {member changed : String × Value}
    (change : MemberChange (fun before after => before.OnlyFinite → after.OnlyFinite) member changed)
    (before : member.2.OnlyFinite) : changed.2.OnlyFinite := by
  cases change with
  | kept _ => exact before
  | list each =>
      exact (Value.onlyFinite_list _).mpr
        (forall_mem_of_changes each ((Value.onlyFinite_list _).mp before))
  | tuple each =>
      exact (Value.onlyFinite_tuple _).mpr
        (forall_mem_of_changes each ((Value.onlyFinite_tuple _).mp before))

theorem onlyFinite_selectableMarks (finite : style.OnlyFinite) {marks changed : List Value}
    {count : Nat} (made : selectableMarks style marks = .ok (changed, count))
    (before : ∀ mark ∈ marks, mark.OnlyFinite) : ∀ mark ∈ changed, mark.OnlyFinite := by
  have step : ChangesWithNested style fun before after => before.OnlyFinite → after.OnlyFinite := by
    intro members nested encode followed changes held
    rw [Value.onlyFinite_map] at held ⊢
    exact onlyFinite_withEncoding finite followed held
      (forall_mem_of_changes (changes.imp fun _ _ change => change.onlyFinite) held)
  exact forall_mem_of_changes (selectableMarks_change step made) before

end Legend

end ChartCompiler
