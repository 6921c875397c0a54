import ChartCompiler.Proofs.Document.Reading
import ChartCompiler.Proofs.Drawing.Content
import ChartCompiler.Proofs.Drawing.Rendered

/-!
# What is read in rendered drawings

The maps, fields and data sources that are read in a rendered mark or group are those that the
drawing has.
-/

namespace ChartCompiler

/-! ## Channels -/

/-- The map that an encoding sets a channel by. -/
def Encoding.rule : Encoding → Members
  | .constant value => [("value", value)]
  | .signal expression => [("signal", .text expression.toText)]
  | .field scale name => [("scale", .text scale.text), ("field", .text name)]
  | .inBand scale name share =>
      [("scale", .text scale.text), ("field", .text name), ("band", .number share)]
  | .place scale value => [("scale", .text scale.text), ("value", .whole value)]
  | .bandShare scale share => [("scale", .text scale.text), ("band", .number share)]

namespace Encoding

variable (encoding : Encoding)

theorem toValue_eq_rule : encoding.toValue = .map encoding.rule := by cases encoding <;> rfl

@[simp] theorem text?_field : encoding.rule.text? "field" = encoding.field? := by
  cases encoding <;> rfl

@[simp] theorem text?_scale : encoding.rule.text? "scale" = encoding.scale?.map ScaleName.text := by
  cases encoding <;> rfl

@[simp] theorem formulas_rule :
    encoding.rule.formulas = (encoding.expression?.map Expr.toText).toList := by
  cases encoding <;> rfl

theorem formulas_rules (encodings : List Encoding) :
    (encodings.map rule).flatMap Members.formulas
      = (encodings.filterMap expression?).map Expr.toText := by
  induction encodings with
  | nil => rfl
  | cons head rest induction =>
      rw [List.map_cons, List.flatMap_cons, formulas_rule, induction, List.filterMap_cons]
      cases head.expression? <;> rfl

end Encoding

@[simp] theorem Channels.blockRules_toValue (channels : Channels) :
    (Channels.toValue channels).blockRules = (Channels.encodings channels).map Encoding.rule := by
  induction channels with
  | nil => rfl
  | cons head rest induction =>
      have first : head.2.toValue.rules = [head.2.rule] := by rw [Encoding.toValue_eq_rule]; rfl
      change head.2.toValue.rules ++ (Channels.toValue rest).blockRules = _
      rw [first, induction]
      rfl

@[simp] theorem Channels.flatMap_member (name : String) (channels : Channels) :
    (channels.member name).flatMap (·.2.blockRules) = (Channels.encodings channels).map Encoding.rule := by
  cases channels with
  | nil => rfl
  | cons head rest => simp [Channels.member]

/-! ## Marks -/

namespace Mark

variable (mark : Mark)

@[simp] theorem rules_toMembers : mark.toMembers.rules = mark.encodings.map Encoding.rule := by
  simp [Members.rules, Members.map?, Value.map?, blocks, encodings]

@[simp] theorem order_toMembers : mark.toMembers.order = (mark.sort.map Expr.toText).toList := by
  cases sort : mark.sort <;>
    simp [Members.order, Members.map?, Members.text?, Value.map?, Value.text?, sort]

@[simp] theorem data?_toMembers : mark.toMembers.data? = mark.source := by
  cases source : mark.source <;>
    simp [Members.data?, Members.map?, Members.text?, Value.map?, Value.text?, source]

@[simp] theorem facet?_toMembers : mark.toMembers.facet? = none := by
  cases source : mark.source <;>
    simp [Members.facet?, Members.map?, Value.map?, source, Members.get?_cons]

/-- The expressions that are computed for the rows of a mark. -/
def expressions : List Expr := mark.encodings.filterMap Encoding.expression? ++ mark.sort.toList

theorem markFormulas_toMembers :
    mark.toMembers.markFormulas = mark.expressions.map Expr.toText := by
  unfold Members.markFormulas expressions
  rw [rules_toMembers, order_toMembers, Encoding.formulas_rules, List.map_append, Option.toList_map]

theorem maps_absent {name : String} (absent : name ∉ memberNames) :
    mark.toMembers.maps name = [] := by
  simp [Members.maps, mark.get?_absent absent]

end Mark

/-! ## Groups -/

/-- The members of a facet. -/
def Facet.members (facet : Facet) : Members :=
  (if facet.sourceFirst then [("data", .text facet.source), ("name", .text facet.name)]
    else [("name", .text facet.name), ("data", .text facet.source)])
    ++ [("groupby", match facet.groupby with
      | [field] => .text field
      | fields => .list (fields.map .text))]

namespace Facet

variable (facet : Facet)

theorem toValue_eq_members : facet.toValue = .map facet.members := rfl

@[simp] theorem text?_name : facet.members.text? "name" = some facet.name := by
  cases first : facet.sourceFirst <;>
    simp [members, first, Members.text?, Members.get?_cons, Value.text?]

@[simp] theorem text?_data : facet.members.text? "data" = some facet.source := by
  cases first : facet.sourceFirst <;>
    simp [members, first, Members.text?, Members.get?_cons, Value.text?]

theorem texts_list (items : List String) : (Value.list (items.map .text)).texts = items := by
  induction items with
  | nil => rfl
  | cons head rest induction => exact congrArg (head :: ·) induction

@[simp] theorem texts_groupby : facet.members.texts "groupby" = facet.groupby := by
  have found : facet.members.get? "groupby" = some (match facet.groupby with
      | [field] => .text field
      | fields => .list (fields.map .text)) := by
    cases first : facet.sourceFirst <;> simp [members, first, Members.get?_cons]
  unfold Members.texts
  rw [found]
  change Value.texts (match facet.groupby with
      | [field] => .text field
      | fields => .list (fields.map .text)) = _
  split
  · next field single => rw [single]; rfl
  · exact texts_list _

end Facet

namespace Group

variable (group : Group)

@[simp] theorem rules_toMembers : group.toMembers.rules = group.encodings.map Encoding.rule := by
  have flat : group.blocks.flatMap (·.2.blockRules) = group.encodings.map Encoding.rule := by
    simp [blocks, encodings]
  unfold Members.rules Members.map?
  rw [get?_encode]
  split
  · next none => rw [← flat, none]; rfl
  · exact flat

@[simp] theorem order_toMembers : group.toMembers.order = [] := by
  simp [Members.order, Members.map?]

/-- The expressions that are computed for a group itself. -/
def expressions : List Expr := group.encodings.filterMap Encoding.expression?

theorem markFormulas_toMembers :
    group.toMembers.markFormulas = group.expressions.map Expr.toText := by
  unfold Members.markFormulas expressions
  rw [rules_toMembers, order_toMembers, Encoding.formulas_rules, List.append_nil]

@[simp] theorem data?_toMembers : group.toMembers.data? = none := by
  cases facet : group.facet <;>
    simp [Members.data?, Members.map?, Members.text?, Value.map?, facet, Members.get?_cons]

@[simp] theorem facet?_toMembers : group.toMembers.facet? = group.facet.map Facet.members := by
  cases facet : group.facet <;>
    simp [Members.facet?, Members.map?, Value.map?, facet, Facet.toValue_eq_members]

theorem filterMap_maps (items : List Members) :
    (items.map Value.map).filterMap Value.map? = items := by
  induction items with
  | nil => rfl
  | cons head rest induction => exact congrArg (head :: ·) induction

@[simp] theorem maps_marks : group.toMembers.maps "marks" = group.marks.map Mark.toMembers := by
  have listed := filterMap_maps (group.marks.map Mark.toMembers)
  rw [List.map_map] at listed
  unfold Members.maps
  rw [get?_marks]
  exact listed

@[simp] theorem maps_scales :
    group.toMembers.maps "scales" = group.scales.map GroupScale.toMembers := by
  unfold Members.maps
  rw [get?_scales]
  split
  · next none => rw [none]; rfl
  · exact filterMap_maps _

@[simp] theorem signalFormulas_toMembers :
    group.toMembers.signalFormulas = group.signals.map fun signal => signal.2.toText := by
  have formulas : group.signalMembers.filterMap (·.text? "update")
      = group.signals.map fun signal => signal.2.toText := by
    unfold signalMembers
    induction group.signals with
    | nil => rfl
    | cons head rest induction => exact congrArg (head.2.toText :: ·) induction
  unfold Members.signalFormulas Members.maps
  rw [get?_signals]
  split
  · next none => rw [none]; rfl
  · change ((group.signalMembers.map Value.map).filterMap Value.map?).filterMap _ = _
    rw [filterMap_maps, formulas]

end Group

end ChartCompiler
