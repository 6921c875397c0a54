import ChartCompiler.Drawing.Basic
import ChartCompiler.Proofs.Value.Members

/-!
# Rendered marks

The members that marks and groups have in a chart document.
-/

namespace ChartCompiler

/-! ## Members that may be left out -/

namespace Members

theorem get?_channels (name other : String) (channels : Channels) :
    (channels.member name).get? other =
      if other = name ∧ channels ≠ [] then some channels.toValue else none := by
  cases channels with
  | nil => simp [Channels.member]
  | cons head rest => simp [Channels.member, get?_cons]

theorem get?_listMember (name other : String) (items : List Members) :
    (Group.listMember name items).get? other =
      if other = name ∧ items ≠ [] then some (.list (items.map .map)) else none := by
  cases items with
  | nil => simp [Group.listMember]
  | cons head rest => simp [Group.listMember, get?_cons]

end Members

/-! ## Simple marks -/

namespace Mark

variable (mark : Mark)

/-- The blocks of channels of a mark. -/
def blocks : Members := ("enter", mark.enter.toValue) :: mark.update.member "update"

theorem get?_blocks (name : String) : mark.blocks.get? name =
    if name = "enter" then some mark.enter.toValue
    else if name = "update" ∧ mark.update ≠ [] then some mark.update.toValue
    else none := by
  unfold blocks
  rw [Members.get?_cons, Members.get?_channels]

@[simp] theorem get?_encode : mark.toMembers.get? "encode" = some (.map mark.blocks) := by
  cases clipped : mark.clipped <;>
    simp [toMembers, clipped, blocks, Members.get?_append, Members.get?_optional,
      Members.get?_cons]

@[simp] theorem get?_from : mark.toMembers.get? "from" =
    mark.source.map fun source => .map [("data", .text source)] := by
  cases clipped : mark.clipped <;>
    simp [toMembers, clipped, Members.get?_append, Members.get?_optional, Members.get?_cons]

@[simp] theorem get?_sort : mark.toMembers.get? "sort" =
    mark.sort.map fun order => .map [("field", .text order.toText)] := by
  cases clipped : mark.clipped <;>
    simp [toMembers, clipped, Members.get?_append, Members.get?_optional, Members.get?_cons]

/-- The members that a mark may have. -/
def memberNames : List String := ["name", "type", "from", "sort", "clip", "encode"]

theorem get?_absent {name : String} (absent : name ∉ memberNames) :
    mark.toMembers.get? name = none := by
  simp only [memberNames, List.mem_cons, List.not_mem_nil, or_false, not_or] at absent
  cases clipped : mark.clipped <;>
    simp [toMembers, clipped, absent, Members.get?_append, Members.get?_optional,
      Members.get?_cons]

end Mark

/-! ## Groups -/

namespace Group

variable (group : Group)

/-- The blocks of channels of a group. -/
def blocks : Members := group.enter.member "enter" ++ group.update.member "update"

theorem get?_encodeMember (other : String) : group.encodeMember.get? other =
    if other = "encode" ∧ group.blocks ≠ [] then some (.map group.blocks) else none := by
  unfold encodeMember blocks
  cases group.enter.member "enter" ++ group.update.member "update" with
  | nil => simp
  | cons head rest => simp [Members.get?_cons]

/-- The members of the signals of a group. -/
def signalMembers : List Members :=
  group.signals.map fun (name, expression) =>
    [("name", .text name), ("update", .text expression.toText)]

theorem get?_toMembers (name : String) : group.toMembers.get? name =
    (Members.get? [("name", .text group.name), ("type", .text "group")] name).or
      ((Members.get? (.optional "from"
        (group.facet.map fun facet => .map [("facet", facet.toValue)])) name).or
      ((group.encodeMember.get? name).or
      ((Members.get? (listMember "signals" group.signalMembers) name).or
      ((Members.get? (listMember "scales" (group.scales.map GroupScale.toMembers)) name).or
      ((Members.get? (listMember "axes" (group.axes.map Axis.toMembers)) name).or
      (Members.get? [("marks", .list (group.marks.map fun mark => .map mark.toMembers))]
        name)))))) := by
  unfold toMembers signalMembers
  simp only [Members.get?_append, Option.or_assoc]

@[simp] theorem get?_type : group.toMembers.get? "type" = some (.text "group") := rfl

@[simp] theorem get?_from : group.toMembers.get? "from" =
    group.facet.map fun facet => .map [("facet", facet.toValue)] := by
  simp [get?_toMembers, get?_encodeMember, Members.get?_optional, Members.get?_listMember,
    Members.get?_cons]

theorem get?_encode : group.toMembers.get? "encode" =
    if group.blocks = [] then none else some (.map group.blocks) := by
  simp [get?_toMembers, get?_encodeMember, Members.get?_optional, Members.get?_listMember,
    Members.get?_cons]

theorem get?_signals : group.toMembers.get? "signals" =
    if group.signals = [] then none else some (.list (group.signalMembers.map .map)) := by
  simp [get?_toMembers, get?_encodeMember, Members.get?_optional, Members.get?_listMember,
    Members.get?_cons, signalMembers]

theorem get?_scales : group.toMembers.get? "scales" =
    if group.scales = [] then none
    else some (.list ((group.scales.map GroupScale.toMembers).map .map)) := by
  simp [get?_toMembers, get?_encodeMember, Members.get?_optional, Members.get?_listMember,
    Members.get?_cons]

@[simp] theorem get?_marks : group.toMembers.get? "marks" =
    some (.list (group.marks.map fun mark => .map mark.toMembers)) := by
  simp [get?_toMembers, get?_encodeMember, Members.get?_optional, Members.get?_listMember,
    Members.get?_cons]

@[simp] theorem get?_scale : group.toMembers.get? "scale" = none := by
  simp [get?_toMembers, get?_encodeMember, Members.get?_optional, Members.get?_listMember,
    Members.get?_cons]

@[simp] theorem get?_sort : group.toMembers.get? "sort" = none := by
  simp [get?_toMembers, get?_encodeMember, Members.get?_optional, Members.get?_listMember,
    Members.get?_cons]

end Group

end ChartCompiler
