import ChartCompiler.Proofs.Document.Selection
import ChartCompiler.Proofs.Value.Members

/-!
# Trees of marks before and after

A tree of marks that is made to follow the selection keeps its shape. What holds between a mark
before and after whenever it holds between its nested marks, holds between all of them.
-/

namespace ChartCompiler

namespace Legend

variable {style : Style} {Change : Value → Value → Prop}

/-- A member of a mark before and after its nested marks change. -/
inductive MemberChange (Change : Value → Value → Prop) : String × Value → String × Value → Prop
  | kept (member : String × Value) : MemberChange Change member member
  | list {marks changed : List Value} (each : List.Forall₂ Change marks changed) :
      MemberChange Change ("marks", .list marks) ("marks", .list changed)
  | tuple {marks changed : List Value} (each : List.Forall₂ Change marks changed) :
      MemberChange Change ("marks", .tuple marks) ("marks", .tuple changed)

/-- The members of a mark before and after its nested marks change. -/
abbrev NestedChange (Change : Value → Value → Prop) (before after : Members) : Prop :=
  List.Forall₂ (MemberChange Change) before after

namespace NestedChange

variable {before after : Members}

theorem names_eq (changes : NestedChange Change before after) : after.names = before.names := by
  induction changes with
  | nil => rfl
  | cons first _ induction =>
      rw [Members.names_cons, Members.names_cons, induction]
      cases first <;> rfl

theorem get?_eq (changes : NestedChange Change before after) {name : String}
    (other : name ≠ "marks") : after.get? name = before.get? name := by
  induction changes with
  | nil => rfl
  | cons first _ induction =>
      rw [Members.get?_cons, Members.get?_cons, induction]
      cases first with
      | kept _ => rfl
      | list _ | tuple _ => rw [if_neg other, if_neg other]

end NestedChange

/-- What each change of an item keeps, the change of all items keeps. -/
theorem forall_mem_of_changes {α : Type} {Before After : α → Prop} {items changed : List α}
    (changes : List.Forall₂ (fun before after => Before before → After after) items changed)
    (held : ∀ item ∈ items, Before item) : ∀ item ∈ changed, After item := by
  induction changes with
  | nil => exact List.forall_mem_nil _
  | cons first _ induction =>
      rcases List.forall_mem_cons.mp held with ⟨own, others⟩
      exact List.forall_mem_cons.mpr ⟨first own, induction others⟩

/-- Whether a mark changes in some way whenever its nested marks do. -/
def ChangesWithNested (style : Style) (Change : Value → Value → Prop) : Prop :=
  ∀ ⦃members nested : Members⦄ ⦃encode : Option Members⦄, following? style members = .ok encode →
    NestedChange Change members nested → Change (.map members) (.map (withEncoding nested encode))

mutual

theorem selectableMark_change (step : ChangesWithNested style Change) {mark changed : Value}
    {count : Nat} (made : selectableMark style mark = .ok (changed, count)) : Change mark changed := by
  cases mark with
  | map members =>
      rcases selectableMark_eq_ok made with ⟨encode, nested, _, followed, within, rfl⟩
      exact step followed (selectableNested_change step within)
  | _ =>
      unfold selectableMark at made
      cases made

/-- A change of marks that goes with that of their nested marks is a change of all of them. -/
theorem selectableMarks_change (step : ChangesWithNested style Change) {marks changed : List Value}
    {count : Nat} (made : selectableMarks style marks = .ok (changed, count)) :
    List.Forall₂ Change marks changed := by
  cases marks with
  | nil =>
      cases made
      exact .nil
  | cons mark rest =>
      rcases selectableMarks_eq_ok made with ⟨first, _, others, _, head, tail, rfl⟩
      exact .cons (selectableMark_change step head) (selectableMarks_change step tail)

theorem selectableNested_change (step : ChangesWithNested style Change)
    {members changed : Members} {count : Nat} (made : selectableNested style members = .ok (changed, count)) :
    NestedChange Change members changed := by
  cases members with
  | nil =>
      cases made
      exact .nil
  | cons head rest =>
      rcases head with ⟨name, item⟩
      rcases selectableNested_eq_ok made with ⟨other, others, first, tail, rfl⟩
      refine .cons ?_ (selectableNested_change step tail)
      unfold selectableMember at first
      split at first
      · next named =>
          cases item with
          | list marks =>
              rcases (bind_eq_ok_iff _ _ _).mp first with ⟨⟨marked, _⟩, nested, equal⟩
              cases equal
              exact named ▸ .list (selectableMarks_change step nested)
          | tuple marks =>
              rcases (bind_eq_ok_iff _ _ _).mp first with ⟨⟨marked, _⟩, nested, equal⟩
              cases equal
              exact named ▸ .tuple (selectableMarks_change step nested)
          | _ =>
              -- What is no list of marks is empty, and stays.
              rcases (bind_eq_ok_iff _ _ _).mp first with ⟨items, _, equal⟩
              split at equal
              · cases equal
                exact .kept _
              · cases equal
      · cases first
        exact .kept _

end

end Legend

end ChartCompiler
