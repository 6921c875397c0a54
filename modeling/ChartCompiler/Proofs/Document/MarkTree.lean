import ChartCompiler.Proofs.Document.Reading
import ChartCompiler.Proofs.Value.Members
import Mathlib.Data.Set.Card

/-!
# Trees of marks

Marks with other marks nested in them. A path leads to a mark by its places among the nested marks,
and marks that show the color group are counted by the paths that lead to them.
-/

namespace ChartCompiler

/-- Whether a member is a map, if it is there. -/
def Members.IsBlock (members : Members) (name : String) : Prop :=
  ∀ value, members.get? name = some value → ∃ block : Members, value = .map block

/-- Whether a channel of a mark is its fill or its stroke and shows the color group. -/
def Members.Shows (mark : Members) (channel : String) : Prop :=
  (channel = "fill" ∨ channel = "stroke") ∧
    ((((mark.map? "encode").bind (·.map? "enter")).bind (·.map? channel)).bind
      (·.text? "scale")) = some ScaleName.color.text

namespace Value

/-- Whether items are put together as a list or as a tuple. -/
def IsListing (wrap : List Value → Value) : Prop := wrap = .list ∨ wrap = .tuple

/-- The marks nested in a mark. -/
def nestedMarks (mark : Value) : List Value :=
  match mark.map?.bind (·.get? "marks") with
  | some (.list marks) | some (.tuple marks) => marks
  | _ => []

/-- Whether a value is a mark with other marks nested in it, to any depth. -/
inductive IsMarkTree : Value → Prop where
  | mark {members : Members} (once : members.names.Nodup)
      (encode : ∀ value, members.get? "encode" = some value → ∃ blocks : Members,
        value = .map blocks ∧ blocks.IsBlock "enter" ∧ blocks.IsBlock "update")
      (listed : ∀ value, members.get? "marks" = some value →
        ∃ wrap marks, IsListing wrap ∧ value = wrap marks)
      (nested : ∀ mark ∈ nestedMarks (.map members), IsMarkTree mark) : IsMarkTree (.map members)

/-- The mark at a path. Each step of the path is a place among the nested marks. -/
def markAt? (mark : Value) : List Nat → Option Members
  | [] => mark.map?
  | place :: path => mark.nestedMarks[place]?.bind fun nested => nested.markAt? path

/-- The paths in a tree of marks at which the color group is shown. -/
def showingPaths (mark : Value) : Set (List Nat) :=
  {path | ∃ members channel, mark.markAt? path = some members ∧ members.Shows channel}

/-! ## Nested marks -/

theorem nestedMarks_of_none {mark : Members} (absent : mark.get? "marks" = none) :
    (Value.map mark).nestedMarks = [] := by
  change (match mark.get? "marks" with
    | some (.list marks) | some (.tuple marks) => marks
    | _ => []) = _
  rw [absent]

theorem nestedMarks_of_listing {mark : Members} {wrap : List Value → Value} {marks : List Value}
    (listing : IsListing wrap) (found : mark.get? "marks" = some (wrap marks)) :
    (Value.map mark).nestedMarks = marks := by
  change (match mark.get? "marks" with
    | some (.list marks) | some (.tuple marks) => marks
    | _ => []) = _
  rw [found]
  obtain rfl | rfl := listing <;> rfl

/-! ## Paths -/

/-- The mark at a path that starts with a place among some marks. -/
def markAmong? (marks : List Value) : List Nat → Option Members
  | [] => none
  | place :: path => marks[place]?.bind fun mark => mark.markAt? path

/-- The paths from some marks on at which the color group is shown. -/
def showingAmong (marks : List Value) : Set (List Nat) :=
  {path | ∃ members channel, markAmong? marks path = some members ∧ members.Shows channel}

theorem markAt?_cons (mark : Value) (place : Nat) (path : List Nat) :
    mark.markAt? (place :: path) = markAmong? mark.nestedMarks (place :: path) := rfl

theorem nil_notMem_showingAmong (marks : List Value) : [] ∉ showingAmong marks := by
  rintro ⟨_, _, found, _⟩
  cases found

theorem showingAmong_nil : showingAmong [] = ∅ := by
  apply Set.eq_empty_of_forall_notMem
  rintro (_ | ⟨place, path⟩) ⟨_, _, found, _⟩ <;> cases found

theorem modifyHead_succ_injective : Function.Injective (List.modifyHead (· + 1)) := by
  rintro (_ | ⟨first, rest⟩) (_ | ⟨second, others⟩) same <;> simp_all

/-- A path from marks on leads into the first one, or it leads from the other ones on. -/
theorem showingAmong_cons (mark : Value) (rest : List Value) :
    showingAmong (mark :: rest) =
      (0 :: ·) '' mark.showingPaths ∪ List.modifyHead (· + 1) '' showingAmong rest := by
  ext path
  constructor
  · rintro ⟨members, channel, found, shows⟩
    match path with
    | [] => cases found
    | 0 :: path => exact .inl ⟨path, ⟨members, channel, found, shows⟩, rfl⟩
    | (place + 1) :: path => exact .inr ⟨place :: path, ⟨members, channel, found, shows⟩, rfl⟩
  · rintro (⟨path, shown, rfl⟩ | ⟨path, ⟨members, channel, found, shows⟩, rfl⟩)
    · exact shown
    · cases path with
      | nil => cases found
      | cons place path => exact ⟨members, channel, found, shows⟩

theorem encard_showingAmong_cons (mark : Value) (rest : List Value) :
    (showingAmong (mark :: rest)).encard =
      mark.showingPaths.encard + (showingAmong rest).encard := by
  have apart : Disjoint ((0 :: ·) '' mark.showingPaths)
      (List.modifyHead (· + 1) '' showingAmong rest) := by
    apply Set.disjoint_left.mpr
    rintro _ ⟨path, _, rfl⟩ ⟨other, _, same⟩
    cases other <;> simp at same
  rw [showingAmong_cons, Set.encard_union_eq apart, List.cons_injective.encard_image,
    modifyHead_succ_injective.encard_image]

/-- In a mark with others nested in it the color group is shown by itself or by one of those. -/
theorem encard_showingPaths (mark : Members) [Decidable (∃ channel, mark.Shows channel)] :
    (Value.map mark).showingPaths.encard = (if ∃ channel, mark.Shows channel then 1 else 0) +
      (showingAmong (Value.map mark).nestedMarks).encard := by
  have parts : (Value.map mark).showingPaths = {path | path = [] ∧ ∃ channel, mark.Shows channel} ∪
      showingAmong (Value.map mark).nestedMarks := by
    ext path
    cases path with
    | nil =>
        refine ⟨fun ⟨_, channel, found, shows⟩ => .inl ⟨rfl, channel, ?_⟩, ?_⟩
        · cases found
          exact shows
        · rintro (⟨_, channel, shows⟩ | nested)
          · exact ⟨mark, channel, rfl, shows⟩
          · exact absurd nested (nil_notMem_showingAmong _)
    | cons place path => exact ⟨.inr, fun shown => shown.resolve_left fun own => nomatch own.1⟩
  have apart : Disjoint {path : List Nat | path = [] ∧ ∃ channel, mark.Shows channel}
      (showingAmong (Value.map mark).nestedMarks) := by
    apply Set.disjoint_left.mpr
    rintro _ ⟨rfl, _⟩ nested
    exact nil_notMem_showingAmong _ nested
  rw [parts, Set.encard_union_eq apart]
  congr 1
  split
  · next shows =>
      rw [Set.encard_eq_one]
      exact ⟨[], by ext path; simp [shows]⟩
  · next hidden =>
      rw [Set.encard_eq_zero]
      ext path
      simp [hidden]

end Value

end ChartCompiler
