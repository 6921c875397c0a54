import ChartCompiler.Value.Basic
import Mathlib.Data.List.Nodup

/-!
# Members of maps

What is found under a name in members that are put together, and after a member was set. The names
of members stay in their order, and setting a member keeps each name once.
-/

namespace ChartCompiler.Members

@[simp] theorem get?_nil (name : String) : Members.get? [] name = none := rfl

theorem get?_cons (head : String × Value) (rest : Members) (name : String) :
    Members.get? (head :: rest) name =
      if name = head.1 then some head.2 else Members.get? rest name := by
  unfold Members.get?
  rw [List.lookup_cons]
  by_cases same : name = head.1
  · simp [same]
  · have different : (name == head.1) = false := beq_false_of_ne same
    rw [different, if_neg same]

@[simp] theorem get?_cons_self (name : String) (value : Value) (rest : Members) :
    Members.get? ((name, value) :: rest) name = some value := by
  simp [get?_cons]

theorem get?_cons_of_ne {name other : String} (different : name ≠ other) (value : Value)
    (rest : Members) : Members.get? ((other, value) :: rest) name = Members.get? rest name := by
  simp [get?_cons, different]

theorem get?_append (left right : Members) (name : String) :
    Members.get? (left ++ right) name = (left.get? name).or (right.get? name) := by
  induction left with
  | nil => rfl
  | cons head rest induction =>
      rw [List.cons_append, get?_cons, get?_cons]
      split
      · rfl
      · exact induction

/-- A member that is left out is not found; all others are. -/
theorem get?_filter {name other : String} (different : name ≠ other) (members : Members) :
    Members.get? (members.filter fun member => member.1 ≠ other) name = members.get? name := by
  induction members with
  | nil => rfl
  | cons head rest induction =>
      rw [List.filter_cons, get?_cons]
      split
      · rw [get?_cons, induction]
      · next same =>
          have same : head.1 = other := by simpa using same
          rw [if_neg (same ▸ different), induction]

theorem get?_eq_none_iff (members : Members) (name : String) :
    members.get? name = none ↔ ∀ member ∈ members, member.1 ≠ name := by
  induction members with
  | nil => simp
  | cons head rest induction =>
      rw [get?_cons]
      by_cases same : name = head.1
      · simp [same]
      · have other : head.1 ≠ name := fun equal => same equal.symm
        simp [same, other, induction]

theorem mem_of_get? {members : Members} {name : String} {value : Value}
    (found : members.get? name = some value) : (name, value) ∈ members := by
  induction members with
  | nil => cases found
  | cons head rest induction =>
      rw [get?_cons] at found
      split at found
      · next same =>
          cases found
          rw [same]
          exact List.mem_cons_self ..
      · exact List.mem_cons_of_mem _ (induction found)

theorem get?_optional (name other : String) (value : Option Value) :
    Members.get? (Members.optional name value) other = if other = name then value else none := by
  cases value with
  | none => simp [Members.optional]
  | some value => simp [Members.optional, get?_cons]

/-- The members after one was set are the new one and others that were there. -/
theorem mem_set {members : Members} {name : String} {value : Value} {member : String × Value}
    (inside : member ∈ members.set name value) : member = (name, value) ∨ member ∈ members := by
  induction members with
  | nil => exact .inl (List.mem_singleton.mp inside)
  | cons head rest induction =>
      unfold Members.set at inside
      split at inside
      · rcases List.mem_cons.mp inside with equal | inside
        · exact .inl equal
        · exact .inr (List.mem_cons_of_mem _ inside)
      · rcases List.mem_cons.mp inside with equal | inside
        · exact .inr (equal ▸ List.mem_cons_self ..)
        · rcases induction inside with equal | inside
          · exact .inl equal
          · exact .inr (List.mem_cons_of_mem _ inside)

/-- What holds of a member and of those that were there holds of all after it was set. -/
theorem forall_mem_set {members : Members} {name : String} {value : Value}
    {p : String × Value → Prop} (given : p (name, value)) (each : ∀ member ∈ members, p member) :
    ∀ member ∈ members.set name value, p member := by
  intro member inside
  rcases mem_set inside with rfl | old
  · exact given
  · exact each member old

@[simp] theorem get?_set_self (members : Members) (name : String) (value : Value) :
    (members.set name value).get? name = some value := by
  induction members with
  | nil => simp [Members.set]
  | cons head rest induction =>
      unfold Members.set
      split
      · simp
      · next different =>
          have other : name ≠ head.1 := fun equal => different equal.symm
          rw [get?_cons, if_neg other]
          exact induction

theorem get?_set_of_ne (members : Members) {name other : String} (value : Value)
    (different : other ≠ name) : (members.set name value).get? other = members.get? other := by
  induction members with
  | nil => simp [Members.set, get?_cons, different]
  | cons head rest induction =>
      unfold Members.set
      split
      · next same => rw [get?_cons, get?_cons, same, if_neg different, if_neg different]
      · rw [get?_cons, get?_cons, induction]

theorem set_cons (head : String × Value) (rest : Members) (name : String) (value : Value) :
    Members.set name value (head :: rest) =
      if head.1 = name then (name, value) :: rest else head :: rest.set name value := rfl

/-- A member that is set and then left out makes no difference. -/
theorem filter_set {members : Members} {name : String} (value : Value)
    {kept : String × Value → Bool} (dropped : ∀ member, member.1 = name → kept member = false) :
    (members.set name value).filter kept = members.filter kept := by
  induction members with
  | nil => simp [Members.set, dropped]
  | cons head rest induction =>
      rw [set_cons]
      split
      · next same => simp [dropped head same, dropped (name, value) rfl]
      · rw [List.filter_cons, List.filter_cons, induction]

theorem set_set (members : Members) (name : String) (first second : Value) :
    (members.set name first).set name second = members.set name second := by
  induction members with
  | nil => simp [Members.set]
  | cons head rest induction =>
      rw [set_cons, set_cons]
      split
      · rw [set_cons, if_pos rfl]
      · next different => rw [set_cons, if_neg different, induction]

theorem set_of_get? {members : Members} {name : String} {value : Value}
    (found : members.get? name = some value) : members.set name value = members := by
  induction members with
  | nil => cases found
  | cons head rest induction =>
      rw [get?_cons] at found
      rw [set_cons]
      by_cases same : head.1 = name
      · rw [if_pos same.symm] at found
        cases found
        rw [if_pos same, ← same]
      · rw [if_neg (Ne.symm same)] at found
        rw [if_neg same, induction found]

/-- What is found after several members were set to one value. -/
theorem get?_foldl_set (names : List String) (members : Members) (value : Value) (name : String) :
    (names.foldl (fun result other => result.set other value) members).get? name =
      if name ∈ names then some value else members.get? name := by
  induction names generalizing members with
  | nil => simp
  | cons first rest induction =>
      rw [List.foldl_cons, induction]
      by_cases later : name ∈ rest
      · simp [later]
      · by_cases same : name = first
        · simp [same]
        · simp [later, same, get?_set_of_ne _ _ same]

theorem foldl_set_of_get? {names : List String} {members : Members} {value : Value}
    (found : ∀ name ∈ names, members.get? name = some value) :
    names.foldl (fun result name => result.set name value) members = members := by
  induction names with
  | nil => rfl
  | cons first rest induction =>
      obtain ⟨here, others⟩ := List.forall_mem_cons.mp found
      rw [List.foldl_cons, set_of_get? here, induction others]

/-- Updated members are changes and others that were there. -/
theorem mem_update {members changes : Members} {member : String × Value}
    (inside : member ∈ members.update changes) : member ∈ changes ∨ member ∈ members := by
  induction changes generalizing members with
  | nil => exact .inr inside
  | cons head rest induction =>
      rcases @induction (members.set head.1 head.2) inside with changed | kept
      · exact .inl (List.mem_cons_of_mem _ changed)
      · rcases mem_set kept with same | kept
        · exact .inl (same ▸ List.mem_cons_self ..)
        · exact .inr kept

theorem forall_mem_update {members changes : Members} {p : String × Value → Prop}
    (given : ∀ change ∈ changes, p change) (each : ∀ member ∈ members, p member) :
    ∀ member ∈ members.update changes, p member :=
  fun member inside => (mem_update inside).elim (given member) (each member)

theorem get?_update_of_notMem {members changes : Members} {name : String}
    (unchanged : ∀ change ∈ changes, change.1 ≠ name) :
    (members.update changes).get? name = members.get? name := by
  induction changes generalizing members with
  | nil => rfl
  | cons head rest induction =>
      rcases List.forall_mem_cons.mp unchanged with ⟨first, others⟩
      exact (@induction (members.set head.1 head.2) others).trans
        (get?_set_of_ne members head.2 first.symm)

/-! ## Names -/

/-- The names of members in their order. -/
def names (members : Members) : List String := members.map (·.1)

@[simp] theorem names_nil : names [] = [] := rfl

@[simp] theorem names_cons (head : String × Value) (rest : Members) :
    names (head :: rest) = head.1 :: names rest := rfl

@[simp] theorem names_append (left right : Members) :
    names (left ++ right) = names left ++ names right := List.map_append

theorem mem_names {members : Members} {name : String} :
    name ∈ members.names ↔ ∃ value, (name, value) ∈ members := by
  unfold names
  rw [List.mem_map]
  constructor
  · rintro ⟨⟨_, value⟩, inside, rfl⟩
    exact ⟨value, inside⟩
  · rintro ⟨value, inside⟩
    exact ⟨_, inside, rfl⟩

theorem names_set (members : Members) (name : String) (value : Value) :
    (members.set name value).names =
      if name ∈ members.names then members.names else members.names ++ [name] := by
  induction members with
  | nil => rfl
  | cons head rest induction =>
      rw [set_cons]
      by_cases same : head.1 = name
      · subst same
        simp
      · have other : name ≠ head.1 := Ne.symm same
        rw [if_neg same]
        simp only [names_cons, induction, List.mem_cons, other, false_or]
        split <;> rfl

/-- Names stay in their order, and new ones come behind them. -/
theorem names_prefix_set (members : Members) (name : String) (value : Value) :
    members.names <+: (members.set name value).names := by
  rw [names_set]
  split
  · exact List.prefix_refl _
  · exact List.prefix_append _ _

theorem names_prefix_foldl_set (names : List String) (members : Members) (value : Value) :
    members.names <+:
      (names.foldl (fun result name => result.set name value) members).names := by
  induction names generalizing members with
  | nil => exact List.prefix_refl _
  | cons first rest induction =>
      exact (names_prefix_set members first value).trans (induction _)

theorem nodup_names_set {members : Members} (once : members.names.Nodup) (name : String)
    (value : Value) : (members.set name value).names.Nodup := by
  rw [names_set]
  split
  · exact once
  · next absent => simpa [List.nodup_append] using ⟨once, fun other inside => by
      rintro rfl
      exact absent inside⟩

theorem nodup_names_update {members : Members} (once : members.names.Nodup) (changes : Members) :
    (members.update changes).names.Nodup := by
  induction changes generalizing members with
  | nil => exact once
  | cons head rest induction => exact induction (nodup_names_set once head.1 head.2)

theorem set_of_notMem {members : Members} {name : String} (absent : name ∉ members.names)
    (value : Value) : members.set name value = members ++ [(name, value)] := by
  induction members with
  | nil => rfl
  | cons head rest induction =>
      rw [names_cons, List.mem_cons, not_or] at absent
      rw [set_cons, if_neg (Ne.symm absent.1), induction absent.2, List.cons_append]

/-- Members with other names are put behind the ones that are there. -/
theorem update_of_nodup {members changes : Members}
    (once : (members.names ++ changes.names).Nodup) :
    members.update changes = members ++ changes := by
  induction changes generalizing members with
  | nil => exact (List.append_nil members).symm
  | cons head rest induction =>
      have absent : head.1 ∉ members.names := by
        rw [names_cons, List.nodup_append] at once
        exact fun inside => once.2.2 head.1 inside head.1 List.mem_cons_self rfl
      change (members.set head.1 head.2).update rest = _
      rw [set_of_notMem absent, induction, List.append_assoc]
      · rfl
      · simpa using once

theorem ofPairs_of_nodup {members : Members} (once : members.names.Nodup) :
    ofPairs members = members := update_of_nodup once

theorem names_optional_sublist (name : String) (value : Option Value) :
    (Members.optional name value).names.Sublist [name] := by
  cases value with
  | none => exact List.nil_sublist _
  | some value => exact List.Sublist.refl _

end ChartCompiler.Members
