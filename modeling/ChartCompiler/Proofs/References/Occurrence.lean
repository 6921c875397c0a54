import ChartCompiler.Proofs.Expression.Scan
import ChartCompiler.Proofs.References.Within
import Mathlib.Data.List.Basic

/-!
# Occurrences of names

A name occurs in a tree at a map whose `scale` member it is, and at a text with a call of it that is
not reached through a `scale` member. A group on the way there, the map itself among them, that
declares the name for itself shadows the occurrence. The search for references finds the names with
an occurrence that nothing shadows.
-/

namespace ChartCompiler

namespace References

/-- Whether a map is a group whose own scales have one of a name. -/
def Declares (members : Members) (name : String) : Prop :=
  members.get? "type" = some (.text "group") ∧
    ∃ scales : List Value, members.get? "scales" = some (.list scales) ∧
      ∃ scale : Members, .map scale ∈ scales ∧ scale.get? "name" = some (.text name)

/-- Whether a name occurs in a value behind the maps of a path, the outermost first. -/
inductive Occurs (name : String) : List Members → Value → Prop
  | call {content : String} {found : List (List Char)} :
      QuotedCall.Scan scaleFunctions [] content.toList found → name.toList ∈ found →
        Occurs name [] (.text content)
  | item {path : List Members} {items : List Value} {item : Value} :
      item ∈ items → Occurs name path item → Occurs name path (.list items)
  | part {path : List Members} {items : List Value} {item : Value} :
      item ∈ items → Occurs name path item → Occurs name path (.tuple items)
  | scale {members : Members} :
      members.get? "scale" = some (.text name) → Occurs name [members] (.map members)
  | member {path : List Members} {members : Members} {key : String} {item : Value} :
      (key, item) ∈ members → key ≠ "scale" → Occurs name path item →
        Occurs name (members :: path) (.map members)

/-- Whether a name has an occurrence in a value that no group on the way declares. -/
def OccursFree (name : String) (value : Value) : Prop :=
  ∃ path, Occurs name path value ∧ ∀ members ∈ path, ¬ Declares members name

/-- Whether values are maps with a text for their name. -/
def AreNamed (scales : List Value) : Prop :=
  ∀ scale ∈ scales, ∃ (members : Members) (name : String),
    scale = .map members ∧ members.get? "name" = some (.text name)

/-- Whether a map that is a group with own scales lists them with their names. -/
def NamesOwn (members : Members) : Prop :=
  ∀ scales, members.get? "type" = some (.text "group") → members.get? "scales" = some scales →
    scales.isTruthy = true → ∃ items, scales = .list items ∧ AreNamed items

/-- Whether a value is a tree in which all groups list their own scales with names. -/
inductive NamesScales : Value → Prop
  | null : NamesScales .null
  | bool (value : Bool) : NamesScales (.bool value)
  | number (value : Number) : NamesScales (.number value)
  | text (content : String) : NamesScales (.text content)
  | list {items : List Value} : (∀ item ∈ items, NamesScales item) → NamesScales (.list items)
  | tuple {items : List Value} : (∀ item ∈ items, NamesScales item) → NamesScales (.tuple items)
  | map {members : Members} : NamesOwn members →
      (∀ member ∈ members, member.1 ≠ "scale" → NamesScales member.2) →
        NamesScales (.map members)

variable {name : String} {hidden : List String} {members : Members}

/-! ## Scales of groups -/

theorem mem_textsOf {values : List Value} : name ∈ textsOf values ↔ .text name ∈ values := by
  unfold textsOf
  rw [List.mem_filterMap]
  constructor
  · rintro ⟨value, inside, same⟩
    split at same
    · cases same
      exact inside
    · cases same
  · exact fun inside => ⟨_, inside, rfl⟩

theorem isGroup_iff : isGroup members = true ↔ members.get? "type" = some (.text "group") := by
  unfold isGroup
  split
  · next type found => rw [found, decide_eq_true_eq, Option.some.injEq, Value.text.injEq]
  · next other =>
      refine ⟨fun no => (by cases no), fun found => ?_⟩
      exact absurd found (other "group")

/-- The names of scales are gone through one by one. -/
theorem mapM_declaredName {scales : List Value} (named : AreNamed scales) :
    ∃ names : List String, scales.mapM declaredName = .ok (names.map .text) ∧
      ∀ name, name ∈ names ↔
        ∃ members : Members, .map members ∈ scales ∧ members.get? "name" = some (.text name) := by
  induction scales with
  | nil => exact ⟨[], rfl, by simp⟩
  | cons head rest induction =>
      rcases List.forall_mem_cons.mp named with ⟨⟨members, own, rfl, found⟩, others⟩
      rcases induction others with ⟨names, declared, listed⟩
      have first : declaredName (.map members) = .ok (.text own) := by
        simp only [declaredName, Value.memberOf, found]
        rfl
      refine ⟨own :: names, ?_, fun name => ?_⟩
      · rw [List.mapM_cons, first, declared]
        rfl
      · rw [List.mem_cons, listed]
        constructor
        · rintro (rfl | ⟨other, inside, named⟩)
          · exact ⟨members, List.mem_cons_self, found⟩
          · exact ⟨other, List.mem_cons_of_mem _ inside, named⟩
        · rintro ⟨other, inside, named⟩
          rcases List.mem_cons.mp inside with same | inside
          · cases same
            rw [found, Option.some.injEq, Value.text.injEq] at named
            exact .inl named.symm
          · exact .inr ⟨other, inside, named⟩

theorem ownScales_exact (named : NamesOwn members) :
    ∃ own, ownScales members = .ok own ∧ ∀ name, name ∈ own ↔ Declares members name := by
  unfold ownScales
  cases found : members.get? "scales" with
  | none =>
      refine ⟨[], rfl, fun name => ⟨fun no => (by cases no), ?_⟩⟩
      rintro ⟨_, scales, listed, _⟩
      cases found.symm.trans listed
  | some scales =>
      dsimp only
      split
      · next declaring =>
          rw [Bool.and_eq_true, isGroup_iff] at declaring
          rcases named scales declaring.1 found declaring.2 with ⟨items, rfl, each⟩
          rcases mapM_declaredName each with ⟨names, declared, listed⟩
          refine ⟨textsOf (names.map .text), ?_, fun name => ?_⟩
          · change (items.mapM declaredName >>= fun own => pure (textsOf own)) = _
            rw [declared]
            rfl
          · rw [mem_textsOf, List.mem_map_of_injective fun _ _ => Value.text.inj, listed]
            constructor
            · exact fun own => ⟨declaring.1, items, found, own⟩
            · rintro ⟨_, scales, same, own⟩
              rw [found, Option.some.injEq, Value.list.injEq] at same
              exact same ▸ own
      · next silent =>
          refine ⟨[], rfl, fun name => ⟨fun no => (by cases no), ?_⟩⟩
          rintro ⟨group, items, same, scale, inside, _⟩
          rw [found, Option.some.injEq] at same
          subst same
          refine absurd ?_ silent
          rw [Bool.and_eq_true, isGroup_iff]
          exact ⟨group, by simpa [Value.isTruthy] using List.ne_nil_of_mem inside⟩

/-! ## The search -/

/-- Whether a search succeeds and finds the names with a property, except for hidden ones. -/
def FindsExactly (outcome : Except Failure (List String)) (hidden : List String)
    (holds : String → Prop) : Prop :=
  ∃ names, outcome = .ok names ∧ ∀ name, name ∈ names ↔ name ∉ hidden ∧ holds name

theorem FindsExactly.congr {outcome : Except Failure (List String)} {holds other : String → Prop}
    (finds : FindsExactly outcome hidden holds) (same : ∀ name, holds name ↔ other name) :
    FindsExactly outcome hidden other := by
  rcases finds with ⟨names, found, exact⟩
  exact ⟨names, found, fun name => (exact name).trans (and_congr_right fun _ => same name)⟩

theorem finds_withinItems {items : List Value}
    (each : ∀ item ∈ items, FindsExactly (within hidden item) hidden (OccursFree · item)) :
    FindsExactly (withinItems hidden items) hidden fun name =>
      ∃ item ∈ items, OccursFree name item := by
  induction items with
  | nil => exact ⟨[], rfl, by simp⟩
  | cons item rest induction =>
      rcases List.forall_mem_cons.mp each with ⟨⟨own, first, ownExact⟩, others⟩
      rcases induction others with ⟨names, searched, exact⟩
      refine ⟨own ++ names, ?_, fun name => ?_⟩
      · rw [withinItems, first, ok_bind, searched]
        rfl
      · rw [List.mem_append, ownExact, exact, ← and_or_left]
        simp

theorem finds_withinMembers {members : Members}
    (each : ∀ member ∈ members, member.1 ≠ "scale" →
      FindsExactly (within hidden member.2) hidden (OccursFree · member.2)) :
    FindsExactly (withinMembers hidden members) hidden fun name =>
      ∃ member ∈ members, member.1 ≠ "scale" ∧ OccursFree name member.2 := by
  induction members with
  | nil => exact ⟨[], rfl, by simp⟩
  | cons member rest induction =>
      rcases List.forall_mem_cons.mp each with ⟨first, others⟩
      rcases induction others with ⟨names, searched, exact⟩
      rcases member with ⟨key, item⟩
      by_cases skipped : key = "scale"
      · refine ⟨names, ?_, fun name => ?_⟩
        · rw [withinMembers, if_pos skipped, ok_bind, searched]
          rfl
        · rw [exact]
          simp [skipped]
      · rcases first skipped with ⟨own, here, ownExact⟩
        refine ⟨own ++ names, ?_, fun name => ?_⟩
        · rw [withinMembers, if_neg skipped, here, ok_bind, searched]
          rfl
        · rw [List.mem_append, ownExact, exact, ← and_or_left]
          simp [skipped]

/-! ## Occurrences in the parts of a value -/

theorem occursFree_text {content : String} :
    OccursFree name (.text content) ↔ name ∈ scaleCalls content := by
  rw [scaleCalls, mem_quotedCalls_iff scaleFunctions_quoting.words]
  constructor
  · rintro ⟨_, occurs, _⟩
    cases occurs with
    | call scan inside => exact ⟨_, scan, inside⟩
  · rintro ⟨found, scan, inside⟩
    exact ⟨[], .call scan inside, List.forall_mem_nil _⟩

theorem occursFree_list {items : List Value} :
    OccursFree name (.list items) ↔ ∃ item ∈ items, OccursFree name item := by
  constructor
  · rintro ⟨path, occurs, free⟩
    cases occurs with
    | item inside occurs => exact ⟨_, inside, path, occurs, free⟩
  · rintro ⟨item, inside, path, occurs, free⟩
    exact ⟨path, .item inside occurs, free⟩

theorem occursFree_tuple {items : List Value} :
    OccursFree name (.tuple items) ↔ ∃ item ∈ items, OccursFree name item := by
  constructor
  · rintro ⟨path, occurs, free⟩
    cases occurs with
    | part inside occurs => exact ⟨_, inside, path, occurs, free⟩
  · rintro ⟨item, inside, path, occurs, free⟩
    exact ⟨path, .part inside occurs, free⟩

theorem mem_direct : name ∈ direct members ↔ members.get? "scale" = some (.text name) := by
  unfold direct
  split
  · next found => rw [found]; simp [eq_comm]
  · next other => simpa using other name

theorem occursFree_map : OccursFree name (.map members) ↔ ¬ Declares members name ∧
    (name ∈ direct members ∨
      ∃ member ∈ members, member.1 ≠ "scale" ∧ OccursFree name member.2) := by
  rw [mem_direct]
  constructor
  · rintro ⟨path, occurs, free⟩
    cases occurs with
    | scale found => exact ⟨free members List.mem_cons_self, .inl found⟩
    | member inside other occurs =>
        rcases List.forall_mem_cons.mp free with ⟨own, free⟩
        exact ⟨own, .inr ⟨_, inside, other, _, occurs, free⟩⟩
  · rintro ⟨own, found | ⟨member, inside, other, path, occurs, free⟩⟩
    · exact ⟨[members], .scale found, List.forall_mem_singleton.mpr own⟩
    · exact ⟨members :: path, .member inside other occurs, List.forall_mem_cons.mpr ⟨own, free⟩⟩

/-- The search in a tree finds exactly the names with an occurrence that nothing shadows. -/
theorem within_exact {value : Value} (named : NamesScales value) (hidden : List String) :
    FindsExactly (within hidden value) hidden (OccursFree · value) := by
  induction named generalizing hidden with
  | null | bool _ | number _ =>
      refine ⟨[], rfl, fun name => ⟨fun no => (by cases no), ?_⟩⟩
      rintro ⟨_, _, ⟨⟩, _⟩
  | text content =>
      refine ⟨_, rfl, fun name => ?_⟩
      change _ ↔ name ∉ hidden ∧ OccursFree name (.text content)
      rw [occursFree_text, List.mem_filter, decide_eq_true_eq, and_comm]
  | list _ each =>
      exact (finds_withinItems fun item inside => each item inside hidden).congr
        fun name => occursFree_list.symm
  | tuple _ each =>
      exact (finds_withinItems fun item inside => each item inside hidden).congr
        fun name => occursFree_tuple.symm
  | @map members own _ each =>
      rcases ownScales_exact own with ⟨declared, declares, ownExact⟩
      rcases finds_withinMembers fun member inside other =>
        each member inside other (hidden ++ declared) with ⟨names, found, exact⟩
      refine ⟨(direct members).filter (· ∉ hidden ++ declared) ++ names, ?_, fun name => ?_⟩
      · rw [within, declares, ok_bind]
        dsimp only
        rw [found]
        rfl
      · change _ ↔ name ∉ hidden ∧ OccursFree name (.map members)
        rw [List.mem_append, List.mem_filter, decide_eq_true_eq, exact, occursFree_map,
          and_comm (a := name ∈ direct members), ← and_or_left, List.mem_append, not_or, ownExact,
          and_assoc]

end References

end ChartCompiler
