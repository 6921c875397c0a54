import ChartCompiler.Proofs.Expression.Calls
import ChartCompiler.Proofs.Log.Outcome
import ChartCompiler.Proofs.Value.Members

/-!
# What a value refers to

`Value.RefersOnly` says that the search for references goes through a value and finds nothing but
what is allowed. It holds of a list or a map if it holds of the parts.
-/

namespace ChartCompiler

/-- Whether the references that are found in a value, apart from the hidden ones, are allowed. -/
def Value.RefersOnly (hidden : List String) (allowed : String → Prop) (value : Value) : Prop :=
  ∃ names, References.within hidden value = .ok names ∧ ∀ name ∈ names, allowed name

/-- Whether the references that are found in members are allowed. A `scale` member holds a name,
which is no text to be searched. -/
def Members.ReferOnly (hidden : List String) (allowed : String → Prop) (members : Members) :
    Prop :=
  ∀ member ∈ members, member.1 ≠ "scale" → member.2.RefersOnly hidden allowed

variable {hidden : List String} {allowed : String → Prop}

namespace Members.ReferOnly

theorem nil : Members.ReferOnly hidden allowed [] := nofun

theorem cons {name : String} {item : Value} {rest : Members}
    (first : name ≠ "scale" → item.RefersOnly hidden allowed)
    (others : rest.ReferOnly hidden allowed) :
    Members.ReferOnly hidden allowed ((name, item) :: rest) :=
  List.forall_mem_cons.mpr ⟨first, others⟩

theorem append {left right : Members} (first : left.ReferOnly hidden allowed)
    (second : right.ReferOnly hidden allowed) :
    Members.ReferOnly hidden allowed (left ++ right) :=
  List.forall_mem_append.mpr ⟨first, second⟩

theorem optional {name : String} {item : Option Value}
    (each : ∀ value, item = some value → value.RefersOnly hidden allowed) :
    Members.ReferOnly hidden allowed (Members.optional name item) := by
  cases item with
  | none => exact nil
  | some value => exact cons (fun _ => each value rfl) nil

/-- The search goes through the members one after the other. -/
theorem found {members : Members} (refer : members.ReferOnly hidden allowed) :
    ∃ names, References.withinMembers hidden members = .ok names ∧
      ∀ name ∈ names, allowed name := by
  induction members with
  | nil => exact ⟨[], rfl, nofun⟩
  | cons head rest induction =>
      rcases List.forall_mem_cons.mp refer with ⟨first, others⟩
      rcases induction others with ⟨names, searched, good⟩
      unfold References.withinMembers
      by_cases direct : head.1 = "scale"
      · exact ⟨names, by simp [direct, searched, bind, Except.bind, pure, Except.pure], good⟩
      · rcases first direct with ⟨own, ownSearched, ownGood⟩
        refine ⟨own ++ names, ?_, List.forall_mem_append.mpr ⟨ownGood, good⟩⟩
        simp [direct, ownSearched, searched, bind, Except.bind, pure, Except.pure]

end Members.ReferOnly

theorem References.ownScales_eq_nil {members : Members}
    (undeclared : members.get? "scales" = none) : ownScales members = .ok [] := by
  unfold ownScales
  rw [undeclared]

namespace Value.RefersOnly

theorem text {content : String}
    (calls : ∀ name ∈ scaleCalls content, name ∉ hidden → allowed name) :
    (Value.text content).RefersOnly hidden allowed := by
  refine ⟨_, rfl, fun name member => ?_⟩
  rw [List.mem_filter] at member
  exact calls name member.1 (by simpa using member.2)

/-- A word calls no scale, whatever it says. -/
theorem word {content : String} (isWord : Expr.isField content = true) :
    (Value.text content).RefersOnly hidden allowed := by
  apply text
  have none : scaleCalls content = [] :=
    quotedCalls_eq_nil scaleFunctions_quoting.words (QuotedCall.parenthesis_not_mem
      fun character member => by
        simp only [Expr.isField, Bool.and_eq_true, List.all_eq_true] at isWord
        exact isWord.2 character member)
  rw [none]
  exact List.forall_mem_nil _

theorem number (value : Number) : (Value.number value).RefersOnly hidden allowed :=
  ⟨[], rfl, nofun⟩

theorem bool (value : Bool) : (Value.bool value).RefersOnly hidden allowed := ⟨[], rfl, nofun⟩

theorem list {items : List Value} (each : ∀ item ∈ items, item.RefersOnly hidden allowed) :
    (Value.list items).RefersOnly hidden allowed := by
  unfold Value.RefersOnly References.within
  induction items with
  | nil => exact ⟨[], rfl, nofun⟩
  | cons head rest induction =>
      rcases List.forall_mem_cons.mp each with ⟨⟨own, ownSearched, ownGood⟩, others⟩
      rcases induction others with ⟨names, searched, good⟩
      refine ⟨own ++ names, ?_, List.forall_mem_append.mpr ⟨ownGood, good⟩⟩
      simp [References.withinItems, ownSearched, searched, bind, Except.bind, pure, Except.pure]

/-- A map that may declare scales for itself. -/
theorem declaring {members : Members} {own : List String}
    (declares : References.ownScales members = .ok own)
    (direct : ∀ name ∈ References.direct members, name ∉ hidden ++ own → allowed name)
    (inner : members.ReferOnly (hidden ++ own) allowed) :
    (Value.map members).RefersOnly hidden allowed := by
  rcases inner.found with ⟨names, searched, good⟩
  refine ⟨(References.direct members).filter (· ∉ hidden ++ own) ++ names, ?_,
    List.forall_mem_append.mpr ⟨fun name member => ?_, good⟩⟩
  · simp [References.within, declares, searched, bind, Except.bind, pure, Except.pure]
  · rw [List.mem_filter] at member
    exact direct name member.1 (by simpa using member.2)

/-- A map that declares no scales. -/
theorem map {members : Members} (undeclared : members.get? "scales" = none)
    (direct : ∀ name ∈ References.direct members, name ∉ hidden → allowed name)
    (inner : members.ReferOnly hidden allowed) :
    (Value.map members).RefersOnly hidden allowed := by
  apply declaring (References.ownScales_eq_nil undeclared)
  · simpa using direct
  · simpa using inner

end Value.RefersOnly

/-! ## More hidden names -/

/-- Whether nothing is found in a value, whatever is hidden. -/
def Value.RefersToNothing (value : Value) : Prop :=
  References.within [] value = .ok []

theorem References.filter_eq_nil_iff {names hidden : List String} :
    names.filter (· ∉ hidden) = [] ↔ names ⊆ hidden := by
  simp only [List.filter_eq_nil_iff, decide_eq_true_eq, Decidable.not_not]
  rfl

mutual

theorem References.within_eq_nil {fewer more : List String} (subset : fewer ⊆ more) :
    ∀ {value : Value}, within fewer value = .ok [] → within more value = .ok []
  | .text content, nothing => by
      rw [within, Except.ok.injEq, References.filter_eq_nil_iff] at nothing ⊢
      exact List.Subset.trans nothing subset
  | .list items, nothing => by
      simp only [within] at nothing ⊢
      exact References.withinItems_eq_nil subset nothing
  | .tuple items, nothing => by
      simp only [within] at nothing ⊢
      exact References.withinItems_eq_nil subset nothing
  | .map members, nothing => by
      simp only [within, bind_eq_ok_iff, pure, Except.pure, Except.ok.injEq] at nothing ⊢
      rcases nothing with ⟨own, declares, inner, searched, empty⟩
      rcases List.append_eq_nil_iff.mp empty with ⟨direct, rfl⟩
      have larger : fewer ++ own ⊆ more ++ own :=
        List.append_subset.mpr ⟨fun name member => List.mem_append_left _ (subset member),
          List.subset_append_right _ _⟩
      refine ⟨own, declares, [], References.withinMembers_eq_nil larger searched, ?_⟩
      rw [List.append_nil, References.filter_eq_nil_iff]
      exact List.Subset.trans (References.filter_eq_nil_iff.mp direct) larger
  | .null, _ | .bool _, _ | .number _, _ | .bytes _, _ | .set _, _ | .array _ _ _, _ => by
      rw [within]

theorem References.withinItems_eq_nil {fewer more : List String} (subset : fewer ⊆ more) :
    ∀ {items : List Value}, withinItems fewer items = .ok [] → withinItems more items = .ok []
  | [], _ => rfl
  | item :: rest, nothing => by
      simp only [withinItems, bind_eq_ok_iff, pure, Except.pure, Except.ok.injEq] at nothing ⊢
      rcases nothing with ⟨own, first, others, searched, empty⟩
      rcases List.append_eq_nil_iff.mp empty with ⟨rfl, rfl⟩
      exact ⟨[], References.within_eq_nil subset first, [],
        References.withinItems_eq_nil subset searched, rfl⟩

theorem References.withinMembers_eq_nil {fewer more : List String} (subset : fewer ⊆ more) :
    ∀ {members : List (String × Value)}, withinMembers fewer members = .ok [] →
      withinMembers more members = .ok []
  | [], _ => rfl
  | (name, item) :: rest, nothing => by
      unfold withinMembers at nothing ⊢
      by_cases direct : name = "scale"
      · simp only [direct, if_true, bind_eq_ok_iff, pure, Except.pure, Except.ok.injEq,
          List.append_eq_nil_iff] at nothing ⊢
        rcases nothing with ⟨own, rfl, others, searched, _, rfl⟩
        exact ⟨[], rfl, [], References.withinMembers_eq_nil subset searched, rfl, rfl⟩
      · simp only [direct, if_false, bind_eq_ok_iff, pure, Except.pure, Except.ok.injEq,
          List.append_eq_nil_iff] at nothing ⊢
        rcases nothing with ⟨own, first, others, searched, rfl, rfl⟩
        exact ⟨[], References.within_eq_nil subset first, [],
          References.withinMembers_eq_nil subset searched, rfl, rfl⟩

end

/-- A value in which nothing is found refers to nothing inside a group, either. -/
theorem Value.RefersToNothing.refersOnly {value : Value} (nothing : value.RefersToNothing) :
    value.RefersOnly hidden allowed :=
  ⟨[], References.within_eq_nil (List.nil_subset hidden) nothing, nofun⟩

end ChartCompiler
