import ChartCompiler.Chart.Basic
import ChartCompiler.Proofs.Number.Finite
import ChartCompiler.Proofs.Value.Members
import ChartCompiler.Value.Access

/-!
# Values of finite numbers

The numbers that stand in a value at any depth, and values that hold only finite ones. A whole number
may be too large for a real one; then there is nothing that it can be taken as.
-/

namespace ChartCompiler

def Number.isFinite : Number → Bool
  | .whole _ => true
  | .real value => value.isFinite

namespace Value

mutual

/-- The numbers in a value, at any depth. -/
def numbers : Value → List Number
  | .number value => [value]
  | .list items | .tuple items | .set items | .array _ _ items => allNumbers items
  | .map members => memberNumbers members
  | .null | .bool _ | .text _ | .bytes _ => []

def allNumbers : List Value → List Number
  | [] => []
  | item :: rest => item.numbers ++ allNumbers rest

def memberNumbers : List (String × Value) → List Number
  | [] => []
  | (_, item) :: rest => item.numbers ++ memberNumbers rest

end

theorem allNumbers_eq_flatMap (items : List Value) : allNumbers items = items.flatMap numbers := by
  induction items with
  | nil => rfl
  | cons item rest induction => rw [allNumbers, induction, List.flatMap_cons]

theorem memberNumbers_eq_flatMap (members : Members) :
    memberNumbers members = members.flatMap (·.2.numbers) := by
  induction members with
  | nil => rfl
  | cons head rest induction => rw [memberNumbers, induction, List.flatMap_cons]

/-- Whether all numbers in a value are finite. -/
def OnlyFinite (value : Value) : Prop := ∀ number ∈ value.numbers, number.isFinite = true

instance : DecidablePred OnlyFinite :=
  fun value => inferInstanceAs (Decidable (∀ number ∈ value.numbers, number.isFinite = true))

end Value

/-- Whether all numbers in some members are finite. -/
def Members.OnlyFinite (members : Members) : Prop := ∀ member ∈ members, member.2.OnlyFinite

namespace Value

@[simp] theorem onlyFinite_null : Value.null.OnlyFinite :=
  List.forall_mem_nil _

@[simp] theorem onlyFinite_bool (value : Bool) : (Value.bool value).OnlyFinite :=
  List.forall_mem_nil _

@[simp] theorem onlyFinite_text (content : String) : (Value.text content).OnlyFinite :=
  List.forall_mem_nil _

@[simp] theorem onlyFinite_number (value : Number) :
    (Value.number value).OnlyFinite ↔ value.isFinite = true := List.forall_mem_singleton

@[simp] theorem onlyFinite_list (items : List Value) :
    (Value.list items).OnlyFinite ↔ ∀ item ∈ items, item.OnlyFinite := by
  unfold OnlyFinite
  rw [numbers, allNumbers_eq_flatMap, List.forall_mem_flatMap]

@[simp] theorem onlyFinite_tuple (items : List Value) :
    (Value.tuple items).OnlyFinite ↔ ∀ item ∈ items, item.OnlyFinite := by
  unfold OnlyFinite
  rw [numbers, allNumbers_eq_flatMap, List.forall_mem_flatMap]

@[simp] theorem onlyFinite_map (members : Members) :
    (Value.map members).OnlyFinite ↔ members.OnlyFinite := by
  unfold OnlyFinite
  rw [numbers, memberNumbers_eq_flatMap, List.forall_mem_flatMap]
  rfl

end Value

@[simp] theorem Number.isFinite_whole (value : Int) : (Number.whole value).isFinite = true := rfl

@[simp] theorem Number.isFinite_real (value : Binary64) :
    (Number.real value).isFinite = value.isFinite := rfl

namespace Members

@[simp] theorem onlyFinite_nil : Members.OnlyFinite [] := List.forall_mem_nil _

@[simp] theorem onlyFinite_cons (name : String) (value : Value) (rest : Members) :
    Members.OnlyFinite ((name, value) :: rest) ↔ value.OnlyFinite ∧ rest.OnlyFinite :=
  List.forall_mem_cons

@[simp] theorem onlyFinite_append (left right : Members) :
    Members.OnlyFinite (left ++ right) ↔ left.OnlyFinite ∧ right.OnlyFinite :=
  List.forall_mem_append

@[simp] theorem onlyFinite_optional (name : String) (value : Option Value) :
    (Members.optional name value).OnlyFinite ↔ ∀ content ∈ value, content.OnlyFinite := by
  cases value <;> simp [Members.optional]

theorem OnlyFinite.set {members : Members} (finite : members.OnlyFinite) (name : String)
    {value : Value} (given : value.OnlyFinite) : (members.set name value).OnlyFinite :=
  forall_mem_set given finite

theorem OnlyFinite.update {members changes : Members} (finite : members.OnlyFinite)
    (given : changes.OnlyFinite) : (members.update changes).OnlyFinite :=
  forall_mem_update given finite

theorem OnlyFinite.get? {members : Members} (finite : members.OnlyFinite) {name : String}
    {value : Value} (found : members.get? name = some value) : value.OnlyFinite :=
  finite _ (mem_of_get? found)

end Members

/-! ## Numbers beyond the range -/

theorem realOfWhole_cases (value : Int) :
    realOfWhole value = .error .numberTooLarge ∨ ∃ real, realOfWhole value = .ok real := by
  rw [realOfWhole_eq]
  generalize Binary64.ofInt? value = nearest
  cases nearest with
  | none => exact .inl rfl
  | some real => exact .inr ⟨real, rfl⟩

namespace Value

/-- Whether a value stands for a number that no real number is near to. -/
def IsHuge (value : Value) : Prop := value.toReal = .error .numberTooLarge

/-- Whether a value stands for an infinite number where a whole one is needed. -/
def IsInfinite (value : Value) : Prop := value.toWhole = .error .numberTooLarge

theorem isHuge_whole_iff {value : Int} :
    (Value.whole value).IsHuge ↔ Binary64.ofInt? value = none := by
  change realOfWhole value = _ ↔ _
  rw [realOfWhole_eq]
  generalize Binary64.ofInt? value = nearest
  cases nearest <;> simp

end Value

end ChartCompiler
