import ChartCompiler.Proofs.Json.Strings
import ChartCompiler.Proofs.Value.Finite
import ChartCompiler.Proofs.Value.Members

/-!
# Values as JSON has them

Values of the kinds that JSON has, with lists and maps nested up to a depth, and the texts in them.
-/

namespace ChartCompiler

namespace Value

/-- Whether a value is of a kind that JSON has, with each name once in a map, and lists and maps no
deeper inside each other than `depth`. -/
inductive IsJson : Nat → Value → Prop
  | null {depth : Nat} : IsJson depth .null
  | bool {depth : Nat} (value : Bool) : IsJson depth (.bool value)
  | number {depth : Nat} (value : Number) : IsJson depth (.number value)
  | text {depth : Nat} (content : String) : IsJson depth (.text content)
  | list {depth : Nat} {items : List Value} :
      (∀ item ∈ items, IsJson depth item) → IsJson (depth + 1) (.list items)
  | map {depth : Nat} {members : Members} : members.names.Nodup →
      (∀ member ∈ members, IsJson depth member.2) → IsJson (depth + 1) (.map members)

section

variable {depth : Nat}

@[simp] theorem isJson_null : IsJson depth .null := .null

@[simp] theorem isJson_bool (value : Bool) : IsJson depth (.bool value) := .bool value

@[simp] theorem isJson_number (value : Number) : IsJson depth (.number value) := .number value

@[simp] theorem isJson_text (content : String) : IsJson depth (.text content) := .text content

@[simp] theorem isJson_list (items : List Value) :
    IsJson (depth + 1) (.list items) ↔ ∀ item ∈ items, IsJson depth item :=
  ⟨fun | .list each => each, .list⟩

@[simp] theorem isJson_map (members : Members) :
    IsJson (depth + 1) (.map members) ↔
      members.names.Nodup ∧ ∀ member ∈ members, IsJson depth member.2 :=
  ⟨fun | .map once each => ⟨once, each⟩, fun both => .map both.1 both.2⟩

/-- More depth does no harm. -/
theorem IsJson.mono {value : Value} (json : value.IsJson depth) {more : Nat}
    (order : depth ≤ more) : value.IsJson more := by
  induction json generalizing more with
  | null => exact .null
  | bool value => exact .bool value
  | number value => exact .number value
  | text content => exact .text content
  | list _ induction =>
      rcases Nat.exists_eq_succ_of_ne_zero (Nat.ne_zero_of_lt order) with ⟨more, rfl⟩
      exact .list fun item inside => induction item inside (Nat.le_of_succ_le_succ order)
  | map once _ induction =>
      rcases Nat.exists_eq_succ_of_ne_zero (Nat.ne_zero_of_lt order) with ⟨more, rfl⟩
      exact .map once fun member inside => induction member inside (Nat.le_of_succ_le_succ order)

end

/-! ## The texts in a value -/

mutual

/-- The texts in a value, at any depth, and the names of members. -/
def strings : Value → List String
  | .text content => [content]
  | .list items | .tuple items | .set items | .array _ _ items => allStrings items
  | .map members => memberStrings members
  | .null | .bool _ | .number _ | .bytes _ => []

def allStrings : List Value → List String
  | [] => []
  | item :: rest => item.strings ++ allStrings rest

def memberStrings : List (String × Value) → List String
  | [] => []
  | (name, item) :: rest => name :: item.strings ++ memberStrings rest

end

theorem allStrings_eq_flatMap (items : List Value) : allStrings items = items.flatMap strings := by
  induction items with
  | nil => rfl
  | cons item rest induction => rw [allStrings, induction, List.flatMap_cons]

theorem memberStrings_eq_flatMap (members : Members) :
    memberStrings members = members.flatMap fun member => member.1 :: member.2.strings := by
  induction members with
  | nil => rfl
  | cons head rest induction => rw [memberStrings, induction, List.flatMap_cons]

/-- Whether all texts in a value are texts of characters. -/
def OnlyScalar (value : Value) : Prop := ∀ text ∈ value.strings, Text.IsScalar text

instance : DecidablePred OnlyScalar :=
  fun value => inferInstanceAs (Decidable (∀ text ∈ value.strings, Text.IsScalar text))

@[simp] theorem onlyScalar_text (content : String) :
    (Value.text content).OnlyScalar ↔ Text.IsScalar content := List.forall_mem_singleton

@[simp] theorem onlyScalar_list (items : List Value) :
    (Value.list items).OnlyScalar ↔ ∀ item ∈ items, item.OnlyScalar := by
  unfold OnlyScalar
  rw [strings, allStrings_eq_flatMap, List.forall_mem_flatMap]

@[simp] theorem onlyScalar_map (members : Members) :
    (Value.map members).OnlyScalar ↔
      ∀ member ∈ members, Text.IsScalar member.1 ∧ member.2.OnlyScalar := by
  unfold OnlyScalar
  rw [strings, memberStrings_eq_flatMap, List.forall_mem_flatMap]
  simp only [List.forall_mem_cons]

end Value

/-! ## Numbers with few digits -/

/-- Whether a number has no more digits than are read and written. Real numbers never have. -/
def Number.IsShort : Number → Prop
  | .whole value => (Nat.toDigits 10 value.natAbs).length ≤ Text.wholeDigitLimit
  | .real _ => True

instance : DecidablePred Number.IsShort
  | .whole value =>
      inferInstanceAs (Decidable ((Nat.toDigits 10 value.natAbs).length ≤ Text.wholeDigitLimit))
  | .real _ => isTrue trivial

/-- Whether all numbers in a value have few digits. -/
def Value.OnlyShort (value : Value) : Prop := ∀ number ∈ value.numbers, number.IsShort

instance : DecidablePred Value.OnlyShort :=
  fun value => inferInstanceAs (Decidable (∀ number ∈ value.numbers, number.IsShort))

namespace Value

@[simp] theorem onlyShort_number (value : Number) :
    (Value.number value).OnlyShort ↔ value.IsShort := List.forall_mem_singleton

@[simp] theorem onlyShort_list (items : List Value) :
    (Value.list items).OnlyShort ↔ ∀ item ∈ items, item.OnlyShort := by
  unfold OnlyShort
  rw [numbers, allNumbers_eq_flatMap, List.forall_mem_flatMap]

@[simp] theorem onlyShort_map (members : Members) :
    (Value.map members).OnlyShort ↔ ∀ member ∈ members, member.2.OnlyShort := by
  unfold OnlyShort
  rw [numbers, memberNumbers_eq_flatMap, List.forall_mem_flatMap]

end Value

end ChartCompiler
