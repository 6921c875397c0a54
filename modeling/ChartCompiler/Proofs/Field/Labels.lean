import ChartCompiler.Field.Label
import ChartCompiler.Proofs.Log.Outcome
import ChartCompiler.Proofs.Text.Numerals

/-!
# Labels of numeric fields

A numeric field holds numbers, truth values and nested lists, and no texts. None of their labels
reads as the undefined number: where an entry is undefined its label says that it is missing. Only
an array without dimensions is written as its single item is.
-/

namespace ChartCompiler

open Text Json

/-! ## How labels start -/

theorem opens_toString (value : Int) : Opens (toString value) := by
  have filled : Nat.toDigits 10 value.natAbs ≠ [] := Nat.toDigits_ne_nil
  have first := List.head?_eq_some_head filled
  exact opens_of_digits (toList_toString_int value) first
    (digits_toDigits value.natAbs _ (List.head_mem filled))

theorem opens_toText {value : Binary64} (defined : value ≠ .nan) : Opens value.toText := by
  cases value with
  | nan => exact absurd rfl defined
  | infinite negative =>
      refine ⟨negative, 'i', ['n', 'f'], ?_, by decide⟩
      cases negative <;> rfl
  | finite negative magnitude =>
      by_cases zero : magnitude.units = 0
      · have text := toList_toText negative magnitude
        rw [zero, write_zero] at text
        exact ⟨negative, '0', ['.', '0'], text, by decide⟩
      · obtain ⟨_, _, read⟩ := @reads_shortest negative magnitude zero [] ends_nil
        rw [List.append_nil] at read
        obtain ⟨digit, first, isDigit⟩ := head?_of_readMagnitude read
        exact opens_of_digits (toList_toText negative magnitude) first isDigit

theorem Number.opens_label {number : Number} (defined : number ≠ .real .nan) :
    Opens number.label := by
  cases number with
  | whole value => exact opens_toString value
  | real value =>
      unfold label
      dsimp only
      cases value.toInt? with
      | some integer => exact opens_toString integer
      | none => exact opens_toText fun same => defined (same ▸ rfl)

theorem opens_tupleText (items : List String) : Opens (tupleText items) := by
  have bracket : IsOpening '(' := by decide
  unfold tupleText
  split
  all_goals
    rw [String.append_assoc]
    exact opens_append rfl bracket _

theorem opens_plain (elements : ElementType) {extents : List Nat} (dimensions : extents ≠ [])
    (items : List Value) : Opens (ArrayText.plain elements extents items) := by
  have bracket : IsOpening '[' := by decide
  unfold ArrayText.plain ArrayText.body
  dsimp only
  split
  · exact ⟨false, '[', [']'], rfl, bracket⟩
  · match extents with
    | [] => exact absurd rfl dimensions
    | [_] =>
        unfold ArrayText.bracketed
        rw [String.append_assoc]
        exact opens_append rfl bracket _
    | _ :: _ :: _ =>
        unfold ArrayText.bracketed
        dsimp only
        rw [String.append_assoc]
        exact opens_append rfl bracket _

namespace Value

/-! ## Entries of numeric fields -/

/-- Whether a value is neither a number nor made of other values in order. -/
def IsNamed : Value → Prop
  | .text _ | .bytes _ | .set _ | .map _ => True
  | .null | .bool _ | .number _ | .list _ | .tuple _ | .array _ _ _ => False

/-- Whether a value is an array without dimensions, a single item in the guise of an array. -/
def IsPoint : Value → Prop
  | .array _ extents _ => extents = []
  | _ => False

/-- The single entries among which there are numbers are numbers, truth values or missing. -/
theorem number_of_entriesAreNumeric {types : List ElementType} {entries : List Value}
    (numeric : entriesAreNumeric types entries = .ok true) :
    ∀ entry ∈ entries, entry.isNull = true ∨ entry.isBool = true ∨ entry.isNumber = true := by
  unfold entriesAreNumeric at numeric
  dsimp only at numeric
  intro entry inside
  split at numeric
  · have all := (Bool.and_eq_true_iff.mp (Except.ok.inj numeric)).1
    rcases Bool.or_eq_true_iff.mp (List.all_eq_true.mp all entry inside) with missing | number
    · exact .inl missing
    · exact .inr (.inr number)
  · split at numeric
    · cases numeric
    · have both := (Bool.and_eq_true_iff.mp (Except.ok.inj numeric)).1
      have all := (Bool.and_eq_true_iff.mp both).2
      exact .inr (Bool.or_eq_true_iff.mp (List.all_eq_true.mp all entry inside))

theorem mem_allEntries {items : List Value} {item entry : Value} (inside : item ∈ items)
    (single : entry ∈ item.entries) : entry ∈ allEntries items := by
  induction items with
  | nil => cases inside
  | cons first rest induction =>
      unfold allEntries
      rcases List.mem_cons.mp inside with rfl | later
      · exact List.mem_append_left _ single
      · exact List.mem_append_right _ (induction later)

theorem IsNamed.single {value : Value} (named : value.IsNamed) : value ∈ value.entries ∧
    ¬ (value.isNull = true ∨ value.isBool = true ∨ value.isNumber = true) := by
  cases value with
  | text | bytes | set | map =>
      exact ⟨List.mem_singleton_self _, by simp [isNull, isBool, isNumber]⟩
  | null | bool | number | list | tuple | array => cases named

theorem not_isNamed_of_holdsNumbers {items : List Value}
    (numeric : (Value.list items).holdsNumbers = .ok true) : ∀ item ∈ items, ¬ item.IsNamed := by
  unfold holdsNumbers at numeric
  split at numeric
  · cases numeric
  · intro item inside named
    have entry := mem_allEntries inside named.single.1
    exact named.single.2 (number_of_entriesAreNumeric numeric item entry)

/-! ## Labels of colors -/

/-- A whole number that a real one is near to is its own label. -/
theorem colorLabel_whole {value : Int} (near : Binary64.ofInt? value ≠ none) :
    colorLabel (.whole value) = .ok (toString value) := by
  obtain ⟨real, taken⟩ := Option.ne_none_iff_exists'.mp near
  have converted : realOfWhole value = .ok real := by
    rw [realOfWhole_eq, taken]
    rfl
  have present : (Value.whole value).isMissing = .ok false := by
    change (realOfWhole value >>= fun real => pure real.isNaN) = _
    rw [converted]
    cases real with
    | nan => exact absurd rfl (Binary64.ne_nan_of_ofInt? taken)
    | infinite | finite => rfl
  unfold colorLabel
  rw [present]
  rfl

theorem mapM_colorLabel_wholes {values : List Int}
    (near : ∀ value ∈ values, Binary64.ofInt? value ≠ none) :
    (values.map .whole).mapM colorLabel = .ok (values.map toString) := by
  induction values with
  | nil => rfl
  | cons value rest induction =>
      rw [List.forall_mem_cons] at near
      rw [List.map_cons, List.mapM_cons, colorLabel_whole near.1, induction near.2]
      rfl

/-- The label of what a numeric color field holds does not read as the undefined number. -/
theorem opens_colorLabel {entry : Value} (other : ¬ entry.IsNamed) (extended : ¬ entry.IsPoint)
    {label : String} (labelled : colorLabel entry = .ok label) : Opens label := by
  cases entry with
  | null =>
      cases labelled
      exact ⟨false, _, _, rfl, by decide⟩
  | bool value =>
      cases labelled
      cases value <;> exact ⟨false, _, _, rfl, by decide⟩
  | number number =>
      obtain ⟨missing, known, labelled⟩ := (bind_eq_ok_iff _ _ _).mp labelled
      cases missing with
      | true =>
          cases labelled
          exact ⟨false, _, _, rfl, by decide⟩
      | false =>
          cases labelled
          apply Number.opens_label
          rintro rfl
          cases known
  | list items =>
      cases labelled
      change Opens ("[" ++ _ ++ "]")
      rw [String.append_assoc]
      exact opens_append rfl (by decide) _
  | tuple items =>
      cases labelled
      exact opens_tupleText _
  | array elements extents items =>
      cases labelled
      exact opens_plain elements extended items
  | text | bytes | set | map => exact absurd trivial other

end Value

end ChartCompiler
