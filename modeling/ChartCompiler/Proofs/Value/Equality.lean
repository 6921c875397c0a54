import ChartCompiler.Value.Access
import ChartCompiler.Value.Equality

/-!
# Equality of keys

What is equal to an equal key is equal. A key need not be equal to itself, since `nan` equals
nothing.
-/

namespace ChartCompiler

namespace Number

/-- The exact value of a number: whole units of binary64, or an infinity. -/
def comparable? : Number → Option (Int ⊕ Bool)
  | .whole value => some (.inl (value * Binary64.unitsPerOne))
  | .real (.finite negative magnitude) => some (.inl (Binary64.signedUnits negative magnitude))
  | .real (.infinite negative) => some (.inr negative)
  | .real .nan => none

theorem exists_both_iff {α : Type} {first second : α} :
    (∃ value, some first = some value ∧ some second = some value) ↔ first = second := by
  constructor
  · rintro ⟨value, ofFirst, ofSecond⟩
    exact Option.some.inj (ofFirst.trans ofSecond.symm)
  · rintro rfl
    exact ⟨first, rfl, rfl⟩

theorem equals_iff {left right : Number} :
    left.equals right = true ↔
      ∃ value, left.comparable? = some value ∧ right.comparable? = some value := by
  have unit : (Binary64.unitsPerOne : Int) ≠ 0 := by
    unfold Binary64.unitsPerOne
    generalize 1074 = exponent
    exact_mod_cast Nat.ne_of_gt (Nat.two_pow_pos exponent)
  -- The number of units in a whole number is too large to be computed.
  generalize counted : (Binary64.unitsPerOne : Int) = units at unit
  cases left with
  | whole left =>
      cases right with
      | whole right =>
          simp only [equals, comparable?, counted, exists_both_iff, Sum.inl.injEq,
            decide_eq_true_eq]
          exact ⟨fun same => same ▸ rfl, Int.eq_of_mul_eq_mul_right unit⟩
      | real right =>
          cases right <;> simp only [equals, comparable?, Binary64.equalsInt, counted] <;>
            simp [eq_comm]
  | real left =>
      cases right with
      | whole right =>
          cases left <;> simp only [equals, comparable?, Binary64.equalsInt, counted] <;>
            simp [eq_comm]
      | real right =>
          cases left <;> cases right <;> simp [equals, comparable?, Binary64.equals, eq_comm]

theorem equals_trans {left middle right : Number} (first : left.equals middle = true)
    (second : middle.equals right = true) : left.equals right = true := by
  rcases equals_iff.mp first with ⟨value, ofLeft, ofMiddle⟩
  rcases equals_iff.mp second with ⟨other, same, ofRight⟩
  rw [ofMiddle] at same
  cases same
  exact equals_iff.mpr ⟨value, ofLeft, ofRight⟩

end Number

namespace Value

/-- A value that counts as a number equals the values that count as an equal one. -/
theorem equals_of_number? {left right : Value} {number : Number}
    (counted : left.number? = some number) :
    left.equals right = true ↔ ∃ other, right.number? = some other ∧
      number.equals other = true := by
  cases left with
  | bool value => cases counted; unfold equals; cases right.number? <;> simp
  | number value => cases counted; unfold equals; cases right.number? <;> simp
  | _ => cases counted

theorem equals_text_iff {left : String} {right : Value} :
    (Value.text left).equals right = true ↔ right = .text left := by
  unfold equals
  cases right <;> simp [eq_comm]

mutual

theorem equals_trans {left middle right : Value} (key : left.isKey = true)
    (first : left.equals middle = true) (second : middle.equals right = true) :
    left.equals right = true := by
  have numbers : ∀ {number}, left.number? = some number → left.equals right = true := by
    intro number counted
    rcases (equals_of_number? counted).mp first with ⟨other, found, equal⟩
    rcases (equals_of_number? found).mp second with ⟨last, known, alike⟩
    exact (equals_of_number? counted).mpr ⟨last, known, Number.equals_trans equal alike⟩
  cases left with
  | null =>
      cases middle with
      | null => exact second
      | _ => simp [equals] at first
  | bool value => exact numbers rfl
  | number value => exact numbers rfl
  | text content =>
      rw [equals_text_iff] at first
      exact first ▸ second
  | bytes codes =>
      cases middle with
      | bytes others =>
          rw [show codes = others by simpa [equals] using first]
          exact second
      | _ => simp [equals] at first
  | tuple items =>
      cases middle with
      | tuple others =>
          cases right with
          | tuple last =>
              unfold equals at first second ⊢
              exact equalItems_trans (by simpa [isKey] using key) first second
          | _ => simp [equals] at second
      | _ => simp [equals] at first
  | list _ => cases key
  | set _ => cases key
  | map _ => cases key
  | array _ _ _ => cases key

theorem equalItems_trans {left middle right : List Value} (keys : areKeys left = true)
    (first : equalItems left middle = true) (second : equalItems middle right = true) :
    equalItems left right = true := by
  cases left with
  | nil =>
      have none : middle = [] := List.isEmpty_iff.mp (by simpa [equalItems] using first)
      exact none ▸ second
  | cons item rest =>
      cases middle with
      | nil => simp [equalItems] at first
      | cons other others =>
          cases right with
          | nil => simp [equalItems] at second
          | cons last lasts =>
              simp only [equalItems, areKeys, Bool.and_eq_true] at keys first second ⊢
              exact ⟨equals_trans keys.1 first.1 second.1,
                equalItems_trans keys.2 first.2 second.2⟩

end

end Value

end ChartCompiler
