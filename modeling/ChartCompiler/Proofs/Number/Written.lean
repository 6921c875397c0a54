import ChartCompiler.Number.Decimal

/-!
# Characters of written numbers

Numbers are written with digits, signs, a point, the mark of an exponent and the letters of the
numbers that are not finite.
-/

namespace ChartCompiler

/-- The characters of written numbers besides digits. -/
def numeralMarks : List Char := ['.', '-', '+', 'e', 'n', 'a', 'i', 'f']

/-- Whether a character may occur in a written number. -/
def IsNumeral (character : Char) : Prop := character.isDigit = true ∨ character ∈ numeralMarks

instance (character : Char) : Decidable (IsNumeral character) :=
  inferInstanceAs (Decidable (_ ∨ _))

/-- The characters that are looked for in expressions are not those of numbers. -/
theorem IsNumeral.ne {character : Char} (numeral : IsNumeral character) :
    character ≠ '(' ∧ character ≠ 'd' := by
  constructor <;> rintro rfl <;> revert numeral <;> decide

/-- Whether all characters of a text may occur in a written number. -/
def IsNumeralText (characters : List Char) : Prop :=
  ∀ character ∈ characters, IsNumeral character

instance (characters : List Char) : Decidable (IsNumeralText characters) :=
  List.decidableBAll IsNumeral characters

namespace IsNumeralText

theorem append {left right : List Char} (first : IsNumeralText left)
    (second : IsNumeralText right) : IsNumeralText (left ++ right) := by
  intro character member
  rcases List.mem_append.mp member with member | member
  · exact first character member
  · exact second character member

theorem cons {head : Char} {rest : List Char} (first : IsNumeral head)
    (second : IsNumeralText rest) : IsNumeralText (head :: rest) := by
  intro character member
  rcases List.mem_cons.mp member with rfl | member
  · exact first
  · exact second character member

theorem sublist {left right : List Char} (numeral : IsNumeralText right)
    (included : left.Sublist right) : IsNumeralText left :=
  fun character member => numeral character (included.mem member)

theorem zeros (count : Nat) : IsNumeralText (List.replicate count '0') := by
  intro character member
  rw [List.eq_of_mem_replicate member]
  exact .inl rfl

theorem digits (value : Nat) : IsNumeralText (Nat.toDigits 10 value) :=
  fun _ member => .inl (Nat.isDigit_of_mem_toDigits (by decide) (by decide) member)

end IsNumeralText

theorem Int.isNumeralText_toString (value : Int) : IsNumeralText (toString value).toList := by
  rw [Int.toString_eq_repr]
  cases value with
  | ofNat magnitude =>
      simp only [Int.repr, Nat.toList_repr]
      exact .digits magnitude
  | negSucc magnitude =>
      simp only [Int.repr, String.toList_append, Nat.toList_repr]
      exact .append (by decide) (.digits _)

namespace DecimalLayout

theorem isNumeralText_positional (layout : DecimalLayout) (digits : List Char) (leading : Int)
    (numeral : IsNumeralText digits) (suffix : IsNumeralText layout.wholeSuffix.toList) :
    IsNumeralText (layout.positional digits leading).toList := by
  unfold DecimalLayout.positional
  cases leading with
  | ofNat exponent =>
      have whole : IsNumeralText (digits.take (exponent + 1)
          ++ List.replicate (exponent + 1 - digits.length) '0') :=
        (numeral.sublist (List.take_sublist _ _)).append (.zeros _)
      simp only
      split
      · rw [String.toList_append, String.toList_ofList]
        exact whole.append suffix
      · rw [String.toList_ofList]
        exact whole.append (.cons (.inr (by decide)) (numeral.sublist (List.drop_sublist _ _)))
  | negSucc zeros =>
      rw [String.toList_ofList]
      exact .cons (.inl rfl) (.cons (.inr (by decide)) ((IsNumeralText.zeros _).append numeral))

theorem isNumeralText_exponential (digits : List Char) (leading : Int)
    (numeral : IsNumeralText digits) :
    IsNumeralText (DecimalLayout.exponential digits leading).toList := by
  unfold DecimalLayout.exponential
  rw [String.toList_ofList]
  have fraction : IsNumeralText (if digits.length ≤ 1 then [] else '.' :: digits.drop 1) := by
    split
    · exact nofun
    · exact .cons (.inr (by decide)) (numeral.sublist (List.drop_sublist _ _))
  have mantissa := (numeral.sublist (List.take_sublist 1 _)).append fraction
  have mark : IsNumeral 'e' := by decide
  have sign : IsNumeral (if leading < 0 then '-' else '+') := by split <;> decide
  exact (mantissa.append (.cons mark (.cons sign (.zeros _)))).append (.digits _)

theorem isNumeralText_write (layout : DecimalLayout) (decimal : Decimal)
    (suffix : IsNumeralText layout.wholeSuffix.toList) :
    IsNumeralText (layout.write decimal).toList := by
  unfold DecimalLayout.write
  simp only
  generalize (if decimal.normalize.significand = 0 then (0 : Int)
    else decimal.normalize.exponent + decimal.normalize.digits.length - 1) = leading
  split
  · exact layout.isNumeralText_positional _ _ (.digits _) suffix
  · exact isNumeralText_exponential _ _ (.digits _)

end DecimalLayout

namespace Binary64

theorem isNumeralText_writeWith {magnitudeText : Nat → String}
    (each : ∀ units, IsNumeralText (magnitudeText units).toList) (value : Binary64) :
    IsNumeralText (value.writeWith magnitudeText).toList := by
  cases value with
  | nan => exact (by decide : IsNumeralText "nan".toList)
  | infinite negative =>
      cases negative
      · exact (by decide : IsNumeralText "inf".toList)
      · exact (by decide : IsNumeralText "-inf".toList)
  | finite negative magnitude =>
      unfold writeWith
      have sign : IsNumeralText (if negative then "-" else "").toList := by
        cases negative <;> decide
      rw [String.toList_append]
      exact sign.append (each magnitude.units)

/-- A number as data. -/
theorem isNumeralText_toText (value : Binary64) : IsNumeralText value.toText.toList :=
  isNumeralText_writeWith (fun _ => DecimalLayout.isNumeralText_write _ _ (by decide)) value

/-- A number in an expression. -/
theorem isNumeralText_toGeneralText (precision : Nat) (value : Binary64) :
    IsNumeralText (value.toGeneralText precision).toList :=
  isNumeralText_writeWith
    (fun _ => DecimalLayout.isNumeralText_write (.general precision) _ nofun) value

end Binary64

end ChartCompiler
