import ChartCompiler.Field.Label
import ChartCompiler.Proofs.Json.Strings
import ChartCompiler.Proofs.Number.Written
import ChartCompiler.Text.Order
import Mathlib.Data.List.Basic

/-!
# Written texts

Not every string is a text: in a text the mark for halves of surrogate pairs stands only where it is
written for one, or for itself. Texts with the same code points are the same.
-/

namespace ChartCompiler

theorem TextUnit.codePoint_injective : Function.Injective TextUnit.codePoint := by
  intro left right same
  cases left with
  | character first =>
      have range := Char.toNat_cases first
      cases right with
      | character second => rw [Char.toNat_inj.mp same]
      | half offset =>
          have bounded := offset.isLt
          simp only [codePoint] at same
          omega
  | half offset =>
      have bounded := offset.isLt
      cases right with
      | character second =>
          have range := Char.toNat_cases second
          simp only [codePoint] at same
          omega
      | half other => rw [Fin.val_inj.mp (Nat.add_left_cancel same)]

namespace Text

theorem units_ofUnits (parts : List TextUnit) : units (ofUnits parts) = parts := by
  unfold units ofUnits
  rw [String.toList_ofList, unitsOf_flatMap_write]

/-- Whether a string is the text of some units. -/
def IsWritten (text : String) : Prop := ∃ parts, text = ofUnits parts

theorem IsWritten.ofUnits_units {text : String} (written : IsWritten text) :
    ofUnits (units text) = text := by
  obtain ⟨parts, rfl⟩ := written
  rw [units_ofUnits]

theorem IsWritten.eq_of_codePoints {left right : String} (first : IsWritten left)
    (second : IsWritten right) (same : codePoints left = codePoints right) : left = right := by
  have parts : units left = units right :=
    List.map_injective_iff.mpr TextUnit.codePoint_injective same
  rw [← first.ofUnits_units, ← second.ofUnits_units, parts]

/-- A string without the mark is written as it is. -/
theorem isWritten_of_unmarked {text : String} (unmarked : halfMark ∉ text.toList) :
    IsWritten text := by
  have plain {characters : List Char} (unmarked : halfMark ∉ characters) :
      (characters.map TextUnit.character).flatMap TextUnit.write = characters := by
    induction characters with
    | nil => rfl
    | cons first rest induction =>
        rw [List.mem_cons, not_or] at unmarked
        have here : TextUnit.write (.character first) = [first] := if_neg (Ne.symm unmarked.1)
        rw [List.map_cons, List.flatMap_cons, here, induction unmarked.2]
        rfl
  refine ⟨text.toList.map .character, ?_⟩
  unfold ofUnits
  rw [plain unmarked, String.ofList_toList]

theorem isWritten_of_numeral {text : String} (numeral : IsNumeralText text.toList) :
    IsWritten text := by
  apply isWritten_of_unmarked
  intro marked
  exact absurd (numeral _ marked) (by decide)

end Text

open Text

theorem Number.isWritten_label (number : Number) : IsWritten number.label := by
  cases number with
  | whole value => exact isWritten_of_numeral (Int.isNumeralText_toString value)
  | real value =>
      unfold label
      dsimp only
      cases value.toInt? with
      | some integer => exact isWritten_of_numeral (Int.isNumeralText_toString integer)
      | none => exact isWritten_of_numeral value.isNumeralText_toText

end ChartCompiler
