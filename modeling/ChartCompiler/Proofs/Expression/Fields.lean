import ChartCompiler.Proofs.Expression.Calls

/-!
# Fields in written expressions

An expression reads a field of the row at hand by `datum` and the name of the field. The fields that
are found in a written expression are those that the expression itself reads:
`Expr.datumFields_toText`.
-/

namespace ChartCompiler

/-! ## The scan -/

/-- What stands before the name of a field. -/
def datumMark : List Char := "datum.".toList

/-- The fields that are read in a text. `inWord` says that a word goes on here, so that no reading
can begin. -/
def datumNames (inWord : Bool) : List Char → List String
  | [] => []
  | character :: rest =>
      let others := datumNames (Text.isWordCharacter character) rest
      if !inWord && datumMark.isPrefixOf (character :: rest) then
        String.ofList ((rest.drop 5).takeWhile Text.isWordCharacter) :: others
      else others

/-- The fields of the row at hand that a text reads. -/
def datumFields (text : String) : List String := datumNames false text.toList

example : datumFields "max(datum.min, datum.q1 - 1.5 * datum.iqr)" = ["min", "q1", "iqr"] := by
  decide

namespace DatumScan

/-- Whether a word that stands before a text ends there, and nothing is read from it. -/
def Ends : List Char → Prop
  | [] => True
  | character :: _ => Text.isWordCharacter character = false ∧ character ≠ '.'

theorem takeWhile_append_of_ends {word rest : List Char} (ends : Ends rest)
    (isWord : QuotedCall.IsWord word) :
    (word ++ rest).takeWhile Text.isWordCharacter = word := by
  rw [List.takeWhile_append_of_pos isWord]
  cases rest with
  | nil => simp
  | cons character rest => simp [ends.1]

/-- Only a word that begins with the mark reads a field. -/
theorem not_prefix {character : Char} (other : character ≠ 'd') (rest : List Char) :
    datumMark.isPrefixOf (character :: rest) = false := by
  have begins : datumMark = 'd' :: "atum.".toList := by decide
  rw [begins, List.isPrefixOf, beq_false_of_ne other.symm, Bool.false_and]

theorem datumNames_cons_of_ne {character : Char} (other : character ≠ 'd') (inWord : Bool)
    (rest : List Char) : datumNames inWord (character :: rest) =
      datumNames (Text.isWordCharacter character) rest := by
  simp [datumNames, not_prefix other]

/-- After a character that is not part of a word the scan begins anew. -/
theorem datumNames_cons_of_not_word {character : Char}
    (outside : Text.isWordCharacter character = false) (inWord : Bool) (rest : List Char) :
    datumNames inWord (character :: rest) = datumNames false rest := by
  have other : character ≠ 'd' := by
    rintro rfl
    exact absurd outside (by decide)
  rw [datumNames_cons_of_ne other, outside]

/-- Nothing is read behind a word that ended. -/
theorem datumNames_of_ends {rest : List Char} (ends : Ends rest) (inWord : Bool) :
    datumNames inWord rest = datumNames false rest := by
  cases rest with
  | nil => rfl
  | cons character rest =>
      rw [datumNames_cons_of_not_word ends.1, datumNames_cons_of_not_word ends.1]

theorem datumNames_append_of_plain {rest : List Char} (ends : Ends rest) :
    ∀ {characters : List Char} (inWord : Bool), 'd' ∉ characters →
      datumNames inWord (characters ++ rest) = datumNames false rest
  | [], inWord, _ => datumNames_of_ends ends inWord
  | character :: characters, inWord, plain => by
      have other : character ≠ 'd' := fun equal => plain (equal ▸ List.mem_cons_self ..)
      rw [List.cons_append, datumNames_cons_of_ne other]
      exact datumNames_append_of_plain ends _ fun member => plain (List.mem_cons_of_mem _ member)

/-- Inside a word nothing is read. -/
theorem datumNames_word : ∀ {word : List Char} (rest : List Char),
    QuotedCall.IsWord word →
    datumNames true (word ++ rest) = datumNames true rest
  | [], _, _ => rfl
  | character :: word, rest, isWord => by
      rw [List.cons_append]
      simp only [datumNames, Bool.not_true, Bool.false_and, Bool.false_eq_true, if_false,
        isWord character (List.mem_cons_self ..)]
      exact datumNames_word rest fun other member => isWord other (List.mem_cons_of_mem _ member)

/-- A word that reads nothing is passed over, even if it begins like a reading. -/
theorem datumNames_passes {word rest : List Char} (ends : Ends rest)
    (isWord : QuotedCall.IsWord word) (inWord : Bool) :
    datumNames inWord (word ++ rest) = datumNames false rest := by
  cases word with
  | nil => exact datumNames_of_ends ends inWord
  | cons character word =>
      have unread : datumMark.isPrefixOf (character :: word ++ rest) = false := by
        refine Bool.eq_false_iff.mpr fun starts => ?_
        rcases List.isPrefixOf_iff_prefix.mp starts with ⟨tail, equal⟩
        have taken : "datum".toList = character :: word := by
          rw [← takeWhile_append_of_ends ends isWord, ← equal]
          rfl
        rw [← taken] at equal
        have following : '.' :: tail = rest := @List.append_cancel_left _ "datum".toList _ _ equal
        rw [← following] at ends
        exact ends.2 rfl
      rw [List.cons_append] at unread ⊢
      simp only [datumNames, unread, Bool.and_false, Bool.false_eq_true, if_false,
        isWord character (List.mem_cons_self ..)]
      rw [datumNames_word rest fun other member => isWord other (List.mem_cons_of_mem _ member)]
      exact datumNames_of_ends ends true

theorem datumNames_datum {name rest : List Char} (ends : Ends rest)
    (isWord : QuotedCall.IsWord name) :
    datumNames false (datumMark ++ (name ++ rest)) =
      String.ofList name :: datumNames false rest := by
  have starts : datumMark.isPrefixOf ('d' :: ("atum".toList ++ '.' :: (name ++ rest))) = true :=
    List.isPrefixOf_iff_prefix.mpr (List.prefix_append datumMark (name ++ rest))
  have inside : datumNames true ("atum".toList ++ '.' :: (name ++ rest)) =
      datumNames false rest := by
    rw [datumNames_word _ (by decide), datumNames_cons_of_not_word (by decide),
      datumNames_passes ends isWord]
  have letter : Text.isWordCharacter 'd' = true := by decide
  change datumNames false ('d' :: ("atum".toList ++ '.' :: (name ++ rest))) = _
  simp only [datumNames, starts, Bool.not_false, Bool.and_self, if_true, letter, inside]
  change String.ofList ((name ++ rest).takeWhile _) :: _ = _
  rw [takeWhile_append_of_ends ends isWord]

/-- The scan for the fields of the row at hand. -/
def scanner : Scanner where
  scan := datumNames false
  Ends := Ends
  scan_nil := rfl
  scan_mark mark isMark rest := by
    have outside : ∀ other ∈ ['(', '[', ')', ',', ' ', ']'],
        Text.isWordCharacter other = false := List.all_iff_forall_prop.mp (by decide)
    exact datumNames_cons_of_not_word (outside mark isMark) false rest
  ends_nil := trivial
  ends_mark mark isMark rest := by
    have outside : ∀ other ∈ [')', ',', ' ', ']'],
        Text.isWordCharacter other = false ∧ other ≠ '.' :=
      List.all_iff_forall_prop.mp (by decide)
    exact outside mark isMark

theorem reads_plain {characters : List Char} (plain : 'd' ∉ characters) :
    scanner.Reads characters [] :=
  fun _ ends => datumNames_append_of_plain ends false plain

theorem reads_word {word : List Char} (isWord : QuotedCall.IsWord word) :
    scanner.Reads word [] :=
  fun _ ends => datumNames_passes ends isWord false

end DatumScan

/-! ## Written expressions -/

namespace Expr

open DatumScan Scanner

/-- The fields of the row at hand that an expression reads. -/
def fieldsRead : Expr → List String
  | .datum field => [field]
  | .scaled _ argument | .apply _ argument => argument.fieldsRead
  | .combine _ first second | .binary _ first second | .pair first second =>
      first.fieldsRead ++ second.fieldsRead
  | .number _ | .whole _ | .text _ | .extent _ | .random | .bandwidth _ => []

/-- The functions of expressions. -/
def allFunctions : List (List Char) := "scale".toList :: "bandwidth".toList :: plainFunctions

theorem datumNames_function {name : List Char} (member : name ∈ allFunctions) (rest : List Char) :
    datumNames false (name ++ '(' :: rest) = datumNames false rest := by
  have areWords : ∀ function ∈ allFunctions, QuotedCall.IsWord function := by decide
  have ends : Ends ('(' :: rest) := ⟨by decide, by decide⟩
  rw [datumNames_passes ends (areWords name member), datumNames_cons_of_not_word (by decide)]

theorem reads_quotedScale (scale : ScaleName) : scanner.Reads (renderText scale.text) [] := by
  intro rest _
  have isWord : QuotedCall.IsWord scale.text.toList := by
    cases scale <;> decide
  have ends : Ends ('\'' :: rest) := ⟨by decide, by decide⟩
  unfold renderText
  simp only [List.cons_append, List.append_assoc, List.nil_append]
  change datumNames false _ = datumNames false rest
  rw [datumNames_cons_of_not_word (by decide), datumNames_passes ends isWord,
    datumNames_cons_of_not_word (by decide)]

/-- The scan of a written expression finds the fields that it reads. -/
theorem reads_fields : ∀ (expression : Expr), expression.isClear = true →
    scanner.Reads expression.render expression.fieldsRead
  | .number value, _ => reads_plain fun member =>
      (Binary64.isNumeralText_toGeneralText 6 value _ member).ne.2 rfl
  | .whole value, _ => reads_plain fun member =>
      (Int.isNumeralText_toString value _ member).ne.2 rfl
  | .text content, clear => by
      refine reads_plain ?_
      simp only [isClear, List.all_eq_true] at clear
      simp only [render, renderText, List.cons_append, List.mem_cons, List.mem_append]
      rintro (equal | member | equal | member)
      · cases equal
      · exact absurd (clear 'd' member) (by decide)
      · cases equal
      · cases member
  | .extent dimension, _ => reads_word (by cases dimension <;> decide)
  | .datum field, clear => by
      simp only [isClear, isField, Bool.and_eq_true, List.all_eq_true] at clear
      intro rest ends
      have read := datumNames_datum ends clear.2
      rw [String.ofList_toList] at read
      unfold render
      rw [List.append_assoc]
      exact read
  | .random, _ => (reads_nil _).call (datumNames_function (by decide))
  | .scaled scale argument, clear =>
      ((reads_quotedScale scale).comma (reads_fields argument clear)).call
        (datumNames_function (by decide))
  | .bandwidth scale, _ => (reads_quotedScale scale).call (datumNames_function (by decide))
  | .apply function argument, clear =>
      (reads_fields argument clear).call (datumNames_function (by cases function <;> decide))
  | .combine function first second, clear => by
      simp only [isClear, Bool.and_eq_true] at clear
      have arguments := (reads_fields first clear.1).comma (reads_fields second clear.2)
      exact arguments.call (datumNames_function (by cases function <;> decide))
  | .binary operator left right, clear => by
      simp only [isClear, Bool.and_eq_true] at clear
      have plain : 'd' ∉ ' ' :: operator.symbol := by cases operator <;> decide
      exact ((reads_fields left clear.1).enclose _ _).binary (reads_plain plain)
        ((reads_fields right clear.2).enclose _ _)
  | .pair first second, clear => by
      simp only [isClear, Bool.and_eq_true] at clear
      have inside := (reads_fields first clear.1).comma (reads_fields second clear.2)
      exact (inside.cons '[' (by decide)).close ']' (by decide)

/-- The fields that are read in a written expression are those that the expression reads. -/
theorem datumFields_toText (expression : Expr) (clear : expression.isClear = true) :
    datumFields expression.toText = expression.fieldsRead := by
  unfold datumFields toText
  rw [String.toList_ofList]
  exact (reads_fields expression clear).scan_eq

end Expr

end ChartCompiler
