import ChartCompiler.Json.Reader
import ChartCompiler.Json.Writer
import ChartCompiler.Proofs.Number.Shortest
import ChartCompiler.Proofs.Number.Written
import ChartCompiler.Proofs.Value.Finite
import Mathlib.Data.List.TakeDrop

/-!
# Numbers that are read back

A written number is followed by a comma or by the end of its line. Reading takes its digits, its
fraction and its exponent apart again and so finds a decimal that differs from the written one by
zeros at most.
-/

namespace ChartCompiler.Json

/-- Whether a text is at an end, at a comma or at the end of a line. -/
def Ends (rest : List Char) : Prop := ∀ character ∈ rest.head?, character = ',' ∨ character = '\n'

theorem ends_nil : Ends [] := nofun

theorem ends_comma (rest : List Char) : Ends (',' :: rest) := by
  rintro _ ⟨⟩
  exact .inl rfl

theorem ends_line (rest : List Char) : Ends ('\n' :: rest) := by
  rintro _ ⟨⟩
  exact .inr rfl

/-! ## Digits -/

/-- Whether a text consists of digits. -/
def Digits (characters : List Char) : Prop := ∀ character ∈ characters, character.isDigit = true

/-- Whether a text does not go on with a digit. -/
def NoDigit (rest : List Char) : Prop := ∀ character ∈ rest.head?, character.isDigit = false

theorem Ends.noDigit {rest : List Char} (ends : Ends rest) : NoDigit rest := by
  intro character first
  rcases ends character first with rfl | rfl <;> rfl

theorem noDigit_cons {character : Char} (other : character.isDigit = false) (rest : List Char) :
    NoDigit (character :: rest) := by
  rintro _ ⟨⟩
  exact other

theorem digits_toDigits (value : Nat) : Digits (Nat.toDigits 10 value) :=
  fun _ inside => Nat.isDigit_of_mem_toDigits (by decide) (by decide) inside

theorem digits_zeros (count : Nat) : Digits (List.replicate count '0') := by
  intro character inside
  rw [List.eq_of_mem_replicate inside]
  rfl

theorem Digits.append {left right : List Char} (first : Digits left) (second : Digits right) :
    Digits (left ++ right) := List.forall_mem_append.mpr ⟨first, second⟩

theorem Digits.sublist {part digits : List Char} (all : Digits digits)
    (within : part.Sublist digits) : Digits part :=
  fun character inside => all character (within.mem inside)

theorem Digits.span_eq {digits rest : List Char} (all : Digits digits) (last : NoDigit rest) :
    (digits ++ rest).span Char.isDigit = (digits, rest) := by
  rw [List.span_eq_takeWhile_dropWhile, List.takeWhile_append_of_pos all,
    List.dropWhile_append_of_pos all]
  cases rest with
  | nil => simp
  | cons character more =>
      have other : character.isDigit = false := last character rfl
      rw [List.takeWhile_cons_of_neg (by simp [other]), List.append_nil,
        List.dropWhile_cons_of_neg (by simp [other])]

theorem decimalValue_eq (digits : List Char) :
    decimalValue digits = Nat.ofDigitChars 10 digits 0 := by
  unfold decimalValue Text.digitsValue
  rw [List.foldl_map, Nat.ofDigitChars_eq_foldl]
  simp only [Nat.mul_comm 10]
  rfl

theorem decimalValue_toDigits (value : Nat) : decimalValue (Nat.toDigits 10 value) = value := by
  rw [decimalValue_eq, Nat.ofDigitChars_ten_toDigits]

theorem decimalValue_append_zeros (digits : List Char) (count : Nat) :
    decimalValue (digits ++ List.replicate count '0') = decimalValue digits * 10 ^ count := by
  rw [decimalValue_eq, decimalValue_eq, Nat.ofDigitChars_append, Nat.ofDigitChars_replicate_zero,
    Nat.mul_comm]

theorem decimalValue_zeros_append (count : Nat) (digits : List Char) :
    decimalValue (List.replicate count '0' ++ digits) = decimalValue digits := by
  rw [decimalValue_eq, decimalValue_eq, Nat.ofDigitChars_append, Nat.ofDigitChars_replicate_zero,
    Nat.mul_zero]

theorem digitChar_ne_zero {digit : Nat} (small : digit < 10) (positive : digit ≠ 0) :
    digit.digitChar ≠ '0' := by
  revert digit
  decide

/-- The digits of a positive number start with another one than zero. -/
theorem head?_toDigits {value : Nat} (positive : value ≠ 0) :
    (Nat.toDigits 10 value).head? ≠ some '0' := by
  induction value using Nat.strongRecOn with
  | _ value induction =>
      rcases Nat.lt_or_ge value 10 with single | more
      · rw [Nat.toDigits_of_lt_base single]
        simpa using digitChar_ne_zero single positive
      · rw [Nat.toDigits_of_base_le (by decide) more, List.head?_append,
          Option.or_of_isSome (List.isSome_head?.mpr Nat.toDigits_ne_nil)]
        exact induction (value / 10) (by omega) (by omega)

/-- Whether digits can be the whole part of a number: there are some, and no zero is in front of
others. -/
structure IsWhole (digits : List Char) : Prop where
  all : Digits digits
  nonempty : digits ≠ []
  leading : digits.head? = some '0' → digits.length ≤ 1

theorem isWhole_toDigits (value : Nat) : IsWhole (Nat.toDigits 10 value) where
  all := digits_toDigits value
  nonempty := Nat.toDigits_ne_nil
  leading zero := by
    by_cases positive : value = 0
    · rw [positive, Nat.toDigits_zero, List.length_singleton]
    · exact absurd zero (head?_toDigits positive)

theorem IsWhole.starts {digits : List Char} (whole : IsWhole digits) :
    (digits.isEmpty || decide (digits.head? = some '0') && decide (1 < digits.length)) = false := by
  have filled : digits.isEmpty = false := by simpa using whole.nonempty
  have leading : ¬ (digits.head? = some '0' ∧ 1 < digits.length) := fun both =>
    absurd (whole.leading both.1) (Nat.not_le_of_lt both.2)
  rw [filled, Bool.false_or, ← Bool.decide_and, decide_eq_false leading]

/-! ## Parts of a number -/

/-- A fraction as it is written, behind its point. -/
def fractionText (digits : List Char) : List Char := if digits.isEmpty then [] else '.' :: digits

theorem noDigit_fractionText {rest : List Char} (last : NoDigit rest) (digits : List Char) :
    NoDigit (fractionText digits ++ rest) := by
  unfold fractionText
  split
  · exact last
  · exact noDigit_cons rfl _

theorem readFraction?_fractionText {digits rest : List Char} (all : Digits digits)
    (last : NoDigit rest) (pointless : rest.head? ≠ some '.') :
    readFraction? (fractionText digits ++ rest) = some (digits, rest) := by
  unfold fractionText
  split
  · next empty =>
      rw [List.isEmpty_iff.mp empty, List.nil_append]
      unfold readFraction?
      split
      · exact absurd rfl pointless
      · rfl
  · next filled =>
      rw [List.cons_append]
      simp only [readFraction?, all.span_eq last, filled]
      rfl

theorem readExponent?_of_ends {rest : List Char} (ends : Ends rest) :
    readExponent? rest = some (none, rest) := by
  cases rest with
  | nil => rfl
  | cons character more =>
      rcases ends character rfl with rfl | rfl <;> rfl

/-- An exponent as it is written, with a sign. -/
def exponentText (exponent : Int) (digits : List Char) : List Char :=
  'e' :: (if exponent < 0 then '-' else '+') :: digits

theorem readExponent?_exponentText {exponent : Int} {digits rest : List Char}
    (all : Digits digits) (nonempty : digits ≠ []) (value : decimalValue digits = exponent.natAbs)
    (last : NoDigit rest) :
    readExponent? (exponentText exponent digits ++ rest) = some (some exponent, rest) := by
  have filled : digits.isEmpty = false := by simpa using nonempty
  have read (negative : Bool) (mark : Char)
      (taken : Text.takeSign (mark :: (digits ++ rest)) = (negative, digits ++ rest)) :
      readExponent? ('e' :: mark :: (digits ++ rest)) =
        some (some (if negative then -(exponent.natAbs : Int) else exponent.natAbs), rest) := by
    simp only [readExponent?, taken, all.span_eq last, filled, value]
    rfl
  unfold exponentText
  rw [List.cons_append, List.cons_append]
  split
  · next negative =>
      rw [read true '-' rfl, if_pos rfl, Int.ofNat_natAbs_of_nonpos negative.le, Int.neg_neg]
  · next positive =>
      rw [read false '+' rfl, if_neg Bool.false_ne_true, Int.natAbs_of_nonneg (by omega)]

/-! ## Numbers -/

theorem pointless_of_ends {rest : List Char} (ends : Ends rest) : rest.head? ≠ some '.' := by
  intro point
  rcases ends '.' point with impossible | impossible <;> cases impossible

/-- Reading digits without a fraction and an exponent. -/
theorem readMagnitude_whole {digits rest : List Char} (whole : IsWhole digits)
    (short : digits.length ≤ Text.wholeDigitLimit) (ends : Ends rest) (negative : Bool) :
    readMagnitude negative (digits ++ rest) =
      .ok (.whole (if negative then -(decimalValue digits : Int) else decimalValue digits),
        rest) := by
  have fraction : readFraction? rest = some ([], rest) :=
    readFraction?_fractionText (List.forall_mem_nil _) ends.noDigit (pointless_of_ends ends)
  unfold readMagnitude
  rw [whole.all.span_eq ends.noDigit]
  simp only [whole.starts, fraction, readExponent?_of_ends ends, List.isEmpty_nil, if_true,
    Nat.not_lt.mpr short, if_false]
  rfl

/-- Reading a number with a fraction. -/
theorem readMagnitude_fraction {digits fraction rest : List Char} (whole : IsWhole digits)
    (all : Digits fraction) (nonempty : fraction ≠ []) (ends : Ends rest) (negative : Bool) :
    readMagnitude negative (digits ++ (fractionText fraction ++ rest)) =
      .ok (.real (Binary64.ofDecimal negative (decimalValue (digits ++ fraction))
        (-(fraction.length : Int))), rest) := by
  have taken : readFraction? (fractionText fraction ++ rest) = some (fraction, rest) :=
    readFraction?_fractionText all ends.noDigit (pointless_of_ends ends)
  have broken : fraction.isEmpty = false := by simpa using nonempty
  unfold readMagnitude
  rw [whole.all.span_eq (noDigit_fractionText ends.noDigit fraction)]
  simp only [whole.starts, taken, readExponent?_of_ends ends, broken]
  rfl

/-- Reading a number with an exponent. -/
theorem readMagnitude_exponent {digits fraction count rest : List Char} {exponent : Int}
    (whole : IsWhole digits) (all : Digits fraction) (counted : Digits count)
    (nonempty : count ≠ []) (value : decimalValue count = exponent.natAbs) (ends : Ends rest)
    (negative : Bool) :
    readMagnitude negative (digits ++ (fractionText fraction ++
        (exponentText exponent count ++ rest))) =
      .ok (.real (Binary64.ofDecimal negative (decimalValue (digits ++ fraction))
        (exponent - fraction.length)), rest) := by
  have mark : NoDigit (exponentText exponent count ++ rest) := noDigit_cons rfl _
  have taken : readFraction? (fractionText fraction ++ (exponentText exponent count ++ rest)) =
      some (fraction, exponentText exponent count ++ rest) :=
    readFraction?_fractionText all mark nofun
  unfold readMagnitude
  rw [whole.all.span_eq (noDigit_fractionText mark fraction)]
  simp only [whole.starts, taken,
    readExponent?_exponentText counted nonempty value ends.noDigit]
  rfl

/-! ## Written decimals -/

/-- Whether a text is read as a decimal that is nearest to a magnitude. -/
def Reads (negative : Bool) (text : List Char) (units : Nat) : Prop :=
  ∀ rest, Ends rest → ∃ decimal : Decimal, decimal.nearestUnits = units ∧
    readMagnitude negative (text ++ rest) =
      .ok (.real (Binary64.ofDecimal negative decimal.significand decimal.exponent), rest)

variable {decimal : Decimal} {negative : Bool}

theorem isWhole_of_positive {digits : List Char} (all : Digits digits) (nonempty : digits ≠ [])
    (positive : digits.head? ≠ some '0') : IsWhole digits :=
  ⟨all, nonempty, fun zero => absurd zero positive⟩

theorem decimalValue_digits (decimal : Decimal) :
    decimalValue decimal.digits = decimal.significand := decimalValue_toDigits _

theorem length_digits_pos (decimal : Decimal) : 0 < decimal.digits.length :=
  Nat.length_toDigits_pos

/-- Digits before the point and behind it. -/
theorem reads_split {whole fraction : List Char} (leading : IsWhole whole) (all : Digits fraction)
    (nonempty : fraction ≠ []) (value : decimalValue (whole ++ fraction) = decimal.significand)
    (place : decimal.exponent = -fraction.length) :
    Reads negative (whole ++ '.' :: fraction) decimal.nearestUnits := by
  intro rest ends
  have filled : fraction.isEmpty = false := by simpa using nonempty
  have read := readMagnitude_fraction leading all nonempty ends negative
  rw [value, ← place] at read
  refine ⟨decimal, rfl, ?_⟩
  rw [← read, fractionText, filled, List.append_assoc]
  rfl

theorem reads_positional (filled : decimal.significand ≠ 0) {leading : Int}
    (place : leading = decimal.exponent + decimal.digits.length - 1) :
    Reads negative (DecimalLayout.plain.positional decimal.digits leading).toList
      decimal.nearestUnits := by
  have all : Digits decimal.digits := digits_toDigits _
  have positive : decimal.digits.head? ≠ some '0' := head?_toDigits filled
  have long := length_digits_pos decimal
  unfold DecimalLayout.positional
  cases leading with
  | ofNat exponent =>
      simp only [Int.ofNat_eq_natCast] at place
      dsimp only
      split
      · next ended =>
          have short : decimal.digits.length ≤ exponent + 1 := by simpa using ended
          have whole : IsWhole (decimal.digits ++
              List.replicate (exponent + 1 - decimal.digits.length) '0') :=
            isWhole_of_positive (all.append (digits_zeros _))
              (List.append_ne_nil_of_left_ne_nil (List.ne_nil_of_length_pos long) _)
              (by rwa [List.head?_append, Option.or_of_isSome
                (List.isSome_head?.mpr (List.ne_nil_of_length_pos long))])
          have suffix : DecimalLayout.plain.wholeSuffix.toList = '.' :: List.replicate 1 '0' := rfl
          rw [List.take_of_length_le short, String.toList_append, String.toList_ofList, suffix,
            ← Decimal.nearestUnits_padded _ _ (exponent + 1 - decimal.digits.length + 1)]
          refine reads_split whole (digits_zeros 1) nofun ?_ ?_
          · rw [List.append_assoc, List.replicate_append_replicate, decimalValue_append_zeros,
              decimalValue_digits]
          · rw [List.length_replicate]
            dsimp only
            omega
      · next broken =>
          have long : exponent + 1 < decimal.digits.length := by simpa using broken
          have unpadded : exponent + 1 - decimal.digits.length = 0 := by omega
          rw [String.toList_ofList, unpadded, List.replicate_zero, List.append_nil]
          refine reads_split (isWhole_of_positive (all.sublist (List.take_sublist _ _)) ?_ ?_)
            (all.sublist (List.drop_sublist _ _)) (by simpa using broken) ?_ ?_
          · exact List.ne_nil_of_length_pos (by rw [List.length_take]; omega)
          · rwa [List.head?_take, if_neg (Nat.succ_ne_zero _)]
          · rw [List.take_append_drop, decimalValue_digits]
          · rw [List.length_drop]
            omega
  | negSucc zeros =>
      rw [String.toList_ofList]
      change Reads negative (['0'] ++ '.' :: (List.replicate zeros '0' ++ decimal.digits)) _
      have zero : IsWhole ['0'] := ⟨digits_zeros 1, nofun, fun _ => Nat.le_refl 1⟩
      refine reads_split zero ((digits_zeros zeros).append all) ?_ ?_ ?_
      · exact List.ne_nil_of_length_pos (by rw [List.length_append]; omega)
      · change decimalValue (List.replicate (zeros + 1) '0' ++ decimal.digits) = _
        rw [decimalValue_zeros_append, decimalValue_digits]
      · rw [List.length_append, List.length_replicate]
        omega

theorem reads_exponential (filled : decimal.significand ≠ 0) {leading : Int}
    (place : leading = decimal.exponent + decimal.digits.length - 1) :
    Reads negative (DecimalLayout.exponential decimal.digits leading).toList
      decimal.nearestUnits := by
  have all : Digits decimal.digits := digits_toDigits _
  have positive : decimal.digits.head? ≠ some '0' := head?_toDigits filled
  have long := length_digits_pos decimal
  have first : IsWhole (decimal.digits.take 1) := by
    refine isWhole_of_positive (all.sublist (List.take_sublist _ _)) ?_ ?_
    · exact List.ne_nil_of_length_pos (by rw [List.length_take]; omega)
    · rwa [List.head?_take, if_neg Nat.one_ne_zero]
  have count : Digits (List.replicate (2 - (Nat.toDigits 10 leading.natAbs).length) '0' ++
      Nat.toDigits 10 leading.natAbs) := (digits_zeros _).append (digits_toDigits _)
  have fraction : (if decimal.digits.length ≤ 1 then [] else '.' :: decimal.digits.drop 1) =
      fractionText (decimal.digits.drop 1) := by
    unfold fractionText
    simp only [List.isEmpty_iff, List.drop_eq_nil_iff]
  intro rest ends
  have read := readMagnitude_exponent first (all.sublist (List.drop_sublist 1 _)) count
    (List.append_ne_nil_of_right_ne_nil _ Nat.toDigits_ne_nil)
    (by rw [decimalValue_zeros_append, decimalValue_toDigits]) ends negative
  rw [List.take_append_drop, decimalValue_digits, List.length_drop,
    show leading - (decimal.digits.length - 1 : Nat) = decimal.exponent by omega] at read
  refine ⟨decimal, rfl, ?_⟩
  rw [← read]
  unfold DecimalLayout.exponential exponentText
  rw [String.toList_ofList, fraction]
  simp only [List.append_assoc, List.cons_append]

/-- A decimal in the layout of data is read as one nearest to the same magnitude. -/
theorem reads_write (filled : decimal.normalize.significand ≠ 0) :
    Reads negative (DecimalLayout.plain.write decimal).toList decimal.nearestUnits := by
  rw [← decimal.nearestUnits_normalize]
  unfold DecimalLayout.write
  dsimp only
  rw [if_neg filled]
  split
  · exact reads_positional filled rfl
  · exact reads_exponential filled rfl

/-! ## Numbers among other values -/

/-- Whether a text starts with none of the words that stand for values. -/
def NoWord (characters : List Char) : Prop :=
  ∀ word ∈ ["null", "true", "false", "NaN", "Infinity", "-Infinity"],
    skipWord? word.toList characters = none

theorem noWord_iff {characters : List Char} :
    NoWord characters ↔ skipWord? "null".toList characters = none ∧
      skipWord? "true".toList characters = none ∧ skipWord? "false".toList characters = none ∧
      skipWord? "NaN".toList characters = none ∧ skipWord? "Infinity".toList characters = none ∧
      skipWord? "-Infinity".toList characters = none := by
  simp only [NoWord, List.forall_mem_cons, List.not_mem_nil, false_implies, implies_true, and_true]

theorem readScalar_eq_readMagnitude {characters rest : List Char} {negative : Bool}
    (other : NoWord characters)
    (signed : characters = if negative then '-' :: rest else rest)
    (unsigned : negative = false → rest.head? ≠ some '-') :
    readScalar characters = readMagnitude negative rest := by
  rcases noWord_iff.mp other with ⟨null, yes, no, nan, infinity, minusInfinity⟩
  unfold readScalar
  rw [null, yes, no, nan, infinity, minusInfinity]
  dsimp only
  cases negative with
  | true =>
      rw [signed, if_pos rfl]
      rfl
  | false =>
      rw [signed, if_neg Bool.false_ne_true]
      split
      · exact absurd rfl (unsigned rfl)
      · rfl

theorem skipWord?_of_ne {first character : Char} (different : first ≠ character)
    (word rest : List Char) : skipWord? (first :: word) (character :: rest) = none := by
  have unequal : (first == character) = false := beq_false_of_ne different
  unfold skipWord?
  rw [List.isPrefixOf_cons_cons, unequal]
  rfl

theorem ne_of_isDigit {character other : Char} (digit : character.isDigit = true)
    (letter : other.isDigit = false) : other ≠ character := by
  rintro rfl
  rw [digit] at letter
  cases letter

theorem noWord_digit {character : Char} (digit : character.isDigit = true) (rest : List Char) :
    NoWord (character :: rest) := by
  refine noWord_iff.mpr ⟨skipWord?_of_ne ?_ _ _, skipWord?_of_ne ?_ _ _, skipWord?_of_ne ?_ _ _,
    skipWord?_of_ne ?_ _ _, skipWord?_of_ne ?_ _ _, skipWord?_of_ne ?_ _ _⟩ <;>
      exact ne_of_isDigit digit rfl

theorem noWord_minus {character : Char} (digit : character.isDigit = true) (rest : List Char) :
    NoWord ('-' :: character :: rest) := by
  have unlike : "-Infinity".toList = '-' :: 'I' :: "nfinity".toList := rfl
  have different : ('I' == character) = false := beq_false_of_ne (ne_of_isDigit digit rfl)
  have minus : skipWord? "-Infinity".toList ('-' :: character :: rest) = none := by
    unfold skipWord?
    rw [unlike, List.isPrefixOf_cons_cons, List.isPrefixOf_cons_cons, different]
    rfl
  refine noWord_iff.mpr ⟨skipWord?_of_ne ?_ _ _, skipWord?_of_ne ?_ _ _, skipWord?_of_ne ?_ _ _,
    skipWord?_of_ne ?_ _ _, skipWord?_of_ne ?_ _ _, minus⟩ <;> decide

/-- A sign, if there is one, in front of digits. -/
def signText (negative : Bool) : List Char := if negative then ['-'] else []

/-- Reading what starts with a digit, behind its sign. -/
theorem readScalar_signed {text rest : List Char} {digit : Char}
    (first : text.head? = some digit) (isDigit : digit.isDigit = true) (negative : Bool) :
    readScalar (signText negative ++ text ++ rest) = readMagnitude negative (text ++ rest) := by
  cases text with
  | nil => cases first
  | cons character more =>
      cases first
      cases negative with
      | true => exact readScalar_eq_readMagnitude (noWord_minus isDigit _) rfl nofun
      | false =>
          refine readScalar_eq_readMagnitude (noWord_digit isDigit _) rfl fun _ minus => ?_
          cases minus
          cases isDigit

theorem head?_of_readMagnitude {characters : List Char} {negative : Bool}
    {result : Value × List Char} (read : readMagnitude negative characters = .ok result) :
    ∃ digit, characters.head? = some digit ∧ digit.isDigit = true := by
  by_contra none
  have noDigit : NoDigit characters := fun character first =>
    Bool.eq_false_iff.mpr fun digit => none ⟨character, first, digit⟩
  have empty : characters.span Char.isDigit = ([], characters) :=
    Digits.span_eq (List.forall_mem_nil _) noDigit
  unfold readMagnitude at read
  rw [empty] at read
  cases read

theorem readScalar_of_reads {text : List Char} {magnitude : Binary64.Magnitude}
    (reads : Reads negative text magnitude.units) (positive : magnitude.units ≠ 0)
    {rest : List Char} (ends : Ends rest) :
    readScalar (signText negative ++ text ++ rest) =
      .ok (.real (.finite negative magnitude), rest) := by
  rcases reads [] ends_nil with ⟨_, _, alone⟩
  rw [List.append_nil] at alone
  rcases head?_of_readMagnitude alone with ⟨digit, first, isDigit⟩
  rcases reads rest ends with ⟨decimal, near, read⟩
  rw [readScalar_signed first isDigit, read, Binary64.ofDecimal_eq near positive]

theorem toList_toString_int (value : Int) :
    (toString value).toList = signText (decide (value < 0)) ++ Nat.toDigits 10 value.natAbs := by
  rw [Int.toString_eq_repr]
  cases value with
  | ofNat magnitude => simp [Int.repr, Nat.toList_repr, signText]
  | negSucc magnitude =>
      have negative : decide (Int.negSucc magnitude < 0) = true :=
        decide_eq_true (Int.negSucc_lt_zero _)
      simp only [Int.repr, String.toList_append, Nat.toList_repr, negative, signText]
      rfl

theorem toList_toText (negative : Bool) (magnitude : Binary64.Magnitude) :
    (Binary64.finite negative magnitude).toText.toList = signText negative ++
      (DecimalLayout.plain.write (Decimal.shortest magnitude.units)).toList := by
  unfold Binary64.toText Binary64.writeWith
  rw [String.toList_append]
  cases negative <;> rfl

theorem readScalar_zero (negative : Bool) {rest : List Char} (ends : Ends rest) :
    readScalar (signText negative ++ "0.0".toList ++ rest) =
      .ok (.real (.finite negative .zero), rest) := by
  have zero : IsWhole ['0'] := ⟨digits_zeros 1, nofun, fun _ => Nat.le_refl 1⟩
  have read := readMagnitude_fraction zero (digits_zeros 1) nofun ends negative
  exact (readScalar_signed rfl rfl negative).trans read

theorem write_zero : DecimalLayout.plain.write (Decimal.shortest 0) = "0.0" := by decide +kernel

/-- The fewest digits of a magnitude are read as the magnitude. -/
theorem reads_shortest {magnitude : Binary64.Magnitude} (positive : magnitude.units ≠ 0) :
    Reads negative (DecimalLayout.plain.write (Decimal.shortest magnitude.units)).toList
      magnitude.units := by
  have near := Decimal.nearestUnits_shortest positive magnitude.representable.1
  have filled : (Decimal.shortest magnitude.units).normalize.significand ≠ 0 := by
    intro zero
    have none := Decimal.nearestUnits_zero zero
    rw [Decimal.nearestUnits_normalize, near] at none
    exact positive none
  have reads : Reads negative _ _ := reads_write filled
  rwa [near] at reads

theorem readScalar_toText (negative : Bool) (magnitude : Binary64.Magnitude) {rest : List Char}
    (ends : Ends rest) :
    readScalar ((Binary64.finite negative magnitude).toText.toList ++ rest) =
      .ok (.real (.finite negative magnitude), rest) := by
  rw [toList_toText]
  by_cases positive : magnitude.units = 0
  · rcases magnitude with ⟨units, representable⟩
    cases positive
    dsimp only
    rw [write_zero]
    exact readScalar_zero negative ends
  · exact readScalar_of_reads (reads_shortest positive) positive ends

/-- What is written for a finite number: a whole number with its digits, or a double. -/
theorem writeNumber_eq_ok {number : Number} (finite : number.isFinite = true) {text : List Char}
    (written : writeNumber number = .ok text) :
    (∃ value, number = .whole value ∧
      (Nat.toDigits 10 value.natAbs).length ≤ Text.wholeDigitLimit ∧
      text = (toString value).toList) ∨
    ∃ negative magnitude, number = .real (.finite negative magnitude) ∧
      text = (Binary64.finite negative magnitude).toText.toList := by
  unfold writeNumber at written
  split at written
  · next value =>
      split at written
      · cases written
      · next short =>
          cases written
          exact .inl ⟨value, rfl, Nat.le_of_not_lt short, rfl⟩
  · cases finite
  · cases finite
  · next value _ _ =>
      cases written
      cases value with
      | nan => cases finite
      | infinite => cases finite
      | finite negative magnitude => exact .inr ⟨negative, magnitude, rfl, rfl⟩

/-- A written number is read as itself. -/
theorem readScalar_writeNumber {number : Number} (finite : number.isFinite = true)
    {text rest : List Char} (written : writeNumber number = .ok text) (ends : Ends rest) :
    readScalar (text ++ rest) = .ok (.number number, rest) := by
  rcases writeNumber_eq_ok finite written with
    ⟨value, rfl, short, rfl⟩ | ⟨negative, magnitude, rfl, rfl⟩
  · have whole := isWhole_toDigits value.natAbs
    rcases List.exists_cons_of_ne_nil whole.nonempty with ⟨digit, more, digits⟩
    have isDigit : digit.isDigit = true := whole.all digit (digits ▸ List.mem_cons_self)
    rw [toList_toString_int, readScalar_signed (digits ▸ rfl) isDigit,
      readMagnitude_whole whole short ends, decimalValue_toDigits]
    simp only [decide_eq_true_eq]
    congr 3
    split <;> omega
  · exact readScalar_toText negative magnitude ends

end ChartCompiler.Json
