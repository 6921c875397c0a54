import ChartCompiler.Proofs.Json.Numbers
import ChartCompiler.Proofs.Json.Strings
import ChartCompiler.Proofs.Number.Order

/-!
# Reading written numerals

The text of a whole number is read as the real number nearest to it. A text is read as the undefined
number only if it starts with the word for it.
-/

namespace ChartCompiler.Text

open Json

/-! ## Signs and blanks -/

theorem asciiForm_append (left right : List Char) :
    asciiForm (left ++ right) = asciiForm left ++ asciiForm right := List.map_append

theorem asciiForm_of_ascii {characters : List Char} (ascii : Ascii characters) :
    asciiForm characters = characters := by
  unfold asciiForm
  conv => rhs; rw [← List.map_id characters]
  apply List.map_congr_left
  intro character inside
  exact if_pos (ascii character inside)

theorem dropWhile_blanks_append {front : List Char} (rest : List Char) (filled : front ≠ [])
    (solid : ∀ character ∈ front, isAsciiBlank character = false) :
    (front ++ rest).dropWhile isAsciiBlank = front ++ rest := by
  cases front with
  | nil => exact absurd rfl filled
  | cons first others =>
      have here := solid first List.mem_cons_self
      exact List.dropWhile_cons_of_neg (by simp [here])

/-- What is not blank at the front of a text stays there without the spaces around it. -/
theorem trimSpaces_append {front : List Char} (rest : List Char) (filled : front ≠ [])
    (solid : ∀ character ∈ front, isAsciiBlank character = false) :
    ∃ others, trimSpaces (front ++ rest) = front ++ others := by
  have reversed : ∀ character ∈ front.reverse, isAsciiBlank character = false :=
    fun character inside => solid character (List.mem_reverse.mp inside)
  have stays : front.reverse.dropWhile isAsciiBlank = front.reverse := by
    have kept := dropWhile_blanks_append [] (by simpa using filled) reversed
    rwa [List.append_nil] at kept
  unfold trimSpaces
  rw [dropWhile_blanks_append rest filled solid, List.reverse_append, List.dropWhile_append, stays]
  split
  · exact ⟨[], by simp⟩
  · exact ⟨(rest.reverse.dropWhile isAsciiBlank).reverse, by simp⟩

theorem trimSpaces_of_solid {characters : List Char} (filled : characters ≠ [])
    (solid : ∀ character ∈ characters, isAsciiBlank character = false) :
    trimSpaces characters = characters := by
  have reversed : ∀ character ∈ characters.reverse, isAsciiBlank character = false :=
    fun character inside => solid character (List.mem_reverse.mp inside)
  have front := dropWhile_blanks_append [] filled solid
  have back := dropWhile_blanks_append [] (by simpa using filled) reversed
  rw [List.append_nil] at front back
  unfold trimSpaces
  rw [front, back, List.reverse_reverse]

/-- Whether a character can stand at the front of a text, behind its sign, without starting the word
for the undefined number. -/
def IsOpening (character : Char) : Prop :=
  character.toNat < 0x80 ∧ isAsciiBlank character = false ∧ character ≠ '-' ∧ character ≠ '+' ∧
    character.toLower ≠ 'n'

instance (character : Char) : Decidable (IsOpening character) :=
  inferInstanceAs (Decidable (_ ∧ _))

/-- What holds of the ten digits holds of a digit. -/
theorem of_isDigit {property : Char → Prop}
    (each : ∀ code ≤ 57, 48 ≤ code → property (Char.ofNat code)) {character : Char}
    (digit : character.isDigit = true) : property character := by
  have range : 48 ≤ character.toNat ∧ character.toNat ≤ 57 := by
    simpa [Char.isDigit, UInt32.le_iff_toNat_le] using digit
  rw [← Char.ofNat_toNat character]
  exact each character.toNat range.2 range.1

theorem isOpening_of_isDigit {character : Char} (digit : character.isDigit = true) :
    IsOpening character := of_isDigit (by decide) digit

theorem takeSign_signText (negative : Bool) {first : Char} (opening : IsOpening first)
    (rest : List Char) :
    takeSign (signText negative ++ first :: rest) = (negative, first :: rest) := by
  obtain ⟨_, _, minus, plus, _⟩ := opening
  cases negative with
  | true => rfl
  | false =>
      change takeSign (first :: rest) = _
      unfold takeSign
      split
      · next same => exact absurd (List.cons.inj same).1 minus
      · next same => exact absurd (List.cons.inj same).1 plus
      · rfl

theorem solid_signText (negative : Bool) :
    ∀ character ∈ signText negative, isAsciiBlank character = false := by
  cases negative with
  | true => exact List.forall_mem_singleton.mpr rfl
  | false => exact List.forall_mem_nil _

theorem ascii_signText (negative : Bool) : Ascii (signText negative) := by
  cases negative <;> decide

/-! ## The undefined number -/

theorem ofDecimal_ne_nan (negative : Bool) (significand : Nat) (exponent : Int) :
    Binary64.ofDecimal negative significand exponent ≠ .nan := by
  intro same
  unfold Binary64.ofDecimal at same
  dsimp only at same
  split at same
  · cases same
  · split at same
    · cases same
    · exact Binary64.ofRatio_ne_nan _ _ _ same

theorem readDecimal?_ne_nan (negative : Bool) (characters : List Char) :
    readDecimal? negative characters ≠ some .nan := by
  intro read
  unfold readDecimal? at read
  dsimp only at read
  split at read
  all_goals
    split at read
    · cases read
    · obtain ⟨exponent, _, value⟩ := Option.map_eq_some_iff.mp read
      exact ofDecimal_ne_nan _ _ _ value

/-- Whether a text starts, behind its sign, unlike the word for the undefined number. -/
def Opens (text : String) : Prop :=
  ∃ negative first rest, text.toList = signText negative ++ first :: rest ∧ IsOpening first

theorem opens_of_digits {text : String} {negative : Bool} {digits : List Char}
    (written : text.toList = signText negative ++ digits) {digit : Char}
    (first : digits.head? = some digit) (isDigit : digit.isDigit = true) : Opens text := by
  obtain ⟨rest, rfl⟩ := List.head?_eq_some_iff.mp first
  exact ⟨negative, digit, rest, written, isOpening_of_isDigit isDigit⟩

/-- A text that starts with a character goes on as it likes. -/
theorem opens_append {mark : String} {first : Char} {more : List Char}
    (starts : mark.toList = first :: more) (opening : IsOpening first) (rest : String) :
    Opens (mark ++ rest) := by
  apply Exists.intro false
  refine ⟨first, more ++ rest.toList, ?_, opening⟩
  rw [String.toList_append, starts]
  rfl

theorem Opens.real?_ne_nan {text : String} (opens : Opens text) : real? text ≠ some .nan := by
  obtain ⟨negative, first, rest, written, opening⟩ := opens
  have front : Ascii (signText negative ++ [first]) :=
    (ascii_signText negative).append (List.forall_mem_singleton.mpr opening.1)
  have solid : ∀ character ∈ signText negative ++ [first], isAsciiBlank character = false :=
    List.forall_mem_append.mpr ⟨solid_signText negative, List.forall_mem_singleton.mpr opening.2.1⟩
  have form : asciiForm text.toList = (signText negative ++ [first]) ++ asciiForm rest := by
    rw [written, List.append_cons, asciiForm_append, asciiForm_of_ascii front]
  obtain ⟨others, trimmed⟩ := trimSpaces_append (asciiForm rest) (by simp) solid
  unfold real? readReal?
  rw [form, trimmed, List.append_assoc, List.singleton_append, takeSign_signText negative opening]
  dsimp only
  split
  · exact nofun
  · split
    · next word =>
        have letters := congrArg String.toList word
        rw [String.toList_ofList, List.map_cons] at letters
        exact absurd (List.cons.inj letters).1 opening.2.2.2.2
    · exact readDecimal?_ne_nan _ _

/-! ## Whole numbers -/

theorem digitRun_digits {digits : List Char} (all : Digits digits) (afterDigit : Bool) :
    digitRun afterDigit digits = (digits.map fun digit => digit.toNat - 0x30, []) := by
  unfold digitRun
  induction digits generalizing afterDigit with
  | nil => rfl
  | cons first rest induction =>
      obtain ⟨here, others⟩ := List.forall_mem_cons.mp all
      have value : asciiDigit? first = some (first.toNat - 0x30) := if_pos here
      unfold runOf
      rw [value]
      dsimp only
      rw [induction others]
      rfl

theorem readDecimal?_toDigits (negative : Bool) (value : Nat) :
    readDecimal? negative (Nat.toDigits 10 value) =
      some (Binary64.ofDecimal negative value 0) := by
  have filled : ((Nat.toDigits 10 value).map fun digit => digit.toNat - 0x30).isEmpty = false := by
    simp
  have read := decimalValue_toDigits value
  unfold readDecimal?
  rw [digitRun_digits (digits_toDigits value)]
  simp only [filled, Bool.false_and, Bool.false_eq_true, if_false, List.append_nil]
  rw [readExponent?, Option.map_some]
  unfold decimalValue at read
  rw [read]
  rfl

theorem readReal?_signed_digits {negative : Bool} {digits : List Char} (all : Digits digits)
    (filled : digits ≠ []) :
    readReal? (signText negative ++ digits) = readDecimal? negative digits := by
  obtain ⟨first, rest, rfl⟩ := List.exists_cons_of_ne_nil filled
  have here := all first List.mem_cons_self
  have lower : first.toLower = first :=
    @of_isDigit (fun digit => digit.toLower = digit) (by decide) first here
  have letters : first ≠ 'i' ∧ first ≠ 'n' :=
    @of_isDigit (fun digit => digit ≠ 'i' ∧ digit ≠ 'n') (by decide) first here
  have solid : ∀ character ∈ signText negative ++ first :: rest, isAsciiBlank character = false :=
    List.forall_mem_append.mpr ⟨solid_signText negative,
      fun character inside => (isOpening_of_isDigit (all character inside)).2.1⟩
  have word : ∀ letter others, first ≠ letter →
      String.ofList ((first :: rest).map Char.toLower) ≠ String.ofList (letter :: others) := by
    intro letter others different same
    have equal := String.ofList_injective same
    rw [List.map_cons, lower] at equal
    exact different (List.cons.inj equal).1
  unfold readReal?
  rw [trimSpaces_of_solid (by simp) solid, takeSign_signText negative (isOpening_of_isDigit here)]
  dsimp only
  rw [if_neg, if_neg (word 'n' ['a', 'n'] letters.2)]
  rw [Bool.or_eq_true, decide_eq_true_eq, decide_eq_true_eq]
  exact not_or.mpr ⟨word 'i' _ letters.1, word 'i' _ letters.1⟩

theorem ofDecimal_whole {value : Int} {real : Binary64}
    (taken : Binary64.ofInt? value = some real) :
    Binary64.ofDecimal (decide (value < 0)) value.natAbs 0 = real := by
  obtain ⟨magnitude, rfl, units⟩ := Binary64.ofInt?_eq_some taken
  have near : (⟨value.natAbs, 0⟩ : Decimal).nearestUnits = magnitude.units := by
    rw [units]
    exact congrArg (Binary64.nearestUnits · 1) (Nat.mul_one _)
  rcases Nat.eq_zero_or_pos value.natAbs with none | some
  · rw [none, Nat.zero_mul] at units
    rw [Int.natAbs_eq_zero.mp none]
    cases magnitude with
    | mk count representable =>
        cases units
        rfl
  · have filled : magnitude.units ≠ 0 := by
      have least := Binary64.unitsPerOne_le_nearestUnits (Nat.le_mul_of_pos_left _ some)
      have one := Binary64.unitsPerOne_pos
      omega
    exact Binary64.ofDecimal_eq near filled _

/-- The text of a whole number is read as the nearest real number. -/
theorem real?_toString {value : Int} {real : Binary64}
    (taken : Binary64.ofInt? value = some real) : real? (toString value) = some real := by
  have all := digits_toDigits value.natAbs
  have ascii : Ascii (signText (decide (value < 0)) ++ Nat.toDigits 10 value.natAbs) :=
    (ascii_signText _).append fun character inside =>
      (isOpening_of_isDigit (all character inside)).1
  unfold real?
  rw [toList_toString_int, asciiForm_of_ascii ascii,
    readReal?_signed_digits all Nat.toDigits_ne_nil, readDecimal?_toDigits, ofDecimal_whole taken]

/-- Different whole numbers have different texts. -/
theorem toString_injective : Function.Injective (toString : Int → String) := by
  intro first second same
  have taken (value : Int) : takeSign (toString value).toList =
      (decide (value < 0), Nat.toDigits 10 value.natAbs) := by
    have all := digits_toDigits value.natAbs
    rw [toList_toString_int]
    cases digits : Nat.toDigits 10 value.natAbs with
    | nil => exact absurd digits Nat.toDigits_ne_nil
    | cons digit rest =>
        rw [digits] at all
        exact takeSign_signText _ (isOpening_of_isDigit (all digit List.mem_cons_self)) rest
  have parts := taken first
  rw [same, taken second, Prod.mk.injEq] at parts
  have signs := decide_eq_decide.mp parts.1
  have magnitudes := congrArg decimalValue parts.2
  rw [decimalValue_toDigits, decimalValue_toDigits] at magnitudes
  omega

end ChartCompiler.Text
