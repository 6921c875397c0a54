import ChartCompiler.Json.Text

/-!
# Strings that are read back

A written string is ASCII. Its escapes are read as the code units of UTF-16, and pairs of surrogates
are joined to the characters that they were written for.
-/

namespace ChartCompiler

/-! ## Texts of characters -/

/-- Whether a text consists of characters, without halves of surrogate pairs. -/
def Text.IsScalar (text : String) : Prop := ∃ content : String, text = Text.ofCharacters content

theorem Text.units_ofCharacters (content : String) :
    units (ofCharacters content) = content.toList.map .character := by
  unfold units ofCharacters ofUnits
  rw [String.toList_ofList, unitsOf_flatMap_write]

theorem Text.shown_ofCharacters (content : String) : shown (ofCharacters content) = content := by
  unfold shown
  rw [units_ofCharacters, List.map_map]
  change String.ofList (content.toList.map id) = content
  rw [List.map_id, String.ofList_toList]

instance : DecidablePred Text.IsScalar := fun text =>
  decidable_of_iff (text = Text.ofCharacters (Text.shown text))
    ⟨fun same => ⟨_, same⟩, by
      rintro ⟨content, rfl⟩
      rw [Text.shown_ofCharacters]⟩

/-- A character is no surrogate. -/
theorem Char.toNat_cases (character : Char) :
    character.toNat < 0xd800 ∨ 0xe000 ≤ character.toNat ∧ character.toNat < 0x110000 := by
  have valid : character.val.isValidChar := character.valid
  rcases valid with low | high
  · exact .inl low
  · exact .inr ⟨high.1, high.2⟩

theorem TextUnit.ofCodePoint_toNat (character : Char) :
    ofCodePoint character.toNat = .character character := by
  have cases := Char.toNat_cases character
  have neither : (Text.isHighSurrogate character.toNat || Text.isLowSurrogate character.toNat) =
      false := by
    simp only [Text.isHighSurrogate, Text.isLowSurrogate, Bool.or_eq_false_iff,
      Bool.and_eq_false_iff, decide_eq_false_iff_not]
    omega
  unfold ofCodePoint
  rw [neither, if_neg Bool.false_ne_true, Char.ofNat_toNat]

namespace Json

/-- Whether a text consists of ASCII characters. -/
def Ascii (characters : List Char) : Prop := ∀ character ∈ characters, character.toNat < 0x80

instance (characters : List Char) : Decidable (Ascii characters) :=
  (List.decidableBAll _ characters : Decidable (∀ character ∈ characters, character.toNat < 0x80))

theorem Ascii.append {left right : List Char} (first : Ascii left) (second : Ascii right) :
    Ascii (left ++ right) := List.forall_mem_append.mpr ⟨first, second⟩

theorem Ascii.cons {character : Char} {rest : List Char} (first : character.toNat < 0x80)
    (others : Ascii rest) : Ascii (character :: rest) := List.forall_mem_cons.mpr ⟨first, others⟩

/-! ## Hexadecimal digits -/

theorem hexadecimalDigit?_digitChar {digit : Nat} (small : digit < 16) :
    Text.hexadecimalDigit? digit.digitChar = some digit := by
  revert digit
  decide

theorem digitChar_lt {digit : Nat} (small : digit < 16) : digit.digitChar.toNat < 0x80 := by
  revert digit
  decide

/-- The last digit of a padded number. -/
theorem hexadecimal_succ {width : Nat} (positive : 0 < width) (value : Nat) :
    Text.hexadecimal (width + 1) value =
      Text.hexadecimal width (value / 16) ++ [(value % 16).digitChar] := by
  unfold Text.hexadecimal
  dsimp only
  rcases Nat.lt_or_ge value 16 with single | more
  · rw [Nat.toDigits_of_lt_base single, Nat.div_eq_of_lt single, Nat.mod_eq_of_lt single,
      Nat.toDigits_zero, show ['0'] = List.replicate 1 '0' from rfl,
      List.replicate_append_replicate]
    congr 2
    simp only [List.length_singleton, List.length_replicate]
    omega
  · rw [Nat.toDigits_of_base_le (by decide) more, ← List.append_assoc]
    congr 3
    rw [List.length_append, List.length_singleton]
    omega

theorem hexadecimal_one {value : Nat} (small : value < 16) :
    Text.hexadecimal 1 value = [value.digitChar] := by
  unfold Text.hexadecimal
  rw [Nat.toDigits_of_lt_base small]
  rfl

/-- The four digits of a code unit. -/
theorem hexadecimal_four {unit : Nat} (small : unit < 0x10000) :
    Text.hexadecimal 4 unit = [(unit / 16 / 16 / 16).digitChar, (unit / 16 / 16 % 16).digitChar,
      (unit / 16 % 16).digitChar, (unit % 16).digitChar] := by
  rw [hexadecimal_succ (by decide), hexadecimal_succ (by decide), hexadecimal_succ (by decide),
    hexadecimal_one (by omega)]
  rfl

/-! ## Escapes -/

/-- What reading the rest of a string gives, with some code units in front. -/
def prepend (codes : List Nat) (read : Option (List Nat × List Char)) :
    Option (List Nat × List Char) := read.map fun result => (codes ++ result.1, result.2)

theorem readUnits?_unitEscape {unit : Nat} (small : unit < 0x10000) (rest : List Char) :
    readUnits? (unitEscape unit ++ rest) = prepend [unit] (readUnits? rest) := by
  have digits : readUnit? (unit / 16 / 16 / 16).digitChar (unit / 16 / 16 % 16).digitChar
      (unit / 16 % 16).digitChar (unit % 16).digitChar = some unit := by
    unfold readUnit?
    rw [hexadecimalDigit?_digitChar (by omega), hexadecimalDigit?_digitChar (by omega),
      hexadecimalDigit?_digitChar (by omega), hexadecimalDigit?_digitChar (by omega)]
    change some _ = some unit
    congr 1
    omega
  unfold unitEscape
  rw [hexadecimal_four small]
  simp only [List.cons_append, List.nil_append, readUnits?, digits]
  cases readUnits? rest <;> rfl

theorem ascii_unitEscape {unit : Nat} (small : unit < 0x10000) : Ascii (unitEscape unit) := by
  unfold unitEscape
  rw [hexadecimal_four small]
  refine .cons (by decide) (.cons (by decide) ?_)
  refine .cons (digitChar_lt ?_) (.cons (digitChar_lt ?_)
    (.cons (digitChar_lt ?_) (.cons (digitChar_lt ?_) (List.forall_mem_nil _)))) <;> omega

/-- The code units of a character in UTF-16. -/
def codeUnits (character : Char) : List Nat :=
  if character.toNat < 0x10000 then [character.toNat]
  else [0xd800 + (character.toNat - 0x10000) / 0x400, 0xdc00 + (character.toNat - 0x10000) % 0x400]

theorem codeUnits_of_lt {character : Char} (small : character.toNat < 0x10000) :
    codeUnits character = [character.toNat] := if_pos small

theorem readUnits?_simpleEscape {escape character : Char} (other : escape ≠ 'u')
    (escaped : simpleEscape? escape = some character) (small : character.toNat < 0x10000)
    (rest : List Char) :
    readUnits? (['\\', escape] ++ rest) = prepend (codeUnits character) (readUnits? rest) := by
  rw [codeUnits_of_lt small, List.cons_append, List.singleton_append, readUnits?, escaped]
  · cases readUnits? rest <;> rfl
  · exact fun _ _ _ _ _ same => absurd same other

theorem readUnits?_plain {character : Char} (printable : 0x20 ≤ character.toNat)
    (small : character.toNat < 0x10000) (noQuote : character ≠ '"') (noEscape : character ≠ '\\')
    (rest : List Char) :
    readUnits? ([character] ++ rest) = prepend (codeUnits character) (readUnits? rest) := by
  have shown : ¬ (decide (character.toNat < 0x20) || decide (character = '\\')) = true := by
    simp only [Bool.or_eq_true, decide_eq_true_eq, noEscape, or_false]
    omega
  rw [codeUnits_of_lt small, List.singleton_append, readUnits?, if_neg shown]
  · cases readUnits? rest <;> rfl
  · exact noQuote
  · exact fun _ _ _ _ _ same => absurd same noEscape
  · exact fun _ _ same => absurd same noEscape

theorem readUnits?_writeCharacter (character : Char) (rest : List Char) :
    readUnits? (writeCharacter character ++ rest) =
      prepend (codeUnits character) (readUnits? rest) := by
  have range := Char.toNat_cases character
  unfold writeCharacter
  -- the characters with escapes of their own
  iterate 7
    split
    · next same =>
        subst same
        exact readUnits?_simpleEscape (by decide) rfl (by decide) rest
  split
  · next noQuote noEscape _ _ _ _ _ shown =>
      rw [Bool.and_eq_true, decide_eq_true_eq, decide_eq_true_eq] at shown
      exact readUnits?_plain shown.1 (by omega) noQuote noEscape rest
  dsimp only
  unfold codeUnits
  split
  · next small => exact readUnits?_unitEscape small rest
  · next large =>
      rw [List.append_assoc, readUnits?_unitEscape (by omega), readUnits?_unitEscape (by omega)]
      cases readUnits? rest <;> rfl

theorem ascii_writeCharacter (character : Char) : Ascii (writeCharacter character) := by
  have range := Char.toNat_cases character
  unfold writeCharacter
  iterate 7
    split
    · decide
  split
  · next _ _ _ _ _ _ _ shown =>
      rw [Bool.and_eq_true, decide_eq_true_eq, decide_eq_true_eq] at shown
      exact .cons (by omega) (List.forall_mem_nil _)
  dsimp only
  split
  · next small => exact ascii_unitEscape small
  · next large => exact (ascii_unitEscape (by omega)).append (ascii_unitEscape (by omega))

/-! ## Strings -/

theorem readUnits?_characters (characters rest : List Char) :
    readUnits? (characters.flatMap writeCharacter ++ '"' :: rest) =
      some (characters.flatMap codeUnits, rest) := by
  induction characters with
  | nil => rfl
  | cons character others induction =>
      rw [List.flatMap_cons, List.append_assoc, readUnits?_writeCharacter, induction]
      rfl

/-- The code units of a character are joined to it. -/
theorem joinSurrogates_codeUnits (character : Char) (rest : List Nat) :
    joinSurrogates none (codeUnits character ++ rest) =
      .character character :: joinSurrogates none rest := by
  have range := Char.toNat_cases character
  have joined := TextUnit.ofCodePoint_toNat character
  unfold codeUnits
  split
  · have plain : Text.isHighSurrogate character.toNat = false := by
      simp only [Text.isHighSurrogate, Bool.and_eq_false_iff, decide_eq_false_iff_not]
      omega
    rw [List.singleton_append]
    simp only [joinSurrogates, plain, joined]
    rfl
  · have high : Text.isHighSurrogate (0xd800 + (character.toNat - 0x10000) / 0x400) = true := by
      simp only [Text.isHighSurrogate, Bool.and_eq_true, decide_eq_true_eq]
      omega
    have low : Text.isLowSurrogate (0xdc00 + (character.toNat - 0x10000) % 0x400) = true := by
      simp only [Text.isLowSurrogate, Bool.and_eq_true, decide_eq_true_eq]
      omega
    have whole : 0x10000 + (0xd800 + (character.toNat - 0x10000) / 0x400 - 0xd800) * 0x400 +
        (0xdc00 + (character.toNat - 0x10000) % 0x400 - 0xdc00) = character.toNat := by omega
    simp only [List.cons_append, List.nil_append, joinSurrogates, high, low, whole, joined, if_true]

theorem joinSurrogates_characters (characters : List Char) :
    joinSurrogates none (characters.flatMap codeUnits) = characters.map .character := by
  induction characters with
  | nil => rfl
  | cons character others induction =>
      rw [List.flatMap_cons, joinSurrogates_codeUnits, induction, List.map_cons]

theorem writeString_ofCharacters (content : String) :
    writeString (Text.ofCharacters content) =
      '"' :: (content.toList.flatMap writeCharacter ++ ['"']) := by
  unfold writeString
  rw [Text.units_ofCharacters, List.flatMap_map]
  rfl

/-- A written string of characters is read as itself. -/
theorem readString?_writeString {text : String} (scalar : Text.IsScalar text) (rest : List Char) :
    ∃ body, writeString text = '"' :: body ∧ readString? (body ++ rest) = some (text, rest) := by
  rcases scalar with ⟨content, rfl⟩
  refine ⟨_, writeString_ofCharacters content, ?_⟩
  unfold readString?
  rw [List.append_assoc, List.singleton_append, readUnits?_characters]
  change some (Text.ofUnits (joinSurrogates none _), rest) = _
  rw [joinSurrogates_characters]
  rfl

theorem ascii_writeUnit (unit : TextUnit) : Ascii (writeUnit unit) := by
  cases unit with
  | character value => exact ascii_writeCharacter value
  | half offset =>
      have small : (TextUnit.half offset).codePoint < 0x10000 := by
        have bounded := offset.isLt
        change 0xd800 + offset.val < 0x10000
        omega
      exact ascii_unitEscape small

/-- Whatever a string holds, its written form is ASCII. -/
theorem ascii_writeString (text : String) : Ascii (writeString text) := by
  unfold writeString
  refine .cons (by decide) (.append ?_ (by decide))
  intro character inside
  rcases List.mem_flatMap.mp inside with ⟨unit, _, inside⟩
  exact ascii_writeUnit unit character inside

end Json

end ChartCompiler
