/-!
# Texts with halves of surrogate pairs

Text in JSON may hold one half of a surrogate pair without the other. Such a half is a code unit but
no character. The texts of values are strings in which a half is written as a mark and a character
for the half, and the mark itself is written twice. So texts are equal exactly if their written
forms are. Wherever single code points count, in lengths, escapes, quoted texts, bytes and the order
of texts, a text is taken as its units.
-/

namespace ChartCompiler

/-- A part of a text that has one code point: a character, or half a surrogate pair. -/
inductive TextUnit where
  | character (value : Char)
  | half (offset : Fin 0x800)
  deriving DecidableEq

namespace Text

def isHighSurrogate (code : Nat) : Bool := 0xd800 ≤ code && code < 0xdc00

def isLowSurrogate (code : Nat) : Bool := 0xdc00 ≤ code && code < 0xe000

/-- The character before the one that stands for half a surrogate pair. Nothing is assigned to it. -/
def halfMark : Char := '\uFDD0'

end Text

namespace TextUnit

/-- The unit of a code point. -/
def ofCodePoint (code : Nat) : TextUnit :=
  if Text.isHighSurrogate code || Text.isLowSurrogate code then
    .half (Fin.ofNat _ (code - 0xd800))
  else .character (Char.ofNat code)

def codePoint : TextUnit → Nat
  | .character value => value.toNat
  | .half offset => 0xd800 + offset

/-- How many bytes a unit takes. Half a pair takes one where it is allowed, in the names of files. -/
def byteLength : TextUnit → Nat
  | .character value => value.utf8Size
  | .half _ => 1

/-- The characters that a unit is written with. -/
def write : TextUnit → List Char
  | .character value => if value = Text.halfMark then [value, value] else [value]
  | .half offset => [Text.halfMark, Char.ofNat (0xe000 + offset)]

/-- The unit that a character stands for behind the mark. -/
def afterMark (character : Char) : TextUnit :=
  if character = Text.halfMark then .character character
  else .half (Fin.ofNat _ (character.toNat - 0xe000))

/-- Reading the character behind the mark gives back the half that it was written for. -/
theorem afterMark_of_half (offset : Fin 0x800) :
    afterMark (Char.ofNat (0xe000 + offset)) = .half offset := by
  revert offset
  decide +kernel

end TextUnit

namespace Text

/-- The units of a written text. -/
def unitsOf : List Char → List TextUnit
  | [] => []
  | [last] => [.character last]
  | first :: second :: rest =>
      if first = halfMark then .afterMark second :: unitsOf rest
      else .character first :: unitsOf (second :: rest)

/-- Behind a unit the reading goes on with the next one. -/
theorem unitsOf_write_append (unit : TextUnit) (rest : List Char) :
    unitsOf (unit.write ++ rest) = unit :: unitsOf rest := by
  cases unit with
  | half offset =>
      simp [TextUnit.write, unitsOf, TextUnit.afterMark_of_half]
  | character value =>
      by_cases marked : value = halfMark
      · simp [TextUnit.write, unitsOf, marked, TextUnit.afterMark]
      · cases rest <;> simp [TextUnit.write, unitsOf, marked]

/-- Units are read as they were written. -/
theorem unitsOf_flatMap_write (units : List TextUnit) :
    unitsOf (units.flatMap TextUnit.write) = units := by
  induction units with
  | nil => rfl
  | cons unit rest induction =>
      rw [List.flatMap_cons, unitsOf_write_append, induction]

/-- The units of a text. -/
def units (text : String) : List TextUnit := unitsOf text.toList

/-- The text of units. -/
def ofUnits (units : List TextUnit) : String := String.ofList (units.flatMap TextUnit.write)

/-- The text of a string of characters. -/
def ofCharacters (content : String) : String := ofUnits (content.toList.map .character)

/-- How many code points a text has. -/
def length (text : String) : Nat := (units text).length

def byteLength (text : String) : Nat :=
  (units text).foldr (fun unit total => unit.byteLength + total) 0

/-- The characters of a text, with a replacement for halves of surrogate pairs. -/
def shown (text : String) : String :=
  String.ofList ((units text).map fun unit => match unit with
    | .character value => value
    | .half _ => '\uFFFD')

/-- Halves behind each other in a text, and the place of the first of them. -/
structure Halves where
  place : Nat
  offsets : List (Fin 0x800)
  deriving DecidableEq

/-- The halves at the front of some units. -/
def leadingHalves : List TextUnit → List (Fin 0x800)
  | .half offset :: rest => offset :: leadingHalves rest
  | _ => []

/-- The first halves among units, from a place on, apart from those whose code points are
`spared`. -/
def firstHalves? (spared : Nat → Bool) (place : Nat) : List TextUnit → Option Halves
  | [] => none
  | .character _ :: rest => firstHalves? spared (place + 1) rest
  | .half offset :: rest =>
      if spared (TextUnit.half offset).codePoint then firstHalves? spared (place + 1) rest
      else some ⟨place, offset :: leadingHalves rest⟩

example : units (ofUnits [.half 0, .character halfMark, .character 'a']) =
    [.half 0, .character halfMark, .character 'a'] := by decide

end Text

end ChartCompiler
