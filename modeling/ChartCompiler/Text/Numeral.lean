import ChartCompiler.Number.Decimal
import ChartCompiler.Text.CharacterClass

/-!
# Reading numerals

Texts that stand for numbers. A numeral may be surrounded by blanks, has an optional sign and
decimal digits of any script, and may have single underscores between digits. A real numeral also
has a point, an exponent, or is one of the words for infinity and the undefined number.

Reading first brings a text into ASCII form (`asciiForm`); byte strings are read as they are.
-/

namespace ChartCompiler.Text

/-- Digits of all scripts as ASCII digits, blanks of all scripts as spaces. -/
def asciiForm (characters : List Char) : List Char :=
  characters.map fun character =>
    if character.toNat < 0x80 then character
    else if isBlank character then ' '
    else match digitValue? character with
      | some digit => Char.ofNat (0x30 + digit)
      | none => character

/-- A text without the spaces around it. -/
def trimSpaces (characters : List Char) : List Char :=
  ((characters.dropWhile isAsciiBlank).reverse.dropWhile isAsciiBlank).reverse

def asciiDigit? (character : Char) : Option Nat :=
  if character.isDigit then some (character.toNat - 0x30) else none

def hexadecimalDigit? (character : Char) : Option Nat :=
  if character.isDigit then some (character.toNat - 0x30)
  else if 'a' ≤ character && character ≤ 'f' then some (character.toNat - 0x57)
  else if 'A' ≤ character && character ≤ 'F' then some (character.toNat - 0x37)
  else none

/-- The digits of a kind at the front of a text and what follows them. An underscore is skipped if it
stands between two digits; `afterDigit` says that it may stand before the first digit here, too. -/
def runOf (digit? : Char → Option Nat) (afterDigit : Bool) : List Char → List Nat × List Char
  | [] => ([], [])
  | character :: rest =>
      match digit? character with
      | some digit =>
          let following := runOf digit? true rest
          (digit :: following.1, following.2)
      | none =>
          if afterDigit && character = '_' && (rest.head?.bind digit?).isSome then
            runOf digit? false rest
          else ([], character :: rest)

/-- The decimal digits at the front of a text and what follows them. -/
def digitRun (afterDigit : Bool) : List Char → List Nat × List Char := runOf asciiDigit? afterDigit

/-- The number that decimal digits stand for. -/
def digitsValue (digits : List Nat) : Nat :=
  digits.foldl (fun value digit => value * 10 + digit) 0

/-- Takes the sign off a numeral; true means negative. -/
def takeSign : List Char → Bool × List Char
  | '-' :: rest => (true, rest)
  | '+' :: rest => (false, rest)
  | rest => (false, rest)

/-- The number of digits beyond which a whole numeral is neither read nor written. -/
def wholeDigitLimit : Nat := 4300

/-- Reads a whole numeral in ASCII form. -/
def readWhole? (characters : List Char) : Option Int :=
  let (negative, body) := takeSign (trimSpaces characters)
  match digitRun false body with
  | (digits, []) =>
      if digits.isEmpty || wholeDigitLimit < digits.length then none
      else
        let value : Int := digitsValue digits
        some (if negative then -value else value)
  | _ => none

/-- Reads the exponent part of a numeral: nothing at all, or `e`, a sign and digits. -/
def readExponent? : List Char → Option Int
  | [] => some 0
  | mark :: rest =>
      if mark = 'e' || mark = 'E' then
        let (negative, body) := takeSign rest
        match digitRun false body with
        | (digits, []) =>
            if digits.isEmpty then none
            else
              let value : Int := digitsValue digits
              some (if negative then -value else value)
        | _ => none
      else none

/-- Reads digits, a point and more digits, and an exponent. -/
def readDecimal? (negative : Bool) (characters : List Char) : Option Binary64 :=
  let (whole, afterWhole) := digitRun false characters
  let (fraction, rest) := match afterWhole with
    | '.' :: afterPoint => digitRun false afterPoint
    | other => ([], other)
  if whole.isEmpty && fraction.isEmpty then none
  else
    (readExponent? rest).map fun exponent =>
      Binary64.ofDecimal negative (digitsValue (whole ++ fraction)) (exponent - fraction.length)

/-- Reads a real numeral in ASCII form. -/
def readReal? (characters : List Char) : Option Binary64 :=
  let (negative, body) := takeSign (trimSpaces characters)
  let word := String.ofList (body.map Char.toLower)
  if word = "inf" || word = "infinity" then some (.infinite negative)
  else if word = "nan" then some .nan
  else readDecimal? negative body

/-- Reads a hexadecimal numeral in ASCII form after its mark `0x`. Spaces may follow it. -/
def readHexadecimal? (characters : List Char) : Option Nat :=
  let (digits, rest) := runOf hexadecimalDigit? true characters
  if digits.isEmpty || !rest.all isAsciiBlank then none
  else some (digits.foldl (fun value digit => value * 16 + digit) 0)

/-- The real number that a text stands for. -/
def real? (text : String) : Option Binary64 := readReal? (asciiForm text.toList)

/-- The whole number that a text stands for. -/
def whole? (text : String) : Option Int := readWhole? (asciiForm text.toList)

/-- The characters of a byte string; bytes that are not ASCII stand for no character of a
numeral. -/
def byteCharacters (bytes : List UInt8) : List Char := bytes.map fun byte => Char.ofNat byte.toNat

example : [" 1_000 ", "+٣", "1__0", "_1", "1.0", ""].map whole? =
    [some 1000, some 3, none, none, none, none] := by decide +kernel

end ChartCompiler.Text
