import ChartCompiler.Text.CharacterClass
import ChartCompiler.Text.Surrogate

/-!
# Quoted texts

The form in which log lines, messages and labels show a text or a byte string: between quotes,
with everything that is not printable escaped.
-/

namespace ChartCompiler.Text

/-- Lower-case hexadecimal digits, padded with zeros to a width. -/
def hexadecimal (width value : Nat) : List Char :=
  let digits := Nat.toDigits 16 value
  List.replicate (width - digits.length) '0' ++ digits

/-- A text is quoted with `'`, or with `"` if it holds `'` and no `"`. -/
def quoteMark (characters : List Char) : Char :=
  if characters.contains '\'' && !characters.contains '"' then '"' else '\''

/-- One character of a quoted text. -/
def quotedCharacter (mark character : Char) : List Char :=
  if character = mark || character = '\\' then ['\\', character]
  else if character = '\n' then ['\\', 'n']
  else if character = '\r' then ['\\', 'r']
  else if character = '\t' then ['\\', 't']
  else if isPrintable character then [character]
  else
    let code := character.toNat
    if code < 0x100 then '\\' :: 'x' :: hexadecimal 2 code
    else if code < 0x10000 then '\\' :: 'u' :: hexadecimal 4 code
    else '\\' :: 'U' :: hexadecimal 8 code

/-- One unit of a quoted text. -/
def quotedUnit (mark : Char) : TextUnit → List Char
  | .character value => quotedCharacter mark value
  | .half offset => '\\' :: 'u' :: hexadecimal 4 (TextUnit.half offset).codePoint

/-- Units between quotes. -/
def quotedUnits (units : List TextUnit) : String :=
  let mark := quoteMark (units.flatMap TextUnit.write)
  String.ofList (mark :: units.flatMap (quotedUnit mark) ++ [mark])

/-- A text between quotes. -/
def quoted (text : String) : String := quotedUnits (units text)

/-- One byte of a quoted byte string: ASCII characters stand for themselves. -/
def quotedByte (mark : Char) (byte : UInt8) : List Char :=
  let character := Char.ofNat byte.toNat
  if byte < 0x80 then quotedCharacter mark character
  else '\\' :: 'x' :: hexadecimal 2 byte.toNat

/-- A byte string between quotes, after the letter `b`. -/
def quotedBytes (bytes : List UInt8) : String :=
  let mark := quoteMark (bytes.map fun byte => Char.ofNat byte.toNat)
  String.ofList ('b' :: mark :: bytes.flatMap (quotedByte mark) ++ [mark])

end ChartCompiler.Text
