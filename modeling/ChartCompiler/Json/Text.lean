import ChartCompiler.Text.Numeral
import ChartCompiler.Text.Quoted

/-!
# Strings in JSON

The written form of a string is ASCII: everything else is escaped by the code units of UTF-16, a
character beyond the first 65536 by two of them.
-/

namespace ChartCompiler.Json

/-- The escape of one code unit. -/
def unitEscape (unit : Nat) : List Char := '\\' :: 'u' :: Text.hexadecimal 4 unit

/-- One character of a written string. -/
def writeCharacter (character : Char) : List Char :=
  if character = '"' then ['\\', '"']
  else if character = '\\' then ['\\', '\\']
  else if character = '\n' then ['\\', 'n']
  else if character = '\r' then ['\\', 'r']
  else if character = '\t' then ['\\', 't']
  else if character = '\x0c' then ['\\', 'f']
  else if character = '\x08' then ['\\', 'b']
  else if 0x20 ≤ character.toNat && character.toNat < 0x7f then [character]
  else
    let code := character.toNat
    if code < 0x10000 then unitEscape code
    else
      let offset := code - 0x10000
      unitEscape (0xd800 + offset / 0x400) ++ unitEscape (0xdc00 + offset % 0x400)

/-- One unit of a written string. -/
def writeUnit : TextUnit → List Char
  | .character value => writeCharacter value
  | .half offset => unitEscape (TextUnit.half offset).codePoint

/-- A string between quotes. -/
def writeString (content : String) : List Char :=
  '"' :: (Text.units content).flatMap writeUnit ++ ['"']

/-- The code unit of four hexadecimal digits. -/
def readUnit? (first second third fourth : Char) : Option Nat := do
  return (((← Text.hexadecimalDigit? first) * 16 + (← Text.hexadecimalDigit? second)) * 16
    + (← Text.hexadecimalDigit? third)) * 16 + (← Text.hexadecimalDigit? fourth)

/-- The character of a one-letter escape. -/
def simpleEscape? : Char → Option Char
  | '"' => some '"'
  | '\\' => some '\\'
  | '/' => some '/'
  | 'b' => some '\x08'
  | 'f' => some '\x0c'
  | 'n' => some '\n'
  | 'r' => some '\r'
  | 't' => some '\t'
  | _ => none

/-- The code points and code units of a string up to its closing quote, and the text after it.
Control characters must be escaped. -/
def readUnits? : List Char → Option (List Nat × List Char)
  | [] => none
  | '"' :: rest => some ([], rest)
  | '\\' :: 'u' :: first :: second :: third :: fourth :: rest => do
      let unit ← readUnit? first second third fourth
      let (units, following) ← readUnits? rest
      return (unit :: units, following)
  | '\\' :: escape :: rest => do
      let character ← simpleEscape? escape
      let (units, following) ← readUnits? rest
      return (character.toNat :: units, following)
  | character :: rest => do
      if character.toNat < 0x20 || character = '\\' then none
      let (units, following) ← readUnits? rest
      return (character.toNat :: units, following)

/-- Joins surrogate pairs. `pending` is a high surrogate that waits for its partner. -/
def joinSurrogates (pending : Option Nat) : List Nat → List TextUnit
  | [] => (pending.map TextUnit.ofCodePoint).toList
  | unit :: rest =>
      match pending with
      | some high =>
          if Text.isLowSurrogate unit then
            .ofCodePoint (0x10000 + (high - 0xd800) * 0x400 + (unit - 0xdc00))
              :: joinSurrogates none rest
          else if Text.isHighSurrogate unit then
            .ofCodePoint high :: joinSurrogates (some unit) rest
          else .ofCodePoint high :: .ofCodePoint unit :: joinSurrogates none rest
      | none =>
          if Text.isHighSurrogate unit then joinSurrogates (some unit) rest
          else .ofCodePoint unit :: joinSurrogates none rest

/-- Reads a string after its opening quote. -/
def readString? (characters : List Char) : Option (String × List Char) := do
  let (units, rest) ← readUnits? characters
  return (Text.ofUnits (joinSurrogates none units), rest)

end ChartCompiler.Json
