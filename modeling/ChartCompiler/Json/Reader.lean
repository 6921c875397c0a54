import ChartCompiler.Json.Text
import ChartCompiler.Text.Numeral
import ChartCompiler.Value.Basic
import ChartCompiler.Failure

/-!
# Reading JSON

Reads characters as one value, whose texts may hold halves of surrogate pairs. The members of an
object keep their order; of several members with one name the last value counts, in the first one's
place. A number without a point and an exponent is whole. The words `NaN`, `Infinity` and
`-Infinity` are read as numbers.
-/

namespace ChartCompiler.Json

def isSpace (character : Char) : Bool :=
  character = ' ' || character = '\t' || character = '\n' || character = '\r'

def skipSpaces (characters : List Char) : List Char := characters.dropWhile isSpace

/-- The rest of a text after a word it starts with. -/
def skipWord? (word characters : List Char) : Option (List Char) :=
  if word.isPrefixOf characters then some (characters.drop word.length) else none

def decimalValue (digits : List Char) : Nat :=
  Text.digitsValue (digits.map fun digit => digit.toNat - 0x30)

/-- The digits after a point, if a point is there. -/
def readFraction? : List Char → Option (List Char × List Char)
  | '.' :: rest =>
      let (digits, following) := rest.span Char.isDigit
      if digits.isEmpty then none else some (digits, following)
  | rest => some ([], rest)

/-- The exponent, if there is one. -/
def readExponent? : List Char → Option (Option Int × List Char)
  | [] => some (none, [])
  | mark :: rest =>
      if mark = 'e' || mark = 'E' then
        let (negative, body) := Text.takeSign rest
        let (digits, following) := body.span Char.isDigit
        if digits.isEmpty then none
        else
          let value : Int := decimalValue digits
          some (some (if negative then -value else value), following)
      else some (none, mark :: rest)

/-- A number after its sign: digits without a leading zero, a fraction, an exponent. -/
def readMagnitude (negative : Bool) (characters : List Char) :
    Except Failure (Value × List Char) :=
  let (digits, afterWhole) := characters.span Char.isDigit
  if digits.isEmpty || (digits.head? = some '0' && 1 < digits.length) then .error .malformedJson
  else match readFraction? afterWhole with
    | none => .error .malformedJson
    | some (fraction, afterFraction) =>
        match readExponent? afterFraction with
        | none => .error .malformedJson
        | some (none, rest) =>
            if fraction.isEmpty then
              if Text.wholeDigitLimit < digits.length then .error .unusableValue
              else
                let value : Int := decimalValue digits
                .ok (.whole (if negative then -value else value), rest)
            else
              .ok (.real (Binary64.ofDecimal negative (decimalValue (digits ++ fraction))
                (-(fraction.length : Int))), rest)
        | some (some exponent, rest) =>
            .ok (.real (Binary64.ofDecimal negative (decimalValue (digits ++ fraction))
              (exponent - fraction.length)), rest)

/-- A word or a number. -/
def readScalar (characters : List Char) : Except Failure (Value × List Char) :=
  match skipWord? "null".toList characters with
  | some rest => .ok (.null, rest)
  | none => match skipWord? "true".toList characters with
    | some rest => .ok (.bool true, rest)
    | none => match skipWord? "false".toList characters with
      | some rest => .ok (.bool false, rest)
      | none => match skipWord? "NaN".toList characters with
        | some rest => .ok (.real .nan, rest)
        | none => match skipWord? "Infinity".toList characters with
          | some rest => .ok (.real (.infinite false), rest)
          | none => match skipWord? "-Infinity".toList characters with
            | some rest => .ok (.real (.infinite true), rest)
            | none => match characters with
              | '-' :: rest => readMagnitude true rest
              | rest => readMagnitude false rest

/-- How deep lists and maps may lie inside each other. -/
def nestingLimit : Nat := 989

mutual

/-- Reads a value at the front of a text. `fuel` bounds the number of items, and `depth` is how much
deeper lists and maps may be nested. -/
def readValue (depth : Nat) : Nat → List Char → Except Failure (Value × List Char)
  | 0, _ => .error .malformedJson
  | fuel + 1, characters =>
      match characters with
      | '"' :: rest => match readString? rest with
          | some (content, following) => .ok (.text content, following)
          | none => .error .malformedJson
      | '[' :: rest => match depth, skipSpaces rest with
          | 0, _ => .error .nestedTooDeeply
          | _ + 1, ']' :: following => .ok (.list [], following)
          | inner + 1, items => do
              let (values, following) ← readItems inner fuel items
              return (.list values, following)
      | '\x7b' :: rest => match depth, skipSpaces rest with
          | 0, _ => .error .nestedTooDeeply
          | _ + 1, '\x7d' :: following => .ok (.map [], following)
          | inner + 1, members => do
              let (pairs, following) ← readMembers inner fuel members
              return (.map (Members.ofPairs pairs), following)
      | _ => readScalar characters

/-- Reads items up to the closing bracket. -/
def readItems (depth : Nat) : Nat → List Char → Except Failure (List Value × List Char)
  | 0, _ => .error .malformedJson
  | fuel + 1, characters => do
      let (item, rest) ← readValue depth fuel characters
      match skipSpaces rest with
      | ']' :: following => return ([item], following)
      | ',' :: more => do
          let (items, following) ← readItems depth fuel (skipSpaces more)
          return (item :: items, following)
      | _ => .error .malformedJson

/-- Reads members up to the closing brace. -/
def readMembers (depth : Nat) : Nat → List Char → Except Failure (List (String × Value) × List Char)
  | 0, _ => .error .malformedJson
  | fuel + 1, characters =>
      match characters with
      | '"' :: named => match readString? named with
          | none => .error .malformedJson
          | some (name, afterName) => match skipSpaces afterName with
              | ':' :: body => do
                  let (item, rest) ← readValue depth fuel (skipSpaces body)
                  match skipSpaces rest with
                  | '\x7d' :: following => return ([(name, item)], following)
                  | ',' :: more => do
                      let (members, following) ← readMembers depth fuel (skipSpaces more)
                      return ((name, item) :: members, following)
                  | _ => .error .malformedJson
              | _ => .error .malformedJson
      | _ => .error .malformedJson

end

/-- Reads a text that holds one value and nothing else. Every value, item and member takes at
least one character, so the length of the text bounds the reading. -/
def read (text : String) : Except Failure Value := do
  let characters := text.toList
  let (value, rest) ← readValue nestingLimit (characters.length + 1) (skipSpaces characters)
  if (skipSpaces rest).isEmpty then return value else .error .malformedJson

end ChartCompiler.Json
