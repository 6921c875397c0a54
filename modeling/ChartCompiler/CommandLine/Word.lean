import ChartCompiler.CommandLine.Flag
import ChartCompiler.Text.CharacterClass

/-!
# Words of a command

What each word of a command is, before it is known what the words mean together. A flag may be
shortened to any start that no other flag has, and may have a value attached after `=`. A word that
looks like a negative number, or holds a space and is no flag, is an operand.
-/

namespace ChartCompiler.CommandLine

inductive Word where
  | operand (text : String)
  /-- The word `--`: everything after it is an operand. -/
  | separator
  | flagged (flag : Flag) (attached : Option String)
  /-- A short flag that is run together with something that cannot follow it. -/
  | malformedFlag
  | unknownFlag
  deriving DecidableEq

namespace Word

/-- Splits a flag from the value attached to it. -/
def splitAttached (characters : List Char) : List Char × Option String :=
  match characters.span (· ≠ '=') with
  | (spelling, []) => (spelling, none)
  | (spelling, _ :: value) => (spelling, some (String.ofList value))

def areDigits (characters : List Char) : Bool :=
  !characters.isEmpty && characters.all fun character => (Text.digitValue? character).isSome

/-- Whether a word after its `-` is a number: digits, or a fraction with digits after the point. A
line end may follow. -/
def isMagnitude (characters : List Char) : Bool :=
  let body := match characters.reverse with
    | '\n' :: rest => rest.reverse
    | _ => characters
  match body.span (· ≠ '.') with
  | (digits, []) => areDigits digits
  | (digits, _ :: fraction) => (digits.isEmpty || areDigits digits) && areDigits fraction

/-- What follows `-h` in a word: the short flag may be repeated, at once or after one `=`, and nothing
else can follow it. -/
def afterShortHelp (characters : List Char) : Word :=
  let repeats := match characters with
    | '=' :: rest => if rest.isEmpty then characters else rest
    | _ => characters
  if repeats.all (· = 'h') then .flagged .help none else .malformedFlag

/-- A word that starts like a flag but is none. -/
def unlikeFlag (text : String) : Word :=
  if isMagnitude (text.toList.drop 1) || text.toList.contains ' ' then .operand text
  else .unknownFlag

/-- What a word other than `--` is; nothing if it is short for several flags. -/
def ofText? (text : String) : Option Word :=
  match text.toList with
  | '-' :: 'h' :: rest => some (afterShortHelp rest)
  | '-' :: second :: _ =>
      let (spelling, attached) := splitAttached text.toList
      match Flag.ofSpelling? (String.ofList spelling) with
      | some flag => some (.flagged flag attached)
      | none =>
          if second = '-' then
            match Flag.startingWith spelling with
            | [] => some (unlikeFlag text)
            | [flag] => some (.flagged flag attached)
            | _ => none
          else some (unlikeFlag text)
  | _ => some (.operand text)

/-- What the words of a command are; nothing if one of them is short for several flags. -/
def ofTexts? : List String → Option (List Word)
  | [] => some []
  | text :: rest =>
      if text = "--" then some (.separator :: rest.map .operand)
      else do
        let word ← ofText? text
        return word :: (← ofTexts? rest)

/-- Attaches to each flag that takes a value, and has none, the operand after it. -/
def withValues : List Word → List Word
  | [] => []
  | .flagged flag none :: .operand value :: rest =>
      if flag.takesValue then .flagged flag (some value) :: withValues rest
      else .flagged flag none :: .operand value :: withValues rest
  | word :: rest => word :: withValues rest

end Word

end ChartCompiler.CommandLine
