import ChartCompiler.Log.Basic

/-!
# Levels of logs

A log shows the records from a rank on. A level gives the rank as a whole number or by name. A log
without a level of its own shows what asks for attention. The command is given a word in letters of
either case; a word that names no rank stands for the usual one.
-/

namespace ChartCompiler

namespace LogLevel

/-- The names of ranks. -/
def names : List (String × Int) := [
  ("NOTSET", 0), ("DEBUG", 10), ("INFO", 20), ("WARN", 30), ("WARNING", 30), ("ERROR", 40),
  ("FATAL", 50), ("CRITICAL", 50)]

/-- The rank that a level gives. -/
def rankOf : Value → Except Failure Int
  | .number (.whole rank) => .ok rank
  | .bool value => .ok (if value then 1 else 0)
  | .text name => match names.lookup name with
      | some rank => .ok rank
      | none => .error .unusableValue
  | _ => .error .unsupportedKind

/-- The rank from which a log with a level shows records. -/
def shownFrom (level : Value) : Except Failure Int := do
  let rank ← rankOf level
  return if rank = 0 then Severity.warning.rank else rank

end LogLevel

namespace CommandLine

/-- A character in capitals, as far as it matters for words of ASCII letters: the few letters
beyond ASCII with capitals in ASCII are those that the words have. -/
def capitals (character : Char) : List Char :=
  if character = 'ı' then ['I']
  else if character = 'ſ' then ['S']
  else if character = 'ﬅ' || character = 'ﬆ' then ['S', 'T']
  else [character.toUpper]

/-- The rank of a word. Two words are reserved and name something that is no rank. -/
def rankOfWord (level : String) : Except Failure Int :=
  let word := String.ofList (level.toList.flatMap capitals)
  if word = "BASIC_FORMAT" then .error .unusableValue
  else if word = "_STYLES" then .error .unsupportedKind
  else .ok ((LogLevel.names.lookup word).getD Severity.info.rank)

example : (rankOfWord "Warn").toOption = some 30 := by decide +kernel

/-- The rank that the setting for the log gives. -/
def rankOf : Value → Except Failure Int
  | .text level => rankOfWord level
  | _ => .error .absentOperation

end CommandLine

end ChartCompiler
