import ChartCompiler.CommandLine.Word
import ChartCompiler.Text.Numeral

/-!
# Arguments of the command

A command has one operand, the path of a plot descriptor, and flags before and after it. Of a flag
that is given several times the last one counts.
-/

namespace ChartCompiler.CommandLine

/-- What the flags set. -/
structure Settings where
  options : ChartOptions := {}
  fileName : Option Value := none
  exportPath : Value := .text "."
  logLevel : Value := .text "INFO"

/-- The value that the text behind a flag gives. The separator `--` is dropped where it stands for a
value, which leaves no values, as a list. -/
def Flag.valueOf? (flag : Flag) (text : String) : Option Value :=
  if text = "--" then some (.list [])
  else if flag.takesNumber then (Text.whole? text).map .whole
  else some (.text text)

/-- The settings with the value of a flag. -/
def Settings.set (settings : Settings) (value : Value) : Flag → Settings
  | .help | .interactive => settings
  | .fileName => { settings with fileName := some value }
  | .exportPath => { settings with exportPath := value }
  | .xLabel => { settings with options.xLabel := value }
  | .yLabel => { settings with options.yLabel := value }
  | .title => { settings with options.title := value }
  | .width => { settings with options.width := value }
  | .height => { settings with options.height := value }
  | .jitterSeed => { settings with options.jitterSeed := some value }
  | .logLevel => { settings with logLevel := value }

structure Arguments where
  path : String
  settings : Settings := {}

/-- Why a command does not go on after its words are read. -/
inductive Refusal where
  | helpAsked
  | misused
  deriving DecidableEq

namespace Arguments

/-- What is known of the arguments on the way through the words. -/
structure Reading where
  settings : Settings := {}
  path : Option String := none
  hasSurplus : Bool := false

/-- The arguments after the last word. -/
def Reading.finish (reading : Reading) : Except Refusal Arguments :=
  match reading.path with
  | some path =>
      if reading.hasSurplus then .error .misused else .ok { path, settings := reading.settings }
  | none => .error .misused

/-- Gives a flag its value; a flag may take none, or not the one that the text gives. -/
def Reading.set (reading : Reading) (flag : Flag) (text : String) : Except Refusal Reading :=
  if !flag.takesValue then .error .misused
  else match flag.valueOf? text with
    | some value => .ok { reading with settings := reading.settings.set value flag }
    | none => .error .misused

/-- Takes an operand: the first one is the path, the others are surplus. -/
def Reading.take (reading : Reading) (operand : String) : Reading :=
  match reading.path with
  | none => { reading with path := some operand }
  | some _ => { reading with hasSurplus := true }

/-- The settings with what a flag without a value sets. -/
def Reading.raise (reading : Reading) : Flag → Except Refusal Reading
  | .interactive => .ok { reading with settings.options.interactive := .bool true }
  | .help => .error .helpAsked
  | _ => .error .misused

/-- Takes the words in order. Asking for help ends the reading at once; surplus words count only
at the end. The separator belongs to the operand before or after it. -/
def read (reading : Reading) : List Word → Except Refusal Reading
  | [] => .ok reading
  | .operand text :: .separator :: rest => read (reading.take text) rest
  | .operand text :: rest => read (reading.take text) rest
  | .separator :: .operand text :: rest => read (reading.take text) rest
  | .separator :: rest => read { reading with hasSurplus := true } rest
  | .malformedFlag :: _ => .error .misused
  | .unknownFlag :: rest => read { reading with hasSurplus := true } rest
  | .flagged flag (some value) :: rest => do read (← reading.set flag value) rest
  | .flagged flag none :: rest => do read (← reading.raise flag) rest

/-- The arguments that the words of a command give. -/
def ofWords (texts : List String) : Except Refusal Arguments :=
  match Word.ofTexts? texts with
  | none => .error .misused
  | some words => do (← read {} (Word.withValues words)).finish

end Arguments

end ChartCompiler.CommandLine
