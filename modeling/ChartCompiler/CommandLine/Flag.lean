import ChartCompiler.Options

/-!
# Flags of the command

The flags that the command understands, and the settings that they make.
-/

namespace ChartCompiler.CommandLine

inductive Flag where
  | help
  | fileName
  | exportPath
  | xLabel
  | yLabel
  | title
  | width
  | height
  | interactive
  | jitterSeed
  | logLevel
  deriving DecidableEq

namespace Flag

def all : List Flag := [
  .help, .fileName, .exportPath, .xLabel, .yLabel, .title, .width, .height, .interactive,
  .jitterSeed, .logLevel]

/-- The full spelling of a flag. -/
def spelling : Flag → String
  | .help => "--help"
  | .fileName => "--file-name"
  | .exportPath => "--export-path"
  | .xLabel => "--x-label"
  | .yLabel => "--y-label"
  | .title => "--title"
  | .width => "--width"
  | .height => "--height"
  | .interactive => "--interactive"
  | .jitterSeed => "--jitter-seed"
  | .logLevel => "--log-level"

def takesValue : Flag → Bool
  | .help | .interactive => false
  | _ => true

/-- Whether the value of a flag is a whole number. -/
def takesNumber : Flag → Bool
  | .width | .height | .jitterSeed => true
  | _ => false

/-- The flag with a full spelling. -/
def ofSpelling? (text : String) : Option Flag := all.find? fun flag => flag.spelling = text

/-- The flags whose full spelling starts with a text. -/
def startingWith (start : List Char) : List Flag :=
  all.filter fun flag => start.isPrefixOf flag.spelling.toList

end Flag

end ChartCompiler.CommandLine
