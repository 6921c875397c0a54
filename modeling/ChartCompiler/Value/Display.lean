import ChartCompiler.Value.ArrayText

/-!
# Display of values

The form in which log lines, messages and category labels show a value.
-/

namespace ChartCompiler

def Number.display : Number → String
  | .whole value => toString value
  | .real value => value.toText

namespace Value

mutual

/-- A value as it is shown inside other values: texts are quoted. -/
def display : Value → String
  | .null => "None"
  | .bool value => if value then "True" else "False"
  | .number value => value.display
  | .text content => Text.quoted content
  | .bytes codes => Text.quotedBytes codes
  | .list items => "[" ++ ", ".intercalate (displayItems items) ++ "]"
  | .tuple items => tupleText (displayItems items)
  | .set items =>
      if items.isEmpty then "set()"
      else "\x7b" ++ ", ".intercalate (displayItems items) ++ "\x7d"
  | .map members => "\x7b" ++ ", ".intercalate (displayMembers members) ++ "\x7d"
  | .array elements extents items => ArrayText.display elements extents items

def displayItems : List Value → List String
  | [] => []
  | item :: rest => item.display :: displayItems rest

def displayMembers : List (String × Value) → List String
  | [] => []
  | (name, item) :: rest => (Text.quoted name ++ ": " ++ item.display) :: displayMembers rest

end

/-- A value as it is shown on its own: a text stands for itself. -/
def plainText : Value → String
  | .text content => content
  | .array elements extents items => ArrayText.plain elements extents items
  | value => value.display

end Value

end ChartCompiler
