import ChartCompiler.Value.Alignment

/-!
# Texts of arrays

An array is written row by row between brackets. A row that is too long goes on in the next line,
and with each dimension more there is one more line end between its parts. Of an array with more
than a thousand items only the first and the last three in each dimension are shown.
-/

namespace ChartCompiler

/-- The items of a tuple, with a comma after a single one. -/
def tupleText : List String → String
  | [item] => "(" ++ item ++ ",)"
  | items => "(" ++ ", ".intercalate items ++ ")"

/-- The shortest text that tells a magnitude of single precision apart. Six digits are written before
the point at most. -/
def singlePrecisionText (units : Nat) : String :=
  let first := leadingExponent units Binary64.unitsPerOne
  let decimal := BinaryFormat.binary32.decimal units first none
  let small := units ≠ 0 && units * 10000 < Binary64.unitsPerOne
  let layout : DecimalLayout := ⟨if small then 0 else -4, if small then 0 else 6, ".0"⟩
  layout.write decimal

/-- An item taken out of an array, with its type. -/
def ElementType.typedText (elements : ElementType) (item : Value) : String :=
  match elements, item with
  | .truth, _ => "np." ++ item.itemText ++ "_"
  | .text _, _ => "np.str_(" ++ item.itemText ++ ")"
  | .binary32, .number (.real value) =>
      "np.float32(" ++ value.writeWith singlePrecisionText ++ ")"
  | _, _ => "np." ++ elements.name ++ "(" ++ item.itemText ++ ")"

namespace ArrayText

/-- How an array is laid out: the mark between its items, which a blank follows, and the width of a
line. -/
structure Layout where
  mark : String
  width : Nat

/-- More items than this are not all shown. -/
def itemLimit : Nat := 1000

/-- How many items are shown at either end if not all are. -/
def edge : Nat := 3

/-- The first and the last of some parts, with a gap between them where parts are left out. -/
def abridge (gap : List α) (parts : List α) : List α :=
  if 2 * edge < parts.length then
    parts.take edge ++ gap ++ parts.drop (parts.length - edge)
  else parts

/-- The items that are shown of an array with too many. -/
def edgeItems : List Nat → List Value → List Value
  | [], items => items
  | count :: inner, items =>
      (abridge [] (Value.pieces (Value.itemCount inner) items count)).flatMap (edgeItems inner)

/-- A line without the blanks at its end. -/
def withoutTrailingBlanks (line : String) : String :=
  String.ofList (line.toList.reverse.dropWhile (· = ' ')).reverse

def blanks (count : Nat) : String := String.ofList (List.replicate count ' ')

/-- Writes words into lines of a width, with `line` as what the first one holds already. A word that
does not fit starts a new line, if there is something before it. -/
def flow (mark : String) (indent width : Nat) (line : String) : List String → String
  | [] => line
  | word :: rest =>
      let behind := if rest.isEmpty then "" else mark ++ " "
      if !line.isEmpty && width < indent + line.length + word.length then
        withoutTrailingBlanks line ++ "\n" ++ blanks indent
          ++ flow mark indent width (word ++ behind) rest
      else flow mark indent width (line ++ word ++ behind) rest

/-- Items between brackets, for the extents of an array; lines other than the first begin with
`indent` blanks. -/
def bracketed (mark : String) (gap : List String) (word : Value → String) :
    (extents : List Nat) → (indent width : Nat) → List Value → String
  | [], _, _, items => String.join (items.map word)
  | [_], indent, width, items =>
      "[" ++ flow mark indent (width - 1) "" (shorten (items.map word)) ++ "]"
  | count :: inner, indent, width, items =>
      let parts := (Value.pieces (Value.itemCount inner) items count).map fun part =>
        bracketed mark gap word inner (indent + 1) (width - 1) part
      let between := mark ++ String.ofList (List.replicate inner.length '\n') ++ blanks indent
      "[" ++ between.intercalate (shorten parts) ++ "]"
where
  shorten (parts : List String) : List String :=
    if gap.isEmpty then parts else abridge gap parts

/-- The items of an array in brackets, in a layout and behind an opening of a length. -/
def body (layout : Layout) (opening : Nat) (elements : ElementType) (extents : List Nat)
    (items : List Value) : String :=
  let long := itemLimit < items.length
  if items.isEmpty then "[]"
  else
    bracketed layout.mark (if long then ["..."] else [])
      (elements.writer (if long then edgeItems extents items else items))
      extents (opening + 1) layout.width items

/-- What follows the items of an array where they do not tell it: its extents and what its elements
are. -/
def notes (elements : ElementType) (extents : List Nat) (items : List Value) : List String :=
  let shape :=
    if (items.isEmpty && extents ≠ [0]) || itemLimit < items.length then
      ["shape=" ++ tupleText (extents.map toString)]
    else []
  let name := match elements with
    | .text _ => Text.quoted elements.name
    | _ => elements.name
  let implied := elements = .binary64 || elements = .signed64 || elements = .truth
  shape ++ if items.isEmpty || !implied then ["dtype=" ++ name] else []

/-- The width of a line. -/
def lineWidth : Nat := 75

/-- An array on its own. -/
def plain (elements : ElementType) (extents : List Nat) (items : List Value) : String :=
  body ⟨"", lineWidth⟩ 0 elements extents items

/-- An array inside other values. The notes stand in a line of their own if the last line has no
room for them. -/
def display (elements : ElementType) (extents : List Nat) (items : List Value) : String :=
  let opening := "array("
  let shown := opening ++ body ⟨",", lineWidth - 1⟩ opening.length elements extents items
  match notes elements extents items with
  | [] => shown ++ ")"
  | notes =>
      let closing := ", ".intercalate notes ++ ")"
      let lastLine := (shown.toList.reverse.takeWhile (· ≠ '\n')).length + 1
      let between :=
        if lineWidth < lastLine + closing.length + 1 then "\n" ++ blanks opening.length else " "
      shown ++ "," ++ between ++ closing

end ArrayText

end ChartCompiler
