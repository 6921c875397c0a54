import ChartCompiler.Field.Kind
import ChartCompiler.Value.Display

/-!
# Outlines of values

The short form in which detailed log records show what a step is given and what it returns. Long
texts and numbers keep their two ends, long lists their first items, and a record inside a record
only its name.
-/

namespace ChartCompiler

/-- The first and the last characters of a text, with dots between them. -/
def shortenTo (first last : Nat) (text : List Char) : List Char :=
  text.take first ++ "...".toList ++ text.drop (text.length - last)

/-- How much is shown: how many items of a list, how long a part of a leaf, and how deep inside
records a record is; only from a depth of one on a record is shown by its name alone. -/
structure OutlineLimits where
  items : Nat := 5
  length : Int := 400
  depth : Int := 0

/-- The limits for a part of a record. -/
def OutlineLimits.field (limits : OutlineLimits) : OutlineLimits :=
  { items := limits.items, depth := limits.depth + 1 }

/-- The limits for an item of a list. -/
def OutlineLimits.item (limits : OutlineLimits) : OutlineLimits := { depth := limits.depth + 1 }

namespace Value

/-- How many characters of a text are looked at. -/
def textLimit : Nat := 30

/-- The two ends of a text; `13` and `14` characters are what fits beside the dots. -/
def textEnds (units : List TextUnit) : List TextUnit :=
  let length := units.length
  let start := if 14 ≤ length then length - 14 else 2 * length - 14
  units.take 13 ++ units.drop start

/-- A quoted text, shortened if it is long. -/
def textOutline (content : String) : List Char :=
  let units := Text.units content
  let shown := (Text.quotedUnits (units.take textLimit)).toList
  if shown.length ≤ textLimit then shown
  else shortenTo 13 14 (Text.quotedUnits (textEnds units)).toList

/-- A displayed value, shortened if it is longer than `limit`. -/
def shortened (limit first last : Nat) (value : Value) : List Char :=
  let shown := value.display.toList
  if shown.length ≤ limit then shown else shortenTo first last shown

/-- A displayed value, shortened if it is longer than what fits around the dots. -/
def otherOutline (shown : String) : List Char :=
  if shown.length ≤ 160 then shown.toList else shortenTo 78 79 shown.toList

/-- The outline of a value without parts. -/
def leafOutline (value : Value) : List Char :=
  match value with
  | .text content => textOutline content
  | .number (.whole integer) =>
      let shown := (toString integer).toList
      if shown.length ≤ 40 then shown else shortenTo 18 19 shown
  | other => otherOutline other.display

/-- The part of a text before a place; a negative place counts from the end. -/
def upTo (place : Int) (text : List Char) : List Char :=
  if place < 0 then text.take (text.length - place.natAbs) else text.take place.toNat

/-- A leaf cut off at a length. -/
def cutOff (limit : Int) (shown : List Char) : String :=
  String.ofList <|
    if limit < shown.length then upTo limit shown ++ "... (truncated)".toList else shown

/-! ## Arrays -/

/-- The numbers among some values, except for undefined ones. -/
def definedNumbers (items : List Value) : List Binary64 :=
  items.filterMap fun item => match item with
    | .number (.real value) => if value.isNaN then none else some value
    | .number (.whole value) => Binary64.ofInt? value
    | _ => none

/-- The least and the greatest number of an array of numbers. -/
def arrayRange (elements : ElementType) (items : List Value) : String :=
  if !elements.isNumeric || items.isEmpty then ""
  else
    let defined := definedNumbers items
    let least := defined.foldl
      (fun least value => if value.lessThan least then value else least) (defined.headD .nan)
    let greatest := defined.foldl
      (fun greatest value => if greatest.lessThan value then value else greatest)
      (defined.headD .nan)
    ", min=" ++ least.toGeneralText 6 ++ ", max=" ++ greatest.toGeneralText 6

/-- The outline of an array: its extents, its element type and its range. -/
def arrayOutline (elements : ElementType) (extents : List Nat) (items : List Value) : String :=
  "ndarray(shape=" ++ tupleText (extents.map toString) ++ ", dtype=" ++ elements.name ++ ")"
    ++ arrayRange elements items

/-! ## Values with parts -/

/-- The first items of a list, and a note on how many there are if some are left out. -/
def listed (limit total : Nat) (unit : String) (items : List String) : String :=
  let count := toString total
  let note := if limit < total then [s!"... ({count} {unit})"] else []
  ", ".intercalate (items.take limit ++ note)

mutual

/-- The outline of a value. The limits hold for its own items and length; the parts inside it have
the usual ones. -/
def outlineWithin (limits : OutlineLimits) : Value → String
  | .list items => "[" ++ listed limits.items items.length "items" (itemOutlines items) ++ "]"
  | .tuple items => "(" ++ listed limits.items items.length "items" (itemOutlines items) ++ ")"
  | .set items =>
      "\x7b" ++ listed limits.items items.length "items" (itemOutlines items) ++ "\x7d"
  | .map members =>
      "\x7b" ++ listed limits.items members.length "keys" (memberOutlines members) ++ "\x7d"
  | .array elements extents items => arrayOutline elements extents items
  | .null => cutOff limits.length (leafOutline .null)
  | .bool value => cutOff limits.length (leafOutline (.bool value))
  | .number value => cutOff limits.length (leafOutline (.number value))
  | .text content => cutOff limits.length (leafOutline (.text content))
  | .bytes codes => cutOff limits.length (leafOutline (.bytes codes))

def itemOutlines : List Value → List String
  | [] => []
  | item :: rest => item.outlineWithin {} :: itemOutlines rest

def memberOutlines : List (String × Value) → List String
  | [] => []
  | (name, item) :: rest =>
      (String.ofList (textOutline name) ++ ": " ++ item.outlineWithin {})
        :: memberOutlines rest

end

end Value

/-! ## Records -/

/-- What a log record shows: a value, a named constant, a record with fields, or several of
them. -/
inductive Outline where
  | value (value : Value)
  | constant (text : String)
  | record (name : String) (fields : List (String × Outline))
  | sequence (items : List Outline)

namespace Outline

mutual

/-- The text of an outline within limits. The fields of a record share its limit for items. -/
def text (limits : OutlineLimits) : Outline → String
  | .value shown => shown.outlineWithin limits
  | .constant shown => Value.cutOff limits.length shown.toList
  | .record name fields =>
      if 1 ≤ limits.depth then name ++ "(...)"
      else name ++ "(" ++ ", ".intercalate (fieldTexts limits fields) ++ ")"
  | .sequence items =>
      "(" ++ Value.listed limits.items items.length "items" (itemTexts limits items) ++ ")"

def fieldTexts (limits : OutlineLimits) : List (String × Outline) → List String
  | [] => []
  | (name, field) :: rest => (name ++ "=" ++ text limits.field field) :: fieldTexts limits rest

def itemTexts (limits : OutlineLimits) : List Outline → List String
  | [] => []
  | item :: rest => text limits.item item :: itemTexts limits rest

end

/-- The text of an outline in a log record. -/
def toText (outline : Outline) : String := outline.text {}

/-- The outlines of the elements of a value, if it has any. The items of an array show their
type. -/
def ofElements? (value : Value) : Option (List Outline) :=
  match value with
  | .array elements [_] items =>
      some (items.map fun item =>
        .constant (String.ofList (Value.otherOutline (elements.typedText item))))
  | value => value.elements?.map (·.map .value)

end Outline

/-- A kind of field in an outline. -/
def FieldKind.outline : FieldKind → Outline
  | .continuous => .constant "<FieldKind.CONTINUOUS: 'continuous'>"
  | .categorical => .constant "<FieldKind.CATEGORICAL: 'categorical'>"

end ChartCompiler
