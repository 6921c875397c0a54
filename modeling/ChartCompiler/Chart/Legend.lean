import ChartCompiler.Chart.Basic
import ChartCompiler.Log.Basic
import ChartCompiler.Style
import ChartCompiler.Value.Access

/-!
# Legends

A chart with color groups gets a legend. In an interactive chart a click on the legend selects
groups, and every mark whose color shows its group follows the selection: what is not selected is
drawn in a neutral color and faintly.
-/

namespace ChartCompiler

namespace Legend

/-! ## Selection -/

/-- The data source that holds the selected groups. -/
def selectedSource : String := "selected"

/-- The events that select groups. -/
def legendClicks : Value := .text "@legendSymbol:click, @legendLabel:click"

/-- Whether the row of a mark is selected; without a selection every row is. -/
def markTest : Value :=
  .text "!length(data('selected')) || indata('selected', 'value', datum.color)"

/-- Whether an entry of the legend is selected. -/
def entryTest : Value :=
  .text "!length(data('selected')) || indata('selected', 'value', datum.value)"

/-- A signal that an event sets. -/
def signal (name : String) (initial events : Value) (update : String) : Value :=
  .map [("name", .text name), ("value", initial),
    ("on", .list [.map [("events", events), ("update", .text update), ("force", .bool true)]])]

/-- The signals that a selection is made by. -/
def selectionSignals : List Value :=
  [signal "clear" (.bool true) (.text "pointerup[!event.item]") "true",
    signal "shift" (.bool false) legendClicks "event.shiftKey",
    signal "clicked" .null legendClicks "\x7bvalue: datum.value\x7d"]

/-- The selected groups: emptied by a click beside all marks, replaced by a click, extended or
reduced by a click with the shift key. -/
def selectionSource : Value :=
  .map [("name", .text selectedSource),
    ("on", .list [
      .map [("trigger", .text "clear"), ("remove", .bool true)],
      .map [("trigger", .text "!shift"), ("remove", .bool true)],
      .map [("trigger", .text "!shift && clicked"), ("insert", .text "clicked")],
      .map [("trigger", .text "shift && clicked"), ("toggle", .text "clicked")]])]

/-- A value for what is selected and another one for the rest. -/
def choice (test : Value) (selected other : Members) : Value :=
  .list [.map (("test", test) :: selected), .map other]

def constant (value : Value) : Members := [("value", value)]

/-- The opacity of what is selected and of the rest. -/
def selectionOpacity (test : Value) (style : Style) : Value :=
  choice test (constant style.selectedOpacity)
    (constant style.unselectedOpacity)

/-! ## The legend -/

/-- The legend of a chart that is only looked at. -/
def plainLegend : Value :=
  .map [("fill", .text ScaleName.color.text), ("orient", .text "right"), ("padding", .whole 10),
    ("cornerRadius", .whole 5), ("strokeColor", .text "#ddd"), ("fillColor", .text "#fff"),
    ("title", .text "Color"), ("titlePadding", .whole 5), ("titleFontSize", .whole 12),
    ("titleFontWeight", .text "bold"), ("labelFontSize", .whole 11), ("symbolSize", .whole 100),
    ("symbolType", .text "circle")]

/-- A part of the legend that can be clicked. -/
def legendPart (name : String) (update : Members) : Value :=
  .map [("name", .text name), ("interactive", .bool true), ("update", .map update)]

/-- The legend that groups are selected by. -/
def selectionLegend (style : Style) : Value :=
  .map [("fill", .text ScaleName.color.text), ("title", .text "Color"),
    ("orient", .text "right"), ("padding", .whole 10),
    ("encode", .map [
      ("symbols", legendPart "legendSymbol"
        [("fill", .map (constant (.text "transparent"))),
          ("strokeWidth", .map (constant (.whole 2))),
          ("opacity", selectionOpacity entryTest style),
          ("size", .map (constant (.whole 64)))]),
      ("labels", legendPart "legendLabel"
        [("opacity", choice entryTest (constant (.whole 1)) (constant (.real 0.25)))])])]

/-! ## Marks that follow the selection -/

/-- Whether an encoding takes its value from the color scale. -/
def showsColorGroup : Option Value → Bool
  | some (.map members) => match Members.get? members "scale" with
      | some (.text name) => name = ScaleName.color.text
      | _ => false
  | _ => false

/-- The channels of a mark that show its color group. -/
def boundChannels (enter : Members) : List String :=
  ["fill", "stroke"].filter fun channel => showsColorGroup (enter.get? channel)

/-- The color of the group for what is selected and a neutral color for the rest. -/
def channelRule (style : Style) : Value :=
  choice markTest [("scale", .text ScaleName.color.text), ("field", .text "color")]
    (constant style.neutralColor)

/-- An update block that follows the selection in the given channels. -/
def withRules (style : Style) (channels : List String) (update : Members) : Members :=
  channels.foldl (fun result channel => result.set channel (channelRule style))
    (update.set "opacity" (selectionOpacity markTest style))

/-- The encoding of a mark that follows the selection, if one of its channels shows the color
group. -/
def followingEncoding? (style : Style) (encode : Members) : Except Failure (Option Members) := do
  let enter ← ((encode.get? "enter").getD (.map [])).membersOf
  let channels := boundChannels enter
  if channels.isEmpty then return none
  match (encode.get? "update").getD (.map []) with
  | .map update => return some (encode.set "update" (.map (withRules style channels update)))
  | _ => .error .unsupportedKind

/-- The new encoding of a mark, if it has to follow the selection. -/
def following? (style : Style) (members : Members) : Except Failure (Option Members) :=
  match members.get? "encode" with
  | some (.map encode) => followingEncoding? style encode
  | _ => .ok none

/-- A mark with a new encoding, if there is one. -/
def withEncoding (members : Members) : Option Members → Members
  | some encode => members.set "encode" (.map encode)
  | none => members

/-- Marks that cannot be gone through, or that are no maps. -/
def unusableMarks (marks : Value) : Except Failure (Value × Nat) := do
  let items ← marks.itemsOf
  if items.isEmpty then return (marks, 0) else .error .absentOperation

mutual

/-- A mark that follows the selection together with the marks nested in it, and the number of
marks that were changed. -/
def selectableMark (style : Style) : Value → Except Failure (Value × Nat)
  | .map members => do
      let encode ← following? style members
      let (nested, count) ← selectableNested style members
      return (.map (withEncoding nested encode), (if encode.isSome then 1 else 0) + count)
  | .null | .bool _ | .number _ | .text _ | .bytes _ | .list _ | .tuple _ | .set _
  | .array _ _ _ => .error .absentOperation

def selectableMarks (style : Style) : List Value → Except Failure (List Value × Nat)
  | [] => .ok ([], 0)
  | mark :: rest => do
      let (changed, count) ← selectableMark style mark
      let (others, more) ← selectableMarks style rest
      return (changed :: others, count + more)

/-- The members of a mark with the nested marks changed. -/
def selectableNested (style : Style) :
    List (String × Value) → Except Failure (List (String × Value) × Nat)
  | [] => .ok ([], 0)
  | (name, item) :: rest => do
      let (changed, count) ←
        if name = "marks" then match item with
          | .list marks => do
              let (marks, count) ← selectableMarks style marks
              .ok (.list marks, count)
          | .tuple marks => do
              let (marks, count) ← selectableMarks style marks
              .ok (.tuple marks, count)
          | .null | .bool _ | .number _ | .text _ | .bytes _ | .set _ | .map _
          | .array _ _ _ => unusableMarks item
        else .ok (item, 0)
      let (others, more) ← selectableNested style rest
      return ((name, changed) :: others, count + more)

end

end Legend

namespace Chart

/-- Whether a chart shows more than one color group. -/
def needsLegend (chart : Chart) : Bool := chart.hasColorScale && 1 < chart.colorDomain.length

open Legend in
/-- A chart with its legend; an interactive one with the selection, too. A chart that needs no
legend stays as it is. -/
def withLegend (chart : Chart) (style : Style) (interactive : Value) : Run Chart := do
  if !chart.needsLegend then return chart
  let padding := chart.padding.set "right" style.legendPaddingRight
  if !(← interactive.truth) then
    let groups := chart.colorDomain.length
    Run.debug .legend s!"Attaching static legend for {groups} color groups"
    return { chart with legends := [plainLegend], padding }
  let (marks, count) ← (selectableMarks style chart.marks : Except Failure _)
  Run.debug .legend s!"Selection wiring applied to {count} color-bound mark(s)"
  return { chart with
    padding
    signals := chart.signals ++ selectionSignals
    data := chart.data ++ [selectionSource]
    legends := [selectionLegend style]
    marks }

end Chart

end ChartCompiler
