import ChartCompiler.Failure
import ChartCompiler.Text.CharacterClass
import ChartCompiler.Value.Access

/-!
# Pages

A page shows the chart whose document lies beside it. The name of a chart serves as a file name, as
an element's name and inside a script, so it is restricted to characters that mean the same in all
of these places; the title of a page may be any text.
-/

namespace ChartCompiler

namespace Page

/-- The characters that the name of a chart may have. -/
def isNameCharacter (character : Char) : Bool :=
  Text.isWordCharacter character || character = '.' || character = '-'

/-- Whether a text can name a chart: it must be more than one point, which would name the directory
itself. -/
def isBareName (name : String) : Bool :=
  !name.isEmpty && name.toList.all isNameCharacter && name ≠ "."

/-- The name that a value gives to a chart. -/
def nameOf (given : Value) : Except Failure String :=
  match given with
  | .text name => if isBareName name then .ok name else .error (.unsafeFileName given)
  | _ => do if ← given.truth then .error .unsupportedKind else .error (.unsafeFileName given)

/-- The characters that stand for one character of a title. -/
def escapedCharacter (character : Char) : List Char :=
  if character = '&' then "&amp;".toList
  else if character = '<' then "&lt;".toList
  else if character = '>' then "&gt;".toList
  else if character = '"' then "&quot;".toList
  else if character = '\'' then "&#x27;".toList
  else [character]

def escaped (title : String) : String :=
  String.ofList (title.toList.flatMap escapedCharacter)

/-- The title of a page that has no other. -/
def standardTitle : String := "Vega Chart"

/-- The text of a title, which any value may have been given for. -/
def titleOf : Value → Except Failure String
  | .text title => .ok title
  | .bytes _ => .error .unsupportedKind
  | _ => .error .absentOperation

/-! ## The parts of a page -/

/-- A part of a page. -/
inductive Part where
  | fixed (text : String)
  | name
  | title

/-- The text of a part; the title is escaped. -/
def Part.render (name title : String) : Part → String
  | .fixed text => text
  | .name => name
  | .title => escaped title

/-- The parts of every page, in order. -/
def parts : List Part := [
  .fixed "<!DOCTYPE html>\n",
  .fixed "<html lang=\"en\">\n",
  .fixed "<head>\n",
  .fixed "    <meta charset=\"UTF-8\">\n",
  .fixed "    <meta name=\"viewport\" content=\"width=device-width, initial-scale=1.0\">\n",
  .fixed "    <title>", .title, .fixed "</title>\n",
  .fixed "    <script src=\"https://cdn.jsdelivr.net/npm/vega@5\"></script>\n",
  .fixed "    <script src=\"https://cdn.jsdelivr.net/npm/vega-embed@6\"></script>\n",
  .fixed "</head>\n",
  .fixed "<body>\n",
  .fixed "    <div id=\"", .name, .fixed "_chart\"></div>\n",
  .fixed "    <script>\n",
  .fixed "        fetch(\"", .name, .fixed ".json\")\n",
  .fixed "            .then(response => response.json())\n",
  .fixed "            .then(spec => \x7b\n",
  .fixed "                vegaEmbed(document.getElementById(\"", .name,
  .fixed "_chart\"), spec, \x7b\n",
  .fixed "                    actions: true,\n",
  .fixed "                    theme: \"default\",\n",
  .fixed "                    renderer: \"canvas\"\n",
  .fixed "                \x7d);\n",
  .fixed "            \x7d)\n",
  .fixed "            .catch(error => console.error(\"Error loading chart:\", error));\n",
  .fixed "    </script>\n",
  .fixed "</body>\n",
  .fixed "</html>\n"]

/-- The page of a chart. -/
def render (name title : String) : String := String.join (parts.map (Part.render name title))

/-- The page of a chart whose name and title are given as values. -/
def ofValues (name title : Value) : Except Failure String := do
  let name ← nameOf name
  return render name (← titleOf title)

end Page

end ChartCompiler
