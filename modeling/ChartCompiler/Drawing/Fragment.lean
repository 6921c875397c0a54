import ChartCompiler.Scale.Basic

/-!
# Fragments of a chart document

What one layer contributes to the document: its marks and what they need.
-/

namespace ChartCompiler

/-- A data source of a document: its name, and where its rows come from. -/
structure DataSource where
  name : String
  body : Members

namespace DataSource

/-- A source computed from another one. -/
def derived (name source : String) (steps : List Members) : DataSource :=
  ⟨name, [("source", .text source), ("transform", .list (steps.map .map))]⟩

/-- A source whose rows are part of the document. -/
def inline (name : String) (rows : List Members) : DataSource :=
  ⟨name, [("values", .list (rows.map .map))]⟩

def toMembers (source : DataSource) : Members := ("name", .text source.name) :: source.body

end DataSource

/-- The contribution of a layer. Without marks it is empty, and the note says why. -/
structure Fragment where
  marks : List Value := []
  scales : List Scale := []
  derived : List DataSource := []
  inline : List DataSource := []
  axes : List Value := []
  note : Option String := none

def Fragment.isEmpty (fragment : Fragment) : Bool := fragment.marks.isEmpty

end ChartCompiler
