import ChartCompiler.Drawing.Fragment
import ChartCompiler.Proofs.Expression.Fields
import ChartCompiler.Scale.Table

/-!
# Reading a chart document

How a renderer reads the parts of a chart document: which maps set the channels of a mark, which
fields are read in them, and which rows a mark is drawn over. A group may stand for the parts of a
data source, by a facet; the marks inside read the facet by its name.
-/

namespace ChartCompiler

/-! ## Members -/

namespace Value

def map? : Value → Option Members
  | .map members => some members
  | _ => none

def text? : Value → Option String
  | .text content => some content
  | _ => none

/-- The maps in a list. -/
def maps : Value → List Members
  | .list items => items.filterMap map?
  | _ => []

/-- A text, or the texts in a list. -/
def texts : Value → List String
  | .text content => [content]
  | .list items => items.filterMap text?
  | _ => []

end Value

namespace Members

variable (members : Members)

def map? (name : String) : Option Members := (members.get? name).bind Value.map?

def text? (name : String) : Option String := (members.get? name).bind Value.text?

def maps (name : String) : List Members := (members.get? name).elim [] Value.maps

def texts (name : String) : List String := (members.get? name).elim [] Value.texts

end Members

/-! ## Marks -/

/-- The maps that set a channel: one, or one for each of several conditions. -/
def Value.rules : Value → List Members
  | .map rule => [rule]
  | value => value.maps

/-- The maps that set the channels of a block. -/
def Value.blockRules (block : Value) : List Members :=
  block.map?.elim [] fun channels => channels.flatMap (·.2.rules)

namespace Members

/-- The maps that set the channels of a mark. -/
def rules (mark : Members) : List Members :=
  (mark.map? "encode").elim [] fun blocks => blocks.flatMap (·.2.blockRules)

/-- The expressions of a map that sets a channel: its condition and its value. -/
def formulas (rule : Members) : List String := ["test", "signal"].filterMap rule.text?

/-- The expression by which a mark orders its rows. -/
def order (mark : Members) : List String :=
  ((mark.map? "sort").bind (·.text? "field")).toList

/-- The expressions that are computed for the rows of a mark. -/
def markFormulas (mark : Members) : List String := mark.rules.flatMap formulas ++ mark.order

/-- The fields that a mark reads. -/
def fieldsRead (mark : Members) : List String :=
  mark.rules.filterMap (·.text? "field") ++ mark.markFormulas.flatMap datumFields

/-- The parts of a data source that a group stands for. -/
def facet? (mark : Members) : Option Members := (mark.map? "from").bind (·.map? "facet")

/-- The data source of a mark. -/
def data? (mark : Members) : Option String := (mark.map? "from").bind (·.text? "data")

/-- The expressions of the signals of a group. -/
def signalFormulas (group : Members) : List String :=
  (group.maps "signals").filterMap (·.text? "update")

end Members

/-- The expressions in the range of a scale. -/
def Value.rangeFormulas (range : Value) : List String :=
  (range.map?.toList ++ range.maps).filterMap (·.text? "signal")

def Members.rangeFormulas (scale : Members) : List String :=
  (scale.get? "range").elim [] Value.rangeFormulas

/-- The functions of expressions whose first argument is the name of a data source. -/
def dataFunctions : List (List Char) := ["data".toList, "indata".toList]

/-- Where a mark stands in a document: at the top, or in groups, of which the innermost comes
first. -/
inductive Stands (marks : List Value) : List Members → Members → Prop where
  | top {mark : Members} (listed : .map mark ∈ marks) : Stands marks [] mark
  | nested {around : List Members} {group mark : Members} (outer : Stands marks around group)
      (inside : mark ∈ group.maps "marks") : Stands marks (group :: around) mark

/-! ## Rows -/

/-- The data source behind a name: that of the innermost facet with the name, or the source itself. -/
def sourceBehind? : List Members → String → Option String
  | [], name => some name
  | group :: outer, name =>
      match group.facet? with
      | some facet =>
          if facet.text? "name" = some name then (facet.text? "data").bind (sourceBehind? outer)
          else sourceBehind? outer name
      | none => sourceBehind? outer name

/-- The fields of each data source. -/
abbrev SourceFields := List (String × (String → Prop))

namespace SourceFields

variable (sources : SourceFields)

/-- Whether a field is there in the rows with a name. -/
def Has (around : List Members) (name field : String) : Prop :=
  ∃ source fields, sourceBehind? around name = some source ∧
    sources.lookup source = some fields ∧ fields field

/-- Whether a field is there in the rows that a mark is drawn over. A group is drawn once for each
part of a source, with the fields that tell the parts apart. -/
def DrawnOver (around : List Members) (mark : Members) (field : String) : Prop :=
  (∃ name, mark.data? = some name ∧ sources.Has around name field) ∨
    ∃ facet, mark.facet? = some facet ∧ field ∈ facet.texts "groupby"

/-- Whether the fields that a domain is read from are there. -/
def DomainHas (around : List Members) (domain : Members) : Prop :=
  ∀ source, domain.text? "data" = some source →
    ∀ field ∈ domain.texts "field" ++ domain.texts "fields", sources.Has around source field

/-- Whether the fields that the domain of a scale is read from are there. -/
def ScaleHas (around : List Members) (scale : Members) : Prop :=
  ∀ domain, scale.map? "domain" = some domain → sources.DomainHas around domain

/-- Whether the fields that marks read are there: in their own channels, in the facets that groups
stand for, and in the scales of groups. The signals and ranges of a group are computed without
rows. -/
structure MarksHave (marks : List Value) : Prop where
  read : ∀ {around mark}, Stands marks around mark →
    ∀ field ∈ mark.fieldsRead, sources.DrawnOver around mark field
  facets : ∀ {around group}, Stands marks around group → ∀ facet, group.facet? = some facet →
    ∃ source, facet.text? "data" = some source ∧
      ∀ field ∈ facet.texts "groupby", sources.Has around source field
  scales : ∀ {around group}, Stands marks around group →
    ∀ scale ∈ group.maps "scales", sources.ScaleHas (group :: around) scale
  signals : ∀ {around group}, Stands marks around group →
    ∀ formula ∈ group.signalFormulas ++ (group.maps "scales").flatMap Members.rangeFormulas,
      datumFields formula = []

end SourceFields

/-! ## Computed sources -/

namespace Members

/-- The fields that a step reads. -/
def stepFields (step : Members) : List String :=
  ["field", "fields", "groupby", "x", "y"].flatMap step.texts
    ++ ((step.map? "sort").elim [] (·.texts "field"))
    ++ (step.texts "expr").flatMap datumFields

/-- The fields after a step. -/
def fieldsAfter (step : Members) (fields : String → Prop) (field : String) : Prop :=
  match step.text? "type" with
  | some "aggregate" | some "loess" | some "kde" =>
      field ∈ step.texts "as" ∨ field ∈ step.texts "groupby"
  | some "regression" =>
      field ∈ step.texts "x" ∨ field ∈ step.texts "y" ∨ field ∈ step.texts "groupby"
  | some "lookup" => fields field ∨ field ∈ step.texts "values"
  | _ => fields field ∨ field ∈ step.texts "as"

end Members

namespace SourceFields

variable (sources : SourceFields)

/-- Whether the fields that steps read are there, in the rows at hand and in the source that a step
looks into. -/
def StepsHave : (String → Prop) → List Members → Prop
  | _, [] => True
  | fields, step :: rest =>
      (∀ field ∈ step.stepFields, fields field) ∧
        (∀ source, step.text? "from" = some source →
          ∀ field ∈ step.texts "key" ++ step.texts "values", sources.Has [] source field) ∧
        StepsHave (step.fieldsAfter fields) rest

end SourceFields

namespace DataSource

variable (source : DataSource)

/-- The source that a computed one starts from. -/
def origin? : Option String := source.body.text? "source"

def steps : List Members := source.body.maps "transform"

def rows : List Members := source.body.maps "values"

/-- The fields of a source: those after all steps, or those of all its rows. -/
def fields (sources : SourceFields) (field : String) : Prop :=
  match source.origin? with
  | some origin =>
      source.steps.foldl (fun fields step => step.fieldsAfter fields) (sources.Has [] origin) field
  | none => ∀ row ∈ source.rows, row.contains field = true

end DataSource

namespace SourceFields

/-- The fields of sources that are listed one after the other. -/
def listed (sources : SourceFields) (list : List DataSource) : SourceFields :=
  list.foldl (fun sources source => sources ++ [(source.name, source.fields sources)]) sources

/-- Whether computed sources find the fields that their steps read. -/
def ListHas (sources : SourceFields) : List DataSource → Prop
  | [] => True
  | source :: rest =>
      (∀ origin, source.origin? = some origin →
        sources.StepsHave (sources.Has [] origin) source.steps) ∧
        ListHas (sources.listed [source]) rest

end SourceFields

end ChartCompiler
