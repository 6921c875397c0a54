import ChartCompiler.Proofs.Drawing.Content
import ChartCompiler.Proofs.Expression.Fields
import ChartCompiler.Scale.Table
import Mathlib.Data.List.Forall2

/-!
# Fitting drawings

A drawing fits its surroundings if everything it refers to is there: the scales that places and
expressions name, bands where bands are asked for, and the fields that are read, in the data
source they are read from. Fields with labels are placed in bands only.
-/

namespace ChartCompiler

/-- The rows of a data source as layers know them: the fields they have, and those among the fields
that hold labels of the table. -/
structure Columns where
  fields : List String
  labels : List String

def Columns.none : Columns := ⟨[], []⟩

/-- What a mark may refer to. -/
structure Environment where
  style : Style
  scales : List String
  /-- The scales with bands. -/
  bands : List String
  sources : List (String × Columns)

section

variable (environment : Environment) (columns : Columns)

/-! ## Expressions and encodings -/

/-- Whether a field can be placed by a scale. -/
structure Environment.Places (scale : ScaleName) (field : String) : Prop where
  word : Expr.isField field = true
  held : field ∈ columns.fields
  declared : scale.text ∈ environment.scales
  banded : field ∈ columns.labels → scale.text ∈ environment.bands

def Expr.Fits : Expr → Prop
  | .number _ | .whole _ | .extent _ | .random => True
  | .text content => Expr.isClear (.text content) = true
  | .datum field => Expr.isField field = true ∧ field ∈ columns.fields
  | .scaled scale argument => argument.Fits ∧ scale.text ∈ environment.scales
  | .bandwidth scale => scale.text ∈ environment.bands
  | .apply _ argument => argument.Fits
  | .combine _ first second | .binary _ first second | .pair first second =>
      first.Fits ∧ second.Fits

/-- Whether an expression that reads labels calls scales with bands only. -/
def Expr.PlacesLabels (expression : Expr) : Prop :=
  ∀ field ∈ expression.fieldsRead, field ∈ columns.labels →
    expression.calls ["scale".toList] ⊆ environment.bands

/-- Whether an encoding fits. The color scale shows the color group and nothing else. -/
def Encoding.Fits : Encoding → Prop
  | .constant value => environment.style.Knows value
  | .signal expression =>
      expression.Fits environment columns ∧ expression.PlacesLabels environment columns
  | .field scale name =>
      environment.Places columns scale name ∧ (scale = .color → name = "color")
  | .inBand scale name _ =>
      environment.Places columns scale name ∧ scale.text ∈ environment.bands ∧ scale ≠ .color
  | .place scale _ => scale.text ∈ environment.scales ∧ scale ≠ .color
  | .bandShare scale _ => scale.text ∈ environment.bands ∧ scale ≠ .color

/-! ## Marks -/

/-- The rows that a mark is drawn over; a mark without a source is drawn once, over nothing. -/
def Environment.rowsOf? : Option String → Option Columns
  | some source => environment.sources.lookup source
  | none => some .none

/-- Whether a mark fits when it is drawn over some rows. -/
structure Mark.FitsOver (mark : Mark) : Prop where
  read : environment.rowsOf? mark.source = some columns
  encodings : ∀ encoding ∈ mark.encodings, encoding.Fits environment columns
  sort : ∀ order ∈ mark.sort, order.Fits environment columns

structure Mark.Fits (mark : Mark) : Prop where
  name : ∀ word ∈ mark.name, Expr.isField word = true
  source : ∀ word ∈ mark.source, Expr.isField word = true
  onRows : ∃ columns, mark.FitsOver environment columns

/-! ## Scales and axes -/

/-- Whether the fields of a domain are there. -/
def ScaleDomain.Fits : ScaleDomain → Prop
  | .field source name _ => Expr.isField source = true ∧ Expr.isField name = true ∧
      ∃ columns, environment.sources.lookup source = some columns ∧ name ∈ columns.fields
  | .fields source names => Expr.isField source = true ∧ (∀ name ∈ names, Expr.isField name = true) ∧
      ∃ columns, environment.sources.lookup source = some columns ∧ names ⊆ columns.fields
  | .labels _ => True
  | .given _ => False

def ScaleRange.Fits : ScaleRange → Prop
  | .extent _ => True
  | .colors items => ∀ item ∈ items, environment.style.Knows item
  | .signal expression | .upTo expression | .downFrom expression =>
      expression.Fits environment .none
  | .given _ => False

structure Scale.Fits (scale : Scale) : Prop where
  domain : scale.domain.Fits environment
  range : scale.range.Fits environment

structure Axis.Fits (axis : Axis) : Prop where
  clear : axis.isClear = true
  declared : axis.scale.text ∈ environment.scales

/-! ## Groups -/

structure Facet.FitsOver (facet : Facet) : Prop where
  name : Expr.isField facet.name = true
  source : Expr.isField facet.source = true
  words : ∀ word ∈ facet.groupby, Expr.isField word = true
  read : environment.sources.lookup facet.source = some columns
  groupby : facet.groupby ⊆ columns.fields
  fresh : facet.name ∉ environment.sources.map (·.1)

namespace Group

variable (group : Group)

/-- The bands that a group declares for itself. -/
def declaredBands : List String :=
  (group.scales.filter (·.scale.kind = .banded)).map (·.scale.name)

/-- What the marks of a group may refer to, if the group repeats them for parts of some rows. -/
def inside : Environment :=
  { style := environment.style
    scales := group.declared ++ environment.scales
    bands := group.declaredBands ++ environment.bands
    sources := environment.sources ++ group.facet.toList.map fun facet => (facet.name, columns) }

/-- The fields that a group itself is drawn with. -/
def ownColumns : Columns :=
  match group.facet with
  | some facet => ⟨facet.groupby, columns.labels⟩
  | none => .none

/-- Whether a group fits when it is drawn over parts of some rows. -/
structure FitsOver : Prop where
  name : Expr.isField group.name = true
  facet : ∀ facet ∈ group.facet, facet.FitsOver environment columns
  own : ∀ name ∈ group.declared, name ∉ environment.scales
  once : group.declared.Nodup
  clear : ∀ declaration ∈ group.scales, declaration.scale.isClear = true
  encodings : ∀ encoding ∈ group.encodings,
    encoding.Fits environment (group.ownColumns columns)
  signals : ∀ signal ∈ group.signals, Expr.isField signal.1 = true ∧
    signal.2.Fits (group.inside environment columns) .none
  scales : ∀ declaration ∈ group.scales,
    declaration.scale.Fits (group.inside environment columns)
  axes : ∀ axis ∈ group.axes, axis.Fits (group.inside environment columns)
  marks : ∀ mark ∈ group.marks, mark.Fits (group.inside environment columns)

end Group

def Graphic.Fits : Graphic → Prop
  | .mark content => content.Fits environment
  | .group content => ∃ columns, content.FitsOver environment columns

end

/-! ## What is read in fitting expressions -/

section

variable {environment : Environment} {columns : Columns} {expression : Expr}

theorem Expr.Fits.isClear (fits : expression.Fits environment columns) :
    expression.isClear = true := by
  induction expression with
  | number _ | whole _ | extent _ | random | bandwidth _ => rfl
  | text _ => exact fits
  | datum _ => exact fits.1
  | scaled _ argument induction => exact induction fits.1
  | apply _ argument induction => exact induction fits
  | combine _ first second firstInduction secondInduction
  | binary _ first second firstInduction secondInduction
  | pair first second firstInduction secondInduction =>
      exact Bool.and_eq_true_iff.mpr ⟨firstInduction fits.1, secondInduction fits.2⟩

theorem Expr.Fits.fieldsRead (fits : expression.Fits environment columns) :
    expression.fieldsRead ⊆ columns.fields := by
  induction expression with
  | number _ | whole _ | extent _ | random | text _ | bandwidth _ => exact List.nil_subset _
  | datum name => exact List.cons_subset.mpr ⟨fits.2, List.nil_subset _⟩
  | scaled _ argument induction => exact induction fits.1
  | apply _ argument induction => exact induction fits
  | combine _ first second firstInduction secondInduction
  | binary _ first second firstInduction secondInduction
  | pair first second firstInduction secondInduction =>
      exact List.append_subset.mpr ⟨firstInduction fits.1, secondInduction fits.2⟩

theorem Expr.Fits.datumFields (fits : expression.Fits environment columns) :
    datumFields expression.toText ⊆ columns.fields := by
  rw [Expr.datumFields_toText expression fits.isClear]
  exact fits.fieldsRead

end

/-! ## Larger surroundings -/

/-- Whether an environment has what another one has, apart from its data sources. -/
structure Environment.Within (fewer more : Environment) : Prop where
  style : fewer.style = more.style
  scales : fewer.scales ⊆ more.scales
  bands : fewer.bands ⊆ more.bands

section

variable {fewer more : Environment} {columns : Columns}

theorem Environment.Places.mono (within : fewer.Within more) {scale : ScaleName} {field : String}
    (places : fewer.Places columns scale field) : more.Places columns scale field :=
  ⟨places.word, places.held, within.scales places.declared,
    fun labelled => within.bands (places.banded labelled)⟩

theorem Expr.Fits.mono (within : fewer.Within more) {expression : Expr}
    (fits : expression.Fits fewer columns) : expression.Fits more columns := by
  induction expression with
  | number _ | whole _ | extent _ | random => trivial
  | text _ | datum _ => exact fits
  | bandwidth scale => exact within.bands fits
  | scaled scale argument induction => exact ⟨induction fits.1, within.scales fits.2⟩
  | apply _ argument induction => exact induction fits
  | combine _ first second firstInduction secondInduction
  | binary _ first second firstInduction secondInduction
  | pair first second firstInduction secondInduction =>
      exact ⟨firstInduction fits.1, secondInduction fits.2⟩

theorem Encoding.Fits.mono (within : fewer.Within more) {encoding : Encoding}
    (fits : encoding.Fits fewer columns) : encoding.Fits more columns := by
  cases encoding with
  | constant value =>
      change more.style.Knows value
      rw [← within.style]
      exact fits
  | signal expression =>
      exact ⟨fits.1.mono within, fun field read labelled =>
        List.Subset.trans (fits.2 field read labelled) within.bands⟩
  | field scale name => exact ⟨fits.1.mono within, fits.2⟩
  | inBand scale name share => exact ⟨fits.1.mono within, within.bands fits.2.1, fits.2.2⟩
  | place scale value => exact ⟨within.scales fits.1, fits.2⟩
  | bandShare scale share => exact ⟨within.bands fits.1, fits.2⟩

/-- A source that is added under a new name is found there. -/
theorem List.lookup_append_of_notMem {entries : List (String × Columns)} {name : String}
    {columns : Columns} (fresh : name ∉ entries.map (·.1)) :
    (entries ++ [(name, columns)]).lookup name = some columns := by
  have missing : entries.lookup name = none := by
    refine List.lookup_eq_none_iff.mpr fun entry inside => bne_iff_ne.mpr fun same => fresh ?_
    exact List.mem_map.mpr ⟨entry, inside, same.symm⟩
  rw [List.lookup_append, missing]
  exact List.lookup_cons_self

theorem Group.within_inside (group : Group) (environment : Environment) (columns : Columns) :
    environment.Within (group.inside environment columns) :=
  ⟨rfl, List.subset_append_right _ _, List.subset_append_right _ _⟩

end

/-! ## Pipelines -/

section

variable (fields : List String)

/-- Whether an expression reads only some fields, and no scales. -/
def Expr.ReadsOnly (expression : Expr) (fields : List String) : Prop :=
  expression.Fits ⟨{}, [], [], []⟩ ⟨fields, []⟩

/-- The fields after a step. -/
def Transform.fieldsAfter : Transform → List String
  | .formula _ name => fields ++ [name]
  | .filter _ => fields
  | .bin _ _ names => fields ++ names
  | .aggregate groupby summaries => groupby ++ summaries.map (·.name)
  | .joinAggregate summaries _ => fields ++ summaries.map (·.name)
  | .rank _ name _ => fields ++ [name]
  | .stack _ _ _ low high => fields ++ [low, high]
  | .regression _ groupby => ["x", "y"] ++ groupby
  | .loess _ x y groupby => [x, y] ++ groupby
  | .density _ _ _ _ groupby | .groupDensity groupby _ _ _ _ => ["value", "density"] ++ groupby
  | .lookup _ _ taken => fields ++ taken
  | .flatten _ name => fields ++ [name]

/-- Whether the fields that a step reads are there. -/
def Transform.Fits (sources : List (String × Columns)) : Transform → Prop
  | .formula expression _ => expression.ReadsOnly fields
  | .filter condition => condition.ReadsOnly fields
  | .bin field _ _ => field ∈ fields
  | .aggregate groupby summaries | .joinAggregate summaries groupby =>
      groupby ⊆ fields ∧ ∀ summary ∈ summaries, ∀ field ∈ summary.field, field ∈ fields
  | .rank order _ groupby => order ∈ fields ∧ groupby ⊆ fields
  | .stack groupby field order _ _ => groupby ⊆ fields ∧ field ∈ fields ∧ order ∈ fields
  | .regression _ groupby | .loess _ _ _ groupby => "x" ∈ fields ∧ "y" ∈ fields ∧ groupby ⊆ fields
  | .density field _ _ _ groupby | .groupDensity groupby field _ _ _ =>
      field ∈ fields ∧ groupby ⊆ fields
  | .lookup source key taken => key ∈ fields ∧
      ∃ other, sources.lookup source = some other ∧ key ∈ other.fields ∧ taken ⊆ other.fields
  | .flatten field _ => field ∈ fields

@[simp] theorem Transform.fits_formula {sources : List (String × Columns)} {expression : Expr}
    {name : String} :
    (Transform.formula expression name).Fits fields sources ↔ expression.ReadsOnly fields := Iff.rfl

/-- Whether the steps of a pipeline fit, one after the other. -/
def stepsFit (sources : List (String × Columns)) (fields : List String) :
    List Transform → Prop
  | [] => True
  | step :: rest => step.Fits fields sources ∧ stepsFit sources (step.fieldsAfter fields) rest

end

section

variable {fields : List String} {sources : List (String × Columns)}

theorem stepsFit_append : ∀ {fields : List String} {steps more : List Transform},
    stepsFit sources fields (steps ++ more) ↔ stepsFit sources fields steps ∧ stepsFit sources
      (steps.foldl (fun fields step => step.fieldsAfter fields) fields) more
  | _, [], _ => by simp [stepsFit]
  | _, _ :: _, _ => by simp only [List.cons_append, stepsFit, List.foldl_cons, stepsFit_append, and_assoc]

end

namespace Expr

variable {fields : List String} {first second : Expr}

@[simp] theorem readsOnly_datum {name : String} :
    (datum name).ReadsOnly fields ↔ isField name = true ∧ name ∈ fields := Iff.rfl

@[simp] theorem readsOnly_number {value : Binary64} : (number value).ReadsOnly fields := trivial

@[simp] theorem readsOnly_whole {value : Int} : (whole value).ReadsOnly fields := trivial

@[simp] theorem readsOnly_text {content : String} :
    (text content).ReadsOnly fields ↔ (text content).isClear = true := Iff.rfl

@[simp] theorem readsOnly_apply {function : UnaryFunction} :
    (apply function first).ReadsOnly fields ↔ first.ReadsOnly fields := Iff.rfl

@[simp] theorem readsOnly_combine {function : BinaryFunction} :
    (combine function first second).ReadsOnly fields ↔
      first.ReadsOnly fields ∧ second.ReadsOnly fields := Iff.rfl

@[simp] theorem readsOnly_binary {operator : Operator} :
    (binary operator first second).ReadsOnly fields ↔
      first.ReadsOnly fields ∧ second.ReadsOnly fields := Iff.rfl

@[simp] theorem readsOnly_add :
    (first + second).ReadsOnly fields ↔ first.ReadsOnly fields ∧ second.ReadsOnly fields := Iff.rfl

@[simp] theorem readsOnly_sub :
    (first - second).ReadsOnly fields ↔ first.ReadsOnly fields ∧ second.ReadsOnly fields := Iff.rfl

@[simp] theorem readsOnly_mul :
    (first * second).ReadsOnly fields ↔ first.ReadsOnly fields ∧ second.ReadsOnly fields := Iff.rfl

@[simp] theorem readsOnly_div :
    (first / second).ReadsOnly fields ↔ first.ReadsOnly fields ∧ second.ReadsOnly fields := Iff.rfl

end Expr

namespace Pipeline

variable (columns : Columns) (pipeline : Pipeline)

/-- The rows after all steps. Labels keep their names if they are kept at all. -/
def columnsAfter : Columns :=
  ⟨pipeline.steps.foldl (fun fields step => step.fieldsAfter fields) columns.fields,
    columns.labels⟩

/-- The data sources with that of a pipeline added. -/
def extend (sources : List (String × Columns)) : List (String × Columns) :=
  sources ++ [(pipeline.name, pipeline.columnsAfter
    ((sources.lookup pipeline.source).getD .none))]

def Fits (sources : List (String × Columns)) : Prop :=
  ∃ columns, sources.lookup pipeline.source = some columns ∧
    stepsFit sources columns.fields pipeline.steps

end Pipeline

def pipelinesFit (sources : List (String × Columns)) : List Pipeline → Prop
  | [] => True
  | pipeline :: rest => pipeline.Fits sources ∧ pipelinesFit (pipeline.extend sources) rest

/-! ## Drawings -/

/-- The scales that are declared for a whole chart, not for a group. -/
def ScaleName.shared : List String :=
  [ScaleName.x, .y, .color, .colorOffset, .heat, .violinWidth].map ScaleName.text

namespace Table

variable (table : Table)

/-- The fields that hold labels. -/
def labelFields : List String :=
  (if table.xIsNumeric then [] else ["x"]) ++ if table.yIsNumeric then [] else ["y"]

/-- The fields of the rows. -/
def fields : List String :=
  ["x", "y"] ++ (if table.hasColorGroup then ["color"] else [])
    ++ if table.hasInterval then ["ymin", "ymax"] else []

def columns : Columns := ⟨table.fields, table.labelFields⟩

end Table

/-! ## Rows of their own -/

/-- Whether a row has all members of another one, with the same values. -/
def Members.Extends (row record : Members) : Prop :=
  ∀ name value, record.get? name = some value → row.get? name = some value

/-- Whether rows are those of the table, possibly with further members. -/
def InlineRows.Copy (inline : InlineRows) (table : Table) : Prop :=
  List.Forall₂ Members.Extends inline.rows table.records

/-- What rows of a drawing's own hold. They hold labels if they are those of the table. -/
structure InlineRows.Holds (table : Table) (inline : InlineRows) (columns : Columns) : Prop where
  fields : ∀ row ∈ inline.rows, ∀ field ∈ columns.fields, row.contains field = true
  labels : inline.Copy table → columns.labels = table.labelFields

namespace Drawing

variable (drawing : Drawing) (table : Table) (held : List Columns)

def scaleNames : List String := drawing.scales.map (·.name)

/-- The scales with bands that a drawing declares. -/
def bandNames : List String := (drawing.scales.filter (·.kind = .banded)).map (·.name)

/-- The data sources that pipelines may start from: the table and the drawing's own rows. -/
def givenSources : List (String × Columns) :=
  (tableSource, table.columns) :: (drawing.inline.map (·.name)).zip held

/-- All data sources of a drawing, given what its own rows hold. -/
def sources : List (String × Columns) :=
  drawing.pipelines.foldl (fun sources pipeline => pipeline.extend sources)
    (drawing.givenSources table held)

/-- What the marks of a drawing may refer to. -/
def environment (style : Style) : Environment :=
  { style
    scales := drawing.scaleNames
    bands := drawing.bandNames
    sources := drawing.sources table held }

/-- Whether a drawing fits the table, given what its own rows hold. -/
structure Fits (style : Style) : Prop where
  graphics : ∀ graphic ∈ drawing.graphics, graphic.Fits (drawing.environment table held style)
  scales : ∀ scale ∈ drawing.scales, scale.Fits (drawing.environment table held style)
  axes : ∀ axis ∈ drawing.axes, axis.Fits (drawing.environment table held style)
  pipelines : pipelinesFit (drawing.givenSources table held) drawing.pipelines
  names : drawing.scaleNames.Nodup ∧ drawing.scaleNames ⊆ ScaleName.shared

end Drawing

end ChartCompiler
