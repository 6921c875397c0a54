import ChartCompiler.Proofs.Document.Reading
import ChartCompiler.Proofs.Scale.Table
import ChartCompiler.Proofs.Value.Members

/-!
# Domains of scales

What the domain of a scale is read from, as a document states it: some fields of a data source, or
nothing if the domain lists its labels. The scales over a table read one field each.
-/

namespace ChartCompiler

namespace Scale

variable {scale : Scale}

/-- The domain of a scale if it is read from a data source. -/
def domain? (scale : Scale) : Option Members := scale.toMembers.map? "domain"

/-- The data source that the domain of a scale is read from. -/
def source? (scale : Scale) : Option String := scale.domain?.bind (·.text? "data")

/-- The fields that the domain of a scale is read from. -/
def fieldsRead (scale : Scale) : List String :=
  scale.domain?.elim [] fun domain => domain.texts "field" ++ domain.texts "fields"

theorem domain?_eq (scale : Scale) : scale.domain? = scale.domain.toValue.map? := by
  simp [domain?, Members.map?, toMembers, Members.get?_cons]

/-- Whether the domain of a scale is read from some fields of a data source. -/
structure Reads (scale : Scale) (source : String) (fields : List String) : Prop where
  source : scale.source? = some source
  fields : scale.fieldsRead = fields

theorem reads_field {source field : String} {sorted : Bool}
    (domain : scale.domain = .field source field sorted) : scale.Reads source [field] := by
  constructor
  · rw [source?, domain?_eq, domain]
    rfl
  · rw [fieldsRead, domain?_eq, domain]
    cases sorted <;> rfl

theorem reads_fields {source : String} {fields : List String}
    (domain : scale.domain = .fields source fields) : scale.Reads source fields := by
  constructor
  · rw [source?, domain?_eq, domain]
    rfl
  · rw [fieldsRead, domain?_eq, domain]
    change (fields.map Value.text).filterMap Value.text? = fields
    rw [List.filterMap_map]
    exact List.filterMap_some

/-- What is read depends on nothing but the domain. -/
theorem Reads.of_domain {other : Scale} {source : String} {fields : List String}
    (reads : other.Reads source fields) (same : scale.domain = other.domain) :
    scale.Reads source fields := by
  have domain : scale.domain? = other.domain? := by rw [domain?_eq, domain?_eq, same]
  constructor
  · rw [source?, domain, ← source?, reads.source]
  · rw [fieldsRead, domain, ← fieldsRead, reads.fields]

theorem source?_labels {items : List String} (domain : scale.domain = .labels items) :
    scale.source? = none := by
  rw [source?, domain?_eq, domain]
  rfl

end Scale

namespace Table

variable (table : Table) (source field : String)

theorem xScale_reads (role : AxisRole) (forceBand : Bool) (padding : Option Value) :
    (table.xScale source field role forceBand padding).Reads source [field] := by
  unfold xScale
  split
  · exact Scale.reads_field rfl
  · exact Scale.reads_field rfl

theorem yScaleOf_reads (continuous : Bool) (padding : Option Value) :
    (yScaleOf source field continuous padding).Reads source [field] := by
  unfold yScaleOf
  split
  · exact Scale.reads_field rfl
  · exact Scale.reads_field rfl

theorem colors_source {table : Table} {style : Style} {colors : List Scale}
    (colored : table.groupColorScale style = .ok colors) :
    ∀ scale ∈ colors, scale.source? = none := by
  rcases groupColorScale_cases colored with ⟨_, rfl⟩ | ⟨_, items, _, rfl⟩
  · exact List.forall_mem_nil _
  · exact List.forall_mem_singleton.mpr (Scale.source?_labels rfl)

/-- The scales of the axes read the data source that they are made for. -/
theorem placeScales_source {style : Style} {colors : List Scale} {table : Table} {source : String}
    (colored : table.groupColorScale style = .ok colors) (role : AxisRole) (forceBand : Bool) :
    ∀ scale ∈ table.placeScales colors role forceBand source,
      ∀ read ∈ scale.source?, read = source := by
  refine List.forall_mem_cons.mpr ⟨?_, List.forall_mem_cons.mpr ⟨?_, ?_⟩⟩
  · rw [(table.xScale_reads source "x" role forceBand _).source]
    exact fun read same => (Option.some.inj same).symm
  · rw [yScale, (yScaleOf_reads source "y" _ _).source]
    exact fun read same => (Option.some.inj same).symm
  · intro scale inside
    rw [colors_source colored scale inside]
    exact nofun

end Table

end ChartCompiler
