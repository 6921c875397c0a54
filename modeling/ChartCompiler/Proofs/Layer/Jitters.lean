import ChartCompiler.Layer.Drawing
import ChartCompiler.Proofs.Layer.Defaults
import ChartCompiler.Proofs.Random.Offsets
import ChartCompiler.Proofs.Table.Projection

/-!
# Displaced symbols with offsets from a seed

With a seed, a layer of displaced symbols brings along the rows of the table, each with its offset.
The offsets are those of the seed, whatever the rows are, so layers with one seed and one spread
displace their first rows alike.
-/

namespace ChartCompiler

open Layer

/-! ## Displaced layers -/

/-- How a layer displaces its symbols, if it does. -/
def LayerKind.displacement? (kind : LayerKind) (table : Table) (style : Style) :
    Option Displacement :=
  match kind with
  | .jitter => some (jitterDisplacement table style)
  | .swarm => some (swarmDisplacement style)
  | _ => none

namespace Layer.Displacement

/-- What symbols are spread over: a share of a band, which is a parameter of the layer, or some
pixels. -/
def spread (displacement : Displacement) (context : LayerContext) (parameters : Members) : Value :=
  if displacement.banded then .real (parameters.realOr "width" defaultWidth)
  else context.style.jitterPixels

/-- The rows of a table, each with an offset. -/
def displacedRows (displacement : Displacement) (table : Table) (offsets : List Binary64) :
    InlineRows :=
  { name := displacement.seededSource
    rows := List.zipWith (fun record offset => record ++ [("jitter", .real offset)])
      table.records offsets }

end Layer.Displacement

/-- A layer of displaced symbols that is drawn over some rows, with a seed and a spread that is one
number. -/
structure SeededLayer (seed : Value) (spread : Binary64) where
  kind : LayerKind
  table : Table
  context : LayerContext
  parameters : Members
  displacement : Displacement
  drawing : Drawing
  displaced : kind.displacement? table context.style = some displacement
  filled : table.isEmpty = false
  seeded : context.jitterSeed = some seed
  number : Random.factorOf (displacement.spread context parameters) = .ok spread
  returned : (kind.draw table context parameters).Returns drawing

/-! ## Their offsets -/

theorem LayerKind.draw_of_displacement {kind : LayerKind} {table : Table} {context : LayerContext}
    {displacement : Displacement}
    (displaced : kind.displacement? table context.style = some displacement)
    (filled : table.isEmpty = false) (parameters : Members) :
    kind.draw table context parameters = displacement.draw table context parameters := by
  cases kind with
  | jitter =>
      cases displaced
      exact if_neg (by simp [filled])
  | swarm =>
      cases displaced
      exact if_neg (by simp [filled])
  | _ => cases displaced

/-- The rows that a seed and a spread of one number give. -/
theorem Layer.Displacement.seededRows_of_number {displacement : Displacement} {table : Table}
    {seed spread : Value} {factor : Binary64} {rows : InlineRows}
    (number : Random.factorOf spread = .ok factor)
    (drawn : displacement.seededRows table seed spread = .ok rows) :
    ∃ generator, Random.Generator.ofSeed seed = .ok generator ∧
      rows = displacement.displacedRows table (generator.spread table.rows.length factor) := by
  unfold seededRows at drawn
  rw [Random.offsets_of_number number] at drawn
  rcases (bind_eq_ok_iff _ _ _).mp drawn with ⟨offsets, spread, equal⟩
  cases generated : Random.Generator.ofSeed seed with
  | error failure =>
      rw [generated] at spread
      cases spread
  | ok generator =>
      rw [generated] at spread
      cases spread
      cases equal
      refine ⟨generator, rfl, ?_⟩
      unfold displacedRows
      rw [List.zip, List.map_zipWith]

namespace SeededLayer

variable {seed : Value} {spread : Binary64}

/-- The rows that a layer brings along have the offsets of the seed. -/
theorem exists_inline (layer : SeededLayer seed spread) :
    ∃ generator, Random.Generator.ofSeed seed = .ok generator ∧
      layer.drawing.inline = [layer.displacement.displacedRows layer.table
        (generator.spread layer.table.rows.length spread)] := by
  have returned := layer.returned
  rw [LayerKind.draw_of_displacement layer.displaced layer.filled] at returned
  unfold Displacement.draw at returned
  simp only [Run.returns_bind, Run.returns_lift, Run.returns_pure] at returned
  rcases returned with ⟨width, used, ⟨source, inline, offset⟩, drawn, colors, _, equal⟩
  have taken := (layer.parameters.realParameter_settles "width"
    Displacement.defaultWidth).eq_of_returns used
  unfold Displacement.offsetOf at drawn
  rw [layer.seeded, taken] at drawn
  rcases (bind_eq_ok_iff _ _ _).mp drawn with ⟨rows, carried, same⟩
  rcases Displacement.seededRows_of_number layer.number carried with ⟨generator, generated, rfl⟩
  cases same
  exact ⟨generator, generated, equal ▸ rfl⟩

/-- A seeded layer brings along the rows of the table in their order, each with its offset, which is
an exact share of the spread rounded once. Another layer with the seed and the spread, over no fewer
rows, begins with the same offsets. -/
theorem inline_displaced (layer : SeededLayer seed spread) :
    ∃ offsets : List Binary64,
      layer.drawing.inline = [layer.displacement.displacedRows layer.table offsets] ∧
      offsets.length = layer.table.rows.length ∧
      (∀ offset ∈ offsets, ∃ outcome < 2 ^ 53, Random.IsOffset outcome spread offset) ∧
      ∀ longer : SeededLayer seed spread, layer.table.rows.length ≤ longer.table.rows.length →
        ∃ further : List Binary64,
          longer.drawing.inline
            = [longer.displacement.displacedRows longer.table (offsets ++ further)] ∧
          (offsets ++ further).length = longer.table.rows.length := by
  rcases layer.exists_inline with ⟨generator, generated, inline⟩
  refine ⟨generator.spread layer.table.rows.length spread, inline, generator.spread_length spread _,
    generator.spread_isOffset spread _, fun longer more => ?_⟩
  rcases longer.exists_inline with ⟨again, sameSeed, others⟩
  rcases Except.ok.inj (sameSeed.symm.trans generated) with rfl
  rcases again.spread_fewer spread more with ⟨further, appended⟩
  refine ⟨further, ?_, ?_⟩
  · rw [others, ← appended]
  · rw [appended, again.spread_length]

end SeededLayer

/-- The table of two color groups with one more row. -/
def extendedTable : Table :=
  { groupedTable with
    rows := groupedTable.rows ++ [{ x := .label "a", y := .number 3.0, color := some "g" }] }

/-- The context of a seed. -/
def seededContext : LayerContext := { style := {}, jitterSeed := some (.whole 5) }

/-- Half of the band. -/
def halfWidth : Members := [("width", .real 0.5)]

theorem SeededLayer.exists_grouped :
    ∃ layer longer : SeededLayer (.whole 5) 0.5,
      (layer.kind = .jitter ∧ layer.table = groupedTable) ∧
      (longer.kind = .swarm ∧ longer.table = extendedTable) ∧
      ∃ offsets further : List Binary64,
        (offsets.length = 2 ∧ ∀ offset ∈ offsets, ∃ outcome < 2 ^ 53,
          Random.IsOffset outcome 0.5 offset) ∧
        layer.drawing.inline = [layer.displacement.displacedRows groupedTable offsets] ∧
        longer.drawing.inline
          = [longer.displacement.displacedRows extendedTable (offsets ++ further)] := by
  have first : ∃ drawing, (LayerKind.jitter.draw groupedTable seededContext halfWidth).Returns
      drawing ∧ drawing.inline.length = 1 := by decide +kernel
  have second : ∃ drawing, (LayerKind.swarm.draw extendedTable seededContext halfWidth).Returns
      drawing ∧ drawing.inline.length = 1 := by decide +kernel
  rcases first with ⟨drawing, returned, _⟩
  rcases second with ⟨other, given, _⟩
  have width : halfWidth.realOr "width" Displacement.defaultWidth = 0.5 :=
    Members.realOr_of_real rfl (by decide +kernel)
  have number : Random.factorOf (.real (halfWidth.realOr "width" Displacement.defaultWidth))
      = .ok 0.5 := width.symm ▸ rfl
  let layer : SeededLayer (.whole 5) 0.5 :=
    { kind := .jitter, table := groupedTable, context := seededContext, parameters := halfWidth
      displacement := jitterDisplacement groupedTable {}, drawing, displaced := rfl, filled := rfl
      seeded := rfl, number, returned }
  let longer : SeededLayer (.whole 5) 0.5 :=
    { kind := .swarm, table := extendedTable, context := seededContext, parameters := halfWidth
      displacement := swarmDisplacement {}, drawing := other, displaced := rfl, filled := rfl
      seeded := rfl, number, returned := given }
  rcases layer.inline_displaced with ⟨offsets, inline, counted, shared, more⟩
  rcases more longer (Nat.le_succ 2) with ⟨further, others, _⟩
  exact ⟨layer, longer, ⟨rfl, rfl⟩, ⟨rfl, rfl⟩, offsets, further, ⟨counted, shared⟩, inline, others⟩

end ChartCompiler
