import ChartCompiler.Proofs.Layer.Histogram
import ChartCompiler.Proofs.Layer.Lines
import ChartCompiler.Proofs.Layer.Points
import ChartCompiler.Proofs.Layer.Summaries
import ChartCompiler.Proofs.Table.Projection
import ChartCompiler.Proofs.Value.Members

/-!
# All drawings fit

Whatever a layer draws fits the table, and the rows that a drawing brings along hold the fields that
its marks read.
-/

namespace ChartCompiler

open Layer

variable {table : Table} {style : Style} {context : LayerContext}

/-! ## Rows that drawings bring along -/

theorem Members.contains_iff {members : Members} {name : String} :
    members.contains name = true ↔ ∃ value, members.get? name = some value :=
  Option.isSome_iff_exists

theorem Row.get?_color {row : Row} {label : String} (colored : row.color = some label) :
    row.toMembers.get? "color" = some (.text label) := by
  simp [toMembers, colored, Members.optional, Members.get?_cons]

theorem Row.get?_place (row : Row) :
    row.toMembers.get? "x" = some row.x.toValue ∧ row.toMembers.get? "y" = some row.y.toValue := by
  simp [toMembers, Members.get?_cons]

/-- The rows that a displacement brings along are those of the table with offsets. -/
theorem seededRows_holds {displacement : Displacement} {seed spread : Value} {rows : InlineRows}
    (sound : table.Sound) (drawn : displacement.seededRows table seed spread = .ok rows) :
    rows.Holds table (Displacement.seededColumns table) := by
  unfold Displacement.seededRows at drawn
  rcases (bind_eq_ok_iff _ _ _).mp drawn with ⟨offsets, _, equal⟩
  cases equal
  refine ⟨?_, fun _ => rfl⟩
  intro row inside field held
  rcases List.mem_map.mp inside with ⟨⟨record, offset⟩, zipped, rfl⟩
  rcases List.mem_map.mp (List.of_mem_zip zipped).1 with ⟨source, listed, rfl⟩
  rw [Members.contains_iff, Members.get?_append]
  rcases List.mem_append.mp held with held | held
  · rcases List.mem_append.mp held with held | held
    · have place := source.get?_place
      rcases List.mem_cons.mp held with rfl | held
      · exact ⟨_, by rw [place.1]; rfl⟩
      · rw [List.mem_singleton.mp held]
        exact ⟨_, by rw [place.2]; rfl⟩
    · split at held
      · next grouped =>
          rcases sound.color grouped source listed with ⟨label, colored⟩
          rw [List.mem_singleton.mp held, Row.get?_color colored]
          exact ⟨_, rfl⟩
      · cases held
  · rw [List.mem_singleton.mp held]
    cases source.toMembers.get? "jitter" with
    | none => exact ⟨_, Members.get?_cons_self _ _ _⟩
    | some value => exact ⟨value, rfl⟩

/-- Given rows hold the fields that all of them have. -/
theorem givenRows_holds {inline : InlineRows} {fields : List String}
    (given : ∀ row ∈ inline.rows, ∀ field ∈ fields, row.contains field = true) :
    inline.Holds table (givenColumns table fields) := ⟨given, fun _ => rfl⟩

theorem vertices_hold (style : Style) (scales : List Scale) (xs ys : List Binary64)
    {inline : InlineRows} (brought : inline ∈ (vertexPolygon style scales xs ys).inline) :
    ∀ row ∈ inline.rows, ∀ field ∈ ["x", "y"], row.contains field = true := by
  intro row inside
  rw [List.mem_singleton.mp brought] at inside
  rcases List.mem_map.mp inside with ⟨⟨x, y⟩, _, rfl⟩
  simp [Members.contains, List.lookup_cons]

/-- A row of labels is not extended by one of numbers. -/
theorem Row.not_extends {row : Row} {place : Binary64 × Binary64} (labelled :
      (∃ label, row.x = .label label) ∨ ∃ label, row.y = .label label) :
    ¬ Members.Extends [("x", .real place.1), ("y", .real place.2)] row.toMembers := by
  intro copied
  rcases labelled with ⟨label, x⟩ | ⟨label, y⟩
  · have found := copied "x" (.text label) (by rw [row.get?_place.1, x]; rfl)
    simp [Members.get?_cons, Value.real] at found
  · have found := copied "y" (.text label) (by rw [row.get?_place.2, y]; rfl)
    simp [Members.get?_cons, Value.real] at found

/-- Vertices beside rows that are not numeric are not the rows of the table. -/
theorem vertices_not_copy (style : Style) (scales : List Scale) {xs ys : List Binary64}
    {inline : InlineRows} (brought : inline ∈ (vertexPolygon style scales xs ys).inline)
    (sound : table.Sound) (given : xs ≠ [] ∧ ys ≠ [])
    (unplaced : (!table.isEmpty && table.xIsNumeric && table.yIsNumeric) = false) :
    ¬ inline.Copy table := by
  intro copy
  rw [List.mem_singleton.mp brought] at copy
  rcases List.exists_cons_of_ne_nil given.1 with ⟨x, _, rfl⟩
  rcases List.exists_cons_of_ne_nil given.2 with ⟨y, _, rfl⟩
  rcases List.forall₂_cons_left_iff.mp copy with ⟨record, records, first, _, equal⟩
  rcases List.map_eq_cons_iff.mp equal with ⟨row, rows, listed, rfl, _⟩
  have inside : row ∈ table.rows := listed ▸ List.mem_cons_self ..
  have occupied : table.isEmpty = false := by simp [Table.isEmpty, listed]
  refine @Row.not_extends row (x, y) ?_ first
  cases numeric : table.xIsNumeric with
  | false => exact .inl (sound.x numeric row inside)
  | true => exact .inr (sound.y (by simpa [occupied, numeric] using unplaced) row inside)

/-! ## All layers -/

/-- Every drawing fits, given what its own rows hold. -/
theorem Drawn.fits {kind : LayerKind} {drawing : Drawing}
    (drawn : Drawn table context kind drawing) :
    ∃ held, drawing.Fits table held context.style ∧
      (table.Sound → List.Forall₂ (InlineRows.Holds table) drawing.inline held) := by
  cases drawn with
  | empty note =>
      exact ⟨[], ⟨List.forall_mem_nil _, List.forall_mem_nil _, List.forall_mem_nil _, trivial,
        List.nodup_nil, List.nil_subset _⟩, fun _ => .nil⟩
  | points colors rows colored => exact ⟨[], pointsDrawing_fits (by simp) colored, fun _ => .nil⟩
  | jitter colors source inline offset rows colored offsets =>
      refine ⟨_, Displacement.offsets_fit jitterDisplacement_usable colored offsets, fun sound => ?_⟩
      cases offsets with
      | rendered => exact .nil
      | seeded seed spread rows drawn => exact .cons (seededRows_holds sound drawn) .nil
  | swarm colors source inline offset rows colored offsets =>
      refine ⟨_, Displacement.offsets_fit swarmDisplacement_usable colored offsets, fun sound => ?_⟩
      cases offsets with
      | rendered => exact .nil
      | seeded seed spread rows drawn => exact .cons (seededRows_holds sound drawn) .nil
  | line colors rows colored => exact ⟨[], lineDrawing_fits colored, fun _ => .nil⟩
  | raster colors rows colored => exact ⟨[], rasterDrawing_fits colored, fun _ => .nil⟩
  | interval colors rows bounded colored =>
      exact ⟨[], intervalDrawing_fits bounded colored, fun _ => .nil⟩
  | abline colors extent slope intercept spanned colored =>
      refine ⟨_, ablineDrawing_fits colored _, fun _ => .cons (givenRows_holds ?_) .nil⟩
      simp [ablineRows, Members.contains]
  | rowVlines colors rows colored => exact ⟨[], verticalRowRules_fits colored, fun _ => .nil⟩
  | valueVlines colors values given numeric colored =>
      refine ⟨_, verticalValueRules_fits colored values, fun _ => .cons (givenRows_holds ?_) .nil⟩
      simp [verticalRules, Members.contains]
  | rowHlines colors rows colored => exact ⟨[], horizontalRowRules_fits colored, fun _ => .nil⟩
  | valueHlines colors values given numeric colored =>
      refine ⟨_, horizontalValueRules_fits colored values, fun _ => .cons (givenRows_holds ?_) .nil⟩
      simp [horizontalRules, Members.contains]
  | placedPolygon colors xs ys given rows numeric colored =>
      exact ⟨_, placedPolygon_fits colored xs ys, fun _ =>
        .cons (givenRows_holds (vertices_hold context.style [] xs ys (List.mem_cons_self ..))) .nil⟩
  | freePolygon xs ys given unplaced =>
      exact ⟨_, freePolygon_fits xs ys, fun sound => .cons
        ⟨vertices_hold context.style [] xs ys (List.mem_cons_self ..), fun copy => absurd copy
          (vertices_not_copy context.style [] (List.mem_cons_self ..) sound given unplaced)⟩ .nil⟩
  | rowPolygon colors rows numeric colored => exact ⟨[], rowPolygon_fits colored, fun _ => .nil⟩
  | bars colors rows numeric colored => exact ⟨[], barsDrawing_fits colored, fun _ => .nil⟩
  | unfitted colors note rows colored =>
      exact ⟨[], pointsDrawing_fits (by simp) colored, fun _ => .nil⟩
  | regression colors method rows numeric colored =>
      exact ⟨[], regressionDrawing_fits colored method, fun _ => .nil⟩
  | glm colors method rows numeric colored =>
      exact ⟨[], glmDrawing_fits colored method, fun _ => .nil⟩
  | fit colors method rows numeric colored =>
      exact ⟨[], fitDrawing_fits colored method, fun _ => .nil⟩
  | smooth colors bandwidth rows numeric colored =>
      exact ⟨[], smoothDrawing_fits colored bandwidth, fun _ => .nil⟩
  | histogram colors bins rows numeric colored =>
      exact ⟨[], histogramDrawing_fits colored bins, fun _ => .nil⟩
  | heatmap xBins yBins rows numeric =>
      exact ⟨[], heatmapDrawing_fits xBins yBins numeric, fun _ => .nil⟩
  | corner colors bins rows numeric colored =>
      exact ⟨[], cornerDrawing_fits colored bins, fun _ => .nil⟩
  | density colors bandwidth steps extent rows numeric colored =>
      exact ⟨[], densityDrawing_fits colored bandwidth steps extent, fun _ => .nil⟩
  | violin colors bandwidth steps extent rows numeric colored =>
      exact ⟨[], violinDrawing_fits colored bandwidth steps extent, fun _ => .nil⟩
  | boxplot colors factor rows numeric colored =>
      exact ⟨[], boxplotDrawing_fits colored factor, fun _ => .nil⟩
  | means colors z rows numeric colored => exact ⟨[], meansDrawing_fits colored z, fun _ => .nil⟩
  | quantiles colors rows numeric colored =>
      exact ⟨[], quantilesDrawing_fits colored, fun _ => .nil⟩
  | ellipse colors points angle radius rows numeric colored =>
      exact ⟨[], ellipseDrawing_fits colored points angle radius, fun _ => .nil⟩

end ChartCompiler
