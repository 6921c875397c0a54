import ChartCompiler.Proofs.Document.Banded
import ChartCompiler.Proofs.Layer.Fits
import ChartCompiler.Proofs.Layer.Ranges
import ChartCompiler.Proofs.Layer.Sources

/-!
# Numbers that layers are given

Reference lines and polygons are drawn over numbers that their parameters give. Where such a number
is placed by an axis, the scale of the axis is continuous, and a layer whose numbers no scale can
place is not drawn. A line `y = intercept + slope * x` is an exception: it is also drawn if y holds
labels, and its ends are then placed on bands.
-/

namespace ChartCompiler

open Layer

/-- The data sources of numbers that parameters give. -/
def numberSources : List String := [ablineSource, "vline_values", "hline_values", vertexSource]

/-- Whether some mark of a drawing places a field of a data source by a scale. -/
def Drawing.Places (drawing : Drawing) (source : String) (scale : ScaleName) : Prop :=
  ∃ around mark, Stands drawing.toFragment.marks around mark ∧
    mark.rowsBehind? around = some source ∧
      ∃ rule ∈ mark.rules, ∃ field, rule.PlacesBy scale.text field

/-- The kinds of the scales with a name among some declarations. -/
def Scale.kindsOf (scales : List Scale) (name : ScaleName) : List ScaleKind :=
  (scales.filter fun scale => scale.name = name.text).map (·.kind)

/-- Whether the field of an axis holds numbers. -/
def Table.isNumericOn (table : Table) : ScaleName → Bool
  | .x => table.xIsNumeric
  | .y => table.yIsNumeric
  | _ => false

namespace LayerRequest

/-- The axes on whose scales a layer must place the numbers that it is given. A polygon declares
scales of its own where the fields hold no numbers. -/
def numberAxes (request : LayerRequest) : List ScaleName :=
  match request.kind with
  | .abline => [.x, .y]
  | .vline => if (request.parameters.numbersOf "xintercept").isEmpty then [] else [.x]
  | .hline => if (request.parameters.numbersOf "yintercept").isEmpty then [] else [.y]
  | _ => []

/-- Whether a layer draws a line whose y values are numbers beside rows whose y values are not. -/
def Misplaces (request : LayerRequest) (table : Table) (axis : ScaleName) : Prop :=
  request.kind = .abline ∧ axis = .y ∧ table.yIsNumeric = false

instance (request : LayerRequest) (table : Table) (axis : ScaleName) :
    Decidable (request.Misplaces table axis) := by
  unfold Misplaces
  infer_instance

end LayerRequest

/-! ## Declared scales -/

theorem Scale.kindsOf_cons (first : Scale) (rest : List Scale) (name : ScaleName) :
    kindsOf (first :: rest) name =
      if first.name = name.text then first.kind :: kindsOf rest name else kindsOf rest name := by
  unfold kindsOf
  by_cases named : first.name = name.text <;> simp [named]

namespace Table

variable {table : Table} {style : Style} {colors : List Scale} {axis : ScaleName}

theorem kindsOf_colors (colored : table.groupColorScale style = .ok colors)
    (placed : axis ∈ [ScaleName.x, .y]) : Scale.kindsOf colors axis = [] := by
  have others : ∀ scale ∈ colors, scale.name ≠ axis.text := by
    intro scale inside same
    have named : scale.name ∈ colors.map (·.name) := List.mem_map_of_mem inside
    rw [colors_names colored, same] at named
    revert named placed
    cases axis <;> split <;> decide
  unfold Scale.kindsOf
  rw [List.filter_eq_nil_iff.mpr fun scale inside => by simpa using others scale inside]
  rfl

/-- The scales of the axes are continuous exactly over numbers. -/
theorem kindsOf_placeScales (colored : table.groupColorScale style = .ok colors)
    (placed : axis ∈ [ScaleName.x, .y]) :
    Scale.kindsOf (table.placeScales colors .reference) axis =
      [if table.isNumericOn axis then .continuous else .banded] := by
  have none := kindsOf_colors colored placed
  unfold placeScales
  rw [Scale.kindsOf_cons, Scale.kindsOf_cons, none, xScale_name, yScale_name]
  rcases List.mem_pair.mp placed with rfl | rfl
  · have own : "xscale" = ScaleName.x.text := rfl
    have other : "yscale" ≠ ScaleName.x.text := by decide
    rw [if_pos own, if_neg other, xScale_kind, isNumericOn]
    cases table.xIsNumeric <;> rfl
  · have own : "yscale" = ScaleName.y.text := rfl
    have other : "xscale" ≠ ScaleName.y.text := by decide
    rw [if_neg other, if_pos own, yScale, yScaleOf_kind, isNumericOn]

end Table

theorem Layer.kindsOf_vertexScales {axis : ScaleName} (placed : axis ∈ [ScaleName.x, .y]) :
    Scale.kindsOf vertexScales axis = [.continuous] := by
  rcases List.mem_pair.mp placed with rfl | rfl <;> rfl

/-! ## Marks -/

/-- Whether a channel places fields by no scale but that of an axis. -/
structure Encoding.StandsOn (encoding : Encoding) (axis : ScaleName) : Prop where
  placed : ∀ scale ∈ encoding.scale?, scale = axis
  unread : ∀ expression ∈ encoding.expression?, datumFields expression.toText = []

theorem Encoding.StandsOn.of_placesBy {encoding : Encoding} {axis scale : ScaleName}
    {field : String} (stands : encoding.StandsOn axis)
    (places : encoding.rule.PlacesBy scale.text field) : scale = axis := by
  rcases places with ⟨named, _⟩ | ⟨formula, computed, read, _⟩
  · rw [text?_scale] at named
    rcases Option.map_eq_some_iff.mp named with ⟨other, own, same⟩
    rw [← ScaleName.text_injective same]
    exact stands.placed other own
  · rw [formulas_rule, Option.toList_map] at computed
    rcases List.mem_map.mp computed with ⟨expression, own, rfl⟩
    rw [stands.unread expression (Option.mem_toList.mp own)] at read
    cases read

namespace Drawing

variable {drawing : Drawing} {source : String} {scale : ScaleName}

/-- The marks of a layer read the table or a source of its kind. -/
theorem Places.known {table : Table} {context : LayerContext} {kind : LayerKind}
    (places : drawing.Places source scale) (drawn : Drawn table context kind drawing) :
    source = tableSource ∨ source ∈ kind.sourceNames := by
  rcases places with ⟨around, mark, stands, behind, _⟩
  rcases drawn.fits with ⟨held, fits, _⟩
  rcases (Graphic.stands stands).fits fits.graphics with ⟨_, _, _, _, rows⟩
  rcases rows source behind with ⟨whole, found, _⟩
  refine List.mem_cons.mp (List.cons_subset_cons _ drawn.names.1.subset ?_)
  exact drawing.sources_names table held (mem_of_lookup found)

theorem Places.not_empty {note : String} : ¬ (Drawing.empty note).Places source scale := by
  rintro ⟨around, mark, stands, _⟩
  cases @Graphic.stands [] _ _ stands with
  | mark _ listed | group _ listed | nested _ _ listed => cases listed

/-- A drawing with a single mark places what this mark places. -/
theorem Places.of_single {content : Mark} (places : drawing.Places source scale)
    (single : drawing.graphics = [.mark content]) :
    content.source = some source ∧
      ∃ encoding ∈ content.encodings, ∃ field, encoding.rule.PlacesBy scale.text field := by
  rcases places with ⟨around, mark, stands, behind, rule, inside, placed⟩
  unfold toFragment at stands
  rw [single] at stands
  cases Graphic.stands stands with
  | mark other listed =>
      cases List.mem_singleton.mp listed
      rw [Members.rowsBehind?, Mark.facet?_toMembers, Mark.data?_toMembers] at behind
      rcases Option.bind_eq_some_iff.mp behind with ⟨name, read, equal⟩
      cases equal
      rw [Mark.rules_toMembers] at inside
      rcases List.mem_map.mp inside with ⟨encoding, own, rfl⟩
      exact ⟨read, encoding, own, placed⟩
  | group content listed => cases List.mem_singleton.mp listed
  | nested group mark listed => cases List.mem_singleton.mp listed

end Drawing

/-! ## Rules -/

namespace Layer

/-- Whether rules are placed on one axis. -/
def RuleLayer.StandsOn (layer : RuleLayer) (axis : ScaleName) : Prop :=
  ∀ banded, ∀ channel ∈ layer.channels banded, channel.2.StandsOn axis

theorem position_standsOn (axis : ScaleName) (field : String) (banded : Bool) :
    (Encoding.position axis field banded).StandsOn axis := by
  unfold Encoding.position
  split
  · exact ⟨fun scale own => (Option.some.inj own).symm, nofun⟩
  · exact ⟨fun scale own => (Option.some.inj own).symm, nofun⟩

theorem constant_standsOn (value : Value) (axis : ScaleName) :
    (Encoding.constant value).StandsOn axis := ⟨nofun, nofun⟩

theorem extent_standsOn (dimension : Dimension) (axis : ScaleName) :
    (Encoding.signal (.extent dimension)).StandsOn axis := by
  refine ⟨nofun, fun expression own => ?_⟩
  cases own
  cases dimension <;> decide

theorem verticalRules_standsOn (table : Table) : (verticalRules table).StandsOn .x :=
  fun banded => List.forall_mem_cons.mpr ⟨position_standsOn .x "x" banded,
    List.forall_mem_cons.mpr ⟨constant_standsOn _ _,
      List.forall_mem_singleton.mpr (extent_standsOn .height .x)⟩⟩

theorem horizontalRules_standsOn (table : Table) : (horizontalRules table).StandsOn .y :=
  fun banded => List.forall_mem_cons.mpr ⟨constant_standsOn _ _,
    List.forall_mem_cons.mpr ⟨extent_standsOn .width .y,
      List.forall_mem_singleton.mpr (position_standsOn .y "y" banded)⟩⟩

theorem referenceChannels_standOn (style : Style) (width : Value) (dash : Int)
    (axis : ScaleName) : ∀ channel ∈ referenceChannels style width dash, channel.2.StandsOn axis :=
  List.forall_mem_cons.mpr ⟨constant_standsOn _ _, List.forall_mem_cons.mpr
    ⟨constant_standsOn _ _, List.forall_mem_singleton.mpr (constant_standsOn _ _)⟩⟩

/-- Rules place fields of their own source by the scale of their axis. -/
theorem RuleLayer.StandsOn.of_places {layer : RuleLayer} {axis scale : ScaleName}
    (stands : layer.StandsOn axis) {style : Style} {origin source : String} {banded : Bool}
    {scales : List Scale} {inline : List InlineRows}
    (places : (layer.drawing style origin banded scales inline).Places source scale) :
    source = origin ∧ scale = axis := by
  rcases places.of_single rfl with ⟨read, encoding, inside, field, placed⟩
  have channels : ∀ channel ∈ layer.channels banded ++ referenceChannels style (.whole 1) 3,
      channel.2.StandsOn axis :=
    List.forall_mem_append.mpr ⟨stands banded, referenceChannels_standOn style _ _ axis⟩
  rw [Mark.encodings, List.mem_append] at inside
  rcases inside with entered | updated
  · rcases List.mem_map.mp entered with ⟨channel, listed, rfl⟩
    exact ⟨(Option.some.inj read).symm, (channels channel listed).of_placesBy placed⟩
  · cases updated

/-- Rules at given places need numbers on their axis. -/
theorem RuleLayer.draw_isEmpty {layer : RuleLayer} {table : Table} {context : LayerContext}
    {parameters : Members} {drawing : Drawing}
    (returned : (layer.draw table context parameters).Returns drawing)
    (given : (parameters.numbersOf layer.parameter).isEmpty = false)
    (labelled : layer.numeric = false) : drawing.isEmpty = true := by
  unfold RuleLayer.draw at returned
  simp only [Run.returns_bind] at returned
  rcases returned with ⟨values, taken, returned⟩
  rw [← Members.numberListParameter_eq taken] at given
  rw [if_neg (by simp [given]), if_pos (by simp [labelled])] at returned
  cases returned
  rfl

end Layer

/-! ## All layers -/

/-- The layers that are given numbers. -/
theorem LayerKind.given_numbers : ∀ kind ∈ all, ∀ source ∈ kind.sourceNames,
    source ∈ numberSources → kind ∈ [.abline, .vline, .hline, .polygon] := by
  decide +kernel

section

variable {table : Table} {context : LayerContext} {kind : LayerKind} {drawing : Drawing}
  {source : String} {axis : ScaleName}

/-- Numbers are placed by a continuous scale where the field of the axis holds numbers. -/
theorem Table.kindsOf_numeric {style : Style} {colors : List Scale}
    (colored : table.groupColorScale style = .ok colors) (placed : axis ∈ [ScaleName.x, .y])
    (numeric : table.isNumericOn axis = true) :
    Scale.kindsOf (table.placeScales colors .reference) axis = [.continuous] := by
  rw [kindsOf_placeScales colored placed, numeric, if_pos rfl]

theorem Table.isNumericOn_of_both (numeric : table.xIsNumeric = true ∧ table.yIsNumeric = true)
    (placed : axis ∈ [ScaleName.x, .y]) : table.isNumericOn axis = true := by
  rcases List.mem_pair.mp placed with rfl | rfl
  · exact numeric.1
  · exact numeric.2

theorem Table.xIsNumeric_of_xExtent {extent : Extent} (spanned : table.xExtent = some extent) :
    table.xIsNumeric = true := by
  unfold xExtent at spanned
  split at spanned
  · next numeric => exact numeric
  · cases spanned

theorem tableSource_not_given : tableSource ∉ numberSources := by decide

theorem Drawn.places_numbers (drawn : Drawn table context kind drawing)
    (given : source ∈ numberSources) (placed : axis ∈ [ScaleName.x, .y])
    (places : drawing.Places source axis) :
    Scale.kindsOf drawing.scales axis =
      [if kind = .abline ∧ axis = .y ∧ table.yIsNumeric = false then .banded
        else .continuous] := by
  have own : source ∈ kind.sourceNames :=
    (places.known drawn).resolve_left fun same => tableSource_not_given (same ▸ given)
  have bearer := LayerKind.given_numbers kind kind.mem_all source own given
  simp only [List.mem_cons, List.not_mem_nil, or_false] at bearer
  rcases bearer with rfl | rfl | rfl | rfl
  · cases drawn with
    | empty note => exact absurd places Drawing.Places.not_empty
    | abline colors extent slope intercept spanned colored =>
        refine (Table.kindsOf_placeScales colored placed).trans ?_
        rcases List.mem_pair.mp placed with rfl | rfl
        · rw [Table.isNumericOn, Table.xIsNumeric_of_xExtent spanned]
          rfl
        · rw [Table.isNumericOn]
          cases table.yIsNumeric <;> rfl
  · rw [if_neg (by simp)]
    cases drawn with
    | empty note => exact absurd places Drawing.Places.not_empty
    | rowVlines colors rows colored =>
        -- Rules without given places are those of the rows.
        have read := ((verticalRules_standsOn table).of_places places).1
        exact absurd (read ▸ given) tableSource_not_given
    | valueVlines colors values known numeric colored =>
        cases ((verticalRules_standsOn table).of_places places).2
        exact Table.kindsOf_numeric colored placed numeric
  · rw [if_neg (by simp)]
    cases drawn with
    | empty note => exact absurd places Drawing.Places.not_empty
    | rowHlines colors rows colored =>
        have read := ((horizontalRules_standsOn table).of_places places).1
        exact absurd (read ▸ given) tableSource_not_given
    | valueHlines colors values known numeric colored =>
        cases ((horizontalRules_standsOn table).of_places places).2
        exact Table.kindsOf_numeric colored placed numeric
  · rw [if_neg (by simp)]
    cases drawn with
    | empty note => exact absurd places Drawing.Places.not_empty
    | placedPolygon colors xs ys vertices rows numeric colored =>
        exact Table.kindsOf_numeric colored placed (Table.isNumericOn_of_both numeric placed)
    | rowPolygon colors rows numeric colored =>
        exact Table.kindsOf_numeric colored placed (Table.isNumericOn_of_both numeric placed)
    | freePolygon xs ys vertices unplaced => exact kindsOf_vertexScales placed

end

namespace LayerRequest

variable {request : LayerRequest} {table : Table} {context : LayerContext} {drawing : Drawing}
  {axis : ScaleName}

/-- A layer is not drawn if an axis holds labels on which it would have to place its numbers. -/
theorem draw_isEmpty (returned : (request.draw table context).Returns drawing)
    (needed : axis ∈ request.numberAxes) (labelled : table.isNumericOn axis = false)
    (apart : ¬ request.Misplaces table axis) : drawing.isEmpty = true := by
  obtain ⟨kind, parameters⟩ := request
  have drawn := draw_returns_iff.mp returned
  cases kind with
  | abline =>
      rcases List.mem_pair.mp needed with rfl | rfl
      · cases LayerKind.draw_drawn drawn with
        | empty note => rfl
        | abline colors extent slope intercept spanned colored =>
            exact absurd (Table.xIsNumeric_of_xExtent spanned) (Bool.eq_false_iff.mp labelled)
      · exact absurd ⟨rfl, rfl, labelled⟩ apart
  | vline =>
      unfold numberAxes at needed
      dsimp only at needed
      split at needed
      · cases needed
      · next given =>
          cases List.mem_singleton.mp needed
          exact RuleLayer.draw_isEmpty drawn (Bool.eq_false_iff.mpr given) labelled
  | hline =>
      unfold numberAxes at needed
      dsimp only at needed
      split at needed
      · cases needed
      · next given =>
          cases List.mem_singleton.mp needed
          exact RuleLayer.draw_isEmpty drawn (Bool.eq_false_iff.mpr given) labelled
  | _ => cases needed

/-- The numbers that a layer is given are placed by continuous scales, and the layer is not drawn if
they cannot be. But a line is also drawn if y holds labels, and its y values are placed on bands. -/
theorem draw_numbers (returned : (request.draw table context).Returns drawing)
    (placed : axis ∈ [ScaleName.x, .y]) :
    (∀ source ∈ numberSources, drawing.Places source axis →
      Scale.kindsOf drawing.scales axis =
        [if request.Misplaces table axis then .banded else .continuous]) ∧
      (axis ∈ request.numberAxes → table.isNumericOn axis = false →
        ¬ request.Misplaces table axis → drawing.isEmpty = true) :=
  ⟨fun _ given places => (LayerRequest.draw_drawn returned).places_numbers given placed places,
    fun needed labelled apart => draw_isEmpty returned needed labelled apart⟩

end LayerRequest

/-! ## Two lines -/

/-- A mark at the top places the fields of its channels. -/
theorem Drawing.places_of_field {drawing : Drawing} {content : Mark} {source field : String}
    {axis : ScaleName} (listed : .mark content ∈ drawing.graphics)
    (read : content.source = some source) (own : .field axis field ∈ content.encodings) :
    drawing.Places source axis := by
  refine ⟨[], content.toMembers, .top (List.mem_map_of_mem listed), ?_,
    (Encoding.field axis field).rule, ?_, field, .inl ⟨rfl, rfl⟩⟩
  · rw [Members.rowsBehind?, Mark.facet?_toMembers, Mark.data?_toMembers, read]
    rfl
  · rw [Mark.rules_toMembers]
    exact List.mem_map_of_mem own

theorem Layer.ablineDrawing_places (table : Table) (style : Style) (colors : List Scale)
    (rows : List Members) : (ablineDrawing table style colors rows).Places ablineSource .y :=
  Drawing.places_of_field (List.mem_singleton_self _) rfl
    (List.mem_cons_of_mem _ (List.mem_cons_self ..) : Encoding.field .y "y" ∈ _)

/-- A line over a table without color groups. -/
theorem Layer.abline_returns {table : Table} {extent : Extent}
    (spanned : table.xExtent = some extent) (plain : table.hasColorGroup = false) :
    ((⟨.abline, []⟩ : LayerRequest).draw table { style := {} }).Returns
      (ablineDrawing table {} [] (ablineRows extent 1.0 0.0)) := by
  refine LayerRequest.draw_returns_iff.mpr ?_
  unfold LayerKind.draw abline
  rw [spanned]
  simp only [Run.returns_bind, Run.returns_lift]
  exact ⟨_, rfl, _, rfl, [], Table.groupColorScale_plain _ plain, rfl⟩

/-- The ends of a line beside numbers are placed by a continuous scale. -/
theorem LayerRequest.draw_numbers_abline : ∃ drawing,
    (Table.project (equalBindings 2.0)).Returns (equalTable 2.0) ∧
      ((⟨.abline, []⟩ : LayerRequest).draw (equalTable 2.0) { style := {} }).Returns drawing ∧
      drawing.Places ablineSource .y ∧ Scale.kindsOf drawing.scales .y = [.continuous] := by
  have finite : (2.0 : Binary64).isFinite = true := by decide +kernel
  obtain ⟨extent, spanned⟩ : ∃ extent, (equalTable 2.0).xExtent = some extent := ⟨_, rfl⟩
  have returned := abline_returns spanned rfl
  have places := ablineDrawing_places (equalTable 2.0) {} [] (ablineRows extent 1.0 0.0)
  have kinds := (LayerRequest.draw_numbers returned (by decide)).1 ablineSource (by decide) places
  exact ⟨_, equalBindings_projected finite, returned, places, kinds⟩

/-- Two points with labels for y. -/
def labelledBindings : Bindings :=
  { x := .list [.real 1.0, .real 2.0], y := .list [.text "a", .text "b"] }

/-- The table of the points. -/
def labelledTable : Table :=
  { rows := [{ x := .number 1.0, y := .label "a" }, { x := .number 2.0, y := .label "b" }]
    xKind := .continuous
    yKind := .categorical
    givenCount := 2 }

theorem labelledBindings_projected : (Table.project labelledBindings).Returns labelledTable := by
  have cells : Projection.usableCells [.real 1.0, .real 2.0] true =
      .ok [some (.number 1.0), some (.number 2.0)] :=
    (Projection.usableCells_reals [1.0, 2.0]).trans (by simp [Projection.finite?_literals])
  unfold Table.project
  simp only [Run.returns_bind, Run.returns_lift]
  refine ⟨_, rfl, _, rfl, _, rfl, _, rfl, _, rfl, _, rfl, true, rfl, false, rfl, _, cells, _,
    rfl, _, rfl, ?_⟩
  simp only [Run.returns_bind, Run.returns_lift]
  exact ⟨_, rfl, none, rfl, none, rfl, (), rfl, rfl⟩

/-- The ends of a line beside labels are placed on bands. -/
theorem LayerRequest.draw_numbers_labelled : ∃ drawing,
    (Table.project labelledBindings).Returns labelledTable ∧
      ((⟨.abline, []⟩ : LayerRequest).draw labelledTable { style := {} }).Returns drawing ∧
      drawing.Places ablineSource .y ∧ Scale.kindsOf drawing.scales .y = [.banded] :=
  ⟨_, labelledBindings_projected, @abline_returns labelledTable _ rfl rfl,
    ablineDrawing_places labelledTable {} [] _, rfl⟩

end ChartCompiler
