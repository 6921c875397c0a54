import ChartCompiler.Proofs.Document.Finite
import ChartCompiler.Proofs.Layer.Drawn
import ChartCompiler.Proofs.Layer.Encodings

/-!
# Finite numbers in what layers draw

Marks, scales and axes hold constants only, apart from the place at which a continuous x axis
starts.
-/

namespace ChartCompiler

open Layer

variable {table : Table} {style : Style} {context : LayerContext}

/-- Whether the start of an x axis that keeps a distance from the least value is finite. -/
def Table.StartInRange (table : Table) : Prop :=
  ∀ extent ∈ table.xExtent, ∀ start ∈ extent.paddedStart?, start.isFinite = true

instance (table : Table) : Decidable table.StartInRange :=
  inferInstanceAs (Decidable (∀ extent ∈ table.xExtent, ∀ start ∈ extent.paddedStart?, _ = true))

/-- Whether a layer of a kind asks for an x axis that keeps a distance from the least value. -/
def LayerKind.padsStart : LayerKind → Bool
  | .point | .jitter | .interval | .regressionPlot | .ellipse | .cornerHistogram => true
  | _ => false

/-- Whether the constants of layers are finite. -/
@[simp] theorem Layer.shares_finite :
    (0.5 : Binary64).isFinite = true ∧ (0.25 : Binary64).isFinite = true ∧
    (0.75 : Binary64).isFinite = true ∧ (0.35 : Binary64).isFinite = true ∧
    (0.65 : Binary64).isFinite = true ∧ (0.6 : Binary64).isFinite = true ∧
    (0.7 : Binary64).isFinite = true ∧ (0.3 : Binary64).isFinite = true ∧
    (0.15 : Binary64).isFinite = true ∧ (0.1 : Binary64).isFinite = true ∧
    (0.2 : Binary64).isFinite = true := by decide +kernel

/-! ## Shared encodings -/

@[simp] theorem Encoding.position_onlyFinite (scale : ScaleName) (name : String) (banded : Bool) :
    (Encoding.position scale name banded).OnlyFinite := by
  unfold position
  split <;> simp

namespace Table

@[simp] theorem xPosition_onlyFinite : table.xPosition.OnlyFinite :=
  Encoding.position_onlyFinite _ _ _

@[simp] theorem yPosition_onlyFinite : table.yPosition.OnlyFinite :=
  Encoding.position_onlyFinite _ _ _

theorem groupColor_onlyFinite {fallback : Value} (finite : fallback.OnlyFinite) :
    (table.groupColor fallback).OnlyFinite := by
  unfold groupColor
  split <;> simp [finite]

theorem slotPlace_onlyFinite {share : Number} (finite : share.isFinite = true) :
    (table.slotPlace share).OnlyFinite := by
  unfold slotPlace
  split <;> simp [finite]

theorem slotWidth_onlyFinite {share : Number} (finite : share.isFinite = true) :
    (table.slotWidth share).OnlyFinite := by
  unfold slotWidth
  split <;> simp [finite]

end Table

/-! ## Scales -/

namespace Table

theorem xScale_onlyFinite (source field : String) (role : AxisRole) (forceBand : Bool)
    {padding : Option Value} (padded : ∀ value ∈ padding, value.OnlyFinite)
    (start : role = .scatter → forceBand = false → table.StartInRange) :
    (table.xScale source field role forceBand padding).toMembers.OnlyFinite := by
  rw [Scale.onlyFinite_toMembers, Scale.onlyFinite_settings]
  unfold xScale
  split
  · simpa [Scale.banded] using padded
  · next numeric =>
      have free : forceBand = false := by
        cases forceBand with
        | false => rfl
        | true => simp at numeric
      refine ⟨by simp, by simp, nofun, nofun, nofun, nofun, ?_⟩
      intro value shown
      dsimp only at shown
      split at shown
      · next scattered =>
          rcases Option.map_eq_some_iff.mp shown with ⟨least, found, rfl⟩
          rcases Option.bind_eq_some_iff.mp found with ⟨extent, spanned, found⟩
          simpa using start scattered free extent spanned least found
      · cases shown

theorem yScaleOf_onlyFinite (source field : String) (continuous : Bool) {padding : Option Value}
    (padded : ∀ value ∈ padding, value.OnlyFinite) :
    (yScaleOf source field continuous padding).toMembers.OnlyFinite := by
  rw [Scale.onlyFinite_toMembers, Scale.onlyFinite_settings]
  unfold yScaleOf
  split
  · simp
  · simpa [Scale.banded] using padded

end Table

/-! ## Constants of a style -/

namespace Style.OnlyFinite

variable (finite : style.OnlyFinite)

include finite

theorem defaultFill : style.defaultFill.OnlyFinite := finite.shown _ style.defaultFill_shown

theorem referenceStroke : style.referenceStroke.OnlyFinite :=
  finite.shown _ style.referenceStroke_shown

theorem fitStroke : style.fitStroke.OnlyFinite := finite.shown _ style.fitStroke_shown

theorem outlineStroke : style.outlineStroke.OnlyFinite := finite.shown _ style.outlineStroke_shown

theorem heatLow : style.heatLow.OnlyFinite := finite.shown _ style.heatLow_shown

theorem symbolSize : style.symbolSize.OnlyFinite := finite.shown _ style.symbolSize_shown

theorem swarmSymbolSize : style.swarmSymbolSize.OnlyFinite :=
  finite.shown _ style.swarmSymbolSize_shown

theorem lineWidth : style.lineWidth.OnlyFinite := finite.shown _ style.lineWidth_shown

theorem smoothLineWidth : style.smoothLineWidth.OnlyFinite :=
  finite.shown _ style.smoothLineWidth_shown

theorem fillColor : (table.fillColor style).OnlyFinite :=
  Table.groupColor_onlyFinite finite.defaultFill

theorem symbolChannels {size : Value} (sized : size.OnlyFinite) :
    (table.symbolChannels style size).OnlyFinite := by
  simp [Table.symbolChannels, sized, finite.fillColor]

theorem referenceChannels {width : Value} (wide : width.OnlyFinite) (dash : Int) :
    (Layer.referenceChannels style width dash).OnlyFinite := by
  simp [Layer.referenceChannels, finite.referenceStroke, wide]

theorem groupColorScale {colors : List Scale} (colored : table.groupColorScale style = .ok colors) :
    ∀ scale ∈ colors, scale.toMembers.OnlyFinite := by
  rcases Table.groupColorScale_cases colored with ⟨_, rfl⟩ | ⟨_, items, chosen, rfl⟩
  · exact List.forall_mem_nil _
  · have shown : ∀ item ∈ items, item.OnlyFinite := fun item inside =>
      finite.shown item (List.mem_append_right _ (chosen item inside))
    rw [List.forall_mem_singleton, Scale.onlyFinite_toMembers, Scale.onlyFinite_settings]
    simpa [Table.coloredBy, ScaleRange.toValue] using shown

end Style.OnlyFinite

/-! ## The scales that layers share -/

namespace Table

variable {colors : List Scale}

theorem tightPadding_onlyFinite : ∀ value ∈ some Scale.tightPadding, value.OnlyFinite := by
  rintro value ⟨⟩
  simp [Scale.tightPadding]

theorem placeScales_onlyFinite (finite : style.OnlyFinite)
    (colored : table.groupColorScale style = .ok colors) (role : AxisRole) (forceBand : Bool)
    (start : role = .scatter → forceBand = false → table.StartInRange) :
    ∀ scale ∈ table.placeScales colors role forceBand, scale.toMembers.OnlyFinite :=
  List.forall_mem_cons.mpr ⟨xScale_onlyFinite _ _ role forceBand tightPadding_onlyFinite start,
    List.forall_mem_cons.mpr ⟨yScaleOf_onlyFinite _ _ _ tightPadding_onlyFinite,
      finite.groupColorScale colored⟩⟩

theorem categoryScales_onlyFinite (finite : style.OnlyFinite)
    (colored : table.groupColorScale style = .ok colors) {padding : Value}
    (padded : padding.OnlyFinite) :
    ∀ scale ∈ table.categoryScales colors padding, scale.toMembers.OnlyFinite := by
  refine List.forall_mem_cons.mpr ⟨xScale_onlyFinite _ _ _ _ ?_ nofun,
    List.forall_mem_cons.mpr ⟨yScaleOf_onlyFinite _ _ _ tightPadding_onlyFinite, ?_⟩⟩
  · rintro value ⟨⟩
    exact padded
  · refine List.forall_mem_append.mpr ⟨finite.groupColorScale colored, ?_⟩
    split
    · rw [List.forall_mem_singleton, Scale.onlyFinite_toMembers, Scale.onlyFinite_settings]
      simp [colorSlotScale, Scale.tightPadding]
    · exact List.forall_mem_nil _

end Table

/-! ## Marks -/

theorem Table.linePerGroup_onlyFinite (source : String) {line : Mark} (name facet : String)
    (enter : line.enter.OnlyFinite) (update : line.update.OnlyFinite) :
    (table.linePerGroup source line name facet).toMembers.OnlyFinite := by
  unfold linePerGroup
  split
  · refine Group.onlyFinite_toMembers Channels.onlyFinite_nil Channels.onlyFinite_nil
      (List.forall_mem_nil _) (List.forall_mem_nil _) ?_
    exact List.forall_mem_singleton.mpr ⟨enter, update⟩
  · exact Mark.onlyFinite_toMembers enter update

theorem Table.curve_onlyFinite (source name : String) {stroke : Encoding} {width : Value}
    (colored : stroke.OnlyFinite) (wide : width.OnlyFinite) (xField yField : String) :
    (table.curve source name stroke width xField yField).toMembers.OnlyFinite := by
  refine linePerGroup_onlyFinite source name _ ?_ Channels.onlyFinite_nil
  simp [colored, wide]

namespace Layer

theorem pointMark_onlyFinite (finite : style.OnlyFinite) (name : String) :
    (pointMark table style name).toMembers.OnlyFinite := by
  refine Mark.onlyFinite_toMembers ?_ Channels.onlyFinite_nil
  simp [pointMark, finite.symbolChannels finite.symbolSize]

theorem boxRule_onlyFinite (finite : style.OnlyFinite) (name : String) {channels : Channels}
    (placed : channels.OnlyFinite) (width : Int) :
    (boxRule style name channels width).toMembers.OnlyFinite := by
  refine Mark.onlyFinite_toMembers ?_ Channels.onlyFinite_nil
  simp [placed, finite.outlineStroke]

theorem boxplotGraphics_onlyFinite (finite : style.OnlyFinite) :
    ∀ graphic ∈ boxplotGraphics table style, graphic.toMembers.OnlyFinite := by
  have place : ∀ share ∈ [(0.25 : Binary64), 0.75, 0.35, 0.65, 0.5],
      (table.slotPlace (.real share)).OnlyFinite := by
    intro share listed
    apply Table.slotPlace_onlyFinite
    revert share
    decide +kernel
  simp only [List.forall_mem_cons, List.not_mem_nil, false_implies, implies_true, and_true] at place
  rcases place with ⟨quarter, others, third, far, middle⟩
  have rule := @boxRule_onlyFinite style finite
  simp only [boxplotGraphics, List.forall_mem_cons, List.not_mem_nil, false_implies, implies_true,
    and_true]
  refine ⟨?_, rule _ ?_ _, rule _ ?_ _, rule _ ?_ _, rule _ ?_ _, rule _ ?_ _, ?_⟩
  · refine Mark.onlyFinite_toMembers ?_ Channels.onlyFinite_nil
    have wide := @Table.slotWidth_onlyFinite table (.real 0.5) (by simp)
    simp [quarter, wide, finite.fillColor, finite.outlineStroke]
  · simp [quarter, others]
  · simp [third, far]
  · simp [third, far]
  · simp [middle]
  · simp [middle]
  · refine Mark.onlyFinite_toMembers ?_ Channels.onlyFinite_nil
    simp [middle, finite.outlineStroke]

theorem barGraphic_onlyFinite (finite : style.OnlyFinite) :
    (if table.hasColorGroup then groupedBars table style
      else plainBars table style).toMembers.OnlyFinite := by
  have channels : (barChannels table style).OnlyFinite := by simp [barChannels, finite.fillColor]
  split
  · refine Group.onlyFinite_toMembers ?_ Channels.onlyFinite_nil ?_ (List.forall_mem_nil _) ?_
    · simp
    · refine List.forall_mem_singleton.mpr ?_
      rw [Scale.onlyFinite_toMembers, Scale.onlyFinite_settings]
      simp
    · refine List.forall_mem_singleton.mpr ⟨?_, Channels.onlyFinite_nil⟩
      simp [channels]
  · refine Mark.onlyFinite_toMembers ?_ Channels.onlyFinite_nil
    simp [channels]

theorem cornerInset_onlyFinite (finite : style.OnlyFinite) :
    (Graphic.group (cornerInset style)).toMembers.OnlyFinite := by
  refine Group.onlyFinite_toMembers ?_ Channels.onlyFinite_nil ?_ ?_ ?_
  · simp [cornerInset]
  · simp only [cornerInset, cornerScales, List.forall_mem_cons, Scale.onlyFinite_toMembers,
      Scale.onlyFinite_settings]
    simp
  · refine List.forall_mem_singleton.mpr ?_
    simp
  · simp only [cornerInset, List.forall_mem_cons]
    simp [cornerBars, cornerZero, finite.defaultFill, finite.referenceStroke]

theorem violinGroup_onlyFinite (finite : style.OnlyFinite) :
    (Graphic.group (violinGroup table style)).toMembers.OnlyFinite := by
  refine Group.onlyFinite_toMembers Channels.onlyFinite_nil ?_ (List.forall_mem_nil _)
    (List.forall_mem_nil _) ?_
  · unfold violinGroup
    dsimp only
    split <;> simp
  · simp only [violinGroup, List.forall_mem_cons]
    simp [violinSide, finite.fillColor]

end Layer

/-- What a layer shows consists of fields, expressions and finite constants. -/
theorem Drawn.graphics_onlyFinite {kind : LayerKind} {drawing : Drawing}
    (drawn : Drawn table context kind drawing) (finite : context.style.OnlyFinite) :
    ∀ graphic ∈ drawing.graphics, graphic.toMembers.OnlyFinite := by
  have mark {mark : Mark} (enter : mark.enter.OnlyFinite) (update : mark.update.OnlyFinite) :
      ∀ graphic ∈ [Graphic.mark mark], graphic.toMembers.OnlyFinite :=
    List.forall_mem_singleton.mpr (Mark.onlyFinite_toMembers enter update)
  have rules {width : Value} (wide : width.OnlyFinite) (dash : Int) :=
    finite.referenceChannels wide dash
  cases drawn
  case empty => exact List.forall_mem_nil _
  case points | unfitted => exact List.forall_mem_singleton.mpr (pointMark_onlyFinite finite _)
  case jitter => exact mark (finite.symbolChannels finite.symbolSize) (by simp)
  case swarm => exact mark (finite.symbolChannels finite.swarmSymbolSize) (by simp)
  case line =>
      refine List.forall_mem_singleton.mpr (Table.linePerGroup_onlyFinite _ _ _ ?_ ?_)
      · simp [lineMark, finite.lineWidth, finite.fillColor]
      · exact Channels.onlyFinite_nil
  case glm | fit =>
      exact List.forall_mem_singleton.mpr (Table.curve_onlyFinite _ _
        (Table.groupColor_onlyFinite finite.fitStroke) finite.lineWidth _ _)
  case regression =>
      exact List.forall_mem_cons.mpr ⟨pointMark_onlyFinite finite _,
        List.forall_mem_singleton.mpr (Table.curve_onlyFinite _ _
          (Table.groupColor_onlyFinite finite.fitStroke) finite.lineWidth _ _)⟩
  case smooth =>
      exact List.forall_mem_singleton.mpr
        (Table.curve_onlyFinite _ _ finite.fillColor finite.smoothLineWidth _ _)
  case density =>
      exact List.forall_mem_singleton.mpr
        (Table.curve_onlyFinite _ _ finite.fillColor finite.lineWidth _ _)
  case ellipse =>
      refine List.forall_mem_singleton.mpr (Table.linePerGroup_onlyFinite _ _ _ ?_ ?_)
      · simp [ellipseMark, finite.lineWidth, finite.fillColor]
      · exact Channels.onlyFinite_nil
  case raster => exact mark (by simp [finite.fillColor]) Channels.onlyFinite_nil
  case interval =>
      exact mark (by simp [finite.fillColor, finite.lineWidth]) Channels.onlyFinite_nil
  case abline => exact mark (by simp [rules finite.lineWidth]) Channels.onlyFinite_nil
  case rowVlines | valueVlines =>
      exact mark (by simp [verticalRules, rules]) Channels.onlyFinite_nil
  case rowHlines | valueHlines =>
      exact mark (by simp [horizontalRules, rules]) Channels.onlyFinite_nil
  case placedPolygon | freePolygon =>
      exact mark (by simp [polygonFill, finite.referenceStroke]) Channels.onlyFinite_nil
  case rowPolygon => exact mark (by simp [polygonFill]) Channels.onlyFinite_nil
  case bars => exact List.forall_mem_singleton.mpr (barGraphic_onlyFinite finite)
  case histogram =>
      refine mark ?_ Channels.onlyFinite_nil
      simp only [Channels.onlyFinite_cons]
      split <;> simp [finite.fillColor]
  case heatmap => exact mark (by simp) Channels.onlyFinite_nil
  case corner => exact List.forall_mem_singleton.mpr (cornerInset_onlyFinite finite)
  case violin => exact List.forall_mem_singleton.mpr (violinGroup_onlyFinite finite)
  case boxplot => exact boxplotGraphics_onlyFinite finite
  case means =>
      have start := @Table.slotPlace_onlyFinite table (.whole 0) rfl
      have middle := @Table.slotPlace_onlyFinite table (.real 0.5) (by simp)
      have wide := @Table.slotWidth_onlyFinite table (.whole 1) rfl
      refine List.forall_mem_cons.mpr ⟨Mark.onlyFinite_toMembers ?_ Channels.onlyFinite_nil,
        mark ?_ Channels.onlyFinite_nil⟩
      · simp [start, wide, finite.fillColor]
      · simp [middle, finite.lineWidth, finite.outlineStroke]
  case quantiles =>
      refine mark ?_ Channels.onlyFinite_nil
      simp [finite.symbolChannels finite.symbolSize]

/-! ## Scales and axes -/

theorem Layer.widePadding_onlyFinite : Scale.widePadding.OnlyFinite := by simp [Scale.widePadding]

theorem Layer.barScales_onlyFinite (finite : style.OnlyFinite) {colors : List Scale}
    (colored : table.groupColorScale style = .ok colors) :
    ∀ scale ∈ barScales table colors, scale.toMembers.OnlyFinite := by
  refine List.forall_mem_cons.mpr ⟨Table.xScale_onlyFinite _ _ _ _ ?_ nofun,
    List.forall_mem_cons.mpr ⟨?_, finite.groupColorScale colored⟩⟩
  · rintro value ⟨⟩
    exact widePadding_onlyFinite
  · have plain := Table.yScaleOf_onlyFinite tableSource "y" table.yIsNumeric
      Table.tightPadding_onlyFinite
    rw [Scale.onlyFinite_toMembers, Scale.onlyFinite_settings] at plain ⊢
    rcases plain with ⟨domain, range, padding, _, others⟩
    refine ⟨domain, range, padding, ?_, others⟩
    rintro value ⟨⟩
    simp

theorem Layer.intervalScale_onlyFinite : (intervalScale table).toMembers.OnlyFinite := by
  have plain := Table.yScaleOf_onlyFinite tableSource "y" table.yIsNumeric
    Table.tightPadding_onlyFinite
  rw [Scale.onlyFinite_toMembers, Scale.onlyFinite_settings] at plain ⊢
  exact ⟨ScaleDomain.onlyFinite_fields _ _, plain.2⟩

/-- The scales of a layer hold finite numbers if the x axis starts at one. -/
theorem Drawn.scales_onlyFinite {kind : LayerKind} {drawing : Drawing}
    (drawn : Drawn table context kind drawing) (finite : context.style.OnlyFinite)
    (start : kind.padsStart = true → table.StartInRange) :
    ∀ scale ∈ drawing.scales, scale.toMembers.OnlyFinite := by
  have place : ∀ forceBand, (table.xScale tableSource "x" .reference forceBand).toMembers.OnlyFinite :=
    fun forceBand => Table.xScale_onlyFinite _ _ _ _ Table.tightPadding_onlyFinite nofun
  have height : ∀ source field continuous,
      (Table.yScaleOf source field continuous).toMembers.OnlyFinite :=
    fun source field continuous => Table.yScaleOf_onlyFinite _ _ _ Table.tightPadding_onlyFinite
  cases drawn with
  | empty => exact List.forall_mem_nil _
  | points _ _ colored | unfitted _ _ _ colored | regression _ _ _ _ colored
  | corner _ _ _ _ colored | ellipse _ _ _ _ _ _ colored =>
      exact Table.placeScales_onlyFinite finite colored _ _ fun _ _ => start rfl
  | jitter _ _ _ _ _ colored _ =>
      exact Table.placeScales_onlyFinite finite colored _ _ fun _ _ => start rfl
  | swarm _ _ _ _ _ colored _ => exact Table.placeScales_onlyFinite finite colored _ _ nofun
  | line _ _ colored | abline _ _ _ _ _ colored | rowVlines _ _ colored
  | valueVlines _ _ _ _ colored | rowHlines _ _ colored | valueHlines _ _ _ _ colored
  | placedPolygon _ _ _ _ _ _ colored | rowPolygon _ _ _ colored | glm _ _ _ _ colored
  | fit _ _ _ _ colored | smooth _ _ _ _ colored =>
      exact Table.placeScales_onlyFinite finite colored _ _ nofun
  | raster _ _ colored =>
      exact List.forall_mem_cons.mpr ⟨place _, finite.groupColorScale colored⟩
  | interval _ _ _ colored =>
      refine List.forall_mem_cons.mpr ⟨?_, List.forall_mem_cons.mpr
        ⟨intervalScale_onlyFinite, finite.groupColorScale colored⟩⟩
      exact Table.xScale_onlyFinite _ _ _ _ Table.tightPadding_onlyFinite fun _ _ => start rfl
  | freePolygon =>
      simp only [vertexPolygon, vertexScales, List.forall_mem_cons, Scale.onlyFinite_toMembers,
        Scale.onlyFinite_settings]
      simp
  | bars _ _ _ colored => exact barScales_onlyFinite finite colored
  | histogram _ _ _ _ colored | density _ _ _ _ _ _ colored =>
      exact List.forall_mem_cons.mpr ⟨place _, List.forall_mem_cons.mpr
        ⟨height _ _ _, finite.groupColorScale colored⟩⟩
  | heatmap =>
      refine List.forall_mem_cons.mpr ⟨place _, List.forall_mem_cons.mpr ⟨height _ _ _, ?_⟩⟩
      rw [List.forall_mem_singleton, Scale.onlyFinite_toMembers, Scale.onlyFinite_settings]
      simp [heatScale, ScaleRange.toValue, finite.heatLow, finite.defaultFill]
  | violin _ _ _ _ _ _ colored =>
      refine List.forall_mem_append.mpr ⟨Table.categoryScales_onlyFinite finite colored ?_, ?_⟩
      · simp [Scale.tightPadding]
      · rw [List.forall_mem_singleton, Scale.onlyFinite_toMembers, Scale.onlyFinite_settings]
        simp [violinScale]
  | boxplot _ _ _ _ colored =>
      refine Table.categoryScales_onlyFinite finite colored ?_
      simp [Scale.tightPadding]
  | means _ _ _ _ colored =>
      exact Table.categoryScales_onlyFinite finite colored widePadding_onlyFinite
  | quantiles _ _ _ colored =>
      refine List.forall_mem_cons.mpr ⟨?_, List.forall_mem_cons.mpr
        ⟨height _ _ _, finite.groupColorScale colored⟩⟩
      rw [Scale.onlyFinite_toMembers, Scale.onlyFinite_settings]
      simp [quantileScale]

theorem standardAxes_onlyFinite {xStyling yStyling : Members} (x : xStyling.OnlyFinite)
    (y : yStyling.OnlyFinite) :
    ∀ axis ∈ standardAxes xStyling yStyling, axis.toMembers.OnlyFinite :=
  List.forall_mem_cons.mpr ⟨Axis.onlyFinite_toMembers x,
    List.forall_mem_singleton.mpr (Axis.onlyFinite_toMembers y)⟩

theorem Drawn.axes_onlyFinite {kind : LayerKind} {drawing : Drawing}
    (drawn : Drawn table context kind drawing) :
    ∀ axis ∈ drawing.axes, axis.toMembers.OnlyFinite := by
  have standard : ∀ axis ∈ standardAxes, axis.toMembers.OnlyFinite :=
    standardAxes_onlyFinite (List.forall_mem_nil _) (List.forall_mem_nil _)
  cases drawn
  case empty => exact List.forall_mem_nil _
  case jitter => exact standard
  case swarm =>
      refine standardAxes_onlyFinite ?_ Members.onlyFinite_nil
      simp [swarmDisplacement]
  case raster =>
      exact List.forall_mem_singleton.mpr (Axis.onlyFinite_toMembers Members.onlyFinite_nil)
  case bars =>
      refine List.forall_mem_cons.mpr ⟨Axis.onlyFinite_toMembers ?_,
        List.forall_mem_singleton.mpr (Axis.onlyFinite_toMembers Members.onlyFinite_nil)⟩
      simp
  case violin =>
      refine List.forall_mem_cons.mpr ⟨Axis.onlyFinite_toMembers Members.onlyFinite_nil,
        List.forall_mem_singleton.mpr (Axis.onlyFinite_toMembers ?_)⟩
      simp
  case boxplot =>
      refine List.forall_mem_cons.mpr ⟨Axis.onlyFinite_toMembers ?_,
        List.forall_mem_singleton.mpr (Axis.onlyFinite_toMembers ?_)⟩ <;> simp
  all_goals exact standard

end ChartCompiler
