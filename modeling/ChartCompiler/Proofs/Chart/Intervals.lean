import ChartCompiler.Proofs.Chart.Merging
import ChartCompiler.Proofs.Document.Domains
import ChartCompiler.Proofs.Layer.Scales
import ChartCompiler.Proofs.Table.Alignment

/-!
# The y scale of a chart with intervals

Of the scales that the layers of a chart declare under one name, the chart has the one of the first
layer that is drawn and declares one. The bars of intervals end at bounds that only the y scale of
their own layer covers, so they may reach beyond the y scale of the chart if another layer that
declares one is drawn before. Among all layers only the ticks of a raster declare none.
-/

namespace ChartCompiler

open Layer

/-! ## The scales of a chart -/

/-- The first scale of a drawing with a name. -/
def Drawing.scale? (drawing : Drawing) (name : String) : Option Scale :=
  drawing.scales.find? fun scale => scale.name = name

namespace LayerRequest

variable {request : LayerRequest} {table : Table} {context : LayerContext}

/-- What a layer draws, if it draws something. -/
def drawing? (request : LayerRequest) (table : Table) (context : LayerContext) : Option Drawing :=
  (request.draw table context).outcome.toOption.filter fun drawing => !drawing.isEmpty

/-- Whether a layer is drawn. -/
def IsDrawn (request : LayerRequest) (table : Table) (context : LayerContext) : Prop :=
  ∃ drawing, (request.draw table context).Returns drawing ∧ drawing.graphics ≠ []

theorem drawing?_of_returns {drawing : Drawing}
    (returned : (request.draw table context).Returns drawing) :
    request.drawing? table context = if drawing.isEmpty then none else some drawing := by
  have outcome : (request.draw table context).outcome = .ok drawing := returned
  unfold drawing?
  rw [outcome]
  cases empty : drawing.isEmpty <;> simp [Except.toOption, Option.filter, empty]

theorem returns_of_drawing? {drawing : Drawing}
    (drawn : request.drawing? table context = some drawing) :
    (request.draw table context).Returns drawing ∧ drawing.graphics ≠ [] := by
  rcases Option.filter_eq_some_iff.mp drawn with ⟨found, shown⟩
  exact ⟨eq_ok_of_toOption found, by simpa [Drawing.isEmpty] using shown⟩

theorem isDrawn_iff : request.IsDrawn table context ↔
    ∃ drawing, request.drawing? table context = some drawing := by
  constructor
  · rintro ⟨drawing, returned, shown⟩
    refine ⟨drawing, ?_⟩
    rw [drawing?_of_returns returned, if_neg (by simpa [Drawing.isEmpty] using shown)]
  · rintro ⟨drawing, drawn⟩
    exact ⟨drawing, returns_of_drawing? drawn⟩

end LayerRequest

/-- The scales of what is drawn are those of the layers that draw something. -/
theorem Compilation.drawAll_scales {table : Table} {context : LayerContext}
    {requests : List LayerRequest} {fragments : List Fragment} {notes : List Diagnostic}
    (returned : (drawAll table context requests).Returns (fragments, notes)) :
    (Chart.drawn fragments).flatMap (·.scales) =
      requests.flatMap fun request => (request.drawing? table context).elim [] (·.scales) := by
  induction requests generalizing fragments notes with
  | nil =>
      cases returned
      rfl
  | cons request rest induction =>
      unfold drawAll at returned
      simp only [Run.returns_bind, Run.returns_pure, Prod.mk.injEq] at returned
      rcases returned with ⟨drawing, first, ⟨others, otherNotes⟩, following, rfl, rfl⟩
      have empty : drawing.toFragment.isEmpty = drawing.isEmpty := by
        simp [Fragment.isEmpty, Drawing.toFragment, Drawing.isEmpty]
      rw [List.flatMap_cons, ← induction following, LayerRequest.drawing?_of_returns first,
        Chart.drawn, List.filter_cons, empty]
      cases drawing.isEmpty <;> rfl

/-! ## The y scales of layers -/

/-- The names of the fields that hold the bounds of intervals. -/
def boundFields : List String := ["ymin", "ymax"]

/-- What the y scale of a layer is read from: from the bounds of intervals, from one other field,
or from nothing, where the layer has none. -/
inductive LayerKind.Heights : LayerKind → Option Scale → Prop where
  | ticks : Heights .raster none
  | bounds {scale : Scale} (reads : scale.Reads tableSource ("y" :: boundFields)) :
      Heights .interval (some scale)
  | single {kind : LayerKind} {scale : Scale} {source field : String}
      (others : kind ≠ .raster ∧ kind ≠ .interval) (reads : scale.Reads source [field])
      (unbounded : field ∉ boundFields) : Heights kind (some scale)

namespace LayerKind.Heights

variable {kind : LayerKind} {scale : Scale} {height? : Option Scale}

theorem eq_raster (heights : kind.Heights none) : kind = .raster := by
  cases heights
  rfl

theorem covers (heights : LayerKind.interval.Heights height?) :
    ∃ scale, height? = some scale ∧ scale.Reads tableSource ("y" :: boundFields) := by
  cases heights with
  | bounds reads => exact ⟨_, rfl, reads⟩
  | single others => exact absurd rfl others.2

theorem apart (heights : kind.Heights (some scale)) (other : kind ≠ .interval) :
    kind ≠ .raster ∧ ∀ field ∈ boundFields, field ∉ scale.fieldsRead := by
  cases heights with
  | bounds reads => exact absurd rfl other
  | single others reads unbounded =>
      refine ⟨others.1, fun field bound inside => ?_⟩
      rw [reads.fields, List.mem_singleton] at inside
      rw [inside] at bound
      exact unbounded bound

end LayerKind.Heights

section

variable {table : Table} {context : LayerContext} {kind : LayerKind} {drawing : Drawing}

theorem Drawing.scale?_y {x y : Scale} {rest : List Scale}
    (scales : drawing.scales = x :: y :: rest) (xName : x.name = "xscale")
    (yName : y.name = "yscale") : drawing.scale? "yscale" = some y := by
  rw [scale?, scales, List.find?_cons_of_neg (by simp [xName]),
    List.find?_cons_of_pos (by simp [yName])]

theorem LayerKind.Heights.of_single {x y : Scale} {rest : List Scale} {source field : String}
    (scales : drawing.scales = x :: y :: rest) (xName : x.name = "xscale")
    (yName : y.name = "yscale") (others : kind ≠ .raster ∧ kind ≠ .interval)
    (reads : y.Reads source [field]) (unbounded : field ∉ boundFields) :
    kind.Heights (drawing.scale? "yscale") := by
  rw [Drawing.scale?_y scales xName yName]
  exact .single others reads unbounded

/-- Every layer that is drawn has one y scale, but for the ticks of a raster. -/
theorem Drawn.heights (drawn : Drawn table context kind drawing) (shown : drawing.graphics ≠ []) :
    kind.Heights (drawing.scale? "yscale") := by
  have y : table.yScale.Reads tableSource ["y"] := Table.yScaleOf_reads ..
  cases drawn with
  | empty note => exact absurd rfl shown
  | raster colors rows colored =>
      have none : (rasterDrawing table context.style colors).scale? "yscale" = none := by
        refine List.find?_eq_none.mpr (List.forall_mem_cons.mpr ⟨by simp, fun scale inside => ?_⟩)
        have named := List.mem_map_of_mem (f := (·.name)) inside
        rw [Table.colors_names colored] at named
        split at named <;> simp_all
      rw [none]
      exact .ticks
  | interval colors rows bounded colored =>
      have named : (intervalScale table).name = "yscale" := table.yScale_name ..
      rw [Drawing.scale?_y rfl (table.xScale_name ..) named]
      exact .bounds (Scale.reads_fields rfl)
  | bars colors rows numeric colored =>
      exact .of_single rfl (table.xScale_name ..) (table.yScale_name ..) ⟨nofun, nofun⟩
        (y.of_domain rfl) (by decide)
  | freePolygon xs ys given unplaced =>
      exact .of_single rfl rfl rfl ⟨nofun, nofun⟩ (Scale.reads_field rfl) (by decide)
  | histogram colors bins rows numeric colored =>
      refine .of_single rfl (table.xScale_name ..) (Table.yScaleOf_name ..) ⟨nofun, nofun⟩
        (Table.yScaleOf_reads ..) ?_
      split <;> decide
  | density colors bandwidth steps extent rows numeric colored =>
      exact .of_single rfl (table.xScale_name ..) (Table.yScaleOf_name ..) ⟨nofun, nofun⟩
        (Table.yScaleOf_reads ..) (by decide)
  | quantiles colors rows numeric colored =>
      exact .of_single rfl rfl (table.yScale_name ..) ⟨nofun, nofun⟩ y (by decide)
  | _ =>
      exact .of_single rfl (table.xScale_name ..) (table.yScale_name ..) ⟨nofun, nofun⟩ y
        (by decide)

end

namespace LayerRequest

variable {request : LayerRequest} {table : Table} {context : LayerContext}

/-- The y scale that a layer declares, if it is drawn. -/
def height? (request : LayerRequest) (table : Table) (context : LayerContext) : Option Scale :=
  (request.drawing? table context).bind (·.scale? "yscale")

theorem IsDrawn.heights (drawn : request.IsDrawn table context) :
    request.kind.Heights (request.height? table context) := by
  rcases isDrawn_iff.mp drawn with ⟨drawing, found⟩
  rcases returns_of_drawing? found with ⟨returned, shown⟩
  rw [height?, found]
  exact (draw_drawn returned).heights shown

theorem isDrawn_of_height? {scale : Scale} (declared : request.height? table context = some scale) :
    request.IsDrawn table context := by
  rcases Option.bind_eq_some_iff.mp declared with ⟨drawing, found, _⟩
  exact isDrawn_iff.mpr ⟨drawing, found⟩

/-- The first y scale among layers of different kinds, one of which is drawn and shows intervals. -/
theorem first_height {before after : List LayerRequest}
    (once : ((before ++ request :: after).map (·.kind)).Nodup) (interval : request.kind = .interval)
    (drawn : request.IsDrawn table context) :
    ∃ scale, (before ++ request :: after).findSome? (·.height? table context) = some scale ∧
      ∀ field ∈ boundFields, ((scale.source? = some tableSource ∧ field ∈ scale.fieldsRead) ↔
        ∀ earlier ∈ before, earlier.IsDrawn table context → earlier.kind = .raster) := by
  obtain ⟨own, declared, reads⟩ := (interval ▸ drawn.heights).covers
  rw [List.findSome?_append, List.findSome?_cons, declared]
  cases early : before.findSome? (·.height? table context) with
  | none =>
      refine ⟨own, rfl, fun field bound => iff_of_true ⟨reads.source, ?_⟩ ?_⟩
      · rw [reads.fields]
        exact List.mem_cons_of_mem _ bound
      · intro earlier inside shown
        have heights := shown.heights
        rw [List.findSome?_eq_none_iff.mp early earlier inside] at heights
        exact heights.eq_raster
  | some first =>
      obtain ⟨earlier, inside, height⟩ := List.exists_of_findSome?_eq_some early
      have shown := isDrawn_of_height? height
      -- No kind is listed twice, so that the earlier layer shows no intervals.
      rw [List.map_append, List.map_cons, interval] at once
      have other : earlier.kind ≠ .interval := (List.nodup_append.mp once).2.2 _
        (List.mem_map_of_mem inside) _ (List.mem_cons_self ..)
      have heights := shown.heights
      rw [height] at heights
      obtain ⟨kind, unread⟩ := heights.apart other
      exact ⟨first, rfl, fun field bound =>
        iff_of_false (fun read => unread field bound read.2) fun rasters =>
          kind (rasters earlier inside shown)⟩

end LayerRequest

namespace PlotDescriptor

variable {descriptor : PlotDescriptor} {options : ChartOptions} {style : Style}
  {compilation : Compilation}

/-- A compiled chart has, of each name, the scale of the first layer that is drawn and declares
one. -/
theorem compile_scale? (returned : (descriptor.compile options style).Returns compilation)
    (name : String) : compilation.chart.scale? name = compilation.requests.findSome? fun request =>
      (request.drawing? compilation.table { style, jitterSeed := options.jitterSeed }).bind
        (·.scale? name) := by
  unfold compile Compilation.project Compilation.analyze Compilation.draw at returned
  simp only [Run.returns_bind, Run.returns_traced, Run.returns_pure] at returned
  rcases returned with ⟨table, projected, analysis, analyzed, ⟨fragments, drawNotes⟩, drawn,
    ⟨chart, mergeNotes⟩, assembled, result, legend, _, _, rfl⟩
  have declared := (Chart.assemble_ofFirst assembled).scales
  rw [Compilation.drawAll_scales drawn] at declared
  have first := find?_firsts_sameBy (·.name) (analysis.requests.flatMap fun request =>
    (request.drawing? table { style, jitterSeed := options.jitterSeed }).elim [] (·.scales))
    (.banded name tableSource "x")
  rw [← declared, ← (Chart.withLegend_eq legend).1, List.find?_flatMap] at first
  refine first.trans (congrArg (List.findSome? · analysis.requests) (funext fun request => ?_))
  cases request.drawing? table _ <;> rfl

/-- The layers of a compiled chart are of different kinds. -/
theorem compile_once (returned : (descriptor.compile options style).Returns compilation) :
    (compilation.requests.map (·.kind)).Nodup := by
  unfold compile Compilation.project Compilation.analyze at returned
  simp only [Run.returns_bind, Run.returns_traced, Run.returns_pure] at returned
  rcases returned with ⟨table, _, analysis, analyzed, _, _, _, _, _, _, _, _, rfl⟩
  exact (LayerAnalysis.ofMarkers_once analyzed).1

/-- The y scale of a chart whose intervals are drawn. It is read from the bounds of the intervals
exactly if all layers that are drawn before are rasters, and otherwise from neither of them. -/
theorem compile_interval_domain (returned : (descriptor.compile options style).Returns compilation)
    {before after : List LayerRequest} {request : LayerRequest}
    (listed : compilation.requests = before ++ request :: after)
    (interval : request.kind = .interval)
    (drawn : request.IsDrawn compilation.table { style, jitterSeed := options.jitterSeed }) :
    ∃ scale, compilation.chart.scale? "yscale" = some scale ∧ ∀ field ∈ boundFields,
      ((scale.source? = some tableSource ∧ field ∈ scale.fieldsRead) ↔ ∀ earlier ∈ before,
        earlier.IsDrawn compilation.table { style, jitterSeed := options.jitterSeed } →
          earlier.kind = .raster) := by
  have found := compile_scale? returned "yscale"
  have once := compile_once returned
  rw [listed] at found once
  exact found ▸ LayerRequest.first_height once interval drawn

end PlotDescriptor

/-! ## Two charts with an interval -/

/-- A category with a value and its bounds. -/
def intervalBindings : Bindings :=
  { x := .list [.text "a"]
    y := .list [.real 1.0]
    ymin := some (.list [.real 0.5])
    ymax := some (.list [.real 2.0]) }

/-- The table of the bindings. -/
def intervalTable : Table :=
  { rows := [{ x := .label "a", y := .number 1.0, ymin := some 0.5, ymax := some 2.0 }]
    xKind := .categorical
    yKind := .continuous
    hasInterval := true
    givenCount := 1 }

theorem intervalBindings_projected : (Table.project intervalBindings).Returns intervalTable := by
  have cells : Projection.usableCells [.real 1.0] true = .ok [some (.number 1.0)] :=
    (Projection.usableCells_reals [1.0]).trans (by simp [Projection.finite?_literals])
  unfold Table.project
  simp only [Run.returns_bind, Run.returns_lift]
  refine ⟨_, rfl, _, rfl, _, rfl, _, rfl, _, rfl, _, rfl, false, rfl, true, rfl, _, rfl, _, cells,
    _, rfl, ?_⟩
  simp only [Run.returns_bind, Run.returns_lift]
  refine ⟨_, rfl, some [0.5], rfl, some [2.0], rfl, (), rfl, ?_⟩
  unfold intervalTable
  rw [Run.returns_pure, Table.mk.injEq]
  decide +kernel

/-- A plot with these bindings and some layers. -/
def intervalPlot (markers : List String) : PlotDescriptor :=
  ⟨intervalBindings, markers.map fun marker => (marker, .map [])⟩

theorem interval_isDrawn : (⟨.interval, []⟩ : LayerRequest).IsDrawn intervalTable { style := {} } :=
  ⟨_, rfl, List.cons_ne_nil _ _⟩

/-- The y scale covers the bounds if only ticks are drawn before. -/
theorem PlotDescriptor.compile_interval_domain_ticks : ∃ compilation scale,
    ((intervalPlot ["geom_raster", "geom_interval", "geom_point"]).compile).Returns compilation ∧
      compilation.requests = [⟨.raster, []⟩, ⟨.interval, []⟩, ⟨.point, []⟩] ∧
      compilation.chart.scale? "yscale" = some scale ∧
      ∀ field ∈ boundFields, scale.source? = some tableSource ∧ field ∈ scale.fieldsRead := by
  obtain ⟨compilation, returned, requests, table⟩ : ∃ compilation,
      ((intervalPlot ["geom_raster", "geom_interval", "geom_point"]).compile).Returns compilation ∧
        compilation.requests = [⟨.raster, []⟩, ⟨.interval, []⟩, ⟨.point, []⟩] ∧
        compilation.table = intervalTable :=
    ⟨_, compile_returns intervalBindings_projected rfl rfl rfl rfl, rfl, rfl⟩
  have drawn : (⟨.interval, []⟩ : LayerRequest).IsDrawn compilation.table { style := {} } :=
    table ▸ interval_isDrawn
  obtain ⟨scale, found, reads⟩ := compile_interval_domain returned
    (show _ = [⟨.raster, []⟩] ++ ⟨.interval, []⟩ :: [⟨.point, []⟩] from requests) rfl drawn
  refine ⟨compilation, scale, returned, requests, found, fun field bound =>
    (reads field bound).mpr ?_⟩
  exact List.forall_mem_singleton.mpr fun _ => rfl

/-- The y scale covers no bounds if points are drawn before, and no conflict is told. -/
theorem PlotDescriptor.compile_interval_domain_points : ∃ compilation scale,
    ((intervalPlot ["geom_point", "geom_interval"]).compile).Returns compilation ∧
      compilation.requests = [⟨.point, []⟩, ⟨.interval, []⟩] ∧
      (⟨.interval, []⟩ : LayerRequest).IsDrawn compilation.table { style := {} } ∧
      compilation.diagnostics = [] ∧ compilation.chart.scale? "yscale" = some scale ∧
      ∀ field ∈ boundFields, field ∉ scale.fieldsRead := by
  have y : intervalTable.yScale.Reads tableSource ["y"] := Table.yScaleOf_reads ..
  refine ⟨_, intervalTable.yScale, compile_returns intervalBindings_projected rfl rfl rfl rfl, rfl,
    interval_isDrawn, rfl, rfl, ?_⟩
  rw [y.fields]
  decide

end ChartCompiler
