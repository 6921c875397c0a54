import ChartCompiler.Proofs.Layer.Settled

/-!
# Statistics whatever their parameters are

A layer over a projected table fails only if it reads a parameter that stands for a number which is
too large. Otherwise it draws what it would draw from the parameters that it uses.
-/

namespace ChartCompiler

open Layer

variable {table : Table} {style : Style} {context : LayerContext} {parameters : Members}

namespace Layer

/-! ## Regressions -/

/-- The regression that is used for a method with a name. -/
def methodNamed (name : String) (order : Int) : RegressionMethod :=
  (methodOfName? name order).getD .linear

theorem isSome_methodOfName? (name : String) (order : Int) :
    (methodOfName? name order).isSome = isMethodName name := by
  unfold isMethodName methodOfName?
  rw [List.isSome_find?, List.isSome_find?]
  rfl

theorem methodNamed_usedMethodName (parameters : Members) (default : String) (order : Int) :
    methodNamed (usedMethodName parameters default) order =
      methodNamed (methodName parameters default) order := by
  unfold usedMethodName
  split
  · rfl
  · next unknown =>
      rw [← isSome_methodOfName? _ order, Option.not_isSome_iff_eq_none] at unknown
      unfold methodNamed
      rw [unknown]
      rfl

theorem regression_of_used (table : Table) (parameters : Members) (default : String) (order : Int) :
    (regression table (methodName parameters default) order).Returns
      (.regression (methodNamed (usedMethodName parameters default) order)
        (table.groupedBy [])) := by
  rw [methodNamed_usedMethodName]
  unfold regression methodNamed
  split
  · next found =>
      rw [found]
      rfl
  · next unknown =>
      rw [unknown]
      rfl

theorem requestedRegression_settles (table : Table) (parameters : Members) :
    (requestedRegression table parameters).Settles
      ((ParameterUse.whole "order" defaultOrder 1 false).Overflows parameters)
      (.regression (methodNamed (usedMethodName parameters "linear")
        (parameters.wholeOr "order" defaultOrder)) (table.groupedBy [])) := by
  unfold requestedRegression
  split
  · exact (ParameterUse.whole_settles (by decide)).then_returns
      (regression_of_used table parameters "linear" _)
  · next missing =>
      have absent : parameters.get? "order" = none := by
        rw [← Option.not_isSome_iff_eq_none]
        exact missing
      have value : parameters.wholeOr "order" defaultOrder = defaultOrder := by
        rw [Members.wholeOr, absent]
        rfl
      rw [value]
      exact (Run.Settles.of_returns (regression_of_used table parameters "linear" _)).congr
        (by simp [ParameterUse.Overflows, absent])

/-- A layer that shows a requested regression. -/
theorem requested_settlesFor {kind : LayerKind} {next : Transform → Run Drawing}
    (uses : kind.parameterUses = [.method "linear", .whole "order" defaultOrder 1 false])
    (rest : ∀ step, ∃ drawing, (next step).Returns drawing) :
    kind.SettlesFor (fun other => requestedRegression table other >>= next) parameters := by
  refine .of_pair uses ((Run.Settles.exists_single parameters (requestedRegression_settles table)
    (rest _)).imp fun drawing settled other method order => ?_)
  refine (settled other ?_).congr (false_or _).symm.to_iff
  rw [ParameterUse.usedMethodName_eq method, ParameterUse.wholeOr_eq order]

variable (drawable : context.style.Drawable)

include drawable

/-- Of fields that cannot be fitted the points are drawn, whatever the parameters are. -/
theorem regressionPlot_settled : LayerKind.regressionPlot.Settled table context parameters := by
  cases fed : table.feeds true true with
  | false =>
      refine .of_unread fed ?_
      simp only [LayerKind.draw, regressionPlot]
      rcases Table.numericObstacle?_of_unfed "regression plot" fed with ⟨obstacle, hindered⟩
      rw [hindered]
      split
      · exact ⟨_, fun _ => rfl⟩
      · have points : ∃ drawing, (liftM (table.groupColorScale context.style) >>= fun colors =>
            pure (pointsDrawing table context.style colors "data_points"
              (some (obstacle ++ "; fitted line dropped"))) : Run Drawing).Returns drawing :=
          returns_colored drawable fun _ => rfl
        exact points.imp fun _ returned _ => returned
  | true =>
      have filled : table.isEmpty = false := by
        simp only [Table.feeds, Bool.and_eq_true, Bool.not_eq_eq_eq_not, Bool.not_true] at fed
        exact fed.1.1
      refine .of_read fed ?_
      change LayerKind.SettlesFor _ (fun other => regressionPlot table context other) _
      simp only [regressionPlot, filled, Table.numericObstacle?_eq_none_iff.mpr fed]
      exact requested_settlesFor rfl fun _ => returns_colored drawable fun _ => rfl

theorem glm_settled : LayerKind.glm.Settled table context parameters :=
  .of_obstacle rfl (fun _ => rfl) fun _ => requested_settlesFor rfl fun _ =>
    returns_colored drawable fun _ => rfl

theorem fit_settled : LayerKind.fit.Settled table context parameters := by
  refine .of_obstacle rfl (fun _ => rfl) fun _ => .of_pair rfl ?_
  have rest : ∃ drawing, (liftM (table.groupColorScale context.style) >>= fun colors =>
      pure (curveDrawing table colors [] (fittedLine table context.style "fit_curve" "fit_line"
        (.regression (methodNamed (usedMethodName parameters "poly")
          (parameters.wholeOr "order" defaultOrder)) (table.groupedBy [])))) :
        Run Drawing).Returns drawing := returns_colored drawable fun _ => rfl
  refine rest.imp fun drawing returned other method order => ?_
  refine Run.Settles.congr ?_ (false_or _).symm.to_iff
  refine (ParameterUse.whole_settles (by decide)).then_returns
    ((Run.returns_bind _ _ _).mpr ⟨_, regression_of_used table other "poly" _, ?_⟩)
  rw [ParameterUse.usedMethodName_eq method, ParameterUse.wholeOr_eq order]
  exact returned

theorem smooth_settled : LayerKind.smooth.Settled table context parameters := by
  refine .of_obstacle rfl (fun _ => rfl) fun _ => .of_single rfl ?_
  refine (Run.Settles.exists_single parameters (Members.realParameter_settles · "bandwidth" 0.3) ?_).imp
    fun drawing settled other same => settled other (ParameterUse.realOr_eq same)
  exact returns_colored drawable fun _ => rfl

/-! ## Distributions -/

theorem density_settled (holds : table.Holds) :
    LayerKind.density.Settled table context parameters := by
  refine .of_obstacle rfl (fun _ => rfl) fun fed => .of_pair rfl ?_
  rcases holds.exists_xExtent fed with ⟨extent, spanned⟩
  rw [spanned]
  refine (Run.Settles.exists_pair parameters (Members.realParameter_settles · "bandwidth" 0.4)
    (fun _ => ParameterUse.whole_settles (by decide)) ?_).imp
      fun drawing settled other bandwidth steps => .of_returns_bind rfl
        (settled other (ParameterUse.realOr_eq bandwidth) (ParameterUse.wholeOr_eq steps))
  exact returns_colored drawable fun _ => rfl

theorem violin_settled (holds : table.Holds) :
    LayerKind.violin.Settled table context parameters := by
  refine .of_obstacle rfl (fun _ => rfl) fun fed => .of_pair rfl ?_
  rcases holds.exists_yExtent fed with ⟨extent, spanned⟩
  rw [spanned]
  refine (Run.Settles.exists_pair parameters (Members.realParameter_settles · "bandwidth" 0.7)
    (fun _ => ParameterUse.whole_settles (by decide)) ?_).imp
      fun drawing settled other bandwidth steps => .of_returns_bind rfl
        (settled other (ParameterUse.realOr_eq bandwidth) (ParameterUse.wholeOr_eq steps))
  exact returns_colored drawable fun _ => rfl

theorem boxplot_settled : LayerKind.boxplot.Settled table context parameters := by
  refine .of_obstacle rfl (fun _ => rfl) fun _ => .of_single rfl ?_
  refine (Run.Settles.exists_single parameters (Members.realParameter_settles · "whisker" 1.5) ?_).imp
    fun drawing settled other same => settled other (ParameterUse.realOr_eq same)
  exact returns_colored drawable fun _ => rfl

theorem means_settled : LayerKind.summary.Settled table context parameters := by
  refine .of_obstacle rfl (fun _ => rfl) fun _ => .of_single rfl ?_
  refine (Run.Settles.exists_single parameters (Members.realParameter_settles · "z" 1.96) ?_).imp
    fun drawing settled other same => settled other (ParameterUse.realOr_eq same)
  exact returns_colored drawable fun _ => rfl

/-! ## Numbers that are divided by -/

theorem histogram_settled (holds : table.Holds) :
    LayerKind.bin.Settled table context parameters := by
  refine .of_obstacle rfl (fun _ => rfl) fun fed => .of_single rfl ?_
  rcases holds.exists_xExtent fed with ⟨extent, spanned⟩
  rw [spanned]
  refine ParameterUse.exists_divisor (by decide) fun count positive => ?_
  rcases Run.Settles.lift_bins extent positive with ⟨bins, settled⟩
  exact settled.exists_then (returns_colored drawable fun _ => rfl)

theorem cornerHistogram_settled (holds : table.Holds) :
    LayerKind.cornerHistogram.Settled table context parameters := by
  refine .of_obstacle rfl (fun _ => rfl) fun fed => .of_single rfl ?_
  rcases holds.exists_differenceExtent fed with ⟨extent, spanned⟩
  rw [spanned]
  refine ParameterUse.exists_divisor (by decide) fun count positive => ?_
  rcases Run.Settles.lift_bins extent positive with ⟨bins, settled⟩
  exact settled.exists_then (returns_colored drawable fun _ => rfl)

omit drawable in
theorem heatmap_settled (holds : table.Holds) :
    LayerKind.bin2d.Settled table context parameters := by
  refine .of_obstacle rfl (fun _ => rfl) fun fed => .of_single rfl ?_
  rcases holds.exists_xExtent fed with ⟨xExtent, xSpanned⟩
  rcases holds.exists_yExtent fed with ⟨yExtent, ySpanned⟩
  rw [xSpanned, ySpanned]
  refine ParameterUse.exists_divisor (by decide) fun count positive => ?_
  rcases Run.Settles.lift_bins xExtent positive with ⟨xBins, xSettled⟩
  rcases Run.Settles.lift_bins yExtent positive with ⟨yBins, ySettled⟩
  have second : ∃ drawing, (liftM (binsOf (some yExtent) count) >>= fun yBins =>
      pure (heatmapDrawing table context.style xBins yBins) : Run Drawing).Settles
        (realOfWhole count = .error .numberTooLarge) drawing := ySettled.exists_then ⟨_, rfl⟩
  exact second.imp fun drawing settled => (xSettled.bind settled).congr or_self_iff

omit drawable in
theorem usableLevel_returns (parameters : Members) :
    (usableLevel (parameters.realOr "level" defaultLevel)).Returns
      (parameters.shareOr "level" defaultLevel) := by
  unfold usableLevel Members.shareOr isShare
  split
  · rfl
  · rfl

/-- Ellipses need two rows besides numbers. -/
theorem ellipse_settled : LayerKind.ellipse.Settled table context parameters := by
  by_cases few : table.rows.length < 2
  · refine .of_unread (by simp [LayerKind.reads, few]) ?_
    simp only [LayerKind.draw, ellipse, if_pos few]
    split
    · exact ⟨_, fun _ => rfl⟩
    · exact ⟨_, fun _ => rfl⟩
  · have enough : LayerKind.ellipse.reads table = table.feeds true true := by
      simp only [LayerKind.reads, decide_eq_true (Nat.le_of_not_lt few), Bool.and_true]
    refine .of_obstacle enough (fun _ => rfl) fun _ => ?_
    simp only [if_neg few]
    refine .of_pair rfl ?_
    obtain ⟨drawing, settled⟩ : ∃ drawing, ∀ other : Members,
        (ParameterUse.whole "points" 48 8 true).used other =
          (ParameterUse.whole "points" 48 8 true).used parameters →
        (other.wholeParameter "points" 48 8 >>= fun points =>
          liftM (Number.divide (.real fullTurn) (.whole points)) >>= fun angle =>
          liftM (table.groupColorScale context.style) >>= fun colors =>
          pure (ellipseDrawing table context.style colors points angle
            (ellipseRadius (parameters.shareOr "level" defaultLevel))) : Run Drawing).Settles
          ((ParameterUse.whole "points" 48 8 true).Overflows other) drawing := by
      refine ParameterUse.exists_divisor (by decide) fun count positive => ?_
      rcases Run.Settles.lift_divide fullTurn positive with ⟨angle, divided⟩
      exact divided.exists_then (returns_colored drawable fun _ => rfl)
    refine ⟨drawing, fun other level points =>
      (Members.realParameter_settles other "level" defaultLevel).bind
        (.of_returns_bind (usableLevel_returns other) ?_)⟩
    rw [ParameterUse.shareOr_eq level]
    exact settled other points

end Layer

/-! ## Every kind of layer -/

/-- Every layer over a projected table draws the same from all parameters of which it uses the
same, unless it reads a number that is too large. -/
theorem LayerKind.settled (kind : LayerKind) (holds : table.Holds)
    (drawable : context.style.Drawable) (seeded : context.Seeded) (parameters : Members) :
    kind.Settled table context parameters := by
  cases kind with
  | point => exact .of_unread rfl ((points_returns drawable).imp fun _ returned _ => returned)
  | line => exact .of_unread rfl ((line_returns drawable).imp fun _ returned _ => returned)
  | bar => exact .of_unread rfl ((bars_returns drawable).imp fun _ returned _ => returned)
  | raster => exact .of_unread rfl ((raster_returns drawable).imp fun _ returned _ => returned)
  | interval => exact .of_unread rfl ((interval_returns drawable).imp fun _ returned _ => returned)
  | qq => exact .of_unread rfl ((quantiles_returns drawable).imp fun _ returned _ => returned)
  | jitter =>
      exact (jitterDisplacement table context.style).settled drawable seeded rfl rfl fun _ => rfl
  | swarm => exact (swarmDisplacement context.style).settled drawable seeded rfl rfl fun _ => rfl
  | abline => exact abline_settled drawable holds
  | vline => exact .of_read rfl (.of_single rfl
      ((verticalRules table).layer_settles drawable parameters))
  | hline => exact .of_read rfl (.of_single rfl
      ((horizontalRules table).layer_settles drawable parameters))
  | polygon => exact polygon_settled drawable
  | regressionPlot => exact regressionPlot_settled drawable
  | glm => exact glm_settled drawable
  | fit => exact fit_settled drawable
  | smooth => exact smooth_settled drawable
  | bin => exact histogram_settled drawable holds
  | density => exact density_settled drawable holds
  | violin => exact violin_settled drawable holds
  | boxplot => exact boxplot_settled drawable
  | summary => exact means_settled drawable
  | bin2d => exact heatmap_settled holds
  | ellipse => exact ellipse_settled drawable
  | cornerHistogram => exact cornerHistogram_settled drawable holds

theorem Drawing.report_returns (drawing : Drawing) (kind : LayerKind) :
    (drawing.report kind).Returns () := by
  unfold Drawing.report
  split <;> rfl

/-- A requested layer is drawn the same from all parameters of which it uses the same. -/
theorem LayerRequest.settled (request : LayerRequest) (holds : table.Holds)
    (drawable : context.style.Drawable) (seeded : context.Seeded) : ∃ drawing, ∀ parameters,
      request.kind.used parameters = request.kind.used request.parameters →
      (LayerRequest.draw ⟨request.kind, parameters⟩ table context).Settles
        (request.kind.Overflows table parameters) drawing := by
  rcases request.kind.settled holds drawable seeded request.parameters with ⟨drawing, settled⟩
  exact ⟨drawing, fun parameters same => (settled parameters same).then_returns
    ((Run.returns_bind _ _ _).mpr ⟨(), drawing.report_returns _, rfl⟩)⟩

end ChartCompiler
