import ChartCompiler.Layer.Drawing
import ChartCompiler.Proofs.Layer.Computed
import ChartCompiler.Proofs.Layer.Defaults

/-!
# Layers whatever their parameters are

What it means that a layer draws the same from all parameters of which it uses the same, unless it
reads one that stands for a number which is too large. The layers of rows, lines and rules do so.
-/

namespace ChartCompiler

open Layer

variable {table : Table} {style : Style} {context : LayerContext} {parameters : Members}

/-! ## What layers need besides parameters -/

/-- Whether a style has what layers compute with: some colors, and a distance in pixels. -/
structure Style.Drawable (style : Style) : Prop where
  palette : style.palette ≠ []
  jitterPixels : ∃ pixels, style.jitterPixels = .real pixels

theorem Style.standard_drawable : ({} : Style).Drawable := ⟨List.cons_ne_nil _ _, _, rfl⟩

/-- Whether there is no seed, or one that is a whole number not below zero. -/
def LayerContext.Seeded (context : LayerContext) : Prop :=
  ∀ seed ∈ context.jitterSeed, ∃ size : Nat, seed = .whole size

theorem Style.Drawable.groupColorScale (drawable : style.Drawable) (table : Table) :
    ∃ colors, table.groupColorScale style = .ok colors := by
  have filled : style.palette.isEmpty = false := by
    simpa using drawable.palette
  unfold Table.groupColorScale Table.colorScale Table.paletteColors
  rw [filled]
  split
  · exact ⟨_, rfl⟩
  · exact ⟨_, rfl⟩

namespace Table

/-- Whether a table has rows, and numbers where they are needed. -/
def feeds (table : Table) (needsX needsY : Bool) : Bool :=
  !table.isEmpty && (!needsX || table.xIsNumeric) && (!needsY || table.yIsNumeric)

theorem numericObstacle?_eq_none_iff {layer : String} {needsX needsY : Bool} :
    table.numericObstacle? layer needsX needsY = none ↔ table.feeds needsX needsY = true := by
  unfold numericObstacle? feeds
  cases table.isEmpty <;> cases needsX <;> cases needsY <;> cases table.xIsNumeric <;>
    cases table.yIsNumeric <;> simp

theorem numericObstacle?_of_unfed {needsX needsY : Bool} (layer : String)
    (unfed : table.feeds needsX needsY = false) :
    ∃ obstacle, table.numericObstacle? layer needsX needsY = some obstacle := by
  rw [← Option.ne_none_iff_exists', Ne, numericObstacle?_eq_none_iff, unfed]
  decide

theorem xExtent_of_unfed (unfed : table.feeds true false = false) : table.xExtent = none := by
  unfold Table.xExtent
  split
  · next numeric =>
      have empty : table.rows = [] := by
        simpa [feeds, isEmpty, numeric] using unfed
      rw [empty]
      rfl
  · rfl

namespace Holds

variable (holds : table.Holds) {needsX needsY : Bool}

theorem rows_ne_nil (fed : table.feeds needsX needsY = true) : table.rows ≠ [] := by
  intro none
  simp [feeds, isEmpty, none] at fed

theorem filterMap_ne_nil {rows : List Row} {value? : Row → Option Binary64} (filled : rows ≠ [])
    (found : ∀ row ∈ rows, ∃ value, value? row = some value) : rows.filterMap value? ≠ [] := by
  cases rows with
  | nil => exact absurd rfl filled
  | cons row rest =>
      rcases found row (List.mem_cons_self ..) with ⟨value, here⟩
      rw [List.filterMap_cons, here]
      exact List.cons_ne_nil _ _

include holds

theorem exists_xExtent (fed : table.feeds true needsY = true) :
    ∃ extent, table.xExtent = some extent := by
  have numeric : table.xIsNumeric = true := by
    simp only [feeds, Bool.and_eq_true, Bool.not_true, Bool.false_or] at fed
    exact fed.1.2
  unfold Table.xExtent
  rw [if_pos numeric]
  refine Extent.of?_isSome (filterMap_ne_nil (rows_ne_nil fed) fun row inside => ?_)
  rcases holds.xNumber numeric row inside with ⟨value, same, _⟩
  exact ⟨value, by rw [same]; rfl⟩

theorem exists_yExtent (fed : table.feeds needsX true = true) :
    ∃ extent, table.yExtent = some extent := by
  have numeric : table.yIsNumeric = true := by
    simp only [feeds, Bool.and_eq_true, Bool.not_true, Bool.false_or] at fed
    exact fed.2
  unfold Table.yExtent
  rw [if_pos numeric]
  refine Extent.of?_isSome (filterMap_ne_nil (rows_ne_nil fed) fun row inside => ?_)
  rcases holds.yNumber numeric row inside with ⟨value, same, _⟩
  exact ⟨value, by rw [same]; rfl⟩

theorem exists_differenceExtent (fed : table.feeds true true = true) :
    ∃ extent, table.differenceExtent = some extent := by
  have numeric : table.xIsNumeric = true ∧ table.yIsNumeric = true := by
    simp only [feeds, Bool.and_eq_true, Bool.not_true, Bool.false_or] at fed
    exact ⟨fed.1.2, fed.2⟩
  unfold differenceExtent
  rw [if_pos (by simp [numeric.1, numeric.2])]
  refine Extent.of?_isSome (filterMap_ne_nil (rows_ne_nil fed) fun row inside => ?_)
  rcases holds.xNumber numeric.1 row inside with ⟨x, atX, _⟩
  rcases holds.yNumber numeric.2 row inside with ⟨y, atY, _⟩
  exact ⟨y - x, by rw [difference?, atX, atY]⟩

end Holds

end Table

/-! ## Steps that may find a number too large -/

namespace Run.Settles

variable {run : Run α} {huge other : Prop} {value : α}

/-- A computation that reads one parameter. -/
theorem exists_single (parameters : Members) {read : Members → Run α} {next : α → Run β} {huge : Members → Prop}
    {value : Members → α} (settles : ∀ other, (read other).Settles (huge other) (value other))
    (rest : ∃ result, (next (value parameters)).Returns result) :
    ∃ result, ∀ other, value other = value parameters →
      (read other >>= next).Settles (huge other) result := by
  rcases rest with ⟨result, returned⟩
  exact ⟨result, fun other same => (settles other).then_returns (same ▸ returned)⟩

/-- A computation that reads two parameters. -/
theorem exists_pair (parameters : Members) {firstRead : Members → Run α} {secondRead : Members → Run β}
    {next : α → β → Run γ} {firstHuge secondHuge : Members → Prop} {first : Members → α}
    {second : Members → β}
    (firstSettles : ∀ other, (firstRead other).Settles (firstHuge other) (first other))
    (secondSettles : ∀ other, (secondRead other).Settles (secondHuge other) (second other))
    (rest : ∃ result, (next (first parameters) (second parameters)).Returns result) :
    ∃ result, ∀ other, first other = first parameters → second other = second parameters →
      (firstRead other >>= fun taken => secondRead other >>= next taken).Settles
        (firstHuge other ∨ secondHuge other) result := by
  rcases rest with ⟨result, returned⟩
  refine ⟨result, fun other firstSame secondSame => (firstSettles other).bind ?_⟩
  exact (secondSettles other).then_returns (firstSame ▸ secondSame ▸ returned)

/-- The quotient by a positive number is settled by whether the number is in the range. -/
theorem lift_divide (dividend : Binary64) {count : Int} (positive : 1 ≤ count) :
    ∃ quotient, (liftM (Number.divide (.real dividend) (.whole count)) : Run Binary64).Settles
      (realOfWhole count = .error .numberTooLarge) quotient := by
  rw [Number.divide_positive dividend positive]
  rcases realOfWhole_cases count with large | ⟨real, small⟩
  · exact ⟨.zero, .inl ⟨large, by rw [large]; rfl⟩⟩
  · refine ⟨dividend / real, .inr ⟨?_, by rw [small]; rfl⟩⟩
    rw [small]
    exact nofun

theorem lift_bins (extent : Extent) {count : Int} (positive : 1 ≤ count) :
    ∃ bins, (liftM (binsOf (some extent) count) : Run Bins).Settles
      (realOfWhole count = .error .numberTooLarge) bins := by
  rcases lift_divide (extent.withWidth.greatest - extent.withWidth.least) positive with
    ⟨step, settled⟩
  unfold binsOf
  dsimp only
  rw [Extent.bins_eq]
  refine ⟨⟨.real extent.withWidth.least, .real extent.withWidth.greatest, .real step⟩, ?_⟩
  rcases settled with ⟨large, failed⟩ | ⟨small, returned⟩
  · refine .inl ⟨large, ?_⟩
    rw [fails_lift] at failed ⊢
    rw [failed]
    rfl
  · refine .inr ⟨small, ?_⟩
    rw [returns_lift] at returned ⊢
    rw [returned]
    rfl

end Run.Settles

namespace ParameterUse

variable {name : String} {default minimum : Int}

theorem whole_settles (enough : minimum ≤ default) :
    (parameters.wholeParameter name default minimum).Settles
      ((whole name default minimum false).Overflows parameters)
      (parameters.wholeOr name default minimum) :=
  (Members.wholeParameter_settles parameters name enough).congr (by simp [Overflows])

/-- A whole number that the rest of a computation divides by. -/
theorem divisor_settles {next : Int → Run α} {result : α} (enough : minimum ≤ default)
    (rest : (next (parameters.wholeOr name default minimum)).Settles
      (realOfWhole (parameters.wholeOr name default minimum) = .error .numberTooLarge) result) :
    (parameters.wholeParameter name default minimum >>= next).Settles
      ((whole name default minimum true).Overflows parameters) result :=
  ((Members.wholeParameter_settles parameters name enough).bind rest).congr
    (by simp [Overflows])

theorem exists_divisor {next : Int → Run α} (enough : minimum ≤ default ∧ 1 ≤ minimum)
    (rest : ∀ count, 1 ≤ count → ∃ result, (next count).Settles
      (realOfWhole count = .error .numberTooLarge) result) :
    ∃ result, ∀ other : Members,
      (whole name default minimum true).used other =
        (whole name default minimum true).used parameters →
      (other.wholeParameter name default minimum >>= next).Settles
        ((whole name default minimum true).Overflows other) result := by
  rcases rest (parameters.wholeOr name default minimum)
    (enough.2.trans (Members.wholeOr_minimum enough.1)) with ⟨result, settled⟩
  refine ⟨result, fun other same => divisor_settles enough.1 ?_⟩
  rw [wholeOr_eq same]
  exact settled

end ParameterUse

/-! ## Kinds of layers -/

namespace LayerKind

/-- Whether layers of a kind read their parameters if they are drawn from a table. -/
def reads (kind : LayerKind) (table : Table) : Bool :=
  match kind with
  | .jitter | .swarm => table.feeds false false
  | .abline | .bin | .density => table.feeds true false
  | .violin | .boxplot | .summary => table.feeds false true
  | .glm | .smooth | .fit | .bin2d | .cornerHistogram | .regressionPlot => table.feeds true true
  | .ellipse => table.feeds true true && 2 ≤ table.rows.length
  | .vline | .hline | .polygon => true
  | .point | .line | .bar | .raster | .interval | .qq => false

/-- Whether a layer reads a parameter that stands for a number which is too large for its use. -/
def Overflows (kind : LayerKind) (table : Table) (parameters : Members) : Prop :=
  kind.reads table = true ∧ ∃ use ∈ kind.parameterUses, use.Overflows parameters

/-- What a layer uses of parameters is not too large if they are not. -/
theorem not_overflows_used {kind : LayerKind} (small : ¬ kind.Overflows table parameters) :
    ¬ kind.Overflows table (kind.used parameters) := by
  rintro ⟨read, use, inside, large⟩
  exact not_use_overflows_used inside (fun overflow => small ⟨read, use, inside, overflow⟩) large

/-- Whether a computation has the same result for all parameters of which a layer uses the same,
unless one of them stands for a number that is too large. -/
def SettlesFor (kind : LayerKind) (step : Members → Run Drawing) (parameters : Members) : Prop :=
  ∃ drawing, ∀ other, kind.used other = kind.used parameters →
    (step other).Settles (∃ use ∈ kind.parameterUses, use.Overflows other) drawing

/-- Whether a layer draws the same from all parameters of which it uses the same, unless it reads a
number that is too large. -/
def Settled (kind : LayerKind) (table : Table) (context : LayerContext) (parameters : Members) :
    Prop :=
  ∃ drawing, ∀ other, kind.used other = kind.used parameters →
    (kind.draw table context other).Settles (kind.Overflows table other) drawing

variable {kind : LayerKind} {use first second : ParameterUse} {step : Members → Run Drawing}

/-- A computation of a layer that uses one parameter. -/
theorem SettlesFor.of_single (uses : kind.parameterUses = [use])
    (settled : ∃ drawing, ∀ other, use.used other = use.used parameters →
      (step other).Settles (use.Overflows other) drawing) : kind.SettlesFor step parameters := by
  refine settled.imp fun drawing settled other same => (settled other ?_).congr ?_
  · simpa [used, uses] using same
  · simp [uses]

/-- A computation of a layer that uses two parameters. -/
theorem SettlesFor.of_pair (uses : kind.parameterUses = [first, second])
    (settled : ∃ drawing, ∀ other, first.used other = first.used parameters →
      second.used other = second.used parameters →
      (step other).Settles (first.Overflows other ∨ second.Overflows other) drawing) :
    kind.SettlesFor step parameters := by
  refine settled.imp fun drawing settled other same => ?_
  have both : first.used other = first.used parameters ∧
      second.used other = second.used parameters := by simpa [used, uses] using same
  refine (settled other both.1 both.2).congr ?_
  simp [uses]

namespace Settled

/-- A layer that does not read its parameters. -/
theorem of_unread (unread : kind.reads table = false)
    (returned : ∃ drawing, ∀ other, (kind.draw table context other).Returns drawing) :
    kind.Settled table context parameters := by
  refine returned.imp fun drawing returned other _ => .inr ⟨?_, returned other⟩
  rintro ⟨read, _⟩
  rw [unread] at read
  cases read

theorem of_read (read : kind.reads table = true)
    (settled : kind.SettlesFor (kind.draw table context) parameters) :
    kind.Settled table context parameters :=
  settled.imp fun _ settled other same =>
    (settled other same).congr (by simp [Overflows, read])

/-- A layer that reads its parameters if the table has the numbers that it needs. -/
theorem of_obstacle {layer : String} {needsX needsY : Bool}
    (reads : kind.reads table = table.feeds needsX needsY)
    (drawn : ∀ other, kind.draw table context other =
      match table.numericObstacle? layer needsX needsY with
      | some obstacle => return .empty obstacle
      | none => step other)
    (settled : table.feeds needsX needsY = true → kind.SettlesFor step parameters) :
    kind.Settled table context parameters := by
  cases fed : table.feeds needsX needsY with
  | false =>
      rcases Table.numericObstacle?_of_unfed layer fed with ⟨obstacle, hindered⟩
      refine .of_unread (reads.trans fed) ⟨.empty obstacle, fun other => ?_⟩
      rw [drawn, hindered]
      rfl
  | true =>
      refine .of_read (reads.trans fed) ((settled fed).imp fun drawing settled other same => ?_)
      rw [drawn, Table.numericObstacle?_eq_none_iff.mpr fed]
      exact settled other same

end Settled

end LayerKind

namespace Layer

variable (drawable : context.style.Drawable)

include drawable

/-- The colors of a layer are found whatever the table is. -/
theorem returns_colored {next : List Scale → Run Drawing} {draw : List Scale → Drawing}
    (following : ∀ colors, (next colors).Returns (draw colors)) :
    ∃ drawing, (liftM (table.groupColorScale context.style) >>= next : Run Drawing).Returns drawing := by
  rcases drawable.groupColorScale table with ⟨colors, colored⟩
  exact ⟨draw colors, (Run.returns_bind _ _ _).mpr ⟨colors, colored, following colors⟩⟩

/-! ### Layers without parameters -/

theorem points_returns : ∃ drawing, (points table context).Returns drawing := by
  unfold points
  split
  · exact ⟨_, rfl⟩
  · exact returns_colored drawable fun _ => rfl

theorem line_returns : ∃ drawing, (line table context).Returns drawing := by
  unfold line
  split
  · exact ⟨_, rfl⟩
  · exact returns_colored drawable fun _ => rfl

theorem raster_returns : ∃ drawing, (raster table context).Returns drawing := by
  unfold raster
  split
  · exact ⟨_, rfl⟩
  · exact returns_colored drawable fun _ => rfl

theorem interval_returns : ∃ drawing, (interval table context).Returns drawing := by
  unfold interval
  split
  · exact ⟨_, rfl⟩
  · split
    · exact ⟨_, rfl⟩
    · exact returns_colored drawable fun _ => rfl

theorem bars_returns : ∃ drawing, (bars table context).Returns drawing := by
  unfold bars
  split
  · exact ⟨_, rfl⟩
  · split
    · exact ⟨_, rfl⟩
    · exact returns_colored drawable fun _ => rfl

theorem quantiles_returns : ∃ drawing, (quantiles table context).Returns drawing := by
  unfold quantiles
  split
  · exact ⟨_, rfl⟩
  · exact returns_colored drawable fun _ => rfl

/-! ### Displaced symbols -/

omit drawable in
theorem offsets_ok (size : Nat) (count : Nat) (spread : Binary64) :
    ∃ offsets, Random.offsets (.whole size) count (.real spread) = .ok offsets := by
  unfold Random.offsets
  rw [Random.factors_real]
  exact ⟨_, rfl⟩

theorem Displacement.offsetOf_ok (displacement : Displacement) (seeded : context.Seeded)
    (width : Binary64) : ∃ source inline offset,
      displacement.offsetOf table context width = .ok (source, inline, offset) := by
  rcases drawable.jitterPixels with ⟨pixels, real⟩
  unfold Displacement.offsetOf
  cases given : context.jitterSeed with
  | none =>
      unfold Displacement.renderedOffset
      rw [real]
      dsimp only
      split
      · exact ⟨_, _, _, rfl⟩
      · exact ⟨_, _, _, rfl⟩
  | some seed =>
      rcases seeded seed given with ⟨size, rfl⟩
      have spread : ∃ value, (if displacement.banded = true then Value.real width
          else context.style.jitterPixels) = .real value := by
        split
        · exact ⟨width, rfl⟩
        · exact ⟨pixels, real⟩
      rcases spread with ⟨value, spread⟩
      rcases offsets_ok size table.rows.length value with ⟨offsets, drawn⟩
      dsimp only
      rw [spread]
      unfold Displacement.seededRows
      rw [drawn]
      exact ⟨_, _, _, rfl⟩

theorem Displacement.layer_settles (displacement : Displacement) (seeded : context.Seeded)
    (parameters : Members) : ∃ drawing, ∀ other,
      (ParameterUse.real "width" defaultWidth).used other =
        (ParameterUse.real "width" defaultWidth).used parameters →
      (displacement.draw table context other).Settles
        ((ParameterUse.real "width" defaultWidth).Overflows other) drawing := by
  unfold Displacement.draw
  refine (Run.Settles.exists_single parameters (Members.realParameter_settles · "width" defaultWidth) ?_).imp
    fun drawing settled other same => settled other (ParameterUse.realOr_eq same)
  rcases offsetOf_ok drawable displacement seeded
    (parameters.realOr "width" defaultWidth) with ⟨source, inline, offset, offsets⟩
  rcases drawable.groupColorScale table with ⟨colors, colored⟩
  exact ⟨_, (Run.returns_bind _ _ _).mpr ⟨_, offsets,
    (Run.returns_bind _ _ _).mpr ⟨_, colored, rfl⟩⟩⟩

theorem Displacement.settled {kind : LayerKind} {note : String} (displacement : Displacement)
    (seeded : context.Seeded)
    (uses : kind.parameterUses = [.real "width" defaultWidth])
    (reads : kind.reads table = table.feeds false false)
    (drawn : ∀ other, kind.draw table context other =
      if table.isEmpty then return .empty note else displacement.draw table context other) :
    kind.Settled table context parameters := by
  cases empty : table.isEmpty with
  | true =>
      refine .of_unread (by simp [reads, Table.feeds, empty]) ⟨.empty note, fun other => ?_⟩
      rw [drawn, if_pos empty]
      rfl
  | false =>
      refine .of_read (by simp [reads, Table.feeds, empty]) (.of_single uses ?_)
      rcases displacement.layer_settles drawable seeded parameters with
        ⟨drawing, settled⟩
      refine ⟨drawing, fun other same => ?_⟩
      rw [drawn, if_neg (by simp [empty])]
      exact settled other same

/-! ### Lines and rules -/

theorem abline_settled (holds : table.Holds) :
    LayerKind.abline.Settled table context parameters := by
  cases fed : table.feeds true false with
  | false =>
      refine .of_unread fed ⟨.empty "abline layer needs a numeric x field", fun other => ?_⟩
      change (abline table context other).Returns _
      rw [abline, Table.xExtent_of_unfed fed]
      rfl
  | true =>
      rcases holds.exists_xExtent fed with ⟨extent, spanned⟩
      refine .of_read fed (.of_pair rfl ?_)
      simp only [LayerKind.draw, abline, spanned]
      refine (Run.Settles.exists_pair parameters (Members.realParameter_settles · "slope" 1.0)
        (Members.realParameter_settles · "intercept" 0.0) ?_).imp
          fun drawing settled other slope intercept =>
            settled other (ParameterUse.realOr_eq slope) (ParameterUse.realOr_eq intercept)
      exact returns_colored drawable fun _ => rfl

theorem RuleLayer.layer_settles (layer : RuleLayer) (parameters : Members) : ∃ drawing, ∀ other,
    (ParameterUse.numbers layer.parameter).used other =
      (ParameterUse.numbers layer.parameter).used parameters →
    (layer.draw table context other).Settles
      ((ParameterUse.numbers layer.parameter).Overflows other) drawing := by
  unfold RuleLayer.draw
  refine (Run.Settles.exists_single parameters (Members.numberListParameter_settles · layer.parameter) ?_).imp
    fun drawing settled other same => settled other (ParameterUse.numbersOf_eq same)
  dsimp only
  split
  · split
    · exact ⟨_, rfl⟩
    · exact returns_colored drawable fun _ => rfl
  · split
    · exact ⟨_, rfl⟩
    · exact returns_colored drawable fun _ => rfl

theorem polygon_settled : LayerKind.polygon.Settled table context parameters := by
  refine .of_read rfl (.of_pair rfl ?_)
  simp only [LayerKind.draw, polygon]
  refine (Run.Settles.exists_pair parameters (Members.numberListParameter_settles · "x")
    (Members.numberListParameter_settles · "y") ?_).imp
      fun drawing settled other xs ys =>
        settled other (ParameterUse.numbersOf_eq xs) (ParameterUse.numbersOf_eq ys)
  split
  · split
    · exact returns_colored drawable fun _ => rfl
    · exact ⟨_, rfl⟩
  · split
    · exact ⟨_, rfl⟩
    · exact returns_colored drawable fun _ => rfl

end Layer

end ChartCompiler
