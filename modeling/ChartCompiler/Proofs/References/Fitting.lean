import ChartCompiler.Proofs.Drawing.Fitting
import ChartCompiler.Proofs.References.Rendered

/-!
# Fitting drawings are closed

A drawing that fits refers to no other scales than those that it declares.
-/

namespace ChartCompiler

open Value (RefersOnly)

variable {environment : Environment} {columns : Columns}

/-- Whether the bands of an environment are among its scales. -/
def Environment.Closed (environment : Environment) : Prop :=
  environment.bands ⊆ environment.scales

/-! ## Expressions and encodings -/

theorem Expr.Fits.calls {expression : Expr} (fits : expression.Fits environment columns)
    (closed : environment.Closed) {functions : List (List Char)} :
    expression.calls functions ⊆ environment.scales := by
  induction expression with
  | number _ | whole _ | extent _ | random | text _ | datum _ => exact List.nil_subset _
  | bandwidth _ =>
      unfold Expr.calls
      split
      · exact List.cons_subset.mpr ⟨closed fits, List.nil_subset _⟩
      · exact List.nil_subset _
  | scaled _ argument induction =>
      refine List.append_subset.mpr ⟨?_, induction fits.1⟩
      split
      · exact List.cons_subset.mpr ⟨fits.2, List.nil_subset _⟩
      · exact List.nil_subset _
  | apply _ argument induction => exact induction fits
  | combine _ first second firstInduction secondInduction
  | binary _ first second firstInduction secondInduction
  | pair first second firstInduction secondInduction =>
      exact List.append_subset.mpr ⟨firstInduction fits.1, secondInduction fits.2⟩

namespace Encoding.Fits

variable {encoding : Encoding} (fits : encoding.Fits environment columns)

include fits

theorem isClear : encoding.isClear = true := by
  cases encoding with
  | constant _ | place _ _ | bandShare _ _ => rfl
  | signal expression => exact Expr.Fits.isClear fits.1
  | field _ _ | inBand _ _ _ =>
      simpa [Encoding.isClear, Encoding.field?, Encoding.expression?] using fits.1.word

theorem references (closed : environment.Closed) : encoding.references ⊆ environment.scales := by
  cases encoding with
  | constant _ => exact List.nil_subset _
  | signal expression =>
      simpa [Encoding.references, Encoding.scale?, Encoding.expression?]
        using Expr.Fits.calls fits.1 closed
  | field _ _ | inBand _ _ _ =>
      simpa [Encoding.references, Encoding.scale?, Encoding.expression?] using fits.1.declared
  | place _ _ => simpa [Encoding.references, Encoding.scale?, Encoding.expression?] using fits.1
  | bandShare _ _ =>
      simpa [Encoding.references, Encoding.scale?, Encoding.expression?] using closed fits.1

theorem known {value : Value} (shown : encoding.constant? = some value) :
    environment.style.Knows value := by
  cases encoding with
  | constant content =>
      cases shown
      exact fits
  | _ => cases shown

end Encoding.Fits

theorem Encoding.constants_known {encodings : List Encoding}
    (fits : ∀ encoding ∈ encodings, encoding.Fits environment columns) :
    ∀ value ∈ encodings.filterMap Encoding.constant?, environment.style.Knows value := by
  intro value inside
  rcases List.mem_filterMap.mp inside with ⟨encoding, listed, shown⟩
  exact (fits encoding listed).known shown

/-! ## Marks and groups -/

theorem flatMap_subset {items : List α} {parts : α → List β} {whole : List β}
    (each : ∀ item ∈ items, parts item ⊆ whole) : items.flatMap parts ⊆ whole := by
  intro part inside
  rcases List.mem_flatMap.mp inside with ⟨item, listed, member⟩
  exact each item listed member

namespace Mark.Fits

variable {mark : Mark} (fits : mark.Fits environment)

include fits

theorem isClear : mark.isClear = true := by
  rcases fits.onRows with ⟨columns, onRows⟩
  simp only [Mark.isClear, Bool.and_eq_true, List.all_eq_true, Option.all_eq_true]
  exact ⟨⟨⟨fits.name, fits.source⟩, fun order inside => (onRows.sort order inside).isClear⟩,
    fun encoding inside => (onRows.encodings encoding inside).isClear⟩

theorem references (closed : environment.Closed) : mark.references ⊆ environment.scales := by
  rcases fits.onRows with ⟨columns, onRows⟩
  refine List.append_subset.mpr ⟨flatMap_subset fun encoding inside =>
    (onRows.encodings encoding inside).references closed, flatMap_subset fun order inside => ?_⟩
  exact (onRows.sort order (Option.mem_toList.mp inside)).calls closed

theorem constants : ∀ value ∈ mark.constants, environment.style.Knows value := by
  rcases fits.onRows with ⟨columns, onRows⟩
  exact Encoding.constants_known onRows.encodings

end Mark.Fits

theorem ScaleRange.Fits.isClear {range : ScaleRange} (fits : range.Fits environment) :
    range.isClear = true := by
  cases range with
  | extent _ | colors _ => rfl
  | signal _ | upTo _ | downFrom _ => exact Expr.Fits.isClear fits
  | given _ => exact False.elim fits

theorem ScaleRange.Fits.references {range : ScaleRange} (fits : range.Fits environment)
    (closed : environment.Closed) : range.references ⊆ environment.scales := by
  cases range with
  | extent _ | colors _ | given _ => exact List.nil_subset _
  | signal _ | upTo _ | downFrom _ =>
      simpa [ScaleRange.references, ScaleRange.expression?] using Expr.Fits.calls fits closed

theorem ScaleRange.Fits.constants {range : ScaleRange} (fits : range.Fits environment) :
    ∀ value ∈ range.constants, environment.style.Knows value := by
  cases range with
  | colors items => exact fits
  | extent _ | signal _ | upTo _ | downFrom _ | given _ => exact List.forall_mem_nil _

theorem Group.inside_closed {group : Group} (closed : environment.Closed) :
    (group.inside environment columns).Closed := by
  refine List.append_subset.mpr ⟨fun name banded => List.mem_append_left _ ?_,
    fun name banded => List.mem_append_right _ (closed banded)⟩
  rcases List.mem_map.mp banded with ⟨declaration, inside, rfl⟩
  exact List.mem_map_of_mem (List.mem_filter.mp inside).1

namespace Group.FitsOver

variable {group : Group} (fits : group.FitsOver environment columns)

include fits

theorem isClear : group.isClear = true := by
  simp only [Group.isClear, Facet.isClear, Bool.and_eq_true, List.all_eq_true, Option.all_eq_true]
  refine ⟨⟨⟨⟨⟨⟨fits.name, fun facet inside => ?_⟩, fun encoding inside => ?_⟩,
    fun signal inside => ?_⟩, fits.clear⟩, fun axis inside => (fits.axes axis inside).clear⟩,
    fun mark inside => (fits.marks mark inside).isClear⟩
  · have facet := fits.facet facet inside
    exact ⟨⟨facet.name, facet.source⟩, facet.words⟩
  · exact (fits.encodings encoding inside).isClear
  · exact ⟨(fits.signals signal inside).1, (fits.signals signal inside).2.isClear⟩

theorem constants : ∀ value ∈ group.constants, environment.style.Knows value := by
  refine List.forall_mem_append.mpr ⟨Encoding.constants_known fits.encodings, fun value inside => ?_⟩
  rcases List.mem_flatMap.mp inside with ⟨mark, listed, member⟩
  exact (fits.marks mark listed).constants value member

/-- What a group refers to inside is declared by the group or around it. -/
theorem innerReferences (closed : environment.Closed) :
    group.innerReferences ⊆ group.declared ++ environment.scales := by
  have inner : (group.inside environment columns).Closed := Group.inside_closed closed
  refine List.append_subset.mpr ⟨List.append_subset.mpr ⟨List.append_subset.mpr
    ⟨List.append_subset.mpr ⟨flatMap_subset fun encoding inside => ?_,
      flatMap_subset fun signal inside => (fits.signals signal inside).2.calls inner⟩,
      flatMap_subset fun scale inside => (fits.scales scale inside).range.references inner⟩, ?_⟩,
    flatMap_subset fun mark inside => (fits.marks mark inside).references inner⟩
  · exact fun name called =>
      List.mem_append_right _ ((fits.encodings encoding inside).references closed called)
  · intro name shown
    rcases List.mem_map.mp shown with ⟨axis, inside, rfl⟩
    exact (fits.axes axis inside).declared

theorem references (closed : environment.Closed) : group.references ⊆ environment.scales := by
  intro name inside
  rcases List.mem_filter.mp inside with ⟨inner, foreign⟩
  rcases List.mem_append.mp (fits.innerReferences closed inner) with own | declared
  · exact absurd own (by simpa using foreign)
  · exact declared

end Group.FitsOver

/-! ## Drawings -/

/-- Whether the values that a style brings into drawings refer to no scales. -/
def Style.Silent (style : Style) : Prop := ∀ value ∈ style.shown, value.RefersToNothing

theorem Style.Silent.refersOnly {style : Style} (silent : style.Silent) {value : Value}
    (known : style.Knows value) {hidden : List String} {allowed : String → Prop} :
    value.RefersOnly hidden allowed := by
  rcases known with shown | plain
  · exact (silent value shown).refersOnly
  · exact .of_isPlain plain

theorem Graphic.Fits.refersOnly {graphic : Graphic} (fits : graphic.Fits environment)
    (closed : environment.Closed) (silent : environment.style.Silent) :
    (Value.map graphic.toMembers).RefersOnly [] (· ∈ environment.scales) := by
  cases graphic with
  | mark mark =>
      exact Mark.refersOnly (Mark.Fits.isClear fits)
        (fun value shown => silent.refersOnly (Mark.Fits.constants fits value shown))
        (fun name called _ => Mark.Fits.references fits closed called)
  | group group =>
      rcases fits with ⟨columns, fits⟩
      exact Group.refersOnly fits.isClear
        (fun value shown => silent.refersOnly (fits.constants value shown))
        (fun name called => fits.references closed called)

end ChartCompiler
