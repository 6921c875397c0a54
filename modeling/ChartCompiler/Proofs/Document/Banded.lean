import ChartCompiler.Proofs.Document.Listed
import ChartCompiler.Proofs.Scale.Table

/-!
# Scales with bands

Where a document asks for bands: places inside bands, widths of bands, and places of labels, which
only a scale with bands has. Marks are banded if all scales that they ask for bands have them.
-/

namespace ChartCompiler

def bandwidthFunction : List (List Char) := ["bandwidth".toList]

def placeFunction : List (List Char) := ["scale".toList]

namespace Members

/-- Whether a map places a field by a scale, by itself or in one of its expressions. -/
def PlacesBy (rule : Members) (scale field : String) : Prop :=
  (rule.text? "scale" = some scale ∧ rule.text? "field" = some field) ∨
    ∃ formula ∈ rule.formulas,
      field ∈ datumFields formula ∧ scale ∈ quotedCalls placeFunction formula

end Members

/-- Whether marks ask only scales with bands for bands: where a map names a share of a band, where
an expression names the width of a band, and where a field that holds labels is placed. -/
structure MarksBanded (isBand : List Members → String → Prop) (descends : String → Prop)
    (labels : List String) (marks : List Value) : Prop where
  channels : ∀ {around mark}, Stands marks around mark → ∀ rule ∈ mark.rules,
    rule.contains "band" = true → ∃ scale, rule.text? "scale" = some scale ∧ isBand around scale
  calls : ∀ {around mark}, Stands marks around mark → ∀ formula ∈ mark.markFormulas,
    ∀ scale ∈ quotedCalls bandwidthFunction formula, isBand around scale
  inner : ∀ {around group}, Stands marks around group →
    ∀ formula ∈ group.signalFormulas ++ (group.maps "scales").flatMap Members.rangeFormulas,
      ∀ scale ∈ quotedCalls bandwidthFunction formula, isBand (group :: around) scale
  placed : ∀ {around mark}, Stands marks around mark →
    ∀ source, mark.rowsBehind? around = some source → descends source →
      ∀ rule ∈ mark.rules, ∀ field ∈ labels, ∀ scale, rule.PlacesBy scale field →
        isBand around scale

/-! ## Expressions and encodings -/

theorem bandwidthFunction_quoting : QuotedCall.AreQuoting bandwidthFunction :=
  ⟨by decide, by decide⟩

theorem placeFunction_quoting : QuotedCall.AreQuoting placeFunction :=
  ⟨by decide, by decide⟩

section

variable {environment : Environment} {columns : Columns}

/-- An expression asks scales with bands for the width of a band. -/
theorem Expr.Fits.bandwidths {expression : Expr} (fits : expression.Fits environment columns) :
    quotedCalls bandwidthFunction expression.toText ⊆ environment.bands := by
  rw [Expr.quotedCalls_toText bandwidthFunction_quoting expression fits.isClear]
  induction expression with
  | number _ | whole _ | extent _ | random | text _ | datum _ => exact List.nil_subset _
  | bandwidth scale => exact List.cons_subset.mpr ⟨fits, List.nil_subset _⟩
  | scaled _ argument induction => exact induction fits.1
  | apply _ argument induction => exact induction fits
  | combine _ first second firstInduction secondInduction
  | binary _ first second firstInduction secondInduction
  | pair first second firstInduction secondInduction =>
      exact List.append_subset.mpr ⟨firstInduction fits.1, secondInduction fits.2⟩

theorem bandwidths_of_fits {expressions : List Expr}
    (fits : ∀ expression ∈ expressions, expression.Fits environment columns) :
    ∀ formula ∈ expressions.map Expr.toText,
      ∀ scale ∈ quotedCalls bandwidthFunction formula, scale ∈ environment.bands := by
  intro formula inside
  rcases List.mem_map.mp inside with ⟨expression, listed, rfl⟩
  exact fun scale called => (fits expression listed).bandwidths called

theorem Encoding.Fits.bands {encoding : Encoding} (fits : encoding.Fits environment columns)
    (banded : encoding.rule.contains "band" = true) :
    ∃ scale, encoding.rule.text? "scale" = some scale ∧ scale ∈ environment.bands := by
  cases encoding with
  | inBand scale name share => exact ⟨scale.text, rfl, fits.2.1⟩
  | bandShare scale share => exact ⟨scale.text, rfl, fits.1⟩
  | _ => cases banded

/-- A field that holds labels is placed by scales with bands. -/
theorem Encoding.Fits.places {encoding : Encoding} (fits : encoding.Fits environment columns)
    {scale field : String} (places : encoding.rule.PlacesBy scale field)
    (labelled : field ∈ columns.labels) : scale ∈ environment.bands := by
  rcases places with ⟨scaled, named⟩ | ⟨formula, computed, read, called⟩
  · rw [Encoding.text?_scale] at scaled
    rw [Encoding.text?_field] at named
    cases encoding with
    | constant _ | signal _ | place _ _ | bandShare _ _ => cases named
    | field _ _ | inBand _ _ _ =>
        cases scaled
        cases named
        exact fits.1.banded labelled
  · rw [Encoding.formulas_rule] at computed
    cases encoding with
    | constant _ | field _ _ | inBand _ _ _ | place _ _ | bandShare _ _ => cases computed
    | signal expression =>
        cases List.mem_singleton.mp computed
        rw [Expr.datumFields_toText expression fits.1.isClear] at read
        rw [Expr.quotedCalls_toText placeFunction_quoting expression fits.1.isClear] at called
        exact fits.2 field read labelled called

end

/-! ## Marks -/

namespace MarksBanded

variable {isBand : List Members → String → Prop} {descends : String → Prop}
  {labels : List String}

/-- The marks of a drawing that fits are banded if its surroundings have the bands that they
promise, and if the sources behind labels are known to hold them. -/
theorem of_fits {environment : Environment} {graphics : List Graphic}
    (fits : ∀ graphic ∈ graphics, graphic.Fits environment)
    (bands : ∀ {around inner}, environment.Reaches graphics around inner →
      ∀ scale ∈ inner.bands, isBand around scale)
    (labelled : ∀ source columns, environment.sources.lookup source = some columns →
      descends source → columns.labels = labels) :
    MarksBanded isBand descends labels (graphics.map fun graphic => .map graphic.toMembers) := by
  constructor
  · intro around mark stands rule inside banded
    rcases (Graphic.stands stands).fits fits with ⟨inner, columns, reaches, written, _⟩
    rcases written.rules with ⟨encodings, rules, fitting⟩
    rw [rules] at inside
    rcases List.mem_map.mp inside with ⟨encoding, listed, rfl⟩
    rcases (fitting encoding listed).bands banded with ⟨scale, named, band⟩
    exact ⟨scale, named, bands reaches scale band⟩
  · intro around mark stands formula inside scale called
    rcases (Graphic.stands stands).fits fits with ⟨inner, columns, reaches, written, _⟩
    rcases written.formulas with ⟨expressions, formulas, fitting⟩
    rw [formulas] at inside
    exact bands reaches scale (bandwidths_of_fits fitting formula inside scale called)
  · intro around group stands formula inside scale called
    cases Graphic.stands stands with
    | mark content drawn | nested _ content drawn listed =>
        rw [Mark.innerFormulas_toMembers] at inside
        cases inside
    | group content drawn =>
        rcases fits _ drawn with ⟨columns, onRows⟩
        rcases onRows.innerFormulas formula inside with ⟨expression, rfl, fitting⟩
        exact bands (.inside content drawn columns onRows) scale (fitting.bandwidths called)
  · intro around mark stands source behind descended rule inside field labelled' scale places
    rcases (Graphic.stands stands).fits fits with ⟨inner, columns, reaches, written, rows⟩
    rcases written.rules with ⟨encodings, rules, fitting⟩
    rcases rows source behind with ⟨whole, found, same⟩
    rw [rules] at inside
    rcases List.mem_map.mp inside with ⟨encoding, listed, rfl⟩
    apply bands reaches scale
    apply (fitting encoding listed).places places
    rw [same, labelled source whole found descended]
    exact labelled'

theorem flatMap {items : List α} {marksOf : α → List Value}
    (each : ∀ item ∈ items, MarksBanded isBand descends labels (marksOf item)) :
    MarksBanded isBand descends labels (items.flatMap marksOf) := by
  constructor
  all_goals
    intro around mark stands
    rcases stands.of_flatMap with ⟨item, inside, stands⟩
  · exact (each item inside).channels stands
  · exact (each item inside).calls stands
  · exact (each item inside).inner stands
  · exact (each item inside).placed stands

end MarksBanded

/-! ## The selection -/

namespace Legend

theorem markTest_bandwidths {formula : String} (written : .text formula = markTest) :
    quotedCalls bandwidthFunction formula = [] := by
  cases written
  decide +kernel

/-- Only the color group is placed by the maps for the selection. -/
theorem selectionRules_place {style : Style} {rule : Members}
    (inside : rule ∈ selectionRules style) {scale field : String}
    (places : rule.PlacesBy scale field) : field = "color" := by
  rcases selectionRules_read rule inside with ⟨_, named, tested⟩
  rcases places with ⟨_, shown⟩ | ⟨formula, computed, read, _⟩
  · exact named field shown
  · rw [(markTest_reads (tested formula computed)).1] at read
    exact List.mem_singleton.mp read

theorem Follows.rowsBehind? {style : Style} {before after : Members} {outer around : List Members}
    (follows : Follows style before after) (same : List.Forall₂ (Follows style) outer around) :
    after.rowsBehind? around = before.rowsBehind? outer := by
  unfold Members.rowsBehind?
  rw [follows.facet?, follows.data?, funext (sourceBehind?_of_follows same)]

end Legend

/-- Marks that follow the selection are banded if the marks before were. -/
theorem MarksBanded.follow {isBand : List Members → String → Prop} {descends : String → Prop}
    {labels : List String} {style : Style} {marks changed : List Value} {count : Nat}
    (banded : MarksBanded isBand descends labels marks)
    (kept : ∀ {outer around}, List.Forall₂ (Legend.Follows style) outer around →
      ∀ scale, isBand outer scale → isBand around scale)
    (colors : "color" ∉ labels)
    (made : Legend.selectableMarks style marks = .ok (changed, count)) :
    MarksBanded isBand descends labels changed := by
  constructor
  all_goals
    intro around after stands
    rcases Legend.madeFrom_of_stands made stands with ⟨outer, before, place, same, from_⟩
    have follows := from_.follows.1
  · intro rule inside shares
    rcases follows.rules rule inside with old | ⟨new, _⟩
    · rcases banded.channels place rule old shares with ⟨scale, named, band⟩
      exact ⟨scale, named, kept same scale band⟩
    · rw [(Legend.selectionRules_read rule new).1] at shares
      cases shares
  · intro formula inside scale called
    rcases follows.markFormulas formula inside with old | new
    · exact kept same scale (banded.calls place formula old scale called)
    · rw [Legend.markTest_bandwidths new] at called
      cases called
  · rw [follows.signalFormulas, follows.maps "scales" (by decide) (by decide)]
    intro formula inside scale called
    exact kept (.cons follows same) scale (banded.inner place formula inside scale called)
  · rw [follows.rowsBehind? same]
    intro source behind descended rule inside field labelled scale places
    rcases follows.rules rule inside with old | ⟨new, _⟩
    · apply kept same scale
      exact banded.placed place source behind descended rule old field labelled scale places
    · rw [Legend.selectionRules_place new places] at labelled
      exact absurd labelled colors

end ChartCompiler
