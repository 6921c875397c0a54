import ChartCompiler.Proofs.Table.Recoloring
import ChartCompiler.Proofs.Table.Completion
import Mathlib.Data.Set.List

/-!
# Colors that are whole numbers

The color domain of whole numbers is in the order of the real numbers nearest to them. Whole numbers
that are too long for a real number may share the nearest one, and then their texts decide.
-/

namespace ChartCompiler

/-- The order of whole numbers by the nearest real numbers, and by texts where these are the
same. -/
inductive NearestOrder (left right : Int) : Prop
  | less (apart : Binary64.ofInt? left ≠ Binary64.ofInt? right) (order : left < right)
  | near (same : Binary64.ofInt? left = Binary64.ofInt? right)
      (order : codePoints (toString left) ≤ codePoints (toString right))

theorem NearestOrder.of_numericOrder {left right : Int} {leftReal rightReal : Binary64}
    (leftTaken : Binary64.ofInt? left = some leftReal)
    (rightTaken : Binary64.ofInt? right = some rightReal)
    (order : NumericOrder (toString left) (toString right)) : NearestOrder left right := by
  have leftText := Text.real?_toString leftTaken
  have rightText := Text.real?_toString rightTaken
  have leftDefined := Binary64.ne_nan_of_ofInt? leftTaken
  have rightDefined := Binary64.ne_nan_of_ofInt? rightTaken
  cases order with
  | less leftValue rightValue leftRead rightRead less =>
      obtain rfl := Option.some.inj (leftText.symm.trans leftRead)
      obtain rfl := Option.some.inj (rightText.symm.trans rightRead)
      have ranks := (Binary64.lessThan_iff leftDefined rightDefined).mp less
      apply NearestOrder.less
      · intro same
        rw [leftTaken, rightTaken] at same
        rw [Option.some.inj same] at ranks
        exact lt_irrefl _ ranks
      · by_contra greater
        exact not_lt_of_ge (Binary64.rank_mono (Int.not_lt.mp greater) rightTaken leftTaken) ranks
  | equal leftValue rightValue leftRead rightRead equal texts =>
      obtain rfl := Option.some.inj (leftText.symm.trans leftRead)
      obtain rfl := Option.some.inj (rightText.symm.trans rightRead)
      have ranks := (Binary64.equals_iff leftDefined rightDefined).mp equal
      apply NearestOrder.near _ texts
      rw [leftTaken, rightTaken, Binary64.eq_of_rank_eq leftTaken rightTaken ranks]
  | first _ rightRead =>
      rw [rightText] at rightRead
      cases rightRead
  | others leftRead =>
      rw [leftText] at leftRead
      cases leftRead

/-! ## Whole numbers as colors -/

theorem of_colorLabel_whole {value : Int} {label : String}
    (labelled : colorLabel (.whole value) = .ok label) :
    label = toString value ∧ ∃ real, Binary64.ofInt? value = some real := by
  obtain ⟨missing, known, labelled⟩ := (bind_eq_ok_iff _ _ _).mp labelled
  obtain ⟨real, converted, same⟩ := (bind_eq_ok_iff _ _ _).mp known
  have taken : Binary64.ofInt? value = some real := by
    change realOfWhole value = .ok real at converted
    rw [realOfWhole_eq] at converted
    generalize Binary64.ofInt? value = nearest at converted
    cases nearest with
    | none => cases converted
    | some nearest => exact congrArg some (Except.ok.inj converted)
  refine ⟨?_, real, taken⟩
  cases real with
  | nan => exact absurd rfl (Binary64.ne_nan_of_ofInt? taken)
  | infinite | finite =>
      cases same
      exact (Except.ok.inj labelled).symm

theorem Value.holdsNumbers_wholes (values : List Int) :
    (Value.list (values.map .whole)).holdsNumbers = .ok true := by
  have scalars : ∀ item ∈ values.map Value.whole, item.IsScalar :=
    List.forall_mem_map.mpr fun _ _ => trivial
  have number (value : Int) : (whole value).isNumber = true := rfl
  have text (value : Int) : (whole value).isText = false := rfl
  rw [holdsNumbers_scalars_eq scalars]
  cases values with
  | nil => rfl
  | cons value rest =>
      unfold entriesAreNumeric
      dsimp only
      split
      · simp [number]
      · simp [number, text]

/-- At each kept place there is a whole number, of which the label is the text. -/
theorem Projection.Steps.whole_labelAt {bindings : Bindings} {columns : BoundColumns}
    {table : Table} {values : List Int} (steps : Projection.Steps bindings columns table)
    (bound : columns.color = some (values.map .whole)) :
    ∀ place ∈ columns.keptPlaces table, ∃ value real, values[place]? = some value ∧
      Binary64.ofInt? value = some real ∧ columns.labelAt place = some (toString value) := by
  intro place kept
  obtain ⟨label, _, here⟩ := steps.labelled bound place kept
  obtain ⟨entry, found, labelled⟩ := Option.bind_eq_some_iff.mp here
  rw [bound] at found
  change (values.map Value.whole)[place]? = some entry at found
  rw [List.getElem?_map] at found
  obtain ⟨value, there, rfl⟩ := Option.map_eq_some_iff.mp found
  obtain ⟨rfl, real, taken⟩ := of_colorLabel_whole (eq_ok_of_toOption labelled)
  exact ⟨value, real, there, taken, here⟩

theorem Projection.Steps.whole_order {bindings : Bindings} {columns : BoundColumns} {table : Table}
    {values : List Int} (steps : Projection.Steps bindings columns table)
    (bound : columns.color = some (values.map .whole)) :
    table.colorDomain.Pairwise NumericOrder := by
  have numeric : (Value.list ((values.map Value.whole).take columns.count)).holdsNumbers =
      .ok true := by
    rw [← List.map_take]
    exact Value.holdsNumbers_wholes _
  have extended : ∀ entry ∈ (values.map Value.whole).take columns.count, ¬ entry.IsPoint := by
    rw [← List.map_take]
    exact List.forall_mem_map.mpr fun _ _ => id
  obtain ⟨told, known, order⟩ := steps.order bound
  rw [numeric] at known
  cases known
  exact order (steps.ordered bound numeric extended)

/-- A table whose colors are whole numbers lists those of its rows, in the order of the nearest real
numbers, which is their own if they are not too long. -/
theorem Table.project_wholeColors {bindings : Bindings} {table : Table} {columns : BoundColumns}
    {values : List Int} (returned : (Table.project bindings).Returns table)
    (of : columns.Of bindings) (bound : columns.color = some (values.map .whole))
    (different : ∃ first ∈ columns.keptPlaces table, ∃ second ∈ columns.keptPlaces table,
      values[first]? ≠ values[second]?) :
    ∃ shown : List Int, table.colorDomain = shown.map toString ∧ shown.Nodup ∧
      (∀ value, value ∈ shown ↔
        ∃ place ∈ columns.keptPlaces table, values[place]? = some value) ∧
      shown.Pairwise NearestOrder ∧
      ((∀ value ∈ shown, value.natAbs ≤ 2 ^ (53 : Nat)) → shown.Pairwise (· < ·)) := by
  obtain ⟨steps⟩ := Table.project_stepsOf returned of
  obtain ⟨first, firstKept, second, secondKept, apart⟩ := different
  have grouped : table.hasColorGroup = true := by
    apply (steps.hasColorGroup_iff bound).mpr
    refine ⟨first, firstKept, second, secondKept, fun same => apart ?_⟩
    obtain ⟨left, _, leftHere, _, leftLabel⟩ := steps.whole_labelAt bound first firstKept
    obtain ⟨right, _, rightHere, _, rightLabel⟩ := steps.whole_labelAt bound second secondKept
    rw [leftLabel, rightLabel] at same
    rw [leftHere, rightHere, Text.toString_injective (Option.some.inj same)]
  have listed (label : String) : label ∈ table.colorDomain ↔
      ∃ place ∈ columns.keptPlaces table, columns.labelAt place = some label :=
    steps.mem_domain bound grouped
  obtain ⟨shown, domain⟩ : ∃ shown : List Int, shown.map toString = table.colorDomain := by
    change table.colorDomain ∈ Set.range (List.map toString)
    rw [Set.range_list_map]
    intro label inside
    obtain ⟨place, kept, here⟩ := (listed label).mp inside
    obtain ⟨value, _, _, _, labelled⟩ := steps.whole_labelAt bound place kept
    exact ⟨value, Option.some.inj (labelled.symm.trans here)⟩
  have member (value : Int) : value ∈ shown ↔
      ∃ place ∈ columns.keptPlaces table, values[place]? = some value := by
    rw [← List.mem_map_of_injective Text.toString_injective, domain, listed]
    refine exists_congr fun place => and_congr_right fun kept => ?_
    obtain ⟨other, _, here, _, labelled⟩ := steps.whole_labelAt bound place kept
    rw [here, labelled, Option.some.injEq, Option.some.injEq]
    exact Text.toString_injective.eq_iff
  have taken : ∀ value ∈ shown, ∃ real, Binary64.ofInt? value = some real := by
    intro value inside
    obtain ⟨place, kept, here⟩ := (member value).mp inside
    obtain ⟨_, real, there, known, _⟩ := steps.whole_labelAt bound place kept
    rw [here] at there
    exact ⟨real, Option.some.inj there ▸ known⟩
  have once : shown.Nodup := by
    have labels := steps.once bound
    rw [← domain] at labels
    exact labels.of_map _
  have sorted : shown.Pairwise NearestOrder := by
    have order := steps.whole_order bound
    rw [← domain, List.pairwise_map] at order
    refine order.imp_of_mem fun {left right} leftInside rightInside => ?_
    obtain ⟨leftReal, leftTaken⟩ := taken left leftInside
    obtain ⟨rightReal, rightTaken⟩ := taken right rightInside
    exact NearestOrder.of_numericOrder leftTaken rightTaken
  refine ⟨shown, domain.symm, once, member, sorted, fun short => ?_⟩
  refine (sorted.and once).imp_of_mem fun {left right} leftInside rightInside order => ?_
  obtain ⟨real, known⟩ := taken left leftInside
  cases order.1 with
  | less _ less => exact less
  | near same _ =>
      have equal := Binary64.ofInt?_inj_of_short (short left leftInside) (short right rightInside)
        known (same ▸ known)
      exact absurd equal order.2

theorem Table.project_wholeColors_small :
    (Table.project (coloredBindings wholeColors)).Returns wholeTable ∧
    ∃ shown : List Int, wholeTable.colorDomain = shown.map toString ∧ shown.Nodup ∧
      (∀ value, value ∈ shown ↔ ∃ place ∈ (coloredColumns wholeColors).keptPlaces wholeTable,
        ([2, 10, 5] : List Int)[place]? = some value) ∧
      shown.Pairwise NearestOrder ∧
      ((∀ value ∈ shown, value.natAbs ≤ 2 ^ (53 : Nat)) → shown.Pairwise (· < ·)) :=
  have kept : (coloredColumns wholeColors).keptPlaces wholeTable = [0, 1] :=
    coloredColumns_keptPlaces ..
  ⟨wholeColors_projected, Table.project_wholeColors wholeColors_projected (coloredColumns_of _) rfl
    ⟨0, kept ▸ List.mem_cons_self, 1, kept ▸ List.mem_cons_of_mem _ List.mem_cons_self,
      by decide⟩⟩

/-- Numbers of which the greatest comes first in the order of texts. -/
def longNumbers : List Int := [100000000000000000, 99999999999999999, 0]

/-- The numbers as colors. -/
def longColors : List Value := longNumbers.map .whole

/-- The table with these colors. -/
def longTable : Table :=
  coloredTable "100000000000000000" "99999999999999999" ["100000000000000000", "99999999999999999"]

theorem longColors_projected : (Table.project (coloredBindings longColors)).Returns longTable := by
  have sorted : colorDomain ["100000000000000000", "99999999999999999"] true =
      ["100000000000000000", "99999999999999999"] :=
    List.mergeSort_of_pairwise (by decide +kernel)
  have short : ∀ value ∈ longNumbers.take 2, value.natAbs ≤ 2 ^ 57 := by decide
  have labels : ((longNumbers.take 2).map Value.whole).mapM colorLabel =
      .ok ["100000000000000000", "99999999999999999"] := by
    have texts : (longNumbers.take 2).map toString =
        ["100000000000000000", "99999999999999999"] := by decide
    rw [← texts]
    exact Value.mapM_colorLabel_wholes fun value inside =>
      Binary64.ofInt?_ne_none (short value inside) (by decide)
  exact coloredBindings_projected labels rfl sorted

/-- Numbers that share the nearest real number are not shown in ascending order. -/
theorem Table.project_wholeColors_long :
    (Table.project (coloredBindings longColors)).Returns longTable ∧
      (coloredColumns longColors).Of (coloredBindings longColors) ∧
      (∀ value ∈ longNumbers, -(2 ^ (63 : Nat)) ≤ value ∧ value < 2 ^ (63 : Nat)) ∧
      (coloredColumns longColors).keptPlaces longTable = [0, 1] ∧
      ¬ ∃ shown : List Int, longTable.colorDomain = shown.map toString ∧
        shown.Pairwise (· < ·) := by
  have labels : longTable.colorDomain = (longNumbers.take 2).map toString := by decide
  refine ⟨longColors_projected, coloredColumns_of _, by decide, coloredColumns_keptPlaces .., ?_⟩
  rintro ⟨shown, same, ascending⟩
  rw [labels] at same
  rw [← List.map_injective_iff.mpr Text.toString_injective same] at ascending
  exact absurd ascending (by decide)

end ChartCompiler
