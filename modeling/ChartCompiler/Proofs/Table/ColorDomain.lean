import ChartCompiler.Proofs.Number.Order
import ChartCompiler.Proofs.Text.Distinct
import ChartCompiler.Proofs.Text.Written
import ChartCompiler.Table.Projection
import Mathlib.Data.Finset.Card
import Mathlib.Data.Prod.Lex

/-!
# The order of the color domain

The color domain has each label once. The labels of a numeric color field are in the order of their
numbers, if none of them is the undefined number, which has no place in that order; those of any
other field are in the order of texts.
-/

namespace ChartCompiler

section

variable {labels : List String} {numeric : Bool}

@[simp] theorem mem_colorDomain {label : String} :
    label ∈ colorDomain labels numeric ↔ label ∈ labels := by
  unfold colorDomain
  rw [List.mem_mergeSort, mem_distinct]

theorem nodup_colorDomain (labels : List String) (numeric : Bool) :
    (colorDomain labels numeric).Nodup :=
  (List.mergeSort_perm _ _).nodup_iff.mpr (nodup_distinct labels)

/-- What a color field holds decides on nothing but the order of its labels. -/
theorem colorDomain_perm (labels : List String) (numeric other : Bool) :
    (colorDomain labels numeric).Perm (colorDomain labels other) :=
  (List.mergeSort_perm _ _).trans (List.mergeSort_perm _ _).symm

theorem one_lt_length_colorDomain : 1 < (colorDomain labels numeric).length ↔
    ∃ first ∈ labels, ∃ second ∈ labels, first ≠ second := by
  rw [← List.toFinset_card_of_nodup (nodup_colorDomain labels numeric), Finset.one_lt_card]
  simp only [List.mem_toFinset, mem_colorDomain]

theorem colorDomain_pairwise (labels : List String) :
    (colorDomain labels false).Pairwise fun left right => codePoints left ≤ codePoints right :=
  sortedTexts_pairwise labels

/-- Two labels that are met in descending order are listed in ascending order. -/
theorem colorDomain_pair {first second : String} (met : distinct labels = [first, second])
    (later : textAtMost first second = false) : colorDomain labels false = [second, first] := by
  unfold colorDomain
  rw [met]
  simp [List.mergeSort, List.MergeSort.Internal.splitInTwo, later]

/-! ## Labels of numeric fields -/

/-- The order of the labels of a numeric color field. Numbers come first, in the order of their
values; where the values are equal or are none, the texts decide. -/
inductive NumericOrder (left right : String) : Prop
  | less (leftValue rightValue : Binary64) (leftRead : Text.real? left = some leftValue)
      (rightRead : Text.real? right = some rightValue)
      (order : leftValue.lessThan rightValue = true)
  | equal (leftValue rightValue : Binary64) (leftRead : Text.real? left = some leftValue)
      (rightRead : Text.real? right = some rightValue) (same : leftValue.equals rightValue = true)
      (order : codePoints left ≤ codePoints right)
  | first (leftRead : (Text.real? left).isSome = true) (rightRead : Text.real? right = none)
  | others (leftRead : Text.real? left = none) (rightRead : Text.real? right = none)
      (order : codePoints left ≤ codePoints right)

theorem numericOrder_of_numericLabelAtMost {left right : String}
    (order : numericLabelAtMost left right = true) : NumericOrder left right := by
  unfold numericLabelAtMost at order
  split at order
  · next leftValue rightValue leftRead rightRead =>
      split at order
      · next same =>
          exact .equal leftValue rightValue leftRead rightRead same (textAtMost_iff.mp order)
      · exact .less leftValue rightValue leftRead rightRead order
  · next leftRead rightRead => exact .first (leftRead ▸ rfl) rightRead
  · cases order
  · next leftRead rightRead => exact .others leftRead rightRead (textAtMost_iff.mp order)

/-- Whether a label stands for anything but the undefined number. -/
def IsOrdered (label : String) : Prop := Text.real? label ≠ some .nan

/-- The place of a label in the order: that of its number, and then that of its text. -/
def numericPlace (label : String) : WithTop (WithBot (WithTop Int)) ×ₗ List Nat :=
  toLex ((Text.real? label).elim ⊤ fun value => (value.rank : WithTop _), codePoints label)

theorem numericLabelAtMost_iff {left right : String} (leftOrdered : IsOrdered left)
    (rightOrdered : IsOrdered right) :
    numericLabelAtMost left right = true ↔ numericPlace left ≤ numericPlace right := by
  unfold IsOrdered at leftOrdered rightOrdered
  unfold numericLabelAtMost numericPlace
  rw [Prod.Lex.toLex_le_toLex]
  cases leftRead : Text.real? left with
  | none =>
      cases Text.real? right with
      | none => simp [textAtMost_iff]
      | some => simp
  | some leftValue =>
      cases rightRead : Text.real? right with
      | none => simp
      | some rightValue =>
          have first : leftValue ≠ .nan := fun same => leftOrdered (same ▸ leftRead)
          have second : rightValue ≠ .nan := fun same => rightOrdered (same ▸ rightRead)
          have less := Binary64.lessThan_iff first second
          have equal := Binary64.equals_iff first second
          simp only [Option.elim_some, WithTop.coe_lt_coe, WithTop.coe_inj, ← less, ← equal]
          split
          · next same =>
              have apart : ¬ leftValue.lessThan rightValue = true := by
                rw [less, equal.mp same]
                exact lt_irrefl _
              simp [textAtMost_iff, same, apart]
          · next apart => simp [apart]

/-- Whether a label comes before another one, or at the same place. -/
def placedAtMost (left right : String) : Bool := decide (numericPlace left ≤ numericPlace right)

theorem placedAtMost_iff {left right : String} :
    placedAtMost left right = true ↔ numericPlace left ≤ numericPlace right := by
  unfold placedAtMost
  exact decide_eq_true_iff

theorem placedAtMost_pairwise (labels : List String) :
    (labels.mergeSort placedAtMost).Pairwise fun left right => placedAtMost left right = true := by
  apply List.pairwise_mergeSort
  · intro first middle last lower upper
    rw [placedAtMost_iff] at lower upper ⊢
    exact lower.trans upper
  · intro left right
    rw [Bool.or_eq_true, placedAtMost_iff, placedAtMost_iff]
    exact le_total _ _

/-- The labels of a numeric field are in the order of their places. -/
theorem colorDomain_numeric_placed (ordered : ∀ label ∈ labels, IsOrdered label) :
    (colorDomain labels true).Pairwise fun left right => numericPlace left ≤ numericPlace right := by
  -- On these labels the comparison is that of places in a linear order, and sorting sees no others.
  have agree : ∀ left ∈ distinct labels, ∀ right ∈ distinct labels,
      numericLabelAtMost left right = placedAtMost left right := by
    intro left leftInside right rightInside
    rw [mem_distinct] at leftInside rightInside
    apply Bool.eq_iff_iff.mpr
    rw [numericLabelAtMost_iff (ordered left leftInside) (ordered right rightInside),
      placedAtMost_iff]
  have placed : colorDomain labels true = (distinct labels).mergeSort placedAtMost := by
    have mapped := List.map_mergeSort (r := numericLabelAtMost) (s := placedAtMost) (f := id) agree
    rw [List.map_id, List.map_id] at mapped
    unfold colorDomain
    rwa [if_pos rfl]
  rw [placed]
  exact (placedAtMost_pairwise (distinct labels)).imp placedAtMost_iff.mp

theorem colorDomain_numeric_pairwise (ordered : ∀ label ∈ labels, IsOrdered label) :
    (colorDomain labels true).Pairwise NumericOrder := by
  refine (colorDomain_numeric_placed ordered).imp_of_mem fun {left right} leftInside rightInside
    order => ?_
  rw [mem_colorDomain] at leftInside rightInside
  apply numericOrder_of_numericLabelAtMost
  rwa [numericLabelAtMost_iff (ordered left leftInside) (ordered right rightInside)]

/-! ## Labels in another order -/

/-- The domain of written labels depends on nothing but which labels there are: no two of them have
the same place. -/
theorem colorDomain_congr {others : List String} (same : ∀ label, label ∈ others ↔ label ∈ labels)
    (written : ∀ label ∈ labels, Text.IsWritten label)
    (ordered : numeric = true → ∀ label ∈ labels, IsOrdered label) :
    colorDomain others numeric = colorDomain labels numeric := by
  have order : (colorDomain others numeric).Perm (colorDomain labels numeric) := by
    rw [List.perm_ext_iff_of_nodup (nodup_colorDomain _ _) (nodup_colorDomain _ _)]
    intro label
    rw [mem_colorDomain, mem_colorDomain, same]
  have unique : ∀ left right, left ∈ colorDomain others numeric →
      right ∈ colorDomain labels numeric → codePoints left = codePoints right → left = right := by
    intro left right leftInside rightInside
    rw [mem_colorDomain] at leftInside rightInside
    rw [same] at leftInside
    exact (written left leftInside).eq_of_codePoints (written right rightInside)
  cases numeric with
  | false =>
      exact order.eq_of_pairwise
        (fun left right leftInside rightInside lower upper =>
          unique left right leftInside rightInside (le_antisymm lower upper))
        (colorDomain_pairwise others) (colorDomain_pairwise labels)
  | true =>
      have otherOrdered : ∀ label ∈ others, IsOrdered label :=
        fun label inside => ordered rfl label ((same label).mp inside)
      refine List.Perm.eq_of_pairwise (fun left right leftInside rightInside lower upper => ?_)
        (colorDomain_numeric_placed otherOrdered) (colorDomain_numeric_placed (ordered rfl)) order
      have places : numericPlace left = numericPlace right := le_antisymm lower upper
      exact unique left right leftInside rightInside (congrArg (fun place => (ofLex place).2) places)

end

end ChartCompiler
