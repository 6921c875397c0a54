import ChartCompiler.Text.Order
import Mathlib.Data.List.Induction
import Mathlib.Data.List.Lex
import Mathlib.Data.List.Nodup
import Mathlib.Order.Nat

/-!
# Distinct elements

`distinct` keeps each element once, at its first place. Read from the left it adds an element unless
it was there before; read from the front it drops an element from all that follows. `sortedTexts`
gives each text once, too, in the order of code points.
-/

namespace ChartCompiler

section

variable [DecidableEq α]

@[simp] theorem distinct_nil : distinct ([] : List α) = [] := rfl

theorem distinct_append_singleton (items : List α) (item : α) :
    distinct (items ++ [item]) =
      if item ∈ distinct items then distinct items else distinct items ++ [item] :=
  List.foldl_append

@[simp] theorem mem_distinct {items : List α} {item : α} :
    item ∈ distinct items ↔ item ∈ items := by
  induction items using List.reverseRecOn with
  | nil => exact Iff.rfl
  | append_singleton before last induction =>
      rw [distinct_append_singleton, List.mem_append, List.mem_singleton]
      split
      · next seen =>
          rw [induction]
          refine ⟨.inl, fun inside => inside.elim id fun same => ?_⟩
          rw [← induction, same]
          exact seen
      · rw [List.mem_append, List.mem_singleton, induction]

theorem distinct_cons (head : α) (rest : List α) :
    distinct (head :: rest) = head :: distinct (rest.filter (· ≠ head)) := by
  induction rest using List.reverseRecOn with
  | nil => rfl
  | append_singleton before last induction =>
      rw [← List.cons_append, distinct_append_singleton, induction, List.filter_append]
      by_cases same : last = head
      · rw [same, List.filter_singleton, if_pos (List.mem_cons_self ..)]
        simp
      · have kept : [last].filter (· ≠ head) = [last] := by simp [same]
        rw [kept, distinct_append_singleton]
        split
        · next seen => rw [if_pos ((List.mem_cons.mp seen).resolve_left same)]
        · next fresh =>
            rw [if_neg fun seen => fresh (List.mem_cons_of_mem _ seen)]
            rfl

theorem distinct_of_nodup {items : List α} (once : items.Nodup) : distinct items = items := by
  induction items with
  | nil => rfl
  | cons head rest induction =>
      rcases List.nodup_cons.mp once with ⟨fresh, others⟩
      have kept : rest.filter (· ≠ head) = rest :=
        List.filter_eq_self.mpr fun item inside =>
          decide_eq_true fun same => fresh (same ▸ inside)
      rw [distinct_cons, kept, induction others]

theorem nodup_distinct (items : List α) : (distinct items).Nodup := by
  induction items using List.reverseRecOn with
  | nil => exact List.nodup_nil
  | append_singleton before last induction =>
      rw [distinct_append_singleton]
      split
      · exact induction
      · next fresh =>
          rw [← List.concat_eq_append]
          exact induction.concat fresh

end

/-- What comes first before elements are mapped comes first afterwards, too. -/
theorem distinct_map_distinct [DecidableEq α] [DecidableEq β] (image : α → β) (items : List α) :
    distinct ((distinct items).map image) = distinct (items.map image) := by
  induction items using List.reverseRecOn with
  | nil => rfl
  | append_singleton before last induction =>
      rw [List.map_append, List.map_singleton, distinct_append_singleton (before.map image),
        ← induction, distinct_append_singleton]
      split
      · next seen => rw [if_pos (mem_distinct.mpr (List.mem_map_of_mem seen))]
      · rw [List.map_append, List.map_singleton, distinct_append_singleton]

theorem textAtMost_iff {left right : String} :
    textAtMost left right = true ↔ codePoints left ≤ codePoints right := by
  unfold textAtMost
  rw [Bool.not_eq_true', decide_eq_false_iff_not]
  exact not_lt

theorem textAtMost_trans (first middle last : String) (lower : textAtMost first middle = true)
    (upper : textAtMost middle last = true) : textAtMost first last = true := by
  rw [textAtMost_iff] at lower upper ⊢
  exact lower.trans upper

theorem textAtMost_total (left right : String) :
    (textAtMost left right || textAtMost right left) = true := by
  rw [Bool.or_eq_true, textAtMost_iff, textAtMost_iff]
  exact le_total _ _

@[simp] theorem mem_sortedTexts {texts : List String} {text : String} :
    text ∈ sortedTexts texts ↔ text ∈ texts := by
  unfold sortedTexts
  rw [List.mem_mergeSort, mem_distinct]

theorem nodup_sortedTexts (texts : List String) : (sortedTexts texts).Nodup :=
  (List.mergeSort_perm _ _).nodup_iff.mpr (nodup_distinct texts)

theorem sortedTexts_pairwise (texts : List String) :
    (sortedTexts texts).Pairwise fun left right => codePoints left ≤ codePoints right := by
  have sorted := List.pairwise_mergeSort textAtMost_trans textAtMost_total (distinct texts)
  exact sorted.imp textAtMost_iff.mp

end ChartCompiler
