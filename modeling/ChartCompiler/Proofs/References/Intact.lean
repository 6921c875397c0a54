import ChartCompiler.Chart.Assembly
import ChartCompiler.Proofs.Document.Selection

/-!
# Failures that are not about references

Only the check of a chart fails because of references to scales. The other steps of an assembly, and
what adds the legend, may fail, too, but for other reasons.
-/

namespace ChartCompiler

/-- Whether an outcome is not that references are broken. -/
def Intact (outcome : Except Failure α) : Prop :=
  ∀ problem, outcome ≠ .error (.brokenReferences problem)

@[simp] theorem intact_ok (value : α) : Intact (.ok value) := nofun

@[simp] theorem intact_pure (value : α) : Intact (pure value) := nofun

@[simp] theorem intact_error (failure : Failure) :
    Intact (.error failure : Except Failure α) ↔
      ∀ problem, failure ≠ .brokenReferences problem := by
  unfold Intact
  simp only [ne_eq, Except.error.injEq]

theorem Intact.bind {first : Except Failure α} {next : α → Except Failure β} (intact : Intact first)
    (others : ∀ middle, Intact (next middle)) : Intact (first >>= next) := by
  cases first with
  | error failure => exact fun problem same => intact problem (congrArg _ (Except.error.inj same))
  | ok middle => exact others middle

theorem Intact.mapM {step : α → Except Failure β} (each : ∀ item, Intact (step item)) :
    ∀ items : List α, Intact (items.mapM step)
  | [] => intact_pure _
  | item :: rest => by
      rw [List.mapM_cons]
      exact .bind (each item) fun _ => .bind (Intact.mapM each rest) fun _ => intact_pure _

theorem Intact.foldlM {step : β → α → Except Failure β}
    (each : ∀ state item, Intact (step state item)) :
    ∀ (items : List α) (state : β), Intact (items.foldlM step state)
  | [], _ => intact_pure _
  | item :: rest, state => by
      rw [List.foldlM_cons]
      exact .bind (each state item) fun _ => Intact.foldlM each rest _

theorem Json.writeNumber_intact (number : Number) : Intact (Json.writeNumber number) := by
  unfold Json.writeNumber
  split
  · split <;> simp
  all_goals simp

namespace Value

@[simp] theorem itemsOf_intact (value : Value) : Intact value.itemsOf := by
  unfold itemsOf
  split <;> simp

@[simp] theorem truth_intact (value : Value) : Intact value.truth := by
  unfold truth
  split <;> simp

@[simp] theorem memberOf_intact (value : Value) (name : String) : Intact (value.memberOf name) := by
  unfold memberOf
  split
  · split <;> simp
  · simp

@[simp] theorem membersOf_intact (value : Value) : Intact value.membersOf := by
  unfold membersOf
  split <;> simp

theorem pairOf_intact (item : Value) : Intact (pairOf item) := by
  refine .bind item.itemsOf_intact fun items => ?_
  split
  · split <;> simp
  · simp

theorem keyText_intact (key : Value) : Intact (keyText key) := by
  unfold keyText
  split
  · simp
  · simp
  · simp
  · exact .bind (Json.writeNumber_intact _) fun _ => intact_pure _
  · simp

theorem documentMembers_intact (value : Value) : Intact value.documentMembers := by
  unfold documentMembers
  split
  · exact intact_ok _
  · refine .bind (itemsOf_intact _) fun items => .bind (.mapM pairOf_intact items) fun pairs => ?_
    refine .mapM ?_ _
    rintro ⟨key, _⟩
    exact .bind (keyText_intact key) fun _ => intact_pure _

end Value

theorem ChartOptions.shownTitle?_intact (options : ChartOptions) : Intact options.shownTitle? :=
  .bind (.bind options.title.truth_intact fun _ => intact_pure _) fun _ => intact_pure _

namespace Assembly

theorem sideOf_intact (axis : Value) : Intact (sideOf axis) := by
  refine .bind (axis.memberOf_intact "orient") fun side => ?_
  split <;> simp

theorem addAxis_intact (kept : List (Value × Members)) (axis : Value) :
    Intact (addAxis kept axis) :=
  .bind (sideOf_intact axis) fun _ => .bind axis.membersOf_intact fun _ => intact_pure _

theorem firstAxes_intact (axes : List Value) (options : ChartOptions) :
    Intact (firstAxes axes options) :=
  .bind (.foldlM addAxis_intact axes []) fun _ => intact_pure _

end Assembly

namespace Legend

variable {style : Style}

theorem followingEncoding?_intact (encode : Members) :
    Intact (followingEncoding? style encode) := by
  refine .bind (Value.membersOf_intact _) fun enter => ?_
  dsimp only
  split
  · exact intact_pure _
  · split
    · exact intact_pure _
    · exact (intact_error _).mpr (by rintro _ ⟨⟩)

theorem following?_intact (members : Members) : Intact (following? style members) := by
  unfold following?
  split
  · exact followingEncoding?_intact _
  · exact intact_ok _

theorem unusableMarks_intact (marks : Value) : Intact (unusableMarks marks) := by
  refine .bind marks.itemsOf_intact fun items => ?_
  split
  · exact intact_pure _
  · exact (intact_error _).mpr nofun

mutual

theorem selectableMark_intact : ∀ mark, Intact (selectableMark style mark)
  | .map members => by
      unfold selectableMark
      exact .bind (following?_intact members) fun _ =>
        .bind (selectableNested_intact members) fun _ => intact_pure _
  | .null | .bool _ | .number _ | .text _ | .bytes _ | .list _ | .tuple _ | .set _
  | .array _ _ _ => by
      unfold selectableMark
      exact (intact_error _).mpr nofun

theorem selectableMarks_intact : ∀ marks, Intact (selectableMarks style marks)
  | [] => intact_ok _
  | mark :: rest => by
      unfold selectableMarks
      exact .bind (selectableMark_intact mark) fun _ =>
        .bind (selectableMarks_intact rest) fun _ => intact_pure _

theorem selectableNested_intact :
    ∀ members : List (String × Value), Intact (selectableNested style members)
  | [] => intact_ok _
  | (name, item) :: rest => by
      rw [selectableNested_cons]
      refine .bind ?_ fun _ => .bind (selectableNested_intact rest) fun _ => intact_pure _
      unfold selectableMember
      split
      · cases item with
        | list marks => exact .bind (selectableMarks_intact marks) fun _ => intact_pure _
        | tuple marks => exact .bind (selectableMarks_intact marks) fun _ => intact_pure _
        | _ => exact unusableMarks_intact _
      · exact intact_ok _

end

end Legend

/-- A legend is not refused because of references. -/
theorem Chart.withLegend_intact (chart : Chart) (style : Style) (interactive : Value)
    (problem : ReferenceProblem) :
    ¬ (chart.withLegend style interactive).Fails (.brokenReferences problem) := by
  unfold withLegend
  split
  · exact Run.fails_pure _ _
  · dsimp only
    rw [Run.fails_bind]
    rintro (untold | ⟨choice, _, failed⟩)
    · exact interactive.truth_intact problem untold
    · split at failed
      · simp at failed
      · rw [Run.fails_bind] at failed
        rcases failed with broken | ⟨changed, _, failed⟩
        · exact Legend.selectableMarks_intact _ problem broken
        · simp at failed

end ChartCompiler
