import ChartCompiler.Proofs.Chart.Contract
import ChartCompiler.Proofs.Chart.First
import ChartCompiler.Proofs.Value.Equality

/-!
# What fragments are merged into

Of all that the layers declare under one name, and of the axes they ask for at one side, the chart
has the first. Layers that declare nothing new add their marks and nothing else.
-/

namespace ChartCompiler

/-! ## Scales and sources -/

namespace Assembly

/-- A scale conflicts with the first one of its name if they are of different kinds. -/
def scaleConflict? (first? : Option Scale) (scale : Scale) : Option Diagnostic :=
  first?.bind fun first =>
    if first.kind = scale.kind then none else some (scaleConflict first scale)

/-- A source conflicts with the table, or with the first one of its name if they differ. -/
def sourceConflict? (first? : Option DataSource) (source : DataSource) : Option Diagnostic :=
  if source.name = tableSource then some (sourceConflict source)
  else first?.bind fun first =>
    if sameContent first source then none else some (sourceConflict source)

/-- The sources that are not called like the table. -/
def otherSources (sources : List DataSource) : List DataSource :=
  sources.filter fun source => source.name ≠ tableSource

theorem firstScales_eq (scales : List Scale) : firstScales scales =
    (firsts (sameBy (·.name)) scales, conflicts (sameBy (·.name)) scaleConflict? scales) := by
  induction scales using List.reverseRecOn with
  | nil => rfl
  | append_singleton before last induction =>
      have step : firstScales (before ++ [last]) = addScale (firstScales before) last :=
        List.foldl_append
      have kept := find?_firsts_sameBy (·.name) before last
      rw [step, induction, firsts_append_singleton, conflicts_append_singleton,
        ← List.isSome_find?]
      unfold addScale sameBy at *
      dsimp only
      rw [kept]
      cases found : before.find? fun other => other.name = last.name with
      | none => simp [scaleConflict?]
      | some first =>
          have named : first.name = last.name := by simpa using List.find?_some found
          by_cases kinds : first.kind = last.kind <;>
            simp [Scale.agreesWith, scaleConflict?, named, kinds]

theorem otherSources_append_singleton (before : List DataSource) (last : DataSource) :
    otherSources (before ++ [last]) =
      if last.name = tableSource then otherSources before else otherSources before ++ [last] := by
  unfold otherSources
  rw [List.filter_append]
  split
  · next reserved => simp [reserved]
  · next other => simp [other]

theorem find?_otherSources (before : List DataSource) {source : DataSource}
    (other : source.name ≠ tableSource) :
    (otherSources before).find? (sameBy (·.name) · source) =
      before.find? (sameBy (·.name) · source) := by
  unfold otherSources
  rw [List.find?_filter]
  congr 1
  funext earlier
  by_cases named : earlier.name = source.name <;> simp [sameBy, named, other]

theorem firstSources_eq (sources : List DataSource) : firstSources sources =
    (firsts (sameBy (·.name)) (otherSources sources),
      conflicts (sameBy (·.name)) sourceConflict? sources) := by
  induction sources using List.reverseRecOn with
  | nil => rfl
  | append_singleton before last induction =>
      have step : firstSources (before ++ [last]) = addSource (firstSources before) last :=
        List.foldl_append
      rw [step, induction, conflicts_append_singleton, otherSources_append_singleton]
      by_cases reserved : last.name = tableSource
      · simp [addSource, sourceConflict?, reserved]
      · have kept := (find?_firsts_sameBy (·.name) (otherSources before) last).trans
          (find?_otherSources before reserved)
        rw [if_neg reserved, firsts_append_singleton, ← List.isSome_find?,
          find?_otherSources before reserved]
        unfold addSource sameBy at *
        dsimp only
        rw [if_neg reserved, kept]
        cases before.find? fun other => other.name = last.name with
        | none => simp [sourceConflict?, reserved]
        | some first =>
            cases same : sameContent first last <;> simp [sourceConflict?, reserved, same]

/-! ## Axes -/

def sameSide (left right : Value × Members) : Bool := left.1.equals right.1

/-- Whether the members of an axis state the side it is listed with. -/
def Placed (axis : Value × Members) : Prop :=
  axis.2.get? "orient" = some axis.1 ∧ axis.1.isKey = true

theorem addAxis_eq_ok_iff {kept result : List (Value × Members)} {axis : Value} :
    addAxis kept axis = .ok result ↔ ∃ entry, axis = .map entry.2 ∧ Placed entry ∧
      result = if kept.any (sameSide · entry) then kept else kept ++ [entry] := by
  constructor
  · intro added
    rcases (bind_eq_ok_iff _ _ _).mp added with ⟨side, stated, added⟩
    rcases (bind_eq_ok_iff _ _ _).mp added with ⟨members, whole, equal⟩
    rcases (bind_eq_ok_iff _ _ _).mp stated with ⟨found, member, usable⟩
    cases axis with
    | map content =>
        cases whole
        split at usable
        · next key =>
            cases usable
            have listed : members.get? "orient" = some side := by
              unfold Value.memberOf at member
              dsimp only at member
              cases found : members.get? "orient" with
              | none => rw [found] at member; cases member
              | some other => rw [found] at member; cases member; rfl
            exact ⟨(side, members), rfl, ⟨listed, key⟩, (Except.ok.inj equal).symm⟩
        · cases usable
    | _ => cases whole
  · rintro ⟨⟨side, members⟩, rfl, ⟨stated, key⟩, rfl⟩
    have found : sideOf (.map members) = .ok side := by
      unfold sideOf Value.memberOf
      dsimp only at stated key ⊢
      rw [stated]
      dsimp only [bind, Except.bind]
      rw [if_pos key]
      rfl
    unfold addAxis
    rw [found]
    rfl

theorem foldlM_addAxis_eq_ok_iff {axes : List Value} {kept : List (Value × Members)} :
    axes.foldlM addAxis [] = .ok kept ↔ ∃ entries, axes = entries.map (fun entry => .map entry.2) ∧
      (∀ entry ∈ entries, Placed entry) ∧ kept = firsts sameSide entries := by
  induction axes using List.reverseRecOn generalizing kept with
  | nil =>
      constructor
      · intro equal
        cases equal
        exact ⟨[], rfl, List.forall_mem_nil _, rfl⟩
      · rintro ⟨entries, none, _, rfl⟩
        rw [List.map_eq_nil_iff.mp none.symm]
        rfl
  | append_singleton before last induction =>
      have known : ∀ {entries : List (Value × Members)} {entry}, (∀ entry ∈ entries, Placed entry) →
          (firsts sameSide entries).any (sameSide · entry) = entries.any (sameSide · entry) := by
        intro entries entry placed
        rw [← List.isSome_find?, ← List.isSome_find?, find?_firsts]
        intro first inside second _ alike equal
        exact Value.equals_trans (placed first inside).2 alike equal
      simp only [List.foldlM_append, List.foldlM_cons, List.foldlM_nil, bind_pure]
      refine (bind_eq_ok_iff _ _ _).trans ⟨?_, ?_⟩
      · rintro ⟨middle, folded, added⟩
        rcases induction.mp folded with ⟨entries, rfl, placed, rfl⟩
        rcases addAxis_eq_ok_iff.mp added with ⟨entry, rfl, stated, rfl⟩
        refine ⟨entries ++ [entry], by simp, ?_, ?_⟩
        · intro other inside
          rcases List.mem_append.mp inside with earlier | final
          · exact placed other earlier
          · rw [List.mem_singleton.mp final]
            exact stated
        · rw [known placed, firsts_append_singleton]
      · rintro ⟨entries, equal, placed, rfl⟩
        rcases List.eq_nil_or_concat entries with rfl | ⟨front, entry, rfl⟩
        · simp at equal
        · rw [List.concat_eq_append] at equal placed ⊢
          rw [List.map_append, List.map_singleton] at equal
          rcases List.append_inj' equal rfl with ⟨rfl, final⟩
          have earlier : ∀ entry ∈ front, Placed entry :=
            fun other inside => placed other (List.mem_append_left _ inside)
          refine ⟨_, induction.mpr ⟨front, rfl, earlier, rfl⟩, ?_⟩
          refine addAxis_eq_ok_iff.mpr ⟨entry, List.singleton_inj.mp final, placed entry (by simp), ?_⟩
          rw [known earlier, firsts_append_singleton]

/-- The axes of a chart are the first ones of their sides. -/
theorem firstAxes_eq_ok_iff {axes shown : List Value} {options : ChartOptions} :
    firstAxes axes options = .ok shown ↔ ∃ entries,
      axes = entries.map (fun entry => .map entry.2) ∧ (∀ entry ∈ entries, Placed entry) ∧
        shown = (firsts sameSide entries).map (withTitle options) := by
  constructor
  · intro returned
    rcases (bind_eq_ok_iff _ _ _).mp returned with ⟨kept, folded, equal⟩
    cases equal
    rcases foldlM_addAxis_eq_ok_iff.mp folded with ⟨entries, rfl, placed, rfl⟩
    exact ⟨entries, rfl, placed, rfl⟩
  · rintro ⟨entries, rfl, placed, rfl⟩
    unfold firstAxes
    rw [foldlM_addAxis_eq_ok_iff.mpr ⟨entries, rfl, placed, rfl⟩]
    rfl

end Assembly

/-! ## Charts -/

namespace Chart

open Assembly

variable {fragments again : List Fragment} {table : Table} {options : ChartOptions} {style : Style}
  {chart : Chart} {notes : List Diagnostic}

theorem assemble_returns_iff :
    (assemble fragments table options style).Returns (chart, notes) ↔ ∃ padding axes title,
      style.padding.documentMembers = .ok padding ∧
      firstAxes ((drawn fragments).flatMap (·.axes)) options = .ok axes ∧
      options.shownTitle? = .ok title ∧
      chart = joined (drawn fragments) table options style padding axes title ∧
      References.check chart.toMembers = .ok () ∧
      notes = (mergedSources (drawn fragments)).2 ++ (mergedScales (drawn fragments)).2 := by
  have told : ∀ notes done, (Assembly.report notes).Returns done := fun notes _ => report_returns notes
  unfold assemble
  simp only [Run.returns_bind, Run.returns_lift, Run.returns_pure, Prod.mk.injEq, told,
    reportChart, Run.returns_info, exists_const, true_and]
  constructor
  · rintro ⟨padding, readable, axes, placed, title, shown, _, checked, rfl, rfl⟩
    exact ⟨padding, axes, title, readable, placed, shown, rfl, checked, rfl⟩
  · rintro ⟨padding, axes, title, readable, placed, shown, rfl, checked, rfl⟩
    exact ⟨padding, readable, axes, placed, title, shown, (), checked, rfl, rfl⟩

theorem eq_of_shownTitle? {title : Option Value} (shown : options.shownTitle? = .ok title) :
    ∀ value ∈ title, value = options.title := by
  rcases (bind_eq_ok_iff _ _ _).mp shown with ⟨titled, _, equal⟩
  cases titled <;> cases equal
  · exact nofun
  · rintro _ ⟨⟩
    rfl

/-- The scales that are kept are declared by fragments. -/
theorem exists_of_mergedScales {shown : List Fragment} {scale : Scale}
    (merged : scale ∈ (mergedScales shown).1) : ∃ fragment ∈ shown, scale ∈ fragment.scales :=
  List.mem_flatMap.mp (mem_of_mem_firstScales merged)

/-- The sources that are kept are declared by fragments. -/
theorem exists_of_mergedSources {shown : List Fragment} {source : DataSource}
    (merged : source ∈ (mergedSources shown).1) :
    ∃ fragment ∈ shown, source ∈ sourcesOf fragment := by
  unfold mergedSources at merged
  rw [firstSources_eq] at merged
  exact List.mem_flatMap.mp (List.mem_filter.mp (mem_of_mem_firsts merged)).1

/-- Whether a chart has all marks of the fragments that are shown, and the first of whatever else
they declare, and whether the later declarations that conflict with it are told. -/
structure OfFirst (chart : Chart) (notes : List Diagnostic) (shown : List Fragment) (table : Table)
    (options : ChartOptions) : Prop where
  marks : chart.marks = shown.flatMap (·.marks)
  scales : chart.scales = firsts (sameBy (·.name)) (shown.flatMap (·.scales))
  data : chart.data =
    (tableRows table :: firsts (sameBy (·.name)) (otherSources (shown.flatMap sourcesOf))).map
      fun source => .map source.toMembers
  axes : ∃ entries, shown.flatMap (·.axes) = entries.map (fun entry => .map entry.2) ∧
    (∀ entry ∈ entries, Placed entry) ∧
    chart.axes = (firsts sameSide entries).map (withTitle options)
  notes : notes = conflicts (sameBy (·.name)) sourceConflict? (shown.flatMap sourcesOf)
    ++ conflicts (sameBy (·.name)) scaleConflict? (shown.flatMap (·.scales))

theorem assemble_ofFirst (returned : (assemble fragments table options style).Returns (chart, notes)) :
    OfFirst chart notes (drawn fragments) table options := by
  rcases assemble_returns_iff.mp returned with ⟨padding, axes, title, _, placed, _, rfl, _, rfl⟩
  refine ⟨rfl, ?_, ?_, firstAxes_eq_ok_iff.mp placed, ?_⟩
  · exact congrArg Prod.fst (firstScales_eq _)
  · unfold joined mergedSources
    dsimp only
    rw [firstSources_eq]
  · unfold mergedSources mergedScales
    rw [firstSources_eq, firstScales_eq]

theorem flatMap_subset {shown more : List Fragment} (known : more ⊆ shown)
    (part : Fragment → List α) : more.flatMap part ⊆ shown.flatMap part := by
  intro item inside
  rcases List.mem_flatMap.mp inside with ⟨fragment, listed, member⟩
  exact List.mem_flatMap.mpr ⟨fragment, known listed, member⟩

end Chart

end ChartCompiler
