import ChartCompiler.Layer.Analysis
import ChartCompiler.Proofs.Document.Reading
import ChartCompiler.Proofs.Log.Outcome
import ChartCompiler.Proofs.Text.Distinct
import ChartCompiler.Proofs.Value.Members

/-!
# Markers and the layers that they ask for

Which markers of a plot are active, and what is requested for them: each kind once, at the place of
its first marker, with the parameters of all of its markers, of which the first counts. Points and a
fitted line are requested together.
-/

namespace ChartCompiler

/-! ## Filled members -/

theorem Members.get?_setIfAbsent (members : Members) (name : String) (value : Value)
    (key : String) : (members.setIfAbsent name value).get? key =
      (members.get? key).or (Members.get? [(name, value)] key) := by
  unfold setIfAbsent
  split
  · next there =>
      rw [get?_cons, get?_nil]
      split
      · next same =>
          unfold contains at there
          rcases Option.isSome_iff_exists.mp there with ⟨old, found⟩
          rw [same, show members.get? name = some old from found]
          rfl
      · rw [Option.or_none]
  · exact get?_append _ _ _

/-- Members that are filled up keep what they have. -/
theorem Members.get?_fillFrom (members additions : Members) (key : String) :
    (members.fillFrom additions).get? key = (members.get? key).or (additions.get? key) := by
  unfold fillFrom
  induction additions generalizing members with
  | nil => exact Option.or_none.symm
  | cons addition rest induction =>
      rw [List.foldl_cons, induction, get?_setIfAbsent, Option.or_assoc, ← get?_append]
      rfl

/-! ## Active markers -/

/-- Whether a value asks for the layer that it belongs to: parameters do, other containers if they
hold something, and all else if it counts as true. -/
def Value.Asks (value : Value) : Prop :=
  (∃ members, value = .map members) ∨
    (∃ elements, value.elements? = some elements ∧ elements ≠ []) ∨
    (value.elements? = none ∧ value.isTruthy = true)

/-- Whether a marker with its value is an active one of a kind of layer. -/
def LayerKind.IsActive (kind : LayerKind) (entry : String × Value) : Prop :=
  kind ≠ .regressionPlot ∧
    (entry.1 = kind.name ++ "_handle" ∨ (entry.1 = kind.name ∧ entry.2.Asks))

namespace LayerKind

theorem name_injective : ∀ first ∈ all, ∀ second ∈ all, first.name = second.name →
    first = second := by
  decide +kernel

theorem ofName?_eq_some_iff {name : String} {kind : LayerKind} :
    ofName? name = some kind ↔ kind.name = name := by
  unfold ofName?
  constructor
  · intro found
    simpa using List.find?_some found
  · rintro rfl
    cases search : all.find? fun other => other.name = kind.name with
    | none => simpa using List.find?_eq_none.mp search kind kind.mem_all
    | some other =>
        have same : other.name = kind.name := by simpa using List.find?_some search
        rw [name_injective other other.mem_all kind kind.mem_all same]

theorem ofMarker?_eq_some_iff {marker : String} {kind : LayerKind} :
    ofMarker? marker = some kind ↔ kind ≠ .regressionPlot ∧ markedName marker = kind.name := by
  rw [eq_comm (a := markedName marker), ← ofName?_eq_some_iff]
  unfold ofMarker?
  split
  · next found =>
      refine ⟨nofun, fun ⟨other, same⟩ => absurd ?_ other⟩
      exact Option.some.inj (same.symm.trans found)
  · next other =>
      refine ⟨fun found => ⟨?_, found⟩, And.right⟩
      rintro rfl
      exact other found

/-- A marker for a layer already built has the ending for those. -/
theorem isHandle_iff {marker : String} :
    isHandle marker = true ↔ ∃ name, marker = name ++ "_handle" := by
  unfold isHandle handleEnding
  rw [List.isSuffixOf_iff_suffix]
  constructor
  · rintro ⟨front, whole⟩
    refine ⟨String.ofList front, String.toList_inj.mp ?_⟩
    rw [← whole, String.toList_append]
    exact congrArg (· ++ _) String.toList_ofList.symm
  · rintro ⟨name, rfl⟩
    rw [String.toList_append]
    exact List.suffix_append _ _

theorem markedName_handle (name : String) : markedName (name ++ "_handle") = name := by
  unfold markedName
  rw [if_pos (isHandle_iff.mpr ⟨name, rfl⟩), String.toList_append, List.length_append,
    show handleEnding.length = "_handle".toList.length from rfl, Nat.add_sub_cancel,
    List.take_left, String.ofList_toList]

theorem name_not_handle (kind : LayerKind) : isHandle kind.name = false := by
  cases kind <;> decide +kernel

end LayerKind

namespace LayerAnalysis

theorem isPresent_iff {marker : String} {value : Value} :
    isPresent marker value = true ↔ LayerKind.isHandle marker = true ∨ value.Asks := by
  unfold isPresent
  rw [Bool.or_eq_true]
  refine or_congr_right ?_
  cases value with
  | map members => exact ⟨fun _ => .inl ⟨members, rfl⟩, fun _ => rfl⟩
  | _ =>
    dsimp only
    unfold Value.Asks
    split
    · next elements found => simp [found]
    · next found => simp [found]

/-- The kind of layer that a marker with its value is an active one of. -/
def activeKind? (entry : String × Value) : Option LayerKind :=
  (LayerKind.ofMarker? entry.1).filter fun _ => isPresent entry.1 entry.2

theorem activeKind?_eq_some_iff {entry : String × Value} {kind : LayerKind} :
    activeKind? entry = some kind ↔ kind.IsActive entry := by
  unfold activeKind? LayerKind.IsActive
  rw [Option.filter_eq_some_iff, LayerKind.ofMarker?_eq_some_iff, isPresent_iff, and_assoc]
  refine and_congr_right fun _ => ⟨?_, ?_⟩
  · rintro ⟨marked, present⟩
    by_cases handle : LayerKind.isHandle entry.1 = true
    · rcases LayerKind.isHandle_iff.mp handle with ⟨name, same⟩
      rw [same, LayerKind.markedName_handle] at marked
      exact .inl (same.trans (marked ▸ rfl))
    · unfold LayerKind.markedName at marked
      rw [if_neg handle] at marked
      exact .inr ⟨marked, present.resolve_left handle⟩
  · rintro (same | ⟨same, asks⟩)
    · rw [same, LayerKind.markedName_handle]
      exact ⟨rfl, .inl (LayerKind.isHandle_iff.mpr ⟨_, rfl⟩)⟩
    · refine ⟨?_, .inr asks⟩
      unfold LayerKind.markedName
      rw [same, LayerKind.name_not_handle, if_neg Bool.false_ne_true]

/-- The kinds of layers that markers are active for, one after the other. -/
def activeKinds (markers : List (String × Value)) : List LayerKind := markers.filterMap activeKind?

/-- The parameters that the active markers of a kind carry, one after the other. -/
def parameterMaps (markers : List (String × Value)) (kind : LayerKind) : List Members :=
  (markers.filter fun entry => activeKind? entry = some kind).filterMap (·.2.map?)

/-! ## Gathered parameters -/

theorem get?_parametersOf (value : Value) (key : String) :
    (parametersOf value).get? key = value.map?.toList.findSome? (·.get? key) := by
  cases value with
  | map members => simp [parametersOf, Value.map?]
  | _ => rfl

theorem parameterMaps_append (markers : List (String × Value)) (entry : String × Value)
    (kind : LayerKind) : parameterMaps (markers ++ [entry]) kind = parameterMaps markers kind ++
      if activeKind? entry = some kind then entry.2.map?.toList else [] := by
  unfold parameterMaps
  rw [List.filter_append, List.filterMap_append]
  congr 1
  have alone : [entry].filter (fun other => activeKind? other = some kind) =
      if activeKind? entry = some kind then [entry] else [] := by
    rw [List.filter_cons, List.filter_nil]
    simp only [decide_eq_true_eq]
  rw [alone]
  split
  · rw [List.filterMap_cons]
    cases entry.2.map? <;> rfl
  · rfl

/-- What the markers of a list gather: the kinds that are active, each with its parameters. -/
structure Gathers (markers : List (String × Value)) (found : List (LayerKind × Members)) :
    Prop where
  kinds : found.map (·.1) = distinct (activeKinds markers)
  parameters : ∀ entry ∈ found, ∀ key,
    entry.2.get? key = (parameterMaps markers entry.1).findSome? (·.get? key)

theorem kinds_gather (kind : LayerKind) (parameters : Members)
    (found : List (LayerKind × Members)) : (gather kind parameters found).map (·.1) =
      if kind ∈ found.map (·.1) then found.map (·.1) else found.map (·.1) ++ [kind] := by
  induction found with
  | nil => rfl
  | cons entry rest induction =>
      unfold gather
      by_cases same : entry.1 = kind
      · simp [same]
      · have other : kind ≠ entry.1 := fun equal => same equal.symm
        rw [if_neg same, List.map_cons, induction]
        simp only [List.map_cons, List.mem_cons, other, false_or]
        split <;> rfl

/-- The parameters of a kind are filled up; those of the others stay. -/
theorem mem_gather_cases {kind : LayerKind} {parameters : Members}
    {found : List (LayerKind × Members)} (once : (found.map (·.1)).Nodup)
    {entry : LayerKind × Members} (inside : entry ∈ gather kind parameters found) :
    (entry ∈ found ∧ entry.1 ≠ kind) ∨
      (∃ old, (kind, old) ∈ found ∧ entry = (kind, old.fillFrom parameters)) ∨
      (kind ∉ found.map (·.1) ∧ entry = (kind, parameters)) := by
  induction found with
  | nil => exact .inr (.inr ⟨List.not_mem_nil, List.mem_singleton.mp inside⟩)
  | cons first rest induction =>
      rw [List.map_cons, List.nodup_cons] at once
      unfold gather at inside
      split at inside
      · next same =>
          rcases List.mem_cons.mp inside with rfl | later
          · exact .inr (.inl ⟨first.2, by rw [← same]; exact List.mem_cons_self .., by rw [same]⟩)
          · refine .inl ⟨List.mem_cons_of_mem _ later, fun equal => once.1 ?_⟩
            rw [same, ← equal]
            exact List.mem_map_of_mem later
      · next different =>
          rcases List.mem_cons.mp inside with rfl | later
          · exact .inl ⟨List.mem_cons_self .., different⟩
          · rcases induction once.2 later with kept | ⟨old, listed, equal⟩ | ⟨fresh, equal⟩
            · exact .inl ⟨List.mem_cons_of_mem _ kept.1, kept.2⟩
            · exact .inr (.inl ⟨old, List.mem_cons_of_mem _ listed, equal⟩)
            · refine .inr (.inr ⟨?_, equal⟩)
              rw [List.map_cons, List.mem_cons, not_or]
              exact ⟨fun same => different same.symm, fresh⟩

/-- What a list of markers gathers is known for one more. -/
theorem Gathers.gather {markers : List (String × Value)} {found : List (LayerKind × Members)}
    (gathers : Gathers markers found) {entry : String × Value} {kind : LayerKind}
    (active : activeKind? entry = some kind) :
    Gathers (markers ++ [entry]) (gather kind (parametersOf entry.2) found) := by
  have once : (found.map (·.1)).Nodup := gathers.kinds ▸ nodup_distinct _
  have mapped : (markers ++ [entry]).filterMap activeKind? = activeKinds markers ++ [kind] := by
    rw [List.filterMap_append, List.filterMap_cons_some active]
    rfl
  refine ⟨?_, fun other inside key => ?_⟩
  · unfold activeKinds
    rw [mapped, kinds_gather, gathers.kinds, distinct_append_singleton]
  · rw [parameterMaps_append, List.findSome?_append]
    rcases mem_gather_cases once inside with ⟨listed, different⟩ | ⟨old, listed, rfl⟩ | ⟨fresh, rfl⟩
    · have inactive : ¬ activeKind? entry = some other.1 := by
        rw [active, Option.some.injEq]
        exact different.symm
      rw [if_neg inactive, gathers.parameters other listed]
      exact Option.or_none.symm
    · rw [if_pos active, ← get?_parametersOf, ← gathers.parameters _ listed,
        Members.get?_fillFrom]
    · have unmarked : parameterMaps markers kind = [] := by
        unfold parameterMaps
        have unnamed : markers.filter (fun entry => activeKind? entry = some kind) = [] := by
          refine List.filter_eq_nil_iff.mpr fun other listed same => fresh ?_
          rw [gathers.kinds, mem_distinct]
          exact List.mem_filterMap.mpr ⟨other, listed, of_decide_eq_true same⟩
        rw [unnamed]
        rfl
      rw [if_pos active, ← get?_parametersOf, unmarked]
      rfl

theorem Gathers.skip {markers : List (String × Value)} {found : List (LayerKind × Members)}
    (gathers : Gathers markers found) {entry : String × Value}
    (inactive : activeKind? entry = none) : Gathers (markers ++ [entry]) found := by
  refine ⟨?_, fun other inside key => ?_⟩
  · unfold activeKinds
    rw [List.filterMap_append, List.filterMap_cons_none inactive, List.filterMap_nil,
      List.append_nil]
    exact gathers.kinds
  · rw [parameterMaps_append, inactive, if_neg nofun, List.append_nil]
    exact gathers.parameters other inside key

/-- All markers of a plot are gathered. -/
theorem gatherAll_gathers {markers before : List (String × Value)}
    {found : List (LayerKind × Members)} (gathers : Gathers before found) :
    ∃ result, (gatherAll found markers).Returns result ∧ Gathers (before ++ markers) result := by
  induction markers generalizing before found with
  | nil => exact ⟨found, rfl, by rwa [List.append_nil]⟩
  | cons entry rest induction =>
      rw [List.append_cons]
      unfold gatherAll
      cases marked : LayerKind.ofMarker? entry.1 with
      | none =>
          have inactive : activeKind? entry = none := by rw [activeKind?, marked]; rfl
          rcases induction (gathers.skip inactive) with ⟨result, returned, gathered⟩
          refine ⟨result, ?_, gathered⟩
          simp only [Run.returns_bind]
          exact ⟨(), rfl, returned⟩
      | some kind =>
          dsimp only
          split
          · next present =>
              have active : activeKind? entry = some kind := by
                simp [activeKind?, marked, present]
              exact induction (gathers.gather active)
          · next absent =>
              have inactive : activeKind? entry = none := by simp [activeKind?, marked, absent]
              exact induction (gathers.skip inactive)

theorem exists_gathers (markers : List (String × Value)) :
    ∃ found, (gatherAll [] markers).Returns found ∧ Gathers markers found :=
  @gatherAll_gathers markers [] [] ⟨rfl, List.forall_mem_nil _⟩

theorem gathers_of_returns {markers : List (String × Value)} {found : List (LayerKind × Members)}
    (returned : (gatherAll [] markers).Returns found) : Gathers markers found := by
  rcases exists_gathers markers with ⟨same, gathered, gathers⟩
  exact gathered.unique returned ▸ gathers

/-! ## Regression plots -/

/-- The kind of layer that is requested for an active kind, given all of them. -/
def requestedAs (active : List LayerKind) (kind : LayerKind) : LayerKind :=
  if .point ∈ active ∧ .glm ∈ active ∧ (kind = .point ∨ kind = .glm) then .regressionPlot else kind

/-- The parameters that a request takes the first of: for a regression plot those of the line come
before those of the points. -/
def parameterSources (markers : List (String × Value)) : LayerKind → List Members
  | .regressionPlot => parameterMaps markers .glm ++ parameterMaps markers .point
  | kind => parameterMaps markers kind

theorem kinds_of_requests (found : List (LayerKind × Members)) :
    (found.map request).map (·.kind) = found.map (·.1) := by
  rw [List.map_map]
  rfl

theorem isFused_iff {kind : LayerKind} : isFused kind = true ↔ kind = .point ∨ kind = .glm := by
  simp [isFused]

/-- A kind, or what stands for the parts of a regression plot. -/
def replaced (fused kind : LayerKind) : LayerKind := if isFused kind then fused else kind

/-- Without what stands for the parts, the parts are gone and all else stays. -/
theorem filter_replaced {fused : LayerKind} {found : List (LayerKind × Members)}
    (new : fused ∉ found.map (·.1)) :
    ((found.map (·.1)).map (replaced fused)).filter (· ≠ fused) =
      (found.filter fun other => !isFused other.1).map (·.1) := by
  induction found with
  | nil => rfl
  | cons entry rest induction =>
      rw [List.map_cons, List.mem_cons, not_or] at new
      have later := induction new.2
      by_cases part : isFused entry.1 = true
      · simpa [replaced, part] using later
      · simpa [replaced, part, Ne.symm new.1] using later

/-- The parts of a regression plot give way to it, and it stands once. -/
theorem kinds_fuse {fused : LayerRequest} {found : List (LayerKind × Members)}
    (once : (found.map (·.1)).Nodup) (new : fused.kind ∉ found.map (·.1)) :
    (fuse fused found).map (·.kind) = distinct ((found.map (·.1)).map (replaced fused.kind)) := by
  induction found with
  | nil => rfl
  | cons entry rest induction =>
      rw [List.map_cons, List.nodup_cons] at once
      rw [List.map_cons, List.mem_cons, not_or] at new
      unfold fuse
      rw [List.map_cons, List.map_cons, distinct_cons]
      split
      · next part =>
          have fewer : ((rest.filter fun other => !isFused other.1).map (·.1)).Nodup :=
            once.2.sublist (List.filter_sublist.map _)
          have here : replaced fused.kind entry.1 = fused.kind := if_pos part
          rw [here, filter_replaced new.2, distinct_of_nodup fewer, List.map_cons,
            kinds_of_requests]
      · next apart =>
          have here : replaced fused.kind entry.1 = entry.1 := if_neg apart
          have kept : ((rest.map (·.1)).map (replaced fused.kind)).filter (· ≠ entry.1) =
              (rest.map (·.1)).map (replaced fused.kind) := by
            refine List.filter_eq_self.mpr fun image listed => decide_eq_true fun same => ?_
            rcases List.mem_map.mp listed with ⟨kind, inside, equal⟩
            unfold replaced at equal
            split at equal
            · exact new.1 (equal.trans same)
            · exact once.1 (same ▸ equal ▸ inside)
          rw [here, kept, ← induction once.2 new.2]
          rfl

theorem mem_fuse_cases {fused : LayerRequest} {found : List (LayerKind × Members)}
    {layer : LayerRequest} (inside : layer ∈ fuse fused found) :
    layer = fused ∨ ∃ entry ∈ found, isFused entry.1 = false ∧ layer = request entry := by
  induction found with
  | nil => cases inside
  | cons entry rest induction =>
      unfold fuse at inside
      split at inside
      · rcases List.mem_cons.mp inside with same | inside
        · exact .inl same
        · rcases List.mem_map.mp inside with ⟨other, kept, rfl⟩
          rcases List.mem_filter.mp kept with ⟨listed, apart⟩
          exact .inr ⟨other, List.mem_cons_of_mem _ listed, by simpa using apart, rfl⟩
      · next apart =>
          rcases List.mem_cons.mp inside with same | inside
          · exact .inr ⟨entry, List.mem_cons_self .., by simpa using apart, same⟩
          · refine (induction inside).imp_right fun ⟨other, listed, facts⟩ => ?_
            exact ⟨other, List.mem_cons_of_mem _ listed, facts⟩

theorem mem_of_lookup {found : List (LayerKind × Members)} {kind : LayerKind}
    {parameters : Members} (known : found.lookup kind = some parameters) :
    (kind, parameters) ∈ found := by
  rcases List.lookup_eq_some_iff.mp known with ⟨before, after, rfl, _⟩
  exact List.mem_append_right _ (List.mem_cons_self ..)

theorem exists_lookup {found : List (LayerKind × Members)} {kind : LayerKind}
    (inside : kind ∈ found.map (·.1)) : ∃ parameters, found.lookup kind = some parameters := by
  rcases List.mem_map.mp inside with ⟨entry, listed, rfl⟩
  exact Option.isSome_iff_exists.mp
    (List.lookup_isSome_iff.mpr ⟨entry, listed, beq_self_eq_true _⟩)

/-- The requests for what a list of markers gathers: one for each kind, with a regression plot for
its parts, and with the parameters that come first. -/
theorem Gathers.requestsOf {markers : List (String × Value)} {found : List (LayerKind × Members)}
    (gathers : Gathers markers found) :
    (requestsOf found).map (·.kind) =
        distinct ((activeKinds markers).map (requestedAs (activeKinds markers))) ∧
      ∀ layer ∈ LayerAnalysis.requestsOf found, ∀ key, layer.parameters.get? key =
        (parameterSources markers layer.kind).findSome? (·.get? key) := by
  have once : (found.map (·.1)).Nodup := gathers.kinds ▸ nodup_distinct _
  have listed : ∀ {kind}, kind ∈ found.map (·.1) ↔ kind ∈ activeKinds markers := by
    intro kind
    rw [gathers.kinds, mem_distinct]
  have unfused : .regressionPlot ∉ found.map (·.1) := by
    rw [listed]
    intro inside
    rcases List.mem_filterMap.mp inside with ⟨entry, _, active⟩
    exact (activeKind?_eq_some_iff.mp active).1 rfl
  have own : ∀ entry ∈ found, ∀ key, (request entry).parameters.get? key =
      (parameterSources markers (request entry).kind).findSome? (·.get? key) := by
    intro entry inside key
    have plain : parameterSources markers entry.1 = parameterMaps markers entry.1 := by
      unfold parameterSources
      split
      · next same => exact absurd (same ▸ List.mem_map_of_mem inside) unfused
      · rfl
    rw [show (request entry).kind = entry.1 from rfl, plain]
    exact gathers.parameters entry inside key
  unfold LayerAnalysis.requestsOf
  split
  -- Points and a line are there and give way to a regression plot.
  · next points line known_points known_line =>
      have point_inside := mem_of_lookup known_points
      have line_inside := mem_of_lookup known_line
      have together : ∀ kind, requestedAs (activeKinds markers) kind =
          replaced .regressionPlot kind := by
        intro kind
        unfold requestedAs replaced
        have point_active := listed.mp (List.mem_map_of_mem point_inside)
        have line_active := listed.mp (List.mem_map_of_mem line_inside)
        simp only [point_active, line_active, true_and, isFused_iff]
      refine ⟨?_, fun layer inside key => ?_⟩
      · rw [kinds_fuse once unfused, gathers.kinds, distinct_map_distinct]
        exact congrArg distinct (List.map_congr_left fun kind _ => (together kind).symm)
      · rcases mem_fuse_cases inside with rfl | ⟨entry, found_entry, _, rfl⟩
        · rw [Members.get?_fillFrom, gathers.parameters _ line_inside,
            gathers.parameters _ point_inside]
          exact List.findSome?_append.symm
        · exact own entry found_entry key
  -- One of them is missing, and each kind is requested as it is.
  · next apart =>
      have alone : ∀ kind, requestedAs (activeKinds markers) kind = kind := by
        intro kind
        refine if_neg fun ⟨point_active, line_active, _⟩ => ?_
        rcases exists_lookup (listed.mpr point_active) with ⟨points, known_points⟩
        rcases exists_lookup (listed.mpr line_active) with ⟨line, known_line⟩
        exact apart points line known_points known_line
      refine ⟨?_, fun layer inside key => ?_⟩
      · rw [kinds_of_requests, gathers.kinds, funext alone]
        exact congrArg distinct (List.map_id' _).symm
      · rcases List.mem_map.mp inside with ⟨entry, found_entry, rfl⟩
        exact own entry found_entry key

/-! ## Analyses -/

/-- No kind of layer is requested twice, and nothing is told but that points are the default. -/
theorem ofMarkers_once {markers : List (String × Value)} {analysis : LayerAnalysis}
    (returned : (ofMarkers markers).Returns analysis) :
    (analysis.requests.map (·.kind)).Nodup ∧
      ∀ note ∈ analysis.diagnostics, note.kind = "default-layer" := by
  unfold ofMarkers at returned
  simp only [Run.returns_bind, Run.returns_pure] at returned
  rcases returned with ⟨found, gathered, _, completed, _, _, rfl⟩
  have once : ((requestsOf found).map (·.kind)).Nodup := by
    rw [(gathers_of_returns gathered).requestsOf.1]
    exact nodup_distinct _
  unfold LayerAnalysis.completed at completed
  split at completed
  · simp only [Run.returns_bind, Run.returns_pure] at completed
    rcases completed with ⟨_, _, rfl⟩
    exact ⟨List.nodup_singleton _, List.forall_mem_singleton.mpr rfl⟩
  · cases completed
    exact ⟨once, List.forall_mem_nil _⟩

end LayerAnalysis

end ChartCompiler
