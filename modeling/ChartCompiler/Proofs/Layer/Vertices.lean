import ChartCompiler.Proofs.Layer.Defaults
import ChartCompiler.Proofs.Layer.Drawn
import ChartCompiler.Table.Projection
import Mathlib.Data.List.Basic

/-!
# Vertices of polygons

A polygon over given vertices takes the usable numbers of two lists, each list on its own, and pairs
the numbers in their order. A number is paired with the one at its own place as long as the usable
places of the lists agree; where one list has a gap that the other has not, the rest is shifted.
-/

namespace ChartCompiler

/-! ## Lists paired item by item -/

/-- Paired items are equal exactly if one list is the beginning of the other. -/
theorem forall_mem_zip_eq_iff {left right : List α} :
    (∀ pair ∈ left.zip right, pair.1 = pair.2) ↔ left <+: right ∨ right <+: left := by
  induction left generalizing right with
  | nil => exact iff_of_true nofun (.inl List.nil_prefix)
  | cons first rest induction =>
      cases right with
      | nil => exact iff_of_true nofun (.inr List.nil_prefix)
      | cons second others =>
          rw [List.zip_cons_cons, List.forall_mem_cons, induction, List.cons_prefix_cons,
            List.cons_prefix_cons, eq_comm (a := second), ← and_or_left]

/-! ## Usable numbers and their places -/

namespace Value

/-- The usable numbers of a list, with their places. -/
def usableAt (items : List Value) (start : Nat := 0) : List (Nat × Binary64) :=
  (items.zipIdx start).filterMap fun (item, place) => item.usableReal?.map (place, ·)

/-- The places of the usable numbers of a list. -/
def usablePlaces (items : List Value) (start : Nat := 0) : List Nat :=
  (usableAt items start).map (·.1)

/-- Whether the usable places of two lists agree as long as both lists have some. -/
def PlacesAgree (xs ys : List Value) (start : Nat := 0) : Prop :=
  usablePlaces xs start <+: usablePlaces ys start ∨ usablePlaces ys start <+: usablePlaces xs start

/-- The pairs of usable numbers at the same place of two lists. -/
def usablePairs (xs ys : List Value) : List (Binary64 × Binary64) :=
  (xs.zip ys).filterMap fun (x, y) => do
    let x ← x.usableReal?
    let y ← y.usableReal?
    return (x, y)

variable {x y item : Value} {xs ys items : List Value} {start : Nat}

theorem usableAt_of_some {number : Binary64} (usable : item.usableReal? = some number) :
    usableAt (item :: items) start = (start, number) :: usableAt items (start + 1) := by
  simp [usableAt, usable]

theorem usableAt_of_none (unusable : item.usableReal? = none) :
    usableAt (item :: items) start = usableAt items (start + 1) := by
  simp [usableAt, unusable]

theorem usableAt_numbers (items : List Value) (start : Nat) :
    (usableAt items start).map (·.2) = items.filterMap usableReal? := by
  induction items generalizing start with
  | nil => rfl
  | cons item rest induction =>
      cases usable : item.usableReal? with
      | none => rw [usableAt_of_none usable, List.filterMap_cons_none usable, induction]
      | some number =>
          rw [usableAt_of_some usable, List.filterMap_cons_some usable, List.map_cons, induction]

/-- Places are counted from the start on. -/
theorem le_of_mem_usableAt {vertex : Nat × Binary64} (inside : vertex ∈ usableAt items start) :
    start ≤ vertex.1 := by
  rcases List.mem_filterMap.mp inside with ⟨⟨item, place⟩, numbered, usable⟩
  rcases Option.map_eq_some_iff.mp usable with ⟨number, _, rfl⟩
  exact List.le_snd_of_mem_zipIdx numbered

/-! ## Pairs at equal places -/

/-- Places agree exactly if numbers are paired only at equal places. -/
theorem placesAgree_iff : PlacesAgree xs ys start ↔
    ∀ pair ∈ (usableAt xs start).zip (usableAt ys start), pair.1.1 = pair.2.1 := by
  rw [PlacesAgree, usablePlaces, usablePlaces, ← forall_mem_zip_eq_iff, List.zip_map,
    List.forall_mem_map]
  rfl

theorem usablePairs_eq_nil (lacking : usableAt xs start = [] ∨ usableAt ys start = []) :
    usablePairs xs ys = [] := by
  refine List.filterMap_eq_nil_iff.mpr fun (x, y) inside => ?_
  have unusable : ∀ {items : List Value}, usableAt items start = [] →
      ∀ item ∈ items, item.usableReal? = none := fun none =>
    List.filterMap_eq_nil_iff.mp (by rw [← usableAt_numbers _ start, none, List.map_nil])
  rcases lacking with none | none
  · simp [unusable none x (List.of_mem_zip inside).1]
  · simp [unusable none y (List.of_mem_zip inside).2]

/-- Where one list has a usable number in front and the other has not, places agree only if the
other has none at all. -/
theorem PlacesAgree.usableAt_eq_nil {number : Binary64}
    (agree : PlacesAgree (x :: xs) (y :: ys) start) (usable : x.usableReal? = some number)
    (unusable : y.usableReal? = none) : usableAt (y :: ys) start = [] := by
  rw [PlacesAgree, usablePlaces, usablePlaces, usableAt_of_some usable,
    usableAt_of_none unusable] at agree
  rw [usableAt_of_none unusable]
  cases later : usableAt ys (start + 1) with
  | nil => rfl
  | cons vertex rest =>
      have beyond := le_of_mem_usableAt (later ▸ List.mem_cons_self : vertex ∈ usableAt ys _)
      simp only [later, List.map_cons, List.cons_prefix_cons] at agree
      omega

/-- What follows two items agrees if both of them are usable or neither is. -/
theorem PlacesAgree.rest (agree : PlacesAgree (x :: xs) (y :: ys) start)
    (alike : x.usableReal?.isSome = y.usableReal?.isSome) : PlacesAgree xs ys (start + 1) := by
  cases left : x.usableReal? <;> cases right : y.usableReal?
  case none.none =>
    rwa [PlacesAgree, usablePlaces, usablePlaces, usableAt_of_none left,
      usableAt_of_none right] at agree
  case some.some =>
    rw [PlacesAgree, usablePlaces, usablePlaces, usableAt_of_some left, usableAt_of_some right,
      List.map_cons, List.map_cons, List.cons_prefix_cons, List.cons_prefix_cons] at agree
    exact agree.imp (·.2) (·.2)
  all_goals simp [left, right] at alike

/-- As long as the places agree, the numbers are paired at their own places. -/
theorem PlacesAgree.zip_usableAt (agree : PlacesAgree xs ys start) :
    ((usableAt xs start).zip (usableAt ys start)).map (fun pair => (pair.1.2, pair.2.2)) =
      usablePairs xs ys := by
  induction xs generalizing ys start with
  | nil => rfl
  | cons x xs induction =>
      cases ys with
      | nil => simp [usableAt, usablePairs]
      | cons y ys =>
          cases left : x.usableReal? <;> cases right : y.usableReal?
          case none.none =>
            rw [usableAt_of_none left, usableAt_of_none right,
              induction (agree.rest (by rw [left, right]))]
            simp [usablePairs, left]
          case none.some =>
            -- The gap of the one list shifts the rest, unless the other has no usable numbers.
            have gap := PlacesAgree.usableAt_eq_nil agree.symm right left
            rw [gap, usablePairs_eq_nil (.inl gap), List.zip_nil_left, List.map_nil]
          case some.none =>
            have gap := agree.usableAt_eq_nil left right
            rw [gap, usablePairs_eq_nil (.inr gap), List.zip_nil_right, List.map_nil]
          case some.some =>
            rw [usableAt_of_some left, usableAt_of_some right, List.zip_cons_cons, List.map_cons,
              induction (agree.rest (by rw [left, right, Option.isSome_some, Option.isSome_some]))]
            simp [usablePairs, left, right]

end Value

/-! ## The rows of a polygon -/

namespace Layer

/-- The row of a vertex. -/
def vertexRow (x y : Binary64) : Members := [("x", .real x), ("y", .real y)]

/-- A polygon has no rows of its own, or those of the usable numbers of its parameters. -/
theorem polygon_inline {table : Table} {context : LayerContext} {parameters : Members}
    {drawing : Drawing} (returned : (polygon table context parameters).Returns drawing) :
    drawing.inline = [] ∨ drawing.inline = [⟨vertexSource,
      ((parameters.numbersOf "x").zip (parameters.numbersOf "y")).map
        fun (x, y) => vertexRow x y⟩] := by
  unfold polygon at returned
  simp only [Run.returns_bind] at returned
  rcases returned with ⟨xs, xsTaken, ys, ysTaken, returned⟩
  rw [← Members.numberListParameter_eq xsTaken, ← Members.numberListParameter_eq ysTaken]
  split at returned
  · right
    split at returned
    · simp only [Run.returns_bind, Run.returns_pure] at returned
      rcases returned with ⟨_, _, rfl⟩
      rfl
    · cases returned
      rfl
  · left
    split at returned
    · cases returned
      rfl
    · simp only [Run.returns_bind, Run.returns_pure] at returned
      rcases returned with ⟨_, _, rfl⟩
      rfl

/-- Over a table without rows, a polygon is drawn from its vertices alone. -/
theorem polygon_free {table : Table} {context : LayerContext} {parameters : Members}
    {xs ys : List Binary64} (empty : table.isEmpty = true) (given : xs ≠ [] ∧ ys ≠ [])
    (xsTaken : (parameters.numberListParameter "x").Returns xs)
    (ysTaken : (parameters.numberListParameter "y").Returns ys) :
    (polygon table context parameters).Returns
      (vertexPolygon context.style vertexScales xs ys) := by
  unfold polygon
  simp only [Run.returns_bind]
  refine ⟨xs, xsTaken, ys, ysTaken, ?_⟩
  rw [if_pos (by simpa using given), empty]
  rfl

end Layer

open Value Layer

/-- The given vertices of a polygon pair the usable numbers of two lists in their order. Each is a
pair of numbers at one place exactly as long as the usable places of the lists agree, and the
vertices are then the pairs of numbers that are usable at one place. -/
theorem LayerRequest.draw_vertices {table : Table} {context : LayerContext} {parameters : Members}
    {drawing : Drawing}
    (returned : ((⟨.polygon, parameters⟩ : LayerRequest).draw table context).Returns drawing) :
    ∀ inline ∈ drawing.inline,
      let xs := parameters.itemsOf "x"
      let ys := parameters.itemsOf "y"
      let vertices := (usableAt xs).zip (usableAt ys)
      inline.name = vertexSource ∧
        inline.rows = vertices.map (fun (x, y) => vertexRow x.2 y.2) ∧
        (PlacesAgree xs ys ↔ ∀ vertex ∈ vertices, vertex.1.1 = vertex.2.1) ∧
        (PlacesAgree xs ys →
          inline.rows = (usablePairs xs ys).map fun (x, y) => vertexRow x y) := by
  intro inline inside
  rcases polygon_inline (LayerRequest.draw_returns_iff.mp returned) with none | given
  · rw [none] at inside
    cases inside
  · rw [given, List.mem_singleton] at inside
    subst inside
    have rows : ((parameters.numbersOf "x").zip (parameters.numbersOf "y")).map
          (fun (x, y) => vertexRow x y) =
        ((usableAt (parameters.itemsOf "x")).zip (usableAt (parameters.itemsOf "y"))).map
          fun (x, y) => vertexRow x.2 y.2 := by
      rw [Members.numbersOf, Members.numbersOf, ← usableAt_numbers _ 0, ← usableAt_numbers _ 0,
        List.zip_map, List.map_map]
      rfl
    refine ⟨rfl, rows, placesAgree_iff, fun agree => ?_⟩
    rw [← agree.zip_usableAt, List.map_map]
    exact rows

/-! ## Two polygons without rows -/

/-- Bindings of no points. -/
def noPoints : Bindings := { x := .list [], y := .list [] }

/-- The table without points. -/
def emptyTable : Table := { rows := [], xKind := .continuous, yKind := .continuous }

theorem noPoints_projected : (Table.project noPoints).Returns emptyTable := by
  unfold Table.project
  simp only [Run.returns_bind, Run.returns_lift]
  refine ⟨_, rfl, _, rfl, _, rfl, _, rfl, _, rfl, _, rfl, true, rfl, true, rfl, _, rfl, _, rfl, _,
    rfl, ?_⟩
  simp only [Run.returns_bind, Run.returns_lift]
  exact ⟨_, rfl, none, rfl, none, rfl, (), rfl, rfl⟩

/-- A coordinate that may be missing. -/
def coordinate (given : Option Binary64) : Value := given.elim .null .real

theorem usableReal?_coordinate {given : Option Binary64}
    (finite : ∀ taken ∈ given, taken.isFinite = true) :
    (coordinate given).usableReal? = given := by
  cases given with
  | none => rfl
  | some taken => exact Members.usableReal?_real (finite taken rfl)

/-- Coordinates as parameters. -/
def coordinates (xs ys : List (Option Binary64)) : Members :=
  [("x", .list (xs.map coordinate)), ("y", .list (ys.map coordinate))]

theorem coordinates_taken {parameters : Members} {name : String} {given : List (Option Binary64)}
    (listed : parameters.itemsOf name = given.map coordinate)
    (finite : ∀ taken, some taken ∈ given → taken.isFinite = true) :
    (parameters.numberListParameter name).Returns given.reduceOption := by
  have usable : parameters.numbersOf name = given.reduceOption := by
    rw [Members.numbersOf, listed, List.filterMap_map]
    refine List.filterMap_congr fun taken inside => usableReal?_coordinate ?_
    rintro _ rfl
    exact finite _ inside
  rw [← usable]
  refine Members.numberListParameter_returns ?_
  rw [listed, List.forall_mem_map]
  intro taken _
  cases taken <;> simp [coordinate, IsHuge, toReal, Number.toReal]

/-- The polygon over some coordinates. -/
theorem coordinates_drawn {xs ys : List (Option Binary64)}
    (xsFinite : ∀ x, some x ∈ xs → x.isFinite = true)
    (ysFinite : ∀ y, some y ∈ ys → y.isFinite = true)
    (given : xs.reduceOption ≠ [] ∧ ys.reduceOption ≠ []) :
    ((⟨.polygon, coordinates xs ys⟩ : LayerRequest).draw emptyTable { style := {} }).Returns
      (vertexPolygon {} vertexScales xs.reduceOption ys.reduceOption) := by
  have xsTaken : ((coordinates xs ys).numberListParameter "x").Returns xs.reduceOption :=
    coordinates_taken rfl xsFinite
  have ysTaken : ((coordinates xs ys).numberListParameter "y").Returns ys.reduceOption :=
    coordinates_taken rfl ysFinite
  exact LayerRequest.draw_returns_iff.mpr (polygon_free rfl given xsTaken ysTaken)

/-- Coordinates that are missing at the same place. -/
def agreeingVertices : Members :=
  coordinates [some 1.0, none, some 3.0] [some 4.0, none, some 6.0, some 7.0]

/-- The other coordinates are paired at their own places. -/
theorem LayerRequest.draw_vertices_agreeing : ∃ drawing inline,
    (Table.project noPoints).Returns emptyTable ∧
      ((⟨.polygon, agreeingVertices⟩ : LayerRequest).draw emptyTable { style := {} }).Returns
        drawing ∧
      drawing.inline = [inline] ∧
      PlacesAgree (agreeingVertices.itemsOf "x") (agreeingVertices.itemsOf "y") ∧
      inline.rows = [vertexRow 1.0 4.0, vertexRow 3.0 6.0] := by
  have finite : ∀ taken ∈ [(1.0 : Binary64), 3.0, 4.0, 6.0, 7.0], taken.isFinite = true := by
    decide +kernel
  simp only [List.forall_mem_cons] at finite
  have returned := @coordinates_drawn [some 1.0, none, some 3.0]
    [some 4.0, none, some 6.0, some 7.0] (by simp [finite]) (by simp [finite])
    ⟨List.cons_ne_nil _ _, List.cons_ne_nil _ _⟩
  have agree : PlacesAgree (agreeingVertices.itemsOf "x") (agreeingVertices.itemsOf "y") := by
    change PlacesAgree ([some 1.0, none, some 3.0].map coordinate)
      ([some 4.0, none, some 6.0, some 7.0].map coordinate)
    simp [PlacesAgree, usablePlaces, usableAt, usableReal?_coordinate, finite]
  obtain ⟨_, _, _, paired⟩ := LayerRequest.draw_vertices returned _ (List.mem_singleton_self _)
  refine ⟨_, _, noPoints_projected, returned, rfl, agree, (paired agree).trans ?_⟩
  change (usablePairs ([some 1.0, none, some 3.0].map coordinate)
    ([some 4.0, none, some 6.0, some 7.0].map coordinate)).map _ = _
  simp [usablePairs, usableReal?_coordinate, finite]

/-- Coordinates of which one is missing. -/
def shiftedVertices : Members :=
  coordinates [some 1.0, none, some 3.0] [some 4.0, some 5.0, some 6.0]

/-- The last x is paired with the y of the missing one. -/
theorem LayerRequest.draw_vertices_shifted : ∃ drawing inline,
    (Table.project noPoints).Returns emptyTable ∧
      ((⟨.polygon, shiftedVertices⟩ : LayerRequest).draw emptyTable { style := {} }).Returns
        drawing ∧
      drawing.inline = [inline] ∧ inline.rows = [vertexRow 1.0 4.0, vertexRow 3.0 5.0] ∧
      inline.rows ≠ (usablePairs (shiftedVertices.itemsOf "x") (shiftedVertices.itemsOf "y")).map
        fun (x, y) => vertexRow x y := by
  have finite : ∀ taken ∈ [(1.0 : Binary64), 3.0, 4.0, 5.0, 6.0], taken.isFinite = true := by
    decide +kernel
  have other : (5.0 : Binary64) ≠ 6.0 := by decide +kernel
  simp only [List.forall_mem_cons] at finite
  have returned := @coordinates_drawn [some 1.0, none, some 3.0] [some 4.0, some 5.0, some 6.0]
    (by simp [finite]) (by simp [finite]) ⟨List.cons_ne_nil _ _, List.cons_ne_nil _ _⟩
  refine ⟨_, _, noPoints_projected, returned, rfl, rfl, ?_⟩
  change [vertexRow 1.0 4.0, vertexRow 3.0 5.0] ≠ (usablePairs
    ([some 1.0, none, some 3.0].map coordinate)
    ([some 4.0, some 5.0, some 6.0].map coordinate)).map _
  simp [usablePairs, usableReal?_coordinate, finite, vertexRow, other]

end ChartCompiler
