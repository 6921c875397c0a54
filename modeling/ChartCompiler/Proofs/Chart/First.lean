import Mathlib.Data.List.Induction

/-!
# First declarations

Of the items of a list that are the same in some respect the first one counts. What is told about a
later one depends on the first one.
-/

namespace ChartCompiler

/-- The items of a list, each with those before it. -/
def withEarlier (items : List α) : List (List α × α) :=
  items.zipIdx.map fun (item, place) => (items.take place, item)

theorem withEarlier_append_singleton (items : List α) (last : α) :
    withEarlier (items ++ [last]) = withEarlier items ++ [(items, last)] := by
  unfold withEarlier
  rw [List.zipIdx_append, List.map_append]
  congr 1
  · apply List.map_congr_left
    rintro ⟨item, place⟩ inside
    have within : place < items.length := by
      simpa using List.snd_lt_of_mem_zipIdx inside
    dsimp only
    rw [List.take_append_of_le_length (Nat.le_of_lt within)]
  · simp

theorem mem_withEarlier {items earlier : List α} {item : α} :
    (earlier, item) ∈ withEarlier items ↔ ∃ later, items = earlier ++ item :: later := by
  induction items using List.reverseRecOn with
  | nil => simp [withEarlier]
  | append_singleton before last induction =>
      rw [withEarlier_append_singleton, List.mem_append, induction, List.mem_singleton]
      constructor
      · rintro (⟨later, rfl⟩ | equal)
        · exact ⟨later ++ [last], by simp⟩
        · cases equal
          exact ⟨[], rfl⟩
      · rintro ⟨later, equal⟩
        rcases List.eq_nil_or_concat later with rfl | ⟨rest, final, rfl⟩
        · rcases List.append_inj' equal rfl with ⟨rfl, same⟩
          cases same
          exact .inr rfl
        · rw [List.concat_eq_append, ← List.cons_append, ← List.append_assoc] at equal
          exact .inl ⟨rest, (List.append_inj' equal rfl).1⟩

section

variable (same : α → α → Bool)

/-- The items that are the same as none before them. -/
def firsts (items : List α) : List α :=
  (withEarlier items).filterMap fun (earlier, item) =>
    if earlier.any (same · item) then none else some item

/-- What is told about each item, given the first one that is the same. -/
def conflicts (conflict? : Option α → α → Option β) (items : List α) : List β :=
  (withEarlier items).filterMap fun (earlier, item) =>
    conflict? (earlier.find? (same · item)) item

theorem firsts_append_singleton (items : List α) (last : α) :
    firsts same (items ++ [last]) =
      if items.any (same · last) then firsts same items else firsts same items ++ [last] := by
  unfold firsts
  rw [withEarlier_append_singleton, List.filterMap_append]
  dsimp only [List.filterMap_cons, List.filterMap_nil]
  cases items.any (same · last) <;> simp

theorem conflicts_append_singleton (conflict? : Option α → α → Option β) (items : List α)
    (last : α) :
    conflicts same conflict? (items ++ [last]) =
      conflicts same conflict? items
        ++ (conflict? (items.find? (same · last)) last).toList := by
  unfold conflicts
  rw [withEarlier_append_singleton, List.filterMap_append]
  dsimp only [List.filterMap_cons, List.filterMap_nil]
  cases conflict? (items.find? (same · last)) last <;> rfl

variable {same}

theorem mem_of_mem_firsts {items : List α} {item : α} (inside : item ∈ firsts same items) :
    item ∈ items := by
  rcases List.mem_filterMap.mp inside with ⟨⟨earlier, other⟩, listed, chosen⟩
  rcases mem_withEarlier.mp listed with ⟨later, rfl⟩
  dsimp only at chosen
  split at chosen
  · cases chosen
  · cases chosen
    exact List.mem_append_right _ (List.mem_cons_self ..)

/-- An item that is the same as another one is the same as the first of its kind. -/
theorem find?_firsts {items : List α} {item : α}
    (trans : ∀ first ∈ items, ∀ second ∈ items, same first second = true →
      same second item = true → same first item = true) :
    (firsts same items).find? (same · item) = items.find? (same · item) := by
  induction items using List.reverseRecOn with
  | nil => rfl
  | append_singleton before last induction =>
      have among : ∀ {other}, other ∈ before → other ∈ before ++ [last] :=
        fun inside => List.mem_append_left _ inside
      have known := induction fun first inFirst second inSecond =>
        trans first (among inFirst) second (among inSecond)
      rw [firsts_append_singleton, List.find?_append]
      split
      · next seen =>
          rw [known]
          rcases List.any_eq_true.mp seen with ⟨other, inside, alike⟩
          cases found : before.find? (same · item) with
          | some first => rfl
          | none =>
              have differs : same last item ≠ true := by
                intro equal
                have reached := trans other (among inside) last
                  (List.mem_append_right _ (List.mem_singleton.mpr rfl)) alike equal
                exact List.find?_eq_none.mp found other inside reached
              simp [differs]
      · rw [List.find?_append, known]

/-- Whether two items have the same key. -/
def sameBy [DecidableEq κ] (key : α → κ) (left right : α) : Bool := key left = key right

theorem find?_firsts_sameBy [DecidableEq κ] (key : α → κ) (items : List α) (item : α) :
    (firsts (sameBy key) items).find? (sameBy key · item) = items.find? (sameBy key · item) := by
  apply find?_firsts
  intro first _ second _ alike equal
  simp only [sameBy, decide_eq_true_eq] at alike equal ⊢
  exact alike.trans equal

variable {conflict? : Option α → α → Option β} {note : β}

end

end ChartCompiler
