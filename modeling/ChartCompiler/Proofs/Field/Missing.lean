import ChartCompiler.Proofs.Table.Completion

/-!
# Missing entries and the kinds of fields

Entries that are missing say nothing about what a field holds. Texts are never numbers, and plain
numbers stay numbers, whatever is missing among them. Only truth values are judged by what they
stand beside: they count as numbers among numbers, the undefined one included, but not beside null.
-/

namespace ChartCompiler.Value

/-- Missing entries are null or the undefined number. -/
theorem isMissing_iff {entry : Value} :
    entry.isMissing = .ok true ↔ entry = .null ∨ entry = .real .nan := by
  cases entry with
  | null => exact iff_of_true rfl (.inl rfl)
  | number number =>
      cases number with
      | real value => cases value <;> simp [isMissing, Number.toReal, Binary64.isNaN]
      | whole value =>
          refine iff_of_false (fun missing => ?_) (by simp)
          obtain ⟨real, taken, undefined⟩ := (bind_eq_ok_iff _ _ _).mp missing
          obtain ⟨rounded, finite⟩ := realOfWhole_eq_ok_iff.mp taken
          cases real with
          | nan => cases finite
          | infinite | finite => cases undefined
  | _ => simp [isMissing]

/-- Whether an entry is a single one, and a whole number among them fits into 64 bits. -/
def IsSized (entry : Value) : Prop :=
  entry.IsScalar ∧ ∀ value, entry = .whole value → fits64 value = true

namespace IsSized

variable {entry : Value}

theorem isMixing_eq (sized : entry.IsSized) : entry.isMixing = entry.isNull := by
  cases entry with
  | number number => cases number with
      | whole value => simp [isMixing, isNull, sized.2 value rfl]
      | real value => rfl
  | null | bool | text => rfl
  | _ => exact absurd sized.1 id

/-- An entry that is there is a text, a truth value or a number. -/
theorem present (sized : entry.IsSized) (there : entry.isMissing ≠ .ok true) :
    entry.isText = true ∨ entry.isBool = true ∨ entry.isNumber = true := by
  cases entry with
  | null => exact absurd rfl there
  | bool | number | text => simp [isText, isBool, isNumber]
  | _ => exact absurd sized.1 id

/-- Sized entries have real numbers near to them. -/
theorem not_isHuge (sized : entry.IsSized) : ¬ entry.IsHuge := by
  cases entry with
  | null => exact not_isHuge_null
  | bool value => exact not_isHuge_bool value
  | text content => exact not_isHuge_text content
  | number number =>
      cases number with
      | real value => exact nofun
      | whole value =>
          have fits := sized.2 value rfl
          unfold fits64 at fits
          rw [Bool.and_eq_true, decide_eq_true_eq, decide_eq_true_eq] at fits
          rw [isHuge_whole_iff]
          exact Binary64.ofInt?_ne_none (show value.natAbs ≤ 2 ^ 64 by omega) (by decide)
  | _ => exact absurd sized.1 id

end IsSized

/-! ## The kind of sized entries -/

theorem IsScalar.isNull_or_isNumber {entry : Value} (single : entry.IsScalar) :
    (entry.isNull || entry.isNumber) = (!entry.isText && !entry.isBool) := by
  cases entry with
  | null | bool | number | text => rfl
  | _ => exact absurd single id

theorem IsScalar.isBool_or_isNumber {entry : Value} (single : entry.IsScalar) :
    (entry.isBool || entry.isNumber) = (!entry.isText && !entry.isNull) := by
  cases entry with
  | null | bool | number | text => rfl
  | _ => exact absurd single id

/-- What holds of just those entries that are neither of two kinds holds of all if there are none of
these kinds. -/
theorem all_eq_neither {entries : List Value} {holds first second : Value → Bool}
    (each : ∀ entry ∈ entries, holds entry = (!first entry && !second entry)) :
    entries.all holds = (!entries.any first && !entries.any second) := by
  induction entries with
  | nil => rfl
  | cons entry rest induction =>
      have others := induction fun other inside => each other (List.mem_cons_of_mem _ inside)
      rw [List.all_cons, List.any_cons, List.any_cons, others, each entry List.mem_cons_self]
      cases first entry <;> cases second entry <;> simp

/-- Entries that are not all missing are numbers if there is no text among them, and truth values
stand beside numbers and not beside null. -/
theorem areNumbers_of_present {entries : List Value} (sized : ∀ entry ∈ entries, entry.IsSized)
    (present : ∃ entry ∈ entries, entry.isMissing ≠ .ok true) :
    areNumbers entries = (!entries.any isText &&
      (!entries.any isBool || !entries.any isNull && entries.any isNumber)) := by
  have scalars : ∀ entry ∈ entries, entry.IsScalar := fun entry inside => (sized entry inside).1
  have plain := all_eq_neither fun entry inside => (scalars entry inside).isNull_or_isNumber
  have machine := all_eq_neither fun entry inside => (scalars entry inside).isBool_or_isNumber
  have native : entries.any isForeignBytes = false :=
    List.any_eq_false.mpr fun entry inside => by simp [(scalars entry inside).not_isForeignBytes]
  have mixing : entries.any isMixing = entries.any isNull := by
    rw [Bool.eq_iff_iff, List.any_eq_true, List.any_eq_true]
    exact exists_congr fun entry => and_congr_right fun inside => by
      rw [(sized entry inside).isMixing_eq]
  -- Where there are neither texts nor truth values, what is there is a number.
  have number (texts : entries.any isText = false) (truths : entries.any isBool = false) :
      entries.any isNumber = true := by
    obtain ⟨entry, inside, there⟩ := present
    rcases (sized entry inside).present there with text | truth | number
    · exact absurd text (List.any_eq_false.mp texts entry inside)
    · exact absurd truth (List.any_eq_false.mp truths entry inside)
    · exact List.any_eq_true.mpr ⟨entry, inside, number⟩
  have filled : entries.isEmpty = false := by
    obtain ⟨entry, inside, _⟩ := present
    exact List.isEmpty_eq_false_iff.mpr (List.ne_nil_of_mem inside)
  have told : (Value.list entries).holdsNumbers = .ok (areNumbers entries) :=
    holdsNumbers_scalars scalars
  apply Except.ok.inj (ε := Failure)
  rw [← told, holdsNumbers_scalars_eq scalars]
  unfold entriesAreNumeric
  simp only [native, mixing, filled, plain, machine, List.any_nil, Bool.false_or, Bool.and_false,
    Bool.false_eq_true, if_false]
  revert number
  generalize entries.any isText = texts, entries.any isBool = truths, entries.any isNull = nulls,
    entries.any isNumber = numbers
  cases texts <;> cases truths <;> cases nulls <;> simp

/-! ## Further missing entries -/

/-- Whether a field is another one with missing entries put in at any places. -/
inductive WithMissing : List Value → List Value → Prop
  | nil : WithMissing [] []
  | keep {rest others : List Value} (entry : Value) (following : WithMissing rest others) :
      WithMissing (entry :: rest) (entry :: others)
  | insert {rest others : List Value} (entry : Value) (missing : entry.isMissing = .ok true)
      (following : WithMissing rest others) : WithMissing rest (entry :: others)

namespace WithMissing

variable {entries others : List Value}

theorem sublist (inserted : WithMissing entries others) : entries.Sublist others := by
  induction inserted with
  | nil => exact .slnil
  | keep entry _ induction => exact induction.cons_cons entry
  | insert entry _ _ induction => exact induction.cons entry

/-- What is never missing is in both fields or in none. -/
theorem any_eq (inserted : WithMissing entries others) {property : Value → Bool}
    (present : ∀ entry : Value, entry.isMissing = .ok true → property entry = false) :
    others.any property = entries.any property := by
  induction inserted with
  | nil => rfl
  | keep entry _ induction => rw [List.any_cons, List.any_cons, induction]
  | insert entry missing _ induction =>
      rw [List.any_cons, present entry missing, Bool.false_or, induction]

theorem any_isText (inserted : WithMissing entries others) :
    others.any isText = entries.any isText :=
  inserted.any_eq fun entry missing => by
    rcases isMissing_iff.mp missing with rfl | rfl <;> rfl

theorem any_isBool (inserted : WithMissing entries others) :
    others.any isBool = entries.any isBool :=
  inserted.any_eq fun entry missing => by
    rcases isMissing_iff.mp missing with rfl | rfl <;> rfl

theorem any_of_any (inserted : WithMissing entries others) {property : Value → Bool}
    (found : entries.any property = true) : others.any property = true := by
  obtain ⟨entry, inside, holds⟩ := List.any_eq_true.mp found
  exact List.any_eq_true.mpr ⟨entry, inserted.sublist.mem inside, holds⟩

theorem sized (inserted : WithMissing entries others)
    (sized : ∀ entry ∈ entries, entry.IsSized) : ∀ entry ∈ others, entry.IsSized := by
  induction inserted with
  | nil => exact sized
  | keep entry _ induction =>
      rw [List.forall_mem_cons] at sized ⊢
      exact ⟨sized.1, induction sized.2⟩
  | insert entry missing _ induction =>
      refine List.forall_mem_cons.mpr ⟨?_, induction sized⟩
      rcases isMissing_iff.mp missing with rfl | rfl <;> exact ⟨trivial, nofun⟩

end WithMissing

/-- Whether missing entries turn truth values into something else: beside a number they lose it to
null, and without one they gain it from the undefined number. -/
def SwitchedByMissing (entries others : List Value) : Prop :=
  entries.any isBool = true ∧ entries.any isText = false ∧ entries.any isNull = false ∧
    if entries.any isNumber then others.any isNull = true
    else others.any isNull = false ∧ others.any isNumber = true

/-- Missing entries do not change the kind of a field that has no truth values, and that of a field
with truth values in two cases only. -/
theorem holdsNumbers_withMissing {entries others : List Value}
    (sized : ∀ entry ∈ entries, entry.IsSized)
    (present : ∃ entry ∈ entries, entry.isMissing ≠ .ok true)
    (inserted : WithMissing entries others) :
    ∃ told other, (Value.list entries).holdsNumbers = .ok told ∧
      (Value.list others).holdsNumbers = .ok other ∧
      (entries.any isBool = false → other = told) ∧
      (other ≠ told ↔ SwitchedByMissing entries others) := by
  have otherSized := inserted.sized sized
  have otherPresent : ∃ entry ∈ others, entry.isMissing ≠ .ok true :=
    present.imp fun _ found => ⟨inserted.sublist.mem found.1, found.2⟩
  have told := areNumbers_of_present sized present
  have other := areNumbers_of_present otherSized otherPresent
  rw [inserted.any_isText, inserted.any_isBool] at other
  refine ⟨areNumbers entries, areNumbers others,
    holdsNumbers_scalars fun entry inside => (sized entry inside).1,
    holdsNumbers_scalars fun entry inside => (otherSized entry inside).1, ?_, ?_⟩
  · intro truths
    rw [told, other, truths]
    rfl
  · -- Null and numbers that are there stay there, and that is all that the kind depends on.
    have nulls := @WithMissing.any_of_any _ _ inserted isNull
    have numbers := @WithMissing.any_of_any _ _ inserted isNumber
    rw [told, other, SwitchedByMissing]
    revert nulls numbers
    generalize entries.any isText = texts, entries.any isBool = truths,
      entries.any isNull = firstNulls, entries.any isNumber = firstNumbers,
      others.any isNull = lastNulls, others.any isNumber = lastNumbers
    revert texts truths firstNulls firstNumbers lastNulls lastNumbers
    decide

/-- Missing entries before, between and behind numbers. -/
theorem holdsNumbers_withMissing_numbers :
    ∃ told other, (Value.list [.whole 1, .real 2.5]).holdsNumbers = .ok told ∧
      (Value.list [.null, .whole 1, .real .nan, .real 2.5, .null]).holdsNumbers = .ok other ∧
      (List.any [Value.whole 1, .real 2.5] isBool = false → other = told) ∧
      (other ≠ told ↔ SwitchedByMissing [.whole 1, .real 2.5]
        [.null, .whole 1, .real .nan, .real 2.5, .null]) :=
  holdsNumbers_withMissing
    (List.forall_mem_cons.mpr ⟨⟨trivial, fun _ same => by cases same; decide⟩,
      List.forall_mem_singleton.mpr ⟨trivial, nofun⟩⟩)
    ⟨.whole 1, List.mem_cons_self, fun missing => by
      rcases isMissing_iff.mp missing with same | same <;> cases same⟩
    (.insert _ rfl (.keep _ (.insert _ rfl (.keep _ (.insert _ rfl .nil)))))

/-- The undefined number beside a truth value makes it a number, and null beside a truth value and a
number makes both of them categories. -/
theorem holdsNumbers_withMissing_truths :
    (WithMissing [.bool true] [.bool true, .real .nan] ∧
      (Value.list [.bool true]).holdsNumbers = .ok false ∧
      (Value.list [.bool true, .real .nan]).holdsNumbers = .ok true) ∧
    WithMissing [.whole 1, .bool true] [.whole 1, .bool true, .null] ∧
      (Value.list [.whole 1, .bool true]).holdsNumbers = .ok true ∧
      (Value.list [.whole 1, .bool true, .null]).holdsNumbers = .ok false :=
  ⟨⟨.keep _ (.insert _ rfl .nil), rfl, rfl⟩,
    .keep _ (.keep _ (.insert _ rfl .nil)), rfl, rfl⟩

end ChartCompiler.Value
