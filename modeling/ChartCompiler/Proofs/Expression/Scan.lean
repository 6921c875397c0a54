import ChartCompiler.Proofs.Expression.Calls

/-!
# The scan for calls

A call at a place of a text is the name of a function at the beginning of a word, an opening
parenthesis, blanks and a quoted name. Texts are scanned from left to right: behind a call the scan
goes on where the call ends, at any other place with the next character.
-/

namespace ChartCompiler

namespace QuotedCall

/-- Whether a word can begin behind a text. -/
def EndsWord (before : List Char) : Prop :=
  ∀ last ∈ before.getLast?, Text.isWordCharacter last = false

/-- A call of one of some functions that lies between the texts `before` and `behind`; `rest` is
all from the call on. -/
structure Call (functions : List (List Char)) (before rest name behind : List Char) : Prop where
  boundary : EndsWord before
  form : ∃ function ∈ functions, ∃ blanks : List Char,
    (∀ blank ∈ blanks, Text.isBlank blank = true) ∧
      rest = function ++ '(' :: (blanks ++ '\'' :: (name ++ '\'' :: behind))
  named : name ≠ []
  unquoted : '\'' ∉ name

/-- The names in the calls that are found from a place of a text on. -/
inductive Scan (functions : List (List Char)) :
    (before rest : List Char) → List (List Char) → Prop
  | done {before : List Char} : Scan functions before [] []
  | call {before rest taken behind name : List Char} {names : List (List Char)} :
      Call functions before rest name behind → rest = taken ++ behind →
        Scan functions (before ++ taken) behind names → Scan functions before rest (name :: names)
  | pass {before rest : List Char} {character : Char} {names : List (List Char)} :
      (∀ name behind, ¬ Call functions before (character :: rest) name behind) →
        Scan functions (before ++ [character]) rest names →
          Scan functions before (character :: rest) names

/-! ## Calls at the front of a text -/

variable {functions : List (List Char)} {before rest name behind : List Char}

theorem quotedName?_eq_some {characters : List Char} {length : Nat}
    (found : quotedName? characters = some (name, length)) :
    name ≠ [] ∧ '\'' ∉ name ∧ length = name.length + 2 ∧
      ∃ behind, characters = '\'' :: (name ++ '\'' :: behind) := by
  unfold quotedName? at found
  split at found
  · next body =>
      dsimp only at found
      split at found
      · cases found
      · next quoted =>
          rw [Option.some.injEq, Prod.mk.injEq] at found
          rcases found with ⟨rfl, rfl⟩
          rw [Bool.or_eq_true, not_or, Bool.not_eq_true, List.isEmpty_eq_false_iff,
            decide_eq_true_eq] at quoted
          have unquoted : '\'' ∉ body.takeWhile (· ≠ '\'') := fun inside => by
            simpa using List.all_eq_true.mp List.all_takeWhile _ inside
          refine ⟨quoted.1, unquoted, rfl, ?_⟩
          have parts := List.takeWhile_append_dropWhile (p := (· ≠ '\'')) (l := body)
          cases left : body.dropWhile (· ≠ '\'') with
          | nil =>
              rw [left, List.append_nil] at parts
              exact absurd (congrArg List.length parts) quoted.2
          | cons mark behind =>
              have stops := List.head?_dropWhile_not (· ≠ '\'') body
              rw [left] at stops
              have same : mark = '\'' := by simpa using stops
              rw [left, same] at parts
              exact ⟨behind, congrArg ('\'' :: ·) parts.symm⟩
  · cases found

theorem argument?_eq_some {characters : List Char} {length : Nat}
    (found : argument? characters = some (name, length)) :
    name ≠ [] ∧ '\'' ∉ name ∧ ∃ blanks behind : List Char,
      (∀ blank ∈ blanks, Text.isBlank blank = true) ∧ length = name.length + blanks.length + 3 ∧
        characters = '(' :: (blanks ++ '\'' :: (name ++ '\'' :: behind)) := by
  unfold argument? at found
  split at found
  · next rest =>
      rcases Option.map_eq_some_iff.mp found with ⟨⟨quoted, size⟩, read, equal⟩
      rw [Prod.mk.injEq] at equal
      rcases equal with ⟨rfl, rfl⟩
      rcases quotedName?_eq_some read with ⟨named, unquoted, rfl, behind, after⟩
      have parts := List.takeWhile_append_dropWhile (p := Text.isBlank) (l := rest)
      rw [after] at parts
      refine ⟨named, unquoted, rest.takeWhile Text.isBlank, behind, fun blank inside =>
        List.all_eq_true.mp List.all_takeWhile blank inside, by omega, ?_⟩
      rw [parts]
  · cases found

theorem argument?_blanks {blanks : List Char} (blank : ∀ space ∈ blanks, Text.isBlank space = true)
    (named : name ≠ []) (unquoted : '\'' ∉ name) :
    argument? ('(' :: (blanks ++ '\'' :: (name ++ '\'' :: behind))) =
      some (name, name.length + blanks.length + 3) := by
  have mark : Text.isBlank '\'' = false := by decide
  have taken : (blanks ++ '\'' :: (name ++ '\'' :: behind)).takeWhile Text.isBlank = blanks := by
    rw [List.takeWhile_append_of_pos blank, List.takeWhile_cons, mark]
    simp
  have dropped : (blanks ++ '\'' :: (name ++ '\'' :: behind)).dropWhile Text.isBlank =
      '\'' :: (name ++ '\'' :: behind) := by
    rw [List.dropWhile_append_of_pos blank, List.dropWhile_cons, mark]
    simp
  simp only [argument?, taken, dropped, quotedName?_quoted named unquoted, Option.map_some,
    Option.some.injEq, Prod.mk.injEq, true_and]
  omega

/-- The call at the front of a text is found with all its characters; the last one is a quote. -/
theorem Call.at?_eq (words : AreWords functions) (call : Call functions before rest name behind) :
    ∃ first taken, rest = first :: (taken ++ '\'' :: behind) ∧
      at? functions rest = some (name, taken.length + 2) := by
  rcases call.form with ⟨function, member, blanks, blank, rfl⟩
  have found := at?_of_argument words member
    (@argument?_blanks name behind blanks blank call.named call.unquoted)
  cases function with
  | nil => exact absurd rfl (words [] member).1
  | cons first function =>
      refine ⟨first, function ++ '(' :: (blanks ++ '\'' :: name), ?_, ?_⟩
      · simp
      · rw [found, Option.some.injEq, Prod.mk.injEq]
        refine ⟨rfl, ?_⟩
        simp only [List.length_append, List.length_cons]
        omega

theorem call_of_at? (boundary : EndsWord before) {length : Nat}
    (found : at? functions rest = some (name, length)) :
    ∃ behind, Call functions before rest name behind := by
  rcases List.exists_of_findSome?_eq_some found with ⟨function, member, found⟩
  split at found
  · next isPrefix =>
      rcases List.isPrefixOf_iff_prefix.mp isPrefix with ⟨after, rfl⟩
      rw [List.drop_left] at found
      rcases Option.map_eq_some_iff.mp found with ⟨⟨quoted, size⟩, read, equal⟩
      rw [Prod.mk.injEq] at equal
      rcases equal with ⟨rfl, rfl⟩
      rcases argument?_eq_some read with ⟨named, unquoted, blanks, behind, blank, _, rfl⟩
      exact ⟨behind, boundary, ⟨function, member, blanks, blank, rfl⟩, named, unquoted⟩
  · cases found

/-- At one place there is one call at most. -/
theorem Call.unique (words : AreWords functions) {other left : List Char}
    (call : Call functions before rest name behind)
    (again : Call functions before rest other left) : name = other ∧ behind = left := by
  rcases call.at?_eq words with ⟨first, taken, shape, found⟩
  rcases again.at?_eq words with ⟨head, used, form, seen⟩
  rw [found, Option.some.injEq, Prod.mk.injEq] at seen
  rcases List.cons.inj (shape.symm.trans form) with ⟨_, same⟩
  have length : taken.length = used.length := by omega
  exact ⟨seen.1, (List.cons.inj (List.append_inj_right same length)).2⟩

/-! ## Scans -/

/-- The scan of a text finds the same names whenever it is made. -/
theorem Scan.unique (words : AreWords functions) {names others : List (List Char)}
    (scan : Scan functions before rest names) (again : Scan functions before rest others) :
    names = others := by
  induction scan generalizing others with
  | done =>
      cases again with
      | done => rfl
      | call found _ _ =>
          rcases found.at?_eq words with ⟨_, _, shape, _⟩
          cases shape
  | call found cut _ induction =>
      cases again with
      | done =>
          rcases found.at?_eq words with ⟨_, _, shape, _⟩
          cases shape
      | call other split following =>
          rcases found.unique words other with ⟨rfl, rfl⟩
          cases List.append_cancel_right (cut.symm.trans split)
          rw [induction following]
      | pass none _ => exact absurd found (none _ _)
  | pass none _ induction =>
      cases again with
      | call found _ _ => exact absurd found (none _ _)
      | pass _ following => exact induction following

/-- Whether a word goes on behind a text. -/
def goesOn (before : List Char) : Bool := before.getLast?.any Text.isWordCharacter

theorem goesOn_append_singleton (before : List Char) (character : Char) :
    goesOn (before ++ [character]) = Text.isWordCharacter character := by
  simp [goesOn]

theorem goesOn_eq_false_iff : goesOn before = false ↔ EndsWord before := by
  unfold goesOn EndsWord
  cases before.getLast? <;> simp

/-- The names are found that the scan of a text finds. -/
theorem names_scan (words : AreWords functions) (before rest : List Char) :
    ∃ found, Scan functions before rest found ∧
      names functions 0 (goesOn before) rest = found.map String.ofList := by
  induction size : rest.length using Nat.strongRecOn generalizing before rest with
  | _ size induction =>
      cases rest with
      | nil => exact ⟨[], .done, rfl⟩
      | cons character rest =>
          by_cases called : ∃ name behind, Call functions before (character :: rest) name behind
          · rcases called with ⟨name, behind, call⟩
            rcases call.at?_eq words with ⟨first, taken, shape, found⟩
            rcases List.cons.inj shape with ⟨rfl, rfl⟩
            have whole : character :: (taken ++ '\'' :: behind) =
                (character :: taken ++ ['\'']) ++ behind := by simp
            rcases induction behind.length (by simp at size; omega)
              (before ++ (character :: taken ++ ['\''])) behind rfl with ⟨others, scan, listed⟩
            refine ⟨name :: others, .call call whole scan, ?_⟩
            rw [← List.append_assoc, goesOn_append_singleton] at listed
            simp only [names, goesOn_eq_false_iff.mpr call.boundary, found, Bool.false_eq_true,
              if_false]
            rw [List.map_cons, ← listed]
            exact congrArg _ (names_skip taken '\'' behind _)
          · have none : ∀ name behind, ¬ Call functions before (character :: rest) name behind :=
              fun name behind call => called ⟨name, behind, call⟩
            rcases induction rest.length (by simp at size; omega) (before ++ [character]) rest rfl
              with ⟨found, scan, listed⟩
            rw [goesOn_append_singleton] at listed
            refine ⟨found, .pass none scan, ?_⟩
            have missed : (if goesOn before then Option.none
                else at? functions (character :: rest)) = Option.none := by
              split
              · rfl
              · next ended =>
                  cases seen : at? functions (character :: rest) with
                  | none => rfl
                  | some pair =>
                      have boundary := goesOn_eq_false_iff.mp (Bool.eq_false_iff.mpr ended)
                      rcases call_of_at? boundary seen with ⟨behind, call⟩
                      exact absurd call (none _ _)
            rw [names, missed]
            exact listed

end QuotedCall

/-- The names that a text gives to functions are those that its scan finds. -/
theorem mem_quotedCalls_iff {functions : List (List Char)} (words : QuotedCall.AreWords functions)
    {text name : String} : name ∈ quotedCalls functions text ↔
      ∃ found, QuotedCall.Scan functions [] text.toList found ∧ name.toList ∈ found := by
  rcases QuotedCall.names_scan words [] text.toList with ⟨names, scan, listed⟩
  have same : name ∈ quotedCalls functions text ↔ name.toList ∈ names := by
    change name ∈ QuotedCall.names functions 0 (QuotedCall.goesOn []) text.toList ↔ _
    rw [listed, List.mem_map]
    constructor
    · rintro ⟨found, inside, rfl⟩
      rwa [String.toList_ofList]
    · exact fun inside => ⟨name.toList, inside, String.ofList_toList⟩
  rw [same]
  constructor
  · exact fun inside => ⟨names, scan, inside⟩
  · rintro ⟨found, other, inside⟩
    exact scan.unique words other ▸ inside

end ChartCompiler
