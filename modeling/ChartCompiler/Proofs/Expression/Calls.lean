import ChartCompiler.Chart.References
import ChartCompiler.Expression.Basic
import ChartCompiler.Proofs.Number.Written
import Mathlib.Data.Bool.AllAny
import Mathlib.Data.List.Basic

/-!
# Calls in written expressions

A text is scanned for calls character by character. The names found in a written expression are
those that the expression itself gives to its functions: `Expr.quotedCalls_toText`.
-/

namespace ChartCompiler

namespace QuotedCall

/-! ## The scan at one place of a text -/

/-- Whether all characters may stand in words. -/
def IsWord (characters : List Char) : Prop :=
  ∀ character ∈ characters, Text.isWordCharacter character = true

instance (characters : List Char) : Decidable (IsWord characters) :=
  List.decidableBAll _ characters

/-- Whether functions have names that are words. -/
def AreWords (functions : List (List Char)) : Prop :=
  ∀ function ∈ functions, function ≠ [] ∧ IsWord function

instance (functions : List (List Char)) : Decidable (AreWords functions) :=
  List.decidableBAll _ functions

/-- Whether a word that ends before a text ends there, and is not called. -/
def Closes : List Char → Prop
  | [] => True
  | character :: _ => Text.isWordCharacter character = false ∧ character ≠ '('

theorem parenthesis_not_mem {word : List Char}
    (isWord : IsWord word) : '(' ∉ word :=
  fun inside => absurd (isWord '(' inside) (by decide)

/-- Two texts that agree up to the first occurrence of a character. -/
theorem eq_of_append_cons {marker : Char} : ∀ {first second rest tail : List Char},
    marker ∉ first → marker ∉ second → first ++ marker :: rest = second ++ marker :: tail →
    first = second
  | [], [], _, _, _, _, _ => rfl
  | [], _ :: _, _, _, _, notSecond, equal => by
      cases equal
      exact absurd (List.mem_cons_self ..) notSecond
  | _ :: _, [], _, _, notFirst, _, equal => by
      cases equal
      exact absurd (List.mem_cons_self ..) notFirst
  | head :: first, other :: second, rest, tail, notFirst, notSecond, equal => by
      have parts := List.cons.inj equal
      have inner := eq_of_append_cons (fun member => notFirst (List.mem_cons_of_mem _ member))
        (fun member => notSecond (List.mem_cons_of_mem _ member)) parts.2
      rw [parts.1, inner]

variable {functions : List (List Char)}

/-- A call is found only where a function is followed by an opening parenthesis. -/
theorem at?_eq_none {characters : List Char}
    (uncalled : ∀ function ∈ functions, ∀ rest, characters ≠ function ++ '(' :: rest) :
    at? functions characters = none := by
  unfold at?
  rw [List.findSome?_eq_none_iff]
  intro function member
  split
  · next isPrefix =>
      rcases List.isPrefixOf_iff_prefix.mp isPrefix with ⟨rest, equal⟩
      rw [← equal, List.drop_left, Option.map_eq_none_iff]
      unfold argument?
      split
      · next tail => exact absurd equal.symm (uncalled function member tail)
      · rfl
  · rfl

/-- No call begins in a text without parentheses, whatever comes after it. -/
theorem at?_append_eq_none (words : AreWords functions) {characters rest : List Char}
    (plain : '(' ∉ characters) (closes : Closes rest) :
    at? functions (characters ++ rest) = none := by
  apply at?_eq_none
  intro function member tail equal
  have isWord := (words function member).2
  rcases List.append_eq_append_iff.mp equal with ⟨inner, cut, left⟩ | ⟨inner, cut, left⟩
  · cases inner with
    | nil =>
        rw [left] at closes
        exact closes.2 rfl
    | cons head inner =>
        rw [left] at closes
        have wordHead := isWord head (by rw [cut]; simp)
        rw [closes.1] at wordHead
        cases wordHead
  · cases inner with
    | nil =>
        rw [List.nil_append] at left
        rw [← left] at closes
        exact closes.2 rfl
    | cons head inner =>
        rcases List.cons.inj left with ⟨rfl, _⟩
        exact plain (by rw [cut]; simp)

/-- At the name of another function no call begins. -/
theorem at?_other_eq_none (words : AreWords functions) {name rest : List Char}
    (isWord : IsWord name)
    (other : name ∉ functions) : at? functions (name ++ '(' :: rest) = none := by
  apply at?_eq_none
  intro function member tail equal
  have same := eq_of_append_cons (parenthesis_not_mem isWord)
    (parenthesis_not_mem (words function member).2) equal
  exact other (same ▸ member)

/-- A quoted name is read up to the closing quote. -/
theorem quotedName?_quoted {name rest : List Char} (named : name ≠ [])
    (unquoted : '\'' ∉ name) :
    quotedName? ('\'' :: (name ++ '\'' :: rest)) = some (name, name.length + 2) := by
  have read : (name ++ '\'' :: rest).takeWhile (fun character => !decide (character = '\''))
      = name := by
    rw [List.takeWhile_append_of_pos]
    · simp
    · intro character member
      have different : character ≠ '\'' := fun equal => unquoted (equal ▸ member)
      simpa using different
  simp [quotedName?, read, named]

theorem argument?_quoted {name rest : List Char} (named : name ≠ [])
    (unquoted : '\'' ∉ name) :
    argument? ('(' :: '\'' :: (name ++ '\'' :: rest)) = some (name, name.length + 3) := by
  have notBlank : Text.isBlank '\'' = false := by decide
  simp [argument?, notBlank, quotedName?_quoted named unquoted]

/-- Where all functions but one find nothing, that one decides. -/
theorem findSome?_eq_of_unique {search : α → Option β} {items : List α} {found : β} {item : α}
    (member : item ∈ items) (finds : search item = some found)
    (only : ∀ other ∈ items, search other = none ∨ search other = some found) :
    items.findSome? search = some found := by
  induction items with
  | nil => cases member
  | cons head rest induction =>
      rw [List.findSome?_cons]
      rcases only head (List.mem_cons_self ..) with nothing | same
      · rw [nothing]
        rcases List.mem_cons.mp member with rfl | member
        · rw [nothing] at finds
          cases finds
        · exact induction member fun other inside => only other (List.mem_cons_of_mem _ inside)
      · rw [same]

/-- What is found behind the opening parenthesis of a function decides. -/
theorem at?_of_argument (words : AreWords functions) {function name rest : List Char}
    {length : Nat} (member : function ∈ functions)
    (read : argument? ('(' :: rest) = some (name, length)) :
    at? functions (function ++ '(' :: rest) = some (name, length + function.length) := by
  apply findSome?_eq_of_unique member
  · simp [read]
  · intro other inside
    split
    · next isPrefix =>
        rcases List.isPrefixOf_iff_prefix.mp isPrefix with ⟨left, equal⟩
        rw [← equal, List.drop_left]
        cases left with
        | nil => exact .inl rfl
        | cons head tail =>
            by_cases opens : head = '('
            · subst opens
              have same := eq_of_append_cons (parenthesis_not_mem (words other inside).2)
                (parenthesis_not_mem (words function member).2) equal
              subst same
              rw [List.append_cancel_left equal, read]
              exact .inr rfl
            · refine .inl ?_
              unfold argument?
              split
              · next starts => exact absurd (List.cons.inj starts).1 opens
              · rfl
    · exact .inl rfl

/-- At the call of a function its quoted argument is found. -/
theorem at?_call (words : AreWords functions) {function name rest : List Char}
    (member : function ∈ functions) (named : name ≠ []) (unquoted : '\'' ∉ name) :
    at? functions (function ++ '(' :: '\'' :: (name ++ '\'' :: rest)) =
      some (name, name.length + 3 + function.length) :=
  at?_of_argument words member (argument?_quoted named unquoted)

/-! ## The scan along a text -/

/-- After a character that is not part of a word the scan begins anew. -/
theorem names_cons_of_not_word (words : AreWords functions) {character : Char}
    (outside : Text.isWordCharacter character = false) (inWord : Bool) (rest : List Char) :
    names functions 0 inWord (character :: rest) = names functions 0 false rest := by
  have uncalled : at? functions (character :: rest) = none := by
    apply at?_eq_none
    intro function member tail equal
    have isWord := words function member
    cases function with
    | nil => exact isWord.1 rfl
    | cons head function =>
        rcases List.cons.inj equal with ⟨rfl, _⟩
        have inside := isWord.2 character (List.mem_cons_self ..)
        rw [outside] at inside
        cases inside
  simp [names, uncalled, outside]

/-- Nothing is found in a text without parentheses. -/
theorem names_append_of_plain (words : AreWords functions) {rest : List Char}
    (closes : Closes rest) : ∀ {characters : List Char} (inWord : Bool), '(' ∉ characters →
    names functions 0 inWord (characters ++ rest) = names functions 0 false rest
  | [], inWord, _ => by
      cases rest with
      | nil => simp [names]
      | cons character rest =>
          rw [List.nil_append, names_cons_of_not_word words closes.1,
            names_cons_of_not_word words closes.1]
  | character :: characters, inWord, plain => by
      have uncalled := at?_append_eq_none words plain closes
      rw [List.cons_append] at uncalled ⊢
      simp only [names, uncalled, ite_self]
      exact names_append_of_plain words closes _ fun member =>
        plain (List.mem_cons_of_mem _ member)

/-- Inside a word nothing is found. -/
theorem names_word : ∀ {word : List Char} (rest : List Char),
    IsWord word →
    names functions 0 true (word ++ rest) = names functions 0 true rest
  | [], _, _ => rfl
  | character :: word, rest, isWord => by
      rw [List.cons_append]
      simp only [names, isWord character (List.mem_cons_self ..), if_true]
      exact names_word rest fun other member => isWord other (List.mem_cons_of_mem _ member)

/-- The call of another function finds what its arguments find. -/
theorem names_other (words : AreWords functions) {name rest : List Char}
    (isWord : IsWord name)
    (other : name ∉ functions) :
    names functions 0 false (name ++ '(' :: rest) = names functions 0 false rest := by
  have outside : Text.isWordCharacter '(' = false := by decide
  cases name with
  | nil => exact names_cons_of_not_word words outside false rest
  | cons character name =>
      have uncalled : at? functions (character :: name ++ '(' :: rest) = none :=
        at?_other_eq_none words isWord other
      rw [List.cons_append] at uncalled ⊢
      simp only [names, uncalled, Bool.false_eq_true, if_false,
        isWord character (List.mem_cons_self ..)]
      rw [names_word _ fun other member => isWord other (List.mem_cons_of_mem _ member)]
      exact names_cons_of_not_word words outside true rest

/-- The characters of a call that was found are not looked at again. -/
theorem names_skip : ∀ (skipped : List Char) (last : Char) (rest : List Char) (inWord : Bool),
    names functions (skipped.length + 1) inWord (skipped ++ last :: rest) =
      names functions 0 (Text.isWordCharacter last) rest
  | [], _, _, _ => rfl
  | _ :: skipped, last, rest, _ => names_skip skipped last rest _

/-- The call of a function finds its quoted argument, and what the rest of its arguments find. -/
theorem names_call (words : AreWords functions) {function name rest : List Char}
    (member : function ∈ functions) (named : name ≠ []) (unquoted : '\'' ∉ name) :
    names functions 0 false (function ++ '(' :: '\'' :: (name ++ '\'' :: rest)) =
      String.ofList name :: names functions 0 false rest := by
  have found : at? functions (function ++ '(' :: '\'' :: (name ++ '\'' :: rest)) =
      some (name, name.length + 3 + function.length) := at?_call words member named unquoted
  cases function with
  | nil => exact absurd rfl (words [] member).1
  | cons character function =>
      have skip := @names_skip functions (function ++ '(' :: '\'' :: name) '\'' rest
        (Text.isWordCharacter character)
      have last : Text.isWordCharacter '\'' = false := by decide
      have length : (function ++ '(' :: '\'' :: name).length + 1 =
          name.length + 3 + (character :: function).length - 1 := by
        simp only [List.length_append, List.length_cons]
        omega
      rw [length, last, List.append_assoc, List.cons_append, List.cons_append] at skip
      rw [List.cons_append] at found ⊢
      simp only [names, found, Bool.false_eq_true, if_false, skip]

end QuotedCall

/-! ## Scanners of written expressions

A scanner looks for names in a text from left to right. In a written expression it finds what it
finds in the parts, since the marks between the parts end them and hold no names themselves. -/

/-- A search for names in texts that begin outside of a word. -/
structure Scanner where
  scan : List Char → List String
  /-- Whether a part of an expression may end before a text. -/
  Ends : List Char → Prop
  scan_nil : scan [] = []
  scan_mark : ∀ mark ∈ ['(', '[', ')', ',', ' ', ']'], ∀ rest, scan (mark :: rest) = scan rest
  ends_nil : Ends []
  ends_mark : ∀ mark ∈ [')', ',', ' ', ']'], ∀ rest, Ends (mark :: rest)

namespace Scanner

variable {scanner : Scanner} {text other : List Char} {found others : List String}

/-- Whether these names are found in a text, and the scan goes on behind it. -/
def Reads (scanner : Scanner) (text : List Char) (found : List String) : Prop :=
  ∀ rest, scanner.Ends rest → scanner.scan (text ++ rest) = found ++ scanner.scan rest

theorem Reads.scan_eq (reads : scanner.Reads text found) : scanner.scan text = found := by
  have whole := reads [] scanner.ends_nil
  rwa [List.append_nil, scanner.scan_nil, List.append_nil] at whole

theorem reads_nil (scanner : Scanner) : scanner.Reads [] [] := fun _ _ => rfl

/-- A mark before a text holds nothing. -/
theorem Reads.cons (reads : scanner.Reads text found) (mark : Char)
    (isMark : mark ∈ ['(', '[', ')', ',', ' ', ']']) : scanner.Reads (mark :: text) found := by
  intro rest ends
  rw [List.cons_append, scanner.scan_mark mark isMark, reads rest ends]

/-- A part is read up to a mark that ends it, and then what follows it. -/
theorem Reads.append (reads : scanner.Reads text found) {mark : Char}
    (behind : scanner.Reads (mark :: other) others) (isMark : mark ∈ [')', ',', ' ', ']']) :
    scanner.Reads (text ++ mark :: other) (found ++ others) := by
  intro rest ends
  have first := reads (mark :: (other ++ rest)) (scanner.ends_mark mark isMark _)
  have second := behind rest ends
  rw [List.cons_append] at second
  rw [List.append_assoc, List.cons_append, first, second, List.append_assoc]

/-- A closing mark behind a part holds nothing. -/
theorem Reads.close (reads : scanner.Reads text found) (mark : Char)
    (isMark : mark ∈ [')', ']']) : scanner.Reads (text ++ [mark]) found := by
  have known : mark ∈ ['(', '[', ')', ',', ' ', ']'] ∧ mark ∈ [')', ',', ' ', ']'] := by
    rcases List.mem_pair.mp isMark with rfl | rfl <;> decide
  have whole := reads.append (scanner.reads_nil.cons mark known.1) known.2
  rwa [List.append_nil] at whole

/-- Two parts with a comma between them. -/
theorem Reads.comma (reads : scanner.Reads text found) (behind : scanner.Reads other others) :
    scanner.Reads (text ++ ',' :: ' ' :: other) (found ++ others) :=
  have marks : scanner.Reads (',' :: ' ' :: other) others :=
    (behind.cons ' ' (by decide)).cons ',' (by decide)
  reads.append marks (by decide)

/-- An operand is read alike with and without its parentheses. -/
theorem Reads.enclose (reads : scanner.Reads text found) (needed strength : Nat) :
    scanner.Reads (Expr.enclose needed strength text) found := by
  unfold Expr.enclose
  split
  · exact (reads.cons '(' (by decide)).close ')' (by decide)
  · exact reads

/-- Two operands of an operator that holds nothing itself. -/
theorem Reads.binary {operator : Operator} (reads : scanner.Reads text found)
    (symbol : scanner.Reads (' ' :: operator.symbol) [])
    (behind : scanner.Reads other others) :
    scanner.Reads (text ++ ' ' :: operator.symbol ++ ' ' :: other) (found ++ others) := by
  have before := reads.append symbol (by decide)
  rw [List.append_nil] at before
  exact before.append (behind.cons ' ' (by decide)) (by decide)

/-- The call of a function whose name holds nothing. -/
theorem Reads.call {name : String}
    (passes : ∀ rest, scanner.scan (name.toList ++ '(' :: rest) = scanner.scan rest)
    (reads : scanner.Reads text found) : scanner.Reads (Expr.renderCall name text) found := by
  have opened : scanner.Reads (name.toList ++ '(' :: text) found := by
    intro rest ends
    rw [List.append_assoc, List.cons_append, passes, reads rest ends]
  exact opened.close ')' (by decide)

end Scanner

/-! ## Written expressions -/

namespace Expr

/-- The names that an expression gives to some functions, as it is written. -/
def calls (functions : List (List Char)) : Expr → List String
  | .scaled scale argument =>
      (if "scale".toList ∈ functions then [scale.text] else []) ++ argument.calls functions
  | .bandwidth scale => if "bandwidth".toList ∈ functions then [scale.text] else []
  | .apply _ argument => argument.calls functions
  | .combine _ first second | .pair first second =>
      first.calls functions ++ second.calls functions
  | .binary _ left right => left.calls functions ++ right.calls functions
  | .number _ | .whole _ | .text _ | .extent _ | .datum _ | .random => []

/-- Whether a field can be told from what surrounds it in an expression. -/
def isField (name : String) : Bool := !name.isEmpty && name.toList.all Text.isWordCharacter

/-- Whether an expression can be read from its text: its fields are words, and its text constants
look like nothing else. -/
def isClear : Expr → Bool
  | .text content => content.toList.all fun character => character ≠ '(' && character ≠ 'd'
  | .datum field => isField field
  | .scaled _ argument | .apply _ argument => argument.isClear
  | .combine _ first second | .pair first second | .binary _ first second =>
      first.isClear && second.isClear
  | .number _ | .whole _ | .extent _ | .random | .bandwidth _ => true

/-- The functions of expressions whose arguments are not quoted. -/
def plainFunctions : List (List Char) :=
  "random".toList
    :: [UnaryFunction.squareRoot, .cosine, .sine, .normalQuantile].map (·.name.toList)
    ++ [BinaryFunction.minimum, .maximum, .power, .angle, .sequence].map (·.name.toList)

end Expr

namespace QuotedCall

/-- Whether functions are words, and other ones than those without quoted arguments. -/
structure AreQuoting (functions : List (List Char)) : Prop where
  words : AreWords functions
  distinct : ∀ function ∈ Expr.plainFunctions, function ∉ functions

variable {functions : List (List Char)}

/-- The scan for the calls of some functions. -/
def scanner (words : AreWords functions) : Scanner where
  scan := names functions 0 false
  Ends := Closes
  scan_nil := rfl
  scan_mark mark isMark rest := by
    have outside : ∀ other ∈ ['(', '[', ')', ',', ' ', ']'],
        Text.isWordCharacter other = false := List.all_iff_forall_prop.mp (by decide)
    exact names_cons_of_not_word words (outside mark isMark) false rest
  ends_nil := trivial
  ends_mark mark isMark rest := by
    have closing : ∀ other ∈ [')', ',', ' ', ']'],
        Text.isWordCharacter other = false ∧ other ≠ '(' :=
      List.all_iff_forall_prop.mp (by decide)
    exact closing mark isMark

theorem reads_plain (words : AreWords functions) {characters : List Char}
    (plain : '(' ∉ characters) : (scanner words).Reads characters [] :=
  fun _ closes => names_append_of_plain words closes false plain

theorem AreQuoting.plain (quoting : AreQuoting functions) {name rest : List Char}
    (member : name ∈ Expr.plainFunctions) :
    names functions 0 false (name ++ '(' :: rest) = names functions 0 false rest := by
  have areWords : ∀ function ∈ Expr.plainFunctions, IsWord function := by decide
  exact names_other quoting.words (areWords name member) (quoting.distinct name member)

end QuotedCall

namespace Expr

open QuotedCall Scanner

variable {functions : List (List Char)}

theorem ScaleName.text_quotable (scale : ScaleName) :
    scale.text.toList ≠ [] ∧ '\'' ∉ scale.text.toList ∧ '(' ∉ scale.text.toList := by
  cases scale <;> decide

/-- A scale call finds the scale, if it is looked for. -/
theorem reads_scaleCall (quoting : AreQuoting functions) (name : List Char)
    (isWord : IsWord name) (scale : ScaleName) :
    (scanner quoting.words).Reads (name ++ '(' :: renderText scale.text)
      (if name ∈ functions then [scale.text] else []) := by
  intro rest closes
  have quotable := ScaleName.text_quotable scale
  have written : name ++ '(' :: renderText scale.text ++ rest =
      name ++ '(' :: '\'' :: (scale.text.toList ++ '\'' :: rest) := by
    simp only [renderText, List.cons_append, List.append_assoc, List.nil_append]
  rw [written]
  change names functions 0 false _ = _ ++ names functions 0 false rest
  split
  · next member =>
      rw [names_call quoting.words member quotable.1 quotable.2.1, String.ofList_toList]
      rfl
  · next other =>
      have plain : '(' ∉ '\'' :: (scale.text.toList ++ ['\'']) := by
        simp [quotable.2.2]
      have skipped := names_append_of_plain quoting.words closes false plain
      simp only [List.cons_append, List.append_assoc, List.nil_append] at skipped
      rw [names_other quoting.words isWord other, skipped]
      rfl

theorem operator_plain (operator : Operator) : '(' ∉ ' ' :: operator.symbol := by
  cases operator <;> decide

/-- The scan of a written expression finds the names in its calls. -/
theorem reads_calls (quoting : AreQuoting functions) : ∀ (expression : Expr),
    expression.isClear = true →
    (scanner quoting.words).Reads expression.render (expression.calls functions)
  | .number value, _ => reads_plain quoting.words fun member =>
      (Binary64.isNumeralText_toGeneralText 6 value _ member).ne.1 rfl
  | .whole value, _ => reads_plain quoting.words fun member =>
      (Int.isNumeralText_toString value _ member).ne.1 rfl
  | .text content, clear => by
      refine reads_plain quoting.words ?_
      simp only [isClear, List.all_eq_true] at clear
      simp only [render, renderText, List.cons_append, List.mem_cons, List.mem_append]
      rintro (equal | member | equal | member)
      · cases equal
      · exact absurd (clear '(' member) (by decide)
      · cases equal
      · cases member
  | .extent dimension, _ => reads_plain quoting.words (by cases dimension <;> decide)
  | .datum field, clear => by
      simp only [isClear, isField, Bool.and_eq_true, List.all_eq_true] at clear
      refine reads_plain quoting.words fun member => ?_
      rcases List.mem_append.mp member with member | member
      · revert member
        decide
      · exact parenthesis_not_mem clear.2 member
  | .random, _ => (reads_nil _).call fun _ => quoting.plain (by decide)
  | .scaled scale argument, clear => by
      have whole := ((reads_scaleCall quoting "scale".toList (by decide) scale).comma
        (reads_calls quoting argument clear)).close ')' (by decide)
      simpa only [render, renderCall, calls, List.append_assoc, List.cons_append] using whole
  | .bandwidth scale, _ =>
      (reads_scaleCall quoting "bandwidth".toList (by decide) scale).close ')' (by decide)
  | .apply function argument, clear =>
      (reads_calls quoting argument clear).call fun _ =>
        quoting.plain (by cases function <;> decide)
  | .combine function first second, clear => by
      simp only [isClear, Bool.and_eq_true] at clear
      have arguments := (reads_calls quoting first clear.1).comma (reads_calls quoting second clear.2)
      exact arguments.call fun _ => quoting.plain (by cases function <;> decide)
  | .binary operator left right, clear => by
      simp only [isClear, Bool.and_eq_true] at clear
      exact ((reads_calls quoting left clear.1).enclose _ _).binary
        (reads_plain quoting.words (operator_plain operator))
        ((reads_calls quoting right clear.2).enclose _ _)
  | .pair first second, clear => by
      simp only [isClear, Bool.and_eq_true] at clear
      have inside := (reads_calls quoting first clear.1).comma (reads_calls quoting second clear.2)
      exact (inside.cons '[' (by decide)).close ']' (by decide)

/-- The names in the calls of a written expression are those that the expression gives. -/
theorem quotedCalls_toText (quoting : AreQuoting functions) (expression : Expr)
    (clear : expression.isClear = true) :
    quotedCalls functions expression.toText = expression.calls functions := by
  unfold quotedCalls toText
  rw [String.toList_ofList]
  exact (reads_calls quoting expression clear).scan_eq

end Expr

/-- A text without parentheses calls nothing. -/
theorem quotedCalls_eq_nil {functions : List (List Char)}
    (words : QuotedCall.AreWords functions) {text : String} (plain : '(' ∉ text.toList) :
    quotedCalls functions text = [] :=
  (QuotedCall.reads_plain words plain).scan_eq

theorem scaleFunctions_quoting : QuotedCall.AreQuoting scaleFunctions :=
  ⟨by decide, by decide⟩

end ChartCompiler
