import ChartCompiler.Proofs.Json.Numbers
import ChartCompiler.Proofs.Log.Outcome
import ChartCompiler.Proofs.Value.Json

/-!
# Documents that are read back

The text of a value starts with a character of its own and is followed by a comma or the end of a
line. From there it is read as the value, whatever comes after it.
-/

namespace ChartCompiler.Json

/-! ## Spaces -/

/-- Whether a text starts with a character that is neither a space nor the end of a list. -/
def Opens (text : List Char) : Prop :=
  ∃ character rest, text = character :: rest ∧ isSpace character = false ∧ character ≠ ']'

theorem opens_cons {character : Char} (shown : isSpace character = false)
    (open_ : character ≠ ']') (rest : List Char) : Opens (character :: rest) :=
  ⟨character, rest, rfl, shown, open_⟩

theorem Opens.append {text : List Char} (opens : Opens text) (rest : List Char) :
    Opens (text ++ rest) := by
  rcases opens with ⟨character, more, rfl, shown, open_⟩
  exact opens_cons shown open_ _

theorem Opens.skipSpaces_eq {text : List Char} (opens : Opens text) : skipSpaces text = text := by
  rcases opens with ⟨character, more, rfl, shown, _⟩
  unfold skipSpaces
  rw [List.dropWhile_cons_of_neg (by simp [shown])]

theorem skipSpaces_lineStart (depth : Nat) (rest : List Char) :
    skipSpaces (lineStart depth ++ rest) = skipSpaces rest := by
  have spaces : ∀ character ∈ lineStart depth, isSpace character = true := by
    refine List.forall_mem_cons.mpr ⟨rfl, fun character inside => ?_⟩
    rw [List.eq_of_mem_replicate inside]
    rfl
  unfold skipSpaces
  rw [List.dropWhile_append_of_pos spaces]

theorem length_lineStart (depth : Nat) : (lineStart depth).length = 2 * depth + 1 := by
  unfold lineStart
  rw [List.length_cons, List.length_replicate]

theorem ascii_lineStart (depth : Nat) : Ascii (lineStart depth) := by
  refine .cons (by decide) fun character inside => ?_
  rw [List.eq_of_mem_replicate inside]
  decide

/-! ## Texts of values -/

/-- Whether a text stands for a value: it is ASCII and read as the value, at a depth that is allowed
and with as many steps as it has characters. -/
structure StandsFor (depth : Nat) (text : List Char) (value : Value) : Prop where
  opens : Opens text
  ascii : Ascii text
  reads : ∀ fuel rest, text.length < fuel → Ends rest →
    readValue depth fuel (text ++ rest) = .ok (value, rest)

/-- Whether all that is written for a value stands for it. -/
def WritesBack (depth : Nat) (value : Value) : Prop :=
  ∀ level text, write level value = .ok text → StandsFor depth text value

variable {depth : Nat}

/-- Whether a text starts with no mark of a string, a list or a map. -/
def Plain (text : List Char) : Prop :=
  ∃ character rest, text = character :: rest ∧ character ≠ '"' ∧ character ≠ '[' ∧
    character ≠ '\x7b'

theorem readValue_of_plain {text : List Char} (plain : Plain text) {fuel : Nat}
    (fueled : 0 < fuel) : readValue depth fuel text = readScalar text := by
  rcases plain with ⟨character, rest, rfl, noString, noList, noMap⟩
  cases fuel with
  | zero => cases fueled
  | succ fuel =>
      unfold readValue
      split
      · next same => exact absurd (List.cons.inj same).1 noString
      · next same => exact absurd (List.cons.inj same).1 noList
      · next same => exact absurd (List.cons.inj same).1 noMap
      · rfl

theorem Plain.append {text : List Char} (plain : Plain text) (rest : List Char) :
    Plain (text ++ rest) := by
  rcases plain with ⟨character, more, rfl, others⟩
  exact ⟨character, more ++ rest, rfl, others⟩

/-! ## Words and numbers -/

theorem standsFor_of_readScalar {text : List Char} {value : Value} (opens : Opens text)
    (ascii : Ascii text) (plain : Plain text)
    (read : ∀ rest, Ends rest → readScalar (text ++ rest) = .ok (value, rest)) :
    StandsFor depth text value := by
  refine ⟨opens, ascii, fun fuel rest fueled ends => ?_⟩
  rw [readValue_of_plain (plain.append rest) (Nat.zero_lt_of_lt fueled), read rest ends]

theorem writesBack_null : WritesBack depth .null := by
  intro level text written
  unfold write at written
  cases written
  exact standsFor_of_readScalar ⟨_, _, rfl, by decide⟩ (by decide) ⟨_, _, rfl, by decide⟩
    fun _ _ => rfl

theorem writesBack_bool (value : Bool) : WritesBack depth (.bool value) := by
  intro level text written
  unfold write at written
  cases written
  cases value with
  | true =>
      exact standsFor_of_readScalar ⟨_, _, rfl, by decide⟩ (by decide) ⟨_, _, rfl, by decide⟩
        fun _ _ => rfl
  | false =>
      exact standsFor_of_readScalar ⟨_, _, rfl, by decide⟩ (by decide) ⟨_, _, rfl, by decide⟩
        fun _ _ => rfl

theorem isNumeral_ascii {character : Char} (numeral : IsNumeral character) :
    character.toNat < 0x80 := by
  rcases numeral with digit | mark
  · unfold Char.isDigit at digit
    rw [Bool.and_eq_true, decide_eq_true_eq, decide_eq_true_eq] at digit
    have upper : character.toNat ≤ 57 := digit.2
    omega
  · have marks : Ascii numeralMarks := by decide
    exact marks character mark

theorem isNumeralText_writeNumber {number : Number} (finite : number.isFinite = true)
    {text : List Char} (written : writeNumber number = .ok text) : IsNumeralText text := by
  rcases writeNumber_eq_ok finite written with ⟨value, _, _, rfl⟩ | ⟨negative, magnitude, _, rfl⟩
  · exact Int.isNumeralText_toString _
  · rw [toList_toText]
    refine .append ?_ (DecimalLayout.isNumeralText_write _ _ (by decide))
    cases negative <;> decide

theorem writesBack_number {number : Number} (finite : number.isFinite = true) :
    WritesBack depth (.number number) := by
  intro level text written
  unfold write at written
  have numerals := isNumeralText_writeNumber finite written
  have read : ∀ rest, Ends rest → readScalar (text ++ rest) = .ok (.number number, rest) :=
    fun _ ends => readScalar_writeNumber finite written ends
  cases text with
  | nil => cases read [] ends_nil
  | cons character rest =>
      have first := numerals character List.mem_cons_self
      have other {mark : Char} (foreign : ¬ IsNumeral mark) : character ≠ mark := by
        rintro rfl
        exact foreign first
      have shown : isSpace character = false := by
        simp only [isSpace, Bool.or_eq_false_iff, decide_eq_false_iff_not]
        refine ⟨⟨⟨other ?_, other ?_⟩, other ?_⟩, other ?_⟩ <;> decide
      exact standsFor_of_readScalar (opens_cons shown (other (by decide)) rest)
        (fun _ inside => isNumeral_ascii (numerals _ inside))
        ⟨_, _, rfl, other (by decide), other (by decide), other (by decide)⟩ read

/-! ## Strings -/

theorem opens_writeString (text : String) : Opens (writeString text) :=
  opens_cons (by decide) (by decide) _

theorem writesBack_text {content : String} (scalar : Text.IsScalar content) :
    WritesBack depth (.text content) := by
  intro level text written
  unfold write at written
  cases written
  refine ⟨opens_writeString content, ascii_writeString content, fun fuel rest fueled _ => ?_⟩
  rcases readString?_writeString scalar rest with ⟨body, text, read⟩
  cases fuel with
  | zero => cases fueled
  | succ fuel =>
      rw [text, List.cons_append]
      simp only [readValue, read]

/-! ## The characters of documents -/

theorem writeItems_cons {level : Nat} {item : Value} {rest : List Value} {inner : List Char}
    (written : writeItems level (item :: rest) = .ok inner) :
    ∃ text following, write level item = .ok text ∧ writeItems level rest = .ok following ∧
      inner = lineStart level ++ (text ++ ((if rest.isEmpty then [] else [',']) ++ following)) := by
  unfold writeItems at written
  rcases (bind_eq_ok_iff _ _ _).mp written with ⟨text, own, written⟩
  rcases (bind_eq_ok_iff _ _ _).mp written with ⟨following, others, equal⟩
  cases equal
  exact ⟨text, following, own, others, by simp only [List.append_assoc]⟩

theorem writeMembers_cons {level : Nat} {name : String} {item : Value} {rest : Members}
    {inner : List Char} (written : writeMembers level ((name, item) :: rest) = .ok inner) :
    ∃ text following, write level item = .ok text ∧ writeMembers level rest = .ok following ∧
      inner = lineStart level ++ (writeString name ++ (':' :: ' ' ::
        (text ++ ((if rest.isEmpty then [] else [',']) ++ following)))) := by
  unfold writeMembers at written
  rcases (bind_eq_ok_iff _ _ _).mp written with ⟨text, own, written⟩
  rcases (bind_eq_ok_iff _ _ _).mp written with ⟨following, others, equal⟩
  cases equal
  exact ⟨text, following, own, others, by simp only [List.append_assoc, List.cons_append]⟩

/-- Numbers that are not finite are written as words. -/
theorem ascii_writeNumber {number : Number} {text : List Char}
    (written : writeNumber number = .ok text) : Ascii text := by
  have finite : number.isFinite = true → Ascii text := fun finite _ inside =>
    isNumeral_ascii (isNumeralText_writeNumber finite written _ inside)
  cases number with
  | whole value => exact finite rfl
  | real value =>
      cases value with
      | finite negative magnitude => exact finite rfl
      | infinite negative =>
          cases written
          cases negative <;> decide
      | nan =>
          cases written
          decide

theorem ascii_enclosed {opening closing : Char} (level : Nat) {inner : List Char}
    (ascii : Ascii inner) (left : opening.toNat < 0x80) (right : closing.toNat < 0x80) :
    Ascii (opening :: inner ++ lineStart level ++ [closing]) :=
  (((ascii.cons left).append (ascii_lineStart level)).append (.cons right (List.forall_mem_nil _)))

theorem ascii_comma (rest : List α) : Ascii (if rest.isEmpty then [] else [',']) := by
  split <;> decide

mutual

/-- All that is written for a value is ASCII. -/
theorem ascii_write {level : Nat} {value : Value} {text : List Char}
    (written : write level value = .ok text) : Ascii text := by
  unfold write at written
  cases value with
  | null =>
      cases written
      decide
  | bool value =>
      cases written
      cases value <;> decide
  | number value => exact ascii_writeNumber written
  | text content =>
      cases written
      exact ascii_writeString content
  | list items | tuple items =>
      dsimp only at written
      split at written
      · cases written
        decide
      · rcases (bind_eq_ok_iff _ _ _).mp written with ⟨inner, itemsWritten, equal⟩
        cases equal
        exact ascii_enclosed level (ascii_writeItems itemsWritten) (by decide) (by decide)
  | map members =>
      dsimp only at written
      split at written
      · cases written
        decide
      · rcases (bind_eq_ok_iff _ _ _).mp written with ⟨inner, membersWritten, equal⟩
        cases equal
        exact ascii_enclosed level (ascii_writeMembers membersWritten) (by decide) (by decide)
  | bytes _ | set _ | array _ _ _ => cases written

theorem ascii_writeItems {level : Nat} {items : List Value} {inner : List Char}
    (written : writeItems level items = .ok inner) : Ascii inner := by
  cases items with
  | nil =>
      cases written
      exact List.forall_mem_nil _
  | cons item others =>
      rcases writeItems_cons written with ⟨text, following, own, more, rfl⟩
      exact (ascii_lineStart level).append ((ascii_write own).append
        ((ascii_comma others).append (ascii_writeItems more)))

theorem ascii_writeMembers {level : Nat} {members : Members} {inner : List Char}
    (written : writeMembers level members = .ok inner) : Ascii inner := by
  cases members with
  | nil =>
      cases written
      exact List.forall_mem_nil _
  | cons member others =>
      rcases member with ⟨name, item⟩
      rcases writeMembers_cons written with ⟨text, following, own, more, rfl⟩
      exact (ascii_lineStart level).append ((ascii_writeString name).append
        (.cons (by decide) (.cons (by decide) ((ascii_write own).append
          ((ascii_comma others).append (ascii_writeMembers more))))))

end

/-! ## Lists -/

theorem skipSpaces_mark {mark : Char} (shown : isSpace mark = false) (rest : List Char) :
    skipSpaces (mark :: rest) = mark :: rest := by
  unfold skipSpaces
  rw [List.dropWhile_cons_of_neg (by simp [shown])]

/-- The text behind the items of a list or the members of a map. -/
theorem skipSpaces_closing (level : Nat) {mark : Char} (shown : isSpace mark = false)
    (rest : List Char) : skipSpaces (lineStart level ++ mark :: rest) = mark :: rest := by
  rw [skipSpaces_lineStart, skipSpaces_mark shown]

theorem ends_lineStart (level : Nat) (rest : List Char) : Ends (lineStart level ++ rest) :=
  ends_line _

theorem readItems_last {fuel : Nat} {characters rest following : List Char} {item : Value}
    (read : readValue depth fuel characters = .ok (item, rest))
    (closed : skipSpaces rest = ']' :: following) :
    readItems depth (fuel + 1) characters = .ok ([item], following) := by
  unfold readItems
  rw [read, ok_bind]
  dsimp only
  rw [closed]
  rfl

theorem readItems_more {fuel : Nat} {characters rest more following : List Char} {item : Value}
    {items : List Value} (read : readValue depth fuel characters = .ok (item, rest))
    (comma : skipSpaces rest = ',' :: more)
    (others : readItems depth fuel (skipSpaces more) = .ok (items, following)) :
    readItems depth (fuel + 1) characters = .ok (item :: items, following) := by
  unfold readItems
  rw [read, ok_bind]
  dsimp only
  rw [comma]
  change (readItems depth fuel (skipSpaces more) >>= _) = _
  rw [others]
  rfl

/-- The items of a list are read one after the other up to the bracket behind them. -/
theorem readItems_writeItems {level closing : Nat} {items : List Value} {inner : List Char}
    (back : ∀ item ∈ items, WritesBack depth item)
    (written : writeItems level items = .ok inner) (nonempty : items ≠ []) {fuel : Nat}
    (fueled : inner.length < fuel) (rest : List Char) :
    Opens (skipSpaces (inner ++ (lineStart closing ++ ']' :: rest))) ∧
      readItems depth fuel (skipSpaces (inner ++ (lineStart closing ++ ']' :: rest))) =
        .ok (items, rest) := by
  induction items generalizing inner fuel with
  | nil => exact absurd rfl nonempty
  | cons item others induction =>
      rcases writeItems_cons written with ⟨text, following, own, more, rfl⟩
      have stands := back item List.mem_cons_self level text own
      simp only [List.length_append, length_lineStart] at fueled
      rw [List.append_assoc, skipSpaces_lineStart, List.append_assoc,
        (stands.opens.append _).skipSpaces_eq]
      refine ⟨stands.opens.append _, ?_⟩
      rcases Nat.exists_eq_succ_of_ne_zero (Nat.ne_zero_of_lt fueled) with ⟨fuel, rfl⟩
      cases others with
      | nil =>
          cases more
          exact readItems_last (stands.reads fuel _ (by omega) (ends_lineStart _ _))
            (skipSpaces_closing closing (by decide) rest)
      | cons next others =>
          rw [List.isEmpty_cons, if_neg Bool.false_ne_true, List.length_singleton] at fueled
          rw [List.isEmpty_cons, if_neg Bool.false_ne_true, List.append_assoc,
            List.singleton_append]
          rcases induction (List.forall_mem_cons.mp back).2 more (List.cons_ne_nil _ _)
            (show following.length < fuel by omega) with ⟨_, later⟩
          exact readItems_more (stands.reads fuel _ (by omega) (ends_comma _))
            (skipSpaces_mark (by decide) _) later

theorem readValue_list {fuel : Nat} {characters rest : List Char} {items : List Value}
    (opens : Opens (skipSpaces characters))
    (read : readItems depth fuel (skipSpaces characters) = .ok (items, rest)) :
    readValue (depth + 1) (fuel + 1) ('[' :: characters) = .ok (.list items, rest) := by
  rcases opens with ⟨first, more, body, _, open_⟩
  rw [body] at read
  simp only [readValue, body]
  split
  · next impossible => cases impossible
  · next closed => exact absurd (List.cons.inj closed).1 open_
  · next same _ =>
      cases same
      rw [read]
      rfl

theorem writesBack_list {items : List Value} (back : ∀ item ∈ items, WritesBack depth item) :
    WritesBack (depth + 1) (.list items) := by
  intro level text written
  have ascii := ascii_write written
  unfold write at written
  by_cases nonempty : items = []
  · cases nonempty
    cases written
    refine ⟨opens_cons (by decide) (by decide) _, ascii, fun fuel rest fueled _ => ?_⟩
    rcases Nat.exists_eq_succ_of_ne_zero (Nat.ne_zero_of_lt fueled) with ⟨fuel, rfl⟩
    rfl
  · have filled : items.isEmpty = false := by simpa using nonempty
    rw [filled] at written
    rcases (bind_eq_ok_iff _ _ _).mp written with ⟨inner, itemsWritten, equal⟩
    cases equal
    refine ⟨opens_cons (by decide) (by decide) _, ascii, fun fuel rest fueled _ => ?_⟩
    rcases Nat.exists_eq_succ_of_ne_zero (Nat.ne_zero_of_lt fueled) with ⟨fuel, rfl⟩
    simp only [List.length_append, List.length_cons] at fueled
    rcases readItems_writeItems back itemsWritten nonempty
      (show inner.length < fuel by omega) rest with ⟨opens, read⟩
    simp only [List.append_assoc, List.cons_append, List.nil_append]
    exact readValue_list opens read

/-! ## Maps -/

section

variable {fuel : Nat} {named afterName body rest more following : List Char} {name : String}
  {item : Value} {members : Members}

theorem readMembers_last (string : readString? named = some (name, afterName))
    (colon : skipSpaces afterName = ':' :: body)
    (read : readValue depth fuel (skipSpaces body) = .ok (item, rest))
    (closed : skipSpaces rest = '\x7d' :: following) :
    readMembers depth (fuel + 1) ('"' :: named) = .ok ([(name, item)], following) := by
  simp only [readMembers, string, colon]
  rw [read, ok_bind]
  dsimp only
  rw [closed]
  rfl

theorem readMembers_more (string : readString? named = some (name, afterName))
    (colon : skipSpaces afterName = ':' :: body)
    (read : readValue depth fuel (skipSpaces body) = .ok (item, rest))
    (comma : skipSpaces rest = ',' :: more)
    (others : readMembers depth fuel (skipSpaces more) = .ok (members, following)) :
    readMembers depth (fuel + 1) ('"' :: named) = .ok ((name, item) :: members, following) := by
  simp only [readMembers, string, colon]
  rw [read, ok_bind]
  dsimp only
  rw [comma]
  change (readMembers depth fuel (skipSpaces more) >>= _) = _
  rw [others]
  rfl

end

/-- The members of a map are read one after the other up to the brace behind them. -/
theorem readMembers_writeMembers {level closing : Nat} {members : Members} {inner : List Char}
    (back : ∀ member ∈ members, Text.IsScalar member.1 ∧ WritesBack depth member.2)
    (written : writeMembers level members = .ok inner) (nonempty : members ≠ []) {fuel : Nat}
    (fueled : inner.length < fuel) (rest : List Char) :
    ∃ body, skipSpaces (inner ++ (lineStart closing ++ '\x7d' :: rest)) = '"' :: body ∧
      readMembers depth fuel ('"' :: body) = .ok (members, rest) := by
  induction members generalizing inner fuel with
  | nil => exact absurd rfl nonempty
  | cons member others induction =>
      rcases member with ⟨name, item⟩
      rcases writeMembers_cons written with ⟨text, following, own, more, rfl⟩
      rcases back (name, item) List.mem_cons_self with ⟨scalar, stands⟩
      have stands := stands level text own
      simp only [List.length_append, List.length_cons, length_lineStart] at fueled
      rcases Nat.exists_eq_succ_of_ne_zero (Nat.ne_zero_of_lt fueled) with ⟨fuel, rfl⟩
      rw [List.append_assoc, skipSpaces_lineStart, List.append_assoc,
        ((opens_writeString name).append _).skipSpaces_eq]
      simp only [List.cons_append, List.append_assoc]
      have body (rest : List Char) : skipSpaces (' ' :: (text ++ rest)) = text ++ rest :=
        (stands.opens.append rest).skipSpaces_eq
      rcases readString?_writeString scalar (':' :: ' ' :: (text ++
        ((if others.isEmpty then [] else [',']) ++ (following ++
          (lineStart closing ++ '\x7d' :: rest))))) with ⟨quoted, string, read⟩
      rw [string]
      refine ⟨_, rfl, ?_⟩
      cases others with
      | nil =>
          cases more
          refine readMembers_last read (skipSpaces_mark (by decide) _) ?_
            (skipSpaces_closing closing (by decide) rest)
          rw [body]
          exact stands.reads fuel _ (by omega) (ends_lineStart _ _)
      | cons next others =>
          rw [List.isEmpty_cons, if_neg Bool.false_ne_true, List.length_singleton] at fueled
          rcases induction (List.forall_mem_cons.mp back).2 more (List.cons_ne_nil _ _)
            (show following.length < fuel by omega) with ⟨later, skipped, others⟩
          refine readMembers_more read (skipSpaces_mark (by decide) _) ?_
            (skipSpaces_mark (by decide) _) (skipped ▸ others)
          rw [body]
          exact stands.reads fuel _ (by omega) (ends_comma _)

theorem readValue_map {fuel : Nat} {characters body rest : List Char} {members : Members}
    (once : members.names.Nodup) (skipped : skipSpaces characters = '"' :: body)
    (read : readMembers depth fuel ('"' :: body) = .ok (members, rest)) :
    readValue (depth + 1) (fuel + 1) ('\x7b' :: characters) = .ok (.map members, rest) := by
  simp only [readValue, skipped]
  change (readMembers depth fuel ('"' :: body) >>= _) = _
  rw [read, ok_bind]
  change Except.ok (Value.map (Members.ofPairs members), rest) = _
  rw [Members.ofPairs_of_nodup once]

theorem writesBack_map {members : Members} (once : members.names.Nodup)
    (back : ∀ member ∈ members, Text.IsScalar member.1 ∧ WritesBack depth member.2) :
    WritesBack (depth + 1) (.map members) := by
  intro level text written
  have ascii := ascii_write written
  unfold write at written
  by_cases nonempty : members = []
  · cases nonempty
    cases written
    refine ⟨opens_cons (by decide) (by decide) _, ascii, fun fuel rest fueled _ => ?_⟩
    rcases Nat.exists_eq_succ_of_ne_zero (Nat.ne_zero_of_lt fueled) with ⟨fuel, rfl⟩
    rfl
  · have filled : members.isEmpty = false := by simpa using nonempty
    rw [filled] at written
    rcases (bind_eq_ok_iff _ _ _).mp written with ⟨inner, membersWritten, equal⟩
    cases equal
    refine ⟨opens_cons (by decide) (by decide) _, ascii, fun fuel rest fueled _ => ?_⟩
    rcases Nat.exists_eq_succ_of_ne_zero (Nat.ne_zero_of_lt fueled) with ⟨fuel, rfl⟩
    simp only [List.length_append, List.length_cons] at fueled
    rcases readMembers_writeMembers back membersWritten nonempty
      (show inner.length < fuel by omega) rest with ⟨body, skipped, read⟩
    simp only [List.append_assoc, List.cons_append, List.nil_append]
    exact readValue_map once skipped read

/-! ## Documents -/

/-- What is written for a value of finite numbers and texts of characters stands for it. -/
theorem writesBack_of_isJson {value : Value} (json : value.IsJson depth)
    (finite : value.OnlyFinite) (scalar : value.OnlyScalar) : WritesBack depth value := by
  induction json with
  | null => exact writesBack_null
  | bool value => exact writesBack_bool value
  | number value => exact writesBack_number ((Value.onlyFinite_number value).mp finite)
  | text content => exact writesBack_text ((Value.onlyScalar_text content).mp scalar)
  | list _ induction =>
      rw [Value.onlyFinite_list] at finite
      rw [Value.onlyScalar_list] at scalar
      exact writesBack_list fun item inside =>
        induction item inside (finite item inside) (scalar item inside)
  | map once _ induction =>
      rw [Value.onlyFinite_map] at finite
      rw [Value.onlyScalar_map] at scalar
      exact writesBack_map once fun member inside => ⟨(scalar member inside).1,
        induction member inside (finite member inside) (scalar member inside).2⟩

/-! ## Documents that are written -/

/-- Whether something is written under a condition, and refused for its digits otherwise. -/
structure WrittenIf (outcome : Except Failure α) (short : Prop) : Prop where
  written : short → ∃ text, outcome = .ok text
  refused : ¬ short → outcome = .error .unusableValue

theorem WrittenIf.ok (text : α) {short : Prop} (always : short) :
    WrittenIf (.ok text : Except Failure α) short :=
  ⟨fun _ => ⟨text, rfl⟩, fun no => absurd always no⟩

/-- Two steps that are taken under conditions of their own. -/
theorem WrittenIf.bind {first : Except Failure α} {next : α → Except Failure β}
    {left right : Prop} (start : WrittenIf first left)
    (rest : ∀ text, WrittenIf (next text) right) :
    WrittenIf (first >>= next) (left ∧ right) := by
  refine ⟨fun both => ?_, fun fails => ?_⟩
  · rcases start.written both.1 with ⟨text, written⟩
    rw [written]
    exact (rest text).written both.2
  · by_cases here : left
    · rcases start.written here with ⟨text, written⟩
      rw [written]
      exact (rest text).refused fun there => fails ⟨here, there⟩
    · rw [start.refused here]
      rfl

theorem WrittenIf.map {first : Except Failure α} {short : Prop} (start : WrittenIf first short)
    (next : α → β) : WrittenIf (first >>= fun text => .ok (next text)) short :=
  and_true short ▸ start.bind fun text => .ok (next text) trivial

theorem writeNumber_writtenIf (number : Number) :
    WrittenIf (writeNumber number) number.IsShort := by
  cases number with
  | whole value =>
      unfold writeNumber Number.IsShort
      dsimp only
      split
      · next long => exact ⟨fun short => absurd long (Nat.not_lt.mpr short), fun _ => rfl⟩
      · next short => exact .ok _ (Nat.not_lt.mp short)
  | real value => cases value <;> exact .ok _ trivial

theorem writeItems_writtenIf {items : List Value}
    (each : ∀ item ∈ items, ∀ level, WrittenIf (write level item) item.OnlyShort) (level : Nat) :
    WrittenIf (writeItems level items) (∀ item ∈ items, item.OnlyShort) := by
  induction items with
  | nil => exact .ok [] (List.forall_mem_nil _)
  | cons item rest induction =>
      rcases List.forall_mem_cons.mp each with ⟨own, others⟩
      unfold writeItems
      rw [List.forall_mem_cons]
      exact (own level).bind fun _ => (induction others).map _

theorem writeMembers_writtenIf {members : Members}
    (each : ∀ member ∈ members, ∀ level, WrittenIf (write level member.2) member.2.OnlyShort)
    (level : Nat) :
    WrittenIf (writeMembers level members) (∀ member ∈ members, member.2.OnlyShort) := by
  induction members with
  | nil => exact .ok [] (List.forall_mem_nil _)
  | cons member rest induction =>
      rcases List.forall_mem_cons.mp each with ⟨own, others⟩
      unfold writeMembers
      rw [List.forall_mem_cons]
      exact (own level).bind fun _ => (induction others).map _

/-- A document is written unless one of its numbers has too many digits. -/
theorem write_writtenIf {value : Value} (json : value.IsJson depth) (level : Nat) :
    WrittenIf (write level value) value.OnlyShort := by
  induction json generalizing level with
  | null => exact .ok _ (List.forall_mem_nil _)
  | bool value => exact .ok _ (List.forall_mem_nil _)
  | number value =>
      rw [Value.onlyShort_number]
      exact writeNumber_writtenIf value
  | text content => exact .ok _ (List.forall_mem_nil _)
  | @list _ items _ induction =>
      rw [Value.onlyShort_list]
      cases items with
      | nil => exact .ok _ (List.forall_mem_nil _)
      | cons item rest => exact (writeItems_writtenIf induction _).map _
  | @map _ members once _ induction =>
      rw [Value.onlyShort_map]
      cases members with
      | nil => exact .ok _ (List.forall_mem_nil _)
      | cons member rest => exact (writeMembers_writtenIf induction _).map _

/-- The text of a document and the end of its line. -/
theorem toText_line {value : Value} {text : String} (written : toText value = .ok text) :
    ∃ characters, write 0 value = .ok characters ∧ (text ++ "\n").toList = characters ++ ['\n'] := by
  rcases (bind_eq_ok_iff _ _ _).mp written with ⟨characters, own, equal⟩
  cases equal
  refine ⟨characters, own, ?_⟩
  rw [String.toList_append, String.toList_ofList]
  rfl

/-- The text of a document is ASCII. -/
theorem ascii_toText {value : Value} {text : String} (written : toText value = .ok text) :
    Ascii (text ++ "\n").toList := by
  rcases toText_line written with ⟨characters, own, line⟩
  exact line ▸ (ascii_write own).append (by decide)

/-- With the end of its line the text of a document is read as the document. -/
theorem read_toText {value : Value} (json : value.IsJson nestingLimit) (finite : value.OnlyFinite)
    (scalar : value.OnlyScalar) {text : String} (written : toText value = .ok text) :
    read (text ++ "\n") = .ok value := by
  rcases toText_line written with ⟨characters, own, line⟩
  have stands := writesBack_of_isJson json finite scalar 0 characters own
  unfold read
  rw [line]
  dsimp only
  have fueled : characters.length < (characters ++ ['\n']).length + 1 := by
    rw [List.length_append]
    omega
  rw [(stands.opens.append _).skipSpaces_eq, stands.reads _ _ fueled (ends_line _)]
  rfl

end ChartCompiler.Json
