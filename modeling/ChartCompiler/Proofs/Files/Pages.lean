import ChartCompiler.Proofs.Files.Paths

/-!
# Names and titles on pages

The name of a chart and the title of its page stand where the page has places for them, and are read
from there. Neither of them brings a character that delimits markup or a text in it.
-/

namespace ChartCompiler

namespace Text

/-! ## Texts between marks -/

/-- What stands behind the first place of a mark. -/
def after? (mark : List Char) : List Char → Option (List Char)
  | [] => none
  | first :: rest =>
      if mark.isPrefixOf (first :: rest) then some ((first :: rest).drop mark.length)
      else after? mark rest

/-- What stands in front of the first place of a mark. -/
def before? (mark : List Char) : List Char → Option (List Char)
  | [] => none
  | first :: rest =>
      if mark.isPrefixOf (first :: rest) then some []
      else (before? mark rest).map (first :: ·)

/-- The text between the first place of a mark and the next place of another one. -/
def between? (opening closing text : String) : Option String := do
  let behind ← after? opening.toList text.toList
  let inside ← before? closing.toList behind
  return String.ofList inside

/-- No place of a mark starts in the front of a text. -/
inductive Passes (mark : List Char) : List Char → List Char → Prop where
  | nil (rest : List Char) : Passes mark [] rest
  | cons {first : Char} {more rest : List Char} :
      ¬ mark <+: first :: (more ++ rest) → Passes mark more rest → Passes mark (first :: more) rest

variable {mark front rest : List Char}

theorem Passes.append {middle : List Char} (first : Passes mark front (middle ++ rest))
    (second : Passes mark middle rest) : Passes mark (front ++ middle) rest := by
  induction front with
  | nil => exact second
  | cons character more induction =>
      cases first with
      | cons absent others =>
          rw [← List.append_assoc] at absent
          exact .cons absent (induction others)

theorem after?_append (passes : Passes mark front rest) :
    after? mark (front ++ rest) = after? mark rest := by
  induction passes with
  | nil rest => rfl
  | cons absent _ induction =>
      rw [List.cons_append, after?, if_neg (mt List.isPrefixOf_iff_prefix.mp absent), induction]

theorem before?_append (passes : Passes mark front rest) :
    before? mark (front ++ rest) = (before? mark rest).map (front ++ ·) := by
  induction passes with
  | nil rest => simp
  | cons absent _ induction =>
      rw [List.cons_append, before?, if_neg (mt List.isPrefixOf_iff_prefix.mp absent), induction,
        Option.map_map]
      rfl

theorem after?_mark (filled : mark ≠ []) (rest : List Char) :
    after? mark (mark ++ rest) = some rest := by
  have here : mark.isPrefixOf (mark ++ rest) = true :=
    List.isPrefixOf_iff_prefix.mpr (List.prefix_append mark rest)
  have behind : (mark ++ rest).drop mark.length = rest := List.drop_left
  cases mark with
  | nil => exact absurd rfl filled
  | cons first more =>
      rw [List.cons_append] at here behind ⊢
      rw [after?, if_pos here, behind]

theorem before?_mark (filled : mark ≠ []) (rest : List Char) :
    before? mark (mark ++ rest) = some [] := by
  have here : mark.isPrefixOf (mark ++ rest) = true :=
    List.isPrefixOf_iff_prefix.mpr (List.prefix_append mark rest)
  cases mark with
  | nil => exact absurd rfl filled
  | cons first more =>
      rw [List.cons_append] at here ⊢
      rw [before?, if_pos here]

/-- A text stands between two marks if what is in front of each of them passes it. -/
theorem between?_eq {opening closing text : String} {word : List Char}
    (split : text.toList = front ++ (opening.toList ++ (word ++ (closing.toList ++ rest))))
    (opens : opening.toList ≠ []) (closes : closing.toList ≠ [])
    (first : Passes opening.toList front (opening.toList ++ (word ++ (closing.toList ++ rest))))
    (second : Passes closing.toList word (closing.toList ++ rest)) :
    between? opening closing text = some (String.ofList word) := by
  have behind : after? opening.toList text.toList = some (word ++ (closing.toList ++ rest)) := by
    rw [split, after?_append first, after?_mark opens]
  have inside : before? closing.toList (word ++ (closing.toList ++ rest)) = some word := by
    rw [before?_append second, before?_mark closes, Option.map_some, List.append_nil]
  rw [between?, behind]
  simp [inside]

/-- Whether no place of a mark starts in a text, whatever follows on it. -/
def isClear (mark : List Char) : List Char → Bool
  | [] => true
  | first :: more =>
      !(first :: more).isPrefixOf mark && !mark.isPrefixOf (first :: more) && isClear mark more

theorem passes_of_isClear (clear : isClear mark front = true) (rest : List Char) :
    Passes mark front rest := by
  induction front with
  | nil => exact .nil rest
  | cons first more induction =>
      simp only [isClear, Bool.and_eq_true, Bool.not_eq_true', Bool.eq_false_iff, ne_eq,
        List.isPrefixOf_iff_prefix] at clear
      constructor
      · intro place
        have start : first :: more <+: first :: (more ++ rest) :=
          List.prefix_append (first :: more) rest
        rcases List.prefix_or_prefix_of_prefix place start with inside | across
        · exact clear.1.2 inside
        · exact clear.1.1 across
      · exact induction clear.2

/-- A text passes a mark with a character that is not in it, if it is followed by one that the mark
does not have behind its first character. -/
theorem passes_of_notMem {foreign next : Char} (needed : foreign ∈ mark) (absent : foreign ∉ front)
    (stop : next ∉ mark.tail) (rest : List Char) : Passes mark front (next :: rest) := by
  induction front with
  | nil => exact .nil _
  | cons first more induction =>
      constructor
      · intro place
        have start : first :: more <+: first :: (more ++ next :: rest) :=
          List.prefix_append (first :: more) (next :: rest)
        -- A mark at this place ends in the text, which lacks a character of it, or goes on over the
        -- next character.
        rcases List.prefix_or_prefix_of_prefix place start with inside | ⟨across, rfl⟩
        · exact absent (inside.mem needed)
        · cases across with
          | nil =>
              rw [List.append_nil] at needed
              exact absent needed
          | cons character others =>
              have same : character = next ∧ others <+: rest := by simpa using place
              apply stop
              simp [same.1]
      · exact induction (fun inside => absent (List.mem_cons_of_mem _ inside))

end Text

namespace Page

open Text

/-! ## Delimiters -/

/-- The characters that delimit markup and the texts in it. -/
def delimiters : List Char := ['<', '>', '"', '\'']

/-- Whether a text has no delimiters. -/
def Undelimited (characters : List Char) : Prop := ∀ mark ∈ delimiters, mark ∉ characters

theorem undelimited_name {name : String} (bare : isBareName name = true) :
    Undelimited name.toList := by
  have others : ∀ mark ∈ delimiters, isNameCharacter mark = false :=
    List.all_iff_forall_prop.mp (by decide)
  intro mark delimiter
  exact notMem_of_isBareName bare (others mark delimiter)

/-- A character of a title is escaped unless it may stand for itself. -/
theorem escapedCharacter_cases (character : Char) :
    (character ∈ '&' :: delimiters) ∨
      character ∉ '&' :: delimiters ∧ escapedCharacter character = [character] := by
  by_cases special : character ∈ '&' :: delimiters
  · exact .inl special
  · apply Or.inr
    apply And.intro special
    simp only [delimiters, List.mem_cons, List.not_mem_nil, or_false, not_or] at special
    simp [escapedCharacter, special]

theorem undelimited_escapedCharacter (character : Char) :
    Undelimited (escapedCharacter character) := by
  rcases escapedCharacter_cases character with special | ⟨plain, itself⟩
  · have harmless : ('&' :: delimiters).all fun special =>
        (escapedCharacter special).all fun letter => !delimiters.contains letter := by decide
    intro mark delimiter inside
    have other := List.all_eq_true.mp (List.all_eq_true.mp harmless character special) mark inside
    simp [delimiter] at other
  · intro mark delimiter inside
    rw [itself, List.mem_singleton] at inside
    exact plain (inside ▸ List.mem_cons_of_mem _ delimiter)

theorem undelimited_escaped (title : String) : Undelimited (escaped title).toList := by
  intro mark delimiter inside
  rw [escaped, String.toList_ofList, List.mem_flatMap] at inside
  rcases inside with ⟨character, _, inside⟩
  exact undelimited_escapedCharacter character mark delimiter inside

/-- The characters of a text in which the five entities stand for characters. -/
def unescaped : List Char → List Char
  | '&' :: 'a' :: 'm' :: 'p' :: ';' :: rest => '&' :: unescaped rest
  | '&' :: 'l' :: 't' :: ';' :: rest => '<' :: unescaped rest
  | '&' :: 'g' :: 't' :: ';' :: rest => '>' :: unescaped rest
  | '&' :: 'q' :: 'u' :: 'o' :: 't' :: ';' :: rest => '"' :: unescaped rest
  | '&' :: '#' :: 'x' :: '2' :: '7' :: ';' :: rest => '\'' :: unescaped rest
  | first :: rest => first :: unescaped rest
  | [] => []

theorem unescaped_cons {first : Char} (plain : first ≠ '&') (rest : List Char) :
    unescaped (first :: rest) = first :: unescaped rest := by
  rw [unescaped]
  all_goals
    intro _ same
    exact absurd same plain

/-- An escaped character is read as the character. -/
theorem unescaped_escapedCharacter (character : Char) (rest : List Char) :
    unescaped (escapedCharacter character ++ rest) = character :: unescaped rest := by
  rcases escapedCharacter_cases character with special | ⟨plain, itself⟩
  · simp only [delimiters, List.mem_cons, List.not_mem_nil, or_false] at special
    rcases special with rfl | rfl | rfl | rfl | rfl <;> rfl
  · rw [itself]
    exact unescaped_cons (fun same => plain (same ▸ List.mem_cons_self)) rest

/-- An escaped title is read as the title. -/
theorem unescaped_escaped (title : String) :
    String.ofList (unescaped (escaped title).toList) = title := by
  have read (characters : List Char) :
      unescaped (characters.flatMap escapedCharacter) = characters := by
    induction characters with
    | nil => rfl
    | cons first rest induction =>
        rw [List.flatMap_cons, unescaped_escapedCharacter, induction]
  rw [escaped, String.toList_ofList, read, String.ofList_toList]

/-! ## Places on a page -/

/-- A page has the delimiters of its fixed parts. -/
theorem count_render {name : String} (named : Undelimited name.toList) (title : String) {mark : Char}
    (delimiter : mark ∈ delimiters) :
    (render name title).toList.count mark = (render "" "").toList.count mark := by
  simp only [toList_render, List.count_flatMap]
  apply congrArg List.sum
  apply List.map_congr_left
  intro part _
  cases part with
  | fixed text => rfl
  | name => exact List.count_eq_zero.mpr (named mark delimiter)
  | title =>
      have none (title : String) : (escaped title).toList.count mark = 0 :=
        List.count_eq_zero.mpr (undelimited_escaped title mark delimiter)
      simp only [Function.comp_apply, Part.render, none]

/-- Whether parts of a page start with a character that a mark does not go on with. -/
def stops (mark : List Char) : List Part → Bool
  | .fixed text :: _ => text.toList.head?.any fun next => !mark.tail.contains next
  | _ => false

/-- Whether no place of a mark starts in some parts of a page, whatever the name and the title
are. -/
def isClearOf (mark : List Char) : List Part → Bool
  | [] => true
  | .fixed text :: rest => isClear mark text.toList && isClearOf mark rest
  | .name :: rest | .title :: rest => stops mark rest && isClearOf mark rest

variable {name title : String} {mark : List Char} {delimiter : Char}

/-- The characters of parts of a page. -/
def spell (name title : String) (parts : List Part) : List Char :=
  parts.flatMap fun part => (part.render name title).toList

theorem exists_of_stops {rest : List Part} (stopped : stops mark rest = true)
    (name title : String) :
    ∃ next others, spell name title rest = next :: others ∧ next ∉ mark.tail := by
  cases rest with
  | nil => cases stopped
  | cons part others =>
      cases part with
      | name | title => cases stopped
      | fixed text =>
          simp only [stops] at stopped
          cases spelled : text.toList with
          | nil =>
              rw [spelled] at stopped
              cases stopped
          | cons next letters =>
              rw [spelled] at stopped
              exists next, letters ++ spell name title others
              constructor
              · rw [spell, List.flatMap_cons, Part.render, spelled]
                rfl
              · simpa using stopped

/-- What stands at a place of the name or the title passes a mark with a delimiter. -/
theorem passes_part (delimits : delimiter ∈ delimiters) (needed : delimiter ∈ mark)
    {word : List Char} (plain : Undelimited word) {rest : List Part}
    (stopped : stops mark rest = true) (ending : List Char) :
    Passes mark word (spell name title rest ++ ending) := by
  rcases exists_of_stops stopped name title with ⟨next, others, spelled, stop⟩
  rw [spelled, List.cons_append]
  exact passes_of_notMem needed (plain delimiter delimits) stop _

theorem passes_spell (delimits : delimiter ∈ delimiters) (needed : delimiter ∈ mark)
    (named : Undelimited name.toList) {before : List Part} (clear : isClearOf mark before = true)
    (ending : List Char) : Passes mark (spell name title before) ending := by
  induction before with
  | nil => exact .nil ending
  | cons part others induction =>
      rw [spell, List.flatMap_cons]
      cases part with
      | fixed text =>
          rcases Bool.and_eq_true_iff.mp clear with ⟨here, later⟩
          exact (passes_of_isClear here _).append (induction later)
      | name =>
          rcases Bool.and_eq_true_iff.mp clear with ⟨stopped, later⟩
          exact (passes_part delimits needed named stopped _).append (induction later)
      | title =>
          rcases Bool.and_eq_true_iff.mp clear with ⟨stopped, later⟩
          have plain := undelimited_escaped title
          rw [Part.render]
          exact (passes_part delimits needed plain stopped _).append (induction later)

/-- A place for a part of a page, between a mark that is nowhere before it and another one. -/
structure Place (slot : Part) where
  delimiter : Char
  opening : String
  closing : String
  /-- What stands in front of the opening mark in its part. -/
  lead : String
  /-- What stands behind the closing mark in its part. -/
  trail : String
  before : List Part
  behind : List Part
  divided : parts =
    before ++ .fixed (lead ++ opening) :: slot :: .fixed (closing ++ trail) :: behind := by rfl
  delimits : delimiter ∈ delimiters := by decide
  opens : delimiter ∈ opening.toList := by decide
  closes : delimiter ∈ closing.toList := by decide
  clear : isClearOf opening.toList before = true := by decide +kernel
  leads : isClear opening.toList lead.toList = true := by decide
  stopped : stops closing.toList [.fixed closing] = true := by decide

/-- What stands at a place of a page is found between its marks. -/
theorem Place.between?_render {slot : Part} (place : Place slot) (named : Undelimited name.toList)
    (word : Undelimited (slot.render name title).toList) :
    between? place.opening place.closing (render name title) = some (slot.render name title) := by
  rcases place with ⟨delimiter, opening, closing, lead, trail, before, behind, divided, delimits, opens,
    closes, clear, leads, stopped⟩
  have page : (render name title).toList = spell name title before ++ lead.toList ++
      (opening.toList ++ ((slot.render name title).toList ++ (closing.toList ++
        (trail.toList ++ spell name title behind)))) := by
    rw [toList_render, divided]
    simp [spell, Part.render]
  have inside : between? opening closing (render name title) =
      some (String.ofList (slot.render name title).toList) := by
    apply between?_eq page (List.ne_nil_of_mem opens) (List.ne_nil_of_mem closes)
    · exact (passes_spell delimits opens named clear _).append (passes_of_isClear leads _)
    · have passes : Passes closing.toList (slot.render name title).toList
          (spell name title [.fixed closing] ++ (trail.toList ++ spell name title behind)) :=
        passes_part delimits closes word stopped _
      simpa [spell, Part.render] using passes
  rw [inside, String.ofList_toList]

/-- The name of the element that the chart is drawn in. -/
def containerPlace : Place .name where
  delimiter := '"'
  opening := "<div id=\""
  closing := "_chart\"></div>"
  lead := "    "
  trail := "\n"
  before := parts.take 12
  behind := parts.drop 15

/-- The name of the document. -/
def documentPlace : Place .name where
  delimiter := '"'
  opening := "fetch(\""
  closing := ".json\")"
  lead := "        "
  trail := "\n"
  before := parts.take 16
  behind := parts.drop 19

/-- The name that the element is looked up by. -/
def lookupPlace : Place .name where
  delimiter := '"'
  opening := "getElementById(\""
  closing := "_chart\")"
  lead := "                vegaEmbed(document."
  trail := ", spec, \x7b\n"
  before := parts.take 21
  behind := parts.drop 24

def titlePlace : Place .title where
  delimiter := '<'
  opening := "<title>"
  closing := "</title>"
  lead := "    "
  trail := "\n"
  before := parts.take 5
  behind := parts.drop 8

/-- Whether a page shows a name and a title: they stand at the places of the name and, with entities,
of the title, and they add no delimiter to the page. -/
structure Shows (name title page : String) : Prop where
  marks : ∀ mark ∈ delimiters, page.toList.count mark = (render "" "").toList.count mark
  container : between? "<div id=\"" "_chart\"></div>" page = some name
  document : between? "fetch(\"" ".json\")" page = some name
  lookup : between? "getElementById(\"" "_chart\")" page = some name
  title : (between? "<title>" "</title>" page).map (fun text => String.ofList (unescaped text.toList)) =
    some title

theorem shows_render (named : Undelimited name.toList) (title : String) :
    Shows name title (render name title) := by
  constructor
  · intro mark delimiter
    exact count_render named title delimiter
  · exact containerPlace.between?_render named named
  · exact documentPlace.between?_render named named
  · exact lookupPlace.between?_render named named
  · have found : between? "<title>" "</title>" (render name title) = some (escaped title) :=
      titlePlace.between?_render named (undelimited_escaped title)
    rw [found, Option.map_some, unescaped_escaped]

/-- A page shows one name and one title. -/
theorem Shows.unique {otherName otherTitle page : String} (first : Shows name title page)
    (second : Shows otherName otherTitle page) : otherName = name ∧ otherTitle = title := by
  constructor
  · exact Option.some.inj (second.document.symm.trans first.document)
  · exact Option.some.inj (second.title.symm.trans first.title)

theorem ofValues_text {page : String} :
    ofValues (.text name) (.text title) = .ok page ↔
      nameOf (.text name) = .ok name ∧ render name title = page := by
  constructor
  · intro rendered
    rcases (bind_eq_ok_iff _ _ _).mp rendered with ⟨bareName, named, same⟩
    have itself : bareName = name := by
      simp only [nameOf] at named
      split at named
      · exact (Except.ok.inj named).symm
      · cases named
    rw [itself] at named same
    exact ⟨named, Except.ok.inj same⟩
  · rintro ⟨named, rfl⟩
    rw [ofValues, named]
    rfl

end Page

namespace ChartFiles

/-- The name of a chart and the title of its page stay in their places on the page, which tells them
apart from all others, and the name keeps the files of the chart in their directory. -/
theorem name_and_title_kept_in_place {name : String}
    (accepted : Page.nameOf (.text name) = .ok name) :
    (∀ title, ∃ page, Page.ofValues (.text name) (.text title) = .ok page ∧
      Page.Shows name title page ∧
      ∀ otherName otherTitle, Page.ofValues (.text otherName) (.text otherTitle) = .ok page →
        otherName = name ∧ otherTitle = title) ∧
    ∀ document directory before files after,
      FileRun.Returns (write document (.text name) directory) before files after →
        ∃ place, directoryOf directory = .ok place ∧ files.LieIn place name after := by
  constructor
  · intro title
    have shown := Page.shows_render
      (Page.undelimited_name (Page.isBareName_of_nameOf accepted)) title
    exists Page.render name title
    apply And.intro (Page.ofValues_text.mpr ⟨accepted, rfl⟩)
    apply And.intro shown
    intro otherName otherTitle rendered
    rcases Page.ofValues_text.mp rendered with ⟨named, same⟩
    have other := Page.shows_render
      (Page.undelimited_name (Page.isBareName_of_nameOf named)) otherTitle
    exact shown.unique (same ▸ other)
  · intro document directory before files after returned
    exact lieIn_of_returns accepted returned

/-- A chart is written where nothing is, and its title is markup. -/
theorem name_and_title_kept_in_place_markup :
    (∃ page, Page.ofValues (.text "chart") (.text "<b>\"&amp;\"</b>") = .ok page ∧
      Page.Shows "chart" "<b>\"&amp;\"</b>" page) ∧
    ∃ files after,
      FileRun.Returns (write (.map []) (.text "chart") (.text ".")) {} files after ∧
        files.LieIn (.ofText ".") "chart" after := by
  have accepted : Page.nameOf (.text "chart") = .ok "chart" := eq_ok_of_toOption (by decide +kernel)
  have kept := name_and_title_kept_in_place accepted
  have written : Json.toText (.map []) = .ok "\x7b\x7d" := rfl
  rcases kept.1 "<b>\"&amp;\"</b>" with ⟨page, rendered, shown, _⟩
  rcases write_here written rfl with ⟨files, after, returned⟩
  rcases kept.2 _ _ _ _ _ returned with ⟨place, directed, inside⟩
  cases directed
  exact ⟨⟨page, rendered, shown⟩, files, after, returned, inside⟩

end ChartFiles

end ChartCompiler
