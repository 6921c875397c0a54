import ChartCompiler.Proofs.Files.Document

/-!
# Writes that fail

A chart is two files, and the page is made after the document is laid. A write that fails before
leaves all files alone. One that fails at the page leaves the new document, and a page that does not
belong to it: the one that was there, or an empty file.
-/

namespace ChartCompiler

/-! ## Texts with different endings -/

namespace Text

theorem leadingHalves_append_characters (units : List TextUnit) (characters : List Char) :
    leadingHalves (units ++ characters.map .character) = leadingHalves units := by
  induction units with
  | nil => cases characters <;> rfl
  | cons unit rest induction =>
      cases unit with
      | character value => rfl
      | half offset => exact congrArg (offset :: ·) induction

theorem firstHalves?_append_characters (spared : Nat → Bool) (place : Nat) (units : List TextUnit)
    (characters : List Char) :
    firstHalves? spared place (units ++ characters.map .character) =
      firstHalves? spared place units := by
  induction units generalizing place with
  | nil => exact firstHalves?_characters spared place characters
  | cons unit rest induction =>
      cases unit with
      | character value => exact induction (place + 1)
      | half offset =>
          rw [List.cons_append, firstHalves?, firstHalves?, leadingHalves_append_characters,
            induction]

/-- Whatever stands in front, the characters behind a plain one are read as themselves. -/
theorem unitsOf_append_ascii (front : List Char) {mark : Char} {ending : List Char}
    (plain : mark ≠ halfMark) (ascii : Json.Ascii ending) :
    unitsOf (front ++ mark :: ending) = unitsOf (front ++ [mark]) ++ ending.map .character := by
  have alone : unitsOf (mark :: ending) = .character mark :: ending.map .character := by
    cases ending with
    | nil => rfl
    | cons first rest => rw [unitsOf, if_neg plain, unitsOf_ascii ascii]
  fun_induction unitsOf front with
  | case1 => exact alone
  | case2 last =>
      by_cases marked : last = halfMark
      · simp [unitsOf, marked, unitsOf_ascii ascii]
      · simp [unitsOf, marked, alone]
  | case3 second rest induction => simp [unitsOf, induction]
  | case4 first second rest other induction =>
      simp only [List.cons_append] at induction ⊢
      rw [unitsOf, if_neg other, unitsOf, if_neg other, induction, List.cons_append]

theorem firstHalves?_of_encoded {text : String} {bytes : List UInt8}
    (encoded : encodeUtf8OrHalves text = .ok bytes) :
    firstHalves? (fun _ => false) 0 (units text) = none := by
  unfold encodeUtf8OrHalves at encoded
  split at encoded
  · cases encoded
  · next none => exact none

/-- Whether two texts are alike in all that decides whether a path can be followed. -/
structure Alike (left right : String) : Prop where
  halves : ∀ spared, firstHalves? spared 0 (units left) = firstHalves? spared 0 (units right)
  null : left.toList.contains '\x00' = right.toList.contains '\x00'
  bytes : byteLength left = byteLength right

/-- The endings of a document and of its page are of one length. -/
theorem alike_endings (front : String) : Alike (front ++ ".json") (front ++ ".html") := by
  have read {text : String} {rest : List Char} (ending : text.toList = '.' :: rest)
      (ascii : Json.Ascii rest) :
      units (front ++ text) = unitsOf (front.toList ++ ['.']) ++ rest.map .character := by
    unfold units
    rw [String.toList_append, ending]
    exact unitsOf_append_ascii _ (by decide) ascii
  have document : units (front ++ ".json") = _ ++ "json".toList.map _ := read rfl (by decide)
  have page : units (front ++ ".html") = _ ++ "html".toList.map _ := read rfl (by decide)
  refine ⟨fun spared => ?_, ?_, ?_⟩
  · rw [document, page, firstHalves?_append_characters, firstHalves?_append_characters]
  · rw [String.toList_append, String.toList_append, List.contains_append, List.contains_append]
    rfl
  · unfold byteLength
    rw [document, page, List.foldr_append, List.foldr_append]
    rfl

end Text

/-- Paths of entries of one directory have the same text in front of the names. -/
theorem FilePath.toText_child (directory : FilePath) :
    ∃ front, ∀ name, (directory.child name).toText = front ++ name := by
  by_cases top : directory.names = []
  · refine ⟨directory.root, fun name => ?_⟩
    simp [toText, child, top]
  · refine ⟨directory.root ++ ("/".intercalate directory.names ++ "/"), fun name => ?_⟩
    simp [toText, child, String.intercalate_append_of_ne_nil top, String.append_assoc]

namespace FileTree

variable {tree : FileTree} {directory : FilePath} {name sibling : String}

/-- If an entry of a directory can be reached, so can one with a name that is alike. -/
theorem locate_sibling {location : Location}
    (located : tree.locate (directory.child name) = .ok location)
    (alike : ∀ front, Text.Alike (front ++ name) (front ++ sibling)) (inside : name ≠ "..")
    (beside : sibling ≠ "..") : ∃ other, tree.locate (directory.child sibling) = .ok other := by
  rcases directory.toText_child with ⟨front, spelled⟩
  have same := alike front
  rw [← spelled name, ← spelled sibling] at same
  have followable := (locate_eq_ok_iff.mp located).1
  have others : (directory.child sibling).Followable :=
    ⟨same.halves _ ▸ followable.halves, same.null ▸ followable.noNull,
      same.bytes ▸ followable.short⟩
  rcases locate_child located with ⟨here, walked, stepped⟩
  have short : ¬ nameLimit < Text.byteLength sibling := by
    have bytes := (alike "").bytes
    rw [String.empty_append, String.empty_append] at bytes
    intro long
    rw [step, if_neg inside, if_pos (bytes ▸ long)] at stepped
    cases stepped
  refine ⟨here ++ [sibling], locate_eq_ok_iff.mpr ⟨others, here, ?_, ?_⟩⟩
  · unfold FilePath.child
    rw [List.dropLast_concat]
    exact walked
  · unfold FilePath.child
    rw [List.getLast?_concat]
    dsimp only
    rw [step, if_neg beside, if_neg short]

/-- Where a path leads to, only a directory keeps a file from being laid. -/
theorem isDirectory_of_refused {path : FilePath} {location : Location} {content : List UInt8}
    {failure : Failure} (located : tree.locate path = .ok location)
    (refused : tree.write path content = .error failure) : tree.isDirectory path = true := by
  by_cases occupied : tree.entryAt? location = some .directory
  · unfold isDirectory
    rw [located]
    dsimp only
    rw [occupied]
    rfl
  · cases refused.symm.trans (write_eq located occupied)

/-- Whether a file can be laid does not depend on what is in it. -/
theorem write_refused {path : FilePath} {content : List UInt8} {failure : Failure}
    (refused : tree.write path content = .error failure) (other : List UInt8) :
    tree.write path other = .error failure := by
  unfold write at refused ⊢
  cases located : tree.locate path with
  | error refusal =>
      rw [located] at refused
      exact refused
  | ok location =>
      rw [located, ok_bind] at refused
      rw [ok_bind]
      split at refused
      · next there => exact refused
      · cases refused

/-- No file is laid where a directory is. -/
theorem not_isDirectory_of_write {path : FilePath} {content : List UInt8} {written : FileTree}
    (laid : tree.write path content = .ok written) : tree.isDirectory path ≠ true := by
  unfold write at laid
  rcases (bind_eq_ok_iff _ _ _).mp laid with ⟨location, located, laid⟩
  unfold isDirectory
  rw [located]
  dsimp only
  split at laid
  · cases laid
  · next vacant => simpa using vacant

end FileTree

/-! ## Computations over files that fail -/

namespace FileRun

/-- Whether a computation over a file tree ends with a failure and leaves another tree. -/
def Fails (step : FileRun α) (before : FileTree) (failure : Failure) (after : FileTree) : Prop :=
  (step before).1.Fails failure ∧ (step before).2 = after

variable {before after : FileTree} {failure : Failure}

theorem returns_or_fails (step : FileRun α) (before : FileTree) :
    (∃ value after, step.Returns before value after) ∨
      ∃ failure after, step.Fails before failure after := by
  cases ended : (step before).1.outcome with
  | ok value => exact .inl ⟨value, _, ended, rfl⟩
  | error failure => exact .inr ⟨failure, _, ended, rfl⟩

theorem fails_bind_iff {step : FileRun α} {next : α → FileRun β} :
    FileRun.Fails (step >>= next) before failure after ↔ step.Fails before failure after ∨
      ∃ value middle, step.Returns before value middle ∧
        (next value).Fails middle failure after := by
  change FileRun.Fails (FileRun.bind step next) before failure after ↔ _
  unfold FileRun.Fails FileRun.Returns FileRun.bind Run.Fails Run.Returns
  dsimp only
  cases ended : (step before).1.outcome with
  | error failure => simp
  | ok value => simp

theorem fails_settle_bind_iff {outcome : Except Failure α} {next : α → FileRun β} :
    FileRun.Fails (Host.settle outcome >>= next) before failure after ↔
      outcome = .error failure ∧ before = after ∨
        ∃ value, outcome = .ok value ∧ (next value).Fails before failure after := by
  rw [fails_bind_iff]
  refine or_congr Iff.rfl (exists_congr fun value => ⟨?_, fun ⟨given, failed⟩ => ?_⟩)
  · rintro ⟨_, ⟨given, rfl⟩, failed⟩
    exact ⟨given, failed⟩
  · exact ⟨before, ⟨given, rfl⟩, failed⟩

theorem fails_info_bind_iff {source : LogSource} {text : String} {next : Unit → FileRun β} :
    FileRun.Fails (Host.perform (.info source text) >>= next) before failure after ↔
      (next ()).Fails before failure after := by
  refine fails_bind_iff.trans ⟨?_, fun failed => .inr ⟨(), before, ⟨rfl, rfl⟩, failed⟩⟩
  rintro (⟨impossible, _⟩ | ⟨_, _, ⟨_, rfl⟩, failed⟩)
  · cases impossible
  · exact failed

theorem not_fails_pure (value : α) :
    ¬ FileRun.Fails (Pure.pure value) before failure after := fun failed => nomatch failed.1

theorem fails_makeDirectories_iff {path : FilePath} :
    FileRun.Fails (Host.makeDirectories path) before failure after ↔
      before.makeDirectories path = (.error failure, after) := by
  change (before.makeDirectories path).1 = .error failure ∧
    (before.makeDirectories path).2 = after ↔ _
  rw [Prod.ext_iff]

/-- A file cannot be laid, or its text has no bytes and the file is empty. -/
theorem writeFile_fails {path : FilePath} {content : String}
    (failed : FileRun.Fails (Host.writeFile path content) before failure after) :
    (∀ bytes, before.write path bytes = .error failure) ∧ before = after ∨
      ∃ halves, Text.encodeUtf8OrHalves content = .error halves ∧
        before.write path [] = .ok after := by
  change FileRun.Fails (FileRun.writeFile path content) before failure after at failed
  unfold FileRun.Fails FileRun.writeFile at failed
  cases encoded : Text.encodeUtf8OrHalves content with
  | error halves =>
      rw [encoded] at failed
      dsimp only at failed
      cases laid : before.write path [] with
      | error refusal =>
          rw [laid] at failed
          cases failed.1
          exact .inl ⟨FileTree.write_refused laid, failed.2⟩
      | ok written =>
          rw [laid] at failed
          cases failed.2
          exact .inr ⟨halves, rfl, rfl⟩
  | ok bytes =>
      rw [encoded] at failed
      dsimp only at failed
      cases laid : before.write path bytes with
      | error refusal =>
          rw [laid] at failed
          cases failed.1
          exact .inl ⟨FileTree.write_refused laid, failed.2⟩
      | ok written =>
          rw [laid] at failed
          cases failed.1

end FileRun

/-! ## The two files of a chart -/

namespace ChartFiles

open FileRun

variable {before after : FileTree} {document name directory : Value} {failure : Failure}

namespace Laid

instance : Subsingleton (Laid document name directory before) := by
  refine ⟨fun left right => ?_⟩
  rcases left with ⟨_, _, _, _, _, _, _, named, directed, ready, given, written, encoded, laid⟩
  cases named.symm.trans right.named
  cases directed.symm.trans right.directed
  cases ready.symm.trans right.ready
  cases given.symm.trans right.given
  cases written.symm.trans right.written
  cases encoded.symm.trans right.encoded
  cases laid.symm.trans right.laid
  rfl

/-- What keeps the page from being written where the document is laid. -/
inductive PageFault (laid : Laid document name directory before) : Prop where
  /-- The title of the document is no text. -/
  | title {failure : Failure} (untitled : pageTitle laid.members = .error failure)
  /-- The page has no bytes, for there is half a surrogate pair in the title. -/
  | halves {title : String} {halves : Text.Halves} (titled : pageTitle laid.members = .ok title)
      (unwritable : Text.encodeUtf8OrHalves (Page.render laid.bareName title) = .error halves)
  /-- A directory lies where the page goes. -/
  | directory (occupied : laid.stored.isDirectory laid.files.page = true)

/-- Whether a tree holds the new document, and the page that was there or an empty one. -/
structure HalfWritten (laid : Laid document name directory before) (after : FileTree) : Prop where
  document : after.read laid.files.document = .ok laid.bytes
  page : FileTree.Kept [laid.files.document] before after ∨
    after.read laid.files.page = .ok [] ∧
      FileTree.Kept [laid.files.document, laid.files.page] before after

/-- Whether a tree holds the new document and its page. -/
structure BothWritten (laid : Laid document name directory before) (after : FileTree) : Prop where
  document : after.read laid.files.document = .ok laid.bytes
  page : ∃ title shown, pageTitle laid.members = .ok title ∧
    Text.encodeUtf8OrHalves (Page.render laid.bareName title) = .ok shown ∧
      after.read laid.files.page = .ok shown
  kept : FileTree.Kept [laid.files.document, laid.files.page] before after

variable (laid : Laid document name directory before)

theorem kept_stored : FileTree.Kept [laid.files.document] before laid.stored := by
  have made := FileTree.kept_makeDirectories before laid.place
  rw [laid.ready] at made
  exact (made.mono nofun).trans (FileTree.kept_write laid.laid)

theorem kept_beside {shown : List UInt8}
    (beside : laid.stored.write laid.files.page shown = .ok after) :
    FileTree.Kept [laid.files.document, laid.files.page] before after :=
  (laid.kept_stored.mono (List.forall_mem_singleton.mpr List.mem_cons_self)).trans
    ((FileTree.kept_write beside).mono
      (List.forall_mem_singleton.mpr (List.mem_cons_of_mem _ List.mem_cons_self)))

/-- The path of the page can be followed, since that of the document can. -/
theorem locate_page : ∃ location, laid.stored.locate laid.files.page = .ok location := by
  rcases FileTree.locate_of_write laid.laid with ⟨location, located⟩
  exact FileTree.locate_sibling located
    (fun front => by
      rw [← String.append_assoc, ← String.append_assoc]
      exact Text.alike_endings _)
    (name_ne_parent _ (by decide)) (name_ne_parent _ (by decide))

/-- Nothing has kept a page from being written that lies in its file. -/
theorem not_pageFault {title : String} {shown : List UInt8}
    (titled : pageTitle laid.members = .ok title)
    (rendered : Text.encodeUtf8OrHalves (Page.render laid.bareName title) = .ok shown)
    (beside : laid.stored.write laid.files.page shown = .ok after) : ¬ laid.PageFault := by
  rintro (⟨untitled⟩ | ⟨other, unwritable⟩ | ⟨occupied⟩)
  · cases titled.symm.trans untitled
  · cases titled.symm.trans other
    cases rendered.symm.trans unwritable
  · exact FileTree.not_isDirectory_of_write beside occupied

/-- The part of a write that follows on the document. -/
def writePage : FileRun ChartFiles := do
  Host.perform (.info .files ("Writing HTML loader to " ++ laid.files.page.toText))
  let title ← Host.settle (pageTitle laid.members)
  Host.writeFile laid.files.page (Page.render laid.bareName title)
  return laid.files

theorem writePage_fails (failed : laid.writePage.Fails laid.stored failure after) :
    laid.PageFault ∧ laid.HalfWritten after := by
  unfold writePage at failed
  have failed := fails_info_bind_iff.mp failed
  rcases fails_settle_bind_iff.mp failed with ⟨untitled, rfl⟩ | ⟨title, titled, failed⟩
  · exact ⟨.title untitled, FileTree.read_write laid.laid, .inl laid.kept_stored⟩
  rcases fails_bind_iff.mp failed with failed | ⟨_, _, _, impossible⟩
  · rcases writeFile_fails failed with ⟨refused, rfl⟩ | ⟨halves, unwritable, beside⟩
    · rcases laid.locate_page with ⟨location, located⟩
      exact ⟨.directory (FileTree.isDirectory_of_refused located (refused [])),
        FileTree.read_write laid.laid, .inl laid.kept_stored⟩
    · exact ⟨.halves titled unwritable, laid.read_document beside,
        .inr ⟨FileTree.read_write beside, laid.kept_beside beside⟩⟩
  · cases not_fails_pure _ impossible

end Laid

/-- A write that returns has written both files. -/
theorem bothWritten_of_returns {files : ChartFiles}
    (returned : FileRun.Returns (write document name directory) before files after) :
    ∃ laid : Laid document name directory before, ¬ laid.PageFault ∧ files = laid.files ∧
      laid.BothWritten after := by
  rcases write_returns_iff.mp returned with ⟨laid, title, shown, titled, rendered, beside, given⟩
  exact ⟨laid, laid.not_pageFault titled rendered beside, given, laid.read_document beside,
    ⟨title, shown, titled, rendered, FileTree.read_write beside⟩, laid.kept_beside beside⟩

/-- A write fails before the document is laid, and then all files are as they were, or at the page. -/
theorem write_fails
    (failed : FileRun.Fails (write document name directory) before failure after) :
    IsEmpty (Laid document name directory before) ∧ FileTree.Kept [] before after ∨
      ∃ laid : Laid document name directory before,
        laid.writePage.Fails laid.stored failure after := by
  unfold write at failed
  rcases fails_settle_bind_iff.mp failed with ⟨unnamed, rfl⟩ | ⟨bareName, named, failed⟩
  · exact .inl ⟨⟨fun laid => nomatch laid.named.symm.trans unnamed⟩, .refl _ _⟩
  rcases fails_settle_bind_iff.mp failed with ⟨undirected, rfl⟩ | ⟨place, directed, failed⟩
  · exact .inl ⟨⟨fun laid => nomatch laid.directed.symm.trans undirected⟩, .refl _ _⟩
  have kept := FileTree.kept_makeDirectories before place
  rcases fails_bind_iff.mp failed with unready | ⟨_, made, ready, failed⟩
  · have unready := fails_makeDirectories_iff.mp unready
    rw [unready] at kept
    refine .inl ⟨⟨fun laid => ?_⟩, kept⟩
    cases laid.directed.symm.trans directed
    cases laid.ready.symm.trans unready
  have ready := returns_makeDirectories_iff.mp ready
  rw [ready] at kept
  rcases fails_settle_bind_iff.mp failed with ⟨absent, rfl⟩ | ⟨members, given, failed⟩
  · exact .inl ⟨⟨fun laid => nomatch laid.given.symm.trans absent⟩, kept⟩
  have failed := fails_info_bind_iff.mp failed
  rcases fails_settle_bind_iff.mp failed with ⟨unwritten, rfl⟩ | ⟨text, written, failed⟩
  · refine .inl ⟨⟨fun laid => ?_⟩, kept⟩
    cases laid.given.symm.trans given
    cases laid.written.symm.trans unwritten
  rcases fails_bind_iff.mp failed with unlaid | ⟨_, stored, laid, failed⟩
  · rcases writeFile_fails unlaid with ⟨refused, rfl⟩ | ⟨halves, unwritable, _⟩
    · refine .inl ⟨⟨fun laid => ?_⟩, kept⟩
      cases laid.named.symm.trans named
      cases laid.directed.symm.trans directed
      cases laid.ready.symm.trans ready
      cases laid.laid.symm.trans (refused _)
    · -- the text of a document is ASCII
      have encoded := Text.encodeUtf8OrHalves_ascii (Json.ascii_toText written)
      cases encoded.symm.trans unwritable
  · rcases writeFile_returns_iff.mp laid with ⟨bytes, encoded, laid⟩
    exact .inr ⟨⟨bareName, place, members, text, bytes, made, stored, named, directed, ready, given,
      written, encoded, laid⟩, failed⟩

/-- Unless something keeps the page from being written where the document is laid, a write returns
with both files written, or fails and leaves all files as they were. Otherwise it fails and leaves
the document without its page. -/
theorem write_ends (document name directory : Value) (before : FileTree) :
    ((∀ laid : Laid document name directory before, ¬ laid.PageFault) →
      (∃ (laid : Laid document name directory before) (after : FileTree),
        FileRun.Returns (write document name directory) before laid.files after ∧
          laid.BothWritten after) ∨
      IsEmpty (Laid document name directory before) ∧ ∃ failure after,
        FileRun.Fails (write document name directory) before failure after ∧
          FileTree.Kept [] before after) ∧
    ∀ laid : Laid document name directory before, laid.PageFault → ∃ failure after,
      FileRun.Fails (write document name directory) before failure after ∧
        laid.HalfWritten after := by
  rcases returns_or_fails (write document name directory) before with
    ⟨files, after, returned⟩ | ⟨failure, after, failed⟩
  · rcases bothWritten_of_returns returned with ⟨laid, sound, rfl, both⟩
    exact ⟨fun _ => .inl ⟨laid, after, returned, both⟩,
      fun other fault => absurd (Subsingleton.elim other laid ▸ fault) sound⟩
  · rcases write_fails failed with ⟨none, kept⟩ | ⟨laid, failedPage⟩
    · exact ⟨fun _ => .inr ⟨none, failure, after, failed, kept⟩, fun laid => none.elim laid⟩
    · rcases laid.writePage_fails failedPage with ⟨fault, half⟩
      exact ⟨fun sound => absurd fault (sound laid),
        fun other _ => Subsingleton.elim laid other ▸ ⟨failure, after, failed, half⟩⟩

/-- Half a surrogate pair, which has a place in JSON but no bytes. -/
def halfTitle : String := Text.ofUnits [.half ⟨0, by decide⟩]

def halfTitled : Members := [("title", .text halfTitle)]

/-- The document lies in a directory where nothing was, beside an empty page. -/
theorem write_halfTitled :
    ¬ ((∃ files after, FileRun.Returns
          (write (.map halfTitled) (.text "chart") (.text ".")) {} files after) ∨
        ∃ failure after, FileRun.Fails
            (write (.map halfTitled) (.text "chart") (.text ".")) {} failure after ∧
          FileTree.Kept [] {} after) := by
  have written : Json.toText (.map halfTitled) = .ok "\x7b\n  \"title\": \"\\ud800\"\n\x7d" :=
    eq_ok_of_toOption (by decide +kernel)
  have titled : pageTitle halfTitled = .ok halfTitle :=
    eq_ok_of_toOption (by decide +kernel)
  have halves : (Text.firstHalves? (fun _ => false) 0
      (Text.units (Page.render "chart" halfTitle))).isSome = true := by
    unfold Text.units
    rw [Page.toList_render]
    decide +kernel
  rintro (⟨files, after, returned⟩ | ⟨failure, after, failed, kept⟩)
  · rcases write_returns_iff.mp returned with ⟨laid, title, shown, given, rendered, _⟩
    cases Subsingleton.elim laid (laidHere written)
    cases given.symm.trans titled
    exact Option.isSome_iff_ne_none.mp halves (Text.firstHalves?_of_encoded rendered)
  · rcases write_fails failed with ⟨none, _⟩ | ⟨laid, failed⟩
    · exact none.elim (laidHere written)
    · have read := (laid.writePage_fails failed).2.document
      unfold FileTree.read at read
      rcases (bind_eq_ok_iff _ _ _).mp read with ⟨location, _, read⟩
      split at read
      · cases read
      · cases read
      · next content there =>
          have before := (kept.files location nofun content).mp there
          revert before
          unfold FileTree.entryAt?
          split <;> exact nofun

end ChartFiles

end ChartCompiler
