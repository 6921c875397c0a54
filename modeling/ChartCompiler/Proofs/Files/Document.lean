import ChartCompiler.Files.Export
import ChartCompiler.Proofs.Chart.Finite
import ChartCompiler.Proofs.Chart.Json
import ChartCompiler.Proofs.Files.Frame
import ChartCompiler.Proofs.Json.Values

/-!
# The file of a document

A document that is written to a file is read back from it as it was. Its text is ASCII, so that its
bytes are its characters, and the page that is written next leaves it alone.
-/

namespace ChartCompiler

/-! ## Bytes of ASCII texts -/

namespace Text

theorem toNat_toUInt8 {character : Char} (small : character.toNat < 0x80) :
    character.toUInt8.toNat = character.toNat := by
  have byte : character.toUInt8.toNat = character.toNat % 2 ^ 8 := UInt8.toNat_ofNat'
  rw [byte, Nat.mod_eq_of_lt (Nat.lt_trans small (by decide))]

variable {characters : List Char}

theorem encodeUtf8_ascii (ascii : Json.Ascii characters) :
    encodeUtf8 (String.ofList characters) = characters.map Char.toUInt8 := by
  unfold encodeUtf8
  rw [String.toList_ofList]
  induction characters with
  | nil => rfl
  | cons first rest induction =>
      rcases List.forall_mem_cons.mp ascii with ⟨small, others⟩
      have single : String.utf8EncodeChar first = [first.toUInt8] :=
        if_pos (show first.toNat ≤ 127 from Nat.le_of_lt_succ small)
      rw [List.flatMap_cons, single, induction others]
      rfl

/-- The mark of half a surrogate pair is not ASCII. -/
theorem unitsOf_ascii (ascii : Json.Ascii characters) :
    unitsOf characters = characters.map .character := by
  fun_induction unitsOf characters with
  | case1 => rfl
  | case2 last => rfl
  | case3 second rest induction => exact absurd (ascii halfMark List.mem_cons_self) (by decide)
  | case4 first second rest other induction =>
      rw [induction (List.forall_mem_cons.mp ascii).2]
      rfl

theorem firstHalves?_characters (spared : Nat → Bool) (place : Nat) (characters : List Char) :
    firstHalves? spared place (characters.map .character) = none := by
  induction characters generalizing place with
  | nil => rfl
  | cons first rest induction => exact induction (place + 1)

/-- An ASCII text has one byte for each character. -/
theorem encodeUtf8OrHalves_ascii {text : String} (ascii : Json.Ascii text.toList) :
    encodeUtf8OrHalves text = .ok (text.toList.map Char.toUInt8) := by
  have units : units text = text.toList.map .character := unitsOf_ascii ascii
  have shown : shown text = String.ofList text.toList := by
    unfold Text.shown
    rw [units, List.map_map]
    change String.ofList (text.toList.map id) = _
    rw [List.map_id]
  unfold encodeUtf8OrHalves
  rw [units, firstHalves?_characters, shown]
  exact congrArg Except.ok (encodeUtf8_ascii ascii)

theorem decodeUtf8Parts_ascii (ascii : Json.Ascii characters) :
    decodeUtf8Parts .start (characters.map Char.toUInt8) = characters.map some := by
  induction characters with
  | nil => rfl
  | cons first rest induction =>
      rcases List.forall_mem_cons.mp ascii with ⟨small, others⟩
      have byte := toNat_toUInt8 small
      have below : first.toUInt8 < 0x80 := UInt8.lt_iff_toNat_lt.mpr (byte ▸ small)
      rw [List.map_cons, decodeUtf8Parts, if_pos below, induction others, byte, Char.ofNat_toNat]
      rfl

theorem decodeUtf8?_ascii (ascii : Json.Ascii characters) :
    decodeUtf8? (characters.map Char.toUInt8) = some (String.ofList characters) := by
  unfold decodeUtf8?
  rw [decodeUtf8Parts_ascii ascii, List.mapM_map]
  have same : characters.mapM (id ∘ some) = some characters := by
    induction characters with
    | nil => rfl
    | cons first rest induction =>
        rw [List.mapM_cons, induction (List.forall_mem_cons.mp ascii).2]
        rfl
  rw [same]
  rfl

end Text

/-! ## Computations over files that return -/

namespace FileTree

variable {before after : FileTree} {path other : FilePath} {content : List UInt8}

/-- A file may be laid wherever no directory is. -/
theorem write_eq {location : Location} (located : before.locate path = .ok location)
    (vacant : before.entryAt? location ≠ some .directory) :
    before.write path content = .ok (before.put location (.file content)) := by
  unfold write
  rw [located, ok_bind]
  split
  · next directory => exact absurd directory vacant
  · rfl

/-- What was written is read. -/
theorem read_write (written : before.write path content = .ok after) :
    after.read path = .ok content := by
  have grown := (kept_write written).toGrown
  unfold write at written
  rcases (bind_eq_ok_iff _ _ _).mp written with ⟨location, located, written⟩
  have again := grown.locate_eq located
  split at written
  · cases written
  · next vacant =>
      cases written
      have nonempty : location ≠ [] := by
        rintro rfl
        exact vacant rfl
      unfold read
      rw [again, ok_bind, entryAt?_put_self _ _ _ nonempty]
      rfl

/-- Where something was written there is a location. -/
theorem locate_of_write (written : before.write path content = .ok after) :
    ∃ location, after.locate path = .ok location := by
  have grown := (kept_write written).toGrown
  unfold write at written
  rcases (bind_eq_ok_iff _ _ _).mp written with ⟨location, located, _⟩
  exact ⟨location, grown.locate_eq located⟩

/-- An entry of a directory lies where its name leads to from there. -/
theorem locate_child {directory : FilePath} {name : String} {location : Location}
    (located : before.locate (directory.child name) = .ok location) : ∃ here,
      before.walk (if directory.root = "" then before.workingDirectory else []) directory.names =
        .ok here ∧ step here name = .ok location := by
  rcases locate_eq_ok_iff.mp located with ⟨_, here, walked, stepped⟩
  unfold FilePath.child at walked stepped
  rw [List.dropLast_concat] at walked
  rw [List.getLast?_concat] at stepped
  exact ⟨here, walked, stepped⟩

/-- Entries of a directory with different names lie in different places. -/
theorem locate_child_ne {directory : FilePath} {name other : String} {location : Location}
    (different : name ≠ other) (inside : name ≠ "..") (beside : other ≠ "..")
    (located : before.locate (directory.child name) = .ok location) :
    before.locate (directory.child other) ≠ .ok location := by
  intro again
  rcases locate_child located with ⟨here, walked, first⟩
  rcases locate_child again with ⟨there, reached, second⟩
  cases walked.symm.trans reached
  unfold step at first second
  rw [if_neg inside] at first
  rw [if_neg beside] at second
  split at first
  · cases first
  · split at second
    · cases second
    · have same := (Except.ok.inj first).trans (Except.ok.inj second).symm
      exact different (by simpa using same)

end FileTree

namespace FileRun

/-- Whether a computation over a file tree ends with a result and leaves another tree. -/
def Returns (step : FileRun α) (before : FileTree) (value : α) (after : FileTree) : Prop :=
  (step before).1.Returns value ∧ (step before).2 = after

variable {before after : FileTree}

theorem returns_bind_iff {step : FileRun α} {next : α → FileRun β} {result : β} :
    FileRun.Returns (step >>= next) before result after ↔ ∃ value middle,
      step.Returns before value middle ∧ (next value).Returns middle result after := by
  change FileRun.Returns (FileRun.bind step next) before result after ↔ _
  unfold FileRun.Returns FileRun.bind Run.Returns
  dsimp only
  cases ended : (step before).1.outcome with
  | error failure => simp
  | ok value => simp

theorem returns_perform_iff {run : Run α} {value : α} :
    FileRun.Returns (Host.perform run) before value after ↔ run.Returns value ∧ before = after :=
  Iff.rfl

theorem returns_pure_iff {value result : α} :
    FileRun.Returns (Pure.pure value) before result after ↔ value = result ∧ before = after := by
  change (Pure.pure value : Run α).Returns result ∧ before = after ↔ _
  rw [Run.returns_pure]

theorem returns_makeDirectories_iff {path : FilePath} :
    FileRun.Returns (Host.makeDirectories path) before () after ↔
      before.makeDirectories path = (.ok (), after) := by
  change (before.makeDirectories path).1 = .ok () ∧ (before.makeDirectories path).2 = after ↔ _
  rw [Prod.ext_iff]

/-- A text that has bytes is written to a file. -/
theorem writeFile_returns_iff {path : FilePath} {content : String} :
    FileRun.Returns (Host.writeFile path content) before () after ↔ ∃ bytes,
      Text.encodeUtf8OrHalves content = .ok bytes ∧ before.write path bytes = .ok after := by
  change FileRun.Returns (FileRun.writeFile path content) before () after ↔ _
  unfold FileRun.Returns FileRun.writeFile
  cases Text.encodeUtf8OrHalves content with
  | error halves =>
      dsimp only
      split <;> simp [Run.Returns, Run.fail]
  | ok bytes =>
      dsimp only
      cases laid : before.write path bytes <;> simp [laid, Run.Returns, Run.fail, Run.pure]

end FileRun

/-! ## The document of a chart -/

namespace ChartFiles

open FileRun

variable {before after : FileTree} {document name directory : Value}

/-- No file of a chart is the directory above. -/
theorem name_ne_parent (name : String) {ending : String} (long : 2 < ending.toList.length) :
    name ++ ending ≠ ".." := by
  intro same
  have lengths := congrArg (fun text => text.toList.length) same
  simp only [String.toList_append, List.length_append] at lengths
  have two : "..".toList.length = 2 := rfl
  omega

/-- The page of a chart lies beside its document. -/
theorem locate_page_ne {tree : FileTree} {place : FilePath} {name : String} {location : Location}
    (located : tree.locate (inDirectory place name).page = .ok location) :
    tree.locate (inDirectory place name).document ≠ .ok location := by
  refine FileTree.locate_child_ne ?_ (name_ne_parent name (by decide))
    (name_ne_parent name (by decide)) located
  intro same
  have endings := congrArg String.toList same
  rw [String.toList_append, String.toList_append, List.append_cancel_left_eq] at endings
  exact absurd endings (by decide)

/-- What a write has done once the document lies in its file: the name and the directory could be
used, the directory is there, and the document has a text. -/
structure Laid (document name directory : Value) (before : FileTree) where
  bareName : String
  place : FilePath
  members : Members
  text : String
  bytes : List UInt8
  /-- The tree with the directory. -/
  made : FileTree
  /-- The tree with the document. -/
  stored : FileTree
  named : Page.nameOf name = .ok bareName
  directed : directoryOf directory = .ok place
  ready : before.makeDirectories place = (.ok (), made)
  given : document.documentMembers = .ok members
  written : Json.toText (.map members) = .ok text
  encoded : Text.encodeUtf8OrHalves (text ++ "\n") = .ok bytes
  laid : made.write (inDirectory place bareName).document bytes = .ok stored

namespace Laid

def files (laid : Laid document name directory before) : ChartFiles :=
  inDirectory laid.place laid.bareName

/-- The page that is written beside a document leaves it alone. -/
theorem read_document (laid : Laid document name directory before) {shown : List UInt8}
    (beside : laid.stored.write laid.files.page shown = .ok after) :
    after.read laid.files.document = .ok laid.bytes := by
  rcases (FileTree.kept_write beside).wrote.read_eq (FileTree.read_write laid.laid) with
    kept | ⟨page, listed, same⟩
  · exact kept
  · rw [List.mem_singleton.mp listed] at same
    rcases FileTree.locate_of_write beside with ⟨location, located⟩
    exact absurd (same.symm.trans located) (locate_page_ne located)

end Laid

/-- A write returns if its document is laid and then its page. -/
theorem write_returns_iff {files : ChartFiles} :
    FileRun.Returns (write document name directory) before files after ↔
      ∃ (laid : Laid document name directory before) (title : String) (shown : List UInt8),
        pageTitle laid.members = .ok title ∧
        Text.encodeUtf8OrHalves (Page.render laid.bareName title) = .ok shown ∧
        laid.stored.write laid.files.page shown = .ok after ∧ files = laid.files := by
  unfold write
  simp only [returns_bind_iff, Host.settle, returns_perform_iff, returns_pure_iff]
  constructor
  · rintro ⟨bareName, _, ⟨named, rfl⟩, place, _, ⟨directed, rfl⟩, _, made, ready, members, _,
      ⟨given, rfl⟩, _, _, ⟨_, rfl⟩, text, _, ⟨written, rfl⟩, _, stored, laid, _, _, ⟨_, rfl⟩,
      title, _, ⟨titled, rfl⟩, _, _, shown, rfl, rfl⟩
    rcases writeFile_returns_iff.mp laid with ⟨bytes, encoded, laid⟩
    rcases writeFile_returns_iff.mp shown with ⟨shown, rendered, beside⟩
    exact ⟨⟨bareName, place, members, text, bytes, made, stored, named, directed,
      returns_makeDirectories_iff.mp ready, given, written, encoded, laid⟩, title, shown, titled,
      rendered, beside, rfl⟩
  · rintro ⟨laid, title, shown, titled, rendered, beside, rfl⟩
    exact ⟨_, _, ⟨laid.named, rfl⟩, _, _, ⟨laid.directed, rfl⟩, (), _,
      returns_makeDirectories_iff.mpr laid.ready, _, _, ⟨laid.given, rfl⟩, (), _,
      ⟨Run.returns_info _ _ _, rfl⟩, _, _, ⟨laid.written, rfl⟩, (), _,
      writeFile_returns_iff.mpr ⟨_, laid.encoded, laid.laid⟩, (), _, ⟨Run.returns_info _ _ _, rfl⟩,
      title, _, ⟨titled, rfl⟩, (), after, writeFile_returns_iff.mpr ⟨shown, rendered, beside⟩, rfl,
      rfl⟩

/-- Whether bytes are ASCII up to the end of a last line and read as a document. -/
structure Holds (bytes : List UInt8) (document : Value) : Prop where
  ascii : ∀ byte ∈ bytes, byte < 0x80
  line : bytes.getLast? = some 0x0a
  readBack : ∃ text, Text.decodeUtf8? bytes = some text ∧ Json.read text = .ok document

/-- The bytes that a document is written with hold it. -/
theorem holds_of_written {document : Value} {text : String} {bytes : List UInt8}
    (json : document.IsJson Json.nestingLimit) (finite : document.OnlyFinite)
    (scalar : document.OnlyScalar) (written : Json.toText document = .ok text)
    (encoded : Text.encodeUtf8OrHalves (text ++ "\n") = .ok bytes) : Holds bytes document := by
  have ascii := Json.ascii_toText written
  cases encoded.symm.trans (Text.encodeUtf8OrHalves_ascii ascii)
  refine ⟨List.forall_mem_map.mpr fun character inside => ?_, ?_, text ++ "\n", ?_,
    Json.read_toText json finite scalar written⟩
  · have small := ascii character inside
    exact UInt8.lt_iff_toNat_lt.mpr (Text.toNat_toUInt8 small ▸ small)
  · have ended : (text ++ "\n").toList = text.toList ++ ['\n'] := String.toList_append
    rw [ended, List.map_append, List.map_singleton, List.getLast?_concat]
    rfl
  · rw [Text.decodeUtf8?_ascii ascii, String.ofList_toList]

end ChartFiles

/-- The document of a compiled plot. -/
def Compilation.document (compilation : Compilation) : Value := .map compilation.chart.toMembers

/-- A document of finite numbers and texts of characters is written unless one of its numbers has
too many digits, and the file that it is written to is read as the document. -/
theorem PlotDescriptor.document_reads_back {descriptor : PlotDescriptor} {options : ChartOptions}
    {style : Style} {compilation : Compilation} {depth : Nat}
    (room : 2 * depth + 13 ≤ Json.nestingLimit) (given : options.IsJson depth)
    (constants : style.IsJson depth)
    (returned : (descriptor.compile options style).Returns compilation)
    (finite : compilation.document.OnlyFinite) (scalar : compilation.document.OnlyScalar) :
    (compilation.document.OnlyShort → ∃ text, Json.toText compilation.document = .ok text) ∧
      (¬ compilation.document.OnlyShort →
        Json.toText compilation.document = .error .unusableValue) ∧
      ∀ name directory before files after,
        FileRun.Returns (ChartFiles.write compilation.document name directory) before files after →
          ∃ bytes, after.read files.document = .ok bytes ∧
            ChartFiles.Holds bytes compilation.document := by
  have json : compilation.document.IsJson Json.nestingLimit :=
    (PlotDescriptor.document_isJson given constants returned).mono room
  have written := (Json.write_writtenIf json 0).map String.ofList
  refine ⟨written.written, written.refused, fun name directory before files after ended => ?_⟩
  rcases ChartFiles.write_returns_iff.mp ended with ⟨laid, _, _, _, _, beside, rfl⟩
  have text : Json.toText compilation.document = .ok laid.text := by
    have written := laid.written
    rwa [← Except.ok.inj laid.given] at written
  exact ⟨laid.bytes, laid.read_document beside,
    ChartFiles.holds_of_written json finite scalar text laid.encoded⟩

/-! ## A document in the working directory -/

/-- The text of a part that is the same on every page. -/
def Page.Part.fixed? : Part → Option String
  | .fixed text => some text
  | .name | .title => none

theorem Page.toList_render (name title : String) :
    (render name title).toList = parts.flatMap fun part => (part.render name title).toList := by
  unfold render
  rw [String.toList_join, List.flatMap_map]

/-- A page is ASCII apart from its name and its title. -/
theorem Page.ascii_render {name title : String} (named : Json.Ascii name.toList)
    (titled : Json.Ascii (escaped title).toList) : Json.Ascii (render name title).toList := by
  have fixed : ∀ text ∈ parts.filterMap Part.fixed?, Json.Ascii text.toList := by decide +kernel
  rw [toList_render]
  intro character inside
  rcases List.mem_flatMap.mp inside with ⟨part, known, member⟩
  cases part with
  | fixed text => exact fixed text (List.mem_filterMap.mpr ⟨_, known, rfl⟩) character member
  | name => exact named character member
  | title => exact titled character member

namespace ChartFiles

/-- A document that has a text is laid where nothing is. -/
def laidHere {members : Members} {text : String} (written : Json.toText (.map members) = .ok text) :
    Laid (.map members) (.text "chart") (.text ".") {} where
  bareName := "chart"
  place := .ofText "."
  members := members
  text := text
  bytes := (text ++ "\n").toList.map Char.toUInt8
  made := {}
  stored := FileTree.put {} ["chart.json"] (.file ((text ++ "\n").toList.map Char.toUInt8))
  named := eq_ok_of_toOption (by decide +kernel)
  directed := rfl
  ready := by
    unfold FileTree.makeDirectories
    rfl
  given := rfl
  written := written
  encoded := Text.encodeUtf8OrHalves_ascii (Json.ascii_toText written)
  laid := FileTree.write_eq (eq_ok_of_toOption (by decide +kernel)) (by decide)

theorem locate_page_here {members : Members} {text : String}
    (written : Json.toText (.map members) = .ok text) :
    (laidHere written).stored.locate (laidHere written).files.page = .ok ["chart.html"] := by
  have beside : FileTree.locate {} (inDirectory (.ofText ".") "chart").page =
      .ok ["chart.html"] := eq_ok_of_toOption (by decide +kernel)
  exact (FileTree.kept_write (laidHere written).laid).locate_eq beside

/-- The files of an untitled document are written where nothing is. -/
theorem write_here {members : Members} {text : String}
    (written : Json.toText (.map members) = .ok text) (untitled : members.get? "title" = none) :
    ∃ files after,
      FileRun.Returns (write (.map members) (.text "chart") (.text ".")) {} files after := by
  have page : Json.Ascii (Page.render "chart" Page.standardTitle).toList :=
    Page.ascii_render (by decide) (by decide +kernel)
  have rendered := Text.encodeUtf8OrHalves_ascii page
  have titled : pageTitle members = .ok Page.standardTitle := by
    unfold pageTitle
    rw [untitled]
  have vacant : (laidHere written).stored.entryAt? ["chart.html"] ≠ some .directory := by
    unfold laidHere
    rw [FileTree.entryAt?_put_of_ne _ _ (by decide)]
    decide
  exact ⟨_, _, write_returns_iff.mpr ⟨laidHere written, _, _, titled, rendered,
    FileTree.write_eq (locate_page_here written) vacant, rfl⟩⟩

end ChartFiles

/-- Two points, of which one lies at minus zero. -/
theorem PlotDescriptor.document_reads_back_points : ∃ compilation,
    (numericDescriptor [1.0, -0.0] [0.1, 2.0] [("geom_point", .map [])]).compile.Returns
        compilation ∧
      ∃ files after bytes,
        FileRun.Returns (ChartFiles.write compilation.document (.text "chart") (.text ".")) {} files
          after ∧
        after.read files.document = .ok bytes ∧ ChartFiles.Holds bytes compilation.document := by
  have compiled : ∃ compilation,
      (numericDescriptor [1.0, -0.0] [0.1, 2.0] [("geom_point", .map [])]).compile.Returns
          compilation ∧
        compilation.document.OnlyFinite ∧ compilation.document.OnlyScalar ∧
          compilation.document.OnlyShort ∧
          (compilation.chart.toMembers.get? "title").isNone = true := by
    decide +kernel
  rcases compiled with ⟨compilation, returned, finite, scalar, short, untitled⟩
  have options : ({} : ChartOptions).IsJson 0 := ⟨.text _, .text _, .text _, .number _, .number _⟩
  have constants : ({} : Style).IsJson 0 := Style.standard_isJson
  rcases document_reads_back (by decide) options constants returned finite scalar with
    ⟨some_, _, holds⟩
  rcases some_ short with ⟨text, written⟩
  rcases ChartFiles.write_here written (Option.isNone_iff_eq_none.mp untitled) with
    ⟨files, after, ended⟩
  rcases holds _ _ _ _ _ ended with ⟨bytes, stored, held⟩
  exact ⟨compilation, returned, files, after, bytes, ended, stored, held⟩

end ChartCompiler
