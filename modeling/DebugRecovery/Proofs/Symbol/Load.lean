import DebugRecovery.Proofs.Files
import DebugRecovery.Proofs.Symbol.Table

/-!
# What loading a table gives

A document is read as the table that it describes, or it is refused for its
first defect. Loading adds the ways to miss the document. A file that cannot be
opened and a text that is not JSON are failures of the configuration, as every
defect of the document is. The other ways to miss it are not told as such: a zero
in the path, content that is not UTF-8, and a limit of the reader that is met
before any mistake.
-/

set_option autoImplicit false

namespace DebugRecovery

namespace QueryTable

variable {files : FileTree} {path : Path}

/-- What is read of a text with line ends of any kind. -/
def readText (written : String) (limits : Json.Limits := {}) : Except Json.Misreading Json :=
  Json.read (String.ofList (Text.unifyNewlines written.toList)) limits

/-- The path leads to a file that holds the document in UTF-8. -/
def Holds (files : FileTree) (path : Path) (document : Json) : Prop :=
  ∃ written, files.read path = .ok (Text.Utf8.encode written) ∧
    readText written (readLimits files) = .ok document

/-- The ways to miss the document that are told as failures of the configuration. -/
inductive Missed (files : FileTree) (path : Path) : Failure → Prop where
  | file (error : FileError) (failed : files.read path = .error error)
      (unmarked : path.hasZero = false) : Missed files path (unreadable path error.message)
  | text (written : String) (misreading : Json.Misreading)
      (opened : files.read path = .ok (Text.Utf8.encode written))
      (misread : readText written (readLimits files) = .error misreading)
      (mistaken : stopped? misreading.mistake = none) :
      Missed files path (unreadable path
        (misreading.message (String.ofList (Text.unifyNewlines written.toList))))

/-- The ways to miss the document that are told as they are. -/
inductive Escapes (files : FileTree) (path : Path) : Abort → Prop where
  | zero (marked : path.hasZero = true) : Escapes files path (.value "embedded null byte")
  | encoding (content : ByteArray) (fault : Text.Utf8.Fault)
      (opened : files.read path = .ok content)
      (faulty : Text.Utf8.decode content = .error fault) : Escapes files path (.encoding fault)
  | limit (written : String) (misreading : Json.Misreading) (abort : Abort)
      (opened : files.read path = .ok (Text.Utf8.encode written))
      (misread : readText written (readLimits files) = .error misreading)
      (stopped : stopped? misreading.mistake = some abort) : Escapes files path abort

/-- No zero stands in the path, and a file that it leads to is UTF-8, in which no limit of the reader
is met. -/
structure Legible (files : FileTree) (path : Path) : Prop where
  unmarked : path.hasZero = false
  encoded : ∀ content, files.read path = .ok content → ∃ written, content = Text.Utf8.encode written
  bounded : ∀ written misreading, files.read path = .ok (Text.Utf8.encode written) →
    readText written (readLimits files) = .error misreading → stopped? misreading.mistake = none

/-- The outcome is a table or a failure of the configuration. -/
def Configured (outcome : Except Abort QueryTable) : Prop :=
  (∃ table, outcome = .ok table) ∨ ∃ detail, outcome = .error (.failure (.configuration detail))

/-- Whatever limits there are, they are the only difference between two readings. -/
theorem read_document_of_read {document : Json} {limits : Json.Limits} {written : String}
    (opened : files.read path = .ok (Text.Utf8.encode written))
    (read : readText written limits = .ok document) :
    readDocument files path limits = .ok document := by
  have decoded := (Text.Utf8.decode_ok_iff _ written).mpr rfl
  rw [readText] at read
  simp only [readDocument, opened, fileText, decoded, except_ok_bind, read]

theorem read_document_of_misread {limits : Json.Limits} {written : String}
    {misreading : Json.Misreading} (opened : files.read path = .ok (Text.Utf8.encode written))
    (misread : readText written limits = .error misreading) :
    readDocument files path limits = .error (QueryTable.misread path
      (String.ofList (Text.unifyNewlines written.toList)) misreading) := by
  have decoded := (Text.Utf8.decode_ok_iff _ written).mpr rfl
  rw [readText] at misread
  simp only [readDocument, opened, fileText, decoded, except_ok_bind, misread]

theorem read_document_of_holds {document : Json} (holds : Holds files path document) :
    readDocument files path (readLimits files) = .ok document := by
  obtain ⟨written, opened, read⟩ := holds
  exact read_document_of_read opened read

theorem read_document_of_missed {failure : Failure} (missed : Missed files path failure) :
    readDocument files path (readLimits files) = .error (.failure failure) := by
  cases missed with
  | file error failed unmarked =>
      rcases FileTree.read_error failed with ⟨marked, _⟩ | ⟨_, asked⟩
      · rw [unmarked] at marked
        contradiction
      · simp only [readDocument, failed, Abort.of_file_failure_asked asked]
  | text written misreading opened misread mistaken =>
      rw [read_document_of_misread opened misread, QueryTable.misread, mistaken]
      rfl

theorem read_document_of_escape {abort : Abort} (escapes : Escapes files path abort) :
    readDocument files path (readLimits files) = .error abort := by
  cases escapes with
  | zero marked =>
      rw [readDocument, FileTree.read_of_zero marked]
      rfl
  | encoding content fault opened faulty =>
      simp only [readDocument, opened, fileText, faulty]
      rfl
  | limit written misreading abort opened misread stopped =>
      rw [read_document_of_misread opened misread, QueryTable.misread, stopped]
      rfl

/-- The document is there, or it is missed in one of the five ways. -/
theorem held_or_missed (files : FileTree) (path : Path) :
    (∃ document, Holds files path document) ∨ (∃ failure, Missed files path failure) ∨
      ∃ abort, Escapes files path abort := by
  cases opened : files.read path with
  | error error =>
      cases marked : path.hasZero with
      | false => exact Or.inr (Or.inl ⟨_, .file error opened marked⟩)
      | true => exact Or.inr (Or.inr ⟨_, .zero marked⟩)
  | ok content =>
      cases decoded : Text.Utf8.decode content with
      | error fault => exact Or.inr (Or.inr ⟨_, .encoding content fault opened decoded⟩)
      | ok written =>
          obtain rfl := (Text.Utf8.decode_ok_iff content written).mp decoded
          cases read : readText written (readLimits files) with
          | ok document => exact Or.inl ⟨document, written, opened, read⟩
          | error misreading =>
              cases stopped : stopped? misreading.mistake with
              | none =>
                  exact Or.inr (Or.inl ⟨_, .text written misreading opened read stopped⟩)
              | some abort =>
                  exact Or.inr (Or.inr ⟨_, .limit written misreading abort opened read stopped⟩)

theorem missed_configured {failure : Failure} (missed : Missed files path failure) :
    ∃ detail, failure = .configuration detail := by
  cases missed <;> exact ⟨_, rfl⟩

/-- No limit of the reader is told as a failure. -/
theorem stopped_not_failure {mistake : Json.Mistake} {abort : Abort}
    (stopped : stopped? mistake = some abort) (failure : Failure) : abort ≠ .failure failure := by
  cases mistake <;> cases stopped <;> simp

theorem escape_not_failure {abort : Abort} (escapes : Escapes files path abort)
    (failure : Failure) : abort ≠ .failure failure := by
  cases escapes with
  | zero marked => simp
  | encoding content fault opened faulty => simp
  | limit written misreading abort opened misread stopped =>
      exact stopped_not_failure stopped failure

theorem legible_iff : Legible files path ↔ ∀ abort, ¬ Escapes files path abort := by
  constructor
  · intro legible abort escapes
    cases escapes with
    | zero marked => simp [legible.unmarked] at marked
    | encoding content fault opened faulty =>
        obtain ⟨written, same⟩ := legible.encoded content opened
        rw [(Text.Utf8.decode_ok_iff content written).mpr same] at faulty
        contradiction
    | limit written misreading abort opened misread stopped =>
        rw [legible.bounded written misreading opened misread] at stopped
        contradiction
  · intro caught
    refine ⟨Bool.eq_false_iff.mpr fun marked => caught _ (.zero marked), ?_, ?_⟩
    · intro content opened
      cases decoded : Text.Utf8.decode content with
      | error fault => exact absurd (.encoding content fault opened decoded) (caught _)
      | ok written => exact ⟨written, (Text.Utf8.decode_ok_iff content written).mp decoded⟩
    · intro written misreading opened misread
      cases stopped : stopped? misreading.mistake with
      | none => rfl
      | some abort =>
          exact absurd (.limit written misreading abort opened misread stopped) (caught abort)

theorem load_of_holds {document : Json} (holds : Holds files path document) :
    load files (some path) =
      (ofJson document).mapError fun defect => .failure (.configuration defect.text) := by
  simp only [load, read_document_of_holds holds, except_ok_bind]
  cases ofJson document <;> rfl

theorem load_of_missed {failure : Failure} (missed : Missed files path failure) :
    load files (some path) = .error (.failure failure) := by
  rw [load, read_document_of_missed missed]
  rfl

theorem load_of_escape {abort : Abort} (escapes : Escapes files path abort) :
    load files (some path) = .error abort := by
  rw [load, read_document_of_escape escapes]
  rfl

theorem load_of_holds_configured {document : Json} (holds : Holds files path document) :
    Configured (load files (some path)) := by
  rw [load_of_holds holds]
  cases ofJson document with
  | error defect => exact Or.inr ⟨defect.text, rfl⟩
  | ok table => exact Or.inl ⟨table, rfl⟩

/-- Every outcome that is not of the configuration has escaped. -/
theorem load_configured_or_escape (files : FileTree) (path : Path) :
    Configured (load files (some path)) ∨
      ∃ abort, Escapes files path abort ∧ load files (some path) = .error abort := by
  rcases held_or_missed files path with ⟨document, holds⟩ | ⟨failure, missed⟩ | ⟨abort, escapes⟩
  · exact Or.inl (load_of_holds_configured holds)
  · obtain ⟨detail, rfl⟩ := missed_configured missed
    exact Or.inl (Or.inr ⟨detail, load_of_missed missed⟩)
  · exact Or.inr ⟨abort, escapes, load_of_escape escapes⟩

theorem escape_not_configured {abort : Abort} (escapes : Escapes files path abort) :
    ¬ Configured (load files (some path)) := by
  rw [load_of_escape escapes]
  rintro (⟨table, finished⟩ | ⟨detail, told⟩)
  · contradiction
  · exact escape_not_failure escapes _ (Except.error.inj told)

/-- Reading a document gives the table that it describes, or the first of the demands that it does
not meet; members that are not described do not matter, and loading tells the defect as a failure of
the configuration. -/
theorem document_read_as_described (document : Json) :
    (∀ table, ofJson document = .ok table ↔ Tabulates document table) ∧
      (∀ defect, ofJson document = .error defect ↔ FirstUnmet (demands document) defect) ∧
      (∀ other, Alike document other → ofJson document = ofJson other) ∧
      ∀ files path, Holds files path document →
        load files (some path) =
          (ofJson document).mapError fun defect => .failure (.configuration defect.text) := by
  refine ⟨of_json_ok_iff document, of_json_checks document, ?_, ?_⟩
  · intro other alike
    exact of_json_alike alike
  · intro files path holds
    exact load_of_holds holds

example :
    ofJson (.object [("globals", .null), ("functions", .array
      [.object [("name", .string "f"), ("relative", .integer 1)]])]) =
      .error (.entry "functions" 0 (.wrongKind "f" "relative" "bool")) := rfl

/-- An entry with one member more than those that are known. -/
def notedEntry (note : String × Json) : Json :=
  .object [("name", .string "f"), ("start_rva", .integer 16), note]

def notedDocument (note : String × Json) : Json :=
  .object [("functions", .array [notedEntry note])]

/-- A file in the working directory. -/
def pathOf (name : String) : Path := ⟨.workingDirectory, [name]⟩

def notedText : String :=
  "\x7b\"functions\": [\x7b\"name\": \"f\", \"start_rva\": 16, \"extra\": 9\x7d]\x7d"

def notedFiles : FileTree where
  nodes := [(["f.json"], .file (Text.Utf8.encode notedText)), (["g.json"], .file ⟨#[0xFF]⟩)]
  workingDirectory := []

theorem noted_file_read {name : String} {content : ByteArray}
    (known : name = "f.json" ∨ name = "g.json")
    (listed : notedFiles.nodes.lookup [name] = some (.file content)) :
    notedFiles.read (pathOf name) = .ok content := by
  have located : notedFiles.locate (pathOf name) = .ok [name] := by
    rcases known with rfl | rfl <;>
      exact FileTree.locate_name FileTree.locate_here rfl rfl (by simp) (by decide) (by decide)
        (by decide)
  exact (FileTree.read_ok_iff _ _ _).mpr ⟨[name], located, rfl, Or.inl listed⟩

theorem noted_text_file_read :
    notedFiles.read (pathOf "f.json") = .ok (Text.Utf8.encode notedText) :=
  noted_file_read (.inl rfl) rfl

theorem noted_text_read :
    readText notedText (readLimits notedFiles) = .ok (notedDocument ("extra", .integer 9)) := by
  rw [readText, Json.read, String.toList_ofList, notedText]
  simp only [String.reduceToList]
  rfl

theorem noted_document_held :
    Holds notedFiles (pathOf "f.json") (notedDocument ("extra", .integer 9)) :=
  ⟨notedText, noted_text_file_read, noted_text_read⟩

theorem noted_documents_alike :
    Alike (notedDocument ("extra", .integer 9)) (notedDocument ("note", .null)) := by
  have entries : SymbolQuery.Alike (notedEntry ("extra", .integer 9)) (notedEntry ("note", .null)) := by
    refine Or.inr ⟨⟨_, rfl⟩, ⟨_, rfl⟩, fun key known => ?_⟩
    simp only [SymbolQuery.knownKeys, List.mem_cons, List.not_mem_nil, or_false] at known
    rcases known with rfl | rfl | rfl | rfl | rfl | rfl | rfl <;> rfl
  refine Or.inr ⟨⟨_, rfl⟩, ⟨_, rfl⟩, fun part listed => ?_⟩
  rcases List.mem_pair.mp listed with rfl | rfl
  · exact Or.inr ⟨_, _, rfl, rfl, .cons entries .nil⟩
  · exact Or.inl rfl

theorem noted_document_read :
    Alike (notedDocument ("extra", .integer 9)) (notedDocument ("note", .null)) ∧
      ofJson (notedDocument ("extra", .integer 9)) = ofJson (notedDocument ("note", .null)) ∧
      Holds notedFiles (pathOf "f.json") (notedDocument ("extra", .integer 9)) ∧
      load notedFiles (some (pathOf "f.json")) =
        .ok { functions := [{ name := "f", startRva := 16 }] } := by
  obtain ⟨_, _, alike, loaded⟩ := document_read_as_described (notedDocument ("extra", .integer 9))
  exact ⟨noted_documents_alike, alike _ noted_documents_alike, noted_document_held,
    loaded notedFiles (pathOf "f.json") noted_document_held⟩

/-- Loading gives a table or a failure of the configuration exactly when the path is legible, if
there is one; otherwise it ends in the zero, in the first faulty run of bytes or at the limit of the
reader. -/
theorem load_configured_iff (files : FileTree) (path : Option Path) :
    (Configured (load files path) ↔ ∀ place, path = some place → Legible files place) ∧
      ∀ abort, load files path = .error abort →
        (∃ detail, abort = .failure (.configuration detail)) ∨
          ∃ place, path = some place ∧ Escapes files place abort := by
  cases path with
  | none =>
      have empty : load files none = .ok {} := rfl
      constructor
      · simp [Configured, empty]
      · intro abort failed
        contradiction
  | some place =>
      simp only [Option.some.injEq, forall_eq', exists_eq_left']
      rcases load_configured_or_escape files place with configured | ⟨abort, escapes, told⟩
      · constructor
        · refine iff_of_true configured (legible_iff.mpr fun abort escapes => ?_)
          exact escape_not_configured escapes configured
        · intro abort failed
          rcases configured with ⟨table, finished⟩ | ⟨detail, failure⟩
          · rw [finished] at failed
            contradiction
          · rw [failure] at failed
            exact Or.inl ⟨detail, (Except.error.inj failed).symm⟩
      · constructor
        · refine iff_of_false (escape_not_configured escapes) fun legible => ?_
          exact legible_iff.mp legible abort escapes
        · intro other failed
          rw [told] at failed
          obtain rfl := Except.error.inj failed
          exact Or.inr escapes

theorem legible_path_configured :
    Legible notedFiles (pathOf "f.json") ∧
      Configured (load notedFiles (some (pathOf "f.json"))) := by
  have legible : Legible notedFiles (pathOf "f.json") := by
    refine legible_iff.mpr fun abort escapes => ?_
    have loaded := read_document_of_holds noted_document_held
    rw [read_document_of_escape escapes] at loaded
    contradiction
  refine ⟨legible, (load_configured_iff notedFiles (some (pathOf "f.json"))).1.mpr ?_⟩
  intro place same
  cases same
  exact legible

/-- A byte that starts no character, and a zero in the path, are not failures of the
configuration. -/
theorem illegible_paths_escape :
    load notedFiles (some (pathOf "g.json")) = .error (.encoding ⟨.startByte, 0xFF, 0, 1⟩) ∧
      ¬ Configured (load notedFiles (some (pathOf "g.json"))) ∧
      load notedFiles (some (pathOf "f\x00.json")) = .error (.value "embedded null byte") ∧
      ¬ Configured (load notedFiles (some (pathOf "f\x00.json"))) := by
  have faulty : Text.Utf8.decode ⟨#[0xFF]⟩ = .error ⟨.startByte, 0xFF, 0, 1⟩ := by decide +kernel
  have content : Escapes notedFiles (pathOf "g.json") (.encoding ⟨.startByte, 0xFF, 0, 1⟩) :=
    .encoding ⟨#[0xFF]⟩ _ (noted_file_read (.inr rfl) rfl) faulty
  have zero : Escapes notedFiles (pathOf "f\x00.json") (.value "embedded null byte") :=
    .zero (by simp [pathOf, Path.hasZero])
  exact ⟨load_of_escape content, escape_not_configured content, load_of_escape zero,
    escape_not_configured zero⟩

end QueryTable

end DebugRecovery
