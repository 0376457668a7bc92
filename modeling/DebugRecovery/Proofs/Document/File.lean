import DebugRecovery.Proofs.DebugType
import DebugRecovery.Proofs.Document.Calls
import DebugRecovery.Proofs.Files.Change
import DebugRecovery.Proofs.Symbol.Load

/-!
# A document read back from its file

The JSON of a document has no numbers with fractions, and each of its objects
gives a name to one value only, whatever types, layouts and symbols the document
holds. So reading inverts writing on it. The file that a document is saved to
holds the written text in UTF-8, and loading takes from it the very JSON that
the document shows with the same binary. A document that is not saved leaves
every file as it was, unless writing it ended early: then its file holds the
first bytes of the text.
-/

set_option autoImplicit false

namespace DebugRecovery

namespace FileTree

variable {tree later : FileTree} {path : Path} {error : FileError}

/-- The system is asked for a directory, unless its path has a zero. -/
theorem make_directory_error (failed : makeDirectory path tree = .error error later) :
    path.hasZero = true ∧ error = ⟨.zeroInPath, path⟩ ∨
      path.hasZero = false ∧ Abort.ofUnasked? error.problem = none := by
  unfold makeDirectory at failed
  split at failed
  · rename_i problem lost
    cases failed
    rcases locate_error lost with ⟨marked, rfl⟩ | ⟨unmarked, obstacle⟩
    · exact Or.inl ⟨marked, rfl⟩
    · exact Or.inr ⟨unmarked, obstacle_asked obstacle⟩
  · rename_i place located
    refine Or.inr ⟨unmarked_of_located located, ?_⟩
    repeat' split at failed
    all_goals cases failed
    all_goals rfl

theorem ensure_directory_error (failed : ensureDirectory path tree = .error error later) :
    path.hasZero = true ∧ error = ⟨.zeroInPath, path⟩ ∨
      path.hasZero = false ∧ Abort.ofUnasked? error.problem = none := by
  unfold ensureDirectory at failed
  split at failed
  · contradiction
  · rename_i other left unmade
    split at failed
    · cases failed
      exact make_directory_error unmade
    split at failed
    · contradiction
    · cases failed
      exact make_directory_error unmade
    · rename_i unseen lost
      cases failed
      refine (make_directory_error unmade).imp ?_ ?_
      · rintro ⟨marked, _⟩
        simp [isDirectory, find?, locate, marked, FileProblem.isAbsence, Except.map] at lost
      · rintro ⟨unmarked, _⟩
        refine ⟨unmarked, ?_⟩
        unfold isDirectory find? at lost
        split at lost
        · contradiction
        · rename_i problem stuck
          split at lost
          · contradiction
          · cases lost
            rcases locate_error stuck with ⟨marked, _⟩ | ⟨_, obstacle⟩
            · rw [unmarked] at marked
              contradiction
            · exact obstacle_asked obstacle

/-- Directories are asked for unless a zero stands in their path or too many of them are missing. -/
theorem make_directories_at_error {anchor : Anchor} {waiting : Nat} {parts : List String}
    (failed : makeDirectoriesAt anchor waiting parts tree = .error error later) :
    Path.hasZero ⟨anchor, parts.reverse⟩ = true ∧ error.problem = .zeroInPath ∨
      error.problem = .tooDeep ∨ Abort.ofUnasked? error.problem = none := by
  have tried : ∀ {path tree later}, ensureDirectory path tree = .error error later →
      path.hasZero = true ∧ error.problem = .zeroInPath ∨ error.problem = .tooDeep ∨
        Abort.ofUnasked? error.problem = none := by
    intro path tree later failed
    rcases ensure_directory_error failed with ⟨marked, rfl⟩ | ⟨_, asked⟩
    · exact Or.inl ⟨marked, rfl⟩
    · exact Or.inr (Or.inr asked)
  induction parts generalizing tree waiting with
  | nil => exact tried failed
  | cons part above induction =>
      simp only [makeDirectoriesAt] at failed
      split at failed
      · contradiction
      · rename_i other left unmade
        split at failed
        · cases failed
          exact tried unmade
        split at failed
        · cases failed
          exact Or.inr (Or.inl rfl)
        split at failed
        · exact tried failed
        · refine (induction failed).imp_left ?_
          rintro ⟨marked, zero⟩
          refine ⟨?_, zero⟩
          simp only [Path.hasZero, List.any_reverse, List.any_cons] at marked ⊢
          rw [marked, Bool.or_true]

theorem make_directories_error (failed : makeDirectories path tree = .error error later) :
    path.hasZero = true ∧ error.problem = .zeroInPath ∨ error.problem = .tooDeep ∨
      Abort.ofUnasked? error.problem = none := by
  have outcome := make_directories_at_error failed
  rwa [List.reverse_reverse] at outcome

theorem write_error {keep : ByteArray → ByteArray} {more : ByteArray}
    (failed : write path keep more tree = .error error later) :
    path.hasZero = true ∧ error.problem = .zeroInPath ∨ Abort.ofUnasked? error.problem = none := by
  have written := write_written tree path keep more
  rw [failed] at written
  cases written with
  | unopened _ unopened =>
      rcases open_error unopened with ⟨marked, rfl⟩ | ⟨_, asked⟩
      · exact Or.inl ⟨marked, rfl⟩
      · exact Or.inr asked
  | short place target taken shortage located takes lacking => exact Or.inr rfl

end FileTree

namespace Document

open Json (Plain)

variable {document : Document} {files later : FileTree} {binary output : Path} {content : ByteArray}

theorem prototype_json_plain (function : Prototype) : Plain (prototypeJson function) := by
  have signature := function.signature.to_json_plain
  refine .object _ (by simp) ?_
  simp [Plain.string, signature]

theorem function_json_plain (symbol : Symbol Nat) : Plain (functionJson symbol) := by
  refine .object _ (by simp [placeMembers]) ?_
  cases symbol.typeRef <;> simp [placeMembers, Plain.string, Plain.integer, Plain.null]

theorem global_json_plain (symbol : Symbol DebugType) : Plain (globalJson symbol) := by
  refine .object _ (by simp [placeMembers]) ?_
  cases symbol.typeRef with
  | none => simp [placeMembers, Plain.string, Plain.integer, Plain.null]
  | some type => simp [placeMembers, Plain.string, Plain.integer, type.to_json_plain]

theorem to_json_plain (document : Document) (subject : Option Subject) :
    Plain (document.toJson subject) := by
  have structs := plain_map document.structs StructLayout.to_json_plain
  have prototypes := plain_map document.prototypes prototype_json_plain
  have functions := plain_map document.functions function_json_plain
  have globals := plain_map document.globals global_json_plain
  have machine : Plain (.object [("is_64", .boolean document.is64),
      ("image_base", .integer document.imageBase)]) := by
    refine .object _ (by simp) ?_
    simp [Plain.boolean, Plain.integer]
  cases subject with
  | none =>
      refine .object _ (by simp) ?_
      simp [Plain.string, structs, prototypes, functions, globals, machine]
  | some subject =>
      have described : Plain subject.toJson := by
        refine .object _ (by simp) ?_
        simp [Plain.string]
      refine .object _ (by simp) ?_
      simp [Plain.string, structs, prototypes, functions, globals, machine, described]

theorem text_filled (document : Document) (subject : Subject) :
    0 < (Text.Utf8.encode (document.text subject)).size := by
  obtain ⟨first, others, written, _⟩ :=
    Json.characters_open (document.to_json_plain (some subject)) 0
  simp [Nat.pos_iff_ne_zero, Text.Utf8.encode, text, Json.write, written]

theorem subject_ok_iff {subject : Subject} :
    Document.subject files binary = .ok subject ↔ ∃ content, files.read binary = .ok content ∧
      subject = ⟨binary.text, Digest.Sha256.text content.toList⟩ := by
  unfold Document.subject
  cases files.read binary with
  | error error => simp
  | ok content => simp [eq_comm]

/-- The ways in which a document is written over what there was: its text is written, or what should
be written of it is not, or only a beginning of it is, because the stack reaches no deeper. -/
inductive Overwriting (document : Document) (subject : Subject) (output : Path)
    (files : FileTree) : EStateM.Result FileError FileTree Unit → Prop where
  | whole (later : FileTree)
      (written : FileTree.overwrite output (Text.Utf8.encode (document.text subject)) files =
        .ok () later) : Overwriting document subject output files (.ok () later)
  | unwritten (text more : String) (error : FileError) (later : FileTree)
      (split : document.text subject = text ++ more)
      (failed : FileTree.overwrite output (Text.Utf8.encode text) files = .error error later) :
      Overwriting document subject output files (.error error later)
  | unfinished (text more : String) (later : FileTree)
      (split : document.text subject = text ++ more) (lacking : more ≠ "")
      (bounded : ∃ depth, files.limits.depth .output = some depth)
      (written : FileTree.overwrite output (Text.Utf8.encode text) files = .ok () later) :
      Overwriting document subject output files (.error ⟨.tooDeep, output⟩ later)

theorem overwrite_finished {subject : Subject}
    (finished : (document.toJson (some subject)).writeWithin (files.limits.depth .output) =
      (document.text subject, true)) :
    document.overwrite subject output files =
      FileTree.overwrite output (Text.Utf8.encode (document.text subject)) files := by
  unfold overwrite
  dsimp only
  rw [finished, Text.Utf8.encode]
  cases FileTree.overwrite output (document.text subject).toUTF8 files <;> rfl

theorem overwrite_overwriting (document : Document) (subject : Subject) (output : Path)
    (files : FileTree) :
    Overwriting document subject output files (document.overwrite subject output files) := by
  have plain := document.to_json_plain (some subject)
  rcases Json.write_within_cases plain (files.limits.depth .output) with
    finished | ⟨bounded, text, more, ended, filled, split⟩
  · rw [overwrite_finished finished]
    cases written : FileTree.overwrite output (Text.Utf8.encode (document.text subject)) files with
    | error error later =>
        exact .unwritten (document.text subject) "" error later String.append_empty.symm written
    | ok done later => exact .whole later written
  · unfold overwrite
    dsimp only
    rw [ended]
    cases written : FileTree.overwrite output text.toUTF8 files with
    | error error later => exact .unwritten text more error later split written
    | ok done later => exact .unfinished text more later split filled bounded written

theorem overwrite_ok {subject : Subject}
    (finished : document.overwrite subject output files = .ok () later) :
    FileTree.overwrite output (Text.Utf8.encode (document.text subject)) files = .ok () later := by
  have ways := overwrite_overwriting document subject output files
  rw [finished] at ways
  cases ways with
  | whole later written => exact written

/-- There is nothing too deep where no end is set. -/
theorem overwrite_unbounded (subject : Subject) (unbounded : files.limits.depth .output = none) :
    document.overwrite subject output files =
      FileTree.overwrite output (Text.Utf8.encode (document.text subject)) files := by
  refine overwrite_finished ?_
  rw [unbounded]
  rfl

/-- The ways in which saving ends: the binary is not read, the directories are not made, the output
is not written, or it is. -/
inductive Saving (document : Document) (binary output : Path) (files : FileTree) :
    EStateM.Result Abort FileTree Unit → Prop where
  | unread (error : FileError) (abort : Abort)
      (failed : Document.subject files binary = .error error)
      (told : abort = .ofFileFailure (saveFailure output) error) :
      Saving document binary output files (.error abort files)
  | unmade (subject : Subject) (error : FileError) (abort : Abort) (later : FileTree)
      (described : Document.subject files binary = .ok subject)
      (failed : FileTree.makeDirectories output.parent files = .error error later)
      (told : abort = .ofFileFailure (saveFailure output) error) :
      Saving document binary output files (.error abort later)
  | unwritten (subject : Subject) (error : FileError) (abort : Abort) (ready later : FileTree)
      (described : Document.subject files binary = .ok subject)
      (made : FileTree.makeDirectories output.parent files = .ok () ready)
      (failed : document.overwrite subject output ready = .error error later)
      (told : abort = .ofFileFailure (saveFailure output) error) :
      Saving document binary output files (.error abort later)
  | saved (subject : Subject) (ready later : FileTree)
      (described : Document.subject files binary = .ok subject)
      (made : FileTree.makeDirectories output.parent files = .ok () ready)
      (written : document.overwrite subject output ready = .ok () later) :
      Saving document binary output files (.ok () later)

theorem save_saving (document : Document) (binary output : Path) (files : FileTree) :
    Saving document binary output files (document.save binary output files) := by
  unfold save write
  cases described : Document.subject files binary with
  | error error => exact .unread error _ described rfl
  | ok subject =>
      dsimp only
      cases made : FileTree.makeDirectories output.parent files with
      | error error later => exact .unmade subject error _ later described made rfl
      | ok done ready =>
          dsimp only
          cases written : document.overwrite subject output ready with
          | error error later =>
              exact .unwritten subject error _ ready later described made written rfl
          | ok done later => exact .saved subject ready later described made written

theorem save_ok_iff :
    document.save binary output files = .ok () later ↔
      ∃ subject ready, Document.subject files binary = .ok subject ∧
        FileTree.makeDirectories output.parent files = .ok () ready ∧
        document.overwrite subject output ready = .ok () later := by
  constructor
  · intro saved
    have saving := save_saving document binary output files
    rw [saved] at saving
    cases saving with
    | saved subject ready later described made written =>
        exact ⟨subject, ready, described, made, written⟩
  · rintro ⟨subject, ready, described, made, written⟩
    simp only [save, Document.write, described, made, written]

/-- The output holds the text, unless a device took it. -/
def Stored (files : FileTree) (place : Place) (text : String) : Prop :=
  files.node? place = some (.file (Text.Utf8.encode text)) ∨ files.node? place = some .device

/-- What is written to a target is all that it holds. -/
theorem holding_stored {target : FileTree.Target} {place : Place} {text : String}
    (takes : FileTree.Takes files place target) :
    Stored (target.holding files place (Text.Utf8.encode text)) place text := by
  have inner : place ≠ [] := by
    rintro rfl
    exact FileTree.takes_not_directory takes rfl
  cases takes with
  | file content stands granted => exact Or.inl (FileTree.node_put_same inner)
  | new free granted => exact Or.inl (FileTree.node_put_same inner)
  | device stands granted => exact Or.inr stands

theorem stored_spared {changed : Place → Prop} {place : Place} {text : String}
    (spared : FileTree.Spares changed files later) (apart : ¬ changed place)
    (stored : Stored files place text) : Stored later place text :=
  stored.imp (spared.same place apart _).mpr (spared.devices place)

/-- Saving changes one file, which holds the text then. -/
theorem save_ok_spares (saved : document.save binary output files = .ok () later) :
    ∃ subject place, Document.subject files binary = .ok subject ∧
      later.locate output = .ok place ∧ FileTree.Spares (· = place) files later ∧
      Stored later place (document.text subject) := by
  obtain ⟨subject, ready, described, made, written⟩ := save_ok_iff.mp saved
  obtain ⟨place, target, located, takes, _, rfl⟩ :=
    FileTree.write_ok_iff.mp (overwrite_ok written)
  have above := FileTree.make_directories_spares (· = place) output.parent files
  rw [made] at above
  rw [FileTree.kept_nothing, ByteArray.empty_append]
  have replaced : FileTree.Spares (· = place) ready
      (target.holding ready place (Text.Utf8.encode (document.text subject))) :=
    FileTree.holding_spares _ takes rfl
  exact ⟨subject, place, described, FileTree.locate_spared replaced located,
    FileTree.spares_trans above replaced, holding_stored takes⟩

/-- One file was opened for the text, and the room for it ran out or it was nested too deep: the
file holds a beginning of the text. -/
structure CutShort (document : Document) (binary output : Path) (files later : FileTree)
    (abort : Abort) (place : Place) : Prop where
  located : later.locate output = .ok place
  spares : FileTree.Spares (· = place) files later
  held : ∃ subject part, Document.subject files binary = .ok subject ∧
    later.node? place = some (.file part) ∧
    FileTree.IsStart part (Text.Utf8.encode (document.text subject))
  cause : (∃ room, files.limits.room place = some room) ∧ (∃ cause, abort = .failure cause) ∨
    (∃ depth, files.limits.depth .output = some depth) ∧ abort = .endless

/-- What is not written whole is not written at all, or its first bytes are. -/
theorem overwrite_error_spares {content : ByteArray} {error : FileError}
    (failed : FileTree.overwrite output content files = .error error later) :
    later = files ∨ ∃ place part shortage, error = ⟨.short shortage, output⟩ ∧
      files.locate output = .ok place ∧ FileTree.Spares (· = place) files later ∧
      later.node? place = some (.file part) ∧ FileTree.IsStart part content ∧
      ∃ room, files.limits.room place = some room := by
  have written := FileTree.write_written files output (fun _ => .empty) content
  unfold FileTree.overwrite at failed
  rw [failed] at written
  cases written with
  | unopened error unopened => exact Or.inl rfl
  | short place target taken shortage located takes lacking =>
      rw [FileTree.kept_nothing] at lacking ⊢
      rw [ByteArray.empty_append]
      have inner : place ≠ [] := by
        rintro rfl
        exact FileTree.takes_not_directory takes rfl
      cases target with
      | device => exact Or.inl rfl
      | file held =>
          refine Or.inr ⟨place, taken, shortage, rfl, located, ?_, FileTree.node_put_same inner,
            FileTree.taken_start lacking, FileTree.room_of_short lacking⟩
          exact FileTree.holding_spares taken takes rfl

theorem encode_start {text more : String} (lacking : more ≠ "") :
    FileTree.IsStart (Text.Utf8.encode text) (Text.Utf8.encode (text ++ more)) := by
  refine ⟨Text.Utf8.encode more, ?_, String.toByteArray_append⟩
  simpa [Text.Utf8.encode, ← ByteArray.size_eq_zero_iff] using lacking

/-- A document that is not written leaves the files as they were, or its own file is cut short. -/
theorem overwriting_error_spares {subject : Subject} {error : FileError}
    (failed : document.overwrite subject output files = .error error later) :
    later = files ∨ ∃ place part, files.locate output = .ok place ∧
      FileTree.Spares (· = place) files later ∧ later.node? place = some (.file part) ∧
      FileTree.IsStart part (Text.Utf8.encode (document.text subject)) ∧
      ((∃ room, files.limits.room place = some room) ∧ (∃ shortage, error.problem = .short shortage) ∨
        (∃ depth, files.limits.depth .output = some depth) ∧ error.problem = .tooDeep) := by
  have ways := overwrite_overwriting document subject output files
  rw [failed] at ways
  cases ways with
  | unwritten text more error later split unwritten =>
      rcases overwrite_error_spares unwritten with
        same | ⟨place, part, shortage, rfl, located, spared, stands, start, room⟩
      · exact Or.inl same
      · refine Or.inr ⟨place, part, located, spared, stands, ?_, Or.inl ⟨room, shortage, rfl⟩⟩
        rw [split, Text.Utf8.encode, String.toUTF8, String.toByteArray_append]
        exact FileTree.start_further start _
  | unfinished text more later split lacking bounded written =>
      obtain ⟨place, target, located, takes, _, rfl⟩ := FileTree.write_ok_iff.mp written
      rw [FileTree.kept_nothing, ByteArray.empty_append]
      have inner : place ≠ [] := by
        rintro rfl
        exact FileTree.takes_not_directory takes rfl
      cases target with
      | device => exact Or.inl rfl
      | file held =>
          refine Or.inr ⟨place, _, located, FileTree.holding_spares _ takes rfl,
            FileTree.node_put_same inner, ?_, Or.inr ⟨bounded, rfl⟩⟩
          rw [split]
          exact encode_start lacking

/-- A document that is not saved leaves the files as they were, or its own file is cut short. -/
theorem save_error_spares {abort : Abort}
    (failed : document.save binary output files = .error abort later) :
    (∀ changed, FileTree.Spares changed files later) ∨
      ∃ place, CutShort document binary output files later abort place := by
  have saving := save_saving document binary output files
  rw [failed] at saving
  cases saving with
  | unread error _ failed told => exact Or.inl fun changed => FileTree.spares_refl changed files
  | unmade subject error _ _ described failed told =>
      refine Or.inl fun changed => ?_
      have above := FileTree.make_directories_spares changed output.parent files
      rwa [failed] at above
  | unwritten subject error _ ready _ described made failed told =>
      have above : ∀ changed, FileTree.Spares changed files ready := fun changed => by
        have above := FileTree.make_directories_spares changed output.parent files
        rwa [made] at above
      rcases overwriting_error_spares failed with
        rfl | ⟨place, part, located, spared, stands, start, cause⟩
      · exact Or.inl above
      · refine Or.inr ⟨place, FileTree.locate_spared spared located,
          FileTree.spares_trans (above _) spared, ⟨subject, part, described, stands, start⟩, ?_⟩
        rw [(above (· = place)).limits] at cause
        refine cause.imp (And.imp_right ?_) (And.imp_right ?_)
        · rintro ⟨shortage, short⟩
          exact ⟨_, told.trans (Abort.of_file_failure_short short)⟩
        · intro deep
          exact told.trans (Abort.of_file_failure_deep deep)

/-- A document that cannot be saved is a failure, or a zero stands in the path of its output, or it is
nested too deep, or too many directories above it are missing. -/
theorem save_error {abort : Abort} {place : Place} (there : files.locate binary = .ok place)
    (failed : document.save binary output files = .error abort later) :
    (∃ cause, abort = .failure cause) ∨
      output.hasZero = true ∧ abort = .value "embedded null byte" ∨ abort = .endless := by
  have saving := save_saving document binary output files
  rw [failed] at saving
  cases saving with
  | unread error _ unread told =>
      have missed := (subject_error_iff files binary error).mp unread
      rcases FileTree.read_error missed with ⟨marked, _⟩ | ⟨_, asked⟩
      · rw [FileTree.unmarked_of_located there] at marked
        contradiction
      · exact Or.inl ⟨_, told.trans (Abort.of_file_failure_asked asked)⟩
  | unmade subject error _ _ described unmade told =>
      rcases FileTree.make_directories_error unmade with ⟨marked, zero⟩ | deep | asked
      · refine Or.inr (Or.inl ⟨?_, told.trans (Abort.of_file_failure_zero zero)⟩)
        simp only [Path.hasZero, Path.parent, List.any_eq_true] at marked ⊢
        obtain ⟨part, inside, found⟩ := marked
        exact ⟨part, List.dropLast_subset _ inside, found⟩
      · exact Or.inr (Or.inr (told.trans (Abort.of_file_failure_deep deep)))
      · exact Or.inl ⟨_, told.trans (Abort.of_file_failure_asked asked)⟩
  | unwritten subject error _ ready _ described made unwritten told =>
      have ways := overwrite_overwriting document subject output ready
      rw [unwritten] at ways
      cases ways with
      | unwritten text more _ _ split refused =>
          rcases FileTree.write_error refused with ⟨marked, zero⟩ | asked
          · exact Or.inr (Or.inl ⟨marked, told.trans (Abort.of_file_failure_zero zero)⟩)
          · exact Or.inl ⟨_, told.trans (Abort.of_file_failure_asked asked)⟩
      | unfinished text more _ split lacking bounded written =>
          exact Or.inr (Or.inr (told.trans (Abort.of_file_failure_deep rfl)))

theorem save_of_written {subject : Subject} {ready : FileTree}
    (described : Document.subject files binary = .ok subject)
    (made : FileTree.makeDirectories output.parent files = .ok () ready)
    (unbounded : ready.limits.depth .output = none)
    (written : FileTree.overwrite output (Text.Utf8.encode (document.text subject)) ready =
      .ok () later) : document.save binary output files = .ok () later := by
  rw [← overwrite_unbounded subject unbounded] at written
  exact save_ok_iff.mpr ⟨subject, ready, described, made, written⟩

theorem save_of_unwritten {subject : Subject} {ready : FileTree} {error : FileError}
    (described : Document.subject files binary = .ok subject)
    (made : FileTree.makeDirectories output.parent files = .ok () ready)
    (unbounded : ready.limits.depth .output = none)
    (failed : FileTree.overwrite output (Text.Utf8.encode (document.text subject)) ready =
      .error error later) :
    document.save binary output files =
      .error (.ofFileFailure (saveFailure output) error) later := by
  rw [← overwrite_unbounded subject unbounded] at failed
  simp only [save, Document.write, described, made, failed]

end Document

end DebugRecovery
