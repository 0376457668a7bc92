import DebugRecovery.Proofs.Files.Change
import DebugRecovery.Session

/-!
# What entries do to a session

An entry is printed, collected, or written to the file of the log. So whatever is
recorded, logging itself stays as it is, and of the files none but the one of the
log can change; before a log is open, no file changes at all. Opening a log
touches one file, and none when it fails.
-/

set_option autoImplicit false

namespace DebugRecovery.Session

variable {log : Place → Prop} {before between after session later : Session} {directory : Path}
  {verbose : Bool}

@[simp] theorem handle_logging (entry : Entry) (session : Session) (handler : Handler) :
    (session.handle entry handler).logging = session.logging := by
  cases handler with
  | collection => rfl
  | console least =>
      simp only [handle]
      split
      · rfl
      · rfl
  | file path => rfl

theorem handle_all_logging (entry : Entry) (handlers : List Handler) (session : Session) :
    (handlers.foldl (handle entry) session).logging = session.logging := by
  induction handlers generalizing session with
  | nil => rfl
  | cons handler handlers induction => rw [List.foldl_cons, induction, handle_logging]

@[simp] theorem record_logging (entry : Entry) (session : Session) :
    (session.record entry).logging = session.logging := by
  unfold record
  split
  · split
    · rfl
    · rfl
  · exact handle_all_logging entry _ session

@[simp] theorem record_all_logging (journal : Journal) (session : Session) :
    (session.recordAll journal).logging = session.logging := by
  unfold recordAll
  induction journal generalizing session with
  | nil => rfl
  | cons entry journal induction => rw [List.foldl_cons, induction, record_logging]

/-- Every file that entries go to is at one of the places. -/
def LogsTo (log : Place → Prop) (session : Session) : Prop :=
  ∀ path, Handler.file path ∈ session.logging.handlers →
    ∃ place, session.files.locate path = .ok place ∧ log place

/-- From one session to the other entries were recorded and things printed: no file has changed but
at places of the log. -/
structure Quiet (log : Place → Prop) (before after : Session) : Prop where
  files : FileTree.Spares log before.files after.files
  logging : after.logging = before.logging
  clock : after.clock = before.clock

theorem quiet_refl (log : Place → Prop) (session : Session) : Quiet log session session where
  files := FileTree.spares_refl log session.files
  logging := rfl
  clock := rfl

theorem quiet_trans (first : Quiet log before between) (second : Quiet log between after) :
    Quiet log before after where
  files := FileTree.spares_trans first.files second.files
  logging := second.logging.trans first.logging
  clock := second.clock.trans first.clock

theorem logs_to_quiet (logs : LogsTo log before) (quiet : Quiet log before after) :
    LogsTo log after := by
  intro path attached
  rw [quiet.logging] at attached
  obtain ⟨place, located, inside⟩ := logs path attached
  exact ⟨place, FileTree.locate_spared quiet.files located, inside⟩

theorem append_line_spares {path : Path} {place : Place} {files : FileTree} (line : String)
    (located : files.locate path = .ok place) (inside : log place) :
    FileTree.Spares log files (appendLine path line files) := by
  have written : FileTree.Spares log files
      (FileTree.leftBy (FileTree.append path (Text.Utf8.encode (line ++ "\n")) files)) := by
    refine FileTree.spares_wider (FileTree.write_spares path id _ files) fun wanted found => ?_
    rw [located] at found
    cases found
    exact inside
  unfold appendLine
  split
  · rename_i done left ran
    rwa [ran] at written
  · rename_i error left ran
    rwa [ran] at written

theorem handle_quiet (entry : Entry) {handler : Handler} (logs : LogsTo log session)
    (attached : handler ∈ session.logging.handlers) :
    Quiet log session (session.handle entry handler) := by
  cases handler with
  | collection => exact ⟨FileTree.spares_refl log _, rfl, rfl⟩
  | console least =>
      simp only [handle]
      split
      · exact ⟨FileTree.spares_refl log _, rfl, rfl⟩
      · exact quiet_refl log session
  | file path =>
      obtain ⟨place, located, inside⟩ := logs path attached
      exact ⟨append_line_spares _ located inside, rfl, rfl⟩

theorem handle_all_quiet (entry : Entry) (handlers : List Handler) (logs : LogsTo log session)
    (attached : ∀ handler ∈ handlers, handler ∈ session.logging.handlers) :
    Quiet log session (handlers.foldl (handle entry) session) := by
  induction handlers generalizing session with
  | nil => exact quiet_refl log session
  | cons handler handlers induction =>
      have first := handle_quiet entry logs (attached handler (by simp))
      refine quiet_trans first (induction (logs_to_quiet logs first) fun other further => ?_)
      rw [first.logging]
      exact attached other (by simp [further])

theorem record_quiet (entry : Entry) (logs : LogsTo log session) :
    Quiet log session (session.record entry) := by
  unfold record
  split
  · split
    · exact ⟨FileTree.spares_refl log _, rfl, rfl⟩
    · exact quiet_refl log session
  · exact handle_all_quiet entry _ logs fun handler attached => attached

theorem record_all_quiet (journal : Journal) (logs : LogsTo log session) :
    Quiet log session (session.recordAll journal) := by
  unfold recordAll
  induction journal generalizing session with
  | nil => exact quiet_refl log session
  | cons entry journal induction =>
      have first := record_quiet entry logs
      exact quiet_trans first (induction (logs_to_quiet logs first))

def withErrors (errors : String) (session : Session) : Session := { session with errors }

/-- While no handler is attached, an entry can only be printed as an error. -/
theorem record_unheard (entry : Entry) (unheard : session.logging.handlers = []) :
    ∃ errors, session.record entry = session.withErrors errors := by
  simp only [record, unheard]
  split
  · exact ⟨session.errors ++ (entry.text ++ "\n"), rfl⟩
  · exact ⟨session.errors, rfl⟩

theorem record_all_unheard (journal : Journal) (unheard : session.logging.handlers = []) :
    ∃ errors, session.recordAll journal = session.withErrors errors := by
  unfold recordAll
  induction journal generalizing session with
  | nil => exact ⟨session.errors, rfl⟩
  | cons entry journal induction =>
      obtain ⟨first, told⟩ := record_unheard entry unheard
      obtain ⟨errors, further⟩ := @induction (session.withErrors first) unheard
      rw [List.foldl_cons, told, further]
      exact ⟨errors, rfl⟩

/-- Why no log can be opened: its directory cannot be made, or its file not be written. -/
inductive LogRefused (files : FileTree) (directory : Path) (started : Moment)
    (error : FileError) : Prop where
  | directory (left : FileTree)
      (failed : FileTree.makeDirectories directory files = .error error left) :
      LogRefused files directory started error
  | file (ready left : FileTree)
      (made : FileTree.makeDirectories directory files = .ok () ready)
      (failed : FileTree.append (directory.child (logName started)) .empty ready =
        .error error left) :
      LogRefused files directory started error

theorem open_log_error_iff (closed : session.logging.isOpen = false) {error : FileError} :
    (∃ later, openLog directory verbose session = .error error later) ↔
      LogRefused session.files directory session.started error := by
  simp only [openLog, closed]
  constructor
  · rintro ⟨later, failed⟩
    split at failed
    · contradiction
    split at failed
    · rename_i problem left unmade
      cases failed
      exact .directory left unmade
    rename_i done ready made
    split at failed
    · rename_i problem left unwritten
      cases failed
      exact .file ready left made unwritten
    · contradiction
  · intro refused
    cases refused with
    | directory left failed => simp [failed]
    | file ready left made failed => simp [made, failed]

/-- A log that cannot be opened leaves directories at most, and no file to write to. -/
theorem open_log_error {error : FileError} (changed : Place → Prop)
    (unopened : session.logging = {})
    (failed : openLog directory verbose session = .error error later) :
    FileTree.Spares changed session.files later.files ∧ LogsTo changed later := by
  simp only [openLog, unopened] at failed
  have made := FileTree.make_directories_spares changed directory session.files
  split at failed
  · contradiction
  split at failed
  · rename_i problem left unmade
    rw [unmade] at made
    cases failed
    refine ⟨made, fun path attached => ?_⟩
    simp at attached
  rename_i done ready finished
  rw [finished] at made
  split at failed
  · rename_i problem left unwritten
    cases failed
    rw [FileTree.append_nothing_error unwritten]
    refine ⟨made, fun path attached => ?_⟩
    simp at attached
  · contradiction

/-- The log of a session is open under a path, and the path leads to a place. -/
structure LogAt (path : Path) (place : Place) (session : Session) : Prop where
  current : session.logging.path = some path
  located : session.files.locate path = .ok place
  logs : LogsTo (· = place) session

theorem log_at_quiet {path : Path} {place : Place} (held : LogAt path place before)
    (quiet : Quiet (· = place) before after) : LogAt path place after where
  current := by rw [quiet.logging, held.current]
  located := FileTree.locate_spared quiet.files held.located
  logs := logs_to_quiet held.logs quiet

/-- A log is where it was after any change of the files. -/
theorem log_at_spared {path : Path} {place : Place} {changed : Place → Prop} {files : FileTree}
    (held : LogAt path place session) (spared : FileTree.Spares changed session.files files) :
    LogAt path place { session with files } where
  current := held.current
  located := FileTree.locate_spared spared held.located
  logs := by
    intro other attached
    obtain ⟨_, reached, rfl⟩ := held.logs other attached
    exact ⟨_, FileTree.locate_spared spared reached, rfl⟩

/-- A log that was opened is at a place, and no other file was touched. -/
theorem open_log_ok (closed : session.logging.isOpen = false)
    (finished : openLog directory verbose session = .ok () later) :
    ∃ place, LogAt (directory.child (logName session.started)) place later ∧
      FileTree.Spares (· = place) session.files later.files ∧ later.clock = session.clock := by
  simp only [openLog, closed] at finished
  split at finished
  · contradiction
  split at finished
  · contradiction
  rename_i done ready made
  split at finished
  · contradiction
  rename_i appended files written
  cases finished
  have above := FileTree.make_directories_spares (fun _ => False) directory session.files
  rw [made] at above
  obtain ⟨place, located, touched⟩ := FileTree.append_ok_spares written
  have started : LogAt (directory.child (logName session.started)) place { session with
      files, logging := ⟨true, some (directory.child (logName session.started)),
        [.console (consoleLevel verbose), .file (directory.child (logName session.started))],
        [.console (consoleLevel verbose), .file (directory.child (logName session.started))]⟩ } := by
    refine ⟨rfl, located, fun path attached => ?_⟩
    obtain rfl : path = directory.child (logName session.started) := by simpa using attached
    exact ⟨place, located, rfl⟩
  have quiet := record_all_quiet (openedJournal (directory.child (logName session.started)) verbose)
    started.logs
  refine ⟨place, log_at_quiet started quiet, ?_, quiet.clock⟩
  refine FileTree.spares_trans (FileTree.spares_wider above fun _ never => never.elim) ?_
  exact FileTree.spares_trans touched quiet.files

end DebugRecovery.Session
